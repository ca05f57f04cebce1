import Mathlib.Data.List.Forall2
import PackageClosure.Proofs.Path.Components
import PackageClosure.Proofs.Storage.Additions
import PackageClosure.Proofs.Storage.Enclosure

set_option autoImplicit false

namespace PackageClosure

theorem Path.location_ne_here (path : Path) (absolute : path.isAbsolute = true) :
    path.location ≠ .here :=
  path.location.ne_here_of_isAbsolute (path.isAbsolute_location.trans absolute)

namespace Memory

variable (memory : Memory)

theorem nodup_names_nodesIn (directory : Location) :
    ((memory.nodesIn directory).map Prod.fst).Nodup := by
  rw [nodesIn, ((List.mergeSort_perm _ _).map Prod.fst).nodup_iff, List.map_filterMap]
  refine memory.nodes.sorted.filterMap _ fun one other before left inLeft right inRight => ?_
  rintro rfl
  obtain ⟨_, named, rfl⟩ := Option.map_eq_some_iff.mp inLeft
  obtain ⟨name, isName, rfl⟩ := Option.map_eq_some_iff.mp named
  obtain ⟨_, named, same⟩ := Option.map_eq_some_iff.mp inRight
  obtain ⟨another, isAnother, rfl⟩ := Option.map_eq_some_iff.mp named
  obtain rfl : another = name := same
  rw [((directory.nameIn?_eq_some_iff _ _).mp isName).2,
    ((directory.nameIn?_eq_some_iff _ _).mp isAnother).2, KeyOrder.irrefl] at before
  cases before

theorem ordered_names_nodesIn (directory : Location) :
    ((memory.nodesIn directory).map Prod.fst).Pairwise fun left right =>
      left.bytes ≤ right.bytes := by
  rw [List.pairwise_map]
  exact Text.pairwise_mergeSort_rawLe (fun entry : Name × Node => entry.1.text) _

theorem names_entriesOf (directory : Location) :
    (memory.entriesOf directory).map DirectoryEntry.name =
      (memory.nodesIn directory).map fun entry => entry.1.shown := by
  rw [entriesOf, List.map_map]
  simp only [Function.comp_def]

theorem isOk_list_iff (path : Path) :
    (memory.list path).isOk = true ↔ memory.node? path.location = some .directory := by
  unfold Memory.list
  split <;> simp_all [Except.isOk, Except.toBool]

theorem isOk_read_iff (path : Path) :
    (memory.read path).isOk = true ↔ ∃ bytes, memory.node? path.location = some (.file bytes) := by
  unfold Memory.read
  split <;> simp_all [Except.isOk, Except.toBool]

theorem exists_list_eq_ok (path : Path) (listed : (memory.list path).isOk = true) :
    ∃ entries, memory.list path = .ok entries := by
  cases shape : memory.list path with
  | error error => simp [shape, Except.isOk, Except.toBool] at listed
  | ok entries => exact ⟨entries, rfl⟩

structure Bears (path : Path) (kind : EntryKind) : Prop where
  file : kind = .file ↔ (memory.read path).isOk = true
  directory : kind = .directory ↔ (memory.list path).isOk = true
  unreadable : (∃ reason, kind = .unreadable reason) ↔ memory.has path = false
  reason : ∀ reason, kind = .unreadable reason →
    (∃ error, memory.read path = .error error ∧ error.message = reason) ∧
      ∃ error, memory.list path = .error error ∧ error.message = reason

theorem bears_of_node (path : Path) (node : Node)
    (present : memory.node? path.location = some node) : memory.Bears path node.kind where
  file := by
    rw [isOk_read_iff, present]
    cases node <;> simp [Node.kind]
  directory := by
    rw [isOk_list_iff, present]
    cases node <;> simp [Node.kind]
  unreadable := by
    rw [Memory.has, present]
    cases node <;> simp [Node.kind]
  reason := by
    intro text same
    cases node with
    | file bytes => cases same
    | directory => cases same
    | broken reason =>
        cases same
        have read : memory.read path = .error (.unreadable text) := by rw [Memory.read, present]
        have list : memory.list path = .error (.unreadable text) := by rw [Memory.list, present]
        exact ⟨⟨_, read, rfl⟩, _, list, rfl⟩

theorem list_eq_ok (path : Path) (entries : List DirectoryEntry)
    (listed : memory.list path = .ok entries) : entries = memory.entriesOf path.location := by
  unfold Memory.list at listed
  split at listed
  · exact (Except.ok.inj listed).symm
  all_goals cases listed

theorem exists_of_mem_forall₂ {α β : Type} {related : α → β → Prop} {left : List α} {right : List β}
    (all : List.Forall₂ related left right) {one : α} (member : one ∈ left) :
    ∃ other ∈ right, related one other := by
  induction all with
  | nil => cases member
  | cons first rest ih =>
      rcases List.mem_cons.mp member with rfl | below
      · exact ⟨_, List.mem_cons_self, first⟩
      · obtain ⟨other, inside, found⟩ := ih below
        exact ⟨other, List.mem_cons_of_mem _ inside, found⟩

theorem views_agree (directory : Path) (absolute : directory.isAbsolute = true) :
    ((memory.list directory).isOk = true ↔
        memory.node? directory.normalize.location = some .directory) ∧
      ∀ entries, memory.list directory = .ok entries → ∃ names : List Name,
        (names.Pairwise fun left right => left.bytes ≤ right.bytes ∧
            (left.IsRaw → right.IsRaw → left.bytes < right.bytes)) ∧ names.Nodup ∧
          (∀ name, name ∈ names ↔
            ∃ node, memory.node? (directory.normalize.child name).location = some node) ∧
          List.Forall₂ (fun name entry => entry.name = name.shown ∧
            (name.IsText → entry.name = name) ∧
            memory.Bears (directory.child name) entry.kind) names entries := by
  have place : directory.normalize.location = directory.location := Location.location_path _
  rw [isOk_list_iff, place]
  refine ⟨Iff.rfl, fun entries listed => ?_⟩
  obtain rfl := memory.list_eq_ok directory entries listed
  have distinct := memory.nodup_names_nodesIn directory.location
  have ordered := memory.ordered_names_nodesIn directory.location
  refine ⟨(memory.nodesIn directory.location).map Prod.fst,
    ordered.imp₂ (fun left right below apart => ⟨below, fun isLeft isRight =>
      left.lt_of_bytes_le right isLeft isRight apart below⟩) distinct, distinct,
    fun name => ?_, ?_⟩
  · rw [Path.location_child, place, List.mem_map]
    constructor
    · rintro ⟨⟨_, node⟩, member, rfl⟩
      exact ⟨node, ((memory.mem_nodesIn_iff _ _ node).mp member).2⟩
    · rintro ⟨node, present⟩
      have apart := directory.location_ne_here absolute
      exact ⟨(name, node), (memory.mem_nodesIn_iff _ name node).mpr ⟨apart, present⟩, rfl⟩
  · rw [entriesOf, List.forall₂_map_left_iff, List.forall₂_map_right_iff, List.forall₂_same]
    rintro ⟨name, node⟩ member
    have present := ((memory.mem_nodesIn_iff _ name node).mp member).2
    rw [← directory.location_child name] at present
    dsimp only
    exact ⟨rfl, name.shown_of_isText, memory.bears_of_node _ node present⟩

namespace Replaced

def additions : List Addition := [.file ⟨"/a/b/c"⟩ [], .unreadable ⟨"/a/b"⟩ "gone"]

def around : Path := ⟨"/a/b/c/../.."⟩

def name : Name := ⟨"b", by decide⟩

theorem node?_around :
    (ofAdditions additions).node? around.normalize.location = some .directory := by
  rw [node?_ofAdditions]
  decide

theorem node?_name :
    (ofAdditions additions).node? (around.normalize.child name).location =
      some (.broken "gone") := by
  rw [node?_ofAdditions]
  decide

end Replaced

theorem views_agree_replaced :
    let memory := ofAdditions Replaced.additions
    Replaced.around.isAbsolute = true ∧ ∃ entries, memory.list Replaced.around = .ok entries ∧
      ∃ entry ∈ entries, entry.name = Replaced.name ∧ (∃ reason, entry.kind = .unreadable reason) ∧
        memory.has (Replaced.around.child entry.name) = false := by
  intro memory
  have absolute : Replaced.around.isAbsolute = true := by decide
  have agree := memory.views_agree Replaced.around absolute
  obtain ⟨entries, listed⟩ := exists_list_eq_ok memory _ (agree.1.mpr Replaced.node?_around)
  obtain ⟨names, _, _, present, shown⟩ := agree.2 entries listed
  have member := (present Replaced.name).mpr ⟨_, Replaced.node?_name⟩
  obtain ⟨entry, inside, _, named, bears⟩ := exists_of_mem_forall₂ shown member
  have same : entry.name = Replaced.name := named (by decide)
  have absent : memory.has (Replaced.around.child Replaced.name) = false := by
    have place := congrArg (·.child Replaced.name) (Location.location_path Replaced.around.location)
    have there := Replaced.node?_name
    rw [Path.location_child, Path.normalize, place, ← Path.location_child] at there
    rw [Memory.has, there]
  exact ⟨absolute, entries, listed, entry, inside, same, bears.unreadable.mpr absent, same ▸ absent⟩

namespace Stray

def spelled : String := String.ofList (Text.stray 0xff :: ".move".toList)

def directory : Path := ⟨"/d"⟩

def additions : List Addition := [.file ⟨"/d/" ++ spelled⟩ []]

def name : Name := ⟨spelled, by decide⟩

theorem node?_directory :
    (ofAdditions additions).node? directory.location = some .directory := by
  rw [node?_ofAdditions]
  decide +kernel

theorem node?_name :
    (ofAdditions additions).node? (directory.location.child name) = some (.file []) := by
  rw [show directory.location.child name = (⟨"/d/" ++ spelled⟩ : Path).location by decide +kernel,
    node?_ofAdditions]
  decide +kernel

theorem node?_shown :
    (ofAdditions additions).node? (directory.child name.shown).location = none := by
  rw [node?_ofAdditions]
  decide +kernel

end Stray

theorem listed_name_absent :
    let memory := ofAdditions Stray.additions
    ∃ entries, memory.list Stray.directory = .ok entries ∧
      ∃ entry ∈ entries, entry.kind = .file ∧
        memory.node? (Stray.directory.child entry.name).location = none ∧
        (memory.read (Stray.directory.child entry.name)).isOk = false := by
  intro memory
  have present : memory.node? Stray.directory.location = some .directory := Stray.node?_directory
  have listed : memory.list Stray.directory = .ok (memory.entriesOf Stray.directory.location) := by
    rw [Memory.list, present]
  have member : ⟨Stray.name.shown, .file⟩ ∈ memory.entriesOf Stray.directory.location :=
    (memory.mem_entriesOf_iff _ _).mpr ⟨by decide, Stray.name, .file [], Stray.node?_name, rfl⟩
  have absent : memory.node? (Stray.directory.child Stray.name.shown).location = none :=
    Stray.node?_shown
  generalize Stray.name.shown = shown at member absent
  refine ⟨_, listed, _, member, rfl, absent, ?_⟩
  rw [Memory.read, absent]
  rfl

end Memory

end PackageClosure
