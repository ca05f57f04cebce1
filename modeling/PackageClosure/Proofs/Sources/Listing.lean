import PackageClosure.Proofs.Storage.Views
import PackageClosure.Sources

set_option autoImplicit false

namespace PackageClosure

namespace Sources

def Finding.path : Finding → Path
  | .file path => path
  | .skipped entry => entry.path

theorem mem_filterMap_file? (findings : List Finding) (file : Path) :
    file ∈ findings.filterMap Finding.file? ↔ .file file ∈ findings := by
  rw [List.mem_filterMap]
  constructor
  · rintro ⟨finding, member, isFile⟩
    cases finding with
    | file path =>
        cases isFile
        exact member
    | skipped entry => cases isFile
  · intro member
    exact ⟨.file file, member, rfl⟩

theorem mem_filterMap_skipped? (findings : List Finding) (entry : Skipped) :
    entry ∈ findings.filterMap Finding.skipped? ↔ .skipped entry ∈ findings := by
  rw [List.mem_filterMap]
  constructor
  · rintro ⟨finding, member, isSkipped⟩
    cases finding with
    | file path => cases isSkipped
    | skipped other =>
        cases isSkipped
        exact member
  · intro member
    exact ⟨.skipped entry, member, rfl⟩

def searchEntry (storage : Storage) (path : Path) : EntryKind → List Finding
  | .directory => search storage path
  | .file => if isSource path then [.file path] else []
  | .unreadable reason => [.skipped ⟨path, reason⟩]

theorem search_of_error (storage : Storage) (directory : Path) (error : FileError)
    (failed : storage.list directory = .error error) :
    search storage directory = [.skipped ⟨directory, error.message⟩] := by
  rw [search]
  split
  · rename_i other same
    rw [failed] at same
    cases same
    rfl
  · rename_i entries listed
    rw [failed] at listed
    cases listed

theorem search_of_entries (storage : Storage) (directory : Path) (entries : List DirectoryEntry)
    (listed : storage.list directory = .ok entries) :
    search storage directory = (inOrder entries).flatMap fun entry =>
      searchEntry storage (directory.child entry.name) entry.kind := by
  rw [search]
  split
  · rename_i error failed
    rw [listed] at failed
    cases failed
  · rename_i others same
    obtain rfl := Except.ok.inj (listed.symm.trans same)
    refine List.flatMap_congr fun entry _ => ?_
    cases entry.kind <;> rfl

theorem exists_names_of_entry (storage : Storage) (path : Path) (kind : EntryKind)
    (finding : Finding) (found : finding ∈ searchEntry storage path kind)
    (below : finding ∈ search storage path →
      ∃ names : List Name, finding.path = names.foldl Path.child path) :
    ∃ names : List Name, finding.path = names.foldl Path.child path := by
  cases kind with
  | directory => exact below found
  | file =>
      rw [searchEntry] at found
      split at found
      · exact ⟨[], congrArg Finding.path (List.mem_singleton.mp found)⟩
      · cases found
  | unreadable reason => exact ⟨[], congrArg Finding.path (List.mem_singleton.mp found)⟩

theorem exists_names_of_search (storage : Storage) (directory : Path) (finding : Finding)
    (found : finding ∈ search storage directory) :
    ∃ names : List Name, finding.path = names.foldl Path.child directory := by
  induction directory using search.induct storage with
  | case1 directory error failed =>
      rw [search_of_error storage directory error failed, List.mem_singleton] at found
      exact ⟨[], congrArg Finding.path found⟩
  | case2 directory entries listed ih =>
      rw [search_of_entries storage directory entries listed, List.mem_flatMap] at found
      obtain ⟨entry, member, found⟩ := found
      obtain ⟨names, same⟩ := exists_names_of_entry storage _ entry.kind finding found (ih entry)
      exact ⟨entry.name :: names, same⟩

theorem exists_names_of_searchEntry (storage : Storage) (path : Path) (kind : EntryKind)
    (finding : Finding) (found : finding ∈ searchEntry storage path kind) :
    ∃ names : List Name, finding.path = names.foldl Path.child path :=
  exists_names_of_entry storage path kind finding found
    (exists_names_of_search storage path finding)

theorem mem_inOrder_iff (entries : List DirectoryEntry) (entry : DirectoryEntry) :
    entry ∈ inOrder entries ↔ entry ∈ entries := List.mem_mergeSort

theorem inOrder_increasing (entries : List DirectoryEntry)
    (distinct : (entries.map DirectoryEntry.name).Nodup)
    (raw : ∀ entry ∈ entries, entry.name.IsRaw) :
    (inOrder entries).Pairwise fun left right => left.name.bytes < right.name.bytes := by
  have ordered : (inOrder entries).Pairwise fun left right => left.name.bytes ≤ right.name.bytes :=
    Text.pairwise_mergeSort_rawLe (fun entry : DirectoryEntry => entry.name.text) entries
  have apart : (inOrder entries).Pairwise fun left right => left.name ≠ right.name :=
    List.pairwise_map.mp (((List.mergeSort_perm _ _).map _).nodup_iff.mpr distinct)
  refine (ordered.and apart).imp_of_mem fun {left right} isLeft isRight both => ?_
  exact left.name.lt_of_bytes_le _ (raw left ((mem_inOrder_iff _ _).mp isLeft))
    (raw right ((mem_inOrder_iff _ _).mp isRight)) both.2 both.1

end Sources

namespace Memory

variable (memory : Memory)

/-- What a search comes upon at an entry's path, where the entry's node need not be. -/
def Reports (path : Path) : Node → Sources.Finding → Prop
  | .file _, finding => Sources.isSource path = true ∧ finding = .file path
  | .broken reason, finding => finding = .skipped ⟨path, reason⟩
  | .directory, finding => ∃ error, memory.list path = .error error ∧
      finding = .skipped ⟨path, error.message⟩

def Comes (directory : Path) (finding : Sources.Finding) : Prop :=
  ∃ names name node, memory.Open directory.location names ∧
    memory.node? ((directory.location.descend names).child name) = some node ∧
    memory.Reports ((names.foldl Path.child directory).child name.shown) node finding

theorem list_ne_error (directory : Path) (error : FileError)
    (isDirectory : memory.node? directory.location = some .directory) :
    memory.list directory ≠ .error error := by
  intro failed
  have listed := (memory.isOk_list_iff directory).mpr isDirectory
  rw [failed] at listed
  cases listed

theorem comes_iff (directory : Path) (finding : Sources.Finding) :
    memory.Comes directory finding ↔ memory.IsOpen directory.location ∧
      ((∃ name node, memory.node? (directory.location.child name) = some node ∧
          memory.Reports (directory.child name.shown) node finding) ∨
        ∃ name, name.IsText ∧ memory.Comes (directory.child name) finding) := by
  constructor
  · rintro ⟨names, name, node, isOpen, present, reports⟩
    refine ⟨isOpen.isOpen, ?_⟩
    cases names with
    | nil =>
        rw [Location.descend_nil] at present
        exact .inl ⟨name, node, present, reports⟩
    | cons first rest =>
        obtain ⟨_, text, further⟩ := isOpen
        rw [Location.descend_cons, ← directory.location_child] at present
        rw [← directory.location_child] at further
        exact .inr ⟨first, text, rest, name, node, further, present, reports⟩
  · rintro ⟨isOpen, ⟨name, node, present, reports⟩ | ⟨first, text, names, name, node, rest⟩⟩
    · refine ⟨[], name, node, isOpen, ?_, reports⟩
      rwa [Location.descend_nil]
    · obtain ⟨further, present, reports⟩ := rest
      rw [directory.location_child] at further present
      refine ⟨first :: names, name, node, ⟨isOpen, text, further⟩, ?_, reports⟩
      rwa [Location.descend_cons]

theorem Comes.isOpen {directory : Path} {finding : Sources.Finding}
    (comes : memory.Comes directory finding) : memory.IsOpen directory.location :=
  ((memory.comes_iff directory finding).mp comes).1

theorem mem_searchEntry_iff (path : Path) (node : Node) (finding : Sources.Finding)
    (below : finding ∈ Sources.search memory.storage path ↔
      memory.Reports path .directory finding ∨ memory.Comes path finding) :
    finding ∈ Sources.searchEntry memory.storage path node.kind ↔
      memory.Reports path node finding ∨ node = .directory ∧ memory.Comes path finding := by
  cases node with
  | directory => simpa [Node.kind, Sources.searchEntry] using below
  | file bytes => simp [Node.kind, Sources.searchEntry, Reports]
  | broken reason => simp [Node.kind, Sources.searchEntry, Reports]

-- Below an entry the search goes on under the name that is shown, so what is found there is also
-- found where that name is an entry's own.
theorem comes_iff_entry (directory : Path) (finding : Sources.Finding)
    (isOpen : memory.IsOpen directory.location) :
    memory.Comes directory finding ↔
      ∃ name node, memory.node? (directory.location.child name) = some node ∧
        (memory.Reports (directory.child name.shown) node finding ∨
          node = .directory ∧ memory.Comes (directory.child name.shown) finding) := by
  rw [memory.comes_iff, and_iff_right isOpen]
  constructor
  · rintro (⟨name, node, present, reports⟩ | ⟨name, text, comes⟩)
    · exact ⟨name, node, present, .inl reports⟩
    · have isDirectory := comes.isOpen.1
      rw [directory.location_child] at isDirectory
      refine ⟨name, .directory, isDirectory, .inr ⟨rfl, ?_⟩⟩
      rwa [name.shown_of_isText text]
  · rintro ⟨name, node, present, reports | ⟨_, comes⟩⟩
    · exact .inl ⟨name, node, present, reports⟩
    · exact .inr ⟨name.shown, name.isText_shown, comes⟩

theorem mem_search_iff (directory : Path) (finding : Sources.Finding) :
    finding ∈ Sources.search memory.storage directory ↔
      memory.Reports directory .directory finding ∨ memory.Comes directory finding := by
  induction directory using Sources.search.induct memory.storage with
  | case1 directory error failed =>
      have failed : memory.list directory = .error error := failed
      have isLast : ¬ memory.Comes directory finding :=
        fun comes => memory.list_ne_error directory error comes.isOpen.1 failed
      rw [Sources.search_of_error memory.storage directory error failed, List.mem_singleton,
        or_iff_left isLast, Reports, failed]
      simp
  | case2 directory entries listed ih =>
      have listed : memory.list directory = .ok entries := listed
      have isDirectory : memory.node? directory.location = some .directory :=
        (memory.isOk_list_iff directory).mp (by rw [listed]; rfl)
      have noError : ¬ memory.Reports directory .directory finding := by simp [Reports, listed]
      rw [Sources.search_of_entries memory.storage directory entries listed, List.mem_flatMap,
        or_iff_right noError]
      simp only [Sources.mem_inOrder_iff, memory.list_eq_ok directory entries listed,
        memory.mem_entriesOf_iff]
      by_cases inside : directory.location = .here
      · have closed : ¬ memory.Comes directory finding := fun comes => comes.isOpen.2 inside
        simp [inside, closed]
      · have entry (name : Name) (node : Node) :=
          memory.mem_searchEntry_iff (directory.child name.shown) node finding
            (by simpa only using ih ⟨name.shown, node.kind⟩)
        rw [memory.comes_iff_entry directory finding ⟨isDirectory, inside⟩]
        simp only [← entry]
        constructor
        · rintro ⟨_, ⟨_, name, node, present, rfl⟩, found⟩
          dsimp only at found
          exact ⟨name, node, present, found⟩
        · rintro ⟨name, node, present, found⟩
          refine ⟨⟨name.shown, node.kind⟩, ⟨inside, name, node, present, rfl⟩, ?_⟩
          dsimp only
          exact found

def IsFound (path : Path) : Sources.Finding → Prop
  | .file file => file = path ∧ Sources.isSource path = true ∧
      ∃ bytes, memory.node? path.location = some (.file bytes)
  | .skipped entry => entry.path = path ∧
      memory.node? path.location = some (.broken entry.reason)

theorem reports_iff_isFound (path : Path) (finding : Sources.Finding) :
    (∃ node, memory.node? path.location = some node ∧ memory.Reports path node finding) ↔
      memory.IsFound path finding := by
  constructor
  · rintro ⟨node, present, reports⟩
    cases node with
    | directory =>
        obtain ⟨error, failed, _⟩ := reports
        exact absurd failed (memory.list_ne_error path error present)
    | file bytes =>
        obtain ⟨isSource, rfl⟩ := reports
        exact ⟨rfl, isSource, bytes, present⟩
    | broken reason =>
        obtain rfl := reports
        exact ⟨rfl, present⟩
  · intro found
    cases finding with
    | file file =>
        obtain ⟨rfl, isSource, bytes, present⟩ := found
        exact ⟨_, present, isSource, rfl⟩
    | skipped entry =>
        obtain ⟨rfl, present⟩ := found
        exact ⟨_, present, rfl⟩

def Below (directory : Location) (names : List Name) : Prop :=
  names ≠ [] ∧ ∀ above, above <+: names → above ≠ names →
    memory.node? (directory.descend above) = some .directory

def TextBelow (directory : Location) : Prop :=
  ∀ names, memory.Below directory names →
    (∃ node, memory.node? (directory.descend names) = some node) → ∀ name ∈ names, name.IsText

theorem open_iff_of_absolute (location : Location) (names : List Name)
    (absolute : location.isAbsolute = true) :
    memory.Open location names ↔ (∀ name ∈ names, name.IsText) ∧
      ∀ above, above <+: names → memory.node? (location.descend above) = some .directory := by
  induction names generalizing location with
  | nil => simp [Open, IsOpen, location.ne_here_of_isAbsolute absolute, Location.descend_nil]
  | cons name rest ih =>
      have apart := location.ne_here_of_isAbsolute absolute
      rw [Open, ih (location.child name) absolute, List.forall_mem_cons]
      constructor
      · rintro ⟨isOpen, text, others, through⟩
        refine ⟨⟨text, others⟩, fun above before => ?_⟩
        cases above with
        | nil => rw [Location.descend_nil, isOpen.1]
        | cons first more =>
            obtain ⟨rfl, below⟩ := List.cons_prefix_cons.mp before
            rw [Location.descend_cons]
            exact through more below
      · rintro ⟨⟨text, others⟩, through⟩
        refine ⟨⟨?_, apart⟩, text, others, fun above before => ?_⟩
        · simpa only [Location.descend_nil] using through [] List.nil_prefix
        · rw [← Location.descend_cons]
          exact through (name :: above) (List.cons_prefix_cons.mpr ⟨rfl, before⟩)

theorem below_concat_iff (directory : Location) (names : List Name) (name : Name) :
    memory.Below directory (names ++ [name]) ↔
      ∀ above, above <+: names → memory.node? (directory.descend above) = some .directory := by
  have shorter (above : List Name) :
      above <+: names ↔ above <+: names ++ [name] ∧ above ≠ names ++ [name] := by
    rw [List.prefix_concat_iff]
    constructor
    · refine fun before => ⟨.inr before, ?_⟩
      rintro rfl
      simpa using before.length_le
    · rintro ⟨whole | before, differs⟩
      · exact absurd whole differs
      · exact before
  simp [Below, shorter]

theorem comes_iff_below (directory : Path) (finding : Sources.Finding)
    (absolute : directory.isAbsolute = true) (text : memory.TextBelow directory.location) :
    memory.Comes directory finding ↔ ∃ names, memory.Below directory.location names ∧
      memory.IsFound (directory.join (.below names)) finding := by
  have rooted := directory.isAbsolute_location.trans absolute
  have spelled (names : List Name) (name : Name) :
      (names.foldl Path.child directory).child name = directory.join (.below (names ++ [name])) := by
    rw [← directory.foldl_child_eq_join _ (by simp), List.foldl_concat]
  have place (names : List Name) (name : Name) :
      (directory.join (.below (names ++ [name]))).location =
        (directory.location.descend names).child name := by
    rw [← spelled, Path.location_child, directory.location_foldl_child]
  simp only [← memory.reports_iff_isFound]
  constructor
  · rintro ⟨names, name, node, isOpen, present, reports⟩
    have through := ((memory.open_iff_of_absolute _ names rooted).mp isOpen).2
    have below := (memory.below_concat_iff _ names name).mpr through
    have isText : name.IsText := by
      refine text _ below ⟨node, ?_⟩ name (by simp)
      rwa [Location.descend_concat]
    rw [name.shown_of_isText isText, spelled] at reports
    rw [← place] at present
    exact ⟨names ++ [name], below, node, present, reports⟩
  · rintro ⟨whole, below, node, present, reports⟩
    obtain ⟨names, name, rfl⟩ := whole.eq_nil_or_concat'.resolve_left below.1
    rw [place] at present
    have isText := text _ below ⟨node, by rwa [Location.descend_concat]⟩
    refine ⟨names, name, node, ?_, present, ?_⟩
    · exact (memory.open_iff_of_absolute _ names rooted).mpr
        ⟨fun other inside => isText other (by simp [inside]),
          (memory.below_concat_iff _ names name).mp below⟩
    · rwa [name.shown_of_isText (isText name (by simp)), spelled]

theorem isSource_join_below_iff (directory : Path) (names : List Name) (filled : names ≠ [])
    (absolute : directory.isAbsolute = true) :
    Sources.isSource (directory.join (.below names)) = true ↔
      (directory.location.descend names).path.extension? = some "move" := by
  have same := directory.extension?_foldl_child directory.location.path names filled
  rw [directory.foldl_child_eq_join names filled,
    directory.location.foldl_child_path names (directory.location_ne_here absolute)] at same
  rw [Sources.isSource, same, decide_eq_true_iff]

theorem location_join_below (directory : Path) (names : List Name) (filled : names ≠ []) :
    (directory.join (.below names)).location = directory.location.descend names := by
  rw [← directory.foldl_child_eq_join names filled, directory.location_foldl_child]

theorem sources_of_other (directory : Path)
    (other : memory.node? directory.location ≠ some .directory) :
    ∃ error, memory.list directory = .error error ∧
      memory.storage.sources directory = ⟨[], [⟨directory, error.message⟩]⟩ := by
  cases listed : memory.list directory with
  | error error =>
      refine ⟨error, rfl, ?_⟩
      rw [Storage.sources, Sources.search_of_error memory.storage directory error listed]
      rfl
  | ok entries => exact absurd ((memory.isOk_list_iff directory).mp (by rw [listed]; rfl)) other

section

variable {memory} (directory : Location) (text : memory.TextBelow directory)

include text

theorem TextBelow.child (isDirectory : memory.node? directory = some .directory) (name : Name) :
    memory.TextBelow (directory.child name) := by
  rintro names ⟨filled, through⟩ present other inside
  rw [← Location.descend_cons] at present
  refine text (name :: names) ⟨List.cons_ne_nil name names, fun above before differs => ?_⟩ present
    other (List.mem_cons_of_mem name inside)
  cases above with
  | nil => rwa [Location.descend_nil]
  | cons first more =>
      obtain ⟨rfl, below⟩ := List.cons_prefix_cons.mp before
      rw [Location.descend_cons]
      exact through more below fun same => differs (congrArg _ same)

theorem TextBelow.isText (isDirectory : memory.node? directory = some .directory) (name : Name)
    (node : Node) (present : memory.node? (directory.child name) = some node) : name.IsText := by
  have below := (memory.below_concat_iff directory [] name).mpr fun above before => by
    rwa [List.prefix_nil.mp before, Location.descend_nil]
  refine text [name] below ⟨node, ?_⟩ name (by simp)
  rwa [Location.descend_cons, Location.descend_nil]

theorem TextBelow.nodup_entriesOf (isDirectory : memory.node? directory = some .directory) :
    ((memory.entriesOf directory).map DirectoryEntry.name).Nodup := by
  have names : (memory.entriesOf directory).map DirectoryEntry.name =
      (memory.nodesIn directory).map Prod.fst := by
    rw [names_entriesOf]
    refine List.map_congr_left fun (name, node) member => ?_
    have present := ((memory.mem_nodesIn_iff directory name node).mp member).2
    exact name.shown_of_isText (text.isText directory isDirectory name node present)
  rw [names]
  exact memory.nodup_names_nodesIn directory

end

theorem isRaw_of_mem_entriesOf (directory : Location) (entry : DirectoryEntry)
    (member : entry ∈ memory.entriesOf directory) : entry.name.IsRaw := by
  obtain ⟨_, name, node, _, rfl⟩ := (memory.mem_entriesOf_iff directory entry).mp member
  dsimp only
  exact Name.isRaw_of_isText _ name.isText_shown

theorem search_increasing (directory : Path) (text : memory.TextBelow directory.location) :
    (Sources.search memory.storage directory).Pairwise fun left right =>
      left.path.Before right.path := by
  induction directory using Sources.search.induct memory.storage with
  | case1 directory error failed =>
      rw [Sources.search_of_error memory.storage directory error failed]
      exact List.pairwise_singleton _ _
  | case2 directory entries listed ih =>
      have listed : memory.list directory = .ok entries := listed
      have isDirectory : memory.node? directory.location = some .directory :=
        (memory.isOk_list_iff directory).mp (by rw [listed]; rfl)
      rw [Sources.search_of_entries memory.storage directory entries listed,
        memory.list_eq_ok directory entries listed, List.pairwise_flatMap]
      constructor
      · intro entry _
        cases entry.kind with
        | directory =>
            refine ih entry ?_
            rw [directory.location_child]
            exact text.child _ isDirectory entry.name
        | file =>
            rw [Sources.searchEntry]
            split
            · exact List.pairwise_singleton _ _
            · exact .nil
        | unreadable reason => exact List.pairwise_singleton _ _
      · have increasing := Sources.inOrder_increasing _ (text.nodup_entriesOf _ isDirectory)
          (memory.isRaw_of_mem_entriesOf directory.location)
        refine increasing.imp ?_
        intro one other less left inOne right inOther
        obtain ⟨first, isLeft⟩ := Sources.exists_names_of_searchEntry memory.storage _ _ left inOne
        obtain ⟨second, isRight⟩ :=
          Sources.exists_names_of_searchEntry memory.storage _ _ right inOther
        rw [isLeft, isRight]
        exact directory.before_of_entries one.name other.name less first second

section

variable (directory : Path) (text : memory.TextBelow directory.location)

include text

theorem files_increasing : (memory.storage.sources directory).files.Pairwise Path.Before := by
  refine (memory.search_increasing directory text).filterMap _ ?_
  intro left right before file isFile other isOther
  cases left <;> cases isFile
  cases right <;> cases isOther
  exact before

theorem skipped_increasing :
    ((memory.storage.sources directory).skipped.map Skipped.path).Pairwise Path.Before := by
  rw [List.pairwise_map]
  refine (memory.search_increasing directory text).filterMap _ ?_
  intro left right before entry isSkipped other isOther
  cases left <;> cases isSkipped
  cases right <;> cases isOther
  exact before

variable (isDirectory : memory.node? directory.location = some .directory)
  (absolute : directory.isAbsolute = true)

include isDirectory absolute

theorem mem_search_of_directory (finding : Sources.Finding) :
    finding ∈ Sources.search memory.storage directory ↔
      ∃ names, memory.Below directory.location names ∧
        memory.IsFound (directory.join (.below names)) finding := by
  rw [mem_search_iff, or_iff_right, memory.comes_iff_below directory finding absolute text]
  rintro ⟨error, failed, _⟩
  exact memory.list_ne_error directory error isDirectory failed

theorem mem_files_of_directory (file : Path) :
    file ∈ (memory.storage.sources directory).files ↔
      ∃ names, memory.Below directory.location names ∧
        (∃ bytes, memory.node? (directory.location.descend names) = some (.file bytes)) ∧
        (directory.location.descend names).path.extension? = some "move" ∧
        file = directory.join (.below names) := by
  rw [Storage.sources, Sources.mem_filterMap_file?,
    memory.mem_search_of_directory directory text isDirectory absolute]
  refine exists_congr fun names => and_congr_right fun below => ?_
  rw [IsFound, location_join_below directory names below.1,
    isSource_join_below_iff directory names below.1 absolute]
  tauto

theorem mem_skipped_of_directory (entry : Skipped) :
    entry ∈ (memory.storage.sources directory).skipped ↔
      ∃ names, memory.Below directory.location names ∧
        memory.node? (directory.location.descend names) = some (.broken entry.reason) ∧
        entry.path = directory.join (.below names) := by
  rw [Storage.sources, Sources.mem_filterMap_skipped?,
    memory.mem_search_of_directory directory text isDirectory absolute]
  refine exists_congr fun names => and_congr_right fun below => ?_
  rw [IsFound, location_join_below directory names below.1, and_comm]

end

theorem sources_exact (directory : Path) (absolute : directory.isAbsolute = true) :
    let found := memory.storage.sources directory
    let root := directory.normalize.location
    (memory.node? root ≠ some .directory → ∃ error, memory.list directory = .error error ∧
        found = ⟨[], [⟨directory, error.message⟩]⟩) ∧
      (memory.TextBelow root →
        (memory.node? root = some .directory →
          (∀ file, file ∈ found.files ↔ ∃ names, memory.Below root names ∧
              (∃ bytes, memory.node? (root.descend names) = some (.file bytes)) ∧
              (root.descend names).path.extension? = some "move" ∧
              file = directory.join (.below names)) ∧
            (∀ entry, entry ∈ found.skipped ↔ ∃ names, memory.Below root names ∧
              memory.node? (root.descend names) = some (.broken entry.reason) ∧
              entry.path = directory.join (.below names))) ∧
        (found.files.Pairwise Path.Before ∧ found.files.Nodup) ∧
        ((found.skipped.map Skipped.path).Pairwise Path.Before ∧
          (found.skipped.map Skipped.path).Nodup)) := by
  intro found root
  have place : root = directory.location := Location.location_path _
  rw [place]
  refine ⟨memory.sources_of_other directory, fun text => ?_⟩
  have files := memory.files_increasing directory text
  have skipped := memory.skipped_increasing directory text
  refine ⟨fun isDirectory => ⟨?_, ?_⟩, ⟨files, files.imp Path.Before.ne⟩, skipped,
    skipped.imp Path.Before.ne⟩
  · exact memory.mem_files_of_directory directory text isDirectory absolute
  · exact memory.mem_skipped_of_directory directory text isDirectory absolute

theorem exists_addition_of_mem_names (additions : List Addition) (location : Location) (node : Node)
    (present : (ofAdditions additions).node? location = some node) (name : Name)
    (inside : name ∈ location.names) :
    ∃ addition ∈ additions, name ∈ addition.path.location.names := by
  induction additions using List.reverseRecOn with
  | nil =>
      rw [ofAdditions, List.foldl_nil, node?_empty] at present
      cases present
  | append_singleton additions last ih =>
      rw [ofAdditions_concat, node?_add] at present
      split at present
      · rename_i same
        exact ⟨last, by simp, same ▸ inside⟩
      · rcases Option.or_eq_some_iff.mp present with before | ⟨_, above⟩
        · obtain ⟨addition, member, found⟩ := ih before
          exact ⟨addition, by simp [member], found⟩
        · have ancestor : location ∈ last.path.location.ancestors := by
            by_contra other
            rw [if_neg other] at above
            cases above
          have steps := ((Location.mem_ancestors_iff _ _).mp ancestor).2.1
          refine ⟨last, by simp, ?_⟩
          rw [← Location.name_mem_steps_iff] at inside ⊢
          exact steps.subset inside

theorem isText_of_additions (additions : List Addition)
    (text : ∀ addition ∈ additions, ∀ name ∈ addition.path.location.names, name.IsText)
    (location : Location) (node : Node)
    (present : (ofAdditions additions).node? location = some node) :
    ∀ name ∈ location.names, name.IsText := by
  intro name inside
  obtain ⟨addition, there, found⟩ :=
    exists_addition_of_mem_names additions location node present name inside
  exact text addition there name found

theorem textBelow_of_additions (additions : List Addition)
    (text : ∀ addition ∈ additions, ∀ name ∈ addition.path.location.names, name.IsText)
    (directory : Location) : (ofAdditions additions).TextBelow directory := by
  rintro names _ ⟨node, present⟩ name inside
  refine isText_of_additions additions text _ node present name ?_
  simp [Location.descend, inside]

namespace Orphan

def additions : List Addition :=
  [.file ⟨"/lib/old/m.move"⟩ [], .file ⟨"/lib/old"⟩ [], .file ⟨"/lib/new/m.move"⟩ []]

def directory : Path := ⟨"/lib/new/.."⟩

def root : Location := directory.normalize.location

def old : Name := ⟨"old", by decide⟩

def new : Name := ⟨"new", by decide⟩

def source : Name := ⟨"m.move", by decide⟩

theorem node?_eq (location : Location) (path : Path) (spelled : location = path.location) :
    (ofAdditions additions).node? location =
      ((additionsTo path additions).getLast?.map Addition.node).or
        (if isPassed path additions then some .directory else none) := by
  rw [spelled, node?_ofAdditions]

theorem node?_root : (ofAdditions additions).node? root = some .directory := by
  rw [node?_eq root ⟨"/lib"⟩ (by decide)]
  decide +kernel

theorem node?_old : (ofAdditions additions).node? (root.descend [old]) = some (.file []) := by
  rw [node?_eq _ ⟨"/lib/old"⟩ (by decide)]
  decide

theorem node?_new : (ofAdditions additions).node? (root.child new) = some .directory := by
  rw [node?_eq _ ⟨"/lib/new"⟩ (by decide)]
  decide +kernel

theorem node?_source :
    (ofAdditions additions).node? (root.descend [new, source]) = some (.file []) := by
  rw [node?_eq _ ⟨"/lib/new/m.move"⟩ (by decide)]
  decide

theorem below_new : (ofAdditions additions).Below root [new, source] := by
  refine ((ofAdditions additions).below_concat_iff root [new] source).mpr ?_
  refine (((ofAdditions additions).open_iff_of_absolute root [new] (by decide)).mp ?_).2
  exact ⟨⟨node?_root, by decide⟩, by decide, node?_new, by decide⟩

theorem not_below_old : ¬ (ofAdditions additions).Below root [old, source] := by
  intro below
  have isDirectory := below.2 [old] ⟨[source], rfl⟩ (by decide)
  rw [node?_old] at isDirectory
  cases isDirectory

end Orphan

theorem sources_exact_orphan :
    let found := (ofAdditions Orphan.additions).storage.sources Orphan.directory
    Orphan.directory.isAbsolute = true ∧ ⟨"/lib/new/../new/m.move"⟩ ∈ found.files ∧
      ⟨"/lib/new/../old/m.move"⟩ ∉ found.files := by
  have absolute : Orphan.directory.isAbsolute = true := by decide
  have exact := ((ofAdditions Orphan.additions).sources_exact Orphan.directory absolute).2
  have files := ((exact (textBelow_of_additions _ (by decide) _)).1 Orphan.node?_root).1
  refine ⟨absolute, ?_, ?_⟩
  · rw [files]
    exact ⟨_, Orphan.below_new, ⟨[], Orphan.node?_source⟩, by decide, by decide⟩
  · rw [files]
    rintro ⟨names, below, _, _, same⟩
    have place := congrArg Path.location same
    rw [location_join_below _ names below.1] at place
    have whole : Orphan.directory.location.descend names =
        Orphan.directory.location.descend [Orphan.old, Orphan.source] :=
      place.symm.trans (by decide)
    have these : names = [Orphan.old, Orphan.source] :=
      List.append_cancel_left (congrArg Location.names whole)
    exact Orphan.not_below_old (these ▸ below)

theorem shown_source_listed :
    let memory := ofAdditions Stray.additions
    ∃ file ∈ (memory.storage.sources Stray.directory).files, memory.node? file.location = none := by
  intro memory
  refine ⟨Stray.directory.child Stray.name.shown, ?_, Stray.node?_shown⟩
  have isOpen : memory.IsOpen Stray.directory.location := ⟨Stray.node?_directory, by decide⟩
  have isSource : Sources.isSource (Stray.directory.child Stray.name.shown) = true := by
    decide +kernel
  rw [Storage.sources, Sources.mem_filterMap_file?, mem_search_iff]
  refine .inr ⟨[], Stray.name, .file [], isOpen, ?_, isSource, rfl⟩
  rw [Location.descend_nil]
  exact Stray.node?_name

end Memory

end PackageClosure
