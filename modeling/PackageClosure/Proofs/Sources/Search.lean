import PackageClosure.Proofs.Sources.Course

set_option autoImplicit false

namespace PackageClosure

open Relation

namespace Memory

variable (memory : Memory)

def SearchFinds (directory : Location) (file : Path) : Prop :=
  ∃ inner, (ReflTransGen memory.Lists directory inner ∧ memory.IsOpen inner) ∧
    ∃ name bytes, memory.node? (inner.child name) = some (.file bytes) ∧
      file = (inner.child name.shown).path ∧ Sources.isSource file = true

theorem comes_path_iff (directory : Location) (file : Path) :
    memory.Comes directory.path (.file file) ↔ memory.SearchFinds directory file := by
  have spelled (names : List Name) (name : Name) (isOpen : memory.Open directory names) :
      (names.foldl Path.child directory.path).child name =
        ((directory.descend names).child name).path := by
    have whole := directory.foldl_child_path (names ++ [name]) isOpen.isOpen.2
    rwa [List.foldl_concat, Location.descend_concat] at whole
  constructor
  · rintro ⟨names, name, node, isOpen, present, reports⟩
    rw [directory.location_path] at isOpen present
    rw [spelled names name.shown isOpen] at reports
    cases node with
    | directory =>
        obtain ⟨error, _, other⟩ := reports
        cases other
    | broken reason => cases reports
    | file bytes =>
        obtain ⟨isSource, same⟩ := reports
        cases same
        exact ⟨_, (open_iff directory _).mp ⟨names, isOpen, rfl⟩, name, bytes, present, rfl, isSource⟩
  · rintro ⟨inner, inside, name, bytes, present, rfl, isSource⟩
    obtain ⟨names, isOpen, rfl⟩ := (open_iff directory inner).mpr inside
    refine ⟨names, name, .file bytes, ?_, ?_, ?_⟩
    · rwa [directory.location_path]
    · rwa [directory.location_path]
    · rw [spelled names name.shown isOpen]
      exact ⟨isSource, rfl⟩

theorem mem_files_iff (directory : Location) (file : Path) :
    file ∈ (memory.storage.sources directory.path).files ↔ memory.SearchFinds directory file := by
  rw [Storage.sources, Sources.mem_filterMap_file?, mem_search_iff, ← comes_path_iff]
  simp [Reports]

def ShownApart : Prop :=
  ∀ directory, ((memory.nodesIn directory).map fun entry => entry.1.shown).Nodup

theorem shownApart_of_text (text : ∀ location node, memory.node? location = some node →
    ∀ name ∈ location.names, name.IsText) : memory.ShownApart := by
  intro directory
  have names : (memory.nodesIn directory).map (fun entry => entry.1.shown) =
      (memory.nodesIn directory).map Prod.fst := by
    refine List.map_congr_left fun (name, node) member => ?_
    have present := ((memory.mem_nodesIn_iff directory name node).mp member).2
    exact name.shown_of_isText (text _ node present name (by simp [Location.child]))
  rw [names]
  exact memory.nodup_names_nodesIn directory

theorem nodup_files (apart : memory.ShownApart) (directory : Path) :
    (memory.storage.sources directory).files.Nodup := by
  refine Sources.nodup_files memory.storage (fun directory entries listed => ?_) directory
  rw [memory.list_eq_ok directory entries listed, names_entriesOf]
  exact apart directory.location

end Memory

end PackageClosure
