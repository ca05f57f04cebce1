import PackageClosure.Proofs.Sources.Listing

set_option autoImplicit false

namespace PackageClosure

namespace Sources

inductive Event where
  | listed (directory : Path)
  | found (finding : Finding)

namespace Event

def path : Event → Path
  | .listed directory => directory
  | .found finding => finding.path

def isListing : Event → Bool
  | .listed _ => true
  | .found _ => false

def listed? : Event → Option Path
  | .listed directory => some directory
  | .found _ => none

def finding? : Event → Option Finding
  | .listed _ => none
  | .found finding => some finding

def Below (directory : Path) (event : Event) : Prop :=
  ∃ names : List Name, event.path = names.foldl Path.child directory

-- A directory that cannot be listed is reported with the path under which it was listed.
def Apart (left right : Event) : Prop := left.isListing = right.isListing → left.path ≠ right.path

end Event

def course (storage : Storage) (directory : Path) : List Event :=
  .listed directory ::
    match _listed : storage.list directory with
    | .error error => [.found (.skipped ⟨directory, error.message⟩)]
    | .ok entries =>
        (inOrder entries).flatMap fun entry =>
          let path := directory.child entry.name
          match entry.kind with
          | .directory => course storage path
          | .file => if isSource path then [.found (.file path)] else []
          | .unreadable reason => [.found (.skipped ⟨path, reason⟩)]
termination_by storage.depthBound + 1 - directory.location.names.length
decreasing_by exact descends storage directory entry.name (by rw [_listed]; rfl)

def listings (storage : Storage) (directory : Path) : List Path :=
  (course storage directory).filterMap Event.listed?

def courseEntry (storage : Storage) (path : Path) : EntryKind → List Event
  | .directory => course storage path
  | .file => if isSource path then [.found (.file path)] else []
  | .unreadable reason => [.found (.skipped ⟨path, reason⟩)]

section

variable (storage : Storage) (directory : Path)

theorem course_of_error (error : FileError) (failed : storage.list directory = .error error) :
    course storage directory =
      [.listed directory, .found (.skipped ⟨directory, error.message⟩)] := by
  rw [course]
  split
  · rename_i other same
    rw [failed] at same
    cases same
    rfl
  · rename_i entries listed
    rw [failed] at listed
    cases listed

theorem course_of_entries (entries : List DirectoryEntry)
    (listed : storage.list directory = .ok entries) :
    course storage directory = .listed directory ::
      (inOrder entries).flatMap fun entry =>
        courseEntry storage (directory.child entry.name) entry.kind := by
  rw [course]
  split
  · rename_i error failed
    rw [listed] at failed
    cases failed
  · rename_i others same
    obtain rfl := Except.ok.inj (listed.symm.trans same)
    refine congrArg _ (List.flatMap_congr fun entry _ => ?_)
    cases entry.kind <;> rfl

theorem findings_course :
    (course storage directory).filterMap Event.finding? = search storage directory := by
  induction directory using search.induct storage with
  | case1 directory error failed =>
      rw [course_of_error storage directory error failed,
        search_of_error storage directory error failed]
      rfl
  | case2 directory entries listed ih =>
      rw [course_of_entries storage directory entries listed,
        search_of_entries storage directory entries listed]
      rw [List.filterMap_cons_none rfl, List.filterMap_flatMap]
      refine List.flatMap_congr fun entry _ => ?_
      cases entry.kind with
      | directory => exact ih entry
      | file =>
          rw [courseEntry, searchEntry]
          split <;> rfl
      | unreadable reason => rfl

theorem below_of_entry (kind : EntryKind) (event : Event)
    (member : event ∈ courseEntry storage directory kind)
    (deeper : event ∈ course storage directory → event.Below directory) :
    event.Below directory := by
  cases kind with
  | directory => exact deeper member
  | file =>
      rw [courseEntry] at member
      split at member
      · exact ⟨[], congrArg Event.path (List.mem_singleton.mp member)⟩
      · cases member
  | unreadable reason => exact ⟨[], congrArg Event.path (List.mem_singleton.mp member)⟩

theorem below_of_course (event : Event) (member : event ∈ course storage directory) :
    event.Below directory := by
  induction directory using search.induct storage with
  | case1 directory error failed =>
      rw [course_of_error storage directory error failed, List.mem_pair] at member
      rcases member with rfl | rfl <;> exact ⟨[], rfl⟩
  | case2 directory entries listed ih =>
      rw [course_of_entries storage directory entries listed, List.mem_cons,
        List.mem_flatMap] at member
      rcases member with rfl | ⟨entry, _, inside⟩
      · exact ⟨[], rfl⟩
      · obtain ⟨names, same⟩ := below_of_entry storage _ entry.kind event inside (ih entry)
        exact ⟨entry.name :: names, same⟩

theorem below_of_courseEntry (kind : EntryKind) (event : Event)
    (member : event ∈ courseEntry storage directory kind) : event.Below directory :=
  below_of_entry storage directory kind event member (below_of_course storage directory event)

theorem distinct_courseEntry (kind : EntryKind)
    (deeper : (course storage directory).Pairwise Event.Apart) :
    (courseEntry storage directory kind).Pairwise Event.Apart := by
  cases kind with
  | directory => exact deeper
  | file =>
      rw [courseEntry]
      split
      · exact List.pairwise_singleton _ _
      · exact .nil
  | unreadable reason => exact List.pairwise_singleton _ _

end

theorem foldl_child_injective (directory : Path) :
    Function.Injective fun names : List Name => names.foldl Path.child directory := by
  intro left right same
  have places := congrArg Path.location same
  simp only [Path.location_foldl_child] at places
  exact List.append_cancel_left (congrArg Location.names places)

theorem ne_of_entries (directory : Path) (one other : Name) (left right : Event)
    (differ : one ≠ other) (inOne : left.Below (directory.child one))
    (inOther : right.Below (directory.child other)) : left.path ≠ right.path := by
  obtain ⟨first, isLeft⟩ := inOne
  obtain ⟨second, isRight⟩ := inOther
  intro same
  have names : one :: first = other :: second :=
    foldl_child_injective directory (isLeft.symm.trans (same.trans isRight))
  exact differ (List.cons.inj names).1

theorem ne_of_entry (directory : Path) (name : Name) (event : Event)
    (inside : event.Below (directory.child name)) : directory ≠ event.path := by
  obtain ⟨names, spelled⟩ := inside
  intro same
  have empty : [] = name :: names := foldl_child_injective directory (same.trans spelled)
  cases empty

theorem distinct_course (storage : Storage)
    (distinct : ∀ directory entries, storage.list directory = .ok entries →
      (entries.map DirectoryEntry.name).Nodup) (directory : Path) :
    (course storage directory).Pairwise Event.Apart := by
  induction directory using search.induct storage with
  | case1 directory error failed =>
      rw [course_of_error storage directory error failed, List.pairwise_pair]
      intro alike
      cases alike
  | case2 directory entries listed ih =>
      rw [course_of_entries storage directory entries listed, List.pairwise_cons,
        List.pairwise_flatMap]
      refine ⟨fun event member _ => ?_, fun entry _ => ?_, ?_⟩
      · obtain ⟨entry, _, inside⟩ := List.mem_flatMap.mp member
        exact ne_of_entry directory entry.name event
          (below_of_courseEntry storage _ entry.kind event inside)
      · exact distinct_courseEntry storage _ entry.kind (ih entry)
      · have names : ((inOrder entries).map DirectoryEntry.name).Nodup :=
          ((List.mergeSort_perm _ _).map _).nodup_iff.mpr (distinct directory entries listed)
        refine (List.pairwise_map.mp names).imp ?_
        intro one other differ left inOne right inOther _
        exact ne_of_entries directory one.name other.name left right differ
          (below_of_courseEntry storage _ one.kind left inOne)
          (below_of_courseEntry storage _ other.kind right inOther)

theorem nodup_files (storage : Storage)
    (distinct : ∀ directory entries, storage.list directory = .ok entries →
      (entries.map DirectoryEntry.name).Nodup) (directory : Path) :
    (storage.sources directory).files.Nodup := by
  rw [Storage.sources, ← findings_course]
  dsimp only
  rw [List.filterMap_filterMap]
  refine (distinct_course storage distinct directory).filterMap _ ?_
  intro left right apart file isLeft other isRight
  obtain ⟨one, isFound, isFile⟩ := Option.bind_eq_some_iff.mp isLeft
  obtain ⟨another, isFoundToo, isFileToo⟩ := Option.bind_eq_some_iff.mp isRight
  cases left <;> cases isFound
  cases one <;> cases isFile
  cases right <;> cases isFoundToo
  cases another <;> cases isFileToo
  exact apart rfl

end Sources

end PackageClosure
