import PackageClosure.Disk.Storage
import PackageClosure.Proofs.Disk.Spelled
import PackageClosure.Proofs.Sources.Course

set_option autoImplicit false

namespace PackageClosure

namespace Disk

def leadsTo (disk : Disk) (current : Held) (place : Place) (path : Path) : Bool :=
  match disk.find current true path with
  | .ok found => found.place = place
  | .error _ => false

theorem exists_find_of_leadsTo (disk : Disk) (current : Held) (place : Place) (path : Path)
    (leads : disk.leadsTo current place path = true) :
    ∃ found, disk.find current true path = .ok found ∧ found.place = place := by
  unfold leadsTo at leads
  split at leads
  · exact ⟨_, ‹_›, of_decide_eq_true leads⟩
  · cases leads

theorem countP_leadsTo_le (disk : Disk) (current : Held) (directory : Path) (place : Place)
    (paths : List Path) (distinct : paths.Nodup)
    (below : ∀ path ∈ paths, ∃ names : List Name, path = names.foldl Path.child directory) :
    paths.countP (disk.leadsTo current place) ≤ disk.wayCount := by
  have ways : ∀ path ∈ paths.filter (disk.leadsTo current place), ∃ names : List Name,
      path = names.foldl Path.child directory := fun path member =>
    below path (List.mem_of_mem_filter member)
  choose! names spelled using ways
  have apart : ((paths.filter (disk.leadsTo current place)).map names).Nodup := by
    refine (distinct.filter _).map_on fun left inLeft right inRight same => ?_
    rw [spelled left inLeft, spelled right inRight, same]
  have counted := disk.length_le_of_walks (disk.whereIs current) directory.front place _ apart
    fun way member => by
      obtain ⟨path, inside, rfl⟩ := List.mem_map.mp member
      obtain ⟨found, find, there⟩ := disk.exists_find_of_leadsTo current place path
        (List.of_mem_filter inside)
      rw [spelled path inside] at find
      exact ⟨found, disk.lookup_foldl_child current directory _ found find, there⟩
  rwa [List.length_map, ← List.countP_eq_length_filter] at counted

theorem nodup_names_list (disk : Disk) (apart : disk.ShownApart) (current : Held) (path : Path)
    (entries : List DirectoryEntry) (listed : disk.list current path = .ok entries) :
    (entries.map DirectoryEntry.name).Nodup := by
  unfold list at listed
  cases find : disk.find current true path with
  | error error =>
      rw [find] at listed
      cases listed
  | ok found =>
      rw [find] at listed
      dsimp only [bind, Except.bind] at listed
      split at listed
      · have names : DirectoryEntry.name ∘ (fun name : Name =>
            (⟨name.shown, disk.kindOf current (path.child name)⟩ : DirectoryEntry)) =
            Name.shown := by simp only [Function.comp_def]
        rw [← Except.ok.inj listed, List.map_map, names]
        exact apart found.place
      · cases listed
      · cases listed

theorem wayCount_of_no_links (disk : Disk) (none : disk.linkPlaces = []) : disk.wayCount = 1 := by
  rw [wayCount, none, List.length_nil, zero_geom_sum]
  rfl

section

variable (disk : Disk) (current : Held) (directory : Path) (apart : disk.ShownApart)

include apart

theorem countP_picked_le (place : Place) (pick : Sources.Event → Option Path) (listing : Bool)
    (picked : ∀ event path, pick event = some path → event.isListing = listing ∧ event.path = path) :
    ((Sources.course (disk.storage current) directory).filterMap pick).countP
      (disk.leadsTo current place) ≤ disk.wayCount := by
  have distinct := Sources.distinct_course (disk.storage current)
    (fun directory => disk.nodup_names_list apart current directory) directory
  refine disk.countP_leadsTo_le current directory place _ ?_ fun path member => ?_
  · refine distinct.filterMap _ fun left right differ one isLeft other isRight => ?_
    obtain ⟨alike, rfl⟩ := picked left one isLeft
    obtain ⟨alikeToo, rfl⟩ := picked right other isRight
    exact differ (alike.trans alikeToo.symm)
  · obtain ⟨event, inside, isPicked⟩ := List.mem_filterMap.mp member
    obtain ⟨_, rfl⟩ := picked event path isPicked
    exact Sources.below_of_course _ directory event inside

theorem countP_listings_le (place : Place) :
    (Sources.listings (disk.storage current) directory).countP (disk.leadsTo current place) ≤
      disk.wayCount := by
  refine disk.countP_picked_le current directory apart place _ true fun event path isListed => ?_
  cases event <;> cases isListed
  exact ⟨rfl, rfl⟩

theorem countP_files_le (place : Place) :
    ((disk.storage current).sources directory).files.countP (disk.leadsTo current place) ≤
      disk.wayCount := by
  rw [Storage.sources, ← Sources.findings_course]
  dsimp only
  rw [List.filterMap_filterMap]
  refine disk.countP_picked_le current directory apart place _ false fun event path isFile => ?_
  obtain ⟨finding, isFound, isFile⟩ := Option.bind_eq_some_iff.mp isFile
  cases event <;> cases isFound
  cases finding <;> cases isFile
  exact ⟨rfl, rfl⟩

end

end Disk

namespace Loop

def source : Name := ⟨"lib.move", by decide⟩

def around : Name := ⟨"o", by decide⟩

def file : Disk.Node := .file ⟨[], Disk.fileMode, 0, 0⟩

def directory : Disk.Node := .directory Disk.directoryMode

def disk : Disk := ((Disk.empty 0).put [source] file).put [around] (.link ⟨"."⟩)

theorem node?_around : disk.node? ([] ++ [around]) = some (.link ⟨"."⟩) := by decide

theorem wayCount_eq : disk.wayCount = 41 := by
  have one : disk.linkPlaces.length = 1 := by decide
  simp [Disk.wayCount, one, Disk.linkLimit]

theorem shownApart : disk.ShownApart := disk.shownApart_of_text (by decide)

end Loop

namespace Disk

/-- What a search does is what it reports, and what it lists. It lists no place, and reports none,
more often than links can be chosen one after the other, as many as one lookup may follow; so where
there are no links, it lists and reports every place at most once. -/
theorem listings_within (disk : Disk) (current : Held) (directory : Path) (apart : disk.ShownApart)
    (place : Place) :
    let storage := disk.storage current
    let listings := (Sources.listings storage directory).countP (disk.leadsTo current place)
    let reports := (storage.sources directory).files.countP (disk.leadsTo current place)
    (Sources.course storage directory).filterMap Sources.Event.finding? =
        Sources.search storage directory ∧
      (listings ≤ disk.wayCount ∧ reports ≤ disk.wayCount) ∧
      (disk.linkPlaces = [] → listings ≤ 1 ∧ reports ≤ 1) := by
  intro storage listings reports
  have bounded : listings ≤ disk.wayCount ∧ reports ≤ disk.wayCount :=
    ⟨disk.countP_listings_le current directory apart place,
      disk.countP_files_le current directory apart place⟩
  refine ⟨Sources.findings_course storage directory, bounded, fun none => ?_⟩
  rwa [disk.wayCount_of_no_links none] at bounded

theorem listings_within_loop :
    let storage := Loop.disk.storage .root
    let bare := empty 0
    (Loop.disk.ShownApart ∧
        (Sources.listings storage ⟨"/"⟩).countP (Loop.disk.leadsTo .root []) ≤ 41 ∧
        (storage.sources ⟨"/"⟩).files.countP (Loop.disk.leadsTo .root [Loop.source]) ≤ 41) ∧
      bare.ShownApart ∧ bare.linkPlaces = [] ∧
        (Sources.listings (bare.storage .root) ⟨"/"⟩).countP (bare.leadsTo .root []) ≤ 1 := by
  have listings := (listings_within Loop.disk .root ⟨"/"⟩ Loop.shownApart []).2.1.1
  have reports := (listings_within Loop.disk .root ⟨"/"⟩ Loop.shownApart [Loop.source]).2.1.2
  rw [Loop.wayCount_eq] at listings reports
  have apart : (empty 0).ShownApart := (empty 0).shownApart_of_text (by decide)
  have unlinked : (empty 0).linkPlaces = [] := by decide
  exact ⟨⟨Loop.shownApart, listings, reports⟩, apart, unlinked,
    ((listings_within (empty 0) .root ⟨"/"⟩ apart []).2.2 unlinked).1⟩

end Disk

namespace Loop

def level (turns : Nat) : Path := (List.replicate turns around).foldl Path.child ⟨"/"⟩

theorem level_succ (turns : Nat) : level (turns + 1) = (level turns).child around := by
  rw [level, List.replicate_succ', List.foldl_append]
  rfl

theorem front_level (turns : Nat) :
    (level turns).front = .root :: List.replicate turns (.name around) := by
  have root : (⟨"/"⟩ : Path).front = [.root] := by decide
  rw [level, Path.front_foldl_child, List.map_replicate, root]
  rfl

theorem fits_level (turns : Nat) : Disk.Fits (level turns) (2 * turns + 1) := by
  induction turns with
  | zero => decide
  | succ turns ih =>
      rw [level_succ]
      exact Disk.fits_child _ around _ ih (by decide)

theorem walk_turns (links turns : Nat) (rest : List Step) :
    disk.walk (links + turns) true [] (List.replicate turns (.name around) ++ rest) =
      disk.walk links true [] rest := by
  induction turns with
  | zero => rfl
  | succ turns ih =>
      have dot : (⟨"."⟩ : Path).lookupSteps = [.current] := by decide
      rw [List.replicate_succ, List.cons_append, ← Nat.add_assoc,
        disk.walk_link _ [] around _ ⟨"."⟩ (by decide) node?_around, dot, List.singleton_append,
        Disk.walk]
      exact ih

def kind : Nat → EntryKind
  | 0 => .unreadable SystemError.tooManyLinks.message
  | _ + 1 => .directory

section

variable {links turns : Nat} (whole : links + turns = Disk.linkLimit)

include whole

theorem walk_level (rest : List Step) :
    disk.walk Disk.linkLimit true (disk.whereIs .root) ((level turns).front ++ rest) =
      disk.walk links true [] rest := by
  rw [front_level, List.cons_append, Disk.walk, ← whole, walk_turns]

theorem accepts_level : Disk.refusal? (level turns) = none := by
  have few : turns ≤ 40 := (Nat.le_add_left turns links).trans_eq whole
  refine Disk.refusal?_of_fits _ _ (fits_level turns) ?_
  unfold Disk.pathLimit
  omega

theorem accepts_child (name : Name) (clean : '\x00' ∉ name.text.toList)
    (short : Text.rawLength name.text.toList ≤ Disk.nameLimit) :
    Disk.refusal? ((level turns).child name) = none := by
  have few : turns ≤ 40 := (Nat.le_add_left turns links).trans_eq whole
  refine Disk.refusal?_of_fits _ _ (Disk.fits_child _ name _ (fits_level turns) clean) ?_
  unfold Disk.nameLimit at short
  unfold Disk.pathLimit
  omega

theorem find_level : disk.find .root true (level turns) = .ok ⟨[], some directory⟩ := by
  have root : (disk.node? []).getD (.directory Disk.directoryMode) = directory := by decide
  rw [disk.find_of_refusal?_none _ _ _ (accepts_level whole), Path.lookupSteps_eq,
    walk_level whole]
  split
  · rw [Disk.walk, Disk.walk, root]
    rfl
  · rw [Disk.walk, root]
    rfl

theorem find_source :
    disk.find .root true ((level turns).child source) = .ok ⟨[source], some file⟩ := by
  have there : disk.node? ([] ++ [source]) = some file := by decide
  rw [disk.find_of_refusal?_none _ _ _ (accepts_child whole source (by decide) (by decide)),
    Path.lookupSteps_child, walk_level whole, Disk.walk, if_neg (by decide)]
  simp only [there]
  rfl

theorem kindOf_source : disk.kindOf .root ((level turns).child source) = .file := by
  rw [Disk.kindOf, Disk.stat, find_source whole]
  rfl

theorem kindOf_around : disk.kindOf .root ((level turns).child around) = kind links := by
  rw [Disk.kindOf, Disk.stat]
  cases links with
  | zero =>
      rw [disk.find_of_refusal?_none _ _ _ (accepts_child whole around (by decide) (by decide)),
        Path.lookupSteps_child, walk_level whole, Disk.walk, if_neg (by decide)]
      simp only [node?_around]
      rfl
  | succ links =>
      have next : links + (turns + 1) = Disk.linkLimit := by omega
      rw [← level_succ, find_level next]
      rfl

theorem list_level : (disk.storage .root).list (level turns) =
    .ok [⟨source, .file⟩, ⟨around, kind links⟩] := by
  have names : disk.namesIn [] = [source, around] := by decide
  have shown : source.shown = source ∧ around.shown = around := by decide
  change disk.list .root (level turns) = _
  rw [disk.list_of_find _ _ _ _ (find_level whole), names, List.map_cons,
    List.map_singleton, kindOf_source whole, kindOf_around whole, shown.1, shown.2]

theorem leadsTo_level : disk.leadsTo .root [] (level turns) = true := by
  rw [Disk.leadsTo, find_level whole]
  decide

theorem leadsTo_source : disk.leadsTo .root [source] ((level turns).child source) = true := by
  rw [Disk.leadsTo, find_source whole]
  decide

theorem course_level : Sources.course (disk.storage .root) (level turns) =
    .listed (level turns) :: .found (.file ((level turns).child source)) ::
      Sources.courseEntry (disk.storage .root) (level (turns + 1)) (kind links) := by
  have isSource : Sources.isSource ((level turns).child source) = true := by
    have same := (level turns).extension?_foldl_child ⟨"/"⟩ [source] (by simp)
    rw [Sources.isSource, decide_eq_true_iff]
    exact same.trans (by decide)
  have ordered (one other : EntryKind) :
      Sources.inOrder [⟨source, one⟩, ⟨around, other⟩] = [⟨source, one⟩, ⟨around, other⟩] := by
    refine List.mergeSort_of_pairwise (List.pairwise_pair.mpr ?_)
    exact (by decide : Text.rawLe source.text around.text = true)
  rw [Sources.course_of_entries _ _ _ (list_level whole), ordered, List.flatMap_cons,
    List.flatMap_singleton, Sources.courseEntry, if_pos isSource, ← level_succ]
  rfl

end

theorem counts (links turns : Nat) (whole : links + turns = Disk.linkLimit) :
    (Sources.listings (disk.storage .root) (level turns)).countP (disk.leadsTo .root []) =
        links + 1 ∧
      ((disk.storage .root).sources (level turns)).files.countP (disk.leadsTo .root [source]) =
        links + 1 := by
  rw [Sources.listings, Storage.sources, ← Sources.findings_course]
  dsimp only
  induction links generalizing turns with
  | zero =>
      rw [course_level whole]
      simp only [kind, Sources.courseEntry, List.filterMap_cons, List.filterMap_nil,
        Sources.Event.listed?, Sources.Event.finding?, Sources.Finding.file?, List.countP_cons,
        List.countP_nil, leadsTo_level whole, leadsTo_source whole]
      simp
  | succ links ih =>
      have below := ih (turns + 1) (by omega)
      rw [course_level whole]
      simp only [kind, Sources.courseEntry, List.filterMap_cons, Sources.Event.listed?,
        Sources.Event.finding?, Sources.Finding.file?, List.countP_cons, leadsTo_level whole,
        leadsTo_source whole, below]
      simp

end Loop

namespace Twins

def odd : Name := ⟨String.singleton (Text.stray 0xFF), by decide⟩

def plain : Name := Name.replacement

def disk : Disk :=
  ((Disk.empty 0).put [odd] (.directory Disk.directoryMode)).put [plain]
    (.directory Disk.directoryMode)

def root : Path := ⟨"/"⟩

theorem find_root : disk.find .root true root = .ok ⟨[], some (.directory Disk.directoryMode)⟩ := by
  have steps : root.lookupSteps = [.root, .current] := by decide
  rw [disk.find_of_refusal?_none _ _ _ (by decide), steps, Disk.walk, Disk.walk, Disk.walk]
  decide

theorem find_entry (name : Name) (accepted : Disk.refusal? (root.child name) = none)
    (short : ¬ Disk.nameLimit < Text.rawLength name.text.toList)
    (there : disk.node? ([] ++ [name]) = some (.directory Disk.directoryMode)) :
    disk.find .root true (root.child name) =
      .ok ⟨[name], some (.directory Disk.directoryMode)⟩ := by
  have front : root.front = [.root] := by decide
  rw [disk.find_of_refusal?_none _ _ _ accepted, Path.lookupSteps_child, front,
    List.singleton_append, Disk.walk, disk.walk_directory _ _ _ _ _ short there, Disk.walk, there]
  rfl

theorem find_plain : disk.find .root true (root.child plain) =
    .ok ⟨[plain], some (.directory Disk.directoryMode)⟩ :=
  find_entry plain (by decide) (by decide) (by decide)

theorem find_odd : disk.find .root true (root.child odd) =
    .ok ⟨[odd], some (.directory Disk.directoryMode)⟩ :=
  find_entry odd (by decide) (by decide) (by decide)

theorem list_root :
    (disk.storage .root).list root = .ok [⟨plain, .directory⟩, ⟨plain, .directory⟩] := by
  have names : disk.namesIn [] = [plain, odd] := by decide
  have shown : plain.shown = plain ∧ odd.shown = plain := by decide
  change disk.list .root root = _
  rw [disk.list_of_find _ _ _ _ find_root, names, List.map_cons, List.map_singleton,
    Disk.kindOf, Disk.kindOf, Disk.stat, Disk.stat, find_plain, find_odd, shown.1, shown.2]
  rfl

theorem list_plain : (disk.storage .root).list (root.child plain) = .ok [] := by
  have names : disk.namesIn [plain] = [] := by decide
  change disk.list .root (root.child plain) = _
  rw [disk.list_of_find _ _ _ _ find_plain, names]
  rfl

theorem listings_root : Sources.listings (disk.storage .root) root =
    [root, root.child plain, root.child plain] := by
  have ordered : Sources.inOrder [⟨plain, .directory⟩, ⟨plain, .directory⟩] =
      [⟨plain, .directory⟩, ⟨plain, .directory⟩] := List.mergeSort_of_pairwise (by decide)
  have nothing : Sources.inOrder [] = [] := List.mergeSort_of_pairwise .nil
  rw [Sources.listings, Sources.course_of_entries _ _ _ list_root, ordered, List.flatMap_cons,
    List.flatMap_singleton, Sources.courseEntry, Sources.course_of_entries _ _ _ list_plain,
    nothing]
  rfl

theorem count : (Sources.listings (disk.storage .root) root).countP
    (disk.leadsTo .root [plain]) = 2 := by
  have apart : disk.leadsTo .root [plain] root = false := by
    rw [Disk.leadsTo, find_root]
    decide
  have same : disk.leadsTo .root [plain] (root.child plain) = true := by
    rw [Disk.leadsTo, find_plain]
    decide
  simp only [listings_root, List.countP_cons, List.countP_nil, apart, same]
  rfl

end Twins

-- A link back to the directory in which it is has this directory listed again and again, until a
-- lookup would follow too many links. Without any link, a directory is listed twice if another name
-- is shown as its own.
theorem listed_again :
    (Sources.listings (Loop.disk.storage .root) ⟨"/"⟩).countP (Loop.disk.leadsTo .root []) = 41 ∧
      ((Loop.disk.storage .root).sources ⟨"/"⟩).files.countP
        (Loop.disk.leadsTo .root [Loop.source]) = 41 ∧
      Twins.disk.linkPlaces = [] ∧
      (Sources.listings (Twins.disk.storage .root) ⟨"/"⟩).countP
        (Twins.disk.leadsTo .root [Twins.plain]) = 2 := by
  obtain ⟨listings, reports⟩ := Loop.counts 40 0 rfl
  exact ⟨listings, reports, by decide, Twins.count⟩

end PackageClosure
