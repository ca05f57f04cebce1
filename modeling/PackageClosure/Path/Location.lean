import PackageClosure.Path.Basic

set_option autoImplicit false

namespace PackageClosure

/-- The root, or the directory some levels above the one a relative path starts from. -/
inductive Start where
  | root
  | above (levels : Nat)
deriving DecidableEq

structure Location where
  start : Start
  names : List Name
deriving DecidableEq

namespace Location

def here : Location := ⟨.above 0, []⟩

def root : Location := ⟨.root, []⟩

def isAbsolute (location : Location) : Bool := location.start = .root

def child (location : Location) (name : Name) : Location :=
  { location with names := location.names ++ [name] }

def up (location : Location) : Location :=
  match location.names, location.start with
  | [], .root => location
  | [], .above levels => ⟨.above (levels + 1), []⟩
  | names, start => ⟨start, names.dropLast⟩

def follow (location : Location) : Step → Location
  | .root => root
  | .current => location
  | .parent => location.up
  | .name n => location.child n

def followAll (location : Location) (steps : List Step) : Location := steps.foldl follow location

def join (location : Location) (path : Path) : Location := location.followAll path.steps

def steps (location : Location) : List Step :=
  match location.start with
  | .root => .root :: location.names.map .name
  | .above levels => List.replicate levels .parent ++ location.names.map .name

def path (location : Location) : Path :=
  if location = here then ⟨"."⟩ else Path.ofSteps location.steps

def parent? (location : Location) : Option Location :=
  match location.names, location.start with
  | [], .root => none
  | [], .above 0 => none
  | [], .above (levels + 1) => if levels = 0 then none else some ⟨.above levels, []⟩
  | [_], .above 0 => none
  | names, start => some ⟨start, names.dropLast⟩

def size (location : Location) : Nat :=
  location.names.length + match location.start with
    | .root => 0
    | .above levels => levels

theorem size_parent_lt (location above : Location) (found : location.parent? = some above) :
    above.size < location.size := by
  rcases location with ⟨start, names⟩
  unfold parent? at found
  dsimp only at found
  split at found <;> simp_all [size]
  · rcases found with ⟨_, rfl⟩
    simp
  · subst found
    cases names with
    | nil =>
        cases start with
        | root => simp_all
        | above levels => cases levels <;> simp_all
    | cons first rest => cases start <;> simp

def ancestors (location : Location) : List Location :=
  match _found : location.parent? with
  | none => []
  | some above => above :: ancestors above
termination_by location.size
decreasing_by exact size_parent_lt _ _ (by assumption)

theorem ancestors_of_parent? (location above : Location) (found : location.parent? = some above) :
    location.ancestors = above :: above.ancestors := by
  rw [ancestors]
  split <;> simp_all

theorem followAll_append (location : Location) (first second : List Step) :
    location.followAll (first ++ second) = (location.followAll first).followAll second :=
  List.foldl_append

theorem followAll_cons (location : Location) (step : Step) (rest : List Step) :
    location.followAll (step :: rest) = (location.follow step).followAll rest := rfl

theorem followAll_names (location : Location) (names : List Name) :
    location.followAll (names.map .name) = { location with names := location.names ++ names } := by
  induction names generalizing location with
  | nil => simp [followAll]
  | cons name rest ih =>
      rw [List.map_cons, followAll_cons, ih]
      simp [follow, child]

theorem followAll_parents (levels more : Nat) :
    (⟨.above levels, []⟩ : Location).followAll (List.replicate more .parent) =
      ⟨.above (levels + more), []⟩ := by
  induction more generalizing levels with
  | zero => rfl
  | succ more ih =>
      rw [List.replicate_succ, followAll_cons]
      have next : (⟨.above levels, []⟩ : Location).follow .parent = ⟨.above (levels + 1), []⟩ := rfl
      rw [next, ih]
      congr 2
      omega

theorem followAll_steps (location : Location) : here.followAll location.steps = location := by
  rcases location with ⟨start, names⟩
  cases start with
  | root =>
      simp only [steps]
      rw [followAll_cons, followAll_names]
      rfl
  | above levels =>
      simp only [steps]
      rw [followAll_append, here, followAll_parents, followAll_names]
      simp

end Location

namespace Path

-- Where the path leads when it is relative to a directory that is not known.
def location (path : Path) : Location := Location.here.join path

def normalize (path : Path) : Path := path.location.path

-- Where the path leads from a current directory. The empty path leads nowhere else than its
-- normal form does.
def locate (current : Location) (path : Path) : Location :=
  if path.text = "" then path.location else current.join path

theorem inner_nil : inner [] = [] := by decide

theorem inner_append (left right : List Char) :
    inner (left ++ '/' :: right) = inner left ++ inner right := by
  rw [inner, Text.pieces_append, List.filterMap_append]
  rfl

theorem inner_slash (rest : List Char) : inner ('/' :: rest) = inner rest := by
  simpa [inner_nil] using inner_append [] rest

theorem inner_trailing (text : List Char) : inner (text ++ ['/']) = inner text := by
  simpa [inner_nil] using inner_append text []

theorem inner_append_of_getLast (left right : List Char) (slash : left.getLast? = some '/') :
    inner (left ++ right) = inner left ++ inner right := by
  obtain ⟨before, rfl⟩ := List.getLast?_eq_some_iff.mp slash
  rw [List.append_assoc, List.singleton_append, inner_append, inner_trailing]

theorem followAll_stepsOf (location : Location) (text : List Char) :
    location.followAll (stepsOf text) =
      (if text.head? = some '/' then Location.root else location).followAll (inner text) := by
  cases text with
  | nil => simp [stepsOf, Text.pieces]
  | cons c rest =>
      by_cases slash : c = '/'
      · subst slash
        simp only [stepsOf, List.head?_cons, if_true, inner_slash]
        rfl
      · have shape : stepsOf (c :: rest) =
            if (Text.pieces '/' (c :: rest)).head? = some ['.'] then .current :: inner (c :: rest)
            else inner (c :: rest) := by
          rw [stepsOf]
          intro tail same
          exact slash (List.cons.inj same).1
        rw [shape]
        have other : ¬ (c :: rest).head? = some '/' := by simpa using slash
        rw [if_neg other]
        split <;> rfl

theorem location_join (base path : Path) :
    (base.join path).location = base.location.join path := by
  have reading (start : Location) (one : Path) : start.join one =
      (if one.text.toList.head? = some '/' then Location.root else start).followAll
        (inner one.text.toList) := followAll_stepsOf start one.text.toList
  rw [location, location, reading _ path]
  unfold Path.join
  dsimp only
  by_cases absolute : path.isAbsolute
  · have head : path.text.toList.head? = some '/' := by simpa [isAbsolute] using absolute
    rw [if_pos absolute, reading, if_pos head, if_pos head]
  · have head : ¬ path.text.toList.head? = some '/' := by simpa [isAbsolute] using absolute
    rw [if_neg absolute, if_neg head]
    split
    · rename_i before
      rw [reading, reading]
      simp only [String.toList_append]
      rcases before with empty | slash
      · have nothing : base.text.toList = [] := empty
        simp [nothing, head, inner_nil, Location.followAll]
      · rw [inner_append_of_getLast _ _ slash, Location.followAll_append]
        cases shape : base.text.toList with
        | nil => simp [shape] at slash
        | cons c rest => simp
    · rename_i before
      rw [reading, reading]
      simp only [String.toList_append]
      have middle : base.text.toList ++ "/".toList ++ path.text.toList =
          base.text.toList ++ '/' :: path.text.toList := by simp
      rw [middle, inner_append, Location.followAll_append]
      cases shape : base.text.toList with
      | nil => exact absurd (Or.inl shape) before
      | cons c rest => simp

theorem location_child (directory : Path) (name : Name) :
    (directory.child name).location = directory.location.child name := by
  have relative : ¬ name.text.toList.head? = some '/' := by
    intro slash
    have member : '/' ∈ name.text.toList := List.mem_of_head? slash
    exact name.isName.2.2.2 member
  rw [child, location_join, Location.join, steps, followAll_stepsOf, if_neg relative, inner,
    Text.pieces_of_not_mem _ _ name.isName.2.2.2]
  simp [Step.ofPiece?_name, Location.followAll, Location.follow]

theorem location_child_inj (directory : Path) (left right : Name) :
    (directory.child left).location = (directory.child right).location ↔ left = right := by
  simp [location_child, Location.child]

theorem location_child_ne (directory : Path) (name : Name) :
    (directory.child name).location ≠ directory.location := by
  intro same
  have names := congrArg (fun location => location.names.length) same
  simp [location_child, Location.child] at names

theorem child_inj (directory : Path) (left right : Name) :
    directory.child left = directory.child right ↔ left = right :=
  ⟨fun same => (directory.location_child_inj left right).mp (congrArg location same), congrArg _⟩

end Path

end PackageClosure
