import PackageClosure.Path.Location

set_option autoImplicit false

namespace PackageClosure

namespace Location

def IsInner : Step → Prop
  | .parent => True
  | .name _ => True
  | _ => False

theorem ofPiece?_spelling (step : Step) (inside : IsInner step) :
    Step.ofPiece? step.spelling = some step := by
  cases step with
  | root => exact absurd inside (by simp [IsInner])
  | current => exact absurd inside (by simp [IsInner])
  | parent => simp [Step.ofPiece?, Step.spelling]
  | name n => exact Step.ofPiece?_name n

theorem slash_not_mem_spelling (step : Step) : '/' ∉ step.spelling := by
  cases step with
  | root => simp [Step.spelling]
  | current => simp [Step.spelling]
  | parent => simp [Step.spelling]
  | name n => exact n.isName.2.2.2

theorem inner_intercalate (steps : List Step) (inside : ∀ step ∈ steps, IsInner step) :
    Path.inner (['/'].intercalate (steps.map Step.spelling)) = steps := by
  induction steps with
  | nil => exact Path.inner_nil
  | cons step rest ih =>
      have first := ofPiece?_spelling step (inside step (by simp))
      have single : Path.inner step.spelling = [step] := by
        rw [Path.inner, Text.pieces_of_not_mem _ _ (slash_not_mem_spelling step)]
        simp [first]
      cases rest with
      | nil => simpa using single
      | cons next more =>
          have below := ih fun step member => inside step (by simp [member])
          simp only [List.map_cons, List.intercalate_cons_cons] at below ⊢
          rw [List.append_assoc, List.singleton_append, Path.inner_append, single, below]
          rfl

theorem head_spelling_ne_slash (step : Step) (rest : List Char) (inside : IsInner step) :
    (step.spelling ++ rest).head? ≠ some '/' := by
  intro slash
  cases shape : step.spelling with
  | nil =>
      cases step with
      | root => exact inside
      | current => exact inside
      | parent => simp [Step.spelling] at shape
      | name n => exact n.isName.1 shape
  | cons c more =>
      rw [shape] at slash
      have same : c = '/' := by simpa using slash
      exact slash_not_mem_spelling step (by simp [shape, same])

theorem head_intercalate_ne_slash (steps : List Step) (inside : ∀ step ∈ steps, IsInner step) :
    (['/'].intercalate (steps.map Step.spelling)).head? ≠ some '/' := by
  cases steps with
  | nil => simp
  | cons step rest =>
      have first := inside step (by simp)
      cases rest with
      | nil =>
          have clean := head_spelling_ne_slash step [] first
          simpa using clean
      | cons next more =>
          simp only [List.map_cons, List.intercalate_cons_cons]
          rw [List.append_assoc]
          exact head_spelling_ne_slash step _ first

theorem ofSteps_of_inner (steps : List Step) (inside : ∀ step ∈ steps, IsInner step) :
    Path.ofSteps steps = ⟨String.ofList (['/'].intercalate (steps.map Step.spelling))⟩ := by
  cases steps with
  | nil => rfl
  | cons step rest =>
      cases step with
      | root => exact absurd (inside .root (by simp)) (by simp [IsInner])
      | _ => rfl

theorem followAll_ofSteps (location : Location) (steps : List Step)
    (inside : ∀ step ∈ steps, IsInner step) :
    location.followAll (Path.ofSteps steps).steps = location.followAll steps := by
  rw [ofSteps_of_inner steps inside, Path.steps, Path.followAll_stepsOf]
  simp only [String.toList_ofList]
  rw [if_neg (head_intercalate_ne_slash steps inside), inner_intercalate steps inside]

theorem isInner_names (names : List Name) : ∀ step ∈ names.map Step.name, IsInner step := by
  intro step member
  obtain ⟨name, _, rfl⟩ := List.mem_map.mp member
  trivial

theorem isInner_relative (levels : Nat) (names : List Name) :
    ∀ step ∈ List.replicate levels Step.parent ++ names.map Step.name, IsInner step := by
  intro step member
  rcases List.mem_append.mp member with up | down
  · rw [(List.mem_replicate.mp up).2]
    trivial
  · exact isInner_names names step down

theorem location_path (location : Location) : location.path.location = location := by
  unfold path
  split
  · rename_i same
    rw [same]
    decide
  · rcases location with ⟨start, names⟩
    cases start with
    | root =>
        simp only [steps, Path.ofSteps, Path.location, join, Path.steps, String.toList_ofList]
        rw [Path.followAll_stepsOf, List.head?_cons, if_pos rfl, Path.inner_slash,
          inner_intercalate _ (isInner_names names), followAll_names]
        rfl
    | above levels =>
        simp only [steps, Path.location, join]
        rw [followAll_ofSteps _ _ (isInner_relative levels names)]
        exact followAll_steps ⟨.above levels, names⟩

theorem path_injective {left right : Location} (same : left.path = right.path) : left = right := by
  rw [← location_path left, same, location_path]

theorem intercalate_concat (separator last first : List Char) (rest : List (List Char)) :
    separator.intercalate (first :: rest ++ [last]) =
      separator.intercalate (first :: rest) ++ separator ++ last := by
  induction rest generalizing first with
  | nil => simp
  | cons next more ih =>
      have below := ih next
      simp only [List.cons_append, List.intercalate_cons_cons] at below ⊢
      rw [below]
      simp

theorem spelling_intercalate_concat (steps : List Step) (name : Name) (filled : steps ≠ []) :
    ['/'].intercalate ((steps ++ [Step.name name]).map Step.spelling) =
      ['/'].intercalate (steps.map Step.spelling) ++ '/' :: name.text.toList := by
  cases steps with
  | nil => exact absurd rfl filled
  | cons first rest =>
      rw [List.map_append, List.map_cons, List.map_singleton, intercalate_concat,
        List.append_assoc]
      rfl

theorem getLast?_spelling (step : Step) (inside : IsInner step) :
    ∃ c, step.spelling.getLast? = some c ∧ c ≠ '/' := by
  cases shape : step.spelling.getLast? with
  | none =>
      have reads := ofPiece?_spelling step inside
      rw [List.getLast?_eq_none_iff.mp shape] at reads
      cases reads
  | some c =>
      refine ⟨c, rfl, ?_⟩
      rintro rfl
      exact slash_not_mem_spelling step (List.mem_of_getLast? shape)

theorem getLast?_intercalate (steps : List Step) (inside : ∀ step ∈ steps, IsInner step)
    (filled : steps ≠ []) :
    ∃ c, (['/'].intercalate (steps.map Step.spelling)).getLast? = some c ∧ c ≠ '/' := by
  induction steps with
  | nil => exact absurd rfl filled
  | cons step rest ih =>
      cases rest with
      | nil => simpa using getLast?_spelling step (inside step (by simp))
      | cons next more =>
          obtain ⟨c, last, other⟩ :=
            ih (fun step member => inside step (by simp [member])) (by simp)
          refine ⟨c, ?_, other⟩
          simp only [List.map_cons, List.intercalate_cons_cons] at last ⊢
          rw [List.getLast?_append, last]
          rfl

theorem text_path_ne_empty (location : Location) : location.path.text ≠ "" := by
  intro empty
  unfold path at empty
  split at empty
  · exact absurd empty (by decide)
  · rename_i apart
    rcases location with ⟨start, names⟩
    cases start with
    | root => simp [steps, Path.ofSteps] at empty
    | above levels =>
        have inside := isInner_relative levels names
        have filled : List.replicate levels Step.parent ++ names.map Step.name ≠ [] := by
          intro none
          simp_all [here]
        obtain ⟨c, last, _⟩ := getLast?_intercalate _ inside filled
        simp only [steps] at empty
        rw [ofSteps_of_inner _ inside] at empty
        have nothing := congrArg String.toList empty
        rw [String.toList_ofList] at nothing
        rw [nothing] at last
        cases last

theorem child_ofList (text : List Char) (name : Name) (c : Char) (last : text.getLast? = some c) :
    (⟨String.ofList text⟩ : Path).child name =
      ⟨String.ofList (text ++ (if c = '/' then [] else ['/']) ++ name.text.toList)⟩ := by
  have relative : (⟨name.text⟩ : Path).isAbsolute = false := by
    refine decide_eq_false fun slash => ?_
    exact name.isName.2.2.2 (List.mem_of_head? slash)
  have filled : text ≠ [] := by
    rintro rfl
    cases last
  rw [Path.child, Path.join, relative]
  by_cases slash : c = '/'
  · simp [last, slash]
  · simp [filled, last, slash, String.append_assoc]

theorem steps_child (location : Location) (name : Name) :
    (location.child name).steps = location.steps ++ [Step.name name] := by
  rcases location with ⟨start, names⟩
  cases start <;> simp [steps, child]

theorem path_child (location : Location) (name : Name) (apart : location ≠ here) :
    location.path.child name = (location.child name).path := by
  have deeper : location.child name ≠ here := by simp [child, here]
  rw [path, path, if_neg apart, if_neg deeper, steps_child]
  rcases location with ⟨start, names⟩
  cases start with
  | root =>
      simp only [steps, List.cons_append, Path.ofSteps]
      have inside := isInner_names names
      by_cases empty : names = []
      · rw [child_ofList _ name '/' (by simp [empty])]
        simp [empty, Step.spelling]
      · have filled : names.map Step.name ≠ [] := by simpa using empty
        obtain ⟨c, last, other⟩ := getLast?_intercalate _ inside filled
        rw [child_ofList _ name c (by rw [List.getLast?_cons, last]; rfl), if_neg other,
          spelling_intercalate_concat _ name filled]
        simp
  | above levels =>
      have inside := isInner_relative levels names
      have below := isInner_relative levels (names ++ [name])
      simp only [steps]
      have filled : List.replicate levels Step.parent ++ names.map Step.name ≠ [] := by
        intro empty
        simp_all [here]
      rw [List.map_append, List.map_singleton, ← List.append_assoc] at below
      obtain ⟨c, last, other⟩ := getLast?_intercalate _ inside filled
      rw [ofSteps_of_inner _ inside, ofSteps_of_inner _ below, child_ofList _ name c last,
        if_neg other, spelling_intercalate_concat _ name filled]
      simp

end Location

namespace Path

theorem normalize_normalize (path : Path) : path.normalize.normalize = path.normalize := by
  rw [normalize, normalize, Location.location_path]

end Path

end PackageClosure
