import PackageClosure.Compiler.Build
import PackageClosure.Compiler.Disassembly
import PackageClosure.Proofs.Disk.Ways

set_option autoImplicit false

namespace PackageClosure

namespace Disk

def isLoose : Option Node → Bool
  | none => true
  | some (.file _) => true
  | _ => false

structure DifferAtMost (current : Held) (paths : List Path) (left right : Disk) : Prop where
  moves : left.moves = right.moves
  time : left.time = right.time
  nodes : ∀ place, left.node? place = right.node? place ∨
    (∃ path ∈ paths, left.Reaches current path place) ∧
      isLoose (left.node? place) = true ∧ isLoose (right.node? place) = true

def Carries (disk : Disk) (current : Held) (place : Place) (path : Path) : Prop :=
  ∃ found, found ≠ place ∧ disk.Reaches current path found ∧
    ¬ (disk.erase place).Reaches current path found

-- A link at one of the paths may be on the way to another one, which is hidden when the link is
-- cleared away. That is the case for none of the paths.
def Uncarried (disk : Disk) (current : Held) (paths : List Path) : Prop :=
  ∀ path ∈ paths, ∀ place target, disk.Reaches current path place →
    disk.node? place = some (.link target) → ∀ other ∈ paths, ¬ disk.Carries current place other

def Beside (steps : List Step) (paths : List Path) : Prop :=
  ∀ path ∈ paths, ∃ name, path.lookupSteps = steps ++ [.name name]

theorem way?_of_isLoose (disk : Disk) (place : Place) (loose : isLoose (disk.node? place) = true) :
    disk.way? place = none := by
  unfold way?
  cases there : disk.node? place with
  | none => rfl
  | some node =>
      rw [there] at loose
      cases node with
      | file file => rfl
      | _ => cases loose

namespace DifferAtMost

variable {current : Held} {paths : List Path} {left right : Disk}

theorem ways (differ : DifferAtMost current paths left right) (place : Place) :
    left.way? place = right.way? place := by
  rcases differ.nodes place with same | ⟨_, leftLoose, rightLoose⟩
  · unfold way?
    rw [same]
  · rw [left.way?_of_isLoose place leftLoose, right.way?_of_isLoose place rightLoose]

theorem hasDirectory_eq (differ : DifferAtMost current paths left right) (place : Place) :
    left.hasDirectory place = right.hasDirectory place := by
  have ways := differ.ways
  rw [Bool.eq_iff_iff]
  constructor
  · exact hasDirectory_of_way? left right (fun place node way => ways place ▸ way) place
  · exact hasDirectory_of_way? right left (fun place node way => (ways place).symm ▸ way) place

theorem eq_of_nil (differ : DifferAtMost current [] left right) : left = right := by
  refine ext_node? (fun place => ?_) differ.moves differ.time
  rcases differ.nodes place with same | ⟨⟨_, none, _⟩, _⟩
  · exact same
  · cases none

theorem eq_or_leads {steps : List Step} (beside : Beside steps paths)
    (differ : DifferAtMost current paths left right) :
    left = right ∨ ∃ goal, left.Leads linkLimit (left.whereIs current) steps goal ∧
      right.Leads linkLimit (right.whereIs current) steps goal := by
  by_cases same : ∀ place, left.node? place = right.node? place
  · exact Or.inl (ext_node? same differ.moves differ.time)
  · obtain ⟨place, other⟩ := Classical.not_forall.mp same
    rcases differ.nodes place with same | ⟨⟨path, member, reaches⟩, _⟩
    · exact absurd same other
    · obtain ⟨name, spelled⟩ := beside path member
      obtain ⟨_, _, goal, leads, _⟩ := (reaches_iff spelled left place).mp reaches
      have start : left.whereIs current = right.whereIs current := by
        rw [whereIs, whereIs, differ.moves]
      refine Or.inr ⟨goal, leads, ?_⟩
      rw [← start]
      exact Leads.mono (fun place node way => differ.ways place ▸ way) _ _ _ _ leads

theorem of_not_reaches {path : Path} (differ : DifferAtMost current (path :: paths) left right)
    (apart : ∀ place, ¬ left.Reaches current path place) :
    DifferAtMost current paths left right where
  moves := differ.moves
  time := differ.time
  nodes place := by
    rcases differ.nodes place with same | ⟨⟨other, member, reaches⟩, loose⟩
    · exact Or.inl same
    · rcases List.mem_cons.mp member with rfl | below
      · exact absurd reaches (apart place)
      · exact Or.inr ⟨⟨other, below, reaches⟩, loose⟩

theorem erase {path : Path} {gone : Place}
    (differ : DifferAtMost current (path :: paths) left right)
    (reached : ∀ place, left.Reaches current path place → place = gone)
    (kept : ∀ other ∈ paths, ∀ place, place ≠ gone → left.Reaches current other place →
      (left.erase gone).Reaches current other place) :
    DifferAtMost current paths (left.erase gone) (right.erase gone) where
  moves := differ.moves
  time := differ.time
  nodes place := by
    rw [node?_erase, node?_erase]
    split
    · exact Or.inl rfl
    · rename_i apart
      rcases differ.nodes place with same | ⟨⟨other, member, reaches⟩, loose⟩
      · exact Or.inl same
      · rcases List.mem_cons.mp member with rfl | below
        · exact absurd (reached place reaches) apart
        · exact Or.inr ⟨⟨other, below, kept other below place apart reaches⟩, loose⟩

end DifferAtMost

section

variable {current : Held} {path other : Path} {paths : List Path} {steps : List Step}
variable {name : Name} {disk : Disk} {gone place found : Place}

theorem Reaches.erase_erase (spelled : other.lookupSteps = steps ++ [.name name])
    (apart : found ≠ place) (plain : disk.hasDirectory place = false)
    (one : (disk.erase gone).Reaches current other found)
    (two : (disk.erase place).Reaches current other found) :
    ((disk.erase gone).erase place).Reaches current other found := by
  obtain ⟨accepted, short, goal, leads, same, there⟩ := (reaches_iff spelled _ found).mp one
  obtain ⟨_, _, again, further, equal, _⟩ := (reaches_iff spelled _ found).mp two
  obtain rfl : goal = again := List.append_cancel_right (same.symm.trans equal)
  refine (reaches_iff spelled _ found).mpr ⟨accepted, short, goal, ?_, same, ?_⟩
  · refine Leads.meet (fun spot left right first second => ?_) _ _ _ _ leads further
    have before := disk.way?_of_erase gone spot left first
    have after := disk.way?_of_erase place spot right second
    refine ⟨Option.some.inj (before.symm.trans after), ?_⟩
    have elsewhere : spot ≠ place := fun here => by
      simp [way?, node?_erase, here] at second
    simpa [way?, node?_erase, elsewhere] using first
  · refine there.imp (fun some => by rwa [node?_erase, if_neg apart]) fun directory => ?_
    have elsewhere : goal ≠ place := fun here => by
      have before := hasDirectory_of_way? (disk.erase gone) disk (disk.way?_of_erase gone) goal
        directory
      rw [here, plain] at before
      cases before
    rwa [hasDirectory, node?_erase, if_neg elsewhere]

namespace Uncarried

theorem kept (uncarried : disk.Uncarried current (path :: paths))
    (beside : Beside steps (path :: paths)) (reached : ∀ node, disk.node? gone = some node →
      disk.Reaches current path gone) (closed : disk.hasDirectory gone = false) :
    ∀ other ∈ paths, ∀ place, place ≠ gone → disk.Reaches current other place →
      (disk.erase gone).Reaches current other place := by
  intro other member place apart reaches
  have plain (way : disk.way? gone = none) : (disk.erase gone).Reaches current other place := by
    obtain ⟨name, spelled⟩ := beside other (List.mem_cons_of_mem path member)
    have moves : disk.moves = (disk.erase gone).moves := rfl
    refine Reaches.mono spelled moves (fun spot node before => ?_) place ?_ reaches
    · rwa [disk.way?_erase gone spot way]
    · rw [node?_erase, if_neg apart]
      exact id
  cases there : disk.node? gone with
  | none => exact plain (by simp [way?, there])
  | some node =>
      cases node with
      | directory mode => simp [hasDirectory, there, Node.isDirectory] at closed
      | link target =>
          exact Classical.byContradiction fun hidden =>
            uncarried path List.mem_cons_self gone target (reached _ there) there other
              (List.mem_cons_of_mem path member) ⟨place, apart, reaches, hidden⟩
      | file file => exact plain (by simp [way?, there, Node.leadsOn])
      | device device => exact plain (by simp [way?, there, Node.leadsOn])

theorem tail (uncarried : disk.Uncarried current (path :: paths)) :
    disk.Uncarried current paths :=
  fun one member place target reaches there other below =>
    uncarried one (List.mem_cons_of_mem path member) place target reaches there other
      (List.mem_cons_of_mem path below)

theorem erase (uncarried : disk.Uncarried current paths) (beside : Beside steps paths) :
    (disk.erase gone).Uncarried current paths := by
  rintro one member place target reaches there other below ⟨found, apart, reached, hidden⟩
  obtain ⟨name, spelled⟩ := beside one member
  obtain ⟨last, ending⟩ := beside other below
  obtain ⟨before, same, _⟩ := reaches_of_erase spelled disk gone place _ there reaches
  have plain : disk.hasDirectory place = false := by simp [hasDirectory, same, Node.isDirectory]
  have moves : (disk.erase gone).moves = disk.moves := rfl
  have earlier : disk.Reaches current other found := by
    refine Reaches.mono ending moves (disk.way?_of_erase gone) found (fun some => ?_) reached
    rw [node?_erase] at some
    split at some
    · cases some
    · exact some
  refine uncarried one member place target before same other below ⟨found, apart, earlier, ?_⟩
  exact fun kept => hidden (Reaches.erase_erase ending apart plain reached kept)

end Uncarried

end

theorem erase_of_node?_none (disk : Disk) (place : Place) (absent : disk.node? place = none) :
    disk.erase place = disk := by
  refine ext_node? (fun other => ?_) rfl rfl
  rw [node?_erase]
  split
  · rename_i same
    rw [same, absent]
  · rfl

end Disk

namespace Compiler

variable {α β : Type}

@[simp]
theorem run_pure (value : α) (disk : Disk) :
    (pure value : Run α).run disk = (.ok value, disk) := rfl

@[simp]
theorem run_get (disk : Disk) : (get : Run Disk).run disk = (.ok disk, disk) := rfl

@[simp]
theorem run_set (disk after : Disk) : (set after : Run Unit).run disk = (.ok (), after) := rfl

@[simp]
theorem run_throw (error : Error) (disk : Disk) :
    (throw error : Run α).run disk = (.error error, disk) := rfl

theorem run_bind (first : Run α) (next : α → Run β) (disk : Disk) :
    (first >>= next).run disk =
      match first.run disk with
      | (.ok value, after) => (next value).run after
      | (.error error, after) => (.error error, after) := by
  rcases shape : first.run disk with ⟨result, after⟩
  have step : (first >>= next).run disk =
      ExceptT.bindCont next (first.run disk).1 (first.run disk).2 := rfl
  rw [step, shape]
  cases result <;> rfl

theorem of_run_bind {first : Run α} {next : α → Run β} {before after : Disk} {result : β}
    (ended : (first >>= next).run before = (.ok result, after)) :
    ∃ value between, first.run before = (.ok value, between) ∧
      (next value).run between = (.ok result, after) := by
  rw [run_bind] at ended
  rcases shape : first.run before with ⟨error | value, between⟩
  · rw [shape] at ended
    cases ended
  · rw [shape] at ended
    exact ⟨value, between, rfl, ended⟩

theorem run_runToEnd (executable : Path) (backend : Backend) (disk : Disk) :
    (runToEnd executable backend).run disk =
      match backend disk with
      | .ok (after, status) => (.ok status, after)
      | .error cause => (.error (.notStarted executable cause), disk) := by
  unfold runToEnd
  rw [run_bind, run_get]
  dsimp only
  rcases backend disk with cause | ⟨after, status⟩
  · rfl
  · dsimp only
    rw [run_bind, run_set]
    rfl

theorem run_clear (current : Held) (path : Path) (disk : Disk) :
    (clear current path).run disk =
      match disk.find current false path with
      | .ok ⟨_, none⟩ => (.ok (), disk)
      | .ok ⟨_, some (.directory _)⟩ => (.error (.stale path (.system .isDirectory)), disk)
      | .ok ⟨place, some _⟩ => (.ok (), disk.erase place)
      | .error (.system .notFound) => (.ok (), disk)
      | .error cause => (.error (.stale path cause), disk) := by
  unfold clear Disk.removeFile
  rw [run_bind, run_get]
  dsimp only
  rcases disk.find current false path with cause | ⟨place, none | node⟩
  · cases cause with
    | system error => cases error <;> rfl
    | _ => rfl
  · rfl
  · cases node <;> rfl

def clearAll (current : Held) : List Path → Run Unit
  | [] => pure ()
  | path :: rest => do
      clear current path
      clearAll current rest

variable {current : Held} {steps : List Step}

theorem run_clearAll_cons (path : Path) (rest : List Path) (disk : Disk) :
    (clearAll current (path :: rest)).run disk =
      match (clear current path).run disk with
      | (.ok _, after) => (clearAll current rest).run after
      | (.error error, after) => (.error error, after) := by
  rw [clearAll, run_bind]
  rcases (clear current path).run disk with ⟨_ | _, after⟩ <;> rfl

theorem clearAll_cons_eq_error {path : Path} {rest : List Path} {disk : Disk} {error : Error}
    (ended : ((clear current path).run disk).1 = .error error) :
    ((clearAll current (path :: rest)).run disk).1 = .error error := by
  rw [run_clearAll_cons]
  rcases run : (clear current path).run disk with ⟨result, after⟩
  rw [run] at ended
  subst ended
  rfl

theorem run_clear_entry {path : Path} {name : Name} {goal : Place} {disk : Disk}
    (spelled : path.lookupSteps = steps ++ [.name name])
    (accepted : Disk.refusal? path = none)
    (short : ¬ Disk.nameLimit < Text.rawLength name.text.toList)
    (leads : disk.Leads Disk.linkLimit (disk.whereIs current) steps goal) :
    (clear current path).run disk =
      if disk.hasDirectory (goal ++ [name]) then (.error (.stale path (.system .isDirectory)), disk)
      else (.ok (), disk.erase (goal ++ [name])) := by
  rw [run_clear, disk.find_entry current path steps name goal accepted spelled leads,
    Disk.entry, if_neg short]
  have reading : disk.hasDirectory (goal ++ [name]) =
      (disk.node? (goal ++ [name])).any Disk.Node.isDirectory := rfl
  rw [reading]
  cases there : disk.node? (goal ++ [name]) with
  | none =>
      rw [disk.erase_of_node?_none _ there]
      cases disk.hasDirectory goal <;> rfl
  | some node => cases node <;> rfl

theorem run_clear_long {path : Path} {name : Name} {goal : Place} {disk : Disk}
    (spelled : path.lookupSteps = steps ++ [.name name])
    (accepted : Disk.refusal? path = none)
    (long : Disk.nameLimit < Text.rawLength name.text.toList)
    (leads : disk.Leads Disk.linkLimit (disk.whereIs current) steps goal) :
    (clear current path).run disk = (.error (.stale path (.system .nameTooLong)), disk) := by
  rw [run_clear, disk.find_entry current path steps name goal accepted spelled leads,
    Disk.entry, if_pos long]
  rfl

theorem clear_alike {path : Path} {rest : List Path} {left right : Disk} {goal : Place}
    (beside : Disk.Beside steps (path :: rest))
    (differ : Disk.DifferAtMost current (path :: rest) left right)
    (uncarried : left.Uncarried current (path :: rest))
    (leftLeads : left.Leads Disk.linkLimit (left.whereIs current) steps goal)
    (rightLeads : right.Leads Disk.linkLimit (right.whereIs current) steps goal) :
    (∃ error, ((clear current path).run left).1 = .error error ∧
      ((clear current path).run right).1 = .error error) ∨
    ∃ leftAfter rightAfter, (clear current path).run left = (.ok (), leftAfter) ∧
      (clear current path).run right = (.ok (), rightAfter) ∧
      Disk.DifferAtMost current rest leftAfter rightAfter ∧
      leftAfter.Uncarried current rest := by
  obtain ⟨name, spelled⟩ := beside path List.mem_cons_self
  cases refused : Disk.refusal? path with
  | some error =>
      have leftFind := left.find_of_refusal? current false path error refused
      have rightFind := right.find_of_refusal? current false path error refused
      have apart (place : Place) : ¬ left.Reaches current path place := by
        rintro ⟨node, find⟩
        rw [leftFind] at find
        cases find
      rw [run_clear, run_clear, leftFind, rightFind]
      cases error with
      | system cause =>
          cases cause with
          | notFound =>
              exact Or.inr ⟨left, right, rfl, rfl, differ.of_not_reaches apart, uncarried.tail⟩
          | _ => exact Or.inl ⟨_, rfl, rfl⟩
      | _ => exact Or.inl ⟨_, rfl, rfl⟩
  | none =>
      by_cases short : Disk.nameLimit < Text.rawLength name.text.toList
      · rw [run_clear_long spelled refused short leftLeads,
          run_clear_long spelled refused short rightLeads]
        exact Or.inl ⟨_, rfl, rfl⟩
      · rw [run_clear_entry spelled refused short leftLeads,
          run_clear_entry spelled refused short rightLeads, ← differ.hasDirectory_eq]
        by_cases directory : left.hasDirectory (goal ++ [name]) = true
        · rw [if_pos directory, if_pos directory]
          exact Or.inl ⟨_, rfl, rfl⟩
        · rw [if_neg directory, if_neg directory]
          have closed : left.hasDirectory (goal ++ [name]) = false := by simpa using directory
          have reached (node : Disk.Node) (there : left.node? (goal ++ [name]) = some node) :
              left.Reaches current path (goal ++ [name]) :=
            (Disk.reaches_iff spelled left (goal ++ [name])).mpr
              ⟨refused, short, goal, leftLeads, rfl, Or.inl (by simp [there])⟩
          have below : Disk.Beside steps rest := fun one member =>
            beside one (List.mem_cons_of_mem path member)
          exact Or.inr ⟨_, _, rfl, rfl, differ.erase
            (fun place => Disk.place_of_reaches spelled left goal place leftLeads)
            (uncarried.kept beside reached closed), uncarried.tail.erase below⟩

-- Disks that differ in nothing but what is cleared away make no difference afterwards.
theorem clearAll_alike {paths : List Path} {left right : Disk} (beside : Disk.Beside steps paths)
    (differ : Disk.DifferAtMost current paths left right)
    (uncarried : left.Uncarried current paths) :
    (∃ error, ((clearAll current paths).run left).1 = .error error ∧
      ((clearAll current paths).run right).1 = .error error) ∨
    (clearAll current paths).run left = (clearAll current paths).run right := by
  induction paths generalizing left right with
  | nil => exact Or.inr (by rw [differ.eq_of_nil])
  | cons path rest ih =>
      rcases differ.eq_or_leads beside with rfl | ⟨goal, leftLeads, rightLeads⟩
      · exact Or.inr rfl
      · rcases clear_alike beside differ uncarried leftLeads rightLeads with
          ⟨error, leftEnd, rightEnd⟩ | ⟨leftAfter, rightAfter, leftRun, rightRun, below, further⟩
        · exact Or.inl ⟨error, clearAll_cons_eq_error leftEnd, clearAll_cons_eq_error rightEnd⟩
        · rw [run_clearAll_cons, run_clearAll_cons, leftRun, rightRun]
          exact ih (fun one member => beside one (List.mem_cons_of_mem path member)) below further

theorem after_of_clear {path : Path} {name : Name} {before after : Disk}
    (spelled : path.lookupSteps = steps ++ [.name name])
    (cleared : (clear current path).run before = (.ok (), after)) :
    after.Lacks current path ∧ (after = before ∨ ∃ gone, after = before.erase gone) := by
  rw [run_clear] at cleared
  split at cleared
  · rename_i place find
    obtain rfl := (Prod.mk.inj cleared).2
    refine ⟨?_, Or.inl rfl⟩
    intro found again
    rw [find] at again
    rw [← Except.ok.inj again]
  · cases cleared
  · rename_i place node _ find
    obtain rfl := (Prod.mk.inj cleared).2
    exact ⟨Disk.lacks_erase_reached spelled before place ⟨_, find⟩, Or.inr ⟨place, rfl⟩⟩
  · rename_i find
    obtain rfl := (Prod.mk.inj cleared).2
    refine ⟨?_, Or.inl rfl⟩
    intro found again
    rw [find] at again
    cases again
  · cases cleared

theorem lacks_of_clearAll {paths : List Path} {before after : Disk}
    (beside : Disk.Beside steps paths)
    (cleared : (clearAll current paths).run before = (.ok (), after)) :
    (∀ path ∈ paths, after.Lacks current path) ∧
      ∀ (path : Path) (name : Name), path.lookupSteps = steps ++ [.name name] →
        before.Lacks current path → after.Lacks current path := by
  induction paths generalizing before with
  | nil =>
      obtain rfl := (Prod.mk.inj cleared).2
      exact ⟨fun path none => (List.not_mem_nil none).elim, fun path name _ lacks => lacks⟩
  | cons path rest ih =>
      rw [run_clearAll_cons] at cleared
      rcases run : (clear current path).run before with ⟨error | done, between⟩
      · rw [run] at cleared
        cases cleared
      · rw [run] at cleared
        have below := ih (fun one member => beside one (List.mem_cons_of_mem path member)) cleared
        obtain ⟨name, spelled⟩ := beside path List.mem_cons_self
        obtain ⟨gone, change⟩ := after_of_clear spelled run
        refine ⟨fun one member => ?_, fun one name spelled lacks => below.2 one name spelled ?_⟩
        · rcases List.mem_cons.mp member with rfl | member
          · exact below.2 one name spelled gone
          · exact below.1 one member
        · rcases change with rfl | ⟨place, rfl⟩
          · exact lacks
          · exact Disk.lacks_erase spelled before place lacks

end Compiler

end PackageClosure
