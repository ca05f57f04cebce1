import PackageClosure.Fetch
import PackageClosure.Proofs.Resolution.Dependence

set_option autoImplicit false

namespace PackageClosure

namespace Entry

theorem fetchCall?_eq_some_iff (entry : Entry) (call : FetchCall) :
    entry.fetchCall? = some call ↔
      call.name = entry.name ∧ entry.dependency = .git call.url call.rev := by
  rcases entry with ⟨name, dependency, group⟩
  rcases call with ⟨called, url, rev⟩
  cases dependency with
  | git ownUrl ownRev => simp [fetchCall?, eq_comm]
  | path path => simp [fetchCall?]
  | unspecified => simp [fetchCall?]

def asked? (entry : Entry) (answers : FetchCall → Path) (current root : Location) :
    Option Location :=
  match entry.dependency with
  | .git url rev => some ((answers ⟨entry.name, url, rev⟩).locate current)
  | .path path => some (root.path.join path).location
  | .unspecified => none

variable (entry : Entry) (answers : FetchCall → Path) (current root : Location)

theorem asked?_of_call (call : FetchCall) (isCall : entry.fetchCall? = some call) :
    entry.asked? answers current root = some ((answers call).locate current) := by
  obtain ⟨named, isGit⟩ := (entry.fetchCall?_eq_some_iff call).mp isCall
  simp [asked?, isGit, ← named]

theorem asked?_of_no_call (noCall : entry.fetchCall? = none) :
    entry.asked? answers current root =
      entry.dependency.path?.map fun path => (root.path.join path).location := by
  cases shape : entry.dependency with
  | git url rev => simp [fetchCall?, shape] at noCall
  | path path => simp [asked?, shape, Dependency.path?]
  | unspecified => simp [asked?, shape, Dependency.path?]

end Entry

def firstCall? (entries : List Entry) (name : String) : Option FetchCall :=
  entries.findSome? fun entry => if entry.name = name then entry.fetchCall? else none

theorem firstCall?_cons_of_name (entry : Entry) (rest : List Entry) (call : FetchCall)
    (isCall : entry.fetchCall? = some call) :
    firstCall? (entry :: rest) entry.name = some call := by
  simp [firstCall?, isCall]

theorem firstCall?_cons_of_ne (entry : Entry) (rest : List Entry) (name : String)
    (other : entry.name ≠ name) : firstCall? (entry :: rest) name = firstCall? rest name := by
  simp [firstCall?, other]

theorem firstCall?_cons_of_none (entry : Entry) (rest : List Entry) (name : String)
    (noCall : entry.fetchCall? = none) :
    firstCall? (entry :: rest) name = firstCall? rest name := by
  simp [firstCall?, noCall]

theorem exists_of_firstCall? (entries : List Entry) (name : String) (call : FetchCall)
    (first : firstCall? entries name = some call) :
    ∃ entry ∈ entries, entry.name = name ∧ entry.fetchCall? = some call := by
  obtain ⟨entry, member, isCall⟩ := List.exists_of_findSome?_eq_some first
  split at isCall
  · rename_i named
    exact ⟨entry, member, named, isCall⟩
  · cases isCall

theorem firstCall?_isSome (entries : List Entry) (entry : Entry) (member : entry ∈ entries)
    (call : FetchCall) (isCall : entry.fetchCall? = some call) :
    ∃ first, firstCall? entries entry.name = some first := by
  rw [← Option.isSome_iff_exists, firstCall?, List.findSome?_isSome_iff]
  exact ⟨entry, member, by simp [isCall]⟩

section

variable {World : Type}

def Fetcher.Answers (fetcher : Fetcher World) (answers : FetchCall → Path) : Prop :=
  ∀ call world, (fetcher call world).1 = .ok (answers call)

theorem get?_fetchEntries (fetcher : Fetcher World) (answers : FetchCall → Path)
    (answered : fetcher.Answers answers) (entries : List Entry) (aliases : Aliases)
    (world : World) :
    ∃ extended, (fetchEntries fetcher entries aliases world).1 = .ok extended ∧
      ∀ name, extended.get? name =
        (aliases.get? name).or ((firstCall? entries name).map answers) := by
  induction entries generalizing aliases world with
  | nil => exact ⟨aliases, rfl, fun name => by simp [firstCall?]⟩
  | cons entry rest ih =>
      cases isCall : entry.fetchCall? with
      | none =>
          obtain ⟨extended, ok, found⟩ := ih aliases world
          refine ⟨extended, ?_, ?_⟩
          · simpa only [fetchEntries, isCall] using ok
          · intro name
            rw [found, firstCall?_cons_of_none entry rest name isCall]
      | some call =>
          have named := ((entry.fetchCall?_eq_some_iff call).mp isCall).1
          cases given : aliases.get? entry.name with
          | some old =>
              obtain ⟨extended, ok, found⟩ := ih aliases world
              refine ⟨extended, ?_, ?_⟩
              · simpa only [fetchEntries, isCall, given] using ok
              · intro name
                rw [found]
                by_cases same : entry.name = name
                · rw [← same, given, Option.some_or, Option.some_or]
                · rw [firstCall?_cons_of_ne entry rest name same]
          | none =>
              have answer := answered call world
              cases shape : fetcher call world with
              | mk outcome after =>
                  rw [shape] at answer
                  have isPath : outcome = .ok (answers call) := answer
                  obtain ⟨extended, ok, found⟩ :=
                    ih (aliases.insert call.name (answers call)) after
                  refine ⟨extended, ?_, ?_⟩
                  · simpa only [fetchEntries, isCall, given, shape, isPath] using ok
                  · intro name
                    rw [found, SortedMap.get?_insert, named]
                    by_cases same : name = entry.name
                    · rw [if_pos same, same, given, firstCall?_cons_of_name entry rest call isCall]
                      rfl
                    · rw [if_neg same, firstCall?_cons_of_ne entry rest name (Ne.symm same)]

end

theorem location_target?_of_fetched (manifest : Manifest) (aliases extended : Aliases)
    (answers : FetchCall → Path) (current root : Location)
    (found : ∀ name, extended.get? name =
      (aliases.get? name).or ((firstCall? manifest.entries name).map answers))
    (entry : Entry) (free : aliases.get? entry.name = none) :
    (entry.target? current extended root).map Target.location =
      match firstCall? manifest.entries entry.name with
      | some call => some ((answers call).locate current)
      | none => entry.dependency.path?.map fun path => (root.path.join path).location := by
  unfold Entry.target?
  rw [found, free, Option.none_or]
  cases firstCall? manifest.entries entry.name with
  | some call => rfl
  | none =>
      simp only [root.location_join_path, Option.map_none, Option.map_map]
      rfl

theorem locate_slash (current : Location) : (⟨"/"⟩ : Path).locate current = .root := by
  have steps : (⟨"/"⟩ : Path).steps = [.root] := by decide
  rw [Path.locate, if_neg (by decide), Location.join, steps]
  rfl

theorem locate_slash_a (current : Location) :
    (⟨"/a"⟩ : Path).locate current = Location.root.child ⟨"a", by decide⟩ := by
  have steps : (⟨"/a"⟩ : Path).steps = [.root, .name ⟨"a", by decide⟩] := by decide
  rw [Path.locate, if_neg (by decide), Location.join, steps]
  rfl

theorem locate_slash_ne (current : Location) :
    (⟨"/"⟩ : Path).locate current ≠ (⟨"/a"⟩ : Path).locate current := by
  rw [locate_slash, locate_slash_a]
  decide

namespace Manifest

/-- With the aliases that fetching comes to, every entry that had no alias before stands for the
package that it asks for. -/
def ServedAsAsked (manifest : Manifest) (aliases extended : Aliases)
    (answers : FetchCall → Path) (current root : Location) : Prop :=
  ∀ entry ∈ manifest.entries, aliases.get? entry.name = none →
    (entry.target? current extended root).map Target.location =
      entry.asked? answers current root

def Unmixed (manifest : Manifest) (aliases : Aliases) : Prop :=
  ∀ one ∈ manifest.entries, ∀ call, one.fetchCall? = some call → aliases.get? one.name = none →
    ∀ other ∈ manifest.entries, other.name = one.name → other.fetchCall? = some call

variable {manifest : Manifest} {aliases : Aliases} {current root : Location}

theorem Unmixed.served (unmixed : manifest.Unmixed aliases) (extended : Aliases)
    (answers : FetchCall → Path)
    (found : ∀ name, extended.get? name =
      (aliases.get? name).or ((firstCall? manifest.entries name).map answers)) :
    manifest.ServedAsAsked aliases extended answers current root := by
  intro entry member free
  rw [location_target?_of_fetched manifest aliases extended answers current root found entry free]
  cases first : firstCall? manifest.entries entry.name with
  | some call =>
      obtain ⟨source, isEntry, named, isCall⟩ := exists_of_firstCall? _ _ call first
      have same := unmixed source isEntry call isCall (named ▸ free) entry member named.symm
      exact (entry.asked?_of_call answers current root call same).symm
  | none =>
      cases isCall : entry.fetchCall? with
      | none => exact (entry.asked?_of_no_call answers current root isCall).symm
      | some call =>
          obtain ⟨other, isFirst⟩ := firstCall?_isSome manifest.entries entry member call isCall
          rw [first] at isFirst
          cases isFirst

def AlwaysServed (manifest : Manifest) (aliases : Aliases) (current root : Location) : Prop :=
  ∀ (World : Type) (fetcher : Fetcher World) (answers : FetchCall → Path) (world : World),
    fetcher.Answers answers →
      ∃ extended, (manifest.fetchDependencies fetcher aliases world).1 = .ok extended ∧
        manifest.ServedAsAsked aliases extended answers current root

theorem AlwaysServed.asked (served : manifest.AlwaysServed aliases current root)
    (answers : FetchCall → Path) (entry : Entry) (member : entry ∈ manifest.entries)
    (free : aliases.get? entry.name = none) (first : FetchCall)
    (isFirst : firstCall? manifest.entries entry.name = some first) :
    entry.asked? answers current root = some ((answers first).locate current) := by
  let fetcher : Fetcher Unit := fun call world => (.ok (answers call), world)
  have answered : fetcher.Answers answers := fun _ _ => rfl
  obtain ⟨extended, ok, found⟩ :=
    get?_fetchEntries fetcher answers answered manifest.entries aliases ()
  obtain ⟨again, alsoOk, asAsked⟩ := served Unit fetcher answers () answered
  have same : extended = again := Except.ok.inj (ok.symm.trans alsoOk)
  subst same
  rw [← asAsked entry member free, location_target?_of_fetched manifest aliases extended answers
    current root found entry free, isFirst]

theorem AlwaysServed.call_eq (served : manifest.AlwaysServed aliases current root) (entry : Entry)
    (member : entry ∈ manifest.entries) (free : aliases.get? entry.name = none)
    (call first : FetchCall) (isCall : entry.fetchCall? = some call)
    (isFirst : firstCall? manifest.entries entry.name = some first) : call = first := by
  refine Decidable.byContradiction fun differs => ?_
  let answers (asked : FetchCall) : Path := if asked = first then ⟨"/"⟩ else ⟨"/a"⟩
  have asks := served.asked answers entry member free first isFirst
  rw [entry.asked?_of_call answers current root call isCall, Option.some.injEq] at asks
  have toFirst : answers first = ⟨"/"⟩ := if_pos rfl
  have toCall : answers call = ⟨"/a"⟩ := if_neg differs
  rw [toFirst, toCall] at asks
  exact locate_slash_ne current asks.symm

-- An entry that asks for no call gets no answer of a fetcher, so it does not have the name of one
-- that does.
theorem AlwaysServed.fetchCall?_ne_none (served : manifest.AlwaysServed aliases current root)
    (entry : Entry) (member : entry ∈ manifest.entries) (free : aliases.get? entry.name = none)
    (first : FetchCall) (isFirst : firstCall? manifest.entries entry.name = some first) :
    entry.fetchCall? ≠ none := by
  intro noCall
  have asks (answers : FetchCall → Path) := served.asked answers entry member free first isFirst
  simp only [entry.asked?_of_no_call _ current root noCall] at asks
  have same := (asks fun _ => ⟨"/"⟩).symm.trans (asks fun _ => ⟨"/a"⟩)
  exact locate_slash_ne current (Option.some.inj same)

theorem AlwaysServed.unmixed (served : manifest.AlwaysServed aliases current root) :
    manifest.Unmixed aliases := by
  intro one isOne call isCall free other isOther named
  obtain ⟨first, isFirst⟩ := firstCall?_isSome manifest.entries one isOne call isCall
  have same := served.call_eq one isOne free call first isCall isFirst
  rw [← named] at free isFirst
  cases shape : other.fetchCall? with
  | none => exact absurd shape (served.fetchCall?_ne_none other isOther free first isFirst)
  | some another =>
      have alsoFirst := served.call_eq other isOther free another first shape isFirst
      rw [same, alsoFirst]

end Manifest

theorem served_as_asked_iff (manifest : Manifest) (aliases : Aliases) (current root : Location) :
    manifest.AlwaysServed aliases current root ↔ manifest.Unmixed aliases := by
  constructor
  · exact Manifest.AlwaysServed.unmixed
  · intro unmixed World fetcher answers world answered
    obtain ⟨extended, ok, found⟩ :=
      get?_fetchEntries fetcher answers answered manifest.entries aliases world
    exact ⟨extended, ok, unmixed.served extended answers found⟩

namespace Namesake

def onDisk : Entry := ⟨"Lib", .path ⟨"../lib"⟩, .regular⟩

def manifest : Manifest :=
  ⟨⟨"App", "1", [], none⟩, .empty, .ofList [("Lib", .path ⟨"../lib"⟩)],
    .ofList [("Lib", .git "https://example.com/lib.git" (some "v1"))]⟩

def answers (call : FetchCall) : Path := ⟨"/cache/" ++ call.name⟩

def fetcher : Fetcher Unit := fun call world => (.ok (answers call), world)

def root : Location := (⟨"/app"⟩ : Path).location

end Namesake

theorem fetched_instead_of_path :
    Namesake.onDisk ∈ Namesake.manifest.entries ∧
      ∃ extended,
        (Namesake.manifest.fetchDependencies Namesake.fetcher .empty ()).1 = .ok extended ∧
        (Namesake.onDisk.target? .root extended Namesake.root).map Target.location =
          some (⟨"/cache/Lib"⟩ : Path).location ∧
        Namesake.onDisk.asked? Namesake.answers .root Namesake.root =
          some (⟨"/lib"⟩ : Path).location ∧
        (⟨"/cache/Lib"⟩ : Path).location ≠ (⟨"/lib"⟩ : Path).location := by
  refine ⟨by decide, .ofList [("Lib", ⟨"/cache/Lib"⟩)], rfl, ?_⟩
  decide

end PackageClosure
