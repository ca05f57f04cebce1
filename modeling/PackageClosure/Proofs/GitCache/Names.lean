import Mathlib.Data.List.Forall2
import PackageClosure.GitCache.Name
import PackageClosure.Fetch

set_option autoImplicit false

namespace PackageClosure

namespace GitCache

def Blurred (left right : Char) : Prop :=
  left = right ∨ (left.isAlphanum = false ∧ right.isAlphanum = false)

theorem masked_eq_iff (left right : Char) :
    ((if left.isAlphanum then left else '_') = if right.isAlphanum then right else '_') ↔
      Blurred left right := by
  have underscore : '_'.isAlphanum = false := by decide
  unfold Blurred
  by_cases leftPlain : left.isAlphanum <;> by_cases rightPlain : right.isAlphanum
  · simp [leftPlain, rightPlain]
  · have apart : left ≠ '_' := fun same => by simp [same, underscore] at leftPlain
    have different : left ≠ right := fun same => rightPlain (same ▸ leftPlain)
    simp [leftPlain, rightPlain, apart, different]
  · have apart : '_' ≠ right := fun same => by simp [← same, underscore] at rightPlain
    have different : left ≠ right := fun same => leftPlain (same ▸ rightPlain)
    simp [leftPlain, rightPlain, apart, different]
  · simp [leftPlain, rightPlain]

theorem sanitize_eq_iff (left right : String) :
    sanitize left = sanitize right ↔ List.Forall₂ Blurred left.toList right.toList := by
  rw [sanitize, sanitize, String.ofList_inj, ← List.forall₂_eq_eq_eq, List.forall₂_map_left_iff,
    List.forall₂_map_right_iff]
  simp only [masked_eq_iff]

def joined (url : String) (rev : Option String) : String :=
  match rev with
  | none => url
  | some rev => url ++ "_" ++ rev

theorem entryName_eq_sanitize (url : String) (rev : Option String) :
    entryName url rev = sanitize (joined url rev) := by
  cases rev with
  | none => rfl
  | some rev =>
      apply String.toList_inj.mp
      simp [entryName, sanitize, joined]

theorem entryName_eq_iff (url other : String) (rev otherRev : Option String) :
    entryName url rev = entryName other otherRev ↔
      List.Forall₂ Blurred (joined url rev).toList (joined other otherRev).toList := by
  rw [entryName_eq_sanitize, entryName_eq_sanitize, sanitize_eq_iff]

theorem plain_of_mem_entryName (url : String) (rev : Option String) (c : Char)
    (member : c ∈ (entryName url rev).toList) : c.isAlphanum ∨ c = '_' := by
  rw [entryName_eq_sanitize, sanitize, String.toList_ofList] at member
  obtain ⟨source, -, rfl⟩ := List.mem_map.mp member
  by_cases plain : source.isAlphanum
  · simp [plain]
  · simp [plain]

theorem not_mem_entryName (url : String) (rev : Option String) (c : Char)
    (special : c.isAlphanum = false) (other : c ≠ '_') : c ∉ (entryName url rev).toList := by
  intro member
  rcases plain_of_mem_entryName url rev c member with plain | underscore
  · simp [special] at plain
  · exact other underscore

theorem stagingName_ne_entryName (entry url : String) (rev : Option String) :
    stagingName entry ≠ entryName url rev := by
  intro same
  apply not_mem_entryName url rev '.' (by decide) (by decide)
  simp [← same, stagingName]

theorem isName_stagingName (url : String) (rev : Option String) :
    IsName (stagingName (entryName url rev)).toList := by
  have long : 2 < (stagingName (entryName url rev)).toList.length := by simp [stagingName]
  refine ⟨?_, ?_, ?_, ?_⟩
  · rintro empty
    simp [empty] at long
  · rintro current
    simp [current] at long
  · rintro parent
    simp [parent] at long
  · have plain := not_mem_entryName url rev '/' (by decide) (by decide)
    simpa [stagingName] using plain

theorem isName_entryName (url : String) (rev : Option String) (filled : joined url rev ≠ "") :
    IsName (entryName url rev).toList := by
  refine ⟨?_, ?_, ?_, not_mem_entryName url rev '/' (by decide) (by decide)⟩
  · rw [entryName_eq_sanitize]
    simpa [sanitize] using filled
  · intro current
    exact not_mem_entryName url rev '.' (by decide) (by decide) (by simp [current])
  · intro parent
    exact not_mem_entryName url rev '.' (by decide) (by decide) (by simp [parent])

end GitCache

namespace FetchCall

def joined (call : FetchCall) : String := GitCache.joined call.url call.rev

def Alike (left right : FetchCall) : Prop :=
  List.Forall₂ GitCache.Blurred left.joined.toList right.joined.toList

theorem alike_iff (left right : FetchCall) :
    left.Alike right ↔
      GitCache.entryName left.url left.rev = GitCache.entryName right.url right.rev :=
  (GitCache.entryName_eq_iff left.url right.url left.rev right.rev).symm

instance (left right : FetchCall) : Decidable (left.Alike right) :=
  decidable_of_iff _ (alike_iff left right).symm

theorem alike_refl (call : FetchCall) : call.Alike call := (alike_iff call call).mpr rfl

def entry (call : FetchCall) (filled : call.joined ≠ "") : Name :=
  ⟨GitCache.entryName call.url call.rev, GitCache.isName_entryName call.url call.rev filled⟩

def staging (call : FetchCall) : Name :=
  ⟨GitCache.stagingName (GitCache.entryName call.url call.rev),
    GitCache.isName_stagingName call.url call.rev⟩

theorem entry_eq_iff (left right : FetchCall) (leftFilled : left.joined ≠ "")
    (rightFilled : right.joined ≠ "") :
    left.entry leftFilled = right.entry rightFilled ↔ left.Alike right := by
  rw [alike_iff]
  exact ⟨congrArg Name.text, fun same => Name.ext same⟩

theorem staging_ne_entry (left right : FetchCall) (filled : right.joined ≠ "") :
    left.staging ≠ right.entry filled := fun same =>
  GitCache.stagingName_ne_entryName _ _ _ (congrArg Name.text same)

end FetchCall

end PackageClosure
