import Mathlib.Data.List.Chain
import Mathlib.Data.List.Nodup
import PackageClosure.Proofs.Resolution.Dependence

set_option autoImplicit false

namespace PackageClosure

open Relation

namespace Trail

variable {storage : Storage}

theorem packages_push (trail : Trail storage) (package : Location)
    (fresh : package ∉ trail.packages) (loaded : (storage.manifestAt package.path).isOk = true) :
    (trail.push package fresh loaded).packages = trail.packages ++ [package] := by
  simp [packages, push]

theorem getLast?_packages (trail : Trail storage) :
    trail.packages.getLast? = some trail.innermost := by
  cases shape : trail.below with
  | nil => simp [packages, innermost, shape]
  | cons package rest => simp [packages, innermost, shape, List.getLast?_cons]

theorem innermost_mem_packages (trail : Trail storage) : trail.innermost ∈ trail.packages :=
  List.mem_of_getLast? trail.getLast?_packages

end Trail

namespace Project

structure Line (project : Project) (packages : List Location) : Prop where
  starts : packages.head? = some project.root
  linked : packages.IsChain project.DependsOn
  distinct : packages.Nodup

namespace Line

variable {project : Project} {packages : List Location}

theorem single (project : Project) : project.Line [project.root] :=
  ⟨rfl, .singleton _, by simp⟩

theorem root_mem (line : project.Line packages) : project.root ∈ packages :=
  List.mem_of_head? line.starts

theorem linked_append (line : project.Line packages) (last other : Location)
    (ends : packages.getLast? = some last) (depends : project.DependsOn last other) :
    (packages ++ [other]).IsChain project.DependsOn := by
  refine line.linked.append (.singleton other) ?_
  intro package isLast next isNext
  have first : last = package := Option.some.inj (ends.symm.trans isLast)
  have second : other = next := Option.some.inj isNext
  rw [← first, ← second]
  exact depends

theorem append (line : project.Line packages) (last other : Location)
    (ends : packages.getLast? = some last) (depends : project.DependsOn last other)
    (fresh : other ∉ packages) : project.Line (packages ++ [other]) where
  starts := by
    rw [List.head?_append, line.starts]
    rfl
  linked := line.linked_append last other ends depends
  distinct := by
    rw [← List.concat_eq_append]
    exact List.Nodup.concat fresh line.distinct

theorem reaches (line : project.Line packages) (package : Location) (member : package ∈ packages) :
    project.Reaches package := by
  have nonempty : packages ≠ [] := List.ne_nil_of_mem member
  have first : packages.head nonempty = project.root := by
    have starts := line.starts
    rw [List.head?_eq_some_head nonempty] at starts
    exact Option.some.inj starts
  refine line.linked.induction project.Reaches packages ?_ ?_ package member
  · exact fun _ _ depends reached => reached.tail depends
  · intro _
    rw [first]
    exact .refl

end Line

theorem cycle_of_chain (project : Project) (above : List Location) (package : Location)
    (linked : (above ++ [package]).IsChain project.DependsOn) (member : package ∈ above) :
    TransGen project.DependsOn package package := by
  obtain ⟨before, after, rfl⟩ := List.append_of_mem member
  rw [List.append_assoc, List.cons_append] at linked
  have round : (package :: (after ++ [package])).IsChain project.DependsOn := linked.right_of_append
  have step : ∀ other ∈ after ++ [package], TransGen project.DependsOn package other := by
    cases shape : after ++ [package] with
    | nil => simp
    | cons next rest =>
        rw [shape, List.isChain_cons_cons] at round
        refine round.2.induction _ _ ?_ ?_
        · exact fun _ _ depends reached => reached.tail depends
        · exact fun _ => .single round.1
  exact step package (by simp)

-- A walk is always at a place of this kind: its trail is a line from the
-- root, and what is left to look at are the last entries of its last package.
structure Frame (project : Project) (trail : Trail project.resolver.storage) (aliases : Aliases)
    (entries : List Entry) : Prop where
  line : project.Line trail.packages
  given : aliases = project.aliasesOf trail.innermost
  declared : ∃ manifest, project.manifestOf trail.innermost = .ok manifest ∧
    entries <:+ manifest.entries

namespace Frame

variable {project : Project} {trail : Trail project.resolver.storage} {aliases : Aliases}
  {entry : Entry} {entries rest : List Entry}

theorem start (project : Project) :
    project.Frame (.start project.root) project.aliases project.manifest.entries where
  line := .single project
  given := project.aliasesOf_root.symm
  declared := ⟨project.manifest, project.manifestOf_root, List.suffix_refl _⟩

theorem tail (frame : project.Frame trail aliases (entry :: rest)) :
    project.Frame trail aliases rest where
  line := frame.line
  given := frame.given
  declared := by
    obtain ⟨manifest, loaded, whole⟩ := frame.declared
    exact ⟨manifest, loaded, (List.suffix_cons entry rest).trans whole⟩

theorem target?_eq (frame : project.Frame trail aliases entries) (entry : Entry) :
    entry.target? project.resolver.current aliases trail.innermost =
      project.target? trail.innermost entry := by
  rw [target?, frame.given]

theorem depends (frame : project.Frame trail aliases entries) (member : entry ∈ entries)
    (target : Target)
    (found : entry.target? project.resolver.current aliases trail.innermost = some target) :
    project.DependsOn trail.innermost target.location := by
  obtain ⟨manifest, loaded, whole⟩ := frame.declared
  rw [frame.target?_eq] at found
  exact project.depends_on_of_target _ manifest entry target loaded (whole.subset member) found

theorem ne_root (frame : project.Frame trail aliases entries) (package : Location)
    (fresh : package ∉ trail.packages) : package ≠ project.root :=
  fun same => fresh (same ▸ frame.line.root_mem)

theorem manifestOf_fresh (frame : project.Frame trail aliases entries) (package : Location)
    (fresh : package ∉ trail.packages) :
    project.manifestOf package = project.resolver.storage.manifestAt package.path :=
  project.manifestOf_of_ne package (frame.ne_root package fresh)

theorem push (frame : project.Frame trail aliases (entry :: rest)) (target : Target)
    (found : entry.target? project.resolver.current aliases trail.innermost = some target)
    (fresh : target.location ∉ trail.packages) (manifest : Manifest)
    (loaded : project.resolver.storage.manifestAt target.location.path = .ok manifest)
    (readable : (project.resolver.storage.manifestAt target.location.path).isOk = true) :
    project.Frame (trail.push target.location fresh readable) .empty manifest.entries where
  line := by
    rw [Trail.packages_push]
    exact frame.line.append _ _ trail.getLast?_packages
      (frame.depends List.mem_cons_self target found) fresh
  given := (project.aliasesOf_of_ne _ (frame.ne_root _ fresh)).symm
  declared := ⟨manifest, (frame.manifestOf_fresh _ fresh).trans loaded, List.suffix_refl _⟩

end Frame

inductive Justifies (project : Project) : ResolutionError → Prop where
  | cycle (above : List Location) (package : Location) (line : project.Line above)
      (linked : (above ++ [package]).IsChain project.DependsOn) (member : package ∈ above) :
      Justifies project (.cyclicDependency package (above ++ [package]))
  | unreadable (above : List Location) (package : Location) (cause : LoadError)
      (line : project.Line (above ++ [package]))
      (loaded : ∀ other ∈ above, (project.manifestOf other).isOk = true)
      (failed : project.manifestOf package = .error cause) :
      Justifies project (.manifestUnreadable package.path cause)

theorem isOk_manifestOf_of_mem_trail (project : Project)
    (trail : Trail project.resolver.storage) (line : project.Line trail.packages)
    (package : Location) (member : package ∈ trail.packages) :
    (project.manifestOf package).isOk = true := by
  have same : trail.root = project.root := by simpa [Trail.packages] using line.starts
  by_cases root : package = project.root
  · rw [root, project.manifestOf_root]
    rfl
  · rw [project.manifestOf_of_ne package root]
    have below : package ∈ trail.below := by simpa [Trail.packages, same, root] using member
    exact trail.loads package below

theorem walk_error_justified (project : Project) (trail : Trail project.resolver.storage)
    (aliases : Aliases) (entries : List Entry) (progress : Progress) (error : ResolutionError)
    (frame : project.Frame trail aliases entries)
    (failed : project.resolver.walk trail aliases entries progress = .error error) :
    project.Justifies error := by
  fun_induction Resolver.walk project.resolver trail aliases entries progress generalizing error
  case case1 => cases failed
  case case2 ih => exact ih error frame.tail failed
  case case3 trail aliases progress entry rest target found member =>
      cases failed
      exact .cycle trail.packages target.location frame.line
        (frame.line.linked_append _ _ trail.getLast?_packages
          (frame.depends List.mem_cons_self target found)) member
  case case4 ih => exact ih error frame.tail failed
  case case5 trail aliases progress entry rest target found fresh new cause unreadable =>
      cases failed
      refine .unreadable trail.packages target.location cause
        (frame.line.append _ _ trail.getLast?_packages
          (frame.depends List.mem_cons_self target found) fresh)
        (project.isOk_manifestOf_of_mem_trail trail frame.line) ?_
      rw [frame.manifestOf_fresh _ fresh, unreadable]
  case case6 trail aliases progress entry rest target found fresh new manifest loaded _ _ below
      stopped ih =>
      cases failed
      exact ih below (frame.push target found fresh manifest loaded _) stopped
  case case7 ih => exact ih error frame.tail failed

end Project

end PackageClosure
