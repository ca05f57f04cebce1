import PackageClosure.Address.Argument
import PackageClosure.Graph.Basic
import PackageClosure.Resolution.Target
import PackageClosure.Resolution.Trail

set_option autoImplicit false

namespace PackageClosure

structure Resolver where
  storage : Storage
  current : Location
  named : List AddressArgument

structure Progress where
  -- Packages all of whose dependencies have been gathered.
  completed : List Location
  packages : List Location
  addresses : AddressTable
  graph : Graph
deriving DecidableEq

def Manifest.declarations (manifest : Manifest) : List Declaration :=
  manifest.addresses.entries.map fun entry => ⟨entry.1, entry.2, manifest.package.name⟩

namespace Progress

def addLink (progress : Progress) (source : Location) (entry : Entry) (target : Target) :
    Progress :=
  { progress with
    graph := progress.graph.addLink source target.location
      ⟨entry.name, entry.group, target.aliased⟩ }

def visit (progress : Progress) (source : Location) (entry : Entry) (target : Target)
    (manifest : Manifest) : Progress :=
  let met : Progress :=
    { progress with
      packages :=
        if target.location ∈ progress.packages then progress.packages
        else progress.packages ++ [target.location]
      addresses := progress.addresses.bindAll manifest.declarations
      graph := progress.graph.addNode ⟨manifest.package.name, target.location⟩ }
  met.addLink source entry target

def complete (progress : Progress) (package : Location) : Progress :=
  { progress with completed := progress.completed ++ [package] }

theorem packages_visit (progress : Progress) (source : Location) (entry : Entry) (target : Target)
    (manifest : Manifest) (fresh : target.location ∉ progress.packages) :
    (progress.visit source entry target manifest).packages =
      progress.packages ++ [target.location] := if_neg fresh

theorem nodes_addLink (progress : Progress) (source : Location) (entry : Entry)
    (target : Target) : (progress.addLink source entry target).graph.nodes = progress.graph.nodes :=
  progress.graph.nodes_addLink _ _ _

theorem nodes_visit (progress : Progress) (source : Location) (entry : Entry) (target : Target)
    (manifest : Manifest) (fresh : target.location ∉ progress.graph.locations) :
    (progress.visit source entry target manifest).graph.nodes =
      progress.graph.nodes ++ [⟨manifest.package.name, target.location⟩] :=
  (Graph.nodes_addLink _ _ _ _).trans (progress.graph.nodes_addNode _ fresh)

end Progress

namespace Resolver

theorem push_decreases (storage : Storage) (trail : Trail storage) (package : Location)
    (fresh : package ∉ trail.packages)
    (loaded : (storage.manifestAt package.path).isOk = true) :
    storage.fileBound + 1 - (trail.push package fresh loaded).below.length <
      storage.fileBound + 1 - trail.below.length := by
  have bound := trail.length_below_le
  simp only [Trail.push, List.length_cons]
  omega

-- Gathers what the entries of the innermost package of the trail stand for.
def walk (resolver : Resolver) (trail : Trail resolver.storage) (aliases : Aliases)
    (entries : List Entry) (progress : Progress) : Except ResolutionError Progress :=
  match entries with
  | [] => .ok progress
  | entry :: rest =>
      match entry.target? resolver.current aliases trail.innermost with
      | none => walk resolver trail aliases rest progress
      | some target =>
          if fresh : target.location ∈ trail.packages then
            .error (.cyclicDependency target.location (trail.packages ++ [target.location]))
          else if target.location ∈ progress.completed then
            walk resolver trail aliases rest (progress.addLink trail.innermost entry target)
          else
            match loaded : resolver.storage.manifestAt target.location.path with
            | .error cause => .error (.manifestUnreadable target.location.path cause)
            | .ok manifest =>
                let deeper := trail.push target.location fresh (by rw [loaded]; rfl)
                let met := progress.visit trail.innermost entry target manifest
                match walk resolver deeper .empty manifest.entries met with
                | .error error => .error error
                | .ok after =>
                    walk resolver trail aliases rest (after.complete target.location)
termination_by (resolver.storage.fileBound + 1 - trail.below.length, entries.length)
decreasing_by
  · exact Prod.Lex.right _ (by simp)
  · exact Prod.Lex.right _ (by simp)
  · exact Prod.Lex.left _ _ (push_decreases _ _ _ _ _)
  · exact Prod.Lex.right _ (by simp)

section

variable (resolver : Resolver) (trail : Trail resolver.storage) (aliases : Aliases) (entry : Entry)
  (rest : List Entry) (progress : Progress) (target : Target)

theorem walk_nil : resolver.walk trail aliases [] progress = .ok progress := by rw [walk]

theorem walk_skip (none : entry.target? resolver.current aliases trail.innermost = none) :
    resolver.walk trail aliases (entry :: rest) progress =
      resolver.walk trail aliases rest progress := by
  rw [walk, none]

theorem walk_again (found : entry.target? resolver.current aliases trail.innermost = some target)
    (fresh : target.location ∉ trail.packages) (done : target.location ∈ progress.completed) :
    resolver.walk trail aliases (entry :: rest) progress =
      resolver.walk trail aliases rest (progress.addLink trail.innermost entry target) := by
  rw [walk, found]
  simp only [dif_neg fresh, if_pos done]

theorem walk_fresh (found : entry.target? resolver.current aliases trail.innermost = some target)
    (fresh : target.location ∉ trail.packages) (new : target.location ∉ progress.completed)
    (manifest : Manifest)
    (loaded : resolver.storage.manifestAt target.location.path = .ok manifest)
    (readable : (resolver.storage.manifestAt target.location.path).isOk = true) :
    resolver.walk trail aliases (entry :: rest) progress =
      match resolver.walk (trail.push target.location fresh readable) .empty manifest.entries
        (progress.visit trail.innermost entry target manifest) with
      | .error error => .error error
      | .ok after => resolver.walk trail aliases rest (after.complete target.location) := by
  rw [walk, found]
  simp only [dif_neg fresh, if_neg new]
  split
  · simp_all
  · rename_i stored isStored
    have same : stored = manifest := Except.ok.inj (isStored.symm.trans loaded)
    subst same
    rfl

theorem walk_visit (found : entry.target? resolver.current aliases trail.innermost = some target)
    (fresh : target.location ∉ trail.packages) (new : target.location ∉ progress.completed)
    (manifest : Manifest)
    (loaded : resolver.storage.manifestAt target.location.path = .ok manifest)
    (readable : (resolver.storage.manifestAt target.location.path).isOk = true) (after : Progress)
    (inner : resolver.walk (trail.push target.location fresh readable) .empty manifest.entries
      (progress.visit trail.innermost entry target manifest) = .ok after) :
    resolver.walk trail aliases (entry :: rest) progress =
      resolver.walk trail aliases rest (after.complete target.location) := by
  rw [resolver.walk_fresh trail aliases entry rest progress target found fresh new manifest loaded
    readable, inner]

theorem walk_inside (found : entry.target? resolver.current aliases trail.innermost = some target)
    (fresh : target.location ∉ trail.packages) (new : target.location ∉ progress.completed)
    (manifest : Manifest)
    (loaded : resolver.storage.manifestAt target.location.path = .ok manifest)
    (readable : (resolver.storage.manifestAt target.location.path).isOk = true)
    (error : ResolutionError)
    (inner : resolver.walk (trail.push target.location fresh readable) .empty manifest.entries
      (progress.visit trail.innermost entry target manifest) = .error error) :
    resolver.walk trail aliases (entry :: rest) progress = .error error := by
  rw [resolver.walk_fresh trail aliases entry rest progress target found fresh new manifest loaded
    readable, inner]

theorem walk_cycle (found : entry.target? resolver.current aliases trail.innermost = some target)
    (above : target.location ∈ trail.packages) :
    resolver.walk trail aliases (entry :: rest) progress =
      .error (.cyclicDependency target.location (trail.packages ++ [target.location])) := by
  rw [walk, found]
  simp only [dif_pos above]

theorem walk_unreadable
    (found : entry.target? resolver.current aliases trail.innermost = some target)
    (fresh : target.location ∉ trail.packages) (new : target.location ∉ progress.completed)
    (cause : LoadError)
    (failed : resolver.storage.manifestAt target.location.path = .error cause) :
    resolver.walk trail aliases (entry :: rest) progress =
      .error (.manifestUnreadable target.location.path cause) := by
  rw [walk, found]
  simp only [dif_neg fresh, if_neg new]
  split <;> simp_all

end

def commandLine : String := "<command line>"

def begin (resolver : Resolver) (manifest : Manifest) (root : Location) : Progress where
  completed := []
  packages := []
  addresses := AddressTable.empty.bindAll <|
    resolver.named.map (fun argument => ⟨argument.symbol, argument.address, commandLine⟩) ++
      manifest.declarations
  graph := Graph.empty.addNode ⟨manifest.package.name, root⟩

def explore (resolver : Resolver) (manifest : Manifest) (root : Location) (aliases : Aliases) :
    Except ResolutionError Progress :=
  resolver.walk (.start root) aliases manifest.entries (resolver.begin manifest root)

end Resolver

end PackageClosure
