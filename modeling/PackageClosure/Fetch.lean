import PackageClosure.Alias
import PackageClosure.Resolution.Error

set_option autoImplicit false

namespace PackageClosure

structure FetchCall where
  name : String
  url : String
  rev : Option String
deriving DecidableEq, Repr

-- Makes a package available and tells where, in a world that it may change.
abbrev Fetcher (World : Type) := FetchCall → World → Except FetchFailure Path × World

namespace Entry

def fetchCall? (entry : Entry) : Option FetchCall :=
  match entry.dependency with
  | .git url rev => some ⟨entry.name, url, rev⟩
  | _ => none

end Entry

section

variable {World : Type}

def fetchEntries (fetcher : Fetcher World) (entries : List Entry) (aliases : Aliases)
    (world : World) : Except ResolutionError Aliases × World :=
  match entries with
  | [] => (.ok aliases, world)
  | entry :: rest =>
      match entry.fetchCall?, aliases.get? entry.name with
      | some call, none =>
          match fetcher call world with
          | (.error cause, after) => (.error (.fetchFailed call.name cause), after)
          | (.ok path, after) => fetchEntries fetcher rest (aliases.insert call.name path) after
      | _, _ => fetchEntries fetcher rest aliases world

def Manifest.fetchDependencies (manifest : Manifest) (fetcher : Fetcher World) (aliases : Aliases)
    (world : World) : Except ResolutionError Aliases × World :=
  fetchEntries fetcher manifest.entries aliases world

end

def packageHome (setting : Option String) (home : String) : Path :=
  match setting with
  | some directory => ⟨directory⟩
  | none => (⟨home⟩ : Path).join ⟨".move"⟩

end PackageClosure
