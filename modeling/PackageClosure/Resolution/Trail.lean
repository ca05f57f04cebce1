import PackageClosure.Counting
import PackageClosure.Path.Spelling
import PackageClosure.Resolution.Error

set_option autoImplicit false

namespace PackageClosure

def Storage.manifestAt (storage : Storage) (package : Path) : Except LoadError Manifest :=
  match storage.readText (package.child manifestFile) with
  | .error error => .error (.unreadable error)
  | .ok text => ((Manifest.parse text).map Manifest.raw).mapError .invalid

theorem Storage.isOk_manifestAt (storage : Storage) (package : Path) (manifest : Manifest)
    (loaded : storage.manifestAt package = .ok manifest) :
    (storage.manifestAt package).isOk = true :=
  congrArg Except.isOk loaded

theorem Storage.manifestAt_of_unreadable (storage : Storage) (package : Path) (error : FileError)
    (read : storage.read (package.child manifestFile) = .error error) :
    storage.manifestAt package = .error (.unreadable error) := by
  simp only [manifestAt, readText, read]

structure Trail (storage : Storage) where
  root : Location
  -- The innermost package first.
  below : List Location
  distinct : below.Nodup
  loads : ∀ package ∈ below, (storage.manifestAt package.path).isOk = true

namespace Trail

variable {storage : Storage}

def start (root : Location) : Trail storage := ⟨root, [], by simp, by simp⟩

def innermost (trail : Trail storage) : Location := trail.below.headD trail.root

def packages (trail : Trail storage) : List Location := trail.root :: trail.below.reverse

def push (trail : Trail storage) (package : Location) (fresh : package ∉ trail.packages)
    (loaded : (storage.manifestAt package.path).isOk = true) : Trail storage where
  root := trail.root
  below := package :: trail.below
  distinct := by
    rw [List.nodup_cons]
    exact ⟨fun member => fresh (by simp [packages, member]), trail.distinct⟩
  loads := by
    intro other member
    rcases List.mem_cons.mp member with rfl | inside
    · exact loaded
    · exact trail.loads other inside

theorem readable_of_loads (package : Path)
    (loaded : (storage.manifestAt package).isOk = true) :
    (storage.read (package.child manifestFile)).isOk = true := by
  unfold Storage.manifestAt Storage.readText at loaded
  cases shape : storage.read (package.child manifestFile) with
  | ok bytes => rfl
  | error cause => simp [shape, Except.isOk, Except.toBool] at loaded

theorem length_below_le (trail : Trail storage) : trail.below.length ≤ storage.fileBound := by
  have locations : (trail.below.map fun package => package.path.child manifestFile).map
      Path.location = trail.below.map fun package => package.child manifestFile := by
    simp [Path.location_child, Location.location_path]
  have injective : ∀ left right : Location,
      left.child manifestFile = right.child manifestFile → left = right := by
    intro left right same
    rcases left with ⟨start, names⟩
    rcases right with ⟨other, more⟩
    simp only [Location.child, Location.mk.injEq] at same
    rw [same.1, List.append_cancel_right same.2]
  have distinct : (trail.below.map fun package => package.child manifestFile).Nodup :=
    List.Pairwise.map _ (fun _ _ differs same => differs (injective _ _ same)) trail.distinct
  have bound := storage.length_le_fileBound
    (trail.below.map fun package => package.path.child manifestFile)
    (by rw [locations]; exact distinct)
    (by
      intro path member
      obtain ⟨package, inside, rfl⟩ := List.mem_map.mp member
      exact readable_of_loads _ (trail.loads package inside))
  simpa using bound

end Trail

end PackageClosure
