import PackageClosure.GitCache.Fetch

set_option autoImplicit false

namespace PackageClosure

namespace GitCache

section Laws

variable {World Tree : Type}

def KeepsBut (tree : Path → World → Option Tree) (root : Path) (changed : List Name)
    (before after : World) : Prop :=
  ∀ name ∉ changed, tree (root.child name) after = tree (root.child name) before

section KeepsBut

variable {tree : Path → World → Option Tree} {root : Path} {changed more : List Name}
  {before middle after : World}

theorem KeepsBut.refl (world : World) : KeepsBut tree root changed world world := fun _ _ => rfl

theorem KeepsBut.mono (keeps : KeepsBut tree root changed before after)
    (within : changed ⊆ more) : KeepsBut tree root more before after := fun name other =>
  keeps name fun member => other (within member)

theorem KeepsBut.trans (first : KeepsBut tree root changed before middle)
    (second : KeepsBut tree root changed middle after) :
    KeepsBut tree root changed before after := fun name other =>
  (second name other).trans (first name other)

end KeepsBut

/-- The file operations of a host in a directory, and what its git may change there. -/
structure Host.Orderly (host : Host World) (tree : Path → World → Option Tree) (root : Path) :
    Prop where
  has_eq : ∀ name world, host.has (root.child name) world = (tree (root.child name) world).isSome
  createDirectories : ∀ world after, host.createDirectories root world = .ok after →
    KeepsBut tree root [] world after
  removeTree : ∀ name world after, host.removeTree (root.child name) world = .ok after →
    tree (root.child name) after = none ∧ KeepsBut tree root [name] world after
  rename : ∀ source target world after, source ≠ target →
    host.rename (root.child source) (root.child target) world = .ok after →
      tree (root.child source) after = none ∧
        tree (root.child target) after = tree (root.child source) world ∧
        KeepsBut tree root [source, target] world after
  version : ∀ world after status, host.git ["--version"] world = .ok (after, status) →
    KeepsBut tree root [] world after
  clone : ∀ url name world after status,
    host.git ["clone", url, (root.child name).text] world = .ok (after, status) →
      KeepsBut tree root [name] world after
  checkout : ∀ rev name world after status,
    host.git ["-C", (root.child name).text, "checkout", rev] world = .ok (after, status) →
      KeepsBut tree root [name] world after

structure Repositories (Tree : Type) where
  cloned : String → Tree
  switched : String → Tree → Tree

def Repositories.content (repositories : Repositories Tree) (call : FetchCall) : Tree :=
  match call.rev with
  | none => repositories.cloned call.url
  | some rev => repositories.switched rev (repositories.cloned call.url)

/-- When git succeeds in a directory, what it was told to get is there. -/
structure Host.Delivers (host : Host World) (tree : Path → World → Option Tree) (root : Path)
    (repositories : Repositories Tree) : Prop where
  clone : ∀ url name world after status,
    host.git ["clone", url, (root.child name).text] world = .ok (after, status) →
      status.isSuccess → tree (root.child name) after = some (repositories.cloned url)
  checkout : ∀ rev name world after status found, tree (root.child name) world = some found →
    host.git ["-C", (root.child name).text, "checkout", rev] world = .ok (after, status) →
      status.isSuccess → tree (root.child name) after = some (repositories.switched rev found)

end Laws

end GitCache

end PackageClosure
