import PackageClosure.Proofs.Resolution.Closure

set_option autoImplicit false

namespace PackageClosure

namespace Project

/-- What an error says is so. Its packages are a chain of dependences from the root. The last
package of a cycle is one of those before it, which are all different; the chain to a package that
does not load never comes to a package twice, and all packages before that one load. Aliases count
for the first link only, because no link but the first is from the root. -/
def Genuine (project : Project) : ResolutionError → Prop
  | .cyclicDependency package chain =>
      chain.head? = some project.root ∧ chain.getLast? = some package ∧ chain.dropLast.Nodup ∧
        package ∈ chain.dropLast ∧ chain.IsChain project.DependsOn
  | .manifestUnreadable path cause =>
      ∃ (chain : List Location) (package : Location), package.path = path ∧
        chain.head? = some project.root ∧ chain.getLast? = some package ∧ chain.Nodup ∧
        chain.IsChain project.DependsOn ∧
        (∀ other ∈ chain.dropLast, ∃ manifest, project.manifestOf other = .ok manifest) ∧
        project.resolver.load path = .error (.manifestUnreadable path cause)
  | _ => False

variable (project : Project)

theorem ne_root_of_manifestOf_error (package : Location) (cause : LoadError)
    (failed : project.manifestOf package = .error cause) : package ≠ project.root := by
  rintro rfl
  rw [project.manifestOf_root] at failed
  cases failed

theorem load_of_manifestOf_error (package : Location) (cause : LoadError)
    (failed : project.manifestOf package = .error cause) :
    project.resolver.load package.path = .error (.manifestUnreadable package.path cause) := by
  have other := project.ne_root_of_manifestOf_error package cause failed
  rw [project.manifestOf_of_ne package other] at failed
  rw [Resolver.load, failed]
  rfl

theorem genuine_of_justifies (error : ResolutionError) (justified : project.Justifies error) :
    project.Genuine error := by
  cases justified with
  | cycle above package line linked member =>
      have starts : (above ++ [package]).head? = some project.root := by
        rw [List.head?_append, line.starts]
        rfl
      refine ⟨starts, List.getLast?_concat, ?_, ?_, linked⟩
      · rw [List.dropLast_concat]
        exact line.distinct
      · rw [List.dropLast_concat]
        exact member
  | unreadable above package cause line loaded failed =>
      refine ⟨above ++ [package], package, rfl, line.starts, List.getLast?_concat, line.distinct,
        line.linked, ?_, project.load_of_manifestOf_error package cause failed⟩
      rw [List.dropLast_concat]
      intro other member
      have loads := loaded other member
      cases stored : project.manifestOf other with
      | ok manifest => exact ⟨manifest, rfl⟩
      | error _ =>
          rw [stored] at loads
          cases loads

end Project

theorem errors_genuine (resolver : Resolver) (manifest : Manifest) (root : Path)
    (aliases : Aliases) (error : ResolutionError)
    (failed : (resolver.project manifest root aliases).explore = .error error) :
    (resolver.project manifest root aliases).Genuine error := by
  let project := resolver.project manifest root aliases
  have justified := project.walk_error_justified (.start project.root) aliases manifest.entries
    (resolver.begin manifest project.root) error (.start project) failed
  exact project.genuine_of_justifies error justified

namespace Knot

def text (name other : String) : String :=
  "\n".intercalate ["[package]", "name = \"" ++ name ++ "\"", "version = \"1\"", "[dependencies]",
    "base.local = \"../base\"", other ++ ".local = \"../" ++ other ++ "\""]

def bytes (name other : String) : Bytes := Text.encodeUtf8 (text name other)

def common : Memory :=
  (Memory.empty.addFile ⟨"/base/Move.toml"⟩ Leaf.bytes).addFile ⟨"/left/Move.toml"⟩
    (bytes "left" "right")

def loop : Memory := common.addFile ⟨"/right/Move.toml"⟩ (bytes "right" "left")

def gap : Memory := common.addUnreadable ⟨"/right/Move.toml"⟩ "Permission denied"

def resolver (memory : Memory) : Resolver := ⟨memory.storage, .root, []⟩

def place (name : String) : Location := Diamond.place name

def entry (name : String) : Entry := ⟨name, .path ⟨"../" ++ name⟩, .regular⟩

def package (name other : String) : Manifest :=
  Diamond.manifest name [] [("base", .path ⟨"../base"⟩), (other, .path ⟨"../" ++ other⟩)] []

def app : Manifest :=
  Diamond.manifest "app" [] [("base", .path ⟨"../base"⟩), ("left", .unspecified)] []

def aliases : Aliases := .ofList [("left", ⟨"left"⟩)]

def chain : List Location := [place "app", place "left", place "right", place "left"]

theorem manifestAt_left (memory : Memory)
    (read : memory.read ((place "left").path.child manifestFile) =
      .ok (bytes "left" "right")) :
    (resolver memory).storage.manifestAt (place "left").path = .ok (package "left" "right") :=
  memory.storage.manifestAt_of_text _ (text "left" "right") _ read (by decide +kernel)

theorem read_left_common :
    common.read ((place "left").path.child manifestFile) = .ok (bytes "left" "right") :=
  Memory.read_addFile _ _ _ _ (by decide)

theorem manifestAt_left_loop :
    (resolver loop).storage.manifestAt (place "left").path = .ok (package "left" "right") :=
  manifestAt_left loop (common.read_add_of_read _ _ _ _ (by decide) read_left_common)

theorem manifestAt_left_gap :
    (resolver gap).storage.manifestAt (place "left").path = .ok (package "left" "right") :=
  manifestAt_left gap (common.read_add_of_read _ _ _ _ (by decide) read_left_common)

theorem manifestAt_right_loop :
    (resolver loop).storage.manifestAt (place "right").path = .ok (package "right" "left") :=
  loop.storage.manifestAt_of_text _ (text "right" "left") _
    (Memory.read_addFile _ _ _ _ (by decide)) (by decide +kernel)

theorem manifestAt_right_gap : (resolver gap).storage.manifestAt (place "right").path =
    .error (.unreadable (.unreadable "Permission denied")) :=
  gap.storage.manifestAt_of_unreadable _ _ (Memory.read_addUnreadable _ _ _ _ (by decide))

theorem read_base_common :
    common.read ((place "base").path.child manifestFile) = .ok Leaf.bytes :=
  Memory.read_add_of_read _ _ _ _ _ (by decide) (Memory.read_addFile _ _ _ _ (by decide))

theorem read_base_loop :
    loop.read ((place "base").path.child manifestFile) = .ok Leaf.bytes :=
  common.read_add_of_read _ _ _ _ (by decide) read_base_common

theorem read_base_gap :
    gap.read ((place "base").path.child manifestFile) = .ok Leaf.bytes :=
  common.read_add_of_read _ _ _ _ (by decide) read_base_common

theorem entries_app : app.entries = [entry "base", ⟨"left", .unspecified, .regular⟩] := by decide

theorem entries_left : (package "left" "right").entries = [entry "base", entry "right"] := by
  decide

theorem entries_right : (package "right" "left").entries = [entry "base", entry "left"] := by
  decide

theorem explore_loop : (resolver loop).explore app (place "app") aliases =
    .error (.cyclicDependency (place "left") chain) := by
  rw [Resolver.explore, entries_app,
    (resolver loop).walk_leaf _ _ _ _ _ ⟨place "base", false⟩ (by decide) (by decide) (by decide)
      read_base_loop]
  refine (resolver loop).walk_inside _ _ _ _ _ ⟨place "left", true⟩ (by decide) (by decide)
    (by decide) _ manifestAt_left_loop (loop.storage.isOk_manifestAt _ _ manifestAt_left_loop) _ ?_
  rw [entries_left, (resolver loop).walk_again _ _ _ _ _ ⟨place "base", false⟩ (by decide)
    (by decide) (by decide)]
  refine (resolver loop).walk_inside _ _ _ _ _ ⟨place "right", false⟩ (by decide) (by decide)
    (by decide) _ manifestAt_right_loop
    (loop.storage.isOk_manifestAt _ _ manifestAt_right_loop) _ ?_
  rw [entries_right, (resolver loop).walk_again _ _ _ _ _ ⟨place "base", false⟩ (by decide)
    (by decide) (by decide)]
  exact (resolver loop).walk_cycle _ _ _ _ _ ⟨place "left", false⟩ (by decide) (by decide)

theorem explore_gap : (resolver gap).explore app (place "app") aliases =
    .error (.manifestUnreadable (place "right").path
      (.unreadable (.unreadable "Permission denied"))) := by
  rw [Resolver.explore, entries_app,
    (resolver gap).walk_leaf _ _ _ _ _ ⟨place "base", false⟩ (by decide) (by decide) (by decide)
      read_base_gap]
  refine (resolver gap).walk_inside _ _ _ _ _ ⟨place "left", true⟩ (by decide) (by decide)
    (by decide) _ manifestAt_left_gap (gap.storage.isOk_manifestAt _ _ manifestAt_left_gap) _ ?_
  rw [entries_left, (resolver gap).walk_again _ _ _ _ _ ⟨place "base", false⟩ (by decide)
    (by decide) (by decide)]
  exact (resolver gap).walk_unreadable _ _ _ _ _ ⟨place "right", false⟩ (by decide) (by decide)
    (by decide) _ manifestAt_right_gap

theorem explore_project (memory : Memory) :
    ((resolver memory).project app ⟨"/app"⟩ aliases).explore =
      (resolver memory).explore app (place "app") aliases := by
  change (resolver memory).explore app ((⟨"/app"⟩ : Path).locate .root) aliases = _
  rw [Diamond.locate_app, place]

end Knot

theorem errors_genuine_knot :
    ((Knot.resolver Knot.loop).project Knot.app ⟨"/app"⟩ Knot.aliases).Genuine
        (.cyclicDependency (Knot.place "left") Knot.chain) ∧
      ((Knot.resolver Knot.gap).project Knot.app ⟨"/app"⟩ Knot.aliases).Genuine
        (.manifestUnreadable (Knot.place "right").path
          (.unreadable (.unreadable "Permission denied"))) := by
  constructor
  · exact errors_genuine _ _ _ _ _ ((Knot.explore_project _).trans Knot.explore_loop)
  · exact errors_genuine _ _ _ _ _ ((Knot.explore_project _).trans Knot.explore_gap)

end PackageClosure
