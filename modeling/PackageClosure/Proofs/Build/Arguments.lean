import PackageClosure.Proofs.Build.Overlap

set_option autoImplicit false

namespace PackageClosure

namespace ArgumentList

def items (value : String) : List String :=
  if value = "" then [] else (Text.pieces ',' value.toList).map String.ofList

def sides? (item : String) : Option (String × String) :=
  (Text.splitFirst ':' item.toList).map fun sides => (String.ofList sides.1, String.ofList sides.2)

structure Told where
  sources : List String
  bindings : List String
  testMode : Bool
  initFunction : String

def read? : List String → Option Told
  | ["build", "--dependency_dirs", sources, "--address_maps", bindings, "--test", testMode,
      "--init_function", initFunction] =>
        some ⟨items sources, items bindings, testMode = "true", initFunction⟩
  | _ => none

/-- The item is the symbol and the address, for a reader that splits it at its first colon and also
for one that drops the blanks around the two sides. -/
def Conveys (item : String) (pair : String × String) : Prop :=
  sides? item = some pair ∧ AddressArgument.parse item = .ok ⟨pair.1, pair.2⟩

def Trimmed (text : String) : Prop := text ≠ "" ∧ Text.trimChars text.toList = text.toList

structure Plain (pair : String × String) : Prop where
  symbol : Trimmed pair.1
  address : Trimmed pair.2
  noColon : ':' ∉ pair.1.toList
  noComma : ',' ∉ pair.1.toList ∧ ',' ∉ pair.2.toList

theorem items_intercalate (texts : List String) (filled : ∀ text ∈ texts, text ≠ "") :
    items (",".intercalate texts) =
      (texts.flatMap fun text => Text.pieces ',' text.toList).map String.ofList := by
  cases texts with
  | nil => rfl
  | cons text rest =>
      have value : (",".intercalate (text :: rest)).toList =
          [','].intercalate ((text :: rest).map String.toList) := String.toList_intercalate
      have apart : ",".intercalate (text :: rest) ≠ "" := by
        intro empty
        have first := filled text List.mem_cons_self
        rw [empty] at value
        cases rest <;> simp_all
      rw [items, if_neg apart, value, Text.pieces_intercalate _ _ (by simp), List.flatMap_map]

theorem no_comma_of_mem_items (value item : String) (member : item ∈ items value) :
    ',' ∉ item.toList := by
  unfold items at member
  split at member
  · cases member
  · obtain ⟨piece, inside, rfl⟩ := List.mem_map.mp member
    rw [String.toList_ofList]
    exact Text.pieces_no_separator ',' value.toList piece inside

theorem items_intercalate_eq_iff (texts : List String) (filled : ∀ text ∈ texts, text ≠ "") :
    items (",".intercalate texts) = texts ↔ ∀ text ∈ texts, ',' ∉ text.toList := by
  constructor
  · intro same text member
    rw [← same] at member
    exact no_comma_of_mem_items _ text member
  · intro clean
    have single : ∀ text ∈ texts, Text.pieces ',' text.toList = [text.toList] :=
      fun text member => Text.pieces_of_not_mem ',' _ (clean text member)
    rw [items_intercalate texts filled, List.flatMap_congr single, ← List.map_eq_flatMap,
      List.map_map]
    simp

theorem sources_read_iff (sources : List Path) (filled : ∀ source ∈ sources, source.text ≠ "") :
    (items (",".intercalate (sources.map Path.shown))).map (fun text => (⟨text⟩ : Path).raw) =
        sources ↔
      ∀ source ∈ sources, ',' ∉ source.shown.toList ∧ source.IsText := by
  have shown : ∀ text ∈ sources.map Path.shown, text ≠ "" := by
    intro text member
    obtain ⟨source, inside, rfl⟩ := List.mem_map.mp member
    exact Text.shown_ne_empty source.text (filled source inside)
  have split := items_intercalate_eq_iff _ shown
  rw [List.forall_mem_map] at split
  constructor
  · intro same source member
    have back : (Path.shown ∘ fun text => (⟨text⟩ : Path).raw) = id := by
      simp only [Function.comp_def, Path.shown_raw]
      rfl
    have texts := congrArg (List.map Path.shown) same
    rw [List.map_map, back, List.map_id] at texts
    refine ⟨split.mp texts source member, ?_⟩
    rw [← same] at member
    obtain ⟨text, _, rfl⟩ := List.mem_map.mp member
    exact Path.isText_raw ⟨text⟩
  · intro all
    have back : sources.map ((fun text => (⟨text⟩ : Path).raw) ∘ Path.shown) = sources.map id :=
      List.map_congr_left fun source member => congrArg Path.mk (all source member).2
    rw [split.mpr fun source member => (all source member).1, List.map_map, back, List.map_id]

theorem sides?_eq_some_iff (item : String) (pair : String × String) :
    sides? item = some pair ↔
      item.toList = pair.1.toList ++ ':' :: pair.2.toList ∧ ':' ∉ pair.1.toList := by
  rw [← Text.splitFirst_eq_some_iff, sides?, Option.map_eq_some_iff]
  constructor
  · rintro ⟨⟨left, right⟩, found, rfl⟩
    simpa using found
  · intro found
    exact ⟨_, found, by simp⟩

def written (pair : String × String) : String := AddressArgument.text ⟨pair.1, pair.2⟩

theorem toList_written (pair : String × String) :
    (written pair).toList = pair.1.toList ++ ':' :: pair.2.toList := by
  simp [written, AddressArgument.text, Text.writePair]

theorem written_ne_empty (pair : String × String) : written pair ≠ "" := by
  intro empty
  have nothing := toList_written pair
  simp [empty] at nothing

theorem conveys_iff (item : String) (pair : String × String) :
    Conveys item pair ↔
      item = written pair ∧ ':' ∉ pair.1.toList ∧ Trimmed pair.1 ∧ Trimmed pair.2 := by
  rw [Conveys, sides?_eq_some_iff, AddressArgument.parse_eq_ok_iff, Text.parsePair_eq_ok_iff,
    ← toList_written, String.toList_inj]
  constructor
  · rintro ⟨⟨rfl, absent⟩, before, after, whole, clear, left, right, leftFilled, rightFilled⟩
    have first := (Text.splitFirst_eq_some_iff ':' (written pair).toList before after).mpr
      ⟨whole, clear⟩
    rw [(Text.splitFirst_eq_some_iff ':' _ _ _).mpr ⟨toList_written pair, absent⟩] at first
    obtain ⟨rfl, rfl⟩ := Prod.mk.inj (Option.some.inj first)
    exact ⟨rfl, absent, ⟨leftFilled, left⟩, ⟨rightFilled, right⟩⟩
  · rintro ⟨rfl, absent, ⟨leftFilled, left⟩, ⟨rightFilled, right⟩⟩
    exact ⟨⟨rfl, absent⟩, _, _, toList_written pair, absent, left, right, leftFilled, rightFilled⟩

theorem no_comma_written_iff (pair : String × String) :
    ',' ∉ (written pair).toList ↔ ',' ∉ pair.1.toList ∧ ',' ∉ pair.2.toList := by
  simp [toList_written]

theorem conveys_written_iff (pair : String × String) :
    Conveys (written pair) pair ∧ ',' ∉ (written pair).toList ↔ Plain pair := by
  rw [conveys_iff, no_comma_written_iff]
  constructor
  · rintro ⟨⟨_, noColon, symbol, address⟩, noComma⟩
    exact ⟨symbol, address, noColon, noComma⟩
  · rintro ⟨symbol, address, noColon, noComma⟩
    exact ⟨⟨rfl, noColon, symbol, address⟩, noComma⟩

theorem forall₂_conveys_iff (items : List String) (pairs : List (String × String)) :
    items.Forall₂ Conveys pairs ↔
      items = pairs.map written ∧ ∀ pair ∈ pairs, Conveys (written pair) pair := by
  constructor
  · intro all
    have same : items = pairs.map written := by
      rw [← List.forall₂_eq_eq_eq, List.forall₂_map_right_iff]
      exact all.imp fun item pair conveys => ((conveys_iff item pair).mp conveys).1
    rw [same, List.forall₂_map_left_iff, List.forall₂_same] at all
    exact ⟨same, all⟩
  · rintro ⟨rfl, all⟩
    rwa [List.forall₂_map_left_iff, List.forall₂_same]

theorem conveyed_iff (pairs : List (String × String)) :
    (items (",".intercalate (pairs.map written))).Forall₂ Conveys pairs ↔
      ∀ pair ∈ pairs, Plain pair := by
  have filled : ∀ text ∈ pairs.map written, text ≠ "" := by
    intro text member
    obtain ⟨pair, _, rfl⟩ := List.mem_map.mp member
    exact written_ne_empty pair
  rw [forall₂_conveys_iff, items_intercalate_eq_iff _ filled, List.forall_mem_map, ← forall₂_and]
  simp only [← conveys_written_iff, and_comm]

end ArgumentList

theorem Sources.text_ne_empty_of_is_source (path : Path) (isSource : isSource path = true) :
    path.text ≠ "" := by
  intro empty
  have same : path = ⟨""⟩ := by rw [← empty]
  rw [same] at isSource
  exact absurd isSource (by decide)

theorem Sources.is_source_of_found (storage : Storage) (directory file : Path)
    (found : .file file ∈ search storage directory) : isSource file = true := by
  fun_induction search storage directory with
  | case1 directory error failed => simp at found
  | case2 directory entries listed ih =>
      obtain ⟨entry, member, inside⟩ := List.mem_flatMap.mp found
      dsimp only at inside
      split at inside
      · exact ih entry inside
      · split at inside
        · simp_all
        · cases inside
      · simp at inside

theorem Storage.source_ne_empty (storage : Storage) (directory file : Path)
    (member : file ∈ (storage.sources directory).files) : file.text ≠ "" :=
  Sources.text_ne_empty_of_is_source file <| Sources.is_source_of_found storage directory file <|
    (Sources.mem_filterMap_file? _ file).mp member

theorem BuildSettings.source_ne_empty (settings : BuildSettings) (storage : Storage)
    (resolution : Resolution) (file : Path)
    (member : file ∈ (settings.request storage resolution).sources) : file.text ≠ "" := by
  obtain ⟨listing, isListing, inside⟩ := List.mem_flatMap.mp member
  obtain ⟨package, _, rfl⟩ := List.mem_map.mp isListing
  exact storage.source_ne_empty package.path file inside

theorem BuildRequest.read?_arguments (request : BuildRequest) :
    ArgumentList.read? request.arguments =
      some ⟨ArgumentList.items request.sourcesArgument,
        ArgumentList.items request.addressesArgument,
        decide (BuildRequest.flag request.testMode = "true"), request.initFunction⟩ :=
  rfl

theorem arguments_carry (settings : BuildSettings) (storage : Storage) (resolution : Resolution) :
    let request := settings.request storage resolution
    ∃ told, ArgumentList.read? request.arguments = some told ∧
      told.testMode = request.testMode ∧ told.initFunction = request.initFunction ∧
      (told.sources.map (fun text => (⟨text⟩ : Path).raw) = request.sources ↔
        ∀ source ∈ request.sources, ',' ∉ source.shown.toList ∧ source.IsText) ∧
      (told.bindings.Forall₂ ArgumentList.Conveys resolution.addresses.pairs ↔
        ∀ pair ∈ resolution.addresses.pairs, ArgumentList.Plain pair) := by
  intro request
  have addresses : request.addresses = resolution.addresses.pairs.map ArgumentList.written :=
    List.map_map
  refine ⟨_, request.read?_arguments, ?_, rfl, ?_, ?_⟩
  · change decide (BuildRequest.flag request.testMode = "true") = request.testMode
    cases request.testMode <;> decide
  · exact ArgumentList.sources_read_iff _ (settings.source_ne_empty storage resolution)
  · rw [BuildRequest.addressesArgument, addresses, ArgumentList.conveyed_iff]

namespace Punctuated

def text : String :=
  "\n".intercalate ["[package]", "name = \"App\"", "version = \"1\"", "[addresses]",
    "\"a:b\" = \"0x1\"", "[dependencies]", "Lib.local = \"../lib\""]

def bytes : Bytes := Text.encodeUtf8 text

def source : Path := ⟨"/lib/a,b.move"⟩

def memory : Memory :=
  ((Memory.empty.addFile source []).addFile ⟨"/lib/Move.toml"⟩ Leaf.bytes).addFile
    ⟨"/app/Move.toml"⟩ bytes

def place (name : String) : Location := Diamond.place name

def resolver : Resolver := ⟨memory.storage, .root, []⟩

def app : Manifest := Diamond.manifest "App" [("a:b", "0x1")] [("Lib", .path ⟨"../lib"⟩)] []

def progress : Progress where
  completed := [place "lib"]
  packages := [place "lib"]
  addresses := ⟨.ofList [("a:b", ⟨"0x1", "App"⟩)], []⟩
  graph := ⟨[⟨"App", place "app"⟩, ⟨"leaf", place "lib"⟩], [⟨0, 1, ⟨"Lib", .regular, false⟩⟩]⟩

def resolution : Resolution :=
  ⟨place "app", app, progress.packages, progress.addresses, progress.graph⟩

theorem explore_eq : resolver.explore app (place "app") .empty = .ok progress := by
  have ofApp : app.entries = [⟨"Lib", .path ⟨"../lib"⟩, .regular⟩] := by decide
  rw [Resolver.explore, ofApp,
    resolver.walk_leaf _ _ _ _ _ ⟨place "lib", false⟩ (by decide) (by decide) (by decide)
      (Memory.read_add_of_read _ _ _ _ _ (by decide) (Memory.read_addFile _ _ _ _ (by decide))),
    resolver.walk_nil]
  exact congrArg Except.ok (by decide)

theorem resolve_eq :
    BuildSettings.default.resolve (fun _ => memory.storage) (fun _ => .root) ⟨"/app"⟩
      (none : Option (Fetcher Unit)) () = (.ok resolution, ()) :=
  BuildSettings.default.resolve_stored memory ⟨"/app"⟩ (place "app") text app progress
    Diamond.locate_app (by decide) (Memory.read_addFile _ _ _ _ (by decide)) (by decide +kernel)
    explore_eq

def additions : List Memory.Addition :=
  [.file source [], .file ⟨"/lib/Move.toml"⟩ Leaf.bytes, .file ⟨"/app/Move.toml"⟩ bytes]

theorem node?_lib : memory.node? (place "lib") = some .directory :=
  (Memory.node?_ofAdditions additions ⟨"/lib"⟩).trans (by decide)

theorem node?_source : memory.node? source.location = some (.file []) :=
  (Memory.node?_ofAdditions additions source).trans (by decide)

theorem source_found :
    source ∈ (BuildSettings.default.request memory.storage resolution).sources := by
  have listed : source ∈ (memory.storage.sources (place "lib").path).files :=
    (memory.mem_files_iff _ _).mpr ⟨place "lib", ⟨.refl, node?_lib, by decide⟩,
      ⟨"a,b.move", by decide⟩, [], node?_source, by decide, by decide⟩
  exact List.mem_flatMap.mpr ⟨_, List.mem_map_of_mem List.mem_cons_self, listed⟩

end Punctuated

theorem punctuation_lost :
    ∃ resolution, BuildSettings.default.resolve (fun _ => Punctuated.memory.storage)
        (fun _ => .root) ⟨"/app"⟩ (none : Option (Fetcher Unit)) () = (.ok resolution, ()) ∧
      let request := BuildSettings.default.request Punctuated.memory.storage resolution
      ∃ told, ArgumentList.read? request.arguments = some told ∧
        told.sources.map (fun text => (⟨text⟩ : Path).raw) ≠ request.sources ∧
        ¬ told.bindings.Forall₂ ArgumentList.Conveys resolution.addresses.pairs := by
  refine ⟨Punctuated.resolution, Punctuated.resolve_eq, ?_⟩
  intro request
  refine ⟨_, request.read?_arguments, ?_, ?_⟩
  · intro same
    have carried := (ArgumentList.sources_read_iff _ (BuildSettings.default.source_ne_empty
      Punctuated.memory.storage Punctuated.resolution)).mp same
    exact absurd (carried _ Punctuated.source_found).1 (by decide)
  · have bindings : request.addressesArgument =
        ",".intercalate (Punctuated.resolution.addresses.pairs.map ArgumentList.written) :=
      congrArg _ List.map_map
    intro all
    rw [bindings, ArgumentList.conveyed_iff] at all
    exact absurd (all ("a:b", "0x1") (by decide)).noColon (by decide)

end PackageClosure
