import PackageClosure.Build.Request
import PackageClosure.Fetch
import PackageClosure.Resolution.Basic

set_option autoImplicit false

namespace PackageClosure

structure BuildSettings where
  testMode : Bool
  initFunction : Option String
  aliases : List AliasArgument
  namedAddresses : List AddressArgument
  skipFetch : Bool
deriving DecidableEq, Repr

namespace BuildSettings

def default : BuildSettings := ⟨false, none, [], [], false⟩

def overrides (settings : BuildSettings) : Aliases :=
  .ofList (settings.aliases.map fun argument => (argument.name, argument.path.raw))

end BuildSettings

namespace Json

def asBool? : Json → Option Bool
  | .bool value => some value
  | _ => none

def asString? : Json → Option String
  | .string text => some text
  | _ => none

def asList? {α : Type} (read : Json → Option α) : Json → Option (List α)
  | .array items => items.mapM read
  | _ => none

-- The values of a record: an object that may have other fields as well, or an array of exactly
-- the values in order. A field that is missing from an object is absent from the result.
def asRecord? (names : List String) : Json → Option (List (Option Json))
  | .object fields => some (names.map fun name => fields.lookup name)
  | .array items => if items.length = names.length then some (items.map some) else none
  | _ => none

def asPair? (first second : String) (json : Json) : Option (String × String) :=
  match json.asRecord? [first, second] with
  | some [some left, some right] => do return (← left.asString?, ← right.asString?)
  | _ => none

end Json

namespace BuildSettings

def initFunction? : Option Json → Option (Option String)
  | none | some .null => some none
  | some json => json.asString?.map some

def alias? (json : Json) : Option AliasArgument := do
  let (name, path) ← json.asPair? "name" "path"
  return ⟨name, ⟨path⟩⟩

def namedAddress? (json : Json) : Option AddressArgument := do
  let (symbol, address) ← json.asPair? "symbol" "address"
  return ⟨symbol, address⟩

def ofJson? (json : Json) : Option BuildSettings := do
  let fields ← json.asRecord?
    ["test_mode", "init_function", "aliases", "additional_named_addresses", "skip_fetch_git_deps"]
  match fields with
  | [testMode, initFunction, aliases, namedAddresses, skipFetch] =>
      return {
        testMode := ← (← testMode).asBool?
        initFunction := ← initFunction? initFunction
        aliases := ← (← aliases).asList? alias?
        namedAddresses := ← (← namedAddresses).asList? namedAddress?
        skipFetch := ← (← skipFetch).asBool? }
  | _ => none

def aliasJson (argument : AliasArgument) : Json :=
  .object [("name", .string argument.name), ("path", .string argument.path.text)]

def namedAddressJson (argument : AddressArgument) : Json :=
  .object [("symbol", .string argument.symbol), ("address", .string argument.address)]

def json (settings : BuildSettings) : Json :=
  .object
    [("test_mode", .bool settings.testMode),
      ("init_function", (settings.initFunction.map Json.string).getD .null),
      ("aliases", .array (settings.aliases.map aliasJson)),
      ("additional_named_addresses", .array (settings.namedAddresses.map namedAddressJson)),
      ("skip_fetch_git_deps", .bool settings.skipFetch)]

-- The resolution of the package at or around a path. With a fetcher, and unless the settings
-- forbid it, the git dependencies of the package are fetched first. That may change what relative
-- paths start from.
def resolve {World : Type} (settings : BuildSettings) (storageOf : World → Storage)
    (current : World → Location) (path : Path) (fetcher? : Option (Fetcher World)) (world : World) :
    Except ResolutionError Resolution × World :=
  let prepared : Except ResolutionError (Location × Manifest) := do
    let storage := storageOf world
    let root ← storage.findRoot (current world) path
    let manifest ← (storage.manifestAt root.path).mapError (.manifestUnreadable root.path)
    return (root, manifest)
  match prepared with
  | .error error => (.error error, world)
  | .ok (root, manifest) =>
      let (aliases, after) :=
        match fetcher?, settings.skipFetch with
        | some fetcher, false => manifest.fetchDependencies fetcher settings.overrides world
        | _, _ => (.ok settings.overrides, world)
      match aliases with
      | .error error => (.error error, after)
      | .ok aliases =>
          let resolver : Resolver := ⟨storageOf after, current after, settings.namedAddresses⟩
          (resolver.resolve manifest root.path aliases, after)

def request (settings : BuildSettings) (storage : Storage) (resolution : Resolution) :
    BuildRequest :=
  .gather storage resolution.packages resolution.addresses settings.testMode settings.initFunction

end BuildSettings

end PackageClosure
