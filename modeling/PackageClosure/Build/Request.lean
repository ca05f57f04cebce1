import PackageClosure.Address.Argument
import PackageClosure.Sources

set_option autoImplicit false

namespace PackageClosure

structure BuildRequest where
  sources : List Path
  addresses : List String
  testMode : Bool
  initFunction : String
  skipped : List Skipped
deriving DecidableEq, Repr

namespace BuildRequest

def gather (storage : Storage) (packages : List Location) (addresses : AddressTable)
    (testMode : Bool) (initFunction : Option String) : BuildRequest :=
  let listings := packages.map fun package => storage.sources package.path
  { sources := listings.flatMap SourceSet.files
    addresses := addresses.arguments.map AddressArgument.text
    testMode
    initFunction := initFunction.getD ""
    skipped := listings.flatMap SourceSet.skipped }

def sourcesArgument (request : BuildRequest) : String :=
  ",".intercalate (request.sources.map Path.shown)

def addressesArgument (request : BuildRequest) : String := ",".intercalate request.addresses

def flag (value : Bool) : String := if value then "true" else "false"

def arguments (request : BuildRequest) : List String :=
  ["build", "--dependency_dirs", request.sourcesArgument, "--address_maps",
    request.addressesArgument, "--test", flag request.testMode, "--init_function",
    request.initFunction]

def skippedJson (entry : Skipped) : Json :=
  .object [("path", .path entry.path), ("reason", .string entry.reason)]

def json (request : BuildRequest) : Json :=
  .object <|
    [("dependency_source_files", .array (request.sources.map Json.path)),
      ("address_args", .array (request.addresses.map .string)),
      ("test_mode", .bool request.testMode),
      ("init_function", .string request.initFunction)] ++
    if request.skipped.isEmpty then []
    else [("skipped_entries", .array (request.skipped.map skippedJson))]

end BuildRequest

end PackageClosure
