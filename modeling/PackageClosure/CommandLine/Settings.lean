import PackageClosure.Build.Settings
import PackageClosure.CommandLine.Switch

set_option autoImplicit false

namespace PackageClosure.BuildSettings

def switches : List (Switch BuildSettings) :=
  [⟨"test", none, .flag fun settings => { settings with testMode := true }⟩,
    ⟨"init-function", none, .value false fun text settings =>
      .ok { settings with initFunction := some text }⟩,
    ⟨"alias", none, .value true fun text settings =>
      match AliasArgument.parse text with
      | .ok argument => .ok { settings with aliases := settings.aliases ++ [argument] }
      | .error _ => .error .badValue⟩,
    ⟨"named-address", none, .value true fun text settings =>
      match AddressArgument.parse text with
      | .ok argument =>
          .ok { settings with namedAddresses := settings.namedAddresses ++ [argument] }
      | .error _ => .error .badValue⟩,
    ⟨"skip-fetch-git-deps", none, .flag fun settings => { settings with skipFetch := true }⟩]

def ofArguments (arguments : List String) : Except UsageError BuildSettings := do
  let (reading, _) ← (⟨.help :: switches, []⟩ : Grammar BuildSettings).read arguments
    (.start .default)
  return (← reading.settle).settings

def override (outer inner : BuildSettings) : BuildSettings where
  testMode := outer.testMode || inner.testMode
  initFunction := inner.initFunction <|> outer.initFunction
  aliases := if inner.aliases.isEmpty then outer.aliases else inner.aliases
  namedAddresses :=
    if inner.namedAddresses.isEmpty then outer.namedAddresses else inner.namedAddresses
  skipFetch := outer.skipFetch || inner.skipFetch

end PackageClosure.BuildSettings
