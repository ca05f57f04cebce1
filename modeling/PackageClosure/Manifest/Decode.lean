import PackageClosure.Manifest.Basic
import PackageClosure.Toml.Document

set_option autoImplicit false

namespace PackageClosure

namespace Manifest

inductive Field where
  | package
  | name
  | version
deriving DecidableEq, Repr

def Field.text : Field → String
  | .package => "package"
  | .name => "package.name"
  | .version => "package.version"

inductive Reason where
  | notTable (found : Toml.ValueSort)
  | notInlineTable (found : Toml.ValueSort)
  | notArray (found : Toml.ValueSort)
  | notString (found : Toml.ValueSort)
  | notAddress (found : Toml.ValueSort)
  | authorNotString
  | fieldNotString (field : String) (found : Toml.ValueSort)
deriving DecidableEq, Repr

def Reason.text : Reason → String
  | .notTable found => s!"expected a table, found {found.text}"
  | .notInlineTable found => s!"expected an inline table, found {found.text}"
  | .notArray found => s!"expected an array, found {found.text}"
  | .notString found => s!"expected a string, found {found.text}"
  | .notAddress found => s!"expected an address string, found {found.text}"
  | .authorNotString => "authors must be strings"
  | .fieldNotString field found => s!"field `{field}` must be a string, found {found.text}"

inductive Error where
  | notToml
  | missing (field : Field)
  | malformed (table entry : String) (reason : Reason)
  | ambiguous (name : String)
deriving DecidableEq, Repr

def Error.message : Error → String
  | .notToml => "Invalid TOML"
  | .missing field => s!"Missing required field `{field.text}`"
  | .malformed table entry reason => s!"Malformed entry `{entry}` in [{table}]: {reason.text}"
  | .ambiguous name => s!"Dependency `{name}` cannot specify both a `local` and a `git` location"

def table? (document : Toml.Table) (name : String) : Except Error (Option Toml.Table) :=
  match document.lookup name with
  | none => .ok none
  | some (.table entries) => .ok (some entries)
  | some other => .error (.malformed name name (.notTable other.sort))

def requiredText (package : Toml.Table) (entry : String) (field : Field) : Except Error String :=
  match package.lookup entry with
  | none => .error (.missing field)
  | some (.string text) => if text = "" then .error (.missing field) else .ok text
  | some other => .error (.malformed "package" entry (.notString other.sort))

def decodeAuthors (package : Toml.Table) : Except Error (List String) :=
  match package.lookup "authors" with
  | none => .ok []
  | some (.array items) =>
      items.mapM fun
        | .string author => .ok author
        | _ => .error (.malformed "package" "authors" .authorNotString)
  | some other => .error (.malformed "package" "authors" (.notArray other.sort))

def decodeLicense (package : Toml.Table) : Except Error (Option String) :=
  match package.lookup "license" with
  | none => .ok none
  | some (.string text) => .ok (some text)
  | some other => .error (.malformed "package" "license" (.notString other.sort))

def decodePackage (package : Toml.Table) : Except Error PackageInfo := do
  let name ← requiredText package "name" .name
  let version ← requiredText package "version" .version
  let authors ← decodeAuthors package
  let license ← decodeLicense package
  return { name, version, authors, license }

def decodeAddress (entry : String × Toml.Value) : Except Error (String × String) :=
  match entry.2 with
  | .string text => .ok (entry.1, text)
  | other => .error (.malformed "addresses" entry.1 (.notAddress other.sort))

def dependencyText (table name : String) (fields : Toml.Table) (field : String) :
    Except Error (Option String) :=
  match fields.lookup field with
  | none => .ok none
  | some (.string text) => .ok (some text)
  | some other => .error (.malformed table name (.fieldNotString field other.sort))

def decodeDependency (table : String) (entry : String × Toml.Value) :
    Except Error (String × Dependency) := do
  let name := entry.1
  match entry.2 with
  | .table fields =>
      let path ← dependencyText table name fields "local"
      let url ← dependencyText table name fields "git"
      let rev ← dependencyText table name fields "rev"
      match path, url with
      | some path, none => return (name, .path ⟨path⟩)
      | none, some url => return (name, .git url rev)
      | none, none => return (name, .unspecified)
      | some _, some _ => throw (.ambiguous name)
  | other => throw (.malformed table name (.notInlineTable other.sort))

def decodeDependencies (document : Toml.Table) (table : String) :
    Except Error (OrderedMap Dependency) := do
  let entries := (← table? document table).getD []
  return .ofList (← entries.mapM (decodeDependency table))

def decode (document : Toml.Value) : Except Error Manifest := do
  match document with
  | .table document =>
      let some package ← table? document "package" | throw (.missing .package)
      let package ← decodePackage package
      let addresses := (← table? document "addresses").getD []
      let addresses ← addresses.mapM decodeAddress
      let dependencies ← decodeDependencies document "dependencies"
      let devDependencies ← decodeDependencies document "dev-dependencies"
      return { package, addresses := .ofList addresses, dependencies, devDependencies }
  | _ => throw (.missing .package)

def parse (text : String) : Except Error Manifest :=
  match Toml.parse? text with
  | none => .error .notToml
  | some document => decode document

end Manifest

end PackageClosure
