import PackageClosure.Path.Basic

set_option autoImplicit false

namespace PackageClosure.GitCache

def sanitize (text : String) : String :=
  String.ofList (text.toList.map fun c => if c.isAlphanum then c else '_')

def entryName (url : String) (rev : Option String) : String :=
  match rev with
  | none => sanitize url
  | some rev => sanitize url ++ "_" ++ sanitize rev

-- The directory that a repository is fetched into before it is complete.
def stagingName (entry : String) : String := entry ++ ".partial"

end PackageClosure.GitCache
