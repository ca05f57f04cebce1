import PackageClosure.Shell.Utility.Copying

set_option autoImplicit false

namespace PackageClosure.Shell.Utility

def directoryOf (path : String) : String :=
  let trimmed := path.toList.reverse.dropWhile (· = '/')
  if trimmed.isEmpty then if path.isEmpty then "." else "/"
  else if !trimmed.contains '/' then "."
  else
    match (trimmed.dropWhile (· ≠ '/')).dropWhile (· = '/') with
    | [] => "/"
    | kept => String.ofList kept.reverse

def baseOf (path ending : String) : String :=
  let name := lastPiece path
  if name.isEmpty then (path.take 1).toString
  else
    let text := name.toList
    let cut := text.take (text.length - ending.length)
    if cut ≠ [] && cut ++ ending.toList = text then String.ofList cut else name

def endOfName (given : Given) : String := if given.has 'z' then "\x00" else "\n"

def printDirectory : Utility :=
  taking ⟨"z", "", [("zero", 'z')]⟩ 1 fun given => do
    if given.operands.isEmpty then misuse 1 "missing operand"
    else
      emitText ("".intercalate (given.operands.map fun path =>
        directoryOf path ++ endOfName given))
      return 0

def printBase : Utility :=
  taking ⟨"az", "s", [("multiple", 'a'), ("suffix", 's'), ("zero", 'z')]⟩ 1 fun given => do
    let all := given.has 'a' || given.has 's'
    let present (ending : String) (paths : List String) : StateM State Nat := do
      emitText ("".intercalate (paths.map fun path => baseOf path ending ++ endOfName given))
      return 0
    match given.operands with
    | [] => misuse 1 "missing operand"
    | [path] => present ((given.value? 's').getD "") [path]
    | path :: ending :: more =>
        if all then present ((given.value? 's').getD "") (path :: ending :: more)
        else
          match more with
          | [] => present ending [path]
          | extra :: _ => misuse 1 s!"extra operand {quoted extra}"

def printWorkingDirectory : Utility :=
  taking ⟨"LP", "", [("logical", 'L'), ("physical", 'P')]⟩ 1 fun given => do
    let state ← get
    if !given.operands.isEmpty then say "ignoring non-option arguments"
    let logical := given.options.getLast?.any (·.1 = 'L')
    match if logical then some state.here else state.directory? with
    | some path =>
        emitText (path ++ "\n")
        return 0
    | none =>
        say s!"couldn't find directory entry in '..' with matching i-node"
        return 1

def placeBeyond (state : State) (place : Place) : List Step → Place
  | [] => place
  | step :: rest =>
      let next := match step with
        | .root => []
        | .current => place
        | .parent => place.dropLast
        | .name name =>
            match state.disk.find (state.disk.hold place) true ⟨name.text⟩ with
            | .ok found => found.place
            | .error _ => place ++ [name]
      placeBeyond state next rest

def resolved? (mustExist anything : Bool) (state : State) (path : String) :
    Except FileError Place :=
  match state.disk.find state.current true ⟨path⟩ with
  | .ok ⟨place, node⟩ =>
      if mustExist && node.isNone then .error (.system .notFound) else .ok place
  | .error error =>
      if anything && !path.isEmpty then
        .ok (placeBeyond state (state.disk.whereIs state.current) (⟨path⟩ : Path).lookupSteps)
      else if !mustExist && path.endsWith "/" then
        match state.disk.find state.current true (Disk.trimSlashes ⟨path⟩) with
        | .ok ⟨place, none⟩ => .ok place
        | _ => .error error
      else .error error

def readLink : Utility :=
  taking ⟨"femnqsvz", "", [("canonicalize", 'f'), ("canonicalize-existing", 'e'),
      ("canonicalize-missing", 'm'), ("no-newline", 'n'), ("verbose", 'v'), ("quiet", 'q'),
      ("silent", 's'), ("zero", 'z')]⟩ 1
    fun given => do
      if given.operands.isEmpty then misuse 1 "missing operand"
      else
        let final := if given.has 'n' && given.operands.length = 1 then "" else endOfName given
        forEach given.operands fun operand => do
          let state ← get
          let result : Except FileError String :=
            if given.has 'f' || given.has 'e' || given.has 'm' then
              (resolved? (given.has 'e') (given.has 'm') state operand).map fun place =>
                place.location.path.text
            else
              match state.disk.find state.current false ⟨operand⟩ with
              | .ok ⟨_, some (.link target)⟩ => .ok target.text
              | .ok ⟨_, some _⟩ => .error (.system .invalidArgument)
              | .ok ⟨_, none⟩ => .error (.system .notFound)
              | .error error => .error error
          match result with
          | .ok path =>
              emitText (path ++ final)
              return true
          | .error error =>
              if given.has 'v' then say s!"{spelled operand}: {reason error}"
              return false

def realPath : Utility :=
  taking ⟨"eLmPqsz", "RB", [("canonicalize-existing", 'e'), ("canonicalize-missing", 'm'),
      ("quiet", 'q'), ("strip", 's'), ("no-symlinks", 's'), ("relative-to", 'R'),
      ("relative-base", 'B'), ("zero", 'z')]⟩ 1
    fun given => do
      if given.operands.isEmpty then misuse 1 "missing operand"
      else
        let placeOf (state : State) (path : String) : Except FileError Place :=
          if given.has 's' && !path.isEmpty then
            .ok ((state.disk.whereIs state.current).location.join ⟨path⟩).names
          else resolved? (given.has 'e') (given.has 'm') state path
        forEach given.operands fun operand => do
          let state ← get
          match placeOf state operand with
          | .ok place =>
              let absolute := place.location.path.text
              let base := ((given.value? 'R').bind fun base => (placeOf state base).toOption)
              let limit := ((given.value? 'B').bind fun base => (placeOf state base).toOption)
              let shown := match base, limit with
                | some base, none => relativePath base place
                | base, some limit =>
                    if limit.isPrefixOf place then relativePath (base.getD limit) place else absolute
                | none, none => absolute
              emitText (shown ++ endOfName given)
              return true
          | .error error =>
              if !given.has 'q' then say s!"{spelled operand}: {reason error}"
              return false

end PackageClosure.Shell.Utility
