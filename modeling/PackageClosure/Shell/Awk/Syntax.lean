import PackageClosure.Shell.Awk.Value
import PackageClosure.Shell.Regex

set_option autoImplicit false

namespace PackageClosure.Shell.Awk

inductive Variable where
  | global (name : String)
  | parameter (index : Nat)
  deriving DecidableEq, Repr

inductive Arithmetic where
  | add
  | subtract
  | multiply
  | divide
  | remainder
  | power
  deriving DecidableEq, Repr

inductive Comparison where
  | less
  | lessEqual
  | equal
  | different
  | greater
  | greaterEqual
  deriving DecidableEq, Repr

inductive Builtin where
  | length
  | index
  | substring
  | format
  | sine
  | cosine
  | arcTangent
  | exponential
  | logarithm
  | truncate
  | squareRoot
  | random
  | seed
  | close
  | execute
  | upper
  | lower
  | flush
  | locate
  | divide
  | replace (everywhere : Bool)
  | time
  | timeText
  | timeOf
  deriving DecidableEq, Repr

inductive Source where
  | records
  | file
  | command
  deriving DecidableEq, Repr

inductive Target where
  | file (append : Bool)
  | command
  deriving DecidableEq, Repr

inductive Expression where
  | number (quantity : Quantity)
  | text (letters : Text)
  | pattern (regex : Regex)
  | value (place : Variable)
  | field (index : Expression)
  | element (array : Variable) (subscripts : List Expression)
  | assign (target value : Expression)
  | update (operation : Arithmetic) (target value : Expression)
  | step (up : Bool) (after : Bool) (target : Expression)
  | choice (condition positive negative : Expression)
  | both (first second : Expression)
  | either (first second : Expression)
  | negation (operand : Expression)
  | contains (subscripts : List Expression) (array : Variable)
  | agrees (negated : Bool) (subject pattern : Expression)
  | compare (comparison : Comparison) (left right : Expression)
  | arithmetic (operation : Arithmetic) (left right : Expression)
  | minus (operand : Expression)
  | plus (operand : Expression)
  | join (left right : Expression)
  | call (name : String) (arguments : List Expression)
  | builtin (function : Builtin) (arguments : List Expression)
  | read (source : Source) (name : Option Expression) (target : Option Expression)

inductive Statement where
  | nothing
  | evaluate (expression : Expression)
  | print (formatted : Bool) (arguments : List Expression) (target : Option (Target × Expression))
  | sequence (first second : Statement)
  | choice (condition : Expression) (positive negative : Statement)
  | loop (condition : Expression) (body : Statement)
  | loopAfter (body : Statement) (condition : Expression)
  | count (start : Statement) (condition : Option Expression) (step body : Statement)
  | each (target : Variable) (array : Variable) (body : Statement)
  | leave
  | again
  | next
  | nextFile
  | finish (code : Option Expression)
  | returns (value : Option Expression)
  | erase (array : Variable) (subscripts : Option (List Expression))

inductive When where
  | first
  | last
  | always
  | holds (condition : Expression)
  | between (start stop : Expression)

structure Rule where
  condition : When
  action : Option Statement

structure Function where
  name : String
  parameters : List String
  body : Statement

structure Program where
  rules : List Rule
  functions : List Function
  arrayParameters : List (String × Nat)

end PackageClosure.Shell.Awk
