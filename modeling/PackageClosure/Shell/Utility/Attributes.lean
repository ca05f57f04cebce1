import PackageClosure.Shell.Calendar
import PackageClosure.Shell.Mode
import PackageClosure.Shell.Utility.Copying

set_option autoImplicit false

namespace PackageClosure.Shell.Utility

def sizeOfNode : Disk.Node → Nat
  | .file file => file.bytes.length
  | .directory _ => 4096
  | .link target => Text.rawLength target.text.toList
  | .device _ => 0

def blocksOf : Disk.Node → Nat
  | .file file => (file.bytes.length + 4095) / 4096 * 4
  | .directory _ => 4
  | _ => 0

def namesOf (disk : Disk) (place : Place) : Disk.Node → Nat
  | .file file => if file.shared = 0 then 1 else (disk.placesOf place file).length
  | .directory _ =>
      2 + ((disk.namesIn place).filter fun name => disk.hasDirectory (place ++ [name])).length
  | _ => 1

def numberOf (disk : Disk) (place : Place) (node : Disk.Node) : Nat :=
  let alone := 2000000 + (disk.nodes.entries.findIdx fun entry => entry.1 = place)
  match node with
  | .file file => if file.shared = 0 then alone else 1000000 + file.shared
  | _ => alone

def changedAt (disk : Disk) (place : Place) : Disk.Node → Int
  | .directory _ =>
      (disk.namesIn place).foldl (fun latest name =>
        match disk.node? (place ++ [name]) with
        | some (.file file) => max latest file.changed
        | _ => latest) 0
  | node => node.changed

def kindLetter : Disk.Node → Char
  | .file _ => '-'
  | .directory _ => 'd'
  | .link _ => 'l'
  | .device _ => 'c'

def deviceNumbers : Disk.Device → Nat × Nat
  | .null => (1, 3)
  | .zero => (1, 5)
  | .full => (1, 7)

def powerOf (base : Nat) : Nat → Nat
  | 0 => 1
  | exponent + 1 => base * powerOf base exponent

def roundedSize (base size : Nat) : String :=
  let units := ["", "K", "M", "G", "T", "P", "E"]
  let fits := (List.range units.length).filter fun power => powerOf base power ≤ size
  let power := fits.getLast?.getD 0
  let unit := powerOf base power
  let ceiling (number : Nat) : Nat := (number + unit - 1) / unit
  if power = 0 then toString size
  else
    let tenths := ceiling (size * 10)
    if tenths < 100 then s!"{tenths / 10}.{tenths % 10}" ++ units.getD power ""
    else if ceiling size = base then "1.0" ++ units.getD (power + 1) ""
    else toString (ceiling size) ++ units.getD power ""

end PackageClosure.Shell.Utility
