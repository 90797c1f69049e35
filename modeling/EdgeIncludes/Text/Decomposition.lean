import EdgeIncludes.CharSet.Table
import EdgeIncludes.Text.Decomposition.Table

namespace EdgeIncludes
namespace Text

-- The characters from `first` to `last` consist of `parts`, which all grow by one from character to
-- character.
structure Decomposition where
  first : Nat
  last : Nat
  parts : List Nat
deriving DecidableEq, Repr

namespace Decomposition

def numberOf (t : Text) : Nat := t.foldl (fun n c => 10 * n + (c.toNat - 48)) 0

-- Reads an entry of a table. `start` is the code point behind the last entry.
def ofEntry (start : Nat) (t : Text) : Decomposition :=
  let (place, parts) := (cut? ['='] t).getD (t, [])
  let (gap, more) := (cut? ['+'] place).getD (place, [])
  let first := start + numberOf gap
  ⟨first, first + numberOf more, (splitOn ['.'] parts).map numberOf⟩

def ofEntries (start : Nat) : List Text → List Decomposition
  | [] => []
  | t :: ts =>
    let d := ofEntry start t
    d :: ofEntries (d.last + 1) ts

def ofTable (lines : List String) : List Decomposition :=
  ofEntries 0 (lines.flatMap fun s => splitOn [' '] s.toList)

def canonicals : List Decomposition := ofTable canonicalTable

def compatibles : List Decomposition := ofTable compatibleTable

-- The entries stand in ascending order.
def partsIn? (n : Nat) : List Decomposition → Option (List Nat)
  | [] => none
  | d :: ds =>
    if n < d.first then none
    else if n ≤ d.last then some (d.parts.map (· + (n - d.first)))
    else partsIn? n ds

end Decomposition

-- The syllables of the Korean script stand in one block, in the order of their first, middle and
-- last parts. The first of the 28 last parts is none.
def syllableParts? (n : Nat) : Option (List Nat) :=
  let i := n - 0xAC00
  if n < 0xAC00 || 11172 ≤ i then none
  else
    let parts := [0x1100 + i / 588, 0x1161 + i % 588 / 28]
    some (if i % 28 = 0 then parts else parts ++ [0x11A7 + i % 28])

-- Goes so many steps from a character to its parts.
def expand : Nat → Nat → List Nat
  | 0, n => [n]
  | steps + 1, n =>
    match (syllableParts? n).or (Decomposition.partsIn? n Decomposition.canonicals) with
    | none => [n]
    | some parts => parts.flatMap (expand steps)

-- No character takes more than four steps.
def canonical (c : Char) : Text := (expand 4 c.toNat).map Char.ofNat

def compatible (c : Char) : Text :=
  match Decomposition.partsIn? c.toNat Decomposition.compatibles with
  | some parts => parts.map Char.ofNat
  | none => canonical c

def combiningClasses : List (Nat × CharSet) :=
  combiningTable.map fun row => (row.1, CharSet.ofTable row.2)

-- The class of a character that is no mark is 0.
def combiningClass (c : Char) : Nat :=
  ((combiningClasses.find? (·.2.mem c)).map (·.1)).getD 0

end Text
end EdgeIncludes
