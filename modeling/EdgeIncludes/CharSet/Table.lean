import EdgeIncludes.CharSet.Basic

namespace EdgeIncludes
namespace CharSet

def digitOf (c : Char) : Nat := c.toNat - 48

-- Numbers with blanks between them, each the distance from the end of the last range to the start
-- of the next one. A second number behind a plus sign counts the characters behind the first one of
-- the range. `start` is the code point behind the last range, and `more?` the number behind a plus
-- sign.
def readRanges (start gap : Nat) (more? : Option Nat) : Text → List (Nat × Nat)
  | [] => [(start + gap, start + gap + more?.getD 0)]
  | c :: t =>
    if c = ' ' then
      let last := start + gap + more?.getD 0
      (start + gap, last) :: readRanges (last + 1) 0 none t
    else if c = '+' then readRanges start gap (some 0) t
    else
      match more? with
      | none => readRanges start (10 * gap + digitOf c) none t
      | some n => readRanges start gap (some (10 * n + digitOf c)) t

def ofTable (lines : List String) : CharSet :=
  if lines.isEmpty then empty
  else ⟨readRanges 0 0 none (Text.join [' '] (lines.map String.toList))⟩

end CharSet
end EdgeIncludes
