import EdgeIncludes.CharSet.Table
import EdgeIncludes.Text.Category

namespace EdgeIncludes
namespace Text

-- Letters that connect on both sides, with the next letter only, or with the one before only.
inductive Joining where
  | both | next | previous | through | none
deriving DecidableEq, Repr

namespace Joining

def bothSided : CharSet := CharSet.ofTable [
  "1568 5 1 1+4 4+12 1+6 1+1 35+1 8+15 18+37 1+1 9 1 1+1 40+2 2 18+2 5+3 1+8 1 1 1+1 31+10 3+14",
  "2+3 1 2+2 2+5 74+32 86+4 2 1+9 1 10 1+3 2 29 2+4 1 16+9 5+1 2+5 1+14 3902 24+88 14+33 1",
  "36757+49 25166+4 14+3 1+4 1+2 10+3 145 1 3+2 1+1 1 2 28+1 338+32 1 415+1 1+1 104+2 1+16 12+2",
  "28+3 2+11 46 1+1 4 2+1 1+1 1 2 5 55605+67"]

def withPrevious : CharSet := CharSet.ofTable [
  "1570+3 1 1 5+3 21 40+2 1+2 16+17 38 2+8 1 1 2+1 1 24+1 32 4+4 4 9 1 1 2 29 11+2 15+1 4 1+1",
  "3+1 198 5+1 1 10 1+2 14 1+1 5+18 11 27+2 1 2+1 6 66059 1 1+1 3+4 10 3 2 10 145 1+2 3 2 1+1 1",
  "23+3 373 415 112 32 31+1 62+2 2+1 2 4+1 5"]

def withNext : CharSet := ⟨[(0xA872, 0xA872), (0x10ACD, 0x10ACD), (0x10AD7, 0x10AD7),
  (0x10D00, 0x10D00), (0x10FCB, 0x10FCB)]⟩

-- Characters without a shape let a connection through as well. The two joiners do not, because they
-- are there to make one or to break it.
def isThrough (c : Char) : Bool :=
  match Category.of .seventeen c with
  | .nonspacing | .enclosing | .format => c.toNat ≠ 0x200C && c.toNat ≠ 0x200D
  | _ => c.toNat = 0x1E94B

def of (c : Char) : Joining :=
  if bothSided.mem c then both
  else if withNext.mem c then next
  else if withPrevious.mem c then previous
  else if isThrough c then through
  else none

end Joining
end Text
end EdgeIncludes
