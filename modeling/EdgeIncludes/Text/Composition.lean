import EdgeIncludes.Text.Decomposition

namespace EdgeIncludes
namespace Text

-- Puts a character in front of a text whose marks are in order. It passes the marks of a lower
-- class, so marks of the same class keep their order, and a character that is no mark passes none.
def insertMark (c : Char) : Text → Text
  | [] => [c]
  | d :: t =>
    if 0 < combiningClass d && combiningClass d < combiningClass c then d :: insertMark c t
    else c :: d :: t

def orderMarks (t : Text) : Text := t.foldr insertMark []

def neverComposed : CharSet := CharSet.ofTable neverComposedTable

-- A first and a middle part make a syllable, and an open syllable takes a last part.
def syllable? (a b : Nat) : Option Nat :=
  if 0x1100 ≤ a && a < 0x1113 && 0x1161 ≤ b && b < 0x1176 then
    some (0xAC00 + 588 * (a - 0x1100) + 28 * (b - 0x1161))
  else if 0xAC00 ≤ a && a < 0xD7A4 && (a - 0xAC00) % 28 = 0 && 0x11A7 < b && b < 0x11C3 then
    some (a + (b - 0x11A7))
  else none

-- The character that two characters make.
def composite? (a b : Char) : Option Char :=
  match syllable? a.toNat b.toNat with
  | some n => some (Char.ofNat n)
  | none =>
    (Decomposition.canonicals.find? fun d =>
      d.parts = [a.toNat, b.toNat] && !neverComposed.mem (Char.ofNat d.first)).map
      fun d => Char.ofNat d.first

-- `a` is the last character that is no mark, and `marks` are those behind it that it could not
-- take. The highest class of these is `k`, and a mark of that class cannot get past them.
def composeFrom (a : Char) (marks : Text) (k : Nat) : Text → Text
  | [] => a :: marks
  | c :: t =>
    let j := combiningClass c
    match if marks = [] || k < j then composite? a c else none with
    | some d => composeFrom d marks k t
    | none =>
      if j = 0 then a :: marks ++ composeFrom c [] 0 t else composeFrom a (marks ++ [c]) j t

-- Marks in front of the first character stay as they are.
def compose : Text → Text
  | [] => []
  | c :: t => if combiningClass c = 0 then composeFrom c [] 0 t else c :: compose t

def isPlain (c : Char) : Bool := c.toNat < 0x300

-- The plain characters come before all marks and go together with no character before them, so a
-- text of these is composed already.
def composed (t : Text) : Text :=
  if t.all isPlain then t else compose (orderMarks (t.flatMap canonical))

end Text
end EdgeIncludes
