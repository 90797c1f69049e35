import EdgeIncludes.CharSet.Basic
import EdgeIncludes.Text.Utf8

namespace EdgeIncludes
namespace Pattern

-- A first and a last byte.
abbrev ByteRange := Nat × Nat

-- The block of `size` code points that `n` lies in starts here.
def blockStart (size n : Nat) : Nat := n / size * size

-- The last code point of the part before a cut for the lengths of encodings.
def lengthCut? (low high : Nat) : Option Nat :=
  [0x7F, 0x7FF, 0xFFFF].find? fun m => low ≤ m && m < high

-- A part of several blocks begins at the start of a block and ends at the end of one.
def blockCut? (low high : Nat) : Option Nat :=
  [64, 4096, 262144].findSome? fun size =>
    let a := blockStart size low
    let b := blockStart size high
    if a = b then none
    else if low ≠ a then some (a + size - 1)
    else if high ≠ b + size - 1 then some (b - 1)
    else none

def cut? (low high : Nat) : Option Nat :=
  match lengthCut? low high with
  | some m => some m
  | none => if high < 0x80 then none else blockCut? low high

def codeBytes (n : Nat) : List Nat := (Text.Utf8.encodeChar (Char.ofNat n)).map UInt8.toNat

def byteRanges (low high : Nat) : List (List ByteRange) :=
  match cut? low high with
  | none => [(codeBytes low).zip (codeBytes high)]
  | some m =>
    if _h : low ≤ m ∧ m < high then byteRanges low m ++ byteRanges (m + 1) high
    else [(codeBytes low).zip (codeBytes high)]
termination_by high - low

-- No character lies between U+D7FF and U+E000.
def withoutSurrogates (r : Nat × Nat) : List (Nat × Nat) :=
  [(r.1, min r.2 0xD7FF), (max r.1 0xE000, r.2)].filter fun p => p.1 ≤ p.2

def bytesOf (s : CharSet) : List (List ByteRange) :=
  (s.ranges.flatMap withoutSurrogates).flatMap fun r => byteRanges r.1 r.2

end Pattern
end EdgeIncludes
