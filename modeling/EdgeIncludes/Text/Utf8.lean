import EdgeIncludes.Text.Basic

namespace EdgeIncludes
namespace Text.Utf8

def encodeChar (c : Char) : List UInt8 :=
  let n := c.toNat
  if n < 0x80 then [n.toUInt8]
  else if n < 0x800 then [(0xC0 + n / 64).toUInt8, (0x80 + n % 64).toUInt8]
  else if n < 0x10000 then
    [(0xE0 + n / 4096).toUInt8, (0x80 + n / 64 % 64).toUInt8, (0x80 + n % 64).toUInt8]
  else
    [(0xF0 + n / 262144).toUInt8, (0x80 + n / 4096 % 64).toUInt8, (0x80 + n / 64 % 64).toUInt8,
      (0x80 + n % 64).toUInt8]

def encode (t : Text) : List UInt8 := t.flatMap encodeChar

-- What a first byte announces: its own bits, how many bytes follow, and the bounds of the next one.
structure Lead where
  bits : Nat
  more : Nat
  low : Nat
  high : Nat

-- The bounds shut out overlong forms, surrogates and everything above U+10FFFF.
def lead? (b : UInt8) : Option Lead :=
  let n := b.toNat
  if n < 0x80 then some ⟨n, 0, 0x80, 0xBF⟩
  else if n < 0xC2 then none
  else if n < 0xE0 then some ⟨n % 32, 1, 0x80, 0xBF⟩
  else if n = 0xE0 then some ⟨0, 2, 0xA0, 0xBF⟩
  else if n = 0xED then some ⟨13, 2, 0x80, 0x9F⟩
  else if n < 0xF0 then some ⟨n % 16, 2, 0x80, 0xBF⟩
  else if n = 0xF0 then some ⟨0, 3, 0x90, 0xBF⟩
  else if n < 0xF4 then some ⟨n % 8, 3, 0x80, 0xBF⟩
  else if n = 0xF4 then some ⟨4, 3, 0x80, 0x8F⟩
  else none

-- Adds the bits of `more` bytes, or stops in front of the first that is out of bounds.
def follow (bits : Nat) : Nat → Nat → Nat → List UInt8 → Option Char × List UInt8
  | 0, _, _, bs => (some (Char.ofNat bits), bs)
  | _ + 1, _, _, [] => (none, [])
  | more + 1, low, high, b :: bs =>
    if low ≤ b.toNat && b.toNat ≤ high then
      follow (bits * 64 + b.toNat % 64) more 0x80 0xBF bs
    else (none, b :: bs)

theorem length_follow_le (bits more low high : Nat) (bs : List UInt8) :
    (follow bits more low high bs).2.length ≤ bs.length := by
  fun_induction follow bits more low high bs with
  | case1 => simp
  | case2 => simp
  | case3 _ _ _ _ _ _ _ ih => simp only [List.length_cons]; omega
  | case4 => simp

-- The first character of `b :: bs`, or nothing for a fault, with the bytes behind it.
def next (b : UInt8) (bs : List UInt8) : Option Char × List UInt8 :=
  match lead? b with
  | none => (none, bs)
  | some l => follow l.bits l.more l.low l.high bs

theorem length_next_le (b : UInt8) (bs : List UInt8) : (next b bs).2.length ≤ bs.length := by
  unfold next
  split
  · simp
  · exact length_follow_le ..

-- The characters in order, each fault as nothing.
def scan : List UInt8 → List (Option Char)
  | [] => []
  | b :: bs => (next b bs).1 :: scan (next b bs).2
termination_by bs => bs.length
decreasing_by
  have := length_next_le b bs
  simp only [List.length_cons]
  omega

def decode? (bs : List UInt8) : Option Text := (scan bs).mapM id

def decodeLossy (bs : List UInt8) : Text := (scan bs).map (·.getD '\uFFFD')

end Text.Utf8
end EdgeIncludes
