import EdgeIncludes.Text.Utf8

namespace EdgeIncludes
namespace Text.Percent

def hexDigit (n : Nat) : Char := if n < 10 then Char.ofNat (48 + n) else Char.ofNat (55 + n)

def hexValue? (c : Char) : Option Nat :=
  let n := c.toNat
  if 48 ≤ n && n ≤ 57 then some (n - 48)
  else if 65 ≤ n && n ≤ 70 then some (n - 55)
  else if 97 ≤ n && n ≤ 102 then some (n - 87)
  else none

def encodeByte (b : UInt8) : Text := ['%', hexDigit (b.toNat / 16), hexDigit (b.toNat % 16)]

-- Encodes the characters of a set. Characters outside ASCII are always encoded.
def encode (set : Char → Bool) (t : Text) : Text :=
  t.flatMap fun c =>
    if set c || 0x80 ≤ c.toNat then (Utf8.encodeChar c).flatMap encodeByte else [c]

-- A percent sign that two digits do not follow stands for itself.
def decode : Text → List UInt8
  | '%' :: a :: b :: t =>
    match hexValue? a, hexValue? b with
    | some x, some y => (16 * x + y).toUInt8 :: decode t
    | _, _ => 0x25 :: decode (a :: b :: t)
  | c :: t => Utf8.encodeChar c ++ decode t
  | [] => []

end Text.Percent
end EdgeIncludes
