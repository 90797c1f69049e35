import EdgeIncludes.Text.Basic

namespace EdgeIncludes
namespace Punycode

def digit (n : Nat) : Char := if n < 26 then Char.ofNat (97 + n) else Char.ofNat (22 + n)

def digitValue? (c : Char) : Option Nat :=
  if c.isLower then some (c.toNat - 97)
  else if c.isUpper then some (c.toNat - 65)
  else if c.isDigit then some (c.toNat - 22)
  else none

-- The smallest digit that does not end a number, for the place `k`.
def threshold (k bias : Nat) : Nat := max 1 (min 26 (k - bias))

def settle (k delta : Nat) : Nat :=
  if 455 < delta then settle (k + 36) (delta / 35) else k + 36 * delta / (delta + 38)
termination_by delta
decreasing_by omega

-- The bias for the next number.
def adapt (delta points : Nat) (first : Bool) : Nat :=
  let delta := if first then delta / 700 else delta / 2
  settle 0 (delta + delta / points)

-- One number, the lowest digit first.
def number (bias k q : Nat) : Text :=
  let t := threshold k bias
  if q < t then [digit q]
  else digit (t + (q - t) % (36 - t)) :: number bias (k + 36) ((q - t) / (36 - t))
termination_by q
decreasing_by
  rename_i h
  have h1 : 1 ≤ threshold k bias := Nat.le_max_left ..
  have h2 : (q - threshold k bias) / (36 - threshold k bias) ≤ q - threshold k bias :=
    Nat.div_le_self ..
  omega

structure Encoder where
  delta : Nat := 0
  bias : Nat := 72
  -- The characters that are written so far.
  handled : Nat
  first : Bool := true
  out : Text := []

-- Passes over one character of the label, on the way to the insertions of `m`.
def Encoder.pass (m : Nat) (e : Encoder) (c : Char) : Encoder :=
  if c.toNat < m then { e with delta := e.delta + 1 }
  else if c.toNat = m then
    { delta := 0
      bias := adapt e.delta (e.handled + 1) e.first
      handled := e.handled + 1
      first := false
      out := e.out ++ number e.bias 36 e.delta }
  else e

-- `n` is the first code point that has not been inserted yet.
def encodeFrom (label : Text) (n : Nat) (e : Encoder) : List Nat → Text
  | [] => e.out
  | m :: ms =>
    let e := { e with delta := e.delta + (m - n) * (e.handled + 1) }
    let e := label.foldl (Encoder.pass m) e
    encodeFrom label (m + 1) { e with delta := e.delta + 1 } ms

def insertCode (n : Nat) : List Nat → List Nat
  | [] => [n]
  | m :: ms => if n < m then n :: m :: ms else if n = m then m :: ms else m :: insertCode n ms

-- The code points outside ASCII, in ascending order.
def codesOf (label : Text) : List Nat :=
  label.foldl (fun ns c => if c.toNat < 0x80 then ns else insertCode c.toNat ns) []

def encode (label : Text) : Text :=
  let basic := label.filter (·.toNat < 0x80)
  let e : Encoder := { handled := basic.length }
  (if basic = [] then [] else basic ++ ['-']) ++ encodeFrom label 0x80 e (codesOf label)

structure Decoder where
  n : Nat := 0x80
  i : Nat := 0
  bias : Nat := 72
  -- The number that is being read: where it started, and the weight and place of its next digit.
  start : Nat := 0
  weight : Nat := 1
  k : Nat := 36
  out : Text

-- Ends a number, which puts a character into the output at the place that it gives.
def Decoder.insert? (d : Decoder) (i : Nat) : Option Decoder :=
  let points := d.out.length + 1
  let n := d.n + i / points
  let i' := i % points
  if n.isValidChar then
    some
      { n := n
        i := i' + 1
        bias := adapt (i - d.start) points (d.start = 0)
        start := i' + 1
        out := d.out.take i' ++ Char.ofNat n :: d.out.drop i' }
  else none

def Decoder.read? (d : Decoder) (c : Char) : Option Decoder := do
  let v ← digitValue? c
  let i := d.i + v * d.weight
  let t := threshold d.k d.bias
  if v < t then d.insert? i
  else some { d with i := i, weight := d.weight * (36 - t), k := d.k + 36 }

-- The basic characters end at the last hyphen, if there is one. A hyphen with none in front of it
-- is an error, because it is no digit.
def decode? (label : Text) : Option Text := do
  let (digits, rest) := Text.spanBy (· ≠ '-') label.reverse
  let basic := (rest.drop 1).reverse
  let d ←
    if rest = ['-'] then none else digits.reverse.foldlM Decoder.read? { out := basic }
  if d.weight = 1 then some d.out else none

end Punycode
end EdgeIncludes
