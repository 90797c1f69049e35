import EdgeIncludes.Number.Basic

namespace EdgeIncludes
namespace Number

def digits (n : Nat) : Text := Nat.toDigits 10 n

-- The values that round to `m * 2 ^ e`, in quarters of `2 ^ e`: the bounds, and whether they
-- belong. Below a power of two the gap is half as wide.
structure Basin where
  low : Nat
  high : Nat
  closed : Bool

def basin (m : Nat) (e : Int) : Basin :=
  ⟨4 * m - (if m = normal && lowestExponent < e then 1 else 2), 4 * m + 2, m % 2 = 0⟩

-- Whether the whole number `c` lies in the basin, on the scale where `n / d` is `4 * m` quarters.
def Basin.holds (b : Basin) (m c n d : Nat) : Bool :=
  let x := 4 * m * c * d
  if b.closed then b.low * n ≤ x && x ≤ b.high * n else b.low * n < x && x < b.high * n

-- The number of digits before the point of `n / d`, zero or negative below a tenth.
def magnitude (n d : Nat) : Int :=
  if d ≤ n then (digits (n / d)).length
  else
    let l := (digits (d / n)).length
    if d ≤ n * Nat.pow 10 (l - 1) then 2 - (l : Int) else 1 - (l : Int)

-- The value times `10 ^ p` as a fraction.
def shift (n d : Nat) (p : Int) : Nat × Nat :=
  if 0 ≤ p then (n * Nat.pow 10 p.toNat, d) else (n, d * Nat.pow 10 (-p).toNat)

-- The neighbour of `n / d` among the whole numbers that lies in the basin, the nearer of two.
def neighbour? (b : Basin) (m n d : Nat) : Option Nat :=
  let c := n / d
  let down := b.holds m c n d
  let up := b.holds m (c + 1) n d
  if up && (!down || d ≤ 2 * (n % d)) then some (c + 1)
  else if down then some c
  else none

-- Tries one digit more until one of the two neighbours reads back. Seventeen are always enough.
def shortestFrom (b : Basin) (m n d : Nat) (k : Int) : Nat → Nat → Nat × Int
  | 0, _ => (0, 0)
  | fuel + 1, count =>
    let s := shift n d (count - k)
    match neighbour? b m s.1 s.2 with
    | some c => if c = Nat.pow 10 count then (1, k) else (c, k - count)
    | none => shortestFrom b m n d k fuel (count + 1)

-- The fewest digits, and the power of ten that they count.
def shortest (m : Nat) (e : Int) : Nat × Int :=
  let s := scale m 1 (-e)
  shortestFrom (basin m e) m s.1 s.2 (magnitude s.1 s.2) 17 1

-- `n * 10 ^ p` with all its zeros.
def positional (n : Nat) (p : Int) : Text :=
  let ds := digits n
  if 0 ≤ p then ds ++ List.replicate p.toNat '0'
  else
    let places := (-p).toNat
    let ds := List.replicate (places + 1 - ds.length) '0' ++ ds
    ds.take (ds.length - places) ++ '.' :: ds.drop (ds.length - places)

def magnitudeText (m : Nat) (e : Int) : Text :=
  if m = 0 then ['0']
  else
    let s := shortest m e
    positional s.1 s.2

def signText (negative : Bool) : Text := if negative then ['-'] else []

-- There is never an exponent.
def text : Number → Text
  | .finite negative m e => signText negative ++ magnitudeText m e
  | .infinite negative => signText negative ++ "inf".toList
  | .notANumber _ => "NaN".toList

end Number
end EdgeIncludes
