import EdgeIncludes.Text.Basic

namespace EdgeIncludes

-- A finite number is `significand * 2 ^ exponent`. The significand has at most 53 bits, the
-- exponent is at least -1074, and only with that exponent has the significand fewer bits.
inductive Number where
  | finite (negative : Bool) (significand : Nat) (exponent : Int)
  | infinite (negative : Bool)
  | notANumber (negative : Bool)
deriving DecidableEq, Repr

namespace Number

def lowestExponent : Int := -1074

def highestExponent : Int := 971

-- The least significand of 53 bits.
def normal : Nat := 0x10000000000000

def signBit : Nat := 0x8000000000000000

-- The biased exponent of the values that are not finite.
def topExponent : Nat := 0x7FF

def zero (negative : Bool) : Number := .finite negative 0 lowestExponent

-- Sign, biased exponent and fraction, as one number of 64 bits.
def toBits (x : Number) : Nat :=
  let sign := fun negative : Bool => if negative then signBit else 0
  match x with
  | .finite negative m e =>
    if m < normal then sign negative + m
    else sign negative + (e + 1075).toNat * normal + (m - normal)
  | .infinite negative => sign negative + topExponent * normal
  | .notANumber negative => sign negative + topExponent * normal + normal / 2

-- The fraction `n / (d * 2 ^ e)` as a pair.
def scale (n d : Nat) (e : Int) : Nat × Nat :=
  if 0 ≤ e then (n, d * Nat.pow 2 e.toNat) else (n * Nat.pow 2 (-e).toNat, d)

-- The whole number nearest to `n / d`. A half goes to the even neighbour.
def roundDiv (n d : Nat) : Nat :=
  let q := n / d
  let r := n % d
  if 2 * r < d then q else if d < 2 * r then q + 1 else q + q % 2

-- The smallest exponent with which `n / d` has at most 53 bits before the point.
def exponentFor (n d : Nat) : Int :=
  let e := max lowestExponent ((n.log2 : Int) - d.log2 - 53)
  let s := scale n d e
  if s.1 / s.2 < 2 * normal then e else e + 1

def ofRatio (negative : Bool) (n d : Nat) : Number :=
  if n = 0 then zero negative
  else
    let e := exponentFor n d
    let s := scale n d e
    let m := roundDiv s.1 s.2
    let (m, e) := if m = 2 * normal then (normal, e + 1) else (m, e)
    if highestExponent < e then .infinite negative else .finite negative m e

def isFinite : Number → Bool
  | .finite .. => true
  | _ => false

-- The largest count that a number can give.
def maxCount : Nat := 0xFFFFFFFFFFFFFFFF

-- A number that is not below zero counts its whole part.
def count? : Number → Option Nat
  | .finite negative m e =>
    if negative && m != 0 then none
    else
      let s := scale m 1 (-e)
      some (min maxCount (s.1 / s.2))
  | .infinite negative => if negative then none else some maxCount
  | .notANumber _ => none

end Number
end EdgeIncludes
