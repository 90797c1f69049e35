import EdgeIncludes.Number.Basic

namespace EdgeIncludes
namespace Number

def valueOf (ds : Text) : Nat := ds.foldl (fun n c => 10 * n + (c.toNat - 48)) 0

-- ASCII digits, with or without a plus sign in front.
def natural? (t : Text) : Option Nat :=
  let ds := match t with
    | '+' :: r => r
    | r => r
  if ds.isEmpty || !ds.all Char.isDigit then none
  else
    let n := valueOf ds
    if n ≤ maxCount then some n else none

def takeSign : Text → Bool × Text
  | '-' :: t => (true, t)
  | '+' :: t => (false, t)
  | t => (false, t)

-- The digits behind a point, and what follows them.
def takeFraction : Text → Text × Text
  | '.' :: t => Text.spanBy Char.isDigit t
  | t => ([], t)

-- The exponent at the end of a number: none written is zero, and one without digits is refused.
def exponent? : Text → Option Int
  | [] => some 0
  | c :: t =>
    if c = 'e' || c = 'E' then
      let (negative, ds) := takeSign t
      if ds.isEmpty || !ds.all Char.isDigit then none
      else some (if negative then -(valueOf ds : Int) else valueOf ds)
    else none

-- `ds * 10 ^ e`. Far outside the range of numbers the power itself is not needed.
def ofDecimal (negative : Bool) (ds : Text) (e : Int) : Number :=
  let n := valueOf ds
  let top : Int := (ds.dropWhile (· = '0')).length + e
  if n = 0 || top < -400 then zero negative
  else if 400 < top then .infinite negative
  else if 0 ≤ e then ofRatio negative (n * Nat.pow 10 e.toNat) 1
  else ofRatio negative n (Nat.pow 10 (-e).toNat)

def decimal? (negative : Bool) (t : Text) : Option Number :=
  let (whole, t) := Text.spanBy Char.isDigit t
  let (fraction, t) := takeFraction t
  if whole.isEmpty && fraction.isEmpty then none
  else (exponent? t).map fun e => ofDecimal negative (whole ++ fraction) (e - fraction.length)

-- A decimal with an optional sign, point and exponent, or one of the words for the other values.
def ofText? (t : Text) : Option Number :=
  let (negative, t) := takeSign t
  let word := t.map Char.toLower
  if word = "inf".toList || word = "infinity".toList then some (.infinite negative)
  else if word = "nan".toList then some (.notANumber negative)
  else decimal? negative t

end Number
end EdgeIncludes
