import EdgeIncludes.Number.Printer
import EdgeIncludes.Text.Percent

namespace EdgeIncludes
namespace Address

def valueIn (base : Nat) (t : Text) : Option Nat :=
  (t.mapM fun c => (Text.Percent.hexValue? c).filter (· < base)).map fun ds =>
    ds.foldl (fun n d => n * base + d) 0

-- A part of an address: hexadecimal behind `0x`, octal behind `0`, else decimal. Nothing behind the
-- mark is zero.
def part? (t : Text) : Option Nat :=
  match t with
  | [] => none
  | '0' :: 'x' :: ds | '0' :: 'X' :: ds => valueIn 16 ds
  | '0' :: d :: ds => valueIn 8 (d :: ds)
  | ds => valueIn 10 ds

-- The labels, without an empty one at the end.
def parts (t : Text) : List Text :=
  let ps := Text.splitOn ['.'] t
  if ps.getLast? = some [] then ps.dropLast else ps

def endsInNumber (t : Text) : Bool :=
  match (parts t).getLast? with
  | none => false
  | some p => (p ≠ [] && p.all Char.isDigit) || (part? p).isSome

-- All parts but the last are one byte. The last one fills the bytes that are left.
def combine? : List Nat → Option Nat
  | [] => none
  | ns =>
    let front := ns.dropLast
    let last := ns.getLast?.getD 0
    let room := Nat.pow 256 (4 - front.length)
    if 3 < front.length || front.any (255 < ·) || room ≤ last then none
    else some (front.foldl (fun n b => n * 256 + b) 0 * room + last)

def four? (t : Text) : Option Nat := ((parts t).mapM part?).bind combine?

def fourText (n : Nat) : Text :=
  Text.join ['.'] ([n / 0x1000000, n / 0x10000 % 256, n / 256 % 256, n % 256].map Number.digits)

-- A piece of an address in brackets: one to four hexadecimal digits.
def piece? (t : Text) : Option Nat :=
  if t = [] || 4 < t.length then none else valueIn 16 t

def byte? (t : Text) : Option Nat :=
  if t = [] || !t.all Char.isDigit || (t.head? = some '0' && 1 < t.length) then none
  else (valueIn 10 t).filter (· ≤ 255)

-- The last two pieces can be written as four bytes in decimal.
def lastPieces? (t : Text) : Option (List Nat) :=
  if '.' ∈ t then
    match (Text.splitOn ['.'] t).mapM byte? with
    | some [a, b, c, d] => some [256 * a + b, 256 * c + d]
    | _ => none
  else (piece? t).map fun n => [n]

def pieces? (withBytes : Bool) (t : Text) : Option (List Nat) :=
  if t = [] then some []
  else do
    let ts := Text.splitOn [':'] t
    let front ← ts.dropLast.mapM piece?
    let last := ts.getLast?.getD []
    let back ← if withBytes then lastPieces? last else (piece? last).map fun n => [n]
    pure (front ++ back)

-- Eight pieces. Two colons stand for as many zeros as are missing, one at least or none.
def eight? (t : Text) : Option (List Nat) :=
  match Text.cut? "::".toList t with
  | none => (pieces? true t).filter fun ps => ps.length = 8
  | some (a, b) => do
    let l ← pieces? false a
    let r ← pieces? true b
    if l.length + r.length ≤ 7 then
      some (l ++ List.replicate (8 - l.length - r.length) 0 ++ r)
    else none

def zeros (ps : List Nat) : Nat := (ps.takeWhile (· = 0)).length

-- The first of the longest runs of two zeros or more: where it starts, and how long it is.
def longestZeros (ps : List Nat) : Nat × Nat :=
  (List.range ps.length).foldl
    (fun best i =>
      let n := zeros (ps.drop i)
      if 2 ≤ n && best.2 < n then (i, n) else best)
    (0, 0)

def hexText (n : Nat) : Text := Nat.toDigits 16 n

def eightText (ps : List Nat) : Text :=
  let (i, n) := longestZeros ps
  let text := fun ps : List Nat => Text.join [':'] (ps.map hexText)
  if n = 0 then text ps else text (ps.take i) ++ "::".toList ++ text (ps.drop (i + n))

end Address
end EdgeIncludes
