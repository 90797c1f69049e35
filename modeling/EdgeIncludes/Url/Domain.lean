import EdgeIncludes.Text.Utf8
import EdgeIncludes.Url.Domain.Label
import EdgeIncludes.Url.Domain.Mapping
import EdgeIncludes.Url.Punycode

namespace EdgeIncludes
namespace Domain

-- Characters that no domain may hold.
def isForbidden (c : Char) : Bool :=
  c.toNat ≤ 0x20 || c.toNat = 0x7F || "%#/:<>?@[\\]^|".toList.contains c

def isAscii (t : Text) : Bool := t.all (·.toNat < 0x80)

def codeMark : Text := "xn--".toList

-- The longest label that is put into Punycode, and the longest one that is read from it.
def maxEncoded : Nat := 1000

def maxDecoded : Nat := 2000

-- A label as it is written and as it is meant.
structure Label where
  written : Text
  meant : Text
deriving DecidableEq, Repr

-- A label that claims to be in Punycode has to decode to one that is written so.
def decodeLabel? (code : Text) : Option Text := do
  let t ← if isAscii code && code.length ≤ maxDecoded then Punycode.decode? code else none
  if isAscii t || Text.startsWith codeMark t || mapText? t ≠ some t then none else some t

def encodeLabel? (t : Text) : Option Text :=
  if isAscii t then some t
  else if t.length ≤ maxEncoded then some (codeMark ++ Punycode.encode t)
  else none

def label? (t : Text) : Option Label := do
  let l ←
    match Text.after? codeMark t with
    | some code => (decodeLabel? code).map fun u => Label.mk t u
    | none => (encodeLabel? t).map fun w => Label.mk w t
  if isValidLabel l.meant then some l else none

def ofMapped? (t : Text) : Option Text := do
  let ls ← (Text.splitOn ['.'] t).mapM label?
  if ls.any (isTwoWay ·.meant) && !ls.all (fitsDirection ·.meant) then none
  else some (Text.join ['.'] (ls.map (·.written)))

def toAscii? (bytes : List UInt8) : Option Text := do
  let t ← (Text.Utf8.decode? bytes).bind mapText?
  if t.any isForbidden then none else ofMapped? t

end Domain
end EdgeIncludes
