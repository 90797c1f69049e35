import EdgeIncludes.Url.Address
import EdgeIncludes.Url.Domain

namespace EdgeIncludes

inductive Host where
  | domain (t : Text)
  | four (n : Nat)
  | eight (pieces : List Nat)
deriving DecidableEq, Repr

namespace Host

def toText : Host → Text
  | domain t => t
  | four n => Address.fourText n
  | eight ps => '[' :: Address.eightText ps ++ [']']

-- An address in brackets, if a bracket stands at the start.
def bracketed? (t : Text) : Option (Option Host) :=
  match t with
  | '[' :: r =>
    some (((Text.before? [']'] r).bind fun a => Address.eight? a).map eight)
  | _ => none

def ofDomain? (t : Text) : Option Host := do
  let d ← Domain.toAscii? (Text.Percent.decode t)
  if d = [] then none
  else if Address.endsInNumber d then (Address.four? d).map four
  else some (domain d)

def isForbidden (c : Char) : Bool := "\x00\t\n\r #/:<>?@[\\]^|".toList.contains c

def isControl (c : Char) : Bool := c.toNat < 0x20 || c.toNat = 0x7F

def ofOther? (t : Text) : Option Host :=
  if t.any isForbidden then none else some (domain (Text.Percent.encode isControl t))

def ofText? (special : Bool) (t : Text) : Option Host :=
  match bracketed? t with
  | some h => h
  | none => if special then ofDomain? t else ofOther? t

end Host
end EdgeIncludes
