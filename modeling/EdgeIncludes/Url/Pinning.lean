import EdgeIncludes.Url.Reader

namespace EdgeIncludes
namespace Url

def mapAuthority (u : Url) (f : Authority → Authority) : Url :=
  { u with authority? := u.authority?.map f }

-- A port can stand behind a host only. The default port is not written.
def setPort? (u : Url) (port? : Option Nat) : Option Url :=
  if u.host?.isNone || u.scheme = fileScheme then none
  else
    let port? := port?.filter fun p => defaultPort? u.scheme ≠ some p
    some (u.mapAuthority fun a => { a with port? })

-- A special scheme takes the place of a special one only.
def setScheme? (u : Url) (scheme : Text) : Option Url :=
  if isSpecial scheme != isSpecial u.scheme then none
  else if scheme = fileScheme && u.authority?.isSome then none
  else if isSpecial scheme && u.host?.isNone then none
  else
    let u := { u with scheme := scheme }
    some ((u.setPort? u.port?).getD u)

-- What follows a colon is dropped, except in an address in brackets.
def hostPart? (t : Text) : Option Text :=
  if t.head? = some '[' && t.getLast? = some ']' then some t
  else
    match Text.cut? [':'] t with
    | none => some t
    | some (h, _) => if h = [] then none else some h

def setHost? (u : Url) (t : Text) : Option Url := do
  let special := isSpecial u.scheme
  match u.path with
  | .rootless _ => none
  | .segments _ => pure ()
  if t = [] && special && u.scheme ≠ fileScheme then none
  let h ← hostPart? t
  let host ← Host.ofText? special h
  let a := u.authority?.getD ⟨[], none, none⟩
  let host? := if host = .domain [] then none else some host
  pure { u with authority? := some { a with host? } }

end Url
end EdgeIncludes
