import EdgeIncludes.Number.Reader
import EdgeIncludes.Url.Path

namespace EdgeIncludes
namespace Url

def isEdgeBlank (c : Char) : Bool := c.toNat ≤ 0x20

def isSkipped (c : Char) : Bool := c = '\t' || c = '\n' || c = '\r'

def clean (t : Text) : Text := (Text.trimBy isEdgeBlank t).filter (!isSkipped ·)

def isSchemeChar (c : Char) : Bool := c.isAlphanum || c = '+' || c = '-' || c = '.'

-- A scheme in lower case, and what follows its colon.
def scheme? (t : Text) : Option (Text × Text) :=
  match Text.spanBy isSchemeChar t with
  | (c :: s, ':' :: r) => if c.isAlpha then some ((c :: s).map Char.toLower, r) else none
  | _ => none

-- Adds the query and the fragment that stand at the start of a text.
def withTail (u : Url) (t : Text) : Url :=
  let (front, r) := Text.spanBy (· ≠ '#') t
  let query? := match front with
    | '?' :: q => some (Text.Percent.encode (inQuery (isSpecial u.scheme)) q)
    | _ => none
  let fragment? := match r with
    | '#' :: f => some (Text.Percent.encode inFragment f)
    | _ => none
  { u with query?, fragment? }

-- Cuts a text in front of its query or fragment.
def cutTail (t : Text) : Text × Text := Text.spanBy (fun c => c ≠ '?' && c ≠ '#') t

-- Replaces the fragment only.
def withFragment (u : Url) (t : Text) : Url := { u with fragment? := (withTail u t).fragment? }

-- The user information of an authority: a name and, behind a colon, a password.
def userinfo (t : Text) : Text :=
  let (name, r) := Text.spanBy (· ≠ ':') t
  let encode := Text.Percent.encode inUserinfo
  encode name ++
    match r with
    | ':' :: c :: password => ':' :: encode (c :: password)
    | _ => []

-- The text behind the last `@`, and what stands in front of it.
def splitUser (t : Text) : Option Text × Text :=
  let (host, user) := Text.spanBy (· ≠ '@') t.reverse
  match user with
  | '@' :: user => (some user.reverse, host.reverse)
  | _ => (none, t)

-- Cuts a host from its port, at the first colon outside brackets.
def hostEnd : Bool → Text → Text × Text
  | _, [] => ([], [])
  | inside, c :: t =>
    if c = ':' && !inside then ([], c :: t)
    else
      let (h, r) := hostEnd (if c = '[' then true else if c = ']' then false else inside) t
      (c :: h, r)

-- A port in decimal. None is given for the default port, and for an empty text.
def readPort? (scheme t : Text) : Option (Option Nat) :=
  if !t.all Char.isDigit then none
  else
    let n := Number.valueOf t
    if 65535 < n then none
    else some (if t = [] || defaultPort? scheme = some n then none else some n)

-- Reads the authority in front of a path. Only a scheme that is not special can do without a host,
-- and then without user information and port.
def readAuthority? (scheme t : Text) : Option (Authority × Text) := do
  let special := isSpecial scheme
  let (a, r) := Text.spanBy (fun c => !isSlash special c && c ≠ '?' && c ≠ '#') t
  let (user?, place) := splitUser a
  let (h, p) := hostEnd false place
  -- a backslash ends a port under every scheme
  let (p, r) := match Text.spanBy (· ≠ '\\') p with
    | (p, b) => (p, b ++ r)
  let user := (user?.map userinfo).getD []
  if user? = some [] && place = [] && r ≠ [] then none
  if h = [] then
    if special || p ≠ [] || user ≠ [] then none
    else pure (⟨[], none, none⟩, r)
  else
    let host ← Host.ofText? special h
    let port ← readPort? scheme (p.drop 1)
    pure (⟨user, some host, port⟩, r)

-- What follows `//`.
def behindSlashes? (scheme t : Text) : Option Url := do
  let (a, r) ← readAuthority? scheme t
  let (p, tail) := cutTail r
  pure (withTail ⟨scheme, some a, pathBehind scheme p, none, none⟩ tail)

-- What follows the host of a file. A path that starts with a drive is on no host.
def behindFileHost (host? : Option Host) (t : Text) : Url :=
  let (p, tail) := cutTail t
  let ss := segmentsOn fileScheme [] (if host?.isSome then p.drop 1 else p)
  let host? := if ss.head?.any isDrive then none else host?
  withTail ⟨fileScheme, some ⟨[], host?, none⟩, .segments (cleanFile ss), none, none⟩ tail

-- An address of a file. A host stands behind two slashes only, and `localhost` is none.
def ofFile? (base? : Option Url) (t : Text) : Option Url :=
  let plain := fun (host? : Option Host) (ss : List Text) (t : Text) =>
    let (p, tail) := cutTail t
    withTail ⟨fileScheme, some ⟨[], host?, none⟩, pathOn fileScheme ss p, none, none⟩ tail
  let baseHost? := base?.bind host?
  match t with
  | c :: d :: r =>
    if isSlash true c && isSlash true d then
      let (h, rest) := Text.spanBy (fun c => !isSlash true c && c ≠ '?' && c ≠ '#') r
      if isDrive h then some (plain none [] r)
      else
        let read : Option (Option Host) := if h = [] then some none else
          (Host.ofText? true h).map fun x =>
            if x = .domain "localhost".toList then none else some x
        read.map fun host? => behindFileHost host? rest
    else if isSlash true c then some (plain baseHost? [] (d :: r))
    else relativeFile base? plain t
  | t => relativeFile base? plain t
where
  -- A path that does not start with a slash goes on from that of the base.
  relativeFile (base? : Option Url) (plain : Option Host → List Text → Text → Url) (t : Text) :
      Option Url :=
    match base?, t with
    | none, t => some (plain none [] t)
    | some b, [] => some { b with fragment? := none }
    | some b, '?' :: r => some (withTail { b with query? := none } ('?' :: r))
    | some b, '#' :: r => some (withFragment b ('#' :: r))
    | some b, '/' :: r => some (plain b.host? [] r)
    | some b, t => some (plain b.host? (shorten (segmentsOf b.path)) t)

-- An address relative to one with segments.
def relative? (b : Url) (t : Text) : Option Url :=
  let goOn := fun (ss : List Text) (t : Text) =>
    let (p, tail) := cutTail t
    withTail { b with path := pathOn b.scheme ss p } tail
  match t with
  | [] => some { b with fragment? := none }
  | '?' :: _ => some (withTail b t)
  | '#' :: _ => some (withFragment b t)
  | c :: r =>
    if isSlash true c then
      let slashes := t.takeWhile (isSlash true)
      if 2 ≤ slashes.length then
        behindSlashes? b.scheme
          (if Text.startsWith "//".toList t then t.drop 2 else t.drop slashes.length)
      else some (goOn [] r)
    else some (goOn (segmentsOf b.path).dropLast t)

-- What follows the colon of a scheme.
def behindScheme? (base? : Option Url) (scheme t : Text) : Option Url :=
  if scheme = fileScheme then ofFile? (base?.filter (·.scheme = fileScheme)) t
  else if isSpecial scheme then
    let slashes := t.takeWhile (isSlash true)
    match base? with
    | some b =>
      if slashes.length < 2 && b.scheme = scheme then relative? b t
      else behindSlashes? scheme (t.drop slashes.length)
    | none => behindSlashes? scheme (t.drop slashes.length)
  else
    match t with
    | '/' :: '/' :: r => behindSlashes? scheme r
    | '/' :: r =>
      let (p, tail) := cutTail r
      some (withTail ⟨scheme, none, pathOn scheme [] p, none, none⟩ tail)
    | t =>
      let (p, tail) := cutTail t
      some (withTail ⟨scheme, none, .rootless (Text.Percent.encode isControl p), none, none⟩ tail)

-- Reads an address that can be relative to a base.
def read? (base? : Option Url) (t : Text) : Option Url :=
  let t := clean t
  match scheme? t, base? with
  | some (scheme, r), base? => behindScheme? base? scheme r
  | none, none => none
  | none, some b =>
    if t.head? = some '#' then some (withFragment b t)
    else
      match b.path with
      | .rootless _ => none
      | .segments _ => if b.scheme = fileScheme then ofFile? (some b) t else relative? b t

def ofText? (t : Text) : Option Url := read? none t

def join? (base : Url) (t : Text) : Option Url := read? (some base) t

end Url
end EdgeIncludes
