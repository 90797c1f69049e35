import EdgeIncludes.Text.Utf8

namespace EdgeIncludes
namespace Http

inductive UriFault where
  | invalidCharacter | invalidAuthority | invalidFormat | tooLong | empty | schemeTooLong
deriving DecidableEq, Repr

namespace UriFault

def message : UriFault → String
  | invalidCharacter => "invalid uri character"
  | invalidAuthority => "invalid authority"
  | invalidFormat => "invalid format"
  | tooLong => "uri too long"
  | empty => "empty string"
  | schemeTooLong => "scheme too long"

end UriFault

-- An absolute address has a path, which is at least `/`.
structure Uri where
  scheme? : Option Text
  authority : Text
  path : Text
  query? : Option Text
deriving DecidableEq

namespace Uri

def toText (u : Uri) : Text :=
  ((u.scheme?.map (· ++ "://".toList)).getD []) ++ u.authority ++ u.path ++
    ((u.query?.map ('?' :: ·)).getD [])

def maxLength : Nat := 65534

def maxSchemeLength : Nat := 64

def isSchemeChar (c : Char) : Bool :=
  c.toNat < 128 && (c.isAlphanum || c = '+' || c = '-' || c = '.' || c = '~')

-- The characters that an authority may hold, apart from `%`.
def isAuthorityChar (c : Char) : Bool :=
  c.toNat < 128 && (c.isAlphanum || "!$&'()*+,-.:;=@[]_~".toList.contains c)

def isPathChar (c : Char) : Bool :=
  let n := c.toNat
  n = 0x21 || n = 0x22 || (0x24 ≤ n && n ≤ 0x3B) || n = 0x3D || (0x40 ≤ n && n ≤ 0x5F) ||
    (0x61 ≤ n && n ≠ 0x7F)

def isQueryChar (c : Char) : Bool :=
  let n := c.toNat
  n = 0x21 || (0x24 ≤ n && n ≤ 0x3B) || n = 0x3D || (0x3F ≤ n && n ≠ 0x7F)

-- The scheme in front of `://`, and the rest. The two common ones are known in any case.
def takeScheme (t : Text) : Except UriFault (Option Text × Text) :=
  let known := fun s : String => (t.take s.length).map Char.toLower = s.toList
  if known "http://" then .ok (some "http".toList, t.drop 7)
  else if known "https://" then .ok (some "https".toList, t.drop 8)
  else
    let (s, r) := Text.spanBy isSchemeChar t
    match Text.after? "://".toList r with
    | none => .ok (none, t)
    | some r =>
      if t.length ≤ 3 then .ok (none, t)
      else if maxSchemeLength < s.length then .error .schemeTooLong
      else .ok (some s, r)

-- What has been seen of an authority. An `@` or a `]` forgets the colons and percent signs in front
-- of it, which were part of the user information or of an address in brackets.
structure AuthorityScan where
  colons : Nat := 0
  opened : Bool := false
  closed : Bool := false
  percent : Bool := false
deriving DecidableEq

def AuthorityScan.next (s : AuthorityScan) (c : Char) : Except UriFault AuthorityScan :=
  if c = '%' then .ok { s with percent := true }
  else if !isAuthorityChar c then .error .invalidCharacter
  else if c = ':' then
    if 8 ≤ s.colons then .error .invalidAuthority else .ok { s with colons := s.colons + 1 }
  else if c = '[' then
    if s.percent || s.opened then .error .invalidAuthority else .ok { s with opened := true }
  else if c = ']' then
    if !s.opened || s.closed then .error .invalidAuthority
    else .ok { s with closed := true, colons := 0, percent := false }
  else if c = '@' then .ok { s with colons := 0, percent := false }
  else .ok s

-- The authority at the start, up to the path, query or fragment, and the rest.
def takeAuthority (t : Text) : Except UriFault (Text × Text) := do
  let (a, r) := Text.spanBy (fun c => c ≠ '/' && c ≠ '?' && c ≠ '#') t
  let s ← a.foldlM AuthorityScan.next {}
  if s.opened != s.closed || 1 < s.colons || a.getLast? = some '@' || s.percent then
    .error .invalidAuthority
  else .ok (a, r)

-- A path and query, up to a fragment.
def takePath (t : Text) : Except UriFault (Text × Option Text) :=
  let (p, r) := Text.spanBy (fun c => c ≠ '?' && c ≠ '#') t
  if !p.all isPathChar then .error .invalidCharacter
  else
    match r with
    | '?' :: r =>
      let q := r.takeWhile (· ≠ '#')
      if q.all isQueryChar then .ok (p, some q) else .error .invalidCharacter
    | _ => .ok (p, none)

def withPath (scheme? : Option Text) (authority t : Text) : Except UriFault Uri := do
  let (p, q) ← takePath t
  pure ⟨scheme?, authority, if p = [] then ['/'] else p, q⟩

def wholeAuthority (t : Text) (fault : UriFault) : Except UriFault Uri := do
  let (a, r) ← takeAuthority t
  if r = [] then .ok ⟨none, a, [], none⟩ else .error fault

def ofText (t : Text) : Except UriFault Uri :=
  if maxLength < (Text.Utf8.encode t).length then .error .tooLong
  else
    match t with
    | [] => .error .empty
    | ['*'] => .ok ⟨none, [], ['*'], none⟩
    | '/' :: _ => withPath none [] t
    | [_] => wholeAuthority t .invalidAuthority
    | _ => do
      let (scheme?, r) ← takeScheme t
      match scheme? with
      | none => wholeAuthority r .invalidFormat
      | some s =>
        let (a, r) ← takeAuthority r
        if a = [] then .error .invalidFormat else withPath (some s) a r

end Uri
end Http
end EdgeIncludes
