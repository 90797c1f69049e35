import EdgeIncludes.Text.Utf8

namespace EdgeIncludes
namespace Http

def maxNameLength : Nat := 65535

def isNameChar (c : Char) : Bool :=
  c.toNat < 128 && (c.isAlphanum || "!#$%&'*+-.^_`|~".toList.contains c)

-- A valid name, in lower case.
def headerName? (t : Text) : Option Text :=
  if t = [] || maxNameLength < t.length || !t.all isNameChar then none
  else some (t.map Char.toLower)

-- Visible ASCII, space and tab.
def isVisible (c : Char) : Bool := c = '\t' || (0x20 ≤ c.toNat && c.toNat < 0x7F)

-- The bytes that a value may hold.
def isValueByte (c : Char) : Bool :=
  c = '\t' || (0x20 ≤ c.toNat && c.toNat ≠ 0x7F && c.toNat ≤ 0xFF)

-- The bytes of a text as a value, if it may hold them.
def headerValue? (t : Text) : Option Text :=
  let bytes := (Text.Utf8.encode t).map fun b => Char.ofNat b.toNat
  if bytes.all isValueByte then some bytes else none

-- Names in lower case. A value is a text of bytes, one character for each.
structure Headers where
  entries : List (Text × Text) := []
deriving DecidableEq

namespace Headers

-- The values of a name in their order.
def values (h : Headers) (name : Text) : List Text :=
  (h.entries.filter (·.1 = name.map Char.toLower)).map (·.2)

-- The values that can be read as text.
def texts (h : Headers) (name : Text) : List Text := (h.values name).filter (·.all isVisible)

-- The first value of a name, if it can be read as text.
def text? (h : Headers) (name : Text) : Option Text :=
  (h.values name).head?.filter (·.all isVisible)

def append (h : Headers) (name value : Text) : Headers := ⟨h.entries ++ [(name, value)]⟩

def remove (h : Headers) (name : Text) : Headers := ⟨h.entries.filter (·.1 ≠ name)⟩

-- Puts one value in the place of all values of the name.
def insert (h : Headers) (name value : Text) : Headers := (h.remove name).append name value

end Headers
end Http
end EdgeIncludes
