import EdgeIncludes.Http.Header
import EdgeIncludes.Http.Uri

namespace EdgeIncludes
namespace Http

-- Why a request or response cannot be built from its parts.
inductive MessageFault where
  | uri (f : UriFault)
  | headerName
  | headerValue
  | status
deriving DecidableEq, Repr

def MessageFault.message : MessageFault → String
  | uri f => f.message
  | headerName => "invalid HTTP header name"
  | headerValue => "failed to parse header value"
  | status => "invalid status code"

structure Request where
  uri : Uri
  headers : Headers := {}
deriving DecidableEq

structure Response where
  status : Nat := 200
  headers : Headers := {}
  body : Text := []
deriving DecidableEq

-- Adds one field with a value of bytes. The name is looked at first.
def appendField (h : Headers) (field : Text × Text) : Except MessageFault Headers :=
  match headerName? field.1 with
  | none => .error .headerName
  | some name =>
    if field.2.all isValueByte then .ok (h.append name field.2) else .error .headerValue

-- Adds one field with a text for its value.
def appendText (h : Headers) (field : Text × Text) : Except MessageFault Headers :=
  match headerName? field.1, headerValue? field.2 with
  | none, _ => .error .headerName
  | some _, none => .error .headerValue
  | some name, some value => .ok (h.append name value)

def headersOf (fields : List (Text × Text)) : Except MessageFault Headers :=
  fields.foldlM appendField {}

def Request.ofParts (uri : Text) (fields : List (Text × Text)) : Except MessageFault Request := do
  let uri ← (Uri.ofText uri).mapError .uri
  pure ⟨uri, ← headersOf fields⟩

def Response.ofParts (status : Nat) (fields : List (Text × Text)) (body : Text) :
    Except MessageFault Response := do
  if status < 100 || 999 < status then throw .status
  pure ⟨status, ← headersOf fields, body⟩

def okStatus : Nat := 200

def noContent : Nat := 204

end Http
end EdgeIncludes
