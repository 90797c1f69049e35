import EdgeIncludes.Context
import EdgeIncludes.Text.Case
import EdgeIncludes.Text.Escape

namespace EdgeIncludes

inductive Builtin where
  | htmlEncode | lower | replace | setRedirect | setResponseCode | addHeader
  | addCachebustingHeader | cookiePart
deriving DecidableEq, Repr

namespace Builtin

def name : Builtin → String
  | htmlEncode => "html_encode"
  | lower => "lower"
  | replace => "replace"
  | setRedirect => "set_redirect"
  | setResponseCode => "set_response_code"
  | addHeader => "add_header"
  | addCachebustingHeader => "add_cachebusting_header"
  | cookiePart => "getCountryLanguageFromCookie"

def all : List Builtin := [
  htmlEncode, lower, replace, setRedirect, setResponseCode, addHeader, addCachebustingHeader,
  cookiePart]

def ofName? (t : Text) : Option Builtin := all.find? (·.name.toList = t)

end Builtin

inductive CallFault where
  | argumentCount (f : Builtin)
  | needle (f : Builtin)
  | type (f : Builtin)
  | position (f : Builtin)
deriving DecidableEq, Repr

namespace CallFault

def message : CallFault → String
  | argumentCount f => "wrong number of arguments to '" ++ f.name ++ "'"
  | needle f => "incorrect needle passed to '" ++ f.name ++ "'"
  | type f => "incorrect type passed to '" ++ f.name ++ "'"
  | position f => "incorrect position passed to '" ++ f.name ++ "'"

end CallFault

-- What a call asks for on the response.
inductive Effect where
  | redirect (location : Text)
  | responseCode (code : Number)
  | header (name value : Text)
  | cachebusting
deriving DecidableEq

abbrev CallResult := Except CallFault (Value × Option Effect)

namespace Builtin

-- Replaces every place of the needle, or as many as the count says.
def applyReplace (haystack needle replacement : Value) (count? : Option Value) : CallResult :=
  match needle, count? with
  | .text p, none =>
    .ok (.text (Text.replaceAll p replacement.toText haystack.toText), none)
  | .text p, some (.number x) =>
    match x.count? with
    | some n => .ok (.text (Text.replaceFirst p replacement.toText n haystack.toText), none)
    | none => .error (.type replace)
  | .text _, some _ => .error (.type replace)
  | _, _ => .error (.needle replace)

-- A position is a number that is not below zero, or the text of one.
def position? (v : Value) : Option Nat :=
  let ofText := Number.natural? (Text.trim v.toText)
  match v with
  | .number x => x.count?.or ofText
  | _ => ofText

-- The part of a value between hyphens at a position, or nothing.
def applyCookiePart (value position : Value) : CallResult :=
  match position? position with
  | some n => .ok (.text (((Text.splitOn ['-'] value.toText)[n]?).getD []), none)
  | none => .error (.position cookiePart)

def apply (f : Builtin) (args : List Value) : CallResult :=
  match f, args with
  | htmlEncode, [v] => .ok (.text (Text.Escape.html v.toText), none)
  | lower, [v] => .ok (.text (Text.lower v.toText), none)
  | replace, [h, n, r] => applyReplace h n r none
  | replace, [h, n, r, c] => applyReplace h n r (some c)
  | setRedirect, v :: _ => .ok (.null, some (.redirect v.toText))
  | setResponseCode, .number x :: _ => .ok (.null, some (.responseCode x))
  | setResponseCode, _ => .error (.type setResponseCode)
  | addHeader, [n, v] => .ok (.null, some (.header n.toText v.toText))
  | addCachebustingHeader, _ => .ok (.null, some .cachebusting)
  | cookiePart, v :: p :: _ => applyCookiePart v p
  | f, _ => .error (.argumentCount f)

end Builtin
end EdgeIncludes
