import EdgeIncludes.Inbound
import EdgeIncludes.Url.Pinning

namespace EdgeIncludes
namespace Fragment

-- A text that is not well formed is taken as written.
def unescape (escaped : Bool) (src : Text) : Text :=
  if escaped then (Text.Escape.unescape? src).getD src else src

def queryMark : Text := '$' :: "(QUERY_STRING\x7b'".toList

def queryEnd : Text := '\'' :: "\x7d)".toList

-- Replaces references to query parameters by a value for each key. A key lies on one line.
def substituteQuery (value : Text → Text) (t : Text) : Text :=
  match _h : Text.cut? queryMark t with
  | none => t
  | some (a, r) =>
    match _hc : Text.cut? queryEnd r with
    | some (key, rest) =>
      if '\n' ∈ key then a ++ queryMark ++ substituteQuery value r
      else a ++ value key ++ substituteQuery value rest
    | none => t
termination_by t.length
decreasing_by
  all_goals
    have h1 := Text.length_cut?_lt (List.cons_ne_nil _ _) _h
    have h2 := Text.length_cut?_lt (List.cons_ne_nil _ _) _hc
    omega

-- One kind of reference is replaced after the other.
def substituteInbound (inbound : Url) (src : Text) : Text :=
  let (region, language) := (locale? inbound.pathOf).getD ([], [])
  let src := Text.replaceAll "$(REQUEST_PATH)".toList inbound.pathOf src
  let src := substituteQuery (fun key => (inbound.queryValue? key).getD []) src
  let src := Text.replaceAll "$(RU)".toList region src
  Text.replaceAll "$(LC)".toList language src

-- The host of fragments is the one of the settings, else that of the inbound address.
def resolve? (inbound : Url) (host? : Option Text) (src : Text) : Option Url := do
  let u ← inbound.join? src
  let u ← u.setScheme? inbound.scheme
  let u ← u.setPort? inbound.port?
  let host ← host?.or inbound.hostText?
  u.setHost? host

def resolve (inbound : Url) (host? : Option Text) (src : Text) : Except Fault Url :=
  match resolve? inbound host? src with
  | some u => .ok u
  | none => .error (.badUrl src)

end Fragment
end EdgeIncludes
