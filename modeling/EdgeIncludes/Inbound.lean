import EdgeIncludes.Fault
import EdgeIncludes.Http.Cookie
import EdgeIncludes.Url.Query
import EdgeIncludes.Url.Reader

namespace EdgeIncludes

structure Inbound where
  request : Http.Request
  url : Url
  -- Settings of the host by name.
  settings : Bindings Text := ⟨[]⟩
deriving DecidableEq

namespace Inbound

-- A path is completed by the host that the request names.
def absoluteText (r : Http.Request) : Except Fault Text :=
  let t := r.uri.toText
  if r.uri.scheme?.isSome then .ok t
  else
    match r.headers.text? "host".toList with
    | some host => .ok ("http://".toList ++ host ++ t)
    | none => .error (.badUrl t)

def ofRequest (r : Http.Request) : Except Fault Inbound := do
  let t ← absoluteText r
  match Url.ofText? t with
  | some url => pure { request := r, url }
  | none => throw (.badUrl t)

def withSetting (i : Inbound) (name value : Text) : Inbound :=
  { i with settings := i.settings.set name value }

def setting? (i : Inbound) (name : Text) : Option Text := i.settings.get? name

def header? (i : Inbound) (name : Text) : Option Text := i.request.headers.text? name

def cookies (i : Inbound) : List (Text × Text) := i.request.headers.cookies

-- The request for a fragment of the answer. The settings stay.
def forFragment (i : Inbound) (r : Http.Request) (url : Url) : Inbound :=
  { i with request := r, url }

end Inbound

-- Takes a segment of two small letters that a slash follows, or the end.
def letterPair? (t : Text) : Option (Text × Text) :=
  match t with
  | '/' :: a :: b :: r =>
    let small := fun c : Char => 'a' ≤ c && c ≤ 'z'
    if small a && small b && (r = [] || r.head? = some '/') then some ([a, b], r) else none
  | _ => none

-- The region and the language that a path starts with.
def locale? (path : Text) : Option (Text × Text) := do
  let (region, r) ← letterPair? path
  let (language, _) ← letterPair? r
  pure (region, language)

namespace Inbound

def countryCode : Text := "US".toList

def host (i : Inbound) : Text :=
  ((i.header? "host".toList).or i.url.hostText?).getD []

-- The variables of the request, in the order in which they are set.
def bindings (i : Inbound) : List (Text × Text) :=
  let header := fun name : String => (i.header? name.toList).getD []
  [("REQUEST_PATH".toList, i.url.pathOf), ("HTTP_HOST".toList, i.host),
    ("HTTP_USER_AGENT".toList, header "user-agent"),
    ("HTTP_ACCEPT_LANGUAGE".toList, header "accept-language"),
    ("QUERY_STRING".toList, i.url.query?.getD [])]
    ++ i.url.queryPairs.map (fun p => ("QUERY_STRING_".toList ++ p.1, p.2))
    ++ i.cookies.map (fun p => ("HTTP_COOKIE_".toList ++ p.1, p.2))
    ++ (match locale? i.url.pathOf with
      | some (region, language) => [("RU".toList, region), ("LC".toList, language)]
      | none => [])
    ++ [("GEO_country_code".toList, countryCode)]

def seed (i : Inbound) : Context :=
  Context.setAll {} (i.bindings.map fun p => (p.1, .text p.2))

end Inbound
end EdgeIncludes
