import EdgeIncludes.Config
import EdgeIncludes.Fragment.Source
import EdgeIncludes.Render.Standard

namespace EdgeIncludes

-- A fragment to be fetched.
structure Fragment where
  url : Url
  request : Http.Request
deriving DecidableEq

namespace Fragment

-- The headers of every fragment request.
def marks (c : Config) (u : Url) : List (Text × Text) := [
  (c.fragmentHeader, "true".toList), (c.loopHeader, c.loopToken),
  ("host".toList, u.hostText?.getD [])]

def baseRequest (c : Config) (u : Url) : Except Http.MessageFault Http.Request := do
  let uri ← (Http.Uri.ofText u.toText).mapError .uri
  pure ⟨uri, ← (marks c u).foldlM Http.appendText {}⟩

-- A further header takes the place of one with its name. An invalid one is reported and left out.
def addHeader (h : Http.Headers) (field : Text × Text) : Http.Headers × Log :=
  let name := Text.trim field.1
  match Http.headerName? name, Http.headerValue? (Text.trim field.2) with
  | some n, some v => (h.insert n v, [])
  | _, _ => (h, [.badHeader name])

def addHeaders (h : Http.Headers) : List (Text × Text) → Http.Headers × Log
  | [] => (h, [])
  | f :: fs =>
    let (h, log) := addHeader h f
    let (h, more) := addHeaders h fs
    (h, log ++ more)

-- The pairs `name=value` between commas. A piece without `=` is no pair.
def headerPairs (t : Text) : List (Text × Text) :=
  (Text.splitOn [','] t).filterMap (Text.cut? ['='])

def build (c : Config) (extra? : Option Text) (u : Url) : Except Fault (Http.Request × Log) :=
  match baseRequest c u with
  | .error f => .error (.badRequest f)
  | .ok r =>
    let (h, log) := addHeaders r.headers (headerPairs (extra?.getD []))
    .ok ({ r with headers := h }, log)

-- The host that fragments are fetched from without being processed.
def directHost? (c : Config) (i : Inbound) : Option Text := i.setting? c.hostVariable

def ofSource (c : Config) (i : Inbound) (src : Text) : Except Fault (Fragment × Log) := do
  let src := substituteInbound i.url (unescape c.escaped src)
  let url ← resolve i.url (directHost? c i) src
  let (r, log) ← build c (i.setting? c.headersVariable) url
  pure (⟨url, r⟩, log)

def includeName : Text := "include".toList

-- Asks for the fragment, and leaves the element for its text.
def directive (c : Config) (i : Inbound) : Directive Fragment := fun t taken ctx =>
  match (t.require "src".toList).bind (ofSource c i) with
  | .error f => .fail ctx f
  | .ok (fragment, log) => ⟨ctx, .ok ⟨.keep, taken⟩, log, [fragment]⟩

def directives (c : Config) (i : Inbound) : Directives Fragment :=
  Standard.directives.on includeName (directive c i)

end Fragment

-- Renders the answer to a request, and collects the fragments to fetch for its placeholders.
def scan (c : Config) (i : Inbound) (document : Text) : Output Fragment :=
  (renderDocument (Fragment.directives c i) c.tagNamespace ⟨i.seed, 0⟩ document).1

end EdgeIncludes
