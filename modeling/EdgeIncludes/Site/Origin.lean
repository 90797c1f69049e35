import EdgeIncludes.Processor
import EdgeIncludes.Site.Folder

namespace EdgeIncludes
namespace Site

def defaultRoot : Text := "site".toList

def defaultPath : Text := "/index.html".toList

def agent : Text := "esi_file_demo".toList

def plain (status : Nat) (body : String) : Http.Response := { status, body := body.toList }

def respond (path : Text) (reading : Reading) : Outcome :=
  match reading with
  | .found t => .ok { headers := ⟨[("content-type".toList, "text/html".toList)]⟩, body := t }
  | .missing => .ok (plain 404 "not found")
  | .failed reason =>
    .error (.fetchFailed ("reading ".toList ++ path ++ ": ".toList ++ reason))

def outcome (root : Text) (read : Text → Reading) (r : Http.Request) : Outcome :=
  match resolve? root r.uri.path with
  | none => .ok (plain 400 "bad path")
  | some path => respond path (read path)

-- A page that includes itself without end is cut short.
def maxFetches : Nat := 1000000

def backend (root : Text) (read : Text → Reading) : Backend :=
  { answer := fun _ r => { outcome := outcome root read r }, limit := maxFetches }

def inbound (path : Text) : Except Fault Inbound := do
  let r ← (Http.Request.ofParts ("http://localhost".toList ++ path)
    [("user-agent".toList, agent)]).mapError .badRequest
  Inbound.ofRequest r

-- The body of the response to a request for a path.
def page (root : Text) (read : Text → Reading) (path : Text) : Traffic × Except Fault Text :=
  match inbound path with
  | .error f => ({}, .error f)
  | .ok i =>
    let (traffic, o) := Processor.handle ⟨{}, backend root read⟩ i
    (traffic, o.map (·.body))

-- The files that have been asked for.
def asked (root : Text) (traffic : Traffic) : List Text :=
  traffic.sent.filterMap fun r => resolve? root r.uri.path

-- What goes out, and the exit code.
def result (page : Except Fault Text) : Text × UInt32 :=
  match page with
  | .ok t => (t ++ ['\n'], 0)
  | .error _ => ([], 1)

end Site
end EdgeIncludes
