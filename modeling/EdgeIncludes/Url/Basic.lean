import EdgeIncludes.Url.Host

namespace EdgeIncludes

-- Who is asked, behind `//`. A scheme that is not special, and `file`, can do without a host.
structure Authority where
  userinfo : Text := []
  host? : Option Host
  port? : Option Nat := none
deriving DecidableEq

-- A path of segments, each behind a `/`, or a text that no other address can be relative to.
inductive UrlPath where
  | segments (ss : List Text)
  | rootless (t : Text)
deriving DecidableEq

structure Url where
  scheme : Text
  authority? : Option Authority
  path : UrlPath
  query? : Option Text := none
  fragment? : Option Text := none
deriving DecidableEq

namespace Url

def fileScheme : Text := "file".toList

-- The special schemes, with the ports that need not be written.
def specialSchemes : List (Text × Option Nat) := [
  ("http".toList, some 80), ("https".toList, some 443), ("ws".toList, some 80),
  ("wss".toList, some 443), ("ftp".toList, some 21), (fileScheme, none)]

def isSpecial (scheme : Text) : Bool := specialSchemes.any (·.1 = scheme)

def defaultPort? (scheme : Text) : Option Nat :=
  (specialSchemes.find? (·.1 = scheme)).bind (·.2)

def pathText : UrlPath → Text
  | .segments ss => ss.flatMap ('/' :: ·)
  | .rootless t => t

def host? (u : Url) : Option Host := u.authority?.bind (·.host?)

def port? (u : Url) : Option Nat := u.authority?.bind (·.port?)

-- The host as text, if there is one.
def hostText? (u : Url) : Option Text := u.host?.map Host.toText

def Authority.toText (a : Authority) : Text :=
  "//".toList ++ (if a.userinfo = [] then [] else a.userinfo ++ ['@']) ++
    (a.host?.map Host.toText).getD [] ++ (a.port?.map fun p => ':' :: Number.digits p).getD []

-- Without an authority a path that starts with an empty segment is kept from looking like one.
def guard (u : Url) : Text :=
  match u.authority?, u.path with
  | none, .segments ([] :: _ :: _) => "/.".toList
  | _, _ => []

def pathOf (u : Url) : Text := pathText u.path

def toText (u : Url) : Text :=
  u.scheme ++ ':' :: (u.authority?.map Authority.toText).getD [] ++ u.guard ++ u.pathOf ++
    (u.query?.map ('?' :: ·)).getD [] ++ (u.fragment?.map ('#' :: ·)).getD []

end Url
end EdgeIncludes
