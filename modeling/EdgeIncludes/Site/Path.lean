import EdgeIncludes.Text.Basic

namespace EdgeIncludes
namespace Site

def parent : Text := ['.', '.']

def here : Text := ['.']

def pieces (path : Text) : List Text := Text.splitOn ['/'] path

def isAbsolute (path : Text) : Bool := path.head? = some '/'

inductive Component where
  | root
  | here
  | parent
  | name (t : Text)
deriving DecidableEq, Repr

namespace Component

def isName : Component → Bool
  | name _ => true
  | _ => false

-- Empty pieces and single dots are passed over.
def ofPiece? (piece : Text) : Option Component :=
  if piece = [] || piece = Site.here then none
  else if piece = Site.parent then some parent
  else some (name piece)

end Component

-- A single dot counts only in front, and only if the path does not start from the root.
def start (path : Text) : List Component :=
  if isAbsolute path then [.root]
  else if (pieces path).head? = some here then [.here]
  else []

def steps (path : Text) : List Component := (pieces path).filterMap Component.ofPiece?

def components (path : Text) : List Component := start path ++ steps path

-- An absolute path takes the place of the one that it is put behind.
def join (base path : Text) : Text :=
  if isAbsolute path then path
  else if base = [] || base.getLast? = some '/' then base ++ path
  else base ++ '/' :: path

def relative (path : Text) : Text := path.dropWhile (· = '/')

-- The file that a request for a path asks for.
def resolve? (root path : Text) : Option Text :=
  let path := relative path
  if (components path).all Component.isName then some (join root path) else none

end Site
end EdgeIncludes
