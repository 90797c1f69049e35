import EdgeIncludes.Site.Path
import EdgeIncludes.Text.Utf8

namespace EdgeIncludes
namespace Site

-- What an attempt to read a file gives.
inductive Reading where
  | found (t : Text)
  | missing
  | failed (reason : Text)
deriving DecidableEq

-- Files by the names that lead to them. A folder is there when a file lies in it.
structure Folder where
  files : List (List Text × Text) := []

namespace Folder

def isName (piece : Text) : Bool := piece ≠ [] && piece ≠ here

def add (f : Folder) (path text : Text) : Folder :=
  ⟨((pieces path).filter isName, text) :: f.files⟩

def ofList (files : List (Text × Text)) : Folder := files.foldl (fun f p => f.add p.1 p.2) {}

inductive Place where
  | file (t : Text)
  | folder
  | nothing

def isOutside (names : List Text) : Bool := names.all (· = parent)

def place (f : Folder) (names : List Text) : Place :=
  match f.files.find? (·.1 = names) with
  | some file => .file file.2
  | none =>
    if isOutside names || f.files.any (names.isPrefixOf ·.1) then .folder else .nothing

def up (names : List Text) : List Text :=
  if isOutside names then names ++ [parent] else names.dropLast

-- The number of bytes that a name can have.
def maxName : Nat := 255

def notAFolder : Text := "Not a directory (os error 20)".toList

def isAFolder : Text := "Is a directory (os error 21)".toList

def tooLong : Text := "File name too long (os error 36)".toList

-- Follows the pieces of a path. Each needs a folder to start from.
def follow (f : Folder) (names : List Text) : List Text → Reading
  | [] =>
    match f.place names with
    | .file t => .found t
    | .folder => .failed isAFolder
    | .nothing => .missing
  | p :: ps =>
    match f.place names with
    | .file _ => .failed notAFolder
    | .nothing => .missing
    | .folder =>
      if !isName p then follow f names ps
      else if p = parent then follow f (up names) ps
      else if maxName < (Text.Utf8.encode p).length then .failed tooLong
      else follow f (names ++ [p]) ps

-- The number of bytes that a path can have.
def maxPath : Nat := 4095

-- The empty path leads nowhere, and one with a slash in front starts outside.
def read (f : Folder) (path : Text) : Reading :=
  if path = [] then .missing
  else if maxPath < (Text.Utf8.encode path).length then .failed tooLong
  else follow f (if path.head? = some '/' then [parent] else []) (pieces path)

end Folder
end Site
end EdgeIncludes
