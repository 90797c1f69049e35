import EdgeIncludes.Url.Basic
import EdgeIncludes.Url.Encoding

namespace EdgeIncludes
namespace Url

def isSlash (special : Bool) (c : Char) : Bool := c = '/' || (special && c = '\\')

-- A dot may be written in percent encoding.
def plainDots (t : Text) : Text :=
  Text.replaceAll "%2e".toList ['.'] (Text.replaceAll "%2E".toList ['.'] t)

def isDot (t : Text) : Bool := plainDots t = ['.']

def isDoubleDot (t : Text) : Bool := plainDots t = ['.', '.']

-- A letter of a drive, with a colon or with a bar in its place.
def isDrive (t : Text) : Bool :=
  match t with
  | [c, d] => c.isAlpha && (d = ':' || d = '|')
  | _ => false

-- A backslash ends a drive, also where it does not end a segment.
def startsWithDrive (t : Text) : Bool := isDrive (t.takeWhile (· ≠ '\\'))

-- Takes the last segment away. A drive stays, under every scheme.
def shorten (ss : List Text) : List Text :=
  if ss.getLast?.any startsWithDrive then ss else ss.dropLast

-- Puts a segment on the stack. The last one leaves an empty segment when it is made of dots.
def pushSegment (file : Bool) (ss : List Text) (t : Text) (last : Bool) : List Text :=
  if isDoubleDot t then shorten ss ++ (if last then [[]] else [])
  else if isDot t then ss ++ (if last then [[]] else [])
  else if file && ss = [] && isDrive t then ss ++ [t.take 1 ++ [':']]
  else ss ++ [Text.Percent.encode inPath t]

def pushSegments (file : Bool) (ss : List Text) : List Text → List Text
  | [] => ss
  | [t] => pushSegment file ss t true
  | t :: ts => pushSegments file (pushSegment file ss t false) ts

-- The pieces between slashes.
def pieces (special : Bool) (t : Text) : List Text :=
  Text.splitOn ['/'] (if special then t.map fun c => if c = '\\' then '/' else c else t)

-- The path of a file has no empty segments in front.
def cleanFile (ss : List Text) : List Text :=
  match ss.dropWhile (· = []) with
  | [] => [[]]
  | ss => ss

-- Reads a path on top of the segments that it is relative to.
def segmentsOn (scheme : Text) (ss : List Text) (t : Text) : List Text :=
  pushSegments (scheme = fileScheme) ss (pieces (isSpecial scheme) t)

def pathOn (scheme : Text) (ss : List Text) (t : Text) : UrlPath :=
  let ss := segmentsOn scheme ss t
  .segments (if scheme = fileScheme then cleanFile ss else ss)

-- A path behind an authority. Under a scheme that is not special it can be empty.
def pathBehind (scheme t : Text) : UrlPath :=
  match t with
  | [] => if isSpecial scheme then .segments [[]] else .segments []
  | c :: r => pathOn scheme [] (if isSlash (isSpecial scheme) c then r else c :: r)

-- The segments of a path, of which a rootless one has none.
def segmentsOf : UrlPath → List Text
  | .segments ss => ss
  | .rootless _ => []

end Url
end EdgeIncludes
