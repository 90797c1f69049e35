import EdgeIncludes.Text.Decomposition
import EdgeIncludes.Text.Direction
import EdgeIncludes.Text.Joining

namespace EdgeIncludes
namespace Domain

open Text (Direction Joining)

def isMark (c : Char) : Bool := Text.Category.marks.contains (Text.Category.of .seventeen c)

-- Marks of this class take the vowel from the letter before.
def isVowelKiller (c : Char) : Bool := Text.combiningClass c = 9

-- How the next character that counts connects.
def metJoining? (t : Text) : Option Joining :=
  ((t.map Joining.of).dropWhile (· = .through)).head?

def reachesNext (t : Text) : Bool :=
  metJoining? t = some .both || metJoining? t = some .next

def reachesPrevious (t : Text) : Bool :=
  metJoining? t = some .both || metJoining? t = some .previous

-- Whether a joiner may stand between two texts, of which the first is turned around. Both joiners
-- change what a killed vowel looks like. The one that breaks connections needs one to break.
def allowsJoiner (c : Char) (before after : Text) : Bool :=
  before.head?.any isVowelKiller ||
    (c.toNat = 0x200C && reachesNext before && reachesPrevious after)

-- `before` holds the characters in front, the nearest first.
def joinersFit (before : Text) : Text → Bool
  | [] => true
  | c :: t =>
    ((c.toNat ≠ 0x200C && c.toNat ≠ 0x200D) || allowsJoiner c before t) &&
      joinersFit (c :: before) t

def isValidLabel (t : Text) : Bool := !t.head?.any isMark && joinersFit [] t

-- Whether a name has text that is written from right to left.
def isTwoWay (t : Text) : Bool :=
  t.any fun c => Direction.of c = .right || Direction.of c = .arabicNumber

-- The directions of a label. Marks at the end do not count.
def counted (t : Text) : List Direction :=
  ((t.map Direction.of).reverse.dropWhile (· = .nonspacing)).reverse

-- A label that starts from left to right has nothing in the other direction, and ends with a letter
-- or a number.
def fitsLeft (ds : List Direction) : Bool :=
  ds.all (fun d => d ≠ .right && d ≠ .arabicNumber) &&
    (ds.getLast? = some .left || ds.getLast? = some .europeanNumber)

-- In the other direction the numbers have to be of one kind.
def fitsRight (ds : List Direction) : Bool :=
  ds.all (· ≠ .left) && !(ds.contains .europeanNumber && ds.contains .arabicNumber) &&
    ds.getLast?.any fun d => d ≠ .neutral

def fitsDirection (t : Text) : Bool :=
  match counted t with
  | [] => t.isEmpty
  | .left :: ds => fitsLeft (.left :: ds)
  | .right :: ds => fitsRight (.right :: ds)
  | _ :: _ => false

end Domain
end EdgeIncludes
