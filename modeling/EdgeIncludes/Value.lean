import EdgeIncludes.Dictionary
import EdgeIncludes.Number.Printer
import EdgeIncludes.Number.Reader
import EdgeIncludes.Text.Blank

namespace EdgeIncludes

inductive Value where
  | text (t : Text)
  | number (x : Number)
  | boolean (b : Bool)
  | list (items : List Text)
  | dictionary (d : Dictionary)
  | null
deriving DecidableEq

namespace Value

-- A zero is written without its sign.
def numberText (x : Number) : Text :=
  match x with
  | .finite _ 0 _ => ['0']
  | x => x.text

def entryText (e : Text × Text) : Text := '\'' :: e.1 ++ "':'".toList ++ e.2 ++ ['\'']

def dictionaryText (d : Dictionary) : Text :=
  '\x7b' :: Text.join [','] (d.entries.map entryText) ++ ['\x7d']

def toText : Value → Text
  | .text t => t
  | .number x => numberText x
  | .boolean b => if b then "true".toList else "false".toList
  | .list items => Text.join [','] items
  | .dictionary d => dictionaryText d
  | .null => []

-- A list is indexed by position from zero, a dictionary by key.
def index? (v : Value) (key : Text) : Option Text :=
  match v with
  | .list items => (Number.natural? (Text.trim key)).bind (items[·]?)
  | .dictionary d => d.get? key
  | _ => none

end Value
end EdgeIncludes
