import EdgeIncludes.Nesting
import EdgeIncludes.Value

namespace EdgeIncludes
namespace Literal

-- A text in three quotes, else in one. It ends at the first quotation mark of its kind.
def quoted? (t : Text) : Option (Text × Text) :=
  let delimited := fun q => (Text.after? q t).bind (Text.cut? q)
  (delimited "'''".toList).or (delimited ['\''])

-- A bare word runs to a comma or to the closing bracket, and is trimmed.
def word? (close : Char) (t : Text) : Option (Text × Text) :=
  match Text.spanBy (fun c => c ≠ ',' && c ≠ close) t with
  | ([], _) => none
  | (w, r) => some (Text.trim w, r)

def item? (close : Char) (t : Text) : Option (Text × Text) := (quoted? t).or (word? close t)

-- A mark with gaps around it.
def mark? (c : Char) (t : Text) : Option Text :=
  (Text.after? [c] (Text.skipGap t)).map Text.skipGap

-- An entry of a dictionary: a quoted key, a colon, and an item.
def entry? (t : Text) : Option ((Text × Text) × Text) := do
  let (key, r) ← quoted? t
  let r ← mark? ':' r
  let (value, r) ← item? '\x7d' r
  pure ((key, value), r)

-- The items that follow commas. A comma without an item behind it is left unread.
def moreItems {α : Type} (read : Text → Option (α × Text)) (t : Text) : List α × Text :=
  match (mark? ',' t).bind read with
  | none => ([], t)
  | some (a, r) =>
    if r.length < t.length then
      let (as, r) := moreItems read r
      (a :: as, r)
    else ([], t)
termination_by t.length

def items {α : Type} (read : Text → Option (α × Text)) (t : Text) : List α × Text :=
  match read t with
  | none => ([], t)
  | some (a, r) =>
    let (as, r) := moreItems read r
    (a :: as, r)

-- Items between brackets.
def bracketed? {α : Type} (opening close : Char) (read : Text → Option (α × Text)) (t : Text) :
    Option (List α × Text) := do
  let r ← Text.after? [opening] t
  let (as, r) := items read (Text.skipGap r)
  let r ← Text.after? [close] (Text.skipGap r)
  pure (as, r)

def list? (t : Text) : Option (List Text × Text) := bracketed? '[' ']' (item? ']') t

def entries? (t : Text) : Option (List (Text × Text) × Text) :=
  bracketed? '\x7b' '\x7d' entry? t

-- What a reader read, when nothing is left over.
def whole? {α : Type} (o : Option (α × Text)) : Option α :=
  o.bind fun p => if p.2 = [] then some p.1 else none

-- A decimal in digits, signs, point and exponent mark, with blanks around it.
def number? (t : Text) : Option Number :=
  let t := Text.trim t
  let written := fun c : Char =>
    c.isDigit || c = '.' || c = '-' || c = '+' || c = 'e' || c = 'E'
  if t.all written then (Number.ofText? t).filter Number.isFinite else none

-- A quoted text, a truth value or a number.
def simple? (t : Text) : Option Value :=
  match unquote? t with
  | some inner => some (.text inner)
  | none =>
    if t = "true".toList then some (.boolean true)
    else if t = "false".toList then some (.boolean false)
    else (number? t).map .number

end Literal
end EdgeIncludes
