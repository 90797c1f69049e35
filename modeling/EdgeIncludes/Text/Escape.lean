import EdgeIncludes.Text.Percent

namespace EdgeIncludes
namespace Text.Escape

def htmlChar (c : Char) : Text :=
  if c = '&' then "&amp;".toList
  else if c = '<' then "&lt;".toList
  else if c = '>' then "&gt;".toList
  else if c = '"' then "&quot;".toList
  else if c = '\'' then "&#x27;".toList
  else [c]

def html (t : Text) : Text := t.flatMap htmlChar

-- The value of a number in base ten or sixteen, of 32 bits at most.
def number? (base : Nat) (t : Text) : Option Nat :=
  if t.isEmpty then none
  else do
    let ds ← t.mapM fun c => (Percent.hexValue? c).filter (· < base)
    let n := ds.foldl (fun n d => n * base + d) 0
    if n ≤ 0xFFFFFFFF then some n else none

-- The character with a number, other than NUL.
def ofCode? (n : Nat) : Option Char :=
  if n = 0 then none else if n.isValidChar then some (Char.ofNat n) else none

-- What a reference stands for: `#65`, `#x41`, or one of the five names.
def entity? (name : Text) : Option Char :=
  match name with
  | '#' :: 'x' :: ds => (number? 16 ds).bind ofCode?
  | '#' :: ds => (number? 10 ds).bind ofCode?
  | _ =>
    if name = "lt".toList then some '<'
    else if name = "gt".toList then some '>'
    else if name = "amp".toList then some '&'
    else if name = "apos".toList then some '\''
    else if name = "quot".toList then some '"'
    else none

-- The two states are outside a reference, and inside one that has begun with the characters
-- of `name`, in reverse. A reference has no `&` inside.
def read? : Option Text → Text → Option Text
  | none, [] => some []
  | some _, [] => none
  | none, c :: t => if c = '&' then read? (some []) t else (read? none t).map (c :: ·)
  | some name, c :: t =>
    if c = '&' then none
    else if c = ';' then do
      let x ← entity? name.reverse
      (read? none t).map (x :: ·)
    else read? (some (c :: name)) t

def unescape? (t : Text) : Option Text := read? none t

end Text.Escape
end EdgeIncludes
