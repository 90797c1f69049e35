import EdgeIncludes.Pattern.Reader
import EdgeIncludes.Reference

namespace EdgeIncludes

-- A reference that stands at the start of a text, and the rest. It is not empty.
def reference? (t : Text) : Option (Text × Text) :=
  ((Text.after? opener t).bind closing?).filter fun p => p.1 ≠ []

inductive Condition where
  | isSet (name : Text) (negated : Bool)
  | equals (name value : Text)
  | fits (name pattern : Text)
  | call (function arguments : Text)
  | unrecognized
deriving DecidableEq

namespace Condition

-- `$exists($(name))`. What follows is ignored.
def isSet? (t : Text) : Option Text := do
  let r ← Text.after? "$exists(".toList t
  let (name, r) ← reference? (Text.skipGap r)
  let _ ← Text.after? [')'] (Text.skipGap r)
  pure name

-- The right side of a comparison, quoted or bare.
def operand (t : Text) : Text :=
  let t := Text.trim t
  (unquote? t).getD t

-- `$(name) == value`.
def equals? (t : Text) : Option (Text × Text) := do
  let (name, r) ← reference? t
  let r ← Text.after? "==".toList (Text.skipGap r)
  pure (name, operand (Text.skipGap r))

-- `$(name) matches pattern`, with gaps around the word.
def fits? (t : Text) : Option (Text × Text) := do
  let (name, r) ← reference? t
  let r ← Text.skipGap? r
  let r ← Text.after? "matches".toList r
  let r ← Text.skipGap? r
  pure (name, operand r)

def isNameChar (c : Char) : Bool := c.isAlphanum || c = '_'

-- A name of ASCII letters, digits and underscores that does not start with a digit.
def identifier? (t : Text) : Option (Text × Text) :=
  match Text.spanBy isNameChar t with
  | ([], _) => none
  | (c :: n, r) => if c.isDigit then none else some (c :: n, r)

-- `$name(arguments)`. One closing parenthesis at the end is dropped.
def call? (t : Text) : Option (Text × Text) := do
  let r ← Text.after? ['$'] t
  let (name, r) ← identifier? r
  let r ← Text.after? ['('] r
  let args := Text.trimEnd r
  pure (name, (Text.before? [')'] args).getD args)

def negated? (t : Text) : Option Text :=
  (Text.after? ['!'] t).bind fun r => isSet? (Text.skipGap r)

-- The forms in order of precedence.
def ofText (t : Text) : Condition :=
  let t := Text.trim t
  let forms : List (Option Condition) := [
    (negated? t).map fun n => isSet n true,
    (isSet? t).map fun n => isSet n false,
    (equals? t).map fun p => equals p.1 p.2,
    (fits? t).map fun p => fits p.1 p.2,
    (call? t).map fun p => call p.1 p.2]
  (forms.findSome? id).getD unrecognized

-- A call never holds, whether or not the function is defined. A pattern that is not well formed
-- fits nothing, and an unset name is matched as the empty text.
def holds (ctx : Context) : Condition → Bool
  | isSet name negated => (resolve? ctx name).isSome != negated
  | equals name value => resolve? ctx name = some value
  | fits name pattern =>
    match Pattern.ofText? pattern with
    | some p => p.matchesIn ((resolve? ctx name).getD [])
    | none => false
  | call _ _ => false
  | unrecognized => false

end Condition

def conditionHolds (ctx : Context) (t : Text) : Bool := (Condition.ofText t).holds ctx

def testHolds (ctx : Context) (t : Text) : Bool :=
  (((splitTop '|' t).map Text.trim).filter (· ≠ [])).any (conditionHolds ctx)

end EdgeIncludes
