import EdgeIncludes.CharSet.Fold
import EdgeIncludes.CharSet.Named
import EdgeIncludes.Pattern.Compose
import EdgeIncludes.Text.Blank
import EdgeIncludes.Text.Percent

namespace EdgeIncludes
namespace Pattern

structure Flags where
  ignoreCase : Bool := false
  multiLine : Bool := false
  dotAll : Bool := false
  extended : Bool := false
  crlf : Bool := false
  swapGreed : Bool := false
  unicode : Bool := true

-- Blanks, and comments from `#` to the end of the line.
def skipSpace : Bool → Text → Text
  | _, [] => []
  | true, c :: t => skipSpace (c ≠ '\n') t
  | false, c :: t =>
    if Text.isBlank c then skipSpace false t
    else if c = '#' then skipSpace true t
    else c :: t

theorem length_skipSpace_le (b : Bool) (t : Text) : (skipSpace b t).length ≤ t.length := by
  induction t generalizing b with
  | nil => simp [skipSpace]
  | cons c t ih =>
    cases b with
    | true => exact Nat.le_trans (ih _) (by simp)
    | false =>
      rw [skipSpace]
      split
      · exact Nat.le_trans (ih _) (by simp)
      · split
        · exact Nat.le_trans (ih _) (by simp)
        · exact Nat.le_refl _

-- Space between the parts of a pattern counts for nothing in extended mode.
def Flags.skip (f : Flags) (t : Text) : Text := if f.extended then skipSpace false t else t

theorem length_skip_le (f : Flags) (t : Text) : (f.skip t).length ≤ t.length := by
  unfold Flags.skip
  split
  · exact length_skipSpace_le ..
  · exact Nat.le_refl _

def Flags.fold (f : Flags) (s : CharSet) : CharSet :=
  if f.ignoreCase then s.folded f.unicode else s

-- Without Unicode a set is one of ASCII characters, so a complement is refused.
def Flags.compl? (f : Flags) (negated : Bool) (s : CharSet) : Option CharSet :=
  if !negated then some s else if f.unicode then some s.compl else none

-- Letters that differ in case are added before the complement is taken.
def Flags.foldCompl? (f : Flags) (negated : Bool) (s : CharSet) : Option CharSet :=
  f.compl? negated (f.fold s)

inductive Escape where
  -- A byte is a character that is written with two hexadecimal digits.
  | char (c : Char) (isByte : Bool)
  | set (s : CharSet)
  | anchor (a : Anchor)

-- Without Unicode a byte stands for itself, and no byte outside ASCII is a character.
def Flags.refuses (f : Flags) (c : Char) (isByte : Bool) : Bool :=
  !f.unicode && isByte && 0x80 ≤ c.toNat

def charOfHex? (ds : Text) : Option Char := do
  let vs ← ds.mapM Text.Percent.hexValue?
  let n := vs.foldl (fun n d => 16 * n + d) 0
  if vs ≠ [] && n.isValidChar then some (Char.ofNat n) else none

-- The characters up to the end of the braces, without the space between them.
def inBraces? (f : Flags) (t : Text) : Option (Text × Text) :=
  match _h : f.skip t with
  | [] => none
  | c :: r =>
    if c = '\x7d' then some ([], r)
    else (inBraces? f r).map fun p => (c :: p.1, p.2)
termination_by t.length
decreasing_by
  have := length_skip_le f t
  rw [_h, List.length_cons] at this
  omega

-- Exactly `count` characters, with space in front of each.
def spaced? (f : Flags) : Nat → Text → Option (Text × Text)
  | 0, t => some ([], t)
  | count + 1, t =>
    match f.skip t with
    | [] => none
    | c :: r => (spaced? f count r).map fun p => (c :: p.1, p.2)

-- A character by its number: any digits in braces, or exactly `count` digits.
def hex? (f : Flags) (count : Nat) (t : Text) : Option (Escape × Text) := do
  match f.skip t with
  | '\x7b' :: r => do
    let (ds, r) ← inBraces? f r
    pure (.char (← charOfHex? ds) false, r)
  | t => do
    let (ds, r) ← spaced? f count t
    pure (.char (← charOfHex? ds) (count = 2), r)

-- The property that is asked for by name, or by name and value.
def query? (t : Text) : Option CharSet :=
  let value := fun p : Text × Text => CharSet.withValue? p.1 p.2
  match ((Text.cut? "!=".toList t).or (Text.cut? [':'] t)).or (Text.cut? ['='] t) with
  | some p => value p
  | none => CharSet.named? t

def property? (f : Flags) (negated : Bool) (t : Text) : Option (Escape × Text) :=
  if !f.unicode then none
  else do
    let (inside, r) ← match f.skip t with
      | [] => none
      | '\x7b' :: r => inBraces? f r
      | c :: r => if c = '\\' then none else some ([c], r)
    let s ← f.foldCompl? negated (← query? inside)
    pure (.set s, r)

def edgeNamed? (unicode : Bool) (name : Text) : Option Anchor :=
  match String.ofList name with
  | "start" => some (.wordStart unicode false)
  | "end" => some (.wordEnd unicode false)
  | "start-half" => some (.wordStart unicode true)
  | "end-half" => some (.wordEnd unicode true)
  | _ => none

-- `b` alone is an edge of a word. In braces it can ask for a start or an end. What stands in the
-- braces is a name if it begins like one, and else a count of repetitions.
def wordEdge? (f : Flags) (t : Text) : Option (Escape × Text) :=
  let plain := some (Escape.anchor (.edge f.unicode false), t)
  match t with
  | '\x7b' :: r =>
    match f.skip r with
    | [] => none
    | c :: _ =>
      if c.isAlpha || c = '-' then do
        let (name, r) ← inBraces? f r
        pure (.anchor (← edgeNamed? f.unicode name), r)
      else plain
  | _ => plain

-- Every ASCII sign stands for itself.
def isSign (c : Char) : Bool :=
  c.toNat < 128 && !c.isAlphanum && c ≠ '<' && c ≠ '>'

def digitSet (unicode : Bool) : CharSet := if unicode then .decimalDigit else .asciiDigit

def blankSet (unicode : Bool) : CharSet := if unicode then .blank else .asciiBlank

def escape? (f : Flags) : Text → Option (Escape × Text)
  | [] => none
  | c :: t =>
    let set := fun negated s => (f.compl? negated s).map fun s => (Escape.set s, t)
    let char := fun c => some (Escape.char c false, t)
    let anchor := fun a => some (Escape.anchor a, t)
    if isSign c then char c
    else
      match c with
      | 'd' => set false (digitSet f.unicode)
      | 'D' => set true (digitSet f.unicode)
      | 's' => set false (blankSet f.unicode)
      | 'S' => set true (blankSet f.unicode)
      | 'w' => set false (Anchor.wordSet f.unicode)
      | 'W' => set true (Anchor.wordSet f.unicode)
      | 'p' => property? f false t
      | 'P' => property? f true t
      | 'x' => hex? f 2 t
      | 'u' => hex? f 4 t
      | 'U' => hex? f 8 t
      | 'a' => char '\x07'
      | 'f' => char '\x0c'
      | 't' => char '\t'
      | 'n' => char '\n'
      | 'r' => char '\r'
      | 'v' => char '\x0b'
      | 'A' => anchor .textStart
      | 'z' => anchor .textEnd
      | 'b' => wordEdge? f t
      | 'B' => anchor (.edge f.unicode true)
      | '<' => anchor (.wordStart f.unicode false)
      | '>' => anchor (.wordEnd f.unicode false)
      | _ => none

end Pattern
end EdgeIncludes
