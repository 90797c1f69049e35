import EdgeIncludes.Number.Reader
import EdgeIncludes.Pattern.Bracket
import EdgeIncludes.Pattern.Size

namespace EdgeIncludes
namespace Pattern

-- A part of a pattern, and how deep its groups, repetitions, brackets, sequences and choices are
-- nested. A part without a pattern is a change of flags and cannot be repeated.
structure Part where
  pattern? : Option Pattern
  depth : Nat := 0

-- A group that is being read: its finished branches, and the parts of the branch at hand, the last
-- one first.
structure Group where
  flags : Flags
  number? : Option Nat := none
  branches : List Part := []
  parts : List Part := []

namespace Group

def push (g : Group) (p : Part) : Group := { g with parts := p :: g.parts }

-- Two parts or more are a level of their own, in a sequence and in a choice.
def depthOf (ps : List Part) : Nat :=
  let d := (ps.map (·.depth)).foldl max 0
  if 2 ≤ ps.length then d + 1 else d

def branch (g : Group) : Part :=
  ⟨some (sequence (g.parts.reverse.filterMap (·.pattern?))), depthOf g.parts⟩

def nextBranch (g : Group) : Group := { g with branches := g.branch :: g.branches, parts := [] }

-- What stands between the parentheses.
def body (g : Group) : Part :=
  let bs := g.branch :: g.branches
  ⟨some (choice (bs.reverse.filterMap (·.pattern?))), depthOf bs⟩

def close (g : Group) : Part :=
  let b := g.body
  ⟨b.pattern?.map fun p => (g.number?.map fun n => .group n p).getD p, b.depth + 1⟩

def setFlags (g : Group) (f : Flags) : Group := { g.push ⟨none, 0⟩ with flags := f }

-- Repeats the last part.
def repeatLast? (g : Group) (low : Nat) (high : Option Nat) (greedy : Bool) : Option Group :=
  match g.parts with
  | ⟨some p, d⟩ :: ps =>
    let p := repeated p low high (greedy != g.flags.swapGreed)
    some { g with parts := ⟨some p, d + 1⟩ :: ps }
  | _ => none

end Group

-- The flags behind `(?`, whether a group ends with them, and the rest. A letter behind a `-` turns
-- its flag off. No letter stands twice, and a `-` is not the last sign.
def flags? (f : Flags) (seen : Text) (on : Bool) : Text → Option (Flags × Bool × Text)
  | [] => none
  | c :: t =>
    let next := fun f => flags? f (c :: seen) on t
    if c = ':' || c = ')' then if seen.head? = some '-' then none else some (f, c = ')', t)
    else if c ∈ seen then none
    else
      match c with
      | '-' => flags? f (c :: seen) false t
      | 'i' => next { f with ignoreCase := on }
      | 'm' => next { f with multiLine := on }
      | 's' => next { f with dotAll := on }
      | 'u' => next { f with unicode := on }
      | 'x' => next { f with extended := on }
      | 'R' => next { f with crlf := on }
      | 'U' => next { f with swapGreed := on }
      | _ => none

-- Letters, and signs that count as such.
def isLetter (c : Char) : Bool :=
  let k := Text.Category.of .seventeen c
  Text.Category.letters.contains k || k = .letterNumber || CharSet.otherAlphabetic.mem c

def isNameChar (first : Bool) (c : Char) : Bool :=
  c = '_' || isLetter c ||
    (!first && (c = '.' || c = '[' || c = ']' ||
      Text.Category.numbers.contains (Text.Category.of .seventeen c)))

-- The name of a group up to `>`. No two groups have the same name.
def groupName? (names : List Text) (t : Text) : Option (Text × Text) := do
  let (name, r) ← Text.cut? ['>'] t
  let c ← name.head?
  if isNameChar true c && name.all (isNameChar false) && !names.contains name then some (name, r)
  else none

-- What an opening parenthesis starts: a group that is numbered and perhaps has a name, a group that
-- is neither, or a change of flags in the group around it.
inductive Opening where
  | numbered (name? : Option Text)
  | plain (f : Flags)
  | change (f : Flags)

def opening? (f : Flags) (names : List Text) (t : Text) : Option (Opening × Text) :=
  let named := fun t => (groupName? names t).map fun p => (Opening.numbered (some p.1), p.2)
  match f.skip t with
  | '?' :: 'P' :: '<' :: r => named r
  | '?' :: '<' :: '=' :: _ | '?' :: '<' :: '!' :: _ => none
  | '?' :: '<' :: r => named r
  | '?' :: ')' :: _ => none
  | '?' :: r =>
    (flags? f [] true r).map fun p => (if p.2.1 then .change p.1 else .plain p.1, p.2.2)
  | t => some (.numbered none, t)

-- The digits of a number, with space between them.
def digits (f : Flags) (t : Text) : Text × Text :=
  match _h : t with
  | [] => ([], [])
  | c :: r =>
    if c.isDigit then
      let (ds, r) := digits f (f.skip r)
      (c :: ds, r)
    else ([], c :: r)
termination_by t.length
decreasing_by
  have := length_skip_le f r
  simp only [List.length_cons]
  omega

-- A count of repetitions, with blanks around it.
def count? (f : Flags) (t : Text) : Option (Nat × Text) :=
  let (ds, r) := digits f (t.dropWhile Text.isBlank)
  let n := Number.valueOf ds
  let r := r.dropWhile Text.isBlank
  if ds = [] || 0xFFFFFFFF < n then none else some (n, f.skip r)

-- The bounds behind a brace: `n`, `n,` or `n,m`.
def bounds? (f : Flags) (t : Text) : Option (Nat × Option Nat × Text) := do
  let (low, r) ← count? f (f.skip t)
  match r with
  | '\x7d' :: r => some (low, some low, r)
  | ',' :: r =>
    match f.skip r with
    | '\x7d' :: r => some (low, none, r)
    | r => do
      let (high, r) ← count? f r
      let r ← Text.after? ['\x7d'] r
      if low ≤ high then some (low, some high, r) else none
  | _ => none

-- A question mark behind a repetition makes it lazy.
def takeLazy (t : Text) : Bool × Text :=
  match t with
  | '?' :: r => (true, r)
  | t => (false, t)

def dot? (f : Flags) : Option CharSet :=
  if !f.unicode then none
  else if f.dotAll then some .all
  else some (CharSet.ofCodes (if f.crlf then [10, 13] else [10])).compl

def ofChar (f : Flags) (c : Char) : Pattern :=
  if f.unicode || c.toNat < 0x80 then ofSet (f.fold (.single c)) else literal [c]

-- A part other than a group, a set in brackets or a repetition.
def single? (f : Flags) : Text → Option (Pattern × Text)
  | [] => none
  | '\\' :: t => do
    let (e, t) ← escape? f t
    match e with
    | .char c isByte => if f.refuses c isByte then none else some (ofChar f c, t)
    | .set s => some (ofSet s, t)
    | .anchor a => some (anchor a, t)
  | '.' :: t => (dot? f).map fun s => (set s, t)
  | '^' :: t => some (anchor (if f.multiLine then .lineStart f.crlf else .textStart), t)
  | '$' :: t => some (anchor (if f.multiLine then .lineEnd f.crlf else .textEnd), t)
  | c :: t => some (ofChar f c, t)

-- The groups that have been opened so far: how many are numbered, and the names.
structure Opened where
  count : Nat := 0
  names : List Text := []

-- Reads on to the end. `g` is the innermost open group.
def read (seen : Opened) (g : Group) (outer : List Group) (t : Text) : Option Part :=
  let go := fun (g : Group) (r : Text) => if r.length < t.length then read seen g outer r else none
  let times := fun (low : Nat) (high : Option Nat) (r : Text) =>
    let (isLazy, r) := takeLazy r
    (g.repeatLast? low high !isLazy).bind fun g => go g r
  let nest := fun (seen : Opened) (inner : Group) (r : Text) =>
    if r.length < t.length then read seen inner (g :: outer) r else none
  match g.flags.skip t with
  | [] => if outer.isEmpty then some g.body else none
  | '(' :: r =>
    match opening? g.flags seen.names r with
    | none => none
    | some (.change f, r) => go (g.setFlags f) r
    | some (.plain f, r) => nest seen { flags := f } r
    | some (.numbered name?, r) =>
      let n := seen.count + 1
      nest ⟨n, name?.toList ++ seen.names⟩ { flags := g.flags, number? := some n } r
  | ')' :: r =>
    match outer with
    | [] => none
    | o :: os => if r.length < t.length then read seen (o.push g.close) os r else none
  | '|' :: r => go g.nextBranch r
  | '[' :: r =>
    match Bracket.read? g.flags r with
    | none => none
    | some (s, r) => go (g.push ⟨some (ofSet s.set), s.depth⟩) r
  | '?' :: r => times 0 (some 1) r
  | '*' :: r => times 0 none r
  | '+' :: r => times 1 none r
  | '\x7b' :: r =>
    match bounds? g.flags r with
    | none => none
    | some (low, high, r) => times low high (g.flags.skip r)
  | r =>
    match single? g.flags r with
    | none => none
    | some (p, r) => go (g.push ⟨some p, 0⟩) r
termination_by t.length

-- How deep the parts of a pattern may be nested.
def nestLimit : Nat := 250

def ofText? (t : Text) : Option Pattern := do
  let part ← read {} { flags := {} } [] t
  let p ← part.pattern?
  if part.depth ≤ nestLimit && p.fits then some p else none

end Pattern
end EdgeIncludes
