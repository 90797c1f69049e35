import EdgeIncludes.Pattern.Escape

namespace EdgeIncludes
namespace Pattern

-- A set, and how deep its brackets and operators are nested.
structure NestedSet where
  set : CharSet
  depth : Nat

abbrev SetOperator := CharSet → CharSet → CharSet

-- A bracket that is being read: its finished left side, and the members behind the last operator.
structure Bracket where
  negated : Bool
  left : Option (SetOperator × NestedSet) := none
  members : List CharSet := []
  -- The depth of the deepest member.
  depth : Nat := 0

namespace Bracket

def add (b : Bracket) (s : CharSet) (depth : Nat) : Bracket :=
  { b with members := s :: b.members, depth := max depth b.depth }

-- Two members or more form a union, which is a level of its own.
def right (b : Bracket) : NestedSet :=
  ⟨.unionAll b.members, if 2 ≤ b.members.length then b.depth + 1 else b.depth⟩

-- What has been read so far.
def value (f : Flags) (b : Bracket) : NestedSet :=
  match b.left with
  | none => b.right
  | some (op, l) => ⟨op (f.fold l.set) (f.fold b.right.set), max l.depth b.right.depth + 1⟩

def operator (f : Flags) (b : Bracket) (op : SetOperator) : Bracket :=
  { negated := b.negated, left := some (op, b.value f) }

def close? (f : Flags) (b : Bracket) : Option NestedSet :=
  let v := b.value f
  (f.foldCompl? b.negated v.set).map fun s => ⟨s, v.depth + 1⟩

-- Hyphens in front are members.
def takeHyphens (f : Flags) (b : Bracket) (t : Text) : Bracket × Text :=
  match _h : f.skip t with
  | c :: r => if c = '-' then takeHyphens f (b.add (.single '-') 0) r else (b, c :: r)
  | [] => (b, [])
termination_by t.length
decreasing_by
  have := length_skip_le f t
  rw [_h, List.length_cons] at this
  omega

-- Begins a set behind its `[`. A `]` in the first place is a member.
def start (f : Flags) (t : Text) : Bracket × Text :=
  let (negated, t) := match f.skip t with
    | '^' :: t => (true, t)
    | t => (false, t)
  let (b, t) := takeHyphens f { negated } t
  match b.members, t with
  | [], ']' :: r => (b.add (.single ']') 0, r)
  | _, t => (b, t)

-- A named class behind its `[`.
def posixClass? (f : Flags) (t : Text) : Option (Option CharSet × Text) := do
  let t ← Text.after? [':'] t
  let (negated, t) := match t with
    | '^' :: t => (true, t)
    | t => (false, t)
  let (name, r) ← Text.cut? [':'] t
  let r ← Text.after? [']'] r
  let s ← CharSet.posix? name
  pure (f.foldCompl? negated s, r)

def member? (f : Flags) : Text → Option (Escape × Text)
  | [] => none
  | '\\' :: t => escape? f t
  | c :: t => some (.char c false, t)

-- Without Unicode the members are ASCII characters.
def isMember (f : Flags) (c : Char) : Bool := f.unicode || c.toNat < 0x80

-- The next character behind a hyphen, for the question whether it is a member. Behind a number sign
-- no comment is skipped, and nothing is skipped up to the end.
def peek? (f : Flags) (t : Text) : Option Char :=
  if !f.extended then t.head?
  else
    match t.dropWhile Text.isBlank with
    | [] => t.head?
    | '#' :: r => (r.dropWhile Text.isBlank).head?.or t.head?
    | c :: _ => some c

-- Whether a `-` in front of `t` is a member: it is last, or another one follows.
def isLoneHyphen (f : Flags) (t : Text) : Bool :=
  peek? f t = some ']' || peek? f t = some '-'

-- A member or a range of characters.
def range? (f : Flags) (t : Text) : Option (CharSet × Text) := do
  let (e, r) ← member? f t
  let r := f.skip r
  let single : Option (CharSet × Text) := match e with
    | .char c _ => if isMember f c then some (.single c, r) else none
    | .set s => some (s, r)
    | .anchor _ => none
  match r with
  | [] => none
  | '-' :: u =>
    if isLoneHyphen f u then single
    else
      match e, member? f (f.skip u) with
      | .char a _, some (.char b _, r) =>
        if a.toNat ≤ b.toNat && isMember f a && isMember f b then
          some (.range a.toNat b.toNat, r)
        else none
      | _, _ => none
  | _ => single

-- Reads on to the `]` that ends the outermost of the open brackets.
def read (f : Flags) (b : Bracket) (outer : List Bracket) (t : Text) :
    Option (NestedSet × Text) :=
  let go := fun (b : Bracket) (outer : List Bracket) (r : Text) =>
    if r.length < t.length then read f b outer r else none
  match f.skip t with
  | [] => none
  | '[' :: r =>
    match posixClass? f r with
    | some (none, _) => none
    | some (some s, r) => go (b.add s 0) outer r
    | none =>
      let (inner, r) := start f r
      go inner (b :: outer) r
  | ']' :: r =>
    match b.close? f, outer with
    | none, _ => none
    | some s, [] => some (s, r)
    | some s, o :: os => go (o.add s.set s.depth) os r
  | '&' :: '&' :: r => go (b.operator f CharSet.inter) outer r
  | '-' :: '-' :: r => go (b.operator f CharSet.diff) outer r
  | '~' :: '~' :: r => go (b.operator f CharSet.symmDiff) outer r
  | t =>
    match range? f t with
    | none => none
    | some (s, r) => go (b.add s 0) outer r
termination_by t.length

-- The set behind a `[`.
def read? (f : Flags) (t : Text) : Option (NestedSet × Text) :=
  let (b, t) := start f t
  read f b [] t

end Bracket
end Pattern
end EdgeIncludes
