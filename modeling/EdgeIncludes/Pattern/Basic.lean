import EdgeIncludes.CharSet.Ascii
import EdgeIncludes.CharSet.Property

namespace EdgeIncludes

-- Conditions on the place between two characters.
inductive Anchor where
  | textStart | textEnd
  | lineStart (crlf : Bool) | lineEnd (crlf : Bool)
  | edge (unicode negated : Bool)
  | wordStart (unicode half : Bool) | wordEnd (unicode half : Bool)
deriving DecidableEq, Repr

inductive Pattern where
  | empty
  | literal (t : Text)
  | set (s : CharSet)
  | anchor (a : Anchor)
  -- A group with its number.
  | group (n : Nat) (p : Pattern)
  -- At least `low` times, and at most `high` times if there is a bound. A repetition that is not
  -- greedy matches the same texts.
  | times (p : Pattern) (low : Nat) (high : Option Nat) (greedy : Bool)
  | seq (p q : Pattern)
  | alt (p q : Pattern)
deriving DecidableEq, Repr

namespace Anchor

def wordSet (unicode : Bool) : CharSet := if unicode then .word else .asciiWord

def isWordBeside (unicode : Bool) (c : Option Char) : Bool :=
  (c.map (wordSet unicode).mem).getD false

-- Whether the anchor holds between two neighbours.
def holds (before behind : Option Char) : Anchor → Bool
  | textStart => before.isNone
  | textEnd => behind.isNone
  | lineStart crlf =>
    before.isNone || before = some '\n' || (crlf && before = some '\r' && behind ≠ some '\n')
  | lineEnd crlf =>
    behind.isNone || (crlf && behind = some '\r') ||
      (behind = some '\n' && !(crlf && before = some '\r'))
  | edge unicode negated =>
    (isWordBeside unicode before != isWordBeside unicode behind) != negated
  | wordStart unicode half =>
    !isWordBeside unicode before && (half || isWordBeside unicode behind)
  | wordEnd unicode half =>
    !isWordBeside unicode behind && (half || isWordBeside unicode before)

end Anchor

-- The positions of a text at which a condition on the neighbours holds.
def positions (holds : Option Char → Option Char → Bool) (before : Option Char) : Text → Nat
  | [] => (holds before none).toNat
  | c :: t => (holds before (some c)).toNat + 2 * positions holds (some c) t

-- A pattern with its leaves evaluated on one text.
inductive Plan where
  | stay (ps : Nat)
  | step (ps : Nat)
  | seq (p q : Plan)
  | alt (p q : Plan)
  | times (p : Plan) (low : Nat) (more : Nat)

namespace Plan

-- Moves exactly `n` times. A set that is moved to itself stays there.
def exactly (move : Nat → Nat) : Nat → Nat → Nat
  | 0, s => s
  | n + 1, s =>
    let s' := move s
    if s' = s then s else exactly move n s'

-- Moves at most `n` times, until nothing is added.
def atMost (move : Nat → Nat) : Nat → Nat → Nat
  | 0, s => s
  | n + 1, s =>
    let s' := s ||| move s
    if s' = s then s else atMost move n s'

def run : Plan → Nat → Nat
  | stay ps, s => s &&& ps
  | step ps, s => (s &&& ps) <<< 1
  | seq p q, s => q.run (p.run s)
  | alt p q, s => p.run s ||| q.run s
  | times p low more, s => atMost (fun s => p.run s) more (exactly (fun s => p.run s) low s)

end Plan

namespace Pattern

def everywhere (t : Text) : Nat := positions (fun _ _ => true) none t

def stepOn (holds : Char → Bool) (t : Text) : Plan :=
  .step (positions (fun _ c => c.any holds) none t)

-- A text of `n` characters has `n + 1` positions, so more repetitions than that add nothing.
def plan (t : Text) : Pattern → Plan
  | empty => .stay (everywhere t)
  | literal cs => cs.foldr (fun c p => .seq (stepOn (· = c) t) p) (.stay (everywhere t))
  | set s => stepOn s.mem t
  | anchor a => .stay (positions (fun b c => a.holds b c) none t)
  | group _ p => p.plan t
  | seq p q => .seq (p.plan t) (q.plan t)
  | alt p q => .alt (p.plan t) (q.plan t)
  | times p low high _ =>
    .times (p.plan t) low (min ((high.getD (low + t.length + 1)) - low) (t.length + 1))

def matchesIn (p : Pattern) (t : Text) : Bool := (p.plan t).run (everywhere t) ≠ 0

end Pattern
end EdgeIncludes
