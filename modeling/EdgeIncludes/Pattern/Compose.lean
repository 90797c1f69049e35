import EdgeIncludes.Pattern.Basic
import EdgeIncludes.Text.Utf8

namespace EdgeIncludes
namespace Pattern

def encodedLength (t : Text) : Nat := (Text.Utf8.encode t).length

def codeLength (n : Nat) : Nat := encodedLength [Char.ofNat n]

-- The fewest bytes that a match takes. A pattern that matches nothing has no such number.
def minLength? : Pattern → Option Nat
  | empty => some 0
  | literal t => some (encodedLength t)
  | set s => s.ranges.head?.map fun r => codeLength r.1
  | anchor _ => some 0
  | group _ p => p.minLength?
  | times p low _ _ => p.minLength?.map (· * low)
  | seq p q => do pure ((← p.minLength?) + (← q.minLength?))
  | alt p q => do pure (min (← p.minLength?) (← q.minLength?))

-- The most bytes that a match takes, if there is a bound.
def maxLength? : Pattern → Option Nat
  | empty => some 0
  | literal t => some (encodedLength t)
  | set s => s.ranges.getLast?.map fun r => codeLength r.2
  | anchor _ => some 0
  | group _ p => p.maxLength?
  | times p _ high _ => do pure ((← p.maxLength?) * (← high))
  | seq p q => do pure ((← p.maxLength?) + (← q.maxLength?))
  | alt p q => do pure (max (← p.maxLength?) (← q.maxLength?))

-- Whether every match begins at the start of the text.
def startsText : Pattern → Bool
  | anchor .textStart => true
  | group _ p => p.startsText
  | times p low _ _ => 0 < low && p.startsText
  | seq p q => p.startsText || (p.maxLength? = some 0 && q.startsText)
  | alt p q => p.startsText && q.startsText
  | _ => false

-- Whether every match goes up to the end of the text.
def endsText : Pattern → Bool
  | anchor .textEnd => true
  | group _ p => p.endsText
  | times p low _ _ => 0 < low && p.endsText
  | seq p q => q.endsText || (q.maxLength? = some 0 && p.endsText)
  | alt p q => p.endsText && q.endsText
  | _ => false

-- A set of one character is a literal.
def ofSet (s : CharSet) : Pattern :=
  match s.only? with
  | some c => literal [c]
  | none => set s

-- Repeating what takes no characters more than once adds nothing.
def repeated (p : Pattern) (low : Nat) (high : Option Nat) (greedy : Bool) : Pattern :=
  let (low, high) :=
    if p.maxLength? = some 0 then (min low 1, some (min (high.getD 1) 1)) else (low, high)
  if low = 0 && high = some 0 then empty
  else if low = 1 && high = some 1 then p
  else times p low high greedy

-- The parts of a sequence.
def parts : Pattern → List Pattern
  | seq p q => p :: parts q
  | empty => []
  | p => [p]

def joinLiterals : List Pattern → List Pattern
  | [] => []
  | p :: ps =>
    match p, joinLiterals ps with
    | literal a, literal b :: qs => literal (a ++ b) :: qs
    | p, qs => p :: qs

-- A list that ends with its last part.
def chain : List Pattern → Pattern
  | [] => empty
  | [p] => p
  | p :: ps => seq p (chain ps)

def sequence (ps : List Pattern) : Pattern := chain (joinLiterals (ps.flatMap parts))

-- The branches of a choice.
def branches : Pattern → List Pattern
  | alt p q => p :: branches q
  | p => [p]

def fork : List Pattern → Pattern
  | [] => set .empty
  | [p] => p
  | p :: ps => alt p (fork ps)

def char? : Pattern → Option Char
  | literal [c] => some c
  | _ => none

def set? : Pattern → Option CharSet
  | set s => some s
  | _ => none

-- The parts of a pattern that has more than one.
def several? (p : Pattern) : Option (List Pattern) :=
  match p with
  | seq _ _ => some p.parts
  | _ => none

def commonStart : List Pattern → List Pattern → List Pattern
  | p :: ps, q :: qs => if p = q then p :: commonStart ps qs else []
  | _, _ => []

-- The common start of some sequences.
def commonStarts : List (List Pattern) → List Pattern
  | [] => []
  | [ps] => ps
  | ps :: rest => commonStart ps (commonStarts rest)

-- `depth` bounds how often a common start is taken out.
def choiceWithin (depth : Nat) (ps : List Pattern) : Pattern :=
  let bs := ps.flatMap branches
  match bs, bs.mapM char?, bs.mapM set? with
  | [], _, _ => set .empty
  | [p], _, _ => p
  | _, some cs, _ => ofSet (.ofCodes (cs.map Char.toNat))
  | _, _, some ss => ofSet (.unionAll ss)
  | _, none, none =>
    match depth, bs.mapM several? with
    | depth + 1, some rows =>
      let start := commonStarts rows
      if start = [] then fork bs
      else
        sequence (start ++ [choiceWithin depth (rows.map fun r => sequence (r.drop start.length))])
    | _, _ => fork bs

def choice (ps : List Pattern) : Pattern := choiceWithin (ps.flatMap parts).length ps

end Pattern
end EdgeIncludes
