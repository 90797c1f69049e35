import EdgeIncludes.Text.Basic

namespace EdgeIncludes

-- Ranges of code points in ascending order, of which no two overlap or touch. Surrogates are no
-- characters: the code point behind U+D7FF is U+E000.
structure CharSet where
  ranges : List (Nat × Nat)
deriving DecidableEq, Repr

namespace CharSet

def lastCode : Nat := 0x10FFFF

def mem (s : CharSet) (c : Char) : Bool := s.ranges.any fun r => r.1 ≤ c.toNat && c.toNat ≤ r.2

def empty : CharSet := ⟨[]⟩

def all : CharSet := ⟨[(0, lastCode)]⟩

def range (first last : Nat) : CharSet := ⟨[(first, last)]⟩

def single (c : Char) : CharSet := range c.toNat c.toNat

-- Joins ranges that overlap or touch. The ranges have to be in the order of their starts.
def squash : List (Nat × Nat) → List (Nat × Nat)
  | [] => []
  | [r] => [r]
  | a :: b :: rs =>
    if b.1 ≤ a.2 + 1 then squash ((a.1, max a.2 b.2) :: rs) else a :: squash (b :: rs)
termination_by rs => rs.length

-- The set of some ranges in any order.
def ofRanges (rs : List (Nat × Nat)) : CharSet := ⟨squash (rs.mergeSort fun a b => a.1 ≤ b.1)⟩

def ofCodes (ns : List Nat) : CharSet := ofRanges (ns.map fun n => (n, n))

def union (s t : CharSet) : CharSet :=
  ⟨squash (s.ranges.merge t.ranges fun a b => a.1 ≤ b.1)⟩

def unionAll (ss : List CharSet) : CharSet := ofRanges (ss.flatMap (·.ranges))

def overlaps : List (Nat × Nat) → List (Nat × Nat) → List (Nat × Nat)
  | a :: rs, b :: ss =>
    let low := max a.1 b.1
    let high := min a.2 b.2
    let rest := if a.2 < b.2 then overlaps rs (b :: ss) else overlaps (a :: rs) ss
    if low ≤ high then (low, high) :: rest else rest
  | _, _ => []
termination_by rs ss => rs.length + ss.length

def inter (s t : CharSet) : CharSet := ⟨overlaps s.ranges t.ranges⟩

def codeAfter (n : Nat) : Nat := if n = 0xD7FF then 0xE000 else n + 1

def codeBefore (n : Nat) : Nat := if n = 0xE000 then 0xD7FF else n - 1

-- What lies between the ranges, from `low` on.
def gaps (low : Nat) : List (Nat × Nat) → List (Nat × Nat)
  | [] => if low ≤ lastCode then [(low, lastCode)] else []
  | r :: rs =>
    if low < r.1 then (low, codeBefore r.1) :: gaps (codeAfter r.2) rs
    else gaps (codeAfter r.2) rs

def compl (s : CharSet) : CharSet := ⟨gaps 0 s.ranges⟩

def diff (s t : CharSet) : CharSet := s.inter t.compl

def symmDiff (s t : CharSet) : CharSet := (s.union t).diff (s.inter t)

def isAscii (s : CharSet) : Bool := s.ranges.all (·.2 < 0x80)

-- The only member of a set that has no other.
def only? (s : CharSet) : Option Char :=
  match s.ranges with
  | [(a, b)] => if a = b then some (Char.ofNat a) else none
  | _ => none

end CharSet
end EdgeIncludes
