import EdgeIncludes.Text.Case

namespace EdgeIncludes
namespace CharSet

open Text (CaseRun)

-- Two code points of which the second is the fold of the first.
abbrev FoldPair := Nat × Nat

def codesOf (r : CaseRun) : List Nat :=
  (List.range ((r.last - r.first) / r.step + 1)).map fun i => r.first + i * r.step

def pairsOf (r : CaseRun) : List FoldPair :=
  (codesOf r).map fun n => (n, (Text.fold .sixteen (Char.ofNat n)).toNat)

-- All letters that are not their own folds.
def foldPairs : List FoldPair :=
  ((Text.foldRuns ++ Text.lowerRunsOf .sixteen).flatMap pairsOf).filter fun p => p.1 ≠ p.2

def asciiPairs : List FoldPair := (List.range 26).map fun i => (65 + i, 97 + i)

-- Two letters belong together when they have the same fold.
def foldedBy (pairs : List FoldPair) (s : CharSet) : CharSet :=
  let folds := ofCodes ((pairs.filter fun p => s.mem (Char.ofNat p.1) || s.mem (Char.ofNat p.2)).map
    (·.2))
  let sources := (pairs.filter fun p => folds.mem (Char.ofNat p.2)).map (·.1)
  unionAll [s, folds, ofCodes sources]

def folded (unicode : Bool) (s : CharSet) : CharSet :=
  foldedBy (if unicode then foldPairs else asciiPairs) s

end CharSet
end EdgeIncludes
