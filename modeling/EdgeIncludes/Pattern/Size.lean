import EdgeIncludes.Pattern.Bytes
import EdgeIncludes.Pattern.Compose
import Std.Data.HashMap

namespace EdgeIncludes
namespace Pattern

-- A pattern that takes more bytes than this, forward or backward, is refused.
def maxSize : Nat := 10485760

def stateSize : Nat := 32

-- What each way out takes in a state that reads one of several bytes.
def exitSize : Nat := 8

-- What each way on takes in a fork, which reads nothing.
def wayOnSize : Nat := 4

-- The states so far, and the room that they take besides their fixed size.
structure Room where
  states : Nat := 0
  extra : Nat := 0

def Room.bytes (r : Room) : Nat := stateSize * r.states + r.extra

-- Laying out a machine ends as soon as it takes too much room.
abbrev Layout := StateT Room Option

namespace Layout

def grow (states extra : Nat) : Layout Unit := fun r =>
  let r : Room := ⟨r.states + states, r.extra + extra⟩
  if r.bytes ≤ maxSize then some ((), r) else none

-- A new state, by its number.
def state (extra : Nat) : Layout Nat := fun r => (grow 1 extra r).map fun p => (r.states, p.2)

-- A way on from the last state of a part, which takes room if that state is a fork.
def wayOn (fork : Bool) : Layout Unit := if fork then grow 0 wayOnSize else pure ()

end Layout

open Layout

-- States that have been built for one set, by the remainder of a hash. A new state takes the place
-- of an older one with the same remainder.
abbrev Built (key : Type) := Std.HashMap Nat (key × Nat)

-- Builds states for one set, and uses a state again while it is known.
abbrev Sharing (key : Type) := StateT (Built key) Layout

def hash (ns : List Nat) : UInt64 :=
  ns.foldl (fun h n => (h ^^^ n.toUInt64) * 1099511628211) 14695981039346656037

def share {key : Type} [DecidableEq key] (slot : Nat) (k : key) (build : Layout Nat) :
    Sharing key Nat := do
  match (← get)[slot]? with
  | some (k', n) => if k' = k then return n
  | none => pure ()
  let n ← build
  modify (·.insert slot (k, n))
  return n

-- A state that reads a byte of a range and goes on to a state.
structure Exit where
  bytes : ByteRange
  target : Nat
deriving DecidableEq

def sharedForward : Nat := 10000

def sharedBackward : Nat := 1000

def stateWith (es : List Exit) : Sharing (List Exit) Nat :=
  let slot := (hash (es.flatMap fun e => [e.bytes.1, e.bytes.2, e.target])).toNat % sharedForward
  share slot es (state (exitSize * es.length))

-- Rows of byte ranges that start alike have one exit. `length` is that of the longest row.
def stateOfRows (target : Nat) : Nat → List (List ByteRange) → Sharing (List Exit) Nat
  | 0, _ => pure target
  | length + 1, rows =>
    if rows.all (·.isEmpty) then pure target
    else do
      let es ← (rows.splitBy fun a b => a.head? = b.head?).mapM fun group => do
        let n ← stateOfRows target length (group.map List.tail)
        pure (⟨(group.head?.bind List.head?).getD (0, 0), n⟩ : Exit)
      stateWith es

-- The rows are read from their ends, each in states of its own up to where it was read before.
def chainOfRow (last : Nat) (row : List ByteRange) : Sharing (Nat × ByteRange) Nat :=
  row.foldlM
    (fun n b =>
      share ((hash [n, b.1, b.2]).toNat % sharedBackward) (n, b) (state 0))
    last

def layoutSet (backward : Bool) (s : CharSet) : Layout Unit := do
  if s.isAscii then
    grow 2 (exitSize * s.ranges.length)
  else if backward then
    grow 1 0
    let last ← state 0
    let rows := bytesOf s
    let _ ← (rows.forM fun row => do
      let _ ← chainOfRow last row
      grow 0 wayOnSize).run {}
  else
    let last ← state 0
    let _ ← (stateOfRows last 4 (bytesOf s)).run {}

-- What some words take as a tree. Words that end in the middle of it cut the others into groups,
-- those before and those behind. `length` is that of the longest word.
def treeRoom : Nat → List (List Nat) → Room
  | 0, _ => {}
  | length + 1, words =>
    let heads (group : List (List Nat)) : List Nat := (group.filterMap List.head?).eraseDups
    let ends := ((words.dropWhile (·.isEmpty)).filter (·.isEmpty)).length +
      (words.head?.any (·.isEmpty)).toNat
    let groups := (words.splitBy fun a b => !a.isEmpty && !b.isEmpty).filter
      fun group => group.any (!·.isEmpty)
    let below := groups.flatMap fun group => (heads group).map fun b =>
      let tails := (group.filter (·.head? = some b)).map List.tail
      if tails.all (·.isEmpty) then {} else treeRoom length tails
    let exits := groups.map fun group =>
      let n := (heads group).length
      if n = 1 then 0 else exitSize * n
    ⟨groups.length + 1 + (below.map (·.states)).sum,
      exits.sum + wayOnSize * (groups.length + ends) + (below.map (·.extra)).sum⟩

def literal? : Pattern → Option Text
  | literal t => some t
  | _ => none

def layoutWords (backward : Bool) (ts : List Text) : Layout Unit :=
  let words := ts.map fun t =>
    let bs := (Text.Utf8.encode t).map UInt8.toNat
    if backward then bs.reverse else bs
  let r := treeRoom ((words.map List.length).foldl max 0) words
  grow (r.states + 1) r.extra

-- Further copies behind a part whose last state is a fork or not.
def copies (part : Layout Bool) : Nat → Bool → Layout Bool
  | 0, fork => pure fork
  | n + 1, fork => do
    let fork' ← part
    wayOn fork
    copies part n fork'

def exactly (part : Layout Bool) : Nat → Layout Bool
  | 0 => do
    grow 1 0
    pure false
  | n + 1 => do copies part n (← part)

-- Copies that can each be left out together with those behind it.
def optionalCopies (part : Layout Bool) : Nat → Bool → Layout Bool
  | 0, fork => pure fork
  | n + 1, fork => do
    grow 1 (2 * wayOnSize)
    let fork' ← part
    wayOn fork
    optionalCopies part n fork'

-- A repetition without a bound. `canBeEmpty` says that the part can match without a byte.
def endless (part : Layout Bool) (canBeEmpty : Bool) (low : Nat) : Layout Bool := do
  match low with
  | 0 =>
    if canBeEmpty then
      wayOn (← part)
      grow 3 (4 * wayOnSize)
      pure false
    else
      grow 1 wayOnSize
      wayOn (← part)
      pure true
  | 1 =>
    wayOn (← part)
    grow 1 wayOnSize
    pure true
  | low + 2 =>
    let fork ← exactly part (low + 1)
    let fork' ← part
    wayOn fork
    wayOn fork'
    grow 1 wayOnSize
    pure true

def bounded (part : Layout Bool) (low high : Nat) : Layout Bool := do
  if low = high then exactly part low
  else if low = 0 && high = 1 then
    grow 1 (2 * wayOnSize)
    let fork ← part
    grow 1 0
    wayOn fork
    pure false
  else
    let fork ← exactly part low
    grow 1 0
    wayOn (← optionalCopies part (high - low) fork)
    pure false

def inTurn (first second : Layout Bool) : Layout Bool := do
  let fork ← first
  let fork' ← second
  wayOn fork
  pure fork'

-- Ends a branch of a choice. The second branch brings the fork and the state where all branches
-- meet, and `first?` says then whether the last state of the first branch is a fork.
def joinBranch (first? : Option Bool) (fork : Bool) : Layout Unit := do
  match first? with
  | some first =>
    grow 2 (2 * wayOnSize)
    wayOn first
  | none => grow 0 wayOnSize
  wayOn fork

mutual

-- Lays out a pattern, and says whether its last state is a fork. Backward, groups leave no trace.
def layout (backward : Bool) (p : Pattern) : Layout Bool := do
  match p with
  | empty | anchor _ =>
    grow 1 0
    pure false
  | literal t =>
    grow (encodedLength t) 0
    pure false
  | set s =>
    layoutSet backward s
    pure false
  | group _ p =>
    if backward then layout backward p
    else
      grow 1 0
      let fork ← layout backward p
      grow 1 0
      wayOn fork
      pure false
  | times p low none _ => endless (layout backward p) (p.minLength?.getD 0 = 0) low
  | times p low (some high) _ => bounded (layout backward p) low high
  | seq p q =>
    if backward then inTurn (layout backward q) (layout backward p)
    else inTurn (layout backward p) (layout backward q)
  | alt p q =>
    match (branches (alt p q)).mapM literal? with
    | some ts => layoutWords backward ts
    | none =>
      let fork ← layout backward p
      layoutBranches backward (some fork) q
    pure false
termination_by (sizeOf p, 0)

-- Lays out the branches behind the first one.
def layoutBranches (backward : Bool) (first? : Option Bool) (p : Pattern) : Layout Unit := do
  match p with
  | alt p q =>
    joinBranch first? (← layout backward p)
    layoutBranches backward none q
  | p => joinBranch first? (← layout backward p)
termination_by (sizeOf p, 1)

end

-- A search that is not bound to one end of the text skips bytes first.
def layoutSearch (backward : Bool) (p : Pattern) : Layout Unit := do
  let bound := if backward then p.endsText else p.startsText
  if bound then grow 1 0 else grow 3 (exitSize + 2 * wayOnSize)
  if backward then
    let fork ← layout backward p
    grow 1 0
    wayOn fork
  else
    grow 1 0
    let fork ← layout backward p
    grow 1 0
    wayOn fork
    grow 1 0

def fits (p : Pattern) : Bool :=
  ((layoutSearch false p).run {}).isSome && ((layoutSearch true p).run {}).isSome

end Pattern
end EdgeIncludes
