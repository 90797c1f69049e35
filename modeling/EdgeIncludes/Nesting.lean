import EdgeIncludes.Text.Blank

namespace EdgeIncludes

def isQuote (c : Char) : Bool := c = '\''

def isOpening (c : Char) : Bool := c = '(' || c = '\x7b' || c = '['

def isClosing (c : Char) : Bool := c = ')' || c = '\x7d' || c = ']'

-- Where a scan stands: inside a quotation or not, and how many brackets are open.
structure Nesting where
  quoted : Bool := false
  depth : Nat := 0
deriving DecidableEq, Repr

namespace Nesting

def top : Nesting := ⟨false, 0⟩

-- Brackets count outside quotations only. A closing bracket too many is ignored.
def next (n : Nesting) (c : Char) : Nesting :=
  if isQuote c then { n with quoted := !n.quoted }
  else if n.quoted then n
  else if isOpening c then { n with depth := n.depth + 1 }
  else if isClosing c then { n with depth := n.depth - 1 }
  else n

def after (n : Nesting) (t : Text) : Nesting := t.foldl next n

-- Quotes and brackets are never separators.
def cuts (n : Nesting) (sep c : Char) : Bool :=
  c = sep && n = top && !isQuote c && !isOpening c && !isClosing c

end Nesting

def consHead (c : Char) : List Text → List Text
  | [] => [[c]]
  | p :: ps => (c :: p) :: ps

def splitFrom (sep : Char) : Nesting → Text → List Text
  | _, [] => [[]]
  | n, c :: t =>
    if n.cuts sep c then [] :: splitFrom sep n t else consHead c (splitFrom sep (n.next c) t)

-- The parts of `t` between the separators at top level.
def splitTop (sep : Char) (t : Text) : List Text := splitFrom sep .top t

theorem splitFrom_ne_nil (sep : Char) (n : Nesting) (t : Text) : splitFrom sep n t ≠ [] := by
  cases t with
  | nil => simp [splitFrom]
  | cons c t =>
    rw [splitFrom]
    split
    · simp
    · cases splitFrom sep (n.next c) t <;> simp [consHead]

theorem join_consHead (sep : Text) (c : Char) {ps : List Text} (h : ps ≠ []) :
    Text.join sep (consHead c ps) = c :: Text.join sep ps := by
  match ps with
  | [p] => simp [consHead, Text.join]
  | p :: q :: ps => simp [consHead, Text.join]

theorem join_splitFrom (sep : Char) (n : Nesting) (t : Text) :
    Text.join [sep] (splitFrom sep n t) = t := by
  induction t generalizing n with
  | nil => simp [splitFrom, Text.join]
  | cons c t ih =>
    rw [splitFrom]
    split
    · rename_i h
      have hc : c = sep := by simp_all [Nesting.cuts]
      obtain ⟨p, ps, hp⟩ := List.exists_cons_of_ne_nil (splitFrom_ne_nil sep n t)
      have ht := ih n
      rw [hp] at ht ⊢
      simp [Text.join, hc, ht]
    · rw [join_consHead _ _ (splitFrom_ne_nil sep _ t), ih]

theorem join_splitTop (sep : Char) (t : Text) : Text.join [sep] (splitTop sep t) = t :=
  join_splitFrom ..

-- All parts but the first are shorter than the whole.
theorem length_second_lt {sep : Char} {n : Nesting} {t p q : Text} {ps : List Text}
    (h : splitFrom sep n t = p :: q :: ps) : q.length < t.length ∧ p.length < t.length := by
  have hj := join_splitFrom sep n t
  have hl := congrArg List.length hj
  rw [h, Text.join] at hl
  · cases ps with
    | nil => simp [Text.join] at hl; omega
    | cons r rs => rw [Text.join] at hl <;> simp at hl ⊢; omega
  · simp

theorem length_first_le {sep : Char} {n : Nesting} {t p : Text} {ps : List Text}
    (h : splitFrom sep n t = p :: ps) : p.length ≤ t.length := by
  cases ps with
  | nil =>
    have hj := join_splitFrom sep n t
    rw [h, Text.join] at hj
    simp [hj]
  | cons q qs => exact Nat.le_of_lt (length_second_lt h).2

-- Counts the characters in front of the `)` that ends a parenthesis. Only quotes and other
-- parentheses matter inside.
def closingFrom (depth : Nat) (quoted : Bool) (n : Nat) : Text → Option Nat
  | [] => none
  | c :: t =>
    if isQuote c then closingFrom depth (!quoted) (n + 1) t
    else if quoted then closingFrom depth quoted (n + 1) t
    else if c = '(' then closingFrom (depth + 1) quoted (n + 1) t
    else if c = ')' then
      match depth with
      | 0 => some n
      | d + 1 => closingFrom d quoted (n + 1) t
    else closingFrom depth quoted (n + 1) t

-- What stands inside and behind a parenthesis that was opened in front of `t`.
def closing? (t : Text) : Option (Text × Text) :=
  (closingFrom 0 false 0 t).map fun n => (t.take n, t.drop (n + 1))

theorem closingFrom_lt {depth : Nat} {quoted : Bool} {n m : Nat} {t : Text}
    (h : closingFrom depth quoted n t = some m) : m < n + t.length := by
  fun_induction closingFrom depth quoted n t <;>
    simp only [List.length_cons, Option.some.injEq, reduceCtorEq] at * <;> grind

-- The inside, the parenthesis and the rest make up the text.
theorem length_closing? {t a b : Text} (h : closing? t = some (a, b)) :
    a.length < t.length ∧ b.length < t.length := by
  obtain ⟨n, hn, he⟩ := Option.map_eq_some_iff.1 h
  have := closingFrom_lt hn
  obtain ⟨rfl, rfl⟩ := Prod.mk.injEq .. ▸ he
  simp only [List.length_take, List.length_drop]
  omega

-- The text between two quotation marks `q`.
def between? (q t : Text) : Option Text := (Text.after? q t).bind (Text.before? q)

-- A literal stands in three quotes or in one.
def unquote? (t : Text) : Option Text :=
  (between? "'''".toList t).or (between? ['\''] t)

end EdgeIncludes
