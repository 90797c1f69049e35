import EdgeIncludes.Proofs.Substitution

namespace EdgeIncludes

-- A character that changes where a scan stands.
def isMark (c : Char) : Bool := isQuote c || isOpening c || isClosing c

theorem isMark_eq_false_iff {c : Char} :
    isMark c = false ↔ isQuote c = false ∧ isOpening c = false ∧ isClosing c = false := by
  rw [isMark, Bool.or_eq_false_iff, Bool.or_eq_false_iff, and_assoc]

def markChars : Text := "'(\x7b[)\x7d]".toList

-- Characters of a kind that none of the marks is of.
theorem isMark_eq_false_of {q : Char → Bool} (hq : markChars.all (!q ·) = true) {c : Char}
    (h : q c = true) : isMark c = false := by
  refine Bool.eq_false_iff.2 fun hm => ?_
  have hc : c ∈ markChars := by
    simp only [isMark, isQuote, isOpening, isClosing, Bool.or_eq_true, decide_eq_true_eq] at hm
    rcases hm with (rfl | (rfl | rfl) | rfl) | (rfl | rfl) | rfl <;> decide
  have hn := List.all_eq_true.1 hq c hc
  simp [h] at hn

namespace Nesting

variable {n : Nesting} {sep c : Char}

theorem next_of_not_mark (h : isMark c = false) : n.next c = n := by
  obtain ⟨hq, ho, hc⟩ := isMark_eq_false_iff.1 h
  simp only [next, hq, ho, hc, Bool.false_eq_true, if_false, ite_self]

theorem after_cons (n : Nesting) (c : Char) (a : Text) : n.after (c :: a) = (n.next c).after a :=
  rfl

theorem after_append (n : Nesting) (a b : Text) : n.after (a ++ b) = (n.after a).after b :=
  List.foldl_append

theorem not_mark_of_cuts (h : n.cuts sep c = true) : isMark c = false := by
  simp only [cuts, Bool.and_eq_true, Bool.not_eq_true'] at h
  exact isMark_eq_false_iff.2 ⟨h.1.1.2, h.1.2, h.2⟩

theorem cuts_top (h : isMark sep = false) : top.cuts sep sep = true := by
  obtain ⟨hq, ho, hc⟩ := isMark_eq_false_iff.1 h
  simp [cuts, hq, ho, hc]

theorem not_cuts_of_mark (h : isMark c = true) : n.cuts sep c = false :=
  Bool.eq_false_iff.2 fun hc => Bool.eq_false_iff.1 (not_mark_of_cuts hc) h

theorem not_cuts_of_ne (h : c ≠ sep) : n.cuts sep c = false := by simp [cuts, h]

theorem not_cuts_of_ne_top (h : n ≠ top) : n.cuts sep c = false := by simp [cuts, h]

theorem eq_top_of_cuts (h : n.cuts sep c = true) : n = top := by
  by_contra hn
  rw [not_cuts_of_ne_top hn] at h
  cases h

end Nesting

section Split

variable {sep c : Char} {n m k : Nesting} {a b t p : Text} {ps : List Text}

theorem splitFrom_cons_of_cuts (h : n.cuts sep c = true) :
    splitFrom sep n (c :: t) = [] :: splitFrom sep n t := by
  rw [splitFrom, if_pos h]

theorem splitFrom_cons_of_not_cuts (h : n.cuts sep c = false) :
    splitFrom sep n (c :: t) = (splitFrom sep (n.next c) t).modifyHead (c :: ·) := by
  obtain ⟨p, ps, hp⟩ := List.exists_cons_of_ne_nil (splitFrom_ne_nil sep (n.next c) t)
  rw [splitFrom, if_neg (by rw [h]; exact Bool.false_ne_true), hp]
  rfl

-- A first part that begins with the first character has not been cut in front of it.
theorem splitFrom_cons_eq_iff :
    splitFrom sep n (c :: t) = (c :: p) :: ps ↔
      n.cuts sep c = false ∧ splitFrom sep (n.next c) t = p :: ps := by
  cases hc : n.cuts sep c with
  | true =>
    rw [splitFrom_cons_of_cuts hc]
    simp
  | false =>
    obtain ⟨q, qs, hq⟩ := List.exists_cons_of_ne_nil (splitFrom_ne_nil sep (n.next c) t)
    rw [splitFrom_cons_of_not_cuts hc, hq, List.modifyHead_cons]
    simp

-- Behind a text that leaves the scan at top level a separator cuts, and what follows it is cut as
-- if it stood alone.
theorem splitFrom_append_cons (hsep : isMark sep = false) (h : n.after a = .top) (b : Text) :
    splitFrom sep n (a ++ sep :: b) = splitFrom sep n a ++ splitTop sep b := by
  induction a generalizing n with
  | nil =>
    obtain rfl : n = .top := h
    rw [List.nil_append, splitFrom_cons_of_cuts (Nesting.cuts_top hsep)]
    rfl
  | cons c a ih =>
    rw [List.cons_append]
    cases hc : n.cuts sep c with
    | true =>
      have hn : n.after a = .top := by
        rwa [Nesting.after_cons, Nesting.next_of_not_mark (Nesting.not_mark_of_cuts hc)] at h
      rw [splitFrom_cons_of_cuts hc, splitFrom_cons_of_cuts hc, ih hn]
      rfl
    | false =>
      obtain ⟨p, ps, hp⟩ := List.exists_cons_of_ne_nil (splitFrom_ne_nil sep (n.next c) a)
      rw [splitFrom_cons_of_not_cuts hc, splitFrom_cons_of_not_cuts hc, ih h, hp]
      rfl

-- The scan comes through the text from one place to another, and the text is not cut.
structure Crosses (sep : Char) (n : Nesting) (a : Text) (m : Nesting) : Prop where
  whole : splitFrom sep n a = [a]
  ends : n.after a = m

namespace Crosses

theorem nil (sep : Char) (n : Nesting) : Crosses sep n [] n := ⟨rfl, rfl⟩

theorem iff_whole : Crosses sep n a (n.after a) ↔ splitFrom sep n a = [a] :=
  ⟨whole, fun h => ⟨h, rfl⟩⟩

theorem cons_iff :
    Crosses sep n (c :: a) m ↔ n.cuts sep c = false ∧ Crosses sep (n.next c) a m := by
  constructor
  · rintro ⟨hwhole, hends⟩
    obtain ⟨hc, hrest⟩ := splitFrom_cons_eq_iff.1 hwhole
    exact ⟨hc, hrest, hends⟩
  · rintro ⟨hc, h⟩
    exact ⟨splitFrom_cons_eq_iff.2 ⟨hc, h.whole⟩, h.ends⟩

theorem append_iff :
    Crosses sep n (a ++ b) k ↔ Crosses sep n a (n.after a) ∧ Crosses sep (n.after a) b k := by
  induction a generalizing n with
  | nil => exact (and_iff_right (.nil sep n)).symm
  | cons c a ih => rw [List.cons_append, cons_iff, ih, cons_iff, Nesting.after_cons, and_assoc]

theorem append (ha : Crosses sep n a m) (hb : Crosses sep m b k) : Crosses sep n (a ++ b) k := by
  obtain rfl := ha.ends
  exact append_iff.2 ⟨ha, hb⟩

theorem cons (hc : n.cuts sep c = false) (h : Crosses sep (n.next c) a m) :
    Crosses sep n (c :: a) m :=
  cons_iff.2 ⟨hc, h⟩

-- Marks are never separators.
theorem mark (hc : isMark c = true) (h : Crosses sep (n.next c) a m) : Crosses sep n (c :: a) m :=
  h.cons (Nesting.not_cuts_of_mark hc)

-- Inside of a quotation nothing counts but its end.
theorem quoted (h : '\'' ∉ a) (sep : Char) (d : Nat) : Crosses sep ⟨true, d⟩ a ⟨true, d⟩ := by
  induction a with
  | nil => exact .nil sep _
  | cons c a ih =>
    obtain ⟨hc, ha⟩ := List.ne_and_not_mem_of_not_mem_cons h
    have hq : isQuote c = false := decide_eq_false (Ne.symm hc)
    have hn : Nesting.next ⟨true, d⟩ c = ⟨true, d⟩ := by
      simp only [Nesting.next, hq, Bool.false_eq_true, if_false, if_true]
    exact .cons (Nesting.not_cuts_of_ne_top (by simp [Nesting.top])) (hn.symm ▸ ih ha)

end Crosses

-- The first part ends at the separator that cuts it off, and what is cut behind it stands alone.
theorem splitFrom_eq_cons_iff (hsep : isMark sep = false) :
    splitFrom sep n (a ++ sep :: b) = a :: ps ↔ Crosses sep n a .top ∧ splitTop sep b = ps := by
  constructor
  · intro h
    induction a generalizing n with
    | nil =>
      cases hc : n.cuts sep sep with
      | true =>
        obtain rfl := Nesting.eq_top_of_cuts hc
        rw [List.nil_append, splitFrom_cons_of_cuts hc] at h
        exact ⟨.nil sep _, (List.cons.inj h).2⟩
      | false =>
        obtain ⟨q, qs, hq⟩ := List.exists_cons_of_ne_nil (splitFrom_ne_nil sep (n.next sep) b)
        rw [List.nil_append, splitFrom_cons_of_not_cuts hc, hq, List.modifyHead_cons] at h
        cases (List.cons.inj h).1
    | cons c a ih =>
      obtain ⟨hc, hrest⟩ := splitFrom_cons_eq_iff.1 h
      obtain ⟨ha, hb⟩ := ih hrest
      exact ⟨ha.cons hc, hb⟩
  · rintro ⟨ha, rfl⟩
    rw [splitFrom_append_cons hsep ha.ends, ha.whole]
    rfl

end Split

-- A bracket and the one that closes it.
def bracketPairs : List (Char × Char) := [('(', ')'), ('\x7b', '\x7d'), ('[', ']')]

theorem forall_bracketPairs {P : Char → Char → Prop} (hround : P '(' ')') (hcurly : P '\x7b' '\x7d')
    (hsquare : P '[' ']') {o c : Char} (h : (o, c) ∈ bracketPairs) : P o c := by
  simp only [bracketPairs, List.mem_cons, Prod.mk.injEq, List.not_mem_nil, or_false] at h
  rcases h with ⟨rfl, rfl⟩ | ⟨rfl, rfl⟩ | ⟨rfl, rfl⟩
  · exact hround
  · exact hcurly
  · exact hsquare

-- Every quotation of the text is closed, and so is every bracket, by its own kind. Outside of them
-- stand only characters of the given kind.
inductive Balanced : (Char → Prop) → Text → Prop where
  | nil {p : Char → Prop} : Balanced p []
  | char {p : Char → Prop} {c : Char} {t : Text} :
    isMark c = false → p c → Balanced p t → Balanced p (c :: t)
  | quoted {p : Char → Prop} {a t : Text} :
    '\'' ∉ a → Balanced p t → Balanced p ('\'' :: (a ++ '\'' :: t))
  | bracketed {p q : Char → Prop} {o c : Char} {a t : Text} :
    (o, c) ∈ bracketPairs → Balanced q a → Balanced p t → Balanced p (o :: (a ++ c :: t))

namespace Balanced

variable {p q : Char → Prop} {a b : Text} {sep o c : Char}

theorem append (ha : Balanced p a) (hb : Balanced p b) : Balanced p (a ++ b) := by
  induction ha with
  | nil => exact hb
  | char hm hc _ ih => exact .char hm hc (ih hb)
  | quoted hq _ ih =>
    rw [List.cons_append, List.append_assoc]
    exact .quoted hq (ih hb)
  | bracketed ho hin _ _ ih =>
    rw [List.cons_append, List.append_assoc]
    exact .bracketed ho hin (ih hb)

theorem mono (h : ∀ c, p c → q c) (ha : Balanced p a) : Balanced q a := by
  induction ha with
  | nil => exact .nil
  | char hm hc _ ih => exact .char hm (h _ hc) (ih h)
  | quoted hq _ ih => exact .quoted hq (ih h)
  | bracketed ho hin _ _ ih => exact .bracketed ho hin (ih h)

theorem of_forall (h : ∀ c ∈ a, isMark c = false ∧ p c) : Balanced p a := by
  induction a with
  | nil => exact .nil
  | cons c a ih =>
    obtain ⟨hm, hc⟩ := h c (List.mem_cons_self ..)
    exact .char hm hc (ih fun d hd => h d (List.mem_cons_of_mem _ hd))

theorem quotation (h : '\'' ∉ a) : Balanced p ('\'' :: (a ++ ['\''])) := .quoted h .nil

theorem bracket (ho : (o, c) ∈ bracketPairs) (h : Balanced q a) : Balanced p (o :: (a ++ [c])) :=
  .bracketed ho h .nil

-- A scan comes through the text and stands where it stood, unless a separator that counts there
-- stands outside of the brackets.
theorem crosses (h : Balanced p a) (d : Nat)
    (hp : ∀ c, p c → Nesting.cuts ⟨false, d⟩ sep c = false) :
    Crosses sep ⟨false, d⟩ a ⟨false, d⟩ := by
  induction h generalizing d with
  | nil => exact .nil sep _
  | char hm hc _ ih =>
    refine .cons (hp _ hc) ?_
    rw [Nesting.next_of_not_mark hm]
    exact ih d hp
  | quoted hq _ ih =>
    have hmark : isMark '\'' = true := by decide
    exact .mark hmark ((Crosses.quoted hq sep d).append (.mark hmark (ih d hp)))
  | @bracketed p q o c a t ho _ _ ihin ih =>
    have hmark : isMark o = true ∧ isMark c = true :=
      forall_bracketPairs (P := fun o c => isMark o = true ∧ isMark c = true) (by decide) (by decide)
        (by decide) ho
    have hopen : Nesting.next ⟨false, d⟩ o = ⟨false, d + 1⟩ :=
      forall_bracketPairs (P := fun o _ => Nesting.next ⟨false, d⟩ o = ⟨false, d + 1⟩) rfl rfl rfl ho
    have hclose : Nesting.next ⟨false, d + 1⟩ c = ⟨false, d⟩ :=
      forall_bracketPairs (P := fun _ c => Nesting.next ⟨false, d + 1⟩ c = ⟨false, d⟩) rfl rfl rfl ho
    -- Between brackets no separator is at top level.
    have hinner := ihin (d + 1) fun c _ => Nesting.not_cuts_of_ne_top (by simp [Nesting.top])
    refine .mark hmark.1 (hopen.symm ▸ hinner.append (.mark hmark.2 ?_))
    rw [hclose]
    exact ih d hp

theorem crosses_top (h : Balanced (· ≠ sep) a) : Crosses sep .top a .top :=
  h.crosses 0 fun _ hc => Nesting.not_cuts_of_ne hc

theorem splitTop_eq (h : Balanced (· ≠ sep) a) : splitTop sep a = [a] := h.crosses_top.whole

-- Such a text can stand in a parenthesis. There the other brackets do not matter.
theorem enclosed (h : Balanced p a) : Enclosed a := by
  induction h with
  | nil => exact .nil
  | char hm _ _ ih =>
    obtain ⟨hq, ho, hc⟩ := isMark_eq_false_iff.1 hm
    simp only [isOpening, isClosing, Bool.or_eq_false_iff, decide_eq_false_iff_not] at ho hc
    exact .char (by simp [isLoose, hq, ho.1.1, hc.1.1]) ih
  | quoted hq _ ih => exact .quoted hq ih
  | bracketed ho _ _ ihin ih =>
    exact forall_bracketPairs (P := fun o c => Enclosed (o :: (_ ++ c :: _))) (.nested ihin ih)
      (.char (by decide) (ihin.append (.char (by decide) ih)))
      (.char (by decide) (ihin.append (.char (by decide) ih))) ho

theorem closing?_eq (h : Balanced p a) (r : Text) : closing? (a ++ ')' :: r) = some (a, r) :=
  h.enclosed.closing?_eq r

end Balanced

theorem Balanced.token {p : Char → Prop} {inside : Text} (hp : p '$')
    (h : Balanced (fun _ => True) inside) : Balanced p (token inside) :=
  .char (by decide) hp (.bracket (by decide) h)

theorem balanced_of_isBlankText {sep : Char} {b : Text} (hsep : Text.isBlank sep = false)
    (h : Text.isBlankText b = true) : Balanced (· ≠ sep) b :=
  .of_forall fun c hc => by
    have hb : Text.isBlank c = true := List.all_eq_true.1 h c hc
    refine ⟨isMark_eq_false_of (by decide) hb, ?_⟩
    rintro rfl
    rw [hb] at hsep
    cases hsep

theorem between?_eq_none {t : Text} (h : ∀ c ∈ t.head?, c ≠ '\'') (q : Text) :
    between? ('\'' :: q) t = none := by
  refine Option.eq_none_iff_forall_ne_some.2 fun a ha => h '\'' ?_ rfl
  rw [between?_eq_some_iff.1 ha]
  rfl

theorem unquote?_eq_none {t : Text} (h : ∀ c ∈ t.head?, c ≠ '\'') : unquote? t = none := by
  have hthree : between? "'''".toList t = none := between?_eq_none h ['\'', '\'']
  rw [unquote?, hthree, between?_eq_none h []]
  rfl

section Ends

variable {p q : Char → Prop} {a b : Text} {c d : Char}

-- The first and the last character of the text are of a kind.
structure Edged (p : Char → Prop) (t : Text) : Prop where
  first : ∀ c ∈ t.head?, p c
  last : ∀ c ∈ t.getLast?, p c

namespace Edged

theorem of_forall (h : ∀ c ∈ a, p c) : Edged p a :=
  ⟨fun c hc => h c (List.mem_of_mem_head? hc), fun c hc => h c (List.mem_of_mem_getLast? hc)⟩

theorem enclosed (hc : p c) {d : Char} (hd : p d) (a : Text) : Edged p (c :: (a ++ [d])) := by
  refine ⟨fun x hx => ?_, fun x hx => ?_⟩
  · cases hx
    exact hc
  · rw [← List.cons_append, List.getLast?_concat] at hx
    cases hx
    exact hd

theorem ne_iff : Edged (· ≠ c) a ↔ a.head? ≠ some c ∧ a.getLast? ≠ some c := by
  constructor
  · rintro ⟨hf, hl⟩
    exact ⟨fun h => hf c h rfl, fun h => hl c h rfl⟩
  · rintro ⟨hf, hl⟩
    exact ⟨fun d hd he => hf (he ▸ hd), fun d hd he => hl (he ▸ hd)⟩

theorem append (ha : Edged p a) (hb : Edged p b) : Edged p (a ++ b) := by
  refine ⟨fun c hc => ?_, fun c hc => ?_⟩
  · rw [List.head?_append] at hc
    rcases Option.or_eq_some_iff.1 hc with h | ⟨-, h⟩
    · exact ha.first c h
    · exact hb.first c h
  · rw [List.getLast?_append] at hc
    rcases Option.or_eq_some_iff.1 hc with h | ⟨-, h⟩
    · exact hb.last c h
    · exact ha.last c h

theorem mono {q : Char → Prop} (h : ∀ c, p c → q c) (ha : Edged p a) : Edged q a :=
  ⟨fun c hc => h c (ha.first c hc), fun c hc => h c (ha.last c hc)⟩

theorem around (ha : Edged p a) (hb : Edged p b) (hane : a ≠ []) (hbne : b ≠ []) (t : Text) :
    Edged p (a ++ (t ++ b)) := by
  refine ⟨fun c hc => ha.first c ?_, fun c hc => hb.last c ?_⟩
  · rwa [List.head?_append, List.head?_eq_some_head hane, Option.some_or,
      ← List.head?_eq_some_head hane] at hc
  · rwa [← List.append_assoc, List.getLast?_append, List.getLast?_eq_some_getLast hbne,
      Option.some_or, ← List.getLast?_eq_some_getLast hbne] at hc

theorem trim_eq (h : Edged (Text.isBlank · = false) a) : Text.trim a = a :=
  Text.trimBy_eq_self h.first h.last

-- The blanks around the text are trimmed.
theorem trim_append (h : Edged (Text.isBlank · = false) a) (hne : a ≠ []) {b g : Text}
    (hb : Text.isBlankText b = true) (hg : Text.isBlankText g = true) :
    Text.trim (b ++ (a ++ g)) = a := by
  have hfront : (b ++ (a ++ g)).dropWhile Text.isBlank = a ++ g := by
    rw [Text.dropWhile_isBlank_append hb]
    refine Text.dropWhile_eq_self fun c hc => h.first c ?_
    rwa [List.head?_append, List.head?_eq_some_head hne, Option.some_or,
      ← List.head?_eq_some_head hne] at hc
  rw [Text.trim_eq, hfront, Text.trimEnd_append hg, Text.trimEnd_eq_self h.last]

end Edged

end Ends

namespace PlainName

variable {name : Text}

theorem edged (h : PlainName name) : Edged (Text.isBlank · = false) name := by
  refine .of_forall fun c hc => ?_
  have hp := h.plain c hc
  rw [isPlain, Bool.and_eq_true, Bool.not_eq_true'] at hp
  exact hp.1

theorem balanced (h : PlainName name) {sep : Char} (hsep : isPlain sep = false) :
    Balanced (· ≠ sep) name :=
  .of_forall fun c hc =>
    ⟨isMark_eq_false_of (by decide) (h.plain c hc), fun he => h.not_mem hsep (he ▸ hc)⟩

end PlainName

end EdgeIncludes
