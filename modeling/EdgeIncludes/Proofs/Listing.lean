import EdgeIncludes.Literal
import EdgeIncludes.Proofs.Balance
import EdgeIncludes.Proofs.Grammar

namespace EdgeIncludes

-- A text in single quotes.
def quotation (a : Text) : Text := '\'' :: (a ++ ['\''])

-- No reference opens in the text, nor across its end.
def Unopened (a : Text) : Prop := ∀ t, Text.contains opener (a ++ t) = Text.contains opener t

namespace Unopened

variable {a b : Text}

theorem contains_eq (h : Unopened a) : Text.contains opener a = false := by
  have ha := h []
  rw [List.append_nil] at ha
  exact ha.trans rfl

theorem of_not_mem (h : '$' ∉ a) : Unopened a := fun _ => Text.contains_append h

theorem append (ha : Unopened a) (hb : Unopened b) : Unopened (a ++ b) := fun t => by
  rw [List.append_assoc, ha, hb]

theorem quotation (h : Text.contains opener a = false) : Unopened (quotation a) := fun t => by
  have hquote : '\'' ∉ opener := by decide
  have hfront : Text.contains opener ('\'' :: (a ++ '\'' :: t)) = _ :=
    Text.contains_append (c := '$') (a := ['\'']) (by decide)
  have htext : EdgeIncludes.quotation a ++ t = '\'' :: (a ++ '\'' :: t) := by
    simp [EdgeIncludes.quotation]
  rw [htext, hfront]
  exact (Text.contains_append_cons hquote).trans (by rw [h, Bool.false_or])

end Unopened

namespace Literal

open Text (IsGapText)

section Readers

variable {α : Type} {reader : Text → Option (α × Text)} {t u r a g h : Text} {c mark : Char}

-- What a reader leaves is an end of the text.
def LeavesEnd (reader : Text → Option (α × Text)) : Prop :=
  ∀ t a r, reader t = some (a, r) → r <:+ t

theorem mark?_append (hg : IsGapText g) (hh : IsGapText h) (hc : Text.isGap c = false)
    (hr : ∀ x ∈ r.head?, Text.isGap x = false) : mark? c (g ++ c :: (h ++ r)) = some r := by
  have hmark : Text.after? [c] (c :: (h ++ r)) = some (h ++ r) := Text.after?_append [c] _
  rw [mark?, Text.skipGap_append hg (by rintro x ⟨⟩; exact hc), hmark, Option.map_some,
    Text.skipGap_append hh hr]

theorem mark?_eq_none (hgap : Text.isGap c = false) (hne : mark ≠ c) (r : Text) :
    mark? mark (c :: r) = none := by
  rw [mark?, Text.skipGap_eq_self (by rintro x ⟨⟩; exact hgap), Text.after?, if_neg hne]
  rfl

theorem suffix_of_mark? (hm : mark? c t = some r) : r <:+ t ∧ r.length < t.length := by
  obtain ⟨u, hu, rfl⟩ := Option.map_eq_some_iff.1 hm
  have hskip := Text.skipGap_suffix u
  have hstart := Text.after?_eq_some_iff.1 hu
  refine ⟨hskip.trans ((Text.suffix_of_after? hu).trans (Text.skipGap_suffix t)), ?_⟩
  have hle := Text.length_skipGap_le t
  have hlength := hskip.length_le
  rw [hstart, List.length_append, List.length_singleton] at hle
  omega

theorem quoted?_leavesEnd : LeavesEnd quoted? := by
  intro t a r hq
  have hend : ∀ q, (Text.after? q t).bind (Text.cut? q) = some (a, r) → r <:+ t := by
    intro q h
    obtain ⟨u, hu, hcut⟩ := Option.bind_eq_some_iff.1 h
    rw [Text.cut?_eq_append hcut] at hu
    exact (List.suffix_append _ r).trans (Text.suffix_of_after? hu)
  rcases Option.or_eq_some_iff.1 hq with h | ⟨-, h⟩
  · exact hend _ h
  · exact hend _ h

theorem item?_leavesEnd (close : Char) : LeavesEnd (item? close) := by
  intro t a r hi
  rcases Option.or_eq_some_iff.1 hi with h | ⟨-, h⟩
  · exact quoted?_leavesEnd t a r h
  · unfold word? at h
    split at h
    · cases h
    · rename_i hspan
      cases h
      have hr : r = t.dropWhile (fun c => c ≠ ',' && c ≠ close) := (congrArg Prod.snd hspan).symm
      exact hr ▸ List.dropWhile_suffix _

theorem entry?_leavesEnd : LeavesEnd entry? := by
  intro t e r he
  unfold entry? at he
  simp only [Option.bind_eq_bind, Option.bind_eq_some_iff, Option.pure_def, Prod.exists] at he
  obtain ⟨key, t₁, h₁, t₂, h₂, value, t₃, h₃, hp⟩ := he
  cases hp
  exact (item?_leavesEnd _ _ _ _ h₃).trans
    ((suffix_of_mark? h₂).1.trans (quoted?_leavesEnd _ _ _ h₁))

theorem moreItems_suffix (hread : LeavesEnd reader) (t : Text) : (moreItems reader t).2 <:+ t := by
  fun_induction moreItems reader t with
  | case1 t => exact List.suffix_rfl
  | case2 t a r h hlt as r' he ih =>
    obtain ⟨u, hu, hr⟩ := Option.bind_eq_some_iff.1 h
    rw [he] at ih
    exact ih.trans ((hread _ _ _ hr).trans (suffix_of_mark? hu).1)
  | case3 t => exact List.suffix_rfl

theorem items_suffix (hread : LeavesEnd reader) (t : Text) : (items reader t).2 <:+ t := by
  unfold items
  split
  · exact List.suffix_rfl
  · rename_i h
    exact (moreItems_suffix hread _).trans (hread _ _ _ h)

theorem bracketed?_leavesEnd {opening close : Char} (hread : LeavesEnd reader) :
    LeavesEnd (bracketed? opening close reader) := by
  intro t as r hb
  simp only [bracketed?, Option.bind_eq_bind, Option.bind_eq_some_iff, Option.pure_def] at hb
  obtain ⟨u, hu, v, hv, he⟩ := hb
  cases he
  exact (Text.suffix_of_after? hv).trans ((Text.skipGap_suffix _).trans
    ((items_suffix hread _).trans ((Text.skipGap_suffix u).trans (Text.suffix_of_after? hu))))

-- Behind a comma the items are read as if the first of them stood there.
theorem moreItems_of_mark? (hread : LeavesEnd reader) (hm : mark? ',' t = some u)
    (hu : (reader u).isSome) : moreItems reader t = items reader u := by
  obtain ⟨⟨a, r⟩, hu⟩ := Option.isSome_iff_exists.1 hu
  have hlt : r.length < t.length :=
    Nat.lt_of_le_of_lt (hread _ _ _ hu).length_le (suffix_of_mark? hm).2
  rw [moreItems, hm, Option.bind_some, hu, items, hu]
  simp only [hlt, if_true]

theorem moreItems_of_mark?_eq_none (hm : mark? ',' t = none) : moreItems reader t = ([], t) := by
  rw [moreItems, hm]
  rfl

end Readers

-- Items one after the other, with commas between them and gaps around the commas.
inductive Listed {α : Type} (print : α → Text) : List α → Text → Prop where
  | nil : Listed print [] []
  | single (a : α) : Listed print [a] (print a)
  | cons {a b : α} {as : List α} {g h t : Text} :
    IsGapText g → IsGapText h → Listed print (b :: as) t →
    Listed print (a :: b :: as) (print a ++ (g ++ ',' :: (h ++ t)))

-- The item is written from a quotation mark on, and is read back in front of all but another one.
structure Readable {α : Type} (reader : Text → Option (α × Text)) (print : α → Text) (a : α) :
    Prop where
  first : (print a).head? = some '\''
  read (r : Text) : r.head? ≠ some '\'' → reader (print a ++ r) = some (a, r)

theorem closing_of_bracketPairs {o c : Char} (h : (o, c) ∈ bracketPairs) :
    Text.isGap c = false ∧ ',' ≠ c ∧ c ≠ '\'' :=
  forall_bracketPairs (P := fun _ c => Text.isGap c = false ∧ ',' ≠ c ∧ c ≠ '\'') (by decide)
    (by decide) (by decide) h

section Lists

variable {α : Type} {reader : Text → Option (α × Text)} {print : α → Text} {as : List α} {s : Text}

namespace Listed

-- Commas alone will do.
theorem join (print : α → Text) (as : List α) :
    Listed print as (Text.join [','] (as.map print)) := by
  induction as with
  | nil => exact .nil
  | cons a as ih =>
    cases as with
    | nil => exact .single a
    | cons b as =>
      have h := Listed.cons (a := a) (g := []) (h := []) nofun nofun ih
      simpa [Text.join] using h

theorem head?_append (h : Listed print as s) (has : ∀ a ∈ as, (print a).head? = some '\'')
    (hne : as ≠ []) (r : Text) : (s ++ r).head? = some '\'' := by
  have hfirst : ∀ {a : α} {t : Text}, (print a).head? = some '\'' →
      (print a ++ t).head? = some '\'' := fun ha => by rw [List.head?_append, ha, Option.some_or]
  cases h with
  | nil => exact absurd rfl hne
  | single a => exact hfirst (has a (List.mem_cons_self ..))
  | cons _ _ _ =>
    rw [List.append_assoc]
    exact hfirst (has _ (List.mem_cons_self ..))

-- The items are read up to the closing bracket.
theorem items_eq (hread : LeavesEnd reader) (h : Listed print as s)
    (has : ∀ a ∈ as, Readable reader print a) {o c : Char} (ho : (o, c) ∈ bracketPairs) {r : Text}
    (hend : reader (c :: r) = none) : items reader (s ++ c :: r) = (as, c :: r) := by
  obtain ⟨hgap, hcomma, hquote⟩ := closing_of_bracketPairs ho
  induction h with
  | nil => rw [List.nil_append, items, hend]
  | single a =>
    have ha := (has a (List.mem_cons_self ..)).read (c :: r) (by simpa using hquote)
    rw [items, ha]
    simp only [moreItems_of_mark?_eq_none (mark?_eq_none hgap hcomma r)]
  | @cons a b as g h t hg hh hlisted ih =>
    obtain ⟨ha, has⟩ := List.forall_mem_cons.1 has
    have hrest := ih has
    have hfirst : (t ++ c :: r).head? = some '\'' :=
      hlisted.head?_append (fun x hx => (has x hx).first) (List.cons_ne_nil b as) _
    have hmark : mark? ',' (g ++ ',' :: (h ++ (t ++ c :: r))) = some (t ++ c :: r) :=
      mark?_append hg hh (by decide) (by rw [hfirst]; rintro x ⟨⟩; decide)
    -- An item is read behind the comma, or none of the rest would be.
    have hsome : (reader (t ++ c :: r)).isSome := by
      cases hb : reader (t ++ c :: r) with
      | none =>
        rw [items, hb] at hrest
        cases hrest
      | some p => rfl
    have hbehind : (g ++ ',' :: (h ++ (t ++ c :: r))).head? ≠ some '\'' := by
      cases g with
      | nil => simp
      | cons x g =>
        rintro ⟨⟩
        exact absurd (hg '\'' (List.mem_cons_self ..)) (by decide)
    rw [List.append_assoc, List.append_assoc, List.cons_append, List.append_assoc, items,
      ha.read _ hbehind]
    simp only [moreItems_of_mark? hread hmark hsome, hrest]

theorem bracketed?_eq (hread : LeavesEnd reader) (h : Listed print as s)
    (has : ∀ a ∈ as, Readable reader print a) {o c : Char} (ho : (o, c) ∈ bracketPairs)
    (hend : reader [c] = none) : bracketed? o c reader (o :: (s ++ [c])) = some (as, []) := by
  have hgap := (closing_of_bracketPairs ho).1
  have hopen : Text.after? [o] (o :: (s ++ [c])) = some (s ++ [c]) := Text.after?_append [o] _
  have hclose : Text.after? [c] [c] = some [] := Text.after?_append [c] []
  have hstart : Text.skipGap (s ++ [c]) = s ++ [c] := by
    refine Text.skipGap_eq_self ?_
    cases as with
    | nil =>
      cases h
      rintro x ⟨⟩
      exact hgap
    | cons a as =>
      rw [h.head?_append (fun x hx => (has x hx).first) (List.cons_ne_nil a as)]
      rintro x ⟨⟩
      decide
  have hskip : Text.skipGap [c] = [c] := Text.skipGap_eq_self (by rintro x ⟨⟩; exact hgap)
  simp only [bracketed?, Option.bind_eq_bind, hopen, Option.bind_some, hstart,
    h.items_eq hread has ho hend, hskip, hclose]
  rfl

theorem balanced {p : Char → Prop} (hp : ∀ c, c = ',' ∨ Text.isGap c = true → p c)
    (h : Listed print as s) (has : ∀ a ∈ as, Balanced p (print a)) : Balanced p s := by
  have hgaps : ∀ {g : Text}, IsGapText g → Balanced p g := fun hg => .of_forall fun c hc =>
    ⟨isMark_eq_false_of (by decide) (hg c hc), hp c (.inr (hg c hc))⟩
  induction h with
  | nil => exact .nil
  | single a => exact has a (List.mem_cons_self ..)
  | cons hg hh _ ih =>
    obtain ⟨ha, has⟩ := List.forall_mem_cons.1 has
    exact ha.append ((hgaps hg).append
      (.char (by decide) (hp _ (.inl rfl)) ((hgaps hh).append (ih has))))

theorem unopened (h : Listed print as s) (has : ∀ a ∈ as, Unopened (print a)) : Unopened s := by
  have hgaps : ∀ {g : Text}, IsGapText g → Unopened g := fun hg =>
    .of_not_mem fun hm => absurd (hg '$' hm) (by decide)
  induction h with
  | nil => exact fun t => rfl
  | single a => exact has a (List.mem_cons_self ..)
  | @cons a b as g h t hg hh _ ih =>
    obtain ⟨ha, has⟩ := List.forall_mem_cons.1 has
    have hcomma : Unopened [','] := .of_not_mem (by decide)
    exact ha.append ((hgaps hg).append (hcomma.append ((hgaps hh).append (ih has))))

end Listed
end Lists

section Quotations

variable {a r : Text} {e : Text × Text}

theorem quoted?_quotation (ha : '\'' ∉ a) (hr : r.head? ≠ some '\'') :
    quoted? (quotation a ++ r) = some (a, r) := by
  have htext : quotation a ++ r = '\'' :: (a ++ '\'' :: r) := by simp [quotation]
  have hthree : Text.after? "'''".toList (quotation a ++ r) = none := by
    refine Option.eq_none_iff_forall_ne_some.2 fun u hu => ?_
    rw [htext, Text.after?_eq_some_iff] at hu
    cases a with
    | nil =>
      obtain rfl : r = '\'' :: u := (List.cons.inj (List.cons.inj hu).2).2
      exact hr rfl
    | cons c a =>
      obtain rfl : c = '\'' := (List.cons.inj (List.cons.inj hu).2).1
      exact ha (List.mem_cons_self ..)
  have hone : Text.after? ['\''] (quotation a ++ r) = some (a ++ '\'' :: r) := by
    rw [htext]
    exact Text.after?_append ['\''] _
  have hcut : Text.cut? ['\''] (a ++ '\'' :: r) = some (a, r) := Text.cut?_append ha
  rw [quoted?]
  simp only [hthree, hone, Option.bind_none, Option.bind_some, Option.none_or, hcut]

theorem readable_item (close : Char) (ha : '\'' ∉ a) : Readable (item? close) quotation a where
  first := rfl
  read r hr := by rw [item?, quoted?_quotation ha hr, Option.some_or]

theorem entryText_eq (e : Text × Text) :
    Value.entryText e = quotation e.1 ++ ':' :: quotation e.2 := by
  simp [Value.entryText, quotation]

theorem readable_entry (hkey : '\'' ∉ e.1) (hvalue : '\'' ∉ e.2) :
    Readable entry? Value.entryText e where
  first := rfl
  read r hr := by
    have hcolon : mark? ':' (':' :: (quotation e.2 ++ r)) = some (quotation e.2 ++ r) :=
      mark?_append (g := []) (h := []) nofun nofun (by decide) (by rintro x ⟨⟩; decide)
    rw [entryText_eq, List.append_assoc, List.cons_append, entry?, quoted?_quotation hkey (by simp)]
    simp only [Option.bind_eq_bind, Option.bind_some, hcolon,
      (readable_item '\x7d' hvalue).read r hr]
    rfl

theorem balanced_entryText {p : Char → Prop} (hcolon : p ':') (hkey : '\'' ∉ e.1)
    (hvalue : '\'' ∉ e.2) : Balanced p (Value.entryText e) := by
  rw [entryText_eq]
  exact (Balanced.quotation hkey).append (.char (by decide) hcolon (.quotation hvalue))

theorem unopened_entryText (hkey : Text.contains opener e.1 = false)
    (hvalue : Text.contains opener e.2 = false) : Unopened (Value.entryText e) := by
  have hcolon : Unopened [':'] := .of_not_mem (by decide)
  rw [entryText_eq]
  exact (Unopened.quotation hkey).append (hcolon.append (.quotation hvalue))

end Quotations

end Literal

end EdgeIncludes
