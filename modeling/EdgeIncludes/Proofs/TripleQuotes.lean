import EdgeIncludes.Proofs.Concatenation

namespace EdgeIncludes

def tripleMark : Text := ['\'', '\'', '\'']

def tripled (s : Text) : Text := tripleMark ++ (s ++ tripleMark)

-- The texts in three quotes each, as a sum.
def tripledSum (ss : List Text) : Text := Text.join " + ".toList (ss.map tripled)

-- A text that can be written in three quotes.
structure TripleText (s : Text) : Prop where
  mark : Text.contains tripleMark s = false
  reference : Text.contains opener s = false
  edged : Edged (· ≠ '\'') s

-- Between its three quotes each of the texts is scanned as if it stood inside of a quotation that
-- its own apostrophes end and start. None of them is cut, and in front of a plus sign of the sum
-- the scan comes back into the quotation.
def Kept : List Text → Prop
  | [] => True
  | [s] => splitFrom '+' ⟨true, 0⟩ s = [s]
  | s :: ss => Crosses '+' ⟨true, 0⟩ s ⟨true, 0⟩ ∧ Kept ss

section Scan

variable {n m : Nesting} {b s t : Text} {ss : List Text}

theorem tripledSum_cons_cons (s t : Text) (ss : List Text) :
    tripledSum (s :: t :: ss) = tripled s ++ (' ' :: '+' :: ' ' :: tripledSum (t :: ss)) := by
  simp [tripledSum, Text.join]

theorem after_tripleMark (n : Nesting) : n.after tripleMark = ⟨!n.quoted, n.depth⟩ := by
  obtain ⟨_ | _, d⟩ := n <;> rfl

theorem crosses_tripleMark : Crosses '+' n tripleMark m ↔ m = ⟨!n.quoted, n.depth⟩ := by
  have hmark : isMark '\'' = true := by decide
  constructor
  · rintro ⟨-, rfl⟩
    exact after_tripleMark n
  · rintro rfl
    rw [← after_tripleMark]
    exact .mark hmark (.mark hmark (.mark hmark (.nil _ _)))

-- Behind blanks and three quotes the scan is inside of a quotation.
theorem crosses_opening_iff (hb : Text.isBlankText b = true) :
    Crosses '+' .top (b ++ (tripleMark ++ t)) m ↔ Crosses '+' ⟨true, 0⟩ t m := by
  have hblank : Crosses '+' .top b .top := (balanced_of_isBlankText (by decide) hb).crosses_top
  have hopen : Crosses '+' .top tripleMark ⟨true, 0⟩ := crosses_tripleMark.2 rfl
  rw [Crosses.append_iff, hblank.ends, Crosses.append_iff, hopen.ends]
  exact (and_iff_right hblank).trans (and_iff_right hopen)

theorem whole_opening_iff (hb : Text.isBlankText b = true) :
    splitTop '+' (b ++ tripled s) = [b ++ tripled s] ↔ splitFrom '+' ⟨true, 0⟩ s = [s] := by
  have hblank : Crosses '+' .top b .top := (balanced_of_isBlankText (by decide) hb).crosses_top
  have hafter : Nesting.top.after (b ++ tripled s) =
      (Nesting.after ⟨true, 0⟩ s).after tripleMark := by
    rw [tripled, Nesting.after_append, hblank.ends,
      Nesting.after_append, after_tripleMark, Nesting.after_append]
    rfl
  have hclose := crosses_tripleMark.2 (after_tripleMark (Nesting.after ⟨true, 0⟩ s))
  rw [splitTop, ← Crosses.iff_whole, ← Crosses.iff_whole, hafter, tripled, crosses_opening_iff hb,
    Crosses.append_iff]
  exact and_iff_left hclose

-- Three quotes and a blank lead out of the quotation that the scan is in.
theorem crosses_closing_iff :
    Crosses '+' ⟨true, 0⟩ (s ++ (tripleMark ++ [' '])) .top ↔ Crosses '+' ⟨true, 0⟩ s ⟨true, 0⟩ := by
  have hblank : ∀ {n}, Crosses '+' n [' '] .top ↔ n = .top := by
    intro n
    have hn : n.next ' ' = n := Nesting.next_of_not_mark (by decide)
    refine ⟨fun h => hn.symm.trans h.ends, ?_⟩
    rintro rfl
    exact ⟨rfl, rfl⟩
  rw [Crosses.append_iff, Crosses.append_iff, crosses_tripleMark, hblank, after_tripleMark]
  constructor
  · rintro ⟨hs, -, hend⟩
    generalize Nesting.after ⟨true, 0⟩ s = n at hs hend
    obtain ⟨_ | _, d⟩ := n
    · cases hend
    · obtain rfl : d = 0 := (Nesting.mk.inj hend).2
      exact hs
  · rintro ⟨hs, hends⟩
    rw [hends]
    exact ⟨⟨hs, hends⟩, rfl, rfl⟩

-- The parts between the plus signs of a sum, with a text in front of the first.
def tripledParts : Text → List Text → List Text
  | _, [] => []
  | b, [s] => [b ++ tripled s]
  | b, s :: ss => (b ++ (tripled s ++ [' '])) :: tripledParts [' '] ss

theorem tripledParts_cons_cons (b s t : Text) (ss : List Text) :
    tripledParts b (s :: t :: ss) = (b ++ (tripled s ++ [' '])) :: tripledParts [' '] (t :: ss) :=
  rfl

-- A sum is cut at its own plus signs and nowhere else exactly when its texts are kept.
theorem splitTop_tripledSum_iff (hb : Text.isBlankText b = true) (hne : ss ≠ []) :
    splitTop '+' (b ++ tripledSum ss) = tripledParts b ss ↔ Kept ss := by
  induction ss generalizing b with
  | nil => exact absurd rfl hne
  | cons s ss ih =>
    cases ss with
    | nil => exact whole_opening_iff hb
    | cons t ss =>
      have htext : b ++ tripledSum (s :: t :: ss) =
          (b ++ (tripled s ++ [' '])) ++ '+' :: ([' '] ++ tripledSum (t :: ss)) := by
        rw [tripledSum_cons_cons]
        simp
      have hrest := ih (b := [' ']) rfl (List.cons_ne_nil _ _)
      have hkept : Kept (s :: t :: ss) ↔ Crosses '+' ⟨true, 0⟩ s ⟨true, 0⟩ ∧ Kept (t :: ss) := .rfl
      rw [tripledParts_cons_cons, hkept, htext, splitTop, splitFrom_eq_cons_iff (by decide), hrest,
        tripled, List.append_assoc, List.append_assoc, crosses_opening_iff hb, crosses_closing_iff]

end Scan

section Operand

variable {ctx : Context} {b g s t p : Text} {ss ps : List Text}

theorem between?_tripled (s : Text) : between? "'''".toList (tripled s) = some s :=
  between?_eq_some_iff.2 rfl

theorem edged_tripled (s : Text) : Edged (Text.isBlank · = false) (tripled s) := by
  have hs : tripled s = '\'' :: (("''".toList ++ (s ++ "''".toList)) ++ ['\'']) := by
    simp [tripled, tripleMark]
  rw [hs]
  exact .enclosed (by decide) (by decide) _

-- What a part of a sum comes to.
def partText (ctx : Context) (p : Text) : Text := ((Term.ofOperand (Text.trim p)).eval ctx).toText

theorem eval_ofOperands_eq (ctx : Context) (t : Text) :
    (Expr.ofOperands t).eval ctx = .text ((splitTop '+' t).flatMap (partText ctx)) := by
  rw [Expr.ofOperands, Expr.eval, List.flatMap_map]
  rfl

theorem partText_of_trim (ctx : Context) (h : Text.trim p = tripled s) : partText ctx p = s := by
  rw [partText, h, Term.ofOperand, unquote?, between?_tripled]
  rfl

theorem partText_tripled (ctx : Context) (hb : Text.isBlankText b = true)
    (hg : Text.isBlankText g = true) (s : Text) : partText ctx (b ++ (tripled s ++ g)) = s :=
  partText_of_trim ctx ((edged_tripled s).trim_append (by simp [tripled, tripleMark]) hb hg)

-- Where a sum is cut at its own plus signs the parts come to its texts.
theorem flatMap_tripledParts (ctx : Context) (hb : Text.isBlankText b = true) (ss : List Text) :
    (tripledParts b ss).flatMap (partText ctx) = ss.flatten := by
  induction ss generalizing b with
  | nil => rfl
  | cons s ss ih =>
    cases ss with
    | nil =>
      have hs := partText_tripled ctx hb (g := []) rfl s
      rw [List.append_nil] at hs
      simp [tripledParts, hs]
    | cons t ss =>
      rw [tripledParts_cons_cons, List.flatMap_cons, partText_tripled ctx hb rfl, ih rfl]
      rfl

-- A sum as a whole stands in three quotes.
theorem exists_tripled (hne : ss ≠ []) : ∃ t, tripledSum ss = tripled t := by
  induction ss with
  | nil => exact absurd rfl hne
  | cons s ss ih =>
    cases ss with
    | nil => exact ⟨s, rfl⟩
    | cons u ss =>
      obtain ⟨t, ht⟩ := ih (List.cons_ne_nil _ _)
      refine ⟨s ++ (tripleMark ++ (" + ".toList ++ (tripleMark ++ t))), ?_⟩
      rw [tripledSum_cons_cons, ht]
      simp [tripled]

theorem contains_opener_tripled (hs : Text.contains opener s = false) :
    Text.contains opener (tripled s) = false := by
  have hfront : Text.contains opener (tripled s) = Text.contains opener (s ++ tripleMark) :=
    Text.contains_append (by decide)
  have hquote : '\'' ∉ opener := by decide
  have hback : Text.contains opener (s ++ tripleMark) = _ := Text.contains_append_cons hquote
  rw [hfront, hback, hs]
  rfl

theorem contains_opener_tripledSum (h : ∀ s ∈ ss, Text.contains opener s = false) :
    Text.contains opener (tripledSum ss) = false := by
  induction ss with
  | nil => rfl
  | cons s ss ih =>
    have hs := contains_opener_tripled (h s (List.mem_cons_self ..))
    cases ss with
    | nil => exact hs
    | cons t ss =>
      have hblank : ' ' ∉ opener ∧ '+' ∉ opener := by decide
      have hrest := ih fun x hx => h x (List.mem_cons_of_mem _ hx)
      have hplus : Text.contains opener ([] ++ '+' :: ' ' :: tripledSum (t :: ss)) = false := by
        have hlead : Text.contains opener ([' '] ++ tripledSum (t :: ss)) = _ :=
          Text.contains_append (by decide)
        rw [Text.contains_append_cons hblank.2]
        exact Bool.or_eq_false_iff.2 ⟨rfl, hlead.trans hrest⟩
      rw [tripledSum_cons_cons, Text.contains_append_cons hblank.1, hs]
      exact hplus

-- A sum in an assignment comes to what its parts come to, even where it is one part.
theorem eval_ofAssignment_tripledSum (ctx : Context) (hne : ss ≠ [])
    (h : ∀ s ∈ ss, Text.contains opener s = false) :
    (Expr.ofAssignment (tripledSum ss)).eval ctx =
      .text ((splitTop '+' (tripledSum ss)).flatMap (partText ctx)) := by
  obtain ⟨t, ht⟩ := exists_tripled hne
  have hopener := contains_opener_tripledSum h
  rw [ht] at hopener ⊢
  rw [Expr.ofAssignment, (edged_tripled t).trim_eq]
  split
  · exact eval_ofOperands_eq ctx _
  · rename_i hlength
    have hone : splitTop '+' (tripled t) = [tripled t] := by
      obtain ⟨p, ps, hp⟩ := List.exists_cons_of_ne_nil (splitFrom_ne_nil '+' .top (tripled t))
      have hjoin := join_splitTop '+' (tripled t)
      rw [splitTop, hp] at hlength hjoin ⊢
      rw [List.length_cons] at hlength
      obtain rfl : ps = [] := List.eq_nil_of_length_eq_zero (by omega)
      exact congrArg (· :: []) hjoin
    have hpart : partText ctx (tripled t) = t := partText_of_trim ctx (edged_tripled t).trim_eq
    rw [hopener, between?_tripled, hone, List.flatMap_singleton, hpart]
    rfl

end Operand

end EdgeIncludes
