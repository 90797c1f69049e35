import EdgeIncludes.Proofs.TripleQuotes
import Mathlib.Algebra.Order.BigOperators.Group.List
import Mathlib.Algebra.Order.Ring.Int

namespace EdgeIncludes

theorem plus_not_mem_digits (n : Nat) : '+' ∉ Number.digits n := by
  intro h
  have hd := Nat.isDigit_of_mem_toDigits (by decide) (by decide) h
  exact absurd hd (by decide)

theorem plus_not_mem_positional (n : Nat) (p : Int) : '+' ∉ Number.positional n p := by
  have hzeros : ∀ k, '+' ∉ List.replicate k '0' := fun k h =>
    absurd (List.eq_of_mem_replicate h) (by decide)
  unfold Number.positional
  split
  · rw [List.mem_append, not_or]
    exact ⟨plus_not_mem_digits n, hzeros _⟩
  · have hds : ∀ k, '+' ∉ List.replicate k '0' ++ Number.digits n := fun k => by
      rw [List.mem_append, not_or]
      exact ⟨hzeros k, plus_not_mem_digits n⟩
    rw [List.mem_append, List.mem_cons, not_or, not_or]
    exact ⟨fun h => hds _ (List.mem_of_mem_take h), by decide,
      fun h => hds _ (List.mem_of_mem_drop h)⟩

-- No number is written with a plus sign.
theorem plus_not_mem_numberText (x : Number) : '+' ∉ Value.numberText x := by
  have hsign : ∀ b, '+' ∉ Number.signText b := by decide
  unfold Value.numberText
  split
  · decide
  · cases x with
    | finite negative m e =>
      rw [Number.text, Number.magnitudeText, List.mem_append, not_or]
      refine ⟨hsign negative, ?_⟩
      split
      · decide
      · exact plus_not_mem_positional _ _
    | infinite negative => cases negative <;> decide
    | notANumber _ => rw [Number.text]; decide

section Surplus

variable {ctx : Context} {a b t s : Text} {ss ps : List Text}

-- An apostrophe counts for one, and a plus sign takes six away.
def surplus (t : Text) : Int := t.count '\'' - 6 * t.count '+'

theorem surplus_append (a b : Text) : surplus (a ++ b) = surplus a + surplus b := by
  simp only [surplus, List.count_append]
  omega

theorem surplus_flatMap (f : Text → Text) (ps : List Text) :
    surplus (ps.flatMap f) = (ps.map fun p => surplus (f p)).sum := by
  induction ps with
  | nil => rfl
  | cons p ps ih => rw [List.flatMap_cons, surplus_append, ih, List.map_cons, List.sum_cons]

theorem surplus_of_isBlankText (h : Text.isBlankText b = true) : surplus b = 0 := by
  have hnot : ∀ c, Text.isBlank c = false → c ∉ b := fun c hc hm => by
    rw [List.all_eq_true.1 h c hm] at hc
    cases hc
  rw [surplus, List.count_eq_zero.2 (hnot _ (by decide)), List.count_eq_zero.2 (hnot _ (by decide))]
  rfl

theorem surplus_trim (t : Text) : surplus (Text.trim t) = surplus t := by
  obtain ⟨b, g, hb, hg, ht⟩ := Text.exists_trim t
  have hs := congrArg surplus ht
  rw [surplus_append, surplus_append, surplus_of_isBlankText hb, surplus_of_isBlankText hg] at hs
  omega

theorem surplus_tripled (s : Text) : surplus (tripled s) = surplus s + 6 := by
  have hmark : surplus tripleMark = 3 := by decide
  rw [tripled, surplus_append, surplus_append, hmark]
  omega

-- A plus sign takes away what three quotes around a text add, and there is one text more.
theorem surplus_join (hne : ps ≠ []) :
    surplus (Text.join ['+'] ps) = (ps.map fun p => surplus p - 6).sum + 6 := by
  induction ps with
  | nil => exact absurd rfl hne
  | cons p ps ih =>
    cases ps with
    | nil => simp [Text.join]
    | cons q qs =>
      have hplus : surplus ['+'] = -6 := by decide
      have hjoin : Text.join ['+'] (p :: q :: qs) = p ++ ['+'] ++ Text.join ['+'] (q :: qs) := rfl
      rw [hjoin, surplus_append, surplus_append, hplus, ih (List.cons_ne_nil _ _)]
      simp only [List.map_cons, List.sum_cons]
      omega

theorem surplus_tripledSum (hne : ss ≠ []) :
    surplus (tripledSum ss) = surplus ss.flatten + 6 := by
  induction ss with
  | nil => exact absurd rfl hne
  | cons s ss ih =>
    cases ss with
    | nil =>
      rw [List.flatten_singleton]
      exact surplus_tripled s
    | cons t ss =>
      have hplus : surplus [' ', '+', ' '] = -6 := by decide
      have hsum : tripledSum (s :: t :: ss) =
          tripled s ++ ([' ', '+', ' '] ++ tripledSum (t :: ss)) := tripledSum_cons_cons ..
      rw [hsum, surplus_append, surplus_append, surplus_tripled, hplus, ih (List.cons_ne_nil _ _)]
      simp only [List.flatten_cons, surplus_append]
      omega

-- A number has no apostrophes, and is written without a plus sign.
theorem surplus_number {x : Number} (h : Literal.number? t = some x) :
    surplus t ≤ 0 ∧ 0 ≤ surplus (Value.numberText x) := by
  refine ⟨?_, ?_⟩
  · rw [Literal.number?] at h
    split at h
    · rename_i hall
      have hq : '\'' ∉ Text.trim t := fun hm => absurd (List.all_eq_true.1 hall _ hm) (by decide)
      rw [← surplus_trim, surplus, List.count_eq_zero.2 hq]
      omega
    · cases h
  · rw [surplus, List.count_eq_zero.2 (plus_not_mem_numberText x)]
    omega

-- An operand without references loses six apostrophes at most, and six only when it stands in three
-- quotes. What it comes to has no plus sign that it has not.
theorem operand_cases (ctx : Context) (h : Text.contains opener t = false) :
    t = tripled ((Term.ofOperand t).eval ctx).toText ∨
      surplus t - 6 < surplus ((Term.ofOperand t).eval ctx).toText := by
  rw [Term.ofOperand]
  rcases hu : unquote? t with _ | inner
  · -- It is a word: a truth value, a number or itself.
    refine .inr ?_
    dsimp only
    rw [h, if_neg Bool.false_ne_true, Term.ofWord, Literal.simple?, hu]
    dsimp only
    split
    · rename_i ht
      rw [ht]
      exact (by decide : surplus "true".toList - 6 < surplus "true".toList)
    · split
      · rename_i ht
        rw [ht]
        exact (by decide : surplus "false".toList - 6 < surplus "false".toList)
      · rcases hn : Literal.number? t with _ | x
        · change surplus t - 6 < surplus t
          omega
        · obtain ⟨ht, hx⟩ := surplus_number hn
          change surplus t - 6 < surplus (Value.numberText x)
          omega
  · change t = tripled inner ∨ surplus t - 6 < surplus inner
    rw [unquote?, Option.or_eq_some_iff, between?_eq_some_iff, between?_eq_some_iff] at hu
    rcases hu with ht | ⟨-, ht⟩
    · exact .inl ht
    · have hquote : surplus ['\''] = 1 := by decide
      refine .inr ?_
      rw [ht, surplus_append, surplus_append, hquote]
      omega

end Surplus

section Alignment

variable {ctx : Context} {a b r s t v V S X Y : Text} {ss ps : List Text}

-- The parts of a text without references have none.
theorem contains_opener_part (h : Text.contains opener (Text.join ['+'] ps) = false) :
    ∀ p ∈ ps, Text.contains opener p = false := by
  induction ps with
  | nil => exact fun p hp => nomatch hp
  | cons p ps ih =>
    cases ps with
    | nil => simpa [Text.join] using h
    | cons q qs =>
      have hplus : '+' ∉ opener := by decide
      have hjoin : Text.join ['+'] (p :: q :: qs) = p ++ '+' :: Text.join ['+'] (q :: qs) := by
        simp [Text.join]
      rw [hjoin, Text.contains_append_cons hplus, Bool.or_eq_false_iff] at h
      exact List.forall_mem_cons.2 ⟨h.1, ih h.2⟩

-- When the parts lose three quotes each all of them stand in three quotes.
theorem trim_eq_tripled (h : ∀ p ∈ ps, Text.contains opener p = false)
    (hsum : (ps.map fun p => surplus p - 6).sum =
      (ps.map fun p => surplus (partText ctx p)).sum) :
    ∀ p ∈ ps, Text.trim p = tripled (partText ctx p) := by
  have hpart : ∀ p ∈ ps, Text.trim p = tripled (partText ctx p) ∨
      surplus p - 6 < surplus (partText ctx p) := by
    intro p hp
    obtain ⟨b, g, -, -, ht⟩ := Text.exists_trim p
    have hinfix : Text.trim p <:+: p := ⟨b, g, by rw [List.append_assoc]; exact ht.symm⟩
    have htrim : Text.contains opener (Text.trim p) = false := by
      refine Bool.eq_false_iff.2 fun hc => Bool.eq_false_iff.1 (h p hp) ?_
      exact Text.contains_iff.2 ((Text.contains_iff.1 hc).trans hinfix)
    have hcases := operand_cases ctx htrim
    rwa [surplus_trim] at hcases
  by_contra hnot
  push Not at hnot
  obtain ⟨p, hp, hne⟩ := hnot
  have hle : ∀ q ∈ ps, surplus q - 6 ≤ surplus (partText ctx q) := by
    intro q hq
    rcases hpart q hq with hq | hq
    · have hs := congrArg surplus hq
      rw [surplus_trim, surplus_tripled] at hs
      omega
    · exact hq.le
  have hlt := List.sum_lt_sum _ _ hle ⟨p, hp, (hpart p hp).resolve_left hne⟩
  exact absurd hsum hlt.ne

-- Two texts begin with the same characters of a kind when others stand behind these.
theorem eq_of_forall_append {q : Char → Bool} {c d : Char} (ha : ∀ x ∈ a, q x = true)
    (hb : ∀ x ∈ b, q x = true) (hc : q c = false) (hd : q d = false)
    (h : a ++ c :: s = b ++ d :: t) : a = b ∧ c :: s = d :: t := by
  have hfront : a = b := by
    have hw := congrArg (List.takeWhile q) h
    rwa [List.takeWhile_append_of_pos ha, List.takeWhile_append_of_pos hb,
      List.takeWhile_cons_of_neg (by rw [hc]; exact Bool.false_ne_true),
      List.takeWhile_cons_of_neg (by rw [hd]; exact Bool.false_ne_true), List.append_nil,
      List.append_nil] at hw
  subst hfront
  exact ⟨rfl, List.append_cancel_left h⟩

theorem edged_flatten {p : Char → Prop} (h : ∀ s ∈ ss, Edged p s) : Edged p ss.flatten := by
  induction ss with
  | nil => exact .of_forall fun c hc => nomatch hc
  | cons s ss ih =>
    obtain ⟨hs, hss⟩ := List.forall_mem_cons.1 h
    exact hs.append (ih hss)

-- The first three quotes behind a text end it. The quotes that end a shorter text would reach into
-- this one, and a longer text would go on with a quote.
theorem tripled_inj (hs : TripleText s) (hS : Edged (· ≠ '\'') S)
    (h : tripled v ++ X = tripled s ++ Y) (hflat : v ++ V = s ++ S) : v = s ∧ X = Y := by
  have hopen : v ++ (tripleMark ++ X) = s ++ (tripleMark ++ Y) := by
    simpa [tripled] using h
  have hvs : v = s := by
    rcases List.append_eq_append_iff.1 hopen with ⟨c, rfl, hc⟩ | ⟨c, rfl, hc⟩
    · rcases c with _ | ⟨x, _ | ⟨y, _ | ⟨z, c⟩⟩⟩
      · exact (List.append_nil _).symm
      · obtain rfl : '\'' = x := (List.cons.inj hc).1
        exact absurd rfl (hs.edged.last '\'' (by simp))
      · obtain rfl : '\'' = y := (List.cons.inj (List.cons.inj hc).2).1
        exact absurd rfl (hs.edged.last '\'' (by simp))
      · have hm : tripleMark = [x, y, z] := congrArg (List.take 3) hc
        have hinfix : tripleMark <:+: v ++ x :: y :: z :: c := ⟨v, c, by rw [hm]; simp⟩
        exact absurd (Text.contains_iff.2 hinfix) (Bool.eq_false_iff.1 hs.mark)
    · cases c with
      | nil => exact List.append_nil _
      | cons x c =>
        obtain rfl : '\'' = x := (List.cons.inj hc).1
        rw [List.append_assoc] at hflat
        have hhead := List.append_cancel_left hflat
        exact absurd rfl (hS.first '\'' (by rw [← hhead]; rfl))
  subst hvs
  exact ⟨rfl, List.append_cancel_left (List.append_cancel_left hopen)⟩

-- A part in three quotes at the start of a sum is the first one of the sum, up to the blanks behind
-- it.
theorem part_eq (hb : Text.isBlankText b = true) (hs : TripleText s) (hS : Edged (· ≠ '\'') S)
    (hp : Text.trim r = tripled v) (h : r ++ X = b ++ (tripled s ++ Y)) (hflat : v ++ V = s ++ S) :
    v = s ∧ V = S ∧ ∃ g, Text.isBlankText g = true ∧ r = b ++ (tripled s ++ g) ∧ g ++ X = Y := by
  obtain ⟨b', g, hb', hg, hr⟩ := Text.exists_trim r
  rw [hp] at hr
  have hstart : b' ++ '\'' :: ('\'' :: '\'' :: (v ++ (tripleMark ++ (g ++ X)))) =
      b ++ '\'' :: ('\'' :: '\'' :: (s ++ (tripleMark ++ Y))) := by
    rw [hr] at h
    simpa [tripled, tripleMark] using h
  obtain ⟨rfl, hrest⟩ := eq_of_forall_append (List.all_eq_true.1 hb') (List.all_eq_true.1 hb)
    (by decide) (by decide) hstart
  have htripled : tripled v ++ (g ++ X) = tripled s ++ Y := by
    simpa [tripled, tripleMark] using hrest
  obtain ⟨rfl, hY⟩ := tripled_inj hs hS htripled hflat
  exact ⟨rfl, List.append_cancel_left hflat, g, hg, hr, hY⟩

-- Parts that stand in three quotes, make up a sum and come to its texts are the parts of the sum.
theorem eq_tripledParts (hb : Text.isBlankText b = true) (hss : ∀ s ∈ ss, TripleText s)
    (hne : ss ≠ []) (hps : ps ≠ [])
    (htrim : ∀ p ∈ ps, Text.trim p = tripled (partText ctx p))
    (hjoin : Text.join ['+'] ps = b ++ tripledSum ss)
    (hflat : ps.flatMap (partText ctx) = ss.flatten) : ps = tripledParts b ss := by
  induction ss generalizing b ps with
  | nil => exact absurd rfl hne
  | cons s ss ih =>
    obtain ⟨p, ps, rfl⟩ := List.exists_cons_of_ne_nil hps
    obtain ⟨hs, hss⟩ := List.forall_mem_cons.1 hss
    obtain ⟨hp, htrim⟩ := List.forall_mem_cons.1 htrim
    have hS : Edged (· ≠ '\'') ss.flatten := edged_flatten fun s hs => (hss s hs).edged
    have hplus : ∀ {g : Text}, Text.isBlankText g = true → '+' ∉ g := fun hg hm =>
      absurd (List.all_eq_true.1 hg _ hm) (by decide)
    cases ps with
    | nil =>
      have hX : p ++ [] = Text.join ['+'] [p] := List.append_nil p
      cases ss with
      | nil =>
        obtain ⟨-, -, g, -, hpart, hg⟩ := part_eq (Y := []) hb hs hS hp
          (by rw [hX, hjoin, List.append_nil]; rfl) hflat
        obtain rfl : g = [] := by simpa using hg
        rw [hpart, List.append_nil]
        rfl
      | cons t ss =>
        -- The blanks behind the last part hold no plus sign.
        obtain ⟨-, -, g, hg, -, hY⟩ := part_eq hb hs hS hp
          (by rw [hX, hjoin, tripledSum_cons_cons]) hflat
        refine absurd ?_ (hplus hg)
        rw [List.append_nil] at hY
        simp [hY]
    | cons q qs =>
      have hX : p ++ '+' :: Text.join ['+'] (q :: qs) = Text.join ['+'] (p :: q :: qs) := by
        simp [Text.join]
      cases ss with
      | nil =>
        -- Behind the last text nothing is left to be cut.
        obtain ⟨-, -, g, -, -, hY⟩ := part_eq (Y := []) hb hs hS hp
          (by rw [hX, hjoin, List.append_nil]; rfl) hflat
        simp at hY
      | cons t ss =>
        obtain ⟨-, hV, g, hg, hpart, hY⟩ := part_eq hb hs hS hp
          (by rw [hX, hjoin, tripledSum_cons_cons]) hflat
        have hfree : ∀ x ∈ g, decide (x ≠ '+') = true := fun x hx =>
          decide_eq_true fun he => hplus hg (he ▸ hx)
        obtain ⟨rfl, htail⟩ := eq_of_forall_append (b := [' ']) hfree
          (List.forall_mem_singleton.2 rfl) (by decide) (by decide) hY
        have hrest := ih (b := [' ']) rfl hss (List.cons_ne_nil _ _) (List.cons_ne_nil _ _) htrim
          (List.cons.inj htail).2 hV
        rw [hpart, hrest]
        rfl

end Alignment

-- Texts without apostrophes are kept, whatever else they hold.
theorem kept_of_not_mem {ss : List Text} (h : ∀ s ∈ ss, '\'' ∉ s) : Kept ss := by
  induction ss with
  | nil => trivial
  | cons s ss ih =>
    obtain ⟨hs, hss⟩ := List.forall_mem_cons.1 h
    have hcross : Crosses '+' ⟨true, 0⟩ s ⟨true, 0⟩ := .quoted hs '+' 0
    cases ss with
    | nil => exact hcross.whole
    | cons t ss => exact ⟨hcross, ih hss⟩

-- A sum of texts in three quotes comes to the texts, one after the other, exactly when they are
-- kept: no text is cut at a plus sign of its own, and every plus sign of the sum cuts.
theorem eval_tripledSum_iff (ctx : Context) (ss : List Text) (hne : ss ≠ [])
    (h : ∀ s ∈ ss, TripleText s) :
    ((Expr.ofAssignment (tripledSum ss)).eval ctx = .text ss.flatten ↔ Kept ss) ∧
      ((∀ s ∈ ss, '\'' ∉ s) → Kept ss) := by
  refine ⟨?_, kept_of_not_mem⟩
  have hopener : ∀ s ∈ ss, Text.contains opener s = false := fun s hs => (h s hs).reference
  have hsplit := splitTop_tripledSum_iff (b := []) rfl hne
  rw [List.nil_append] at hsplit
  rw [eval_ofAssignment_tripledSum ctx hne hopener, ← hsplit]
  have hjoin := join_splitTop '+' (tripledSum ss)
  have hps : splitTop '+' (tripledSum ss) ≠ [] := splitFrom_ne_nil '+' .top _
  generalize splitTop '+' (tripledSum ss) = ps at hjoin hps
  constructor
  · intro heval
    have hflat : ps.flatMap (partText ctx) = ss.flatten := Value.text.inj heval
    have hparts : ∀ p ∈ ps, Text.contains opener p = false :=
      contains_opener_part (hjoin ▸ contains_opener_tripledSum hopener)
    have hsum : (ps.map fun p => surplus p - 6).sum =
        (ps.map fun p => surplus (partText ctx p)).sum := by
      have hwhole := surplus_join hps
      rw [hjoin, surplus_tripledSum hne] at hwhole
      rw [← surplus_flatMap, hflat]
      omega
    exact eq_tripledParts (b := []) rfl h hne hps (trim_eq_tripled hparts hsum) hjoin hflat
  · rintro rfl
    exact congrArg Value.text (flatMap_tripledParts ctx (b := []) rfl ss)

-- A quotation inside of a text, plus signs and a bracket outside of it.
theorem eval_tripledSum_quotation :
    let ss := ["a'b'[ + c".toList, "+ it's".toList]
    (∀ s ∈ ss, TripleText s) ∧ Kept ss ∧
      (Expr.ofAssignment (tripledSum ss)).eval {} = .text "a'b'[ + c+ it's".toList := by
  intro ss
  have htexts : ∀ s ∈ ss, TripleText s := by
    simp only [ss, List.forall_mem_cons, List.not_mem_nil, false_implies, implies_true, and_true]
    exact ⟨⟨by decide, by decide, Edged.ne_iff.2 (by decide)⟩, by decide, by decide,
      Edged.ne_iff.2 (by decide)⟩
  have hlast : splitFrom '+' ⟨true, 0⟩ "+ it's".toList = ["+ it's".toList] := by decide
  have hkept : Kept ss := ⟨⟨by decide, by decide⟩, hlast⟩
  exact ⟨htexts, hkept, (eval_tripledSum_iff {} ss (by simp [ss]) htexts).1.2 hkept⟩

-- An apostrophe ends the quotation, so that a plus sign behind it cuts the text. With an odd number
-- of them the plus sign of the sum does not cut.
theorem tripledSum_not_kept :
    let one := ["it's + x".toList]
    let two := ["a'b".toList, ['c']]
    (∀ s ∈ one ++ two, TripleText s) ∧
      (Expr.ofAssignment (tripledSum one)).eval {} = .text "'''it'sx'''".toList ∧
      (Expr.ofAssignment (tripledSum one)).eval {} ≠ .text one.flatten ∧
      (Expr.ofAssignment (tripledSum two)).eval {} = .text "a'b''' + '''c".toList ∧
      (Expr.ofAssignment (tripledSum two)).eval {} ≠ .text two.flatten := by
  intro one two
  have htexts : ∀ s ∈ one ++ two, TripleText s := by
    simp only [one, two, List.cons_append, List.nil_append, List.forall_mem_cons, List.not_mem_nil,
      false_implies, implies_true, and_true]
    exact ⟨⟨by decide, by decide, Edged.ne_iff.2 (by decide)⟩,
      ⟨by decide, by decide, Edged.ne_iff.2 (by decide)⟩, by decide, by decide,
      Edged.ne_iff.2 (by decide)⟩
  have hone : (Expr.ofAssignment (tripledSum one)).eval {} = .text "'''it'sx'''".toList := by
    decide +kernel
  have htwo : (Expr.ofAssignment (tripledSum two)).eval {} =
      .text "a'b''' + '''c".toList := by
    decide +kernel
  exact ⟨htexts, hone, by rw [hone]; decide, htwo, by rw [htwo]; decide⟩

end EdgeIncludes
