import EdgeIncludes.Proofs.Balance

namespace EdgeIncludes

-- The parts of a text that is scanned from some place on. Each part after the first begins at top
-- level, and so each but the last has to end there.
inductive Parts (sep : Char) : Nesting → List Text → Prop where
  | last {n : Nesting} {p : Text} : splitFrom sep n p = [p] → Parts sep n [p]
  | cons {n : Nesting} {p : Text} {ps : List Text} :
    Crosses sep n p .top → Parts sep .top ps → Parts sep n (p :: ps)

namespace Parts

variable {sep c : Char} {n : Nesting} {p : Text} {ps : List Text}

-- A character that does not cut belongs to the first part.
theorem modifyHead (hc : n.cuts sep c = false) (h : Parts sep (n.next c) ps) :
    Parts sep n (ps.modifyHead (c :: ·)) := by
  cases h with
  | last hwhole => exact .last (splitFrom_cons_eq_iff.2 ⟨hc, hwhole⟩)
  | cons hp hps => exact .cons (hp.cons hc) hps

theorem splitTop_eq (h : Parts sep n ps) (hn : n = .top) (hp : p ∈ ps) : splitTop sep p = [p] := by
  induction h with
  | last hwhole =>
    obtain rfl := List.mem_singleton.1 hp
    subst hn
    exact hwhole
  | cons hq _ ih =>
    rcases List.mem_cons.1 hp with rfl | hp
    · subst hn
      exact hq.whole
    · exact ih rfl hp

theorem after_eq (h : Parts sep n ps) (hn : n = .top) (hp : p ∈ ps.dropLast) :
    Nesting.top.after p = .top := by
  induction h with
  | last => cases hp
  | @cons n q qs hq hqs ih =>
    cases qs with
    | nil => cases hqs
    | cons r rs =>
      rcases List.mem_cons.1 hp with rfl | hp
      · subst hn
        exact hq.ends
      · exact ih rfl hp

end Parts

theorem parts_splitFrom (sep : Char) (n : Nesting) (t : Text) :
    Parts sep n (splitFrom sep n t) := by
  induction t generalizing n with
  | nil => exact .last rfl
  | cons c t ih =>
    cases hc : n.cuts sep c with
    | true =>
      obtain rfl := Nesting.eq_top_of_cuts hc
      rw [splitFrom_cons_of_cuts hc]
      exact .cons (.nil sep .top) (ih .top)
    | false =>
      rw [splitFrom_cons_of_not_cuts hc]
      exact (ih (n.next c)).modifyHead hc

-- Nothing is lost, no part is cut again, each part but the last ends at top level, and what is cut
-- behind such an end does not depend on what stands in front of it.
theorem splitTop_exact {sep : Char} (hsep : isMark sep = false) :
    (∀ t, Text.join [sep] (splitTop sep t) = t ∧
      (∀ p ∈ splitTop sep t, splitTop sep p = [p]) ∧
      ∀ p ∈ (splitTop sep t).dropLast, Nesting.top.after p = .top) ∧
      ∀ a b, Nesting.top.after a = .top →
        splitTop sep (a ++ sep :: b) = splitTop sep a ++ splitTop sep b := by
  refine ⟨fun t => ⟨join_splitTop sep t, ?_, ?_⟩, fun a b ha => splitFrom_append_cons hsep ha b⟩
  · intro p hp
    exact (parts_splitFrom sep .top t).splitTop_eq rfl hp
  · intro p hp
    exact (parts_splitFrom sep .top t).after_eq rfl hp

-- Closing brackets too many, brackets of different kinds that close each other, and separators in
-- quotes and brackets. The second text leaves a bracket and a quotation open.
theorem splitTop_exact_unbalanced :
    let a := ")'+('+[+)".toList
    let b := "('+".toList
    isMark '+' = false ∧ Nesting.top.after a = .top ∧
      splitTop '+' (a ++ '+' :: b) = [")'+('".toList, "[+)".toList, b] ∧
      splitTop '+' "[+)".toList = ["[+)".toList] := by
  intro a b
  have hsep : isMark '+' = false := by decide
  have hafter : Nesting.top.after a = .top := by decide
  have ha : splitTop '+' a = [")'+('".toList, "[+)".toList] := by decide
  have hb : splitTop '+' b = [b] := by decide
  obtain ⟨hparts, happend⟩ := splitTop_exact hsep
  have hpart := (hparts a).2.1 "[+)".toList
  rw [ha] at hpart
  refine ⟨hsep, hafter, ?_, hpart (by simp)⟩
  rw [happend a b hafter, ha, hb]
  rfl

end EdgeIncludes
