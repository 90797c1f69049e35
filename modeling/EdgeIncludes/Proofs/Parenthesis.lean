import EdgeIncludes.Proofs.Search

namespace EdgeIncludes

-- A character that does not matter to where a parenthesis ends.
def isLoose (c : Char) : Bool := !isQuote c && c ≠ '(' && c ≠ ')'

-- What can stand in a parenthesis. Brackets of other kinds do not count.
inductive Enclosed : Text → Prop where
  | nil : Enclosed []
  | char {c : Char} {t : Text} : isLoose c = true → Enclosed t → Enclosed (c :: t)
  | quoted {a t : Text} : '\'' ∉ a → Enclosed t → Enclosed ('\'' :: (a ++ '\'' :: t))
  | nested {a t : Text} : Enclosed a → Enclosed t → Enclosed ('(' :: (a ++ ')' :: t))

namespace Enclosed

variable {a b : Text}

theorem append (ha : Enclosed a) (hb : Enclosed b) : Enclosed (a ++ b) := by
  induction ha with
  | nil => exact hb
  | char hc _ ih => exact .char hc ih
  | quoted hq _ ih =>
    rw [List.cons_append, List.append_assoc]
    exact .quoted hq ih
  | nested hin _ _ ih =>
    rw [List.cons_append, List.append_assoc]
    exact .nested hin ih

theorem of_isLoose (h : ∀ c ∈ a, isLoose c = true) : Enclosed a := by
  induction a with
  | nil => exact .nil
  | cons c a ih =>
    obtain ⟨hc, ha⟩ := List.forall_mem_cons.1 h
    exact .char hc (ih ha)

end Enclosed

section Closing

variable {c : Char} {a r t : Text} {d n m : Nat}

theorem closingFrom_char (hc : isLoose c = true) (d n : Nat) (t : Text) :
    closingFrom d false n (c :: t) = closingFrom d false (n + 1) t := by
  simp only [isLoose, Bool.and_eq_true, Bool.not_eq_true', decide_eq_true_eq] at hc
  simp only [closingFrom, hc, Bool.false_eq_true, if_false]

theorem closingFrom_quote (d n : Nat) (t : Text) :
    closingFrom d false n ('\'' :: t) = closingFrom d true (n + 1) t :=
  rfl

theorem closingFrom_opening (d n : Nat) (t : Text) :
    closingFrom d false n ('(' :: t) = closingFrom (d + 1) false (n + 1) t :=
  rfl

theorem closingFrom_inner (d n : Nat) (t : Text) :
    closingFrom (d + 1) false n (')' :: t) = closingFrom d false (n + 1) t :=
  rfl

theorem closingFrom_quoted {a t : Text} (h : '\'' ∉ a) (d n : Nat) :
    closingFrom d true n (a ++ '\'' :: t) = closingFrom d false (n + a.length + 1) t := by
  induction a generalizing n with
  | nil => rfl
  | cons c a ih =>
    obtain ⟨hc, ha⟩ := List.ne_and_not_mem_of_not_mem_cons h
    have hq : isQuote c = false := decide_eq_false (Ne.symm hc)
    have hn : n + 1 + a.length + 1 = n + (a.length + 1) + 1 := by omega
    simp only [List.cons_append, closingFrom, hq, Bool.false_eq_true, if_false, if_true, ih ha,
      List.length_cons, hn]

-- In a quotation that is never closed the search does not end.
theorem closingFrom_unclosed (h : '\'' ∉ t) (d n : Nat) : closingFrom d true n t = none := by
  induction t generalizing n with
  | nil => rfl
  | cons c t ih =>
    obtain ⟨hc, ht⟩ := List.ne_and_not_mem_of_not_mem_cons h
    have hq : isQuote c = false := decide_eq_false (Ne.symm hc)
    simp only [closingFrom, hq, Bool.false_eq_true, if_false, if_true, ih ht]

-- The search passes over what can stand in a parenthesis.
theorem Enclosed.closingFrom_eq (h : Enclosed a) (d n : Nat) (t : Text) :
    closingFrom d false n (a ++ t) = closingFrom d false (n + a.length) t := by
  induction h generalizing d n t with
  | nil => rfl
  | @char c a hc _ ih =>
    have hn : n + 1 + a.length = n + (c :: a).length := by
      rw [List.length_cons]
      omega
    rw [List.cons_append, closingFrom_char hc, ih, hn]
  | @quoted q a hq _ ih =>
    have hn : n + 1 + q.length + 1 + a.length = n + ('\'' :: (q ++ '\'' :: a)).length := by
      simp only [List.length_cons, List.length_append]
      omega
    rw [List.cons_append, List.append_assoc, List.cons_append, closingFrom_quote,
      closingFrom_quoted hq, ih, hn]
  | @nested b a _ _ ihin ih =>
    have hn : n + 1 + b.length + 1 + a.length = n + ('(' :: (b ++ ')' :: a)).length := by
      simp only [List.length_cons, List.length_append]
      omega
    rw [List.cons_append, List.append_assoc, List.cons_append, closingFrom_opening, ihin,
      closingFrom_inner, ih, hn]

theorem Enclosed.closing?_eq (h : Enclosed a) (r : Text) :
    closing? (a ++ ')' :: r) = some (a, r) := by
  have hend : closingFrom 0 false 0 (a ++ ')' :: r) = some a.length := by
    rw [h.closingFrom_eq, Nat.zero_add]
    rfl
  rw [closing?, hend]
  simp

-- Where a search ends, at whatever depth, such a text has been passed over and a parenthesis stands
-- behind it.
theorem exists_enclosed (h : closingFrom d false n t = some m) :
    ∃ a r, Enclosed a ∧ t = a ++ ')' :: r := by
  induction hk : t.length using Nat.strongRecOn generalizing d n t with
  | ind k ih =>
    subst hk
    cases t with
    | nil => cases h
    | cons c t =>
      -- It is enough to find such a text in front, since behind it the search goes on.
      have hfront : ∀ p u, Enclosed p → p ≠ [] → c :: t = p ++ u →
          ∃ a r, Enclosed a ∧ c :: t = a ++ ')' :: r := by
        intro p u hp hne ht
        have hlt : u.length < (c :: t).length := by
          have hpos := List.length_pos_iff.2 hne
          rw [ht, List.length_append]
          omega
        rw [ht, hp.closingFrom_eq] at h
        obtain ⟨a, r, ha, rfl⟩ := ih u.length hlt h rfl
        exact ⟨p ++ a, r, hp.append ha, by rw [ht, List.append_assoc]⟩
      by_cases hclose : c = ')'
      · exact ⟨[], t, .nil, by rw [hclose, List.nil_append]⟩
      by_cases hquote : c = '\''
      · rw [hquote, closingFrom_quote] at h
        have hmem : '\'' ∈ t := Decidable.byContradiction fun hnot => by
          rw [closingFrom_unclosed hnot] at h
          cases h
        obtain ⟨q, u, rfl, hq⟩ := List.eq_append_cons_of_mem hmem
        exact hfront _ u (.quoted hq .nil) (by simp) (by rw [hquote]; simp)
      by_cases hopen : c = '('
      · rw [hopen, closingFrom_opening] at h
        obtain ⟨b, u, hb, rfl⟩ := ih t.length (by simp) h rfl
        exact hfront _ u (.nested hb .nil) (by simp) (by rw [hopen]; simp)
      have hloose : isLoose c = true := by simp [isLoose, isQuote, hclose, hquote, hopen]
      exact hfront [c] t (.char hloose .nil) (by simp) rfl

-- The search finds the end of what can stand in a parenthesis, and of nothing else.
theorem closing?_eq_some_iff : closing? t = some (a, r) ↔ Enclosed a ∧ t = a ++ ')' :: r := by
  constructor
  · intro h
    obtain ⟨n, hn, -⟩ := Option.map_eq_some_iff.1 h
    obtain ⟨b, s, hb, rfl⟩ := exists_enclosed hn
    rw [hb.closing?_eq] at h
    cases h
    exact ⟨hb, rfl⟩
  · rintro ⟨ha, rfl⟩
    exact ha.closing?_eq r

theorem closing?_eq_none_iff : closing? t = none ↔ ∀ a r, Enclosed a → t ≠ a ++ ')' :: r := by
  rw [Option.eq_none_iff_forall_ne_some]
  constructor
  · rintro h a r ha rfl
    exact h (a, r) (ha.closing?_eq r)
  · rintro h ⟨a, r⟩ hr
    obtain ⟨ha, rfl⟩ := closing?_eq_some_iff.1 hr
    exact h a r ha rfl

instance : DecidablePred Enclosed := fun a =>
  decidable_of_iff (closing? (a ++ [')']) = some (a, []))
    ⟨fun h => (closing?_eq_some_iff.1 h).1, fun h => h.closing?_eq []⟩

end Closing

end EdgeIncludes
