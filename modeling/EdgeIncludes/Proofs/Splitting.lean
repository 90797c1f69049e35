import EdgeIncludes.Proofs.Grammar

namespace EdgeIncludes
namespace Text

section Separator

variable {sep t a b x : Text}

theorem splitOn_of_cut?_eq_none (h : cut? sep t = none) : splitOn sep t = [t] := by
  rw [splitOn]
  split
  · rfl
  · split
    · rfl
    · simp_all

theorem splitOn_of_cut? (hne : sep ≠ []) (h : cut? sep t = some (a, b)) :
    splitOn sep t = a :: splitOn sep b := by
  rw [splitOn, dif_neg hne]
  split
  · simp_all
  · rename_i x y hcut
    rw [h] at hcut
    obtain ⟨rfl, rfl⟩ := Prod.mk.inj (Option.some.inj hcut)
    rfl

theorem splitOn_ne_nil (sep t : Text) : splitOn sep t ≠ [] := by
  rw [splitOn]
  split
  · simp
  · split <;> simp

theorem join_splitOn (sep t : Text) : join sep (splitOn sep t) = t := by
  fun_induction splitOn sep t with
  | case1 => rfl
  | case2 => rfl
  | case3 t _ a b hcut ih =>
    obtain ⟨u, us, hus⟩ := List.exists_cons_of_ne_nil (splitOn_ne_nil sep b)
    rw [hus] at ih ⊢
    rw [join, ih, cut?_eq_append hcut]
    simp

-- The separator is cut at where it first stands.
theorem not_contains_of_findFrom (hne : sep ≠ []) {n m : Nat} (h : findFrom sep n t = some m) :
    n ≤ m ∧ contains sep (t.take (m - n)) = false := by
  have hnil : contains sep [] = false := by simp [contains, find?, findFrom, hne]
  induction t generalizing n with
  | nil => simp [findFrom, hne] at h
  | cons c t ih =>
    rw [findFrom] at h
    split at h
    · obtain rfl := Option.some.inj h
      rw [Nat.sub_self, List.take_zero]
      exact ⟨Nat.le_refl n, hnil⟩
    · rename_i hs
      obtain ⟨hle, hfree⟩ := ih h
      obtain ⟨k, rfl⟩ := Nat.exists_eq_add_of_le hle
      have hk : n + 1 + k - n = k + 1 := by omega
      rw [Nat.add_sub_cancel_left] at hfree
      rw [hk, List.take_succ_cons, contains_cons, hfree, Bool.or_false]
      refine ⟨by omega, Bool.eq_false_iff.2 fun hstart => hs ?_⟩
      obtain ⟨r, hr⟩ := startsWith_iff.1 hstart
      refine startsWith_iff.2 ⟨r ++ t.drop k, ?_⟩
      rw [← List.append_assoc, ← hr, List.cons_append, List.take_append_drop]

theorem not_contains_of_cut? (hne : sep ≠ []) (h : cut? sep t = some (a, b)) :
    contains sep a = false := by
  obtain ⟨n, hn, he⟩ := Option.map_eq_some_iff.1 h
  obtain ⟨rfl, -⟩ := Prod.mk.inj he
  exact (not_contains_of_findFrom hne hn).2

theorem not_contains_of_mem_splitOn (hne : sep ≠ []) (hx : x ∈ splitOn sep t) :
    contains sep x = false := by
  fun_induction splitOn sep t with
  | case1 => contradiction
  | case2 t _ hcut =>
    obtain rfl := List.mem_singleton.1 hx
    rw [contains_eq_isSome, hcut]
    rfl
  | case3 t _ a b hcut ih =>
    rcases List.mem_cons.1 hx with rfl | hx
    · exact not_contains_of_cut? hne hcut
    · exact ih hx

end Separator

variable {c : Char} {a t : Text}

theorem splitOn_eq_singleton (h : c ∉ t) : splitOn [c] t = [t] :=
  splitOn_of_cut?_eq_none (cut?_eq_none h)

theorem splitOn_cons (h : c ∉ a) (r : Text) : splitOn [c] (a ++ c :: r) = a :: splitOn [c] r :=
  splitOn_of_cut? (List.cons_ne_nil c []) (cut?_singleton_eq_some_iff.2 ⟨h, rfl⟩)

theorem splitOn_append (a r : Text) :
    splitOn [c] (a ++ c :: r) = splitOn [c] a ++ splitOn [c] r := by
  induction hn : a.length using Nat.strongRecOn generalizing a with
  | ind n ih =>
    by_cases hc : c ∈ a
    · obtain ⟨x, y, rfl, hx⟩ := List.eq_append_cons_of_mem hc
      have hy : y.length < n := by simp at hn; omega
      rw [List.append_assoc, List.cons_append, splitOn_cons hx, splitOn_cons hx, ih _ hy y rfl,
        List.cons_append]
    · rw [splitOn_cons hc, splitOn_eq_singleton hc, List.singleton_append]

theorem splitOn_join {ts : List Text} (hne : ts ≠ []) :
    splitOn [c] (join [c] ts) = ts.flatMap (splitOn [c]) := by
  induction ts with
  | nil => exact absurd rfl hne
  | cons t ts ih =>
    cases ts with
    | nil => simp [join]
    | cons u ts =>
      have hj : join [c] (t :: u :: ts) = t ++ c :: join [c] (u :: ts) := by simp [join]
      rw [hj, splitOn_append, ih (List.cons_ne_nil u ts)]
      rfl

end Text
end EdgeIncludes
