import EdgeIncludes.Proofs.Search

namespace EdgeIncludes
namespace Text

-- The pass copies every character that no mark starts at.
structure StopsAt (mark : Text) (f : Text → Text) : Prop where
  nil : f [] = []
  cons : ∀ c t, startsWith mark (c :: t) = false → f (c :: t) = c :: f t

namespace StopsAt

variable {c : Char} {q a t : Text} {f : Text → Text}

theorem append_of_not_mem (hf : StopsAt (c :: q) f) (h : c ∉ a) : f (a ++ t) = a ++ f t := by
  induction a with
  | nil => rfl
  | cons d a ih =>
    obtain ⟨hd, ha⟩ := List.ne_and_not_mem_of_not_mem_cons h
    have hs : startsWith (c :: q) (d :: (a ++ t)) = false := by
      rw [startsWith_cons, decide_eq_false hd, Bool.false_and]
    rw [List.cons_append, hf.cons d _ hs, ih ha, List.cons_append]

-- In front of the first character of the mark the pass copies a text without marks.
theorem append_of_not_contains (hf : StopsAt (c :: q) f) (hq : c ∉ q)
    (ha : contains (c :: q) a = false) : f (a ++ c :: t) = a ++ f (c :: t) := by
  induction a with
  | nil => rfl
  | cons d a ih =>
    rw [contains_cons, Bool.or_eq_false_iff] at ha
    have hs : startsWith (c :: q) (d :: (a ++ c :: t)) = false :=
      startsWith_append_of_not_mem (a := d :: a) hq (by simp) ha.1
    rw [List.cons_append, hf.cons d _ hs, ih ha.2, List.cons_append]

theorem eq_self {mark : Text} (hf : StopsAt mark f) (h : contains mark t = false) : f t = t := by
  induction t with
  | nil => exact hf.nil
  | cons c t ih =>
    rw [contains_cons, Bool.or_eq_false_iff] at h
    rw [hf.cons c t h.1, ih h.2]

end StopsAt

section ReplaceAll

variable {c : Char} {p q s a b t r : Text}

theorem cut?_cons (h : startsWith p (c :: t) = false) :
    cut? p (c :: t) = (cut? p t).map fun x => (c :: x.1, x.2) := by
  have hshift : ∀ (t : Text) (n : Nat), findFrom p (n + 1) t = (findFrom p n t).map (· + 1) := by
    intro t
    induction t with
    | nil =>
      intro n
      simp only [findFrom]
      split <;> rfl
    | cons d t ih =>
      intro n
      simp only [findFrom]
      split
      · rfl
      · exact ih (n + 1)
  rw [cut?, find?, findFrom, if_neg (Bool.eq_false_iff.1 h), hshift, Option.map_map, cut?,
    Option.map_map]
  refine congrArg (Option.map · _) (funext fun n => ?_)
  simp only [Function.comp_apply, List.take_succ_cons, Nat.add_right_comm n 1, List.drop_succ_cons]

-- More steps than there are characters make no difference.
theorem replaceFirst_eq_replaceAll (hp : p ≠ []) {n : Nat} (h : t.length < n) :
    replaceFirst p s n t = replaceAll p s t := by
  have hsteps : ∀ n m t, t.length < n → t.length < m →
      replaceFirst p s n t = replaceFirst p s m t := by
    intro n
    induction n with
    | zero => exact fun m t hn => absurd hn (Nat.not_lt_zero _)
    | succ n ih =>
      intro m t hn hm
      obtain ⟨m, rfl⟩ := Nat.exists_eq_add_one_of_ne_zero (Nat.ne_zero_of_lt hm)
      rw [replaceFirst, replaceFirst, if_neg hp, if_neg hp]
      cases hc : cut? p t with
      | none => rfl
      | some x =>
        have hb := length_cut?_lt hp hc
        simp only [ih m x.2 (by omega) (by omega)]
  exact hsteps _ _ t h (Nat.lt_succ_self _)

theorem replaceAll_of_cut?_eq_none (hp : p ≠ []) (h : cut? p t = none) : replaceAll p s t = t :=
  replaceAll_eq_self hp (by rw [contains_eq_isSome, h]; rfl)

theorem replaceAll_of_cut? (hp : p ≠ []) (h : cut? p t = some (a, b)) :
    replaceAll p s t = a ++ s ++ replaceAll p s b := by
  rw [replaceAll, replaceFirst, if_neg hp, h]
  exact congrArg _ (replaceFirst_eq_replaceAll hp (length_cut?_lt hp h))

theorem replaceAll_append :
    replaceAll (c :: q) s (c :: q ++ t) = s ++ replaceAll (c :: q) s t := by
  have hcut : cut? (c :: q) (c :: q ++ t) = some ([], t) := cut?_append (a := []) List.not_mem_nil
  rw [replaceAll_of_cut? (by simp) hcut, List.nil_append]

theorem stopsAt_replaceAll (hp : p ≠ []) (s : Text) : StopsAt p (replaceAll p s) where
  nil := by
    cases p with
    | nil => exact absurd rfl hp
    | cons c p => rfl
  cons c t h := by
    have hcut := cut?_cons h
    cases hc : cut? p t with
    | none =>
      rw [hc] at hcut
      rw [replaceAll_of_cut?_eq_none hp hc, replaceAll_of_cut?_eq_none hp hcut]
    | some x =>
      rw [hc] at hcut
      rw [replaceAll_of_cut? hp hc, replaceAll_of_cut? hp hcut]
      rfl

-- The first character of the mark keeps what stands in front of it apart.
theorem replaceAll_append_cons (h : c ∉ q) :
    replaceAll (c :: q) s (a ++ c :: t) =
      replaceAll (c :: q) s a ++ replaceAll (c :: q) s (c :: t) := by
  have hne : c :: q ≠ [] := by simp
  have hf := stopsAt_replaceAll hne s
  induction hk : a.length using Nat.strongRecOn generalizing a with
  | ind k ih =>
    subst hk
    cases a with
    | nil => rw [List.nil_append, hf.nil, List.nil_append]
    | cons d a =>
      by_cases hs : startsWith (c :: q) (d :: a) = true
      · obtain ⟨r, hr⟩ := startsWith_iff.1 hs
        have hlength : r.length < (d :: a).length := by
          rw [hr, List.length_append]
          exact Nat.lt_add_of_pos_left (Nat.succ_pos _)
        rw [hr, List.append_assoc, replaceAll_append, replaceAll_append, ih r.length hlength rfl,
          List.append_assoc]
      · have hs := Bool.eq_false_iff.2 hs
        have hs' : startsWith (c :: q) (d :: (a ++ c :: t)) = false :=
          startsWith_append_of_not_mem (a := d :: a) h (by simp) hs
        rw [List.cons_append, hf.cons d _ hs', hf.cons d a hs,
          ih a.length (Nat.lt_succ_self _) rfl, List.cons_append]

theorem length_replaceAll_le (hp : p ≠ []) (hs : s.length ≤ p.length) (t : Text) :
    (replaceAll p s t).length ≤ t.length := by
  induction hk : t.length using Nat.strongRecOn generalizing t with
  | ind k ih =>
    subst hk
    cases hc : cut? p t with
    | none => exact Nat.le_of_eq (congrArg _ (replaceAll_of_cut?_eq_none hp hc))
    | some x =>
      have hrest := ih _ (length_cut?_lt hp hc) x.2 rfl
      have htext := congrArg List.length (cut?_eq_append hc)
      rw [replaceAll_of_cut? hp hc]
      simp only [List.length_append] at htext ⊢
      omega

theorem length_replaceAll_lt (hp : p ≠ []) (hs : s.length < p.length)
    (h : contains p t = true) : (replaceAll p s t).length < t.length := by
  rw [contains_eq_isSome] at h
  obtain ⟨x, hc⟩ := Option.isSome_iff_exists.1 h
  have hrest := length_replaceAll_le hp (Nat.le_of_lt hs) x.2
  have htext := congrArg List.length (cut?_eq_append hc)
  rw [replaceAll_of_cut? hp hc]
  simp only [List.length_append] at htext ⊢
  omega

end ReplaceAll

end Text
end EdgeIncludes
