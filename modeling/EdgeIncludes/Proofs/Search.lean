import EdgeIncludes.Nesting
import EdgeIncludes.Proofs.Trimming

namespace EdgeIncludes

namespace Text

variable {c : Char} {p a t r : Text}

theorem startsWith_cons (c d : Char) (p t : Text) :
    startsWith (c :: p) (d :: t) = (decide (c = d) && startsWith p t) := by
  by_cases h : c = d <;> simp [startsWith, after?, h]

@[simp] theorem startsWith_append (p r : Text) : startsWith p (p ++ r) = true := by
  simp [startsWith]

theorem findFrom_append (h : c ∉ a) (n : Nat) :
    findFrom (c :: p) n (a ++ t) = findFrom (c :: p) (n + a.length) t := by
  induction a generalizing n with
  | nil => rfl
  | cons d a ih =>
    obtain ⟨hd, ha⟩ := List.ne_and_not_mem_of_not_mem_cons h
    rw [List.cons_append, findFrom, startsWith_cons, decide_eq_false hd, ih ha]
    simp only [Bool.false_and, Bool.false_eq_true, if_false, List.length_cons]
    congr 1
    omega

-- A text is found where it first stands.
theorem cut?_append (h : c ∉ a) : cut? (c :: p) (a ++ (c :: p ++ r)) = some (a, r) := by
  rw [cut?, find?, findFrom_append h]
  rw [List.cons_append, findFrom, ← List.cons_append, startsWith_append]
  simp [List.drop_append]

theorem cut?_eq_none (h : c ∉ t) : cut? (c :: p) t = none := by
  have hf := findFrom_append (p := p) (t := []) h 0
  rw [List.append_nil] at hf
  rw [cut?, find?, hf]
  rfl

@[simp] theorem taken_nil (t : Text) : taken t [] = t := by
  rw [taken, List.length_nil, Nat.sub_zero, List.take_length]

theorem contains_eq_isSome (p t : Text) : contains p t = (cut? p t).isSome := by
  rw [contains, cut?, Option.isSome_map]

theorem isSome_findFrom (p : Text) (n : Nat) (t : Text) :
    (findFrom p n t).isSome = contains p t := by
  have hs : ∀ m, (findFrom p n t).isSome = (findFrom p m t).isSome := by
    induction t generalizing n with
    | nil => intro m; simp only [findFrom]; split <;> rfl
    | cons d t ih =>
      intro m
      simp only [findFrom]
      split
      · rfl
      · exact ih _ _
  exact hs 0

-- Text that does not have the first character does not matter.
theorem contains_append (h : c ∉ a) : contains (c :: p) (a ++ t) = contains (c :: p) t := by
  rw [contains, find?, findFrom_append h, isSome_findFrom]

theorem contains_cons (p : Text) (c : Char) (t : Text) :
    contains p (c :: t) = (startsWith p (c :: t) || contains p t) := by
  rw [contains, find?, findFrom]
  split
  · rename_i h
    rw [h]
    rfl
  · rename_i h
    rw [isSome_findFrom, Bool.eq_false_iff.2 h, Bool.false_or]

-- A text whose first character does not come again does not reach into one that stands behind.
theorem startsWith_append_of_not_mem (h : c ∉ p) (hne : a ≠ [])
    (ha : startsWith (c :: p) a = false) : startsWith (c :: p) (a ++ c :: t) = false := by
  refine Bool.eq_false_iff.2 fun hs => Bool.eq_false_iff.1 ha ?_
  obtain ⟨u, hu⟩ := startsWith_iff.1 hs
  rcases List.append_eq_append_iff.1 hu with ⟨b, hb, ht⟩ | ⟨b, hb, -⟩
  · cases b with
    | nil => exact startsWith_iff.2 ⟨[], by rw [hb]; simp⟩
    | cons d b =>
      obtain ⟨x, a, rfl⟩ := List.exists_cons_of_ne_nil hne
      have hp : p = a ++ d :: b := (List.cons.inj hb).2
      obtain rfl : c = d := (List.cons.inj ht).1
      exact absurd (hp ▸ List.mem_append_right a (List.mem_cons_self ..)) h
  · exact startsWith_iff.2 ⟨b, hb⟩

theorem findFrom_append_of_not_contains (h : c ∉ p) (ha : contains (c :: p) a = false) (n : Nat) :
    findFrom (c :: p) n (a ++ (c :: p ++ r)) = some (n + a.length) := by
  induction a generalizing n with
  | nil => rw [List.nil_append, List.cons_append, findFrom, ← List.cons_append, startsWith_append,
      if_pos rfl]; rfl
  | cons d a ih =>
    rw [contains_cons, Bool.or_eq_false_iff] at ha
    have hs : startsWith (c :: p) (d :: (a ++ (c :: p ++ r))) = false :=
      startsWith_append_of_not_mem (a := d :: a) h (by simp) ha.1
    rw [List.cons_append, findFrom, hs, if_neg Bool.false_ne_true, ih ha.2, List.length_cons]
    congr 1
    omega

-- A text whose first character does not come again is found behind one that does not contain it.
theorem cut?_append_of_not_contains (h : c ∉ p) (ha : contains (c :: p) a = false) :
    cut? (c :: p) (a ++ (c :: p ++ r)) = some (a, r) := by
  rw [cut?, find?, findFrom_append_of_not_contains h ha]
  simp [List.drop_append]

theorem before?_eq_some_iff : before? p t = some a ↔ t = a ++ p := by
  simp only [before?, Option.map_eq_some_iff, after?_eq_some_iff]
  constructor
  · rintro ⟨x, ht, rfl⟩
    simpa using congrArg List.reverse ht
  · rintro rfl
    exact ⟨a.reverse, by simp⟩

theorem before?_append (p a : Text) : before? p (a ++ p) = some a := before?_eq_some_iff.2 rfl

theorem contains_eq_false (h : c ∉ t) : contains (c :: p) t = false := by
  rw [contains_eq_isSome, cut?_eq_none h]
  rfl

theorem replaceAll_eq_self {s : Text} (hp : p ≠ []) (h : contains p t = false) :
    replaceAll p s t = t := by
  rw [contains_eq_isSome, Option.isSome_eq_false_iff, Option.isNone_iff_eq_none] at h
  rw [replaceAll, replaceFirst, if_neg hp, h]

theorem contains_iff : contains p t = true ↔ p <:+: t := by
  constructor
  · intro h
    obtain ⟨n, hn⟩ := Option.isSome_iff_exists.1 h
    obtain ⟨a, r, ht, -⟩ := findFrom_eq_some hn
    exact ⟨a, r, ht.symm⟩
  · rintro ⟨a, r, rfl⟩
    rw [List.append_assoc]
    induction a with
    | nil =>
      cases p with
      | nil => cases r <;> rfl
      | cons c p =>
        rw [List.nil_append, List.cons_append, contains_cons, ← List.cons_append, startsWith_append]
        rfl
    | cons d a ih => rw [List.cons_append, contains_cons, ih, Bool.or_true]

theorem contains_eq_false_of_infix (h : contains p t = false) (hr : r <:+: t) :
    contains p r = false := by
  refine Bool.eq_false_iff.2 fun hc => Bool.eq_false_iff.1 h ?_
  exact contains_iff.2 ((contains_iff.1 hc).trans hr)

theorem suffix_of_after? (h : after? p t = some r) : r <:+ t :=
  after?_eq_some_iff.1 h ▸ List.suffix_append p r

-- A character that does not occur in what is searched for keeps two texts apart.
theorem startsWith_append_cons (h : c ∉ p) : startsWith p (a ++ c :: t) = startsWith p a := by
  induction p generalizing a with
  | nil => rfl
  | cons d p ih =>
    obtain ⟨hd, hp⟩ := List.ne_and_not_mem_of_not_mem_cons h
    cases a with
    | nil =>
      rw [List.nil_append, startsWith_cons, decide_eq_false (Ne.symm hd), Bool.false_and]
      rfl
    | cons x a => rw [List.cons_append, startsWith_cons, startsWith_cons, ih hp]

theorem contains_append_cons (h : c ∉ p) :
    contains p (a ++ c :: t) = (contains p a || contains p t) := by
  induction a with
  | nil =>
    have hs : startsWith p (c :: t) = contains p [] := by
      rw [← List.nil_append (c :: t), startsWith_append_cons h]
      cases p <;> rfl
    rw [List.nil_append, contains_cons, hs]
  | cons d a ih =>
    have hs := startsWith_append_cons (a := d :: a) (t := t) h
    rw [List.cons_append] at hs
    rw [List.cons_append, contains_cons, ih, hs, contains_cons, Bool.or_assoc]

end Text

-- A text without the separator is one part.
theorem splitTop_eq_singleton {sep : Char} {t : Text} (h : sep ∉ t) : splitTop sep t = [t] := by
  have hs : ∀ n : Nesting, splitFrom sep n t = [t] := by
    induction t with
    | nil => exact fun n => rfl
    | cons c t ih =>
      obtain ⟨hc, ht⟩ := List.ne_and_not_mem_of_not_mem_cons h
      intro n
      have hn : n.cuts sep c = false := by simp [Nesting.cuts, Ne.symm hc]
      rw [splitFrom, hn, if_neg Bool.false_ne_true, ih ht]
      rfl
  exact hs _

theorem between?_eq_some_iff {q t a : Text} : between? q t = some a ↔ t = q ++ (a ++ q) := by
  simp only [between?, Option.bind_eq_some_iff, Text.after?_eq_some_iff, Text.before?_eq_some_iff]
  constructor
  · rintro ⟨r, rfl, rfl⟩
    rfl
  · rintro rfl
    exact ⟨_, rfl, rfl⟩

theorem unquote?_quoted {a : Text} (h : '\'' ∉ a) : unquote? ('\'' :: (a ++ ['\''])) = some a := by
  have hthree : between? "'''".toList ('\'' :: (a ++ ['\''])) = none := by
    cases a with
    | nil => rfl
    | cons c a =>
      have hc : '\'' ≠ c := (List.ne_and_not_mem_of_not_mem_cons h).1
      have ha : Text.after? "'''".toList ('\'' :: (c :: a ++ ['\''])) = none := by
        change (if '\'' = c then _ else none) = none
        rw [if_neg hc]
      rw [between?, ha]
      rfl
  rw [unquote?, hthree, Option.none_or, between?]
  exact Text.before?_append ['\''] a

end EdgeIncludes
