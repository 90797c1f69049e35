namespace EdgeIncludes

abbrev Text := List Char

namespace Text

-- The order of texts by code points. A text comes before its extensions.
def precedes : Text → Text → Bool
  | _, [] => false
  | [], _ :: _ => true
  | a :: s, b :: t => a.toNat < b.toNat || (a.toNat = b.toNat && precedes s t)

-- What follows the text `p` when it stands at the start.
def after? : Text → Text → Option Text
  | [], t => some t
  | _ :: _, [] => none
  | p :: ps, c :: t => if p = c then after? ps t else none

def startsWith (p t : Text) : Bool := (after? p t).isSome

-- What stands before the text `p` when it stands at the end.
def before? (p t : Text) : Option Text := (after? p.reverse t.reverse).map List.reverse

-- Counts the characters in front of the first place where `p` stands, on top of `n`.
def findFrom (p : Text) (n : Nat) : Text → Option Nat
  | [] => if p.isEmpty then some n else none
  | c :: t => if startsWith p (c :: t) then some n else findFrom p (n + 1) t

def find? (p t : Text) : Option Nat := findFrom p 0 t

def contains (p t : Text) : Bool := (find? p t).isSome

-- The texts on the two sides of the first place where `p` stands.
def cut? (p t : Text) : Option (Text × Text) :=
  (find? p t).map fun n => (t.take n, t.drop (n + p.length))

-- The part of `t` that a reader took when it left `rest`.
def taken (t rest : Text) : Text := t.take (t.length - rest.length)

theorem precedes_trans {a b c : Text} (h : precedes a b) (h' : precedes b c) : precedes a c := by
  induction a generalizing b c with
  | nil => cases b <;> cases c <;> simp_all [precedes]
  | cons x a ih =>
    cases b with
    | nil => simp [precedes] at h
    | cons y b =>
      cases c with
      | nil => simp [precedes] at h'
      | cons z c =>
        simp only [precedes, Bool.or_eq_true, Bool.and_eq_true, decide_eq_true_eq] at h h' ⊢
        rcases h with h | ⟨h, hs⟩
        · exact .inl (by omega)
        · rcases h' with h' | ⟨h', hs'⟩
          · exact .inl (by omega)
          · exact .inr ⟨h.trans h', ih hs hs'⟩

-- Of two different texts one precedes the other.
theorem precedes_of_not_precedes {a b : Text} (h : ¬precedes a b) (hne : a ≠ b) :
    precedes b a := by
  induction a generalizing b with
  | nil => cases b <;> simp_all [precedes]
  | cons x a ih =>
    cases b with
    | nil => simp [precedes]
    | cons y b =>
      simp only [precedes, Bool.or_eq_true, Bool.and_eq_true, decide_eq_true_eq, not_or,
        not_and] at h ⊢
      by_cases hxy : x.toNat = y.toNat
      · have hc : x = y := Char.toNat_inj.1 hxy
        exact .inr ⟨hxy.symm, ih (h.2 hxy) fun hab => hne (by rw [hc, hab])⟩
      · exact .inl (by omega)

theorem after?_eq_some_iff {p t r : Text} : after? p t = some r ↔ t = p ++ r := by
  induction p generalizing t with
  | nil => simp [after?]
  | cons a p ih =>
    cases t with
    | nil => simp [after?]
    | cons c t =>
      by_cases h : a = c
      · simp [after?, h, ih]
      · simp [after?, h, Ne.symm h]

@[simp] theorem after?_append (p r : Text) : after? p (p ++ r) = some r :=
  after?_eq_some_iff.2 rfl

theorem length_after?_le {p t r : Text} (h : after? p t = some r) : r.length ≤ t.length := by
  simp [after?_eq_some_iff.1 h]

theorem startsWith_iff {p t : Text} : startsWith p t = true ↔ ∃ r, t = p ++ r := by
  simp [startsWith, Option.isSome_iff_exists, after?_eq_some_iff]

@[simp] theorem taken_append (a b : Text) : taken (a ++ b) b = a := by simp [taken]

-- A place that the search reports lies past `n`, and `p` stands there.
theorem findFrom_eq_some {p : Text} {n m : Nat} {t : Text} (h : findFrom p n t = some m) :
    ∃ a r, t = a ++ p ++ r ∧ m = n + a.length := by
  induction t generalizing n with
  | nil =>
    cases p with
    | nil => exact ⟨[], [], by simp, by simp_all [findFrom]⟩
    | cons c p => simp [findFrom] at h
  | cons c t ih =>
    rw [findFrom] at h
    split at h
    · rename_i hs
      obtain ⟨r, hr⟩ := startsWith_iff.1 hs
      exact ⟨[], r, by simpa using hr, by simp_all⟩
    · obtain ⟨a, r, ht, hm⟩ := ih h
      exact ⟨c :: a, r, by simp [ht], by simp [hm]; omega⟩

theorem cut?_eq_append {p t a b : Text} (h : cut? p t = some (a, b)) : t = a ++ p ++ b := by
  obtain ⟨n, hn, he⟩ := Option.map_eq_some_iff.1 h
  obtain ⟨x, r, ht, hm⟩ := findFrom_eq_some hn
  obtain ⟨rfl, rfl⟩ := Prod.mk.injEq .. ▸ he
  subst ht
  simp [hm, List.drop_append]

theorem length_cut?_lt {p t a b : Text} (hp : p ≠ []) (h : cut? p t = some (a, b)) :
    b.length < t.length := by
  have hl : 0 < p.length := List.length_pos_iff.2 hp
  rw [cut?_eq_append h]
  simp only [List.length_append]
  omega

-- The pieces of `t` between the places where the separator stands. An empty separator cuts nothing.
def splitOn (sep t : Text) : List Text :=
  if _hp : sep = [] then [t]
  else
    match _h : cut? sep t with
    | none => [t]
    | some (a, b) => a :: splitOn sep b
termination_by t.length
decreasing_by exact length_cut?_lt _hp _h

-- Writes `s` in front of each of the first `n` characters, and at the end while `n` lasts.
def insertEach (s : Text) : Nat → Text → Text
  | 0, t => t
  | _ + 1, [] => s
  | n + 1, c :: t => s ++ c :: insertEach s n t

-- Replaces the first `n` places where `p` stands. The empty text stands before every character
-- and at the end.
def replaceFirst (p s : Text) : Nat → Text → Text
  | 0, t => t
  | n + 1, t =>
    if p = [] then insertEach s (n + 1) t
    else
      match cut? p t with
      | none => t
      | some (a, b) => a ++ s ++ replaceFirst p s n b

-- A text of `n` characters has at most `n + 1` places, so this replaces them all.
def replaceAll (p s t : Text) : Text := replaceFirst p s (t.length + 1) t

-- The longest start whose characters are all of one kind, and the rest.
def spanBy (p : Char → Bool) (t : Text) : Text × Text := (t.takeWhile p, t.dropWhile p)

-- Drops the characters of one kind from both ends.
def trimEndBy (p : Char → Bool) (t : Text) : Text := (t.reverse.dropWhile p).reverse

def trimBy (p : Char → Bool) (t : Text) : Text := trimEndBy p (t.dropWhile p)

-- Joins the pieces with the separator between them.
def join (sep : Text) : List Text → Text
  | [] => []
  | [t] => t
  | t :: ts => t ++ sep ++ join sep ts

end Text
end EdgeIncludes
