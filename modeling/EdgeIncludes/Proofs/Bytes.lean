import EdgeIncludes.Proofs.Search
import EdgeIncludes.Text.Utf8

namespace EdgeIncludes
namespace Text

-- How many bytes the text takes.
def size (t : Text) : Nat := (Utf8.encode t).length

-- The text from a place on. There is none behind the end, nor from within a character.
def fromByte? : Text → Nat → Option Text
  | [], n => if n = 0 then some [] else none
  | c :: t, n =>
    if n = 0 then some (c :: t)
    else if size [c] ≤ n then fromByte? t (n - size [c])
    else none

-- The text up to a place.
def toByte? : Text → Nat → Option Text
  | [], n => if n = 0 then some [] else none
  | c :: t, n =>
    if n = 0 then some []
    else if size [c] ≤ n then (toByte? t (n - size [c])).map (c :: ·)
    else none

-- The text between two places.
def slice? (t : Text) (m n : Nat) : Option Text :=
  if m ≤ n then (fromByte? t m).bind (toByte? · (n - m)) else none

-- The first place where the text `p` stands.
def findByte? (p t : Text) : Option Nat := (find? p t).map fun n => size (t.take n)

variable {a b p r t : Text} {c : Char} {n : Nat}

@[simp] theorem size_append (a b : Text) : size (a ++ b) = size a + size b := by
  simp [size, Utf8.encode]

theorem size_cons (c : Char) (t : Text) : size (c :: t) = size [c] + size t :=
  size_append [c] t

theorem size_singleton_pos (c : Char) : 0 < size [c] := by
  simp only [size, Utf8.encode, List.flatMap_cons, List.flatMap_nil, List.append_nil,
    Utf8.encodeChar]
  split
  · exact Nat.zero_lt_succ _
  · split
    · exact Nat.zero_lt_succ _
    · split <;> exact Nat.zero_lt_succ _

@[simp] theorem fromByte?_zero (t : Text) : fromByte? t 0 = some t := by
  cases t <;> rfl

@[simp] theorem toByte?_zero (t : Text) : toByte? t 0 = some [] := by
  cases t <;> rfl

theorem fromByte?_append (a r : Text) : fromByte? (a ++ r) (size a) = some r := by
  induction a with
  | nil => exact fromByte?_zero r
  | cons c a ih =>
    have hpos := size_singleton_pos c
    rw [List.cons_append, fromByte?, size_cons, if_neg (by omega), if_pos (by omega),
      Nat.add_sub_cancel_left, ih]

theorem toByte?_append (a r : Text) : toByte? (a ++ r) (size a) = some a := by
  induction a with
  | nil => exact toByte?_zero r
  | cons c a ih =>
    have hpos := size_singleton_pos c
    rw [List.cons_append, toByte?, size_cons, if_neg (by omega), if_pos (by omega),
      Nat.add_sub_cancel_left, ih]
    rfl

-- The places that a text can be cut at.
theorem fromByte?_eq_some_iff : fromByte? t n = some r ↔ ∃ a, t = a ++ r ∧ n = size a := by
  constructor
  · intro h
    induction t generalizing n with
    | nil =>
      rw [fromByte?] at h
      split at h
      · rename_i hn
        exact ⟨[], by simpa using h, hn⟩
      · cases h
    | cons c t ih =>
      rw [fromByte?] at h
      split at h
      · rename_i hn
        exact ⟨[], Option.some.inj h, hn⟩
      · split at h
        · rename_i hle
          obtain ⟨a, rfl, ha⟩ := ih h
          exact ⟨c :: a, rfl, by rw [size_cons]; omega⟩
        · cases h
  · rintro ⟨a, rfl, rfl⟩
    exact fromByte?_append a r

theorem slice?_append (a b r : Text) :
    slice? (a ++ (b ++ r)) (size a) (size a + size b) = some b := by
  rw [slice?, if_pos (Nat.le_add_right _ _), fromByte?_append, Option.bind_some,
    Nat.add_sub_cancel_left, toByte?_append]

theorem findByte?_nil (hp : p ≠ []) : findByte? p [] = none := by
  cases p with
  | nil => exact absurd rfl hp
  | cons c p => rfl

theorem findFrom_eq_map (p : Text) (n : Nat) (t : Text) :
    findFrom p n t = (find? p t).map (n + ·) := by
  induction t generalizing n with
  | nil =>
    rw [find?, findFrom, findFrom]
    split <;> rfl
  | cons c t ih =>
    rw [find?, findFrom, findFrom]
    split
    · rfl
    · rw [ih, ih, Option.map_map]
      congr 1
      funext m
      simp only [Function.comp]
      omega

theorem findByte?_cons (p : Text) (c : Char) (t : Text) :
    findByte? p (c :: t) =
      if startsWith p (c :: t) then some 0 else (findByte? p t).map (size [c] + ·) := by
  rw [findByte?, find?, findFrom]
  split
  · rfl
  · rw [findFrom_eq_map, findByte?, Option.map_map, Option.map_map]
    congr 1
    funext n
    simp only [Function.comp]
    rw [Nat.zero_add, Nat.add_comm 1 n, List.take_succ_cons, size_cons]

end Text
end EdgeIncludes
