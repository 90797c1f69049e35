import EdgeIncludes.Text.Blank
import EdgeIncludes.Text.Percent
import Mathlib.Tactic.SplitIfs

namespace EdgeIncludes
namespace Text.Utf8

section Next

variable {n bits more low high : Nat} {b : UInt8}

theorem toNat_toUInt8 (h : n < 256) : n.toUInt8.toNat = n := Nat.mod_eq_of_lt h

-- A byte within the bounds adds its last six bits.
theorem follow_cons (hlow : low ≤ b.toNat) (hhigh : b.toNat ≤ high) (bs : List UInt8) :
    follow bits (more + 1) low high (b :: bs) =
      follow (bits * 64 + b.toNat % 64) more 0x80 0xBF bs := by
  rw [follow, if_pos (by simp [hlow, hhigh])]

theorem follow_zero (bits low high : Nat) (bs : List UInt8) :
    follow bits 0 low high bs = (some (Char.ofNat bits), bs) := by
  rw [follow]

theorem next_eq (h : lead? b = some ⟨bits, more, low, high⟩) (bs : List UInt8) :
    next b bs = follow bits more low high bs := by
  rw [next, h]

theorem next_one (h : n < 0x80) (bs : List UInt8) :
    next n.toUInt8 bs = (some (Char.ofNat n), bs) := by
  have hb : n.toUInt8.toNat = n := toNat_toUInt8 (by omega)
  have hl : lead? n.toUInt8 = some ⟨n, 0, 0x80, 0xBF⟩ := by
    rw [lead?, hb, if_pos h]
  rw [next_eq hl, follow_zero]

theorem next_two (hlow : 0x80 ≤ n) (hhigh : n < 0x800) (bs : List UInt8) :
    next (0xC0 + n / 64).toUInt8 ((0x80 + n % 64).toUInt8 :: bs) = (some (Char.ofNat n), bs) := by
  have hb : (0xC0 + n / 64).toUInt8.toNat = 0xC0 + n / 64 := toNat_toUInt8 (by omega)
  have hb₁ : (0x80 + n % 64).toUInt8.toNat = 0x80 + n % 64 := toNat_toUInt8 (by omega)
  have hl : lead? (0xC0 + n / 64).toUInt8 = some ⟨n / 64, 1, 0x80, 0xBF⟩ := by
    have hbits : (0xC0 + n / 64) % 32 = n / 64 := by omega
    rw [lead?, hb, if_neg (by omega), if_neg (by omega), if_pos (by omega), hbits]
  have hn : n / 64 * 64 + (0x80 + n % 64) % 64 = n := by omega
  rw [next_eq hl, follow_cons (by omega) (by omega), hb₁, hn, follow_zero]

-- The first byte bounds the second, so that no shorter form and no surrogate can be written.
theorem lead?_three (hlow : 0x800 ≤ n) (hhigh : n < 0x10000)
    (hsurrogate : n < 0xD800 ∨ 0xE000 ≤ n) :
    ∃ low high, lead? (0xE0 + n / 4096).toUInt8 = some ⟨n / 4096, 2, low, high⟩ ∧
      low ≤ 0x80 + n / 64 % 64 ∧ 0x80 + n / 64 % 64 ≤ high := by
  have hb : (0xE0 + n / 4096).toUInt8.toNat = 0xE0 + n / 4096 := toNat_toUInt8 (by omega)
  by_cases hfirst : n / 4096 = 0
  · refine ⟨0xA0, 0xBF, ?_, by omega, by omega⟩
    rw [lead?, hb, hfirst]
    rfl
  by_cases hlast : n / 4096 = 13
  · refine ⟨0x80, 0x9F, ?_, by omega, by omega⟩
    rw [lead?, hb, hlast]
    rfl
  have hbits : (0xE0 + n / 4096) % 16 = n / 4096 := by omega
  refine ⟨0x80, 0xBF, ?_, by omega, by omega⟩
  rw [lead?, hb, if_neg (by omega), if_neg (by omega), if_neg (by omega), if_neg (by omega),
    if_neg (by omega), if_pos (by omega), hbits]

theorem next_three (hlow : 0x800 ≤ n) (hhigh : n < 0x10000) (hsurrogate : n < 0xD800 ∨ 0xE000 ≤ n)
    (bs : List UInt8) :
    next (0xE0 + n / 4096).toUInt8
      ((0x80 + n / 64 % 64).toUInt8 :: (0x80 + n % 64).toUInt8 :: bs) =
        (some (Char.ofNat n), bs) := by
  obtain ⟨low, high, hl, hge, hle⟩ := lead?_three hlow hhigh hsurrogate
  have hb₁ : (0x80 + n / 64 % 64).toUInt8.toNat = 0x80 + n / 64 % 64 := toNat_toUInt8 (by omega)
  have hb₂ : (0x80 + n % 64).toUInt8.toNat = 0x80 + n % 64 := toNat_toUInt8 (by omega)
  have hn : (n / 4096 * 64 + (0x80 + n / 64 % 64) % 64) * 64 + (0x80 + n % 64) % 64 = n := by
    omega
  rw [next_eq hl, follow_cons (by omega) (by omega), follow_cons (by omega) (by omega), hb₁, hb₂,
    hn, follow_zero]

theorem lead?_four (hlow : 0x10000 ≤ n) (hhigh : n < 0x110000) :
    ∃ low high, lead? (0xF0 + n / 262144).toUInt8 = some ⟨n / 262144, 3, low, high⟩ ∧
      low ≤ 0x80 + n / 4096 % 64 ∧ 0x80 + n / 4096 % 64 ≤ high := by
  have hb : (0xF0 + n / 262144).toUInt8.toNat = 0xF0 + n / 262144 := toNat_toUInt8 (by omega)
  by_cases hfirst : n / 262144 = 0
  · refine ⟨0x90, 0xBF, ?_, by omega, by omega⟩
    rw [lead?, hb, hfirst]
    rfl
  by_cases hlast : n / 262144 = 4
  · refine ⟨0x80, 0x8F, ?_, by omega, by omega⟩
    rw [lead?, hb, hlast]
    rfl
  have hbits : (0xF0 + n / 262144) % 8 = n / 262144 := by omega
  refine ⟨0x80, 0xBF, ?_, by omega, by omega⟩
  rw [lead?, hb, if_neg (by omega), if_neg (by omega), if_neg (by omega), if_neg (by omega),
    if_neg (by omega), if_neg (by omega), if_neg (by omega), if_pos (by omega), hbits]

theorem next_four (hlow : 0x10000 ≤ n) (hhigh : n < 0x110000) (bs : List UInt8) :
    next (0xF0 + n / 262144).toUInt8 ((0x80 + n / 4096 % 64).toUInt8 ::
      (0x80 + n / 64 % 64).toUInt8 :: (0x80 + n % 64).toUInt8 :: bs) =
        (some (Char.ofNat n), bs) := by
  obtain ⟨low, high, hl, hge, hle⟩ := lead?_four hlow hhigh
  have hb₁ : (0x80 + n / 4096 % 64).toUInt8.toNat = 0x80 + n / 4096 % 64 :=
    toNat_toUInt8 (by omega)
  have hb₂ : (0x80 + n / 64 % 64).toUInt8.toNat = 0x80 + n / 64 % 64 := toNat_toUInt8 (by omega)
  have hb₃ : (0x80 + n % 64).toUInt8.toNat = 0x80 + n % 64 := toNat_toUInt8 (by omega)
  have hn : ((n / 262144 * 64 + (0x80 + n / 4096 % 64) % 64) * 64 +
      (0x80 + n / 64 % 64) % 64) * 64 + (0x80 + n % 64) % 64 = n := by
    omega
  rw [next_eq hl, follow_cons (by omega) (by omega), follow_cons (by omega) (by omega),
    follow_cons (by omega) (by omega), hb₁, hb₂, hb₃, hn, follow_zero]

end Next

-- Every character is read back from its bytes, whatever follows them.
theorem scan_encodeChar (c : Char) (bs : List UInt8) :
    scan (encodeChar c ++ bs) = some c :: scan bs := by
  have hvalid : c.toNat < 0xD800 ∨ 0xDFFF < c.toNat ∧ c.toNat < 0x110000 := c.valid
  have hread : ∀ {b r}, next b (r ++ bs) = (some (Char.ofNat c.toNat), bs) →
      scan (b :: r ++ bs) = some c :: scan bs := by
    intro b r h
    rw [List.cons_append, scan, h, Char.ofNat_toNat]
  rw [encodeChar]
  split
  · exact hread (next_one (by omega) bs)
  split
  · exact hread (next_two (by omega) (by omega) bs)
  split
  · exact hread (next_three (by omega) (by omega) (by omega) bs)
  · exact hread (next_four (by omega) (by omega) bs)

theorem scan_encode (t : Text) : scan (encode t) = t.map some := by
  induction t with
  | nil => rw [encode, List.flatMap_nil, scan]; rfl
  | cons c t ih =>
    rw [encode, List.flatMap_cons, scan_encodeChar, ← encode, ih, List.map_cons]

theorem scan_eq_map_some_iff {bs : List UInt8} {t : Text} :
    scan bs = t.map some ↔ decode? bs = some t := by
  rw [decode?]
  generalize scan bs = cs
  induction cs generalizing t with
  | nil => cases t <;> simp
  | cons c cs ih =>
    cases c with
    | none => cases t <;> simp [List.mapM_cons]
    | some c => cases t <;> simp [List.mapM_cons, ih] <;> cases cs.mapM id <;> simp

theorem decode?_encode (t : Text) : decode? (encode t) = some t :=
  scan_eq_map_some_iff.1 (scan_encode t)

theorem encode_injective {t u : Text} (h : encode t = encode u) : t = u :=
  Option.some.inj ((decode?_encode t).symm.trans (h ▸ decode?_encode u))

theorem encode_ne_nil {t : Text} (h : t ≠ []) : encode t ≠ [] := by
  obtain ⟨c, t, rfl⟩ := List.exists_cons_of_ne_nil h
  intro he
  have hs := scan_encode (c :: t)
  rw [he, scan] at hs
  cases hs

theorem toNat_ofNat {n : Nat} (h : n < 0xD800 ∨ 0xDFFF < n ∧ n < 0x110000) :
    (Char.ofNat n).toNat = n := by
  have hv : n.isValidChar := h
  rw [Char.ofNat, dif_pos hv]
  rfl

theorem toUInt8_eq {b : UInt8} {n : Nat} (h : b.toNat = n) : n.toUInt8 = b := by
  rw [← h]
  exact UInt8.ofNat_toNat

section Written

variable {n : Nat} (b b₁ b₂ b₃ : UInt8)

theorem encodeChar_one (h : n < 0x80) (hb : b.toNat = n) : encodeChar (Char.ofNat n) = [b] := by
  rw [encodeChar, toNat_ofNat (by omega)]
  simp only [if_pos h, toUInt8_eq hb]

theorem encodeChar_two (hlow : 0x80 ≤ n) (hhigh : n < 0x800) (hb : b.toNat = 0xC0 + n / 64)
    (hb₁ : b₁.toNat = 0x80 + n % 64) : encodeChar (Char.ofNat n) = [b, b₁] := by
  rw [encodeChar, toNat_ofNat (by omega)]
  simp only [if_neg (Nat.not_lt.2 hlow), if_pos hhigh, toUInt8_eq hb, toUInt8_eq hb₁]

theorem encodeChar_three (hlow : 0x800 ≤ n) (hhigh : n < 0x10000)
    (hsurrogate : n < 0xD800 ∨ 0xE000 ≤ n) (hb : b.toNat = 0xE0 + n / 4096)
    (hb₁ : b₁.toNat = 0x80 + n / 64 % 64) (hb₂ : b₂.toNat = 0x80 + n % 64) :
    encodeChar (Char.ofNat n) = [b, b₁, b₂] := by
  have hone : ¬ n < 0x80 := by omega
  rw [encodeChar, toNat_ofNat (by omega)]
  simp only [if_neg hone, if_neg (Nat.not_lt.2 hlow), if_pos hhigh, toUInt8_eq hb, toUInt8_eq hb₁,
    toUInt8_eq hb₂]

theorem encodeChar_four (hlow : 0x10000 ≤ n) (hhigh : n < 0x110000)
    (hb : b.toNat = 0xF0 + n / 262144) (hb₁ : b₁.toNat = 0x80 + n / 4096 % 64)
    (hb₂ : b₂.toNat = 0x80 + n / 64 % 64) (hb₃ : b₃.toNat = 0x80 + n % 64) :
    encodeChar (Char.ofNat n) = [b, b₁, b₂, b₃] := by
  have hone : ¬ n < 0x80 := by omega
  have htwo : ¬ n < 0x800 := by omega
  rw [encodeChar, toNat_ofNat (by omega)]
  simp only [if_neg hone, if_neg htwo, if_neg (Nat.not_lt.2 hlow), toUInt8_eq hb, toUInt8_eq hb₁,
    toUInt8_eq hb₂, toUInt8_eq hb₃]

end Written

section Read

variable {b : UInt8} {bs r : List UInt8} {c : Char} {bits more low high : Nat}

theorem exists_of_follow (h : follow bits (more + 1) low high bs = (some c, r)) :
    ∃ b bs', bs = b :: bs' ∧ (low ≤ b.toNat ∧ b.toNat ≤ high) ∧
      follow (bits * 64 + b.toNat % 64) more 0x80 0xBF bs' = (some c, r) := by
  cases bs with
  | nil => simp [follow] at h
  | cons b bs =>
    rw [follow] at h
    split at h
    · rename_i hb
      exact ⟨b, bs, rfl, by simpa using hb, h⟩
    · cases h

theorem follow_two (h : follow bits 1 low high bs = (some c, r)) :
    ∃ b₁, bs = b₁ :: r ∧ (low ≤ b₁.toNat ∧ b₁.toNat ≤ high) ∧
      c = Char.ofNat (bits * 64 + b₁.toNat % 64) := by
  obtain ⟨b₁, bs, rfl, hb₁, h⟩ := exists_of_follow h
  rw [follow_zero] at h
  cases h
  exact ⟨b₁, rfl, hb₁, rfl⟩

theorem follow_three (h : follow bits 2 low high bs = (some c, r)) :
    ∃ b₁ b₂, bs = b₁ :: b₂ :: r ∧ (low ≤ b₁.toNat ∧ b₁.toNat ≤ high) ∧
      (0x80 ≤ b₂.toNat ∧ b₂.toNat ≤ 0xBF) ∧
      c = Char.ofNat ((bits * 64 + b₁.toNat % 64) * 64 + b₂.toNat % 64) := by
  obtain ⟨b₁, bs, rfl, hb₁, h⟩ := exists_of_follow h
  obtain ⟨b₂, rfl, hb₂, rfl⟩ := follow_two h
  exact ⟨b₁, b₂, rfl, hb₁, hb₂, rfl⟩

theorem follow_four (h : follow bits 3 low high bs = (some c, r)) :
    ∃ b₁ b₂ b₃, bs = b₁ :: b₂ :: b₃ :: r ∧ (low ≤ b₁.toNat ∧ b₁.toNat ≤ high) ∧
      (0x80 ≤ b₂.toNat ∧ b₂.toNat ≤ 0xBF) ∧ (0x80 ≤ b₃.toNat ∧ b₃.toNat ≤ 0xBF) ∧
      c = Char.ofNat (((bits * 64 + b₁.toNat % 64) * 64 + b₂.toNat % 64) * 64 +
        b₃.toNat % 64) := by
  obtain ⟨b₁, bs, rfl, hb₁, h⟩ := exists_of_follow h
  obtain ⟨b₂, b₃, rfl, hb₂, hb₃, rfl⟩ := follow_three h
  exact ⟨b₁, b₂, b₃, rfl, hb₁, hb₂, hb₃, rfl⟩

-- What a first byte can announce. Its bounds for the second byte leave no shorter form, no
-- surrogate and nothing above the last character.
theorem lead?_cases {l : Lead} (h : lead? b = some l) :
    (l.more = 0 ∧ l.bits = b.toNat ∧ l.bits < 0x80) ∨
    (l.more = 1 ∧ 0xC0 + l.bits = b.toNat ∧ 2 ≤ l.bits ∧ l.bits < 0x20 ∧ l.low = 0x80 ∧
      l.high = 0xBF) ∨
    (l.more = 2 ∧ 0xE0 + l.bits = b.toNat ∧ l.bits < 0x10 ∧ 0x80 ≤ l.low ∧ l.high ≤ 0xBF ∧
      (l.bits ≠ 0 ∨ 0xA0 ≤ l.low) ∧ (l.bits ≠ 13 ∨ l.high ≤ 0x9F)) ∨
    (l.more = 3 ∧ 0xF0 + l.bits = b.toNat ∧ l.bits < 5 ∧ 0x80 ≤ l.low ∧ l.high ≤ 0xBF ∧
      (l.bits ≠ 0 ∨ 0x90 ≤ l.low) ∧ (l.bits ≠ 4 ∨ l.high ≤ 0x8F)) := by
  unfold lead? at h
  simp only at h
  split_ifs at h <;> cases h <;> dsimp only <;> omega

-- What is read as a character is written as its bytes.
theorem eq_encodeChar_append_of_next (h : next b bs = (some c, r)) :
    b :: bs = encodeChar c ++ r := by
  unfold next at h
  split at h
  · cases h
  · rename_i l hl
    obtain ⟨hmore, hb⟩ | ⟨hmore, hb⟩ | ⟨hmore, hb⟩ | ⟨hmore, hb⟩ := lead?_cases hl <;>
      rw [hmore] at h
    · rw [follow_zero] at h
      cases h
      rw [encodeChar_one b hb.2 hb.1.symm]
      rfl
    · obtain ⟨b₁, rfl, hb₁, rfl⟩ := follow_two h
      rw [encodeChar_two b b₁ (by omega) (by omega) (by omega) (by omega)]
      rfl
    · obtain ⟨b₁, b₂, rfl, hb₁, hb₂, rfl⟩ := follow_three h
      rw [encodeChar_three b b₁ b₂ (by omega) (by omega) (by omega) (by omega) (by omega)
        (by omega)]
      rfl
    · obtain ⟨b₁, b₂, b₃, rfl, hb₁, hb₂, hb₃, rfl⟩ := follow_four h
      rw [encodeChar_four b b₁ b₂ b₃ (by omega) (by omega) (by omega) (by omega) (by omega)
        (by omega)]
      rfl

theorem eq_encode_of_scan (bs : List UInt8) : ∀ t, scan bs = t.map some → bs = encode t := by
  fun_induction scan bs with
  | case1 =>
    intro t h
    cases t with
    | nil => rfl
    | cons c t => cases h
  | case2 b bs ih =>
    intro t h
    cases t with
    | nil => cases h
    | cons c t =>
      obtain ⟨hc, ht⟩ := List.cons.inj h
      have hn : next b bs = (some c, (next b bs).2) := Prod.ext hc rfl
      exact (eq_encodeChar_append_of_next hn).trans (congrArg (encodeChar c ++ ·) (ih t ht))

-- Bytes are read as a text when they are the bytes of this text.
theorem decode?_eq_some_iff {t : Text} : decode? bs = some t ↔ bs = encode t := by
  constructor
  · exact fun h => eq_encode_of_scan bs t (scan_eq_map_some_iff.2 h)
  · rintro rfl
    exact decode?_encode t

end Read

end Text.Utf8

namespace Text.Percent

-- The bytes that a text stands for. A percent sign with two hexadecimal digits behind it is one
-- byte, and every other character has its own bytes.
inductive StandsFor : Text → List UInt8 → Prop where
  | nil : StandsFor [] []
  | byte {b : UInt8} {x y : Char} {t : Text} {bs : List UInt8} :
    hexValue? x = some (b.toNat / 16) → hexValue? y = some (b.toNat % 16) → StandsFor t bs →
    StandsFor ('%' :: x :: y :: t) (b :: bs)
  | char {c : Char} {t : Text} {bs : List UInt8} :
    (∀ x y r, c :: t = '%' :: x :: y :: r → hexValue? x = none ∨ hexValue? y = none) →
    StandsFor t bs → StandsFor (c :: t) (Utf8.encodeChar c ++ bs)

theorem hexValue?_lt {c : Char} {n : Nat} (h : hexValue? c = some n) : n < 16 := by
  unfold hexValue? at h
  simp only [Bool.and_eq_true, decide_eq_true_eq] at h
  split_ifs at h <;> cases h <;> omega

theorem decode_byte {x y : Char} {b : UInt8} (hx : hexValue? x = some (b.toNat / 16))
    (hy : hexValue? y = some (b.toNat % 16)) (t : Text) :
    decode ('%' :: x :: y :: t) = b :: decode t := by
  have hb : 16 * (b.toNat / 16) + b.toNat % 16 = b.toNat := by omega
  rw [decode]
  simp only [hx, hy, hb]
  simp

theorem decode_char {c : Char} {t : Text}
    (h : ∀ x y r, c :: t = '%' :: x :: y :: r → hexValue? x = none ∨ hexValue? y = none) :
    decode (c :: t) = Utf8.encodeChar c ++ decode t := by
  rw [decode.eq_def (c :: t)]
  split
  · rename_i x y r he
    cases he
    split
    · rename_i hx hy
      rcases h x y r rfl with h | h
      · rw [hx] at h
        cases h
      · rw [hy] at h
        cases h
    · rfl
  · rename_i he
    cases he
    rfl
  · rename_i he
    cases he

theorem standsFor_decode (t : Text) : StandsFor t (decode t) := by
  fun_induction decode t with
  | case1 a b t x y hy hx ih =>
    have hxlt := hexValue?_lt hx
    have hylt := hexValue?_lt hy
    have hb : (16 * x + y).toUInt8.toNat = 16 * x + y := Nat.mod_eq_of_lt (by omega)
    have hhigh : (16 * x + y) / 16 = x := by omega
    have hlow : (16 * x + y) % 16 = y := by omega
    exact .byte (by rw [hb, hhigh, hx]) (by rw [hb, hlow, hy]) ih
  | case2 a b t h ih => 
    refine .char ?_ ih
    rintro x y r ⟨⟩
    cases hx : hexValue? a with
    | none => exact .inl rfl
    | some x =>
      cases hy : hexValue? b with
      | none => exact .inr rfl
      | some y => exact (h x y hx hy).elim
  | case3 c t h ih => 
    refine .char ?_ ih
    rintro x y r ⟨⟩
    exact (h _ _ _ rfl rfl).elim
  | case4 => exact .nil

theorem standsFor_iff {t : Text} {bs : List UInt8} : StandsFor t bs ↔ decode t = bs := by
  constructor
  · intro h
    induction h with
    | nil => rfl
    | byte hx hy _ ih => rw [decode_byte hx hy, ih]
    | char hc _ ih => rw [decode_char hc, ih]
  · rintro rfl
    exact standsFor_decode t

-- The bytes, each as a percent sign with two hexadecimal digits in either case.
inductive Spelled : List UInt8 → Text → Prop where
  | nil : Spelled [] []
  | cons {b : UInt8} {bs : List UInt8} {x y : Char} {t : Text} :
      hexValue? x = some (b.toNat / 16) → hexValue? y = some (b.toNat % 16) → Spelled bs t →
      Spelled (b :: bs) ('%' :: x :: y :: t)

theorem hexValue?_hexDigit : ∀ n : Fin 16, hexValue? (hexDigit n) = some n.val := by decide

theorem spelled_encodeByte (bs : List UInt8) : Spelled bs (bs.flatMap encodeByte) := by
  induction bs with
  | nil => exact .nil
  | cons b bs ih =>
    have hb : b.toNat < 256 := b.toNat_lt
    rw [List.flatMap_cons]
    exact .cons (hexValue?_hexDigit ⟨_, by omega⟩) (hexValue?_hexDigit ⟨_, by omega⟩) ih

theorem hexValue?_eq_none {c : Char} (h : isBlank c = true) : hexValue? c = none := by
  simp only [isBlank, Bool.or_eq_true, Bool.and_eq_true, decide_eq_true_eq] at h
  rw [hexValue?, if_neg (by simp; omega), if_neg (by simp; omega), if_neg (by simp; omega)]

namespace Spelled

variable {bs : List UInt8} {t : Text}

theorem standsFor (h : Spelled bs t) : StandsFor t bs := by
  induction h with
  | nil => exact .nil
  | cons hx hy _ ih => exact .byte hx hy ih

theorem decode_eq (h : Spelled bs t) : decode t = bs := standsFor_iff.1 h.standsFor

-- Nothing else stands in it.
theorem not_mem (h : Spelled bs t) {c : Char} (hc : c ≠ '%') (hh : hexValue? c = none) : c ∉ t := by
  induction h with
  | nil => exact List.not_mem_nil
  | @cons b bs x y t hx hy _ ih =>
    have hne : ∀ {d : Char} {n : Nat}, hexValue? d = some n → c ≠ d := by
      rintro d n hd rfl
      rw [hh] at hd
      cases hd
    simp [hc, hne hx, hne hy, ih]

theorem ne_nil (h : Spelled bs t) (hbs : bs ≠ []) : t ≠ [] := by
  cases h with
  | nil => exact absurd rfl hbs
  | cons => simp

end Spelled

end Text.Percent
end EdgeIncludes
