import EdgeIncludes.Text.Blank
import Mathlib.Data.List.DropRight

namespace EdgeIncludes
namespace Text

variable {c : Char} {g t : Text}

theorem dropWhile_eq_self {q : Char → Bool} (h : ∀ c ∈ t.head?, q c = false) :
    t.dropWhile q = t := by
  cases t with
  | nil => rfl
  | cons c t => rw [List.dropWhile_cons, h c rfl]; rfl

-- A text that neither starts nor ends in a character of a kind keeps its ends.
theorem trimBy_eq_self {q : Char → Bool} (hf : ∀ c ∈ t.head?, q c = false)
    (hl : ∀ c ∈ t.getLast?, q c = false) : trimBy q t = t := by
  rw [trimBy, trimEndBy, dropWhile_eq_self hf, dropWhile_eq_self (by simpa using hl),
    List.reverse_reverse]

theorem head?_dropWhile (q : Char → Bool) (t : Text) :
    ∀ c ∈ (t.dropWhile q).head?, q c = false := by
  intro c hc
  have h := List.head?_dropWhile_not q t
  rw [hc] at h
  exact h

-- What has been trimmed is trimmed.
theorem trimBy_trimBy (q : Char → Bool) (t : Text) : trimBy q (trimBy q t) = trimBy q t := by
  refine trimBy_eq_self (fun c hc => head?_dropWhile q t c ?_) fun c hc => ?_
  · obtain ⟨g, hg⟩ := List.rdropWhile_prefix q (t.dropWhile q)
    rw [← hg, List.head?_append]
    exact Option.or_eq_some_iff.2 (.inl hc)
  · rw [trimBy, trimEndBy, List.getLast?_reverse] at hc
    exact head?_dropWhile q _ c hc

theorem isBlankText_iff : isBlankText t = true ↔ ∀ c ∈ t, isBlank c = true :=
  List.all_eq_true

theorem dropWhile_isBlank_append (hg : isBlankText g = true) (t : Text) :
    (g ++ t).dropWhile isBlank = t.dropWhile isBlank :=
  List.dropWhile_append_of_pos (isBlankText_iff.1 hg)

theorem trimEnd_append (hg : isBlankText g = true) (t : Text) : trimEnd (t ++ g) = trimEnd t := by
  have hr : isBlankText g.reverse = true := by rw [isBlankText, List.all_reverse]; exact hg
  rw [trimEnd, trimEndBy, List.reverse_append, dropWhile_isBlank_append hr]
  rfl

theorem trimEnd_eq_self (h : ∀ c ∈ t.getLast?, isBlank c = false) : trimEnd t = t := by
  rw [trimEnd, trimEndBy, dropWhile_eq_self (by simpa using h), List.reverse_reverse]

theorem getLast?_trimEnd (t : Text) : ∀ c ∈ (trimEnd t).getLast?, isBlank c = false := by
  rw [trimEnd, trimEndBy, List.getLast?_reverse]
  exact head?_dropWhile isBlank _

theorem trim_eq (t : Text) : trim t = trimEnd (t.dropWhile isBlank) := rfl

theorem trim_dropWhile (t : Text) : trim (t.dropWhile isBlank) = trim t := by
  rw [trim_eq, dropWhile_eq_self (head?_dropWhile isBlank t), trim_eq]

theorem head?_trim (t : Text) : ∀ c ∈ (trim t).head?, isBlank c = false := by
  intro c hc
  refine head?_dropWhile isBlank t c ?_
  obtain ⟨g, hg⟩ := List.rdropWhile_prefix isBlank (t.dropWhile isBlank)
  rw [← hg, List.head?_append]
  exact Option.or_eq_some_iff.2 (.inl hc)

theorem dropWhile_append_cons (hc : isBlank c = false) (a t : Text) :
    (a ++ c :: t).dropWhile isBlank = a.dropWhile isBlank ++ c :: t := by
  rw [List.dropWhile_append]
  split
  · rename_i h
    rw [List.isEmpty_iff.1 h, List.dropWhile_cons_of_neg (by simp [hc]), List.nil_append]
  · rfl

-- A character that is not blank keeps the blanks on its other side.
theorem trim_append_cons (hc : isBlank c = false) (a t : Text) :
    trim (a ++ c :: t) = a.dropWhile isBlank ++ c :: trimEnd t := by
  have hback : (a.dropWhile isBlank ++ c :: t).reverse =
      t.reverse ++ c :: (a.dropWhile isBlank).reverse := by simp
  rw [trim_eq, dropWhile_append_cons hc, trimEnd, trimEndBy, hback, dropWhile_append_cons hc,
    List.reverse_append, List.reverse_cons, List.reverse_reverse, List.append_assoc]
  rfl

-- What is trimmed are blanks.
theorem isBlankText_takeWhile (t : Text) : isBlankText (t.takeWhile isBlank) = true :=
  List.all_takeWhile

theorem exists_trimEnd (t : Text) : ∃ g, isBlankText g = true ∧ t = trimEnd t ++ g := by
  refine ⟨(t.reverse.takeWhile isBlank).reverse, ?_, ?_⟩
  · rw [isBlankText, List.all_reverse]
    exact isBlankText_takeWhile _
  · rw [trimEnd, trimEndBy, ← List.reverse_append, List.takeWhile_append_dropWhile,
      List.reverse_reverse]

theorem exists_trim (t : Text) :
    ∃ b g, isBlankText b = true ∧ isBlankText g = true ∧ t = b ++ (trim t ++ g) := by
  obtain ⟨g, hg, ht⟩ := exists_trimEnd (t.dropWhile isBlank)
  refine ⟨t.takeWhile isBlank, g, isBlankText_takeWhile t, hg, ?_⟩
  rw [trim_eq, ← ht, List.takeWhile_append_dropWhile]

theorem trim_infix (t : Text) : trim t <:+: t := by
  obtain ⟨b, g, -, -, ht⟩ := exists_trim t
  exact ⟨b, g, by rw [List.append_assoc, ← ht]⟩

end Text
end EdgeIncludes
