import EdgeIncludes.Markup.Delimiter
import EdgeIncludes.Proofs.Search
import Mathlib.Data.List.TakeWhile

namespace EdgeIncludes

namespace Text

variable {p : Char → Bool} {c : Char} {a r t v : Text}

theorem spanBy_append (ha : ∀ c ∈ a, p c = true) (hr : ∀ c ∈ r.head?, p c = false) :
    spanBy p (a ++ r) = (a, r) := by
  rw [spanBy, List.takeWhile_append_of_pos ha, List.dropWhile_append_of_pos ha]
  cases r with
  | nil => simp
  | cons c r => simp [hr c rfl]

-- A gap may be empty.
def IsGapText (t : Text) : Prop := ∀ c ∈ t, isGap c = true

theorem isGapText_nil : IsGapText [] := fun _ hc => absurd hc List.not_mem_nil

theorem skipGap_append (ha : IsGapText a) (hr : ∀ c ∈ r.head?, isGap c = false) :
    skipGap (a ++ r) = r :=
  congrArg Prod.snd (spanBy_append ha hr)

theorem exists_gap (t : Text) : ∃ g, IsGapText g ∧ t = g ++ skipGap t :=
  ⟨t.takeWhile isGap, fun _ hc => List.mem_takeWhile_imp hc, List.takeWhile_append_dropWhile.symm⟩

theorem skipGap_suffix (t : Text) : skipGap t <:+ t := List.dropWhile_suffix _

theorem skipGap_eq_self (h : ∀ c ∈ t.head?, isGap c = false) : skipGap t = t :=
  skipGap_append (a := []) nofun h

-- A trimmed text does not end with a gap.
theorem eq_nil_of_skipGap (hr : r <:+ trim t) (hgap : skipGap r = []) : r = [] := by
  by_contra hne
  obtain ⟨a, ha⟩ := hr
  obtain ⟨g, hg, hrg⟩ := exists_gap r
  rw [hgap, List.append_nil] at hrg
  have hlast : (trim t).getLast? = some (r.getLast hne) := by
    rw [← ha, List.getLast?_append, List.getLast?_eq_some_getLast hne, Option.some_or]
  have hfirst := head?_dropWhile isBlank (t.dropWhile isBlank).reverse
  have hblank : isBlank (r.getLast hne) = true :=
    isBlank_of_isGap (hg _ (hrg ▸ List.getLast_mem hne))
  rw [trim, trimBy, trimEndBy, List.getLast?_reverse] at hlast
  rw [hfirst _ hlast] at hblank
  cases hblank

theorem exists_skipGap? (h : skipGap? t = some r) : ∃ g, g ≠ [] ∧ IsGapText g ∧ t = g ++ r := by
  cases t with
  | nil => simp [skipGap?] at h
  | cons c t =>
    rw [skipGap?] at h
    split at h
    · rename_i hc
      obtain rfl := Option.some.inj h
      obtain ⟨g, hg, ht⟩ := exists_gap t
      exact ⟨c :: g, by simp, List.forall_mem_cons.2 ⟨hc, hg⟩, by rw [List.cons_append, ← ht]⟩
    · simp at h

theorem skipGap?_append (hne : a ≠ []) (ha : IsGapText a) (hr : ∀ c ∈ r.head?, isGap c = false) :
    skipGap? (a ++ r) = some r := by
  cases a with
  | nil => exact absurd rfl hne
  | cons c a =>
    obtain ⟨hc, ha⟩ := List.forall_mem_cons.1 ha
    rw [List.cons_append, skipGap?, if_pos hc, skipGap_append ha hr]

-- The cut is made where the character first stands.
theorem cut?_singleton_eq_some_iff : cut? [c] t = some (v, r) ↔ c ∉ v ∧ t = v ++ c :: r := by
  constructor
  · intro h
    have ht : t = v ++ c :: r := by simpa using cut?_eq_append h
    have hm : c ∈ t := by simp [ht]
    obtain ⟨a, b, ha, hv⟩ := List.eq_append_cons_of_mem hm
    have hcut : cut? [c] t = some (a, b) := by simpa [ha] using cut?_append (p := []) (r := b) hv
    rw [h] at hcut
    obtain ⟨rfl, rfl⟩ := Prod.mk.inj (Option.some.inj hcut)
    exact ⟨hv, ht⟩
  · rintro ⟨hv, rfl⟩
    simpa using cut?_append (p := []) (r := r) hv

end Text

namespace Markup

open Text (IsGapText)

structure IsName (p : Char → Bool) (n : Text) : Prop where
  ne_nil : n ≠ []
  chars : ∀ c ∈ n, p c = true

instance (p : Char → Bool) (n : Text) : Decidable (IsName p n) :=
  decidable_of_iff (n ≠ [] ∧ n.all p = true)
    ⟨fun h => ⟨h.1, List.all_eq_true.1 h.2⟩, fun h => ⟨h.ne_nil, List.all_eq_true.2 h.chars⟩⟩

section Names

variable {p : Char → Bool} {n r t : Text}

theorem exists_name? (h : name? p t = some (n, r)) : IsName p n ∧ t = n ++ r := by
  unfold name? at h
  split at h
  · simp at h
  · rename_i hne
    obtain ⟨rfl, rfl⟩ := Prod.mk.inj (Option.some.inj h)
    exact ⟨⟨fun hn => hne _ (Prod.ext hn rfl), fun c hc => List.mem_takeWhile_imp hc⟩,
      List.takeWhile_append_dropWhile.symm⟩

theorem name?_append (hn : IsName p n) (hr : ∀ c ∈ r.head?, p c = false) :
    name? p (n ++ r) = some (n, r) := by
  rw [name?, Text.spanBy_append hn.chars hr]
  split
  · rename_i he
    exact absurd (congrArg Prod.fst he) hn.ne_nil
  · rfl

end Names

-- An attribute with its gap in front. The value may hold quotes of the other kind.
inductive AttributeText : Text × Text → Text → Prop where
  | intro {front name before after value : Text} {quote : Char} :
    front ≠ [] → IsGapText front → IsName isAttributeNameChar name → IsGapText before →
    IsGapText after → quote = '"' ∨ quote = '\'' → quote ∉ value →
    AttributeText (name, value)
      (front ++ (name ++ (before ++ '=' :: (after ++ quote :: (value ++ [quote])))))

inductive AttributesText : List (Text × Text) → Text → Prop where
  | nil : AttributesText [] []
  | cons {a : Text × Text} {as : List (Text × Text)} {u w : Text} :
    AttributeText a u → AttributesText as w → AttributesText (a :: as) (u ++ w)

def endMark (selfClosing : Bool) : Text := if selfClosing then ['/', '>'] else ['>']

structure StartText (ns : Text) (s : StartTag) (u : Text) : Prop where
  isName : IsName isTagNameChar s.name
  form : ∃ w g, AttributesText s.attributes w ∧ IsGapText g ∧
    u = openMark ns ++ (s.name ++ (w ++ (g ++ endMark s.selfClosing)))

section Tags

variable {ns mark t u r w g : Text} {a : Text × Text} {as : List (Text × Text)} {s : StartTag}

theorem isGap_eq_false_of_isAttributeNameChar {c : Char} (h : isAttributeNameChar c = true) :
    Text.isGap c = false := by
  by_contra hc
  simp only [Bool.not_eq_false, Text.isGap, Bool.or_eq_true, decide_eq_true_eq] at hc
  rcases hc with ((rfl | rfl) | rfl) | rfl <;> exact absurd h (by decide)

theorem isAttributeNameChar_of_isTagNameChar {c : Char} (h : isTagNameChar c = true) :
    isAttributeNameChar c = true := by
  rw [isAttributeNameChar, h, Bool.true_or]

theorem head?_name {n : Text} (hn : IsName isAttributeNameChar n) (r : Text) :
    ∀ c ∈ (n ++ r).head?, Text.isGap c = false := by
  obtain ⟨hne, hn⟩ := hn
  cases n with
  | nil => exact absurd rfl hne
  | cons d n =>
    rintro c ⟨⟩
    exact isGap_eq_false_of_isAttributeNameChar (hn d (List.mem_cons_self ..))

-- The characters of a gap and of the end of a tag are in no name.
theorem head?_gap {p : Char → Bool} (hp : ∀ c, Text.isGap c = true → p c = false) {c : Char}
    (hc : p c = false) (hg : IsGapText g) : ∀ x ∈ (g ++ c :: r).head?, p x = false := by
  intro x hx
  cases g with
  | nil => exact Option.some.inj hx ▸ hc
  | cons d g => exact Option.some.inj hx ▸ hp d (hg d (List.mem_cons_self ..))

theorem isAttributeNameChar_eq_false_of_isGap {c : Char} (h : Text.isGap c = true) :
    isAttributeNameChar c = false := by
  by_contra hc
  rw [isGap_eq_false_of_isAttributeNameChar (Bool.not_eq_false _ ▸ hc)] at h
  exact Bool.false_ne_true h

theorem quotedValue?_eq_some_iff {v : Text} :
    quotedValue? t = some (v, r) ↔
      ∃ q, (q = '"' ∨ q = '\'') ∧ q ∉ v ∧ t = q :: (v ++ q :: r) := by
  cases t with
  | nil => simp [quotedValue?]
  | cons c t =>
    rw [quotedValue?]
    split
    · rename_i hc
      rw [Text.cut?_singleton_eq_some_iff]
      constructor
      · rintro ⟨hv, rfl⟩
        exact ⟨c, by simpa using hc, hv, rfl⟩
      · rintro ⟨q, -, hv, ht⟩
        obtain ⟨rfl, rfl⟩ := List.cons.inj ht
        exact ⟨hv, rfl⟩
    · rename_i hc
      constructor
      · intro h
        cases h
      · rintro ⟨q, hq, -, ht⟩
        obtain ⟨rfl, rfl⟩ := List.cons.inj ht
        exact absurd (by simpa using hq) hc

theorem exists_attributeText (h : attribute? t = some (a, r)) :
    ∃ u, AttributeText a u ∧ t = u ++ r := by
  simp only [attribute?, Option.bind_eq_bind, Option.bind_eq_some_iff, Option.pure_def,
    Prod.exists] at h
  obtain ⟨t₁, h₁, name, t₂, h₂, t₃, h₃, value, t₄, h₄, he⟩ := h
  obtain ⟨rfl, rfl⟩ := Prod.mk.inj (Option.some.inj he)
  obtain ⟨front, hne, hf, rfl⟩ := Text.exists_skipGap? h₁
  obtain ⟨hn, rfl⟩ := exists_name? h₂
  obtain ⟨before, hb, ht₂⟩ := Text.exists_gap t₂
  obtain ⟨after, ha, ht₃⟩ := Text.exists_gap t₃
  obtain ⟨q, hq, hv, hs⟩ := quotedValue?_eq_some_iff.1 h₄
  refine ⟨_, .intro hne hf hn hb ha hq hv, ?_⟩
  rw [ht₂, Text.after?_eq_some_iff.1 h₃, ht₃, hs]
  simp

theorem AttributeText.read (h : AttributeText a u) (r : Text) :
    attribute? (u ++ r) = some (a, r) := by
  obtain ⟨hne, hf, hn, hb, ha, hq, hv⟩ := h
  rename_i front name before after value q
  have hgap : ∀ c ∈ (q :: (value ++ q :: r)).head?, Text.isGap c = false := by
    rintro c ⟨⟩
    rcases hq with rfl | rfl <;> rfl
  have hequals : ∀ x, Text.after? ['='] ('=' :: x) = some x := Text.after?_append ['=']
  have hvalue := (quotedValue?_eq_some_iff (r := r)).2 ⟨q, hq, hv, rfl⟩
  simp only [attribute?, Option.bind_eq_bind, List.append_assoc, List.cons_append, List.nil_append]
  rw [Text.skipGap?_append hne hf (head?_name hn _), Option.bind_some,
    name?_append hn (head?_gap (fun _ => isAttributeNameChar_eq_false_of_isGap) rfl hb),
    Option.bind_some, Text.skipGap_append hb (by rintro c ⟨⟩; rfl), hequals, Option.bind_some,
    Text.skipGap_append ha hgap, hvalue]
  rfl

theorem exists_attributesText (t : Text) :
    ∃ w, AttributesText (attributes t).1 w ∧ t = w ++ (attributes t).2 := by
  fun_induction attributes t with
  | case1 t => exact ⟨[], .nil, rfl⟩
  | case2 t a r h hl as r' he ih =>
    obtain ⟨u, hu, rfl⟩ := exists_attributeText h
    obtain ⟨w, hw, hr⟩ := ih
    rw [he] at hw hr
    exact ⟨u ++ w, .cons hu hw, by rw [List.append_assoc, ← hr]⟩
  | case3 t => exact ⟨[], .nil, rfl⟩

theorem AttributesText.read (h : AttributesText as w) (hr : attribute? r = none) :
    attributes (w ++ r) = (as, r) := by
  induction h with
  | nil => rw [List.nil_append, attributes, hr]
  | @cons a as u w hu _ ih =>
    have hl : (w ++ r).length < (u ++ (w ++ r)).length := by
      obtain ⟨hne⟩ := hu
      have := List.length_pos_iff.2 hne
      simp only [List.length_append]
      omega
    rw [List.append_assoc, attributes, hu.read]
    simp only [hl, if_true, ih]

theorem exists_endMark (b : Bool) (r : Text) :
    ∃ c r', endMark b ++ r = c :: r' ∧ isAttributeNameChar c = false ∧ Text.isGap c = false := by
  cases b with
  | false => exact ⟨'>', r, rfl, rfl, rfl⟩
  | true => exact ⟨'/', '>' :: r, rfl, rfl, rfl⟩

-- The end of a tag begins no attribute.
theorem attribute?_endMark (hg : IsGapText g) (b : Bool) (r : Text) :
    attribute? (g ++ (endMark b ++ r)) = none := by
  obtain ⟨c, r', he, hc, hgap⟩ := exists_endMark b r
  have hname : name? isAttributeNameChar (c :: r') = none := by simp [name?, Text.spanBy, hc]
  rw [he, attribute?]
  by_cases hne : g = []
  · simp [hne, Text.skipGap?, hgap]
  · rw [Text.skipGap?_append hne hg (by rintro x ⟨⟩; exact hgap)]
    simp only [Option.bind_eq_bind, Option.bind_some, hname, Option.bind_none]

-- A tag name ends in front of the attributes.
theorem AttributesText.head? (h : AttributesText as w) (hg : IsGapText g) (b : Bool) (r : Text) :
    ∀ c ∈ (w ++ (g ++ (endMark b ++ r))).head?, isTagNameChar c = false := by
  have hname : ∀ c, isAttributeNameChar c = false → isTagNameChar c = false := by
    intro c hc
    by_contra ht
    rw [isAttributeNameChar_of_isTagNameChar (Bool.not_eq_false _ ▸ ht)] at hc
    cases hc
  have hgap : ∀ c, Text.isGap c = true → isTagNameChar c = false :=
    fun c hc => hname c (isAttributeNameChar_eq_false_of_isGap hc)
  cases h with
  | nil =>
    obtain ⟨c, r', he, hc, -⟩ := exists_endMark b r
    rw [he]
    exact head?_gap hgap (hname c hc) hg
  | cons hu _ =>
    cases hu with
    | @intro front _ _ _ _ _ hne hf =>
      cases front with
      | nil => exact absurd rfl hne
      | cons c front =>
        rintro x ⟨⟩
        exact hgap c (hf c (List.mem_cons_self ..))

theorem exists_tagEnd? {b : Bool} (h : tagEnd? t = some (b, r)) :
    ∃ g, IsGapText g ∧ t = g ++ (endMark b ++ r) := by
  obtain ⟨g, hg, ht⟩ := Text.exists_gap t
  refine ⟨g, hg, ht.trans (congrArg (g ++ ·) ?_)⟩
  rw [tagEnd?] at h
  split at h
  · rename_i hs
    obtain ⟨rfl, rfl⟩ := Prod.mk.inj (Option.some.inj h)
    exact hs
  · rename_i hs
    obtain ⟨rfl, rfl⟩ := Prod.mk.inj (Option.some.inj h)
    exact hs
  · cases h

theorem tagEnd?_append (hg : IsGapText g) (b : Bool) (r : Text) :
    tagEnd? (g ++ (endMark b ++ r)) = some (b, r) := by
  rw [tagEnd?, Text.skipGap_append hg]
  · cases b <;> rfl
  · cases b <;> (rintro c ⟨⟩; rfl)

theorem StartText.read (h : StartText ns s u) (r : Text) : startTag? ns (u ++ r) = some (s, r) := by
  obtain ⟨hn, w, g, hw, hg, rfl⟩ := h
  simp only [startTag?, Option.bind_eq_bind, List.append_assoc]
  rw [Text.after?_append, Option.bind_some, name?_append hn (hw.head? hg _ r), Option.bind_some,
    hw.read (attribute?_endMark hg _ r), tagEnd?_append hg]
  rfl

theorem startTag?_eq_none (h : Text.startsWith (openMark ns) t = false) : startTag? ns t = none := by
  have ha : Text.after? (openMark ns) t = none := by simpa [Text.startsWith] using h
  rw [startTag?, ha]
  rfl

theorem exists_startText (h : startTag? ns t = some (s, r)) : ∃ u, StartText ns s u ∧ t = u ++ r := by
  simp only [startTag?, Option.bind_eq_bind, Option.bind_eq_some_iff, Option.pure_def,
    Prod.exists] at h
  obtain ⟨t₁, h₁, name, t₂, h₂, b, t₃, h₃, he⟩ := h
  obtain ⟨rfl, rfl⟩ := Prod.mk.inj (Option.some.inj he)
  obtain ⟨hn, rfl⟩ := exists_name? h₂
  obtain ⟨w, hw, ht₂⟩ := exists_attributesText t₂
  obtain ⟨g, hg, ht₃⟩ := exists_tagEnd? h₃
  refine ⟨_, ⟨hn, w, g, hw, hg, rfl⟩, ?_⟩
  rw [Text.after?_eq_some_iff.1 h₁, ht₂, ht₃]
  simp only [List.append_assoc]

theorem endTag?_eq_some_iff :
    endTag? mark t = some r ↔ ∃ g, IsGapText g ∧ t = mark ++ (g ++ '>' :: r) := by
  constructor
  · intro h
    obtain ⟨t₁, h₁, h₂⟩ := Option.bind_eq_some_iff.1 h
    obtain ⟨g, hg, ht⟩ := Text.exists_gap t₁
    refine ⟨g, hg, ?_⟩
    rw [Text.after?_eq_some_iff.1 h₁, ht, Text.after?_eq_some_iff.1 h₂]
    rfl
  · rintro ⟨g, hg, rfl⟩
    rw [endTag?, Text.after?_append, Option.bind_some,
      Text.skipGap_append hg (by rintro c ⟨⟩; rfl)]
    exact Text.after?_append ['>'] r

end Tags
end Markup
end EdgeIncludes
