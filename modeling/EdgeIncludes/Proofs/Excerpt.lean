import EdgeIncludes.Proofs.Course
import EdgeIncludes.Proofs.Element
import EdgeIncludes.Proofs.Source
import Mathlib.Data.List.Infix

namespace EdgeIncludes

theorem Text.taken_append_append (t r b : Text) : taken (t ++ b) (r ++ b) = taken t r := by
  rw [taken, List.length_append, List.length_append, Nat.add_sub_add_right,
    List.take_append_of_le_length (Nat.sub_le _ _)]
  rfl

namespace Markup

section Tags

variable {ns name mark x y z r b : Text} {s : StartTag}

theorem startTag?_append_right (h : startTag? ns x = some (s, b)) (y : Text) :
    startTag? ns (x ++ y) = some (s, b ++ y) := by
  obtain ⟨u, hu, rfl⟩ := exists_startText h
  rw [List.append_assoc]
  exact hu.read _

theorem startTag?_of_append (h : startTag? ns (x ++ y) = some (s, b ++ y)) :
    startTag? ns x = some (s, b) := by
  obtain ⟨u, hu, hx⟩ := exists_startText h
  rw [← List.append_assoc] at hx
  rw [List.append_cancel_right hx]
  exact hu.read b

theorem endTag?_append_right (h : endTag? mark x = some r) (y : Text) :
    endTag? mark (x ++ y) = some (r ++ y) := by
  obtain ⟨g, hg, rfl⟩ := endTag?_eq_some_iff.1 h
  exact endTag?_eq_some_iff.2 ⟨g, hg, by simp⟩

theorem isSome_endTag?_append (h : (endTag? mark x).isSome = true) (y : Text) :
    (endTag? mark (x ++ y)).isSome = true := by
  obtain ⟨r, hr⟩ := Option.isSome_iff_exists.1 h
  rw [endTag?_append_right hr]
  rfl

theorem endTag?_of_append (h : endTag? mark (x ++ y) = some (r ++ y)) :
    endTag? mark x = some r := by
  obtain ⟨g, hg, hx⟩ := endTag?_eq_some_iff.1 h
  refine endTag?_eq_some_iff.2 ⟨g, hg, ?_⟩
  rw [← List.cons_append, ← List.append_assoc, ← List.append_assoc] at hx
  simpa using List.append_cancel_right hx

theorem elementAfresh_eq_none_of_append (h : elementAfresh ns (x ++ y) = none) :
    elementAfresh ns x = none := by
  rw [elementAfresh_eq_none_iff] at h ⊢
  rcases hs : startTag? ns x with _ | ⟨s, b⟩
  · rfl
  · rw [startTag?_append_right hs] at h
    cases h

theorem findEnd_of_append (h : findEnd mark (x ++ y) = some (r ++ y))
    (hr : (endTag? mark r).isSome = true) : findEnd mark x = some r := by
  induction x with
  | nil =>
    have hl := (suffix_of_findEnd h).length_le
    simp only [List.nil_append, List.length_append] at hl
    obtain rfl := List.eq_nil_of_length_eq_zero (l := r) (by omega)
    rw [endTag?_nil] at hr
    cases hr
  | cons c x ih =>
    rw [List.cons_append, findEnd] at h
    rw [findEnd]
    split at h
    · rw [← List.cons_append] at h
      obtain rfl := List.append_cancel_right (Option.some.inj h)
      rw [if_pos hr]
    · rename_i hn
      rw [if_neg fun hs => hn (isSome_endTag?_append hs y)]
      exact ih h

theorem findEnd_eq_none_of_append (h : findEnd mark (x ++ y) = none) : findEnd mark x = none := by
  rw [findEnd_eq_none_iff] at h ⊢
  rintro a ⟨k, rfl⟩
  have hn := h (a ++ y) ⟨k, by simp⟩
  by_contra hs
  have := isSome_endTag?_append (Option.isSome_iff_ne_none.2 hs) y
  simp [hn] at this

-- Without the character that begins a mark, text is passed character by character.
theorem exists_course_of_not_mem (ns : Text) {a : Text} (ha : '<' ∉ a) (w : Text) :
    ∃ es, Course ns (a ++ w) es w := by
  induction a with
  | nil => exact ⟨[], .done⟩
  | cons c a ih =>
    obtain ⟨hc, ha⟩ := List.ne_and_not_mem_of_not_mem_cons ha
    obtain ⟨es, hes⟩ := ih ha
    refine ⟨_, .char (elementAfresh_eq_none_of_not_startsWith ?_) hes⟩
    simp [openMark, Text.startsWith_cons, hc]

theorem not_mem_of_isGapText {g : Text} (hg : Text.IsGapText g) : '<' ∉ g :=
  fun hm => Bool.false_ne_true (hg '<' hm)

theorem not_mem_of_isName {n : Text} (hn : IsName isTagNameChar n) : '<' ∉ n :=
  fun hm => Bool.false_ne_true (hn.chars '<' hm)

-- No element begins in an end tag. A namespace with the first character of a mark might have one
-- begin there and go on behind it.
theorem exists_course_of_endTag? (hns : '<' ∉ ns) (hname : '<' ∉ name)
    (h : endTag? (closeMark ns name) x = some r) : ∃ es, Course ns x es r := by
  have hopen := elementAfresh_eq_none_of_not_startsWith (startsWith_openMark_of_endTag? h)
  obtain ⟨g, hg, rfl⟩ := endTag?_eq_some_iff.1 h
  have hbody : '<' ∉ '/' :: (ns ++ (':' :: (name ++ (g ++ ['>'])))) := by
    simp [hns, hname, not_mem_of_isGapText hg]
  have hx : closeMark ns name ++ (g ++ '>' :: r) =
      '<' :: ('/' :: (ns ++ (':' :: (name ++ (g ++ ['>'])))) ++ r) := by simp [closeMark]
  obtain ⟨es, hes⟩ := exists_course_of_not_mem ns hbody r
  rw [hx] at hopen ⊢
  exact ⟨_, .char hopen hes⟩

end Tags

-- What reading `x ++ y` as far as `y` says on reading `x`. The same nodes are passed, an end tag
-- that is found in `x` is found again, and one that is missing is missing in `x`.
structure Cut (ns x y : Text) (es : List Element) : Prop where
  course : Course ns x es []
  found {name : Text} {us : List Element} {r : Text} :
    contentAfresh ns (some (closeMark ns name)) (x ++ y) = some (us, r ++ y) →
    (endTag? (closeMark ns name) r).isSome = true →
    contentAfresh ns (some (closeMark ns name)) x = some (us, r)
  missing {name : Text} :
    contentAfresh ns (some (closeMark ns name)) (x ++ y) = none →
    contentAfresh ns (some (closeMark ns name)) x = none

section Cut

variable {ns name x y z r b : Text} {e : Element} {es us children : List Element} {c : Char}

theorem bodyAfresh_of_append (h : name ≠ verbatimName → ∃ es, Cut ns b y es)
    (hf : bodyAfresh ns name (b ++ y) = some (children, r ++ y))
    (hr : (endTag? (closeMark ns name) r).isSome = true) :
    bodyAfresh ns name b = some (children, r) := by
  rw [bodyAfresh]
  rcases bodyAfresh_cases hf with ⟨hv, hfound, rfl⟩ | ⟨hv, hfound⟩
  · rw [if_pos hv, findEnd_of_append hfound hr]
    rfl
  · obtain ⟨es, hcut⟩ := h hv
    rw [if_neg hv, hcut.found hfound hr]

theorem Cut.body_missing (h : Cut ns b y es) (hf : bodyAfresh ns name (b ++ y) = none) :
    bodyAfresh ns name b = none := by
  rw [bodyAfresh] at hf ⊢
  split
  · rename_i hv
    rw [if_pos hv, Option.map_eq_none_iff] at hf
    rw [findEnd_eq_none_of_append hf]
    rfl
  · rename_i hv
    rw [if_neg hv] at hf
    exact h.missing hf

-- An element in front of the cut is read as it is in the whole text. Its search for an end tag may
-- run past the cut, but only in vain.
theorem elementAfresh_cut (hns : '<' ∉ ns) (h : elementAfresh ns (x ++ y) = some (e, z ++ y))
    (hz : Course ns (z ++ y) es y)
    (ih : ∀ b us, b.length < x.length → Course ns (b ++ y) us y → Cut ns b y us) :
    elementAfresh ns x = some (e, z) := by
  obtain ⟨s, body, hs, h⟩ := elementAfresh_cases h
  have hbody : z ++ y <:+ body := by
    rcases h with ⟨-, rfl, -⟩ | ⟨-, children, r, hb, hr, -⟩
    · exact List.suffix_rfl
    · exact (suffix_of_endTag? hr).trans (suffix_of_bodyAfresh hb)
  obtain ⟨k, rfl⟩ := hbody
  rw [← List.append_assoc] at hs h
  generalize hb : k ++ z = b at hs h
  have hsx := startTag?_of_append hs
  have hlt := length_startTag?_lt hsx
  rw [elementAfresh_eq hsx]
  rcases h with ⟨rfl, hzb, hwhy⟩ | ⟨hself, children, r₀, hb₀, hr₀, rfl⟩
  · obtain rfl := List.append_cancel_right hzb
    have hnone : (if s.selfClosing then none else bodyAfresh ns s.name z) = none := by
      rcases hwhy with hself | hmissing
      · rw [if_pos hself]
      · rw [(ih z es hlt hz).body_missing hmissing, ite_self]
    rw [hnone, elementOf, Text.taken_append_append]
  · -- The content ends in front of an end tag, and behind that the reader goes on to the cut.
    obtain ⟨g, hg, rfl⟩ := endTag?_eq_some_iff.1 hr₀
    generalize hr : closeMark ns s.name ++ (g ++ '>' :: z) = r
    have hry : closeMark ns s.name ++ (g ++ '>' :: (z ++ y)) = r ++ y := by simp [← hr]
    rw [hry] at hb₀ hr₀ ⊢
    have hend := endTag?_of_append hr₀
    obtain ⟨u, hu, -⟩ := exists_startText hsx
    obtain ⟨as, hthrough⟩ := exists_course_of_endTag? hns (not_mem_of_isName hu.isName) hr₀
    have hcut : s.name ≠ verbatimName → ∃ us, Cut ns b y us := by
      intro hv
      obtain ⟨hn, -⟩ | ⟨-, hcontent⟩ := bodyAfresh_cases hb₀
      · exact absurd hn hv
      · obtain ⟨vs, hvs⟩ := (contentAfresh_eq_some hcontent).1.trans hthrough
        obtain ⟨us, hus⟩ := hvs.trans hz
        exact ⟨us, ih b us hlt hus⟩
    rw [hself, if_neg Bool.false_ne_true, bodyAfresh_of_append hcut hb₀ (by rw [hend]; rfl),
      elementOf, hend]
    simp only [Option.map_some, Text.taken_append_append]

theorem Course.eq_nil (h : Course ns y es y) : es = [] := by
  have hlt : ∀ {u : Text}, u.length < y.length → ¬y <:+ u := fun hu hs => by
    have := hs.length_le
    omega
  cases h with
  | done => rfl
  | element he hes => exact absurd hes.suffix (hlt (length_elementAfresh_lt he))
  | char _ hes => exact absurd hes.suffix (hlt (by simp))

theorem Content.cons_eq_none_iff {k : Content} : k.cons e = none ↔ k = none :=
  Option.map_eq_none_iff

theorem Content.consRaw_eq_none_iff {a : Text} {k : Content} : k.consRaw a = none ↔ k = none :=
  Option.map_eq_none_iff

theorem Cut.nil (ns y : Text) : Cut ns [] y [] where
  course := .done
  found := by
    intro name us r h hr
    have hl := (contentAfresh_eq_some h).1.suffix.length_le
    simp only [List.nil_append, List.length_append] at hl
    obtain rfl := List.eq_nil_of_length_eq_zero (l := r) (by omega)
    rw [endTag?_nil] at hr
    cases hr
  missing := by
    intro name _
    rw [contentAfresh_eq_step]
    rfl

theorem Cut.cons (h : Cut ns z y es) (hxy : elementAfresh ns (x ++ y) = some (e, z ++ y))
    (hx : elementAfresh ns x = some (e, z)) : Cut ns x y (e :: es) where
  course := .element hx h.course
  found := by
    intro name us r hc hr
    rw [contentAfresh_of_element hxy] at hc
    rw [contentAfresh_of_element hx]
    obtain ⟨us', hus, rfl⟩ := Content.cons_eq_some_iff.1 hc
    exact Content.cons_eq_some_iff.2 ⟨us', h.found hus hr, rfl⟩
  missing := by
    intro name hc
    rw [contentAfresh_of_element hxy, Content.cons_eq_none_iff] at hc
    rw [contentAfresh_of_element hx, Content.cons_eq_none_iff]
    exact h.missing hc

-- The whole text ends the content at a character, or it is passed with the cut and without it.
theorem contentAfresh_char_cut (hn : elementAfresh ns (c :: (z ++ y)) = none) (name : Text) :
    contentAfresh ns (some (closeMark ns name)) (c :: (z ++ y)) = some ([], c :: (z ++ y)) ∨
      contentAfresh ns (some (closeMark ns name)) (c :: (z ++ y)) =
          (contentAfresh ns (some (closeMark ns name)) (z ++ y)).consRaw [c] ∧
        contentAfresh ns (some (closeMark ns name)) (c :: z) =
          (contentAfresh ns (some (closeMark ns name)) z).consRaw [c] := by
  by_cases hend : (endTag? (closeMark ns name) (c :: (z ++ y))).isSome = true
  · exact .inl (contentAfresh_of_closeMark hend)
  · have hz : ¬(endTag? (closeMark ns name) (c :: z)).isSome = true :=
      fun hs => hend (isSome_endTag?_append hs y)
    exact .inr ⟨contentAfresh_of_char hn (by simpa using hend),
      contentAfresh_of_char (elementAfresh_eq_none_of_append (y := y) hn) (by simpa using hz)⟩

theorem Cut.consRaw (h : Cut ns z y es) (hn : elementAfresh ns (c :: (z ++ y)) = none) :
    Cut ns (c :: z) y (Element.consRaw [c] es) where
  course := .char (elementAfresh_eq_none_of_append (y := y) hn) h.course
  found := by
    intro name us r hc hr
    rw [List.cons_append] at hc
    rcases contentAfresh_char_cut hn name with hstop | ⟨hxy, hx⟩
    · rw [hstop, ← List.cons_append] at hc
      obtain ⟨rfl, hcr⟩ := Prod.mk.inj (Option.some.inj hc)
      obtain rfl := List.append_cancel_right hcr
      exact contentAfresh_of_closeMark hr
    · rw [hxy] at hc
      rw [hx]
      obtain ⟨us', hus, rfl⟩ := Content.consRaw_eq_some_iff.1 hc
      exact Content.consRaw_eq_some_iff.2 ⟨us', h.found hus hr, rfl⟩
  missing := by
    intro name hc
    rw [List.cons_append] at hc
    rcases contentAfresh_char_cut hn name with hstop | ⟨hxy, hx⟩
    · rw [hstop] at hc
      cases hc
    · rw [hxy, Content.consRaw_eq_none_iff] at hc
      rw [hx, Content.consRaw_eq_none_iff]
      exact h.missing hc

-- Cutting a text where its reader comes by does not change what is in front of the cut.
theorem Course.cut (hns : '<' ∉ ns) (h : Course ns (x ++ y) es y) : Cut ns x y es := by
  induction hn : x.length using Nat.strong_induction_on generalizing x es with
  | _ n ih =>
    subst hn
    have ih : ∀ b us, b.length < x.length → Course ns (b ++ y) us y → Cut ns b y us :=
      fun b us hl hb => ih b.length hl hb rfl
    cases x with
    | nil =>
      obtain rfl := h.eq_nil
      exact .nil ns y
    | cons c x =>
      generalize hw : c :: x ++ y = w at h
      cases h with
      | done =>
        have := congrArg List.length hw
        simp only [List.length_append, List.length_cons] at this
        omega
      | element he hes =>
        subst hw
        obtain ⟨z, rfl⟩ := hes.suffix
        have hx := elementAfresh_cut hns he hes ih
        exact (ih z _ (length_elementAfresh_lt hx) hes).cons he hx
      | char hn hes =>
        obtain ⟨rfl, rfl⟩ := List.cons.inj hw
        exact (ih x _ (by simp) hes).consRaw hn

end Cut

-- Reading is compositional: the content of an element, read by itself, gives its children.
theorem read_content (ns document : Text) (hns : '<' ∉ ns) (tag : Tag) (children : List Element)
    (ho : Occurs tag children (read ns document)) (hv : tag.name ≠ verbatimName) (c : Text)
    (hc : tag.content = some c) : read ns c = children := by
  obtain ⟨u, v, hu⟩ := (occurs_afresh ns).1 _ _ _ _ (exists_read ns document) _ _ ho
  obtain ⟨s, body, -, ⟨he, -, -⟩ | ⟨-, us, r, hb, -, he⟩⟩ := elementAfresh_cases hu
  · obtain ⟨rfl, rfl⟩ := Element.tag.inj he
    cases hc
  · obtain ⟨rfl, rfl⟩ := Element.tag.inj he
    obtain rfl : Text.taken body r = c := Option.some.inj hc
    obtain ⟨hn, -⟩ | ⟨-, hcontent⟩ := bodyAfresh_cases hb
    · exact absurd hn hv
    · have hcourse := (contentAfresh_eq_some hcontent).1
      rw [← Text.taken_append_self hcourse.suffix] at hcourse
      have hread := exists_read ns (Text.taken body r)
      rw [(hcourse.cut hns).course.document] at hread
      exact (Prod.mk.inj (Option.some.inj hread)).1.symm

-- An element in which another is left open. The search for the end tag of the inner one runs past
-- the end tag of the outer one.
def leftOpen : Element := .tag ⟨['b'], [], "<x:b>".toList, none⟩ []

def enclosing : Tag := ⟨['a'], [], "<x:a><x:b>t</x:a>".toList, some "<x:b>t".toList⟩

theorem startTag?_enclosing : startTag? "x".toList enclosing.markup =
    some (⟨['a'], [], false⟩, "<x:b>t</x:a>".toList) :=
  startTag?_bare _ _ (List.cons_ne_nil 'a' []) (List.forall_mem_singleton.2 (by decide))

theorem read_enclosing :
    read "x".toList enclosing.markup = [.tag enclosing [leftOpen, .raw ['t']]] := by
  have hmissing : ∀ a ∈ ('t' :: "</x:a>".toList).tails,
      endTag? (closeMark "x".toList ['b']) a = none := by decide
  have hopen : elementAfresh "x".toList "<x:b>t</x:a>".toList =
      some (leftOpen, 't' :: "</x:a>".toList) := by
    have hs : startTag? "x".toList "<x:b>t</x:a>".toList =
        some (⟨['b'], [], false⟩, 't' :: "</x:a>".toList) :=
      startTag?_bare _ _ (List.cons_ne_nil 'b' []) (List.forall_mem_singleton.2 (by decide))
    have hb := bodyAfresh_eq_none fun a ha => hmissing a ((List.mem_tails _ _).2 ha)
    exact (elementAfresh_eq hs).trans (by rw [if_neg Bool.false_ne_true, hb]; rfl)
  have hbody : bodyAfresh "x".toList ['a'] "<x:b>t</x:a>".toList =
      some ([leftOpen, .raw ['t']], "</x:a>".toList) := by
    have ht : elementAfresh "x".toList ('t' :: "</x:a>".toList) = none :=
      elementAfresh_eq_none_of_not_startsWith (by decide)
    rw [bodyAfresh, if_neg (by decide), contentAfresh_of_element hopen,
      contentAfresh_of_char ht (by decide), contentAfresh_of_closeMark (by decide)]
    rfl
  have houter : elementAfresh "x".toList enclosing.markup =
      some (.tag enclosing [leftOpen, .raw ['t']], []) :=
    (elementAfresh_eq startTag?_enclosing).trans (by rw [if_neg Bool.false_ne_true, hbody]; rfl)
  have hread := exists_read "x".toList enclosing.markup
  rw [(Course.element houter .done).document] at hread
  exact (Prod.mk.inj (Option.some.inj hread)).1.symm

theorem read_content_leftOpen :
    '<' ∉ "x".toList ∧
      Occurs enclosing [leftOpen, .raw ['t']] (read "x".toList enclosing.markup) ∧
      enclosing.name ≠ verbatimName ∧ enclosing.content = some "<x:b>t".toList ∧
      read "x".toList "<x:b>t".toList = [leftOpen, .raw ['t']] := by
  have hns : '<' ∉ "x".toList := by decide
  have ho : Occurs enclosing [leftOpen, .raw ['t']] (read "x".toList enclosing.markup) := by
    rw [read_enclosing]
    exact .here (List.mem_singleton_self _)
  have hv : enclosing.name ≠ verbatimName := by decide
  exact ⟨hns, ho, hv, rfl, read_content _ _ hns _ _ ho hv _ rfl⟩

end Markup
end EdgeIncludes
