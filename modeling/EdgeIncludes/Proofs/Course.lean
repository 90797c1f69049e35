import EdgeIncludes.Proofs.Afresh

namespace EdgeIncludes
namespace Markup

-- The nodes that a reader passes between two places of a text.
inductive Course (ns : Text) : Text → List Element → Text → Prop where
  | done {t : Text} : Course ns t [] t
  | element {t u rest : Text} {e : Element} {es : List Element} :
    elementAfresh ns t = some (e, u) → Course ns u es rest → Course ns t (e :: es) rest
  | char {c : Char} {r rest : Text} {es : List Element} :
    elementAfresh ns (c :: r) = none → Course ns r es rest →
    Course ns (c :: r) (Element.consRaw [c] es) rest

section Marks

variable {ns name mark t r : Text}

theorem not_cons_slash_eq (ns a b : Text) : '/' :: (ns ++ a) ≠ ns ++ ':' :: b := by
  induction ns with
  | nil => simp
  | cons c ns ih =>
    rintro h
    obtain ⟨rfl, h⟩ := List.cons.inj h
    exact ih h

-- No element begins where an end tag stands, whatever the namespace.
theorem startsWith_openMark_of_endTag? (h : endTag? (closeMark ns name) t = some r) :
    Text.startsWith (openMark ns) t = false := by
  obtain ⟨g, -, rfl⟩ := endTag?_eq_some_iff.1 h
  refine Bool.eq_false_iff.2 fun hs => ?_
  obtain ⟨b, hb⟩ := Text.startsWith_iff.1 hs
  refine not_cons_slash_eq ns (':' :: (name ++ (g ++ '>' :: r))) b ?_
  simpa [openMark, closeMark] using hb

theorem endTag?_nil (mark : Text) : endTag? mark [] = none := by
  rcases h : endTag? mark [] with _ | r
  · rfl
  · obtain ⟨g, -, hg⟩ := endTag?_eq_some_iff.1 h
    simp at hg

theorem findEnd_eq_none_iff : findEnd mark t = none ↔ ∀ a, a <:+ t → endTag? mark a = none := by
  induction t with
  | nil => simp [findEnd, endTag?_nil]
  | cons c t ih =>
    rw [findEnd]
    constructor
    · intro h a ha
      split at h
      · cases h
      · rename_i hn
        rcases List.suffix_cons_iff.1 ha with rfl | ha
        · exact Option.not_isSome_iff_eq_none.1 hn
        · exact ih.1 h a ha
    · intro h
      rw [h _ List.suffix_rfl, if_neg (by simp)]
      exact ih.2 fun a ha => h a (ha.trans (List.suffix_cons c t))

theorem isSome_endTag?_of_findEnd (h : findEnd mark t = some r) :
    (endTag? mark r).isSome = true := by
  induction t with
  | nil => cases h
  | cons c t ih =>
    rw [findEnd] at h
    split at h
    · rename_i hs
      exact Option.some.inj h ▸ hs
    · exact ih h

end Marks

section Course

variable {ns t u rest name : Text} {closing : Option Text} {es us : List Element} {e : Element}
  {c : Char} {r : Text}

theorem Course.source (h : Course ns t es rest) : t = sourceOf es ++ rest := by
  induction h with
  | done => rfl
  | element he _ ih =>
    rw [elementAfresh_source he, ih]
    simp [sourceOf]
  | char _ _ ih =>
    rw [ih, sourceOf_consRaw]
    rfl

theorem Course.suffix (h : Course ns t es rest) : rest <:+ t := ⟨sourceOf es, h.source.symm⟩

theorem Course.trans (h : Course ns t es u) (h' : Course ns u us rest) :
    ∃ vs, Course ns t vs rest := by
  induction h with
  | done => exact ⟨us, h'⟩
  | element he _ ih =>
    obtain ⟨vs, hv⟩ := ih h'
    exact ⟨_, .element he hv⟩
  | char hn _ ih =>
    obtain ⟨vs, hv⟩ := ih h'
    exact ⟨_, .char hn hv⟩

theorem contentAfresh_of_char (h : elementAfresh ns (c :: r) = none)
    (hc : closing.bind (endTag? · (c :: r)) = none) :
    contentAfresh ns closing (c :: r) = (contentAfresh ns closing r).consRaw [c] := by
  rw [contentAfresh_eq_step, stepAfresh, h, hc]
  simp

theorem contentAfresh_of_closeMark (h : (endTag? (closeMark ns name) t).isSome = true) :
    contentAfresh ns (some (closeMark ns name)) t = some ([], t) := by
  obtain ⟨r, hr⟩ := Option.isSome_iff_exists.1 h
  exact contentAfresh_of_endTag (startsWith_openMark_of_endTag? hr) hr

-- What is read is passed on the way, and there is an end tag behind it.
theorem contentAfresh_eq_some (h : contentAfresh ns closing t = some (es, rest)) :
    Course ns t es rest ∧ ∀ mark ∈ closing, (endTag? mark rest).isSome = true := by
  induction hn : t.length using Nat.strong_induction_on generalizing t es with
  | _ n ih =>
    subst hn
    cases contentForm_of_eq_some h with
    | finish hc => exact ⟨.done, by simp [hc]⟩
    | stop hc hr =>
      refine ⟨.done, ?_⟩
      rintro mark hm
      obtain rfl := Option.some.inj (hc.symm.trans hm)
      simp [hr]
    | element he hes =>
      obtain ⟨hcourse, hend⟩ := ih _ (length_elementAfresh_lt he) hes rfl
      exact ⟨.element he hcourse, hend⟩
    | char he hes =>
      obtain ⟨hcourse, hend⟩ := ih _ (by simp) hes rfl
      exact ⟨.char he hcourse, hend⟩

-- A document is read to its end.
theorem Course.document (h : Course ns t es []) : contentAfresh ns none t = some (es, []) := by
  generalize hr : ([] : Text) = rest at h
  induction h with
  | done =>
    subst hr
    rw [contentAfresh_eq_step]
    rfl
  | element he _ ih => rw [contentAfresh_of_element he, ih hr]; rfl
  | char hn _ ih => rw [contentAfresh_of_char hn rfl, ih hr]; rfl

-- A reader that comes to its end tag stops there, if it has not stopped before.
theorem Course.exists_content (h : Course ns t es u)
    (hu : (endTag? (closeMark ns name) u).isSome = true) :
    ∃ us r, contentAfresh ns (some (closeMark ns name)) t = some (us, r) ∧ u <:+ r := by
  induction h with
  | done => exact ⟨[], _, contentAfresh_of_closeMark hu, List.suffix_rfl⟩
  | element he _ ih =>
    obtain ⟨us, r, hr, hs⟩ := ih hu
    exact ⟨_, r, by rw [contentAfresh_of_element he, hr]; rfl, hs⟩
  | @char c v rest es hn hv ih =>
    by_cases hend : (endTag? (closeMark ns name) (c :: v)).isSome = true
    · exact ⟨[], _, contentAfresh_of_closeMark hend, hv.suffix.trans (List.suffix_cons c v)⟩
    · obtain ⟨us, r, hr, hs⟩ := ih hu
      refine ⟨Element.consRaw [c] us, r, ?_, hs⟩
      rw [contentAfresh_of_char hn (by simpa using hend), hr]
      rfl

end Course

section Elements

variable {ns t body r rest name : Text} {s : StartTag} {e : Element} {children : List Element}

theorem isSome_endTag?_of_bodyAfresh (h : bodyAfresh ns name body = some (children, r)) :
    (endTag? (closeMark ns name) r).isSome = true := by
  rcases bodyAfresh_cases h with ⟨-, hf, -⟩ | ⟨-, hc⟩
  · exact isSome_endTag?_of_findEnd hf
  · exact (contentAfresh_eq_some hc).2 _ rfl

theorem bodyAfresh_eq_none (h : ∀ a, a <:+ body → endTag? (closeMark ns name) a = none) :
    bodyAfresh ns name body = none := by
  rcases hb : bodyAfresh ns name body with _ | ⟨children, r⟩
  · rfl
  · have hend := isSome_endTag?_of_bodyAfresh hb
    rw [h r (suffix_of_bodyAfresh hb)] at hend
    cases hend

-- Every start tag begins an element.
theorem elementAfresh_eq_none_iff : elementAfresh ns t = none ↔ startTag? ns t = none := by
  refine ⟨fun h => ?_, elementAfresh_eq_none⟩
  rcases hs : startTag? ns t with _ | ⟨s, body⟩
  · rfl
  rw [elementAfresh_eq hs] at h
  rcases hf : (if s.selfClosing then none else bodyAfresh ns s.name body) with _ | ⟨children, r⟩
  · rw [hf] at h
    cases h
  · have hb : bodyAfresh ns s.name body = some (children, r) := by
      split at hf
      · cases hf
      · exact hf
    obtain ⟨rest, hr⟩ := Option.isSome_iff_exists.1 (isSome_endTag?_of_bodyAfresh hb)
    rw [hf, elementOf, hr] at h
    cases h

end Elements
end Markup
end EdgeIncludes
