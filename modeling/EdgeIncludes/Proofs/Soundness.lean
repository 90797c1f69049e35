import EdgeIncludes.Proofs.Course
import EdgeIncludes.Proofs.Element
import EdgeIncludes.Proofs.Memory

namespace EdgeIncludes
namespace Markup

variable {ns t body : Text} {closing : Option Text} {seen : Unclosed}

-- Where a content may end: in front of its end tag, or at the end of the document.
def StopsAt : Option Text → Text → Prop
  | none, rest => rest = []
  | some mark, rest => (endTag? mark rest).isSome = true

-- What reading a content comes to. Only an end tag can be missing.
structure ContentSound (closing : Option Text) (t : Text) (c : Content) : Prop where
  found : closing = none → c ≠ none
  stop {es : List Element} {rest : Text} : c = some (es, rest) → rest <:+ t ∧ StopsAt closing rest

-- What reading an element comes to. Only a start tag can be missing.
structure ElementSound (ns t : Text) (r : Option (Element × Text)) : Prop where
  missing : r = none → startTag? ns t = none
  behind {e : Element} {rest : Text} : r = some (e, rest) →
    rest <:+ t ∧ rest.length < t.length ∧ ∃ tag children, e = .tag tag children

namespace ContentSound

variable {c : Content} {r : Text}

theorem consRaw (h : ContentSound closing r c) (hr : r <:+ t) (a : Text) :
    ContentSound closing t (c.consRaw a) where
  found hc hn := h.found hc (Option.map_eq_none_iff.1 hn)
  stop hs := by
    obtain ⟨es, hs, -⟩ := Content.consRaw_eq_some_iff.1 hs
    exact ⟨(h.stop hs).1.trans hr, (h.stop hs).2⟩

theorem cons (h : ContentSound closing r c) (hr : r <:+ t) (e : Element) :
    ContentSound closing t (c.cons e) where
  found hc hn := h.found hc (Option.map_eq_none_iff.1 hn)
  stop hs := by
    obtain ⟨es, hs, -⟩ := Content.cons_eq_some_iff.1 hs
    exact ⟨(h.stop hs).1.trans hr, (h.stop hs).2⟩

end ContentSound

theorem readBody_stop {name e : Text} {children : List Element}
    (hc : ∀ closing, ContentSound closing body (readContent ns closing seen body).1)
    (h : (readBody ns name seen body).1 = some (children, e)) :
    e <:+ body ∧ (endTag? (closeMark ns name) e).isSome = true := by
  rw [readBody] at h
  split at h
  · obtain ⟨r, hf, he⟩ := Option.map_eq_some_iff.1 h
    obtain ⟨rfl, rfl⟩ := Prod.mk.inj he
    exact ⟨suffix_of_findEnd hf, isSome_endTag?_of_findEnd hf⟩
  · exact (hc _).stop h

theorem elementSound_readElement
    (hc : ∀ closing body, body.length < t.length →
      ContentSound closing body (readContent ns closing seen body).1) :
    ElementSound ns t (readElement ns seen t).1 := by
  rcases hs : startTag? ns t with _ | ⟨s, body⟩
  · rw [readElement_eq_none hs]
    exact ⟨fun _ => hs, by rintro e rest ⟨⟩⟩
  have hlt := length_startTag?_lt hs
  have hbody := suffix_of_startTag? hs
  have halone : ElementSound ns t (elementOf ns t s body none) := by
    refine ⟨by rintro ⟨⟩, ?_⟩
    rintro e rest ⟨⟩
    exact ⟨hbody, hlt, _, _, rfl⟩
  cases hk : s.selfClosing || seen.contains (body.length, s.name) with
  | true =>
    rw [readElement_eq_alone hs hk]
    exact halone
  | false =>
    rw [readElement_eq hs hk]
    rcases hf : (readBody ns s.name seen body).1 with _ | ⟨children, e⟩
    · exact halone
    · obtain ⟨he, hend⟩ := readBody_stop (fun closing => hc closing body hlt) hf
      obtain ⟨rest, hr⟩ := Option.isSome_iff_exists.1 hend
      have hrest := (suffix_of_endTag? hr).trans he
      dsimp only
      rw [elementOf, hr]
      refine ⟨by rintro ⟨⟩, ?_⟩
      rintro e' rest' ⟨⟩
      exact ⟨hrest.trans hbody, hrest.length_le.trans_lt hlt, _, _, rfl⟩

theorem contentSound_readContent
    (he : ∀ u seen, u.length ≤ t.length → ElementSound ns u (readElement ns seen u).1)
    (hc : ∀ u seen, u.length < t.length →
      ContentSound closing u (readContent ns closing seen u).1) :
    ContentSound closing t (readContent ns closing seen t).1 := by
  have ht := List.drop_suffix (gap ns closing t) t
  rcases hu : t.drop (gap ns closing t) with _ | ⟨c, r⟩
  · rw [readContent_of_nil hu]
    cases closing with
    | none => exact ⟨nofun, by rintro es rest ⟨⟩; exact ⟨List.nil_suffix, rfl⟩⟩
    | some mark => exact ⟨nofun, nofun⟩
  rw [hu] at ht
  have hr : r <:+ t := (List.suffix_cons c r).trans ht
  have hlt : r.length < t.length := ht.length_le
  have hpast : ∀ seen', ContentSound closing t
      ((readContent ns closing seen' r).1.consRaw (t.take (gap ns closing t) ++ [c])) :=
    fun seen' => (hc r seen' hlt).consRaw hr _
  cases ho : Text.startsWith (openMark ns) (c :: r) with
  | true =>
    have hsound := he (c :: r) seen ht.length_le
    rcases hf : readElement ns seen (c :: r) with ⟨_ | ⟨e, rest⟩, seen'⟩
    · rw [readContent_of_char hu hf (.inl ho)]
      exact hpast seen'
    · rw [hf] at hsound
      obtain ⟨hrest, hl, -⟩ := hsound.behind rfl
      have hl := hl.trans_le ht.length_le
      rw [readContent_of_element hu ho hf hl]
      exact ((hc rest seen' hl).cons (hrest.trans ht) e).consRaw List.suffix_rfl _
  | false =>
    cases hend : (closing.bind (endTag? · (c :: r))).isSome with
    | true =>
      rw [readContent_of_endTag hu ho hend]
      cases closing with
      | none => cases hend
      | some mark => exact ⟨nofun, by rintro es rest ⟨⟩; exact ⟨ht, hend⟩⟩
    | false =>
      have hnone : readElement ns seen (c :: r) = (none, seen) :=
        readElement_eq_none (startTag?_eq_none ho)
      rw [readContent_of_char hu hnone (.inr ⟨rfl, hend⟩)]
      exact hpast seen

-- Whatever the reader remembers.
theorem reading_sound (ns : Text) :
    (∀ closing t seen, ContentSound closing t (readContent ns closing seen t).1) ∧
      ∀ t seen, ElementSound ns t (readElement ns seen t).1 := by
  apply reading_induction
  case hQ =>
    intro t ih seen
    exact elementSound_readElement fun closing body hl => ih closing body hl seen
  case hP =>
    intro closing t hQ ih seen
    exact contentSound_readContent (fun u seen hl => hQ u hl seen) fun u seen hl => ih u hl seen

end Markup
end EdgeIncludes
