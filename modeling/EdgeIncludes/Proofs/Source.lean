import EdgeIncludes.Proofs.Memory

namespace EdgeIncludes

-- An element stands in a list of nodes or at some depth below it.
inductive Occurs (t : Tag) (children : List Element) : List Element → Prop where
  | here {es : List Element} : .tag t children ∈ es → Occurs t children es
  | inside {es us : List Element} {u : Tag} :
    .tag u us ∈ es → Occurs t children us → Occurs t children es

namespace Occurs

variable {t u : Tag} {children us es : List Element} {e : Element} {a : Text}

theorem not_nil (h : Occurs t children []) : False := by
  cases h with
  | here hm => cases hm
  | inside hm _ => cases hm

theorem mono {es' : List Element} (h : Occurs t children es) (hs : es ⊆ es') :
    Occurs t children es' := by
  cases h with
  | here hm => exact .here (hs hm)
  | inside hm hb => exact .inside (hs hm) hb

theorem cons (h : Occurs t children (e :: es)) :
    Occurs t children [e] ∨ Occurs t children es := by
  cases h with
  | here hm =>
    rcases List.mem_cons.1 hm with rfl | hm
    · exact .inl (.here (List.mem_singleton_self _))
    · exact .inr (.here hm)
  | inside hm hb =>
    rcases List.mem_cons.1 hm with rfl | hm
    · exact .inl (.inside (List.mem_singleton_self _) hb)
    · exact .inr (.inside hm hb)

theorem singleton (h : Occurs t children [.tag u us]) :
    (t = u ∧ children = us) ∨ Occurs t children us := by
  cases h with
  | here hm =>
    obtain ⟨rfl, rfl⟩ := Element.tag.inj (List.mem_singleton.1 hm)
    exact .inl ⟨rfl, rfl⟩
  | inside hm hb =>
    obtain ⟨rfl, rfl⟩ := Element.tag.inj (List.mem_singleton.1 hm)
    exact .inr hb

-- Raw text holds no elements.
theorem of_consRaw (h : Occurs t children (Element.consRaw a es)) : Occurs t children es := by
  have hraw : ∀ x, ¬Occurs t children [.raw x] := by
    intro x hx
    cases hx with
    | here hm => cases List.mem_singleton.1 hm
    | inside hm _ => cases List.mem_singleton.1 hm
  unfold Element.consRaw at h
  split at h
  · exact h
  · split at h
    · rename_i v vs
      exact (h.cons.resolve_left (hraw (a ++ v))).mono (List.subset_cons_self _ _)
    · exact h.cons.resolve_left (hraw a)

end Occurs

namespace Markup

open Text (IsGapText)

-- How the source of an element is written.
structure Framed (ns : Text) (t : Tag) (children : List Element) : Prop where
  -- A start tag, the content and an end tag.
  closed : ∀ c, t.content = some c →
    ∃ start g, startTag? ns start = some (⟨t.name, t.attributes, false⟩, []) ∧ IsGapText g ∧
      t.markup = start ++ (c ++ (closeMark ns t.name ++ (g ++ ['>'])))
  -- The content is the source of the children, if it is read for elements.
  inner : ∀ c, t.content = some c → t.name ≠ verbatimName → sourceOf children = c
  -- Without content there is the start tag alone.
  alone : t.content = none →
    children = [] ∧ ∃ b, startTag? ns t.markup = some (⟨t.name, t.attributes, b⟩, [])

variable {ns t body r rest : Text} {s : StartTag} {children : List Element}

theorem framed_alone (hs : startTag? ns t = some (s, rest)) :
    Framed ns ⟨s.name, s.attributes, Text.taken t rest, none⟩ [] := by
  obtain ⟨u, hu, rfl⟩ := exists_startText hs
  refine ⟨nofun, nofun, fun _ => ⟨rfl, s.selfClosing, ?_⟩⟩
  rw [Text.taken_append]
  simpa using hu.read []

theorem framed_closed (hs : startTag? ns t = some (s, body)) (hc : s.selfClosing = false)
    (hb : bodyAfresh ns s.name body = some (children, r))
    (hr : endTag? (closeMark ns s.name) r = some rest) :
    Framed ns ⟨s.name, s.attributes, Text.taken t rest, some (Text.taken body r)⟩ children := by
  refine ⟨?closed, ?inner, nofun⟩
  case closed =>
    rintro c ⟨⟩
    obtain ⟨u, hu, ht⟩ := exists_startText hs
    obtain ⟨g, hg, hend⟩ := endTag?_eq_some_iff.1 hr
    have hbody := Text.taken_append_self (suffix_of_bodyAfresh hb)
    generalize Text.taken body r = c at hbody ⊢
    have hstart : startTag? ns u = some (⟨s.name, s.attributes, false⟩, []) := by
      rw [← hc]
      simpa using hu.read []
    refine ⟨u, g, hstart, hg, ?_⟩
    have hsource : t = (u ++ (c ++ (closeMark ns s.name ++ (g ++ ['>'])))) ++ rest := by
      rw [ht, ← hbody, hend]
      simp
    rw [hsource, Text.taken_append]
  case inner =>
    rintro c ⟨⟩ hv
    obtain ⟨hn, -⟩ | ⟨-, hcontent⟩ := bodyAfresh_cases hb
    · exact absurd hn hv
    · rw [contentAfresh_source hcontent, Text.taken_append]

-- An element at any depth has been read where it stands.
theorem occurs_afresh (ns : Text) :
    (∀ closing t es rest, contentAfresh ns closing t = some (es, rest) →
      ∀ tag children, Occurs tag children es →
        ∃ u v, elementAfresh ns u = some (.tag tag children, v)) ∧
    ∀ t e rest, elementAfresh ns t = some (e, rest) →
      ∀ tag children, Occurs tag children [e] →
        ∃ u v, elementAfresh ns u = some (.tag tag children, v) := by
  apply reading_induction
  case hQ =>
    intro t ih e rest h tag children ho
    obtain ⟨s, body, hs, ⟨rfl, -, -⟩ | ⟨-, us, r, hb, -, rfl⟩⟩ := elementAfresh_cases h
    · rcases ho.singleton with ⟨rfl, rfl⟩ | ho
      · exact ⟨t, rest, h⟩
      · exact ho.not_nil.elim
    · rcases ho.singleton with ⟨rfl, rfl⟩ | ho
      · exact ⟨t, rest, h⟩
      · rcases bodyAfresh_cases hb with ⟨-, -, rfl⟩ | ⟨-, hcontent⟩
        · exact ho.not_nil.elim
        · exact ih _ body (length_startTag?_lt hs) _ _ hcontent _ _ ho
  case hP =>
    intro closing t hQ ih es rest h tag children ho
    cases contentForm_of_eq_some h with
    | finish _ => exact ho.not_nil.elim
    | stop _ _ => exact ho.not_nil.elim
    | element he hes =>
      rcases ho.cons with ho | ho
      · exact hQ _ le_rfl _ _ he _ _ ho
      · exact ih _ (length_elementAfresh_lt he) _ _ hes _ _ ho
    | char _ hes => exact ih _ (by simp) _ _ hes _ _ ho.of_consRaw

theorem framed_elementAfresh {tag : Tag} (h : elementAfresh ns t = some (.tag tag children, rest)) :
    Framed ns tag children := by
  obtain ⟨s, body, hs, ⟨he, rfl, -⟩ | ⟨hc, us, r, hb, hr, he⟩⟩ := elementAfresh_cases h
  · obtain ⟨rfl, rfl⟩ := Element.tag.inj he
    exact framed_alone hs
  · obtain ⟨rfl, rfl⟩ := Element.tag.inj he
    exact framed_closed hs hc hb hr

theorem framed_afresh (ns : Text) :
    (∀ closing t es rest, contentAfresh ns closing t = some (es, rest) →
      ∀ tag children, Occurs tag children es → Framed ns tag children) ∧
    ∀ t e rest, elementAfresh ns t = some (e, rest) →
      ∀ tag children, Occurs tag children [e] → Framed ns tag children := by
  constructor
  · intro closing t es rest h tag children ho
    obtain ⟨u, v, hu⟩ := (occurs_afresh ns).1 _ _ _ _ h _ _ ho
    exact framed_elementAfresh hu
  · intro t e rest h tag children ho
    obtain ⟨u, v, hu⟩ := (occurs_afresh ns).2 _ _ _ h _ _ ho
    exact framed_elementAfresh hu

-- A document has no end tag that could be missing.
theorem exists_contentAfresh (ns t : Text) : ∃ es, contentAfresh ns none t = some (es, []) := by
  induction h : t.length using Nat.strong_induction_on generalizing t with
  | _ n ih =>
    subst h
    rw [contentAfresh_eq_step]
    cases t with
    | nil => exact ⟨[], rfl⟩
    | cons c r =>
      obtain ⟨rs, hr⟩ := ih r.length (by simp) r rfl
      rw [stepAfresh]
      split
      · split
        · rename_i e rest he
          obtain ⟨es, hes⟩ := ih rest.length (length_elementAfresh_lt he) rest rfl
          exact ⟨e :: es, by rw [hes]; rfl⟩
        · exact ⟨_, by rw [hr]; rfl⟩
      · exact ⟨_, by rw [hr]; rfl⟩

theorem exists_read (ns t : Text) : contentAfresh ns none t = some (read ns t, []) := by
  obtain ⟨es, h⟩ := exists_contentAfresh ns t
  rw [read_eq_readAfresh, readAfresh, h]
  rfl

-- Reading loses nothing, whatever the text.
theorem read_source (ns t : Text) :
    sourceOf (read ns t) = t ∧
      ∀ tag children, Occurs tag children (read ns t) → Framed ns tag children := by
  have h := exists_read ns t
  refine ⟨?_, fun tag children ho => (framed_afresh ns).1 _ _ _ _ h _ _ ho⟩
  simpa using (contentAfresh_source h).symm

end Markup
end EdgeIncludes
