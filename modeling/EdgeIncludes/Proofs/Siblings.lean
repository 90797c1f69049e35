import EdgeIncludes.Proofs.Excerpt
import EdgeIncludes.Proofs.Printing

namespace EdgeIncludes

-- The text behind the content in the source of an element.
def Tag.behind (ns : Text) (t : Tag) : Text :=
  match Markup.startTag? ns t.markup with
  | some (_, body) => body.drop (t.content.getD []).length
  | none => []

-- The element is a start tag alone that does not close itself.
structure Tag.IsOpen (ns : Text) (t : Tag) : Prop where
  content : t.content = none
  start : Markup.startTag? ns t.markup = some (⟨t.name, t.attributes, false⟩, [])

theorem Element.consRaw_eq_cons {c : Char} {es gs : List Element} {e : Element}
    (h : Element.consRaw [c] es = e :: gs) :
    ∃ b, e = .raw (c :: b) ∧ (es = .raw b :: gs ∨ b = [] ∧ es = gs) := by
  unfold Element.consRaw at h
  rw [if_neg (List.cons_ne_nil c [])] at h
  split at h
  · obtain ⟨rfl, rfl⟩ := List.cons.inj h
    exact ⟨_, rfl, .inl rfl⟩
  · obtain ⟨rfl, rfl⟩ := List.cons.inj h
    exact ⟨[], rfl, .inr ⟨rfl, rfl⟩⟩

namespace Markup

-- The lists of siblings in a document: the nodes of the document and, list by list, the children of
-- every element. With a list go the element around it and the text of the document behind it.
inductive Siblings (ns document : Text) : Option Tag → List Element → Text → Prop where
  | top : Siblings ns document none (read ns document) []
  | children {around : Option Tag} {front children back : List Element} {t : Tag} {rest : Text} :
    Siblings ns document around (front ++ .tag t children :: back) rest →
    Siblings ns document (some t) children (t.behind ns ++ (sourceOf back ++ rest))

-- Nothing is missed in a list of siblings, with an element around it and a text behind it. A place
-- in a raw text is given by what stands in front of it there and what from it on.
structure Complete (ns : Text) (around : Option Tag) (es : List Element) (rest : Text) : Prop where
  filled {a : Text} : .raw a ∈ es → a ≠ []
  apart : es.IsChain Apart
  -- No element begins in a raw text.
  starts {front back : List Element} {u v : Text} :
    es = front ++ .raw (u ++ v) :: back → v ≠ [] →
    startTag? ns (v ++ (sourceOf back ++ rest)) = none
  -- No end tag of the element around the list stands there.
  ends {front back : List Element} {u v : Text} :
    es = front ++ .raw (u ++ v) :: back → v ≠ [] →
    ∀ t ∈ around, endTag? (closeMark ns t.name) (v ++ (sourceOf back ++ rest)) = none
  -- None stands there of an element in front that has been left open.
  leftOpen {front between back children : List Element} {t : Tag} {u v : Text} :
    es = front ++ .tag t children :: (between ++ .raw (u ++ v) :: back) → v ≠ [] →
    t.IsOpen ns → endTag? (closeMark ns t.name) (v ++ (sourceOf back ++ rest)) = none

section Course

variable {ns name t u v w rest p : Text} {es us front back children : List Element} {e : Element}
  {tag : Tag}

theorem elementAfresh_ne_raw (h : elementAfresh ns t = some (e, rest)) (a : Text) : e ≠ .raw a := by
  obtain ⟨s, body, -, ⟨rfl, -⟩ | ⟨-, us, r, -, -, rfl⟩⟩ := elementAfresh_cases h
  · exact nofun
  · exact nofun

theorem Course.filled (h : Course ns t es rest) : ∀ a, .raw a ∈ es → a ≠ [] := by
  induction h with
  | done => simp
  | element he _ ih =>
    intro a ha
    rcases List.mem_cons.1 ha with rfl | ha
    · exact absurd rfl (elementAfresh_ne_raw he a)
    · exact ih a ha
  | @char c r rest es _ _ ih =>
    intro a ha
    rcases hc : Element.consRaw [c] es with _ | ⟨e, gs⟩
    · simp [hc] at ha
    obtain ⟨b, rfl, hes⟩ := Element.consRaw_eq_cons hc
    rw [hc] at ha
    rcases List.mem_cons.1 ha with ha | ha
    · cases ha
      exact List.cons_ne_nil c b
    · rcases hes with rfl | ⟨-, rfl⟩
      · exact ih a (List.mem_cons_of_mem _ ha)
      · exact ih a ha

theorem isChain_tag_cons (h : es.IsChain Apart) (t : Tag) (children : List Element) :
    (Element.tag t children :: es).IsChain Apart := by
  cases es with
  | nil => exact .singleton _
  | cons e es => exact .cons_cons trivial h

theorem isChain_consRaw (h : es.IsChain Apart) (a : Text) :
    (Element.consRaw a es).IsChain Apart := by
  unfold Element.consRaw
  split
  · exact h
  · match es with
    | [] => exact .singleton _
    | .tag t children :: es => exact .cons_cons trivial h
    | [.raw u] => exact .singleton _
    | .raw u :: .tag t children :: es => exact .cons_cons trivial h.tail
    | .raw u :: .raw v :: es => exact (List.isChain_cons_cons.1 h).1.elim

theorem Course.apart (h : Course ns t es rest) : es.IsChain Apart := by
  induction h with
  | done => exact .nil
  | @element t u rest e es he _ ih =>
    match e with
    | .raw a => exact absurd rfl (elementAfresh_ne_raw he a)
    | .tag tag children => exact isChain_tag_cons ih tag children
  | @char c r rest es _ _ ih => exact isChain_consRaw ih [c]

-- A reader through a list of nodes comes by between any two of them.
theorem Course.split (h : Course ns t es rest) (hes : es = front ++ back) :
    (∃ us, Course ns t us (sourceOf back ++ rest)) ∧ Course ns (sourceOf back ++ rest) back rest := by
  induction h generalizing front with
  | @done t =>
    obtain ⟨rfl, rfl⟩ := List.append_eq_nil_iff.1 hes.symm
    exact ⟨⟨[], .done⟩, .done⟩
  | @element t u rest e es he hu ih =>
    have hcourse := Course.element he hu
    cases front with
    | nil =>
      obtain rfl : e :: es = back := hes
      rw [← hcourse.source]
      exact ⟨⟨[], .done⟩, hcourse⟩
    | cons f front =>
      obtain ⟨⟨us, hus⟩, hback⟩ := ih (List.cons.inj hes).2
      exact ⟨⟨_, .element he hus⟩, hback⟩
  | @char c r rest es hn hu ih =>
    have hcourse := Course.char hn hu
    cases front with
    | nil =>
      obtain rfl : Element.consRaw [c] es = back := hes
      rw [← hcourse.source]
      exact ⟨⟨[], .done⟩, hcourse⟩
    | cons f front =>
      obtain ⟨b, -, hes⟩ := Element.consRaw_eq_cons hes
      have hsplit : ∃ front', es = front' ++ back := by
        rcases hes with hes | ⟨-, hes⟩
        · exact ⟨.raw b :: front, hes⟩
        · exact ⟨front, hes⟩
      obtain ⟨front', hes⟩ := hsplit
      obtain ⟨⟨us, hus⟩, hback⟩ := ih hes
      exact ⟨⟨_, .char hn hus⟩, hback⟩

-- It comes by at every place in a raw text too, and no element begins there.
theorem Course.place (h : Course ns t (.raw (u ++ v) :: back) rest) (hv : v ≠ []) :
    elementAfresh ns (v ++ (sourceOf back ++ rest)) = none ∧
      ∃ us, Course ns t us (v ++ (sourceOf back ++ rest)) := by
  induction u generalizing t with
  | nil =>
    have hsource : t = v ++ (sourceOf back ++ rest) := by
      rw [h.source]
      simp [sourceOf, Element.source]
    rw [← hsource]
    refine ⟨?_, [], .done⟩
    generalize hes : Element.raw ([] ++ v) :: back = es at h
    cases h with
    | done => cases hes
    | element he _ => exact absurd (List.cons.inj hes).1.symm (elementAfresh_ne_raw he _)
    | char hn _ => exact hn
  | cons d u ih =>
    generalize hes : Element.raw (d :: u ++ v) :: back = es at h
    cases h with
    | done => cases hes
    | element he _ => exact absurd (List.cons.inj hes).1.symm (elementAfresh_ne_raw he _)
    | char hn hcourse =>
      obtain ⟨b, hb, hes⟩ := Element.consRaw_eq_cons hes.symm
      obtain ⟨rfl, rfl⟩ := List.cons.inj (Element.raw.inj hb)
      have hne : u ++ v ≠ [] := by simp [hv]
      obtain rfl := hes.resolve_right fun h => hne h.1
      obtain ⟨hnone, us, hus⟩ := ih hcourse
      exact ⟨hnone, _, .char hn hus⟩

theorem Course.of_tag (h : Course ns t (.tag tag children :: back) rest) :
    elementAfresh ns t = some (.tag tag children, sourceOf back ++ rest) ∧
      Course ns (sourceOf back ++ rest) back rest := by
  generalize hes : Element.tag tag children :: back = es at h
  cases h with
  | done => cases hes
  | element he hback =>
    obtain ⟨rfl, rfl⟩ := List.cons.inj hes
    rw [← hback.source]
    exact ⟨he, hback⟩
  | char _ _ =>
    obtain ⟨b, hb, -⟩ := Element.consRaw_eq_cons hes.symm
    cases hb

-- Where an end tag is missing, a reader does not come by one.
theorem Course.endTag?_eq_none (h : Course ns t us p) (hb : bodyAfresh ns name t = none) :
    endTag? (closeMark ns name) p = none := by
  by_contra hne
  have hend : (endTag? (closeMark ns name) p).isSome = true := Option.isSome_iff_ne_none.2 hne
  rw [bodyAfresh] at hb
  split at hb
  · rw [Option.map_eq_none_iff, findEnd_eq_none_iff] at hb
    exact hne (hb p h.suffix)
  · obtain ⟨es, r, hr, -⟩ := h.exists_content hend
    rw [hb] at hr
    cases hr

end Course

section Behind

variable {ns t body r w : Text} {s : StartTag} {tag : Tag} {children : List Element}

theorem startTag?_taken (hs : startTag? ns t = some (s, body)) (h : w <:+ body) :
    startTag? ns (Text.taken t w) = some (s, Text.taken body w) := by
  obtain ⟨u, hu, rfl⟩ := exists_startText hs
  obtain ⟨c, rfl⟩ := h
  rw [Text.taken_append, ← List.append_assoc, Text.taken_append]
  exact hu.read c

theorem behind_closed (hs : startTag? ns t = some (s, body)) (hr : r <:+ body) (hw : w <:+ r) :
    Tag.behind ns ⟨s.name, s.attributes, Text.taken t w, some (Text.taken body r)⟩ =
      Text.taken r w := by
  rw [Tag.behind, startTag?_taken hs (hw.trans hr)]
  obtain ⟨c, rfl⟩ := hr
  obtain ⟨d, rfl⟩ := hw
  rw [← List.append_assoc, Text.taken_append, List.append_assoc, Text.taken_append,
    Text.taken_append]
  exact List.drop_left

-- The children of an element stand in front of what is behind its content, and they are what is
-- read there up to its end tag.
theorem content_of_elementAfresh (h : elementAfresh ns t = some (.tag tag children, w)) :
    sourceOf children ++ (tag.behind ns ++ w) <:+ t ∧
      (children = [] ∨ contentAfresh ns (some (closeMark ns tag.name))
        (sourceOf children ++ (tag.behind ns ++ w)) = some (children, tag.behind ns ++ w)) := by
  obtain ⟨s, body, hs, ⟨he, rfl, -⟩ | ⟨-, us, r, hb, hr, he⟩⟩ := elementAfresh_cases h
  · obtain ⟨rfl, rfl⟩ := Element.tag.inj he
    have hbehind : Tag.behind ns ⟨s.name, s.attributes, Text.taken t w, none⟩ = [] := by
      rw [Tag.behind, startTag?_taken hs List.suffix_rfl]
      simp [Text.taken]
    rw [hbehind]
    exact ⟨suffix_of_startTag? hs, .inl rfl⟩
  · obtain ⟨rfl, rfl⟩ := Element.tag.inj he
    rw [behind_closed hs (suffix_of_bodyAfresh hb) (suffix_of_endTag? hr),
      Text.taken_append_self (suffix_of_endTag? hr)]
    obtain ⟨-, -, rfl⟩ | ⟨-, hcontent⟩ := bodyAfresh_cases hb
    · exact ⟨(suffix_of_bodyAfresh hb).trans (suffix_of_startTag? hs), .inl rfl⟩
    · rw [← contentAfresh_source hcontent]
      exact ⟨suffix_of_startTag? hs, .inr hcontent⟩

theorem bodyAfresh_of_isOpen (h : elementAfresh ns t = some (.tag tag children, w))
    (ho : tag.IsOpen ns) : bodyAfresh ns tag.name w = none := by
  obtain ⟨s, body, hs, ⟨he, rfl, hwhy⟩ | ⟨-, us, r, -, -, he⟩⟩ := elementAfresh_cases h
  · obtain ⟨rfl, rfl⟩ := Element.tag.inj he
    refine hwhy.resolve_left fun hself => ?_
    have hstart := ho.start
    rw [startTag?_taken hs List.suffix_rfl] at hstart
    have hopen := congrArg StartTag.selfClosing (Prod.mk.inj (Option.some.inj hstart)).1
    exact Bool.false_ne_true (hopen.symm.trans hself)
  · obtain ⟨rfl, rfl⟩ := Element.tag.inj he
    cases ho.content

end Behind

section Siblings

variable {ns document rest : Text} {around : Option Tag} {es : List Element}

-- A list of siblings stands in the document where it was read.
theorem Siblings.content (h : Siblings ns document around es rest) :
    sourceOf es ++ rest <:+ document ∧
      (es = [] ∨ contentAfresh ns (around.map fun t => closeMark ns t.name) (sourceOf es ++ rest) =
        some (es, rest)) := by
  induction h with
  | top =>
    have h := exists_read ns document
    rw [← contentAfresh_source h]
    exact ⟨List.suffix_rfl, .inr h⟩
  | @children around front children back t rest _ ih =>
    obtain ⟨hs, hes⟩ := ih
    have hcontent := hes.resolve_left (by simp)
    obtain ⟨-, hback⟩ := (contentAfresh_eq_some hcontent).1.split rfl
    obtain ⟨hs', h⟩ := content_of_elementAfresh hback.of_tag.1
    refine ⟨hs'.trans (List.IsSuffix.trans ?_ hs), h⟩
    exact ⟨sourceOf front, by simp [sourceOf]⟩

theorem complete_nil (ns : Text) (around : Option Tag) (rest : Text) :
    Complete ns around [] rest where
  filled := by simp
  apart := .nil
  starts := by simp
  ends := by simp
  leftOpen := by simp

theorem complete_of_content
    (h : contentAfresh ns (around.map fun t => closeMark ns t.name) (sourceOf es ++ rest) =
      some (es, rest)) : Complete ns around es rest where
  filled := (contentAfresh_eq_some h).1.filled _
  apart := (contentAfresh_eq_some h).1.apart
  starts := by
    intro front back u v hes hv
    obtain ⟨-, hback⟩ := (contentAfresh_eq_some h).1.split hes
    exact elementAfresh_eq_none_iff.1 (hback.place hv).1
  ends := by
    -- The reader would have stopped at this end tag, in front of where it did.
    rintro front back u v hes hv t rfl
    by_contra hne
    obtain ⟨⟨us, hus⟩, hback⟩ := (contentAfresh_eq_some h).1.split hes
    obtain ⟨-, vs, hvs⟩ := hback.place hv
    obtain ⟨ws, hws⟩ := hus.trans hvs
    obtain ⟨xs, r, hr, hs⟩ := hws.exists_content (Option.isSome_iff_ne_none.2 hne)
    obtain ⟨rfl, rfl⟩ := Prod.mk.inj (Option.some.inj (h.symm.trans hr))
    have hl := hs.length_le
    have hpos := List.length_pos_iff.2 hv
    simp only [List.length_append] at hl
    omega
  leftOpen := by
    intro front between back children t u v hes hv ho
    obtain ⟨-, hback⟩ := (contentAfresh_eq_some h).1.split hes
    obtain ⟨he, hbehind⟩ := hback.of_tag
    obtain ⟨⟨us, hus⟩, hraw⟩ := hbehind.split rfl
    obtain ⟨-, vs, hvs⟩ := hraw.place hv
    obtain ⟨ws, hws⟩ := hus.trans hvs
    exact hws.endTag?_eq_none (bodyAfresh_of_isOpen he ho)

theorem exists_siblings_of_occurs {t : Tag} {children : List Element}
    (h : Siblings ns document around es rest) (ho : Occurs t children es) :
    ∃ r, Siblings ns document (some t) children r := by
  induction ho generalizing around rest with
  | here hm =>
    obtain ⟨front, back, rfl⟩ := List.append_of_mem hm
    exact ⟨_, h.children⟩
  | inside hm _ ih =>
    obtain ⟨front, back, rfl⟩ := List.append_of_mem hm
    exact ih h.children

end Siblings

-- Nothing is missed: in the list of nodes of a document, and in the children of every element at
-- any depth.
theorem read_complete (ns document : Text) :
    (∀ t children, Occurs t children (read ns document) →
      ∃ rest, Siblings ns document (some t) children rest) ∧
    ∀ around es rest, Siblings ns document around es rest →
      sourceOf es ++ rest <:+ document ∧ Complete ns around es rest := by
  refine ⟨fun t children ho => exists_siblings_of_occurs .top ho, fun around es rest h => ?_⟩
  obtain ⟨hs, rfl | hcontent⟩ := h.content
  · exact ⟨hs, complete_nil ns around rest⟩
  · exact ⟨hs, complete_of_content hcontent⟩

theorem read_complete_leftOpen :
    Occurs enclosing [leftOpen, .raw ['t']] (read "x".toList enclosing.markup) ∧
      Siblings "x".toList enclosing.markup (some enclosing) [leftOpen, .raw ['t']]
        "</x:a>".toList ∧
      (∃ rest, Siblings "x".toList enclosing.markup (some enclosing) [leftOpen, .raw ['t']] rest) ∧
      Complete "x".toList (some enclosing) [leftOpen, .raw ['t']] "</x:a>".toList := by
  have hread : read "x".toList enclosing.markup =
      [] ++ .tag enclosing [leftOpen, .raw ['t']] :: [] := read_enclosing
  have ho : Occurs enclosing [leftOpen, .raw ['t']] (read "x".toList enclosing.markup) := by
    rw [hread]
    exact .here (List.mem_singleton_self _)
  have htop : Siblings "x".toList enclosing.markup none (read "x".toList enclosing.markup) [] := .top
  have hs : Siblings "x".toList enclosing.markup (some enclosing) [leftOpen, .raw ['t']]
      "</x:a>".toList := by
    rw [hread] at htop
    have hbehind : enclosing.behind "x".toList = "</x:a>".toList := by
      rw [Tag.behind, startTag?_enclosing]
      rfl
    have hchildren := htop.children
    rw [hbehind] at hchildren
    exact hchildren
  obtain ⟨hlists, hcomplete⟩ := read_complete "x".toList enclosing.markup
  exact ⟨ho, hs, hlists _ _ ho, (hcomplete _ _ _ hs).2⟩

end Markup
end EdgeIncludes
