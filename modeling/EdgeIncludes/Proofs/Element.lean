import EdgeIncludes.Markup.Reader
import EdgeIncludes.Proofs.Search

namespace EdgeIncludes.Markup

-- The element with a start tag, a content and an end tag.
def elementText (ns name content : Text) : Text :=
  openMark ns ++ (name ++ '>' :: (content ++ (closeMark ns name ++ ['>'])))

-- An element can be named so in the namespace. Its content is read for elements.
structure TagName (ns name : Text) : Prop where
  slash : ns.head? ≠ some '/'
  ne_nil : name ≠ []
  chars : ∀ c ∈ name, isTagNameChar c = true
  ne_verbatim : name ≠ verbatimName

variable {ns name content r : Text}

theorem startTag?_bare (ns r : Text) (hne : name ≠ []) (hn : ∀ c ∈ name, isTagNameChar c = true) :
    startTag? ns (openMark ns ++ (name ++ '>' :: r)) = some (⟨name, [], false⟩, r) := by
  have hname : name? isTagNameChar (name ++ '>' :: r) = some (name, '>' :: r) := by
    have hs : Text.spanBy isTagNameChar (name ++ '>' :: r) = (name, '>' :: r) := by
      have he : isTagNameChar '>' = false := by decide
      rw [Text.spanBy, List.takeWhile_append_of_pos hn, List.dropWhile_append_of_pos hn]
      simp [he]
    rw [name?, hs]
    split
    · rename_i he
      exact absurd (congrArg Prod.fst he) hne
    · rfl
  have hattr : attributes ('>' :: r) = ([], '>' :: r) := by
    have hg : attribute? ('>' :: r) = none := rfl
    rw [attributes, hg]
  have hend : tagEnd? ('>' :: r) = some (false, r) := rfl
  rw [startTag?, Text.after?_append]
  simp only [Option.bind_eq_bind, Option.bind_some, hname, hattr, hend]
  rfl

theorem endTag?_append (mark r : Text) : endTag? mark (mark ++ '>' :: r) = some r := by
  rw [endTag?, Text.after?_append]
  rfl

-- Text without the first character of the marks is passed over.
theorem gapFrom_append {closing : Option Text} (hc : ∀ m ∈ closing, ∃ p, m = '<' :: p) {a : Text}
    (ha : '<' ∉ a) (n : Nat) (t : Text) :
    gapFrom (openMark ns) closing n (a ++ t) = gapFrom (openMark ns) closing (n + a.length) t := by
  induction a generalizing n with
  | nil => rfl
  | cons c a ih =>
    obtain ⟨hne, ha⟩ := List.ne_and_not_mem_of_not_mem_cons ha
    have hs : ∀ p, Text.startsWith ('<' :: p) (c :: (a ++ t)) = false := by
      intro p
      rw [Text.startsWith_cons, decide_eq_false hne, Bool.false_and]
    have ho : Text.startsWith (openMark ns) (c :: (a ++ t)) = false := hs _
    have hm : closing.any (Text.startsWith · (c :: (a ++ t))) = false := by
      cases closing with
      | none => rfl
      | some m =>
        obtain ⟨p, rfl⟩ := hc m rfl
        exact hs p
    rw [List.cons_append, gapFrom, ho, hm, Bool.or_self, if_neg Bool.false_ne_true, ih ha]
    congr 1
    simp only [List.length_cons]
    omega

-- The end of the namespace tells the two marks apart.
theorem not_startsWith_closeMark (hns : ns.head? ≠ some '/') (name t : Text) :
    Text.startsWith (openMark ns) (closeMark ns name ++ t) = false := by
  cases ns with
  | nil => simp [openMark, closeMark, Text.startsWith_cons]
  | cons c ns =>
    have hc : c ≠ '/' := fun h => hns (congrArg some h)
    simp [openMark, closeMark, Text.startsWith_cons, hc]

section Reader

variable {closing : Option Text} {seen seen' : Unclosed} {t rest : Text} {c : Char}

theorem readContent_of_nil (h : t.drop (gap ns closing t) = []) :
    readContent ns closing seen t =
      (if closing.isSome then none
        else some (Element.consRaw (t.take (gap ns closing t)) [], []), seen) := by
  rw [readContent]
  split
  · rfl
  · simp_all

-- The content ends in front of its end tag.
theorem readContent_of_endTag (h : t.drop (gap ns closing t) = c :: r)
    (ho : Text.startsWith (openMark ns) (c :: r) = false)
    (he : (closing.bind (endTag? · (c :: r))).isSome = true) :
    readContent ns closing seen t =
      (some (Element.consRaw (t.take (gap ns closing t)) [], c :: r), seen) := by
  rw [readContent]
  split
  · simp_all
  · rename_i h'
    rw [h] at h'
    cases h'
    simp [ho, he]

-- An element is one node, and the content goes on behind it.
theorem readContent_of_element {e : Element} (h : t.drop (gap ns closing t) = c :: r)
    (ho : Text.startsWith (openMark ns) (c :: r) = true)
    (he : readElement ns seen (c :: r) = (some (e, rest), seen')) (hl : rest.length < t.length) :
    readContent ns closing seen t =
      (((readContent ns closing seen' rest).1.cons e).consRaw (t.take (gap ns closing t)),
        (readContent ns closing seen' rest).2) := by
  rw [readContent]
  split
  · simp_all
  · rename_i h'
    rw [h] at h'
    cases h'
    simp only [ho, if_true, he, hl]

-- A mark that begins neither an element nor the end tag is text.
theorem readContent_of_char (h : t.drop (gap ns closing t) = c :: r)
    (he : readElement ns seen (c :: r) = (none, seen'))
    (hm : Text.startsWith (openMark ns) (c :: r) = true ∨
      seen' = seen ∧ (closing.bind (endTag? · (c :: r))).isSome = false) :
    readContent ns closing seen t =
      ((readContent ns closing seen' r).1.consRaw (t.take (gap ns closing t) ++ [c]),
        (readContent ns closing seen' r).2) := by
  rw [readContent]
  split
  · simp_all
  · rename_i h'
    rw [h] at h'
    cases h'
    split
    · rw [he]
    · rename_i ho
      obtain ⟨rfl, hend⟩ := hm.resolve_left ho
      rw [hend, if_neg Bool.false_ne_true]

-- An element with an end tag has the content in front of it.
theorem readElement_of_content {s : StartTag} {body e : Text} {children : List Element}
    (h : startTag? ns t = some (s, body)) (hs : s.selfClosing = false)
    (hk : seen.contains (body.length, s.name) = false) (hv : s.name ≠ verbatimName)
    (hc : readContent ns (some (closeMark ns s.name)) seen body = (some (children, e), seen'))
    (he : endTag? (closeMark ns s.name) e = some rest) :
    readElement ns seen t =
      (some (.tag ⟨s.name, s.attributes, Text.taken t rest, some (Text.taken body e)⟩ children,
        rest), seen') := by
  rw [readElement]
  split
  · simp_all
  · rename_i h'
    rw [h] at h'
    cases h'
    simp only [hs, hk, hv, Bool.or_self, Bool.false_eq_true, if_false, hc, he]

end Reader

-- Plain content is read up to the end tag.
theorem readContent_plain (hns : ns.head? ≠ some '/') (seen : Unclosed) (hc : '<' ∉ content)
    (r : Text) :
    readContent ns (some (closeMark ns name)) seen
        (content ++ (closeMark ns name ++ '>' :: r)) =
      (some (Element.consRaw content [], closeMark ns name ++ '>' :: r), seen) := by
  obtain ⟨o, ho⟩ : ∃ o, closeMark ns name ++ '>' :: r = '<' :: o := ⟨_, rfl⟩
  have hs := not_startsWith_closeMark hns name ('>' :: r)
  have he := endTag?_append (closeMark ns name) r
  have hg : gap ns (some (closeMark ns name)) (content ++ (closeMark ns name ++ '>' :: r)) =
      content.length := by
    rw [gap, gapFrom_append (by rintro _ ⟨⟩; exact ⟨_, rfl⟩) hc, Nat.zero_add, ho, gapFrom, ← ho]
    simp
  rw [ho] at hs he
  rw [readContent_of_endTag (c := '<') (r := o) _ hs (by simp [he])]
  · rw [hg, List.take_left', ho]
    rfl
  · rw [hg, List.drop_left', ho]
    rfl

theorem readElement_elementText (h : TagName ns name) (hc : '<' ∉ content) :
    readElement ns [] (elementText ns name content) =
      (some (.tag ⟨name, [], elementText ns name content, some content⟩
        (Element.consRaw content []), []), []) := by
  have hs := startTag?_bare ns (content ++ (closeMark ns name ++ ['>'])) h.ne_nil h.chars
  have hr := readElement_of_content hs rfl rfl h.ne_verbatim (readContent_plain h.slash [] hc [])
    (endTag?_append _ [])
  rw [Text.taken_append, Text.taken_nil] at hr
  exact hr

-- The document is this element.
theorem read_elementText (h : TagName ns name) (hc : '<' ∉ content) :
    read ns (elementText ns name content) =
      [.tag ⟨name, [], elementText ns name content, some content⟩
        (Element.consRaw content [])] := by
  obtain ⟨o, ho⟩ : ∃ o, elementText ns name content = '<' :: o := ⟨_, rfl⟩
  have hs : Text.startsWith (openMark ns) (elementText ns name content) = true :=
    Text.startsWith_append _ _
  have hg : gap ns none (elementText ns name content) = 0 := by
    rw [ho] at hs ⊢
    rw [gap, gapFrom, hs]
    rfl
  have hd : (elementText ns name content).drop (gap ns none (elementText ns name content)) =
      '<' :: o := by rw [hg, List.drop_zero, ho]
  have hn : readContent ns none [] [] = (some ([], []), []) := readContent_of_nil rfl
  have hr : readElement ns [] ('<' :: o) = _ := ho ▸ readElement_elementText h hc
  rw [read, readContent_of_element hd (ho ▸ hs) hr (by rw [ho]; simp), hn, hg, ho]
  rfl

end EdgeIncludes.Markup
