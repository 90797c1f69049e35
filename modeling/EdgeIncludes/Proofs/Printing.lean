import EdgeIncludes.Proofs.Element
import EdgeIncludes.Proofs.Memory
import Mathlib.Data.List.Chain
import Mathlib.Data.List.Infix

namespace EdgeIncludes
namespace Markup

open Text (IsGapText)

def printAttribute (a : Text × Text) : Text := ' ' :: (a.1 ++ '=' :: '"' :: (a.2 ++ ['"']))

def printStart (ns : Text) (t : Tag) : Text :=
  openMark ns ++ (t.name ++ t.attributes.flatMap printAttribute)

-- An element is printed with its content as it stands. Without one it closes itself.
def print (ns : Text) : Element → Text
  | .raw t => t
  | .tag t _ =>
    match t.content with
    | none => printStart ns t ++ ['/', '>']
    | some c => printStart ns t ++ '>' :: (c ++ (closeMark ns t.name ++ ['>']))

def printAll (ns : Text) (es : List Element) : Text := es.flatMap (print ns)

mutual

-- The element with its printed form for its source, and so at every depth.
def printed (ns : Text) : Element → Element
  | .raw t => .raw t
  | .tag t children =>
    .tag { t with markup := print ns (.tag t children) } (printedAll ns children)
termination_by structural e => e

def printedAll (ns : Text) : List Element → List Element
  | [] => []
  | e :: es => printed ns e :: printedAll ns es
termination_by structural es => es

end

-- Two raw texts do not stand side by side.
def Apart : Element → Element → Prop
  | .raw _, .raw _ => False
  | _, _ => True

instance : DecidableRel Apart
  | .raw _, .raw _ => .isFalse id
  | .raw _, .tag .. => .isTrue trivial
  | .tag .., _ => .isTrue trivial

structure Writable (t : Tag) : Prop where
  name : IsName isTagNameChar t.name
  attributes : ∀ a ∈ t.attributes, IsName isAttributeNameChar a.1 ∧ '"' ∉ a.2

instance (t : Tag) : Decidable (Writable t) :=
  decidable_of_iff (IsName isTagNameChar t.name ∧
      ∀ a ∈ t.attributes, IsName isAttributeNameChar a.1 ∧ '"' ∉ a.2)
    ⟨fun h => ⟨h.1, h.2⟩, fun h => ⟨h.name, h.attributes⟩⟩

-- Elements that can be printed. The content is what the children print to, save for the one that is
-- not read for elements: that is any text without the end tag.
inductive Printable (ns : Text) : Element → Prop where
  | raw {t : Text} :
    t ≠ [] → Text.contains (openMark ns) t = false → Text.contains (closeMark ns []) t = false →
    Printable ns (.raw t)
  | empty {t : Tag} : Writable t → t.content = none → Printable ns (.tag t [])
  | verbatim {t : Tag} {c : Text} :
    Writable t → t.name = verbatimName → t.content = some c →
    (∀ a, a <:+ c → endTag? (closeMark ns verbatimName) a = none) → Printable ns (.tag t [])
  | node {t : Tag} {children : List Element} :
    Writable t → t.name ≠ verbatimName → t.content = some (printAll ns children) →
    children.IsChain Apart → (∀ e ∈ children, Printable ns e) → Printable ns (.tag t children)

-- Raw text without marks, and elements that close themselves.
def isFlat (ns : Text) : Element → Bool
  | .raw t => t ≠ [] && !Text.contains (openMark ns) t && !Text.contains (closeMark ns []) t
  | .tag t children => decide (Writable t) && t.content = none && children = []

theorem printable_of_isFlat {ns : Text} {e : Element} (h : isFlat ns e = true) :
    Printable ns e := by
  cases e with
  | raw t =>
    simp only [isFlat, Bool.and_eq_true, decide_eq_true_eq, Bool.not_eq_true'] at h
    exact .raw h.1.1 h.1.2 h.2
  | tag t children =>
    simp only [isFlat, Bool.and_eq_true, decide_eq_true_eq] at h
    obtain ⟨⟨hw, hc⟩, rfl⟩ := h
    exact .empty hw hc

section Marks

variable {w a r : Text} {c : Char}

-- A text without the character that the next one begins with stands in front of it.
theorem prefix_of_prefix_append (hw : '<' ∉ w) (hr : ∀ c ∈ r.head?, c = '<')
    (h : w <+: a ++ r) : w <+: a := by
  induction a generalizing w with
  | nil =>
    cases w with
    | nil => exact List.prefix_rfl
    | cons x w =>
      obtain ⟨v, rfl⟩ := h
      exact absurd (hr x rfl ▸ List.mem_cons_self ..) hw
  | cons y a ih =>
    cases w with
    | nil => exact List.nil_prefix
    | cons x w =>
      obtain ⟨rfl, htail⟩ := List.cons_prefix_cons.1 h
      exact List.cons_prefix_cons.2 ⟨rfl, ih (fun hm => hw (List.mem_cons_of_mem _ hm)) htail⟩

theorem prefix_iff_startsWith : w <+: a ↔ Text.startsWith w a = true := by
  rw [Text.startsWith_iff]
  exact ⟨fun ⟨r, hr⟩ => ⟨r, hr.symm⟩, fun ⟨r, hr⟩ => ⟨r, hr.symm⟩⟩

-- A mark begins with the only such character that it has.
theorem mark_prefix_append (hw : '<' ∉ w) (hr : ∀ c ∈ r.head?, c = '<') (ha : a ≠ [])
    (h : '<' :: w <+: a ++ r) : '<' :: w <+: a := by
  cases a with
  | nil => exact absurd rfl ha
  | cons y a =>
    obtain ⟨rfl, htail⟩ := List.cons_prefix_cons.1 h
    exact List.cons_prefix_cons.2 ⟨rfl, prefix_of_prefix_append hw hr htail⟩

theorem startsWith_append_eq_false (hw : '<' ∉ w) (hr : ∀ c ∈ r.head?, c = '<')
    (h : Text.contains ('<' :: w) (c :: a) = false) :
    Text.startsWith ('<' :: w) (c :: (a ++ r)) = false := by
  rw [Text.contains_cons, Bool.or_eq_false_iff] at h
  refine Bool.eq_false_iff.2 fun hs => Bool.eq_false_iff.1 h.1 ?_
  exact prefix_iff_startsWith.1 (mark_prefix_append hw hr (by simp) (prefix_iff_startsWith.2 hs))

end Marks

theorem startsWith_of_endTag? {ns name t r : Text} (h : endTag? (closeMark ns name) t = some r) :
    Text.startsWith (closeMark ns []) t = true := by
  obtain ⟨g, -, rfl⟩ := endTag?_eq_some_iff.1 h
  refine Text.startsWith_iff.2 ⟨name ++ (g ++ '>' :: r), ?_⟩
  simp [closeMark]

section Raw

variable {ns a r mark : Text} {closing : Option Text}

-- Text without marks is read as text, up to the end or to what begins a mark.
theorem contentAfresh_append (hns : '<' ∉ ns) (hc : ∀ m ∈ closing, ∃ name, m = closeMark ns name)
    (hr : ∀ c ∈ r.head?, c = '<') (ho : Text.contains (openMark ns) a = false)
    (he : Text.contains (closeMark ns []) a = false) :
    contentAfresh ns closing (a ++ r) = (contentAfresh ns closing r).consRaw a := by
  induction a with
  | nil => rw [List.nil_append, Content.consRaw_nil]
  | cons c a ih =>
    have hopen : Text.startsWith (openMark ns) (c :: (a ++ r)) = false :=
      startsWith_append_eq_false (w := ns ++ [':']) (by simp [hns]) hr ho
    have hclose : Text.startsWith (closeMark ns []) (c :: (a ++ r)) = false :=
      startsWith_append_eq_false (w := '/' :: (ns ++ [':'])) (by simp [hns]) hr he
    have hend : (closing.bind (endTag? · (c :: (a ++ r)))).isSome = false := by
      refine Bool.eq_false_iff.2 fun h => ?_
      obtain ⟨x, hx⟩ := Option.isSome_iff_exists.1 h
      obtain ⟨m, hm, hx⟩ := Option.bind_eq_some_iff.1 hx
      obtain ⟨name, rfl⟩ := hc m hm
      exact Bool.eq_false_iff.1 hclose (startsWith_of_endTag? hx)
    rw [Text.contains_cons, Bool.or_eq_false_iff] at ho he
    rw [List.cons_append, contentAfresh_eq_step, stepAfresh, hopen, hend]
    simp only [Bool.false_eq_true, if_false]
    rw [ih ho.2 he.2, ← Content.consRaw_append]
    rfl

-- The first end tag is found.
theorem findEnd_append (h : ∀ b, b <:+ a → b ≠ [] → endTag? mark (b ++ r) = none)
    (hr : (endTag? mark r).isSome = true) : findEnd mark (a ++ r) = some r := by
  induction a with
  | nil =>
    cases r with
    | nil =>
      obtain ⟨x, hx⟩ := Option.isSome_iff_exists.1 hr
      obtain ⟨g, -, hg⟩ := endTag?_eq_some_iff.1 hx
      simp at hg
    | cons c r => rw [List.nil_append, findEnd, if_pos hr]
  | cons c a ih =>
    have hnone := h (c :: a) List.suffix_rfl (by simp)
    rw [List.cons_append] at hnone ⊢
    rw [findEnd, hnone]
    exact ih fun b hb => h b (hb.trans (List.suffix_cons c a))

end Raw

-- A namespace of ASCII letters and digits.
def Plain (ns : Text) : Prop := ∀ c ∈ ns, c.isAlphanum = true

instance (ns : Text) : Decidable (Plain ns) :=
  decidable_of_iff (ns.all Char.isAlphanum = true) List.all_eq_true

theorem Plain.not_mem {ns : Text} (h : Plain ns) {c : Char} (hc : c.isAlphanum = false) :
    c ∉ ns := by
  intro hm
  rw [h c hm] at hc
  cases hc

theorem Plain.head?_ne {ns : Text} (h : Plain ns) : ns.head? ≠ some '/' := by
  intro hs
  exact h.not_mem (c := '/') rfl (List.mem_of_head? hs)

section Tags

variable {ns r c w b : Text} {t : Tag} {us children : List Element}

theorem attributesText_print {as : List (Text × Text)}
    (h : ∀ a ∈ as, IsName isAttributeNameChar a.1 ∧ '"' ∉ a.2) :
    AttributesText as (as.flatMap printAttribute) := by
  induction as with
  | nil => exact .nil
  | cons a as ih =>
    obtain ⟨⟨hn, hv⟩, has⟩ := List.forall_mem_cons.1 h
    rw [List.flatMap_cons]
    refine .cons ?_ (ih has)
    have hgap : IsGapText [' '] := by simp [IsGapText, Text.isGap]
    exact @AttributeText.intro [' '] a.1 [] [] a.2 '"' (by simp) hgap hn Text.isGapText_nil
      Text.isGapText_nil (.inl rfl) hv

theorem startText_print (ns : Text) (h : Writable t) (b : Bool) :
    StartText ns ⟨t.name, t.attributes, b⟩ (printStart ns t ++ endMark b) := by
  refine ⟨h.name, t.attributes.flatMap printAttribute, [], attributesText_print h.attributes,
    Text.isGapText_nil, ?_⟩
  simp [printStart]

theorem elementAfresh_empty (hw : Writable t) (hc : t.content = none) (r : Text) :
    elementAfresh ns (print ns (.tag t us) ++ r) =
      some (.tag { t with markup := print ns (.tag t us) } [], r) := by
  have hp : print ns (.tag t us) = printStart ns t ++ endMark true := by
    rw [print, hc]
    rfl
  have hs := (startText_print ns hw true).read r
  rw [← hp] at hs
  rw [elementAfresh_eq hs, if_pos rfl, elementOf, Text.taken_append, ← hc]

theorem exists_print_tag (ns : Text) (t : Tag) (us : List Element) :
    ∃ o, print ns (.tag t us) = '<' :: o := by
  rw [print]
  split <;> exact ⟨_, rfl⟩

-- An element with the start tag `u`, a content, and a gap in its end tag.
def enclose (ns name u g content : Text) : Text :=
  u ++ (content ++ (closeMark ns name ++ (g ++ ['>'])))

-- An element is read back when its body is.
theorem elementAfresh_enclose {u g : Text} (hu : StartText ns ⟨t.name, t.attributes, false⟩ u)
    (hg : IsGapText g)
    (hb : bodyAfresh ns t.name (c ++ (closeMark ns t.name ++ (g ++ '>' :: r))) =
      some (children, closeMark ns t.name ++ (g ++ '>' :: r))) :
    elementAfresh ns (enclose ns t.name u g c ++ r) =
      some (.tag ⟨t.name, t.attributes, enclose ns t.name u g c, some c⟩ children, r) := by
  have htext : enclose ns t.name u g c ++ r =
      u ++ (c ++ (closeMark ns t.name ++ (g ++ '>' :: r))) := by simp [enclose]
  have hs := hu.read (c ++ (closeMark ns t.name ++ (g ++ '>' :: r)))
  rw [← htext] at hs
  have hend : endTag? (closeMark ns t.name) (closeMark ns t.name ++ (g ++ '>' :: r)) = some r :=
    endTag?_eq_some_iff.2 ⟨g, hg, rfl⟩
  rw [elementAfresh_eq hs, if_neg Bool.false_ne_true, hb, elementOf, hend, Text.taken_append,
    Option.map_some, Text.taken_append]

theorem elementAfresh_closed (hw : Writable t) (hc : t.content = some c)
    (hb : bodyAfresh ns t.name (c ++ (closeMark ns t.name ++ '>' :: r)) =
      some (children, closeMark ns t.name ++ '>' :: r)) :
    elementAfresh ns (print ns (.tag t us) ++ r) =
      some (.tag { t with markup := print ns (.tag t us) } children, r) := by
  have hp : print ns (.tag t us) = enclose ns t.name (printStart ns t ++ endMark false) [] c := by
    rw [print, hc]
    simp [endMark, enclose]
  rw [hp, elementAfresh_enclose (startText_print ns hw false) Text.isGapText_nil hb, hc]

-- An end tag ends in front of the next mark.
theorem endTag?_append_eq_none (hw : '<' ∉ w) (hr : ∀ c ∈ r.head?, c = '<') (hb : b ≠ [])
    (h : endTag? ('<' :: w) b = none) : endTag? ('<' :: w) (b ++ r) = none := by
  by_contra hne
  obtain ⟨x, hx⟩ := Option.ne_none_iff_exists'.1 hne
  obtain ⟨g, hg, ht⟩ := endTag?_eq_some_iff.1 hx
  have hmem : '<' ∉ w ++ (g ++ ['>']) := by
    have hgap : '<' ∉ g := fun hm => Bool.false_ne_true (hg '<' hm)
    simp [hw, hgap]
  obtain ⟨y, hy⟩ := mark_prefix_append hmem hr hb ⟨x, by simp [ht]⟩
  have hsome : endTag? ('<' :: w) b = some y :=
    endTag?_eq_some_iff.2 ⟨g, hg, by simp [← hy]⟩
  rw [hsome] at h
  cases h

theorem bodyAfresh_verbatim (hns : Plain ns)
    (h : ∀ a, a <:+ c → endTag? (closeMark ns verbatimName) a = none) (r : Text) :
    bodyAfresh ns verbatimName (c ++ (closeMark ns verbatimName ++ '>' :: r)) =
      some ([], closeMark ns verbatimName ++ '>' :: r) := by
  have hw : '<' ∉ '/' :: ns ++ ':' :: verbatimName := by
    have := hns.not_mem (c := '<') rfl
    simp [this, verbatimName]
  have hend := endTag?_append (closeMark ns verbatimName) r
  rw [bodyAfresh, if_pos rfl, findEnd_append _ (by rw [hend]; rfl)]
  · rfl
  · intro b hb hne
    exact endTag?_append_eq_none hw (by rintro _ ⟨⟩; rfl) hne (h b hb)

end Tags

-- What ends a list of nodes: the end of the document, or an end tag.
inductive Ends (ns : Text) : Option Text → Text → Prop where
  | document : Ends ns none []
  | element (name r : Text) : Ends ns (some (closeMark ns name)) (closeMark ns name ++ '>' :: r)

section Lists

variable {ns r : Text} {closing : Option Text} {es : List Element}

theorem Ends.content (hns : Plain ns) (h : Ends ns closing r) :
    contentAfresh ns closing r = some ([], r) := by
  cases h with
  | document =>
    rw [contentAfresh_eq_step]
    rfl
  | element name r =>
    exact contentAfresh_of_endTag (not_startsWith_closeMark hns.head?_ne _ _) (endTag?_append _ r)

theorem Ends.closing_eq (h : Ends ns closing r) :
    ∀ m ∈ closing, ∃ name, m = closeMark ns name := by
  cases h with
  | document => nofun
  | element name r =>
    rintro _ ⟨⟩
    exact ⟨name, rfl⟩

-- Behind raw text there is a mark, or nothing.
theorem head?_printAll (hr : Ends ns closing r) {a : Text}
    (hs : (Element.raw a :: es).IsChain Apart) :
    ∀ c ∈ (printAll ns es ++ r).head?, c = '<' := by
  cases es with
  | nil =>
    cases hr with
    | document => nofun
    | element name r =>
      rintro c ⟨⟩
      rfl
  | cons e es =>
    cases e with
    | raw t => exact (List.isChain_cons_cons.1 hs).1.elim
    | tag t us =>
      obtain ⟨o, ho⟩ := exists_print_tag ns t us
      rw [printAll, List.flatMap_cons, ho]
      rintro c ⟨⟩
      rfl

theorem consRaw_printedAll {a : Text} (ha : a ≠ []) (hs : (Element.raw a :: es).IsChain Apart) :
    Element.consRaw a (printedAll ns es) = .raw a :: printedAll ns es := by
  cases es with
  | nil => simp [Element.consRaw, ha, printedAll]
  | cons e es =>
    cases e with
    | raw t => exact (List.isChain_cons_cons.1 hs).1.elim
    | tag t us => simp [Element.consRaw, ha, printedAll, printed]

end Lists

mutual

theorem elementAfresh_print {ns : Text} (hns : Plain ns) (e : Element) (h : Printable ns e)
    (hraw : ∀ t, e ≠ .raw t) (r : Text) :
    elementAfresh ns (print ns e ++ r) = some (printed ns e, r) := by
  match e with
  | .raw t => exact absurd rfl (hraw t)
  | .tag t children =>
    cases h with
    | empty hw hc => exact elementAfresh_empty hw hc r
    | verbatim hw hn hc he => exact elementAfresh_closed hw hc (hn ▸ bodyAfresh_verbatim hns he r)
    | node hw hn hc hs hch =>
      refine elementAfresh_closed hw hc ?_
      rw [bodyAfresh, if_neg hn]
      exact contentAfresh_printAll hns (.element t.name r) children hs hch
termination_by structural e

theorem contentAfresh_printAll {ns : Text} (hns : Plain ns) {closing : Option Text} {r : Text}
    (hr : Ends ns closing r) (es : List Element) (hs : es.IsChain Apart)
    (h : ∀ e ∈ es, Printable ns e) :
    contentAfresh ns closing (printAll ns es ++ r) = some (printedAll ns es, r) := by
  match es with
  | [] => exact hr.content hns
  | e :: es =>
    obtain ⟨he, hes⟩ := List.forall_mem_cons.1 h
    have ih := contentAfresh_printAll hns hr es hs.tail hes
    rw [printAll, List.flatMap_cons, ← printAll, List.append_assoc]
    match e with
    | .raw a =>
      cases he with
      | raw ha ho hc =>
        rw [print, contentAfresh_append (hns.not_mem rfl) hr.closing_eq (head?_printAll hr hs) ho
          hc, ih]
        simp only [Content.consRaw, Option.map_some, consRaw_printedAll ha hs]
        rfl
    | .tag t us =>
      rw [contentAfresh_of_element (elementAfresh_print hns (.tag t us) he nofun _), ih]
      rfl
termination_by structural es

end

theorem readAfresh_printAll {ns : Text} {es : List Element} (hns : Plain ns)
    (hs : es.IsChain Apart) (h : ∀ e ∈ es, Printable ns e) :
    readAfresh ns (printAll ns es) = printedAll ns es := by
  have hc := contentAfresh_printAll hns .document es hs h
  rw [List.append_nil] at hc
  rw [readAfresh, hc]
  rfl

-- Reading undoes printing.
theorem read_printAll {ns : Text} {es : List Element} (hns : Plain ns) (hs : es.IsChain Apart)
    (h : ∀ e ∈ es, Printable ns e) : read ns (printAll ns es) = printedAll ns es := by
  rw [read_eq_readAfresh, readAfresh_printAll hns hs h]

-- An element in one of the same name, with its end tag in a value and the beginning of a tag in the
-- text, next to an element that is not read.
def nested : List Element :=
  [.raw "</x".toList,
   .tag ⟨"v".toList, [("k".toList, "</x:v>".toList)], [], some "<x:v/><x".toList⟩
     [.tag ⟨"v".toList, [], [], none⟩ [], .raw "<x".toList],
   .tag ⟨verbatimName, [], [], some "<x:v></x:text".toList⟩ []]

theorem printable_nested : ∀ e ∈ nested, Printable "x".toList e := by
  simp only [nested, List.forall_mem_cons, List.not_mem_nil, false_implies, implies_true, and_true]
  refine ⟨?marker, ?outer, ?unread⟩
  case marker => exact .raw (by decide) (by decide) (by decide)
  case outer =>
    refine .node (by decide) (by decide) (by decide) (by decide) ?_
    simp only [List.forall_mem_cons, List.not_mem_nil, false_implies, implies_true, and_true]
    exact ⟨.empty (by decide) rfl, .raw (by decide) (by decide) (by decide)⟩
  case unread =>
    refine .verbatim (by decide) rfl rfl fun a ha => ?_
    have hall : ∀ a ∈ "<x:v></x:text".toList.tails,
        endTag? (closeMark "x".toList verbatimName) a = none := by decide
    exact hall a ((List.mem_tails _ _).2 ha)

theorem read_printAll_nested :
    Plain "x".toList ∧ nested.IsChain Apart ∧ (∀ e ∈ nested, Printable "x".toList e) ∧
      read "x".toList (printAll "x".toList nested) = printedAll "x".toList nested := by
  have hns : Plain "x".toList := by decide
  have hs : nested.IsChain Apart := by decide
  exact ⟨hns, hs, printable_nested, read_printAll hns hs printable_nested⟩

end Markup
end EdgeIncludes
