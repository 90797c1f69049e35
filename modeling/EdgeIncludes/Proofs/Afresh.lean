import EdgeIncludes.Markup.Reader
import EdgeIncludes.Proofs.Grammar

namespace EdgeIncludes

theorem Text.taken_append_self {t r : Text} (h : r <:+ t) : taken t r ++ r = t := by
  obtain ⟨a, rfl⟩ := h
  rw [taken_append]

theorem Element.consRaw_append (a b : Text) (es : List Element) :
    Element.consRaw (a ++ b) es = Element.consRaw a (Element.consRaw b es) := by
  by_cases hb : b = []
  · simp [Element.consRaw, hb]
  by_cases ha : a = []
  · simp [Element.consRaw, ha]
  match es with
  | [] => simp [Element.consRaw, ha, hb]
  | .raw u :: es => simp [Element.consRaw, ha, hb]
  | .tag t cs :: es => simp [Element.consRaw, ha, hb]

namespace Markup

mutual

def contentAfresh (ns : Text) (closing : Option Text) (t : Text) : Content :=
  let n := gap ns closing t
  let front := t.take n
  match _h : t.drop n with
  | [] => if closing.isSome then none else some (Element.consRaw front [], [])
  | c :: r =>
    if Text.startsWith (openMark ns) (c :: r) then
      match elementAfresh ns (c :: r) with
      | some (e, rest) =>
        if rest.length < t.length then ((contentAfresh ns closing rest).cons e).consRaw front
        else none
      | none => (contentAfresh ns closing r).consRaw (front ++ [c])
    else if (closing.bind (endTag? · (c :: r))).isSome then
      some (Element.consRaw front [], c :: r)
    else (contentAfresh ns closing r).consRaw (front ++ [c])
termination_by (t.length, 1)
decreasing_by
  all_goals
    have hl := congrArg List.length _h
    simp only [List.length_drop, List.length_cons] at hl
    first
    | exact Prod.Lex.left _ _ (by omega)
    | exact Prod.Lex.left _ _ (by assumption)
    | exact Prod.Lex.right' _ (by simp only [List.length_cons]; omega) (by decide)

def elementAfresh (ns t : Text) : Option (Element × Text) :=
  match _h : startTag? ns t with
  | none => none
  | some (s, body) =>
    let alone : Element := .tag ⟨s.name, s.attributes, Text.taken t body, none⟩ []
    if s.selfClosing then some (alone, body)
    else
      let mark := closeMark ns s.name
      let found :=
        if s.name = verbatimName then (findEnd mark body).map fun e => ([], e)
        else contentAfresh ns (some mark) body
      match found with
      | none => some (alone, body)
      | some (children, e) =>
        match endTag? mark e with
        | none => none
        | some rest =>
          let content := some (Text.taken body e)
          some (.tag ⟨s.name, s.attributes, Text.taken t rest, content⟩ children, rest)
termination_by (t.length, 0)
decreasing_by exact Prod.Lex.left _ _ (length_startTag?_lt _h)

end

def readAfresh (ns t : Text) : List Element :=
  ((contentAfresh ns none t).map (·.1)).getD [.raw t]

-- The content of an element with the name, if it has an end tag.
def bodyAfresh (ns name body : Text) : Content :=
  if name = verbatimName then (findEnd (closeMark ns name) body).map fun e => ([], e)
  else contentAfresh ns (some (closeMark ns name)) body

-- The element that a start tag begins when `found` is what its end tag leaves as content. Without
-- an end tag it is the start tag alone.
def elementOf (ns t : Text) (s : StartTag) (body : Text) : Content → Option (Element × Text)
  | none => some (.tag ⟨s.name, s.attributes, Text.taken t body, none⟩ [], body)
  | some (children, e) =>
    (endTag? (closeMark ns s.name) e).map fun rest =>
      (.tag ⟨s.name, s.attributes, Text.taken t rest, some (Text.taken body e)⟩ children, rest)

section Element

variable {ns t body rest : Text} {s : StartTag} {e : Element}

theorem elementAfresh_eq_none (hs : startTag? ns t = none) : elementAfresh ns t = none := by
  rw [elementAfresh]
  split
  · rfl
  · simp_all

theorem elementAfresh_eq (hs : startTag? ns t = some (s, body)) :
    elementAfresh ns t =
      elementOf ns t s body (if s.selfClosing then none else bodyAfresh ns s.name body) := by
  rw [elementAfresh]
  split
  · simp_all
  · rename_i s' body' hs'
    rw [hs] at hs'
    obtain ⟨rfl, rfl⟩ := Prod.mk.inj (Option.some.inj hs')
    dsimp only
    split
    · rfl
    · rw [bodyAfresh]
      split
      · rename_i hf
        rw [hf, elementOf]
      · rename_i children r hf
        rw [hf, elementOf]
        split <;> simp_all

-- An element is its start tag alone, or it has a content that ends in front of its end tag.
theorem elementAfresh_cases (h : elementAfresh ns t = some (e, rest)) :
    ∃ s body, startTag? ns t = some (s, body) ∧
      ((e = .tag ⟨s.name, s.attributes, Text.taken t body, none⟩ [] ∧ rest = body ∧
          (s.selfClosing = true ∨ bodyAfresh ns s.name body = none)) ∨
        (s.selfClosing = false ∧ ∃ children r, bodyAfresh ns s.name body = some (children, r) ∧
          endTag? (closeMark ns s.name) r = some rest ∧
          e = .tag ⟨s.name, s.attributes, Text.taken t rest, some (Text.taken body r)⟩
            children)) := by
  rcases hs : startTag? ns t with _ | ⟨s, body⟩
  · rw [elementAfresh_eq_none hs] at h
    cases h
  refine ⟨s, body, rfl, ?_⟩
  rw [elementAfresh_eq hs] at h
  cases hc : s.selfClosing with
  | true =>
    rw [hc, if_pos rfl] at h
    obtain ⟨rfl, rfl⟩ := Prod.mk.inj (Option.some.inj h)
    exact .inl ⟨rfl, rfl, .inl rfl⟩
  | false =>
    rw [hc, if_neg Bool.false_ne_true] at h
    rcases hf : bodyAfresh ns s.name body with _ | ⟨children, r⟩
    · rw [hf] at h
      obtain ⟨rfl, rfl⟩ := Prod.mk.inj (Option.some.inj h)
      exact .inl ⟨rfl, rfl, .inr rfl⟩
    · rw [hf] at h
      obtain ⟨rest', hr, he⟩ := Option.map_eq_some_iff.1 h
      obtain ⟨rfl, rfl⟩ := Prod.mk.inj he
      exact .inr ⟨rfl, children, r, rfl, hr, rfl⟩

theorem bodyAfresh_cases {name r : Text} {children : List Element}
    (h : bodyAfresh ns name body = some (children, r)) :
    (name = verbatimName ∧ findEnd (closeMark ns name) body = some r ∧ children = []) ∨
      (name ≠ verbatimName ∧
        contentAfresh ns (some (closeMark ns name)) body = some (children, r)) := by
  rw [bodyAfresh] at h
  split at h
  · rename_i hv
    obtain ⟨r', hf, he⟩ := Option.map_eq_some_iff.1 h
    obtain ⟨rfl, rfl⟩ := Prod.mk.inj he
    exact .inl ⟨hv, hf, rfl⟩
  · rename_i hv
    exact .inr ⟨hv, h⟩

theorem suffix_of_startTag? (h : startTag? ns t = some (s, body)) : body <:+ t := by
  obtain ⟨u, -, rfl⟩ := exists_startText h
  exact List.suffix_append u body

theorem suffix_of_endTag? {mark : Text} (h : endTag? mark t = some rest) : rest <:+ t := by
  obtain ⟨g, -, rfl⟩ := endTag?_eq_some_iff.1 h
  exact ⟨mark ++ (g ++ ['>']), by simp⟩

theorem suffix_of_findEnd {mark : Text} (h : findEnd mark t = some rest) : rest <:+ t := by
  induction t with
  | nil => cases h
  | cons c t ih =>
    rw [findEnd] at h
    split at h
    · exact Option.some.inj h ▸ List.suffix_rfl
    · exact (ih h).trans (List.suffix_cons c t)

end Element

@[simp] theorem Content.consRaw_nil (c : Content) : c.consRaw [] = c := by
  cases c <;> rfl

theorem Content.consRaw_append (a b : Text) (c : Content) :
    c.consRaw (a ++ b) = (c.consRaw b).consRaw a := by
  simp only [consRaw, Option.map_map]
  congr 1
  funext p
  simp only [Function.comp, Element.consRaw_append]

theorem Content.cons_eq_some_iff {e : Element} {c : Content} {es : List Element} {rest : Text} :
    c.cons e = some (es, rest) ↔ ∃ es', c = some (es', rest) ∧ es = e :: es' := by
  rw [Content.cons, Option.map_eq_some_iff]
  constructor
  · rintro ⟨p, hp, he⟩
    obtain ⟨rfl, rfl⟩ := Prod.mk.inj he
    exact ⟨p.1, hp, rfl⟩
  · rintro ⟨es', hc, rfl⟩
    exact ⟨_, hc, rfl⟩

theorem Content.consRaw_eq_some_iff {a : Text} {c : Content} {es : List Element} {rest : Text} :
    c.consRaw a = some (es, rest) ↔ ∃ es', c = some (es', rest) ∧ es = Element.consRaw a es' := by
  rw [Content.consRaw, Option.map_eq_some_iff]
  constructor
  · rintro ⟨p, hp, he⟩
    obtain ⟨rfl, rfl⟩ := Prod.mk.inj he
    exact ⟨p.1, hp, rfl⟩
  · rintro ⟨es', hc, rfl⟩
    exact ⟨_, hc, rfl⟩

-- An element is read by way of shorter contents. A content is read by way of elements that are not
-- longer, and of shorter contents with the same end.
theorem reading_induction {P : Option Text → Text → Prop} {Q : Text → Prop}
    (hQ : ∀ t, (∀ closing u, u.length < t.length → P closing u) → Q t)
    (hP : ∀ closing t, (∀ u, u.length ≤ t.length → Q u) →
      (∀ u, u.length < t.length → P closing u) → P closing t) :
    (∀ closing t, P closing t) ∧ ∀ t, Q t := by
  have h : ∀ n closing t, t.length = n → P closing t := by
    intro n
    induction n using Nat.strong_induction_on with
    | _ n ih =>
      intro closing t ht
      apply hP closing t
      · intro u hu
        exact hQ u fun c v hv => ih v.length (by omega) c v rfl
      · intro u hu
        exact ih u.length (by omega) closing u rfl
  exact ⟨fun closing t => h _ closing t rfl, fun t => hQ t fun closing u _ => h _ closing u rfl⟩

section Steps

variable {ns t rest : Text} {closing : Option Text} {e : Element} {es : List Element}

-- What is read where no character is passed over.
def stepAfresh (ns : Text) (closing : Option Text) : Text → Content
  | [] => if closing.isSome then none else some ([], [])
  | c :: r =>
    if Text.startsWith (openMark ns) (c :: r) then
      match elementAfresh ns (c :: r) with
      | some (e, rest) => (contentAfresh ns closing rest).cons e
      | none => (contentAfresh ns closing r).consRaw [c]
    else if (closing.bind (endTag? · (c :: r))).isSome then some ([], c :: r)
    else (contentAfresh ns closing r).consRaw [c]

theorem elementAfresh_eq_none_of_not_startsWith
    (h : Text.startsWith (openMark ns) t = false) : elementAfresh ns t = none :=
  elementAfresh_eq_none (startTag?_eq_none h)

-- How a content is read, by what stands in front.
inductive ContentForm (ns : Text) (closing : Option Text) : Text → List Element → Text → Prop where
  | finish : closing = none → ContentForm ns closing [] [] []
  | stop {mark t r : Text} :
    closing = some mark → endTag? mark t = some r → ContentForm ns closing t [] t
  | element {t u rest : Text} {e : Element} {es : List Element} :
    elementAfresh ns t = some (e, u) → contentAfresh ns closing u = some (es, rest) →
    ContentForm ns closing t (e :: es) rest
  | char {c : Char} {r rest : Text} {es : List Element} :
    elementAfresh ns (c :: r) = none → contentAfresh ns closing r = some (es, rest) →
    ContentForm ns closing (c :: r) (Element.consRaw [c] es) rest

theorem contentForm_of_step (h : stepAfresh ns closing t = some (es, rest)) :
    ContentForm ns closing t es rest := by
  cases t with
  | nil =>
    rw [stepAfresh] at h
    split at h
    · cases h
    · rename_i hc
      obtain ⟨rfl, rfl⟩ := Prod.mk.inj (Option.some.inj h)
      exact .finish (Option.not_isSome_iff_eq_none.1 hc)
  | cons c r =>
    rw [stepAfresh] at h
    split at h
    · split at h
      · rename_i he
        obtain ⟨es', hr, rfl⟩ := Content.cons_eq_some_iff.1 h
        exact .element he hr
      · rename_i he
        obtain ⟨es', hr, rfl⟩ := Content.consRaw_eq_some_iff.1 h
        exact .char he hr
    · rename_i ho
      split at h
      · rename_i hend
        obtain ⟨rfl, rfl⟩ := Prod.mk.inj (Option.some.inj h)
        obtain ⟨r', hr⟩ := Option.isSome_iff_exists.1 hend
        obtain ⟨mark, hm, hr⟩ := Option.bind_eq_some_iff.1 hr
        exact .stop hm hr
      · obtain ⟨es', hr, rfl⟩ := Content.consRaw_eq_some_iff.1 h
        exact .char (elementAfresh_eq_none_of_not_startsWith (Bool.not_eq_true _ ▸ ho)) hr

-- As long as elements are not empty, the reader never gives up behind one.
theorem contentAfresh_eq_consRaw_of
    (hlt : ∀ u e rest, u.length ≤ t.length → elementAfresh ns u = some (e, rest) →
      rest.length < u.length) :
    contentAfresh ns closing t =
      (stepAfresh ns closing (t.drop (gap ns closing t))).consRaw (t.take (gap ns closing t)) := by
  have ht := List.take_append_drop (gap ns closing t) t
  rw [contentAfresh]
  generalize List.take (gap ns closing t) t = front at ht ⊢
  split
  · rename_i hd
    rw [hd, stepAfresh]
    split <;> rfl
  · rename_i c r hd
    rw [hd] at ht ⊢
    have hl : (c :: r).length ≤ t.length := by simp [← ht]
    rw [stepAfresh]
    split
    · split
      · rename_i e rest he
        rw [if_pos ((hlt _ _ _ hl he).trans_le hl)]
      · rw [Content.consRaw_append]
    · split
      · rfl
      · rw [Content.consRaw_append]

theorem suffix_of_bodyAfresh_of {name body r : Text} {children : List Element}
    (hc : ∀ closing es rest, contentAfresh ns closing body = some (es, rest) →
      body = sourceOf es ++ rest)
    (h : bodyAfresh ns name body = some (children, r)) : r <:+ body := by
  rcases bodyAfresh_cases h with ⟨-, hf, -⟩ | ⟨-, hr⟩
  · exact suffix_of_findEnd hf
  · exact ⟨_, (hc _ _ _ hr).symm⟩

end Steps

-- What is read has the text for its source, and of an element there is some.
theorem afresh_source (ns : Text) :
    (∀ closing t es rest, contentAfresh ns closing t = some (es, rest) → t = sourceOf es ++ rest) ∧
      ∀ t e rest, elementAfresh ns t = some (e, rest) →
        t = e.source ++ rest ∧ rest.length < t.length := by
  apply reading_induction
  case hQ =>
    intro t ih e rest h
    obtain ⟨s, body, hs, ⟨rfl, rfl, -⟩ | ⟨-, children, r, hb, hr, rfl⟩⟩ := elementAfresh_cases h
    · exact ⟨(Text.taken_append_self (suffix_of_startTag? hs)).symm, length_startTag?_lt hs⟩
    · have hl := length_startTag?_lt hs
      have hbody : rest <:+ body :=
        (suffix_of_endTag? hr).trans (suffix_of_bodyAfresh_of (fun c => ih c body hl) hb)
      exact ⟨(Text.taken_append_self (hbody.trans (suffix_of_startTag? hs))).symm,
        hbody.length_le.trans_lt hl⟩
  case hP =>
    intro closing t hQ ih es rest h
    have ht := List.take_append_drop (gap ns closing t) t
    rw [contentAfresh_eq_consRaw_of fun u e rest hl he => (hQ u hl e rest he).2] at h
    obtain ⟨es', h', rfl⟩ := Content.consRaw_eq_some_iff.1 h
    generalize List.take (gap ns closing t) t = front at ht ⊢
    generalize List.drop (gap ns closing t) t = u at ht h'
    have hl : u.length ≤ t.length := by simp [← ht]
    suffices hu : u = sourceOf es' ++ rest by
      rw [← ht, hu, sourceOf_consRaw, List.append_assoc]
    cases contentForm_of_step h' with
    | finish _ => rfl
    | stop _ _ => rfl
    | element he hes =>
      obtain ⟨hsource, hlt⟩ := hQ _ hl _ _ he
      rw [hsource, ih _ (hlt.trans_le hl) _ _ hes]
      simp [sourceOf]
    | char _ hes =>
      rw [ih _ (Nat.lt_of_succ_le hl) _ _ hes, sourceOf_consRaw]
      rfl

section Steps

variable {ns t rest : Text} {closing : Option Text} {e : Element} {es : List Element}

theorem contentAfresh_source (h : contentAfresh ns closing t = some (es, rest)) :
    t = sourceOf es ++ rest :=
  (afresh_source ns).1 _ _ _ _ h

theorem elementAfresh_source (h : elementAfresh ns t = some (e, rest)) : t = e.source ++ rest :=
  ((afresh_source ns).2 _ _ _ h).1

theorem length_elementAfresh_lt (h : elementAfresh ns t = some (e, rest)) :
    rest.length < t.length :=
  ((afresh_source ns).2 _ _ _ h).2

theorem suffix_of_bodyAfresh {name body r : Text} {children : List Element}
    (h : bodyAfresh ns name body = some (children, r)) : r <:+ body :=
  suffix_of_bodyAfresh_of (fun _ _ _ => contentAfresh_source) h

theorem contentAfresh_eq_consRaw (t : Text) :
    contentAfresh ns closing t =
      (stepAfresh ns closing (t.drop (gap ns closing t))).consRaw (t.take (gap ns closing t)) :=
  contentAfresh_eq_consRaw_of fun _ _ _ _ => length_elementAfresh_lt

theorem gapFrom_eq_add (o : Text) (closing : Option Text) (n : Nat) (t : Text) :
    gapFrom o closing n t = gapFrom o closing 0 t + n := by
  induction t generalizing n with
  | nil => simp [gapFrom]
  | cons c t ih =>
    simp only [gapFrom]
    split
    · simp
    · rw [ih (n + 1), ih (0 + 1)]
      omega

-- A character that begins neither an element nor the end tag belongs to the text.
theorem contentAfresh_eq_step (t : Text) : contentAfresh ns closing t = stepAfresh ns closing t := by
  rw [contentAfresh_eq_consRaw]
  cases t with
  | nil => simp
  | cons c r =>
    by_cases hm : Text.startsWith (openMark ns) (c :: r) ||
      closing.any (Text.startsWith · (c :: r))
    · have hg : gap ns closing (c :: r) = 0 := by rw [gap, gapFrom, if_pos hm]
      rw [hg, List.take_zero, List.drop_zero, Content.consRaw_nil]
    · have hg : gap ns closing (c :: r) = gap ns closing r + 1 := by
        rw [gap, gapFrom, if_neg hm, gapFrom_eq_add, gap]
      obtain ⟨ho, hc⟩ := not_or.1 (mt Bool.or_eq_true_iff.2 hm)
      have hend : (closing.bind (endTag? · (c :: r))).isSome = false := by
        cases closing with
        | none => rfl
        | some m =>
          have hs : Text.after? m (c :: r) = none := by simpa [Text.startsWith] using hc
          simp [endTag?, hs]
      rw [hg, List.take_succ_cons, List.drop_succ_cons, ← List.singleton_append,
        Content.consRaw_append, ← contentAfresh_eq_consRaw, stepAfresh, if_neg ho, hend,
        if_neg Bool.false_ne_true]

theorem contentAfresh_of_element (h : elementAfresh ns t = some (e, rest)) :
    contentAfresh ns closing t = (contentAfresh ns closing rest).cons e := by
  have ho : Text.startsWith (openMark ns) t = true := by
    by_contra hn
    rw [elementAfresh_eq_none_of_not_startsWith (Bool.not_eq_true _ ▸ hn)] at h
    cases h
  rw [contentAfresh_eq_step]
  cases t with
  | nil => cases ho
  | cons c r => rw [stepAfresh, if_pos ho, h]

theorem contentAfresh_of_endTag {mark : Text} (ho : Text.startsWith (openMark ns) t = false)
    (h : endTag? mark t = some rest) : contentAfresh ns (some mark) t = some ([], t) := by
  rw [contentAfresh_eq_step]
  cases t with
  | nil =>
    obtain ⟨g, -, hg⟩ := endTag?_eq_some_iff.1 h
    simp at hg
  | cons c r => simp [stepAfresh, ho, h]

theorem contentForm_of_eq_some (h : contentAfresh ns closing t = some (es, rest)) :
    ContentForm ns closing t es rest :=
  contentForm_of_step (contentAfresh_eq_step t ▸ h)

end Steps
end Markup
end EdgeIncludes
