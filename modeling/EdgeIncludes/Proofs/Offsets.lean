import EdgeIncludes.Proofs.Bytes
import EdgeIncludes.Proofs.Soundness

namespace EdgeIncludes
namespace Markup

open Text (size)

-- Why a reader by offsets does not come to its end: it runs out of steps, or it would cut a text
-- where it cannot be cut.
inductive Stop where
  | steps
  | cut
deriving DecidableEq

-- Bodies without an end tag: the place where the body begins, and the name.
abbrev Unended := List (Nat × Text)

def cut : Option Text → Except Stop Text
  | some t => .ok t
  | none => .error .cut

-- What comes first in a text, and how many bytes stand in front of it.
inductive Ahead where
  | opening (n : Nat)
  | closing (n : Nat)
  | nothing
deriving DecidableEq

-- The end tag counts when it comes before what opens an element.
def Ahead.first : Option Nat → Option Nat → Ahead
  | none, none => nothing
  | some n, none => opening n
  | none, some n => closing n
  | some n, some m => if m < n then closing m else opening n

def ahead (ns : Text) (closing : Option Text) (t : Text) : Ahead :=
  .first (Text.findByte? (openMark ns) t) (closing.bind (Text.findByte? · t))

def pushRaw (es : List Element) (raw : Text) : List Element :=
  if raw = [] then es else es ++ [.raw raw]

-- The place of the first whole end tag in a body, searched from a place on.
def findEndAt (mark body : Text) : Nat → Nat → Except Stop (Option Nat)
  | 0, _ => .error .steps
  | fuel + 1, pos => do
    let rest ← cut (Text.fromByte? body pos)
    match Text.findByte? mark rest with
    | none => pure none
    | some n =>
      let u ← cut (Text.fromByte? body (pos + n))
      if (endTag? mark u).isSome then pure (some (pos + n))
      else findEndAt mark body fuel (pos + n + 1)

-- The content of an element that is not read for elements, with its body at `start`.
def verbatimAt (mark body : Text) (fuel start : Nat) (seen : Unended) :
    Except Stop (Option (List Element × Nat) × Unended) := do
  let stop ← findEndAt mark body fuel 0
  pure (stop.map fun n => ([], start + n), seen)

-- The element with the start tag `markup` at `pos` and its body at `start`, given its children and
-- the place of its end tag.
def elementAt (ns document : Text) (pos start : Nat) (s : StartTag) (markup : Text)
    (seen : Unended) :
    Option (List Element × Nat) → Except Stop (Option (Element × Nat) × Unended)
  | none => pure (some (.tag ⟨s.name, s.attributes, markup, none⟩ [], start), seen)
  | some (children, stop) => do
    let u ← cut (Text.fromByte? document stop)
    match endTag? (closeMark ns s.name) u with
    | none => pure (none, seen)
    | some rest =>
      let behind := size document - size rest
      let markup ← cut (Text.slice? document pos behind)
      let content ← cut (Text.slice? document start stop)
      pure (some (.tag ⟨s.name, s.attributes, markup, some content⟩ children, behind), seen)

mutual

-- Reads nodes from `pos` on, behind the nodes `es` and the text from `raw` on. Gives the place
-- where the end tag begins, or the end of the document. A mark that begins nothing is passed by one
-- byte.
def readContentAt (ns document : Text) (fuel : Nat) (seen : Unended) (closing : Option Text)
    (es : List Element) (raw pos : Nat) : Except Stop (Option (List Element × Nat) × Unended) :=
  match fuel with
  | 0 => .error .steps
  | fuel + 1 => do
    let rest ← cut (Text.fromByte? document pos)
    match ahead ns closing rest with
    | .closing n =>
      let u ← cut (Text.fromByte? document (pos + n))
      if (closing.bind (endTag? · u)).isSome then
        let t ← cut (Text.slice? document raw (pos + n))
        pure (some (pushRaw es t, pos + n), seen)
      else readContentAt ns document fuel seen closing es raw (pos + n + 1)
    | .opening n =>
      match ← readElementAt ns document fuel seen (pos + n) with
      | (some (e, behind), seen) =>
        let t ← cut (Text.slice? document raw (pos + n))
        readContentAt ns document fuel seen closing (pushRaw es t ++ [e]) behind behind
      | (none, seen) => readContentAt ns document fuel seen closing es raw (pos + n + 1)
    | .nothing =>
      if closing.isSome then pure (none, seen)
      else
        let t ← cut (Text.slice? document raw (size document))
        pure (some (pushRaw es t, size document), seen)

-- Reads the element whose start tag is at `pos`, and gives the place behind it.
def readElementAt (ns document : Text) (fuel : Nat) (seen : Unended) (pos : Nat) :
    Except Stop (Option (Element × Nat) × Unended) :=
  match fuel with
  | 0 => .error .steps
  | fuel + 1 => do
    let rest ← cut (Text.fromByte? document pos)
    match startTag? ns rest with
    | none => pure (none, seen)
    | some (s, body) =>
      let start := size document - size body
      let markup ← cut (Text.slice? document pos start)
      if s.selfClosing || seen.contains (start, s.name) then
        elementAt ns document pos start s markup seen none
      else
        let mark := closeMark ns s.name
        let (found, seen) ← (
          if s.name = verbatimName then verbatimAt mark body fuel start seen
          else readContentAt ns document fuel seen (some mark) [] start start)
        let seen := if found.isSome then seen else (start, s.name) :: seen
        elementAt ns document pos start s markup seen found

end

-- The nodes of a document.
def readAt (ns document : Text) (fuel : Nat) : Except Stop (List Element) := do
  let (found, _) ← readContentAt ns document fuel [] none [] 0 0
  pure ((found.map (·.1)).getD [.raw document])

namespace Ahead

def shift (k : Nat) : Ahead → Ahead
  | opening n => opening (k + n)
  | closing n => closing (k + n)
  | nothing => nothing

theorem first_opening (c : Option Nat) : first (some 0) c = opening 0 := by
  cases c <;> rfl

theorem first_closing {k : Nat} (hk : 0 < k) (o : Option Nat) :
    first (o.map (k + ·)) (some 0) = closing 0 := by
  cases o with
  | none => rfl
  | some n => exact if_pos (Nat.add_pos_left hk n)

theorem first_map (k : Nat) (o c : Option Nat) :
    first (o.map (k + ·)) (c.map (k + ·)) = (first o c).shift k := by
  cases o with
  | none => cases c <;> rfl
  | some n =>
    cases c with
    | none => rfl
    | some m =>
      by_cases h : m < n
      · simp [first, shift, h]
      · simp [first, shift, h]

end Ahead

section Places

variable {ns document mark t : Text} {closing : Option Text}

theorem size_angle : size ['<'] = 1 := rfl

theorem bind_findByte?_cons (closing : Option Text) (c : Char) (t : Text) :
    closing.bind (Text.findByte? · (c :: t)) =
      if closing.any (Text.startsWith · (c :: t)) then some 0
      else (closing.bind (Text.findByte? · t)).map (size [c] + ·) := by
  cases closing with
  | none => rfl
  | some m => exact Text.findByte?_cons m c t

-- A mark is ahead where the reader by texts comes to one.
theorem ahead_cases (ns : Text) (hc : ∀ m ∈ closing, ∃ p, m = '<' :: p) (t : Text) :
    (t.drop (gap ns closing t) = [] ∧ ahead ns closing t = .nothing) ∨
      ∃ r, t.drop (gap ns closing t) = '<' :: r ∧
        ahead ns closing t =
          if Text.startsWith (openMark ns) ('<' :: r) then
            .opening (size (t.take (gap ns closing t)))
          else .closing (size (t.take (gap ns closing t))) := by
  induction t with
  | nil =>
    have hclose : closing.bind (Text.findByte? · []) = none := by
      refine Option.bind_eq_none_iff.2 fun m hm => ?_
      obtain ⟨p, rfl⟩ := hc m hm
      exact Text.findByte?_nil (by simp)
    refine .inl ⟨by simp, ?_⟩
    rw [ahead, hclose, Text.findByte?_nil (by simp [openMark])]
    rfl
  | cons c t ih =>
    have hangle : ∀ p, Text.startsWith ('<' :: p) (c :: t) = true → c = '<' := by
      intro p hp
      obtain ⟨r, hr⟩ := Text.startsWith_iff.1 hp
      exact (List.cons.inj hr).1
    rw [ahead, Text.findByte?_cons, bind_findByte?_cons]
    cases ho : Text.startsWith (openMark ns) (c :: t) with
    | true =>
      obtain rfl := hangle _ ho
      have hgap : gap ns closing ('<' :: t) = 0 := by rw [gap, gapFrom, ho]; rfl
      refine .inr ⟨t, by rw [hgap]; rfl, ?_⟩
      rw [if_pos rfl, Ahead.first_opening, hgap, if_pos ho]
      rfl
    | false =>
      rw [if_neg Bool.false_ne_true]
      cases hm : closing.any (Text.startsWith · (c :: t)) with
      | true =>
        have hgap : gap ns closing (c :: t) = 0 := by rw [gap, gapFrom, hm, Bool.or_true]; rfl
        obtain rfl : c = '<' := by
          cases closing with
          | none => cases hm
          | some m =>
            obtain ⟨p, rfl⟩ := hc m rfl
            exact hangle p hm
        refine .inr ⟨t, by rw [hgap]; rfl, ?_⟩
        rw [if_pos rfl, Ahead.first_closing (Text.size_singleton_pos _), hgap, ho,
          if_neg Bool.false_ne_true]
        rfl
      | false =>
        have hgap : gap ns closing (c :: t) = gap ns closing t + 1 := by
          rw [gap, gapFrom, ho, hm, Bool.or_self, if_neg Bool.false_ne_true, gapFrom_eq_add, gap]
        rw [if_neg Bool.false_ne_true, Ahead.first_map, ← ahead, hgap, List.drop_succ_cons,
          List.take_succ_cons, Text.size_cons c (t.take _)]
        obtain ⟨hnil, ha⟩ | ⟨r, hr, ha⟩ := ih
        · exact .inl ⟨hnil, by rw [ha]; rfl⟩
        · refine .inr ⟨r, hr, ?_⟩
          rw [ha]
          split <;> rfl

-- What an end tag is searched for is the first place where its mark stands.
theorem findEnd_cases {p : Text} (hp : mark = '<' :: p) (t : Text) :
    (Text.findByte? mark t = none ∧ findEnd mark t = none) ∨
      ∃ a r, t = a ++ '<' :: r ∧ Text.findByte? mark t = some (size a) ∧
        findEnd mark t = if (endTag? mark ('<' :: r)).isSome then some ('<' :: r)
          else findEnd mark r := by
  induction t with
  | nil => exact .inl ⟨Text.findByte?_nil (by simp [hp]), rfl⟩
  | cons c t ih =>
    rw [Text.findByte?_cons]
    cases hs : Text.startsWith mark (c :: t) with
    | true =>
      obtain ⟨u, hu⟩ := Text.startsWith_iff.1 hs
      obtain rfl : c = '<' := by
        rw [hp] at hu
        exact (List.cons.inj hu).1
      exact .inr ⟨[], t, rfl, rfl, rfl⟩
    | false =>
      have hnone : (endTag? mark (c :: t)).isSome = false := by
        refine Bool.eq_false_iff.2 fun h => Bool.eq_false_iff.1 hs ?_
        obtain ⟨u, hu⟩ := Option.isSome_iff_exists.1 h
        obtain ⟨g, -, hg⟩ := endTag?_eq_some_iff.1 hu
        exact Text.startsWith_iff.2 ⟨g ++ '>' :: u, hg⟩
      rw [findEnd, hnone, if_neg Bool.false_ne_true, if_neg Bool.false_ne_true]
      obtain ⟨hf, he⟩ | ⟨a, r, ht, hf, he⟩ := ih
      · exact .inl ⟨by rw [hf]; rfl, he⟩
      · exact .inr ⟨c :: a, r, by rw [ht]; rfl, by rw [hf, Text.size_cons c a]; rfl, he⟩

theorem cut_fromByte? {a r : Text} (h : t = a ++ r) {n : Nat} (hn : n = size a) :
    cut (Text.fromByte? t n) = .ok r := by
  rw [h, hn, Text.fromByte?_append]
  rfl

theorem cut_slice? {a b r : Text} (h : t = a ++ (b ++ r)) {m n : Nat} (hm : m = size a)
    (hn : n = size a + size b) : cut (Text.slice? t m n) = .ok b := by
  rw [h, hm, hn, Text.slice?_append]
  rfl

-- A body is searched in steps that its length bounds.
theorem findEndAt_eq {p : Text} (hp : mark = '<' :: p) (fuel : Nat) (a t : Text)
    (hfuel : t.length < fuel) :
    findEndAt mark (a ++ t) fuel (size a) =
      .ok ((findEnd mark t).map fun e => size (a ++ t) - size e) := by
  induction fuel generalizing a t with
  | zero => omega
  | succ fuel ih =>
    rw [findEndAt, cut_fromByte? rfl rfl]
    obtain ⟨hf, he⟩ | ⟨b, r, rfl, hf, he⟩ := findEnd_cases hp t
    · simp only [bind, Except.bind, hf, he]
      rfl
    · have hplace : size (a ++ (b ++ '<' :: r)) - size ('<' :: r) = size a + size b := by
        simp only [Text.size_append]
        omega
      have hcut : cut (Text.fromByte? (a ++ (b ++ '<' :: r)) (size a + size b)) =
          .ok ('<' :: r) :=
        cut_fromByte? (List.append_assoc a b _).symm (Text.size_append a b).symm
      simp only [bind, Except.bind, hf, hcut, he]
      split
      · rw [Option.map_some, hplace]
        rfl
      · have hlength : r.length < fuel := by
          simp only [List.length_append, List.length_cons] at hfuel
          omega
        have hnext := ih (a ++ (b ++ ['<'])) r hlength
        simp only [Text.size_append, size_angle, List.append_assoc, List.singleton_append] at hnext
        simpa only [Text.size_append, Nat.add_assoc] using hnext

end Places

-- What is remembered by offsets, as the reader by texts remembers it.
def memoryOf (document : Text) (seen : Unended) : Unclosed :=
  seen.filterMap fun k => (Text.fromByte? document k.1).map fun t => (t.length, k.2)

-- A content by texts, by offsets and with the nodes in front of it.
def located (document : Text) (es : List Element) (c : Content) : Option (List Element × Nat) :=
  c.map fun p => (es ++ p.1, size document - size p.2)

def locatedElement (document : Text) (r : Option (Element × Text)) : Option (Element × Nat) :=
  r.map fun p => (p.1, size document - size p.2)

-- The reader by offsets comes to its end, with what the one by texts reads and remembers.
def Follows {β γ : Type} (document : Text) (locate : β → γ) (r : Except Stop (γ × Unended))
    (r' : β × Unclosed) : Prop :=
  ∃ seen, r = .ok (locate r'.1, seen) ∧ memoryOf document seen = r'.2

section Follows

variable {ns document a t w : Text} {closing : Option Text} {seen : Unended} {name : Text}

theorem mem_memoryOf (h : document = a ++ t) :
    (t.length, name) ∈ memoryOf document seen ↔ (size a, name) ∈ seen := by
  rw [memoryOf, List.mem_filterMap]
  constructor
  · rintro ⟨⟨n, name'⟩, hk, he⟩
    obtain ⟨r, hr, he⟩ := Option.map_eq_some_iff.1 he
    obtain ⟨hlength, rfl⟩ := Prod.mk.inj he
    obtain ⟨b, hb, rfl⟩ := Text.fromByte?_eq_some_iff.1 hr
    -- Ends of a document that are of one length begin at one place.
    obtain ⟨rfl, -⟩ := List.append_inj' (hb.symm.trans h) hlength
    exact hk
  · intro hk
    exact ⟨_, hk, by rw [h, Text.fromByte?_append]; rfl⟩

theorem contains_memoryOf (h : document = a ++ t) :
    (memoryOf document seen).contains (t.length, name) = seen.contains (size a, name) := by
  rw [Bool.eq_iff_iff, List.contains_iff_mem, List.contains_iff_mem]
  exact mem_memoryOf h

theorem memoryOf_cons (h : document = a ++ t) :
    memoryOf document ((size a, name) :: seen) = (t.length, name) :: memoryOf document seen := by
  rw [memoryOf, List.filterMap_cons_some (b := (t.length, name))]
  · rfl
  · rw [h, Text.fromByte?_append]
    rfl

theorem pushRaw_eq (es : List Element) (w : Text) :
    pushRaw es w = es ++ Element.consRaw w [] := by
  by_cases hw : w = []
  · simp [pushRaw, Element.consRaw, hw]
  · simp [pushRaw, Element.consRaw, hw]

theorem consRaw_tag (w : Text) (tag : Tag) (children es : List Element) :
    Element.consRaw w (.tag tag children :: es) =
      Element.consRaw w [] ++ .tag tag children :: es := by
  by_cases hw : w = []
  · simp [Element.consRaw, hw]
  · simp [Element.consRaw, hw]

theorem located_pushRaw (es : List Element) (w : Text) (tag : Tag) (children : List Element)
    (c : Content) :
    located document (pushRaw es w ++ [.tag tag children]) c =
      located document es ((c.cons (.tag tag children)).consRaw w) := by
  cases c with
  | none => rfl
  | some p =>
    simp only [located, Content.cons, Content.consRaw, Option.map_some, pushRaw_eq, consRaw_tag,
      List.append_assoc, List.singleton_append]

-- Reading nodes by offsets, behind a text `w` that belongs to no node yet.
def ContentFollows (ns document : Text) (closing : Option Text) (t : Text) : Prop :=
  ∀ fuel a w es seen, document = a ++ (w ++ t) → 2 * t.length + 2 ≤ fuel →
    Follows document (located document es)
      (readContentAt ns document fuel seen closing es (size a) (size a + size w))
      ((readContent ns closing (memoryOf document seen) t).1.consRaw w,
        (readContent ns closing (memoryOf document seen) t).2)

def ElementFollows (ns document t : Text) : Prop :=
  ∀ fuel a seen, document = a ++ t → 2 * t.length + 1 ≤ fuel →
    Follows document (locatedElement document) (readElementAt ns document fuel seen (size a))
      (readElement ns (memoryOf document seen) t)

-- The text up to a place is a node of its own when there is some.
theorem located_stop (es : List Element) (w u : Text) (rest : Text) :
    located document es (Content.consRaw w (some (Element.consRaw u [], rest))) =
      some (pushRaw es (w ++ u), size document - size rest) := by
  rw [pushRaw_eq, Element.consRaw_append]
  rfl

-- A mark that begins nothing is passed by one byte, and becomes part of the text.
theorem follows_char {u r : Text} {fuel : Nat} {es : List Element}
    (hc : ContentFollows ns document closing r) (hdoc : document = a ++ (w ++ (u ++ '<' :: r)))
    (hfuel : 2 * r.length + 2 ≤ fuel) :
    Follows document (located document es)
      (readContentAt ns document fuel seen closing es (size a) (size a + size w + size u + 1))
      (((readContent ns closing (memoryOf document seen) r).1.consRaw (u ++ ['<'])).consRaw w,
        (readContent ns closing (memoryOf document seen) r).2) := by
  have h := hc fuel a (w ++ (u ++ ['<'])) es seen (by simp [hdoc]) hfuel
  rw [Content.consRaw_append] at h
  simpa only [Text.size_append, size_angle, Nat.add_assoc] using h

-- Behind an element the text begins anew.
theorem follows_element {u r rest : Text} {fuel : Nat} {es : List Element} {tag : Tag}
    {children : List Element} (hc : ContentFollows ns document closing rest)
    (hdoc : document = a ++ (w ++ (u ++ r))) (hrest : rest <:+ r)
    (hfuel : 2 * rest.length + 2 ≤ fuel) :
    Follows document (located document es)
      (readContentAt ns document fuel seen closing (pushRaw es (w ++ u) ++ [.tag tag children])
        (size document - size rest) (size document - size rest))
      ((((readContent ns closing (memoryOf document seen) rest).1.cons
          (.tag tag children)).consRaw u).consRaw w,
        (readContent ns closing (memoryOf document seen) rest).2) := by
  obtain ⟨v, rfl⟩ := hrest
  have hdoc' : document = (a ++ (w ++ (u ++ v))) ++ ([] ++ rest) := by simp [hdoc]
  have hplace : size document - size rest = size (a ++ (w ++ (u ++ v))) := by
    rw [hdoc', Text.size_append, List.nil_append, Nat.add_sub_cancel]
  obtain ⟨seen', hat, hmemory⟩ :=
    hc fuel _ [] (pushRaw es (w ++ u) ++ [.tag tag children]) seen hdoc' hfuel
  rw [Content.consRaw_nil, located_pushRaw, Content.consRaw_append] at hat
  exact ⟨seen', by rw [hplace]; exact hat, hmemory⟩

theorem contentFollows (hclosing : ∀ m ∈ closing, ∃ p, m = '<' :: p)
    (he : ∀ u, u.length ≤ t.length → ElementFollows ns document u)
    (hc : ∀ u, u.length < t.length → ContentFollows ns document closing u) :
    ContentFollows ns document closing t := by
  intro fuel a w es seen hdoc hfuel
  obtain ⟨fuel, rfl⟩ : ∃ k, fuel = k + 1 := ⟨fuel - 1, by omega⟩
  have hrest : cut (Text.fromByte? document (size a + size w)) = .ok t :=
    cut_fromByte? (by rw [hdoc, List.append_assoc]) (Text.size_append a w).symm
  rw [readContentAt, hrest]
  simp only [bind, Except.bind]
  have ht := List.take_append_drop (gap ns closing t) t
  obtain ⟨hnil, hahead⟩ | ⟨r, hr, hahead⟩ := ahead_cases ns hclosing t
  · rw [hahead, readContent_of_nil hnil]
    generalize t.take (gap ns closing t) = u at ht
    rw [hnil, List.append_nil] at ht
    cases closing with
    | some mark => exact ⟨seen, rfl, rfl⟩
    | none =>
      have hslice : cut (Text.slice? document (size a) (size document)) = .ok (w ++ u) :=
        cut_slice? (r := []) (by rw [hdoc, ht, List.append_nil]) rfl
          (by rw [hdoc, ht, Text.size_append])
      refine ⟨seen, ?_, rfl⟩
      rw [if_neg (by simp), if_neg (by simp), located_stop, hslice]
      rfl
  obtain ⟨u, hu⟩ : ∃ u, t.take (gap ns closing t) = u := ⟨_, rfl⟩
  rw [hahead, hu]
  rw [hr, hu] at ht
  have hlength : u.length + (r.length + 1) = t.length := by simp [← ht]
  have hdoc' : document = a ++ (w ++ (u ++ '<' :: r)) := by rw [hdoc, ht]
  have hhere : document = (a ++ (w ++ u)) ++ '<' :: r := by simp [hdoc']
  have hplace : size a + size w + size u = size (a ++ (w ++ u)) := by
    simp only [Text.size_append, Nat.add_assoc]
  have hslice : cut (Text.slice? document (size a) (size a + size w + size u)) = .ok (w ++ u) :=
    cut_slice? (by rw [hdoc', List.append_assoc]) rfl (by rw [Text.size_append, Nat.add_assoc])
  cases ho : Text.startsWith (openMark ns) ('<' :: r) with
  | true =>
    have hlen : ('<' :: r).length ≤ t.length := by simp only [List.length_cons]; omega
    obtain ⟨seen', hat, hmemory⟩ := he ('<' :: r) hlen fuel (a ++ (w ++ u)) seen hhere
      (by simp only [List.length_cons]; omega)
    have hsound := (reading_sound ns).2 ('<' :: r) (memoryOf document seen)
    rw [if_pos rfl]
    simp only [hplace, hat]
    rw [← hplace]
    rcases hf : readElement ns (memoryOf document seen) ('<' :: r) with ⟨_ | ⟨e, rest⟩, m⟩
    · rw [hf] at hmemory
      obtain rfl : memoryOf document seen' = m := hmemory
      rw [readContent_of_char hr hf (.inl ho), hu]
      exact follows_char (hc r (by omega)) hdoc' (by omega)
    · rw [hf] at hmemory hsound
      obtain rfl : memoryOf document seen' = m := hmemory
      obtain ⟨hrest, hlt, tag, children, rfl⟩ := hsound.behind rfl
      have hlt' : rest.length < t.length := hlt.trans_le hlen
      rw [readContent_of_element hr ho hf hlt', hu]
      simp only [locatedElement, Option.map_some, hslice]
      exact follows_element (hc rest hlt') hdoc' hrest (by omega)
  | false =>
    have hcut : cut (Text.fromByte? document (size a + size w + size u)) = .ok ('<' :: r) :=
      cut_fromByte? hhere hplace
    rw [if_neg Bool.false_ne_true]
    simp only [hcut]
    cases hend : (closing.bind (endTag? · ('<' :: r))).isSome with
    | true =>
      refine ⟨seen, ?_, by rw [readContent_of_endTag hr ho hend]⟩
      rw [readContent_of_endTag hr ho hend, if_pos rfl, hslice, hu, located_stop, hhere,
        Text.size_append, Nat.add_sub_cancel, hplace]
      rfl
    | false =>
      have hnone : readElement ns (memoryOf document seen) ('<' :: r) = (none, _) :=
        readElement_eq_none (startTag?_eq_none ho)
      rw [readContent_of_char hr hnone (.inr ⟨rfl, hend⟩), hu, if_neg Bool.false_ne_true]
      exact follows_char (hc r (by omega)) hdoc' (by omega)

-- An element is put together from its places as it is from texts.
theorem elementAt_eq {x body : Text} {s : StartTag} {c : Content} (seen : Unended)
    (hdoc : document = a ++ (x ++ body))
    (hc : ∀ {children e}, c = some (children, e) →
      e <:+ body ∧ (endTag? (closeMark ns s.name) e).isSome = true) :
    elementAt ns document (size a) (size document - size body) s x seen (located document [] c) =
      .ok (locatedElement document (elementOf ns (x ++ body) s body c), seen) := by
  rcases c with _ | ⟨children, e⟩
  · rw [elementOf, Text.taken_append]
    rfl
  obtain ⟨⟨v, rfl⟩, hend⟩ := hc rfl
  obtain ⟨rest, hrest⟩ := Option.isSome_iff_exists.1 hend
  obtain ⟨y, rfl⟩ := suffix_of_endTag? hrest
  have hsize : size document = size a + (size x + (size v + (size y + size rest))) := by
    simp only [hdoc, Text.size_append]
  have hu : cut (Text.fromByte? document (size document - size (y ++ rest))) = .ok (y ++ rest) := by
    refine cut_fromByte? (a := a ++ (x ++ v)) (by simp [hdoc]) ?_
    simp only [Text.size_append]
    omega
  have hmarkup : cut (Text.slice? document (size a) (size document - size rest)) =
      .ok (x ++ (v ++ y)) := by
    refine cut_slice? (r := rest) (by simp [hdoc]) rfl ?_
    simp only [Text.size_append]
    omega
  have hcontent : cut (Text.slice? document (size document - size (v ++ (y ++ rest)))
      (size document - size (y ++ rest))) = .ok v := by
    refine cut_slice? (a := a ++ x) (r := y ++ rest) (by simp [hdoc]) ?_ ?_
    · simp only [Text.size_append]
      omega
    · simp only [Text.size_append]
      omega
  have htaken : Text.taken (x ++ (v ++ (y ++ rest))) rest = x ++ (v ++ y) := by
    have h := Text.taken_append (x ++ (v ++ y)) rest
    simpa only [List.append_assoc] using h
  rw [located, Option.map_some, elementAt, hu]
  simp only [bind, Except.bind, hrest, hmarkup, hcontent]
  rw [elementOf, hrest, Option.map_some, htaken, Text.taken_append]
  rfl

theorem bodyFollows {body : Text} {fuel : Nat} (hdoc : document = a ++ body)
    (hc : ContentFollows ns document (some (closeMark ns name)) body)
    (hfuel : 2 * body.length + 2 ≤ fuel) :
    Follows document (located document [])
      (if name = verbatimName then
          verbatimAt (closeMark ns name) body fuel (size document - size body) seen
        else readContentAt ns document fuel seen (some (closeMark ns name)) []
          (size document - size body) (size document - size body))
      (readBody ns name (memoryOf document seen) body) := by
  have hstart : size document - size body = size a := by
    rw [hdoc, Text.size_append, Nat.add_sub_cancel]
  rw [readBody]
  split
  · refine ⟨seen, ?_, rfl⟩
    have hfind : findEndAt (closeMark ns name) body fuel 0 =
        .ok ((findEnd (closeMark ns name) body).map fun e => size body - size e) :=
      findEndAt_eq rfl fuel [] body (by omega)
    rw [verbatimAt, hfind]
    rcases hf : findEnd (closeMark ns name) body with _ | e
    · rfl
    · obtain ⟨v, hv⟩ := suffix_of_findEnd hf
      have hplace : size document - size body + (size body - size e) = size document - size e := by
        rw [hdoc, ← hv]
        simp only [Text.size_append]
        omega
      simp only [bind, Except.bind, located, Option.map_some, hplace]
      rfl
  · have h := hc fuel a [] [] seen hdoc hfuel
    rw [Content.consRaw_nil] at h
    rw [hstart]
    exact h

theorem elementFollows
    (hc : ∀ closing body, body.length < t.length → (∀ m ∈ closing, ∃ p, m = '<' :: p) →
      ContentFollows ns document closing body) :
    ElementFollows ns document t := by
  intro fuel a seen hdoc hfuel
  obtain ⟨fuel, rfl⟩ : ∃ k, fuel = k + 1 := ⟨fuel - 1, by omega⟩
  rw [readElementAt, cut_fromByte? hdoc rfl]
  simp only [bind, Except.bind]
  rcases hs : startTag? ns t with _ | ⟨s, body⟩
  · rw [readElement_eq_none hs]
    exact ⟨seen, rfl, rfl⟩
  have hlt := length_startTag?_lt hs
  obtain ⟨x, rfl⟩ := suffix_of_startTag? hs
  have hbehind : document = (a ++ x) ++ body := by rw [hdoc, List.append_assoc]
  have hstart : size document - size body = size (a ++ x) := by
    rw [hbehind, Text.size_append, Nat.add_sub_cancel]
  have hmarkup : cut (Text.slice? document (size a) (size document - size body)) = .ok x :=
    cut_slice? hdoc rfl (by rw [hstart, Text.size_append])
  have hkey : (s.selfClosing || (memoryOf document seen).contains (body.length, s.name)) =
      (s.selfClosing || seen.contains (size document - size body, s.name)) := by
    rw [contains_memoryOf hbehind, hstart]
  simp only [hmarkup]
  cases hk : s.selfClosing || seen.contains (size document - size body, s.name) with
  | true =>
    rw [if_pos rfl, readElement_eq_alone hs (hkey.trans hk)]
    exact ⟨seen, elementAt_eq (c := none) seen hdoc (fun h => nomatch h), rfl⟩
  | false =>
    have hbody := hc (some (closeMark ns s.name)) body hlt (by rintro _ ⟨⟩; exact ⟨_, rfl⟩)
    have hsteps : 2 * body.length + 2 ≤ fuel := by omega
    obtain ⟨seen', hat, hmemory⟩ := bodyFollows hbehind hbody hsteps
    rw [if_neg Bool.false_ne_true, hat, readElement_eq hs (hkey.trans hk)]
    have hstop : ∀ {children e}, (readBody ns s.name (memoryOf document seen) body).1 =
        some (children, e) → e <:+ body ∧ (endTag? (closeMark ns s.name) e).isSome = true :=
      readBody_stop fun closing => (reading_sound ns).1 closing body _
    dsimp only
    rw [elementAt_eq _ hdoc hstop]
    refine ⟨_, rfl, ?_⟩
    rw [located, Option.isSome_map]
    split
    · exact hmemory
    · rw [hstart, memoryOf_cons hbehind, hmemory]

-- The reader by offsets follows the one by texts, from every place and whatever it remembers.
theorem reading_follows (ns document : Text) :
    (∀ closing t, (∀ m ∈ closing, ∃ p, m = '<' :: p) → ContentFollows ns document closing t) ∧
      ∀ t, ElementFollows ns document t := by
  apply reading_induction
  case hQ =>
    intro t ih
    exact elementFollows ih
  case hP =>
    intro closing t hQ ih hclosing
    exact contentFollows hclosing hQ fun u hl => ih u hl hclosing

end Follows

section Total

variable {ns document t : Text} {fuel : Nat}

theorem readAt_eq_read (ns document : Text) (hfuel : 2 * document.length + 2 ≤ fuel) :
    readAt ns document fuel = .ok (read ns document) := by
  obtain ⟨seen, hat, -⟩ := (reading_follows ns document).1 none document nofun fuel [] [] [] []
    rfl hfuel
  rw [Content.consRaw_nil] at hat
  have hfirst : readContentAt ns document fuel [] none [] 0 0 =
      .ok (located document [] (readContent ns none [] document).1, seen) := hat
  rw [readAt, hfirst, read, located]
  simp only [bind, Except.bind, Option.map_map]
  rfl

-- A whole end tag stands at the place.
def EndTagAt (ns t name : Text) (n : Nat) : Prop :=
  ∃ u, Text.fromByte? t n = some u ∧ (endTag? (closeMark ns name) u).isSome = true

theorem endTagAt_of_suffix {name rest : Text} (h : rest <:+ t)
    (hend : (endTag? (closeMark ns name) rest).isSome = true) :
    EndTagAt ns t name (size t - size rest) := by
  obtain ⟨a, rfl⟩ := h
  refine ⟨rest, Text.fromByte?_eq_some_iff.2 ⟨a, rfl, ?_⟩, hend⟩
  rw [Text.size_append, Nat.add_sub_cancel]

-- The reader by offsets never cuts a text where it cannot be cut, and it comes to its end in steps
-- that the length of the text bounds. What it reads of a document is what is read by texts. From
-- any place and whatever it remembers, it reads up to the end of the document when it looks for no
-- end tag. Where it finds an end there is the whole end tag, in content that is read for elements
-- and in content that is not. It reads an element wherever a start tag stands.
theorem offsets_total (ns document : Text) :
    (∀ fuel, 2 * document.length + 2 ≤ fuel → readAt ns document fuel = .ok (read ns document)) ∧
      ∀ n t fuel seen, Text.fromByte? document n = some t → 2 * t.length + 2 ≤ fuel →
        (∃ es seen', readContentAt ns document fuel seen none [] n n =
          .ok (some (es, size document), seen')) ∧
        (∀ name, ∃ found seen',
          readContentAt ns document fuel seen (some (closeMark ns name)) [] n n =
            .ok (found, seen') ∧
          ∀ es stop, found = some (es, stop) → EndTagAt ns document name stop) ∧
        (∀ name, ∃ found, findEndAt (closeMark ns name) t fuel 0 = .ok found ∧
          ∀ stop, found = some stop → EndTagAt ns t name stop) ∧
        ∃ found seen', readElementAt ns document fuel seen n = .ok (found, seen') ∧
          (found = none ↔ startTag? ns t = none) := by
  refine ⟨fun fuel hfuel => readAt_eq_read ns document hfuel, fun n t fuel seen hn hfuel => ?_⟩
  obtain ⟨a, hdoc, rfl⟩ := Text.fromByte?_eq_some_iff.1 hn
  have hcontent : ∀ closing, (∀ m ∈ closing, ∃ p, m = '<' :: p) → ∃ seen',
      readContentAt ns document fuel seen closing [] (size a) (size a) =
        .ok (located document [] (readContent ns closing (memoryOf document seen) t).1, seen') := by
    intro closing hclosing
    obtain ⟨seen', hat, -⟩ :=
      (reading_follows ns document).1 closing t hclosing fuel a [] [] seen hdoc hfuel
    rw [Content.consRaw_nil] at hat
    exact ⟨seen', hat⟩
  refine ⟨?document, fun name => ?content, fun name => ?verbatim, ?element⟩
  case document =>
    obtain ⟨seen', hat⟩ := hcontent none nofun
    have hsound := (reading_sound ns).1 none t (memoryOf document seen)
    obtain ⟨⟨es, rest⟩, hc⟩ := Option.ne_none_iff_exists'.1 (hsound.found rfl)
    obtain rfl : rest = [] := (hsound.stop hc).2
    rw [hc] at hat
    exact ⟨es, seen', hat⟩
  case content =>
    obtain ⟨seen', hat⟩ := hcontent (some (closeMark ns name)) (by rintro _ ⟨⟩; exact ⟨_, rfl⟩)
    refine ⟨_, seen', hat, fun es stop hfound => ?_⟩
    obtain ⟨⟨es', rest⟩, hc, he⟩ := Option.map_eq_some_iff.1 hfound
    obtain ⟨-, rfl⟩ := Prod.mk.inj he
    obtain ⟨hrest, hend⟩ :=
      ((reading_sound ns).1 (some (closeMark ns name)) t (memoryOf document seen)).stop hc
    exact endTagAt_of_suffix (hrest.trans ⟨a, hdoc.symm⟩) hend
  case verbatim =>
    have hfind : findEndAt (closeMark ns name) t fuel 0 = _ :=
      findEndAt_eq rfl fuel [] t (by omega)
    refine ⟨_, hfind, fun stop hfound => ?_⟩
    obtain ⟨rest, hf, rfl⟩ := Option.map_eq_some_iff.1 hfound
    exact endTagAt_of_suffix (suffix_of_findEnd hf) (isSome_endTag?_of_findEnd hf)
  case element =>
    obtain ⟨seen', hat, -⟩ := (reading_follows ns document).2 t fuel a seen hdoc (by omega)
    refine ⟨_, seen', hat, ?_⟩
    rw [locatedElement, Option.map_eq_none_iff]
    refine ⟨((reading_sound ns).2 t (memoryOf document seen)).missing, fun hs => ?_⟩
    rw [readElement_eq_none hs]

-- Characters of two bytes around a start tag without its end tag.
theorem offsets_total_unclosed :
    let ns := "x".toList
    let document := "é<x:a>ü</x:b".toList
    Text.fromByte? document 2 = some "<x:a>ü</x:b".toList ∧ Text.fromByte? document 1 = none ∧
      readAt ns document 26 = .ok (read ns document) ∧
      ∃ found seen, readElementAt ns document 26 [] 2 = .ok (found, seen) ∧ found ≠ none := by
  intro ns document
  have hplace : Text.fromByte? document 2 = some "<x:a>ü</x:b".toList := by decide
  obtain ⟨hread, hfrom⟩ := offsets_total ns document
  obtain ⟨-, -, -, found, seen, hat, hnone⟩ := hfrom 2 _ 26 [] hplace (by decide)
  have hchars : ∀ c ∈ ['a'], isTagNameChar c = true := List.all_eq_true.1 (by decide)
  have hs : startTag? ns "<x:a>ü</x:b".toList = some (⟨['a'], [], false⟩, "ü</x:b".toList) :=
    startTag?_bare ns _ (List.cons_ne_nil 'a' []) hchars
  refine ⟨hplace, by decide, hread 26 (by decide), found, seen, hat, fun h => ?_⟩
  rw [hnone.1 h] at hs
  cases hs

end Total

end Markup
end EdgeIncludes
