import EdgeIncludes.Proofs.Afresh

namespace EdgeIncludes
namespace Markup

-- What the memory names are bodies in the document, each without an end tag for its name.
def Truthful (ns document : Text) (seen : Unclosed) : Prop :=
  ∀ n name, (n, name) ∈ seen →
    ∃ body, body <:+ document ∧ body.length = n ∧ bodyAfresh ns name body = none

-- The content of an element with the name, if it has an end tag, and what has been found out on the
-- way.
def readBody (ns name : Text) (seen : Unclosed) (body : Text) : Content × Unclosed :=
  if name = verbatimName then ((findEnd (closeMark ns name) body).map fun e => ([], e), seen)
  else readContent ns (some (closeMark ns name)) seen body

section Element

variable {ns t body : Text} {s : StartTag} {seen : Unclosed}

theorem readElement_eq_none (hs : startTag? ns t = none) : readElement ns seen t = (none, seen) := by
  rw [readElement]
  split
  · rfl
  · simp_all

theorem readElement_eq_alone (hs : startTag? ns t = some (s, body))
    (hk : (s.selfClosing || seen.contains (body.length, s.name)) = true) :
    readElement ns seen t = (elementOf ns t s body none, seen) := by
  rw [readElement]
  split
  · simp_all
  · rename_i s' body' hs'
    rw [hs] at hs'
    obtain ⟨rfl, rfl⟩ := Prod.mk.inj (Option.some.inj hs')
    dsimp only
    rw [if_pos hk, elementOf]

theorem readElement_eq (hs : startTag? ns t = some (s, body))
    (hk : (s.selfClosing || seen.contains (body.length, s.name)) = false) :
    readElement ns seen t =
      (elementOf ns t s body (readBody ns s.name seen body).1,
        if (readBody ns s.name seen body).1.isSome then (readBody ns s.name seen body).2
        else (body.length, s.name) :: (readBody ns s.name seen body).2) := by
  rw [readElement]
  split
  · simp_all
  · rename_i s' body' hs'
    rw [hs] at hs'
    obtain ⟨rfl, rfl⟩ := Prod.mk.inj (Option.some.inj hs')
    dsimp only
    rw [if_neg (Bool.not_eq_true _ ▸ hk), ← readBody]
    rcases readBody ns s.name seen body with ⟨_ | ⟨children, e⟩, seen'⟩
    · rfl
    · rw [elementOf]
      cases he : endTag? (closeMark ns s.name) e <;> simp [he]

end Element

-- What is read is what is read without a memory, and the memory that is left is truthful.
structure Agrees {β : Type} (ns document : Text) (r : β × Unclosed) (afresh : β) : Prop where
  result : r.1 = afresh
  memory : Truthful ns document r.2

section Memory

variable {ns document t body name : Text} {seen : Unclosed}

theorem truthful_nil (ns document : Text) : Truthful ns document [] := by
  intro n name h
  cases h

theorem Truthful.cons (h : Truthful ns document seen) (hb : body <:+ document)
    (hnone : bodyAfresh ns name body = none) :
    Truthful ns document ((body.length, name) :: seen) := by
  intro n other hm
  rcases List.mem_cons.1 hm with he | hm
  · obtain ⟨rfl, rfl⟩ := Prod.mk.inj he
    exact ⟨body, hb, rfl, hnone⟩
  · exact h n other hm

-- Ends of a document that are of one length are one text.
theorem Truthful.eq_none (h : Truthful ns document seen) (hb : body <:+ document)
    (hm : (body.length, name) ∈ seen) : bodyAfresh ns name body = none := by
  obtain ⟨same, hs, hl, hnone⟩ := h _ _ hm
  have heq : same = body := (List.suffix_of_suffix_length_le hs hb hl.le).eq_of_length hl
  exact heq ▸ hnone

theorem Agrees.consRaw {r : Content × Unclosed} {c : Content} (h : Agrees ns document r c)
    (a : Text) : Agrees ns document (r.1.consRaw a, r.2) (c.consRaw a) :=
  ⟨by rw [h.result], h.memory⟩

theorem Agrees.cons {r : Content × Unclosed} {c : Content} (h : Agrees ns document r c)
    (e : Element) : Agrees ns document (r.1.cons e, r.2) (c.cons e) :=
  ⟨by rw [h.result], h.memory⟩

theorem agrees_readBody
    (hc : ∀ closing, Agrees ns document (readContent ns closing seen body)
      (contentAfresh ns closing body))
    (h : Truthful ns document seen) (name : Text) :
    Agrees ns document (readBody ns name seen body) (bodyAfresh ns name body) := by
  rw [readBody, bodyAfresh]
  split
  · exact ⟨rfl, h⟩
  · exact hc _

-- An element is read as without a memory when its body is. If the memory names the body, looking
-- for the end tag would have been in vain.
theorem agrees_readElement (ht : t <:+ document) (h : Truthful ns document seen)
    (hc : ∀ closing body, body.length < t.length → body <:+ document →
      Agrees ns document (readContent ns closing seen body) (contentAfresh ns closing body)) :
    Agrees ns document (readElement ns seen t) (elementAfresh ns t) := by
  rcases hs : startTag? ns t with _ | ⟨s, body⟩
  · rw [readElement_eq_none hs, elementAfresh_eq_none hs]
    exact ⟨rfl, h⟩
  have hb := (suffix_of_startTag? hs).trans ht
  rw [elementAfresh_eq hs]
  cases hk : s.selfClosing || seen.contains (body.length, s.name) with
  | true =>
    rw [readElement_eq_alone hs hk]
    refine ⟨?_, h⟩
    rcases Bool.or_eq_true_iff.1 hk with hself | hm
    · rw [hself, if_pos rfl]
    · have hm : (body.length, s.name) ∈ seen := by simpa using hm
      rw [h.eq_none hb hm, ite_self]
  | false =>
    obtain ⟨hself, -⟩ := Bool.or_eq_false_iff.1 hk
    have hr := agrees_readBody (fun closing => hc closing body (length_startTag?_lt hs) hb) h s.name
    rw [readElement_eq hs hk, hr.result, hself, if_neg Bool.false_ne_true]
    refine ⟨rfl, ?_⟩
    dsimp only
    split
    · exact hr.memory
    · rename_i hnone
      exact hr.memory.cons hb (Option.not_isSome_iff_eq_none.1 hnone)

-- A content is read as without a memory when the elements and the contents behind its start are.
theorem agrees_readContent {closing : Option Text} (ht : t <:+ document)
    (h : Truthful ns document seen)
    (he : ∀ u seen, u.length ≤ t.length → u <:+ document → Truthful ns document seen →
      Agrees ns document (readElement ns seen u) (elementAfresh ns u))
    (hc : ∀ u seen, u.length < t.length → u <:+ document → Truthful ns document seen →
      Agrees ns document (readContent ns closing seen u) (contentAfresh ns closing u)) :
    Agrees ns document (readContent ns closing seen t) (contentAfresh ns closing t) := by
  have hfront := List.take_append_drop (gap ns closing t) t
  rw [readContent, contentAfresh_eq_consRaw]
  generalize List.take (gap ns closing t) t = front at hfront ⊢
  split
  · rename_i hd
    rw [hd, stepAfresh]
    refine ⟨?_, h⟩
    split <;> rfl
  · rename_i c r hd
    rw [hd] at hfront ⊢
    have hl : (c :: r).length ≤ t.length := by simp [← hfront]
    have hcr : c :: r <:+ document := (hfront ▸ List.suffix_append front (c :: r)).trans ht
    have hpast : ∀ seen, Truthful ns document seen →
        Agrees ns document
          ((readContent ns closing seen r).1.consRaw (front ++ [c]),
            (readContent ns closing seen r).2)
          (((contentAfresh ns closing r).consRaw [c]).consRaw front) := by
      intro seen h
      rw [← Content.consRaw_append]
      exact (hc r seen hl ((List.suffix_cons c r).trans hcr) h).consRaw _
    rw [stepAfresh]
    split
    · obtain ⟨hresult, hmemory⟩ := he (c :: r) seen hl hcr h
      rw [← hresult]
      generalize readElement ns seen (c :: r) = found at hresult hmemory ⊢
      obtain ⟨_ | ⟨e, rest⟩, seen'⟩ := found
      · exact hpast seen' hmemory
      · have hlt := (length_elementAfresh_lt hresult.symm).trans_le hl
        have hrest : rest <:+ document :=
          (elementAfresh_source hresult.symm ▸ List.suffix_append e.source rest).trans hcr
        dsimp only
        rw [if_pos hlt]
        exact ((hc rest seen' hlt hrest hmemory).cons e).consRaw front
    · split
      · exact ⟨rfl, h⟩
      · exact hpast seen h

theorem agrees_read (ns document : Text) :
    (∀ closing t seen, t <:+ document → Truthful ns document seen →
      Agrees ns document (readContent ns closing seen t) (contentAfresh ns closing t)) ∧
    ∀ t seen, t <:+ document → Truthful ns document seen →
      Agrees ns document (readElement ns seen t) (elementAfresh ns t) := by
  apply reading_induction
  case hQ =>
    intro t ih seen ht h
    exact agrees_readElement ht h fun closing body hl hb => ih closing body hl seen hb h
  case hP =>
    intro closing t hQ ih seen ht h
    exact agrees_readContent ht h (fun u seen hl => hQ u hl seen) (fun u seen hl => ih u hl seen)

-- The document is read as if each end tag were looked for anew.
theorem read_eq_readAfresh (ns document : Text) : read ns document = readAfresh ns document := by
  have h := (agrees_read ns document).1 none document [] List.suffix_rfl (truthful_nil ns document)
  rw [read, readAfresh, h.result]

end Memory

-- The places of a document at which its reader stands, with the end tag that it looks for and what
-- it remembers there: at the start, in the body of an element, and behind what it has read. A text
-- that is no element is passed by a character.
inductive Reached (ns document : Text) : Option Text → Unclosed → Text → Prop where
  | start : Reached ns document none [] document
  | body {closing : Option Text} {seen : Unclosed} {t body : Text} {s : StartTag} :
    Reached ns document closing seen t →
    startTag? ns (t.drop (gap ns closing t)) = some (s, body) → s.selfClosing = false →
    seen.contains (body.length, s.name) = false → s.name ≠ verbatimName →
    Reached ns document (some (closeMark ns s.name)) seen body
  | behind {closing : Option Text} {seen seen' : Unclosed} {t rest : Text} {e : Element} :
    Reached ns document closing seen t →
    readElement ns seen (t.drop (gap ns closing t)) = (some (e, rest), seen') →
    Reached ns document closing seen' rest
  | past {closing : Option Text} {seen seen' : Unclosed} {t r : Text} {c : Char} :
    Reached ns document closing seen t → t.drop (gap ns closing t) = c :: r →
    Text.startsWith (openMark ns) (c :: r) = true ∨ closing.bind (endTag? · (c :: r)) = none →
    readElement ns seen (c :: r) = (none, seen') →
    Reached ns document closing seen' r

theorem truthful_of_reached {ns document t : Text} {closing : Option Text} {seen : Unclosed}
    (h : Reached ns document closing seen t) : t <:+ document ∧ Truthful ns document seen := by
  have hagrees := (agrees_read ns document).2
  induction h with
  | start => exact ⟨List.suffix_rfl, truthful_nil ns document⟩
  | body _ hs _ _ _ ih =>
    exact ⟨(suffix_of_startTag? hs).trans ((List.drop_suffix _ _).trans ih.1), ih.2⟩
  | @behind closing seen seen' t rest e _ he ih =>
    have ht := (List.drop_suffix (gap ns closing t) t).trans ih.1
    have h := hagrees _ seen ht ih.2
    rw [he] at h
    exact ⟨(elementAfresh_source h.result.symm ▸ List.suffix_append e.source rest).trans ht, h.memory⟩
  | @past closing seen seen' t r c _ hd _ he ih =>
    have ht := (List.drop_suffix (gap ns closing t) t).trans ih.1
    rw [hd] at ht
    have h := hagrees _ seen ht ih.2
    rw [he] at h
    exact ⟨(List.suffix_cons c r).trans ht, h.memory⟩

-- What has been looked for in vain is remembered.
theorem Reached.remembered {ns document t body : Text} {closing : Option Text} {seen : Unclosed}
    {s : StartTag} (h : Reached ns document closing seen t)
    (hs : startTag? ns (t.drop (gap ns closing t)) = some (s, body)) (hc : s.selfClosing = false)
    (hnone : bodyAfresh ns s.name body = none) :
    ∃ seen', Reached ns document closing seen' body ∧ (body.length, s.name) ∈ seen' := by
  obtain ⟨ht, htruth⟩ := truthful_of_reached h
  cases hk : s.selfClosing || seen.contains (body.length, s.name) with
  | true => exact ⟨seen, h.behind (readElement_eq_alone hs hk), by simpa [hc] using hk⟩
  | false =>
    have hb := (suffix_of_startTag? hs).trans ((List.drop_suffix _ _).trans ht)
    have hr := agrees_readBody
      (fun closing => (agrees_read ns document).1 closing body seen hb htruth) htruth s.name
    have he := readElement_eq hs hk
    rw [hr.result, hnone] at he
    exact ⟨_, h.behind he, List.mem_cons_self ..⟩

-- The memory only saves work: without it the same is read, and at every place of the scan what it
-- names are bodies whose end tag is looked for in vain.
theorem memory_transparent (ns document : Text) :
    read ns document = readAfresh ns document ∧
      ∀ closing seen t, Reached ns document closing seen t →
        ∀ n name, (n, name) ∈ seen →
          ∃ body, body <:+ document ∧ body.length = n ∧ bodyAfresh ns name body = none :=
  ⟨read_eq_readAfresh ns document, fun _ _ _ h => (truthful_of_reached h).2⟩

theorem memory_transparent_unclosed :
    ∃ seen, Reached "x".toList "<x:a>b".toList none seen ['b'] ∧ (1, "a".toList) ∈ seen ∧
      ∃ body, body <:+ "<x:a>b".toList ∧ body.length = 1 ∧
        bodyAfresh "x".toList "a".toList body = none := by
  have htag : StartText "x".toList ⟨"a".toList, [], false⟩ "<x:a>".toList :=
    ⟨by decide, [], [], .nil, nofun, rfl⟩
  have hnone : bodyAfresh "x".toList "a".toList ['b'] = none := by
    rw [bodyAfresh, if_neg (by decide), contentAfresh_eq_step, stepAfresh, contentAfresh_eq_step]
    rfl
  have hstart : Reached "x".toList "<x:a>b".toList none [] "<x:a>b".toList := .start
  obtain ⟨seen, hr, hm⟩ := hstart.remembered (htag.read ['b']) rfl hnone
  exact ⟨seen, hr, hm, (memory_transparent _ _).2 _ _ _ hr 1 _ hm⟩

end Markup
end EdgeIncludes
