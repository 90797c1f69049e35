import EdgeIncludes.Proofs.Completion
import EdgeIncludes.Proofs.Excerpt
import EdgeIncludes.Proofs.Headers

namespace EdgeIncludes

-- The names of the elements that have a meaning.
def handledNames : List Text :=
  ["include", "assign", "vars", "choose", "when", "otherwise", "foreach", "break", "function",
    "return", "text", "comment", "remove", "try", "attempt", "except", "eval"].map String.toList

section Directives

variable {α : Type} {ds : Directives α} {es : List Element} {e : Element}

theorem Directives.find?_eq_none_iff {name : Text} :
    ds.find? name = none ↔ name ∉ ds.entries.map (·.1) := by
  rw [find?, Option.map_eq_none_iff, List.find?_eq_none, List.mem_map]
  constructor
  · rintro h ⟨e, he, rfl⟩
    exact h e he (decide_eq_true rfl)
  · intro h e he hn
    exact h ⟨e, he, of_decide_eq_true hn⟩

theorem find?_directives_eq_none_iff (c : Config) (i : Inbound) {name : Text} :
    (Fragment.directives c i).find? name = none ↔ name ∉ handledNames :=
  Directives.find?_eq_none_iff

-- None of the nodes is an element that has a meaning. What is inside of them does not matter.
def Inert (ds : Directives α) (es : List Element) : Prop :=
  ∀ t children, .tag t children ∈ es → ds.find? t.name = none

theorem Inert.renderElement (h : Inert ds (e :: es)) (p : Pass) (taken : Bool) :
    renderElement ds .verbatim p taken e = (.ofText e.source, p, taken) := by
  cases e with
  | raw t => rfl
  | tag t children =>
    rw [EdgeIncludes.renderElement, h t children (List.mem_cons_self ..)]
    rfl

-- Rendering such nodes gives their sources and carries on what it has been given.
theorem Inert.renderAll (h : Inert ds es) {p : Pass} (hp : p.stopped = false) (taken : Bool) :
    renderAll ds .verbatim p taken es = ({ segments := es.map fun e => .raw e.source }, p) := by
  induction es with
  | nil => rfl
  | cons e es ih =>
    have htail : Inert ds es := fun t children hm => h t children (List.mem_cons_of_mem _ hm)
    rw [EdgeIncludes.renderAll, hp, if_neg Bool.false_ne_true, h.renderElement p taken]
    dsimp only
    rw [ih htail]
    rfl

end Directives

namespace Segment

theorem consRaw_append (t u : Text) (ss : List Segment) :
    consRaw (t ++ u) ss = consRaw t (consRaw u ss) := by
  by_cases hu : u = []
  · simp [consRaw, hu]
  by_cases ht : t = []
  · simp [consRaw, ht]
  match ss with
  | [] => simp [consRaw, ht, hu]
  | .raw v :: ss => simp [consRaw, ht, hu]
  | .placeholder v :: ss => simp [consRaw, ht, hu]

theorem merge_sources (es : List Element) :
    merge (es.map fun e => .raw e.source) = consRaw (sourceOf es) [] := by
  induction es with
  | nil => rfl
  | cons e es ih =>
    rw [List.map_cons, merge, ih, ← consRaw_append]
    rfl

end Segment

namespace Markup

variable {ns t rest : Text} {es : List Element}

-- Where the mark that opens tags is missing no element is read.
theorem Course.not_occurs (h : Course ns t es rest)
    (hm : Text.contains (openMark ns) t = false) : ∀ tag children, ¬Occurs tag children es := by
  induction h with
  | done => exact fun _ _ ho => ho.not_nil
  | @element t u rest e es he _ _ =>
    have hstart : Text.startsWith (openMark ns) t = false := by
      cases t with
      | nil => rfl
      | cons c r =>
        rw [Text.contains_cons, Bool.or_eq_false_iff] at hm
        exact hm.1
    rw [elementAfresh_eq_none_of_not_startsWith hstart] at he
    cases he
  | char _ _ ih =>
    rw [Text.contains_cons, Bool.or_eq_false_iff] at hm
    exact fun tag children ho => ih hm.2 tag children ho.of_consRaw

end Markup

section Scan

variable {c : Config} {i : Inbound} {t : Text}

theorem Inert.scan_eq (h : Inert (Fragment.directives c i) (Markup.read c.tagNamespace t)) :
    scan c i t = { segments := Segment.consRaw t [] } := by
  have hsource : sourceOf (Markup.read c.tagNamespace t) = t := by
    simpa using (Markup.contentAfresh_source (Markup.exists_read c.tagNamespace t)).symm
  rw [scan, renderDocument, h.renderAll (by rfl) false]
  simp only [Segment.merge_sources, hsource]

theorem Inert.pageOf_eq (h : Inert (Fragment.directives c i) (Markup.read c.tagNamespace t)) :
    pageOf c i t {} = ({}, { rest := Segment.consRaw t [], queue := {} }) := by
  rw [pageOf, h.scan_eq]
  rfl

end Scan

namespace Page

variable {τ : Type}

-- A page without elements is done with the first poll.
theorem poll_consRaw (step : Traffic → τ → Traffic × Poll τ Arrival) (s : Traffic) (t : Text) :
    poll step s { rest := Segment.consRaw t [], queue := {} } = (s, .ready ⟨.ok t, 0⟩) := by
  by_cases ht : t = []
  · rw [ht]
    rfl
  · unfold Segment.consRaw
    rw [if_neg ht]
    rfl

end Page

namespace Processor

variable (p : Processor) (i : Inbound)

-- A document in which nothing has a meaning comes out as it is, and nothing passes on the way.
theorem document_eq_of_inert {t : Text}
    (h : ∀ tag children, .tag tag children ∈ Markup.read p.config.tagNamespace t →
      tag.name ∉ handledNames) : p.document i t = ({}, .ok t) := by
  have hinert : Inert (Fragment.directives p.config i) (Markup.read p.config.tagNamespace t) :=
    fun tag children hm => (find?_directives_eq_none_iff ..).2 (h tag children hm)
  have hfill : p.fill i t = ({}, some ⟨.ok t, 0⟩) := by
    rw [fill, hinert.pageOf_eq]
    dsimp only
    rw [Backend.run, Page.poll_consRaw]
  rw [document, hfill]
  rfl

theorem document_eq_of_not_contains {t : Text} (h : Text.contains p.config.marker t = false) :
    p.document i t = ({}, .ok t) := by
  have hcourse := Markup.contentAfresh_eq_some (Markup.exists_read p.config.tagNamespace t)
  exact p.document_eq_of_inert i fun tag children hm =>
    absurd (.here hm) (hcourse.1.not_occurs h tag children)

-- The response with its document processed in some way. Without a new body it is the response.
theorem exists_processed (r : Http.Response) :
    ∃ body, (p.respond i r).2 = r.processed body := by
  rw [respond]
  split
  · exact ⟨_, rfl⟩
  · exact ⟨.error stalled, rfl⟩

theorem respond_eq_of_not_processes {r : Http.Response} (h : p.config.processes r = false) :
    p.respond i r = ({}, r) := by
  rw [respond, h, if_neg Bool.false_ne_true]

end Processor

-- Whatever becomes of its body, a response keeps the rest.
theorem Http.Response.frame_processed (r : Http.Response) (body : Except Fault Text) :
    (r.processed body).status = r.status ∧
      ∀ name, name.map Char.toLower ≠ "content-length".toList →
        (r.processed body).headers.values name = r.headers.values name := by
  cases body with
  | error f => exact ⟨rfl, fun _ _ => rfl⟩
  | ok text => exact ⟨rfl, fun name hn => r.headers.values_remove hn⟩

namespace Processor

-- Processing keeps the status of a response, and the values of every header but that for the length
-- of the body. A response that is not to be processed stays as it is. And where no node of the body
-- has a meaning, the body stays as it is and nothing is sent, so that it makes no difference when a
-- body without the mark of tags is passed over.
theorem respond_frame (p : Processor) (i : Inbound) (r : Http.Response) :
    (p.respond i r).2.status = r.status ∧
      (∀ name, name.map Char.toLower ≠ "content-length".toList →
        (p.respond i r).2.headers.values name = r.headers.values name) ∧
      (p.config.processes r = false → p.respond i r = ({}, r)) ∧
      ((∀ t children, .tag t children ∈ Markup.read p.config.tagNamespace r.body →
          t.name ∉ handledNames) →
        p.document i r.body = ({}, .ok r.body) ∧ (p.respond i r).1 = {} ∧
          (p.respond i r).2.body = r.body) ∧
      (Text.contains p.config.marker r.body = false →
        p.respond i r = ({}, r) ∧ p.document i r.body = ({}, .ok r.body)) := by
  refine ⟨?status, ?headers, p.respond_eq_of_not_processes i, ?inert, ?unmarked⟩
  case status =>
    obtain ⟨body, h⟩ := p.exists_processed i r
    rw [h]
    exact (r.frame_processed body).1
  case headers =>
    obtain ⟨body, h⟩ := p.exists_processed i r
    rw [h]
    exact (r.frame_processed body).2
  case inert =>
    intro h
    have hd := p.document_eq_of_inert i h
    refine ⟨hd, ?_⟩
    cases hp : p.config.processes r with
    | false =>
      rw [p.respond_eq_of_not_processes i hp]
      exact ⟨rfl, rfl⟩
    | true =>
      rw [respond, hp, if_pos rfl, hd]
      exact ⟨rfl, rfl⟩
  case unmarked =>
    intro h
    refine ⟨p.respond_eq_of_not_processes i ?_, p.document_eq_of_not_contains i h⟩
    rw [Config.processes, h, Bool.false_and, Bool.false_and]

-- A document of one unknown element, in which a tag is left open.
theorem respond_frame_enclosing :
    let p : Processor := ⟨{ tagNamespace := "x".toList }, ⟨fun _ _ => ⟨.error stalled, 0⟩, 1⟩⟩
    let i : Inbound := {
      request := ⟨⟨none, [], "/".toList, none⟩, {}⟩
      url := ⟨"http".toList, none, .segments [[]], none, none⟩ }
    let r : Http.Response := {
      headers := ⟨[(['a'], ['1']), ("content-length".toList, "17".toList), (['a'], ['2'])]⟩
      body := Markup.enclosing.markup }
    p.config.processes r = true ∧ p.document i r.body = ({}, .ok r.body) ∧
      (p.respond i r).2.body = r.body ∧ (p.respond i r).2.headers.values ['A'] = [['1'], ['2']] := by
  intro p i r
  have hinert : ∀ t children, .tag t children ∈ Markup.read p.config.tagNamespace r.body →
      t.name ∉ handledNames := by
    intro t children hm
    have hread : Markup.read p.config.tagNamespace r.body =
        [.tag Markup.enclosing [Markup.leftOpen, .raw ['t']]] := Markup.read_enclosing
    rw [hread, List.mem_singleton] at hm
    obtain ⟨rfl, -⟩ := Element.tag.inj hm
    decide
  obtain ⟨-, hheaders, -, hbody, -⟩ := respond_frame p i r
  obtain ⟨hd, -, hr⟩ := hbody hinert
  exact ⟨by decide, hd, hr, hheaders ['A'] (by decide)⟩

end Processor
end EdgeIncludes
