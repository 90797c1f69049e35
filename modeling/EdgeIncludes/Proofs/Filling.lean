import EdgeIncludes.Proofs.Completion
import EdgeIncludes.Proofs.Printing
import Mathlib.Algebra.Order.Group.Multiset
import Mathlib.Data.Multiset.Bind

namespace EdgeIncludes

-- The segments in order, each element with the next fragment in its place. One that could not be
-- fetched leaves nothing, nor does one without success where errors are to be ignored. Any other
-- stands there as it was answered.
def weave : List Segment → List Outcome → Text
  | [], _ => []
  | .raw t :: ss, os => t ++ weave ss os
  | .placeholder _ :: ss, .error _ :: os => weave ss os
  | .placeholder t :: ss, .ok r :: os =>
    if t.attribute? "onerror".toList = some "continue".toList ∧ r.status ≠ 200 ∧ r.status ≠ 204 then
      weave ss os
    else r.body ++ weave ss os
  | .placeholder t :: ss, [] => t.markup ++ weave ss []

theorem weave_placeholder (t : Tag) (ss : List Segment) (o : Outcome) (os : List Outcome) :
    weave (.placeholder t :: ss) (o :: os) = replacement t o ++ weave ss os := by
  cases o with
  | error f => rfl
  | ok r =>
    simp only [weave, replacement, Bool.and_eq_true, decide_eq_true_eq, and_assoc]
    exact (apply_ite (· ++ weave ss os) (_ ∧ r.status ≠ 200 ∧ r.status ≠ 204) [] r.body).symm

-- What is made of an answer, and the requests that this takes. A direct response, and one that is
-- not to be processed, is left as it is.
def outcomeNow (c : Config) (fill : Inbound → Text → Text × List Http.Request) (i : Inbound)
    (direct : Bool) (o : Outcome) : Outcome × List Http.Request :=
  match o with
  | .error f => (.error f, [])
  | .ok r =>
    if direct || !c.processes r then (.ok r, [])
    else
      let (body, requests) := fill i r.body
      (.ok { r with headers := r.headers.remove "content-length".toList, body }, requests)

-- The text of a document, and the requests that it takes. `depth` bounds how deep documents are
-- nested.
def fillNow (c : Config) (answer : Http.Request → Outcome) :
    Nat → Inbound → Text → Text × List Http.Request
  | 0, _, _ => ([], [])
  | depth + 1, i, t =>
    let out := scan c i t
    let now := fun f : Fragment =>
      outcomeNow c (fillNow c answer depth) (i.forFragment f.request f.url)
        (Fragment.directHost? c i).isSome (answer f.request)
    (weave out.segments (out.fetches.map fun f => (now f).1),
      out.fetches.flatMap fun f => f.request :: (now f).2)

-- The document, its fragments, their fragments and so on are nested at most so deep. Only what is
-- processed can have fragments.
def NestsWithin (c : Config) (answer : Http.Request → Outcome) : Nat → Inbound → Text → Prop
  | 0, _, _ => False
  | depth + 1, i, t =>
    ∀ f ∈ (scan c i t).fetches, ∀ r, answer f.request = .ok r → Fragment.directHost? c i = none →
      c.processes r = true → NestsWithin c answer depth (i.forFragment f.request f.url) r.body

-- A backend whose answer to a request depends on that request only. It takes `n` requests at least:
-- the refusal of one over the limit would depend on those before.
structure Backend.Steady (b : Backend) (answer : Http.Request → Outcome) (n : Nat) : Prop where
  outcome_eq : ∀ sent r, (b.answer sent r).outcome = answer r
  room : n ≤ b.limit

-- The requests that have been sent, in no order.
def Traffic.requests (s : Traffic) : Multiset Http.Request := s.sent

namespace Page

-- What a page comes to when `L` says what its jobs come to: the text, and for every task the
-- requests still to be sent. Each place has its outcome from the start.
structure Leads (L : Job → Outcome → Multiset Http.Request → Prop) (wanted : List Outcome)
    (text : Text) (p : Page Job) (costs : List (Multiset Http.Request)) : Prop where
  matched : p.Matched
  tasks : List.Forall₂ (fun e rs => ∃ o, wanted[e.1]? = some o ∧ L e.2 o rs) p.queue.tasks costs
  arrived : ∀ e ∈ p.queue.arrived, wanted[e.1]? = some e.2.outcome
  text_eq : p.text ++ weave p.rest (wanted.drop p.queue.taken) = text

end Page

section Steady

variable (c : Config) (answer : Http.Request → Outcome)

-- The documents that an answer leads to are nested at most so deep.
def AnswerWithin (depth : Nat) (i : Inbound) (direct : Bool) (o : Outcome) : Prop :=
  ∀ r, o = .ok r → direct = false → c.processes r = true → NestsWithin c answer depth i r.body

-- What a job comes to, and the requests still to be sent for it.
def Job.Leads : Nat → Job → Outcome → Multiset Http.Request → Prop
  | depth, .unsent i direct, o, rs =>
    let now := outcomeNow c (fillNow c answer depth) i direct (answer i.request)
    AnswerWithin c answer depth i direct (answer i.request) ∧ o = now.1 ∧ rs = i.request ::ₘ now.2
  | depth, .waiting i direct _ a, o, rs =>
    let now := outcomeNow c (fillNow c answer depth) i direct a
    AnswerWithin c answer depth i direct a ∧ o = now.1 ∧ rs = now.2
  | 0, .filling .., _, _ => False
  | depth + 1, .filling _ r p, o, rs =>
    ∃ wanted text costs, p.Leads (Job.Leads depth) wanted text costs ∧
      o = .ok (r.processed (.ok text)) ∧ rs = costs.sum

end Steady

-- A poll of a job that comes to `o` and needs the requests `rs`: what has been sent and what is
-- still to be sent stay the same together.
def Yielded (L : Job → Outcome → Multiset Http.Request → Prop) (s : Traffic) (o : Outcome)
    (rs : Multiset Http.Request) (r : Traffic × Poll Job Arrival) : Prop :=
  ∃ left, r.1.requests + left = s.requests + rs ∧
    match r.2 with
    | .pending j => L j o left
    | .ready a => a.outcome = o ∧ left = 0

-- Polls yield as long as the backend takes all the requests.
def Yields (b : Backend) (L : Job → Outcome → Multiset Http.Request → Prop)
    (step : Traffic → Job → Traffic × Poll Job Arrival) : Prop :=
  ∀ s j o rs, L j o rs → (s.requests + rs).card ≤ b.limit → Yielded L s o rs (step s j)

theorem Yielded.after {L : Job → Outcome → Multiset Http.Request → Prop} {s s₁ : Traffic}
    {o : Outcome} {rs rs₁ : Multiset Http.Request} {r : Traffic × Poll Job Arrival}
    (h : Yielded L s₁ o rs₁ r) (hs : s₁.requests + rs₁ = s.requests + rs) : Yielded L s o rs r := by
  obtain ⟨left, he, hr⟩ := h
  exact ⟨left, he.trans hs, hr⟩

namespace Page

variable {b : Backend} {L : Job → Outcome → Multiset Http.Request → Prop}
  {step : Traffic → Job → Traffic × Poll Job Arrival} {wanted : List Outcome} {text : Text}

theorem Leads.arrival {p : Page Job} {costs : List (Multiset Http.Request)}
    (h : p.Leads L wanted text costs) {a : Arrival} (ha : p.queue.arrival? = some a) :
    wanted.drop p.queue.taken = a.outcome :: wanted.drop (p.queue.taken + 1) := by
  have hw := h.arrived _ (Queue.mem_of_arrival? ha)
  obtain ⟨hl, he⟩ := List.getElem?_eq_some_iff.1 hw
  rw [List.drop_eq_getElem_cons hl, he]

-- A page that comes to the text while `rs` are the requests that have been sent, and those still to
-- be sent for it.
def Owes (L : Job → Outcome → Multiset Http.Request → Prop) (wanted : List Outcome) (text : Text)
    (rs : Multiset Http.Request) (x : Traffic × Page Job) : Prop :=
  ∃ costs, x.2.Leads L wanted text costs ∧ x.1.requests + costs.sum = rs

variable {rs : Multiset Http.Request}

theorem Owes.matched {x : Traffic × Page Job} (hx : Owes L wanted text rs x) : x.2.Matched := by
  obtain ⟨costs, hx, -⟩ := hx
  exact hx.matched

-- The first task is polled. Its place keeps its outcome, whether the task is done or not.
theorem Owes.turn (hstep : Yields b L step) (hroom : rs.card ≤ b.limit) {s s' : Traffic}
    {front : Text} {ss : List Segment} {q q' : Queue Job Arrival}
    (h : Queue.Turn step (s, q) (s', q')) (hx : Owes L wanted text rs (s, ⟨front, ss, q⟩)) :
    Owes L wanted text rs (s', ⟨front, ss, q'⟩) := by
  obtain ⟨costs, hx, rfl⟩ := hx
  have hm := Matched.move (.turn h) hx.matched
  -- both kinds of turn poll the task at the front
  have hfront : ∀ {i j js}, q.tasks = (i, j) :: js → ∃ o m ms, costs = m :: ms ∧
      wanted[i]? = some o ∧ Yielded L s o m (step s j) ∧
      List.Forall₂ (fun e rs => ∃ o, wanted[e.1]? = some o ∧ L e.2 o rs) js ms := by
    intro i j js hq
    have ht := hx.tasks
    simp only [hq] at ht
    cases ht with
    | @cons _ m _ ms hj hjs =>
      obtain ⟨o, ho, hl⟩ := hj
      refine ⟨o, m, ms, rfl, ho, hstep s j o m hl ?_, hjs⟩
      refine Nat.le_trans (Multiset.card_le_card ?_) hroom
      rw [List.sum_cons]
      exact Multiset.add_le_add_left (Multiset.le_add_right _ _)
  rcases h with ⟨hq, ht⟩ | ⟨hq, ht⟩
  · obtain ⟨o, m, ms, rfl, ho, hy, hms⟩ := hfront hq
    rw [ht] at hy
    obtain ⟨left, he, hl⟩ := hy
    refine ⟨ms ++ [left], ⟨hm, ?_, hx.arrived, hx.text_eq⟩, ?_⟩
    · exact List.rel_append hms (.cons ⟨o, ho, hl⟩ .nil)
    · simp only at he
      rw [List.sum_append, List.sum_singleton, List.sum_cons, add_left_comm, he]
      ac_rfl
  · obtain ⟨o, m, ms, rfl, ho, hy, hms⟩ := hfront hq
    rw [ht] at hy
    obtain ⟨_, he, hl, rfl⟩ := hy
    refine ⟨ms, ⟨hm, hms, ?_, hx.text_eq⟩, ?_⟩
    · intro e he
      rcases List.mem_cons.1 he with rfl | he
      · rw [ho, ← hl]
      · exact hx.arrived e he
    · rw [add_zero] at he
      rw [he, List.sum_cons, add_assoc]

theorem Owes.move (hstep : Yields b L step) (hroom : rs.card ≤ b.limit) {x y : Traffic × Page Job}
    (h : Move step x y) (hx : Owes L wanted text rs x) : Owes L wanted text rs y := by
  have hm := Matched.move h hx.matched
  cases h with
  | turn ht => exact hx.turn hstep hroom ht
  | @raw s front t ss q =>
    obtain ⟨costs, hx, hs⟩ := hx
    refine ⟨costs, ⟨hm, hx.tasks, hx.arrived, ?_⟩, hs⟩
    have htext := hx.text_eq
    simpa only [weave, List.append_assoc] using htext
  | keep hn =>
    obtain ⟨costs, hx, -⟩ := hx
    exact absurd (hx.matched.name_eq _ (List.mem_cons_self ..)) hn
  | fill hn ha =>
    obtain ⟨costs, hx, hs⟩ := hx
    refine ⟨costs, ⟨hm, hx.tasks, fun e he => hx.arrived e (List.mem_of_mem_filter he), ?_⟩, hs⟩
    have htext := hx.text_eq
    simp only [hx.arrival ha, weave_placeholder] at htext
    simpa only [Queue.take, List.append_assoc] using htext

theorem Owes.moves (hstep : Yields b L step) (hroom : rs.card ≤ b.limit)
    {x y : Traffic × Page Job} (h : Moves step x y) (hx : Owes L wanted text rs x) :
    Owes L wanted text rs y := by
  induction h with
  | refl => exact hx
  | tail _ hm ih => exact ih.move hstep hroom hm

-- A poll of a page that comes to a text ends with this text, or leaves a page that comes to it.
theorem Owes.poll (hstep : Yields b L step) (hroom : rs.card ≤ b.limit) {s : Traffic} {p : Page Job}
    (hx : Owes L wanted text rs (s, p)) :
    match p.poll step s with
    | (s', .pending p') => Owes L wanted text rs (s', p')
    | (s', .ready f) => f.body = .ok text ∧ s'.requests = rs := by
  have h := poll_settles step s p
  have hm : p.Matched := hx.matched
  have hr := hm.poll step s
  rcases he : p.poll step s with ⟨s', p' | f⟩ <;> rw [he] at h hr
  · cases h with
    | pending h hw => exact (hx.moves hstep hroom h).turn hstep hroom (.waits hw)
  · cases h with
    | whole h =>
      obtain ⟨costs, hy, hs⟩ := hx.moves hstep hroom h
      have ht := hy.tasks
      rw [Queue.tasks_eq_nil_of_length hr.2] at ht
      cases ht
      have htext := hy.text_eq
      simp only [weave, List.append_nil] at htext
      rw [List.sum_nil, add_zero] at hs
      exact ⟨by rw [htext], hs⟩
    | short h => exact absurd hr.1 (by simp)

end Page

section Steady

variable {c : Config} {answer : Http.Request → Outcome} {b : Backend}

theorem leads_unsent {depth : Nat} {i : Inbound} {direct : Bool} {o : Outcome}
    {rs : Multiset Http.Request} :
    Job.Leads c answer depth (.unsent i direct) o rs ↔
      AnswerWithin c answer depth i direct (answer i.request) ∧
        o = (outcomeNow c (fillNow c answer depth) i direct (answer i.request)).1 ∧
        rs = i.request ::ₘ
          (outcomeNow c (fillNow c answer depth) i direct (answer i.request)).2 := by
  cases depth <;> rfl

theorem leads_waiting {depth : Nat} {i : Inbound} {direct : Bool} {n : Nat} {a o : Outcome}
    {rs : Multiset Http.Request} :
    Job.Leads c answer depth (.waiting i direct n a) o rs ↔
      AnswerWithin c answer depth i direct a ∧
        o = (outcomeNow c (fillNow c answer depth) i direct a).1 ∧
        rs = (outcomeNow c (fillNow c answer depth) i direct a).2 := by
  cases depth <;> rfl

theorem sum_map_coe {β γ : Type} (g : β → List γ) (l : List β) :
    (l.map fun a => (g a : Multiset γ)).sum = (l.flatMap g : List γ) := by
  have h := Multiset.coe_join (l.map g)
  rw [List.map_map] at h
  rw [List.flatMap_def, ← h]
  exact (Multiset.sum_coe _).symm

-- The page of a document comes to the text that is filled in one fragment after the other.
theorem leads_pageOf {depth : Nat} {i : Inbound} {t : Text}
    (h : NestsWithin c answer (depth + 1) i t) (s : Traffic) :
    ∃ wanted costs, (pageOf c i t s).2.Leads (Job.Leads c answer depth) wanted
        (fillNow c answer (depth + 1) i t).1 costs ∧
      costs.sum = ((fillNow c answer (depth + 1) i t).2 : Multiset Http.Request) := by
  let now := fun f : Fragment =>
    outcomeNow c (fillNow c answer depth) (i.forFragment f.request f.url)
      (Fragment.directHost? c i).isSome (answer f.request)
  let fetches := (scan c i t).fetches
  refine ⟨fetches.map fun f => (now f).1,
    fetches.map fun f => (f.request :: (now f).2 : List Http.Request),
    ⟨Page.matched_pageOf .., ?_, ?_, ?_⟩, sum_map_coe (fun f => f.request :: (now f).2) fetches⟩
  · simp only [pageOf, Queue.ofList_eq]
    rw [List.forall₂_iff_get]
    refine ⟨by simp [fetches], fun k hk hk' => ?_⟩
    have hf : k < fetches.length := by simpa using hk'
    have hmem : fetches[k] ∈ fetches := List.getElem_mem hf
    simp only [List.get_eq_getElem, List.getElem_map, List.getElem_zipIdx, Prod.swap_prod_mk,
      Nat.zero_add]
    refine ⟨(now fetches[k]).1, by simp [hf], leads_unsent.2 ⟨?_, rfl, rfl⟩⟩
    intro r hr hd hp
    refine h _ hmem r hr ?_ hp
    simpa using hd
  · simp [pageOf, Queue.ofList_eq]
  · simp only [pageOf, Queue.ofList_eq, List.drop_zero, List.nil_append]
    rfl

variable {depth : Nat} {step : Traffic → Job → Traffic × Poll Job Arrival} {s : Traffic}
  {i : Inbound}

theorem yielded_fillStep (hstep : Yields b (Job.Leads c answer depth) step) {r : Http.Response}
    {p : Page Job} {wanted : List Outcome} {text : Text} {costs : List (Multiset Http.Request)}
    (hx : p.Leads (Job.Leads c answer depth) wanted text costs)
    (hroom : (s.requests + costs.sum).card ≤ b.limit) :
    Yielded (Job.Leads c answer (depth + 1)) s (.ok (r.processed (.ok text))) costs.sum
      (Job.fillStep i r (p.poll step s)) := by
  have ho : Page.Owes (Job.Leads c answer depth) wanted text (s.requests + costs.sum) (s, p) :=
    ⟨costs, hx, rfl⟩
  have h := ho.poll hstep hroom
  rcases he : p.poll step s with ⟨s', p' | f⟩ <;> rw [he] at h
  · obtain ⟨costs', h', hs⟩ := h
    exact ⟨costs'.sum, hs, wanted, text, costs', h', rfl, rfl⟩
  · refine ⟨0, by rw [add_zero]; exact h.2, ?_, rfl⟩
    rw [h.1]

theorem yielded_deliver (hstep : ∀ depth, Yields b (Job.Leads c answer depth) step)
    {direct : Bool} {o : Outcome} (hw : AnswerWithin c answer depth i direct o)
    (hroom : (s.requests +
      (outcomeNow c (fillNow c answer depth) i direct o).2).card ≤ b.limit) :
    Yielded (Job.Leads c answer depth) s (outcomeNow c (fillNow c answer depth) i direct o).1
      (outcomeNow c (fillNow c answer depth) i direct o).2 (Job.deliver c step s i direct o) := by
  unfold outcomeNow Job.deliver at *
  cases o with
  | error f => exact ⟨0, rfl, rfl, rfl⟩
  | ok r =>
    simp only at hroom ⊢
    split
    · exact ⟨0, rfl, rfl, rfl⟩
    · rename_i hd
      rw [if_neg hd] at hroom
      simp only [Bool.or_eq_true, Bool.not_eq_true', not_or, Bool.not_eq_false,
        Bool.not_eq_true] at hd
      have hn := hw r rfl hd.1 hd.2
      cases depth with
      | zero => exact hn.elim
      | succ depth =>
        obtain ⟨wanted, costs, hx, hsum⟩ := leads_pageOf hn s
        rw [← hsum] at hroom ⊢
        exact yielded_fillStep (hstep depth) hx hroom

-- Each level of polls yields what the levels below it do, at any depth of documents.
theorem yields_poll (hb : ∀ sent r, (b.answer sent r).outcome = answer r) (d depth : Nat) :
    Yields b (Job.Leads c answer depth) (Job.poll c b d) := by
  induction d generalizing depth with
  | zero => exact fun s j o rs hj _ => ⟨rs, rfl, hj⟩
  | succ d ih =>
    intro s j o rs hj hroom
    cases j with
    | unsent i direct =>
      obtain ⟨hw, rfl, rfl⟩ := leads_unsent.1 hj
      -- this request and all that it leads to are still to be taken
      have hlt : s.sent.length < b.limit := by
        simp only [Multiset.card_add, Multiset.card_cons, Traffic.requests,
          Multiset.coe_card] at hroom
        omega
      rcases b.send_cases s i.request with ⟨-, hsent, ha, -⟩ | ⟨hle, -⟩
      · rcases hr : b.send s i.request with ⟨s₁, a⟩
        simp only [hr] at hsent ha
        have ho : a.outcome = answer i.request := ha ▸ hb _ _
        have hs₁ : s₁.requests + (outcomeNow c (fillNow c answer depth) i direct a.outcome).2 =
            s.requests + i.request ::ₘ
              (outcomeNow c (fillNow c answer depth) i direct (answer i.request)).2 := by
          rw [ho, Traffic.requests, hsent, ← Multiset.coe_add, Traffic.requests, add_assoc]
          rfl
        rw [← ho] at hw
        unfold Job.poll
        simp only [hr]
        split
        · refine Yielded.after ?_ hs₁
          rw [← ho]
          exact yielded_deliver ih hw (hs₁ ▸ hroom)
        · exact ⟨_, hs₁, leads_waiting.2 ⟨hw, by rw [ho], rfl⟩⟩
      · omega
    | waiting i direct n a =>
      obtain ⟨hw, rfl, rfl⟩ := leads_waiting.1 hj
      cases n with
      | zero => exact yielded_deliver ih hw hroom
      | succ n => exact ⟨_, rfl, leads_waiting.2 ⟨hw, rfl, rfl⟩⟩
    | filling i r p =>
      cases depth with
      | zero => exact hj.elim
      | succ depth =>
        obtain ⟨wanted, text, costs, hx, rfl, rfl⟩ := hj
        exact yielded_fillStep (ih depth) hx hroom

end Steady

namespace Processor

-- Against a steady backend the run of a document ends with the text that is filled in one fragment
-- after the other, and has sent the same requests.
theorem document_steady (p : Processor) {answer : Http.Request → Outcome} {depth : Nat}
    {i : Inbound} {t : Text} (hn : NestsWithin p.config answer depth i t)
    (hb : p.backend.Steady answer (fillNow p.config answer depth i t).2.length) :
    (p.document i t).2 = .ok (fillNow p.config answer depth i t).1 ∧
      (p.document i t).1.sent.Perm (fillNow p.config answer depth i t).2 := by
  cases depth with
  | zero => exact hn.elim
  | succ depth =>
    obtain ⟨wanted, costs, hx, hsum⟩ := leads_pageOf hn {}
    have hstep : Yields p.backend (Job.Leads p.config answer depth) p.step :=
      yields_poll hb.outcome_eq _ _
    let text := (fillNow p.config answer (depth + 1) i t).1
    let rs : Multiset Http.Request := (fillNow p.config answer (depth + 1) i t).2
    have hroom : rs.card ≤ p.backend.limit := hb.room
    have ho : Page.Owes (Job.Leads p.config answer depth) wanted text rs
        (pageOf p.config i t {}) := by
      refine ⟨costs, hx, ?_⟩
      rw [hsum]
      exact zero_add _
    obtain ⟨s₁, q, s', f, -, hq, hf, hr⟩ :=
      p.fill_spec i t (fun s q => Page.Owes _ wanted text rs (s, q)) ho (by
        intro s q s' q' hq hp
        have h := hq.poll hstep hroom
        rwa [hp] at h)
    have h := hq.poll hstep hroom
    rw [hf] at h
    simp only [document, hr]
    exact ⟨h.1, Multiset.coe_eq_coe.1 h.2⟩

-- The delays of the fetches may come in any way, at any depth: the text is always the segments in
-- order with the outcome of each fragment in the place of its element, and the requests sent are
-- the same up to their order.
theorem document_independent_of_delays (c : Config) (answer : Http.Request → Outcome) (depth : Nat)
    (i : Inbound) (t : Text) (hn : NestsWithin c answer depth i t) (b₁ b₂ : Backend)
    (h₁ : b₁.Steady answer (fillNow c answer depth i t).2.length)
    (h₂ : b₂.Steady answer (fillNow c answer depth i t).2.length) :
    (document ⟨c, b₁⟩ i t).2 = .ok (fillNow c answer depth i t).1 ∧
      (document ⟨c, b₁⟩ i t).1.sent.Perm (fillNow c answer depth i t).2 ∧
      (document ⟨c, b₂⟩ i t).2 = (document ⟨c, b₁⟩ i t).2 ∧
      (document ⟨c, b₂⟩ i t).1.sent.Perm (document ⟨c, b₁⟩ i t).1.sent := by
  obtain ⟨ht₁, hr₁⟩ := document_steady ⟨c, b₁⟩ hn h₁
  obtain ⟨ht₂, hr₂⟩ := document_steady ⟨c, b₂⟩ hn h₂
  exact ⟨ht₁, hr₁, ht₂.trans ht₁.symm, hr₂.trans hr₁.symm⟩

section Nested

open Markup (Apart isFlat printAll printedAll)

variable {c : Config} {answer : Http.Request → Outcome}

-- What is printed is scanned as it was before.
theorem scan_printAll {es : List Element} (hns : Markup.Plain c.tagNamespace)
    (hs : es.IsChain Apart) (h : es.all (isFlat c.tagNamespace) = true) (i : Inbound) :
    scan c i (printAll c.tagNamespace es) =
      let out := (renderAll (Fragment.directives c i) .verbatim ⟨i.seed, 0⟩ false
        (printedAll c.tagNamespace es)).1
      { out with segments := Segment.merge out.segments } := by
  have hp := fun e he => Markup.printable_of_isFlat (List.all_eq_true.1 h e he)
  rw [scan, renderDocument, Markup.read_eq_readAfresh, Markup.readAfresh_printAll hns hs hp]

-- Whether an answer is left as it is.
def isLeft (c : Config) (direct : Bool) (o : Outcome) : Bool :=
  o.toOption.all fun r => direct || !c.processes r

theorem outcomeNow_of_isLeft {direct : Bool} {o : Outcome} (h : isLeft c direct o = true)
    (fill : Inbound → Text → Text × List Http.Request) (i : Inbound) :
    outcomeNow c fill i direct o = (o, []) := by
  cases o with
  | error f => rfl
  | ok r => exact if_pos h

theorem outcomeNow_of_processes {direct : Bool} {r : Http.Response}
    (h : (direct || !c.processes r) = false) (fill : Inbound → Text → Text × List Http.Request)
    (i : Inbound) :
    outcomeNow c fill i direct (.ok r) =
      (.ok { r with
          headers := r.headers.remove "content-length".toList
          body := (fill i r.body).1 },
        (fill i r.body).2) :=
  if_neg (Bool.eq_false_iff.1 h)

-- A document whose fragments are left as they are answered.
theorem fillNow_of_isLeft {i : Inbound} {t : Text}
    (h : ∀ f ∈ (scan c i t).fetches,
      isLeft c (Fragment.directHost? c i).isSome (answer f.request) = true) (depth : Nat) :
    NestsWithin c answer (depth + 1) i t ∧
      fillNow c answer (depth + 1) i t =
        (weave (scan c i t).segments ((scan c i t).fetches.map fun f => answer f.request),
          (scan c i t).fetches.map Fragment.request) := by
  refine ⟨fun f hf r hr hd hp => ?_, ?_⟩
  · have hleft := h f hf
    rw [hr, hd] at hleft
    simp [isLeft, Except.toOption, hp] at hleft
  · have hnow : ∀ f ∈ (scan c i t).fetches, outcomeNow c (fillNow c answer depth)
        (i.forFragment f.request f.url) (Fragment.directHost? c i).isSome (answer f.request) =
          (answer f.request, []) := fun f hf => outcomeNow_of_isLeft (h f hf) _ _
    refine Prod.ext ?_ ?_
    · exact congrArg (weave _) (List.map_congr_left fun f hf => congrArg Prod.fst (hnow f hf))
    · refine Eq.trans (List.flatMap_congr fun f hf => ?_) List.map_eq_flatMap.symm
      exact congrArg (fun x => f.request :: x.2) (hnow f hf)

-- Fragments that are answered at once, or the later the fewer requests came before. One has
-- fragments of its own, unless it comes from a host for fragments. The body of another one looks
-- like an element, and is not to be processed.
theorem document_of_nested_includes :
    let c : Config := {}
    let i : Inbound := {
      request := ⟨⟨some "http".toList, "[::1]".toList, "/".toList, none⟩, {}⟩
      url := ⟨"http".toList, some { host? := some (.eight [0, 0, 0, 0, 0, 0, 0, 1]) },
        .segments [[]], none, none⟩ }
    let hosted := i.withSetting "builtin.ESI_FRAGMENT_HOST".toList "[::2]".toList
    let t := "<esi:include src=\"/one\"/>, <esi:include src=\"/made\"/>.".toList
    let one := "<esi:include src=\"/down\"/>; ".toList ++
      "<esi:include src=\"/made\" onerror=\"continue\"/>; <esi:include src=\"/lost\"/>; ".toList ++
      "<esi:include src=\"/empty\" onerror=\"continue\"/>".toList
    let refused : Http.Headers := ⟨[("edge-control".toList, "dca=noop".toList)]⟩
    let answer : Http.Request → Outcome := fun r =>
      if r.uri.path = "/one".toList then .ok { body := one }
      else if r.uri.path = "/made".toList then .ok { status := 201, body := "made".toList }
      else if r.uri.path = "/lost".toList then .ok ⟨404, refused, "<esi:include/>".toList⟩
      else if r.uri.path = "/empty".toList then .ok { status := 204, body := "-".toList }
      else .error (.fetchFailed "down".toList)
    let soon : Backend := ⟨fun _ r => ⟨answer r, 0⟩, 6⟩
    let late : Backend := ⟨fun sent r => ⟨answer r, 6 - sent.length⟩, 6⟩
    let text := "; ; <esi:include/>; -, made.".toList
    let paths := ["/one", "/down", "/made", "/lost", "/empty", "/made"].map String.toList
    NestsWithin c answer 2 i t ∧ NestsWithin c answer 1 hosted t ∧
      soon.Steady answer 6 ∧ late.Steady answer 6 ∧
      (document ⟨c, soon⟩ i t).2 = .ok text ∧ (document ⟨c, late⟩ i t).2 = .ok text ∧
      ((document ⟨c, late⟩ i t).1.sent.map (·.uri.path)).Perm paths ∧
      (document ⟨c, soon⟩ hosted t).2 = .ok (one ++ ", made.".toList) := by
  intro c i hosted t one refused answer soon late text paths
  let fetch (src : String) (more : List (Text × Text)) : Element :=
    .tag ⟨Fragment.includeName, ("src".toList, src.toList) :: more, [], none⟩ []
  let quiet := [("onerror".toList, "continue".toList)]
  let page : List Element := [fetch "/one" [], .raw ", ".toList, fetch "/made" [], .raw ['.']]
  let inner : List Element := [fetch "/down" [], .raw "; ".toList, fetch "/made" quiet,
    .raw "; ".toList, fetch "/lost" [], .raw "; ".toList, fetch "/empty" quiet]
  have hns : Markup.Plain c.tagNamespace := by decide
  have htext : t = printAll c.tagNamespace page := by decide +kernel
  have hbody : one = printAll c.tagNamespace inner := by decide +kernel
  have hscan := scan_printAll hns (by decide : page.IsChain Apart) (by decide)
  have hscanned := scan_printAll hns (by decide : inner.IsChain Apart) (by decide)
  rw [← htext] at hscan
  rw [← hbody] at hscanned
  let fragment (host : Host) (path : String) : Fragment :=
    ⟨⟨"http".toList, some { host? := some host }, .segments [path.toList], none, none⟩,
      ⟨⟨some "http".toList, host.toText, '/' :: path.toList, none⟩,
        ⟨[("x-esi-fragment".toList, "true".toList), ("x-esi-loop".toList, "1".toList),
          ("host".toList, host.toText)]⟩⟩⟩
  let near := fragment (.eight [0, 0, 0, 0, 0, 0, 0, 1])
  let far := fragment (.eight [0, 0, 0, 0, 0, 0, 0, 2])
  let j := i.forFragment (near "one").request (near "one").url
  have hfetches : (scan c i t).fetches = [near "one", near "made"] := by
    rw [hscan]
    decide +kernel
  have hinner : (scan c j one).fetches = ["down", "made", "lost", "empty"].map near := by
    rw [hscanned]
    decide +kernel
  have hhosted : (scan c hosted t).fetches = [far "one", far "made"] := by
    rw [hscan]
    decide +kernel
  -- only the first fragment of the page is processed
  have hone : answer (near "one").request = .ok { body := one } := by decide +kernel
  have hopen : ((Fragment.directHost? c i).isSome || !c.processes { body := one }) = false := by
    decide +kernel
  have hmade :
      isLeft c (Fragment.directHost? c i).isSome (answer (near "made").request) = true := by
    decide +kernel
  have hleft : ∀ f ∈ (scan c j one).fetches,
      isLeft c (Fragment.directHost? c j).isSome (answer f.request) = true := by
    rw [hinner]
    decide +kernel
  have hraw : ∀ f ∈ (scan c hosted t).fetches,
      isLeft c (Fragment.directHost? c hosted).isSome (answer f.request) = true := by
    rw [hhosted]
    decide +kernel
  obtain ⟨hinside, hfilled⟩ := fillNow_of_isLeft hleft 0
  obtain ⟨houtside, hdirect⟩ := fillNow_of_isLeft hraw 0
  have hn : NestsWithin c answer 2 i t := by
    intro f hf r hr hd hp
    rw [hfetches] at hf
    rcases List.mem_pair.1 hf with rfl | rfl
    · rw [hone] at hr
      cases hr
      exact hinside
    · rw [hr] at hmade
      simp [isLeft, Except.toOption, hp, hd] at hmade
  have hfill : fillNow c answer 2 i t =
      (weave (scan c i t).segments
        [.ok { body := (fillNow c answer 1 j one).1 }, answer (near "made").request],
        (near "one").request :: ((fillNow c answer 1 j one).2 ++ [(near "made").request])) := by
    rw [fillNow]
    simp only [hfetches, List.map_cons, List.map_nil, List.flatMap_cons, List.flatMap_nil, hone,
      outcomeNow_of_processes hopen, outcomeNow_of_isLeft hmade]
    rfl
  rw [hfilled, hinner] at hfill
  have hrequests : (fillNow c answer 2 i t).2.map (·.uri.path) = paths := by
    rw [hfill]
    decide +kernel
  have htext : (fillNow c answer 2 i t).1 = text := by
    rw [hfill, hscan, hscanned]
    decide +kernel
  have hsoon : soon.Steady answer 6 := ⟨fun _ _ => rfl, Nat.le_refl _⟩
  have hlate : late.Steady answer 6 := ⟨fun _ _ => rfl, Nat.le_refl _⟩
  have hcount : (fillNow c answer 2 i t).2.length = 6 := by
    rw [hfill]
    rfl
  have hroom : soon.Steady answer (fillNow c answer 1 hosted t).2.length :=
    ⟨fun _ _ => rfl, by rw [hdirect, hhosted]; decide⟩
  obtain ⟨hs, hps, hl, hp⟩ := document_independent_of_delays c answer 2 i t hn soon late
    (hcount ▸ hsoon) (hcount ▸ hlate)
  obtain ⟨hd, -⟩ :=
    document_independent_of_delays c answer 1 hosted t houtside soon soon hroom hroom
  rw [htext] at hs
  have hpaths := (hp.trans hps).map (·.uri.path)
  rw [hrequests] at hpaths
  refine ⟨hn, houtside, hsoon, hlate, hs, hl.trans hs, hpaths, ?_⟩
  rw [hd, hdirect, hhosted, hscan]
  decide +kernel

end Nested

end Processor
end EdgeIncludes
