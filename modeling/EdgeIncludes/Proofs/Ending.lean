import EdgeIncludes.Proofs.Asking
import Mathlib.Order.Filter.AtTopBot.Basic

namespace EdgeIncludes

open Filter

variable {answer : List Http.Request → Http.Request → Answer} {bound : Nat}

-- What is computed is the same from some limit on, and `Q` holds of it, or else more requests are
-- answered with a response than the bound allows.
def Settled {β : Type} (answer : List Http.Request → Http.Request → Answer) (bound : Nat)
    (Q : Traffic × β → Prop) (f : Nat → Traffic × β) : Prop :=
  (∃ v, Q v ∧ ∀ᶠ l in atTop, f l = v) ∨
    ∀ᶠ l in atTop, bound < (replies answer (f l).1.sent).length

namespace Settled

variable {β γ : Type} {Q : Traffic × β → Prop} {f f' : Nat → Traffic × β}

theorem const {v : Traffic × β} (h : Q v) : Settled answer bound Q fun _ => v :=
  .inl ⟨v, h, .of_forall fun _ => rfl⟩

theorem congr (hf : Settled answer bound Q f) (h : ∀ᶠ l in atTop, f' l = f l) :
    Settled answer bound Q f' := by
  rcases hf with ⟨v, hv, hf⟩ | hf
  · exact .inl ⟨v, hv, h.mp (hf.mono fun l hl he => he.trans hl)⟩
  · exact .inr (h.mp (hf.mono fun l hl he => he ▸ hl))

-- What comes first does not take back what it has sent. So once there are too many responses there
-- are too many in the end.
theorem too_many {s : Traffic} (hs : bound < (replies answer s.sent).length)
    (h : ∀ l, s.sent <+: (f l).1.sent) : Settled answer bound Q f :=
  .inr (.of_forall fun l => Nat.lt_of_lt_of_le hs (replies_mono (h l)).length_le)

-- One computation after the other.
theorem bind {P : Traffic × γ → Prop} {g : Nat → Traffic × β → Traffic × γ}
    (hf : Settled answer bound Q f) (hgrow : ∀ l v, v.1.sent <+: (g l v).1.sent)
    (hg : ∀ v, Q v → Settled answer bound P fun l => g l v) :
    Settled answer bound P fun l => g l (f l) := by
  rcases hf with ⟨v, hv, hf⟩ | hf
  · exact (hg v hv).congr (hf.mono fun l hl => by rw [hl])
  · exact .inr (hf.mono fun l hl =>
      Nat.lt_of_lt_of_le hl (replies_mono (hgrow l (f l))).length_le)

-- What holds of all results with few enough responses holds of the one that is settled.
theorem of_law (hf : Settled answer bound (fun _ => True) f)
    (h : ∀ᶠ l in atTop, (replies answer (f l).1.sent).length ≤ bound → Q (f l)) :
    Settled answer bound Q f := by
  rcases hf with ⟨v, -, hf⟩ | hf
  · by_cases hv : (replies answer v.1.sent).length ≤ bound
    · obtain ⟨l, hl, hq⟩ := (hf.and h).exists
      rw [hl] at hq
      exact .inl ⟨v, hq hv, hf⟩
    · exact .inr (hf.mono fun l hl => hl ▸ Nat.lt_of_not_le hv)
  · exact .inr hf

end Settled

section Rest

-- What is left of each loop behind a first computation, as a function of what that one gives.

variable {τ β : Type} {step : Traffic → τ → Traffic × Poll τ Arrival}

def Queue.roundRest (step : Traffic → τ → Traffic × Poll τ Arrival) (n i : Nat)
    (ts : List (Nat × τ)) :
    Traffic × Poll τ Arrival → Traffic × List (Nat × τ) × Option (Nat × Arrival)
  | (s, .ready a) => (s, ts, some (i, a))
  | (s, .pending t) => round step n s (ts ++ [(i, t)])

theorem Queue.round_cons (n : Nat) (s : Traffic) (i : Nat) (t : τ) (ts : List (Nat × τ)) :
    round step (n + 1) s ((i, t) :: ts) = roundRest step n i ts (step s t) := by
  rw [round]
  rcases step s t with ⟨s', t' | a⟩ <;> rfl

theorem Queue.grows_roundRest (hstep : Grows step) (n i : Nat) (ts : List (Nat × τ))
    (v : Traffic × Poll τ Arrival) : v.1.sent <+: (roundRest step n i ts v).1.sent := by
  rcases v with ⟨s, t | a⟩
  · exact grows_round hstep n s _
  · exact List.prefix_rfl

def Queue.pollRest (step : Traffic → τ → Traffic × Poll τ Arrival) (passes : Nat)
    (q : Queue τ Arrival) :
    Traffic × List (Nat × τ) × Option (Nat × Arrival) →
      Traffic × Queue τ Arrival × Next Arrival
  | (s, ts, none) => (s, { q with tasks := ts }, if ts.isEmpty then .empty else .pending)
  | (s, ts, some r) => poll step passes s { q with tasks := ts, arrived := r :: q.arrived }

theorem Queue.poll_succ {q : Queue τ Arrival} (ha : q.arrival? = none) (passes : Nat)
    (s : Traffic) :
    q.poll step (passes + 1) s =
      pollRest step passes q (round step (min patience q.tasks.length) s q.tasks) := by
  unfold poll
  simp only [ha]
  rcases round step (min patience q.tasks.length) s q.tasks with ⟨s', ts, _ | r⟩ <;> rfl

theorem Queue.grows_pollRest (hstep : Grows step) (passes : Nat) (q : Queue τ Arrival)
    (v : Traffic × List (Nat × τ) × Option (Nat × Arrival)) :
    v.1.sent <+: (pollRest step passes q v).1.sent := by
  rcases v with ⟨s, ts, _ | r⟩
  · exact List.prefix_rfl
  · exact grows_poll hstep passes s _

def Page.fillRest (step : Traffic → τ → Traffic × Poll τ Arrival) (text : Text) (t : Tag)
    (ss : List Segment) :
    Traffic × Queue τ Arrival × Next Arrival → Traffic × Poll (Page τ) Filled
  | (s, q, .pending) => (s, .pending ⟨text, .placeholder t :: ss, q⟩)
  | (s, q, .empty) => (s, .ready ⟨.error (.noFragment t.markup), q.length⟩)
  | (s, q, .item a) => fill step (text ++ replacement t a.outcome) ss (s.note (reportOf a)) q

theorem Page.fill_include {t : Tag} (ht : t.name = Fragment.includeName) (text : Text)
    (ss : List Segment) (s : Traffic) (q : Queue τ Arrival) :
    fill step text (.placeholder t :: ss) s q = fillRest step text t ss (q.next step s) := by
  rw [fill, if_neg (not_not.2 ht)]
  rcases q.next step s with ⟨s', q', a | _ | _⟩ <;> rfl

theorem Page.grows_fillRest (hstep : Grows step) (text : Text) (t : Tag) (ss : List Segment)
    (v : Traffic × Queue τ Arrival × Next Arrival) :
    v.1.sent <+: (fillRest step text t ss v).1.sent := by
  rcases v with ⟨s, q, a | _ | _⟩
  · exact grows_fill hstep _ ss (s.note (reportOf a)) q
  · exact List.prefix_rfl
  · exact List.prefix_rfl

def Backend.runRest (b : Backend) (step : Traffic → τ → Traffic × Poll τ β) (s : Traffic) :
    Traffic × Poll τ β → Traffic × Option β
  | (s', .ready a) => (s', some a)
  | (s', .pending t) => if b.advances s s' then b.run step s' t else (s', none)

theorem Backend.run_eq (b : Backend) (step : Traffic → τ → Traffic × Poll τ β) (s : Traffic)
    (t : τ) : b.run step s t = b.runRest step s (step s t) := by
  rw [run]
  rcases step s t with ⟨s', t' | a⟩
  · simp only [runRest]
    split <;> rfl
  · rfl

theorem Backend.grows_runRest (b : Backend) {step : Traffic → τ → Traffic × Poll τ β}
    (hstep : Grows step) (s : Traffic) (v : Traffic × Poll τ β) :
    v.1.sent <+: (b.runRest step s v).1.sent := by
  rcases v with ⟨s', t | a⟩
  · simp only [runRest]
    split
    · exact b.grows_run hstep s' t
    · exact List.prefix_rfl
  · exact List.prefix_rfl

end Rest

section Queue

variable {τ : Type} {step : Nat → Traffic → τ → Traffic × Poll τ Arrival}
  {G : Traffic → List (Nat × τ) → Prop}

-- The poll of the first task is settled, and leaves tasks of which the property holds again.
def SettlesFirst (answer : List Http.Request → Http.Request → Answer) (bound : Nat)
    (step : Nat → Traffic → τ → Traffic × Poll τ Arrival)
    (G : Traffic → List (Nat × τ) → Prop) : Prop :=
  ∀ s i t ts, G s ((i, t) :: ts) →
    Settled answer bound (fun v => G v.1 (ts ++ v.2.rest.map (i, ·))) fun l => step l s t

theorem settled_round (hgrow : ∀ l, Grows (step l)) (hstep : SettlesFirst answer bound step G)
    (n : Nat) {s : Traffic} {ts : List (Nat × τ)} (h : G s ts) :
    Settled answer bound (fun v => G v.1 v.2.1) fun l => Queue.round (step l) n s ts := by
  induction n generalizing s ts with
  | zero => exact .const h
  | succ n ih =>
    cases ts with
    | nil => exact .const h
    | cons e ts =>
      obtain ⟨i, t⟩ := e
      simp only [Queue.round_cons]
      refine (hstep s i t ts h).bind (fun l v => Queue.grows_roundRest (hgrow l) n i ts v) ?_
      rintro ⟨s', t' | a⟩ hv
      · exact ih hv
      · simp only [Poll.rest, List.map_nil, List.append_nil] at hv
        exact .const hv

theorem settled_next (hgrow : ∀ l, Grows (step l)) (hstep : SettlesFirst answer bound step G)
    (passes : Nat) {s : Traffic} {q : Queue τ Arrival} (h : G s q.tasks) :
    Settled answer bound (fun v => G v.1 v.2.1.tasks) fun l => q.poll (step l) passes s := by
  induction passes generalizing s q with
  | zero =>
    unfold Queue.poll
    cases q.arrival? <;> exact .const h
  | succ passes ih =>
    cases ha : q.arrival? with
    | some a =>
      unfold Queue.poll
      simp only [ha]
      exact .const h
    | none =>
      simp only [Queue.poll_succ ha]
      refine (settled_round hgrow hstep _ h).bind
        (fun l v => Queue.grows_pollRest (hgrow l) passes q v) ?_
      rintro ⟨s', ts, _ | r⟩ hv
      · exact .const hv
      · exact ih hv

theorem settled_fill (hgrow : ∀ l, Grows (step l)) (hstep : SettlesFirst answer bound step G)
    (hnote : ∀ {s ts}, G s ts → ∀ log, G (s.note log) ts) (text : Text) (ss : List Segment)
    {s : Traffic} {q : Queue τ Arrival} (h : G s q.tasks) :
    Settled answer bound (fun _ => True) fun l => Page.fill (step l) text ss s q := by
  induction ss generalizing text s q with
  | nil => exact .const trivial
  | cons e ss ih =>
    cases e with
    | raw t => exact ih (text ++ t) h
    | placeholder t =>
      by_cases hn : t.name = Fragment.includeName
      · simp only [Page.fill_include hn]
        refine (settled_next hgrow hstep _ h).bind
          (fun l v => Page.grows_fillRest (hgrow l) text t ss v) ?_
        rintro ⟨s', q', a | _ | _⟩ hv
        · exact ih _ (hnote hv _)
        · exact .const trivial
        · exact .const trivial
      · unfold Page.fill
        simp only [hn, ne_eq, not_false_eq_true, if_true]
        exact ih (text ++ t.markup) h

end Queue

-- How many documents may still be opened: one for each response that may still come, and one for
-- each that is held back.
def chances (answer : List Http.Request → Http.Request → Answer) (bound : Nat) (s : Traffic)
    (held : Multiset Reply) : Nat :=
  bound - (replies answer s.sent).length + held.card

-- There is less to come than a measure says: fewer documents to open, or no more of them and less
-- to do. What is held back has come.
structure Below (answer : List Http.Request → Http.Request → Answer) (bound φ w : Nat)
    (s : Traffic) (held : Multiset Reply) (weight : Nat) : Prop where
  backed : held ≤ (replies answer s.sent : Multiset Reply)
  within : (replies answer s.sent).length ≤ bound
  lt : chances answer bound s held < φ ∨ chances answer bound s held ≤ φ ∧ weight < w

section Measure

variable {step : Traffic → Job → Traffic × Poll Job Arrival}
  {opened : Traffic → Job → List Opening} {s : Traffic} {j : Job} {rest : Multiset Reply}

-- In a poll the documents that are opened are paid for by what was held back and by responses that
-- have come.
theorem chances_poll (hk : KeepsLedger answer step opened)
    (hb : rest + j.held ≤ (replies answer s.sent : Multiset Reply))
    (hn : (replies answer (step s j).1.sent).length ≤ bound) :
    rest + (step s j).2.held ≤ (replies answer (step s j).1.sent : Multiset Reply) ∧
      (opened s j).length + chances answer bound (step s j).1 (rest + (step s j).2.held) ≤
        chances answer bound s (rest + j.held) := by
  obtain ⟨extra, he⟩ := Multiset.le_iff_exists_add.1 hb
  have hle : rest + extra + j.held ≤ (replies answer s.sent : Multiset Reply) := by
    rw [he, add_right_comm]
  have hcovered := (hk [] s j (rest + extra) (.empty s hle)).covered
  rw [List.nil_append, add_right_comm rest extra] at hcovered
  have hcard := Multiset.card_le_card hcovered
  have hcard' := congrArg Multiset.card he
  simp only [Multiset.card_add, Multiset.coe_card, List.length_map] at hcard hcard'
  refine ⟨?_, ?_⟩
  · exact le_trans (le_trans (Multiset.le_add_right _ _) (Multiset.le_add_left _ _)) hcovered
  · simp only [chances, Multiset.card_add]
    omega

theorem Below.poll {φ w k : Nat} (hk : KeepsLedger answer step opened) (hl : Lightens step opened)
    (hg : Grows step) (h : Below answer bound φ w s (rest + j.held) (k + j.weight))
    (hn : (replies answer (step s j).1.sent).length ≤ bound) :
    Below answer bound φ w (step s j).1 (rest + (step s j).2.held) (k + (step s j).2.weight) := by
  obtain ⟨hb, hc⟩ := chances_poll hk h.backed hn
  refine ⟨hb, hn, ?_⟩
  have hlt := h.lt
  rcases ho : opened s j with _ | ⟨o, os⟩
  · have hw := hl s j ho
    have hlen := (hg s j).length_le
    rw [ho, List.length_nil] at hc
    omega
  · rw [ho, List.length_cons] at hc
    omega

theorem Below.mono {φ w weight weight' : Nat} {held held' : Multiset Reply}
    (h : Below answer bound φ w s held weight) (hh : held' ≤ held) (hw : weight' ≤ weight) :
    Below answer bound φ w s held' weight' := by
  refine ⟨le_trans hh h.backed, h.within, ?_⟩
  have hlt := h.lt
  have hcard := Multiset.card_le_card hh
  simp only [chances] at hlt ⊢
  omega

end Measure

section Job

variable {c : Config} {s : Traffic} {i : Inbound} {r : Http.Response} {φ w : Nat}
  {step : Nat → Traffic → Job → Traffic × Poll Job Arrival}
  {opened : Nat → Traffic → Job → List Opening}

-- Polls are settled where there is less to come than the measure says.
structure SettlesBelow (answer : List Http.Request → Http.Request → Answer) (bound φ w : Nat)
    (step : Nat → Traffic → Job → Traffic × Poll Job Arrival)
    (opened : Nat → Traffic → Job → List Opening) : Prop where
  ledger (l : Nat) : KeepsLedger answer (step l) (opened l)
  lightens (l : Nat) : Lightens (step l) (opened l)
  grows (l : Nat) : Grows (step l)
  settled (s : Traffic) (j : Job) : Below answer bound φ w s j.held j.weight →
    Settled answer bound (fun _ => True) fun l => step l s j

theorem settled_page (h : SettlesBelow answer bound φ w step opened) {p : Page Job}
    (hp : Below answer bound φ w s (Queue.heldOf p.queue.tasks)
      (Queue.weightOf p.queue.tasks)) :
    Settled answer bound (fun _ => True) fun l => p.poll (step l) s := by
  refine settled_fill (G := fun s ts =>
    Below answer bound φ w s (Queue.heldOf ts) (Queue.weightOf ts)) h.grows ?_ ?_ p.text p.rest hp
  · intro s n j ts hx
    simp only [Queue.heldOf_cons, Queue.weightOf_cons] at hx
    refine (h.settled s j (hx.mono (Multiset.le_add_left _ _) (Nat.le_add_left _ _))).of_law
      (.of_forall fun l hn => ?_)
    simp only [Queue.heldOf_rest, Queue.weightOf_rest]
    exact hx.poll (h.ledger l) (h.lightens l) (h.grows l) hn
  · exact fun hx log => ⟨hx.backed, hx.within, hx.lt⟩

theorem settled_fillStep (h : SettlesBelow answer bound φ w step opened) {p : Page Job}
    (hp : Below answer bound φ w s (Queue.heldOf p.queue.tasks)
      (Queue.weightOf p.queue.tasks)) (i : Inbound) (r : Http.Response) :
    Settled answer bound (fun _ => True) fun l => Job.fillStep i r (p.poll (step l) s) := by
  refine (settled_page h hp).bind (g := fun _ v => Job.fillStep i r v) ?_ fun _ _ => .const trivial
  rintro l ⟨s', p' | f⟩ <;> exact List.prefix_rfl

-- An answer has arrived. When its document is opened there is one document less to be opened.
theorem settled_deliver (h : SettlesBelow answer bound φ w step opened) (direct : Bool)
    {o : Outcome}
    (ho : ∀ r, o = .ok r → (replies answer s.sent).length ≤ bound →
      bound - (replies answer s.sent).length < φ) :
    Settled answer bound (fun _ => True) fun l => Job.deliver c (step l) s i direct o := by
  by_cases hn : (replies answer s.sent).length ≤ bound
  · unfold Job.deliver
    cases o with
    | error f => exact .const trivial
    | ok r =>
      simp only
      split
      · exact .const trivial
      · refine settled_fillStep (s := (pageOf c i r.body s).1) h ?_ i r
        rw [Job.heldOf_pageOf]
        exact ⟨Multiset.zero_le _, hn, .inl (ho r rfl hn)⟩
  · exact .too_many (Nat.lt_of_not_le hn) fun l => Job.grows_deliver (h.grows l) c i direct s o

-- From some limit on a request is not refused.
theorem eventually_send (answer : List Http.Request → Http.Request → Answer) (s : Traffic)
    (r : Http.Request) :
    ∀ᶠ l in atTop, Backend.send ⟨answer, l⟩ s r =
      ({ s with sent := s.sent ++ [r], owed := s.owed + (answer s.sent r).polls },
        answer s.sent r) :=
  (eventually_gt_atTop s.sent.length).mono fun l hl => by simp only [Backend.send, if_pos hl]

-- Polls of jobs are settled at any level of nesting, by induction on what there is to come.
theorem settled_job (answer : List Http.Request → Http.Request → Answer) (bound : Nat) (c : Config)
    (level : Nat) (s : Traffic) (j : Job)
    (hb : j.held ≤ (replies answer s.sent : Multiset Reply))
    (hn : (replies answer s.sent).length ≤ bound) :
    Settled answer bound (fun _ => True) fun l =>
      Job.poll c ⟨answer, l⟩ (l + 2 - level) s j := by
  let deeper := fun l => Job.poll c ⟨answer, l⟩ (l + 2 - (level + 1))
  have hinner : SettlesBelow answer bound (chances answer bound s j.held) j.weight deeper
      fun l => Job.opened c ⟨answer, l⟩ (l + 2 - (level + 1)) :=
    { ledger := fun l => Job.keepsLedger_poll c l _
      lightens := fun l => Job.lightens_poll c ⟨answer, l⟩ _
      grows := fun l => Job.grows_poll c ⟨answer, l⟩ _
      settled := fun s' j' h => settled_job answer bound c (level + 1) s' j' h.backed h.within }
  have hdepth : ∀ᶠ l in atTop, Job.poll c ⟨answer, l⟩ (l + 2 - level) s j =
      Job.poll c ⟨answer, l⟩ (l + 2 - (level + 1) + 1) s j :=
    (eventually_ge_atTop level).mono fun l hl => by
      rw [show l + 2 - level = l + 2 - (level + 1) + 1 by omega]
  refine Settled.congr ?_ hdepth
  cases j with
  | unsent i direct =>
    rcases ha : answer s.sent i.request with ⟨o, n⟩
    let s₁ : Traffic := { s with sent := s.sent ++ [i.request], owed := s.owed + n }
    have hsend : ∀ᶠ l in atTop, Backend.send ⟨answer, l⟩ s i.request = (s₁, ⟨o, n⟩) := by
      simpa only [ha] using eventually_send answer s i.request
    have hreplies : replies answer s₁.sent = replies answer s.sent ++ repliesOf i.request o := by
      rw [replies_concat, ha]
    cases n with
    | zero =>
      refine Settled.congr (settled_deliver (s := s₁) (i := i) (c := c) hinner direct (o := o) ?_)
        (hsend.mono fun l hl => by simp only [Job.poll, hl, deeper])
      rintro r rfl hle
      have hlen := congrArg List.length hreplies
      simp only [repliesOf, List.length_append, List.length_cons, List.length_nil] at hlen
      simp only [chances]
      omega
    | succ n =>
      exact Settled.congr (.const (v := (s₁.pay, .pending (.waiting i direct n o))) trivial)
        (hsend.mono fun l hl => by simp only [Job.poll, hl])
  | waiting i direct n o =>
    cases n with
    | zero =>
      refine settled_deliver hinner direct ?_
      rintro r rfl -
      exact Nat.lt_succ_self _
    | succ n => exact .const trivial
  | filling i r p =>
    rw [Job.held_filling] at hb
    refine settled_fillStep hinner ⟨hb, hn, .inr ⟨?_, ?_⟩⟩ i r
    · rw [Job.held_filling]
    · rw [Job.weight_filling]
      exact Nat.lt_add_of_pos_left Nat.one_pos
termination_by (chances answer bound s j.held, j.weight)
decreasing_by
  rcases h.lt with hlt | ⟨hle, hlt⟩
  · exact Prod.Lex.left _ _ hlt
  · exact Prod.Lex.right' _ hle hlt

end Job

section Run

-- A job that is being run. What it holds back has come, and it owes no more than the traffic says.
structure Underway (answer : List Http.Request → Http.Request → Answer) (bound : Nat)
    (s : Traffic) (j : Job) : Prop where
  backed : j.held ≤ (replies answer s.sent : Multiset Reply)
  within : (replies answer s.sent).length ≤ bound
  nested : j.Nested s.sent.length 0
  debt_le : j.debt ≤ s.owed

-- There is less to come behind a poll than in front of it.
structure Less (answer : List Http.Request → Http.Request → Answer) (bound : Nat)
    (s s' : Traffic) (j j' : Job) : Prop where
  ahead : Traffic.Ahead s s'
  lex : chances answer bound s' j'.held < chances answer bound s j.held ∨
    chances answer bound s' j'.held ≤ chances answer bound s j.held ∧
      (j'.weight < j.weight ∨ j'.weight ≤ j.weight ∧ s'.owed < s.owed)

theorem Underway.poll {c : Config} {l : Nat} {s s' : Traffic} {j j' : Job}
    (h : Underway answer bound s j) (hl : s.sent.length ≤ l)
    (hp : Job.poll c ⟨answer, l⟩ (l + 2) s j = (s', .pending j'))
    (hn : (replies answer s'.sent).length ≤ bound) :
    Underway answer bound s' j' ∧ Less answer bound s s' j j' := by
  have hsound : j.Sound ⟨answer, l⟩ 0 s := ⟨hl, h.nested, h.debt_le⟩
  have hpolled := Job.keeps_poll c ⟨answer, l⟩ (l + 2) 0 rfl s j hsound
  have hbacked : 0 + j.held ≤ (replies answer s.sent : Multiset Reply) := by
    rw [zero_add]
    exact h.backed
  have hwithin : (replies answer (Job.poll c ⟨answer, l⟩ (l + 2) s j).1.sent).length ≤ bound := by
    rw [hp]
    exact hn
  obtain ⟨hb, hc⟩ := chances_poll (Job.keepsLedger_poll c l (l + 2)) hbacked hwithin
  have hlight := Job.lightens_poll c ⟨answer, l⟩ (l + 2) s j
  rw [hp] at hpolled hb hc hlight
  simp only [zero_add, Poll.held] at hb hc
  have ha : Traffic.Ahead s s' := (hpolled.pending j' rfl).1
  have hs := hpolled.sound hsound
  refine ⟨⟨hb, hn, hs.nested, hs.debt_le⟩, ha, ?_⟩
  unfold Traffic.Ahead at ha
  rcases ho : Job.opened c ⟨answer, l⟩ (l + 2) s j with _ | ⟨o, os⟩
  · have hw := hlight ho
    simp only [Poll.weight] at hw
    rw [ho, List.length_nil] at hc
    omega
  · rw [ho, List.length_cons] at hc
    omega

theorem settled_run (answer : List Http.Request → Http.Request → Answer) (bound : Nat) (c : Config)
    (s : Traffic) (j : Job) (h : Underway answer bound s j) :
    Settled answer bound (fun _ => True) fun l =>
      Backend.run ⟨answer, l⟩ (Job.poll c ⟨answer, l⟩ (l + 2)) s j := by
  have hpoll : Settled answer bound
      (fun v => ∀ s' j', v = (s', .pending j') →
        Underway answer bound s' j' ∧ Less answer bound s s' j j')
      fun l => Job.poll c ⟨answer, l⟩ (l + 2) s j := by
    refine (settled_job answer bound c 0 s j h.backed h.within).of_law ?_
    refine (eventually_ge_atTop s.sent.length).mono fun l hl hn s' j' hp => ?_
    simp only [Nat.sub_zero] at hn hp
    rw [hp] at hn
    exact h.poll hl hp hn
  have hrun : ∀ l, Backend.run ⟨answer, l⟩ (Job.poll c ⟨answer, l⟩ (l + 2)) s j =
      Backend.runRest ⟨answer, l⟩ (Job.poll c ⟨answer, l⟩ (l + 2)) s
        (Job.poll c ⟨answer, l⟩ (l + 2) s j) := fun l => Backend.run_eq ..
  refine (hpoll.bind (fun l v => ?_) ?_).congr (.of_forall hrun)
  · exact Backend.grows_runRest ⟨answer, l⟩ (Job.grows_poll c ⟨answer, l⟩ (l + 2)) s v
  · rintro ⟨s', j' | a⟩ hv
    · obtain ⟨hunder, hless⟩ := hv s' j' rfl
      refine (settled_run answer bound c s' j' hunder).congr ?_
      refine (eventually_ge_atTop s'.sent.length).mono fun l hl => ?_
      exact if_pos (Backend.advances_of_ahead hless.ahead hl)
    · exact .const trivial
termination_by (chances answer bound s j.held, j.weight, s.owed)
decreasing_by
  rcases hless.lex with hlt | ⟨hle, hlt | ⟨hle', hlt⟩⟩
  · exact Prod.Lex.left _ _ hlt
  · exact Prod.Lex.right' _ hle (Prod.Lex.left _ _ hlt)
  · exact Prod.Lex.right' _ hle (Prod.Lex.right' _ hle' hlt)

end Run

-- A backend that answers only the first requests with a response.
theorem length_replies_le {n : Nat}
    (h : ∀ sent r, n ≤ sent.length → ∃ f, (answer sent r).outcome = .error f)
    (sent : List Http.Request) : (replies answer sent).length ≤ n := by
  have hfrom : ∀ sent before, (repliesFrom answer before sent).length ≤ n - before.length := by
    intro sent
    induction sent with
    | nil => exact fun before => Nat.zero_le _
    | cons r rs ih =>
      intro before
      have hrest := ih (before ++ [r])
      rw [List.length_append, List.length_singleton] at hrest
      rw [repliesFrom, List.length_append]
      by_cases hn : n ≤ before.length
      · obtain ⟨f, hf⟩ := h before r hn
        rw [hf, repliesOf, List.length_nil]
        omega
      · have hone : (repliesOf r (answer before r).outcome).length ≤ 1 := by
          cases (answer before r).outcome <;> simp [repliesOf]
        omega
  exact hfrom sent []

namespace Processor

-- In the accounts of a whole run each document that is opened has a response of its own.
theorem ledger_opened (c : Config) (answer : List Http.Request → Http.Request → Answer)
    (limit : Nat) (i : Inbound) :
    Ledger answer (opened ⟨c, ⟨answer, limit⟩⟩ i) (handle ⟨c, ⟨answer, limit⟩⟩ i).1 0 := by
  let p : Processor := ⟨c, ⟨answer, limit⟩⟩
  have hstart : Ledger answer [] {} (Poll.held (.pending (.unsent i false))) :=
    .empty _ (Multiset.zero_le _)
  have hkeep : ∀ es s (j : Job), Ledger answer es s (Poll.held (.pending j)) →
      Ledger answer (es ++ Job.opened c p.backend p.backend.depth s j) (p.step s j).1
        (p.step s j).2.held := by
    intro es s j h
    have hj := Job.keepsLedger_poll c limit p.backend.depth es s j 0 (by
      rw [zero_add]
      exact h)
    rwa [zero_add] at hj
  obtain ⟨r, hr⟩ := p.backend.run_collects (Job.opened c p.backend p.backend.depth)
    (I := fun es s r => Ledger answer es s (Poll.held r)) hkeep [] hstart
  exact hr.mono (Multiset.zero_le _)

-- The run of a request gives a result.
theorem run_eq_some (p : Processor) (i : Inbound) :
    ∃ a, p.backend.run p.step {} (.unsent i false) = ((p.handle i).1, some a) := by
  have hstep : ∀ s (j : Job) s' j', j.Sound p.backend 0 s → p.step s j = (s', .pending j') →
      p.backend.advances s s' = true ∧ j'.Sound p.backend 0 s' := by
    intro s j s' j' hs he
    have h := p.keeps_step s j hs
    rw [he] at h
    exact ⟨Backend.advances_of_ahead (h.pending j' rfl).1 h.within, h.sound hs⟩
  have hstart : (Job.unsent i false).Sound p.backend 0 {} :=
    ⟨Nat.zero_le _, .unsent (Nat.zero_le _), Nat.le_refl _⟩
  obtain ⟨_, _, s', a, -, -, hr⟩ := p.backend.run_spec p.step _ hstep hstart
  exact ⟨a, by simp only [handle, hr]⟩

-- The backend answers at most so many requests of the run with a response, however many it takes.
-- Then the run comes to an end: from some limit on it is the same, with fewer requests than the
-- limit, so that none is refused. Under every limit the run gives a result. When a document is
-- opened, the requests that were sent before have been answered with a response for this document
-- and with another one for each of the documents before. So no more documents are opened than the
-- backend has given responses, even where a page includes itself. And there are no others that the
-- run takes includes from: each request but the first is for a fragment of one that is opened.
theorem handle_ends (c : Config) (answer : List Http.Request → Http.Request → Answer) (i : Inbound)
    (bound : Nat)
    (h : ∀ limit, (replies answer (handle ⟨c, ⟨answer, limit⟩⟩ i).1.sent).length ≤ bound) :
    (∃ enough, ∀ limit ≥ enough,
      handle ⟨c, ⟨answer, limit⟩⟩ i = handle ⟨c, ⟨answer, enough⟩⟩ i ∧
        (handle ⟨c, ⟨answer, limit⟩⟩ i).1.sent.length < limit) ∧
      ∀ limit, let p : Processor := ⟨c, ⟨answer, limit⟩⟩
        (∃ a, p.backend.run p.step {} (.unsent i false) = ((p.handle i).1, some a)) ∧
          (∀ front o back, p.opened i = front ++ o :: back →
            ((front ++ [o]).map Opening.reply).Subperm (replies answer o.sent) ∧
              o.sent <+: (p.handle i).1.sent) ∧
          (p.opened i).length ≤ bound ∧
          ∀ r ∈ (p.handle i).1.sent, r = i.request ∨
            ∃ o ∈ p.opened i, ∃ f ∈ (scan c o.inbound o.response.body).fetches,
              r = f.request := by
  refine ⟨?ends, ?every⟩
  case ends =>
    let run := fun limit =>
      Backend.run ⟨answer, limit⟩ (Job.poll c ⟨answer, limit⟩ (limit + 2)) {} (.unsent i false)
    have hhandle : ∀ limit, handle ⟨c, ⟨answer, limit⟩⟩ i =
        ((run limit).1, ((run limit).2.map (·.outcome)).getD (.error stalled)) := fun limit => rfl
    have hunder : Underway answer bound {} (.unsent i false) :=
      ⟨Multiset.zero_le _, Nat.zero_le _, .unsent (Nat.zero_le _), Nat.zero_le _⟩
    rcases settled_run answer bound c {} (.unsent i false) hunder with ⟨v, -, hv⟩ | hv
    · obtain ⟨enough, hl⟩ := eventually_atTop.1 (hv.and (eventually_gt_atTop v.1.sent.length))
      refine ⟨enough, fun limit hlimit => ?_⟩
      have hsame : run limit = v := (hl limit hlimit).1
      have henough : run enough = v := (hl enough (Nat.le_refl _)).1
      rw [hhandle, hhandle, hsame, henough]
      exact ⟨rfl, (hl limit hlimit).2⟩
    · obtain ⟨limit, hl⟩ := hv.exists
      exact absurd (h limit) (Nat.not_le_of_lt hl)
  case every =>
    intro limit p
    have hledger := ledger_opened c answer limit i
    refine ⟨p.run_eq_some i, fun front o back ho => hledger.before ho, ?_,
      fun r hr => p.sent_asked i hr⟩
    have hcard := Multiset.card_le_card hledger.covered
    rw [add_zero, Multiset.coe_card, Multiset.coe_card, List.length_map] at hcard
    exact Nat.le_trans hcard (h limit)

-- A page that includes itself, and a backend that gives it twice. It is opened twice at most.
theorem handle_ends_of_loop :
    let c : Config := {}
    let i : Inbound := {
      request := ⟨⟨some "http".toList, "a.example".toList, "/".toList, none⟩, {}⟩
      url := ⟨"http".toList, some { host? := some (.domain "a.example".toList) },
        .segments [[]], none, none⟩ }
    let page : Http.Response := { body := "<esi:include src=\"/\"/>".toList }
    let answer : List Http.Request → Http.Request → Answer := fun sent _ =>
      if sent.length < 2 then ⟨.ok page, 0⟩ else ⟨.error (.fetchFailed "down".toList), 0⟩
    c.processes page = true ∧
      (∀ limit, (replies answer (handle ⟨c, ⟨answer, limit⟩⟩ i).1.sent).length ≤ 2) ∧
      (∀ limit, (opened ⟨c, ⟨answer, limit⟩⟩ i).length ≤ 2) ∧
      ∃ enough, ∀ limit ≥ enough,
        handle ⟨c, ⟨answer, limit⟩⟩ i = handle ⟨c, ⟨answer, enough⟩⟩ i := by
  intro c i page answer
  have hstops : ∀ sent r, 2 ≤ sent.length → ∃ f, (answer sent r).outcome = .error f :=
    fun sent r hn => ⟨.fetchFailed "down".toList, by simp only [answer, if_neg (Nat.not_lt.2 hn)]⟩
  have hle := fun limit =>
    length_replies_le hstops (handle ⟨c, ⟨answer, limit⟩⟩ i).1.sent
  obtain ⟨⟨enough, hsame⟩, hevery⟩ := handle_ends c answer i 2 hle
  exact ⟨by decide +kernel, hle, fun limit => (hevery limit).2.2.1,
    enough, fun limit hlimit => (hsame limit hlimit).1⟩

end Processor

end EdgeIncludes
