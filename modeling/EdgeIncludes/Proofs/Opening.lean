import EdgeIncludes.Proofs.Completion
import EdgeIncludes.Proofs.Trace
import Mathlib.Algebra.BigOperators.Group.Multiset.Basic
import Mathlib.Algebra.Order.Group.Multiset

namespace EdgeIncludes

-- A request with the response to it.
abbrev Reply := Http.Request × Http.Response

def repliesOf (r : Http.Request) (o : Outcome) : List Reply :=
  match o with
  | .ok x => [(r, x)]
  | .error _ => []

section Replies

variable (answer : List Http.Request → Http.Request → Answer)

def repliesFrom : List Http.Request → List Http.Request → List Reply
  | _, [] => []
  | before, r :: rs =>
    repliesOf r (answer before r).outcome ++ repliesFrom (before ++ [r]) rs

-- The requests that have been answered with a response, each with its response.
def replies (sent : List Http.Request) : List Reply := repliesFrom answer [] sent

variable {answer}

theorem repliesFrom_append (before as bs : List Http.Request) :
    repliesFrom answer before (as ++ bs) =
      repliesFrom answer before as ++ repliesFrom answer (before ++ as) bs := by
  induction as generalizing before with
  | nil => rw [List.append_nil]; rfl
  | cons a as ih =>
    rw [List.cons_append, repliesFrom, repliesFrom, ih, List.append_assoc, List.append_assoc]
    rfl

theorem replies_mono {as bs : List Http.Request} (h : as <+: bs) :
    replies answer as <+: replies answer bs := by
  obtain ⟨cs, rfl⟩ := h
  rw [replies, replies, repliesFrom_append]
  exact List.prefix_append ..

theorem replies_concat (sent : List Http.Request) (r : Http.Request) :
    replies answer (sent ++ [r]) =
      replies answer sent ++ repliesOf r (answer sent r).outcome := by
  rw [replies, replies, repliesFrom_append, List.nil_append, repliesFrom, repliesFrom,
    List.append_nil]

-- One over the limit is refused, and so not answered with a response.
theorem replies_send (limit : Nat) (s : Traffic) (r : Http.Request) :
    replies answer (Backend.send ⟨answer, limit⟩ s r).1.sent =
      replies answer s.sent ++ repliesOf r (Backend.send ⟨answer, limit⟩ s r).2.outcome := by
  unfold Backend.send
  split
  · exact replies_concat s.sent r
  · exact (List.append_nil _).symm

end Replies

section Total

variable {M : Type} [AddCommMonoid M]

mutual

-- The sum over a job and all that it is waiting for.
def Job.total (f : Job → M) : Job → M
  | .unsent i direct => f (.unsent i direct)
  | .waiting i direct n o => f (.waiting i direct n o)
  | .filling i r p => f (.filling i r p) + Page.total f p
termination_by structural j => j

def Page.total (f : Job → M) : Page Job → M
  | ⟨_, _, q⟩ => Queue.total f q
termination_by structural p => p

def Queue.total (f : Job → M) : Queue Job Arrival → M
  | ⟨ts, _, _, _⟩ => Queue.totalOf f ts
termination_by structural q => q

def Queue.totalOf (f : Job → M) : List (Nat × Job) → M
  | [] => 0
  | e :: es => Queue.totalIn f e + Queue.totalOf f es
termination_by structural es => es

def Queue.totalIn (f : Job → M) : Nat × Job → M
  | (_, j) => j.total f
termination_by structural e => e

end

variable {f : Job → M}

theorem Page.total_eq (p : Page Job) : p.total f = Queue.totalOf f p.queue.tasks := by
  obtain ⟨text, ss, ⟨ts, arrived, pushed, taken⟩⟩ := p
  rfl

namespace Queue

theorem totalOf_append (as bs : List (Nat × Job)) :
    totalOf f (as ++ bs) = totalOf f as + totalOf f bs := by
  induction as with
  | nil => exact (zero_add _).symm
  | cons e as ih => rw [List.cons_append, totalOf, totalOf, ih, add_assoc]

theorem totalOf_eq_zero {es : List (Nat × Job)} (h : ∀ e ∈ es, e.2.total f = 0) :
    totalOf f es = 0 := by
  induction es with
  | nil => rfl
  | cons e es ih =>
    obtain ⟨i, j⟩ := e
    have hj : j.total f = 0 := h (i, j) (List.mem_cons_self ..)
    rw [totalOf, totalIn, hj, zero_add, ih fun e he => h e (List.mem_cons_of_mem _ he)]

-- The first task has been polled, and what is left of it stands at the end.
theorem totalOf_rest {g : Poll Job Arrival → M} (hp : ∀ j, g (.pending j) = j.total f)
    (hr : ∀ a, g (.ready a) = 0) (i : Nat) (ts : List (Nat × Job)) (r : Poll Job Arrival) :
    totalOf f (ts ++ r.rest.map (i, ·)) = totalOf f ts + g r := by
  rw [totalOf_append]
  cases r with
  | pending j =>
    rw [hp]
    exact congrArg (totalOf f ts + ·) (add_zero _)
  | ready a =>
    rw [hr]
    rfl

end Queue

end Total

-- The reply that a job itself holds back.
def Job.ownReply : Job → Multiset Reply
  | .waiting i _ _ o => repliesOf i.request o
  | _ => 0

-- To send a request is one thing, and what comes of it is another.
def Job.ownWeight : Job → Nat
  | .unsent .. => 2
  | _ => 1

-- The replies that a job holds back: their documents may still be opened.
def Job.held (j : Job) : Multiset Reply := j.total Job.ownReply

-- What there is to do for a job.
def Job.weight (j : Job) : Nat := j.total Job.ownWeight

def Poll.held : Poll Job Arrival → Multiset Reply
  | .pending j => j.held
  | .ready _ => 0

def Poll.weight : Poll Job Arrival → Nat
  | .pending j => j.weight
  | .ready _ => 0

namespace Queue

def heldOf (es : List (Nat × Job)) : Multiset Reply := totalOf Job.ownReply es

def weightOf (es : List (Nat × Job)) : Nat := totalOf Job.ownWeight es

theorem heldOf_cons (i : Nat) (j : Job) (es : List (Nat × Job)) :
    heldOf ((i, j) :: es) = heldOf es + j.held := add_comm _ _

theorem weightOf_cons (i : Nat) (j : Job) (es : List (Nat × Job)) :
    weightOf ((i, j) :: es) = weightOf es + j.weight := Nat.add_comm _ _

theorem heldOf_rest (i : Nat) (ts : List (Nat × Job)) (r : Poll Job Arrival) :
    heldOf (ts ++ r.rest.map (i, ·)) = heldOf ts + r.held :=
  totalOf_rest (fun _ => rfl) (fun _ => rfl) i ts r

theorem weightOf_rest (i : Nat) (ts : List (Nat × Job)) (r : Poll Job Arrival) :
    weightOf (ts ++ r.rest.map (i, ·)) = weightOf ts + r.weight :=
  totalOf_rest (fun _ => rfl) (fun _ => rfl) i ts r

end Queue

theorem Job.held_filling (i : Inbound) (r : Http.Response) (p : Page Job) :
    (Job.filling i r p).held = Queue.heldOf p.queue.tasks := by
  rw [Job.held, Job.total, Page.total_eq]
  exact zero_add _

theorem Job.weight_filling (i : Inbound) (r : Http.Response) (p : Page Job) :
    (Job.filling i r p).weight = 1 + Queue.weightOf p.queue.tasks := by
  rw [Job.weight, Job.total, Page.total_eq]
  rfl

-- A document that is opened, with the request and the response that it comes from, and the requests
-- that have been sent before.
structure Opening where
  inbound : Inbound
  response : Http.Response
  sent : List Http.Request

def Opening.reply (o : Opening) : Reply := (o.inbound.request, o.response)

namespace Job

-- The documents that are opened when an answer has arrived.
def deliverTrace (c : Config) (step : Traffic → Job → Traffic × Poll Job Arrival)
    (opened : Traffic → Job → List Opening) (s : Traffic) (i : Inbound) (direct : Bool)
    (o : Outcome) : List Opening :=
  match o with
  | .error _ => []
  | .ok r =>
    if direct || !c.processes r then []
    else
      let (s', page) := pageOf c i r.body s
      ⟨i, r, s.sent⟩ :: page.pollTrace step opened s'

-- The documents that are opened in the poll of a job.
def opened (c : Config) (b : Backend) : Nat → Traffic → Job → List Opening
  | 0, _, _ => []
  | depth + 1, s, .unsent i direct =>
    let (s, a) := b.send s i.request
    match a.polls with
    | 0 => deliverTrace c (poll c b depth) (opened c b depth) s i direct a.outcome
    | _ + 1 => []
  | depth + 1, s, .waiting i direct 0 o =>
    deliverTrace c (poll c b depth) (opened c b depth) s i direct o
  | _ + 1, _, .waiting _ _ (_ + 1) _ => []
  | depth + 1, s, .filling _ _ page => page.pollTrace (poll c b depth) (opened c b depth) s

end Job

-- The documents that are opened while a request is handled.
def Processor.opened (p : Processor) (i : Inbound) : List Opening :=
  p.backend.runTrace p.step (Job.opened p.config p.backend p.backend.depth) {} (.unsent i false)

-- The accounts of what has been opened and what is held back. When a document was opened, the run
-- had got a response for this document and one for each of those before.
structure Ledger (answer : List Http.Request → Http.Request → Answer) (es : List Opening)
    (s : Traffic) (held : Multiset Reply) : Prop where
  covered : (es.map Opening.reply : Multiset Reply) + held ≤
    (replies answer s.sent : Multiset Reply)
  before {front back : List Opening} {o : Opening} : es = front ++ o :: back →
    ((front ++ [o]).map Opening.reply : Multiset Reply) ≤ (replies answer o.sent : Multiset Reply) ∧
      o.sent <+: s.sent

namespace Ledger

variable {answer : List Http.Request → Http.Request → Answer} {es : List Opening} {s s' : Traffic}
  {held held' : Multiset Reply} {i : Inbound} {r : Http.Response}

theorem empty (s : Traffic) (h : held ≤ (replies answer s.sent : Multiset Reply)) :
    Ledger answer [] s held :=
  ⟨by simpa using h, by simp⟩

theorem mono (h : Ledger answer es s held) (hh : held' ≤ held) : Ledger answer es s held' :=
  ⟨le_trans (add_le_add_right hh _) h.covered, h.before⟩

theorem congr (h : Ledger answer es s held) (hs : s'.sent = s.sent) : Ledger answer es s' held :=
  ⟨hs ▸ h.covered, hs ▸ h.before⟩

theorem send (h : Ledger answer es s held) (limit : Nat) (r : Http.Request) :
    Ledger answer es (Backend.send ⟨answer, limit⟩ s r).1
      (held + repliesOf r (Backend.send ⟨answer, limit⟩ s r).2.outcome) := by
  have hp := Backend.grows_send ⟨answer, limit⟩ s r
  refine ⟨?_, fun he => (h.before he).imp_right fun ho => ho.trans hp⟩
  rw [replies_send, ← Multiset.coe_add, ← add_assoc]
  exact add_le_add_left h.covered _

-- A document is opened whose reply has been held back.
theorem opening (h : Ledger answer es s (held + {(i.request, r)})) :
    Ledger answer (es ++ [⟨i, r, s.sent⟩]) s held := by
  let o : Opening := ⟨i, r, s.sent⟩
  have hall : ((es ++ [o]).map Opening.reply : Multiset Reply) + held ≤
      (replies answer s.sent : Multiset Reply) := by
    refine le_of_eq_of_le ?_ h.covered
    rw [List.map_append, ← Multiset.coe_add, add_assoc, add_comm held]
    rfl
  refine ⟨hall, fun {front back o'} he => ?_⟩
  rcases List.eq_nil_or_concat back with rfl | ⟨back, last, rfl⟩
  · obtain ⟨rfl, hlast⟩ := List.append_inj' he rfl
    obtain rfl := List.head_eq_of_cons_eq hlast
    exact ⟨le_trans (Multiset.le_add_right _ _) hall, List.prefix_rfl⟩
  · rw [List.concat_eq_append, ← List.cons_append, ← List.append_assoc] at he
    exact h.before (List.append_inj_left' he rfl)

end Ledger

-- Polls keep the accounts, whatever is held back elsewhere.
def KeepsLedger (answer : List Http.Request → Http.Request → Answer)
    (step : Traffic → Job → Traffic × Poll Job Arrival)
    (opened : Traffic → Job → List Opening) : Prop :=
  ∀ es s j rest, Ledger answer es s (rest + j.held) →
    Ledger answer (es ++ opened s j) (step s j).1 (rest + (step s j).2.held)

-- A poll that opens no document leaves less to do by the requests that it sends.
def Lightens (step : Traffic → Job → Traffic × Poll Job Arrival)
    (opened : Traffic → Job → List Opening) : Prop :=
  ∀ s j, opened s j = [] →
    (step s j).2.weight + (step s j).1.sent.length ≤ j.weight + s.sent.length

namespace Job

variable {answer : List Http.Request → Http.Request → Answer} {limit : Nat} {c : Config}
  {step : Traffic → Job → Traffic × Poll Job Arrival} {opened : Traffic → Job → List Opening}
  {es : List Opening} {s : Traffic} {rest : Multiset Reply} {i : Inbound}

-- The fragments of a new page are still unsent, so nothing is held back for it.
theorem heldOf_pageOf (t : Text) : Queue.heldOf (pageOf c i t s).2.queue.tasks = 0 := by
  refine Queue.totalOf_eq_zero fun e he => ?_
  obtain ⟨f, -, hj⟩ := Page.exists_of_mem_pageOf he
  rw [hj]
  rfl

theorem ledger_fillStep (hstep : KeepsLedger answer step opened) {r : Http.Response}
    {p : Page Job} (h : Ledger answer es s (rest + Queue.heldOf p.queue.tasks)) :
    Ledger answer (es ++ p.pollTrace step opened s) (fillStep i r (p.poll step s)).1
      (rest + (fillStep i r (p.poll step s)).2.held) := by
  have hI : Queue.Collects step opened fun es s ts =>
      Ledger answer es s (rest + Queue.heldOf ts) := by
    intro es s n j ts hx
    have hj := hstep es s j (rest + Queue.heldOf ts) (by
      rw [add_assoc, add_comm (Queue.heldOf ts)]
      exact hx)
    rw [Queue.heldOf_rest, ← add_assoc]
    exact hj
  obtain ⟨ts, hend, hts⟩ := Page.poll_collects hI (fun hx => hx.congr rfl) es h
  rcases hp : p.poll step s with ⟨s', p' | f⟩ <;> rw [hp] at hend hts
  · rw [hts p' rfl, ← held_filling i r] at hend
    exact hend
  · exact hend.mono (add_le_add_right (Multiset.zero_le _) _)

theorem ledger_deliver (hstep : KeepsLedger answer step opened) {direct : Bool} {o : Outcome}
    (h : Ledger answer es s (rest + repliesOf i.request o)) :
    Ledger answer (es ++ deliverTrace c step opened s i direct o)
      (deliver c step s i direct o).1 (rest + (deliver c step s i direct o).2.held) := by
  have hdone : Ledger answer (es ++ []) s (rest + 0) := by
    rw [List.append_nil]
    exact h.mono (add_le_add_right (Multiset.zero_le _) _)
  unfold deliverTrace deliver
  cases o with
  | error f => exact hdone
  | ok r =>
    simp only
    split
    · exact hdone
    · have hopen : Ledger answer (es ++ [⟨i, r, s.sent⟩]) (pageOf c i r.body s).1 rest :=
        (Ledger.opening h).congr rfl
      rw [← add_zero rest, ← heldOf_pageOf r.body] at hopen
      have hpage := ledger_fillStep (i := i) (r := r) hstep hopen
      rwa [List.append_assoc] at hpage

theorem keepsLedger_poll (c : Config) (limit depth : Nat) :
    KeepsLedger answer (poll c ⟨answer, limit⟩ depth) (Job.opened c ⟨answer, limit⟩ depth) := by
  induction depth with
  | zero =>
    intro es s j rest h
    rw [Job.opened, List.append_nil]
    exact h
  | succ depth ih =>
    intro es s j rest h
    cases j with
    | unsent i direct =>
      have hsent := Ledger.send (h.mono (add_le_add_right (Multiset.zero_le _) _)) limit i.request
      rw [add_zero] at hsent
      rcases hr : Backend.send ⟨answer, limit⟩ s i.request with ⟨s₁, o, n⟩
      rw [hr] at hsent
      cases n with
      | zero =>
        simp only [Job.opened, poll, hr]
        exact ledger_deliver ih hsent
      | succ n =>
        simp only [Job.opened, poll, hr, List.append_nil]
        exact hsent.congr rfl
    | waiting i direct n o =>
      cases n with
      | zero => exact ledger_deliver ih h
      | succ n =>
        simp only [Job.opened, poll, List.append_nil]
        exact h.congr rfl
    | filling i r p =>
      rw [held_filling] at h
      exact ledger_fillStep ih h

theorem weight_fillStep (hstep : Lightens step opened) {r : Http.Response} {p : Page Job}
    (h : p.pollTrace step opened s = []) :
    (fillStep i r (p.poll step s)).2.weight + (fillStep i r (p.poll step s)).1.sent.length ≤
      1 + Queue.weightOf p.queue.tasks + s.sent.length := by
  let bound := Queue.weightOf p.queue.tasks + s.sent.length
  have hI : Queue.Collects step opened fun es s ts =>
      es = [] → Queue.weightOf ts + s.sent.length ≤ bound := by
    intro es s n j ts hx he
    obtain ⟨hes, hj⟩ := List.append_eq_nil_iff.1 he
    have hle := hstep s j hj
    have hw : Queue.weightOf ((n, j) :: ts) + s.sent.length ≤ bound := hx hes
    rw [Queue.weightOf_cons] at hw
    rw [Queue.weightOf_rest]
    omega
  obtain ⟨ts, hend, hts⟩ := Page.poll_collects hI (fun hx => hx) [] (p := p)
    fun _ => le_refl bound
  have hend := hend h
  rcases hp : p.poll step s with ⟨s', p' | f⟩ <;> rw [hp] at hend hts
  · simp only [hts p' rfl, bound] at hend
    simp only [fillStep, Poll.weight, weight_filling]
    omega
  · simp only [bound] at hend
    simp only [fillStep, Poll.weight]
    omega

-- An answer that opens no document is the end of its job.
theorem deliver_of_opened_eq_nil {direct : Bool} {o : Outcome}
    (h : deliverTrace c step opened s i direct o = []) :
    (deliver c step s i direct o).1 = s ∧ (deliver c step s i direct o).2.weight = 0 := by
  unfold deliverTrace at h
  unfold deliver
  cases o with
  | error f => exact ⟨rfl, rfl⟩
  | ok r =>
    simp only at h ⊢
    split at h
    · rename_i hd
      rw [if_pos hd]
      exact ⟨rfl, rfl⟩
    · cases h

theorem lightens_poll (c : Config) (b : Backend) (depth : Nat) :
    Lightens (poll c b depth) (Job.opened c b depth) := by
  induction depth with
  | zero => exact fun s j _ => le_refl (j.weight + s.sent.length)
  | succ depth ih =>
    intro s j h
    cases j with
    | unsent i direct =>
      have hw : (Job.unsent i direct).weight = 2 := rfl
      have hsent : (b.send s i.request).1.sent.length ≤ s.sent.length + 1 := by
        rcases b.sent_send s i.request with he | he <;> rw [he] <;> simp
      rcases hr : b.send s i.request with ⟨s₁, o, n⟩
      rw [hr] at hsent
      cases n with
      | zero =>
        simp only [Job.opened, poll, hr] at h ⊢
        obtain ⟨hs, hj⟩ := deliver_of_opened_eq_nil h
        rw [hs, hj, hw]
        simp only at hsent
        omega
      | succ n =>
        have hn : (Job.waiting i direct n o).weight = 1 := rfl
        simp only [poll, hr, Poll.weight, hn, hw, Traffic.pay]
        simp only at hsent
        omega
    | waiting i direct n o =>
      cases n with
      | zero =>
        obtain ⟨hs, hj⟩ := deliver_of_opened_eq_nil h
        simp only [poll, hs, hj]
        omega
      | succ n => exact le_refl (1 + s.sent.length)
    | filling i r p =>
      rw [weight_filling]
      exact weight_fillStep ih h

end Job

end EdgeIncludes
