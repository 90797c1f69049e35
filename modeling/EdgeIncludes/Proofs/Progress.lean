import EdgeIncludes.Proofs.Page

namespace EdgeIncludes

namespace Traffic

-- No request is taken back, and while none is sent nothing more is owed.
def Onward (s s' : Traffic) : Prop :=
  s.sent.length < s'.sent.length ∨ s.sent.length = s'.sent.length ∧ s'.owed ≤ s.owed

-- A request has been sent, or a poll paid for.
def Ahead (s s' : Traffic) : Prop :=
  s.sent.length < s'.sent.length ∨ s.sent.length = s'.sent.length ∧ s'.owed < s.owed

variable {a b c : Traffic}

theorem Onward.refl (s : Traffic) : Onward s s := .inr ⟨rfl, Nat.le_refl _⟩

theorem Onward.trans (h : Onward a b) (h' : Onward b c) : Onward a c := by
  unfold Onward at *
  omega

theorem Onward.trans_ahead (h : Onward a b) (h' : Ahead b c) : Ahead a c := by
  unfold Onward Ahead at *
  omega

theorem Ahead.onward (h : Ahead a b) : Onward a b := by
  unfold Onward Ahead at *
  omega

theorem Onward.length_le (h : Onward a b) : a.sent.length ≤ b.sent.length := by
  unfold Onward at h
  omega

end Traffic

namespace Backend

open Traffic

theorem advances_of_ahead {b : Backend} {s s' : Traffic} (h : Ahead s s')
    (hl : s'.sent.length ≤ b.limit) : b.advances s s' = true := by
  unfold Ahead at h
  simp only [advances, Bool.or_eq_true, Bool.and_eq_true, decide_eq_true_eq]
  unfold left
  omega

-- A poll in vain that advances leaves less to send, or no more and less to pay for.
theorem lex_of_advances {b : Backend} {s s' : Traffic} (h : b.advances s s' = true) :
    Prod.Lex (· < ·) (· < ·) (b.left s', s'.owed) (b.left s, s.owed) := by
  simp only [advances, Bool.or_eq_true, Bool.and_eq_true, decide_eq_true_eq] at h
  rcases h with hl | ⟨hl, ho⟩
  · exact Prod.Lex.left _ _ hl
  · rw [hl]
    exact Prod.Lex.right _ ho

-- What a request does to the traffic. One over the limit is refused at once.
theorem send_cases (b : Backend) (s : Traffic) (r : Http.Request) :
    (s.sent.length < b.limit ∧ (b.send s r).1.sent = s.sent ++ [r] ∧
        (b.send s r).2 = b.answer s.sent r ∧
        (b.send s r).1.owed = s.owed + (b.send s r).2.polls) ∨
      (b.limit ≤ s.sent.length ∧ b.send s r = (s, refusal)) := by
  unfold send
  split
  · rename_i h
    exact .inl ⟨h, rfl, rfl, rfl⟩
  · rename_i h
    exact .inr ⟨by omega, rfl⟩

-- A run whose polls in vain all advance gives a result. What a poll in vain keeps holds before the
-- last poll.
theorem run_spec {τ β : Type} (b : Backend) (step : Traffic → τ → Traffic × Poll τ β)
    (J : Traffic → τ → Prop)
    (hstep : ∀ s t s' t', J s t → step s t = (s', .pending t') → b.advances s s' = true ∧ J s' t')
    {s : Traffic} {t : τ} (h : J s t) :
    ∃ s₁ t₁ s' a, J s₁ t₁ ∧ step s₁ t₁ = (s', .ready a) ∧ b.run step s t = (s', some a) := by
  rcases hr : step s t with ⟨s', t' | a⟩
  · obtain ⟨ha, hj⟩ := hstep s t s' t' h hr
    obtain ⟨s₁, t₁, s₂, a, h₁, h₂, h₃⟩ := run_spec b step J hstep hj
    refine ⟨s₁, t₁, s₂, a, h₁, h₂, ?_⟩
    rw [run, hr]
    simp only [ha, dite_true]
    exact h₃
  · refine ⟨s, t, s', a, h, hr, ?_⟩
    rw [run, hr]
termination_by (b.left s, s.owed)
decreasing_by exact lex_of_advances ha

end Backend

mutual

-- How many polls a job still waits for, with all that it is waiting for.
def Job.debt : Job → Nat
  | .unsent .. => 0
  | .waiting _ _ n _ => n
  | .filling _ _ p => Page.debt p
termination_by structural j => j

def Page.debt : Page Job → Nat
  | ⟨_, _, q⟩ => Queue.debt q
termination_by structural p => p

def Queue.debt : Queue Job Arrival → Nat
  | ⟨ts, _, _, _⟩ => Queue.debtOf ts
termination_by structural q => q

def Queue.debtOf : List (Nat × Job) → Nat
  | [] => 0
  | e :: es => Queue.debtIn e + Queue.debtOf es
termination_by structural es => es

def Queue.debtIn : Nat × Job → Nat
  | (_, j) => j.debt
termination_by structural e => e

end

namespace Queue

theorem debtOf_cons (e : Nat × Job) (es : List (Nat × Job)) :
    debtOf (e :: es) = e.2.debt + debtOf es := by
  obtain ⟨i, j⟩ := e
  rfl

theorem debtOf_append (as bs : List (Nat × Job)) :
    debtOf (as ++ bs) = debtOf as + debtOf bs := by
  induction as with
  | nil => exact (Nat.zero_add _).symm
  | cons e as ih =>
    rw [List.cons_append, debtOf_cons, debtOf_cons, ih]
    omega

theorem debtOf_eq_zero {es : List (Nat × Job)} (h : ∀ e ∈ es, e.2.debt = 0) : debtOf es = 0 := by
  induction es with
  | nil => rfl
  | cons e es ih =>
    rw [debtOf_cons, h e (List.mem_cons_self ..), ih fun x hx => h x (List.mem_cons_of_mem _ hx)]

end Queue

-- What is left of a task.
def Poll.rest {τ α : Type} : Poll τ α → List τ
  | .pending t => [t]
  | .ready _ => []

def Poll.debt : Poll Job Arrival → Nat
  | .pending j => j.debt
  | .ready _ => 0

-- A job at the level `k` of nesting when `n` requests have been sent: one at least for the job
-- itself, unless it is still unsent, and one for each of the jobs around it.
inductive Job.Nested (n : Nat) : Nat → Job → Prop
  | unsent {k : Nat} {i : Inbound} {direct : Bool} (h : k ≤ n) : Job.Nested n k (.unsent i direct)
  | waiting {k : Nat} {i : Inbound} {direct : Bool} {m : Nat} {o : Outcome} (h : k < n) :
      Job.Nested n k (.waiting i direct m o)
  | filling {k : Nat} {i : Inbound} {r : Http.Response} {p : Page Job} (h : k < n)
      (hp : p.Matched) (hq : ∀ e ∈ p.queue.tasks, Job.Nested n (k + 1) e.2) :
      Job.Nested n k (.filling i r p)

theorem Job.Nested.le {n k : Nat} {j : Job} (h : j.Nested n k) : k ≤ n := by
  cases h with
  | unsent h => exact h
  | waiting h => exact Nat.le_of_lt h
  | filling h _ _ => exact Nat.le_of_lt h

theorem Job.Nested.mono {n n' k : Nat} {j : Job} (h : j.Nested n k) (hn : n ≤ n') :
    j.Nested n' k := by
  induction h with
  | unsent h => exact .unsent (Nat.le_trans h hn)
  | waiting h => exact .waiting (Nat.lt_of_lt_of_le h hn)
  | filling h hp _ ih => exact .filling (Nat.lt_of_lt_of_le h hn) hp ih

open Traffic

-- A poll at the level `k`, of a job that waits for `n` polls.
structure Polled (b : Backend) (k : Nat) (s : Traffic) (n : Nat)
    (r : Traffic × Poll Job Arrival) : Prop where
  within : r.1.sent.length ≤ b.limit
  owed_eq : r.1.owed + n = s.owed + r.2.debt
  onward : Onward s r.1
  pending : ∀ j, r.2 = .pending j → Ahead s r.1 ∧ j.Nested r.1.sent.length k

-- What has been paid for or sent before counts as well.
theorem Polled.after {b : Backend} {k n m : Nat} {s s₁ : Traffic} {r : Traffic × Poll Job Arrival}
    (h : Polled b k s₁ m r) (hs : Onward s s₁) (ho : s₁.owed + n = s.owed + m) :
    Polled b k s n r where
  within := h.within
  owed_eq := by
    have := h.owed_eq
    omega
  onward := hs.trans h.onward
  pending j hj := ⟨hs.trans_ahead (h.pending j hj).1, (h.pending j hj).2⟩

-- A job at the level `k` of nesting that owes no more than the traffic says.
structure Job.Sound (b : Backend) (k : Nat) (s : Traffic) (j : Job) : Prop where
  within : s.sent.length ≤ b.limit
  nested : j.Nested s.sent.length k
  debt_le : j.debt ≤ s.owed

theorem Polled.sound {b : Backend} {k : Nat} {s s' : Traffic} {j j' : Job}
    (h : Polled b k s j.debt (s', .pending j')) (hj : j.Sound b k s) : j'.Sound b k s' where
  within := h.within
  nested := (h.pending j' rfl).2
  debt_le := by
    have hd := hj.debt_le
    have ho := h.owed_eq
    simp only [Poll.debt] at ho
    omega

-- Polls of jobs at one level keep the accounts.
def Keeps (b : Backend) (k : Nat) (step : Traffic → Job → Traffic × Poll Job Arrival) : Prop :=
  ∀ s j, j.Sound b k s → Polled b k s j.debt (step s j)

namespace Page

-- A page whose fragments are at the level `k` of nesting.
structure Sound (b : Backend) (k : Nat) (s : Traffic) (p : Page Job) : Prop where
  within : s.sent.length ≤ b.limit
  matched : p.Matched
  tasks : ∀ e ∈ p.queue.tasks, e.2.Nested s.sent.length k
  debt_le : p.debt ≤ s.owed

-- From one state of a page to a later one.
structure Goes (b : Backend) (k : Nat) (x y : Traffic × Page Job) : Prop where
  sound : y.2.Sound b k y.1
  onward : Onward x.1 y.1
  owed_eq : y.1.owed + x.2.debt = x.1.owed + y.2.debt

variable {b : Backend} {k : Nat} {step : Traffic → Job → Traffic × Poll Job Arrival}

theorem debt_eq (p : Page Job) : p.debt = Queue.debtOf p.queue.tasks := by
  obtain ⟨text, ss, ⟨ts, arrived, pushed, taken⟩⟩ := p
  rfl

-- The task at the front has been polled, and what is left of it stands at the end.
theorem goes_polled {s s' : Traffic} {text : Text} {ss : List Segment} {q q' : Queue Job Arrival}
    {i : Nat} {j : Job} {js : List (Nat × Job)} {r : Poll Job Arrival}
    (hx : Sound b k s ⟨text, ss, q⟩) (hp : Polled b k s j.debt (s', r))
    (hq : q.tasks = (i, j) :: js) (hq' : q'.tasks = js ++ r.rest.map (i, ·))
    (hm : (⟨text, ss, q'⟩ : Page Job).Matched) :
    Goes b k (s, ⟨text, ss, q⟩) (s', ⟨text, ss, q'⟩) := by
  have hd : (⟨text, ss, q⟩ : Page Job).debt = j.debt + Queue.debtOf js := by
    rw [debt_eq, hq, Queue.debtOf_cons]
  have hd' : (⟨text, ss, q'⟩ : Page Job).debt = Queue.debtOf js + r.debt := by
    rw [debt_eq, hq', Queue.debtOf_append]
    cases r <;> rfl
  have hle := hx.debt_le
  have ho := hp.owed_eq
  have hmem : ∀ e ∈ (i, j) :: js, e.2.Nested s.sent.length k := hq ▸ hx.tasks
  simp only at ho
  refine ⟨⟨hp.within, hm, ?_, by simp only; omega⟩, hp.onward, by simp only; omega⟩
  intro e he
  rw [hq'] at he
  rcases List.mem_append.1 he with he | he
  · exact (hmem e (List.mem_cons_of_mem _ he)).mono hp.onward.length_le
  · cases r with
    | pending j' =>
      rw [List.mem_singleton.1 he]
      exact (hp.pending j' rfl).2
    | ready a => cases he

-- The first task of a sound page keeps the accounts.
theorem polled_front (hstep : Keeps b k step) {s : Traffic} {p : Page Job} (hx : Sound b k s p)
    {i : Nat} {j : Job} {js : List (Nat × Job)} (hq : p.queue.tasks = (i, j) :: js) :
    Polled b k s j.debt (step s j) := by
  have hle := hx.debt_le
  rw [debt_eq, hq, Queue.debtOf_cons] at hle
  simp only at hle
  exact hstep s j ⟨hx.within, hx.tasks (i, j) (hq ▸ List.mem_cons_self ..), by omega⟩

theorem goes_waits (hstep : Keeps b k step) {s s' : Traffic} {text : Text} {ss : List Segment}
    {q q' : Queue Job Arrival} (h : Queue.Waits step (s, q) (s', q'))
    (hx : Sound b k s ⟨text, ss, q⟩) :
    Goes b k (s, ⟨text, ss, q⟩) (s', ⟨text, ss, q'⟩) ∧ Ahead s s' := by
  have hm := Matched.move (.turn (.waits h)) hx.matched
  rcases h with ⟨hq, ht⟩
  have hp := polled_front hstep hx hq
  rw [ht] at hp
  exact ⟨goes_polled hx hp hq rfl hm, (hp.pending _ rfl).1⟩

theorem goes_arrives (hstep : Keeps b k step) {s s' : Traffic} {text : Text} {ss : List Segment}
    {q q' : Queue Job Arrival} (h : Queue.Arrives step (s, q) (s', q'))
    (hx : Sound b k s ⟨text, ss, q⟩) : Goes b k (s, ⟨text, ss, q⟩) (s', ⟨text, ss, q'⟩) := by
  have hm := Matched.move (.turn (.arrives h)) hx.matched
  rcases h with ⟨hq, ht⟩
  have hp := polled_front hstep hx hq
  rw [ht] at hp
  exact goes_polled hx hp hq (List.append_nil _).symm hm

theorem goes_move (hstep : Keeps b k step) {x y : Traffic × Page Job} (h : Move step x y)
    (hx : x.2.Sound b k x.1) : Goes b k x y := by
  have hm := hx.matched.move h
  -- a move that is no turn leaves the tasks as they are
  have hsame : x.2.queue.tasks = y.2.queue.tasks → x.1.sent = y.1.sent → x.1.owed = y.1.owed →
      Goes b k x y := by
    intro hq hn ho
    have hd : x.2.debt = y.2.debt := by rw [debt_eq, debt_eq, hq]
    exact ⟨⟨hn ▸ hx.within, hm, hn ▸ hq ▸ hx.tasks, ho ▸ hd ▸ hx.debt_le⟩,
      .inr ⟨congrArg _ hn, ho ▸ Nat.le_refl _⟩, by rw [hd, ho]⟩
  cases h with
  | raw => exact hsame rfl rfl rfl
  | keep => exact hsame rfl rfl rfl
  | fill => exact hsame rfl rfl rfl
  | turn ht =>
    rcases ht with h | h
    · exact (goes_waits hstep h hx).1
    · exact goes_arrives hstep h hx

theorem goes_moves (hstep : Keeps b k step) {x y : Traffic × Page Job} (h : Moves step x y)
    (hx : x.2.Sound b k x.1) : Goes b k x y := by
  induction h with
  | refl => exact ⟨hx, .refl _, rfl⟩
  | tail _ hm ih =>
    have hg := goes_move hstep hm ih.sound
    refine ⟨hg.sound, ih.onward.trans hg.onward, ?_⟩
    have h₁ := ih.owed_eq
    have h₂ := hg.owed_eq
    omega

-- An empty queue owes nothing.
theorem debt_eq_zero_of_length {text : Text} {ss : List Segment} {q : Queue Job Arrival}
    (h : q.length = 0) : (⟨text, ss, q⟩ : Page Job).debt = 0 := by
  rw [debt_eq, Queue.tasks_eq_nil_of_length h]
  rfl

-- A poll of a page in vain advances, and one that ends leaves nothing owed for it.
theorem poll_goes (hstep : Keeps b k step) {s : Traffic} {p : Page Job} (hp : p.Sound b k s) :
    match p.poll step s with
    | (s', .pending p') => Goes b k (s, p) (s', p') ∧ Ahead s s'
    | (s', .ready _) =>
      s'.sent.length ≤ b.limit ∧ Onward s s' ∧ s'.owed + p.debt = s.owed := by
  have h := poll_settles step s p
  have hr := hp.matched.poll step s
  rcases he : p.poll step s with ⟨s', p' | f⟩ <;> rw [he] at h hr
  · cases h with
    | pending h hw =>
      have hg := goes_moves hstep h hp
      obtain ⟨hg', ha⟩ := goes_waits hstep hw hg.sound
      refine ⟨⟨hg'.sound, hg.onward.trans hg'.onward, ?_⟩, hg.onward.trans_ahead ha⟩
      have h₁ := hg.owed_eq
      have h₂ := hg'.owed_eq
      simp only at h₁ h₂ ⊢
      omega
  · cases h with
    | whole h =>
      have hg := goes_moves hstep h hp
      refine ⟨hg.sound.within, hg.onward, ?_⟩
      have ho := hg.owed_eq
      rw [debt_eq_zero_of_length hr.2] at ho
      exact ho
    | short h => exact absurd hr.1 (by simp)

end Page

namespace Job

variable {c : Config} {b : Backend} {k : Nat}

-- The page of a document is at the next level, and nothing has been sent for it.
theorem sound_pageOf {i : Inbound} {t : Text} {s : Traffic} (hs : s.sent.length ≤ b.limit)
    (hk : k ≤ s.sent.length) :
    (pageOf c i t s).2.Sound b k (pageOf c i t s).1 ∧ (pageOf c i t s).2.debt = 0 := by
  have hd : (pageOf c i t s).2.debt = 0 := by
    rw [Page.debt_eq]
    refine Queue.debtOf_eq_zero fun e he => ?_
    obtain ⟨f, -, h⟩ := Page.exists_of_mem_pageOf he
    rw [h]
    rfl
  refine ⟨⟨hs, Page.matched_pageOf .., ?_, hd ▸ Nat.zero_le _⟩, hd⟩
  intro e he
  obtain ⟨f, -, h⟩ := Page.exists_of_mem_pageOf he
  rw [h]
  exact .unsent hk

theorem polled_fillStep {step : Traffic → Job → Traffic × Poll Job Arrival}
    (hstep : Keeps b (k + 1) step) {s : Traffic} {i : Inbound} {r : Http.Response} {p : Page Job}
    (hk : k < s.sent.length) (hp : p.Sound b (k + 1) s) :
    Polled b k s p.debt (fillStep i r (p.poll step s)) := by
  have h := Page.poll_goes hstep hp
  rcases hr : p.poll step s with ⟨s', p' | f⟩ <;> rw [hr] at h
  · obtain ⟨hg, ha⟩ := h
    refine ⟨hg.sound.within, hg.owed_eq, hg.onward, ?_⟩
    rintro _ ⟨⟩
    exact ⟨ha, .filling (Nat.lt_of_lt_of_le hk hg.onward.length_le) hg.sound.matched hg.sound.tasks⟩
  · exact ⟨h.1, h.2.2, h.2.1, fun j hj => nomatch hj⟩

theorem polled_deliver {step : Traffic → Job → Traffic × Poll Job Arrival}
    (hstep : Keeps b (k + 1) step) {s : Traffic} {i : Inbound} {direct : Bool} {o : Outcome}
    (hs : s.sent.length ≤ b.limit) (hk : k < s.sent.length) :
    Polled b k s 0 (deliver c step s i direct o) := by
  unfold deliver
  cases o with
  | error f => exact ⟨hs, rfl, .refl _, fun j hj => nomatch hj⟩
  | ok r =>
    simp only
    split
    · exact ⟨hs, rfl, .refl _, fun j hj => nomatch hj⟩
    · obtain ⟨hp, hd⟩ := sound_pageOf (c := c) (i := i) (t := r.body) hs hk
      have h := polled_fillStep (s := (pageOf c i r.body s).1) (i := i) (r := r) hstep hk hp
      rw [hd] at h
      exact h.after (.inr ⟨rfl, Nat.le_refl _⟩) rfl

-- The law of polls. At the level `k` the nesting may still go on for `d` levels, and that is never
-- used up.
theorem keeps_poll (c : Config) (b : Backend) (d k : Nat) (hd : d + k = b.limit + 2) :
    Keeps b k (poll c b d) := by
  induction d generalizing k with
  | zero =>
    intro s j hj
    have := hj.nested.le
    have := hj.within
    omega
  | succ d ih =>
    rintro s j ⟨hs, hj, ho⟩
    have hnext := ih (k + 1) (by omega)
    cases hj with
    | @unsent _ i direct hk =>
      rcases b.send_cases s i.request with ⟨hlt, hsent, -, howed⟩ | ⟨-, hr⟩
      · rcases hr : b.send s i.request with ⟨s₁, a⟩
        simp only [hr] at hsent howed
        have hl : s₁.sent.length = s.sent.length + 1 := by simp [hsent]
        have ha : Ahead s s₁ := .inl (by omega)
        unfold poll
        simp only [hr]
        split
        · rename_i hz
          refine (polled_deliver hnext (by omega) (by omega)).after ha.onward ?_
          simp only [debt]
          omega
        · rename_i n hn
          have hap : Ahead s s₁.pay := .inl (by simp only [pay]; omega)
          refine ⟨by simp only [pay]; omega, ?_, hap.onward, ?_⟩
          · simp only [pay, debt, Poll.debt]
            omega
          · rintro _ ⟨⟩
            exact ⟨hap, .waiting (by simp only [pay]; omega)⟩
      · unfold poll
        simp only [hr, Backend.refusal, deliver]
        exact ⟨hs, rfl, .refl _, fun j hj => nomatch hj⟩
    | @waiting _ i direct m o hk =>
      cases m with
      | zero => exact polled_deliver hnext hs hk
      | succ m =>
        simp only [debt] at ho
        have hap : Ahead s s.pay := .inr ⟨rfl, by simp only [pay]; omega⟩
        unfold poll
        refine ⟨hs, ?_, hap.onward, ?_⟩
        · simp only [pay, debt, Poll.debt]
          omega
        · rintro _ ⟨⟩
          exact ⟨hap, .waiting hk⟩
    | @filling _ i r p hk hp hq => exact polled_fillStep hnext hk ⟨hs, hp, hq, ho⟩

end Job
end EdgeIncludes
