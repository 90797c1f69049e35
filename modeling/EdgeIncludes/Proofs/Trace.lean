import EdgeIncludes.Proofs.Progress

namespace EdgeIncludes

namespace Queue

variable {σ τ α ε : Type}

def roundTrace (step : σ → τ → σ × Poll τ α) (happens : σ → τ → List ε) :
    Nat → σ → List (Nat × τ) → List ε
  | 0, _, _ => []
  | _ + 1, _, [] => []
  | n + 1, s, (i, t) :: ts =>
    happens s t ++
      match step s t with
      | (_, .ready _) => []
      | (s, .pending t) => roundTrace step happens n s (ts ++ [(i, t)])

def pollTrace (step : σ → τ → σ × Poll τ α) (happens : σ → τ → List ε) :
    Nat → σ → Queue τ α → List ε
  | passes, s, q =>
    match q.arrival?, passes with
    | some _, _ => []
    | none, 0 => []
    | none, passes + 1 =>
      roundTrace step happens (min patience q.tasks.length) s q.tasks ++
        match round step (min patience q.tasks.length) s q.tasks with
        | (_, _, none) => []
        | (s, ts, some r) =>
          pollTrace step happens passes s { q with tasks := ts, arrived := r :: q.arrived }

def nextTrace (step : σ → τ → σ × Poll τ α) (happens : σ → τ → List ε) (s : σ) (q : Queue τ α) :
    List ε :=
  pollTrace step happens (q.tasks.length + 1) s q

-- A poll of the first task keeps a property of the trace, the state and the tasks.
def Collects (step : σ → τ → σ × Poll τ α) (happens : σ → τ → List ε)
    (I : List ε → σ → List (Nat × τ) → Prop) : Prop :=
  ∀ es s i t ts, I es s ((i, t) :: ts) →
    I (es ++ happens s t) (step s t).1 (ts ++ (step s t).2.rest.map (i, ·))

variable {step : σ → τ → σ × Poll τ α} {happens : σ → τ → List ε}
  {I : List ε → σ → List (Nat × τ) → Prop}

theorem round_collects (hI : Collects step happens I) (n : Nat) (es : List ε) {s : σ}
    {ts : List (Nat × τ)} (h : I es s ts) :
    I (es ++ roundTrace step happens n s ts) (round step n s ts).1 (round step n s ts).2.1 := by
  induction n generalizing es s ts with
  | zero => simpa only [roundTrace, round, List.append_nil] using h
  | succ n ih =>
    cases ts with
    | nil => simpa only [roundTrace, round, List.append_nil] using h
    | cons e ts =>
      obtain ⟨i, t⟩ := e
      have hfront := hI es s i t ts h
      rcases hp : step s t with ⟨s', t' | a⟩ <;> rw [hp] at hfront
      · have hrest := ih (es ++ happens s t) hfront
        simpa only [roundTrace, round, hp, List.append_assoc, Poll.rest, List.map_cons,
          List.map_nil] using hrest
      · simpa only [roundTrace, round, hp, List.append_nil, Poll.rest, List.map_nil] using hfront

theorem poll_collects (hI : Collects step happens I) (passes : Nat) (es : List ε) {s : σ}
    {q : Queue τ α} (h : I es s q.tasks) :
    I (es ++ pollTrace step happens passes s q) (poll step passes s q).1
      (poll step passes s q).2.1.tasks := by
  induction passes generalizing es s q with
  | zero =>
    unfold pollTrace poll
    cases ha : q.arrival? <;> simpa only [ha, List.append_nil, take] using h
  | succ passes ih =>
    unfold pollTrace poll
    cases ha : q.arrival? with
    | some a => simpa only [ha, List.append_nil, take] using h
    | none =>
      have hround := round_collects hI (min patience q.tasks.length) es h
      rcases hr : round step (min patience q.tasks.length) s q.tasks with ⟨s', ts, _ | r⟩ <;>
        rw [hr] at hround
      · simpa only [hr, List.append_nil] using hround
      · have hmore := ih _ (q := { q with tasks := ts, arrived := r :: q.arrived }) hround
        simpa only [hr, List.append_assoc] using hmore

theorem next_collects (hI : Collects step happens I) (es : List ε) {s : σ} {q : Queue τ α}
    (h : I es s q.tasks) :
    I (es ++ q.nextTrace step happens s) (q.next step s).1 (q.next step s).2.1.tasks :=
  poll_collects hI (q.tasks.length + 1) es h

end Queue

namespace Page

variable {τ ε : Type}

def fillTrace (step : Traffic → τ → Traffic × Poll τ Arrival)
    (happens : Traffic → τ → List ε) : List Segment → Traffic → Queue τ Arrival → List ε
  | [], _, _ => []
  | .raw _ :: ss, s, q => fillTrace step happens ss s q
  | .placeholder t :: ss, s, q =>
    if t.name ≠ Fragment.includeName then fillTrace step happens ss s q
    else
      q.nextTrace step happens s ++
        match q.next step s with
        | (s, q, .item a) => fillTrace step happens ss (s.note (reportOf a)) q
        | (_, _, _) => []

def pollTrace (step : Traffic → τ → Traffic × Poll τ Arrival) (happens : Traffic → τ → List ε)
    (s : Traffic) (p : Page τ) : List ε :=
  fillTrace step happens p.rest s p.queue

variable {step : Traffic → τ → Traffic × Poll τ Arrival} {happens : Traffic → τ → List ε}
  {I : List ε → Traffic → List (Nat × τ) → Prop}

theorem fill_collects (hI : Queue.Collects step happens I)
    (hnote : ∀ {es s l ts}, I es s ts → I es (Traffic.note s l) ts) (text : Text)
    (ss : List Segment) (es : List ε) {s : Traffic} {q : Queue τ Arrival} (h : I es s q.tasks) :
    ∃ ts, I (es ++ fillTrace step happens ss s q) (fill step text ss s q).1 ts ∧
      ∀ p, (fill step text ss s q).2 = .pending p → ts = p.queue.tasks := by
  induction ss generalizing es text s q with
  | nil => exact ⟨q.tasks, by simpa only [fillTrace, fill, List.append_nil] using h,
      fun _ hp => by cases hp⟩
  | cons e ss ih =>
    cases e with
    | raw t => exact ih (text ++ t) es h
    | placeholder t =>
      by_cases hn : t.name = Fragment.includeName
      · have hnext := Queue.next_collects hI es h
        simp only [fillTrace, fill, hn, ne_eq, not_true_eq_false, if_false]
        rcases hq : q.next step s with ⟨s', q', a | _ | _⟩ <;> rw [hq] at hnext
        · have hmore := ih (text ++ replacement t a.outcome) _ (hnote (l := reportOf a) hnext)
          simpa only [List.append_assoc] using hmore
        · refine ⟨q'.tasks, by simpa only [List.append_nil] using hnext, ?_⟩
          rintro p ⟨⟩
          rfl
        · exact ⟨q'.tasks, by simpa only [List.append_nil] using hnext, fun _ hp => by cases hp⟩
      · have hrest := ih (text ++ t.markup) es h
        simpa only [fillTrace, fill, hn, ne_eq, not_false_eq_true, if_true] using hrest

-- What every poll of a task keeps, and noting something in the log, a poll of the page keeps.
theorem poll_collects (hI : Queue.Collects step happens I)
    (hnote : ∀ {es s l ts}, I es s ts → I es (Traffic.note s l) ts) (es : List ε) {s : Traffic}
    {p : Page τ} (h : I es s p.queue.tasks) :
    ∃ ts, I (es ++ p.pollTrace step happens s) (p.poll step s).1 ts ∧
      ∀ p', (p.poll step s).2 = .pending p' → ts = p'.queue.tasks :=
  fill_collects hI hnote p.text p.rest es h

end Page

namespace Backend

variable {τ β ε : Type}

def runTrace (b : Backend) (step : Traffic → τ → Traffic × Poll τ β)
    (happens : Traffic → τ → List ε) (s : Traffic) (t : τ) : List ε :=
  happens s t ++
    match step s t with
    | (_, .ready _) => []
    | (s', .pending t') =>
      if _h : b.advances s s' then b.runTrace step happens s' t' else []
termination_by (b.left s, s.owed)
decreasing_by exact lex_of_advances _h

theorem run_collects (b : Backend) {step : Traffic → τ → Traffic × Poll τ β}
    (happens : Traffic → τ → List ε) {I : List ε → Traffic → Poll τ β → Prop}
    (hI : ∀ es s t, I es s (.pending t) → I (es ++ happens s t) (step s t).1 (step s t).2)
    (es : List ε) {s : Traffic} {t : τ} (h : I es s (.pending t)) :
    ∃ r, I (es ++ b.runTrace step happens s t) (b.run step s t).1 r := by
  have hstep := hI es s t h
  rw [runTrace, run]
  rcases hr : step s t with ⟨s', t' | a⟩ <;> rw [hr] at hstep
  · by_cases ha : b.advances s s' = true
    · simp only [ha, dite_true, ← List.append_assoc]
      exact run_collects b happens hI _ hstep
    · simp only [dif_neg ha, List.append_nil]
      exact ⟨_, hstep⟩
  · simp only [List.append_nil]
    exact ⟨_, hstep⟩
termination_by (b.left s, s.owed)
decreasing_by exact lex_of_advances ha

end Backend

section Grows

variable {τ β : Type}

-- No request is taken back. All that has been sent stays in front of what is sent.
def Grows (step : Traffic → τ → Traffic × β) : Prop := ∀ s t, s.sent <+: (step s t).1.sent

theorem Backend.grows_send (b : Backend) : Grows b.send := by
  intro s r
  rcases b.sent_send s r with h | h
  · simp only [h, List.prefix_rfl]
  · simp only [h, List.prefix_append]

theorem collects_sent {step : Traffic → τ → Traffic × Poll τ β} (hstep : Grows step)
    (s : Traffic) :
    Queue.Collects step (fun _ _ => ([] : List Unit)) fun _ s' _ => s.sent <+: s'.sent :=
  fun _ s' _ t _ h => h.trans (hstep s' t)

theorem Queue.grows_round {step : Traffic → τ → Traffic × Poll τ β} (hstep : Grows step)
    (n : Nat) : Grows (round step n) :=
  fun s _ => round_collects (collects_sent hstep s) n [] List.prefix_rfl

theorem Queue.grows_poll {step : Traffic → τ → Traffic × Poll τ β} (hstep : Grows step)
    (passes : Nat) : Grows (poll step passes) :=
  fun s q => poll_collects (q := q) (collects_sent hstep s) passes [] List.prefix_rfl

theorem Page.grows_fill {step : Traffic → τ → Traffic × Poll τ Arrival} (hstep : Grows step)
    (text : Text) (ss : List Segment) : Grows (fill step text ss) := by
  intro s q
  obtain ⟨_, h, -⟩ := fill_collects (collects_sent hstep s) (fun h => h) text ss []
    (s := s) (q := q) List.prefix_rfl
  exact h

theorem Job.grows_fillStep {step : Traffic → Job → Traffic × Poll Job Arrival}
    (hstep : Grows step) (i : Inbound) (r : Http.Response) :
    Grows fun s (p : Page Job) => fillStep i r (p.poll step s) := by
  intro s p
  have h : s.sent <+: (p.poll step s).1.sent := Page.grows_fill hstep p.text p.rest s p.queue
  change s.sent <+: (fillStep i r (p.poll step s)).1.sent
  rcases hp : p.poll step s with ⟨s', p' | f⟩ <;> rw [hp] at h <;> exact h

theorem Job.grows_deliver {step : Traffic → Job → Traffic × Poll Job Arrival}
    (hstep : Grows step) (c : Config) (i : Inbound) (direct : Bool) :
    Grows fun s o => deliver c step s i direct o := by
  intro s o
  unfold deliver
  cases o with
  | error f => exact List.prefix_rfl
  | ok r =>
    simp only
    split
    · exact List.prefix_rfl
    · exact grows_fillStep hstep i r (pageOf c i r.body s).1 (pageOf c i r.body s).2

theorem Job.grows_poll (c : Config) (b : Backend) (depth : Nat) : Grows (poll c b depth) := by
  induction depth with
  | zero => exact fun s j => List.prefix_rfl
  | succ depth ih =>
    intro s j
    cases j with
    | unsent i direct =>
      have hsend := b.grows_send s i.request
      rcases hr : b.send s i.request with ⟨s₁, o, n⟩
      rw [hr] at hsend
      cases n with
      | zero =>
        simp only [poll, hr]
        exact hsend.trans (grows_deliver ih c i direct s₁ o)
      | succ n =>
        simp only [poll, hr]
        exact hsend
    | waiting i direct n o =>
      cases n with
      | zero => exact grows_deliver ih c i direct s o
      | succ n => exact List.prefix_rfl
    | filling i r p => exact grows_fillStep ih i r s p

theorem Backend.grows_run (b : Backend) {step : Traffic → τ → Traffic × Poll τ β}
    (hstep : Grows step) : Grows (b.run step) := by
  intro s t
  obtain ⟨_, h⟩ := b.run_collects (fun _ _ => [])
    (I := fun (_ : List Unit) s' _ => s.sent <+: s'.sent)
    (fun _ s' t' h => h.trans (hstep s' t')) [] (t := t) List.prefix_rfl
  exact h

end Grows
end EdgeIncludes
