import EdgeIncludes.Proofs.Progress

namespace EdgeIncludes

namespace Job

-- A job that goes on from the answer `o` to its request.
inductive From (o : Outcome) : Job → Prop
  | waiting {i : Inbound} {direct : Bool} {n : Nat} : From o (.waiting i direct n o)
  | filling {i : Inbound} {r r' : Http.Response} {p : Page Job} (h : o = .ok r') :
      From o (.filling i r p)

-- The answer stays what it is, and a fault is the outcome exactly when it was the answer.
def Continues (o : Outcome) : Poll Job Arrival → Prop
  | .pending j => j.From o
  | .ready a => ∀ f, a.outcome = .error f ↔ o = .error f

theorem continues_fillStep {o : Outcome} {i : Inbound} {r r' : Http.Response} (h : o = .ok r')
    (x : Traffic × Poll (Page Job) Filled) : Continues o (fillStep i r x).2 := by
  rcases x with ⟨s, p | f⟩
  · exact .filling h
  · intro f
    simp [h]

theorem continues_deliver (c : Config) (step : Traffic → Job → Traffic × Poll Job Arrival)
    (s : Traffic) (i : Inbound) (direct : Bool) (o : Outcome) :
    Continues o (deliver c step s i direct o).2 := by
  unfold deliver
  cases o with
  | error f => exact fun g => Iff.rfl
  | ok r =>
    simp only
    split
    · exact fun g => Iff.rfl
    · exact continues_fillStep rfl _

theorem continues_poll (c : Config) (b : Backend) (d : Nat) (s : Traffic) {o : Outcome} {j : Job}
    (h : j.From o) : Continues o (poll c b d s j).2 := by
  cases d with
  | zero => exact h
  | succ d =>
    cases h with
    | @waiting i direct n =>
      cases n with
      | zero => exact continues_deliver ..
      | succ n => exact .waiting
    | filling h => exact continues_fillStep h _

theorem continues_unsent (c : Config) (b : Backend) (d : Nat) (s : Traffic) (i : Inbound)
    (direct : Bool) :
    Continues (b.send s i.request).2.outcome (poll c b (d + 1) s (.unsent i direct)).2 := by
  rcases hr : b.send s i.request with ⟨s₁, o, n⟩
  unfold poll
  simp only [hr]
  split
  · exact continues_deliver ..
  · exact .waiting

end Job

namespace Processor

variable (p : Processor) (i : Inbound)

theorem keeps_step : Keeps p.backend 0 p.step := Job.keeps_poll _ _ _ _ rfl

-- The run of a page ends. What every poll in vain keeps holds before the last poll.
theorem fill_spec (t : Text) (J : Traffic → Page Job → Prop)
    (h : J (pageOf p.config i t {}).1 (pageOf p.config i t {}).2)
    (hstep : ∀ s (q : Page Job) s' q', J s q → q.poll p.step s = (s', .pending q') → J s' q') :
    ∃ s₁ q s' f, q.Matched ∧ J s₁ q ∧ q.poll p.step s₁ = (s', .ready f) ∧
      p.fill i t = (s', some f) := by
  have hs := (Job.sound_pageOf (b := p.backend) (k := 0) (c := p.config) (i := i) (t := t) (s := {})
    (Nat.zero_le _) (Nat.zero_le _)).1
  have hkeeps : ∀ s (q : Page Job) s' q', q.Sound p.backend 0 s ∧ J s q →
      q.poll p.step s = (s', .pending q') →
      p.backend.advances s s' = true ∧ q'.Sound p.backend 0 s' ∧ J s' q' := by
    intro s q s' q' ⟨hq, hj⟩ he
    have h := Page.poll_goes p.keeps_step hq
    rw [he] at h
    exact ⟨Backend.advances_of_ahead h.2 h.1.sound.within, h.1.sound, hstep s q s' q' hj he⟩
  obtain ⟨s₁, q, s', f, ⟨hq, hj⟩, hf, hr⟩ :=
    p.backend.run_spec (Page.poll p.step) _ hkeeps ⟨hs, h⟩
  exact ⟨s₁, q, s', f, hq.matched, hj, hf, hr⟩

-- The run of a page ends with its text, and leaves no fragment.
theorem fill_complete (t : Text) : ∃ text, (p.fill i t).2 = some ⟨.ok text, 0⟩ := by
  obtain ⟨s₁, q, s', f, hq, -, hf, hr⟩ :=
    p.fill_spec i t (fun _ _ => True) trivial fun _ _ _ _ _ _ => trivial
  have h := hq.poll p.step s₁
  rw [hf] at h
  obtain ⟨body, left⟩ := f
  obtain ⟨⟨text, rfl⟩, rfl⟩ := h
  exact ⟨text, congrArg Prod.snd hr⟩

theorem document_eq_of_fill {t text : Text} {n : Nat} (h : (p.fill i t).2 = some ⟨.ok text, n⟩) :
    (p.document i t).2 = .ok text := by
  simp only [document, h]
  rfl

theorem respond_eq_of_document {r : Http.Response} {text : Text}
    (h : (p.document i r.body).2 = .ok text) (hr : p.config.processes r = true) :
    (p.respond i r).2 =
      { r with headers := r.headers.remove "content-length".toList, body := text } := by
  simp only [respond, hr, if_true, h]
  rfl

-- The run of a request ends in a fault exactly when that is the answer of the backend.
theorem handle_eq_error_iff (f : Fault) :
    (p.handle i).2 = .error f ↔ (p.backend.send {} i.request).2.outcome = .error f := by
  let o := (p.backend.send {} i.request).2.outcome
  have hcont : ∀ s j, (s = {} ∧ j = Job.unsent i false) ∨ j.From o →
      Job.Continues o (p.step s j).2 := by
    rintro s j (⟨rfl, rfl⟩ | hj)
    · exact Job.continues_unsent ..
    · exact Job.continues_poll _ _ _ _ hj
  have hstep : ∀ s (j : Job) s' j',
      (j.Sound p.backend 0 s ∧ ((s = {} ∧ j = Job.unsent i false) ∨ j.From o)) →
      p.step s j = (s', .pending j') → p.backend.advances s s' = true ∧
        j'.Sound p.backend 0 s' ∧ ((s' = {} ∧ j' = Job.unsent i false) ∨ j'.From o) := by
    intro s j s' j' ⟨hs, hj⟩ he
    have h := p.keeps_step s j hs
    have hc := hcont s j hj
    rw [he] at h hc
    exact ⟨Backend.advances_of_ahead (h.pending j' rfl).1 h.within, h.sound hs, .inr hc⟩
  have hstart : (Job.unsent i false).Sound p.backend 0 {} :=
    ⟨Nat.zero_le _, .unsent (Nat.zero_le _), Nat.le_refl _⟩
  obtain ⟨s₁, j, s', a, ⟨-, hj⟩, ha, hr⟩ :=
    p.backend.run_spec p.step _ hstep ⟨hstart, .inl ⟨rfl, rfl⟩⟩
  have hc := hcont s₁ j hj
  rw [ha] at hc
  simp only [handle, hr]
  exact hc f

-- A scan asks for one fragment for each include that it leaves, namely the one of its `src`. So on
-- every page, at any depth of nesting and whatever the fetches do, each element finds its fragment
-- and none is left over. A document is always filled, a response that is to be processed always has
-- its document in the end, and the answer to a request is a fault only when the backend says so.
theorem runs_complete (t : Text) (r : Http.Response) (s : Traffic) :
    List.Forall₂ (AsksFor p.config i) (Segment.placeholders (scan p.config i t).segments)
        (scan p.config i t).fetches ∧
      (pageOf p.config i t s).2.queue.length =
        (Segment.placeholders (scan p.config i t).segments).length ∧
      (pageOf p.config i t s).2.Matched ∧
      (∀ (q : Page Job) step s, q.Matched →
        (∀ q', (q.poll step s).2 = .pending q' → q'.Matched) ∧
        ∀ f, (q.poll step s).2 = .ready f → (∃ text, f.body = .ok text) ∧ f.left = 0) ∧
      (∃ text, (p.fill i t).2 = some ⟨.ok text, 0⟩ ∧ (p.document i t).2 = .ok text) ∧
      (p.config.processes r = true → ∃ text, (p.document i r.body).2 = .ok text ∧
        (p.respond i r).2 =
          { r with headers := r.headers.remove "content-length".toList, body := text }) ∧
      ∀ f, (p.handle i).2 = .error f ↔ (p.backend.send {} i.request).2.outcome = .error f := by
  have hm := Page.matched_pageOf p.config i t s
  refine ⟨scan_paired _ _ _, hm.length_eq, hm, ?_, ?_, ?_, p.handle_eq_error_iff i⟩
  · intro q step s hq
    have h := hq.poll step s
    constructor
    · intro q' he
      rw [he] at h
      exact h
    · intro f he
      rw [he] at h
      exact h
  · obtain ⟨text, h⟩ := p.fill_complete i t
    exact ⟨text, h, p.document_eq_of_fill i h⟩
  · intro hr
    obtain ⟨text, h⟩ := p.fill_complete i r.body
    have hd := p.document_eq_of_fill i h
    exact ⟨text, hd, p.respond_eq_of_document i hd hr⟩

end Processor
end EdgeIncludes
