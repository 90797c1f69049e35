import EdgeIncludes.Proofs.Confinement
import EdgeIncludes.Proofs.Opening

namespace EdgeIncludes

variable {c : Config} {first : Inbound}

-- The first request, or one for a fragment of a document that has been opened.
def AskedIn (c : Config) (first : Inbound) (es : List Opening) (i : Inbound) (_direct : Bool) :
    Prop :=
  i = first ∨ ∃ o ∈ es, ∃ f ∈ (scan c o.inbound o.response.body).fetches,
    i = o.inbound.forFragment f.request f.url

theorem AskedIn.append {es : List Opening} {i : Inbound} {direct : Bool}
    (h : AskedIn c first es i direct) (more : List Opening) :
    AskedIn c first (es ++ more) i direct :=
  h.imp_right fun ⟨o, ho, hf⟩ => ⟨o, List.mem_append_left more ho, hf⟩

theorem Traffic.SentWithin.mono {W W' : Inbound → Bool → Prop} {s : Traffic}
    (h : s.SentWithin W) (hw : ∀ {i direct}, W i direct → W' i direct) : s.SentWithin W' := by
  intro r hr
  obtain ⟨i, direct, hi, he⟩ := h r hr
  exact ⟨i, direct, hw hi, he⟩

theorem Job.Within.mono {W W' : Inbound → Bool → Prop} {j : Job} (h : j.Within W)
    (hw : ∀ {i direct}, W i direct → W' i direct) : j.Within W' := by
  induction h with
  | unsent hi => exact .unsent (hw hi)
  | waiting hi => exact .waiting (hw hi)
  | filling _ ih => exact .filling ih

-- All that has been sent or is still to be sent has been asked for by then.
def AllAsked (c : Config) (first : Inbound) (es : List Opening) :
    Traffic × Poll Job Arrival → Prop :=
  Page.Polls (·.SentWithin (AskedIn c first es)) (Job.Within (AskedIn c first es))

-- A poll keeps this, with the documents that it opens itself.
def KeepsAsked (c : Config) (first : Inbound) (step : Traffic → Job → Traffic × Poll Job Arrival)
    (opened : Traffic → Job → List Opening) : Prop :=
  ∀ es s j, s.SentWithin (AskedIn c first es) → j.Within (AskedIn c first es) →
    AllAsked c first (es ++ opened s j) (step s j)

namespace Job

open Page (exists_of_mem_pageOf)

variable {step : Traffic → Job → Traffic × Poll Job Arrival}
  {opened : Traffic → Job → List Opening} {es : List Opening} {s : Traffic} {i : Inbound}

-- A job that is done has nothing more to send.
theorem allAsked_ready (hs : s.SentWithin (AskedIn c first es)) (a : Arrival) :
    AllAsked c first es (s, .ready a) :=
  ⟨hs, fun _ h => by cases h⟩

theorem allAsked_pending {j : Job} (hs : s.SentWithin (AskedIn c first es))
    (hj : j.Within (AskedIn c first es)) : AllAsked c first es (s, .pending j) :=
  ⟨hs, fun _ h => by cases h; exact hj⟩

theorem asked_fillStep (hstep : KeepsAsked c first step opened) {r : Http.Response}
    {p : Page Job} (hs : s.SentWithin (AskedIn c first es))
    (hp : ∀ e ∈ p.queue.tasks, e.2.Within (AskedIn c first es)) :
    AllAsked c first (es ++ p.pollTrace step opened s) (fillStep i r (p.poll step s)) := by
  have hI : Queue.Collects step opened fun es s ts =>
      s.SentWithin (AskedIn c first es) ∧ ∀ e ∈ ts, e.2.Within (AskedIn c first es) := by
    rintro es s n j ts ⟨hs, hts⟩
    obtain ⟨hsent, hrest⟩ := hstep es s j hs (hts _ (List.mem_cons_self ..))
    refine ⟨hsent, fun e he => ?_⟩
    rcases List.mem_append.1 he with he | he
    · exact (hts e (List.mem_cons_of_mem _ he)).mono fun h => h.append _
    · rcases hr : (step s j).2 with j' | a <;> rw [hr] at he
      · obtain rfl := List.mem_singleton.1 he
        exact hrest j' hr
      · cases he
  obtain ⟨ts, ⟨hsent, hts⟩, hend⟩ := Page.poll_collects hI (fun h => h) es ⟨hs, hp⟩
  rcases hr : p.poll step s with ⟨s', p' | f⟩ <;> rw [hr] at hsent hend
  · obtain rfl := hend p' rfl
    exact allAsked_pending hsent (.filling hts)
  · exact allAsked_ready hsent _

-- The fragments of a document are asked for once it is opened.
theorem asked_deliver (hstep : KeepsAsked c first step opened) {direct : Bool} {o : Outcome}
    (hs : s.SentWithin (AskedIn c first es)) :
    AllAsked c first (es ++ deliverTrace c step opened s i direct o)
      (deliver c step s i direct o) := by
  have hsame : s.SentWithin (AskedIn c first (es ++ [])) := hs.mono fun h => h.append _
  unfold deliverTrace deliver
  cases o with
  | error f => exact allAsked_ready hsame _
  | ok r =>
    simp only
    split
    · exact allAsked_ready hsame _
    · have hopen : (pageOf c i r.body s).1.SentWithin (AskedIn c first (es ++ [⟨i, r, s.sent⟩])) :=
        hs.mono fun h => h.append _
      have htasks : ∀ e ∈ (pageOf c i r.body s).2.queue.tasks,
          e.2.Within (AskedIn c first (es ++ [⟨i, r, s.sent⟩])) := by
        intro e he
        obtain ⟨f, hf, hj⟩ := exists_of_mem_pageOf he
        rw [hj]
        exact .unsent (.inr ⟨_, List.mem_append_right _ (List.mem_singleton_self _), f, hf, rfl⟩)
      have hpage := asked_fillStep (i := i) (r := r) hstep hopen htasks
      rwa [List.append_assoc] at hpage

theorem keepsAsked_poll (c : Config) (first : Inbound) (b : Backend) (depth : Nat) :
    KeepsAsked c first (poll c b depth) (Job.opened c b depth) := by
  induction depth with
  | zero =>
    intro es s j hs hj
    rw [Job.opened, List.append_nil]
    exact allAsked_pending hs hj
  | succ depth ih =>
    intro es s j hs hj
    cases hj with
    | @unsent i direct hi =>
      have hsent := hs.send hi b
      rcases hr : b.send s i.request with ⟨s₁, o, n⟩
      rw [hr] at hsent
      cases n with
      | zero =>
        simp only [Job.opened, poll, hr]
        exact asked_deliver ih hsent
      | succ n =>
        simp only [Job.opened, poll, hr, List.append_nil]
        exact allAsked_pending hsent (.waiting hi)
    | @waiting i direct n o hi =>
      cases n with
      | zero => exact asked_deliver ih hs
      | succ n =>
        simp only [Job.opened, poll, List.append_nil]
        exact allAsked_pending hs (.waiting hi)
    | @filling i r p hp => exact asked_fillStep ih hs hp

end Job

namespace Processor

-- Every request of a run but the first is for a fragment of a document that the run has opened.
theorem sent_asked (p : Processor) (i : Inbound) {r : Http.Request}
    (h : r ∈ (p.handle i).1.sent) :
    r = i.request ∨ ∃ o ∈ p.opened i, ∃ f ∈ (scan p.config o.inbound o.response.body).fetches,
      r = f.request := by
  have hkeep : ∀ es s (j : Job), AllAsked p.config i es (s, .pending j) →
      AllAsked p.config i (es ++ Job.opened p.config p.backend p.backend.depth s j)
        (p.step s j) := fun es s j hj =>
    Job.keepsAsked_poll p.config i p.backend p.backend.depth es s j hj.1 (hj.2 j rfl)
  have hstart : AllAsked p.config i [] ({}, .pending (.unsent i false)) :=
    Job.allAsked_pending (fun _ hr => by cases hr) (.unsent (.inl rfl))
  obtain ⟨_, hend, -⟩ := p.backend.run_collects (Job.opened p.config p.backend p.backend.depth)
    (I := fun es s r => AllAsked p.config i es (s, r)) hkeep [] hstart
  obtain ⟨j, _, hj | ⟨o, ho, f, hf, hj⟩, rfl⟩ := hend r h
  · exact .inl (congrArg Inbound.request hj)
  · exact .inr ⟨o, ho, f, hf, congrArg Inbound.request hj⟩

end Processor
end EdgeIncludes
