import EdgeIncludes.Proofs.Branches

namespace EdgeIncludes

-- When the directive fails it has changed nothing, and there is nothing that it gives.
def FailsCleanly {α : Type} (d : Directive α) : Prop :=
  ∀ t taken ctx f, (d t taken ctx).verdict = .error f → d t taken ctx = .fail ctx f

namespace Standard

variable {α : Type}

-- A reaction with a verdict is no failure.
theorem ok_ne_error {ctx : Context} {a : Action} {taken : Bool} {log : Log} {f : Fault} :
    (Reaction.ok ctx a taken log : Reaction α).verdict ≠ .error f := fun h => by cases h

theorem fail_eq {ctx : Context} {f g : Fault}
    (h : (Reaction.fail ctx g : Reaction α).verdict = .error f) :
    (Reaction.fail ctx g : Reaction α) = .fail ctx f := by
  cases h
  rfl

theorem failsCleanly_directives :
    ∀ e ∈ (directives : Directives α).entries, FailsCleanly e.2 := by
  refine forall_directives (P := fun _ d => FailsCleanly d) (fun t taken ctx f hf => ?assign)
    (fun t taken ctx f hf => ?vars) (fun t taken ctx f hf => absurd hf ok_ne_error)
    (fun t taken ctx f hf => ?branch) (fun t taken ctx f hf => ?otherwise)
    (fun t taken ctx f hf => ?forEach) (fun t taken ctx f hf => absurd hf ok_ne_error)
    (fun t taken ctx f hf => ?function) (fun t taken ctx f hf => ?answer)
    (fun t taken ctx f hf => absurd hf ok_ne_error)
    fun _ t taken ctx f hf => absurd hf ok_ne_error
  case assign =>
    unfold assign at hf ⊢
    split at hf
    · exact fail_eq hf
    · exact absurd hf ok_ne_error
  case vars => unfold vars at hf; split at hf <;> exact absurd hf ok_ne_error
  case branch => unfold branch at hf; split at hf <;> exact absurd hf ok_ne_error
  case otherwise => unfold otherwise at hf; split at hf <;> exact absurd hf ok_ne_error
  case forEach => unfold forEach at hf; split at hf <;> exact absurd hf ok_ne_error
  case function =>
    unfold function at hf ⊢
    split at hf
    · exact fail_eq hf
    · exact absurd hf ok_ne_error
  case answer =>
    simp only [answer] at hf ⊢
    split at hf
    · exact fail_eq hf
    · exact absurd hf ok_ne_error
    · exact absurd hf ok_ne_error

end Standard

-- The directive for fragments fails before it asks for one.
theorem Fragment.failsCleanly_directive (c : Config) (i : Inbound) :
    FailsCleanly (directive c i) := by
  intro t taken ctx f hf
  unfold directive at hf ⊢
  split at hf
  · exact Standard.fail_eq hf
  · cases hf

theorem failsCleanly_of_find? {c : Config} {i : Inbound} {name : Text} {d : Directive Fragment}
    (hd : (Fragment.directives c i).find? name = some d) : FailsCleanly d := by
  rcases List.mem_cons.1 (Directives.mem_of_find? hd) with he | hm
  · obtain ⟨-, rfl⟩ := Prod.mk.inj he
    exact Fragment.failsCleanly_directive c i
  · exact Standard.failsCleanly_directives _ hm

-- The element has a directive, which fails.
def Tag.Fails {α : Type} (ds : Directives α) (t : Tag) (taken : Bool) (ctx : Context) (f : Fault) :
    Prop :=
  ∃ d, ds.find? t.name = some d ∧ (d t taken ctx).verdict = .error f

-- All that an element leaves whose directive fails is a line in the log.
theorem renderElement_of_fails {c : Config} {i : Inbound} {t : Tag} {taken : Bool} {p : Pass}
    {f : Fault} (h : t.Fails (Fragment.directives c i) taken p.context f) (m : Mode)
    (children : List Element) :
    renderElement (Fragment.directives c i) m p taken (.tag t children) =
      ({ log := [.removed t.name f] }, p, taken) := by
  obtain ⟨d, hd, hf⟩ := h
  rw [renderElement_of_find? hd, failsCleanly_of_find? hd t taken p.context f hf]
  rfl

namespace Visit

variable {α : Type}

-- What is carried along behind siblings, and whether a branch has been taken among them. Behind a
-- break that ends them there is nothing.
def reached (ds : Directives α) (m : Mode) (p : Pass) (taken : Bool) :
    List Element → Option (Pass × Bool)
  | [] => if p.stopped then none else some (p, taken)
  | e :: es =>
    if p.stopped then none
    else
      let (_, q, taken) := renderElement ds m p taken e
      reached ds m q taken es

theorem visits_of_stopped {p : Pass} (h : p.stopped = true) (ds : Directives α) (m : Mode)
    (taken : Bool) (es : List Element) : visits ds m p taken es = [] := by
  cases es with
  | nil => rfl
  | cons e es => rw [visits, if_pos h]

theorem reached_of_stopped {p : Pass} (h : p.stopped = true) (ds : Directives α) (m : Mode)
    (taken : Bool) (es : List Element) : reached ds m p taken es = none := by
  cases es with
  | nil => rw [reached, if_pos h]
  | cons e es => rw [reached, if_pos h]

theorem visits_append (ds : Directives α) (m : Mode) (p : Pass) (taken : Bool)
    (a b : List Element) :
    visits ds m p taken (a ++ b) =
      visits ds m p taken a ++
        match reached ds m p taken a with
        | none => []
        | some (q, taken) => visits ds m q taken b := by
  induction a generalizing p taken with
  | nil =>
    by_cases hs : p.stopped = true
    · simp only [visits_of_stopped hs, reached_of_stopped hs, List.append_nil]
    · rw [reached, if_neg hs]
      rfl
  | cons e a ih =>
    by_cases hs : p.stopped = true
    · simp only [visits_of_stopped hs, reached_of_stopped hs, List.append_nil]
    · simp only [List.cons_append, visits, reached, if_neg hs, ih]

theorem reached_append (ds : Directives α) (m : Mode) (p : Pass) (taken : Bool)
    (a b : List Element) :
    reached ds m p taken (a ++ b) =
      (reached ds m p taken a).bind fun q => reached ds m q.1 q.2 b := by
  induction a generalizing p taken with
  | nil =>
    rw [reached]
    split
    · rename_i hs
      exact reached_of_stopped hs ..
    · rfl
  | cons e a ih =>
    rw [List.cons_append, reached, reached]
    split
    · rfl
    · simp only [ih]

-- Nothing is carried along into a list of siblings that a break has ended before.
theorem not_stopped_of_reached {ds : Directives α} {m : Mode} {p q : Pass} {taken tk : Bool}
    {a : List Element} (h : reached ds m p taken a = some (q, tk)) : q.stopped = false := by
  induction a generalizing p taken with
  | nil =>
    rw [reached] at h
    split at h
    · cases h
    · rename_i hs
      cases h
      exact Bool.eq_false_iff.2 hs
  | cons e a ih =>
    rw [reached] at h
    split at h
    · cases h
    · exact ih h

-- A visit that only writes to the log.
structure Silent (v : Visit α) : Prop where
  segments : v.output.segments = []
  fetches : v.output.fetches = []
  after : v.after = v.before

-- A silent visit may be left out.
theorem joined_of_silent (p : Pass) (front back : List (Visit α)) {v : Visit α} (hv : v.Silent)
    (hp : v.before = (joined p front).2) :
    (joined p (front ++ v :: back)).1.segments = (joined p (front ++ back)).1.segments ∧
      (joined p (front ++ v :: back)).1.fetches = (joined p (front ++ back)).1.fetches ∧
      (joined p (front ++ v :: back)).2 = (joined p (front ++ back)).2 := by
  induction front generalizing p with
  | nil =>
    have hq : v.after = p := hv.after.trans hp
    simp only [List.nil_append, joined, Output.segments_append, Output.fetches_append, hv.segments,
      hv.fetches, hq, and_self]
  | cons u front ih =>
    obtain ⟨hs, hf, hq⟩ := ih u.after hp
    simp only [List.cons_append, joined, Output.segments_append, Output.fetches_append, hs, hf, hq,
      and_self]

end Visit

open Visit in
-- Where the directive of an element fails when rendering comes to it, the siblings are rendered as
-- if the element were not there: text, placeholders, fetches, all that is carried along, the flag
-- that tells of branches, and every visit of a sibling with all that goes in and comes out. What is
-- left of the element is a line in the log.
theorem failing_element_absent (c : Config) (i : Inbound) (m : Mode) (p : Pass) (taken : Bool)
    (a : List Element) (t : Tag) (children b : List Element)
    (h : ∀ q tk, reached (Fragment.directives c i) m p taken a = some (q, tk) →
      ∃ f, t.Fails (Fragment.directives c i) tk q.context f) :
    let ds := Fragment.directives c i
    let present := a ++ .tag t children :: b
    (renderAll ds m p taken present).1.segments = (renderAll ds m p taken (a ++ b)).1.segments ∧
      (renderAll ds m p taken present).1.fetches = (renderAll ds m p taken (a ++ b)).1.fetches ∧
      (renderAll ds m p taken present).2 = (renderAll ds m p taken (a ++ b)).2 ∧
      reached ds m p taken present = reached ds m p taken (a ++ b) ∧
      ∃ front report back, visits ds m p taken present = front ++ (report ++ back) ∧
        visits ds m p taken (a ++ b) = front ++ back ∧
        ∀ v ∈ report, ∃ tk f, t.Fails ds tk v.before.context f ∧
          v = ⟨.tag t children, v.before, { log := [.removed t.name f] }, v.before⟩ := by
  intro ds present
  have hpresent := visits_append ds m p taken a (.tag t children :: b)
  have habsent := visits_append ds m p taken a b
  rw [renderAll_eq_joined, renderAll_eq_joined, reached_append, reached_append]
  rcases hr : reached ds m p taken a with _ | ⟨q, tk⟩
  · rw [hr] at hpresent habsent
    rw [hpresent, habsent]
    exact ⟨rfl, rfl, rfl, rfl, _, [], [], rfl, rfl, by simp⟩
  · obtain ⟨f, hf⟩ := h q tk hr
    have hnode := renderElement_of_fails hf m children
    have hgo : ¬ q.stopped = true := by rw [not_stopped_of_reached hr]; simp
    let v : Visit Fragment := ⟨.tag t children, q, { log := [.removed t.name f] }, q⟩
    have hvisit : visits ds m q tk (.tag t children :: b) = v :: visits ds m q tk b := by
      rw [visits, if_neg hgo, hnode]
    have hreached : reached ds m q tk (.tag t children :: b) = reached ds m q tk b := by
      rw [reached, if_neg hgo, hnode]
    rw [hr] at hpresent habsent
    have hbefore := before_eq (hpresent.trans (congrArg _ hvisit))
    obtain ⟨hs, hfe, hp⟩ := joined_of_silent p (visits ds m p taken a) (visits ds m q tk b)
      ⟨rfl, rfl, rfl⟩ hbefore
    have hwhole := hpresent.trans (congrArg _ hvisit)
    rw [hwhole, habsent]
    refine ⟨hs, hfe, hp, hreached, _, [v], _, rfl, rfl, fun u hu => ?_⟩
    obtain rfl := List.mem_singleton.1 hu
    exact ⟨tk, f, hf, rfl⟩

-- An include without a source in the first round of a loop, behind a branch that was taken.
theorem include_without_source_absent :
    let i : Inbound := ⟨⟨⟨some "http".toList, "a.example".toList, "/".toList, none⟩, {}⟩,
      ⟨"http".toList, some { host? := some (.domain "a.example".toList) }, .segments [[]], none,
        none⟩, {}⟩
    let ds := Fragment.directives {} i
    let branch : Element := .tag ⟨otherwiseName, [], [], some ['a']⟩ [.raw ['a']]
    let t : Tag := ⟨Fragment.includeName, [], [], none⟩
    Visit.reached ds .substituted ⟨{}, 1⟩ false [branch] = some (⟨{}, 1⟩, true) ∧
      t.Fails ds true {} (.missingAttribute Fragment.includeName "src".toList) ∧
      (renderAll ds .substituted ⟨{}, 1⟩ false [branch, .tag t [], .raw ['b']]).1.segments =
        (renderAll ds .substituted ⟨{}, 1⟩ false [branch, .raw ['b']]).1.segments := by
  intro i ds branch t
  have hr : Visit.reached ds .substituted ⟨{}, 1⟩ false [branch] = some (⟨{}, 1⟩, true) := by rfl
  have hf : t.Fails ds true {} (.missingAttribute Fragment.includeName "src".toList) :=
    ⟨Fragment.directive {} i, by rfl, by rfl⟩
  refine ⟨hr, hf, ?_⟩
  refine (failing_element_absent {} i .substituted ⟨{}, 1⟩ false [branch] t [] [.raw ['b']] ?_).1
  intro q tk hq
  cases hr.symm.trans hq
  exact ⟨_, hf⟩

end EdgeIncludes
