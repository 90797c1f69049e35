import EdgeIncludes.Proofs.Structured

namespace EdgeIncludes

def whenName : Text := "when".toList

def otherwiseName : Text := "otherwise".toList

namespace Tag

def isBranch (t : Tag) : Bool := t.name = whenName || t.name = otherwiseName

-- A branch applies in a context when it has no test or its test holds there.
def applies (t : Tag) (ctx : Context) : Bool :=
  t.name = otherwiseName ||
    t.name = whenName && testHolds ctx ((t.attribute? "test".toList).getD [])

theorem isBranch_of_applies {t : Tag} {ctx : Context} (h : t.applies ctx = true) :
    t.isBranch = true := by
  simp only [applies, isBranch, Bool.or_eq_true, Bool.and_eq_true] at h ⊢
  rcases h with h | ⟨h, -⟩
  · exact .inr h
  · exact .inl h

end Tag

namespace Element

def isBranch : Element → Bool
  | .raw _ => false
  | .tag t _ => t.isBranch

def applies (ctx : Context) : Element → Bool
  | .raw _ => false
  | .tag t _ => t.applies ctx

end Element

namespace Exclusive

variable {α : Type}

mutual

-- Renders one node that is no branch.
def element (ds : Directives α) (m : Mode) (p : Pass) : Element → Output α × Pass
  | .raw t =>
    let (t, log) := m.apply p.context t
    ({ segments := [.raw t], log := log }, p)
  | .tag t children =>
    match ds.find? t.name with
    | none => (.ofText t.markup, p)
    | some d =>
      let r := d t false p.context
      let p := { p with context := r.context }
      match r.verdict with
      | .error _ => (r.output t, p)
      | .ok v =>
        match v.action with
        | .content own =>
          let (more, p) := nodes ds (own.getD m) p children
          (r.output t ++ more, p)
        | .loop item values =>
          let (more, p) :=
            iterate (fun p => nodes ds .substituted p children) item values p.enterLoop
          (r.output t ++ more, p.leaveLoop)
        | _ => (r.output t, p)
termination_by structural e => e

-- Renders siblings in order, up to the first branch that applies. It is rendered, and then the
-- siblings behind it without their branches.
def nodes (ds : Directives α) (m : Mode) (p : Pass) : List Element → Output α × Pass
  | [] => ({}, p)
  | .raw t :: es =>
    if p.stopped then ({}, p)
    else
      let (out, p) := element ds m p (.raw t)
      let (more, p) := nodes ds m p es
      (out ++ more, p)
  | .tag t children :: es =>
    if p.stopped then ({}, p)
    else if t.applies p.context then
      let (out, p) := nodes ds m p children
      let (more, p) := others ds m p es
      (out ++ more, p)
    else if t.isBranch then nodes ds m p es
    else
      let (out, p) := element ds m p (.tag t children)
      let (more, p) := nodes ds m p es
      (out ++ more, p)
termination_by structural es => es

-- Renders siblings in order and leaves out the branches among them.
def others (ds : Directives α) (m : Mode) (p : Pass) : List Element → Output α × Pass
  | [] => ({}, p)
  | e :: es =>
    if p.stopped then ({}, p)
    else if e.isBranch then others ds m p es
    else
      let (out, p) := element ds m p e
      let (more, p) := others ds m p es
      (out ++ more, p)
termination_by structural es => es

end

end Exclusive

-- A sibling that rendering comes to, with what is carried along in front of it and behind it.
structure Visit (α : Type) where
  element : Element
  before : Pass
  output : Output α
  after : Pass

namespace Visit

variable {α : Type}

def applies (v : Visit α) : Bool := v.element.applies v.before.context

-- The siblings that rendering comes to before a break stops it.
def visits (ds : Directives α) (m : Mode) (p : Pass) (taken : Bool) :
    List Element → List (Visit α)
  | [] => []
  | e :: es =>
    if p.stopped then []
    else
      let (out, q, taken) := renderElement ds m p taken e
      ⟨e, p, out, q⟩ :: visits ds m q taken es

-- What visits give together, and what is carried along behind them.
def joined (p : Pass) : List (Visit α) → Output α × Pass
  | [] => ({}, p)
  | v :: vs =>
    let (more, q) := joined v.after vs
    (v.output ++ more, q)

end Visit

namespace Reaction

variable {α : Type}

-- The same reaction where it is said otherwise whether a branch has been taken.
def withTaken (r : Reaction α) (taken : Bool) : Reaction α :=
  { r with verdict := r.verdict.map fun v => { v with taken } }

theorem output_withTaken (r : Reaction α) (taken : Bool) (t : Tag) :
    (r.withTaken taken).output t = r.output t := by
  obtain ⟨ctx, f | v, log, fetches⟩ := r
  · rfl
  · rfl

end Reaction

-- The directives of the branches are the standard ones. No other directive looks at the flag or
-- changes it.
structure Chooses {α : Type} (ds : Directives α) : Prop where
  branch : ds.find? whenName = some Standard.branch
  otherwise : ds.find? otherwiseName = some Standard.otherwise
  passes {t : Tag} {d : Directive α} : ds.find? t.name = some d → t.isBranch = false →
    ∀ taken ctx, d t taken ctx = (d t false ctx).withTaken taken

section Render

variable {α : Type} {ds : Directives α}

@[simp] theorem Output.empty_append (a : Output α) : ({} : Output α) ++ a = a := rfl

-- A branch is rendered when it applies and none has been before it. Otherwise nothing happens.
theorem renderElement_branch (hds : Chooses ds) (m : Mode) (p : Pass) (taken : Bool) {t : Tag}
    (ht : t.isBranch = true) (children : List Element) :
    renderElement ds m p taken (.tag t children) =
      if !taken && t.applies p.context then
        ((renderAll ds m p false children).1, (renderAll ds m p false children).2, true)
      else ({}, p, taken) := by
  simp only [Tag.isBranch, Bool.or_eq_true, decide_eq_true_eq] at ht
  rcases ht with ht | ht
  · have hd : ds.find? t.name = some Standard.branch := ht ▸ hds.branch
    have happlies : t.applies p.context =
        testHolds p.context ((t.attribute? "test".toList).getD []) := by
      have hne : whenName ≠ otherwiseName := by decide
      simp [Tag.applies, ht, hne]
    rw [renderElement_of_find? hd, happlies, Standard.branch]
    split
    · exact congrArg (·, _, true) (Output.empty_append _)
    · rfl
  · have hd : ds.find? t.name = some Standard.otherwise := ht ▸ hds.otherwise
    have happlies : t.applies p.context = true := by simp [Tag.applies, ht]
    rw [renderElement_of_find? hd, happlies, Bool.and_true, Standard.otherwise]
    cases taken with
    | false => exact congrArg (·, _, true) (Output.empty_append _)
    | true => rfl

-- The flag does not matter to a node that is no branch, and is handed on.
theorem renderElement_eq (hds : Chooses ds) (m : Mode) (p : Pass) (taken : Bool) {e : Element}
    (he : e.isBranch = false) :
    renderElement ds m p taken e =
      ((renderElement ds m p false e).1, (renderElement ds m p false e).2.1, taken) := by
  match e with
  | .raw t => rfl
  | .tag t children =>
    rcases hd : ds.find? t.name with _ | d
    · simp only [renderElement, hd]
    · rw [renderElement_of_find? hd, renderElement_of_find? hd, hds.passes hd he taken,
        hds.passes hd he false]
      simp only [Reaction.output_withTaken]
      generalize d t false p.context = r
      obtain ⟨ctx, f | ⟨a, tk⟩, log, fetches⟩ := r
      · rfl
      · cases a <;> rfl

-- The flag is set by the branches that apply, and never cleared.
theorem taken_renderElement (hds : Chooses ds) (m : Mode) (p : Pass) (taken : Bool) (e : Element) :
    (renderElement ds m p taken e).2.2 = (taken || e.applies p.context) := by
  cases he : e.isBranch with
  | false =>
    have happlies : e.applies p.context = false := by
      match e with
      | .raw t => rfl
      | .tag t children =>
        exact Bool.eq_false_iff.2 fun h => Bool.eq_false_iff.1 he (Tag.isBranch_of_applies h)
    rw [renderElement_eq hds m p taken he, happlies, Bool.or_false]
  | true =>
    match e with
    | .raw t => cases he
    | .tag t children =>
      rw [renderElement_branch hds m p taken he, Element.applies]
      cases taken <;> cases t.applies p.context <;> rfl

end Render

namespace Exclusive

variable {α : Type} {ds : Directives α}

mutual

theorem renderElement_exclusive (hds : Chooses ds) (m : Mode) (p : Pass) (taken : Bool)
    (e : Element) (he : e.isBranch = false) :
    renderElement ds m p taken e = ((element ds m p e).1, (element ds m p e).2, taken) := by
  match e with
  | .raw t => rfl
  | .tag t children =>
    rw [renderElement_eq hds m p taken he]
    rcases hd : ds.find? t.name with _ | d
    · simp only [renderElement, element, hd]
    · rw [renderElement_of_find? hd]
      simp only [element, hd]
      have ih := fun m p => (renderAll_exclusive hds m p children).1
      generalize d t false p.context = r
      obtain ⟨ctx, f | ⟨a, tk⟩, log, fetches⟩ := r
      · rfl
      · cases a with
        | content own => simp only [ih]
        | loop item values => simp only [ih]
        | keep => rfl
        | remove => rfl
        | replace x => rfl
termination_by structural e

theorem renderAll_exclusive (hds : Chooses ds) (m : Mode) (p : Pass) (es : List Element) :
    renderAll ds m p false es = nodes ds m p es ∧ renderAll ds m p true es = others ds m p es := by
  match es with
  | [] => exact ⟨rfl, rfl⟩
  | .raw t :: es =>
    have ih := fun p => renderAll_exclusive hds m p es
    have hnode := fun taken => renderElement_exclusive hds m p taken (.raw t) rfl
    constructor
    · rw [renderAll, nodes, hnode]
      simp only [(ih _).1]
    · rw [renderAll, others, hnode]
      simp only [(ih _).2, Element.isBranch, Bool.false_eq_true, if_false]
  | .tag t children :: es =>
    have ih := fun p => renderAll_exclusive hds m p es
    have hinner := fun m p => (renderAll_exclusive hds m p children).1
    cases ht : t.isBranch with
    | false =>
      have happlies : t.applies p.context = false :=
        Bool.eq_false_iff.2 fun h => Bool.eq_false_iff.1 ht (Tag.isBranch_of_applies h)
      have hnode := fun taken => renderElement_exclusive hds m p taken (.tag t children) ht
      constructor
      · rw [renderAll, nodes, hnode, happlies, ht]
        simp only [(ih _).1, Bool.false_eq_true, if_false]
      · rw [renderAll, others, hnode, Element.isBranch, ht]
        simp only [(ih _).2, Bool.false_eq_true, if_false]
    | true =>
      constructor
      · rw [renderAll, nodes, renderElement_branch hds m p false ht, ht]
        cases t.applies p.context with
        | true => simp only [hinner, (ih _).2, Bool.not_false, Bool.and_self, if_true]
        | false => simp [(ih _).1]
      · rw [renderAll, others, renderElement_branch hds m p true ht, Element.isBranch, ht]
        simp [(ih _).2]
termination_by structural es

end

end Exclusive

namespace Visit

variable {α : Type} {ds : Directives α}

theorem renderAll_eq_joined (ds : Directives α) (m : Mode) (p : Pass) (taken : Bool)
    (es : List Element) : renderAll ds m p taken es = joined p (visits ds m p taken es) := by
  induction es generalizing p taken with
  | nil => rfl
  | cons e es ih =>
    rw [renderAll, visits]
    split
    · rfl
    · simp only [joined, ih]

-- The siblings that are visited are the first ones, all of them as long as no break stops it.
theorem visits_prefix (ds : Directives α) (m : Mode) (p : Pass) (taken : Bool)
    (es : List Element) :
    (visits ds m p taken es).map element <+: es ∧
      ((visits ds m p taken es).map element = es ∨
        (joined p (visits ds m p taken es)).2.stopped = true) := by
  induction es generalizing p taken with
  | nil => exact ⟨List.prefix_rfl, .inl rfl⟩
  | cons e es ih =>
    rw [visits]
    split
    · rename_i hs
      exact ⟨List.nil_prefix, .inr hs⟩
    · obtain ⟨hpre, hall⟩ := ih (renderElement ds m p taken e).2.1 (renderElement ds m p taken e).2.2
      refine ⟨List.cons_prefix_cons.2 ⟨rfl, hpre⟩, hall.imp_left fun h => ?_⟩
      rw [List.map_cons, h]

-- What is carried along in front of a visit is what the visits before it have left.
theorem before_eq {m : Mode} {p : Pass} {taken : Bool} {es : List Element}
    {front back : List (Visit α)} {v : Visit α} (hv : visits ds m p taken es = front ++ v :: back) :
    v.before = (joined p front).2 := by
  induction es generalizing p taken front with
  | nil => simp [visits] at hv
  | cons e es ih =>
    rw [visits] at hv
    split at hv
    · simp at hv
    · cases front with
      | nil =>
        obtain ⟨rfl, -⟩ := List.cons.inj hv
        rfl
      | cons u front =>
        obtain ⟨rfl, hback⟩ := List.cons.inj hv
        rw [ih hback]
        rfl

-- Where a branch is visited, the flag is set if it was at first or if a branch in front applied.
theorem visit_branch (hds : Chooses ds) {m : Mode} {p : Pass} {taken : Bool} {es : List Element}
    {front back : List (Visit α)} {v : Visit α} {t : Tag} {children : List Element}
    (hv : visits ds m p taken es = front ++ v :: back) (he : v.element = .tag t children)
    (ht : t.isBranch = true) :
    (v.output, v.after) =
      if t.applies v.before.context && !(taken || front.any applies) then
        renderAll ds m v.before false children
      else ({}, v.before) := by
  induction es generalizing p taken front with
  | nil => simp [visits] at hv
  | cons e es ih =>
    rw [visits] at hv
    split at hv
    · simp at hv
    · cases front with
      | nil =>
        obtain ⟨rfl, -⟩ := List.cons.inj hv
        obtain rfl : e = .tag t children := he
        dsimp only
        rw [renderElement_branch hds m p taken ht]
        cases taken <;> cases t.applies p.context <;> rfl
      | cons u front =>
        obtain ⟨rfl, -⟩ := List.cons.inj hv
        rw [ih (List.cons.inj hv).2, taken_renderElement hds, List.any_cons, applies, Bool.or_assoc]

end Visit

namespace Standard

variable {α : Type}

-- The directive neither looks at the flag nor changes it.
def Passes (d : Directive α) : Prop :=
  ∀ t taken ctx, d t taken ctx = (d t false ctx).withTaken taken

theorem passes_directives :
    ∀ e ∈ (directives : Directives α).entries, e.1 ≠ whenName → e.1 ≠ otherwiseName →
      Passes e.2 := by
  refine forall_directives (P := fun n d => n ≠ whenName → n ≠ otherwiseName → Passes d)
    (fun _ _ t taken ctx => ?assign) (fun _ _ t taken ctx => ?vars) (fun _ _ t taken ctx => rfl)
    (fun hne => absurd rfl hne) (fun _ hne => absurd rfl hne) (fun _ _ t taken ctx => ?forEach)
    (fun _ _ t taken ctx => rfl) (fun _ _ t taken ctx => ?function)
    (fun _ _ t taken ctx => ?answer) (fun _ _ t taken ctx => rfl) fun _ _ _ t taken ctx => rfl
  case assign => unfold assign; split <;> rfl
  case vars => unfold vars; split <;> rfl
  case forEach => unfold forEach; split <;> rfl
  case function => unfold function; split <;> rfl
  case answer => simp only [answer]; split <;> rfl

end Standard

-- The standard directives, with or without the one for fragments.
theorem chooses_directives (c : Config) (i : Inbound) : Chooses (Fragment.directives c i) where
  branch := by rfl
  otherwise := by rfl
  passes := by
    intro t d hd ht taken ctx
    obtain ⟨e, he, rfl⟩ := Option.map_eq_some_iff.1 hd
    have hname : e.1 = t.name := by simpa using List.find?_some he
    simp only [Tag.isBranch, Bool.or_eq_false_iff, decide_eq_false_iff_not, ← hname] at ht
    rcases List.mem_cons.1 (List.mem_of_find?_eq_some he) with rfl | hm
    · unfold Fragment.directive
      dsimp only
      split <;> rfl
    · exact Standard.passes_directives e hm ht.1 ht.2 t taken ctx

-- Rendering siblings visits them in order, up to a break. A branch among them is rendered when it
-- applies where it is reached and none in front of it did so, like a list of its own in which no
-- branch has been taken. Any other branch gives nothing and changes nothing. And at every depth, in
-- every round of a loop, this is what rendering without a flag gives.
theorem branches_exclusive (c : Config) (i : Inbound) (m : Mode) (p : Pass) (es : List Element) :
    let ds := Fragment.directives c i
    let vs := Visit.visits ds m p false es
    renderAll ds m p false es = Visit.joined p vs ∧
      (vs.map Visit.element <+: es ∧
        (vs.map Visit.element = es ∨ (Visit.joined p vs).2.stopped = true)) ∧
      (∀ front v back, vs = front ++ v :: back → v.before = (Visit.joined p front).2 ∧
        ∀ t children, v.element = .tag t children → t.isBranch = true →
          (v.output, v.after) =
            if t.applies v.before.context && !front.any Visit.applies then
              renderAll ds m v.before false children
            else ({}, v.before)) ∧
      renderAll ds m p false es = Exclusive.nodes ds m p es := by
  intro ds vs
  have hds := chooses_directives c i
  refine ⟨Visit.renderAll_eq_joined ds m p false es, Visit.visits_prefix ds m p false es, ?_,
    (Exclusive.renderAll_exclusive hds m p es).1⟩
  intro front v back hv
  refine ⟨Visit.before_eq hv, fun t children he ht => ?_⟩
  rw [Visit.visit_branch hds hv he ht, Bool.false_or]

-- A branch without conditions does not hold, and the one for all other cases may stand anywhere.
example (c : Config) (i : Inbound) :
    let branch (name : Text) (body : Text) : Element := .tag ⟨name, [], [], some body⟩ [.raw body]
    (renderAll (Fragment.directives c i) .verbatim {} false
      [branch whenName ['a'], branch otherwiseName ['b'], branch whenName ['c'],
        branch otherwiseName ['d'], .raw ['e']]).1.segments = [.raw ['b'], .raw ['e']] := by
  cbv

end EdgeIncludes
