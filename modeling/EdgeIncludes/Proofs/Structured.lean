import EdgeIncludes.Fragment.Include
import EdgeIncludes.Proofs.Rendering

namespace EdgeIncludes

-- How a node ends: what stands behind it is rendered, or the loop around it is left.
inductive Exit where
  | onward
  | leave
deriving DecidableEq

namespace Structured

variable {α : Type}

def breakName : Text := "break".toList

-- Runs the body of a loop for one value after the other, until one is left.
def loop (body : Context → Output α × Context × Exit) (item : Text) :
    List Text → Context → Output α × Context
  | [], ctx => ({}, ctx)
  | v :: vs, ctx =>
    match body (ctx.set item (.text v)) with
    | (out, ctx, .leave) => (out, ctx)
    | (out, ctx, .onward) =>
      let (more, ctx) := loop body item vs ctx
      (out ++ more, ctx)

mutual

-- Renders one node. In a loop a break ends it, outside of loops a break is noted. A loop forgets a
-- break that was noted before it.
def element (ds : Directives α) (looped : Bool) (m : Mode) (ctx : Context) (taken : Bool) :
    Element → Output α × Context × Bool × Exit
  | .raw t =>
    let (t, log) := m.apply ctx t
    ({ segments := [.raw t], log := log }, ctx, taken, .onward)
  | .tag t children =>
    if t.name = breakName then
      if looped then ({}, ctx, taken, .leave)
      else ({}, { ctx with broken := true }, taken, .onward)
    else
      match ds.find? t.name with
      | none => (.ofText t.markup, ctx, taken, .onward)
      | some d =>
        let r := d t taken ctx
        match r.verdict with
        | .error _ => (r.output t, r.context, taken, .onward)
        | .ok v =>
          match v.action with
          | .content own =>
            let (more, ctx, exit) := nodes ds looped (own.getD m) r.context false children
            (r.output t ++ more, ctx, v.taken, exit)
          | .loop item values =>
            let (more, ctx) := loop (fun ctx => nodes ds true .substituted ctx false children) item
              values { r.context with broken := false }
            (r.output t ++ more, ctx, v.taken, .onward)
          | _ => (r.output t, r.context, v.taken, .onward)
termination_by structural e => e

-- Renders siblings in order, until one leaves the loop around them.
def nodes (ds : Directives α) (looped : Bool) (m : Mode) (ctx : Context) (taken : Bool) :
    List Element → Output α × Context × Exit
  | [] => ({}, ctx, .onward)
  | e :: es =>
    match element ds looped m ctx taken e with
    | (out, ctx, _, .leave) => (out, ctx, .leave)
    | (out, ctx, taken, .onward) =>
      let (more, ctx, exit) := nodes ds looped m ctx taken es
      (out ++ more, ctx, exit)
termination_by structural es => es

end

end Structured

-- The flag that stands for a way to end.
def Exit.mark : Exit → Context → Context
  | .onward, ctx => ctx
  | .leave, ctx => { ctx with broken := true }

-- Only a break touches the flag.
structure KeepsFlag {α : Type} (ds : Directives α) : Prop where
  stop : ds.find? Structured.breakName = some Standard.stop
  keeps {t : Tag} {d : Directive α} : ds.find? t.name = some d → t.name ≠ Structured.breakName →
    ∀ taken ctx, (d t taken ctx).context.broken = ctx.broken

section Render

variable {α : Type} {ds : Directives α}

theorem renderElement_of_find? {t : Tag} {d : Directive α} (hd : ds.find? t.name = some d)
    (m : Mode) (p : Pass) (taken : Bool) (children : List Element) :
    renderElement ds m p taken (.tag t children) =
      let r := d t taken p.context
      let p := { p with context := r.context }
      match r.verdict with
      | .error _ => (r.output t, p, taken)
      | .ok v =>
        match v.action with
        | .content own =>
          let (more, p) := renderAll ds (own.getD m) p false children
          (r.output t ++ more, p, v.taken)
        | .loop item values =>
          let (more, p) :=
            iterate (fun p => renderAll ds .substituted p false children) item values p.enterLoop
          (r.output t ++ more, p.leaveLoop, v.taken)
        | _ => (r.output t, p, v.taken) := by
  rw [renderElement, hd]
  dsimp only
  unfold Reaction.output
  rcases (d t taken p.context).verdict with f | ⟨a, tk⟩
  · rfl
  · cases a <;> rfl

end Render

-- A rendering with `n` loops around it gives what the reference gives. In a loop the flag is set
-- for a break that is on its way and for nothing else.
structure Follows {α : Type} (n : Nat) (r : Output α × Pass) (r' : Output α × Context × Exit) :
    Prop where
  eq : r = (r'.1, ⟨r'.2.2.mark r'.2.1, n⟩)
  clear : 0 < n → r'.2.1.broken = false
  outside : n = 0 → r'.2.2 = .onward

-- The same for one node, which also says whether a branch has been taken.
structure FollowsNode {α : Type} (n : Nat) (r : Output α × Pass × Bool)
    (r' : Output α × Context × Bool × Exit) : Prop where
  eq : r = (r'.1, ⟨r'.2.2.2.mark r'.2.1, n⟩, r'.2.2.1)
  clear : 0 < n → r'.2.1.broken = false
  outside : n = 0 → r'.2.2.2 = .onward

section Simulation

variable {α : Type} {n : Nat} {ctx : Context} {out : Output α}

@[simp] theorem Output.append_empty (a : Output α) : a ++ ({} : Output α) = a := by
  obtain ⟨ss, log, fs⟩ := a
  change Output.mk (ss ++ []) (log ++ []) (fs ++ []) = _
  simp only [List.append_nil]

theorem follows_onward (hc : 0 < n → ctx.broken = false) :
    Follows n (out, ⟨ctx, n⟩) (out, ctx, .onward) :=
  ⟨rfl, hc, fun _ => rfl⟩

theorem Follows.node {p : Pass} {out' : Output α} {exit : Exit}
    (h : Follows n (out, p) (out', ctx, exit)) (taken : Bool) :
    FollowsNode n (out, p, taken) (out', ctx, taken, exit) := by
  obtain ⟨rfl, rfl⟩ := Prod.mk.inj h.eq
  exact ⟨rfl, h.clear, h.outside⟩

theorem Follows.prepend {r : Output α × Pass} {r' : Output α × Context × Exit}
    (h : Follows n r r') (out : Output α) : Follows n (out ++ r.1, r.2) (out ++ r'.1, r'.2) :=
  ⟨by rw [h.eq], h.clear, h.outside⟩

theorem iterate_of_broken {body : Pass → Output α × Pass} {p : Pass} (h : p.context.broken = true)
    (item : Text) (vs : List Text) : iterate body item vs p = ({}, p) := by
  cases vs with
  | nil => rfl
  | cons v vs => rw [iterate, if_pos h]

theorem renderAll_of_stopped {ds : Directives α} {p : Pass} (h : p.stopped = true) (m : Mode)
    (taken : Bool) (es : List Element) : renderAll ds m p taken es = ({}, p) := by
  cases es with
  | nil => rfl
  | cons e es => rw [renderAll, if_pos h]

-- A loop that is left has the context in which it was left, and the flag is clear behind it.
theorem leaveLoop_mark {ctx : Context} (h : ctx.broken = false) (exit : Exit) :
    Pass.leaveLoop ⟨exit.mark ctx, n + 1⟩ = ⟨ctx, n⟩ := by
  obtain ⟨vars, functions, broken, returned⟩ := ctx
  obtain rfl : broken = false := h
  cases exit <;> rfl

theorem iterate_follows (body : Pass → Output α × Pass)
    (body' : Context → Output α × Context × Exit)
    (hb : ∀ ctx, ctx.broken = false → Follows (n + 1) (body ⟨ctx, n + 1⟩) (body' ctx))
    (item : Text) (vs : List Text) (ctx : Context) (hc : ctx.broken = false) :
    ∃ exit : Exit, iterate body item vs ⟨ctx, n + 1⟩ =
        ((Structured.loop body' item vs ctx).1,
          ⟨exit.mark (Structured.loop body' item vs ctx).2, n + 1⟩) ∧
      (Structured.loop body' item vs ctx).2.broken = false := by
  induction vs generalizing ctx with
  | nil => exact ⟨.onward, rfl, hc⟩
  | cons v vs ih =>
    obtain ⟨heq, hclear, -⟩ := hb (ctx.set item (.text v)) hc
    rw [iterate, if_neg (by simp [hc]), Pass.bindItem, Structured.loop, heq]
    have hclear := hclear (by omega)
    generalize body' (ctx.set item (.text v)) = r at hclear ⊢
    obtain ⟨out, ctx', _ | _⟩ := r
    · obtain ⟨exit, he, hd⟩ := ih ctx' hclear
      refine ⟨exit, ?_, hd⟩
      change (out ++ (iterate body item vs ⟨ctx', n + 1⟩).1,
        (iterate body item vs ⟨ctx', n + 1⟩).2) = _
      rw [he]
    · refine ⟨.leave, ?_, hclear⟩
      change (out ++ (iterate body item vs ⟨Exit.leave.mark ctx', n + 1⟩).1, _) = _
      rw [iterate_of_broken rfl, Output.append_empty]

-- The loop catches the break.
theorem loop_follows (body : Pass → Output α × Pass)
    (body' : Context → Output α × Context × Exit)
    (hb : ∀ ctx, ctx.broken = false → Follows (n + 1) (body ⟨ctx, n + 1⟩) (body' ctx))
    (item : Text) (vs : List Text) (ctx : Context) :
    Follows n
      ((iterate body item vs (Pass.enterLoop ⟨ctx, n⟩)).1,
        (iterate body item vs (Pass.enterLoop ⟨ctx, n⟩)).2.leaveLoop)
      ((Structured.loop body' item vs { ctx with broken := false }).1,
        (Structured.loop body' item vs { ctx with broken := false }).2, .onward) := by
  obtain ⟨exit, he, hend⟩ := iterate_follows body body' hb item vs { ctx with broken := false } rfl
  have hp : Pass.enterLoop ⟨ctx, n⟩ = ⟨{ ctx with broken := false }, n + 1⟩ := rfl
  rw [hp, he, leaveLoop_mark hend]
  exact follows_onward fun _ => hend

mutual

theorem renderElement_follows {ds : Directives α} (hds : KeepsFlag ds) (n : Nat) (m : Mode)
    (ctx : Context) (taken : Bool) (hc : 0 < n → ctx.broken = false) (e : Element) :
    FollowsNode n (renderElement ds m ⟨ctx, n⟩ taken e)
      (Structured.element ds (decide (0 < n)) m ctx taken e) := by
  match e with
  | .raw t => exact (follows_onward hc).node taken
  | .tag t children =>
    by_cases hn : t.name = Structured.breakName
    · have hstop := hds.stop
      rw [← hn] at hstop
      rw [renderElement_of_find? hstop, Structured.element, if_pos hn]
      cases n with
      | zero => exact (follows_onward fun h => absurd h (Nat.lt_irrefl 0)).node taken
      | succ n => exact ⟨rfl, hc, nofun⟩
    · rw [Structured.element, if_neg hn]
      rcases hd : ds.find? t.name with _ | d
      · rw [renderElement, hd]
        exact (follows_onward hc).node taken
      · have hclear : 0 < n → (d t taken ctx).context.broken = false :=
          fun hl => (hds.keeps hd hn taken ctx).trans (hc hl)
        rw [renderElement_of_find? hd]
        dsimp only
        generalize d t taken ctx = r at hclear ⊢
        rcases hv : r.verdict with f | ⟨a, tk⟩
        · exact (follows_onward hclear).node taken
        · cases a with
          | content own =>
            have ih := renderAll_follows hds n (own.getD m) r.context false hclear children
            exact (ih.prepend (r.output t)).node tk
          | loop item values =>
            have ih := loop_follows (fun p => renderAll ds .substituted p false children)
              (fun ctx => Structured.nodes ds true .substituted ctx false children)
              (fun ctx hctx => renderAll_follows hds (n + 1) .substituted ctx false
                (fun _ => hctx) children) item values r.context
            exact (ih.prepend (r.output t)).node tk
          | keep => exact (follows_onward hclear).node tk
          | remove => exact (follows_onward hclear).node tk
          | replace x => exact (follows_onward hclear).node tk
termination_by structural e

theorem renderAll_follows {ds : Directives α} (hds : KeepsFlag ds) (n : Nat) (m : Mode)
    (ctx : Context) (taken : Bool) (hc : 0 < n → ctx.broken = false) (es : List Element) :
    Follows n (renderAll ds m ⟨ctx, n⟩ taken es)
      (Structured.nodes ds (decide (0 < n)) m ctx taken es) := by
  match es with
  | [] => exact follows_onward hc
  | e :: es =>
    have hgo : Pass.stopped ⟨ctx, n⟩ = false := by
      cases n with
      | zero => rfl
      | succ n => rw [Pass.stopped, hc n.succ_pos, Bool.and_false]
    obtain ⟨heq, hclear, houtside⟩ := renderElement_follows hds n m ctx taken hc e
    rw [renderAll, hgo, if_neg Bool.false_ne_true, Structured.nodes, heq]
    generalize Structured.element ds (decide (0 < n)) m ctx taken e = r at hclear houtside ⊢
    obtain ⟨out, ctx', tk, exit⟩ := r
    cases exit with
    | onward => exact (renderAll_follows hds n m ctx' tk hclear es).prepend out
    | leave =>
      have hn : 0 < n := Nat.pos_of_ne_zero fun h => nomatch houtside h
      have hstop : Pass.stopped ⟨Exit.leave.mark ctx', n⟩ = true := by
        simp [Pass.stopped, Exit.mark, hn]
      refine ⟨?_, hclear, houtside⟩
      change (out ++ (renderAll ds m ⟨Exit.leave.mark ctx', n⟩ tk es).1,
        (renderAll ds m ⟨Exit.leave.mark ctx', n⟩ tk es).2) = _
      rw [renderAll_of_stopped hstop, Output.append_empty]
termination_by structural es

end

end Simulation

namespace Standard

variable {α : Type}

-- The directive leaves the flag as it finds it.
def FlagKept (d : Directive α) : Prop :=
  ∀ t taken ctx, (d t taken ctx).context.broken = ctx.broken

theorem flagKept_directives :
    ∀ e ∈ (directives : Directives α).entries, e.1 ≠ Structured.breakName → FlagKept e.2 := by
  refine forall_directives (P := fun n d => n ≠ Structured.breakName → FlagKept d)
    (fun _ t taken ctx => ?assign) (fun _ t taken ctx => ?vars) (fun _ t taken ctx => rfl)
    (fun _ t taken ctx => ?branch) (fun _ t taken ctx => ?otherwise)
    (fun _ t taken ctx => ?forEach) (fun hne => absurd rfl hne) (fun _ t taken ctx => ?function)
    (fun _ t taken ctx => ?answer) (fun _ t taken ctx => rfl) fun _ _ t taken ctx => rfl
  case assign => unfold assign; split <;> rfl
  case vars => unfold vars; split <;> rfl
  case branch => unfold branch; split <;> rfl
  case otherwise => unfold otherwise; split <;> rfl
  case forEach => unfold forEach; split <;> rfl
  case function => unfold function; split <;> rfl
  case answer => simp only [answer]; split <;> rfl

end Standard

-- The standard directives, with or without the one for fragments.
theorem keepsFlag_directives (c : Config) (i : Inbound) : KeepsFlag (Fragment.directives c i) where
  stop := by rfl
  keeps := by
    intro t d hd hn taken ctx
    obtain ⟨e, he, rfl⟩ := Option.map_eq_some_iff.1 hd
    have hname : e.1 = t.name := by simpa using List.find?_some he
    rcases List.mem_cons.1 (List.mem_of_find?_eq_some he) with rfl | hm
    · unfold Fragment.directive
      dsimp only
      split <;> rfl
    · exact Standard.flagKept_directives e hm (hname ▸ hn) t taken ctx

section Loops

variable {α : Type} {ds : Directives α}

-- Behind a loop that has run the flag is clear, and as many loops are being run as in front of it.
theorem pass_of_loop (hds : KeepsFlag ds) {t : Tag} {d : Directive α} (hd : ds.find? t.name = some d)
    (m : Mode) (p : Pass) (taken : Bool) (children : List Element) {item : Text}
    {values : List Text} {tk : Bool}
    (hv : (d t taken p.context).verdict = .ok ⟨.loop item values, tk⟩) :
    (renderElement ds m p taken (.tag t children)).2.1.context.broken = false ∧
      (renderElement ds m p taken (.tag t children)).2.1.depth = p.depth := by
  have hloop := loop_follows (fun p => renderAll ds .substituted p false children)
    (fun ctx => Structured.nodes ds true .substituted ctx false children)
    (fun ctx hctx => renderAll_follows hds (p.depth + 1) .substituted ctx false (fun _ => hctx)
      children) item values (d t taken p.context).context
  rw [renderElement_of_find? hd]
  simp only [hv]
  exact ⟨rfl, congrArg (fun r => r.2.depth) hloop.eq⟩

end Loops

-- Rendering with a flag and a count of loops is structured control flow: outside of loops and in
-- them it gives what the reference gives. A loop that has run leaves no break behind.
theorem renderAll_structured (c : Config) (i : Inbound) (m : Mode) :
    (∀ ctx taken es,
      let r := Structured.nodes (Fragment.directives c i) false m ctx taken es
      renderAll (Fragment.directives c i) m ⟨ctx, 0⟩ taken es = (r.1, ⟨r.2.1, 0⟩)) ∧
    (∀ n ctx taken es, ctx.broken = false →
      let r := Structured.nodes (Fragment.directives c i) true m ctx taken es
      renderAll (Fragment.directives c i) m ⟨ctx, n + 1⟩ taken es =
        (r.1, ⟨r.2.2.mark r.2.1, n + 1⟩) ∧ r.2.1.broken = false) ∧
    ∀ p taken t children, t.name = "foreach".toList →
      itemsOf p.context ((t.attribute? "collection".toList).getD []) ≠ [] →
      let q := (renderElement (Fragment.directives c i) m p taken (.tag t children)).2.1
      q.context.broken = false ∧ q.depth = p.depth := by
  have hds := keepsFlag_directives c i
  refine ⟨?outside, ?inside, ?behind⟩
  case outside =>
    intro ctx taken es
    have h := renderAll_follows hds 0 m ctx taken (fun hn => absurd hn (Nat.lt_irrefl 0)) es
    refine h.eq.trans ?_
    rw [h.outside rfl]
    rfl
  case inside =>
    intro n ctx taken es hc
    have h := renderAll_follows hds (n + 1) m ctx taken (fun _ => hc) es
    exact ⟨h.eq, h.clear n.succ_pos⟩
  case behind =>
    intro p taken t children hn hitems
    have hd : (Fragment.directives c i).find? t.name = some Standard.forEach := by
      rw [hn]
      rfl
    obtain ⟨v, vs, hvs⟩ := List.exists_cons_of_ne_nil hitems
    have hv : (Standard.forEach t taken p.context : Reaction Fragment).verdict =
        .ok ⟨.loop ((t.attribute? "item".toList).getD "item".toList) (v :: vs), taken⟩ := by
      rw [Standard.forEach, hvs]
      rfl
    exact pass_of_loop hds hd m p taken children hv

-- A break in a branch leaves the loop around it, and the item keeps its value.
example (c : Config) (i : Inbound) :
    let branches : Element := .tag ⟨"choose".toList, [], [], some []⟩
      [.tag ⟨Structured.breakName, [], [], none⟩ [], .raw ['b']]
    let repeated : Element :=
      .tag ⟨"foreach".toList, [("collection".toList, "['1', '2']".toList)], [], some []⟩
        [.raw ['a'], branches, .raw ['c']]
    let r := Structured.nodes (Fragment.directives c i) false .verbatim {} false
      [repeated, .raw ['d']]
    r.1.segments = [.raw ['a'], .raw ['d']] ∧ r.2.1.get? "item".toList = some (.text ['1']) := by
  cbv

end EdgeIncludes
