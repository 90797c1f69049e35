import EdgeIncludes.Proofs.Reading
import EdgeIncludes.Proofs.Structured

namespace EdgeIncludes

-- The content of a loop for one value after the other.
def runLoop {α : Type} (ds : Directives α) (item : Text) (values : List Text)
    (children : List Element) (p : Pass) : Output α × Pass :=
  let (out, p) :=
    iterate (fun p => renderAll ds .substituted p false children) item values p.enterLoop
  (out, p.leaveLoop)

-- Whether the children of the element are rendered.
def Action.shows : Action → Bool
  | .content _ => true
  | .loop _ _ => true
  | _ => false

-- What holds between the pass in front of admitted nodes and the pass behind them. Directives and
-- loops bring it about, and the children that they show are admitted.
structure Carries {α : Type} (ds : Directives α) (Ok : Element → Prop) (K : Pass → Pass → Prop) :
    Prop where
  refl (p : Pass) : K p p
  trans {p q r : Pass} : K p q → K q r → K p r
  bindItem (p : Pass) (item v : Text) : K p (p.bindItem item v)
  leaveLoop {p q : Pass} : K p.enterLoop q → K p q.leaveLoop
  directive {t : Tag} {children : List Element} {d : Directive α} : Ok (.tag t children) →
    ds.find? t.name = some d → ∀ taken (p : Pass),
      K p { p with context := (d t taken p.context).context }
  inside {t : Tag} {children : List Element} {d : Directive α} {taken : Bool} {ctx : Context}
    {v : Verdict} : Ok (.tag t children) → ds.find? t.name = some d →
    (d t taken ctx).verdict = .ok v → v.action.shows = true → ∀ e ∈ children, Ok e

namespace Carries

variable {α : Type} {ds : Directives α} {Ok : Element → Prop} {K : Pass → Pass → Prop}

theorem iterate (h : Carries ds Ok K) {body : Pass → Output α × Pass} (hb : ∀ p, K p (body p).2)
    (item : Text) (vs : List Text) (p : Pass) : K p (iterate body item vs p).2 := by
  induction vs generalizing p with
  | nil => exact h.refl p
  | cons v vs ih =>
    rw [EdgeIncludes.iterate]
    split
    · exact h.refl p
    · exact h.trans (h.bindItem p item v) (h.trans (hb _) (ih _))

mutual

theorem renderElement (h : Carries ds Ok K) (m : Mode) (p : Pass) (taken : Bool) (e : Element)
    (he : Ok e) : K p (renderElement ds m p taken e).2.1 := by
  match e with
  | .raw t => exact h.refl p
  | .tag t children =>
    rcases hd : ds.find? t.name with _ | d
    · simp only [EdgeIncludes.renderElement, hd]
      exact h.refl p
    · have hstep := h.directive he hd taken p
      have hinside : ∀ v, (d t taken p.context).verdict = .ok v → v.action.shows = true →
          ∀ e ∈ children, Ok e := fun _ hv => h.inside he hd hv
      rw [renderElement_of_find? hd]
      generalize d t taken p.context = r at hstep hinside
      obtain ⟨ctx, f | ⟨a, tk⟩, log, fetches⟩ := r
      · exact hstep
      · cases a with
        | content own =>
          exact h.trans hstep (renderAll h (own.getD m) _ false children (hinside _ rfl rfl))
        | loop item values =>
          have hbody := fun p => renderAll h .substituted p false children (hinside _ rfl rfl)
          exact h.trans hstep (h.leaveLoop (h.iterate hbody item values _))
        | keep => exact hstep
        | remove => exact hstep
        | replace x => exact hstep
termination_by structural e

theorem renderAll (h : Carries ds Ok K) (m : Mode) (p : Pass) (taken : Bool) (es : List Element)
    (hes : ∀ e ∈ es, Ok e) : K p (renderAll ds m p taken es).2 := by
  match es with
  | [] => exact h.refl p
  | e :: es =>
    obtain ⟨he, hes⟩ := List.forall_mem_cons.1 hes
    rw [EdgeIncludes.renderAll]
    split
    · exact h.refl p
    · exact h.trans (renderElement h m p taken e he) (renderAll h m _ _ es hes)
termination_by structural es

end

theorem runLoop (h : Carries ds Ok K) (item : Text) (values : List Text) {children : List Element}
    (hes : ∀ e ∈ children, Ok e) (p : Pass) : K p (runLoop ds item values children p).2 :=
  h.leaveLoop (h.iterate (fun p => h.renderAll .substituted p false children hes) item values _)

end Carries

section Related

variable {α : Type} {R : Pass → Pass → Prop}

-- Two renderings that give the same and leave passes that are related.
structure SameUpTo (R : Pass → Pass → Prop) (r r' : Output α × Pass) : Prop where
  output : r.1 = r'.1
  pass : R r.2 r'.2

-- The same for one node, which also says whether a branch has been taken.
structure NodeSameUpTo (R : Pass → Pass → Prop) (r r' : Output α × Pass × Bool) : Prop where
  output : r.1 = r'.1
  pass : R r.2.1 r'.2.1
  taken : r.2.2 = r'.2.2

theorem SameUpTo.node {r r' : Output α × Pass} (h : SameUpTo R r r') (out : Output α)
    (taken : Bool) : NodeSameUpTo R (out ++ r.1, r.2, taken) (out ++ r'.1, r'.2, taken) :=
  ⟨congrArg (out ++ ·) h.output, h.pass, rfl⟩

end Related

-- Passes that are related have the same variables and stop alike, and directives that read the
-- variables alone leave them related.
structure Bisimilar (R : Pass → Pass → Prop) : Prop where
  vars {p q : Pass} : R p q → p.context.vars = q.context.vars
  stopped {p q : Pass} : R p q → p.stopped = q.stopped
  react {α : Type} {p q : Pass} {r r' : Reaction α} : R p q →
    Reaction.Alike p.context q.context r r' →
    R { p with context := r.context } { q with context := r'.context }

namespace Bisimilar

variable {α : Type} {ds : Directives α} {R : Pass → Pass → Prop} {m : Mode} {p q : Pass}

theorem raw (hR : Bisimilar R) (h : R p q) (taken : Bool) (t : Text) :
    NodeSameUpTo R (renderElement ds m p taken (.raw t)) (renderElement ds m q taken (.raw t)) := by
  rw [renderElement, renderElement, Mode.apply_congr (hR.vars h)]
  exact ⟨rfl, h, rfl⟩

-- Siblings are rendered alike when the first node is, and what stands behind it.
theorem cons (hR : Bisimilar R) (h : R p q) {taken : Bool} {e e' : Element}
    {es es' : List Element}
    (hnode : NodeSameUpTo R (renderElement ds m p taken e) (renderElement ds m q taken e'))
    (hrest : ∀ {p q taken}, R p q →
      SameUpTo R (renderAll ds m p taken es) (renderAll ds m q taken es')) :
    SameUpTo R (renderAll ds m p taken (e :: es)) (renderAll ds m q taken (e' :: es')) := by
  rw [renderAll, renderAll, hR.stopped h]
  split
  · exact ⟨rfl, h⟩
  · have hmore : SameUpTo R (renderAll ds m _ (renderElement ds m p taken e).2.2 es) _ :=
      hrest hnode.pass
    rw [hnode.taken] at hmore
    dsimp only
    rw [hnode.output, hnode.taken]
    exact ⟨congrArg (_ ++ ·) hmore.output, hmore.pass⟩

-- An element is rendered alike when what it does with its content is alike.
theorem tag (hR : Bisimilar R) (h : R p q) (taken : Bool) {t : Tag}
    {children children' : List Element}
    (hreads : ∀ {d}, ds.find? t.name = some d → ReadsVars d)
    (hcontent : ∀ {d ctx own tk}, ds.find? t.name = some d →
      (d t taken ctx).verdict = .ok ⟨.content own, tk⟩ → ∀ {m p q}, R p q →
        SameUpTo R (renderAll ds m p false children) (renderAll ds m q false children'))
    (hloop : ∀ {d ctx item values tk}, ds.find? t.name = some d →
      (d t taken ctx).verdict = .ok ⟨.loop item values, tk⟩ → ∀ {p q}, R p q →
        SameUpTo R (runLoop ds item values children p) (runLoop ds item values children' q)) :
    NodeSameUpTo R (renderElement ds m p taken (.tag t children))
      (renderElement ds m q taken (.tag t children')) := by
  rcases hd : ds.find? t.name with _ | d
  · simp only [renderElement, hd]
    exact ⟨rfl, h, rfl⟩
  · have hr := hreads hd t taken p.context q.context (hR.vars h)
    have hpass := hR.react h hr
    rw [renderElement_of_find? hd, renderElement_of_find? hd]
    dsimp only
    rw [← hr.output t, ← hr.verdict]
    rcases hv : (d t taken p.context).verdict with f | ⟨a, tk⟩
    · exact ⟨rfl, hpass, rfl⟩
    · cases a with
      | content own => exact (hcontent hd hv hpass).node _ tk
      | loop item values => exact (hloop hd hv hpass).node _ tk
      | keep => exact ⟨rfl, hpass, rfl⟩
      | remove => exact ⟨rfl, hpass, rfl⟩
      | replace x => exact ⟨rfl, hpass, rfl⟩

end Bisimilar
end EdgeIncludes
