import EdgeIncludes.Render.Standard
import Mathlib.Data.List.Forall2

namespace EdgeIncludes

variable {α : Type}

namespace Output

@[simp] theorem segments_append (a b : Output α) : (a ++ b).segments = a.segments ++ b.segments :=
  rfl

@[simp] theorem log_append (a b : Output α) : (a ++ b).log = a.log ++ b.log := rfl

@[simp] theorem fetches_append (a b : Output α) : (a ++ b).fetches = a.fetches ++ b.fetches := rfl

end Output

-- What a directive gives by itself, without the children of its element.
def Reaction.output (t : Tag) (r : Reaction α) : Output α :=
  match r.verdict with
  | .error f => { log := r.log ++ [.removed t.name f], fetches := r.fetches }
  | .ok v =>
    match v.action with
    | .keep => { segments := [.placeholder t], log := r.log, fetches := r.fetches }
    | .replace x => { segments := [.raw x], log := r.log, fetches := r.fetches }
    | _ => { log := r.log, fetches := r.fetches }

-- The pieces of a rendering have the property, and joining keeps it.
structure Gathers (ds : Directives α) (P : Output α → Prop) : Prop where
  empty : P {}
  append {a b : Output α} : P a → P b → P (a ++ b)
  text (t : Text) (log : Log) : P { segments := [.raw t], log := log }
  directive {t : Tag} {d : Directive α} :
    ds.find? t.name = some d → ∀ taken ctx, P ((d t taken ctx).output t)

namespace Gathers

variable {ds : Directives α} {P : Output α → Prop}

theorem iterate (h : Gathers ds P) {body : Pass → Output α × Pass} (hb : ∀ p, P (body p).1)
    (item : Text) (vs : List Text) (p : Pass) : P (iterate body item vs p).1 := by
  induction vs generalizing p with
  | nil => exact h.empty
  | cons v vs ih =>
    rw [EdgeIncludes.iterate]
    split
    · exact h.empty
    · exact h.append (hb _) (ih _)

mutual

theorem renderElement (h : Gathers ds P) (m : Mode) (p : Pass) (taken : Bool) (e : Element) :
    P (renderElement ds m p taken e).1 := by
  match e with
  | .raw t =>
    rw [EdgeIncludes.renderElement]
    exact h.text ..
  | .tag t children =>
    rw [EdgeIncludes.renderElement]
    split
    · exact h.text ..
    · rename_i d hd
      have ho := h.directive hd taken p.context
      unfold Reaction.output at ho
      rcases hv : (d t taken p.context).verdict with f | ⟨a, tk⟩
      · simp only [hv] at ho ⊢
        exact ho
      · cases a <;> simp only [hv] at ho ⊢
        case content own => exact h.append ho (renderAll h _ _ _ children)
        case loop item values =>
          exact h.append ho (h.iterate (fun p => renderAll h _ p _ children) ..)
        all_goals exact ho
termination_by structural e

theorem renderAll (h : Gathers ds P) (m : Mode) (p : Pass) (taken : Bool) (es : List Element) :
    P (renderAll ds m p taken es).1 := by
  match es with
  | [] => exact h.empty
  | e :: es =>
    rw [EdgeIncludes.renderAll]
    split
    · exact h.empty
    · exact h.append (renderElement h _ _ _ e) (renderAll h _ _ _ es)
termination_by structural es

end

end Gathers

namespace Segment

-- The elements that are left to be filled in, in order.
def placeholders : List Segment → List Tag
  | [] => []
  | raw _ :: ss => placeholders ss
  | placeholder t :: ss => t :: placeholders ss

theorem placeholders_append (as bs : List Segment) :
    placeholders (as ++ bs) = placeholders as ++ placeholders bs := by
  induction as with
  | nil => rfl
  | cons a as ih => cases a <;> simp [placeholders, ih]

theorem placeholders_consRaw (t : Text) (ss : List Segment) :
    placeholders (consRaw t ss) = placeholders ss := by
  unfold consRaw
  split
  · rfl
  · split <;> rfl

-- Merging touches text only.
theorem placeholders_merge (ss : List Segment) : placeholders (merge ss) = placeholders ss := by
  induction ss with
  | nil => rfl
  | cons s ss ih => cases s <;> simp [merge, placeholders, placeholders_consRaw, ih]

end Segment

open Segment in
-- The fetches go with the placeholders.
def Output.Paired (R : Tag → α → Prop) (out : Output α) : Prop :=
  List.Forall₂ R (placeholders out.segments) out.fetches

-- A directive asks for a fetch exactly when it keeps its element, and for one.
def Reaction.Pairs (R : Tag → α → Prop) (t : Tag) (r : Reaction α) : Prop :=
  match r.verdict with
  | .ok ⟨.keep, _⟩ => ∃ a, r.fetches = [a] ∧ R t a
  | _ => r.fetches = []

theorem Reaction.Pairs.output {R : Tag → α → Prop} {t : Tag} {r : Reaction α}
    (h : r.Pairs R t) : (r.output t).Paired R := by
  unfold Reaction.Pairs at h
  unfold Output.Paired Reaction.output
  rcases hv : r.verdict with f | ⟨a, taken⟩
  · simp only [hv] at h ⊢
    rw [h]
    exact .nil
  · cases a <;> simp only [hv] at h ⊢
    case keep =>
      obtain ⟨a, ha, hr⟩ := h
      rw [ha]
      exact .cons hr .nil
    all_goals
      rw [h]
      exact .nil

theorem Output.Paired.append {R : Tag → α → Prop} {a b : Output α} (ha : a.Paired R)
    (hb : b.Paired R) : (a ++ b).Paired R := by
  rw [Output.Paired, Output.segments_append, Output.fetches_append, Segment.placeholders_append]
  exact List.rel_append ha hb

theorem Directives.mem_of_find? {ds : Directives α} {name : Text} {d : Directive α}
    (h : ds.find? name = some d) : (name, d) ∈ ds.entries := by
  obtain ⟨e, he, rfl⟩ := Option.map_eq_some_iff.1 h
  have hn : e.1 = name := by simpa using List.find?_some he
  rw [← hn]
  exact List.mem_of_find?_eq_some he

-- When every directive pairs its fetches with its element, so does every rendering.
theorem gathers_paired {ds : Directives α} {R : Tag → α → Prop}
    (hd : ∀ e ∈ ds.entries, ∀ t taken ctx, t.name = e.1 → (e.2 t taken ctx).Pairs R t) :
    Gathers ds (Output.Paired R) where
  empty := .nil
  append := Output.Paired.append
  text _ _ := .nil
  directive := by
    intro t d hf taken ctx
    exact (hd _ (Directives.mem_of_find? hf) t taken ctx rfl).output

namespace Standard

-- A property of all standard directives, one by one. The names that are deleted have one directive.
theorem forall_directives {P : Text → Directive α → Prop} (hassign : P "assign".toList assign)
    (hvars : P "vars".toList vars) (hchoose : P "choose".toList choose)
    (hbranch : P "when".toList branch) (hotherwise : P "otherwise".toList otherwise)
    (hforEach : P "foreach".toList forEach) (hstop : P "break".toList stop)
    (hfunction : P "function".toList function) (hanswer : P "return".toList answer)
    (htext : P "text".toList text) (hdelete : ∀ n, P n delete) :
    ∀ e ∈ (directives : Directives α).entries, P e.1 e.2 := by
  simp only [directives, named, List.map_append, List.map_map, List.forall_mem_append,
    List.forall_mem_map, List.forall_mem_cons, List.not_mem_nil, false_implies, implies_true,
    and_true]
  exact ⟨⟨hassign, hvars, hchoose, hbranch, hotherwise, hforEach, hstop, hfunction, hanswer, htext⟩,
    fun n _ => hdelete n.toList⟩

-- A reaction without a fetch that does not keep the element.
theorem pairs_ok {R : Tag → α → Prop} {t : Tag} {ctx : Context} {a : Action} {taken : Bool}
    {log : Log} (ha : a ≠ .keep) : (Reaction.ok ctx a taken log : Reaction α).Pairs R t := by
  unfold Reaction.Pairs
  split
  · rename_i hv
    exact absurd (congrArg Verdict.action (Except.ok.inj hv)) ha
  · rfl

theorem pairs_fail {R : Tag → α → Prop} {t : Tag} {ctx : Context} {f : Fault} :
    (Reaction.fail ctx f : Reaction α).Pairs R t := rfl

-- No standard directive keeps its element or asks for a fetch.
theorem pairs_directives (R : Tag → α → Prop) :
    ∀ e ∈ (directives : Directives α).entries, ∀ t taken ctx, (e.2 t taken ctx).Pairs R t := by
  refine forall_directives (P := fun _ d => ∀ t taken ctx, (d t taken ctx).Pairs R t)
    (fun t taken ctx => ?assign) (fun t taken ctx => ?vars) (fun t taken ctx => ?choose)
    (fun t taken ctx => ?branch) (fun t taken ctx => ?otherwise) (fun t taken ctx => ?forEach)
    (fun t taken ctx => ?stop) (fun t taken ctx => ?function) (fun t taken ctx => ?answer)
    (fun t taken ctx => ?text) fun _ t taken ctx => ?delete
  case assign =>
    unfold assign
    split
    · exact pairs_fail
    · exact pairs_ok (by simp)
  case vars =>
    unfold vars
    split
    · exact pairs_ok (by simp)
    · exact pairs_ok (by split <;> simp)
  case branch => unfold branch; split <;> exact pairs_ok (by simp)
  case otherwise => unfold otherwise; split <;> exact pairs_ok (by simp)
  case forEach => unfold forEach; split <;> exact pairs_ok (by simp)
  case function =>
    unfold function
    split
    · exact pairs_fail
    · exact pairs_ok (by simp)
  case answer =>
    simp only [answer]
    split
    · exact pairs_fail
    · exact pairs_ok (by simp)
    · exact pairs_ok (by simp)
  all_goals exact pairs_ok (by simp)

end Standard
end EdgeIncludes
