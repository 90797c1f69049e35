import EdgeIncludes.Fragment.Include
import EdgeIncludes.Proofs.Rendering

namespace EdgeIncludes

section Texts

variable {ctx ctx' : Context}

theorem Context.get?_congr (h : ctx.vars = ctx'.vars) (name : Text) :
    ctx.get? name = ctx'.get? name := by
  rw [Context.get?, Context.get?, h]

theorem lookUp?_congr (h : ctx.vars = ctx'.vars) (base key : Text) :
    Reference.lookUp? ctx base key = Reference.lookUp? ctx' base key := by
  simp only [Reference.lookUp?, Context.get?_congr h]

open Reference in
mutual

theorem interpolate_congr (h : ctx.vars = ctx'.vars) (t : Text) :
    interpolate ctx t = interpolate ctx' t := by
  rw [interpolate, interpolate]
  split
  · rfl
  · rename_i a r hcut
    split
    · rfl
    · rename_i inside rest hc
      have h1 := Text.length_cut?_lt (List.cons_ne_nil _ _) hcut
      have h2 := length_closing? hc
      rw [render_congr h inside, interpolate_congr h rest]
termination_by (t.length, 0)
decreasing_by
  all_goals exact Prod.Lex.left _ _ (by omega)

theorem render_congr (h : ctx.vars = ctx'.vars) (inside : Text) :
    render ctx inside = render ctx' inside := by
  rw [render, render, resolve?_congr h (ofText inside).name]
  split
  · rfl
  · split
    · rename_i d hd
      have h1 := length_default?_lt hd
      rw [interpolate_congr h d]
    · rfl
termination_by (inside.length, 2)
decreasing_by
  · exact Prod.Lex.right' _ (length_name_le _) (by decide)
  · exact Prod.Lex.left _ _ h1

theorem resolve?_congr (h : ctx.vars = ctx'.vars) (name : Text) :
    resolve? ctx name = resolve? ctx' name := by
  rw [resolve?, resolve?]
  split
  · rw [Context.get?_congr h]
  · rename_i base key hs
    have h1 := length_subscript?_lt hs
    rw [lookUp?_congr h, interpolate_congr h key]
termination_by (name.length, 1)
decreasing_by exact Prod.Lex.left _ _ h1

end

variable (h : ctx.vars = ctx'.vars)

include h

theorem substitute_congr (t : Text) : substitute ctx t = substitute ctx' t := by
  rw [substitute, substitute]
  split
  · rfl
  · rename_i a r hcut
    split
    · rfl
    · rename_i name rest hc
      have h1 := Text.length_cut?_lt (List.cons_ne_nil _ _) hcut
      have h2 := Text.length_cut?_lt (List.cons_ne_nil _ _) hc
      rw [substitute_congr r, substitute_congr rest, Context.get?_congr h]
termination_by t.length
decreasing_by all_goals omega

theorem Expr.eval_congr (e : Expr) : e.eval ctx = e.eval ctx' := by
  have hterm : Term.eval ctx = Term.eval ctx' := by
    funext t
    cases t <;> simp only [Term.eval, substitute_congr h]
  cases e <;> simp only [Expr.eval, hterm]

theorem testHolds_congr (t : Text) : testHolds ctx t = testHolds ctx' t := by
  have hc : conditionHolds ctx = conditionHolds ctx' := by
    funext t
    unfold conditionHolds
    cases Condition.ofText t <;> simp only [Condition.holds, resolve?_congr h]
  rw [testHolds, testHolds, hc]

theorem itemsOf_congr (t : Text) : itemsOf ctx t = itemsOf ctx' t := by
  unfold itemsOf
  cases Collection.ofText t <;> simp only [Collection.items, Context.get?_congr h]

theorem arguments_congr (t : Text) : arguments ctx t = arguments ctx' t := by
  have ha : argument ctx = argument ctx' := by
    funext t
    simp only [argument, interpolate_congr h]
  rw [arguments, arguments, ha]

theorem call?_congr (t : Text) : call? ctx t = call? ctx' t := by
  simp only [call?, arguments_congr h]

theorem substituteCalls_congr (t : Text) : substituteCalls ctx t = substituteCalls ctx' t := by
  rw [substituteCalls, substituteCalls]
  split
  · rfl
  · rename_i c hcall
    split
    · rfl
    · rename_i args rest hc
      have h1 := length_findCall?_lt hcall
      have h2 := length_closing? hc
      rw [substituteCalls_congr rest, arguments_congr h]
termination_by t.length
decreasing_by omega

theorem expand_congr (t : Text) : expand ctx t = expand ctx' t := by
  simp only [expand, substituteCalls_congr h, interpolate_congr h]

theorem Mode.apply_congr (m : Mode) (t : Text) : m.apply ctx t = m.apply ctx' t := by
  cases m <;> simp only [Mode.apply, substitute_congr h, expand_congr h]

end Texts

-- Two reactions to contexts with the same variables. They are the same in all that they give, and
-- they leave the same in every part in which the contexts were the same.
structure Reaction.Alike {α : Type} (ctx ctx' : Context) (r r' : Reaction α) : Prop where
  verdict : r.verdict = r'.verdict
  log : r.log = r'.log
  fetches : r.fetches = r'.fetches
  vars : r.context.vars = r'.context.vars
  functions : ctx.functions = ctx'.functions → r.context.functions = r'.context.functions
  broken : ctx.broken = ctx'.broken → r.context.broken = r'.context.broken
  returned : ctx.returned = ctx'.returned → r.context.returned = r'.context.returned

theorem Reaction.Alike.output {α : Type} {ctx ctx' : Context} {r r' : Reaction α}
    (h : Reaction.Alike ctx ctx' r r') (t : Tag) : r.output t = r'.output t := by
  unfold Reaction.output
  rw [h.verdict, h.log, h.fetches]

-- All that the directive reads of a context are the variables.
def ReadsVars {α : Type} (d : Directive α) : Prop :=
  ∀ t taken ctx ctx', ctx.vars = ctx'.vars →
    Reaction.Alike ctx ctx' (d t taken ctx) (d t taken ctx')

namespace Standard

variable {α : Type} {ctx ctx' : Context}

-- Reactions that leave the context as it is.
theorem alike_ok (h : ctx.vars = ctx'.vars) (a : Action) (taken : Bool) (log : Log) :
    Reaction.Alike (α := α) ctx ctx' (.ok ctx a taken log) (.ok ctx' a taken log) :=
  ⟨rfl, rfl, rfl, h, id, id, id⟩

theorem alike_fail (h : ctx.vars = ctx'.vars) (f : Fault) :
    Reaction.Alike (α := α) ctx ctx' (.fail ctx f) (.fail ctx' f) :=
  ⟨rfl, rfl, rfl, h, id, id, id⟩

theorem readsVars_directives :
    ∀ e ∈ (directives : Directives α).entries, ReadsVars e.2 := by
  refine forall_directives (P := fun _ d => ReadsVars d) (fun t taken ctx ctx' h => ?assign)
    (fun t taken ctx ctx' h => ?vars) (fun t taken ctx ctx' h => alike_ok h ..)
    (fun t taken ctx ctx' h => ?branch) (fun t taken ctx ctx' h => ?otherwise)
    (fun t taken ctx ctx' h => ?forEach) (fun t taken ctx ctx' h => ?stop)
    (fun t taken ctx ctx' h => ?function) (fun t taken ctx ctx' h => ?answer)
    (fun t taken ctx ctx' h => alike_ok h ..) fun _ t taken ctx ctx' h => alike_ok h ..
  case assign =>
    unfold assign
    split
    · exact alike_fail h _
    · exact ⟨rfl, rfl, rfl, by simp only [Reaction.ok, Context.set, Expr.eval_congr h, h], id, id,
        id⟩
  case vars =>
    unfold vars
    split
    · simp only [expand_congr h]
      exact alike_ok h ..
    · exact alike_ok h ..
  case branch =>
    unfold branch
    rw [testHolds_congr h]
    split <;> exact alike_ok h ..
  case otherwise => unfold otherwise; split <;> exact alike_ok h ..
  case forEach =>
    unfold forEach
    rw [itemsOf_congr h]
    split <;> exact alike_ok h ..
  case stop => exact ⟨rfl, rfl, rfl, h, id, fun _ => rfl, id⟩
  case function =>
    unfold function
    split
    · exact alike_fail h _
    · exact ⟨rfl, rfl, rfl, h, fun hf => by simp only [Reaction.ok, Context.define, hf], id, id⟩
  case answer =>
    simp only [answer, call?_congr h, substitute_congr h]
    split
    · exact alike_fail h _
    · exact ⟨rfl, rfl, rfl, h, id, id, fun _ => rfl⟩
    · exact ⟨rfl, rfl, rfl, h, id, id, fun _ => rfl⟩

end Standard

theorem Fragment.readsVars_directive (c : Config) (i : Inbound) : ReadsVars (directive c i) := by
  intro t taken ctx ctx' h
  unfold directive
  split
  · exact Standard.alike_fail h _
  · exact ⟨rfl, rfl, rfl, h, id, id, id⟩

-- The directives of documents: the standard ones, with or without the one for fragments.
def IsUsual (ds : Directives Fragment) : Prop :=
  ds = Standard.directives ∨ ∃ c i, ds = Fragment.directives c i

theorem IsUsual.entry {ds : Directives Fragment} (h : IsUsual ds) {name : Text}
    {d : Directive Fragment} (hd : ds.find? name = some d) :
    (name, d) ∈ (Standard.directives : Directives Fragment).entries ∨
      ∃ c i, d = Fragment.directive c i := by
  have hm := Directives.mem_of_find? hd
  rcases h with rfl | ⟨c, i, rfl⟩
  · exact .inl hm
  · exact (List.mem_cons.1 hm).symm.imp_right fun he => ⟨c, i, congrArg (·.2) he⟩

theorem IsUsual.readsVars {ds : Directives Fragment} (h : IsUsual ds) {name : Text}
    {d : Directive Fragment} (hd : ds.find? name = some d) : ReadsVars d := by
  rcases h.entry hd with hm | ⟨c, i, rfl⟩
  · exact Standard.readsVars_directives _ hm
  · exact Fragment.readsVars_directive c i

end EdgeIncludes
