import EdgeIncludes.Proofs.Branches
import EdgeIncludes.Proofs.Simulation

namespace EdgeIncludes

-- Two passes that differ in their functions and return values at most.
structure Pass.Agree (p q : Pass) : Prop where
  vars : p.context.vars = q.context.vars
  broken : p.context.broken = q.context.broken
  depth : p.depth = q.depth

namespace Pass.Agree

variable {p q : Pass}

theorem stopped_eq (h : p.Agree q) : p.stopped = q.stopped := by
  rw [stopped, stopped, h.depth, h.broken]

theorem bindItem (h : p.Agree q) (item v : Text) : (p.bindItem item v).Agree (q.bindItem item v) :=
  ⟨by simp only [Pass.bindItem, Context.set, h.vars], h.broken, h.depth⟩

theorem enterLoop (h : p.Agree q) : p.enterLoop.Agree q.enterLoop :=
  ⟨h.vars, rfl, congrArg (· + 1) h.depth⟩

theorem leaveLoop (h : p.Agree q) : p.leaveLoop.Agree q.leaveLoop :=
  ⟨h.vars, rfl, congrArg (· - 1) h.depth⟩

-- What one directive does keeps them together.
theorem react {α : Type} (h : p.Agree q) {r r' : Reaction α}
    (hr : Reaction.Alike p.context q.context r r') :
    Pass.Agree { p with context := r.context } { q with context := r'.context } :=
  ⟨hr.vars, hr.broken h.broken, h.depth⟩

end Pass.Agree

-- All that the directives read of a context are the variables.
def Directives.ReadVars {α : Type} (ds : Directives α) : Prop :=
  ∀ {name : Text} {d : Directive α}, ds.find? name = some d → ReadsVars d

theorem Pass.Agree.bisimilar : Bisimilar Pass.Agree where
  vars h := h.vars
  stopped h := h.stopped_eq
  react h hr := h.react hr

section Together

variable {α : Type} {ds : Directives α}

-- Both loops have the same number of rounds, since each round leaves the same break flag.
theorem iterate_agrees {body : Pass → Output α × Pass}
    (hb : ∀ {p q}, Pass.Agree p q → SameUpTo Pass.Agree (body p) (body q)) (item : Text)
    (vs : List Text) :
    ∀ {p q}, Pass.Agree p q →
      SameUpTo Pass.Agree (iterate body item vs p) (iterate body item vs q) := by
  induction vs with
  | nil => exact fun h => ⟨rfl, h⟩
  | cons v vs ih =>
    intro p q h
    rw [iterate, iterate, h.broken]
    split
    · exact ⟨rfl, h⟩
    · have hround := hb (h.bindItem item v)
      have hmore := ih hround.pass
      exact ⟨congrArg₂ (· ++ ·) hround.output hmore.output, hmore.pass⟩

mutual

theorem renderElement_agrees (hds : ds.ReadVars) (m : Mode) {p q : Pass} (h : p.Agree q)
    (taken : Bool) (e : Element) :
    NodeSameUpTo Pass.Agree (renderElement ds m p taken e) (renderElement ds m q taken e) := by
  match e with
  | .raw t => exact Pass.Agree.bisimilar.raw h taken t
  | .tag t children =>
    have hcontent : ∀ m {p q}, Pass.Agree p q →
        SameUpTo Pass.Agree (renderAll ds m p false children) (renderAll ds m q false children) :=
      fun m _ _ h => renderAll_agrees hds m h false children
    refine Pass.Agree.bisimilar.tag h taken hds (fun _ _ => hcontent _)
      fun {_ _ item values _} _ _ _ _ h => ?_
    have hloop := iterate_agrees (hcontent .substituted) item values h.enterLoop
    exact ⟨hloop.output, hloop.pass.leaveLoop⟩
termination_by structural e

theorem renderAll_agrees (hds : ds.ReadVars) (m : Mode) {p q : Pass} (h : p.Agree q)
    (taken : Bool) (es : List Element) :
    SameUpTo Pass.Agree (renderAll ds m p taken es) (renderAll ds m q taken es) := by
  match es with
  | [] => exact ⟨rfl, h⟩
  | e :: es =>
    exact Pass.Agree.bisimilar.cons h (renderElement_agrees hds m h taken e)
      fun h => renderAll_agrees hds m h _ es
termination_by structural es

end

theorem renderDocument_agrees (hds : ds.ReadVars) (ns t : Text) {p q : Pass} (h : p.Agree q) :
    SameUpTo Pass.Agree (renderDocument ds ns p t) (renderDocument ds ns q t) := by
  have hall := renderAll_agrees hds .verbatim h false (Markup.read ns t)
  exact ⟨by simp only [renderDocument, hall.output], hall.pass⟩

end Together

def returnName : Text := "return".toList

-- The elements that render what is in them. A function is none of them: its body is stored.
def shownNames : List Text :=
  ["vars".toList, "choose".toList, whenName, otherwiseName, "foreach".toList]

mutual

-- Whether an element that sets the return value stands where it can be rendered.
def Element.mayReturn : Element → Bool
  | .raw _ => false
  | .tag t children =>
    t.name = returnName || (decide (t.name ∈ shownNames) && anyMayReturn children)
termination_by structural e => e

def anyMayReturn : List Element → Bool
  | [] => false
  | e :: es => e.mayReturn || anyMayReturn es
termination_by structural es => es

end

-- The return value has one directive that sets it, and those that hide the children of their
-- elements are known by name.
structure Returns {α : Type} (ds : Directives α) : Prop where
  keeps {t : Tag} {d : Directive α} : ds.find? t.name = some d → t.name ≠ returnName →
    ∀ taken ctx, (d t taken ctx).context.returned = ctx.returned
  hides {t : Tag} {d : Directive α} : ds.find? t.name = some d → t.name ∉ shownNames →
    ∀ taken ctx v, (d t taken ctx).verdict = .ok v → v.action.shows = false

theorem anyMayReturn_eq_false_iff {es : List Element} :
    anyMayReturn es = false ↔ ∀ e ∈ es, e.mayReturn = false := by
  induction es with
  | nil => simp [anyMayReturn]
  | cons e es ih => rw [anyMayReturn, Bool.or_eq_false_iff, ih, List.forall_mem_cons]

theorem Element.mayReturn_tag_eq_false_iff {t : Tag} {children : List Element} :
    (Element.tag t children).mayReturn = false ↔
      t.name ≠ returnName ∧ (t.name ∉ shownNames ∨ anyMayReturn children = false) := by
  rw [Element.mayReturn, Bool.or_eq_false_iff, decide_eq_false_iff_not, Bool.and_eq_false_iff,
    decide_eq_false_iff_not]

theorem Returns.carries {α : Type} {ds : Directives α} (hds : Returns ds) :
    Carries ds (·.mayReturn = false) fun p q => q.context.returned = p.context.returned where
  refl _ := rfl
  trans h h' := h'.trans h
  bindItem _ _ _ := rfl
  leaveLoop h := h
  directive he hd taken p :=
    hds.keeps hd (Element.mayReturn_tag_eq_false_iff.1 he).1 taken p.context
  inside {t children d taken ctx v} he hd hv hs := by
    rcases (Element.mayReturn_tag_eq_false_iff.1 he).2 with hn | hc
    · simp [hds.hides hd hn taken ctx v hv] at hs
    · exact anyMayReturn_eq_false_iff.1 hc

namespace Standard

variable {α : Type}

theorem returned_directives :
    ∀ e ∈ (directives : Directives α).entries, e.1 ≠ returnName →
      ∀ t taken ctx, (e.2 t taken ctx).context.returned = ctx.returned := by
  refine forall_directives
    (P := fun n d =>
      n ≠ returnName → ∀ t taken ctx, (d t taken ctx).context.returned = ctx.returned)
    (fun _ t taken ctx => ?assign) (fun _ t taken ctx => ?vars) (fun _ t taken ctx => rfl)
    (fun _ t taken ctx => ?branch) (fun _ t taken ctx => ?otherwise)
    (fun _ t taken ctx => ?forEach) (fun _ t taken ctx => rfl) (fun _ t taken ctx => ?function)
    (fun hne => absurd rfl hne) (fun _ t taken ctx => rfl) fun _ _ t taken ctx => rfl
  case assign => unfold assign; split <;> rfl
  case vars => unfold vars; split <;> rfl
  case branch => unfold branch; split <;> rfl
  case otherwise => unfold otherwise; split <;> rfl
  case forEach => unfold forEach; split <;> rfl
  case function => unfold function; split <;> rfl

-- The reaction leaves the children of the element out.
def Hides (r : Reaction α) : Prop := ∀ v, r.verdict = .ok v → v.action.shows = false

theorem hides_ok {ctx : Context} {a : Action} {taken : Bool} {log : Log} (ha : a.shows = false) :
    Hides (Reaction.ok ctx a taken log : Reaction α) := by
  rintro v ⟨⟩
  exact ha

theorem hides_fail {ctx : Context} {f : Fault} : Hides (Reaction.fail ctx f : Reaction α) := nofun

theorem hides_directives :
    ∀ e ∈ (directives : Directives α).entries, e.1 ∉ shownNames →
      ∀ t taken ctx, Hides (e.2 t taken ctx) := by
  refine forall_directives (P := fun n d => n ∉ shownNames → ∀ t taken ctx, Hides (d t taken ctx))
    (fun _ t taken ctx => ?assign) (fun hn => absurd (by decide) hn)
    (fun hn => absurd (by decide) hn) (fun hn => absurd (by decide) hn)
    (fun hn => absurd (by decide) hn) (fun hn => absurd (by decide) hn)
    (fun _ t taken ctx => hides_ok rfl) (fun _ t taken ctx => ?function)
    (fun _ t taken ctx => ?answer) (fun _ t taken ctx => hides_ok rfl)
    fun _ _ t taken ctx => hides_ok rfl
  case assign => unfold assign; split <;> first | exact hides_fail | exact hides_ok rfl
  case function => unfold function; split <;> first | exact hides_fail | exact hides_ok rfl
  case answer =>
    simp only [answer]
    split
    · exact hides_fail
    · exact hides_ok rfl
    · exact hides_ok rfl

end Standard

theorem IsUsual.returns {ds : Directives Fragment} (h : IsUsual ds) : Returns ds where
  keeps := by
    intro t d hd hn taken ctx
    rcases h.entry hd with hm | ⟨c, i, rfl⟩
    · exact Standard.returned_directives _ hm hn t taken ctx
    · unfold Fragment.directive
      split <;> rfl
  hides := by
    intro t d hd hn taken ctx v hv
    rcases h.entry hd with hm | ⟨c, i, rfl⟩
    · exact Standard.hides_directives _ hm hn t taken ctx v hv
    · unfold Fragment.directive at hv
      split at hv <;> cases hv
      rfl

-- A document gives the same with the same variables and the same break flag, whatever has been
-- defined and returned before: the same segments, log and fetches, and the same variables and break
-- flag. A test changes nothing in the context: behind a branch stands what was in front of it or
-- what its content left. So nodes among which there is no element for a return value, except in the
-- bodies of functions and in other content that is not rendered, leave the return value as it was.
theorem functions_and_return_write_only (c : Config) (i : Inbound) (ns t : Text) (p q : Pass)
    (h : p.Agree q) :
    let ds := Fragment.directives c i
    SameUpTo Pass.Agree (renderDocument ds ns p t) (renderDocument ds ns q t) ∧
      (∀ m o taken tag children, tag.isBranch = true →
        (renderElement ds m o taken (.tag tag children)).2.1 =
          if !taken && tag.applies o.context then (renderAll ds m o false children).2 else o) ∧
      ∀ m o taken es, anyMayReturn es = false →
        (renderAll ds m o taken es).2.context.returned = o.context.returned := by
  intro ds
  have hds : IsUsual ds := .inr ⟨c, i, rfl⟩
  refine ⟨renderDocument_agrees hds.readsVars ns t h, ?_, fun m o taken es hes =>
    hds.returns.carries.renderAll m o taken es (anyMayReturn_eq_false_iff.1 hes)⟩
  intro m o taken tag children htag
  rw [renderElement_branch (chooses_directives c i) m o taken htag]
  split <;> rfl

-- A function whose body is an element for a return value, and a test that calls it.
theorem function_in_test_write_only :
    let i : Inbound := ⟨⟨⟨some "http".toList, "a.example".toList, "/".toList, none⟩, {}⟩,
      ⟨"http".toList, some { host? := some (.domain "a.example".toList) }, .segments [[]], none,
        none⟩, {}⟩
    let ds := Fragment.directives {} i
    let document :=
      "<x:return value='1'/><x:choose><x:when test='$f()'>a</x:when></x:choose>".toList
    let q : Pass :=
      ⟨{ functions := ⟨[(['f'], ⟨['f'], [], []⟩)]⟩, returned := some (.text ['r']) }, 0⟩
    let nodes : List Element :=
      [.tag ⟨"function".toList, [("name".toList, ['f'])], [], some []⟩
          [.tag ⟨returnName, [], [], none⟩ []],
        .tag ⟨whenName, [("test".toList, "$f()".toList)], [], some ['a']⟩ [.raw ['a']]]
    Pass.Agree {} q ∧ q ≠ {} ∧
      (renderDocument ds ['x'] {} document).1 = (renderDocument ds ['x'] q document).1 ∧
      anyMayReturn nodes = false ∧
      (renderAll ds .verbatim q false nodes).2.context.returned = some (.text ['r']) := by
  intro i ds document q nodes
  have h : Pass.Agree {} q := ⟨rfl, rfl, rfl⟩
  have hnodes : anyMayReturn nodes = false := by decide
  obtain ⟨hsame, -, hkept⟩ := functions_and_return_write_only {} i ['x'] document {} q h
  exact ⟨h, by decide, hsame.output, hnodes, hkept .verbatim q false nodes hnodes⟩

end EdgeIncludes
