import EdgeIncludes.Proofs.Element
import EdgeIncludes.Proofs.Printing
import EdgeIncludes.Proofs.Simulation

namespace EdgeIncludes

def loopName : Text := "foreach".toList

-- The nodes with some of their breaks deleted, at any depth, but none in a loop.
inductive Pruned : List Element → List Element → Prop where
  | nil : Pruned [] []
  | raw {t : Text} {es es' : List Element} : Pruned es es' → Pruned (.raw t :: es) (.raw t :: es')
  | drop {t : Tag} {children es es' : List Element} :
    t.name = Structured.breakName → Pruned es es' → Pruned (.tag t children :: es) es'
  | loop {t : Tag} {children es es' : List Element} :
    t.name = loopName → Pruned es es' → Pruned (.tag t children :: es) (.tag t children :: es')
  | inside {t : Tag} {children children' es es' : List Element} :
    t.name ≠ loopName → Pruned children children' → Pruned es es' →
    Pruned (.tag t children :: es) (.tag t children' :: es')

mutual

theorem Pruned.refl_cons (e : Element) {es : List Element} (h : Pruned es es) :
    Pruned (e :: es) (e :: es) := by
  match e with
  | .raw t => exact .raw h
  | .tag t children =>
    by_cases ht : t.name = loopName
    · exact .loop ht h
    · exact .inside ht (Pruned.refl children) h
termination_by structural e

theorem Pruned.refl (es : List Element) : Pruned es es := by
  match es with
  | [] => exact .nil
  | e :: es => exact Pruned.refl_cons e (Pruned.refl es)
termination_by structural es

end

-- Two passes outside of loops that differ in the break flag at most.
structure Pass.Alike (p q : Pass) : Prop where
  vars : p.context.vars = q.context.vars
  functions : p.context.functions = q.context.functions
  returned : p.context.returned = q.context.returned
  outside : p.depth = 0
  outside' : q.depth = 0

namespace Pass.Alike

variable {p q : Pass}

theorem not_stopped (h : p.Alike q) : p.stopped = false := by
  simp [stopped, h.outside]

theorem symm (h : p.Alike q) : q.Alike p :=
  ⟨h.vars.symm, h.functions.symm, h.returned.symm, h.outside', h.outside⟩

-- A loop starts in the same way from both.
theorem enterLoop_eq (h : p.Alike q) : p.enterLoop = q.enterLoop := by
  obtain ⟨⟨vars, functions, broken, returned⟩, depth⟩ := p
  obtain ⟨⟨vars', functions', broken', returned'⟩, depth'⟩ := q
  obtain ⟨rfl, rfl, rfl, rfl, rfl⟩ := h
  rfl

theorem setBroken (h : p.Alike q) (b : Bool) : (p.setBroken b).Alike q := ⟨h.1, h.2, h.3, h.4, h.5⟩

-- What one directive does keeps them alike.
theorem react {α : Type} (h : p.Alike q) {r r' : Reaction α}
    (hr : Reaction.Alike p.context q.context r r') :
    Pass.Alike { p with context := r.context } { q with context := r'.context } :=
  ⟨hr.vars, hr.functions h.functions, hr.returned h.returned, h.outside, h.outside'⟩

end Pass.Alike

-- Behind a node as many loops are being run as in front of it.
theorem carries_depth {α : Type} (ds : Directives α) :
    Carries ds (fun _ => True) fun p q => q.depth = p.depth where
  refl _ := rfl
  trans h h' := h'.trans h
  bindItem _ _ _ := rfl
  leaveLoop h := congrArg (· - 1) h
  directive _ _ _ _ := rfl
  inside _ _ _ _ _ _ := trivial

-- What has to hold of directives so that breaks outside of loops do not matter.
structure Forgets {α : Type} (ds : Directives α) : Prop where
  stop : ds.find? Structured.breakName = some Standard.stop
  reads {name : Text} {d : Directive α} : ds.find? name = some d → ReadsVars d
  loop : ds.find? loopName = some Standard.forEach
  -- There is no other kind of loop.
  loops {t : Tag} {d : Directive α} {taken : Bool} {ctx : Context} {item : Text}
    {values : List Text} {tk : Bool} : ds.find? t.name = some d →
    (d t taken ctx).verdict = .ok ⟨.loop item values, tk⟩ → t.name = loopName

-- A loop runs its content and does not just stand for it.
theorem Forgets.not_loop {α : Type} {ds : Directives α} (hds : Forgets ds) {t : Tag}
    {d : Directive α} {taken : Bool} {ctx : Context} {own : Option Mode} {tk : Bool}
    (hd : ds.find? t.name = some d) (hv : (d t taken ctx).verdict = .ok ⟨.content own, tk⟩) :
    t.name ≠ loopName := by
  intro ht
  rw [ht, hds.loop] at hd
  cases hd
  rw [Standard.forEach] at hv
  split at hv <;> cases hv

theorem Pass.Alike.bisimilar : Bisimilar Pass.Alike where
  vars h := h.vars
  stopped h := h.not_stopped.trans h.symm.not_stopped.symm
  react h hr := h.react hr

section Deletion

variable {α : Type} {ds : Directives α} {m : Mode} {p q : Pass}

-- A loop runs the same from both, since it forgets what was noted.
theorem Pass.Alike.runLoop (h : p.Alike q) (item : Text) (values : List Text)
    (children : List Element) :
    SameUpTo Pass.Alike (runLoop ds item values children p)
      (EdgeIncludes.runLoop ds item values children q) := by
  have hdepth : (EdgeIncludes.runLoop ds item values children q).2.depth = 0 :=
    ((carries_depth ds).runLoop item values (fun _ _ => trivial) q).trans h.outside'
  rw [EdgeIncludes.runLoop, h.enterLoop_eq]
  exact ⟨rfl, rfl, rfl, rfl, hdepth, hdepth⟩

-- Outside of loops a break does nothing but set the flag.
theorem renderAll_break (hds : Forgets ds) (h : p.Alike q) (taken : Bool) {t : Tag}
    (ht : t.name = Structured.breakName) (children es : List Element) :
    ∃ p', Pass.Alike p' q ∧
      renderAll ds m p taken (.tag t children :: es) = renderAll ds m p' taken es := by
  refine ⟨p.setBroken true, h.setBroken true, ?_⟩
  have hstop := hds.stop
  rw [← ht] at hstop
  rw [renderAll, h.not_stopped, if_neg Bool.false_ne_true, renderElement_of_find? hstop]
  rfl

theorem renderAll_pruned (hds : Forgets ds) {es es' : List Element} (hes : Pruned es es') :
    ∀ {m p q taken}, Pass.Alike p q →
      SameUpTo Pass.Alike (renderAll ds m p taken es) (renderAll ds m q taken es') := by
  induction hes with
  | nil => exact fun h => ⟨rfl, h⟩
  | raw _ ih => exact fun h => Pass.Alike.bisimilar.cons h (Pass.Alike.bisimilar.raw h _ _) ih
  | drop ht _ ih =>
    intro m p q taken h
    obtain ⟨p', h', heq⟩ := renderAll_break hds h taken ht _ _
    rw [heq]
    exact ih h'
  | @loop t children _ _ ht _ ih =>
    intro m p q taken h
    have hnode : NodeSameUpTo Pass.Alike (renderElement ds m p taken (.tag t children)) _ :=
      Pass.Alike.bisimilar.tag h taken hds.reads (fun hd hv => absurd ht (hds.not_loop hd hv))
        fun _ _ _ _ h => h.runLoop _ _ children
    exact Pass.Alike.bisimilar.cons h hnode ih
  | @inside t children children' _ _ ht _ _ ihinner ih =>
    intro m p q taken h
    have hnode : NodeSameUpTo Pass.Alike (renderElement ds m p taken (.tag t children))
        (renderElement ds m q taken (.tag t children')) :=
      Pass.Alike.bisimilar.tag h taken hds.reads (fun _ _ _ _ _ h => ihinner h)
        fun hd hv => absurd (hds.loops hd hv) ht
    exact Pass.Alike.bisimilar.cons h hnode ih

end Deletion

-- Renders a document that has been read.
def renderNodes {α : Type} (ds : Directives α) (p : Pass) (es : List Element) : Output α × Pass :=
  let (out, p) := renderAll ds .verbatim p false es
  ({ out with segments := Segment.merge out.segments }, p)

theorem renderDocument_eq_renderNodes {α : Type} (ds : Directives α) (ns : Text) (p : Pass)
    (t : Text) : renderDocument ds ns p t = renderNodes ds p (Markup.read ns t) := rfl

-- Renders one thing after the other with the same context. With what each of them gives goes what
-- is carried along behind it.
def renderEach {α δ : Type} (render : Pass → δ → Output α × Pass) :
    Pass → List δ → List (Output α × Pass)
  | _, [] => []
  | p, d :: ds => render p d :: renderEach render (render p d).2 ds

theorem renderEach_document {α : Type} (ds : Directives α) (ns : Text) (p : Pass)
    (texts : List Text) :
    renderEach (renderDocument ds ns) p texts =
      renderEach (renderNodes ds) p (texts.map (Markup.read ns)) := by
  induction texts generalizing p with
  | nil => rfl
  | cons t texts ih => rw [renderEach, ih, List.map_cons, renderEach, renderDocument_eq_renderNodes]

theorem renderNodes_pruned {α : Type} {ds : Directives α} (hds : Forgets ds) {p q : Pass}
    (h : p.Alike q) {es es' : List Element} (hes : Pruned es es') :
    SameUpTo Pass.Alike (renderNodes ds p es) (renderNodes ds q es') := by
  have hm : SameUpTo Pass.Alike (renderAll ds .verbatim p false es) _ :=
    renderAll_pruned hds hes h
  exact ⟨by simp only [renderNodes, hm.output], hm.pass⟩

theorem renderEach_pruned {α : Type} {ds : Directives α} (hds : Forgets ds) {p q : Pass}
    (h : p.Alike q) {docs docs' : List (List Element)} (hdocs : List.Forall₂ Pruned docs docs') :
    List.Forall₂ (SameUpTo Pass.Alike) (renderEach (renderNodes ds) p docs)
      (renderEach (renderNodes ds) q docs') := by
  induction hdocs generalizing p q with
  | nil => exact .nil
  | cons hes _ ih =>
    have hm := renderNodes_pruned hds h hes
    exact .cons hm (ih hm.pass)

namespace Standard

variable {α : Type}

-- The reaction is not that of a loop.
def Straight (r : Reaction α) : Prop := ∀ item values tk, r.verdict ≠ .ok ⟨.loop item values, tk⟩

theorem straight_ok {ctx : Context} {a : Action} {taken : Bool} {log : Log}
    (ha : ∀ item values, a ≠ .loop item values) :
    Straight (Reaction.ok ctx a taken log : Reaction α) :=
  fun item values _ h => ha item values (congrArg Verdict.action (Except.ok.inj h))

theorem straight_fail {ctx : Context} {f : Fault} :
    Straight (Reaction.fail ctx f : Reaction α) := fun _ _ _ h => by cases h

theorem straight_directives :
    ∀ e ∈ (directives : Directives α).entries, e.1 ≠ loopName →
      ∀ t taken ctx, Straight (e.2 t taken ctx) := by
  refine forall_directives (P := fun n d => n ≠ loopName → ∀ t taken ctx, Straight (d t taken ctx))
    (fun _ t taken ctx => ?assign) (fun _ t taken ctx => ?vars)
    (fun _ t taken ctx => straight_ok (by simp)) (fun _ t taken ctx => ?branch)
    (fun _ t taken ctx => ?otherwise) (fun hne => absurd rfl hne)
    (fun _ t taken ctx => straight_ok (by simp)) (fun _ t taken ctx => ?function)
    (fun _ t taken ctx => ?answer) (fun _ t taken ctx => straight_ok (by simp))
    fun _ _ t taken ctx => straight_ok (by simp)
  case assign =>
    unfold assign
    split
    · exact straight_fail
    · exact straight_ok (by simp)
  case vars =>
    unfold vars
    split
    · exact straight_ok (by simp)
    · exact straight_ok (by split <;> simp)
  case branch => unfold branch; split <;> exact straight_ok (by simp)
  case otherwise => unfold otherwise; split <;> exact straight_ok (by simp)
  case function =>
    unfold function
    split
    · exact straight_fail
    · exact straight_ok (by simp)
  case answer =>
    simp only [answer]
    split
    · exact straight_fail
    · exact straight_ok (by simp)
    · exact straight_ok (by simp)

end Standard

theorem IsUsual.forgets {ds : Directives Fragment} (h : IsUsual ds) : Forgets ds where
  stop := by rcases h with rfl | ⟨c, i, rfl⟩ <;> rfl
  loop := by rcases h with rfl | ⟨c, i, rfl⟩ <;> rfl
  reads := h.readsVars
  loops := by
    intro t d taken ctx item values tk hd hv
    by_contra hne
    rcases h.entry hd with hm | ⟨c, i, rfl⟩
    · exact Standard.straight_directives _ hm hne t taken ctx item values tk hv
    · unfold Fragment.directive at hv
      split at hv <;> cases hv

-- Documents are rendered one after the other with the same context. No loop is being run between
-- them, and whether a break was noted before the first of them does not matter to any: all that
-- they give and all else in the context is the same. Nor does it matter when breaks outside of
-- loops are deleted from them.
theorem stray_breaks_do_not_matter {ds : Directives Fragment} (hds : IsUsual ds) (ns : Text)
    (ctx : Context) (b : Bool) (texts : List Text) {forests : List (List Element)}
    (hf : List.Forall₂ Pruned (texts.map (Markup.read ns)) forests) :
    let rendered := renderEach (renderDocument ds ns) ⟨ctx, 0⟩ texts
    let noted : Pass := ⟨{ ctx with broken := b }, 0⟩
    List.Forall₂ (SameUpTo Pass.Alike) rendered (renderEach (renderDocument ds ns) noted texts) ∧
      List.Forall₂ (SameUpTo Pass.Alike) rendered (renderEach (renderNodes ds) noted forests) := by
  intro rendered noted
  have halike : Pass.Alike ⟨ctx, 0⟩ noted := ⟨rfl, rfl, rfl, rfl, rfl⟩
  have hsame : List.Forall₂ Pruned (texts.map (Markup.read ns)) (texts.map (Markup.read ns)) :=
    List.forall₂_same.2 fun es _ => Pruned.refl es
  simp only [rendered, renderEach_document]
  exact ⟨renderEach_pruned hds.forgets halike hsame, renderEach_pruned hds.forgets halike hf⟩

-- A document that is a break, and behind it one that is a loop. The loop has all of its rounds,
-- also when a break was noted before both. The stray break can be deleted.
theorem stray_break_before_document :
    let stray : Element := .tag ⟨Structured.breakName, [], [], none⟩ []
    let repeated : Element :=
      .tag ⟨loopName, [("collection".toList, "['1', '2']".toList)], [], some "[$(item)]".toList⟩
        [.raw "[$(item)]".toList]
    let texts := ["<x:break/>".toList,
      "<x:foreach collection=\"['1', '2']\">[$(item)]</x:foreach>".toList]
    let forests := [[], Markup.printedAll ['x'] [repeated]]
    let ds : Directives Fragment := Standard.directives
    let rendered := renderEach (renderDocument ds ['x']) {} texts
    let noted : Pass := ⟨{ broken := true }, 0⟩
    texts.map (Markup.read ['x']) = [Markup.printedAll ['x'] [stray], forests[1]] ∧
      List.Forall₂ (SameUpTo Pass.Alike) rendered
        (renderEach (renderDocument ds ['x']) noted texts) ∧
      List.Forall₂ (SameUpTo Pass.Alike) rendered (renderEach (renderNodes ds) noted forests) ∧
      (renderEach (renderNodes ds) noted forests).map (fun r => r.1.segments) =
        [[], [.raw "[1][2]".toList]] := by
  intro stray repeated texts forests ds rendered noted
  have hread : ∀ e, (∀ e' ∈ [e], Markup.Printable ['x'] e') →
      Markup.read ['x'] (Markup.printAll ['x'] [e]) = Markup.printedAll ['x'] [e] := fun e he => by
    rw [Markup.read_eq_readAfresh]
    exact Markup.readAfresh_printAll (by decide) (List.isChain_singleton e) he
  have hstray := hread stray
    (List.forall_mem_singleton.2 (Markup.printable_of_isFlat (by decide)))
  have hrepeated := hread repeated (List.forall_mem_singleton.2
    (.node (by decide) (by decide) (by decide) (List.isChain_singleton _)
      (List.forall_mem_singleton.2 (Markup.printable_of_isFlat (by decide)))))
  have hforest : texts.map (Markup.read ['x']) = [Markup.printedAll ['x'] [stray], forests[1]] :=
    congrArg₂ (fun a b => [a, b]) hstray hrepeated
  have hpruned : List.Forall₂ Pruned (texts.map (Markup.read ['x'])) forests := by
    rw [hforest]
    exact .cons (.drop rfl .nil) (.cons (Pruned.refl _) .nil)
  obtain ⟨hnoted, hdeleted⟩ :=
    stray_breaks_do_not_matter (.inl rfl) ['x'] {} true texts hpruned
  exact ⟨hforest, hnoted, hdeleted, by decide +kernel⟩

end EdgeIncludes
