import EdgeIncludes.Processor
import EdgeIncludes.Proofs.Queue
import EdgeIncludes.Proofs.Scan

namespace EdgeIncludes.Page

variable {τ : Type} {step : Traffic → τ → Traffic × Poll τ Arrival}

-- What can happen to a page while it is being filled.
inductive Move (step : Traffic → τ → Traffic × Poll τ Arrival) :
    Traffic × Page τ → Traffic × Page τ → Prop
  | raw {s : Traffic} {text t : Text} {ss : List Segment} {q : Queue τ Arrival} :
      Move step (s, ⟨text, .raw t :: ss, q⟩) (s, ⟨text ++ t, ss, q⟩)
  | keep {s : Traffic} {text : Text} {t : Tag} {ss : List Segment} {q : Queue τ Arrival}
      (ht : t.name ≠ Fragment.includeName) :
      Move step (s, ⟨text, .placeholder t :: ss, q⟩) (s, ⟨text ++ t.markup, ss, q⟩)
  | turn {s s' : Traffic} {text : Text} {ss : List Segment} {q q' : Queue τ Arrival}
      (h : Queue.Turn step (s, q) (s', q')) : Move step (s, ⟨text, ss, q⟩) (s', ⟨text, ss, q'⟩)
  | fill {s : Traffic} {text : Text} {t : Tag} {ss : List Segment} {q : Queue τ Arrival}
      {a : Arrival} (ht : t.name = Fragment.includeName) (ha : q.arrival? = some a) :
      Move step (s, ⟨text, .placeholder t :: ss, q⟩)
        (s.note (reportOf a), ⟨text ++ replacement t a.outcome, ss, q.take⟩)

abbrev Moves (step : Traffic → τ → Traffic × Poll τ Arrival) :
    Traffic × Page τ → Traffic × Page τ → Prop :=
  Relation.ReflTransGen (Move step)

-- How a poll of a page ends: with the whole text, after a poll in vain, or at an element for which
-- the queue has nothing.
inductive Settles (step : Traffic → τ → Traffic × Poll τ Arrival) (x : Traffic × Page τ) :
    Traffic × Poll (Page τ) Filled → Prop
  | whole {s : Traffic} {text : Text} {q : Queue τ Arrival} (h : Moves step x (s, ⟨text, [], q⟩)) :
      Settles step x (s, .ready ⟨.ok text, q.length⟩)
  | pending {s s' : Traffic} {text : Text} {ss : List Segment} {q q' : Queue τ Arrival}
      (h : Moves step x (s, ⟨text, ss, q⟩)) (hw : Queue.Waits step (s, q) (s', q')) :
      Settles step x (s', .pending ⟨text, ss, q'⟩)
  | short {s : Traffic} {text : Text} {t : Tag} {ss : List Segment} {q : Queue τ Arrival}
      (h : Moves step x (s, ⟨text, .placeholder t :: ss, q⟩)) (hn : t.name = Fragment.includeName)
      (ht : q.tasks = []) (ha : q.arrival? = none) :
      Settles step x (s, .ready ⟨.error (.noFragment t.markup), q.length⟩)

theorem Settles.after {x y : Traffic × Page τ} {r : Traffic × Poll (Page τ) Filled}
    (h : Moves step x y) (hr : Settles step y r) : Settles step x r := by
  cases hr with
  | whole hy => exact .whole (h.trans hy)
  | pending hy hw => exact .pending (h.trans hy) hw
  | short hy hn ht ha => exact .short (h.trans hy) hn ht ha

-- Turns of the queue are moves of the page.
theorem Moves.turns {x y : Traffic × Queue τ Arrival} (text : Text) (ss : List Segment)
    (h : Queue.Turns step x y) :
    Moves step (x.1, ⟨text, ss, x.2⟩) (y.1, ⟨text, ss, y.2⟩) := by
  induction h with
  | refl => exact .refl
  | tail _ ht ih => exact ih.tail (.turn ht)

theorem fill_settles (step : Traffic → τ → Traffic × Poll τ Arrival) (text : Text)
    (ss : List Segment) (s : Traffic) (q : Queue τ Arrival) :
    Settles step (s, ⟨text, ss, q⟩) (fill step text ss s q) := by
  induction ss generalizing text s q with
  | nil => exact .whole .refl
  | cons e ss ih =>
    cases e with
    | raw t => exact (ih ..).after (.single .raw)
    | placeholder t =>
      by_cases hn : t.name = Fragment.includeName
      · have hs := Queue.next_settles step s q
        unfold fill
        simp only [hn, ne_eq, not_true_eq_false, if_false]
        rcases hq : q.next step s with ⟨s', q', a | _ | _⟩
        · rw [hq] at hs
          cases hs with
          | item h ha =>
            have hf := Moves.turns text (.placeholder t :: ss) h
            exact (ih ..).after (hf.tail (.fill hn ha))
        · rw [hq] at hs
          cases hs with
          | pending h hw => exact .pending (Moves.turns text (.placeholder t :: ss) h) hw
        · rw [hq] at hs
          cases hs with
          | empty h ht ha => exact .short (Moves.turns text (.placeholder t :: ss) h) hn ht ha
      · unfold fill
        simp only [hn, ne_eq, not_false_eq_true, if_true]
        exact (ih ..).after (.single (.keep hn))

theorem poll_settles (step : Traffic → τ → Traffic × Poll τ Arrival) (s : Traffic) (p : Page τ) :
    Settles step (s, p) (p.poll step s) :=
  fill_settles ..

-- A property of the traffic, and one of every task of a page.
structure Holds (S : Traffic → Prop) (P : τ → Prop) (x : Traffic × Page τ) : Prop where
  traffic : S x.1
  tasks : ∀ e ∈ x.2.queue.tasks, P e.2

section Holds

variable {S : Traffic → Prop} {P : τ → Prop}

-- A poll of a task keeps both properties.
def Polls (S : Traffic → Prop) (P : τ → Prop) (r : Traffic × Poll τ Arrival) : Prop :=
  S r.1 ∧ ∀ t, r.2 = .pending t → P t

theorem Holds.turn (hstep : ∀ s t, S s → P t → Polls S P (step s t)) {s s' : Traffic}
    {text : Text} {ss : List Segment} {q q' : Queue τ Arrival}
    (h : Queue.Turn step (s, q) (s', q')) (hx : Holds S P (s, ⟨text, ss, q⟩)) :
    Holds S P (s', ⟨text, ss, q'⟩) := by
  have hfront : ∀ {i t ts}, q.tasks = (i, t) :: ts → Polls S P (step s t) ∧ ∀ e ∈ ts, P e.2 := by
    intro i t ts hq
    have ht : ∀ e ∈ (i, t) :: ts, P e.2 := hq ▸ hx.tasks
    exact ⟨hstep s t hx.traffic (ht _ (List.mem_cons_self ..)),
      fun e he => ht e (List.mem_cons_of_mem _ he)⟩
  rcases h with ⟨hq, ht⟩ | ⟨hq, ht⟩
  · obtain ⟨⟨hs, hp⟩, hts⟩ := hfront hq
    rw [ht] at hs hp
    refine ⟨hs, fun e he => ?_⟩
    rcases List.mem_append.1 he with he | he
    · exact hts e he
    · rw [List.mem_singleton.1 he]
      exact hp _ rfl
  · obtain ⟨⟨hs, -⟩, hts⟩ := hfront hq
    rw [ht] at hs
    exact ⟨hs, hts⟩

theorem Holds.moves (hstep : ∀ s t, S s → P t → Polls S P (step s t))
    (hnote : ∀ s l, S s → S (s.note l)) {x y : Traffic × Page τ} (h : Moves step x y)
    (hx : Holds S P x) : Holds S P y := by
  induction h with
  | refl => exact hx
  | tail _ hm ih =>
    cases hm with
    | raw => exact ⟨ih.traffic, ih.tasks⟩
    | keep => exact ⟨ih.traffic, ih.tasks⟩
    | turn ht => exact ih.turn hstep ht
    | fill => exact ⟨hnote _ _ ih.traffic, ih.tasks⟩

theorem Holds.poll (hstep : ∀ s t, S s → P t → Polls S P (step s t))
    (hnote : ∀ s l, S s → S (s.note l)) {s : Traffic} {p : Page τ} (hx : Holds S P (s, p)) :
    S (p.poll step s).1 ∧
      ∀ p', (p.poll step s).2 = .pending p' → ∀ e ∈ p'.queue.tasks, P e.2 := by
  have h := poll_settles step s p
  rcases hr : p.poll step s with ⟨s', p' | f⟩ <;> rw [hr] at h
  · cases h with
    | pending h hw =>
      have hy := (hx.moves hstep hnote h).turn hstep (.waits hw)
      refine ⟨hy.traffic, ?_⟩
      rintro _ ⟨⟩
      exact hy.tasks
  · refine ⟨?_, fun _ he => nomatch he⟩
    cases h with
    | whole h => exact (hx.moves hstep hnote h).traffic
    | short h => exact (hx.moves hstep hnote h).traffic

end Holds

-- One fragment for every element that is still to be filled in. All these elements are includes.
structure Matched (p : Page τ) : Prop where
  whole : p.queue.Whole
  length_eq : p.queue.length = (Segment.placeholders p.rest).length
  name_eq : ∀ t ∈ Segment.placeholders p.rest, t.name = Fragment.includeName

theorem Matched.move {x y : Traffic × Page τ} (h : Move step x y) (hx : x.2.Matched) :
    y.2.Matched := by
  cases h with
  | raw => exact ⟨hx.whole, hx.length_eq, hx.name_eq⟩
  | keep ht => exact absurd (hx.name_eq _ (List.mem_cons_self ..)) ht
  | turn ht => exact ⟨hx.whole.turn ht, (Queue.length_turn ht).trans hx.length_eq, hx.name_eq⟩
  | fill ht ha =>
    refine ⟨hx.whole.take ha, ?_, fun t hm => hx.name_eq t (List.mem_cons_of_mem _ hm)⟩
    exact Nat.succ.inj ((hx.whole.length_take ha).trans hx.length_eq)

theorem Matched.moves {x y : Traffic × Page τ} (h : Moves step x y) (hx : x.2.Matched) :
    y.2.Matched := by
  induction h with
  | refl => exact hx
  | tail _ hm ih => exact ih.move hm

-- A poll of a matched page either leaves a matched page, or gives a text and leaves no fragment.
theorem Matched.poll {p : Page τ} (hp : p.Matched)
    (step : Traffic → τ → Traffic × Poll τ Arrival) (s : Traffic) :
    match (p.poll step s).2 with
    | .pending p' => p'.Matched
    | .ready f => (∃ text, f.body = .ok text) ∧ f.left = 0 := by
  have h := poll_settles step s p
  rcases hr : p.poll step s with ⟨s', p' | f⟩ <;> rw [hr] at h
  · cases h with
    | pending h hw => exact (hp.moves h).move (.turn (.waits hw))
  · cases h with
    | whole h => exact ⟨⟨_, rfl⟩, (hp.moves h).length_eq⟩
    | short h hn ht ha =>
      have hm := hp.moves h
      exact absurd ha (hm.whole.arrival?_ne_none ht (hm.length_eq ▸ Nat.succ_pos _))

-- The tasks of the page of a document are the unsent requests for its fragments.
theorem exists_of_mem_pageOf {c : Config} {i : Inbound} {t : Text} {s : Traffic} {e : Nat × Job}
    (h : e ∈ (pageOf c i t s).2.queue.tasks) : ∃ f ∈ (scan c i t).fetches,
      e.2 = .unsent (i.forFragment f.request f.url) (Fragment.directHost? c i).isSome := by
  simp only [pageOf, Queue.ofList_eq, List.mem_map] at h
  obtain ⟨⟨j, n⟩, hm, rfl⟩ := h
  obtain ⟨f, hf, hj⟩ := List.mem_map.1 (List.fst_mem_of_mem_zipIdx hm)
  exact ⟨f, hf, hj.symm⟩

-- The page that a scan gives is matched.
theorem matched_pageOf (c : Config) (i : Inbound) (t : Text) (s : Traffic) :
    (pageOf c i t s).2.Matched := by
  have h := scan_paired c i t
  refine ⟨Queue.whole_ofList _, ?_, ?_⟩
  · simp only [pageOf, Queue.length_ofList, List.length_map]
    exact h.length_eq.symm
  · intro u hu
    obtain ⟨n, hn, rfl⟩ := List.getElem_of_mem hu
    exact (List.forall₂_iff_get.1 h).2 n hn (h.length_eq ▸ hn) |>.name_eq

end EdgeIncludes.Page
