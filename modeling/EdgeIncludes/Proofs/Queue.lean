import EdgeIncludes.Fragment.Queue
import Mathlib.Logic.Relation
import Mathlib.Data.List.Nodup
import Mathlib.Data.List.Perm.Basic

namespace EdgeIncludes.Queue

variable {σ τ α : Type} {step : σ → τ → σ × Poll τ α}

-- A poll in vain. The task goes behind the others.
inductive Waits (step : σ → τ → σ × Poll τ α) : σ × Queue τ α → σ × Queue τ α → Prop
  | poll {s s' : σ} {q : Queue τ α} {i : Nat} {t t' : τ} {ts : List (Nat × τ)}
      (hq : q.tasks = (i, t) :: ts) (h : step s t = (s', .pending t')) :
      Waits step (s, q) (s', { q with tasks := ts ++ [(i, t')] })

-- A poll that gives a result, which waits for its turn.
inductive Arrives (step : σ → τ → σ × Poll τ α) : σ × Queue τ α → σ × Queue τ α → Prop
  | poll {s s' : σ} {q : Queue τ α} {i : Nat} {t : τ} {a : α} {ts : List (Nat × τ)}
      (hq : q.tasks = (i, t) :: ts) (h : step s t = (s', .ready a)) :
      Arrives step (s, q) (s', { q with tasks := ts, arrived := (i, a) :: q.arrived })

inductive Turn (step : σ → τ → σ × Poll τ α) (x y : σ × Queue τ α) : Prop
  | waits (h : Waits step x y)
  | arrives (h : Arrives step x y)

abbrev Turns (step : σ → τ → σ × Poll τ α) : σ × Queue τ α → σ × Queue τ α → Prop :=
  Relation.ReflTransGen (Turn step)

-- How the search for the next result ends. It gives up after a poll in vain only, and it finds the
-- queue empty only when no task is left and the result whose turn it is has not arrived.
inductive Settles (step : σ → τ → σ × Poll τ α) (x : σ × Queue τ α) :
    σ × Queue τ α × Next α → Prop
  | item {s : σ} {q : Queue τ α} {a : α} (h : Turns step x (s, q)) (ha : q.arrival? = some a) :
      Settles step x (s, q.take, .item a)
  | pending {y : σ × Queue τ α} {s : σ} {q : Queue τ α} (h : Turns step x y)
      (hw : Waits step y (s, q)) : Settles step x (s, q, .pending)
  | empty {s : σ} {q : Queue τ α} (h : Turns step x (s, q)) (ht : q.tasks = [])
      (ha : q.arrival? = none) : Settles step x (s, q, .empty)

theorem Settles.after {x y : σ × Queue τ α} {r : σ × Queue τ α × Next α} (h : Turns step x y)
    (hr : Settles step y r) : Settles step x r := by
  cases hr with
  | item hy ha => exact .item (h.trans hy) ha
  | pending hy hw => exact .pending (h.trans hy) hw
  | empty hy ht ha => exact .empty (h.trans hy) ht ha

-- A round is a sequence of turns. It ends with a result, with a poll in vain, or where it began.
theorem round_turns (step : σ → τ → σ × Poll τ α) (n : Nat) (s : σ) (q : Queue τ α) :
    match round step n s q.tasks with
    | (s', ts, some r) =>
      Turns step (s, q) (s', { q with tasks := ts, arrived := r :: q.arrived }) ∧
        ts.length < q.tasks.length
    | (s', ts, none) =>
      (s' = s ∧ ts = q.tasks ∧ (n = 0 ∨ q.tasks = [])) ∨
        ∃ y, Turns step (s, q) y ∧ Waits step y (s', { q with tasks := ts }) := by
  induction n generalizing s q with
  | zero => exact .inl ⟨rfl, rfl, .inl rfl⟩
  | succ n ih =>
    cases hq : q.tasks with
    | nil => exact .inl ⟨rfl, rfl, .inr rfl⟩
    | cons e ts =>
      obtain ⟨i, t⟩ := e
      rcases hp : step s t with ⟨s₁, t' | a⟩
      · have hw : Waits step (s, q) (s₁, { q with tasks := ts ++ [(i, t')] }) := .poll hq hp
        have h := ih s₁ { q with tasks := ts ++ [(i, t')] }
        simp only [round, hp]
        rcases hr : round step n s₁ (ts ++ [(i, t')]) with ⟨s', us, _ | r⟩
        · simp only [hr] at h ⊢
          rcases h with ⟨rfl, rfl, _⟩ | ⟨y, hy, hw'⟩
          · exact .inr ⟨_, .refl, hw⟩
          · exact .inr ⟨y, .head (.waits hw) hy, hw'⟩
        · simp only [hr] at h ⊢
          refine ⟨.head (.waits hw) h.1, ?_⟩
          simpa using h.2
      · have ha : Arrives step (s, q)
            (s₁, { q with tasks := ts, arrived := (i, a) :: q.arrived }) := .poll hq hp
        simp only [round, hp]
        exact ⟨.single (.arrives ha), by simp⟩

theorem Waits.tasks_ne_nil {x y : σ × Queue τ α} (h : Waits step x y) : y.2.tasks ≠ [] := by
  cases h
  simp

-- The passes are never used up, since each but the last takes a task out.
theorem poll_settles (step : σ → τ → σ × Poll τ α) (passes : Nat) (s : σ) (q : Queue τ α)
    (hn : q.tasks.length < passes) : Settles step (s, q) (poll step passes s q) := by
  induction passes generalizing s q with
  | zero => omega
  | succ passes ih =>
    cases ha : q.arrival? with
    | some a =>
      unfold poll
      simp only [ha]
      exact .item .refl ha
    | none =>
      have h := round_turns step (min patience q.tasks.length) s q
      unfold poll
      simp only [ha]
      rcases hr : round step (min patience q.tasks.length) s q.tasks with ⟨s', ts, _ | r⟩
      · simp only [hr] at h ⊢
        rcases h with ⟨rfl, rfl, he⟩ | ⟨y, hy, hw⟩
        · have ht : q.tasks = [] := by
            rcases he with he | he
            · exact List.length_eq_zero_iff.1 (by simp only [patience] at he; omega)
            · exact he
          simp only [ht, List.isEmpty_nil, if_true]
          exact .empty (by rw [← ht]) rfl ha
        · have ht : ts ≠ [] := hw.tasks_ne_nil
          simp only [List.isEmpty_iff, ht, if_false]
          exact .pending hy hw
      · simp only [hr] at h ⊢
        exact (ih s' _ (by simp only; omega)).after h.1

theorem next_settles (step : σ → τ → σ × Poll τ α) (s : σ) (q : Queue τ α) :
    Settles step (s, q) (next step s q) :=
  poll_settles _ _ _ _ (Nat.lt_succ_self _)

-- The places in the order of pushing of all that is in the queue.
def places (q : Queue τ α) : List Nat := q.tasks.map (·.1) ++ q.arrived.map (·.1)

-- The queue holds what has been pushed and not been taken, each once.
structure Whole (q : Queue τ α) : Prop where
  places_perm : q.places.Perm (List.range' q.taken (q.pushed - q.taken))
  taken_le : q.taken ≤ q.pushed

theorem length_places (q : Queue τ α) : q.places.length = q.length := by simp [places, length]

theorem tasks_eq_nil_of_length {q : Queue τ α} (h : q.length = 0) : q.tasks = [] :=
  List.length_eq_zero_iff.1 (Nat.eq_zero_of_add_eq_zero_right h)

theorem Whole.length_eq {q : Queue τ α} (h : q.Whole) : q.length = q.pushed - q.taken := by
  simpa [length_places] using h.places_perm.length_eq

theorem Whole.nodup {q : Queue τ α} (h : q.Whole) : q.places.Nodup :=
  h.places_perm.nodup_iff.2 List.nodup_range'

-- A turn moves one entry, and changes neither count.
theorem places_turn {x y : σ × Queue τ α} (h : Turn step x y) :
    y.2.places.Perm x.2.places ∧ y.2.taken = x.2.taken ∧ y.2.pushed = x.2.pushed := by
  rcases h with ⟨hq, _⟩ | ⟨hq, _⟩
  · refine ⟨?_, rfl, rfl⟩
    simp only [places, hq, List.map_append, List.map_cons, List.map_nil]
    exact (List.perm_append_singleton _ _).append_right _
  · refine ⟨?_, rfl, rfl⟩
    simp only [places, hq, List.map_cons]
    exact List.perm_middle

theorem Whole.turn {x y : σ × Queue τ α} (h : Turn step x y) (hx : x.2.Whole) : y.2.Whole := by
  obtain ⟨hp, ht, hn⟩ := places_turn h
  refine ⟨?_, ?_⟩
  · rw [ht, hn]
    exact hp.trans hx.places_perm
  · rw [ht, hn]
    exact hx.taken_le

theorem length_turn {x y : σ × Queue τ α} (h : Turn step x y) : y.2.length = x.2.length := by
  simpa only [length_places] using (places_turn h).1.length_eq

theorem mem_of_arrival? {q : Queue τ α} {a : α} (h : q.arrival? = some a) :
    (q.taken, a) ∈ q.arrived := by
  obtain ⟨e, he, rfl⟩ := Option.map_eq_some_iff.1 h
  have hm := List.mem_of_find?_eq_some he
  have hi : e.1 = q.taken := by simpa using List.find?_some he
  rwa [← hi]

-- Handing out a result leaves all the others.
theorem Whole.places_take {q : Queue τ α} (h : q.Whole) {a : α} (ha : q.arrival? = some a) :
    q.take.places = q.places.filter (· ≠ q.taken) := by
  have hm : q.taken ∈ q.arrived.map (·.1) := List.mem_map.2 ⟨_, mem_of_arrival? ha, rfl⟩
  have hd : ∀ i ∈ q.tasks.map (·.1), i ≠ q.taken := by
    intro i hi he
    exact (List.nodup_append.1 h.nodup).2.2 i hi _ hm he
  have ht : (q.tasks.map (·.1)).filter (· ≠ q.taken) = q.tasks.map (·.1) :=
    List.filter_eq_self.2 fun i hi => decide_eq_true (hd i hi)
  simp only [places, List.filter_append, ht]
  simp only [Queue.take, List.filter_map]
  rfl

theorem filter_range' (k n : Nat) :
    (List.range' k (n + 1)).filter (· ≠ k) = List.range' (k + 1) n := by
  rw [List.range'_succ, List.filter_cons_of_neg (by simp)]
  refine List.filter_eq_self.2 fun i hi => decide_eq_true ?_
  have := (List.mem_range'_1.1 hi).1
  omega

theorem Whole.taken_lt {q : Queue τ α} (h : q.Whole) {a : α} (ha : q.arrival? = some a) :
    q.taken < q.pushed := by
  have hm : q.taken ∈ q.places :=
    List.mem_append_right _ (List.mem_map.2 ⟨_, mem_of_arrival? ha, rfl⟩)
  have := List.mem_range'_1.1 (h.places_perm.mem_iff.1 hm)
  omega

theorem Whole.take {q : Queue τ α} (h : q.Whole) {a : α} (ha : q.arrival? = some a) :
    q.take.Whole := by
  have hlt := h.taken_lt ha
  refine ⟨?_, hlt⟩
  have hn : q.pushed - q.taken = q.pushed - (q.taken + 1) + 1 := by omega
  have hp := h.places_perm.filter (· ≠ q.taken)
  rw [hn, filter_range'] at hp
  rw [h.places_take ha]
  exact hp

theorem Whole.length_take {q : Queue τ α} (h : q.Whole) {a : α} (ha : q.arrival? = some a) :
    q.take.length + 1 = q.length := by
  have hlt := h.taken_lt ha
  rw [(h.take ha).length_eq, h.length_eq]
  simp only [Queue.take]
  omega

-- The next result has arrived when there is one and no task is left.
theorem Whole.arrival?_ne_none {q : Queue τ α} (h : q.Whole) (ht : q.tasks = [])
    (hl : 0 < q.length) : q.arrival? ≠ none := by
  have hn := h.length_eq
  have hm : q.taken ∈ q.places := h.places_perm.mem_iff.2 (List.mem_range'_1.2 (by omega))
  simp only [places, ht, List.map_nil, List.nil_append, List.mem_map] at hm
  obtain ⟨e, he, hi⟩ := hm
  intro ha
  have := List.find?_eq_none.1 (Option.map_eq_none_iff.1 ha) e he
  simp [hi] at this

-- Tasks that have been pushed into an empty queue stand in their order.
theorem foldl_push (ts : List τ) (q : Queue τ α) :
    ts.foldl push q =
      { q with
        tasks := q.tasks ++ (ts.zipIdx q.pushed).map Prod.swap
        pushed := q.pushed + ts.length } := by
  induction ts generalizing q with
  | nil => simp
  | cons t ts ih =>
    rw [List.foldl_cons, ih]
    simp [push, List.zipIdx_cons, Nat.add_assoc, Nat.add_comm 1]

theorem ofList_eq (ts : List τ) :
    (ofList ts : Queue τ α) = { tasks := ts.zipIdx.map Prod.swap, pushed := ts.length } := by
  rw [ofList, foldl_push]
  simp

theorem whole_ofList (ts : List τ) : (ofList ts : Queue τ α).Whole := by
  rw [ofList_eq]
  refine ⟨?_, Nat.zero_le _⟩
  have hp : (ts.zipIdx.map Prod.swap).map (·.1) = List.range' 0 ts.length := by
    rw [List.map_map]
    exact List.zipIdx_map_snd 0 ts
  simp only [places, hp, List.map_nil, List.append_nil, Nat.sub_zero]
  exact .refl _

theorem length_ofList (ts : List τ) : (ofList ts : Queue τ α).length = ts.length := by
  rw [ofList_eq]
  simp [length]

end EdgeIncludes.Queue
