namespace EdgeIncludes

inductive Poll (τ α : Type) where
  | pending (t : τ)
  | ready (a : α)

-- Tasks in the order in which they are polled next, and results that are waiting for their turn,
-- each with its place in the order of pushing.
structure Queue (τ α : Type) where
  tasks : List (Nat × τ) := []
  arrived : List (Nat × α) := []
  pushed : Nat := 0
  taken : Nat := 0

-- What the next result of a queue is.
inductive Next (α : Type) where
  | item (a : α)
  | pending
  | empty

namespace Queue

variable {σ τ α : Type}

def push (q : Queue τ α) (t : τ) : Queue τ α :=
  { q with tasks := q.tasks ++ [(q.pushed, t)], pushed := q.pushed + 1 }

def ofList (ts : List τ) : Queue τ α := ts.foldl push {}

def length (q : Queue τ α) : Nat := q.tasks.length + q.arrived.length

-- Polls tasks until one is ready, or until `n` of them are not.
def round (poll : σ → τ → σ × Poll τ α) :
    Nat → σ → List (Nat × τ) → σ × List (Nat × τ) × Option (Nat × α)
  | 0, s, ts => (s, ts, none)
  | _ + 1, s, [] => (s, [], none)
  | n + 1, s, (i, t) :: ts =>
    match poll s t with
    | (s, .ready a) => (s, ts, some (i, a))
    | (s, .pending t) => round poll n s (ts ++ [(i, t)])

-- A queue gives way after two tasks that are not ready.
def patience : Nat := 2

def arrival? (q : Queue τ α) : Option α := (q.arrived.find? (·.1 = q.taken)).map (·.2)

def take (q : Queue τ α) : Queue τ α :=
  { q with arrived := q.arrived.filter (·.1 ≠ q.taken), taken := q.taken + 1 }

-- Polls until the result whose turn it is has arrived. Each pass takes a task out, so there are no
-- more passes than tasks.
def poll (step : σ → τ → σ × Poll τ α) : Nat → σ → Queue τ α → σ × Queue τ α × Next α
  | passes, s, q =>
    match q.arrival?, passes with
    | some a, _ => (s, q.take, .item a)
    | none, 0 => (s, q, .empty)
    | none, passes + 1 =>
      match round step (min patience q.tasks.length) s q.tasks with
      | (s, ts, none) => (s, { q with tasks := ts }, if ts.isEmpty then .empty else .pending)
      | (s, ts, some r) => poll step passes s { q with tasks := ts, arrived := r :: q.arrived }

def next (step : σ → τ → σ × Poll τ α) (s : σ) (q : Queue τ α) : σ × Queue τ α × Next α :=
  poll step (q.tasks.length + 1) s q

-- Polls a queue that is not ready again, at most `rounds` times.
def await (step : σ → τ → σ × Poll τ α) : Nat → σ → Queue τ α → σ × Queue τ α × Option α
  | 0, s, q => (s, q, none)
  | rounds + 1, s, q =>
    match next step s q with
    | (s, q, .item a) => (s, q, some a)
    | (s, q, .empty) => (s, q, none)
    | (s, q, .pending) => await step rounds s q

end Queue
end EdgeIncludes
