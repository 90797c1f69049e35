import EdgeIncludes.Fault
import EdgeIncludes.Log

namespace EdgeIncludes

abbrev Outcome := Except Fault Http.Response

structure Answer where
  outcome : Outcome
  -- How often the answer is asked for in vain.
  polls : Nat := 0

structure Backend where
  -- The answer to a request, given the requests that came before.
  answer : List Http.Request → Http.Request → Answer
  limit : Nat

-- What has passed between a run and its backend, and the log of the run. `owed` counts the polls
-- that the open requests still wait for.
structure Traffic where
  sent : List Http.Request := []
  owed : Nat := 0
  log : Log := []

namespace Traffic

def note (t : Traffic) (l : Log) : Traffic := { t with log := t.log ++ l }

def pay (t : Traffic) : Traffic := { t with owed := t.owed - 1 }

end Traffic

namespace Backend

def refusal : Answer := ⟨.error (.fetchFailed "limit".toList), 0⟩

-- Sends a request. One over the limit leaves no trace.
def send (b : Backend) (t : Traffic) (r : Http.Request) : Traffic × Answer :=
  if t.sent.length < b.limit then
    let a := b.answer t.sent r
    ({ t with sent := t.sent ++ [r], owed := t.owed + a.polls }, a)
  else (t, refusal)

theorem sent_send (b : Backend) (t : Traffic) (r : Http.Request) :
    (b.send t r).1.sent = t.sent ∨ (b.send t r).1.sent = t.sent ++ [r] := by
  unfold send
  split
  · exact .inr rfl
  · exact .inl rfl

end Backend
end EdgeIncludes
