import EdgeIncludes.Backend
import EdgeIncludes.Fragment.Queue
import EdgeIncludes.Url.Basic

namespace EdgeIncludes

-- A fetch whose outcome has arrived.
structure Arrival where
  url : Url
  outcome : Outcome

structure Fetch where
  url : Url
  answer : Answer

namespace Fetch

def label (f : Fetch) : Text := "IncludeTask(".toList ++ f.url.toText ++ [')']

def poll (s : Unit) (f : Fetch) : Unit × Poll Fetch Arrival :=
  match f.answer.polls with
  | 0 => (s, .ready ⟨f.url, f.answer.outcome⟩)
  | n + 1 => (s, .pending { f with answer := { f.answer with polls := n } })

end Fetch

namespace Queue

-- Every poll in vain pays for one poll of a task, so there are no more rounds than polls to pay.
def wait (q : Queue Fetch Arrival) : Queue Fetch Arrival × Option Arrival :=
  let owed := q.tasks.foldl (fun n t => n + t.2.answer.polls) 0
  (q.await Fetch.poll (owed + 1) ()).2

end Queue
end EdgeIncludes
