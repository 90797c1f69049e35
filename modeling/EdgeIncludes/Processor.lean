import EdgeIncludes.Fragment.Include
import EdgeIncludes.Fragment.Fetch

namespace EdgeIncludes

-- A document whose fragments are being fetched: the text so far, what is still to be filled in, and
-- the fetches of a type `τ`.
structure Page (τ : Type) where
  text : Text := []
  rest : List Segment
  queue : Queue τ Arrival

-- What becomes of a page: its text, and how many fragments are left that no element took.
structure Filled where
  body : Except Fault Text
  left : Nat

-- A fetch on its way. A direct one is not processed.
inductive Job where
  | unsent (i : Inbound) (direct : Bool)
  -- The answer is ready after so many polls.
  | waiting (i : Inbound) (direct : Bool) (polls : Nat) (outcome : Outcome)
  | filling (i : Inbound) (r : Http.Response) (page : Page Job)

-- The text that takes the place of an element. Where errors are to be ignored only a plain success
-- counts.
def replacement (t : Tag) (o : Outcome) : Text :=
  match o with
  | .error _ => []
  | .ok r =>
    if t.attribute? "onerror".toList = some "continue".toList
        && r.status ≠ Http.okStatus && r.status ≠ Http.noContent then []
    else r.body

def reportOf (a : Arrival) : Log :=
  match a.outcome with
  | .error f => [.fetchFailed a.url.toText f]
  | .ok _ => []

namespace Page

variable {τ : Type}

-- Goes through the segments as far as the fragments have arrived.
def fill (step : Traffic → τ → Traffic × Poll τ Arrival) (text : Text) :
    List Segment → Traffic → Queue τ Arrival → Traffic × Poll (Page τ) Filled
  | [], s, q => (s, .ready ⟨.ok text, q.length⟩)
  | .raw t :: ss, s, q => fill step (text ++ t) ss s q
  | .placeholder t :: ss, s, q =>
    if t.name ≠ Fragment.includeName then fill step (text ++ t.markup) ss s q
    else
      match q.next step s with
      | (s, q, .pending) => (s, .pending ⟨text, .placeholder t :: ss, q⟩)
      | (s, q, .empty) => (s, .ready ⟨.error (.noFragment t.markup), q.length⟩)
      | (s, q, .item a) =>
        fill step (text ++ replacement t a.outcome) ss (s.note (reportOf a)) q

def poll (step : Traffic → τ → Traffic × Poll τ Arrival) (s : Traffic) (p : Page τ) :
    Traffic × Poll (Page τ) Filled :=
  fill step p.text p.rest s p.queue

end Page

-- The document as it leaves the scan, with a fetch for every fragment that it asks for.
def pageOf (c : Config) (i : Inbound) (document : Text) (s : Traffic) : Traffic × Page Job :=
  let out := scan c i document
  let direct := (Fragment.directHost? c i).isSome
  let jobs := out.fetches.map fun f => Job.unsent (i.forFragment f.request f.url) direct
  (s.note out.log, { rest := out.segments, queue := Queue.ofList jobs })

-- The response with its document processed. Without a new body the response is left alone.
def Http.Response.processed (r : Http.Response) (body : Except Fault Text) : Http.Response :=
  match body with
  | .ok body => { r with headers := r.headers.remove "content-length".toList, body }
  | .error _ => r

namespace Job

-- A page that is polled, as a step of its job.
def fillStep (i : Inbound) (r : Http.Response)
    (p : Traffic × Poll (Page Job) Filled) : Traffic × Poll Job Arrival :=
  match p with
  | (s, .pending page) => (s, .pending (.filling i r page))
  | (s, .ready f) => (s, .ready ⟨i.url, .ok (r.processed f.body)⟩)

-- Goes on with an answer that has arrived.
def deliver (c : Config) (step : Traffic → Job → Traffic × Poll Job Arrival) (s : Traffic)
    (i : Inbound) (direct : Bool) (o : Outcome) : Traffic × Poll Job Arrival :=
  match o with
  | .error f => (s, .ready ⟨i.url, .error f⟩)
  | .ok r =>
    if direct || !c.processes r then (s, .ready ⟨i.url, .ok r⟩)
    else
      let (s, page) := pageOf c i r.body s
      fillStep i r (page.poll step s)

-- Polls a job. `depth` bounds how deep fragments are nested. A document that is nested deeper is
-- not looked at, and none is when `depth` exceeds the number of requests that can be sent.
def poll (c : Config) (b : Backend) : Nat → Traffic → Job → Traffic × Poll Job Arrival
  | 0, s, j => (s, .pending j)
  | depth + 1, s, .unsent i direct =>
    let (s, a) := b.send s i.request
    match a.polls with
    | 0 => deliver c (poll c b depth) s i direct a.outcome
    | n + 1 => (s.pay, .pending (.waiting i direct n a.outcome))
  | depth + 1, s, .waiting i direct 0 o => deliver c (poll c b depth) s i direct o
  | _ + 1, s, .waiting i direct (n + 1) o => (s.pay, .pending (.waiting i direct n o))
  | depth + 1, s, .filling i r page => fillStep i r (page.poll (poll c b depth) s)

end Job

namespace Backend

-- The nesting that the limit allows.
def depth (b : Backend) : Nat := b.limit + 2

-- The requests that can still be sent.
def left (b : Backend) (s : Traffic) : Nat := b.limit - s.sent.length

-- Whether a request has been sent or a poll paid for between two states.
def advances (b : Backend) (s s' : Traffic) : Bool :=
  b.left s' < b.left s || (b.left s' = b.left s && s'.owed < s.owed)

-- Polls until a result is there. Every poll in vain has sent a request or paid for a poll.
def run {τ β : Type} (b : Backend) (step : Traffic → τ → Traffic × Poll τ β) (s : Traffic) (t : τ) :
    Traffic × Option β :=
  match step s t with
  | (s', .ready a) => (s', some a)
  | (s', .pending t) =>
    if _h : b.advances s s' then b.run step s' t else (s', none)
termination_by (b.left s, s.owed)
decreasing_by
  simp only [advances, Bool.or_eq_true, Bool.and_eq_true, decide_eq_true_eq] at _h
  rcases _h with h | ⟨h, ho⟩
  · exact Prod.Lex.left _ _ h
  · rw [h]
    exact Prod.Lex.right _ ho

end Backend

structure Processor where
  config : Config
  backend : Backend

namespace Processor

def stalled : Fault := .fetchFailed "no answer".toList

def step (p : Processor) : Traffic → Job → Traffic × Poll Job Arrival :=
  Job.poll p.config p.backend p.backend.depth

-- Fills the page of a document.
def fill (p : Processor) (i : Inbound) (t : Text) : Traffic × Option Filled :=
  let (s, page) := pageOf p.config i t {}
  p.backend.run (Page.poll p.step) s page

-- The text of a document with its fragments.
def document (p : Processor) (i : Inbound) (t : Text) : Traffic × Except Fault Text :=
  let (s, f?) := p.fill i t
  (s, (f?.map (·.body)).getD (.error stalled))

-- The response to a request with its document processed, if it is to be.
def respond (p : Processor) (i : Inbound) (r : Http.Response) : Traffic × Http.Response :=
  if p.config.processes r then
    let (s, body) := p.document i r.body
    (s, r.processed body)
  else ({}, r)

-- Fetches the document that a request asks for, and processes it.
def handle (p : Processor) (i : Inbound) : Traffic × Outcome :=
  let (s, a?) := p.backend.run p.step {} (.unsent i false)
  (s, (a?.map (·.outcome)).getD (.error stalled))

end Processor
end EdgeIncludes
