import EdgeIncludes.Markup.Reader
import EdgeIncludes.Render.Directive

namespace EdgeIncludes

-- What rendering gives, in order.
structure Output (α : Type) where
  segments : List Segment := []
  log : Log := []
  fetches : List α := []

namespace Output

variable {α : Type}

def append (a b : Output α) : Output α :=
  ⟨a.segments ++ b.segments, a.log ++ b.log, a.fetches ++ b.fetches⟩

instance : Append (Output α) := ⟨append⟩

def ofText (t : Text) : Output α := { segments := [.raw t] }

end Output

-- What rendering carries along: the context, and how many loops are being run.
structure Pass where
  context : Context := {}
  depth : Nat := 0
deriving DecidableEq

namespace Pass

def setBroken (p : Pass) (b : Bool) : Pass := { p with context := { p.context with broken := b } }

-- Whether the siblings that follow are left out.
def stopped (p : Pass) : Bool := 0 < p.depth && p.context.broken

-- A loop starts and ends without a break.
def enterLoop (p : Pass) : Pass := { p.setBroken false with depth := p.depth + 1 }

def leaveLoop (p : Pass) : Pass := { p.setBroken false with depth := p.depth - 1 }

def bindItem (p : Pass) (item value : Text) : Pass :=
  { p with context := p.context.set item (.text value) }

end Pass

variable {α : Type}

-- Runs the body of a loop for one value after the other, until a break.
def iterate (body : Pass → Output α × Pass) (item : Text) :
    List Text → Pass → Output α × Pass
  | [], p => ({}, p)
  | v :: vs, p =>
    if p.context.broken then ({}, p)
    else
      let (out, p) := body (p.bindItem item v)
      let (more, p) := iterate body item vs p
      (out ++ more, p)

mutual

-- Renders one node. The flag says whether a branch has been taken among its siblings, before and
-- after.
def renderElement (ds : Directives α) (m : Mode) (p : Pass) (taken : Bool) :
    Element → Output α × Pass × Bool
  | .raw t =>
    let (t, log) := m.apply p.context t
    ({ segments := [.raw t], log := log }, p, taken)
  | .tag t children =>
    match ds.find? t.name with
    | none => (.ofText t.markup, p, taken)
    | some d =>
      let r := d t taken p.context
      let p := { p with context := r.context }
      let out : Output α := { log := r.log, fetches := r.fetches }
      match r.verdict with
      | .error f => ({ out with log := r.log ++ [.removed t.name f] }, p, taken)
      | .ok v =>
        match v.action with
        | .keep => ({ out with segments := [.placeholder t] }, p, v.taken)
        | .remove => (out, p, v.taken)
        | .replace x => ({ out with segments := [.raw x] }, p, v.taken)
        | .content own =>
          let (more, p) := renderAll ds (own.getD m) p false children
          (out ++ more, p, v.taken)
        | .loop item values =>
          let (more, p) :=
            iterate (fun p => renderAll ds .substituted p false children) item values p.enterLoop
          (out ++ more, p.leaveLoop, v.taken)
termination_by structural e => e

-- Renders siblings in order.
def renderAll (ds : Directives α) (m : Mode) (p : Pass) (taken : Bool) :
    List Element → Output α × Pass
  | [] => ({}, p)
  | e :: es =>
    if p.stopped then ({}, p)
    else
      let (out, p, taken) := renderElement ds m p taken e
      let (more, p) := renderAll ds m p taken es
      (out ++ more, p)
termination_by structural es => es

end

-- Renders a document, and joins the pieces of final text.
def renderDocument (ds : Directives α) (ns : Text) (p : Pass) (t : Text) : Output α × Pass :=
  let (out, p) := renderAll ds .verbatim p false (Markup.read ns t)
  ({ out with segments := Segment.merge out.segments }, p)

end EdgeIncludes
