import EdgeIncludes.Builtin.Call
import EdgeIncludes.Render.Segment

namespace EdgeIncludes

-- What happens to the raw text inside an element.
inductive Mode where
  | verbatim
  -- Plain references are substituted.
  | substituted
  -- Calls are replaced, then references of every form.
  | expanded
deriving DecidableEq, Repr

namespace Mode

def apply (m : Mode) (ctx : Context) (t : Text) : Text × Log :=
  match m with
  | verbatim => (t, [])
  | substituted => (substitute ctx t, [])
  | expanded => expand ctx t

end Mode

-- What becomes of an element.
inductive Action where
  -- It stays as a placeholder.
  | keep
  | remove
  -- Its children are rendered in its place, in a mode of their own or in the one around it.
  | content (m : Option Mode)
  -- The text takes its place as it is.
  | replace (t : Text)
  -- Its children are rendered once for each value, with the item bound to it.
  | loop (item : Text) (values : List Text)
deriving DecidableEq

structure Verdict where
  action : Action
  -- Whether a branch has been taken among the siblings up to here.
  taken : Bool
deriving DecidableEq

structure Reaction (α : Type) where
  context : Context
  verdict : Except Fault Verdict
  log : Log := []
  fetches : List α := []

abbrev Directive (α : Type) := Tag → Bool → Context → Reaction α

namespace Reaction

variable {α : Type}

def ok (ctx : Context) (a : Action) (taken : Bool) (log : Log := []) : Reaction α :=
  ⟨ctx, .ok ⟨a, taken⟩, log, []⟩

def fail (ctx : Context) (f : Fault) : Reaction α := ⟨ctx, .error f, [], []⟩

end Reaction

-- The directives by element name. Of two for one name the first counts.
structure Directives (α : Type) where
  entries : List (Text × Directive α) := []

namespace Directives

variable {α : Type}

def find? (ds : Directives α) (name : Text) : Option (Directive α) :=
  (ds.entries.find? (·.1 = name)).map (·.2)

def on (ds : Directives α) (name : Text) (d : Directive α) : Directives α :=
  ⟨(name, d) :: ds.entries⟩

end Directives

namespace Tag

-- An attribute that the element cannot do without.
def require (t : Tag) (name : Text) : Except Fault Text :=
  match t.attribute? name with
  | some v => .ok v
  | none => .error (.missingAttribute t.name name)

def inner (t : Tag) : Text := t.content.getD []

end Tag
end EdgeIncludes
