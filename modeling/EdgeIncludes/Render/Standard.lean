import EdgeIncludes.Collection
import EdgeIncludes.Render.Pass

namespace EdgeIncludes
namespace Standard

variable {α : Type}

-- Binds a variable to the value of an attribute, or of the content.
def assign : Directive α := fun t taken ctx =>
  match t.require "name".toList with
  | .error f => .fail ctx f
  | .ok name =>
    let written := (t.attribute? "value".toList).getD (Text.trim t.inner)
    .ok (ctx.set name ((Expr.ofAssignment written).eval ctx)) .remove taken

-- Shows variables, in an attribute or in the content.
def vars : Directive α := fun t taken ctx =>
  match t.attribute? "content".toList with
  | some c =>
    let (out, log) := expand ctx c
    .ok ctx (.replace out) taken log
  | none => .ok ctx (if t.inner = [] then .remove else .content (some .expanded)) taken

-- Groups branches.
def choose : Directive α := fun _ taken ctx => .ok ctx (.content none) taken

-- Takes its branch when its test holds and no sibling has taken one before.
def branch : Directive α := fun t taken ctx =>
  if !taken && testHolds ctx ((t.attribute? "test".toList).getD []) then
    .ok ctx (.content none) true
  else .ok ctx .remove taken

def otherwise : Directive α := fun _ taken ctx =>
  if taken then .ok ctx .remove taken else .ok ctx (.content none) true

-- Repeats its content for the items of a collection.
def forEach : Directive α := fun t taken ctx =>
  match itemsOf ctx ((t.attribute? "collection".toList).getD []) with
  | [] => .ok ctx .remove taken
  | items => .ok ctx (.loop ((t.attribute? "item".toList).getD "item".toList) items) taken

def stop : Directive α := fun _ taken ctx => .ok { ctx with broken := true } .remove taken

-- The position of an argument `ARGS{n}` at the start of a text.
def argumentPosition? (t : Text) : Option Nat := do
  let r ← Text.after? "ARGS\x7b".toList t
  let (ds, r) := Text.spanBy CharSet.decimalDigit.mem r
  let _ ← Text.after? ['\x7d'] r
  Number.natural? ds

def insertPosition (n : Nat) : List Nat → List Nat
  | [] => [n]
  | m :: ms => if n < m then n :: m :: ms else if n = m then m :: ms else m :: insertPosition n ms

-- The positions of all arguments in a text, in ascending order and without repetition.
def argumentPositions : Text → List Nat
  | [] => []
  | c :: t =>
    match argumentPosition? (c :: t) with
    | some n => insertPosition n (argumentPositions t)
    | none => argumentPositions t

-- Stores a function. Its body is not run.
def function : Directive α := fun t taken ctx =>
  match t.require "name".toList with
  | .error f => .fail ctx f
  | .ok name =>
    .ok (ctx.define ⟨name, t.inner, argumentPositions t.inner⟩ name) .remove taken

-- Sets the return value to that of a call, of a text with references, or of a literal.
def answer : Directive α := fun t taken ctx =>
  let written := (t.attribute? "value".toList).getD []
  match call? ctx written with
  | some (.error f) => .fail ctx (.badCall f)
  | some (.ok (v, e)) =>
    .ok { ctx with returned := some v } .remove taken (e.map .effect).toList
  | none =>
    let v := if Text.contains opener written then .text (substitute ctx written)
      else evalWord written
    .ok { ctx with returned := some v } .remove taken

-- Gives its content as written.
def text : Directive α := fun t taken ctx => .ok ctx (.replace t.inner) taken

def delete : Directive α := fun _ taken ctx => .ok ctx .remove taken

-- The elements that are dropped with all that is in them.
def deletedNames : List String := ["comment", "remove", "try", "attempt", "except", "eval"]

def named : List (String × Directive α) :=
  [("assign", assign), ("vars", vars), ("choose", choose), ("when", branch),
    ("otherwise", otherwise), ("foreach", forEach), ("break", stop), ("function", function),
    ("return", answer), ("text", text)]
    ++ deletedNames.map fun n => (n, delete)

def directives : Directives α := ⟨named.map fun e => (e.1.toList, e.2)⟩

end Standard
end EdgeIncludes
