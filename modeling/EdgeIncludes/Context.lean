import EdgeIncludes.Value

namespace EdgeIncludes

-- Names bound to data. A second binding of a name takes the place of the first.
structure Bindings (α : Type) where
  entries : List (Text × α) := []
deriving DecidableEq

namespace Bindings

variable {α : Type}

def get? (b : Bindings α) (name : Text) : Option α := (b.entries.find? (·.1 = name)).map (·.2)

def setIn (name : Text) (a : α) : List (Text × α) → List (Text × α)
  | [] => [(name, a)]
  | e :: es => if e.1 = name then (name, a) :: es else e :: setIn name a es

def set (b : Bindings α) (name : Text) (a : α) : Bindings α := ⟨setIn name a b.entries⟩

def erase (b : Bindings α) (name : Text) : Bindings α := ⟨b.entries.filter (·.1 ≠ name)⟩

theorem find?_setIn (name j : Text) (a : α) (es : List (Text × α)) :
    ((setIn name a es).find? (·.1 = j)).map (·.2)
      = if name = j then some a else (es.find? (·.1 = j)).map (·.2) := by
  induction es with
  | nil => by_cases h : name = j <;> simp [setIn, h]
  | cons e es ih =>
    by_cases he : e.1 = name
    · by_cases h : name = j <;> simp [setIn, he, h]
    · by_cases hj : e.1 = j
      · have : name ≠ j := fun h => he (hj.trans h.symm)
        simp [setIn, hj, this]
        grind
      · simp [setIn, he, hj, ih]

@[simp] theorem get?_set (b : Bindings α) (name j : Text) (a : α) :
    (b.set name a).get? j = if name = j then some a else b.get? j :=
  find?_setIn ..

@[simp] theorem get?_erase (b : Bindings α) (name j : Text) :
    (b.erase name).get? j = if name = j then none else b.get? j := by
  unfold get? erase
  rw [List.find?_filter]
  by_cases h : name = j
  · subst h
    simp only [if_true, Option.map_eq_none_iff, List.find?_eq_none]
    grind
  · simp only [h, if_false]
    congr 2
    funext x
    grind

end Bindings

-- A function keeps its body as written. The parameters are the argument positions that the body
-- mentions, in ascending order.
structure Function where
  name : Text
  body : Text
  parameters : List Nat
deriving DecidableEq

structure Context where
  vars : Bindings Value := ⟨[]⟩
  functions : Bindings Function := ⟨[]⟩
  broken : Bool := false
  returned : Option Value := none
deriving DecidableEq

namespace Context

-- Binding null removes the variable.
def set (ctx : Context) (name : Text) (v : Value) : Context :=
  { ctx with
    vars := if v = .null then ctx.vars.erase name else ctx.vars.set name v }

def get? (ctx : Context) (name : Text) : Option Value := ctx.vars.get? name

def setAll (ctx : Context) (es : List (Text × Value)) : Context :=
  es.foldl (fun ctx e => ctx.set e.1 e.2) ctx

def define (ctx : Context) (f : Function) (name : Text) : Context :=
  { ctx with functions := ctx.functions.set name f }

def function? (ctx : Context) (name : Text) : Option Function := ctx.functions.get? name

theorem get?_set (ctx : Context) (name j : Text) (v : Value) :
    (ctx.set name v).get? j
      = if name = j then (if v = .null then none else some v) else ctx.get? j := by
  by_cases h : v = .null <;> simp [set, get?, h]

end Context
end EdgeIncludes
