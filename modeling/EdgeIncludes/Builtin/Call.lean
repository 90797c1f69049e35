import EdgeIncludes.Condition
import EdgeIncludes.Expr
import EdgeIncludes.Log

namespace EdgeIncludes

-- A quoted argument is taken literally, one with references is interpolated.
def argument (ctx : Context) (t : Text) : Value :=
  let t := Text.trim t
  match unquote? t with
  | some inner => .text inner
  | none => if Text.contains opener t then .text (interpolate ctx t) else evalWord t

def arguments (ctx : Context) (t : Text) : List Value :=
  if Text.isBlankText t then [] else (splitTop ',' t).map (argument ctx)

-- The value of `$name(...)`, when the name is that of a built-in function.
def call? (ctx : Context) (t : Text) : Option CallResult := do
  let r ← Text.after? ['$'] (Text.trim t)
  let (name, r) ← Text.cut? ['('] r
  let f ← Builtin.ofName? name
  let args ← Text.before? [')'] r
  pure (f.apply (arguments ctx args))

-- The built-in function whose call opens at the start of a text, and what follows the parenthesis.
def callStart? (t : Text) : Option (Builtin × Text) := do
  let r ← Text.after? ['$'] t
  let (name, r) := Text.spanBy Condition.isNameChar r
  let f ← Builtin.ofName? name
  let r ← Text.after? ['('] r
  pure (f, r)

-- Counts the characters in front of the first call of a built-in function.
def callFrom (n : Nat) : Text → Option Nat
  | [] => none
  | c :: t => if (callStart? (c :: t)).isSome then some n else callFrom (n + 1) t

-- A call in a text: what stands in front of it, the function, and what follows its parenthesis.
structure FoundCall where
  front : Text
  function : Builtin
  behind : Text

def findCall? (t : Text) : Option FoundCall := do
  let n ← callFrom 0 t
  let (f, r) ← callStart? (t.drop n)
  pure ⟨t.take n, f, r⟩

theorem length_callStart?_lt {t r : Text} {f : Builtin} (h : callStart? t = some (f, r)) :
    r.length < t.length := by
  simp only [callStart?, Option.bind_eq_bind, Option.bind_eq_some_iff, Option.pure_def] at h
  obtain ⟨a, ha, g, _, b, hb, he⟩ := h
  obtain ⟨_, rfl⟩ := Prod.mk.injEq .. ▸ Option.some.inj he
  have h1 := congrArg List.length (Text.after?_eq_some_iff.1 ha)
  have h2 := Text.length_after?_le hb
  have h3 := (List.dropWhile_sublist Condition.isNameChar (l := a)).length_le
  simp only [Text.spanBy] at h2
  simp only [List.length_append, List.length_cons, List.length_nil] at h1
  exact Nat.lt_of_le_of_lt (Nat.le_trans h2 h3) (by omega)

theorem length_findCall?_lt {t : Text} {c : FoundCall} (h : findCall? t = some c) :
    c.behind.length < t.length := by
  simp only [findCall?, Option.bind_eq_bind, Option.bind_eq_some_iff, Option.pure_def] at h
  obtain ⟨n, _, p, hp, he⟩ := h
  obtain rfl := Option.some.inj he
  have := length_callStart?_lt hp
  simp only [List.length_drop] at this
  exact Nat.lt_of_lt_of_le this (Nat.sub_le ..)

-- A call is replaced by the text of its value. One that fails is reported and left as written, and
-- one whose parenthesis never ends is left with all that follows.
def substituteCalls (ctx : Context) (t : Text) : Text × Log :=
  match _h : findCall? t with
  | none => (t, [])
  | some c =>
    let start := '$' :: c.function.name.toList ++ ['(']
    match _hc : closing? c.behind with
    | none => (t, [])
    | some (args, rest) =>
      let (out, log) := substituteCalls ctx rest
      match c.function.apply (arguments ctx args) with
      | .ok (v, e) => (c.front ++ v.toText ++ out, (e.map .effect).toList ++ log)
      | .error f => (c.front ++ start ++ args ++ ')' :: out, .callFailed f :: log)
termination_by t.length
decreasing_by
  have h1 := length_findCall?_lt _h
  have h2 := length_closing? _hc
  omega

-- The text of an element that shows variables: calls first, then references.
def expand (ctx : Context) (t : Text) : Text × Log :=
  let (t, log) := substituteCalls ctx t
  (interpolate ctx t, log)

end EdgeIncludes
