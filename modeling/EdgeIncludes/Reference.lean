import EdgeIncludes.Context
import EdgeIncludes.Nesting

namespace EdgeIncludes

def opener : Text := "$(".toList

def token (reference : Text) : Text := opener ++ reference ++ [')']

-- The inside of a reference: a name, and a default behind the first `|`.
structure Reference where
  name : Text
  default? : Option Text
deriving DecidableEq

namespace Reference

def ofText (t : Text) : Reference :=
  match splitTop '|' t with
  | [] => ⟨[], none⟩
  | [p] => ⟨Text.trim p, none⟩
  | p :: q :: _ => ⟨Text.trim p, some (Text.trim q)⟩

-- A name such as `base{key}` falls into two parts.
def subscript? (name : Text) : Option (Text × Text) :=
  (Text.cut? ['\x7b'] name).bind fun c => (Text.before? ['\x7d'] c.2).map fun key => (c.1, key)

-- Bases whose keyed entries are variables of their own.
def keyedBases : List Text :=
  ["HTTP_COOKIE".toList, "QUERY_STRING".toList, "GEO".toList]

-- Names that are empty, not left as written, when they are unset.
def emptyWhenUnset : List Text :=
  ["HTTP_HOST".toList, "HTTP_USER_AGENT".toList, "REQUEST_PATH".toList, "QUERY_STRING".toList]

-- The entry of a keyed base or of a stored list or dictionary.
def lookUp? (ctx : Context) (base key : Text) : Option Text :=
  if keyedBases.contains base then (ctx.get? (base ++ '_' :: key)).map Value.toText
  else (ctx.get? base).bind (·.index? key)

-- What stands for a reference that nothing resolves.
def unset (reference name : Text) : Text :=
  if '\x7b' ∈ name || emptyWhenUnset.contains name then [] else token reference

theorem length_trimEndBy_le (p : Char → Bool) (t : Text) :
    (Text.trimEndBy p t).length ≤ t.length := by
  have := (List.dropWhile_sublist p (l := t.reverse)).length_le
  simpa [Text.trimEndBy] using this

theorem length_trim_le (t : Text) : (Text.trim t).length ≤ t.length :=
  Nat.le_trans (length_trimEndBy_le ..) (List.dropWhile_sublist _).length_le

theorem length_name_le (t : Text) : (ofText t).name.length ≤ t.length := by
  unfold ofText
  split
  · simp
  · rename_i p h
    exact Nat.le_trans (length_trim_le p) (length_first_le h)
  · rename_i p q ps h
    exact Nat.le_trans (length_trim_le p) (length_first_le h)

theorem length_default?_lt {t d : Text} (h : (ofText t).default? = some d) :
    d.length < t.length := by
  unfold ofText at h
  split at h
  · simp at h
  · simp at h
  · rename_i p q ps hs
    obtain rfl := Option.some.inj h
    exact Nat.lt_of_le_of_lt (length_trim_le q) (length_second_lt hs).1

theorem length_before?_le {p t r : Text} (h : Text.before? p t = some r) : r.length ≤ t.length := by
  obtain ⟨s, hs, rfl⟩ := Option.map_eq_some_iff.1 h
  have := congrArg List.length (Text.after?_eq_some_iff.1 hs)
  simp only [List.length_reverse, List.length_append] at this ⊢
  omega

theorem length_subscript?_lt {name base key : Text} (h : subscript? name = some (base, key)) :
    key.length < name.length := by
  obtain ⟨c, hc, h⟩ := Option.bind_eq_some_iff.1 h
  obtain ⟨k, hk, he⟩ := Option.map_eq_some_iff.1 h
  obtain ⟨rfl, rfl⟩ := Prod.mk.injEq .. ▸ he
  exact Nat.lt_of_le_of_lt (length_before?_le hk) (Text.length_cut?_lt (by simp) hc)

end Reference

open Reference in
mutual

-- Replaces every reference of a text. An opened reference that never ends stays as written, with
-- all that follows.
def interpolate (ctx : Context) (t : Text) : Text :=
  match _h : Text.cut? opener t with
  | none => t
  | some (a, r) =>
    match _hc : closing? r with
    | none => a ++ opener ++ r
    | some (inside, rest) => a ++ render ctx inside ++ interpolate ctx rest
termination_by (t.length, 0)
decreasing_by
  all_goals
    have h1 := Text.length_cut?_lt (by simp [opener]) _h
    have h2 := length_closing? _hc
    exact Prod.Lex.left _ _ (by omega)

-- The value, else the default, else what an unset name stands for.
def render (ctx : Context) (inside : Text) : Text :=
  match resolve? ctx (ofText inside).name with
  | some v => v
  | none =>
    match _h : (ofText inside).default? with
    | some d => (unquote? d).getD (interpolate ctx d)
    | none => unset inside (ofText inside).name
termination_by (inside.length, 2)
decreasing_by
  · exact Prod.Lex.right' _ (length_name_le _) (by decide)
  · exact Prod.Lex.left _ _ (length_default?_lt _h)

-- The text of a variable or of an entry. A key is a literal, or is interpolated first.
def resolve? (ctx : Context) (name : Text) : Option Text :=
  match _h : subscript? name with
  | none => (ctx.get? name).map Value.toText
  | some (base, key) =>
    lookUp? ctx base
      (match unquote? key with
        | some literal => literal
        | none => if Text.contains opener key then interpolate ctx key else key)
termination_by (name.length, 1)
decreasing_by exact Prod.Lex.left _ _ (length_subscript?_lt _h)

end

-- Replaces `$(name)` by the text of the variable, where the name runs to the first `)` and is not
-- empty.
def substitute (ctx : Context) (t : Text) : Text :=
  match _h : Text.cut? opener t with
  | none => t
  | some (a, r) =>
    match _hc : Text.cut? [')'] r with
    | none => t
    | some (name, rest) =>
      if name = [] then a ++ opener ++ substitute ctx r
      else
        a ++ ((ctx.get? name).map Value.toText).getD (token name) ++ substitute ctx rest
termination_by t.length
decreasing_by
  all_goals
    have h1 := Text.length_cut?_lt (by simp [opener]) _h
    have h2 := Text.length_cut?_lt (by simp) _hc
    omega

end EdgeIncludes
