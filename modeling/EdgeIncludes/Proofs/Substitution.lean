import EdgeIncludes.Builtin.Call
import EdgeIncludes.Proofs.Parenthesis

namespace EdgeIncludes

-- A character that means nothing in references, in calls and in elements.
def isPlain (c : Char) : Bool :=
  !Text.isBlank c && !"$'\"()[]\x7b\x7d|,<>/".toList.contains c

structure PlainName (name : Text) : Prop where
  ne_nil : name ≠ []
  plain : ∀ c ∈ name, isPlain c = true

-- Letters, digits and underscores are plain.
theorem isPlain_of_isNameChar {c : Char} (h : Condition.isNameChar c = true) :
    isPlain c = true := by
  have hb : Text.isBlank c = false := by
    refine Bool.eq_false_iff.2 fun hb => ?_
    delta Condition.isNameChar Char.isAlphanum Char.isAlpha Char.isUpper Char.isLower
      Char.isDigit at h
    simp only [Bool.or_eq_true, Bool.and_eq_true, decide_eq_true_eq, ge_iff_le,
      UInt32.le_iff_toNat_le, Char.toNat_val, ← Char.toNat_inj, Char.reduceToNat] at h
    simp only [Text.isBlank, Bool.or_eq_true, Bool.and_eq_true, decide_eq_true_eq] at hb
    omega
  have hd : "$'\"()[]\x7b\x7d|,<>/".toList.all (!Condition.isNameChar ·) = true := by decide
  have hm : c ∉ "$'\"()[]\x7b\x7d|,<>/".toList := by
    intro hm
    have hn := List.all_eq_true.1 hd c hm
    simp [h] at hn
  rw [isPlain, hb, Bool.not_false, Bool.true_and, Bool.not_eq_true', List.contains_eq_mem]
  exact decide_eq_false hm

namespace PlainName

variable {name : Text}

theorem of_isNameChar (hne : name ≠ []) (h : name.all Condition.isNameChar = true) :
    PlainName name :=
  ⟨hne, fun c hc => isPlain_of_isNameChar (List.all_eq_true.1 h c hc)⟩

theorem not_mem (h : PlainName name) {c : Char} (hc : isPlain c = false) : c ∉ name := by
  intro hm
  rw [h.plain c hm] at hc
  cases hc

theorem trim_eq (h : PlainName name) : Text.trim name = name := by
  have hb : ∀ c ∈ name, Text.isBlank c = false := by
    intro c hc
    have hp := h.plain c hc
    rw [isPlain, Bool.and_eq_true, Bool.not_eq_true'] at hp
    exact hp.1
  exact Text.trimBy_eq_self (fun c hc => hb c (List.mem_of_mem_head? hc))
    fun c hc => hb c (List.mem_of_mem_getLast? hc)

theorem enclosed (h : PlainName name) : Enclosed name := by
  refine .of_isLoose fun c hc => ?_
  have hq : c ≠ '\'' := fun he => h.not_mem (by decide) (he ▸ hc)
  have ho : c ≠ '(' := fun he => h.not_mem (by decide) (he ▸ hc)
  have he : c ≠ ')' := fun he => h.not_mem (by decide) (he ▸ hc)
  simp [isLoose, isQuote, hq, ho, he]

-- A plain name has neither a default nor a subscript.
theorem ofText_eq (h : PlainName name) : Reference.ofText name = ⟨name, none⟩ := by
  rw [Reference.ofText, splitTop_eq_singleton (h.not_mem (by decide))]
  simp only [h.trim_eq]

theorem subscript?_eq (h : PlainName name) : Reference.subscript? name = none := by
  rw [Reference.subscript?, Text.cut?_eq_none (h.not_mem (by decide))]
  rfl

end PlainName

theorem Enclosed.token {inside : Text} (h : Enclosed inside) : Enclosed (token inside) :=
  .char (by decide) (.nested h .nil)

theorem trim_token (inside : Text) : Text.trim (token inside) = token inside := by
  refine Text.trimBy_eq_self ?_ ?_
  · rintro c ⟨⟩
    decide
  · intro c hc
    rw [token, List.getLast?_concat] at hc
    cases hc
    decide

-- A reference is read up to its own parenthesis, whatever stands behind it.
theorem reference?_token {inside : Text} (h : Enclosed inside) (hne : inside ≠ []) (r : Text) :
    reference? (token inside ++ r) = some (inside, r) := by
  have htext : token inside ++ r = opener ++ (inside ++ ')' :: r) := by simp [token]
  rw [reference?, htext, Text.after?_append, Option.bind_some, h.closing?_eq, Option.filter_some,
    if_pos (decide_eq_true hne)]

-- No reference of the text is complete.
def Unreferenced (t : Text) : Prop :=
  ∀ a r, Text.cut? opener t = some (a, r) → closing? r = none

section Interpolate

variable {ctx : Context} {t a r inside rest name base k : Text}

theorem interpolate_of_closing? (h : Text.cut? opener t = some (a, r))
    (hc : closing? r = some (inside, rest)) :
    interpolate ctx t = a ++ render ctx inside ++ interpolate ctx rest := by
  rw [interpolate]
  split
  · simp_all
  · rename_i h'
    rw [h] at h'
    cases h'
    split <;> simp_all

theorem interpolate_eq_self (h : Unreferenced t) : interpolate ctx t = t := by
  rw [interpolate]
  split
  · rfl
  · rename_i a r hc
    split
    · rw [List.append_assoc, Text.cut?_eq_append hc, List.append_assoc]
    · rename_i hr
      rw [h a r hc] at hr
      cases hr

theorem unreferenced_of_not_contains (h : Text.contains opener t = false) : Unreferenced t := by
  intro a r hc
  rw [Text.contains_eq_isSome, hc] at h
  cases h

@[simp] theorem interpolate_nil : interpolate ctx [] = [] :=
  interpolate_eq_self (by rintro a r ⟨⟩)

theorem resolve?_of_subscript? (h : Reference.subscript? name = none) :
    resolve? ctx name = (ctx.get? name).map Value.toText := by
  rw [resolve?]
  split
  · rfl
  · simp_all

theorem render_of_resolve? {v : Text} (h : resolve? ctx (Reference.ofText inside).name = some v) :
    render ctx inside = v := by
  rw [render, h]

theorem subscript?_append (hb : '\x7b' ∉ base) :
    Reference.subscript? (base ++ '\x7b' :: (k ++ ['\x7d'])) = some (base, k) := by
  have hc : Text.cut? ['\x7b'] (base ++ '\x7b' :: (k ++ ['\x7d'])) = some (base, k ++ ['\x7d']) :=
    Text.cut?_append hb
  rw [Reference.subscript?, hc]
  simp only [Option.bind_some, Text.before?_append, Option.map_some]

theorem resolve?_of_subscript?_some (h : Reference.subscript? name = some (base, k))
    {literal : Text} (hk : unquote? k = some literal) :
    resolve? ctx name = Reference.lookUp? ctx base literal := by
  rw [resolve?]
  split
  · simp_all
  · rename_i h'
    rw [h] at h'
    cases h'
    simp only [hk]

-- A reference that nothing resolves and that has no default.
theorem render_of_unset (h : resolve? ctx (Reference.ofText inside).name = none)
    (hd : (Reference.ofText inside).default? = none) :
    render ctx inside = Reference.unset inside (Reference.ofText inside).name := by
  rw [render, h]
  dsimp only
  split
  · rename_i d h'
    rw [hd] at h'
    cases h'
  · rfl

-- The reference to a plain name stands for the text of the variable, wherever it is.
theorem interpolate_token (hn : PlainName name) {v : Value} (hv : ctx.get? name = some v)
    (ha : '$' ∉ a) (rest : Text) :
    interpolate ctx (a ++ (token name ++ rest)) = a ++ v.toText ++ interpolate ctx rest := by
  have hc : Text.cut? opener (a ++ (token name ++ rest)) = some (a, name ++ ')' :: rest) := by
    have h := Text.cut?_append (p := ['(']) (r := name ++ ')' :: rest) ha
    simpa [token, opener] using h
  have hr : resolve? ctx (Reference.ofText name).name = some v.toText := by
    rw [hn.ofText_eq, resolve?_of_subscript? hn.subscript?_eq, hv]
    rfl
  rw [interpolate_of_closing? hc (hn.enclosed.closing?_eq rest), render_of_resolve? hr]

end Interpolate

section Substitute

variable {ctx : Context} {a name t : Text}

theorem substitute_eq_self (h : Text.contains opener t = false) : substitute ctx t = t := by
  rw [Text.contains_eq_isSome, Option.isSome_eq_false_iff, Option.isNone_iff_eq_none] at h
  rw [substitute]
  split
  · rfl
  · rename_i h'
    rw [h] at h'
    cases h'

-- The reference to a plain name is replaced, and the rest of the text is looked at by itself.
theorem substitute_append_token (ha : Text.contains opener a = false) (hn : PlainName name)
    (r : Text) :
    substitute ctx (a ++ (token name ++ r)) =
      a ++ (((ctx.get? name).map Value.toText).getD (token name) ++ substitute ctx r) := by
  have hcut : Text.cut? opener (a ++ (token name ++ r)) = some (a, name ++ ')' :: r) := by
    rw [token, List.append_assoc, List.append_assoc]
    exact Text.cut?_append_of_not_contains (by decide) ha
  have hend : Text.cut? [')'] (name ++ ')' :: r) = some (name, r) :=
    Text.cut?_append (hn.not_mem (by decide))
  rw [substitute]
  split
  · simp_all
  · rename_i h
    rw [hcut] at h
    cases h
    split
    · simp_all
    · rename_i h
      rw [hend] at h
      cases h
      rw [if_neg hn.ne_nil, List.append_assoc]

end Substitute

section Calls

theorem ofName?_name (f : Builtin) : Builtin.ofName? f.name.toList = some f := by
  cases f <;> decide

theorem ofName?_eq_some_iff {t : Text} {f : Builtin} :
    Builtin.ofName? t = some f ↔ t = f.name.toList := by
  constructor
  · intro h
    have hname := List.find?_some h
    exact (of_decide_eq_true hname).symm
  · rintro rfl
    exact ofName?_name f

-- How a call of the function opens.
def Builtin.opening (f : Builtin) : Text := '$' :: f.name.toList ++ ['(']

theorem opening_append (f : Builtin) (r : Text) :
    f.opening ++ r = ['$'] ++ (f.name.toList ++ '(' :: r) := by
  simp [Builtin.opening]

theorem callStart?_opening (f : Builtin) (r : Text) :
    callStart? (f.opening ++ r) = some (f, r) := by
  have hn : ∀ c ∈ f.name.toList, Condition.isNameChar c = true :=
    List.all_eq_true.1 (by cases f <;> decide)
  have hs : Text.spanBy Condition.isNameChar (f.name.toList ++ '(' :: r) =
      (f.name.toList, '(' :: r) := by
    have he : Condition.isNameChar '(' = false := by decide
    rw [Text.spanBy, List.takeWhile_append_of_pos hn, List.dropWhile_append_of_pos hn]
    simp [he]
  rw [callStart?, opening_append, Text.after?_append]
  simp only [Option.bind_eq_bind, Option.bind_some, hs, ofName?_name]
  rfl

-- A call starts where the opening of its function stands.
theorem callStart?_eq_some_iff {t r : Text} {f : Builtin} :
    callStart? t = some (f, r) ↔ t = f.opening ++ r := by
  constructor
  · intro h
    simp only [callStart?, Option.bind_eq_bind, Option.bind_eq_some_iff, Option.pure_def] at h
    obtain ⟨a, ha, g, hg, b, hb, he⟩ := h
    obtain ⟨rfl, rfl⟩ := Prod.mk.inj (Option.some.inj he)
    rw [Text.after?_eq_some_iff] at ha hb
    have hspan : Text.spanBy Condition.isNameChar a = (g.name.toList, '(' :: b) :=
      Prod.ext (ofName?_eq_some_iff.1 hg) hb
    have hjoin : a = g.name.toList ++ '(' :: b := by
      rw [← List.takeWhile_append_dropWhile (p := Condition.isNameChar) (l := a)]
      exact congrArg (fun p => p.1 ++ p.2) hspan
    rw [ha, hjoin, opening_append]
  · rintro rfl
    exact callStart?_opening f r

-- No call of a built-in function opens in the text.
def CallFree (t : Text) : Prop := ∀ f : Builtin, Text.contains f.opening t = false

theorem CallFree.of_not_mem {t : Text} (h : '$' ∉ t) : CallFree t :=
  fun _ => Text.contains_eq_false h

-- The search passes over such a text, also where the next call follows it.
theorem CallFree.callFrom_append {a t : Text} (h : CallFree a) (ht : ∀ c ∈ t.head?, c = '$')
    (n : Nat) : callFrom n (a ++ t) = callFrom (n + a.length) t := by
  induction a generalizing n with
  | nil => rfl
  | cons c a ih =>
    have hcons : ∀ f : Builtin, Text.startsWith f.opening (c :: a) = false ∧
        Text.contains f.opening a = false := fun f =>
      Bool.or_eq_false_iff.1 ((Text.contains_cons f.opening c a).symm.trans (h f))
    have hs : callStart? (c :: (a ++ t)) = none := by
      refine Option.eq_none_iff_forall_ne_some.2 ?_
      rintro ⟨f, r⟩ hf
      have hdollar : '$' ∉ f.name.toList ++ ['('] := by cases f <;> decide
      have hstart : Text.startsWith f.opening (c :: a ++ t) = false := by
        cases t with
        | nil => rw [List.append_nil]; exact (hcons f).1
        | cons d t =>
          rw [ht d rfl]
          exact Text.startsWith_append_of_not_mem hdollar (List.cons_ne_nil c a) (hcons f).1
      rw [callStart?_eq_some_iff, ← List.cons_append] at hf
      rw [hf, Text.startsWith_append] at hstart
      cases hstart
    rw [List.cons_append, callFrom, hs, if_neg (by simp), ih fun f => (hcons f).2]
    congr 1
    simp only [List.length_cons]
    omega

theorem findCall?_append {a : Text} (h : CallFree a) (f : Builtin) (r : Text) :
    findCall? (a ++ (f.opening ++ r)) = some ⟨a, f, r⟩ := by
  have ho : ∃ o, f.opening ++ r = '$' :: o := ⟨_, rfl⟩
  have hf : callFrom (0 + a.length) (f.opening ++ r) = some a.length := by
    obtain ⟨o, ho⟩ := ho
    have hs := callStart?_opening f r
    rw [ho] at hs ⊢
    rw [callFrom, hs, Nat.zero_add]
    rfl
  have hd : ∀ c ∈ (f.opening ++ r).head?, c = '$' := by
    rintro c ⟨⟩
    rfl
  rw [findCall?, h.callFrom_append hd, hf]
  simp [callStart?_opening, List.drop_append]

theorem findCall?_eq_none {t : Text} (h : CallFree t) : findCall? t = none := by
  have hf := h.callFrom_append (t := []) (by simp) 0
  rw [List.append_nil] at hf
  rw [findCall?, hf]
  rfl

variable {ctx : Context} {t args rest : Text}

-- A reference among the arguments stands for the text of the variable.
theorem arguments_token {name : Text} {v : Value} (hn : PlainName name)
    (hv : ctx.get? name = some v) : arguments ctx (token name) = [.text v.toText] := by
  have hb : Text.isBlankText (token name) = false := rfl
  have hs : splitTop ',' (token name) = [token name] := by
    refine splitTop_eq_singleton ?_
    simp only [token, opener, List.mem_append, not_or]
    exact ⟨⟨by decide, hn.not_mem (by decide)⟩, by decide⟩
  have hu : unquote? (token name) = none := rfl
  have hc : Text.contains opener (token name) = true := by
    rw [token, List.append_assoc, Text.contains_eq_isSome]
    exact congrArg Option.isSome (Text.cut?_append (c := '$') (p := ['(']) (a := []) (by simp))
  have hi : interpolate ctx (token name) = v.toText := by
    have h := interpolate_token hn hv (a := []) (by simp) []
    rwa [interpolate_nil, List.append_nil, List.append_nil] at h
  rw [arguments, hb, if_neg Bool.false_ne_true, hs]
  simp only [List.map_cons, List.map_nil, argument, trim_token, hu, hc, if_true, hi]

theorem substituteCalls_eq_self (h : findCall? t = none) : substituteCalls ctx t = (t, []) := by
  rw [substituteCalls]
  split
  · rfl
  · simp_all

-- A call as it is written.
structure Call where
  function : Builtin
  inside : Text

namespace Call

def toText (c : Call) : Text := c.function.opening ++ (c.inside ++ [')'])

def result (ctx : Context) (c : Call) : CallResult := c.function.apply (arguments ctx c.inside)

-- What stands for the call, and what is reported. A call that fails stays as it is written.
def shown (ctx : Context) (c : Call) : Text × Log :=
  match c.result ctx with
  | .ok (v, e) => (v.toText, (e.map .effect).toList)
  | .error f => (c.toText, [.callFailed f])

theorem shown_of_ok {c : Call} {v : Value} {e : Option Effect} (h : c.result ctx = .ok (v, e)) :
    c.shown ctx = (v.toText, (e.map .effect).toList) := by
  rw [shown, h]

theorem shown_of_error {c : Call} {f : CallFault} (h : c.result ctx = .error f) :
    c.shown ctx = (c.toText, [.callFailed f]) := by
  rw [shown, h]

end Call

-- A call whose parenthesis ends is replaced, and the search goes on behind it.
theorem substituteCalls_of_closing? {c : FoundCall} (h : findCall? t = some c)
    (hc : closing? c.behind = some (args, rest)) :
    let shown := Call.shown ctx ⟨c.function, args⟩
    substituteCalls ctx t = (c.front ++ (shown.1 ++ (substituteCalls ctx rest).1),
      shown.2 ++ (substituteCalls ctx rest).2) := by
  intro shown
  rw [substituteCalls]
  split
  · simp_all
  · rename_i h'
    rw [h] at h'
    cases h'
    split
    · simp_all
    · rename_i hc'
      rw [hc] at hc'
      cases hc'
      cases hv : c.function.apply (arguments ctx args) with
      | ok p =>
        have hs : shown = _ := Call.shown_of_ok hv
        simp [hs]
      | error f =>
        have hs : shown = _ := Call.shown_of_error hv
        simp [hs, Call.toText, Builtin.opening]

theorem substituteCalls_of_closing?_eq_none {c : FoundCall} (h : findCall? t = some c)
    (hc : closing? c.behind = none) : substituteCalls ctx t = (t, []) := by
  rw [substituteCalls]
  split
  · rfl
  · rename_i h'
    rw [h] at h'
    cases h'
    split
    · rfl
    · simp_all

-- Behind text without calls a call is replaced, and what follows it is looked at by itself.
theorem substituteCalls_append_call {a : Text} {c : Call} (ha : CallFree a) (hc : Enclosed c.inside)
    (r : Text) :
    substituteCalls ctx (a ++ (c.toText ++ r)) =
      (a ++ ((c.shown ctx).1 ++ (substituteCalls ctx r).1),
        (c.shown ctx).2 ++ (substituteCalls ctx r).2) := by
  have hfind : findCall? (a ++ (c.toText ++ r)) =
      some ⟨a, c.function, c.inside ++ ')' :: r⟩ := by
    have h := findCall?_append ha c.function (c.inside ++ ')' :: r)
    simpa [Call.toText] using h
  rw [substituteCalls_of_closing? hfind (hc.closing?_eq r)]

theorem substituteCalls_toText {c : Call} (hc : Enclosed c.inside) :
    substituteCalls ctx c.toText = c.shown ctx := by
  have hnil : CallFree [] := .of_not_mem List.not_mem_nil
  have h : substituteCalls ctx ([] ++ (c.toText ++ [])) = _ :=
    substituteCalls_append_call hnil hc []
  rwa [substituteCalls_eq_self (findCall?_eq_none hnil), List.append_nil, List.append_nil,
    List.append_nil] at h

end Calls
end EdgeIncludes
