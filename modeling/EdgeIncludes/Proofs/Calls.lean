import EdgeIncludes.Proofs.Substitution

namespace EdgeIncludes

-- A text with calls: what stands in front of the first one, and each call with what is behind it.
structure Script where
  front : Text
  calls : List (Call × Text)

namespace Script

-- The text with something in the place of each call.
def fill (stand : Call → Text) (s : Script) : Text :=
  s.front ++ s.calls.flatMap fun c => stand c.1 ++ c.2

def toText (s : Script) : Text := s.fill Call.toText

-- Every call ends with its own parenthesis, and around the calls no other one opens.
structure Fits (s : Script) : Prop where
  front : CallFree s.front
  inside : ∀ c ∈ s.calls, Enclosed c.1.inside
  behind : ∀ c ∈ s.calls, CallFree c.2

theorem fill_cons (stand : Call → Text) (a : Text) (c : Call × Text) (cs : List (Call × Text)) :
    fill stand ⟨a, c :: cs⟩ = a ++ (stand c.1 ++ fill stand ⟨c.2, cs⟩) := by
  simp [fill]

end Script

section Substitution

variable {ctx : Context} {a e r : Text} {f : Builtin} {s : Script}

theorem substituteCalls_callFree (h : CallFree a) : substituteCalls ctx a = (a, []) :=
  substituteCalls_eq_self (findCall?_eq_none h)

-- A call that never ends is left with all that follows.
theorem substituteCalls_append_unclosed (ha : CallFree a) (hr : closing? r = none) :
    substituteCalls ctx (a ++ (f.opening ++ r)) = (a ++ (f.opening ++ r), []) :=
  substituteCalls_of_closing?_eq_none (findCall?_append ha f r) hr

-- Each call is replaced once, in front of any ending that is left as it is.
theorem substituteCalls_fill (hs : s.Fits)
    (he : ∀ a, CallFree a → substituteCalls ctx (a ++ e) = (a ++ e, [])) :
    substituteCalls ctx (s.toText ++ e) =
      (s.fill (fun c => (c.shown ctx).1) ++ e, s.calls.flatMap fun c => (c.1.shown ctx).2) := by
  obtain ⟨a, cs⟩ := s
  obtain ⟨ha, hinside, hbehind⟩ := hs
  induction cs generalizing a with
  | nil =>
    have htext : ∀ stand, Script.fill stand ⟨a, []⟩ = a := fun stand => List.append_nil a
    rw [Script.toText, htext, htext, he a ha]
    rfl
  | cons c cs ih =>
    obtain ⟨hc, hinside⟩ := List.forall_mem_cons.1 hinside
    obtain ⟨hb, hbehind⟩ := List.forall_mem_cons.1 hbehind
    have hrest := ih c.2 hb hinside hbehind
    rw [Script.toText] at hrest
    rw [Script.toText, Script.fill_cons, List.append_assoc, List.append_assoc,
      substituteCalls_append_call ha hc, hrest, Script.fill_cons, List.flatMap_cons]
    simp only [List.append_assoc]

-- Where a call opens in a text there is a first one.
theorem callFree_or_exists (t : Text) :
    CallFree t ∨ ∃ a f r, CallFree a ∧ t = a ++ (Builtin.opening f ++ r) := by
  induction t with
  | nil => exact .inl (.of_not_mem List.not_mem_nil)
  | cons c t ih =>
    by_cases hstart : ∃ f : Builtin, Text.startsWith f.opening (c :: t) = true
    · obtain ⟨f, hf⟩ := hstart
      obtain ⟨r, hr⟩ := Text.startsWith_iff.1 hf
      exact .inr ⟨[], f, r, .of_not_mem List.not_mem_nil, hr⟩
    · have hcons : ∀ {a r}, t = a ++ r → CallFree a → CallFree (c :: a) := by
        rintro a r rfl ha f
        have hf : Text.startsWith f.opening (c :: a) = false := by
          refine Bool.eq_false_iff.2 fun h => hstart ⟨f, ?_⟩
          obtain ⟨u, hu⟩ := Text.startsWith_iff.1 h
          exact Text.startsWith_iff.2 ⟨u ++ r, by rw [← List.cons_append, hu, List.append_assoc]⟩
        rw [Text.contains_cons, hf, ha f]
        rfl
      rcases ih with ht | ⟨a, f, r, ha, rfl⟩
      · exact .inl (hcons (List.append_nil t).symm ht)
      · exact .inr ⟨c :: a, f, r, hcons rfl ha, rfl⟩

-- So every text is one with calls, up to the first call that never ends if there is one.
theorem exists_script (t : Text) : ∃ s : Script, s.Fits ∧
    (t = s.toText ∨ ∃ f r, closing? r = none ∧ t = s.toText ++ (Builtin.opening f ++ r)) := by
  induction hk : t.length using Nat.strongRecOn generalizing t with
  | ind k ih =>
    subst hk
    rcases callFree_or_exists t with ht | ⟨a, f, r, ha, rfl⟩
    · exact ⟨⟨t, []⟩, ⟨ht, nofun, nofun⟩, .inl (List.append_nil t).symm⟩
    rcases hclosing : closing? r with _ | ⟨inside, rest⟩
    · have htext : Script.toText ⟨a, []⟩ = a := List.append_nil a
      exact ⟨⟨a, []⟩, ⟨ha, nofun, nofun⟩, .inr ⟨f, r, hclosing, by rw [htext]⟩⟩
    obtain ⟨hinside, rfl⟩ := closing?_eq_some_iff.1 hclosing
    obtain ⟨s, hs, hrest⟩ := ih rest.length (by simp; omega) rest rfl
    let c : Call := ⟨f, inside⟩
    refine ⟨⟨a, (c, s.front) :: s.calls⟩, ⟨ha, List.forall_mem_cons.2 ⟨hinside, hs.inside⟩,
      List.forall_mem_cons.2 ⟨hs.front, hs.behind⟩⟩, ?_⟩
    have htext : Script.toText ⟨a, (c, s.front) :: s.calls⟩ = a ++ (c.toText ++ s.toText) :=
      Script.fill_cons ..
    rcases hrest with rfl | ⟨g, u, hu, rfl⟩
    · exact .inl (by rw [htext]; simp [c, Call.toText])
    · exact .inr ⟨g, u, hu, by rw [htext]; simp [c, Call.toText]⟩

end Substitution

-- In a text each call is replaced by what it comes to, what it reports is reported in order, and
-- the text around the calls is kept. A call that never ends behind all of that is kept, and so is
-- its rest.
theorem substituteCalls_script (ctx : Context) (s : Script) (h : s.Fits) :
    let text := s.fill fun c => (c.shown ctx).1
    let log := s.calls.flatMap fun c => (c.1.shown ctx).2
    substituteCalls ctx s.toText = (text, log) ∧
      ∀ (f : Builtin) r, (∀ a b, Enclosed a → r ≠ a ++ ')' :: b) →
        substituteCalls ctx (s.toText ++ (f.opening ++ r)) = (text ++ (f.opening ++ r), log) := by
  intro text log
  refine ⟨?_, fun f r hr => ?_⟩
  · have hplain : substituteCalls ctx (s.toText ++ []) = (text ++ [], log) :=
      substituteCalls_fill h fun a ha => by rw [List.append_nil, substituteCalls_callFree ha]
    rwa [List.append_nil, List.append_nil] at hplain
  · exact substituteCalls_fill h fun a ha =>
      substituteCalls_append_unclosed ha (closing?_eq_none_iff.2 hr)

-- A name without its parenthesis, a value that looks like a call, a call that fails and one that
-- asks for an effect, and behind them a call whose quotation is never closed.
theorem substituteCalls_script_unclosed :
    let ctx : Context := { vars := ⟨[(['u'], .text "$lower(X)".toList)]⟩ }
    let s : Script := ⟨"$it's ($lower".toList, [(⟨.lower, token ['u']⟩, ['$']),
      (⟨.lower, []⟩, ")(".toList), (⟨.setRedirect, "'a)b'".toList⟩, ['\''])]⟩
    let log : Log := [.callFailed (.argumentCount .lower), .effect (.redirect "a)b".toList)]
    s.Fits ∧ (∀ a b, Enclosed a → "a'b) $lower(C)".toList ≠ a ++ ')' :: b) ∧
      s.toText = "$it's ($lower$lower($(u))$$lower())($set_redirect('a)b')'".toList ∧
      substituteCalls ctx s.toText = ("$it's ($lower$lower(x)$$lower())('".toList, log) ∧
      substituteCalls ctx (s.toText ++ "$replace(a'b) $lower(C)".toList) =
        ("$it's ($lower$lower(x)$$lower())('$replace(a'b) $lower(C)".toList, log) := by
  intro ctx s log
  have hfits : s.Fits := by
    refine ⟨fun f => by cases f <;> decide, ?_, ?_⟩
    · simp only [s, List.forall_mem_cons, List.not_mem_nil, false_implies, implies_true, and_true]
      exact ⟨by decide, by decide, by decide⟩
    · simp only [s, List.forall_mem_cons, List.not_mem_nil, false_implies, implies_true, and_true]
      exact ⟨fun f => by cases f <;> decide, fun f => by cases f <;> decide,
        fun f => by cases f <;> decide⟩
  have hnone := closing?_eq_none_iff.1 (by decide : closing? "a'b) $lower(C)".toList = none)
  obtain ⟨hplain, hunclosed⟩ := substituteCalls_script ctx s hfits
  have hvalue : Call.shown ctx ⟨.lower, token ['u']⟩ = ("$lower(x)".toList, []) := by
    have hname : PlainName ['u'] := .of_isNameChar (by decide) (by decide)
    have hget : ctx.get? ['u'] = some (.text "$lower(X)".toList) := by decide
    have hresult : Call.result ctx ⟨.lower, token ['u']⟩ =
        .ok (.text "$lower(x)".toList, none) := by
      rw [Call.result, arguments_token hname hget]
      rfl
    exact Call.shown_of_ok hresult
  have hfails : Call.shown ctx ⟨.lower, []⟩ =
      ("$lower()".toList, [.callFailed (.argumentCount .lower)]) := by decide +kernel
  have heffect : Call.shown ctx ⟨.setRedirect, "'a)b'".toList⟩ =
      ([], [.effect (.redirect "a)b".toList)]) := by decide +kernel
  have htext : s.fill (fun c => (c.shown ctx).1) =
      "$it's ($lower$lower(x)$$lower())('".toList := by
    simp only [s, Script.fill, List.flatMap_cons, List.flatMap_nil, hvalue, hfails, heffect]
    decide +kernel
  have hlog : (s.calls.flatMap fun c => (c.1.shown ctx).2) = log := by
    simp only [s, List.flatMap_cons, List.flatMap_nil, hvalue, hfails, heffect]
    rfl
  have hend : "$replace(a'b) $lower(C)".toList =
      Builtin.replace.opening ++ "a'b) $lower(C)".toList := by decide +kernel
  rw [hplain, hend, hunclosed .replace _ hnone, htext, hlog]
  exact ⟨hfits, hnone, by decide +kernel, rfl, by decide +kernel⟩

section Whole

variable {ctx : Context} {t : Text} {r : CallResult}

theorem call?_eq (ctx : Context) (t : Text) :
    call? ctx t = (Text.after? ['$'] (Text.trim t)).bind fun u =>
      (Text.cut? ['('] u).bind fun p => (Builtin.ofName? p.1).bind fun f =>
        (Text.before? [')'] p.2).bind fun inside => some (f.apply (arguments ctx inside)) :=
  rfl

-- A text is read as a call when it is one up to its last character, whatever the parentheses do
-- between the first and the last.
theorem call?_eq_some_iff :
    call? ctx t = some r ↔ ∃ c : Call, Text.trim t = c.toText ∧ c.result ctx = r := by
  rw [call?_eq]
  simp only [Option.bind_eq_some_iff, Text.after?_eq_some_iff, Text.before?_eq_some_iff,
    ofName?_eq_some_iff, Option.some.injEq]
  constructor
  · rintro ⟨u, hu, ⟨name, v⟩, hcut, f, hf, inside, hv, hresult⟩
    dsimp only at hf hv
    refine ⟨⟨f, inside⟩, ?_, hresult⟩
    rw [hu, Text.cut?_eq_append hcut, hf, hv]
    simp [Call.toText, Builtin.opening]
  · rintro ⟨⟨f, inside⟩, ht, hresult⟩
    have hname : '(' ∉ f.name.toList := by cases f <;> decide
    have hcut := Text.cut?_append (p := []) (r := inside ++ [')']) hname
    refine ⟨_, ht.trans ?_, _, hcut, f, rfl, inside, rfl, hresult⟩
    simp [Call.toText, Builtin.opening]

end Whole

-- A text is read as a call exactly when it is one up to its last character, with any blanks around
-- it. When the last character closes the parenthesis of the call, it comes to the same in a text.
theorem call_readings_agree (ctx : Context) (t : Text) :
    (∀ r, call? ctx t = some r ↔ ∃ c : Call, Text.trim t = c.toText ∧ c.result ctx = r) ∧
      ∀ c : Call, Text.trim t = c.toText → Enclosed c.inside →
        (∀ v e, call? ctx t = some (.ok (v, e)) →
          substituteCalls ctx (Text.trim t) = (v.toText, (e.map .effect).toList)) ∧
        ∀ f, call? ctx t = some (.error f) →
          substituteCalls ctx (Text.trim t) = (Text.trim t, [.callFailed f]) := by
  refine ⟨fun r => call?_eq_some_iff, fun c ht hc => ?_⟩
  have hread : call? ctx t = some (c.result ctx) := call?_eq_some_iff.2 ⟨c, ht, rfl⟩
  have hshown : substituteCalls ctx (Text.trim t) = c.shown ctx := by
    rw [ht, substituteCalls_toText hc]
  refine ⟨fun v e h => ?_, fun f h => ?_⟩
  · rw [hshown, Call.shown_of_ok (Option.some.inj (hread.symm.trans h))]
  · rw [hshown, Call.shown_of_error (Option.some.inj (hread.symm.trans h)), ht]

-- A parenthesis in a quotation, and blanks around the call.
theorem call_readings_agree_quoted :
    let t := "\u00a0$replace('a)b', ')', '-')\n".toList
    let c : Call := ⟨.replace, "'a)b', ')', '-'".toList⟩
    Text.trim t = c.toText ∧ Enclosed c.inside ∧
      call? {} t = some (.ok (.text "a-b".toList, none)) ∧
      substituteCalls {} (Text.trim t) = ("a-b".toList, []) := by
  intro t c
  have htrim : Text.trim t = c.toText := by decide +kernel
  have hinside : Enclosed c.inside := by decide
  have hresult : c.result {} = .ok (.text "a-b".toList, none) := by rfl
  obtain ⟨hread, hagree⟩ := call_readings_agree {} t
  have hcall : call? {} t = some (.ok (.text "a-b".toList, none)) := (hread _).2 ⟨c, htrim, hresult⟩
  exact ⟨htrim, hinside, hcall, (hagree c htrim hinside).1 _ _ hcall⟩

-- Two calls in a row are read as one, up to the last parenthesis, but in a text each is replaced.
theorem call_readings_differ :
    let t := "$lower('A')$lower('B')".toList
    Text.trim t = t ∧ call? {} t = some (.ok (.text "a')$lower('b".toList, none)) ∧
      substituteCalls {} (Text.trim t) = ("ab".toList, []) ∧ "a')$lower('b".toList ≠ "ab".toList ∧
      ¬Enclosed "'A')$lower('B'".toList := by
  intro t
  let c : Call := ⟨.lower, "'A'".toList⟩
  let d : Call := ⟨.lower, "'B'".toList⟩
  have htrim : Text.trim t = t := by decide +kernel
  have hread : Call.result {} ⟨.lower, "'A')$lower('B'".toList⟩ =
      .ok (.text "a')$lower('b".toList, none) := by rfl
  have hc : c.shown {} = (['a'], []) := by decide +kernel
  have hd : d.shown {} = (['b'], []) := by decide +kernel
  have ht : t = [] ++ (c.toText ++ d.toText) := by decide +kernel
  refine ⟨htrim, call?_eq_some_iff.2 ⟨_, by decide +kernel, hread⟩, ?_, by decide, by decide⟩
  rw [htrim, ht, substituteCalls_append_call (.of_not_mem List.not_mem_nil) (by decide) d.toText,
    substituteCalls_toText (by decide), hc, hd]
  decide

end EdgeIncludes
