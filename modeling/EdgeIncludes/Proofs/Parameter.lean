import EdgeIncludes.Proofs.Passes

namespace EdgeIncludes

open Fragment

-- The values of a parameter in the order of the query.
def Url.valuesOf (u : Url) (key : Text) : List Text :=
  (u.queryPairs.filter (·.1 = key)).map (·.2)

theorem Url.queryValue?_eq_head? (u : Url) (key : Text) :
    u.queryValue? key = (u.valuesOf key).head? := by
  rw [queryValue?, valuesOf, List.head?_map, List.head?_filter]

theorem lastOf_queryPairs (u : Url) (key : Text) :
    lastOf u.queryPairs key = (u.valuesOf key).getLast? := by
  rw [lastOf, Url.valuesOf, List.getLast?_map]

def parameterBase : Text := "QUERY_STRING".toList

-- The inside of the reference.
def parameterName (key : Text) : Text :=
  parameterBase ++ '\x7b' :: ('\'' :: (key ++ ['\'']) ++ ['\x7d'])

theorem parameterReference_eq (key : Text) :
    parameterReference key = token (parameterName key) := by
  have hm : queryMark = opener ++ (parameterBase ++ ['\x7b', '\'']) := by decide
  have he : queryEnd = ['\'', '\x7d', ')'] := by decide
  rw [parameterReference, hm, he]
  simp [parameterName, token]

section Page

variable {key : Text}

-- A key without quotation marks leaves the reference to end with its own parenthesis.
theorem enclosed_parameterName (hk : '\'' ∉ key) : Enclosed (parameterName key) := by
  have hbase : Enclosed parameterBase := .of_isLoose (List.all_eq_true.1 (by decide))
  have hkey : Enclosed ('\'' :: (key ++ '\'' :: ['\x7d'])) :=
    .quoted hk (.char (by decide) .nil)
  have htext : parameterName key =
      parameterBase ++ '\x7b' :: ('\'' :: (key ++ '\'' :: ['\x7d'])) := by
    simp [parameterName]
  rw [htext]
  exact hbase.append (.char (by decide) hkey)

theorem ofText_parameterName (hk : ∀ c ∈ key, isPlain c = true) :
    Reference.ofText (parameterName key) = ⟨parameterName key, none⟩ := by
  have hbar : '|' ∉ parameterName key := by
    have hkey : '|' ∉ key := fun h => absurd (hk _ h) (by decide)
    have hbase : '|' ∉ parameterBase := by decide
    simp [parameterName, hkey, hbase]
  have htrim : Text.trim (parameterName key) = parameterName key := by
    refine Text.trimBy_eq_self ?_ ?_
    · rintro c ⟨⟩
      decide
    · intro c hc
      rw [parameterName, ← List.cons_append, ← List.append_assoc, List.getLast?_concat] at hc
      cases hc
      decide
  rw [Reference.ofText, splitTop_eq_singleton hbar]
  simp only [htrim]

-- The reference stands for the variable of the parameter, and for nothing where there is none.
theorem interpolate_parameterReference (ctx : Context) (hk : ∀ c ∈ key, isPlain c = true) :
    interpolate ctx (parameterReference key) =
      ((ctx.get? (Inbound.parameterPrefix ++ key)).map Value.toText).getD [] := by
  have hquote : '\'' ∉ key := fun h => absurd (hk _ h) (by decide)
  have hcut : Text.cut? opener (parameterReference key) =
      some ([], parameterName key ++ [')']) := by
    rw [parameterReference_eq, token, List.append_assoc]
    exact Text.cut?_append (c := '$') (p := ['(']) (a := []) (by simp)
  have hsub : Reference.subscript? (parameterName key) =
      some (parameterBase, '\'' :: (key ++ ['\''])) :=
    subscript?_append (by decide)
  have hname : parameterBase ++ '_' :: key = Inbound.parameterPrefix ++ key := by
    have hp : Inbound.parameterPrefix = parameterBase ++ ['_'] := by decide
    simp [hp]
  have hresolve : resolve? ctx (Reference.ofText (parameterName key)).name =
      (ctx.get? (Inbound.parameterPrefix ++ key)).map Value.toText := by
    have hbase : Reference.keyedBases.contains parameterBase = true := by decide
    rw [ofText_parameterName hk, resolve?_of_subscript?_some hsub (unquote?_quoted hquote),
      Reference.lookUp?, if_pos hbase, hname]
  rw [interpolate_of_closing? hcut ((enclosed_parameterName hquote).closing?_eq []), interpolate_nil,
    List.nil_append, List.append_nil]
  cases hv : (ctx.get? (Inbound.parameterPrefix ++ key)).map Value.toText with
  | some v => exact render_of_resolve? (hresolve.trans hv)
  | none =>
    rw [render_of_unset (hresolve.trans hv) (by rw [ofText_parameterName hk]),
      ofText_parameterName hk, Reference.unset]
    simp [parameterName]

-- A page shows the last value of the parameter.
theorem interpolate_seed (i : Inbound) (hk : ∀ c ∈ key, isPlain c = true) :
    interpolate i.seed (parameterReference key) = (i.url.valuesOf key).getLast?.getD [] := by
  rw [interpolate_parameterReference i.seed hk, i.get?_seed_parameter, lastOf_queryPairs,
    Option.map_map]
  cases (i.url.valuesOf key).getLast? <;> rfl

end Page

namespace Fragment

-- What all passes make of a source with one reference to a parameter and no other one.
theorem substituteInbound_append (u : Url) {key a b : Text} (hk : ∀ c ∈ key, isPlain c = true)
    (h : '$' ∉ a ++ u.parameter key ++ b) :
    substituteInbound u (a ++ (parameterReference key ++ b)) = a ++ u.parameter key ++ b := by
  simp only [List.mem_append, not_or] at h
  obtain ⟨⟨ha, hv⟩, hb⟩ := h
  let s : SourceText := .mark a (.parameter key) (.plain b)
  have hdollar : ∀ t ∈ s.literals, '$' ∉ t :=
    List.forall_mem_cons.2 ⟨ha, List.forall_mem_singleton.2 hb⟩
  have hfits : s.Fits :=
    ⟨fun t ht => Text.contains_eq_false (hdollar t ht), List.forall_mem_singleton.2 hk⟩
  rw [List.append_assoc]
  exact substituteInbound_of_not_mem hfits hdollar (List.forall_mem_singleton.2 hv)

end Fragment

open Fragment in
-- In a source each reference to a parameter stands for the first of its values, and on a page for
-- the last, or for nothing where there is none. So they are the same text when the query gives the
-- parameter no two different values.
theorem parameter_on_page_and_in_source (i : Inbound) (key : Text)
    (hk : ∀ c ∈ key, Condition.isNameChar c = true) :
    let values := i.url.valuesOf key
    let first := values.head?.getD []
    let last := values.getLast?.getD []
    (∀ a rest, Text.contains queryMark a = false →
      substituteQuery i.url.parameter (a ++ (parameterReference key ++ rest)) =
        a ++ first ++ substituteQuery i.url.parameter rest) ∧
    (∀ a b, '$' ∉ a ++ first ++ b →
      substituteInbound i.url (a ++ (parameterReference key ++ b)) = a ++ first ++ b) ∧
    interpolate i.seed (parameterReference key) = last ∧
    ((∀ v ∈ values, ∀ w ∈ values, v = w) → first = last) := by
  intro values first last
  have hplain : ∀ c ∈ key, isPlain c = true := fun c hc => isPlain_of_isNameChar (hk c hc)
  have hquote : '\'' ∉ key := fun h => absurd (hplain _ h) (by decide)
  have hline : '\n' ∉ key := fun h => absurd (hplain _ h) (by decide)
  have hfirst : i.url.parameter key = first := by
    rw [Url.parameter, Url.queryValue?_eq_head?]
  refine ⟨?_, ?_, interpolate_seed i hplain, ?_⟩
  · intro a rest ha
    rw [substituteQuery_append _ hquote hline ha, hfirst]
  · intro a b h
    rw [← hfirst] at h ⊢
    exact substituteInbound_append i.url hplain h
  · intro h
    cases hv : values with
    | nil => simp only [first, last, hv]; rfl
    | cons v vs =>
      have hne : v :: vs ≠ [] := by simp
      rw [hv] at h
      simp only [first, last, hv, List.head?_cons, List.getLast?_eq_some_getLast hne]
      exact h v (List.mem_cons_self ..) _ (List.getLast_mem hne)

theorem parameter_with_encoded_value :
    let i : Inbound := {
      request := ⟨⟨some "http".toList, "a.example".toList, "/".toList,
        some "p=1&q=a%20b".toList⟩, {}⟩
      url := ⟨"http".toList, some { host? := some (.domain "a.example".toList) }, .segments [[]],
        some "p=1&q=a%20b".toList, none⟩ }
    i.url.valuesOf ['q'] = ["a b".toList] ∧
      Fragment.substituteInbound i.url
        ("/f?x=".toList ++ (parameterReference ['q'] ++ "&y=1".toList)) = "/f?x=a b&y=1".toList ∧
      interpolate i.seed (parameterReference ['q']) = "a b".toList := by
  intro i
  have hv : i.url.valuesOf ['q'] = ["a b".toList] := by decide +kernel
  obtain ⟨-, hs, hp, -⟩ := parameter_on_page_and_in_source i ['q']
    (List.forall_mem_singleton.2 (by decide))
  rw [hv] at hs hp
  exact ⟨hv, hs _ _ (by decide +kernel), hp⟩

-- A parameter that comes twice: the source takes the first value, and the page shows the last.
theorem parameter_given_twice :
    let i : Inbound := {
      request := ⟨⟨some "http".toList, "a.example".toList, "/".toList, some "q=1&q=2".toList⟩, {}⟩
      url := ⟨"http".toList, some { host? := some (.domain "a.example".toList) }, .segments [[]],
        some "q=1&q=2".toList, none⟩ }
    parameterReference ['q'] = "$(QUERY_STRING\x7b'q'\x7d)".toList ∧
      Fragment.substituteInbound i.url (parameterReference ['q']) = ['1'] ∧
      interpolate i.seed (parameterReference ['q']) = ['2'] := by
  intro i
  have hv : i.url.valuesOf ['q'] = [['1'], ['2']] := by decide +kernel
  have hplain : ∀ c ∈ ['q'], isPlain c = true := List.forall_mem_singleton.2 (by decide)
  have hu : i.url.parameter ['q'] = ['1'] := by
    rw [Url.parameter, Url.queryValue?_eq_head?, hv]
    rfl
  have hs := Fragment.substituteInbound_append (a := []) (b := []) i.url hplain (by simp [hu])
  have hp := interpolate_seed i hplain
  rw [hv] at hp
  rw [List.append_nil, List.append_nil, List.nil_append, hu] at hs
  exact ⟨by decide, hs, hp⟩

end EdgeIncludes
