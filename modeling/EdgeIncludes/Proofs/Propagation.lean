import EdgeIncludes.Fragment.Include
import EdgeIncludes.Proofs.Headers
import EdgeIncludes.Proofs.Splitting

namespace EdgeIncludes

namespace Fragment

open Http (lower fieldBytes)

-- The field that a pair asks for, if its name and its value are valid without the blanks around
-- them.
def field? (pair : Text × Text) : Option (Text × Text) :=
  (Http.headerName? (Text.trim pair.1)).bind fun n =>
    (Http.headerValue? (Text.trim pair.2)).map fun v => (n, v)

-- The fields that a text asks for, in order.
def fieldsOf (t : Text) : List (Text × Text) := (headerPairs t).filterMap field?

-- A piece without `=`, or with a name or a value that is not valid.
def IsNoField (p : Text) : Prop :=
  '=' ∉ p ∨ ∃ n v, '=' ∉ n ∧ p = n ++ '=' :: v ∧
    (Http.headerName? (Text.trim n) = none ∨ Http.headerValue? (Text.trim v) = none)

-- The three headers that every request for a fragment carries have names of their own.
structure DistinctMarks (c : Config) : Prop where
  fragment_loop : lower c.fragmentHeader ≠ lower c.loopHeader
  fragment_host : lower c.fragmentHeader ≠ "host".toList
  loop_host : lower c.loopHeader ≠ "host".toList

-- What such a request carries under a name by itself.
def propagated (c : Config) (u : Url) (name : Text) : List Text :=
  if lower name = lower c.fragmentHeader then ["true".toList]
  else if lower name = lower c.loopHeader then [fieldBytes c.loopToken]
  else if lower name = "host".toList then [fieldBytes (u.hostText?.getD [])]
  else []

section Fields

variable {p t : Text}

theorem addHeaders_eq (h : Http.Headers) (pairs : List (Text × Text)) :
    (addHeaders h pairs).1 = h.insertAll (pairs.filterMap field?) := by
  induction pairs generalizing h with
  | nil => rfl
  | cons f pairs ih =>
    rw [addHeaders]
    simp only [ih]
    rw [List.filterMap_cons, addHeader, field?]
    cases Http.headerName? (Text.trim f.1) with
    | none => rfl
    | some n => cases Http.headerValue? (Text.trim f.2) <;> rfl

theorem fieldsOf_of_not_mem (hp : ',' ∉ p) :
    fieldsOf p = ((Text.cut? ['='] p).bind field?).toList := by
  rw [fieldsOf, headerPairs, Text.splitOn_eq_singleton hp, List.filterMap_cons]
  cases Text.cut? ['='] p with
  | none => rfl
  | some pair =>
    simp only [List.filterMap_nil, List.filterMap_cons, Option.bind_some]
    cases field? pair <;> rfl

theorem fieldsOf_join (ps : List Text) :
    fieldsOf (Text.join [','] ps) = ps.flatMap fieldsOf := by
  cases ps with
  | nil =>
    rw [Text.join, fieldsOf_of_not_mem List.not_mem_nil]
    rfl
  | cons p ps =>
    rw [fieldsOf, headerPairs, Text.splitOn_join (List.cons_ne_nil p ps)]
    simp only [List.filterMap_flatMap]
    rfl

theorem fieldsOf_eq_nil (hp : ',' ∉ p) (h : IsNoField p) : fieldsOf p = [] := by
  rw [fieldsOf_of_not_mem hp]
  rcases h with h | ⟨n, v, hn, rfl, hbad⟩
  · rw [Text.cut?_eq_none h]
    rfl
  · rw [Text.cut?_singleton_eq_some_iff.2 ⟨hn, rfl⟩, Option.bind_some, field?]
    rcases hbad with hbad | hbad
    · rw [hbad]
      rfl
    · rw [hbad]
      cases Http.headerName? (Text.trim n) <;> rfl

end Fields

section Build

variable {c : Config} {u : Url} {extra? : Option Text} {r : Http.Request} {log : Log}

theorem entries_baseRequest (h : baseRequest c u = .ok r) :
    r.headers.entries = [(lower c.fragmentHeader, "true".toList),
      (lower c.loopHeader, fieldBytes c.loopToken),
      ("host".toList, fieldBytes (u.hostText?.getD []))] := by
  have htrue : fieldBytes "true".toList = "true".toList := by decide
  have hhost : lower "host".toList = "host".toList := by decide
  cases hu : Http.Uri.ofText u.toText with
  | error e => simp [baseRequest, hu, bind, Except.bind, Except.mapError] at h
  | ok uri =>
    simp only [baseRequest, hu, bind, Except.bind, Except.mapError] at h
    split at h
    · cases h
    · rename_i g hg
      rw [← Except.ok.inj h, Http.entries_of_foldlM hg]
      simp only [marks, List.nil_append, List.map_cons, List.map_nil, htrue, hhost]

theorem filter_distinct {k₁ k₂ k₃ v₁ v₂ v₃ : Text} (h₁₂ : k₁ ≠ k₂) (h₁₃ : k₁ ≠ k₃) (h₂₃ : k₂ ≠ k₃)
    (k : Text) :
    ([(k₁, v₁), (k₂, v₂), (k₃, v₃)].filter (·.1 = k)).map (·.2) =
      if k = k₁ then [v₁] else if k = k₂ then [v₂] else if k = k₃ then [v₃] else [] := by
  by_cases hk₁ : k = k₁
  · simp [hk₁, h₁₂.symm, h₁₃.symm]
  by_cases hk₂ : k = k₂
  · simp [hk₂, h₁₂, h₁₂.symm, h₂₃.symm]
  by_cases hk₃ : k = k₃
  · simp [hk₃, h₁₃, h₁₃.symm, h₂₃, h₂₃.symm]
  · simp [hk₁, hk₂, hk₃, Ne.symm hk₁, Ne.symm hk₂, Ne.symm hk₃]

theorem values_baseRequest (hc : DistinctMarks c) (h : baseRequest c u = .ok r) (name : Text) :
    r.headers.values name = propagated c u name := by
  have hvalues : r.headers.values name =
      (r.headers.entries.filter (·.1 = lower name)).map (·.2) := rfl
  rw [hvalues, entries_baseRequest h, propagated]
  exact filter_distinct hc.fragment_loop hc.fragment_host hc.loop_host (lower name)

theorem build_eq_ok (h : build c extra? u = .ok (r, log)) :
    ∃ base, baseRequest c u = .ok base ∧
      r = { base with headers := base.headers.insertAll (fieldsOf (extra?.getD [])) } := by
  rw [build] at h
  split at h
  · cases h
  · rename_i base hbase
    obtain ⟨rfl, -⟩ := Prod.mk.inj (Except.ok.inj h)
    exact ⟨base, hbase, by rw [addHeaders_eq]; rfl⟩

-- The fields of the text are all that counts.
theorem build_of_fieldsOf {other? : Option Text} (h : build c extra? u = .ok (r, log))
    (hf : fieldsOf (other?.getD []) = fieldsOf (extra?.getD [])) :
    ∃ more, build c other? u = .ok (r, more) := by
  obtain ⟨base, hbase, rfl⟩ := build_eq_ok h
  refine ⟨(addHeaders base.headers (headerPairs (other?.getD []))).2, ?_⟩
  rw [build, hbase, ← hf, fieldsOf, ← addHeaders_eq]

end Build

-- Under every name a request for a fragment has the value of the last field of the text with this
-- name, and without one what it carries by itself. A piece that is no field can be left out.
theorem values_of_build {c : Config} {u : Url} {extra? : Option Text} {r : Http.Request} {log : Log}
    (hc : DistinctMarks c) (h : build c extra? u = .ok (r, log)) :
    (∀ name, r.headers.values name =
      ((lastOf (fieldsOf (extra?.getD [])) (lower name)).map ([·])).getD (propagated c u name)) ∧
      ∀ front p back, extra?.getD [] = Text.join [','] (front ++ p :: back) → ',' ∉ p →
        IsNoField p →
          ∃ more, build c (some (Text.join [','] (front ++ back))) u = .ok (r, more) := by
  refine ⟨fun name => ?_, fun front p back he hp hn => ?_⟩
  · obtain ⟨base, hbase, rfl⟩ := build_eq_ok h
    rw [Http.Headers.values_insertAll, values_baseRequest hc hbase]
  · refine build_of_fieldsOf h ?_
    rw [he, Option.getD_some, fieldsOf_join, fieldsOf_join, List.flatMap_append,
      List.flatMap_append, List.flatMap_cons, fieldsOf_eq_nil hp hn, List.nil_append]

-- Fields in two cases, one that takes the place of a mark, and two pieces that are none.
theorem values_of_build_mixed :
    let u : Url := ⟨"http".toList, some { host? := some (.domain "a.example".toList) },
      .segments ["f".toList], none, none⟩
    let extra := "x-a=1,broken,X-A = 2,bad name=x,X-ESI-Loop=é".toList
    DistinctMarks {} ∧ ∃ r log, build {} (some extra) u = .ok (r, log) ∧
      r.headers.values "X-a".toList = [['2']] ∧
      r.headers.values "x-esi-loop".toList = [['\xC3', '\xA9']] ∧
      r.headers.values "host".toList = ["a.example".toList] ∧
      r.headers.values "broken".toList = [] ∧
      ∃ more, build {} (some "x-a=1,X-A = 2,bad name=x,X-ESI-Loop=é".toList) u = .ok (r, more) := by
  intro u extra
  have hc : DistinctMarks {} := ⟨by decide, by decide, by decide⟩
  have hb : (build {} (some extra) u).isOk = true := by decide +kernel
  obtain ⟨⟨r, log⟩, h⟩ : ∃ x, build {} (some extra) u = .ok x := by
    cases he : build {} (some extra) u with
    | ok x => exact ⟨x, rfl⟩
    | error e =>
      rw [he] at hb
      cases hb
  obtain ⟨hvalues, hpieces⟩ := values_of_build hc h
  refine ⟨hc, r, log, h, ?_, ?_, ?_, ?_, ?_⟩
  · rw [hvalues]
    decide +kernel
  · rw [hvalues]
    decide +kernel
  · rw [hvalues]
    decide +kernel
  · rw [hvalues]
    decide +kernel
  · exact hpieces ["x-a=1".toList] "broken".toList
      ["X-A = 2".toList, "bad name=x".toList, "X-ESI-Loop=é".toList] rfl (by decide)
      (.inl (by decide))

end Fragment
end EdgeIncludes
