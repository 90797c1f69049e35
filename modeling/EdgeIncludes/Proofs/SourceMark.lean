import EdgeIncludes.Fragment.Source
import EdgeIncludes.Proofs.Replacement
import EdgeIncludes.Proofs.Seed
import EdgeIncludes.Proofs.Substitution

namespace EdgeIncludes

open Fragment

-- The reference `$(QUERY_STRING{'key'})`.
def parameterReference (key : Text) : Text := queryMark ++ (key ++ queryEnd)

-- What a source takes for a parameter.
def Url.parameter (u : Url) (key : Text) : Text := (u.queryValue? key).getD []

-- What stands in a source for a part of the inbound address.
inductive SourceMark where
  | path
  | parameter (key : Text)
  | region
  | language
deriving DecidableEq

namespace SourceMark

def toText : SourceMark → Text
  | path => "$(REQUEST_PATH)".toList
  | parameter key => parameterReference key
  | region => "$(RU)".toList
  | language => "$(LC)".toList

def value (u : Url) : SourceMark → Text
  | path => u.pathOf
  | parameter key => u.parameter key
  | region => ((locale? u.pathOf).map (·.1)).getD []
  | language => ((locale? u.pathOf).map (·.2)).getD []

-- The pass in which a reference is replaced.
def rank : SourceMark → Nat
  | path => 0
  | parameter _ => 1
  | region => 2
  | language => 3

-- What the pass looks for.
def opening : SourceMark → Text
  | parameter _ => queryMark
  | m => m.toText

-- The pass over the references of a kind that has no keys.
def replace (u : Url) (q : SourceMark) (t : Text) : Text := Text.replaceAll q.toText (q.value u) t

-- A key is made of plain characters, such as letters, digits and underscores.
def Fits : SourceMark → Prop
  | parameter key => ∀ c ∈ key, isPlain c = true
  | _ => True

variable {q m : SourceMark} {r : Text}

-- A reference has one dollar sign, and starts with it.
theorem exists_toText (h : m.Fits) : ∃ w, m.toText = '$' :: w ∧ '$' ∉ w := by
  cases m with
  | path => exact ⟨"(REQUEST_PATH)".toList, by decide, by decide⟩
  | parameter key =>
    have hkey : '$' ∉ key := fun hm => absurd (h _ hm) (by decide)
    have hmark : '$' ∉ "(QUERY_STRING\x7b'".toList := by decide
    have hend : '$' ∉ queryEnd := by decide
    refine ⟨"(QUERY_STRING\x7b'".toList ++ (key ++ queryEnd), rfl, ?_⟩
    simp only [List.mem_append, not_or]
    exact ⟨hmark, hkey, hend⟩
  | region => exact ⟨"(RU)".toList, by decide, by decide⟩
  | language => exact ⟨"(LC)".toList, by decide, by decide⟩

theorem exists_opening (q : SourceMark) : ∃ w, q.opening = '$' :: w ∧ '$' ∉ w := by
  cases q with
  | parameter key => exact ⟨"(QUERY_STRING\x7b'".toList, rfl, by decide⟩
  | path => exact exists_toText (m := path) trivial
  | region => exact exists_toText (m := region) trivial
  | language => exact exists_toText (m := language) trivial

theorem opening_eq_toText (hq : ∀ key, q ≠ .parameter key) : q.opening = q.toText := by
  cases q with
  | parameter key => exact absurd rfl (hq key)
  | _ => rfl

theorem toText_ne_nil (q : SourceMark) : q.toText ≠ [] := by
  cases q <;> exact List.cons_ne_nil _ _

-- The kinds of references are told apart by how they start.
theorem startsWith_opening (h : q.rank ≠ m.rank) (r : Text) :
    Text.startsWith q.opening (m.toText ++ r) = false := by
  cases q <;> cases m <;> first | exact absurd rfl h | rfl

theorem append_of_stopsAt {f : Text → Text} (hf : Text.StopsAt q.opening f) (hm : m.Fits)
    (h : q.rank ≠ m.rank) : f (m.toText ++ r) = m.toText ++ f r := by
  have hs := startsWith_opening h r
  obtain ⟨w, hw, hdollar⟩ := exists_toText hm
  obtain ⟨p, hp, -⟩ := q.exists_opening
  rw [hw, List.cons_append] at hs ⊢
  rw [hf.cons _ _ hs]
  rw [hp] at hf
  rw [hf.append_of_not_mem hdollar, List.cons_append]

theorem eq_of_rank_eq (hq : ∀ key, q ≠ .parameter key) (h : m.rank = q.rank) : m = q := by
  cases q with
  | parameter key => exact absurd rfl (hq key)
  | _ => cases m <;> first | rfl | cases h

-- Region and language are shorter than the references to them.
theorem length_value_lt (u : Url) (h : 2 ≤ q.rank) :
    (q.value u).length < q.toText.length := by
  have hlocale : (region.value u).length ≤ 2 ∧ (language.value u).length ≤ 2 := by
    simp only [value]
    cases hl : locale? u.pathOf with
    | none => exact ⟨Nat.zero_le _, Nat.zero_le _⟩
    | some l =>
      obtain ⟨a, b, c, d, rest, -, -, -, hregion, hlanguage⟩ := locale?_eq_some_iff.1 hl
      simp [hregion, hlanguage]
  cases q with
  | path => cases h
  | parameter key => exact absurd h (by simp [rank])
  | region => exact Nat.lt_of_le_of_lt hlocale.1 (by decide)
  | language => exact Nat.lt_of_le_of_lt hlocale.2 (by decide)

end SourceMark

namespace Fragment

theorem substituteQuery_eq (value : Text → Text) (t : Text) :
    substituteQuery value t =
      match Text.cut? queryMark t with
      | none => t
      | some (a, r) =>
        match Text.cut? queryEnd r with
        | some (key, rest) =>
          if '\n' ∈ key then a ++ queryMark ++ substituteQuery value r
          else a ++ value key ++ substituteQuery value rest
        | none => t := by
  rw [substituteQuery]
  split <;> rename_i hmark
  · rw [hmark]
  · rw [hmark]
    dsimp only
    split <;> rename_i hend <;> rw [hend]

theorem stopsAt_substituteQuery (value : Text → Text) :
    Text.StopsAt queryMark (substituteQuery value) where
  nil := by
    rw [substituteQuery_eq]
    rfl
  cons c t h := by
    rw [substituteQuery_eq, substituteQuery_eq value t, Text.cut?_cons h]
    cases Text.cut? queryMark t with
    | none => rfl
    | some x =>
      simp only [Option.map_some]
      cases Text.cut? queryEnd x.2 with
      | none => rfl
      | some e =>
        dsimp only
        split <;> rfl

-- Behind text in which no such reference opens, the reference to a parameter is replaced.
theorem substituteQuery_append (value : Text → Text) {key a rest : Text} (hk : '\'' ∉ key)
    (hl : '\n' ∉ key) (ha : Text.contains queryMark a = false) :
    substituteQuery value (a ++ (parameterReference key ++ rest)) =
      a ++ value key ++ substituteQuery value rest := by
  have hmark : '$' ∉ "(QUERY_STRING\x7b'".toList := by decide
  have hcut : Text.cut? queryMark (a ++ (parameterReference key ++ rest)) =
      some (a, key ++ (queryEnd ++ rest)) := by
    rw [parameterReference, List.append_assoc, List.append_assoc]
    exact Text.cut?_append_of_not_contains hmark ha
  have hend : Text.cut? queryEnd (key ++ (queryEnd ++ rest)) = some (key, rest) :=
    Text.cut?_append hk
  rw [substituteQuery_eq, hcut]
  dsimp only
  rw [hend]
  exact if_neg hl

-- One kind of reference after the other becomes its value.
theorem substituteInbound_eq (u : Url) (t : Text) :
    substituteInbound u t = SourceMark.language.replace u (SourceMark.region.replace u
      (substituteQuery u.parameter (SourceMark.path.replace u t))) := by
  simp only [substituteInbound, SourceMark.replace, SourceMark.value]
  cases locale? u.pathOf <;> rfl

end Fragment

end EdgeIncludes
