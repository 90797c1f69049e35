import EdgeIncludes.Http.Message
import EdgeIncludes.Proofs.Seed

namespace EdgeIncludes

namespace Http

-- Names that differ in case only are one name.
def lower (name : Text) : Text := name.map Char.toLower

-- The bytes of a text, as the value of a header has them.
def fieldBytes (t : Text) : Text := (Text.Utf8.encode t).map fun b => Char.ofNat b.toNat

theorem headerName?_eq_some {t n : Text} (h : headerName? t = some n) : n = lower t := by
  rw [headerName?] at h
  split at h
  · cases h
  · exact (Option.some.inj h).symm

theorem headerValue?_eq_some {t v : Text} (h : headerValue? t = some v) : v = fieldBytes t := by
  rw [headerValue?] at h
  split at h
  · exact (Option.some.inj h).symm
  · cases h

namespace Headers

variable {name other value : Text}

theorem values_remove (h : Headers) (hn : name.map Char.toLower ≠ other) :
    (h.remove other).values name = h.values name := by
  rw [values, remove, List.filter_filter, values]
  congr 2
  funext e
  by_cases he : e.1 = name.map Char.toLower
  · simp [he, hn]
  · simp [he]

theorem values_remove_self (h : Headers) (name : Text) :
    (h.remove (lower name)).values name = [] := by
  have hgone : (h.remove (lower name)).entries.filter (·.1 = name.map Char.toLower) = [] := by
    refine List.filter_eq_nil_iff.2 fun e he => ?_
    exact fun hn => of_decide_eq_true (List.mem_filter.1 he).2 (of_decide_eq_true hn)
  rw [values, hgone, List.map_nil]

theorem values_append (h : Headers) (other value name : Text) :
    (h.append other value).values name =
      h.values name ++ if other = lower name then [value] else [] := by
  rw [append, values, List.filter_append, List.map_append]
  by_cases hn : other = lower name
  · subst hn
    simp [values, lower]
  · have hne : other ≠ name.map Char.toLower := hn
    simp [values, hne, hn]

theorem values_insert (h : Headers) (other value name : Text) :
    (h.insert other value).values name = if other = lower name then [value] else h.values name := by
  rw [insert, values_append]
  by_cases hn : other = lower name
  · rw [if_pos hn, if_pos hn, hn, values_remove_self, List.nil_append]
  · rw [if_neg hn, if_neg hn, h.values_remove (Ne.symm hn), List.append_nil]

-- Fields that are put in one after the other.
def insertAll (h : Headers) (fields : List (Text × Text)) : Headers :=
  fields.foldl (fun h f => h.insert f.1 f.2) h

-- The last field of a name is the only one that stays, and without one the name keeps its values.
theorem values_insertAll (h : Headers) (fields : List (Text × Text)) (name : Text) :
    (h.insertAll fields).values name =
      ((lastOf fields (lower name)).map ([·])).getD (h.values name) := by
  induction fields generalizing h with
  | nil => rfl
  | cons f fields ih =>
    have hstep : h.insertAll (f :: fields) = (h.insert f.1 f.2).insertAll fields := rfl
    rw [hstep, ih, values_insert, lastOf_cons]
    by_cases hf : f.1 = lower name <;> cases lastOf fields (lower name) <;> simp [hf]

end Headers

theorem appendText_eq_ok {h g : Headers} {field : Text × Text} (hg : appendText h field = .ok g) :
    g = h.append (lower field.1) (fieldBytes field.2) := by
  rw [appendText] at hg
  split at hg
  · cases hg
  · cases hg
  · rename_i n v hn hv
    rw [← headerName?_eq_some hn, ← headerValue?_eq_some hv]
    exact (Except.ok.inj hg).symm

theorem entries_of_foldlM {h g : Headers} {fields : List (Text × Text)}
    (hg : fields.foldlM appendText h = .ok g) :
    g.entries = h.entries ++ fields.map fun f => (lower f.1, fieldBytes f.2) := by
  induction fields generalizing h with
  | nil =>
    cases hg
    simp
  | cons f fields ih =>
    rw [List.foldlM_cons] at hg
    cases hf : appendText h f with
    | error e =>
      rw [hf] at hg
      cases hg
    | ok k =>
      rw [hf] at hg
      rw [ih hg, appendText_eq_ok hf, Headers.append]
      simp

end Http
end EdgeIncludes
