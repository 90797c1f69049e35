import EdgeIncludes.Text.Basic

namespace EdgeIncludes

-- The keys ascend, so dictionaries with the same entries are equal.
structure Dictionary where
  entries : List (Text × Text)
  ascending : entries.Pairwise (fun a b => Text.precedes a.1 b.1)
deriving DecidableEq

namespace Dictionary

def insertInto (k v : Text) : List (Text × Text) → List (Text × Text)
  | [] => [(k, v)]
  | e :: es =>
    if Text.precedes k e.1 then (k, v) :: e :: es
    else if k = e.1 then (k, v) :: es
    else e :: insertInto k v es

-- The keys after an insertion are the old ones and the new one.
theorem mem_insertInto {k v : Text} {es : List (Text × Text)} {x : Text × Text}
    (h : x ∈ insertInto k v es) : x.1 = k ∨ x ∈ es := by
  induction es with
  | nil => simp_all [insertInto]
  | cons e es ih =>
    rw [insertInto] at h
    split at h
    · grind
    · split at h
      · grind
      · rcases List.mem_cons.1 h with rfl | h
        · exact .inr (List.mem_cons_self ..)
        · exact (ih h).imp_right (List.mem_cons_of_mem _)

theorem pairwise_insertInto {k v : Text} {es : List (Text × Text)}
    (h : es.Pairwise (fun a b => Text.precedes a.1 b.1)) :
    (insertInto k v es).Pairwise (fun a b => Text.precedes a.1 b.1) := by
  induction es with
  | nil => simp [insertInto]
  | cons e es ih =>
    obtain ⟨he, hes⟩ := List.pairwise_cons.1 h
    rw [insertInto]
    split
    · rename_i hk
      refine List.pairwise_cons.2 ⟨fun x hx => ?_, h⟩
      rcases List.mem_cons.1 hx with rfl | hx
      · exact hk
      · exact Text.precedes_trans hk (he x hx)
    · split
      · rename_i hk
        exact List.pairwise_cons.2 ⟨fun x hx => hk ▸ he x hx, hes⟩
      · rename_i hlt hne
        refine List.pairwise_cons.2 ⟨fun x hx => ?_, ih hes⟩
        rcases mem_insertInto hx with hx | hx
        · exact hx ▸ Text.precedes_of_not_precedes hlt hne
        · exact he x hx

def empty : Dictionary := ⟨[], List.Pairwise.nil⟩

def insert (d : Dictionary) (k v : Text) : Dictionary :=
  ⟨insertInto k v d.entries, pairwise_insertInto d.ascending⟩

-- The last of two entries with one key counts.
def ofList (es : List (Text × Text)) : Dictionary := es.foldl (fun d e => d.insert e.1 e.2) empty

def get? (d : Dictionary) (k : Text) : Option Text := (d.entries.find? (·.1 = k)).map (·.2)

end Dictionary
end EdgeIncludes
