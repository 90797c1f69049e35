import EdgeIncludes.Proofs.SourceMark

namespace EdgeIncludes

open Fragment

-- A source as literal text with references in between.
inductive SourceText where
  | plain (t : Text)
  | mark (t : Text) (m : SourceMark) (rest : SourceText)

namespace SourceText

-- The text with something in the place of each reference.
def fill (stand : SourceMark → Text) : SourceText → Text
  | plain t => t
  | mark t m rest => t ++ (stand m ++ rest.fill stand)

def toText (s : SourceText) : Text := s.fill SourceMark.toText

def literals : SourceText → List Text
  | plain t => [t]
  | mark t _ rest => t :: rest.literals

def marks : SourceText → List SourceMark
  | plain _ => []
  | mark _ m rest => m :: rest.marks

-- The literal text has no opening of a reference.
structure Fits (s : SourceText) : Prop where
  literals : ∀ t ∈ s.literals, Text.contains opener t = false
  marks : ∀ m ∈ s.marks, m.Fits

def prepend (a : Text) : SourceText → SourceText
  | plain t => plain (a ++ t)
  | mark t m rest => mark (a ++ t) m rest

-- The values of the references of one pass become literal text.
def settle (u : Url) (n : Nat) : SourceText → SourceText
  | plain t => plain t
  | mark t m rest =>
    if m.rank = n then (rest.settle u n).prepend (t ++ m.value u) else mark t m (rest.settle u n)

-- What the first passes would make of a source if they read no value as a reference.
def settled (u : Url) (s : SourceText) : Nat → SourceText
  | 0 => s
  | n + 1 => (s.settled u n).settle u n

def mapLiterals (f : Text → Text) : SourceText → SourceText
  | plain t => plain (f t)
  | mark t m rest => mark (f t) m (rest.mapLiterals f)

section Laws

variable {u : Url} {n : Nat} {f : Text → Text} {stand : SourceMark → Text} {s : SourceText}

theorem fill_prepend (a : Text) (s : SourceText) :
    (s.prepend a).fill stand = a ++ s.fill stand := by
  cases s with
  | plain t => rfl
  | mark t m rest => exact List.append_assoc ..

@[simp] theorem marks_prepend (a : Text) (s : SourceText) : (s.prepend a).marks = s.marks := by
  cases s <;> rfl

theorem not_mem_literals_prepend {c : Char} {a : Text} (ha : c ∉ a)
    (hs : ∀ t ∈ s.literals, c ∉ t) : ∀ t ∈ (s.prepend a).literals, c ∉ t := by
  cases s with
  | plain t => simpa [prepend, literals, ha] using hs
  | mark t m rest => simpa [prepend, literals, ha] using hs

-- Settled references keep their value.
@[simp] theorem fill_settle (u : Url) (n : Nat) (s : SourceText) :
    (s.settle u n).fill (SourceMark.value u) = s.fill (SourceMark.value u) := by
  induction s with
  | plain t => rfl
  | mark t m rest ih =>
    rw [settle]
    split
    · rw [fill_prepend, ih, fill, List.append_assoc]
    · rw [fill, ih, fill]

theorem marks_settle (u : Url) (n : Nat) (s : SourceText) :
    (s.settle u n).marks = s.marks.filter (·.rank ≠ n) := by
  induction s with
  | plain t => rfl
  | mark t m rest ih =>
    rw [settle]
    split <;> rename_i hm <;> simp [marks, ih, hm]

@[simp] theorem marks_mapLiterals (f : Text → Text) (s : SourceText) :
    (s.mapLiterals f).marks = s.marks := by
  induction s with
  | plain t => rfl
  | mark t m rest ih => rw [mapLiterals, marks, ih, marks]

theorem mapLiterals_eq_self (h : ∀ t ∈ s.literals, f t = t) : s.mapLiterals f = s := by
  induction s with
  | plain t => rw [mapLiterals, h t (List.mem_singleton_self t)]
  | mark t m rest ih =>
    obtain ⟨ht, hrest⟩ := List.forall_mem_cons.1 h
    rw [mapLiterals, ht, ih hrest]

theorem length_fill_mapLiterals_le (hf : ∀ t, (f t).length ≤ t.length)
    (stand : SourceMark → Text) (s : SourceText) :
    ((s.mapLiterals f).fill stand).length ≤ (s.fill stand).length := by
  induction s with
  | plain t => exact hf t
  | mark t m rest ih =>
    have ht := hf t
    simp only [mapLiterals, fill, List.length_append]
    omega

-- Where no literal gets longer, and the whole does not get shorter, every literal keeps its length.
theorem length_of_length_fill_mapLiterals (hf : ∀ t, (f t).length ≤ t.length)
    (h : (s.fill stand).length ≤ ((s.mapLiterals f).fill stand).length) :
    ∀ t ∈ s.literals, t.length ≤ (f t).length := by
  induction s with
  | plain t => exact List.forall_mem_singleton.2 h
  | mark t m rest ih =>
    have ht := hf t
    have hrest := length_fill_mapLiterals_le hf stand rest
    simp only [mapLiterals, fill, List.length_append] at h
    exact List.forall_mem_cons.2 ⟨by omega, ih (by omega)⟩

end Laws

section Settled

variable {u : Url} {n : Nat} {s : SourceText}

theorem mem_marks_settled {m : SourceMark} :
    m ∈ (s.settled u n).marks ↔ m ∈ s.marks ∧ n ≤ m.rank := by
  induction n with
  | zero => simp [settled]
  | succ n ih =>
    rw [settled, marks_settle, List.mem_filter, ih, and_assoc]
    simp only [ne_eq, decide_eq_true_eq]
    refine and_congr_right fun _ => ?_
    omega

theorem fill_settled (u : Url) (s : SourceText) (n : Nat) :
    (s.settled u n).fill (SourceMark.value u) = s.fill (SourceMark.value u) := by
  induction n with
  | zero => rfl
  | succ n ih => rw [settled, fill_settle, ih]

theorem not_mem_literals_settle {c : Char} (hl : ∀ t ∈ s.literals, c ∉ t)
    (hv : ∀ m ∈ s.marks, c ∉ m.value u) : ∀ t ∈ (s.settle u n).literals, c ∉ t := by
  induction s with
  | plain t => exact hl
  | mark t m rest ih =>
    obtain ⟨ht, hl⟩ := List.forall_mem_cons.1 hl
    obtain ⟨hm, hv⟩ := List.forall_mem_cons.1 hv
    rw [settle]
    split
    · exact not_mem_literals_prepend (by simp [ht, hm]) (ih hl hv)
    · exact List.forall_mem_cons.2 ⟨ht, ih hl hv⟩

theorem not_mem_literals_settled {c : Char} (hl : ∀ t ∈ s.literals, c ∉ t)
    (hv : ∀ m ∈ s.marks, c ∉ m.value u) (n : Nat) : ∀ t ∈ (s.settled u n).literals, c ∉ t := by
  induction n with
  | zero => exact hl
  | succ n ih =>
    exact not_mem_literals_settle ih fun m hm => hv m (mem_marks_settled.1 hm).1

-- Without references a source is its text.
theorem toText_eq_fill (stand : SourceMark → Text) (h : s.marks = []) :
    s.toText = s.fill stand := by
  cases s with
  | plain t => rfl
  | mark t m rest => cases h

end Settled

section Passes

variable {u : Url} {n : Nat} {f : Text → Text} {q : SourceMark} {s : SourceText}

-- What a pass makes of a source when it reads every literal on its own.
theorem toText_of_pass (hs : ∀ m ∈ s.marks, m.Fits)
    (hmark : ∀ m ∈ s.marks, ∀ r,
      f (m.toText ++ r) = (if m.rank = n then m.value u else m.toText) ++ f r)
    (hsplit : ∀ t ∈ s.literals, ∀ r, f (t ++ '$' :: r) = f t ++ f ('$' :: r)) :
    f s.toText = ((s.mapLiterals f).settle u n).toText := by
  induction s with
  | plain t => rfl
  | mark t m rest ih =>
    obtain ⟨hm, hs⟩ := List.forall_mem_cons.1 hs
    obtain ⟨hreplaced, hmark⟩ := List.forall_mem_cons.1 hmark
    obtain ⟨ht, hsplit⟩ := List.forall_mem_cons.1 hsplit
    obtain ⟨w, hw, -⟩ := SourceMark.exists_toText hm
    have htext : f (mark t m rest).toText = f t ++ f (m.toText ++ rest.toText) := by
      rw [toText, fill, ← toText, hw]
      exact ht _
    rw [htext, hreplaced, ih hs hmark hsplit, mapLiterals, settle]
    split
    · rw [toText, toText, fill_prepend, List.append_assoc]
    · rfl

theorem mapLiterals_replace_eq_self (hl : ∀ t ∈ s.literals, Text.contains q.toText t = false) :
    s.mapLiterals (q.replace u) = s :=
  mapLiterals_eq_self fun t ht => Text.replaceAll_eq_self q.toText_ne_nil (hl t ht)

section Replace

variable (u) (hq : ∀ key, q ≠ .parameter key) (hs : ∀ m ∈ s.marks, m.Fits)
include hq hs

theorem toText_replace :
    q.replace u s.toText = ((s.mapLiterals (q.replace u)).settle u q.rank).toText := by
  have hopening := SourceMark.opening_eq_toText hq
  obtain ⟨p, hp, hdollar⟩ := q.exists_opening
  have hf : Text.StopsAt q.opening (q.replace u) := by
    have hne : q.opening ≠ [] := by simp [hp]
    have hstops := Text.stopsAt_replaceAll hne (q.value u)
    rwa [hopening] at hstops ⊢
  rw [hopening] at hp
  refine toText_of_pass hs (fun m hm r => ?_) fun t _ r => ?_
  · split
    · rename_i hrank
      simp only [SourceMark.eq_of_rank_eq hq hrank, SourceMark.replace, hp]
      exact Text.replaceAll_append
    · rename_i hrank
      exact SourceMark.append_of_stopsAt hf (hs m hm) (Ne.symm hrank)
  · simp only [SourceMark.replace, hp]
    exact Text.replaceAll_append_cons hdollar

-- Where no literal holds the reference, no more than the references is replaced.
theorem toText_replace_of_not_contains
    (hl : ∀ t ∈ s.literals, Text.contains q.toText t = false) :
    q.replace u s.toText = (s.settle u q.rank).toText := by
  rw [toText_replace u hq hs, mapLiterals_replace_eq_self hl]

end Replace

theorem toText_substituteQuery (u : Url) (hs : ∀ m ∈ s.marks, m.Fits)
    (hl : ∀ t ∈ s.literals, Text.contains queryMark t = false) :
    substituteQuery u.parameter s.toText = (s.settle u 1).toText := by
  have hf := stopsAt_substituteQuery u.parameter
  have hdollar : '$' ∉ "(QUERY_STRING\x7b'".toList := by decide
  have hself : s.mapLiterals (substituteQuery u.parameter) = s :=
    mapLiterals_eq_self fun t ht => hf.eq_self (hl t ht)
  have hmark : ∀ m ∈ s.marks, ∀ r, substituteQuery u.parameter (m.toText ++ r) =
      (if m.rank = 1 then m.value u else m.toText) ++ substituteQuery u.parameter r := by
    intro m hm r
    split
    · rename_i hrank
      cases m with
      | parameter key =>
        have hk := hs _ hm
        exact substituteQuery_append (a := []) u.parameter (fun h => absurd (hk _ h) (by decide))
          (fun h => absurd (hk _ h) (by decide)) (by decide)
      | _ => cases hrank
    · rename_i hrank
      exact SourceMark.append_of_stopsAt (q := .parameter []) hf (hs m hm) (Ne.symm hrank)
  have hsplit : ∀ t ∈ s.literals, ∀ r, substituteQuery u.parameter (t ++ '$' :: r) =
      substituteQuery u.parameter t ++ substituteQuery u.parameter ('$' :: r) := by
    intro t ht r
    rw [hf.eq_self (hl t ht)]
    exact hf.append_of_not_contains hdollar (hl t ht)
  rw [toText_of_pass hs hmark hsplit, hself]

end Passes

section Lengths

variable {u : Url} {q : SourceMark} {s : SourceText} {stand : SourceMark → Text}

theorem length_fill_replace_le (u : Url) (stand : SourceMark → Text) (s : SourceText)
    (hq : 2 ≤ q.rank) :
    ((s.mapLiterals (q.replace u)).fill stand).length ≤ (s.fill stand).length :=
  length_fill_mapLiterals_le (Text.length_replaceAll_le q.toText_ne_nil
    (Nat.le_of_lt (q.length_value_lt u hq))) stand s

-- A literal that holds a reference to the region or the language would get shorter.
theorem not_contains_of_length (hq : 2 ≤ q.rank)
    (h : (s.fill stand).length ≤ ((s.mapLiterals (q.replace u)).fill stand).length) :
    ∀ t ∈ s.literals, Text.contains q.toText t = false := by
  intro t ht
  have hlt := q.length_value_lt u hq
  have hkept := length_of_length_fill_mapLiterals
    (Text.length_replaceAll_le q.toText_ne_nil (Nat.le_of_lt hlt)) h t ht
  refine Bool.eq_false_iff.2 fun hc => ?_
  have hless := Text.length_replaceAll_lt q.toText_ne_nil hlt hc
  omega

end Lengths

section Whole

variable {u : Url} {s : SourceText}

-- The last two passes also change the literals that values have become.
theorem substituteInbound_toText (hs : s.Fits)
    (hq : ∀ t ∈ (s.settled u 1).literals, Text.contains queryMark t = false) :
    substituteInbound u s.toText =
      ((((s.settled u 2).mapLiterals (SourceMark.region.replace u)).settle u 2).mapLiterals
        (SourceMark.language.replace u)).fill (SourceMark.value u) := by
  have hfits : ∀ n, ∀ m ∈ (s.settled u n).marks, m.Fits :=
    fun n m hm => hs.marks m (mem_marks_settled.1 hm).1
  have hpath : SourceMark.path.replace u s.toText = (s.settled u 1).toText := by
    refine toText_replace_of_not_contains u nofun hs.marks fun t ht => ?_
    refine Bool.eq_false_iff.2 fun hc => Bool.eq_false_iff.1 (hs.literals t ht) ?_
    have hopener : opener <:+: SourceMark.path.toText := ⟨[], "REQUEST_PATH)".toList, by decide⟩
    exact Text.contains_iff.2 (hopener.trans (Text.contains_iff.1 hc))
  have hquery : substituteQuery u.parameter (s.settled u 1).toText = (s.settled u 2).toText :=
    toText_substituteQuery u (hfits 1) hq
  let x := ((s.settled u 2).mapLiterals (SourceMark.region.replace u)).settle u 2
  have hx : x.marks = (s.settled u 3).marks := by simp [x, marks_settle, settled]
  have hregion : SourceMark.region.replace u (s.settled u 2).toText = x.toText :=
    toText_replace u nofun (hfits 2)
  have hlanguage : SourceMark.language.replace u x.toText =
      ((x.mapLiterals (SourceMark.language.replace u)).settle u 3).toText :=
    toText_replace u nofun (hx ▸ hfits 3)
  have hend : ((x.mapLiterals (SourceMark.language.replace u)).settle u 3).marks = [] := by
    have hmarks : ((x.mapLiterals (SourceMark.language.replace u)).settle u 3).marks =
        (s.settled u 4).marks := by
      rw [marks_settle, marks_mapLiterals, hx, ← marks_settle, ← settled]
    rw [hmarks, List.eq_nil_iff_forall_not_mem]
    intro m hm
    have hrank := (mem_marks_settled.1 hm).2
    cases m <;> simp [SourceMark.rank] at hrank
  rw [substituteInbound_eq, hpath, hquery, hregion, hlanguage, toText_eq_fill _ hend, fill_settle]

end Whole

end SourceText

section Simultaneous

open SourceText

variable {u : Url} {s : SourceText}

-- Where no pass finds more than the references, they all get their value.
theorem substituteInbound_of_not_contains (hs : s.Fits)
    (hq : ∀ t ∈ (s.settled u 1).literals, Text.contains queryMark t = false)
    (hr : ∀ t ∈ (s.settled u 2).literals, Text.contains SourceMark.region.toText t = false)
    (hl : ∀ t ∈ (s.settled u 3).literals, Text.contains SourceMark.language.toText t = false) :
    substituteInbound u s.toText = s.fill (SourceMark.value u) := by
  have hthird : (s.settled u 2).settle u 2 = s.settled u 3 := rfl
  rw [substituteInbound_toText hs hq, mapLiterals_replace_eq_self hr, hthird,
    mapLiterals_replace_eq_self hl, fill_settled]

-- So it is where no value has a dollar sign.
theorem substituteInbound_of_not_mem (hs : s.Fits) (hl : ∀ t ∈ s.literals, '$' ∉ t)
    (hv : ∀ m ∈ s.marks, '$' ∉ m.value u) :
    substituteInbound u s.toText = s.fill (SourceMark.value u) := by
  have hdollar : ∀ (q : SourceMark) n, ∀ t ∈ (s.settled u n).literals,
      Text.contains q.opening t = false := by
    intro q n t ht
    obtain ⟨p, hp, -⟩ := q.exists_opening
    rw [hp]
    exact Text.contains_eq_false (not_mem_literals_settled hl hv n t ht)
  exact substituteInbound_of_not_contains hs (hdollar (.parameter []) 1) (hdollar .region 2)
    (hdollar .language 3)

end Simultaneous

open SourceText in
-- Where no value completes a reference to a parameter, a source becomes its literal text with the
-- value of every reference just if no value completes one to the region or the language either.
theorem substituteInbound_eq_fill_iff (u : Url) (s : SourceText) (hs : s.Fits)
    (hq : ∀ t ∈ (s.settled u 1).literals, Text.contains queryMark t = false) :
    substituteInbound u s.toText = s.fill (SourceMark.value u) ↔
      (∀ t ∈ (s.settled u 2).literals, Text.contains "$(RU)".toList t = false) ∧
        ∀ t ∈ (s.settled u 3).literals, Text.contains "$(LC)".toList t = false := by
  constructor
  · intro h
    have hregion : 2 ≤ SourceMark.region.rank := Nat.le_refl _
    have hlanguage : 2 ≤ SourceMark.language.rank := Nat.le_succ _
    have hthird : (s.settled u 2).settle u 2 = s.settled u 3 := rfl
    have hvalue : (s.settled u 3).fill (SourceMark.value u) =
        (s.settled u 2).fill (SourceMark.value u) := fill_settle ..
    rw [substituteInbound_toText hs hq, ← fill_settled u s 2] at h
    -- No text gets longer in the two passes, so neither of them made one shorter.
    let y := (s.settled u 2).mapLiterals (SourceMark.region.replace u)
    have hlength := length_fill_replace_le u (SourceMark.value u) (y.settle u 2) hlanguage
    rw [h, fill_settle] at hlength
    have hr := not_contains_of_length hregion hlength
    rw [mapLiterals_replace_eq_self hr, hthird, ← hvalue] at h
    exact ⟨hr, not_contains_of_length hlanguage (Nat.le_of_eq (congrArg List.length h.symm))⟩
  · rintro ⟨hr, hl⟩
    exact substituteInbound_of_not_contains hs hq hr hl

-- Dollar signs and half a reference in the values and between them.
theorem substituteInbound_with_half_reference :
    let u : Url := ⟨"http".toList, some { host? := some (.domain "a.example".toList) },
      .segments ["de".toList, "en".toList, []], some "q=$(RU".toList, none⟩
    let s : SourceText := .mark "/f$".toList .path (.mark "?a=$".toList (.parameter ['q'])
      (.mark "&r=".toList .region (.mark "&l=".toList .language (.plain "(RU)".toList))))
    s.Fits ∧ (∀ t ∈ (s.settled u 1).literals, Text.contains queryMark t = false) ∧
      s.toText =
        "/f$$(REQUEST_PATH)?a=$$(QUERY_STRING\x7b'q'\x7d)&r=$(RU)&l=$(LC)(RU)".toList ∧
      substituteInbound u s.toText = "/f$/de/en/?a=$$(RU&r=de&l=en(RU)".toList := by
  intro u s
  have hfits : s.Fits := ⟨by decide, by
    simp only [s, SourceText.marks, List.forall_mem_cons]
    exact ⟨trivial, List.forall_mem_singleton.2 (by decide), trivial, trivial, nofun⟩⟩
  have hquery : ∀ t ∈ (s.settled u 1).literals, Text.contains queryMark t = false := by
    decide +kernel
  have hsource := (substituteInbound_eq_fill_iff u s hfits hquery).2
    ⟨by decide +kernel, by decide +kernel⟩
  exact ⟨hfits, hquery, by decide, hsource.trans (by decide +kernel)⟩

-- A value from the query that is read as a reference to the language.
theorem value_read_as_reference :
    let u : Url := ⟨"http".toList, some { host? := some (.domain "a.example".toList) },
      .segments ["de".toList, "en".toList, []], some "q=$(LC)".toList, none⟩
    let s : SourceText := .mark "/f?x=".toList (.parameter ['q']) (.plain [])
    s.Fits ∧ s.toText = "/f?x=$(QUERY_STRING\x7b'q'\x7d)".toList ∧
      s.fill (SourceMark.value u) = "/f?x=$(LC)".toList ∧
      substituteInbound u s.toText = "/f?x=en".toList := by
  intro u s
  have hfits : s.Fits := ⟨by decide, by
    simp only [s, SourceText.marks]
    exact List.forall_mem_singleton.2 (List.forall_mem_singleton.2 (by decide))⟩
  exact ⟨hfits, by decide, by decide +kernel, by decide +kernel⟩

end EdgeIncludes
