import EdgeIncludes.Proofs.Conditions

namespace EdgeIncludes

-- The parts of a test that are looked at.
def testParts (t : Text) : List Text := ((splitTop '|' t).map Text.trim).filter (· ≠ [])

theorem testHolds_eq (ctx : Context) (t : Text) :
    testHolds ctx t = (testParts t).any (conditionHolds ctx) :=
  rfl

section Parts

variable {a g s : Text} {c : Char}

-- A text without bars at top level is one part, up to the blanks behind it.
theorem testParts_whole (ha : Balanced (· ≠ '|') a) (hedged : Edged (Text.isBlank · = false) a)
    (hne : a ≠ []) (hg : Text.isBlankText g = true) : testParts (a ++ g) = [a] := by
  have hwhole := (ha.append (balanced_of_isBlankText (by decide) hg)).splitTop_eq
  have htrim : Text.trim (a ++ g) = a := hedged.trim_append hne (b := []) rfl hg
  rw [testParts, hwhole, List.map_singleton, htrim]
  simp [hne]

theorem testParts_append_bar (h : Crosses '|' .top a .top) (t : Text) :
    testParts (a ++ '|' :: t) = testParts a ++ testParts t := by
  rw [testParts, splitTop, splitFrom_append_cons (by decide) h.ends, List.map_append,
    List.filter_append]
  rfl

-- The empty parts between two bars are dropped, and so are the blanks in front of a part.
theorem testParts_cons (h : c = '|' ∨ Text.isBlank c = true) (t : Text) :
    testParts (c :: t) = testParts t := by
  rcases h with rfl | hb
  · exact testParts_append_bar (.nil '|' .top) t
  · have hbar : c ≠ '|' := by
      rintro rfl
      exact absurd hb (by decide)
    have hmark : isMark c = false := isMark_eq_false_of (by decide) hb
    have htrim : ∀ p, Text.trim (c :: p) = Text.trim p := by
      intro p
      rw [Text.trim, Text.trimBy, List.dropWhile_cons_of_pos hb]
      rfl
    obtain ⟨p, ps, hp⟩ := List.exists_cons_of_ne_nil (splitFrom_ne_nil '|' .top t)
    rw [testParts, splitTop, splitFrom_cons_of_not_cuts (Nesting.not_cuts_of_ne hbar),
      Nesting.next_of_not_mark hmark, hp, List.modifyHead_cons, List.map_cons, htrim,
      ← List.map_cons, ← hp]
    rfl

def isBarText (s : Text) : Bool := s.all fun c => c = '|' || Text.isBlank c

theorem isBarText_iff : isBarText s = true ↔ ∀ c ∈ s, c = '|' ∨ Text.isBlank c = true := by
  simp [isBarText]

theorem testParts_append (hs : isBarText s = true) (t : Text) :
    testParts (s ++ t) = testParts t := by
  induction s with
  | nil => rfl
  | cons c s ih =>
    obtain ⟨hc, hs⟩ := List.forall_mem_cons.1 (isBarText_iff.1 hs)
    rw [List.cons_append, testParts_cons hc, ih (isBarText_iff.2 hs)]

-- A text in front of bars is a part of its own.
theorem testParts_front (ha : Balanced (· ≠ '|') a) (hedged : Edged (Text.isBlank · = false) a)
    (hne : a ≠ []) (hbar : '|' ∈ s) (hs : isBarText s = true) (t : Text) :
    testParts (a ++ (s ++ t)) = a :: testParts t := by
  obtain ⟨g, r, rfl, hg⟩ := List.eq_append_cons_of_mem hbar
  rw [isBarText_iff, List.forall_mem_append, List.forall_mem_cons] at hs
  obtain ⟨hblank, -, hr⟩ := hs
  have hblank : Text.isBlankText g = true :=
    List.all_eq_true.2 fun c hc => (hblank c hc).resolve_left fun he => hg (he ▸ hc)
  have htext : a ++ ((g ++ '|' :: r) ++ t) = (a ++ g) ++ '|' :: (r ++ t) := by simp
  have hcross := (ha.append (balanced_of_isBlankText (by decide) hblank)).crosses_top
  rw [htext, testParts_append_bar hcross, testParts_whole ha hedged hne hblank,
    testParts_append (isBarText_iff.2 hr)]
  rfl

end Parts

namespace Condition

-- The conditions whose text has no quotation marks but those around operands and keys. A call can
-- hold any text.
def Quotable : Condition → Prop
  | isSet name _ => ReferenceName name
  | equals name value => ReferenceName name ∧ '\'' ∉ value
  | fits name pattern => ReferenceName name ∧ '\'' ∉ pattern
  | call _ _ => False
  | unrecognized => False

theorem Quotable.writable {c : Condition} (h : c.Quotable) (q : Quotes) : c.Writable q := by
  cases c with
  | isSet name negated => exact h
  | equals name value => exact ⟨h.1, Quotes.fits_of_not_mem h.2 q⟩
  | fits name pattern => exact ⟨h.1, Quotes.fits_of_not_mem h.2 q⟩
  | call function arguments => exact absurd h not_false
  | unrecognized => exact absurd h not_false

theorem Quotable.balanced {c : Condition} (h : c.Quotable) (q : Quotes) :
    Balanced (· ≠ '|') (c.toText q) := by
  have htoken : ∀ {name}, ReferenceName name → Balanced (· ≠ '|') (token name) := fun hn =>
    (hn.balanced.mono fun _ _ => trivial).token (by decide)
  have hword : ∀ {w : Text}, w.all (fun c => !isMark c && c ≠ '|') = true →
      Balanced (· ≠ '|') w :=
    fun hw => .of_forall (by simpa using hw)
  cases c with
  | isSet name negated =>
    have hexists : Balanced (· ≠ '|') ("$exists".toList ++ '(' :: (token name ++ [')'])) :=
      (hword (by decide)).append (.bracket (by decide) (htoken h))
    cases negated with
    | false => exact hexists
    | true => exact .char (by decide) (by decide) hexists
  | equals name value =>
    exact (htoken h.1).append ((hword (by decide)).append (Quotes.balanced_around h.2 q))
  | fits name pattern =>
    exact (htoken h.1).append ((hword (by decide)).append (Quotes.balanced_around h.2 q))
  | call function arguments => exact absurd h not_false
  | unrecognized => exact absurd h not_false

end Condition

-- A condition of a test, with the quotation marks that it is written with.
structure Disjunct where
  quotes : Quotes
  condition : Condition
deriving DecidableEq

def Disjunct.toText (d : Disjunct) : Text := d.condition.toText d.quotes

-- A further condition, with the bars in front of it and the blanks around them.
structure Further where
  bars : Text
  disjunct : Disjunct

namespace Further

def toText (f : Further) : Text := f.bars ++ f.disjunct.toText

structure Fits (f : Further) : Prop where
  bar : '|' ∈ f.bars
  bars : isBarText f.bars = true
  condition : f.disjunct.condition.Quotable

end Further

-- A test with one condition at least, and the blanks around it.
structure Disjunction where
  front : Text
  first : Disjunct
  further : List Further
  behind : Text

namespace Disjunction

def toText (d : Disjunction) : Text :=
  d.front ++ (d.first.toText ++ (d.further.flatMap Further.toText ++ d.behind))

def disjuncts (d : Disjunction) : List Disjunct := d.first :: d.further.map (·.disjunct)

def conditions (d : Disjunction) : List Condition := d.disjuncts.map (·.condition)

structure Fits (d : Disjunction) : Prop where
  front : Text.isBlankText d.front = true
  first : d.first.condition.Quotable
  further : ∀ f ∈ d.further, f.Fits
  behind : Text.isBlankText d.behind = true

theorem Fits.quotable {d : Disjunction} (h : d.Fits) : ∀ x ∈ d.disjuncts, x.condition.Quotable := by
  simp only [disjuncts, List.forall_mem_cons, List.forall_mem_map]
  exact ⟨h.first, fun f hf => (h.further f hf).condition⟩

end Disjunction

section Disjunction

variable {ctx : Context} {d : Disjunct} {fs : List Further} {g : Text}

theorem testParts_further (hd : d.condition.Quotable) (hfs : ∀ f ∈ fs, f.Fits)
    (hg : Text.isBlankText g = true) :
    testParts (d.toText ++ (fs.flatMap Further.toText ++ g)) =
      (d :: fs.map (·.disjunct)).map Disjunct.toText := by
  have hbalanced := hd.balanced d.quotes
  have hedged := Condition.edged_toText d.quotes d.condition
  have hne := Condition.toText_ne_nil (hd.writable d.quotes)
  induction fs generalizing d with
  | nil => exact testParts_whole hbalanced hedged hne hg
  | cons f fs ih =>
    obtain ⟨hf, hfs⟩ := List.forall_mem_cons.1 hfs
    have htext : d.toText ++ ((f :: fs).flatMap Further.toText ++ g) =
        d.toText ++ (f.bars ++ (f.disjunct.toText ++ (fs.flatMap Further.toText ++ g))) := by
      simp [Further.toText]
    have hrest := ih hf.condition hfs (hf.condition.balanced _) (Condition.edged_toText _ _)
      (Condition.toText_ne_nil (hf.condition.writable _))
    rw [htext, Disjunct.toText, testParts_front hbalanced hedged hne hf.bar hf.bars, hrest]
    rfl

-- A test is cut between its conditions and nowhere else.
theorem testParts_toText {d : Disjunction} (h : d.Fits) :
    testParts d.toText = d.disjuncts.map Disjunct.toText := by
  have hfront : isBarText d.front = true :=
    isBarText_iff.2 fun c hc => .inr (List.all_eq_true.1 h.front c hc)
  rw [Disjunction.toText, testParts_append hfront, testParts_further h.first h.further h.behind]
  rfl

theorem testHolds_iff {d : Disjunction} (h : d.Fits) :
    testHolds ctx d.toText = true ↔ ∃ x ∈ d.disjuncts, conditionHolds ctx x.toText = true := by
  rw [testHolds_eq, testParts_toText h, List.any_map, List.any_eq_true]
  rfl

theorem conditionHolds_disjunct {d : Disjunction} (h : d.Fits) :
    ∀ x ∈ d.disjuncts, conditionHolds ctx x.toText = x.condition.holds ctx := fun x hx =>
  Condition.conditionHolds_toText ctx ((h.quotable x hx).writable x.quotes)

theorem testHolds_iff_conditions {d : Disjunction} (h : d.Fits) :
    testHolds ctx d.toText = true ↔ ∃ c ∈ d.conditions, c.holds ctx = true := by
  rw [testHolds_iff h]
  simp only [Disjunction.conditions, List.mem_map, exists_exists_and_eq_and]
  refine exists_congr fun x => and_congr_right fun hx => ?_
  rw [conditionHolds_disjunct h x hx]

end Disjunction

-- A test holds when one of its conditions does. So it only matters which conditions it has, and not
-- in which order, how often or in which quotation marks they stand.
theorem testHolds_disjunction (ctx : Context) (d : Disjunction) (h : d.Fits) :
    (testHolds ctx d.toText = true ↔ ∃ x ∈ d.disjuncts, conditionHolds ctx x.toText = true) ∧
      (∀ x ∈ d.disjuncts, conditionHolds ctx x.toText = x.condition.holds ctx) ∧
      ∀ e : Disjunction, e.Fits → (∀ c, c ∈ e.conditions ↔ c ∈ d.conditions) →
        testHolds ctx e.toText = testHolds ctx d.toText := by
  refine ⟨testHolds_iff h, conditionHolds_disjunct h, fun e he hsame => ?_⟩
  rw [Bool.eq_iff_iff, testHolds_iff_conditions he, testHolds_iff_conditions h]
  exact exists_congr fun c => and_congr_left fun _ => hsame c

-- Bars and brackets in an operand and in a key. The conditions of the second test are those of the
-- first one in another order, and one of them comes twice.
theorem testHolds_disjunction_hostile :
    let ctx : Context := { vars := ⟨[("RU".toList, .text "a|(b".toList)]⟩ }
    let unset : Condition := .isSet "d\x7b'\x7d|'\x7d".toList false
    let equal : Condition := .equals "RU".toList "a|(b".toList
    let d : Disjunction := ⟨[' '], ⟨.single, unset⟩, [⟨" || ".toList, .single, equal⟩], []⟩
    let e : Disjunction := ⟨[], ⟨.triple, equal⟩,
      [⟨"\t|".toList, .single, unset⟩, ⟨"| |".toList, .single, equal⟩], ['\n']⟩
    d.Fits ∧ e.Fits ∧ (∀ c, c ∈ e.conditions ↔ c ∈ d.conditions) ∧
      d.toText = " $exists($(d\x7b'\x7d|'\x7d)) || $(RU) == 'a|(b'".toList ∧
      e.toText = "$(RU) == '''a|(b'''\t|$exists($(d\x7b'\x7d|'\x7d))| |$(RU) == 'a|(b'\n".toList ∧
      testHolds ctx d.toText = true ∧ testHolds ctx e.toText = true := by
  intro ctx unset equal d e
  have hname : PlainName "RU".toList := .of_isNameChar (by decide) (by decide)
  have hunset : unset.Quotable :=
    .intro ['d'] (.literal ['\x7d', '|']) (.of_isNameChar (by decide) (by decide))
      (by decide : '\'' ∉ ['\x7d', '|'])
  have hequal : equal.Quotable := ⟨.intro "RU".toList .absent hname trivial, by decide⟩
  have hd : d.Fits :=
    ⟨by decide, hunset, List.forall_mem_singleton.2 ⟨by decide, by decide, hequal⟩, by decide⟩
  have he : e.Fits := by
    refine ⟨by decide, hequal, List.forall_mem_cons.2 ⟨⟨by decide, by decide, hunset⟩, ?_⟩,
      by decide⟩
    exact List.forall_mem_singleton.2 ⟨by decide, by decide, hequal⟩
  have hsame : ∀ c, c ∈ e.conditions ↔ c ∈ d.conditions := by
    have hlist : e.conditions = equal :: d.conditions := rfl
    have hmem : equal ∈ d.conditions := List.mem_cons_of_mem _ (List.mem_singleton.2 rfl)
    intro c
    rw [hlist, List.mem_cons]
    exact or_iff_right_of_imp fun hc => hc ▸ hmem
  obtain ⟨hholds, hread, horder⟩ := testHolds_disjunction ctx d hd
  have hlast : ⟨.single, equal⟩ ∈ d.disjuncts :=
    List.mem_cons_of_mem _ (List.mem_singleton.2 rfl)
  have hequality : conditionHolds ctx (Disjunct.toText ⟨.single, equal⟩) = true := by
    have hvalue : resolve? ctx "RU".toList = some "a|(b".toList :=
      resolve?_of_subscript? hname.subscript?_eq
    rw [hread _ hlast, Condition.holds, hvalue]
    rfl
  have htest : testHolds ctx d.toText = true := hholds.2 ⟨_, hlast, hequality⟩
  exact ⟨hd, he, hsame, by decide +kernel, by decide +kernel, htest,
    (horder e he hsame).trans htest⟩

end EdgeIncludes
