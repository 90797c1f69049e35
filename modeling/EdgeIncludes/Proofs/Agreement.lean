import EdgeIncludes.Proofs.Conditions

namespace EdgeIncludes

open Reference

-- A reference that comes to nothing leaves nothing, or is left as written.
theorem missing_key (ctx : Context) (base : Text) (key : Slot) :
    missing base (key.meaning? ctx) = [] ∨
      missing base (key.meaning? ctx) = token (base ++ keyText key.toText?) := by
  cases key with
  | absent =>
    rw [Slot.toText?, keyText, List.append_nil]
    exact ite_eq_or_eq ..
  | literal t => exact .inl rfl
  | nested t => exact .inl rfl

-- What a reference comes to is a text or nothing. The tests for the variable tell which, the test
-- for equality compares with the text, and in a text it stands for the reference, or else the
-- default does. Without a default the reference is left as written, or nothing is.
theorem outcome_of_reference (ctx : Context) (base : Text) (key : Slot) (hb : PlainName base)
    (hk : key.Fits) :
    let name := base ++ keyText key.toText?
    let outcome := value? ctx base (key.meaning? ctx)
    let left := missing base (key.meaning? ctx)
    (conditionHolds ctx ((Condition.isSet name false).toText .triple) = true ↔ outcome ≠ none) ∧
      (conditionHolds ctx ((Condition.isSet name true).toText .triple) = true ↔ outcome = none) ∧
      (∀ v, conditionHolds ctx ((Condition.equals name v).toText .triple) = true ↔
        outcome = some v) ∧
      (interpolate ctx (token name) = outcome.getD left ∧ (left = [] ∨ left = token name)) ∧
      ∀ d, '\'' ∉ d →
        interpolate ctx (token (name ++ '|' :: ('\'' :: (d ++ ['\''])))) = outcome.getD d := by
  intro name outcome left
  have hname : ReferenceName name := .intro base key hb hk
  have hresolve : resolve? ctx name = outcome := resolve?_reference ctx hb hk
  have hread : ∀ c : Condition, c.Writable .triple →
      conditionHolds ctx (c.toText .triple) = c.holds ctx :=
    fun c hc => Condition.conditionHolds_toText ctx hc
  refine ⟨?_, ?_, fun v => ?_, ⟨?_, missing_key ctx base key⟩, fun d hd => ?_⟩
  · rw [hread (.isSet name false) hname, Condition.holds, hresolve]
    cases outcome <;> simp
  · rw [hread (.isSet name true) hname, Condition.holds, hresolve]
    cases outcome <;> simp
  · rw [hread (.equals name v) ⟨hname, trivial⟩, Condition.holds, hresolve, decide_eq_true_iff]
  · have habsent : Slot.Fits .absent := trivial
    have h := interpolate_reference ctx hb hk habsent
    rw [Slot.toText?, fallbackText, List.append_nil, Slot.meaning?, Option.or_none] at h
    exact h
  · have hliteral : Slot.Fits (.literal d) := hd
    have htext : base ++ (keyText key.toText? ++ fallbackText (Slot.literal d).toText?) =
        name ++ '|' :: ('\'' :: (d ++ ['\''])) :=
      (List.append_assoc ..).symm
    rw [← htext, interpolate_reference ctx hb hk hliteral, Slot.meaning?]
    cases hv : value? ctx base (key.meaning? ctx) <;> simp [outcome, hv]

-- A key that is a reference itself, and a name that is not set in a key.
theorem outcome_of_keyed_reference :
    let ctx : Context := { vars := ⟨[
      (['d'], .dictionary (.ofList [("a)".toList, ['v'])])), (['n'], .text "a)".toList)]⟩ }
    let key (n : Text) : Slot := .nested (.reference [] n .absent .absent (.plain []))
    PlainName ['d'] ∧ (key ['n']).Fits ∧ (key ['m']).Fits ∧
      conditionHolds ctx "$(d\x7b$(n)\x7d) == '''v'''".toList = true ∧
      interpolate ctx "$(d\x7b$(n)\x7d)".toList = ['v'] ∧
      conditionHolds ctx "$exists($(d\x7b$(m)\x7d))".toList = false ∧
      interpolate ctx "$(d\x7b$(m)\x7d|'(|')".toList = "(|".toList := by
  intro ctx key
  have hd : PlainName ['d'] := .of_isNameChar (by decide) (by decide)
  have hkey : ∀ n, PlainName n → (key n).Fits := fun n hn => ⟨nofun, hn, trivial, trivial, nofun⟩
  have hn := hkey ['n'] (.of_isNameChar (by decide) (by decide))
  have hm := hkey ['m'] (.of_isNameChar (by decide) (by decide))
  have hquote : '\'' ∉ "(|".toList := by decide
  obtain ⟨-, -, hequal, ⟨htext, -⟩, -⟩ := outcome_of_reference ctx ['d'] (key ['n']) hd hn
  obtain ⟨hset, -, -, -, hdefault⟩ := outcome_of_reference ctx ['d'] (key ['m']) hd hm
  have hsome : value? ctx ['d'] ((key ['n']).meaning? ctx) = some ['v'] := by decide +kernel
  have hnone : value? ctx ['d'] ((key ['m']).meaning? ctx) = none := by decide +kernel
  rw [hsome] at hequal htext
  rw [hnone] at hset hdefault
  refine ⟨hd, hn, hm, (hequal ['v']).2 rfl, htext, ?_, hdefault _ hquote⟩
  exact Bool.eq_false_iff.2 fun h => hset.1 h rfl

-- The reference to a variable by its plain name, with the text behind it.
structure Mention where
  name : Text
  behind : Text

-- A text in which variables are mentioned.
structure Passage where
  front : Text
  mentions : List Mention

namespace Passage

-- The text with something in the place of each reference.
def fill (stand : Text → Text) (p : Passage) : Text :=
  p.front ++ p.mentions.flatMap fun m => stand m.name ++ m.behind

def toText (p : Passage) : Text := p.fill token

-- No reference opens in the text around the references.
structure Fits (p : Passage) : Prop where
  front : Text.contains opener p.front = false
  names : ∀ m ∈ p.mentions, PlainName m.name
  behind : ∀ m ∈ p.mentions, Text.contains opener m.behind = false

theorem fill_cons (stand : Text → Text) (a : Text) (m : Mention) (ms : List Mention) :
    fill stand ⟨a, m :: ms⟩ = a ++ (stand m.name ++ fill stand ⟨m.behind, ms⟩) := by
  simp [fill]

end Passage

-- A substitution keeps text in which no reference opens. It replaces a reference behind such text,
-- and goes on with what stands behind the reference.
structure Substitutes (f stand : Text → Text) : Prop where
  plain : ∀ {a}, Text.contains opener a = false → f a = a
  reference : ∀ {a name}, Text.contains opener a = false → PlainName name → ∀ r,
    f (a ++ (token name ++ r)) = a ++ (stand name ++ f r)

-- So it replaces each reference once, and what it has put in is never looked at.
theorem Substitutes.toText_eq {f stand : Text → Text} (h : Substitutes f stand) {p : Passage}
    (hp : p.Fits) : f p.toText = p.fill stand := by
  obtain ⟨a, ms⟩ := p
  obtain ⟨ha, hnames, hbehind⟩ := hp
  induction ms generalizing a with
  | nil =>
    have htext : ∀ s, Passage.fill s ⟨a, []⟩ = a := fun s => List.append_nil a
    rw [Passage.toText, htext, htext, h.plain ha]
  | cons m ms ih =>
    obtain ⟨hm, hnames⟩ := List.forall_mem_cons.1 hnames
    obtain ⟨hb, hbehind⟩ := List.forall_mem_cons.1 hbehind
    have hrest : f (Passage.fill token ⟨m.behind, ms⟩) = _ := ih m.behind hb hnames hbehind
    rw [Passage.toText, Passage.fill_cons, h.reference ha hm, hrest, Passage.fill_cons]

theorem substitutes_substitute (ctx : Context) :
    Substitutes (substitute ctx) fun name => (value? ctx name none).getD (token name) :=
  ⟨substitute_eq_self, substitute_append_token⟩

theorem substitutes_interpolate (ctx : Context) :
    Substitutes (interpolate ctx) fun name => (value? ctx name none).getD (missing name none) := by
  refine ⟨fun ha => interpolate_eq_self (unreferenced_of_not_contains ha), ?_⟩
  intro a name ha hn r
  have hbalanced : Balanced (· ≠ '|') name := hn.balanced (by decide)
  have hrender : render ctx (name ++ (keyText none ++ fallbackText none)) =
      ((value? ctx name none).or none).getD (missing name none) := render_inside hn nofun nofun
  rw [keyText, fallbackText, List.append_nil, List.append_nil, Option.or_none] at hrender
  rw [interpolate_append_token ha (hbalanced.mono fun _ _ => trivial), hrender]

-- A text with references to plain names comes out of both substitutions with the text of each
-- variable in the place of its reference. An unset name is left as written, but the substitution
-- that knows subscripts and defaults leaves nothing of it if it is one of a few.
theorem substitutions_of_passage (ctx : Context) (p : Passage) (h : p.Fits) :
    let value (name : Text) := (ctx.get? name).map Value.toText
    substitute ctx p.toText = p.fill (fun name => (value name).getD (token name)) ∧
      interpolate ctx p.toText = p.fill (fun name =>
        (value name).getD (if name ∈ emptyWhenUnset then [] else token name)) := by
  intro value
  have hrich := (substitutes_interpolate ctx).toText_eq h
  simp only [missing_eq] at hrich
  exact ⟨(substitutes_substitute ctx).toText_eq h, hrich⟩

-- Stray marks around the references, a value that looks like a reference, and two unset names.
theorem substitutions_of_stray_passage :
    let ctx : Context := { vars := ⟨[(['a'], .text "$(b)".toList), (['b'], .text ['x'])]⟩ }
    let p : Passage := ⟨"it's $".toList,
      [⟨['a'], ")($".toList⟩, ⟨['c'], "'(".toList⟩, ⟨"HTTP_HOST".toList, "$".toList⟩]⟩
    p.Fits ∧ p.toText = "it's $$(a))($$(c)'($(HTTP_HOST)$".toList ∧
      substitute ctx p.toText = "it's $$(b))($$(c)'($(HTTP_HOST)$".toList ∧
      interpolate ctx p.toText = "it's $$(b))($$(c)'($".toList := by
  intro ctx p
  have hfits : p.Fits := by
    refine ⟨by decide, ?_, by decide⟩
    simp only [p, List.forall_mem_cons, List.not_mem_nil, false_implies, implies_true, and_true]
    exact ⟨.of_isNameChar (by decide) (by decide), .of_isNameChar (by decide) (by decide),
      .of_isNameChar (by decide) (by decide)⟩
  obtain ⟨hplain, hrich⟩ := substitutions_of_passage ctx p hfits
  rw [hplain, hrich]
  exact ⟨hfits, by decide +kernel, by decide +kernel, by decide +kernel⟩

end EdgeIncludes
