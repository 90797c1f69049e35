import EdgeIncludes.Proofs.Balance

namespace EdgeIncludes

mutual

-- Plain text, or plain text in front of a reference and what follows that.
inductive Template where
  | plain (t : Text)
  | reference (front base : Text) (key fallback : Slot) (rest : Template)

-- What stands for a key or a default.
inductive Slot where
  | absent
  | literal (t : Text)
  | nested (t : Template)

end

namespace Reference

def keyText : Option Text → Text
  | none => []
  | some k => '\x7b' :: (k ++ ['\x7d'])

def fallbackText : Option Text → Text
  | none => []
  | some d => '|' :: d

-- The text of a variable, or of an entry where there is a key. An entry of three of the bases is a
-- variable of its own.
def value? (ctx : Context) (base : Text) : Option Text → Option Text
  | none => (ctx.get? base).map Value.toText
  | some key =>
    if base = "HTTP_COOKIE".toList ∨ base = "QUERY_STRING".toList ∨ base = "GEO".toList then
      (ctx.get? (base ++ '_' :: key)).map Value.toText
    else (ctx.get? base).bind (·.index? key)

-- What stands for a reference without a value and without a default.
def missing (base : Text) : Option Text → Text
  | some _ => []
  | none =>
    if base = "HTTP_HOST".toList ∨ base = "HTTP_USER_AGENT".toList ∨
        base = "REQUEST_PATH".toList ∨ base = "QUERY_STRING".toList then []
    else token base

theorem lookUp?_eq_value? (ctx : Context) (base key : Text) :
    lookUp? ctx base key = value? ctx base (some key) := by
  simp only [lookUp?, value?, keyedBases, List.contains_iff_mem, List.mem_cons, List.not_mem_nil,
    or_false]

theorem missing_eq (name : Text) :
    missing name none = if name ∈ emptyWhenUnset then [] else token name := by
  simp only [missing, emptyWhenUnset, List.mem_cons, List.not_mem_nil, or_false]

end Reference

open Reference

mutual

-- How the template is written.
def Template.toText : Template → Text
  | .plain t => t
  | .reference front base key fallback rest =>
    front ++ (token (base ++ (keyText key.toText? ++ fallbackText fallback.toText?)) ++ rest.toText)
termination_by structural t => t

def Slot.toText? : Slot → Option Text
  | .absent => none
  | .literal t => some ('\'' :: (t ++ ['\'']))
  | .nested t => some t.toText
termination_by structural s => s

end

mutual

-- What the template comes to. A value is never looked at again.
def Template.meaning (ctx : Context) : Template → Text
  | .plain t => t
  | .reference front base key fallback rest =>
    let value := value? ctx base (key.meaning? ctx)
    front ++ ((value.or (fallback.meaning? ctx)).getD (missing base (key.meaning? ctx)) ++
      rest.meaning ctx)
termination_by structural t => t

def Slot.meaning? (ctx : Context) : Slot → Option Text
  | .absent => none
  | .literal t => some t
  | .nested t => some (t.meaning ctx)
termination_by structural s => s

end

-- A character that means nothing in a reference.
def isInnerChar (c : Char) : Bool :=
  !Text.isBlank c && !"'()[]\x7b\x7d|$".toList.contains c

-- The plain text of a template in a reference.
def InnerText (t : Text) : Prop := ∀ c ∈ t, isInnerChar c = true

mutual

-- The plain text is of the given kind, bases are plain names, and literals hold no quotation mark.
def Template.Fits (ok : Text → Prop) : Template → Prop
  | .plain t => ok t
  | .reference front base key fallback rest =>
    ok front ∧ PlainName base ∧ key.Fits ∧ fallback.Fits ∧ rest.Fits ok
termination_by structural t => t

def Slot.Fits : Slot → Prop
  | .absent => True
  | .literal t => '\'' ∉ t
  | .nested t => t.Fits InnerText
termination_by structural s => s

end

section Chars

variable {c : Char}

theorem isInnerChar_iff :
    isInnerChar c = true ↔ Text.isBlank c = false ∧ c ∉ "'()[]\x7b\x7d|$".toList := by
  simp [isInnerChar]

theorem ne_of_isInnerChar (h : isInnerChar c = true) {d : Char} (hd : isInnerChar d = false) :
    c ≠ d := by
  rintro rfl
  rw [h] at hd
  cases hd

end Chars

-- A text that can stand as a key or as a default: it has no bar at top level, and no blanks at its
-- ends.
structure SlotText (k : Text) : Prop where
  balanced : Balanced (· ≠ '|') k
  edged : Edged (Text.isBlank · = false) k

section Reading

variable {ctx : Context} {base front inside r k : Text} {key? fallback? : Option Text}

-- How a key or a default is read.
def readSlot (ctx : Context) (k : Text) : Text := (unquote? k).getD (interpolate ctx k)

theorem balanced_name (hb : PlainName base) (hk : ∀ k ∈ key?, SlotText k) :
    Balanced (· ≠ '|') (base ++ keyText key?) := by
  refine (hb.balanced (by decide)).append ?_
  cases key? with
  | none => exact .nil
  | some k => exact .bracket (by decide) (hk k rfl).balanced

theorem edged_name (hb : PlainName base) (key? : Option Text) :
    Edged (Text.isBlank · = false) (base ++ keyText key?) := by
  refine hb.edged.append ?_
  cases key? with
  | none => exact .of_forall (by simp [keyText])
  | some k => exact .enclosed (by decide) (by decide) k

theorem balanced_inside (hb : PlainName base) (hk : ∀ k ∈ key?, SlotText k)
    (hd : ∀ d ∈ fallback?, SlotText d) :
    Balanced (fun _ => True) (base ++ (keyText key? ++ fallbackText fallback?)) := by
  rw [← List.append_assoc]
  refine ((balanced_name hb hk).mono fun _ _ => trivial).append ?_
  cases fallback? with
  | none => exact .nil
  | some d => exact .char (by decide) trivial ((hd d rfl).balanced.mono fun _ _ => trivial)

-- The inside of a reference falls apart at the bar.
theorem ofText_inside (hb : PlainName base) (hk : ∀ k ∈ key?, SlotText k)
    (hd : ∀ d ∈ fallback?, SlotText d) :
    ofText (base ++ (keyText key? ++ fallbackText fallback?)) =
      ⟨base ++ keyText key?, fallback?⟩ := by
  have hname := balanced_name hb hk
  have htrim := (edged_name hb key?).trim_eq
  rw [← List.append_assoc]
  cases fallback? with
  | none =>
    rw [fallbackText, List.append_nil, ofText, hname.splitTop_eq]
    simp only [htrim]
  | some d =>
    have hsplit : splitTop '|' (base ++ keyText key? ++ '|' :: d) = [base ++ keyText key?, d] := by
      have hbar : isMark '|' = false := by decide
      have hcut := splitFrom_append_cons hbar hname.crosses_top.ends d
      rwa [hname.crosses_top.whole, (hd d rfl).balanced.splitTop_eq] at hcut
    rw [fallbackText, ofText, hsplit]
    simp only [htrim, (hd d rfl).edged.trim_eq]

-- Whether a key is searched for references makes no difference when it has none.
theorem keyed_eq_readSlot (ctx : Context) (k : Text) :
    (match unquote? k with
      | some literal => literal
      | none => if Text.contains opener k then interpolate ctx k else k) = readSlot ctx k := by
  rw [readSlot]
  cases unquote? k with
  | some l => rfl
  | none =>
    rw [Option.getD_none]
    dsimp only
    split
    · rfl
    · rename_i h
      exact (interpolate_eq_self (unreferenced_of_not_contains (Bool.eq_false_iff.2 h))).symm

theorem resolve?_name (hb : PlainName base) :
    resolve? ctx (base ++ keyText key?) = value? ctx base (key?.map (readSlot ctx)) := by
  cases key? with
  | none =>
    rw [keyText, List.append_nil, resolve?_of_subscript? hb.subscript?_eq]
    rfl
  | some k =>
    have hs : subscript? (base ++ keyText (some k)) = some (base, k) :=
      subscript?_append (hb.not_mem (by decide))
    rw [resolve?]
    split
    · simp_all
    · rename_i h
      rw [hs] at h
      cases h
      rw [lookUp?_eq_value?]
      exact congrArg (value? ctx base ∘ some) (keyed_eq_readSlot ctx k)

theorem unset_name (hb : PlainName base) (key? : Option Text) :
    unset (base ++ keyText key?) (base ++ keyText key?) =
      missing base (key?.map (readSlot ctx)) := by
  cases key? with
  | none =>
    have hn : '\x7b' ∉ base := hb.not_mem (by decide)
    simp [unset, missing_eq, keyText, hn]
  | some k => simp [unset, missing, keyText]

-- A reference stands for its value, else for its default, else for what an unset name stands for.
theorem render_inside (hb : PlainName base) (hk : ∀ k ∈ key?, SlotText k)
    (hd : ∀ d ∈ fallback?, SlotText d) :
    render ctx (base ++ (keyText key? ++ fallbackText fallback?)) =
      ((value? ctx base (key?.map (readSlot ctx))).or (fallback?.map (readSlot ctx))).getD
        (missing base (key?.map (readSlot ctx))) := by
  have ho := ofText_inside hb hk hd
  have hr : resolve? ctx (base ++ keyText key?) = _ := resolve?_name hb
  rw [render, ho, hr]
  cases value? ctx base (key?.map (readSlot ctx)) with
  | some v => rfl
  | none =>
    cases fallback? with
    | some d => rfl
    | none =>
      rw [fallbackText, List.append_nil]
      exact unset_name hb key?

-- Behind plain text a reference is replaced, and the rest of the text is looked at by itself.
theorem interpolate_append_token (hf : Text.contains opener front = false)
    (hi : Balanced (fun _ => True) inside) (r : Text) :
    interpolate ctx (front ++ (token inside ++ r)) =
      front ++ (render ctx inside ++ interpolate ctx r) := by
  have hcut : Text.cut? opener (front ++ (token inside ++ r)) =
      some (front, inside ++ ')' :: r) := by
    rw [token, List.append_assoc, List.append_assoc]
    exact Text.cut?_append_of_not_contains (by decide) hf
  rw [interpolate_of_closing? hcut (hi.closing?_eq r), List.append_assoc]

end Reading

theorem edged_token {p : Char → Prop} (ho : p '$') (hc : p ')') (inside : Text) :
    Edged p (token inside) :=
  .enclosed ho hc ('(' :: inside)

-- The text of a template in a reference neither starts nor ends in a blank or a quotation mark.
theorem Template.edged {t : Template} (h : t.Fits InnerText) :
    Edged (fun c => Text.isBlank c = false ∧ c ≠ '\'') t.toText := by
  have hplain : ∀ {a : Text}, InnerText a →
      Edged (fun c => Text.isBlank c = false ∧ c ≠ '\'') a := fun ha =>
    .of_forall fun c hc =>
      ⟨(isInnerChar_iff.1 (ha c hc)).1, ne_of_isInnerChar (ha c hc) (by decide)⟩
  match t with
  | .plain a => exact hplain h
  | .reference front base key fallback rest =>
    obtain ⟨hf, -, -, -, hr⟩ := h
    exact (hplain hf).append
      ((edged_token (by decide) (by decide) _).append (Template.edged hr))
termination_by structural t

mutual

theorem Template.balanced {t : Template} (h : t.Fits InnerText) : Balanced (· ≠ '|') t.toText := by
  have hplain : ∀ {a : Text}, InnerText a → Balanced (· ≠ '|') a := fun ha =>
    .of_forall fun c hc =>
      ⟨isMark_eq_false_of (by decide) (ha c hc), ne_of_isInnerChar (ha c hc) (by decide)⟩
  match t with
  | .plain a => exact hplain h
  | .reference front base key fallback rest =>
    obtain ⟨hf, hb, hk, hd, hr⟩ := h
    have hin := balanced_inside hb (Slot.slotText hk) (Slot.slotText hd)
    exact (hplain hf).append ((hin.token (by decide)).append (Template.balanced hr))
termination_by structural t

theorem Slot.slotText {s : Slot} (h : s.Fits) : ∀ k ∈ s.toText?, SlotText k := by
  match s with
  | .absent => exact nofun
  | .literal a =>
    rintro k ⟨⟩
    exact ⟨.quotation h, .enclosed (by decide) (by decide) a⟩
  | .nested t =>
    rintro k ⟨⟩
    exact ⟨Template.balanced h, (Template.edged h).mono fun _ hc => hc.1⟩
termination_by structural s

end

mutual

theorem Template.interpolate_eq (ctx : Context) {ok : Text → Prop}
    (hok : ∀ a, ok a → Text.contains opener a = false) {t : Template} (h : t.Fits ok) :
    interpolate ctx t.toText = t.meaning ctx := by
  match t with
  | .plain a => exact interpolate_eq_self (unreferenced_of_not_contains (hok a h))
  | .reference front base key fallback rest =>
    obtain ⟨hf, hb, hk, hd, hr⟩ := h
    have hin := balanced_inside hb (Slot.slotText hk) (Slot.slotText hd)
    rw [Template.toText, interpolate_append_token (hok front hf) hin,
      render_inside hb (Slot.slotText hk) (Slot.slotText hd), Slot.read_eq ctx hk,
      Slot.read_eq ctx hd, Template.interpolate_eq ctx hok hr]
    rfl
termination_by structural t

theorem Slot.read_eq (ctx : Context) {s : Slot} (h : s.Fits) :
    s.toText?.map (readSlot ctx) = s.meaning? ctx := by
  match s with
  | .absent => rfl
  | .literal a =>
    have hq : unquote? ('\'' :: (a ++ ['\''])) = some a := unquote?_quoted h
    rw [Slot.toText?, Option.map_some, readSlot, hq]
    rfl
  | .nested t =>
    have hq : unquote? t.toText = none :=
      unquote?_eq_none fun c hc => ((Template.edged h).first c hc).2
    have hinner : ∀ a, InnerText a → Text.contains opener a = false := fun a ha =>
      Text.contains_eq_false fun hm => ne_of_isInnerChar (ha _ hm) (by decide) rfl
    rw [Slot.toText?, Option.map_some, readSlot, hq, Option.getD_none,
      Template.interpolate_eq ctx hinner h]
    rfl
termination_by structural s

end

section Single

variable {base : Text} {key fallback : Slot}

theorem resolve?_reference (ctx : Context) (hb : PlainName base) (hk : key.Fits) :
    resolve? ctx (base ++ keyText key.toText?) = value? ctx base (key.meaning? ctx) := by
  rw [resolve?_name hb, Slot.read_eq ctx hk]

-- A reference by itself is a template.
theorem interpolate_reference (ctx : Context) (hb : PlainName base) (hk : key.Fits)
    (hd : fallback.Fits) :
    interpolate ctx (token (base ++ (keyText key.toText? ++ fallbackText fallback.toText?))) =
      ((value? ctx base (key.meaning? ctx)).or (fallback.meaning? ctx)).getD
        (missing base (key.meaning? ctx)) := by
  let t : Template := .reference [] base key fallback (.plain [])
  have htext : t.toText =
      token (base ++ (keyText key.toText? ++ fallbackText fallback.toText?)) := by
    simp [t, Template.toText]
  have hfits : t.Fits fun a => Text.contains opener a = false := ⟨rfl, hb, hk, hd, rfl⟩
  rw [← htext, Template.interpolate_eq ctx (fun _ => id) hfits]
  simp [t, Template.meaning]

end Single

-- The interpolation of the text of a template is its meaning: each reference is replaced by its
-- value, else by what its default means, else by nothing or by itself, and a key is what the
-- template means that is written there.
theorem interpolate_template (ctx : Context) (t : Template)
    (h : t.Fits fun a => Text.contains opener a = false) :
    interpolate ctx t.toText = t.meaning ctx :=
  Template.interpolate_eq ctx (fun _ => id) h

-- Keys with brackets and a bar in them, a key that is a reference with a default, and a default
-- that is a text with a reference. Entries of the three bases are variables of their own, whatever
-- the base holds. The end of the text looks like the start of a reference.
theorem interpolate_template_nested :
    let ctx : Context := { vars := ⟨[
      ("d".toList, .dictionary (.ofList [("a)|b\x7d".toList, ['v'])])),
      ("list".toList, .list [['x'], ['y']]), ("HTTP_COOKIE_s t".toList, .text "$(d)".toList),
      ("QUERY_STRING".toList, .list [['p'], ['q']]),
      ("QUERY_STRING_1".toList, .text "query".toList),
      ("GEO_cc".toList, .boolean true), ("k".toList, .text "cc".toList)]⟩ }
    let name (n : String) : Template := .reference [] n.toList .absent .absent (.plain [])
    let index : Template := .reference [] "n".toList .absent (.literal ['1']) (.plain [])
    let host : Template := .reference [] "HTTP_HOST".toList .absent .absent (.plain "-z".toList)
    let keyed : Template :=
      .reference "; ".toList "HTTP_COOKIE".toList (.literal "s t".toList) .absent <|
        .reference [' '] "QUERY_STRING".toList (.nested index) .absent <|
          .reference [' '] "GEO".toList (.nested (name "k")) .absent <|
            .reference [' '] "GEO".toList (.literal ['k']) .absent <|
              .reference [' '] "k".toList (.literal ['k']) (.literal "none".toList) <|
                .reference [' '] "unset".toList .absent .absent (.plain ['$'])
    let t : Template :=
      .reference [] "d".toList (.literal "a)|b\x7d".toList) .absent <|
        .reference ": ".toList "list".toList (.nested index) .absent <|
          .reference ", ".toList "q".toList .absent (.nested host) keyed
    (t.Fits fun a => Text.contains opener a = false) ∧
      t.toText = ("$(d\x7b'a)|b\x7d'\x7d): $(list\x7b$(n|'1')\x7d), $(q|$(HTTP_HOST)-z)".toList ++
        "; $(HTTP_COOKIE\x7b's t'\x7d) $(QUERY_STRING\x7b$(n|'1')\x7d) ".toList ++
        "$(GEO\x7b$(k)\x7d) $(GEO\x7b'k'\x7d) $(k\x7b'k'\x7d|'none') $(unset)$".toList) ∧
      interpolate ctx t.toText = "v: y, -z; $(d) query true  none $(unset)$".toList := by
  intro ctx name index host keyed t
  have hquote : '\'' ∉ ['1'] ∧ '\'' ∉ "a)|b\x7d".toList ∧ '\'' ∉ "s t".toList ∧ '\'' ∉ ['k'] ∧
      '\'' ∉ "none".toList := by decide
  have hend : Text.contains opener ['$'] = false := by decide
  have hindex : index.Fits InnerText :=
    ⟨nofun, .of_isNameChar (by decide) (by decide), trivial, hquote.1, nofun⟩
  have hhost : host.Fits InnerText :=
    ⟨nofun, .of_isNameChar (by decide) (by decide), trivial, trivial,
      List.all_eq_true.1 (by decide)⟩
  have hk : (name "k").Fits InnerText :=
    ⟨nofun, .of_isNameChar (by decide) (by decide), trivial, trivial, nofun⟩
  have hkeyed : keyed.Fits fun a => Text.contains opener a = false :=
    ⟨by decide, .of_isNameChar (by decide) (by decide), hquote.2.2.1, trivial,
      by decide, .of_isNameChar (by decide) (by decide), hindex, trivial,
      by decide, .of_isNameChar (by decide) (by decide), hk, trivial,
      by decide, .of_isNameChar (by decide) (by decide), hquote.2.2.2.1, trivial,
      by decide, .of_isNameChar (by decide) (by decide), hquote.2.2.2.1, hquote.2.2.2.2,
      by decide, .of_isNameChar (by decide) (by decide), trivial, trivial, hend⟩
  have ht : t.Fits fun a => Text.contains opener a = false :=
    ⟨by decide, .of_isNameChar (by decide) (by decide), hquote.2.1, trivial,
      by decide, .of_isNameChar (by decide) (by decide), hindex, trivial,
      by decide, .of_isNameChar (by decide) (by decide), trivial, hhost, hkeyed⟩
  rw [interpolate_template ctx t ht]
  exact ⟨ht, by decide +kernel, by decide +kernel⟩

end EdgeIncludes
