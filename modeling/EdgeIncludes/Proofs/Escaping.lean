import EdgeIncludes.Proofs.Element
import EdgeIncludes.Proofs.Rendering
import EdgeIncludes.Proofs.Substitution

namespace EdgeIncludes

namespace Text.Escape

-- The characters that could end a text or an attribute.
def marks : Text := "<>\"'".toList

theorem html_cons (c : Char) (t : Text) : html (c :: t) = htmlChar c ++ html t := rfl

-- The references that are written for single characters.
def references : List Text := ["&amp;", "&lt;", "&gt;", "&quot;", "&#x27;"].map String.toList

theorem htmlChar_cases (c : Char) :
    (htmlChar c ∈ references ∧ c ∈ '&' :: marks) ∨ htmlChar c = [c] ∧ c ∉ marks := by
  unfold htmlChar
  repeat' split
  case isFalse h₁ h₂ h₃ h₄ => exact .inr ⟨rfl, by simp [marks, *]⟩
  all_goals exact .inl ⟨by decide, by simp [marks, *]⟩

theorem of_mem_references {e : Text} (he : e ∈ references) {c : Char} (hc : c ∈ e) :
    c ∉ marks ∧ c ≠ '$' ∧ c ≠ '(' := by
  have h : references.all (·.all fun c => c ∉ marks && c ≠ '$' && c ≠ '(') = true := by decide
  have hn := List.all_eq_true.1 (List.all_eq_true.1 h e he) c hc
  simpa [and_assoc] using hn

theorem html_clean {s : Text} {c : Char} (h : c ∈ html s) : c ∉ marks := by
  obtain ⟨d, -, hd⟩ := List.mem_flatMap.1 h
  rcases htmlChar_cases d with ⟨hm, -⟩ | ⟨he, hn⟩
  · exact (of_mem_references hm hd).1
  · rw [he, List.mem_singleton] at hd
    exact hd ▸ hn

theorem startsWith_html (s : Text) : startsWith ['('] (html s) = startsWith ['('] s := by
  cases s with
  | nil => rfl
  | cons c s =>
    have hn : ∀ e ∈ references, e ≠ [] := by decide
    rw [html_cons, startsWith_cons]
    rcases htmlChar_cases c with ⟨hm, hc⟩ | ⟨he, -⟩
    · obtain ⟨d, e, he⟩ := List.exists_cons_of_ne_nil (hn _ hm)
      have hd := (of_mem_references hm (he ▸ List.mem_cons_self ..)).2.2
      have hc' : '(' ≠ c := by
        rintro rfl
        exact absurd hc (by decide)
      rw [he, List.cons_append, startsWith_cons, decide_eq_false hd.symm, decide_eq_false hc']
      rfl
    · rw [he, List.singleton_append, startsWith_cons]
      rfl

-- Escaping neither makes nor breaks the opening of a reference.
theorem contains_opener_html (s : Text) : contains opener (html s) = contains opener s := by
  induction s with
  | nil => rfl
  | cons c s ih =>
    rw [html_cons]
    rcases htmlChar_cases c with ⟨hm, hc⟩ | ⟨he, -⟩
    · have hd : '$' ∉ htmlChar c := fun h => (of_mem_references hm h).2.1 rfl
      have hc' : '$' ∉ [c] := by
        rw [List.mem_singleton]
        rintro rfl
        exact absurd hc (by decide)
      exact (contains_append hd).trans (ih.trans (contains_append (a := [c]) hc').symm)
    · have hs : ∀ t, startsWith opener (c :: t) = (decide ('$' = c) && startsWith ['('] t) :=
        startsWith_cons _ _ _
      rw [he, List.singleton_append, contains_cons, contains_cons, ih, hs, hs, startsWith_html]

-- A text without the opening of a reference has none when it is escaped.
theorem unreferenced_html {s : Text} (h : contains opener s = false) : Unreferenced (html s) := by
  intro a r hc
  have hs := contains_eq_isSome opener (html s)
  rw [hc, contains_opener_html, h] at hs
  cases hs

end Text.Escape

section Document

open Text.Escape

variable {α : Type} {ctx : Context} {name : Text} {v : Value}

-- The call that escapes a variable.
def encodingCall (name : Text) : Text := Builtin.htmlEncode.opening ++ token name ++ [')']

-- The call stands for the escaped value. What the value is plays no part in how the call is read.
theorem substituteCalls_encodingCall (hn : PlainName name) (hv : ctx.get? name = some v) :
    substituteCalls ctx (encodingCall name) = (html v.toText, []) := by
  let c : Call := ⟨.htmlEncode, token name⟩
  have htext : encodingCall name = c.toText := by simp [c, encodingCall, Call.toText]
  have hresult : c.result ctx = .ok (.text (html v.toText), none) := by
    rw [Call.result, arguments_token hn hv]
    rfl
  rw [htext, substituteCalls_toText hn.enclosed.token, Call.shown_of_ok hresult]
  rfl

-- An element that shows variables gives its content in expanded form.
theorem renderDocument_vars (ns : Text) (content : Text) (hns : ns.head? ≠ some '/')
    (hne : content ≠ []) (hc : '<' ∉ content) (ctx : Context) :
    renderDocument (Standard.directives : Directives α) ns ⟨ctx, 0⟩
        (Markup.elementText ns "vars".toList content) =
      ({ segments := Segment.consRaw (expand ctx content).1 [], log := (expand ctx content).2 },
        ⟨ctx, 0⟩) := by
  have ht : Markup.TagName ns "vars".toList :=
    ⟨hns, by decide, List.all_eq_true.1 (by decide), by decide⟩
  have hr := Markup.read_elementText ht hc
  have hd : (Standard.directives : Directives α).find? "vars".toList = some Standard.vars := by
    have hn : "assign".toList ≠ "vars".toList := by decide +kernel
    obtain ⟨ds, he⟩ : ∃ ds, (Standard.directives : Directives α).entries =
        ("assign".toList, Standard.assign) :: ("vars".toList, Standard.vars) :: ds := ⟨_, rfl⟩
    rw [Directives.find?, he, List.find?_cons_of_neg (by rwa [decide_eq_true_eq]),
      List.find?_cons_of_pos (by rw [decide_eq_true_eq])]
    rfl
  have he : Element.consRaw content [] = [.raw content] := by
    rw [Element.consRaw, if_neg hne]
    simp
  rw [renderDocument, hr, he]
  simp only [renderAll, renderElement, hd]
  simp [Standard.vars, Tag.attribute?, Tag.inner, hne, Pass.stopped, Mode.apply, Reaction.ok,
    Segment.merge]

-- The document that shows the escaped text of a variable.
def encodingDocument (name : Text) : Text :=
  "<esi:vars>$html_encode($(".toList ++ name ++ "))</esi:vars>".toList

-- The text that the document comes to: the escaped value, with its references resolved.
theorem renderDocument_encodingDocument (hn : PlainName name) (hv : ctx.get? name = some v) :
    renderDocument (Standard.directives : Directives α) "esi".toList ⟨ctx, 0⟩
        (encodingDocument name) =
      ({ segments := Segment.consRaw (interpolate ctx (html v.toText)) [] }, ⟨ctx, 0⟩) := by
  have hd : encodingDocument name =
      Markup.elementText "esi".toList "vars".toList (encodingCall name) := by
    have hfront : "<esi:vars>$html_encode($(".toList = Markup.openMark "esi".toList ++
        ("vars".toList ++ (['>'] ++ (Builtin.htmlEncode.opening ++ opener))) := by decide +kernel
    have hback : "))</esi:vars>".toList = [')'] ++ ([')'] ++
        (Markup.closeMark "esi".toList "vars".toList ++ ['>'])) := by decide +kernel
    unfold encodingDocument Markup.elementText encodingCall token
    simp only [hfront, hback, List.append_assoc]
    rfl
  have hc : '<' ∉ encodingCall name := by
    simp only [encodingCall, token, List.mem_append, not_or]
    exact ⟨⟨by decide, ⟨by decide, hn.not_mem (by decide)⟩, by decide⟩, by decide⟩
  have he : expand ctx (encodingCall name) = (interpolate ctx (html v.toText), []) := by
    rw [expand, substituteCalls_encodingCall hn hv]
  have hne : encodingCall name ≠ [] := by simp [encodingCall]
  have hns : "esi".toList.head? ≠ some '/' := by decide
  rw [hd, renderDocument_vars _ _ hns hne hc]
  simp only [he]

theorem markup_encodingDocument (hn : PlainName name) (hv : ctx.get? name = some v) :
    (renderDocument (Standard.directives : Directives α) "esi".toList ⟨ctx, 0⟩
        (encodingDocument name)).1.segments.flatMap Segment.markup =
      interpolate ctx (html v.toText) := by
  rw [renderDocument_encodingDocument hn hv, Segment.flatMap_markup_consRaw, List.flatMap_nil,
    List.append_nil]

-- The document comes to the escaped text of the variable with the references in it resolved, and
-- changes nothing. So escaping is final for every value whose escaped text has no complete
-- reference, whatever the other variables are, and then none of the marks is left. A value in which
-- no reference opens is such.
theorem render_html_encode (ctx : Context) (name : Text) (v : Value) (hn : PlainName name)
    (hv : ctx.get? name = some v) :
    let r := renderDocument (Standard.directives : Directives α) "esi".toList ⟨ctx, 0⟩
      (encodingDocument name)
    let text := r.1.segments.flatMap Segment.markup
    text = interpolate ctx (html v.toText) ∧ r.1.log = [] ∧ r.1.fetches = [] ∧ r.2 = ⟨ctx, 0⟩ ∧
      (Unreferenced (html v.toText) → text = html v.toText ∧ ∀ c ∈ text, c ∉ marks) ∧
      (Text.contains opener v.toText = false → text = html v.toText ∧ ∀ c ∈ text, c ∉ marks) := by
  intro r text
  have hr : r = _ := renderDocument_encodingDocument hn hv
  have ht : text = interpolate ctx (html v.toText) := markup_encodingDocument hn hv
  have hfinal : Unreferenced (html v.toText) → text = html v.toText ∧ ∀ c ∈ text, c ∉ marks := by
    intro h
    rw [ht, interpolate_eq_self h]
    exact ⟨rfl, fun c hc => html_clean hc⟩
  refine ⟨ht, ?_, ?_, ?_, hfinal, fun h => hfinal (unreferenced_html h)⟩
  all_goals rw [hr]

theorem render_html_encode_tag :
    let ctx : Context := { vars := ⟨[("name".toList, .text "<b>".toList)]⟩ }
    PlainName "name".toList ∧ ctx.get? "name".toList = some (.text "<b>".toList) ∧
      (renderDocument (Standard.directives : Directives Empty) "esi".toList ⟨ctx, 0⟩
        "<esi:vars>$html_encode($(name))</esi:vars>".toList).1.segments.flatMap Segment.markup =
          "&lt;b&gt;".toList := by
  intro ctx
  have hn : PlainName "name".toList := .of_isNameChar (by decide) (by decide)
  have hv : ctx.get? "name".toList = some (.text "<b>".toList) := rfl
  have hd : "<esi:vars>$html_encode($(name))</esi:vars>".toList =
      encodingDocument "name".toList := by
    decide +kernel
  obtain ⟨-, -, -, -, -, h⟩ := render_html_encode (α := Empty) ctx "name".toList _ hn hv
  rw [hd]
  exact ⟨hn, hv, (h (by decide)).1⟩

-- A variable whose value is a reference to another one. The value of that one is not escaped.
theorem html_encode_not_final :
    let ctx : Context :=
      { vars := ⟨[("x".toList, .text "$(y)".toList), ("y".toList, .text "<".toList)]⟩ }
    PlainName "x".toList ∧ ctx.get? "x".toList = some (.text "$(y)".toList) ∧
      (renderDocument (Standard.directives : Directives Empty) "esi".toList ⟨ctx, 0⟩
        "<esi:vars>$html_encode($(x))</esi:vars>".toList).1.segments.flatMap Segment.markup =
          "<".toList ∧
      html "$(y)".toList = "$(y)".toList := by
  intro ctx
  have hx : PlainName "x".toList := .of_isNameChar (by decide) (by decide)
  have hy : PlainName "y".toList := .of_isNameChar (by decide) (by decide)
  have hv : ctx.get? "x".toList = some (.text "$(y)".toList) := rfl
  have hw : ctx.get? "y".toList = some (.text "<".toList) := rfl
  have hi := interpolate_token hy hw (a := []) (by simp) []
  have hd : "<esi:vars>$html_encode($(x))</esi:vars>".toList = encodingDocument "x".toList := by
    decide +kernel
  rw [interpolate_nil] at hi
  rw [hd]
  exact ⟨hx, hv, (markup_encodingDocument hx hv).trans hi, by decide⟩

end Document

end EdgeIncludes
