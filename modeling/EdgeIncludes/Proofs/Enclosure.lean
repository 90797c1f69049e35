import EdgeIncludes.Proofs.Inert
import EdgeIncludes.Proofs.Printing
import EdgeIncludes.Proofs.Rounds

namespace EdgeIncludes

open Markup
open Text (IsGapText)

namespace Markup

variable {ns inner t u g r : Text} {tag : Tag} {e : Element}

-- A document that is one element.
theorem read_of_element (h : elementAfresh ns t = some (e, [])) : read ns t = [e] := by
  rw [read_eq_readAfresh, readAfresh, contentAfresh_of_element h, contentAfresh_eq_step]
  rfl

-- An element around one that is read the same wherever it stands.
theorem read_enclose (hu : StartText ns ⟨tag.name, tag.attributes, false⟩ u) (hg : IsGapText g)
    (hname : tag.name ≠ verbatimName) (he : ∀ r, elementAfresh ns (inner ++ r) = some (e, r)) :
    read ns (enclose ns tag.name u g inner) =
      [.tag ⟨tag.name, tag.attributes, enclose ns tag.name u g inner, some inner⟩ [e]] := by
  have hend : (endTag? (closeMark ns tag.name) (closeMark ns tag.name ++ (g ++ ['>']))).isSome := by
    rw [endTag?_eq_some_iff.2 ⟨g, hg, rfl⟩]
    rfl
  have hbody : bodyAfresh ns tag.name (inner ++ (closeMark ns tag.name ++ (g ++ ['>']))) =
      some ([e], closeMark ns tag.name ++ (g ++ ['>'])) := by
    rw [bodyAfresh, if_neg hname, contentAfresh_of_element (he _), contentAfresh_of_closeMark hend]
    rfl
  have h := elementAfresh_enclose hu hg hbody
  rw [List.append_nil] at h
  exact read_of_element h

end Markup

theorem IsUsual.find?_eq {ds : Directives Fragment} (h : IsUsual ds) {name : Text}
    (hn : name ≠ Fragment.includeName) : ds.find? name = Standard.directives.find? name := by
  rcases h with rfl | ⟨c, i, rfl⟩
  · rfl
  · rw [Directives.find?, Fragment.directives, Directives.on, List.find?_cons_of_neg]
    · rfl
    · simpa using hn.symm

section Effects

variable {ds : Directives Fragment} {e e' : Element} {m : Mode} {p : Pass} {taken : Bool}

theorem renderAll_singleton (hp : p.stopped = false) :
    renderAll ds m p taken [e] =
      ((renderElement ds m p taken e).1, (renderElement ds m p taken e).2.1) := by
  rw [renderAll, if_neg (by simp [hp])]
  simp only [renderAll, Output.append_empty]

-- Two elements that rendering treats alike where it comes to them.
def SameEffect (ds : Directives Fragment) (e e' : Element) : Prop :=
  ∀ m p taken, p.stopped = false →
    renderElement ds m p taken e = renderElement ds m p taken e'

theorem SameEffect.renderAll (h : SameEffect ds e e') (m : Mode) (p : Pass) (taken : Bool) :
    renderAll ds m p taken [e] = renderAll ds m p taken [e'] := by
  cases hp : p.stopped with
  | true => rw [EdgeIncludes.renderAll, EdgeIncludes.renderAll, if_pos hp, if_pos hp]
  | false => rw [renderAll_singleton hp, renderAll_singleton hp, h m p taken hp]

-- So are loops over one collection around them.
theorem SameEffect.loop (hds : IsUsual ds) (h : SameEffect ds e e') {t : Tag}
    (ht : t.name = loopName) (k k' : Text) (c c' : Option Text) :
    SameEffect ds (.tag ⟨t.name, t.attributes, k, c⟩ [e])
      (.tag ⟨t.name, t.attributes, k', c'⟩ [e']) := by
  intro m p taken _
  have hbody : (fun p => EdgeIncludes.renderAll ds .substituted p false [e]) =
      fun p => EdgeIncludes.renderAll ds .substituted p false [e'] :=
    funext fun p => h.renderAll .substituted p false
  rw [renderElement_forEach hds (by exact ht), renderElement_forEach hds (by exact ht), hbody]
  rfl

theorem renderDocument_congr {ns t t' : Text} (h : SameEffect ds e e') (ht : read ns t = [e])
    (ht' : read ns t' = [e']) (p : Pass) :
    renderDocument ds ns p t = renderDocument ds ns p t' := by
  rw [renderDocument, renderDocument, ht, ht', h.renderAll]

end Effects

section Forms

def varsName : Text := "vars".toList

def assignName : Text := "assign".toList

-- The elements that have a value in an attribute, or the same value as their content.
inductive TwoForms (c : Text) : Element → Element → Prop where
  | vars : TwoForms c (.tag ⟨varsName, [("content".toList, c)], [], none⟩ [])
      (.tag ⟨varsName, [], [], some c⟩ [.raw c])
  | assign {x : Text} : '"' ∉ x →
    TwoForms c (.tag ⟨assignName, [("name".toList, x), ("value".toList, c)], [], none⟩ [])
      (.tag ⟨assignName, [("name".toList, x)], [], some c⟩ [.raw c])

variable {ds : Directives Fragment} {ns c : Text} {short long : Element}

theorem sameEffect_vars (hds : IsUsual ds) (hc : c ≠ []) (k k' : Text) :
    SameEffect ds (.tag ⟨varsName, [("content".toList, c)], k, none⟩ [])
      (.tag ⟨varsName, [], k', some c⟩ [.raw c]) := by
  intro m p taken hp
  have hd : ds.find? varsName = some Standard.vars := hds.find?_eq (by decide)
  have hlong : (Standard.vars ⟨varsName, [], k', some c⟩ taken p.context : Reaction Fragment) =
      .ok p.context (.content (some .expanded)) taken := by
    simp [Standard.vars, Tag.attribute?, Tag.inner, hc]
  rw [renderElement_of_find? hd, renderElement_of_find? hd, hlong]
  simp only [Reaction.ok, Option.getD_some, renderAll_singleton hp]
  rfl

theorem sameEffect_assign (hds : IsUsual ds) (x k k' : Text) :
    SameEffect ds
      (.tag ⟨assignName, [("name".toList, x), ("value".toList, c)], k, none⟩ [])
      (.tag ⟨assignName, [("name".toList, x)], k', some c⟩ [.raw c]) := by
  intro m p taken _
  have hd : ds.find? assignName = some Standard.assign := hds.find?_eq (by decide)
  have hshort : (Standard.assign ⟨assignName, [("name".toList, x), ("value".toList, c)], k, none⟩
      taken p.context : Reaction Fragment) =
        .ok (p.context.set x ((Expr.ofAssignment c).eval p.context)) .remove taken := rfl
  have hlong : (Standard.assign ⟨assignName, [("name".toList, x)], k', some c⟩ taken p.context :
      Reaction Fragment) =
        .ok (p.context.set x ((Expr.ofAssignment (Text.trim c)).eval p.context)) .remove taken :=
    rfl
  -- Both forms are trimmed before they are read.
  have htrim : Expr.ofAssignment (Text.trim c) = Expr.ofAssignment c := by
    have h : Text.trim (Text.trim c) = Text.trim c := Text.trimBy_trimBy _ c
    rw [Expr.ofAssignment, h, Expr.ofAssignment]
  rw [renderElement_of_find? hd, renderElement_of_find? hd, hshort, hlong, htrim]
  rfl

theorem TwoForms.sameEffect (h : TwoForms c short long) (hds : IsUsual ds) (hc : c ≠ []) :
    SameEffect ds (printed ns short) (printed ns long) := by
  cases h with
  | vars => exact sameEffect_vars hds hc _ _
  | assign _ => exact sameEffect_assign hds _ _ _

theorem TwoForms.printable (h : TwoForms c short long) (hc : c ≠ []) (hquote : '"' ∉ c)
    (hopen : Text.contains (openMark ns) c = false)
    (hclose : Text.contains (closeMark ns []) c = false) :
    Printable ns short ∧ Printable ns long := by
  have hraw : ∀ e ∈ [Element.raw c], Printable ns e := by
    simpa using Printable.raw hc hopen hclose
  have hprint : some c = some (printAll ns [.raw c]) := by simp [printAll, print]
  have hname : IsName isAttributeNameChar "name".toList := by decide
  have hvalue : IsName isAttributeNameChar "value".toList := by decide
  have hcontent : IsName isAttributeNameChar "content".toList := by decide
  cases h with
  | vars =>
    have htag : IsName isTagNameChar varsName := by decide
    have hread : varsName ≠ verbatimName := by decide
    exact ⟨.empty ⟨htag, by simpa using ⟨hcontent, hquote⟩⟩ rfl,
      .node ⟨htag, by simp⟩ hread hprint (.singleton _) hraw⟩
  | assign hx =>
    have htag : IsName isTagNameChar assignName := by decide
    have hread : assignName ≠ verbatimName := by decide
    exact ⟨.empty ⟨htag, by simpa using ⟨⟨hname, hx⟩, hvalue, hquote⟩⟩ rfl,
      .node ⟨htag, by simpa using ⟨hname, hx⟩⟩ hread hprint (.singleton _) hraw⟩

theorem TwoForms.not_raw (h : TwoForms c short long) :
    (∀ t, short ≠ .raw t) ∧ ∀ t, long ≠ .raw t := by
  cases h with
  | vars => exact ⟨nofun, nofun⟩
  | assign _ => exact ⟨nofun, nofun⟩

-- A text without a double quote and without a mark of the namespace may be written in an attribute
-- or as content. The document gives the same and leaves the same context, and so does a document
-- that is a loop around it, over any collection.
theorem forms_agree (hds : IsUsual ds) (hns : Plain ns) (hc : c ≠ []) (hquote : '"' ∉ c)
    (hopen : Text.contains (openMark ns) c = false)
    (hclose : Text.contains (closeMark ns []) c = false) (h : TwoForms c short long) (p : Pass) :
    renderDocument ds ns p (print ns short) = renderDocument ds ns p (print ns long) ∧
      ∀ (t : Tag) (u g : Text), t.name = loopName →
        StartText ns ⟨t.name, t.attributes, false⟩ u → IsGapText g →
        renderDocument ds ns p (enclose ns t.name u g (print ns short)) =
          renderDocument ds ns p (enclose ns t.name u g (print ns long)) := by
  obtain ⟨hshort, hlong⟩ := h.printable hc hquote hopen hclose
  have hread := elementAfresh_print hns short hshort h.not_raw.1
  have hread' := elementAfresh_print hns long hlong h.not_raw.2
  have heffect : SameEffect ds (printed ns short) (printed ns long) := h.sameEffect hds hc
  refine ⟨renderDocument_congr heffect ?short ?long p, fun t u g ht hu hg => ?loop⟩
  case short => exact read_of_element (by simpa using hread [])
  case long => exact read_of_element (by simpa using hread' [])
  case loop =>
    have hname : t.name ≠ verbatimName := by rw [ht]; decide
    exact renderDocument_congr (heffect.loop hds ht _ _ _ _) (read_enclose hu hg hname hread)
      (read_enclose hu hg hname hread') p

-- A value with the beginning of an end tag, an apostrophe, a reference and a call.
theorem forms_agree_in_loop :
    let ns := "esi".toList
    let c := "</b '>$(x)' $url_encode('&'".toList
    let p : Pass := ⟨({} : Context).set ['l'] (.list [['1'], ['2']]), 0⟩
    let loop := fun inner => "<esi:foreach collection=\"$(l)\">".toList ++ inner ++
      "</esi:foreach>".toList
    let short := "<esi:vars content=\"".toList ++ c ++ "\"/>".toList
    let long := "<esi:vars>".toList ++ c ++ "</esi:vars>".toList
    c ≠ [] ∧ '"' ∉ c ∧ Text.contains (openMark ns) c = false ∧
      Text.contains (closeMark ns []) c = false ∧
      renderDocument (Standard.directives : Directives Fragment) ns p (loop short) =
        renderDocument Standard.directives ns p (loop long) := by
  intro ns c p loop short long
  have hc : c ≠ [] := by decide
  have hquote : '"' ∉ c := by decide
  have hopen : Text.contains (openMark ns) c = false := by decide
  have hclose : Text.contains (closeMark ns []) c = false := by decide
  let t : Tag := ⟨loopName, [("collection".toList, "$(l)".toList)], [], none⟩
  have hu : StartText ns ⟨t.name, t.attributes, false⟩ "<esi:foreach collection=\"$(l)\">".toList :=
    startText_print ns (t := t) (by decide) false
  have h := (forms_agree (.inl rfl) (by decide) hc hquote hopen hclose .vars p).2 t _ [] rfl hu
    Text.isGapText_nil
  exact ⟨hc, hquote, hopen, hclose, h⟩

end Forms

section Verbatim

variable {ds : Directives Fragment} {ns c : Text} {ctx : Context} {p : Pass} {t : Tag} {n : Nat}

-- The element whose content is not read for elements.
def verbatimElement (ns c : Text) : Element :=
  .tag ⟨verbatimName, [], elementText ns verbatimName c, some c⟩ []

theorem elementAfresh_verbatim (hns : Plain ns)
    (hc : ∀ a g b, IsGapText g → c ≠ a ++ (closeMark ns verbatimName ++ (g ++ '>' :: b)))
    (r : Text) :
    elementAfresh ns (elementText ns verbatimName c ++ r) = some (verbatimElement ns c, r) := by
  have hend : ∀ a, a <:+ c → endTag? (closeMark ns verbatimName) a = none := by
    rintro a ⟨front, hfront⟩
    refine Option.eq_none_iff_forall_ne_some.2 fun b hb => ?_
    obtain ⟨g, hg, ha⟩ := endTag?_eq_some_iff.1 hb
    exact hc front g b hg (by rw [← hfront, ha])
  have hprint : elementText ns verbatimName c =
      print ns (.tag ⟨verbatimName, [], [], some c⟩ []) := by
    simp [elementText, print, printStart]
  have hname : IsName isTagNameChar verbatimName := by decide
  have hprintable : Printable ns (.tag ⟨verbatimName, [], [], some c⟩ []) :=
    .verbatim ⟨hname, by simp⟩ rfl rfl hend
  have h := elementAfresh_print hns _ hprintable (by rintro t ⟨⟩) r
  rw [← hprint] at h
  rw [h, printed, ← hprint]
  rfl

theorem renderElement_verbatim (hds : IsUsual ds) (m : Mode) (p : Pass) (taken : Bool) :
    renderElement ds m p taken (verbatimElement ns c) = (.ofText c, p, taken) := by
  have hd : ds.find? verbatimName = some Standard.text := hds.find?_eq (by decide)
  rw [verbatimElement, renderElement_of_find? hd]
  rfl

theorem renderAll_verbatim (hds : IsUsual ds) (m : Mode) (hp : p.stopped = false) (taken : Bool) :
    renderAll ds m p taken [verbatimElement ns c] = (.ofText c, p) := by
  rw [renderAll_singleton hp, renderElement_verbatim hds]

-- The elements that show their content, and how often.
inductive Shows (ctx : Context) (t : Tag) : Nat → Prop where
  | vars : t.name = varsName → t.attribute? "content".toList = none → Shows ctx t 1
  | choose : t.name = "choose".toList → Shows ctx t 1
  | branch : t.name = "when".toList →
    testHolds ctx ((t.attribute? "test".toList).getD []) = true → Shows ctx t 1
  | loop : t.name = loopName → Shows ctx t (t.items ctx).length

theorem Shows.ne_verbatim (h : Shows ctx t n) : t.name ≠ verbatimName := by
  cases h with
  | vars ht _ => rw [ht]; decide
  | choose ht => rw [ht]; decide
  | branch ht _ => rw [ht]; decide
  | loop ht => rw [ht]; decide

-- The source of the element does not matter.
theorem Shows.withSource (h : Shows ctx t n) (k : Text) (c : Option Text) :
    Shows ctx ⟨t.name, t.attributes, k, c⟩ n := by
  cases h with
  | vars ht hnone => exact .vars ht hnone
  | choose ht => exact .choose ht
  | branch ht htest => exact .branch ht htest
  | loop ht => exact .loop ht

-- What the element leaves when its content changes nothing: a loop binds its variable.
def Tag.afterwards (t : Tag) (p : Pass) : Pass :=
  if t.name = loopName ∧ t.items p.context ≠ [] then
    ((t.items p.context).foldl (·.bindItem t.item ·) p.enterLoop).leaveLoop
  else p

-- A body that gives the same text every time and changes nothing.
theorem iterate_ofText {body : Pass → Output Fragment × Pass}
    (hb : ∀ p, p.stopped = false → body p = (.ofText c, p)) (item : Text) (vs : List Text)
    (hp : p.context.broken = false) :
    iterate body item vs p =
      ({ segments := List.replicate vs.length (.raw c) }, vs.foldl (·.bindItem item ·) p) := by
  induction vs generalizing p with
  | nil => rfl
  | cons v vs ih =>
    have hbound : (p.bindItem item v).context.broken = false := hp
    have hstopped : (p.bindItem item v).stopped = false := by
      rw [Pass.stopped, hbound, Bool.and_false]
    rw [iterate, if_neg (by simp [hp]), hb _ hstopped]
    dsimp only
    rw [ih hbound]
    rfl

theorem Shows.renderElement (h : Shows ctx t n) (hds : IsUsual ds) (hinner : t.inner ≠ [])
    (ns c : Text) :
    ∃ taken, renderElement ds .verbatim ⟨ctx, 0⟩ false (.tag t [verbatimElement ns c]) =
      ({ segments := List.replicate n (.raw c) }, t.afterwards ⟨ctx, 0⟩, taken) := by
  have hp : Pass.stopped ⟨ctx, 0⟩ = false := rfl
  -- The elements that show their content once leave everything as it is.
  have hother : t.name ≠ loopName → t.afterwards ⟨ctx, 0⟩ = ⟨ctx, 0⟩ :=
    fun hne => if_neg fun hloop => hne hloop.1
  cases h with
  | vars ht hnone =>
    have hd : ds.find? t.name = some Standard.vars := ht ▸ hds.find?_eq (by decide)
    have hverdict : (Standard.vars t false ctx : Reaction Fragment) =
        .ok ctx (.content (some .expanded)) false := by
      rw [Standard.vars, hnone]
      dsimp only
      rw [if_neg hinner]
    refine ⟨false, ?_⟩
    rw [hother (by rw [ht]; decide), renderElement_of_find? hd, hverdict]
    simp only [Reaction.ok, Option.getD_some, renderAll_verbatim hds _ hp]
    rfl
  | choose ht =>
    have hd : ds.find? t.name = some Standard.choose := ht ▸ hds.find?_eq (by decide)
    refine ⟨false, ?_⟩
    rw [hother (by rw [ht]; decide), renderElement_of_find? hd]
    simp only [Standard.choose, Reaction.ok, Option.getD_none, renderAll_verbatim hds _ hp]
    rfl
  | branch ht htest =>
    have hd : ds.find? t.name = some Standard.branch := ht ▸ hds.find?_eq (by decide)
    have hverdict : (Standard.branch t false ctx : Reaction Fragment) =
        .ok ctx (.content none) true := if_pos htest
    refine ⟨true, ?_⟩
    rw [hother (by rw [ht]; decide), renderElement_of_find? hd, hverdict]
    simp only [Reaction.ok, Option.getD_none, renderAll_verbatim hds _ hp]
    rfl
  | loop ht =>
    have hbody : ∀ p : Pass, p.stopped = false →
        renderAll ds .substituted p false [verbatimElement ns c] = (.ofText c, p) :=
      fun p hp => renderAll_verbatim hds .substituted hp false
    have hloop := iterate_ofText hbody t.item (t.items ctx) (p := Pass.enterLoop ⟨ctx, 0⟩) rfl
    refine ⟨false, ?_⟩
    rw [renderElement_forEach hds ht, Tag.afterwards]
    by_cases hnil : t.items ctx = []
    · rw [if_pos hnil, if_neg fun h => h.2 hnil, hnil]
      rfl
    · rw [if_neg hnil, if_pos ⟨ht, hnil⟩]
      dsimp only
      rw [hloop]

-- The copies of a text are one text.
theorem Segment.merge_replicate (n : Nat) (c : Text) :
    merge (List.replicate n (.raw c)) = consRaw (List.replicate n c).flatten [] := by
  induction n with
  | zero => rfl
  | succ n ih =>
    rw [List.replicate_succ, merge, ih, ← consRaw_append, List.replicate_succ, List.flatten_cons]

-- Content that is not read for elements may be any text without the end tag. It comes through as it
-- stands, with nothing substituted, nothing fetched and nothing noted in the log: by itself, and in
-- an element that shows its content, as often as that does. What is left is the same as with empty
-- content.
theorem verbatim_comes_through (hds : IsUsual ds) (hns : Plain ns) (ctx : Context)
    (hc : ∀ a g b, IsGapText g → c ≠ a ++ (closeMark ns verbatimName ++ (g ++ '>' :: b))) :
    renderDocument ds ns ⟨ctx, 0⟩ (elementText ns verbatimName c) =
        ({ segments := Segment.consRaw c [] }, ⟨ctx, 0⟩) ∧
      ∀ t u g n, StartText ns ⟨t.name, t.attributes, false⟩ u → IsGapText g → Shows ctx t n →
        let document := fun c => enclose ns t.name u g (elementText ns verbatimName c)
        renderDocument ds ns ⟨ctx, 0⟩ (document c) =
          ({ segments := Segment.consRaw (List.replicate n c).flatten [] },
            (renderDocument ds ns ⟨ctx, 0⟩ (document [])).2) := by
  refine ⟨?alone, fun t u g n hu hg ht => ?inside⟩
  case alone =>
    have hread := elementAfresh_verbatim hns hc []
    rw [List.append_nil] at hread
    rw [renderDocument, read_of_element hread, renderAll_verbatim hds _ rfl]
    rfl
  case inside =>
    intro document
    have hrender : ∀ c,
        (∀ a g b, IsGapText g → c ≠ a ++ (closeMark ns verbatimName ++ (g ++ '>' :: b))) →
        renderDocument ds ns ⟨ctx, 0⟩ (document c) =
          ({ segments := Segment.consRaw (List.replicate n c).flatten [] },
            t.afterwards ⟨ctx, 0⟩) := by
      intro c hc
      have hread := read_enclose hu hg ht.ne_verbatim (elementAfresh_verbatim hns hc)
      have hinner : elementText ns verbatimName c ≠ [] := by simp [elementText, openMark]
      have hshows := ht.withSource (document c) (some (elementText ns verbatimName c))
      obtain ⟨taken, h⟩ := hshows.renderElement hds hinner ns c
      rw [renderDocument, hread, renderAll_singleton rfl, h]
      dsimp only
      rw [Segment.merge_replicate]
      rfl
    rw [hrender c hc, hrender [] (by simp [closeMark])]

-- The end tag of the loop, an element, a reference, a call, and an end tag that is not whole.
theorem verbatim_comes_through_loop :
    let ns := "esi".toList
    let c := "</esi:foreach><esi:vars>$(x)$url_encode('&')<esi:include src='u'/></esi:text ".toList
    let ctx : Context := ({} : Context).set ['l'] (.list [['1'], ['2']])
    let document := fun c => "<esi:foreach collection=\"$(l)\"><esi:text>".toList ++ c ++
      "</esi:text></esi:foreach>".toList
    (∀ a g b, IsGapText g → c ≠ a ++ (closeMark ns verbatimName ++ (g ++ '>' :: b))) ∧
      renderDocument (Standard.directives : Directives Fragment) ns ⟨ctx, 0⟩ (document c) =
        ({ segments := [.raw (c ++ c)] },
          (renderDocument (Standard.directives : Directives Fragment) ns ⟨ctx, 0⟩
            (document [])).2) := by
  intro ns c ctx document
  have hc : ∀ a g b, IsGapText g → c ≠ a ++ (closeMark ns verbatimName ++ (g ++ '>' :: b)) := by
    intro a g b hg he
    have hall : ∀ u ∈ c.tails, endTag? (closeMark ns verbatimName) u = none := by decide
    have hnone := hall _ ((List.mem_tails _ _).2 ⟨a, he.symm⟩)
    rw [endTag?_eq_some_iff.2 ⟨g, hg, rfl⟩] at hnone
    cases hnone
  let t : Tag := ⟨loopName, [("collection".toList, "$(l)".toList)], [], none⟩
  have hu : StartText ns ⟨t.name, t.attributes, false⟩ "<esi:foreach collection=\"$(l)\">".toList :=
    startText_print ns (t := t) (by decide) false
  have hshows : Shows ctx t (t.items ctx).length := .loop rfl
  have hitems : t.items ctx = [['1'], ['2']] := by decide
  rw [hitems] at hshows
  have h := (verbatim_comes_through (.inl rfl) (by decide) ctx hc).2 t _ [] 2 hu
    Text.isGapText_nil hshows
  exact ⟨hc, h⟩

-- An element that has a value in an attribute shows the value instead of its content.
theorem attribute_instead_of_content :
    let ns := "esi".toList
    let document := "<esi:vars content=\"a\"><esi:text>b</esi:text></esi:vars>".toList
    let r := renderDocument (Standard.directives : Directives Fragment) ns {} document
    (∀ a g b, IsGapText g → ['b'] ≠ a ++ (closeMark ns verbatimName ++ (g ++ '>' :: b))) ∧
      r.1.segments = [.raw ['a']] ∧ r.1.segments ≠ Segment.consRaw ['b'] [] := by
  intro ns document r
  have hc : ∀ a g b, IsGapText g →
      ['b'] ≠ a ++ (closeMark ns verbatimName ++ (g ++ '>' :: b)) := by
    intro a g b _ he
    have hmem : '>' ∈ ['b'] := by rw [he]; simp
    exact absurd hmem (by decide)
  let inner := "<esi:text>b</esi:text>".toList
  let t : Tag := ⟨varsName, [("content".toList, ['a'])], document, some inner⟩
  have hu : StartText ns ⟨t.name, t.attributes, false⟩ "<esi:vars content=\"a\">".toList :=
    startText_print ns (t := t) (by decide) false
  have hread : read ns document = [.tag t [verbatimElement ns ['b']]] :=
    read_enclose (g := []) hu Text.isGapText_nil (by decide)
      (elementAfresh_verbatim (by decide) hc)
  have hshown : expand {} ['a'] = (['a'], []) := by
    rw [expand, substituteCalls_eq_self (by decide)]
    exact Prod.ext (interpolate_eq_self (unreferenced_of_not_contains (by decide))) rfl
  have hvars : (Standard.vars t false {} : Reaction Fragment) = .ok {} (.replace ['a']) false :=
    congrArg (fun x : Text × Log => Reaction.ok {} (.replace x.1) false x.2) hshown
  have hd : (Standard.directives : Directives Fragment).find? t.name = some Standard.vars := rfl
  have hrender : r.1.segments = [.raw ['a']] := by
    simp only [r, renderDocument, hread]
    rw [renderAll_singleton rfl, renderElement_of_find? hd, hvars]
    rfl
  exact ⟨hc, hrender, by rw [hrender]; decide⟩

end Verbatim

end EdgeIncludes
