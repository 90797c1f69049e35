import EdgeIncludes.Proofs.Listing
import EdgeIncludes.Proofs.Source
import EdgeIncludes.Proofs.Splitting
import EdgeIncludes.Proofs.Stray

namespace EdgeIncludes

section Loops

variable {α : Type} {ds : Directives α}

-- Renders a content once for every item, with the variable bound to it.
def eachItem (body : Pass → Output α × Pass) (item : Text) : List Text → Pass → Output α × Pass
  | [], p => ({}, p)
  | v :: vs, p =>
    let (out, p) := body (p.bindItem item v)
    let (more, p) := eachItem body item vs p
    (out ++ more, p)

theorem get?_bindItem (p : Pass) (item v : Text) :
    (p.bindItem item v).context.get? item = some (.text v) := by
  simp [Pass.bindItem, Context.get?_set]

-- The body never sets the flag.
def KeepsGoing (body : Pass → Output α × Pass) : Prop :=
  ∀ p, p.context.broken = false → (body p).2.context.broken = false

theorem iterate_eq_eachItem {body : Pass → Output α × Pass} (hb : KeepsGoing body) (item : Text)
    (vs : List Text) {p : Pass} (hp : p.context.broken = false) :
    iterate body item vs p = eachItem body item vs p := by
  induction vs generalizing p with
  | nil => rfl
  | cons v vs ih =>
    have hbody := hb (p.bindItem item v) hp
    rw [iterate, if_neg (by simp [hp]), eachItem]
    dsimp only
    rw [ih hbody]

-- No break stands among the nodes, at any depth.
def Unbroken (es : List Element) : Prop :=
  ∀ t children, Occurs t children es → t.name ≠ Structured.breakName

theorem Unbroken.raw (t : Text) : Unbroken [.raw t] := by
  intro u us ho
  cases ho with
  | here hm => cases List.mem_singleton.1 hm
  | inside hm _ => cases List.mem_singleton.1 hm

theorem Unbroken.of_tag {t : Tag} {children : List Element} (h : Unbroken [.tag t children]) :
    t.name ≠ Structured.breakName ∧ Unbroken children :=
  ⟨h t children (.here (List.mem_singleton_self _)),
    fun u us ho => h u us (.inside (List.mem_singleton_self _) ho)⟩

theorem Unbroken.of_mem {e : Element} {es : List Element} (h : Unbroken es) (he : e ∈ es) :
    Unbroken [e] :=
  fun t us ho => h t us (ho.mono (List.cons_subset.2 ⟨he, List.nil_subset es⟩))

-- Rendering sets the flag for a break and for nothing else.
theorem KeepsFlag.carries (hds : KeepsFlag ds) :
    Carries ds (fun e => Unbroken [e]) fun p q =>
      p.context.broken = false → q.context.broken = false where
  refl _ := id
  trans h h' := h' ∘ h
  bindItem _ _ _ := id
  leaveLoop _ _ := rfl
  directive he hd taken p := (hds.keeps hd he.of_tag.1 taken p.context).trans
  inside he _ _ _ _ hm := he.of_tag.2.of_mem hm

end Loops

theorem IsUsual.keepsFlag {ds : Directives Fragment} (h : IsUsual ds) : KeepsFlag ds where
  stop := h.forgets.stop
  keeps := by
    intro t d hd hn taken ctx
    rcases h.entry hd with hm | ⟨c, i, rfl⟩
    · exact Standard.flagKept_directives _ hm hn t taken ctx
    · unfold Fragment.directive
      split <;> rfl

-- What a loop runs over, and the variable that it binds.
def Tag.items (t : Tag) (ctx : Context) : List Text :=
  itemsOf ctx ((t.attribute? "collection".toList).getD [])

def Tag.item (t : Tag) : Text := (t.attribute? "item".toList).getD "item".toList

theorem renderElement_forEach {ds : Directives Fragment} (hds : IsUsual ds) {t : Tag}
    (ht : t.name = loopName) (m : Mode) (p : Pass) (taken : Bool) (children : List Element) :
    renderElement ds m p taken (.tag t children) =
      if t.items p.context = [] then ({}, p, taken)
      else
        let r := iterate (fun p => renderAll ds .substituted p false children) t.item
          (t.items p.context) p.enterLoop
        (r.1, r.2.leaveLoop, taken) := by
  have hd : ds.find? t.name = some Standard.forEach := ht ▸ hds.forgets.loop
  rw [renderElement_of_find? hd, Standard.forEach]
  split
  · rename_i hnil
    rw [if_pos (by exact hnil)]
    rfl
  · rename_i hne
    rw [if_neg (by exact hne)]
    rfl

-- Where no break stands in its content, a loop renders the content for all its items.
theorem renderElement_loop {ds : Directives Fragment} (hds : IsUsual ds) {t : Tag}
    (ht : t.name = loopName) {children : List Element} (hch : Unbroken children) (m : Mode)
    (p : Pass) (taken : Bool) :
    renderElement ds m p taken (.tag t children) =
      let r := eachItem (fun p => renderAll ds .substituted p false children) t.item
        (t.items p.context) p.enterLoop
      (r.1, if t.items p.context = [] then p else r.2.leaveLoop, taken) := by
  rw [renderElement_forEach hds ht, iterate_eq_eachItem _ _ _ rfl]
  · split
    · rename_i hnil
      simp only [hnil, eachItem]
    · rfl
  · exact fun p hp =>
      hds.keepsFlag.carries.renderAll .substituted p false children (fun _ => hch.of_mem) hp

section Splitting

open Literal
open Text (IsGapText)

variable {name sep g h : Text}

def textMark : Text := "$str(".toList

def splitMark : Text := "$string_split(".toList

-- The variable that is cut, as it is or as the text that it stands for.
def splitSource (asText : Bool) (name : Text) : Text :=
  if asText then textMark ++ (token name ++ [')']) else token name

-- The collection of the parts of a variable between separators.
def splitCall (asText : Bool) (name sep g h : Text) : Text :=
  splitMark ++ (splitSource asText name ++ (g ++ ',' :: (h ++ (quotation sep ++ [')']))))

theorem source?_eq (t : Text) : Collection.source? t =
    ((Text.after? textMark t).bind fun r => (reference? (Text.skipGap r)).bind fun p =>
      (Text.after? [')'] (Text.skipGap p.2)).bind fun r => some (p.1, r)).or (reference? t) :=
  rfl

theorem split?_eq (t : Text) : Collection.split? t =
    (Text.after? splitMark t).bind fun r => (Collection.source? (Text.skipGap r)).bind fun p =>
      (mark? ',' p.2).bind fun r => (quoted? r).bind fun q =>
        (Text.after? [')'] (Text.skipGap q.2)).bind fun r => some ((p.1, q.1), r) :=
  rfl

theorem source?_splitSource (hname : Enclosed name) (hne : name ≠ []) (asText : Bool) (r : Text) :
    Collection.source? (splitSource asText name ++ r) = some (name, r) := by
  cases asText with
  | false =>
    have hmark : Text.after? textMark (splitSource false name ++ r) = none := rfl
    have href : reference? (splitSource false name ++ r) = some (name, r) :=
      reference?_token hname hne r
    rw [source?_eq, hmark, href]
    rfl
  | true =>
    have htext : splitSource true name ++ r = textMark ++ (token name ++ ')' :: r) := by
      simp [splitSource]
    have hgap : Text.skipGap (token name ++ ')' :: r) = token name ++ ')' :: r := rfl
    rw [source?_eq, htext, Text.after?_append, Option.bind_some, hgap,
      reference?_token hname hne]
    rfl

theorem trim_splitCall (asText : Bool) (name sep g h : Text) :
    Text.trim (splitCall asText name sep g h) = splitCall asText name sep g h := by
  refine Text.trimBy_eq_self ?_ ?_
  · rintro c ⟨⟩
    decide
  · have hend : splitCall asText name sep g h =
        (splitMark ++ (splitSource asText name ++ (g ++ ',' :: (h ++ quotation sep)))) ++
          [')'] := by
      simp [splitCall]
    rw [hend, List.getLast?_concat]
    rintro c ⟨⟩
    decide

theorem ofText_splitCall (hname : Enclosed name) (hne : name ≠ []) (hsep : '\'' ∉ sep)
    (hg : IsGapText g) (hh : IsGapText h) (asText : Bool) :
    Collection.ofText (splitCall asText name sep g h) = .split name sep := by
  have hgap : ∀ r, Text.skipGap (splitSource asText name ++ r) = splitSource asText name ++ r := by
    intro r
    cases asText <;> rfl
  have hcomma : mark? ',' (g ++ ',' :: (h ++ (quotation sep ++ [')']))) =
      some (quotation sep ++ [')']) := mark?_append hg hh (by decide) (by rintro c ⟨⟩; decide)
  have hread : Collection.split? (splitCall asText name sep g h) = some ((name, sep), []) := by
    rw [split?_eq, splitCall, Text.after?_append, Option.bind_some, hgap,
      source?_splitSource hname hne, Option.bind_some, hcomma, Option.bind_some,
      quoted?_quotation hsep (by simp)]
    rfl
  rw [Collection.ofText, trim_splitCall, hread]
  rfl

-- A collection that cuts a variable at a separator. A list gives its items. The text of any other
-- value is cut into parts that the separator joins again and that do not hold it. A loop over the
-- collection without a break in its content renders the content once for every item, in order, with
-- the variable of the loop bound to the item.
theorem split_loses_nothing (asText : Bool) (hname : Enclosed name) (hne : name ≠ [])
    (hsep : sep ≠ []) (hquote : '\'' ∉ sep) (hg : IsGapText g) (hh : IsGapText h) :
    let collection := splitCall asText name sep g h
    (∀ ctx xs, ctx.get? name = some (.list xs) → itemsOf ctx collection = xs) ∧
    (∀ ctx v, ctx.get? name = some v → (∀ xs, v ≠ .list xs) →
      itemsOf ctx collection ≠ [] ∧ Text.join sep (itemsOf ctx collection) = v.toText ∧
        ∀ x ∈ itemsOf ctx collection, Text.contains sep x = false) ∧
    ∀ ds : Directives Fragment, IsUsual ds → ∀ m p taken t children, t.name = loopName →
      t.attribute? "collection".toList = some collection → Unbroken children →
      let items := itemsOf p.context collection
      let body := fun p => renderAll ds .substituted p false children
      let r := eachItem body t.item items p.enterLoop
      renderElement ds m p taken (.tag t children) =
          (r.1, if items = [] then p else r.2.leaveLoop, taken) ∧
        ∀ q x, (Pass.bindItem q t.item x).context.get? t.item = some (.text x) := by
  intro collection
  have hof : Collection.ofText collection = .split name sep :=
    ofText_splitCall hname hne hquote hg hh asText
  refine ⟨?list, ?other, ?loop⟩
  case list =>
    intro ctx xs hv
    rw [itemsOf, hof, Collection.items, hv]
  case other =>
    intro ctx v hv hlist
    have hitems : itemsOf ctx collection = Text.splitOn sep v.toText := by
      rw [itemsOf, hof, Collection.items, hv]
      cases v with
      | list xs => exact absurd rfl (hlist xs)
      | _ => exact if_neg hsep
    rw [hitems]
    exact ⟨Text.splitOn_ne_nil _ _, Text.join_splitOn _ _,
      fun x hx => Text.not_contains_of_mem_splitOn hsep hx⟩
  case loop =>
    intro ds hds m p taken t children ht hcollection hch items body r
    have hitems : t.items p.context = items := by rw [Tag.items, hcollection]; rfl
    rw [renderElement_loop hds ht hch, hitems]
    exact ⟨rfl, fun q x => get?_bindItem q t.item x⟩

-- A separator that overlaps with itself where it stands.
theorem split_with_overlapping_separator :
    let ctx : Context := ({} : Context).set ['l'] (.text "baaac".toList)
    let collection := "$string_split($str($(l)), 'aa')".toList
    let t : Tag := ⟨loopName, [("collection".toList, collection)], [], some "$(item)".toList⟩
    let children : List Element := [.raw "$(item)".toList]
    let r := eachItem
      (fun p => renderAll (Standard.directives : Directives Fragment) .substituted p false children)
      t.item (itemsOf ctx collection) (Pass.enterLoop ⟨ctx, 0⟩)
    Enclosed ['l'] ∧ ctx.get? ['l'] = some (.text "baaac".toList) ∧ Unbroken children ∧
      Text.join "aa".toList (itemsOf ctx collection) = "baaac".toList ∧
      (∀ x ∈ itemsOf ctx collection, Text.contains "aa".toList x = false) ∧
      renderElement Standard.directives .verbatim ⟨ctx, 0⟩ false (.tag t children) =
        (r.1, r.2.leaveLoop, false) := by
  intro ctx collection t children r
  have hname : Enclosed ['l'] := by decide
  have hv : ctx.get? ['l'] = some (.text "baaac".toList) := by decide
  have hcollection : splitCall true ['l'] "aa".toList [] [' '] = collection := by decide +kernel
  have hgap : IsGapText [' '] := List.all_eq_true.1 (by decide)
  have hsep : "aa".toList ≠ [] := by decide
  have hquote : '\'' ∉ "aa".toList := by decide
  obtain ⟨-, hother, hloop⟩ := split_loses_nothing true hname (by decide) hsep hquote
    Text.isGapText_nil hgap
  rw [hcollection] at hother hloop
  obtain ⟨hne, hjoin, hfree⟩ := hother ctx _ hv nofun
  obtain ⟨hrender, -⟩ := hloop _ (.inl rfl) .verbatim ⟨ctx, 0⟩ false t children rfl rfl (.raw _)
  refine ⟨hname, hv, .raw _, hjoin, hfree, hrender.trans ?_⟩
  exact congrArg (fun q => (r.1, q, false)) (if_neg hne)

end Splitting

end EdgeIncludes
