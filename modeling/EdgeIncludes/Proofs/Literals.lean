import EdgeIncludes.Collection
import EdgeIncludes.Proofs.Listing

namespace EdgeIncludes

-- A text that can be written in single quotes, where no references are.
structure QuotedText (a : Text) : Prop where
  quote : '\'' ∉ a
  reference : Text.contains opener a = false

namespace Dictionary

theorem precedes_irrefl (a : Text) : Text.precedes a a = false := by
  induction a with
  | nil => rfl
  | cons c a ih => simp [Text.precedes, ih]

theorem insertInto_append {k : Text} {es : List (Text × Text)}
    (h : ∀ e ∈ es, Text.precedes e.1 k) (v : Text) : insertInto k v es = es ++ [(k, v)] := by
  induction es with
  | nil => rfl
  | cons e es ih =>
    obtain ⟨he, hes⟩ := List.forall_mem_cons.1 h
    have hlt : ¬Text.precedes k e.1 := fun hk => by
      have hcycle := Text.precedes_trans he hk
      rw [precedes_irrefl] at hcycle
      cases hcycle
    have hne : k ≠ e.1 := by
      rintro rfl
      exact hlt he
    rw [insertInto, if_neg hlt, if_neg hne, ih hes]
    rfl

theorem eq_of_entries {d d' : Dictionary} (h : d.entries = d'.entries) : d = d' := by
  cases d
  cases d'
  cases h
  rfl

-- The entries of a dictionary make up the dictionary.
theorem ofList_entries (d : Dictionary) : ofList d.entries = d := by
  have hadd : ∀ (es : List (Text × Text)) (front : Dictionary),
      (front.entries ++ es).Pairwise (fun a b => Text.precedes a.1 b.1) →
      (es.foldl (fun d e => d.insert e.1 e.2) front).entries = front.entries ++ es := by
    intro es
    induction es with
    | nil => exact fun front _ => (List.append_nil _).symm
    | cons e es ih =>
      intro front h
      have hlast : ∀ x ∈ front.entries, Text.precedes x.1 e.1 := fun x hx =>
        (List.pairwise_append.1 h).2.2 x hx e (List.mem_cons_self ..)
      have hinsert : (front.insert e.1 e.2).entries = front.entries ++ [e] :=
        insertInto_append hlast e.2
      rw [List.foldl_cons, ih _ (by rwa [hinsert, List.append_assoc]), hinsert, List.append_assoc]
      rfl
  exact eq_of_entries (hadd d.entries empty d.ascending)

end Dictionary

section Bracketed

open Literal

variable {α : Type} {print : α → Text} {as : List α} {s t u : Text} {o c : Char} {xs : List Text}

-- What is listed between brackets is one part of a sum and holds no reference.
theorem Literal.Listed.bracketed (h : Listed print as s) (ho : (o, c) ∈ bracketPairs)
    (hbalanced : ∀ a ∈ as, Balanced (· ≠ '+') (print a))
    (hunopened : ∀ a ∈ as, Unopened (print a)) :
    let t := o :: (s ++ [c])
    Text.trim t = t ∧ (splitTop '+' t).length = 1 ∧ Text.contains opener t = false := by
  intro t
  have hplain : (Text.isBlank o = false ∧ '$' ∉ [o]) ∧ Text.isBlank c = false ∧ '$' ∉ [c] :=
    forall_bracketPairs (P := fun o c =>
      (Text.isBlank o = false ∧ '$' ∉ [o]) ∧ Text.isBlank c = false ∧ '$' ∉ [c])
      (by decide) (by decide) (by decide) ho
  have hplus : ∀ x, x = ',' ∨ Text.isGap x = true → x ≠ '+' := by
    rintro x hx rfl
    exact absurd hx (by decide)
  have hs : Balanced (· ≠ '+') s := h.balanced hplus hbalanced
  have hwhole : Balanced (· ≠ '+') t := .bracket ho hs
  have hopens : Unopened ([o] ++ (s ++ [c])) :=
    (Unopened.of_not_mem hplain.1.2).append ((h.unopened hunopened).append (.of_not_mem hplain.2.2))
  refine ⟨(Edged.enclosed hplain.1.1 hplain.2.1 s).trim_eq, ?_, hopens.contains_eq⟩
  rw [hwhole.splitTop_eq]
  rfl

theorem contains_opener_trim (h : Text.contains opener t = false) :
    Text.contains opener (Text.trim t) = false :=
  Text.contains_eq_false_of_infix h (Text.trim_infix t)

-- A word is never read as a list.
theorem ofWord_ne_list (t : Text) (xs : List Text) : Term.ofWord t ≠ .literal (.list xs) := by
  rw [Term.ofWord, simple?]
  split
  · simp
  · split
    · simp
    · split
      · simp
      · cases number? t <;> simp

theorem ofAssignment_eq_list_iff (ho : Text.contains opener t = false)
    (hplus : (splitTop '+' (Text.trim t)).length = 1) :
    Expr.ofAssignment t = .term (.literal (.list xs)) ↔
      whole? (list? (Text.trim t)) = some xs := by
  rw [Expr.ofAssignment]
  simp only [hplus, Nat.lt_irrefl, if_false, contains_opener_trim ho, Bool.false_eq_true]
  split
  · rename_i inner hquotes
    have hlist : list? (Text.trim t) = none := by
      rw [between?_eq_some_iff.1 hquotes]
      rfl
    simp [hlist, whole?]
  · split
    · rename_i ys hlist
      simp [hlist]
    · rename_i hlist
      split
      · simp [hlist]
      · simp [hlist, ofWord_ne_list]

theorem reference?_eq_none (h : Text.contains opener t = false) : reference? t = none := by
  have hafter : Text.after? opener t = none := by
    refine Option.eq_none_iff_forall_ne_some.2 fun r hr => ?_
    rw [Text.after?_eq_some_iff.1 hr] at h
    have hopens := Text.contains_iff.2 (List.prefix_append opener r).isInfix
    rw [h] at hopens
    cases hopens
  rw [reference?, hafter]
  rfl

theorem source?_eq_none (h : Text.contains opener t = false) : Collection.source? t = none := by
  rw [Collection.source?, reference?_eq_none h, Option.or_none]
  cases hr : Text.after? "$str(".toList t with
  | none => rfl
  | some r =>
    have hr' := (Text.skipGap_suffix r).trans (Text.suffix_of_after? hr)
    simp [reference?_eq_none (Text.contains_eq_false_of_infix h hr'.isInfix)]

theorem split?_eq_none (h : Text.contains opener t = false) : Collection.split? t = none := by
  rw [Collection.split?]
  cases hr : Text.after? "$string_split(".toList t with
  | none => rfl
  | some r =>
    have hr' := (Text.skipGap_suffix r).trans (Text.suffix_of_after? hr)
    simp [source?_eq_none (Text.contains_eq_false_of_infix h hr'.isInfix)]

-- A gap behind the list makes no difference, since blanks are trimmed.
theorem whole?_list?_trim (t : Text) :
    whole? ((list? (Text.trim t)).map fun p => (p.1, Text.skipGap p.2)) =
      whole? (list? (Text.trim t)) := by
  cases hl : list? (Text.trim t) with
  | none => rfl
  | some p =>
    have hend : p.2 <:+ Text.trim t := bracketed?_leavesEnd (item?_leavesEnd ']') _ _ _ hl
    have hgap : Text.skipGap p.2 = [] ↔ p.2 = [] :=
      ⟨Text.eq_nil_of_skipGap hend, fun h => by rw [h]; rfl⟩
    simp [whole?, hgap]

theorem ofText_eq_literal_iff (ho : Text.contains opener t = false) :
    Collection.ofText t = .literal xs ↔ whole? (list? (Text.trim t)) = some xs := by
  have htrim := contains_opener_trim ho
  rw [Collection.ofText, split?_eq_none htrim, reference?_eq_none htrim]
  simp only [whole?_list?_trim]
  simp only [whole?, Option.bind_none]
  split
  · rename_i ys hlist
    simp [hlist]
  · rename_i hlist
    simp [hlist]

-- The reference to a variable runs over what the variable holds.
theorem ofText_token {name : Text} (h : Enclosed name) (hne : name ≠ []) :
    Collection.ofText (token name) = .stored name := by
  have href := reference?_token h hne []
  rw [List.append_nil] at href
  have hsplit : Collection.split? (token name) = none := rfl
  rw [Collection.ofText, trim_token, hsplit, href]
  rfl

theorem itemsOf_token {name : Text} (h : Enclosed name) (hne : name ≠ []) (ctx : Context)
    (xs : List Text) : itemsOf (ctx.set name (.list xs)) (token name) = xs := by
  have hget : (ctx.set name (.list xs)).get? name = some (.list xs) := by simp [Context.get?_set]
  rw [itemsOf, ofText_token h hne, Collection.items, hget]

end Bracketed

open Literal

-- A dictionary is read back from its text, whatever its keys and values hold.
theorem ofAssignment_dictionary (d : Dictionary)
    (h : ∀ e ∈ d.entries, QuotedText e.1 ∧ QuotedText e.2) :
    Expr.ofAssignment (Value.dictionary d).toText = .term (.literal (.dictionary d)) := by
  have hlisted := Listed.join Value.entryText d.entries
  have ho : ('\x7b', '\x7d') ∈ bracketPairs := by decide
  obtain ⟨htrim, hplus, hopener⟩ := hlisted.bracketed ho
    (fun e he => balanced_entryText (by decide) (h e he).1.quote (h e he).2.quote)
    fun e he => unopened_entryText (h e he).1.reference (h e he).2.reference
  have hread := hlisted.bracketed?_eq entry?_leavesEnd
    (fun e he => readable_entry (h e he).1.quote (h e he).2.quote) ho rfl
  let t := (Value.dictionary d).toText
  have ht : t = '\x7b' :: (Text.join [','] (d.entries.map Value.entryText) ++ ['\x7d']) := rfl
  rw [← ht] at htrim hplus hopener hread
  have hquotes : between? "'''".toList t = none :=
    between?_eq_none (by rw [ht]; rintro c ⟨⟩; decide) _
  have hlist : list? t = none := rfl
  have hentries : whole? (entries? t) = some d.entries := by
    rw [entries?, hread]
    rfl
  rw [Expr.ofAssignment, htrim]
  simp only [hplus, Nat.lt_irrefl, if_false, hopener, Bool.false_eq_true, hquotes, hlist, hentries,
    Dictionary.ofList_entries]
  rfl

-- Empty texts, and texts that mean something outside of quotes.
theorem ofAssignment_dictionary_marks :
    let d : Dictionary :=
      ⟨[([], "a,b".toList), (" +".toList, []), ("\x7d:".toList, "[ \x7b".toList)], by decide⟩
    (∀ e ∈ d.entries, QuotedText e.1 ∧ QuotedText e.2) ∧
      (Value.dictionary d).toText = "\x7b'':'a,b',' +':'','\x7d:':'[ \x7b'\x7d".toList ∧
      Expr.ofAssignment (Value.dictionary d).toText = .term (.literal (.dictionary d)) := by
  intro d
  have hfits : ∀ e ∈ d.entries, QuotedText e.1 ∧ QuotedText e.2 := by
    simp only [d, List.forall_mem_cons, List.not_mem_nil, false_implies, implies_true, and_true]
    exact ⟨⟨⟨by decide, by decide⟩, by decide, by decide⟩,
      ⟨⟨by decide, by decide⟩, by decide, by decide⟩, ⟨by decide, by decide⟩, by decide, by decide⟩
  exact ⟨hfits, by decide +kernel, ofAssignment_dictionary d hfits⟩

-- Where a text holds no reference and is no sum, it is assigned as a list exactly when a loop runs
-- over it as that list, and then a loop over the variable gives the same items. Quoted items
-- between brackets are such a text, whatever they hold and with any gaps around the commas.
theorem list_readings_agree :
    (∀ t, Text.contains opener t = false → (splitTop '+' (Text.trim t)).length = 1 → ∀ xs,
      (Expr.ofAssignment t = .term (.literal (.list xs)) ↔ Collection.ofText t = .literal xs) ∧
      (Collection.ofText t = .literal xs → ∀ ctx name, Enclosed name → name ≠ [] →
        itemsOf ctx t = xs ∧
          itemsOf (ctx.set name ((Expr.ofAssignment t).eval ctx)) (token name) = xs)) ∧
    ∀ xs s, (∀ x ∈ xs, QuotedText x) → Listed quotation xs s →
      let t := '[' :: (s ++ [']'])
      Text.contains opener t = false ∧ (splitTop '+' (Text.trim t)).length = 1 ∧
        Expr.ofAssignment t = .term (.literal (.list xs)) ∧ Collection.ofText t = .literal xs := by
  refine ⟨fun t ho hplus xs => ?_, fun xs s hxs hlisted => ?_⟩
  · have hagree : Expr.ofAssignment t = .term (.literal (.list xs)) ↔
        Collection.ofText t = .literal xs :=
      (ofAssignment_eq_list_iff ho hplus).trans (ofText_eq_literal_iff ho).symm
    refine ⟨hagree, fun hloop ctx name hname hne => ⟨by rw [itemsOf, hloop]; rfl, ?_⟩⟩
    rw [hagree.2 hloop]
    exact itemsOf_token hname hne ctx xs
  · intro t
    have ho : ('[', ']') ∈ bracketPairs := by decide
    obtain ⟨htrim, hplus, hopener⟩ := hlisted.bracketed ho
      (fun x hx => .quotation (hxs x hx).quote) fun x hx => .quotation (hxs x hx).reference
    have hread : list? t = some (xs, []) := hlisted.bracketed?_eq (item?_leavesEnd ']')
      (fun x hx => readable_item ']' (hxs x hx).quote) ho rfl
    have hplus' : (splitTop '+' (Text.trim t)).length = 1 := by rw [htrim, hplus]
    have hwhole : whole? (list? (Text.trim t)) = some xs := by
      rw [htrim, hread]
      rfl
    exact ⟨hopener, hplus', (ofAssignment_eq_list_iff hopener hplus').2 hwhole,
      (ofText_eq_literal_iff hopener).2 hwhole⟩

theorem list_readings_agree_marks :
    let xs := ["".toList, "a,b".toList, "] + [".toList]
    let s := "''\t,\n'a,b' ,'] + ['".toList
    let t := '[' :: (s ++ [']'])
    (∀ x ∈ xs, QuotedText x) ∧ Listed quotation xs s ∧ Text.contains opener t = false ∧
      (splitTop '+' (Text.trim t)).length = 1 ∧
      Expr.ofAssignment t = .term (.literal (.list xs)) ∧ Collection.ofText t = .literal xs ∧
      Enclosed ['l'] ∧ itemsOf {} t = xs ∧
      itemsOf (({} : Context).set ['l'] ((Expr.ofAssignment t).eval {})) "$(l)".toList = xs := by
  intro xs s t
  have hxs : ∀ x ∈ xs, QuotedText x := by
    simp only [xs, List.forall_mem_cons, List.not_mem_nil, false_implies, implies_true, and_true]
    exact ⟨⟨by decide, by decide⟩, ⟨by decide, by decide⟩, by decide, by decide⟩
  have hlisted : Listed quotation xs s :=
    .cons (g := ['\t']) (h := ['\n']) (List.all_eq_true.1 (by decide))
      (List.all_eq_true.1 (by decide))
      (.cons (g := [' ']) (h := []) (List.all_eq_true.1 (by decide)) nofun (.single _))
  obtain ⟨hagree, hquoted⟩ := list_readings_agree
  obtain ⟨hopener, hplus, hassign, hloop⟩ := hquoted xs s hxs hlisted
  have hname : Enclosed ['l'] := by decide
  obtain ⟨hitems, hstored⟩ := (hagree t hopener hplus xs).2 hloop {} ['l'] hname (by decide)
  exact ⟨hxs, hlisted, hopener, hplus, hassign, hloop, hname, hitems, hstored⟩

end EdgeIncludes
