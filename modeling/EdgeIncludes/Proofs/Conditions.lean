import EdgeIncludes.Condition
import EdgeIncludes.Proofs.Grammar
import EdgeIncludes.Proofs.Template
import EdgeIncludes.Proofs.TripleQuotes

namespace EdgeIncludes

open Reference

-- The quotation marks around an operand.
inductive Quotes where
  | single
  | triple
deriving DecidableEq

namespace Quotes

def mark : Quotes → Text
  | single => ['\'']
  | triple => tripleMark

def around (q : Quotes) (v : Text) : Text := q.mark ++ (v ++ q.mark)

-- Three quotes can stand around every text, and one around a text without quotes.
def Fits : Quotes → Text → Prop
  | single, v => '\'' ∉ v
  | triple, _ => True

variable {q : Quotes} {v : Text}

theorem fits_of_not_mem (h : '\'' ∉ v) (q : Quotes) : q.Fits v := by
  cases q with
  | single => exact h
  | triple => trivial

theorem unquote?_around (h : q.Fits v) : unquote? (q.around v) = some v := by
  cases q with
  | single => exact unquote?_quoted h
  | triple =>
    have hv : between? "'''".toList (triple.around v) = some v := between?_tripled v
    rw [unquote?, hv]
    rfl

theorem around_ne_nil (q : Quotes) (v : Text) : q.around v ≠ [] := by
  cases q <;> simp [around, mark, tripleMark]

theorem balanced_around {p : Char → Prop} (h : '\'' ∉ v) (q : Quotes) :
    Balanced p (q.around v) := by
  cases q with
  | single => exact .quotation h
  | triple =>
    have hpair : Balanced p ('\'' :: ([] ++ ['\''])) := .quotation (by simp)
    exact .quoted (a := []) (by simp) (.quoted h hpair)

theorem edged_around (q : Quotes) (v : Text) : Edged (Text.isBlank · = false) (q.around v) := by
  cases q with
  | single => exact .enclosed (by decide) (by decide) v
  | triple => exact edged_tripled v

end Quotes

-- What a reference holds: a plain name, with or without a key in braces. The key is quoted, or a
-- text with references of its own.
inductive ReferenceName : Text → Prop where
  | intro (base : Text) (key : Slot) :
    PlainName base → key.Fits → ReferenceName (base ++ keyText key.toText?)

namespace ReferenceName

variable {name : Text}

theorem balanced (h : ReferenceName name) : Balanced (· ≠ '|') name := by
  cases h with
  | intro base key hb hk => exact balanced_name hb (Slot.slotText hk)

theorem ne_nil (h : ReferenceName name) : name ≠ [] := by
  cases h with
  | intro base key hb hk => exact List.append_ne_nil_of_left_ne_nil hb.ne_nil _

theorem reference?_eq (h : ReferenceName name) (r : Text) :
    reference? (token name ++ r) = some (name, r) :=
  reference?_token h.balanced.enclosed h.ne_nil r

end ReferenceName

namespace Condition

def existsMark : Text := "$exists(".toList

-- How a condition is written. What is no condition has no text.
def toText (q : Quotes) : Condition → Text
  | isSet name negated =>
    (if negated then ['!'] else []) ++ (existsMark ++ (token name ++ [')']))
  | equals name value => token name ++ (" == ".toList ++ q.around value)
  | fits name pattern => token name ++ (" matches ".toList ++ q.around pattern)
  | call function arguments => '$' :: (function ++ '(' :: (arguments ++ [')']))
  | unrecognized => []

-- A name that a call can have.
structure Identifier (f : Text) : Prop extends Markup.IsName isNameChar f where
  first : ∀ c ∈ f.head?, c.isDigit = false

-- The conditions that have a text. Operands in three quotes are free, and so are the arguments of a
-- call, but a call of the name that tests for a variable would be such a test.
def Writable (q : Quotes) : Condition → Prop
  | isSet name _ => ReferenceName name
  | equals name value => ReferenceName name ∧ q.Fits value
  | fits name pattern => ReferenceName name ∧ q.Fits pattern
  | call function _ => Identifier function ∧ function ≠ "exists".toList
  | unrecognized => False

section Forms

variable {q : Quotes} {name f r t v : Text}

theorem operand_around (h : q.Fits v) : operand (q.around v) = v := by
  rw [operand, (q.edged_around v).trim_eq]
  simp only [Quotes.unquote?_around h, Option.getD_some]

-- What the first of the forms says that reads the text.
theorem ofText_eq (h : Edged (Text.isBlank · = false) t) :
    ofText t = (((negated? t).map fun n => isSet n true).or <|
      ((isSet? t).map fun n => isSet n false).or <|
      ((equals? t).map fun p => equals p.1 p.2).or <|
      ((fits? t).map fun p => fits p.1 p.2).or <|
      (call? t).map fun p => call p.1 p.2).getD unrecognized := by
  rw [ofText, h.trim_eq]
  simp only [List.findSome?_cons, List.findSome?_nil, id_eq]
  cases negated? t <;> cases isSet? t <;> cases equals? t <;> cases fits? t <;> cases call? t <;>
    rfl

theorem existsMark_append (r : Text) : existsMark ++ r = '$' :: ("exists(".toList ++ r) := rfl

theorem isSet?_eq (t : Text) : isSet? t = (Text.after? existsMark t).bind fun r =>
    (reference? (Text.skipGap r)).bind fun p =>
      (Text.after? [')'] (Text.skipGap p.2)).bind fun _ => some p.1 :=
  rfl

theorem isSet?_existsMark (h : ReferenceName name) :
    isSet? (existsMark ++ (token name ++ [')'])) = some name := by
  have hstart : Text.skipGap (token name ++ [')']) = token name ++ [')'] := rfl
  rw [isSet?_eq, Text.after?_append, Option.bind_some, hstart, h.reference?_eq]
  rfl

theorem isSet?_eq_none (h : Text.after? existsMark t = none) : isSet? t = none := by
  rw [isSet?_eq, h]
  rfl

theorem negated?_eq_none (h : t.head? ≠ some '!') : negated? t = none := by
  cases t with
  | nil => rfl
  | cons c t =>
    have hc : '!' ≠ c := fun he => h (by rw [he]; rfl)
    rw [negated?, Text.after?, if_neg hc]
    rfl

-- No test for a variable begins with a reference.
theorem negated?_token (name r : Text) : negated? (token name ++ r) = none :=
  negated?_eq_none (by simp [token, opener])

theorem isSet?_token (name r : Text) : isSet? (token name ++ r) = none := isSet?_eq_none rfl

theorem equals?_eq (t : Text) : equals? t = (reference? t).bind fun p =>
    (Text.after? "==".toList (Text.skipGap p.2)).bind fun r =>
      some (p.1, operand (Text.skipGap r)) :=
  rfl

theorem fits?_eq (t : Text) : fits? t = (reference? t).bind fun p =>
    (Text.skipGap? p.2).bind fun r => (Text.after? "matches".toList r).bind fun r =>
      (Text.skipGap? r).bind fun r => some (p.1, operand r) :=
  rfl

theorem skipGap_around (q : Quotes) (v : Text) : Text.skipGap (q.around v) = q.around v := by
  cases q <;> rfl

theorem equals?_sign (h : ReferenceName name) (hv : q.Fits v) :
    equals? (token name ++ (" == ".toList ++ q.around v)) = some (name, v) := by
  have hsign : Text.after? "==".toList (Text.skipGap (" == ".toList ++ q.around v)) =
      some (' ' :: q.around v) := rfl
  have hskip : Text.skipGap (' ' :: q.around v) = q.around v := skipGap_around q v
  rw [equals?_eq, h.reference?_eq, Option.bind_some, hsign, Option.bind_some,
    hskip, operand_around hv]

theorem equals?_matches (h : ReferenceName name) (r : Text) :
    equals? (token name ++ (" matches ".toList ++ r)) = none := by
  rw [equals?_eq, h.reference?_eq]
  rfl

theorem fits?_matches (h : ReferenceName name) (hv : q.Fits v) :
    fits? (token name ++ (" matches ".toList ++ q.around v)) = some (name, v) := by
  have hword : Text.skipGap? (" matches ".toList ++ q.around v) =
      some ("matches".toList ++ ' ' :: q.around v) := rfl
  have hskip : Text.skipGap? (' ' :: q.around v) = some (q.around v) :=
    congrArg some (skipGap_around q v)
  rw [fits?_eq, h.reference?_eq, Option.bind_some, hword, Option.bind_some,
    Text.after?_append, Option.bind_some, hskip, Option.bind_some, operand_around hv]

theorem call?_eq (t : Text) : call? t = (Text.after? ['$'] t).bind fun r =>
    (identifier? r).bind fun p => (Text.after? ['('] p.2).bind fun r =>
      some (p.1, (Text.before? [')'] (Text.trimEnd r)).getD (Text.trimEnd r)) :=
  rfl

-- A name ends where its parenthesis opens.
theorem Identifier.spanBy_eq (h : Identifier f) (r : Text) :
    Text.spanBy isNameChar (f ++ '(' :: r) = (f, '(' :: r) :=
  Text.spanBy_append h.chars (by rintro c ⟨⟩; decide)

theorem identifier?_append (h : Identifier f) (r : Text) :
    identifier? (f ++ '(' :: r) = some (f, '(' :: r) := by
  rw [identifier?, h.spanBy_eq]
  obtain ⟨c, f, rfl⟩ := List.exists_cons_of_ne_nil h.ne_nil
  simp only [h.first c rfl, Bool.false_eq_true, if_false]

-- The arguments run to the last parenthesis, whatever they hold.
theorem call?_parenthesis (h : Identifier f) (arguments : Text) :
    call? ('$' :: (f ++ '(' :: (arguments ++ [')']))) = some (f, arguments) := by
  have htrim : Text.trimEnd (arguments ++ [')']) = arguments ++ [')'] := by
    simp [Text.trimEnd, Text.trimEndBy, show Text.isBlank ')' = false by decide]
  have hname : ∀ r, Text.after? ['$'] ('$' :: r) = some r := fun r => rfl
  have hopen : ∀ r, Text.after? ['('] ('(' :: r) = some r := fun r => rfl
  rw [call?_eq, hname, Option.bind_some, identifier?_append h, Option.bind_some, hopen,
    Option.bind_some, htrim, Text.before?_append]
  rfl

-- A name does not begin with a parenthesis, so that a call is no reference.
theorem reference?_call (h : Identifier f) (r : Text) : reference? ('$' :: (f ++ r)) = none := by
  obtain ⟨c, f, rfl⟩ := List.exists_cons_of_ne_nil h.ne_nil
  have hc : '(' ≠ c := by
    rintro rfl
    exact absurd (h.chars '(' (List.mem_cons_self ..)) (by decide)
  have hafter : Text.after? opener ('$' :: (c :: f ++ r)) = none := by
    change Text.after? ['('] (c :: (f ++ r)) = none
    rw [Text.after?, if_neg hc]
  rw [reference?, hafter]
  rfl

theorem isSet?_call (h : Identifier f) (hne : f ≠ "exists".toList) (r : Text) :
    isSet? ('$' :: (f ++ '(' :: r)) = none := by
  refine isSet?_eq_none (Option.eq_none_iff_forall_ne_some.2 fun x hx => hne ?_)
  have htext : f ++ '(' :: r = "exists".toList ++ '(' :: x :=
    (List.cons.inj (Text.after?_eq_some_iff.1 hx)).2
  have hspan := congrArg (Text.spanBy isNameChar) htext
  rw [h.spanBy_eq, Text.spanBy_append (List.all_eq_true.1 (by decide)) (by rintro c ⟨⟩; decide)]
    at hspan
  exact congrArg Prod.fst hspan

end Forms

section Reading

variable {q : Quotes} {c : Condition}

theorem toText_ne_nil (h : c.Writable q) : c.toText q ≠ [] := by
  cases c with
  | isSet name negated => simp [toText, existsMark_append]
  | equals name value => simp [toText, token]
  | fits name pattern => simp [toText, token]
  | call function arguments => simp [toText]
  | unrecognized => exact absurd h not_false

theorem edged_toText (q : Quotes) (c : Condition) :
    Edged (Text.isBlank · = false) (c.toText q) := by
  have hoperand : ∀ name sign v, Edged (Text.isBlank · = false)
      (token name ++ (sign ++ q.around v)) := fun name sign v =>
    (edged_token (by decide) (by decide) name).around (q.edged_around v)
      (by simp [token, opener]) (q.around_ne_nil v) sign
  cases c with
  | isSet name negated =>
    have hexists : Edged (Text.isBlank · = false) (existsMark ++ (token name ++ [')'])) := by
      rw [← List.append_assoc]
      exact .enclosed (by decide) (by decide) ("exists(".toList ++ token name)
    cases negated with
    | false => exact hexists
    | true =>
      exact (Edged.of_forall (List.forall_mem_singleton.2 (by decide))).append hexists
  | equals name value => exact hoperand name _ value
  | fits name pattern => exact hoperand name _ pattern
  | call function arguments =>
    have htext : (call function arguments).toText q =
        '$' :: ((function ++ '(' :: arguments) ++ [')']) := by simp [toText]
    rw [htext]
    exact .enclosed (by decide) (by decide) _
  | unrecognized => exact .of_forall fun _ hc => absurd hc List.not_mem_nil

-- A condition is read back from its text.
theorem ofText_toText (h : c.Writable q) : ofText (c.toText q) = c := by
  rw [ofText_eq (edged_toText q c)]
  cases c with
  | isSet name negated =>
    cases negated with
    | false =>
      have hnegated : negated? ((isSet name false).toText q) = none :=
        negated?_eq_none (by simp [toText, existsMark_append])
      rw [hnegated, toText, if_neg Bool.false_ne_true, List.nil_append, isSet?_existsMark h]
      rfl
    | true =>
      have hnegated : negated? ((isSet name true).toText q) = some name := isSet?_existsMark h
      rw [hnegated]
      rfl
  | equals name value =>
    rw [toText, negated?_token, isSet?_token, equals?_sign h.1 h.2]
    rfl
  | fits name pattern =>
    rw [toText, negated?_token, isSet?_token, equals?_matches h.1, fits?_matches h.1 h.2]
    rfl
  | call function arguments =>
    obtain ⟨hname, hne⟩ := h
    have hnegated : negated? ((call function arguments).toText q) = none :=
      negated?_eq_none (by simp [toText])
    rw [hnegated, toText, isSet?_call hname hne, equals?_eq, fits?_eq, reference?_call hname,
      call?_parenthesis hname]
    rfl
  | unrecognized => exact absurd h not_false

theorem conditionHolds_toText (ctx : Context) (h : c.Writable q) :
    conditionHolds ctx (c.toText q) = c.holds ctx := by
  rw [conditionHolds, ofText_toText h]

end Reading

-- A condition is read back from its text, with any blanks around it.
theorem ofText_between_blanks (q : Quotes) (c : Condition) (h : c.Writable q) {b g : Text}
    (hb : Text.isBlankText b = true) (hg : Text.isBlankText g = true) :
    ofText (b ++ (c.toText q ++ g)) = c := by
  have hedged := edged_toText q c
  have htrim : Text.trim (b ++ (c.toText q ++ g)) = Text.trim (c.toText q) := by
    rw [hedged.trim_append (toText_ne_nil h) hb hg, hedged.trim_eq]
  have htext : ofText (b ++ (c.toText q ++ g)) = ofText (c.toText q) := by
    rw [ofText, htrim]
    rfl
  rw [htext, ofText_toText h]

-- A key with a parenthesis in it, and operands that look like other conditions and end in quotes.
theorem ofText_between_blanks_hostile :
    let name := "d\x7b')|'\x7d".toList
    let c := fits name "' == '$exists($(x))''".toList
    let f := call "f".toList ") == $(x) ".toList
    let blank := "\n\u00a0".toList
    c.Writable .triple ∧ f.Writable .single ∧ Text.isBlankText blank = true ∧
      c.toText .triple = "$(d\x7b')|'\x7d) matches '''' == '$exists($(x))'''''".toList ∧
      ofText (blank ++ (c.toText .triple ++ blank)) = c ∧
      ofText (blank ++ (f.toText .single ++ blank)) = f := by
  intro name c f blank
  have hname : ReferenceName name :=
    .intro ['d'] (.literal [')', '|'])
      (.of_isNameChar (by decide) (by decide)) (by decide : '\'' ∉ [')', '|'])
  have hc : c.Writable .triple := ⟨hname, trivial⟩
  have hf : f.Writable .single :=
    ⟨⟨⟨by decide, List.all_eq_true.1 (by decide)⟩, by rintro c ⟨⟩; decide⟩, by decide⟩
  have hb : Text.isBlankText blank = true := by decide
  exact ⟨hc, hf, hb, by decide +kernel, ofText_between_blanks .triple c hc hb hb,
    ofText_between_blanks .single f hf hb hb⟩

end Condition
end EdgeIncludes
