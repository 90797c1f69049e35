import EdgeIncludes.Text.Blank

namespace EdgeIncludes
namespace Markup

def openMark (ns : Text) : Text := '<' :: ns ++ [':']

def closeMark (ns name : Text) : Text := '<' :: '/' :: ns ++ ':' :: name

def isTagNameChar (c : Char) : Bool := c.isAlphanum || c = '_' || c = '-'

def isAttributeNameChar (c : Char) : Bool := isTagNameChar c || c = ':'

-- A name of one character at least.
def name? (p : Char → Bool) (t : Text) : Option (Text × Text) :=
  match Text.spanBy p t with
  | ([], _) => none
  | s => some s

-- A value in quotes of one kind. It may hold the other kind.
def quotedValue? : Text → Option (Text × Text)
  | [] => none
  | c :: t => if c = '"' || c = '\'' then Text.cut? [c] t else none

-- A gap, then a name and a value with `=` between them.
def attribute? (t : Text) : Option ((Text × Text) × Text) := do
  let r ← Text.skipGap? t
  let (name, r) ← name? isAttributeNameChar r
  let r ← Text.after? ['='] (Text.skipGap r)
  let (value, r) ← quotedValue? (Text.skipGap r)
  pure ((name, value), r)

def attributes (t : Text) : List (Text × Text) × Text :=
  match attribute? t with
  | none => ([], t)
  | some (a, r) =>
    if r.length < t.length then
      let (as, r) := attributes r
      (a :: as, r)
    else ([], t)
termination_by t.length

structure StartTag where
  name : Text
  attributes : List (Text × Text)
  selfClosing : Bool
deriving DecidableEq

-- The end of a start tag.
def tagEnd? (t : Text) : Option (Bool × Text) :=
  match Text.skipGap t with
  | '/' :: '>' :: r => some (true, r)
  | '>' :: r => some (false, r)
  | _ => none

def startTag? (ns t : Text) : Option (StartTag × Text) := do
  let r ← Text.after? (openMark ns) t
  let (name, r) ← name? isTagNameChar r
  let (as, r) := attributes r
  let (selfClosing, r) ← tagEnd? r
  pure (⟨name, as, selfClosing⟩, r)

-- What follows a whole end tag that begins with `mark`.
def endTag? (mark t : Text) : Option Text :=
  (Text.after? mark t).bind fun r => Text.after? ['>'] (Text.skipGap r)

-- The text from the first whole end tag on.
def findEnd (mark : Text) : Text → Option Text
  | [] => none
  | c :: t => if (endTag? mark (c :: t)).isSome then some (c :: t) else findEnd mark t

theorem length_name?_le {p : Char → Bool} {t n r : Text} (h : name? p t = some (n, r)) :
    r.length ≤ t.length := by
  unfold name? at h
  split at h
  · simp at h
  · obtain ⟨rfl, rfl⟩ := Prod.mk.injEq .. ▸ Option.some.inj h
    exact (List.dropWhile_sublist p).length_le

theorem length_attributes_le (t : Text) : (attributes t).2.length ≤ t.length := by
  fun_induction attributes t with
  | case1 => simp
  | case2 t a r h hl as r' he ih => simp only [he] at ih; simp only; omega
  | case3 => simp

theorem length_tagEnd?_le {t r : Text} {b : Bool} (h : tagEnd? t = some (b, r)) :
    r.length ≤ t.length := by
  have hs := Text.length_skipGap_le t
  unfold tagEnd? at h
  split at h
  all_goals
    first
    | (rename_i he
       obtain ⟨_, rfl⟩ := Prod.mk.injEq .. ▸ Option.some.inj h
       rw [he] at hs
       simp only [List.length_cons] at hs
       omega)
    | simp at h

-- A start tag takes a character at least.
theorem length_startTag?_lt {ns t r : Text} {s : StartTag} (h : startTag? ns t = some (s, r)) :
    r.length < t.length := by
  simp only [startTag?, Option.bind_eq_bind, Option.bind_eq_some_iff, Option.pure_def] at h
  obtain ⟨a, ha, ⟨n, b⟩, hb, ⟨c, d⟩, hd, he⟩ := h
  obtain ⟨_, rfl⟩ := Prod.mk.injEq .. ▸ Option.some.inj he
  have h1 := congrArg List.length (Text.after?_eq_some_iff.1 ha)
  have h2 := length_name?_le hb
  have h3 := length_attributes_le b
  have h4 := length_tagEnd?_le hd
  simp only at h2 h4 ⊢
  simp only [openMark, List.length_append, List.length_cons] at h1
  omega

end Markup
end EdgeIncludes
