import EdgeIncludes.Markup.Delimiter
import EdgeIncludes.Markup.Element

namespace EdgeIncludes
namespace Markup

-- Bodies without an end tag: how much text follows the start tag, and its name.
abbrev Unclosed := List (Nat × Text)

-- The content of this element is not read for elements.
def verbatimName : Text := "text".toList

-- Counts the characters in front of the first mark.
def gapFrom (openMark : Text) (closing : Option Text) (n : Nat) : Text → Nat
  | [] => n
  | c :: t =>
    if Text.startsWith openMark (c :: t) || closing.any (Text.startsWith · (c :: t)) then n
    else gapFrom openMark closing (n + 1) t

def gap (ns : Text) (closing : Option Text) (t : Text) : Nat := gapFrom (openMark ns) closing 0 t

-- The nodes of a content, and the text from its end tag on.
abbrev Content := Option (List Element × Text)

-- Puts raw text in front of a content.
def Content.consRaw (t : Text) (c : Content) : Content :=
  c.map fun p => (Element.consRaw t p.1, p.2)

def Content.cons (e : Element) (c : Content) : Content := c.map fun p => (e :: p.1, p.2)

mutual

-- Reads up to the end tag that begins with `closing`, or to the end of the text when none is asked
-- for. Gives nothing when the end tag is missing.
def readContent (ns : Text) (closing : Option Text) (seen : Unclosed) (t : Text) :
    Content × Unclosed :=
  let n := gap ns closing t
  let front := t.take n
  match _h : t.drop n with
  | [] => (if closing.isSome then none else some (Element.consRaw front [], []), seen)
  | c :: r =>
    if Text.startsWith (openMark ns) (c :: r) then
      match readElement ns seen (c :: r) with
      | (some (e, rest), seen) =>
        if rest.length < t.length then
          let (found, seen) := readContent ns closing seen rest
          ((found.cons e).consRaw front, seen)
        else (none, seen)
      | (none, seen) =>
        let (found, seen) := readContent ns closing seen r
        (found.consRaw (front ++ [c]), seen)
    else if (closing.bind (endTag? · (c :: r))).isSome then
      (some (Element.consRaw front [], c :: r), seen)
    else
      let (found, seen) := readContent ns closing seen r
      (found.consRaw (front ++ [c]), seen)
termination_by (t.length, 1)
decreasing_by
  all_goals
    have hl := congrArg List.length _h
    simp only [List.length_drop, List.length_cons] at hl
    first
    | exact Prod.Lex.left _ _ (by omega)
    | exact Prod.Lex.left _ _ (by assumption)
    | exact Prod.Lex.right' _ (by simp only [List.length_cons]; omega) (by decide)

-- Reads the element whose start tag stands at the start, and gives the text behind it.
def readElement (ns : Text) (seen : Unclosed) (t : Text) : Option (Element × Text) × Unclosed :=
  match _h : startTag? ns t with
  | none => (none, seen)
  | some (s, body) =>
    let alone : Element := .tag ⟨s.name, s.attributes, Text.taken t body, none⟩ []
    let key := (body.length, s.name)
    if s.selfClosing || seen.contains key then (some (alone, body), seen)
    else
      let mark := closeMark ns s.name
      let (found, seen) :=
        if s.name = verbatimName then ((findEnd mark body).map fun e => ([], e), seen)
        else readContent ns (some mark) seen body
      match found with
      | none => (some (alone, body), key :: seen)
      | some (children, e) =>
        match endTag? mark e with
        | none => (none, seen)
        | some rest =>
          let content := some (Text.taken body e)
          (some (.tag ⟨s.name, s.attributes, Text.taken t rest, content⟩ children, rest), seen)
termination_by (t.length, 0)
decreasing_by exact Prod.Lex.left _ _ (length_startTag?_lt _h)

end

-- The nodes of a document. Concatenating their sources gives the document back.
def read (ns t : Text) : List Element :=
  (((readContent ns none [] t).1).map (·.1)).getD [.raw t]

end Markup
end EdgeIncludes
