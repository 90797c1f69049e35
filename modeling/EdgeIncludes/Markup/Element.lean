import EdgeIncludes.Text.Basic

namespace EdgeIncludes

-- An element without its children. Without content it is self-closing, or has no end tag.
structure Tag where
  name : Text
  attributes : List (Text × Text)
  -- The whole source, from the start tag to the end tag.
  markup : Text
  -- The source between the two tags.
  content : Option Text
deriving DecidableEq

namespace Tag

-- The first of two attributes with one name counts.
def attribute? (t : Tag) (name : Text) : Option Text :=
  (t.attributes.find? (·.1 = name)).map (·.2)

end Tag

inductive Element where
  | raw (t : Text)
  | tag (t : Tag) (children : List Element)

namespace Element

def source : Element → Text
  | raw t => t
  | tag t _ => t.markup

-- Puts raw text in front. Neighbouring raw texts are one, and an empty one is left out.
def consRaw (t : Text) (es : List Element) : List Element :=
  if t = [] then es
  else
    match es with
    | raw u :: es => raw (t ++ u) :: es
    | es => raw t :: es

end Element

def sourceOf (es : List Element) : Text := es.flatMap Element.source

theorem sourceOf_consRaw (t : Text) (es : List Element) :
    sourceOf (Element.consRaw t es) = t ++ sourceOf es := by
  unfold Element.consRaw
  split
  · simp_all
  · split <;> simp [sourceOf, Element.source]

end EdgeIncludes
