import EdgeIncludes.Markup.Element

namespace EdgeIncludes

inductive Segment where
  | raw (t : Text)
  | placeholder (t : Tag)
deriving DecidableEq

namespace Segment

-- Puts final text in front. Neighbouring texts are one, and an empty one is left out.
def consRaw (t : Text) (ss : List Segment) : List Segment :=
  if t = [] then ss
  else
    match ss with
    | raw u :: ss => raw (t ++ u) :: ss
    | ss => raw t :: ss

def merge : List Segment → List Segment
  | [] => []
  | raw t :: ss => consRaw t (merge ss)
  | placeholder t :: ss => placeholder t :: merge ss

-- The segments as text, with the source of every placeholder.
def markup : Segment → Text
  | raw t => t
  | placeholder t => t.markup

theorem flatMap_markup_consRaw (t : Text) (ss : List Segment) :
    (consRaw t ss).flatMap markup = t ++ ss.flatMap markup := by
  unfold consRaw
  split
  · simp_all
  · split <;> simp [markup]

end Segment
end EdgeIncludes
