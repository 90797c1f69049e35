import EdgeIncludes.CharSet.Age
import EdgeIncludes.CharSet.Boundary

namespace EdgeIncludes
namespace CharSet

open Text.Category

-- The names of categories and of groups of them, written without capitals and signs.
def categoryNames : List (List String × List Text.Category) := [
  (["letter", "l"], letters), (["casedletter", "lc"], [upper, lower, title]),
  (["uppercaseletter", "lu"], [upper]), (["lowercaseletter", "ll"], [lower]),
  (["titlecaseletter", "lt"], [title]), (["modifierletter", "lm"], [modifierLetter]),
  (["otherletter", "lo"], [otherLetter]),
  (["mark", "combiningmark", "m"], marks), (["nonspacingmark", "mn"], [nonspacing]),
  (["spacingmark", "mc"], [spacing]), (["enclosingmark", "me"], [enclosing]),
  (["number", "n"], numbers), (["decimalnumber", "digit", "nd"], [decimal]),
  (["letternumber", "nl"], [letterNumber]), (["othernumber", "no"], [otherNumber]),
  (["punctuation", "punct", "p"],
    [connector, dash, openMark, closeMark, initialQuote, finalQuote, otherMark]),
  (["connectorpunctuation", "pc"], [connector]), (["dashpunctuation", "pd"], [dash]),
  (["openpunctuation", "ps"], [openMark]), (["closepunctuation", "pe"], [closeMark]),
  (["initialpunctuation", "pi"], [initialQuote]), (["finalpunctuation", "pf"], [finalQuote]),
  (["otherpunctuation", "po"], [otherMark]),
  (["symbol", "s"], [math, currency, modifierSymbol, otherSymbol]), (["mathsymbol", "sm"], [math]),
  (["currencysymbol", "sc"], [currency]), (["modifiersymbol", "sk"], [modifierSymbol]),
  (["othersymbol", "so"], [otherSymbol]),
  (["separator", "z"], [space, line, paragraph]), (["spaceseparator", "zs"], [space]),
  (["lineseparator", "zl"], [line]), (["paragraphseparator", "zp"], [paragraph]),
  (["other", "c"], [control, format, surrogate, privateUse, unassigned]),
  (["control", "cntrl", "cc"], [control]), (["format", "cf"], [format]),
  (["privateuse", "co"], [privateUse]), (["unassigned", "cn"], [unassigned])]

-- A name without capitals, blanks, underscores and hyphens, and without an `is` in front. With it
-- the one letter `c` is a name of its own, that of a comment, which no set has.
def plainName (t : Text) : Text :=
  let strip := fun t : Text => (t.filter fun c =>
    c.toNat < 0x80 && c ≠ ' ' && c ≠ '_' && c ≠ '-').map Char.toLower
  match t with
  | a :: b :: r =>
    if a.toLower = 'i' && b.toLower = 's' then
      if strip r = ['c'] then "isc".toList else strip r
    else strip t
  | _ => strip t

def rowNamed? {α : Type} (rows : List (List String × α)) (name : Text) : Option α :=
  (rows.find? fun row => row.1.any (·.toList = name)).map (·.2)

def categoryNamed? (name : Text) : Option CharSet :=
  if name = "any".toList then some all
  else if name = "assigned".toList then some known
  else if name = "ascii".toList then some (range 0 127)
  else (rowNamed? categoryNames name).map setOf

-- A property comes first, then a category, then a script.
def named? (t : Text) : Option CharSet :=
  let name := plainName t
  ((rowNamed? properties name).or (categoryNamed? name)).or (scriptNamed? name)

def isKind (name : Text) (names : List String) : Bool := names.any (·.toList = name)

-- The characters for which a property has a value.
def withValue? (property value : Text) : Option CharSet :=
  let kind := isKind (plainName property)
  let name := plainName value
  if kind ["generalcategory", "gc"] then categoryNamed? name
  else if kind ["script", "sc"] then scriptNamed? name
  else if kind ["scriptextensions", "scx"] then scriptUsersNamed? name
  else if kind ["age"] then ageNamed? name
  else if kind ["graphemeclusterbreak", "gcb"] then rowNamed? clusterClasses name
  else if kind ["wordbreak", "wb"] then rowNamed? wordClasses name
  else if kind ["sentencebreak", "sb"] then rowNamed? sentenceClasses name
  else none

end CharSet
end EdgeIncludes
