import EdgeIncludes.CharSet.Property.Table
import EdgeIncludes.Text.Category

namespace EdgeIncludes
namespace CharSet

open Text.Category

-- The characters of edition 16. What a table of edition 17 holds is cut down to them.
def known : CharSet := (setOf [unassigned]).compl

def blank : CharSet := ⟨[(9, 13), (0x20, 0x20), (0x85, 0x85), (0xA0, 0xA0), (0x1680, 0x1680),
  (0x2000, 0x200A), (0x2028, 0x2029), (0x202F, 0x202F), (0x205F, 0x205F), (0x3000, 0x3000)]⟩

-- Signs that may stand inside a word.
def midWord : CharSet := unionAll [single '\'', midLetter, midNumberLetter]

def alphabetic : CharSet := (setOf (letterNumber :: letters)).union (otherAlphabetic.inter known)

def lowercase : CharSet := (setOf [lower]).union (otherLower.inter known)

def uppercase : CharSet := (setOf [upper]).union (otherUpper.inter known)

def cased : CharSet := unionAll [uppercase, lowercase, setOf [title]]

def caseIgnorable : CharSet :=
  (setOf [nonspacing, enclosing, format, modifierLetter, modifierSymbol]).union midWord

def changesWhenTitlecased : CharSet :=
  (changesWhenUppercased.diff upperNotTitle).union titleNotUpper

def changesWhenFolded : CharSet := (changesWhenLowercased.diff lowerNotFolded).union foldedNotLower

def changesWhenCasemapped : CharSet :=
  unionAll [changesWhenLowercased, changesWhenUppercased, changesWhenTitlecased]

def mathSigns : CharSet := (setOf [math]).union otherMath

def graphemeExtend : CharSet := (setOf [nonspacing, enclosing]).union otherGraphemeExtend

def graphemeBase : CharSet :=
  (setOf [control, format, surrogate, privateUse, unassigned, line, paragraph]).compl.diff
    graphemeExtend

def defaultIgnorable : CharSet :=
  (unionAll [setOf [format], variationSelector, otherDefaultIgnorable]).diff
    (prependedMark.union (ofRanges [(0xFFF9, 0xFFFB), (0x13430, 0x1343F)]))

def idStart : CharSet :=
  ((setOf (letterNumber :: letters)).union otherIdStart).diff (patternSyntax.union patternSpace)

def idContinue : CharSet :=
  unionAll [idStart, setOf [nonspacing, spacing, decimal, connector], otherIdContinue]

def xidStart : CharSet := idStart.diff notXidStart

def xidContinue : CharSet := idContinue.diff notXidContinue

def idCompatMathContinue : CharSet := idCompatMathStart.union otherIdCompatMath

-- Letters, marks, decimal digits, connectors and the two joiners.
def word : CharSet := unionAll [alphabetic, setOf (decimal :: connector :: marks), joinControl]

def decimalDigit : CharSet := setOf [decimal]

-- The properties that a character has or has not, by their names without capitals and signs.
def properties : List (List String × CharSet) := [
  (["alphabetic", "alpha"], alphabetic),
  (["asciihexdigit", "ahex"], asciiHexDigit),
  (["bidicontrol", "bidic"], bidiControl),
  (["bidimirrored", "bidim"], bidiMirrored),
  (["caseignorable", "ci"], caseIgnorable),
  (["cased"], cased),
  (["changeswhencasefolded", "cwcf"], changesWhenFolded),
  (["changeswhencasemapped", "cwcm"], changesWhenCasemapped),
  (["changeswhenlowercased", "cwl"], changesWhenLowercased),
  (["changeswhentitlecased", "cwt"], changesWhenTitlecased),
  (["changeswhenuppercased", "cwu"], changesWhenUppercased),
  (["dash"], dashes),
  (["defaultignorablecodepoint", "di"], defaultIgnorable),
  (["deprecated", "dep"], deprecatedSigns),
  (["diacritic", "dia"], diacritics),
  (["emoji"], emoji),
  (["emojicomponent", "ecomp"], emojiComponent),
  (["emojimodifier", "emod"], emojiModifier),
  (["emojimodifierbase", "ebase"], emojiModifierBase),
  (["emojipresentation", "epres"], emojiPresentation),
  (["extendedpictographic", "extpict"], extendedPictographic),
  (["extender", "ext"], extenders),
  (["graphemebase", "grbase"], graphemeBase),
  (["graphemeextend", "grext"], graphemeExtend),
  (["graphemelink", "grlink"], graphemeLink),
  (["hexdigit", "hex"], hexDigit),
  (["hyphen"], hyphens),
  (["idcompatmathcontinue"], idCompatMathContinue),
  (["idcompatmathstart"], idCompatMathStart),
  (["idcontinue", "idc"], idContinue),
  (["idstart", "ids"], idStart),
  (["ideographic", "ideo"], ideographic),
  (["idsbinaryoperator", "idsb"], idsBinaryOperator),
  (["idstrinaryoperator", "idst"], idsTrinaryOperator),
  (["idsunaryoperator", "idsu"], idsUnaryOperator),
  (["joincontrol", "joinc"], joinControl),
  (["logicalorderexception", "loe"], logicalOrderException),
  (["lowercase", "lower"], lowercase),
  (["math"], mathSigns),
  (["modifiercombiningmark", "mcm"], modifierMark),
  (["noncharactercodepoint", "nchar"], noncharacters),
  (["otheralphabetic", "oalpha"], otherAlphabetic.inter known),
  (["otherdefaultignorablecodepoint", "odi"], otherDefaultIgnorable),
  (["othergraphemeextend", "ogrext"], otherGraphemeExtend),
  (["otheridcontinue", "oidc"], otherIdContinue),
  (["otheridstart", "oids"], otherIdStart),
  (["otherlowercase", "olower"], otherLower.inter known),
  (["othermath", "omath"], otherMath),
  (["otheruppercase", "oupper"], otherUpper),
  (["patternsyntax", "patsyn"], patternSyntax),
  (["patternwhitespace", "patws"], patternSpace),
  (["prependedconcatenationmark", "pcm"], prependedMark),
  (["quotationmark", "qmark"], quotationMark),
  (["radical"], radicals),
  (["regionalindicator", "ri"], regionalIndicator),
  (["sentenceterminal", "sterm"], sentenceTerminal),
  (["softdotted", "sd"], softDotted),
  (["terminalpunctuation", "term"], terminalPunctuation),
  (["unifiedideograph", "uideo"], unifiedIdeograph),
  (["uppercase", "upper"], uppercase),
  (["variationselector", "vs"], variationSelector),
  (["whitespace", "wspace", "space"], blank),
  (["xidcontinue", "xidc"], xidContinue),
  (["xidstart", "xids"], xidStart)]

end CharSet
end EdgeIncludes
