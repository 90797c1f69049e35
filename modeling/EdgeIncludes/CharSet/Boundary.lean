import EdgeIncludes.CharSet.Property
import EdgeIncludes.CharSet.Script

namespace EdgeIncludes
namespace CharSet

open Text.Category

-- Syllables of a first and a middle part, which every 28th of the block is.
def openSyllable : CharSet := ofCodes ((List.range 399).map fun i => 0xAC00 + 28 * i)

def closedSyllable : CharSet := (range 0xAC00 0xD7A3).diff openSyllable

def clusterExtend : CharSet := graphemeExtend.union emojiModifier

def clusterControl : CharSet :=
  let unseen := (setOf [unassigned]).inter defaultIgnorable
  ((setOf [line, paragraph, control, format]).union unseen).diff
    (unionAll [ofCodes [10, 13, 0x200C, 0x200D], prependedMark, graphemeExtend])

-- Spacing marks of some scripts stand on their own.
def looseMark : CharSet := ⟨[(0x102B, 0x102C), (0x1038, 0x1038), (0x1062, 0x1064),
  (0x1067, 0x106D), (0x1083, 0x1083), (0x1087, 0x108C), (0x108F, 0x108F), (0x109A, 0x109C),
  (0x1A61, 0x1A61), (0x1A63, 0x1A64), (0xAA7B, 0xAA7B), (0xAA7D, 0xAA7D), (0x11720, 0x11721)]⟩

def clusterSpacing : CharSet :=
  ((setOf [spacing]).union (ofCodes [0xE33, 0xEB3])).diff (clusterExtend.union looseMark)

def clusterPrepend : CharSet := prependedMark.union (ofRanges [(0xD4E, 0xD4E), (0x111C2, 0x111C3),
  (0x113D1, 0x113D1), (0x1193F, 0x1193F), (0x11941, 0x11941), (0x11A3A, 0x11A3A),
  (0x11A84, 0x11A89), (0x11D46, 0x11D46), (0x11F02, 0x11F02)])

-- A class has a name and perhaps a short one, both without capitals and signs.
def clusterClasses : List (List String × CharSet) := [
  (["cr"], single '\r'), (["lf"], single '\n'),
  (["control", "cn"], clusterControl), (["extend", "ex"], clusterExtend),
  (["prepend", "pp"], clusterPrepend), (["spacingmark", "sm"], clusterSpacing),
  (["regionalindicator", "ri"], regionalIndicator), (["zwj"], single '\u200D'),
  (["l"], ⟨[(0x1100, 0x115F), (0xA960, 0xA97C)]⟩),
  (["v"], ⟨[(0x1160, 0x11A7), (0xD7B0, 0xD7C6), (0x16D63, 0x16D63), (0x16D67, 0x16D6A)]⟩),
  (["t"], ⟨[(0x11A8, 0x11FF), (0xD7CB, 0xD7FB)]⟩),
  (["lv"], openSyllable), (["lvt"], closedSyllable)]

-- Marks, without the one that joins.
def attached : CharSet := graphemeExtend.union (setOf [spacing])

def wordExtend : CharSet := attached.union emojiModifier

def wordFormat : CharSet :=
  (setOf [format]).diff (wordExtend.union (ofCodes [0x200B, 0x200C, 0x200D]))

def wordKatakana : CharSet := (scriptOf "kana").union
  (ofRanges [(0x3031, 0x3035), (0x309B, 0x309C), (0x30A0, 0x30A0), (0x30FC, 0x30FC),
    (0xFF70, 0xFF70)])

def wordHebrew : CharSet := (scriptOf "hebr").inter (setOf [otherLetter])

-- Scripts that are written without blanks between words.
def unspaced : CharSet := unionAll
  (["ahom", "khmr", "laoo", "mymr", "talu", "tale", "lana", "tavt", "thai", "hira"].map scriptOf)

def wordLetter : CharSet :=
  (alphabetic.diff (unionAll [ideographic, wordKatakana, wordHebrew, unspaced, wordExtend])).union
    (ofRanges [(0x2C2, 0x2C5), (0x2D2, 0x2D7), (0x2DE, 0x2DF), (0x2E5, 0x2EB), (0x2ED, 0x2ED),
      (0x2EF, 0x2FF), (0x55A, 0x55C), (0x55E, 0x55E), (0x58A, 0x58A), (0x5F3, 0x5F3),
      (0xA708, 0xA716), (0xA720, 0xA721), (0xA789, 0xA78A), (0xAB5B, 0xAB5B)])

def digitsAndSeparator : CharSet := decimalDigit.union (single '\u066B')

def midNumber : CharSet := ⟨[(0x2C, 0x2C), (0x3B, 0x3B), (0x37E, 0x37E), (0x589, 0x589),
  (0x60C, 0x60D), (0x66C, 0x66C), (0x7F8, 0x7F8), (0x2044, 0x2044), (0xFE10, 0xFE10),
  (0xFE14, 0xFE14), (0xFE50, 0xFE50), (0xFE54, 0xFE54), (0xFF0C, 0xFF0C), (0xFF1B, 0xFF1B)]⟩

def wordClasses : List (List String × CharSet) := [
  (["aletter", "le"], wordLetter), (["hebrewletter", "hl"], wordHebrew),
  (["katakana", "ka"], wordKatakana), (["numeric", "nu"], digitsAndSeparator),
  (["extendnumlet", "ex"], ⟨[(0x5F, 0x5F), (0x202F, 0x202F), (0x203F, 0x2040), (0x2054, 0x2054),
    (0xFE33, 0xFE34), (0xFE4D, 0xFE4F), (0xFF3F, 0xFF3F)]⟩),
  (["midletter", "ml"], midLetter), (["midnum", "mn"], midNumber),
  (["midnumlet", "mb"], midNumberLetter),
  (["extend"], wordExtend), (["zwj"], single '\u200D'),
  (["format", "fo"], wordFormat), (["regionalindicator", "ri"], regionalIndicator),
  (["singlequote", "sq"], single '\''), (["doublequote", "dq"], single '"'),
  (["cr"], single '\r'), (["lf"], single '\n'),
  (["newline", "nl"], ⟨[(0xB, 0xC), (0x85, 0x85), (0x2028, 0x2029)]⟩),
  (["wsegspace"], ⟨[(0x20, 0x20), (0x1680, 0x1680), (0x2000, 0x2006), (0x2008, 0x200A),
    (0x205F, 0x205F), (0x3000, 0x3000)]⟩)]

def sentenceExtend : CharSet := attached.union (single '\u200D')

-- The letters of one script have two forms that are not a matter of case.
def sentenceLower : CharSet :=
  lowercase.diff (graphemeExtend.union (ofRanges [(0x10D0, 0x10FA), (0x10FD, 0x10FF)]))

def sentenceUpper : CharSet := (uppercase.diff (range 0x1C90 0x1CBF)).union (setOf [title])

def sentenceLetter : CharSet :=
  (alphabetic.union (single '\u05F3')).diff
    (unionAll [sentenceLower, sentenceUpper, sentenceExtend])

def fullStops : CharSet := ofCodes [0x2E, 0x2024, 0xFE52, 0xFF0E]

def lineSeparators : CharSet := ofCodes [0x85, 0x2028, 0x2029]

def quotes : CharSet := ⟨[(0x22, 0x22), (0x27, 0x27), (0x275B, 0x2760), (0x2E00, 0x2E01),
  (0x2E06, 0x2E08), (0x2E0B, 0x2E0B), (0x1F676, 0x1F678)]⟩

def sentenceClasses : List (List String × CharSet) := [
  (["aterm", "at"], fullStops), (["sterm", "st"], sentenceTerminal.diff fullStops),
  (["lower", "lo"], sentenceLower), (["upper", "up"], sentenceUpper),
  (["oletter", "le"], sentenceLetter), (["numeric", "nu"], digitsAndSeparator),
  (["close", "cl"], (setOf [openMark, closeMark, initialQuote, finalQuote]).union quotes),
  (["scontinue", "sc"], ⟨[(0x2C, 0x2D), (0x3A, 0x3B), (0x37E, 0x37E), (0x55D, 0x55D),
    (0x60C, 0x60D), (0x7F8, 0x7F8), (0x1802, 0x1802), (0x1808, 0x1808), (0x2013, 0x2014),
    (0x3001, 0x3001), (0xFE10, 0xFE11), (0xFE13, 0xFE14), (0xFE31, 0xFE32), (0xFE50, 0xFE51),
    (0xFE54, 0xFE55), (0xFE58, 0xFE58), (0xFE63, 0xFE63), (0xFF0C, 0xFF0D), (0xFF1A, 0xFF1B),
    (0xFF64, 0xFF64)]⟩),
  (["extend", "ex"], sentenceExtend), (["format", "fo"], (setOf [format]).diff sentenceExtend),
  (["sep", "se"], lineSeparators), (["cr"], single '\r'), (["lf"], single '\n'),
  (["sp"], blank.diff (lineSeparators.union (ofCodes [10, 13])))]

end CharSet
end EdgeIncludes
