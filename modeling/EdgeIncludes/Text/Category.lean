import EdgeIncludes.CharSet.Basic
import EdgeIncludes.Text.Category.Table

namespace EdgeIncludes
namespace Text

inductive Edition where
  | sixteen | seventeen
deriving DecidableEq, Repr

inductive Category where
  | upper | lower | title | modifierLetter | otherLetter
  | nonspacing | spacing | enclosing
  | decimal | letterNumber | otherNumber
  | connector | dash | openMark | closeMark | initialQuote | finalQuote | otherMark
  | math | currency | modifierSymbol | otherSymbol
  | space | line | paragraph
  | control | format | surrogate | privateUse | unassigned
deriving DecidableEq, Repr

namespace Category

def all : List Category := [
  upper, lower, title, modifierLetter, otherLetter, nonspacing, spacing, enclosing, decimal,
  letterNumber, otherNumber, connector, dash, openMark, closeMark, initialQuote, finalQuote,
  otherMark, math, currency, modifierSymbol, otherSymbol, space, line, paragraph, control, format,
  surrogate, privateUse, unassigned]

-- A mark that is no letter stands for no category.
def ofMark? (c : Char) : Option Category :=
  if c.isLower then all[c.toNat - 97]? else if c.isUpper then all[c.toNat - 39]? else none

-- Reads the runs of one line. A number counts the run before it.
def readRuns : Option (Option Category × Nat) → Text → List (Nat × Option Category)
  | none, [] => []
  | some (k, n), [] => [(max n 1, k)]
  | none, c :: t => readRuns (some (ofMark? c, 0)) t
  | some (k, n), c :: t =>
    if c.isDigit then readRuns (some (k, 10 * n + (c.toNat - 48))) t
    else (max n 1, k) :: readRuns (some (ofMark? c, 0)) t

def runs : List (Nat × Option Category) := categoryRuns.flatMap fun s => readRuns none s.toList

def changes : List (Nat × Option Category) :=
  categoryChanges.flatMap fun s => readRuns none s.toList

-- What stands at a distance from the start of the runs.
def lookUp? : Nat → List (Nat × Option Category) → Option Category
  | _, [] => none
  | n, (len, k) :: rs => if n < len then k else lookUp? (n - len) rs

def of (e : Edition) (c : Char) : Category :=
  let changed? := if e = .seventeen then lookUp? c.toNat changes else none
  (changed?.or (lookUp? c.toNat runs)).getD unassigned

def rangesOf (ks : List Category) (start : Nat) :
    List (Nat × Option Category) → List (Nat × Nat)
  | [] => []
  | (n, k) :: rs =>
    if k.any ks.contains then (start, start + n - 1) :: rangesOf ks (start + n) rs
    else rangesOf ks (start + n) rs

-- All characters of some categories, in edition 16.
def setOf (ks : List Category) : CharSet := ⟨CharSet.squash (rangesOf ks 0 runs)⟩

def letters : List Category := [upper, lower, title, modifierLetter, otherLetter]

def marks : List Category := [nonspacing, spacing, enclosing]

def numbers : List Category := [decimal, letterNumber, otherNumber]

end Category
end Text
end EdgeIncludes
