import EdgeIncludes.Text.Basic

namespace EdgeIncludes
namespace Text

-- The characters with the property White_Space.
def isBlank (c : Char) : Bool :=
  let n := c.toNat
  (9 ≤ n && n ≤ 13) || n = 0x20 || n = 0x85 || n = 0xA0 || n = 0x1680 ||
    (0x2000 ≤ n && n ≤ 0x200A) || n = 0x2028 || n = 0x2029 || n = 0x202F || n = 0x205F ||
    n = 0x3000

-- Space, tab and the two line ends.
def isGap (c : Char) : Bool := c = ' ' || c = '\t' || c = '\r' || c = '\n'

def trim (t : Text) : Text := trimBy isBlank t

def trimEnd (t : Text) : Text := trimEndBy isBlank t

def isBlankText (t : Text) : Bool := t.all isBlank

def skipGap (t : Text) : Text := t.dropWhile isGap

-- Requires one gap character at least.
def skipGap? : Text → Option Text
  | [] => none
  | c :: t => if isGap c then some (skipGap t) else none

theorem isBlank_of_isGap {c : Char} (h : isGap c = true) : isBlank c = true := by
  simp only [isGap, Bool.or_eq_true, decide_eq_true_eq] at h
  rcases h with ((rfl | rfl) | rfl) | rfl <;> decide

theorem length_skipGap_le (t : Text) : (skipGap t).length ≤ t.length :=
  (List.dropWhile_sublist _).length_le

end Text
end EdgeIncludes
