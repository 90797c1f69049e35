import EdgeIncludes.Text.Case
import EdgeIncludes.Text.Composition

namespace EdgeIncludes
namespace Domain

-- Characters that count for nothing in a name.
def ignored : CharSet := ⟨[
  (0xAD, 0xAD), (0x34F, 0x34F), (0x115F, 0x1160), (0x17B4, 0x17B5), (0x180B, 0x180F),
  (0x200B, 0x200B), (0x2060, 0x2064), (0x206A, 0x206F), (0x3164, 0x3164), (0xFE00, 0xFE0F),
  (0xFEFF, 0xFEFF), (0xFFA0, 0xFFA0), (0x1BCA0, 0x1BCA3), (0x1D173, 0x1D17A),
  (0xE0100, 0xE01EF)]⟩

-- Characters that no name may hold: controls, signs for directions and layout, and signs that
-- consist of others with a full stop or a slash between them.
def refused : CharSet := ⟨[
  (0x80, 0x9F), (0x600, 0x605), (0x61C, 0x61C), (0x6DD, 0x6DD), (0x70F, 0x70F), (0x890, 0x891),
  (0x8E2, 0x8E2), (0x1680, 0x1680), (0x200E, 0x200F), (0x2024, 0x2026), (0x2028, 0x202E),
  (0x2066, 0x2069), (0x2488, 0x249B), (0x2FF0, 0x2FFF), (0x31EF, 0x31EF), (0x33C2, 0x33C2),
  (0x33C7, 0x33C7), (0x33D8, 0x33D8), (0xFE12, 0xFE12), (0xFE19, 0xFE19), (0xFE30, 0xFE30),
  (0xFE52, 0xFE52), (0xFFF9, 0xFFFD), (0x110BD, 0x110BD), (0x110CD, 0x110CD),
  (0x13430, 0x1343F), (0x1F100, 0x1F100), (0xE0001, 0xE0001), (0xE0020, 0xE007F)]⟩

def isRefused (c : Char) : Bool :=
  match Text.Category.of .seventeen c with
  | .unassigned | .privateUse | .surrogate => true
  | _ => refused.mem c

-- The ideographic full stop is a full stop.
def mapPart (c : Char) : Char := if c.toNat = 0x3002 then '.' else Text.fold .seventeen c

-- The final form of sigma is a letter of its own.
def mapChar? (c : Char) : Option Text :=
  if isRefused c then none
  else if c = 'ς' then some [c]
  else some (((Text.compatible c).map mapPart).filter fun d => !ignored.mem d)

def mapText? (t : Text) : Option Text :=
  (t.mapM mapChar?).map fun ts => Text.composed ts.flatten

end Domain
end EdgeIncludes
