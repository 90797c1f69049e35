import EdgeIncludes.CharSet.Table
import EdgeIncludes.Text.Category

namespace EdgeIncludes
namespace Text

inductive Direction where
  | left | right | arabicNumber | europeanNumber | neutral | nonspacing
deriving DecidableEq, Repr

namespace Direction

def rightToLeft : CharSet := CharSet.ofTable [
  "1470 1 2 2 9+26 4+5 19 2 1 13 1+45 34+2 1+3 4+92 15+1 7+1 10+19 2 1+29 29+88 11 14+42 9+1 4",
  "3+23 4 9 3 7+14 1+24 5 1+10 5+31 16+41 62184+16 688 2444+5 2 1+43 1+1 3 2+22 1+71 8+8 48+18",
  "1+1 5+32 4+25 5+26 38+55 4+19 2+46 15+3 1+2 1+28 10+8 7+8 7+63 32+36 6+11 9+53 10+21 2+26",
  "5+25 7+3 12+6 80+72 119+50 7+41 28+15 31+22 250+41 3 2+1 16+5 8 47+39 8+21 11+8 22+17 4+3",
  "38+27 20+22 55305+196 2+8 82+33 7 4+9 4+1 785+67 76+60"]

def arabicNumbers : CharSet :=
  ⟨[(0x660, 0x669), (0x66B, 0x66C), (0x10D30, 0x10D39), (0x10E60, 0x10E7E)]⟩

def europeanNumbers : CharSet := ⟨[(0x30, 0x39), (0x6F0, 0x6F9), (0x102E1, 0x102FB)]⟩

-- Signs, separators of numbers, and characters without a shape.
def neutrals : CharSet := CharSet.ofTable [
  "0+8 5+13 5+14 10+6 26+5 26+4 33+6 1 1+1 1 1+1 4+1 3 3 23 31 449+1 7+13 2+5 6+1 5+8 1+16 117",
  "128 403 2+2 118+1 1+1 1 1+1 90 115 10 268+3 504+1 7 245 257+7 125+6 448 250+3 1106+9 102",
  "666+1 318 20+9 6+10 309 3+1 152+33 1548+1 2 1+4 1+11 3 8+2 2 2+3 1 1+7 3+12 1+6 65+7 1+24 66",
  "3 11 2+1 5+1 3 1 1 1 4 11 6+3 5+3 60+1 4+155 2 2+247 2+10 69+25 1+147 22+10 160+448 1+338",
  "256+267 1+102 3+100 1+150 2+137 229+5 14+6 256+93 34+25 1+3 1+82 270 1+1 3+24 15 6 5+2 96 90",
  "196+37 7130+63 22160+54 326+2 99 10+1 128+33 102 159+3 12+1 58+3 754+1 20567+15 363+17 64+1",
  "54+7 45+2 69+1 698 62+76 3+12 3 1918 537+6 558 31+1 321+7 377+19 1530+12 2408+28 20464",
  "23581+213 36+2 3+435 6+22 15+16 760+1 21+65 3 186+86 4008 3056+1 270+43 4+99 12+14 2+14 1+14",
  "1+36 21+4 31 61+2 61 178+5 154+984 3+16 3+12 3+217 6+11 4 15+11 4+55 8+9 6+39 8+29 2+11 4+1",
  "14+8 39+343 8+13 2+12 3+10 3+56 1 4+15 2+11 4+9 7+146 1+91 10"]

-- Marks that stand beside their character and not on it.
def leftMarks : CharSet :=
  ⟨[(0xCBF, 0xCBF), (0xCC6, 0xCC6), (0x11A07, 0x11A08), (0x11C3F, 0x11C3F)]⟩

def isNonspacing (c : Char) : Bool :=
  match Category.of .seventeen c with
  | .nonspacing | .enclosing => !leftMarks.mem c
  | _ => false

def of (c : Char) : Direction :=
  if isNonspacing c then nonspacing
  else if rightToLeft.mem c then right
  else if arabicNumbers.mem c then arabicNumber
  else if europeanNumbers.mem c then europeanNumber
  else if neutrals.mem c then neutral
  else left

end Direction
end Text
end EdgeIncludes
