import EdgeIncludes.CharSet.Table

namespace EdgeIncludes
namespace CharSet

-- Signs that count as letters besides those of a category of letters, as of edition 17.
def otherAlphabetic : CharSet := ofTable [
  "837 29+12 576+13 1 1+1 1+1 1 72+10 48+12 1+6 16 101+6 4+3 2+1 4 35 30+15 102+10 101+1 3+8 1+2",
  "1+3 106 60+11 3+6 6+19 54+1 2+14 1+1 5+2 10+1 29+2 58+6 2+1 2+1 10 10+1 29+2 58+4 4+1 2+1 4",
  "30+1 3 11+2 58+7 1+2 1+1 21+1 22+2 4+2 58+6 2+1 2+1 9+1 10+1 30 59+4 3+2 1+2 10 40+4 57+6 1+2",
  "1+2 8+1 11+1 29+2 58+6 1+2 1+2 8+1 11+1 15 12+3 58+6 1+2 1+2 10 10+1 29+2 75+5 1 1+7 18+1 61",
  "2+6 18 99 2+5 1+1 16 163+18 9+10 1+35 110+11 1 2+3 23+3 4+2 1+2 2+6 3+3 13+11 1 10+3 1652+1",
  "30+1 30+1 30+1 66+18 188+1 34 118+11 4+8 222+4 57+9 2+19 74+1 11+2 49+4 48+14 60+2 30+8 2+1",
  "57+10 50+18 412+33 1729+51 2294+31 30836+7 34+1 354 8 23+4 88+1 50+15 1 57 38+4 28+11 45+3",
  "48+11 37 67+13 12 8+1 45+2 50 1+2 2+1 5 44+4 5 237+7 20275 2135+4 1670+2 1+1 5+3 788+3 65",
  "321+1 77+2 259+2 53+13 45+1 11+2 45+8 9 61+2 36+11 18+1 57+2 48+12 14+1 92+8 2 6 2 157+9 23+3",
  "58+6 2+1 2+1 10 10+1 84+8 1 2 1+3 1+1 103+12 1+2 106+17 237+6 2+6 29+1 82+14 1 106+10 103+13",
  "257+12 247+5 1+1 2+1 3 1 142+6 2+5 4 28+9 42+4 1+3 18+10 46+13 200+7 199+7 1+6 83+21 1+13",
  "122+5 3 1+1 1+2 1 3 66+4 1+1 1+3 348+3 9+1 1 48+6 3+2 16861+16 3616 1+54 7+3 93+1 19628",
  "9057+6 1+16 2+6 1+1 1+4 100 1619 2 7+1 5 593 2024+25 6+25 6+25"]

-- Lower case signs that are not in the category of lower case letters, as of edition 17.
def otherLower : CharSet := ofTable [
  "170 15 501+8 7+1 30+4 96 52 3457 3119+62 13 34+36 689 13 16+12 211+15 848+25 1938+1 31262+1",
  "210 128+3 3+1 866+3 9 23574 2+2 1+41 1+8 55413+61"]

def otherUpper : CharSet := ⟨[(0x2160, 0x216F), (0x24B6, 0x24CF), (0x1F130, 0x1F149),
  (0x1F150, 0x1F169), (0x1F170, 0x1F189)]⟩

def otherMath : CharSet := ofTable [
  "94 881+2 2 26+1 2+1 7200 27+2 11 32+3 24+1 14+1 65+12 4 3+1 4+4 18 4 2+9 1 3+4 6 3+1 2+1 1+2",
  "1+5 3+3 5+4 75+4 2+3 1+1 1+1 1 1+4 2+1 4+1 4+17 2+1 1 1+6 1 6+1 290+3 168+1 1 24 17 445+1",
  "12+8 5+4 5+1 2+1 3+4 14 1 2+5 24+1 57 1 29+3 9+1 342+1 31+9 403+21 63+3 32+1 54371 1 4 211 1",
  "54465+84 1+70 1+1 2 2+1 2+3 1+11 1 1+6 1+64 1+3 2+7 1+6 1+27 1+3 1+4 1 3+6 1+339 2+24 1+24",
  "1+30 1+24 1+30 1+24 1+30 1+24 1+30 1+24 1+7 2+49 5632+3 1+26 1+1 1 2 1+9 1+3 1 1 6 4 1 1 1+2",
  "1+1 1 2 1 1 1 1 1+1 1 2+3 1+6 1+3 1+3 1 1+9 1+16 5+2 1+4 1+16"]

def otherGraphemeExtend : CharSet := ofTable [
  "2494 24 358 24 102 24 232 1 4+1 1+1 9+1 103 24 119 15 2357 30 1024 5 1 5+1 101 71+1 1048",
  "4129+1 31011 108 21981+1 4640 116 264 14 9 96 9 2 1+2 5 224 12 241 262 633 12 1539 20654+1",
  "24947+1 6+5 798381+95"]

def otherIdStart : CharSet := ⟨[(0x1885, 0x1886), (0x2118, 0x2118), (0x212E, 0x212E),
  (0x309B, 0x309C)]⟩

def otherIdContinue : CharSet := ⟨[(0xB7, 0xB7), (0x387, 0x387), (0x1369, 0x1371),
  (0x19DA, 0x19DA), (0x200C, 0x200D), (0x30FB, 0x30FB), (0xFF65, 0xFF65)]⟩

def otherDefaultIgnorable : CharSet := ⟨[(0x34F, 0x34F), (0x115F, 0x1160), (0x17B4, 0x17B5),
  (0x2065, 0x2065), (0x3164, 0x3164), (0xFFA0, 0xFFA0), (0xFFF0, 0xFFF8), (0xE0000, 0xE0000),
  (0xE0002, 0xE001F), (0xE0080, 0xE00FF), (0xE01F0, 0xE0FFF)]⟩

-- What a start of an identifier loses under normal forms.
def notXidStart : CharSet := ofTable [
  "890 2744 127 8679+1 52161+5 406+1 116 1 1 1 1 1 1 1 287+1"]

def notXidContinue : CharSet := ⟨[(0x37A, 0x37A), (0x309B, 0x309C), (0xFC5E, 0xFC63),
  (0xFDFA, 0xFDFB), (0xFE70, 0xFE70), (0xFE72, 0xFE72), (0xFE74, 0xFE74), (0xFE76, 0xFE76),
  (0xFE78, 0xFE78), (0xFE7A, 0xFE7A), (0xFE7C, 0xFE7C), (0xFE7E, 0xFE7E)]⟩

def changesWhenLowercased : CharSet := ofTable [
  "65+25 101+22 1+6 33 1 1 1 1 1 1 1 1 1 1 1 1 1 1 1 1 1 1 1 1 1 1 1 1 1 1 1 2 1 1 1 1 1 1 1 2 1",
  "1 1 1 1 1 1 1 1 1 1 1 1 1 1 1 1 1 1 1 1 1 1+1 1 1 3+1 1 1+1 1+2 2+3 1+1 1+2 3+1 1+1 1 1 1+1 1",
  "2 1+1 1+2 1 1+1 3 7+1 1+1 1+1 1 1 1 1 1 1 1 1 2 1 1 1 1 1 1 1 1 2+1 1 1+2 1 1 1 1 1 1 1 1 1 1",
  "1 1 1 1 1 1 1 1 1 1 1 1 1 1 1 1 1 1 1 7+1 1+1 2 1+3 1 1 1 1 289 1 3 8 6 1+2 1 1+1 1+16 1+8 35",
  "8 1 1 1 1 1 1 1 1 1 1 1 5 2 1+1 2+50 48 1 1 1 1 1 1 1 1 1 1 1 1 1 1 1 1 9 1 1 1 1 1 1 1 1 1 1",
  "1 1 1 1 1 1 1 1 1 1 1 1 1 1 1 1 1+1 1 1 1 1 1 1 2 1 1 1 1 1 1 1 1 1 1 1 1 1 1 1 1 1 1 1 1 1 1",
  "1 1 1 1 1 1 1 1 1 1 1 1 1 1 1 1 1 1 1 1 1 1 1 1 1 2+37 2889+37 1 5 722+85 2195 6+42 2+2 320 1",
  "1 1 1 1 1 1 1 1 1 1 1 1 1 1 1 1 1 1 1 1 1 1 1 1 1 1 1 1 1 1 1 1 1 1 1 1 1 1 1 1 1 1 1 1 1 1 1",
  "1 1 1 1 1 1 1 1 1 1 1 1 1 1 1 1 1 1 1 1 1 1 1 1 1 1 9 1 1 1 1 1 1 1 1 1 1 1 1 1 1 1 1 1 1 1 1",
  "1 1 1 1 1 1 1 1 1 1 1 1 1 1 1 1 1 1 1 1 1 1 1 1 1 1 1 1 9+7 8+5 10+7 8+7 8+5 11 1 1 1 8+7",
  "24+7 8+7 8+7 8+4 11+4 11+3 12+4 11+4 297 3+1 6 45+15 19 818+25 1840+47 48 1+2 2 1 1 1+3 1 2",
  "8+2 1 1 1 1 1 1 1 1 1 1 1 1 1 1 1 1 1 1 1 1 1 1 1 1 1 1 1 1 1 1 1 1 1 1 1 1 1 1 1 1 1 1 1 1 1",
  "1 1 1 1 8 1 4 31053 1 1 1 1 1 1 1 1 1 1 1 1 1 1 1 1 1 1 1 1 1 1 19 1 1 1 1 1 1 1 1 1 1 1 1 1",
  "135 1 1 1 1 1 1 3 1 1 1 1 1 1 1 1 1 1 1 1 1 1 1 1 1 1 1 1 1 1 1 1 1 1 1 1 1 1 10 1 1+1 1 1 1",
  "1 4 1 2 1 3 1 1 1 1 1 1 1 1 1 1+4 1+4 1 1 1 1 1 1 1 1+3 1 1+1 3 5 1 1 1 24 22315+25 1221+39",
  "136+35 156+10 1+14 1+6 1+1 1770+50 157+21 2874+31 21888+31 31392+33"]

def changesWhenUppercased : CharSet := ofTable [
  "97+25 58 41+23 1+7 1 1 1 1 1 1 1 1 1 1 1 1 1 1 1 1 1 1 1 1 1 1 1 1 1 1 1 1 2 1 1 1 1 1 1 1+1",
  "1 1 1 1 1 1 1 1 1 1 1 1 1 1 1 1 1 1 1 1 1 1 1 2 1 1+2 2 1 2 3 5 2 3+2 2 2 1 1 2 4 2 3 1 2 3 1",
  "5+1 1+1 1+1 1 1 1 1 1 1 1 1+1 1 1 1 1 1 1 1 1 1+1 1+1 1 3 1 1 1 1 1 1 1 1 1 1 1 1 1 1 1 1 1 1",
  "1 3 1 1 1 1 1 1 1 1 8 2+1 1 4 1 1 1 1+5 1+1 1 1+1 3+1 1+3 1+4 2 1+1 2 7 2 1+1 3+5 5 10+1 166",
  "43 1 3 3+2 18 27+34 1+1 3+2 1 1 1 1 1 1 1 1 1 1 1 1+4 1 2 2 52+47 1 1 1 1 1 1 1 1 1 1 1 1 1 1",
  "1 1 1 9 1 1 1 1 1 1 1 1 1 1 1 1 1 1 1 1 1 1 1 1 1 1 1 1 1 1 2 1 1 1 1 1 1+1 1 1 1 1 1 1 1 1 1",
  "1 1 1 1 1 1 1 1 1 1 1 1 1 1 1 1 1 1 1 1 1 1 1 1 1 1 1 1 1 1 1 1 1 1 1 1 1 1 1 49+38 2888+42",
  "2+2 760+5 2178+8 1 238 3 16 114 1 1 1 1 1 1 1 1 1 1 1 1 1 1 1 1 1 1 1 1 1 1 1 1 1 1 1 1 1 1 1",
  "1 1 1 1 1 1 1 1 1 1 1 1 1 1 1 1 1 1 1 1 1 1 1 1 1 1 1 1 1 1 1 1 1 1 1 1 1 1 1 1 1 1 1+6 5 1 1",
  "1 1 1 1 1 1 1 1 1 1 1 1 1 1 1 1 1 1 1 1 1 1 1 1 1 1 1 1 1 1 1 1 1 1 1 1 1 1 1 1 1 1 1 1 1+8",
  "8+5 10+7 8+7 8+5 10+7 8+7 8+13 2+52 1+1 4 1 3+2 1+1 4 3+3 2+1 8+7 10+2 1+1 4 337 33+15 4",
  "843+25 1862+47 1 3+1 1 1 1 6 2 10 1 1 1 1 1 1 1 1 1 1 1 1 1 1 1 1 1 1 1 1 1 1 1 1 1 1 1 1 1 1",
  "1 1 1 1 1 1 1 1 1 1 1 1 1 1 1 1 1 1 1 8 1 4 12+37 1 5 30995 1 1 1 1 1 1 1 1 1 1 1 1 1 1 1 1 1",
  "1 1 1 1 1 19 1 1 1 1 1 1 1 1 1 1 1 1 1 135 1 1 1 1 1 1 3 1 1 1 1 1 1 1 1 1 1 1 1 1 1 1 1 1 1",
  "1 1 1 1 1 1 1 1 1 1 1 1 10 1 2 1 1 1 1 4 4 1+1 2 1 1 1 1 1 1 1 1 1 11 1 1 1 1 1 1 1 4 1 2 3 5",
  "1 1 26 860 28+79 20288+6 12+4 1065+25 1229+39 136+35 155+10 1+14 1+6 1+1 1795+50 125+21",
  "2874+31 21888+31 31394+33"]

-- Letters that change in upper case but not in title case, and the other way round.
def upperNotTitle : CharSet := ⟨[(0x1C5, 0x1C5), (0x1C8, 0x1C8), (0x1CB, 0x1CB), (0x1F2, 0x1F2),
  (0x10D0, 0x10FA), (0x10FD, 0x10FF), (0x1F88, 0x1F8F), (0x1F98, 0x1F9F), (0x1FA8, 0x1FAF),
  (0x1FBC, 0x1FBC), (0x1FCC, 0x1FCC), (0x1FFC, 0x1FFC)]⟩

def titleNotUpper : CharSet := ⟨[(0x1C4, 0x1C4), (0x1C7, 0x1C7), (0x1CA, 0x1CA), (0x1F1, 0x1F1)]⟩

-- The same for folding and lower case.
def foldedNotLower : CharSet := ofTable [
  "181 41 105 53 453 124 13+1 3+1 25+1 3 401 3696+5 2178+8 529+1 228+7 8+7 8+7 10+2 2 10+2 2",
  "42+2 2 35704+79 20288+6 12+4"]

def lowerNotFolded : CharSet := ⟨[(0x13A0, 0x13F5)]⟩

def asciiHexDigit : CharSet := ⟨[(0x30, 0x39), (0x41, 0x46), (0x61, 0x66)]⟩

def bidiControl : CharSet := ⟨[(0x61C, 0x61C), (0x200E, 0x200F), (0x202A, 0x202E),
  (0x2066, 0x2069)]⟩

def bidiMirrored : CharSet := ofTable [
  "40+1 18 1 28 1 29 1 45 15 3710+3 1885+1 2460+1 10+1 54+1 14+1 177 192+3 3+5 3 3+1 3+3 1+3 1 1",
  "4+8 5 1+17 5+3 9+1 1 1+7 1+31 2+3 5 9+1 2+18 5+1 9+4 2+1 4+23 2+15 8+3 20+1 7+1 1085+13 74",
  "2+3 1+1 1+2 5+3 5+2 3+13 403+21 2+5 1+13 8 7+5 3 4+4 1+1 2+4 4 1+2 2+1 10+5 2+1 12+18 1+3 2 1",
  "2 1+3 5+1 6+2 24+1 11+1 4+3 1+1 2+1 4+42 2+7 1+39 5 1 3+4 5+2 4 3+4 1 256 515+3 3+1 1+1 14+1",
  "2+9 43+7 427+9 2+7 52797+5 5+1 162+1 18 1 28 1 29 1 1+1 1+1 55159 57 57 57 57"]

def dashes : CharSet := ofTable [
  "45 1372 51 3649 1029 2057+5 61 39 15 390 3076 2 31+1 4 28 446 19 111 52624+1 37 10 169 3680",
  "318"]

def deprecatedSigns : CharSet := ⟨[(0x149, 0x149), (0x673, 0x673), (0xF77, 0xF77), (0xF79, 0xF79),
  (0x17A3, 0x17A4), (0x206A, 0x206F), (0x2329, 0x232A), (0xE0001, 0xE0001)]⟩

def diacritics : CharSet := ofTable [
  "94 1 71 6 4 2+1 503+158 1+7 5+5 17+1 4 9+1 253+4 209 55+44 1 1+1 1+1 1 131+7 4+1 134+1 4+1",
  "3+2 67+26 91+10 58+10 34+1 126+7 41+9 16+27 61 16 3+3 28 74 16 110 16 110 16 47+2 60 16 7 119",
  "110 16 110 16 109+1 16 124 111 12+5 1 107 13+4 75+1 27 1 1 4+1 66+2 1+1 62 112 1+1 40+1 4+4",
  "25+6 1 10+1 705+2 948+1 30 148+10 9 347+2 292 20+7 2 48+14 2+10 104 15 38+8 54+1 58 11+1 66+1",
  "64+5 82+24 4 6 2+2 50+62 48+35 5+11 37+10 445 1+2 11+2 13+2 13+2 13+1 3312+2 317 506+5 105+3",
  "95 30066 12+1 1 28+1 82+1 14+33 102+2 109+1 12 37 151 27+17 57+3 36 95 12 36 149+2 65+3 51",
  "100+4 9+2 128+1 20272 769+15 270 1 47 45+1 67 764 1183+5 1+41 1+8 637+2 4 165+1 571+5 38 26+4",
  "399+2 70+10 49+3 192 41 72+1 120+1 62 76 9+2 104+1 178+1 80+1 16 24+6 3+4 89+2 1+1 13+1 95 3",
  "123+1 251+1 126 118+1 115 269+1 258+1 4 156 83 18 81 421 258 1+1 81 425+1 23 5356+14 11481",
  "2496+4 59+6 564+1 546+16 80+1 16382+3 1+6 1+1 7937+45 2+22 544+2 3+5 8+7 2+6 30+3 3714+61",
  "194+6 375 61+3 766+1 736+6 109+2 1+2"]

def emoji : CharSet := ofTable [
  "35 6 5+9 111 4 8077 12 216 22 90+5 15+1 367+1 12 166 25+10 4+2 199 231+1 10 9 58+3 1+4 9 2",
  "2+1 2 4 2 1+1 2 3 3+1 8+2 5 1 5+11 11+1 2 1+1 1 18 2+1 18+5 1 1+1 3+1 5 2+1 4+1 11+1 5+1 2",
  "5+1 1 1+1 20+1 5+5 1+3 2 4 2 2+5 1 2 1 1 6 3 6 10+1 15 2 4 1 4+2 1 11+1 48+2 9 14 14 372+1",
  "463+2 19+1 51 4 1242 12 601 1 114026 202 160+1 12+1 14 2+9 75+25 1+1 23 20 2+8 21+1 174+33",
  "2+111 2+1 1+2 2+82 2+2 1+262 1+62 11+5 1+23 7+1 2+7 12 2+3 2 4+1 13+1 2 8+1 9 5+2 12+2 8+2 2",
  "1 4 6 3 6+85 48+69 5+7 2+2 4+9 3 1+1 3 2+9 227+11 4 283+46 1+9 1+184 112+12 3+9 5+55 7+14",
  "2+10 6+8"]

def emojiComponent : CharSet := ⟨[(0x23, 0x23), (0x2A, 0x2A), (0x30, 0x39), (0x200D, 0x200D),
  (0x20E3, 0x20E3), (0xFE0F, 0xFE0F), (0x1F1E6, 0x1F1FF), (0x1F3FB, 0x1F3FF), (0x1F9B0, 0x1F9B3),
  (0xE0020, 0xE007F)]⟩

def emojiModifier : CharSet := ⟨[(0x1F3FB, 0x1F3FF)]⟩

def emojiModifierBase : CharSet := ofTable [
  "9757 219 16+3 117879 60+2 2 2+2 117+1 2+10 21+18 3 4+2 1+2 7 1 24 201+1 4 21 4+1 174+2 3+4 83",
  "16+2 9 11 575 2 8+7 6 9+9 2+2 56 61+1 1+1 1 17+2 1+12 229+2 42+8"]

def emojiPresentation : CharSet := ofTable [
  "8986+1 205+3 3 2 521+1 21+1 50+11 43 19 13 8+1 17+1 5+1 8 5 21 7+1 1 4 2 7 4+1 28 35 1 4+2 1",
  "61+2 24 14 859+1 51 4 115886 202 190 2+9 75+25 1 24 20 2+4 1+2 21+1 174+32 12+8 1+69 1+21",
  "12+42 4+4 12+16 3 3+70 1 1+186 2+62 13+3 1+23 18 26+1 13 86+84 48+69 6 3+2 2+2 4+3 11+1 7+8",
  "227+11 4 283+46 1+9 1+184 112+12 3+9 5+55 7+14 2+10 6+8"]

def extendedPictographic : CharSet := ofTable [
  "169 4 8077 12 216 22 90+5 15+1 367+1 12 95 70 25+10 4+2 199 231+1 10 9 58+3 1+5 1+11 1+113",
  "10+117 2+10 1 1 6 3 6 10+1 15 2 4 1 4+2 1 11+4 45+2 9 14 14 372+1 463+2 19+1 51 4 1242 12 601",
  "1 114022+255 13+2 31 60+5 12+1 14 2+9 18+56 27+14 10 20 2+8 1+3 9+433 5+317 8+265 48+127",
  "116+11 85+42 12+3 56+7 10+5 40+7 30+81 12+46 1+9 1+440 256+1021"]

def extenders : CharSet := ofTable [
  "183 536+1 878 441 630 137 89 752 127 2371 56 611 398 68 5001 43+4 103+1 93+2 28438 1526 962",
  "22 137 108 21+1 21627 2064+1 1483 27 4 1223 293 116+1 498+2 1231 20649+1 1180+1 1 29016+1",
  "1201 852+2"]

def hexDigit : CharSet := ⟨[(0x30, 0x39), (0x41, 0x46), (0x61, 0x66), (0xFF10, 0xFF19),
  (0xFF21, 0xFF26), (0xFF41, 0xFF46)]⟩

def idsBinaryOperator : CharSet := ⟨[(0x2FF0, 0x2FF1), (0x2FF4, 0x2FFD), (0x31EF, 0x31EF)]⟩

def idsTrinaryOperator : CharSet := ⟨[(0x2FF2, 0x2FF3)]⟩

def ideographic : CharSet := ofTable [
  "12294+1 25+8 14+2 965+6591 64+20991 22784+365 2+105 29962 27+6135 8+1237 41+9 9319+395",
  "19716+42719 32+4153 6+221 2+5761 14+7472 15+621 2466+541 1506+4938 5+4191"]

def joinControl : CharSet := ⟨[(0x200C, 0x200D)]⟩

def logicalOrderException : CharSet := ⟨[(0xE40, 0xE44), (0xEC0, 0xEC4), (0x19B5, 0x19B7),
  (0x19BA, 0x19BA), (0xAAB5, 0xAAB6), (0xAAB9, 0xAAB9), (0xAABB, 0xAABC)]⟩

def noncharacters : CharSet := ofTable [
  "64976+31 526+1 65534+1 65534+1 65534+1 65534+1 65534+1 65534+1 65534+1 65534+1 65534+1",
  "65534+1 65534+1 65534+1 65534+1 65534+1 65534+1 65534+1"]

def patternSyntax : CharSet := ofTable [
  "33+14 10+6 26+3 1 26+3 34+6 1 1+1 1 1+1 4 4 3 23 31 7960+23 8+14 2+18 1+9 305+719 160+629",
  "30+1131 512+127 385+2 4+24 15 52493+1 261+1"]

def patternSpace : CharSet := ⟨[(0x9, 0xD), (0x20, 0x20), (0x85, 0x85), (0x200E, 0x200F),
  (0x2028, 0x2029)]⟩

def quotationMark : CharSet := ofTable [
  "34 4 131 15 8028+7 25+1 3591 457+3 13+2 52769+3 189 4 90+1"]

def radicals : CharSet := ⟨[(0x2E80, 0x2E99), (0x2E9B, 0x2EF3), (0x2F00, 0x2FD5)]⟩

def regionalIndicator : CharSet := ⟨[(0x1F1E6, 0x1F1FF)]⟩

def sentenceTerminal : CharSet := ofTable [
  "33 12 16 1353 147+2 180 43+2 246 61 1 3+1 293+1 1764+1 790 4+1 773 198+1 157+1 45 5 314+1",
  "354+3 162+1 10+1 2+1 29+2 187+1 65+1 932 23+1 9+2 3247+2 306 13 22+1 429 29948 270+1 227 3",
  "382+1 86+1 95 152+1 147+2 144+1 249 21030 2+1 59 3+1 169 12 16 65 2804+1 1277+4 44+3 189+1",
  "117+3 127+2 129+1 6 16+1 88+1 1+1 108 298+1 117+1 373+1 5+14 105+1 249+2 517 1 251+1 87+1",
  "420+1 692+1 74+1 19241+1 133 65+1 11 553+1 296 19974 7656"]

def softDotted : CharSet := ofTable [
  "105+1 196 281 30 52 20 320 98 1 6409 51 13 3 132 157 421 214+1 2866 108453+1 50+1 50+1 50+1",
  "50+1 50+1 50+1 50+1 50+1 50+1 50+1 50+1 50+1 2182 305+1 26"]

def terminalPunctuation : CharSet := ofTable [
  "33 10 1 11+1 3 830 8 513 57 72 14 1+2 180 43+10 1 235+1 54+5 1+7 31 261+1 1268+1 172 4+5",
  "311+1 789+7 773 124+2 71+1 157+2 3 39+3 2+1 314+1 354+3 162+1 10+1 1+2 29+2 187+4 62+1 932",
  "23+1 9+2 3247+2 306 13 4 10 1+1 3+1 428+1 29947+1 269+2 227+4 382+1 86+1 95 151+2 147+2 127",
  "16+1 249 21030 2+1 57+2 1+3 169 10 1 11+1 3 65 2 1082 48 1158 199 310+1 152+5 68+5 89+3 952+4",
  "44+3 189+6 112+3 127+2 129+1 6 16+1 88+4 108 298+1 117+2 12+1 358+3 3+14 105+1 249+2 517 1",
  "251+1 87+1 4+1 414+2 45 645+1 74+1 1323+4 17913+1 133 65+2 10 553+1 295+1 19974 7655+3"]

def unifiedIdeograph : CharSet := ofTable [
  "13312+6591 64+20991 23054+1 1 1+1 10 1 1+1 2+2 67030+42719 32+4153 6+221 2+5761 14+7472",
  "15+621 4514+4938 5+4191"]

def variationSelector : CharSet := ⟨[(0x180B, 0x180D), (0x180F, 0x180F), (0xFE00, 0xFE0F),
  (0xE0100, 0xE01EF)]⟩

def hyphens : CharSet := ⟨[(0x2D, 0x2D), (0xAD, 0xAD), (0x58A, 0x58A), (0x1806, 0x1806),
  (0x2010, 0x2011), (0x2E17, 0x2E17), (0x30FB, 0x30FB), (0xFE63, 0xFE63), (0xFF0D, 0xFF0D),
  (0xFF65, 0xFF65)]⟩

def prependedMark : CharSet := ⟨[(0x600, 0x605), (0x6DD, 0x6DD), (0x70F, 0x70F), (0x890, 0x891),
  (0x8E2, 0x8E2), (0x110BD, 0x110BD), (0x110CD, 0x110CD)]⟩

def graphemeLink : CharSet := ofTable [
  "2381 127 127 127 127 127 127 127 109+1 16 124 111 127 201 180+1 1753+1 30 157 653 227 101+1",
  "70+1 4491 31366 37 151 142 108 309 246 24145 1542 41 14 57 121+1 139 116 180 98 128+2 113 127",
  "252 127 118 116 269 259+1 161 83 18 81 421 260+1 81 425+1 16876"]

def idsUnaryOperator : CharSet := ⟨[(0x2FFE, 0x2FFF)]⟩

def idCompatMathStart : CharSet := ofTable [
  "8706 4 22 111778 25 31 25 31 25 31 25 31 25"]

def otherIdCompatMath : CharSet := ⟨[(0xB2, 0xB3), (0xB9, 0xB9), (0x2070, 0x2070),
  (0x2074, 0x207E), (0x2080, 0x208E)]⟩

def modifierMark : CharSet := ⟨[(0x654, 0x655), (0x658, 0x658), (0x6DC, 0x6DC), (0x6E3, 0x6E3),
  (0x6E7, 0x6E8), (0x8CA, 0x8CB), (0x8CD, 0x8CF), (0x8D3, 0x8D3), (0x8F3, 0x8F3)]⟩

-- Signs that may stand inside a word: between letters, and between letters or digits.
def midLetter : CharSet := ⟨[(0x3A, 0x3A), (0xB7, 0xB7), (0x387, 0x387), (0x55F, 0x55F),
  (0x5F4, 0x5F4), (0x2027, 0x2027), (0xFE13, 0xFE13), (0xFE55, 0xFE55), (0xFF1A, 0xFF1A)]⟩

def midNumberLetter : CharSet := ⟨[(0x2E, 0x2E), (0x2018, 0x2019), (0x2024, 0x2024),
  (0xFE52, 0xFE52), (0xFF07, 0xFF07), (0xFF0E, 0xFF0E)]⟩

end CharSet
end EdgeIncludes
