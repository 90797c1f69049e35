import EdgeIncludes.CharSet.Table

namespace EdgeIncludes
namespace CharSet

-- The versions of the character database, the oldest first, with the characters that each of them
-- added. An age stands for all characters that are no younger.
def ageTable : List (String × List String) := [
  ("1.1", [
    "0+501 4+29 56+88 7+46 1+9 22+69 26+1 18+1 4 3 5+6 1 1+19 1+43 1+6 3 1 1 1 1+17 13+11 1+65",
    "1+11 1+40 9+52 2+1 2+1 3+27 2+7 2+1 55+37 2+6 1+38 1 38+9 1+8 12+26 5+4 23 14 3 1+25 5+18",
    "13+13 2+71 2+4 1+14 1+29 2+9 519+2 1+52 2+17 2+4 3+24 16+2 1+7 2+1 2+21 1+6 1 3+3 2 1+6 2+1",
    "2+2 9 4+1 1+4 2+20 7 2+5 4+1 2+21 1+6 1+1 1+1 1+1 2 1+4 4+1 2+2 11+3 1 7+14 12+2 1+6 1 1+2",
    "1+21 1+6 1+1 1+4 2+9 1+2 1+2 2 15 5+9 17+2 1+7 2+1 2+21 1+6 1+1 2+3 2+7 3+1 2+2 8+1 4+1 1+2",
    "4+10 17+1 1+5 3+2 1+3 3+1 1 1+1 3+1 3+2 3+7 1+2 4+4 3+2 1+3 9 15+11 14+2 1+7 1+2 1+22 1+9",
    "1+4 4+6 1+2 1+3 7+1 9+1 4+9 18+1 1+7 1+2 1+22 1+9 1+4 4+6 1+2 1+3 7+1 7 1+1 4+9 18+1 1+7",
    "1+2 1+22 1+15 4+5 2+2 1+3 9 8+1 4+9 145+57 4+28 37+1 1 2+1 1 2 6+3 1+6 1+2 1 1 2+1 1+12 1+2",
    "2+4 1 1+5 2+9 2+1 450+37 10+38 4 4+89 5+67 5+81 3078+154 5+89 6+21 2+5 2+37 2+5 2+7 1 1 1",
    "1+30 2+52 1+14 1+13 2+5 1+18 2+2 1+8 1+46 1+22 35+6 3+26 17+10 37+17 30+56 26+47 13+90",
    "21+241 14 1+120 133+36 27+10 21+138 21+149 10+79 16+19 6+85 145+3 1+3 2+27 1+34 1 1+3 3 1+6",
    "2+6 14+30 3+23 1+13 2113+55 7 1+83 4+5 2+93 6+39 4+93 1+15 96+28 3+35 28+27 3+49 15+11 4+46",
    "1+118 4+98 2+30 6657+20901 16474+6701 210+6 12+4 6+24 1+4 1 1+1 1+1 1+107 33+364 16+63 2+53",
    "40+11 36+3 12+20 4+9 1+18 1+3 4+2 1 1+134 2 1+93 2+93 3+5 2+5 2+5 2+2 3+6 1+6 14+2"]),
  ("2.0", [
    "1425+16 1+12 20 2363+71 1+32 7+26 4+5 1 1+20 3+6 1 3809 527 35668+11171 92+2047 73726+1",
    "65534+1 65534+1 65534+1 65534+1 65534+1 65534+1 65534+1 65534+1 65534+1 65534+1 65534+1",
    "65534+1 65534+131073"]),
  ("2.1", ["8364 57167"]),
  ("3.0", [
    "502+3 30+7 2+17 117+4 49 10+4 87+8 19 116 3 1 1 1 30 12 66 12 42+1 2+3 92+1 156 200+2 98+1",
    "5 15 42+4 1+13 1+29 3+26 53+48 1489+1 1+17 3+23 1+8 1 2+6 3 4+5 1 1+7 18+2 373 43 23+2 7",
    "1+2 1+14 2 48+33 1+4 1+1 1+6 3+3 6+25 422+6 1+62 1 1+3 2+6 1 1+3 2+38 1 1+3 2+30 1 1+3 2+6",
    "1 1+3 2+6 1+6 1+22 1+30 1 1+3 2+6 1+38 1+18 6+27 35+84 12+629 9+28 3+80 143+92 3+9 22+14",
    "1+9 6+87 8+41 1925 24+5 95+2 50+1 85+1 72 103+8 269 121 1+29 138+1 457+7 33 86+1 398+255",
    "1408+25 1+88 12+213 26+11 60+2 3 353+23 584+6581 21066+1164 3+17 2+15 1+11 1+2 1 22102",
    "1243+2"]),
  ("3.1", [
    "1012+1 63962+31 1296+30 1+3 12+26 181+37 2+37 52146+245 10+38 3+179 546+84 1+70 1+1 2 2+1",
    "2+3 1+11 1 1+3 1+1 1+64 1+3 2+7 1+6 1+27 1+3 1+4 1 3+6 1+337 4+289 4+49 10240+42710",
    "20777+541 722403 30+95"]),
  ("3.2", [
    "544 302 19+12 104+1 28 147+1 57+1 2+1 2+1 49+15 350+1 321 2373+1 1543+12 1+6 11+22 9+19",
    "12+12 1+2 1+1 2259 6+4 4 7+4 13 62+1 50+6 82+14 168+11 242+13 124 30+51 284+19 151+9 88+7",
    "22+1 90+11 2+9 222+13 90+27 4+15 256+511 1339+2 87+1 8+1 94 240+15 81+14 81+14 29154+1 16",
    "12 3 21866+58 913 3+15 53+1 44 235+1"]),
  ("4.0", [
    "545 18+2 119+1 63+16 80+7 5+2 151+4 516+3 9+8 64+2 149+1 15 45+2 29+2 436 184 67 1 136 84+2",
    "13 67 59 129+7 193+1 2847 18+9 262+28 3+11 4+11 4 3+41 2+4 107+31 768+107 743+1 230 659+1",
    "302 276+1 116+7 14+1 1118+13 1807+1 49 43+1 78+3 167+3 99+1 31 6592+63 45053 73+1 439+11",
    "1+25 1+18 1+1 1+14 2+13 34+122 5+2 4+44 3+8 576+29 1 134+1 38+79 2+9 854+5 2 1+43 1+1 3 2",
    "51904+86 362 797758+239"]),
  ("4.1", [
    "567+10 278+4 159+3 246+1 170 34+2 67 18 58+5 241+29 527 80 487 47 1001+1 295+1 1 266 63 63",
    "39 31 31 31 15 39 23+1 31+25 1510+41 6+25 6+9 4+1 32+27 2+1 844+87 657+1 1+6 49+4 29+3 53",
    "80 15 644+10 572 101+1 18+10 5+15 270+6 839+5 236+46 1+46 33+106 14+44 10+53 9 16+22 9+6",
    "1+6 1+6 1+6 1+6 1+6 1+6 1+6 33+23 4+1 930+15 174 27943+21 1860+22 233+43 21060+105 822+9",
    "806+74 533+35 4+13 1578+3 1+1 5+7 1+2 1+26 4+2 4+8 8+8 51111+69 1118+1"]),
  ("5.0", [
    "578+13 299+2 337 42+5 16+3 166 517+58 384+1 1+1 866+1 13+1 3597+75 4+44 583+6 51+1 748+3",
    "93+1 53 599+11 714 276+3 841+6 5+3 316+12 7+3 31391+3 5+1 286+55 24712+25 5 5856+878 145+98",
    "13+3 44780+17 1112+1"]),
  ("5.1", [
    "880+3 2+1 87 183 140+15 226+4 11+4 32+4 302+17 497+1 222 35 206 29+1 108 108 26+1 8+1 20+7",
    "189 6 29+1 12+5 3+6 491+1 97 3+2 77 5 2 7+2 4+5 26+63 4+1 2058 725+42 3+11 70+55 3+14 3+50",
    "331+27 181+3 90+5 356 139 94 53+3 1300 21+9 3+3 264 31+3 811+4 4+40 3+4 280+2 1+2 4+5",
    "354+31 24+3 2+18 764 162+19 28120+7 1340+299 20+31 2+17 8+27 131+4 2+106 110+4 128+68 9+11",
    "38+83 11 160+54 9+13 2+9 2+3 21444+2 873+11 52+45 130+28 3+48 1615+25 5 51177 7894+43 4+99"]),
  ("5.2", [
    "1316+1 730+45 2+14 193 77 6 35+1 128 1497+3 193+3 188+4 68+4 82+5 512 630+8 560+69 180+1 46",
    "69+62 1+28 2+10 6+9 6+13 546+34 266 696+2 151+2 54 606 693+1 29+2 4+9 1+18 1 4+23 87 1021+4",
    "278 13+1 107+6 319 1042+11 28020+7 1284+47 416+87 312+9 166+27 100+28 3+77 1+10 4+1 128+27",
    "4+66 24+4 224+45 2+9 11190+22 4+48 8815+2 3538+21 1+8 186+1 324+31 128+53 3+28 2+26 5+7",
    "128+72 535+30 513+65 7998+1070 48337+10 5+30 2 11 1 2 3 3+4 8 7 25 1+1 2 10+3 2 111 15+33",
    "14+8 46263+4148"]),
  ("6.0", [
    "1318+1 248 62 480+27 2 219+1 19 6+1 27+4 506+5 433 16 19 573+3 73+1 898+1 2145+51 8+3 508",
    "664+7 28 815+10 730 19 1+3 29 4+1 28 35 1 4+2 9+1 52+2 24 14 14+1 1440 14 1080+2 29861+1",
    "299+1 1+1 14+9 80 774+5 2+5 2+5 9+6 1+6 20611+15 5182+77 4+29 22416+568 17863+1 16542+14",
    "2+13 2+14 1+14 80 1+10 1 1+1 1+2 1+2 5+7 1+6 1+9 6+8 1 2+1 1+9 4+1 1+9 75+25 1+1 47+8 21+1",
    "174+32 15+5 1+69 3+19 12+36 1+4 21+16 15+62 1 1+181 1+3 3+61 18+23 147+4 1+15 1+2 1 1 1 1+2",
    "1+5 2+3 1 2+3 1+11 4+10 48+69 58+115 49100+221"]),
  ("6.1", [
    "1423 116 667 1+10 55+26 497 1005+1 487 5 47+2 2731+2 12+5 256+7 43+3 2772 1 1316+1 51 5",
    "56+1 202+9 29072 1703+7 35 242+1 22 77+1 742+22 20279+1 3920+55 6+1 1808+24 7+9 6+52 1+13",
    "60+72 7+9 1190+55 8+9 22582+68 11+46 16+16 32352+3 1+26 1+1 1 2 1+9 1+3 1 1 6 4 1 1 1+2 1+1",
    "1 2 1 1 1 1 1+1 1 2+3 1+6 1+3 1+3 1 1+9 1+16 5+2 1+4 1+16 52+1 632+1 980+3 188 16 3 1 1 1 3",
    "6+1 4 1+1 4"]),
  ("6.2", ["8378"]),
  ("6.3", ["1564 6729+3"]),
  ("7.0", [
    "895 424+7 93+1 118 667 11+5 76 120 7 639 51 76 127 228+9 2305+7 548+1 401+14 569+1 237+14",
    "709+2 822+6 773 1100+2 10+25 2+31 2+33 3+11 1+7 618+6 30805+5 246+11 11+2 2+1 69 488+30",
    "125+3 176+47 4+1 21185+6 861+1 19 319+27 35 48+42 389+39 8+51 11 144+310 9+21 10+7 248+62",
    "8+8 464+31 32+38 4+11 137+17 7+3 12+6 1231 208+38 86 12 6+19 11+17 1+42 114+58 5+9 7+2 1+7",
    "2+1 2+21 1+6 1+1 1+4 2+8 2+1 2+2 9 5+6 2+6 3+4 267+71 8+9 166+53 2+17 54+68 11+9 582+82 12",
    "448+56 2166+41 202+11 5 17867+30 1+9 4+1 96+29 2+5 10+69 10+9 1+6 1+20 5+18 20592+106 5+12",
    "3+8 7+9 2+7 11100+196 2+15 2024 32+21 21+1 532+11 9 70 22+11 37 5+3 5+11 17+6 71 1 182 4+1",
    "63+1 4+6 29+17 1+40 1+85 70+1 13+47 70+9 16+12 3+3 140+84 43+11 4+55 8+9 6+39 8+29"]),
  ("8.0", [
    "2227+1 46 533 352 260 1685 2+5 3264 203+1 2656+3 29661+8 1736 240 34+5 324+1 610+3 12+79",
    "21102+1 2736+18 1+1 5+4 188+1 2+15 2+45 640+50 13+50 7+5 1225+3 14+4 160+6 1 1+3 1+14 1+10",
    "86 79 633+19 290+25 3+14 4+15 3161 230+195 7868+582 35735+10 1559+651 15+4 1+14 6269+2 78+1",
    "79+4 36+7 255 75+4 243+1 139 575+8 103+4 59 48735+5761"]),
  ("9.0", [
    "2230+7 22+14 925 206 4+2 1+6 23+2 3847+8 370 1535+3 2628+1 31081 278 22727+1 801+35 4+35",
    "3394 449+89 1 1 514+12 1427+8 1+44 1+13 10+28 3+31 2+21 1+13 21289 31+6124 19+754 21773+6",
    "1+16 2+6 1+1 1+4 2261+74 5+9 4+1 2107+17 142 830 41 300+1 33+2 546+5 1+7 8 2+11 1+11 4+14",
    "38+12"]),
  ("10.0", [
    "2144+10 401+1 252+5 512 58+1 4026 254+3 709 831 2002 626+4 740 28327+20 25410+2 5840+71",
    "8+51 2+22 1+4 605+6 1+1 1+43 3 1+1 1+8 8+9 21127 16416+284 81+395 16228+5 1133+1 34+1",
    "519+11 19 8+7 1+1 25 18+12 38+5 56+22 54473+7472"]),
  ("11.0", [
    "1376 39 102 525+2 211 298 119 397 127 3059 1047+42 2+2 3834+2 22+24 4+14 587+4 736 28347+4",
    "1983 8+1 324+1 24884+1 18 695+39 8+9 454+39 8+41 371 118+2 500 290 699 229+59 609 706+5 1+1",
    "1+36 1+1 1+5 7+9 310+24 20295+90 6482+4 19182+19 126+6 6392+67 1146 1481 219+3 372+2 28+4",
    "2+3 3 1+3 24+10 13+9 7+1 36+24 96+13"]),
  ("12.0", [
    "3191 526 2 2 1+5 4 7 7+1 2 13 3647 3790 53 591 31082+5 2+4 927+1 25720+22 1128 600 743+7",
    "2+45 2+10 159+1 1338+49 13 5168+8 15116+5 4 47+8 90+1 6158+5 10584+2 17+3 12184+44 3+13 2+9",
    "4+1 368+57 5 1611 949+60 1070 1384 36 229+11 289+2 47 49 9 41+5 3+1 10+5 3+7 2+2 48+83 28+3",
    "4+2 5+2 13+5"]),
  ("12.1", ["13055"]),
  ("13.0", [
    "2238+9 653 430 124 3389+1 4310 696+2 872+4 7158+9 21040+12 1994+3 42+1 53 827+3 22064",
    "3299+41 1+2 2+1 254+27 379 134+1 650 5+1 1182+6 2 2+7 1+1 1+29 1+1 2+11 9+9 1622 20531 11+1",
    "6913+482 42+8 25604+2 93+2 61 1320+1 35+1 435+1 90 101 4+1 42+1 6+2 29 168 14+3 15+18 7+6",
    "9+2 13+6 41+146 1+54 37+9 43741+6 22818+4938"]),
  ("14.0", [
    "1565 594+30 1+1 6+7 21 18+10 873 32 127 2607 7 9 239 689+13 125 48+1 635 709 2926 47 499+10",
    "29087+2 1984+1 14+1 1 1+4 24+2 21453 381+15 127 46+1 1904+10 1+14 1+6 1+1 1+10 1+14 1+6 1+1",
    "451+5 1+41 1+8 1973+25 230+5 76 1526 134+6 873+15 5328+98 14973+78 1+9 17702+3 1+6 1+1",
    "288+3 7645+45 2+22 9+115 549+1 3349+30 881+30 1329+6 1+3 1+1 1+14 3806+2 272 392 82 174+1",
    "44+3 10+3 8+2 17+2 6+7 8+6 44007+1 4181+3"]),
  ("15.0", [
    "3315 474 65582+2 831+2 2238+9 1014+16 1+40 3+27 5333 9+28 31964 34 8554+19 3153+5 261+61 33",
    "1088+41 4578 151+2 4+4 89 667+2 15+1 36+2 11+2 1 14+1 10+1 12 14+1 48192 23574+4191"]),
  ("15.1", ["12284+3 495 178688+621"]),
  ("16.0", [
    "2199 4790+1 47 265+1 1948+2 3514+1 30181+2 12+2 24035+51 1868+37 3+28 8+1 306+2 55 1155+9 1",
    "2 1+37 1+9 1 2 1+3 1+9 1+1 8+1 749+19 1244+33 14+9 864 5381+3994 7429+57 3078+57 8069",
    "16128+249 6+435 5916+42 4 4786+9 4+1 455 5 46 7 21 2 9 225+36"])]

-- A version is written with a dot, or behind a `v` without one. `name` has no capital letters.
def isVersion (name : Text) (version : String) : Bool :=
  name = version.toList || name = 'v' :: version.toList.filter (· ≠ '.')

def ageNamed? (name : Text) : Option CharSet :=
  (ageTable.findIdx? fun row => isVersion name row.1).map fun i =>
    unionAll ((ageTable.take (i + 1)).map fun row => ofTable row.2)

end CharSet
end EdgeIncludes
