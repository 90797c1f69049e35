namespace EdgeIncludes
namespace CharSet

-- The code and the name of each script, and its characters in the form of `CharSet.ofTable`.
def scriptTable : List (String × String × List String) := [
  ("adlm", "adlam", ["125184+75 4+9 4+1"]),
  ("ahom", "ahom", ["71424+26 2+14 4+22"]),
  ("hluw", "anatolianhieroglyphs", ["82944+582"]),
  ("arab", "arabic", [
    "1536+4 1+5 1+13 1+2 1+31 1+9 11+25 1+107 1+33 80+47 240+30 1+1 5+74 1+28 62032+114 16+362",
    "2+79 2+53 7 32+15 112+4 1+134 3939+30 67+2 55+3 57088+3 1+26 1+1 1 2 1+9 1+3 1 1 6 4 1 1",
    "1+2 1+1 1 2 1 1 1 1 1+1 1 2+3 1+6 1+3 1+3 1 1+9 1+16 5+2 1+4 1+16 52+1"]),
  ("armn", "armenian", ["1329+37 2+49 2+2 62851+4"]),
  ("avst", "avestan", ["68352+53 3+6"]),
  ("bali", "balinese", ["6912+76 1+49"]),
  ("bamu", "bamum", ["42656+87 49416+568"]),
  ("bass", "bassavah", ["92880+29 2+5"]),
  ("batk", "batak", ["7104+51 8+3"]),
  ("beng", "bengali", ["2432+3 1+7 2+1 2+21 1+6 1 3+3 2+8 2+1 2+3 8 4+1 1+4 2+24"]),
  ("bhks", "bhaiksuki", ["72704+8 1+44 1+13 10+28"]),
  ("bopo", "bopomofo", ["746+1 11801+42 112+31"]),
  ("brah", "brahmi", ["69632+77 4+35 9"]),
  ("brai", "braille", ["10240+255"]),
  ("bugi", "buginese", ["6656+27 2+1"]),
  ("buhd", "buhid", ["5952+19"]),
  ("cans", "canadianaboriginal", ["5120+639 560+69 65978+15"]),
  ("cari", "carian", ["66208+48"]),
  ("aghb", "caucasianalbanian", ["66864+51 11"]),
  ("cakm", "chakma", ["69888+52 1+17"]),
  ("cham", "cham", ["43520+54 9+13 2+9 2+3"]),
  ("cher", "cherokee", ["5024+85 2+5 38770+79"]),
  ("chrs", "chorasmian", ["69552+27"]),
  ("zyyy", "common", [
    "0+64 26+5 26+46 1+14 1+4 23 31 449+38 5+4 2+19 116 9 6 1 637 6 14 3 32 156 516 129+1 1241",
    "405+3 290 1519+2 71+1 203+1 1 1229 13 7+3 1+5 1+2 2 773+11 2+86 1+10 3+10 1+14 17+32 63+37",
    "1+2 2+5 1+26 1+16 41+2 4+665 22+10 21+927 256+627 2+31 1+104 512+93 402+20 1 1+24 15+7 4+3",
    "91+1 3 90+1 147+15 32+37 9 48+63 31+80 47 88+167 6592+63 22784+33 102+2 165+9 244 160 395",
    "14+1 20946+1 208+9 22+34 1+18 1+3 147 1+31 26+5 26+10 10 45+1 64+6 1+6 10+4 258+2 4+44 3+8",
    "80+12 51+44 228+26 47524+3 3932+249 6+435 156+115 60+245 10+38 2+61 3+16 8+1 7+29 4+60",
    "213+19 12+19 12+86 9+24 135+84 1+70 1+1 2 2+1 2+3 1+11 1 1+6 1+64 1+3 2+7 1+6 1+27 1+3 1+4",
    "1 3+6 1+339 2+291 2+49 5233+67 76+60 706+43 4+99 12+14 2+14 1+14 1+36 10+173 56+25 1+1",
    "13+43 4+8 7+1 14+5 154+983 4+16 3+12 3+118 4+94 6+11 4 15+11 4+55 8+9 6+39 8+29 2+11 4+1",
    "62+339 12+13 2+12 3+9 5+55 7+14 2+10 6+8 7+146 1+101 787463 30+95"]),
  ("copt", "coptic", ["994+13 10384+115 5+6"]),
  ("xsux", "cuneiform", ["73728+921 102+110 1+4 11+195"]),
  ("cprt", "cypriot", ["67584+5 2 1+43 1+1 3 2"]),
  ("cpmn", "cyprominoan", ["77712+98"]),
  ("cyrl", "cyrillic", ["1024+132 2+168 5968+10 160 76 4199+31 30784+95 22414+1 57856+61 33"]),
  ("dsrt", "deseret", ["66560+79"]),
  ("deva", "devanagari", ["2304+80 4+14 2+25 40800+31 29184+9"]),
  ("diak", "divesakuru", ["71936+6 2 2+7 1+1 1+29 1+1 2+11 9+9"]),
  ("dogr", "dogra", ["71680+59"]),
  ("dupl", "duployan", ["113664+106 5+12 3+8 7+9 2+3"]),
  ("egyp", "egyptianhieroglyphs", ["77824+1109 10+3994"]),
  ("elba", "elbasan", ["66816+39"]),
  ("elym", "elymaic", ["69600+22"]),
  ("ethi", "ethiopic", [
    "4608+72 1+3 2+6 1 1+3 2+40 1+3 2+32 1+3 2+6 1 1+3 2+14 1+56 1+3 2+66 2+31 3+25 6630+22 9+6",
    "1+6 1+6 1+6 1+6 1+6 1+6 1+6 32034+5 2+5 2+5 9+6 1+6 81073+6 1+3 1+1 1+14"]),
  ("gara", "garay", ["68928+37 3+28 8+1"]),
  ("geor", "georgian", ["4256+37 1 5 2+42 1+3 2960+42 2+2 4160+37 1 5"]),
  ("glag", "glagolitic", ["11264+95 111520+6 1+16 2+6 1+1 1+4"]),
  ("goth", "gothic", ["66352+26"]),
  ("gran", "grantha", ["70400+3 1+7 2+1 2+21 1+6 1+1 1+4 2+8 2+1 2+2 2 6 5+6 2+6 3+4"]),
  ("grek", "greek", [
    "880+3 1+2 2+3 1 4 1 1+2 1 1+19 1+62 14+15 6438+4 50+4 4+4 84 320+21 2+5 2+37 2+5 2+7 1 1 1",
    "1+30 2+52 1+14 1+13 2+5 1+18 2+2 1+8 295 35390 21978+78 17 53343+69"]),
  ("gujr", "gujarati", ["2689+2 1+8 1+2 1+21 1+6 1+1 1+4 2+9 1+2 1+2 2 15+3 2+11 7+6"]),
  ("gong", "gunjalagondi", ["73056+5 1+1 1+36 1+1 1+5 7+9"]),
  ("guru", "gurmukhi", ["2561+2 1+5 4+1 2+21 1+6 1+1 1+1 1+1 2 1+4 4+1 2+2 3 7+3 1 7+16"]),
  ("gukh", "gurungkhema", ["90368+57"]),
  ("hani", "han", [
    "11904+25 1+88 12+213 47 1 25+8 14+3 964+6591 64+20991 22784+365 2+105 29960+1 12+1",
    "36878+42719 32+4153 6+221 2+5761 14+7472 15+621 2466+541 1506+4938 5+4191"]),
  ("hang", "hangul", [
    "4352+255 7726+1 257+93 113+30 65+30 30433+28 643+11171 12+22 4+48 10148+30 3+5 2+5 2+5 2+2"]),
  ("rohg", "hanifirohingya", ["68864+39 8+9"]),
  ("hano", "hanunoo", ["5920+20"]),
  ("hatr", "hatran", ["67808+18 1+1 5+4"]),
  ("hebr", "hebrew", ["1425+54 8+26 4+5 62760+25 1+4 1 1+1 1+1 1+9"]),
  ("hira", "hiragana", ["12353+85 6+2 98145+286 18 29+2 16557"]),
  ("armi", "imperialaramaic", ["67648+21 1+8"]),
  ("zinh", "inherited", [
    "768+111 277+1 452+10 26 736+3 4443+30 513+2 1+12 1+6 4 6 3+1 198+63 524+1 194+32 3897+3",
    "107+1 52581+15 16+13 975 226 4186 48068+45 2+22 544+2 17+7 2+6 30+3 798546+239"]),
  ("phli", "inscriptionalpahlavi", ["68448+18 5+7"]),
  ("prti", "inscriptionalparthian", ["68416+21 2+7"]),
  ("java", "javanese", ["43392+77 2+9 4+1"]),
  ("kthi", "kaithi", ["69760+66 10"]),
  ("knda", "kannada", ["3200+12 1+2 1+22 1+9 1+4 2+8 1+2 1+3 7+1 6+1 1+3 2+9 1+2"]),
  ("kana", "katakana", [
    "12449+89 2+2 240+15 208+46 1+87 52238+9 1+44 45138+3 1+6 1+1 1 287+2 50 14+3"]),
  ("kawi", "kawi", ["73472+16 1+40 3+28"]),
  ("kali", "kayahli", ["43264+45 1"]),
  ("khar", "kharoshthi", ["68096+3 1+1 5+7 1+2 1+28 2+2 4+9 7+8"]),
  ("kits", "khitansmallscript", ["94180 6939+469 41"]),
  ("khmr", "khmer", ["6016+93 2+9 6+9 486+31"]),
  ("khoj", "khojki", ["70144+17 1+46"]),
  ("sind", "khudawadi", ["70320+58 5+9"]),
  ("krai", "kiratrai", ["93504+57"]),
  ("laoo", "lao", ["3713+1 1 1+4 1+23 1 1+22 2+4 1 1+6 1+9 2+3"]),
  ("latn", "latin", [
    "65+25 6+25 47 15 5+22 1+30 1+448 39+4 6683+37 6+48 5+3 5+12 1+69 65+255 369 13 16+12 141+1",
    "6 27 17+40 2775+31 31394+101 3+66 2+1 1 1+7 21+13 816+42 1+8 1+3 20374+6 1050+25 6+25",
    "2085+5 1+41 1+8 55109+30 6+5"]),
  ("lepc", "lepcha", ["7168+55 3+14 3+2"]),
  ("limb", "limbu", ["6400+30 1+11 4+11 4 3+11"]),
  ("lina", "lineara", ["67072+310 9+21 10+7"]),
  ("linb", "linearb", ["65536+11 1+25 1+18 1+1 1+14 2+13 34+122"]),
  ("lisu", "lisu", ["42192+47 31408"]),
  ("lyci", "lycian", ["66176+28"]),
  ("lydi", "lydian", ["67872+25 5"]),
  ("mahj", "mahajani", ["69968+38"]),
  ("maka", "makasar", ["73440+24"]),
  ("mlym", "malayalam", ["3328+12 1+2 1+50 1+2 1+5 4+15 2+25"]),
  ("mand", "mandaic", ["2112+27 2"]),
  ("mani", "manichaean", ["68288+38 4+11"]),
  ("marc", "marchen", ["72816+31 2+21 1+13"]),
  ("gonm", "masaramgondi", ["72960+6 1+1 1+43 3 1+1 1+8 8+9"]),
  ("medf", "medefaidrin", ["93760+90"]),
  ("mtei", "meeteimayek", ["43744+22 201+45 2+9"]),
  ("mend", "mendekikakui", ["124928+196 2+15"]),
  ("merc", "meroiticcursive", ["68000+23 4+19 2+45"]),
  ("mero", "meroitichieroglyphs", ["67968+31"]),
  ("plrd", "miao", ["93952+74 4+56 7+16"]),
  ("modi", "modi", ["71168+68 11+9"]),
  ("mong", "mongolian", ["6144+1 2 1+19 6+88 7+42 64949+12"]),
  ("mroo", "mro", ["92736+30 1+9 4+1"]),
  ("mult", "multani", ["70272+6 1 1+3 1+14 1+10"]),
  ("mymr", "myanmar", ["4096+159 39232+30 97+31 27728+19"]),
  ("nbat", "nabataean", ["67712+30 8+8"]),
  ("nagm", "nagmundari", ["124112+41"]),
  ("nand", "nandinagari", ["72096+7 2+45 2+10"]),
  ("talu", "newtailue", ["6528+43 4+25 6+10 3+1"]),
  ("newa", "newa", ["70656+91 1+4"]),
  ("nkoo", "nko", ["1984+58 2+2"]),
  ("nshu", "nushu", ["94177 16782+395"]),
  ("hmnp", "nyiakengpuachuehmong", ["123136+44 3+13 2+9 4+1"]),
  ("ogam", "ogham", ["5760+28"]),
  ("olck", "olchiki", ["7248+47"]),
  ("onao", "olonal", ["124368+42 4"]),
  ("hung", "oldhungarian", ["68736+50 13+50 7+5"]),
  ("ital", "olditalic", ["66304+35 9+2"]),
  ("narb", "oldnortharabian", ["68224+31"]),
  ("perm", "oldpermic", ["66384+42"]),
  ("xpeo", "oldpersian", ["66464+35 4+13"]),
  ("sogo", "oldsogdian", ["69376+39"]),
  ("sarb", "oldsoutharabian", ["68192+31"]),
  ("orkh", "oldturkic", ["68608+72"]),
  ("ougr", "olduyghur", ["69488+25"]),
  ("orya", "oriya", ["2817+2 1+7 2+1 2+21 1+6 1+1 1+4 2+8 2+1 2+2 7+2 4+1 1+4 2+17"]),
  ("osge", "osage", ["66736+35 4+35"]),
  ("osma", "osmanya", ["66688+29 2+9"]),
  ("hmng", "pahawhhmong", ["92928+69 10+9 1+6 1+20 5+18"]),
  ("palm", "palmyrene", ["67680+31"]),
  ("pauc", "paucinhau", ["72384+56"]),
  ("phag", "phagspa", ["43072+55"]),
  ("phnx", "phoenician", ["67840+27 3"]),
  ("phlp", "psalterpahlavi", ["68480+17 7+3 12+6"]),
  ("rjng", "rejang", ["43312+35 11"]),
  ("runr", "runic", ["5792+74 3+10"]),
  ("samr", "samaritan", ["2048+45 2+14"]),
  ("saur", "saurashtra", ["43136+69 8+11"]),
  ("shrd", "sharada", ["70016+95"]),
  ("shaw", "shavian", ["66640+47"]),
  ("sidd", "siddham", ["71040+53 2+37"]),
  ("sgnw", "signwriting", ["120832+651 15+4 1+14"]),
  ("sinh", "sinhala", ["3457+2 1+17 3+23 1+8 1 2+6 3 4+5 1 1+7 6+9 2+2 66540+19"]),
  ("sogd", "sogdian", ["69424+41"]),
  ("sora", "sorasompeng", ["69840+24 7+9"]),
  ("soyo", "soyombo", ["72272+82"]),
  ("sund", "sundanese", ["7040+63 256+7"]),
  ("sunu", "sunuwar", ["72640+33 14+9"]),
  ("sylo", "sylotinagri", ["43008+44"]),
  ("syrc", "syriac", ["1792+13 1+59 2+2 272+10"]),
  ("tglg", "tagalog", ["5888+21 9"]),
  ("tagb", "tagbanwa", ["5984+12 1+2 1+1"]),
  ("tale", "taile", ["6480+29 2+4"]),
  ("lana", "taitham", ["6688+62 1+28 2+10 6+9 6+13"]),
  ("tavt", "taiviet", ["43648+66 24+4"]),
  ("takr", "takri", ["71296+57 6+9"]),
  ("taml", "tamil", [
    "2946+1 1+5 3+2 1+3 3+1 1 1+1 3+1 3+2 3+11 4+4 3+2 1+3 2 6 14+20 70597+49 13"]),
  ("tnsa", "tangsa", ["92784+78 1+9"]),
  ("tang", "tangut", ["94176 31+6135 8+767 512+8"]),
  ("telu", "telugu", ["3072+12 1+2 1+22 1+15 2+8 1+2 1+3 7+1 1+2 2 2+3 2+9 7+8"]),
  ("thaa", "thaana", ["1920+49"]),
  ("thai", "thai", ["3585+57 5+27"]),
  ("tibt", "tibetan", ["3840+71 1+35 4+38 1+35 1+14 1+6 4+1"]),
  ("tfng", "tifinagh", ["11568+55 7+1 14"]),
  ("tirh", "tirhuta", ["70784+71 8+9"]),
  ("todr", "todhri", ["67008+51"]),
  ("toto", "toto", ["123536+30"]),
  ("tutg", "tulutigalari", ["70528+9 1 2 1+37 1+9 1 2 1+3 1+9 1+1 8+1"]),
  ("ugar", "ugaritic", ["66432+29 1"]),
  ("vaii", "vai", ["42240+299"]),
  ("vith", "vithkuqi", ["66928+10 1+14 1+6 1+1 1+10 1+14 1+6 1+1"]),
  ("wcho", "wancho", ["123584+57 5"]),
  ("wara", "warangciti", ["71840+82 12"]),
  ("yezi", "yezidi", ["69248+41 1+2 2+1"]),
  ("yiii", "yi", ["40960+1164 3+54"]),
  ("zanb", "zanabazarsquare", ["72192+71"])]

-- Characters in use with other scripts than their own, by the codes of these.
def scriptUses : List (List String × List String) := [
  (["avst cari copt dupl elba geor glag gong goth grek hani latn lydi mahj perm shaw"], ["183"]),
  (["beng cyrl deva latn lisu thai toto"], ["700"]),
  (["bopo latn"], ["711 1+2 13"]),
  (["latn lisu"], ["717"]),
  (["latn thai"], ["727"]),
  (["cher copt cyrl grek latn perm sunu tale"], ["768"]),
  (["cher cyrl grek latn osge sunu tale todr"], ["769"]),
  (["cher cyrl latn tfng"], ["770"]),
  (["glag latn sunu syrc thai"], ["771"]),
  (["aghb cher copt cyrl goth grek latn osge syrc tfng todr"], ["772"]),
  (["copt elba glag goth kana latn"], ["773"]),
  (["cyrl grek latn perm tfng"], ["774"]),
  (["copt dupl hebr latn perm syrc tale tfng todr"], ["775"]),
  (["armn cyrl dupl goth grek hebr latn perm syrc tale tfng"], ["776"]),
  (["latn tfng"], ["777"]),
  (["dupl latn syrc"], ["778"]),
  (["cher cyrl latn osge"], ["779"]),
  (["cher latn tale"], ["780"]),
  (["latn sunu"], ["781 2"]),
  (["ethi latn"], ["782"]),
  (["cyrl latn todr"], ["785"]),
  (["grek latn perm todr"], ["787"]),
  (["cher dupl kana latn syrc tfng"], ["803"]),
  (["cher dupl latn syrc"], ["804"]),
  (["latn syrc"], ["805 8"]),
  (["latn sunu syrc"], ["813"]),
  (["cher latn syrc"], ["816"]),
  (["aghb cher goth latn sunu syrc thai"], ["817"]),
  (["grek"], ["834 2 6778+1"]),
  (["latn osge"], ["856"]),
  (["aghb latn todr"], ["862"]),
  (["latn"], ["867+12"]),
  (["copt grek"], ["884+1"]),
  (["cyrl perm"], ["1155"]),
  (["cyrl glag"], ["1156 2 10683 30763"]),
  (["cyrl latn"], ["1157+1"]),
  (["armn geor glag"], ["1417"]),
  (["arab gara nkoo rohg syrc thaa yezi"], ["1548 14"]),
  (["arab syrc thaa"], ["1564"]),
  (["adlm arab gara nkoo rohg syrc thaa yezi"], ["1567"]),
  (["adlm arab mand mani ougr phlp rohg sogd syrc"], ["1600"]),
  (["arab syrc"], ["1611+10 26"]),
  (["arab thaa yezi"], ["1632+9"]),
  (["arab rohg"], ["1748"]),
  (["beng deva gran gujr guru knda latn mlym nand newa orya shrd taml telu tirh"], ["2385"]),
  (["beng deva gran gujr guru knda latn mlym newa orya taml telu tirh"], ["2386"]),
  ([
    "beng deva dogr gong gonm gran gujr guru knda mahj mlym nand onao orya sind sinh sylo takr",
    "taml telu tirh"], [
    "2404"]),
  ([
    "beng deva dogr gong gonm gran gujr gukh guru knda limb mahj mlym nand onao orya sind sinh",
    "sylo takr taml telu tirh"], [
    "2405"]),
  (["deva dogr kthi mahj"], ["2406+9"]),
  (["beng cakm sylo"], ["2534+9"]),
  (["guru mult"], ["2662+9"]),
  (["gujr khoj"], ["2790+9"]),
  (["gran taml"], ["3046+13 67341 1 55+1 3219+1 1"]),
  (["knda nand tutg"], ["3302+9"]),
  (["cakm mymr tale"], ["4160+9"]),
  (["geor glag latn"], ["4347"]),
  (["runr"], ["5867+2"]),
  (["buhd hano tagb tglg"], ["5941+1"]),
  (["mong phag"], ["6146+1 1"]),
  (["beng deva gran knda"], ["7376 1"]),
  (["deva"], ["7377 2 6 2+1 3+5 3 1+3"]),
  (["deva gran knda"], ["7379"]),
  (["beng deva newa telu tirh"], ["7381"]),
  (["beng deva telu"], ["7382"]),
  (["deva newa shrd"], ["7383"]),
  (["beng deva newa telu"], ["7384"]),
  (["deva shrd"], ["7385 2+1 2"]),
  (["deva knda mlym orya taml telu"], ["7386"]),
  (["beng deva"], ["7393 19+1"]),
  (["deva newa tirh"], ["7394"]),
  (["deva nand newa"], ["7401"]),
  (["beng deva shrd"], ["7402"]),
  (["deva newa"], ["7403"]),
  (["beng deva newa shrd"], ["7405"]),
  (["beng deva gran knda mlym nand orya sinh telu tirh tutg"], ["7410"]),
  (["deva gran"], ["7411 4+1"]),
  (["deva gran knda tutg"], ["7412"]),
  (["beng"], ["7415"]),
  (["nand"], ["7418"]),
  (["cyrl latn syrc"], ["7672"]),
  (["syrc"], ["7674"]),
  (["latn mong phag"], ["8239"]),
  (["adlm arab"], ["8271"]),
  (["cari geor glag hung lyci orkh"], ["8282"]),
  (["cari grek hung mero"], ["8285"]),
  (["deva gran latn"], ["8432"]),
  (["copt latn"], ["11799"]),
  (["avst orkh"], ["11824"]),
  (["avst cari geor hung kthi lydi samr"], ["11825"]),
  (["dupl"], ["11836 101987+3"]),
  (["adlm arab hung"], ["11841"]),
  (["hani tang"], ["12272+15 495"]),
  (["bopo hang hani hira kana mong yiii"], ["12289"]),
  (["bopo hang hani hira kana mong phag yiii"], ["12290"]),
  (["bopo hang hani hira kana"], ["12291 15 8+3 16 6 52749+1"]),
  (["hani"], ["12294 55+1 336+15 32+37 58+39 56+48 15+11 51 88+24 10+4 96+30 106337+17 7902+1"]),
  (["bopo hang hani hira kana mong tibt yiii"], ["12296+1"]),
  (["bopo hang hani hira kana lisu mong tibt yiii"], ["12298+1"]),
  (["bopo hang hani hira kana yiii"], ["12300+5 2+7 223 52837+4"]),
  (["bopo hani"], ["12330+3"]),
  (["hira kana"], ["12337+4 99+3 3 91 52851 45+1"]),
  (["hani hira kana"], ["12348+1"]),
  (["hani latn"], ["42752+7"]),
  ([
    "deva dogr gujr guru khoj knda kthi mahj mlym modi nand shrd sind takr tirh tutg"], [
    "43056+2"]),
  (["deva dogr gujr guru khoj knda kthi mahj modi nand shrd sind takr tirh tutg"], ["43059+2"]),
  (["deva dogr gujr guru khoj kthi mahj modi sind takr tirh"], ["43062+1 1"]),
  (["deva dogr gujr guru khoj kthi mahj modi shrd sind takr tirh"], ["43064"]),
  (["beng deva tutg"], ["43249"]),
  (["deva taml"], ["43251"]),
  (["kali latn mymr"], ["43310"]),
  (["bugi java"], ["43471"]),
  (["arab nkoo"], ["64830+1"]),
  (["arab thaa"], ["65010 10"]),
  (["cpmn cprt linb"], ["65792+1"]),
  (["cprt linb"], ["65794 52+8"]),
  (["cprt lina linb"], ["65799+44"]),
  (["arab copt"], ["66272+27"]),
  (["mani ougr"], ["68338"])]

end CharSet
end EdgeIncludes
