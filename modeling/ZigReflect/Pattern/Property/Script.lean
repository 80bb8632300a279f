import ZigReflect.Pattern.Property.Coded

/-!
# Scripts

Every character belongs to one script, and some are used in other scripts as well.
The characters that are used in a script are its own with some added and some,
of the common ones, left out.
-/

namespace ZigReflect.Pattern

/-- A script. -/
structure Script where
  names : List String
  /-- Its own characters. -/
  own : List String
  /-- The characters of other scripts that are used in it. -/
  added : List String
  /-- Its own characters that are used only in other scripts. -/
  removed : List String

/-- The scripts. -/
def scripts : List Script := [
    ⟨["adlm", "adlam"], ["2olc 24 4 a 4 2"], ["17j 1 w 1 55a 1 2r5 1"], []⟩,
    ⟨["aghb", "caucasianalbanian"], ["1flc 1g b 1"], ["lg 1 18 1 18 1"], []⟩,
    ⟨["ahom"], ["1j40 r 2 f 4 n"], [], []⟩,
    ⟨["arab", "arabic"], [
      "16o 5 1 6 1 e 1 3 1 w 1 a b q 1 30 1 y 28 1c 6o v 1 2 5 23 1 t 1bv4 37 g a3 2 28 2 1i 7 1",
      "w g 34 5 1 3r 31f v 1v 3 1j 4 181s 4 1 r 1 2 1 1 2 1 1 a 1 4 1 1 1 1 6 1 4 1 1 1 1 1 1 3",
      "1 2 1 1 2 1 1 1 1 1 1 1 1 1 1 2 1 1 2 4 1 7 1 4 1 4 1 1 1 a 1 h 5 3 1 5 1 h 1g 2"], [
      "170 1 e 1 3 1 w 1 a b q 1 53y 1 2r5 1 14vw 2 140 s"], []⟩,
    ⟨["armi", "imperialaramaic"], ["1g74 m 1 9"], [], []⟩,
    ⟨["armn", "armenian"], ["10x 12 2 1e 2 3 1chv 5"], ["lk 1"], []⟩,
    ⟨["avst", "avestan"], ["1gqo 1i 3 7"], ["53 1 8zc 2"], []⟩,
    ⟨["bali", "balinese"], ["5c0 25 1 1e"], [], []⟩,
    ⟨["bamu", "bamum"], ["www 2g 124o ft"], [], []⟩,
    ⟨["bass", "bassavah"], ["1zo0 u 2 6"], [], []⟩,
    ⟨["batk", "batak"], ["5hc 1g 8 4"], [], []⟩,
    ⟨["beng", "bengali"], ["1vk 4 1 8 2 2 2 m 1 7 1 1 3 4 2 9 2 2 2 4 8 1 4 2 1 5 2 p"], [
      "jg 1 1as 2 h 2 3u2 1 1 1 2 2 1 1 8 1 8 1 2 1 4 1 2 3 rnd 1"], []⟩,
    ⟨["bhks", "bhaiksuki"], ["1k3k 9 1 19 1 e a t"], [], []⟩,
    ⟨["bopo", "bopomofo"], ["kq 2 93t 17 34 w"], [
      "jr 1 1 3 d 1 8x3 3 4 a 1 d a 4 2 1 6 1 5f 1 14jt 2 7u 5"], []⟩,
    ⟨["brah", "brahmi"], ["1hq8 26 4 10 9 1"], [], []⟩,
    ⟨["brai", "braille"], ["7wg 74"], [], []⟩,
    ⟨["bugi", "buginese"], ["54w s 2 2"], ["xjj 1"], []⟩,
    ⟨["buhd", "buhid"], ["4lc k"], ["4l1 2"], []⟩,
    ⟨["cakm", "chakma"], ["1hxc 1h 1 i"], ["1ye a 18w a"], []⟩,
    ⟨["cans", "canadianaboriginal"], ["3y8 hs fk 1y 1ewq g"], [], []⟩,
    ⟨["cari", "carian"], ["1f34 1d"], ["53 1 68y 1 2 1 2qb 1"], []⟩,
    ⟨["cham"], ["xkw 1j 9 e 2 a 2 4"], [], []⟩,
    ⟨["cher", "cherokee"], ["3vk 2e 2 6 twy 28"], ["lc 3 1 1 6 2 m 2 b 2"], []⟩,
    ⟨["chrs", "chorasmian"], ["1ho0 s"], [], []⟩,
    ⟨["copt", "coptic", "qaac"], ["rm e 80g 38 5 7"], ["53 1 g8 1 3 2 1 1 30 2 8f5 1 1614 s"], []⟩,
    ⟨["cpmn", "cyprominoan"], ["1nyo 2r"], ["1erk 2"], []⟩,
    ⟨["cprt", "cypriot"], ["1g5c 6 2 1 1 18 1 2 3 1 2 1"], ["1erk 3 4 19 3 9"], []⟩,
    ⟨["cyrl", "cyrillic"], ["sg 3p 2 4p 4ls b 4g 1 24 1 38n w nr4 2o ham 2 18n4 1q x 1"], [
      "jg 1 1v 3 1 1 1 1 1 1 2 1 5 1 ab 2 50x 1 37u 1"], []⟩,
    ⟨["deva", "devanagari"], ["1s0 29 4 f 2 q vhc w mio a"], [
      "jg 1 1as 2 h 2 3u2 13 1 2 s6 1 qpr a"], []⟩,
    ⟨["diak", "divesakuru"], ["1ji8 7 2 1 2 8 1 2 1 u 1 2 2 c 9 a"], [], []⟩,
    ⟨["dogr", "dogra"], ["1jb4 1o"], ["1us c vcw a"], []⟩,
    ⟨["dsrt", "deseret"], ["1fcw 28"], [], []⟩,
    ⟨["dupl", "duployan"], ["2fpc 2z 5 d 3 9 7 a 2 4"], ["53 1 gf 2 1 1 o 2 8if 1 26oz 4"], []⟩,
    ⟨["egyp", "egyptianhieroglyphs"], ["1o1s uu a 32z"], [], []⟩,
    ⟨["elba", "elbasan"], ["1fk0 14"], ["53 1 gd 1"], []⟩,
    ⟨["elym", "elymaic"], ["1hpc n"], [], []⟩,
    ⟨["ethi", "ethiopic"], [
      "3k0 21 1 4 2 7 1 1 1 4 2 15 1 4 2 x 1 4 2 7 1 1 1 4 2 f 1 1l 1 4 2 1v 2 w 3 q 546 n 9 7 1",
      "7 1 7 1 7 1 7 1 7 1 7 1 7 opu 6 2 6 2 6 9 7 1 7 1qk1 7 1 4 1 2 1 f"], ["lq 1"], []⟩,
    ⟨["geor", "georgian"], ["3a8 12 1 1 5 1 2 17 1 4 2a8 17 2 3 37k 12 1 1 5 1"], [
      "53 1 y9 1 29d 1 31a 1 2qe 1"], []⟩,
    ⟨["glag", "glagolitic"], ["8ow 2o 2e1s 7 1 h 2 7 1 2 1 5"], [
      "53 1 gb 1 1 1 am 1 2 1 75 1 29d 1 31a 1 2qw 1 nqj 1"], []⟩,
    ⟨["gong", "gunjalagondi"], ["1kdc 6 1 2 1 11 1 2 1 6 7 a"], ["53 1 1po 2"], []⟩,
    ⟨["gonm", "masaramgondi"], ["1kao 7 1 2 1 18 3 1 1 2 1 9 8 a"], ["1us 2"], []⟩,
    ⟨["goth", "gothic"], ["1f74 r"], ["53 1 gc 2 2 1 14 1"], []⟩,
    ⟨["gran", "grantha"], ["1ibk 4 1 8 2 2 2 m 1 7 1 2 1 5 2 9 2 2 2 3 2 1 6 1 5 7 2 7 3 5"], [
      "1u9 2 h 2 hs e 3bw 1 1 2 u 3 3 2 s6 1 1buy 1 2hg 2 1 1"], []⟩,
    ⟨["grek", "greek"], [
      "og 4 1 3 2 4 1 1 4 1 1 1 1 3 1 1 1 k 1 1r e g 4yu 5 1e 5 4 5 2c 1 8w m 2 6 2 12 2 6 2 8 1",
      "1 1 1 1 1 1 v 2 1h 1 f 1 e 2 6 1 j 2 3 1 9 87 1 rb2 1 gyi 27 h 1 155r 1y"], [
      "53 1 g8 2 2 1 1 1 1 1 a 1 1a 1 2 1 1a 1 56z 2 ij 1"], []⟩,
    ⟨["gujr", "gujarati"], ["22p 3 1 9 1 3 1 m 1 7 1 2 1 5 2 a 1 3 1 3 2 1 f 4 2 c 7 7"], [
      "1u9 2 h 2 vd6 a"], []⟩,
    ⟨["guru", "gurmukhi"], ["1z5 3 1 6 4 2 2 m 1 7 1 2 1 2 1 2 2 1 1 5 4 2 2 3 3 1 7 4 1 1 7 h"], [
      "1u9 2 h 2 vd6 a"], []⟩,
    ⟨["hang", "hangul"], [
      "3cw 74 5ym 2 75 2m 35 v 1t v nhd t hv 8mc c n 4 1d 7tw v 3 6 2 6 2 6 2 3"], [
      "9hd 3 4 a 1 d g 1 6 1 5f 1 14jt 2 7u 5"], []⟩,
    ⟨["hani", "han"], [
      "96o q 1 2h c 5y 1b 1 1 1 p 9 e 4 qs 534 1s g74 hkw a6 2 2y n48 2 c 2 sge wyo w 37e 6 66 2",
      "4g2 e 5rl f ha 1wi f2 15u 3t7 5 38g"], [
      "53 1 9bs g 1 3 2 1 1 a 1 d a 4 2 1 6 1 4 4 57 1 44 g w 12 9 1 1c 14 1k 1d f c 1f 1 2g p a",
      "5 2o v mpt 8 h8d 2 7u 5 15ve i 63i 2"], []⟩,
    ⟨["hano", "hanunoo"], ["4kg l"], ["4l1 2"], []⟩,
    ⟨["hatr", "hatran"], ["1gbk j 1 2 5 5"], [], []⟩,
    ⟨["hebr", "hebrew"], ["13l 1j 8 r 4 6 1cfc q 1 5 1 1 1 2 1 2 1 a"], ["lj 2"], []⟩,
    ⟨["hira", "hiragana"], ["9j5 2e 6 3 23q9 7z i 1 t 3 crx 1"], [
      "9hd 3 4 a 1 d g 6 1 1 4 2 2j 4 3 1 2i 2 14js 2 7u 5 a 1 19 2"], []⟩,
    ⟨["hluw", "anatolianhieroglyphs"], ["1s00 g7"], [], []⟩,
    ⟨["hmng", "pahawhhmong"], ["1zpc 1y a a 1 7 1 l 5 j"], [], []⟩,
    ⟨["hmnp", "nyiakengpuachuehmong"], ["2n0g 19 3 e 2 a 4 2"], [], []⟩,
    ⟨["hung", "oldhungarian"], ["1h1c 1f d 1f 7 6"], ["6e2 1 2 1 2qb 1 f 1"], []⟩,
    ⟨["ital", "olditalic"], ["1f5s 10 9 3"], [], []⟩,
    ⟨["java", "javanese"], ["xhc 26 2 a 4 2"], ["xjj 1"], []⟩,
    ⟨["kali", "kayahli"], ["xds 1a 1 1"], ["xf2 1"], []⟩,
    ⟨["kana", "katakana"], [
      "9lt 2i 2 3 6o g 5s 1b 1 2g 14b2 a 1 19 ytu 4 1 7 1 2 1 1 7z 3 1e 1 e 4"], [
      "lh 1 t 1 8v1 3 4 a 1 d g 6 1 1 4 2 2j 4 3 1 2i 2 14js 2 7u 5 a 1 19 2"], []⟩,
    ⟨["kawi"], ["1kow h 1 15 3 t"], [], []⟩,
    ⟨["khar", "kharoshthi"], ["1gjk 4 1 2 5 8 1 3 1 t 2 3 4 a 7 9"], [], []⟩,
    ⟨["khmr", "khmer"], ["4n4 2m 2 a 6 a di w"], [], []⟩,
    ⟨["khoj", "khojki"], ["1i4g i 1 1b"], ["25i a v28 a"], []⟩,
    ⟨["kits", "khitansmallscript"], ["20o4 1 5cr d2 15 1"], [], []⟩,
    ⟨["knda", "kannada"], ["2gw d 1 3 1 n 1 a 1 5 2 9 1 3 1 4 7 2 6 2 1 4 2 a 1 3"], [
      "1u9 2 h 2 3u2 1 1 2 6 1 n 1 1 1 ri3 6"], []⟩,
    ⟨["kthi", "kaithi"], ["1hts 1v a 1"], ["1uu a 79d 1 o3i a"], []⟩,
    ⟨["lana", "taitham"], ["55s 1r 1 t 2 b 6 a 6 e"], [], []⟩,
    ⟨["laoo", "lao"], ["2v5 2 1 1 1 5 1 o 1 1 1 n 2 5 1 1 1 7 1 a 2 4"], [], []⟩,
    ⟨["latn", "latin"], [
      "1t q 6 q 1b 1 f 1 5 n 1 v 1 ch 13 5 55n 12 6 1d 5 4 5 d 1 1y 1t 74 a9 1 d 1 g d 3x 2 6 1",
      "r 1 h 15 253 w o82 2u 3 1v 2 2 1 1 1 8 l e mo 17 1 9 1 4 fpy 7 t6 q 6 q 1lx 6 1 16 1 9",
      "16it v 6 6"], [
      "53 1 ec 1 a 1 1 3 1 1 9 1 1 1 12 f 1 2 1 1 f 3 7 2 1 2 12 1 5 1 4 d 7p 2 y2 2 1ig 1 2kc 1",
      "fq 1 5c 1 2li 1 nvs 8 fa 1"], []⟩,
    ⟨["lepc", "lepcha"], ["5j4 1k 3 f 3 3"], [], []⟩,
    ⟨["limb", "limbu"], ["4xs v 1 c 4 c 4 1 3 c"], ["1ut 1"], []⟩,
    ⟨["lina", "lineara"], ["1fr4 8n 9 m a 8"], ["1err 19"], []⟩,
    ⟨["linb", "linearb"], ["1ekg c 1 q 1 j 1 2 1 f 2 e y 3f"], ["1erk 3 4 19 3 9"], []⟩,
    ⟨["lisu"], ["wk0 1c o8g 1"], ["jg 1 g 1 8xo 2"], []⟩,
    ⟨["lyci", "lycian"], ["1f28 t"], ["6e2 1"], []⟩,
    ⟨["lydi", "lydian"], ["1gdc q 5 1"], ["53 1 8zd 1"], []⟩,
    ⟨["mahj", "mahajani"], ["1hzk 13"], ["53 1 1po c vcw a"], []⟩,
    ⟨["maka", "makasar"], ["1ko0 p"], [], []⟩,
    ⟨["mand", "mandaic"], ["1mo s 2 1"], ["18g 1"], []⟩,
    ⟨["mani", "manichaean"], ["1gow 13 4 c"], ["18g 1"], []⟩,
    ⟨["marc", "marchen"], ["1k6o w 2 m 1 e"], [], []⟩,
    ⟨["medf", "medefaidrin"], ["20cg 2j"], [], []⟩,
    ⟨["mend", "mendekikakui"], ["2oe8 5h 2 g"], [], []⟩,
    ⟨["merc", "meroiticcursive"], ["1ggw o 4 k 2 1a"], [], []⟩,
    ⟨["mero", "meroitichieroglyphs"], ["1gg0 w"], ["6e5 1"], []⟩,
    ⟨["mlym", "malayalam"], ["2kg d 1 3 1 1f 1 3 1 6 4 g 2 q"], ["1u9 2 h 2 3uc 1 n 1 ri5 3"], []⟩,
    ⟨["modi"], ["1iww 1x b a"], ["x80 a"], []⟩,
    ⟨["mong", "mongolian"], ["4qo 2 2 1 1 k 6 2h 7 17 1e45 d"], ["4qq 2 1 1 1m1 1 34h 2 5 4"], []⟩,
    ⟨["mroo", "mro"], ["1zk0 v 1 a 4 2"], [], []⟩,
    ⟨["mtei", "meeteimayek"], ["xr4 n 5l 1a 2 a"], [], []⟩,
    ⟨["mult", "multani"], ["1i80 7 1 1 1 4 1 f 1 b"], ["21y a"], []⟩,
    ⟨["mymr", "myanmar"], ["35s 4g u9s v 2p w le8 k"], ["xf2 1"], []⟩,
    ⟨["nagm", "nagmundari"], ["2nrk 16"], [], []⟩,
    ⟨["nand", "nandinagari"], ["1jmo 8 2 1a 2 b"], ["1u9 1 i 2 ow a 35l 1 8 1 7 1 rhx 6"], []⟩,
    ⟨["narb", "oldnortharabian"], ["1gn4 w"], [], []⟩,
    ⟨["nbat", "nabataean"], ["1g8w v 8 9"], [], []⟩,
    ⟨["newa"], ["1iio 2k 1 5"], ["1u9 2 3uq 1 1 2 9 1 6 1 1 1 1 1"], []⟩,
    ⟨["nkoo", "nko"], ["1j4 1n 2 3"], ["170 1 e 1 3 1 1cta 2"], []⟩,
    ⟨["nshu", "nushu"], ["20o1 1 cy6 b0"], [], []⟩,
    ⟨["ogam", "ogham"], ["4g0 t"], [], []⟩,
    ⟨["olck", "olchiki"], ["5lc 1c"], [], []⟩,
    ⟨["orkh", "oldturkic"], ["1gxs 21"], ["6e2 1 2qd 1"], []⟩,
    ⟨["orya", "oriya"], ["269 3 1 8 2 2 2 m 1 7 1 2 1 5 2 9 2 2 2 3 7 3 4 2 1 5 2 i"], [
      "1u9 2 h 2 3uc 1 n 1"], []⟩,
    ⟨["osge", "osage"], ["1fhs 10 4 10"], ["ld 1 2 1 6 1 24 1"], []⟩,
    ⟨["osma", "osmanya"], ["1fgg u 2 a"], [], []⟩,
    ⟨["ougr", "olduyghur"], ["1hm8 q"], ["18g 1 1fht 1"], []⟩,
    ⟨["palm", "palmyrene"], ["1g80 w"], [], []⟩,
    ⟨["pauc", "paucinhau"], ["1juo 1l"], [], []⟩,
    ⟨["perm", "oldpermic"], ["1f80 17"], ["53 1 g8 1 5 3 a 1 a7 1"], []⟩,
    ⟨["phag", "phagspa"], ["x8g 1k"], ["4qq 2 1 1 1m1 1 34i 1"], []⟩,
    ⟨["phli", "inscriptionalpahlavi"], ["1gtc j 5 8"], [], []⟩,
    ⟨["phlp", "psalterpahlavi"], ["1gu8 i 7 4 c 7"], ["18g 1"], []⟩,
    ⟨["phnx", "phoenician"], ["1gcg s 3 1"], [], []⟩,
    ⟨["plrd", "miao"], ["20hs 23 4 1l 7 h"], [], []⟩,
    ⟨["prti", "inscriptionalparthian"], ["1gsg m 2 8"], [], []⟩,
    ⟨["rjng", "rejang"], ["xf4 10 b 1"], [], []⟩,
    ⟨["rohg", "hanifirohingya"], ["1h4w 14 8 a"], ["170 1 e 1 3 1 w 1 43 1"], []⟩,
    ⟨["runr", "runic"], ["4gw 23 3 b"], ["4iz 3"], []⟩,
    ⟨["samr", "samaritan"], ["1kw 1a 2 f"], ["94h 1"], []⟩,
    ⟨["sarb", "oldsoutharabian"], ["1gm8 w"], [], []⟩,
    ⟨["saur", "saurashtra"], ["xa8 1y 8 c"], [], []⟩,
    ⟨["sgnw", "signwriting"], ["2l8g i4 f 5 1 f"], [], []⟩,
    ⟨["shaw", "shavian"], ["1ff4 1c"], ["53 1"], []⟩,
    ⟨["shrd", "sharada"], ["1i0w 2o"], ["1u9 1 3ut 1 1 1 2 2 2 1 9 1 2 1 ria 6 2 1"], []⟩,
    ⟨["sidd", "siddham"], ["1itc 1i 2 12"], [], []⟩,
    ⟨["sind", "khudawadi"], ["1i9c 1n 5 a"], ["1us 2 vd6 a"], []⟩,
    ⟨["sinh", "sinhala"], ["2o1 3 1 i 3 o 1 9 1 1 2 7 3 1 4 6 1 1 1 8 6 a 2 3 1fcc k"], [
      "1us 2 3v0 1"], []⟩,
    ⟨["sogd", "sogdian"], ["1hkg 16"], ["18g 1"], []⟩,
    ⟨["sogo", "oldsogdian"], ["1hj4 14"], [], []⟩,
    ⟨["sora", "sorasompeng"], ["1hw0 p 7 a"], [], []⟩,
    ⟨["soyo", "soyombo"], ["1jrk 2b"], [], []⟩,
    ⟨["sund", "sundanese"], ["5fk 1s 74 8"], [], []⟩,
    ⟨["sylo", "sylotinagri"], ["x6o 19"], ["1us 2 3k a"], []⟩,
    ⟨["syrc", "syriac"], ["1ds e 1 1o 2 3 7k b"], [
      "lf 2 2 2 1 1 o 3 7 2 1 2 ka 1 e 2 2 1 w 1 a b q 1 4nb 1 1 1"], []⟩,
    ⟨["tagb", "tagbanwa"], ["4m8 d 1 3 1 2"], ["4l1 2"], []⟩,
    ⟨["takr", "takri"], ["1j0g 1m 6 a"], ["1us 2 vd6 a"], []⟩,
    ⟨["tale", "taile"], ["500 u 2 5"], ["lc 2 5 2 3 1 2lv a"], []⟩,
    ⟨["talu", "newtailue"], ["51c 18 4 q 6 b 3 2"], [], []⟩,
    ⟨["taml", "tamil"], [
      "29u 2 1 6 3 3 1 4 3 2 1 1 1 2 3 2 3 3 3 c 4 5 3 3 1 4 2 1 6 1 e l 1ih1 1e d 1"], [
      "1u9 2 h 2 3uc 1 ro8 1 ky5 1 1 1 1j 2"], []⟩,
    ⟨["tang", "tangut"], ["20o0 1 v 4qg 8 lc e8 9"], ["9gw g dr 1"], []⟩,
    ⟨["tavt", "taiviet"], ["xog 1v o 5"], [], []⟩,
    ⟨["telu", "telugu"], ["2dc d 1 3 1 n 1 g 2 9 1 3 1 4 7 2 1 3 2 1 2 4 2 a 7 9"], [
      "1u9 2 h 2 3u7 2 1 1 1 1 n 1"], []⟩,
    ⟨["tfng", "tifinagh"], ["8xc 1k 7 2 e 1"], ["le 1 1 1 1 4 p 1"], []⟩,
    ⟨["tglg", "tagalog"], ["4jk m 9 1"], ["4l1 2"], []⟩,
    ⟨["thaa", "thaana"], ["1hc 1e"], ["170 1 e 2 2 1 1s a 1cw8 1 a 1"], []⟩,
    ⟨["thai"], ["2rl 1m 5 s"], ["jg 1 q 1 17 1 19 1"], []⟩,
    ⟨["tibt", "tibetan"], ["2yo 20 1 10 4 13 1 10 1 f 1 7 4 2"], ["9hk 4"], []⟩,
    ⟨["tirh", "tirhuta"], ["1im8 20 8 a"], ["1u9 2 h 2 3u7 1 c 1 f 1 ri5 a"], []⟩,
    ⟨["tnsa", "tangsa"], ["1zlc 27 1 a"], [], []⟩,
    ⟨["toto"], ["2nbk v"], ["jg 1"], []⟩,
    ⟨["ugar", "ugaritic"], ["1f9c u 1 1"], [], []⟩,
    ⟨["vaii", "vai"], ["wlc 8c"], [], []⟩,
    ⟨["vith", "vithkuqi"], ["1fn4 b 1 f 1 7 1 2 1 b 1 f 1 7 1 2"], [], []⟩,
    ⟨["wara", "warangciti"], ["1jfk 2b c 1"], [], []⟩,
    ⟨["wcho", "wancho"], ["2ncw 1m 5 1"], [], []⟩,
    ⟨["xpeo", "oldpersian"], ["1fa8 10 4 e"], [], []⟩,
    ⟨["xsux", "cuneiform"], ["1kw0 pm 2u 33 1 5 b 5g"], [], []⟩,
    ⟨["yezi", "yezidi"], ["1hfk 16 1 3 2 2"], ["170 1 e 1 3 1 1s a"], []⟩,
    ⟨["yiii", "yi"], ["vls wd 3 1j"], ["9hd 2 5 a 2 8 67 1 14rp 5"], []⟩,
    ⟨["zanb", "zanabazarsquare"], ["1jpc 20"], [], []⟩,
    ⟨["zinh", "inherited", "qaai"], [
      "lc 34 7p 2 ck b q 1 kg 4 3ff v e9 3 1 d 1 7 4 1 6 1 3 2 5i 1s ek 2 5e x 309 4 2z 2 14kl g",
      "g e r3 1 6a 1 38a 1 1138 1a 2 n f4 3 h 8 2 7 u 4 h45u 6o"], [], [
      "lc f 1 2 1 1 f 3 7 2 1 2 g 1 2 1 i 1 5 1 4 d 7p 2 ck b q 1 kg 2 3ul 3 1 d 1 7 4 1 6 1 3 2",
      "5i 2 1i 1 1 1 l1 1 309 4 2z 2 15j9 1 38a 1"]⟩,
    ⟨["zyyy", "common"], [
      "0 1t q 6 q 1b 1 f 1 5 n 1 v 1 ch 13 5 5 2 k 38 1 9 1 6 1 1 1 hp 1 6 1 e 1 3 1 w 1 4c 1 ec",
      "1 3l 2 yh 1 b9 4 82 1 167 3 1z 2 5n 2 1 1 y5 1 d 1 7 4 1 6 1 3 2 1 lh c 2 2f 1 b 3 b 1 f",
      "h x 1r 12 1 3 2 6 1 r 1 h 15 3 4 ii m b l ps 74 hg 2 w 1 2x e8 2m b6 l 1 1 1 p f 8 4 4 2j",
      "2 3 1 2i 2 43 g w 12 9 1 1c 1s v 29 1b 1 2g 4o 534 1s hkw y 2u 3 4l a 6s 1 4g 1 az 1 e 2",
      "g5u 2 5s a m z 1 j 1 4 43 1 1 w q 6 q b a 1 19 2 1s 7 1 7 a 5 76 3 4 19 3 9 28 d 1f 19 6c",
      "r 10o4 4 318 6y 6 c4 4c 38 1o 6u a 13 2 1q 3 h 8 2 7 u 4 1p 5x k c k c 2f 9 p 3r 2d 1 1z",
      "1 2 2 1 2 2 2 4 1 c 1 1 1 7 1 1t 1 4 2 8 1 7 1 s 1 4 1 5 1 1 3 7 1 9g 2 84 2 1e 41d 1w 24",
      "1p jm 18 4 2s c f 2 f 1 f 1 11 a 4u 1k q 1 2 d 18 4 9 7 2 e 6 4a rc 4 h 3 d 3 3b 4 2n 6 c",
      "4 1 f c 4 1k 8 a 6 14 8 u 2 c 4 2 1q 9g c e 2 d 3 a 5 1k 7 f 2 b 6 9 7 43 1 2u gvlz 1 u",
      "2o"], [], [
      "53 1 ec 1 a 1 1 3 1 1 9 1 1 1 4a 1 if 1 e 1 3 1 w 1 mb 2 1hx 1 167 3 1z 2 5n 2 1 1 y5 1 d",
      "1 7 4 1 6 1 3 2 1 ms 1 v 1 a 1 2 1 2pl 1 o 2 a 1 4 1 1 1 bw g 1 3 2 1 1 a 1 d g 6 1 1 4 4",
      "2j 2 3 1 2i 2 43 g w 12 9 1 1c 14 1k 1d f c 1f 1 2g p a 5 2o v mpt 8 88 a 6s 1 4g 1 gha 2",
      "79 2 7u 5 a 1 19 2 9s 3 4 19 3 9 bl r 10o4 4 4ho i 63i 2"]⟩,
    ⟨["gara", "garay"], ["1h6o 12 3 t 8 2"], ["170 1 e 1 3 1"], []⟩,
    ⟨["gukh", "gurungkhema"], ["1xq8 1m"], ["1ut 1"], []⟩,
    ⟨["krai", "kiratrai"], ["205c 1m"], [], []⟩,
    ⟨["onao", "olonal"], ["2nyo 17 4 1"], ["1us 2"], []⟩,
    ⟨["sunu", "sunuwar"], ["1k1s y e a"], ["lc 2 1 1 9 1 2 1 s 1 3 1"], []⟩,
    ⟨["todr", "todhri"], ["1fpc 1g"], ["ld 1 2 1 2 1 9 1 1 1 22 1"], []⟩,
    ⟨["tutg", "tulutigalari"], ["1if4 a 1 1 2 1 1 12 1 a 1 1 2 1 1 4 1 a 1 2 8 2"], [
      "2jq a 35u 1 1 1 ri3 6 57 1"], []⟩]

/-- The script with a name. -/
def scriptNamed? (name : String) : Option Script := scripts.find? (·.names.contains name)

/-- The characters that belong to a script. -/
def script? (name : String) : Option CharSet := (scriptNamed? name).map fun s => .coded s.own

/-- The characters that are used in a script. -/
def scriptUse? (name : String) : Option CharSet :=
  (scriptNamed? name).map fun s =>
    ((CharSet.coded s.own).union (.coded s.added)).difference (.coded s.removed)

end ZigReflect.Pattern
