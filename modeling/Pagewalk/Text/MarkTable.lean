import Pagewalk.Text.Ranges

/-!
# Marks and what is written with them

Marks go with the character before them. Where several stand together, those of different classes are put in the
order of their classes, those of one class stay as they are.
-/

namespace Pagewalk.Text

/-- Marks that take no room of their own. -/
def flatMarks : Ranges := .ofSteps
  ["300 70 113 7 107 2d 1 1 1 2 1 2 1 1 48 b 30 15 10 1 65 7 2 6 2 2 1 4 23 1 1e 1b 5b b 3a 9 9 1 18 4 1 9 1 3 1 5",
   "2b 3 3b 9 2a 18 1 20 37 1 1 1 4 8 4 1 3 7 a 2 1d 1 3a 1 4 4 8 1 14 2 1a 1 2 2 39 1 4 2 4 2 2 3 3 1 1e 2 3 1 b 2",
   "39 1 4 5 1 2 4 1 14 2 16 6 1 1 3a 1 2 1 1 4 8 1 7 2 b 2 1e 1 3d 1 c 1 32 1 3 1 37 1 1 3 5 3 1 4 7 2 b 2 1d 1 3a",
   "1 2 1 6 1 5 2 14 2 1c 2 39 2 4 4 8 1 14 2 1d 1 48 1 7 3 1 1 5a 1 2 7 c 8 62 1 2 9 b 7 49 2 1b 1 1 1 1 1 37 e 1 5",
   "1 2 5 b 1 24 9 1 66 4 1 6 1 2 2 2 19 2 4 3 10 4 d 1 2 2 6 1 f 1 2bf 3 3b2 3 1d 2 1e 2 1e 2 40 2 1 7 8 1 2 b 9 1",
   "2d 3 1 1 75 2 22 1 76 3 4 2 9 1 6 3 db 2 2 1 3a 1 1 7 1 1 1 1 2 8 6 a 2 1 30 2e 2 c 14 4 30 1 1 5 1 1 5 1 28 9 c",
   "2 20 4 2 2 1 3 38 1 1 2 3 1 1 3 3a 8 2 2 98 3 1 d 1 7 4 1 6 1 3 2 c6 40 2d0 21 bfe 3 8d 1 60 20 22a 4 6b 2 75d4",
   "4 1 a 20 2 50 2 110 1 3 1 4 1 19 2 5 1 97 2 1a 12 d 1 26 8 19 b 2e 3 30 1 2 4 2 2 27 1 43 6 2 2 2 2 c 1 8 1 2f 1",
   "33 1 1 3 2 2 5 2 1 1 2a 2 8 1 ee 1 2 1 4 1 4f30 1 2e1 10 10 10 3cd 1 e2 1 95 5 686 3 1 2 5 4 28 3 4 1 a5 2 23d 4",
   "41 5 13d 2 4d 6 46 b 31 4 7b 1 36 f 29 1 2 2 a 3 31 4 2 2 7 1 3d 3 24 5 1 8 3e 1 c 2 34 9 a 4 2 1 5f 3 2 1 1 2 6",
   "1 2 1 9d 1 3 8 15 2 39 2 3 1 25 7 3 5 46 6 d 1 1 1 1 1 e 2 55 8 2 3 1 1 17 1 54 6 1 1 4 2 1 2 ee 4 6 2 1 2 1b 2",
   "55 8 2 1 1 2 6a 1 1 1 2 6 1 1 65 1 1 1 2 4 1 5 103 9 1 2 100 2 1 1 4 1 90 4 2 2 4 1 20 a 28 6 2 4 8 1 9 6 2 3 2e",
   "d 1 2 c6 1 1 3 1 1 c9 7 1 6 1 1 52 16 2 7 1 2 1 2 7a 6 3 1 1 2 1 7 1 1 48 2 3 1 1 1 15b 2 b 2 34 5 5 1 1 1 17 1",
   "14e5 1 6 f 2cc8 c 3 3 9c0 5 3b 7 418 1 3f 4 51 1 4cb8 2 1261 2e 2 17 220 3 11 8 2 7 1e 4 94 3 7bb 37 4 32 8 1 e",
   "1 16 5 1 f 550 7 1 11 2 7 1 2 1 5 64 1 a0 7 177 1 3d 4 1fc 4 fe 2 f3 1 2 1 7 2 5 1 1da 7 6d 7 c17b5 f0"]

/-- Marks that take room. -/
def wideMarks : Ranges := .ofSteps
  ["903 1 37 1 2 3 8 4 1 2 32 2 3a 3 6 2 2 2 a 1 2b 1 3a 3 42 1 3a 3 8 1 1 2 35 2 3a 1 1 1 6 2 2 2 a 1 66 2 1 2 3 3",
   "1 3 a 1 29 3 3d 4 3d 2 3a 1 1 5 2 2 1 2 9 2 1c 1 e 2 3a 3 5 3 1 3 a 1 2a 2 4b 3 6 8 12 2 14a 2 3f 1 ab 2 4 1 6 1",
   "2 2 19 2 a 3 2 7 15 2 2 6 2 1 a 3 678 1 1e 1 81 1 7 8 1 2 15a 4 2 3 4 2 1 6 e0 2 3a 1 1 1 9 1 1 2 8 6 91 1 30 1",
   "5 1 1 5 1 2 3d 1 1e 1 4 2 2 1 3c 1 2 3 1 1 3 2 30 8 8 2 ab 1 15 1 1336 2 77f3 2 2 1 58 2 32 10 8e 2 2f 1 30 2 4",
   "2 2 3 6e 2 2 2 18 1 2d 1 1 1 6d 1 2 2 5 1 ed 2 1 2 1 2 1 1 6413 1 1 1 7f 1 2d 3 4 2 73 1 18 2 3b 1 30 3 9 2 d 1",
   "5d 3 3 2 1 1 aa 3 1f 2 3a 2 1 4 2 2 2 3 9 1 a 2 54 3 7 1 2 1 1 4 1 2 1 1 65 3 8 2 3 1 6a 3 6 1 1 4 2 1 ed 3 6 4",
   "2 1 71 3 8 2 1 1 6d 1 1 2 6 1 67 1 1 2 4 1 105 3 9 1 f7 6 1 2 4 1 2 1 1 1 8e 3 8 4 4 1 54 1 1d 2 3e 1 c9 1 3 1 1",
   "1 c7 1 e 1 6a 1 7 1 2 1 d5 5 4 2 1 1 15e 2 c 1 30 2 8 2 1 1 41e8 3 e24 37 68 2 6173 2 6 6"]

/-- The classes of marks that have one; the largest come first. -/
def markClasses : List (Nat × Ranges) :=
  [(230, .ofSteps
     ["300 15 28 3 2 1 3 1 3 3 3 3 4 1 3 1 7 d 113 5 10a 4 1 3 2 6 6 2 1 2 2 1 14 1 4b 8 3b 2 2 5 1 2 77 7 2",
      "4 1 1 2 2 2 2 43 1 1 2 1 2 3 1 2 1 1 3 1 1 1 1 1 1 1 2 a0 7 1 1 22 4 1 9 1 3 1 5 69 2 3 4 2a 5 5 e 2 2",
      "1 2 1 3 6 3 1 2 2 5 51 1 1 2 a9 1 583 2 2 2 3d5 3 47d 1 15c 1 dc 1 5d 8 33 5 6 2 4 2 2 5 1 12 3 6 1 4",
      "80 1 1 7 15c 3 7 2 4 1 13 1 3 2 c6 2 1 7 1 2 4 25 5 1 2 1 2d1 2 2 4 3 2 4 1 5 1 1 1 6 1 bfe 3 ee 20",
      "786f 1 4 a 20 2 50 2 1ee 12 1be 1 1 2 3 2 5 2 1 1 535e 7 7 2 546 5 694 1 28 1 ac 1 23e 4 41 5 13d 2 9b",
      "3 1 1 35 1 1 1 17b 3 263 7 3 5 e9 1 56d1 7 664e 5 20 4 94 3 dbb 7 1 11 2 7 1 2 1 5 64 1 a0 7 177 1 3d",
      "4 1ff 1 fe 1 f4 1 2 1 7 2 5 1 24e 6"]),
   (220, .ofSteps
     ["316 4 2 5 2 4 2 b 5 4 a 3 3 2 4 4 2 2 236 1 4 1 4 1 6 6 2 1 1a 1 8f 2 5 1 2 1 83 1 6 1 2 1 43 1 2 1 2",
      "3 1 2 1 1 3 1 1 1 1 1 1 1 a9 1 a 1 5b 3 3d 3 33 5 f 1 2 1 2 1 3 3 6 1 2 2 57 1 5c5 2 1b 1 1 1 8e 1 c6",
      "1 8ad 1 dc 1 66 1 35 6 2 1 1 2 2 2 5 1 12 1 8 1 85 1 168 5 2 4 d 1 d4 1 7 1 4 1 29 1 3 1 1 1 2e8 1 3 4",
      "883b 3 186 1 5372 7 3cf 1 e2 1 72c 1 2c 1 ab 1 413 2 1 3 46 2 3 1 1 4 32 1 1 1 c1f5 8 7 2 1362 1 100 1",
      "2e0 7"]),
   (9, .ofSteps
     ["94d 1 7f 1 7f 1 7f 1 7f 1 7f 1 7f 1 7f 1 6d 2 10 1 7c 1 6f 1 7f 1 c9 1 b4 2 6d9 2 1e 1 9d 1 28d 1 e3 1",
      "65 2 46 2 118b 1 7a86 1 25 1 97 1 8e 1 6c 1 135 1 f6 1 5e51 1 606 1 29 1 e 1 39 1 79 2 8b 1 74 1 b4 1",
      "62 1 80 3 71 1 7f 1 fc 1 7f 1 76 1 74 1 10d 1 103 2 a1 1 53 1 12 1 51 1 1a5 1 104 2 51 1 1a9 2 41ec 1"]),
   (1, .ofSteps ["334 5 199b 1 d 7 3e9 2 4 3 a 2 3 2 e94d 1 60b6 5 51a9 1 14c8 3"]),
   (7, .ofSteps
     ["93c 1 7f 1 7f 1 7f 1 7f 1 ff 1 7f 1 37a 1 afc 1 b1 1 50 1 8d7b 1 6706 1 b8 1 56 1 6b 1 b2 1 51 2 109 1",
      "7c 1 fc 1 f6 1 182 1 108 1 3fe 1 cc07 1"]),
   (216, .ofSteps ["31b 1 c1d 1 1c22b 2 7 5"]),
   (232, .ofSteps ["315 1 4 1 3d 1 1a9d 1 1235 1 1b4bf 2"]),
   (130, .ofSteps ["f72 1 7 4 2 1"]),
   (234, .ofSteps ["35d 2 1 2 1789 1 2e1 1"]),
   (202, .ofSteps ["321 2 4 2 1aa7 1"]),
   (228, .ofSteps ["5ae 1 12fa 1 54d 2 1232 1"]),
   (107, .ofSteps ["e48 4"]),
   (122, .ofSteps ["ec8 4"]),
   (222, .ofSteps ["59a 1 12 1 138b 1 16f3 1"]),
   (233, .ofSteps ["35c 1 2 1 2 1 1a99 1"]),
   (6, .ofSteps ["16ff0 2"]),
   (8, .ofSteps ["3099 2"]),
   (18, .ofSteps ["5b8 1 e 1"]),
   (19, .ofSteps ["5b9 2"]),
   (27, .ofSteps ["64b 1 2a4 1"]),
   (28, .ofSteps ["64c 1 2a4 1"]),
   (29, .ofSteps ["64d 1 2a4 1"]),
   (30, .ofSteps ["618 1 35 1"]),
   (31, .ofSteps ["619 1 35 1"]),
   (32, .ofSteps ["61a 1 35 1"]),
   (103, .ofSteps ["e38 2"]),
   (118, .ofSteps ["eb8 2"]),
   (218, .ofSteps ["1dfa 1 122f 1"]),
   (224, .ofSteps ["302e 2"]),
   (10, .ofSteps ["5b0 1"]),
   (11, .ofSteps ["5b1 1"]),
   (12, .ofSteps ["5b2 1"]),
   (13, .ofSteps ["5b3 1"]),
   (14, .ofSteps ["5b4 1"]),
   (15, .ofSteps ["5b5 1"]),
   (16, .ofSteps ["5b6 1"]),
   (17, .ofSteps ["5b7 1"]),
   (20, .ofSteps ["5bb 1"]),
   (21, .ofSteps ["5bc 1"]),
   (22, .ofSteps ["5bd 1"]),
   (23, .ofSteps ["5bf 1"]),
   (24, .ofSteps ["5c1 1"]),
   (25, .ofSteps ["5c2 1"]),
   (26, .ofSteps ["fb1e 1"]),
   (33, .ofSteps ["651 1"]),
   (34, .ofSteps ["652 1"]),
   (35, .ofSteps ["670 1"]),
   (36, .ofSteps ["711 1"]),
   (84, .ofSteps ["c55 1"]),
   (91, .ofSteps ["c56 1"]),
   (129, .ofSteps ["f71 1"]),
   (132, .ofSteps ["f74 1"]),
   (214, .ofSteps ["1dce 1"]),
   (226, .ofSteps ["1d16d 1"]),
   (240, .ofSteps ["345 1"])]

/-- The class of a character; zero for all but marks. -/
def markClass (c : Char) : Nat :=
  if c.toNat < 0x300 then 0 else ((markClasses.find? fun (_, marks) => marks.has c).map (·.1)).getD 0

/-- The character is a mark. -/
def isMark (c : Char) : Bool := flatMarks.has c || wideMarks.has c

/-! ### Characters that are written with a mark

Each row has a second character, and two texts of the same length: the characters before it, and what each of them
is together with it.
-/

/-- A character, those that it can follow, and what each of them makes together with it. -/
structure CompositionRow where
  second : Char
  firsts : List Char
  wholes : List Char

/-- A row by the code point of its second character. -/
def CompositionRow.of (second : Nat) (firsts wholes : String) : CompositionRow :=
  ⟨Char.ofNat second, firsts.toList, wholes.toList⟩

/-- All rows. -/
def compositions : List CompositionRow :=
  [.of 0x300 "AEIOUaeiouÜüNnЕИеиĒēŌōWwÂâĂăÊêÔôƠơƯưYyἀἁ" "ÀÈÌÒÙàèìòùǛǜǸǹЀЍѐѝḔḕṐṑẀẁẦầẰằỀềỒồỜờỪừỲỳἂἃ",
   .of 0x300 "ἈἉἐἑἘἙἠἡἨἩἰἱἸἹὀὁὈὉὐὑὙὠὡὨὩαεηιουωΑΕΗ᾿ϊΙ῾ϋ" "ἊἋἒἓἚἛἢἣἪἫἲἳἺἻὂὃὊὋὒὓὛὢὣὪὫὰὲὴὶὸὺὼᾺῈῊ῍ῒῚ῝ῢ",
   .of 0x300 "Υ¨ΟΩ" "Ὺ῭ῸῺ",
   .of 0x301 "AEIOUYaeiouyCcLlNnRrSsZzÜüGgÅåÆæØø¨ΑΕΗΙΟ" "ÁÉÍÓÚÝáéíóúýĆćĹĺŃńŔŕŚśŹźǗǘǴǵǺǻǼǽǾǿ΅ΆΈΉΊΌ",
   .of 0x301 "ΥΩϊαεηιϋουωϒГКгкÇçĒēÏïKkMmÕõŌōPpŨũWwÂâĂă" "ΎΏΐάέήίΰόύώϓЃЌѓќḈḉḖḗḮḯḰḱḾḿṌṍṒṓṔṕṸṹẂẃẤấẮắ",
   .of 0x301 "ÊêÔôƠơƯưἀἁἈἉἐἑἘἙἠἡἨἩἰἱἸἹὀὁὈὉὐὑὙὠὡὨὩ᾿῾" "ẾếỐốỚớỨứἄἅἌἍἔἕἜἝἤἥἬἭἴἵἼἽὄὅὌὍὔὕὝὤὥὬὭ῎῞",
   .of 0x302 "AEIOUaeiouCcGgHhJjSsWwYyZzẠạẸẹỌọ" "ÂÊÎÔÛâêîôûĈĉĜĝĤĥĴĵŜŝŴŵŶŷẐẑẬậỆệỘộ",
   .of 0x303 "ANOanoIiUuVvÂâĂăEeÊêÔôƠơƯưYy" "ÃÑÕãñõĨĩŨũṼṽẪẫẴẵẼẽỄễỖỗỠỡỮữỸỹ",
   .of 0x304 "AaEeIiOoUuÜüÄäȦȧÆæǪǫÖöÕõȮȯYyИиУуGgḶḷṚṛαΑ" "ĀāĒēĪīŌōŪūǕǖǞǟǠǡǢǣǬǭȪȫȬȭȰȱȲȳӢӣӮӯḠḡḸḹṜṝᾱᾹ",
   .of 0x304 "ιΙυΥ" "ῑῙῡῩ", .of 0x306 "AaEeGgIiOoUuУИиуЖжАаЕеȨȩẠạαΑιΙυΥ" "ĂăĔĕĞğĬĭŎŏŬŭЎЙйўӁӂӐӑӖӗḜḝẶặᾰᾸῐῘῠῨ",
   .of 0x307 "CcEeGgIZzAaOoBbDdFfHhMmNnPpRrSsŚśŠšṢṣTtW" "ĊċĖėĠġİŻżȦȧȮȯḂḃḊḋḞḟḢḣṀṁṄṅṖṗṘṙṠṡṤṥṦṧṨṩṪṫẆ",
   .of 0x307 "wXxYyſ𐗒𐗚" "ẇẊẋẎẏẛ𐗉𐗤",
   .of 0x308 "AEIOUaeiouyYΙΥιυϒЕІеіАаӘәЖжЗзИиОоӨөЭэУуЧ" "ÄËÏÖÜäëïöüÿŸΪΫϊϋϔЁЇёїӒӓӚӛӜӝӞӟӤӥӦӧӪӫӬӭӰӱӴ",
   .of 0x308 "чЫыHhÕõŪūWwXxt" "ӵӸӹḦḧṎṏṺṻẄẅẌẍẗ", .of 0x309 "AaÂâĂăEeÊêIiOoÔôƠơUuƯưYy" "ẢảẨẩẲẳẺẻỂểỈỉỎỏỔổỞởỦủỬửỶỷ",
   .of 0x30a "AaUuwy" "ÅåŮůẘẙ", .of 0x30b "OoUuУу" "ŐőŰűӲӳ",
   .of 0x30c "CcDdEeLlNnRrSsTtZzAaIiOoUuÜüGgKkƷʒjHh" "ČčĎďĚěĽľŇňŘřŠšŤťŽžǍǎǏǐǑǒǓǔǙǚǦǧǨǩǮǯǰȞȟ",
   .of 0x30f "AaEeIiOoRrUuѴѵ" "ȀȁȄȅȈȉȌȍȐȑȔȕѶѷ", .of 0x311 "AaEeIiOoRrUu" "ȂȃȆȇȊȋȎȏȒȓȖȗ",
   .of 0x313 "αΑεΕηΗιΙοΟυωΩρ" "ἀἈἐἘἠἨἰἸὀὈὐὠὨῤ", .of 0x314 "αΑεΕηΗιΙοΟυΥωΩρΡ" "ἁἉἑἙἡἩἱἹὁὉὑὙὡὩῥῬ",
   .of 0x31b "OoUu" "ƠơƯư",
   .of 0x323 "BbDdHhKkLlMmNnRrSsTtVvWwZzAaEeIiOoƠơUuƯư" "ḄḅḌḍḤḥḲḳḶḷṂṃṆṇṚṛṢṣṬṭṾṿẈẉẒẓẠạẸẹỊịỌọỢợỤụỰự",
   .of 0x323 "Yy" "Ỵỵ", .of 0x324 "Uu" "Ṳṳ", .of 0x325 "Aa" "Ḁḁ", .of 0x326 "SsTt" "ȘșȚț",
   .of 0x327 "CcGgKkLlNnRrSsTtEeDdHh" "ÇçĢģĶķĻļŅņŖŗŞşŢţȨȩḐḑḨḩ", .of 0x328 "AaEeIiUuOo" "ĄąĘęĮįŲųǪǫ",
   .of 0x32d "DdEeLlNnTtUu" "ḒḓḘḙḼḽṊṋṰṱṶṷ", .of 0x32e "Hh" "Ḫḫ", .of 0x330 "EeIiUu" "ḚḛḬḭṴṵ",
   .of 0x331 "BbDdKkLlNnRrTtZzh" "ḆḇḎḏḴḵḺḻṈṉṞṟṮṯẔẕẖ",
   .of 0x338 "←→↔⇐⇔⇒∃∈∋∣∥∼≃≅≈=≡≍<>≤≥≲≳≶≷≺≻⊂⊃⊆⊇⊢⊨⊩⊫≼≽⊑⊒" "↚↛↮⇍⇎⇏∄∉∌∤∦≁≄≇≉≠≢≭≮≯≰≱≴≵≸≹⊀⊁⊄⊅⊈⊉⊬⊭⊮⊯⋠⋡⋢⋣",
   .of 0x338 "⊲⊳⊴⊵" "⋪⋫⋬⋭", .of 0x342 "ἀἁἈἉἠἡἨἩἰἱἸἹὐὑὙὠὡὨὩα¨η᾿ιϊ῾υϋω" "ἆἇἎἏἦἧἮἯἶἷἾἿὖὗὟὦὧὮὯᾶ῁ῆ῏ῖῗ῟ῦῧῶ",
   .of 0x345 "ἀἁἂἃἄἅἆἇἈἉἊἋἌἍἎἏἠἡἢἣἤἥἦἧἨἩἪἫἬἭἮἯὠὡὢὣὤὥὦὧ" "ᾀᾁᾂᾃᾄᾅᾆᾇᾈᾉᾊᾋᾌᾍᾎᾏᾐᾑᾒᾓᾔᾕᾖᾗᾘᾙᾚᾛᾜᾝᾞᾟᾠᾡᾢᾣᾤᾥᾦᾧ",
   .of 0x345 "ὨὩὪὫὬὭὮὯὰαάᾶΑὴηήῆΗὼωώῶΩ" "ᾨᾩᾪᾫᾬᾭᾮᾯᾲᾳᾴᾷᾼῂῃῄῇῌῲῳῴῷῼ", .of 0x653 "ا" "آ", .of 0x654 "اويەہے" "أؤئۀۂۓ",
   .of 0x655 "ا" "إ", .of 0x93c "नरळ" "ऩऱऴ", .of 0x9be "ে" "ো", .of 0x9d7 "ে" "ৌ", .of 0xb3e "େ" "ୋ",
   .of 0xb56 "େ" "ୈ", .of 0xb57 "େ" "ୌ", .of 0xbbe "ெே" "ொோ", .of 0xbd7 "ஒெ" "ஔௌ", .of 0xc56 "ె" "ై",
   .of 0xcc2 "ೆ" "ೊ", .of 0xcd5 "ಿೆೊ" "ೀೇೋ", .of 0xcd6 "ೆ" "ೈ", .of 0xd3e "െേ" "ൊോ", .of 0xd57 "െ" "ൌ",
   .of 0xdca "ෙො" "ේෝ", .of 0xdcf "ෙ" "ො", .of 0xddf "ෙ" "ෞ", .of 0x102e "ဥ" "ဦ",
   .of 0x1b35 "ᬅᬇᬉᬋᬍᬑᬺᬼᬾᬿᭂ" "ᬆᬈᬊᬌᬎᬒᬻᬽᭀᭁᭃ",
   .of 0x3099 "かきくけこさしすせそたちつてとはひふへほうゝカキクケコサシスセソタチツテトハヒフ" "がぎぐげござじずぜぞだぢづでどばびぶべぼゔゞガギグゲゴザジズゼゾダヂヅデドバビブ",
   .of 0x3099 "ヘホウワヰヱヲヽ" "ベボヴヷヸヹヺヾ", .of 0x309a "はひふへほハヒフヘホ" "ぱぴぷぺぽパピプペポ", .of 0x110ba "𑂙𑂛𑂥" "𑂚𑂜𑂫",
   .of 0x11127 "𑄱𑄲" "𑄮𑄯", .of 0x1133e "𑍇" "𑍋", .of 0x11357 "𑍇" "𑍌", .of 0x113b8 "𑏂" "𑏇", .of 0x113bb "𑎄" "𑎅",
   .of 0x113c2 "𑎎" "𑎎𑏅", .of 0x113c9 "𑎂𑎐𑏂" "𑎃𑎑𑏈", .of 0x114b0 "𑒹" "𑒼", .of 0x114ba "𑒹" "𑒻", .of 0x114bd "𑒹" "𑒾",
   .of 0x115af "𑖸𑖹" "𑖺𑖻", .of 0x11930 "𑤵" "𑤸", .of 0x1611e "𖄞" "𖄡", .of 0x1611f "𖄢𖄡𖄢" "𖄣𖄤𖄦𖄧", .of 0x16120 "𖄡𖄞" "𖄥𖄨",
   .of 0x16129 "𖄞" "𖄢", .of 0x16d67 "𖵧𖵣𖵩" "𖵨𖵩𖵪"]

end Pagewalk.Text
