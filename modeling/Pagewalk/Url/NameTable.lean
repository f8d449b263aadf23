import Pagewalk.Text.Ranges

/-!
# Characters of names

What each character counts as in the name of a host. Names are read in one writing: most characters that are not in
it stand for a text in it, some stand for nothing, and the rest must not occur.
-/

namespace Pagewalk.Url

open Text

/-- Characters that no name may hold in any writing: those without a meaning, and those that stand for a text with an
ASCII character that no name may hold. -/
def strangers : Ranges := .ofSteps
  ["80 21 7 1 6 1 4 1 3 1 21f 6 9a 3 5 6 5 1 1 1 14 1 18d 1 26 2 32 2 3 1 37 8 1b 4 6 11 16 1 c0 1 30 2 3b 2 65 e 3b",
   "2 31 2 f 1 1c 2 1 1 b 5 20 7 4b 1 a1 1 8 2 2 2 16 1 7 1 1 3 4 2 9 2 2 2 4 8 1 4 2 1 5 2 19 2 3 1 6 4 2 2 16 1 7",
   "1 2 1 2 1 2 2 1 1 5 4 2 2 3 3 1 7 4 1 1 7 11 a 3 1 9 1 3 1 16 1 7 1 2 1 5 2 a 1 3 1 3 2 1 f 4 2 c 7 7 1 3 1 8 2",
   "2 2 16 1 7 1 2 1 5 2 9 2 2 2 3 7 3 4 2 1 5 2 12 a 2 1 6 3 3 1 4 3 2 1 1 1 2 3 2 3 3 3 c 4 5 3 3 1 4 2 1 6 1 e 15",
   "5 d 1 3 1 17 1 10 2 9 1 3 1 4 7 2 1 3 1 2 2 4 2 a 7 16 1 3 1 17 1 a 1 5 2 9 1 3 1 4 7 2 5 3 1 4 2 a 1 3 c d 1 3",
   "1 33 1 3 1 6 4 10 2 1a 1 3 1 12 3 18 1 9 1 1 2 7 3 1 4 6 1 1 1 8 6 a 2 3 c 3a 4 1d 25 2 1 1 1 5 1 18 1 1 1 17 2",
   "5 1 1 1 7 1 a 2 4 20 48 1 24 4 27 1 24 1 f 1 d 25 c6 1 1 5 1 2 179 1 4 2 7 1 1 1 4 2 29 1 4 2 21 1 4 2 7 1 1 1 4",
   "2 f 1 39 1 4 2 43 2 20 3 1a 6 56 2 6 2 280 1 1c 3 59 7 16 9 18 9 14 c d 1 3 1 2 c 5e 2 a 6 a 6 1a 6 59 7 2b 5 46",
   "a 1f 1 c 4 c 4 1 3 2a 2 5 b 2c 4 1a 6 b 3 3e 2 41 1 1d 2 b 6 a 6 e 2 2e 2 c 14 4d 1 a6 8 3c 3 f 3 3e 5 2b 2 b 8",
   "2b 5 216 2 6 2 26 2 6 2 8 1 1 1 1 1 1 1 1f 2 35 1 7 1 1 3 3 1 7 3 4 2 6 4 d 2 1 2 3 1 7 e 3 2 7 1 c 3 1 8 e 1 8",
   "3 15 1 5 5 8 2 1b 1 d 3 22 e 21 11 3 2 85 4 29a 16 b 15 28 14 5d8 1 ff 2 17e 5 2d 1 1 5 1 2 38 7 2 e 18 9 7 1 7",
   "1 7 1 7 1 7 1 7 1 7 1 7 1 7e 22 1a 1 59 c d6 2b 3f 1 56 2 2 2 63 5 2b 1 5e 1 56 a 2f 1 1a2 1 4 1 10 1 70b4 3 37",
   "9 15c 14 b8 8 dd 14 3c 3 a 6 38 8 46 8 c 6 74 b 1e 3 4e 1 b 4 21 1 37 9 e 2 a 2 67 18 1c a 6 2 6 2 6 9 7 1 7 1",
   "3c 4 7e 2 a 6 2ba4 c 17 4 31 2104 16e 2 6a 26 7 c 5 5 1a 1 5 1 1 1 2 1 2 1 118 6 16c 20 a 2 16 2 2 1 2 7 10 1 16",
   "6 5 2 1 2 8 1 4 2 1 2 1 7 1 1 1 3 1 1 1 1 1 1 1 1 7e 2 1 1 2 1 1 1 9 1 a 1 1 1 1 3 1a 4 1d 1 62 3 6 2 6 2 6 2 3",
   "3 3 1 3 1 7 11 c 1 1a 1 13 1 2 1 f 2 e 22 7b 5 3 4 2d 3 58 1 d 3 1 2f 2e 82 1d 3 31 f 1c 4 24 9 1e 5 2b 5 1e 1",
   "25 4 e 2a 9e 2 a 6 24 4 24 4 28 8 34 b c 1 f 1 7 1 2 1 b 1 f 1 7 1 2 3 34 c 137 9 16 a 8 18 6 1 2a 1 9 45 6 2 1",
   "1 2c 1 2 3 1 2 17 1 48 8 9 30 13 1 2 5 21 3 1b 5 1b 26 38 4 14 2 32 1 2 5 8 1 3 1 1d 2 3 4 a 7 9 7 40 20 27 4 c",
   "9 36 3 1d 2 1b 5 1a 7 4 c 7 50 49 37 33 d 33 7 2e 8 a 6 26 3 1d 8 2 d0 1f 1 2a 1 3 2 2 10 6 8 9 21 2e 8 2a 16 1a",
   "26 1c 14 17 9 4e 4 24 9 3e 1 5 d 19 7 a 6 35 1 12 8 27 9 60 1 14 b 12 1 2f 3e 7 1 1 1 4 1 f 1 b 6 3b 5 a 6 4 1 8",
   "2 2 2 16 1 7 1 2 1 5 1 a 2 2 2 3 2 1 6 1 5 7 2 7 3 5 b a 1 1 2 1 1 26 1 a 1 1 2 1 1 4 1 a 1 2 8 2 1d 5c 1 5 1e",
   "48 8 a a6 36 2 26 22 45 b a 6 d 13 3a 6 a 6 14 1c 1b 2 f 4 17 b9 3c 64 53 c 8 2 1 2 8 1 2 1 1e 1 2 2 c 9 a 46 8",
   "2 2e 2 b 1b 48 8 53 d 49 7 a 56 8 58 22 e a 6 9 1 2d 1 e a 1d 3 20 2 16 1 e 49 7 1 2 1 2c 3 1 1 2 1 9 8 a 6 6 1",
   "2 1 25 1 2 1 6 7 a 6 2c 4 a f6 19 7 11 1 29 3 1d 55 1 f 32 d 39b 66 6f 1 5 b c4 a4c 63 d 430 10 16 a f9b 5 247",
   "1ab9 3a 6c6 239 7 1f 1 a 4 51 1 a 6 1e 2 6 a 46 a a 1 7 1 15 5 13 1b0 3a c6 5b 5 19 2 19 2c 4b 4 39 7 11 40 5 b",
   "7 9 1cd6 29 20 61 73 21fd 4 1 7 1 2 1 123 f 1 1d 3 2 1 e 4 8 18c 904 6b 5 d 3 9 7 a 2 8 f5c fd 3 1b4 6 17 f 11 f",
   "2e 2 17 9 74 3c f6 a 27 2 c2 15 46 7a 14 c 14 c 57 9 19 87 55 1 47 1 2 2 1 2 2 2 4 1 c 1 1 1 7 1 41 1 4 2 8 1 7",
   "1 1c 1 4 1 5 1 1 3 7 1 154 2 124 2 2be f 5 1 f 450 1f 6 6 d5 7 1 11 2 7 1 2 1 5 5 3e 21 1 70 2d 3 e 2 a 4 2 140",
   "1f 11 3a 5 1 1d0 2a d6 2b 4 1 c0 1f 1 16 8 2 e0 7 1 4 1 2 1 f 1 c5 2 10 29 4c 4 a 4 2 311 44 4c 3d c2 4 1 1b 1 2",
   "1 1 2 1 1 a 1 4 1 1 1 1 6 1 4 1 1 1 1 1 1 3 1 2 1 1 2 1 1 1 1 1 1 1 1 1 1 2 1 1 2 4 1 7 1 4 1 4 1 1 1 a 1 11 5 3",
   "1 5 1 11 34 2 10e 2c 4 64 c f 2 f 1 f 1 25 b ad 38 1d d 2c 4 9 7 2 e 6 9a 3d9 3 11 3 d 3 da 6 c 4 1 f c 4 38 8 a",
   "6 28 8 1e 2 c 4 2 e 9 27 158 8 e 2 d 3 b 3 39 1 1 4 10 2 c 4 a 7 93 1 67 405 a6e0 20 111e 2 168e 2 1d31 f 26e",
   "9a2 21e 5e2 134b 5 212a acc86 f0 2fe10"]

/-- Characters that stand for nothing. -/
def ignored : Ranges := .ofSteps
  ["ad 1 2a1 1 e0f 2 653 2 55 5 7fb 1 54 5 5 6 10f4 1 cc9b 10 ef 1 a0 1 bcff 4 14cf 8 c2f85 f0"]

/-- Characters that stand for a text: capitals for small letters, and other writings for the common one. -/
def foldings : Replacements := .ofRows
  [(0x41, 1, "a b c d e f g h i j k l m n o p q r s t u v w x y z"), (0xaa, 1, "a"), (0xb2, 1, "2 3"), (0xb5, 1, "μ"),
   (0xb9, 1, "1 o"), (0xbc, 1, "1⁄4 1⁄2 3⁄4"), (0xc0, 1, "à á â ã ä å æ ç è é ê ë ì í î ï ð ñ ò ó ô õ ö"),
   (0xd8, 1, "ø ù ú û ü ý þ"), (0x100, 2, "ā ă ą ć ĉ ċ č ď đ ē ĕ ė ę ě ĝ ğ ġ ģ ĥ ħ ĩ ī ĭ į i̇ ij"),
   (0x133, 1, "ij ĵ"), (0x136, 1, "ķ"), (0x139, 2, "ĺ ļ ľ l·"), (0x140, 1, "l· ł"), (0x143, 2, "ń ņ ň ʼn"),
   (0x14a, 2, "ŋ ō ŏ ő œ ŕ ŗ ř ś ŝ ş š ţ ť ŧ ũ ū ŭ ů ű ų ŵ ŷ ÿ"), (0x179, 2, "ź ż ž s ɓ"), (0x182, 2, "ƃ ƅ ɔ"),
   (0x187, 2, "ƈ ɖ"), (0x18a, 1, "ɗ ƌ"), (0x18e, 1, "ǝ ə ɛ ƒ"), (0x193, 1, "ɠ ɣ"), (0x196, 1, "ɩ ɨ ƙ"),
   (0x19c, 1, "ɯ ɲ"), (0x19f, 1, "ɵ ơ"), (0x1a2, 2, "ƣ ƥ ʀ"), (0x1a7, 2, "ƨ ʃ"), (0x1ac, 2, "ƭ ʈ"), (0x1af, 2, "ư ʊ"),
   (0x1b2, 1, "ʋ ƴ"), (0x1b5, 2, "ƶ ʒ"), (0x1b8, 1, "ƹ"), (0x1bc, 1, "ƽ"), (0x1c4, 1, "dž dž dž lj lj lj nj nj nj ǎ"),
   (0x1cf, 2, "ǐ ǒ ǔ ǖ ǘ ǚ ǜ"), (0x1de, 2, "ǟ ǡ ǣ ǥ ǧ ǩ ǫ ǭ ǯ"), (0x1f1, 1, "dz dz dz ǵ"), (0x1f6, 1, "ƕ ƿ ǹ"),
   (0x1fa, 2, "ǻ ǽ ǿ ȁ ȃ ȅ ȇ ȉ ȋ ȍ ȏ ȑ ȓ ȕ ȗ ș ț ȝ ȟ ƞ ȣ ȥ ȧ ȩ ȫ ȭ ȯ ȱ ȳ"), (0x23a, 1, "ⱥ ȼ"), (0x23d, 1, "ƚ ⱦ"),
   (0x241, 2, "ɂ ƀ"), (0x244, 1, "ʉ ʌ ɇ"), (0x248, 2, "ɉ ɋ ɍ ɏ"), (0x2b0, 1, "h ɦ j r ɹ ɻ ʁ w y"),
   (0x2e0, 1, "ɣ l s x ʕ"), (0x340, 1, "̀ ́"), (0x343, 1, "̓ ̈́ ι"), (0x370, 2, "ͱ ͳ ʹ ͷ"), (0x37e, 1, "; ϳ"),
   (0x386, 1, "ά · έ ή ί"), (0x38c, 2, "ό ύ"), (0x38f, 2, "ώ α"), (0x392, 1, "β γ δ ε ζ η θ ι κ λ μ ν ξ ο π ρ"),
   (0x3a3, 1, "σ τ υ φ χ ψ ω ϊ ϋ"), (0x3cf, 1, "ϗ β θ υ ύ ϋ φ π"), (0x3d8, 2, "ϙ ϛ ϝ ϟ ϡ ϣ ϥ ϧ ϩ ϫ ϭ ϯ κ"),
   (0x3f1, 1, "ρ σ"), (0x3f4, 1, "θ ε"), (0x3f7, 2, "ϸ σ"), (0x3fa, 1, "ϻ"),
   (0x3fd, 1, "ͻ ͼ ͽ ѐ ё ђ ѓ є ѕ і ї ј љ њ ћ ќ ѝ ў џ а б в г д е ж з и й к л м н о п р с т у ф х ц ч ш щ ъ ы"),
   (0x42c, 1, "ь э ю я"), (0x460, 2, "ѡ ѣ ѥ ѧ ѩ ѫ ѭ ѯ ѱ ѳ ѵ ѷ ѹ ѻ ѽ ѿ ҁ"),
   (0x48a, 2, "ҋ ҍ ҏ ґ ғ ҕ җ ҙ қ ҝ ҟ ҡ ң ҥ ҧ ҩ ҫ ҭ ү ұ ҳ ҵ ҷ ҹ һ ҽ ҿ ӏ"), (0x4c1, 2, "ӂ ӄ ӆ ӈ ӊ ӌ ӎ"),
   (0x4d0, 2, "ӑ ӓ ӕ ӗ ә ӛ ӝ ӟ ӡ ӣ ӥ ӧ ө ӫ ӭ ӯ ӱ ӳ ӵ ӷ ӹ ӻ ӽ ӿ ԁ ԃ ԅ ԇ ԉ ԋ ԍ ԏ ԑ ԓ ԕ ԗ ԙ ԛ ԝ ԟ ԡ ԣ ԥ ԧ ԩ ԫ ԭ"),
   (0x52e, 2, "ԯ"), (0x531, 1, "ա բ գ դ ե զ է ը թ ժ ի լ խ ծ կ հ ձ ղ ճ մ յ ն շ ո չ պ ջ ռ ս վ տ ր ց ւ փ ք օ ֆ"),
   (0x587, 1, "եւ"), (0x675, 1, "اٴ وٴ ۇٴ يٴ"), (0x958, 1, "क़ ख़ ग़ ज़ ड़ ढ़ फ़ य़"), (0x9dc, 1, "ড় ঢ়"),
   (0x9df, 1, "য়"), (0xa33, 1, "ਲ਼"), (0xa36, 1, "ਸ਼"), (0xa59, 1, "ਖ਼ ਗ਼ ਜ਼"), (0xa5e, 1, "ਫ਼"),
   (0xb5c, 1, "ଡ଼ ଢ଼"), (0xe33, 1, "ํา"), (0xeb3, 1, "ໍາ"), (0xedc, 1, "ຫນ ຫມ"), (0xf0c, 1, "་"), (0xf43, 1, "གྷ"),
   (0xf4d, 1, "ཌྷ"), (0xf52, 1, "དྷ"), (0xf57, 1, "བྷ"), (0xf5c, 1, "ཛྷ"), (0xf69, 1, "ཀྵ"), (0xf73, 2, "ཱི ཱུ"),
   (0xf76, 1, "ྲྀ ྲཱྀ ླྀ ླཱྀ"), (0xf81, 1, "ཱྀ"), (0xf93, 1, "ྒྷ"), (0xf9d, 1, "ྜྷ"), (0xfa2, 1, "ྡྷ"),
   (0xfa7, 1, "ྦྷ"), (0xfac, 1, "ྫྷ"), (0xfb9, 1, "ྐྵ"),
   (0x10a0, 1, "ⴀ ⴁ ⴂ ⴃ ⴄ ⴅ ⴆ ⴇ ⴈ ⴉ ⴊ ⴋ ⴌ ⴍ ⴎ ⴏ ⴐ ⴑ ⴒ ⴓ ⴔ ⴕ ⴖ ⴗ ⴘ ⴙ ⴚ ⴛ ⴜ ⴝ ⴞ ⴟ ⴠ ⴡ ⴢ ⴣ ⴤ ⴥ"), (0x10c7, 1, "ⴧ"),
   (0x10cd, 1, "ⴭ"), (0x10fc, 1, "ნ"), (0x13f8, 1, "Ᏸ Ᏹ Ᏺ Ᏻ Ᏼ Ᏽ"), (0x1c80, 1, "в д о с т т ъ ѣ ꙋ ᲊ"),
   (0x1c90, 1, "ა ბ გ დ ე ვ ზ თ ი კ ლ მ ნ ო პ ჟ რ ს ტ უ ფ ქ ღ ყ შ ჩ ც ძ წ ჭ ხ ჯ ჰ ჱ ჲ ჳ ჴ ჵ ჶ ჷ ჸ ჹ ჺ"),
   (0x1cbd, 1, "ჽ ჾ ჿ"), (0x1d2c, 1, "a æ b"), (0x1d30, 1, "d e ǝ g h i j k l m n"),
   (0x1d3c, 1, "o ȣ p r t u w a ɐ ɑ ᴂ b d e ə ɛ ɜ g"),
   (0x1d4f, 1, "k m ŋ o ɔ ᴖ ᴗ p t u ᴝ ɯ v ᴥ β γ δ φ χ i r u v β γ ρ φ χ"), (0x1d78, 1, "н"),
   (0x1d9b, 1, "ɒ c ɕ ð ɜ f ɟ ɡ ɥ ɨ ɩ ɪ ᵻ ʝ ɭ ᶅ ʟ ɱ ɰ ɲ ɳ ɴ ɵ ɸ ʂ ʃ ƫ ʉ ʊ ᴜ ʋ ʌ z ʐ ʑ ʒ θ"),
   (0x1e00, 2, "ḁ ḃ ḅ ḇ ḉ ḋ ḍ ḏ ḑ ḓ ḕ ḗ ḙ ḛ ḝ ḟ ḡ ḣ ḥ ḧ ḩ ḫ ḭ ḯ ḱ ḳ ḵ ḷ ḹ ḻ ḽ ḿ ṁ ṃ ṅ ṇ ṉ ṋ ṍ ṏ ṑ ṓ ṕ ṗ ṙ ṛ ṝ"),
   (0x1e5e, 2, "ṟ ṡ ṣ ṥ ṧ ṩ ṫ ṭ ṯ ṱ ṳ ṵ ṷ ṹ ṻ ṽ ṿ ẁ ẃ ẅ ẇ ẉ ẋ ẍ ẏ ẑ ẓ ẕ"), (0x1e9a, 1, "aʾ ṡ"),
   (0x1e9e, 2, "ß ạ ả ấ ầ ẩ ẫ ậ ắ ằ ẳ ẵ ặ ẹ ẻ ẽ ế ề ể ễ ệ ỉ ị ọ ỏ ố ồ ổ ỗ ộ ớ ờ ở ỡ ợ ụ ủ ứ ừ ử ữ ự ỳ ỵ ỷ ỹ ỻ"),
   (0x1efc, 2, "ỽ ỿ"), (0x1f08, 1, "ἀ ἁ ἂ ἃ ἄ ἅ ἆ ἇ"), (0x1f18, 1, "ἐ ἑ ἒ ἓ ἔ ἕ"), (0x1f28, 1, "ἠ ἡ ἢ ἣ ἤ ἥ ἦ ἧ"),
   (0x1f38, 1, "ἰ ἱ ἲ ἳ ἴ ἵ ἶ ἷ"), (0x1f48, 1, "ὀ ὁ ὂ ὃ ὄ ὅ"), (0x1f59, 2, "ὑ ὓ ὕ ὗ"), (0x1f68, 1, "ὠ ὡ ὢ ὣ ὤ ὥ ὦ ὧ"),
   (0x1f71, 2, "ά έ ή ί ό ύ ώ"),
   (0x1f80, 1, "ἀι ἁι ἂι ἃι ἄι ἅι ἆι ἇι ἀι ἁι ἂι ἃι ἄι ἅι ἆι ἇι ἠι ἡι ἢι ἣι ἤι ἥι ἦι ἧι ἠι ἡι ἢι ἣι ἤι ἥι ἦι"),
   (0x1f9f, 1, "ἧι ὠι ὡι ὢι ὣι ὤι ὥι ὦι ὧι ὠι ὡι ὢι ὣι ὤι ὥι ὦι ὧι"), (0x1fb2, 1, "ὰι αι άι"),
   (0x1fb7, 1, "ᾶι ᾰ ᾱ ὰ ά αι"), (0x1fbe, 1, "ι"), (0x1fc2, 1, "ὴι ηι ήι"), (0x1fc7, 1, "ῆι ὲ έ ὴ ή ηι"),
   (0x1fd3, 1, "ΐ"), (0x1fd8, 1, "ῐ ῑ ὶ ί"), (0x1fe3, 1, "ΰ"), (0x1fe8, 1, "ῠ ῡ ὺ ύ ῥ"), (0x1fef, 1, "\x60"),
   (0x1ff2, 1, "ὼι ωι ώι"), (0x1ff7, 1, "ῶι ὸ ό ὼ ώ ωι"), (0x2011, 1, "‐"), (0x2033, 1, "′′ ′′′"),
   (0x2036, 1, "‵‵ ‵‵‵"), (0x203c, 1, "!!"), (0x2057, 1, "′′′′"), (0x2070, 1, "0 i"),
   (0x2074, 1, "4 5 6 7 8 9 + − = ( ) n 0 1 2 3 4 5 6 7 8 9 + − = ( )"), (0x2090, 1, "a e o x ə h k l m n p s t"),
   (0x20a8, 1, "rs"), (0x2102, 1, "c °c"), (0x2107, 2, "ɛ °f"), (0x210a, 1, "g h h h h ħ i i l l"),
   (0x2115, 1, "n no"), (0x2119, 1, "p q r r r"), (0x2120, 1, "sm tel tm"), (0x2124, 2, "z ω z k"),
   (0x212b, 1, "å b c"), (0x212f, 1, "e e f ⅎ m o א ב ג ד i"), (0x213b, 1, "fax π γ γ π ∑"), (0x2145, 1, "d d e i j"),
   (0x2150, 1, "1⁄7 1⁄9 1⁄10 1⁄3 2⁄3 1⁄5 2⁄5 3⁄5 4⁄5 1⁄6 5⁄6 1⁄8 3⁄8 5⁄8 7⁄8 1⁄ i ii iii iv v vi vii viii ix"),
   (0x2169, 1, "x xi xii l c d m i ii iii iv v vi vii viii ix x xi xii l c d m"), (0x2183, 1, "ↄ"),
   (0x2189, 1, "0⁄3"), (0x222c, 1, "∫∫ ∫∫∫"), (0x222f, 1, "∮∮ ∮∮∮"), (0x2329, 1, "〈 〉"),
   (0x2460, 1, "1 2 3 4 5 6 7 8 9 10 11 12 13 14 15 16 17 18 19 20 (1) (2) (3) (4) (5) (6) (7) (8) (9) (10)"),
   (0x247e, 1, "(11) (12) (13) (14) (15) (16) (17) (18) (19) (20)"),
   (0x249c, 1, "(a) (b) (c) (d) (e) (f) (g) (h) (i) (j) (k) (l) (m) (n) (o) (p) (q) (r) (s) (t) (u) (v) (w)"),
   (0x24b3, 1, "(x) (y) (z) a b c d e f g h i j k l m n o p q r s t u v w x y z a b c d e f g h i j k l m n o"),
   (0x24df, 1, "p q r s t u v w x y z 0"), (0x2a0c, 1, "∫∫∫∫"), (0x2a75, 1, "== ==="), (0x2adc, 1, "⫝̸"),
   (0x2c00, 1, "ⰰ ⰱ ⰲ ⰳ ⰴ ⰵ ⰶ ⰷ ⰸ ⰹ ⰺ ⰻ ⰼ ⰽ ⰾ ⰿ ⱀ ⱁ ⱂ ⱃ ⱄ ⱅ ⱆ ⱇ ⱈ ⱉ ⱊ ⱋ ⱌ ⱍ ⱎ ⱏ ⱐ ⱑ ⱒ ⱓ ⱔ ⱕ ⱖ ⱗ ⱘ ⱙ ⱚ ⱛ ⱜ ⱝ ⱞ"),
   (0x2c2f, 1, "ⱟ"), (0x2c60, 2, "ⱡ ɫ"), (0x2c63, 1, "ᵽ ɽ"), (0x2c67, 2, "ⱨ ⱪ ⱬ ɑ"), (0x2c6e, 1, "ɱ ɐ ɒ"),
   (0x2c72, 1, "ⱳ"), (0x2c75, 1, "ⱶ"), (0x2c7c, 1, "j v ȿ ɀ ⲁ"),
   (0x2c82, 2, "ⲃ ⲅ ⲇ ⲉ ⲋ ⲍ ⲏ ⲑ ⲓ ⲕ ⲗ ⲙ ⲛ ⲝ ⲟ ⲡ ⲣ ⲥ ⲧ ⲩ ⲫ ⲭ ⲯ ⲱ ⲳ ⲵ ⲷ ⲹ ⲻ ⲽ ⲿ ⳁ ⳃ ⳅ ⳇ ⳉ ⳋ ⳍ ⳏ ⳑ ⳓ ⳕ ⳗ ⳙ ⳛ ⳝ ⳟ"),
   (0x2ce0, 2, "ⳡ ⳣ"), (0x2ceb, 2, "ⳬ ⳮ"), (0x2cf2, 1, "ⳳ"), (0x2d6f, 1, "ⵡ"), (0x2e9f, 1, "母"), (0x2ef3, 1, "龟"),
   (0x2f00, 1, "一 丨 丶 丿 乙 亅 二 亠 人 儿 入 八 冂 冖 冫 几 凵 刀 力 勹 匕 匚 匸 十 卜 卩 厂 厶 又 口 囗 土 士 夂 夊 夕 大 女 子 宀 寸 小 尢 尸 屮 山 巛"),
   (0x2f2f, 1, "工 己 巾 干 幺 广 廴 廾 弋 弓 彐 彡 彳 心 戈 戶 手 支 攴 文 斗 斤 方 无 日 曰 月 木 欠 止 歹 殳 毋 比 毛 氏 气 水 火 爪 父 爻 爿 片 牙 牛 犬"),
   (0x2f5e, 1, "玄 玉 瓜 瓦 甘 生 用 田 疋 疒 癶 白 皮 皿 目 矛 矢 石 示 禸 禾 穴 立 竹 米 糸 缶 网 羊 羽 老 而 耒 耳 聿 肉 臣 自 至 臼 舌 舛 舟 艮 色 艸 虍"),
   (0x2f8d, 1, "虫 血 行 衣 襾 見 角 言 谷 豆 豕 豸 貝 赤 走 足 身 車 辛 辰 辵 邑 酉 釆 里 金 長 門 阜 隶 隹 雨 靑 非 面 革 韋 韭 音 頁 風 飛 食 首 香 馬 骨"),
   (0x2fbc, 1, "高 髟 鬥 鬯 鬲 鬼 魚 鳥 鹵 鹿 麥 麻 黃 黍 黑 黹 黽 鼎 鼓 鼠 鼻 齊 齒 龍 龜 龠"), (0x3002, 1, "."), (0x3036, 2, "〒 十"),
   (0x3039, 1, "卄 卅"), (0x309f, 1, "より"), (0x30ff, 1, "コト"),
   (0x3131, 1, "ᄀ ᄁ ᆪ ᄂ ᆬ ᆭ ᄃ ᄄ ᄅ ᆰ ᆱ ᆲ ᆳ ᆴ ᆵ ᄚ ᄆ ᄇ ᄈ ᄡ ᄉ ᄊ ᄋ ᄌ ᄍ ᄎ ᄏ ᄐ ᄑ ᄒ ᅡ ᅢ ᅣ ᅤ ᅥ ᅦ ᅧ ᅨ ᅩ ᅪ ᅫ ᅬ ᅭ ᅮ ᅯ ᅰ ᅱ"),
   (0x3160, 1, "ᅲ ᅳ ᅴ ᅵ"),
   (0x3165, 1, "ᄔ ᄕ ᇇ ᇈ ᇌ ᇎ ᇓ ᇗ ᇙ ᄜ ᇝ ᇟ ᄝ ᄞ ᄠ ᄢ ᄣ ᄧ ᄩ ᄫ ᄬ ᄭ ᄮ ᄯ ᄲ ᄶ ᅀ ᅇ ᅌ ᇱ ᇲ ᅗ ᅘ ᅙ ᆄ ᆅ ᆈ ᆑ ᆒ ᆔ ᆞ ᆡ"),
   (0x3192, 1, "一 二 三 四 上 中 下 甲 乙 丙 丁 天 地 人"),
   (0x3200, 1, "(ᄀ) (ᄂ) (ᄃ) (ᄅ) (ᄆ) (ᄇ) (ᄉ) (ᄋ) (ᄌ) (ᄎ) (ᄏ) (ᄐ) (ᄑ) (ᄒ) (가) (나) (다) (라) (마) (바) (사) (아) (자)"),
   (0x3217, 1, "(차) (카) (타) (파) (하) (주) (오전) (오후)"),
   (0x3220, 1, "(一) (二) (三) (四) (五) (六) (七) (八) (九) (十) (月) (火) (水) (木) (金) (土) (日) (株) (有) (社) (名) (特) (財)"),
   (0x3237, 1, "(祝) (労) (代) (呼) (学) (監) (企) (資) (協) (祭) (休) (自) (至) 問 幼 文 箏"),
   (0x3250, 1, "pte 21 22 23 24 25 26 27 28 29 30 31 32 33 34 35 ᄀ ᄂ ᄃ ᄅ ᄆ ᄇ ᄉ ᄋ ᄌ ᄎ ᄏ ᄐ ᄑ ᄒ 가 나 다 라 마 바 사 아"),
   (0x3276, 1, "자 차 카 타 파 하 참고 주의 우"),
   (0x3280, 1, "一 二 三 四 五 六 七 八 九 十 月 火 水 木 金 土 日 株 有 社 名 特 財 祝 労 秘 男 女 適 優 印 注 項 休 写 正 上 中 下 左 右 医 宗 学 監 企 資"),
   (0x32af, 1, "協 夜 36 37 38 39 40 41 42 43 44 45 46 47 48 49 50 1月 2月 3月 4月 5月 6月 7月 8月 9月 10月 11月 12月 hg"),
   (0x32cd, 1, "erg ev ltd ア イ ウ エ オ カ キ ク ケ コ サ シ ス セ ソ タ チ ツ テ ト ナ ニ ヌ ネ ノ ハ ヒ フ ヘ ホ マ ミ ム メ モ ヤ ユ ヨ ラ リ ル"),
   (0x32f9, 1, "レ ロ ワ ヰ ヱ ヲ 令和 アパート アルファ アンペア アール イニング インチ ウォン エスクード エーカー オンス オーム カイリ カラット カロリー ガロン ガンマ ギガ"),
   (0x3311, 1, "ギニー キュリー ギルダー キロ キログラム キロメートル キロワット グラム グラムトン クルゼイロ クローネ ケース コルナ コーポ サイクル サンチーム シリング センチ セント"),
   (0x3324, 1, "ダース デシ ドル トン ナノ ノット ハイツ パーセント パーツ バーレル ピアストル ピクル ピコ ビル ファラッド フィート ブッシェル フラン ヘクタール ペソ ペニヒ ヘルツ"),
   (0x333a, 1, "ペンス ページ ベータ ポイント ボルト ホン ポンド ホール ホーン マイクロ マイル マッハ マルク マンション ミクロン ミリ ミリバール メガ メガトン メートル ヤード ヤール"),
   (0x3350, 1, "ユアン リットル リラ ルピー ルーブル レム レントゲン ワット 0点 1点 2点 3点 4点 5点 6点 7点 8点 9点 10点 11点 12点 13点 14点 15点 16点"),
   (0x3369, 1, "17点 18点 19点 20点 21点 22点 23点 24点 hpa da au bar ov pc dm dm2 dm3 iu 平成 昭和 大正 明治 株式会社 pa na μa"),
   (0x3383, 1, "ma ka kb mb gb cal kcal pf nf μf μg mg kg hz khz mhz ghz thz μl ml dl kl fm nm μm mm cm km"),
   (0x339f, 1, "mm2 cm2 m2 km2 mm3 cm3 m3 km3 m∕s m∕s2 pa kpa mpa gpa rad rad∕s rad∕s2 ps ns μs ms pv nv μv"),
   (0x33b7, 1, "mv kv mv pw nw μw mw kw mw kω mω"), (0x33c3, 1, "bq cc cd c∕kg"),
   (0x33c8, 1, "db gy ha hp in kk km kt lm ln log lx mb mil mol ph"),
   (0x33d9, 1, "ppm pr sr sv wb v∕m a∕m 1日 2日 3日 4日 5日 6日 7日 8日 9日 10日 11日 12日 13日 14日 15日 16日 17日 18日 19日"),
   (0x33f3, 1, "20日 21日 22日 23日 24日 25日 26日 27日 28日 29日 30日 31日 gal"),
   (0xa640, 2, "ꙁ ꙃ ꙅ ꙇ ꙉ ꙋ ꙍ ꙏ ꙑ ꙓ ꙕ ꙗ ꙙ ꙛ ꙝ ꙟ ꙡ ꙣ ꙥ ꙧ ꙩ ꙫ ꙭ"), (0xa680, 2, "ꚁ ꚃ ꚅ ꚇ ꚉ ꚋ ꚍ ꚏ ꚑ ꚓ ꚕ ꚗ ꚙ ꚛ ъ"),
   (0xa69d, 1, "ь"), (0xa722, 2, "ꜣ ꜥ ꜧ ꜩ ꜫ ꜭ ꜯ"),
   (0xa732, 2, "ꜳ ꜵ ꜷ ꜹ ꜻ ꜽ ꜿ ꝁ ꝃ ꝅ ꝇ ꝉ ꝋ ꝍ ꝏ ꝑ ꝓ ꝕ ꝗ ꝙ ꝛ ꝝ ꝟ ꝡ ꝣ ꝥ ꝧ ꝩ ꝫ ꝭ ꝯ ꝯ"), (0xa779, 2, "ꝺ ꝼ ᵹ"),
   (0xa77e, 2, "ꝿ ꞁ ꞃ ꞅ ꞇ"), (0xa78b, 2, "ꞌ ɥ"), (0xa790, 2, "ꞑ ꞓ"), (0xa796, 2, "ꞗ ꞙ ꞛ ꞝ ꞟ ꞡ ꞣ ꞥ ꞧ ꞩ ɦ"),
   (0xa7ab, 1, "ɜ ɡ ɬ ɪ"), (0xa7b0, 1, "ʞ ʇ ʝ ꭓ ꞵ"), (0xa7b6, 2, "ꞷ ꞹ ꞻ ꞽ ꞿ ꟁ ꟃ ꞔ"), (0xa7c5, 1, "ʂ ᶎ ꟈ"),
   (0xa7c9, 2, "ꟊ ɤ"), (0xa7cc, 2, "ꟍ ꟏ ꟑ ꟓ ꟕ ꟗ ꟙ ꟛ ƛ"), (0xa7f1, 1, "s c f q ꟶ"), (0xa7f8, 1, "ħ œ"),
   (0xab5c, 1, "ꜧ ꬷ ɫ ꭒ"), (0xab69, 1, "ʍ"),
   (0xab70, 1, "Ꭰ Ꭱ Ꭲ Ꭳ Ꭴ Ꭵ Ꭶ Ꭷ Ꭸ Ꭹ Ꭺ Ꭻ Ꭼ Ꭽ Ꭾ Ꭿ Ꮀ Ꮁ Ꮂ Ꮃ Ꮄ Ꮅ Ꮆ Ꮇ Ꮈ Ꮉ Ꮊ Ꮋ Ꮌ Ꮍ Ꮎ Ꮏ Ꮐ Ꮑ Ꮒ Ꮓ Ꮔ Ꮕ Ꮖ Ꮗ Ꮘ Ꮙ Ꮚ Ꮛ Ꮜ Ꮝ Ꮞ"),
   (0xab9f, 1, "Ꮟ Ꮠ Ꮡ Ꮢ Ꮣ Ꮤ Ꮥ Ꮦ Ꮧ Ꮨ Ꮩ Ꮪ Ꮫ Ꮬ Ꮭ Ꮮ Ꮯ Ꮰ Ꮱ Ꮲ Ꮳ Ꮴ Ꮵ Ꮶ Ꮷ Ꮸ Ꮹ Ꮺ Ꮻ Ꮼ Ꮽ Ꮾ Ꮿ"),
   (0xf900, 1, "豈 更 車 賈 滑 串 句 龜 龜 契 金 喇 奈 懶 癩 羅 蘿 螺 裸 邏 樂 洛 烙 珞 落 酪 駱 亂 卵 欄 爛 蘭 鸞 嵐 濫 藍 襤 拉 臘 蠟 廊 朗 浪 狼 郎 來 冷"),
   (0xf92f, 1, "勞 擄 櫓 爐 盧 老 蘆 虜 路 露 魯 鷺 碌 祿 綠 菉 錄 鹿 論 壟 弄 籠 聾 牢 磊 賂 雷 壘 屢 樓 淚 漏 累 縷 陋 勒 肋 凜 凌 稜 綾 菱 陵 讀 拏 樂 諾"),
   (0xf95e, 1, "丹 寧 怒 率 異 北 磻 便 復 不 泌 數 索 參 塞 省 葉 說 殺 辰 沈 拾 若 掠 略 亮 兩 凉 梁 糧 良 諒 量 勵 呂 女 廬 旅 濾 礪 閭 驪 麗 黎 力 曆 歷"),
   (0xf98d, 1, "轢 年 憐 戀 撚 漣 煉 璉 秊 練 聯 輦 蓮 連 鍊 列 劣 咽 烈 裂 說 廉 念 捻 殮 簾 獵 令 囹 寧 嶺 怜 玲 瑩 羚 聆 鈴 零 靈 領 例 禮 醴 隸 惡 了 僚"),
   (0xf9bc, 1, "寮 尿 料 樂 燎 療 蓼 遼 龍 暈 阮 劉 杻 柳 流 溜 琉 留 硫 紐 類 六 戮 陸 倫 崙 淪 輪 律 慄 栗 率 隆 利 吏 履 易 李 梨 泥 理 痢 罹 裏 裡 里 離"),
   (0xf9eb, 1, "匿 溺 吝 燐 璘 藺 隣 鱗 麟 林 淋 臨 立 笠 粒 狀 炙 識 什 茶 刺 切 度 拓 糖 宅 洞 暴 輻 行 降 見 廓 兀 嗀"), (0xfa10, 2, "塚 晴"),
   (0xfa15, 1, "凞 猪 益 礼 神 祥 福 靖 精 羽"), (0xfa20, 2, "蘒 諸"), (0xfa25, 1, "逸 都"),
   (0xfa2a, 1, "飯 飼 館 鶴 郞 隷 侮 僧 免 勉 勤 卑 喝 嘆 器 塀 墨 層 屮 悔 慨 憎 懲 敏 既 暑 梅 海 渚 漢 煮 爫 琢 碑 社 祉 祈 祐 祖 祝 禍 禎 穀 突 節 練 縉"),
   (0xfa59, 1, "繁 署 者 臭 艹 艹 著 褐 視 謁 謹 賓 贈 辶 逸 難 響 頻 恵 𤋮 舘"),
   (0xfa70, 1, "並 况 全 侀 充 冀 勇 勺 喝 啕 喙 嗢 塚 墳 奄 奔 婢 嬨 廒 廙 彩 徭 惘 慎 愈 憎 慠 懲 戴 揄 搜 摒 敖 晴 朗 望 杖 歹 殺 流 滛 滋 漢 瀞 煮 瞧 爵"),
   (0xfa9f, 1, "犯 猪 瑱 甆 画 瘝 瘟 益 盛 直 睊 着 磌 窱 節 类 絛 練 缾 者 荒 華 蝹 襁 覆 視 調 諸 請 謁 諾 諭 謹 變 贈 輸 遲 醙 鉶 陼 難 靖 韛 響 頋 頻 鬒"),
   (0xface, 1, "龜 𢡊 𢡄 𣏕 㮝 䀘 䀹 𥉉 𥳐 𧻓 齃 龎"), (0xfb00, 1, "ff fi fl ffi ffl st st"), (0xfb13, 1, "մն մե մի վն մխ"),
   (0xfb1d, 2, "יִ ײַ"), (0xfb20, 1, "ע א ד ה כ ל ם ר ת + שׁ שׂ שּׁ שּׂ אַ אָ אּ בּ גּ דּ הּ וּ זּ"),
   (0xfb38, 1, "טּ יּ ךּ כּ לּ"), (0xfb3e, 2, "מּ נּ"), (0xfb41, 2, "סּ ףּ"), (0xfb44, 2, "פּ צּ"),
   (0xfb47, 1, "קּ רּ שּ תּ וֹ בֿ כֿ פֿ אל ٱ ٱ ٻ ٻ ٻ ٻ پ پ پ پ ڀ ڀ ڀ ڀ ٺ ٺ ٺ ٺ ٿ ٿ ٿ ٿ ٹ ٹ ٹ ٹ ڤ ڤ ڤ ڤ ڦ ڦ ڦ"),
   (0xfb71, 1, "ڦ ڄ ڄ ڄ ڄ ڃ ڃ ڃ ڃ چ چ چ چ ڇ ڇ ڇ ڇ ڍ ڍ ڌ ڌ ڎ ڎ ڈ ڈ ژ ژ ڑ ڑ ک ک ک ک گ گ گ گ ڳ ڳ ڳ ڳ ڱ ڱ ڱ ڱ ں ں"),
   (0xfba0, 1, "ڻ ڻ ڻ ڻ ۀ ۀ ہ ہ ہ ہ ھ ھ ھ ھ ے ے ۓ ۓ"),
   (0xfbd3, 1, "ڭ ڭ ڭ ڭ ۇ ۇ ۆ ۆ ۈ ۈ ۇٴ ۋ ۋ ۅ ۅ ۉ ۉ ې ې ې ې ى ى ئا ئا ئە ئە ئو ئو ئۇ ئۇ ئۆ ئۆ ئۈ ئۈ ئې ئې ئې"),
   (0xfbf9, 1, "ئى ئى ئى ی ی ی ی ئج ئح ئم ئى ئي بج بح بخ بم بى بي تج تح تخ تم تى تي ثج ثم ثى ثي جح جم حج حم"),
   (0xfc19, 1, "خج خح خم سج سح سخ سم صح صم ضج ضح ضخ ضم طح طم ظم عج عم غج غم فج فح فخ فم فى في قح قم قى قي كا"),
   (0xfc38, 1, "كج كح كخ كل كم كى كي لج لح لخ لم لى لي مج مح مخ مم مى مي نج نح نخ نم نى ني هج هم هى هي يج يح"),
   (0xfc57, 1, "يخ يم يى يي ذٰ رٰ ىٰ"),
   (0xfc64, 1, "ئر ئز ئم ئن ئى ئي بر بز بم بن بى بي تر تز تم تن تى تي ثر ثز ثم ثن ثى ثي فى في قى قي كا كل كم"),
   (0xfc83, 1, "كى كي لم لى لي ما مم نر نز نم نن نى ني ىٰ ير يز يم ين يى يي ئج ئح ئخ ئم ئه بج بح بخ بم به تج"),
   (0xfca2, 1, "تح تخ تم ته ثم جح جم حج حم خج خم سج سح سخ سم صح صخ صم ضج ضح ضخ ضم طح ظم عج عم غج غم فج فح فخ"),
   (0xfcc1, 1, "فم قح قم كج كح كخ كل كم لج لح لخ لم له مج مح مخ مم نج نح نخ نم نه هج هم هٰ يج يح يخ يم يه ئم"),
   (0xfce0, 1, "ئه بم به تم ته ثم ثه سم سه شم شه كل كم لم نم نه يم يه ـَّ ـُّ ـِّ طى طي عى عي غى غي سى سي شى"),
   (0xfcfe, 1, "شي حى حي جى جي خى خي صى صي ضى ضي شج شح شخ شم شر سر صر ضر طى طي عى عي غى غي سى سي شى شي حى حي"),
   (0xfd1d, 1, "جى جي خى خي صى صي ضى ضي شج شح شخ شم شر سر صر ضر شج شح شخ شم سه شه طم سج سح سخ شج شح شخ طم ظم"),
   (0xfd3c, 1, "اً اً"),
   (0xfd50, 1, "تجم تحج تحج تحم تخم تمج تمح تمخ جمح جمح حمي حمى سحج سجح سجى سمح سمح سمج سمم سمم صحح صحح صمم"),
   (0xfd67, 1, "شحم شحم شجي شمخ شمخ شمم شمم ضحى ضخم ضخم طمح طمح طمم طمي عجم عمم عمم عمى غمم غمي غمى فخم فخم"),
   (0xfd7e, 1, "قمح قمم لحم لحي لحى لجج لجج لخم لخم لمح لمح محج محم محي مجح مجم مخج مخم"),
   (0xfd92, 1, "مجخ همج همم نحم نحى نجم نجم نجى نمي نمى يمم يمم بخي تجي تجى تخي تخى تمي تمى جمي جحى جمى سخى"),
   (0xfda9, 1, "صحي شحي ضحي لجي لمي يحي يجي يمي ممي قمي نحي قمح لحم عمي كمي نجح مخي لجم كمم لجم نجح جحي حجي"),
   (0xfdc0, 1, "مجي فمي بحي كمم عجم صمم سخي نجي"), (0xfdf0, 1, "صلے قلے الله اكبر محمد صلعم رسول عليه وسلم صلى"),
   (0xfdfc, 1, "ریال"), (0xfe10, 1, ", 、"), (0xfe14, 1, "; !"), (0xfe17, 1, "〖 〗"),
   (0xfe31, 1, "— – _ _ ( ) \x7b \x7d 〔 〕 【 】 《 》 〈 〉 「 」 『 』"), (0xfe4d, 1, "_ _ _ , 、"), (0xfe54, 1, ";"),
   (0xfe57, 1, "! — ( ) \x7b \x7d 〔 〕"), (0xfe60, 1, "& * + -"), (0xfe66, 1, "="), (0xfe69, 1, "$"),
   (0xfe71, 1, "ـً"), (0xfe77, 2, "ـَ ـُ ـِ ـّ ـْ"),
   (0xfe80, 1, "ء آ آ أ أ ؤ ؤ إ إ ئ ئ ئ ئ ا ا ب ب ب ب ة ة ت ت ت ت ث ث ث ث ج ج ج ج ح ح ح ح خ خ خ خ د د ذ ذ ر ر"),
   (0xfeaf, 1, "ز ز س س س س ش ش ش ش ص ص ص ص ض ض ض ض ط ط ط ط ظ ظ ظ ظ ع ع ع ع غ غ غ غ ف ف ف ف ق ق ق ق ك ك ك ك ل"),
   (0xfede, 1, "ل ل ل م م م م ن ن ن ن ه ه ه ه و و ى ى ي ي ي ي لآ لآ لأ لأ لإ لإ لا لا"), (0xff01, 1, "! \""),
   (0xff04, 2, "$ &"), (0xff07, 1, "' ( ) * + , - ."), (0xff10, 1, "0 1 2 3 4 5 6 7 8 9"), (0xff1b, 2, "; ="),
   (0xff21, 1, "a b c d e f g h i j k l m n o p q r s t u v w x y z"),
   (0xff3f, 1, "_ \x60 a b c d e f g h i j k l m n o p q r s t u v w x y z \x7b"),
   (0xff5d, 1, "\x7d ~ ⦅ ⦆ . 「 」 、 ・ ヲ ァ ィ ゥ ェ ォ ャ ュ ョ ッ ー ア イ ウ エ オ カ キ ク ケ コ サ シ ス セ ソ タ チ ツ テ ト ナ ニ ヌ ネ ノ"),
   (0xff8a, 1, "ハ ヒ フ ヘ ホ マ ミ ム メ モ ヤ ユ ヨ ラ リ ル レ ロ ワ ン ゙ ゚"),
   (0xffa1, 1, "ᄀ ᄁ ᆪ ᄂ ᆬ ᆭ ᄃ ᄄ ᄅ ᆰ ᆱ ᆲ ᆳ ᆴ ᆵ ᄚ ᄆ ᄇ ᄈ ᄡ ᄉ ᄊ ᄋ ᄌ ᄍ ᄎ ᄏ ᄐ ᄑ ᄒ"), (0xffc2, 1, "ᅡ ᅢ ᅣ ᅤ ᅥ ᅦ"),
   (0xffca, 1, "ᅧ ᅨ ᅩ ᅪ ᅫ ᅬ"), (0xffd2, 1, "ᅭ ᅮ ᅯ ᅰ ᅱ ᅲ"), (0xffda, 1, "ᅳ ᅴ ᅵ"), (0xffe0, 1, "¢ £ ¬"),
   (0xffe4, 1, "¦ ¥ ₩"), (0xffe8, 1, "│ ← ↑ → ↓ ■ ○"),
   (0x10400, 1, "𐐨 𐐩 𐐪 𐐫 𐐬 𐐭 𐐮 𐐯 𐐰 𐐱 𐐲 𐐳 𐐴 𐐵 𐐶 𐐷 𐐸 𐐹 𐐺 𐐻 𐐼 𐐽 𐐾 𐐿 𐑀 𐑁 𐑂 𐑃 𐑄 𐑅 𐑆 𐑇 𐑈 𐑉 𐑊 𐑋 𐑌 𐑍 𐑎 𐑏"),
   (0x104b0, 1, "𐓘 𐓙 𐓚 𐓛 𐓜 𐓝 𐓞 𐓟 𐓠 𐓡 𐓢 𐓣 𐓤 𐓥 𐓦 𐓧 𐓨 𐓩 𐓪 𐓫 𐓬 𐓭 𐓮 𐓯 𐓰 𐓱 𐓲 𐓳 𐓴 𐓵 𐓶 𐓷 𐓸 𐓹 𐓺 𐓻"),
   (0x10570, 1, "𐖗 𐖘 𐖙 𐖚 𐖛 𐖜 𐖝 𐖞 𐖟 𐖠 𐖡"), (0x1057c, 1, "𐖣 𐖤 𐖥 𐖦 𐖧 𐖨 𐖩 𐖪 𐖫 𐖬 𐖭 𐖮 𐖯 𐖰 𐖱"),
   (0x1058c, 1, "𐖳 𐖴 𐖵 𐖶 𐖷 𐖸 𐖹"), (0x10594, 1, "𐖻 𐖼"), (0x10781, 1, "ː ˑ æ ʙ ɓ"),
   (0x10787, 1, "ʣ ꭦ ʥ ʤ ɖ ɗ ᶑ ɘ ɞ ʩ ɤ ɢ ɠ ʛ ħ ʜ ɧ ʄ ʪ ʫ ɬ 𝼄 ꞎ ɮ 𝼅 ʎ 𝼆 ø ɶ ɷ q ɺ 𝼈 ɽ ɾ ʀ ʨ ʦ ꭧ ʧ ʈ ⱱ"),
   (0x107b2, 1, "ʏ ʡ ʢ ʘ ǀ ǁ ǂ 𝼊 𝼞"),
   (0x10c80, 1, "𐳀 𐳁 𐳂 𐳃 𐳄 𐳅 𐳆 𐳇 𐳈 𐳉 𐳊 𐳋 𐳌 𐳍 𐳎 𐳏 𐳐 𐳑 𐳒 𐳓 𐳔 𐳕 𐳖 𐳗 𐳘 𐳙 𐳚 𐳛 𐳜 𐳝 𐳞 𐳟 𐳠 𐳡 𐳢 𐳣 𐳤 𐳥 𐳦 𐳧 𐳨 𐳩 𐳪 𐳫 𐳬 𐳭"),
   (0x10cae, 1, "𐳮 𐳯 𐳰 𐳱 𐳲"), (0x10d50, 1, "𐵰 𐵱 𐵲 𐵳 𐵴 𐵵 𐵶 𐵷 𐵸 𐵹 𐵺 𐵻 𐵼 𐵽 𐵾 𐵿 𐶀 𐶁 𐶂 𐶃 𐶄 𐶅"),
   (0x118a0, 1, "𑣀 𑣁 𑣂 𑣃 𑣄 𑣅 𑣆 𑣇 𑣈 𑣉 𑣊 𑣋 𑣌 𑣍 𑣎 𑣏 𑣐 𑣑 𑣒 𑣓 𑣔 𑣕 𑣖 𑣗 𑣘 𑣙 𑣚 𑣛 𑣜 𑣝 𑣞 𑣟"),
   (0x16e40, 1, "𖹠 𖹡 𖹢 𖹣 𖹤 𖹥 𖹦 𖹧 𖹨 𖹩 𖹪 𖹫 𖹬 𖹭 𖹮 𖹯 𖹰 𖹱 𖹲 𖹳 𖹴 𖹵 𖹶 𖹷 𖹸 𖹹 𖹺 𖹻 𖹼 𖹽 𖹾 𖹿"),
   (0x16ea0, 1, "𖺻 𖺼 𖺽 𖺾 𖺿 𖻀 𖻁 𖻂 𖻃 𖻄 𖻅 𖻆 𖻇 𖻈 𖻉 𖻊 𖻋 𖻌 𖻍 𖻎 𖻏 𖻐 𖻑 𖻒 𖻓"),
   (0x1ccd6, 1, "a b c d e f g h i j k l m n o p q r s t u v w x y z 0 1 2 3 4 5 6 7 8 9"),
   (0x1d15e, 1, "𝅗𝅥 𝅘𝅥 𝅘𝅥𝅮 𝅘𝅥𝅯 𝅘𝅥𝅰 𝅘𝅥𝅱 𝅘𝅥𝅲"), (0x1d1bb, 1, "𝆹𝅥 𝆺𝅥 𝆹𝅥𝅮 𝆺𝅥𝅮 𝆹𝅥𝅯 𝆺𝅥𝅯"),
   (0x1d400, 1, "a b c d e f g h i j k l m n o p q r s t u v w x y z a b c d e f g h i j k l m n o p q r s t"),
   (0x1d42e, 1, "u v w x y z a b c d e f g h i j k l m n o p q r s t u v w x y z a b c d e f g"),
   (0x1d456, 1, "i j k l m n o p q r s t u v w x y z a b c d e f g h i j k l m n o p q r s t u v w x y z a b"),
   (0x1d484, 1, "c d e f g h i j k l m n o p q r s t u v w x y z a"), (0x1d49e, 1, "c d"), (0x1d4a2, 1, "g"),
   (0x1d4a5, 1, "j k"), (0x1d4a9, 1, "n o p q"), (0x1d4ae, 1, "s t u v w x y z a b c d"), (0x1d4bb, 2, "f h"),
   (0x1d4be, 1, "i j k l m n"),
   (0x1d4c5, 1, "p q r s t u v w x y z a b c d e f g h i j k l m n o p q r s t u v w x y z a b c d e f g h i"),
   (0x1d4f3, 1, "j k l m n o p q r s t u v w x y z a b"), (0x1d507, 1, "d e f g"), (0x1d50d, 1, "j k l m n o p q"),
   (0x1d516, 1, "s t u v w x y"), (0x1d51e, 1, "a b c d e f g h i j k l m n o p q r s t u v w x y z a b"),
   (0x1d53b, 1, "d e f g"), (0x1d540, 1, "i j k l m"), (0x1d546, 1, "o"), (0x1d54a, 1, "s t u v w x y"),
   (0x1d552, 1, "a b c d e f g h i j k l m n o p q r s t u v w x y z a b c d e f g h i j k l m n o p q r s t"),
   (0x1d580, 1, "u v w x y z a b c d e f g h i j k l m n o p q r s t u v w x y z a b c d e f g h i j k l m n"),
   (0x1d5ae, 1, "o p q r s t u v w x y z a b c d e f g h i j k l m n o p q r s t u v w x y z a b c d e f g h"),
   (0x1d5dc, 1, "i j k l m n o p q r s t u v w x y z a b c d e f g h i j k l m n o p q r s t u v w x y z a b"),
   (0x1d60a, 1, "c d e f g h i j k l m n o p q r s t u v w x y z a b c d e f g h i j k l m n o p q r s t u v"),
   (0x1d638, 1, "w x y z a b c d e f g h i j k l m n o p q r s t u v w x y z a b c d e f g h i j k l m n o p"),
   (0x1d666, 1, "q r s t u v w x y z a b c d e f g h i j k l m n o p q r s t u v w x y z a b c d e f g h i j"),
   (0x1d694, 1, "k l m n o p q r s t u v w x y z ı ȷ"),
   (0x1d6a8, 1, "α β γ δ ε ζ η θ ι κ λ μ ν ξ ο π ρ θ σ τ υ φ χ ψ ω ∇ α β γ δ ε ζ η θ ι κ λ μ ν ξ ο π ρ σ σ τ"),
   (0x1d6d6, 1, "υ φ χ ψ ω ∂ ε θ κ φ ρ π α β γ δ ε ζ η θ ι κ λ μ ν ξ ο π ρ θ σ τ υ φ χ ψ ω ∇ α β γ δ ε ζ η θ"),
   (0x1d704, 1, "ι κ λ μ ν ξ ο π ρ σ σ τ υ φ χ ψ ω ∂ ε θ κ φ ρ π α β γ δ ε ζ η θ ι κ λ μ ν ξ ο π ρ θ σ τ υ φ"),
   (0x1d732, 1, "χ ψ ω ∇ α β γ δ ε ζ η θ ι κ λ μ ν ξ ο π ρ σ σ τ υ φ χ ψ ω ∂ ε θ κ φ ρ π α β γ δ ε ζ η θ ι κ"),
   (0x1d760, 1, "λ μ ν ξ ο π ρ θ σ τ υ φ χ ψ ω ∇ α β γ δ ε ζ η θ ι κ λ μ ν ξ ο π ρ σ σ τ υ φ χ ψ ω ∂ ε θ κ φ"),
   (0x1d78e, 1, "ρ π α β γ δ ε ζ η θ ι κ λ μ ν ξ ο π ρ θ σ τ υ φ χ ψ ω ∇ α β γ δ ε ζ η θ ι κ λ μ ν ξ ο π ρ σ"),
   (0x1d7bc, 1, "σ τ υ φ χ ψ ω ∂ ε θ κ φ ρ π ϝ ϝ"),
   (0x1d7ce, 1, "0 1 2 3 4 5 6 7 8 9 0 1 2 3 4 5 6 7 8 9 0 1 2 3 4 5 6 7 8 9 0 1 2 3 4 5 6 7 8 9 0 1 2 3 4 5"),
   (0x1d7fc, 1, "6 7 8 9"),
   (0x1e030, 1, "а б в г д е ж з и к л м о п р с т у ф х ц ч ш ы э ю ꚉ ә і ј ө ү ӏ а б в г д е ж з и к л о п"),
   (0x1e05e, 1, "с у ф х ц ч ш ъ ы ґ і ѕ џ ҫ ꙑ ұ"),
   (0x1e900, 1, "𞤢 𞤣 𞤤 𞤥 𞤦 𞤧 𞤨 𞤩 𞤪 𞤫 𞤬 𞤭 𞤮 𞤯 𞤰 𞤱 𞤲 𞤳 𞤴 𞤵 𞤶 𞤷 𞤸 𞤹 𞤺 𞤻 𞤼 𞤽 𞤾 𞤿 𞥀 𞥁 𞥂 𞥃"), (0x1ee00, 1, "ا ب ج د"),
   (0x1ee05, 1, "و ز ح ط ي ك ل م ن س ع ف ص ق ر ش ت ث خ ذ ض ظ غ ٮ ں ڡ ٯ"), (0x1ee21, 1, "ب ج"), (0x1ee24, 1, "ه"),
   (0x1ee27, 2, "ح ي"), (0x1ee2a, 1, "ك ل م ن س ع ف ص ق"), (0x1ee34, 1, "ش ت ث خ"), (0x1ee39, 2, "ض غ"),
   (0x1ee42, 1, "ج"), (0x1ee47, 2, "ح ي ل ن"), (0x1ee4e, 1, "س ع"), (0x1ee51, 1, "ص ق"), (0x1ee54, 1, "ش"),
   (0x1ee57, 2, "خ ض غ ں ٯ ب"), (0x1ee62, 2, "ج ه"), (0x1ee67, 1, "ح ط ي ك"), (0x1ee6c, 1, "م ن س ع ف ص ق"),
   (0x1ee74, 1, "ش ت ث خ"), (0x1ee79, 1, "ض ظ غ ٮ"), (0x1ee7e, 2, "ڡ ا"), (0x1ee81, 1, "ب ج د ه و ز ح ط ي"),
   (0x1ee8b, 1, "ل م ن س ع ف ص ق ر ش ت ث خ ذ ض ظ غ"), (0x1eea1, 1, "ب ج د"), (0x1eea5, 1, "و ز ح ط ي"),
   (0x1eeab, 1, "ل م ن س ع ف ص ق ر ش ت ث خ ذ ض ظ غ"), (0x1f101, 1, "0, 1, 2, 3, 4, 5, 6, 7, 8, 9,"),
   (0x1f110, 1, "(a) (b) (c) (d) (e) (f) (g) (h) (i) (j) (k) (l) (m) (n) (o) (p) (q) (r) (s) (t) (u) (v) (w)"),
   (0x1f127, 1, "(x) (y) (z) 〔s〕 c r cd wz"),
   (0x1f130, 1, "a b c d e f g h i j k l m n o p q r s t u v w x y z hv mv sd ss ppv wc"), (0x1f16a, 1, "mc md mr"),
   (0x1f190, 1, "dj"), (0x1f200, 1, "ほか ココ サ"),
   (0x1f210, 1, "手 字 双 デ 二 多 解 天 交 映 無 料 前 後 再 新 初 終 生 販 声 吹 演 投 捕 一 三 遊 左 中 右 指 走 打 禁 空 合 満 有 月 申 割 営 配"),
   (0x1f240, 1, "〔本〕 〔三〕 〔二〕 〔安〕 〔点〕 〔打〕 〔盗〕 〔勝〕 〔敗〕"), (0x1f250, 1, "得 可"), (0x1fbf0, 1, "0 1 2 3 4 5 6 7 8 9"),
   (0x2f800, 1, "丽 丸 乁 𠄢 你 侮 侻 倂 偺 備 僧 像 㒞 𠘺 免 兔 兤 具 𠔜 㒹 內 再 𠕋 冗 冤 仌 冬 况 𩇟 凵 刃 㓟 刻 剆 割 剷 㔕 勇 勉 勤 勺 包 匆 北 卉 卑"),
   (0x2f82e, 1, "博 即 卽 卿 卿 卿 𠨬 灰 及 叟 𠭣 叫 叱 吆 咞 吸 呈 周 咢 哶 唐 啓 啣 善 善 喙 喫 喳 嗂 圖 嘆 圗 噑 噴 切 壮 城 埴 堍 型 堲 報 墬 𡓤 売 壷"),
   (0x2f85c, 1, "夆 多 夢 奢 𡚨 𡛪 姬 娛 娧 姘 婦 㛮 㛼 嬈 嬾 嬾 𡧈 寃 寘 寧 寳 𡬘 寿 将 当 尢 㞁 屠 屮 峀 岍 𡷤 嵃 𡷦 嵮 嵫 嵼 巡 巢 㠯 巽 帨 帽 幩 㡢 𢆃"),
   (0x2f88a, 1, "㡼 庰 庳 庶 廊 𪎒 廾 𢌱 𢌱 舁 弢 弢 㣇 𣊸 𦇚 形 彫 㣣 徚 忍 志 忹 悁 㤺 㤜 悔 𢛔 惇 慈 慌 慎 慌 慺 憎 憲 憤 憯 懞 懲 懶 成 戛 扝 抱 拔 捐"),
   (0x2f8b8, 1, "𢬌 挽 拼 捨 掃 揤 𢯱 搢 揅 掩 㨮 摩 摾 撝 摷 㩬 敏 敬 𣀊 旣 書 晉 㬙 暑 㬈 㫤 冒 冕 最 暜 肭 䏙 朗 望 朡 杞 杓 𣏃 㭉 柺 枅 桒 梅 𣑭 梎 栟"),
   (0x2f8e6, 1, "椔 㮝 楂 榣 槪 檨 𣚣 櫛 㰘 次 𣢧 歔 㱎 歲 殟 殺 殻 𣪍 𡴋 𣫺 汎 𣲼 沿 泍 汧 洖 派 海 流 浩 浸 涅 𣴞 洴 港 湮 㴳 滋 滇 𣻑 淹 潮 𣽞 𣾎 濆 瀹"),
   (0x2f914, 1, "瀞 瀛 㶖 灊 災 灷 炭 𠔥 煅 𤉣 熜 𤎫 爨 爵 牐 𤘈 犀 犕 𤜵 𤠔 獺 王 㺬 玥 㺸 㺸 瑇 瑜 瑱 璅 瓊 㼛 甤 𤰶 甾 𤲒 異 𢆟 瘐 𤾡 𤾸 𥁄 㿼 䀈 直 𥃳"),
   (0x2f942, 1, "𥃲 𥄙 𥄳 眞 真 真 睊 䀹 瞋 䁆 䂖 𥐝 硎 碌 磌 䃣 𥘦 祖 𥚚 𥛅 福 秫 䄯 穀 穊 穏 𥥼 𥪧 𥪧 竮 䈂 𥮫 篆 築 䈧 𥲀 糒 䊠 糨 糣 紀 𥾆 絣 䌁 緇 縂"),
   (0x2f970, 1, "繅 䌴 𦈨 𦉇 䍙 𦋙 罺 𦌾 羕 翺 者 𦓚 𦔣 聠 𦖨 聰 𣍟 䏕 育 脃 䐋 脾 媵 𦞧 𦞵 𣎓 𣎜 舁 舄 辞 䑫 芑 芋 芝 劳 花 芳 芽 苦 𦬼 若 茝 荣 莭 茣 莽"),
   (0x2f99e, 1, "菧 著 荓 菊 菌 菜 𦰶 𦵫 𦳕 䔫 蓱 蓳 蔖 𧏊 蕤 𦼬 䕝 䕡 𦾱 𧃒 䕫 虐 虜 虧 虩 蚩 蚈 蜎 蛢 蝹 蜨 蝫 螆 䗗 蟡 蠁 䗹 衠 衣 𧙧 裗 裞 䘵 裺 㒻 𧢮"),
   (0x2f9cc, 1, "𧥦 䚾 䛇 誠 諭 變 豕 𧲨 貫 賁 贛 起 𧼯 𠠄 跋 趼 跰 𠣞 軔 輸 𨗒 𨗭 邔 郱 鄑 𨜮 鄛 鈸 鋗 鋘 鉼 鏹 鐕 𨯺 開 䦕 閷 𨵷 䧦 雃 嶲 霣 𩅅 𩈚 䩮 䩶"),
   (0x2f9fa, 1, "韠 𩐊 䪲 𩒖 頋 頋 頩 𩖶 飢 䬳 餩 馧 駂 駾 䯎 𩬰 鬒 鱀 鳽 䳎 䳭 鵧 𪃎 䳸 𪄅 𪈎 𪊑 麻 䵖 黹 黾 鼅 鼏 鼖 鼻 𪘀")]

/-- Characters of writings from right to left. Characters that no name holds, and marks, may be among them. -/
def leftwardLetters : Ranges := .ofSteps
  ["5be 37 13 1 2 1 1 1 d 30 22 69 f 2 7 2 a fc 4 d0 f2e8 11 2b0 1 98c 11c 4 216 a 1e4 1c 50 f0 177 d809 53e"]

/-- Arabic digits and signs of numbers. -/
def arabicDigits : Ranges := .ofSteps
  ["660 a 1 2 106c3 a 126 1f"]

/-- European digits. -/
def europeanDigits : Ranges := .ofSteps
  ["30 a 6b6 a fbe7 1b"]

/-- Signs that go with either direction. Characters that no name holds, and marks, may be among them. -/
def neutrals : Ranges := .ofSteps
  ["21 e c 26 1a 5d 1f 1 1c1 2 7 e 2 1c 1 11 75 1 80 1 193 6 76 2 1 2 1 1 1 2 5a 1 73 1 a 1 10c 4 1f8 2 7 1 f5 1 101",
   "8 7d 7 1c0 1 fa 4 452 a 66 1 29a 2 13e 1 14 1b 135 6 98 22 60c 142 3c 1ac 45 1a 1 316 1 153 100 300 e5 6 e 7 100",
   "205 3 19 f 1 6 1 5 3 60 1 5a 1 c4 26 1bda 40 5690 37 146 3 63 d 80 22 66 1 9f 4 c 2 3a 4 2f2 2 5057 284 2ba 1 3e",
   "4d 3 11 77e 1 219 7 512 14 5fa d 968 1d 4ff0 1 5c1d 2f1 2f8 eb 2c 57 fa8 1 bf0 240 3d 3 3d 1 b2 99b"]

/-- Letters joined on both sides. -/
def joinedLetters : Ranges := .ofSteps
  ["620 1 5 1 1 1 1 5 4 d 1 7 1 2 23 2 8 10 12 26 1 2 9 1 1 1 1 2 28 3 2 1 12 3 5 4 1 9 1 1 1 1 1 2 1f b 3 f 2 4 1 1",
   "2 3 2 6 4a 21 56 5 2 1 1 a 1 1 a 1 1 4 2 1 1d 1 2 5 1 1 10 a 5 2 2 6 1 f f3e 1 18 59 e 22 1 1 8f95 32 624e 5 e 4",
   "1 5 1 3 a 4 91 1 1 1 3 3 1 2 1 1 2 1 1c 2 152 21 1 1 19f 2 1 2 68 3 1 11 c 3 1c 4 2 c 2e 1 1 2 4 1 2 2 1 2 1 1 2",
   "1 5 1 d935 44"]

/-- Letters joined to the one before them only. -/
def joinedBefore : Ranges := .ofSteps
  ["622 4 1 1 1 1 5 4 15 1 28 3 1 3 10 12 26 1 2 9 1 1 1 1 2 2 1 1 18 2 20 1 4 5 4 1 9 1 1 1 1 1 2 1 1d 1 b 3 f 2 4",
   "1 1 2 3 2 c6 1 5 2 1 1 a 1 1 3 e 1 1 2 5 13 b 1 1b 3 1 1 2 2 6 1 1020b 1 1 1 1 2 3 5 a 1 3 1 2 1 a 1 91 1 1 3 3",
   "1 2 1 1 2 1 1 17 4 175 1 19f 1 70 1 20 1 1f 2 3e 3 2 2 2 1 4 2 5 1"]

/-- Letters joined to the one after them only. -/
def joinedAfter : Ranges := .ofSteps
  ["a872 1 625a 1 9 1 228 1 2ca 1"]

end Pagewalk.Url
