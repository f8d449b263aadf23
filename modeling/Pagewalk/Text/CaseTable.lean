import Pagewalk.Text.Ranges

/-!
# Small and capital letters

The small letters of capitals, the capitals of small letters, and which characters have a case or do not matter
between those that have one.
-/

namespace Pagewalk.Text

/-- The small letters of capitals. -/
def smallLetters : Replacements := .ofRows
  [(0x41, 1, "a b c d e f g h i j k l m n o p q r s t u v w x y z"),
   (0xc0, 1, "à á â ã ä å æ ç è é ê ë ì í î ï ð ñ ò ó ô õ ö"), (0xd8, 1, "ø ù ú û ü ý þ"),
   (0x100, 2, "ā ă ą ć ĉ ċ č ď đ ē ĕ ė ę ě ĝ ğ ġ ģ ĥ ħ ĩ ī ĭ į i̇ ĳ ĵ ķ"), (0x139, 2, "ĺ ļ ľ ŀ ł ń ņ ň"),
   (0x14a, 2, "ŋ ō ŏ ő œ ŕ ŗ ř ś ŝ ş š ţ ť ŧ ũ ū ŭ ů ű ų ŵ ŷ ÿ"), (0x179, 2, "ź ż ž"), (0x181, 1, "ɓ ƃ"),
   (0x184, 2, "ƅ ɔ"), (0x187, 2, "ƈ ɖ"), (0x18a, 1, "ɗ ƌ"), (0x18e, 1, "ǝ ə ɛ ƒ"), (0x193, 1, "ɠ ɣ"),
   (0x196, 1, "ɩ ɨ ƙ"), (0x19c, 1, "ɯ ɲ"), (0x19f, 1, "ɵ ơ"), (0x1a2, 2, "ƣ ƥ ʀ"), (0x1a7, 2, "ƨ ʃ"),
   (0x1ac, 2, "ƭ ʈ"), (0x1af, 2, "ư ʊ"), (0x1b2, 1, "ʋ ƴ"), (0x1b5, 2, "ƶ ʒ"), (0x1b8, 1, "ƹ"), (0x1bc, 1, "ƽ"),
   (0x1c4, 1, "ǆ ǆ"), (0x1c7, 1, "ǉ ǉ"), (0x1ca, 1, "ǌ ǌ"), (0x1cd, 2, "ǎ ǐ ǒ ǔ ǖ ǘ ǚ ǜ"),
   (0x1de, 2, "ǟ ǡ ǣ ǥ ǧ ǩ ǫ ǭ ǯ"), (0x1f1, 1, "ǳ ǳ"), (0x1f4, 2, "ǵ ƕ"), (0x1f7, 1, "ƿ ǹ"),
   (0x1fa, 2, "ǻ ǽ ǿ ȁ ȃ ȅ ȇ ȉ ȋ ȍ ȏ ȑ ȓ ȕ ȗ ș ț ȝ ȟ ƞ ȣ ȥ ȧ ȩ ȫ ȭ ȯ ȱ ȳ"), (0x23a, 1, "ⱥ ȼ"), (0x23d, 1, "ƚ ⱦ"),
   (0x241, 2, "ɂ ƀ"), (0x244, 1, "ʉ ʌ ɇ"), (0x248, 2, "ɉ ɋ ɍ ɏ"), (0x370, 2, "ͱ ͳ"), (0x376, 1, "ͷ"), (0x37f, 1, "ϳ"),
   (0x386, 2, "ά έ"), (0x389, 1, "ή ί"), (0x38c, 2, "ό ύ"), (0x38f, 2, "ώ α"),
   (0x392, 1, "β γ δ ε ζ η θ ι κ λ μ ν ξ ο π ρ"), (0x3a3, 1, "σ τ υ φ χ ψ ω ϊ ϋ"), (0x3cf, 1, "ϗ"),
   (0x3d8, 2, "ϙ ϛ ϝ ϟ ϡ ϣ ϥ ϧ ϩ ϫ ϭ ϯ"), (0x3f4, 1, "θ"), (0x3f7, 2, "ϸ ϲ"), (0x3fa, 1, "ϻ"),
   (0x3fd, 1, "ͻ ͼ ͽ ѐ ё ђ ѓ є ѕ і ї ј љ њ ћ ќ ѝ ў џ а б в г д е ж з и й к л м н о п р с т у ф х ц ч ш щ ъ ы"),
   (0x42c, 1, "ь э ю я"), (0x460, 2, "ѡ ѣ ѥ ѧ ѩ ѫ ѭ ѯ ѱ ѳ ѵ ѷ ѹ ѻ ѽ ѿ ҁ"),
   (0x48a, 2, "ҋ ҍ ҏ ґ ғ ҕ җ ҙ қ ҝ ҟ ҡ ң ҥ ҧ ҩ ҫ ҭ ү ұ ҳ ҵ ҷ ҹ һ ҽ ҿ ӏ"), (0x4c1, 2, "ӂ ӄ ӆ ӈ ӊ ӌ ӎ"),
   (0x4d0, 2, "ӑ ӓ ӕ ӗ ә ӛ ӝ ӟ ӡ ӣ ӥ ӧ ө ӫ ӭ ӯ ӱ ӳ ӵ ӷ ӹ ӻ ӽ ӿ ԁ ԃ ԅ ԇ ԉ ԋ ԍ ԏ ԑ ԓ ԕ ԗ ԙ ԛ ԝ ԟ ԡ ԣ ԥ ԧ ԩ ԫ ԭ"),
   (0x52e, 2, "ԯ"), (0x531, 1, "ա բ գ դ ե զ է ը թ ժ ի լ խ ծ կ հ ձ ղ ճ մ յ ն շ ո չ պ ջ ռ ս վ տ ր ց ւ փ ք օ ֆ"),
   (0x10a0, 1, "ⴀ ⴁ ⴂ ⴃ ⴄ ⴅ ⴆ ⴇ ⴈ ⴉ ⴊ ⴋ ⴌ ⴍ ⴎ ⴏ ⴐ ⴑ ⴒ ⴓ ⴔ ⴕ ⴖ ⴗ ⴘ ⴙ ⴚ ⴛ ⴜ ⴝ ⴞ ⴟ ⴠ ⴡ ⴢ ⴣ ⴤ ⴥ"), (0x10c7, 1, "ⴧ"),
   (0x10cd, 1, "ⴭ"),
   (0x13a0, 1, "ꭰ ꭱ ꭲ ꭳ ꭴ ꭵ ꭶ ꭷ ꭸ ꭹ ꭺ ꭻ ꭼ ꭽ ꭾ ꭿ ꮀ ꮁ ꮂ ꮃ ꮄ ꮅ ꮆ ꮇ ꮈ ꮉ ꮊ ꮋ ꮌ ꮍ ꮎ ꮏ ꮐ ꮑ ꮒ ꮓ ꮔ ꮕ ꮖ ꮗ ꮘ ꮙ ꮚ ꮛ ꮜ ꮝ ꮞ"),
   (0x13cf, 1, "ꮟ ꮠ ꮡ ꮢ ꮣ ꮤ ꮥ ꮦ ꮧ ꮨ ꮩ ꮪ ꮫ ꮬ ꮭ ꮮ ꮯ ꮰ ꮱ ꮲ ꮳ ꮴ ꮵ ꮶ ꮷ ꮸ ꮹ ꮺ ꮻ ꮼ ꮽ ꮾ ꮿ ᏸ ᏹ ᏺ ᏻ ᏼ ᏽ"), (0x1c89, 1, "ᲊ"),
   (0x1c90, 1, "ა ბ გ დ ე ვ ზ თ ი კ ლ მ ნ ო პ ჟ რ ს ტ უ ფ ქ ღ ყ შ ჩ ც ძ წ ჭ ხ ჯ ჰ ჱ ჲ ჳ ჴ ჵ ჶ ჷ ჸ ჹ ჺ"),
   (0x1cbd, 1, "ჽ ჾ ჿ"),
   (0x1e00, 2, "ḁ ḃ ḅ ḇ ḉ ḋ ḍ ḏ ḑ ḓ ḕ ḗ ḙ ḛ ḝ ḟ ḡ ḣ ḥ ḧ ḩ ḫ ḭ ḯ ḱ ḳ ḵ ḷ ḹ ḻ ḽ ḿ ṁ ṃ ṅ ṇ ṉ ṋ ṍ ṏ ṑ ṓ ṕ ṗ ṙ ṛ ṝ"),
   (0x1e5e, 2, "ṟ ṡ ṣ ṥ ṧ ṩ ṫ ṭ ṯ ṱ ṳ ṵ ṷ ṹ ṻ ṽ ṿ ẁ ẃ ẅ ẇ ẉ ẋ ẍ ẏ ẑ ẓ ẕ"),
   (0x1e9e, 2, "ß ạ ả ấ ầ ẩ ẫ ậ ắ ằ ẳ ẵ ặ ẹ ẻ ẽ ế ề ể ễ ệ ỉ ị ọ ỏ ố ồ ổ ỗ ộ ớ ờ ở ỡ ợ ụ ủ ứ ừ ử ữ ự ỳ ỵ ỷ ỹ ỻ"),
   (0x1efc, 2, "ỽ ỿ"), (0x1f08, 1, "ἀ ἁ ἂ ἃ ἄ ἅ ἆ ἇ"), (0x1f18, 1, "ἐ ἑ ἒ ἓ ἔ ἕ"), (0x1f28, 1, "ἠ ἡ ἢ ἣ ἤ ἥ ἦ ἧ"),
   (0x1f38, 1, "ἰ ἱ ἲ ἳ ἴ ἵ ἶ ἷ"), (0x1f48, 1, "ὀ ὁ ὂ ὃ ὄ ὅ"), (0x1f59, 2, "ὑ ὓ ὕ ὗ"), (0x1f68, 1, "ὠ ὡ ὢ ὣ ὤ ὥ ὦ ὧ"),
   (0x1f88, 1, "ᾀ ᾁ ᾂ ᾃ ᾄ ᾅ ᾆ ᾇ"), (0x1f98, 1, "ᾐ ᾑ ᾒ ᾓ ᾔ ᾕ ᾖ ᾗ"), (0x1fa8, 1, "ᾠ ᾡ ᾢ ᾣ ᾤ ᾥ ᾦ ᾧ"),
   (0x1fb8, 1, "ᾰ ᾱ ὰ ά ᾳ"), (0x1fc8, 1, "ὲ έ ὴ ή ῃ"), (0x1fd8, 1, "ῐ ῑ ὶ ί"), (0x1fe8, 1, "ῠ ῡ ὺ ύ ῥ"),
   (0x1ff8, 1, "ὸ ό ὼ ώ ῳ"), (0x2126, 1, "ω"), (0x212a, 1, "k å"), (0x2132, 1, "ⅎ"),
   (0x2160, 1, "ⅰ ⅱ ⅲ ⅳ ⅴ ⅵ ⅶ ⅷ ⅸ ⅹ ⅺ ⅻ ⅼ ⅽ ⅾ ⅿ"), (0x2183, 1, "ↄ"),
   (0x24b6, 1, "ⓐ ⓑ ⓒ ⓓ ⓔ ⓕ ⓖ ⓗ ⓘ ⓙ ⓚ ⓛ ⓜ ⓝ ⓞ ⓟ ⓠ ⓡ ⓢ ⓣ ⓤ ⓥ ⓦ ⓧ ⓨ ⓩ"),
   (0x2c00, 1, "ⰰ ⰱ ⰲ ⰳ ⰴ ⰵ ⰶ ⰷ ⰸ ⰹ ⰺ ⰻ ⰼ ⰽ ⰾ ⰿ ⱀ ⱁ ⱂ ⱃ ⱄ ⱅ ⱆ ⱇ ⱈ ⱉ ⱊ ⱋ ⱌ ⱍ ⱎ ⱏ ⱐ ⱑ ⱒ ⱓ ⱔ ⱕ ⱖ ⱗ ⱘ ⱙ ⱚ ⱛ ⱜ ⱝ ⱞ"),
   (0x2c2f, 1, "ⱟ"), (0x2c60, 2, "ⱡ ɫ"), (0x2c63, 1, "ᵽ ɽ"), (0x2c67, 2, "ⱨ ⱪ ⱬ ɑ"), (0x2c6e, 1, "ɱ ɐ ɒ"),
   (0x2c72, 1, "ⱳ"), (0x2c75, 1, "ⱶ"), (0x2c7e, 1, "ȿ ɀ ⲁ"),
   (0x2c82, 2, "ⲃ ⲅ ⲇ ⲉ ⲋ ⲍ ⲏ ⲑ ⲓ ⲕ ⲗ ⲙ ⲛ ⲝ ⲟ ⲡ ⲣ ⲥ ⲧ ⲩ ⲫ ⲭ ⲯ ⲱ ⲳ ⲵ ⲷ ⲹ ⲻ ⲽ ⲿ ⳁ ⳃ ⳅ ⳇ ⳉ ⳋ ⳍ ⳏ ⳑ ⳓ ⳕ ⳗ ⳙ ⳛ ⳝ ⳟ"),
   (0x2ce0, 2, "ⳡ ⳣ"), (0x2ceb, 2, "ⳬ ⳮ"), (0x2cf2, 1, "ⳳ"),
   (0xa640, 2, "ꙁ ꙃ ꙅ ꙇ ꙉ ꙋ ꙍ ꙏ ꙑ ꙓ ꙕ ꙗ ꙙ ꙛ ꙝ ꙟ ꙡ ꙣ ꙥ ꙧ ꙩ ꙫ ꙭ"), (0xa680, 2, "ꚁ ꚃ ꚅ ꚇ ꚉ ꚋ ꚍ ꚏ ꚑ ꚓ ꚕ ꚗ ꚙ ꚛ"),
   (0xa722, 2, "ꜣ ꜥ ꜧ ꜩ ꜫ ꜭ ꜯ"), (0xa732, 2, "ꜳ ꜵ ꜷ ꜹ ꜻ ꜽ ꜿ ꝁ ꝃ ꝅ ꝇ ꝉ ꝋ ꝍ ꝏ ꝑ ꝓ ꝕ ꝗ ꝙ ꝛ ꝝ ꝟ ꝡ ꝣ ꝥ ꝧ ꝩ ꝫ ꝭ ꝯ"),
   (0xa779, 2, "ꝺ ꝼ ᵹ"), (0xa77e, 2, "ꝿ ꞁ ꞃ ꞅ ꞇ"), (0xa78b, 2, "ꞌ ɥ"), (0xa790, 2, "ꞑ ꞓ"),
   (0xa796, 2, "ꞗ ꞙ ꞛ ꞝ ꞟ ꞡ ꞣ ꞥ ꞧ ꞩ ɦ"), (0xa7ab, 1, "ɜ ɡ ɬ ɪ"), (0xa7b0, 1, "ʞ ʇ ʝ ꭓ ꞵ"),
   (0xa7b6, 2, "ꞷ ꞹ ꞻ ꞽ ꞿ ꟁ ꟃ ꞔ"), (0xa7c5, 1, "ʂ ᶎ ꟈ"), (0xa7c9, 2, "ꟊ ɤ"), (0xa7cc, 2, "ꟍ ꟏ ꟑ ꟓ ꟕ ꟗ ꟙ ꟛ ƛ"),
   (0xa7f5, 1, "ꟶ"), (0xff21, 1, "ａ ｂ ｃ ｄ ｅ ｆ ｇ ｈ ｉ ｊ ｋ ｌ ｍ ｎ ｏ ｐ ｑ ｒ ｓ ｔ ｕ ｖ ｗ ｘ ｙ ｚ"),
   (0x10400, 1, "𐐨 𐐩 𐐪 𐐫 𐐬 𐐭 𐐮 𐐯 𐐰 𐐱 𐐲 𐐳 𐐴 𐐵 𐐶 𐐷 𐐸 𐐹 𐐺 𐐻 𐐼 𐐽 𐐾 𐐿 𐑀 𐑁 𐑂 𐑃 𐑄 𐑅 𐑆 𐑇 𐑈 𐑉 𐑊 𐑋 𐑌 𐑍 𐑎 𐑏"),
   (0x104b0, 1, "𐓘 𐓙 𐓚 𐓛 𐓜 𐓝 𐓞 𐓟 𐓠 𐓡 𐓢 𐓣 𐓤 𐓥 𐓦 𐓧 𐓨 𐓩 𐓪 𐓫 𐓬 𐓭 𐓮 𐓯 𐓰 𐓱 𐓲 𐓳 𐓴 𐓵 𐓶 𐓷 𐓸 𐓹 𐓺 𐓻"),
   (0x10570, 1, "𐖗 𐖘 𐖙 𐖚 𐖛 𐖜 𐖝 𐖞 𐖟 𐖠 𐖡"), (0x1057c, 1, "𐖣 𐖤 𐖥 𐖦 𐖧 𐖨 𐖩 𐖪 𐖫 𐖬 𐖭 𐖮 𐖯 𐖰 𐖱"),
   (0x1058c, 1, "𐖳 𐖴 𐖵 𐖶 𐖷 𐖸 𐖹"), (0x10594, 1, "𐖻 𐖼"),
   (0x10c80, 1, "𐳀 𐳁 𐳂 𐳃 𐳄 𐳅 𐳆 𐳇 𐳈 𐳉 𐳊 𐳋 𐳌 𐳍 𐳎 𐳏 𐳐 𐳑 𐳒 𐳓 𐳔 𐳕 𐳖 𐳗 𐳘 𐳙 𐳚 𐳛 𐳜 𐳝 𐳞 𐳟 𐳠 𐳡 𐳢 𐳣 𐳤 𐳥 𐳦 𐳧 𐳨 𐳩 𐳪 𐳫 𐳬 𐳭"),
   (0x10cae, 1, "𐳮 𐳯 𐳰 𐳱 𐳲"), (0x10d50, 1, "𐵰 𐵱 𐵲 𐵳 𐵴 𐵵 𐵶 𐵷 𐵸 𐵹 𐵺 𐵻 𐵼 𐵽 𐵾 𐵿 𐶀 𐶁 𐶂 𐶃 𐶄 𐶅"),
   (0x118a0, 1, "𑣀 𑣁 𑣂 𑣃 𑣄 𑣅 𑣆 𑣇 𑣈 𑣉 𑣊 𑣋 𑣌 𑣍 𑣎 𑣏 𑣐 𑣑 𑣒 𑣓 𑣔 𑣕 𑣖 𑣗 𑣘 𑣙 𑣚 𑣛 𑣜 𑣝 𑣞 𑣟"),
   (0x16e40, 1, "𖹠 𖹡 𖹢 𖹣 𖹤 𖹥 𖹦 𖹧 𖹨 𖹩 𖹪 𖹫 𖹬 𖹭 𖹮 𖹯 𖹰 𖹱 𖹲 𖹳 𖹴 𖹵 𖹶 𖹷 𖹸 𖹹 𖹺 𖹻 𖹼 𖹽 𖹾 𖹿"),
   (0x16ea0, 1, "𖺻 𖺼 𖺽 𖺾 𖺿 𖻀 𖻁 𖻂 𖻃 𖻄 𖻅 𖻆 𖻇 𖻈 𖻉 𖻊 𖻋 𖻌 𖻍 𖻎 𖻏 𖻐 𖻑 𖻒 𖻓"),
   (0x1e900, 1, "𞤢 𞤣 𞤤 𞤥 𞤦 𞤧 𞤨 𞤩 𞤪 𞤫 𞤬 𞤭 𞤮 𞤯 𞤰 𞤱 𞤲 𞤳 𞤴 𞤵 𞤶 𞤷 𞤸 𞤹 𞤺 𞤻 𞤼 𞤽 𞤾 𞤿 𞥀 𞥁 𞥂 𞥃")]

/-- The capitals of small letters; some are several letters. -/
def capitalLetters : Replacements := .ofRows
  [(0x61, 1, "A B C D E F G H I J K L M N O P Q R S T U V W X Y Z"), (0xb5, 1, "Μ"),
   (0xdf, 1, "SS À Á Â Ã Ä Å Æ Ç È É Ê Ë Ì Í Î Ï Ð Ñ Ò Ó Ô Õ Ö"), (0xf8, 1, "Ø Ù Ú Û Ü Ý Þ Ÿ"),
   (0x101, 2, "Ā Ă Ą Ć Ĉ Ċ Č Ď Đ Ē Ĕ Ė Ę Ě Ĝ Ğ Ġ Ģ Ĥ Ħ Ĩ Ī Ĭ Į I Ĳ Ĵ Ķ"), (0x13a, 2, "Ĺ Ļ Ľ Ŀ Ł Ń Ņ Ň"),
   (0x149, 2, "ʼN Ŋ Ō Ŏ Ő Œ Ŕ Ŗ Ř Ś Ŝ Ş Š Ţ Ť Ŧ Ũ Ū Ŭ Ů Ű Ų Ŵ Ŷ"), (0x17a, 2, "Ź Ż Ž"), (0x17f, 1, "S Ƀ"),
   (0x183, 2, "Ƃ Ƅ"), (0x188, 1, "Ƈ"), (0x18c, 1, "Ƌ"), (0x192, 1, "Ƒ"), (0x195, 1, "Ƕ"), (0x199, 1, "Ƙ Ƚ Ƛ"),
   (0x19e, 1, "Ƞ"), (0x1a1, 2, "Ơ Ƣ Ƥ"), (0x1a8, 1, "Ƨ"), (0x1ad, 1, "Ƭ"), (0x1b0, 1, "Ư"), (0x1b4, 2, "Ƴ Ƶ"),
   (0x1b9, 1, "Ƹ"), (0x1bd, 2, "Ƽ Ƿ"), (0x1c5, 1, "Ǆ Ǆ"), (0x1c8, 1, "Ǉ Ǉ"), (0x1cb, 1, "Ǌ Ǌ"),
   (0x1ce, 2, "Ǎ Ǐ Ǒ Ǔ Ǖ Ǘ Ǚ Ǜ"), (0x1dd, 2, "Ǝ Ǟ Ǡ Ǣ Ǥ Ǧ Ǩ Ǫ Ǭ Ǯ"), (0x1f0, 2, "J̌ Ǳ"), (0x1f3, 2, "Ǳ Ǵ"),
   (0x1f9, 2, "Ǹ Ǻ Ǽ Ǿ Ȁ Ȃ Ȅ Ȇ Ȉ Ȋ Ȍ Ȏ Ȑ Ȓ Ȕ Ȗ Ș Ț Ȝ Ȟ"), (0x223, 2, "Ȣ Ȥ Ȧ Ȩ Ȫ Ȭ Ȯ Ȱ Ȳ"), (0x23c, 1, "Ȼ"),
   (0x23f, 1, "Ȿ Ɀ"), (0x242, 1, "Ɂ"), (0x247, 2, "Ɇ Ɉ Ɋ Ɍ Ɏ"), (0x250, 1, "Ɐ Ɑ Ɒ Ɓ Ɔ"), (0x256, 1, "Ɖ Ɗ"),
   (0x259, 2, "Ə Ɛ"), (0x25c, 1, "Ɜ"), (0x260, 1, "Ɠ Ɡ"), (0x263, 1, "Ɣ Ɤ Ɥ Ɦ"), (0x268, 1, "Ɨ Ɩ Ɪ Ɫ Ɬ"),
   (0x26f, 2, "Ɯ Ɱ"), (0x272, 1, "Ɲ"), (0x275, 1, "Ɵ"), (0x27d, 1, "Ɽ"), (0x280, 2, "Ʀ Ʂ"), (0x283, 1, "Ʃ"),
   (0x287, 1, "Ʇ Ʈ Ʉ Ʊ Ʋ Ʌ"), (0x292, 1, "Ʒ"), (0x29d, 1, "Ʝ Ʞ"), (0x345, 1, "Ι"), (0x371, 2, "Ͱ Ͳ"), (0x377, 1, "Ͷ"),
   (0x37b, 1, "Ͻ Ͼ Ͽ"), (0x390, 1, "Ϊ́"),
   (0x3ac, 1, "Ά Έ Ή Ί Ϋ́ Α Β Γ Δ Ε Ζ Η Θ Ι Κ Λ Μ Ν Ξ Ο Π Ρ Σ Σ Τ Υ Φ Χ Ψ Ω Ϊ Ϋ Ό Ύ Ώ"), (0x3d0, 1, "Β Θ"),
   (0x3d5, 1, "Φ Π Ϗ"), (0x3d9, 2, "Ϙ Ϛ Ϝ Ϟ Ϡ Ϣ Ϥ Ϧ Ϩ Ϫ Ϭ Ϯ"), (0x3f0, 1, "Κ Ρ Ϲ Ϳ"), (0x3f5, 1, "Ε"),
   (0x3f8, 1, "Ϸ"), (0x3fb, 1, "Ϻ"),
   (0x430, 1, "А Б В Г Д Е Ж З И Й К Л М Н О П Р С Т У Ф Х Ц Ч Ш Щ Ъ Ы Ь Э Ю Я Ѐ Ё Ђ Ѓ Є Ѕ І Ї Ј Љ Њ Ћ Ќ Ѝ Ў"),
   (0x45f, 1, "Џ"), (0x461, 2, "Ѡ Ѣ Ѥ Ѧ Ѩ Ѫ Ѭ Ѯ Ѱ Ѳ Ѵ Ѷ Ѹ Ѻ Ѽ Ѿ Ҁ"),
   (0x48b, 2, "Ҋ Ҍ Ҏ Ґ Ғ Ҕ Җ Ҙ Қ Ҝ Ҟ Ҡ Ң Ҥ Ҧ Ҩ Ҫ Ҭ Ү Ұ Ҳ Ҵ Ҷ Ҹ Һ Ҽ Ҿ"), (0x4c2, 2, "Ӂ Ӄ Ӆ Ӈ Ӊ Ӌ Ӎ"),
   (0x4cf, 2, "Ӏ Ӑ Ӓ Ӕ Ӗ Ә Ӛ Ӝ Ӟ Ӡ Ӣ Ӥ Ӧ Ө Ӫ Ӭ Ӯ Ӱ Ӳ Ӵ Ӷ Ӹ Ӻ Ӽ Ӿ Ԁ Ԃ Ԅ Ԇ Ԉ Ԋ Ԍ Ԏ Ԑ Ԓ Ԕ Ԗ Ԙ Ԛ Ԝ Ԟ Ԡ Ԣ Ԥ Ԧ Ԩ Ԫ"),
   (0x52d, 2, "Ԭ Ԯ"), (0x561, 1, "Ա Բ Գ Դ Ե Զ Է Ը Թ Ժ Ի Լ Խ Ծ Կ Հ Ձ Ղ Ճ Մ Յ Ն Շ Ո Չ Պ Ջ Ռ Ս Վ Տ Ր Ց Ւ Փ Ք Օ Ֆ ԵՒ"),
   (0x10d0, 1, "Ა Ბ Გ Დ Ე Ვ Ზ Თ Ი Კ Ლ Მ Ნ Ო Პ Ჟ Რ Ს Ტ Უ Ფ Ქ Ღ Ყ Შ Ჩ Ც Ძ Წ Ჭ Ხ Ჯ Ჰ Ჱ Ჲ Ჳ Ჴ Ჵ Ჶ Ჷ Ჸ Ჹ Ჺ"),
   (0x10fd, 1, "Ჽ Ჾ Ჿ"), (0x13f8, 1, "Ᏸ Ᏹ Ᏺ Ᏻ Ᏼ Ᏽ"), (0x1c80, 1, "В Д О С Т Т Ъ Ѣ Ꙋ"), (0x1c8a, 1, "Ᲊ"),
   (0x1d79, 1, "Ᵹ"), (0x1d7d, 1, "Ᵽ"), (0x1d8e, 1, "Ᶎ"),
   (0x1e01, 2, "Ḁ Ḃ Ḅ Ḇ Ḉ Ḋ Ḍ Ḏ Ḑ Ḓ Ḕ Ḗ Ḙ Ḛ Ḝ Ḟ Ḡ Ḣ Ḥ Ḧ Ḩ Ḫ Ḭ Ḯ Ḱ Ḳ Ḵ Ḷ Ḹ Ḻ Ḽ Ḿ Ṁ Ṃ Ṅ Ṇ Ṉ Ṋ Ṍ Ṏ Ṑ Ṓ Ṕ Ṗ Ṙ Ṛ Ṝ"),
   (0x1e5f, 2, "Ṟ Ṡ Ṣ Ṥ Ṧ Ṩ Ṫ Ṭ Ṯ Ṱ Ṳ Ṵ Ṷ Ṹ Ṻ Ṽ Ṿ Ẁ Ẃ Ẅ Ẇ Ẉ Ẋ Ẍ Ẏ Ẑ Ẓ Ẕ"), (0x1e96, 1, "H̱ T̈ W̊ Y̊ Aʾ Ṡ"),
   (0x1ea1, 2, "Ạ Ả Ấ Ầ Ẩ Ẫ Ậ Ắ Ằ Ẳ Ẵ Ặ Ẹ Ẻ Ẽ Ế Ề Ể Ễ Ệ Ỉ Ị Ọ Ỏ Ố Ồ Ổ Ỗ Ộ Ớ Ờ Ở Ỡ Ợ Ụ Ủ Ứ Ừ Ử Ữ Ự Ỳ Ỵ Ỷ Ỹ Ỻ Ỽ"),
   (0x1eff, 2, "Ỿ"), (0x1f00, 1, "Ἀ Ἁ Ἂ Ἃ Ἄ Ἅ Ἆ Ἇ"), (0x1f10, 1, "Ἐ Ἑ Ἒ Ἓ Ἔ Ἕ"), (0x1f20, 1, "Ἠ Ἡ Ἢ Ἣ Ἤ Ἥ Ἦ Ἧ"),
   (0x1f30, 1, "Ἰ Ἱ Ἲ Ἳ Ἴ Ἵ Ἶ Ἷ"), (0x1f40, 1, "Ὀ Ὁ Ὂ Ὃ Ὄ Ὅ"), (0x1f50, 1, "Υ̓ Ὑ Υ̓̀ Ὓ Υ̓́ Ὕ Υ̓͂ Ὗ"),
   (0x1f60, 1, "Ὠ Ὡ Ὢ Ὣ Ὤ Ὥ Ὦ Ὧ"), (0x1f70, 1, "Ὰ Ά Ὲ Έ Ὴ Ή Ὶ Ί Ὸ Ό Ὺ Ύ Ὼ Ώ"),
   (0x1f80, 1, "ἈΙ ἉΙ ἊΙ ἋΙ ἌΙ ἍΙ ἎΙ ἏΙ ἈΙ ἉΙ ἊΙ ἋΙ ἌΙ ἍΙ ἎΙ ἏΙ ἨΙ ἩΙ ἪΙ ἫΙ ἬΙ ἭΙ ἮΙ ἯΙ ἨΙ ἩΙ ἪΙ ἫΙ ἬΙ ἭΙ ἮΙ"),
   (0x1f9f, 1, "ἯΙ ὨΙ ὩΙ ὪΙ ὫΙ ὬΙ ὭΙ ὮΙ ὯΙ ὨΙ ὩΙ ὪΙ ὫΙ ὬΙ ὭΙ ὮΙ ὯΙ Ᾰ Ᾱ ᾺΙ ΑΙ ΆΙ"), (0x1fb6, 1, "Α͂ Α͂Ι"),
   (0x1fbc, 2, "ΑΙ Ι"), (0x1fc2, 1, "ῊΙ ΗΙ ΉΙ"), (0x1fc6, 1, "Η͂ Η͂Ι"), (0x1fcc, 1, "ΗΙ"), (0x1fd0, 1, "Ῐ Ῑ Ϊ̀ Ϊ́"),
   (0x1fd6, 1, "Ι͂ Ϊ͂"), (0x1fe0, 1, "Ῠ Ῡ Ϋ̀ Ϋ́ Ρ̓ Ῥ Υ͂ Ϋ͂"), (0x1ff2, 1, "ῺΙ ΩΙ ΏΙ"), (0x1ff6, 1, "Ω͂ Ω͂Ι"),
   (0x1ffc, 1, "ΩΙ"), (0x214e, 1, "Ⅎ"), (0x2170, 1, "Ⅰ Ⅱ Ⅲ Ⅳ Ⅴ Ⅵ Ⅶ Ⅷ Ⅸ Ⅹ Ⅺ Ⅻ Ⅼ Ⅽ Ⅾ Ⅿ"), (0x2184, 1, "Ↄ"),
   (0x24d0, 1, "Ⓐ Ⓑ Ⓒ Ⓓ Ⓔ Ⓕ Ⓖ Ⓗ Ⓘ Ⓙ Ⓚ Ⓛ Ⓜ Ⓝ Ⓞ Ⓟ Ⓠ Ⓡ Ⓢ Ⓣ Ⓤ Ⓥ Ⓦ Ⓧ Ⓨ Ⓩ"),
   (0x2c30, 1, "Ⰰ Ⰱ Ⰲ Ⰳ Ⰴ Ⰵ Ⰶ Ⰷ Ⰸ Ⰹ Ⰺ Ⰻ Ⰼ Ⰽ Ⰾ Ⰿ Ⱀ Ⱁ Ⱂ Ⱃ Ⱄ Ⱅ Ⱆ Ⱇ Ⱈ Ⱉ Ⱊ Ⱋ Ⱌ Ⱍ Ⱎ Ⱏ Ⱐ Ⱑ Ⱒ Ⱓ Ⱔ Ⱕ Ⱖ Ⱗ Ⱘ Ⱙ Ⱚ Ⱛ Ⱜ Ⱝ Ⱞ"),
   (0x2c5f, 1, "Ⱟ"), (0x2c61, 1, "Ⱡ"), (0x2c65, 1, "Ⱥ Ⱦ"), (0x2c68, 2, "Ⱨ Ⱪ Ⱬ"), (0x2c73, 1, "Ⱳ"), (0x2c76, 1, "Ⱶ"),
   (0x2c81, 2, "Ⲁ Ⲃ Ⲅ Ⲇ Ⲉ Ⲋ Ⲍ Ⲏ Ⲑ Ⲓ Ⲕ Ⲗ Ⲙ Ⲛ Ⲝ Ⲟ Ⲡ Ⲣ Ⲥ Ⲧ Ⲩ Ⲫ Ⲭ Ⲯ Ⲱ Ⲳ Ⲵ Ⲷ Ⲹ Ⲻ Ⲽ Ⲿ Ⳁ Ⳃ Ⳅ Ⳇ Ⳉ Ⳋ Ⳍ Ⳏ Ⳑ Ⳓ Ⳕ Ⳗ Ⳙ Ⳛ Ⳝ"),
   (0x2cdf, 2, "Ⳟ Ⳡ Ⳣ"), (0x2cec, 2, "Ⳬ Ⳮ"), (0x2cf3, 1, "Ⳳ"),
   (0x2d00, 1, "Ⴀ Ⴁ Ⴂ Ⴃ Ⴄ Ⴅ Ⴆ Ⴇ Ⴈ Ⴉ Ⴊ Ⴋ Ⴌ Ⴍ Ⴎ Ⴏ Ⴐ Ⴑ Ⴒ Ⴓ Ⴔ Ⴕ Ⴖ Ⴗ Ⴘ Ⴙ Ⴚ Ⴛ Ⴜ Ⴝ Ⴞ Ⴟ Ⴠ Ⴡ Ⴢ Ⴣ Ⴤ Ⴥ"), (0x2d27, 1, "Ⴧ"),
   (0x2d2d, 1, "Ⴭ"), (0xa641, 2, "Ꙁ Ꙃ Ꙅ Ꙇ Ꙉ Ꙋ Ꙍ Ꙏ Ꙑ Ꙓ Ꙕ Ꙗ Ꙙ Ꙛ Ꙝ Ꙟ Ꙡ Ꙣ Ꙥ Ꙧ Ꙩ Ꙫ Ꙭ"),
   (0xa681, 2, "Ꚁ Ꚃ Ꚅ Ꚇ Ꚉ Ꚋ Ꚍ Ꚏ Ꚑ Ꚓ Ꚕ Ꚗ Ꚙ Ꚛ"), (0xa723, 2, "Ꜣ Ꜥ Ꜧ Ꜩ Ꜫ Ꜭ Ꜯ"),
   (0xa733, 2, "Ꜳ Ꜵ Ꜷ Ꜹ Ꜻ Ꜽ Ꜿ Ꝁ Ꝃ Ꝅ Ꝇ Ꝉ Ꝋ Ꝍ Ꝏ Ꝑ Ꝓ Ꝕ Ꝗ Ꝙ Ꝛ Ꝝ Ꝟ Ꝡ Ꝣ Ꝥ Ꝧ Ꝩ Ꝫ Ꝭ Ꝯ"), (0xa77a, 2, "Ꝺ Ꝼ"),
   (0xa77f, 2, "Ꝿ Ꞁ Ꞃ Ꞅ Ꞇ"), (0xa78c, 1, "Ꞌ"), (0xa791, 2, "Ꞑ Ꞓ"), (0xa794, 1, "Ꞔ"),
   (0xa797, 2, "Ꞗ Ꞙ Ꞛ Ꞝ Ꞟ Ꞡ Ꞣ Ꞥ Ꞧ Ꞩ"), (0xa7b5, 2, "Ꞵ Ꞷ Ꞹ Ꞻ Ꞽ Ꞿ Ꟁ Ꟃ"), (0xa7c8, 2, "Ꟈ Ꟊ"),
   (0xa7cd, 2, "Ꟍ ꟎ Ꟑ ꟒ ꟔ Ꟗ Ꟙ Ꟛ"), (0xa7f6, 1, "Ꟶ"), (0xab53, 1, "Ꭓ"),
   (0xab70, 1, "Ꭰ Ꭱ Ꭲ Ꭳ Ꭴ Ꭵ Ꭶ Ꭷ Ꭸ Ꭹ Ꭺ Ꭻ Ꭼ Ꭽ Ꭾ Ꭿ Ꮀ Ꮁ Ꮂ Ꮃ Ꮄ Ꮅ Ꮆ Ꮇ Ꮈ Ꮉ Ꮊ Ꮋ Ꮌ Ꮍ Ꮎ Ꮏ Ꮐ Ꮑ Ꮒ Ꮓ Ꮔ Ꮕ Ꮖ Ꮗ Ꮘ Ꮙ Ꮚ Ꮛ Ꮜ Ꮝ Ꮞ"),
   (0xab9f, 1, "Ꮟ Ꮠ Ꮡ Ꮢ Ꮣ Ꮤ Ꮥ Ꮦ Ꮧ Ꮨ Ꮩ Ꮪ Ꮫ Ꮬ Ꮭ Ꮮ Ꮯ Ꮰ Ꮱ Ꮲ Ꮳ Ꮴ Ꮵ Ꮶ Ꮷ Ꮸ Ꮹ Ꮺ Ꮻ Ꮼ Ꮽ Ꮾ Ꮿ"),
   (0xfb00, 1, "FF FI FL FFI FFL ST ST"), (0xfb13, 1, "ՄՆ ՄԵ ՄԻ ՎՆ ՄԽ"),
   (0xff41, 1, "Ａ Ｂ Ｃ Ｄ Ｅ Ｆ Ｇ Ｈ Ｉ Ｊ Ｋ Ｌ Ｍ Ｎ Ｏ Ｐ Ｑ Ｒ Ｓ Ｔ Ｕ Ｖ Ｗ Ｘ Ｙ Ｚ"),
   (0x10428, 1, "𐐀 𐐁 𐐂 𐐃 𐐄 𐐅 𐐆 𐐇 𐐈 𐐉 𐐊 𐐋 𐐌 𐐍 𐐎 𐐏 𐐐 𐐑 𐐒 𐐓 𐐔 𐐕 𐐖 𐐗 𐐘 𐐙 𐐚 𐐛 𐐜 𐐝 𐐞 𐐟 𐐠 𐐡 𐐢 𐐣 𐐤 𐐥 𐐦 𐐧"),
   (0x104d8, 1, "𐒰 𐒱 𐒲 𐒳 𐒴 𐒵 𐒶 𐒷 𐒸 𐒹 𐒺 𐒻 𐒼 𐒽 𐒾 𐒿 𐓀 𐓁 𐓂 𐓃 𐓄 𐓅 𐓆 𐓇 𐓈 𐓉 𐓊 𐓋 𐓌 𐓍 𐓎 𐓏 𐓐 𐓑 𐓒 𐓓"),
   (0x10597, 1, "𐕰 𐕱 𐕲 𐕳 𐕴 𐕵 𐕶 𐕷 𐕸 𐕹 𐕺"), (0x105a3, 1, "𐕼 𐕽 𐕾 𐕿 𐖀 𐖁 𐖂 𐖃 𐖄 𐖅 𐖆 𐖇 𐖈 𐖉 𐖊"),
   (0x105b3, 1, "𐖌 𐖍 𐖎 𐖏 𐖐 𐖑 𐖒"), (0x105bb, 1, "𐖔 𐖕"),
   (0x10cc0, 1, "𐲀 𐲁 𐲂 𐲃 𐲄 𐲅 𐲆 𐲇 𐲈 𐲉 𐲊 𐲋 𐲌 𐲍 𐲎 𐲏 𐲐 𐲑 𐲒 𐲓 𐲔 𐲕 𐲖 𐲗 𐲘 𐲙 𐲚 𐲛 𐲜 𐲝 𐲞 𐲟 𐲠 𐲡 𐲢 𐲣 𐲤 𐲥 𐲦 𐲧 𐲨 𐲩 𐲪 𐲫 𐲬 𐲭"),
   (0x10cee, 1, "𐲮 𐲯 𐲰 𐲱 𐲲"), (0x10d70, 1, "𐵐 𐵑 𐵒 𐵓 𐵔 𐵕 𐵖 𐵗 𐵘 𐵙 𐵚 𐵛 𐵜 𐵝 𐵞 𐵟 𐵠 𐵡 𐵢 𐵣 𐵤 𐵥"),
   (0x118c0, 1, "𑢠 𑢡 𑢢 𑢣 𑢤 𑢥 𑢦 𑢧 𑢨 𑢩 𑢪 𑢫 𑢬 𑢭 𑢮 𑢯 𑢰 𑢱 𑢲 𑢳 𑢴 𑢵 𑢶 𑢷 𑢸 𑢹 𑢺 𑢻 𑢼 𑢽 𑢾 𑢿"),
   (0x16e60, 1, "𖹀 𖹁 𖹂 𖹃 𖹄 𖹅 𖹆 𖹇 𖹈 𖹉 𖹊 𖹋 𖹌 𖹍 𖹎 𖹏 𖹐 𖹑 𖹒 𖹓 𖹔 𖹕 𖹖 𖹗 𖹘 𖹙 𖹚 𖹛 𖹜 𖹝 𖹞 𖹟"),
   (0x16ebb, 1, "𖺠 𖺡 𖺢 𖺣 𖺤 𖺥 𖺦 𖺧 𖺨 𖺩 𖺪 𖺫 𖺬 𖺭 𖺮 𖺯 𖺰 𖺱 𖺲 𖺳 𖺴 𖺵 𖺶 𖺷 𖺸"),
   (0x1e922, 1, "𞤀 𞤁 𞤂 𞤃 𞤄 𞤅 𞤆 𞤇 𞤈 𞤉 𞤊 𞤋 𞤌 𞤍 𞤎 𞤏 𞤐 𞤑 𞤒 𞤓 𞤔 𞤕 𞤖 𞤗 𞤘 𞤙 𞤚 𞤛 𞤜 𞤝 𞤞 𞤟 𞤠 𞤡")]

/-- Characters that have a case. -/
def casedLetters : Ranges := .ofSteps
  ["41 1a 6 1a 2f 1 a 1 4 1 5 17 1 1f 1 c3 1 4 4 d0 2 23 7 2 1e 5 60 1 2a 4 2 2 2 4 1 1 6 1 1 3 1 1 1 14 1 53 1 8b 8",
   "a6 1 26 9 29 b17 26 1 1 5 1 2 2b 1 4 2a0 56 2 6 882 b 5 2b 2 3 40 c0 40 116 2 6 2 26 2 6 2 8 1 1 1 1 1 1 1 1f 2",
   "35 1 7 1 1 3 3 1 7 3 4 2 6 4 d 5 3 1 7 74 1 d 1 10 d 65 1 4 1 2 a 1 1 3 5 6 1 1 1 1 1 1 4 1 6 4 1 2 4 5 5 4 1 11",
   "20 3 2 331 34 716 e5 6 4 3 2 c 26 1 1 5 1 7912 2e 12 1e 84 66 3 4 1 4d 14 6 1 3 335 2b 1 e 6 50 4f40 7 c 5 409",
   "1a 6 1a 4a5 50 60 24 4 24 74 b 1 f 1 7 1 2 1 b 1 f 1 7 1 2 1c3 1 2 3 1 2a 1 9 4c5 33 d 33 5d 16 a 16 b1a 40 5560",
   "40 20 19 2 19 652c 55 1 47 1 2 2 1 2 2 2 4 1 c 1 1 1 7 1 41 1 4 2 8 1 7 1 1c 1 4 1 5 1 1 3 7 1 154 2 19 1 19 1",
   "1f 1 19 1 1f 1 19 1 1f 1 19 1 1f 1 19 1 8 734 a 1 14 6 6 105 3e 892 44 7ec 1a 6 1a 6 1a"]

/-- Characters that do not matter between those that have a case. -/
def caselessSigns : Ranges := .ofSteps
  ["27 1 6 1 b 1 23 1 1 1 47 1 4 1 1 1 4 1 2 2 1f7 c0 4 2 4 1 9 2 1 1 fb 7 cf 1 5 1 31 2d 1 1 1 2 1 2 1 1 2c 1 b 6 a",
   "b 1 1 23 1 a 15 10 1 65 8 1 a 1 4 21 1 1 1 1e 1b 5b b 3a b 4 1 2 1 18 18 2b 3 2c 1 7 2 5 9 29 3a 37 1 1 1 4 8 4",
   "1 3 7 a 2 d 1 f 1 3a 1 4 4 8 1 14 2 1a 1 2 2 39 1 4 2 4 2 2 3 3 1 1e 2 3 1 b 2 39 1 4 5 1 2 4 1 14 2 16 6 1 1 3a",
   "1 2 1 1 4 8 1 7 2 b 2 1e 1 3d 1 c 1 32 1 3 1 37 1 1 3 5 3 1 4 7 2 b 2 1d 1 3a 1 2 1 6 1 5 2 14 2 1c 2 39 2 4 4 8",
   "1 14 2 1d 1 48 1 7 3 1 1 5a 1 2 7 b 9 62 1 2 9 9 1 1 7 49 2 1b 1 1 1 1 1 37 e 1 5 1 2 5 b 1 24 9 1 66 4 1 6 1 2",
   "2 2 19 2 4 3 10 4 d 1 2 2 6 1 f 1 5e 1 260 3 3b2 3 1d 2 1e 2 1e 2 40 2 1 7 8 1 2 b 3 1 5 1 2d 5 33 1 41 2 22 1",
   "76 3 4 2 9 1 6 3 db 2 2 1 3a 1 1 7 1 1 1 1 2 8 6 a 2 1 27 1 8 2e 2 c 14 4 30 1 1 5 1 1 5 1 28 9 c 2 20 4 2 2 1 3",
   "38 1 1 2 3 1 1 3 3a 8 2 2 40 6 52 3 1 d 1 7 4 1 6 1 3 2 32 3f d 1 22 65 1bd 1 1 3 b 3 d 3 d 3 d 2 c 5 8 2 a 1 2",
   "1 2 5 31 5 1 a 1 1 d 1 10 d 33 21 b8b 2 71 3 7d 1 f 1 60 20 2f 1 1d5 1 24 4 3 5 5 1 5d 6 5d 3 6f16 1 4e2 6 10e 1",
   "62 4 1 a 1 1 1c 4 50 2 e 22 4e 1 17 3 66 4 3 2 8 1 3 1 4 1 19 2 5 1 97 2 1a 12 d 1 26 8 19 b 2e 3 30 1 2 4 2 2",
   "11 1 15 2 42 6 2 2 2 2 c 1 8 1 23 1 b 1 33 1 1 3 2 2 5 2 1 1 1b 1 e 2 5 2 1 1 64 5 9 3 79 1 2 1 4 1 4f30 1 93 11",
   "23d 10 3 1 c 10 22 1 2 1 a9 1 7 1 6 1 b 1 23 1 1 1 2f 1 2d 2 43 1 15 3 201 1 e2 1 95 5 405 6 1 2a 1 9 246 3 1 2",
   "5 4 28 3 4 1 a5 2 23d 4 26 1 1a 5 1 1 13b 2 18 1 34 6 46 b 31 4 7b 1 36 f 29 1 2 2 a 3 31 4 2 2 2 1 4 1 a 1 32 3",
   "24 5 1 8 3e 1 c 2 34 9 a 4 2 1 5f 3 2 1 1 2 6 1 2 1 9d 1 3 8 15 2 39 2 3 1 25 7 3 5 46 6 d 1 1 1 1 1 e 2 55 8 2",
   "3 1 1 17 1 54 6 1 1 4 2 1 2 ee 4 6 2 1 2 1b 2 55 8 2 1 1 2 6a 1 1 1 2 6 1 1 65 1 1 1 2 4 1 5 103 9 1 2 100 2 1 1",
   "4 1 90 4 2 2 4 1 20 a 28 6 2 4 8 1 9 6 2 3 2e d 1 2 c6 1 1 3 1 1 c9 7 1 6 1 1 52 16 2 7 1 2 1 2 7a 6 3 1 1 2 1 7",
   "1 1 48 2 3 1 1 1 41 1 119 2 b 2 34 5 5 1 1 1 17 1 14d5 11 6 f 2cc8 c 3 3 9c0 5 3b 7 9 4 1fc 3 28 2 1e2 1 3f 11",
   "40 2 1 2 d 2 3ffc 4 1 7 1 2 c9e 2 1 4 125c 2e 2 17 220 3 9 10 2 7 1e 4 94 3 7bb 37 4 32 8 1 e 1 16 5 1 f 550 7 1",
   "11 2 7 1 2 1 5 5 3e 21 1 a0 e 170 1 3d 4 1fb 5 fe 2 f3 1 2 1 7 2 5 1 9 1 1d0 7 6d 8 aaf 5 c0c01 1 1e 60 80 f0"]

end Pagewalk.Text
