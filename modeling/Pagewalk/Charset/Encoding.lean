/-!
# Encodings and their labels

An encoding has the name that reports use, a way of reading bytes, and the labels that select it. Single-byte
encodings agree with ASCII below 0x80 and are given by the 128 characters above; U+FFFD marks a byte without a
meaning. Of the multi-byte legacy encodings only the labels are known: bytes above ASCII are then unreadable.
-/

namespace Pagewalk.Charset

/-- How the bytes of an encoding become characters. -/
inductive Scheme where
  /-- UTF-8. -/
  | utf8
  /-- Sixteen-bit units, the more significant byte first or last. -/
  | utf16 (bigEndian : Bool)
  /-- ASCII, and one character for each byte from 0x80 on. -/
  | singleByte (upper : String)
  /-- ASCII, and the private characters from U+F780 on. -/
  | userDefined
  /-- Nothing can be read: any body is one replacement character. -/
  | replacement
  /-- ASCII only. -/
  | asciiOnly
  deriving DecidableEq, Repr

/-- An encoding: its name, its scheme and the labels that select it, in small letters. -/
structure Encoding where
  name : String
  scheme : Scheme
  labels : List String
  deriving DecidableEq, Repr

namespace Encoding

/-- The control characters from U+0080 to U+009F. -/
def controls : String := String.ofList ((List.range 32).map fun i => Char.ofNat (0x80 + i))

/-- The encoding named UTF-8. -/
def utf8 : Encoding :=
  ⟨"UTF-8", .utf8,
   ["unicode-1-1-utf-8", "unicode11utf8", "unicode20utf8", "utf-8", "utf8", "x-unicode20utf8"]⟩

/-- The encoding named IBM866. -/
def ibm866 : Encoding :=
  ⟨"IBM866", .singleByte
    ("АБВГДЕЖЗИЙКЛМНОПРСТУФХЦЧШЩЪЫЬЭЮЯ" ++
      "абвгдежзийклмноп░▒▓│┤╡╢╖╕╣║╗╝╜╛┐" ++
      "└┴┬├─┼╞╟╚╔╩╦╠═╬╧╨╤╥╙╘╒╓╫╪┘┌█▄▌▐▀" ++
      "рстуфхцчшщъыьэюяЁёЄєЇїЎў°∙·√№¤■\u00a0"),
   ["866", "cp866", "csibm866", "ibm866"]⟩

/-- The encoding named ISO-8859-2. -/
def iso8859x2 : Encoding :=
  ⟨"ISO-8859-2", .singleByte (controls ++
    "\u00a0Ą˘Ł¤ĽŚ§¨ŠŞŤŹ\u00adŽŻ°ą˛ł´ľśˇ¸šşťź˝žż" ++
      "ŔÁÂĂÄĹĆÇČÉĘËĚÍÎĎĐŃŇÓÔŐÖ×ŘŮÚŰÜÝŢß" ++
      "ŕáâăäĺćçčéęëěíîďđńňóôőö÷řůúűüýţ˙"),
   ["csisolatin2", "iso-8859-2", "iso-ir-101", "iso8859-2", "iso88592", "iso_8859-2", "iso_8859-2:1987", "l2",
    "latin2"]⟩

/-- The encoding named ISO-8859-3. -/
def iso8859x3 : Encoding :=
  ⟨"ISO-8859-3", .singleByte (controls ++
    "\u00a0Ħ˘£¤\ufffdĤ§¨İŞĞĴ\u00ad\ufffdŻ°ħ²³´µĥ·¸ışğĵ½\ufffdż" ++
      "ÀÁÂ\ufffdÄĊĈÇÈÉÊËÌÍÎÏ\ufffdÑÒÓÔĠÖ×ĜÙÚÛÜŬŜß" ++
      "àáâ\ufffdäċĉçèéêëìíîï\ufffdñòóôġö÷ĝùúûüŭŝ˙"),
   ["csisolatin3", "iso-8859-3", "iso-ir-109", "iso8859-3", "iso88593", "iso_8859-3", "iso_8859-3:1988", "l3",
    "latin3"]⟩

/-- The encoding named ISO-8859-4. -/
def iso8859x4 : Encoding :=
  ⟨"ISO-8859-4", .singleByte (controls ++
    "\u00a0ĄĸŖ¤ĨĻ§¨ŠĒĢŦ\u00adŽ¯°ą˛ŗ´ĩļˇ¸šēģŧŊžŋ" ++
      "ĀÁÂÃÄÅÆĮČÉĘËĖÍÎĪĐŅŌĶÔÕÖ×ØŲÚÛÜŨŪß" ++
      "āáâãäåæįčéęëėíîīđņōķôõö÷øųúûüũū˙"),
   ["csisolatin4", "iso-8859-4", "iso-ir-110", "iso8859-4", "iso88594", "iso_8859-4", "iso_8859-4:1988", "l4",
    "latin4"]⟩

/-- The encoding named ISO-8859-5. -/
def iso8859x5 : Encoding :=
  ⟨"ISO-8859-5", .singleByte (controls ++
    "\u00a0ЁЂЃЄЅІЇЈЉЊЋЌ\u00adЎЏАБВГДЕЖЗИЙКЛМНОП" ++
      "РСТУФХЦЧШЩЪЫЬЭЮЯабвгдежзийклмноп" ++
      "рстуфхцчшщъыьэюя№ёђѓєѕіїјљњћќ§ўџ"),
   ["csisolatincyrillic", "cyrillic", "iso-8859-5", "iso-ir-144", "iso8859-5", "iso88595", "iso_8859-5",
    "iso_8859-5:1988"]⟩

/-- The encoding named ISO-8859-6. -/
def iso8859x6 : Encoding :=
  ⟨"ISO-8859-6", .singleByte (controls ++
    "\u00a0\ufffd\ufffd\ufffd¤\ufffd\ufffd\ufffd\ufffd\ufffd\ufffd\ufffd،\u00ad\ufffd\ufffd\ufffd\ufffd\ufffd\ufffd\ufffd\ufffd\ufffd\ufffd\ufffd\ufffd\ufffd\u061b\ufffd\ufffd\ufffd\u061f" ++
      "\ufffd\u0621\u0622\u0623\u0624\u0625\u0626\u0627\u0628\u0629\u062a\u062b\u062c\u062d\u062e\u062f\u0630\u0631\u0632\u0633\u0634\u0635\u0636\u0637\u0638\u0639\u063a\ufffd\ufffd\ufffd\ufffd\ufffd" ++
      "\u0640\u0641\u0642\u0643\u0644\u0645\u0646\u0647\u0648\u0649\u064a\u064b\u064c\u064d\u064e\u064f\u0650\u0651\u0652\ufffd\ufffd\ufffd\ufffd\ufffd\ufffd\ufffd\ufffd\ufffd\ufffd\ufffd\ufffd\ufffd"),
   ["arabic", "asmo-708", "csiso88596e", "csiso88596i", "csisolatinarabic", "ecma-114", "iso-8859-6",
    "iso-8859-6-e", "iso-8859-6-i", "iso-ir-127", "iso8859-6", "iso88596", "iso_8859-6", "iso_8859-6:1987"]⟩

/-- The encoding named ISO-8859-7. -/
def iso8859x7 : Encoding :=
  ⟨"ISO-8859-7", .singleByte (controls ++
    "\u00a0‘’£€₯¦§¨©ͺ«¬\u00ad\ufffd―°±²³΄΅Ά·ΈΉΊ»Ό½ΎΏ" ++
      "ΐΑΒΓΔΕΖΗΘΙΚΛΜΝΞΟΠΡ\ufffdΣΤΥΦΧΨΩΪΫάέήί" ++
      "ΰαβγδεζηθικλμνξοπρςστυφχψωϊϋόύώ\ufffd"),
   ["csisolatingreek", "ecma-118", "elot_928", "greek", "greek8", "iso-8859-7", "iso-ir-126", "iso8859-7",
    "iso88597", "iso_8859-7", "iso_8859-7:1987", "sun_eu_greek"]⟩

/-- The encoding named ISO-8859-8. -/
def iso8859x8 : Encoding :=
  ⟨"ISO-8859-8", .singleByte (controls ++
    "\u00a0\ufffd¢£¤¥¦§¨©×«¬\u00ad®¯°±²³´µ¶·¸¹÷»¼½¾\ufffd" ++
      "\ufffd\ufffd\ufffd\ufffd\ufffd\ufffd\ufffd\ufffd\ufffd\ufffd\ufffd\ufffd\ufffd\ufffd\ufffd\ufffd\ufffd\ufffd\ufffd\ufffd\ufffd\ufffd\ufffd\ufffd\ufffd\ufffd\ufffd\ufffd\ufffd\ufffd\ufffd‗" ++
      "\u05d0\u05d1\u05d2\u05d3\u05d4\u05d5\u05d6\u05d7\u05d8\u05d9\u05da\u05db\u05dc\u05dd\u05de\u05df\u05e0\u05e1\u05e2\u05e3\u05e4\u05e5\u05e6\u05e7\u05e8\u05e9\u05ea\ufffd\ufffd\u200e\u200f\ufffd"),
   ["csiso88598e", "csisolatinhebrew", "hebrew", "iso-8859-8", "iso-8859-8-e", "iso-ir-138", "iso8859-8",
    "iso88598", "iso_8859-8", "iso_8859-8:1988", "visual"]⟩

/-- The encoding named ISO-8859-8-I. -/
def iso8859x8i : Encoding :=
  ⟨"ISO-8859-8-I", .singleByte (controls ++
    "\u00a0\ufffd¢£¤¥¦§¨©×«¬\u00ad®¯°±²³´µ¶·¸¹÷»¼½¾\ufffd" ++
      "\ufffd\ufffd\ufffd\ufffd\ufffd\ufffd\ufffd\ufffd\ufffd\ufffd\ufffd\ufffd\ufffd\ufffd\ufffd\ufffd\ufffd\ufffd\ufffd\ufffd\ufffd\ufffd\ufffd\ufffd\ufffd\ufffd\ufffd\ufffd\ufffd\ufffd\ufffd‗" ++
      "\u05d0\u05d1\u05d2\u05d3\u05d4\u05d5\u05d6\u05d7\u05d8\u05d9\u05da\u05db\u05dc\u05dd\u05de\u05df\u05e0\u05e1\u05e2\u05e3\u05e4\u05e5\u05e6\u05e7\u05e8\u05e9\u05ea\ufffd\ufffd\u200e\u200f\ufffd"),
   ["csiso88598i", "iso-8859-8-i", "logical"]⟩

/-- The encoding named ISO-8859-10. -/
def iso8859x10 : Encoding :=
  ⟨"ISO-8859-10", .singleByte (controls ++
    "\u00a0ĄĒĢĪĨĶ§ĻĐŠŦŽ\u00adŪŊ°ąēģīĩķ·ļđšŧž―ūŋ" ++
      "ĀÁÂÃÄÅÆĮČÉĘËĖÍÎÏÐŅŌÓÔÕÖŨØŲÚÛÜÝÞß" ++
      "āáâãäåæįčéęëėíîïðņōóôõöũøųúûüýþĸ"),
   ["csisolatin6", "iso-8859-10", "iso-ir-157", "iso8859-10", "iso885910", "l6", "latin6"]⟩

/-- The encoding named ISO-8859-13. -/
def iso8859x13 : Encoding :=
  ⟨"ISO-8859-13", .singleByte (controls ++
    "\u00a0”¢£¤„¦§Ø©Ŗ«¬\u00ad®Æ°±²³“µ¶·ø¹ŗ»¼½¾æ" ++
      "ĄĮĀĆÄÅĘĒČÉŹĖĢĶĪĻŠŃŅÓŌÕÖ×ŲŁŚŪÜŻŽß" ++
      "ąįāćäåęēčéźėģķīļšńņóōõö÷ųłśūüżž’"),
   ["iso-8859-13", "iso8859-13", "iso885913"]⟩

/-- The encoding named ISO-8859-14. -/
def iso8859x14 : Encoding :=
  ⟨"ISO-8859-14", .singleByte (controls ++
    "\u00a0Ḃḃ£ĊċḊ§Ẁ©ẂḋỲ\u00ad®ŸḞḟĠġṀṁ¶ṖẁṗẃṠỳẄẅṡ" ++
      "ÀÁÂÃÄÅÆÇÈÉÊËÌÍÎÏŴÑÒÓÔÕÖṪØÙÚÛÜÝŶß" ++
      "àáâãäåæçèéêëìíîïŵñòóôõöṫøùúûüýŷÿ"),
   ["iso-8859-14", "iso8859-14", "iso885914"]⟩

/-- The encoding named ISO-8859-15. -/
def iso8859x15 : Encoding :=
  ⟨"ISO-8859-15", .singleByte (controls ++
    "\u00a0¡¢£€¥Š§š©ª«¬\u00ad®¯°±²³Žµ¶·ž¹º»ŒœŸ¿" ++
      "ÀÁÂÃÄÅÆÇÈÉÊËÌÍÎÏÐÑÒÓÔÕÖ×ØÙÚÛÜÝÞß" ++
      "àáâãäåæçèéêëìíîïðñòóôõö÷øùúûüýþÿ"),
   ["csisolatin9", "iso-8859-15", "iso8859-15", "iso885915", "iso_8859-15", "l9"]⟩

/-- The encoding named ISO-8859-16. -/
def iso8859x16 : Encoding :=
  ⟨"ISO-8859-16", .singleByte (controls ++
    "\u00a0ĄąŁ€„Š§š©Ș«Ź\u00adźŻ°±ČłŽ”¶·žčș»ŒœŸż" ++
      "ÀÁÂĂÄĆÆÇÈÉÊËÌÍÎÏĐŃÒÓÔŐÖŚŰÙÚÛÜĘȚß" ++
      "àáâăäćæçèéêëìíîïđńòóôőöśűùúûüęțÿ"),
   ["iso-8859-16"]⟩

/-- The encoding named KOI8-R. -/
def koi8r : Encoding :=
  ⟨"KOI8-R", .singleByte
    ("─│┌┐└┘├┤┬┴┼▀▄█▌▐░▒▓⌠■∙√≈≤≥\u00a0⌡°²·÷" ++
      "═║╒ё╓╔╕╖╗╘╙╚╛╜╝╞╟╠╡Ё╢╣╤╥╦╧╨╩╪╫╬©" ++
      "юабцдефгхийклмнопярстужвьызшэщчъ" ++
      "ЮАБЦДЕФГХИЙКЛМНОПЯРСТУЖВЬЫЗШЭЩЧЪ"),
   ["cskoi8r", "koi", "koi8", "koi8-r", "koi8_r"]⟩

/-- The encoding named KOI8-U. -/
def koi8u : Encoding :=
  ⟨"KOI8-U", .singleByte
    ("─│┌┐└┘├┤┬┴┼▀▄█▌▐░▒▓⌠■∙√≈≤≥\u00a0⌡°²·÷" ++
      "═║╒ёє╔ії╗╘╙╚╛ґў╞╟╠╡ЁЄ╣ІЇ╦╧╨╩╪ҐЎ©" ++
      "юабцдефгхийклмнопярстужвьызшэщчъ" ++
      "ЮАБЦДЕФГХИЙКЛМНОПЯРСТУЖВЬЫЗШЭЩЧЪ"),
   ["koi8-ru", "koi8-u"]⟩

/-- The encoding named macintosh. -/
def macintosh : Encoding :=
  ⟨"macintosh", .singleByte
    ("ÄÅÇÉÑÖÜáàâäãåçéèêëíìîïñóòôöõúùûü" ++
      "†°¢£§•¶ß®©™´¨≠ÆØ∞±≤≥¥µ∂∑∏π∫ªºΩæø" ++
      "¿¡¬√ƒ≈∆«»…\u00a0ÀÃÕŒœ–—“”‘’÷◊ÿŸ⁄€‹›ﬁﬂ" ++
      "‡·‚„‰ÂÊÁËÈÍÎÏÌÓÔ\uf8ffÒÚÛÙıˆ˜¯˘˙˚¸˝˛ˇ"),
   ["csmacintosh", "mac", "macintosh", "x-mac-roman"]⟩

/-- The encoding named windows-874. -/
def windows874 : Encoding :=
  ⟨"windows-874", .singleByte
    ("€\u0081\u0082\u0083\u0084…\u0086\u0087\u0088\u0089\u008a\u008b\u008c\u008d\u008e\u008f\u0090‘’“”•–—\u0098\u0099\u009a\u009b\u009c\u009d\u009e\u009f" ++
      "\u00a0กขฃคฅฆงจฉชซฌญฎฏฐฑฒณดตถทธนบปผฝพฟ" ++
      "ภมยรฤลฦวศษสหฬอฮฯะ\u0e31าำ\u0e34\u0e35\u0e36\u0e37\u0e38\u0e39\u0e3a\ufffd\ufffd\ufffd\ufffd฿" ++
      "เแโใไๅๆ\u0e47\u0e48\u0e49\u0e4a\u0e4b\u0e4c\u0e4d\u0e4e๏๐๑๒๓๔๕๖๗๘๙๚๛\ufffd\ufffd\ufffd\ufffd"),
   ["dos-874", "iso-8859-11", "iso8859-11", "iso885911", "tis-620", "windows-874"]⟩

/-- The encoding named windows-1250. -/
def windows1250 : Encoding :=
  ⟨"windows-1250", .singleByte
    ("€\u0081‚\u0083„…†‡\u0088‰Š‹ŚŤŽŹ\u0090‘’“”•–—\u0098™š›śťžź" ++
      "\u00a0ˇ˘Ł¤Ą¦§¨©Ş«¬\u00ad®Ż°±˛ł´µ¶·¸ąş»Ľ˝ľż" ++
      "ŔÁÂĂÄĹĆÇČÉĘËĚÍÎĎĐŃŇÓÔŐÖ×ŘŮÚŰÜÝŢß" ++
      "ŕáâăäĺćçčéęëěíîďđńňóôőö÷řůúűüýţ˙"),
   ["cp1250", "windows-1250", "x-cp1250"]⟩

/-- The encoding named windows-1251. -/
def windows1251 : Encoding :=
  ⟨"windows-1251", .singleByte
    ("ЂЃ‚ѓ„…†‡€‰Љ‹ЊЌЋЏђ‘’“”•–—\u0098™љ›њќћџ" ++
      "\u00a0ЎўЈ¤Ґ¦§Ё©Є«¬\u00ad®Ї°±Ііґµ¶·ё№є»јЅѕї" ++
      "АБВГДЕЖЗИЙКЛМНОПРСТУФХЦЧШЩЪЫЬЭЮЯ" ++
      "абвгдежзийклмнопрстуфхцчшщъыьэюя"),
   ["cp1251", "windows-1251", "x-cp1251"]⟩

/-- The encoding named windows-1252. -/
def windows1252 : Encoding :=
  ⟨"windows-1252", .singleByte
    ("€\u0081‚ƒ„…†‡ˆ‰Š‹Œ\u008dŽ\u008f\u0090‘’“”•–—˜™š›œ\u009džŸ" ++
      "\u00a0¡¢£¤¥¦§¨©ª«¬\u00ad®¯°±²³´µ¶·¸¹º»¼½¾¿" ++
      "ÀÁÂÃÄÅÆÇÈÉÊËÌÍÎÏÐÑÒÓÔÕÖ×ØÙÚÛÜÝÞß" ++
      "àáâãäåæçèéêëìíîïðñòóôõö÷øùúûüýþÿ"),
   ["ansi_x3.4-1968", "ascii", "cp1252", "cp819", "csisolatin1", "ibm819", "iso-8859-1", "iso-ir-100",
    "iso8859-1", "iso88591", "iso_8859-1", "iso_8859-1:1987", "l1", "latin1", "us-ascii", "windows-1252",
    "x-cp1252"]⟩

/-- The encoding named windows-1253. -/
def windows1253 : Encoding :=
  ⟨"windows-1253", .singleByte
    ("€\u0081‚ƒ„…†‡\u0088‰\u008a‹\u008c\u008d\u008e\u008f\u0090‘’“”•–—\u0098™\u009a›\u009c\u009d\u009e\u009f" ++
      "\u00a0΅Ά£¤¥¦§¨©\ufffd«¬\u00ad®―°±²³΄µ¶·ΈΉΊ»Ό½ΎΏ" ++
      "ΐΑΒΓΔΕΖΗΘΙΚΛΜΝΞΟΠΡ\ufffdΣΤΥΦΧΨΩΪΫάέήί" ++
      "ΰαβγδεζηθικλμνξοπρςστυφχψωϊϋόύώ\ufffd"),
   ["cp1253", "windows-1253", "x-cp1253"]⟩

/-- The encoding named windows-1254. -/
def windows1254 : Encoding :=
  ⟨"windows-1254", .singleByte
    ("€\u0081‚ƒ„…†‡ˆ‰Š‹Œ\u008d\u008e\u008f\u0090‘’“”•–—˜™š›œ\u009d\u009eŸ" ++
      "\u00a0¡¢£¤¥¦§¨©ª«¬\u00ad®¯°±²³´µ¶·¸¹º»¼½¾¿" ++
      "ÀÁÂÃÄÅÆÇÈÉÊËÌÍÎÏĞÑÒÓÔÕÖ×ØÙÚÛÜİŞß" ++
      "àáâãäåæçèéêëìíîïğñòóôõö÷øùúûüışÿ"),
   ["cp1254", "csisolatin5", "iso-8859-9", "iso-ir-148", "iso8859-9", "iso88599", "iso_8859-9",
    "iso_8859-9:1989", "l5", "latin5", "windows-1254", "x-cp1254"]⟩

/-- The encoding named windows-1255. -/
def windows1255 : Encoding :=
  ⟨"windows-1255", .singleByte
    ("€\u0081‚ƒ„…†‡ˆ‰\u008a‹\u008c\u008d\u008e\u008f\u0090‘’“”•–—˜™\u009a›\u009c\u009d\u009e\u009f" ++
      "\u00a0¡¢£₪¥¦§¨©×«¬\u00ad®¯°±²³´µ¶·¸¹÷»¼½¾¿" ++
      "\u05b0\u05b1\u05b2\u05b3\u05b4\u05b5\u05b6\u05b7\u05b8\u05b9\u05ba\u05bb\u05bc\u05bd\u05be\u05bf\u05c0\u05c1\u05c2\u05c3\u05f0\u05f1\u05f2\u05f3\u05f4\ufffd\ufffd\ufffd\ufffd\ufffd\ufffd\ufffd" ++
      "\u05d0\u05d1\u05d2\u05d3\u05d4\u05d5\u05d6\u05d7\u05d8\u05d9\u05da\u05db\u05dc\u05dd\u05de\u05df\u05e0\u05e1\u05e2\u05e3\u05e4\u05e5\u05e6\u05e7\u05e8\u05e9\u05ea\ufffd\ufffd\u200e\u200f\ufffd"),
   ["cp1255", "windows-1255", "x-cp1255"]⟩

/-- The encoding named windows-1256. -/
def windows1256 : Encoding :=
  ⟨"windows-1256", .singleByte
    ("€\u067e‚ƒ„…†‡ˆ‰\u0679‹Œ\u0686\u0698\u0688\u06af‘’“”•–—\u06a9™\u0691›œ\u200c\u200d\u06ba" ++
      "\u00a0،¢£¤¥¦§¨©\u06be«¬\u00ad®¯°±²³´µ¶·¸¹\u061b»¼½¾\u061f" ++
      "\u06c1\u0621\u0622\u0623\u0624\u0625\u0626\u0627\u0628\u0629\u062a\u062b\u062c\u062d\u062e\u062f\u0630\u0631\u0632\u0633\u0634\u0635\u0636×\u0637\u0638\u0639\u063a\u0640\u0641\u0642\u0643" ++
      "à\u0644â\u0645\u0646\u0647\u0648çèéêë\u0649\u064aîï\u064b\u064c\u064d\u064eô\u064f\u0650÷\u0651ù\u0652ûü\u200e\u200f\u06d2"),
   ["cp1256", "windows-1256", "x-cp1256"]⟩

/-- The encoding named windows-1257. -/
def windows1257 : Encoding :=
  ⟨"windows-1257", .singleByte
    ("€\u0081‚\u0083„…†‡\u0088‰\u008a‹\u008c¨ˇ¸\u0090‘’“”•–—\u0098™\u009a›\u009c¯˛\u009f" ++
      "\u00a0\ufffd¢£¤\ufffd¦§Ø©Ŗ«¬\u00ad®Æ°±²³´µ¶·ø¹ŗ»¼½¾æ" ++
      "ĄĮĀĆÄÅĘĒČÉŹĖĢĶĪĻŠŃŅÓŌÕÖ×ŲŁŚŪÜŻŽß" ++
      "ąįāćäåęēčéźėģķīļšńņóōõö÷ųłśūüżž˙"),
   ["cp1257", "windows-1257", "x-cp1257"]⟩

/-- The encoding named windows-1258. -/
def windows1258 : Encoding :=
  ⟨"windows-1258", .singleByte
    ("€\u0081‚ƒ„…†‡ˆ‰\u008a‹Œ\u008d\u008e\u008f\u0090‘’“”•–—˜™\u009a›œ\u009d\u009eŸ" ++
      "\u00a0¡¢£¤¥¦§¨©ª«¬\u00ad®¯°±²³´µ¶·¸¹º»¼½¾¿" ++
      "ÀÁÂĂÄÅÆÇÈÉÊË\u0300ÍÎÏĐÑ\u0309ÓÔƠÖ×ØÙÚÛÜƯ\u0303ß" ++
      "àáâăäåæçèéêë\u0301íîïđñ\u0323óôơö÷øùúûüư₫ÿ"),
   ["cp1258", "windows-1258", "x-cp1258"]⟩

/-- The encoding named x-mac-cyrillic. -/
def macCyrillic : Encoding :=
  ⟨"x-mac-cyrillic", .singleByte
    ("АБВГДЕЖЗИЙКЛМНОПРСТУФХЦЧШЩЪЫЬЭЮЯ" ++
      "†°Ґ£§•¶І®©™Ђђ≠Ѓѓ∞±≤≥іµґЈЄєЇїЉљЊњ" ++
      "јЅ¬√ƒ≈∆«»…\u00a0ЋћЌќѕ–—“”‘’÷„ЎўЏџ№Ёёя" ++
      "абвгдежзийклмнопрстуфхцчшщъыьэю€"),
   ["x-mac-cyrillic", "x-mac-ukrainian"]⟩

/-- The encoding named GBK. -/
def gbk : Encoding :=
  ⟨"GBK", .asciiOnly,
   ["chinese", "csgb2312", "csiso58gb231280", "gb2312", "gb_2312", "gb_2312-80", "gbk", "iso-ir-58", "x-gbk"]⟩

/-- The encoding named gb18030. -/
def gb18030 : Encoding :=
  ⟨"gb18030", .asciiOnly,
   ["gb18030"]⟩

/-- The encoding named Big5. -/
def big5 : Encoding :=
  ⟨"Big5", .asciiOnly,
   ["big5", "big5-hkscs", "cn-big5", "csbig5", "x-x-big5"]⟩

/-- The encoding named EUC-JP. -/
def eucjp : Encoding :=
  ⟨"EUC-JP", .asciiOnly,
   ["cseucpkdfmtjapanese", "euc-jp", "x-euc-jp"]⟩

/-- The encoding named ISO-2022-JP. -/
def iso2022jp : Encoding :=
  ⟨"ISO-2022-JP", .asciiOnly,
   ["csiso2022jp", "iso-2022-jp"]⟩

/-- The encoding named Shift_JIS. -/
def shiftjis : Encoding :=
  ⟨"Shift_JIS", .asciiOnly,
   ["csshiftjis", "ms932", "ms_kanji", "shift-jis", "shift_jis", "sjis", "windows-31j", "x-sjis"]⟩

/-- The encoding named EUC-KR. -/
def euckr : Encoding :=
  ⟨"EUC-KR", .asciiOnly,
   ["cseuckr", "csksc56011987", "euc-kr", "iso-ir-149", "korean", "ks_c_5601-1987", "ks_c_5601-1989",
    "ksc5601", "ksc_5601", "windows-949"]⟩

/-- The encoding named replacement. -/
def replacement : Encoding :=
  ⟨"replacement", .replacement,
   ["csiso2022kr", "hz-gb-2312", "iso-2022-cn", "iso-2022-cn-ext", "iso-2022-kr", "replacement"]⟩

/-- The encoding named UTF-16BE. -/
def utf16be : Encoding :=
  ⟨"UTF-16BE", .utf16 true,
   ["unicodefffe", "utf-16be"]⟩

/-- The encoding named UTF-16LE. -/
def utf16le : Encoding :=
  ⟨"UTF-16LE", .utf16 false,
   ["csunicode", "iso-10646-ucs-2", "ucs-2", "unicode", "unicodefeff", "utf-16", "utf-16le"]⟩

/-- The encoding named x-user-defined. -/
def userDefined : Encoding :=
  ⟨"x-user-defined", .userDefined,
   ["x-user-defined"]⟩

/-- Every encoding that a label can select. -/
def all : List Encoding :=
  [utf8, ibm866, iso8859x2, iso8859x3, iso8859x4, iso8859x5, iso8859x6, iso8859x7, iso8859x8, iso8859x8i,
   iso8859x10, iso8859x13, iso8859x14, iso8859x15, iso8859x16, koi8r, koi8u, macintosh, windows874,
   windows1250, windows1251, windows1252, windows1253, windows1254, windows1255, windows1256, windows1257,
   windows1258, macCyrillic, gbk, gb18030, big5, eucjp, iso2022jp, shiftjis, euckr, replacement, utf16be,
   utf16le, userDefined]

end Encoding

end Pagewalk.Charset
