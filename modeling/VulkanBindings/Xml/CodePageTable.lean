import VulkanBindings.Xml.CodePage

/-!
# Table of code pages

The code pages that a document may declare, each with its names and those rows
of eight bytes in which some byte does not stand for the character with its own
number.
-/

namespace VulkanBindings.Xml.CodePageTable

/-- A row of bytes that stand for nothing. -/
def unassigned : String :=
  "\ufffd\ufffd\ufffd\ufffd\ufffd\ufffd\ufffd\ufffd"

/-- ASCII, and encodings that are read as ASCII. -/
def ascii : CodePage :=
  ⟨⟨["ascii", "iso2022_jp", "iso2022_jp_1", "iso2022_jp_2", "iso2022_jp_2004", "iso2022_jp_3",
    "iso2022_jp_ext", "utf_8", "utf_8_sig"],
   ["ansi_x3.4_1968", "ansi_x3.4_1986", "ansi_x3_4_1968", "cp367", "cp65001", "csascii",
    "csiso2022jp", "ibm367", "iso2022jp", "iso2022jp_1", "iso2022jp_2", "iso2022jp_2004",
    "iso2022jp_3", "iso2022jp_ext", "iso646_us", "iso_2022_jp", "iso_2022_jp_1", "iso_2022_jp_2",
    "iso_2022_jp_2004", "iso_2022_jp_3", "iso_2022_jp_ext", "iso_646.irv_1991", "iso_ir_6", "u8",
    "us", "us_ascii", "utf", "utf8", "utf8_ucs2", "utf8_ucs4"]⟩,
   [(0x80, unassigned), (0x88, unassigned), (0x90, unassigned), (0x98, unassigned),
    (0xa0, unassigned), (0xa8, unassigned), (0xb0, unassigned), (0xb8, unassigned),
    (0xc0, unassigned), (0xc8, unassigned), (0xd0, unassigned), (0xd8, unassigned),
    (0xe0, unassigned), (0xe8, unassigned), (0xf0, unassigned), (0xf8, unassigned)]⟩

/-- The first part of ISO 8859, in which every byte stands for the character with its number. -/
def latin1 : CodePage :=
  ⟨⟨["charmap", "latin_1", "raw_unicode_escape", "unicode_escape"],
   ["cp819", "csisolatin1", "ibm819", "iso8859", "iso8859_1", "iso_8859_1", "iso_8859_1_1987",
    "iso_ir_100", "l1", "latin", "latin1"]⟩,
   []⟩

/-- The parts of ISO 8859 after the first, and the Thai page next to them. -/
def isoPages : List CodePage :=
  [⟨⟨["iso8859_6"],
     ["arabic", "asmo_708", "csisolatinarabic", "ecma_114", "iso_8859_6", "iso_8859_6_1987",
      "iso_ir_127"]⟩,
    [(0xa0, "\u00a0\ufffd\ufffd\ufffd¤\ufffd\ufffd\ufffd"),
     (0xa8, "\ufffd\ufffd\ufffd\ufffd،\u00ad\ufffd\ufffd"), (0xb0, unassigned),
     (0xb8, "\ufffd\ufffd\ufffd\u061b\ufffd\ufffd\ufffd\u061f"),
     (0xc0, "\ufffd\u0621\u0622\u0623\u0624\u0625\u0626\u0627"),
     (0xc8, "\u0628\u0629\u062a\u062b\u062c\u062d\u062e\u062f"),
     (0xd0, "\u0630\u0631\u0632\u0633\u0634\u0635\u0636\u0637"),
     (0xd8, "\u0638\u0639\u063a\ufffd\ufffd\ufffd\ufffd\ufffd"),
     (0xe0, "\u0640\u0641\u0642\u0643\u0644\u0645\u0646\u0647"),
     (0xe8, "\u0648\u0649\u064a\u064b\u064c\u064d\u064e\u064f"),
     (0xf0, "\u0650\u0651\u0652\ufffd\ufffd\ufffd\ufffd\ufffd"), (0xf8, unassigned)]⟩,
   ⟨⟨["iso8859_2"],
     ["csisolatin2", "iso_8859_2", "iso_8859_2_1987", "iso_ir_101", "l2", "latin2"]⟩,
    [(0xa0, "\u00a0Ą˘Ł¤ĽŚ§"), (0xa8, "¨ŠŞŤŹ\u00adŽŻ"), (0xb0, "°ą˛ł´ľś\u02c7"),
     (0xb8, "¸šşťź˝žż"), (0xc0, "ŔÁÂĂÄĹĆÇ"), (0xc8, "ČÉĘËĚÍÎĎ"), (0xd0, "ĐŃŇÓÔŐÖ×"),
     (0xd8, "ŘŮÚŰÜÝŢß"), (0xe0, "ŕáâăäĺćç"), (0xe8, "čéęëěíîď"), (0xf0, "đńňóôőö÷"),
     (0xf8, "řůúűüýţ˙")]⟩,
   ⟨⟨["iso8859_3"],
     ["csisolatin3", "iso_8859_3", "iso_8859_3_1988", "iso_ir_109", "l3", "latin3"]⟩,
    [(0xa0, "\u00a0Ħ˘£¤\ufffdĤ§"), (0xa8, "¨İŞĞĴ\u00ad\ufffdŻ"), (0xb0, "°ħ²³´µĥ·"),
     (0xb8, "¸ışğĵ½\ufffdż"), (0xc0, "ÀÁÂ\ufffdÄĊĈÇ"), (0xd0, "\ufffdÑÒÓÔĠÖ×"),
     (0xd8, "ĜÙÚÛÜŬŜß"), (0xe0, "àáâ\ufffdäċĉç"), (0xf0, "\ufffdñòóôġö÷"), (0xf8, "ĝùúûüŭŝ˙")]⟩,
   ⟨⟨["iso8859_4"],
     ["csisolatin4", "iso_8859_4", "iso_8859_4_1988", "iso_ir_110", "l4", "latin4"]⟩,
    [(0xa0, "\u00a0ĄĸŖ¤ĨĻ§"), (0xa8, "¨ŠĒĢŦ\u00adŽ¯"), (0xb0, "°ą˛ŗ´ĩļ\u02c7"),
     (0xb8, "¸šēģŧŊžŋ"), (0xc0, "ĀÁÂÃÄÅÆĮ"), (0xc8, "ČÉĘËĖÍÎĪ"), (0xd0, "ĐŅŌĶÔÕÖ×"),
     (0xd8, "ØŲÚÛÜŨŪß"), (0xe0, "āáâãäåæį"), (0xe8, "čéęëėíîī"), (0xf0, "đņōķôõö÷"),
     (0xf8, "øųúûüũū˙")]⟩,
   ⟨⟨["iso8859_9"],
     ["csisolatin5", "iso_8859_9", "iso_8859_9_1989", "iso_ir_148", "l5", "latin5"]⟩,
    [(0xd0, "ĞÑÒÓÔÕÖ×"), (0xd8, "ØÙÚÛÜİŞß"), (0xf0, "ğñòóôõö÷"), (0xf8, "øùúûüışÿ")]⟩,
   ⟨⟨["iso8859_10"],
     ["csisolatin6", "iso_8859_10", "iso_8859_10_1992", "iso_ir_157", "l6", "latin6"]⟩,
    [(0xa0, "\u00a0ĄĒĢĪĨĶ§"), (0xa8, "ĻĐŠŦŽ\u00adŪŊ"), (0xb0, "°ąēģīĩķ·"), (0xb8, "ļđšŧž―ūŋ"),
     (0xc0, "ĀÁÂÃÄÅÆĮ"), (0xc8, "ČÉĘËĖÍÎÏ"), (0xd0, "ÐŅŌÓÔÕÖŨ"), (0xd8, "ØŲÚÛÜÝÞß"),
     (0xe0, "āáâãäåæį"), (0xe8, "čéęëėíîï"), (0xf0, "ðņōóôõöũ"), (0xf8, "øųúûüýþĸ")]⟩,
   ⟨⟨["iso8859_5"],
     ["csisolatincyrillic", "cyrillic", "iso_8859_5", "iso_8859_5_1988", "iso_ir_144"]⟩,
    [(0xa0, "\u00a0ЁЂЃЄЅІЇ"), (0xa8, "ЈЉЊЋЌ\u00adЎЏ"), (0xb0, "АБВГДЕЖЗ"), (0xb8, "ИЙКЛМНОП"),
     (0xc0, "РСТУФХЦЧ"), (0xc8, "ШЩЪЫЬЭЮЯ"), (0xd0, "абвгдежз"), (0xd8, "ийклмноп"),
     (0xe0, "рстуфхцч"), (0xe8, "шщъыьэюя"), (0xf0, "№ёђѓєѕії"), (0xf8, "јљњћќ§ўџ")]⟩,
   ⟨⟨["iso8859_7"],
     ["csisolatingreek", "ecma_118", "elot_928", "greek", "greek8", "iso_8859_7",
      "iso_8859_7_1987", "iso_ir_126"]⟩,
    [(0xa0, "\u00a0‘’£€₯¦§"), (0xa8, "¨©\u037a«¬\u00ad\ufffd―"), (0xb0, "°±²³΄΅Ά·"),
     (0xb8, "ΈΉΊ»Ό½ΎΏ"), (0xc0, "ΐΑΒΓΔΕΖΗ"), (0xc8, "ΘΙΚΛΜΝΞΟ"), (0xd0, "ΠΡ\ufffdΣΤΥΦΧ"),
     (0xd8, "ΨΩΪΫάέήί"), (0xe0, "ΰαβγδεζη"), (0xe8, "θικλμνξο"), (0xf0, "πρςστυφχ"),
     (0xf8, "ψωϊϋόύώ\ufffd")]⟩,
   ⟨⟨["iso8859_8"],
     ["csisolatinhebrew", "hebrew", "iso_8859_8", "iso_8859_8_1988", "iso_ir_138"]⟩,
    [(0xa0, "\u00a0\ufffd¢£¤¥¦§"), (0xa8, "¨©×«¬\u00ad®¯"), (0xb8, "¸¹÷»¼½¾\ufffd"),
     (0xc0, unassigned), (0xc8, unassigned), (0xd0, unassigned),
     (0xd8, "\ufffd\ufffd\ufffd\ufffd\ufffd\ufffd\ufffd‗"),
     (0xe0, "\u05d0\u05d1\u05d2\u05d3\u05d4\u05d5\u05d6\u05d7"),
     (0xe8, "\u05d8\u05d9\u05da\u05db\u05dc\u05dd\u05de\u05df"),
     (0xf0, "\u05e0\u05e1\u05e2\u05e3\u05e4\u05e5\u05e6\u05e7"),
     (0xf8, "\u05e8\u05e9\u05ea\ufffd\ufffd\u200e\u200f\ufffd")]⟩,
   ⟨⟨["iso8859_11"], ["iso_8859_11", "iso_8859_11_2001", "thai"]⟩,
    [(0xa0, "\u00a0กขฃคฅฆง"), (0xa8, "จฉชซฌญฎฏ"), (0xb0, "ฐฑฒณดตถท"), (0xb8, "ธนบปผฝพฟ"),
     (0xc0, "ภมยรฤลฦว"), (0xc8, "ศษสหฬอฮฯ"), (0xd0, "ะ\u0e31าำ\u0e34\u0e35\u0e36\u0e37"),
     (0xd8, "\u0e38\u0e39\u0e3a\ufffd\ufffd\ufffd\ufffd฿"), (0xe0, "เแโใไๅ\u0e46\u0e47"),
     (0xe8, "\u0e48\u0e49\u0e4a\u0e4b\u0e4c\u0e4d\u0e4e๏"), (0xf0, "๐๑๒๓๔๕๖๗"),
     (0xf8, "๘๙๚๛\ufffd\ufffd\ufffd\ufffd")]⟩,
   ⟨⟨["iso8859_13"], ["iso_8859_13", "l7", "latin7"]⟩,
    [(0xa0, "\u00a0”¢£¤„¦§"), (0xa8, "Ø©Ŗ«¬\u00ad®Æ"), (0xb0, "°±²³“µ¶·"), (0xb8, "ø¹ŗ»¼½¾æ"),
     (0xc0, "ĄĮĀĆÄÅĘĒ"), (0xc8, "ČÉŹĖĢĶĪĻ"), (0xd0, "ŠŃŅÓŌÕÖ×"), (0xd8, "ŲŁŚŪÜŻŽß"),
     (0xe0, "ąįāćäåęē"), (0xe8, "čéźėģķīļ"), (0xf0, "šńņóōõö÷"), (0xf8, "ųłśūüżž’")]⟩,
   ⟨⟨["iso8859_14"],
     ["iso_8859_14", "iso_8859_14_1998", "iso_celtic", "iso_ir_199", "l8", "latin8"]⟩,
    [(0xa0, "\u00a0Ḃḃ£ĊċḊ§"), (0xa8, "Ẁ©ẂḋỲ\u00ad®Ÿ"), (0xb0, "ḞḟĠġṀṁ¶Ṗ"), (0xb8, "ẁṗẃṠỳẄẅṡ"),
     (0xd0, "ŴÑÒÓÔÕÖṪ"), (0xd8, "ØÙÚÛÜÝŶß"), (0xf0, "ŵñòóôõöṫ"), (0xf8, "øùúûüýŷÿ")]⟩,
   ⟨⟨["iso8859_15"], ["iso_8859_15", "l9", "latin9"]⟩,
    [(0xa0, "\u00a0¡¢£€¥Š§"), (0xa8, "š©ª«¬\u00ad®¯"), (0xb0, "°±²³Žµ¶·"), (0xb8, "ž¹º»ŒœŸ¿")]⟩,
   ⟨⟨["iso8859_16"], ["iso_8859_16", "iso_8859_16_2001", "iso_ir_226", "l10", "latin10"]⟩,
    [(0xa0, "\u00a0ĄąŁ€„Š§"), (0xa8, "š©Ș«Ź\u00adźŻ"), (0xb0, "°±ČłŽ”¶·"), (0xb8, "žčș»ŒœŸż"),
     (0xc0, "ÀÁÂĂÄĆÆÇ"), (0xd0, "ĐŃÒÓÔŐÖŚ"), (0xd8, "ŰÙÚÛÜĘȚß"), (0xe0, "àáâăäćæç"),
     (0xf0, "đńòóôőöś"), (0xf8, "űùúûüęțÿ")]⟩,
   ⟨⟨["tis_620"], ["iso_ir_166", "tis620", "tis_620_0", "tis_620_2529_0", "tis_620_2529_1"]⟩,
    [(0xa0, "\ufffdกขฃคฅฆง"), (0xa8, "จฉชซฌญฎฏ"), (0xb0, "ฐฑฒณดตถท"), (0xb8, "ธนบปผฝพฟ"),
     (0xc0, "ภมยรฤลฦว"), (0xc8, "ศษสหฬอฮฯ"), (0xd0, "ะ\u0e31าำ\u0e34\u0e35\u0e36\u0e37"),
     (0xd8, "\u0e38\u0e39\u0e3a\ufffd\ufffd\ufffd\ufffd฿"), (0xe0, "เแโใไๅ\u0e46\u0e47"),
     (0xe8, "\u0e48\u0e49\u0e4a\u0e4b\u0e4c\u0e4d\u0e4e๏"), (0xf0, "๐๑๒๓๔๕๖๗"),
     (0xf8, "๘๙๚๛\ufffd\ufffd\ufffd\ufffd")]⟩]

/-- The pages of Windows. -/
def windowsPages : List CodePage :=
  [⟨⟨["cp1250"], ["windows_1250"]⟩,
    [(0x80, "€\ufffd‚\ufffd„…†‡"), (0x88, "\ufffd‰Š‹ŚŤŽŹ"), (0x90, "\ufffd‘’“”•–—"),
     (0x98, "\ufffd™š›śťžź"), (0xa0, "\u00a0\u02c7˘Ł¤Ą¦§"), (0xa8, "¨©Ş«¬\u00ad®Ż"),
     (0xb0, "°±˛ł´µ¶·"), (0xb8, "¸ąş»Ľ˝ľż"), (0xc0, "ŔÁÂĂÄĹĆÇ"), (0xc8, "ČÉĘËĚÍÎĎ"),
     (0xd0, "ĐŃŇÓÔŐÖ×"), (0xd8, "ŘŮÚŰÜÝŢß"), (0xe0, "ŕáâăäĺćç"), (0xe8, "čéęëěíîď"),
     (0xf0, "đńňóôőö÷"), (0xf8, "řůúűüýţ˙")]⟩,
   ⟨⟨["cp1251"], ["windows_1251"]⟩,
    [(0x80, "ЂЃ‚ѓ„…†‡"), (0x88, "€‰Љ‹ЊЌЋЏ"), (0x90, "ђ‘’“”•–—"), (0x98, "\ufffd™љ›њќћџ"),
     (0xa0, "\u00a0ЎўЈ¤Ґ¦§"), (0xa8, "Ё©Є«¬\u00ad®Ї"), (0xb0, "°±Ііґµ¶·"), (0xb8, "ё№є»јЅѕї"),
     (0xc0, "АБВГДЕЖЗ"), (0xc8, "ИЙКЛМНОП"), (0xd0, "РСТУФХЦЧ"), (0xd8, "ШЩЪЫЬЭЮЯ"),
     (0xe0, "абвгдежз"), (0xe8, "ийклмноп"), (0xf0, "рстуфхцч"), (0xf8, "шщъыьэюя")]⟩,
   ⟨⟨["cp1252"], ["windows_1252"]⟩,
    [(0x80, "€\ufffd‚ƒ„…†‡"), (0x88, "\u02c6‰Š‹Œ\ufffdŽ\ufffd"), (0x90, "\ufffd‘’“”•–—"),
     (0x98, "˜™š›œ\ufffdžŸ")]⟩,
   ⟨⟨["cp1253"], ["windows_1253"]⟩,
    [(0x80, "€\ufffd‚ƒ„…†‡"), (0x88, "\ufffd‰\ufffd‹\ufffd\ufffd\ufffd\ufffd"),
     (0x90, "\ufffd‘’“”•–—"), (0x98, "\ufffd™\ufffd›\ufffd\ufffd\ufffd\ufffd"),
     (0xa0, "\u00a0΅Ά£¤¥¦§"), (0xa8, "¨©\ufffd«¬\u00ad®―"), (0xb0, "°±²³΄µ¶·"),
     (0xb8, "ΈΉΊ»Ό½ΎΏ"), (0xc0, "ΐΑΒΓΔΕΖΗ"), (0xc8, "ΘΙΚΛΜΝΞΟ"), (0xd0, "ΠΡ\ufffdΣΤΥΦΧ"),
     (0xd8, "ΨΩΪΫάέήί"), (0xe0, "ΰαβγδεζη"), (0xe8, "θικλμνξο"), (0xf0, "πρςστυφχ"),
     (0xf8, "ψωϊϋόύώ\ufffd")]⟩,
   ⟨⟨["cp1254"], ["windows_1254"]⟩,
    [(0x80, "€\ufffd‚ƒ„…†‡"), (0x88, "\u02c6‰Š‹Œ\ufffd\ufffd\ufffd"), (0x90, "\ufffd‘’“”•–—"),
     (0x98, "˜™š›œ\ufffd\ufffdŸ"), (0xd0, "ĞÑÒÓÔÕÖ×"), (0xd8, "ØÙÚÛÜİŞß"), (0xf0, "ğñòóôõö÷"),
     (0xf8, "øùúûüışÿ")]⟩,
   ⟨⟨["cp1255"], ["windows_1255"]⟩,
    [(0x80, "€\ufffd‚ƒ„…†‡"), (0x88, "\u02c6‰\ufffd‹\ufffd\ufffd\ufffd\ufffd"),
     (0x90, "\ufffd‘’“”•–—"), (0x98, "˜™\ufffd›\ufffd\ufffd\ufffd\ufffd"),
     (0xa0, "\u00a0¡¢£₪¥¦§"), (0xa8, "¨©×«¬\u00ad®¯"), (0xb8, "¸¹÷»¼½¾¿"),
     (0xc0, "\u05b0\u05b1\u05b2\u05b3\u05b4\u05b5\u05b6\u05b7"),
     (0xc8, "\u05b8\u05b9\ufffd\u05bb\u05bc\u05bd\u05be\u05bf"),
     (0xd0, "\u05c0\u05c1\u05c2\u05c3\u05f0\u05f1\u05f2\u05f3"),
     (0xd8, "\u05f4\ufffd\ufffd\ufffd\ufffd\ufffd\ufffd\ufffd"),
     (0xe0, "\u05d0\u05d1\u05d2\u05d3\u05d4\u05d5\u05d6\u05d7"),
     (0xe8, "\u05d8\u05d9\u05da\u05db\u05dc\u05dd\u05de\u05df"),
     (0xf0, "\u05e0\u05e1\u05e2\u05e3\u05e4\u05e5\u05e6\u05e7"),
     (0xf8, "\u05e8\u05e9\u05ea\ufffd\ufffd\u200e\u200f\ufffd")]⟩,
   ⟨⟨["cp1256"], ["windows_1256"]⟩,
    [(0x80, "€\u067e‚ƒ„…†‡"), (0x88, "\u02c6‰\u0679‹Œ\u0686\u0698\u0688"),
     (0x90, "\u06af‘’“”•–—"), (0x98, "\u06a9™\u0691›œ\u200c\u200d\u06ba"),
     (0xa0, "\u00a0،¢£¤¥¦§"), (0xa8, "¨©\u06be«¬\u00ad®¯"), (0xb8, "¸¹\u061b»¼½¾\u061f"),
     (0xc0, "\u06c1\u0621\u0622\u0623\u0624\u0625\u0626\u0627"),
     (0xc8, "\u0628\u0629\u062a\u062b\u062c\u062d\u062e\u062f"),
     (0xd0, "\u0630\u0631\u0632\u0633\u0634\u0635\u0636×"),
     (0xd8, "\u0637\u0638\u0639\u063a\u0640\u0641\u0642\u0643"),
     (0xe0, "à\u0644â\u0645\u0646\u0647\u0648ç"), (0xe8, "èéêë\u0649\u064aîï"),
     (0xf0, "\u064b\u064c\u064d\u064eô\u064f\u0650÷"),
     (0xf8, "\u0651ù\u0652ûü\u200e\u200f\u06d2")]⟩,
   ⟨⟨["cp1257"], ["windows_1257"]⟩,
    [(0x80, "€\ufffd‚\ufffd„…†‡"), (0x88, "\ufffd‰\ufffd‹\ufffd¨\u02c7¸"),
     (0x90, "\ufffd‘’“”•–—"), (0x98, "\ufffd™\ufffd›\ufffd¯˛\ufffd"),
     (0xa0, "\u00a0\ufffd¢£¤\ufffd¦§"), (0xa8, "Ø©Ŗ«¬\u00ad®Æ"), (0xb8, "ø¹ŗ»¼½¾æ"),
     (0xc0, "ĄĮĀĆÄÅĘĒ"), (0xc8, "ČÉŹĖĢĶĪĻ"), (0xd0, "ŠŃŅÓŌÕÖ×"), (0xd8, "ŲŁŚŪÜŻŽß"),
     (0xe0, "ąįāćäåęē"), (0xe8, "čéźėģķīļ"), (0xf0, "šńņóōõö÷"), (0xf8, "ųłśūüżž˙")]⟩,
   ⟨⟨["cp1258"], ["windows_1258"]⟩,
    [(0x80, "€\ufffd‚ƒ„…†‡"), (0x88, "\u02c6‰\ufffd‹Œ\ufffd\ufffd\ufffd"),
     (0x90, "\ufffd‘’“”•–—"), (0x98, "˜™\ufffd›œ\ufffd\ufffdŸ"), (0xc0, "ÀÁÂĂÄÅÆÇ"),
     (0xc8, "ÈÉÊË\u0300ÍÎÏ"), (0xd0, "ĐÑ\u0309ÓÔƠÖ×"), (0xd8, "ØÙÚÛÜƯ\u0303ß"),
     (0xe0, "àáâăäåæç"), (0xe8, "èéêë\u0301íîï"), (0xf0, "đñ\u0323óôơö÷"), (0xf8, "øùúûüư₫ÿ")]⟩]

/-- The pages of personal computers before Windows. -/
def dosPages : List CodePage :=
  [⟨⟨["cp1125"], ["cp866u", "ibm1125", "ruscii"]⟩,
    [(0x80, "АБВГДЕЖЗ"), (0x88, "ИЙКЛМНОП"), (0x90, "РСТУФХЦЧ"), (0x98, "ШЩЪЫЬЭЮЯ"),
     (0xa0, "абвгдежз"), (0xa8, "ийклмноп"), (0xb0, "░▒▓│┤╡╢╖"), (0xb8, "╕╣║╗╝╜╛┐"),
     (0xc0, "└┴┬├─┼╞╟"), (0xc8, "╚╔╩╦╠═╬╧"), (0xd0, "╨╤╥╙╘╒╓╫"), (0xd8, "╪┘┌█▄▌▐▀"),
     (0xe0, "рстуфхцч"), (0xe8, "шщъыьэюя"), (0xf0, "ЁёҐґЄєІі"), (0xf8, "Її·√№¤■\u00a0")]⟩,
   ⟨⟨["cp437"], ["cspc8codepage437", "ibm437"]⟩,
    [(0x80, "Çüéâäàåç"), (0x88, "êëèïîìÄÅ"), (0x90, "ÉæÆôöòûù"), (0x98, "ÿÖÜ¢£¥₧ƒ"),
     (0xa0, "áíóúñÑªº"), (0xa8, "¿⌐¬½¼¡«»"), (0xb0, "░▒▓│┤╡╢╖"), (0xb8, "╕╣║╗╝╜╛┐"),
     (0xc0, "└┴┬├─┼╞╟"), (0xc8, "╚╔╩╦╠═╬╧"), (0xd0, "╨╤╥╙╘╒╓╫"), (0xd8, "╪┘┌█▄▌▐▀"),
     (0xe0, "αßΓπΣσµτ"), (0xe8, "ΦΘΩδ∞φε∩"), (0xf0, "≡±≥≤⌠⌡÷≈"), (0xf8, "°∙·√\u207f²■\u00a0")]⟩,
   ⟨⟨["cp775"], ["cspc775baltic", "ibm775"]⟩,
    [(0x80, "Ćüéāäģåć"), (0x88, "łēŖŗīŹÄÅ"), (0x90, "ÉæÆōöĢ¢Ś"), (0x98, "śÖÜø£Ø×¤"),
     (0xa0, "ĀĪóŻżź”¦"), (0xa8, "©®¬½¼Ł«»"), (0xb0, "░▒▓│┤ĄČĘ"), (0xb8, "Ė╣║╗╝ĮŠ┐"),
     (0xc0, "└┴┬├─┼ŲŪ"), (0xc8, "╚╔╩╦╠═╬Ž"), (0xd0, "ąčęėįšųū"), (0xd8, "ž┘┌█▄▌▐▀"),
     (0xe0, "ÓßŌŃõÕµń"), (0xe8, "ĶķĻļņĒŅ’"), (0xf0, "\u00ad±“¾¶§÷„"), (0xf8, "°∙·¹³²■\u00a0")]⟩,
   ⟨⟨["cp850"], ["cspc850multilingual", "ibm850"]⟩,
    [(0x80, "Çüéâäàåç"), (0x88, "êëèïîìÄÅ"), (0x90, "ÉæÆôöòûù"), (0x98, "ÿÖÜø£Ø×ƒ"),
     (0xa0, "áíóúñÑªº"), (0xa8, "¿®¬½¼¡«»"), (0xb0, "░▒▓│┤ÁÂÀ"), (0xb8, "©╣║╗╝¢¥┐"),
     (0xc0, "└┴┬├─┼ãÃ"), (0xc8, "╚╔╩╦╠═╬¤"), (0xd0, "ðÐÊËÈıÍÎ"), (0xd8, "Ï┘┌█▄¦Ì▀"),
     (0xe0, "ÓßÔÒõÕµþ"), (0xe8, "ÞÚÛÙýÝ¯´"), (0xf0, "\u00ad±‗¾¶§÷¸"), (0xf8, "°¨·¹³²■\u00a0")]⟩,
   ⟨⟨["cp852"], ["cspcp852", "ibm852"]⟩,
    [(0x80, "Çüéâäůćç"), (0x88, "łëŐőîŹÄĆ"), (0x90, "ÉĹĺôöĽľŚ"), (0x98, "śÖÜŤťŁ×č"),
     (0xa0, "áíóúĄąŽž"), (0xa8, "Ęę¬źČş«»"), (0xb0, "░▒▓│┤ÁÂĚ"), (0xb8, "Ş╣║╗╝Żż┐"),
     (0xc0, "└┴┬├─┼Ăă"), (0xc8, "╚╔╩╦╠═╬¤"), (0xd0, "đĐĎËďŇÍÎ"), (0xd8, "ě┘┌█▄ŢŮ▀"),
     (0xe0, "ÓßÔŃńňŠš"), (0xe8, "ŔÚŕŰýÝţ´"), (0xf0, "\u00ad˝˛\u02c7˘§÷¸"),
     (0xf8, "°¨˙űŘř■\u00a0")]⟩,
   ⟨⟨["cp855"], ["csibm855", "ibm855"]⟩,
    [(0x80, "ђЂѓЃёЁєЄ"), (0x88, "ѕЅіІїЇјЈ"), (0x90, "љЉњЊћЋќЌ"), (0x98, "ўЎџЏюЮъЪ"),
     (0xa0, "аАбБцЦдД"), (0xa8, "еЕфФгГ«»"), (0xb0, "░▒▓│┤хХи"), (0xb8, "И╣║╗╝йЙ┐"),
     (0xc0, "└┴┬├─┼кК"), (0xc8, "╚╔╩╦╠═╬¤"), (0xd0, "лЛмМнНоО"), (0xd8, "п┘┌█▄Пя▀"),
     (0xe0, "ЯрРсСтТу"), (0xe8, "УжЖвВьЬ№"), (0xf0, "\u00adыЫзЗшШэ"), (0xf8, "ЭщЩчЧ§■\u00a0")]⟩,
   ⟨⟨["cp857"], ["csibm857", "ibm857"]⟩,
    [(0x80, "Çüéâäàåç"), (0x88, "êëèïîıÄÅ"), (0x90, "ÉæÆôöòûù"), (0x98, "İÖÜø£ØŞş"),
     (0xa0, "áíóúñÑĞğ"), (0xa8, "¿®¬½¼¡«»"), (0xb0, "░▒▓│┤ÁÂÀ"), (0xb8, "©╣║╗╝¢¥┐"),
     (0xc0, "└┴┬├─┼ãÃ"), (0xc8, "╚╔╩╦╠═╬¤"), (0xd0, "ºªÊËÈ\ufffdÍÎ"), (0xd8, "Ï┘┌█▄¦Ì▀"),
     (0xe0, "ÓßÔÒõÕµ\ufffd"), (0xe8, "×ÚÛÙìÿ¯´"), (0xf0, "\u00ad±\ufffd¾¶§÷¸"),
     (0xf8, "°¨·¹³²■\u00a0")]⟩,
   ⟨⟨["cp858"], ["csibm858", "ibm858"]⟩,
    [(0x80, "Çüéâäàåç"), (0x88, "êëèïîìÄÅ"), (0x90, "ÉæÆôöòûù"), (0x98, "ÿÖÜø£Ø×ƒ"),
     (0xa0, "áíóúñÑªº"), (0xa8, "¿®¬½¼¡«»"), (0xb0, "░▒▓│┤ÁÂÀ"), (0xb8, "©╣║╗╝¢¥┐"),
     (0xc0, "└┴┬├─┼ãÃ"), (0xc8, "╚╔╩╦╠═╬¤"), (0xd0, "ðÐÊËÈ€ÍÎ"), (0xd8, "Ï┘┌█▄¦Ì▀"),
     (0xe0, "ÓßÔÒõÕµþ"), (0xe8, "ÞÚÛÙýÝ¯´"), (0xf0, "\u00ad±‗¾¶§÷¸"), (0xf8, "°¨·¹³²■\u00a0")]⟩,
   ⟨⟨["cp860"], ["csibm860", "ibm860"]⟩,
    [(0x80, "ÇüéâãàÁç"), (0x88, "êÊèÍÔìÃÂ"), (0x90, "ÉÀÈôõòÚù"), (0x98, "ÌÕÜ¢£Ù₧Ó"),
     (0xa0, "áíóúñÑªº"), (0xa8, "¿Ò¬½¼¡«»"), (0xb0, "░▒▓│┤╡╢╖"), (0xb8, "╕╣║╗╝╜╛┐"),
     (0xc0, "└┴┬├─┼╞╟"), (0xc8, "╚╔╩╦╠═╬╧"), (0xd0, "╨╤╥╙╘╒╓╫"), (0xd8, "╪┘┌█▄▌▐▀"),
     (0xe0, "αßΓπΣσµτ"), (0xe8, "ΦΘΩδ∞φε∩"), (0xf0, "≡±≥≤⌠⌡÷≈"), (0xf8, "°∙·√\u207f²■\u00a0")]⟩,
   ⟨⟨["cp861"], ["cp_is", "csibm861", "ibm861"]⟩,
    [(0x80, "Çüéâäàåç"), (0x88, "êëèÐðÞÄÅ"), (0x90, "ÉæÆôöþûÝ"), (0x98, "ýÖÜø£Ø₧ƒ"),
     (0xa0, "áíóúÁÍÓÚ"), (0xa8, "¿⌐¬½¼¡«»"), (0xb0, "░▒▓│┤╡╢╖"), (0xb8, "╕╣║╗╝╜╛┐"),
     (0xc0, "└┴┬├─┼╞╟"), (0xc8, "╚╔╩╦╠═╬╧"), (0xd0, "╨╤╥╙╘╒╓╫"), (0xd8, "╪┘┌█▄▌▐▀"),
     (0xe0, "αßΓπΣσµτ"), (0xe8, "ΦΘΩδ∞φε∩"), (0xf0, "≡±≥≤⌠⌡÷≈"), (0xf8, "°∙·√\u207f²■\u00a0")]⟩,
   ⟨⟨["cp862"], ["cspc862latinhebrew", "ibm862"]⟩,
    [(0x80, "\u05d0\u05d1\u05d2\u05d3\u05d4\u05d5\u05d6\u05d7"),
     (0x88, "\u05d8\u05d9\u05da\u05db\u05dc\u05dd\u05de\u05df"),
     (0x90, "\u05e0\u05e1\u05e2\u05e3\u05e4\u05e5\u05e6\u05e7"),
     (0x98, "\u05e8\u05e9\u05ea¢£¥₧ƒ"), (0xa0, "áíóúñÑªº"), (0xa8, "¿⌐¬½¼¡«»"),
     (0xb0, "░▒▓│┤╡╢╖"), (0xb8, "╕╣║╗╝╜╛┐"), (0xc0, "└┴┬├─┼╞╟"), (0xc8, "╚╔╩╦╠═╬╧"),
     (0xd0, "╨╤╥╙╘╒╓╫"), (0xd8, "╪┘┌█▄▌▐▀"), (0xe0, "αßΓπΣσµτ"), (0xe8, "ΦΘΩδ∞φε∩"),
     (0xf0, "≡±≥≤⌠⌡÷≈"), (0xf8, "°∙·√\u207f²■\u00a0")]⟩,
   ⟨⟨["cp863"], ["csibm863", "ibm863"]⟩,
    [(0x80, "ÇüéâÂà¶ç"), (0x88, "êëèïî‗À§"), (0x90, "ÉÈÊôËÏûù"), (0x98, "¤ÔÜ¢£ÙÛƒ"),
     (0xa0, "¦´óú¨¸³¯"), (0xa8, "Î⌐¬½¼¾«»"), (0xb0, "░▒▓│┤╡╢╖"), (0xb8, "╕╣║╗╝╜╛┐"),
     (0xc0, "└┴┬├─┼╞╟"), (0xc8, "╚╔╩╦╠═╬╧"), (0xd0, "╨╤╥╙╘╒╓╫"), (0xd8, "╪┘┌█▄▌▐▀"),
     (0xe0, "αßΓπΣσµτ"), (0xe8, "ΦΘΩδ∞φε∩"), (0xf0, "≡±≥≤⌠⌡÷≈"), (0xf8, "°∙·√\u207f²■\u00a0")]⟩,
   ⟨⟨["cp865"], ["csibm865", "ibm865"]⟩,
    [(0x80, "Çüéâäàåç"), (0x88, "êëèïîìÄÅ"), (0x90, "ÉæÆôöòûù"), (0x98, "ÿÖÜø£Ø₧ƒ"),
     (0xa0, "áíóúñÑªº"), (0xa8, "¿⌐¬½¼¡«¤"), (0xb0, "░▒▓│┤╡╢╖"), (0xb8, "╕╣║╗╝╜╛┐"),
     (0xc0, "└┴┬├─┼╞╟"), (0xc8, "╚╔╩╦╠═╬╧"), (0xd0, "╨╤╥╙╘╒╓╫"), (0xd8, "╪┘┌█▄▌▐▀"),
     (0xe0, "αßΓπΣσµτ"), (0xe8, "ΦΘΩδ∞φε∩"), (0xf0, "≡±≥≤⌠⌡÷≈"), (0xf8, "°∙·√\u207f²■\u00a0")]⟩,
   ⟨⟨["cp866"], ["csibm866", "ibm866"]⟩,
    [(0x80, "АБВГДЕЖЗ"), (0x88, "ИЙКЛМНОП"), (0x90, "РСТУФХЦЧ"), (0x98, "ШЩЪЫЬЭЮЯ"),
     (0xa0, "абвгдежз"), (0xa8, "ийклмноп"), (0xb0, "░▒▓│┤╡╢╖"), (0xb8, "╕╣║╗╝╜╛┐"),
     (0xc0, "└┴┬├─┼╞╟"), (0xc8, "╚╔╩╦╠═╬╧"), (0xd0, "╨╤╥╙╘╒╓╫"), (0xd8, "╪┘┌█▄▌▐▀"),
     (0xe0, "рстуфхцч"), (0xe8, "шщъыьэюя"), (0xf0, "ЁёЄєЇїЎў"), (0xf8, "°∙·√№¤■\u00a0")]⟩,
   ⟨⟨["cp869"], ["cp_gr", "csibm869", "ibm869"]⟩,
    [(0x80, "\ufffd\ufffd\ufffd\ufffd\ufffd\ufffdΆ\ufffd"), (0x88, "·¬¦‘’Έ―Ή"),
     (0x90, "ΊΪΌ\ufffd\ufffdΎΫ©"), (0x98, "Ώ²³ά£έήί"), (0xa0, "ϊΐόύΑΒΓΔ"), (0xa8, "ΕΖΗ½ΘΙ«»"),
     (0xb0, "░▒▓│┤ΚΛΜ"), (0xb8, "Ν╣║╗╝ΞΟ┐"), (0xc0, "└┴┬├─┼ΠΡ"), (0xc8, "╚╔╩╦╠═╬Σ"),
     (0xd0, "ΤΥΦΧΨΩαβ"), (0xd8, "γ┘┌█▄δε▀"), (0xe0, "ζηθικλμν"), (0xe8, "ξοπρσςτ΄"),
     (0xf0, "\u00ad±υφχ§ψ΅"), (0xf8, "°¨ωϋΰώ■\u00a0")]⟩,
   ⟨⟨["cp1006"], []⟩,
    [(0xa0, "\u00a0۰۱۲۳۴۵۶"), (0xa8, "۷۸۹،\u061b\u00ad\u061f\ufe81"),
     (0xb0, "\ufe8d\ufe8e\ufe8e\ufe8f\ufe91\ufb56\ufb58\ufe93"),
     (0xb8, "\ufe95\ufe97\ufb66\ufb68\ufe99\ufe9b\ufe9d\ufe9f"),
     (0xc0, "\ufb7a\ufb7c\ufea1\ufea3\ufea5\ufea7\ufea9\ufb84"),
     (0xc8, "\ufeab\ufead\ufb8c\ufeaf\ufb8a\ufeb1\ufeb3\ufeb5"),
     (0xd0, "\ufeb7\ufeb9\ufebb\ufebd\ufebf\ufec1\ufec5\ufec9"),
     (0xd8, "\ufeca\ufecb\ufecc\ufecd\ufece\ufecf\ufed0\ufed1"),
     (0xe0, "\ufed3\ufed5\ufed7\ufed9\ufedb\ufb92\ufb94\ufedd"),
     (0xe8, "\ufedf\ufee0\ufee1\ufee3\ufb9e\ufee5\ufee7\ufe85"),
     (0xf0, "\ufeed\ufba6\ufba8\ufba9\ufbaa\ufe80\ufe89\ufe8a"),
     (0xf8, "\ufe8b\ufef1\ufef2\ufef3\ufbb0\ufbae\ufe7c\ufe7d")]⟩,
   ⟨⟨["cp720"], []⟩,
    [(0x80, "\u0080\u0081éâ\u0084à\u0086ç"), (0x88, "êëèïî\u008d\u008e\u008f"),
     (0x90, "\u0090\u0651\u0652ô¤\u0640ûù"),
     (0x98, "\u0621\u0622\u0623\u0624£\u0625\u0626\u0627"),
     (0xa0, "\u0628\u0629\u062a\u062b\u062c\u062d\u062e\u062f"),
     (0xa8, "\u0630\u0631\u0632\u0633\u0634\u0635«»"), (0xb0, "░▒▓│┤╡╢╖"), (0xb8, "╕╣║╗╝╜╛┐"),
     (0xc0, "└┴┬├─┼╞╟"), (0xc8, "╚╔╩╦╠═╬╧"), (0xd0, "╨╤╥╙╘╒╓╫"), (0xd8, "╪┘┌█▄▌▐▀"),
     (0xe0, "\u0636\u0637\u0638\u0639\u063a\u0641µ\u0642"),
     (0xe8, "\u0643\u0644\u0645\u0646\u0647\u0648\u0649\u064a"),
     (0xf0, "≡\u064b\u064c\u064d\u064e\u064f\u0650≈"), (0xf8, "°∙·√\u207f²■\u00a0")]⟩,
   ⟨⟨["cp737"], []⟩,
    [(0x80, "ΑΒΓΔΕΖΗΘ"), (0x88, "ΙΚΛΜΝΞΟΠ"), (0x90, "ΡΣΤΥΦΧΨΩ"), (0x98, "αβγδεζηθ"),
     (0xa0, "ικλμνξοπ"), (0xa8, "ρσςτυφχψ"), (0xb0, "░▒▓│┤╡╢╖"), (0xb8, "╕╣║╗╝╜╛┐"),
     (0xc0, "└┴┬├─┼╞╟"), (0xc8, "╚╔╩╦╠═╬╧"), (0xd0, "╨╤╥╙╘╒╓╫"), (0xd8, "╪┘┌█▄▌▐▀"),
     (0xe0, "ωάέήϊίόύ"), (0xe8, "ϋώΆΈΉΊΌΎ"), (0xf0, "Ώ±≥≤ΪΫ÷≈"), (0xf8, "°∙·√\u207f²■\u00a0")]⟩,
   ⟨⟨["cp856"], []⟩,
    [(0x80, "\u05d0\u05d1\u05d2\u05d3\u05d4\u05d5\u05d6\u05d7"),
     (0x88, "\u05d8\u05d9\u05da\u05db\u05dc\u05dd\u05de\u05df"),
     (0x90, "\u05e0\u05e1\u05e2\u05e3\u05e4\u05e5\u05e6\u05e7"),
     (0x98, "\u05e8\u05e9\u05ea\ufffd£\ufffd×\ufffd"), (0xa0, unassigned),
     (0xa8, "\ufffd®¬½¼\ufffd«»"), (0xb0, "░▒▓│┤\ufffd\ufffd\ufffd"), (0xb8, "©╣║╗╝¢¥┐"),
     (0xc0, "└┴┬├─┼\ufffd\ufffd"), (0xc8, "╚╔╩╦╠═╬¤"), (0xd0, unassigned),
     (0xd8, "\ufffd┘┌█▄¦\ufffd▀"), (0xe0, "\ufffd\ufffd\ufffd\ufffd\ufffd\ufffdµ\ufffd"),
     (0xe8, "\ufffd\ufffd\ufffd\ufffd\ufffd\ufffd¯´"), (0xf0, "\u00ad±‗¾¶§÷¸"),
     (0xf8, "°¨·¹³²■\u00a0")]⟩,
   ⟨⟨["cp874"], []⟩,
    [(0x80, "€\ufffd\ufffd\ufffd\ufffd…\ufffd\ufffd"), (0x88, unassigned),
     (0x90, "\ufffd‘’“”•–—"), (0x98, unassigned), (0xa0, "\u00a0กขฃคฅฆง"), (0xa8, "จฉชซฌญฎฏ"),
     (0xb0, "ฐฑฒณดตถท"), (0xb8, "ธนบปผฝพฟ"), (0xc0, "ภมยรฤลฦว"), (0xc8, "ศษสหฬอฮฯ"),
     (0xd0, "ะ\u0e31าำ\u0e34\u0e35\u0e36\u0e37"),
     (0xd8, "\u0e38\u0e39\u0e3a\ufffd\ufffd\ufffd\ufffd฿"), (0xe0, "เแโใไๅ\u0e46\u0e47"),
     (0xe8, "\u0e48\u0e49\u0e4a\u0e4b\u0e4c\u0e4d\u0e4e๏"), (0xf0, "๐๑๒๓๔๕๖๗"),
     (0xf8, "๘๙๚๛\ufffd\ufffd\ufffd\ufffd")]⟩]

/-- The pages of the Macintosh. -/
def macPages : List CodePage :=
  [⟨⟨["mac_latin2"], ["mac_centeuro", "maccentraleurope", "maclatin2"]⟩,
    [(0x80, "ÄĀāÉĄÖÜá"), (0x88, "ąČäčĆćéŹ"), (0x90, "źĎíďĒēĖó"), (0x98, "ėôöõúĚěü"),
     (0xa0, "†°Ę£§•¶ß"), (0xa8, "®©™ę¨≠ģĮ"), (0xb0, "įĪ≤≥īĶ∂∑"), (0xb8, "łĻļĽľĹĺŅ"),
     (0xc0, "ņŃ¬√ńŇ∆«"), (0xc8, "»…\u00a0ňŐÕőŌ"), (0xd0, "–—“”‘’÷◊"), (0xd8, "ōŔŕŘ‹›řŖ"),
     (0xe0, "ŗŠ‚„šŚśÁ"), (0xe8, "ŤťÍŽžŪÓÔ"), (0xf0, "ūŮÚůŰűŲų"), (0xf8, "ÝýķŻŁżĢ\u02c7")]⟩,
   ⟨⟨["mac_croatian"], []⟩,
    [(0x80, "ÄÅÇÉÑÖÜá"), (0x88, "àâäãåçéè"), (0x90, "êëíìîïñó"), (0x98, "òôöõúùûü"),
     (0xa0, "†°¢£§•¶ß"), (0xa8, "®Š™´¨≠ŽØ"), (0xb0, "∞±≤≥∆µ∂∑"), (0xb8, "∏š∫ªºΩžø"),
     (0xc0, "¿¡¬√ƒ≈Ć«"), (0xc8, "Č…\u00a0ÀÃÕŒœ"), (0xd0, "Đ—“”‘’÷◊"), (0xd8, "\uf8ff©⁄€‹›Æ»"),
     (0xe0, "–·‚„‰ÂćÁ"), (0xe8, "čÈÍÎÏÌÓÔ"), (0xf0, "đÒÚÛÙı\u02c6˜"), (0xf8, "¯πË˚¸Êæ\u02c7")]⟩,
   ⟨⟨["mac_cyrillic"], ["maccyrillic"]⟩,
    [(0x80, "АБВГДЕЖЗ"), (0x88, "ИЙКЛМНОП"), (0x90, "РСТУФХЦЧ"), (0x98, "ШЩЪЫЬЭЮЯ"),
     (0xa0, "†°Ґ£§•¶І"), (0xa8, "®©™Ђђ≠Ѓѓ"), (0xb0, "∞±≤≥іµґЈ"), (0xb8, "ЄєЇїЉљЊњ"),
     (0xc0, "јЅ¬√ƒ≈∆«"), (0xc8, "»…\u00a0ЋћЌќѕ"), (0xd0, "–—“”‘’÷„"), (0xd8, "ЎўЏџ№Ёёя"),
     (0xe0, "абвгдежз"), (0xe8, "ийклмноп"), (0xf0, "рстуфхцч"), (0xf8, "шщъыьэю€")]⟩,
   ⟨⟨["mac_greek"], ["macgreek"]⟩,
    [(0x80, "Ä¹²É³ÖÜ΅"), (0x88, "àâä΄¨çéè"), (0x90, "êë£™îï•½"), (0x98, "‰ôö¦€ùûü"),
     (0xa0, "†ΓΔΘΛΞΠß"), (0xa8, "®©ΣΪ§≠°·"), (0xb0, "Α±≤≥¥ΒΕΖ"), (0xb8, "ΗΙΚΜΦΫΨΩ"),
     (0xc0, "άΝ¬ΟΡ≈Τ«"), (0xc8, "»…\u00a0ΥΧΆΈœ"), (0xd0, "–―“”‘’÷Ή"), (0xd8, "ΊΌΎέήίόΏ"),
     (0xe0, "ύαβψδεφγ"), (0xe8, "ηιξκλμνο"), (0xf0, "πώρστθως"), (0xf8, "χυζϊϋΐΰ\u00ad")]⟩,
   ⟨⟨["mac_iceland"], ["maciceland"]⟩,
    [(0x80, "ÄÅÇÉÑÖÜá"), (0x88, "àâäãåçéè"), (0x90, "êëíìîïñó"), (0x98, "òôöõúùûü"),
     (0xa0, "Ý°¢£§•¶ß"), (0xa8, "®©™´¨≠ÆØ"), (0xb0, "∞±≤≥¥µ∂∑"), (0xb8, "∏π∫ªºΩæø"),
     (0xc0, "¿¡¬√ƒ≈∆«"), (0xc8, "»…\u00a0ÀÃÕŒœ"), (0xd0, "–—“”‘’÷◊"), (0xd8, "ÿŸ⁄€ÐðÞþ"),
     (0xe0, "ý·‚„‰ÂÊÁ"), (0xe8, "ËÈÍÎÏÌÓÔ"), (0xf0, "\uf8ffÒÚÛÙı\u02c6˜"),
     (0xf8, "¯˘˙˚¸˝˛\u02c7")]⟩,
   ⟨⟨["mac_roman"], ["macintosh", "macroman"]⟩,
    [(0x80, "ÄÅÇÉÑÖÜá"), (0x88, "àâäãåçéè"), (0x90, "êëíìîïñó"), (0x98, "òôöõúùûü"),
     (0xa0, "†°¢£§•¶ß"), (0xa8, "®©™´¨≠ÆØ"), (0xb0, "∞±≤≥¥µ∂∑"), (0xb8, "∏π∫ªºΩæø"),
     (0xc0, "¿¡¬√ƒ≈∆«"), (0xc8, "»…\u00a0ÀÃÕŒœ"), (0xd0, "–—“”‘’÷◊"),
     (0xd8, "ÿŸ⁄€‹›\ufb01\ufb02"), (0xe0, "‡·‚„‰ÂÊÁ"), (0xe8, "ËÈÍÎÏÌÓÔ"),
     (0xf0, "\uf8ffÒÚÛÙı\u02c6˜"), (0xf8, "¯˘˙˚¸˝˛\u02c7")]⟩,
   ⟨⟨["mac_romanian"], []⟩,
    [(0x80, "ÄÅÇÉÑÖÜá"), (0x88, "àâäãåçéè"), (0x90, "êëíìîïñó"), (0x98, "òôöõúùûü"),
     (0xa0, "†°¢£§•¶ß"), (0xa8, "®©™´¨≠ĂȘ"), (0xb0, "∞±≤≥¥µ∂∑"), (0xb8, "∏π∫ªºΩăș"),
     (0xc0, "¿¡¬√ƒ≈∆«"), (0xc8, "»…\u00a0ÀÃÕŒœ"), (0xd0, "–—“”‘’÷◊"), (0xd8, "ÿŸ⁄€‹›Țț"),
     (0xe0, "‡·‚„‰ÂÊÁ"), (0xe8, "ËÈÍÎÏÌÓÔ"), (0xf0, "\uf8ffÒÚÛÙı\u02c6˜"),
     (0xf8, "¯˘˙˚¸˝˛\u02c7")]⟩,
   ⟨⟨["mac_turkish"], ["macturkish"]⟩,
    [(0x80, "ÄÅÇÉÑÖÜá"), (0x88, "àâäãåçéè"), (0x90, "êëíìîïñó"), (0x98, "òôöõúùûü"),
     (0xa0, "†°¢£§•¶ß"), (0xa8, "®©™´¨≠ÆØ"), (0xb0, "∞±≤≥¥µ∂∑"), (0xb8, "∏π∫ªºΩæø"),
     (0xc0, "¿¡¬√ƒ≈∆«"), (0xc8, "»…\u00a0ÀÃÕŒœ"), (0xd0, "–—“”‘’÷◊"), (0xd8, "ÿŸĞğİıŞş"),
     (0xe0, "‡·‚„‰ÂÊÁ"), (0xe8, "ËÈÍÎÏÌÓÔ"), (0xf0, "\uf8ffÒÚÛÙ\uf8a0\u02c6˜"),
     (0xf8, "¯˘˙˚¸˝˛\u02c7")]⟩]

/-- Other pages with ASCII in their lower half. -/
def otherPages : List CodePage :=
  [⟨⟨["hp_roman8"], ["cp1051", "ibm1051", "r8", "roman8"]⟩,
    [(0xa0, "\u00a0ÀÂÈÊËÎÏ"), (0xa8, "´\u02cb\u02c6¨˜ÙÛ₤"), (0xb0, "¯Ýý°ÇçÑñ"),
     (0xb8, "¡¿¤£¥§ƒ¢"), (0xc0, "âêôûáéóú"), (0xc8, "àèòùäëöü"), (0xd0, "ÅîØÆåíøæ"),
     (0xd8, "ÄìÖÜÉïßÔ"), (0xe0, "ÁÃãÐðÍÌÓ"), (0xe8, "ÒÕõŠšÚŸÿ"), (0xf0, "Þþ·µ¶¾—¼"),
     (0xf8, "½ªº«■»±\ufffd")]⟩,
   ⟨⟨["ptcp154"], ["cp154", "csptcp154", "cyrillic_asian", "pt154"]⟩,
    [(0x80, "ҖҒӮғ„…ҶҮ"), (0x88, "ҲүҠӢҢҚҺҸ"), (0x90, "җ‘’“”•–—"), (0x98, "ҳҷҡӣңқһҹ"),
     (0xa0, "\u00a0ЎўЈӨҘҰ§"), (0xa8, "Ё©Ә«¬ӯ®Ҝ"), (0xb0, "°ұІіҙө¶·"), (0xb8, "ё№ә»јҪҫҝ"),
     (0xc0, "АБВГДЕЖЗ"), (0xc8, "ИЙКЛМНОП"), (0xd0, "РСТУФХЦЧ"), (0xd8, "ШЩЪЫЬЭЮЯ"),
     (0xe0, "абвгдежз"), (0xe8, "ийклмноп"), (0xf0, "рстуфхцч"), (0xf8, "шщъыьэюя")]⟩,
   ⟨⟨["koi8_r"], ["cskoi8r"]⟩,
    [(0x80, "─│┌┐└┘├┤"), (0x88, "┬┴┼▀▄█▌▐"), (0x90, "░▒▓⌠■∙√≈"), (0x98, "≤≥\u00a0⌡°²·÷"),
     (0xa0, "═║╒ё╓╔╕╖"), (0xa8, "╗╘╙╚╛╜╝╞"), (0xb0, "╟╠╡Ё╢╣╤╥"), (0xb8, "╦╧╨╩╪╫╬©"),
     (0xc0, "юабцдефг"), (0xc8, "хийклмно"), (0xd0, "пярстужв"), (0xd8, "ьызшэщчъ"),
     (0xe0, "ЮАБЦДЕФГ"), (0xe8, "ХИЙКЛМНО"), (0xf0, "ПЯРСТУЖВ"), (0xf8, "ЬЫЗШЭЩЧЪ")]⟩,
   ⟨⟨["hz"], ["hz_gb", "hz_gb_2312", "hzgb"]⟩,
    [(0x78, "xyz\x7b|\x7d\ufffd\x7f"), (0x80, unassigned), (0x88, unassigned), (0x90, unassigned),
     (0x98, unassigned), (0xa0, unassigned), (0xa8, unassigned), (0xb0, unassigned),
     (0xb8, unassigned), (0xc0, unassigned), (0xc8, unassigned), (0xd0, unassigned),
     (0xd8, unassigned), (0xe0, unassigned), (0xe8, unassigned), (0xf0, unassigned),
     (0xf8, unassigned)]⟩,
   ⟨⟨["koi8_t"], []⟩,
    [(0x80, "қғ‚Ғ„…†‡"), (0x88, "\ufffd‰ҳ‹ҲҷҶ\ufffd"), (0x90, "Қ‘’“”•–—"),
     (0x98, "\ufffd™\ufffd›\ufffd\ufffd\ufffd\ufffd"), (0xa0, "\ufffdӯӮё¤ӣ¦§"),
     (0xa8, "\ufffd\ufffd\ufffd«¬\u00ad®\ufffd"), (0xb0, "°±²Ё\ufffdӢ¶·"),
     (0xb8, "\ufffd№\ufffd»\ufffd\ufffd\ufffd©"), (0xc0, "юабцдефг"), (0xc8, "хийклмно"),
     (0xd0, "пярстужв"), (0xd8, "ьызшэщчъ"), (0xe0, "ЮАБЦДЕФГ"), (0xe8, "ХИЙКЛМНО"),
     (0xf0, "ПЯРСТУЖВ"), (0xf8, "ЬЫЗШЭЩЧЪ")]⟩,
   ⟨⟨["koi8_u"], []⟩,
    [(0x80, "─│┌┐└┘├┤"), (0x88, "┬┴┼▀▄█▌▐"), (0x90, "░▒▓⌠■∙√≈"), (0x98, "≤≥\u00a0⌡°²·÷"),
     (0xa0, "═║╒ёє╔ії"), (0xa8, "╗╘╙╚╛ґ╝╞"), (0xb0, "╟╠╡ЁЄ╣ІЇ"), (0xb8, "╦╧╨╩╪Ґ╬©"),
     (0xc0, "юабцдефг"), (0xc8, "хийклмно"), (0xd0, "пярстужв"), (0xd8, "ьызшэщчъ"),
     (0xe0, "ЮАБЦДЕФГ"), (0xe8, "ХИЙКЛМНО"), (0xf0, "ПЯРСТУЖВ"), (0xf8, "ЬЫЗШЭЩЧЪ")]⟩,
   ⟨⟨["kz1048"], ["kz_1048", "rk1048", "strk1048_2002"]⟩,
    [(0x80, "ЂЃ‚ѓ„…†‡"), (0x88, "€‰Љ‹ЊҚҺЏ"), (0x90, "ђ‘’“”•–—"), (0x98, "\ufffd™љ›њқһџ"),
     (0xa0, "\u00a0ҰұӘ¤Ө¦§"), (0xa8, "Ё©Ғ«¬\u00ad®Ү"), (0xb0, "°±Ііөµ¶·"), (0xb8, "ё№ғ»әҢңү"),
     (0xc0, "АБВГДЕЖЗ"), (0xc8, "ИЙКЛМНОП"), (0xd0, "РСТУФХЦЧ"), (0xd8, "ШЩЪЫЬЭЮЯ"),
     (0xe0, "абвгдежз"), (0xe8, "ийклмноп"), (0xf0, "рстуфхцч"), (0xf8, "шщъыьэюя")]⟩,
   ⟨⟨["palmos"], []⟩,
    [(0x80, "€\u0081‚ƒ„…†‡"), (0x88, "\u02c6‰Š‹Œ♦♣♥"), (0x90, "♠‘’“”•–—"),
     (0x98, "˜™š\u009bœ\u009d\u009eŸ")]⟩]

/-- Encodings in which characters may take more than one byte. -/
def wide : EncodingNames :=
  ⟨["big5", "big5hkscs", "cp932", "cp949", "cp950", "euc_jis_2004", "euc_jisx0213", "euc_jp",
    "euc_kr", "gb18030", "gb2312", "gbk", "iso2022_kr", "johab", "shift_jis", "shift_jis_2004",
    "shift_jisx0213", "utf_16", "utf_16_be", "utf_16_le", "utf_32", "utf_32_be", "utf_32_le",
    "utf_7"],
   ["big5_hkscs", "big5_tw", "chinese", "cp1361", "cp936", "csbig5", "csiso2022kr",
    "csiso58gb231280", "csshiftjis", "euc_cn", "euc_jis2004", "euccn", "eucgb2312_cn",
    "eucjis2004", "eucjisx0213", "eucjp", "euckr", "gb18030_2000", "gb2312_1980", "gb2312_80",
    "hkscs", "iso2022kr", "iso_2022_kr", "iso_ir_58", "jisx0213", "korean", "ks_c_5601",
    "ks_c_5601_1987", "ks_x_1001", "ksc5601", "ksx1001", "ms1361", "ms932", "ms936", "ms949",
    "ms950", "ms_kanji", "mskanji", "s_jis", "s_jis_2004", "s_jisx0213", "shiftjis",
    "shiftjis2004", "shiftjisx0213", "sjis", "sjis_2004", "sjisx0213", "u16", "u32", "u7",
    "u_jis", "uhc", "ujis", "unicode_1_1_utf_7", "unicodebigunmarked", "unicodelittleunmarked",
    "utf16", "utf32", "utf7", "utf_16be", "utf_16le", "utf_32be", "utf_32le", "x_mac_japanese",
    "x_mac_korean", "x_mac_simp_chinese", "x_mac_trad_chinese"]⟩

/-- Code pages in which characters of markup stand in another place than in ASCII. -/
def foreign : EncodingNames :=
  ⟨["cp037", "cp1026", "cp1140", "cp273", "cp424", "cp500", "cp864", "cp875", "mac_arabic",
    "mac_farsi"],
   ["csibm037", "csibm1026", "csibm273", "csibm424", "csibm500", "csibm864", "ebcdic_cp_be",
    "ebcdic_cp_ca", "ebcdic_cp_ch", "ebcdic_cp_he", "ebcdic_cp_nl", "ebcdic_cp_us",
    "ebcdic_cp_wt", "ibm037", "ibm039", "ibm1026", "ibm1140", "ibm273", "ibm424", "ibm500",
    "ibm864"]⟩

/-- Every code page that can be read. -/
def pages : List CodePage :=
  ascii :: latin1 :: isoPages ++ windowsPages ++ dosPages ++ macPages ++ otherPages

end VulkanBindings.Xml.CodePageTable
