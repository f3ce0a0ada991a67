import DatasetService.Text.Charset.Index

set_option autoImplicit false

/- Character sets of one byte a character. The bytes below `80` are those of ASCII. -/
namespace DatasetService.Text.Charset

/-- The labels of a set, and its characters from the byte `80` on. -/
structure ByteSet where
  labels : List String
  upper : Index
deriving DecidableEq, Repr

def ibm866 : ByteSet where
  labels :=
    ["866", "cp866", "csibm866", "ibm866"]
  upper :=
    ["АБВГДЕЖЗИЙКЛМНОПРСТУФХЦЧШЩЪЫЬЭЮЯабвгдежзийклмноп░▒▓│┤╡╢╖╕╣║╗╝╜╛┐",
     "└┴┬├─┼╞╟╚╔╩╦╠═╬╧╨╤╥╙╘╒╓╫╪┘┌█▄▌▐▀рстуфхцчшщъыьэюяЁёЄєЇїЎў°∙·√№¤■\u00A0"]

def iso88592 : ByteSet where
  labels :=
    ["csisolatin2", "iso-8859-2", "iso-ir-101", "iso8859-2", "iso88592", "iso_8859-2",
     "iso_8859-2:1987", "l2", "latin2"]
  upper :=
    ["\u0080\u0081\u0082\u0083\u0084\u0085\u0086\u0087\u0088\u0089\u008A\u008B\u008C\u008D\u008E\u008F\u0090\u0091\u0092\u0093\u0094\u0095\u0096\u0097\u0098\u0099\u009A\u009B\u009C\u009D\u009E\u009F\u00A0Ą˘Ł¤ĽŚ§¨ŠŞŤŹ\u00ADŽŻ°ą˛ł´ľśˇ¸šşťź˝žż",
     "ŔÁÂĂÄĹĆÇČÉĘËĚÍÎĎĐŃŇÓÔŐÖ×ŘŮÚŰÜÝŢßŕáâăäĺćçčéęëěíîďđńňóôőö÷řůúűüýţ˙"]

def iso88593 : ByteSet where
  labels :=
    ["csisolatin3", "iso-8859-3", "iso-ir-109", "iso8859-3", "iso88593", "iso_8859-3",
     "iso_8859-3:1988", "l3", "latin3"]
  upper :=
    ["\u0080\u0081\u0082\u0083\u0084\u0085\u0086\u0087\u0088\u0089\u008A\u008B\u008C\u008D\u008E\u008F\u0090\u0091\u0092\u0093\u0094\u0095\u0096\u0097\u0098\u0099\u009A\u009B\u009C\u009D\u009E\u009F\u00A0Ħ˘£¤.Ĥ§¨İŞĞĴ\u00AD.Ż°ħ²³´µĥ·¸ışğĵ½.ż",
     "ÀÁÂ.ÄĊĈÇÈÉÊËÌÍÎÏ.ÑÒÓÔĠÖ×ĜÙÚÛÜŬŜßàáâ.äċĉçèéêëìíîï.ñòóôġö÷ĝùúûüŭŝ˙"]

def iso88594 : ByteSet where
  labels :=
    ["csisolatin4", "iso-8859-4", "iso-ir-110", "iso8859-4", "iso88594", "iso_8859-4",
     "iso_8859-4:1988", "l4", "latin4"]
  upper :=
    ["\u0080\u0081\u0082\u0083\u0084\u0085\u0086\u0087\u0088\u0089\u008A\u008B\u008C\u008D\u008E\u008F\u0090\u0091\u0092\u0093\u0094\u0095\u0096\u0097\u0098\u0099\u009A\u009B\u009C\u009D\u009E\u009F\u00A0ĄĸŖ¤ĨĻ§¨ŠĒĢŦ\u00ADŽ¯°ą˛ŗ´ĩļˇ¸šēģŧŊžŋ",
     "ĀÁÂÃÄÅÆĮČÉĘËĖÍÎĪĐŅŌĶÔÕÖ×ØŲÚÛÜŨŪßāáâãäåæįčéęëėíîīđņōķôõö÷øųúûüũū˙"]

def iso88595 : ByteSet where
  labels :=
    ["csisolatincyrillic", "cyrillic", "iso-8859-5", "iso-ir-144", "iso8859-5", "iso88595",
     "iso_8859-5", "iso_8859-5:1988"]
  upper :=
    ["\u0080\u0081\u0082\u0083\u0084\u0085\u0086\u0087\u0088\u0089\u008A\u008B\u008C\u008D\u008E\u008F\u0090\u0091\u0092\u0093\u0094\u0095\u0096\u0097\u0098\u0099\u009A\u009B\u009C\u009D\u009E\u009F\u00A0ЁЂЃЄЅІЇЈЉЊЋЌ\u00ADЎЏАБВГДЕЖЗИЙКЛМНОП",
     "РСТУФХЦЧШЩЪЫЬЭЮЯабвгдежзийклмнопрстуфхцчшщъыьэюя№ёђѓєѕіїјљњћќ§ўџ"]

def iso88596 : ByteSet where
  labels :=
    ["arabic", "asmo-708", "csiso88596e", "csiso88596i", "csisolatinarabic", "ecma-114",
     "iso-8859-6", "iso-8859-6-e", "iso-8859-6-i", "iso-ir-127", "iso8859-6", "iso88596",
     "iso_8859-6", "iso_8859-6:1987"]
  upper :=
    ["\u0080\u0081\u0082\u0083\u0084\u0085\u0086\u0087\u0088\u0089\u008A\u008B\u008C\u008D\u008E\u008F\u0090\u0091\u0092\u0093\u0094\u0095\u0096\u0097\u0098\u0099\u009A\u009B\u009C\u009D\u009E\u009F\u00A0...¤.......\u060C\u00AD.............\u061B...\u061F",
     ".\u0621\u0622\u0623\u0624\u0625\u0626\u0627\u0628\u0629\u062A\u062B\u062C\u062D\u062E\u062F\u0630\u0631\u0632\u0633\u0634\u0635\u0636\u0637\u0638\u0639\u063A.....\u0640\u0641\u0642\u0643\u0644\u0645\u0646\u0647\u0648\u0649\u064A\u064B\u064C\u064D\u064E\u064F\u0650\u0651\u0652............."]

def iso88597 : ByteSet where
  labels :=
    ["csisolatingreek", "ecma-118", "elot_928", "greek", "greek8", "iso-8859-7", "iso-ir-126",
     "iso8859-7", "iso88597", "iso_8859-7", "iso_8859-7:1987", "sun_eu_greek"]
  upper :=
    ["\u0080\u0081\u0082\u0083\u0084\u0085\u0086\u0087\u0088\u0089\u008A\u008B\u008C\u008D\u008E\u008F\u0090\u0091\u0092\u0093\u0094\u0095\u0096\u0097\u0098\u0099\u009A\u009B\u009C\u009D\u009E\u009F\u00A0‘’£€₯¦§¨©ͺ«¬\u00AD.―°±²³΄΅Ά·ΈΉΊ»Ό½ΎΏ",
     "ΐΑΒΓΔΕΖΗΘΙΚΛΜΝΞΟΠΡ.ΣΤΥΦΧΨΩΪΫάέήίΰαβγδεζηθικλμνξοπρςστυφχψωϊϋόύώ."]

def iso88598 : ByteSet where
  labels :=
    ["csiso88598e", "csisolatinhebrew", "hebrew", "iso-8859-8", "iso-8859-8-e", "iso-ir-138",
     "iso8859-8", "iso88598", "iso_8859-8", "iso_8859-8:1988", "visual"]
  upper :=
    ["\u0080\u0081\u0082\u0083\u0084\u0085\u0086\u0087\u0088\u0089\u008A\u008B\u008C\u008D\u008E\u008F\u0090\u0091\u0092\u0093\u0094\u0095\u0096\u0097\u0098\u0099\u009A\u009B\u009C\u009D\u009E\u009F\u00A0.¢£¤¥¦§¨©×«¬\u00AD®¯°±²³´µ¶·¸¹÷»¼½¾.",
     "...............................‗\u05D0\u05D1\u05D2\u05D3\u05D4\u05D5\u05D6\u05D7\u05D8\u05D9\u05DA\u05DB\u05DC\u05DD\u05DE\u05DF\u05E0\u05E1\u05E2\u05E3\u05E4\u05E5\u05E6\u05E7\u05E8\u05E9\u05EA..\u200E\u200F."]

def iso88598I : ByteSet where
  labels :=
    ["csiso88598i", "iso-8859-8-i", "logical"]
  upper := iso88598.upper

def iso885910 : ByteSet where
  labels :=
    ["csisolatin6", "iso-8859-10", "iso-ir-157", "iso8859-10", "iso885910", "l6", "latin6"]
  upper :=
    ["\u0080\u0081\u0082\u0083\u0084\u0085\u0086\u0087\u0088\u0089\u008A\u008B\u008C\u008D\u008E\u008F\u0090\u0091\u0092\u0093\u0094\u0095\u0096\u0097\u0098\u0099\u009A\u009B\u009C\u009D\u009E\u009F\u00A0ĄĒĢĪĨĶ§ĻĐŠŦŽ\u00ADŪŊ°ąēģīĩķ·ļđšŧž―ūŋ",
     "ĀÁÂÃÄÅÆĮČÉĘËĖÍÎÏÐŅŌÓÔÕÖŨØŲÚÛÜÝÞßāáâãäåæįčéęëėíîïðņōóôõöũøųúûüýþĸ"]

def iso885913 : ByteSet where
  labels :=
    ["iso-8859-13", "iso8859-13", "iso885913"]
  upper :=
    ["\u0080\u0081\u0082\u0083\u0084\u0085\u0086\u0087\u0088\u0089\u008A\u008B\u008C\u008D\u008E\u008F\u0090\u0091\u0092\u0093\u0094\u0095\u0096\u0097\u0098\u0099\u009A\u009B\u009C\u009D\u009E\u009F\u00A0”¢£¤„¦§Ø©Ŗ«¬\u00AD®Æ°±²³“µ¶·ø¹ŗ»¼½¾æ",
     "ĄĮĀĆÄÅĘĒČÉŹĖĢĶĪĻŠŃŅÓŌÕÖ×ŲŁŚŪÜŻŽßąįāćäåęēčéźėģķīļšńņóōõö÷ųłśūüżž’"]

def iso885914 : ByteSet where
  labels :=
    ["iso-8859-14", "iso8859-14", "iso885914"]
  upper :=
    ["\u0080\u0081\u0082\u0083\u0084\u0085\u0086\u0087\u0088\u0089\u008A\u008B\u008C\u008D\u008E\u008F\u0090\u0091\u0092\u0093\u0094\u0095\u0096\u0097\u0098\u0099\u009A\u009B\u009C\u009D\u009E\u009F\u00A0Ḃḃ£ĊċḊ§Ẁ©ẂḋỲ\u00AD®ŸḞḟĠġṀṁ¶ṖẁṗẃṠỳẄẅṡ",
     "ÀÁÂÃÄÅÆÇÈÉÊËÌÍÎÏŴÑÒÓÔÕÖṪØÙÚÛÜÝŶßàáâãäåæçèéêëìíîïŵñòóôõöṫøùúûüýŷÿ"]

def iso885915 : ByteSet where
  labels :=
    ["csisolatin9", "iso-8859-15", "iso8859-15", "iso885915", "iso_8859-15", "l9"]
  upper :=
    ["\u0080\u0081\u0082\u0083\u0084\u0085\u0086\u0087\u0088\u0089\u008A\u008B\u008C\u008D\u008E\u008F\u0090\u0091\u0092\u0093\u0094\u0095\u0096\u0097\u0098\u0099\u009A\u009B\u009C\u009D\u009E\u009F\u00A0¡¢£€¥Š§š©ª«¬\u00AD®¯°±²³Žµ¶·ž¹º»ŒœŸ¿",
     "ÀÁÂÃÄÅÆÇÈÉÊËÌÍÎÏÐÑÒÓÔÕÖ×ØÙÚÛÜÝÞßàáâãäåæçèéêëìíîïðñòóôõö÷øùúûüýþÿ"]

def iso885916 : ByteSet where
  labels :=
    ["iso-8859-16"]
  upper :=
    ["\u0080\u0081\u0082\u0083\u0084\u0085\u0086\u0087\u0088\u0089\u008A\u008B\u008C\u008D\u008E\u008F\u0090\u0091\u0092\u0093\u0094\u0095\u0096\u0097\u0098\u0099\u009A\u009B\u009C\u009D\u009E\u009F\u00A0ĄąŁ€„Š§š©Ș«Ź\u00ADźŻ°±ČłŽ”¶·žčș»ŒœŸż",
     "ÀÁÂĂÄĆÆÇÈÉÊËÌÍÎÏĐŃÒÓÔŐÖŚŰÙÚÛÜĘȚßàáâăäćæçèéêëìíîïđńòóôőöśűùúûüęțÿ"]

def koi8R : ByteSet where
  labels :=
    ["cskoi8r", "koi", "koi8", "koi8-r", "koi8_r"]
  upper :=
    ["─│┌┐└┘├┤┬┴┼▀▄█▌▐░▒▓⌠■∙√≈≤≥\u00A0⌡°²·÷═║╒ё╓╔╕╖╗╘╙╚╛╜╝╞╟╠╡Ё╢╣╤╥╦╧╨╩╪╫╬©",
     "юабцдефгхийклмнопярстужвьызшэщчъЮАБЦДЕФГХИЙКЛМНОПЯРСТУЖВЬЫЗШЭЩЧЪ"]

def koi8U : ByteSet where
  labels :=
    ["koi8-ru", "koi8-u"]
  upper :=
    ["─│┌┐└┘├┤┬┴┼▀▄█▌▐░▒▓⌠■∙√≈≤≥\u00A0⌡°²·÷═║╒ёє╔ії╗╘╙╚╛ґў╞╟╠╡ЁЄ╣ІЇ╦╧╨╩╪ҐЎ©",
     "юабцдефгхийклмнопярстужвьызшэщчъЮАБЦДЕФГХИЙКЛМНОПЯРСТУЖВЬЫЗШЭЩЧЪ"]

def macintosh : ByteSet where
  labels :=
    ["csmacintosh", "mac", "macintosh", "x-mac-roman"]
  upper :=
    ["ÄÅÇÉÑÖÜáàâäãåçéèêëíìîïñóòôöõúùûü†°¢£§•¶ß®©™´¨≠ÆØ∞±≤≥¥µ∂∑∏π∫ªºΩæø",
     "¿¡¬√ƒ≈∆«»…\u00A0ÀÃÕŒœ–—“”‘’÷◊ÿŸ⁄€‹›ﬁﬂ‡·‚„‰ÂÊÁËÈÍÎÏÌÓÔ\uF8FFÒÚÛÙıˆ˜¯˘˙˚¸˝˛ˇ"]

def windows874 : ByteSet where
  labels :=
    ["dos-874", "iso-8859-11", "iso8859-11", "iso885911", "tis-620", "windows-874"]
  upper :=
    ["€\u0081\u0082\u0083\u0084…\u0086\u0087\u0088\u0089\u008A\u008B\u008C\u008D\u008E\u008F\u0090‘’“”•–—\u0098\u0099\u009A\u009B\u009C\u009D\u009E\u009F\u00A0กขฃคฅฆงจฉชซฌญฎฏฐฑฒณดตถทธนบปผฝพฟ",
     "ภมยรฤลฦวศษสหฬอฮฯะ\u0E31าำ\u0E34\u0E35\u0E36\u0E37\u0E38\u0E39\u0E3A....฿เแโใไๅๆ\u0E47\u0E48\u0E49\u0E4A\u0E4B\u0E4C\u0E4D\u0E4E๏๐๑๒๓๔๕๖๗๘๙๚๛...."]

def windows1250 : ByteSet where
  labels :=
    ["cp1250", "windows-1250", "x-cp1250"]
  upper :=
    ["€\u0081‚\u0083„…†‡\u0088‰Š‹ŚŤŽŹ\u0090‘’“”•–—\u0098™š›śťžź\u00A0ˇ˘Ł¤Ą¦§¨©Ş«¬\u00AD®Ż°±˛ł´µ¶·¸ąş»Ľ˝ľż",
     "ŔÁÂĂÄĹĆÇČÉĘËĚÍÎĎĐŃŇÓÔŐÖ×ŘŮÚŰÜÝŢßŕáâăäĺćçčéęëěíîďđńňóôőö÷řůúűüýţ˙"]

def windows1251 : ByteSet where
  labels :=
    ["cp1251", "windows-1251", "x-cp1251"]
  upper :=
    ["ЂЃ‚ѓ„…†‡€‰Љ‹ЊЌЋЏђ‘’“”•–—\u0098™љ›њќћџ\u00A0ЎўЈ¤Ґ¦§Ё©Є«¬\u00AD®Ї°±Ііґµ¶·ё№є»јЅѕї",
     "АБВГДЕЖЗИЙКЛМНОПРСТУФХЦЧШЩЪЫЬЭЮЯабвгдежзийклмнопрстуфхцчшщъыьэюя"]

def windows1252 : ByteSet where
  labels :=
    ["ansi_x3.4-1968", "ascii", "cp1252", "cp819", "csisolatin1", "ibm819", "iso-8859-1",
     "iso-ir-100", "iso8859-1", "iso88591", "iso_8859-1", "iso_8859-1:1987", "l1", "latin1",
     "us-ascii", "windows-1252", "x-cp1252"]
  upper :=
    ["€\u0081‚ƒ„…†‡ˆ‰Š‹Œ\u008DŽ\u008F\u0090‘’“”•–—˜™š›œ\u009DžŸ\u00A0¡¢£¤¥¦§¨©ª«¬\u00AD®¯°±²³´µ¶·¸¹º»¼½¾¿",
     "ÀÁÂÃÄÅÆÇÈÉÊËÌÍÎÏÐÑÒÓÔÕÖ×ØÙÚÛÜÝÞßàáâãäåæçèéêëìíîïðñòóôõö÷øùúûüýþÿ"]

def windows1253 : ByteSet where
  labels :=
    ["cp1253", "windows-1253", "x-cp1253"]
  upper :=
    ["€\u0081‚ƒ„…†‡\u0088‰\u008A‹\u008C\u008D\u008E\u008F\u0090‘’“”•–—\u0098™\u009A›\u009C\u009D\u009E\u009F\u00A0΅Ά£¤¥¦§¨©.«¬\u00AD®―°±²³΄µ¶·ΈΉΊ»Ό½ΎΏ",
     "ΐΑΒΓΔΕΖΗΘΙΚΛΜΝΞΟΠΡ.ΣΤΥΦΧΨΩΪΫάέήίΰαβγδεζηθικλμνξοπρςστυφχψωϊϋόύώ."]

def windows1254 : ByteSet where
  labels :=
    ["cp1254", "csisolatin5", "iso-8859-9", "iso-ir-148", "iso8859-9", "iso88599", "iso_8859-9",
     "iso_8859-9:1989", "l5", "latin5", "windows-1254", "x-cp1254"]
  upper :=
    ["€\u0081‚ƒ„…†‡ˆ‰Š‹Œ\u008D\u008E\u008F\u0090‘’“”•–—˜™š›œ\u009D\u009EŸ\u00A0¡¢£¤¥¦§¨©ª«¬\u00AD®¯°±²³´µ¶·¸¹º»¼½¾¿",
     "ÀÁÂÃÄÅÆÇÈÉÊËÌÍÎÏĞÑÒÓÔÕÖ×ØÙÚÛÜİŞßàáâãäåæçèéêëìíîïğñòóôõö÷øùúûüışÿ"]

def windows1255 : ByteSet where
  labels :=
    ["cp1255", "windows-1255", "x-cp1255"]
  upper :=
    ["€\u0081‚ƒ„…†‡ˆ‰\u008A‹\u008C\u008D\u008E\u008F\u0090‘’“”•–—˜™\u009A›\u009C\u009D\u009E\u009F\u00A0¡¢£₪¥¦§¨©×«¬\u00AD®¯°±²³´µ¶·¸¹÷»¼½¾¿",
     "\u05B0\u05B1\u05B2\u05B3\u05B4\u05B5\u05B6\u05B7\u05B8\u05B9\u05BA\u05BB\u05BC\u05BD\u05BE\u05BF\u05C0\u05C1\u05C2\u05C3\u05F0\u05F1\u05F2\u05F3\u05F4.......\u05D0\u05D1\u05D2\u05D3\u05D4\u05D5\u05D6\u05D7\u05D8\u05D9\u05DA\u05DB\u05DC\u05DD\u05DE\u05DF\u05E0\u05E1\u05E2\u05E3\u05E4\u05E5\u05E6\u05E7\u05E8\u05E9\u05EA..\u200E\u200F."]

def windows1256 : ByteSet where
  labels :=
    ["cp1256", "windows-1256", "x-cp1256"]
  upper :=
    ["€\u067E‚ƒ„…†‡ˆ‰\u0679‹Œ\u0686\u0698\u0688\u06AF‘’“”•–—\u06A9™\u0691›œ\u200C\u200D\u06BA\u00A0\u060C¢£¤¥¦§¨©\u06BE«¬\u00AD®¯°±²³´µ¶·¸¹\u061B»¼½¾\u061F",
     "\u06C1\u0621\u0622\u0623\u0624\u0625\u0626\u0627\u0628\u0629\u062A\u062B\u062C\u062D\u062E\u062F\u0630\u0631\u0632\u0633\u0634\u0635\u0636×\u0637\u0638\u0639\u063A\u0640\u0641\u0642\u0643à\u0644â\u0645\u0646\u0647\u0648çèéêë\u0649\u064Aîï\u064B\u064C\u064D\u064Eô\u064F\u0650÷\u0651ù\u0652ûü\u200E\u200F\u06D2"]

def windows1257 : ByteSet where
  labels :=
    ["cp1257", "windows-1257", "x-cp1257"]
  upper :=
    ["€\u0081‚\u0083„…†‡\u0088‰\u008A‹\u008C¨ˇ¸\u0090‘’“”•–—\u0098™\u009A›\u009C¯˛\u009F\u00A0.¢£¤.¦§Ø©Ŗ«¬\u00AD®Æ°±²³´µ¶·ø¹ŗ»¼½¾æ",
     "ĄĮĀĆÄÅĘĒČÉŹĖĢĶĪĻŠŃŅÓŌÕÖ×ŲŁŚŪÜŻŽßąįāćäåęēčéźėģķīļšńņóōõö÷ųłśūüżž˙"]

def windows1258 : ByteSet where
  labels :=
    ["cp1258", "windows-1258", "x-cp1258"]
  upper :=
    ["€\u0081‚ƒ„…†‡ˆ‰\u008A‹Œ\u008D\u008E\u008F\u0090‘’“”•–—˜™\u009A›œ\u009D\u009EŸ\u00A0¡¢£¤¥¦§¨©ª«¬\u00AD®¯°±²³´µ¶·¸¹º»¼½¾¿",
     "ÀÁÂĂÄÅÆÇÈÉÊË\u0300ÍÎÏĐÑ\u0309ÓÔƠÖ×ØÙÚÛÜƯ\u0303ßàáâăäåæçèéêë\u0301íîïđñ\u0323óôơö÷øùúûüư₫ÿ"]

def xMacCyrillic : ByteSet where
  labels :=
    ["x-mac-cyrillic", "x-mac-ukrainian"]
  upper :=
    ["АБВГДЕЖЗИЙКЛМНОПРСТУФХЦЧШЩЪЫЬЭЮЯ†°Ґ£§•¶І®©™Ђђ≠Ѓѓ∞±≤≥іµґЈЄєЇїЉљЊњ",
     "јЅ¬√ƒ≈∆«»…\u00A0ЋћЌќѕ–—“”‘’÷„ЎўЏџ№Ёёяабвгдежзийклмнопрстуфхцчшщъыьэю€"]

def byteSets : List ByteSet :=
  [ibm866, iso88592, iso88593, iso88594, iso88595, iso88596, iso88597, iso88598, iso88598I,
   iso885910, iso885913, iso885914, iso885915, iso885916, koi8R, koi8U, macintosh, windows874,
   windows1250, windows1251, windows1252, windows1253, windows1254, windows1255, windows1256,
   windows1257, windows1258, xMacCyrillic]

end DatasetService.Text.Charset
