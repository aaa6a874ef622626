import TableTalk.Text.Ranges

/-!
# Composed form

Marks that follow a letter each have a class; marks of different classes do not touch and may change
places. A text is put into composed form by taking all characters apart, ordering the marks after
each letter by class and putting together what makes one character. `isComposed` holds of the texts
that this leaves alone. The tables are those of Unicode 14 for letters, digits and marks that keep
their form under compatibility normalisation; Korean syllables count as letters that are not taken
apart.
-/

namespace TableTalk.Text

def markClassesA : List (Nat × Nat × Nat) := [
  (0x300, 0x314, 0xE6), (0x315, 0x315, 0xE8), (0x316, 0x319, 0xDC), (0x31A, 0x31A, 0xE8),
  (0x31B, 0x31B, 0xD8), (0x31C, 0x320, 0xDC), (0x321, 0x322, 0xCA), (0x323, 0x326, 0xDC),
  (0x327, 0x328, 0xCA), (0x329, 0x333, 0xDC), (0x334, 0x338, 1), (0x339, 0x33C, 0xDC),
  (0x33D, 0x346, 0xE6), (0x347, 0x349, 0xDC), (0x34A, 0x34C, 0xE6), (0x34D, 0x34E, 0xDC),
  (0x350, 0x352, 0xE6), (0x353, 0x356, 0xDC), (0x357, 0x357, 0xE6), (0x358, 0x358, 0xE8),
  (0x359, 0x35A, 0xDC), (0x35B, 0x35B, 0xE6), (0x35C, 0x35C, 0xE9), (0x35D, 0x35E, 0xEA),
  (0x35F, 0x35F, 0xE9), (0x360, 0x361, 0xEA), (0x362, 0x362, 0xE9), (0x363, 0x36F, 0xE6),
  (0x483, 0x487, 0xE6), (0x591, 0x591, 0xDC), (0x592, 0x595, 0xE6), (0x596, 0x596, 0xDC),
  (0x597, 0x599, 0xE6), (0x59A, 0x59A, 0xDE), (0x59B, 0x59B, 0xDC), (0x59C, 0x5A1, 0xE6),
  (0x5A2, 0x5A7, 0xDC), (0x5A8, 0x5A9, 0xE6), (0x5AA, 0x5AA, 0xDC), (0x5AB, 0x5AC, 0xE6),
  (0x5AD, 0x5AD, 0xDE), (0x5AE, 0x5AE, 0xE4), (0x5AF, 0x5AF, 0xE6), (0x5B0, 0x5B0, 0xA),
  (0x5B1, 0x5B1, 0xB), (0x5B2, 0x5B2, 0xC), (0x5B3, 0x5B3, 0xD), (0x5B4, 0x5B4, 0xE),
  (0x5B5, 0x5B5, 0xF), (0x5B6, 0x5B6, 0x10), (0x5B7, 0x5B7, 0x11), (0x5B8, 0x5B8, 0x12),
  (0x5B9, 0x5BA, 0x13), (0x5BB, 0x5BB, 0x14), (0x5BC, 0x5BC, 0x15), (0x5BD, 0x5BD, 0x16),
  (0x5BF, 0x5BF, 0x17), (0x5C1, 0x5C1, 0x18), (0x5C2, 0x5C2, 0x19), (0x5C4, 0x5C4, 0xE6),
  (0x5C5, 0x5C5, 0xDC), (0x5C7, 0x5C7, 0x12), (0x610, 0x617, 0xE6), (0x618, 0x618, 0x1E),
  (0x619, 0x619, 0x1F), (0x61A, 0x61A, 0x20), (0x64B, 0x64B, 0x1B), (0x64C, 0x64C, 0x1C),
  (0x64D, 0x64D, 0x1D), (0x64E, 0x64E, 0x1E), (0x64F, 0x64F, 0x1F), (0x650, 0x650, 0x20),
  (0x651, 0x651, 0x21), (0x652, 0x652, 0x22), (0x653, 0x654, 0xE6), (0x655, 0x656, 0xDC),
  (0x657, 0x65B, 0xE6), (0x65C, 0x65C, 0xDC), (0x65D, 0x65E, 0xE6), (0x65F, 0x65F, 0xDC),
  (0x670, 0x670, 0x23), (0x6D6, 0x6E2, 0xE6), (0x6E3, 0x6E3, 0xDC), (0x6E4, 0x6E4, 0xE6),
  (0x6E7, 0x6E8, 0xE6), (0x6EA, 0x6EA, 0xDC), (0x6EB, 0x6EC, 0xE6), (0x6ED, 0x6ED, 0xDC),
  (0x711, 0x711, 0x24), (0x730, 0x730, 0xE6)]

def markClassesB : List (Nat × Nat × Nat) := [
  (0x731, 0x731, 0xDC), (0x732, 0x733, 0xE6), (0x734, 0x734, 0xDC), (0x735, 0x736, 0xE6),
  (0x737, 0x739, 0xDC), (0x73A, 0x73A, 0xE6), (0x73B, 0x73C, 0xDC), (0x73D, 0x73D, 0xE6),
  (0x73E, 0x73E, 0xDC), (0x73F, 0x741, 0xE6), (0x742, 0x742, 0xDC), (0x743, 0x743, 0xE6),
  (0x744, 0x744, 0xDC), (0x745, 0x745, 0xE6), (0x746, 0x746, 0xDC), (0x747, 0x747, 0xE6),
  (0x748, 0x748, 0xDC), (0x749, 0x74A, 0xE6), (0x7EB, 0x7F1, 0xE6), (0x7F2, 0x7F2, 0xDC),
  (0x7F3, 0x7F3, 0xE6), (0x7FD, 0x7FD, 0xDC), (0x816, 0x819, 0xE6), (0x81B, 0x823, 0xE6),
  (0x825, 0x827, 0xE6), (0x829, 0x82D, 0xE6), (0x859, 0x85B, 0xDC), (0x898, 0x898, 0xE6),
  (0x899, 0x89B, 0xDC), (0x89C, 0x89F, 0xE6), (0x8CA, 0x8CE, 0xE6), (0x8CF, 0x8D3, 0xDC),
  (0x8D4, 0x8E1, 0xE6), (0x8E3, 0x8E3, 0xDC), (0x8E4, 0x8E5, 0xE6), (0x8E6, 0x8E6, 0xDC),
  (0x8E7, 0x8E8, 0xE6), (0x8E9, 0x8E9, 0xDC), (0x8EA, 0x8EC, 0xE6), (0x8ED, 0x8EF, 0xDC),
  (0x8F0, 0x8F0, 0x1B), (0x8F1, 0x8F1, 0x1C), (0x8F2, 0x8F2, 0x1D), (0x8F3, 0x8F5, 0xE6),
  (0x8F6, 0x8F6, 0xDC), (0x8F7, 0x8F8, 0xE6), (0x8F9, 0x8FA, 0xDC), (0x8FB, 0x8FF, 0xE6),
  (0x93C, 0x93C, 7), (0x94D, 0x94D, 9), (0x951, 0x951, 0xE6), (0x952, 0x952, 0xDC),
  (0x953, 0x954, 0xE6), (0x9BC, 0x9BC, 7), (0x9CD, 0x9CD, 9), (0x9FE, 0x9FE, 0xE6),
  (0xA3C, 0xA3C, 7), (0xA4D, 0xA4D, 9), (0xABC, 0xABC, 7), (0xACD, 0xACD, 9), (0xB3C, 0xB3C, 7),
  (0xB4D, 0xB4D, 9), (0xBCD, 0xBCD, 9), (0xC3C, 0xC3C, 7), (0xC4D, 0xC4D, 9),
  (0xC55, 0xC55, 0x54), (0xC56, 0xC56, 0x5B), (0xCBC, 0xCBC, 7), (0xCCD, 0xCCD, 9),
  (0xD3B, 0xD3C, 9), (0xD4D, 0xD4D, 9), (0xDCA, 0xDCA, 9), (0xE38, 0xE39, 0x67),
  (0xE3A, 0xE3A, 9), (0xE48, 0xE4B, 0x6B), (0xEB8, 0xEB9, 0x76), (0xEBA, 0xEBA, 9),
  (0xEC8, 0xECB, 0x7A), (0xF18, 0xF19, 0xDC), (0xF35, 0xF37, 0xDC), (0xF39, 0xF39, 0xD8),
  (0xF71, 0xF71, 0x81), (0xF72, 0xF72, 0x82), (0xF74, 0xF74, 0x84), (0xF7A, 0xF7D, 0x82),
  (0xF80, 0xF80, 0x82), (0xF82, 0xF83, 0xE6), (0xF84, 0xF84, 9), (0xF86, 0xF87, 0xE6),
  (0xFC6, 0xFC6, 0xDC)]

def markClassesC : List (Nat × Nat × Nat) := [
  (0x1037, 0x1037, 7), (0x1039, 0x103A, 9), (0x108D, 0x108D, 0xDC), (0x135D, 0x135F, 0xE6),
  (0x1714, 0x1715, 9), (0x1734, 0x1734, 9), (0x17D2, 0x17D2, 9), (0x17DD, 0x17DD, 0xE6),
  (0x18A9, 0x18A9, 0xE4), (0x1939, 0x1939, 0xDE), (0x193A, 0x193A, 0xE6), (0x193B, 0x193B, 0xDC),
  (0x1A17, 0x1A17, 0xE6), (0x1A18, 0x1A18, 0xDC), (0x1A60, 0x1A60, 9), (0x1A75, 0x1A7C, 0xE6),
  (0x1A7F, 0x1A7F, 0xDC), (0x1AB0, 0x1AB4, 0xE6), (0x1AB5, 0x1ABA, 0xDC), (0x1ABB, 0x1ABC, 0xE6),
  (0x1ABD, 0x1AC0, 0xDC), (0x1AC1, 0x1AC2, 0xE6), (0x1AC3, 0x1AC4, 0xDC), (0x1AC5, 0x1AC9, 0xE6),
  (0x1ACA, 0x1ACA, 0xDC), (0x1ACB, 0x1ACE, 0xE6), (0x1B34, 0x1B34, 7), (0x1B44, 0x1B44, 9),
  (0x1B6B, 0x1B6B, 0xE6), (0x1B6C, 0x1B6C, 0xDC), (0x1B6D, 0x1B73, 0xE6), (0x1BAA, 0x1BAB, 9),
  (0x1BE6, 0x1BE6, 7), (0x1BF2, 0x1BF3, 9), (0x1C37, 0x1C37, 7), (0x1CD0, 0x1CD2, 0xE6),
  (0x1CD4, 0x1CD4, 1), (0x1CD5, 0x1CD9, 0xDC), (0x1CDA, 0x1CDB, 0xE6), (0x1CDC, 0x1CDF, 0xDC),
  (0x1CE0, 0x1CE0, 0xE6), (0x1CE2, 0x1CE8, 1), (0x1CED, 0x1CED, 0xDC), (0x1CF4, 0x1CF4, 0xE6),
  (0x1CF8, 0x1CF9, 0xE6), (0x1DC0, 0x1DC1, 0xE6), (0x1DC2, 0x1DC2, 0xDC), (0x1DC3, 0x1DC9, 0xE6),
  (0x1DCA, 0x1DCA, 0xDC), (0x1DCB, 0x1DCC, 0xE6), (0x1DCD, 0x1DCD, 0xEA), (0x1DCE, 0x1DCE, 0xD6),
  (0x1DCF, 0x1DCF, 0xDC), (0x1DD0, 0x1DD0, 0xCA), (0x1DD1, 0x1DF5, 0xE6), (0x1DF6, 0x1DF6, 0xE8),
  (0x1DF7, 0x1DF8, 0xE4), (0x1DF9, 0x1DF9, 0xDC), (0x1DFA, 0x1DFA, 0xDA), (0x1DFB, 0x1DFB, 0xE6),
  (0x1DFC, 0x1DFC, 0xE9), (0x1DFD, 0x1DFD, 0xDC), (0x1DFE, 0x1DFE, 0xE6), (0x1DFF, 0x1DFF, 0xDC),
  (0x2CEF, 0x2CF1, 0xE6), (0x2D7F, 0x2D7F, 9), (0x2DE0, 0x2DFF, 0xE6), (0x302A, 0x302A, 0xDA),
  (0x302B, 0x302B, 0xE4), (0x302C, 0x302C, 0xE8), (0x302D, 0x302D, 0xDE), (0x3099, 0x309A, 8),
  (0xA66F, 0xA67D, 0xE6), (0xA69E, 0xA69F, 0xE6), (0xA6F0, 0xA6F1, 0xE6), (0xA806, 0xA806, 9),
  (0xA82C, 0xA82C, 9), (0xA8C4, 0xA8C4, 9), (0xA8E0, 0xA8F1, 0xE6), (0xA92B, 0xA92D, 0xDC),
  (0xA953, 0xA953, 9), (0xA9B3, 0xA9B3, 7), (0xA9C0, 0xA9C0, 9), (0xAAB0, 0xAAB0, 0xE6),
  (0xAAB2, 0xAAB3, 0xE6), (0xAAB4, 0xAAB4, 0xDC), (0xAAB7, 0xAAB8, 0xE6), (0xAABE, 0xAABF, 0xE6),
  (0xAAC1, 0xAAC1, 0xE6), (0xAAF6, 0xAAF6, 9)]

def markClassesD : List (Nat × Nat × Nat) := [
  (0xABED, 0xABED, 9), (0xFB1E, 0xFB1E, 0x1A), (0xFE20, 0xFE26, 0xE6), (0xFE27, 0xFE2D, 0xDC),
  (0xFE2E, 0xFE2F, 0xE6), (0x101FD, 0x101FD, 0xDC), (0x102E0, 0x102E0, 0xDC),
  (0x10376, 0x1037A, 0xE6), (0x10A0D, 0x10A0D, 0xDC), (0x10A0F, 0x10A0F, 0xE6),
  (0x10A38, 0x10A38, 0xE6), (0x10A39, 0x10A39, 1), (0x10A3A, 0x10A3A, 0xDC),
  (0x10A3F, 0x10A3F, 9), (0x10AE5, 0x10AE5, 0xE6), (0x10AE6, 0x10AE6, 0xDC),
  (0x10D24, 0x10D27, 0xE6), (0x10EAB, 0x10EAC, 0xE6), (0x10F46, 0x10F47, 0xDC),
  (0x10F48, 0x10F4A, 0xE6), (0x10F4B, 0x10F4B, 0xDC), (0x10F4C, 0x10F4C, 0xE6),
  (0x10F4D, 0x10F50, 0xDC), (0x10F82, 0x10F82, 0xE6), (0x10F83, 0x10F83, 0xDC),
  (0x10F84, 0x10F84, 0xE6), (0x10F85, 0x10F85, 0xDC), (0x11046, 0x11046, 9),
  (0x11070, 0x11070, 9), (0x1107F, 0x1107F, 9), (0x110B9, 0x110B9, 9), (0x110BA, 0x110BA, 7),
  (0x11100, 0x11102, 0xE6), (0x11133, 0x11134, 9), (0x11173, 0x11173, 7), (0x111C0, 0x111C0, 9),
  (0x111CA, 0x111CA, 7), (0x11235, 0x11235, 9), (0x11236, 0x11236, 7), (0x112E9, 0x112E9, 7),
  (0x112EA, 0x112EA, 9), (0x1133B, 0x1133C, 7), (0x1134D, 0x1134D, 9), (0x11366, 0x11374, 0xE6),
  (0x11442, 0x11442, 9), (0x11446, 0x11446, 7), (0x1145E, 0x1145E, 0xE6), (0x114C2, 0x114C2, 9),
  (0x114C3, 0x114C3, 7), (0x115BF, 0x115BF, 9), (0x115C0, 0x115C0, 7), (0x1163F, 0x1163F, 9),
  (0x116B6, 0x116B6, 9), (0x116B7, 0x116B7, 7), (0x1172B, 0x1172B, 9), (0x11839, 0x11839, 9),
  (0x1183A, 0x1183A, 7), (0x1193D, 0x1193E, 9), (0x11943, 0x11943, 7), (0x119E0, 0x119E0, 9),
  (0x11A34, 0x11A34, 9), (0x11A47, 0x11A47, 9), (0x11A99, 0x11A99, 9), (0x11C3F, 0x11C3F, 9),
  (0x11D42, 0x11D42, 7), (0x11D44, 0x11D45, 9), (0x11D97, 0x11D97, 9), (0x16AF0, 0x16AF4, 1),
  (0x16B30, 0x16B36, 0xE6), (0x16FF0, 0x16FF1, 6), (0x1BC9E, 0x1BC9E, 1),
  (0x1E000, 0x1E02A, 0xE6), (0x1E130, 0x1E136, 0xE6), (0x1E2AE, 0x1E2AE, 0xE6),
  (0x1E2EC, 0x1E2EF, 0xE6), (0x1E8D0, 0x1E8D6, 0xDC), (0x1E944, 0x1E949, 0xE6),
  (0x1E94A, 0x1E94A, 7)]

/-- First and last character of a row of marks, and their class. -/
def markClasses : List (Nat × Nat × Nat) :=
  markClassesA ++ markClassesB ++ markClassesC ++ markClassesD

/-- Characters made of two: the second one, the first ones and what each of them makes with it. -/
def compositions : List (Char × String × String) := [
  ('\u0300', "aeinouwyâêôüăēōơưαεηιουω", "àèìǹòùẁỳầềồǜằḕṑờừὰὲὴὶὸὺὼ"),
  ('\u0300', "ϊϋеиἀἁἐἑἠἡἰἱὀὁὐὑὠὡ", "ῒῢѐѝἂἃἒἓἢἣἲἳὂὃὒὓὢὣ"),
  ('\u0301', "acegiklmnoprsuwyzâåæçêïô", "áćéǵíḱĺḿńóṕŕśúẃýźấǻǽḉếḯố"),
  ('\u0301', "õøüăēōũơưαεηιουωϊϋгкἀἁἐἑ", "ṍǿǘắḗṓṹớứάέήίόύώΐΰѓќἄἅἔἕ"),
  ('\u0301', "ἠἡἰἱὀὁὐὑὠὡ", "ἤἥἴἵὄὅὔὕὤὥ"),
  ('\u0302', "aceghijosuwyzạẹọ", "âĉêĝĥîĵôŝûŵŷẑậệộ"),
  ('\u0303', "aeinouvyâêôăơư", "ãẽĩñõũṽỹẫễỗẵỡữ"),
  ('\u0304', "aegiouyäæõöüǫȧȯαιυиуḷṛ", "āēḡīōūȳǟǣȭȫǖǭǡȱᾱῑῡӣӯḹṝ"),
  ('\u0306', "aegiouȩαιυаежиуạ", "ăĕğĭŏŭḝᾰῐῠӑӗӂйўặ"),
  ('\u0307', "abcdefghmnoprstwxyzśšṣ", "ȧḃċḋėḟġḣṁṅȯṗṙṡṫẇẋẏżṥṧṩ"),
  ('\u0308', "aehiotuwxyõūιυаежзиоучыэ", "äëḧïöẗüẅẍÿṏṻϊϋӓёӝӟӥӧӱӵӹӭ"),
  ('\u0308', "іәө", "їӛӫ"),
  ('\u0309', "aeiouyâêôăơư", "ảẻỉỏủỷẩểổẳởử"),
  ('\u030a', "auwy", "åůẘẙ"),
  ('\u030b', "ouу", "őűӳ"),
  ('\u030c', "acdeghijklnorstuzüʒ", "ǎčďěǧȟǐǰǩľňǒřšťǔžǚǯ"),
  ('\u030f', "aeioruѵ", "ȁȅȉȍȑȕѷ"),
  ('\u0311', "aeioru", "ȃȇȋȏȓȗ"),
  ('\u0313', "αεηιορυω", "ἀἐἠἰὀῤὐὠ"),
  ('\u0314', "αεηιορυω", "ἁἑἡἱὁῥὑὡ"),
  ('\u031b', "ou", "ơư"),
  ('\u0323', "abdehiklmnorstuvwyzơư", "ạḅḍẹḥịḳḷṃṇọṛṣṭụṿẉỵẓợự"),
  ('\u0324', "u", "ṳ"),
  ('\u0325', "a", "ḁ"),
  ('\u0326', "st", "șț"),
  ('\u0327', "cdeghklnrst", "çḑȩģḩķļņŗşţ"),
  ('\u0328', "aeiou", "ąęįǫų"),
  ('\u032d', "delntu", "ḓḙḽṋṱṷ"),
  ('\u032e', "h", "ḫ"),
  ('\u0330', "eiu", "ḛḭṵ"),
  ('\u0331', "bdhklnrtz", "ḇḏẖḵḻṉṟṯẕ"),
  ('\u0342', "αηιυωϊϋἀἁἠἡἰἱὐὑὠὡ", "ᾶῆῖῦῶῗῧἆἇἦἧἶἷὖὗὦὧ"),
  ('\u0653', "\u0627", "\u0622"),
  ('\u0654', "\u0627\u0648\u064a\u06c1\u06d2\u06d5", "\u0623\u0624\u0626\u06c2\u06d3\u06c0"),
  ('\u0655', "\u0627", "\u0625"),
  ('\u093c', "नरळ", "ऩऱऴ"),
  ('\u09be', "\u09c7", "\u09cb"),
  ('\u09d7', "\u09c7", "\u09cc"),
  ('\u0b3e', "\u0b47", "\u0b4b"),
  ('\u0b56', "\u0b47", "\u0b48"),
  ('\u0b57', "\u0b47", "\u0b4c"),
  ('\u0bbe', "\u0bc6\u0bc7", "\u0bca\u0bcb"),
  ('\u0bd7', "ஒ\u0bc6", "ஔ\u0bcc"),
  ('\u0c56', "\u0c46", "\u0c48"),
  ('\u0cc2', "\u0cc6", "\u0cca"),
  ('\u0cd5', "\u0cbf\u0cc6\u0cca", "\u0cc0\u0cc7\u0ccb"),
  ('\u0cd6', "\u0cc6", "\u0cc8"),
  ('\u0d3e', "\u0d46\u0d47", "\u0d4a\u0d4b"),
  ('\u0d57', "\u0d46", "\u0d4c"),
  ('\u0dca', "\u0dd9\u0ddc", "\u0dda\u0ddd"),
  ('\u0dcf', "\u0dd9", "\u0ddc"),
  ('\u0ddf', "\u0dd9", "\u0dde"),
  ('\u102e', "ဥ", "ဦ"),
  ('\u1b35', "ᬅᬇᬉᬋᬍᬑ\u1b3a\u1b3c\u1b3e\u1b3f\u1b42", "ᬆᬈᬊᬌᬎᬒ\u1b3b\u1b3d\u1b40\u1b41\u1b43"),
  ('\u3099', "うかきくけこさしすせそたちつてとはひふへほゝウカ", "ゔがぎぐげござじずぜぞだぢづでどばびぶべぼゞヴガ"),
  ('\u3099', "キクケコサシスセソタチツテトハヒフヘホワヰヱヲヽ", "ギグゲゴザジズゼゾダヂヅデドバビブベボヷヸヹヺヾ"),
  ('\u309a', "はひふへほハヒフヘホ", "ぱぴぷぺぽパピプペポ"),
  ('𑂺', "𑂙𑂛𑂥", "𑂚𑂜𑂫"),
  ('𑄧', "𑄱𑄲", "𑄮𑄯"),
  ('𑌾', "𑍇", "𑍋"),
  ('𑍗', "𑍇", "𑍌"),
  ('𑒰', "𑒹", "𑒼"),
  ('𑒺', "𑒹", "𑒻"),
  ('𑒽', "𑒹", "𑒾"),
  ('𑖯', "𑖸𑖹", "𑖺𑖻"),
  ('𑤰', "𑤵", "𑤸")]

/-- The class of a mark, zero for all else. -/
def markClass (c : Char) : Nat :=
  ((markClasses.find? fun (first, last, _) => first ≤ c.toNat && c.toNat ≤ last).map (·.2.2)).getD 0

/-- The pairs that make one character: what they make, the first and the second. -/
def compositionPairs : List (Char × Char × Char) :=
  compositions.flatMap fun (second, firsts, wholes) =>
    (wholes.toList.zip firsts.toList).map fun (whole, first) => (whole, first, second)

def compose? (first second : Char) : Option Char :=
  (compositionPairs.find? fun (_, a, b) => a = first && b = second).map (·.1)

/-- The parts of a character; `fuel` bounds how often it is taken apart. -/
def parts : (fuel : Nat) → Char → List Char
  | 0, c => [c]
  | fuel + 1, c =>
    match compositionPairs.lookup c with
    | some (first, second) => parts fuel first ++ [second]
    | none => [c]

/-- A mark put behind those of its class and of lower ones. -/
def insertMark (c : Char) : List Char → List Char
  | [] => [c]
  | d :: rest => if markClass c < markClass d then c :: d :: rest else d :: insertMark c rest

/-- The text with marks in the order of their classes; `marks` stand before it. -/
def orderMarks (marks : List Char) : List Char → List Char
  | [] => marks
  | c :: rest =>
    if markClass c = 0 then marks ++ c :: orderMarks [] rest else orderMarks (insertMark c marks) rest

/-- Puts together what makes one character with `base`. The marks that stand between, last first,
keep off those whose class is not higher than theirs. -/
def composeAfter (base : Char) (between : List Char) : List Char → List Char
  | [] => base :: between.reverse
  | c :: rest =>
    let free := between.head?.all fun d => markClass d < markClass c
    match if free then compose? base c else none with
    | some whole => composeAfter whole between rest
    | none =>
      if markClass c = 0 then base :: between.reverse ++ composeAfter c [] rest
      else composeAfter base (c :: between) rest

def composed (cs : List Char) : List Char :=
  match orderMarks [] (cs.flatMap (parts 3)) with
  | [] => []
  | c :: rest => composeAfter c [] rest

def isComposed (cs : List Char) : Bool := composed cs == cs

end TableTalk.Text
