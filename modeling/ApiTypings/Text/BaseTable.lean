/-!
# Base characters

Compatibility decompositions of the Unicode standard with the combining marks
left out: what remains of `é` is `e`, what remains of `ﬁ` is `fi`. Hangul
syllables are not listed, because they decompose by arithmetic.
-/

namespace ApiTypings
namespace Text

/-- Characters with several base characters or none: the first code point of a run
and the bases of its members in order. -/
def longBases : List (Nat × List String) := [
  (0x00BC, ["1⁄4", "1⁄2", "3⁄4"]), (0x0132, ["IJ", "ij"]), (0x013F, ["L·", "l·"]),
  (0x0149, ["ʼn"]), (0x01C4, ["DZ", "Dz", "dz", "LJ", "Lj", "lj", "NJ", "Nj"]),
  (0x01CC, ["nj"]), (0x01F1, ["DZ", "Dz", "dz"]), (0x0587, ["եւ"]),
  (0x0675, ["اٴ", "وٴ", "ۇٴ", "يٴ"]), (0x09CB, ["\u09c7\u09be", "\u09c7\u09d7"]),
  (0x0B48, ["\u0b47\u0b56"]), (0x0B4B, ["\u0b47\u0b3e", "\u0b47\u0b57"]),
  (0x0B94, ["ஒ\u0bd7"]), (0x0BCA, ["\u0bc6\u0bbe", "\u0bc7\u0bbe", "\u0bc6\u0bd7"]),
  (0x0CC0, ["\u0cbf\u0cd5"]), (0x0CC7, ["\u0cc6\u0cd5", "\u0cc6\u0cd6"]),
  (0x0CCA, ["\u0cc6\u0cc2", "\u0cc6\u0cc2\u0cd5"]),
  (0x0D4A, ["\u0d46\u0d3e", "\u0d47\u0d3e", "\u0d46\u0d57"]),
  (0x0DDC, ["\u0dd9\u0dcf", "\u0dd9\u0dcf", "\u0dd9\u0ddf"]), (0x0E33, ["\u0e4dา"]),
  (0x0EB3, ["\u0ecdາ"]), (0x0EDC, ["ຫນ", "ຫມ"]), (0x0F43, ["ག\u0fb7"]),
  (0x0F4D, ["ཌ\u0fb7"]), (0x0F52, ["ད\u0fb7"]), (0x0F57, ["བ\u0fb7"]),
  (0x0F5C, ["ཛ\u0fb7"]), (0x0F69, ["ཀ\u0fb5"]), (0x0F93, ["\u0f92\u0fb7"]),
  (0x0F9D, ["\u0f9c\u0fb7"]), (0x0FA2, ["\u0fa1\u0fb7"]), (0x0FA7, ["\u0fa6\u0fb7"]),
  (0x0FAC, ["\u0fab\u0fb7"]), (0x0FB9, ["\u0f90\u0fb5"]), (0x1026, ["ဥ\u102e"]),
  (0x1B06, ["ᬅ\u1b35"]), (0x1B08, ["ᬇ\u1b35"]), (0x1B0A, ["ᬉ\u1b35"]),
  (0x1B0C, ["ᬋ\u1b35"]), (0x1B0E, ["ᬍ\u1b35"]), (0x1B12, ["ᬑ\u1b35"]),
  (0x1B3B, ["\u1b3a\u1b35"]), (0x1B3D, ["\u1b3c\u1b35"]),
  (0x1B40, ["\u1b3e\u1b35", "\u1b3f\u1b35"]), (0x1B43, ["\u1b42\u1b35"]), (0x1E9A, ["aʾ"]),
  (0x2025, ["..", "..."]), (0x2033, ["′′", "′′′"]), (0x2036, ["‵‵", "‵‵‵"]),
  (0x203C, ["!!"]), (0x2047, ["??", "?!", "!?"]), (0x2057, ["′′′′"]), (0x20A8, ["Rs"]),
  (0x2100, ["a/c", "a/s"]), (0x2103, ["°C"]), (0x2105, ["c/o", "c/u"]), (0x2109, ["°F"]),
  (0x2116, ["No"]), (0x2120, ["SM", "TEL", "TM"]), (0x213B, ["FAX"]),
  (0x2150, ["1⁄7", "1⁄9", "1⁄10", "1⁄3", "2⁄3", "1⁄5", "2⁄5", "3⁄5"]),
  (0x2158, ["4⁄5", "1⁄6", "5⁄6", "1⁄8", "3⁄8", "5⁄8", "7⁄8", "1⁄"]),
  (0x2161, ["II", "III", "IV"]), (0x2165, ["VI", "VII", "VIII", "IX"]),
  (0x216A, ["XI", "XII"]), (0x2171, ["ii", "iii", "iv"]),
  (0x2175, ["vi", "vii", "viii", "ix"]), (0x217A, ["xi", "xii"]), (0x2189, ["0⁄3"]),
  (0x222C, ["∫∫", "∫∫∫"]), (0x222F, ["∮∮", "∮∮∮"]),
  (0x2469, ["10", "11", "12", "13", "14", "15", "16", "17"]),
  (0x2471, ["18", "19", "20", "(1)", "(2)", "(3)", "(4)", "(5)"]),
  (0x2479, ["(6)", "(7)", "(8)", "(9)", "(10)", "(11)", "(12)", "(13)"]),
  (0x2481, ["(14)", "(15)", "(16)", "(17)", "(18)", "(19)", "(20)", "1."]),
  (0x2489, ["2.", "3.", "4.", "5.", "6.", "7.", "8.", "9."]),
  (0x2491, ["10.", "11.", "12.", "13.", "14.", "15.", "16.", "17."]),
  (0x2499, ["18.", "19.", "20.", "(a)", "(b)", "(c)", "(d)", "(e)"]),
  (0x24A1, ["(f)", "(g)", "(h)", "(i)", "(j)", "(k)", "(l)", "(m)"]),
  (0x24A9, ["(n)", "(o)", "(p)", "(q)", "(r)", "(s)", "(t)", "(u)"]),
  (0x24B1, ["(v)", "(w)", "(x)", "(y)", "(z)"]), (0x2A0C, ["∫∫∫∫"]),
  (0x2A74, ["::=", "==", "==="]), (0x309F, ["より"]), (0x30FF, ["コト"]),
  (0x3200, ["(ᄀ)", "(ᄂ)", "(ᄃ)", "(ᄅ)", "(ᄆ)", "(ᄇ)", "(ᄉ)", "(ᄋ)"]),
  (0x3208, ["(ᄌ)", "(ᄎ)", "(ᄏ)", "(ᄐ)", "(ᄑ)", "(ᄒ)", "(가)", "(나)"]),
  (0x3210, ["(다)", "(라)", "(마)", "(바)", "(사)", "(아)", "(자)", "(차)"]),
  (0x3218, ["(카)", "(타)", "(파)", "(하)", "(주)", "(오전)", "(오후)"]),
  (0x3220, ["(一)", "(二)", "(三)", "(四)", "(五)", "(六)", "(七)", "(八)"]),
  (0x3228, ["(九)", "(十)", "(月)", "(火)", "(水)", "(木)", "(金)", "(土)"]),
  (0x3230, ["(日)", "(株)", "(有)", "(社)", "(名)", "(特)", "(財)", "(祝)"]),
  (0x3238, ["(労)", "(代)", "(呼)", "(学)", "(監)", "(企)", "(資)", "(協)"]),
  (0x3240, ["(祭)", "(休)", "(自)", "(至)"]),
  (0x3250, ["PTE", "21", "22", "23", "24", "25", "26", "27"]),
  (0x3258, ["28", "29", "30", "31", "32", "33", "34", "35"]),
  (0x326E, ["가", "나", "다", "라", "마", "바", "사", "아"]),
  (0x3276, ["자", "차", "카", "타", "파", "하", "참고", "주의"]), (0x327E, ["우"]),
  (0x32B1, ["36", "37", "38", "39", "40", "41", "42", "43"]),
  (0x32B9, ["44", "45", "46", "47", "48", "49", "50", "1月"]),
  (0x32C1, ["2月", "3月", "4月", "5月", "6月", "7月", "8月", "9月"]),
  (0x32C9, ["10月", "11月", "12月", "Hg", "erg", "eV", "LTD"]),
  (0x32FF, ["令和", "アハート", "アルファ", "アンヘア", "アール", "イニンク", "インチ", "ウォン"]),
  (0x3307, ["エスクート", "エーカー", "オンス", "オーム", "カイリ", "カラット", "カロリー", "カロン"]),
  (0x330F, ["カンマ", "キカ", "キニー", "キュリー", "キルター", "キロ", "キロクラム", "キロメートル"]),
  (0x3317, ["キロワット", "クラム", "クラムトン", "クルセイロ", "クローネ", "ケース", "コルナ", "コーホ"]),
  (0x331F, ["サイクル", "サンチーム", "シリンク", "センチ", "セント", "タース", "テシ", "トル"]),
  (0x3327, ["トン", "ナノ", "ノット", "ハイツ", "ハーセント", "ハーツ", "ハーレル", "ヒアストル"]),
  (0x332F, ["ヒクル", "ヒコ", "ヒル", "ファラット", "フィート", "フッシェル", "フラン", "ヘクタール"]),
  (0x3337, ["ヘソ", "ヘニヒ", "ヘルツ", "ヘンス", "ヘーシ", "ヘータ", "ホイント", "ホルト"]),
  (0x333F, ["ホン", "ホント", "ホール", "ホーン", "マイクロ", "マイル", "マッハ", "マルク"]),
  (0x3347, ["マンション", "ミクロン", "ミリ", "ミリハール", "メカ", "メカトン", "メートル", "ヤート"]),
  (0x334F, ["ヤール", "ユアン", "リットル", "リラ", "ルヒー", "ルーフル", "レム", "レントケン"]),
  (0x3357, ["ワット", "0点", "1点", "2点", "3点", "4点", "5点", "6点"]),
  (0x335F, ["7点", "8点", "9点", "10点", "11点", "12点", "13点", "14点"]),
  (0x3367, ["15点", "16点", "17点", "18点", "19点", "20点", "21点", "22点"]),
  (0x336F, ["23点", "24点", "hPa", "da", "AU", "bar", "oV", "pc"]),
  (0x3377, ["dm", "dm2", "dm3", "IU", "平成", "昭和", "大正", "明治"]),
  (0x337F, ["株式会社", "pA", "nA", "μA", "mA", "kA", "KB", "MB"]),
  (0x3387, ["GB", "cal", "kcal", "pF", "nF", "μF", "μg", "mg"]),
  (0x338F, ["kg", "Hz", "kHz", "MHz", "GHz", "THz", "μl", "ml"]),
  (0x3397, ["dl", "kl", "fm", "nm", "μm", "mm", "cm", "km"]),
  (0x339F, ["mm2", "cm2", "m2", "km2", "mm3", "cm3", "m3", "km3"]),
  (0x33A7, ["m∕s", "m∕s2", "Pa", "kPa", "MPa", "GPa", "rad", "rad∕s"]),
  (0x33AF, ["rad∕s2", "ps", "ns", "μs", "ms", "pV", "nV", "μV"]),
  (0x33B7, ["mV", "kV", "MV", "pW", "nW", "μW", "mW", "kW"]),
  (0x33BF, ["MW", "kΩ", "MΩ", "a.m.", "Bq", "cc", "cd", "C∕kg"]),
  (0x33C7, ["Co.", "dB", "Gy", "ha", "HP", "in", "KK", "KM"]),
  (0x33CF, ["kt", "lm", "ln", "log", "lx", "mb", "mil", "mol"]),
  (0x33D7, ["PH", "p.m.", "PPM", "PR", "sr", "Sv", "Wb", "V∕m"]),
  (0x33DF, ["A∕m", "1日", "2日", "3日", "4日", "5日", "6日", "7日"]),
  (0x33E7, ["8日", "9日", "10日", "11日", "12日", "13日", "14日", "15日"]),
  (0x33EF, ["16日", "17日", "18日", "19日", "20日", "21日", "22日", "23日"]),
  (0x33F7, ["24日", "25日", "26日", "27日", "28日", "29日", "30日", "31日"]), (0x33FF, ["gal"]),
  (0xFB00, ["ff", "fi", "fl", "ffi", "ffl", "st", "st"]),
  (0xFB13, ["մն", "մե", "մի", "վն", "մխ"]), (0xFB4F, ["אל"]), (0xFBDD, ["ۇٴ"]),
  (0xFBEA, ["يا", "يا", "يە", "يە", "يو", "يو", "يۇ", "يۇ"]),
  (0xFBF2, ["يۆ", "يۆ", "يۈ", "يۈ", "يې", "يې", "يې", "يى"]), (0xFBFA, ["يى", "يى"]),
  (0xFC00, ["يج", "يح", "يم", "يى", "يي", "بج", "بح", "بخ"]),
  (0xFC08, ["بم", "بى", "بي", "تج", "تح", "تخ", "تم", "تى"]),
  (0xFC10, ["تي", "ثج", "ثم", "ثى", "ثي", "جح", "جم", "حج"]),
  (0xFC18, ["حم", "خج", "خح", "خم", "سج", "سح", "سخ", "سم"]),
  (0xFC20, ["صح", "صم", "ضج", "ضح", "ضخ", "ضم", "طح", "طم"]),
  (0xFC28, ["ظم", "عج", "عم", "غج", "غم", "فج", "فح", "فخ"]),
  (0xFC30, ["فم", "فى", "في", "قح", "قم", "قى", "قي", "كا"]),
  (0xFC38, ["كج", "كح", "كخ", "كل", "كم", "كى", "كي", "لج"]),
  (0xFC40, ["لح", "لخ", "لم", "لى", "لي", "مج", "مح", "مخ"]),
  (0xFC48, ["مم", "مى", "مي", "نج", "نح", "نخ", "نم", "نى"]),
  (0xFC50, ["ني", "هج", "هم", "هى", "هي", "يج", "يح", "يخ"]), (0xFC58, ["يم", "يى", "يي"]),
  (0xFC64, ["ير", "يز", "يم", "ين", "يى", "يي", "بر", "بز"]),
  (0xFC6C, ["بم", "بن", "بى", "بي", "تر", "تز", "تم", "تن"]),
  (0xFC74, ["تى", "تي", "ثر", "ثز", "ثم", "ثن", "ثى", "ثي"]),
  (0xFC7C, ["فى", "في", "قى", "قي", "كا", "كل", "كم", "كى"]),
  (0xFC84, ["كي", "لم", "لى", "لي", "ما", "مم", "نر", "نز"]),
  (0xFC8C, ["نم", "نن", "نى", "ني"]),
  (0xFC91, ["ير", "يز", "يم", "ين", "يى", "يي", "يج", "يح"]),
  (0xFC99, ["يخ", "يم", "يه", "بج", "بح", "بخ", "بم", "به"]),
  (0xFCA1, ["تج", "تح", "تخ", "تم", "ته", "ثم", "جح", "جم"]),
  (0xFCA9, ["حج", "حم", "خج", "خم", "سج", "سح", "سخ", "سم"]),
  (0xFCB1, ["صح", "صخ", "صم", "ضج", "ضح", "ضخ", "ضم", "طح"]),
  (0xFCB9, ["ظم", "عج", "عم", "غج", "غم", "فج", "فح", "فخ"]),
  (0xFCC1, ["فم", "قح", "قم", "كج", "كح", "كخ", "كل", "كم"]),
  (0xFCC9, ["لج", "لح", "لخ", "لم", "له", "مج", "مح", "مخ"]),
  (0xFCD1, ["مم", "نج", "نح", "نخ", "نم", "نه", "هج", "هم"]),
  (0xFCDA, ["يج", "يح", "يخ", "يم", "يه", "يم", "يه", "بم"]),
  (0xFCE2, ["به", "تم", "ته", "ثم", "ثه", "سم", "سه", "شم"]),
  (0xFCEA, ["شه", "كل", "كم", "لم", "نم", "نه", "يم", "يه"]),
  (0xFCF5, ["طى", "طي", "عى", "عي", "غى", "غي", "سى", "سي"]),
  (0xFCFD, ["شى", "شي", "حى", "حي", "جى", "جي", "خى", "خي"]),
  (0xFD05, ["صى", "صي", "ضى", "ضي", "شج", "شح", "شخ", "شم"]),
  (0xFD0D, ["شر", "سر", "صر", "ضر", "طى", "طي", "عى", "عي"]),
  (0xFD15, ["غى", "غي", "سى", "سي", "شى", "شي", "حى", "حي"]),
  (0xFD1D, ["جى", "جي", "خى", "خي", "صى", "صي", "ضى", "ضي"]),
  (0xFD25, ["شج", "شح", "شخ", "شم", "شر", "سر", "صر", "ضر"]),
  (0xFD2D, ["شج", "شح", "شخ", "شم", "سه", "شه", "طم", "سج"]),
  (0xFD35, ["سح", "سخ", "شج", "شح", "شخ", "طم", "ظم"]),
  (0xFD50, ["تجم", "تحج", "تحج", "تحم", "تخم", "تمج", "تمح", "تمخ"]),
  (0xFD58, ["جمح", "جمح", "حمي", "حمى", "سحج", "سجح", "سجى", "سمح"]),
  (0xFD60, ["سمح", "سمج", "سمم", "سمم", "صحح", "صحح", "صمم", "شحم"]),
  (0xFD68, ["شحم", "شجي", "شمخ", "شمخ", "شمم", "شمم", "ضحى", "ضخم"]),
  (0xFD70, ["ضخم", "طمح", "طمح", "طمم", "طمي", "عجم", "عمم", "عمم"]),
  (0xFD78, ["عمى", "غمم", "غمي", "غمى", "فخم", "فخم", "قمح", "قمم"]),
  (0xFD80, ["لحم", "لحي", "لحى", "لجج", "لجج", "لخم", "لخم", "لمح"]),
  (0xFD88, ["لمح", "محج", "محم", "محي", "مجح", "مجم", "مخج", "مخم"]),
  (0xFD92, ["مجخ", "همج", "همم", "نحم", "نحى", "نجم", "نجم", "نجى"]),
  (0xFD9A, ["نمي", "نمى", "يمم", "يمم", "بخي", "تجي", "تجى", "تخي"]),
  (0xFDA2, ["تخى", "تمي", "تمى", "جمي", "جحى", "جمى", "سخى", "صحي"]),
  (0xFDAA, ["شحي", "ضحي", "لجي", "لمي", "يحي", "يجي", "يمي", "ممي"]),
  (0xFDB2, ["قمي", "نحي", "قمح", "لحم", "عمي", "كمي", "نجح", "مخي"]),
  (0xFDBA, ["لجم", "كمم", "لجم", "نجح", "جحي", "حجي", "مجي", "فمي"]),
  (0xFDC2, ["بحي", "كمم", "عجم", "صمم", "سخي", "نجي"]),
  (0xFDF0, ["صلے", "قلے", "الله", "اكبر", "محمد", "صلعم", "رسول", "عليه"]),
  (0xFDF8, ["وسلم", "صلى", "صلى الله عليه وسلم", "جل جلاله", "ریال"]), (0xFE19, ["..."]),
  (0xFE30, [".."]), (0xFEF5, ["لا", "لا", "لا", "لا", "لا", "لا", "لا", "لا"]),
  (0x1112E, ["𑄮", "𑄯"]), (0x1134B, ["𑍋", "𑍌"]), (0x114BB, ["𑒻", "𑒼"]),
  (0x114BE, ["𑒾"]), (0x115BA, ["𑖺", "𑖻"]), (0x11938, ["𑤸"]),
  (0x1F100, ["0.", "0,", "1,", "2,", "3,", "4,", "5,", "6,"]),
  (0x1F108, ["7,", "8,", "9,"]),
  (0x1F110, ["(A)", "(B)", "(C)", "(D)", "(E)", "(F)", "(G)", "(H)"]),
  (0x1F118, ["(I)", "(J)", "(K)", "(L)", "(M)", "(N)", "(O)", "(P)"]),
  (0x1F120, ["(Q)", "(R)", "(S)", "(T)", "(U)", "(V)", "(W)", "(X)"]),
  (0x1F128, ["(Y)", "(Z)", "〔S〕"]), (0x1F12D, ["CD", "WZ"]),
  (0x1F14A, ["HV", "MV", "SD", "SS", "PPV", "WC"]), (0x1F16A, ["MC", "MD", "MR"]),
  (0x1F190, ["DJ"]), (0x1F200, ["ほか", "ココ"]),
  (0x1F240, ["〔本〕", "〔三〕", "〔二〕", "〔安〕", "〔点〕", "〔打〕", "〔盗〕", "〔勝〕"]), (0x1F248, ["〔敗〕"]),
  (0x0F73, [""]), (0x0F75, [""]), (0x0F81, [""]), (0xFF9E, ["", ""])]

/-- Characters with one base character: the first code point of a run and the
bases of its members in order. -/
def shortBases : List (Nat × String) := [
  (0x00A0, " "), (0x00A8, " ©a"), (0x00AF, " °±23 μ¶· 1o"),
  (0x00C0, "AAAAAAÆCEEEEIIIIÐNOOOOO×ØUUUUYÞßaaaaaaæc"),
  (0x00E8, "eeeeiiiiðnooooo÷øuuuuyþyAaAaAaCcCcCcCcDd"),
  (0x0110, "ĐđEeEeEeEeEeGgGgGgGgHhĦħIiIiIiIiI"), (0x0134, "JjKkĸLlLlLl"),
  (0x0143, "NnNnNn"), (0x014C, "OoOoOoŒœRrRrRrSsSsSsSsTtTtŦŧUuUuUuUuUuUu"),
  (0x0174, "WwYyYZzZzZzs"), (0x01A0, "Oo"), (0x01AF, "Uu"),
  (0x01CD, "AaIiOoUuUuUuUuUuǝAaAaÆæǤǥGgKkOoOoƷʒj"),
  (0x01F4, "GgǶǷNnAaÆæØøAaAaEeEeIiIiOoOoRrRrUuUuSsTt"), (0x021C, "ȜȝHh"),
  (0x0226, "AaEeOoOoOoOoYy"), (0x02B0, "hɦjrɹɻʁwy"), (0x02D8, "      ˞˟ɣlsxʕ"),
  (0x0374, "ʹ"), (0x037A, " "), (0x037E, ";"), (0x0384, "  Α·ΕΗΙ"), (0x038C, "Ο"),
  (0x038E, "ΥΩι"), (0x03AA, "ΙΥαεηιυ"), (0x03CA, "ιυουωϏβθΥΥΥφπ"), (0x03F0, "κρςϳΘε"),
  (0x03F9, "Σ"), (0x0400, "ЕЕЂГ"), (0x0407, "І"), (0x040C, "КИУ"), (0x0419, "И"),
  (0x0439, "и"), (0x0450, "ееђг"), (0x0457, "і"), (0x045C, "киу"), (0x0476, "Ѵѵ"),
  (0x04C1, "Жж"), (0x04D0, "АаАаӔӕЕеӘәӘәЖжЗзӠӡИиИиОоӨөӨөЭэУуУуУуЧчӶӷ"), (0x04F8, "Ыы"),
  (0x0622, "ااواي"), (0x06C0, "ەہہ"), (0x06D3, "ے"), (0x0929, "न"), (0x0931, "रलळळ"),
  (0x0958, "कखगजडढफय"), (0x09DC, "ডঢ"), (0x09DF, "য"), (0x0A33, "ਲ"), (0x0A36, "ਸ"),
  (0x0A59, "ਖਗਜ"), (0x0A5E, "ਫ"), (0x0B5C, "ଡଢ"), (0x0C48, "\u0c46"), (0x0DDA, "\u0dd9"),
  (0x0F0C, "་"), (0x0F76, "\u0fb2\u0fb2\u0fb3\u0fb3"), (0x10FC, "ნ"),
  (0x1D2C, "AÆBᴯDEƎGHIJKLMNᴻOȢPRTUWaɐɑᴂbdeəɛɜgᵎkmŋoɔ"),
  (0x1D54, "ᴖᴗptuᴝɯvᴥβγδφχiruvβγρφχ"), (0x1D78, "н"),
  (0x1D9B, "ɒcɕðɜfɟɡɥɨɩɪᵻʝɭᶅʟɱɰɲɳɴɵɸʂʃƫʉʊᴜʋʌzʐʑʒθ"),
  (0x1E00, "AaBbBbBbCcDdDdDdDdDdEeEeEeEeEeFfGgHhHhHh"),
  (0x1E28, "HhHhIiIiKkKkKkLlLlLlLlMmMmMmNnNnNnNnOoOo"),
  (0x1E50, "OoOoPpPpRrRrRrRrSsSsSsSsSsTtTtTtTtUuUuUu"),
  (0x1E78, "UuUuVvVvWwWwWwWwWwXxXxYyZzZzZzhtwyẚs"),
  (0x1EA0, "AaAaAaAaAaAaAaAaAaAaAaAaEeEeEeEeEeEeEeEe"),
  (0x1EC8, "IiIiOoOoOoOoOoOoOoOoOoOoOoOoUuUuUuUuUuUu"), (0x1EF0, "UuYyYyYyYy"),
  (0x1F00, "ααααααααΑΑΑΑΑΑΑΑεεεεεε"), (0x1F18, "ΕΕΕΕΕΕ"),
  (0x1F20, "ηηηηηηηηΗΗΗΗΗΗΗΗιιιιιιιιΙΙΙΙΙΙΙΙοοοοοο"), (0x1F48, "ΟΟΟΟΟΟ"),
  (0x1F50, "υυυυυυυυ"), (0x1F59, "Υ"), (0x1F5B, "Υ"), (0x1F5D, "Υ"),
  (0x1F5F, "ΥωωωωωωωωΩΩΩΩΩΩΩΩααεεηηιιοουυωω"),
  (0x1F80, "ααααααααΑΑΑΑΑΑΑΑηηηηηηηηΗΗΗΗΗΗΗΗωωωωωωωω"), (0x1FA8, "ΩΩΩΩΩΩΩΩααααα"),
  (0x1FB6, "ααΑΑΑΑΑ ι   ηηη"), (0x1FC6, "ηηΕΕΗΗΗ   ιιιι"), (0x1FD6, "ιιΙΙΙΙ"),
  (0x1FDD, "   υυυυρρυυΥΥΥΥΡ  `"), (0x1FF2, "ωωω"), (0x1FF6, "ωωΟΟΩΩΩ  "),
  (0x2000, "           "), (0x2011, "‐"), (0x2017, " "), (0x2024, "."), (0x202F, " "),
  (0x203E, " "), (0x205F, " "), (0x2070, "0i"), (0x2074, "456789+−=()n0123456789+−=()"),
  (0x2090, "aeoxəhklmnpst"), (0x2102, "C"), (0x2107, "Ɛ℈℉gHHHhħIILl℔N"), (0x2119, "PQRRR"),
  (0x2124, "Z℥Ω℧Z℩KABC℮eEFℲMoאבגדi℺℻πγΓΠ∑"), (0x2145, "Ddeij"), (0x2160, "I"),
  (0x2164, "V"), (0x2169, "XⅪⅫLCDMi"), (0x2174, "v"), (0x2179, "xⅺⅻlcdm"), (0x219A, "←→"),
  (0x21AE, "↔"), (0x21CD, "⇐⇔⇒"), (0x2204, "∃"), (0x2209, "∈∊∋∋"), (0x2224, "∣∥∥"),
  (0x2241, "∼≂≃≃≅≆≅≈≈"), (0x2260, "=≡≡"), (0x226D, "≍<>≤≥≲≳≲≳≶≷≶≷"),
  (0x2280, "≺≻⊂⊃⊂⊃⊆⊇⊆⊇"), (0x22AC, "⊢⊨⊩⊫"), (0x22E0, "≼≽⊑⊒"), (0x22EA, "⊲⊳⊴⊵"),
  (0x2329, "〈〉"), (0x2460, "123456789"),
  (0x24B6, "ABCDEFGHIJKLMNOPQRSTUVWXYZabcdefghijklmn"), (0x24DE, "opqrstuvwxyz0"),
  (0x2ADC, "⫝"), (0x2C7C, "jV"), (0x2D6F, "ⵡ"), (0x2E9F, "母"), (0x2EF3, "龟"),
  (0x2F00, "一丨丶丿乙亅二亠人儿入八冂冖冫几凵刀力勹匕匚匸十卜卩厂厶又口囗土士夂夊夕大女子宀"),
  (0x2F28, "寸小尢尸屮山巛工己巾干幺广廴廾弋弓彐彡彳心戈戶手支攴文斗斤方无日曰月木欠止歹殳毋"),
  (0x2F50, "比毛氏气水火爪父爻爿片牙牛犬玄玉瓜瓦甘生用田疋疒癶白皮皿目矛矢石示禸禾穴立竹米糸"),
  (0x2F78, "缶网羊羽老而耒耳聿肉臣自至臼舌舛舟艮色艸虍虫血行衣襾見角言谷豆豕豸貝赤走足身車辛"),
  (0x2FA0, "辰辵邑酉釆里金長門阜隶隹雨靑非面革韋韭音頁風飛食首香馬骨高髟鬥鬯鬲鬼魚鳥鹵鹿麥麻"), (0x2FC8, "黃黍黑黹黽鼎鼓鼠鼻齊齒龍龜龠"),
  (0x3000, " "), (0x3036, "〒〷十卄卅"), (0x304C, "かききくくけけここささししすすせせそそたたちちっつつててとと"),
  (0x3070, "ははひひひふふふへへへほほほ"), (0x3094, "う"), (0x309B, "  ゝゝ"),
  (0x30AC, "カキキククケケココササシシススセセソソタタチチッツツテテトト"), (0x30D0, "ハハヒヒヒフフフヘヘヘホホホ"),
  (0x30F4, "ウヵヶワヰヱヲ"), (0x30FE, "ヽ"), (0x3131, "ᄀᄁᆪᄂᆬᆭᄃᄄᄅᆰᆱᆲᆳᆴᆵᄚᄆᄇᄈᄡᄉᄊᄋᄌᄍᄎᄏᄐᄑ하ᅢᅣᅤᅥᅦᅧᅨᅩᅪ"),
  (0x3159, "ᅫᅬᅭᅮᅯᅰᅱᅲᅳᅴᅵᅠᄔᄕᇇᇈᇌᇎᇓᇗᇙᄜᇝᇟᄝᄞᄠᄢᄣᄧᄩᄫᄬᄭᄮᄯᄲᄶᅀᅇ"), (0x3181, "ᅌᇱᇲᅗᅘᅙᆄᆅᆈᆑᆒᆔᆞᆡ"),
  (0x3192, "一二三四上中下甲乙丙丁天地人"), (0x3244, "問幼文箏"), (0x3260, "ᄀᄂᄃᄅᄆᄇᄉᄋᄌᄎᄏᄐᄑᄒ"),
  (0x3280, "一二三四五六七八九十月火水木金土日株有社名特財祝労秘男女適優印注項休写正上中下左"), (0x32A8, "右医宗学監企資協夜"),
  (0x32D0, "アイウエオカキクケコサシスセソタチツテトナニヌネノハヒフヘホマミムメモヤユヨラリ"), (0x32F8, "ルレロワヰヱヲ"),
  (0xA69C, "ъь"), (0xA770, "ꝯ"), (0xA7F2, "CFQ"), (0xA7F8, "Ħœ"), (0xAB5C, "ꜧꬷɫꭒ"),
  (0xAB69, "ʍ"), (0xF900, "豈更車賈滑串句龜龜契金喇奈懶癩羅蘿螺裸邏樂洛烙珞落酪駱亂卵欄爛蘭鸞嵐濫藍襤拉臘蠟"),
  (0xF928, "廊朗浪狼郎來冷勞擄櫓爐盧老蘆虜路露魯鷺碌祿綠菉錄鹿論壟弄籠聾牢磊賂雷壘屢樓淚漏累"),
  (0xF950, "縷陋勒肋凜凌稜綾菱陵讀拏樂諾丹寧怒率異北磻便復不泌數索參塞省葉說殺辰沈拾若掠略亮"),
  (0xF978, "兩凉梁糧良諒量勵呂女廬旅濾礪閭驪麗黎力曆歷轢年憐戀撚漣煉璉秊練聯輦蓮連鍊列劣咽烈"),
  (0xF9A0, "裂說廉念捻殮簾獵令囹寧嶺怜玲瑩羚聆鈴零靈領例禮醴隸惡了僚寮尿料樂燎療蓼遼龍暈阮劉"),
  (0xF9C8, "杻柳流溜琉留硫紐類六戮陸倫崙淪輪律慄栗率隆利吏履易李梨泥理痢罹裏裡里離匿溺吝燐璘"),
  (0xF9F0, "藺隣鱗麟林淋臨立笠粒狀炙識什茶刺切度拓糖宅洞暴輻行降見廓兀嗀﨎﨏塚﨑晴﨓﨔凞猪益"), (0xFA18, "礼神祥福靖精羽﨟蘒﨡諸﨣﨤逸都"),
  (0xFA2A, "飯飼館鶴郞隷侮僧免勉勤卑喝嘆器塀墨層屮悔慨憎懲敏既暑梅海渚漢煮爫琢碑社祉祈祐祖祝"),
  (0xFA52, "禍禎穀突節練縉繁署者臭艹艹著褐視謁謹賓贈辶逸難響頻恵𤋮舘"),
  (0xFA70, "並况全侀充冀勇勺喝啕喙嗢塚墳奄奔婢嬨廒廙彩徭惘慎愈憎慠懲戴揄搜摒敖晴朗望杖歹殺流"),
  (0xFA98, "滛滋漢瀞煮瞧爵犯猪瑱甆画瘝瘟益盛直睊着磌窱節类絛練缾者荒華蝹襁覆視調諸請謁諾諭謹"),
  (0xFAC0, "變贈輸遲醙鉶陼難靖韛響頋頻鬒龜𢡊𢡄𣏕㮝䀘䀹𥉉𥳐𧻓齃龎"), (0xFB1D, "י\ufb1eײעאדהכלםרת+ששששאאאבגדהוז"),
  (0xFB38, "טיךכל"), (0xFB3E, "מ"), (0xFB40, "נס"), (0xFB43, "ףפ"),
  (0xFB46, "צקרשתובכפﭏٱٱٻٻٻٻپپپپڀڀڀڀٺٺٺٺٿٿٿٿٹٹٹٹڤڤڤڤ"),
  (0xFB6E, "ڦڦڦڦڄڄڄڄڃڃڃڃچچچچڇڇڇڇڍڍڌڌڎڎڈڈژژڑڑککککگگگگ"),
  (0xFB96, "ڳڳڳڳڱڱڱڱںںڻڻڻڻەەہہہہھھھھےےےے"), (0xFBD3, "ڭڭڭڭۇۇۆۆۈۈﯝۋۋۅۅۉۉېېېېىى"),
  (0xFBFC, "یییی"), (0xFC5B, "ذرى      "), (0xFC90, "ى"), (0xFCD9, "ه"), (0xFCF2, "ـــ"),
  (0xFD3C, "اا"), (0xFE10, ",、。:;!?〖〗"),
  (0xFE31, "—–__()\x7b\x7d〔〕【】《》〈〉「」『』﹅﹆[]    ___,、."),
  (0xFE54, ";:?!—()\x7b\x7d〔〕#&*+-<>="), (0xFE68, "\\$%@"), (0xFE70, " ـ ﹳ "),
  (0xFE76, " ـ ـ ـ ـ ـءااااووااييييااببببةةتتتتثثثثج"),
  (0xFE9E, "جججححححخخخخددذذررززسسسسششششصصصصضضضضططططظ"),
  (0xFEC6, "ظظظععععغغغغففففققققككككللللممممننننههههو"), (0xFEEE, "وىىيييي"),
  (0xFF01, "!\"#$%&'()*+,-./0123456789:;<=>?@ABCDEFGH"),
  (0xFF29, "IJKLMNOPQRSTUVWXYZ[\\]^_`abcdefghijklmnop"),
  (0xFF51, "qrstuvwxyz\x7b|\x7d~⦅⦆。「」、・ヲァィゥェォャュョッーアイウエオカキク"),
  (0xFF79, "ケコサシスセソタチツテトナニヌネノハヒフヘホマミムメモヤユヨラリルレロワンﾞﾟᅠ"),
  (0xFFA1, "ᄀᄁᆪᄂᆬᆭᄃᄄᄅᆰᆱᆲᆳᆴᆵᄚᄆᄇᄈᄡᄉᄊᄋᄌᄍᄎᄏᄐᄑᄒ"), (0xFFC2, "ᅡᅢᅣᅤᅥᅦ"), (0xFFCA, "ᅧᅨᅩᅪᅫᅬ"),
  (0xFFD2, "ᅭᅮᅯᅰᅱᅲ"), (0xFFDA, "ᅳᅴᅵ"), (0xFFE0, "¢£¬ ¦¥₩"), (0xFFE8, "│←↑→↓■○"),
  (0x10781, "ːˑæʙɓ"), (0x10787, "ʣꭦʥʤɖɗᶑɘɞʩɤɢɠʛħʜɧʄʪʫɬ𝼄ꞎɮ𝼅ʎ𝼆øɶɷqɺ𝼈ɽɾʀʨʦꭧʧ"),
  (0x107AF, "ʈⱱ"), (0x107B2, "ʏʡʢʘǀǁǂ𝼊𝼞"), (0x1109A, "𑂙𑂛𑂛"), (0x110AB, "𑂥"),
  (0x1D15E, "𝅗𝅘𝅘𝅘𝅘𝅘𝅘"), (0x1D1BB, "𝆹𝆺𝆹𝆺𝆹𝆺"),
  (0x1D400, "ABCDEFGHIJKLMNOPQRSTUVWXYZabcdefghijklmn"),
  (0x1D428, "opqrstuvwxyzABCDEFGHIJKLMNOPQRSTUVWXYZab"), (0x1D450, "cdefg"),
  (0x1D456, "ijklmnopqrstuvwxyzABCDEFGHIJKLMNOPQRSTUV"),
  (0x1D47E, "WXYZabcdefghijklmnopqrstuvwxyzA"), (0x1D49E, "CD"), (0x1D4A2, "G"),
  (0x1D4A5, "JK"), (0x1D4A9, "NOPQ"), (0x1D4AE, "STUVWXYZabcd"), (0x1D4BB, "f"),
  (0x1D4BD, "hijklmn"), (0x1D4C5, "pqrstuvwxyzABCDEFGHIJKLMNOPQRSTUVWXYZabc"),
  (0x1D4ED, "defghijklmnopqrstuvwxyzAB"), (0x1D507, "DEFG"), (0x1D50D, "JKLMNOPQ"),
  (0x1D516, "STUVWXY"), (0x1D51E, "abcdefghijklmnopqrstuvwxyzAB"), (0x1D53B, "DEFG"),
  (0x1D540, "IJKLM"), (0x1D546, "O"), (0x1D54A, "STUVWXY"),
  (0x1D552, "abcdefghijklmnopqrstuvwxyzABCDEFGHIJKLMN"),
  (0x1D57A, "OPQRSTUVWXYZabcdefghijklmnopqrstuvwxyzAB"),
  (0x1D5A2, "CDEFGHIJKLMNOPQRSTUVWXYZabcdefghijklmnop"),
  (0x1D5CA, "qrstuvwxyzABCDEFGHIJKLMNOPQRSTUVWXYZabcd"),
  (0x1D5F2, "efghijklmnopqrstuvwxyzABCDEFGHIJKLMNOPQR"),
  (0x1D61A, "STUVWXYZabcdefghijklmnopqrstuvwxyzABCDEF"),
  (0x1D642, "GHIJKLMNOPQRSTUVWXYZabcdefghijklmnopqrst"),
  (0x1D66A, "uvwxyzABCDEFGHIJKLMNOPQRSTUVWXYZabcdefgh"), (0x1D692, "ijklmnopqrstuvwxyzıȷ"),
  (0x1D6A8, "ΑΒΓΔΕΖΗΘΙΚΛΜΝΞΟΠΡΘΣΤΥΦΧΨΩ∇αβγδεζηθικλμνξ"),
  (0x1D6D0, "οπρςστυφχψω∂εθκφρπΑΒΓΔΕΖΗΘΙΚΛΜΝΞΟΠΡΘΣΤΥΦ"),
  (0x1D6F8, "ΧΨΩ∇αβγδεζηθικλμνξοπρςστυφχψω∂εθκφρπΑΒΓΔ"),
  (0x1D720, "ΕΖΗΘΙΚΛΜΝΞΟΠΡΘΣΤΥΦΧΨΩ∇αβγδεζηθικλμνξοπρς"),
  (0x1D748, "στυφχψω∂εθκφρπΑΒΓΔΕΖΗΘΙΚΛΜΝΞΟΠΡΘΣΤΥΦΧΨΩ∇"),
  (0x1D770, "αβγδεζηθικλμνξοπρςστυφχψω∂εθκφρπΑΒΓΔΕΖΗΘ"),
  (0x1D798, "ΙΚΛΜΝΞΟΠΡΘΣΤΥΦΧΨΩ∇αβγδεζηθικλμνξοπρςστυφ"), (0x1D7C0, "χψω∂εθκφρπϜϝ"),
  (0x1D7CE, "0123456789012345678901234567890123456789"), (0x1D7F6, "0123456789"),
  (0x1EE00, "ابجد"), (0x1EE05, "وزحطيكلمنسعفصقرشتثخذضظغٮںڡٯ"), (0x1EE21, "بج"),
  (0x1EE24, "ه"), (0x1EE27, "ح"), (0x1EE29, "يكلمنسعفصق"), (0x1EE34, "شتثخ"),
  (0x1EE39, "ض"), (0x1EE3B, "غ"), (0x1EE42, "ج"), (0x1EE47, "ح"), (0x1EE49, "ي"),
  (0x1EE4B, "ل"), (0x1EE4D, "نسع"), (0x1EE51, "صق"), (0x1EE54, "ش"), (0x1EE57, "خ"),
  (0x1EE59, "ض"), (0x1EE5B, "غ"), (0x1EE5D, "ں"), (0x1EE5F, "ٯ"), (0x1EE61, "بج"),
  (0x1EE64, "ه"), (0x1EE67, "حطيك"), (0x1EE6C, "منسعفصق"), (0x1EE74, "شتثخ"),
  (0x1EE79, "ضظغٮ"), (0x1EE7E, "ڡ"), (0x1EE80, "ابجدهوزحطي"),
  (0x1EE8B, "لمنسعفصقرشتثخذضظغ"), (0x1EEA1, "بجد"), (0x1EEA5, "وزحطي"),
  (0x1EEAB, "لمنسعفصقرشتثخذضظغ"), (0x1F12B, "CR"), (0x1F130, "ABCDEFGHIJKLMNOPQRSTUVWXYZ"),
  (0x1F202, "サ"), (0x1F210, "手字双テ二多解天交映無料前後再新初終生販声吹演投捕一三遊左中右指走打禁空合満有月"), (0x1F238, "申割営配"),
  (0x1F250, "得可"), (0x1FBF0, "0123456789"),
  (0x2F800, "丽丸乁𠄢你侮侻倂偺備僧像㒞𠘺免兔兤具𠔜㒹內再𠕋冗冤仌冬况𩇟凵刃㓟刻剆割剷㔕勇勉勤"),
  (0x2F828, "勺包匆北卉卑博即卽卿卿卿𠨬灰及叟𠭣叫叱吆咞吸呈周咢哶唐啓啣善善喙喫喳嗂圖嘆圗噑噴"),
  (0x2F850, "切壮城埴堍型堲報墬𡓤売壷夆多夢奢𡚨𡛪姬娛娧姘婦㛮㛼嬈嬾嬾𡧈寃寘寧寳𡬘寿将当尢㞁屠"),
  (0x2F878, "屮峀岍𡷤嵃𡷦嵮嵫嵼巡巢㠯巽帨帽幩㡢𢆃㡼庰庳庶廊𪎒廾𢌱𢌱舁弢弢㣇𣊸𦇚形彫㣣徚忍志忹"),
  (0x2F8A0, "悁㤺㤜悔𢛔惇慈慌慎慌慺憎憲憤憯懞懲懶成戛扝抱拔捐𢬌挽拼捨掃揤𢯱搢揅掩㨮摩摾撝摷㩬"),
  (0x2F8C8, "敏敬𣀊旣書晉㬙暑㬈㫤冒冕最暜肭䏙朗望朡杞杓𣏃㭉柺枅桒梅𣑭梎栟椔㮝楂榣槪檨𣚣櫛㰘次"),
  (0x2F8F0, "𣢧歔㱎歲殟殺殻𣪍𡴋𣫺汎𣲼沿泍汧洖派海流浩浸涅𣴞洴港湮㴳滋滇𣻑淹潮𣽞𣾎濆瀹瀞瀛㶖灊"),
  (0x2F918, "災灷炭𠔥煅𤉣熜𤎫爨爵牐𤘈犀犕𤜵𤠔獺王㺬玥㺸㺸瑇瑜瑱璅瓊㼛甤𤰶甾𤲒異𢆟瘐𤾡𤾸𥁄㿼䀈"),
  (0x2F940, "直𥃳𥃲𥄙𥄳眞真真睊䀹瞋䁆䂖𥐝硎碌磌䃣𥘦祖𥚚𥛅福秫䄯穀穊穏𥥼𥪧𥪧竮䈂𥮫篆築䈧𥲀糒䊠"),
  (0x2F968, "糨糣紀𥾆絣䌁緇縂繅䌴𦈨𦉇䍙𦋙罺𦌾羕翺者𦓚𦔣聠𦖨聰𣍟䏕育脃䐋脾媵𦞧𦞵𣎓𣎜舁舄辞䑫芑"),
  (0x2F990, "芋芝劳花芳芽苦𦬼若茝荣莭茣莽菧著荓菊菌菜𦰶𦵫𦳕䔫蓱蓳蔖𧏊蕤𦼬䕝䕡𦾱𧃒䕫虐虜虧虩蚩"),
  (0x2F9B8, "蚈蜎蛢蝹蜨蝫螆䗗蟡蠁䗹衠衣𧙧裗裞䘵裺㒻𧢮𧥦䚾䛇誠諭變豕𧲨貫賁贛起𧼯𠠄跋趼跰𠣞軔輸"),
  (0x2F9E0, "𨗒𨗭邔郱鄑𨜮鄛鈸鋗鋘鉼鏹鐕𨯺開䦕閷𨵷䧦雃嶲霣𩅅𩈚䩮䩶韠𩐊䪲𩒖頋頋頩𩖶飢䬳餩馧駂駾"),
  (0x2FA08, "䯎𩬰鬒鱀鳽䳎䳭鵧𪃎䳸𪄅𪈎𪊑麻䵖黹黾鼅鼏鼖鼻𪘀")]

end Text
end ApiTypings
