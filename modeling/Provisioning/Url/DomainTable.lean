/-!
How the characters of a domain name are unified, beyond lower case and canonical equivalence.
-/

namespace Provisioning.Url

/-- What code points in succession are replaced by, one character each. -/
def letterRows : List (Nat × String) :=
  [
    (0xAA, "a"),
    (0xB2, "23"),
    (0xB5, "μ"),
    (0xB9, "1o"),
    (0x17F, "s"),
    (0x2B0, "hɦjrɹɻʁwy"),
    (0x2E0, "ɣlsxʕ"),
    (0x345, "ι"),
    (0x3D0, "βθυύϋφπ"),
    (0x3F0, "κρσ"),
    (0x3F5, "ε"),
    (0x3F9, "σ"),
    (0xF0C, "་"),
    (0x10FC, "ნ"),
    (0x13A0, "ᎠᎡᎢᎣᎤᎥᎦᎧᎨᎩᎪᎫᎬᎭᎮᎯᎰᎱᎲ"),
    (0x13B3, "ᎳᎴᎵᎶᎷᎸᎹᎺᎻᎼᎽᎾᎿᏀᏁᏂᏃᏄᏅ"),
    (0x13C6, "ᏆᏇᏈᏉᏊᏋᏌᏍᏎᏏᏐᏑᏒᏓᏔᏕᏖᏗᏘ"),
    (0x13D9, "ᏙᏚᏛᏜᏝᏞᏟᏠᏡᏢᏣᏤᏥᏦᏧᏨᏩᏪᏫ"),
    (0x13EC, "ᏬᏭᏮᏯᏰᏱᏲᏳᏴᏵ"),
    (0x13F8, "ᏰᏱᏲᏳᏴᏵ"),
    (0x1C80, "вдосттъѣꙋ"),
    (0x1D2C, "aæb"),
    (0x1D30, "deǝghijklmn"),
    (0x1D3C, "oȣprtuwaɐɑᴂbdeəɛɜg"),
    (0x1D4F, "kmŋoɔᴖᴗptuᴝɯvᴥβγδφχ"),
    (0x1D62, "iruvβγρφχ"),
    (0x1D78, "н"),
    (0x1D9B, "ɒcɕðɜfɟɡɥɨɩɪᵻʝɭᶅʟɱɰ"),
    (0x1DAE, "ɲɳɴɵɸʂʃƫʉʊᴜʋʌzʐʑʒθ"),
    (0x1E9B, "ṡ"),
    (0x2011, "‐"),
    (0x2070, "0i"),
    (0x2074, "456789+−=()n0123456"),
    (0x2087, "789+−=()"),
    (0x2090, "aeoxəhklmnpst"),
    (0x2102, "c"),
    (0x2107, "ɛ"),
    (0x210A, "ghhhhħiill"),
    (0x2115, "n"),
    (0x2119, "pqrrr"),
    (0x2124, "z"),
    (0x2128, "z"),
    (0x212C, "bc"),
    (0x212F, "eef"),
    (0x2133, "mo\u05d0\u05d1\u05d2\u05d3i"),
    (0x213C, "πγγπ∑"),
    (0x2145, "ddeij"),
    (0x2160, "i"),
    (0x2164, "v"),
    (0x2169, "x"),
    (0x216C, "lcdmi"),
    (0x2174, "v"),
    (0x2179, "x"),
    (0x217C, "lcdm"),
    (0x2460, "123456789"),
    (0x24B6, "abcdefghijklmnopqrs"),
    (0x24C9, "tuvwxyzabcdefghijkl"),
    (0x24DC, "mnopqrstuvwxyz0"),
    (0x2C7C, "jv"),
    (0x2D6F, "ⵡ"),
    (0x2E9F, "母"),
    (0x2EF3, "龟"),
    (0x2F00, "一丨丶丿乙亅二亠人儿入八冂冖冫几凵刀力"),
    (0x2F13, "勹匕匚匸十卜卩厂厶又口囗土士夂夊夕大女"),
    (0x2F26, "子宀寸小尢尸屮山巛工己巾干幺广廴廾弋弓"),
    (0x2F39, "彐彡彳心戈戶手支攴文斗斤方无日曰月木欠"),
    (0x2F4C, "止歹殳毋比毛氏气水火爪父爻爿片牙牛犬玄"),
    (0x2F5F, "玉瓜瓦甘生用田疋疒癶白皮皿目矛矢石示禸"),
    (0x2F72, "禾穴立竹米糸缶网羊羽老而耒耳聿肉臣自至"),
    (0x2F85, "臼舌舛舟艮色艸虍虫血行衣襾見角言谷豆豕"),
    (0x2F98, "豸貝赤走足身車辛辰辵邑酉釆里金長門阜隶"),
    (0x2FAB, "隹雨靑非面革韋韭音頁風飛食首香馬骨高髟"),
    (0x2FBE, "鬥鬯鬲鬼魚鳥鹵鹿麥麻黃黍黑黹黽鼎鼓鼠鼻"),
    (0x2FD1, "齊齒龍龜龠"),
    (0x3002, "."),
    (0x3036, "〒"),
    (0x3038, "十卄卅"),
    (0x3131, "ᄀᄁᆪᄂᆬᆭᄃᄄᄅᆰᆱᆲᆳᆴᆵᄚᄆᄇᄈ"),
    (0x3144, "ᄡᄉᄊᄋᄌᄍᄎᄏᄐᄑ하ᅢᅣᅤᅥᅦᅧᅨ"),
    (0x3157, "ᅩᅪᅫᅬᅭᅮᅯᅰᅱᅲᅳᅴᅵ"),
    (0x3165, "ᄔᄕᇇᇈᇌᇎᇓᇗᇙᄜᇝᇟᄝᄞᄠᄢᄣᄧᄩ"),
    (0x3178, "ᄫᄬᄭᄮᄯᄲᄶᅀᅇᅌᇱᇲᅗᅘᅙᆄᆅᆈᆑ"),
    (0x318B, "ᆒᆔᆞᆡ"),
    (0x3192, "一二三四上中下甲乙丙丁天地人"),
    (0x3244, "問幼文箏"),
    (0x3260, "ᄀᄂᄃᄅᄆᄇᄉᄋᄌᄎᄏᄐᄑᄒ가나다라마"),
    (0x3273, "바사아자차카타파하"),
    (0x327E, "우"),
    (0x3280, "一二三四五六七八九十月火水木金土日株有"),
    (0x3293, "社名特財祝労秘男女適優印注項休写正上中"),
    (0x32A6, "下左右医宗学監企資協夜"),
    (0x32D0, "アイウエオカキクケコサシスセソタチツテ"),
    (0x32E3, "トナニヌネノハヒフヘホマミムメモヤユヨ"),
    (0x32F6, "ラリルレロワヰヱヲ"),
    (0xA69C, "ъь"),
    (0xA770, "ꝯ"),
    (0xA7F2, "cfq"),
    (0xA7F8, "ħœ"),
    (0xAB5C, "ꜧꬷɫꭒ"),
    (0xAB69, "ʍ"),
    (0xAB70, "ᎠᎡᎢᎣᎤᎥᎦᎧᎨᎩᎪᎫᎬᎭᎮᎯᎰᎱᎲ"),
    (0xAB83, "ᎳᎴᎵᎶᎷᎸᎹᎺᎻᎼᎽᎾᎿᏀᏁᏂᏃᏄᏅ"),
    (0xAB96, "ᏆᏇᏈᏉᏊᏋᏌᏍᏎᏏᏐᏑᏒᏓᏔᏕᏖᏗᏘ"),
    (0xABA9, "ᏙᏚᏛᏜᏝᏞᏟᏠᏡᏢᏣᏤᏥᏦᏧᏨᏩᏪᏫ"),
    (0xABBC, "ᏬᏭᏮᏯ"),
    (0xFB20, "\u05e2\u05d0\u05d3\u05d4\u05db\u05dc\u05dd\u05e8\u05ea"),
    (0xFB29, "+"),
    (0xFB50, "\u0671\u0671\u067b\u067b\u067b\u067b\u067e\u067e\u067e"),
    (0xFB59, "\u067e\u0680\u0680\u0680\u0680\u067a\u067a\u067a\u067a"),
    (0xFB62, "\u067f\u067f\u067f\u067f\u0679\u0679\u0679\u0679\u06a4"),
    (0xFB6B, "\u06a4\u06a4\u06a4\u06a6\u06a6\u06a6\u06a6\u0684\u0684"),
    (0xFB74, "\u0684\u0684\u0683\u0683\u0683\u0683\u0686\u0686\u0686"),
    (0xFB7D, "\u0686\u0687\u0687\u0687\u0687\u068d\u068d\u068c\u068c"),
    (0xFB86, "\u068e\u068e\u0688\u0688\u0698\u0698\u0691\u0691\u06a9"),
    (0xFB8F, "\u06a9\u06a9\u06a9\u06af\u06af\u06af\u06af\u06b3\u06b3"),
    (0xFB98, "\u06b3\u06b3\u06b1\u06b1\u06b1\u06b1\u06ba\u06ba\u06bb"),
    (0xFBA1, "\u06bb\u06bb\u06bb\u06c0\u06c0\u06c1\u06c1\u06c1\u06c1"),
    (0xFBAA, "\u06be\u06be\u06be\u06be\u06d2\u06d2\u06d3\u06d3"),
    (0xFBD3, "\u06ad\u06ad\u06ad\u06ad\u06c7\u06c7\u06c6\u06c6\u06c8"),
    (0xFBDC, "\u06c8"),
    (0xFBDE, "\u06cb\u06cb\u06c5\u06c5\u06c9\u06c9\u06d0\u06d0\u06d0"),
    (0xFBE7, "\u06d0\u0649\u0649"),
    (0xFBFC, "\u06cc\u06cc\u06cc\u06cc"),
    (0xFE10, ",、"),
    (0xFE14, ";!"),
    (0xFE17, "〖〗"),
    (0xFE31, "—–__()\x7b\x7d〔〕【】《》〈〉「"),
    (0xFE42, "」『』"),
    (0xFE4D, "___,、"),
    (0xFE54, ";"),
    (0xFE57, "!—()\x7b\x7d〔〕"),
    (0xFE60, "&*+-"),
    (0xFE66, "="),
    (0xFE69, "$"),
    (0xFE80, "\u0621\u0622\u0622\u0623\u0623\u0624\u0624\u0625\u0625"),
    (0xFE89, "\u0626\u0626\u0626\u0626\u0627\u0627\u0628\u0628\u0628"),
    (0xFE92, "\u0628\u0629\u0629\u062a\u062a\u062a\u062a\u062b\u062b"),
    (0xFE9B, "\u062b\u062b\u062c\u062c\u062c\u062c\u062d\u062d\u062d"),
    (0xFEA4, "\u062d\u062e\u062e\u062e\u062e\u062f\u062f\u0630\u0630"),
    (0xFEAD, "\u0631\u0631\u0632\u0632\u0633\u0633\u0633\u0633\u0634"),
    (0xFEB6, "\u0634\u0634\u0634\u0635\u0635\u0635\u0635\u0636\u0636"),
    (0xFEBF, "\u0636\u0636\u0637\u0637\u0637\u0637\u0638\u0638\u0638"),
    (0xFEC8, "\u0638\u0639\u0639\u0639\u0639\u063a\u063a\u063a\u063a"),
    (0xFED1, "\u0641\u0641\u0641\u0641\u0642\u0642\u0642\u0642\u0643"),
    (0xFEDA, "\u0643\u0643\u0643\u0644\u0644\u0644\u0644\u0645\u0645"),
    (0xFEE3, "\u0645\u0645\u0646\u0646\u0646\u0646\u0647\u0647\u0647"),
    (0xFEEC, "\u0647\u0648\u0648\u0649\u0649\u064a\u064a\u064a\u064a"),
    (0xFF01, "!\""),
    (0xFF04, "$"),
    (0xFF06, "&'()*+,-."),
    (0xFF10, "0123456789"),
    (0xFF1B, ";"),
    (0xFF1D, "="),
    (0xFF21, "abcdefghijklmnopqrs"),
    (0xFF34, "tuvwxyz"),
    (0xFF3F, "_\x60abcdefghijklmnop"),
    (0xFF51, "qrstuvwxyz\x7b"),
    (0xFF5D, "\x7d~⦅⦆.「」、・ヲァィゥェォャュョ"),
    (0xFF6F, "ッーアイウエオカキクケコサシスセソタチ"),
    (0xFF82, "ツテトナニヌネノハヒフヘホマミムメモヤ"),
    (0xFF95, "ユヨラリルレロワン\u3099\u309a"),
    (0xFFA1, "ᄀᄁᆪᄂᆬᆭᄃᄄᄅᆰᆱᆲᆳᆴᆵᄚᄆᄇᄈ"),
    (0xFFB4, "ᄡᄉᄊᄋᄌᄍᄎᄏᄐᄑᄒ"),
    (0xFFC2, "ᅡᅢᅣᅤᅥᅦ"),
    (0xFFCA, "ᅧᅨᅩᅪᅫᅬ"),
    (0xFFD2, "ᅭᅮᅯᅰᅱᅲ"),
    (0xFFDA, "ᅳᅴᅵ"),
    (0xFFE0, "¢£¬"),
    (0xFFE4, "¦¥₩"),
    (0xFFE8, "│←↑→↓■○"),
    (0x10781, "ːˑæʙɓ"),
    (0x10787, "ʣꭦʥʤɖɗᶑɘɞʩɤɢɠʛħʜɧʄʪ"),
    (0x1079A, "ʫɬ𝼄ꞎɮ𝼅ʎ𝼆øɶɷqɺ𝼈ɽɾʀʨʦ"),
    (0x107AD, "ꭧʧʈⱱ"),
    (0x107B2, "ʏʡʢʘǀǁǂ𝼊𝼞"),
    (0x1D400, "abcdefghijklmnopqrs"),
    (0x1D413, "tuvwxyzabcdefghijkl"),
    (0x1D426, "mnopqrstuvwxyzabcde"),
    (0x1D439, "fghijklmnopqrstuvwx"),
    (0x1D44C, "yzabcdefg"),
    (0x1D456, "ijklmnopqrstuvwxyza"),
    (0x1D469, "bcdefghijklmnopqrst"),
    (0x1D47C, "uvwxyzabcdefghijklm"),
    (0x1D48F, "nopqrstuvwxyza"),
    (0x1D49E, "cd"),
    (0x1D4A2, "g"),
    (0x1D4A5, "jk"),
    (0x1D4A9, "nopq"),
    (0x1D4AE, "stuvwxyzabcd"),
    (0x1D4BB, "f"),
    (0x1D4BD, "hijklmn"),
    (0x1D4C5, "pqrstuvwxyzabcdefgh"),
    (0x1D4D8, "ijklmnopqrstuvwxyza"),
    (0x1D4EB, "bcdefghijklmnopqrst"),
    (0x1D4FE, "uvwxyzab"),
    (0x1D507, "defg"),
    (0x1D50D, "jklmnopq"),
    (0x1D516, "stuvwxy"),
    (0x1D51E, "abcdefghijklmnopqrs"),
    (0x1D531, "tuvwxyzab"),
    (0x1D53B, "defg"),
    (0x1D540, "ijklm"),
    (0x1D546, "o"),
    (0x1D54A, "stuvwxy"),
    (0x1D552, "abcdefghijklmnopqrs"),
    (0x1D565, "tuvwxyzabcdefghijkl"),
    (0x1D578, "mnopqrstuvwxyzabcde"),
    (0x1D58B, "fghijklmnopqrstuvwx"),
    (0x1D59E, "yzabcdefghijklmnopq"),
    (0x1D5B1, "rstuvwxyzabcdefghij"),
    (0x1D5C4, "klmnopqrstuvwxyzabc"),
    (0x1D5D7, "defghijklmnopqrstuv"),
    (0x1D5EA, "wxyzabcdefghijklmno"),
    (0x1D5FD, "pqrstuvwxyzabcdefgh"),
    (0x1D610, "ijklmnopqrstuvwxyza"),
    (0x1D623, "bcdefghijklmnopqrst"),
    (0x1D636, "uvwxyzabcdefghijklm"),
    (0x1D649, "nopqrstuvwxyzabcdef"),
    (0x1D65C, "ghijklmnopqrstuvwxy"),
    (0x1D66F, "zabcdefghijklmnopqr"),
    (0x1D682, "stuvwxyzabcdefghijk"),
    (0x1D695, "lmnopqrstuvwxyzıȷ"),
    (0x1D6A8, "αβγδεζηθικλμνξοπρθσ"),
    (0x1D6BB, "τυφχψω∇αβγδεζηθικλμ"),
    (0x1D6CE, "νξοπρσστυφχψω∂εθκφρ"),
    (0x1D6E1, "παβγδεζηθικλμνξοπρθ"),
    (0x1D6F4, "στυφχψω∇αβγδεζηθικλ"),
    (0x1D707, "μνξοπρσστυφχψω∂εθκφ"),
    (0x1D71A, "ρπαβγδεζηθικλμνξοπρ"),
    (0x1D72D, "θστυφχψω∇αβγδεζηθικ"),
    (0x1D740, "λμνξοπρσστυφχψω∂εθκ"),
    (0x1D753, "φρπαβγδεζηθικλμνξοπ"),
    (0x1D766, "ρθστυφχψω∇αβγδεζηθι"),
    (0x1D779, "κλμνξοπρσστυφχψω∂εθ"),
    (0x1D78C, "κφρπαβγδεζηθικλμνξο"),
    (0x1D79F, "πρθστυφχψω∇αβγδεζηθ"),
    (0x1D7B2, "ικλμνξοπρσστυφχψω∂ε"),
    (0x1D7C5, "θκφρπϝϝ"),
    (0x1D7CE, "0123456789012345678"),
    (0x1D7E1, "9012345678901234567"),
    (0x1D7F4, "890123456789"),
    (0x1E030, "абвгдежзиклмопрстуф"),
    (0x1E043, "хцчшыэюꚉәіјөүӏабвгд"),
    (0x1E056, "ежзиклопсуфхцчшъыґі"),
    (0x1E069, "ѕџҫꙑұ"),
    (0x1EE00, "\u0627\u0628\u062c\u062f"),
    (0x1EE05, "\u0648\u0632\u062d\u0637\u064a\u0643\u0644\u0645\u0646"),
    (0x1EE0E, "\u0633\u0639\u0641\u0635\u0642\u0631\u0634\u062a\u062b"),
    (0x1EE17, "\u062e\u0630\u0636\u0638\u063a\u066e\u06ba\u06a1\u066f"),
    (0x1EE21, "\u0628\u062c"),
    (0x1EE24, "\u0647"),
    (0x1EE27, "\u062d"),
    (0x1EE29, "\u064a\u0643\u0644\u0645\u0646\u0633\u0639\u0641\u0635"),
    (0x1EE32, "\u0642"),
    (0x1EE34, "\u0634\u062a\u062b\u062e"),
    (0x1EE39, "\u0636"),
    (0x1EE3B, "\u063a"),
    (0x1EE42, "\u062c"),
    (0x1EE47, "\u062d"),
    (0x1EE49, "\u064a"),
    (0x1EE4B, "\u0644"),
    (0x1EE4D, "\u0646\u0633\u0639"),
    (0x1EE51, "\u0635\u0642"),
    (0x1EE54, "\u0634"),
    (0x1EE57, "\u062e"),
    (0x1EE59, "\u0636"),
    (0x1EE5B, "\u063a"),
    (0x1EE5D, "\u06ba"),
    (0x1EE5F, "\u066f"),
    (0x1EE61, "\u0628\u062c"),
    (0x1EE64, "\u0647"),
    (0x1EE67, "\u062d\u0637\u064a\u0643"),
    (0x1EE6C, "\u0645\u0646\u0633\u0639\u0641\u0635\u0642"),
    (0x1EE74, "\u0634\u062a\u062b\u062e"),
    (0x1EE79, "\u0636\u0638\u063a\u066e"),
    (0x1EE7E, "\u06a1"),
    (0x1EE80, "\u0627\u0628\u062c\u062f\u0647\u0648\u0632\u062d\u0637"),
    (0x1EE89, "\u064a"),
    (0x1EE8B, "\u0644\u0645\u0646\u0633\u0639\u0641\u0635\u0642\u0631"),
    (0x1EE94, "\u0634\u062a\u062b\u062e\u0630\u0636\u0638\u063a"),
    (0x1EEA1, "\u0628\u062c\u062f"),
    (0x1EEA5, "\u0648\u0632\u062d\u0637\u064a"),
    (0x1EEAB, "\u0644\u0645\u0646\u0633\u0639\u0641\u0635\u0642\u0631"),
    (0x1EEB4, "\u0634\u062a\u062b\u062e\u0630\u0636\u0638\u063a"),
    (0x1F12B, "cr"),
    (0x1F130, "abcdefghijklmnopqrs"),
    (0x1F143, "tuvwxyz"),
    (0x1F202, "サ"),
    (0x1F210, "手字双デ二多解天交映無料前後再新初終生"),
    (0x1F223, "販声吹演投捕一三遊左中右指走打禁空合満"),
    (0x1F236, "有月申割営配"),
    (0x1F250, "得可"),
    (0x1FBF0, "0123456789")
  ]

/-- What code points in succession are replaced by, with a space between the replacements. -/
def phraseRows : List (Nat × String) :=
  [
    (0xBC, "1⁄4 1⁄2 3⁄4"),
    (0x132, "ij ij"),
    (0x13F, "l· l·"),
    (0x149, "ʼn"),
    (0x1C4, "dž dž dž lj lj lj nj nj nj"),
    (0x1F1, "dz dz dz"),
    (0x587, "եւ"),
    (0x675, "\u0627\u0674 \u0648\u0674 \u06c7\u0674 \u064a\u0674"),
    (0xE33, "\u0e4dา"),
    (0xEB3, "\u0ecdາ"),
    (0xEDC, "ຫນ ຫມ"),
    (0xF77, "\u0fb2\u0f71\u0f80"),
    (0xF79, "\u0fb3\u0f71\u0f80"),
    (0x1E9A, "aʾ"),
    (0x1E9E, "ss"),
    (0x1F80, "ἀι ἁι ἂι ἃι ἄι ἅι ἆι ἇι ἀι ἁι ἂι ἃι ἄι ἅι ἆι"),
    (0x1F8F, "ἇι ἠι ἡι ἢι ἣι ἤι ἥι ἦι ἧι ἠι ἡι ἢι ἣι ἤι ἥι"),
    (0x1F9E, "ἦι ἧι ὠι ὡι ὢι ὣι ὤι ὥι ὦι ὧι ὠι ὡι ὢι ὣι ὤι"),
    (0x1FAD, "ὥι ὦι ὧι"),
    (0x1FB2, "ὰι αι άι"),
    (0x1FB7, "ᾶι"),
    (0x1FBC, "αι"),
    (0x1FC2, "ὴι ηι ήι"),
    (0x1FC7, "ῆι"),
    (0x1FCC, "ηι"),
    (0x1FF2, "ὼι ωι ώι"),
    (0x1FF7, "ῶι"),
    (0x1FFC, "ωι"),
    (0x2033, "′′ ′′′"),
    (0x2036, "‵‵ ‵‵‵"),
    (0x203C, "!!"),
    (0x2057, "′′′′"),
    (0x20A8, "rs"),
    (0x2103, "°c"),
    (0x2109, "°f"),
    (0x2116, "no"),
    (0x2120, "sm tel tm"),
    (0x213B, "fax"),
    (0x2150, "1⁄7 1⁄9 1⁄10 1⁄3 2⁄3 1⁄5 2⁄5 3⁄5 4⁄5 1⁄6 5⁄6 1⁄8 3⁄8"),
    (0x215D, "5⁄8 7⁄8 1⁄"),
    (0x2161, "ii iii iv"),
    (0x2165, "vi vii viii ix"),
    (0x216A, "xi xii"),
    (0x2171, "ii iii iv"),
    (0x2175, "vi vii viii ix"),
    (0x217A, "xi xii"),
    (0x2189, "0⁄3"),
    (0x222C, "∫∫ ∫∫∫"),
    (0x222F, "∮∮ ∮∮∮"),
    (0x2469, "10 11 12 13 14 15 16 17 18 19 20 (1) (2) (3) (4)"),
    (0x2478, "(5) (6) (7) (8) (9) (10) (11) (12) (13) (14) (15) (16)"),
    (0x2484, "(17) (18) (19) (20)"),
    (0x249C, "(a) (b) (c) (d) (e) (f) (g) (h) (i) (j) (k) (l) (m)"),
    (0x24A9, "(n) (o) (p) (q) (r) (s) (t) (u) (v) (w) (x) (y) (z)"),
    (0x2A0C, "∫∫∫∫"),
    (0x2A75, "== ==="),
    (0x309F, "より"),
    (0x30FF, "コト"),
    (0x3200, "(ᄀ) (ᄂ) (ᄃ) (ᄅ) (ᄆ) (ᄇ) (ᄉ) (ᄋ) (ᄌ) (ᄎ) (ᄏ) (ᄐ) (ᄑ)"),
    (0x320D, "(ᄒ) (가) (나) (다) (라) (마) (바) (사) (아) (자) (차) (카) (타)"),
    (0x321A, "(파) (하) (주) (오전) (오후)"),
    (0x3220, "(一) (二) (三) (四) (五) (六) (七) (八) (九) (十) (月) (火) (水)"),
    (0x322D, "(木) (金) (土) (日) (株) (有) (社) (名) (特) (財) (祝) (労) (代)"),
    (0x323A, "(呼) (学) (監) (企) (資) (協) (祭) (休) (自) (至)"),
    (0x3250, "pte 21 22 23 24 25 26 27 28 29 30 31 32 33 34"),
    (0x325F, "35"),
    (0x327C, "참고 주의"),
    (0x32B1, "36 37 38 39 40 41 42 43 44 45 46 47 48 49 50"),
    (0x32C0, "1月 2月 3月 4月 5月 6月 7月 8月 9月 10月 11月 12月 hg erg"),
    (0x32CE, "ev ltd"),
    (0x32FF, "令和 アパート アルファ アンペア アール イニング インチ ウォン エスクード エーカー オンス オーム"),
    (0x330B, "カイリ カラット カロリー ガロン ガンマ ギガ ギニー キュリー ギルダー キロ キログラム キロメートル"),
    (0x3317, "キロワット グラム グラムトン クルゼイロ クローネ ケース コルナ コーポ サイクル サンチーム シリング"),
    (0x3322, "センチ セント ダース デシ ドル トン ナノ ノット ハイツ パーセント パーツ バーレル ピアストル"),
    (0x332F, "ピクル ピコ ビル ファラッド フィート ブッシェル フラン ヘクタール ペソ ペニヒ ヘルツ ペンス"),
    (0x333B, "ページ ベータ ポイント ボルト ホン ポンド ホール ホーン マイクロ マイル マッハ マルク マンション"),
    (0x3348, "ミクロン ミリ ミリバール メガ メガトン メートル ヤード ヤール ユアン リットル リラ ルピー"),
    (0x3354, "ルーブル レム レントゲン ワット 0点 1点 2点 3点 4点 5点 6点 7点 8点 9点"),
    (0x3362, "10点 11点 12点 13点 14点 15点 16点 17点 18点 19点 20点 21点 22点"),
    (0x336F, "23点 24点 hpa da au bar ov pc dm dm2 dm3 iu 平成 昭和"),
    (0x337D, "大正 明治 株式会社 pa na μa ma ka kb mb gb cal kcal pf"),
    (0x338B, "nf μf μg mg kg hz khz mhz ghz thz μl ml dl kl"),
    (0x3399, "fm nm μm mm cm km mm2 cm2 m2 km2 mm3 cm3 m3 km3"),
    (0x33A7, "m∕s m∕s2 pa kpa mpa gpa rad rad∕s rad∕s2 ps ns μs"),
    (0x33B3, "ms pv nv μv mv kv mv pw nw μw mw kw mw kω mω"),
    (0x33C3, "bq cc cd c∕kg"),
    (0x33C8, "db gy ha hp in kk km kt lm ln log lx mb mil mol"),
    (0x33D7, "ph"),
    (0x33D9, "ppm pr sr sv wb v∕m a∕m 1日 2日 3日 4日 5日 6日 7日 8日"),
    (0x33E8, "9日 10日 11日 12日 13日 14日 15日 16日 17日 18日 19日 20日 21日"),
    (0x33F5, "22日 23日 24日 25日 26日 27日 28日 29日 30日 31日 gal"),
    (0xFB00, "ff fi fl ffi ffl st st"),
    (0xFB13, "մն մե մի վն մխ"),
    (0xFB4F, "\u05d0\u05dc"),
    (0xFBDD, "\u06c7\u0674"),
    (0xFBEA, "\u0626\u0627 \u0626\u0627 \u0626\u06d5 \u0626\u06d5 \u0626\u0648"),
    (0xFBEF, "\u0626\u0648 \u0626\u06c7 \u0626\u06c7 \u0626\u06c6 \u0626\u06c6"),
    (0xFBF4, "\u0626\u06c8 \u0626\u06c8 \u0626\u06d0 \u0626\u06d0 \u0626\u06d0"),
    (0xFBF9, "\u0626\u0649 \u0626\u0649 \u0626\u0649"),
    (0xFC00, "\u0626\u062c \u0626\u062d \u0626\u0645 \u0626\u0649 \u0626\u064a"),
    (0xFC05, "\u0628\u062c \u0628\u062d \u0628\u062e \u0628\u0645 \u0628\u0649"),
    (0xFC0A, "\u0628\u064a \u062a\u062c \u062a\u062d \u062a\u062e \u062a\u0645"),
    (0xFC0F, "\u062a\u0649 \u062a\u064a \u062b\u062c \u062b\u0645 \u062b\u0649"),
    (0xFC14, "\u062b\u064a \u062c\u062d \u062c\u0645 \u062d\u062c \u062d\u0645"),
    (0xFC19, "\u062e\u062c \u062e\u062d \u062e\u0645 \u0633\u062c \u0633\u062d"),
    (0xFC1E, "\u0633\u062e \u0633\u0645 \u0635\u062d \u0635\u0645 \u0636\u062c"),
    (0xFC23, "\u0636\u062d \u0636\u062e \u0636\u0645 \u0637\u062d \u0637\u0645"),
    (0xFC28, "\u0638\u0645 \u0639\u062c \u0639\u0645 \u063a\u062c \u063a\u0645"),
    (0xFC2D, "\u0641\u062c \u0641\u062d \u0641\u062e \u0641\u0645 \u0641\u0649"),
    (0xFC32, "\u0641\u064a \u0642\u062d \u0642\u0645 \u0642\u0649 \u0642\u064a"),
    (0xFC37, "\u0643\u0627 \u0643\u062c \u0643\u062d \u0643\u062e \u0643\u0644"),
    (0xFC3C, "\u0643\u0645 \u0643\u0649 \u0643\u064a \u0644\u062c \u0644\u062d"),
    (0xFC41, "\u0644\u062e \u0644\u0645 \u0644\u0649 \u0644\u064a \u0645\u062c"),
    (0xFC46, "\u0645\u062d \u0645\u062e \u0645\u0645 \u0645\u0649 \u0645\u064a"),
    (0xFC4B, "\u0646\u062c \u0646\u062d \u0646\u062e \u0646\u0645 \u0646\u0649"),
    (0xFC50, "\u0646\u064a \u0647\u062c \u0647\u0645 \u0647\u0649 \u0647\u064a"),
    (0xFC55, "\u064a\u062c \u064a\u062d \u064a\u062e \u064a\u0645 \u064a\u0649"),
    (0xFC5A, "\u064a\u064a \u0630\u0670 \u0631\u0670 \u0649\u0670"),
    (0xFC64, "\u0626\u0631 \u0626\u0632 \u0626\u0645 \u0626\u0646 \u0626\u0649"),
    (0xFC69, "\u0626\u064a \u0628\u0631 \u0628\u0632 \u0628\u0645 \u0628\u0646"),
    (0xFC6E, "\u0628\u0649 \u0628\u064a \u062a\u0631 \u062a\u0632 \u062a\u0645"),
    (0xFC73, "\u062a\u0646 \u062a\u0649 \u062a\u064a \u062b\u0631 \u062b\u0632"),
    (0xFC78, "\u062b\u0645 \u062b\u0646 \u062b\u0649 \u062b\u064a \u0641\u0649"),
    (0xFC7D, "\u0641\u064a \u0642\u0649 \u0642\u064a \u0643\u0627 \u0643\u0644"),
    (0xFC82, "\u0643\u0645 \u0643\u0649 \u0643\u064a \u0644\u0645 \u0644\u0649"),
    (0xFC87, "\u0644\u064a \u0645\u0627 \u0645\u0645 \u0646\u0631 \u0646\u0632"),
    (0xFC8C, "\u0646\u0645 \u0646\u0646 \u0646\u0649 \u0646\u064a \u0649\u0670"),
    (0xFC91, "\u064a\u0631 \u064a\u0632 \u064a\u0645 \u064a\u0646 \u064a\u0649"),
    (0xFC96, "\u064a\u064a \u0626\u062c \u0626\u062d \u0626\u062e \u0626\u0645"),
    (0xFC9B, "\u0626\u0647 \u0628\u062c \u0628\u062d \u0628\u062e \u0628\u0645"),
    (0xFCA0, "\u0628\u0647 \u062a\u062c \u062a\u062d \u062a\u062e \u062a\u0645"),
    (0xFCA5, "\u062a\u0647 \u062b\u0645 \u062c\u062d \u062c\u0645 \u062d\u062c"),
    (0xFCAA, "\u062d\u0645 \u062e\u062c \u062e\u0645 \u0633\u062c \u0633\u062d"),
    (0xFCAF, "\u0633\u062e \u0633\u0645 \u0635\u062d \u0635\u062e \u0635\u0645"),
    (0xFCB4, "\u0636\u062c \u0636\u062d \u0636\u062e \u0636\u0645 \u0637\u062d"),
    (0xFCB9, "\u0638\u0645 \u0639\u062c \u0639\u0645 \u063a\u062c \u063a\u0645"),
    (0xFCBE, "\u0641\u062c \u0641\u062d \u0641\u062e \u0641\u0645 \u0642\u062d"),
    (0xFCC3, "\u0642\u0645 \u0643\u062c \u0643\u062d \u0643\u062e \u0643\u0644"),
    (0xFCC8, "\u0643\u0645 \u0644\u062c \u0644\u062d \u0644\u062e \u0644\u0645"),
    (0xFCCD, "\u0644\u0647 \u0645\u062c \u0645\u062d \u0645\u062e \u0645\u0645"),
    (0xFCD2, "\u0646\u062c \u0646\u062d \u0646\u062e \u0646\u0645 \u0646\u0647"),
    (0xFCD7, "\u0647\u062c \u0647\u0645 \u0647\u0670 \u064a\u062c \u064a\u062d"),
    (0xFCDC, "\u064a\u062e \u064a\u0645 \u064a\u0647 \u0626\u0645 \u0626\u0647"),
    (0xFCE1, "\u0628\u0645 \u0628\u0647 \u062a\u0645 \u062a\u0647 \u062b\u0645"),
    (0xFCE6, "\u062b\u0647 \u0633\u0645 \u0633\u0647 \u0634\u0645 \u0634\u0647"),
    (0xFCEB, "\u0643\u0644 \u0643\u0645 \u0644\u0645 \u0646\u0645 \u0646\u0647"),
    (0xFCF0, "\u064a\u0645 \u064a\u0647 \u0640\u064e\u0651 \u0640\u064f\u0651 \u0640\u0650\u0651"),
    (0xFCF5, "\u0637\u0649 \u0637\u064a \u0639\u0649 \u0639\u064a \u063a\u0649"),
    (0xFCFA, "\u063a\u064a \u0633\u0649 \u0633\u064a \u0634\u0649 \u0634\u064a"),
    (0xFCFF, "\u062d\u0649 \u062d\u064a \u062c\u0649 \u062c\u064a \u062e\u0649"),
    (0xFD04, "\u062e\u064a \u0635\u0649 \u0635\u064a \u0636\u0649 \u0636\u064a"),
    (0xFD09, "\u0634\u062c \u0634\u062d \u0634\u062e \u0634\u0645 \u0634\u0631"),
    (0xFD0E, "\u0633\u0631 \u0635\u0631 \u0636\u0631 \u0637\u0649 \u0637\u064a"),
    (0xFD13, "\u0639\u0649 \u0639\u064a \u063a\u0649 \u063a\u064a \u0633\u0649"),
    (0xFD18, "\u0633\u064a \u0634\u0649 \u0634\u064a \u062d\u0649 \u062d\u064a"),
    (0xFD1D, "\u062c\u0649 \u062c\u064a \u062e\u0649 \u062e\u064a \u0635\u0649"),
    (0xFD22, "\u0635\u064a \u0636\u0649 \u0636\u064a \u0634\u062c \u0634\u062d"),
    (0xFD27, "\u0634\u062e \u0634\u0645 \u0634\u0631 \u0633\u0631 \u0635\u0631"),
    (0xFD2C, "\u0636\u0631 \u0634\u062c \u0634\u062d \u0634\u062e \u0634\u0645"),
    (0xFD31, "\u0633\u0647 \u0634\u0647 \u0637\u0645 \u0633\u062c \u0633\u062d"),
    (0xFD36, "\u0633\u062e \u0634\u062c \u0634\u062d \u0634\u062e \u0637\u0645"),
    (0xFD3B, "\u0638\u0645 \u0627\u064b \u0627\u064b"),
    (0xFD50, "\u062a\u062c\u0645 \u062a\u062d\u062c \u062a\u062d\u062c \u062a\u062d\u0645"),
    (0xFD54, "\u062a\u062e\u0645 \u062a\u0645\u062c \u062a\u0645\u062d \u062a\u0645\u062e"),
    (0xFD58, "\u062c\u0645\u062d \u062c\u0645\u062d \u062d\u0645\u064a \u062d\u0645\u0649"),
    (0xFD5C, "\u0633\u062d\u062c \u0633\u062c\u062d \u0633\u062c\u0649 \u0633\u0645\u062d"),
    (0xFD60, "\u0633\u0645\u062d \u0633\u0645\u062c \u0633\u0645\u0645 \u0633\u0645\u0645"),
    (0xFD64, "\u0635\u062d\u062d \u0635\u062d\u062d \u0635\u0645\u0645 \u0634\u062d\u0645"),
    (0xFD68, "\u0634\u062d\u0645 \u0634\u062c\u064a \u0634\u0645\u062e \u0634\u0645\u062e"),
    (0xFD6C, "\u0634\u0645\u0645 \u0634\u0645\u0645 \u0636\u062d\u0649 \u0636\u062e\u0645"),
    (0xFD70, "\u0636\u062e\u0645 \u0637\u0645\u062d \u0637\u0645\u062d \u0637\u0645\u0645"),
    (0xFD74, "\u0637\u0645\u064a \u0639\u062c\u0645 \u0639\u0645\u0645 \u0639\u0645\u0645"),
    (0xFD78, "\u0639\u0645\u0649 \u063a\u0645\u0645 \u063a\u0645\u064a \u063a\u0645\u0649"),
    (0xFD7C, "\u0641\u062e\u0645 \u0641\u062e\u0645 \u0642\u0645\u062d \u0642\u0645\u0645"),
    (0xFD80, "\u0644\u062d\u0645 \u0644\u062d\u064a \u0644\u062d\u0649 \u0644\u062c\u062c"),
    (0xFD84, "\u0644\u062c\u062c \u0644\u062e\u0645 \u0644\u062e\u0645 \u0644\u0645\u062d"),
    (0xFD88, "\u0644\u0645\u062d \u0645\u062d\u062c \u0645\u062d\u0645 \u0645\u062d\u064a"),
    (0xFD8C, "\u0645\u062c\u062d \u0645\u062c\u0645 \u0645\u062e\u062c \u0645\u062e\u0645"),
    (0xFD92, "\u0645\u062c\u062e \u0647\u0645\u062c \u0647\u0645\u0645 \u0646\u062d\u0645"),
    (0xFD96, "\u0646\u062d\u0649 \u0646\u062c\u0645 \u0646\u062c\u0645 \u0646\u062c\u0649"),
    (0xFD9A, "\u0646\u0645\u064a \u0646\u0645\u0649 \u064a\u0645\u0645 \u064a\u0645\u0645"),
    (0xFD9E, "\u0628\u062e\u064a \u062a\u062c\u064a \u062a\u062c\u0649 \u062a\u062e\u064a"),
    (0xFDA2, "\u062a\u062e\u0649 \u062a\u0645\u064a \u062a\u0645\u0649 \u062c\u0645\u064a"),
    (0xFDA6, "\u062c\u062d\u0649 \u062c\u0645\u0649 \u0633\u062e\u0649 \u0635\u062d\u064a"),
    (0xFDAA, "\u0634\u062d\u064a \u0636\u062d\u064a \u0644\u062c\u064a \u0644\u0645\u064a"),
    (0xFDAE, "\u064a\u062d\u064a \u064a\u062c\u064a \u064a\u0645\u064a \u0645\u0645\u064a"),
    (0xFDB2, "\u0642\u0645\u064a \u0646\u062d\u064a \u0642\u0645\u062d \u0644\u062d\u0645"),
    (0xFDB6, "\u0639\u0645\u064a \u0643\u0645\u064a \u0646\u062c\u062d \u0645\u062e\u064a"),
    (0xFDBA, "\u0644\u062c\u0645 \u0643\u0645\u0645 \u0644\u062c\u0645 \u0646\u062c\u062d"),
    (0xFDBE, "\u062c\u062d\u064a \u062d\u062c\u064a \u0645\u062c\u064a \u0641\u0645\u064a"),
    (0xFDC2, "\u0628\u062d\u064a \u0643\u0645\u0645 \u0639\u062c\u0645 \u0635\u0645\u0645"),
    (0xFDC6, "\u0633\u062e\u064a \u0646\u062c\u064a"),
    (0xFDF0, "\u0635\u0644\u06d2 \u0642\u0644\u06d2 \u0627\u0644\u0644\u0647 \u0627\u0643\u0628\u0631"),
    (0xFDF4, "\u0645\u062d\u0645\u062f \u0635\u0644\u0639\u0645 \u0631\u0633\u0648\u0644"),
    (0xFDF7, "\u0639\u0644\u064a\u0647 \u0648\u0633\u0644\u0645 \u0635\u0644\u0649"),
    (0xFDFC, "\u0631\u06cc\u0627\u0644"),
    (0xFE71, "\u0640\u064b"),
    (0xFE77, "\u0640\u064e"),
    (0xFE79, "\u0640\u064f"),
    (0xFE7B, "\u0640\u0650"),
    (0xFE7D, "\u0640\u0651"),
    (0xFE7F, "\u0640\u0652"),
    (0xFEF5, "\u0644\u0622 \u0644\u0622 \u0644\u0623 \u0644\u0623 \u0644\u0625"),
    (0xFEFA, "\u0644\u0625 \u0644\u0627 \u0644\u0627"),
    (0x1F101, "0, 1, 2, 3, 4, 5, 6, 7, 8, 9,"),
    (0x1F110, "(a) (b) (c) (d) (e) (f) (g) (h) (i) (j) (k) (l) (m)"),
    (0x1F11D, "(n) (o) (p) (q) (r) (s) (t) (u) (v) (w) (x) (y) (z)"),
    (0x1F12A, "〔s〕"),
    (0x1F12D, "cd wz"),
    (0x1F14A, "hv mv sd ss ppv wc"),
    (0x1F16A, "mc md mr"),
    (0x1F190, "dj"),
    (0x1F200, "ほか ココ"),
    (0x1F240, "〔本〕 〔三〕 〔二〕 〔安〕 〔点〕 〔打〕 〔盗〕 〔勝〕 〔敗〕")
  ]

def ignoredRanges : Array (Nat × Nat) :=
  #[
    (0xAD, 0xAD), (0x34F, 0x34F), (0x180B, 0x180D), (0x180F, 0x180F), (0x200B, 0x200B),
    (0x2060, 0x2060), (0x2064, 0x2064), (0xFE00, 0xFE0F), (0xFEFF, 0xFEFF), (0x1BCA0, 0x1BCA3),
    (0xE0100, 0xE01EF)
  ]

def refusedRanges : Array (Nat × Nat) :=
  #[
    (0xA8, 0xA8), (0xAF, 0xAF), (0xB4, 0xB4), (0xB8, 0xB8), (0x2D8, 0x2DD), (0x37A, 0x37A),
    (0x384, 0x385), (0x115F, 0x1160), (0x17B4, 0x17B5), (0x1806, 0x1806), (0x1FBD, 0x1FBD),
    (0x1FBF, 0x1FC1), (0x1FCD, 0x1FCF), (0x1FDD, 0x1FDF), (0x1FED, 0x1FEE), (0x1FFD, 0x1FFE),
    (0x2017, 0x2017), (0x2024, 0x2026), (0x203E, 0x203E), (0x2047, 0x2049), (0x2100, 0x2101),
    (0x2105, 0x2106), (0x2488, 0x249B), (0x2A74, 0x2A74), (0x2FF0, 0x2FFB), (0x309B, 0x309C),
    (0x3164, 0x3164), (0x33C2, 0x33C2), (0x33C7, 0x33C7), (0x33D8, 0x33D8), (0xFC5E, 0xFC63),
    (0xFDFA, 0xFDFB), (0xFE12, 0xFE13), (0xFE16, 0xFE16), (0xFE19, 0xFE19), (0xFE30, 0xFE30),
    (0xFE47, 0xFE4C), (0xFE52, 0xFE52), (0xFE55, 0xFE56), (0xFE5F, 0xFE5F), (0xFE64, 0xFE65),
    (0xFE68, 0xFE68), (0xFE6A, 0xFE6B), (0xFE70, 0xFE70), (0xFE72, 0xFE72), (0xFE74, 0xFE74),
    (0xFE76, 0xFE76), (0xFE78, 0xFE78), (0xFE7A, 0xFE7A), (0xFE7C, 0xFE7C), (0xFE7E, 0xFE7E),
    (0xFF03, 0xFF03), (0xFF05, 0xFF05), (0xFF0F, 0xFF0F), (0xFF1A, 0xFF1A), (0xFF1C, 0xFF1C),
    (0xFF1E, 0xFF20), (0xFF3B, 0xFF3E), (0xFF5C, 0xFF5C), (0xFFA0, 0xFFA0), (0xFFE3, 0xFFE3),
    (0xFFFC, 0xFFFD), (0x1F100, 0x1F100), (0x2F868, 0x2F868), (0x2F874, 0x2F874),
    (0x2F91F, 0x2F91F), (0x2F95F, 0x2F95F), (0x2F9BF, 0x2F9BF)
  ]

end Provisioning.Url
