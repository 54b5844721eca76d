/-
The scripts of characters and their names. A character may be used with several scripts although it
belongs to one, or to none in particular.
-/
import AccessControl.Text.CharSet.Packed

namespace AccessControl.Text.Script

/-- Every script: its short name, its long name and the code points that belong to it. -/
def table : List Packed.Entry :=
  [{ names := ["adlm", "adlam"],
     lines := ["Zwe0YB4941"] },
   { names := ["ahom"],
     lines := ["Ybu0Q2E4M"] },
   { names := ["hluw", "anatolianhieroglyphs"],
     lines := ["YnW0o6"] },
   { names := ["arab", "arabic"],
     lines := ["Xm04151D121V19BP1ZB1X1YGXFdGU115YA1SXyoGZIGhA2YF2XL70X0FZG41a6Zx3UY32XN3Xtu03",
               "1Q1110201913101060401010121110201010101011102316131310191G52141GXK1"] },
   { names := ["armn", "armenian"],
     lines := ["XfHX52XH22Xzi34"] },
   { names := ["avst", "avestan"],
     lines := ["YYu0XL36"] },
   { names := ["bali", "balinese"],
     lines := ["cu0YC1XH"] },
   { names := ["bamu", "bamum"],
     lines := ["Xfr0YNXme8nO"] },
   { names := ["bass", "bassavah"],
     lines := ["YwsGT25"] },
   { names := ["batk", "batak"],
     lines := ["c+0XJ83"] },
   { names := ["beng", "bengali"],
     lines := ["Yi0317212L1610332821238041142O"] },
   { names := ["bhks", "bhaiksuki"],
     lines := ["YdW081XC1DAS"] },
   { names := ["bopo", "bopomofo"],
     lines := ["tA1hmPXAZGV"] },
   { names := ["brah", "brahmi"],
     lines := ["YaW0YD4X390"] },
   { names := ["brai", "braille"],
     lines := ["gW0dV"] },
   { names := ["bugi", "buginese"],
     lines := ["cm0R21"] },
   { names := ["buhd", "buhid"],
     lines := ["bw0J"] },
   { names := ["cans", "canadianaboriginal"],
     lines := ["bW0pVnGY5YWjQF"] },
   { names := ["cari", "carian"],
     lines := ["YWr0XG"] },
   { names := ["aghb", "caucasianalbanian"],
     lines := ["YXfGXJB0"] },
   { names := ["cakm", "chakma"],
     lines := ["Yae0XK1H"] },
   { names := ["cham"],
     lines := ["Xgm0XM9D2923"] },
   { names := ["cher", "cherokee"],
     lines := ["az0YL25XbxIYF"] },
   { names := ["chrs", "chorasmian"],
     lines := ["YZzGR"] },
   { names := ["zyyy", "common"],
     lines := ["0Y0Q5QXE1E14N0V0k1X6542JZK0906010pT060E030X00aS0m40a11XcP0iL3f20XlF2Y71cB110",
               "XcD0D073151220u5B2YM1A3A1EHX0XVX512251Q1GX924qPMALyVe0pJ2V1Z8m0YTiIK101OF743",
               "YR130YQ1aJFX0X590XGXVVYGXF0YOb7ck0XVse0X1Z62b59dK0b00iB0E1qkI1cG9MX21I13aJ01V",
               "Q5QAA0XD1Y0616A4e224XC38YGCXJXCd4QXkj43ZwSdP6jJaSZJXSdLAX62XT3G817T4XScLJCJCYM",
               "9Oa7YK1Y6112021231B10161Y01327161R131410361gJ2f32XHbZHY3YCXSs2XB4Z3CE2E1E1X4",
               "AbDXOP11DXB4871E5aQ+N4G3C3ZM4YU6B40FB4XN896X78T2B41XUgJCD2C395XN7E2A687aI1Z5",
               "uXW70UYV"] },
   { names := ["copt", "coptic", "qaac"],
     lines := ["-2DgaGZJ56"] },
   { names := ["xsux", "cuneiform"],
     lines := ["YeW0yPZ6ZE14Bc3"] },
   { names := ["cprt", "cypriot"],
     lines := ["YYW05201XB113020"] },
   { names := ["cpmn", "cyprominoan"],
     lines := ["YhyGZ2"] },
   { names := ["cyrl", "cyrillic"],
     lines := ["XW0a42b8bwGAb00YC0aZ7V+Y0YVryE1Xum0XTX10"] },
   { names := ["dsrt", "deseret"],
     lines := ["YXW0YF"] },
   { names := ["deva", "devanagari"],
     lines := ["Ye0YG4E2PXdx0Vym09"] },
   { names := ["diak", "divesakuru"],
     lines := ["Yce062027111T112B99"] },
   { names := ["dogr", "dogra"],
     lines := ["YcW0XR"] },
   { names := ["dupl", "duployan"],
     lines := ["ZlW0ZA5C387923"] },
   { names := ["egyp", "egyptianhieroglyphs"],
     lines := ["YiW0XYLAZyQ"] },
   { names := ["elba", "elbasan"],
     lines := ["YXe0X7"] },
   { names := ["elym", "elymaic"],
     lines := ["YZ-0M"] },
   { names := ["ethi", "ethiopic"],
     lines := ["am0Y8132610132X8132X0132610132E1XO132Y22V3Pcl6M9616161616161616-f2525259616",
               "YlbH613111E"] },
   { names := ["gara", "garay"],
     lines := ["YZg0X53S81"] },
   { names := ["geor", "georgian"],
     lines := ["ab0X510502XA13YyGXA22aY0X51050"] },
   { names := ["glag", "glagolitic"],
     lines := ["hW0YVZiz061G261114"] },
   { names := ["goth", "gothic"],
     lines := ["YWvGQ"] },
   { names := ["gran", "grantha"],
     lines := ["Yau0317212L1611142821222060562634"] },
   { names := ["grek", "greek"],
     lines := ["xG3122310401012101J1XUEFcf64XI444YK0g0L252X525271010101U2XK1E1D251I2218f70",
               "XYnU0rkQYEH0XqYVY5"] },
   { names := ["gujr", "gujarati"],
     lines := ["Yq1218121L16111429121220F32B76"] },
   { names := ["gong", "gunjalagondi"],
     lines := ["Ydh05111X4111579"] },
   { names := ["guru", "gurmukhi"],
     lines := ["Ym1215412L16111111201441223073107G"] },
   { names := ["gukh", "gurungkhema"],
     lines := ["Yue0XP"] },
   { names := ["han", "hani"],
     lines := ["hq0P1YOCcLXF010P8E3+4cjVY0qlVse0hD2Z9ze81C1XaWEXfsVX0aXP6cT2bq1EdfGFpDYj2mT",
               "Xl2awA5aYV"] },
   { names := ["hang", "hangul"],
     lines := ["ae0dVdnE1e1YTZHUY1Uzt1Sq3gz3CM4XGfz4U35252522"] },
   { names := ["rohg", "hanifirohingya"],
     lines := ["YZe0X789"] },
   { names := ["hano", "hanunoo"],
     lines := ["bv0K"] },
   { names := ["hatr", "hatran"],
     lines := ["YYd0I1154"] },
   { names := ["hebr", "hebrew"],
     lines := ["XiHXM8Q45Xzf8P1410111119"] },
   { names := ["hira", "hiragana"],
     lines := ["iY1YL62Y-x1eUI0T2mbD0"] },
   { names := ["armi", "imperialaramaic"],
     lines := ["YYY0L18"] },
   { names := ["qaai", "inherited", "zinh"],
     lines := ["u0ZFeL1k4AQ0t03agRUm121C16406031c6XVmC1c2X0ZvP3ZB1Xph5FGD+F0d20aYQ0Xk+4XD2Mn02",
               "H726U3uhwIdF"] },
   { names := ["phli", "inscriptionalpahlavi"],
     lines := ["YYx0I57"] },
   { names := ["prti", "inscriptionalparthian"],
     lines := ["YYw0L27"] },
   { names := ["java", "javanese"],
     lines := ["Xgi0YD2941"] },
   { names := ["kthi", "kaithi"],
     lines := ["Yaa0Y2A0"] },
   { names := ["knda", "kannada"],
     lines := ["Za0C121M19142812137161132912"] },
   { names := ["kana", "katakana"],
     lines := ["ib1YP22dGFcGXE1YNXpWE91XCXiYI3161110eV2XI0E3"] },
   { names := ["kawi"],
     lines := ["Ydu0G1X83S"] },
   { names := ["kali", "kayahli"],
     lines := ["Xge0XD10"] },
   { names := ["khar", "kharoshthi"],
     lines := ["YYm031157121S224978"] },
   { names := ["kits", "khitansmallscript"],
     lines := ["Yx-40cuRkLX90"] },
   { names := ["khmr", "khmer"],
     lines := ["by0YT2969l6V"] },
   { names := ["khoj", "khojki"],
     lines := ["Yam0H1XE"] },
   { names := ["sind", "khudawadi"],
     lines := ["YarGXQ59"] },
   { names := ["krai", "kiratrai"],
     lines := ["Yxg0XP"] },
   { names := ["lao", "laoo"],
     lines := ["Zq1110141N101M2410161923"] },
   { names := ["latn", "latin"],
     lines := ["Y1P6PXF0F05M1U1k0X74cmRX56XG535C1Y5Y1dVhH0D0GCaD160R0HX8YsNV+r2Z53Y2211017LD",
               "vGXA1813pyM6XWQP6PYX551X918Xrw5U65"] },
   { names := ["lepc", "lepcha"],
     lines := ["dW0XN3E32"] },
   { names := ["limb", "limbu"],
     lines := ["ce0U1B4B403B"] },
   { names := ["lina", "lineara"],
     lines := ["YXm0fM9LA7"] },
   { names := ["linb", "linearb"],
     lines := ["YWW0B1P1I111E2DX2ZQ"] },
   { names := ["lisu"],
     lines := ["XfcGXF+rG0"] },
   { names := ["lyci", "lycian"],
     lines := ["YWq0S"] },
   { names := ["lydi", "lydian"],
     lines := ["YYf0P50"] },
   { names := ["mahj", "mahajani"],
     lines := ["YagGX6"] },
   { names := ["maka", "makasar"],
     lines := ["Ydt0O"] },
   { names := ["mlym", "malayalam"],
     lines := ["Ze0C121XI12154F2P"] },
   { names := ["mand", "mandaic"],
     lines := ["YY0R20"] },
   { names := ["mani", "manichaean"],
     lines := ["YYs0X64B"] },
   { names := ["marc", "marchen"],
     lines := ["YdZGV2L1D"] },
   { names := ["gonm", "masaramgondi"],
     lines := ["Yde06111XB30111889"] },
   { names := ["medf", "medefaidrin"],
     lines := ["Yxo0YQ"] },
   { names := ["mtei", "meeteimayek"],
     lines := ["Xgt0Mc9XD29"] },
   { names := ["mend", "mendekikakui"],
     lines := ["ZwW0c42F"] },
   { names := ["merc", "meroiticcursive"],
     lines := ["YYj0N4J2XD"] },
   { names := ["mero", "meroitichieroglyphs"],
     lines := ["YYi0V"] },
   { names := ["plrd", "miao"],
     lines := ["Yxu0YA4XO7G"] },
   { names := ["modi"],
     lines := ["Ybm0Y4B9"] },
   { names := ["mong", "mongolian"],
     lines := ["cW01201J6YO7XAX-jLC"] },
   { names := ["mro", "mroo"],
     lines := ["Ywo0U1941"] },
   { names := ["mult", "multani"],
     lines := ["Yaq0610131E1A"] },
   { names := ["mymr", "myanmar"],
     lines := ["aW0aVXcg0UZ1VxYGJ"] },
   { names := ["nbat", "nabataean"],
     lines := ["YYa0U88"] },
   { names := ["nagm", "nagmundari"],
     lines := ["ZvcGX9"] },
   { names := ["nand", "nandinagari"],
     lines := ["Ycj072XD2A"] },
   { names := ["talu", "newtailue"],
     lines := ["ci0XB4P6A31"] },
   { names := ["newa"],
     lines := ["YbW0YR14"] },
   { names := ["nko", "nkoo"],
     lines := ["X+0XQ22"] },
   { names := ["nshu", "nushu"],
     lines := ["Yx-10miEiB"] },
   { names := ["hmnp", "nyiakengpuachuehmong"],
     lines := ["Zue0XC3D2941"] },
   { names := ["ogam", "ogham"],
     lines := ["bq0S"] },
   { names := ["olck", "olchiki"],
     lines := ["dYGXF"] },
   { names := ["onao", "olonal"],
     lines := ["ZvkGXA40"] },
   { names := ["hung", "oldhungarian"],
     lines := ["YZa0XIDXI75"] },
   { names := ["ital", "olditalic"],
     lines := ["YWu0X392"] },
   { names := ["narb", "oldnortharabian"],
     lines := ["YYq0V"] },
   { names := ["perm", "oldpermic"],
     lines := ["YWwGXA"] },
   { names := ["xpeo", "oldpersian"],
     lines := ["YWz0X34D"] },
   { names := ["sogo", "oldsogdian"],
     lines := ["YZu0X7"] },
   { names := ["sarb", "oldsoutharabian"],
     lines := ["YYp0V"] },
   { names := ["orkh", "oldturkic"],
     lines := ["YZW0Y8"] },
   { names := ["ougr", "olduyghur"],
     lines := ["YZxGP"] },
   { names := ["orya", "oriya"],
     lines := ["Yu1217212L1611142821227241142H"] },
   { names := ["osge", "osage"],
     lines := ["YXbGX34X3"] },
   { names := ["osma", "osmanya"],
     lines := ["YXa0T29"] },
   { names := ["hmng", "pahawhhmong"],
     lines := ["Ywu0Y5A9161K5I"] },
   { names := ["palm", "palmyrene"],
     lines := ["YYZ0V"] },
   { names := ["pauc", "paucinhau"],
     lines := ["Ycs0XO"] },
   { names := ["phag", "phagspa"],
     lines := ["XgY0XN"] },
   { names := ["phnx", "phoenician"],
     lines := ["YYe0R30"] },
   { names := ["phlp", "psalterpahlavi"],
     lines := ["YYy0H73C6"] },
   { names := ["rjng", "rejang"],
     lines := ["XgfGX3B0"] },
   { names := ["runr", "runic"],
     lines := ["br0YA3A"] },
   { names := ["samr", "samaritan"],
     lines := ["YW0XD2E"] },
   { names := ["saur", "saurashtra"],
     lines := ["Xga0Y58B"] },
   { names := ["shrd", "sharada"],
     lines := ["Yai0YV"] },
   { names := ["shaw", "shavian"],
     lines := ["YXYGXF"] },
   { names := ["sidd", "siddham"],
     lines := ["Ybi0XL2X5"] },
   { names := ["sgnw", "signwriting"],
     lines := ["ZsW0qBF41E"] },
   { names := ["sinh", "sinhala"],
     lines := ["Zi121H3N181026304510176922YW-CJ"] },
   { names := ["sogd", "sogdian"],
     lines := ["YZvGX9"] },
   { names := ["sora", "sorasompeng"],
     lines := ["YacGO79"] },
   { names := ["soyo", "soyombo"],
     lines := ["YcoGYI"] },
   { names := ["sund", "sundanese"],
     lines := ["cy0XVe07"] },
   { names := ["sunu", "sunuwar"],
     lines := ["Yc+0X1E9"] },
   { names := ["sylo", "sylotinagri"],
     lines := ["XgW0XC"] },
   { names := ["syrc", "syriac"],
     lines := ["Xu0D1XR22eGA"] },
   { names := ["tglg", "tagalog"],
     lines := ["bu0L90"] },
   { names := ["tagb", "tagbanwa"],
     lines := ["bx0C1211"] },
   { names := ["tale", "taile"],
     lines := ["cgGT24"] },
   { names := ["lana", "taitham"],
     lines := ["cn0XU1S2A696D"] },
   { names := ["tavt", "taiviet"],
     lines := ["Xgq0Y2O4"] },
   { names := ["takr", "takri"],
     lines := ["Ybq0XP69"] },
   { names := ["taml", "tamil"],
     lines := ["Yy2115321331101131323B4432132060EKYa+5XHD0"] },
   { names := ["tnsa", "tangsa"],
     lines := ["YwpGYE19"] },
   { names := ["tang", "tangut"],
     lines := ["Yx-00Vb-N8tVm08"] },
   { names := ["telu", "telugu"],
     lines := ["ZW0C121M1F281213711220232978"] },
   { names := ["thaa", "thaana"],
     lines := ["Xy0XH"] },
   { names := ["thai"],
     lines := ["Zm1XP5R"] },
   { names := ["tibt", "tibetan"],
     lines := ["Zu0Y71X34X61X31E1641"] },
   { names := ["tfng", "tifinagh"],
     lines := ["hfGXN71E0"] },
   { names := ["tirh", "tirhuta"],
     lines := ["Yba0Y789"] },
   { names := ["todr", "todhri"],
     lines := ["YXk0XJ"] },
   { names := ["toto"],
     lines := ["ZuqGU"] },
   { names := ["tutg", "tulutigalari"],
     lines := ["Yay0910201X519102013191181"] },
   { names := ["ugar", "ugaritic"],
     lines := ["YWy0T10"] },
   { names := ["vai", "vaii"],
     lines := ["Xfe0fB"] },
   { names := ["vith", "vithkuqi"],
     lines := ["YXhGA1E16111A1E1611"] },
   { names := ["wcho", "wancho"],
     lines := ["Zus0XP50"] },
   { names := ["wara", "warangciti"],
     lines := ["Ycb0YIC0"] },
   { names := ["yezi", "yezidi"],
     lines := ["YZq0X91221"] },
   { names := ["yi", "yiii"],
     lines := ["XeW0XaC3XM"] },
   { names := ["zanb", "zanabazarsquare"],
     lines := ["Ycm0Y7"] }]

/-- The code points used with a script, by its first name, where they are not just those that belong
to it. -/
def used : List Packed.Entry :=
  [{ names := ["adlm"],
     lines := ["XmV0X00cmE0ZlH0ZkrUYB4941"] },
   { names := ["arab"],
     lines := ["Xm041cM1X1YGXFdGU115YA1SbwF0ZlH0XpeEZIGjS2XL70X0FZG41a6-3RYx4UY32XN3Xtu031Q11",
               "10201913101060401010121110201010101011102316131310191G52141GXK1"] },
   { names := ["armn"],
     lines := ["u80n8X52XH22Xzi34"] },
   { names := ["avst"],
     lines := ["bN0hhO1XtcEXL36"] },
   { names := ["beng"],
     lines := ["rS0XqK1H1Q317212L1610332821238041142OasH01021108080204022XY-P0"] },
   { names := ["bopo"],
     lines := ["s7012D0G1heL2491CA32060c309XAZGVXpa51eQ4"] },
   { names := ["bugi"],
     lines := ["cm0R21XZzF0"] },
   { names := ["buhd"],
     lines := ["bvL19J"] },
   { names := ["cari"],
     lines := ["bN0dz2020ZkJ0XrZEXG"] },
   { names := ["aghb"],
     lines := ["u40XC0XC0YWkHXJB0"] },
   { names := ["cakm"],
     lines := ["Yl69XoG9YWbMXK1H"] },
   { names := ["cher"],
     lines := ["u021061M1B1aZEYL25XbxIYF"] },
   { names := ["zyyy"],
     lines := ["0Y0Q5QXE1B1114N0V0k12191030181015542JZU06010pT0cN0m40XgS0iL3aX7B2X01U1911161A",
               "3A1EHX0XVX512251Q1GX924qPMALyVe0pJ2V1Z8m0M1N2913101Pj2030D0D0L0mHNV0XHEC3b19",
               "5YVV0ck0XVse8PZ62+G0E1qr49MK2B1I13aJ01VQ5Q5ZV616A4iICXJXCXom3dP6jJaSZJXSdLAX6",
               "2XT3G817T4XScLJCJCYMR6a7YK1Y6112021231B10161Y01327161R131410361gJ2f32XHbZHY3",
               "YCXSs2XB4Z3CE2E1E1X4AbDXOP11DXB48N5aQ+N4G3C3ZM4YU6B40FB4XN896X78T2B41XUgJCD2C",
               "395XN7E2A687aI1Z5uXW70UYV"] },
   { names := ["copt"],
     lines := ["bN0o803110ZC1ZCDgaGZJ56eN0Xrc8R"] },
   { names := ["cprt"],
     lines := ["YWe024XC38Xs05201XB113020"] },
   { names := ["cpmn"],
     lines := ["YWe01hqEZ2"] },
   { names := ["cyrl"],
     lines := ["rS0Y321010102050dEfFbwGAb00YC0ZV0Z-7VY30z-SYVryE1Xum0XTX10"] },
   { names := ["deva"],
     lines := ["rS0Xo3YI2XAawGX611-M0XXvV9b6Vym09"] },
   { names := ["dogr"],
     lines := ["Yh4BXds09x+6XR"] },
   { names := ["dupl"],
     lines := ["bN0oF110O1guN0ZZk3ZA5C387927"] },
   { names := ["elba"],
     lines := ["bN0oD0YWlQX7"] },
   { names := ["ethi"],
     lines := ["uE0ZtHY8132610132X8132X0132610132E1XO132Y22V3Pcl6M9616161616161616-f2525259616",
               "YlbH613111E"] },
   { names := ["gara"],
     lines := ["XmC0E030YXv0X53S81"] },
   { names := ["geor"],
     lines := ["bN0XcH0YuMX510502XFYyGXA22yQ0Zb5X51050e30"] },
   { names := ["glag"],
     lines := ["bN0oB010hU020e10YxH0ZwU0Yz5YVl30+XB0YkiG61G261114"] },
   { names := ["goth"],
     lines := ["bN0oC120X80X--UQ"] },
   { names := ["gran"],
     lines := ["YgH1H1q0DacS011U231-M0XymF317212L1611141921222060562634ZYR110"] },
   { names := ["grek"],
     lines := ["bN0o81201010A0XE020XA72310401012101J1XUEFcf64XI444YK2fUL252X525271010101U2XK1E",
               "1D251I2218YU0c80XYnU0rkQYEH0XqYVY5"] },
   { names := ["gujr"],
     lines := ["YgH1H1eR218121L16111429121220F32B76XdfG9"] },
   { names := ["gong"],
     lines := ["bN0YbC1Ya-Q5111X4111579"] },
   { names := ["guru"],
     lines := ["YgH1H1aR215412L16111111201441223073107GXdjP9"] },
   { names := ["gukh"],
     lines := ["Yh50YryQXP"] },
   { names := ["han"],
     lines := ["bN0hk8P1YOCcLQF121C1C1C2068bR0aKFX0X590XGX7XOXGFBXJ0YOOA4Z0U1cjVY0qlVXu07qlOhD",
               "2Z9xB1eQ4yZS1C1uxEHdsU1ZjEXfsVX0aXP6cT2bq1EdfGFpDYj2mTXl2awA5aYV"] },
   { names := ["hang"],
     lines := ["ae0dVdm12491CE260c30XLYTZHUY1Uzt1Sq3gz3CM4XGfo91eQ4XQU35252522"] },
   { names := ["rohg"],
     lines := ["XmC0E030X00aJ0YXnBX789"] },
   { names := ["hano"],
     lines := ["bv0M"] },
   { names := ["hebr"],
     lines := ["u71q8XM8Q45Xzf8P1410111119"] },
   { names := ["hira"],
     lines := ["iW12491CG510413YL27YQ1Xpg81eQ4A0XD1XiZ1eUI0T2mbD0"] },
   { names := ["qaai"],
     lines := ["uF0201B1136202F111H1413XlG1agRUtJXL1014mC1c2VXteGFGD+F0Xpe2XD2Mn02H726U3uhwIdF"] },
   { names := ["java"],
     lines := ["Xgi0YD1A41"] },
   { names := ["kthi"],
     lines := ["Yh69fc10+lU9wY6Y2A0"] },
   { names := ["knda"],
     lines := ["YgH1H1uQC121M19142812137161132912Z+S01160N010XYvR5"] },
   { names := ["kana"],
     lines := ["u50T0hcT2491CG51041YR33YVdGFcGXE1YNXotD1eQXUXiYG3161110eV2XI0E3"] },
   { names := ["kali"],
     lines := ["Xge0XF"] },
   { names := ["khoj"],
     lines := ["Yt69Xdg09wk6H1XE"] },
   { names := ["sind"],
     lines := ["Yh41XdsA9wpMXQ59"] },
   { names := ["latn"],
     lines := ["Y1P6PXF0C0205M1U1k030A01210901064RE1110C0227111X60504CeL1XcA1Xz80ZW4X56XG535C",
               "1Y5XP07dVfF0Y10D0GCYJ0XP160R0HX8YsNViN0+d87QZ53Y2211017LDfE0m1XA1813pyM6XWQP6P",
               "YX551X918Xrw5U65"] },
   { names := ["limb"],
     lines := ["Yh50ZyQU1B4B403B"] },
   { names := ["lina"],
     lines := ["YWe7XCXcCfM9LA7"] },
   { names := ["linb"],
     lines := ["YWW0B1P1I111E2DX2ZQ524XC38"] },
   { names := ["lisu"],
     lines := ["rS0G0hfS1zc4XF+rG0"] },
   { names := ["lyci"],
     lines := ["eYQ0Xun5S"] },
   { names := ["lydi"],
     lines := ["bN0hhP0XstEP50"] },
   { names := ["mahj"],
     lines := ["bN0YbCBXds09weMX6"] },
   { names := ["mlym"],
     lines := ["YgH1H1yQC121XI12154F2PZwQ0N0XYvT2"] },
   { names := ["mand"],
     lines := ["Xo00lVR20"] },
   { names := ["mani"],
     lines := ["Xo00YXZVX64B"] },
   { names := ["gonm"],
     lines := ["Yh41YayQ6111XB30111889"] },
   { names := ["mero"],
     lines := ["eYT0Xwf2V"] },
   { names := ["modi"],
     lines := ["XgXG9xk6Y4B9"] },
   { names := ["mong"],
     lines := ["cW0P6YO7XAXy40Z+H153XvoKC"] },
   { names := ["mult"],
     lines := ["Yp69YYWG610131E1A"] },
   { names := ["mymr"],
     lines := ["aW0aVXcaE0bHUZ1VxYGJ"] },
   { names := ["nand"],
     lines := ["Yh41y09Z-P08070XYvL5yhA72XD2A"] },
   { names := ["nko"],
     lines := ["XmC0E030j0XQ22XzfU1"] },
   { names := ["onao"],
     lines := ["Yh41ZtZAXA40"] },
   { names := ["hung"],
     lines := ["eYQ020ZkJ0F0XtnUXIDXI75"] },
   { names := ["perm"],
     lines := ["bN0o8052A0hF0X-sCXA"] },
   { names := ["orkh"],
     lines := ["eYQ0ZkL0XtkFY8"] },
   { names := ["ougr"],
     lines := ["Xo00YXbH0XZTP"] },
   { names := ["orya"],
     lines := ["YgH1H1iR217212L1611142821227241142Hah20N0"] },
   { names := ["osge"],
     lines := ["u102060YC0YWgNX34X3"] },
   { names := ["phag"],
     lines := ["cW2110YX90Z+I0+XTXN"] },
   { names := ["phlp"],
     lines := ["Xo00YXfVH73C6"] },
   { names := ["runr"],
     lines := ["br0YO"] },
   { names := ["samr"],
     lines := ["YW0XD2EflI0"] },
   { names := ["shrd"],
     lines := ["YgH0ay50102120XYwF520wg7YV"] },
   { names := ["shaw"],
     lines := ["bN0YWyOXF"] },
   { names := ["sinh"],
     lines := ["Yh41XWR21H3N181026304510176922ZtT0XzdEJ"] },
   { names := ["sogd"],
     lines := ["Xo00YYdFX9"] },
   { names := ["sunu"],
     lines := ["u01109020S030YcaEX1E9"] },
   { names := ["sylo"],
     lines := ["Yh41a09XdmGXC"] },
   { names := ["syrc"],
     lines := ["u312110L0227110sR0E120X00AAQ0aFD1XR22eGAbiD010"] },
   { names := ["tglg"],
     lines := ["bu0L90L1"] },
   { names := ["tagb"],
     lines := ["bvL1X9C1211"] },
   { names := ["tale"],
     lines := ["u015130ZfJ9Ye6T24"] },
   { names := ["takr"],
     lines := ["Yh41XdsA9xo6XP69"] },
   { names := ["taml"],
     lines := ["YgH1H1mS115321331101131323B4432132060EKacV0XZWO0wmD010XN1Za3XHD0"] },
   { names := ["tang"],
     lines := ["h-GFlF0YllG0Vb-N8tVm08"] },
   { names := ["telu"],
     lines := ["YgH1H1qQC121M1F281213711220232978aYQ0N0"] },
   { names := ["thaa"],
     lines := ["XmC0E120Y09eMXHXzo00A0"] },
   { names := ["thai"],
     lines := ["rS0Q0XB0XD0YsFXP5R"] },
   { names := ["tibt"],
     lines := ["Zu0Y71X34X61X31E1641eXD3"] },
   { names := ["tfng"],
     lines := ["u20102010gn6XN71E0"] },
   { names := ["tirh"],
     lines := ["YgH1H1ayC0XYvT9xY6Y789"] },
   { names := ["todr"],
     lines := ["u1020209010YA0YWp1XJ"] },
   { names := ["toto"],
     lines := ["rS0Zt+JU"] },
   { names := ["tutg"],
     lines := ["Zd69aW2010XYvR5bR0wqE910201X519102013191181"] },
   { names := ["yezi"],
     lines := ["XmC0E030Y09YYWMX91221"] },
   { names := ["yi"],
     lines := ["iW115927cV0xu4XaC3XMsqQ4"] }]

/-- The characters that belong to a script. -/
def find? (name : String) : Option CharSet := Packed.find? table name

/-- The characters that are used with a script. -/
def findUsed? (name : String) : Option CharSet :=
  (table.find? fun e => e.names.contains name).map fun e =>
    ((e.names.head?.bind (Packed.find? used)).getD (Packed.set e.lines))

end AccessControl.Text.Script
