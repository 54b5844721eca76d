/-
The properties of characters that hold or fail, and their names.
-/
import AccessControl.Text.CharSet.Packed

namespace AccessControl.Text.Trait

/-- Every such property: its names and the code points that have it. -/
def table : List Packed.Entry :=
  [{ names := ["ahex", "asciihexdigit"],
     lines := ["XG975Q5"] },
   { names := ["alpha", "alphabetic"],
     lines := ["Y1P6PXF0A0405M1U1k94BE47010YM0TH1123106012101J1YI1aA8b51X5206X8X7D101111108Q43",
               "TA5XN16EZ5174742A220GXFDZ4OX091405N2IJO7A5N15808X9AB366YB1F124EDI17212L161033",
               "37212110804114C1A04215412L16111111444121407310H5B218121L16111438121130F3L34217",
               "212L161114372121914114D0G115321331101131323B4432123060X8C121M1F37121281122023",
               "S317121M1914371212816113D2CC121X8271212105374M5121H3N181026851017I1DXP5660XJ1",
               "10141N101I12241060E3X00XV71X34I4F1X3Y3XM1024GXVA32X510502XA1gC132610132X8132X0",
               "132610132E1XO132Y2X5FGYL253pB2G1P5YA3A7JBKCJCC1211CXJ2IE040Y3YO7XA5Y5AU1B48NT",
               "24BXB4PXMR4XU2JXI0N1B2XHXJ1E17XJX923AXB1AEXMM2AX32A5XA22X931511305bVJX1BeL25",
               "2X525271010101U2XK1610321633254C5216ZK0D0GCZ5040291034601010131A235440HX8vDXJ",
               "XuMd46331CX510502XN70GM96161616161616161VXF0kL2P874244YL621YP135XA1YTHVXGF",
               "m0cjVY0rqCY3XD2eC3FA1KXE573ZGX782Z62Y2211017LJ1X0OXJCY310XC53012AX05X2DS3XI1B",
               "F0GFA41XM9DIM3Y41010O22F23B5252596161XA1D6ZQLgz3CM4XGee4hD2Z9X66C45B1C14101111",
               "1ZBX1hAIXV2XLX8BZK41a6X4P6PBYO35252522X3B1P1I111E2DX2ZQY5XKeBS3XGXFVDT5XA5T2X3",
               "4714XAaTIX34X34X78XJCA1E16111A1E16113XJCfM9LA7O51X918Y55201XB11302MAM9UY1I11AL",
               "APY6XN61Y031157121SXAS3SX371RRXLALAIDHZEY8XNXIDXIDX7X2R305MdQX91131G2XN03SA08L",
               "XAHXEKRM9Y5XB4AXO90DONXIH38X2309XV1391A010X3H1X12063XU610131E197XON317212L1611",
               "14372121306056S910201X519102013113010XCY11213K2UY12110bOXL26P5X2XU1030XRXL20",
               "Y7Q2DL6bPXOZ7XVV72027111T112123YT72XD251011RXI29HY750IY8c7X0V81XC1610XHT2L1D",
               "Y96111XB3011121021O5111X4111310g7M9G1X832ZF0YFyPZ6ZEHc3YoCZ0FXXFH5PZyQ5o6crPXE",
               "XsHnO7UHYEHTIXFG3VK5IjGXCcJXVa0YA4XO7GY0110C1Eb-N8XcLX99et7316111f2F0T220E38iB",
               "Ye4ZA5C387940bx1YK1Y6112021231B10161Y01327161R131410361gJ2O1O1U1O1U1O1U1O1U1O",
               "17XvKU65cL61G2611145XTX10ZGXCA6G0g1TIXBl4Rd4T20lF613111E1c4XRY33030XbK31Q1110",
               "201913101060401010121110201010101011102316131310191G52141GpKP6P6PZpMXfsVX0aXP",
               "6cT2bq1EdfGFpDYj2mTXl2awA5aYV"] },
   { names := ["bidic", "bidicontrol"],
     lines := ["XmS0clH1Q4XN3"] },
   { names := ["bidim", "bidimirrored"],
     lines := ["X81I010S010T010XD0F0ZpU3XwT1YiS1A1XM1E1bH0c033530313313101048501H539110171V23",
               "50912I5194214N2F83K171XXTDYA023111253523DiJL251D807530441124401221A521CI132010",
               "20135162O1B14311214XA271X750103452403410e00m333111E129XB7jB927XpnT551b21I010S0",
               "10T0101111XrxN0XP0XP0XP0XP0"] },
   { names := ["ci", "caseignorable"],
     lines := ["X7060B0X3010Y7040104021lNbV41409110dR6cF050XHXC10111110XC0B5AA10X30AKG0Z571913",
               "X1010UQYRAXQA4020ONXB2XC07158X9XPXN010474036A1D0F0XQ04380K1Q021XP041412230U130",
               "B1XP0441140K1M510XQ020138071B1U0XT0C0XI030XN012521371B1T0XQ0206051K1S1XP14380",
               "K1T0Y807210YQ026B8Z20289016Y91R01010XND14115A1X390Z63151121P142G3D02160F0YU0",
               "p02zI2T1U1U1Y0116802A3050XD4XJ0Y11X20ZM2419062cR120XQ0161010276920X708UXH3XG0",
               "141050X88C1X032112XO0113012XQ721Y05YI21C16406031XIXUD0X2Z4jT012B2D2D2D1C481A0",
               "2024XH41910D0GCXJX0YyB1ZH2ZT0F0Z0VXF0kL0X433450YT5YT2xuM0Xd25eE0Z231910S3YG1",
               "EX1YE0N2Z7231803040P150aN1QHD0X67PAXE2XG02321H0L1Y252121C080X30B0XJ012215110R0",
               "E15110Z4492ZP02040pvG0aJGnTF30CFX2020b907060B0X3010XF0XD1Y30L2m10d20aL4XW551X9",
               "18o621153X8240b51nT3X60Q410fR1YF3Y6AXH3ZR0XMEX9021A2XH3212040A0XI2X4417XU0C1",
               "XK8A320YV220116020aT037L1XP130X5634Y65D01010E1YL72210N0YK5104111dE36111R1YL720",
               "11ZA0102510Z50102314e3811e011040aG32140X09X8523809522XEC11iM61510YIL261111ZQ5",
               "30111610Y813010gR1B1XK45010N0bcLG6Ehc8B32Yk04XR693lS2X81l20XVGY0111mWB31611",
               "ZaU113aoSXD2Mn029F26U3aK2XzRXM4XH80E0M41EXgG61G2611145XTX10b0DhG0XT3lR4dU1t06",
               "ZD7YrF4uZW10UYVa0dF"] },
   { names := ["cased"],
     lines := ["Y1P6PXF0A0405M1U1c2134cF1X371U4Z00XA32123106012101J1YI1aA8b51X59X8YuNX510502XA",
               "13r0YL25Ya2A5XA22Y0bVY0eL252X525271010101U2XK1610321633254C5216ZK0D0GCZ504029",
               "1034601010131540235440HV31vHXJXuMd46331CX51050+eIXDITa4Z5331XT211017L412vLXA1D",
               "6YFpw06C4XW9P6PXb5YFZ0X34X3ZKA1E16111A1E1611k30221X918Xc5XIDXIYTLALYuQXVrh0XV",
               "vi0YK1Y6112021231B10161Y01327161R131410361gJ2O1O1U1O1U1O1U1O1U1O17XvK91J65e5XT",
               "YaIY3X-CP6P6P"] },
   { names := ["cwcf", "changeswhencasefolded"],
     lines := ["Y1PYQ0AM17X001010101010101010101010101010101010101010101010101010102010101010",
               "101010111010101010101010101010101010101010101010101011101010111011122311123111",
               "101011102011121011307111111010101010101010201010101010101010211012101010101010",
               "10101010101010101010101010101010101010101010107111201310101010dM0XA01030806012",
               "10111G18M0C231101010101010101010101010112110112XIXG010101010101010101010101010",
               "101010901010101010101010101010101010101010101010101010101010111010101010102010",
               "101010101010101010101010101010101010101010101010101010101010101010101010101010",
               "101010101010102X5XG0YuOX51050vA5Ya296XA22g001010101010101010101010101010101010",
               "101010101010101010101010101010101010101010101010101010101010101010101010101010",
               "101010101010101010101010101010101010512010101010101010101010101010101010101010",
               "10101010101010101010101010101010101010101010101010101010109785A78785B010101087",
               "GXF22255225B3C45225f903160XDFJ0vIPXvGXFXG0122010101310208210101010101010101010",
               "101010101010101010101010101010101010101010101010101010101010101010101010101010",
               "801040+gD010101010101010101010101010101010101010101010J01010101010101010101010",
               "1010a701010101010103010101010101010101010101010101010101010101010101010101010",
               "1010A0101110101010401020103010101010101010101014141010101010101013101130501010",
               "10O0xQYFpw06C4XW9PXc5X7a8X3aSA1E1611XtAXIaTLYvQVri0V+r0X1"] },
   { names := ["cwcm", "changeswhencasemapped"],
     lines := ["Y1P6PXQ0AM1U1XV1YJ1R2D21104YS1H6Q1110113113142011207020113550A1b60XA321321060",
               "12101J1XE3X0141a48b51X5AX6YuOX510502XA22r0YL25Ya2A5XA22bP030G0ZHaR201ZL252X525",
               "271010101U2XK1610321633254C5216f903160R0HV31vHXJXuMZG11117Z57331CX51050+eIXDIR",
               "a6D2XT9E32241O1T2146O1wS0SYFpw06C4XW9P6PXb5YFZ0X34X3ZKA1E16111A1E1611Xs3XIDXI",
               "YTLALYuQXVrh0XV+q0Y3"] },
   { names := ["cwl", "changeswhenlowercased"],
     lines := ["Y1PZ5M16X10101010101010101010101010101010101010101010101010101010201010101010",
               "101020101010101010101010101010101010101010101010101110103110111223111231111010",
               "111020111210113071111110101010101010102010101010101010102110121010101010101010",
               "1010101010101010101010101010101010101010107111201310101010f10103080601210111G",
               "18X308010101010101010101010105020112XIXG0101010101010101010101010101010109010",
               "101010101010101010101010101010101010101010101010101110101010101020101010101010",
               "101010101010101010101010101010101010101010101010101010101010101010101010101010",
               "10102X5Yw9X51050sIYLYaJ06XA22g001010101010101010101010101010101010101010101010",
               "101010101010101010101010101010101010101010101010101010101010101010101010101010",
               "101010101010101010101010901010101010101010101010101010101010101010101010101010",
               "101010101010101010101010101010101010101010109785A78785B010101087O7878784B4B3C4",
               "B4f903160XDFJ0vIPXvGXFXG01220101013102082101010101010101010101010101010101010",
               "10101010101010101010101010101010101010101010101010101010101010801040+gD0101010",
               "10101010101010101010101010101010101010J010101010101010101010101010a7010101010",
               "101030101010101010101010101010101010101010101010101010101010101010A01011101010",
               "1040102010301010101010101010101414101010101010101310113050101010O0rvBPXc5X7",
               "a8X3aSA1E1611XtAXIaTLYvQVri0V+r0X1"] },
   { names := ["cwt", "changeswhentitlecased"],
     lines := ["Z1PXQ0X9N17101010101010101010101010101010101010101010101010101010102010101010",
               "101011101010101010101010101010101010101010101010101020101220102030502032202010",
               "102040203010203010401111101010101010101011101010101010101012101030101010101010",
               "101010101010101010101010103010101010101010108021104010101015111011311314201120",
               "7020113550A1b60XB0103032I0RX21132101010101010101010101014102020XKXF1010101010",
               "101010101010101010101010901010101010101010101010101010101010101010101010101010",
               "201010101010111010101010101010101010101010101010101010101010101010101010101010",
               "10101010101010101010101010101010XHX6ZpG5Ya2810dE030G0ZI01010101010101010101010",
               "101010101010101010101010101010101010101010101010101010101010101010101010101010",
               "101010101010101010101010101010101010101010101016501010101010101010101010101010",
               "10101010101010101010101010101010101010101010101010101010101010101885A78785A787",
               "8D2787878411603211832187A211gM0X1F40wBPXw6XF10311010106020A0101010101010101010",
               "101010101010101010101010101010101010101010101010101010101010101010101010101010",
               "10801040CX51050+eJ010101010101010101010101010101010101010101010J0101010101010",
               "10101010101010a70101010101010301010101010101010101010101010101010101010101010",
               "10101010101010A010201010101040401120101010101010101010B01010101010101040102030",
               "501010Q0wS0SYFpw06C4XX9PXcDX7a8X3aRA1E1611Xu3XIZTLYvQVri0V+r2X1"] },
   { names := ["cwu", "changeswhenuppercased"],
     lines := ["Z1PXQ0X9N17101010101010101010101010101010101010101010101010101010102010101010",
               "101011101010101010101010101010101010101010101010101020101220102030502032202010",
               "102040203010203010511111101010101010101110101010101010101111103010101010101010",
               "101010101010101010101010301010101010101010802110401010101511101131131420112070",
               "20113550A1b60XB0103032I0RX21132101010101010101010101014102020XKXF101010101010",
               "101010101010101010101090101010101010101010101010101010101010101010101010101020",
               "101010101011101010101010101010101010101010101010101010101010101010101010101010",
               "101010101010101010101010101010XHX6Yw8XA22tO5Ya2810dE030G0ZI0101010101010101010",
               "101010101010101010101010101010101010101010101010101010101010101010101010101010",
               "101010101010101010101010101010101010101010101010101650101010101010101010101010",
               "101010101010101010101010101010101010101010101010101010101010101010101885A78785",
               "A7878D2XK114010321140332187A21140gH0X1F40wBPXw6XF10311010106020A0101010101010",
               "101010101010101010101010101010101010101010101010101010101010101010101010101010",
               "10101010801040CX51050+eJ010101010101010101010101010101010101010101010J0101010",
               "10101010101010101010a70101010101010301010101010101010101010101010101010101010",
               "10101010101010101010A010201010101040401120101010101010101010B01010101010101040",
               "102030501010Q0wS0SYFpw06C4XX9PXcDX7a8X3aRA1E1611Xu3XIZTLYvQVri0V+r2X1"] },
   { names := ["dash"],
     lines := ["XD0XgS0XJ0Zo10XW50YW95XT0X70F0i60ZW4020V140S0jU0J0ZF0XpiG1X50A0b90Zp00fU0"] },
   { names := ["di", "defaultignorablecodepoint"],
     lines := ["bD0r10sC0Yw21XoJ1YL4X-R4Q4XHFadK0XpaRFdF0b00YF8Xlb73bcF7uhq5Z-V"] },
   { names := ["dep", "deprecated"],
     lines := ["g90Xf90Ye3010YX91Yc55rP1xtcM0"] },
   { names := ["dia", "diacritic"],
     lines := ["YU010Y70604021lNaU1755H14091dT4cH0XNG1Q101110a6741a614132Y3QYRAXQAX21ZU7X99GR",
               "XT0G033S0YA0G0ZE0G0ZE0G0XF2XS0G070ZN0ZE0G0ZE0G0ZD1G0ZS0ZF0C510ZB0D4YB1R0101041",
               "Y2211XU0ZG011X8144P610A1s12zK1U0aKA90gR2f40K720XGE2AZ80F0X68XM1XQ0B1Y21Y05YIO",
               "406022XIXUYPBX5AjT012B2D2D2D1ZdG2fT0lQ5Z93YV0zhI0C110S1YI1EX1Z62ZD1C0X50aN0RH",
               "XP3X40YV0C0X40aL2Y13XJ0Z4492a01pvG0u1FeE010XF0XD1Y30tS0XaV51X918pT240b51nR5X60",
               "Q4iF2Y6AXH3c00X90Y81ZO1XU0YC092Z81bI1YG1G0O634YP211D1YV030ZR1dR1ZU0ZM1ZJ0eD1",
               "e2140aS0YJ0I0YH0j50e2011YH0j91N0bdCEhcP0Yk04XR6nK1n2GYG1l-U31611du1XD2Mn023587",
               "26U3Zq2XTc26hN0XT3tU1t06ZD212"] },
   { names := ["emoji"],
     lines := ["X306059ZF040dyD0C0cO0M0YQ5F1hF1C0b60PA42c70d71A090XQ3149020212040201120303182",
               "50105BB1201110I021I5101131502141B15120511011K155132040202510201010603060A1F020",
               "40104210B1XG290E0E0hK1kF2J1XJ040XcQ0C0oP010ZlhA0cA0b01C1E029YBP11N0K028L1bEX1",
               "2ZF21122YI221e61XUB51N7127C0232041D120819052C28220104060306YLXGY5572249301130",
               "29d3B40eRXE191bOZGC395XN7E2A68"] },
   { names := ["ecomp", "emojicomponent"],
     lines := ["X306059d+J0cL0XtfB0Xy+MPlR4XjG3uXpCYV"] },
   { names := ["emod", "emojimodifier"],
     lines := ["Zy-R4"] },
   { names := ["ebase", "emojimodifierbase"],
     lines := ["fmT0cR0G3ZpZN0XS22022ZL12ALI3042127010O0c9140L041bE234YJ0G290B0nV02087609922",
               "XO0XT11110H21Cd52XA8"] },
   { names := ["epres", "emojipresentation"],
     lines := ["euQ1cD33020m91L1XIBXB0J0D081H1518050L0711040207041S0X30104210XT2O0E0wR1XJ040",
               "ZnbE0cA0bU029YBP10O0K02412L1bEX0C81Y51LCXA44CG303Y6101bQ2XUD31NI0Q1D0YMYKXGY5",
               "60322243B178d3B40eRXE191bOZGC395XN7E2A68"] },
   { names := ["extpict", "extendedpictographic"],
     lines := ["b9040dyD0C0cO0M0YQ5F1hF1C0YV0Y60PA42c70d71A090XQ3151B1ZHAZL2A1010603060A1F020",
               "40104210B4XD290E0E0hK1kF2J1XJ040XcQ0C0oP010Zlh6dVD2V0XS5C1E029IXOREA0K028139jH",
               "5fT8e9XGZVZKBYLXAC3XO7A5X87UYHCXE191jOe0-T"] },
   { names := ["ext", "extender"],
     lines := ["bN0mO1xE0jP0pM0a90YP0tG0ZV0Yg30XO0p30iE0Y40ay90XB4Z71YT2xuM0XlM0+20M0a90ZC0L1",
               "rZR0YWG1XkB0R040Xc70f50ZK1lI2XcF0qb91XaS110ygO1XbH0wK2"] },
   { names := ["grbase", "graphemebase"],
     lines := ["X0YUX1C1oHZG72546101J1cV7b51X52XH22XE01020209Q45H9B01XDLF1Z48061204V201TTYOB0",
               "EXA963N4090307E1O501A5UHX9XPXM10138312792S1117212L1610333011612110D1124N501541",
               "2L1611111142O310792210C018121L16111433801130F14B708117212L16111430206121F1124H",
               "B015321331101131323B5011321230LK6217121M1F3033J2202149791A121M1914312011O11149",
               "12EA121X8201152121142194P211H3N18102691667922CXF11B78CX5110141N10191190241099",
               "23X0N2Q10101D1X3I05024XH7151CX5XC4060212O233F4C11251E1X710502hO132610132X813",
               "2X0132610132E1XO132Y25S3P6YL252qS3YO7HDI319HEC12FXJ207711B839696A596YO742X110",
               "5Y5AU43224115703X924BXB4P6A3XO213XN10901185D9696DYMXFA3371S9B2V416XN102210DXF",
               "815E3XT5XA2AB0D0731512205bVY0eL252X525271010101U2XK1E1D251I22181A5N7XGG12Q1C",
               "3X0XVaB4qPMALXuJ2V1gN315XC10502XN71FM9616161616161616X1YTX2P1YOCcLQXP6F1YL4Z4",
               "5XA1YT1YL9XF1ypC3XM9gRKXE40AV2YF258cD211017LF12131O24496XN8Y3ABOC1X58OB0CT6XF",
               "1141211C1A461O1X86121B21710292V1XI1031242010OG27B5252596161XR4ZK1113396gz3CM",
               "4XGee4hD2Z9X66C4501N141011111ZSGjS2XL70X0FG9MX21I13441a64aS2U352525223616D12B",
               "1P1I111E2DX2ZQ524XC3YN1C30XFXCa3S3XGGQ4X39T5X5AT1X44DXAaT296X34X34X78XJBB1E16",
               "111A1E16113XJCfM9LA7O51X918Y55201XB11302M1Y788XGI115X03Q50Y0XN4J2XEF3121SA878",
               "7XVX0X46B9XL3S2Q5P73C6YGY8XNXIDXI7X9C96X58N81cGU1X93021G2XRX78LB8MH43X6RKM90",
               "1XLF64T1120CXG412113EO799X3509H8X212BXJ9017411F1JBH1R314511XV610131E1A6XE12D9",
               "8117212L161114301013212130C6S910201X51011F011301211X7XN81301K1012UXF1160111020",
               "2389b6XE1163202QX4XI811023B96CJXA101181696JSQ3011409MbPXE9020Z4YIC72027111N14",
               "11631299Y672X98313R0AX7614790613XDD028DY879bMX1E9681X5E015AS3VP07020YB6111X5L0",
               "9965111X441101079fMI239E1X3813MYM0FXHDyQZ6ZE14Bc3YoCZ2DXXFH5PZyQ5o6crPTC239",
               "Xs6nO7U194YG196T70AXF7EA9161K5IjGXPc6YQZ5YA5XNBCY03Sb-N8XcLX99et7316111f2F0T2",
               "20E38iBYe4ZA5C38792020Zx0dP6jJaSZJXSdLAX62XR52M17T4XSLY130ZQJCJCYM9Oa7YK1Y611",
               "2021231B10161Y01327161R131410361gJ2f32nHXN3XI71D16XZKU65e5XTaIXCA62941g0TIXB49",
               "50kGR49cMT2A40l0613111E1c428XGY3704941uHY3YCXSc231Q11102019131010604010101211",
               "10201010101011102316131310191G52141GXK1eEXB4Z3CE2E1E1X4AbDXOSDXB4871E5aQ+N4G3C",
               "3ZM4YU6B40FB4XN896X78T2B41XUgJCD2C395XN7E2A687aI1Z5XW6XfsVX0aXP6cT2bq1EdfGFpD",
               "Yj2mTXl2awA5aYV"] },
   { names := ["grext", "graphemeextend"],
     lines := ["u0ZFeJ6e7XC10111110Y8AXGKG0Z56252113X30UQYRAXQ890O3181214XB2XR8XAN1VXN0104740",
               "36A1T0XQ010238090A1Q021XP041412230U130B1XP0441140K1M510XQ011138072A1U0XR010C0",
               "90X8030XN012521371B1T0XQ02110321371B1S1XP110238090A1T0Y8040221080YH026C7Z2028",
               "B6Y91R01010XND14115A1X390Z63151121P142G3D02160F0rV2zI3S2T1U1Y0116802A90XD210",
               "ZL1X20ZM2419062cR120XQ0161010276920XGUXH3XG942X68C1X0325XO0113014XO721aO21C16",
               "406031c6XVmC0c3X0Y-U2aD0Z0VnA5Z91zkK319X01YG1eG03040P150aN1QHD0X67PA10XC2XG023",
               "2120X40Y352121C080XF0XJ012215110XA180dE02040pvG0t1FGFhE1oT0d20aL4Xq621153X8240",
               "b51nT3Y14fT1YF3Y6AXH3ZR0XMEX9021A2XH32170XT2X4417XU0C1XK8108320YV2236020aT037",
               "L1XP11010C090E634Y30251020124210E1YL72210N0YH02510201111dB0236111R1YL72011ZA0",
               "1027Z50102314e3811dL0A340aG32140X09X8523809522XEC11iM61510YIL261111ZQ530111610",
               "Y813010gR1B1XK452N0bd506Ehc8B32Yk04XR6XWO0XV3YH0B1pbB1ap1XD2MmU4358726U3aK2",
               "XzRXM4XH80E0M41EXgG61G261114Z40b06hN0XT3lS3dU1t06ZD6ubsLYVa0dF"] },
   { names := ["grlink", "graphemelink"],
     lines := ["YgD0ZV0ZV0ZV0ZV0ZV0ZV0ZV0ZD1G0ZS0ZF0ZV0c90bK1XsP1U0aT0qD0d30Z51Y61aiB0+q60X50",
               "aN0aE0ZC0fL0dM0toH0Xm60X90E0XP0ZP1aB0ZK0bK0Z20a02ZH0ZV0dS0ZV0ZM0ZK0eD0e31b10",
               "YJ0I0YH0j50e41YH0j91mlC0"] },
   { names := ["hex", "hexdigit"],
     lines := ["XG975Q5X-r9975Q5"] },
   { names := ["hyphen"],
     lines := ["XD0ZV0XcS0apR0YW91Zm50t30Xph70b90YN0"] },
   { names := ["idsb", "idsbinaryoperator"],
     lines := ["h-G129lH0"] },
   { names := ["idst", "idstrinaryoperator"],
     lines := ["h-I1"] },
   { names := ["idsu", "idsunaryoperator"],
     lines := ["h-U1"] },
   { names := ["idcompatmathcontinue"],
     lines := ["bI150dzM03A1EhJ040M0Zjb20P0V0P0V0P0V0P0V0P0"] },
   { names := ["idcompatmathstart"],
     lines := ["em2040M0Zjb20P0V0P0V0P0V0P0V0P0"] },
   { names := ["idc", "idcontinue"],
     lines := ["XG97P401PXF0A010205M1U1k94BE47010HZK11231064101J1YI1aA142b51X5206X88XC10111110",
               "8Q43TA5Y94Z517291I20GXQ2Z4EXL40202XDIR4A5N158YA1a0291I17212L161033282123804114",
               "2BA0102215412L16111111201441223073107FB218121L16111429121220F329961217212L1611",
               "142821227241142910G115321331101131323B4432132060E9GC121M1F2812137112202329G317",
               "121M19142812137161132912CC121XI1214537429A5121H3N181026304510176921DXP5E19X71",
               "10141N101M2410161923X00N169B01010491X34J1H1X390XPY96YD2X510502XA1gC132610132X8",
               "132X0132610132E1XO132Y22298EFGYL253pB2G1P5YA3A7L9LBJCC1211CYJ304129X121A6YO7XA",
               "5Y5AU1B4BAX724BXB4P6AX5R4XU1S2A69D08D1FXHYC39H8CZJCXN893XG2A5XA22G21X65mL252X5",
               "25271010101U2XK1610321633254C5216F1XH1J0S0D0GCXJC403BH0402910256010101F235440",
               "HX8YpNd468CX510502XN70FN96161616161616161Vm52PE14244YL261YU5XA1YTHVXGFm0cjV",
               "Y0rqCY3XD2eC3RKXF491ZIX582Z62Y2211017LXL40JXJCY5A96N301XG2X3CS3Y0EA6U1XM9D296M",
               "3Y8O22F24A5252596161XA1D6ZQ11296gz3CM4XGee4hD2Z9X66C45B1C141011111ZBX1hAIXV2XL",
               "X8B4FGF31O2X041a6J97P401PAYP35252522X3B1P1I111E2DX2ZQY5XKa80a2S3XGF0VVDT5XA5T",
               "2X34714XAaT296X34X34X78XJCA1E16111A1E16113XJCfM9LA7O51X918Y55201XB11302MAM9U",
               "Y1I11ALAPY6XN61Y031157121S2240X0S3SX371TPXLALAIDHZEY8XNXIDXIDX7896X5341MdQX911",
               "31G2XNX0A08X0VLXAKRM9Y6VF9XR70DO796XK19438X3209Y4431C10X3H1X463XU610131E197XQ",
               "596317212L1611141921222060562634B910201X51910201317D1TYA5943UY51089b6XL28N5",
               "X2Y030B9X6XO796JSQ2E4966bPXQZ5Y9L72027111T1128C9Y672XD2711RXU808Y930IY8c7X0F9",
               "681XC18F9OT2L1DY96111XB3011188965111X4111579fMM9G1X834DAYL0YFyPZ6ZEHc3YoCZ0",
               "FXXFGLAZyQ5o6crPXPXs6nO7U196YE196T24BXM93C99K5IjGXC39c6XVa0YA4XO7GY0111B1Eb-N",
               "8XcLX99et7316111f2F0T220E38iBYe4ZA5C387931aYH9m6XD2MmU4358726U3aK2jRYK1Y61120",
               "21231B10161Y01327161R131410361gJ2O1O1U1O1U1O1U1O1U1O172XHm0XM4XH80E0M41EXYGU65",
               "cL61G2611145XTX10ZGXC3D2940g1UHXPkMX9cMXAl5613111E1c4B6X9YB49Xb631Q1110201913",
               "101060401010121110201010101011102316131310191G52141GZfK9XW6XfsVX0aXP6cT2bq1",
               "EdfGFpDYj2mTXl2awA5aYVrtgGdF"] },
   { names := ["ids", "idstart"],
     lines := ["Y1P6PXF0A0405M1U1k94BE47010a141123106012101J1YI1aA8b51X5206X8Y7Q43XDXAX311Z210",
               "F171A220G01TTYOB0OX091405L409030NO7A5N15HX9XQXL30I079FF47212L16103330G0D112E1",
               "A085412L16111111V310J2G8121L16111430I0F1N0B7212L16111430U112F0H015321331101131",
               "323BM0XK7121M1F30Q22021U047121M191430V111F1H8121X820G05282O55H3N181026XQXF11C6",
               "XQ110141N101911902410L3X00XV71X3R4ZJXAK0G5433031724CC0HX510502XA1gC132610132X8",
               "132X0132610132E1XO132Y2X5FGYL253pB2G1P5YA3A7HDIEHEC12FXJX3040Y3YO7X8105Y5AUXHT",
               "24BXB4PXMM9XKYI0YTXEH7XMTD1AXBQX3X92AX32A5XA22X931511305bVY0eL252X52527101010",
               "1U2XK1610321633254C5216ZK0D0GCZ50402910256010101F235440HX8YpNd46331CX510502XN",
               "70GM9616161616161616n62P874244YL441YP135XA1YTHVXGFm0cjVY0rqCY3XD2eC3FA1KXEGU",
               "2YFX782Z62Y2211017LF12131MTXJEXHXU53011BRAMPS7XES0G419A41X8N217KM303XH10312420",
               "10O22A72C5252596161XA1D6ZITgz3CM4XGee4hD2Z9X66C450191C141011111ZBX1hAIXV2XLX8B",
               "ZK41a6X4P6PBYO35252522X3B1P1I111E2DX2ZQY5XKeBS3XGXFVDT5X5AT2X34714XAaTIX34X3",
               "4X78XJCA1E16111A1E16113XJCfM9LA7O51X918Y55201XB11302MAM9UY1I11ALAPY6XN61Y00F3",
               "121SXAS3SX371RRXLALAIDHZEY8XNXIDXIDX3X6R9MdQX961G2XRSA08LXAHXEKRMCXKXP120DXC",
               "X0OQX3T0208X230CXFE3L010X3H1OJ1XV610131E197XEX67212L16111430I0C4U910201X510P0",
               "10XCXKI3K2UXFK110bOXEX93X4XFK0XRXAD0Y7QX56bPXBZKXVV72027111NF010YU72X6G010S0",
               "AX770L0BXDJ0IY8c7X0V81X4H0XHTZG6111X5L0P5111VE0g7IF01C1X1ZS0YFyPZ6ZEHc3YoCZ0",
               "FXXFH5PZyQ5o6crPTXt2nO7UHYEHTIXFG3VK5IjGXCcJXVa0YA50Y2CY0110Sb-N8XcLX99et7316",
               "111f2F0T220E38iBYe4ZA5C3879bx6YK1Y6112021231B10161Y01327161R131410361gJ2O1O1U",
               "1O1U1O1U1O1U1O17XvKU65e5XTaIXCA6G0g1TIXBl4Rd4T20lF613111E1c4XRY370XbK31Q111020",
               "1913101060401010121110201010101011102316131310191G52141Gag4XfsVX0aXP6cT2bq1",
               "EdfGFpDYj2mTXl2awA5aYV"] },
   { names := ["ideo", "ideographic"],
     lines := ["iW61P8E2+5cjVY0qlVse0hD2Z9zeA0Rb-N8XcLX99fZ7iBpe4XfsVX0aXP6cT2bq1EdfGFpDYj2mT",
               "Xl2awA5aYV"] },
   { names := ["joinc", "joincontrol"],
     lines := ["eWC1"] },
   { names := ["loe", "logicalorderexception"],
     lines := ["Zo04ZR4YtG220XadQ12011"] },
   { names := ["lower", "lowercase"],
     lines := ["Z1PXF0A040X4N1710101010101010101010101010101010101010101010101010101011101010",
               "101010101110101010101010101010101010101010101010101010102010122010203140203220",
               "201010201110203010212260202010101010101010111010101010101010112010301010101010",
               "101010101010101010101010101010101010101010101016202110401010101Y41X371U4Z00XB0",
               "103023I0RX21132101010101010101010101014102021XJXF1010101010101010101010101010",
               "101010901010101010101010101010101010101010101010101010101010201010101010111010",
               "101010101010101010101010101010101010101010101010101010101010101010101010101010",
               "10101010101010XGX8Yw7XA13tO5Ya2810ZLbVY10101010101010101010101010101010101010",
               "101010101010101010101010101010101010101010101010101010101010101010101010101010",
               "101010101010101010101010101010101810101010101010101010101010101010101010101010",
               "10101010101010101010101010101010101010101010101010101885A78785A7878D2787878411",
               "603211832187A211ZP0D0GCZD03130R04040218340X1F40wBPXw6XF1031101010401117301010",
               "101010101010101010101010101010101010101010101010101010101010101010101010101010",
               "1010101010101011701040CX51050+eJ010101010101010101010101010101010101010101010",
               "J010101010101010101010101012a501010101010121010101010101010101010101010101010",
               "101010101010101010101010101910102010101010401020121010101010101010101050501010",
               "1010101010401020301010101010M21012vLXA1D6YFpw06C4XX9PXcDX7a8X3aRA1E1611k3022",
               "1X918Xe5XIZTLYvQVri0VviQPQ61HQPQ310161AQPQPQPQPQPQPQPQPQRSO15QO15QO15QO15QO15",
               "10XvK91J65e5XTYbKX1"] },
   { names := ["math"],
     lines := ["XB0G2V0T010XD040X50V0sO220Q122mF2cmD0R2B030D0E3L4B4Y1C403144I04029102560312112",
               "153D10Y4N1511414V1061EeB83K1YQ0UQ10O0B6jT1C945412134E01025B751XP010T392gGXV",
               "e0lVXGK25Xp+S0vN510b20G2T010T010a3063Zj11XnpGYK1Y6112021231B10161Y01327161R13",
               "1410361gJ2f32XHbm031Q1110201913101060401010121110201010101011102316131310191G",
               "52141GXK1"] },
   { names := ["mcm", "modifiercombiningmark"],
     lines := ["XoK120a306031l111230V0"] },
   { names := ["nchar", "noncharactercodepoint"],
     lines := ["X-kGVmE1X--U1X--U1X--U1X--U1X--U1X--U1X--U1X--U1X--U1X--U1X--U1X--U1X--U1X--U1",
               "X--U1X--U1"] },
   { names := ["oalpha", "otheralphabetic"],
     lines := ["w50TCo0D10111110Y8AXGC16G0Z56432140X30UFZ6AZ51381213ZA0XSB366JXM12E1152A1T2XQ6",
               "2121A0A1T2XQ4412140U130B2XQ71211L1M242XQ6212191A1U0XR43212A0X84XP6121281B1T2",
               "XQ6121281B1F0C3XQ61212A0A1T2YB51017I1XT026I0Z302511G0b3I9A1X3ZEB1023N342122633",
               "DB10A3XpK1U1U1U1Y2IbS1X20ZMB48cU4XP92JYA1B2XH4XGEXS2U821XPAXIIiSX1Xs1XJYdMV",
               "+ZK7X21h2080N4YO1XIF10XP0X64SBXD3XGBX50Y3DC081XD2XI0122150XC450dD7pvJ0YYN4Xq62",
               "1153uK3Y10g11YF0e32XLDXD1B2XD890XT2X4BI1XP2XGCE1YS8206020aT9N3XQ62121A0A1YK810",
               "201311Z7C12ZAHdD626T1YIE10ZAAZ7De1CdN511213010aE62540S9XA413IAXEDiN716YJL1DZQ5",
               "3011121030Y241113gS39110XG632mkTGZn001XM73YT1pbC0ex161G261114Z40YbN0X-8P6P6P"] },
   { names := ["odi", "otherdefaultignorablecodepoint"],
     lines := ["wF0ZmF1XoJ1YbF0adU0XpnR0YF8wWW701TZ0ZVdGZmF"] },
   { names := ["ogrext", "othergraphemeextend"],
     lines := ["YjU0O0h60O0Z60O0d8010411191Z70O0ZN0F0YfL0U0XW00501051Z50Y71XWO0aX11+f30ZC0rkT1",
               "an00ZK0e80E090Z0090201250d00C0dH0e60pP0C0Xm30qbE1uhJ165uhrDYV"] },
   { names := ["oidc", "otheridcontinue"],
     lines := ["bN0sF0Z-18Xp80XnH1adD0Xpp90"] },
   { names := ["oids", "otheridstart"],
     lines := ["ca51YaH0L0ZxC1"] },
   { names := ["olower", "otherlowercase"],
     lines := ["bA0F0lL871U4Z00XK0Zi10ZXFXUD0X2X4rH0D0GCcJFwGPXyI1+mU1cI0a1231x2390tWM0221X918",
               "XsZLXT"] },
   { names := ["omath", "othermath"],
     lines := ["YU0xH220Q121dX00R2B0X03O1E1Y1C403144I04029103460312112153354YB423111110142141",
               "4H2110161061f23b8110O0H0jT1C854512134E01025O1XP010T391gM1V9iJLXV3X01XrZ301040",
               "cJ010Xrc1YK1Y6112021231B10161Y01327161R131410361gJ2O1O1U1O1U1O1U1O1U1O172XH",
               "bm031Q1110201913101060401010121110201010101011102316131310191G52141G"] },
   { names := ["oupper", "otheruppercase"],
     lines := ["eh0Fw6PZpZ0P6P6P"] },
   { names := ["patsyn", "patternsyntax"],
     lines := ["X1EA6Q310Q3X2610111011404030N0V0duON8E2I19fHsFb0pLUXZBm0ZVi124OF0XpeD1e51"] },
   { names := ["patws", "patternwhitespace"],
     lines := ["94I0Z40dy81O1"] },
   { names := ["pcm", "prependedconcatenationmark"],
     lines := ["Xm05cN0XH0i01YG0YX+Q0F0"] },
   { names := ["qmark", "quotationmark"],
     lines := ["X2040a30F0dwS7P1Zm70k93D2Xpn13bT040YQ1"] },
   { names := ["radical"],
     lines := ["hq0P1YOCcL"] },
   { names := ["ri", "regionalindicator"],
     lines := ["Zyl6P"] },
   { names := ["sterm", "sentenceterminal"],
     lines := ["X10C0G0Xg90aJ2bK0XB2dM0XT01031f51Xt41uM041u50c61aT1XD050fQ1h23b21A121T2bR1Y11",
               "z40N192ZbF2fI0D0M1jD0zdS0eE1d3030hU1YM1YV0aO1aJ2aG1dP0qn6021XR031b90C0G0Y10",
               "YtK1XdT4XC3bT1ZL3ZV2a1160G1YO111ZC0fA1ZL1hL15EZ91dP2m5010dR1YN1j41rK1YA1ov91",
               "a50Y11B0n91f80pm60dl80"] },
   { names := ["sd", "softdotted"],
     lines := ["Z91c40eP0U0XK0K0g00Z2010ce90XJ0D030a40aT0j50cM1YvI0Zfz51XI1XI1XI1XI1XI1XI1XI1",
               "XI1XI1XI1XI1XI1Ya60fH1Q0"] },
   { names := ["term", "terminalpunctuation"],
     lines := ["X10A010B130vU080m10XP0Y80E012bK0XBA10dB1XM517V0e51XdK1bC045fN1uL7u50ZS2Y71aT2",
               "30X7321fQ1h23b21A112T2bR4XU1z40N192ZbF2fI0D040A01131jC1zdR1eD2d34hU1YM1YV0aN2",
               "aJ2ZV0G1dP0qn6021XP213b90A010B130Y1020XXQ0XG0Xa60c70fM1aO5Y45YP3zO4XC3bT6ZG3",
               "ZV2a1160G1YO4ZC0fA1ZL2C1h633EZ91dP2m5010dR1YN141iU2XD0q51YA1XfB4nlP1a50Y12A0",
               "n91f71pm60dl73"] },
   { names := ["uideo", "unifiedideograph"],
     lines := ["jW0cjVY0qlVsmE11011A0101122YXkMXfsVX0aXP6cT2bq1EdfGFpDaj2awA5aYV"] },
   { names := ["upper", "uppercase"],
     lines := ["Y1PZ5M16X10101010101010101010101010101010101010101010101010101010201010101010",
               "101020101010101010101010101010101010101010101010101110103110111223111231111010",
               "111020111210113070202020101010101010102010101010101010102020121010101010101010",
               "1010101010101010101010101010101010101010107111201310101010f10103080601210111G",
               "18X30223010101010101010101010105020112XIXG01010101010101010101010101010101090",
               "101010101010101010101010101010101010101010101010101011101010101010201010101010",
               "101010101010101010101010101010101010101010101010101010101010101010101010101010",
               "1010102X5Yw9X51050sIYLYaJ06XA22g0010101010101010101010101010101010101010101010",
               "101010101010101010101010101010101010101010101010101010101010101010101010101010",
               "101010101010101010101010109010101010101010101010101010101010101010101010101010",
               "10101010101010101010101010101010101010101010109785A78785B010101087Y83C3C3C4B3",
               "e6040322220346010101323A150QFJ0vIPXvGXFXG0122010101310208210101010101010101010",
               "101010101010101010101010101010101010101010101010101010101010101010101010101010",
               "801040+gD010101010101010101010101010101010101010101010J01010101010101010101010",
               "1010a701010101010103010101010101010101010101010101010101010101010101010101010",
               "1010A0101110101010401020103010101010101010101014141010101010101013101130501010",
               "10O0rvBPXc5X7a8X3aSA1E1611XtAXIaTLYvQVri0Vvj0PQPQPQ01120212317QPQ1132716R11314",
               "1036RPQPQPQPQPQPUOX1OX1OX1OX1OX10afLX1YWEP6P6P"] },
   { names := ["vs", "variationselector"],
     lines := ["cWB210XvlGFwWtGdF"] },
   { names := ["space", "whitespace", "wspace"],
     lines := ["94I0Z40Q0bkV0YhVAT150XF0Zz00"] },
   { names := ["xidc", "xidcontinue"],
     lines := ["XG97P401PXF0A010205M1U1k94BE47010HZK11321064101J1YI1aA142b51X5206X88XC10111110",
               "8Q43TA5Y94Z517291I20GXQ2Z4EXL40202XDIR4A5N158YA1a0291I17212L161033282123804114",
               "2BA0102215412L16111111201441223073107FB218121L16111429121220F329961217212L1611",
               "142821227241142910G115321331101131323B4432132060E9GC121M1F2812137112202329G317",
               "121M19142812137161132912CC121XI1214537429A5121H3N181026304510176921DXP5E19X71",
               "10141N101M2410161923X00N169B01010491X34J1H1X390XPY96YD2X510502XA1gC132610132X8",
               "132X0132610132E1XO132Y22298EFGYL253pB2G1P5YA3A7L9LBJCC1211CYJ304129X121A6YO7XA",
               "5Y5AU1B4BAX724BXB4P6AX5R4XU1S2A69D08D1FXHYC39H8CZJCXN893XG2A5XA22G21X65mL252X5",
               "25271010101U2XK1610321633254C5216F1XH1J0S0D0GCXJC403BH0402910256010101F235440",
               "HX8YpNd468CX510502XN70FN96161616161616161Vm52PE14244YL21221YU5XA1YTHVXGFm0cjV",
               "Y0rqCY3XD2eC3RKXF491ZIX582Z62Y2211017LXL40JXJCY5A96N301XG2X3CS3Y0EA6U1XM9D296M",
               "3Y8O22F24A5252596161XA1D6ZQ11296gz3CM4XGee4hD2Z9X66C45B1C141011111ZBX1aA6cPIXV",
               "2XLX896FGF31O2X1010301010101ZTJ97P401PAYP35252522X3B1P1I111E2DX2ZQY5XKa80a2S",
               "3XGF0VVDT5XA5T2X34714XAaT296X34X34X78XJCA1E16111A1E16113XJCfM9LA7O51X918Y5520",
               "1XB11302MAM9UY1I11ALAPY6XN61Y031157121S2240X0S3SX371TPXLALAIDHZEY8XNXIDXIDX789",
               "6X5341MdQX91131G2XNX0A08X0VLXAKRM9Y6VF9XR70DO796XK19438X3209Y4431C10X3H1X463",
               "XU610131E197XQ596317212L1611141921222060562634B910201X51910201317D1TYA5943UY5",
               "1089b6XL28N5X2Y030B9X6XO796JSQ2E4966bPXQZ5Y9L72027111T1128C9Y672XD2711RXU808Y9",
               "30IY8c7X0F9681XC18F9OT2L1DY96111XB3011188965111X4111579fMM9G1X834DAYL0YFyPZ6ZE",
               "Hc3YoCZ0FXXFGLAZyQ5o6crPXPXs6nO7U196YE196T24BXM93C99K5IjGXC39c6XVa0YA4XO7GY01",
               "11B1Eb-N8XcLX99et7316111f2F0T220E38iBYe4ZA5C387931aYH9m6XD2MmU4358726U3aK2jRYK",
               "1Y6112021231B10161Y01327161R131410361gJ2O1O1U1O1U1O1U1O1U1O172XHm0XM4XH80E0M4",
               "1EXYGU65cL61G2611145XTX10ZGXC3D2940g1UHXPkMX9cMXAl5613111E1c4B6X9YB49Xb631Q11",
               "10201913101060401010121110201010101011102316131310191G52141GZfK9XW6XfsVX0aXP",
               "6cT2bq1EdfGFpDYj2mTXl2awA5aYVrtgGdF"] },
   { names := ["xids", "xidstart"],
     lines := ["Y1P6PXF0A0405M1U1k94BE47010a141132106012101J1YI1aA8b51X5206X8Y7Q43XDXAX311Z210",
               "F171A220G01TTYOB0OX091405L409030NO7A5N15HX9XQXL30I079FF47212L16103330G0D112E1",
               "A085412L16111111V310J2G8121L16111430I0F1N0B7212L16111430U112F0H015321331101131",
               "323BM0XK7121M1F30Q22021U047121M191430V111F1H8121X820G05282O55H3N181026XQXF10D6",
               "XQ110141N101910A02410L3X00XV71X3R4ZJXAK0G5433031724CC0HX510502XA1gC132610132X8",
               "132X0132610132E1XO132Y2X5FGYL253pB2G1P5YA3A7HDIEHEC12FXJX3040Y3YO7X8105Y5AUXHT",
               "24BXB4PXMM9XKYI0YTXEH7XMTD1AXBQX3X92AX32A5XA22X931511305bVY0eL252X52527101010",
               "1U2XK1610321633254C5216ZK0D0GCZ50402910256010101F235440HX8YpNd46331CX510502XN",
               "70GM9616161616161616n62P874244YL621YP135XA1YTHVXGFm0cjVY0rqCY3XD2eC3FA1KXEGU",
               "2YFX782Z62Y2211017LF12131MTXJEXHXU53011BRAMPS7XES0G419A41X8N217KM303XH10312420",
               "10O22A72C5252596161XA1D6ZITgz3CM4XGee4hD2Z9X66C450191C141011111ZBX1aA6cPIXV2XL",
               "X89ZN010301010101ZTX4P6PBXN2U35252522X3B1P1I111E2DX2ZQY5XKeBS3XGXFVDT5X5AT2X3",
               "4714XAaTIX34X34X78XJCA1E16111A1E16113XJCfM9LA7O51X918Y55201XB11302MAM9UY1I11AL",
               "APY6XN61Y00F3121SXAS3SX371RRXLALAIDHZEY8XNXIDXIDX3X6R9MdQX961G2XRSA08LXAHXEKRM",
               "CXKXP120DXCX0OQX3T0208X230CXFE3L010X3H1OJ1XV610131E197XEX67212L16111430I0C4U9",
               "10201X510P010XCXKI3K2UXFK110bOXEX93X4XFK0XRXAD0Y7QX56bPXBZKXVV72027111NF010YU7",
               "2X6G010S0AX770L0BXDJ0IY8c7X0V81X4H0XHTZG6111X5L0P5111VE0g7IF01C1X1ZS0YFyPZ6ZE",
               "Hc3YoCZ0FXXFH5PZyQ5o6crPTXt2nO7UHYEHTIXFG3VK5IjGXCcJXVa0YA50Y2CY0110Sb-N8XcL",
               "X99et7316111f2F0T220E38iBYe4ZA5C3879bx6YK1Y6112021231B10161Y01327161R13141036",
               "1gJ2O1O1U1O1U1O1U1O1U1O17XvKU65e5XTaIXCA6G0g1TIXBl4Rd4T20lF613111E1c4XRY370",
               "XbK31Q1110201913101060401010121110201010101011102316131310191G52141Gag4XfsV",
               "X0aXP6cT2bq1EdfGFpDYj2mTXl2awA5aYV"] }]

def find? (name : String) : Option CharSet := Packed.find? table name

/-- The set of a property of the table, empty for a name that is not there. -/
def set (name : String) : CharSet := (find? name).getD .empty

end AccessControl.Text.Trait
