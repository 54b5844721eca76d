/-
The parts that characters play where a text is cut into clusters, words and sentences. A character
without a part of its own is in no set.
-/
import AccessControl.Text.CharSet.Packed

namespace AccessControl.Text.Break

/-- The parts of characters in clusters, which are what a reader sees as one character. -/
def clusters : List Packed.Entry :=
  [{ names := ["cr"],
     lines := ["D0"] },
   { names := ["cn", "control"],
     lines := ["09111HYVX0D0XhE0alH0X-S021O6XHFXtqF0dGBjXKFXYZ03bcF7uhq5VZ0ZVdGZmF"] },
   { names := ["ex", "extend"],
     lines := ["u0ZFeJ6e7XC10111110Y8AXGKG0Z56252113X30UQYRAXQ890O3181214XB2XR8XAN1VXN0104740",
               "36A1T0XQ010238090A1Q021XP041412230U130B1XP0441140K1M510XQ011138072A1U0XR010C0",
               "90X8030XN012521371B1T0XQ02110321371B1S1XP110238090A1T0Y8040221080YH026C7Z2028",
               "B6Y91R01010XND14115A1X390Z63151121P142G3D02160F0rV2zI3S2T1U1Y0116802A90XD210",
               "ZL1X20ZM2419062cR120XQ0161010276920XGUXH3XG942X68C1X0325XO0113014XO721aO21C16",
               "406031c6XVmC0c3X0Y-U2aD0Z0VnA5Z91zkK319X01YG1eG03040P150aN1QHD0X67PA10XC2XG023",
               "2120X40Y352121C080XF0XJ012215110XA180dE02040pvG0t1FGFhE1oT0d20aL4Xq621153X8240",
               "b51nT3Y14fT1YF3Y6AXH3ZR0XMEX9021A2XH32170XT2X4417XU0C1XK8108320YV2236020aT037",
               "L1XP11010C090E634Y30251020124210E1YL72210N0YH02510201111dB0236111R1YL72011ZA0",
               "1027Z50102314e3811dL0A340aG32140X09X8523809522XEC11iM61510YIL261111ZQ530111610",
               "Y813010gR1B1XK452N0bd506Ehc8B32Yk04XR6XWO0XV3YH0B1pbB1ap1XD2MmU4358726U3aK2",
               "XzRXM4XH80E0M41EXgG61G261114Z40b06hN0XT3lS3dU1t06ZD6YrG4uZX0YVa0dF"] },
   { names := ["l"],
     lines := ["ae0YVXcW0S"] },
   { names := ["lf"],
     lines := ["A0"] },
   { names := ["lv"],
     lines := ["XhW00R0R0R0R0R0R0R0R0R0R0R0R0R0R0R0R0R0R0R0R0R0R0R0R0R0R0R0R0R0R0R0R0R0R0R0R0",
               "R0R0R0R0R0R0R0R0R0R0R0R0R0R0R0R0R0R0R0R0R0R0R0R0R0R0R0R0R0R0R0R0R0R0R0R0R0R0R0",
               "R0R0R0R0R0R0R0R0R0R0R0R0R0R0R0R0R0R0R0R0R0R0R0R0R0R0R0R0R0R0R0R0R0R0R0R0R0R0R0",
               "R0R0R0R0R0R0R0R0R0R0R0R0R0R0R0R0R0R0R0R0R0R0R0R0R0R0R0R0R0R0R0R0R0R0R0R0R0R0R0",
               "R0R0R0R0R0R0R0R0R0R0R0R0R0R0R0R0R0R0R0R0R0R0R0R0R0R0R0R0R0R0R0R0R0R0R0R0R0R0R0",
               "R0R0R0R0R0R0R0R0R0R0R0R0R0R0R0R0R0R0R0R0R0R0R0R0R0R0R0R0R0R0R0R0R0R0R0R0R0R0R0",
               "R0R0R0R0R0R0R0R0R0R0R0R0R0R0R0R0R0R0R0R0R0R0R0R0R0R0R0R0R0R0R0R0R0R0R0R0R0R0R0",
               "R0R0R0R0R0R0R0R0R0R0R0R0R0R0R0R0R0R0R0R0R0R0R0R0R0R0R0R0R0R0R0R0R0R0R0R0R0R0R0",
               "R0R0R0R0R0R0R0R0R0R0R0R0R0R0R0R0R0R0R0R0R0R0R0R0R0R0R0R0R0R0R0R0R0R0R0R0R0R0R0",
               "R0R0R0R0R0R0R0R0R0R0R0R0R0R0R0R0R0R0R0R0R0R0R0R0R0R0R0R0R0R0R0R0R0R0R0R0R0R0R0",
               "R0R0R0R0R0R0R0R0R0R0R0"] },
   { names := ["lvt"],
     lines := ["XhW1Q1Q1Q1Q1Q1Q1Q1Q1Q1Q1Q1Q1Q1Q1Q1Q1Q1Q1Q1Q1Q1Q1Q1Q1Q1Q1Q1Q1Q1Q1Q1Q1Q1Q1Q1Q1Q",
               "1Q1Q1Q1Q1Q1Q1Q1Q1Q1Q1Q1Q1Q1Q1Q1Q1Q1Q1Q1Q1Q1Q1Q1Q1Q1Q1Q1Q1Q1Q1Q1Q1Q1Q1Q1Q1Q1Q1Q",
               "1Q1Q1Q1Q1Q1Q1Q1Q1Q1Q1Q1Q1Q1Q1Q1Q1Q1Q1Q1Q1Q1Q1Q1Q1Q1Q1Q1Q1Q1Q1Q1Q1Q1Q1Q1Q1Q1Q1Q",
               "1Q1Q1Q1Q1Q1Q1Q1Q1Q1Q1Q1Q1Q1Q1Q1Q1Q1Q1Q1Q1Q1Q1Q1Q1Q1Q1Q1Q1Q1Q1Q1Q1Q1Q1Q1Q1Q1Q1Q",
               "1Q1Q1Q1Q1Q1Q1Q1Q1Q1Q1Q1Q1Q1Q1Q1Q1Q1Q1Q1Q1Q1Q1Q1Q1Q1Q1Q1Q1Q1Q1Q1Q1Q1Q1Q1Q1Q1Q1Q",
               "1Q1Q1Q1Q1Q1Q1Q1Q1Q1Q1Q1Q1Q1Q1Q1Q1Q1Q1Q1Q1Q1Q1Q1Q1Q1Q1Q1Q1Q1Q1Q1Q1Q1Q1Q1Q1Q1Q1Q",
               "1Q1Q1Q1Q1Q1Q1Q1Q1Q1Q1Q1Q1Q1Q1Q1Q1Q1Q1Q1Q1Q1Q1Q1Q1Q1Q1Q1Q1Q1Q1Q1Q1Q1Q1Q1Q1Q1Q1Q",
               "1Q1Q1Q1Q1Q1Q1Q1Q1Q1Q1Q1Q1Q1Q1Q1Q1Q1Q1Q1Q1Q1Q1Q1Q1Q1Q1Q1Q1Q1Q1Q1Q1Q1Q1Q1Q1Q1Q1Q",
               "1Q1Q1Q1Q1Q1Q1Q1Q1Q1Q1Q1Q1Q1Q1Q1Q1Q1Q1Q1Q1Q1Q1Q1Q1Q1Q1Q1Q1Q1Q1Q1Q1Q1Q1Q1Q1Q1Q1Q",
               "1Q1Q1Q1Q1Q1Q1Q1Q1Q1Q1Q1Q1Q1Q1Q1Q1Q1Q1Q1Q1Q1Q1Q1Q1Q1Q1Q1Q1Q1Q1Q1Q1Q1Q1Q1Q1Q1Q1Q",
               "1Q1Q1Q1Q1Q1Q1Q1Q1Q1Q1Q"] },
   { names := ["pp", "prepend"],
     lines := ["Xm05cN0XH0i01YG0XZB0YWxE0F0dK1mD0XhD010dO0Y95rS0jR0"] },
   { names := ["ri", "regionalindicator"],
     lines := ["Zyl6P"] },
   { names := ["sm", "spacingmark"],
     lines := ["Ye30XN0228311XI1XR16121XM0XQ2Y20XQ28011XL1XS06121ZI0113212XK2XT3XT1XQ02011XE0",
               "E1XR15212XL1YC166J1XV0ZV0aA1XV0bH091P1XC0XvH07711gQ3224115d01XQ010L5aH0XP3Y00",
               "U041XV02210XL781bB0L0XYvB120YO1XIFaE0XG0XG14121ZF121O0aT02150dD1111110vWJ010",
               "ZV0XD241ZJ0O1XR0XG290E0YT231bC2V1XR0132121L1YL1F011Z728130ZB160111020dE16320",
               "ZH28110ZD011ZE070e5290dO4117010aE28340YK0T1XU0iN0E0ZA07020cL44110gU1C0XG181",
               "mlA2Zn4XM"] },
   { names := ["t"],
     lines := ["aj8YNXnkBXG"] },
   { names := ["v"],
     lines := ["ah0Y7Xnm8MXbiS033"] },
   { names := ["zwj"],
     lines := ["eWD0"] }]

/-- The parts of characters in words. -/
def words : List Packed.Entry :=
  [{ names := ["le", "aletter"],
     lines := ["Y1P6PXF0A0405M1U1kV6X1ZG41123106012101J1YI1aA8b51X523101X810Z80XCXAX311Z210F1",
               "71A220F11TTYOB0OX091405L409030NO7A5N15HX9XQXL30I079FF47212L16103330G0D112E1A0",
               "85412L16111111V310J2G8121L16111430I0F1N0B7212L16111430U112F0H01532133110113132",
               "3BM0XK7121M1F30Q22021U047121M191430V111F1H8121X820G05282O55H3N181026fP0XV71X3",
               "R4eJX510502XA1gC132610132X8132X0132610132E1XO132Y2X5FGYL253pB2G1P5YA3A7HDIEHEC",
               "12bFYO742X1105Y5AUd1MdEXEH7XMTD1AXBQX3X92AX32A5XA22X931511305bVY0eL252X5252710",
               "10101U2XK1610321633254C5216ZK0D0GCZ5040291034601010131A235440HX8vDXJXuMd46331",
               "CX510502XN70GM9616161616161616YG0kL0XL1c8XA1YTHVxo0XaCY3XD2eC3FA1KXEGU2YFOc521",
               "1017LF12131MTXJEXHXU53011BRAMPS7XES0XGX8N217aKA72C5252596161XP6ZITgz3CM4XGeu46",
               "C4XOZ1X1hAIXV2XLX8BZK41a6X4P6PY5U35252522X3B1P1I111E2DX2ZQY5XKeBS3XGXFVDT5X5AT",
               "2X34714XAaTIX34X34X78XJCA1E16111A1E16113XJCfM9LA7O51X918Y55201XB11302MAM9UY1I",
               "11ALAPY6XN61Y00F3121SXAS3SX371RRXLALAIDHZEY8XNXIDXIDX3X6R9MdQX961G2XRSA08LXAH",
               "XEKRMCXKXP120DXCX0OQX3T0208X230CXFE3L010X3H1OJ1XV610131E197XEX67212L16111430I0",
               "C4U910201X510P010XCXKI3K2UXFK110bOXEX93X4XFK0XRXAD0g7XBZKXVV72027111NF010YU7",
               "2X6G010S0AX770L0BXDJ0IY8c7X0V81X4H0XHTZG6111X5L0P5111VE0g7IF01C1X1ZS0YFyPZ6ZE",
               "Hc3YoCZ0FXXFH5PZyQ5o6crPTXt2nO7UHYEHTIXFG3VK5IjGXCcJXVa0YA50Y2CY0110pWSZA5C38",
               "79bx6YK1Y6112021231B10161Y01327161R131410361gJ2O1O1U1O1U1O1U1O1U1O17XvKU65e5XT",
               "aIXCA6G0g1TIXBl4Rd4T20lF613111E1c4XRY370XbK31Q11102019131010604010101211102010",
               "10101011102316131310191G52141GpKP6P6P"] },
   { names := ["cr"],
     lines := ["D0"] },
   { names := ["dq", "doublequote"],
     lines := ["X20"] },
   { names := ["extend"],
     lines := ["u0ZFeJ6e7XC10111110Y8AXGKG0Z56252113X30UQYRAXQ890O3181214XB2XR8XAN1X0XM21H16A1",
               "T2XO016212290A1Q022XO014412230U130B2XO0171212K1M512XO016212272A1U0XR4321390X84",
               "XN016121371B1T2XO016121371B1F0C3XN116121390A1T2Y60451017I1XT026C7Z2028B6Y91R0",
               "101041XHJ115A1X390Z4JN342122633DB10A3rV2zI3S2T1U1Y0V90XD210ZL1X20ZMB4BcR4XP91S",
               "20XGUXH4XFGX68C2UCXODXGJaO21K406022c6XVmC0c3X0Y-U2aD0Z0VnA5Z91zkK319X01YG1eG0",
               "3040N440YJ1XIHQHD0X67PCXC3XFDX40Y3DC081XD2XI012215110X9451dC711pvG0t1FGFhE1oT0",
               "d20aL4Xq621153X8240b51nT3Y14fT1YF3Y6AXH3ZQ2XLEX9021A3XDA70XT2X4DG1XC0C2XGD8311",
               "YSB6020aTBL3XN116212290A12634Y381020131410E1YIHN0YHJdB628R1YIGZACZ5Ee0EdL51123",
               "1011aD62630S9X8613809AXEFiL717YIL1DZQ530111610Y241114gR39110XG634N0bd506Ehc8H",
               "Yk04XR6XWO01XM73YH0B1pbB1ap1XD2MmU4358726U3aK2XzRXM4XH80E0M41EXgG61G261114Z40",
               "b06hN0XT3lS3dU1t06ZD6YrG4uZX0YVa0dF"] },
   { names := ["ex", "extendnumlet"],
     lines := ["YV0d+F0F1J0XtkU1O2dF0"] },
   { names := ["fo", "format"],
     lines := ["bD0XhE0alH0X-V1Q4XH419XtqF0dP2jXKFXYZ03bcF7uhq60"] },
   { names := ["hl", "hebrewletter"],
     lines := ["XkGQ43XzfA0191C1410111119"] },
   { names := ["ka", "katakana"],
     lines := ["iXH4Z513YQ13dGFcGXE1YNXpWEXNXiYI3161110eV2XI0E3"] },
   { names := ["lf"],
     lines := ["A0"] },
   { names := ["ml", "midletter"],
     lines := ["XQ0ZS0sF0kN0aK0cnI0XtlB0Y10c40"] },
   { names := ["mn", "midnum"],
     lines := ["XC0E0w20mA0a21YU0iB0cYB0XtmB030bN0E0"] },
   { names := ["mb", "midnumlet"],
     lines := ["XE0d-91A0XtnD0bK060"] },
   { names := ["nl", "newline"],
     lines := ["B1ZO0dz21"] },
   { names := ["nu", "numeric"],
     lines := ["XG9Xk65YQ910ZH0I9c69c61YG0a39ZM9ZM9ZM9ZM9ZM9ZM9ZM9ZM9ZM9Z09ZM9Y69eM9Y69Xw69X69",
               "fC9a0Ab5969bM9YM9a6969XYk69r69X69c69M9YM9iM9quM9Xi69Ya6969uS9YD0F0X29XS9aG9eM9",
               "gM9ZM9hM9Z696JYC9j69Z69qM9YM9dM9Y69j69mkM9Yf69YM9a69mM9txM9YsKXHYg09j69lM9dN9",
               "wL9aqM9"] },
   { names := ["ri", "regionalindicator"],
     lines := ["Zyl6P"] },
   { names := ["sq", "singlequote"],
     lines := ["X70"] },
   { names := ["wsegspace"],
     lines := ["X00boV0YhV612YK0Zz00"] },
   { names := ["zwj"],
     lines := ["eWD0"] }]

/-- The parts of characters in sentences. -/
def sentences : List Packed.Entry :=
  [{ names := ["at", "aterm"],
     lines := ["XE0d-L0XtnD0bR0"] },
   { names := ["cr"],
     lines := ["D0"] },
   { names := ["cl", "close"],
     lines := ["X2042XH010T010XD0F0ZpU3XwT1YhR7P1A1XM1E1pP3T1XXG57DYF1V9iJLXV3X01XW2DE129O0I7",
               "jB92712XpeU1cN1SF21G5b91XH010T0101111XzuI2"] },
   { names := ["ex", "extend"],
     lines := ["u0ZFeJ6e7XC10111110Y8AXGKG0Z56252113X30UQYRAXQ890O3181214XB2XR8XAN1X0XM21H16A1",
               "T2XO016212290A1Q022XO014412230U130B2XO0171212K1M512XO016212272A1U0XR4321390X84",
               "XN016121371B1T2XO016121371B1F0C3XN116121390A1T2Y60451017I1XT026C7Z2028B6Y91R0",
               "101041XHJ115A1X390Z4JN342122633DB10A3rV2zI3S2T1U1Y0V90XD210ZL1X20ZMB4BcR4XP91S",
               "20XGUXH4XFGX68C2UCXODXGJaO21K406022c6XVmC1c2X0Y-U2aD0Z0VnA5Z91zkK319X01YG1eG0",
               "3040N440YJ1XIHQHD0X67PCXC3XFDX40Y3DC081XD2XI012215110X9451dC711pvG0t1FGFhE1oT0",
               "d20aL4Xq621153X8240b51nT3Y14fT1YF3Y6AXH3ZQ2XLEX9021A3XDA70XT2X4DG1XC0C2XGD8311",
               "YSB6020aTBL3XN116212290A12634Y381020131410E1YIHN0YHJdB628R1YIGZACZ5Ee0EdL51123",
               "1011aD62630S9X8613809AXEFiL717YIL1DZQ530111610Y241114gR39110XG634N0bd506Ehc8H",
               "Yk04XR6XWO01XM73YH0B1pbB1ap1XD2MmU4358726U3aK2XzRXM4XH80E0M41EXgG61G261114Z40",
               "b06hN0XT3lS3dU1t06ZD6ubsLYVa0dF"] },
   { names := ["fo", "format"],
     lines := ["bD0XhE0dI0adU0X-S021Q4XH419XtqF0dP2jXKFXYZ03bcF7uhq60"] },
   { names := ["lf"],
     lines := ["A0"] },
   { names := ["lo", "lower"],
     lines := ["Z1PXF0A040X4N1710101010101010101010101010101010101010101010101010101011101010",
               "101010101110101010101010101010101010101010101010101010102010122010203140203220",
               "201010201110203010212260202010101010101010111010101010101010112010301010101010",
               "101010101010101010101010101010101010101010101016202110401010101Y41X371U4aC010",
               "3023I0RX21132101010101010101010101014102021XJXF101010101010101010101010101010",
               "101090101010101010101010101010101010101010101010101010101020101010101011101010",
               "101010101010101010101010101010101010101010101010101010101010101010101010101010",
               "101010101010XGX8YxJ0tR5Ya2810ZLbVY10101010101010101010101010101010101010101010",
               "101010101010101010101010101010101010101010101010101010101010101010101010101010",
               "101010101010101010101010101810101010101010101010101010101010101010101010101010",
               "10101010101010101010101010101010101010101010101885A78785A7878D2787878411603211",
               "832187A211ZP0D0GCZD03130R04040218340X1F40wBPXw6XF1031101010401117301010101010",
               "101010101010101010101010101010101010101010101010101010101010101010101010101010",
               "1010101011701040CX51050+eJ010101010101010101010101010101010101010101010J01010",
               "1010101010101010101012a501010101010121010101010101010101010101010101010101010",
               "101010101010101010101910102010101010401020121010101010101010101050501010101010",
               "1010401020301010101010M21012vLXA1D6YFpw06C4XX9PXcDX7a8X3aRA1E1611k30221X918",
               "Xe5XIZTLYvQVri0VviQPQ61HQPQ310161AQPQPQPQPQPQPQPQPQRSO15QO15QO15QO15QO1510XvK9",
               "1J65e5XTYbKX1"] },
   { names := ["nu", "numeric"],
     lines := ["XG9Xk65YQ911ZG0I9c69c61YG0a39ZM9ZM9ZM9ZM9ZM9ZM9ZM9ZM9ZM9Z09ZM9Y69eM9Y69Xw69X69",
               "fC9a0Ab5969bM9YM9a6969XYk69r69X69c69M9YM9iM9quM9Xi69Ya6969uS9YD0F0X29XS9aG9eM9",
               "gM9ZM9hM9Z696JYC9j69Z69qM9YM9dM9Y69j69mkM9Yf69YM9a69mM9txM9YsKXHYg09j69lM9dN9",
               "wL9aqM9"] },
   { names := ["le", "oletter"],
     lines := ["jR043cG0X466BQ010a50l40ZMQ44XCXAX311Z210F171A220G01TTYOB0OX091405L409030NO7A5N",
               "15HX9XQXL30I079FF47212L16103330G0D112E1A085412L16111111V310J2G8121L16111430I0",
               "F1N0B7212L16111430U112F0H015321331101131323BM0XK7121M1F30Q22021U047121M191430",
               "V111F1H8121X820G05282O55H3N181026XQXF11C6XQ110141N101911902410L3X00XV71X3R4",
               "ZJXAK0G5433031724CC0Y1XA2gB132610132X8132X0132610132E1XO132Y2X5FZHpB2G1P5YA3A",
               "7HDIEHEC12FXJX3040Y3YO742X1105Y5AUXHT24BXB4PXMM9XKYI0YTXEH7XMTD1AXBQX3X92AX3",
               "IXA22X93151130XXQ3Y7223Yz7XN70GM9616161616161616YG0kL2P874244YL621YP135XA1YTHV",
               "XGFm0cjVY0rqCY3XD2eC3FA1Y20G0X0YFX78Z8060Z703612131MTXJEXHXU53011BRAMPS7XES0G4",
               "19A41X8N217KM303XH1031242010O22A72C525259616aHX2Tgz3CM4XGee4hD2Z9Y30191C141011",
               "111ZBX1hAIXV2XLX8BZK41a6Z9XN2U35252522X3B1P1I111E2DX2ZQY5XKeBS3XGXFVDT5X5AT2X3",
               "4714ZQYDZ2X78XJYSXJCfM9LA7P1ZT5201XB11302MAM9UY1I11ALAPY6XN61Y00F3121SXAS3SX37",
               "1RRXLALAIDHZEY8bNX3X65V0eGX961G2XRSA08LXAHXEKRMCXKXP120DXCX0OQX3T0208X230CXFE3",
               "L010X3H1OJ1XV610131E197XEX67212L16111430I0C4U910201X510P010XCXKI3K2UXFK110bOXE",
               "X93X4XFK0XRXAD0Y7QX56bPXBcJ72027111NF010YU72X6G010S0AX770L0BXDJ0IY8c7X0V81X4H0",
               "XHTZG6111X5L0P5111VE0g7IF01C1X1ZS0YFyPZ6ZEHc3YoCZ0FXXFH5PZyQ5o6crPTXt2nO7UHYE",
               "HTIXFG3VK5IjGXCiJYA50Y2CY0110Sb-N8XcLX99et7316111f2F0T220E38iBYe4ZA5C3879epG0",
               "lLXCA6G0g1TIXBl4Rd4T20lF613111E1c4a60XbK31Q1110201913101060401010121110201010",
               "101011102316131310191G52141Gag4XfsVX0aXP6cT2bq1EdfGFpDYj2mTXl2awA5aYV"] },
   { names := ["sc", "scontinue"],
     lines := ["XC1C1w20kU0bE1lA0aW9050YWA1Z-C0XpmE111S1T12120A0b81C1Y80"] },
   { names := ["st", "sterm"],
     lines := ["X10T0Xg90aJ2bK0XB2dM0XT01031f51Xt41uM041u50c61aT1XD050fQ1h23b21A121T2bR1Y11zS1",
               "92ZbF2fI0D0M1jD0zdS0eE1d3030hU1YM1YV0aO1aJ2aG1dP0qn6021XV1b90T0Y10YtK1XdT4XC3",
               "bT1ZL3ZV2a1160G1YO111ZC0fA1ZL1hL15EZ91dP2m5010dR1YN1j41rK1YA1ov91a50Y11B0n91",
               "f80pm60dl80"] },
   { names := ["se", "sep"],
     lines := ["a50dz21"] },
   { names := ["sp"],
     lines := ["9011J0ZV0bkV0YhVAX40XF0Zz00"] },
   { names := ["up", "upper"],
     lines := ["Y1PZ5M16X10101010101010101010101010101010101010101010101010101010201010101010",
               "101020101010101010101010101010101010101010101010101110103110111223111231111010",
               "111020111210113071111110101010101010102010101010101010102110121010101010101010",
               "1010101010101010101010101010101010101010107111201310101010f10103080601210111G",
               "18X30223010101010101010101010105020112XIXG01010101010101010101010101010101090",
               "101010101010101010101010101010101010101010101010101011101010101010201010101010",
               "101010101010101010101010101010101010101010101010101010101010101010101010101010",
               "1010102X5Yw9X51050sIYLYaJ0hM0101010101010101010101010101010101010101010101010",
               "101010101010101010101010101010101010101010101010101010101010101010101010101010",
               "101010101010101010101090101010101010101010101010101010101010101010101010101010",
               "1010101010101010101010101010101010101010109785A78785B010101087O7878784B4B3C4B4",
               "e5040322220346010101323A150QFJ0vIPXvGXFXG0122010101310208210101010101010101010",
               "101010101010101010101010101010101010101010101010101010101010101010101010101010",
               "801040+gD010101010101010101010101010101010101010101010J01010101010101010101010",
               "1010a701010101010103010101010101010101010101010101010101010101010101010101010",
               "1010A0101110101010401020103010101010101010101014141010101010101013101130501010",
               "10O0rvBPXc5X7a8X3aSA1E1611XtAXIaTLYvQVri0Vvj0PQPQPQ01120212317QPQ1132716R11314",
               "1036RPQPQPQPQPQPUOX1OX1OX1OX1OX10afLX1YWEP6P6P"] }]

end AccessControl.Text.Break
