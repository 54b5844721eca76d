/-
The general categories of characters, their groups and their names.
-/
import AccessControl.Text.CharSet.Packed

namespace AccessControl.Text

/-- The general categories of Unicode, without the one of surrogates, which are no characters. -/
inductive Category
  | uppercaseLetter
  | lowercaseLetter
  | titlecaseLetter
  | modifierLetter
  | otherLetter
  | nonspacingMark
  | spacingMark
  | enclosingMark
  | decimalNumber
  | letterNumber
  | otherNumber
  | connectorPunctuation
  | dashPunctuation
  | openPunctuation
  | closePunctuation
  | initialPunctuation
  | finalPunctuation
  | otherPunctuation
  | mathSymbol
  | currencySymbol
  | modifierSymbol
  | otherSymbol
  | spaceSeparator
  | lineSeparator
  | paragraphSeparator
  | control
  | format
  | privateUse
  | unassigned
deriving DecidableEq, Repr

namespace Category

def all : List Category :=
  [.uppercaseLetter, .lowercaseLetter, .titlecaseLetter, .modifierLetter,
   .otherLetter, .nonspacingMark, .spacingMark, .enclosingMark,
   .decimalNumber, .letterNumber, .otherNumber, .connectorPunctuation,
   .dashPunctuation, .openPunctuation, .closePunctuation, .initialPunctuation,
   .finalPunctuation, .otherPunctuation, .mathSymbol, .currencySymbol,
   .modifierSymbol, .otherSymbol, .spaceSeparator, .lineSeparator,
   .paragraphSeparator, .control, .format, .privateUse,
   .unassigned]

/-- The short name, the long name and any further name. -/
def names : Category → List String
  | .uppercaseLetter => ["lu", "uppercaseletter"]
  | .lowercaseLetter => ["ll", "lowercaseletter"]
  | .titlecaseLetter => ["lt", "titlecaseletter"]
  | .modifierLetter => ["lm", "modifierletter"]
  | .otherLetter => ["lo", "otherletter"]
  | .nonspacingMark => ["mn", "nonspacingmark"]
  | .spacingMark => ["mc", "spacingmark"]
  | .enclosingMark => ["me", "enclosingmark"]
  | .decimalNumber => ["nd", "decimalnumber", "digit"]
  | .letterNumber => ["nl", "letternumber"]
  | .otherNumber => ["no", "othernumber"]
  | .connectorPunctuation => ["pc", "connectorpunctuation"]
  | .dashPunctuation => ["pd", "dashpunctuation"]
  | .openPunctuation => ["ps", "openpunctuation"]
  | .closePunctuation => ["pe", "closepunctuation"]
  | .initialPunctuation => ["pi", "initialpunctuation"]
  | .finalPunctuation => ["pf", "finalpunctuation"]
  | .otherPunctuation => ["po", "otherpunctuation"]
  | .mathSymbol => ["sm", "mathsymbol"]
  | .currencySymbol => ["sc", "currencysymbol"]
  | .modifierSymbol => ["sk", "modifiersymbol"]
  | .otherSymbol => ["so", "othersymbol"]
  | .spaceSeparator => ["zs", "spaceseparator"]
  | .lineSeparator => ["zl", "lineseparator"]
  | .paragraphSeparator => ["zp", "paragraphseparator"]
  | .control => ["cc", "control", "cntrl"]
  | .format => ["cf", "format"]
  | .privateUse => ["co", "privateuse"]
  | .unassigned => ["cn", "unassigned"]

/-- The code points of each category, packed. -/
def lines : Category → List String
  | .uppercaseLetter =>
    ["Y1PZ5M16X10101010101010101010101010101010101010101010101010101010201010101010101020",
     "101010101010101010101010101010101010101010101110103110111223111231111010111020111210",
     "113070202020101010101010102010101010101010102020121010101010101010101010101010101010",
     "1010101010101010101010107111201310101010f10103080601210111G18X3022301010101010101010",
     "1010105020112XIXG0101010101010101010101010101010109010101010101010101010101010101010",
     "101010101010101010101110101010101020101010101010101010101010101010101010101010101010",
     "10101010101010101010101010101010101010101010102X5Yw9X51050sIYLYaJ06XA22g001010101010",
     "101010101010101010101010101010101010101010101010101010101010101010101010101010101010",
     "101010101010101010101010101010101010101010101010101010901010101010101010101010101010",
     "101010101010101010101010101010101010101010101010101010101010101010109785A78785B01010",
     "1087Y83C3C3C4B3e6040322220346010101323A150XT0YpSXFXG0122010101310208210101010101010",
     "101010101010101010101010101010101010101010101010101010101010101010101010101010101010",
     "801040+gD010101010101010101010101010101010101010101010J010101010101010101010101010",
     "a7010101010101030101010101010101010101010101010101010101010101010101010101010A01011",
     "1010101040102010301010101010101010101414101010101010101310113050101010O0rvBPXc5X7",
     "a8X3aSA1E1611XtAXIaTLYvQVri0Vvj0PQPQPQ01120212317QPQ1132716R113141036RPQPQPQPQPQPUO",
     "X1OX1OX1OX1OX10afLX1"]
  | .lowercaseLetter =>
    ["Z1PXQ0X9N17101010101010101010101010101010101010101010101010101010111010101010101011",
     "101010101010101010101010101010101010101010101020101220102031402032202010102011102030",
     "102122602020101010101010101110101010101010101120103010101010101010101010101010101010",
     "10101010101010101010101016202110401010101Y41Qc10103032I0RX2113210101010101010101010",
     "1014102021XJXF1010101010101010101010101010101010901010101010101010101010101010101010",
     "101010101010101010201010101010111010101010101010101010101010101010101010101010101010",
     "10101010101010101010101010101010101010101010XGX8Yw7XA22tO5Ya2810ZLXBXVC1X1Z60101010",
     "101010101010101010101010101010101010101010101010101010101010101010101010101010101010",
     "101010101010101010101010101010101010101010101010101010101810101010101010101010101010",
     "10101010101010101010101010101010101010101010101010101010101010101010101885A78785A787",
     "8D2787878411603211832187A211eI03130R04040218340XL0YrBXF1031101010401115501010101010",
     "101010101010101010101010101010101010101010101010101010101010101010101010101010101010",
     "1011701040CX51050+eJ010101010101010101010101010101010101010101010J01010101010101010",
     "1010101010a701010101010121010101010101010101010101010101010101010101010101010101010",
     "101017101020101010104010201210101010101010101010505010101010101010401020301010101010",
     "Q030vLXA587YFpw06C4XX9PXcDX7a8X3aRA1E1611Xu3XIZTLYvQVri0VviQPQ61HQPQ310161AQPQPQPQP",
     "QPQPQPQPQRSO15QO15QO15QO15QO1510XvK91J65YlNX1"]
  | .titlecaseLetter =>
    ["k502020X60diL78787C0F0XF0"]
  | .modifierLetter =>
    ["rGH4BE47010a5050kU0d60b41eD140V09030b00b70XcK0ZV0nL0XsQ0ZB0p30kG5bEXUD0X2X4rH0D0GC",
     "Y+V1dH0bV0kL0XB450Z11YT2xuM0Xd25eE0ZI0S1ZP8YG0N0Z9231kL0M0a90ZC0L1Z7390rW60XD1X-05",
     "1X918XiJ0X00tkG3lS2X81n6CY0110mWC31611iXHXTc96zD0XYV0"]
  | .otherLetter =>
    ["bA0F0e0043cG0vRQ43XDV19X311Z210O1A220G01TTYOB0OX0LLXAO7A5N15HX8XRXL30I079GE47212L16",
     "103330G0D112E1A085412L16111111V310J2G8121L16111430I0F1N0B7212L16111430U112F0H0153213",
     "31101131323BM0XK7121M1F30Q22021U047121M191430V111F1H8121X820G05282O55H3N181026XQXF11",
     "C5XR110141N1019119024N3X00XV71X3R4ZJXAK0G5433031724CC0ZHg8132610132X8132X0132610132E",
     "1XO132Y2X5FZHpB2G1P5YA677HDIEHEC12FXJX80Y3X21XK742X1105Y5AUXHT24BXB4PXMM9XKbGXEH7XMT",
     "D1AXBQX3X92ATZH3151130XXQ3Y-NXNOM9616161616161616n70XL04YL801YP405XA1YTHVXGFm0cjV",
     "Y0qmK1XZMY3X78eB4FA1Y20XHY5b90Z703612131MTXJEXHXU53011BRAMPS7XEXD428A41X8N217KF1530",
     "3XH1031242010O13A70E525259616aHX2Tgz3CM4XGee4hD2Z9Y30191C141011111ZBX1hAIXV2XLX8BZK4",
     "1a6Z991XC2U35252522X3B1P1I111E2DX2ZQi5S3XGXFVDJ176X5AT2X347a0YDZ2X78XJYSXJCfM9LA7aO5",
     "201XB11302MAM9UY1I11ALAPY6XN61Y00F3121SXAS3SX371RRXLALAIDHZEY8bNX3X6310fGX961G2XRSA0",
     "8LXAHXEKRMCXKXP120DXCX0OQX3T0208X230CXFE3L010X3H1OJ1XV610131E197XEX67212L16111430I0",
     "C4U910201X510P010XCXKI3K2UXFK110bOXEX93X4XFK0XRXAD0Y7QX56bPXBcJ72027111NF010YU72X6G0",
     "10S0AX770L0BXDJ0IY8c7X0V81X4H0XHTZG6111X5L0P5111VE0g7IF01C1X1ZS0YFyPd6c3YoCZ0FXXFH5",
     "PZyQ5o6crPTXt2nO7UHYEHTIXFXJK5IjJX7iLYA50bFb-N8XcLX99etNf2F0T220E38iBYe4ZA5C3879epG0",
     "lLXCX10g1TIXBl4Qd5T20lF613111E1c4XfR31Q11102019131010604010101211102010101010111023",
     "16131310191G52141Gag4XfsVX0aXP6cT2bq1EdfGFpDYj2mTXl2awA5aYV"]
  | .nonspacingMark =>
    ["u0ZFeJ4e9XC10111110Y8AXGKG0Z56252113X30UQYRAXQ890O3181214XB2XR8XAN1VXN010474036A1T0",
     "XQ04380K1Q021XP041412230U130B1XP0441140K1M510XQ020138071B1U0XT0C0XI030XN012521371B1",
     "T0XQ0206051K1S1XP14380K1T0Y807210YQ026C7Z2028B6Y91R01010XND14115A1X390Z63151121P142",
     "G3D02160F0rV2zI2T1U1U1Y0116802A90XD210ZL1X20ZM2419062cR120XQ0161010276920XGD1FXH3XG0",
     "141050X88C1X032112XO0113012XQ721aO21C16406031c6XVsGC403BY-U2aD0Z0VnA3ZB1zkK049X01YG1",
     "eG03040P150aN1QHD0X67PAXE2XG02321X70Y352121C080XF0XJ012215110XA180dE02040pvG0t1FGF",
     "+D0d20aL4Xq621153X8240b51nT3Y14fT1YF3Y6AXH3ZR0XMEX9021A2XH32170XT2X4417XU0C1XK8A320",
     "YV220116020aT037L1XP130X5634Y65D01010E1YL72210N0YK5104111dE36111R1YL72011ZA0102510",
     "Z50102314e3811e011040aG32140X09X8523809522XEC11iM61510YIL261111ZQ530111610Y813010gR1",
     "B1XK45010N0bd506Ehc8B32Yk04XR6XWO0XV3YH0pbO1ap1XD2Mn02H726U3aK2XzRXM4XH80E0M41EXgG6",
     "1G261114Z40b06hN0XT3lS3dU1t06ZD6ubzLdF"]
  | .spacingMark =>
    ["Ye30XN0228311XI1XQ26121A0XB0XQ2Y20XQ28011XL1XQ0106121A0Z61113212A0X92XT3XT1XQ0142111",
     "91S0E1XQ25212A0XA1YB267I1gA1XV0bB1406021P1A226L12520A2XpO0U0a107711gQ3224115d01XQ010",
     "901185aH0XG0501411XT0U04120XS0221031XG781bB0L0avM1z-J120YO1XIFaE1XF0XG14122ZE121O0",
     "XD010ZD02150dD1111110vWJ010ZV0XD241ZJ0O1XR0XG291D0YT23110bA2V1XQ113212290A1YK2702013",
     "1110Z528130ZA2601320dD26320ZH28110ZD01160Z701140e5290dN511402010aE28340YK0T1XU0iN0E0",
     "ZA07020cL44110gU1C0XG18110ml82Zn4XMZ81uhJ165"]
  | .enclosingMark =>
    ["Xa81bnK0XmU312XXiB2"]
  | .decimalNumber =>
    ["XG9Xn69a69c69iS9ZM9ZM9ZM9ZM9ZM9ZM9ZM9ZM9ZM9Z09ZM9Y69eM9Y69Xw69X69fC9a09b6969bM9YM9",
     "a6969XYk69r69X69c69M9YM9iM9quM9Xi69Ya6969uS9a09XS9aG9eM9gM9ZM9hM9Z696JYC9j69Z69qM9",
     "YM9dM9Y69j69mkM9Yf69YM9a69mM9txM9YsKXHYg09j69lM9dN9wL9aqM9"]
  | .letterNumber =>
    ["btE2YpFX223ZpU0P8E2zrB9soGXKkC080a64eXAZE"]
  | .otherNumber =>
    ["bI15022YfL5hO5ZO2a56cP6H8jH9XXLJXZJ9l00XqL03569c6FX90sMXRYELpMTXh90XaK3aA9U71EX09X7E",
     "zhG5scHXCY13H1gLQX43XfK7P6X78YB4M5b012F2XDY08XK1U2YB4Z87O7X96gA5h0UaU9XA3ZG6a6JhRJ",
     "Xg51jE8x7IwJKoy66uUMvX9JCJZCObgE8z1XQ1213YCXC1E+2C"]
  | .connectorPunctuation =>
    ["YV0d+V1J0XtkU1O2dF0"]
  | .dashPunctuation =>
    ["XD0XgS0XJ0Zo10XW50YW95Zm1020V140S0jU0J0ZF0XpiG1X50A0b90Zp00fU0"]
  | .openPunctuation =>
    ["X80XI0V0ZrU010XwU0YhU030X60XN0F0pQ010U0XXU0101010101010YG0X0010101010iK0101010101010",
     "10101010Y0010X10XX50101010P0I0101010jC0101010103010101020Xpf10cN0T01010101010101030",
     "H01010bA0XI0V03020"]
  | .closePunctuation =>
    ["X90XJ0V0ZrT010XwU0Yj90XN0F0pQ010U0XXU0101010101010YG0X0010101010iK01010101010101010",
     "1010Y0010X10XX50101010XC0101010jC0101010103010101021XpeU0cP0T01010101010101030H01010",
     "bA0XJ0V02020"]
  | .initialPunctuation =>
    ["bB0dxC02120P0Zk80104020F030"]
  | .finalPunctuation =>
    ["bR0dwT030S0Zk80104020F030"]
  | .otherPunctuation =>
    ["X1212201011A131R0Y4050E170rU080kI5X90XM02020XC1K111D012YA3Z60XBDd92XMEV0e51A0aC0ZO0",
     "ZP0i60C0hF0YQ0A1b8E10ZG0YA441ZF5bB0p48u50ZS2Y71aT212X5513fP1cO1a0615b01A6S2ZS3XR4XU1",
     "Y07B0w21878823223A1019ZaQ311ZG0aF1422028111021A41923101C22jC2XP0bT0zW21eD2Z30A0ZJ5",
     "hS3YM1X8210XH1XF0Z1CG1ZS3ZU1G1dP0qn4620M0K1233213726011aL212201011A131R0X4021iQ2qS0",
     "XG0iU0t70c70V0eG8X60ZG6Y26YP3zO4XC3bT6ZD113ZU3XG1YF340D012YO5ZB0fA111ZI4A110Z80dQM",
     "Z92SCYC0a22dS0e82aR0YS7YJ214YT9cN0YV4XA1q51YACbF0XZG4YxS1kpR1a50Y1480n82f73g70pbS0",
     "dl74YxJ0wU1"]
  | .mathSymbol =>
    ["XB0G2XT010XD040X50V0tU0mF2cnR0D0X72D2aB0X7460Y445140202070V12010VeBX01YQ0UOX85kL090",
     "XM7ZF0gG42UAFe0a2MXU4V2e1XGK25Xp+S0vO012b40G2XT010a3063Zj11XofH0P0V0P0V0P0V0P0V0P0",
     "bvC1"]
  | .currencySymbol =>
    ["X40ZT3Xd90ZR0lI1lI170dL0e70o50YiR0Yc4X0XXxN0rk30ZC0aQ0cR131d-M3XmuU0YjG0"]
  | .modifierSymbol =>
    ["YU010Y70604030m93CD56101GZL0E1Xe20bvK012B2D2D2D1aaS1zp3M91Z71+G0E1qY6GxR010b20XzWN4"]
  | .otherSymbol =>
    ["b60204010+H0eA1ZV1cE0A0J1dN0m30hL0a2510a40cF0X90i72F01225K01010a57151153c51tG9sJ0sI0",
     "aTX1h1998Xi311311A0116510101040B1E01110XQ194231111161U21101UeC74J262YG1TPX76Y7MAYHYD",
     "MbM181XL8ZE1dNXCXBY0dVm0XFL16X62V1Z8d55h51XEP1YOCcLQF40D1C0L161gG149X0X590GUBT80FV",
     "AX6FfVck0XVrqGXMx13A110nT2qs6FZV0XD2l403041D1fP8XPG221C30XFXCXpQ1oF0ZZM0YaL74GowA350",
     "qgM0Zx3dFGjJaSZJXSdLAX62XR52M17T4XSLY130bQYMXb9lVXN3XI71D11Xs80YwS0a10sHXB4Z3CE2E1E",
     "1X4Nb0XOSDXB4871E5aQdQ5sN4G3C3ZM4YU6B40FB4XN896X78T2B41XUgJCD2C395XN7E2A687aI1YR"]
  | .spaceSeparator =>
    ["X00ZV0bkV0YhVAX40XF0Zz00"]
  | .lineSeparator =>
    ["eX80"]
  | .paragraphSeparator =>
    ["eX90"]
  | .control =>
    ["0VYVX0"]
  | .format =>
    ["bD0XgI5M0c00XH0i01YG0ZvB0X-S4Q4XH419XtqF0dP2ac10F0ex2FXYZ03bcF7uhq60UYV"]
  | .privateUse =>
    ["XuW0cdVyXu0X--T2X--T"]
  | .unassigned =>
    ["xO1637010K0iD0X61XI130XN7R36AeE0XS1Z5DXR1XH1F0S110B4V024dD08121M0701241912147132051",
     "P1306321M07020202110532132164016H9309030M0702051A030311E41C670308121M070205191213633",
     "2051I9206230422010222232C3523041151DL4D030N0G190304620311141A6M030N0A051903046252041",
     "A03BD030XJ03063G1Q030I2O090117213601085A13BXQ3TX4201050O010N1501070A14VY80X43X70X40",
     "F0DX4c601411hP041701041X9041X1041701041F0XP041Y31X02Q5YM161qT2YP6M8O8KBD0302BYU1A5A5",
     "Q5YP6XB4Y69V0C3C312XA15AXC3Q5B2XU1Y10T1B5A5E1VXGYD0b67XS2F2XU4XB1B7XB4mM161X61618010",
     "1010V1XL0F0E160J13090Z50C1R0D2X1EX1EaC3qQLBKXuK1X00gT4XD01411XO62DO87070707070707070",
     "ZUX1Q0YPBcMPYG0YM1Z74XB0YU0YM8XG0ypD2XN8gSJbO7cE120108KXR2A5XO7Y67C5ZKAU2YE0B3X10XN8",
     "E1A1Z7NS96161687070XS3ZU1A5gz4BN3XH3epE1ZAX57B54Q050102020ZTFjT1XM61VXA5XJ0J04350a71",
     "10bU261616132707951C0Q0J020F1EX1ZR433XD2YO0D21XEXEa1T2XHES3X48U4XB4U0X53EX9aU1A5X43",
     "X43X87XKAC0F07020B0F07022XKBfN8M98N60XA09Y46110XC02211N0Y879XFJ024X12R41XVXO3K1XI024",
     "8030T133A696Y0VX73C8XM2T1R4Q64B7YFY9XMXJCXJ6XE7A5X62T72cFV0XA0312F3XMXC7XALQX5SJN8",
     "YE3X48Y4911P6A5XL0I7X78Z00KAI0XFXT701040F0B5XR4A5408121M0702050A12131151471725AA011",
     "10X60A0111040A0272SYS05TY87Ab5XM1X6X1Y5AA5DIXQ5A5KRR1F3NbOXSZ3YJB81118020U021C8AY581",
     "XE1BQY87YJCY96AbLX2DA590XD0E9T2X01M0EY87020XC2102097A56020X502066AfLP6H0X92TYK1EXIC",
     "yRZ5ZF05Ac4YoBZ3CXYM9ZyR4o7crOXQXs5nP6V0A3YH0A5U169Y69A070L4JjFXQc5YRZ4YB3XP6HXV5A2D",
     "b-O7XcMX8Aet6407020f3E1S311D47iCYe3ZB4D296A18ZwRdQ5jKYBXE1N8ZKXRdM9X71c2KY6ZPKBKBYN8",
     "Pa6YL0Y7021112140C01070Y10418070S040501270gK1f41rUE50FXYFV56cK70H1702054XUX01ZFXD2E1",
     "A32fVVGXQ41kFXAcLXB31kV704020F0c51GX8YC3A32uGY4YBXTc140R0201110A0401015131010103020",
     "11101010101020114070404010A0H43050HXJ2eDXC3Z4BF1F0F0X59bEXNTCXC3962D6aP+O3H2D2ZN3YV5",
     "C31EC3XO7A5X87U1C32XTgKBE1D2A4XO6F1B596aJ0Z6XW5Xft0VaXQ5cU1bq2DdfHEpEYj1mUXl1awB4",
     "aZ0rtYG1TZ0ZVdGX-mFX--U1X--U1"]

def set (c : Category) : CharSet := Packed.set c.lines

/-- The code points of any of the categories. -/
def setOf (cs : List Category) : CharSet := CharSet.ofRanges (cs.flatMap fun c => c.set.ranges)

def casedLetters : List Category := [.uppercaseLetter, .lowercaseLetter, .titlecaseLetter]

def letters : List Category := casedLetters ++ [.modifierLetter, .otherLetter]

def marks : List Category := [.nonspacingMark, .spacingMark, .enclosingMark]

def numberCategories : List Category := [.decimalNumber, .letterNumber, .otherNumber]

def punctuation : List Category :=
  [.connectorPunctuation, .dashPunctuation, .openPunctuation, .closePunctuation,
   .initialPunctuation, .finalPunctuation, .otherPunctuation]

def symbols : List Category := [.mathSymbol, .currencySymbol, .modifierSymbol, .otherSymbol]

def separators : List Category := [.spaceSeparator, .lineSeparator, .paragraphSeparator]

def others : List Category := [.control, .format, .privateUse, .unassigned]

/-- The groups of categories with their names. -/
def groups : List (List String × List Category) :=
  [(["lc", "casedletter"], casedLetters),
   (["l", "letter"], letters),
   (["m", "mark", "combiningmark"], marks),
   (["n", "number"], numberCategories),
   (["p", "punctuation", "punct"], punctuation),
   (["s", "symbol"], symbols),
   (["z", "separator"], separators),
   (["c", "other"], others)]

/-- The set that a name of a category or of a group of categories stands for. -/
def find? (name : String) : Option CharSet :=
  if name = "any" then some .full
  else if name = "ascii" then some (.range 0 0x7F)
  else if name = "assigned" then some (unassigned.set.complement)
  else match all.find? fun c => c.names.contains name with
    | some c => some c.set
    | none => (groups.find? fun g => g.1.contains name).map fun g => setOf g.2

end Category

end AccessControl.Text
