/-
Simple case folding: characters that differ only in case belong to one class, which its first
character stands for.
-/
import AccessControl.Text.CharSet.Packed

namespace AccessControl.Text.Fold

/-- Characters that are not the first of their class, packed as pairs: how many code points were
left out before, and the distance back to the first of the class. -/
def lines : List String :=
  ["Z1X00X00X00X00X00X00X00X00X00X00X00X00X00X00X00X00X00X00X00X00X00X00X00X00X00X0Z5X0",
   "0X00X00X00X00X00X00X00X00X00X00X00X00X00X00X00X00X00X00X00X00X00X01X00X00X00X00X00X0",
   "0X021111111111111111111111111111111111111111111111131111121111111111111112111111111",
   "1111111111111111111111111111111111110ZP1111110fC311121315161711111214121311121317102",
   "1102110211111111111111110YF1111111111111111112102110Z10XO11111111111111111111111111",
   "111111111111110a2211111111111111111810b3410c331111111113cI0cE1cD0cD1cA1cB4cD2cF4cH",
   "0cJ5cJ2cL2cMAcQ2cQ4cQ0Y50cP0cP0Y75cRcU11131X1YK2t7FX60X50X50X51X00X00X00X00X00X00X0",
   "0X00ZK0X00X00u70X00X00X00X00X00V0X00X00X00X00X00X00X00X00X00Y00XV0XV1XU0XP3XF0XM0811",
   "11111111111111111111110YM0YG1ZK0YS0Z02107111a20a20a2XGX00X00X00X00X00X00X00X00X00X0",
   "0X00X00X00X00X00X00X00X00X00X00X00X00X00X00X00X00X00X00X00X00X00X00YG0YG0YG0YG0YG0YG",
   "0YG0YG0YG0YG0YG0YG0YG0YG0YG0YG111111111111111111111111111111111191111111111111111111",
   "1111111111111111111111111111111111211111111111110F1111111111111111111111111111111111",
   "11111111111111111111111111111111111111111111111111111111111111XHXG0XG0XG0XG0XG0XG0XG",
   "0XG0XG0XG0XG0XG0XG0XG0XG0XG0XG0XG0XG0XG0XG0XG0XG0XG0XG0XG0XG0XG0XG0XG0XG0XG0XG0XG0XG",
   "0XG0XG0XGZpH80808080808Ya2cZE0cZD0cZ40cZ20cZ20cZ30cYS0cX5215Y+00Y+00Y+00Y+00Y+00Y+0",
   "0Y+00Y+00Y+00Y+00Y+00Y+00Y+00Y+00Y+00Y+00Y+00Y+00Y+00Y+00Y+00Y+00Y+00Y+00Y+00Y+00Y+0",
   "0Y+00Y+00Y+00Y+00Y+00Y+00Y+00Y+00Y+00Y+00Y+00Y+00Y+00Y+00Y+00Y+02Y+00Y+00Y+0g111111",
   "111111111111111111111111111111111111111111111111111111111111111111111111111111111111",
   "1111111111111111111111111111111111111111111111111111111111115XR2djV2111111111111111",
   "111111111111111111111111111111111111111111111111111111111111111111111111111111118808",
   "080808080808880808080808A8080808080808088808080808080808880808080808B818181888080808",
   "08080808O8080808080808088808080808080808880808080808080888080YA0YA091dZP9YM0YM0YM0YM",
   "096dY348080Z40Z47dXJ48080ZG0ZG07Ba00a00ZU0ZU09f9dhT3ecV0eZ6X2SX1G0G0G0G0G0G0G0G0G0G",
   "0G0G0G0G0G0G41wBQ0Q0Q0Q0Q0Q0Q0Q0Q0Q0Q0Q0Q0Q0Q0Q0Q0Q0Q0Q0Q0Q0Q0Q0Q0QXw6XG0XG0XG0XG0XG",
   "0XG0XG0XG0XG0XG0XG0XG0XG0XG0XG0XG0XG0XG0XG0XG0XG0XG0XG0XG0XG0XG0XG0XG0XG0XG0XG0XG0XG",
   "0XG0XG0XG0XG0XG0XG0XG0XG0XG0XG0XG0XG0XG0XG0XG110glN0Zt60gl70gnB0gn81111110gmS0glT",
   "0gmV0gmU21217gnV0gnV1111111111111111111111111111111111111111111111111111111111111111",
   "111111111111111111111111111111111111811141CdZ00dZ00dZ00dZ00dZ00dZ00dZ00dZ00dZ00dZ0",
   "0dZ00dZ00dZ00dZ00dZ00dZ00dZ00dZ00dZ00dZ00dZ00dZ00dZ00dZ00dZ00dZ00dZ00dZ00dZ00dZ00dZ0",
   "0dZ00dZ00dZ00dZ00dZ00dZ00dZ01dZ05dZ0+eJ1111111110XYk20XYk311111111111111111111111111",
   "11111111J111111111111111111111111111a7111111111111131111111111111111111111111111111",
   "111111111111111111111111111111A1110XYm41111111111410Xff8311131111111111111111111",
   "0Xfg40XfgF0XfgB0Xfg10Xfg41XfeI0XffA0XfeL21111111111111110XG0Xfg30XYnO11110Xfh7113151",
   "11110Xfo1P1wSz0SXb+G0Xb+G0Xb+G0Xb+G0Xb+G0Xb+G0Xb+G0Xb+G0Xb+G0Xb+G0Xb+G0Xb+G0Xb+G",
   "0Xb+G0Xb+G0Xb+G0Xb+G0Xb+G0Xb+G0Xb+G0Xb+G0Xb+G0Xb+G0Xb+G0Xb+G0Xb+G0Xb+G0Xb+G0Xb+G",
   "0Xb+G0Xb+G0Xb+G0Xb+G0Xb+G0Xb+G0Xb+G0Xb+G0Xb+G0Xb+G0Xb+G0Xb+G0Xb+G0Xb+G0Xb+G0Xb+G",
   "0Xb+G0Xb+G0Xb+G0Xb+G0Xb+G0Xb+G0Xb+G0Xb+G0Xb+G0Xb+G0Xb+G0Xb+G0Xb+G0Xb+G0Xb+G0Xb+G",
   "0Xb+G0Xb+G0Xb+G0Xb+G0Xb+G0Xb+G0Xb+G0Xb+G0Xb+G0Xb+G0Xb+G0Xb+G0Xb+G0Xb+G0Xb+G0Xb+G",
   "0Xb+G0Xb+G0Xb+Gpw61XXQX00X00X00X00X00X00X00X00X00X00X00X00X00X00X00X00X00X00X00X00X0",
   "0X00X00X00X00X0XcDX80X80X80X80X80X80X80X80X80X80X80X80X80X80X80X80X80X80X80X80X80X8",
   "0X80X80X80X80X80X80X80X80X80X80X80X80X80X80X80X80X80X8a8X80X80X80X80X80X80X80X80X8",
   "0X80X80X80X80X80X80X80X80X80X80X80X80X80X80X80X80X80X80X80X80X80X80X80X80X80X80X8",
   "aRX70X70X70X70X70X70X70X70X70X70X71X70X70X70X70X70X70X70X70X70X70X70X70X70X70X71X7",
   "0X70X70X70X70X70X71X70X7Xu3Y00Y00Y00Y00Y00Y00Y00Y00Y00Y00Y00Y00Y00Y00Y00Y00Y00Y00Y0",
   "0Y00Y00Y00Y00Y00Y00Y00Y00Y00Y00Y00Y00Y00Y00Y00Y00Y00Y00Y00Y00Y00Y00Y00Y00Y00Y00Y00Y0",
   "0Y00Y00Y00Y0ZTX00X00X00X00X00X00X00X00X00X00X00X00X00X00X00X00X00X00X00X00X00X0YvQX0",
   "0X00X00X00X00X00X00X00X00X00X00X00X00X00X00X00X00X00X00X00X00X00X00X00X00X00X00X00X0",
   "0X00X00X0ri0X00X00X00X00X00X00X00X00X00X00X00X00X00X00X00X00X00X00X00X00X00X00X00X0",
   "0X00X00X00X00X00X00X00X0+r2X20X20X20X20X20X20X20X20X20X20X20X20X20X20X20X20X20X20X2",
   "0X20X20X20X20X20X20X20X20X20X20X20X20X20X20X2"]

/-- The characters written from the code point `start` on, each with the first of its class. -/
def pairsFrom (start : Nat) : List Nat → List (Nat × Nat)
  | gap :: back :: rest => (start + gap, start + gap - back) :: pairsFrom (start + gap + 1) rest
  | _ => []

/-- Every character that is not the first of its class, with that first one. -/
def pairs : List (Nat × Nat) := pairsFrom 0 (Packed.numbers lines)

/-- The set with every character that differs only in case from one of it. -/
def close (s : CharSet) : CharSet :=
  let firsts := (pairs.filter fun p => s.hasPoint p.1 || s.hasPoint p.2).map Prod.snd
  let same := pairs.filter fun p => firsts.contains p.2
  CharSet.ofRanges (s.ranges ++ same.flatMap fun p => [(p.1, p.1), (p.2, p.2)])

/-- The set with both cases of its letters from `A` to `Z`. -/
def closeLatin (s : CharSet) : CharSet :=
  let letters := (List.range 26).filter fun i => s.hasPoint (65 + i) || s.hasPoint (97 + i)
  CharSet.ofRanges (s.ranges ++ letters.flatMap fun i => [(65 + i, 65 + i), (97 + i, 97 + i)])

end AccessControl.Text.Fold
