import Courier.Pattern.Unicode.Runs

/-!
# General categories

The general category of every character, after version 15 of the Unicode standard, and the
names by which categories and groups of them are called.

Main definitions:

- `category` is the two-letter name of the category of a character.
- `categoryGroup?` is the list of categories that a name stands for.
-/

namespace Courier.Unicode

/-- The categories of all characters in order: each run has its length in base 36 and the
name of its category. -/
def categoryText : String :=
  "wCc1Zs3Po1Sc3Po1Ps1Pe1Po1Sm1Po1Pd2PoaNd2Po3Sm2PoqLu1Ps1Po1Pe1Sk1Pc1SkqLl1Ps1Sm1Pe1SmxCc1Zs1Po4" ++
    "Sc1So1Po1Sk1So1Lo1Pi1Sm1Cf1So1Sk1So1Sm2No1Sk1Ll2Po1Sk1No1Lo1Pf3No1PonLu1Sm7LuoLl1Sm8Ll1Lu1Ll1L" ++
    "u1Ll1Lu1Ll1Lu1Ll1Lu1Ll1Lu1Ll1Lu1Ll1Lu1Ll1Lu1Ll1Lu1Ll1Lu1Ll1Lu1Ll1Lu1Ll1Lu1Ll1Lu1Ll1Lu1Ll1Lu1Ll" ++
    "1Lu1Ll1Lu1Ll1Lu1Ll1Lu1Ll1Lu1Ll1Lu1Ll1Lu1Ll1Lu1Ll1Lu1Ll1Lu1Ll1Lu2Ll1Lu1Ll1Lu1Ll1Lu1Ll1Lu1Ll1Lu1" ++
    "Ll1Lu1Ll1Lu1Ll1Lu2Ll1Lu1Ll1Lu1Ll1Lu1Ll1Lu1Ll1Lu1Ll1Lu1Ll1Lu1Ll1Lu1Ll1Lu1Ll1Lu1Ll1Lu1Ll1Lu1Ll1L" ++
    "u1Ll1Lu1Ll1Lu1Ll1Lu1Ll1Lu1Ll1Lu1Ll1Lu1Ll1Lu1Ll1Lu1Ll1Lu1Ll1Lu1Ll2Lu1Ll1Lu1Ll1Lu3Ll2Lu1Ll1Lu1Ll" ++
    "2Lu1Ll3Lu2Ll4Lu1Ll2Lu1Ll3Lu3Ll2Lu1Ll2Lu1Ll1Lu1Ll1Lu1Ll2Lu1Ll1Lu2Ll1Lu1Ll2Lu1Ll3Lu1Ll1Lu1Ll2Lu2" ++
    "Ll1Lo1Lu3Ll4Lo1Lu1Lt1Ll1Lu1Lt1Ll1Lu1Lt1Ll1Lu1Ll1Lu1Ll1Lu1Ll1Lu1Ll1Lu1Ll1Lu1Ll1Lu1Ll1Lu2Ll1Lu1L" ++
    "l1Lu1Ll1Lu1Ll1Lu1Ll1Lu1Ll1Lu1Ll1Lu1Ll1Lu1Ll1Lu2Ll1Lu1Lt1Ll1Lu1Ll3Lu1Ll1Lu1Ll1Lu1Ll1Lu1Ll1Lu1Ll" ++
    "1Lu1Ll1Lu1Ll1Lu1Ll1Lu1Ll1Lu1Ll1Lu1Ll1Lu1Ll1Lu1Ll1Lu1Ll1Lu1Ll1Lu1Ll1Lu1Ll1Lu1Ll1Lu1Ll1Lu1Ll1Lu1" ++
    "Ll1Lu1Ll1Lu1Ll1Lu1Ll1Lu1Ll1Lu1Ll1Lu1Ll1Lu1Ll1Lu1Ll1Lu7Ll2Lu1Ll2Lu2Ll1Lu1Ll4Lu1Ll1Lu1Ll1Lu1Ll1L" ++
    "u1Ll1Lu1xLl1LorLliLm4SkcLmeSk5Lm7Sk1Lm1Sk1LmhSk34Mn1Lu1Ll1Lu1Ll1Lm1Sk1Lu1Ll2Cn1Lm3Ll1Po1Lu4Cn2" ++
    "Sk1Lu1Po3Lu1Cn1Lu1Cn2Lu1LlhLu1Cn9LuzLl1Lu2Ll3Lu3Ll1Lu1Ll1Lu1Ll1Lu1Ll1Lu1Ll1Lu1Ll1Lu1Ll1Lu1Ll1L" ++
    "u1Ll1Lu1Ll1Lu1Ll1Lu1Ll1Lu5Ll1Lu1Ll1Sm1Lu1Ll2Lu2Ll1fLu1cLl1Lu1Ll1Lu1Ll1Lu1Ll1Lu1Ll1Lu1Ll1Lu1Ll1" ++
    "Lu1Ll1Lu1Ll1Lu1Ll1Lu1Ll1Lu1Ll1Lu1Ll1Lu1Ll1Lu1Ll1Lu1Ll1Lu1Ll1Lu1Ll1So5Mn2Me1Lu1Ll1Lu1Ll1Lu1Ll1L" ++
    "u1Ll1Lu1Ll1Lu1Ll1Lu1Ll1Lu1Ll1Lu1Ll1Lu1Ll1Lu1Ll1Lu1Ll1Lu1Ll1Lu1Ll1Lu1Ll1Lu1Ll1Lu1Ll1Lu1Ll1Lu1Ll" ++
    "1Lu1Ll1Lu1Ll1Lu1Ll1Lu1Ll1Lu1Ll1Lu1Ll1Lu1Ll1Lu1Ll2Lu1Ll1Lu1Ll1Lu1Ll1Lu1Ll1Lu1Ll1Lu1Ll1Lu2Ll1Lu1" ++
    "Ll1Lu1Ll1Lu1Ll1Lu1Ll1Lu1Ll1Lu1Ll1Lu1Ll1Lu1Ll1Lu1Ll1Lu1Ll1Lu1Ll1Lu1Ll1Lu1Ll1Lu1Ll1Lu1Ll1Lu1Ll1L" ++
    "u1Ll1Lu1Ll1Lu1Ll1Lu1Ll1Lu1Ll1Lu1Ll1Lu1Ll1Lu1Ll1Lu1Ll1Lu1Ll1Lu1Ll1Lu1Ll1Lu1Ll1Lu1Ll1Lu1Ll1Lu1Ll" ++
    "1Lu1Ll1Lu1Ll1Lu1Ll1Lu1Ll1Lu1Ll1Lu1Ll1Lu1Ll1Lu1Ll1Lu1Ll1Lu1Ll1Lu1Ll1Lu1Ll1Lu1Ll1Lu1Ll1Lu1Ll1Lu1" ++
    "Ll1Cn12Lu2Cn1Lm6Po15Ll1Po1Pd2Cn2So1Sc1Cn19Mn1Pd1Mn1Po2Mn1Po2Mn1Po1Mn8CnrLo4Cn4Lo2PobCn6Cf3Sm2P" ++
    "o1Sc2Po2SobMn1Po1Cf3PowLo1LmaLolMnaNd4Po2Lo1Mn2rLo1Po1Lo7Mn1Cf1So6Mn2Lm2Mn1So4Mn2LoaNd3Lo2So1L" ++
    "oePo1Cn1Cf1Lo1MnuLorMn2Cn2hLobMn1LoeCnaNdxLo9Mn2Lm1So3Po1Lm2Cn1Mn2ScmLo4Mn1Lm9Mn1Lm3Mn1Lm5Mn2C" ++
    "nfPo1CnpLo3Mn2Cn1Po1CnbLo5CnoLo1Sk6Lo1Cn2Cf6Cn8Mn15Lo1LmoMn1CfwMn1Mc1iLo1Mn1Mc1Mn1Lo3Mc8Mn4Mc1" ++
    "Mn2Mc1Lo7MnaLo2Mn2PoaNd1Po1LmfLo1Mn2Mc1Cn8Lo2Cn2Lo2CnmLo1Cn7Lo1Cn1Lo3Cn4Lo2Cn1Mn1Lo3Mc4Mn2Cn2M" ++
    "c2Cn2Mc1Mn1Lo8Cn1Mc4Cn2Lo1Cn3Lo2Mn2CnaNd2Lo2Sc6No1So1Sc1Lo1Po1Mn2Cn2Mn1Mc1Cn6Lo4Cn2Lo2CnmLo1Cn" ++
    "7Lo1Cn2Lo1Cn2Lo1Cn2Lo2Cn1Mn1Cn3Mc2Mn4Cn2Mn2Cn3Mn3Cn1Mn7Cn4Lo1Cn1Lo7CnaNd2Mn3Lo1Mn1PoaCn2Mn1Mc1" ++
    "Cn9Lo1Cn3Lo1CnmLo1Cn7Lo1Cn2Lo1Cn5Lo2Cn1Mn1Lo3Mc5Mn1Cn2Mn1Mc1Cn2Mc1Mn2Cn1LofCn2Lo2Mn2CnaNd1Po1S" ++
    "c7Cn1Lo6Mn1Cn1Mn2Mc1Cn8Lo2Cn2Lo2CnmLo1Cn7Lo1Cn2Lo1Cn5Lo2Cn1Mn1Lo1Mc1Mn1Mc4Mn2Cn2Mc2Cn2Mc1Mn7Cn" ++
    "2Mn1Mc4Cn2Lo1Cn3Lo2Mn2CnaNd1So1Lo6NoaCn1Mn1Lo1Cn6Lo3Cn3Lo1Cn4Lo3Cn2Lo1Cn1Lo1Cn2Lo3Cn2Lo3Cn3Lo3" ++
    "CncLo4Cn2Mc1Mn2Mc3Cn3Mc1Cn3Mc1Mn2Cn1Lo6Cn1MceCnaNd3No6So1Sc1So5Cn1Mn3Mc1Mn8Lo1Cn3Lo1CnnLo1CngL" ++
    "o2Cn1Mn1Lo3Mn4Mc1Cn3Mn1Cn4Mn7Cn2Mn1Cn3Lo2Cn1Lo2Cn2Lo2Mn2CnaNd7Cn1Po7No1So1Lo1Mn2Mc1Po8Lo1Cn3Lo" ++
    "1CnnLo1CnaLo1Cn5Lo2Cn1Mn1Lo1Mc1Mn5Mc1Cn1Mn2Mc1Cn2Mc2Mn7Cn2Mc6Cn2Lo1Cn2Lo2Mn2CnaNd1Cn2Lo1MccCn2" ++
    "Mn2Mc9Lo1Cn3Lo1Cn15Lo2Mn1Lo3Mc4Mn1Cn3Mc1Cn3Mc1Mn1Lo1So4Cn3Lo1Mc7No3Lo2Mn2CnaNd9No1So6Lo1Cn1Mn2" ++
    "Mc1CniLo3CnoLo1Cn9Lo1Cn1Lo2Cn7Lo3Cn1Mn4Cn3Mc3Mn1Cn1Mn1Cn8Mc6CnaNd2Cn2Mc1PocCn1cLo1Mn2Lo7Mn4Cn1" ++
    "Sc6Lo1Lm8Mn1PoaNd2Po11Cn2Lo1Cn1Lo1Cn5Lo1CnoLo1Cn1Lo1CnaLo1Mn2Lo9Mn1Lo2Cn5Lo1Cn1Lm1Cn7Mn1CnaNd2" ++
    "Cn4LowCn1Lo3SofPo1So1Po3So2Mn6SoaNdaNo1So1Mn1So1Mn1So1Mn1Ps1Pe1Ps1Pe2Mc8Lo1Cn10Lo4CneMn1Mc5Mn1" ++
    "Po2Mn5LobMn1Cn10Mn1Cn8So1Mn6So1Cn2So5Po4So2Po11Cn17Lo2Mc4Mn1Mc6Mn1Mc2Mn2Mc2Mn1LoaNd6Po6Lo2Mc2M" ++
    "n4Lo3Mn1Lo3Mc2Lo7Mc3Lo4MndLo1Mn2Mc2Mn6Mc1Mn1Lo1McaNd3Mc1Mn2So12Lu1Cn1Lu5Cn1Lu2Cn17Ll1Po1Lm3Ll9" ++
    "5Lo1Cn4Lo2Cn7Lo1Cn1Lo1Cn4Lo2Cn15Lo1Cn4Lo2CnxLo1Cn4Lo2Cn7Lo1Cn1Lo1Cn4Lo2CnfLo1Cn1lLo1Cn4Lo2Cn1v" ++
    "Lo2Cn3Mn9PokNo3CngLoaSo6Cn2eLu2Cn6Ll2Cn1Pdh8Lo1So1PohLo1ZsqLo1Ps1Pe3Cn23Lo3Po3Nl8Lo7CniLo3Mn1M" ++
    "c9CnjLo2Mn1Mc2Po9CniLo2MncCndLo1Cn3Lo1Cn2MncCn1gLo2Mn1Mc7Mn8Mc1Mn2McbMn3Po1Lm3Po1Sc1Lo1Mn2CnaN" ++
    "d6CnaNo6Cn6Po1Pd4Po3Mn1Cf1MnaNd6CnzLo1Lm1hLo7Cn5Lo2MnyLo1Mn1Lo5Cn1yLoaCnvLo1Cn3Mn4Mc2Mn3Mc4Cn2" ++
    "Mc1Mn6Mc3Mn4Cn1So3Cn2PoaNduLo2Cn5LobCn18Lo4CnqLo6CnaNd1No3CnySonLo2Mn2Mc1Mn2Cn2Po1hLo1Mc1Mn1Mc" ++
    "7Mn1Cn1Mn1Mc1Mn2Mc8Mn6McaMn2Cn1MnaNd6CnaNd6Cn7Po1Lm6Po2CneMn1MegMn1dCn4Mn1Mc1bLo1Mn1Mc5Mn1Mc1M" ++
    "n5Mc1Mn2Mc8Lo3CnaNd7PoaSo9Mn9So2Po1Cn2Mn1McuLo1Mc4Mn2Mc2Mn1Mc3Mn2LoaNd18Lo1Mn1Mc2Mn3Mc1Mn1Mc3M" ++
    "n2Mc8Cn4Po10Lo8Mc8Mn2Mc2Mn3Cn5PoaNd3Cn3LoaNduLo6Lm2Po9Ll7Cn17Lu2Cn3Lu8Po8Cn3Mn1PodMn1Mc7Mn4Lo1" ++
    "Mn6Lo1Mn2Lo1Mc2Mn1Lo5Cn18Ll1rLmdLl1LmyLl11Lm1sMn1Lu1Ll1Lu1Ll1Lu1Ll1Lu1Ll1Lu1Ll1Lu1Ll1Lu1Ll1Lu1" ++
    "Ll1Lu1Ll1Lu1Ll1Lu1Ll1Lu1Ll1Lu1Ll1Lu1Ll1Lu1Ll1Lu1Ll1Lu1Ll1Lu1Ll1Lu1Ll1Lu1Ll1Lu1Ll1Lu1Ll1Lu1Ll1L" ++
    "u1Ll1Lu1Ll1Lu1Ll1Lu1Ll1Lu1Ll1Lu1Ll1Lu1Ll1Lu1Ll1Lu1Ll1Lu1Ll1Lu1Ll1Lu1Ll1Lu1Ll1Lu1Ll1Lu1Ll1Lu1Ll" ++
    "1Lu1Ll1Lu1Ll1Lu1Ll1Lu1Ll1Lu1Ll1Lu1Ll1Lu1Ll1Lu1Ll1Lu1Ll1Lu1Ll1Lu1Ll1Lu1Ll1Lu1Ll1Lu1Ll1Lu1Ll1Lu1" ++
    "Ll1Lu1Ll1Lu1Ll1Lu1Ll1Lu1Ll1Lu1Ll1Lu1Ll1Lu1Ll1Lu1Ll1Lu1Ll1Lu1Ll1Lu1Ll1Lu1Ll1Lu1Ll1Lu1Ll1Lu1Ll1L" ++
    "u1Ll1Lu1Ll1Lu1Ll1Lu1Ll1Lu9Ll1Lu1Ll1Lu1Ll1Lu1Ll1Lu1Ll1Lu1Ll1Lu1Ll1Lu1Ll1Lu1Ll1Lu1Ll1Lu1Ll1Lu1Ll" ++
    "1Lu1Ll1Lu1Ll1Lu1Ll1Lu1Ll1Lu1Ll1Lu1Ll1Lu1Ll1Lu1Ll1Lu1Ll1Lu1Ll1Lu1Ll1Lu1Ll1Lu1Ll1Lu1Ll1Lu1Ll1Lu1" ++
    "Ll1Lu1Ll1Lu1Ll1Lu1Ll1Lu1Ll1Lu1Ll1Lu1Ll1Lu1Ll1Lu1Ll1Lu1Ll1Lu1Ll1Lu1Ll1Lu1Ll1Lu1Ll1Lu1Ll1Lu1Ll1L" ++
    "u1Ll1Lu1Ll1Lu1Ll1Lu1Ll1Lu1Ll1Lu1Ll1Lu9Ll8Lu6Ll2Cn6Lu2Cn8Ll8Lu8Ll8Lu6Ll2Cn6Lu2Cn8Ll1Cn1Lu1Cn1Lu" ++
    "1Cn1Lu1Cn1Lu8Ll8LueLl2Cn8Ll8Lt8Ll8Lt8Ll8Lt5Ll1Cn2Ll4Lu1Lt1Sk1Ll3Sk3Ll1Cn2Ll4Lu1Lt3Sk4Ll2Cn2Ll4" ++
    "Lu1Cn3Sk8Ll5Lu3Sk2Cn3Ll1Cn2Ll4Lu1Lt2Sk1CnbZs5Cf6Pd2Po1Pi1Pf1Ps2Pi1Pf1Ps1Pi8Po1Zl1Zp5Cf1Zs9Po1P" ++
    "i1Pf4Po2Pc3Po1Sm1Ps1PebPo1Sm1Po1PcaPo1Zs5Cf1CnaCf1No1Lm2Cn6No3Sm1Ps1Pe1LmaNo3Sm1Ps1Pe1CndLm3Cn" ++
    "xScfCndMn4Me1Mn3MecMnfCn2So1Lu4So1Lu2So1Ll3Lu2Ll3Lu1Ll1So1Lu2So1Sm5Lu6So1Lu1So1Lu1So1Lu1So4Lu1" ++
    "So1Ll4Lu1Ll4Lo1Ll2So2Ll2Lu5Sm1Lu4Ll1So1Sm2So1Ll1SogNozNl1Lu1Ll4Nl1No2So4Cn5Sm5So2Sm4So1Sm2So1S" ++
    "m2So1Sm7So1SmvSo2Sm2So1Sm1So1SmvSo7gSm8So1Ps1Pe1Ps1PekSo2Sm7So1Ps1Pe29So1SmuSopSm14So6Sm1xSopC" ++
    "nbSolCn1oNo26SomNo53So1Sm9So1Sm1iSo8Sm33So1Sm6wSo1Ps1Pe1Ps1Pe1Ps1Pe1Ps1Pe1Ps1Pe1Ps1Pe1Ps1PeuNo" ++
    "18So5Sm1Ps1PevSm1Ps1Pe1Ps1Pe1Ps1Pe1Ps1Pe1Ps1PegSm74So3nSm1Ps1Pe1Ps1Pe1Ps1Pe1Ps1Pe1Ps1Pe1Ps1Pe1" ++
    "Ps1Pe1Ps1Pe1Ps1Pe1Ps1Pe1Ps1Pe1rSm1Ps1Pe1Ps1PewSm1Ps1Pe76Sm1cSolSm2So6Sm13So2CnwSo1Cn2xSo1cLu1c" ++
    "Ll1Lu1Ll3Lu2Ll1Lu1Ll1Lu1Ll1Lu1Ll4Lu1Ll1Lu2Ll1Lu6Ll2Lm3Lu1Ll1Lu1Ll1Lu1Ll1Lu1Ll1Lu1Ll1Lu1Ll1Lu1L" ++
    "l1Lu1Ll1Lu1Ll1Lu1Ll1Lu1Ll1Lu1Ll1Lu1Ll1Lu1Ll1Lu1Ll1Lu1Ll1Lu1Ll1Lu1Ll1Lu1Ll1Lu1Ll1Lu1Ll1Lu1Ll1Lu" ++
    "1Ll1Lu1Ll1Lu1Ll1Lu1Ll1Lu1Ll1Lu1Ll1Lu1Ll1Lu1Ll1Lu1Ll1Lu1Ll1Lu1Ll1Lu1Ll1Lu1Ll1Lu1Ll1Lu1Ll1Lu1Ll1" ++
    "Lu1Ll1Lu1Ll1Lu1Ll1Lu1Ll1Lu1Ll1Lu1Ll1Lu1Ll1Lu1Ll1Lu1Ll1Lu1Ll1Lu1Ll1Lu2Ll6So1Lu1Ll1Lu1Ll3Mn1Lu1L" ++
    "l5Cn4Po1No2Po12Ll1Cn1Ll5Cn1Ll2Cn1kLo7Cn1Lm1PoeCn1MnnLo9Cn7Lo1Cn7Lo1Cn7Lo1Cn7Lo1Cn7Lo1Cn7Lo1Cn7" ++
    "Lo1Cn7Lo1CnwMn2Po1Pi1Pf1Pi1Pf3Po1Pi1Pf1Po1Pi1Pf9Po1Pd2Po1Pd1Po1Pi1Pf2Po1Pi1Pf1Ps1Pe1Ps1Pe1Ps1P" ++
    "e1Ps1Pe5Po1LmaPo2Pd4Po1Pd1Po1PsdPo2So3Po1Ps1Pe1Ps1Pe1Ps1Pe1Ps1Pe1PdyCnqSo1Cn2hSocCn5ySoqCncSo4" ++
    "Cn1Zs3Po1So1Lm1Lo1Nl1Ps1Pe1Ps1Pe1Ps1Pe1Ps1Pe1Ps1Pe2So1Ps1Pe1Ps1Pe1Ps1Pe1Ps1Pe1Pd1Ps2Pe1So9Nl4M" ++
    "n2Mc1Pd5Lm2So3Nl1Lm1Lo1Po2So1Cn2eLo2Cn2Mn2Sk2Lm1Lo1Pd2iLo1Po3Lm1Lo5Cn17Lo1Cn2mLo1Cn2So4NoaSowL" ++
    "o10SocCngLovSo1CnaNouSo8No1SofNowSoaNo13SofNo8wSo534Lo1sSog7pLo1LmvrLo3Cn1jSo9Cn14Lo6Lm2Po7gLo" ++
    "1Lm3PogLoaNd2LokCn1Lu1Ll1Lu1Ll1Lu1Ll1Lu1Ll1Lu1Ll1Lu1Ll1Lu1Ll1Lu1Ll1Lu1Ll1Lu1Ll1Lu1Ll1Lu1Ll1Lu1" ++
    "Ll1Lu1Ll1Lu1Ll1Lu1Ll1Lu1Ll1Lu1Ll1Lu1Ll1Lu1Ll1Lu1Ll1Lu1Ll1Lu1Ll1Lo1Mn3Me1PoaMn1Po1Lm1Lu1Ll1Lu1L" ++
    "l1Lu1Ll1Lu1Ll1Lu1Ll1Lu1Ll1Lu1Ll1Lu1Ll1Lu1Ll1Lu1Ll1Lu1Ll1Lu1Ll1Lu1Ll1Lu1Ll2Lm2Mn1yLoaNl2Mn6Po8C" ++
    "nnSk9Lm2Sk1Lu1Ll1Lu1Ll1Lu1Ll1Lu1Ll1Lu1Ll1Lu1Ll1Lu3Ll1Lu1Ll1Lu1Ll1Lu1Ll1Lu1Ll1Lu1Ll1Lu1Ll1Lu1Ll" ++
    "1Lu1Ll1Lu1Ll1Lu1Ll1Lu1Ll1Lu1Ll1Lu1Ll1Lu1Ll1Lu1Ll1Lu1Ll1Lu1Ll1Lu1Ll1Lu1Ll1Lu1Ll1Lu1Ll1Lu1Ll1Lu1" ++
    "Ll1Lu1Ll1Lu1Ll1Lu1Ll1Lu1Ll1Lu1Ll1Lu1Ll1Lu1Ll1Lu1Ll1Lm8Ll1Lu1Ll1Lu1Ll2Lu1Ll1Lu1Ll1Lu1Ll1Lu1Ll1L" ++
    "u1Ll1Lm2Sk1Lu1Ll1Lu1Ll1Lo1Lu1Ll1Lu3Ll1Lu1Ll1Lu1Ll1Lu1Ll1Lu1Ll1Lu1Ll1Lu1Ll1Lu1Ll1Lu1Ll1Lu1Ll1Lu" ++
    "1Ll5Lu1Ll5Lu1Ll1Lu1Ll1Lu1Ll1Lu1Ll1Lu1Ll1Lu1Ll1Lu1Ll1Lu1Ll4Lu1Ll1Lu1Ll5Cn1Lu1Ll1Cn1Ll1Cn1Ll1Lu1" ++
    "Ll1Lu1LloCn3Lm1Lu1Ll1Lo2Lm1Ll7Lo1Mn3Lo1Mn4Lo1MnnLo2Mc2Mn1Mc4So1Mn3Cn6No2So1Sc1So6Cn1gLo4Po8Cn2" ++
    "Mc1eLogMc2Mn8Cn2PoaNd6CniMn6Lo3Po1Lo1Po2Lo1MnaNdsLo8Mn2PonLobMn2McbCn1PotLo3Cn3Mn1Mc1bLo1Mn2Mc" ++
    "4Mn2Mc2Mn3McdPo1Cn1LmaNd4Cn2Po5Lo1Mn1Lm9LoaNd5Lo1Cn15Lo6Mn2Mc2Mn2Mc2Mn9Cn3Lo1Mn8Lo1Mn1Mc2CnaNd" ++
    "2Cn4PogLo1Lm6Lo3So1Lo1Mc1Mn1Mc1eLo1Mn1Lo3Mn2Lo2Mn5Lo2Mn1Lo1Mn1LooCn2Lo1Lm2PobLo1Mc2Mn2Mc2Po1Lo" ++
    "2Lm1Mc1MnaCn6Lo2Cn6Lo2Cn6Lo9Cn7Lo1Cn7Lo1Cn17Ll1Sk4Lm9Ll1Lm2Sk4Cn28LlzLo2Mc1Mn2Mc1Mn2Mc1Po1Mc1M" ++
    "n2CnaNd6Cn8mcLocCnnLo4Cn1dLo4Cn1kwCs4xsCoa6Lo2Cn2yLo12Cn7LlcCn5Ll5Cn1Lo1MnaLo1SmdLo1Cn5Lo1Cn1L" ++
    "o1Cn2Lo1Cn2Lo1Cn30LohSkgCna3Lo1Pe1PsgSo1sLo2Cn1iLo7Cn1SowCncLo1Sc3SogMn7Po1Ps1Pe1Po6CngMn1Po2P" ++
    "d2Pc1Ps1Pe1Ps1Pe1Ps1Pe1Ps1Pe1Ps1Pe1Ps1Pe1Ps1Pe1Ps1Pe2Po1Ps1Pe4Po3Pc3Po1Cn4Po1Pd1Ps1Pe1Ps1Pe1Ps" ++
    "1Pe3Po1Sm1Pd3Sm1Cn1Po1Sc2Po4Cn5Lo1Cn3rLo2Cn1Cf1Cn3Po1Sc3Po1Ps1Pe1Po1Sm1Po1Pd2PoaNd2Po3Sm2PoqLu" ++
    "1Ps1Po1Pe1Sk1Pc1SkqLl1Ps1Sm1Pe1Sm1Ps1Pe1Po1Ps1Pe2PoaLo1Lm19Lo2LmvLo3Cn6Lo2Cn6Lo2Cn6Lo2Cn3Lo3Cn" ++
    "2Sc1Sm1Sk1So2Sc1Cn1So4Sm2SoaCn3Cf2So2CncLo1CnqLo1CnjLo1Cn2Lo1CnfLo2CneLoyCn3fLo5Cn3Po4Cn19No3C" ++
    "n9So1hNl4NohSo2No3So1CndSo3Cn1So1bCn19So1Mn3mCntLo3Cn1dLofCn1MnrNo4CnwLo4No9CnkLo1Nl8Lo1Nl5Cn1" ++
    "2Lo5Mn5CnuLo1Cn1Po10Lo4Cn8Lo1Po5Nl16Cn14Lu14Ll26Lo2CnaNd6Cn10Lu4Cn10Ll4Cn14Lo8Cn1gLobCn1PobLu1" ++
    "CnfLu1Cn7Lu1Cn2Lu1CnbLl1CnfLl1Cn7Ll1Cn2Ll1vCn8nLo9CnmLoaCn8LooCn6Lm1Cn16Lm1Cn9Lm1xCn6Lo2Cn1Lo1" ++
    "Cn18Lo1Cn2Lo3Cn1Lo2CnnLo1Cn1Po8NonLo2So7NovLo8Cn9No1cCnjLo1Cn2Lo5Cn5NomLo6No3Cn1PoqLo5Cn1Po1sC" ++
    "n1kLo4Cn2No2LogNo2Cn1aNo1Lo3Mn1Cn2Mn5Cn4Mn4Lo1Cn3Lo1CntLo2Cn3Mn4Cn1Mn9No7Cn9Po7CntLo2No1PotLo3" ++
    "NowCn8Lo1SosLo2Mn4Cn5No7Po9Cn1iLo3Cn7PomLo2Cn8NojLo5Cn8NoiLo7Cn4PocCn7No28Cn21Lo1jCn1fLudCn1fL" ++
    "l7Cn6No10Lo4Mn8CnaNd86CnvNo1Cn16Lo1Cn2Mn1Pd2Cn2Lo23Cn3MntLoaNo1Lo8CnmLobMn4No5PomCniLo4Mn4Po12" ++
    "CnlLo7NokCnnLo9Cn1Mc1Mn1Mc1hLofMn7Po4CnkNoaNd1Mn2Lo2Mn1Lo9Cn3Mn1Mc19Lo3Mc4Mn2Mc2Mn2Po1Cf4Po1Mn" ++
    "aCn1Cf2CnpLo7CnaNd6Cn3Mn10Lo5Mn1Mc8Mn1CnaNd4Po1Lo2Mc1Lo8CnzLo1Mn2Po1Lo9Cn2Mn1Mc1cLo3Mc9Mn2Mc4L" ++
    "o4Po4Mn1Po1Mc1MnaNd1Lo1Po1Lo3Po1CnkNobCniLo1CnpLo3Mc3Mn2Mc1Mn1Mc2Mn6Po1Mn2Lo1Mn1qCn7Lo1Cn1Lo1C" ++
    "n4Lo1CnfLo1CnaLo1Po6Cn1bLo1Mn3Mc8Mn5CnaNd6Cn2Mn2Mc1Cn8Lo2Cn2Lo2CnmLo1Cn7Lo1Cn2Lo1Cn5Lo1Cn2Mn1L" ++
    "o2Mc1Mn4Mc2Cn2Mc2Cn3Mc2Cn1Lo6Cn1Mc5Cn5Lo2Mc2Cn7Mn3Cn5Mn3vCn1hLo3Mc8Mn2Mc3Mn1Mc1Mn4Lo5PoaNd2Po1" ++
    "Cn1Po1Mn3LouCn1cLo3Mc6Mn1Mc1Mn4Mc2Mn1Mc2Mn2Lo1Po1Lo8CnaNd4mCn1bLo3Mc4Mn2Cn4Mc2Mn1Mc2MnnPo4Lo2M" ++
    "nyCn1cLo3Mc8Mn2Mc1Mn1Mc2Mn3Po1LobCnaNd6CndPojCn17Lo1Mn1Mc1Mn2Mc6Mn1Mc1Mn1Lo1Po6CnaNd1iCnrLo2Cn" ++
    "3Mn2Mc4Mn1Mc5Mn4CnaNd2No3Po1So7Lo55Cn18Lo3Mc9Mn1Mc2Mn1Po2sCnwLuwLlaNd9NocCn8Lo2Cn1Lo2Cn8Lo1Cn2" ++
    "Lo1CnoLo6Mc1Cn2Mc2Cn2Mn1Mc1Mn1Lo1Mc1Lo1Mc1Mn3Po9CnaNd1yCn8Lo2Cn13Lo3Mc4Mn2Cn2Mn4Mc1Mn1Lo1Po1Lo" ++
    "1McrCn1LoaMn14Lo6Mn1Mc1Lo4Mn8Po1Mn8Cn1Lo6Mn2Mc3Mn1aLodMn1Mc2Mn3Po1Lo5PodCn21Lo7CnaPo6uCn9Lo1Cn" ++
    "11Lo1Mc7Mn1Cn6Mn1Mc1Mn1Lo5PoaCnaNdjNo3Cn2PouLo2CnmMn1Cn1Mc7Mn1Mc2Mn1Mc2Mn21Cn7Lo1Cn2Lo1Cn12Lo6" ++
    "Mn3Cn1Mn1Cn2Mn1Cn7Mn1Lo1Mn8CnaNd6Cn6Lo1Cn2Lo1CnwLo5Mc1Cn2Mn1Cn2Mc1Mn1Mc1Mn1Lo7CnaNd8mCnjLo2Mn2" ++
    "Mc2Po7Cn2Mn1Lo1McdLo1CnyLo2Mc5Mn3Cn2Mc1Mn1Mc1MndPoaNd2eCn1LofCnlNo8So4SchSodCn1PopmLo2uCn33Nl1" ++
    "Cn5PobCn5gLo218Cn2pLo2PodCntsLogCf1Mn6LofMn33eCng7Lo6ntCnftLo7CnvLo1CnaNd4Cn2Po27Lo1CnaNd6CnuL" ++
    "o2Cn5Mn1PoaCn1cLo7Mn5Po4So4Lm1Po1SoaCnaNd1Cn7No1CnlLo5CnjLoj4CnwLuwLlnNo4Po2tCn23Lo4Cn1Mn1Lo1j" ++
    "Mc7Cn4MndLm1sCn2Lm1Po1Lm1MnbCn2MceCn4qgLo8CnyeLo16Cn9Lo6w7Cn4Lm1Cn7Lm1Cn2Lm1Cn83LofCn1LotCn3Lo" ++
    "2Cn1LoeCn4Lo8Cnb0Lo1s4Cn2zLo5CndLo3Cn9Lo7CnaLo2Cn1So2Mn1Po4Cf3mkCn1aMn2CnnMn9Cn38So1oCn6uSoaCn" ++
    "13So2Cn1oSo2Mc3Mn3So6Mc8Cf8Mn2So7MnuSo4Mn1pSolCn1uSo3Mn1So3eCnkNocCnkNocCn2fSo9CnpNo3rCnqLuqLl" ++
    "qLu7Ll1CniLlqLuqLl1Lu1Cn2Lu2Cn1Lu2Cn2Lu2Cn4Lu1Cn8Lu4Ll1Cn1Ll1Cn7Ll1CnbLlqLuqLl2Lu1Cn4Lu2Cn8Lu1" ++
    "Cn7Lu1CnqLl2Lu1Cn4Lu1Cn5Lu1Cn1Lu3Cn7Lu1CnqLlqLuqLlqLuqLlqLuqLlqLuqLlqLuqLlqLusLl2CnpLu1SmpLl1S" ++
    "m6LlpLu1SmpLl1Sm6LlpLu1SmpLl1Sm6LlpLu1SmpLl1Sm6LlpLu1SmpLl1Sm6Ll1Lu1Ll2Cn1eNde8So1jMn4So1eMn8S" ++
    "o1MneSo1Mn2So5PofCn5Mn1CnfMnuoCnaLl1LokLl6Cn6Ll5xCn7Mn1CnhMn2Cn7Mn1Cn2Mn1Cn5Mn5Cn1qLmxCn1Mn34C" ++
    "n19Lo3Cn7Mn7Lm2CnaNd4Cn1Lo1So8wCnuLo1MnhCn18Lo4MnaNd5Cn1SccwCnrLo1Lm4MnaNdkmCn7Lo1Cn4Lo1Cn2Lo1" ++
    "CnfLo1Cn5hLo2Cn9No7Mn15CnyLuyLl7Mn1Lm4CnaNd4Cn2PoltCn1nNo1So3No1Sc4No24Cn19No1SofNo5eCn4Lo1Cnr" ++
    "Lo1Cn2Lo1Cn1Lo2Cn1Lo1CnaLo1Cn4Lo1Cn1Lo1Cn1Lo6Cn1Lo4Cn1Lo1Cn1Lo1Cn1Lo1Cn3Lo1Cn2Lo1Cn1Lo2Cn1Lo1C" ++
    "n1Lo1Cn1Lo1Cn1Lo1Cn1Lo1Cn2Lo1Cn1Lo2Cn4Lo1Cn7Lo1Cn4Lo1Cn4Lo1Cn1Lo1CnaLo1CnhLo5Cn3Lo1Cn5Lo1CnhLo" ++
    "1gCn2Sm7iCn18So4Cn2sSocCnfSo2CnfSo1CnfSo1Cn11SoaCndNo4hSo1kCntSodCn18So4Cn9So7Cn2SoeCn6So4aCn6" ++
    "zSo5Skk8So4CnhSo3CndSo3Cn3bSo4Cn2nSo6CncSo4Cn1SofCncSo4Cn1kSo8CnaSo6Cn14So8CnuSo2Cn2So26Cn9gSo" ++
    "cCneSo2CndSo3Cn9So7Cn1aSo1Cn7So8CneSo4Cn9So7Cn9So7Cn43So1Cn1jSo11CnaNdsmCnwyoLowCn37eLo6Cn66Lo" ++
    "2Cn4g2LoeCn5rlLo2e7Cnf2Lo15uCn3t7Lo5Cn38gLof975Cn1CfuCn2oCf3kCn6oMn1e6oCn1ekeCo2Cn1ekeCo2Cn"

/-- The runs of categories. -/
def categoryRuns : Runs :=
  .parse 2 categoryText

/-- The name of the category of a character. -/
def category (c : Char) : String :=
  (categoryRuns.at? c.toNat).getD "Cn"

/-- The long and the short names of the categories and groups, in lower case and without
separators, each with the categories it stands for. -/
def categoryNames : List (String × List String) := [
  ("uppercaseletter", ["Lu"]),
  ("lu", ["Lu"]),
  ("lowercaseletter", ["Ll"]),
  ("ll", ["Ll"]),
  ("titlecaseletter", ["Lt"]),
  ("lt", ["Lt"]),
  ("modifierletter", ["Lm"]),
  ("lm", ["Lm"]),
  ("otherletter", ["Lo"]),
  ("lo", ["Lo"]),
  ("nonspacingmark", ["Mn"]),
  ("mn", ["Mn"]),
  ("spacingmark", ["Mc"]),
  ("mc", ["Mc"]),
  ("enclosingmark", ["Me"]),
  ("me", ["Me"]),
  ("decimalnumber", ["Nd"]),
  ("nd", ["Nd"]),
  ("letternumber", ["Nl"]),
  ("nl", ["Nl"]),
  ("othernumber", ["No"]),
  ("no", ["No"]),
  ("connectorpunctuation", ["Pc"]),
  ("pc", ["Pc"]),
  ("dashpunctuation", ["Pd"]),
  ("pd", ["Pd"]),
  ("openpunctuation", ["Ps"]),
  ("ps", ["Ps"]),
  ("closepunctuation", ["Pe"]),
  ("pe", ["Pe"]),
  ("initialpunctuation", ["Pi"]),
  ("pi", ["Pi"]),
  ("finalpunctuation", ["Pf"]),
  ("pf", ["Pf"]),
  ("otherpunctuation", ["Po"]),
  ("po", ["Po"]),
  ("mathsymbol", ["Sm"]),
  ("sm", ["Sm"]),
  ("currencysymbol", ["Sc"]),
  ("sc", ["Sc"]),
  ("modifiersymbol", ["Sk"]),
  ("sk", ["Sk"]),
  ("othersymbol", ["So"]),
  ("so", ["So"]),
  ("spaceseparator", ["Zs"]),
  ("zs", ["Zs"]),
  ("lineseparator", ["Zl"]),
  ("zl", ["Zl"]),
  ("paragraphseparator", ["Zp"]),
  ("zp", ["Zp"]),
  ("control", ["Cc"]),
  ("cc", ["Cc"]),
  ("format", ["Cf"]),
  ("cf", ["Cf"]),
  ("surrogate", ["Cs"]),
  ("cs", ["Cs"]),
  ("privateuse", ["Co"]),
  ("co", ["Co"]),
  ("unassigned", ["Cn"]),
  ("cn", ["Cn"]),
  ("letter", ["Lu", "Ll", "Lt", "Lm", "Lo"]),
  ("l", ["Lu", "Ll", "Lt", "Lm", "Lo"]),
  ("casedletter", ["Lu", "Ll", "Lt"]),
  ("lc", ["Lu", "Ll", "Lt"]),
  ("mark", ["Mn", "Mc", "Me"]),
  ("m", ["Mn", "Mc", "Me"]),
  ("number", ["Nd", "Nl", "No"]),
  ("n", ["Nd", "Nl", "No"]),
  ("punctuation", ["Pc", "Pd", "Ps", "Pe", "Pi", "Pf", "Po"]),
  ("p", ["Pc", "Pd", "Ps", "Pe", "Pi", "Pf", "Po"]),
  ("symbol", ["Sm", "Sc", "Sk", "So"]),
  ("s", ["Sm", "Sc", "Sk", "So"]),
  ("separator", ["Zs", "Zl", "Zp"]),
  ("z", ["Zs", "Zl", "Zp"]),
  ("other", ["Cc", "Cf", "Cs", "Co", "Cn"]),
  ("c", ["Cc", "Cf", "Cs", "Co", "Cn"]),
  ("punct", ["Pc", "Pd", "Ps", "Pe", "Pi", "Pf", "Po"]),
  ("cntrl", ["Cc"]),
  ("digit", ["Nd"]),
  ("combiningmark", ["Mn", "Mc", "Me"])]

/-- The categories that a name stands for. -/
def categoryGroup? (name : String) : Option (List String) :=
  categoryNames.lookup name

end Courier.Unicode
