/-
Full compatibility decompositions: kana, squared East Asian words, radicals and ideographs, and the later phonetic letters. Each
row holds the decomposition and, as its last digit, the character it belongs to.
-/

namespace FileIndex.Text.Decomposition

set_option maxRecDepth 40000 in
/-- Radicals, kana, and squared East Asian words. -/
def kana : List Nat := [
  0x006BCD_002E9F, 0x009F9F_002EF3, 0x004E00_002F00, 0x004E28_002F01, 0x004E36_002F02,
  0x004E3F_002F03, 0x004E59_002F04, 0x004E85_002F05, 0x004E8C_002F06, 0x004EA0_002F07,
  0x004EBA_002F08, 0x00513F_002F09, 0x005165_002F0A, 0x00516B_002F0B, 0x005182_002F0C,
  0x005196_002F0D, 0x0051AB_002F0E, 0x0051E0_002F0F, 0x0051F5_002F10, 0x005200_002F11,
  0x00529B_002F12, 0x0052F9_002F13, 0x005315_002F14, 0x00531A_002F15, 0x005338_002F16,
  0x005341_002F17, 0x00535C_002F18, 0x005369_002F19, 0x005382_002F1A, 0x0053B6_002F1B,
  0x0053C8_002F1C, 0x0053E3_002F1D, 0x0056D7_002F1E, 0x00571F_002F1F, 0x0058EB_002F20,
  0x005902_002F21, 0x00590A_002F22, 0x005915_002F23, 0x005927_002F24, 0x005973_002F25,
  0x005B50_002F26, 0x005B80_002F27, 0x005BF8_002F28, 0x005C0F_002F29, 0x005C22_002F2A,
  0x005C38_002F2B, 0x005C6E_002F2C, 0x005C71_002F2D, 0x005DDB_002F2E, 0x005DE5_002F2F,
  0x005DF1_002F30, 0x005DFE_002F31, 0x005E72_002F32, 0x005E7A_002F33, 0x005E7F_002F34,
  0x005EF4_002F35, 0x005EFE_002F36, 0x005F0B_002F37, 0x005F13_002F38, 0x005F50_002F39,
  0x005F61_002F3A, 0x005F73_002F3B, 0x005FC3_002F3C, 0x006208_002F3D, 0x006236_002F3E,
  0x00624B_002F3F, 0x00652F_002F40, 0x006534_002F41, 0x006587_002F42, 0x006597_002F43,
  0x0065A4_002F44, 0x0065B9_002F45, 0x0065E0_002F46, 0x0065E5_002F47, 0x0066F0_002F48,
  0x006708_002F49, 0x006728_002F4A, 0x006B20_002F4B, 0x006B62_002F4C, 0x006B79_002F4D,
  0x006BB3_002F4E, 0x006BCB_002F4F, 0x006BD4_002F50, 0x006BDB_002F51, 0x006C0F_002F52,
  0x006C14_002F53, 0x006C34_002F54, 0x00706B_002F55, 0x00722A_002F56, 0x007236_002F57,
  0x00723B_002F58, 0x00723F_002F59, 0x007247_002F5A, 0x007259_002F5B, 0x00725B_002F5C,
  0x0072AC_002F5D, 0x007384_002F5E, 0x007389_002F5F, 0x0074DC_002F60, 0x0074E6_002F61,
  0x007518_002F62, 0x00751F_002F63, 0x007528_002F64, 0x007530_002F65, 0x00758B_002F66,
  0x007592_002F67, 0x007676_002F68, 0x00767D_002F69, 0x0076AE_002F6A, 0x0076BF_002F6B,
  0x0076EE_002F6C, 0x0077DB_002F6D, 0x0077E2_002F6E, 0x0077F3_002F6F, 0x00793A_002F70,
  0x0079B8_002F71, 0x0079BE_002F72, 0x007A74_002F73, 0x007ACB_002F74, 0x007AF9_002F75,
  0x007C73_002F76, 0x007CF8_002F77, 0x007F36_002F78, 0x007F51_002F79, 0x007F8A_002F7A,
  0x007FBD_002F7B, 0x008001_002F7C, 0x00800C_002F7D, 0x008012_002F7E, 0x008033_002F7F,
  0x00807F_002F80, 0x008089_002F81, 0x0081E3_002F82, 0x0081EA_002F83, 0x0081F3_002F84,
  0x0081FC_002F85, 0x00820C_002F86, 0x00821B_002F87, 0x00821F_002F88, 0x00826E_002F89,
  0x008272_002F8A, 0x008278_002F8B, 0x00864D_002F8C, 0x00866B_002F8D, 0x008840_002F8E,
  0x00884C_002F8F, 0x008863_002F90, 0x00897E_002F91, 0x00898B_002F92, 0x0089D2_002F93,
  0x008A00_002F94, 0x008C37_002F95, 0x008C46_002F96, 0x008C55_002F97, 0x008C78_002F98,
  0x008C9D_002F99, 0x008D64_002F9A, 0x008D70_002F9B, 0x008DB3_002F9C, 0x008EAB_002F9D,
  0x008ECA_002F9E, 0x008F9B_002F9F, 0x008FB0_002FA0, 0x008FB5_002FA1, 0x009091_002FA2,
  0x009149_002FA3, 0x0091C6_002FA4, 0x0091CC_002FA5, 0x0091D1_002FA6, 0x009577_002FA7,
  0x009580_002FA8, 0x00961C_002FA9, 0x0096B6_002FAA, 0x0096B9_002FAB, 0x0096E8_002FAC,
  0x009751_002FAD, 0x00975E_002FAE, 0x009762_002FAF, 0x009769_002FB0, 0x0097CB_002FB1,
  0x0097ED_002FB2, 0x0097F3_002FB3, 0x009801_002FB4, 0x0098A8_002FB5, 0x0098DB_002FB6,
  0x0098DF_002FB7, 0x009996_002FB8, 0x009999_002FB9, 0x0099AC_002FBA, 0x009AA8_002FBB,
  0x009AD8_002FBC, 0x009ADF_002FBD, 0x009B25_002FBE, 0x009B2F_002FBF, 0x009B32_002FC0,
  0x009B3C_002FC1, 0x009B5A_002FC2, 0x009CE5_002FC3, 0x009E75_002FC4, 0x009E7F_002FC5,
  0x009EA5_002FC6, 0x009EBB_002FC7, 0x009EC3_002FC8, 0x009ECD_002FC9, 0x009ED1_002FCA,
  0x009EF9_002FCB, 0x009EFD_002FCC, 0x009F0E_002FCD, 0x009F13_002FCE, 0x009F20_002FCF,
  0x009F3B_002FD0, 0x009F4A_002FD1, 0x009F52_002FD2, 0x009F8D_002FD3, 0x009F9C_002FD4,
  0x009FA0_002FD5, 0x000020_003000, 0x003012_003036, 0x005341_003038, 0x005344_003039,
  0x005345_00303A, 0x00304B_003099_00304C, 0x00304D_003099_00304E, 0x00304F_003099_003050,
  0x003051_003099_003052, 0x003053_003099_003054, 0x003055_003099_003056, 0x003057_003099_003058,
  0x003059_003099_00305A, 0x00305B_003099_00305C, 0x00305D_003099_00305E, 0x00305F_003099_003060,
  0x003061_003099_003062, 0x003064_003099_003065, 0x003066_003099_003067, 0x003068_003099_003069,
  0x00306F_003099_003070, 0x00306F_00309A_003071, 0x003072_003099_003073, 0x003072_00309A_003074,
  0x003075_003099_003076, 0x003075_00309A_003077, 0x003078_003099_003079, 0x003078_00309A_00307A,
  0x00307B_003099_00307C, 0x00307B_00309A_00307D, 0x003046_003099_003094, 0x000020_003099_00309B,
  0x000020_00309A_00309C, 0x00309D_003099_00309E, 0x003088_00308A_00309F, 0x0030AB_003099_0030AC,
  0x0030AD_003099_0030AE, 0x0030AF_003099_0030B0, 0x0030B1_003099_0030B2, 0x0030B3_003099_0030B4,
  0x0030B5_003099_0030B6, 0x0030B7_003099_0030B8, 0x0030B9_003099_0030BA, 0x0030BB_003099_0030BC,
  0x0030BD_003099_0030BE, 0x0030BF_003099_0030C0, 0x0030C1_003099_0030C2, 0x0030C4_003099_0030C5,
  0x0030C6_003099_0030C7, 0x0030C8_003099_0030C9, 0x0030CF_003099_0030D0, 0x0030CF_00309A_0030D1,
  0x0030D2_003099_0030D3, 0x0030D2_00309A_0030D4, 0x0030D5_003099_0030D6, 0x0030D5_00309A_0030D7,
  0x0030D8_003099_0030D9, 0x0030D8_00309A_0030DA, 0x0030DB_003099_0030DC, 0x0030DB_00309A_0030DD,
  0x0030A6_003099_0030F4, 0x0030EF_003099_0030F7, 0x0030F0_003099_0030F8, 0x0030F1_003099_0030F9,
  0x0030F2_003099_0030FA, 0x0030FD_003099_0030FE, 0x0030B3_0030C8_0030FF, 0x001100_003131,
  0x001101_003132, 0x0011AA_003133, 0x001102_003134, 0x0011AC_003135, 0x0011AD_003136,
  0x001103_003137, 0x001104_003138, 0x001105_003139, 0x0011B0_00313A, 0x0011B1_00313B,
  0x0011B2_00313C, 0x0011B3_00313D, 0x0011B4_00313E, 0x0011B5_00313F, 0x00111A_003140,
  0x001106_003141, 0x001107_003142, 0x001108_003143, 0x001121_003144, 0x001109_003145,
  0x00110A_003146, 0x00110B_003147, 0x00110C_003148, 0x00110D_003149, 0x00110E_00314A,
  0x00110F_00314B, 0x001110_00314C, 0x001111_00314D, 0x001112_00314E, 0x001161_00314F,
  0x001162_003150, 0x001163_003151, 0x001164_003152, 0x001165_003153, 0x001166_003154,
  0x001167_003155, 0x001168_003156, 0x001169_003157, 0x00116A_003158, 0x00116B_003159,
  0x00116C_00315A, 0x00116D_00315B, 0x00116E_00315C, 0x00116F_00315D, 0x001170_00315E,
  0x001171_00315F, 0x001172_003160, 0x001173_003161, 0x001174_003162, 0x001175_003163,
  0x001160_003164, 0x001114_003165, 0x001115_003166, 0x0011C7_003167, 0x0011C8_003168,
  0x0011CC_003169, 0x0011CE_00316A, 0x0011D3_00316B, 0x0011D7_00316C, 0x0011D9_00316D,
  0x00111C_00316E, 0x0011DD_00316F, 0x0011DF_003170, 0x00111D_003171, 0x00111E_003172,
  0x001120_003173, 0x001122_003174, 0x001123_003175, 0x001127_003176, 0x001129_003177,
  0x00112B_003178, 0x00112C_003179, 0x00112D_00317A, 0x00112E_00317B, 0x00112F_00317C,
  0x001132_00317D, 0x001136_00317E, 0x001140_00317F, 0x001147_003180, 0x00114C_003181,
  0x0011F1_003182, 0x0011F2_003183, 0x001157_003184, 0x001158_003185, 0x001159_003186,
  0x001184_003187, 0x001185_003188, 0x001188_003189, 0x001191_00318A, 0x001192_00318B,
  0x001194_00318C, 0x00119E_00318D, 0x0011A1_00318E, 0x004E00_003192, 0x004E8C_003193,
  0x004E09_003194, 0x0056DB_003195, 0x004E0A_003196, 0x004E2D_003197, 0x004E0B_003198,
  0x007532_003199, 0x004E59_00319A, 0x004E19_00319B, 0x004E01_00319C, 0x005929_00319D,
  0x005730_00319E, 0x004EBA_00319F, 0x000028_001100_000029_003200, 0x000028_001102_000029_003201,
  0x000028_001103_000029_003202, 0x000028_001105_000029_003203, 0x000028_001106_000029_003204,
  0x000028_001107_000029_003205, 0x000028_001109_000029_003206, 0x000028_00110B_000029_003207,
  0x000028_00110C_000029_003208, 0x000028_00110E_000029_003209, 0x000028_00110F_000029_00320A,
  0x000028_001110_000029_00320B, 0x000028_001111_000029_00320C, 0x000028_001112_000029_00320D,
  0x000028_001100_001161_000029_00320E, 0x000028_001102_001161_000029_00320F,
  0x000028_001103_001161_000029_003210, 0x000028_001105_001161_000029_003211,
  0x000028_001106_001161_000029_003212, 0x000028_001107_001161_000029_003213,
  0x000028_001109_001161_000029_003214, 0x000028_00110B_001161_000029_003215,
  0x000028_00110C_001161_000029_003216, 0x000028_00110E_001161_000029_003217,
  0x000028_00110F_001161_000029_003218, 0x000028_001110_001161_000029_003219,
  0x000028_001111_001161_000029_00321A, 0x000028_001112_001161_000029_00321B,
  0x000028_00110C_00116E_000029_00321C, 0x000028_00110B_001169_00110C_001165_0011AB_000029_00321D,
  0x000028_00110B_001169_001112_00116E_000029_00321E, 0x000028_004E00_000029_003220,
  0x000028_004E8C_000029_003221, 0x000028_004E09_000029_003222, 0x000028_0056DB_000029_003223,
  0x000028_004E94_000029_003224, 0x000028_00516D_000029_003225, 0x000028_004E03_000029_003226,
  0x000028_00516B_000029_003227, 0x000028_004E5D_000029_003228, 0x000028_005341_000029_003229,
  0x000028_006708_000029_00322A, 0x000028_00706B_000029_00322B, 0x000028_006C34_000029_00322C,
  0x000028_006728_000029_00322D, 0x000028_0091D1_000029_00322E, 0x000028_00571F_000029_00322F,
  0x000028_0065E5_000029_003230, 0x000028_00682A_000029_003231, 0x000028_006709_000029_003232,
  0x000028_00793E_000029_003233, 0x000028_00540D_000029_003234, 0x000028_007279_000029_003235,
  0x000028_008CA1_000029_003236, 0x000028_00795D_000029_003237, 0x000028_0052B4_000029_003238,
  0x000028_004EE3_000029_003239, 0x000028_00547C_000029_00323A, 0x000028_005B66_000029_00323B,
  0x000028_0076E3_000029_00323C, 0x000028_004F01_000029_00323D, 0x000028_008CC7_000029_00323E,
  0x000028_005354_000029_00323F, 0x000028_00796D_000029_003240, 0x000028_004F11_000029_003241,
  0x000028_0081EA_000029_003242, 0x000028_0081F3_000029_003243, 0x00554F_003244, 0x005E7C_003245,
  0x006587_003246, 0x007B8F_003247, 0x000050_000054_000045_003250, 0x000032_000031_003251,
  0x000032_000032_003252, 0x000032_000033_003253, 0x000032_000034_003254, 0x000032_000035_003255,
  0x000032_000036_003256, 0x000032_000037_003257, 0x000032_000038_003258, 0x000032_000039_003259,
  0x000033_000030_00325A, 0x000033_000031_00325B, 0x000033_000032_00325C, 0x000033_000033_00325D,
  0x000033_000034_00325E, 0x000033_000035_00325F, 0x001100_003260, 0x001102_003261,
  0x001103_003262, 0x001105_003263, 0x001106_003264, 0x001107_003265, 0x001109_003266,
  0x00110B_003267, 0x00110C_003268, 0x00110E_003269, 0x00110F_00326A, 0x001110_00326B,
  0x001111_00326C, 0x001112_00326D, 0x001100_001161_00326E, 0x001102_001161_00326F,
  0x001103_001161_003270, 0x001105_001161_003271, 0x001106_001161_003272, 0x001107_001161_003273,
  0x001109_001161_003274, 0x00110B_001161_003275, 0x00110C_001161_003276, 0x00110E_001161_003277,
  0x00110F_001161_003278, 0x001110_001161_003279, 0x001111_001161_00327A, 0x001112_001161_00327B,
  0x00110E_001161_0011B7_001100_001169_00327C, 0x00110C_00116E_00110B_001174_00327D,
  0x00110B_00116E_00327E, 0x004E00_003280, 0x004E8C_003281, 0x004E09_003282, 0x0056DB_003283,
  0x004E94_003284, 0x00516D_003285, 0x004E03_003286, 0x00516B_003287, 0x004E5D_003288,
  0x005341_003289, 0x006708_00328A, 0x00706B_00328B, 0x006C34_00328C, 0x006728_00328D,
  0x0091D1_00328E, 0x00571F_00328F, 0x0065E5_003290, 0x00682A_003291, 0x006709_003292,
  0x00793E_003293, 0x00540D_003294, 0x007279_003295, 0x008CA1_003296, 0x00795D_003297,
  0x0052B4_003298, 0x0079D8_003299, 0x007537_00329A, 0x005973_00329B, 0x009069_00329C,
  0x00512A_00329D, 0x005370_00329E, 0x006CE8_00329F, 0x009805_0032A0, 0x004F11_0032A1,
  0x005199_0032A2, 0x006B63_0032A3, 0x004E0A_0032A4, 0x004E2D_0032A5, 0x004E0B_0032A6,
  0x005DE6_0032A7, 0x0053F3_0032A8, 0x00533B_0032A9, 0x005B97_0032AA, 0x005B66_0032AB,
  0x0076E3_0032AC, 0x004F01_0032AD, 0x008CC7_0032AE, 0x005354_0032AF, 0x00591C_0032B0,
  0x000033_000036_0032B1, 0x000033_000037_0032B2, 0x000033_000038_0032B3, 0x000033_000039_0032B4,
  0x000034_000030_0032B5, 0x000034_000031_0032B6, 0x000034_000032_0032B7, 0x000034_000033_0032B8,
  0x000034_000034_0032B9, 0x000034_000035_0032BA, 0x000034_000036_0032BB, 0x000034_000037_0032BC,
  0x000034_000038_0032BD, 0x000034_000039_0032BE, 0x000035_000030_0032BF, 0x000031_006708_0032C0,
  0x000032_006708_0032C1, 0x000033_006708_0032C2, 0x000034_006708_0032C3, 0x000035_006708_0032C4,
  0x000036_006708_0032C5, 0x000037_006708_0032C6, 0x000038_006708_0032C7, 0x000039_006708_0032C8,
  0x000031_000030_006708_0032C9, 0x000031_000031_006708_0032CA, 0x000031_000032_006708_0032CB,
  0x000048_000067_0032CC, 0x000065_000072_000067_0032CD, 0x000065_000056_0032CE,
  0x00004C_000054_000044_0032CF, 0x0030A2_0032D0, 0x0030A4_0032D1, 0x0030A6_0032D2,
  0x0030A8_0032D3, 0x0030AA_0032D4, 0x0030AB_0032D5, 0x0030AD_0032D6, 0x0030AF_0032D7,
  0x0030B1_0032D8, 0x0030B3_0032D9, 0x0030B5_0032DA, 0x0030B7_0032DB, 0x0030B9_0032DC,
  0x0030BB_0032DD, 0x0030BD_0032DE, 0x0030BF_0032DF, 0x0030C1_0032E0, 0x0030C4_0032E1,
  0x0030C6_0032E2, 0x0030C8_0032E3, 0x0030CA_0032E4, 0x0030CB_0032E5, 0x0030CC_0032E6,
  0x0030CD_0032E7, 0x0030CE_0032E8, 0x0030CF_0032E9, 0x0030D2_0032EA, 0x0030D5_0032EB,
  0x0030D8_0032EC, 0x0030DB_0032ED, 0x0030DE_0032EE, 0x0030DF_0032EF, 0x0030E0_0032F0,
  0x0030E1_0032F1, 0x0030E2_0032F2, 0x0030E4_0032F3, 0x0030E6_0032F4, 0x0030E8_0032F5,
  0x0030E9_0032F6, 0x0030EA_0032F7, 0x0030EB_0032F8, 0x0030EC_0032F9, 0x0030ED_0032FA,
  0x0030EF_0032FB, 0x0030F0_0032FC, 0x0030F1_0032FD, 0x0030F2_0032FE, 0x004EE4_00548C_0032FF,
  0x0030A2_0030CF_00309A_0030FC_0030C8_003300, 0x0030A2_0030EB_0030D5_0030A1_003301,
  0x0030A2_0030F3_0030D8_00309A_0030A2_003302, 0x0030A2_0030FC_0030EB_003303,
  0x0030A4_0030CB_0030F3_0030AF_003099_003304, 0x0030A4_0030F3_0030C1_003305,
  0x0030A6_0030A9_0030F3_003306, 0x0030A8_0030B9_0030AF_0030FC_0030C8_003099_003307,
  0x0030A8_0030FC_0030AB_0030FC_003308, 0x0030AA_0030F3_0030B9_003309,
  0x0030AA_0030FC_0030E0_00330A, 0x0030AB_0030A4_0030EA_00330B,
  0x0030AB_0030E9_0030C3_0030C8_00330C, 0x0030AB_0030ED_0030EA_0030FC_00330D,
  0x0030AB_003099_0030ED_0030F3_00330E, 0x0030AB_003099_0030F3_0030DE_00330F,
  0x0030AD_003099_0030AB_003099_003310, 0x0030AD_003099_0030CB_0030FC_003311,
  0x0030AD_0030E5_0030EA_0030FC_003312, 0x0030AD_003099_0030EB_0030BF_003099_0030FC_003313,
  0x0030AD_0030ED_003314, 0x0030AD_0030ED_0030AF_003099_0030E9_0030E0_003315,
  0x0030AD_0030ED_0030E1_0030FC_0030C8_0030EB_003316, 0x0030AD_0030ED_0030EF_0030C3_0030C8_003317,
  0x0030AF_003099_0030E9_0030E0_003318, 0x0030AF_003099_0030E9_0030E0_0030C8_0030F3_003319,
  0x0030AF_0030EB_0030BB_003099_0030A4_0030ED_00331A, 0x0030AF_0030ED_0030FC_0030CD_00331B,
  0x0030B1_0030FC_0030B9_00331C, 0x0030B3_0030EB_0030CA_00331D,
  0x0030B3_0030FC_0030DB_00309A_00331E, 0x0030B5_0030A4_0030AF_0030EB_00331F,
  0x0030B5_0030F3_0030C1_0030FC_0030E0_003320, 0x0030B7_0030EA_0030F3_0030AF_003099_003321,
  0x0030BB_0030F3_0030C1_003322, 0x0030BB_0030F3_0030C8_003323,
  0x0030BF_003099_0030FC_0030B9_003324, 0x0030C6_003099_0030B7_003325,
  0x0030C8_003099_0030EB_003326, 0x0030C8_0030F3_003327, 0x0030CA_0030CE_003328,
  0x0030CE_0030C3_0030C8_003329, 0x0030CF_0030A4_0030C4_00332A,
  0x0030CF_00309A_0030FC_0030BB_0030F3_0030C8_00332B, 0x0030CF_00309A_0030FC_0030C4_00332C,
  0x0030CF_003099_0030FC_0030EC_0030EB_00332D, 0x0030D2_00309A_0030A2_0030B9_0030C8_0030EB_00332E,
  0x0030D2_00309A_0030AF_0030EB_00332F, 0x0030D2_00309A_0030B3_003330,
  0x0030D2_003099_0030EB_003331, 0x0030D5_0030A1_0030E9_0030C3_0030C8_003099_003332,
  0x0030D5_0030A3_0030FC_0030C8_003333, 0x0030D5_003099_0030C3_0030B7_0030A7_0030EB_003334,
  0x0030D5_0030E9_0030F3_003335, 0x0030D8_0030AF_0030BF_0030FC_0030EB_003336,
  0x0030D8_00309A_0030BD_003337, 0x0030D8_00309A_0030CB_0030D2_003338,
  0x0030D8_0030EB_0030C4_003339, 0x0030D8_00309A_0030F3_0030B9_00333A,
  0x0030D8_00309A_0030FC_0030B7_003099_00333B, 0x0030D8_003099_0030FC_0030BF_00333C,
  0x0030DB_00309A_0030A4_0030F3_0030C8_00333D, 0x0030DB_003099_0030EB_0030C8_00333E,
  0x0030DB_0030F3_00333F, 0x0030DB_00309A_0030F3_0030C8_003099_003340,
  0x0030DB_0030FC_0030EB_003341, 0x0030DB_0030FC_0030F3_003342,
  0x0030DE_0030A4_0030AF_0030ED_003343, 0x0030DE_0030A4_0030EB_003344,
  0x0030DE_0030C3_0030CF_003345, 0x0030DE_0030EB_0030AF_003346,
  0x0030DE_0030F3_0030B7_0030E7_0030F3_003347, 0x0030DF_0030AF_0030ED_0030F3_003348,
  0x0030DF_0030EA_003349, 0x0030DF_0030EA_0030CF_003099_0030FC_0030EB_00334A,
  0x0030E1_0030AB_003099_00334B, 0x0030E1_0030AB_003099_0030C8_0030F3_00334C,
  0x0030E1_0030FC_0030C8_0030EB_00334D, 0x0030E4_0030FC_0030C8_003099_00334E,
  0x0030E4_0030FC_0030EB_00334F, 0x0030E6_0030A2_0030F3_003350,
  0x0030EA_0030C3_0030C8_0030EB_003351, 0x0030EA_0030E9_003352,
  0x0030EB_0030D2_00309A_0030FC_003353, 0x0030EB_0030FC_0030D5_003099_0030EB_003354,
  0x0030EC_0030E0_003355, 0x0030EC_0030F3_0030C8_0030B1_003099_0030F3_003356,
  0x0030EF_0030C3_0030C8_003357, 0x000030_0070B9_003358, 0x000031_0070B9_003359,
  0x000032_0070B9_00335A, 0x000033_0070B9_00335B, 0x000034_0070B9_00335C, 0x000035_0070B9_00335D,
  0x000036_0070B9_00335E, 0x000037_0070B9_00335F, 0x000038_0070B9_003360, 0x000039_0070B9_003361,
  0x000031_000030_0070B9_003362, 0x000031_000031_0070B9_003363, 0x000031_000032_0070B9_003364,
  0x000031_000033_0070B9_003365, 0x000031_000034_0070B9_003366, 0x000031_000035_0070B9_003367,
  0x000031_000036_0070B9_003368, 0x000031_000037_0070B9_003369, 0x000031_000038_0070B9_00336A,
  0x000031_000039_0070B9_00336B, 0x000032_000030_0070B9_00336C, 0x000032_000031_0070B9_00336D,
  0x000032_000032_0070B9_00336E, 0x000032_000033_0070B9_00336F, 0x000032_000034_0070B9_003370,
  0x000068_000050_000061_003371, 0x000064_000061_003372, 0x000041_000055_003373,
  0x000062_000061_000072_003374, 0x00006F_000056_003375, 0x000070_000063_003376,
  0x000064_00006D_003377, 0x000064_00006D_000032_003378, 0x000064_00006D_000033_003379,
  0x000049_000055_00337A, 0x005E73_006210_00337B, 0x00662D_00548C_00337C, 0x005927_006B63_00337D,
  0x00660E_006CBB_00337E, 0x00682A_005F0F_004F1A_00793E_00337F, 0x000070_000041_003380,
  0x00006E_000041_003381, 0x0003BC_000041_003382, 0x00006D_000041_003383, 0x00006B_000041_003384,
  0x00004B_000042_003385, 0x00004D_000042_003386, 0x000047_000042_003387,
  0x000063_000061_00006C_003388, 0x00006B_000063_000061_00006C_003389, 0x000070_000046_00338A,
  0x00006E_000046_00338B, 0x0003BC_000046_00338C, 0x0003BC_000067_00338D, 0x00006D_000067_00338E,
  0x00006B_000067_00338F, 0x000048_00007A_003390, 0x00006B_000048_00007A_003391,
  0x00004D_000048_00007A_003392, 0x000047_000048_00007A_003393, 0x000054_000048_00007A_003394,
  0x0003BC_00006C_003395, 0x00006D_00006C_003396, 0x000064_00006C_003397, 0x00006B_00006C_003398,
  0x000066_00006D_003399, 0x00006E_00006D_00339A, 0x0003BC_00006D_00339B, 0x00006D_00006D_00339C,
  0x000063_00006D_00339D, 0x00006B_00006D_00339E, 0x00006D_00006D_000032_00339F,
  0x000063_00006D_000032_0033A0, 0x00006D_000032_0033A1, 0x00006B_00006D_000032_0033A2,
  0x00006D_00006D_000033_0033A3, 0x000063_00006D_000033_0033A4, 0x00006D_000033_0033A5,
  0x00006B_00006D_000033_0033A6, 0x00006D_002215_000073_0033A7,
  0x00006D_002215_000073_000032_0033A8, 0x000050_000061_0033A9, 0x00006B_000050_000061_0033AA,
  0x00004D_000050_000061_0033AB, 0x000047_000050_000061_0033AC, 0x000072_000061_000064_0033AD,
  0x000072_000061_000064_002215_000073_0033AE, 0x000072_000061_000064_002215_000073_000032_0033AF,
  0x000070_000073_0033B0, 0x00006E_000073_0033B1, 0x0003BC_000073_0033B2, 0x00006D_000073_0033B3,
  0x000070_000056_0033B4, 0x00006E_000056_0033B5, 0x0003BC_000056_0033B6, 0x00006D_000056_0033B7,
  0x00006B_000056_0033B8, 0x00004D_000056_0033B9, 0x000070_000057_0033BA, 0x00006E_000057_0033BB,
  0x0003BC_000057_0033BC, 0x00006D_000057_0033BD, 0x00006B_000057_0033BE, 0x00004D_000057_0033BF,
  0x00006B_0003A9_0033C0, 0x00004D_0003A9_0033C1, 0x000061_00002E_00006D_00002E_0033C2,
  0x000042_000071_0033C3, 0x000063_000063_0033C4, 0x000063_000064_0033C5,
  0x000043_002215_00006B_000067_0033C6, 0x000043_00006F_00002E_0033C7, 0x000064_000042_0033C8,
  0x000047_000079_0033C9, 0x000068_000061_0033CA, 0x000048_000050_0033CB, 0x000069_00006E_0033CC,
  0x00004B_00004B_0033CD, 0x00004B_00004D_0033CE, 0x00006B_000074_0033CF, 0x00006C_00006D_0033D0,
  0x00006C_00006E_0033D1, 0x00006C_00006F_000067_0033D2, 0x00006C_000078_0033D3,
  0x00006D_000062_0033D4, 0x00006D_000069_00006C_0033D5, 0x00006D_00006F_00006C_0033D6,
  0x000050_000048_0033D7, 0x000070_00002E_00006D_00002E_0033D8, 0x000050_000050_00004D_0033D9,
  0x000050_000052_0033DA, 0x000073_000072_0033DB, 0x000053_000076_0033DC, 0x000057_000062_0033DD,
  0x000056_002215_00006D_0033DE, 0x000041_002215_00006D_0033DF, 0x000031_0065E5_0033E0,
  0x000032_0065E5_0033E1, 0x000033_0065E5_0033E2, 0x000034_0065E5_0033E3, 0x000035_0065E5_0033E4,
  0x000036_0065E5_0033E5, 0x000037_0065E5_0033E6, 0x000038_0065E5_0033E7, 0x000039_0065E5_0033E8,
  0x000031_000030_0065E5_0033E9, 0x000031_000031_0065E5_0033EA, 0x000031_000032_0065E5_0033EB,
  0x000031_000033_0065E5_0033EC, 0x000031_000034_0065E5_0033ED, 0x000031_000035_0065E5_0033EE,
  0x000031_000036_0065E5_0033EF, 0x000031_000037_0065E5_0033F0, 0x000031_000038_0065E5_0033F1,
  0x000031_000039_0065E5_0033F2, 0x000032_000030_0065E5_0033F3, 0x000032_000031_0065E5_0033F4,
  0x000032_000032_0065E5_0033F5, 0x000032_000033_0065E5_0033F6, 0x000032_000034_0065E5_0033F7,
  0x000032_000035_0065E5_0033F8, 0x000032_000036_0065E5_0033F9, 0x000032_000037_0065E5_0033FA,
  0x000032_000038_0065E5_0033FB, 0x000032_000039_0065E5_0033FC, 0x000033_000030_0065E5_0033FD,
  0x000033_000031_0065E5_0033FE, 0x000067_000061_00006C_0033FF]

set_option maxRecDepth 40000 in
/-- Compatibility ideographs and the later phonetic letters. -/
def ideographs : List Nat := [
  0x00044A_00A69C, 0x00044C_00A69D, 0x00A76F_00A770, 0x000043_00A7F2, 0x000046_00A7F3,
  0x000051_00A7F4, 0x000126_00A7F8, 0x000153_00A7F9, 0x00A727_00AB5C, 0x00AB37_00AB5D,
  0x00026B_00AB5E, 0x00AB52_00AB5F, 0x00028D_00AB69, 0x008C48_00F900, 0x0066F4_00F901,
  0x008ECA_00F902, 0x008CC8_00F903, 0x006ED1_00F904, 0x004E32_00F905, 0x0053E5_00F906,
  0x009F9C_00F907, 0x009F9C_00F908, 0x005951_00F909, 0x0091D1_00F90A, 0x005587_00F90B,
  0x005948_00F90C, 0x0061F6_00F90D, 0x007669_00F90E, 0x007F85_00F90F, 0x00863F_00F910,
  0x0087BA_00F911, 0x0088F8_00F912, 0x00908F_00F913, 0x006A02_00F914, 0x006D1B_00F915,
  0x0070D9_00F916, 0x0073DE_00F917, 0x00843D_00F918, 0x00916A_00F919, 0x0099F1_00F91A,
  0x004E82_00F91B, 0x005375_00F91C, 0x006B04_00F91D, 0x00721B_00F91E, 0x00862D_00F91F,
  0x009E1E_00F920, 0x005D50_00F921, 0x006FEB_00F922, 0x0085CD_00F923, 0x008964_00F924,
  0x0062C9_00F925, 0x0081D8_00F926, 0x00881F_00F927, 0x005ECA_00F928, 0x006717_00F929,
  0x006D6A_00F92A, 0x0072FC_00F92B, 0x0090CE_00F92C, 0x004F86_00F92D, 0x0051B7_00F92E,
  0x0052DE_00F92F, 0x0064C4_00F930, 0x006AD3_00F931, 0x007210_00F932, 0x0076E7_00F933,
  0x008001_00F934, 0x008606_00F935, 0x00865C_00F936, 0x008DEF_00F937, 0x009732_00F938,
  0x009B6F_00F939, 0x009DFA_00F93A, 0x00788C_00F93B, 0x00797F_00F93C, 0x007DA0_00F93D,
  0x0083C9_00F93E, 0x009304_00F93F, 0x009E7F_00F940, 0x008AD6_00F941, 0x0058DF_00F942,
  0x005F04_00F943, 0x007C60_00F944, 0x00807E_00F945, 0x007262_00F946, 0x0078CA_00F947,
  0x008CC2_00F948, 0x0096F7_00F949, 0x0058D8_00F94A, 0x005C62_00F94B, 0x006A13_00F94C,
  0x006DDA_00F94D, 0x006F0F_00F94E, 0x007D2F_00F94F, 0x007E37_00F950, 0x00964B_00F951,
  0x0052D2_00F952, 0x00808B_00F953, 0x0051DC_00F954, 0x0051CC_00F955, 0x007A1C_00F956,
  0x007DBE_00F957, 0x0083F1_00F958, 0x009675_00F959, 0x008B80_00F95A, 0x0062CF_00F95B,
  0x006A02_00F95C, 0x008AFE_00F95D, 0x004E39_00F95E, 0x005BE7_00F95F, 0x006012_00F960,
  0x007387_00F961, 0x007570_00F962, 0x005317_00F963, 0x0078FB_00F964, 0x004FBF_00F965,
  0x005FA9_00F966, 0x004E0D_00F967, 0x006CCC_00F968, 0x006578_00F969, 0x007D22_00F96A,
  0x0053C3_00F96B, 0x00585E_00F96C, 0x007701_00F96D, 0x008449_00F96E, 0x008AAA_00F96F,
  0x006BBA_00F970, 0x008FB0_00F971, 0x006C88_00F972, 0x0062FE_00F973, 0x0082E5_00F974,
  0x0063A0_00F975, 0x007565_00F976, 0x004EAE_00F977, 0x005169_00F978, 0x0051C9_00F979,
  0x006881_00F97A, 0x007CE7_00F97B, 0x00826F_00F97C, 0x008AD2_00F97D, 0x0091CF_00F97E,
  0x0052F5_00F97F, 0x005442_00F980, 0x005973_00F981, 0x005EEC_00F982, 0x0065C5_00F983,
  0x006FFE_00F984, 0x00792A_00F985, 0x0095AD_00F986, 0x009A6A_00F987, 0x009E97_00F988,
  0x009ECE_00F989, 0x00529B_00F98A, 0x0066C6_00F98B, 0x006B77_00F98C, 0x008F62_00F98D,
  0x005E74_00F98E, 0x006190_00F98F, 0x006200_00F990, 0x00649A_00F991, 0x006F23_00F992,
  0x007149_00F993, 0x007489_00F994, 0x0079CA_00F995, 0x007DF4_00F996, 0x00806F_00F997,
  0x008F26_00F998, 0x0084EE_00F999, 0x009023_00F99A, 0x00934A_00F99B, 0x005217_00F99C,
  0x0052A3_00F99D, 0x0054BD_00F99E, 0x0070C8_00F99F, 0x0088C2_00F9A0, 0x008AAA_00F9A1,
  0x005EC9_00F9A2, 0x005FF5_00F9A3, 0x00637B_00F9A4, 0x006BAE_00F9A5, 0x007C3E_00F9A6,
  0x007375_00F9A7, 0x004EE4_00F9A8, 0x0056F9_00F9A9, 0x005BE7_00F9AA, 0x005DBA_00F9AB,
  0x00601C_00F9AC, 0x0073B2_00F9AD, 0x007469_00F9AE, 0x007F9A_00F9AF, 0x008046_00F9B0,
  0x009234_00F9B1, 0x0096F6_00F9B2, 0x009748_00F9B3, 0x009818_00F9B4, 0x004F8B_00F9B5,
  0x0079AE_00F9B6, 0x0091B4_00F9B7, 0x0096B8_00F9B8, 0x0060E1_00F9B9, 0x004E86_00F9BA,
  0x0050DA_00F9BB, 0x005BEE_00F9BC, 0x005C3F_00F9BD, 0x006599_00F9BE, 0x006A02_00F9BF,
  0x0071CE_00F9C0, 0x007642_00F9C1, 0x0084FC_00F9C2, 0x00907C_00F9C3, 0x009F8D_00F9C4,
  0x006688_00F9C5, 0x00962E_00F9C6, 0x005289_00F9C7, 0x00677B_00F9C8, 0x0067F3_00F9C9,
  0x006D41_00F9CA, 0x006E9C_00F9CB, 0x007409_00F9CC, 0x007559_00F9CD, 0x00786B_00F9CE,
  0x007D10_00F9CF, 0x00985E_00F9D0, 0x00516D_00F9D1, 0x00622E_00F9D2, 0x009678_00F9D3,
  0x00502B_00F9D4, 0x005D19_00F9D5, 0x006DEA_00F9D6, 0x008F2A_00F9D7, 0x005F8B_00F9D8,
  0x006144_00F9D9, 0x006817_00F9DA, 0x007387_00F9DB, 0x009686_00F9DC, 0x005229_00F9DD,
  0x00540F_00F9DE, 0x005C65_00F9DF, 0x006613_00F9E0, 0x00674E_00F9E1, 0x0068A8_00F9E2,
  0x006CE5_00F9E3, 0x007406_00F9E4, 0x0075E2_00F9E5, 0x007F79_00F9E6, 0x0088CF_00F9E7,
  0x0088E1_00F9E8, 0x0091CC_00F9E9, 0x0096E2_00F9EA, 0x00533F_00F9EB, 0x006EBA_00F9EC,
  0x00541D_00F9ED, 0x0071D0_00F9EE, 0x007498_00F9EF, 0x0085FA_00F9F0, 0x0096A3_00F9F1,
  0x009C57_00F9F2, 0x009E9F_00F9F3, 0x006797_00F9F4, 0x006DCB_00F9F5, 0x0081E8_00F9F6,
  0x007ACB_00F9F7, 0x007B20_00F9F8, 0x007C92_00F9F9, 0x0072C0_00F9FA, 0x007099_00F9FB,
  0x008B58_00F9FC, 0x004EC0_00F9FD, 0x008336_00F9FE, 0x00523A_00F9FF, 0x005207_00FA00,
  0x005EA6_00FA01, 0x0062D3_00FA02, 0x007CD6_00FA03, 0x005B85_00FA04, 0x006D1E_00FA05,
  0x0066B4_00FA06, 0x008F3B_00FA07, 0x00884C_00FA08, 0x00964D_00FA09, 0x00898B_00FA0A,
  0x005ED3_00FA0B, 0x005140_00FA0C, 0x0055C0_00FA0D, 0x00585A_00FA10, 0x006674_00FA12,
  0x0051DE_00FA15, 0x00732A_00FA16, 0x0076CA_00FA17, 0x00793C_00FA18, 0x00795E_00FA19,
  0x007965_00FA1A, 0x00798F_00FA1B, 0x009756_00FA1C, 0x007CBE_00FA1D, 0x007FBD_00FA1E,
  0x008612_00FA20, 0x008AF8_00FA22, 0x009038_00FA25, 0x0090FD_00FA26, 0x0098EF_00FA2A,
  0x0098FC_00FA2B, 0x009928_00FA2C, 0x009DB4_00FA2D, 0x0090DE_00FA2E, 0x0096B7_00FA2F,
  0x004FAE_00FA30, 0x0050E7_00FA31, 0x00514D_00FA32, 0x0052C9_00FA33, 0x0052E4_00FA34,
  0x005351_00FA35, 0x00559D_00FA36, 0x005606_00FA37, 0x005668_00FA38, 0x005840_00FA39,
  0x0058A8_00FA3A, 0x005C64_00FA3B, 0x005C6E_00FA3C, 0x006094_00FA3D, 0x006168_00FA3E,
  0x00618E_00FA3F, 0x0061F2_00FA40, 0x00654F_00FA41, 0x0065E2_00FA42, 0x006691_00FA43,
  0x006885_00FA44, 0x006D77_00FA45, 0x006E1A_00FA46, 0x006F22_00FA47, 0x00716E_00FA48,
  0x00722B_00FA49, 0x007422_00FA4A, 0x007891_00FA4B, 0x00793E_00FA4C, 0x007949_00FA4D,
  0x007948_00FA4E, 0x007950_00FA4F, 0x007956_00FA50, 0x00795D_00FA51, 0x00798D_00FA52,
  0x00798E_00FA53, 0x007A40_00FA54, 0x007A81_00FA55, 0x007BC0_00FA56, 0x007DF4_00FA57,
  0x007E09_00FA58, 0x007E41_00FA59, 0x007F72_00FA5A, 0x008005_00FA5B, 0x0081ED_00FA5C,
  0x008279_00FA5D, 0x008279_00FA5E, 0x008457_00FA5F, 0x008910_00FA60, 0x008996_00FA61,
  0x008B01_00FA62, 0x008B39_00FA63, 0x008CD3_00FA64, 0x008D08_00FA65, 0x008FB6_00FA66,
  0x009038_00FA67, 0x0096E3_00FA68, 0x0097FF_00FA69, 0x00983B_00FA6A, 0x006075_00FA6B,
  0x0242EE_00FA6C, 0x008218_00FA6D, 0x004E26_00FA70, 0x0051B5_00FA71, 0x005168_00FA72,
  0x004F80_00FA73, 0x005145_00FA74, 0x005180_00FA75, 0x0052C7_00FA76, 0x0052FA_00FA77,
  0x00559D_00FA78, 0x005555_00FA79, 0x005599_00FA7A, 0x0055E2_00FA7B, 0x00585A_00FA7C,
  0x0058B3_00FA7D, 0x005944_00FA7E, 0x005954_00FA7F, 0x005A62_00FA80, 0x005B28_00FA81,
  0x005ED2_00FA82, 0x005ED9_00FA83, 0x005F69_00FA84, 0x005FAD_00FA85, 0x0060D8_00FA86,
  0x00614E_00FA87, 0x006108_00FA88, 0x00618E_00FA89, 0x006160_00FA8A, 0x0061F2_00FA8B,
  0x006234_00FA8C, 0x0063C4_00FA8D, 0x00641C_00FA8E, 0x006452_00FA8F, 0x006556_00FA90,
  0x006674_00FA91, 0x006717_00FA92, 0x00671B_00FA93, 0x006756_00FA94, 0x006B79_00FA95,
  0x006BBA_00FA96, 0x006D41_00FA97, 0x006EDB_00FA98, 0x006ECB_00FA99, 0x006F22_00FA9A,
  0x00701E_00FA9B, 0x00716E_00FA9C, 0x0077A7_00FA9D, 0x007235_00FA9E, 0x0072AF_00FA9F,
  0x00732A_00FAA0, 0x007471_00FAA1, 0x007506_00FAA2, 0x00753B_00FAA3, 0x00761D_00FAA4,
  0x00761F_00FAA5, 0x0076CA_00FAA6, 0x0076DB_00FAA7, 0x0076F4_00FAA8, 0x00774A_00FAA9,
  0x007740_00FAAA, 0x0078CC_00FAAB, 0x007AB1_00FAAC, 0x007BC0_00FAAD, 0x007C7B_00FAAE,
  0x007D5B_00FAAF, 0x007DF4_00FAB0, 0x007F3E_00FAB1, 0x008005_00FAB2, 0x008352_00FAB3,
  0x0083EF_00FAB4, 0x008779_00FAB5, 0x008941_00FAB6, 0x008986_00FAB7, 0x008996_00FAB8,
  0x008ABF_00FAB9, 0x008AF8_00FABA, 0x008ACB_00FABB, 0x008B01_00FABC, 0x008AFE_00FABD,
  0x008AED_00FABE, 0x008B39_00FABF, 0x008B8A_00FAC0, 0x008D08_00FAC1, 0x008F38_00FAC2,
  0x009072_00FAC3, 0x009199_00FAC4, 0x009276_00FAC5, 0x00967C_00FAC6, 0x0096E3_00FAC7,
  0x009756_00FAC8, 0x0097DB_00FAC9, 0x0097FF_00FACA, 0x00980B_00FACB, 0x00983B_00FACC,
  0x009B12_00FACD, 0x009F9C_00FACE, 0x02284A_00FACF, 0x022844_00FAD0, 0x0233D5_00FAD1,
  0x003B9D_00FAD2, 0x004018_00FAD3, 0x004039_00FAD4, 0x025249_00FAD5, 0x025CD0_00FAD6,
  0x027ED3_00FAD7, 0x009F43_00FAD8, 0x009F8E_00FAD9]

end FileIndex.Text.Decomposition
