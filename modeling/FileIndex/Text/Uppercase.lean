/-
Upper case in full: a character goes to the one or more characters that the Unicode standard gives for
it, whatever stands around it and whatever the language.
-/
import FileIndex.Text.Rows

namespace FileIndex.Text

set_option maxRecDepth 20000 in
/-- Each row holds the first and the last character of a run, the distance from one of its members to
the next, and the upper case of the first; the others follow at the same offset. -/
def uppercaseRuns : Array Nat := #[
  0x00039C_000001_0000B5_0000B5, 0x0000C0_000001_0000F6_0000E0, 0x0000D8_000001_0000FE_0000F8,
  0x000178_000001_0000FF_0000FF, 0x000100_000002_00012F_000101, 0x000049_000001_000131_000131,
  0x000132_000002_000137_000133, 0x000139_000002_000148_00013A, 0x00014A_000002_000177_00014B,
  0x000179_000002_00017E_00017A, 0x000053_000001_00017F_00017F, 0x000243_000001_000180_000180,
  0x000182_000002_000185_000183, 0x000187_000001_000188_000188, 0x00018B_000001_00018C_00018C,
  0x000191_000001_000192_000192, 0x0001F6_000001_000195_000195, 0x000198_000001_000199_000199,
  0x00023D_000001_00019A_00019A, 0x00A7DC_000001_00019B_00019B, 0x000220_000001_00019E_00019E,
  0x0001A0_000002_0001A5_0001A1, 0x0001A7_000001_0001A8_0001A8, 0x0001AC_000001_0001AD_0001AD,
  0x0001AF_000001_0001B0_0001B0, 0x0001B3_000002_0001B6_0001B4, 0x0001B8_000001_0001B9_0001B9,
  0x0001BC_000001_0001BD_0001BD, 0x0001F7_000001_0001BF_0001BF, 0x0001C4_000001_0001C5_0001C5,
  0x0001C4_000001_0001C6_0001C6, 0x0001C7_000001_0001C8_0001C8, 0x0001C7_000001_0001C9_0001C9,
  0x0001CA_000001_0001CB_0001CB, 0x0001CA_000001_0001CC_0001CC, 0x0001CD_000002_0001DC_0001CE,
  0x00018E_000001_0001DD_0001DD, 0x0001DE_000002_0001EF_0001DF, 0x0001F1_000001_0001F2_0001F2,
  0x0001F1_000001_0001F3_0001F3, 0x0001F4_000001_0001F5_0001F5, 0x0001F8_000002_00021F_0001F9,
  0x000222_000002_000233_000223, 0x00023B_000001_00023C_00023C, 0x002C7E_000001_000240_00023F,
  0x000241_000001_000242_000242, 0x000246_000002_00024F_000247, 0x002C6F_000001_000250_000250,
  0x002C6D_000001_000251_000251, 0x002C70_000001_000252_000252, 0x000181_000001_000253_000253,
  0x000186_000001_000254_000254, 0x000189_000001_000257_000256, 0x00018F_000001_000259_000259,
  0x000190_000001_00025B_00025B, 0x00A7AB_000001_00025C_00025C, 0x000193_000001_000260_000260,
  0x00A7AC_000001_000261_000261, 0x000194_000001_000263_000263, 0x00A7CB_000001_000264_000264,
  0x00A78D_000001_000265_000265, 0x00A7AA_000001_000266_000266, 0x000197_000001_000268_000268,
  0x000196_000001_000269_000269, 0x00A7AE_000001_00026A_00026A, 0x002C62_000001_00026B_00026B,
  0x00A7AD_000001_00026C_00026C, 0x00019C_000001_00026F_00026F, 0x002C6E_000001_000271_000271,
  0x00019D_000001_000272_000272, 0x00019F_000001_000275_000275, 0x002C64_000001_00027D_00027D,
  0x0001A6_000001_000280_000280, 0x00A7C5_000001_000282_000282, 0x0001A9_000001_000283_000283,
  0x00A7B1_000001_000287_000287, 0x0001AE_000001_000288_000288, 0x000244_000001_000289_000289,
  0x0001B1_000001_00028B_00028A, 0x000245_000001_00028C_00028C, 0x0001B7_000001_000292_000292,
  0x00A7B2_000001_00029D_00029D, 0x00A7B0_000001_00029E_00029E, 0x000399_000001_000345_000345,
  0x000370_000002_000373_000371, 0x000376_000001_000377_000377, 0x0003FD_000001_00037D_00037B,
  0x000386_000001_0003AC_0003AC, 0x000388_000001_0003AF_0003AD, 0x000391_000001_0003C1_0003B1,
  0x0003A3_000001_0003C2_0003C2, 0x0003A3_000001_0003CB_0003C3, 0x00038C_000001_0003CC_0003CC,
  0x00038E_000001_0003CE_0003CD, 0x000392_000001_0003D0_0003D0, 0x000398_000001_0003D1_0003D1,
  0x0003A6_000001_0003D5_0003D5, 0x0003A0_000001_0003D6_0003D6, 0x0003CF_000001_0003D7_0003D7,
  0x0003D8_000002_0003EF_0003D9, 0x00039A_000001_0003F0_0003F0, 0x0003A1_000001_0003F1_0003F1,
  0x0003F9_000001_0003F2_0003F2, 0x00037F_000001_0003F3_0003F3, 0x000395_000001_0003F5_0003F5,
  0x0003F7_000001_0003F8_0003F8, 0x0003FA_000001_0003FB_0003FB, 0x000410_000001_00044F_000430,
  0x000400_000001_00045F_000450, 0x000460_000002_000481_000461, 0x00048A_000002_0004BF_00048B,
  0x0004C1_000002_0004CE_0004C2, 0x0004C0_000001_0004CF_0004CF, 0x0004D0_000002_00052F_0004D1,
  0x000531_000001_000586_000561, 0x001C90_000001_0010FA_0010D0, 0x001CBD_000001_0010FF_0010FD,
  0x0013F0_000001_0013FD_0013F8, 0x000412_000001_001C80_001C80, 0x000414_000001_001C81_001C81,
  0x00041E_000001_001C82_001C82, 0x000421_000001_001C84_001C83, 0x000422_000001_001C85_001C85,
  0x00042A_000001_001C86_001C86, 0x000462_000001_001C87_001C87, 0x00A64A_000001_001C88_001C88,
  0x001C89_000001_001C8A_001C8A, 0x00A77D_000001_001D79_001D79, 0x002C63_000001_001D7D_001D7D,
  0x00A7C6_000001_001D8E_001D8E, 0x001E00_000002_001E95_001E01, 0x001E60_000001_001E9B_001E9B,
  0x001EA0_000002_001EFF_001EA1, 0x001F08_000001_001F07_001F00, 0x001F18_000001_001F15_001F10,
  0x001F28_000001_001F27_001F20, 0x001F38_000001_001F37_001F30, 0x001F48_000001_001F45_001F40,
  0x001F59_000002_001F57_001F51, 0x001F68_000001_001F67_001F60, 0x001FBA_000001_001F71_001F70,
  0x001FC8_000001_001F75_001F72, 0x001FDA_000001_001F77_001F76, 0x001FF8_000001_001F79_001F78,
  0x001FEA_000001_001F7B_001F7A, 0x001FFA_000001_001F7D_001F7C, 0x001FB8_000001_001FB1_001FB0,
  0x000399_000001_001FBE_001FBE, 0x001FD8_000001_001FD1_001FD0, 0x001FE8_000001_001FE1_001FE0,
  0x001FEC_000001_001FE5_001FE5, 0x002132_000001_00214E_00214E, 0x002160_000001_00217F_002170,
  0x002183_000001_002184_002184, 0x0024B6_000001_0024E9_0024D0, 0x002C00_000001_002C5F_002C30,
  0x002C60_000001_002C61_002C61, 0x00023A_000001_002C65_002C65, 0x00023E_000001_002C66_002C66,
  0x002C67_000002_002C6C_002C68, 0x002C72_000001_002C73_002C73, 0x002C75_000001_002C76_002C76,
  0x002C80_000002_002CE3_002C81, 0x002CEB_000002_002CEE_002CEC, 0x002CF2_000001_002CF3_002CF3,
  0x0010A0_000001_002D25_002D00, 0x0010C7_000001_002D27_002D27, 0x0010CD_000001_002D2D_002D2D,
  0x00A640_000002_00A66D_00A641, 0x00A680_000002_00A69B_00A681, 0x00A722_000002_00A72F_00A723,
  0x00A732_000002_00A76F_00A733, 0x00A779_000002_00A77C_00A77A, 0x00A77E_000002_00A787_00A77F,
  0x00A78B_000001_00A78C_00A78C, 0x00A790_000002_00A793_00A791, 0x00A7C4_000001_00A794_00A794,
  0x00A796_000002_00A7A9_00A797, 0x00A7B4_000002_00A7C3_00A7B5, 0x00A7C7_000002_00A7CA_00A7C8,
  0x00A7CC_000001_00A7CD_00A7CD, 0x00A7D0_000001_00A7D1_00A7D1, 0x00A7D6_000002_00A7DB_00A7D7,
  0x00A7F5_000001_00A7F6_00A7F6, 0x00A7B3_000001_00AB53_00AB53, 0x0013A0_000001_00ABBF_00AB70,
  0x00FF21_000001_00FF5A_00FF41, 0x010400_000001_01044F_010428, 0x0104B0_000001_0104FB_0104D8,
  0x010570_000001_0105A1_010597, 0x01057C_000001_0105B1_0105A3, 0x01058C_000001_0105B9_0105B3,
  0x010594_000001_0105BC_0105BB, 0x010C80_000001_010CF2_010CC0, 0x010D50_000001_010D85_010D70,
  0x0118A0_000001_0118DF_0118C0, 0x016E40_000001_016E7F_016E60, 0x01E900_000001_01E943_01E922]

set_option maxRecDepth 20000 in
/-- The characters whose upper case is a text of two or three characters, as written by `rowOf`. -/
def uppercaseTexts : Array Nat := #[
  0x000053_000053_0000DF, 0x0002BC_00004E_000149, 0x00004A_00030C_0001F0,
  0x000399_000308_000301_000390, 0x0003A5_000308_000301_0003B0, 0x000535_000552_000587,
  0x000048_000331_001E96, 0x000054_000308_001E97, 0x000057_00030A_001E98,
  0x000059_00030A_001E99, 0x000041_0002BE_001E9A, 0x0003A5_000313_001F50,
  0x0003A5_000313_000300_001F52, 0x0003A5_000313_000301_001F54, 0x0003A5_000313_000342_001F56,
  0x001F08_000399_001F80, 0x001F09_000399_001F81, 0x001F0A_000399_001F82,
  0x001F0B_000399_001F83, 0x001F0C_000399_001F84, 0x001F0D_000399_001F85,
  0x001F0E_000399_001F86, 0x001F0F_000399_001F87, 0x001F08_000399_001F88,
  0x001F09_000399_001F89, 0x001F0A_000399_001F8A, 0x001F0B_000399_001F8B,
  0x001F0C_000399_001F8C, 0x001F0D_000399_001F8D, 0x001F0E_000399_001F8E,
  0x001F0F_000399_001F8F, 0x001F28_000399_001F90, 0x001F29_000399_001F91,
  0x001F2A_000399_001F92, 0x001F2B_000399_001F93, 0x001F2C_000399_001F94,
  0x001F2D_000399_001F95, 0x001F2E_000399_001F96, 0x001F2F_000399_001F97,
  0x001F28_000399_001F98, 0x001F29_000399_001F99, 0x001F2A_000399_001F9A,
  0x001F2B_000399_001F9B, 0x001F2C_000399_001F9C, 0x001F2D_000399_001F9D,
  0x001F2E_000399_001F9E, 0x001F2F_000399_001F9F, 0x001F68_000399_001FA0,
  0x001F69_000399_001FA1, 0x001F6A_000399_001FA2, 0x001F6B_000399_001FA3,
  0x001F6C_000399_001FA4, 0x001F6D_000399_001FA5, 0x001F6E_000399_001FA6,
  0x001F6F_000399_001FA7, 0x001F68_000399_001FA8, 0x001F69_000399_001FA9,
  0x001F6A_000399_001FAA, 0x001F6B_000399_001FAB, 0x001F6C_000399_001FAC,
  0x001F6D_000399_001FAD, 0x001F6E_000399_001FAE, 0x001F6F_000399_001FAF,
  0x001FBA_000399_001FB2, 0x000391_000399_001FB3, 0x000386_000399_001FB4,
  0x000391_000342_001FB6, 0x000391_000342_000399_001FB7, 0x000391_000399_001FBC,
  0x001FCA_000399_001FC2, 0x000397_000399_001FC3, 0x000389_000399_001FC4,
  0x000397_000342_001FC6, 0x000397_000342_000399_001FC7, 0x000397_000399_001FCC,
  0x000399_000308_000300_001FD2, 0x000399_000308_000301_001FD3, 0x000399_000342_001FD6,
  0x000399_000308_000342_001FD7, 0x0003A5_000308_000300_001FE2, 0x0003A5_000308_000301_001FE3,
  0x0003A1_000313_001FE4, 0x0003A5_000342_001FE6, 0x0003A5_000308_000342_001FE7,
  0x001FFA_000399_001FF2, 0x0003A9_000399_001FF3, 0x00038F_000399_001FF4,
  0x0003A9_000342_001FF6, 0x0003A9_000342_000399_001FF7, 0x0003A9_000399_001FFC,
  0x000046_000046_00FB00, 0x000046_000049_00FB01, 0x000046_00004C_00FB02,
  0x000046_000046_000049_00FB03, 0x000046_000046_00004C_00FB04, 0x000053_000054_00FB05,
  0x000053_000054_00FB06, 0x000544_000546_00FB13, 0x000544_000535_00FB14,
  0x000544_00053B_00FB15, 0x00054E_000546_00FB16, 0x000544_00053D_00FB17]

/-- The upper case of a character that has one of a single character. -/
def uppercaseOne? (c : Nat) : Option Nat := do
  let row ← lastRow? uppercaseRuns c
  let first := row % rowBase
  let last := row / rowBase % rowBase
  let step := row / rowBase / rowBase % rowBase
  if c ≤ last && (c - first) % step == 0 then some (c - first + row / rowBase / rowBase / rowBase) else none

/-- The upper case of a character, itself if it has none. -/
def uppercase (c : Char) : List Char :=
  if c.toNat < 0x80 then [c.toUpper]
  else match findRow? uppercaseTexts c.toNat with
    | some text => text
    | none => [((uppercaseOne? c.toNat).map Char.ofNat).getD c]

end FileIndex.Text
