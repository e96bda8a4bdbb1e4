/-
Primary composites: the pairs of characters that canonical composition joins into one.
-/
import FileIndex.Text.Rows

namespace FileIndex.Text

set_option maxRecDepth 40000 in
/-- Each row holds the composite, the first character of the pair and the second, in the order of the
pairs. -/
def composites : Array Nat := #[
  0x00226E_00003C_000338, 0x002260_00003D_000338, 0x00226F_00003E_000338,
  0x0000C0_000041_000300, 0x0000C1_000041_000301, 0x0000C2_000041_000302,
  0x0000C3_000041_000303, 0x000100_000041_000304, 0x000102_000041_000306,
  0x000226_000041_000307, 0x0000C4_000041_000308, 0x001EA2_000041_000309,
  0x0000C5_000041_00030A, 0x0001CD_000041_00030C, 0x000200_000041_00030F,
  0x000202_000041_000311, 0x001EA0_000041_000323, 0x001E00_000041_000325,
  0x000104_000041_000328, 0x001E02_000042_000307, 0x001E04_000042_000323,
  0x001E06_000042_000331, 0x000106_000043_000301, 0x000108_000043_000302,
  0x00010A_000043_000307, 0x00010C_000043_00030C, 0x0000C7_000043_000327,
  0x001E0A_000044_000307, 0x00010E_000044_00030C, 0x001E0C_000044_000323,
  0x001E10_000044_000327, 0x001E12_000044_00032D, 0x001E0E_000044_000331,
  0x0000C8_000045_000300, 0x0000C9_000045_000301, 0x0000CA_000045_000302,
  0x001EBC_000045_000303, 0x000112_000045_000304, 0x000114_000045_000306,
  0x000116_000045_000307, 0x0000CB_000045_000308, 0x001EBA_000045_000309,
  0x00011A_000045_00030C, 0x000204_000045_00030F, 0x000206_000045_000311,
  0x001EB8_000045_000323, 0x000228_000045_000327, 0x000118_000045_000328,
  0x001E18_000045_00032D, 0x001E1A_000045_000330, 0x001E1E_000046_000307,
  0x0001F4_000047_000301, 0x00011C_000047_000302, 0x001E20_000047_000304,
  0x00011E_000047_000306, 0x000120_000047_000307, 0x0001E6_000047_00030C,
  0x000122_000047_000327, 0x000124_000048_000302, 0x001E22_000048_000307,
  0x001E26_000048_000308, 0x00021E_000048_00030C, 0x001E24_000048_000323,
  0x001E28_000048_000327, 0x001E2A_000048_00032E, 0x0000CC_000049_000300,
  0x0000CD_000049_000301, 0x0000CE_000049_000302, 0x000128_000049_000303,
  0x00012A_000049_000304, 0x00012C_000049_000306, 0x000130_000049_000307,
  0x0000CF_000049_000308, 0x001EC8_000049_000309, 0x0001CF_000049_00030C,
  0x000208_000049_00030F, 0x00020A_000049_000311, 0x001ECA_000049_000323,
  0x00012E_000049_000328, 0x001E2C_000049_000330, 0x000134_00004A_000302,
  0x001E30_00004B_000301, 0x0001E8_00004B_00030C, 0x001E32_00004B_000323,
  0x000136_00004B_000327, 0x001E34_00004B_000331, 0x000139_00004C_000301,
  0x00013D_00004C_00030C, 0x001E36_00004C_000323, 0x00013B_00004C_000327,
  0x001E3C_00004C_00032D, 0x001E3A_00004C_000331, 0x001E3E_00004D_000301,
  0x001E40_00004D_000307, 0x001E42_00004D_000323, 0x0001F8_00004E_000300,
  0x000143_00004E_000301, 0x0000D1_00004E_000303, 0x001E44_00004E_000307,
  0x000147_00004E_00030C, 0x001E46_00004E_000323, 0x000145_00004E_000327,
  0x001E4A_00004E_00032D, 0x001E48_00004E_000331, 0x0000D2_00004F_000300,
  0x0000D3_00004F_000301, 0x0000D4_00004F_000302, 0x0000D5_00004F_000303,
  0x00014C_00004F_000304, 0x00014E_00004F_000306, 0x00022E_00004F_000307,
  0x0000D6_00004F_000308, 0x001ECE_00004F_000309, 0x000150_00004F_00030B,
  0x0001D1_00004F_00030C, 0x00020C_00004F_00030F, 0x00020E_00004F_000311,
  0x0001A0_00004F_00031B, 0x001ECC_00004F_000323, 0x0001EA_00004F_000328,
  0x001E54_000050_000301, 0x001E56_000050_000307, 0x000154_000052_000301,
  0x001E58_000052_000307, 0x000158_000052_00030C, 0x000210_000052_00030F,
  0x000212_000052_000311, 0x001E5A_000052_000323, 0x000156_000052_000327,
  0x001E5E_000052_000331, 0x00015A_000053_000301, 0x00015C_000053_000302,
  0x001E60_000053_000307, 0x000160_000053_00030C, 0x001E62_000053_000323,
  0x000218_000053_000326, 0x00015E_000053_000327, 0x001E6A_000054_000307,
  0x000164_000054_00030C, 0x001E6C_000054_000323, 0x00021A_000054_000326,
  0x000162_000054_000327, 0x001E70_000054_00032D, 0x001E6E_000054_000331,
  0x0000D9_000055_000300, 0x0000DA_000055_000301, 0x0000DB_000055_000302,
  0x000168_000055_000303, 0x00016A_000055_000304, 0x00016C_000055_000306,
  0x0000DC_000055_000308, 0x001EE6_000055_000309, 0x00016E_000055_00030A,
  0x000170_000055_00030B, 0x0001D3_000055_00030C, 0x000214_000055_00030F,
  0x000216_000055_000311, 0x0001AF_000055_00031B, 0x001EE4_000055_000323,
  0x001E72_000055_000324, 0x000172_000055_000328, 0x001E76_000055_00032D,
  0x001E74_000055_000330, 0x001E7C_000056_000303, 0x001E7E_000056_000323,
  0x001E80_000057_000300, 0x001E82_000057_000301, 0x000174_000057_000302,
  0x001E86_000057_000307, 0x001E84_000057_000308, 0x001E88_000057_000323,
  0x001E8A_000058_000307, 0x001E8C_000058_000308, 0x001EF2_000059_000300,
  0x0000DD_000059_000301, 0x000176_000059_000302, 0x001EF8_000059_000303,
  0x000232_000059_000304, 0x001E8E_000059_000307, 0x000178_000059_000308,
  0x001EF6_000059_000309, 0x001EF4_000059_000323, 0x000179_00005A_000301,
  0x001E90_00005A_000302, 0x00017B_00005A_000307, 0x00017D_00005A_00030C,
  0x001E92_00005A_000323, 0x001E94_00005A_000331, 0x0000E0_000061_000300,
  0x0000E1_000061_000301, 0x0000E2_000061_000302, 0x0000E3_000061_000303,
  0x000101_000061_000304, 0x000103_000061_000306, 0x000227_000061_000307,
  0x0000E4_000061_000308, 0x001EA3_000061_000309, 0x0000E5_000061_00030A,
  0x0001CE_000061_00030C, 0x000201_000061_00030F, 0x000203_000061_000311,
  0x001EA1_000061_000323, 0x001E01_000061_000325, 0x000105_000061_000328,
  0x001E03_000062_000307, 0x001E05_000062_000323, 0x001E07_000062_000331,
  0x000107_000063_000301, 0x000109_000063_000302, 0x00010B_000063_000307,
  0x00010D_000063_00030C, 0x0000E7_000063_000327, 0x001E0B_000064_000307,
  0x00010F_000064_00030C, 0x001E0D_000064_000323, 0x001E11_000064_000327,
  0x001E13_000064_00032D, 0x001E0F_000064_000331, 0x0000E8_000065_000300,
  0x0000E9_000065_000301, 0x0000EA_000065_000302, 0x001EBD_000065_000303,
  0x000113_000065_000304, 0x000115_000065_000306, 0x000117_000065_000307,
  0x0000EB_000065_000308, 0x001EBB_000065_000309, 0x00011B_000065_00030C,
  0x000205_000065_00030F, 0x000207_000065_000311, 0x001EB9_000065_000323,
  0x000229_000065_000327, 0x000119_000065_000328, 0x001E19_000065_00032D,
  0x001E1B_000065_000330, 0x001E1F_000066_000307, 0x0001F5_000067_000301,
  0x00011D_000067_000302, 0x001E21_000067_000304, 0x00011F_000067_000306,
  0x000121_000067_000307, 0x0001E7_000067_00030C, 0x000123_000067_000327,
  0x000125_000068_000302, 0x001E23_000068_000307, 0x001E27_000068_000308,
  0x00021F_000068_00030C, 0x001E25_000068_000323, 0x001E29_000068_000327,
  0x001E2B_000068_00032E, 0x001E96_000068_000331, 0x0000EC_000069_000300,
  0x0000ED_000069_000301, 0x0000EE_000069_000302, 0x000129_000069_000303,
  0x00012B_000069_000304, 0x00012D_000069_000306, 0x0000EF_000069_000308,
  0x001EC9_000069_000309, 0x0001D0_000069_00030C, 0x000209_000069_00030F,
  0x00020B_000069_000311, 0x001ECB_000069_000323, 0x00012F_000069_000328,
  0x001E2D_000069_000330, 0x000135_00006A_000302, 0x0001F0_00006A_00030C,
  0x001E31_00006B_000301, 0x0001E9_00006B_00030C, 0x001E33_00006B_000323,
  0x000137_00006B_000327, 0x001E35_00006B_000331, 0x00013A_00006C_000301,
  0x00013E_00006C_00030C, 0x001E37_00006C_000323, 0x00013C_00006C_000327,
  0x001E3D_00006C_00032D, 0x001E3B_00006C_000331, 0x001E3F_00006D_000301,
  0x001E41_00006D_000307, 0x001E43_00006D_000323, 0x0001F9_00006E_000300,
  0x000144_00006E_000301, 0x0000F1_00006E_000303, 0x001E45_00006E_000307,
  0x000148_00006E_00030C, 0x001E47_00006E_000323, 0x000146_00006E_000327,
  0x001E4B_00006E_00032D, 0x001E49_00006E_000331, 0x0000F2_00006F_000300,
  0x0000F3_00006F_000301, 0x0000F4_00006F_000302, 0x0000F5_00006F_000303,
  0x00014D_00006F_000304, 0x00014F_00006F_000306, 0x00022F_00006F_000307,
  0x0000F6_00006F_000308, 0x001ECF_00006F_000309, 0x000151_00006F_00030B,
  0x0001D2_00006F_00030C, 0x00020D_00006F_00030F, 0x00020F_00006F_000311,
  0x0001A1_00006F_00031B, 0x001ECD_00006F_000323, 0x0001EB_00006F_000328,
  0x001E55_000070_000301, 0x001E57_000070_000307, 0x000155_000072_000301,
  0x001E59_000072_000307, 0x000159_000072_00030C, 0x000211_000072_00030F,
  0x000213_000072_000311, 0x001E5B_000072_000323, 0x000157_000072_000327,
  0x001E5F_000072_000331, 0x00015B_000073_000301, 0x00015D_000073_000302,
  0x001E61_000073_000307, 0x000161_000073_00030C, 0x001E63_000073_000323,
  0x000219_000073_000326, 0x00015F_000073_000327, 0x001E6B_000074_000307,
  0x001E97_000074_000308, 0x000165_000074_00030C, 0x001E6D_000074_000323,
  0x00021B_000074_000326, 0x000163_000074_000327, 0x001E71_000074_00032D,
  0x001E6F_000074_000331, 0x0000F9_000075_000300, 0x0000FA_000075_000301,
  0x0000FB_000075_000302, 0x000169_000075_000303, 0x00016B_000075_000304,
  0x00016D_000075_000306, 0x0000FC_000075_000308, 0x001EE7_000075_000309,
  0x00016F_000075_00030A, 0x000171_000075_00030B, 0x0001D4_000075_00030C,
  0x000215_000075_00030F, 0x000217_000075_000311, 0x0001B0_000075_00031B,
  0x001EE5_000075_000323, 0x001E73_000075_000324, 0x000173_000075_000328,
  0x001E77_000075_00032D, 0x001E75_000075_000330, 0x001E7D_000076_000303,
  0x001E7F_000076_000323, 0x001E81_000077_000300, 0x001E83_000077_000301,
  0x000175_000077_000302, 0x001E87_000077_000307, 0x001E85_000077_000308,
  0x001E98_000077_00030A, 0x001E89_000077_000323, 0x001E8B_000078_000307,
  0x001E8D_000078_000308, 0x001EF3_000079_000300, 0x0000FD_000079_000301,
  0x000177_000079_000302, 0x001EF9_000079_000303, 0x000233_000079_000304,
  0x001E8F_000079_000307, 0x0000FF_000079_000308, 0x001EF7_000079_000309,
  0x001E99_000079_00030A, 0x001EF5_000079_000323, 0x00017A_00007A_000301,
  0x001E91_00007A_000302, 0x00017C_00007A_000307, 0x00017E_00007A_00030C,
  0x001E93_00007A_000323, 0x001E95_00007A_000331, 0x001FED_0000A8_000300,
  0x000385_0000A8_000301, 0x001FC1_0000A8_000342, 0x001EA6_0000C2_000300,
  0x001EA4_0000C2_000301, 0x001EAA_0000C2_000303, 0x001EA8_0000C2_000309,
  0x0001DE_0000C4_000304, 0x0001FA_0000C5_000301, 0x0001FC_0000C6_000301,
  0x0001E2_0000C6_000304, 0x001E08_0000C7_000301, 0x001EC0_0000CA_000300,
  0x001EBE_0000CA_000301, 0x001EC4_0000CA_000303, 0x001EC2_0000CA_000309,
  0x001E2E_0000CF_000301, 0x001ED2_0000D4_000300, 0x001ED0_0000D4_000301,
  0x001ED6_0000D4_000303, 0x001ED4_0000D4_000309, 0x001E4C_0000D5_000301,
  0x00022C_0000D5_000304, 0x001E4E_0000D5_000308, 0x00022A_0000D6_000304,
  0x0001FE_0000D8_000301, 0x0001DB_0000DC_000300, 0x0001D7_0000DC_000301,
  0x0001D5_0000DC_000304, 0x0001D9_0000DC_00030C, 0x001EA7_0000E2_000300,
  0x001EA5_0000E2_000301, 0x001EAB_0000E2_000303, 0x001EA9_0000E2_000309,
  0x0001DF_0000E4_000304, 0x0001FB_0000E5_000301, 0x0001FD_0000E6_000301,
  0x0001E3_0000E6_000304, 0x001E09_0000E7_000301, 0x001EC1_0000EA_000300,
  0x001EBF_0000EA_000301, 0x001EC5_0000EA_000303, 0x001EC3_0000EA_000309,
  0x001E2F_0000EF_000301, 0x001ED3_0000F4_000300, 0x001ED1_0000F4_000301,
  0x001ED7_0000F4_000303, 0x001ED5_0000F4_000309, 0x001E4D_0000F5_000301,
  0x00022D_0000F5_000304, 0x001E4F_0000F5_000308, 0x00022B_0000F6_000304,
  0x0001FF_0000F8_000301, 0x0001DC_0000FC_000300, 0x0001D8_0000FC_000301,
  0x0001D6_0000FC_000304, 0x0001DA_0000FC_00030C, 0x001EB0_000102_000300,
  0x001EAE_000102_000301, 0x001EB4_000102_000303, 0x001EB2_000102_000309,
  0x001EB1_000103_000300, 0x001EAF_000103_000301, 0x001EB5_000103_000303,
  0x001EB3_000103_000309, 0x001E14_000112_000300, 0x001E16_000112_000301,
  0x001E15_000113_000300, 0x001E17_000113_000301, 0x001E50_00014C_000300,
  0x001E52_00014C_000301, 0x001E51_00014D_000300, 0x001E53_00014D_000301,
  0x001E64_00015A_000307, 0x001E65_00015B_000307, 0x001E66_000160_000307,
  0x001E67_000161_000307, 0x001E78_000168_000301, 0x001E79_000169_000301,
  0x001E7A_00016A_000308, 0x001E7B_00016B_000308, 0x001E9B_00017F_000307,
  0x001EDC_0001A0_000300, 0x001EDA_0001A0_000301, 0x001EE0_0001A0_000303,
  0x001EDE_0001A0_000309, 0x001EE2_0001A0_000323, 0x001EDD_0001A1_000300,
  0x001EDB_0001A1_000301, 0x001EE1_0001A1_000303, 0x001EDF_0001A1_000309,
  0x001EE3_0001A1_000323, 0x001EEA_0001AF_000300, 0x001EE8_0001AF_000301,
  0x001EEE_0001AF_000303, 0x001EEC_0001AF_000309, 0x001EF0_0001AF_000323,
  0x001EEB_0001B0_000300, 0x001EE9_0001B0_000301, 0x001EEF_0001B0_000303,
  0x001EED_0001B0_000309, 0x001EF1_0001B0_000323, 0x0001EE_0001B7_00030C,
  0x0001EC_0001EA_000304, 0x0001ED_0001EB_000304, 0x0001E0_000226_000304,
  0x0001E1_000227_000304, 0x001E1C_000228_000306, 0x001E1D_000229_000306,
  0x000230_00022E_000304, 0x000231_00022F_000304, 0x0001EF_000292_00030C,
  0x001FBA_000391_000300, 0x000386_000391_000301, 0x001FB9_000391_000304,
  0x001FB8_000391_000306, 0x001F08_000391_000313, 0x001F09_000391_000314,
  0x001FBC_000391_000345, 0x001FC8_000395_000300, 0x000388_000395_000301,
  0x001F18_000395_000313, 0x001F19_000395_000314, 0x001FCA_000397_000300,
  0x000389_000397_000301, 0x001F28_000397_000313, 0x001F29_000397_000314,
  0x001FCC_000397_000345, 0x001FDA_000399_000300, 0x00038A_000399_000301,
  0x001FD9_000399_000304, 0x001FD8_000399_000306, 0x0003AA_000399_000308,
  0x001F38_000399_000313, 0x001F39_000399_000314, 0x001FF8_00039F_000300,
  0x00038C_00039F_000301, 0x001F48_00039F_000313, 0x001F49_00039F_000314,
  0x001FEC_0003A1_000314, 0x001FEA_0003A5_000300, 0x00038E_0003A5_000301,
  0x001FE9_0003A5_000304, 0x001FE8_0003A5_000306, 0x0003AB_0003A5_000308,
  0x001F59_0003A5_000314, 0x001FFA_0003A9_000300, 0x00038F_0003A9_000301,
  0x001F68_0003A9_000313, 0x001F69_0003A9_000314, 0x001FFC_0003A9_000345,
  0x001FB4_0003AC_000345, 0x001FC4_0003AE_000345, 0x001F70_0003B1_000300,
  0x0003AC_0003B1_000301, 0x001FB1_0003B1_000304, 0x001FB0_0003B1_000306,
  0x001F00_0003B1_000313, 0x001F01_0003B1_000314, 0x001FB6_0003B1_000342,
  0x001FB3_0003B1_000345, 0x001F72_0003B5_000300, 0x0003AD_0003B5_000301,
  0x001F10_0003B5_000313, 0x001F11_0003B5_000314, 0x001F74_0003B7_000300,
  0x0003AE_0003B7_000301, 0x001F20_0003B7_000313, 0x001F21_0003B7_000314,
  0x001FC6_0003B7_000342, 0x001FC3_0003B7_000345, 0x001F76_0003B9_000300,
  0x0003AF_0003B9_000301, 0x001FD1_0003B9_000304, 0x001FD0_0003B9_000306,
  0x0003CA_0003B9_000308, 0x001F30_0003B9_000313, 0x001F31_0003B9_000314,
  0x001FD6_0003B9_000342, 0x001F78_0003BF_000300, 0x0003CC_0003BF_000301,
  0x001F40_0003BF_000313, 0x001F41_0003BF_000314, 0x001FE4_0003C1_000313,
  0x001FE5_0003C1_000314, 0x001F7A_0003C5_000300, 0x0003CD_0003C5_000301,
  0x001FE1_0003C5_000304, 0x001FE0_0003C5_000306, 0x0003CB_0003C5_000308,
  0x001F50_0003C5_000313, 0x001F51_0003C5_000314, 0x001FE6_0003C5_000342,
  0x001F7C_0003C9_000300, 0x0003CE_0003C9_000301, 0x001F60_0003C9_000313,
  0x001F61_0003C9_000314, 0x001FF6_0003C9_000342, 0x001FF3_0003C9_000345,
  0x001FD2_0003CA_000300, 0x000390_0003CA_000301, 0x001FD7_0003CA_000342,
  0x001FE2_0003CB_000300, 0x0003B0_0003CB_000301, 0x001FE7_0003CB_000342,
  0x001FF4_0003CE_000345, 0x0003D3_0003D2_000301, 0x0003D4_0003D2_000308,
  0x000407_000406_000308, 0x0004D0_000410_000306, 0x0004D2_000410_000308,
  0x000403_000413_000301, 0x000400_000415_000300, 0x0004D6_000415_000306,
  0x000401_000415_000308, 0x0004C1_000416_000306, 0x0004DC_000416_000308,
  0x0004DE_000417_000308, 0x00040D_000418_000300, 0x0004E2_000418_000304,
  0x000419_000418_000306, 0x0004E4_000418_000308, 0x00040C_00041A_000301,
  0x0004E6_00041E_000308, 0x0004EE_000423_000304, 0x00040E_000423_000306,
  0x0004F0_000423_000308, 0x0004F2_000423_00030B, 0x0004F4_000427_000308,
  0x0004F8_00042B_000308, 0x0004EC_00042D_000308, 0x0004D1_000430_000306,
  0x0004D3_000430_000308, 0x000453_000433_000301, 0x000450_000435_000300,
  0x0004D7_000435_000306, 0x000451_000435_000308, 0x0004C2_000436_000306,
  0x0004DD_000436_000308, 0x0004DF_000437_000308, 0x00045D_000438_000300,
  0x0004E3_000438_000304, 0x000439_000438_000306, 0x0004E5_000438_000308,
  0x00045C_00043A_000301, 0x0004E7_00043E_000308, 0x0004EF_000443_000304,
  0x00045E_000443_000306, 0x0004F1_000443_000308, 0x0004F3_000443_00030B,
  0x0004F5_000447_000308, 0x0004F9_00044B_000308, 0x0004ED_00044D_000308,
  0x000457_000456_000308, 0x000476_000474_00030F, 0x000477_000475_00030F,
  0x0004DA_0004D8_000308, 0x0004DB_0004D9_000308, 0x0004EA_0004E8_000308,
  0x0004EB_0004E9_000308, 0x000622_000627_000653, 0x000623_000627_000654,
  0x000625_000627_000655, 0x000624_000648_000654, 0x000626_00064A_000654,
  0x0006C2_0006C1_000654, 0x0006D3_0006D2_000654, 0x0006C0_0006D5_000654,
  0x000929_000928_00093C, 0x000931_000930_00093C, 0x000934_000933_00093C,
  0x0009CB_0009C7_0009BE, 0x0009CC_0009C7_0009D7, 0x000B4B_000B47_000B3E,
  0x000B48_000B47_000B56, 0x000B4C_000B47_000B57, 0x000B94_000B92_000BD7,
  0x000BCA_000BC6_000BBE, 0x000BCC_000BC6_000BD7, 0x000BCB_000BC7_000BBE,
  0x000C48_000C46_000C56, 0x000CC0_000CBF_000CD5, 0x000CCA_000CC6_000CC2,
  0x000CC7_000CC6_000CD5, 0x000CC8_000CC6_000CD6, 0x000CCB_000CCA_000CD5,
  0x000D4A_000D46_000D3E, 0x000D4C_000D46_000D57, 0x000D4B_000D47_000D3E,
  0x000DDA_000DD9_000DCA, 0x000DDC_000DD9_000DCF, 0x000DDE_000DD9_000DDF,
  0x000DDD_000DDC_000DCA, 0x001026_001025_00102E, 0x001B06_001B05_001B35,
  0x001B08_001B07_001B35, 0x001B0A_001B09_001B35, 0x001B0C_001B0B_001B35,
  0x001B0E_001B0D_001B35, 0x001B12_001B11_001B35, 0x001B3B_001B3A_001B35,
  0x001B3D_001B3C_001B35, 0x001B40_001B3E_001B35, 0x001B41_001B3F_001B35,
  0x001B43_001B42_001B35, 0x001E38_001E36_000304, 0x001E39_001E37_000304,
  0x001E5C_001E5A_000304, 0x001E5D_001E5B_000304, 0x001E68_001E62_000307,
  0x001E69_001E63_000307, 0x001EAC_001EA0_000302, 0x001EB6_001EA0_000306,
  0x001EAD_001EA1_000302, 0x001EB7_001EA1_000306, 0x001EC6_001EB8_000302,
  0x001EC7_001EB9_000302, 0x001ED8_001ECC_000302, 0x001ED9_001ECD_000302,
  0x001F02_001F00_000300, 0x001F04_001F00_000301, 0x001F06_001F00_000342,
  0x001F80_001F00_000345, 0x001F03_001F01_000300, 0x001F05_001F01_000301,
  0x001F07_001F01_000342, 0x001F81_001F01_000345, 0x001F82_001F02_000345,
  0x001F83_001F03_000345, 0x001F84_001F04_000345, 0x001F85_001F05_000345,
  0x001F86_001F06_000345, 0x001F87_001F07_000345, 0x001F0A_001F08_000300,
  0x001F0C_001F08_000301, 0x001F0E_001F08_000342, 0x001F88_001F08_000345,
  0x001F0B_001F09_000300, 0x001F0D_001F09_000301, 0x001F0F_001F09_000342,
  0x001F89_001F09_000345, 0x001F8A_001F0A_000345, 0x001F8B_001F0B_000345,
  0x001F8C_001F0C_000345, 0x001F8D_001F0D_000345, 0x001F8E_001F0E_000345,
  0x001F8F_001F0F_000345, 0x001F12_001F10_000300, 0x001F14_001F10_000301,
  0x001F13_001F11_000300, 0x001F15_001F11_000301, 0x001F1A_001F18_000300,
  0x001F1C_001F18_000301, 0x001F1B_001F19_000300, 0x001F1D_001F19_000301,
  0x001F22_001F20_000300, 0x001F24_001F20_000301, 0x001F26_001F20_000342,
  0x001F90_001F20_000345, 0x001F23_001F21_000300, 0x001F25_001F21_000301,
  0x001F27_001F21_000342, 0x001F91_001F21_000345, 0x001F92_001F22_000345,
  0x001F93_001F23_000345, 0x001F94_001F24_000345, 0x001F95_001F25_000345,
  0x001F96_001F26_000345, 0x001F97_001F27_000345, 0x001F2A_001F28_000300,
  0x001F2C_001F28_000301, 0x001F2E_001F28_000342, 0x001F98_001F28_000345,
  0x001F2B_001F29_000300, 0x001F2D_001F29_000301, 0x001F2F_001F29_000342,
  0x001F99_001F29_000345, 0x001F9A_001F2A_000345, 0x001F9B_001F2B_000345,
  0x001F9C_001F2C_000345, 0x001F9D_001F2D_000345, 0x001F9E_001F2E_000345,
  0x001F9F_001F2F_000345, 0x001F32_001F30_000300, 0x001F34_001F30_000301,
  0x001F36_001F30_000342, 0x001F33_001F31_000300, 0x001F35_001F31_000301,
  0x001F37_001F31_000342, 0x001F3A_001F38_000300, 0x001F3C_001F38_000301,
  0x001F3E_001F38_000342, 0x001F3B_001F39_000300, 0x001F3D_001F39_000301,
  0x001F3F_001F39_000342, 0x001F42_001F40_000300, 0x001F44_001F40_000301,
  0x001F43_001F41_000300, 0x001F45_001F41_000301, 0x001F4A_001F48_000300,
  0x001F4C_001F48_000301, 0x001F4B_001F49_000300, 0x001F4D_001F49_000301,
  0x001F52_001F50_000300, 0x001F54_001F50_000301, 0x001F56_001F50_000342,
  0x001F53_001F51_000300, 0x001F55_001F51_000301, 0x001F57_001F51_000342,
  0x001F5B_001F59_000300, 0x001F5D_001F59_000301, 0x001F5F_001F59_000342,
  0x001F62_001F60_000300, 0x001F64_001F60_000301, 0x001F66_001F60_000342,
  0x001FA0_001F60_000345, 0x001F63_001F61_000300, 0x001F65_001F61_000301,
  0x001F67_001F61_000342, 0x001FA1_001F61_000345, 0x001FA2_001F62_000345,
  0x001FA3_001F63_000345, 0x001FA4_001F64_000345, 0x001FA5_001F65_000345,
  0x001FA6_001F66_000345, 0x001FA7_001F67_000345, 0x001F6A_001F68_000300,
  0x001F6C_001F68_000301, 0x001F6E_001F68_000342, 0x001FA8_001F68_000345,
  0x001F6B_001F69_000300, 0x001F6D_001F69_000301, 0x001F6F_001F69_000342,
  0x001FA9_001F69_000345, 0x001FAA_001F6A_000345, 0x001FAB_001F6B_000345,
  0x001FAC_001F6C_000345, 0x001FAD_001F6D_000345, 0x001FAE_001F6E_000345,
  0x001FAF_001F6F_000345, 0x001FB2_001F70_000345, 0x001FC2_001F74_000345,
  0x001FF2_001F7C_000345, 0x001FB7_001FB6_000345, 0x001FCD_001FBF_000300,
  0x001FCE_001FBF_000301, 0x001FCF_001FBF_000342, 0x001FC7_001FC6_000345,
  0x001FF7_001FF6_000345, 0x001FDD_001FFE_000300, 0x001FDE_001FFE_000301,
  0x001FDF_001FFE_000342, 0x00219A_002190_000338, 0x00219B_002192_000338,
  0x0021AE_002194_000338, 0x0021CD_0021D0_000338, 0x0021CF_0021D2_000338,
  0x0021CE_0021D4_000338, 0x002204_002203_000338, 0x002209_002208_000338,
  0x00220C_00220B_000338, 0x002224_002223_000338, 0x002226_002225_000338,
  0x002241_00223C_000338, 0x002244_002243_000338, 0x002247_002245_000338,
  0x002249_002248_000338, 0x00226D_00224D_000338, 0x002262_002261_000338,
  0x002270_002264_000338, 0x002271_002265_000338, 0x002274_002272_000338,
  0x002275_002273_000338, 0x002278_002276_000338, 0x002279_002277_000338,
  0x002280_00227A_000338, 0x002281_00227B_000338, 0x0022E0_00227C_000338,
  0x0022E1_00227D_000338, 0x002284_002282_000338, 0x002285_002283_000338,
  0x002288_002286_000338, 0x002289_002287_000338, 0x0022E2_002291_000338,
  0x0022E3_002292_000338, 0x0022AC_0022A2_000338, 0x0022AD_0022A8_000338,
  0x0022AE_0022A9_000338, 0x0022AF_0022AB_000338, 0x0022EA_0022B2_000338,
  0x0022EB_0022B3_000338, 0x0022EC_0022B4_000338, 0x0022ED_0022B5_000338,
  0x003094_003046_003099, 0x00304C_00304B_003099, 0x00304E_00304D_003099,
  0x003050_00304F_003099, 0x003052_003051_003099, 0x003054_003053_003099,
  0x003056_003055_003099, 0x003058_003057_003099, 0x00305A_003059_003099,
  0x00305C_00305B_003099, 0x00305E_00305D_003099, 0x003060_00305F_003099,
  0x003062_003061_003099, 0x003065_003064_003099, 0x003067_003066_003099,
  0x003069_003068_003099, 0x003070_00306F_003099, 0x003071_00306F_00309A,
  0x003073_003072_003099, 0x003074_003072_00309A, 0x003076_003075_003099,
  0x003077_003075_00309A, 0x003079_003078_003099, 0x00307A_003078_00309A,
  0x00307C_00307B_003099, 0x00307D_00307B_00309A, 0x00309E_00309D_003099,
  0x0030F4_0030A6_003099, 0x0030AC_0030AB_003099, 0x0030AE_0030AD_003099,
  0x0030B0_0030AF_003099, 0x0030B2_0030B1_003099, 0x0030B4_0030B3_003099,
  0x0030B6_0030B5_003099, 0x0030B8_0030B7_003099, 0x0030BA_0030B9_003099,
  0x0030BC_0030BB_003099, 0x0030BE_0030BD_003099, 0x0030C0_0030BF_003099,
  0x0030C2_0030C1_003099, 0x0030C5_0030C4_003099, 0x0030C7_0030C6_003099,
  0x0030C9_0030C8_003099, 0x0030D0_0030CF_003099, 0x0030D1_0030CF_00309A,
  0x0030D3_0030D2_003099, 0x0030D4_0030D2_00309A, 0x0030D6_0030D5_003099,
  0x0030D7_0030D5_00309A, 0x0030D9_0030D8_003099, 0x0030DA_0030D8_00309A,
  0x0030DC_0030DB_003099, 0x0030DD_0030DB_00309A, 0x0030F7_0030EF_003099,
  0x0030F8_0030F0_003099, 0x0030F9_0030F1_003099, 0x0030FA_0030F2_003099,
  0x0030FE_0030FD_003099, 0x0105C9_0105D2_000307, 0x0105E4_0105DA_000307,
  0x01109A_011099_0110BA, 0x01109C_01109B_0110BA, 0x0110AB_0110A5_0110BA,
  0x01112E_011131_011127, 0x01112F_011132_011127, 0x01134B_011347_01133E,
  0x01134C_011347_011357, 0x011383_011382_0113C9, 0x011385_011384_0113BB,
  0x01138E_01138B_0113C2, 0x011391_011390_0113C9, 0x0113C7_0113C2_0113B8,
  0x0113C5_0113C2_0113C2, 0x0113C8_0113C2_0113C9, 0x0114BC_0114B9_0114B0,
  0x0114BB_0114B9_0114BA, 0x0114BE_0114B9_0114BD, 0x0115BA_0115B8_0115AF,
  0x0115BB_0115B9_0115AF, 0x011938_011935_011930, 0x016121_01611E_01611E,
  0x016123_01611E_01611F, 0x016125_01611E_016120, 0x016122_01611E_016129,
  0x016126_016121_01611F, 0x016128_016121_016120, 0x016127_016122_01611F,
  0x016124_016129_01611F, 0x016D69_016D63_016D67, 0x016D68_016D67_016D67,
  0x016D6A_016D69_016D67]

/-- The base of the numerals that pairs of characters make: no pair reaches it. -/
def pairBase : Nat := rowBase * rowBase

/-- The primary composite of a pair, outside the Hangul syllables. -/
def composite? (a b : Char) : Option Char := do
  let pair := a.toNat * rowBase + b.toNat
  let row ← composites[partitionPoint composites (· % pairBase < pair)]?
  if row % pairBase = pair then some (Char.ofNat (row / pairBase)) else none

end FileIndex.Text
