/-
Full compatibility decompositions: letters, script by script, and the symbols among them. Each
row holds the decomposition and, as its last digit, the character it belongs to.
-/

namespace FileIndex.Text.Decomposition

set_option maxRecDepth 40000 in
/-- Latin letters, marks and the symbols of the first blocks. -/
def latin : List Nat := [
  0x000020_0000A0, 0x000020_000308_0000A8, 0x000061_0000AA, 0x000020_000304_0000AF,
  0x000032_0000B2, 0x000033_0000B3, 0x000020_000301_0000B4, 0x0003BC_0000B5,
  0x000020_000327_0000B8, 0x000031_0000B9, 0x00006F_0000BA, 0x000031_002044_000034_0000BC,
  0x000031_002044_000032_0000BD, 0x000033_002044_000034_0000BE, 0x000041_000300_0000C0,
  0x000041_000301_0000C1, 0x000041_000302_0000C2, 0x000041_000303_0000C3, 0x000041_000308_0000C4,
  0x000041_00030A_0000C5, 0x000043_000327_0000C7, 0x000045_000300_0000C8, 0x000045_000301_0000C9,
  0x000045_000302_0000CA, 0x000045_000308_0000CB, 0x000049_000300_0000CC, 0x000049_000301_0000CD,
  0x000049_000302_0000CE, 0x000049_000308_0000CF, 0x00004E_000303_0000D1, 0x00004F_000300_0000D2,
  0x00004F_000301_0000D3, 0x00004F_000302_0000D4, 0x00004F_000303_0000D5, 0x00004F_000308_0000D6,
  0x000055_000300_0000D9, 0x000055_000301_0000DA, 0x000055_000302_0000DB, 0x000055_000308_0000DC,
  0x000059_000301_0000DD, 0x000061_000300_0000E0, 0x000061_000301_0000E1, 0x000061_000302_0000E2,
  0x000061_000303_0000E3, 0x000061_000308_0000E4, 0x000061_00030A_0000E5, 0x000063_000327_0000E7,
  0x000065_000300_0000E8, 0x000065_000301_0000E9, 0x000065_000302_0000EA, 0x000065_000308_0000EB,
  0x000069_000300_0000EC, 0x000069_000301_0000ED, 0x000069_000302_0000EE, 0x000069_000308_0000EF,
  0x00006E_000303_0000F1, 0x00006F_000300_0000F2, 0x00006F_000301_0000F3, 0x00006F_000302_0000F4,
  0x00006F_000303_0000F5, 0x00006F_000308_0000F6, 0x000075_000300_0000F9, 0x000075_000301_0000FA,
  0x000075_000302_0000FB, 0x000075_000308_0000FC, 0x000079_000301_0000FD, 0x000079_000308_0000FF,
  0x000041_000304_000100, 0x000061_000304_000101, 0x000041_000306_000102, 0x000061_000306_000103,
  0x000041_000328_000104, 0x000061_000328_000105, 0x000043_000301_000106, 0x000063_000301_000107,
  0x000043_000302_000108, 0x000063_000302_000109, 0x000043_000307_00010A, 0x000063_000307_00010B,
  0x000043_00030C_00010C, 0x000063_00030C_00010D, 0x000044_00030C_00010E, 0x000064_00030C_00010F,
  0x000045_000304_000112, 0x000065_000304_000113, 0x000045_000306_000114, 0x000065_000306_000115,
  0x000045_000307_000116, 0x000065_000307_000117, 0x000045_000328_000118, 0x000065_000328_000119,
  0x000045_00030C_00011A, 0x000065_00030C_00011B, 0x000047_000302_00011C, 0x000067_000302_00011D,
  0x000047_000306_00011E, 0x000067_000306_00011F, 0x000047_000307_000120, 0x000067_000307_000121,
  0x000047_000327_000122, 0x000067_000327_000123, 0x000048_000302_000124, 0x000068_000302_000125,
  0x000049_000303_000128, 0x000069_000303_000129, 0x000049_000304_00012A, 0x000069_000304_00012B,
  0x000049_000306_00012C, 0x000069_000306_00012D, 0x000049_000328_00012E, 0x000069_000328_00012F,
  0x000049_000307_000130, 0x000049_00004A_000132, 0x000069_00006A_000133, 0x00004A_000302_000134,
  0x00006A_000302_000135, 0x00004B_000327_000136, 0x00006B_000327_000137, 0x00004C_000301_000139,
  0x00006C_000301_00013A, 0x00004C_000327_00013B, 0x00006C_000327_00013C, 0x00004C_00030C_00013D,
  0x00006C_00030C_00013E, 0x00004C_0000B7_00013F, 0x00006C_0000B7_000140, 0x00004E_000301_000143,
  0x00006E_000301_000144, 0x00004E_000327_000145, 0x00006E_000327_000146, 0x00004E_00030C_000147,
  0x00006E_00030C_000148, 0x0002BC_00006E_000149, 0x00004F_000304_00014C, 0x00006F_000304_00014D,
  0x00004F_000306_00014E, 0x00006F_000306_00014F, 0x00004F_00030B_000150, 0x00006F_00030B_000151,
  0x000052_000301_000154, 0x000072_000301_000155, 0x000052_000327_000156, 0x000072_000327_000157,
  0x000052_00030C_000158, 0x000072_00030C_000159, 0x000053_000301_00015A, 0x000073_000301_00015B,
  0x000053_000302_00015C, 0x000073_000302_00015D, 0x000053_000327_00015E, 0x000073_000327_00015F,
  0x000053_00030C_000160, 0x000073_00030C_000161, 0x000054_000327_000162, 0x000074_000327_000163,
  0x000054_00030C_000164, 0x000074_00030C_000165, 0x000055_000303_000168, 0x000075_000303_000169,
  0x000055_000304_00016A, 0x000075_000304_00016B, 0x000055_000306_00016C, 0x000075_000306_00016D,
  0x000055_00030A_00016E, 0x000075_00030A_00016F, 0x000055_00030B_000170, 0x000075_00030B_000171,
  0x000055_000328_000172, 0x000075_000328_000173, 0x000057_000302_000174, 0x000077_000302_000175,
  0x000059_000302_000176, 0x000079_000302_000177, 0x000059_000308_000178, 0x00005A_000301_000179,
  0x00007A_000301_00017A, 0x00005A_000307_00017B, 0x00007A_000307_00017C, 0x00005A_00030C_00017D,
  0x00007A_00030C_00017E, 0x000073_00017F, 0x00004F_00031B_0001A0, 0x00006F_00031B_0001A1,
  0x000055_00031B_0001AF, 0x000075_00031B_0001B0, 0x000044_00005A_00030C_0001C4,
  0x000044_00007A_00030C_0001C5, 0x000064_00007A_00030C_0001C6, 0x00004C_00004A_0001C7,
  0x00004C_00006A_0001C8, 0x00006C_00006A_0001C9, 0x00004E_00004A_0001CA, 0x00004E_00006A_0001CB,
  0x00006E_00006A_0001CC, 0x000041_00030C_0001CD, 0x000061_00030C_0001CE, 0x000049_00030C_0001CF,
  0x000069_00030C_0001D0, 0x00004F_00030C_0001D1, 0x00006F_00030C_0001D2, 0x000055_00030C_0001D3,
  0x000075_00030C_0001D4, 0x000055_000308_000304_0001D5, 0x000075_000308_000304_0001D6,
  0x000055_000308_000301_0001D7, 0x000075_000308_000301_0001D8, 0x000055_000308_00030C_0001D9,
  0x000075_000308_00030C_0001DA, 0x000055_000308_000300_0001DB, 0x000075_000308_000300_0001DC,
  0x000041_000308_000304_0001DE, 0x000061_000308_000304_0001DF, 0x000041_000307_000304_0001E0,
  0x000061_000307_000304_0001E1, 0x0000C6_000304_0001E2, 0x0000E6_000304_0001E3,
  0x000047_00030C_0001E6, 0x000067_00030C_0001E7, 0x00004B_00030C_0001E8, 0x00006B_00030C_0001E9,
  0x00004F_000328_0001EA, 0x00006F_000328_0001EB, 0x00004F_000328_000304_0001EC,
  0x00006F_000328_000304_0001ED, 0x0001B7_00030C_0001EE, 0x000292_00030C_0001EF,
  0x00006A_00030C_0001F0, 0x000044_00005A_0001F1, 0x000044_00007A_0001F2, 0x000064_00007A_0001F3,
  0x000047_000301_0001F4, 0x000067_000301_0001F5, 0x00004E_000300_0001F8, 0x00006E_000300_0001F9,
  0x000041_00030A_000301_0001FA, 0x000061_00030A_000301_0001FB, 0x0000C6_000301_0001FC,
  0x0000E6_000301_0001FD, 0x0000D8_000301_0001FE, 0x0000F8_000301_0001FF, 0x000041_00030F_000200,
  0x000061_00030F_000201, 0x000041_000311_000202, 0x000061_000311_000203, 0x000045_00030F_000204,
  0x000065_00030F_000205, 0x000045_000311_000206, 0x000065_000311_000207, 0x000049_00030F_000208,
  0x000069_00030F_000209, 0x000049_000311_00020A, 0x000069_000311_00020B, 0x00004F_00030F_00020C,
  0x00006F_00030F_00020D, 0x00004F_000311_00020E, 0x00006F_000311_00020F, 0x000052_00030F_000210,
  0x000072_00030F_000211, 0x000052_000311_000212, 0x000072_000311_000213, 0x000055_00030F_000214,
  0x000075_00030F_000215, 0x000055_000311_000216, 0x000075_000311_000217, 0x000053_000326_000218,
  0x000073_000326_000219, 0x000054_000326_00021A, 0x000074_000326_00021B, 0x000048_00030C_00021E,
  0x000068_00030C_00021F, 0x000041_000307_000226, 0x000061_000307_000227, 0x000045_000327_000228,
  0x000065_000327_000229, 0x00004F_000308_000304_00022A, 0x00006F_000308_000304_00022B,
  0x00004F_000303_000304_00022C, 0x00006F_000303_000304_00022D, 0x00004F_000307_00022E,
  0x00006F_000307_00022F, 0x00004F_000307_000304_000230, 0x00006F_000307_000304_000231,
  0x000059_000304_000232, 0x000079_000304_000233, 0x000068_0002B0, 0x000266_0002B1,
  0x00006A_0002B2, 0x000072_0002B3, 0x000279_0002B4, 0x00027B_0002B5, 0x000281_0002B6,
  0x000077_0002B7, 0x000079_0002B8, 0x000020_000306_0002D8, 0x000020_000307_0002D9,
  0x000020_00030A_0002DA, 0x000020_000328_0002DB, 0x000020_000303_0002DC, 0x000020_00030B_0002DD,
  0x000263_0002E0, 0x00006C_0002E1, 0x000073_0002E2, 0x000078_0002E3, 0x000295_0002E4,
  0x000300_000340, 0x000301_000341, 0x000313_000343, 0x000308_000301_000344]

set_option maxRecDepth 40000 in
/-- Greek, Cyrillic, Armenian, Hebrew and Arabic letters. -/
def greek : List Nat := [
  0x0002B9_000374, 0x000020_000345_00037A, 0x00003B_00037E, 0x000020_000301_000384,
  0x000020_000308_000301_000385, 0x000391_000301_000386, 0x0000B7_000387, 0x000395_000301_000388,
  0x000397_000301_000389, 0x000399_000301_00038A, 0x00039F_000301_00038C, 0x0003A5_000301_00038E,
  0x0003A9_000301_00038F, 0x0003B9_000308_000301_000390, 0x000399_000308_0003AA,
  0x0003A5_000308_0003AB, 0x0003B1_000301_0003AC, 0x0003B5_000301_0003AD, 0x0003B7_000301_0003AE,
  0x0003B9_000301_0003AF, 0x0003C5_000308_000301_0003B0, 0x0003B9_000308_0003CA,
  0x0003C5_000308_0003CB, 0x0003BF_000301_0003CC, 0x0003C5_000301_0003CD, 0x0003C9_000301_0003CE,
  0x0003B2_0003D0, 0x0003B8_0003D1, 0x0003A5_0003D2, 0x0003A5_000301_0003D3,
  0x0003A5_000308_0003D4, 0x0003C6_0003D5, 0x0003C0_0003D6, 0x0003BA_0003F0, 0x0003C1_0003F1,
  0x0003C2_0003F2, 0x000398_0003F4, 0x0003B5_0003F5, 0x0003A3_0003F9, 0x000415_000300_000400,
  0x000415_000308_000401, 0x000413_000301_000403, 0x000406_000308_000407, 0x00041A_000301_00040C,
  0x000418_000300_00040D, 0x000423_000306_00040E, 0x000418_000306_000419, 0x000438_000306_000439,
  0x000435_000300_000450, 0x000435_000308_000451, 0x000433_000301_000453, 0x000456_000308_000457,
  0x00043A_000301_00045C, 0x000438_000300_00045D, 0x000443_000306_00045E, 0x000474_00030F_000476,
  0x000475_00030F_000477, 0x000416_000306_0004C1, 0x000436_000306_0004C2, 0x000410_000306_0004D0,
  0x000430_000306_0004D1, 0x000410_000308_0004D2, 0x000430_000308_0004D3, 0x000415_000306_0004D6,
  0x000435_000306_0004D7, 0x0004D8_000308_0004DA, 0x0004D9_000308_0004DB, 0x000416_000308_0004DC,
  0x000436_000308_0004DD, 0x000417_000308_0004DE, 0x000437_000308_0004DF, 0x000418_000304_0004E2,
  0x000438_000304_0004E3, 0x000418_000308_0004E4, 0x000438_000308_0004E5, 0x00041E_000308_0004E6,
  0x00043E_000308_0004E7, 0x0004E8_000308_0004EA, 0x0004E9_000308_0004EB, 0x00042D_000308_0004EC,
  0x00044D_000308_0004ED, 0x000423_000304_0004EE, 0x000443_000304_0004EF, 0x000423_000308_0004F0,
  0x000443_000308_0004F1, 0x000423_00030B_0004F2, 0x000443_00030B_0004F3, 0x000427_000308_0004F4,
  0x000447_000308_0004F5, 0x00042B_000308_0004F8, 0x00044B_000308_0004F9, 0x000565_000582_000587,
  0x000627_000653_000622, 0x000627_000654_000623, 0x000648_000654_000624, 0x000627_000655_000625,
  0x00064A_000654_000626, 0x000627_000674_000675, 0x000648_000674_000676, 0x0006C7_000674_000677,
  0x00064A_000674_000678, 0x0006D5_000654_0006C0, 0x0006C1_000654_0006C2, 0x0006D2_000654_0006D3]

set_option maxRecDepth 40000 in
/-- Scripts from Devanagari to Georgian and their neighbours. -/
def indic : List Nat := [
  0x000928_00093C_000929, 0x000930_00093C_000931, 0x000933_00093C_000934, 0x000915_00093C_000958,
  0x000916_00093C_000959, 0x000917_00093C_00095A, 0x00091C_00093C_00095B, 0x000921_00093C_00095C,
  0x000922_00093C_00095D, 0x00092B_00093C_00095E, 0x00092F_00093C_00095F, 0x0009C7_0009BE_0009CB,
  0x0009C7_0009D7_0009CC, 0x0009A1_0009BC_0009DC, 0x0009A2_0009BC_0009DD, 0x0009AF_0009BC_0009DF,
  0x000A32_000A3C_000A33, 0x000A38_000A3C_000A36, 0x000A16_000A3C_000A59, 0x000A17_000A3C_000A5A,
  0x000A1C_000A3C_000A5B, 0x000A2B_000A3C_000A5E, 0x000B47_000B56_000B48, 0x000B47_000B3E_000B4B,
  0x000B47_000B57_000B4C, 0x000B21_000B3C_000B5C, 0x000B22_000B3C_000B5D, 0x000B92_000BD7_000B94,
  0x000BC6_000BBE_000BCA, 0x000BC7_000BBE_000BCB, 0x000BC6_000BD7_000BCC, 0x000C46_000C56_000C48,
  0x000CBF_000CD5_000CC0, 0x000CC6_000CD5_000CC7, 0x000CC6_000CD6_000CC8, 0x000CC6_000CC2_000CCA,
  0x000CC6_000CC2_000CD5_000CCB, 0x000D46_000D3E_000D4A, 0x000D47_000D3E_000D4B,
  0x000D46_000D57_000D4C, 0x000DD9_000DCA_000DDA, 0x000DD9_000DCF_000DDC,
  0x000DD9_000DCF_000DCA_000DDD, 0x000DD9_000DDF_000DDE, 0x000E4D_000E32_000E33,
  0x000ECD_000EB2_000EB3, 0x000EAB_000E99_000EDC, 0x000EAB_000EA1_000EDD, 0x000F0B_000F0C,
  0x000F42_000FB7_000F43, 0x000F4C_000FB7_000F4D, 0x000F51_000FB7_000F52, 0x000F56_000FB7_000F57,
  0x000F5B_000FB7_000F5C, 0x000F40_000FB5_000F69, 0x000F71_000F72_000F73, 0x000F71_000F74_000F75,
  0x000FB2_000F80_000F76, 0x000FB2_000F71_000F80_000F77, 0x000FB3_000F80_000F78,
  0x000FB3_000F71_000F80_000F79, 0x000F71_000F80_000F81, 0x000F92_000FB7_000F93,
  0x000F9C_000FB7_000F9D, 0x000FA1_000FB7_000FA2, 0x000FA6_000FB7_000FA7, 0x000FAB_000FB7_000FAC,
  0x000F90_000FB5_000FB9, 0x001025_00102E_001026, 0x0010DC_0010FC, 0x001B05_001B35_001B06,
  0x001B07_001B35_001B08, 0x001B09_001B35_001B0A, 0x001B0B_001B35_001B0C, 0x001B0D_001B35_001B0E,
  0x001B11_001B35_001B12, 0x001B3A_001B35_001B3B, 0x001B3C_001B35_001B3D, 0x001B3E_001B35_001B40,
  0x001B3F_001B35_001B41, 0x001B42_001B35_001B43, 0x000041_001D2C, 0x0000C6_001D2D,
  0x000042_001D2E, 0x000044_001D30, 0x000045_001D31, 0x00018E_001D32, 0x000047_001D33,
  0x000048_001D34, 0x000049_001D35, 0x00004A_001D36, 0x00004B_001D37, 0x00004C_001D38,
  0x00004D_001D39, 0x00004E_001D3A, 0x00004F_001D3C, 0x000222_001D3D, 0x000050_001D3E,
  0x000052_001D3F, 0x000054_001D40, 0x000055_001D41, 0x000057_001D42, 0x000061_001D43,
  0x000250_001D44, 0x000251_001D45, 0x001D02_001D46, 0x000062_001D47, 0x000064_001D48,
  0x000065_001D49, 0x000259_001D4A, 0x00025B_001D4B, 0x00025C_001D4C, 0x000067_001D4D,
  0x00006B_001D4F, 0x00006D_001D50, 0x00014B_001D51, 0x00006F_001D52, 0x000254_001D53,
  0x001D16_001D54, 0x001D17_001D55, 0x000070_001D56, 0x000074_001D57, 0x000075_001D58,
  0x001D1D_001D59, 0x00026F_001D5A, 0x000076_001D5B, 0x001D25_001D5C, 0x0003B2_001D5D,
  0x0003B3_001D5E, 0x0003B4_001D5F, 0x0003C6_001D60, 0x0003C7_001D61, 0x000069_001D62,
  0x000072_001D63, 0x000075_001D64, 0x000076_001D65, 0x0003B2_001D66, 0x0003B3_001D67,
  0x0003C1_001D68, 0x0003C6_001D69, 0x0003C7_001D6A, 0x00043D_001D78, 0x000252_001D9B,
  0x000063_001D9C, 0x000255_001D9D, 0x0000F0_001D9E, 0x00025C_001D9F, 0x000066_001DA0,
  0x00025F_001DA1, 0x000261_001DA2, 0x000265_001DA3, 0x000268_001DA4, 0x000269_001DA5,
  0x00026A_001DA6, 0x001D7B_001DA7, 0x00029D_001DA8, 0x00026D_001DA9, 0x001D85_001DAA,
  0x00029F_001DAB, 0x000271_001DAC, 0x000270_001DAD, 0x000272_001DAE, 0x000273_001DAF,
  0x000274_001DB0, 0x000275_001DB1, 0x000278_001DB2, 0x000282_001DB3, 0x000283_001DB4,
  0x0001AB_001DB5, 0x000289_001DB6, 0x00028A_001DB7, 0x001D1C_001DB8, 0x00028B_001DB9,
  0x00028C_001DBA, 0x00007A_001DBB, 0x000290_001DBC, 0x000291_001DBD, 0x000292_001DBE,
  0x0003B8_001DBF]

set_option maxRecDepth 40000 in
/-- Extended Latin and Greek. -/
def extended : List Nat := [
  0x000041_000325_001E00, 0x000061_000325_001E01, 0x000042_000307_001E02, 0x000062_000307_001E03,
  0x000042_000323_001E04, 0x000062_000323_001E05, 0x000042_000331_001E06, 0x000062_000331_001E07,
  0x000043_000327_000301_001E08, 0x000063_000327_000301_001E09, 0x000044_000307_001E0A,
  0x000064_000307_001E0B, 0x000044_000323_001E0C, 0x000064_000323_001E0D, 0x000044_000331_001E0E,
  0x000064_000331_001E0F, 0x000044_000327_001E10, 0x000064_000327_001E11, 0x000044_00032D_001E12,
  0x000064_00032D_001E13, 0x000045_000304_000300_001E14, 0x000065_000304_000300_001E15,
  0x000045_000304_000301_001E16, 0x000065_000304_000301_001E17, 0x000045_00032D_001E18,
  0x000065_00032D_001E19, 0x000045_000330_001E1A, 0x000065_000330_001E1B,
  0x000045_000327_000306_001E1C, 0x000065_000327_000306_001E1D, 0x000046_000307_001E1E,
  0x000066_000307_001E1F, 0x000047_000304_001E20, 0x000067_000304_001E21, 0x000048_000307_001E22,
  0x000068_000307_001E23, 0x000048_000323_001E24, 0x000068_000323_001E25, 0x000048_000308_001E26,
  0x000068_000308_001E27, 0x000048_000327_001E28, 0x000068_000327_001E29, 0x000048_00032E_001E2A,
  0x000068_00032E_001E2B, 0x000049_000330_001E2C, 0x000069_000330_001E2D,
  0x000049_000308_000301_001E2E, 0x000069_000308_000301_001E2F, 0x00004B_000301_001E30,
  0x00006B_000301_001E31, 0x00004B_000323_001E32, 0x00006B_000323_001E33, 0x00004B_000331_001E34,
  0x00006B_000331_001E35, 0x00004C_000323_001E36, 0x00006C_000323_001E37,
  0x00004C_000323_000304_001E38, 0x00006C_000323_000304_001E39, 0x00004C_000331_001E3A,
  0x00006C_000331_001E3B, 0x00004C_00032D_001E3C, 0x00006C_00032D_001E3D, 0x00004D_000301_001E3E,
  0x00006D_000301_001E3F, 0x00004D_000307_001E40, 0x00006D_000307_001E41, 0x00004D_000323_001E42,
  0x00006D_000323_001E43, 0x00004E_000307_001E44, 0x00006E_000307_001E45, 0x00004E_000323_001E46,
  0x00006E_000323_001E47, 0x00004E_000331_001E48, 0x00006E_000331_001E49, 0x00004E_00032D_001E4A,
  0x00006E_00032D_001E4B, 0x00004F_000303_000301_001E4C, 0x00006F_000303_000301_001E4D,
  0x00004F_000303_000308_001E4E, 0x00006F_000303_000308_001E4F, 0x00004F_000304_000300_001E50,
  0x00006F_000304_000300_001E51, 0x00004F_000304_000301_001E52, 0x00006F_000304_000301_001E53,
  0x000050_000301_001E54, 0x000070_000301_001E55, 0x000050_000307_001E56, 0x000070_000307_001E57,
  0x000052_000307_001E58, 0x000072_000307_001E59, 0x000052_000323_001E5A, 0x000072_000323_001E5B,
  0x000052_000323_000304_001E5C, 0x000072_000323_000304_001E5D, 0x000052_000331_001E5E,
  0x000072_000331_001E5F, 0x000053_000307_001E60, 0x000073_000307_001E61, 0x000053_000323_001E62,
  0x000073_000323_001E63, 0x000053_000301_000307_001E64, 0x000073_000301_000307_001E65,
  0x000053_00030C_000307_001E66, 0x000073_00030C_000307_001E67, 0x000053_000323_000307_001E68,
  0x000073_000323_000307_001E69, 0x000054_000307_001E6A, 0x000074_000307_001E6B,
  0x000054_000323_001E6C, 0x000074_000323_001E6D, 0x000054_000331_001E6E, 0x000074_000331_001E6F,
  0x000054_00032D_001E70, 0x000074_00032D_001E71, 0x000055_000324_001E72, 0x000075_000324_001E73,
  0x000055_000330_001E74, 0x000075_000330_001E75, 0x000055_00032D_001E76, 0x000075_00032D_001E77,
  0x000055_000303_000301_001E78, 0x000075_000303_000301_001E79, 0x000055_000304_000308_001E7A,
  0x000075_000304_000308_001E7B, 0x000056_000303_001E7C, 0x000076_000303_001E7D,
  0x000056_000323_001E7E, 0x000076_000323_001E7F, 0x000057_000300_001E80, 0x000077_000300_001E81,
  0x000057_000301_001E82, 0x000077_000301_001E83, 0x000057_000308_001E84, 0x000077_000308_001E85,
  0x000057_000307_001E86, 0x000077_000307_001E87, 0x000057_000323_001E88, 0x000077_000323_001E89,
  0x000058_000307_001E8A, 0x000078_000307_001E8B, 0x000058_000308_001E8C, 0x000078_000308_001E8D,
  0x000059_000307_001E8E, 0x000079_000307_001E8F, 0x00005A_000302_001E90, 0x00007A_000302_001E91,
  0x00005A_000323_001E92, 0x00007A_000323_001E93, 0x00005A_000331_001E94, 0x00007A_000331_001E95,
  0x000068_000331_001E96, 0x000074_000308_001E97, 0x000077_00030A_001E98, 0x000079_00030A_001E99,
  0x000061_0002BE_001E9A, 0x000073_000307_001E9B, 0x000041_000323_001EA0, 0x000061_000323_001EA1,
  0x000041_000309_001EA2, 0x000061_000309_001EA3, 0x000041_000302_000301_001EA4,
  0x000061_000302_000301_001EA5, 0x000041_000302_000300_001EA6, 0x000061_000302_000300_001EA7,
  0x000041_000302_000309_001EA8, 0x000061_000302_000309_001EA9, 0x000041_000302_000303_001EAA,
  0x000061_000302_000303_001EAB, 0x000041_000323_000302_001EAC, 0x000061_000323_000302_001EAD,
  0x000041_000306_000301_001EAE, 0x000061_000306_000301_001EAF, 0x000041_000306_000300_001EB0,
  0x000061_000306_000300_001EB1, 0x000041_000306_000309_001EB2, 0x000061_000306_000309_001EB3,
  0x000041_000306_000303_001EB4, 0x000061_000306_000303_001EB5, 0x000041_000323_000306_001EB6,
  0x000061_000323_000306_001EB7, 0x000045_000323_001EB8, 0x000065_000323_001EB9,
  0x000045_000309_001EBA, 0x000065_000309_001EBB, 0x000045_000303_001EBC, 0x000065_000303_001EBD,
  0x000045_000302_000301_001EBE, 0x000065_000302_000301_001EBF, 0x000045_000302_000300_001EC0,
  0x000065_000302_000300_001EC1, 0x000045_000302_000309_001EC2, 0x000065_000302_000309_001EC3,
  0x000045_000302_000303_001EC4, 0x000065_000302_000303_001EC5, 0x000045_000323_000302_001EC6,
  0x000065_000323_000302_001EC7, 0x000049_000309_001EC8, 0x000069_000309_001EC9,
  0x000049_000323_001ECA, 0x000069_000323_001ECB, 0x00004F_000323_001ECC, 0x00006F_000323_001ECD,
  0x00004F_000309_001ECE, 0x00006F_000309_001ECF, 0x00004F_000302_000301_001ED0,
  0x00006F_000302_000301_001ED1, 0x00004F_000302_000300_001ED2, 0x00006F_000302_000300_001ED3,
  0x00004F_000302_000309_001ED4, 0x00006F_000302_000309_001ED5, 0x00004F_000302_000303_001ED6,
  0x00006F_000302_000303_001ED7, 0x00004F_000323_000302_001ED8, 0x00006F_000323_000302_001ED9,
  0x00004F_00031B_000301_001EDA, 0x00006F_00031B_000301_001EDB, 0x00004F_00031B_000300_001EDC,
  0x00006F_00031B_000300_001EDD, 0x00004F_00031B_000309_001EDE, 0x00006F_00031B_000309_001EDF,
  0x00004F_00031B_000303_001EE0, 0x00006F_00031B_000303_001EE1, 0x00004F_00031B_000323_001EE2,
  0x00006F_00031B_000323_001EE3, 0x000055_000323_001EE4, 0x000075_000323_001EE5,
  0x000055_000309_001EE6, 0x000075_000309_001EE7, 0x000055_00031B_000301_001EE8,
  0x000075_00031B_000301_001EE9, 0x000055_00031B_000300_001EEA, 0x000075_00031B_000300_001EEB,
  0x000055_00031B_000309_001EEC, 0x000075_00031B_000309_001EED, 0x000055_00031B_000303_001EEE,
  0x000075_00031B_000303_001EEF, 0x000055_00031B_000323_001EF0, 0x000075_00031B_000323_001EF1,
  0x000059_000300_001EF2, 0x000079_000300_001EF3, 0x000059_000323_001EF4, 0x000079_000323_001EF5,
  0x000059_000309_001EF6, 0x000079_000309_001EF7, 0x000059_000303_001EF8, 0x000079_000303_001EF9,
  0x0003B1_000313_001F00, 0x0003B1_000314_001F01, 0x0003B1_000313_000300_001F02,
  0x0003B1_000314_000300_001F03, 0x0003B1_000313_000301_001F04, 0x0003B1_000314_000301_001F05,
  0x0003B1_000313_000342_001F06, 0x0003B1_000314_000342_001F07, 0x000391_000313_001F08,
  0x000391_000314_001F09, 0x000391_000313_000300_001F0A, 0x000391_000314_000300_001F0B,
  0x000391_000313_000301_001F0C, 0x000391_000314_000301_001F0D, 0x000391_000313_000342_001F0E,
  0x000391_000314_000342_001F0F, 0x0003B5_000313_001F10, 0x0003B5_000314_001F11,
  0x0003B5_000313_000300_001F12, 0x0003B5_000314_000300_001F13, 0x0003B5_000313_000301_001F14,
  0x0003B5_000314_000301_001F15, 0x000395_000313_001F18, 0x000395_000314_001F19,
  0x000395_000313_000300_001F1A, 0x000395_000314_000300_001F1B, 0x000395_000313_000301_001F1C,
  0x000395_000314_000301_001F1D, 0x0003B7_000313_001F20, 0x0003B7_000314_001F21,
  0x0003B7_000313_000300_001F22, 0x0003B7_000314_000300_001F23, 0x0003B7_000313_000301_001F24,
  0x0003B7_000314_000301_001F25, 0x0003B7_000313_000342_001F26, 0x0003B7_000314_000342_001F27,
  0x000397_000313_001F28, 0x000397_000314_001F29, 0x000397_000313_000300_001F2A,
  0x000397_000314_000300_001F2B, 0x000397_000313_000301_001F2C, 0x000397_000314_000301_001F2D,
  0x000397_000313_000342_001F2E, 0x000397_000314_000342_001F2F, 0x0003B9_000313_001F30,
  0x0003B9_000314_001F31, 0x0003B9_000313_000300_001F32, 0x0003B9_000314_000300_001F33,
  0x0003B9_000313_000301_001F34, 0x0003B9_000314_000301_001F35, 0x0003B9_000313_000342_001F36,
  0x0003B9_000314_000342_001F37, 0x000399_000313_001F38, 0x000399_000314_001F39,
  0x000399_000313_000300_001F3A, 0x000399_000314_000300_001F3B, 0x000399_000313_000301_001F3C,
  0x000399_000314_000301_001F3D, 0x000399_000313_000342_001F3E, 0x000399_000314_000342_001F3F,
  0x0003BF_000313_001F40, 0x0003BF_000314_001F41, 0x0003BF_000313_000300_001F42,
  0x0003BF_000314_000300_001F43, 0x0003BF_000313_000301_001F44, 0x0003BF_000314_000301_001F45,
  0x00039F_000313_001F48, 0x00039F_000314_001F49, 0x00039F_000313_000300_001F4A,
  0x00039F_000314_000300_001F4B, 0x00039F_000313_000301_001F4C, 0x00039F_000314_000301_001F4D,
  0x0003C5_000313_001F50, 0x0003C5_000314_001F51, 0x0003C5_000313_000300_001F52,
  0x0003C5_000314_000300_001F53, 0x0003C5_000313_000301_001F54, 0x0003C5_000314_000301_001F55,
  0x0003C5_000313_000342_001F56, 0x0003C5_000314_000342_001F57, 0x0003A5_000314_001F59,
  0x0003A5_000314_000300_001F5B, 0x0003A5_000314_000301_001F5D, 0x0003A5_000314_000342_001F5F,
  0x0003C9_000313_001F60, 0x0003C9_000314_001F61, 0x0003C9_000313_000300_001F62,
  0x0003C9_000314_000300_001F63, 0x0003C9_000313_000301_001F64, 0x0003C9_000314_000301_001F65,
  0x0003C9_000313_000342_001F66, 0x0003C9_000314_000342_001F67, 0x0003A9_000313_001F68,
  0x0003A9_000314_001F69, 0x0003A9_000313_000300_001F6A, 0x0003A9_000314_000300_001F6B,
  0x0003A9_000313_000301_001F6C, 0x0003A9_000314_000301_001F6D, 0x0003A9_000313_000342_001F6E,
  0x0003A9_000314_000342_001F6F, 0x0003B1_000300_001F70, 0x0003B1_000301_001F71,
  0x0003B5_000300_001F72, 0x0003B5_000301_001F73, 0x0003B7_000300_001F74, 0x0003B7_000301_001F75,
  0x0003B9_000300_001F76, 0x0003B9_000301_001F77, 0x0003BF_000300_001F78, 0x0003BF_000301_001F79,
  0x0003C5_000300_001F7A, 0x0003C5_000301_001F7B, 0x0003C9_000300_001F7C, 0x0003C9_000301_001F7D,
  0x0003B1_000313_000345_001F80, 0x0003B1_000314_000345_001F81,
  0x0003B1_000313_000300_000345_001F82, 0x0003B1_000314_000300_000345_001F83,
  0x0003B1_000313_000301_000345_001F84, 0x0003B1_000314_000301_000345_001F85,
  0x0003B1_000313_000342_000345_001F86, 0x0003B1_000314_000342_000345_001F87,
  0x000391_000313_000345_001F88, 0x000391_000314_000345_001F89,
  0x000391_000313_000300_000345_001F8A, 0x000391_000314_000300_000345_001F8B,
  0x000391_000313_000301_000345_001F8C, 0x000391_000314_000301_000345_001F8D,
  0x000391_000313_000342_000345_001F8E, 0x000391_000314_000342_000345_001F8F,
  0x0003B7_000313_000345_001F90, 0x0003B7_000314_000345_001F91,
  0x0003B7_000313_000300_000345_001F92, 0x0003B7_000314_000300_000345_001F93,
  0x0003B7_000313_000301_000345_001F94, 0x0003B7_000314_000301_000345_001F95,
  0x0003B7_000313_000342_000345_001F96, 0x0003B7_000314_000342_000345_001F97,
  0x000397_000313_000345_001F98, 0x000397_000314_000345_001F99,
  0x000397_000313_000300_000345_001F9A, 0x000397_000314_000300_000345_001F9B,
  0x000397_000313_000301_000345_001F9C, 0x000397_000314_000301_000345_001F9D,
  0x000397_000313_000342_000345_001F9E, 0x000397_000314_000342_000345_001F9F,
  0x0003C9_000313_000345_001FA0, 0x0003C9_000314_000345_001FA1,
  0x0003C9_000313_000300_000345_001FA2, 0x0003C9_000314_000300_000345_001FA3,
  0x0003C9_000313_000301_000345_001FA4, 0x0003C9_000314_000301_000345_001FA5,
  0x0003C9_000313_000342_000345_001FA6, 0x0003C9_000314_000342_000345_001FA7,
  0x0003A9_000313_000345_001FA8, 0x0003A9_000314_000345_001FA9,
  0x0003A9_000313_000300_000345_001FAA, 0x0003A9_000314_000300_000345_001FAB,
  0x0003A9_000313_000301_000345_001FAC, 0x0003A9_000314_000301_000345_001FAD,
  0x0003A9_000313_000342_000345_001FAE, 0x0003A9_000314_000342_000345_001FAF,
  0x0003B1_000306_001FB0, 0x0003B1_000304_001FB1, 0x0003B1_000300_000345_001FB2,
  0x0003B1_000345_001FB3, 0x0003B1_000301_000345_001FB4, 0x0003B1_000342_001FB6,
  0x0003B1_000342_000345_001FB7, 0x000391_000306_001FB8, 0x000391_000304_001FB9,
  0x000391_000300_001FBA, 0x000391_000301_001FBB, 0x000391_000345_001FBC, 0x000020_000313_001FBD,
  0x0003B9_001FBE, 0x000020_000313_001FBF, 0x000020_000342_001FC0, 0x000020_000308_000342_001FC1,
  0x0003B7_000300_000345_001FC2, 0x0003B7_000345_001FC3, 0x0003B7_000301_000345_001FC4,
  0x0003B7_000342_001FC6, 0x0003B7_000342_000345_001FC7, 0x000395_000300_001FC8,
  0x000395_000301_001FC9, 0x000397_000300_001FCA, 0x000397_000301_001FCB, 0x000397_000345_001FCC,
  0x000020_000313_000300_001FCD, 0x000020_000313_000301_001FCE, 0x000020_000313_000342_001FCF,
  0x0003B9_000306_001FD0, 0x0003B9_000304_001FD1, 0x0003B9_000308_000300_001FD2,
  0x0003B9_000308_000301_001FD3, 0x0003B9_000342_001FD6, 0x0003B9_000308_000342_001FD7,
  0x000399_000306_001FD8, 0x000399_000304_001FD9, 0x000399_000300_001FDA, 0x000399_000301_001FDB,
  0x000020_000314_000300_001FDD, 0x000020_000314_000301_001FDE, 0x000020_000314_000342_001FDF,
  0x0003C5_000306_001FE0, 0x0003C5_000304_001FE1, 0x0003C5_000308_000300_001FE2,
  0x0003C5_000308_000301_001FE3, 0x0003C1_000313_001FE4, 0x0003C1_000314_001FE5,
  0x0003C5_000342_001FE6, 0x0003C5_000308_000342_001FE7, 0x0003A5_000306_001FE8,
  0x0003A5_000304_001FE9, 0x0003A5_000300_001FEA, 0x0003A5_000301_001FEB, 0x0003A1_000314_001FEC,
  0x000020_000308_000300_001FED, 0x000020_000308_000301_001FEE, 0x000060_001FEF,
  0x0003C9_000300_000345_001FF2, 0x0003C9_000345_001FF3, 0x0003C9_000301_000345_001FF4,
  0x0003C9_000342_001FF6, 0x0003C9_000342_000345_001FF7, 0x00039F_000300_001FF8,
  0x00039F_000301_001FF9, 0x0003A9_000300_001FFA, 0x0003A9_000301_001FFB, 0x0003A9_000345_001FFC,
  0x000020_000301_001FFD, 0x000020_000314_001FFE]

end FileIndex.Text.Decomposition
