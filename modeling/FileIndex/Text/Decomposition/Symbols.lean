/-
Full compatibility decompositions: punctuation, symbols, letters of mathematics, and letters and words in frames. Each
row holds the decomposition and, as its last digit, the character it belongs to.
-/

namespace FileIndex.Text.Decomposition

set_option maxRecDepth 40000 in
/-- Punctuation, letterlike symbols, numerals in circles and brackets. -/
def symbols : List Nat := [
  0x000020_002000, 0x000020_002001, 0x000020_002002, 0x000020_002003, 0x000020_002004,
  0x000020_002005, 0x000020_002006, 0x000020_002007, 0x000020_002008, 0x000020_002009,
  0x000020_00200A, 0x002010_002011, 0x000020_000333_002017, 0x00002E_002024,
  0x00002E_00002E_002025, 0x00002E_00002E_00002E_002026, 0x000020_00202F, 0x002032_002032_002033,
  0x002032_002032_002032_002034, 0x002035_002035_002036, 0x002035_002035_002035_002037,
  0x000021_000021_00203C, 0x000020_000305_00203E, 0x00003F_00003F_002047, 0x00003F_000021_002048,
  0x000021_00003F_002049, 0x002032_002032_002032_002032_002057, 0x000020_00205F, 0x000030_002070,
  0x000069_002071, 0x000034_002074, 0x000035_002075, 0x000036_002076, 0x000037_002077,
  0x000038_002078, 0x000039_002079, 0x00002B_00207A, 0x002212_00207B, 0x00003D_00207C,
  0x000028_00207D, 0x000029_00207E, 0x00006E_00207F, 0x000030_002080, 0x000031_002081,
  0x000032_002082, 0x000033_002083, 0x000034_002084, 0x000035_002085, 0x000036_002086,
  0x000037_002087, 0x000038_002088, 0x000039_002089, 0x00002B_00208A, 0x002212_00208B,
  0x00003D_00208C, 0x000028_00208D, 0x000029_00208E, 0x000061_002090, 0x000065_002091,
  0x00006F_002092, 0x000078_002093, 0x000259_002094, 0x000068_002095, 0x00006B_002096,
  0x00006C_002097, 0x00006D_002098, 0x00006E_002099, 0x000070_00209A, 0x000073_00209B,
  0x000074_00209C, 0x000052_000073_0020A8, 0x000061_00002F_000063_002100,
  0x000061_00002F_000073_002101, 0x000043_002102, 0x0000B0_000043_002103,
  0x000063_00002F_00006F_002105, 0x000063_00002F_000075_002106, 0x000190_002107,
  0x0000B0_000046_002109, 0x000067_00210A, 0x000048_00210B, 0x000048_00210C, 0x000048_00210D,
  0x000068_00210E, 0x000127_00210F, 0x000049_002110, 0x000049_002111, 0x00004C_002112,
  0x00006C_002113, 0x00004E_002115, 0x00004E_00006F_002116, 0x000050_002119, 0x000051_00211A,
  0x000052_00211B, 0x000052_00211C, 0x000052_00211D, 0x000053_00004D_002120,
  0x000054_000045_00004C_002121, 0x000054_00004D_002122, 0x00005A_002124, 0x0003A9_002126,
  0x00005A_002128, 0x00004B_00212A, 0x000041_00030A_00212B, 0x000042_00212C, 0x000043_00212D,
  0x000065_00212F, 0x000045_002130, 0x000046_002131, 0x00004D_002133, 0x00006F_002134,
  0x0005D0_002135, 0x0005D1_002136, 0x0005D2_002137, 0x0005D3_002138, 0x000069_002139,
  0x000046_000041_000058_00213B, 0x0003C0_00213C, 0x0003B3_00213D, 0x000393_00213E,
  0x0003A0_00213F, 0x002211_002140, 0x000044_002145, 0x000064_002146, 0x000065_002147,
  0x000069_002148, 0x00006A_002149, 0x000031_002044_000037_002150, 0x000031_002044_000039_002151,
  0x000031_002044_000031_000030_002152, 0x000031_002044_000033_002153,
  0x000032_002044_000033_002154, 0x000031_002044_000035_002155, 0x000032_002044_000035_002156,
  0x000033_002044_000035_002157, 0x000034_002044_000035_002158, 0x000031_002044_000036_002159,
  0x000035_002044_000036_00215A, 0x000031_002044_000038_00215B, 0x000033_002044_000038_00215C,
  0x000035_002044_000038_00215D, 0x000037_002044_000038_00215E, 0x000031_002044_00215F,
  0x000049_002160, 0x000049_000049_002161, 0x000049_000049_000049_002162, 0x000049_000056_002163,
  0x000056_002164, 0x000056_000049_002165, 0x000056_000049_000049_002166,
  0x000056_000049_000049_000049_002167, 0x000049_000058_002168, 0x000058_002169,
  0x000058_000049_00216A, 0x000058_000049_000049_00216B, 0x00004C_00216C, 0x000043_00216D,
  0x000044_00216E, 0x00004D_00216F, 0x000069_002170, 0x000069_000069_002171,
  0x000069_000069_000069_002172, 0x000069_000076_002173, 0x000076_002174, 0x000076_000069_002175,
  0x000076_000069_000069_002176, 0x000076_000069_000069_000069_002177, 0x000069_000078_002178,
  0x000078_002179, 0x000078_000069_00217A, 0x000078_000069_000069_00217B, 0x00006C_00217C,
  0x000063_00217D, 0x000064_00217E, 0x00006D_00217F, 0x000030_002044_000033_002189,
  0x002190_000338_00219A, 0x002192_000338_00219B, 0x002194_000338_0021AE, 0x0021D0_000338_0021CD,
  0x0021D4_000338_0021CE, 0x0021D2_000338_0021CF, 0x002203_000338_002204, 0x002208_000338_002209,
  0x00220B_000338_00220C, 0x002223_000338_002224, 0x002225_000338_002226, 0x00222B_00222B_00222C,
  0x00222B_00222B_00222B_00222D, 0x00222E_00222E_00222F, 0x00222E_00222E_00222E_002230,
  0x00223C_000338_002241, 0x002243_000338_002244, 0x002245_000338_002247, 0x002248_000338_002249,
  0x00003D_000338_002260, 0x002261_000338_002262, 0x00224D_000338_00226D, 0x00003C_000338_00226E,
  0x00003E_000338_00226F, 0x002264_000338_002270, 0x002265_000338_002271, 0x002272_000338_002274,
  0x002273_000338_002275, 0x002276_000338_002278, 0x002277_000338_002279, 0x00227A_000338_002280,
  0x00227B_000338_002281, 0x002282_000338_002284, 0x002283_000338_002285, 0x002286_000338_002288,
  0x002287_000338_002289, 0x0022A2_000338_0022AC, 0x0022A8_000338_0022AD, 0x0022A9_000338_0022AE,
  0x0022AB_000338_0022AF, 0x00227C_000338_0022E0, 0x00227D_000338_0022E1, 0x002291_000338_0022E2,
  0x002292_000338_0022E3, 0x0022B2_000338_0022EA, 0x0022B3_000338_0022EB, 0x0022B4_000338_0022EC,
  0x0022B5_000338_0022ED, 0x003008_002329, 0x003009_00232A, 0x000031_002460, 0x000032_002461,
  0x000033_002462, 0x000034_002463, 0x000035_002464, 0x000036_002465, 0x000037_002466,
  0x000038_002467, 0x000039_002468, 0x000031_000030_002469, 0x000031_000031_00246A,
  0x000031_000032_00246B, 0x000031_000033_00246C, 0x000031_000034_00246D, 0x000031_000035_00246E,
  0x000031_000036_00246F, 0x000031_000037_002470, 0x000031_000038_002471, 0x000031_000039_002472,
  0x000032_000030_002473, 0x000028_000031_000029_002474, 0x000028_000032_000029_002475,
  0x000028_000033_000029_002476, 0x000028_000034_000029_002477, 0x000028_000035_000029_002478,
  0x000028_000036_000029_002479, 0x000028_000037_000029_00247A, 0x000028_000038_000029_00247B,
  0x000028_000039_000029_00247C, 0x000028_000031_000030_000029_00247D,
  0x000028_000031_000031_000029_00247E, 0x000028_000031_000032_000029_00247F,
  0x000028_000031_000033_000029_002480, 0x000028_000031_000034_000029_002481,
  0x000028_000031_000035_000029_002482, 0x000028_000031_000036_000029_002483,
  0x000028_000031_000037_000029_002484, 0x000028_000031_000038_000029_002485,
  0x000028_000031_000039_000029_002486, 0x000028_000032_000030_000029_002487,
  0x000031_00002E_002488, 0x000032_00002E_002489, 0x000033_00002E_00248A, 0x000034_00002E_00248B,
  0x000035_00002E_00248C, 0x000036_00002E_00248D, 0x000037_00002E_00248E, 0x000038_00002E_00248F,
  0x000039_00002E_002490, 0x000031_000030_00002E_002491, 0x000031_000031_00002E_002492,
  0x000031_000032_00002E_002493, 0x000031_000033_00002E_002494, 0x000031_000034_00002E_002495,
  0x000031_000035_00002E_002496, 0x000031_000036_00002E_002497, 0x000031_000037_00002E_002498,
  0x000031_000038_00002E_002499, 0x000031_000039_00002E_00249A, 0x000032_000030_00002E_00249B,
  0x000028_000061_000029_00249C, 0x000028_000062_000029_00249D, 0x000028_000063_000029_00249E,
  0x000028_000064_000029_00249F, 0x000028_000065_000029_0024A0, 0x000028_000066_000029_0024A1,
  0x000028_000067_000029_0024A2, 0x000028_000068_000029_0024A3, 0x000028_000069_000029_0024A4,
  0x000028_00006A_000029_0024A5, 0x000028_00006B_000029_0024A6, 0x000028_00006C_000029_0024A7,
  0x000028_00006D_000029_0024A8, 0x000028_00006E_000029_0024A9, 0x000028_00006F_000029_0024AA,
  0x000028_000070_000029_0024AB, 0x000028_000071_000029_0024AC, 0x000028_000072_000029_0024AD,
  0x000028_000073_000029_0024AE, 0x000028_000074_000029_0024AF, 0x000028_000075_000029_0024B0,
  0x000028_000076_000029_0024B1, 0x000028_000077_000029_0024B2, 0x000028_000078_000029_0024B3,
  0x000028_000079_000029_0024B4, 0x000028_00007A_000029_0024B5, 0x000041_0024B6, 0x000042_0024B7,
  0x000043_0024B8, 0x000044_0024B9, 0x000045_0024BA, 0x000046_0024BB, 0x000047_0024BC,
  0x000048_0024BD, 0x000049_0024BE, 0x00004A_0024BF, 0x00004B_0024C0, 0x00004C_0024C1,
  0x00004D_0024C2, 0x00004E_0024C3, 0x00004F_0024C4, 0x000050_0024C5, 0x000051_0024C6,
  0x000052_0024C7, 0x000053_0024C8, 0x000054_0024C9, 0x000055_0024CA, 0x000056_0024CB,
  0x000057_0024CC, 0x000058_0024CD, 0x000059_0024CE, 0x00005A_0024CF, 0x000061_0024D0,
  0x000062_0024D1, 0x000063_0024D2, 0x000064_0024D3, 0x000065_0024D4, 0x000066_0024D5,
  0x000067_0024D6, 0x000068_0024D7, 0x000069_0024D8, 0x00006A_0024D9, 0x00006B_0024DA,
  0x00006C_0024DB, 0x00006D_0024DC, 0x00006E_0024DD, 0x00006F_0024DE, 0x000070_0024DF,
  0x000071_0024E0, 0x000072_0024E1, 0x000073_0024E2, 0x000074_0024E3, 0x000075_0024E4,
  0x000076_0024E5, 0x000077_0024E6, 0x000078_0024E7, 0x000079_0024E8, 0x00007A_0024E9,
  0x000030_0024EA, 0x00222B_00222B_00222B_00222B_002A0C, 0x00003A_00003A_00003D_002A74,
  0x00003D_00003D_002A75, 0x00003D_00003D_00003D_002A76, 0x002ADD_000338_002ADC, 0x00006A_002C7C,
  0x000056_002C7D, 0x002D61_002D6F]

set_option maxRecDepth 40000 in
/-- Supplementary planes but for the letters of mathematics. -/
def supplement : List Nat := [
  0x0105D2_000307_0105C9, 0x0105DA_000307_0105E4, 0x0002D0_010781, 0x0002D1_010782,
  0x0000E6_010783, 0x000299_010784, 0x000253_010785, 0x0002A3_010787, 0x00AB66_010788,
  0x0002A5_010789, 0x0002A4_01078A, 0x000256_01078B, 0x000257_01078C, 0x001D91_01078D,
  0x000258_01078E, 0x00025E_01078F, 0x0002A9_010790, 0x000264_010791, 0x000262_010792,
  0x000260_010793, 0x00029B_010794, 0x000127_010795, 0x00029C_010796, 0x000267_010797,
  0x000284_010798, 0x0002AA_010799, 0x0002AB_01079A, 0x00026C_01079B, 0x01DF04_01079C,
  0x00A78E_01079D, 0x00026E_01079E, 0x01DF05_01079F, 0x00028E_0107A0, 0x01DF06_0107A1,
  0x0000F8_0107A2, 0x000276_0107A3, 0x000277_0107A4, 0x000071_0107A5, 0x00027A_0107A6,
  0x01DF08_0107A7, 0x00027D_0107A8, 0x00027E_0107A9, 0x000280_0107AA, 0x0002A8_0107AB,
  0x0002A6_0107AC, 0x00AB67_0107AD, 0x0002A7_0107AE, 0x000288_0107AF, 0x002C71_0107B0,
  0x00028F_0107B2, 0x0002A1_0107B3, 0x0002A2_0107B4, 0x000298_0107B5, 0x0001C0_0107B6,
  0x0001C1_0107B7, 0x0001C2_0107B8, 0x01DF0A_0107B9, 0x01DF1E_0107BA, 0x011099_0110BA_01109A,
  0x01109B_0110BA_01109C, 0x0110A5_0110BA_0110AB, 0x011131_011127_01112E, 0x011132_011127_01112F,
  0x011347_01133E_01134B, 0x011347_011357_01134C, 0x011382_0113C9_011383, 0x011384_0113BB_011385,
  0x01138B_0113C2_01138E, 0x011390_0113C9_011391, 0x0113C2_0113C2_0113C5, 0x0113C2_0113B8_0113C7,
  0x0113C2_0113C9_0113C8, 0x0114B9_0114BA_0114BB, 0x0114B9_0114B0_0114BC, 0x0114B9_0114BD_0114BE,
  0x0115B8_0115AF_0115BA, 0x0115B9_0115AF_0115BB, 0x011935_011930_011938, 0x01611E_01611E_016121,
  0x01611E_016129_016122, 0x01611E_01611F_016123, 0x016129_01611F_016124, 0x01611E_016120_016125,
  0x01611E_01611E_01611F_016126, 0x01611E_016129_01611F_016127, 0x01611E_01611E_016120_016128,
  0x016D67_016D67_016D68, 0x016D63_016D67_016D69, 0x016D63_016D67_016D67_016D6A, 0x000041_01CCD6,
  0x000042_01CCD7, 0x000043_01CCD8, 0x000044_01CCD9, 0x000045_01CCDA, 0x000046_01CCDB,
  0x000047_01CCDC, 0x000048_01CCDD, 0x000049_01CCDE, 0x00004A_01CCDF, 0x00004B_01CCE0,
  0x00004C_01CCE1, 0x00004D_01CCE2, 0x00004E_01CCE3, 0x00004F_01CCE4, 0x000050_01CCE5,
  0x000051_01CCE6, 0x000052_01CCE7, 0x000053_01CCE8, 0x000054_01CCE9, 0x000055_01CCEA,
  0x000056_01CCEB, 0x000057_01CCEC, 0x000058_01CCED, 0x000059_01CCEE, 0x00005A_01CCEF,
  0x000030_01CCF0, 0x000031_01CCF1, 0x000032_01CCF2, 0x000033_01CCF3, 0x000034_01CCF4,
  0x000035_01CCF5, 0x000036_01CCF6, 0x000037_01CCF7, 0x000038_01CCF8, 0x000039_01CCF9,
  0x01D157_01D165_01D15E, 0x01D158_01D165_01D15F, 0x01D158_01D165_01D16E_01D160,
  0x01D158_01D165_01D16F_01D161, 0x01D158_01D165_01D170_01D162, 0x01D158_01D165_01D171_01D163,
  0x01D158_01D165_01D172_01D164, 0x01D1B9_01D165_01D1BB, 0x01D1BA_01D165_01D1BC,
  0x01D1B9_01D165_01D16E_01D1BD, 0x01D1BA_01D165_01D16E_01D1BE, 0x01D1B9_01D165_01D16F_01D1BF,
  0x01D1BA_01D165_01D16F_01D1C0]

set_option maxRecDepth 40000 in
/-- Letters and digits of mathematics. -/
def mathematics : List Nat := [
  0x000041_01D400, 0x000042_01D401, 0x000043_01D402, 0x000044_01D403, 0x000045_01D404,
  0x000046_01D405, 0x000047_01D406, 0x000048_01D407, 0x000049_01D408, 0x00004A_01D409,
  0x00004B_01D40A, 0x00004C_01D40B, 0x00004D_01D40C, 0x00004E_01D40D, 0x00004F_01D40E,
  0x000050_01D40F, 0x000051_01D410, 0x000052_01D411, 0x000053_01D412, 0x000054_01D413,
  0x000055_01D414, 0x000056_01D415, 0x000057_01D416, 0x000058_01D417, 0x000059_01D418,
  0x00005A_01D419, 0x000061_01D41A, 0x000062_01D41B, 0x000063_01D41C, 0x000064_01D41D,
  0x000065_01D41E, 0x000066_01D41F, 0x000067_01D420, 0x000068_01D421, 0x000069_01D422,
  0x00006A_01D423, 0x00006B_01D424, 0x00006C_01D425, 0x00006D_01D426, 0x00006E_01D427,
  0x00006F_01D428, 0x000070_01D429, 0x000071_01D42A, 0x000072_01D42B, 0x000073_01D42C,
  0x000074_01D42D, 0x000075_01D42E, 0x000076_01D42F, 0x000077_01D430, 0x000078_01D431,
  0x000079_01D432, 0x00007A_01D433, 0x000041_01D434, 0x000042_01D435, 0x000043_01D436,
  0x000044_01D437, 0x000045_01D438, 0x000046_01D439, 0x000047_01D43A, 0x000048_01D43B,
  0x000049_01D43C, 0x00004A_01D43D, 0x00004B_01D43E, 0x00004C_01D43F, 0x00004D_01D440,
  0x00004E_01D441, 0x00004F_01D442, 0x000050_01D443, 0x000051_01D444, 0x000052_01D445,
  0x000053_01D446, 0x000054_01D447, 0x000055_01D448, 0x000056_01D449, 0x000057_01D44A,
  0x000058_01D44B, 0x000059_01D44C, 0x00005A_01D44D, 0x000061_01D44E, 0x000062_01D44F,
  0x000063_01D450, 0x000064_01D451, 0x000065_01D452, 0x000066_01D453, 0x000067_01D454,
  0x000069_01D456, 0x00006A_01D457, 0x00006B_01D458, 0x00006C_01D459, 0x00006D_01D45A,
  0x00006E_01D45B, 0x00006F_01D45C, 0x000070_01D45D, 0x000071_01D45E, 0x000072_01D45F,
  0x000073_01D460, 0x000074_01D461, 0x000075_01D462, 0x000076_01D463, 0x000077_01D464,
  0x000078_01D465, 0x000079_01D466, 0x00007A_01D467, 0x000041_01D468, 0x000042_01D469,
  0x000043_01D46A, 0x000044_01D46B, 0x000045_01D46C, 0x000046_01D46D, 0x000047_01D46E,
  0x000048_01D46F, 0x000049_01D470, 0x00004A_01D471, 0x00004B_01D472, 0x00004C_01D473,
  0x00004D_01D474, 0x00004E_01D475, 0x00004F_01D476, 0x000050_01D477, 0x000051_01D478,
  0x000052_01D479, 0x000053_01D47A, 0x000054_01D47B, 0x000055_01D47C, 0x000056_01D47D,
  0x000057_01D47E, 0x000058_01D47F, 0x000059_01D480, 0x00005A_01D481, 0x000061_01D482,
  0x000062_01D483, 0x000063_01D484, 0x000064_01D485, 0x000065_01D486, 0x000066_01D487,
  0x000067_01D488, 0x000068_01D489, 0x000069_01D48A, 0x00006A_01D48B, 0x00006B_01D48C,
  0x00006C_01D48D, 0x00006D_01D48E, 0x00006E_01D48F, 0x00006F_01D490, 0x000070_01D491,
  0x000071_01D492, 0x000072_01D493, 0x000073_01D494, 0x000074_01D495, 0x000075_01D496,
  0x000076_01D497, 0x000077_01D498, 0x000078_01D499, 0x000079_01D49A, 0x00007A_01D49B,
  0x000041_01D49C, 0x000043_01D49E, 0x000044_01D49F, 0x000047_01D4A2, 0x00004A_01D4A5,
  0x00004B_01D4A6, 0x00004E_01D4A9, 0x00004F_01D4AA, 0x000050_01D4AB, 0x000051_01D4AC,
  0x000053_01D4AE, 0x000054_01D4AF, 0x000055_01D4B0, 0x000056_01D4B1, 0x000057_01D4B2,
  0x000058_01D4B3, 0x000059_01D4B4, 0x00005A_01D4B5, 0x000061_01D4B6, 0x000062_01D4B7,
  0x000063_01D4B8, 0x000064_01D4B9, 0x000066_01D4BB, 0x000068_01D4BD, 0x000069_01D4BE,
  0x00006A_01D4BF, 0x00006B_01D4C0, 0x00006C_01D4C1, 0x00006D_01D4C2, 0x00006E_01D4C3,
  0x000070_01D4C5, 0x000071_01D4C6, 0x000072_01D4C7, 0x000073_01D4C8, 0x000074_01D4C9,
  0x000075_01D4CA, 0x000076_01D4CB, 0x000077_01D4CC, 0x000078_01D4CD, 0x000079_01D4CE,
  0x00007A_01D4CF, 0x000041_01D4D0, 0x000042_01D4D1, 0x000043_01D4D2, 0x000044_01D4D3,
  0x000045_01D4D4, 0x000046_01D4D5, 0x000047_01D4D6, 0x000048_01D4D7, 0x000049_01D4D8,
  0x00004A_01D4D9, 0x00004B_01D4DA, 0x00004C_01D4DB, 0x00004D_01D4DC, 0x00004E_01D4DD,
  0x00004F_01D4DE, 0x000050_01D4DF, 0x000051_01D4E0, 0x000052_01D4E1, 0x000053_01D4E2,
  0x000054_01D4E3, 0x000055_01D4E4, 0x000056_01D4E5, 0x000057_01D4E6, 0x000058_01D4E7,
  0x000059_01D4E8, 0x00005A_01D4E9, 0x000061_01D4EA, 0x000062_01D4EB, 0x000063_01D4EC,
  0x000064_01D4ED, 0x000065_01D4EE, 0x000066_01D4EF, 0x000067_01D4F0, 0x000068_01D4F1,
  0x000069_01D4F2, 0x00006A_01D4F3, 0x00006B_01D4F4, 0x00006C_01D4F5, 0x00006D_01D4F6,
  0x00006E_01D4F7, 0x00006F_01D4F8, 0x000070_01D4F9, 0x000071_01D4FA, 0x000072_01D4FB,
  0x000073_01D4FC, 0x000074_01D4FD, 0x000075_01D4FE, 0x000076_01D4FF, 0x000077_01D500,
  0x000078_01D501, 0x000079_01D502, 0x00007A_01D503, 0x000041_01D504, 0x000042_01D505,
  0x000044_01D507, 0x000045_01D508, 0x000046_01D509, 0x000047_01D50A, 0x00004A_01D50D,
  0x00004B_01D50E, 0x00004C_01D50F, 0x00004D_01D510, 0x00004E_01D511, 0x00004F_01D512,
  0x000050_01D513, 0x000051_01D514, 0x000053_01D516, 0x000054_01D517, 0x000055_01D518,
  0x000056_01D519, 0x000057_01D51A, 0x000058_01D51B, 0x000059_01D51C, 0x000061_01D51E,
  0x000062_01D51F, 0x000063_01D520, 0x000064_01D521, 0x000065_01D522, 0x000066_01D523,
  0x000067_01D524, 0x000068_01D525, 0x000069_01D526, 0x00006A_01D527, 0x00006B_01D528,
  0x00006C_01D529, 0x00006D_01D52A, 0x00006E_01D52B, 0x00006F_01D52C, 0x000070_01D52D,
  0x000071_01D52E, 0x000072_01D52F, 0x000073_01D530, 0x000074_01D531, 0x000075_01D532,
  0x000076_01D533, 0x000077_01D534, 0x000078_01D535, 0x000079_01D536, 0x00007A_01D537,
  0x000041_01D538, 0x000042_01D539, 0x000044_01D53B, 0x000045_01D53C, 0x000046_01D53D,
  0x000047_01D53E, 0x000049_01D540, 0x00004A_01D541, 0x00004B_01D542, 0x00004C_01D543,
  0x00004D_01D544, 0x00004F_01D546, 0x000053_01D54A, 0x000054_01D54B, 0x000055_01D54C,
  0x000056_01D54D, 0x000057_01D54E, 0x000058_01D54F, 0x000059_01D550, 0x000061_01D552,
  0x000062_01D553, 0x000063_01D554, 0x000064_01D555, 0x000065_01D556, 0x000066_01D557,
  0x000067_01D558, 0x000068_01D559, 0x000069_01D55A, 0x00006A_01D55B, 0x00006B_01D55C,
  0x00006C_01D55D, 0x00006D_01D55E, 0x00006E_01D55F, 0x00006F_01D560, 0x000070_01D561,
  0x000071_01D562, 0x000072_01D563, 0x000073_01D564, 0x000074_01D565, 0x000075_01D566,
  0x000076_01D567, 0x000077_01D568, 0x000078_01D569, 0x000079_01D56A, 0x00007A_01D56B,
  0x000041_01D56C, 0x000042_01D56D, 0x000043_01D56E, 0x000044_01D56F, 0x000045_01D570,
  0x000046_01D571, 0x000047_01D572, 0x000048_01D573, 0x000049_01D574, 0x00004A_01D575,
  0x00004B_01D576, 0x00004C_01D577, 0x00004D_01D578, 0x00004E_01D579, 0x00004F_01D57A,
  0x000050_01D57B, 0x000051_01D57C, 0x000052_01D57D, 0x000053_01D57E, 0x000054_01D57F,
  0x000055_01D580, 0x000056_01D581, 0x000057_01D582, 0x000058_01D583, 0x000059_01D584,
  0x00005A_01D585, 0x000061_01D586, 0x000062_01D587, 0x000063_01D588, 0x000064_01D589,
  0x000065_01D58A, 0x000066_01D58B, 0x000067_01D58C, 0x000068_01D58D, 0x000069_01D58E,
  0x00006A_01D58F, 0x00006B_01D590, 0x00006C_01D591, 0x00006D_01D592, 0x00006E_01D593,
  0x00006F_01D594, 0x000070_01D595, 0x000071_01D596, 0x000072_01D597, 0x000073_01D598,
  0x000074_01D599, 0x000075_01D59A, 0x000076_01D59B, 0x000077_01D59C, 0x000078_01D59D,
  0x000079_01D59E, 0x00007A_01D59F, 0x000041_01D5A0, 0x000042_01D5A1, 0x000043_01D5A2,
  0x000044_01D5A3, 0x000045_01D5A4, 0x000046_01D5A5, 0x000047_01D5A6, 0x000048_01D5A7,
  0x000049_01D5A8, 0x00004A_01D5A9, 0x00004B_01D5AA, 0x00004C_01D5AB, 0x00004D_01D5AC,
  0x00004E_01D5AD, 0x00004F_01D5AE, 0x000050_01D5AF, 0x000051_01D5B0, 0x000052_01D5B1,
  0x000053_01D5B2, 0x000054_01D5B3, 0x000055_01D5B4, 0x000056_01D5B5, 0x000057_01D5B6,
  0x000058_01D5B7, 0x000059_01D5B8, 0x00005A_01D5B9, 0x000061_01D5BA, 0x000062_01D5BB,
  0x000063_01D5BC, 0x000064_01D5BD, 0x000065_01D5BE, 0x000066_01D5BF, 0x000067_01D5C0,
  0x000068_01D5C1, 0x000069_01D5C2, 0x00006A_01D5C3, 0x00006B_01D5C4, 0x00006C_01D5C5,
  0x00006D_01D5C6, 0x00006E_01D5C7, 0x00006F_01D5C8, 0x000070_01D5C9, 0x000071_01D5CA,
  0x000072_01D5CB, 0x000073_01D5CC, 0x000074_01D5CD, 0x000075_01D5CE, 0x000076_01D5CF,
  0x000077_01D5D0, 0x000078_01D5D1, 0x000079_01D5D2, 0x00007A_01D5D3, 0x000041_01D5D4,
  0x000042_01D5D5, 0x000043_01D5D6, 0x000044_01D5D7, 0x000045_01D5D8, 0x000046_01D5D9,
  0x000047_01D5DA, 0x000048_01D5DB, 0x000049_01D5DC, 0x00004A_01D5DD, 0x00004B_01D5DE,
  0x00004C_01D5DF, 0x00004D_01D5E0, 0x00004E_01D5E1, 0x00004F_01D5E2, 0x000050_01D5E3,
  0x000051_01D5E4, 0x000052_01D5E5, 0x000053_01D5E6, 0x000054_01D5E7, 0x000055_01D5E8,
  0x000056_01D5E9, 0x000057_01D5EA, 0x000058_01D5EB, 0x000059_01D5EC, 0x00005A_01D5ED,
  0x000061_01D5EE, 0x000062_01D5EF, 0x000063_01D5F0, 0x000064_01D5F1, 0x000065_01D5F2,
  0x000066_01D5F3, 0x000067_01D5F4, 0x000068_01D5F5, 0x000069_01D5F6, 0x00006A_01D5F7,
  0x00006B_01D5F8, 0x00006C_01D5F9, 0x00006D_01D5FA, 0x00006E_01D5FB, 0x00006F_01D5FC,
  0x000070_01D5FD, 0x000071_01D5FE, 0x000072_01D5FF, 0x000073_01D600, 0x000074_01D601,
  0x000075_01D602, 0x000076_01D603, 0x000077_01D604, 0x000078_01D605, 0x000079_01D606,
  0x00007A_01D607, 0x000041_01D608, 0x000042_01D609, 0x000043_01D60A, 0x000044_01D60B,
  0x000045_01D60C, 0x000046_01D60D, 0x000047_01D60E, 0x000048_01D60F, 0x000049_01D610,
  0x00004A_01D611, 0x00004B_01D612, 0x00004C_01D613, 0x00004D_01D614, 0x00004E_01D615,
  0x00004F_01D616, 0x000050_01D617, 0x000051_01D618, 0x000052_01D619, 0x000053_01D61A,
  0x000054_01D61B, 0x000055_01D61C, 0x000056_01D61D, 0x000057_01D61E, 0x000058_01D61F,
  0x000059_01D620, 0x00005A_01D621, 0x000061_01D622, 0x000062_01D623, 0x000063_01D624,
  0x000064_01D625, 0x000065_01D626, 0x000066_01D627, 0x000067_01D628, 0x000068_01D629,
  0x000069_01D62A, 0x00006A_01D62B, 0x00006B_01D62C, 0x00006C_01D62D, 0x00006D_01D62E,
  0x00006E_01D62F, 0x00006F_01D630, 0x000070_01D631, 0x000071_01D632, 0x000072_01D633,
  0x000073_01D634, 0x000074_01D635, 0x000075_01D636, 0x000076_01D637, 0x000077_01D638,
  0x000078_01D639, 0x000079_01D63A, 0x00007A_01D63B, 0x000041_01D63C, 0x000042_01D63D,
  0x000043_01D63E, 0x000044_01D63F, 0x000045_01D640, 0x000046_01D641, 0x000047_01D642,
  0x000048_01D643, 0x000049_01D644, 0x00004A_01D645, 0x00004B_01D646, 0x00004C_01D647,
  0x00004D_01D648, 0x00004E_01D649, 0x00004F_01D64A, 0x000050_01D64B, 0x000051_01D64C,
  0x000052_01D64D, 0x000053_01D64E, 0x000054_01D64F, 0x000055_01D650, 0x000056_01D651,
  0x000057_01D652, 0x000058_01D653, 0x000059_01D654, 0x00005A_01D655, 0x000061_01D656,
  0x000062_01D657, 0x000063_01D658, 0x000064_01D659, 0x000065_01D65A, 0x000066_01D65B,
  0x000067_01D65C, 0x000068_01D65D, 0x000069_01D65E, 0x00006A_01D65F, 0x00006B_01D660,
  0x00006C_01D661, 0x00006D_01D662, 0x00006E_01D663, 0x00006F_01D664, 0x000070_01D665,
  0x000071_01D666, 0x000072_01D667, 0x000073_01D668, 0x000074_01D669, 0x000075_01D66A,
  0x000076_01D66B, 0x000077_01D66C, 0x000078_01D66D, 0x000079_01D66E, 0x00007A_01D66F,
  0x000041_01D670, 0x000042_01D671, 0x000043_01D672, 0x000044_01D673, 0x000045_01D674,
  0x000046_01D675, 0x000047_01D676, 0x000048_01D677, 0x000049_01D678, 0x00004A_01D679,
  0x00004B_01D67A, 0x00004C_01D67B, 0x00004D_01D67C, 0x00004E_01D67D, 0x00004F_01D67E,
  0x000050_01D67F, 0x000051_01D680, 0x000052_01D681, 0x000053_01D682, 0x000054_01D683,
  0x000055_01D684, 0x000056_01D685, 0x000057_01D686, 0x000058_01D687, 0x000059_01D688,
  0x00005A_01D689, 0x000061_01D68A, 0x000062_01D68B, 0x000063_01D68C, 0x000064_01D68D,
  0x000065_01D68E, 0x000066_01D68F, 0x000067_01D690, 0x000068_01D691, 0x000069_01D692,
  0x00006A_01D693, 0x00006B_01D694, 0x00006C_01D695, 0x00006D_01D696, 0x00006E_01D697,
  0x00006F_01D698, 0x000070_01D699, 0x000071_01D69A, 0x000072_01D69B, 0x000073_01D69C,
  0x000074_01D69D, 0x000075_01D69E, 0x000076_01D69F, 0x000077_01D6A0, 0x000078_01D6A1,
  0x000079_01D6A2, 0x00007A_01D6A3, 0x000131_01D6A4, 0x000237_01D6A5, 0x000391_01D6A8,
  0x000392_01D6A9, 0x000393_01D6AA, 0x000394_01D6AB, 0x000395_01D6AC, 0x000396_01D6AD,
  0x000397_01D6AE, 0x000398_01D6AF, 0x000399_01D6B0, 0x00039A_01D6B1, 0x00039B_01D6B2,
  0x00039C_01D6B3, 0x00039D_01D6B4, 0x00039E_01D6B5, 0x00039F_01D6B6, 0x0003A0_01D6B7,
  0x0003A1_01D6B8, 0x000398_01D6B9, 0x0003A3_01D6BA, 0x0003A4_01D6BB, 0x0003A5_01D6BC,
  0x0003A6_01D6BD, 0x0003A7_01D6BE, 0x0003A8_01D6BF, 0x0003A9_01D6C0, 0x002207_01D6C1,
  0x0003B1_01D6C2, 0x0003B2_01D6C3, 0x0003B3_01D6C4, 0x0003B4_01D6C5, 0x0003B5_01D6C6,
  0x0003B6_01D6C7, 0x0003B7_01D6C8, 0x0003B8_01D6C9, 0x0003B9_01D6CA, 0x0003BA_01D6CB,
  0x0003BB_01D6CC, 0x0003BC_01D6CD, 0x0003BD_01D6CE, 0x0003BE_01D6CF, 0x0003BF_01D6D0,
  0x0003C0_01D6D1, 0x0003C1_01D6D2, 0x0003C2_01D6D3, 0x0003C3_01D6D4, 0x0003C4_01D6D5,
  0x0003C5_01D6D6, 0x0003C6_01D6D7, 0x0003C7_01D6D8, 0x0003C8_01D6D9, 0x0003C9_01D6DA,
  0x002202_01D6DB, 0x0003B5_01D6DC, 0x0003B8_01D6DD, 0x0003BA_01D6DE, 0x0003C6_01D6DF,
  0x0003C1_01D6E0, 0x0003C0_01D6E1, 0x000391_01D6E2, 0x000392_01D6E3, 0x000393_01D6E4,
  0x000394_01D6E5, 0x000395_01D6E6, 0x000396_01D6E7, 0x000397_01D6E8, 0x000398_01D6E9,
  0x000399_01D6EA, 0x00039A_01D6EB, 0x00039B_01D6EC, 0x00039C_01D6ED, 0x00039D_01D6EE,
  0x00039E_01D6EF, 0x00039F_01D6F0, 0x0003A0_01D6F1, 0x0003A1_01D6F2, 0x000398_01D6F3,
  0x0003A3_01D6F4, 0x0003A4_01D6F5, 0x0003A5_01D6F6, 0x0003A6_01D6F7, 0x0003A7_01D6F8,
  0x0003A8_01D6F9, 0x0003A9_01D6FA, 0x002207_01D6FB, 0x0003B1_01D6FC, 0x0003B2_01D6FD,
  0x0003B3_01D6FE, 0x0003B4_01D6FF, 0x0003B5_01D700, 0x0003B6_01D701, 0x0003B7_01D702,
  0x0003B8_01D703, 0x0003B9_01D704, 0x0003BA_01D705, 0x0003BB_01D706, 0x0003BC_01D707,
  0x0003BD_01D708, 0x0003BE_01D709, 0x0003BF_01D70A, 0x0003C0_01D70B, 0x0003C1_01D70C,
  0x0003C2_01D70D, 0x0003C3_01D70E, 0x0003C4_01D70F, 0x0003C5_01D710, 0x0003C6_01D711,
  0x0003C7_01D712, 0x0003C8_01D713, 0x0003C9_01D714, 0x002202_01D715, 0x0003B5_01D716,
  0x0003B8_01D717, 0x0003BA_01D718, 0x0003C6_01D719, 0x0003C1_01D71A, 0x0003C0_01D71B,
  0x000391_01D71C, 0x000392_01D71D, 0x000393_01D71E, 0x000394_01D71F, 0x000395_01D720,
  0x000396_01D721, 0x000397_01D722, 0x000398_01D723, 0x000399_01D724, 0x00039A_01D725,
  0x00039B_01D726, 0x00039C_01D727, 0x00039D_01D728, 0x00039E_01D729, 0x00039F_01D72A,
  0x0003A0_01D72B, 0x0003A1_01D72C, 0x000398_01D72D, 0x0003A3_01D72E, 0x0003A4_01D72F,
  0x0003A5_01D730, 0x0003A6_01D731, 0x0003A7_01D732, 0x0003A8_01D733, 0x0003A9_01D734,
  0x002207_01D735, 0x0003B1_01D736, 0x0003B2_01D737, 0x0003B3_01D738, 0x0003B4_01D739,
  0x0003B5_01D73A, 0x0003B6_01D73B, 0x0003B7_01D73C, 0x0003B8_01D73D, 0x0003B9_01D73E,
  0x0003BA_01D73F, 0x0003BB_01D740, 0x0003BC_01D741, 0x0003BD_01D742, 0x0003BE_01D743,
  0x0003BF_01D744, 0x0003C0_01D745, 0x0003C1_01D746, 0x0003C2_01D747, 0x0003C3_01D748,
  0x0003C4_01D749, 0x0003C5_01D74A, 0x0003C6_01D74B, 0x0003C7_01D74C, 0x0003C8_01D74D,
  0x0003C9_01D74E, 0x002202_01D74F, 0x0003B5_01D750, 0x0003B8_01D751, 0x0003BA_01D752,
  0x0003C6_01D753, 0x0003C1_01D754, 0x0003C0_01D755, 0x000391_01D756, 0x000392_01D757,
  0x000393_01D758, 0x000394_01D759, 0x000395_01D75A, 0x000396_01D75B, 0x000397_01D75C,
  0x000398_01D75D, 0x000399_01D75E, 0x00039A_01D75F, 0x00039B_01D760, 0x00039C_01D761,
  0x00039D_01D762, 0x00039E_01D763, 0x00039F_01D764, 0x0003A0_01D765, 0x0003A1_01D766,
  0x000398_01D767, 0x0003A3_01D768, 0x0003A4_01D769, 0x0003A5_01D76A, 0x0003A6_01D76B,
  0x0003A7_01D76C, 0x0003A8_01D76D, 0x0003A9_01D76E, 0x002207_01D76F, 0x0003B1_01D770,
  0x0003B2_01D771, 0x0003B3_01D772, 0x0003B4_01D773, 0x0003B5_01D774, 0x0003B6_01D775,
  0x0003B7_01D776, 0x0003B8_01D777, 0x0003B9_01D778, 0x0003BA_01D779, 0x0003BB_01D77A,
  0x0003BC_01D77B, 0x0003BD_01D77C, 0x0003BE_01D77D, 0x0003BF_01D77E, 0x0003C0_01D77F,
  0x0003C1_01D780, 0x0003C2_01D781, 0x0003C3_01D782, 0x0003C4_01D783, 0x0003C5_01D784,
  0x0003C6_01D785, 0x0003C7_01D786, 0x0003C8_01D787, 0x0003C9_01D788, 0x002202_01D789,
  0x0003B5_01D78A, 0x0003B8_01D78B, 0x0003BA_01D78C, 0x0003C6_01D78D, 0x0003C1_01D78E,
  0x0003C0_01D78F, 0x000391_01D790, 0x000392_01D791, 0x000393_01D792, 0x000394_01D793,
  0x000395_01D794, 0x000396_01D795, 0x000397_01D796, 0x000398_01D797, 0x000399_01D798,
  0x00039A_01D799, 0x00039B_01D79A, 0x00039C_01D79B, 0x00039D_01D79C, 0x00039E_01D79D,
  0x00039F_01D79E, 0x0003A0_01D79F, 0x0003A1_01D7A0, 0x000398_01D7A1, 0x0003A3_01D7A2,
  0x0003A4_01D7A3, 0x0003A5_01D7A4, 0x0003A6_01D7A5, 0x0003A7_01D7A6, 0x0003A8_01D7A7,
  0x0003A9_01D7A8, 0x002207_01D7A9, 0x0003B1_01D7AA, 0x0003B2_01D7AB, 0x0003B3_01D7AC,
  0x0003B4_01D7AD, 0x0003B5_01D7AE, 0x0003B6_01D7AF, 0x0003B7_01D7B0, 0x0003B8_01D7B1,
  0x0003B9_01D7B2, 0x0003BA_01D7B3, 0x0003BB_01D7B4, 0x0003BC_01D7B5, 0x0003BD_01D7B6,
  0x0003BE_01D7B7, 0x0003BF_01D7B8, 0x0003C0_01D7B9, 0x0003C1_01D7BA, 0x0003C2_01D7BB,
  0x0003C3_01D7BC, 0x0003C4_01D7BD, 0x0003C5_01D7BE, 0x0003C6_01D7BF, 0x0003C7_01D7C0,
  0x0003C8_01D7C1, 0x0003C9_01D7C2, 0x002202_01D7C3, 0x0003B5_01D7C4, 0x0003B8_01D7C5,
  0x0003BA_01D7C6, 0x0003C6_01D7C7, 0x0003C1_01D7C8, 0x0003C0_01D7C9, 0x0003DC_01D7CA,
  0x0003DD_01D7CB, 0x000030_01D7CE, 0x000031_01D7CF, 0x000032_01D7D0, 0x000033_01D7D1,
  0x000034_01D7D2, 0x000035_01D7D3, 0x000036_01D7D4, 0x000037_01D7D5, 0x000038_01D7D6,
  0x000039_01D7D7, 0x000030_01D7D8, 0x000031_01D7D9, 0x000032_01D7DA, 0x000033_01D7DB,
  0x000034_01D7DC, 0x000035_01D7DD, 0x000036_01D7DE, 0x000037_01D7DF, 0x000038_01D7E0,
  0x000039_01D7E1, 0x000030_01D7E2, 0x000031_01D7E3, 0x000032_01D7E4, 0x000033_01D7E5,
  0x000034_01D7E6, 0x000035_01D7E7, 0x000036_01D7E8, 0x000037_01D7E9, 0x000038_01D7EA,
  0x000039_01D7EB, 0x000030_01D7EC, 0x000031_01D7ED, 0x000032_01D7EE, 0x000033_01D7EF,
  0x000034_01D7F0, 0x000035_01D7F1, 0x000036_01D7F2, 0x000037_01D7F3, 0x000038_01D7F4,
  0x000039_01D7F5, 0x000030_01D7F6, 0x000031_01D7F7, 0x000032_01D7F8, 0x000033_01D7F9,
  0x000034_01D7FA, 0x000035_01D7FB, 0x000036_01D7FC, 0x000037_01D7FD, 0x000038_01D7FE,
  0x000039_01D7FF]

set_option maxRecDepth 40000 in
/-- Letters and words in frames, and later ideographs. -/
def emblems : List Nat := [
  0x000430_01E030, 0x000431_01E031, 0x000432_01E032, 0x000433_01E033, 0x000434_01E034,
  0x000435_01E035, 0x000436_01E036, 0x000437_01E037, 0x000438_01E038, 0x00043A_01E039,
  0x00043B_01E03A, 0x00043C_01E03B, 0x00043E_01E03C, 0x00043F_01E03D, 0x000440_01E03E,
  0x000441_01E03F, 0x000442_01E040, 0x000443_01E041, 0x000444_01E042, 0x000445_01E043,
  0x000446_01E044, 0x000447_01E045, 0x000448_01E046, 0x00044B_01E047, 0x00044D_01E048,
  0x00044E_01E049, 0x00A689_01E04A, 0x0004D9_01E04B, 0x000456_01E04C, 0x000458_01E04D,
  0x0004E9_01E04E, 0x0004AF_01E04F, 0x0004CF_01E050, 0x000430_01E051, 0x000431_01E052,
  0x000432_01E053, 0x000433_01E054, 0x000434_01E055, 0x000435_01E056, 0x000436_01E057,
  0x000437_01E058, 0x000438_01E059, 0x00043A_01E05A, 0x00043B_01E05B, 0x00043E_01E05C,
  0x00043F_01E05D, 0x000441_01E05E, 0x000443_01E05F, 0x000444_01E060, 0x000445_01E061,
  0x000446_01E062, 0x000447_01E063, 0x000448_01E064, 0x00044A_01E065, 0x00044B_01E066,
  0x000491_01E067, 0x000456_01E068, 0x000455_01E069, 0x00045F_01E06A, 0x0004AB_01E06B,
  0x00A651_01E06C, 0x0004B1_01E06D, 0x000627_01EE00, 0x000628_01EE01, 0x00062C_01EE02,
  0x00062F_01EE03, 0x000648_01EE05, 0x000632_01EE06, 0x00062D_01EE07, 0x000637_01EE08,
  0x00064A_01EE09, 0x000643_01EE0A, 0x000644_01EE0B, 0x000645_01EE0C, 0x000646_01EE0D,
  0x000633_01EE0E, 0x000639_01EE0F, 0x000641_01EE10, 0x000635_01EE11, 0x000642_01EE12,
  0x000631_01EE13, 0x000634_01EE14, 0x00062A_01EE15, 0x00062B_01EE16, 0x00062E_01EE17,
  0x000630_01EE18, 0x000636_01EE19, 0x000638_01EE1A, 0x00063A_01EE1B, 0x00066E_01EE1C,
  0x0006BA_01EE1D, 0x0006A1_01EE1E, 0x00066F_01EE1F, 0x000628_01EE21, 0x00062C_01EE22,
  0x000647_01EE24, 0x00062D_01EE27, 0x00064A_01EE29, 0x000643_01EE2A, 0x000644_01EE2B,
  0x000645_01EE2C, 0x000646_01EE2D, 0x000633_01EE2E, 0x000639_01EE2F, 0x000641_01EE30,
  0x000635_01EE31, 0x000642_01EE32, 0x000634_01EE34, 0x00062A_01EE35, 0x00062B_01EE36,
  0x00062E_01EE37, 0x000636_01EE39, 0x00063A_01EE3B, 0x00062C_01EE42, 0x00062D_01EE47,
  0x00064A_01EE49, 0x000644_01EE4B, 0x000646_01EE4D, 0x000633_01EE4E, 0x000639_01EE4F,
  0x000635_01EE51, 0x000642_01EE52, 0x000634_01EE54, 0x00062E_01EE57, 0x000636_01EE59,
  0x00063A_01EE5B, 0x0006BA_01EE5D, 0x00066F_01EE5F, 0x000628_01EE61, 0x00062C_01EE62,
  0x000647_01EE64, 0x00062D_01EE67, 0x000637_01EE68, 0x00064A_01EE69, 0x000643_01EE6A,
  0x000645_01EE6C, 0x000646_01EE6D, 0x000633_01EE6E, 0x000639_01EE6F, 0x000641_01EE70,
  0x000635_01EE71, 0x000642_01EE72, 0x000634_01EE74, 0x00062A_01EE75, 0x00062B_01EE76,
  0x00062E_01EE77, 0x000636_01EE79, 0x000638_01EE7A, 0x00063A_01EE7B, 0x00066E_01EE7C,
  0x0006A1_01EE7E, 0x000627_01EE80, 0x000628_01EE81, 0x00062C_01EE82, 0x00062F_01EE83,
  0x000647_01EE84, 0x000648_01EE85, 0x000632_01EE86, 0x00062D_01EE87, 0x000637_01EE88,
  0x00064A_01EE89, 0x000644_01EE8B, 0x000645_01EE8C, 0x000646_01EE8D, 0x000633_01EE8E,
  0x000639_01EE8F, 0x000641_01EE90, 0x000635_01EE91, 0x000642_01EE92, 0x000631_01EE93,
  0x000634_01EE94, 0x00062A_01EE95, 0x00062B_01EE96, 0x00062E_01EE97, 0x000630_01EE98,
  0x000636_01EE99, 0x000638_01EE9A, 0x00063A_01EE9B, 0x000628_01EEA1, 0x00062C_01EEA2,
  0x00062F_01EEA3, 0x000648_01EEA5, 0x000632_01EEA6, 0x00062D_01EEA7, 0x000637_01EEA8,
  0x00064A_01EEA9, 0x000644_01EEAB, 0x000645_01EEAC, 0x000646_01EEAD, 0x000633_01EEAE,
  0x000639_01EEAF, 0x000641_01EEB0, 0x000635_01EEB1, 0x000642_01EEB2, 0x000631_01EEB3,
  0x000634_01EEB4, 0x00062A_01EEB5, 0x00062B_01EEB6, 0x00062E_01EEB7, 0x000630_01EEB8,
  0x000636_01EEB9, 0x000638_01EEBA, 0x00063A_01EEBB, 0x000030_00002E_01F100,
  0x000030_00002C_01F101, 0x000031_00002C_01F102, 0x000032_00002C_01F103, 0x000033_00002C_01F104,
  0x000034_00002C_01F105, 0x000035_00002C_01F106, 0x000036_00002C_01F107, 0x000037_00002C_01F108,
  0x000038_00002C_01F109, 0x000039_00002C_01F10A, 0x000028_000041_000029_01F110,
  0x000028_000042_000029_01F111, 0x000028_000043_000029_01F112, 0x000028_000044_000029_01F113,
  0x000028_000045_000029_01F114, 0x000028_000046_000029_01F115, 0x000028_000047_000029_01F116,
  0x000028_000048_000029_01F117, 0x000028_000049_000029_01F118, 0x000028_00004A_000029_01F119,
  0x000028_00004B_000029_01F11A, 0x000028_00004C_000029_01F11B, 0x000028_00004D_000029_01F11C,
  0x000028_00004E_000029_01F11D, 0x000028_00004F_000029_01F11E, 0x000028_000050_000029_01F11F,
  0x000028_000051_000029_01F120, 0x000028_000052_000029_01F121, 0x000028_000053_000029_01F122,
  0x000028_000054_000029_01F123, 0x000028_000055_000029_01F124, 0x000028_000056_000029_01F125,
  0x000028_000057_000029_01F126, 0x000028_000058_000029_01F127, 0x000028_000059_000029_01F128,
  0x000028_00005A_000029_01F129, 0x003014_000053_003015_01F12A, 0x000043_01F12B, 0x000052_01F12C,
  0x000043_000044_01F12D, 0x000057_00005A_01F12E, 0x000041_01F130, 0x000042_01F131,
  0x000043_01F132, 0x000044_01F133, 0x000045_01F134, 0x000046_01F135, 0x000047_01F136,
  0x000048_01F137, 0x000049_01F138, 0x00004A_01F139, 0x00004B_01F13A, 0x00004C_01F13B,
  0x00004D_01F13C, 0x00004E_01F13D, 0x00004F_01F13E, 0x000050_01F13F, 0x000051_01F140,
  0x000052_01F141, 0x000053_01F142, 0x000054_01F143, 0x000055_01F144, 0x000056_01F145,
  0x000057_01F146, 0x000058_01F147, 0x000059_01F148, 0x00005A_01F149, 0x000048_000056_01F14A,
  0x00004D_000056_01F14B, 0x000053_000044_01F14C, 0x000053_000053_01F14D,
  0x000050_000050_000056_01F14E, 0x000057_000043_01F14F, 0x00004D_000043_01F16A,
  0x00004D_000044_01F16B, 0x00004D_000052_01F16C, 0x000044_00004A_01F190, 0x00307B_00304B_01F200,
  0x0030B3_0030B3_01F201, 0x0030B5_01F202, 0x00624B_01F210, 0x005B57_01F211, 0x0053CC_01F212,
  0x0030C6_003099_01F213, 0x004E8C_01F214, 0x00591A_01F215, 0x0089E3_01F216, 0x005929_01F217,
  0x004EA4_01F218, 0x006620_01F219, 0x007121_01F21A, 0x006599_01F21B, 0x00524D_01F21C,
  0x005F8C_01F21D, 0x00518D_01F21E, 0x0065B0_01F21F, 0x00521D_01F220, 0x007D42_01F221,
  0x00751F_01F222, 0x008CA9_01F223, 0x0058F0_01F224, 0x005439_01F225, 0x006F14_01F226,
  0x006295_01F227, 0x006355_01F228, 0x004E00_01F229, 0x004E09_01F22A, 0x00904A_01F22B,
  0x005DE6_01F22C, 0x004E2D_01F22D, 0x0053F3_01F22E, 0x006307_01F22F, 0x008D70_01F230,
  0x006253_01F231, 0x007981_01F232, 0x007A7A_01F233, 0x005408_01F234, 0x006E80_01F235,
  0x006709_01F236, 0x006708_01F237, 0x007533_01F238, 0x005272_01F239, 0x0055B6_01F23A,
  0x00914D_01F23B, 0x003014_00672C_003015_01F240, 0x003014_004E09_003015_01F241,
  0x003014_004E8C_003015_01F242, 0x003014_005B89_003015_01F243, 0x003014_0070B9_003015_01F244,
  0x003014_006253_003015_01F245, 0x003014_0076D7_003015_01F246, 0x003014_0052DD_003015_01F247,
  0x003014_006557_003015_01F248, 0x005F97_01F250, 0x0053EF_01F251, 0x000030_01FBF0,
  0x000031_01FBF1, 0x000032_01FBF2, 0x000033_01FBF3, 0x000034_01FBF4, 0x000035_01FBF5,
  0x000036_01FBF6, 0x000037_01FBF7, 0x000038_01FBF8, 0x000039_01FBF9, 0x004E3D_02F800,
  0x004E38_02F801, 0x004E41_02F802, 0x020122_02F803, 0x004F60_02F804, 0x004FAE_02F805,
  0x004FBB_02F806, 0x005002_02F807, 0x00507A_02F808, 0x005099_02F809, 0x0050E7_02F80A,
  0x0050CF_02F80B, 0x00349E_02F80C, 0x02063A_02F80D, 0x00514D_02F80E, 0x005154_02F80F,
  0x005164_02F810, 0x005177_02F811, 0x02051C_02F812, 0x0034B9_02F813, 0x005167_02F814,
  0x00518D_02F815, 0x02054B_02F816, 0x005197_02F817, 0x0051A4_02F818, 0x004ECC_02F819,
  0x0051AC_02F81A, 0x0051B5_02F81B, 0x0291DF_02F81C, 0x0051F5_02F81D, 0x005203_02F81E,
  0x0034DF_02F81F, 0x00523B_02F820, 0x005246_02F821, 0x005272_02F822, 0x005277_02F823,
  0x003515_02F824, 0x0052C7_02F825, 0x0052C9_02F826, 0x0052E4_02F827, 0x0052FA_02F828,
  0x005305_02F829, 0x005306_02F82A, 0x005317_02F82B, 0x005349_02F82C, 0x005351_02F82D,
  0x00535A_02F82E, 0x005373_02F82F, 0x00537D_02F830, 0x00537F_02F831, 0x00537F_02F832,
  0x00537F_02F833, 0x020A2C_02F834, 0x007070_02F835, 0x0053CA_02F836, 0x0053DF_02F837,
  0x020B63_02F838, 0x0053EB_02F839, 0x0053F1_02F83A, 0x005406_02F83B, 0x00549E_02F83C,
  0x005438_02F83D, 0x005448_02F83E, 0x005468_02F83F, 0x0054A2_02F840, 0x0054F6_02F841,
  0x005510_02F842, 0x005553_02F843, 0x005563_02F844, 0x005584_02F845, 0x005584_02F846,
  0x005599_02F847, 0x0055AB_02F848, 0x0055B3_02F849, 0x0055C2_02F84A, 0x005716_02F84B,
  0x005606_02F84C, 0x005717_02F84D, 0x005651_02F84E, 0x005674_02F84F, 0x005207_02F850,
  0x0058EE_02F851, 0x0057CE_02F852, 0x0057F4_02F853, 0x00580D_02F854, 0x00578B_02F855,
  0x005832_02F856, 0x005831_02F857, 0x0058AC_02F858, 0x0214E4_02F859, 0x0058F2_02F85A,
  0x0058F7_02F85B, 0x005906_02F85C, 0x00591A_02F85D, 0x005922_02F85E, 0x005962_02F85F,
  0x0216A8_02F860, 0x0216EA_02F861, 0x0059EC_02F862, 0x005A1B_02F863, 0x005A27_02F864,
  0x0059D8_02F865, 0x005A66_02F866, 0x0036EE_02F867, 0x0036FC_02F868, 0x005B08_02F869,
  0x005B3E_02F86A, 0x005B3E_02F86B, 0x0219C8_02F86C, 0x005BC3_02F86D, 0x005BD8_02F86E,
  0x005BE7_02F86F, 0x005BF3_02F870, 0x021B18_02F871, 0x005BFF_02F872, 0x005C06_02F873,
  0x005F53_02F874, 0x005C22_02F875, 0x003781_02F876, 0x005C60_02F877, 0x005C6E_02F878,
  0x005CC0_02F879, 0x005C8D_02F87A, 0x021DE4_02F87B, 0x005D43_02F87C, 0x021DE6_02F87D,
  0x005D6E_02F87E, 0x005D6B_02F87F, 0x005D7C_02F880, 0x005DE1_02F881, 0x005DE2_02F882,
  0x00382F_02F883, 0x005DFD_02F884, 0x005E28_02F885, 0x005E3D_02F886, 0x005E69_02F887,
  0x003862_02F888, 0x022183_02F889, 0x00387C_02F88A, 0x005EB0_02F88B, 0x005EB3_02F88C,
  0x005EB6_02F88D, 0x005ECA_02F88E, 0x02A392_02F88F, 0x005EFE_02F890, 0x022331_02F891,
  0x022331_02F892, 0x008201_02F893, 0x005F22_02F894, 0x005F22_02F895, 0x0038C7_02F896,
  0x0232B8_02F897, 0x0261DA_02F898, 0x005F62_02F899, 0x005F6B_02F89A, 0x0038E3_02F89B,
  0x005F9A_02F89C, 0x005FCD_02F89D, 0x005FD7_02F89E, 0x005FF9_02F89F, 0x006081_02F8A0,
  0x00393A_02F8A1, 0x00391C_02F8A2, 0x006094_02F8A3, 0x0226D4_02F8A4, 0x0060C7_02F8A5,
  0x006148_02F8A6, 0x00614C_02F8A7, 0x00614E_02F8A8, 0x00614C_02F8A9, 0x00617A_02F8AA,
  0x00618E_02F8AB, 0x0061B2_02F8AC, 0x0061A4_02F8AD, 0x0061AF_02F8AE, 0x0061DE_02F8AF,
  0x0061F2_02F8B0, 0x0061F6_02F8B1, 0x006210_02F8B2, 0x00621B_02F8B3, 0x00625D_02F8B4,
  0x0062B1_02F8B5, 0x0062D4_02F8B6, 0x006350_02F8B7, 0x022B0C_02F8B8, 0x00633D_02F8B9,
  0x0062FC_02F8BA, 0x006368_02F8BB, 0x006383_02F8BC, 0x0063E4_02F8BD, 0x022BF1_02F8BE,
  0x006422_02F8BF, 0x0063C5_02F8C0, 0x0063A9_02F8C1, 0x003A2E_02F8C2, 0x006469_02F8C3,
  0x00647E_02F8C4, 0x00649D_02F8C5, 0x006477_02F8C6, 0x003A6C_02F8C7, 0x00654F_02F8C8,
  0x00656C_02F8C9, 0x02300A_02F8CA, 0x0065E3_02F8CB, 0x0066F8_02F8CC, 0x006649_02F8CD,
  0x003B19_02F8CE, 0x006691_02F8CF, 0x003B08_02F8D0, 0x003AE4_02F8D1, 0x005192_02F8D2,
  0x005195_02F8D3, 0x006700_02F8D4, 0x00669C_02F8D5, 0x0080AD_02F8D6, 0x0043D9_02F8D7,
  0x006717_02F8D8, 0x00671B_02F8D9, 0x006721_02F8DA, 0x00675E_02F8DB, 0x006753_02F8DC,
  0x0233C3_02F8DD, 0x003B49_02F8DE, 0x0067FA_02F8DF, 0x006785_02F8E0, 0x006852_02F8E1,
  0x006885_02F8E2, 0x02346D_02F8E3, 0x00688E_02F8E4, 0x00681F_02F8E5, 0x006914_02F8E6,
  0x003B9D_02F8E7, 0x006942_02F8E8, 0x0069A3_02F8E9, 0x0069EA_02F8EA, 0x006AA8_02F8EB,
  0x0236A3_02F8EC, 0x006ADB_02F8ED, 0x003C18_02F8EE, 0x006B21_02F8EF, 0x0238A7_02F8F0,
  0x006B54_02F8F1, 0x003C4E_02F8F2, 0x006B72_02F8F3, 0x006B9F_02F8F4, 0x006BBA_02F8F5,
  0x006BBB_02F8F6, 0x023A8D_02F8F7, 0x021D0B_02F8F8, 0x023AFA_02F8F9, 0x006C4E_02F8FA,
  0x023CBC_02F8FB, 0x006CBF_02F8FC, 0x006CCD_02F8FD, 0x006C67_02F8FE, 0x006D16_02F8FF,
  0x006D3E_02F900, 0x006D77_02F901, 0x006D41_02F902, 0x006D69_02F903, 0x006D78_02F904,
  0x006D85_02F905, 0x023D1E_02F906, 0x006D34_02F907, 0x006E2F_02F908, 0x006E6E_02F909,
  0x003D33_02F90A, 0x006ECB_02F90B, 0x006EC7_02F90C, 0x023ED1_02F90D, 0x006DF9_02F90E,
  0x006F6E_02F90F, 0x023F5E_02F910, 0x023F8E_02F911, 0x006FC6_02F912, 0x007039_02F913,
  0x00701E_02F914, 0x00701B_02F915, 0x003D96_02F916, 0x00704A_02F917, 0x00707D_02F918,
  0x007077_02F919, 0x0070AD_02F91A, 0x020525_02F91B, 0x007145_02F91C, 0x024263_02F91D,
  0x00719C_02F91E, 0x0243AB_02F91F, 0x007228_02F920, 0x007235_02F921, 0x007250_02F922,
  0x024608_02F923, 0x007280_02F924, 0x007295_02F925, 0x024735_02F926, 0x024814_02F927,
  0x00737A_02F928, 0x00738B_02F929, 0x003EAC_02F92A, 0x0073A5_02F92B, 0x003EB8_02F92C,
  0x003EB8_02F92D, 0x007447_02F92E, 0x00745C_02F92F, 0x007471_02F930, 0x007485_02F931,
  0x0074CA_02F932, 0x003F1B_02F933, 0x007524_02F934, 0x024C36_02F935, 0x00753E_02F936,
  0x024C92_02F937, 0x007570_02F938, 0x02219F_02F939, 0x007610_02F93A, 0x024FA1_02F93B,
  0x024FB8_02F93C, 0x025044_02F93D, 0x003FFC_02F93E, 0x004008_02F93F, 0x0076F4_02F940,
  0x0250F3_02F941, 0x0250F2_02F942, 0x025119_02F943, 0x025133_02F944, 0x00771E_02F945,
  0x00771F_02F946, 0x00771F_02F947, 0x00774A_02F948, 0x004039_02F949, 0x00778B_02F94A,
  0x004046_02F94B, 0x004096_02F94C, 0x02541D_02F94D, 0x00784E_02F94E, 0x00788C_02F94F,
  0x0078CC_02F950, 0x0040E3_02F951, 0x025626_02F952, 0x007956_02F953, 0x02569A_02F954,
  0x0256C5_02F955, 0x00798F_02F956, 0x0079EB_02F957, 0x00412F_02F958, 0x007A40_02F959,
  0x007A4A_02F95A, 0x007A4F_02F95B, 0x02597C_02F95C, 0x025AA7_02F95D, 0x025AA7_02F95E,
  0x007AEE_02F95F, 0x004202_02F960, 0x025BAB_02F961, 0x007BC6_02F962, 0x007BC9_02F963,
  0x004227_02F964, 0x025C80_02F965, 0x007CD2_02F966, 0x0042A0_02F967, 0x007CE8_02F968,
  0x007CE3_02F969, 0x007D00_02F96A, 0x025F86_02F96B, 0x007D63_02F96C, 0x004301_02F96D,
  0x007DC7_02F96E, 0x007E02_02F96F, 0x007E45_02F970, 0x004334_02F971, 0x026228_02F972,
  0x026247_02F973, 0x004359_02F974, 0x0262D9_02F975, 0x007F7A_02F976, 0x02633E_02F977,
  0x007F95_02F978, 0x007FFA_02F979, 0x008005_02F97A, 0x0264DA_02F97B, 0x026523_02F97C,
  0x008060_02F97D, 0x0265A8_02F97E, 0x008070_02F97F, 0x02335F_02F980, 0x0043D5_02F981,
  0x0080B2_02F982, 0x008103_02F983, 0x00440B_02F984, 0x00813E_02F985, 0x005AB5_02F986,
  0x0267A7_02F987, 0x0267B5_02F988, 0x023393_02F989, 0x02339C_02F98A, 0x008201_02F98B,
  0x008204_02F98C, 0x008F9E_02F98D, 0x00446B_02F98E, 0x008291_02F98F, 0x00828B_02F990,
  0x00829D_02F991, 0x0052B3_02F992, 0x0082B1_02F993, 0x0082B3_02F994, 0x0082BD_02F995,
  0x0082E6_02F996, 0x026B3C_02F997, 0x0082E5_02F998, 0x00831D_02F999, 0x008363_02F99A,
  0x0083AD_02F99B, 0x008323_02F99C, 0x0083BD_02F99D, 0x0083E7_02F99E, 0x008457_02F99F,
  0x008353_02F9A0, 0x0083CA_02F9A1, 0x0083CC_02F9A2, 0x0083DC_02F9A3, 0x026C36_02F9A4,
  0x026D6B_02F9A5, 0x026CD5_02F9A6, 0x00452B_02F9A7, 0x0084F1_02F9A8, 0x0084F3_02F9A9,
  0x008516_02F9AA, 0x0273CA_02F9AB, 0x008564_02F9AC, 0x026F2C_02F9AD, 0x00455D_02F9AE,
  0x004561_02F9AF, 0x026FB1_02F9B0, 0x0270D2_02F9B1, 0x00456B_02F9B2, 0x008650_02F9B3,
  0x00865C_02F9B4, 0x008667_02F9B5, 0x008669_02F9B6, 0x0086A9_02F9B7, 0x008688_02F9B8,
  0x00870E_02F9B9, 0x0086E2_02F9BA, 0x008779_02F9BB, 0x008728_02F9BC, 0x00876B_02F9BD,
  0x008786_02F9BE, 0x0045D7_02F9BF, 0x0087E1_02F9C0, 0x008801_02F9C1, 0x0045F9_02F9C2,
  0x008860_02F9C3, 0x008863_02F9C4, 0x027667_02F9C5, 0x0088D7_02F9C6, 0x0088DE_02F9C7,
  0x004635_02F9C8, 0x0088FA_02F9C9, 0x0034BB_02F9CA, 0x0278AE_02F9CB, 0x027966_02F9CC,
  0x0046BE_02F9CD, 0x0046C7_02F9CE, 0x008AA0_02F9CF, 0x008AED_02F9D0, 0x008B8A_02F9D1,
  0x008C55_02F9D2, 0x027CA8_02F9D3, 0x008CAB_02F9D4, 0x008CC1_02F9D5, 0x008D1B_02F9D6,
  0x008D77_02F9D7, 0x027F2F_02F9D8, 0x020804_02F9D9, 0x008DCB_02F9DA, 0x008DBC_02F9DB,
  0x008DF0_02F9DC, 0x0208DE_02F9DD, 0x008ED4_02F9DE, 0x008F38_02F9DF, 0x0285D2_02F9E0,
  0x0285ED_02F9E1, 0x009094_02F9E2, 0x0090F1_02F9E3, 0x009111_02F9E4, 0x02872E_02F9E5,
  0x00911B_02F9E6, 0x009238_02F9E7, 0x0092D7_02F9E8, 0x0092D8_02F9E9, 0x00927C_02F9EA,
  0x0093F9_02F9EB, 0x009415_02F9EC, 0x028BFA_02F9ED, 0x00958B_02F9EE, 0x004995_02F9EF,
  0x0095B7_02F9F0, 0x028D77_02F9F1, 0x0049E6_02F9F2, 0x0096C3_02F9F3, 0x005DB2_02F9F4,
  0x009723_02F9F5, 0x029145_02F9F6, 0x02921A_02F9F7, 0x004A6E_02F9F8, 0x004A76_02F9F9,
  0x0097E0_02F9FA, 0x02940A_02F9FB, 0x004AB2_02F9FC, 0x029496_02F9FD, 0x00980B_02F9FE,
  0x00980B_02F9FF, 0x009829_02FA00, 0x0295B6_02FA01, 0x0098E2_02FA02, 0x004B33_02FA03,
  0x009929_02FA04, 0x0099A7_02FA05, 0x0099C2_02FA06, 0x0099FE_02FA07, 0x004BCE_02FA08,
  0x029B30_02FA09, 0x009B12_02FA0A, 0x009C40_02FA0B, 0x009CFD_02FA0C, 0x004CCE_02FA0D,
  0x004CED_02FA0E, 0x009D67_02FA0F, 0x02A0CE_02FA10, 0x004CF8_02FA11, 0x02A105_02FA12,
  0x02A20E_02FA13, 0x02A291_02FA14, 0x009EBB_02FA15, 0x004D56_02FA16, 0x009EF9_02FA17,
  0x009EFE_02FA18, 0x009F05_02FA19, 0x009F0F_02FA1A, 0x009F16_02FA1B, 0x009F3B_02FA1C,
  0x02A600_02FA1D]

end FileIndex.Text.Decomposition
