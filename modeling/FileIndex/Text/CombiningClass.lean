/-
Canonical combining classes: how marks that stand on one letter are ordered.
-/
import FileIndex.Text.Rows

namespace FileIndex.Text

set_option maxRecDepth 20000 in
/-- Each row holds the first and the last character of a run of marks and their combining class;
every character outside the rows has class 0. -/
def markRuns : Array Nat := #[
  0x0000E6_000314_000300, 0x0000E8_000315_000315, 0x0000DC_000319_000316,
  0x0000E8_00031A_00031A, 0x0000D8_00031B_00031B, 0x0000DC_000320_00031C,
  0x0000CA_000322_000321, 0x0000DC_000326_000323, 0x0000CA_000328_000327,
  0x0000DC_000333_000329, 0x000001_000338_000334, 0x0000DC_00033C_000339,
  0x0000E6_000344_00033D, 0x0000F0_000345_000345, 0x0000E6_000346_000346,
  0x0000DC_000349_000347, 0x0000E6_00034C_00034A, 0x0000DC_00034E_00034D,
  0x0000E6_000352_000350, 0x0000DC_000356_000353, 0x0000E6_000357_000357,
  0x0000E8_000358_000358, 0x0000DC_00035A_000359, 0x0000E6_00035B_00035B,
  0x0000E9_00035C_00035C, 0x0000EA_00035E_00035D, 0x0000E9_00035F_00035F,
  0x0000EA_000361_000360, 0x0000E9_000362_000362, 0x0000E6_00036F_000363,
  0x0000E6_000487_000483, 0x0000DC_000591_000591, 0x0000E6_000595_000592,
  0x0000DC_000596_000596, 0x0000E6_000599_000597, 0x0000DE_00059A_00059A,
  0x0000DC_00059B_00059B, 0x0000E6_0005A1_00059C, 0x0000DC_0005A7_0005A2,
  0x0000E6_0005A9_0005A8, 0x0000DC_0005AA_0005AA, 0x0000E6_0005AC_0005AB,
  0x0000DE_0005AD_0005AD, 0x0000E4_0005AE_0005AE, 0x0000E6_0005AF_0005AF,
  0x00000A_0005B0_0005B0, 0x00000B_0005B1_0005B1, 0x00000C_0005B2_0005B2,
  0x00000D_0005B3_0005B3, 0x00000E_0005B4_0005B4, 0x00000F_0005B5_0005B5,
  0x000010_0005B6_0005B6, 0x000011_0005B7_0005B7, 0x000012_0005B8_0005B8,
  0x000013_0005BA_0005B9, 0x000014_0005BB_0005BB, 0x000015_0005BC_0005BC,
  0x000016_0005BD_0005BD, 0x000017_0005BF_0005BF, 0x000018_0005C1_0005C1,
  0x000019_0005C2_0005C2, 0x0000E6_0005C4_0005C4, 0x0000DC_0005C5_0005C5,
  0x000012_0005C7_0005C7, 0x0000E6_000617_000610, 0x00001E_000618_000618,
  0x00001F_000619_000619, 0x000020_00061A_00061A, 0x00001B_00064B_00064B,
  0x00001C_00064C_00064C, 0x00001D_00064D_00064D, 0x00001E_00064E_00064E,
  0x00001F_00064F_00064F, 0x000020_000650_000650, 0x000021_000651_000651,
  0x000022_000652_000652, 0x0000E6_000654_000653, 0x0000DC_000656_000655,
  0x0000E6_00065B_000657, 0x0000DC_00065C_00065C, 0x0000E6_00065E_00065D,
  0x0000DC_00065F_00065F, 0x000023_000670_000670, 0x0000E6_0006DC_0006D6,
  0x0000E6_0006E2_0006DF, 0x0000DC_0006E3_0006E3, 0x0000E6_0006E4_0006E4,
  0x0000E6_0006E8_0006E7, 0x0000DC_0006EA_0006EA, 0x0000E6_0006EC_0006EB,
  0x0000DC_0006ED_0006ED, 0x000024_000711_000711, 0x0000E6_000730_000730,
  0x0000DC_000731_000731, 0x0000E6_000733_000732, 0x0000DC_000734_000734,
  0x0000E6_000736_000735, 0x0000DC_000739_000737, 0x0000E6_00073A_00073A,
  0x0000DC_00073C_00073B, 0x0000E6_00073D_00073D, 0x0000DC_00073E_00073E,
  0x0000E6_000741_00073F, 0x0000DC_000742_000742, 0x0000E6_000743_000743,
  0x0000DC_000744_000744, 0x0000E6_000745_000745, 0x0000DC_000746_000746,
  0x0000E6_000747_000747, 0x0000DC_000748_000748, 0x0000E6_00074A_000749,
  0x0000E6_0007F1_0007EB, 0x0000DC_0007F2_0007F2, 0x0000E6_0007F3_0007F3,
  0x0000DC_0007FD_0007FD, 0x0000E6_000819_000816, 0x0000E6_000823_00081B,
  0x0000E6_000827_000825, 0x0000E6_00082D_000829, 0x0000DC_00085B_000859,
  0x0000E6_000898_000897, 0x0000DC_00089B_000899, 0x0000E6_00089F_00089C,
  0x0000E6_0008CE_0008CA, 0x0000DC_0008D3_0008CF, 0x0000E6_0008E1_0008D4,
  0x0000DC_0008E3_0008E3, 0x0000E6_0008E5_0008E4, 0x0000DC_0008E6_0008E6,
  0x0000E6_0008E8_0008E7, 0x0000DC_0008E9_0008E9, 0x0000E6_0008EC_0008EA,
  0x0000DC_0008EF_0008ED, 0x00001B_0008F0_0008F0, 0x00001C_0008F1_0008F1,
  0x00001D_0008F2_0008F2, 0x0000E6_0008F5_0008F3, 0x0000DC_0008F6_0008F6,
  0x0000E6_0008F8_0008F7, 0x0000DC_0008FA_0008F9, 0x0000E6_0008FF_0008FB,
  0x000007_00093C_00093C, 0x000009_00094D_00094D, 0x0000E6_000951_000951,
  0x0000DC_000952_000952, 0x0000E6_000954_000953, 0x000007_0009BC_0009BC,
  0x000009_0009CD_0009CD, 0x0000E6_0009FE_0009FE, 0x000007_000A3C_000A3C,
  0x000009_000A4D_000A4D, 0x000007_000ABC_000ABC, 0x000009_000ACD_000ACD,
  0x000007_000B3C_000B3C, 0x000009_000B4D_000B4D, 0x000009_000BCD_000BCD,
  0x000007_000C3C_000C3C, 0x000009_000C4D_000C4D, 0x000054_000C55_000C55,
  0x00005B_000C56_000C56, 0x000007_000CBC_000CBC, 0x000009_000CCD_000CCD,
  0x000009_000D3C_000D3B, 0x000009_000D4D_000D4D, 0x000009_000DCA_000DCA,
  0x000067_000E39_000E38, 0x000009_000E3A_000E3A, 0x00006B_000E4B_000E48,
  0x000076_000EB9_000EB8, 0x000009_000EBA_000EBA, 0x00007A_000ECB_000EC8,
  0x0000DC_000F19_000F18, 0x0000DC_000F35_000F35, 0x0000DC_000F37_000F37,
  0x0000D8_000F39_000F39, 0x000081_000F71_000F71, 0x000082_000F72_000F72,
  0x000084_000F74_000F74, 0x000082_000F7D_000F7A, 0x000082_000F80_000F80,
  0x0000E6_000F83_000F82, 0x000009_000F84_000F84, 0x0000E6_000F87_000F86,
  0x0000DC_000FC6_000FC6, 0x000007_001037_001037, 0x000009_00103A_001039,
  0x0000DC_00108D_00108D, 0x0000E6_00135F_00135D, 0x000009_001715_001714,
  0x000009_001734_001734, 0x000009_0017D2_0017D2, 0x0000E6_0017DD_0017DD,
  0x0000E4_0018A9_0018A9, 0x0000DE_001939_001939, 0x0000E6_00193A_00193A,
  0x0000DC_00193B_00193B, 0x0000E6_001A17_001A17, 0x0000DC_001A18_001A18,
  0x000009_001A60_001A60, 0x0000E6_001A7C_001A75, 0x0000DC_001A7F_001A7F,
  0x0000E6_001AB4_001AB0, 0x0000DC_001ABA_001AB5, 0x0000E6_001ABC_001ABB,
  0x0000DC_001ABD_001ABD, 0x0000DC_001AC0_001ABF, 0x0000E6_001AC2_001AC1,
  0x0000DC_001AC4_001AC3, 0x0000E6_001AC9_001AC5, 0x0000DC_001ACA_001ACA,
  0x0000E6_001ACE_001ACB, 0x000007_001B34_001B34, 0x000009_001B44_001B44,
  0x0000E6_001B6B_001B6B, 0x0000DC_001B6C_001B6C, 0x0000E6_001B73_001B6D,
  0x000009_001BAB_001BAA, 0x000007_001BE6_001BE6, 0x000009_001BF3_001BF2,
  0x000007_001C37_001C37, 0x0000E6_001CD2_001CD0, 0x000001_001CD4_001CD4,
  0x0000DC_001CD9_001CD5, 0x0000E6_001CDB_001CDA, 0x0000DC_001CDF_001CDC,
  0x0000E6_001CE0_001CE0, 0x000001_001CE8_001CE2, 0x0000DC_001CED_001CED,
  0x0000E6_001CF4_001CF4, 0x0000E6_001CF9_001CF8, 0x0000E6_001DC1_001DC0,
  0x0000DC_001DC2_001DC2, 0x0000E6_001DC9_001DC3, 0x0000DC_001DCA_001DCA,
  0x0000E6_001DCC_001DCB, 0x0000EA_001DCD_001DCD, 0x0000D6_001DCE_001DCE,
  0x0000DC_001DCF_001DCF, 0x0000CA_001DD0_001DD0, 0x0000E6_001DF5_001DD1,
  0x0000E8_001DF6_001DF6, 0x0000E4_001DF8_001DF7, 0x0000DC_001DF9_001DF9,
  0x0000DA_001DFA_001DFA, 0x0000E6_001DFB_001DFB, 0x0000E9_001DFC_001DFC,
  0x0000DC_001DFD_001DFD, 0x0000E6_001DFE_001DFE, 0x0000DC_001DFF_001DFF,
  0x0000E6_0020D1_0020D0, 0x000001_0020D3_0020D2, 0x0000E6_0020D7_0020D4,
  0x000001_0020DA_0020D8, 0x0000E6_0020DC_0020DB, 0x0000E6_0020E1_0020E1,
  0x000001_0020E6_0020E5, 0x0000E6_0020E7_0020E7, 0x0000DC_0020E8_0020E8,
  0x0000E6_0020E9_0020E9, 0x000001_0020EB_0020EA, 0x0000DC_0020EF_0020EC,
  0x0000E6_0020F0_0020F0, 0x0000E6_002CF1_002CEF, 0x000009_002D7F_002D7F,
  0x0000E6_002DFF_002DE0, 0x0000DA_00302A_00302A, 0x0000E4_00302B_00302B,
  0x0000E8_00302C_00302C, 0x0000DE_00302D_00302D, 0x0000E0_00302F_00302E,
  0x000008_00309A_003099, 0x0000E6_00A66F_00A66F, 0x0000E6_00A67D_00A674,
  0x0000E6_00A69F_00A69E, 0x0000E6_00A6F1_00A6F0, 0x000009_00A806_00A806,
  0x000009_00A82C_00A82C, 0x000009_00A8C4_00A8C4, 0x0000E6_00A8F1_00A8E0,
  0x0000DC_00A92D_00A92B, 0x000009_00A953_00A953, 0x000007_00A9B3_00A9B3,
  0x000009_00A9C0_00A9C0, 0x0000E6_00AAB0_00AAB0, 0x0000E6_00AAB3_00AAB2,
  0x0000DC_00AAB4_00AAB4, 0x0000E6_00AAB8_00AAB7, 0x0000E6_00AABF_00AABE,
  0x0000E6_00AAC1_00AAC1, 0x000009_00AAF6_00AAF6, 0x000009_00ABED_00ABED,
  0x00001A_00FB1E_00FB1E, 0x0000E6_00FE26_00FE20, 0x0000DC_00FE2D_00FE27,
  0x0000E6_00FE2F_00FE2E, 0x0000DC_0101FD_0101FD, 0x0000DC_0102E0_0102E0,
  0x0000E6_01037A_010376, 0x0000DC_010A0D_010A0D, 0x0000E6_010A0F_010A0F,
  0x0000E6_010A38_010A38, 0x000001_010A39_010A39, 0x0000DC_010A3A_010A3A,
  0x000009_010A3F_010A3F, 0x0000E6_010AE5_010AE5, 0x0000DC_010AE6_010AE6,
  0x0000E6_010D27_010D24, 0x0000E6_010D6D_010D69, 0x0000E6_010EAC_010EAB,
  0x0000DC_010EFF_010EFD, 0x0000DC_010F47_010F46, 0x0000E6_010F4A_010F48,
  0x0000DC_010F4B_010F4B, 0x0000E6_010F4C_010F4C, 0x0000DC_010F50_010F4D,
  0x0000E6_010F82_010F82, 0x0000DC_010F83_010F83, 0x0000E6_010F84_010F84,
  0x0000DC_010F85_010F85, 0x000009_011046_011046, 0x000009_011070_011070,
  0x000009_01107F_01107F, 0x000009_0110B9_0110B9, 0x000007_0110BA_0110BA,
  0x0000E6_011102_011100, 0x000009_011134_011133, 0x000007_011173_011173,
  0x000009_0111C0_0111C0, 0x000007_0111CA_0111CA, 0x000009_011235_011235,
  0x000007_011236_011236, 0x000007_0112E9_0112E9, 0x000009_0112EA_0112EA,
  0x000007_01133C_01133B, 0x000009_01134D_01134D, 0x0000E6_01136C_011366,
  0x0000E6_011374_011370, 0x000009_0113D0_0113CE, 0x0000E6_0113E2_0113E1,
  0x000009_011442_011442, 0x000007_011446_011446, 0x0000E6_01145E_01145E,
  0x000009_0114C2_0114C2, 0x000007_0114C3_0114C3, 0x000009_0115BF_0115BF,
  0x000007_0115C0_0115C0, 0x000009_01163F_01163F, 0x000009_0116B6_0116B6,
  0x000007_0116B7_0116B7, 0x000009_01172B_01172B, 0x000009_011839_011839,
  0x000007_01183A_01183A, 0x000009_01193E_01193D, 0x000007_011943_011943,
  0x000009_0119E0_0119E0, 0x000009_011A34_011A34, 0x000009_011A47_011A47,
  0x000009_011A99_011A99, 0x000009_011C3F_011C3F, 0x000007_011D42_011D42,
  0x000009_011D45_011D44, 0x000009_011D97_011D97, 0x000009_011F42_011F41,
  0x000009_01612F_01612F, 0x000001_016AF4_016AF0, 0x0000E6_016B36_016B30,
  0x000006_016FF1_016FF0, 0x000001_01BC9E_01BC9E, 0x0000D8_01D166_01D165,
  0x000001_01D169_01D167, 0x0000E2_01D16D_01D16D, 0x0000D8_01D172_01D16E,
  0x0000DC_01D182_01D17B, 0x0000E6_01D189_01D185, 0x0000DC_01D18B_01D18A,
  0x0000E6_01D1AD_01D1AA, 0x0000E6_01D244_01D242, 0x0000E6_01E006_01E000,
  0x0000E6_01E018_01E008, 0x0000E6_01E021_01E01B, 0x0000E6_01E024_01E023,
  0x0000E6_01E02A_01E026, 0x0000E6_01E08F_01E08F, 0x0000E6_01E136_01E130,
  0x0000E6_01E2AE_01E2AE, 0x0000E6_01E2EF_01E2EC, 0x0000E8_01E4ED_01E4EC,
  0x0000DC_01E4EE_01E4EE, 0x0000E6_01E4EF_01E4EF, 0x0000E6_01E5EE_01E5EE,
  0x0000DC_01E5EF_01E5EF, 0x0000DC_01E8D6_01E8D0, 0x0000E6_01E949_01E944,
  0x000007_01E94A_01E94A]

/-- The canonical combining class; 0 for a character that starts a new cluster. -/
def combiningClass (c : Char) : Nat :=
  if c.toNat < 0x300 then 0
  else match lastRow? markRuns c.toNat with
    | some row => if c.toNat ≤ row / rowBase % rowBase then row / rowBase / rowBase else 0
    | none => 0

end FileIndex.Text
