/-
Full compatibility decompositions: presentation forms, and vertical, small, full width and half width forms. Each
row holds the decomposition and, as its last digit, the character it belongs to.
-/

namespace FileIndex.Text.Decomposition

set_option maxRecDepth 40000 in
/-- Presentation forms of Latin, Hebrew and Arabic letters. -/
def presentation : List Nat := [
  0x000066_000066_00FB00, 0x000066_000069_00FB01, 0x000066_00006C_00FB02,
  0x000066_000066_000069_00FB03, 0x000066_000066_00006C_00FB04, 0x000073_000074_00FB05,
  0x000073_000074_00FB06, 0x000574_000576_00FB13, 0x000574_000565_00FB14, 0x000574_00056B_00FB15,
  0x00057E_000576_00FB16, 0x000574_00056D_00FB17, 0x0005D9_0005B4_00FB1D, 0x0005F2_0005B7_00FB1F,
  0x0005E2_00FB20, 0x0005D0_00FB21, 0x0005D3_00FB22, 0x0005D4_00FB23, 0x0005DB_00FB24,
  0x0005DC_00FB25, 0x0005DD_00FB26, 0x0005E8_00FB27, 0x0005EA_00FB28, 0x00002B_00FB29,
  0x0005E9_0005C1_00FB2A, 0x0005E9_0005C2_00FB2B, 0x0005E9_0005BC_0005C1_00FB2C,
  0x0005E9_0005BC_0005C2_00FB2D, 0x0005D0_0005B7_00FB2E, 0x0005D0_0005B8_00FB2F,
  0x0005D0_0005BC_00FB30, 0x0005D1_0005BC_00FB31, 0x0005D2_0005BC_00FB32, 0x0005D3_0005BC_00FB33,
  0x0005D4_0005BC_00FB34, 0x0005D5_0005BC_00FB35, 0x0005D6_0005BC_00FB36, 0x0005D8_0005BC_00FB38,
  0x0005D9_0005BC_00FB39, 0x0005DA_0005BC_00FB3A, 0x0005DB_0005BC_00FB3B, 0x0005DC_0005BC_00FB3C,
  0x0005DE_0005BC_00FB3E, 0x0005E0_0005BC_00FB40, 0x0005E1_0005BC_00FB41, 0x0005E3_0005BC_00FB43,
  0x0005E4_0005BC_00FB44, 0x0005E6_0005BC_00FB46, 0x0005E7_0005BC_00FB47, 0x0005E8_0005BC_00FB48,
  0x0005E9_0005BC_00FB49, 0x0005EA_0005BC_00FB4A, 0x0005D5_0005B9_00FB4B, 0x0005D1_0005BF_00FB4C,
  0x0005DB_0005BF_00FB4D, 0x0005E4_0005BF_00FB4E, 0x0005D0_0005DC_00FB4F, 0x000671_00FB50,
  0x000671_00FB51, 0x00067B_00FB52, 0x00067B_00FB53, 0x00067B_00FB54, 0x00067B_00FB55,
  0x00067E_00FB56, 0x00067E_00FB57, 0x00067E_00FB58, 0x00067E_00FB59, 0x000680_00FB5A,
  0x000680_00FB5B, 0x000680_00FB5C, 0x000680_00FB5D, 0x00067A_00FB5E, 0x00067A_00FB5F,
  0x00067A_00FB60, 0x00067A_00FB61, 0x00067F_00FB62, 0x00067F_00FB63, 0x00067F_00FB64,
  0x00067F_00FB65, 0x000679_00FB66, 0x000679_00FB67, 0x000679_00FB68, 0x000679_00FB69,
  0x0006A4_00FB6A, 0x0006A4_00FB6B, 0x0006A4_00FB6C, 0x0006A4_00FB6D, 0x0006A6_00FB6E,
  0x0006A6_00FB6F, 0x0006A6_00FB70, 0x0006A6_00FB71, 0x000684_00FB72, 0x000684_00FB73,
  0x000684_00FB74, 0x000684_00FB75, 0x000683_00FB76, 0x000683_00FB77, 0x000683_00FB78,
  0x000683_00FB79, 0x000686_00FB7A, 0x000686_00FB7B, 0x000686_00FB7C, 0x000686_00FB7D,
  0x000687_00FB7E, 0x000687_00FB7F, 0x000687_00FB80, 0x000687_00FB81, 0x00068D_00FB82,
  0x00068D_00FB83, 0x00068C_00FB84, 0x00068C_00FB85, 0x00068E_00FB86, 0x00068E_00FB87,
  0x000688_00FB88, 0x000688_00FB89, 0x000698_00FB8A, 0x000698_00FB8B, 0x000691_00FB8C,
  0x000691_00FB8D, 0x0006A9_00FB8E, 0x0006A9_00FB8F, 0x0006A9_00FB90, 0x0006A9_00FB91,
  0x0006AF_00FB92, 0x0006AF_00FB93, 0x0006AF_00FB94, 0x0006AF_00FB95, 0x0006B3_00FB96,
  0x0006B3_00FB97, 0x0006B3_00FB98, 0x0006B3_00FB99, 0x0006B1_00FB9A, 0x0006B1_00FB9B,
  0x0006B1_00FB9C, 0x0006B1_00FB9D, 0x0006BA_00FB9E, 0x0006BA_00FB9F, 0x0006BB_00FBA0,
  0x0006BB_00FBA1, 0x0006BB_00FBA2, 0x0006BB_00FBA3, 0x0006D5_000654_00FBA4,
  0x0006D5_000654_00FBA5, 0x0006C1_00FBA6, 0x0006C1_00FBA7, 0x0006C1_00FBA8, 0x0006C1_00FBA9,
  0x0006BE_00FBAA, 0x0006BE_00FBAB, 0x0006BE_00FBAC, 0x0006BE_00FBAD, 0x0006D2_00FBAE,
  0x0006D2_00FBAF, 0x0006D2_000654_00FBB0, 0x0006D2_000654_00FBB1, 0x0006AD_00FBD3,
  0x0006AD_00FBD4, 0x0006AD_00FBD5, 0x0006AD_00FBD6, 0x0006C7_00FBD7, 0x0006C7_00FBD8,
  0x0006C6_00FBD9, 0x0006C6_00FBDA, 0x0006C8_00FBDB, 0x0006C8_00FBDC, 0x0006C7_000674_00FBDD,
  0x0006CB_00FBDE, 0x0006CB_00FBDF, 0x0006C5_00FBE0, 0x0006C5_00FBE1, 0x0006C9_00FBE2,
  0x0006C9_00FBE3, 0x0006D0_00FBE4, 0x0006D0_00FBE5, 0x0006D0_00FBE6, 0x0006D0_00FBE7,
  0x000649_00FBE8, 0x000649_00FBE9, 0x00064A_000654_000627_00FBEA, 0x00064A_000654_000627_00FBEB,
  0x00064A_000654_0006D5_00FBEC, 0x00064A_000654_0006D5_00FBED, 0x00064A_000654_000648_00FBEE,
  0x00064A_000654_000648_00FBEF, 0x00064A_000654_0006C7_00FBF0, 0x00064A_000654_0006C7_00FBF1,
  0x00064A_000654_0006C6_00FBF2, 0x00064A_000654_0006C6_00FBF3, 0x00064A_000654_0006C8_00FBF4,
  0x00064A_000654_0006C8_00FBF5, 0x00064A_000654_0006D0_00FBF6, 0x00064A_000654_0006D0_00FBF7,
  0x00064A_000654_0006D0_00FBF8, 0x00064A_000654_000649_00FBF9, 0x00064A_000654_000649_00FBFA,
  0x00064A_000654_000649_00FBFB, 0x0006CC_00FBFC, 0x0006CC_00FBFD, 0x0006CC_00FBFE,
  0x0006CC_00FBFF, 0x00064A_000654_00062C_00FC00, 0x00064A_000654_00062D_00FC01,
  0x00064A_000654_000645_00FC02, 0x00064A_000654_000649_00FC03, 0x00064A_000654_00064A_00FC04,
  0x000628_00062C_00FC05, 0x000628_00062D_00FC06, 0x000628_00062E_00FC07, 0x000628_000645_00FC08,
  0x000628_000649_00FC09, 0x000628_00064A_00FC0A, 0x00062A_00062C_00FC0B, 0x00062A_00062D_00FC0C,
  0x00062A_00062E_00FC0D, 0x00062A_000645_00FC0E, 0x00062A_000649_00FC0F, 0x00062A_00064A_00FC10,
  0x00062B_00062C_00FC11, 0x00062B_000645_00FC12, 0x00062B_000649_00FC13, 0x00062B_00064A_00FC14,
  0x00062C_00062D_00FC15, 0x00062C_000645_00FC16, 0x00062D_00062C_00FC17, 0x00062D_000645_00FC18,
  0x00062E_00062C_00FC19, 0x00062E_00062D_00FC1A, 0x00062E_000645_00FC1B, 0x000633_00062C_00FC1C,
  0x000633_00062D_00FC1D, 0x000633_00062E_00FC1E, 0x000633_000645_00FC1F, 0x000635_00062D_00FC20,
  0x000635_000645_00FC21, 0x000636_00062C_00FC22, 0x000636_00062D_00FC23, 0x000636_00062E_00FC24,
  0x000636_000645_00FC25, 0x000637_00062D_00FC26, 0x000637_000645_00FC27, 0x000638_000645_00FC28,
  0x000639_00062C_00FC29, 0x000639_000645_00FC2A, 0x00063A_00062C_00FC2B, 0x00063A_000645_00FC2C,
  0x000641_00062C_00FC2D, 0x000641_00062D_00FC2E, 0x000641_00062E_00FC2F, 0x000641_000645_00FC30,
  0x000641_000649_00FC31, 0x000641_00064A_00FC32, 0x000642_00062D_00FC33, 0x000642_000645_00FC34,
  0x000642_000649_00FC35, 0x000642_00064A_00FC36, 0x000643_000627_00FC37, 0x000643_00062C_00FC38,
  0x000643_00062D_00FC39, 0x000643_00062E_00FC3A, 0x000643_000644_00FC3B, 0x000643_000645_00FC3C,
  0x000643_000649_00FC3D, 0x000643_00064A_00FC3E, 0x000644_00062C_00FC3F, 0x000644_00062D_00FC40,
  0x000644_00062E_00FC41, 0x000644_000645_00FC42, 0x000644_000649_00FC43, 0x000644_00064A_00FC44,
  0x000645_00062C_00FC45, 0x000645_00062D_00FC46, 0x000645_00062E_00FC47, 0x000645_000645_00FC48,
  0x000645_000649_00FC49, 0x000645_00064A_00FC4A, 0x000646_00062C_00FC4B, 0x000646_00062D_00FC4C,
  0x000646_00062E_00FC4D, 0x000646_000645_00FC4E, 0x000646_000649_00FC4F, 0x000646_00064A_00FC50,
  0x000647_00062C_00FC51, 0x000647_000645_00FC52, 0x000647_000649_00FC53, 0x000647_00064A_00FC54,
  0x00064A_00062C_00FC55, 0x00064A_00062D_00FC56, 0x00064A_00062E_00FC57, 0x00064A_000645_00FC58,
  0x00064A_000649_00FC59, 0x00064A_00064A_00FC5A, 0x000630_000670_00FC5B, 0x000631_000670_00FC5C,
  0x000649_000670_00FC5D, 0x000020_00064C_000651_00FC5E, 0x000020_00064D_000651_00FC5F,
  0x000020_00064E_000651_00FC60, 0x000020_00064F_000651_00FC61, 0x000020_000650_000651_00FC62,
  0x000020_000651_000670_00FC63, 0x00064A_000654_000631_00FC64, 0x00064A_000654_000632_00FC65,
  0x00064A_000654_000645_00FC66, 0x00064A_000654_000646_00FC67, 0x00064A_000654_000649_00FC68,
  0x00064A_000654_00064A_00FC69, 0x000628_000631_00FC6A, 0x000628_000632_00FC6B,
  0x000628_000645_00FC6C, 0x000628_000646_00FC6D, 0x000628_000649_00FC6E, 0x000628_00064A_00FC6F,
  0x00062A_000631_00FC70, 0x00062A_000632_00FC71, 0x00062A_000645_00FC72, 0x00062A_000646_00FC73,
  0x00062A_000649_00FC74, 0x00062A_00064A_00FC75, 0x00062B_000631_00FC76, 0x00062B_000632_00FC77,
  0x00062B_000645_00FC78, 0x00062B_000646_00FC79, 0x00062B_000649_00FC7A, 0x00062B_00064A_00FC7B,
  0x000641_000649_00FC7C, 0x000641_00064A_00FC7D, 0x000642_000649_00FC7E, 0x000642_00064A_00FC7F,
  0x000643_000627_00FC80, 0x000643_000644_00FC81, 0x000643_000645_00FC82, 0x000643_000649_00FC83,
  0x000643_00064A_00FC84, 0x000644_000645_00FC85, 0x000644_000649_00FC86, 0x000644_00064A_00FC87,
  0x000645_000627_00FC88, 0x000645_000645_00FC89, 0x000646_000631_00FC8A, 0x000646_000632_00FC8B,
  0x000646_000645_00FC8C, 0x000646_000646_00FC8D, 0x000646_000649_00FC8E, 0x000646_00064A_00FC8F,
  0x000649_000670_00FC90, 0x00064A_000631_00FC91, 0x00064A_000632_00FC92, 0x00064A_000645_00FC93,
  0x00064A_000646_00FC94, 0x00064A_000649_00FC95, 0x00064A_00064A_00FC96,
  0x00064A_000654_00062C_00FC97, 0x00064A_000654_00062D_00FC98, 0x00064A_000654_00062E_00FC99,
  0x00064A_000654_000645_00FC9A, 0x00064A_000654_000647_00FC9B, 0x000628_00062C_00FC9C,
  0x000628_00062D_00FC9D, 0x000628_00062E_00FC9E, 0x000628_000645_00FC9F, 0x000628_000647_00FCA0,
  0x00062A_00062C_00FCA1, 0x00062A_00062D_00FCA2, 0x00062A_00062E_00FCA3, 0x00062A_000645_00FCA4,
  0x00062A_000647_00FCA5, 0x00062B_000645_00FCA6, 0x00062C_00062D_00FCA7, 0x00062C_000645_00FCA8,
  0x00062D_00062C_00FCA9, 0x00062D_000645_00FCAA, 0x00062E_00062C_00FCAB, 0x00062E_000645_00FCAC,
  0x000633_00062C_00FCAD, 0x000633_00062D_00FCAE, 0x000633_00062E_00FCAF, 0x000633_000645_00FCB0,
  0x000635_00062D_00FCB1, 0x000635_00062E_00FCB2, 0x000635_000645_00FCB3, 0x000636_00062C_00FCB4,
  0x000636_00062D_00FCB5, 0x000636_00062E_00FCB6, 0x000636_000645_00FCB7, 0x000637_00062D_00FCB8,
  0x000638_000645_00FCB9, 0x000639_00062C_00FCBA, 0x000639_000645_00FCBB, 0x00063A_00062C_00FCBC,
  0x00063A_000645_00FCBD, 0x000641_00062C_00FCBE, 0x000641_00062D_00FCBF, 0x000641_00062E_00FCC0,
  0x000641_000645_00FCC1, 0x000642_00062D_00FCC2, 0x000642_000645_00FCC3, 0x000643_00062C_00FCC4,
  0x000643_00062D_00FCC5, 0x000643_00062E_00FCC6, 0x000643_000644_00FCC7, 0x000643_000645_00FCC8,
  0x000644_00062C_00FCC9, 0x000644_00062D_00FCCA, 0x000644_00062E_00FCCB, 0x000644_000645_00FCCC,
  0x000644_000647_00FCCD, 0x000645_00062C_00FCCE, 0x000645_00062D_00FCCF, 0x000645_00062E_00FCD0,
  0x000645_000645_00FCD1, 0x000646_00062C_00FCD2, 0x000646_00062D_00FCD3, 0x000646_00062E_00FCD4,
  0x000646_000645_00FCD5, 0x000646_000647_00FCD6, 0x000647_00062C_00FCD7, 0x000647_000645_00FCD8,
  0x000647_000670_00FCD9, 0x00064A_00062C_00FCDA, 0x00064A_00062D_00FCDB, 0x00064A_00062E_00FCDC,
  0x00064A_000645_00FCDD, 0x00064A_000647_00FCDE, 0x00064A_000654_000645_00FCDF,
  0x00064A_000654_000647_00FCE0, 0x000628_000645_00FCE1, 0x000628_000647_00FCE2,
  0x00062A_000645_00FCE3, 0x00062A_000647_00FCE4, 0x00062B_000645_00FCE5, 0x00062B_000647_00FCE6,
  0x000633_000645_00FCE7, 0x000633_000647_00FCE8, 0x000634_000645_00FCE9, 0x000634_000647_00FCEA,
  0x000643_000644_00FCEB, 0x000643_000645_00FCEC, 0x000644_000645_00FCED, 0x000646_000645_00FCEE,
  0x000646_000647_00FCEF, 0x00064A_000645_00FCF0, 0x00064A_000647_00FCF1,
  0x000640_00064E_000651_00FCF2, 0x000640_00064F_000651_00FCF3, 0x000640_000650_000651_00FCF4,
  0x000637_000649_00FCF5, 0x000637_00064A_00FCF6, 0x000639_000649_00FCF7, 0x000639_00064A_00FCF8,
  0x00063A_000649_00FCF9, 0x00063A_00064A_00FCFA, 0x000633_000649_00FCFB, 0x000633_00064A_00FCFC,
  0x000634_000649_00FCFD, 0x000634_00064A_00FCFE, 0x00062D_000649_00FCFF, 0x00062D_00064A_00FD00,
  0x00062C_000649_00FD01, 0x00062C_00064A_00FD02, 0x00062E_000649_00FD03, 0x00062E_00064A_00FD04,
  0x000635_000649_00FD05, 0x000635_00064A_00FD06, 0x000636_000649_00FD07, 0x000636_00064A_00FD08,
  0x000634_00062C_00FD09, 0x000634_00062D_00FD0A, 0x000634_00062E_00FD0B, 0x000634_000645_00FD0C,
  0x000634_000631_00FD0D, 0x000633_000631_00FD0E, 0x000635_000631_00FD0F, 0x000636_000631_00FD10,
  0x000637_000649_00FD11, 0x000637_00064A_00FD12, 0x000639_000649_00FD13, 0x000639_00064A_00FD14,
  0x00063A_000649_00FD15, 0x00063A_00064A_00FD16, 0x000633_000649_00FD17, 0x000633_00064A_00FD18,
  0x000634_000649_00FD19, 0x000634_00064A_00FD1A, 0x00062D_000649_00FD1B, 0x00062D_00064A_00FD1C,
  0x00062C_000649_00FD1D, 0x00062C_00064A_00FD1E, 0x00062E_000649_00FD1F, 0x00062E_00064A_00FD20,
  0x000635_000649_00FD21, 0x000635_00064A_00FD22, 0x000636_000649_00FD23, 0x000636_00064A_00FD24,
  0x000634_00062C_00FD25, 0x000634_00062D_00FD26, 0x000634_00062E_00FD27, 0x000634_000645_00FD28,
  0x000634_000631_00FD29, 0x000633_000631_00FD2A, 0x000635_000631_00FD2B, 0x000636_000631_00FD2C,
  0x000634_00062C_00FD2D, 0x000634_00062D_00FD2E, 0x000634_00062E_00FD2F, 0x000634_000645_00FD30,
  0x000633_000647_00FD31, 0x000634_000647_00FD32, 0x000637_000645_00FD33, 0x000633_00062C_00FD34,
  0x000633_00062D_00FD35, 0x000633_00062E_00FD36, 0x000634_00062C_00FD37, 0x000634_00062D_00FD38,
  0x000634_00062E_00FD39, 0x000637_000645_00FD3A, 0x000638_000645_00FD3B, 0x000627_00064B_00FD3C,
  0x000627_00064B_00FD3D, 0x00062A_00062C_000645_00FD50, 0x00062A_00062D_00062C_00FD51,
  0x00062A_00062D_00062C_00FD52, 0x00062A_00062D_000645_00FD53, 0x00062A_00062E_000645_00FD54,
  0x00062A_000645_00062C_00FD55, 0x00062A_000645_00062D_00FD56, 0x00062A_000645_00062E_00FD57,
  0x00062C_000645_00062D_00FD58, 0x00062C_000645_00062D_00FD59, 0x00062D_000645_00064A_00FD5A,
  0x00062D_000645_000649_00FD5B, 0x000633_00062D_00062C_00FD5C, 0x000633_00062C_00062D_00FD5D,
  0x000633_00062C_000649_00FD5E, 0x000633_000645_00062D_00FD5F, 0x000633_000645_00062D_00FD60,
  0x000633_000645_00062C_00FD61, 0x000633_000645_000645_00FD62, 0x000633_000645_000645_00FD63,
  0x000635_00062D_00062D_00FD64, 0x000635_00062D_00062D_00FD65, 0x000635_000645_000645_00FD66,
  0x000634_00062D_000645_00FD67, 0x000634_00062D_000645_00FD68, 0x000634_00062C_00064A_00FD69,
  0x000634_000645_00062E_00FD6A, 0x000634_000645_00062E_00FD6B, 0x000634_000645_000645_00FD6C,
  0x000634_000645_000645_00FD6D, 0x000636_00062D_000649_00FD6E, 0x000636_00062E_000645_00FD6F,
  0x000636_00062E_000645_00FD70, 0x000637_000645_00062D_00FD71, 0x000637_000645_00062D_00FD72,
  0x000637_000645_000645_00FD73, 0x000637_000645_00064A_00FD74, 0x000639_00062C_000645_00FD75,
  0x000639_000645_000645_00FD76, 0x000639_000645_000645_00FD77, 0x000639_000645_000649_00FD78,
  0x00063A_000645_000645_00FD79, 0x00063A_000645_00064A_00FD7A, 0x00063A_000645_000649_00FD7B,
  0x000641_00062E_000645_00FD7C, 0x000641_00062E_000645_00FD7D, 0x000642_000645_00062D_00FD7E,
  0x000642_000645_000645_00FD7F, 0x000644_00062D_000645_00FD80, 0x000644_00062D_00064A_00FD81,
  0x000644_00062D_000649_00FD82, 0x000644_00062C_00062C_00FD83, 0x000644_00062C_00062C_00FD84,
  0x000644_00062E_000645_00FD85, 0x000644_00062E_000645_00FD86, 0x000644_000645_00062D_00FD87,
  0x000644_000645_00062D_00FD88, 0x000645_00062D_00062C_00FD89, 0x000645_00062D_000645_00FD8A,
  0x000645_00062D_00064A_00FD8B, 0x000645_00062C_00062D_00FD8C, 0x000645_00062C_000645_00FD8D,
  0x000645_00062E_00062C_00FD8E, 0x000645_00062E_000645_00FD8F, 0x000645_00062C_00062E_00FD92,
  0x000647_000645_00062C_00FD93, 0x000647_000645_000645_00FD94, 0x000646_00062D_000645_00FD95,
  0x000646_00062D_000649_00FD96, 0x000646_00062C_000645_00FD97, 0x000646_00062C_000645_00FD98,
  0x000646_00062C_000649_00FD99, 0x000646_000645_00064A_00FD9A, 0x000646_000645_000649_00FD9B,
  0x00064A_000645_000645_00FD9C, 0x00064A_000645_000645_00FD9D, 0x000628_00062E_00064A_00FD9E,
  0x00062A_00062C_00064A_00FD9F, 0x00062A_00062C_000649_00FDA0, 0x00062A_00062E_00064A_00FDA1,
  0x00062A_00062E_000649_00FDA2, 0x00062A_000645_00064A_00FDA3, 0x00062A_000645_000649_00FDA4,
  0x00062C_000645_00064A_00FDA5, 0x00062C_00062D_000649_00FDA6, 0x00062C_000645_000649_00FDA7,
  0x000633_00062E_000649_00FDA8, 0x000635_00062D_00064A_00FDA9, 0x000634_00062D_00064A_00FDAA,
  0x000636_00062D_00064A_00FDAB, 0x000644_00062C_00064A_00FDAC, 0x000644_000645_00064A_00FDAD,
  0x00064A_00062D_00064A_00FDAE, 0x00064A_00062C_00064A_00FDAF, 0x00064A_000645_00064A_00FDB0,
  0x000645_000645_00064A_00FDB1, 0x000642_000645_00064A_00FDB2, 0x000646_00062D_00064A_00FDB3,
  0x000642_000645_00062D_00FDB4, 0x000644_00062D_000645_00FDB5, 0x000639_000645_00064A_00FDB6,
  0x000643_000645_00064A_00FDB7, 0x000646_00062C_00062D_00FDB8, 0x000645_00062E_00064A_00FDB9,
  0x000644_00062C_000645_00FDBA, 0x000643_000645_000645_00FDBB, 0x000644_00062C_000645_00FDBC,
  0x000646_00062C_00062D_00FDBD, 0x00062C_00062D_00064A_00FDBE, 0x00062D_00062C_00064A_00FDBF,
  0x000645_00062C_00064A_00FDC0, 0x000641_000645_00064A_00FDC1, 0x000628_00062D_00064A_00FDC2,
  0x000643_000645_000645_00FDC3, 0x000639_00062C_000645_00FDC4, 0x000635_000645_000645_00FDC5,
  0x000633_00062E_00064A_00FDC6, 0x000646_00062C_00064A_00FDC7, 0x000635_000644_0006D2_00FDF0,
  0x000642_000644_0006D2_00FDF1, 0x000627_000644_000644_000647_00FDF2,
  0x000627_000643_000628_000631_00FDF3, 0x000645_00062D_000645_00062F_00FDF4,
  0x000635_000644_000639_000645_00FDF5, 0x000631_000633_000648_000644_00FDF6,
  0x000639_000644_00064A_000647_00FDF7, 0x000648_000633_000644_000645_00FDF8,
  0x000635_000644_000649_00FDF9,
  0x000635_000644_000649_000020_000627_000644_000644_000647_000020_000639_000644_00064A_000647_000020_000648_000633_000644_000645_00FDFA,
  0x00062C_000644_000020_00062C_000644_000627_000644_000647_00FDFB,
  0x000631_0006CC_000627_000644_00FDFC]

set_option maxRecDepth 40000 in
/-- Vertical, small, full width and half width forms. -/
def width : List Nat := [
  0x00002C_00FE10, 0x003001_00FE11, 0x003002_00FE12, 0x00003A_00FE13, 0x00003B_00FE14,
  0x000021_00FE15, 0x00003F_00FE16, 0x003016_00FE17, 0x003017_00FE18,
  0x00002E_00002E_00002E_00FE19, 0x00002E_00002E_00FE30, 0x002014_00FE31, 0x002013_00FE32,
  0x00005F_00FE33, 0x00005F_00FE34, 0x000028_00FE35, 0x000029_00FE36, 0x00007B_00FE37,
  0x00007D_00FE38, 0x003014_00FE39, 0x003015_00FE3A, 0x003010_00FE3B, 0x003011_00FE3C,
  0x00300A_00FE3D, 0x00300B_00FE3E, 0x003008_00FE3F, 0x003009_00FE40, 0x00300C_00FE41,
  0x00300D_00FE42, 0x00300E_00FE43, 0x00300F_00FE44, 0x00005B_00FE47, 0x00005D_00FE48,
  0x000020_000305_00FE49, 0x000020_000305_00FE4A, 0x000020_000305_00FE4B, 0x000020_000305_00FE4C,
  0x00005F_00FE4D, 0x00005F_00FE4E, 0x00005F_00FE4F, 0x00002C_00FE50, 0x003001_00FE51,
  0x00002E_00FE52, 0x00003B_00FE54, 0x00003A_00FE55, 0x00003F_00FE56, 0x000021_00FE57,
  0x002014_00FE58, 0x000028_00FE59, 0x000029_00FE5A, 0x00007B_00FE5B, 0x00007D_00FE5C,
  0x003014_00FE5D, 0x003015_00FE5E, 0x000023_00FE5F, 0x000026_00FE60, 0x00002A_00FE61,
  0x00002B_00FE62, 0x00002D_00FE63, 0x00003C_00FE64, 0x00003E_00FE65, 0x00003D_00FE66,
  0x00005C_00FE68, 0x000024_00FE69, 0x000025_00FE6A, 0x000040_00FE6B, 0x000020_00064B_00FE70,
  0x000640_00064B_00FE71, 0x000020_00064C_00FE72, 0x000020_00064D_00FE74, 0x000020_00064E_00FE76,
  0x000640_00064E_00FE77, 0x000020_00064F_00FE78, 0x000640_00064F_00FE79, 0x000020_000650_00FE7A,
  0x000640_000650_00FE7B, 0x000020_000651_00FE7C, 0x000640_000651_00FE7D, 0x000020_000652_00FE7E,
  0x000640_000652_00FE7F, 0x000621_00FE80, 0x000627_000653_00FE81, 0x000627_000653_00FE82,
  0x000627_000654_00FE83, 0x000627_000654_00FE84, 0x000648_000654_00FE85, 0x000648_000654_00FE86,
  0x000627_000655_00FE87, 0x000627_000655_00FE88, 0x00064A_000654_00FE89, 0x00064A_000654_00FE8A,
  0x00064A_000654_00FE8B, 0x00064A_000654_00FE8C, 0x000627_00FE8D, 0x000627_00FE8E,
  0x000628_00FE8F, 0x000628_00FE90, 0x000628_00FE91, 0x000628_00FE92, 0x000629_00FE93,
  0x000629_00FE94, 0x00062A_00FE95, 0x00062A_00FE96, 0x00062A_00FE97, 0x00062A_00FE98,
  0x00062B_00FE99, 0x00062B_00FE9A, 0x00062B_00FE9B, 0x00062B_00FE9C, 0x00062C_00FE9D,
  0x00062C_00FE9E, 0x00062C_00FE9F, 0x00062C_00FEA0, 0x00062D_00FEA1, 0x00062D_00FEA2,
  0x00062D_00FEA3, 0x00062D_00FEA4, 0x00062E_00FEA5, 0x00062E_00FEA6, 0x00062E_00FEA7,
  0x00062E_00FEA8, 0x00062F_00FEA9, 0x00062F_00FEAA, 0x000630_00FEAB, 0x000630_00FEAC,
  0x000631_00FEAD, 0x000631_00FEAE, 0x000632_00FEAF, 0x000632_00FEB0, 0x000633_00FEB1,
  0x000633_00FEB2, 0x000633_00FEB3, 0x000633_00FEB4, 0x000634_00FEB5, 0x000634_00FEB6,
  0x000634_00FEB7, 0x000634_00FEB8, 0x000635_00FEB9, 0x000635_00FEBA, 0x000635_00FEBB,
  0x000635_00FEBC, 0x000636_00FEBD, 0x000636_00FEBE, 0x000636_00FEBF, 0x000636_00FEC0,
  0x000637_00FEC1, 0x000637_00FEC2, 0x000637_00FEC3, 0x000637_00FEC4, 0x000638_00FEC5,
  0x000638_00FEC6, 0x000638_00FEC7, 0x000638_00FEC8, 0x000639_00FEC9, 0x000639_00FECA,
  0x000639_00FECB, 0x000639_00FECC, 0x00063A_00FECD, 0x00063A_00FECE, 0x00063A_00FECF,
  0x00063A_00FED0, 0x000641_00FED1, 0x000641_00FED2, 0x000641_00FED3, 0x000641_00FED4,
  0x000642_00FED5, 0x000642_00FED6, 0x000642_00FED7, 0x000642_00FED8, 0x000643_00FED9,
  0x000643_00FEDA, 0x000643_00FEDB, 0x000643_00FEDC, 0x000644_00FEDD, 0x000644_00FEDE,
  0x000644_00FEDF, 0x000644_00FEE0, 0x000645_00FEE1, 0x000645_00FEE2, 0x000645_00FEE3,
  0x000645_00FEE4, 0x000646_00FEE5, 0x000646_00FEE6, 0x000646_00FEE7, 0x000646_00FEE8,
  0x000647_00FEE9, 0x000647_00FEEA, 0x000647_00FEEB, 0x000647_00FEEC, 0x000648_00FEED,
  0x000648_00FEEE, 0x000649_00FEEF, 0x000649_00FEF0, 0x00064A_00FEF1, 0x00064A_00FEF2,
  0x00064A_00FEF3, 0x00064A_00FEF4, 0x000644_000627_000653_00FEF5, 0x000644_000627_000653_00FEF6,
  0x000644_000627_000654_00FEF7, 0x000644_000627_000654_00FEF8, 0x000644_000627_000655_00FEF9,
  0x000644_000627_000655_00FEFA, 0x000644_000627_00FEFB, 0x000644_000627_00FEFC, 0x000021_00FF01,
  0x000022_00FF02, 0x000023_00FF03, 0x000024_00FF04, 0x000025_00FF05, 0x000026_00FF06,
  0x000027_00FF07, 0x000028_00FF08, 0x000029_00FF09, 0x00002A_00FF0A, 0x00002B_00FF0B,
  0x00002C_00FF0C, 0x00002D_00FF0D, 0x00002E_00FF0E, 0x00002F_00FF0F, 0x000030_00FF10,
  0x000031_00FF11, 0x000032_00FF12, 0x000033_00FF13, 0x000034_00FF14, 0x000035_00FF15,
  0x000036_00FF16, 0x000037_00FF17, 0x000038_00FF18, 0x000039_00FF19, 0x00003A_00FF1A,
  0x00003B_00FF1B, 0x00003C_00FF1C, 0x00003D_00FF1D, 0x00003E_00FF1E, 0x00003F_00FF1F,
  0x000040_00FF20, 0x000041_00FF21, 0x000042_00FF22, 0x000043_00FF23, 0x000044_00FF24,
  0x000045_00FF25, 0x000046_00FF26, 0x000047_00FF27, 0x000048_00FF28, 0x000049_00FF29,
  0x00004A_00FF2A, 0x00004B_00FF2B, 0x00004C_00FF2C, 0x00004D_00FF2D, 0x00004E_00FF2E,
  0x00004F_00FF2F, 0x000050_00FF30, 0x000051_00FF31, 0x000052_00FF32, 0x000053_00FF33,
  0x000054_00FF34, 0x000055_00FF35, 0x000056_00FF36, 0x000057_00FF37, 0x000058_00FF38,
  0x000059_00FF39, 0x00005A_00FF3A, 0x00005B_00FF3B, 0x00005C_00FF3C, 0x00005D_00FF3D,
  0x00005E_00FF3E, 0x00005F_00FF3F, 0x000060_00FF40, 0x000061_00FF41, 0x000062_00FF42,
  0x000063_00FF43, 0x000064_00FF44, 0x000065_00FF45, 0x000066_00FF46, 0x000067_00FF47,
  0x000068_00FF48, 0x000069_00FF49, 0x00006A_00FF4A, 0x00006B_00FF4B, 0x00006C_00FF4C,
  0x00006D_00FF4D, 0x00006E_00FF4E, 0x00006F_00FF4F, 0x000070_00FF50, 0x000071_00FF51,
  0x000072_00FF52, 0x000073_00FF53, 0x000074_00FF54, 0x000075_00FF55, 0x000076_00FF56,
  0x000077_00FF57, 0x000078_00FF58, 0x000079_00FF59, 0x00007A_00FF5A, 0x00007B_00FF5B,
  0x00007C_00FF5C, 0x00007D_00FF5D, 0x00007E_00FF5E, 0x002985_00FF5F, 0x002986_00FF60,
  0x003002_00FF61, 0x00300C_00FF62, 0x00300D_00FF63, 0x003001_00FF64, 0x0030FB_00FF65,
  0x0030F2_00FF66, 0x0030A1_00FF67, 0x0030A3_00FF68, 0x0030A5_00FF69, 0x0030A7_00FF6A,
  0x0030A9_00FF6B, 0x0030E3_00FF6C, 0x0030E5_00FF6D, 0x0030E7_00FF6E, 0x0030C3_00FF6F,
  0x0030FC_00FF70, 0x0030A2_00FF71, 0x0030A4_00FF72, 0x0030A6_00FF73, 0x0030A8_00FF74,
  0x0030AA_00FF75, 0x0030AB_00FF76, 0x0030AD_00FF77, 0x0030AF_00FF78, 0x0030B1_00FF79,
  0x0030B3_00FF7A, 0x0030B5_00FF7B, 0x0030B7_00FF7C, 0x0030B9_00FF7D, 0x0030BB_00FF7E,
  0x0030BD_00FF7F, 0x0030BF_00FF80, 0x0030C1_00FF81, 0x0030C4_00FF82, 0x0030C6_00FF83,
  0x0030C8_00FF84, 0x0030CA_00FF85, 0x0030CB_00FF86, 0x0030CC_00FF87, 0x0030CD_00FF88,
  0x0030CE_00FF89, 0x0030CF_00FF8A, 0x0030D2_00FF8B, 0x0030D5_00FF8C, 0x0030D8_00FF8D,
  0x0030DB_00FF8E, 0x0030DE_00FF8F, 0x0030DF_00FF90, 0x0030E0_00FF91, 0x0030E1_00FF92,
  0x0030E2_00FF93, 0x0030E4_00FF94, 0x0030E6_00FF95, 0x0030E8_00FF96, 0x0030E9_00FF97,
  0x0030EA_00FF98, 0x0030EB_00FF99, 0x0030EC_00FF9A, 0x0030ED_00FF9B, 0x0030EF_00FF9C,
  0x0030F3_00FF9D, 0x003099_00FF9E, 0x00309A_00FF9F, 0x001160_00FFA0, 0x001100_00FFA1,
  0x001101_00FFA2, 0x0011AA_00FFA3, 0x001102_00FFA4, 0x0011AC_00FFA5, 0x0011AD_00FFA6,
  0x001103_00FFA7, 0x001104_00FFA8, 0x001105_00FFA9, 0x0011B0_00FFAA, 0x0011B1_00FFAB,
  0x0011B2_00FFAC, 0x0011B3_00FFAD, 0x0011B4_00FFAE, 0x0011B5_00FFAF, 0x00111A_00FFB0,
  0x001106_00FFB1, 0x001107_00FFB2, 0x001108_00FFB3, 0x001121_00FFB4, 0x001109_00FFB5,
  0x00110A_00FFB6, 0x00110B_00FFB7, 0x00110C_00FFB8, 0x00110D_00FFB9, 0x00110E_00FFBA,
  0x00110F_00FFBB, 0x001110_00FFBC, 0x001111_00FFBD, 0x001112_00FFBE, 0x001161_00FFC2,
  0x001162_00FFC3, 0x001163_00FFC4, 0x001164_00FFC5, 0x001165_00FFC6, 0x001166_00FFC7,
  0x001167_00FFCA, 0x001168_00FFCB, 0x001169_00FFCC, 0x00116A_00FFCD, 0x00116B_00FFCE,
  0x00116C_00FFCF, 0x00116D_00FFD2, 0x00116E_00FFD3, 0x00116F_00FFD4, 0x001170_00FFD5,
  0x001171_00FFD6, 0x001172_00FFD7, 0x001173_00FFDA, 0x001174_00FFDB, 0x001175_00FFDC,
  0x0000A2_00FFE0, 0x0000A3_00FFE1, 0x0000AC_00FFE2, 0x000020_000304_00FFE3, 0x0000A6_00FFE4,
  0x0000A5_00FFE5, 0x0020A9_00FFE6, 0x002502_00FFE8, 0x002190_00FFE9, 0x002191_00FFEA,
  0x002192_00FFEB, 0x002193_00FFEC, 0x0025A0_00FFED, 0x0025CB_00FFEE]

end FileIndex.Text.Decomposition
