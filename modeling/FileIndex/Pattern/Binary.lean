/-
Binary properties: the sets of characters that the Unicode standard defines by name.
-/
import FileIndex.Pattern.Table

namespace FileIndex.Pattern

open Text

/-- The binary properties, each with the names it is known by. -/
def binaryProperties : List (List String × CodeSet) := [
  (["ahex", "asciihexdigit"], CodeSet.ofText "
    30 3A 41 47 61 67"),
  (["alpha", "alphabetic"], CodeSet.ofText "
    41 5B 61 7B AA AB B5 B6 BA BB C0 D7 D8 F7 F8 2C2 2C6 2D2 2E0 2E5 2EC 2ED 2EE 2EF 345 346 370
    375 376 378 37A 37E 37F 380 386 387 388 38B 38C 38D 38E 3A2 3A3 3F6 3F7 482 48A 530 531 557
    559 55A 560 589 5B0 5BE 5BF 5C0 5C1 5C3 5C4 5C6 5C7 5C8 5D0 5EB 5EF 5F3 610 61B 620 658 659
    660 66E 6D4 6D5 6DD 6E1 6E9 6ED 6F0 6FA 6FD 6FF 700 710 740 74D 7B2 7CA 7EB 7F4 7F6 7FA 7FB
    800 818 81A 82D 840 859 860 86B 870 888 889 88F 897 898 8A0 8CA 8D4 8E0 8E3 8EA 8F0 93C 93D
    94D 94E 951 955 964 971 984 985 98D 98F 991 993 9A9 9AA 9B1 9B2 9B3 9B6 9BA 9BD 9C5 9C7 9C9
    9CB 9CD 9CE 9CF 9D7 9D8 9DC 9DE 9DF 9E4 9F0 9F2 9FC 9FD A01 A04 A05 A0B A0F A11 A13 A29 A2A
    A31 A32 A34 A35 A37 A38 A3A A3E A43 A47 A49 A4B A4D A51 A52 A59 A5D A5E A5F A70 A76 A81 A84
    A85 A8E A8F A92 A93 AA9 AAA AB1 AB2 AB4 AB5 ABA ABD AC6 AC7 ACA ACB ACD AD0 AD1 AE0 AE4 AF9
    AFD B01 B04 B05 B0D B0F B11 B13 B29 B2A B31 B32 B34 B35 B3A B3D B45 B47 B49 B4B B4D B56 B58
    B5C B5E B5F B64 B71 B72 B82 B84 B85 B8B B8E B91 B92 B96 B99 B9B B9C B9D B9E BA0 BA3 BA5 BA8
    BAB BAE BBA BBE BC3 BC6 BC9 BCA BCD BD0 BD1 BD7 BD8 C00 C0D C0E C11 C12 C29 C2A C3A C3D C45
    C46 C49 C4A C4D C55 C57 C58 C5B C5D C5E C60 C64 C80 C84 C85 C8D C8E C91 C92 CA9 CAA CB4 CB5
    CBA CBD CC5 CC6 CC9 CCA CCD CD5 CD7 CDD CDF CE0 CE4 CF1 CF4 D00 D0D D0E D11 D12 D3B D3D D45
    D46 D49 D4A D4D D4E D4F D54 D58 D5F D64 D7A D80 D81 D84 D85 D97 D9A DB2 DB3 DBC DBD DBE DC0
    DC7 DCF DD5 DD6 DD7 DD8 DE0 DF2 DF4 E01 E3B E40 E47 E4D E4E E81 E83 E84 E85 E86 E8B E8C EA4
    EA5 EA6 EA7 EBA EBB EBE EC0 EC5 EC6 EC7 ECD ECE EDC EE0 F00 F01 F40 F48 F49 F6D F71 F84 F88
    F98 F99 FBD 1000 1037 1038 1039 103B 1040 1050 1090 109A 109E 10A0 10C6 10C7 10C8 10CD 10CE
    10D0 10FB 10FC 1249 124A 124E 1250 1257 1258 1259 125A 125E 1260 1289 128A 128E 1290 12B1 12B2
    12B6 12B8 12BF 12C0 12C1 12C2 12C6 12C8 12D7 12D8 1311 1312 1316 1318 135B 1380 1390 13A0 13F6
    13F8 13FE 1401 166D 166F 1680 1681 169B 16A0 16EB 16EE 16F9 1700 1714 171F 1734 1740 1754 1760
    176D 176E 1771 1772 1774 1780 17B4 17B6 17C9 17D7 17D8 17DC 17DD 1820 1879 1880 18AB 18B0 18F6
    1900 191F 1920 192C 1930 1939 1950 196E 1970 1975 1980 19AC 19B0 19CA 1A00 1A1C 1A20 1A5F 1A61
    1A75 1AA7 1AA8 1ABF 1AC1 1ACC 1ACF 1B00 1B34 1B35 1B44 1B45 1B4D 1B80 1BAA 1BAC 1BB0 1BBA 1BE6
    1BE7 1BF2 1C00 1C37 1C4D 1C50 1C5A 1C7E 1C80 1C8B 1C90 1CBB 1CBD 1CC0 1CE9 1CED 1CEE 1CF4 1CF5
    1CF7 1CFA 1CFB 1D00 1DC0 1DE7 1DF5 1E00 1F16 1F18 1F1E 1F20 1F46 1F48 1F4E 1F50 1F58 1F59 1F5A
    1F5B 1F5C 1F5D 1F5E 1F5F 1F7E 1F80 1FB5 1FB6 1FBD 1FBE 1FBF 1FC2 1FC5 1FC6 1FCD 1FD0 1FD4 1FD6
    1FDC 1FE0 1FED 1FF2 1FF5 1FF6 1FFD 2071 2072 207F 2080 2090 209D 2102 2103 2107 2108 210A 2114
    2115 2116 2119 211E 2124 2125 2126 2127 2128 2129 212A 212E 212F 213A 213C 2140 2145 214A 214E
    214F 2160 2189 24B6 24EA 2C00 2CE5 2CEB 2CEF 2CF2 2CF4 2D00 2D26 2D27 2D28 2D2D 2D2E 2D30 2D68
    2D6F 2D70 2D80 2D97 2DA0 2DA7 2DA8 2DAF 2DB0 2DB7 2DB8 2DBF 2DC0 2DC7 2DC8 2DCF 2DD0 2DD7 2DD8
    2DDF 2DE0 2E00 2E2F 2E30 3005 3008 3021 302A 3031 3036 3038 303D 3041 3097 309D 30A0 30A1 30FB
    30FC 3100 3105 3130 3131 318F 31A0 31C0 31F0 3200 3400 4DC0 4E00 A48D A4D0 A4FE A500 A60D A610
    A620 A62A A62C A640 A66F A674 A67C A67F A6F0 A717 A720 A722 A789 A78B A7CE A7D0 A7D2 A7D3 A7D4
    A7D5 A7DD A7F2 A806 A807 A828 A840 A874 A880 A8C4 A8C5 A8C6 A8F2 A8F8 A8FB A8FC A8FD A900 A90A
    A92B A930 A953 A960 A97D A980 A9B3 A9B4 A9C0 A9CF A9D0 A9E0 A9F0 A9FA A9FF AA00 AA37 AA40 AA4E
    AA60 AA77 AA7A AABF AAC0 AAC1 AAC2 AAC3 AADB AADE AAE0 AAF0 AAF2 AAF6 AB01 AB07 AB09 AB0F AB11
    AB17 AB20 AB27 AB28 AB2F AB30 AB5B AB5C AB6A AB70 ABEB AC00 D7A4 D7B0 D7C7 D7CB D7FC F900 FA6E
    FA70 FADA FB00 FB07 FB13 FB18 FB1D FB29 FB2A FB37 FB38 FB3D FB3E FB3F FB40 FB42 FB43 FB45 FB46
    FBB2 FBD3 FD3E FD50 FD90 FD92 FDC8 FDF0 FDFC FE70 FE75 FE76 FEFD FF21 FF3B FF41 FF5B FF66 FFBF
    FFC2 FFC8 FFCA FFD0 FFD2 FFD8 FFDA FFDD 10000 1000C 1000D 10027 10028 1003B 1003C 1003E 1003F
    1004E 10050 1005E 10080 100FB 10140 10175 10280 1029D 102A0 102D1 10300 10320 1032D 1034B
    10350 1037B 10380 1039E 103A0 103C4 103C8 103D0 103D1 103D6 10400 1049E 104B0 104D4 104D8
    104FC 10500 10528 10530 10564 10570 1057B 1057C 1058B 1058C 10593 10594 10596 10597 105A2
    105A3 105B2 105B3 105BA 105BB 105BD 105C0 105F4 10600 10737 10740 10756 10760 10768 10780
    10786 10787 107B1 107B2 107BB 10800 10806 10808 10809 1080A 10836 10837 10839 1083C 1083D
    1083F 10856 10860 10877 10880 1089F 108E0 108F3 108F4 108F6 10900 10916 10920 1093A 10980
    109B8 109BE 109C0 10A00 10A04 10A05 10A07 10A0C 10A14 10A15 10A18 10A19 10A36 10A60 10A7D
    10A80 10A9D 10AC0 10AC8 10AC9 10AE5 10B00 10B36 10B40 10B56 10B60 10B73 10B80 10B92 10C00
    10C49 10C80 10CB3 10CC0 10CF3 10D00 10D28 10D4A 10D66 10D69 10D6A 10D6F 10D86 10E80 10EAA
    10EAB 10EAD 10EB0 10EB2 10EC2 10EC5 10EFC 10EFD 10F00 10F1D 10F27 10F28 10F30 10F46 10F70
    10F82 10FB0 10FC5 10FE0 10FF7 11000 11046 11071 11076 11080 110B9 110C2 110C3 110D0 110E9
    11100 11133 11144 11148 11150 11173 11176 11177 11180 111C0 111C1 111C5 111CE 111D0 111DA
    111DB 111DC 111DD 11200 11212 11213 11235 11237 11238 1123E 11242 11280 11287 11288 11289
    1128A 1128E 1128F 1129E 1129F 112A9 112B0 112E9 11300 11304 11305 1130D 1130F 11311 11313
    11329 1132A 11331 11332 11334 11335 1133A 1133D 11345 11347 11349 1134B 1134D 11350 11351
    11357 11358 1135D 11364 11380 1138A 1138B 1138C 1138E 1138F 11390 113B6 113B7 113C1 113C2
    113C3 113C5 113C6 113C7 113CB 113CC 113CE 113D1 113D2 113D3 113D4 11400 11442 11443 11446
    11447 1144B 1145F 11462 11480 114C2 114C4 114C6 114C7 114C8 11580 115B6 115B8 115BF 115D8
    115DE 11600 1163F 11640 11641 11644 11645 11680 116B6 116B8 116B9 11700 1171B 1171D 1172B
    11740 11747 11800 11839 118A0 118E0 118FF 11907 11909 1190A 1190C 11914 11915 11917 11918
    11936 11937 11939 1193B 1193D 1193F 11943 119A0 119A8 119AA 119D8 119DA 119E0 119E1 119E2
    119E3 119E5 11A00 11A33 11A35 11A3F 11A50 11A98 11A9D 11A9E 11AB0 11AF9 11BC0 11BE1 11C00
    11C09 11C0A 11C37 11C38 11C3F 11C40 11C41 11C72 11C90 11C92 11CA8 11CA9 11CB7 11D00 11D07
    11D08 11D0A 11D0B 11D37 11D3A 11D3B 11D3C 11D3E 11D3F 11D42 11D43 11D44 11D46 11D48 11D60
    11D66 11D67 11D69 11D6A 11D8F 11D90 11D92 11D93 11D97 11D98 11D99 11EE0 11EF7 11F00 11F11
    11F12 11F3B 11F3E 11F41 11FB0 11FB1 12000 1239A 12400 1246F 12480 12544 12F90 12FF1 13000
    13430 13441 13447 13460 143FB 14400 14647 16100 1612F 16800 16A39 16A40 16A5F 16A70 16ABF
    16AD0 16AEE 16B00 16B30 16B40 16B44 16B63 16B78 16B7D 16B90 16D40 16D6D 16E40 16E80 16F00
    16F4B 16F4F 16F88 16F8F 16FA0 16FE0 16FE2 16FE3 16FE4 16FF0 16FF2 17000 187F8 18800 18CD6
    18CFF 18D09 1AFF0 1AFF4 1AFF5 1AFFC 1AFFD 1AFFF 1B000 1B123 1B132 1B133 1B150 1B153 1B155
    1B156 1B164 1B168 1B170 1B2FC 1BC00 1BC6B 1BC70 1BC7D 1BC80 1BC89 1BC90 1BC9A 1BC9E 1BC9F
    1D400 1D455 1D456 1D49D 1D49E 1D4A0 1D4A2 1D4A3 1D4A5 1D4A7 1D4A9 1D4AD 1D4AE 1D4BA 1D4BB
    1D4BC 1D4BD 1D4C4 1D4C5 1D506 1D507 1D50B 1D50D 1D515 1D516 1D51D 1D51E 1D53A 1D53B 1D53F
    1D540 1D545 1D546 1D547 1D54A 1D551 1D552 1D6A6 1D6A8 1D6C1 1D6C2 1D6DB 1D6DC 1D6FB 1D6FC
    1D715 1D716 1D735 1D736 1D74F 1D750 1D76F 1D770 1D789 1D78A 1D7A9 1D7AA 1D7C3 1D7C4 1D7CC
    1DF00 1DF1F 1DF25 1DF2B 1E000 1E007 1E008 1E019 1E01B 1E022 1E023 1E025 1E026 1E02B 1E030
    1E06E 1E08F 1E090 1E100 1E12D 1E137 1E13E 1E14E 1E14F 1E290 1E2AE 1E2C0 1E2EC 1E4D0 1E4EC
    1E5D0 1E5EE 1E5F0 1E5F1 1E7E0 1E7E7 1E7E8 1E7EC 1E7ED 1E7EF 1E7F0 1E7FF 1E800 1E8C5 1E900
    1E944 1E947 1E948 1E94B 1E94C 1EE00 1EE04 1EE05 1EE20 1EE21 1EE23 1EE24 1EE25 1EE27 1EE28
    1EE29 1EE33 1EE34 1EE38 1EE39 1EE3A 1EE3B 1EE3C 1EE42 1EE43 1EE47 1EE48 1EE49 1EE4A 1EE4B
    1EE4C 1EE4D 1EE50 1EE51 1EE53 1EE54 1EE55 1EE57 1EE58 1EE59 1EE5A 1EE5B 1EE5C 1EE5D 1EE5E
    1EE5F 1EE60 1EE61 1EE63 1EE64 1EE65 1EE67 1EE6B 1EE6C 1EE73 1EE74 1EE78 1EE79 1EE7D 1EE7E
    1EE7F 1EE80 1EE8A 1EE8B 1EE9C 1EEA1 1EEA4 1EEA5 1EEAA 1EEAB 1EEBC 1F130 1F14A 1F150 1F16A
    1F170 1F18A 20000 2A6E0 2A700 2B73A 2B740 2B81E 2B820 2CEA2 2CEB0 2EBE1 2EBF0 2EE5E 2F800
    2FA1E 30000 3134B 31350 323B0"),
  (["bidic", "bidicontrol"], CodeSet.ofText "
    61C 61D 200E 2010 202A 202F 2066 206A"),
  (["bidim", "bidimirrored"], CodeSet.ofText "
    28 2A 3C 3D 3E 3F 5B 5C 5D 5E 7B 7C 7D 7E AB AC BB BC F3A F3E 169B 169D 2039 203B 2045 2047
    207D 207F 208D 208F 2140 2141 2201 2205 2208 220E 2211 2212 2215 2217 221A 221E 221F 2223 2224
    2225 2226 2227 222B 2234 2239 223A 223B 224D 2252 2256 225F 2261 2262 2263 2264 226C 226E 228D
    228F 2293 2298 2299 22A2 22A4 22A6 22B9 22BE 22C0 22C9 22CE 22D0 22D2 22D6 22EE 22F0 2300 2308
    230C 2320 2322 2329 232B 2768 2776 27C0 27C1 27C3 27C7 27C8 27CA 27CB 27CE 27D3 27D7 27DC 27DF
    27E2 27F0 2983 2999 299B 29A1 29A2 29B0 29B8 29B9 29C0 29C6 29C9 29CA 29CE 29D3 29D4 29D6 29D8
    29DD 29E1 29E2 29E3 29E6 29E8 29EA 29F4 29FA 29FC 29FE 2A0A 2A1D 2A1E 2A22 2A24 2A25 2A26 2A27
    2A29 2A2A 2A2B 2A2F 2A34 2A36 2A3C 2A3F 2A57 2A59 2A64 2A66 2A6A 2A6E 2A6F 2A71 2A73 2A75 2A79
    2AA4 2AA6 2AAE 2AAF 2AD7 2ADC 2ADD 2ADE 2ADF 2AE2 2AE7 2AEC 2AEF 2AF3 2AF4 2AF7 2AFC 2AFD 2AFE
    2BFE 2BFF 2E02 2E06 2E09 2E0B 2E0C 2E0E 2E1C 2E1E 2E20 2E2A 2E55 2E5D 3008 3012 3014 301C FE59
    FE5F FE64 FE66 FF08 FF0A FF1C FF1D FF1E FF1F FF3B FF3C FF3D FF3E FF5B FF5C FF5D FF5E FF5F FF61
    FF62 FF64 1D6DB 1D6DC 1D715 1D716 1D74F 1D750 1D789 1D78A 1D7C3 1D7C4"),
  (["caseignorable", "ci"], CodeSet.ofText "
    27 28 2E 2F 3A 3B 5E 5F 60 61 A8 A9 AD AE AF B0 B4 B5 B7 B9 2B0 370 374 376 37A 37B 384 386
    387 388 483 48A 559 55A 55F 560 591 5BE 5BF 5C0 5C1 5C3 5C4 5C6 5C7 5C8 5F4 5F5 600 606 610
    61B 61C 61D 640 641 64B 660 670 671 6D6 6DE 6DF 6E9 6EA 6EE 70F 710 711 712 730 74B 7A6 7B1
    7EB 7F6 7FA 7FB 7FD 7FE 816 82E 859 85C 888 889 890 892 898 8A0 8C9 903 93A 93B 93C 93D 941
    949 94D 94E 951 958 962 964 971 972 981 982 9BC 9BD 9C1 9C5 9CD 9CE 9E2 9E4 9FE 9FF A01 A03
    A3C A3D A41 A43 A47 A49 A4B A4E A51 A52 A70 A72 A75 A76 A81 A83 ABC ABD AC1 AC6 AC7 AC9 ACD
    ACE AE2 AE4 AFA B00 B01 B02 B3C B3D B3F B40 B41 B45 B4D B4E B55 B57 B62 B64 B82 B83 BC0 BC1
    BCD BCE C00 C01 C04 C05 C3C C3D C3E C41 C46 C49 C4A C4E C55 C57 C62 C64 C81 C82 CBC CBD CBF
    CC0 CC6 CC7 CCC CCE CE2 CE4 D00 D02 D3B D3D D41 D45 D4D D4E D62 D64 D81 D82 DCA DCB DD2 DD5
    DD6 DD7 E31 E32 E34 E3B E46 E4F EB1 EB2 EB4 EBD EC6 EC7 EC8 ECF F18 F1A F35 F36 F37 F38 F39
    F3A F71 F7F F80 F85 F86 F88 F8D F98 F99 FBD FC6 FC7 102D 1031 1032 1038 1039 103B 103D 103F
    1058 105A 105E 1061 1071 1075 1082 1083 1085 1087 108D 108E 109D 109E 10FC 10FD 135D 1360 1712
    1715 1732 1734 1752 1754 1772 1774 17B4 17B6 17B7 17BE 17C6 17C7 17C9 17D4 17D7 17D8 17DD 17DE
    180B 1810 1843 1844 1885 1887 18A9 18AA 1920 1923 1927 1929 1932 1933 1939 193C 1A17 1A19 1A1B
    1A1C 1A56 1A57 1A58 1A5F 1A60 1A61 1A62 1A63 1A65 1A6D 1A73 1A7D 1A7F 1A80 1AA7 1AA8 1AB0 1ACF
    1B00 1B04 1B34 1B35 1B36 1B3B 1B3C 1B3D 1B42 1B43 1B6B 1B74 1B80 1B82 1BA2 1BA6 1BA8 1BAA 1BAB
    1BAE 1BE6 1BE7 1BE8 1BEA 1BED 1BEE 1BEF 1BF2 1C2C 1C34 1C36 1C38 1C78 1C7E 1CD0 1CD3 1CD4 1CE1
    1CE2 1CE9 1CED 1CEE 1CF4 1CF5 1CF8 1CFA 1D2C 1D6B 1D78 1D79 1D9B 1E00 1FBD 1FBE 1FBF 1FC2 1FCD
    1FD0 1FDD 1FE0 1FED 1FF0 1FFD 1FFF 200B 2010 2018 201A 2024 2025 2027 2028 202A 202F 2060 2065
    2066 2070 2071 2072 207F 2080 2090 209D 20D0 20F1 2C7C 2C7E 2CEF 2CF2 2D6F 2D70 2D7F 2D80 2DE0
    2E00 2E2F 2E30 3005 3006 302A 302E 3031 3036 303B 303C 3099 309F 30FC 30FF A015 A016 A4F8 A4FE
    A60C A60D A66F A673 A674 A67E A67F A680 A69C A6A0 A6F0 A6F2 A700 A722 A770 A771 A788 A78B A7F2
    A7F5 A7F8 A7FA A802 A803 A806 A807 A80B A80C A825 A827 A82C A82D A8C4 A8C6 A8E0 A8F2 A8FF A900
    A926 A92E A947 A952 A980 A983 A9B3 A9B4 A9B6 A9BA A9BC A9BE A9CF A9D0 A9E5 A9E7 AA29 AA2F AA31
    AA33 AA35 AA37 AA43 AA44 AA4C AA4D AA70 AA71 AA7C AA7D AAB0 AAB1 AAB2 AAB5 AAB7 AAB9 AABE AAC0
    AAC1 AAC2 AADD AADE AAEC AAEE AAF3 AAF5 AAF6 AAF7 AB5B AB60 AB69 AB6C ABE5 ABE6 ABE8 ABE9 ABED
    ABEE FB1E FB1F FBB2 FBC3 FE00 FE10 FE13 FE14 FE20 FE30 FE52 FE53 FE55 FE56 FEFF FF00 FF07 FF08
    FF0E FF0F FF1A FF1B FF3E FF3F FF40 FF41 FF70 FF71 FF9E FFA0 FFE3 FFE4 FFF9 FFFC 101FD 101FE
    102E0 102E1 10376 1037B 10780 10786 10787 107B1 107B2 107BB 10A01 10A04 10A05 10A07 10A0C
    10A10 10A38 10A3B 10A3F 10A40 10AE5 10AE7 10D24 10D28 10EAB 10EAD 10EFD 10F00 10F46 10F51
    10F82 10F86 11001 11002 11038 11047 11070 11071 11073 11075 1107F 11082 110B3 110B7 110B9
    110BB 110BD 110BE 110C2 110C3 110CD 110CE 11100 11103 11127 1112C 1112D 11135 11173 11174
    11180 11182 111B6 111BF 111C9 111CD 111CF 111D0 1122F 11232 11234 11235 11236 11238 1123E
    1123F 11241 11242 112DF 112E0 112E3 112EB 11300 11302 1133B 1133D 11340 11341 11366 1136D
    11370 11375 11438 11440 11442 11445 11446 11447 1145E 1145F 114B3 114B9 114BA 114BB 114BF
    114C1 114C2 114C4 115B2 115B6 115BC 115BE 115BF 115C1 115DC 115DE 11633 1163B 1163D 1163E
    1163F 11641 116AB 116AC 116AD 116AE 116B0 116B6 116B7 116B8 1171D 11720 11722 11726 11727
    1172C 1182F 11838 11839 1183B 1193B 1193D 1193E 1193F 11943 11944 119D4 119D8 119DA 119DC
    119E0 119E1 11A01 11A0B 11A33 11A39 11A3B 11A3F 11A47 11A48 11A51 11A57 11A59 11A5C 11A8A
    11A97 11A98 11A9A 11C30 11C37 11C38 11C3E 11C3F 11C40 11C92 11CA8 11CAA 11CB1 11CB2 11CB4
    11CB5 11CB7 11D31 11D37 11D3A 11D3B 11D3C 11D3E 11D3F 11D46 11D47 11D48 11D90 11D92 11D95
    11D96 11D97 11D98 11EF3 11EF5 11F00 11F02 11F36 11F3B 11F40 11F41 11F42 11F43 13430 13441
    13447 13456 16AF0 16AF5 16B30 16B37 16B40 16B44 16F4F 16F50 16F8F 16FA0 16FE0 16FE2 16FE3
    16FE5 1AFF0 1AFF4 1AFF5 1AFFC 1AFFD 1AFFF 1BC9D 1BC9F 1BCA0 1BCA4 1CF00 1CF2E 1CF30 1CF47
    1D167 1D16A 1D173 1D183 1D185 1D18C 1D1AA 1D1AE 1D242 1D245 1DA00 1DA37 1DA3B 1DA6D 1DA75
    1DA76 1DA84 1DA85 1DA9B 1DAA0 1DAA1 1DAB0 1E000 1E007 1E008 1E019 1E01B 1E022 1E023 1E025
    1E026 1E02B 1E030 1E06E 1E08F 1E090 1E130 1E13E 1E2AE 1E2AF 1E2EC 1E2F0 1E4EB 1E4F0 1E8D0
    1E8D7 1E944 1E94C 1F3FB 1F400 E0001 E0002 E0020 E0080 E0100 E01F0"),
  (["cased"], CodeSet.ofText "
    41 5B 61 7B AA AB B5 B6 BA BB C0 D7 D8 F7 F8 1BB 1BC 1C0 1C4 294 295 2B9 2C0 2C2 2E0 2E5 345
    346 370 374 376 378 37A 37E 37F 380 386 387 388 38B 38C 38D 38E 3A2 3A3 3F6 3F7 482 48A 530
    531 557 560 589 10A0 10C6 10C7 10C8 10CD 10CE 10D0 10FB 10FC 1100 13A0 13F6 13F8 13FE 1C80
    1C8B 1C90 1CBB 1CBD 1CC0 1D00 1DC0 1E00 1F16 1F18 1F1E 1F20 1F46 1F48 1F4E 1F50 1F58 1F59 1F5A
    1F5B 1F5C 1F5D 1F5E 1F5F 1F7E 1F80 1FB5 1FB6 1FBD 1FBE 1FBF 1FC2 1FC5 1FC6 1FCD 1FD0 1FD4 1FD6
    1FDC 1FE0 1FED 1FF2 1FF5 1FF6 1FFD 2071 2072 207F 2080 2090 209D 2102 2103 2107 2108 210A 2114
    2115 2116 2119 211E 2124 2125 2126 2127 2128 2129 212A 212E 212F 2135 2139 213A 213C 2140 2145
    214A 214E 214F 2160 2180 2183 2185 24B6 24EA 2C00 2CE5 2CEB 2CEF 2CF2 2CF4 2D00 2D26 2D27 2D28
    2D2D 2D2E A640 A66E A680 A69E A722 A788 A78B A78F A790 A7CE A7D0 A7D2 A7D3 A7D4 A7D5 A7DD A7F2
    A7F7 A7F8 A7FB AB30 AB5B AB5C AB6A AB70 ABC0 FB00 FB07 FB13 FB18 FF21 FF3B FF41 FF5B 10400
    10450 104B0 104D4 104D8 104FC 10570 1057B 1057C 1058B 1058C 10593 10594 10596 10597 105A2
    105A3 105B2 105B3 105BA 105BB 105BD 10780 10781 10783 10786 10787 107B1 107B2 107BB 10C80
    10CB3 10CC0 10CF3 10D50 10D66 10D70 10D86 118A0 118E0 16E40 16E80 1D400 1D455 1D456 1D49D
    1D49E 1D4A0 1D4A2 1D4A3 1D4A5 1D4A7 1D4A9 1D4AD 1D4AE 1D4BA 1D4BB 1D4BC 1D4BD 1D4C4 1D4C5
    1D506 1D507 1D50B 1D50D 1D515 1D516 1D51D 1D51E 1D53A 1D53B 1D53F 1D540 1D545 1D546 1D547
    1D54A 1D551 1D552 1D6A6 1D6A8 1D6C1 1D6C2 1D6DB 1D6DC 1D6FB 1D6FC 1D715 1D716 1D735 1D736
    1D74F 1D750 1D76F 1D770 1D789 1D78A 1D7A9 1D7AA 1D7C3 1D7C4 1D7CC 1DF00 1DF0A 1DF0B 1DF1F
    1DF25 1DF2B 1E030 1E06E 1E900 1E944 1F130 1F14A 1F150 1F16A 1F170 1F18A"),
  (["changeswhencasefolded", "cwcf"], CodeSet.ofText "
    41 5B B5 B6 C0 D7 D8 E0 100 101 102 103 104 105 106 107 108 109 10A 10B 10C 10D 10E 10F 110
    111 112 113 114 115 116 117 118 119 11A 11B 11C 11D 11E 11F 120 121 122 123 124 125 126 127
    128 129 12A 12B 12C 12D 12E 12F 130 131 132 133 134 135 136 137 139 13A 13B 13C 13D 13E 13F
    140 141 142 143 144 145 146 147 148 149 14B 14C 14D 14E 14F 150 151 152 153 154 155 156 157
    158 159 15A 15B 15C 15D 15E 15F 160 161 162 163 164 165 166 167 168 169 16A 16B 16C 16D 16E
    16F 170 171 172 173 174 175 176 177 178 17A 17B 17C 17D 17E 17F 180 181 183 184 185 186 188
    189 18C 18E 192 193 195 196 199 19C 19E 19F 1A1 1A2 1A3 1A4 1A5 1A6 1A8 1A9 1AA 1AC 1AD 1AE
    1B0 1B1 1B4 1B5 1B6 1B7 1B9 1BC 1BD 1C4 1C6 1C7 1C9 1CA 1CC 1CD 1CE 1CF 1D0 1D1 1D2 1D3 1D4
    1D5 1D6 1D7 1D8 1D9 1DA 1DB 1DC 1DE 1DF 1E0 1E1 1E2 1E3 1E4 1E5 1E6 1E7 1E8 1E9 1EA 1EB 1EC
    1ED 1EE 1EF 1F1 1F3 1F4 1F5 1F6 1F9 1FA 1FB 1FC 1FD 1FE 1FF 200 201 202 203 204 205 206 207
    208 209 20A 20B 20C 20D 20E 20F 210 211 212 213 214 215 216 217 218 219 21A 21B 21C 21D 21E
    21F 220 221 222 223 224 225 226 227 228 229 22A 22B 22C 22D 22E 22F 230 231 232 233 23A 23C
    23D 23F 241 242 243 247 248 249 24A 24B 24C 24D 24E 24F 345 346 370 371 372 373 376 377 37F
    380 386 387 388 38B 38C 38D 38E 390 391 3A2 3A3 3AC 3C2 3C3 3CF 3D2 3D5 3D7 3D8 3D9 3DA 3DB
    3DC 3DD 3DE 3DF 3E0 3E1 3E2 3E3 3E4 3E5 3E6 3E7 3E8 3E9 3EA 3EB 3EC 3ED 3EE 3EF 3F0 3F2 3F4
    3F6 3F7 3F8 3F9 3FB 3FD 430 460 461 462 463 464 465 466 467 468 469 46A 46B 46C 46D 46E 46F
    470 471 472 473 474 475 476 477 478 479 47A 47B 47C 47D 47E 47F 480 481 48A 48B 48C 48D 48E
    48F 490 491 492 493 494 495 496 497 498 499 49A 49B 49C 49D 49E 49F 4A0 4A1 4A2 4A3 4A4 4A5
    4A6 4A7 4A8 4A9 4AA 4AB 4AC 4AD 4AE 4AF 4B0 4B1 4B2 4B3 4B4 4B5 4B6 4B7 4B8 4B9 4BA 4BB 4BC
    4BD 4BE 4BF 4C0 4C2 4C3 4C4 4C5 4C6 4C7 4C8 4C9 4CA 4CB 4CC 4CD 4CE 4D0 4D1 4D2 4D3 4D4 4D5
    4D6 4D7 4D8 4D9 4DA 4DB 4DC 4DD 4DE 4DF 4E0 4E1 4E2 4E3 4E4 4E5 4E6 4E7 4E8 4E9 4EA 4EB 4EC
    4ED 4EE 4EF 4F0 4F1 4F2 4F3 4F4 4F5 4F6 4F7 4F8 4F9 4FA 4FB 4FC 4FD 4FE 4FF 500 501 502 503
    504 505 506 507 508 509 50A 50B 50C 50D 50E 50F 510 511 512 513 514 515 516 517 518 519 51A
    51B 51C 51D 51E 51F 520 521 522 523 524 525 526 527 528 529 52A 52B 52C 52D 52E 52F 531 557
    587 588 10A0 10C6 10C7 10C8 10CD 10CE 13F8 13FE 1C80 1C89 1C90 1CBB 1CBD 1CC0 1E00 1E01 1E02
    1E03 1E04 1E05 1E06 1E07 1E08 1E09 1E0A 1E0B 1E0C 1E0D 1E0E 1E0F 1E10 1E11 1E12 1E13 1E14 1E15
    1E16 1E17 1E18 1E19 1E1A 1E1B 1E1C 1E1D 1E1E 1E1F 1E20 1E21 1E22 1E23 1E24 1E25 1E26 1E27 1E28
    1E29 1E2A 1E2B 1E2C 1E2D 1E2E 1E2F 1E30 1E31 1E32 1E33 1E34 1E35 1E36 1E37 1E38 1E39 1E3A 1E3B
    1E3C 1E3D 1E3E 1E3F 1E40 1E41 1E42 1E43 1E44 1E45 1E46 1E47 1E48 1E49 1E4A 1E4B 1E4C 1E4D 1E4E
    1E4F 1E50 1E51 1E52 1E53 1E54 1E55 1E56 1E57 1E58 1E59 1E5A 1E5B 1E5C 1E5D 1E5E 1E5F 1E60 1E61
    1E62 1E63 1E64 1E65 1E66 1E67 1E68 1E69 1E6A 1E6B 1E6C 1E6D 1E6E 1E6F 1E70 1E71 1E72 1E73 1E74
    1E75 1E76 1E77 1E78 1E79 1E7A 1E7B 1E7C 1E7D 1E7E 1E7F 1E80 1E81 1E82 1E83 1E84 1E85 1E86 1E87
    1E88 1E89 1E8A 1E8B 1E8C 1E8D 1E8E 1E8F 1E90 1E91 1E92 1E93 1E94 1E95 1E9A 1E9C 1E9E 1E9F 1EA0
    1EA1 1EA2 1EA3 1EA4 1EA5 1EA6 1EA7 1EA8 1EA9 1EAA 1EAB 1EAC 1EAD 1EAE 1EAF 1EB0 1EB1 1EB2 1EB3
    1EB4 1EB5 1EB6 1EB7 1EB8 1EB9 1EBA 1EBB 1EBC 1EBD 1EBE 1EBF 1EC0 1EC1 1EC2 1EC3 1EC4 1EC5 1EC6
    1EC7 1EC8 1EC9 1ECA 1ECB 1ECC 1ECD 1ECE 1ECF 1ED0 1ED1 1ED2 1ED3 1ED4 1ED5 1ED6 1ED7 1ED8 1ED9
    1EDA 1EDB 1EDC 1EDD 1EDE 1EDF 1EE0 1EE1 1EE2 1EE3 1EE4 1EE5 1EE6 1EE7 1EE8 1EE9 1EEA 1EEB 1EEC
    1EED 1EEE 1EEF 1EF0 1EF1 1EF2 1EF3 1EF4 1EF5 1EF6 1EF7 1EF8 1EF9 1EFA 1EFB 1EFC 1EFD 1EFE 1EFF
    1F08 1F10 1F18 1F1E 1F28 1F30 1F38 1F40 1F48 1F4E 1F59 1F5A 1F5B 1F5C 1F5D 1F5E 1F5F 1F60 1F68
    1F70 1F80 1FB0 1FB2 1FB5 1FB7 1FBD 1FC2 1FC5 1FC7 1FCD 1FD8 1FDC 1FE8 1FED 1FF2 1FF5 1FF7 1FFD
    2126 2127 212A 212C 2132 2133 2160 2170 2183 2184 24B6 24D0 2C00 2C30 2C60 2C61 2C62 2C65 2C67
    2C68 2C69 2C6A 2C6B 2C6C 2C6D 2C71 2C72 2C73 2C75 2C76 2C7E 2C81 2C82 2C83 2C84 2C85 2C86 2C87
    2C88 2C89 2C8A 2C8B 2C8C 2C8D 2C8E 2C8F 2C90 2C91 2C92 2C93 2C94 2C95 2C96 2C97 2C98 2C99 2C9A
    2C9B 2C9C 2C9D 2C9E 2C9F 2CA0 2CA1 2CA2 2CA3 2CA4 2CA5 2CA6 2CA7 2CA8 2CA9 2CAA 2CAB 2CAC 2CAD
    2CAE 2CAF 2CB0 2CB1 2CB2 2CB3 2CB4 2CB5 2CB6 2CB7 2CB8 2CB9 2CBA 2CBB 2CBC 2CBD 2CBE 2CBF 2CC0
    2CC1 2CC2 2CC3 2CC4 2CC5 2CC6 2CC7 2CC8 2CC9 2CCA 2CCB 2CCC 2CCD 2CCE 2CCF 2CD0 2CD1 2CD2 2CD3
    2CD4 2CD5 2CD6 2CD7 2CD8 2CD9 2CDA 2CDB 2CDC 2CDD 2CDE 2CDF 2CE0 2CE1 2CE2 2CE3 2CEB 2CEC 2CED
    2CEE 2CF2 2CF3 A640 A641 A642 A643 A644 A645 A646 A647 A648 A649 A64A A64B A64C A64D A64E A64F
    A650 A651 A652 A653 A654 A655 A656 A657 A658 A659 A65A A65B A65C A65D A65E A65F A660 A661 A662
    A663 A664 A665 A666 A667 A668 A669 A66A A66B A66C A66D A680 A681 A682 A683 A684 A685 A686 A687
    A688 A689 A68A A68B A68C A68D A68E A68F A690 A691 A692 A693 A694 A695 A696 A697 A698 A699 A69A
    A69B A722 A723 A724 A725 A726 A727 A728 A729 A72A A72B A72C A72D A72E A72F A732 A733 A734 A735
    A736 A737 A738 A739 A73A A73B A73C A73D A73E A73F A740 A741 A742 A743 A744 A745 A746 A747 A748
    A749 A74A A74B A74C A74D A74E A74F A750 A751 A752 A753 A754 A755 A756 A757 A758 A759 A75A A75B
    A75C A75D A75E A75F A760 A761 A762 A763 A764 A765 A766 A767 A768 A769 A76A A76B A76C A76D A76E
    A76F A779 A77A A77B A77C A77D A77F A780 A781 A782 A783 A784 A785 A786 A787 A78B A78C A78D A78E
    A790 A791 A792 A793 A796 A797 A798 A799 A79A A79B A79C A79D A79E A79F A7A0 A7A1 A7A2 A7A3 A7A4
    A7A5 A7A6 A7A7 A7A8 A7A9 A7AA A7AF A7B0 A7B5 A7B6 A7B7 A7B8 A7B9 A7BA A7BB A7BC A7BD A7BE A7BF
    A7C0 A7C1 A7C2 A7C3 A7C4 A7C8 A7C9 A7CA A7D0 A7D1 A7D6 A7D7 A7D8 A7D9 A7F5 A7F6 AB70 ABC0 FB00
    FB07 FB13 FB18 FF21 FF3B 10400 10428 104B0 104D4 10570 1057B 1057C 1058B 1058C 10593 10594
    10596 10C80 10CB3 118A0 118C0 16E40 16E60 1E900 1E922"),
  (["changeswhencasemapped", "cwcm"], CodeSet.ofText "
    41 5B 61 7B B5 B6 C0 D7 D8 F7 F8 138 139 18D 18E 19B 19C 1AA 1AC 1BA 1BC 1BE 1BF 1C0 1C4 221
    222 234 23A 255 256 258 259 25A 25B 25D 260 262 263 264 265 267 268 26D 26F 270 271 273 275
    276 27D 27E 280 281 282 284 287 28D 292 293 29D 29F 345 346 370 374 376 378 37B 37E 37F 380
    386 387 388 38B 38C 38D 38E 3A2 3A3 3D2 3D5 3F6 3F7 3FC 3FD 482 48A 530 531 557 561 588 10A0
    10C6 10C7 10C8 10CD 10CE 10D0 10FB 10FD 1100 13A0 13F6 13F8 13FE 1C80 1C89 1C90 1CBB 1CBD 1CC0
    1D79 1D7A 1D7D 1D7E 1D8E 1D8F 1E00 1E9C 1E9E 1E9F 1EA0 1F16 1F18 1F1E 1F20 1F46 1F48 1F4E 1F50
    1F58 1F59 1F5A 1F5B 1F5C 1F5D 1F5E 1F5F 1F7E 1F80 1FB5 1FB6 1FBD 1FBE 1FBF 1FC2 1FC5 1FC6 1FCD
    1FD0 1FD4 1FD6 1FDC 1FE0 1FED 1FF2 1FF5 1FF6 1FFD 2126 2127 212A 212C 2132 2133 214E 214F 2160
    2180 2183 2185 24B6 24EA 2C00 2C71 2C72 2C74 2C75 2C77 2C7E 2CE4 2CEB 2CEF 2CF2 2CF4 2D00 2D26
    2D27 2D28 2D2D 2D2E A640 A66E A680 A69C A722 A730 A732 A770 A779 A788 A78B A78E A790 A795 A796
    A7AF A7B0 A7CB A7D0 A7D2 A7D6 A7DA A7F5 A7F7 AB53 AB54 AB70 ABC0 FB00 FB07 FB13 FB18 FF21 FF3B
    FF41 FF5B 10400 10450 104B0 104D4 104D8 104FC 10570 1057B 1057C 1058B 1058C 10593 10594 10596
    10597 105A2 105A3 105B2 105B3 105BA 105BB 105BD 10C80 10CB3 10CC0 10CF3 118A0 118E0 16E40
    16E80 1E900 1E944"),
  (["changeswhenlowercased", "cwl"], CodeSet.ofText "
    41 5B C0 D7 D8 DF 100 101 102 103 104 105 106 107 108 109 10A 10B 10C 10D 10E 10F 110 111 112
    113 114 115 116 117 118 119 11A 11B 11C 11D 11E 11F 120 121 122 123 124 125 126 127 128 129
    12A 12B 12C 12D 12E 12F 130 131 132 133 134 135 136 137 139 13A 13B 13C 13D 13E 13F 140 141
    142 143 144 145 146 147 148 14A 14B 14C 14D 14E 14F 150 151 152 153 154 155 156 157 158 159
    15A 15B 15C 15D 15E 15F 160 161 162 163 164 165 166 167 168 169 16A 16B 16C 16D 16E 16F 170
    171 172 173 174 175 176 177 178 17A 17B 17C 17D 17E 181 183 184 185 186 188 189 18C 18E 192
    193 195 196 199 19C 19E 19F 1A1 1A2 1A3 1A4 1A5 1A6 1A8 1A9 1AA 1AC 1AD 1AE 1B0 1B1 1B4 1B5
    1B6 1B7 1B9 1BC 1BD 1C4 1C6 1C7 1C9 1CA 1CC 1CD 1CE 1CF 1D0 1D1 1D2 1D3 1D4 1D5 1D6 1D7 1D8
    1D9 1DA 1DB 1DC 1DE 1DF 1E0 1E1 1E2 1E3 1E4 1E5 1E6 1E7 1E8 1E9 1EA 1EB 1EC 1ED 1EE 1EF 1F1
    1F3 1F4 1F5 1F6 1F9 1FA 1FB 1FC 1FD 1FE 1FF 200 201 202 203 204 205 206 207 208 209 20A 20B
    20C 20D 20E 20F 210 211 212 213 214 215 216 217 218 219 21A 21B 21C 21D 21E 21F 220 221 222
    223 224 225 226 227 228 229 22A 22B 22C 22D 22E 22F 230 231 232 233 23A 23C 23D 23F 241 242
    243 247 248 249 24A 24B 24C 24D 24E 24F 370 371 372 373 376 377 37F 380 386 387 388 38B 38C
    38D 38E 390 391 3A2 3A3 3AC 3CF 3D0 3D8 3D9 3DA 3DB 3DC 3DD 3DE 3DF 3E0 3E1 3E2 3E3 3E4 3E5
    3E6 3E7 3E8 3E9 3EA 3EB 3EC 3ED 3EE 3EF 3F4 3F5 3F7 3F8 3F9 3FB 3FD 430 460 461 462 463 464
    465 466 467 468 469 46A 46B 46C 46D 46E 46F 470 471 472 473 474 475 476 477 478 479 47A 47B
    47C 47D 47E 47F 480 481 48A 48B 48C 48D 48E 48F 490 491 492 493 494 495 496 497 498 499 49A
    49B 49C 49D 49E 49F 4A0 4A1 4A2 4A3 4A4 4A5 4A6 4A7 4A8 4A9 4AA 4AB 4AC 4AD 4AE 4AF 4B0 4B1
    4B2 4B3 4B4 4B5 4B6 4B7 4B8 4B9 4BA 4BB 4BC 4BD 4BE 4BF 4C0 4C2 4C3 4C4 4C5 4C6 4C7 4C8 4C9
    4CA 4CB 4CC 4CD 4CE 4D0 4D1 4D2 4D3 4D4 4D5 4D6 4D7 4D8 4D9 4DA 4DB 4DC 4DD 4DE 4DF 4E0 4E1
    4E2 4E3 4E4 4E5 4E6 4E7 4E8 4E9 4EA 4EB 4EC 4ED 4EE 4EF 4F0 4F1 4F2 4F3 4F4 4F5 4F6 4F7 4F8
    4F9 4FA 4FB 4FC 4FD 4FE 4FF 500 501 502 503 504 505 506 507 508 509 50A 50B 50C 50D 50E 50F
    510 511 512 513 514 515 516 517 518 519 51A 51B 51C 51D 51E 51F 520 521 522 523 524 525 526
    527 528 529 52A 52B 52C 52D 52E 52F 531 557 10A0 10C6 10C7 10C8 10CD 10CE 13A0 13F6 1C90 1CBB
    1CBD 1CC0 1E00 1E01 1E02 1E03 1E04 1E05 1E06 1E07 1E08 1E09 1E0A 1E0B 1E0C 1E0D 1E0E 1E0F 1E10
    1E11 1E12 1E13 1E14 1E15 1E16 1E17 1E18 1E19 1E1A 1E1B 1E1C 1E1D 1E1E 1E1F 1E20 1E21 1E22 1E23
    1E24 1E25 1E26 1E27 1E28 1E29 1E2A 1E2B 1E2C 1E2D 1E2E 1E2F 1E30 1E31 1E32 1E33 1E34 1E35 1E36
    1E37 1E38 1E39 1E3A 1E3B 1E3C 1E3D 1E3E 1E3F 1E40 1E41 1E42 1E43 1E44 1E45 1E46 1E47 1E48 1E49
    1E4A 1E4B 1E4C 1E4D 1E4E 1E4F 1E50 1E51 1E52 1E53 1E54 1E55 1E56 1E57 1E58 1E59 1E5A 1E5B 1E5C
    1E5D 1E5E 1E5F 1E60 1E61 1E62 1E63 1E64 1E65 1E66 1E67 1E68 1E69 1E6A 1E6B 1E6C 1E6D 1E6E 1E6F
    1E70 1E71 1E72 1E73 1E74 1E75 1E76 1E77 1E78 1E79 1E7A 1E7B 1E7C 1E7D 1E7E 1E7F 1E80 1E81 1E82
    1E83 1E84 1E85 1E86 1E87 1E88 1E89 1E8A 1E8B 1E8C 1E8D 1E8E 1E8F 1E90 1E91 1E92 1E93 1E94 1E95
    1E9E 1E9F 1EA0 1EA1 1EA2 1EA3 1EA4 1EA5 1EA6 1EA7 1EA8 1EA9 1EAA 1EAB 1EAC 1EAD 1EAE 1EAF 1EB0
    1EB1 1EB2 1EB3 1EB4 1EB5 1EB6 1EB7 1EB8 1EB9 1EBA 1EBB 1EBC 1EBD 1EBE 1EBF 1EC0 1EC1 1EC2 1EC3
    1EC4 1EC5 1EC6 1EC7 1EC8 1EC9 1ECA 1ECB 1ECC 1ECD 1ECE 1ECF 1ED0 1ED1 1ED2 1ED3 1ED4 1ED5 1ED6
    1ED7 1ED8 1ED9 1EDA 1EDB 1EDC 1EDD 1EDE 1EDF 1EE0 1EE1 1EE2 1EE3 1EE4 1EE5 1EE6 1EE7 1EE8 1EE9
    1EEA 1EEB 1EEC 1EED 1EEE 1EEF 1EF0 1EF1 1EF2 1EF3 1EF4 1EF5 1EF6 1EF7 1EF8 1EF9 1EFA 1EFB 1EFC
    1EFD 1EFE 1EFF 1F08 1F10 1F18 1F1E 1F28 1F30 1F38 1F40 1F48 1F4E 1F59 1F5A 1F5B 1F5C 1F5D 1F5E
    1F5F 1F60 1F68 1F70 1F88 1F90 1F98 1FA0 1FA8 1FB0 1FB8 1FBD 1FC8 1FCD 1FD8 1FDC 1FE8 1FED 1FF8
    1FFD 2126 2127 212A 212C 2132 2133 2160 2170 2183 2184 24B6 24D0 2C00 2C30 2C60 2C61 2C62 2C65
    2C67 2C68 2C69 2C6A 2C6B 2C6C 2C6D 2C71 2C72 2C73 2C75 2C76 2C7E 2C81 2C82 2C83 2C84 2C85 2C86
    2C87 2C88 2C89 2C8A 2C8B 2C8C 2C8D 2C8E 2C8F 2C90 2C91 2C92 2C93 2C94 2C95 2C96 2C97 2C98 2C99
    2C9A 2C9B 2C9C 2C9D 2C9E 2C9F 2CA0 2CA1 2CA2 2CA3 2CA4 2CA5 2CA6 2CA7 2CA8 2CA9 2CAA 2CAB 2CAC
    2CAD 2CAE 2CAF 2CB0 2CB1 2CB2 2CB3 2CB4 2CB5 2CB6 2CB7 2CB8 2CB9 2CBA 2CBB 2CBC 2CBD 2CBE 2CBF
    2CC0 2CC1 2CC2 2CC3 2CC4 2CC5 2CC6 2CC7 2CC8 2CC9 2CCA 2CCB 2CCC 2CCD 2CCE 2CCF 2CD0 2CD1 2CD2
    2CD3 2CD4 2CD5 2CD6 2CD7 2CD8 2CD9 2CDA 2CDB 2CDC 2CDD 2CDE 2CDF 2CE0 2CE1 2CE2 2CE3 2CEB 2CEC
    2CED 2CEE 2CF2 2CF3 A640 A641 A642 A643 A644 A645 A646 A647 A648 A649 A64A A64B A64C A64D A64E
    A64F A650 A651 A652 A653 A654 A655 A656 A657 A658 A659 A65A A65B A65C A65D A65E A65F A660 A661
    A662 A663 A664 A665 A666 A667 A668 A669 A66A A66B A66C A66D A680 A681 A682 A683 A684 A685 A686
    A687 A688 A689 A68A A68B A68C A68D A68E A68F A690 A691 A692 A693 A694 A695 A696 A697 A698 A699
    A69A A69B A722 A723 A724 A725 A726 A727 A728 A729 A72A A72B A72C A72D A72E A72F A732 A733 A734
    A735 A736 A737 A738 A739 A73A A73B A73C A73D A73E A73F A740 A741 A742 A743 A744 A745 A746 A747
    A748 A749 A74A A74B A74C A74D A74E A74F A750 A751 A752 A753 A754 A755 A756 A757 A758 A759 A75A
    A75B A75C A75D A75E A75F A760 A761 A762 A763 A764 A765 A766 A767 A768 A769 A76A A76B A76C A76D
    A76E A76F A779 A77A A77B A77C A77D A77F A780 A781 A782 A783 A784 A785 A786 A787 A78B A78C A78D
    A78E A790 A791 A792 A793 A796 A797 A798 A799 A79A A79B A79C A79D A79E A79F A7A0 A7A1 A7A2 A7A3
    A7A4 A7A5 A7A6 A7A7 A7A8 A7A9 A7AA A7AF A7B0 A7B5 A7B6 A7B7 A7B8 A7B9 A7BA A7BB A7BC A7BD A7BE
    A7BF A7C0 A7C1 A7C2 A7C3 A7C4 A7C8 A7C9 A7CA A7D0 A7D1 A7D6 A7D7 A7D8 A7D9 A7F5 A7F6 FF21 FF3B
    10400 10428 104B0 104D4 10570 1057B 1057C 1058B 1058C 10593 10594 10596 10C80 10CB3 118A0
    118C0 16E40 16E60 1E900 1E922"),
  (["changeswhentitlecased", "cwt"], CodeSet.ofText "
    61 7B B5 B6 DF F7 F8 100 101 102 103 104 105 106 107 108 109 10A 10B 10C 10D 10E 10F 110 111
    112 113 114 115 116 117 118 119 11A 11B 11C 11D 11E 11F 120 121 122 123 124 125 126 127 128
    129 12A 12B 12C 12D 12E 12F 130 131 132 133 134 135 136 137 138 13A 13B 13C 13D 13E 13F 140
    141 142 143 144 145 146 147 148 14A 14B 14C 14D 14E 14F 150 151 152 153 154 155 156 157 158
    159 15A 15B 15C 15D 15E 15F 160 161 162 163 164 165 166 167 168 169 16A 16B 16C 16D 16E 16F
    170 171 172 173 174 175 176 177 178 17A 17B 17C 17D 17E 181 183 184 185 186 188 189 18C 18D
    192 193 195 196 199 19B 19E 19F 1A1 1A2 1A3 1A4 1A5 1A6 1A8 1A9 1AD 1AE 1B0 1B1 1B4 1B5 1B6
    1B7 1B9 1BA 1BD 1BE 1BF 1C0 1C4 1C5 1C6 1C8 1C9 1CB 1CC 1CD 1CE 1CF 1D0 1D1 1D2 1D3 1D4 1D5
    1D6 1D7 1D8 1D9 1DA 1DB 1DC 1DE 1DF 1E0 1E1 1E2 1E3 1E4 1E5 1E6 1E7 1E8 1E9 1EA 1EB 1EC 1ED
    1EE 1EF 1F2 1F3 1F4 1F5 1F6 1F9 1FA 1FB 1FC 1FD 1FE 1FF 200 201 202 203 204 205 206 207 208
    209 20A 20B 20C 20D 20E 20F 210 211 212 213 214 215 216 217 218 219 21A 21B 21C 21D 21E 21F
    220 223 224 225 226 227 228 229 22A 22B 22C 22D 22E 22F 230 231 232 233 234 23C 23D 23F 241
    242 243 247 248 249 24A 24B 24C 24D 24E 24F 255 256 258 259 25A 25B 25D 260 262 263 264 265
    267 268 26D 26F 270 271 273 275 276 27D 27E 280 281 282 284 287 28D 292 293 29D 29F 345 346
    371 372 373 374 377 378 37B 37E 390 391 3AC 3CF 3D0 3D2 3D5 3D8 3D9 3DA 3DB 3DC 3DD 3DE 3DF
    3E0 3E1 3E2 3E3 3E4 3E5 3E6 3E7 3E8 3E9 3EA 3EB 3EC 3ED 3EE 3EF 3F4 3F5 3F6 3F8 3F9 3FB 3FC
    430 460 461 462 463 464 465 466 467 468 469 46A 46B 46C 46D 46E 46F 470 471 472 473 474 475
    476 477 478 479 47A 47B 47C 47D 47E 47F 480 481 482 48B 48C 48D 48E 48F 490 491 492 493 494
    495 496 497 498 499 49A 49B 49C 49D 49E 49F 4A0 4A1 4A2 4A3 4A4 4A5 4A6 4A7 4A8 4A9 4AA 4AB
    4AC 4AD 4AE 4AF 4B0 4B1 4B2 4B3 4B4 4B5 4B6 4B7 4B8 4B9 4BA 4BB 4BC 4BD 4BE 4BF 4C0 4C2 4C3
    4C4 4C5 4C6 4C7 4C8 4C9 4CA 4CB 4CC 4CD 4CE 4D0 4D1 4D2 4D3 4D4 4D5 4D6 4D7 4D8 4D9 4DA 4DB
    4DC 4DD 4DE 4DF 4E0 4E1 4E2 4E3 4E4 4E5 4E6 4E7 4E8 4E9 4EA 4EB 4EC 4ED 4EE 4EF 4F0 4F1 4F2
    4F3 4F4 4F5 4F6 4F7 4F8 4F9 4FA 4FB 4FC 4FD 4FE 4FF 500 501 502 503 504 505 506 507 508 509
    50A 50B 50C 50D 50E 50F 510 511 512 513 514 515 516 517 518 519 51A 51B 51C 51D 51E 51F 520
    521 522 523 524 525 526 527 528 529 52A 52B 52C 52D 52E 52F 530 561 588 13F8 13FE 1C80 1C89
    1D79 1D7A 1D7D 1D7E 1D8E 1D8F 1E01 1E02 1E03 1E04 1E05 1E06 1E07 1E08 1E09 1E0A 1E0B 1E0C 1E0D
    1E0E 1E0F 1E10 1E11 1E12 1E13 1E14 1E15 1E16 1E17 1E18 1E19 1E1A 1E1B 1E1C 1E1D 1E1E 1E1F 1E20
    1E21 1E22 1E23 1E24 1E25 1E26 1E27 1E28 1E29 1E2A 1E2B 1E2C 1E2D 1E2E 1E2F 1E30 1E31 1E32 1E33
    1E34 1E35 1E36 1E37 1E38 1E39 1E3A 1E3B 1E3C 1E3D 1E3E 1E3F 1E40 1E41 1E42 1E43 1E44 1E45 1E46
    1E47 1E48 1E49 1E4A 1E4B 1E4C 1E4D 1E4E 1E4F 1E50 1E51 1E52 1E53 1E54 1E55 1E56 1E57 1E58 1E59
    1E5A 1E5B 1E5C 1E5D 1E5E 1E5F 1E60 1E61 1E62 1E63 1E64 1E65 1E66 1E67 1E68 1E69 1E6A 1E6B 1E6C
    1E6D 1E6E 1E6F 1E70 1E71 1E72 1E73 1E74 1E75 1E76 1E77 1E78 1E79 1E7A 1E7B 1E7C 1E7D 1E7E 1E7F
    1E80 1E81 1E82 1E83 1E84 1E85 1E86 1E87 1E88 1E89 1E8A 1E8B 1E8C 1E8D 1E8E 1E8F 1E90 1E91 1E92
    1E93 1E94 1E95 1E9C 1EA1 1EA2 1EA3 1EA4 1EA5 1EA6 1EA7 1EA8 1EA9 1EAA 1EAB 1EAC 1EAD 1EAE 1EAF
    1EB0 1EB1 1EB2 1EB3 1EB4 1EB5 1EB6 1EB7 1EB8 1EB9 1EBA 1EBB 1EBC 1EBD 1EBE 1EBF 1EC0 1EC1 1EC2
    1EC3 1EC4 1EC5 1EC6 1EC7 1EC8 1EC9 1ECA 1ECB 1ECC 1ECD 1ECE 1ECF 1ED0 1ED1 1ED2 1ED3 1ED4 1ED5
    1ED6 1ED7 1ED8 1ED9 1EDA 1EDB 1EDC 1EDD 1EDE 1EDF 1EE0 1EE1 1EE2 1EE3 1EE4 1EE5 1EE6 1EE7 1EE8
    1EE9 1EEA 1EEB 1EEC 1EED 1EEE 1EEF 1EF0 1EF1 1EF2 1EF3 1EF4 1EF5 1EF6 1EF7 1EF8 1EF9 1EFA 1EFB
    1EFC 1EFD 1EFE 1EFF 1F08 1F10 1F16 1F20 1F28 1F30 1F38 1F40 1F46 1F50 1F58 1F60 1F68 1F70 1F7E
    1F80 1F88 1F90 1F98 1FA0 1FA8 1FB0 1FB5 1FB6 1FB8 1FBE 1FBF 1FC2 1FC5 1FC6 1FC8 1FD0 1FD4 1FD6
    1FD8 1FE0 1FE8 1FF2 1FF5 1FF6 1FF8 214E 214F 2170 2180 2184 2185 24D0 24EA 2C30 2C60 2C61 2C62
    2C65 2C67 2C68 2C69 2C6A 2C6B 2C6C 2C6D 2C73 2C74 2C76 2C77 2C81 2C82 2C83 2C84 2C85 2C86 2C87
    2C88 2C89 2C8A 2C8B 2C8C 2C8D 2C8E 2C8F 2C90 2C91 2C92 2C93 2C94 2C95 2C96 2C97 2C98 2C99 2C9A
    2C9B 2C9C 2C9D 2C9E 2C9F 2CA0 2CA1 2CA2 2CA3 2CA4 2CA5 2CA6 2CA7 2CA8 2CA9 2CAA 2CAB 2CAC 2CAD
    2CAE 2CAF 2CB0 2CB1 2CB2 2CB3 2CB4 2CB5 2CB6 2CB7 2CB8 2CB9 2CBA 2CBB 2CBC 2CBD 2CBE 2CBF 2CC0
    2CC1 2CC2 2CC3 2CC4 2CC5 2CC6 2CC7 2CC8 2CC9 2CCA 2CCB 2CCC 2CCD 2CCE 2CCF 2CD0 2CD1 2CD2 2CD3
    2CD4 2CD5 2CD6 2CD7 2CD8 2CD9 2CDA 2CDB 2CDC 2CDD 2CDE 2CDF 2CE0 2CE1 2CE2 2CE3 2CE4 2CEC 2CED
    2CEE 2CEF 2CF3 2CF4 2D00 2D26 2D27 2D28 2D2D 2D2E A641 A642 A643 A644 A645 A646 A647 A648 A649
    A64A A64B A64C A64D A64E A64F A650 A651 A652 A653 A654 A655 A656 A657 A658 A659 A65A A65B A65C
    A65D A65E A65F A660 A661 A662 A663 A664 A665 A666 A667 A668 A669 A66A A66B A66C A66D A66E A681
    A682 A683 A684 A685 A686 A687 A688 A689 A68A A68B A68C A68D A68E A68F A690 A691 A692 A693 A694
    A695 A696 A697 A698 A699 A69A A69B A69C A723 A724 A725 A726 A727 A728 A729 A72A A72B A72C A72D
    A72E A72F A730 A733 A734 A735 A736 A737 A738 A739 A73A A73B A73C A73D A73E A73F A740 A741 A742
    A743 A744 A745 A746 A747 A748 A749 A74A A74B A74C A74D A74E A74F A750 A751 A752 A753 A754 A755
    A756 A757 A758 A759 A75A A75B A75C A75D A75E A75F A760 A761 A762 A763 A764 A765 A766 A767 A768
    A769 A76A A76B A76C A76D A76E A76F A770 A77A A77B A77C A77D A77F A780 A781 A782 A783 A784 A785
    A786 A787 A788 A78C A78D A791 A792 A793 A795 A797 A798 A799 A79A A79B A79C A79D A79E A79F A7A0
    A7A1 A7A2 A7A3 A7A4 A7A5 A7A6 A7A7 A7A8 A7A9 A7AA A7B5 A7B6 A7B7 A7B8 A7B9 A7BA A7BB A7BC A7BD
    A7BE A7BF A7C0 A7C1 A7C2 A7C3 A7C4 A7C8 A7C9 A7CA A7CB A7D1 A7D2 A7D7 A7D8 A7D9 A7DA A7F6 A7F7
    AB53 AB54 AB70 ABC0 FB00 FB07 FB13 FB18 FF41 FF5B 10428 10450 104D8 104FC 10597 105A2 105A3
    105B2 105B3 105BA 105BB 105BD 10CC0 10CF3 118C0 118E0 16E60 16E80 1E922 1E944"),
  (["changeswhenuppercased", "cwu"], CodeSet.ofText "
    61 7B B5 B6 DF F7 F8 100 101 102 103 104 105 106 107 108 109 10A 10B 10C 10D 10E 10F 110 111
    112 113 114 115 116 117 118 119 11A 11B 11C 11D 11E 11F 120 121 122 123 124 125 126 127 128
    129 12A 12B 12C 12D 12E 12F 130 131 132 133 134 135 136 137 138 13A 13B 13C 13D 13E 13F 140
    141 142 143 144 145 146 147 148 14A 14B 14C 14D 14E 14F 150 151 152 153 154 155 156 157 158
    159 15A 15B 15C 15D 15E 15F 160 161 162 163 164 165 166 167 168 169 16A 16B 16C 16D 16E 16F
    170 171 172 173 174 175 176 177 178 17A 17B 17C 17D 17E 181 183 184 185 186 188 189 18C 18D
    192 193 195 196 199 19B 19E 19F 1A1 1A2 1A3 1A4 1A5 1A6 1A8 1A9 1AD 1AE 1B0 1B1 1B4 1B5 1B6
    1B7 1B9 1BA 1BD 1BE 1BF 1C0 1C5 1C7 1C8 1CA 1CB 1CD 1CE 1CF 1D0 1D1 1D2 1D3 1D4 1D5 1D6 1D7
    1D8 1D9 1DA 1DB 1DC 1DE 1DF 1E0 1E1 1E2 1E3 1E4 1E5 1E6 1E7 1E8 1E9 1EA 1EB 1EC 1ED 1EE 1EF
    1F1 1F2 1F4 1F5 1F6 1F9 1FA 1FB 1FC 1FD 1FE 1FF 200 201 202 203 204 205 206 207 208 209 20A
    20B 20C 20D 20E 20F 210 211 212 213 214 215 216 217 218 219 21A 21B 21C 21D 21E 21F 220 223
    224 225 226 227 228 229 22A 22B 22C 22D 22E 22F 230 231 232 233 234 23C 23D 23F 241 242 243
    247 248 249 24A 24B 24C 24D 24E 24F 255 256 258 259 25A 25B 25D 260 262 263 264 265 267 268
    26D 26F 270 271 273 275 276 27D 27E 280 281 282 284 287 28D 292 293 29D 29F 345 346 371 372
    373 374 377 378 37B 37E 390 391 3AC 3CF 3D0 3D2 3D5 3D8 3D9 3DA 3DB 3DC 3DD 3DE 3DF 3E0 3E1
    3E2 3E3 3E4 3E5 3E6 3E7 3E8 3E9 3EA 3EB 3EC 3ED 3EE 3EF 3F4 3F5 3F6 3F8 3F9 3FB 3FC 430 460
    461 462 463 464 465 466 467 468 469 46A 46B 46C 46D 46E 46F 470 471 472 473 474 475 476 477
    478 479 47A 47B 47C 47D 47E 47F 480 481 482 48B 48C 48D 48E 48F 490 491 492 493 494 495 496
    497 498 499 49A 49B 49C 49D 49E 49F 4A0 4A1 4A2 4A3 4A4 4A5 4A6 4A7 4A8 4A9 4AA 4AB 4AC 4AD
    4AE 4AF 4B0 4B1 4B2 4B3 4B4 4B5 4B6 4B7 4B8 4B9 4BA 4BB 4BC 4BD 4BE 4BF 4C0 4C2 4C3 4C4 4C5
    4C6 4C7 4C8 4C9 4CA 4CB 4CC 4CD 4CE 4D0 4D1 4D2 4D3 4D4 4D5 4D6 4D7 4D8 4D9 4DA 4DB 4DC 4DD
    4DE 4DF 4E0 4E1 4E2 4E3 4E4 4E5 4E6 4E7 4E8 4E9 4EA 4EB 4EC 4ED 4EE 4EF 4F0 4F1 4F2 4F3 4F4
    4F5 4F6 4F7 4F8 4F9 4FA 4FB 4FC 4FD 4FE 4FF 500 501 502 503 504 505 506 507 508 509 50A 50B
    50C 50D 50E 50F 510 511 512 513 514 515 516 517 518 519 51A 51B 51C 51D 51E 51F 520 521 522
    523 524 525 526 527 528 529 52A 52B 52C 52D 52E 52F 530 561 588 10D0 10FB 10FD 1100 13F8 13FE
    1C80 1C89 1D79 1D7A 1D7D 1D7E 1D8E 1D8F 1E01 1E02 1E03 1E04 1E05 1E06 1E07 1E08 1E09 1E0A 1E0B
    1E0C 1E0D 1E0E 1E0F 1E10 1E11 1E12 1E13 1E14 1E15 1E16 1E17 1E18 1E19 1E1A 1E1B 1E1C 1E1D 1E1E
    1E1F 1E20 1E21 1E22 1E23 1E24 1E25 1E26 1E27 1E28 1E29 1E2A 1E2B 1E2C 1E2D 1E2E 1E2F 1E30 1E31
    1E32 1E33 1E34 1E35 1E36 1E37 1E38 1E39 1E3A 1E3B 1E3C 1E3D 1E3E 1E3F 1E40 1E41 1E42 1E43 1E44
    1E45 1E46 1E47 1E48 1E49 1E4A 1E4B 1E4C 1E4D 1E4E 1E4F 1E50 1E51 1E52 1E53 1E54 1E55 1E56 1E57
    1E58 1E59 1E5A 1E5B 1E5C 1E5D 1E5E 1E5F 1E60 1E61 1E62 1E63 1E64 1E65 1E66 1E67 1E68 1E69 1E6A
    1E6B 1E6C 1E6D 1E6E 1E6F 1E70 1E71 1E72 1E73 1E74 1E75 1E76 1E77 1E78 1E79 1E7A 1E7B 1E7C 1E7D
    1E7E 1E7F 1E80 1E81 1E82 1E83 1E84 1E85 1E86 1E87 1E88 1E89 1E8A 1E8B 1E8C 1E8D 1E8E 1E8F 1E90
    1E91 1E92 1E93 1E94 1E95 1E9C 1EA1 1EA2 1EA3 1EA4 1EA5 1EA6 1EA7 1EA8 1EA9 1EAA 1EAB 1EAC 1EAD
    1EAE 1EAF 1EB0 1EB1 1EB2 1EB3 1EB4 1EB5 1EB6 1EB7 1EB8 1EB9 1EBA 1EBB 1EBC 1EBD 1EBE 1EBF 1EC0
    1EC1 1EC2 1EC3 1EC4 1EC5 1EC6 1EC7 1EC8 1EC9 1ECA 1ECB 1ECC 1ECD 1ECE 1ECF 1ED0 1ED1 1ED2 1ED3
    1ED4 1ED5 1ED6 1ED7 1ED8 1ED9 1EDA 1EDB 1EDC 1EDD 1EDE 1EDF 1EE0 1EE1 1EE2 1EE3 1EE4 1EE5 1EE6
    1EE7 1EE8 1EE9 1EEA 1EEB 1EEC 1EED 1EEE 1EEF 1EF0 1EF1 1EF2 1EF3 1EF4 1EF5 1EF6 1EF7 1EF8 1EF9
    1EFA 1EFB 1EFC 1EFD 1EFE 1EFF 1F08 1F10 1F16 1F20 1F28 1F30 1F38 1F40 1F46 1F50 1F58 1F60 1F68
    1F70 1F7E 1F80 1FB5 1FB6 1FB8 1FBC 1FBD 1FBE 1FBF 1FC2 1FC5 1FC6 1FC8 1FCC 1FCD 1FD0 1FD4 1FD6
    1FD8 1FE0 1FE8 1FF2 1FF5 1FF6 1FF8 1FFC 1FFD 214E 214F 2170 2180 2184 2185 24D0 24EA 2C30 2C60
    2C61 2C62 2C65 2C67 2C68 2C69 2C6A 2C6B 2C6C 2C6D 2C73 2C74 2C76 2C77 2C81 2C82 2C83 2C84 2C85
    2C86 2C87 2C88 2C89 2C8A 2C8B 2C8C 2C8D 2C8E 2C8F 2C90 2C91 2C92 2C93 2C94 2C95 2C96 2C97 2C98
    2C99 2C9A 2C9B 2C9C 2C9D 2C9E 2C9F 2CA0 2CA1 2CA2 2CA3 2CA4 2CA5 2CA6 2CA7 2CA8 2CA9 2CAA 2CAB
    2CAC 2CAD 2CAE 2CAF 2CB0 2CB1 2CB2 2CB3 2CB4 2CB5 2CB6 2CB7 2CB8 2CB9 2CBA 2CBB 2CBC 2CBD 2CBE
    2CBF 2CC0 2CC1 2CC2 2CC3 2CC4 2CC5 2CC6 2CC7 2CC8 2CC9 2CCA 2CCB 2CCC 2CCD 2CCE 2CCF 2CD0 2CD1
    2CD2 2CD3 2CD4 2CD5 2CD6 2CD7 2CD8 2CD9 2CDA 2CDB 2CDC 2CDD 2CDE 2CDF 2CE0 2CE1 2CE2 2CE3 2CE4
    2CEC 2CED 2CEE 2CEF 2CF3 2CF4 2D00 2D26 2D27 2D28 2D2D 2D2E A641 A642 A643 A644 A645 A646 A647
    A648 A649 A64A A64B A64C A64D A64E A64F A650 A651 A652 A653 A654 A655 A656 A657 A658 A659 A65A
    A65B A65C A65D A65E A65F A660 A661 A662 A663 A664 A665 A666 A667 A668 A669 A66A A66B A66C A66D
    A66E A681 A682 A683 A684 A685 A686 A687 A688 A689 A68A A68B A68C A68D A68E A68F A690 A691 A692
    A693 A694 A695 A696 A697 A698 A699 A69A A69B A69C A723 A724 A725 A726 A727 A728 A729 A72A A72B
    A72C A72D A72E A72F A730 A733 A734 A735 A736 A737 A738 A739 A73A A73B A73C A73D A73E A73F A740
    A741 A742 A743 A744 A745 A746 A747 A748 A749 A74A A74B A74C A74D A74E A74F A750 A751 A752 A753
    A754 A755 A756 A757 A758 A759 A75A A75B A75C A75D A75E A75F A760 A761 A762 A763 A764 A765 A766
    A767 A768 A769 A76A A76B A76C A76D A76E A76F A770 A77A A77B A77C A77D A77F A780 A781 A782 A783
    A784 A785 A786 A787 A788 A78C A78D A791 A792 A793 A795 A797 A798 A799 A79A A79B A79C A79D A79E
    A79F A7A0 A7A1 A7A2 A7A3 A7A4 A7A5 A7A6 A7A7 A7A8 A7A9 A7AA A7B5 A7B6 A7B7 A7B8 A7B9 A7BA A7BB
    A7BC A7BD A7BE A7BF A7C0 A7C1 A7C2 A7C3 A7C4 A7C8 A7C9 A7CA A7CB A7D1 A7D2 A7D7 A7D8 A7D9 A7DA
    A7F6 A7F7 AB53 AB54 AB70 ABC0 FB00 FB07 FB13 FB18 FF41 FF5B 10428 10450 104D8 104FC 10597
    105A2 105A3 105B2 105B3 105BA 105BB 105BD 10CC0 10CF3 118C0 118E0 16E60 16E80 1E922 1E944"),
  (["dash"], CodeSet.ofText "
    2D 2E 58A 58B 5BE 5BF 1400 1401 1806 1807 2010 2016 2053 2054 207B 207C 208B 208C 2212 2213
    2E17 2E18 2E1A 2E1B 2E3A 2E3C 2E40 2E41 2E5D 2E5E 301C 301D 3030 3031 30A0 30A1 FE31 FE33 FE58
    FE59 FE63 FE64 FF0D FF0E 10EAD 10EAE"),
  (["defaultignorablecodepoint", "di"], CodeSet.ofText "
    AD AE 34F 350 61C 61D 115F 1161 17B4 17B6 180B 1810 200B 2010 202A 202F 2060 2070 3164 3165
    FE00 FE10 FEFF FF00 FFA0 FFA1 FFF0 FFF9 1BCA0 1BCA4 1D173 1D17B E0000 E1000"),
  (["dep", "deprecated"], CodeSet.ofText "
    149 14A 673 674 F77 F78 F79 F7A 17A3 17A5 206A 2070 2329 232B E0001 E0002"),
  (["dia", "diacritic"], CodeSet.ofText "
    5E 5F 60 61 A8 A9 AF B0 B4 B5 B7 B9 2B0 34F 350 358 35D 363 374 376 37A 37B 384 386 483 488
    559 55A 591 5A2 5A3 5BE 5BF 5C0 5C1 5C3 5C4 5C5 64B 653 657 659 6DF 6E1 6E5 6E7 6EA 6ED 730
    74B 7A6 7B1 7EB 7F6 818 81A 898 8A0 8C9 8D3 8E3 8FF 93C 93D 94D 94E 951 955 971 972 9BC 9BD
    9CD 9CE A3C A3D A4D A4E ABC ABD ACD ACE AFD B00 B3C B3D B4D B4E B55 B56 BCD BCE C3C C3D C4D
    C4E CBC CBD CCD CCE D3B D3D D4D D4E DCA DCB E47 E4D E4E E4F EBA EBB EC8 ECD F18 F1A F35 F36
    F37 F38 F39 F3A F3E F40 F82 F85 F86 F88 FC6 FC7 1037 1038 1039 103B 1063 1065 1069 106E 1087
    108E 108F 1090 109A 109C 135D 1360 1714 1716 17C9 17D4 17DD 17DE 1939 193C 1A75 1A7D 1A7F 1A80
    1AB0 1ABF 1AC1 1ACC 1B34 1B35 1B44 1B45 1B6B 1B74 1BAA 1BAC 1C36 1C38 1C78 1C7E 1CD0 1CE9 1CED
    1CEE 1CF4 1CF5 1CF7 1CFA 1D2C 1D6B 1DC4 1DD0 1DF5 1E00 1FBD 1FBE 1FBF 1FC2 1FCD 1FD0 1FDD 1FE0
    1FED 1FF0 1FFD 1FFF 2CEF 2CF2 2E2F 2E30 302A 3030 3099 309D 30FC 30FD A66F A670 A67C A67E A67F
    A680 A69C A69E A6F0 A6F2 A700 A722 A788 A78B A7F8 A7FA A8C4 A8C5 A8E0 A8F2 A92B A92F A953 A954
    A9B3 A9B4 A9C0 A9C1 A9E5 A9E6 AA7B AA7E AABF AAC3 AAF6 AAF7 AB5B AB60 AB69 AB6C ABEC ABEE FB1E
    FB1F FE20 FE30 FF3E FF3F FF40 FF41 FF70 FF71 FF9E FFA0 FFE3 FFE4 102E0 102E1 10780 10786 10787
    107B1 107B2 107BB 10AE5 10AE7 10D22 10D28 10EFD 10F00 10F46 10F51 10F82 10F86 11046 11047
    11070 11071 110B9 110BB 11133 11135 11173 11174 111C0 111C1 111CA 111CD 11235 11237 112E9
    112EB 1133C 1133D 1134D 1134E 11366 1136D 11370 11375 11442 11443 11446 11447 114C2 114C4
    115BF 115C1 1163F 11640 116B6 116B8 1172B 1172C 11839 1183B 1193D 1193F 11943 11944 119E0
    119E1 11A34 11A35 11A47 11A48 11A99 11A9A 11C3F 11C40 11D42 11D43 11D44 11D46 11D97 11D98
    13447 13456 16AF0 16AF5 16B30 16B37 16F8F 16FA0 16FF0 16FF2 1AFF0 1AFF4 1AFF5 1AFFC 1AFFD
    1AFFF 1CF00 1CF2E 1CF30 1CF47 1D167 1D16A 1D16D 1D173 1D17B 1D183 1D185 1D18C 1D1AA 1D1AE
    1E030 1E06E 1E130 1E137 1E2AE 1E2AF 1E2EC 1E2F0 1E8D0 1E8D7 1E944 1E947 1E948 1E94B"),
  (["emoji"], CodeSet.ofText "
    23 24 2A 2B 30 3A A9 AA AE AF 203C 203D 2049 204A 2122 2123 2139 213A 2194 219A 21A9 21AB 231A
    231C 2328 2329 23CF 23D0 23E9 23F4 23F8 23FB 24C2 24C3 25AA 25AC 25B6 25B7 25C0 25C1 25FB 25FF
    2600 2605 260E 260F 2611 2612 2614 2616 2618 2619 261D 261E 2620 2621 2622 2624 2626 2627 262A
    262B 262E 2630 2638 263B 2640 2641 2642 2643 2648 2654 265F 2661 2663 2664 2665 2667 2668 2669
    267B 267C 267E 2680 2692 2698 2699 269A 269B 269D 26A0 26A2 26A7 26A8 26AA 26AC 26B0 26B2 26BD
    26BF 26C4 26C6 26C8 26C9 26CE 26D0 26D1 26D2 26D3 26D5 26E9 26EB 26F0 26F6 26F7 26FB 26FD 26FE
    2702 2703 2705 2706 2708 270E 270F 2710 2712 2713 2714 2715 2716 2717 271D 271E 2721 2722 2728
    2729 2733 2735 2744 2745 2747 2748 274C 274D 274E 274F 2753 2756 2757 2758 2763 2765 2795 2798
    27A1 27A2 27B0 27B1 27BF 27C0 2934 2936 2B05 2B08 2B1B 2B1D 2B50 2B51 2B55 2B56 3030 3031 303D
    303E 3297 3298 3299 329A 1F004 1F005 1F0CF 1F0D0 1F170 1F172 1F17E 1F180 1F18E 1F18F 1F191
    1F19B 1F1E6 1F200 1F201 1F203 1F21A 1F21B 1F22F 1F230 1F232 1F23B 1F250 1F252 1F300 1F322
    1F324 1F394 1F396 1F398 1F399 1F39C 1F39E 1F3F1 1F3F3 1F3F6 1F3F7 1F4FE 1F4FF 1F53E 1F549
    1F54F 1F550 1F568 1F56F 1F571 1F573 1F57B 1F587 1F588 1F58A 1F58E 1F590 1F591 1F595 1F597
    1F5A4 1F5A6 1F5A8 1F5A9 1F5B1 1F5B3 1F5BC 1F5BD 1F5C2 1F5C5 1F5D1 1F5D4 1F5DC 1F5DF 1F5E1
    1F5E2 1F5E3 1F5E4 1F5E8 1F5E9 1F5EF 1F5F0 1F5F3 1F5F4 1F5FA 1F650 1F680 1F6C6 1F6CB 1F6D3
    1F6D5 1F6D8 1F6DC 1F6E6 1F6E9 1F6EA 1F6EB 1F6ED 1F6F0 1F6F1 1F6F3 1F6FD 1F7E0 1F7EC 1F7F0
    1F7F1 1F90C 1F93B 1F93C 1F946 1F947 1FA00 1FA70 1FA7D 1FA80 1FA89 1FA90 1FABE 1FABF 1FAC6
    1FACE 1FADC 1FAE0 1FAE9 1FAF0 1FAF9"),
  (["ecomp", "emojicomponent"], CodeSet.ofText "
    23 24 2A 2B 30 3A 200D 200E 20E3 20E4 FE0F FE10 1F1E6 1F200 1F3FB 1F400 1F9B0 1F9B4 E0020
    E0080"),
  (["emod", "emojimodifier"], CodeSet.ofText "
    1F3FB 1F400"),
  (["ebase", "emojimodifierbase"], CodeSet.ofText "
    261D 261E 26F9 26FA 270A 270E 1F385 1F386 1F3C2 1F3C5 1F3C7 1F3C8 1F3CA 1F3CD 1F442 1F444
    1F446 1F451 1F466 1F479 1F47C 1F47D 1F481 1F484 1F485 1F488 1F48F 1F490 1F491 1F492 1F4AA
    1F4AB 1F574 1F576 1F57A 1F57B 1F590 1F591 1F595 1F597 1F645 1F648 1F64B 1F650 1F6A3 1F6A4
    1F6B4 1F6B7 1F6C0 1F6C1 1F6CC 1F6CD 1F90C 1F90D 1F90F 1F910 1F918 1F920 1F926 1F927 1F930
    1F93A 1F93C 1F93F 1F977 1F978 1F9B5 1F9B7 1F9B8 1F9BA 1F9BB 1F9BC 1F9CD 1F9D0 1F9D1 1F9DE
    1FAC3 1FAC6 1FAF0 1FAF9"),
  (["emojipresentation", "epres"], CodeSet.ofText "
    231A 231C 23E9 23ED 23F0 23F1 23F3 23F4 25FD 25FF 2614 2616 2648 2654 267F 2680 2693 2694 26A1
    26A2 26AA 26AC 26BD 26BF 26C4 26C6 26CE 26CF 26D4 26D5 26EA 26EB 26F2 26F4 26F5 26F6 26FA 26FB
    26FD 26FE 2705 2706 270A 270C 2728 2729 274C 274D 274E 274F 2753 2756 2757 2758 2795 2798 27B0
    27B1 27BF 27C0 2B1B 2B1D 2B50 2B51 2B55 2B56 1F004 1F005 1F0CF 1F0D0 1F18E 1F18F 1F191 1F19B
    1F1E6 1F200 1F201 1F202 1F21A 1F21B 1F22F 1F230 1F232 1F237 1F238 1F23B 1F250 1F252 1F300
    1F321 1F32D 1F336 1F337 1F37D 1F37E 1F394 1F3A0 1F3CB 1F3CF 1F3D4 1F3E0 1F3F1 1F3F4 1F3F5
    1F3F8 1F43F 1F440 1F441 1F442 1F4FD 1F4FF 1F53E 1F54B 1F54F 1F550 1F568 1F57A 1F57B 1F595
    1F597 1F5A4 1F5A5 1F5FB 1F650 1F680 1F6C6 1F6CC 1F6CD 1F6D0 1F6D3 1F6D5 1F6D8 1F6DC 1F6E0
    1F6EB 1F6ED 1F6F4 1F6FD 1F7E0 1F7EC 1F7F0 1F7F1 1F90C 1F93B 1F93C 1F946 1F947 1FA00 1FA70
    1FA7D 1FA80 1FA89 1FA90 1FABE 1FABF 1FAC6 1FACE 1FADC 1FAE0 1FAE9 1FAF0 1FAF9"),
  (["extendedpictographic", "extpict"], CodeSet.ofText "
    A9 AA AE AF 203C 203D 2049 204A 2122 2123 2139 213A 2194 219A 21A9 21AB 231A 231C 2328 2329
    2388 2389 23CF 23D0 23E9 23F4 23F8 23FB 24C2 24C3 25AA 25AC 25B6 25B7 25C0 25C1 25FB 25FF 2600
    2606 2607 2613 2614 2686 2690 2706 2708 2713 2714 2715 2716 2717 271D 271E 2721 2722 2728 2729
    2733 2735 2744 2745 2747 2748 274C 274D 274E 274F 2753 2756 2757 2758 2763 2768 2795 2798 27A1
    27A2 27B0 27B1 27BF 27C0 2934 2936 2B05 2B08 2B1B 2B1D 2B50 2B51 2B55 2B56 3030 3031 303D 303E
    3297 3298 3299 329A 1F000 1F100 1F10D 1F110 1F12F 1F130 1F16C 1F172 1F17E 1F180 1F18E 1F18F
    1F191 1F19B 1F1AD 1F1E6 1F201 1F210 1F21A 1F21B 1F22F 1F230 1F232 1F23B 1F23C 1F240 1F249
    1F3FB 1F400 1F53E 1F546 1F650 1F680 1F700 1F774 1F780 1F7D5 1F800 1F80C 1F810 1F848 1F850
    1F85A 1F860 1F888 1F890 1F8AE 1F900 1F90C 1F93B 1F93C 1F946 1F947 1FB00 1FC00 1FFFE"),
  (["ext", "extender"], CodeSet.ofText "
    B7 B8 2D0 2D2 640 641 7FA 7FB B55 B56 E46 E47 EC6 EC7 180A 180B 1843 1844 1AA7 1AA8 1C36 1C37
    1C7B 1C7C 3005 3006 3031 3036 309D 309F 30FC 30FF A015 A016 A60C A60D A9CF A9D0 A9E6 A9E7 AA70
    AA71 AADD AADE AAF3 AAF5 FF70 FF71 10781 10783 1135D 1135E 115C6 115C9 11A98 11A99 16B42 16B44
    16FE0 16FE2 16FE3 16FE4 1E13C 1E13E 1E944 1E947"),
  (["graphemebase", "grbase"], CodeSet.ofText "
    20 7F A0 AD AE 300 370 378 37A 380 384 38B 38C 38D 38E 3A2 3A3 483 48A 530 531 557 559 58B 58D
    590 5BE 5BF 5C0 5C1 5C3 5C4 5C6 5C7 5D0 5EB 5EF 5F5 606 610 61B 61C 61D 64B 660 670 671 6D6
    6DE 6DF 6E5 6E7 6E9 6EA 6EE 70E 710 711 712 730 74D 7A6 7B1 7B2 7C0 7EB 7F4 7FB 7FE 816 81A
    81B 824 825 828 829 830 83F 840 859 85E 85F 860 86B 870 88F 8A0 8CA 903 93A 93B 93C 93D 941
    949 94D 94E 951 958 962 964 981 982 984 985 98D 98F 991 993 9A9 9AA 9B1 9B2 9B3 9B6 9BA 9BD
    9BE 9BF 9C1 9C7 9C9 9CB 9CD 9CE 9CF 9DC 9DE 9DF 9E2 9E6 9FE A03 A04 A05 A0B A0F A11 A13 A29
    A2A A31 A32 A34 A35 A37 A38 A3A A3E A41 A59 A5D A5E A5F A66 A70 A72 A75 A76 A77 A83 A84 A85
    A8E A8F A92 A93 AA9 AAA AB1 AB2 AB4 AB5 ABA ABD AC1 AC9 ACA ACB ACD AD0 AD1 AE0 AE2 AE6 AF2
    AF9 AFA B02 B04 B05 B0D B0F B11 B13 B29 B2A B31 B32 B34 B35 B3A B3D B3E B40 B41 B47 B49 B4B
    B4D B5C B5E B5F B62 B66 B78 B83 B84 B85 B8B B8E B91 B92 B96 B99 B9B B9C B9D B9E BA0 BA3 BA5
    BA8 BAB BAE BBA BBF BC0 BC1 BC3 BC6 BC9 BCA BCD BD0 BD1 BE6 BFB C01 C04 C05 C0D C0E C11 C12
    C29 C2A C3A C3D C3E C41 C45 C58 C5B C5D C5E C60 C62 C66 C70 C77 C81 C82 C8D C8E C91 C92 CA9
    CAA CB4 CB5 CBA CBD CBF CC0 CC2 CC3 CC5 CC7 CC9 CCA CCC CDD CDF CE0 CE2 CE6 CF0 CF1 CF4 D02
    D0D D0E D11 D12 D3B D3D D3E D3F D41 D46 D49 D4A D4D D4E D50 D54 D57 D58 D62 D66 D80 D82 D84
    D85 D97 D9A DB2 DB3 DBC DBD DBE DC0 DC7 DD0 DD2 DD8 DDF DE6 DF0 DF2 DF5 E01 E31 E32 E34 E3F
    E47 E4F E5C E81 E83 E84 E85 E86 E8B E8C EA4 EA5 EA6 EA7 EB1 EB2 EB4 EBD EBE EC0 EC5 EC6 EC7
    ED0 EDA EDC EE0 F00 F18 F1A F35 F36 F37 F38 F39 F3A F48 F49 F6D F7F F80 F85 F86 F88 F8D FBE
    FC6 FC7 FCD FCE FDB 1000 102D 1031 1032 1038 1039 103B 103D 103F 1058 105A 105E 1061 1071 1075
    1082 1083 1085 1087 108D 108E 109D 109E 10C6 10C7 10C8 10CD 10CE 10D0 1249 124A 124E 1250 1257
    1258 1259 125A 125E 1260 1289 128A 128E 1290 12B1 12B2 12B6 12B8 12BF 12C0 12C1 12C2 12C6 12C8
    12D7 12D8 1311 1312 1316 1318 135B 1360 137D 1380 139A 13A0 13F6 13F8 13FE 1400 169D 16A0 16F9
    1700 1712 1715 1716 171F 1732 1734 1737 1740 1752 1760 176D 176E 1771 1780 17B4 17B6 17B7 17BE
    17C6 17C7 17C9 17D4 17DD 17E0 17EA 17F0 17FA 1800 180B 1810 181A 1820 1879 1880 1885 1887 18A9
    18AA 18AB 18B0 18F6 1900 191F 1923 1927 1929 192C 1930 1932 1933 1939 1940 1941 1944 196E 1970
    1975 1980 19AC 19B0 19CA 19D0 19DB 19DE 1A17 1A19 1A1B 1A1E 1A56 1A57 1A58 1A61 1A62 1A63 1A65
    1A6D 1A73 1A80 1A8A 1A90 1A9A 1AA0 1AAE 1B04 1B34 1B3B 1B3C 1B3D 1B42 1B43 1B4D 1B50 1B6B 1B74
    1B7F 1B82 1BA2 1BA6 1BA8 1BAA 1BAB 1BAE 1BE6 1BE7 1BE8 1BEA 1BED 1BEE 1BEF 1BF2 1BF4 1BFC 1C2C
    1C34 1C36 1C3B 1C4A 1C4D 1C89 1C90 1CBB 1CBD 1CC8 1CD3 1CD4 1CE1 1CE2 1CE9 1CED 1CEE 1CF4 1CF5
    1CF8 1CFA 1CFB 1D00 1DC0 1E00 1F16 1F18 1F1E 1F20 1F46 1F48 1F4E 1F50 1F58 1F59 1F5A 1F5B 1F5C
    1F5D 1F5E 1F5F 1F7E 1F80 1FB5 1FB6 1FC5 1FC6 1FD4 1FD6 1FDC 1FDD 1FF0 1FF2 1FF5 1FF6 1FFF 2000
    200B 2010 2028 202F 2060 2070 2072 2074 208F 2090 209D 20A0 20C1 2100 218C 2190 2427 2440 244B
    2460 2B74 2B76 2B96 2B97 2CEF 2CF2 2CF4 2CF9 2D26 2D27 2D28 2D2D 2D2E 2D30 2D68 2D6F 2D71 2D80
    2D97 2DA0 2DA7 2DA8 2DAF 2DB0 2DB7 2DB8 2DBF 2DC0 2DC7 2DC8 2DCF 2DD0 2DD7 2DD8 2DDF 2E00 2E5E
    2E80 2E9A 2E9B 2EF4 2F00 2FD6 2FF0 2FFC 3000 302A 3030 3040 3041 3097 309B 3100 3105 3130 3131
    318F 3190 31E4 31F0 321F 3220 A48D A490 A4C7 A4D0 A62C A640 A66F A673 A674 A67E A69E A6A0 A6F0
    A6F2 A6F8 A700 A7CB A7D0 A7D2 A7D3 A7D4 A7D5 A7DA A7F2 A802 A803 A806 A807 A80B A80C A825 A827
    A82C A830 A83A A840 A878 A880 A8C4 A8CE A8DA A8F2 A8FF A900 A926 A92E A947 A952 A954 A95F A97D
    A983 A9B3 A9B4 A9B6 A9BA A9BC A9BE A9CE A9CF A9DA A9DE A9E5 A9E6 A9FF AA00 AA29 AA2F AA31 AA33
    AA35 AA40 AA43 AA44 AA4C AA4D AA4E AA50 AA5A AA5C AA7C AA7D AAB0 AAB1 AAB2 AAB5 AAB7 AAB9 AABE
    AAC0 AAC1 AAC2 AAC3 AADB AAEC AAEE AAF6 AB01 AB07 AB09 AB0F AB11 AB17 AB20 AB27 AB28 AB2F AB30
    AB6C AB70 ABE5 ABE6 ABE8 ABE9 ABED ABF0 ABFA AC00 D7A4 D7B0 D7C7 D7CB D7FC F900 FA6E FA70 FADA
    FB00 FB07 FB13 FB18 FB1D FB1E FB1F FB37 FB38 FB3D FB3E FB3F FB40 FB42 FB43 FB45 FB46 FBC3 FBD3
    FD90 FD92 FDC8 FDCF FDD0 FDF0 FE00 FE10 FE1A FE30 FE53 FE54 FE67 FE68 FE6C FE70 FE75 FE76 FEFD
    FF01 FF9E FFA0 FFBF FFC2 FFC8 FFCA FFD0 FFD2 FFD8 FFDA FFDD FFE0 FFE7 FFE8 FFEF FFFC FFFE
    10000 1000C 1000D 10027 10028 1003B 1003C 1003E 1003F 1004E 10050 1005E 10080 100FB 10100
    10103 10107 10134 10137 1018F 10190 1019D 101A0 101A1 101D0 101FD 10280 1029D 102A0 102D1
    102E1 102FC 10300 10324 1032D 1034B 10350 10376 10380 1039E 1039F 103C4 103C8 103D6 10400
    1049E 104A0 104AA 104B0 104D4 104D8 104FC 10500 10528 10530 10564 1056F 1057B 1057C 1058B
    1058C 10593 10594 10596 10597 105A2 105A3 105B2 105B3 105BA 105BB 105BD 10600 10737 10740
    10756 10760 10768 10780 10786 10787 107B1 107B2 107BB 10800 10806 10808 10809 1080A 10836
    10837 10839 1083C 1083D 1083F 10856 10857 1089F 108A7 108B0 108E0 108F3 108F4 108F6 108FB
    1091C 1091F 1093A 1093F 10940 10980 109B8 109BC 109D0 109D2 10A01 10A10 10A14 10A15 10A18
    10A19 10A36 10A40 10A49 10A50 10A59 10A60 10AA0 10AC0 10AE5 10AEB 10AF7 10B00 10B36 10B39
    10B56 10B58 10B73 10B78 10B92 10B99 10B9D 10BA9 10BB0 10C00 10C49 10C80 10CB3 10CC0 10CF3
    10CFA 10D24 10D30 10D3A 10E60 10E7F 10E80 10EAA 10EAD 10EAE 10EB0 10EB2 10F00 10F28 10F30
    10F46 10F51 10F5A 10F70 10F82 10F86 10F8A 10FB0 10FCC 10FE0 10FF7 11000 11001 11002 11038
    11047 1104E 11052 11070 11071 11073 11075 11076 11082 110B3 110B7 110B9 110BB 110BD 110BE
    110C2 110D0 110E9 110F0 110FA 11103 11127 1112C 1112D 11136 11148 11150 11173 11174 11177
    11182 111B6 111BF 111C9 111CD 111CF 111D0 111E0 111E1 111F5 11200 11212 11213 1122F 11232
    11234 11235 11236 11238 1123E 1123F 11241 11280 11287 11288 11289 1128A 1128E 1128F 1129E
    1129F 112AA 112B0 112DF 112E0 112E3 112F0 112FA 11302 11304 11305 1130D 1130F 11311 11313
    11329 1132A 11331 11332 11334 11335 1133A 1133D 1133E 1133F 11340 11341 11345 11347 11349
    1134B 1134E 11350 11351 1135D 11364 11400 11438 11440 11442 11445 11446 11447 1145C 1145D
    1145E 1145F 11462 11480 114B0 114B1 114B3 114B9 114BA 114BB 114BD 114BE 114BF 114C1 114C2
    114C4 114C8 114D0 114DA 11580 115AF 115B0 115B2 115B8 115BC 115BE 115BF 115C1 115DC 11600
    11633 1163B 1163D 1163E 1163F 11641 11645 11650 1165A 11660 1166D 11680 116AB 116AC 116AD
    116AE 116B0 116B6 116B7 116B8 116BA 116C0 116CA 11700 1171B 11720 11722 11726 11727 11730
    11747 11800 1182F 11838 11839 1183B 1183C 118A0 118F3 118FF 11907 11909 1190A 1190C 11914
    11915 11917 11918 11930 11931 11936 11937 11939 1193D 1193E 1193F 11943 11944 11947 11950
    1195A 119A0 119A8 119AA 119D4 119DC 119E0 119E1 119E5 11A00 11A01 11A0B 11A33 11A39 11A3B
    11A3F 11A47 11A50 11A51 11A57 11A59 11A5C 11A8A 11A97 11A98 11A9A 11AA3 11AB0 11AF9 11B00
    11B0A 11C00 11C09 11C0A 11C30 11C3E 11C3F 11C40 11C46 11C50 11C6D 11C70 11C90 11CA9 11CAA
    11CB1 11CB2 11CB4 11CB5 11D00 11D07 11D08 11D0A 11D0B 11D31 11D46 11D47 11D50 11D5A 11D60
    11D66 11D67 11D69 11D6A 11D8F 11D93 11D95 11D96 11D97 11D98 11D99 11DA0 11DAA 11EE0 11EF3
    11EF5 11EF9 11F02 11F11 11F12 11F36 11F3E 11F40 11F41 11F42 11F43 11F5A 11FB0 11FB1 11FC0
    11FF2 11FFF 1239A 12400 1246F 12470 12475 12480 12544 12F90 12FF3 13000 13430 13441 13447
    14400 14647 16800 16A39 16A40 16A5F 16A60 16A6A 16A6E 16ABF 16AC0 16ACA 16AD0 16AEE 16AF5
    16AF6 16B00 16B30 16B37 16B46 16B50 16B5A 16B5B 16B62 16B63 16B78 16B7D 16B90 16E40 16E9B
    16F00 16F4B 16F50 16F88 16F93 16FA0 16FE0 16FE4 16FF0 16FF2 17000 187F8 18800 18CD6 18D00
    18D09 1AFF0 1AFF4 1AFF5 1AFFC 1AFFD 1AFFF 1B000 1B123 1B132 1B133 1B150 1B153 1B155 1B156
    1B164 1B168 1B170 1B2FC 1BC00 1BC6B 1BC70 1BC7D 1BC80 1BC89 1BC90 1BC9A 1BC9C 1BC9D 1BC9F
    1BCA0 1CF50 1CFC4 1D000 1D0F6 1D100 1D127 1D129 1D165 1D166 1D167 1D16A 1D16E 1D183 1D185
    1D18C 1D1AA 1D1AE 1D1EB 1D200 1D242 1D245 1D246 1D2C0 1D2D4 1D2E0 1D2F4 1D300 1D357 1D360
    1D379 1D400 1D455 1D456 1D49D 1D49E 1D4A0 1D4A2 1D4A3 1D4A5 1D4A7 1D4A9 1D4AD 1D4AE 1D4BA
    1D4BB 1D4BC 1D4BD 1D4C4 1D4C5 1D506 1D507 1D50B 1D50D 1D515 1D516 1D51D 1D51E 1D53A 1D53B
    1D53F 1D540 1D545 1D546 1D547 1D54A 1D551 1D552 1D6A6 1D6A8 1D7CC 1D7CE 1DA00 1DA37 1DA3B
    1DA6D 1DA75 1DA76 1DA84 1DA85 1DA8C 1DF00 1DF1F 1DF25 1DF2B 1E030 1E06E 1E100 1E12D 1E137
    1E13E 1E140 1E14A 1E14E 1E150 1E290 1E2AE 1E2C0 1E2EC 1E2F0 1E2FA 1E2FF 1E300 1E4D0 1E4EC
    1E4F0 1E4FA 1E7E0 1E7E7 1E7E8 1E7EC 1E7ED 1E7EF 1E7F0 1E7FF 1E800 1E8C5 1E8C7 1E8D0 1E900
    1E944 1E94B 1E94C 1E950 1E95A 1E95E 1E960 1EC71 1ECB5 1ED01 1ED3E 1EE00 1EE04 1EE05 1EE20
    1EE21 1EE23 1EE24 1EE25 1EE27 1EE28 1EE29 1EE33 1EE34 1EE38 1EE39 1EE3A 1EE3B 1EE3C 1EE42
    1EE43 1EE47 1EE48 1EE49 1EE4A 1EE4B 1EE4C 1EE4D 1EE50 1EE51 1EE53 1EE54 1EE55 1EE57 1EE58
    1EE59 1EE5A 1EE5B 1EE5C 1EE5D 1EE5E 1EE5F 1EE60 1EE61 1EE63 1EE64 1EE65 1EE67 1EE6B 1EE6C
    1EE73 1EE74 1EE78 1EE79 1EE7D 1EE7E 1EE7F 1EE80 1EE8A 1EE8B 1EE9C 1EEA1 1EEA4 1EEA5 1EEAA
    1EEAB 1EEBC 1EEF0 1EEF2 1F000 1F02C 1F030 1F094 1F0A0 1F0AF 1F0B1 1F0C0 1F0C1 1F0D0 1F0D1
    1F0F6 1F100 1F1AE 1F1E6 1F203 1F210 1F23C 1F240 1F249 1F250 1F252 1F260 1F266 1F300 1F6D8
    1F6DC 1F6ED 1F6F0 1F6FD 1F700 1F777 1F77B 1F7DA 1F7E0 1F7EC 1F7F0 1F7F1 1F800 1F80C 1F810
    1F848 1F850 1F85A 1F860 1F888 1F890 1F8AE 1F8B0 1F8B2 1F900 1FA54 1FA60 1FA6E 1FA70 1FA7D
    1FA80 1FA89 1FA90 1FABE 1FABF 1FAC6 1FACE 1FADC 1FAE0 1FAE9 1FAF0 1FAF9 1FB00 1FB93 1FB94
    1FBCB 1FBF0 1FBFA 20000 2A6E0 2A700 2B73A 2B740 2B81E 2B820 2CEA2 2CEB0 2EBE1 2F800 2FA1E
    30000 3134B 31350 323B0"),
  (["graphemeextend", "grext"], CodeSet.ofText "
    300 370 483 48A 591 5BE 5BF 5C0 5C1 5C3 5C4 5C6 5C7 5C8 610 61B 64B 660 670 671 6D6 6DD 6DF
    6E5 6E7 6E9 6EA 6EE 711 712 730 74B 7A6 7B1 7EB 7F4 7FD 7FE 816 81A 81B 824 825 828 829 82E
    859 85C 897 8A0 8CA 8E2 8E3 903 93A 93B 93C 93D 941 949 94D 94E 951 958 962 964 981 982 9BC
    9BD 9BE 9BF 9C1 9C5 9CD 9CE 9D7 9D8 9E2 9E4 9FE 9FF A01 A03 A3C A3D A41 A43 A47 A49 A4B A4E
    A51 A52 A70 A72 A75 A76 A81 A83 ABC ABD AC1 AC6 AC7 AC9 ACD ACE AE2 AE4 AFA B00 B01 B02 B3C
    B3D B3E B40 B41 B45 B4D B4E B55 B58 B62 B64 B82 B83 BBE BBF BC0 BC1 BCD BCE BD7 BD8 C00 C01
    C04 C05 C3C C3D C3E C41 C46 C49 C4A C4E C55 C57 C62 C64 C81 C82 CBC CBD CBF CC1 CC2 CC3 CC6
    CC9 CCA CCE CD5 CD7 CE2 CE4 D00 D02 D3B D3D D3E D3F D41 D45 D4D D4E D57 D58 D62 D64 D81 D82
    DCA DCB DCF DD0 DD2 DD5 DD6 DD7 DDF DE0 E31 E32 E34 E3B E47 E4F EB1 EB2 EB4 EBD EC8 ECF F18
    F1A F35 F36 F37 F38 F39 F3A F71 F7F F80 F85 F86 F88 F8D F98 F99 FBD FC6 FC7 102D 1031 1032
    1038 1039 103B 103D 103F 1058 105A 105E 1061 1071 1075 1082 1083 1085 1087 108D 108E 109D 109E
    135D 1360 1712 1716 1732 1735 1752 1754 1772 1774 17B4 17B6 17B7 17BE 17C6 17C7 17C9 17D4 17DD
    17DE 180B 180E 180F 1810 1885 1887 18A9 18AA 1920 1923 1927 1929 1932 1933 1939 193C 1A17 1A19
    1A1B 1A1C 1A56 1A57 1A58 1A5F 1A60 1A61 1A62 1A63 1A65 1A6D 1A73 1A7D 1A7F 1A80 1AB0 1ACF 1B00
    1B04 1B34 1B3E 1B42 1B45 1B6B 1B74 1B80 1B82 1BA2 1BA6 1BA8 1BAE 1BE6 1BE7 1BE8 1BEA 1BED 1BEE
    1BEF 1BF4 1C2C 1C34 1C36 1C38 1CD0 1CD3 1CD4 1CE1 1CE2 1CE9 1CED 1CEE 1CF4 1CF5 1CF8 1CFA 1DC0
    1E00 200C 200D 20D0 20F1 2CEF 2CF2 2D7F 2D80 2DE0 2E00 302A 3030 3099 309B A66F A673 A674 A67E
    A69E A6A0 A6F0 A6F2 A802 A803 A806 A807 A80B A80C A825 A827 A82C A82D A8C4 A8C6 A8E0 A8F2 A8FF
    A900 A926 A92E A947 A952 A953 A954 A980 A983 A9B3 A9B4 A9B6 A9BA A9BC A9BE A9C0 A9C1 A9E5 A9E6
    AA29 AA2F AA31 AA33 AA35 AA37 AA43 AA44 AA4C AA4D AA7C AA7D AAB0 AAB1 AAB2 AAB5 AAB7 AAB9 AABE
    AAC0 AAC1 AAC2 AAEC AAEE AAF6 AAF7 ABE5 ABE6 ABE8 ABE9 ABED ABEE FB1E FB1F FE00 FE10 FE20 FE30
    FF9E FFA0 101FD 101FE 102E0 102E1 10376 1037B 10A01 10A04 10A05 10A07 10A0C 10A10 10A38 10A3B
    10A3F 10A40 10AE5 10AE7 10D24 10D28 10D69 10D6E 10EAB 10EAD 10EFC 10F00 10F46 10F51 10F82
    10F86 11001 11002 11038 11047 11070 11071 11073 11075 1107F 11082 110B3 110B7 110B9 110BB
    110C2 110C3 11100 11103 11127 1112C 1112D 11135 11173 11174 11180 11182 111B6 111BF 111C0
    111C1 111C9 111CD 111CF 111D0 1122F 11232 11234 11238 1123E 1123F 11241 11242 112DF 112E0
    112E3 112EB 11300 11302 1133B 1133D 1133E 1133F 11340 11341 1134D 1134E 11357 11358 11366
    1136D 11370 11375 113B8 113B9 113BB 113C1 113C2 113C3 113C5 113C6 113C7 113CA 113CE 113D1
    113D2 113D3 113E1 113E3 11438 11440 11442 11445 11446 11447 1145E 1145F 114B0 114B1 114B3
    114B9 114BA 114BB 114BD 114BE 114BF 114C1 114C2 114C4 115AF 115B0 115B2 115B6 115BC 115BE
    115BF 115C1 115DC 115DE 11633 1163B 1163D 1163E 1163F 11641 116AB 116AC 116AD 116AE 116B0
    116B8 1171D 11720 11722 11726 11727 1172C 1182F 11838 11839 1183B 11930 11931 1193B 1193F
    11943 11944 119D4 119D8 119DA 119DC 119E0 119E1 11A01 11A0B 11A33 11A39 11A3B 11A3F 11A47
    11A48 11A51 11A57 11A59 11A5C 11A8A 11A97 11A98 11A9A 11C30 11C37 11C38 11C3E 11C3F 11C40
    11C92 11CA8 11CAA 11CB1 11CB2 11CB4 11CB5 11CB7 11D31 11D37 11D3A 11D3B 11D3C 11D3E 11D3F
    11D46 11D47 11D48 11D90 11D92 11D95 11D96 11D97 11D98 11EF3 11EF5 11F00 11F02 11F36 11F3B
    11F40 11F43 11F5A 11F5B 13440 13441 13447 13456 1611E 1612A 1612D 16130 16AF0 16AF5 16B30
    16B37 16F4F 16F50 16F8F 16F93 16FE4 16FE5 16FF0 16FF2 1BC9D 1BC9F 1CF00 1CF2E 1CF30 1CF47
    1D165 1D16A 1D16D 1D173 1D17B 1D183 1D185 1D18C 1D1AA 1D1AE 1D242 1D245 1DA00 1DA37 1DA3B
    1DA6D 1DA75 1DA76 1DA84 1DA85 1DA9B 1DAA0 1DAA1 1DAB0 1E000 1E007 1E008 1E019 1E01B 1E022
    1E023 1E025 1E026 1E02B 1E08F 1E090 1E130 1E137 1E2AE 1E2AF 1E2EC 1E2F0 1E4EC 1E4F0 1E5EE
    1E5F0 1E8D0 1E8D7 1E944 1E94B E0020 E0080 E0100 E01F0"),
  (["hex", "hexdigit"], CodeSet.ofText "
    30 3A 41 47 61 67 FF10 FF1A FF21 FF27 FF41 FF47"),
  (["hyphen"], CodeSet.ofText "
    2D 2E AD AE 58A 58B 1806 1807 2010 2012 2E17 2E18 30FB 30FC FE63 FE64 FF0D FF0E FF65 FF66"),
  (["idsb", "idsbinaryoperator"], CodeSet.ofText "
    2FF0 2FF2 2FF4 2FFC"),
  (["idst", "idstrinaryoperator"], CodeSet.ofText "
    2FF2 2FF4"),
  (["idc", "idcontinue"], CodeSet.ofText "
    30 3A 41 5B 5F 60 61 7B AA AB B5 B6 B7 B8 BA BB C0 D7 D8 F7 F8 2C2 2C6 2D2 2E0 2E5 2EC 2ED 2EE
    2EF 300 375 376 378 37A 37E 37F 380 386 38B 38C 38D 38E 3A2 3A3 3F6 3F7 482 483 488 48A 530
    531 557 559 55A 560 589 591 5BE 5BF 5C0 5C1 5C3 5C4 5C6 5C7 5C8 5D0 5EB 5EF 5F3 610 61B 620
    66A 66E 6D4 6D5 6DD 6DF 6E9 6EA 6FD 6FF 700 710 74B 74D 7B2 7C0 7F6 7FA 7FB 7FD 7FE 800 82E
    840 85C 860 86B 870 888 889 88F 897 8E2 8E3 964 966 970 971 984 985 98D 98F 991 993 9A9 9AA
    9B1 9B2 9B3 9B6 9BA 9BC 9C5 9C7 9C9 9CB 9CF 9D7 9D8 9DC 9DE 9DF 9E4 9E6 9F2 9FC 9FD 9FE 9FF
    A01 A04 A05 A0B A0F A11 A13 A29 A2A A31 A32 A34 A35 A37 A38 A3A A3C A3D A3E A43 A47 A49 A4B
    A4E A51 A52 A59 A5D A5E A5F A66 A76 A81 A84 A85 A8E A8F A92 A93 AA9 AAA AB1 AB2 AB4 AB5 ABA
    ABC AC6 AC7 ACA ACB ACE AD0 AD1 AE0 AE4 AE6 AF0 AF9 B00 B01 B04 B05 B0D B0F B11 B13 B29 B2A
    B31 B32 B34 B35 B3A B3C B45 B47 B49 B4B B4E B55 B58 B5C B5E B5F B64 B66 B70 B71 B72 B82 B84
    B85 B8B B8E B91 B92 B96 B99 B9B B9C B9D B9E BA0 BA3 BA5 BA8 BAB BAE BBA BBE BC3 BC6 BC9 BCA
    BCE BD0 BD1 BD7 BD8 BE6 BF0 C00 C0D C0E C11 C12 C29 C2A C3A C3C C45 C46 C49 C4A C4E C55 C57
    C58 C5B C5D C5E C60 C64 C66 C70 C80 C84 C85 C8D C8E C91 C92 CA9 CAA CB4 CB5 CBA CBC CC5 CC6
    CC9 CCA CCE CD5 CD7 CDD CDF CE0 CE4 CE6 CF0 CF1 CF4 D00 D0D D0E D11 D12 D45 D46 D49 D4A D4F
    D54 D58 D5F D64 D66 D70 D7A D80 D81 D84 D85 D97 D9A DB2 DB3 DBC DBD DBE DC0 DC7 DCA DCB DCF
    DD5 DD6 DD7 DD8 DE0 DE6 DF0 DF2 DF4 E01 E3B E40 E4F E50 E5A E81 E83 E84 E85 E86 E8B E8C EA4
    EA5 EA6 EA7 EBE EC0 EC5 EC6 EC7 EC8 ECF ED0 EDA EDC EE0 F00 F01 F18 F1A F20 F2A F35 F36 F37
    F38 F39 F3A F3E F48 F49 F6D F71 F85 F86 F98 F99 FBD FC6 FC7 1000 104A 1050 109E 10A0 10C6 10C7
    10C8 10CD 10CE 10D0 10FB 10FC 1249 124A 124E 1250 1257 1258 1259 125A 125E 1260 1289 128A 128E
    1290 12B1 12B2 12B6 12B8 12BF 12C0 12C1 12C2 12C6 12C8 12D7 12D8 1311 1312 1316 1318 135B 135D
    1360 1369 1372 1380 1390 13A0 13F6 13F8 13FE 1401 166D 166F 1680 1681 169B 16A0 16EB 16EE 16F9
    1700 1716 171F 1735 1740 1754 1760 176D 176E 1771 1772 1774 1780 17D4 17D7 17D8 17DC 17DE 17E0
    17EA 180B 180E 180F 181A 1820 1879 1880 18AB 18B0 18F6 1900 191F 1920 192C 1930 193C 1946 196E
    1970 1975 1980 19AC 19B0 19CA 19D0 19DB 1A00 1A1C 1A20 1A5F 1A60 1A7D 1A7F 1A8A 1A90 1A9A 1AA7
    1AA8 1AB0 1ABE 1ABF 1ACF 1B00 1B4D 1B50 1B5A 1B6B 1B74 1B80 1BF4 1C00 1C38 1C40 1C4A 1C4D 1C7E
    1C80 1C8B 1C90 1CBB 1CBD 1CC0 1CD0 1CD3 1CD4 1CFB 1D00 1F16 1F18 1F1E 1F20 1F46 1F48 1F4E 1F50
    1F58 1F59 1F5A 1F5B 1F5C 1F5D 1F5E 1F5F 1F7E 1F80 1FB5 1FB6 1FBD 1FBE 1FBF 1FC2 1FC5 1FC6 1FCD
    1FD0 1FD4 1FD6 1FDC 1FE0 1FED 1FF2 1FF5 1FF6 1FFD 203F 2041 2054 2055 2071 2072 207F 2080 2090
    209D 20D0 20DD 20E1 20E2 20E5 20F1 2102 2103 2107 2108 210A 2114 2115 2116 2118 211E 2124 2125
    2126 2127 2128 2129 212A 213A 213C 2140 2145 214A 214E 214F 2160 2189 2C00 2CE5 2CEB 2CF4 2D00
    2D26 2D27 2D28 2D2D 2D2E 2D30 2D68 2D6F 2D70 2D7F 2D97 2DA0 2DA7 2DA8 2DAF 2DB0 2DB7 2DB8 2DBF
    2DC0 2DC7 2DC8 2DCF 2DD0 2DD7 2DD8 2DDF 2DE0 2E00 3005 3008 3021 3030 3031 3036 3038 303D 3041
    3097 3099 30A0 30A1 30FB 30FC 3100 3105 3130 3131 318F 31A0 31C0 31F0 3200 3400 4DC0 4E00 A48D
    A4D0 A4FE A500 A60D A610 A62C A640 A670 A674 A67E A67F A6F2 A717 A720 A722 A789 A78B A7CE A7D0
    A7D2 A7D3 A7D4 A7D5 A7DD A7F2 A828 A82C A82D A840 A874 A880 A8C6 A8D0 A8DA A8E0 A8F8 A8FB A8FC
    A8FD A92E A930 A954 A960 A97D A980 A9C1 A9CF A9DA A9E0 A9FF AA00 AA37 AA40 AA4E AA50 AA5A AA60
    AA77 AA7A AAC3 AADB AADE AAE0 AAF0 AAF2 AAF7 AB01 AB07 AB09 AB0F AB11 AB17 AB20 AB27 AB28 AB2F
    AB30 AB5B AB5C AB6A AB70 ABEB ABEC ABEE ABF0 ABFA AC00 D7A4 D7B0 D7C7 D7CB D7FC F900 FA6E FA70
    FADA FB00 FB07 FB13 FB18 FB1D FB29 FB2A FB37 FB38 FB3D FB3E FB3F FB40 FB42 FB43 FB45 FB46 FBB2
    FBD3 FD3E FD50 FD90 FD92 FDC8 FDF0 FDFC FE00 FE10 FE20 FE30 FE33 FE35 FE4D FE50 FE70 FE75 FE76
    FEFD FF10 FF1A FF21 FF3B FF3F FF40 FF41 FF5B FF66 FFBF FFC2 FFC8 FFCA FFD0 FFD2 FFD8 FFDA FFDD
    10000 1000C 1000D 10027 10028 1003B 1003C 1003E 1003F 1004E 10050 1005E 10080 100FB 10140
    10175 101FD 101FE 10280 1029D 102A0 102D1 102E0 102E1 10300 10320 1032D 1034B 10350 1037B
    10380 1039E 103A0 103C4 103C8 103D0 103D1 103D6 10400 1049E 104A0 104AA 104B0 104D4 104D8
    104FC 10500 10528 10530 10564 10570 1057B 1057C 1058B 1058C 10593 10594 10596 10597 105A2
    105A3 105B2 105B3 105BA 105BB 105BD 105C0 105F4 10600 10737 10740 10756 10760 10768 10780
    10786 10787 107B1 107B2 107BB 10800 10806 10808 10809 1080A 10836 10837 10839 1083C 1083D
    1083F 10856 10860 10877 10880 1089F 108E0 108F3 108F4 108F6 10900 10916 10920 1093A 10980
    109B8 109BE 109C0 10A00 10A04 10A05 10A07 10A0C 10A14 10A15 10A18 10A19 10A36 10A38 10A3B
    10A3F 10A40 10A60 10A7D 10A80 10A9D 10AC0 10AC8 10AC9 10AE7 10B00 10B36 10B40 10B56 10B60
    10B73 10B80 10B92 10C00 10C49 10C80 10CB3 10CC0 10CF3 10D00 10D28 10D30 10D3A 10D40 10D66
    10D69 10D6E 10D6F 10D86 10E80 10EAA 10EAB 10EAD 10EB0 10EB2 10EC2 10EC5 10EFC 10F1D 10F27
    10F28 10F30 10F51 10F70 10F86 10FB0 10FC5 10FE0 10FF7 11000 11047 11066 11076 1107F 110BB
    110C2 110C3 110D0 110E9 110F0 110FA 11100 11135 11136 11140 11144 11148 11150 11174 11176
    11177 11180 111C5 111C9 111CD 111CE 111DB 111DC 111DD 11200 11212 11213 11238 1123E 11242
    11280 11287 11288 11289 1128A 1128E 1128F 1129E 1129F 112A9 112B0 112EB 112F0 112FA 11300
    11304 11305 1130D 1130F 11311 11313 11329 1132A 11331 11332 11334 11335 1133A 1133B 11345
    11347 11349 1134B 1134E 11350 11351 11357 11358 1135D 11364 11366 1136D 11370 11375 11380
    1138A 1138B 1138C 1138E 1138F 11390 113B6 113B7 113C1 113C2 113C3 113C5 113C6 113C7 113CB
    113CC 113D4 113E1 113E3 11400 1144B 11450 1145A 1145E 11462 11480 114C6 114C7 114C8 114D0
    114DA 11580 115B6 115B8 115C1 115D8 115DE 11600 11641 11644 11645 11650 1165A 11680 116B9
    116C0 116CA 116D0 116E4 11700 1171B 1171D 1172C 11730 1173A 11740 11747 11800 1183B 118A0
    118EA 118FF 11907 11909 1190A 1190C 11914 11915 11917 11918 11936 11937 11939 1193B 11944
    11950 1195A 119A0 119A8 119AA 119D8 119DA 119E2 119E3 119E5 11A00 11A3F 11A47 11A48 11A50
    11A9A 11A9D 11A9E 11AB0 11AF9 11BC0 11BE1 11BF0 11BFA 11C00 11C09 11C0A 11C37 11C38 11C41
    11C50 11C5A 11C72 11C90 11C92 11CA8 11CA9 11CB7 11D00 11D07 11D08 11D0A 11D0B 11D37 11D3A
    11D3B 11D3C 11D3E 11D3F 11D48 11D50 11D5A 11D60 11D66 11D67 11D69 11D6A 11D8F 11D90 11D92
    11D93 11D99 11DA0 11DAA 11EE0 11EF7 11F00 11F11 11F12 11F3B 11F3E 11F43 11F50 11F5B 11FB0
    11FB1 12000 1239A 12400 1246F 12480 12544 12F90 12FF1 13000 13430 13440 13456 13460 143FB
    14400 14647 16100 1613A 16800 16A39 16A40 16A5F 16A60 16A6A 16A70 16ABF 16AC0 16ACA 16AD0
    16AEE 16AF0 16AF5 16B00 16B37 16B40 16B44 16B50 16B5A 16B63 16B78 16B7D 16B90 16D40 16D6D
    16D70 16D7A 16E40 16E80 16F00 16F4B 16F4F 16F88 16F8F 16FA0 16FE0 16FE2 16FE3 16FE5 16FF0
    16FF2 17000 187F8 18800 18CD6 18CFF 18D09 1AFF0 1AFF4 1AFF5 1AFFC 1AFFD 1AFFF 1B000 1B123
    1B132 1B133 1B150 1B153 1B155 1B156 1B164 1B168 1B170 1B2FC 1BC00 1BC6B 1BC70 1BC7D 1BC80
    1BC89 1BC90 1BC9A 1BC9D 1BC9F 1CCF0 1CCFA 1CF00 1CF2E 1CF30 1CF47 1D165 1D16A 1D16D 1D173
    1D17B 1D183 1D185 1D18C 1D1AA 1D1AE 1D242 1D245 1D400 1D455 1D456 1D49D 1D49E 1D4A0 1D4A2
    1D4A3 1D4A5 1D4A7 1D4A9 1D4AD 1D4AE 1D4BA 1D4BB 1D4BC 1D4BD 1D4C4 1D4C5 1D506 1D507 1D50B
    1D50D 1D515 1D516 1D51D 1D51E 1D53A 1D53B 1D53F 1D540 1D545 1D546 1D547 1D54A 1D551 1D552
    1D6A6 1D6A8 1D6C1 1D6C2 1D6DB 1D6DC 1D6FB 1D6FC 1D715 1D716 1D735 1D736 1D74F 1D750 1D76F
    1D770 1D789 1D78A 1D7A9 1D7AA 1D7C3 1D7C4 1D7CC 1D7CE 1D800 1DA00 1DA37 1DA3B 1DA6D 1DA75
    1DA76 1DA84 1DA85 1DA9B 1DAA0 1DAA1 1DAB0 1DF00 1DF1F 1DF25 1DF2B 1E000 1E007 1E008 1E019
    1E01B 1E022 1E023 1E025 1E026 1E02B 1E030 1E06E 1E08F 1E090 1E100 1E12D 1E130 1E13E 1E140
    1E14A 1E14E 1E14F 1E290 1E2AF 1E2C0 1E2FA 1E4D0 1E4FA 1E5D0 1E5FB 1E7E0 1E7E7 1E7E8 1E7EC
    1E7ED 1E7EF 1E7F0 1E7FF 1E800 1E8C5 1E8D0 1E8D7 1E900 1E94C 1E950 1E95A 1EE00 1EE04 1EE05
    1EE20 1EE21 1EE23 1EE24 1EE25 1EE27 1EE28 1EE29 1EE33 1EE34 1EE38 1EE39 1EE3A 1EE3B 1EE3C
    1EE42 1EE43 1EE47 1EE48 1EE49 1EE4A 1EE4B 1EE4C 1EE4D 1EE50 1EE51 1EE53 1EE54 1EE55 1EE57
    1EE58 1EE59 1EE5A 1EE5B 1EE5C 1EE5D 1EE5E 1EE5F 1EE60 1EE61 1EE63 1EE64 1EE65 1EE67 1EE6B
    1EE6C 1EE73 1EE74 1EE78 1EE79 1EE7D 1EE7E 1EE7F 1EE80 1EE8A 1EE8B 1EE9C 1EEA1 1EEA4 1EEA5
    1EEAA 1EEAB 1EEBC 1FBF0 1FBFA 20000 2A6E0 2A700 2B73A 2B740 2B81E 2B820 2CEA2 2CEB0 2EBE1
    2EBF0 2EE5E 2F800 2FA1E 30000 3134B 31350 323B0 E0100 E01F0"),
  (["ids", "idstart"], CodeSet.ofText "
    41 5B 61 7B AA AB B5 B6 BA BB C0 D7 D8 F7 F8 2C2 2C6 2D2 2E0 2E5 2EC 2ED 2EE 2EF 370 375 376
    378 37A 37E 37F 380 386 387 388 38B 38C 38D 38E 3A2 3A3 3F6 3F7 482 48A 530 531 557 559 55A
    560 589 5D0 5EB 5EF 5F3 620 64B 66E 670 671 6D4 6D5 6D6 6E5 6E7 6EE 6F0 6FA 6FD 6FF 700 710
    711 712 730 74D 7A6 7B1 7B2 7CA 7EB 7F4 7F6 7FA 7FB 800 816 81A 81B 824 825 828 829 840 859
    860 86B 870 888 889 88F 8A0 8CA 904 93A 93D 93E 950 951 958 962 971 981 985 98D 98F 991 993
    9A9 9AA 9B1 9B2 9B3 9B6 9BA 9BD 9BE 9CE 9CF 9DC 9DE 9DF 9E2 9F0 9F2 9FC 9FD A05 A0B A0F A11
    A13 A29 A2A A31 A32 A34 A35 A37 A38 A3A A59 A5D A5E A5F A72 A75 A85 A8E A8F A92 A93 AA9 AAA
    AB1 AB2 AB4 AB5 ABA ABD ABE AD0 AD1 AE0 AE2 AF9 AFA B05 B0D B0F B11 B13 B29 B2A B31 B32 B34
    B35 B3A B3D B3E B5C B5E B5F B62 B71 B72 B83 B84 B85 B8B B8E B91 B92 B96 B99 B9B B9C B9D B9E
    BA0 BA3 BA5 BA8 BAB BAE BBA BD0 BD1 C05 C0D C0E C11 C12 C29 C2A C3A C3D C3E C58 C5B C5D C5E
    C60 C62 C80 C81 C85 C8D C8E C91 C92 CA9 CAA CB4 CB5 CBA CBD CBE CDD CDF CE0 CE2 CF1 CF3 D04
    D0D D0E D11 D12 D3B D3D D3E D4E D4F D54 D57 D5F D62 D7A D80 D85 D97 D9A DB2 DB3 DBC DBD DBE
    DC0 DC7 E01 E31 E32 E34 E40 E47 E81 E83 E84 E85 E86 E8B E8C EA4 EA5 EA6 EA7 EB1 EB2 EB4 EBD
    EBE EC0 EC5 EC6 EC7 EDC EE0 F00 F01 F40 F48 F49 F6D F88 F8D 1000 102B 103F 1040 1050 1056 105A
    105E 1061 1062 1065 1067 106E 1071 1075 1082 108E 108F 10A0 10C6 10C7 10C8 10CD 10CE 10D0 10FB
    10FC 1249 124A 124E 1250 1257 1258 1259 125A 125E 1260 1289 128A 128E 1290 12B1 12B2 12B6 12B8
    12BF 12C0 12C1 12C2 12C6 12C8 12D7 12D8 1311 1312 1316 1318 135B 1380 1390 13A0 13F6 13F8 13FE
    1401 166D 166F 1680 1681 169B 16A0 16EB 16EE 16F9 1700 1712 171F 1732 1740 1752 1760 176D 176E
    1771 1780 17B4 17D7 17D8 17DC 17DD 1820 1879 1880 18A9 18AA 18AB 18B0 18F6 1900 191F 1950 196E
    1970 1975 1980 19AC 19B0 19CA 1A00 1A17 1A20 1A55 1AA7 1AA8 1B05 1B34 1B45 1B4D 1B83 1BA1 1BAE
    1BB0 1BBA 1BE6 1C00 1C24 1C4D 1C50 1C5A 1C7E 1C80 1C8B 1C90 1CBB 1CBD 1CC0 1CE9 1CED 1CEE 1CF4
    1CF5 1CF7 1CFA 1CFB 1D00 1DC0 1E00 1F16 1F18 1F1E 1F20 1F46 1F48 1F4E 1F50 1F58 1F59 1F5A 1F5B
    1F5C 1F5D 1F5E 1F5F 1F7E 1F80 1FB5 1FB6 1FBD 1FBE 1FBF 1FC2 1FC5 1FC6 1FCD 1FD0 1FD4 1FD6 1FDC
    1FE0 1FED 1FF2 1FF5 1FF6 1FFD 2071 2072 207F 2080 2090 209D 2102 2103 2107 2108 210A 2114 2115
    2116 2118 211E 2124 2125 2126 2127 2128 2129 212A 213A 213C 2140 2145 214A 214E 214F 2160 2189
    2C00 2CE5 2CEB 2CEF 2CF2 2CF4 2D00 2D26 2D27 2D28 2D2D 2D2E 2D30 2D68 2D6F 2D70 2D80 2D97 2DA0
    2DA7 2DA8 2DAF 2DB0 2DB7 2DB8 2DBF 2DC0 2DC7 2DC8 2DCF 2DD0 2DD7 2DD8 2DDF 3005 3008 3021 302A
    3031 3036 3038 303D 3041 3097 309B 30A0 30A1 30FB 30FC 3100 3105 3130 3131 318F 31A0 31C0 31F0
    3200 3400 4DC0 4E00 A48D A4D0 A4FE A500 A60D A610 A620 A62A A62C A640 A66F A67F A69E A6A0 A6F0
    A717 A720 A722 A789 A78B A7CE A7D0 A7D2 A7D3 A7D4 A7D5 A7DD A7F2 A802 A803 A806 A807 A80B A80C
    A823 A840 A874 A882 A8B4 A8F2 A8F8 A8FB A8FC A8FD A8FF A90A A926 A930 A947 A960 A97D A984 A9B3
    A9CF A9D0 A9E0 A9E5 A9E6 A9F0 A9FA A9FF AA00 AA29 AA40 AA43 AA44 AA4C AA60 AA77 AA7A AA7B AA7E
    AAB0 AAB1 AAB2 AAB5 AAB7 AAB9 AABE AAC0 AAC1 AAC2 AAC3 AADB AADE AAE0 AAEB AAF2 AAF5 AB01 AB07
    AB09 AB0F AB11 AB17 AB20 AB27 AB28 AB2F AB30 AB5B AB5C AB6A AB70 ABE3 AC00 D7A4 D7B0 D7C7 D7CB
    D7FC F900 FA6E FA70 FADA FB00 FB07 FB13 FB18 FB1D FB1E FB1F FB29 FB2A FB37 FB38 FB3D FB3E FB3F
    FB40 FB42 FB43 FB45 FB46 FBB2 FBD3 FD3E FD50 FD90 FD92 FDC8 FDF0 FDFC FE70 FE75 FE76 FEFD FF21
    FF3B FF41 FF5B FF66 FFBF FFC2 FFC8 FFCA FFD0 FFD2 FFD8 FFDA FFDD 10000 1000C 1000D 10027 10028
    1003B 1003C 1003E 1003F 1004E 10050 1005E 10080 100FB 10140 10175 10280 1029D 102A0 102D1
    10300 10320 1032D 1034B 10350 10376 10380 1039E 103A0 103C4 103C8 103D0 103D1 103D6 10400
    1049E 104B0 104D4 104D8 104FC 10500 10528 10530 10564 10570 1057B 1057C 1058B 1058C 10593
    10594 10596 10597 105A2 105A3 105B2 105B3 105BA 105BB 105BD 105C0 105F4 10600 10737 10740
    10756 10760 10768 10780 10786 10787 107B1 107B2 107BB 10800 10806 10808 10809 1080A 10836
    10837 10839 1083C 1083D 1083F 10856 10860 10877 10880 1089F 108E0 108F3 108F4 108F6 10900
    10916 10920 1093A 10980 109B8 109BE 109C0 10A00 10A01 10A10 10A14 10A15 10A18 10A19 10A36
    10A60 10A7D 10A80 10A9D 10AC0 10AC8 10AC9 10AE5 10B00 10B36 10B40 10B56 10B60 10B73 10B80
    10B92 10C00 10C49 10C80 10CB3 10CC0 10CF3 10D00 10D24 10D4A 10D66 10D6F 10D86 10E80 10EAA
    10EB0 10EB2 10EC2 10EC5 10F00 10F1D 10F27 10F28 10F30 10F46 10F70 10F82 10FB0 10FC5 10FE0
    10FF7 11003 11038 11071 11073 11075 11076 11083 110B0 110D0 110E9 11103 11127 11144 11145
    11147 11148 11150 11173 11176 11177 11183 111B3 111C1 111C5 111DA 111DB 111DC 111DD 11200
    11212 11213 1122C 1123F 11241 11280 11287 11288 11289 1128A 1128E 1128F 1129E 1129F 112A9
    112B0 112DF 11305 1130D 1130F 11311 11313 11329 1132A 11331 11332 11334 11335 1133A 1133D
    1133E 11350 11351 1135D 11362 11380 1138A 1138B 1138C 1138E 1138F 11390 113B6 113B7 113B8
    113D1 113D2 113D3 113D4 11400 11435 11447 1144B 1145F 11462 11480 114B0 114C4 114C6 114C7
    114C8 11580 115AF 115D8 115DC 11600 11630 11644 11645 11680 116AB 116B8 116B9 11700 1171B
    11740 11747 11800 1182C 118A0 118E0 118FF 11907 11909 1190A 1190C 11914 11915 11917 11918
    11930 1193F 11940 11941 11942 119A0 119A8 119AA 119D1 119E1 119E2 119E3 119E4 11A00 11A01
    11A0B 11A33 11A3A 11A3B 11A50 11A51 11A5C 11A8A 11A9D 11A9E 11AB0 11AF9 11BC0 11BE1 11C00
    11C09 11C0A 11C2F 11C40 11C41 11C72 11C90 11D00 11D07 11D08 11D0A 11D0B 11D31 11D46 11D47
    11D60 11D66 11D67 11D69 11D6A 11D8A 11D98 11D99 11EE0 11EF3 11F02 11F03 11F04 11F11 11F12
    11F34 11FB0 11FB1 12000 1239A 12400 1246F 12480 12544 12F90 12FF1 13000 13430 13441 13447
    13460 143FB 14400 14647 16100 1611E 16800 16A39 16A40 16A5F 16A70 16ABF 16AD0 16AEE 16B00
    16B30 16B40 16B44 16B63 16B78 16B7D 16B90 16D40 16D6D 16E40 16E80 16F00 16F4B 16F50 16F51
    16F93 16FA0 16FE0 16FE2 16FE3 16FE4 17000 187F8 18800 18CD6 18CFF 18D09 1AFF0 1AFF4 1AFF5
    1AFFC 1AFFD 1AFFF 1B000 1B123 1B132 1B133 1B150 1B153 1B155 1B156 1B164 1B168 1B170 1B2FC
    1BC00 1BC6B 1BC70 1BC7D 1BC80 1BC89 1BC90 1BC9A 1D400 1D455 1D456 1D49D 1D49E 1D4A0 1D4A2
    1D4A3 1D4A5 1D4A7 1D4A9 1D4AD 1D4AE 1D4BA 1D4BB 1D4BC 1D4BD 1D4C4 1D4C5 1D506 1D507 1D50B
    1D50D 1D515 1D516 1D51D 1D51E 1D53A 1D53B 1D53F 1D540 1D545 1D546 1D547 1D54A 1D551 1D552
    1D6A6 1D6A8 1D6C1 1D6C2 1D6DB 1D6DC 1D6FB 1D6FC 1D715 1D716 1D735 1D736 1D74F 1D750 1D76F
    1D770 1D789 1D78A 1D7A9 1D7AA 1D7C3 1D7C4 1D7CC 1DF00 1DF1F 1DF25 1DF2B 1E030 1E06E 1E100
    1E12D 1E137 1E13E 1E14E 1E14F 1E290 1E2AE 1E2C0 1E2EC 1E4D0 1E4EC 1E5D0 1E5EE 1E5F0 1E5F1
    1E7E0 1E7E7 1E7E8 1E7EC 1E7ED 1E7EF 1E7F0 1E7FF 1E800 1E8C5 1E900 1E944 1E94B 1E94C 1EE00
    1EE04 1EE05 1EE20 1EE21 1EE23 1EE24 1EE25 1EE27 1EE28 1EE29 1EE33 1EE34 1EE38 1EE39 1EE3A
    1EE3B 1EE3C 1EE42 1EE43 1EE47 1EE48 1EE49 1EE4A 1EE4B 1EE4C 1EE4D 1EE50 1EE51 1EE53 1EE54
    1EE55 1EE57 1EE58 1EE59 1EE5A 1EE5B 1EE5C 1EE5D 1EE5E 1EE5F 1EE60 1EE61 1EE63 1EE64 1EE65
    1EE67 1EE6B 1EE6C 1EE73 1EE74 1EE78 1EE79 1EE7D 1EE7E 1EE7F 1EE80 1EE8A 1EE8B 1EE9C 1EEA1
    1EEA4 1EEA5 1EEAA 1EEAB 1EEBC 20000 2A6E0 2A700 2B73A 2B740 2B81E 2B820 2CEA2 2CEB0 2EBE1
    2EBF0 2EE5E 2F800 2FA1E 30000 3134B 31350 323B0"),
  (["ideo", "ideographic"], CodeSet.ofText "
    3006 3008 3021 302A 3038 303B 3400 4DC0 4E00 A000 F900 FA6E FA70 FADA 16FE4 16FE5 17000 187F8
    18800 18CD6 18CFF 18D09 1B170 1B2FC 20000 2A6E0 2A700 2B73A 2B740 2B81E 2B820 2CEA2 2CEB0
    2EBE1 2EBF0 2EE5E 2F800 2FA1E 30000 3134B 31350 323B0"),
  (["joinc", "joincontrol"], CodeSet.ofText "
    200C 200E"),
  (["loe", "logicalorderexception"], CodeSet.ofText "
    E40 E45 EC0 EC5 19B5 19B8 19BA 19BB AAB5 AAB7 AAB9 AABA AABB AABD"),
  (["lower", "lowercase"], CodeSet.ofText "
    61 7B AA AB B5 B6 BA BB DF F7 F8 100 101 102 103 104 105 106 107 108 109 10A 10B 10C 10D 10E
    10F 110 111 112 113 114 115 116 117 118 119 11A 11B 11C 11D 11E 11F 120 121 122 123 124 125
    126 127 128 129 12A 12B 12C 12D 12E 12F 130 131 132 133 134 135 136 137 139 13A 13B 13C 13D
    13E 13F 140 141 142 143 144 145 146 147 148 14A 14B 14C 14D 14E 14F 150 151 152 153 154 155
    156 157 158 159 15A 15B 15C 15D 15E 15F 160 161 162 163 164 165 166 167 168 169 16A 16B 16C
    16D 16E 16F 170 171 172 173 174 175 176 177 178 17A 17B 17C 17D 17E 181 183 184 185 186 188
    189 18C 18E 192 193 195 196 199 19C 19E 19F 1A1 1A2 1A3 1A4 1A5 1A6 1A8 1A9 1AA 1AC 1AD 1AE
    1B0 1B1 1B4 1B5 1B6 1B7 1B9 1BB 1BD 1C0 1C6 1C7 1C9 1CA 1CC 1CD 1CE 1CF 1D0 1D1 1D2 1D3 1D4
    1D5 1D6 1D7 1D8 1D9 1DA 1DB 1DC 1DE 1DF 1E0 1E1 1E2 1E3 1E4 1E5 1E6 1E7 1E8 1E9 1EA 1EB 1EC
    1ED 1EE 1EF 1F1 1F3 1F4 1F5 1F6 1F9 1FA 1FB 1FC 1FD 1FE 1FF 200 201 202 203 204 205 206 207
    208 209 20A 20B 20C 20D 20E 20F 210 211 212 213 214 215 216 217 218 219 21A 21B 21C 21D 21E
    21F 220 221 222 223 224 225 226 227 228 229 22A 22B 22C 22D 22E 22F 230 231 232 233 23A 23C
    23D 23F 241 242 243 247 248 249 24A 24B 24C 24D 24E 24F 294 295 2B9 2C0 2C2 2E0 2E5 345 346
    371 372 373 374 377 378 37A 37E 390 391 3AC 3CF 3D0 3D2 3D5 3D8 3D9 3DA 3DB 3DC 3DD 3DE 3DF
    3E0 3E1 3E2 3E3 3E4 3E5 3E6 3E7 3E8 3E9 3EA 3EB 3EC 3ED 3EE 3EF 3F4 3F5 3F6 3F8 3F9 3FB 3FD
    430 460 461 462 463 464 465 466 467 468 469 46A 46B 46C 46D 46E 46F 470 471 472 473 474 475
    476 477 478 479 47A 47B 47C 47D 47E 47F 480 481 482 48B 48C 48D 48E 48F 490 491 492 493 494
    495 496 497 498 499 49A 49B 49C 49D 49E 49F 4A0 4A1 4A2 4A3 4A4 4A5 4A6 4A7 4A8 4A9 4AA 4AB
    4AC 4AD 4AE 4AF 4B0 4B1 4B2 4B3 4B4 4B5 4B6 4B7 4B8 4B9 4BA 4BB 4BC 4BD 4BE 4BF 4C0 4C2 4C3
    4C4 4C5 4C6 4C7 4C8 4C9 4CA 4CB 4CC 4CD 4CE 4D0 4D1 4D2 4D3 4D4 4D5 4D6 4D7 4D8 4D9 4DA 4DB
    4DC 4DD 4DE 4DF 4E0 4E1 4E2 4E3 4E4 4E5 4E6 4E7 4E8 4E9 4EA 4EB 4EC 4ED 4EE 4EF 4F0 4F1 4F2
    4F3 4F4 4F5 4F6 4F7 4F8 4F9 4FA 4FB 4FC 4FD 4FE 4FF 500 501 502 503 504 505 506 507 508 509
    50A 50B 50C 50D 50E 50F 510 511 512 513 514 515 516 517 518 519 51A 51B 51C 51D 51E 51F 520
    521 522 523 524 525 526 527 528 529 52A 52B 52C 52D 52E 52F 530 560 589 10D0 10FB 10FC 1100
    13F8 13FE 1C80 1C89 1C8A 1C8B 1D00 1DC0 1E01 1E02 1E03 1E04 1E05 1E06 1E07 1E08 1E09 1E0A 1E0B
    1E0C 1E0D 1E0E 1E0F 1E10 1E11 1E12 1E13 1E14 1E15 1E16 1E17 1E18 1E19 1E1A 1E1B 1E1C 1E1D 1E1E
    1E1F 1E20 1E21 1E22 1E23 1E24 1E25 1E26 1E27 1E28 1E29 1E2A 1E2B 1E2C 1E2D 1E2E 1E2F 1E30 1E31
    1E32 1E33 1E34 1E35 1E36 1E37 1E38 1E39 1E3A 1E3B 1E3C 1E3D 1E3E 1E3F 1E40 1E41 1E42 1E43 1E44
    1E45 1E46 1E47 1E48 1E49 1E4A 1E4B 1E4C 1E4D 1E4E 1E4F 1E50 1E51 1E52 1E53 1E54 1E55 1E56 1E57
    1E58 1E59 1E5A 1E5B 1E5C 1E5D 1E5E 1E5F 1E60 1E61 1E62 1E63 1E64 1E65 1E66 1E67 1E68 1E69 1E6A
    1E6B 1E6C 1E6D 1E6E 1E6F 1E70 1E71 1E72 1E73 1E74 1E75 1E76 1E77 1E78 1E79 1E7A 1E7B 1E7C 1E7D
    1E7E 1E7F 1E80 1E81 1E82 1E83 1E84 1E85 1E86 1E87 1E88 1E89 1E8A 1E8B 1E8C 1E8D 1E8E 1E8F 1E90
    1E91 1E92 1E93 1E94 1E95 1E9E 1E9F 1EA0 1EA1 1EA2 1EA3 1EA4 1EA5 1EA6 1EA7 1EA8 1EA9 1EAA 1EAB
    1EAC 1EAD 1EAE 1EAF 1EB0 1EB1 1EB2 1EB3 1EB4 1EB5 1EB6 1EB7 1EB8 1EB9 1EBA 1EBB 1EBC 1EBD 1EBE
    1EBF 1EC0 1EC1 1EC2 1EC3 1EC4 1EC5 1EC6 1EC7 1EC8 1EC9 1ECA 1ECB 1ECC 1ECD 1ECE 1ECF 1ED0 1ED1
    1ED2 1ED3 1ED4 1ED5 1ED6 1ED7 1ED8 1ED9 1EDA 1EDB 1EDC 1EDD 1EDE 1EDF 1EE0 1EE1 1EE2 1EE3 1EE4
    1EE5 1EE6 1EE7 1EE8 1EE9 1EEA 1EEB 1EEC 1EED 1EEE 1EEF 1EF0 1EF1 1EF2 1EF3 1EF4 1EF5 1EF6 1EF7
    1EF8 1EF9 1EFA 1EFB 1EFC 1EFD 1EFE 1EFF 1F08 1F10 1F16 1F20 1F28 1F30 1F38 1F40 1F46 1F50 1F58
    1F60 1F68 1F70 1F7E 1F80 1F88 1F90 1F98 1FA0 1FA8 1FB0 1FB5 1FB6 1FB8 1FBE 1FBF 1FC2 1FC5 1FC6
    1FC8 1FD0 1FD4 1FD6 1FD8 1FE0 1FE8 1FF2 1FF5 1FF6 1FF8 2071 2072 207F 2080 2090 209D 210A 210B
    210E 2110 2113 2114 212F 2130 2134 2135 2139 213A 213C 213E 2146 214A 214E 214F 2170 2180 2184
    2185 24D0 24EA 2C30 2C60 2C61 2C62 2C65 2C67 2C68 2C69 2C6A 2C6B 2C6C 2C6D 2C71 2C72 2C73 2C75
    2C76 2C7E 2C81 2C82 2C83 2C84 2C85 2C86 2C87 2C88 2C89 2C8A 2C8B 2C8C 2C8D 2C8E 2C8F 2C90 2C91
    2C92 2C93 2C94 2C95 2C96 2C97 2C98 2C99 2C9A 2C9B 2C9C 2C9D 2C9E 2C9F 2CA0 2CA1 2CA2 2CA3 2CA4
    2CA5 2CA6 2CA7 2CA8 2CA9 2CAA 2CAB 2CAC 2CAD 2CAE 2CAF 2CB0 2CB1 2CB2 2CB3 2CB4 2CB5 2CB6 2CB7
    2CB8 2CB9 2CBA 2CBB 2CBC 2CBD 2CBE 2CBF 2CC0 2CC1 2CC2 2CC3 2CC4 2CC5 2CC6 2CC7 2CC8 2CC9 2CCA
    2CCB 2CCC 2CCD 2CCE 2CCF 2CD0 2CD1 2CD2 2CD3 2CD4 2CD5 2CD6 2CD7 2CD8 2CD9 2CDA 2CDB 2CDC 2CDD
    2CDE 2CDF 2CE0 2CE1 2CE2 2CE3 2CE5 2CEC 2CED 2CEE 2CEF 2CF3 2CF4 2D00 2D26 2D27 2D28 2D2D 2D2E
    A641 A642 A643 A644 A645 A646 A647 A648 A649 A64A A64B A64C A64D A64E A64F A650 A651 A652 A653
    A654 A655 A656 A657 A658 A659 A65A A65B A65C A65D A65E A65F A660 A661 A662 A663 A664 A665 A666
    A667 A668 A669 A66A A66B A66C A66D A66E A681 A682 A683 A684 A685 A686 A687 A688 A689 A68A A68B
    A68C A68D A68E A68F A690 A691 A692 A693 A694 A695 A696 A697 A698 A699 A69A A69B A69E A723 A724
    A725 A726 A727 A728 A729 A72A A72B A72C A72D A72E A72F A732 A733 A734 A735 A736 A737 A738 A739
    A73A A73B A73C A73D A73E A73F A740 A741 A742 A743 A744 A745 A746 A747 A748 A749 A74A A74B A74C
    A74D A74E A74F A750 A751 A752 A753 A754 A755 A756 A757 A758 A759 A75A A75B A75C A75D A75E A75F
    A760 A761 A762 A763 A764 A765 A766 A767 A768 A769 A76A A76B A76C A76D A76E A76F A779 A77A A77B
    A77C A77D A77F A780 A781 A782 A783 A784 A785 A786 A787 A788 A78C A78D A78E A78F A791 A792 A793
    A796 A797 A798 A799 A79A A79B A79C A79D A79E A79F A7A0 A7A1 A7A2 A7A3 A7A4 A7A5 A7A6 A7A7 A7A8
    A7A9 A7AA A7AF A7B0 A7B5 A7B6 A7B7 A7B8 A7B9 A7BA A7BB A7BC A7BD A7BE A7BF A7C0 A7C1 A7C2 A7C3
    A7C4 A7C8 A7C9 A7CA A7CB A7CD A7CE A7D1 A7D2 A7D3 A7D4 A7D5 A7D6 A7D7 A7D8 A7D9 A7DA A7DB A7DC
    A7F2 A7F5 A7F6 A7F7 A7F8 A7FB AB30 AB5B AB5C AB6A AB70 ABC0 FB00 FB07 FB13 FB18 FF41 FF5B
    10428 10450 104D8 104FC 10597 105A2 105A3 105B2 105B3 105BA 105BB 105BD 10780 10781 10783
    10786 10787 107B1 107B2 107BB 10CC0 10CF3 10D70 10D86 118C0 118E0 16E60 16E80 1D41A 1D434
    1D44E 1D455 1D456 1D468 1D482 1D49C 1D4B6 1D4BA 1D4BB 1D4BC 1D4BD 1D4C4 1D4C5 1D4D0 1D4EA
    1D504 1D51E 1D538 1D552 1D56C 1D586 1D5A0 1D5BA 1D5D4 1D5EE 1D608 1D622 1D63C 1D656 1D670
    1D68A 1D6A6 1D6C2 1D6DB 1D6DC 1D6E2 1D6FC 1D715 1D716 1D71C 1D736 1D74F 1D750 1D756 1D770
    1D789 1D78A 1D790 1D7AA 1D7C3 1D7C4 1D7CA 1D7CB 1D7CC 1DF00 1DF0A 1DF0B 1DF1F 1DF25 1DF2B
    1E030 1E06E 1E922 1E944"),
  (["math"], CodeSet.ofText "
    2B 2C 3C 3F 5E 5F 7C 7D 7E 7F AC AD B1 B2 D7 D8 F7 F8 3D0 3D3 3D5 3D6 3F0 3F2 3F4 3F7 606 609
    2016 2017 2032 2035 2040 2041 2044 2045 2052 2053 2061 2065 207A 207F 208A 208F 20D0 20DD 20E1
    20E2 20E5 20E7 20EB 20F0 2102 2103 2107 2108 210A 2114 2115 2116 2118 211E 2124 2125 2128 212A
    212C 212E 212F 2132 2133 2139 213C 214A 214B 214C 2190 21A8 21A9 21AF 21B0 21B2 21B6 21B8 21BC
    21DC 21DD 21DE 21E4 21E6 21F4 2300 2308 230C 2320 2322 237C 237D 239B 23B6 23B7 23B8 23D0 23D1
    23DC 23E3 25A0 25A2 25AE 25B8 25BC 25C2 25C6 25C8 25CA 25CC 25CF 25D4 25E2 25E3 25E4 25E5 25E7
    25ED 25F8 2600 2605 2607 2640 2641 2642 2643 2660 2664 266D 2670 27C0 2800 2900 2B00 2B30 2B45
    2B47 2B4D FB29 FB2A FE61 FE67 FE68 FE69 FF0B FF0C FF1C FF1F FF3C FF3D FF3E FF3F FF5C FF5D FF5E
    FF5F FFE2 FFE3 FFE9 FFED 1D400 1D455 1D456 1D49D 1D49E 1D4A0 1D4A2 1D4A3 1D4A5 1D4A7 1D4A9
    1D4AD 1D4AE 1D4BA 1D4BB 1D4BC 1D4BD 1D4C4 1D4C5 1D506 1D507 1D50B 1D50D 1D515 1D516 1D51D
    1D51E 1D53A 1D53B 1D53F 1D540 1D545 1D546 1D547 1D54A 1D551 1D552 1D6A6 1D6A8 1D7CC 1D7CE
    1D800 1EE00 1EE04 1EE05 1EE20 1EE21 1EE23 1EE24 1EE25 1EE27 1EE28 1EE29 1EE33 1EE34 1EE38
    1EE39 1EE3A 1EE3B 1EE3C 1EE42 1EE43 1EE47 1EE48 1EE49 1EE4A 1EE4B 1EE4C 1EE4D 1EE50 1EE51
    1EE53 1EE54 1EE55 1EE57 1EE58 1EE59 1EE5A 1EE5B 1EE5C 1EE5D 1EE5E 1EE5F 1EE60 1EE61 1EE63
    1EE64 1EE65 1EE67 1EE6B 1EE6C 1EE73 1EE74 1EE78 1EE79 1EE7D 1EE7E 1EE7F 1EE80 1EE8A 1EE8B
    1EE9C 1EEA1 1EEA4 1EEA5 1EEAA 1EEAB 1EEBC 1EEF0 1EEF2"),
  (["nchar", "noncharactercodepoint"], CodeSet.ofText "
    FDD0 FDF0 FFFE 10000 1FFFE 20000 2FFFE 30000 3FFFE 40000 4FFFE 50000 5FFFE 60000 6FFFE 70000
    7FFFE 80000 8FFFE 90000 9FFFE A0000 AFFFE B0000 BFFFE C0000 CFFFE D0000 DFFFE E0000 EFFFE
    F0000 FFFFE 100000 10FFFE 110000"),
  (["patsyn", "patternsyntax"], CodeSet.ofText "
    21 30 3A 41 5B 5F 60 61 7B 7F A1 A8 A9 AA AB AD AE AF B0 B2 B6 B7 BB BC BF C0 D7 D8 F7 F8 2010
    2028 2030 203F 2041 2054 2055 205F 2190 2460 2500 2776 2794 2C00 2E00 2E80 3001 3004 3008 3021
    3030 3031 FD3E FD40 FE45 FE47"),
  (["patternwhitespace", "patws"], CodeSet.ofText "
    9 E 20 21 85 86 200E 2010 2028 202A"),
  (["pcm", "prependedconcatenationmark"], CodeSet.ofText "
    600 606 6DD 6DE 70F 710 890 892 8E2 8E3 110BD 110BE 110CD 110CE"),
  (["qmark", "quotationmark"], CodeSet.ofText "
    22 23 27 28 AB AC BB BC 2018 2020 2039 203B 2E42 2E43 300C 3010 301D 3020 FE41 FE45 FF02 FF03
    FF07 FF08 FF62 FF64"),
  (["radical"], CodeSet.ofText "
    2E80 2E9A 2E9B 2EF4 2F00 2FD6"),
  (["regionalindicator", "ri"], CodeSet.ofText "
    1F1E6 1F200"),
  (["sentenceterminal", "sterm"], CodeSet.ofText "
    21 22 2E 2F 3F 40 589 58A 61D 620 6D4 6D5 700 703 7F9 7FA 837 838 839 83A 83D 83F 964 966 104A
    104C 1362 1363 1367 1369 166E 166F 1735 1737 1803 1804 1809 180A 1944 1946 1AA8 1AAC 1B5A 1B5C
    1B5E 1B60 1B7D 1B7F 1C3B 1C3D 1C7E 1C80 203C 203E 2047 204A 2E2E 2E2F 2E3C 2E3D 2E53 2E55 3002
    3003 A4FF A500 A60E A610 A6F3 A6F4 A6F7 A6F8 A876 A878 A8CE A8D0 A92F A930 A9C8 A9CA AA5D AA60
    AAF0 AAF2 ABEB ABEC FE52 FE53 FE56 FE58 FF01 FF02 FF0E FF0F FF1F FF20 FF61 FF62 10A56 10A58
    10F55 10F5A 10F86 10F8A 11047 11049 110BE 110C2 11141 11144 111C5 111C7 111CD 111CE 111DE
    111E0 11238 1123A 1123B 1123D 112A9 112AA 1144B 1144D 115C2 115C4 115C9 115D8 11641 11643
    1173C 1173F 11944 11945 11946 11947 11A42 11A44 11A9B 11A9D 11C41 11C43 11EF7 11EF9 11F43
    11F45 16A6E 16A70 16AF5 16AF6 16B37 16B39 16B44 16B45 16E98 16E99 1BC9F 1BCA0 1DA88 1DA89"),
  (["sd", "softdotted"], CodeSet.ofText "
    69 6B 12F 130 249 24A 268 269 29D 29E 2B2 2B3 3F3 3F4 456 457 458 459 1D62 1D63 1D96 1D97 1DA4
    1DA5 1DA8 1DA9 1E2D 1E2E 1ECB 1ECC 2071 2072 2148 214A 2C7C 2C7D 1D422 1D424 1D456 1D458 1D48A
    1D48C 1D4BE 1D4C0 1D4F2 1D4F4 1D526 1D528 1D55A 1D55C 1D58E 1D590 1D5C2 1D5C4 1D5F6 1D5F8
    1D62A 1D62C 1D65E 1D660 1D692 1D694 1DF1A 1DF1B 1E04C 1E04E 1E068 1E069"),
  (["term", "terminalpunctuation"], CodeSet.ofText "
    21 22 2C 2D 2E 2F 3A 3C 3F 40 37E 37F 387 388 589 58A 5C3 5C4 60C 60D 61B 61C 61D 620 6D4 6D5
    700 70B 70C 70D 7F8 7FA 830 83F 85E 85F 964 966 E5A E5C F08 F09 F0D F13 104A 104C 1361 1369
    166E 166F 16EB 16EE 1735 1737 17D4 17D7 17DA 17DB 1802 1806 1808 180A 1944 1946 1AA8 1AAC 1B5A
    1B5C 1B5D 1B60 1B7D 1B7F 1C3B 1C40 1C7E 1C80 203C 203E 2047 204A 2E2E 2E2F 2E3C 2E3D 2E41 2E42
    2E4C 2E4D 2E4E 2E50 2E53 2E55 3001 3003 A4FE A500 A60D A610 A6F3 A6F8 A876 A878 A8CE A8D0 A92F
    A930 A9C7 A9CA AA5D AA60 AADF AAE0 AAF0 AAF2 ABEB ABEC FE50 FE53 FE54 FE58 FF01 FF02 FF0C FF0D
    FF0E FF0F FF1A FF1C FF1F FF20 FF61 FF62 FF64 FF65 1039F 103A0 103D0 103D1 10857 10858 1091F
    10920 10A56 10A58 10AF0 10AF6 10B3A 10B40 10B99 10B9D 10F55 10F5A 10F86 10F8A 11047 1104E
    110BE 110C2 11141 11144 111C5 111C7 111CD 111CE 111DE 111E0 11238 1123D 112A9 112AA 1144B
    1144E 1145A 1145C 115C2 115C6 115C9 115D8 11641 11643 1173C 1173F 11944 11945 11946 11947
    11A42 11A44 11A9B 11A9D 11AA1 11AA3 11C41 11C44 11C71 11C72 11EF7 11EF9 11F43 11F45 12470
    12475 16A6E 16A70 16AF5 16AF6 16B37 16B3A 16B44 16B45 16E97 16E99 1BC9F 1BCA0 1DA87 1DA8B"),
  (["uideo", "unifiedideograph"], CodeSet.ofText "
    3400 4DC0 4E00 A000 FA0E FA10 FA11 FA12 FA13 FA15 FA1F FA20 FA21 FA22 FA23 FA25 FA27 FA2A
    20000 2A6E0 2A700 2B73A 2B740 2B81E 2B820 2CEA2 2CEB0 2EBE1 2EBF0 2EE5E 30000 3134B 31350
    323B0"),
  (["upper", "uppercase"], CodeSet.ofText "
    41 5B C0 D7 D8 DF 100 101 102 103 104 105 106 107 108 109 10A 10B 10C 10D 10E 10F 110 111 112
    113 114 115 116 117 118 119 11A 11B 11C 11D 11E 11F 120 121 122 123 124 125 126 127 128 129
    12A 12B 12C 12D 12E 12F 130 131 132 133 134 135 136 137 139 13A 13B 13C 13D 13E 13F 140 141
    142 143 144 145 146 147 148 14A 14B 14C 14D 14E 14F 150 151 152 153 154 155 156 157 158 159
    15A 15B 15C 15D 15E 15F 160 161 162 163 164 165 166 167 168 169 16A 16B 16C 16D 16E 16F 170
    171 172 173 174 175 176 177 178 17A 17B 17C 17D 17E 181 183 184 185 186 188 189 18C 18E 192
    193 195 196 199 19C 19E 19F 1A1 1A2 1A3 1A4 1A5 1A6 1A8 1A9 1AA 1AC 1AD 1AE 1B0 1B1 1B4 1B5
    1B6 1B7 1B9 1BC 1BD 1C4 1C5 1C7 1C8 1CA 1CB 1CD 1CE 1CF 1D0 1D1 1D2 1D3 1D4 1D5 1D6 1D7 1D8
    1D9 1DA 1DB 1DC 1DE 1DF 1E0 1E1 1E2 1E3 1E4 1E5 1E6 1E7 1E8 1E9 1EA 1EB 1EC 1ED 1EE 1EF 1F1
    1F2 1F4 1F5 1F6 1F9 1FA 1FB 1FC 1FD 1FE 1FF 200 201 202 203 204 205 206 207 208 209 20A 20B
    20C 20D 20E 20F 210 211 212 213 214 215 216 217 218 219 21A 21B 21C 21D 21E 21F 220 221 222
    223 224 225 226 227 228 229 22A 22B 22C 22D 22E 22F 230 231 232 233 23A 23C 23D 23F 241 242
    243 247 248 249 24A 24B 24C 24D 24E 24F 370 371 372 373 376 377 37F 380 386 387 388 38B 38C
    38D 38E 390 391 3A2 3A3 3AC 3CF 3D0 3D2 3D5 3D8 3D9 3DA 3DB 3DC 3DD 3DE 3DF 3E0 3E1 3E2 3E3
    3E4 3E5 3E6 3E7 3E8 3E9 3EA 3EB 3EC 3ED 3EE 3EF 3F4 3F5 3F7 3F8 3F9 3FB 3FD 430 460 461 462
    463 464 465 466 467 468 469 46A 46B 46C 46D 46E 46F 470 471 472 473 474 475 476 477 478 479
    47A 47B 47C 47D 47E 47F 480 481 48A 48B 48C 48D 48E 48F 490 491 492 493 494 495 496 497 498
    499 49A 49B 49C 49D 49E 49F 4A0 4A1 4A2 4A3 4A4 4A5 4A6 4A7 4A8 4A9 4AA 4AB 4AC 4AD 4AE 4AF
    4B0 4B1 4B2 4B3 4B4 4B5 4B6 4B7 4B8 4B9 4BA 4BB 4BC 4BD 4BE 4BF 4C0 4C2 4C3 4C4 4C5 4C6 4C7
    4C8 4C9 4CA 4CB 4CC 4CD 4CE 4D0 4D1 4D2 4D3 4D4 4D5 4D6 4D7 4D8 4D9 4DA 4DB 4DC 4DD 4DE 4DF
    4E0 4E1 4E2 4E3 4E4 4E5 4E6 4E7 4E8 4E9 4EA 4EB 4EC 4ED 4EE 4EF 4F0 4F1 4F2 4F3 4F4 4F5 4F6
    4F7 4F8 4F9 4FA 4FB 4FC 4FD 4FE 4FF 500 501 502 503 504 505 506 507 508 509 50A 50B 50C 50D
    50E 50F 510 511 512 513 514 515 516 517 518 519 51A 51B 51C 51D 51E 51F 520 521 522 523 524
    525 526 527 528 529 52A 52B 52C 52D 52E 52F 531 557 10A0 10C6 10C7 10C8 10CD 10CE 13A0 13F6
    1C89 1C8A 1C90 1CBB 1CBD 1CC0 1E00 1E01 1E02 1E03 1E04 1E05 1E06 1E07 1E08 1E09 1E0A 1E0B 1E0C
    1E0D 1E0E 1E0F 1E10 1E11 1E12 1E13 1E14 1E15 1E16 1E17 1E18 1E19 1E1A 1E1B 1E1C 1E1D 1E1E 1E1F
    1E20 1E21 1E22 1E23 1E24 1E25 1E26 1E27 1E28 1E29 1E2A 1E2B 1E2C 1E2D 1E2E 1E2F 1E30 1E31 1E32
    1E33 1E34 1E35 1E36 1E37 1E38 1E39 1E3A 1E3B 1E3C 1E3D 1E3E 1E3F 1E40 1E41 1E42 1E43 1E44 1E45
    1E46 1E47 1E48 1E49 1E4A 1E4B 1E4C 1E4D 1E4E 1E4F 1E50 1E51 1E52 1E53 1E54 1E55 1E56 1E57 1E58
    1E59 1E5A 1E5B 1E5C 1E5D 1E5E 1E5F 1E60 1E61 1E62 1E63 1E64 1E65 1E66 1E67 1E68 1E69 1E6A 1E6B
    1E6C 1E6D 1E6E 1E6F 1E70 1E71 1E72 1E73 1E74 1E75 1E76 1E77 1E78 1E79 1E7A 1E7B 1E7C 1E7D 1E7E
    1E7F 1E80 1E81 1E82 1E83 1E84 1E85 1E86 1E87 1E88 1E89 1E8A 1E8B 1E8C 1E8D 1E8E 1E8F 1E90 1E91
    1E92 1E93 1E94 1E95 1E9E 1E9F 1EA0 1EA1 1EA2 1EA3 1EA4 1EA5 1EA6 1EA7 1EA8 1EA9 1EAA 1EAB 1EAC
    1EAD 1EAE 1EAF 1EB0 1EB1 1EB2 1EB3 1EB4 1EB5 1EB6 1EB7 1EB8 1EB9 1EBA 1EBB 1EBC 1EBD 1EBE 1EBF
    1EC0 1EC1 1EC2 1EC3 1EC4 1EC5 1EC6 1EC7 1EC8 1EC9 1ECA 1ECB 1ECC 1ECD 1ECE 1ECF 1ED0 1ED1 1ED2
    1ED3 1ED4 1ED5 1ED6 1ED7 1ED8 1ED9 1EDA 1EDB 1EDC 1EDD 1EDE 1EDF 1EE0 1EE1 1EE2 1EE3 1EE4 1EE5
    1EE6 1EE7 1EE8 1EE9 1EEA 1EEB 1EEC 1EED 1EEE 1EEF 1EF0 1EF1 1EF2 1EF3 1EF4 1EF5 1EF6 1EF7 1EF8
    1EF9 1EFA 1EFB 1EFC 1EFD 1EFE 1EFF 1F08 1F10 1F18 1F1E 1F28 1F30 1F38 1F40 1F48 1F4E 1F59 1F5A
    1F5B 1F5C 1F5D 1F5E 1F5F 1F60 1F68 1F70 1FB8 1FBC 1FC8 1FCC 1FD8 1FDC 1FE8 1FED 1FF8 1FFC 2102
    2103 2107 2108 210B 210E 2110 2113 2115 2116 2119 211E 2124 2125 2126 2127 2128 2129 212A 212E
    2130 2134 213E 2140 2145 2146 2160 2170 2183 2184 24B6 24D0 2C00 2C30 2C60 2C61 2C62 2C65 2C67
    2C68 2C69 2C6A 2C6B 2C6C 2C6D 2C71 2C72 2C73 2C75 2C76 2C7E 2C81 2C82 2C83 2C84 2C85 2C86 2C87
    2C88 2C89 2C8A 2C8B 2C8C 2C8D 2C8E 2C8F 2C90 2C91 2C92 2C93 2C94 2C95 2C96 2C97 2C98 2C99 2C9A
    2C9B 2C9C 2C9D 2C9E 2C9F 2CA0 2CA1 2CA2 2CA3 2CA4 2CA5 2CA6 2CA7 2CA8 2CA9 2CAA 2CAB 2CAC 2CAD
    2CAE 2CAF 2CB0 2CB1 2CB2 2CB3 2CB4 2CB5 2CB6 2CB7 2CB8 2CB9 2CBA 2CBB 2CBC 2CBD 2CBE 2CBF 2CC0
    2CC1 2CC2 2CC3 2CC4 2CC5 2CC6 2CC7 2CC8 2CC9 2CCA 2CCB 2CCC 2CCD 2CCE 2CCF 2CD0 2CD1 2CD2 2CD3
    2CD4 2CD5 2CD6 2CD7 2CD8 2CD9 2CDA 2CDB 2CDC 2CDD 2CDE 2CDF 2CE0 2CE1 2CE2 2CE3 2CEB 2CEC 2CED
    2CEE 2CF2 2CF3 A640 A641 A642 A643 A644 A645 A646 A647 A648 A649 A64A A64B A64C A64D A64E A64F
    A650 A651 A652 A653 A654 A655 A656 A657 A658 A659 A65A A65B A65C A65D A65E A65F A660 A661 A662
    A663 A664 A665 A666 A667 A668 A669 A66A A66B A66C A66D A680 A681 A682 A683 A684 A685 A686 A687
    A688 A689 A68A A68B A68C A68D A68E A68F A690 A691 A692 A693 A694 A695 A696 A697 A698 A699 A69A
    A69B A722 A723 A724 A725 A726 A727 A728 A729 A72A A72B A72C A72D A72E A72F A732 A733 A734 A735
    A736 A737 A738 A739 A73A A73B A73C A73D A73E A73F A740 A741 A742 A743 A744 A745 A746 A747 A748
    A749 A74A A74B A74C A74D A74E A74F A750 A751 A752 A753 A754 A755 A756 A757 A758 A759 A75A A75B
    A75C A75D A75E A75F A760 A761 A762 A763 A764 A765 A766 A767 A768 A769 A76A A76B A76C A76D A76E
    A76F A779 A77A A77B A77C A77D A77F A780 A781 A782 A783 A784 A785 A786 A787 A78B A78C A78D A78E
    A790 A791 A792 A793 A796 A797 A798 A799 A79A A79B A79C A79D A79E A79F A7A0 A7A1 A7A2 A7A3 A7A4
    A7A5 A7A6 A7A7 A7A8 A7A9 A7AA A7AF A7B0 A7B5 A7B6 A7B7 A7B8 A7B9 A7BA A7BB A7BC A7BD A7BE A7BF
    A7C0 A7C1 A7C2 A7C3 A7C4 A7C8 A7C9 A7CA A7CB A7CD A7D0 A7D1 A7D6 A7D7 A7D8 A7D9 A7DA A7DB A7DC
    A7DD A7F5 A7F6 FF21 FF3B 10400 10428 104B0 104D4 10570 1057B 1057C 1058B 1058C 10593 10594
    10596 10C80 10CB3 10D50 10D66 118A0 118C0 16E40 16E60 1D400 1D41A 1D434 1D44E 1D468 1D482
    1D49C 1D49D 1D49E 1D4A0 1D4A2 1D4A3 1D4A5 1D4A7 1D4A9 1D4AD 1D4AE 1D4B6 1D4D0 1D4EA 1D504
    1D506 1D507 1D50B 1D50D 1D515 1D516 1D51D 1D538 1D53A 1D53B 1D53F 1D540 1D545 1D546 1D547
    1D54A 1D551 1D56C 1D586 1D5A0 1D5BA 1D5D4 1D5EE 1D608 1D622 1D63C 1D656 1D670 1D68A 1D6A8
    1D6C1 1D6E2 1D6FB 1D71C 1D735 1D756 1D76F 1D790 1D7A9 1D7CA 1D7CB 1E900 1E922 1F130 1F14A
    1F150 1F16A 1F170 1F18A"),
  (["variationselector", "vs"], CodeSet.ofText "
    180B 180E 180F 1810 FE00 FE10 E0100 E01F0"),
  (["space", "whitespace", "wspace"], CodeSet.ofText "
    9 E 20 21 85 86 A0 A1 1680 1681 2000 200B 2028 202A 202F 2030 205F 2060 3000 3001"),
  (["xidc", "xidcontinue"], CodeSet.ofText "
    30 3A 41 5B 5F 60 61 7B AA AB B5 B6 B7 B8 BA BB C0 D7 D8 F7 F8 2C2 2C6 2D2 2E0 2E5 2EC 2ED 2EE
    2EF 300 375 376 378 37B 37E 37F 380 386 38B 38C 38D 38E 3A2 3A3 3F6 3F7 482 483 488 48A 530
    531 557 559 55A 560 589 591 5BE 5BF 5C0 5C1 5C3 5C4 5C6 5C7 5C8 5D0 5EB 5EF 5F3 610 61B 620
    66A 66E 6D4 6D5 6DD 6DF 6E9 6EA 6FD 6FF 700 710 74B 74D 7B2 7C0 7F6 7FA 7FB 7FD 7FE 800 82E
    840 85C 860 86B 870 888 889 88F 897 8E2 8E3 964 966 970 971 984 985 98D 98F 991 993 9A9 9AA
    9B1 9B2 9B3 9B6 9BA 9BC 9C5 9C7 9C9 9CB 9CF 9D7 9D8 9DC 9DE 9DF 9E4 9E6 9F2 9FC 9FD 9FE 9FF
    A01 A04 A05 A0B A0F A11 A13 A29 A2A A31 A32 A34 A35 A37 A38 A3A A3C A3D A3E A43 A47 A49 A4B
    A4E A51 A52 A59 A5D A5E A5F A66 A76 A81 A84 A85 A8E A8F A92 A93 AA9 AAA AB1 AB2 AB4 AB5 ABA
    ABC AC6 AC7 ACA ACB ACE AD0 AD1 AE0 AE4 AE6 AF0 AF9 B00 B01 B04 B05 B0D B0F B11 B13 B29 B2A
    B31 B32 B34 B35 B3A B3C B45 B47 B49 B4B B4E B55 B58 B5C B5E B5F B64 B66 B70 B71 B72 B82 B84
    B85 B8B B8E B91 B92 B96 B99 B9B B9C B9D B9E BA0 BA3 BA5 BA8 BAB BAE BBA BBE BC3 BC6 BC9 BCA
    BCE BD0 BD1 BD7 BD8 BE6 BF0 C00 C0D C0E C11 C12 C29 C2A C3A C3C C45 C46 C49 C4A C4E C55 C57
    C58 C5B C5D C5E C60 C64 C66 C70 C80 C84 C85 C8D C8E C91 C92 CA9 CAA CB4 CB5 CBA CBC CC5 CC6
    CC9 CCA CCE CD5 CD7 CDD CDF CE0 CE4 CE6 CF0 CF1 CF4 D00 D0D D0E D11 D12 D45 D46 D49 D4A D4F
    D54 D58 D5F D64 D66 D70 D7A D80 D81 D84 D85 D97 D9A DB2 DB3 DBC DBD DBE DC0 DC7 DCA DCB DCF
    DD5 DD6 DD7 DD8 DE0 DE6 DF0 DF2 DF4 E01 E3B E40 E4F E50 E5A E81 E83 E84 E85 E86 E8B E8C EA4
    EA5 EA6 EA7 EBE EC0 EC5 EC6 EC7 EC8 ECF ED0 EDA EDC EE0 F00 F01 F18 F1A F20 F2A F35 F36 F37
    F38 F39 F3A F3E F48 F49 F6D F71 F85 F86 F98 F99 FBD FC6 FC7 1000 104A 1050 109E 10A0 10C6 10C7
    10C8 10CD 10CE 10D0 10FB 10FC 1249 124A 124E 1250 1257 1258 1259 125A 125E 1260 1289 128A 128E
    1290 12B1 12B2 12B6 12B8 12BF 12C0 12C1 12C2 12C6 12C8 12D7 12D8 1311 1312 1316 1318 135B 135D
    1360 1369 1372 1380 1390 13A0 13F6 13F8 13FE 1401 166D 166F 1680 1681 169B 16A0 16EB 16EE 16F9
    1700 1716 171F 1735 1740 1754 1760 176D 176E 1771 1772 1774 1780 17D4 17D7 17D8 17DC 17DE 17E0
    17EA 180B 180E 180F 181A 1820 1879 1880 18AB 18B0 18F6 1900 191F 1920 192C 1930 193C 1946 196E
    1970 1975 1980 19AC 19B0 19CA 19D0 19DB 1A00 1A1C 1A20 1A5F 1A60 1A7D 1A7F 1A8A 1A90 1A9A 1AA7
    1AA8 1AB0 1ABE 1ABF 1ACF 1B00 1B4D 1B50 1B5A 1B6B 1B74 1B80 1BF4 1C00 1C38 1C40 1C4A 1C4D 1C7E
    1C80 1C8B 1C90 1CBB 1CBD 1CC0 1CD0 1CD3 1CD4 1CFB 1D00 1F16 1F18 1F1E 1F20 1F46 1F48 1F4E 1F50
    1F58 1F59 1F5A 1F5B 1F5C 1F5D 1F5E 1F5F 1F7E 1F80 1FB5 1FB6 1FBD 1FBE 1FBF 1FC2 1FC5 1FC6 1FCD
    1FD0 1FD4 1FD6 1FDC 1FE0 1FED 1FF2 1FF5 1FF6 1FFD 203F 2041 2054 2055 2071 2072 207F 2080 2090
    209D 20D0 20DD 20E1 20E2 20E5 20F1 2102 2103 2107 2108 210A 2114 2115 2116 2118 211E 2124 2125
    2126 2127 2128 2129 212A 213A 213C 2140 2145 214A 214E 214F 2160 2189 2C00 2CE5 2CEB 2CF4 2D00
    2D26 2D27 2D28 2D2D 2D2E 2D30 2D68 2D6F 2D70 2D7F 2D97 2DA0 2DA7 2DA8 2DAF 2DB0 2DB7 2DB8 2DBF
    2DC0 2DC7 2DC8 2DCF 2DD0 2DD7 2DD8 2DDF 2DE0 2E00 3005 3008 3021 3030 3031 3036 3038 303D 3041
    3097 3099 309B 309D 30A0 30A1 30FB 30FC 3100 3105 3130 3131 318F 31A0 31C0 31F0 3200 3400 4DC0
    4E00 A48D A4D0 A4FE A500 A60D A610 A62C A640 A670 A674 A67E A67F A6F2 A717 A720 A722 A789 A78B
    A7CE A7D0 A7D2 A7D3 A7D4 A7D5 A7DD A7F2 A828 A82C A82D A840 A874 A880 A8C6 A8D0 A8DA A8E0 A8F8
    A8FB A8FC A8FD A92E A930 A954 A960 A97D A980 A9C1 A9CF A9DA A9E0 A9FF AA00 AA37 AA40 AA4E AA50
    AA5A AA60 AA77 AA7A AAC3 AADB AADE AAE0 AAF0 AAF2 AAF7 AB01 AB07 AB09 AB0F AB11 AB17 AB20 AB27
    AB28 AB2F AB30 AB5B AB5C AB6A AB70 ABEB ABEC ABEE ABF0 ABFA AC00 D7A4 D7B0 D7C7 D7CB D7FC F900
    FA6E FA70 FADA FB00 FB07 FB13 FB18 FB1D FB29 FB2A FB37 FB38 FB3D FB3E FB3F FB40 FB42 FB43 FB45
    FB46 FBB2 FBD3 FC5E FC64 FD3E FD50 FD90 FD92 FDC8 FDF0 FDFA FE00 FE10 FE20 FE30 FE33 FE35 FE4D
    FE50 FE71 FE72 FE73 FE74 FE77 FE78 FE79 FE7A FE7B FE7C FE7D FE7E FE7F FEFD FF10 FF1A FF21 FF3B
    FF3F FF40 FF41 FF5B FF66 FFBF FFC2 FFC8 FFCA FFD0 FFD2 FFD8 FFDA FFDD 10000 1000C 1000D 10027
    10028 1003B 1003C 1003E 1003F 1004E 10050 1005E 10080 100FB 10140 10175 101FD 101FE 10280
    1029D 102A0 102D1 102E0 102E1 10300 10320 1032D 1034B 10350 1037B 10380 1039E 103A0 103C4
    103C8 103D0 103D1 103D6 10400 1049E 104A0 104AA 104B0 104D4 104D8 104FC 10500 10528 10530
    10564 10570 1057B 1057C 1058B 1058C 10593 10594 10596 10597 105A2 105A3 105B2 105B3 105BA
    105BB 105BD 105C0 105F4 10600 10737 10740 10756 10760 10768 10780 10786 10787 107B1 107B2
    107BB 10800 10806 10808 10809 1080A 10836 10837 10839 1083C 1083D 1083F 10856 10860 10877
    10880 1089F 108E0 108F3 108F4 108F6 10900 10916 10920 1093A 10980 109B8 109BE 109C0 10A00
    10A04 10A05 10A07 10A0C 10A14 10A15 10A18 10A19 10A36 10A38 10A3B 10A3F 10A40 10A60 10A7D
    10A80 10A9D 10AC0 10AC8 10AC9 10AE7 10B00 10B36 10B40 10B56 10B60 10B73 10B80 10B92 10C00
    10C49 10C80 10CB3 10CC0 10CF3 10D00 10D28 10D30 10D3A 10D40 10D66 10D69 10D6E 10D6F 10D86
    10E80 10EAA 10EAB 10EAD 10EB0 10EB2 10EC2 10EC5 10EFC 10F1D 10F27 10F28 10F30 10F51 10F70
    10F86 10FB0 10FC5 10FE0 10FF7 11000 11047 11066 11076 1107F 110BB 110C2 110C3 110D0 110E9
    110F0 110FA 11100 11135 11136 11140 11144 11148 11150 11174 11176 11177 11180 111C5 111C9
    111CD 111CE 111DB 111DC 111DD 11200 11212 11213 11238 1123E 11242 11280 11287 11288 11289
    1128A 1128E 1128F 1129E 1129F 112A9 112B0 112EB 112F0 112FA 11300 11304 11305 1130D 1130F
    11311 11313 11329 1132A 11331 11332 11334 11335 1133A 1133B 11345 11347 11349 1134B 1134E
    11350 11351 11357 11358 1135D 11364 11366 1136D 11370 11375 11380 1138A 1138B 1138C 1138E
    1138F 11390 113B6 113B7 113C1 113C2 113C3 113C5 113C6 113C7 113CB 113CC 113D4 113E1 113E3
    11400 1144B 11450 1145A 1145E 11462 11480 114C6 114C7 114C8 114D0 114DA 11580 115B6 115B8
    115C1 115D8 115DE 11600 11641 11644 11645 11650 1165A 11680 116B9 116C0 116CA 116D0 116E4
    11700 1171B 1171D 1172C 11730 1173A 11740 11747 11800 1183B 118A0 118EA 118FF 11907 11909
    1190A 1190C 11914 11915 11917 11918 11936 11937 11939 1193B 11944 11950 1195A 119A0 119A8
    119AA 119D8 119DA 119E2 119E3 119E5 11A00 11A3F 11A47 11A48 11A50 11A9A 11A9D 11A9E 11AB0
    11AF9 11BC0 11BE1 11BF0 11BFA 11C00 11C09 11C0A 11C37 11C38 11C41 11C50 11C5A 11C72 11C90
    11C92 11CA8 11CA9 11CB7 11D00 11D07 11D08 11D0A 11D0B 11D37 11D3A 11D3B 11D3C 11D3E 11D3F
    11D48 11D50 11D5A 11D60 11D66 11D67 11D69 11D6A 11D8F 11D90 11D92 11D93 11D99 11DA0 11DAA
    11EE0 11EF7 11F00 11F11 11F12 11F3B 11F3E 11F43 11F50 11F5B 11FB0 11FB1 12000 1239A 12400
    1246F 12480 12544 12F90 12FF1 13000 13430 13440 13456 13460 143FB 14400 14647 16100 1613A
    16800 16A39 16A40 16A5F 16A60 16A6A 16A70 16ABF 16AC0 16ACA 16AD0 16AEE 16AF0 16AF5 16B00
    16B37 16B40 16B44 16B50 16B5A 16B63 16B78 16B7D 16B90 16D40 16D6D 16D70 16D7A 16E40 16E80
    16F00 16F4B 16F4F 16F88 16F8F 16FA0 16FE0 16FE2 16FE3 16FE5 16FF0 16FF2 17000 187F8 18800
    18CD6 18CFF 18D09 1AFF0 1AFF4 1AFF5 1AFFC 1AFFD 1AFFF 1B000 1B123 1B132 1B133 1B150 1B153
    1B155 1B156 1B164 1B168 1B170 1B2FC 1BC00 1BC6B 1BC70 1BC7D 1BC80 1BC89 1BC90 1BC9A 1BC9D
    1BC9F 1CCF0 1CCFA 1CF00 1CF2E 1CF30 1CF47 1D165 1D16A 1D16D 1D173 1D17B 1D183 1D185 1D18C
    1D1AA 1D1AE 1D242 1D245 1D400 1D455 1D456 1D49D 1D49E 1D4A0 1D4A2 1D4A3 1D4A5 1D4A7 1D4A9
    1D4AD 1D4AE 1D4BA 1D4BB 1D4BC 1D4BD 1D4C4 1D4C5 1D506 1D507 1D50B 1D50D 1D515 1D516 1D51D
    1D51E 1D53A 1D53B 1D53F 1D540 1D545 1D546 1D547 1D54A 1D551 1D552 1D6A6 1D6A8 1D6C1 1D6C2
    1D6DB 1D6DC 1D6FB 1D6FC 1D715 1D716 1D735 1D736 1D74F 1D750 1D76F 1D770 1D789 1D78A 1D7A9
    1D7AA 1D7C3 1D7C4 1D7CC 1D7CE 1D800 1DA00 1DA37 1DA3B 1DA6D 1DA75 1DA76 1DA84 1DA85 1DA9B
    1DAA0 1DAA1 1DAB0 1DF00 1DF1F 1DF25 1DF2B 1E000 1E007 1E008 1E019 1E01B 1E022 1E023 1E025
    1E026 1E02B 1E030 1E06E 1E08F 1E090 1E100 1E12D 1E130 1E13E 1E140 1E14A 1E14E 1E14F 1E290
    1E2AF 1E2C0 1E2FA 1E4D0 1E4FA 1E5D0 1E5FB 1E7E0 1E7E7 1E7E8 1E7EC 1E7ED 1E7EF 1E7F0 1E7FF
    1E800 1E8C5 1E8D0 1E8D7 1E900 1E94C 1E950 1E95A 1EE00 1EE04 1EE05 1EE20 1EE21 1EE23 1EE24
    1EE25 1EE27 1EE28 1EE29 1EE33 1EE34 1EE38 1EE39 1EE3A 1EE3B 1EE3C 1EE42 1EE43 1EE47 1EE48
    1EE49 1EE4A 1EE4B 1EE4C 1EE4D 1EE50 1EE51 1EE53 1EE54 1EE55 1EE57 1EE58 1EE59 1EE5A 1EE5B
    1EE5C 1EE5D 1EE5E 1EE5F 1EE60 1EE61 1EE63 1EE64 1EE65 1EE67 1EE6B 1EE6C 1EE73 1EE74 1EE78
    1EE79 1EE7D 1EE7E 1EE7F 1EE80 1EE8A 1EE8B 1EE9C 1EEA1 1EEA4 1EEA5 1EEAA 1EEAB 1EEBC 1FBF0
    1FBFA 20000 2A6E0 2A700 2B73A 2B740 2B81E 2B820 2CEA2 2CEB0 2EBE1 2EBF0 2EE5E 2F800 2FA1E
    30000 3134B 31350 323B0 E0100 E01F0"),
  (["xids", "xidstart"], CodeSet.ofText "
    41 5B 61 7B AA AB B5 B6 BA BB C0 D7 D8 F7 F8 2C2 2C6 2D2 2E0 2E5 2EC 2ED 2EE 2EF 370 375 376
    378 37B 37E 37F 380 386 387 388 38B 38C 38D 38E 3A2 3A3 3F6 3F7 482 48A 530 531 557 559 55A
    560 589 5D0 5EB 5EF 5F3 620 64B 66E 670 671 6D4 6D5 6D6 6E5 6E7 6EE 6F0 6FA 6FD 6FF 700 710
    711 712 730 74D 7A6 7B1 7B2 7CA 7EB 7F4 7F6 7FA 7FB 800 816 81A 81B 824 825 828 829 840 859
    860 86B 870 888 889 88F 8A0 8CA 904 93A 93D 93E 950 951 958 962 971 981 985 98D 98F 991 993
    9A9 9AA 9B1 9B2 9B3 9B6 9BA 9BD 9BE 9CE 9CF 9DC 9DE 9DF 9E2 9F0 9F2 9FC 9FD A05 A0B A0F A11
    A13 A29 A2A A31 A32 A34 A35 A37 A38 A3A A59 A5D A5E A5F A72 A75 A85 A8E A8F A92 A93 AA9 AAA
    AB1 AB2 AB4 AB5 ABA ABD ABE AD0 AD1 AE0 AE2 AF9 AFA B05 B0D B0F B11 B13 B29 B2A B31 B32 B34
    B35 B3A B3D B3E B5C B5E B5F B62 B71 B72 B83 B84 B85 B8B B8E B91 B92 B96 B99 B9B B9C B9D B9E
    BA0 BA3 BA5 BA8 BAB BAE BBA BD0 BD1 C05 C0D C0E C11 C12 C29 C2A C3A C3D C3E C58 C5B C5D C5E
    C60 C62 C80 C81 C85 C8D C8E C91 C92 CA9 CAA CB4 CB5 CBA CBD CBE CDD CDF CE0 CE2 CF1 CF3 D04
    D0D D0E D11 D12 D3B D3D D3E D4E D4F D54 D57 D5F D62 D7A D80 D85 D97 D9A DB2 DB3 DBC DBD DBE
    DC0 DC7 E01 E31 E32 E33 E40 E47 E81 E83 E84 E85 E86 E8B E8C EA4 EA5 EA6 EA7 EB1 EB2 EB3 EBD
    EBE EC0 EC5 EC6 EC7 EDC EE0 F00 F01 F40 F48 F49 F6D F88 F8D 1000 102B 103F 1040 1050 1056 105A
    105E 1061 1062 1065 1067 106E 1071 1075 1082 108E 108F 10A0 10C6 10C7 10C8 10CD 10CE 10D0 10FB
    10FC 1249 124A 124E 1250 1257 1258 1259 125A 125E 1260 1289 128A 128E 1290 12B1 12B2 12B6 12B8
    12BF 12C0 12C1 12C2 12C6 12C8 12D7 12D8 1311 1312 1316 1318 135B 1380 1390 13A0 13F6 13F8 13FE
    1401 166D 166F 1680 1681 169B 16A0 16EB 16EE 16F9 1700 1712 171F 1732 1740 1752 1760 176D 176E
    1771 1780 17B4 17D7 17D8 17DC 17DD 1820 1879 1880 18A9 18AA 18AB 18B0 18F6 1900 191F 1950 196E
    1970 1975 1980 19AC 19B0 19CA 1A00 1A17 1A20 1A55 1AA7 1AA8 1B05 1B34 1B45 1B4D 1B83 1BA1 1BAE
    1BB0 1BBA 1BE6 1C00 1C24 1C4D 1C50 1C5A 1C7E 1C80 1C8B 1C90 1CBB 1CBD 1CC0 1CE9 1CED 1CEE 1CF4
    1CF5 1CF7 1CFA 1CFB 1D00 1DC0 1E00 1F16 1F18 1F1E 1F20 1F46 1F48 1F4E 1F50 1F58 1F59 1F5A 1F5B
    1F5C 1F5D 1F5E 1F5F 1F7E 1F80 1FB5 1FB6 1FBD 1FBE 1FBF 1FC2 1FC5 1FC6 1FCD 1FD0 1FD4 1FD6 1FDC
    1FE0 1FED 1FF2 1FF5 1FF6 1FFD 2071 2072 207F 2080 2090 209D 2102 2103 2107 2108 210A 2114 2115
    2116 2118 211E 2124 2125 2126 2127 2128 2129 212A 213A 213C 2140 2145 214A 214E 214F 2160 2189
    2C00 2CE5 2CEB 2CEF 2CF2 2CF4 2D00 2D26 2D27 2D28 2D2D 2D2E 2D30 2D68 2D6F 2D70 2D80 2D97 2DA0
    2DA7 2DA8 2DAF 2DB0 2DB7 2DB8 2DBF 2DC0 2DC7 2DC8 2DCF 2DD0 2DD7 2DD8 2DDF 3005 3008 3021 302A
    3031 3036 3038 303D 3041 3097 309D 30A0 30A1 30FB 30FC 3100 3105 3130 3131 318F 31A0 31C0 31F0
    3200 3400 4DC0 4E00 A48D A4D0 A4FE A500 A60D A610 A620 A62A A62C A640 A66F A67F A69E A6A0 A6F0
    A717 A720 A722 A789 A78B A7CE A7D0 A7D2 A7D3 A7D4 A7D5 A7DD A7F2 A802 A803 A806 A807 A80B A80C
    A823 A840 A874 A882 A8B4 A8F2 A8F8 A8FB A8FC A8FD A8FF A90A A926 A930 A947 A960 A97D A984 A9B3
    A9CF A9D0 A9E0 A9E5 A9E6 A9F0 A9FA A9FF AA00 AA29 AA40 AA43 AA44 AA4C AA60 AA77 AA7A AA7B AA7E
    AAB0 AAB1 AAB2 AAB5 AAB7 AAB9 AABE AAC0 AAC1 AAC2 AAC3 AADB AADE AAE0 AAEB AAF2 AAF5 AB01 AB07
    AB09 AB0F AB11 AB17 AB20 AB27 AB28 AB2F AB30 AB5B AB5C AB6A AB70 ABE3 AC00 D7A4 D7B0 D7C7 D7CB
    D7FC F900 FA6E FA70 FADA FB00 FB07 FB13 FB18 FB1D FB1E FB1F FB29 FB2A FB37 FB38 FB3D FB3E FB3F
    FB40 FB42 FB43 FB45 FB46 FBB2 FBD3 FC5E FC64 FD3E FD50 FD90 FD92 FDC8 FDF0 FDFA FE71 FE72 FE73
    FE74 FE77 FE78 FE79 FE7A FE7B FE7C FE7D FE7E FE7F FEFD FF21 FF3B FF41 FF5B FF66 FF9E FFA0 FFBF
    FFC2 FFC8 FFCA FFD0 FFD2 FFD8 FFDA FFDD 10000 1000C 1000D 10027 10028 1003B 1003C 1003E 1003F
    1004E 10050 1005E 10080 100FB 10140 10175 10280 1029D 102A0 102D1 10300 10320 1032D 1034B
    10350 10376 10380 1039E 103A0 103C4 103C8 103D0 103D1 103D6 10400 1049E 104B0 104D4 104D8
    104FC 10500 10528 10530 10564 10570 1057B 1057C 1058B 1058C 10593 10594 10596 10597 105A2
    105A3 105B2 105B3 105BA 105BB 105BD 105C0 105F4 10600 10737 10740 10756 10760 10768 10780
    10786 10787 107B1 107B2 107BB 10800 10806 10808 10809 1080A 10836 10837 10839 1083C 1083D
    1083F 10856 10860 10877 10880 1089F 108E0 108F3 108F4 108F6 10900 10916 10920 1093A 10980
    109B8 109BE 109C0 10A00 10A01 10A10 10A14 10A15 10A18 10A19 10A36 10A60 10A7D 10A80 10A9D
    10AC0 10AC8 10AC9 10AE5 10B00 10B36 10B40 10B56 10B60 10B73 10B80 10B92 10C00 10C49 10C80
    10CB3 10CC0 10CF3 10D00 10D24 10D4A 10D66 10D6F 10D86 10E80 10EAA 10EB0 10EB2 10EC2 10EC5
    10F00 10F1D 10F27 10F28 10F30 10F46 10F70 10F82 10FB0 10FC5 10FE0 10FF7 11003 11038 11071
    11073 11075 11076 11083 110B0 110D0 110E9 11103 11127 11144 11145 11147 11148 11150 11173
    11176 11177 11183 111B3 111C1 111C5 111DA 111DB 111DC 111DD 11200 11212 11213 1122C 1123F
    11241 11280 11287 11288 11289 1128A 1128E 1128F 1129E 1129F 112A9 112B0 112DF 11305 1130D
    1130F 11311 11313 11329 1132A 11331 11332 11334 11335 1133A 1133D 1133E 11350 11351 1135D
    11362 11380 1138A 1138B 1138C 1138E 1138F 11390 113B6 113B7 113B8 113D1 113D2 113D3 113D4
    11400 11435 11447 1144B 1145F 11462 11480 114B0 114C4 114C6 114C7 114C8 11580 115AF 115D8
    115DC 11600 11630 11644 11645 11680 116AB 116B8 116B9 11700 1171B 11740 11747 11800 1182C
    118A0 118E0 118FF 11907 11909 1190A 1190C 11914 11915 11917 11918 11930 1193F 11940 11941
    11942 119A0 119A8 119AA 119D1 119E1 119E2 119E3 119E4 11A00 11A01 11A0B 11A33 11A3A 11A3B
    11A50 11A51 11A5C 11A8A 11A9D 11A9E 11AB0 11AF9 11BC0 11BE1 11C00 11C09 11C0A 11C2F 11C40
    11C41 11C72 11C90 11D00 11D07 11D08 11D0A 11D0B 11D31 11D46 11D47 11D60 11D66 11D67 11D69
    11D6A 11D8A 11D98 11D99 11EE0 11EF3 11F02 11F03 11F04 11F11 11F12 11F34 11FB0 11FB1 12000
    1239A 12400 1246F 12480 12544 12F90 12FF1 13000 13430 13441 13447 13460 143FB 14400 14647
    16100 1611E 16800 16A39 16A40 16A5F 16A70 16ABF 16AD0 16AEE 16B00 16B30 16B40 16B44 16B63
    16B78 16B7D 16B90 16D40 16D6D 16E40 16E80 16F00 16F4B 16F50 16F51 16F93 16FA0 16FE0 16FE2
    16FE3 16FE4 17000 187F8 18800 18CD6 18CFF 18D09 1AFF0 1AFF4 1AFF5 1AFFC 1AFFD 1AFFF 1B000
    1B123 1B132 1B133 1B150 1B153 1B155 1B156 1B164 1B168 1B170 1B2FC 1BC00 1BC6B 1BC70 1BC7D
    1BC80 1BC89 1BC90 1BC9A 1D400 1D455 1D456 1D49D 1D49E 1D4A0 1D4A2 1D4A3 1D4A5 1D4A7 1D4A9
    1D4AD 1D4AE 1D4BA 1D4BB 1D4BC 1D4BD 1D4C4 1D4C5 1D506 1D507 1D50B 1D50D 1D515 1D516 1D51D
    1D51E 1D53A 1D53B 1D53F 1D540 1D545 1D546 1D547 1D54A 1D551 1D552 1D6A6 1D6A8 1D6C1 1D6C2
    1D6DB 1D6DC 1D6FB 1D6FC 1D715 1D716 1D735 1D736 1D74F 1D750 1D76F 1D770 1D789 1D78A 1D7A9
    1D7AA 1D7C3 1D7C4 1D7CC 1DF00 1DF1F 1DF25 1DF2B 1E030 1E06E 1E100 1E12D 1E137 1E13E 1E14E
    1E14F 1E290 1E2AE 1E2C0 1E2EC 1E4D0 1E4EC 1E5D0 1E5EE 1E5F0 1E5F1 1E7E0 1E7E7 1E7E8 1E7EC
    1E7ED 1E7EF 1E7F0 1E7FF 1E800 1E8C5 1E900 1E944 1E94B 1E94C 1EE00 1EE04 1EE05 1EE20 1EE21
    1EE23 1EE24 1EE25 1EE27 1EE28 1EE29 1EE33 1EE34 1EE38 1EE39 1EE3A 1EE3B 1EE3C 1EE42 1EE43
    1EE47 1EE48 1EE49 1EE4A 1EE4B 1EE4C 1EE4D 1EE50 1EE51 1EE53 1EE54 1EE55 1EE57 1EE58 1EE59
    1EE5A 1EE5B 1EE5C 1EE5D 1EE5E 1EE5F 1EE60 1EE61 1EE63 1EE64 1EE65 1EE67 1EE6B 1EE6C 1EE73
    1EE74 1EE78 1EE79 1EE7D 1EE7E 1EE7F 1EE80 1EE8A 1EE8B 1EE9C 1EEA1 1EEA4 1EEA5 1EEAA 1EEAB
    1EEBC 20000 2A6E0 2A700 2B73A 2B740 2B81E 2B820 2CEA2 2CEB0 2EBE1 2EBF0 2EE5E 2F800 2FA1E
    30000 3134B 31350 323B0")]

end FileIndex.Pattern
