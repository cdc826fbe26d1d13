import BrowserFlow.Text.CodeTable

/-!
Classes of characters that decide where they may stand in a domain name.
-/

namespace BrowserFlow.Url

/-- Combining marks. -/
def markText : String := "
300-36F 483-489 591-5BD 5BF 5C1-5C2 5C4-5C5 5C7 610-61A 64B-65F 670 6D6-6DC 6DF-6E4 6E7-6E8
6EA-6ED 711 730-74A 7A6-7B0 7EB-7F3 7FD 816-819 81B-823 825-827 829-82D 859-85B 897-89F 8CA-8E1
8E3-903 93A-93C 93E-94F 951-957 962-963 981-983 9BC 9BE-9C4 9C7-9C8 9CB-9CD 9D7 9E2-9E3 9FE
A01-A03 A3C A3E-A42 A47-A48 A4B-A4D A51 A70-A71 A75 A81-A83 ABC ABE-AC5 AC7-AC9 ACB-ACD AE2-AE3
AFA-AFF B01-B03 B3C B3E-B44 B47-B48 B4B-B4D B55-B57 B62-B63 B82 BBE-BC2 BC6-BC8 BCA-BCD BD7
C00-C04 C3C C3E-C44 C46-C48 C4A-C4D C55-C56 C62-C63 C81-C83 CBC CBE-CC4 CC6-CC8 CCA-CCD CD5-CD6
CE2-CE3 CF3 D00-D03 D3B-D3C D3E-D44 D46-D48 D4A-D4D D57 D62-D63 D81-D83 DCA DCF-DD4 DD6 DD8-DDF
DF2-DF3 E31 E34-E3A E47-E4E EB1 EB4-EBC EC8-ECE F18-F19 F35 F37 F39 F3E-F3F F71-F84 F86-F87
F8D-F97 F99-FBC FC6 102B-103E 1056-1059 105E-1060 1062-1064 1067-106D 1071-1074 1082-108D 108F
109A-109D 135D-135F 1712-1715 1732-1734 1752-1753 1772-1773 17B4-17D3 17DD 180B-180D 180F
1885-1886 18A9 1920-192B 1930-193B 1A17-1A1B 1A55-1A5E 1A60-1A7C 1A7F 1AB0-1ADD 1AE0-1AEB
1B00-1B04 1B34-1B44 1B6B-1B73 1B80-1B82 1BA1-1BAD 1BE6-1BF3 1C24-1C37 1CD0-1CD2 1CD4-1CE8 1CED
1CF4 1CF7-1CF9 1DC0-1DFF 20D0-20F0 2CEF-2CF1 2D7F 2DE0-2DFF 302A-302F 3099-309A A66F-A672
A674-A67D A69E-A69F A6F0-A6F1 A802 A806 A80B A823-A827 A82C A880-A881 A8B4-A8C5 A8E0-A8F1 A8FF
A926-A92D A947-A953 A980-A983 A9B3-A9C0 A9E5 AA29-AA36 AA43 AA4C-AA4D AA7B-AA7D AAB0 AAB2-AAB4
AAB7-AAB8 AABE-AABF AAC1 AAEB-AAEF AAF5-AAF6 ABE3-ABEA ABEC-ABED FB1E FE00-FE0F FE20-FE2F 101FD
102E0 10376-1037A 10A01-10A03 10A05-10A06 10A0C-10A0F 10A38-10A3A 10A3F 10AE5-10AE6 10D24-10D27
10D69-10D6D 10EAB-10EAC 10EFA-10EFF 10F46-10F50 10F82-10F85 11000-11002 11038-11046 11070
11073-11074 1107F-11082 110B0-110BA 110C2 11100-11102 11127-11134 11145-11146 11173 11180-11182
111B3-111C0 111C9-111CC 111CE-111CF 1122C-11237 1123E 11241 112DF-112EA 11300-11303 1133B-1133C
1133E-11344 11347-11348 1134B-1134D 11357 11362-11363 11366-1136C 11370-11374 113B8-113C0 113C2
113C5 113C7-113CA 113CC-113D0 113D2 113E1-113E2 11435-11446 1145E 114B0-114C3 115AF-115B5
115B8-115C0 115DC-115DD 11630-11640 116AB-116B7 1171D-1172B 1182C-1183A 11930-11935 11937-11938
1193B-1193E 11940 11942-11943 119D1-119D7 119DA-119E0 119E4 11A01-11A0A 11A33-11A39 11A3B-11A3E
11A47 11A51-11A5B 11A8A-11A99 11B60-11B67 11C2F-11C36 11C38-11C3F 11C92-11CA7 11CA9-11CB6
11D31-11D36 11D3A 11D3C-11D3D 11D3F-11D45 11D47 11D8A-11D8E 11D90-11D91 11D93-11D97 11EF3-11EF6
11F00-11F01 11F03 11F34-11F3A 11F3E-11F42 11F5A 13440 13447-13455 1611E-1612F 16AF0-16AF4
16B30-16B36 16F4F 16F51-16F87 16F8F-16F92 16FE4 16FF0-16FF1 1BC9D-1BC9E 1CF00-1CF2D 1CF30-1CF46
1D165-1D169 1D16D-1D172 1D17B-1D182 1D185-1D18B 1D1AA-1D1AD 1D242-1D244 1DA00-1DA36 1DA3B-1DA6C
1DA75 1DA84 1DA9B-1DA9F 1DAA1-1DAAF 1E000-1E006 1E008-1E018 1E01B-1E021 1E023-1E024 1E026-1E02A
1E08F 1E130-1E136 1E2AE 1E2EC-1E2EF 1E4EC-1E4EF 1E5EE-1E5EF 1E6E3 1E6E6 1E6EE-1E6EF 1E6F5
1E8D0-1E8D6 1E944-1E94A E0100-E01EF"

/-- The directions of characters other than those written from left to right: 1 and 2 for letters
written from right to left, 3 for Arabic and 4 for European digits, 5 for neutral characters, 6 for
marks, 7 for what stands in no domain name. -/
def directionText : String := "
0-8:5 9-D:7 E-1B:5 1C-20:7 21-2F:5 30-39:4 3A-40:5 5B-60:5 7B-84:5 85:7 86-A9:5 AB-B1:5 B2-B3:4
B4:5 B6-B8:5 B9:4 BB-BF:5 D7:5 F7:5 2B9-2BA:5 2C2-2CF:5 2D2-2DF:5 2E5-2ED:5 2EF-2FF:5 300-36F:6
374-375:5 37E:5 384-385:5 387:5 3F6:5 483-489:6 58A:5 58D-58F:5 590:1 591-5BD:6 5BE:1 5BF:6
5C0:1 5C1-5C2:6 5C3:1 5C4-5C5:6 5C6:1 5C7:6 5C8-5FF:1 600-605:3 606-607:5 608:2 609-60A:5 60B:2
60C:5 60D:2 60E-60F:5 610-61A:6 61B-64A:2 64B-65F:6 660-669:3 66A:5 66B-66C:3 66D-66F:2 670:6
671-6D5:2 6D6-6DC:6 6DD:3 6DE:5 6DF-6E4:6 6E5-6E6:2 6E7-6E8:6 6E9:5 6EA-6ED:6 6EE-6EF:2
6F0-6F9:4 6FA-710:2 711:6 712-72F:2 730-74A:6 74B-7A5:2 7A6-7B0:6 7B1-7BF:2 7C0-7EA:1 7EB-7F3:6
7F4-7F5:1 7F6-7F9:5 7FA-7FC:1 7FD:6 7FE-815:1 816-819:6 81A:1 81B-823:6 824:1 825-827:6 828:1
829-82D:6 82E-858:1 859-85B:6 85C-85F:1 860-88F:2 890-891:3 892-897:2 898-89F:6 8A0-8C9:2
8CA-8E1:6 8E2:3 8E3-902:6 93A:6 93C:6 941-948:6 94D:6 951-957:6 962-963:6 981:6 9BC:6 9C1-9C4:6
9CD:6 9E2-9E3:6 9F2-9F3:5 9FB:5 9FE:6 A01-A02:6 A3C:6 A41-A42:6 A47-A48:6 A4B-A4D:6 A51:6
A70-A71:6 A75:6 A81-A82:6 ABC:6 AC1-AC5:6 AC7-AC8:6 ACD:6 AE2-AE3:6 AF1:5 AFA-AFF:6 B01:6 B3C:6
B3F:6 B41-B44:6 B4D:6 B55-B56:6 B62-B63:6 B82:6 BC0:6 BCD:6 BF3-BFA:5 C00:6 C04:6 C3C:6
C3E-C40:6 C46-C48:6 C4A-C4D:6 C55-C56:6 C62-C63:6 C78-C7E:5 C81:6 CBC:6 CCC-CCD:6 CE2-CE3:6
D00-D01:6 D3B-D3C:6 D41-D44:6 D4D:6 D62-D63:6 D81:6 DCA:6 DD2-DD4:6 DD6:6 E31:6 E34-E3A:6 E3F:5
E47-E4E:6 EB1:6 EB4-EBC:6 EC8-ECE:6 F18-F19:6 F35:6 F37:6 F39:6 F3A-F3D:5 F71-F7E:6 F80-F84:6
F86-F87:6 F8D-F97:6 F99-FBC:6 FC6:6 102D-1030:6 1032-1037:6 1039-103A:6 103D-103E:6 1058-1059:6
105E-1060:6 1071-1074:6 1082:6 1085-1086:6 108D:6 109D:6 135D-135F:6 1390-1399:5 1400:5 1680:7
169B-169C:5 1712-1714:6 1732-1733:6 1752-1753:6 1772-1773:6 17B4-17B5:6 17B7-17BD:6 17C6:6
17C9-17D3:6 17DB:5 17DD:6 17F0-17F9:5 1800-180A:5 180B-180D:6 180E:5 180F:6 1885-1886:6 18A9:6
1920-1922:6 1927-1928:6 1932:6 1939-193B:6 1940:5 1944-1945:5 19DE-19FF:5 1A17-1A18:6 1A1B:6
1A56:6 1A58-1A5E:6 1A60:6 1A62:6 1A65-1A6C:6 1A73-1A7C:6 1A7F:6 1AB0-1ACE:6 1B00-1B03:6 1B34:6
1B36-1B3A:6 1B3C:6 1B42:6 1B6B-1B73:6 1B80-1B81:6 1BA2-1BA5:6 1BA8-1BA9:6 1BAB-1BAD:6 1BE6:6
1BE8-1BE9:6 1BED:6 1BEF-1BF1:6 1C2C-1C33:6 1C36-1C37:6 1CD0-1CD2:6 1CD4-1CE0:6 1CE2-1CE8:6
1CED:6 1CF4:6 1CF8-1CF9:6 1DC0-1DFF:6 1FBD:5 1FBF-1FC1:5 1FCD-1FCF:5 1FDD-1FDF:5 1FED-1FEF:5
1FFD-1FFE:5 2000-200A:7 200B-200D:5 200F:1 2010-2027:5 2028-202E:7 202F-205E:5 205F:7
2060-2065:5 2066-2069:7 206A-206F:5 2070:4 2074-2079:4 207A-207E:5 2080-2089:4 208A-208E:5
20A0-20CF:5 20D0-20F0:6 2100-2101:5 2103-2106:5 2108-2109:5 2114:5 2116-2118:5 211E-2123:5
2125:5 2127:5 2129:5 212E:5 213A-213B:5 2140-2144:5 214A-214D:5 2150-215F:5 2189-218B:5
2190-2335:5 237B-2394:5 2396-2426:5 2440-244A:5 2460-2487:5 2488-249B:4 24EA-26AB:5 26AD-27FF:5
2900-2B73:5 2B76-2B95:5 2B97-2BFF:5 2CE5-2CEA:5 2CEF-2CF1:6 2CF9-2CFF:5 2D7F:6 2DE0-2DFF:6
2E00-2E5D:5 2E80-2E99:5 2E9B-2EF3:5 2F00-2FD5:5 2FF0-2FFB:5 3000:7 3001-3004:5 3008-3020:5
302A-302D:6 3030:5 3036-3037:5 303D-303F:5 3099-309A:6 309B-309C:5 30A0:5 30FB:5 31C0-31E3:5
321D-321E:5 3250-325F:5 327C-327E:5 32B1-32BF:5 32CC-32CF:5 3377-337A:5 33DE-33DF:5 33FF:5
4DC0-4DFF:5 A490-A4C6:5 A60D-A60F:5 A66F-A672:6 A673:5 A674-A67D:6 A67E-A67F:5 A69E-A69F:6
A6F0-A6F1:6 A700-A721:5 A788:5 A802:6 A806:6 A80B:6 A825-A826:6 A828-A82B:5 A82C:6 A838-A839:5
A874-A877:5 A8C4-A8C5:6 A8E0-A8F1:6 A8FF:6 A926-A92D:6 A947-A951:6 A980-A982:6 A9B3:6
A9B6-A9B9:6 A9BC-A9BD:6 A9E5:6 AA29-AA2E:6 AA31-AA32:6 AA35-AA36:6 AA43:6 AA4C:6 AA7C:6 AAB0:6
AAB2-AAB4:6 AAB7-AAB8:6 AABE-AABF:6 AAC1:6 AAEC-AAED:6 AAF6:6 AB6A-AB6B:5 ABE5:6 ABE8:6 ABED:6
FB1D:1 FB1E:6 FB1F-FB28:1 FB29:5 FB2A-FB4F:1 FB50-FD3D:2 FD3E-FD4F:5 FD50-FDCE:2 FDCF-FDEF:5
FDF0-FDFC:2 FDFD-FDFF:5 FE00-FE0F:6 FE10-FE19:5 FE20-FE2F:6 FE30-FE52:5 FE54-FE66:5 FE68-FE6B:5
FE70-FEFE:2 FEFF:5 FF01-FF0F:5 FF10-FF19:4 FF1A-FF20:5 FF3B-FF40:5 FF5B-FF65:5 FFE0-FFE6:5
FFE8-FFEE:5 FFF0-FFFF:5 10101:5 10140-1018C:5 10190-1019C:5 101A0:5 101FD:6 102E0:6
102E1-102FB:4 10376-1037A:6 10800-1091E:1 1091F:5 10920-10A00:1 10A01-10A03:6 10A04:1
10A05-10A06:6 10A07-10A0B:1 10A0C-10A0F:6 10A10-10A37:1 10A38-10A3A:6 10A3B-10A3E:1 10A3F:6
10A40-10AE4:1 10AE5-10AE6:6 10AE7-10B38:1 10B39-10B3F:5 10B40-10CFF:1 10D00-10D23:2
10D24-10D27:6 10D28-10D2F:2 10D30-10D39:3 10D3A-10D3F:2 10D40-10E5F:1 10E60-10E7E:3
10E7F-10EAA:1 10EAB-10EAC:6 10EAD-10EBF:1 10EC0-10EFC:2 10EFD-10EFF:6 10F00-10F2F:1
10F30-10F45:2 10F46-10F50:6 10F51-10F6F:2 10F70-10F81:1 10F82-10F85:6 10F86-10FFF:1 11001:6
11038-11046:6 11052-11065:5 11070:6 11073-11074:6 1107F-11081:6 110B3-110B6:6 110B9-110BA:6
110C2:6 11100-11102:6 11127-1112B:6 1112D-11134:6 11173:6 11180-11181:6 111B6-111BE:6
111C9-111CC:6 111CF:6 1122F-11231:6 11234:6 11236-11237:6 1123E:6 11241:6 112DF:6 112E3-112EA:6
11300-11301:6 1133B-1133C:6 11340:6 11366-1136C:6 11370-11374:6 11438-1143F:6 11442-11444:6
11446:6 1145E:6 114B3-114B8:6 114BA:6 114BF-114C0:6 114C2-114C3:6 115B2-115B5:6 115BC-115BD:6
115BF-115C0:6 115DC-115DD:6 11633-1163A:6 1163D:6 1163F-11640:6 11660-1166C:5 116AB:6 116AD:6
116B0-116B5:6 116B7:6 1171D-1171F:6 11722-11725:6 11727-1172B:6 1182F-11837:6 11839-1183A:6
1193B-1193C:6 1193E:6 11943:6 119D4-119D7:6 119DA-119DB:6 119E0:6 11A01-11A06:6 11A09-11A0A:6
11A33-11A38:6 11A3B-11A3E:6 11A47:6 11A51-11A56:6 11A59-11A5B:6 11A8A-11A96:6 11A98-11A99:6
11C30-11C36:6 11C38-11C3D:6 11C92-11CA7:6 11CAA-11CB0:6 11CB2-11CB3:6 11CB5-11CB6:6
11D31-11D36:6 11D3A:6 11D3C-11D3D:6 11D3F-11D45:6 11D47:6 11D90-11D91:6 11D95:6 11D97:6
11EF3-11EF4:6 11F00-11F01:6 11F36-11F3A:6 11F40:6 11F42:6 11FD5-11FF1:5 13440:6 13447-13455:6
16AF0-16AF4:6 16B30-16B36:6 16F4F:6 16F8F-16F92:6 16FE2:5 16FE4:6 1BC9D-1BC9E:6 1BCA0-1BCA3:5
1CF00-1CF2D:6 1CF30-1CF46:6 1D167-1D169:6 1D173-1D17A:5 1D17B-1D182:6 1D185-1D18B:6
1D1AA-1D1AD:6 1D1E9-1D1EA:5 1D200-1D241:5 1D242-1D244:6 1D245:5 1D300-1D356:5 1D6DB:5 1D715:5
1D74F:5 1D789:5 1D7C3:5 1D7CE-1D7FF:4 1DA00-1DA36:6 1DA3B-1DA6C:6 1DA75:6 1DA84:6 1DA9B-1DA9F:6
1DAA1-1DAAF:6 1E000-1E006:6 1E008-1E018:6 1E01B-1E021:6 1E023-1E024:6 1E026-1E02A:6 1E08F:6
1E130-1E136:6 1E2AE:6 1E2EC-1E2EF:6 1E2FF:5 1E4EC-1E4EF:6 1E800-1E8CF:1 1E8D0-1E8D6:6
1E8D7-1E943:1 1E944-1E94A:6 1E94B-1EC6F:1 1EC70-1ECBF:2 1ECC0-1ECFF:1 1ED00-1ED4F:2
1ED50-1EDFF:1 1EE00-1EEEF:2 1EEF0-1EEF1:5 1EEF2-1EEFF:2 1EF00-1EFFF:1 1F000-1F02B:5
1F030-1F093:5 1F0A0-1F0AE:5 1F0B1-1F0BF:5 1F0C1-1F0CF:5 1F0D1-1F0F5:5 1F100-1F10A:4
1F10B-1F10F:5 1F12F:5 1F16A-1F16F:5 1F1AD:5 1F260-1F265:5 1F300-1F6D7:5 1F6DC-1F6EC:5
1F6F0-1F6FC:5 1F700-1F776:5 1F77B-1F7D9:5 1F7E0-1F7EB:5 1F7F0:5 1F800-1F80B:5 1F810-1F847:5
1F850-1F859:5 1F860-1F887:5 1F890-1F8AD:5 1F8B0-1F8B1:5 1F900-1FA53:5 1FA60-1FA6D:5
1FA70-1FA7C:5 1FA80-1FA88:5 1FA90-1FABD:5 1FABF-1FAC5:5 1FACE-1FADB:5 1FAE0-1FAE8:5
1FAF0-1FAF8:5 1FB00-1FB92:5 1FB94-1FBCA:5 1FBF0-1FBF9:4 1FFFE-1FFFF:5 2FFFE-2FFFF:5
3FFFE-3FFFF:5 4FFFE-4FFFF:5 5FFFE-5FFFF:5 6FFFE-6FFFF:5 7FFFE-7FFFF:5 8FFFE-8FFFF:5
9FFFE-9FFFF:5 AFFFE-AFFFF:5 BFFFE-BFFFF:5 CFFFE-CFFFF:5 DFFFE-E00FF:5 E0100-E01EF:6
E01F0-E0FFF:5 EFFFE-EFFFF:5 FFFFE-FFFFF:5 10FFFE-10FFFF:5"

/-- The sides on which letters join their neighbours: 1 for the left, 2 for the right, 3 for both. -/
def joiningText : String := "
620:3 622-625:2 626:3 627:2 628:3 629:2 62A-62E:3 62F-632:2 633-63F:3 641-647:3 648:2 649-64A:3
66E-66F:3 671-673:2 675-677:2 678-687:3 688-699:2 69A-6BF:3 6C0:2 6C1-6C2:3 6C3-6CB:2 6CC:3
6CD:2 6CE:3 6CF:2 6D0-6D1:3 6D2-6D3:2 6D5:2 6EE-6EF:2 6FA-6FC:3 6FF:3 710:2 712-714:3 715-719:2
71A-71D:3 71E:2 71F-727:3 728:2 729:3 72A:2 72B:3 72C:2 72D-72E:3 72F:2 74D:2 74E-758:3
759-75B:2 75C-76A:3 76B-76C:2 76D-770:3 771:2 772:3 773-774:2 775-777:3 778-779:2 77A-77F:3
7CA-7EA:3 840:2 841-845:3 846-847:2 848:3 849:2 84A-853:3 854:2 855:3 856-858:2 860:3 862-865:3
867:2 868:3 869-86A:2 870-882:2 886:3 889-88D:3 88E:2 88F:3 8A0-8A9:3 8AA-8AC:2 8AE:2 8AF-8B0:3
8B1-8B2:2 8B3-8B8:3 8B9:2 8BA-8C8:3 1807:3 1820-1878:3 1887-18A8:3 18AA:3 A840-A871:3 A872:1
10AC0-10AC4:3 10AC5:2 10AC7:2 10AC9-10ACA:2 10ACD:1 10ACE-10AD2:2 10AD3-10AD6:3 10AD7:1
10AD8-10ADC:3 10ADD:2 10ADE-10AE0:3 10AE1:2 10AE4:2 10AEB-10AEE:3 10AEF:2 10B80:3 10B81:2
10B82:3 10B83-10B85:2 10B86-10B88:3 10B89:2 10B8A-10B8B:3 10B8C:2 10B8D:3 10B8E-10B8F:2 10B90:3
10B91:2 10BA9-10BAC:2 10BAD-10BAE:3 10D00:1 10D01-10D21:3 10D22:2 10D23:3 10EC2:2 10EC3-10EC4:3
10EC6-10EC7:3 10F30-10F32:3 10F33:2 10F34-10F44:3 10F51-10F53:3 10F54:2 10F70-10F73:3
10F74-10F75:2 10F76-10F81:3 10FB0:3 10FB2-10FB3:3 10FB4-10FB6:2 10FB8:3 10FB9-10FBA:2
10FBB-10FBC:3 10FBD:2 10FBE-10FBF:3 10FC1:3 10FC2-10FC3:2 10FC4:3 10FC9:2 10FCA:3 10FCB:1
1E900-1E943:3"

def marks : Array Text.CodeRow := Text.codeTable markText

def directions : Array Text.CodeRow := Text.codeTable directionText

def joinings : Array Text.CodeRow := Text.codeTable joiningText

end BrowserFlow.Url
