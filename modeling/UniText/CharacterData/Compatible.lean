/-! Compatibility mappings of characters that differ in no way with a name of its own. -/

namespace UniText.CharacterData

/-- Each row holds a character and its compatibility mapping. -/
def compatibleRows : String := "
  00A8 0020 0308; 00AF 0020 0304; 00B4 0020 0301; 00B5 03BC; 00B8 0020 0327; 0132 0049 004A;
  0133 0069 006A; 013F 004C 00B7; 0140 006C 00B7; 0149 02BC 006E; 017F 0073; 01C4 0044 017D;
  01C5 0044 017E; 01C6 0064 017E; 01C7 004C 004A; 01C8 004C 006A; 01C9 006C 006A; 01CA 004E 004A;
  01CB 004E 006A; 01CC 006E 006A; 01F1 0044 005A; 01F2 0044 007A; 01F3 0064 007A; 02D8 0020 0306;
  02D9 0020 0307; 02DA 0020 030A; 02DB 0020 0328; 02DC 0020 0303; 02DD 0020 030B; 037A 0020 0345;
  0384 0020 0301; 03D0 03B2; 03D1 03B8; 03D2 03A5; 03D5 03C6; 03D6 03C0; 03F0 03BA; 03F1 03C1;
  03F2 03C2; 03F4 0398; 03F5 03B5; 03F9 03A3; 0587 0565 0582; 0675 0627 0674; 0676 0648 0674;
  0677 06C7 0674; 0678 064A 0674; 0E33 0E4D 0E32; 0EB3 0ECD 0EB2; 0EDC 0EAB 0E99; 0EDD 0EAB 0EA1;
  0F77 0FB2 0F81; 0F79 0FB3 0F81; 1E9A 0061 02BE; 1FBD 0020 0313; 1FBF 0020 0313; 1FC0 0020 0342;
  1FFE 0020 0314; 2002 0020; 2003 0020; 2004 0020; 2005 0020; 2006 0020; 2008 0020; 2009 0020;
  200A 0020; 2017 0020 0333; 2024 002E; 2025 002E 002E; 2026 002E 002E 002E; 2033 2032 2032;
  2034 2032 2032 2032; 2036 2035 2035; 2037 2035 2035 2035; 203C 0021 0021; 203E 0020 0305;
  2047 003F 003F; 2048 003F 0021; 2049 0021 003F; 2057 2032 2032 2032 2032; 205F 0020;
  20A8 0052 0073; 2100 0061 002F 0063; 2101 0061 002F 0073; 2103 00B0 0043; 2105 0063 002F 006F;
  2106 0063 002F 0075; 2107 0190; 2109 00B0 0046; 2116 004E 006F; 2121 0054 0045 004C; 2135 05D0;
  2136 05D1; 2137 05D2; 2138 05D3; 213B 0046 0041 0058; 2160 0049; 2161 0049 0049;
  2162 0049 0049 0049; 2163 0049 0056; 2164 0056; 2165 0056 0049; 2166 0056 0049 0049;
  2167 0056 0049 0049 0049; 2168 0049 0058; 2169 0058; 216A 0058 0049; 216B 0058 0049 0049;
  216C 004C; 216D 0043; 216E 0044; 216F 004D; 2170 0069; 2171 0069 0069; 2172 0069 0069 0069;
  2173 0069 0076; 2174 0076; 2175 0076 0069; 2176 0076 0069 0069; 2177 0076 0069 0069 0069;
  2178 0069 0078; 2179 0078; 217A 0078 0069; 217B 0078 0069 0069; 217C 006C; 217D 0063; 217E 0064;
  217F 006D; 222C 222B 222B; 222D 222B 222B 222B; 222F 222E 222E; 2230 222E 222E 222E;
  2474 0028 0031 0029; 2475 0028 0032 0029; 2476 0028 0033 0029; 2477 0028 0034 0029;
  2478 0028 0035 0029; 2479 0028 0036 0029; 247A 0028 0037 0029; 247B 0028 0038 0029;
  247C 0028 0039 0029; 247D 0028 0031 0030 0029; 247E 0028 0031 0031 0029;
  247F 0028 0031 0032 0029; 2480 0028 0031 0033 0029; 2481 0028 0031 0034 0029;
  2482 0028 0031 0035 0029; 2483 0028 0031 0036 0029; 2484 0028 0031 0037 0029;
  2485 0028 0031 0038 0029; 2486 0028 0031 0039 0029; 2487 0028 0032 0030 0029; 2488 0031 002E;
  2489 0032 002E; 248A 0033 002E; 248B 0034 002E; 248C 0035 002E; 248D 0036 002E; 248E 0037 002E;
  248F 0038 002E; 2490 0039 002E; 2491 0031 0030 002E; 2492 0031 0031 002E; 2493 0031 0032 002E;
  2494 0031 0033 002E; 2495 0031 0034 002E; 2496 0031 0035 002E; 2497 0031 0036 002E;
  2498 0031 0037 002E; 2499 0031 0038 002E; 249A 0031 0039 002E; 249B 0032 0030 002E;
  249C 0028 0061 0029; 249D 0028 0062 0029; 249E 0028 0063 0029; 249F 0028 0064 0029;
  24A0 0028 0065 0029; 24A1 0028 0066 0029; 24A2 0028 0067 0029; 24A3 0028 0068 0029;
  24A4 0028 0069 0029; 24A5 0028 006A 0029; 24A6 0028 006B 0029; 24A7 0028 006C 0029;
  24A8 0028 006D 0029; 24A9 0028 006E 0029; 24AA 0028 006F 0029; 24AB 0028 0070 0029;
  24AC 0028 0071 0029; 24AD 0028 0072 0029; 24AE 0028 0073 0029; 24AF 0028 0074 0029;
  24B0 0028 0075 0029; 24B1 0028 0076 0029; 24B2 0028 0077 0029; 24B3 0028 0078 0029;
  24B4 0028 0079 0029; 24B5 0028 007A 0029; 2A0C 222B 222B 222B 222B; 2A74 003A 003A 003D;
  2A75 003D 003D; 2A76 003D 003D 003D; 2E9F 6BCD; 2EF3 9F9F; 2F00 4E00; 2F01 4E28; 2F02 4E36;
  2F03 4E3F; 2F04 4E59; 2F05 4E85; 2F06 4E8C; 2F07 4EA0; 2F08 4EBA; 2F09 513F; 2F0A 5165;
  2F0B 516B; 2F0C 5182; 2F0D 5196; 2F0E 51AB; 2F0F 51E0; 2F10 51F5; 2F11 5200; 2F12 529B;
  2F13 52F9; 2F14 5315; 2F15 531A; 2F16 5338; 2F17 5341; 2F18 535C; 2F19 5369; 2F1A 5382;
  2F1B 53B6; 2F1C 53C8; 2F1D 53E3; 2F1E 56D7; 2F1F 571F; 2F20 58EB; 2F21 5902; 2F22 590A;
  2F23 5915; 2F24 5927; 2F25 5973; 2F26 5B50; 2F27 5B80; 2F28 5BF8; 2F29 5C0F; 2F2A 5C22;
  2F2B 5C38; 2F2C 5C6E; 2F2D 5C71; 2F2E 5DDB; 2F2F 5DE5; 2F30 5DF1; 2F31 5DFE; 2F32 5E72;
  2F33 5E7A; 2F34 5E7F; 2F35 5EF4; 2F36 5EFE; 2F37 5F0B; 2F38 5F13; 2F39 5F50; 2F3A 5F61;
  2F3B 5F73; 2F3C 5FC3; 2F3D 6208; 2F3E 6236; 2F3F 624B; 2F40 652F; 2F41 6534; 2F42 6587;
  2F43 6597; 2F44 65A4; 2F45 65B9; 2F46 65E0; 2F47 65E5; 2F48 66F0; 2F49 6708; 2F4A 6728;
  2F4B 6B20; 2F4C 6B62; 2F4D 6B79; 2F4E 6BB3; 2F4F 6BCB; 2F50 6BD4; 2F51 6BDB; 2F52 6C0F;
  2F53 6C14; 2F54 6C34; 2F55 706B; 2F56 722A; 2F57 7236; 2F58 723B; 2F59 723F; 2F5A 7247;
  2F5B 7259; 2F5C 725B; 2F5D 72AC; 2F5E 7384; 2F5F 7389; 2F60 74DC; 2F61 74E6; 2F62 7518;
  2F63 751F; 2F64 7528; 2F65 7530; 2F66 758B; 2F67 7592; 2F68 7676; 2F69 767D; 2F6A 76AE;
  2F6B 76BF; 2F6C 76EE; 2F6D 77DB; 2F6E 77E2; 2F6F 77F3; 2F70 793A; 2F71 79B8; 2F72 79BE;
  2F73 7A74; 2F74 7ACB; 2F75 7AF9; 2F76 7C73; 2F77 7CF8; 2F78 7F36; 2F79 7F51; 2F7A 7F8A;
  2F7B 7FBD; 2F7C 8001; 2F7D 800C; 2F7E 8012; 2F7F 8033; 2F80 807F; 2F81 8089; 2F82 81E3;
  2F83 81EA; 2F84 81F3; 2F85 81FC; 2F86 820C; 2F87 821B; 2F88 821F; 2F89 826E; 2F8A 8272;
  2F8B 8278; 2F8C 864D; 2F8D 866B; 2F8E 8840; 2F8F 884C; 2F90 8863; 2F91 897E; 2F92 898B;
  2F93 89D2; 2F94 8A00; 2F95 8C37; 2F96 8C46; 2F97 8C55; 2F98 8C78; 2F99 8C9D; 2F9A 8D64;
  2F9B 8D70; 2F9C 8DB3; 2F9D 8EAB; 2F9E 8ECA; 2F9F 8F9B; 2FA0 8FB0; 2FA1 8FB5; 2FA2 9091;
  2FA3 9149; 2FA4 91C6; 2FA5 91CC; 2FA6 91D1; 2FA7 9577; 2FA8 9580; 2FA9 961C; 2FAA 96B6;
  2FAB 96B9; 2FAC 96E8; 2FAD 9751; 2FAE 975E; 2FAF 9762; 2FB0 9769; 2FB1 97CB; 2FB2 97ED;
  2FB3 97F3; 2FB4 9801; 2FB5 98A8; 2FB6 98DB; 2FB7 98DF; 2FB8 9996; 2FB9 9999; 2FBA 99AC;
  2FBB 9AA8; 2FBC 9AD8; 2FBD 9ADF; 2FBE 9B25; 2FBF 9B2F; 2FC0 9B32; 2FC1 9B3C; 2FC2 9B5A;
  2FC3 9CE5; 2FC4 9E75; 2FC5 9E7F; 2FC6 9EA5; 2FC7 9EBB; 2FC8 9EC3; 2FC9 9ECD; 2FCA 9ED1;
  2FCB 9EF9; 2FCC 9EFD; 2FCD 9F0E; 2FCE 9F13; 2FCF 9F20; 2FD0 9F3B; 2FD1 9F4A; 2FD2 9F52;
  2FD3 9F8D; 2FD4 9F9C; 2FD5 9FA0; 3036 3012; 3038 5341; 3039 5344; 303A 5345; 309B 0020 3099;
  309C 0020 309A; 3131 1100; 3132 1101; 3133 11AA; 3134 1102; 3135 11AC; 3136 11AD; 3137 1103;
  3138 1104; 3139 1105; 313A 11B0; 313B 11B1; 313C 11B2; 313D 11B3; 313E 11B4; 313F 11B5;
  3140 111A; 3141 1106; 3142 1107; 3143 1108; 3144 1121; 3145 1109; 3146 110A; 3147 110B;
  3148 110C; 3149 110D; 314A 110E; 314B 110F; 314C 1110; 314D 1111; 314E 1112; 314F 1161;
  3150 1162; 3151 1163; 3152 1164; 3153 1165; 3154 1166; 3155 1167; 3156 1168; 3157 1169;
  3158 116A; 3159 116B; 315A 116C; 315B 116D; 315C 116E; 315D 116F; 315E 1170; 315F 1171;
  3160 1172; 3161 1173; 3162 1174; 3163 1175; 3164 1160; 3165 1114; 3166 1115; 3167 11C7;
  3168 11C8; 3169 11CC; 316A 11CE; 316B 11D3; 316C 11D7; 316D 11D9; 316E 111C; 316F 11DD;
  3170 11DF; 3171 111D; 3172 111E; 3173 1120; 3174 1122; 3175 1123; 3176 1127; 3177 1129;
  3178 112B; 3179 112C; 317A 112D; 317B 112E; 317C 112F; 317D 1132; 317E 1136; 317F 1140;
  3180 1147; 3181 114C; 3182 11F1; 3183 11F2; 3184 1157; 3185 1158; 3186 1159; 3187 1184;
  3188 1185; 3189 1188; 318A 1191; 318B 1192; 318C 1194; 318D 119E; 318E 11A1;
  3200 0028 1100 0029; 3201 0028 1102 0029; 3202 0028 1103 0029; 3203 0028 1105 0029;
  3204 0028 1106 0029; 3205 0028 1107 0029; 3206 0028 1109 0029; 3207 0028 110B 0029;
  3208 0028 110C 0029; 3209 0028 110E 0029; 320A 0028 110F 0029; 320B 0028 1110 0029;
  320C 0028 1111 0029; 320D 0028 1112 0029; 320E 0028 1100 1161 0029; 320F 0028 1102 1161 0029;
  3210 0028 1103 1161 0029; 3211 0028 1105 1161 0029; 3212 0028 1106 1161 0029;
  3213 0028 1107 1161 0029; 3214 0028 1109 1161 0029; 3215 0028 110B 1161 0029;
  3216 0028 110C 1161 0029; 3217 0028 110E 1161 0029; 3218 0028 110F 1161 0029;
  3219 0028 1110 1161 0029; 321A 0028 1111 1161 0029; 321B 0028 1112 1161 0029;
  321C 0028 110C 116E 0029; 321D 0028 110B 1169 110C 1165 11AB 0029;
  321E 0028 110B 1169 1112 116E 0029; 3220 0028 4E00 0029; 3221 0028 4E8C 0029;
  3222 0028 4E09 0029; 3223 0028 56DB 0029; 3224 0028 4E94 0029; 3225 0028 516D 0029;
  3226 0028 4E03 0029; 3227 0028 516B 0029; 3228 0028 4E5D 0029; 3229 0028 5341 0029;
  322A 0028 6708 0029; 322B 0028 706B 0029; 322C 0028 6C34 0029; 322D 0028 6728 0029;
  322E 0028 91D1 0029; 322F 0028 571F 0029; 3230 0028 65E5 0029; 3231 0028 682A 0029;
  3232 0028 6709 0029; 3233 0028 793E 0029; 3234 0028 540D 0029; 3235 0028 7279 0029;
  3236 0028 8CA1 0029; 3237 0028 795D 0029; 3238 0028 52B4 0029; 3239 0028 4EE3 0029;
  323A 0028 547C 0029; 323B 0028 5B66 0029; 323C 0028 76E3 0029; 323D 0028 4F01 0029;
  323E 0028 8CC7 0029; 323F 0028 5354 0029; 3240 0028 796D 0029; 3241 0028 4F11 0029;
  3242 0028 81EA 0029; 3243 0028 81F3 0029; 32C0 0031 6708; 32C1 0032 6708; 32C2 0033 6708;
  32C3 0034 6708; 32C4 0035 6708; 32C5 0036 6708; 32C6 0037 6708; 32C7 0038 6708; 32C8 0039 6708;
  32C9 0031 0030 6708; 32CA 0031 0031 6708; 32CB 0031 0032 6708; 3358 0030 70B9; 3359 0031 70B9;
  335A 0032 70B9; 335B 0033 70B9; 335C 0034 70B9; 335D 0035 70B9; 335E 0036 70B9; 335F 0037 70B9;
  3360 0038 70B9; 3361 0039 70B9; 3362 0031 0030 70B9; 3363 0031 0031 70B9; 3364 0031 0032 70B9;
  3365 0031 0033 70B9; 3366 0031 0034 70B9; 3367 0031 0035 70B9; 3368 0031 0036 70B9;
  3369 0031 0037 70B9; 336A 0031 0038 70B9; 336B 0031 0039 70B9; 336C 0032 0030 70B9;
  336D 0032 0031 70B9; 336E 0032 0032 70B9; 336F 0032 0033 70B9; 3370 0032 0034 70B9;
  33E0 0031 65E5; 33E1 0032 65E5; 33E2 0033 65E5; 33E3 0034 65E5; 33E4 0035 65E5; 33E5 0036 65E5;
  33E6 0037 65E5; 33E7 0038 65E5; 33E8 0039 65E5; 33E9 0031 0030 65E5; 33EA 0031 0031 65E5;
  33EB 0031 0032 65E5; 33EC 0031 0033 65E5; 33ED 0031 0034 65E5; 33EE 0031 0035 65E5;
  33EF 0031 0036 65E5; 33F0 0031 0037 65E5; 33F1 0031 0038 65E5; 33F2 0031 0039 65E5;
  33F3 0032 0030 65E5; 33F4 0032 0031 65E5; 33F5 0032 0032 65E5; 33F6 0032 0033 65E5;
  33F7 0032 0034 65E5; 33F8 0032 0035 65E5; 33F9 0032 0036 65E5; 33FA 0032 0037 65E5;
  33FB 0032 0038 65E5; 33FC 0032 0039 65E5; 33FD 0033 0030 65E5; 33FE 0033 0031 65E5;
  FB00 0066 0066; FB01 0066 0069; FB02 0066 006C; FB03 0066 0066 0069; FB04 0066 0066 006C;
  FB05 017F 0074; FB06 0073 0074; FB13 0574 0576; FB14 0574 0565; FB15 0574 056B; FB16 057E 0576;
  FB17 0574 056D; FB4F 05D0 05DC; FE49 203E; FE4A 203E; FE4B 203E; FE4C 203E; FE4D 005F;
  FE4E 005F; FE4F 005F; 1F100 0030 002E; 1F101 0030 002C; 1F102 0031 002C; 1F103 0032 002C;
  1F104 0033 002C; 1F105 0034 002C; 1F106 0035 002C; 1F107 0036 002C; 1F108 0037 002C;
  1F109 0038 002C; 1F10A 0039 002C; 1F110 0028 0041 0029; 1F111 0028 0042 0029;
  1F112 0028 0043 0029; 1F113 0028 0044 0029; 1F114 0028 0045 0029; 1F115 0028 0046 0029;
  1F116 0028 0047 0029; 1F117 0028 0048 0029; 1F118 0028 0049 0029; 1F119 0028 004A 0029;
  1F11A 0028 004B 0029; 1F11B 0028 004C 0029; 1F11C 0028 004D 0029; 1F11D 0028 004E 0029;
  1F11E 0028 004F 0029; 1F11F 0028 0050 0029; 1F120 0028 0051 0029; 1F121 0028 0052 0029;
  1F122 0028 0053 0029; 1F123 0028 0054 0029; 1F124 0028 0055 0029; 1F125 0028 0056 0029;
  1F126 0028 0057 0029; 1F127 0028 0058 0029; 1F128 0028 0059 0029; 1F129 0028 005A 0029;
  1F12A 3014 0053 3015; 1F240 3014 672C 3015; 1F241 3014 4E09 3015; 1F242 3014 4E8C 3015;
  1F243 3014 5B89 3015; 1F244 3014 70B9 3015; 1F245 3014 6253 3015; 1F246 3014 76D7 3015;
  1F247 3014 52DD 3015; 1F248 3014 6557 3015"

end UniText.CharacterData
