/-! Compatibility mappings of characters that are framed, raised, squeezed or set apart. -/

namespace UniText.CharacterData

/-- Each row holds an encircled form and its characters. -/
def circleRows : String := "
  2460 0031; 2461 0032; 2462 0033; 2463 0034; 2464 0035; 2465 0036; 2466 0037; 2467 0038;
  2468 0039; 2469 0031 0030; 246A 0031 0031; 246B 0031 0032; 246C 0031 0033; 246D 0031 0034;
  246E 0031 0035; 246F 0031 0036; 2470 0031 0037; 2471 0031 0038; 2472 0031 0039; 2473 0032 0030;
  24B6 0041; 24B7 0042; 24B8 0043; 24B9 0044; 24BA 0045; 24BB 0046; 24BC 0047; 24BD 0048;
  24BE 0049; 24BF 004A; 24C0 004B; 24C1 004C; 24C2 004D; 24C3 004E; 24C4 004F; 24C5 0050;
  24C6 0051; 24C7 0052; 24C8 0053; 24C9 0054; 24CA 0055; 24CB 0056; 24CC 0057; 24CD 0058;
  24CE 0059; 24CF 005A; 24D0 0061; 24D1 0062; 24D2 0063; 24D3 0064; 24D4 0065; 24D5 0066;
  24D6 0067; 24D7 0068; 24D8 0069; 24D9 006A; 24DA 006B; 24DB 006C; 24DC 006D; 24DD 006E;
  24DE 006F; 24DF 0070; 24E0 0071; 24E1 0072; 24E2 0073; 24E3 0074; 24E4 0075; 24E5 0076;
  24E6 0077; 24E7 0078; 24E8 0079; 24E9 007A; 24EA 0030; 3244 554F; 3245 5E7C; 3246 6587;
  3247 7B8F; 3251 0032 0031; 3252 0032 0032; 3253 0032 0033; 3254 0032 0034; 3255 0032 0035;
  3256 0032 0036; 3257 0032 0037; 3258 0032 0038; 3259 0032 0039; 325A 0033 0030; 325B 0033 0031;
  325C 0033 0032; 325D 0033 0033; 325E 0033 0034; 325F 0033 0035; 3260 1100; 3261 1102; 3262 1103;
  3263 1105; 3264 1106; 3265 1107; 3266 1109; 3267 110B; 3268 110C; 3269 110E; 326A 110F;
  326B 1110; 326C 1111; 326D 1112; 326E 1100 1161; 326F 1102 1161; 3270 1103 1161; 3271 1105 1161;
  3272 1106 1161; 3273 1107 1161; 3274 1109 1161; 3275 110B 1161; 3276 110C 1161; 3277 110E 1161;
  3278 110F 1161; 3279 1110 1161; 327A 1111 1161; 327B 1112 1161; 327C 110E 1161 11B7 1100 1169;
  327D 110C 116E 110B 1174; 327E 110B 116E; 3280 4E00; 3281 4E8C; 3282 4E09; 3283 56DB; 3284 4E94;
  3285 516D; 3286 4E03; 3287 516B; 3288 4E5D; 3289 5341; 328A 6708; 328B 706B; 328C 6C34;
  328D 6728; 328E 91D1; 328F 571F; 3290 65E5; 3291 682A; 3292 6709; 3293 793E; 3294 540D;
  3295 7279; 3296 8CA1; 3297 795D; 3298 52B4; 3299 79D8; 329A 7537; 329B 5973; 329C 9069;
  329D 512A; 329E 5370; 329F 6CE8; 32A0 9805; 32A1 4F11; 32A2 5199; 32A3 6B63; 32A4 4E0A;
  32A5 4E2D; 32A6 4E0B; 32A7 5DE6; 32A8 53F3; 32A9 533B; 32AA 5B97; 32AB 5B66; 32AC 76E3;
  32AD 4F01; 32AE 8CC7; 32AF 5354; 32B0 591C; 32B1 0033 0036; 32B2 0033 0037; 32B3 0033 0038;
  32B4 0033 0039; 32B5 0034 0030; 32B6 0034 0031; 32B7 0034 0032; 32B8 0034 0033; 32B9 0034 0034;
  32BA 0034 0035; 32BB 0034 0036; 32BC 0034 0037; 32BD 0034 0038; 32BE 0034 0039; 32BF 0035 0030;
  32D0 30A2; 32D1 30A4; 32D2 30A6; 32D3 30A8; 32D4 30AA; 32D5 30AB; 32D6 30AD; 32D7 30AF;
  32D8 30B1; 32D9 30B3; 32DA 30B5; 32DB 30B7; 32DC 30B9; 32DD 30BB; 32DE 30BD; 32DF 30BF;
  32E0 30C1; 32E1 30C4; 32E2 30C6; 32E3 30C8; 32E4 30CA; 32E5 30CB; 32E6 30CC; 32E7 30CD;
  32E8 30CE; 32E9 30CF; 32EA 30D2; 32EB 30D5; 32EC 30D8; 32ED 30DB; 32EE 30DE; 32EF 30DF;
  32F0 30E0; 32F1 30E1; 32F2 30E2; 32F3 30E4; 32F4 30E6; 32F5 30E8; 32F6 30E9; 32F7 30EA;
  32F8 30EB; 32F9 30EC; 32FA 30ED; 32FB 30EF; 32FC 30F0; 32FD 30F1; 32FE 30F2; 1F12B 0043;
  1F12C 0052; 1F12D 0043 0044; 1F12E 0057 005A; 1F250 5F97; 1F251 53EF"

/-- Each row holds a superscript form and its characters. -/
def superscriptRows : String := "
  00AA 0061; 00B2 0032; 00B3 0033; 00B9 0031; 00BA 006F; 02B0 0068; 02B1 0266; 02B2 006A;
  02B3 0072; 02B4 0279; 02B5 027B; 02B6 0281; 02B7 0077; 02B8 0079; 02E0 0263; 02E1 006C;
  02E2 0073; 02E3 0078; 02E4 0295; 10FC 10DC; 1D2C 0041; 1D2D 00C6; 1D2E 0042; 1D30 0044;
  1D31 0045; 1D32 018E; 1D33 0047; 1D34 0048; 1D35 0049; 1D36 004A; 1D37 004B; 1D38 004C;
  1D39 004D; 1D3A 004E; 1D3C 004F; 1D3D 0222; 1D3E 0050; 1D3F 0052; 1D40 0054; 1D41 0055;
  1D42 0057; 1D43 0061; 1D44 0250; 1D45 0251; 1D46 1D02; 1D47 0062; 1D48 0064; 1D49 0065;
  1D4A 0259; 1D4B 025B; 1D4C 025C; 1D4D 0067; 1D4F 006B; 1D50 006D; 1D51 014B; 1D52 006F;
  1D53 0254; 1D54 1D16; 1D55 1D17; 1D56 0070; 1D57 0074; 1D58 0075; 1D59 1D1D; 1D5A 026F;
  1D5B 0076; 1D5C 1D25; 1D5D 03B2; 1D5E 03B3; 1D5F 03B4; 1D60 03C6; 1D61 03C7; 1D78 043D;
  1D9B 0252; 1D9C 0063; 1D9D 0255; 1D9E 00F0; 1D9F 025C; 1DA0 0066; 1DA1 025F; 1DA2 0261;
  1DA3 0265; 1DA4 0268; 1DA5 0269; 1DA6 026A; 1DA7 1D7B; 1DA8 029D; 1DA9 026D; 1DAA 1D85;
  1DAB 029F; 1DAC 0271; 1DAD 0270; 1DAE 0272; 1DAF 0273; 1DB0 0274; 1DB1 0275; 1DB2 0278;
  1DB3 0282; 1DB4 0283; 1DB5 01AB; 1DB6 0289; 1DB7 028A; 1DB8 1D1C; 1DB9 028B; 1DBA 028C;
  1DBB 007A; 1DBC 0290; 1DBD 0291; 1DBE 0292; 1DBF 03B8; 2070 0030; 2071 0069; 2074 0034;
  2075 0035; 2076 0036; 2077 0037; 2078 0038; 2079 0039; 207A 002B; 207B 2212; 207C 003D;
  207D 0028; 207E 0029; 207F 006E; 2120 0053 004D; 2122 0054 004D; 2C7D 0056; 2D6F 2D61;
  3192 4E00; 3193 4E8C; 3194 4E09; 3195 56DB; 3196 4E0A; 3197 4E2D; 3198 4E0B; 3199 7532;
  319A 4E59; 319B 4E19; 319C 4E01; 319D 5929; 319E 5730; 319F 4EBA; A69C 044A; A69D 044C;
  A770 A76F; A7F2 0043; A7F3 0046; A7F4 0051; A7F8 0126; A7F9 0153; AB5C A727; AB5D AB37;
  AB5E 026B; AB5F AB52; AB69 028D; 10781 02D0; 10782 02D1; 10783 00E6; 10784 0299; 10785 0253;
  10787 02A3; 10788 AB66; 10789 02A5; 1078A 02A4; 1078B 0256; 1078C 0257; 1078D 1D91; 1078E 0258;
  1078F 025E; 10790 02A9; 10791 0264; 10792 0262; 10793 0260; 10794 029B; 10795 0127; 10796 029C;
  10797 0267; 10798 0284; 10799 02AA; 1079A 02AB; 1079B 026C; 1079C 1DF04; 1079D A78E; 1079E 026E;
  1079F 1DF05; 107A0 028E; 107A1 1DF06; 107A2 00F8; 107A3 0276; 107A4 0277; 107A5 0071;
  107A6 027A; 107A7 1DF08; 107A8 027D; 107A9 027E; 107AA 0280; 107AB 02A8; 107AC 02A6; 107AD AB67;
  107AE 02A7; 107AF 0288; 107B0 2C71; 107B2 028F; 107B3 02A1; 107B4 02A2; 107B5 0298; 107B6 01C0;
  107B7 01C1; 107B8 01C2; 107B9 1DF0A; 107BA 1DF1E; 1F16A 004D 0043; 1F16B 004D 0044;
  1F16C 004D 0052"

/-- Each row holds a subscript form and its characters. -/
def subscriptRows : String := "
  1D62 0069; 1D63 0072; 1D64 0075; 1D65 0076; 1D66 03B2; 1D67 03B3; 1D68 03C1; 1D69 03C6;
  1D6A 03C7; 2080 0030; 2081 0031; 2082 0032; 2083 0033; 2084 0034; 2085 0035; 2086 0036;
  2087 0037; 2088 0038; 2089 0039; 208A 002B; 208B 2212; 208C 003D; 208D 0028; 208E 0029;
  2090 0061; 2091 0065; 2092 006F; 2093 0078; 2094 0259; 2095 0068; 2096 006B; 2097 006C;
  2098 006D; 2099 006E; 209A 0070; 209B 0073; 209C 0074; 2C7C 006A"

/-- Each row holds a vulgar fraction and its characters. -/
def fractionRows : String := "
  00BC 0031 2044 0034; 00BD 0031 2044 0032; 00BE 0033 2044 0034; 2150 0031 2044 0037;
  2151 0031 2044 0039; 2152 0031 2044 0031 0030; 2153 0031 2044 0033; 2154 0032 2044 0033;
  2155 0031 2044 0035; 2156 0032 2044 0035; 2157 0033 2044 0035; 2158 0034 2044 0035;
  2159 0031 2044 0036; 215A 0035 2044 0036; 215B 0031 2044 0038; 215C 0033 2044 0038;
  215D 0035 2044 0038; 215E 0037 2044 0038; 215F 0031 2044; 2189 0030 2044 0033"

/-- Each row holds a squared form and its characters. -/
def squareRows : String := "
  3250 0050 0054 0045; 32CC 0048 0067; 32CD 0065 0072 0067; 32CE 0065 0056; 32CF 004C 0054 0044;
  32FF 4EE4 548C; 3300 30A2 30D1 30FC 30C8; 3301 30A2 30EB 30D5 30A1; 3302 30A2 30F3 30DA 30A2;
  3303 30A2 30FC 30EB; 3304 30A4 30CB 30F3 30B0; 3305 30A4 30F3 30C1; 3306 30A6 30A9 30F3;
  3307 30A8 30B9 30AF 30FC 30C9; 3308 30A8 30FC 30AB 30FC; 3309 30AA 30F3 30B9;
  330A 30AA 30FC 30E0; 330B 30AB 30A4 30EA; 330C 30AB 30E9 30C3 30C8; 330D 30AB 30ED 30EA 30FC;
  330E 30AC 30ED 30F3; 330F 30AC 30F3 30DE; 3310 30AE 30AC; 3311 30AE 30CB 30FC;
  3312 30AD 30E5 30EA 30FC; 3313 30AE 30EB 30C0 30FC; 3314 30AD 30ED;
  3315 30AD 30ED 30B0 30E9 30E0; 3316 30AD 30ED 30E1 30FC 30C8 30EB;
  3317 30AD 30ED 30EF 30C3 30C8; 3318 30B0 30E9 30E0; 3319 30B0 30E9 30E0 30C8 30F3;
  331A 30AF 30EB 30BC 30A4 30ED; 331B 30AF 30ED 30FC 30CD; 331C 30B1 30FC 30B9;
  331D 30B3 30EB 30CA; 331E 30B3 30FC 30DD; 331F 30B5 30A4 30AF 30EB;
  3320 30B5 30F3 30C1 30FC 30E0; 3321 30B7 30EA 30F3 30B0; 3322 30BB 30F3 30C1;
  3323 30BB 30F3 30C8; 3324 30C0 30FC 30B9; 3325 30C7 30B7; 3326 30C9 30EB; 3327 30C8 30F3;
  3328 30CA 30CE; 3329 30CE 30C3 30C8; 332A 30CF 30A4 30C4; 332B 30D1 30FC 30BB 30F3 30C8;
  332C 30D1 30FC 30C4; 332D 30D0 30FC 30EC 30EB; 332E 30D4 30A2 30B9 30C8 30EB;
  332F 30D4 30AF 30EB; 3330 30D4 30B3; 3331 30D3 30EB; 3332 30D5 30A1 30E9 30C3 30C9;
  3333 30D5 30A3 30FC 30C8; 3334 30D6 30C3 30B7 30A7 30EB; 3335 30D5 30E9 30F3;
  3336 30D8 30AF 30BF 30FC 30EB; 3337 30DA 30BD; 3338 30DA 30CB 30D2; 3339 30D8 30EB 30C4;
  333A 30DA 30F3 30B9; 333B 30DA 30FC 30B8; 333C 30D9 30FC 30BF; 333D 30DD 30A4 30F3 30C8;
  333E 30DC 30EB 30C8; 333F 30DB 30F3; 3340 30DD 30F3 30C9; 3341 30DB 30FC 30EB;
  3342 30DB 30FC 30F3; 3343 30DE 30A4 30AF 30ED; 3344 30DE 30A4 30EB; 3345 30DE 30C3 30CF;
  3346 30DE 30EB 30AF; 3347 30DE 30F3 30B7 30E7 30F3; 3348 30DF 30AF 30ED 30F3; 3349 30DF 30EA;
  334A 30DF 30EA 30D0 30FC 30EB; 334B 30E1 30AC; 334C 30E1 30AC 30C8 30F3;
  334D 30E1 30FC 30C8 30EB; 334E 30E4 30FC 30C9; 334F 30E4 30FC 30EB; 3350 30E6 30A2 30F3;
  3351 30EA 30C3 30C8 30EB; 3352 30EA 30E9; 3353 30EB 30D4 30FC; 3354 30EB 30FC 30D6 30EB;
  3355 30EC 30E0; 3356 30EC 30F3 30C8 30B2 30F3; 3357 30EF 30C3 30C8; 3371 0068 0050 0061;
  3372 0064 0061; 3373 0041 0055; 3374 0062 0061 0072; 3375 006F 0056; 3376 0070 0063;
  3377 0064 006D; 3378 0064 006D 00B2; 3379 0064 006D 00B3; 337A 0049 0055; 337B 5E73 6210;
  337C 662D 548C; 337D 5927 6B63; 337E 660E 6CBB; 337F 682A 5F0F 4F1A 793E; 3380 0070 0041;
  3381 006E 0041; 3382 03BC 0041; 3383 006D 0041; 3384 006B 0041; 3385 004B 0042; 3386 004D 0042;
  3387 0047 0042; 3388 0063 0061 006C; 3389 006B 0063 0061 006C; 338A 0070 0046; 338B 006E 0046;
  338C 03BC 0046; 338D 03BC 0067; 338E 006D 0067; 338F 006B 0067; 3390 0048 007A;
  3391 006B 0048 007A; 3392 004D 0048 007A; 3393 0047 0048 007A; 3394 0054 0048 007A;
  3395 03BC 2113; 3396 006D 2113; 3397 0064 2113; 3398 006B 2113; 3399 0066 006D; 339A 006E 006D;
  339B 03BC 006D; 339C 006D 006D; 339D 0063 006D; 339E 006B 006D; 339F 006D 006D 00B2;
  33A0 0063 006D 00B2; 33A1 006D 00B2; 33A2 006B 006D 00B2; 33A3 006D 006D 00B3;
  33A4 0063 006D 00B3; 33A5 006D 00B3; 33A6 006B 006D 00B3; 33A7 006D 2215 0073;
  33A8 006D 2215 0073 00B2; 33A9 0050 0061; 33AA 006B 0050 0061; 33AB 004D 0050 0061;
  33AC 0047 0050 0061; 33AD 0072 0061 0064; 33AE 0072 0061 0064 2215 0073;
  33AF 0072 0061 0064 2215 0073 00B2; 33B0 0070 0073; 33B1 006E 0073; 33B2 03BC 0073;
  33B3 006D 0073; 33B4 0070 0056; 33B5 006E 0056; 33B6 03BC 0056; 33B7 006D 0056; 33B8 006B 0056;
  33B9 004D 0056; 33BA 0070 0057; 33BB 006E 0057; 33BC 03BC 0057; 33BD 006D 0057; 33BE 006B 0057;
  33BF 004D 0057; 33C0 006B 03A9; 33C1 004D 03A9; 33C2 0061 002E 006D 002E; 33C3 0042 0071;
  33C4 0063 0063; 33C5 0063 0064; 33C6 0043 2215 006B 0067; 33C7 0043 006F 002E; 33C8 0064 0042;
  33C9 0047 0079; 33CA 0068 0061; 33CB 0048 0050; 33CC 0069 006E; 33CD 004B 004B; 33CE 004B 004D;
  33CF 006B 0074; 33D0 006C 006D; 33D1 006C 006E; 33D2 006C 006F 0067; 33D3 006C 0078;
  33D4 006D 0062; 33D5 006D 0069 006C; 33D6 006D 006F 006C; 33D7 0050 0048;
  33D8 0070 002E 006D 002E; 33D9 0050 0050 004D; 33DA 0050 0052; 33DB 0073 0072; 33DC 0053 0076;
  33DD 0057 0062; 33DE 0056 2215 006D; 33DF 0041 2215 006D; 33FF 0067 0061 006C; 1F130 0041;
  1F131 0042; 1F132 0043; 1F133 0044; 1F134 0045; 1F135 0046; 1F136 0047; 1F137 0048; 1F138 0049;
  1F139 004A; 1F13A 004B; 1F13B 004C; 1F13C 004D; 1F13D 004E; 1F13E 004F; 1F13F 0050; 1F140 0051;
  1F141 0052; 1F142 0053; 1F143 0054; 1F144 0055; 1F145 0056; 1F146 0057; 1F147 0058; 1F148 0059;
  1F149 005A; 1F14A 0048 0056; 1F14B 004D 0056; 1F14C 0053 0044; 1F14D 0053 0053;
  1F14E 0050 0050 0056; 1F14F 0057 0043; 1F190 0044 004A; 1F200 307B 304B; 1F201 30B3 30B3;
  1F202 30B5; 1F210 624B; 1F211 5B57; 1F212 53CC; 1F213 30C7; 1F214 4E8C; 1F215 591A; 1F216 89E3;
  1F217 5929; 1F218 4EA4; 1F219 6620; 1F21A 7121; 1F21B 6599; 1F21C 524D; 1F21D 5F8C; 1F21E 518D;
  1F21F 65B0; 1F220 521D; 1F221 7D42; 1F222 751F; 1F223 8CA9; 1F224 58F0; 1F225 5439; 1F226 6F14;
  1F227 6295; 1F228 6355; 1F229 4E00; 1F22A 4E09; 1F22B 904A; 1F22C 5DE6; 1F22D 4E2D; 1F22E 53F3;
  1F22F 6307; 1F230 8D70; 1F231 6253; 1F232 7981; 1F233 7A7A; 1F234 5408; 1F235 6E80; 1F236 6709;
  1F237 6708; 1F238 7533; 1F239 5272; 1F23A 55B6; 1F23B 914D"

/-- Each row holds a form for vertical text and its characters. -/
def verticalRows : String := "
  309F 3088 308A; 30FF 30B3 30C8; FE10 002C; FE11 3001; FE12 3002; FE13 003A; FE14 003B;
  FE15 0021; FE16 003F; FE17 3016; FE18 3017; FE19 2026; FE30 2025; FE31 2014; FE32 2013;
  FE33 005F; FE34 005F; FE35 0028; FE36 0029; FE37 007B; FE38 007D; FE39 3014; FE3A 3015;
  FE3B 3010; FE3C 3011; FE3D 300A; FE3E 300B; FE3F 3008; FE40 3009; FE41 300C; FE42 300D;
  FE43 300E; FE44 300F; FE47 005B; FE48 005D"

/-- Each row holds a full-width form and its character. -/
def wideRows : String := "
  3000 0020; FF01 0021; FF02 0022; FF03 0023; FF04 0024; FF05 0025; FF06 0026; FF07 0027;
  FF08 0028; FF09 0029; FF0A 002A; FF0B 002B; FF0C 002C; FF0D 002D; FF0E 002E; FF0F 002F;
  FF10 0030; FF11 0031; FF12 0032; FF13 0033; FF14 0034; FF15 0035; FF16 0036; FF17 0037;
  FF18 0038; FF19 0039; FF1A 003A; FF1B 003B; FF1C 003C; FF1D 003D; FF1E 003E; FF1F 003F;
  FF20 0040; FF21 0041; FF22 0042; FF23 0043; FF24 0044; FF25 0045; FF26 0046; FF27 0047;
  FF28 0048; FF29 0049; FF2A 004A; FF2B 004B; FF2C 004C; FF2D 004D; FF2E 004E; FF2F 004F;
  FF30 0050; FF31 0051; FF32 0052; FF33 0053; FF34 0054; FF35 0055; FF36 0056; FF37 0057;
  FF38 0058; FF39 0059; FF3A 005A; FF3B 005B; FF3C 005C; FF3D 005D; FF3E 005E; FF3F 005F;
  FF40 0060; FF41 0061; FF42 0062; FF43 0063; FF44 0064; FF45 0065; FF46 0066; FF47 0067;
  FF48 0068; FF49 0069; FF4A 006A; FF4B 006B; FF4C 006C; FF4D 006D; FF4E 006E; FF4F 006F;
  FF50 0070; FF51 0071; FF52 0072; FF53 0073; FF54 0074; FF55 0075; FF56 0076; FF57 0077;
  FF58 0078; FF59 0079; FF5A 007A; FF5B 007B; FF5C 007C; FF5D 007D; FF5E 007E; FF5F 2985;
  FF60 2986; FFE0 00A2; FFE1 00A3; FFE2 00AC; FFE3 00AF; FFE4 00A6; FFE5 00A5; FFE6 20A9"

/-- Each row holds a half-width form and its character. -/
def narrowRows : String := "
  FF61 3002; FF62 300C; FF63 300D; FF64 3001; FF65 30FB; FF66 30F2; FF67 30A1; FF68 30A3;
  FF69 30A5; FF6A 30A7; FF6B 30A9; FF6C 30E3; FF6D 30E5; FF6E 30E7; FF6F 30C3; FF70 30FC;
  FF71 30A2; FF72 30A4; FF73 30A6; FF74 30A8; FF75 30AA; FF76 30AB; FF77 30AD; FF78 30AF;
  FF79 30B1; FF7A 30B3; FF7B 30B5; FF7C 30B7; FF7D 30B9; FF7E 30BB; FF7F 30BD; FF80 30BF;
  FF81 30C1; FF82 30C4; FF83 30C6; FF84 30C8; FF85 30CA; FF86 30CB; FF87 30CC; FF88 30CD;
  FF89 30CE; FF8A 30CF; FF8B 30D2; FF8C 30D5; FF8D 30D8; FF8E 30DB; FF8F 30DE; FF90 30DF;
  FF91 30E0; FF92 30E1; FF93 30E2; FF94 30E4; FF95 30E6; FF96 30E8; FF97 30E9; FF98 30EA;
  FF99 30EB; FF9A 30EC; FF9B 30ED; FF9C 30EF; FF9D 30F3; FF9E 3099; FF9F 309A; FFA0 3164;
  FFA1 3131; FFA2 3132; FFA3 3133; FFA4 3134; FFA5 3135; FFA6 3136; FFA7 3137; FFA8 3138;
  FFA9 3139; FFAA 313A; FFAB 313B; FFAC 313C; FFAD 313D; FFAE 313E; FFAF 313F; FFB0 3140;
  FFB1 3141; FFB2 3142; FFB3 3143; FFB4 3144; FFB5 3145; FFB6 3146; FFB7 3147; FFB8 3148;
  FFB9 3149; FFBA 314A; FFBB 314B; FFBC 314C; FFBD 314D; FFBE 314E; FFC2 314F; FFC3 3150;
  FFC4 3151; FFC5 3152; FFC6 3153; FFC7 3154; FFCA 3155; FFCB 3156; FFCC 3157; FFCD 3158;
  FFCE 3159; FFCF 315A; FFD2 315B; FFD3 315C; FFD4 315D; FFD5 315E; FFD6 315F; FFD7 3160;
  FFDA 3161; FFDB 3162; FFDC 3163; FFE8 2502; FFE9 2190; FFEA 2191; FFEB 2192; FFEC 2193;
  FFED 25A0; FFEE 25CB"

/-- Each row holds a small form and its character. -/
def smallRows : String := "
  FE50 002C; FE51 3001; FE52 002E; FE54 003B; FE55 003A; FE56 003F; FE57 0021; FE58 2014;
  FE59 0028; FE5A 0029; FE5B 007B; FE5C 007D; FE5D 3014; FE5E 3015; FE5F 0023; FE60 0026;
  FE61 002A; FE62 002B; FE63 002D; FE64 003C; FE65 003E; FE66 003D; FE68 005C; FE69 0024;
  FE6A 0025; FE6B 0040"

/-- Each row holds a form at which lines do not break and its character. -/
def noBreakRows : String := "
  00A0 0020; 0F0C 0F0B; 2007 0020; 2011 2010; 202F 0020"

end UniText.CharacterData
