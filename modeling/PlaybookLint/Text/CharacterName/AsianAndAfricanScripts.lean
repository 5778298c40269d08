/-!
Names of characters from U+1100 to U+1FFF: further scripts of Asia, Africa and America and of
phonetic extensions. A row begins with the number of its first character in hexadecimal. The names
of the characters from there on follow, divided by semicolons; the digit before a name tells how
many words it shares with the name before it.
-/

namespace PlaybookLint.Text.CharacterName

/-- The rows of names from U+1100 to U+1FFF. -/
def asianAndAfricanScripts : String :=
  "1105 0HANGUL CHOSEONG RIEUL;2MIEUM;2PIEUP;2SSANGPIEUP;2SIOS;2SSANGSIOS;2IEUNG;2CIEUC;2SSANGCIEUC
110E 0HANGUL CHOSEONG CHIEUCH;2KHIEUKH;2THIEUTH;2PHIEUPH;2HIEUH;2NIEUN-KIYEOK;2SSANGNIEUN
1115 0HANGUL CHOSEONG NIEUN-TIKEUT;2NIEUN-PIEUP;2TIKEUT-KIYEOK;2RIEUL-NIEUN;2SSANGRIEUL
111A 0HANGUL CHOSEONG RIEUL-HIEUH;2KAPYEOUNRIEUL;2MIEUM-PIEUP;2KAPYEOUNMIEUM;2PIEUP-KIYEOK
111F 0HANGUL CHOSEONG PIEUP-NIEUN;2PIEUP-TIKEUT;2PIEUP-SIOS;2PIEUP-SIOS-KIYEOK;2PIEUP-SIOS-TIKEUT
1124 0HANGUL CHOSEONG PIEUP-SIOS-PIEUP;2PIEUP-SSANGSIOS;2PIEUP-SIOS-CIEUC;2PIEUP-CIEUC
1128 0HANGUL CHOSEONG PIEUP-CHIEUCH;2PIEUP-THIEUTH;2PIEUP-PHIEUPH;2KAPYEOUNPIEUP
112C 0HANGUL CHOSEONG KAPYEOUNSSANGPIEUP;2SIOS-KIYEOK;2SIOS-NIEUN;2SIOS-TIKEUT;2SIOS-RIEUL
1131 0HANGUL CHOSEONG SIOS-MIEUM;2SIOS-PIEUP;2SIOS-PIEUP-KIYEOK;2SIOS-SSANGSIOS;2SIOS-IEUNG
1136 0HANGUL CHOSEONG SIOS-CIEUC;2SIOS-CHIEUCH;2SIOS-KHIEUKH;2SIOS-THIEUTH;2SIOS-PHIEUPH
113B 0HANGUL CHOSEONG SIOS-HIEUH;2CHITUEUMSIOS;2CHITUEUMSSANGSIOS;2CEONGCHIEUMSIOS
113F 0HANGUL CHOSEONG CEONGCHIEUMSSANGSIOS;2PANSIOS;2IEUNG-KIYEOK;2IEUNG-TIKEUT;2IEUNG-MIEUM
1144 0HANGUL CHOSEONG IEUNG-PIEUP;2IEUNG-SIOS;2IEUNG-PANSIOS;2SSANGIEUNG;2IEUNG-CIEUC
1149 0HANGUL CHOSEONG IEUNG-CHIEUCH;2IEUNG-THIEUTH;2IEUNG-PHIEUPH;2YESIEUNG;2CIEUC-IEUNG
114E 0HANGUL CHOSEONG CHITUEUMCIEUC;2CHITUEUMSSANGCIEUC;2CEONGCHIEUMCIEUC;2CEONGCHIEUMSSANGCIEUC
1152 0HANGUL CHOSEONG CHIEUCH-KHIEUKH;2CHIEUCH-HIEUH;2CHITUEUMCHIEUCH;2CEONGCHIEUMCHIEUCH
1156 0HANGUL CHOSEONG PHIEUPH-PIEUP;2KAPYEOUNPHIEUPH;2SSANGHIEUH;2YEORINHIEUH;2KIYEOK-TIKEUT
115B 0HANGUL CHOSEONG NIEUN-SIOS;2NIEUN-CIEUC;2NIEUN-HIEUH;2TIKEUT-RIEUL;2FILLER;1JUNGSEONG FILLER
1161 0HANGUL JUNGSEONG A;2AE;2YA;2YAE;2EO;2E;2YEO;2YE;2O;2WA;2WAE;2OE;2YO;2U;2WEO;2WE;2WI;2YU;2EU
1174 0HANGUL JUNGSEONG YI;2I;2A-O;2A-U;2YA-O;2YA-YO;2EO-O;2EO-U;2EO-EU;2YEO-O;2YEO-U;2O-EO;2O-E
1181 0HANGUL JUNGSEONG O-YE;2O-O;2O-U;2YO-YA;2YO-YAE;2YO-YEO;2YO-O;2YO-I;2U-A;2U-AE;2U-EO-EU;2U-YE
118D 0HANGUL JUNGSEONG U-U;2YU-A;2YU-EO;2YU-E;2YU-YEO;2YU-YE;2YU-U;2YU-I;2EU-U;2EU-EU;2YI-U;2I-A
1199 0HANGUL JUNGSEONG I-YA;2I-O;2I-U;2I-EU;2I-ARAEA;2ARAEA;2ARAEA-EO;2ARAEA-U;2ARAEA-I;2SSANGARAEA
11A3 0HANGUL JUNGSEONG A-EU;2YA-U;2YEO-YA;2O-YA;2O-YAE;1JONGSEONG KIYEOK;2SSANGKIYEOK;2KIYEOK-SIOS
11AB 0HANGUL JONGSEONG NIEUN;2NIEUN-CIEUC;2NIEUN-HIEUH;2TIKEUT;2RIEUL;2RIEUL-KIYEOK;2RIEUL-MIEUM
11B2 0HANGUL JONGSEONG RIEUL-PIEUP;2RIEUL-SIOS;2RIEUL-THIEUTH;2RIEUL-PHIEUPH;2RIEUL-HIEUH;2MIEUM
11B8 0HANGUL JONGSEONG PIEUP;2PIEUP-SIOS;2SIOS;2SSANGSIOS;2IEUNG;2CIEUC;2CHIEUCH;2KHIEUKH;2THIEUTH
11C1 0HANGUL JONGSEONG PHIEUPH;2HIEUH;2KIYEOK-RIEUL;2KIYEOK-SIOS-KIYEOK;2NIEUN-KIYEOK;2NIEUN-TIKEUT
11C7 0HANGUL JONGSEONG NIEUN-SIOS;2NIEUN-PANSIOS;2NIEUN-THIEUTH;2TIKEUT-KIYEOK;2TIKEUT-RIEUL
11CC 0HANGUL JONGSEONG RIEUL-KIYEOK-SIOS;2RIEUL-NIEUN;2RIEUL-TIKEUT;2RIEUL-TIKEUT-HIEUH;2SSANGRIEUL
11D1 0HANGUL JONGSEONG RIEUL-MIEUM-KIYEOK;2RIEUL-MIEUM-SIOS;2RIEUL-PIEUP-SIOS;2RIEUL-PIEUP-HIEUH
11D5 0HANGUL JONGSEONG RIEUL-KAPYEOUNPIEUP;2RIEUL-SSANGSIOS;2RIEUL-PANSIOS;2RIEUL-KHIEUKH
11D9 0HANGUL JONGSEONG RIEUL-YEORINHIEUH;2MIEUM-KIYEOK;2MIEUM-RIEUL;2MIEUM-PIEUP;2MIEUM-SIOS
11DE 0HANGUL JONGSEONG MIEUM-SSANGSIOS;2MIEUM-PANSIOS;2MIEUM-CHIEUCH;2MIEUM-HIEUH;2KAPYEOUNMIEUM
11E3 0HANGUL JONGSEONG PIEUP-RIEUL;2PIEUP-PHIEUPH;2PIEUP-HIEUH;2KAPYEOUNPIEUP;2SIOS-KIYEOK
11E8 0HANGUL JONGSEONG SIOS-TIKEUT;2SIOS-RIEUL;2SIOS-PIEUP;2PANSIOS;2IEUNG-KIYEOK
11ED 0HANGUL JONGSEONG IEUNG-SSANGKIYEOK;2SSANGIEUNG;2IEUNG-KHIEUKH;2YESIEUNG;2YESIEUNG-SIOS
11F2 0HANGUL JONGSEONG YESIEUNG-PANSIOS;2PHIEUPH-PIEUP;2KAPYEOUNPHIEUPH;2HIEUH-NIEUN;2HIEUH-RIEUL
11F7 0HANGUL JONGSEONG HIEUH-MIEUM;2HIEUH-PIEUP;2YEORINHIEUH;2KIYEOK-NIEUN;2KIYEOK-PIEUP
11FC 0HANGUL JONGSEONG KIYEOK-CHIEUCH;2KIYEOK-KHIEUKH;2KIYEOK-HIEUH;2SSANGNIEUN
1200 0ETHIOPIC SYLLABLE HA;2HU;2HI;2HAA;2HEE;2HE;2HO;2HOA;2LA;2LU;2LI;2LAA;2LEE;2LE;2LO;2LWA;2HHA
1211 0ETHIOPIC SYLLABLE HHU;2HHI;2HHAA;2HHEE;2HHE;2HHO;2HHWA;2MA;2MU;2MI;2MAA;2MEE;2ME;2MO;2MWA
1220 0ETHIOPIC SYLLABLE SZA;2SZU;2SZI;2SZAA;2SZEE;2SZE;2SZO;2SZWA;2RA;2RU;2RI;2RAA;2REE;2RE;2RO
122F 0ETHIOPIC SYLLABLE RWA;2SA;2SU;2SI;2SAA;2SEE;2SE;2SO;2SWA;2SHA;2SHU;2SHI;2SHAA;2SHEE;2SHE;2SHO
123F 0ETHIOPIC SYLLABLE SHWA;2QA;2QU;2QI;2QAA;2QEE;2QE;2QO;2QOA;2QWA
124A 0ETHIOPIC SYLLABLE QWI;2QWAA;2QWEE;2QWE
1250 0ETHIOPIC SYLLABLE QHA;2QHU;2QHI;2QHAA;2QHEE;2QHE;2QHO
1258 0ETHIOPIC SYLLABLE QHWA
125A 0ETHIOPIC SYLLABLE QHWI;2QHWAA;2QHWEE;2QHWE
1260 0ETHIOPIC SYLLABLE BA;2BU;2BI;2BAA;2BEE;2BE;2BO;2BWA;2VA;2VU;2VI;2VAA;2VEE;2VE;2VO;2VWA;2TA
1271 0ETHIOPIC SYLLABLE TU;2TI;2TAA;2TEE;2TE;2TO;2TWA;2CA;2CU;2CI;2CAA;2CEE;2CE;2CO;2CWA;2XA;2XU
1282 0ETHIOPIC SYLLABLE XI;2XAA;2XEE;2XE;2XO;2XOA;2XWA
128A 0ETHIOPIC SYLLABLE XWI;2XWAA;2XWEE;2XWE
1290 0ETHIOPIC SYLLABLE NA;2NU;2NI;2NAA;2NEE;2NE;2NO;2NWA;2NYA;2NYU;2NYI;2NYAA;2NYEE;2NYE;2NYO
129F 0ETHIOPIC SYLLABLE NYWA;2GLOTTAL A;3U;3I;3AA;3EE;3E;3O;3WA;2KA;2KU;2KI;2KAA;2KEE;2KE;2KO;2KOA
12B0 0ETHIOPIC SYLLABLE KWA
12B2 0ETHIOPIC SYLLABLE KWI;2KWAA;2KWEE;2KWE
12B8 0ETHIOPIC SYLLABLE KXA;2KXU;2KXI;2KXAA;2KXEE;2KXE;2KXO
12C0 0ETHIOPIC SYLLABLE KXWA
12C2 0ETHIOPIC SYLLABLE KXWI;2KXWAA;2KXWEE;2KXWE
12C8 0ETHIOPIC SYLLABLE WA;2WU;2WI;2WAA;2WEE;2WE;2WO;2WOA;2PHARYNGEAL A;3U;3I;3AA;3EE;3E;3O
12D8 0ETHIOPIC SYLLABLE ZA;2ZU;2ZI;2ZAA;2ZEE;2ZE;2ZO;2ZWA;2ZHA;2ZHU;2ZHI;2ZHAA;2ZHEE;2ZHE;2ZHO
12E7 0ETHIOPIC SYLLABLE ZHWA;2YA;2YU;2YI;2YAA;2YEE;2YE;2YO;2YOA;2DA;2DU;2DI;2DAA;2DEE;2DE;2DO;2DWA
12F8 0ETHIOPIC SYLLABLE DDA;2DDU;2DDI;2DDAA;2DDEE;2DDE;2DDO;2DDWA;2JA;2JU;2JI;2JAA;2JEE;2JE;2JO
1307 0ETHIOPIC SYLLABLE JWA;2GA;2GU;2GI;2GAA;2GEE;2GE;2GO;2GOA;2GWA
1312 0ETHIOPIC SYLLABLE GWI;2GWAA;2GWEE;2GWE
1318 0ETHIOPIC SYLLABLE GGA;2GGU;2GGI;2GGAA;2GGEE;2GGE;2GGO;2GGWAA;2THA;2THU;2THI;2THAA;2THEE;2THE
1326 0ETHIOPIC SYLLABLE THO;2THWA;2CHA;2CHU;2CHI;2CHAA;2CHEE;2CHE;2CHO;2CHWA;2PHA;2PHU;2PHI;2PHAA
1334 0ETHIOPIC SYLLABLE PHEE;2PHE;2PHO;2PHWA;2TSA;2TSU;2TSI;2TSAA;2TSEE;2TSE;2TSO;2TSWA;2TZA;2TZU
1342 0ETHIOPIC SYLLABLE TZI;2TZAA;2TZEE;2TZE;2TZO;2TZOA;2FA;2FU;2FI;2FAA;2FEE;2FE;2FO;2FWA;2PA;2PU
1352 0ETHIOPIC SYLLABLE PI;2PAA;2PEE;2PE;2PO;2PWA;2RYA;2MYA;2FYA
135D 0ETHIOPIC COMBINING GEMINATION AND VOWEL LENGTH MARK;2VOWEL LENGTH MARK;2GEMINATION MARK
1360 0ETHIOPIC SECTION MARK;1WORDSPACE;1FULL STOP;1COMMA;1SEMICOLON;1COLON;1PREFACE COLON
1367 0ETHIOPIC QUESTION MARK;1PARAGRAPH SEPARATOR;1DIGIT ONE;2TWO;2THREE;2FOUR;2FIVE;2SIX;2SEVEN
1370 0ETHIOPIC DIGIT EIGHT;2NINE;1NUMBER TEN;2TWENTY;2THIRTY;2FORTY;2FIFTY;2SIXTY;2SEVENTY;2EIGHTY
137A 0ETHIOPIC NUMBER NINETY;2HUNDRED;2TEN THOUSAND
1380 0ETHIOPIC SYLLABLE SEBATBEIT MWA;2MWI;2MWEE;2MWE;2SEBATBEIT BWA;2BWI;2BWEE;2BWE;2SEBATBEIT FWA
1389 0ETHIOPIC SYLLABLE FWI;2FWEE;2FWE;2SEBATBEIT PWA;2PWI;2PWEE;2PWE;1TONAL MARK YIZET;3DERET
1392 0ETHIOPIC TONAL MARK RIKRIK;3SHORT RIKRIK;3DIFAT;3KENAT;3CHIRET;3HIDET;3DERET-HIDET;3KURT
13A0 0CHEROKEE LETTER A;2E;2I;2O;2U;2V;2GA;2KA;2GE;2GI;2GO;2GU;2GV;2HA;2HE;2HI;2HO;2HU;2HV;2LA;2LE
13B5 0CHEROKEE LETTER LI;2LO;2LU;2LV;2MA;2ME;2MI;2MO;2MU;2NA;2HNA;2NAH;2NE;2NI;2NO;2NU;2NV;2QUA
13C7 0CHEROKEE LETTER QUE;2QUI;2QUO;2QUU;2QUV;2SA;2S;2SE;2SI;2SO;2SU;2SV;2DA;2TA;2DE;2TE;2DI;2TI
13D9 0CHEROKEE LETTER DO;2DU;2DV;2DLA;2TLA;2TLE;2TLI;2TLO;2TLU;2TLV;2TSA;2TSE;2TSI;2TSO;2TSU;2TSV
13E9 0CHEROKEE LETTER WA;2WE;2WI;2WO;2WU;2WV;2YA;2YE;2YI;2YO;2YU;2YV;2MV
13F8 0CHEROKEE SMALL LETTER YE;3YI;3YO;3YU;3YV;3MV
1400 0CANADIAN SYLLABICS HYPHEN;2E;2AAI;2I;2II;2O;2OO;2Y-CREE OO;2CARRIER EE;3I;2A;2AA;2WE
140D 0CANADIAN SYLLABICS WEST-CREE WE;2WI;2WEST-CREE WI;2WII;2WEST-CREE WII;2WO;2WEST-CREE WO;2WOO
1415 0CANADIAN SYLLABICS WEST-CREE WOO;2NASKAPI WOO;2WA;2WEST-CREE WA;2WAA;2WEST-CREE WAA
141B 0CANADIAN SYLLABICS NASKAPI WAA;2AI;2Y-CREE W;2GLOTTAL STOP;2FINAL ACUTE;3GRAVE
1421 0CANADIAN SYLLABICS FINAL BOTTOM HALF RING;3TOP HALF RING;3RIGHT HALF RING;3RING;3DOUBLE ACUTE
1426 0CANADIAN SYLLABICS FINAL DOUBLE SHORT VERTICAL STROKES;3MIDDLE DOT;3SHORT HORIZONTAL STROKE
1429 0CANADIAN SYLLABICS FINAL PLUS;3DOWN TACK;2EN;2IN;2ON;2AN;2PE;2PAAI;2PI;2PII;2PO;2POO
1435 0CANADIAN SYLLABICS Y-CREE POO;2CARRIER HEE;3HI;2PA;2PAA;2PWE;2WEST-CREE PWE;2PWI
143D 0CANADIAN SYLLABICS WEST-CREE PWI;2PWII;2WEST-CREE PWII;2PWO;2WEST-CREE PWO;2PWOO
1443 0CANADIAN SYLLABICS WEST-CREE PWOO;2PWA;2WEST-CREE PWA;2PWAA;2WEST-CREE PWAA;2Y-CREE PWAA;2P
144A 0CANADIAN SYLLABICS WEST-CREE P;2CARRIER H;2TE;2TAAI;2TI;2TII;2TO;2TOO;2Y-CREE TOO
1453 0CANADIAN SYLLABICS CARRIER DEE;3DI;2TA;2TAA;2TWE;2WEST-CREE TWE;2TWI;2WEST-CREE TWI;2TWII
145C 0CANADIAN SYLLABICS WEST-CREE TWII;2TWO;2WEST-CREE TWO;2TWOO;2WEST-CREE TWOO;2TWA
1462 0CANADIAN SYLLABICS WEST-CREE TWA;2TWAA;2WEST-CREE TWAA;2NASKAPI TWAA;2T;2TTE;2TTI;2TTO;2TTA
146B 0CANADIAN SYLLABICS KE;2KAAI;2KI;2KII;2KO;2KOO;2Y-CREE KOO;2KA;2KAA;2KWE;2WEST-CREE KWE;2KWI
1477 0CANADIAN SYLLABICS WEST-CREE KWI;2KWII;2WEST-CREE KWII;2KWO;2WEST-CREE KWO;2KWOO
147D 0CANADIAN SYLLABICS WEST-CREE KWOO;2KWA;2WEST-CREE KWA;2KWAA;2WEST-CREE KWAA;2NASKAPI KWAA;2K
1484 0CANADIAN SYLLABICS KW;2SOUTH-SLAVEY KEH;3KIH;3KOH;3KAH;2CE;2CAAI;2CI;2CII;2CO;2COO
148F 0CANADIAN SYLLABICS Y-CREE COO;2CA;2CAA;2CWE;2WEST-CREE CWE;2CWI;2WEST-CREE CWI;2CWII
1497 0CANADIAN SYLLABICS WEST-CREE CWII;2CWO;2WEST-CREE CWO;2CWOO;2WEST-CREE CWOO;2CWA
149D 0CANADIAN SYLLABICS WEST-CREE CWA;2CWAA;2WEST-CREE CWAA;2NASKAPI CWAA;2C;2SAYISI TH;2ME;2MAAI
14A5 0CANADIAN SYLLABICS MI;2MII;2MO;2MOO;2Y-CREE MOO;2MA;2MAA;2MWE;2WEST-CREE MWE;2MWI
14AF 0CANADIAN SYLLABICS WEST-CREE MWI;2MWII;2WEST-CREE MWII;2MWO;2WEST-CREE MWO;2MWOO
14B5 0CANADIAN SYLLABICS WEST-CREE MWOO;2MWA;2WEST-CREE MWA;2MWAA;2WEST-CREE MWAA;2NASKAPI MWAA;2M
14BC 0CANADIAN SYLLABICS WEST-CREE M;2MH;2ATHAPASCAN M;2SAYISI M;2NE;2NAAI;2NI;2NII;2NO;2NOO
14C6 0CANADIAN SYLLABICS Y-CREE NOO;2NA;2NAA;2NWE;2WEST-CREE NWE;2NWA;2WEST-CREE NWA;2NWAA
14CE 0CANADIAN SYLLABICS WEST-CREE NWAA;2NASKAPI NWAA;2N;2CARRIER NG;2NH;2LE;2LAAI;2LI;2LII;2LO
14D8 0CANADIAN SYLLABICS LOO;2Y-CREE LOO;2LA;2LAA;2LWE;2WEST-CREE LWE;2LWI;2WEST-CREE LWI;2LWII
14E1 0CANADIAN SYLLABICS WEST-CREE LWII;2LWO;2WEST-CREE LWO;2LWOO;2WEST-CREE LWOO;2LWA
14E7 0CANADIAN SYLLABICS WEST-CREE LWA;2LWAA;2WEST-CREE LWAA;2L;2WEST-CREE L;2MEDIAL L;2SE;2SAAI
14EF 0CANADIAN SYLLABICS SI;2SII;2SO;2SOO;2Y-CREE SOO;2SA;2SAA;2SWE;2WEST-CREE SWE;2SWI
14F9 0CANADIAN SYLLABICS WEST-CREE SWI;2SWII;2WEST-CREE SWII;2SWO;2WEST-CREE SWO;2SWOO
14FF 0CANADIAN SYLLABICS WEST-CREE SWOO;2SWA;2WEST-CREE SWA;2SWAA;2WEST-CREE SWAA;2NASKAPI SWAA;2S
1506 0CANADIAN SYLLABICS ATHAPASCAN S;2SW;2BLACKFOOT S;2MOOSE-CREE SK;2NASKAPI SKW;3S-W;3SPWA;3STWA
150E 0CANADIAN SYLLABICS NASKAPI SKWA;3SCWA;2SHE;2SHI;2SHII;2SHO;2SHOO;2SHA;2SHAA;2SHWE
1518 0CANADIAN SYLLABICS WEST-CREE SHWE;2SHWI;2WEST-CREE SHWI;2SHWII;2WEST-CREE SHWII;2SHWO
151E 0CANADIAN SYLLABICS WEST-CREE SHWO;2SHWOO;2WEST-CREE SHWOO;2SHWA;2WEST-CREE SHWA;2SHWAA
1524 0CANADIAN SYLLABICS WEST-CREE SHWAA;2SH;2YE;2YAAI;2YI;2YII;2YO;2YOO;2Y-CREE YOO;2YA;2YAA;2YWE
1530 0CANADIAN SYLLABICS WEST-CREE YWE;2YWI;2WEST-CREE YWI;2YWII;2WEST-CREE YWII;2YWO
1536 0CANADIAN SYLLABICS WEST-CREE YWO;2YWOO;2WEST-CREE YWOO;2YWA;2WEST-CREE YWA;2YWAA
153C 0CANADIAN SYLLABICS WEST-CREE YWAA;2NASKAPI YWAA;2Y;2BIBLE-CREE Y;2WEST-CREE Y;2SAYISI YI;2RE
1543 0CANADIAN SYLLABICS R-CREE RE;2WEST-CREE LE;2RAAI;2RI;2RII;2RO;2ROO;2WEST-CREE LO;2RA;2RAA
154D 0CANADIAN SYLLABICS WEST-CREE LA;2RWAA;2WEST-CREE RWAA;2R;2WEST-CREE R;2MEDIAL R;2FE;2FAAI;2FI
1556 0CANADIAN SYLLABICS FII;2FO;2FOO;2FA;2FAA;2FWAA;2WEST-CREE FWAA;2F;2THE;2N-CREE THE;2THI
1561 0CANADIAN SYLLABICS N-CREE THI;2THII;2N-CREE THII;2THO;2THOO;2THA;2THAA;2THWAA
1569 0CANADIAN SYLLABICS WEST-CREE THWAA;2TH;2TTHE;2TTHI;2TTHO;2TTHA;2TTH;2TYE;2TYI;2TYO;2TYA
1574 0CANADIAN SYLLABICS NUNAVIK HE;3HI;3HII;3HO;3HOO;3HA;3HAA;3H;2NUNAVUT H;2HK;2QAAI;2QI;2QII;2QO
1582 0CANADIAN SYLLABICS QOO;2QA;2QAA;2Q;2TLHE;2TLHI;2TLHO;2TLHA;2WEST-CREE RE;3RI;3RO;3RA;2NGAAI
158F 0CANADIAN SYLLABICS NGI;2NGII;2NGO;2NGOO;2NGA;2NGAA;2NG;2NNG;2SAYISI SHE;3SHI;3SHO;3SHA
159B 0CANADIAN SYLLABICS WOODS-CREE THE;3THI;3THO;3THA;3TH;2LHI;2LHII;2LHO;2LHOO;2LHA;2LHAA;2LH
15A7 0CANADIAN SYLLABICS TH-CREE THE;3THI;3THII;3THO;3THOO;3THA;3THAA;3TH;2AIVILIK B;2BLACKFOOT E
15B1 0CANADIAN SYLLABICS BLACKFOOT I;3O;3A;3WE;3WI;3WO;3WA;3NE;3NI;3NO;3NA;3KE;3KI;3KO;3KA
15C0 0CANADIAN SYLLABICS SAYISI HE;3HI;3HO;3HA;2CARRIER GHU;3GHO;3GHE;3GHEE;3GHI;3GHA;3RU;3RO;3RE
15CD 0CANADIAN SYLLABICS CARRIER REE;3RI;3RA;3WU;3WO;3WE;3WEE;3WI;3WA;3HWU;3HWO;3HWE;3HWEE;3HWI
15DB 0CANADIAN SYLLABICS CARRIER HWA;3THU;3THO;3THE;3THEE;3THI;3THA;3TTU;3TTO;3TTE;3TTEE;3TTI;3TTA
15E8 0CANADIAN SYLLABICS CARRIER PU;3PO;3PE;3PEE;3PI;3PA;3P;3GU;3GO;3GE;3GEE;3GI;3GA;3KHU;3KHO;3KHE
15F8 0CANADIAN SYLLABICS CARRIER KHEE;3KHI;3KHA;3KKU;3KKO;3KKE;3KKEE;3KKI;3KKA;3KK;3NU;3NO;3NE;3NEE
1606 0CANADIAN SYLLABICS CARRIER NI;3NA;3MU;3MO;3ME;3MEE;3MI;3MA;3YU;3YO;3YE;3YEE;3YI;3YA;3JU
1615 0CANADIAN SYLLABICS SAYISI JU;2CARRIER JO;3JE;3JEE;3JI;2SAYISI JI;2CARRIER JA;3JJU;3JJO;3JJE
161F 0CANADIAN SYLLABICS CARRIER JJEE;3JJI;3JJA;3LU;3LO;3LE;3LEE;3LI;3LA;3DLU;3DLO;3DLE;3DLEE;3DLI
162D 0CANADIAN SYLLABICS CARRIER DLA;3LHU;3LHO;3LHE;3LHEE;3LHI;3LHA;3TLHU;3TLHO;3TLHE;3TLHEE;3TLHI
1639 0CANADIAN SYLLABICS CARRIER TLHA;3TLU;3TLO;3TLE;3TLEE;3TLI;3TLA;3ZU;3ZO;3ZE;3ZEE;3ZI;3ZA;3Z
1647 0CANADIAN SYLLABICS CARRIER INITIAL Z;3DZU;3DZO;3DZE;3DZEE;3DZI;3DZA;3SU;3SO;3SE;3SEE;3SI;3SA
1654 0CANADIAN SYLLABICS CARRIER SHU;3SHO;3SHE;3SHEE;3SHI;3SHA;3SH;3TSU;3TSO;3TSE;3TSEE;3TSI;3TSA
1661 0CANADIAN SYLLABICS CARRIER CHU;3CHO;3CHE;3CHEE;3CHI;3CHA;3TTSU;3TTSO;3TTSE;3TTSEE;3TTSI;3TTSA
166D 0CANADIAN SYLLABICS CHI SIGN;2FULL STOP;2QAI;2NGAI;2NNGI;2NNGII;2NNGO;2NNGOO;2NNGA;2NNGAA
1677 0CANADIAN SYLLABICS WOODS-CREE THWEE;3THWI;3THWII;3THWO;3THWOO;3THWA;3THWAA;3FINAL TH
167F 0CANADIAN SYLLABICS BLACKFOOT W;0OGHAM SPACE MARK;1LETTER BEITH;2LUIS;2FEARN;2SAIL;2NION;2UATH
1687 0OGHAM LETTER DAIR;2TINNE;2COLL;2CEIRT;2MUIN;2GORT;2NGEADAL;2STRAIF;2RUIS;2AILM;2ONN;2UR
1693 0OGHAM LETTER EADHADH;2IODHADH;2EABHADH;2OR;2UILLEANN;2IFIN;2EAMHANCHOLL;2PEITH;1FEATHER MARK
169C 0OGHAM REVERSED FEATHER MARK
16A0 0RUNIC LETTER FEHU FEOH FE F;2V;2URUZ UR U;2YR;2Y;2W;2THURISAZ THURS THORN;2ETH;2ANSUZ A;2OS O
16AA 0RUNIC LETTER AC A;2AESC;2LONG-BRANCH-OSS O;2SHORT-TWIG-OSS O;2O;2OE;2ON;2RAIDO RAD REID R
16B2 0RUNIC LETTER KAUNA;2CEN;2KAUN K;2G;2ENG;2GEBO GYFU G;2GAR;2WUNJO WYNN W;2HAGLAZ H;2HAEGL H
16BC 0RUNIC LETTER LONG-BRANCH-HAGALL H;2SHORT-TWIG-HAGALL H;2NAUDIZ NYD NAUD N;2SHORT-TWIG-NAUD N
16C0 0RUNIC LETTER DOTTED-N;2ISAZ IS ISS I;2E;2JERAN J;2GER;2LONG-BRANCH-AR AE;2SHORT-TWIG-AR A
16C7 0RUNIC LETTER IWAZ EOH;2PERTHO PEORTH P;2ALGIZ EOLHX;2SOWILO S;2SIGEL LONG-BRANCH-SOL S
16CC 0RUNIC LETTER SHORT-TWIG-SOL S;2C;2Z;2TIWAZ TIR TYR T;2SHORT-TWIG-TYR T;2D
16D2 0RUNIC LETTER BERKANAN BEORC BJARKAN B;2SHORT-TWIG-BJARKAN B;2DOTTED-P;2OPEN-P;2EHWAZ EH E
16D7 0RUNIC LETTER MANNAZ MAN M;2LONG-BRANCH-MADR M;2SHORT-TWIG-MADR M;2LAUKAZ LAGU LOGR L
16DB 0RUNIC LETTER DOTTED-L;2INGWAZ;2ING;2DAGAZ DAEG D;2OTHALAN ETHEL O;2EAR;2IOR;2CWEORTH;2CALC
16E4 0RUNIC LETTER CEALC;2STAN;2LONG-BRANCH-YR;2SHORT-TWIG-YR;2ICELANDIC-YR;2Q;2X
16EB 0RUNIC SINGLE PUNCTUATION;1MULTIPLE PUNCTUATION;1CROSS PUNCTUATION;1ARLAUG SYMBOL
16EF 0RUNIC TVIMADUR SYMBOL;1BELGTHOR SYMBOL;1LETTER K;2SH;2OO;2FRANKS CASKET OS;4IS;4EH;4AC;4AESC
1700 0TAGALOG LETTER A;2I;2U;2KA;2GA;2NGA;2TA;2DA;2NA;2PA;2BA;2MA;2YA;2RA;2LA;2WA;2SA;2HA
1712 0TAGALOG VOWEL SIGN I;3U;1SIGN VIRAMA;2PAMUDPOD
171F 0TAGALOG LETTER ARCHAIC RA;0HANUNOO LETTER A;2I;2U;2KA;2GA;2NGA;2TA;2DA;2NA;2PA;2BA;2MA;2YA
172D 0HANUNOO LETTER RA;2LA;2WA;2SA;2HA;1VOWEL SIGN I;3U;1SIGN PAMUDPOD
1735 0PHILIPPINE SINGLE PUNCTUATION;1DOUBLE PUNCTUATION
1740 0BUHID LETTER A;2I;2U;2KA;2GA;2NGA;2TA;2DA;2NA;2PA;2BA;2MA;2YA;2RA;2LA;2WA;2SA;2HA
1752 0BUHID VOWEL SIGN I;3U
1760 0TAGBANWA LETTER A;2I;2U;2KA;2GA;2NGA;2TA;2DA;2NA;2PA;2BA;2MA;2YA
176E 0TAGBANWA LETTER LA;2WA;2SA
1772 0TAGBANWA VOWEL SIGN I;3U
1780 0KHMER LETTER KA;2KHA;2KO;2KHO;2NGO;2CA;2CHA;2CO;2CHO;2NYO;2DA;2TTHA;2DO;2TTHO;2NNO;2TA;2THA
1791 0KHMER LETTER TO;2THO;2NO;2BA;2PHA;2PO;2PHO;2MO;2YO;2RO;2LO;2VO;2SHA;2SSO;2SA;2HA;2LA;2QA
17A3 0KHMER INDEPENDENT VOWEL QAQ;3QAA;3QI;3QII;3QU;3QUK;3QUU;3QUUV;3RY;3RYY;3LY;3LYY;3QE;3QAI
17B1 0KHMER INDEPENDENT VOWEL QOO TYPE ONE;5TWO;3QAU;1VOWEL INHERENT AQ;3AA;2SIGN AA;3I;3II;3Y;3YY
17BB 0KHMER VOWEL SIGN U;3UU;3UA;3OE;3YA;3IE;3E;3AE;3AI;3OO;3AU;1SIGN NIKAHIT;2REAHMUK
17C8 0KHMER SIGN YUUKALEAPINTU;2MUUSIKATOAN;2TRIISAP;2BANTOC;2ROBAT;2TOANDAKHIAT;2KAKABAT;2AHSDA
17D0 0KHMER SIGN SAMYOK SANNYA;2VIRIAM;2COENG;2BATHAMASAT;2KHAN;2BARIYOOSAN;2CAMNUC PII KUUH
17D7 0KHMER SIGN LEK TOO;2BEYYAL;2PHNAEK MUAN;2KOOMUUT;1CURRENCY SYMBOL RIEL;1SIGN AVAKRAHASANYA
17DD 0KHMER SIGN ATTHACAN
17E0 0KHMER DIGIT ZERO;2ONE;2TWO;2THREE;2FOUR;2FIVE;2SIX;2SEVEN;2EIGHT;2NINE
17F0 0KHMER SYMBOL LEK ATTAK SON;4MUOY;4PII;4BEI;4BUON;4PRAM;4PRAM-MUOY;4PRAM-PII;4PRAM-BEI
17F9 0KHMER SYMBOL LEK ATTAK PRAM-BUON
1800 0MONGOLIAN BIRGA;1ELLIPSIS;1COMMA;1FULL STOP;1COLON;1FOUR DOTS;1TODO SOFT HYPHEN
1807 0MONGOLIAN SIBE SYLLABLE BOUNDARY MARKER;1MANCHU COMMA;2FULL STOP;1NIRUGU
180B 0MONGOLIAN FREE VARIATION SELECTOR ONE;4TWO;4THREE;1VOWEL SEPARATOR
180F 0MONGOLIAN FREE VARIATION SELECTOR FOUR;1DIGIT ZERO;2ONE;2TWO;2THREE;2FOUR;2FIVE;2SIX;2SEVEN
1818 0MONGOLIAN DIGIT EIGHT;2NINE
1820 0MONGOLIAN LETTER A;2E;2I;2O;2U;2OE;2UE;2EE;2NA;2ANG;2BA;2PA;2QA;2GA;2MA;2LA;2SA;2SHA;2TA;2DA
1834 0MONGOLIAN LETTER CHA;2JA;2YA;2RA;2WA;2FA;2KA;2KHA;2TSA;2ZA;2HAA;2ZRA;2LHA;2ZHI;2CHI
1843 0MONGOLIAN LETTER TODO LONG VOWEL SIGN;3E;3I;3O;3U;3OE;3UE;3ANG;3BA;3PA;3QA;3GA;3MA;3TA;3DA
1852 0MONGOLIAN LETTER TODO CHA;3JA;3TSA;3YA;3WA;3KA;3GAA;3HAA;3JIA;3NIA;3DZA;2SIBE E;3I;3IY;3UE;3U
1862 0MONGOLIAN LETTER SIBE ANG;3KA;3GA;3HA;3PA;3SHA;3TA;3DA;3JA;3FA;3GAA;3HAA;3TSA;3ZA;3RAA;3CHA
1872 0MONGOLIAN LETTER SIBE ZHA;2MANCHU I;3KA;3RA;3FA;3ZHA;2CHA WITH TWO DOTS
1880 0MONGOLIAN LETTER ALI GALI ANUSVARA ONE;4VISARGA ONE;4DAMARU;4UBADAMA;4INVERTED UBADAMA
1885 0MONGOLIAN LETTER ALI GALI BALUDA;4THREE BALUDA;4A;4I;4KA;4NGA;4CA;4TTA;4TTHA;4DDA;4NNA;4TA
1891 0MONGOLIAN LETTER ALI GALI DA;4PA;4PHA;4SSA;4ZHA;4ZA;4AH;2TODO ALI GALI TA;5ZHA
189A 0MONGOLIAN LETTER MANCHU ALI GALI GHA;5NGA;5CA;5JHA;5TTA;5DDHA;5TA;5DHA;5SSA;5CYA;5ZHA;5ZA
18A6 0MONGOLIAN LETTER ALI GALI HALF U;5YA;2MANCHU ALI GALI BHA;2ALI GALI DAGALGA
18AA 0MONGOLIAN LETTER MANCHU ALI GALI LHA
18B0 0CANADIAN SYLLABICS OY;2AY;2AAY;2WAY;2POY;2PAY;2PWOY;2TAY;2KAY;2KWAY;2MAY;2NOY;2NAY;2LAY;2SOY
18BF 0CANADIAN SYLLABICS SAY;2SHOY;2SHAY;2SHWOY;2YOY;2YAY;2RAY;2NWI;2OJIBWAY NWI;2NWII
18C9 0CANADIAN SYLLABICS OJIBWAY NWII;2NWO;2OJIBWAY NWO;2NWOO;2OJIBWAY NWOO;2RWEE;2RWI;2RWII;2RWO
18D2 0CANADIAN SYLLABICS RWOO;2RWA;2OJIBWAY P;3T;3K;3C;3M;3N;3S;3SH;2EASTERN W;2WESTERN W
18DE 0CANADIAN SYLLABICS FINAL SMALL RING;3RAISED DOT;2R-CREE RWE;2WEST-CREE LOO;3LAA;2THWE;2THWA
18E5 0CANADIAN SYLLABICS TTHWE;2TTHOO;2TTHAA;2TLHWE;2TLHOO;2SAYISI SHWE;3SHOO;3HOO;2CARRIER GWU
18EE 0CANADIAN SYLLABICS CARRIER DENE GEE;3GAA;3GWA;2SAYISI JUU;2CARRIER JWA;2BEAVER DENE L;4R
18F5 0CANADIAN SYLLABICS CARRIER DENTAL S
1900 0LIMBU VOWEL-CARRIER LETTER;1LETTER KA;2KHA;2GA;2GHA;2NGA;2CA;2CHA;2JA;2JHA;2YAN;2TA;2THA;2DA
190E 0LIMBU LETTER DHA;2NA;2PA;2PHA;2BA;2BHA;2MA;2YA;2RA;2LA;2WA;2SHA;2SSA;2SA;2HA;2GYAN;2TRA
1920 0LIMBU VOWEL SIGN A;3I;3U;3EE;3AI;3OO;3AU;3E;3O;1SUBJOINED LETTER YA;3RA;3WA
1930 0LIMBU SMALL LETTER KA;3NGA;3ANUSVARA;3TA;3NA;3PA;3MA;3RA;3LA;1SIGN MUKPHRENG;2KEMPHRENG;2SA-I
1940 0LIMBU SIGN LOO
1944 0LIMBU EXCLAMATION MARK;1QUESTION MARK;1DIGIT ZERO;2ONE;2TWO;2THREE;2FOUR;2FIVE;2SIX;2SEVEN
194E 0LIMBU DIGIT EIGHT;2NINE;0TAI LE LETTER KA;3XA;3NGA;3TSA;3SA;3YA;3TA;3THA;3LA;3PA;3PHA;3MA;3FA
195D 0TAI LE LETTER VA;3HA;3QA;3KHA;3TSHA;3NA;3A;3I;3EE;3EH;3U;3OO;3O;3UE;3E;3AUE;3AI
1970 0TAI LE LETTER TONE-2;3TONE-3;3TONE-4;3TONE-5;3TONE-6
1980 0NEW TAI LUE LETTER HIGH QA;4LOW QA;4HIGH KA;5XA;5NGA;4LOW KA;5XA;5NGA;4HIGH TSA;5SA;5YA
198B 0NEW TAI LUE LETTER LOW TSA;5SA;5YA;4HIGH TA;5THA;5NA;4LOW TA;5THA;5NA;4HIGH PA;5PHA;5MA
1997 0NEW TAI LUE LETTER LOW PA;5PHA;5MA;4HIGH FA;5VA;5LA;4LOW FA;5VA;5LA;4HIGH HA;5DA;5BA;4LOW HA
19A4 0NEW TAI LUE LETTER LOW DA;5BA;4HIGH KVA;5XVA;4LOW KVA;5XVA;4HIGH SUA;4LOW SUA
19B0 0NEW TAI LUE VOWEL SIGN VOWEL SHORTENER;5AA;5II;5U;5UU;5E;5AE;5O;5OA;5UE;5AY;5AAY;5UY;5OY;5OAY
19BF 0NEW TAI LUE VOWEL SIGN UEY;5IY;3LETTER FINAL V;5NG;5N;5M;5K;5D;5B;3TONE MARK-1;4MARK-2
19D0 0NEW TAI LUE DIGIT ZERO;4ONE;4TWO;4THREE;4FOUR;4FIVE;4SIX;4SEVEN;4EIGHT;4NINE;3THAM DIGIT ONE
19DE 0NEW TAI LUE SIGN LAE;4LAEV;0KHMER SYMBOL PATHAMASAT;2MUOY KOET;2PII KOET;2BEI KOET;2BUON KOET
19E5 0KHMER SYMBOL PRAM KOET;2PRAM-MUOY KOET;2PRAM-PII KOET;2PRAM-BEI KOET;2PRAM-BUON KOET
19EA 0KHMER SYMBOL DAP KOET;2DAP-MUOY KOET;2DAP-PII KOET;2DAP-BEI KOET;2DAP-BUON KOET
19EF 0KHMER SYMBOL DAP-PRAM KOET;2TUTEYASAT;2MUOY ROC;2PII ROC;2BEI ROC;2BUON ROC;2PRAM ROC
19F6 0KHMER SYMBOL PRAM-MUOY ROC;2PRAM-PII ROC;2PRAM-BEI ROC;2PRAM-BUON ROC;2DAP ROC;2DAP-MUOY ROC
19FC 0KHMER SYMBOL DAP-PII ROC;2DAP-BEI ROC;2DAP-BUON ROC;2DAP-PRAM ROC;0BUGINESE LETTER KA;2GA
1A02 0BUGINESE LETTER NGA;2NGKA;2PA;2BA;2MA;2MPA;2TA;2DA;2NA;2NRA;2CA;2JA;2NYA;2NYCA;2YA;2RA;2LA
1A13 0BUGINESE LETTER VA;2SA;2A;2HA;1VOWEL SIGN I;3U;3E;3O;3AE
1A1E 0BUGINESE PALLAWA;1END OF SECTION;0TAI THAM LETTER HIGH KA;4KHA;4KXA;3LOW KA;4KXA;4KHA;3NGA
1A27 0TAI THAM LETTER HIGH CA;4CHA;3LOW CA;4SA;4CHA;3NYA;3RATA;3HIGH RATHA;3DA;3LOW RATHA;3RANA
1A32 0TAI THAM LETTER HIGH TA;4THA;3LOW TA;4THA;3NA;3BA;3HIGH PA;4PHA;4FA;3LOW PA;4FA;4PHA;3MA
1A3F 0TAI THAM LETTER LOW YA;3HIGH YA;3RA;3RUE;3LA;3LUE;3WA;3HIGH SHA;4SSA;4SA;4HA;3LLA;3A;3LOW HA
1A4D 0TAI THAM LETTER I;3II;3U;3UU;3EE;3OO;3LAE;3GREAT SA;2CONSONANT SIGN MEDIAL RA;5LA
1A57 0TAI THAM CONSONANT SIGN LA TANG LAI;2SIGN MAI KANG LAI;2CONSONANT SIGN FINAL NGA;4LOW PA
1A5B 0TAI THAM CONSONANT SIGN HIGH RATHA OR LOW PA;4MA;4BA;4SA
1A60 0TAI THAM SIGN SAKOT;2VOWEL SIGN A;4MAI SAT;4AA;4TALL AA;4I;4II;4UE;4UUE;4U;4UU;4O;4OA BELOW
1A6D 0TAI THAM VOWEL SIGN OY;4E;4AE;4OO;4AI;4THAM AI;4OA ABOVE;2SIGN MAI KANG;3TONE-1;3TONE-2
1A77 0TAI THAM SIGN KHUEN TONE-3;4TONE-4;4TONE-5;3RA HAAM;3MAI SAM;3KHUEN-LUE KARAN
1A7F 0TAI THAM COMBINING CRYPTOGRAMMIC DOT;2HORA DIGIT ZERO;4ONE;4TWO;4THREE;4FOUR;4FIVE;4SIX
1A87 0TAI THAM HORA DIGIT SEVEN;4EIGHT;4NINE
1A90 0TAI THAM THAM DIGIT ZERO;4ONE;4TWO;4THREE;4FOUR;4FIVE;4SIX;4SEVEN;4EIGHT;4NINE
1AA0 0TAI THAM SIGN WIANG;3WIANGWAAK;3SAWAN;3KEOW;3HOY;3DOKMAI;3REVERSED ROTATED RANA;3MAI YAMOK
1AA8 0TAI THAM SIGN KAAN;3KAANKUU;3SATKAAN;3SATKAANKUU;3HANG;3CAANG
1AB0 0COMBINING DOUBLED CIRCUMFLEX ACCENT;1DIAERESIS-RING;1INFINITY;1DOWNWARDS ARROW;1TRIPLE DOT
1AB5 0COMBINING X-X BELOW;1WIGGLY LINE BELOW;1OPEN MARK BELOW;1DOUBLE OPEN MARK BELOW
1AB9 0COMBINING LIGHT CENTRALIZATION STROKE BELOW;1STRONG CENTRALIZATION STROKE BELOW
1ABB 0COMBINING PARENTHESES ABOVE;1DOUBLE PARENTHESES ABOVE;1PARENTHESES BELOW;2OVERLAY
1ABF 0COMBINING LATIN SMALL LETTER W BELOW;4TURNED W BELOW;1LEFT PARENTHESIS ABOVE LEFT
1AC2 0COMBINING RIGHT PARENTHESIS ABOVE RIGHT;1LEFT PARENTHESIS BELOW LEFT
1AC4 0COMBINING RIGHT PARENTHESIS BELOW RIGHT;1SQUARE BRACKETS ABOVE;1NUMBER SIGN ABOVE
1AC7 0COMBINING INVERTED DOUBLE ARCH ABOVE;1PLUS SIGN ABOVE;1DOUBLE PLUS SIGN ABOVE;4BELOW
1ACB 0COMBINING TRIPLE ACUTE ACCENT;1LATIN SMALL LETTER INSULAR G;5R;5T
1B00 0BALINESE SIGN ULU RICEM;3CANDRA;2CECEK;2SURANG;2BISAH;1LETTER AKARA;3TEDUNG;2IKARA;3TEDUNG
1B09 0BALINESE LETTER UKARA;3TEDUNG;2RA REPA;4TEDUNG;2LA LENGA;4TEDUNG;2EKARA;2AIKARA;2OKARA
1B12 0BALINESE LETTER OKARA TEDUNG;2KA;3MAHAPRANA;2GA;3GORA;2NGA;2CA;3LACA;2JA;3JERA;2NYA;2TA LATIK
1B1E 0BALINESE LETTER TA MURDA MAHAPRANA;2DA MURDA ALPAPRANA;4MAHAPRANA;2NA RAMBAT;2TA;3TAWA;2DA
1B25 0BALINESE LETTER DA MADU;2NA;2PA;3KAPAL;2BA;3KEMBANG;2MA;2YA;2RA;2LA;2WA;2SA SAGA;3SAPA;2SA
1B33 0BALINESE LETTER HA;1SIGN REREKAN;1VOWEL SIGN TEDUNG;3ULU;4SARI;3SUKU;4ILUT;3RA REPA;5TEDUNG
1B3C 0BALINESE VOWEL SIGN LA LENGA;5TEDUNG;3TALING;4REPA;4TEDUNG;4REPA TEDUNG;3PEPET;4TEDUNG
1B44 0BALINESE ADEG ADEG;1LETTER KAF SASAK;2KHOT SASAK;2TZIR SASAK;2EF SASAK;2VE SASAK;2ZAL SASAK
1B4B 0BALINESE LETTER ASYURA SASAK;2ARCHAIC JNYA
1B50 0BALINESE DIGIT ZERO;2ONE;2TWO;2THREE;2FOUR;2FIVE;2SIX;2SEVEN;2EIGHT;2NINE;1PANTI;1PAMADA
1B5C 0BALINESE WINDU;1CARIK PAMUNGKAH;2SIKI;2PAREREN;1PAMENENG;1MUSICAL SYMBOL DONG;3DENG;3DUNG
1B64 0BALINESE MUSICAL SYMBOL DANG;4SURANG;3DING;3DAENG;3DEUNG;3DAING;3DANG GEDE;3COMBINING TEGEH
1B6C 0BALINESE MUSICAL SYMBOL COMBINING ENDEP;4KEMPUL;4KEMPLI;4JEGOGAN;4KEMPUL WITH JEGOGAN
1B71 0BALINESE MUSICAL SYMBOL COMBINING KEMPLI WITH JEGOGAN;4BENDE;4GONG;3RIGHT-HAND OPEN DUG;5DAG
1B76 0BALINESE MUSICAL SYMBOL RIGHT-HAND CLOSED TUK;5TAK;3LEFT-HAND OPEN PANG;5PUNG;4CLOSED PLAK
1B7B 0BALINESE MUSICAL SYMBOL LEFT-HAND CLOSED PLUK;4OPEN PING;1PANTI LANTANG;1PAMADA LANTANG
1B80 0SUNDANESE SIGN PANYECEK;2PANGLAYAR;2PANGWISAD;1LETTER A;2I;2U;2AE;2O;2E;2EU;2KA;2QA;2GA;2NGA
1B8E 0SUNDANESE LETTER CA;2JA;2ZA;2NYA;2TA;2DA;2NA;2PA;2FA;2VA;2BA;2MA;2YA;2RA;2LA;2WA;2SA;2XA;2HA
1BA1 0SUNDANESE CONSONANT SIGN PAMINGKAL;3PANYAKRA;3PANYIKU;1VOWEL SIGN PANGHULU;3PANYUKU
1BA6 0SUNDANESE VOWEL SIGN PANAELAENG;3PANOLONG;3PAMEPET;3PANEULEUNG;1SIGN PAMAAEH;2VIRAMA
1BAC 0SUNDANESE CONSONANT SIGN PASANGAN MA;4WA;1LETTER KHA;2SYA;1DIGIT ZERO;2ONE;2TWO;2THREE;2FOUR
1BB5 0SUNDANESE DIGIT FIVE;2SIX;2SEVEN;2EIGHT;2NINE;1AVAGRAHA;1LETTER REU;2LEU;2BHA;2FINAL K;3M
1BC0 0BATAK LETTER A;2SIMALUNGUN A;2HA;2SIMALUNGUN HA;2MANDAILING HA;2BA;2KARO BA;2PA
1BC8 0BATAK LETTER SIMALUNGUN PA;2NA;2MANDAILING NA;2WA;2SIMALUNGUN WA;2PAKPAK WA;2GA
1BCF 0BATAK LETTER SIMALUNGUN GA;2JA;2DA;2RA;2SIMALUNGUN RA;2MA;2SIMALUNGUN MA;2SOUTHERN TA
1BD7 0BATAK LETTER NORTHERN TA;2SA;2SIMALUNGUN SA;2MANDAILING SA;2YA;2SIMALUNGUN YA;2NGA;2LA
1BDF 0BATAK LETTER SIMALUNGUN LA;2NYA;2CA;2NDA;2MBA;2I;2U;1SIGN TOMPI;1VOWEL SIGN E;3PAKPAK E;3EE
1BEA 0BATAK VOWEL SIGN I;3KARO I;3O;3KARO O;3U;4FOR SIMALUNGUN SA;1CONSONANT SIGN NG;3H;1PANGOLAT
1BF3 0BATAK PANONGONAN
1BFC 0BATAK SYMBOL BINDU NA METEK;3PINARBORAS;3JUDUL;3PANGOLAT;0LEPCHA LETTER KA;2KLA;2KHA;2GA;2GLA
1C05 0LEPCHA LETTER NGA;2CA;2CHA;2JA;2NYA;2TA;2THA;2DA;2NA;2PA;2PLA;2PHA;2FA;2FLA;2BA;2BLA;2MA;2MLA
1C17 0LEPCHA LETTER TSA;2TSHA;2DZA;2YA;2RA;2LA;2HA;2HLA;2VA;2SA;2SHA;2WA;2A;1SUBJOINED LETTER YA
1C25 0LEPCHA SUBJOINED LETTER RA;1VOWEL SIGN AA;3I;3O;3OO;3U;3UU;3E;1CONSONANT SIGN K;3M;3L;3N;3P
1C32 0LEPCHA CONSONANT SIGN R;3T;3NYIN-DO;3KANG;1SIGN RAN;2NUKTA
1C3B 0LEPCHA PUNCTUATION TA-ROL;2NYET THYOOM TA-ROL;2CER-WA;2TSHOOK CER-WA;2TSHOOK;1DIGIT ZERO;2ONE
1C42 0LEPCHA DIGIT TWO;2THREE;2FOUR;2FIVE;2SIX;2SEVEN;2EIGHT;2NINE
1C4D 0LEPCHA LETTER TTA;2TTHA;2DDA;0OL CHIKI DIGIT ZERO;3ONE;3TWO;3THREE;3FOUR;3FIVE;3SIX;3SEVEN
1C58 0OL CHIKI DIGIT EIGHT;3NINE;2LETTER LA;3AT;3AG;3ANG;3AL;3LAA;3AAK;3AAJ;3AAM;3AAW;3LI;3IS;3IH
1C67 0OL CHIKI LETTER INY;3IR;3LU;3UC;3UD;3UNN;3UY;3LE;3EP;3EDD;3EN;3ERR;3LO;3OTT;3OB;3OV;3OH
1C78 0OL CHIKI MU TTUDDAG;2GAAHLAA TTUDDAAG;2MU-GAAHLAA TTUDDAAG;2RELAA;2PHAARKAA;2AHAD
1C7E 0OL CHIKI PUNCTUATION MUCAAD;3DOUBLE MUCAAD;0CYRILLIC SMALL LETTER ROUNDED VE;3LONG-LEGGED DE
1C82 0CYRILLIC SMALL LETTER NARROW O;3WIDE ES;3TALL TE;3THREE-LEGGED TE;3TALL HARD SIGN;4YAT
1C88 0CYRILLIC SMALL LETTER UNBLENDED UK
1C90 0GEORGIAN MTAVRULI CAPITAL LETTER AN;4BAN;4GAN;4DON;4EN;4VIN;4ZEN;4TAN;4IN;4KAN;4LAS;4MAN;4NAR
1C9D 0GEORGIAN MTAVRULI CAPITAL LETTER ON;4PAR;4ZHAR;4RAE;4SAN;4TAR;4UN;4PHAR;4KHAR;4GHAN;4QAR
1CA8 0GEORGIAN MTAVRULI CAPITAL LETTER SHIN;4CHIN;4CAN;4JIL;4CIL;4CHAR;4XAN;4JHAN;4HAE;4HE;4HIE;4WE
1CB4 0GEORGIAN MTAVRULI CAPITAL LETTER HAR;4HOE;4FI;4YN;4ELIFI;4TURNED GAN;4AIN
1CBD 0GEORGIAN MTAVRULI CAPITAL LETTER AEN;4HARD SIGN;4LABIAL SIGN
1CC0 0SUNDANESE PUNCTUATION BINDU SURYA;3PANGLONG;3PURNAMA;3CAKRA;3LEU SATANGA;3KA SATANGA
1CC6 0SUNDANESE PUNCTUATION BINDU DA SATANGA;3BA SATANGA
1CD0 0VEDIC TONE KARSHANA;2SHARA;2PRENKHA;1SIGN NIHSHVASA;2YAJURVEDIC MIDLINE SVARITA
1CD5 0VEDIC TONE YAJURVEDIC AGGRAVATED INDEPENDENT SVARITA;3INDEPENDENT SVARITA
1CD7 0VEDIC TONE YAJURVEDIC KATHAKA INDEPENDENT SVARITA;2CANDRA BELOW
1CD9 0VEDIC TONE YAJURVEDIC KATHAKA INDEPENDENT SVARITA SCHROEDER;2DOUBLE SVARITA;2TRIPLE SVARITA
1CDC 0VEDIC TONE KATHAKA ANUDATTA;2DOT BELOW;2TWO DOTS BELOW;2THREE DOTS BELOW
1CE0 0VEDIC TONE RIGVEDIC KASHMIRI INDEPENDENT SVARITA;2ATHARVAVEDIC INDEPENDENT SVARITA
1CE2 0VEDIC SIGN VISARGA SVARITA;3UDATTA;2REVERSED VISARGA UDATTA;2VISARGA ANUDATTA
1CE6 0VEDIC SIGN REVERSED VISARGA ANUDATTA;2VISARGA UDATTA WITH TAIL;3ANUDATTA WITH TAIL
1CE9 0VEDIC SIGN ANUSVARA ANTARGOMUKHA;3BAHIRGOMUKHA;3VAMAGOMUKHA;4WITH TAIL;2TIRYAK
1CEE 0VEDIC SIGN HEXIFORM LONG ANUSVARA;2LONG ANUSVARA;2RTHANG LONG ANUSVARA
1CF1 0VEDIC SIGN ANUSVARA UBHAYATO MUKHA;2ARDHAVISARGA;2ROTATED ARDHAVISARGA;1TONE CANDRA ABOVE
1CF5 0VEDIC SIGN JIHVAMULIYA;2UPADHMANIYA;2ATIKRAMA;1TONE RING ABOVE;2DOUBLE RING ABOVE
1CFA 0VEDIC SIGN DOUBLE ANUSVARA ANTARGOMUKHA
1D00 0LATIN LETTER SMALL CAPITAL A;4AE;1SMALL LETTER TURNED AE;1LETTER SMALL CAPITAL BARRED B;4C;4D
1D06 0LATIN LETTER SMALL CAPITAL ETH;4E;1SMALL LETTER TURNED OPEN E;4I;1LETTER SMALL CAPITAL J;4K
1D0C 0LATIN LETTER SMALL CAPITAL L WITH STROKE;4M;4REVERSED N;4O;4OPEN O;1SMALL LETTER SIDEWAYS O
1D12 0LATIN SMALL LETTER SIDEWAYS OPEN O;4O WITH STROKE;3TURNED OE;1LETTER SMALL CAPITAL OU
1D16 0LATIN SMALL LETTER TOP HALF O;3BOTTOM HALF O;1LETTER SMALL CAPITAL P;4REVERSED R;4TURNED R;4T
1D1C 0LATIN LETTER SMALL CAPITAL U;1SMALL LETTER SIDEWAYS U;4DIAERESIZED U;4TURNED M
1D20 0LATIN LETTER SMALL CAPITAL V;4W;4Z;4EZH;2VOICED LARYNGEAL SPIRANT;2AIN
1D26 0GREEK LETTER SMALL CAPITAL GAMMA;4LAMDA;4PI;4RHO;4PSI;0CYRILLIC LETTER SMALL CAPITAL EL
1D2C 0MODIFIER LETTER CAPITAL A;3AE;3B;3BARRED B;3D;3E;3REVERSED E;3G;3H;3I;3J;3K;3L;3M;3N
1D3B 0MODIFIER LETTER CAPITAL REVERSED N;3O;3OU;3P;3R;3T;3U;3W;2SMALL A;3TURNED A;3ALPHA;3TURNED AE
1D47 0MODIFIER LETTER SMALL B;3D;3E;3SCHWA;3OPEN E;3TURNED OPEN E;3G;3TURNED I;3K;3M;3ENG;3O
1D53 0MODIFIER LETTER SMALL OPEN O;3TOP HALF O;3BOTTOM HALF O;3P;3T;3U;3SIDEWAYS U;3TURNED M;3V
1D5C 0MODIFIER LETTER SMALL AIN;3BETA;3GREEK GAMMA;3DELTA;3GREEK PHI;3CHI
1D62 0LATIN SUBSCRIPT SMALL LETTER I;4R;4U;4V;0GREEK SUBSCRIPT SMALL LETTER BETA;4GAMMA;4RHO;4PHI
1D6A 0GREEK SUBSCRIPT SMALL LETTER CHI;0LATIN SMALL LETTER UE;3B WITH MIDDLE TILDE
1D6D 0LATIN SMALL LETTER D WITH MIDDLE TILDE;3F WITH MIDDLE TILDE;3M WITH MIDDLE TILDE
1D70 0LATIN SMALL LETTER N WITH MIDDLE TILDE;3P WITH MIDDLE TILDE;3R WITH MIDDLE TILDE
1D73 0LATIN SMALL LETTER R WITH FISHHOOK AND MIDDLE TILDE;3S WITH MIDDLE TILDE;3T WITH MIDDLE TILDE
1D76 0LATIN SMALL LETTER Z WITH MIDDLE TILDE;3TURNED G;0MODIFIER LETTER CYRILLIC EN
1D79 0LATIN SMALL LETTER INSULAR G;3TH WITH STRIKETHROUGH;2CAPITAL LETTER I WITH STROKE
1D7C 0LATIN SMALL LETTER IOTA WITH STROKE;3P WITH STROKE;2CAPITAL LETTER U WITH STROKE
1D7F 0LATIN SMALL LETTER UPSILON WITH STROKE;3B WITH PALATAL HOOK;3D WITH PALATAL HOOK
1D82 0LATIN SMALL LETTER F WITH PALATAL HOOK;3G WITH PALATAL HOOK;3K WITH PALATAL HOOK
1D85 0LATIN SMALL LETTER L WITH PALATAL HOOK;3M WITH PALATAL HOOK;3N WITH PALATAL HOOK
1D88 0LATIN SMALL LETTER P WITH PALATAL HOOK;3R WITH PALATAL HOOK;3S WITH PALATAL HOOK
1D8B 0LATIN SMALL LETTER ESH WITH PALATAL HOOK;3V WITH PALATAL HOOK;3X WITH PALATAL HOOK
1D8E 0LATIN SMALL LETTER Z WITH PALATAL HOOK;3A WITH RETROFLEX HOOK;3ALPHA WITH RETROFLEX HOOK
1D91 0LATIN SMALL LETTER D WITH HOOK AND TAIL;3E WITH RETROFLEX HOOK;3OPEN E WITH RETROFLEX HOOK
1D94 0LATIN SMALL LETTER REVERSED OPEN E WITH RETROFLEX HOOK;3SCHWA WITH RETROFLEX HOOK
1D96 0LATIN SMALL LETTER I WITH RETROFLEX HOOK;3OPEN O WITH RETROFLEX HOOK;3ESH WITH RETROFLEX HOOK
1D99 0LATIN SMALL LETTER U WITH RETROFLEX HOOK;3EZH WITH RETROFLEX HOOK
1D9B 0MODIFIER LETTER SMALL TURNED ALPHA;3C;4WITH CURL;3ETH;3REVERSED OPEN E;3F
1DA1 0MODIFIER LETTER SMALL DOTLESS J WITH STROKE;3SCRIPT G;3TURNED H;3I WITH STROKE;3IOTA
1DA6 0MODIFIER LETTER SMALL CAPITAL I;5WITH STROKE;3J WITH CROSSED-TAIL;3L WITH RETROFLEX HOOK
1DAA 0MODIFIER LETTER SMALL L WITH PALATAL HOOK;3CAPITAL L;3M WITH HOOK;3TURNED M WITH LONG LEG
1DAE 0MODIFIER LETTER SMALL N WITH LEFT HOOK;5RETROFLEX HOOK;3CAPITAL N;3BARRED O;3PHI;3S WITH HOOK
1DB4 0MODIFIER LETTER SMALL ESH;3T WITH PALATAL HOOK;3U BAR;3UPSILON;3CAPITAL U;3V WITH HOOK
1DBA 0MODIFIER LETTER SMALL TURNED V;3Z;4WITH RETROFLEX HOOK;5CURL;3EZH;3THETA
1DC0 0COMBINING DOTTED GRAVE ACCENT;2ACUTE ACCENT;1SNAKE BELOW;1SUSPENSION MARK;1MACRON-ACUTE
1DC5 0COMBINING GRAVE-MACRON;1MACRON-GRAVE;1ACUTE-MACRON;1GRAVE-ACUTE-GRAVE;1ACUTE-GRAVE-ACUTE
1DCA 0COMBINING LATIN SMALL LETTER R BELOW;1BREVE-MACRON;1MACRON-BREVE;1DOUBLE CIRCUMFLEX ABOVE
1DCE 0COMBINING OGONEK ABOVE;1ZIGZAG BELOW;1IS BELOW;1UR ABOVE;1US ABOVE
1DD3 0COMBINING LATIN SMALL LETTER FLATTENED OPEN A ABOVE;4AE;4AO;4AV;4C CEDILLA;4INSULAR D;4ETH;4G
1DDB 0COMBINING LATIN LETTER SMALL CAPITAL G;2SMALL LETTER K;4L;2LETTER SMALL CAPITAL L;5M
1DE0 0COMBINING LATIN SMALL LETTER N;2LETTER SMALL CAPITAL N;5R;2SMALL LETTER R ROTUNDA;4S;4LONG S
1DE6 0COMBINING LATIN SMALL LETTER Z;4ALPHA;4B;4BETA;4SCHWA;4F;4L WITH DOUBLE MIDDLE TILDE
1DED 0COMBINING LATIN SMALL LETTER O WITH LIGHT CENTRALIZATION STROKE;4P;4ESH
1DF0 0COMBINING LATIN SMALL LETTER U WITH LIGHT CENTRALIZATION STROKE;4W;4A WITH DIAERESIS
1DF3 0COMBINING LATIN SMALL LETTER O WITH DIAERESIS;4U WITH DIAERESIS;1UP TACK ABOVE
1DF6 0COMBINING KAVYKA ABOVE RIGHT;3LEFT;1DOT ABOVE LEFT;1WIDE INVERTED BRIDGE BELOW
1DFA 0COMBINING DOT BELOW LEFT;1DELETION MARK;1DOUBLE INVERTED BREVE BELOW;1ALMOST EQUAL TO BELOW
1DFE 0COMBINING LEFT ARROWHEAD ABOVE;1RIGHT ARROWHEAD AND DOWN ARROWHEAD BELOW
1E00 0LATIN CAPITAL LETTER A WITH RING BELOW;1SMALL LETTER A WITH RING BELOW
1E02 0LATIN CAPITAL LETTER B WITH DOT ABOVE;1SMALL LETTER B WITH DOT ABOVE
1E04 0LATIN CAPITAL LETTER B WITH DOT BELOW;1SMALL LETTER B WITH DOT BELOW
1E06 0LATIN CAPITAL LETTER B WITH LINE BELOW;1SMALL LETTER B WITH LINE BELOW
1E08 0LATIN CAPITAL LETTER C WITH CEDILLA AND ACUTE;1SMALL LETTER C WITH CEDILLA AND ACUTE
1E0A 0LATIN CAPITAL LETTER D WITH DOT ABOVE;1SMALL LETTER D WITH DOT ABOVE
1E0C 0LATIN CAPITAL LETTER D WITH DOT BELOW;1SMALL LETTER D WITH DOT BELOW
1E0E 0LATIN CAPITAL LETTER D WITH LINE BELOW;1SMALL LETTER D WITH LINE BELOW
1E10 0LATIN CAPITAL LETTER D WITH CEDILLA;1SMALL LETTER D WITH CEDILLA
1E12 0LATIN CAPITAL LETTER D WITH CIRCUMFLEX BELOW;1SMALL LETTER D WITH CIRCUMFLEX BELOW
1E14 0LATIN CAPITAL LETTER E WITH MACRON AND GRAVE;1SMALL LETTER E WITH MACRON AND GRAVE
1E16 0LATIN CAPITAL LETTER E WITH MACRON AND ACUTE;1SMALL LETTER E WITH MACRON AND ACUTE
1E18 0LATIN CAPITAL LETTER E WITH CIRCUMFLEX BELOW;1SMALL LETTER E WITH CIRCUMFLEX BELOW
1E1A 0LATIN CAPITAL LETTER E WITH TILDE BELOW;1SMALL LETTER E WITH TILDE BELOW
1E1C 0LATIN CAPITAL LETTER E WITH CEDILLA AND BREVE;1SMALL LETTER E WITH CEDILLA AND BREVE
1E1E 0LATIN CAPITAL LETTER F WITH DOT ABOVE;1SMALL LETTER F WITH DOT ABOVE
1E20 0LATIN CAPITAL LETTER G WITH MACRON;1SMALL LETTER G WITH MACRON
1E22 0LATIN CAPITAL LETTER H WITH DOT ABOVE;1SMALL LETTER H WITH DOT ABOVE
1E24 0LATIN CAPITAL LETTER H WITH DOT BELOW;1SMALL LETTER H WITH DOT BELOW
1E26 0LATIN CAPITAL LETTER H WITH DIAERESIS;1SMALL LETTER H WITH DIAERESIS
1E28 0LATIN CAPITAL LETTER H WITH CEDILLA;1SMALL LETTER H WITH CEDILLA
1E2A 0LATIN CAPITAL LETTER H WITH BREVE BELOW;1SMALL LETTER H WITH BREVE BELOW
1E2C 0LATIN CAPITAL LETTER I WITH TILDE BELOW;1SMALL LETTER I WITH TILDE BELOW
1E2E 0LATIN CAPITAL LETTER I WITH DIAERESIS AND ACUTE;1SMALL LETTER I WITH DIAERESIS AND ACUTE
1E30 0LATIN CAPITAL LETTER K WITH ACUTE;1SMALL LETTER K WITH ACUTE;1CAPITAL LETTER K WITH DOT BELOW
1E33 0LATIN SMALL LETTER K WITH DOT BELOW;1CAPITAL LETTER K WITH LINE BELOW
1E35 0LATIN SMALL LETTER K WITH LINE BELOW;1CAPITAL LETTER L WITH DOT BELOW
1E37 0LATIN SMALL LETTER L WITH DOT BELOW;1CAPITAL LETTER L WITH DOT BELOW AND MACRON
1E39 0LATIN SMALL LETTER L WITH DOT BELOW AND MACRON;1CAPITAL LETTER L WITH LINE BELOW
1E3B 0LATIN SMALL LETTER L WITH LINE BELOW;1CAPITAL LETTER L WITH CIRCUMFLEX BELOW
1E3D 0LATIN SMALL LETTER L WITH CIRCUMFLEX BELOW;1CAPITAL LETTER M WITH ACUTE
1E3F 0LATIN SMALL LETTER M WITH ACUTE;1CAPITAL LETTER M WITH DOT ABOVE
1E41 0LATIN SMALL LETTER M WITH DOT ABOVE;1CAPITAL LETTER M WITH DOT BELOW
1E43 0LATIN SMALL LETTER M WITH DOT BELOW;1CAPITAL LETTER N WITH DOT ABOVE
1E45 0LATIN SMALL LETTER N WITH DOT ABOVE;1CAPITAL LETTER N WITH DOT BELOW
1E47 0LATIN SMALL LETTER N WITH DOT BELOW;1CAPITAL LETTER N WITH LINE BELOW
1E49 0LATIN SMALL LETTER N WITH LINE BELOW;1CAPITAL LETTER N WITH CIRCUMFLEX BELOW
1E4B 0LATIN SMALL LETTER N WITH CIRCUMFLEX BELOW;1CAPITAL LETTER O WITH TILDE AND ACUTE
1E4D 0LATIN SMALL LETTER O WITH TILDE AND ACUTE;1CAPITAL LETTER O WITH TILDE AND DIAERESIS
1E4F 0LATIN SMALL LETTER O WITH TILDE AND DIAERESIS;1CAPITAL LETTER O WITH MACRON AND GRAVE
1E51 0LATIN SMALL LETTER O WITH MACRON AND GRAVE;1CAPITAL LETTER O WITH MACRON AND ACUTE
1E53 0LATIN SMALL LETTER O WITH MACRON AND ACUTE;1CAPITAL LETTER P WITH ACUTE
1E55 0LATIN SMALL LETTER P WITH ACUTE;1CAPITAL LETTER P WITH DOT ABOVE
1E57 0LATIN SMALL LETTER P WITH DOT ABOVE;1CAPITAL LETTER R WITH DOT ABOVE
1E59 0LATIN SMALL LETTER R WITH DOT ABOVE;1CAPITAL LETTER R WITH DOT BELOW
1E5B 0LATIN SMALL LETTER R WITH DOT BELOW;1CAPITAL LETTER R WITH DOT BELOW AND MACRON
1E5D 0LATIN SMALL LETTER R WITH DOT BELOW AND MACRON;1CAPITAL LETTER R WITH LINE BELOW
1E5F 0LATIN SMALL LETTER R WITH LINE BELOW;1CAPITAL LETTER S WITH DOT ABOVE
1E61 0LATIN SMALL LETTER S WITH DOT ABOVE;1CAPITAL LETTER S WITH DOT BELOW
1E63 0LATIN SMALL LETTER S WITH DOT BELOW;1CAPITAL LETTER S WITH ACUTE AND DOT ABOVE
1E65 0LATIN SMALL LETTER S WITH ACUTE AND DOT ABOVE;1CAPITAL LETTER S WITH CARON AND DOT ABOVE
1E67 0LATIN SMALL LETTER S WITH CARON AND DOT ABOVE;1CAPITAL LETTER S WITH DOT BELOW AND DOT ABOVE
1E69 0LATIN SMALL LETTER S WITH DOT BELOW AND DOT ABOVE;1CAPITAL LETTER T WITH DOT ABOVE
1E6B 0LATIN SMALL LETTER T WITH DOT ABOVE;1CAPITAL LETTER T WITH DOT BELOW
1E6D 0LATIN SMALL LETTER T WITH DOT BELOW;1CAPITAL LETTER T WITH LINE BELOW
1E6F 0LATIN SMALL LETTER T WITH LINE BELOW;1CAPITAL LETTER T WITH CIRCUMFLEX BELOW
1E71 0LATIN SMALL LETTER T WITH CIRCUMFLEX BELOW;1CAPITAL LETTER U WITH DIAERESIS BELOW
1E73 0LATIN SMALL LETTER U WITH DIAERESIS BELOW;1CAPITAL LETTER U WITH TILDE BELOW
1E75 0LATIN SMALL LETTER U WITH TILDE BELOW;1CAPITAL LETTER U WITH CIRCUMFLEX BELOW
1E77 0LATIN SMALL LETTER U WITH CIRCUMFLEX BELOW;1CAPITAL LETTER U WITH TILDE AND ACUTE
1E79 0LATIN SMALL LETTER U WITH TILDE AND ACUTE;1CAPITAL LETTER U WITH MACRON AND DIAERESIS
1E7B 0LATIN SMALL LETTER U WITH MACRON AND DIAERESIS;1CAPITAL LETTER V WITH TILDE
1E7D 0LATIN SMALL LETTER V WITH TILDE;1CAPITAL LETTER V WITH DOT BELOW
1E7F 0LATIN SMALL LETTER V WITH DOT BELOW;1CAPITAL LETTER W WITH GRAVE;1SMALL LETTER W WITH GRAVE
1E82 0LATIN CAPITAL LETTER W WITH ACUTE;1SMALL LETTER W WITH ACUTE;1CAPITAL LETTER W WITH DIAERESIS
1E85 0LATIN SMALL LETTER W WITH DIAERESIS;1CAPITAL LETTER W WITH DOT ABOVE
1E87 0LATIN SMALL LETTER W WITH DOT ABOVE;1CAPITAL LETTER W WITH DOT BELOW
1E89 0LATIN SMALL LETTER W WITH DOT BELOW;1CAPITAL LETTER X WITH DOT ABOVE
1E8B 0LATIN SMALL LETTER X WITH DOT ABOVE;1CAPITAL LETTER X WITH DIAERESIS
1E8D 0LATIN SMALL LETTER X WITH DIAERESIS;1CAPITAL LETTER Y WITH DOT ABOVE
1E8F 0LATIN SMALL LETTER Y WITH DOT ABOVE;1CAPITAL LETTER Z WITH CIRCUMFLEX
1E91 0LATIN SMALL LETTER Z WITH CIRCUMFLEX;1CAPITAL LETTER Z WITH DOT BELOW
1E93 0LATIN SMALL LETTER Z WITH DOT BELOW;1CAPITAL LETTER Z WITH LINE BELOW
1E95 0LATIN SMALL LETTER Z WITH LINE BELOW;3H WITH LINE BELOW;3T WITH DIAERESIS;3W WITH RING ABOVE
1E99 0LATIN SMALL LETTER Y WITH RING ABOVE;3A WITH RIGHT HALF RING;3LONG S WITH DOT ABOVE
1E9C 0LATIN SMALL LETTER LONG S WITH DIAGONAL STROKE;6HIGH STROKE;1CAPITAL LETTER SHARP S
1E9F 0LATIN SMALL LETTER DELTA;1CAPITAL LETTER A WITH DOT BELOW;1SMALL LETTER A WITH DOT BELOW
1EA2 0LATIN CAPITAL LETTER A WITH HOOK ABOVE;1SMALL LETTER A WITH HOOK ABOVE
1EA4 0LATIN CAPITAL LETTER A WITH CIRCUMFLEX AND ACUTE;1SMALL LETTER A WITH CIRCUMFLEX AND ACUTE
1EA6 0LATIN CAPITAL LETTER A WITH CIRCUMFLEX AND GRAVE;1SMALL LETTER A WITH CIRCUMFLEX AND GRAVE
1EA8 0LATIN CAPITAL LETTER A WITH CIRCUMFLEX AND HOOK ABOVE
1EA9 0LATIN SMALL LETTER A WITH CIRCUMFLEX AND HOOK ABOVE
1EAA 0LATIN CAPITAL LETTER A WITH CIRCUMFLEX AND TILDE;1SMALL LETTER A WITH CIRCUMFLEX AND TILDE
1EAC 0LATIN CAPITAL LETTER A WITH CIRCUMFLEX AND DOT BELOW
1EAD 0LATIN SMALL LETTER A WITH CIRCUMFLEX AND DOT BELOW;1CAPITAL LETTER A WITH BREVE AND ACUTE
1EAF 0LATIN SMALL LETTER A WITH BREVE AND ACUTE;1CAPITAL LETTER A WITH BREVE AND GRAVE
1EB1 0LATIN SMALL LETTER A WITH BREVE AND GRAVE;1CAPITAL LETTER A WITH BREVE AND HOOK ABOVE
1EB3 0LATIN SMALL LETTER A WITH BREVE AND HOOK ABOVE;1CAPITAL LETTER A WITH BREVE AND TILDE
1EB5 0LATIN SMALL LETTER A WITH BREVE AND TILDE;1CAPITAL LETTER A WITH BREVE AND DOT BELOW
1EB7 0LATIN SMALL LETTER A WITH BREVE AND DOT BELOW;1CAPITAL LETTER E WITH DOT BELOW
1EB9 0LATIN SMALL LETTER E WITH DOT BELOW;1CAPITAL LETTER E WITH HOOK ABOVE
1EBB 0LATIN SMALL LETTER E WITH HOOK ABOVE;1CAPITAL LETTER E WITH TILDE;1SMALL LETTER E WITH TILDE
1EBE 0LATIN CAPITAL LETTER E WITH CIRCUMFLEX AND ACUTE;1SMALL LETTER E WITH CIRCUMFLEX AND ACUTE
1EC0 0LATIN CAPITAL LETTER E WITH CIRCUMFLEX AND GRAVE;1SMALL LETTER E WITH CIRCUMFLEX AND GRAVE
1EC2 0LATIN CAPITAL LETTER E WITH CIRCUMFLEX AND HOOK ABOVE
1EC3 0LATIN SMALL LETTER E WITH CIRCUMFLEX AND HOOK ABOVE
1EC4 0LATIN CAPITAL LETTER E WITH CIRCUMFLEX AND TILDE;1SMALL LETTER E WITH CIRCUMFLEX AND TILDE
1EC6 0LATIN CAPITAL LETTER E WITH CIRCUMFLEX AND DOT BELOW
1EC7 0LATIN SMALL LETTER E WITH CIRCUMFLEX AND DOT BELOW;1CAPITAL LETTER I WITH HOOK ABOVE
1EC9 0LATIN SMALL LETTER I WITH HOOK ABOVE;1CAPITAL LETTER I WITH DOT BELOW
1ECB 0LATIN SMALL LETTER I WITH DOT BELOW;1CAPITAL LETTER O WITH DOT BELOW
1ECD 0LATIN SMALL LETTER O WITH DOT BELOW;1CAPITAL LETTER O WITH HOOK ABOVE
1ECF 0LATIN SMALL LETTER O WITH HOOK ABOVE;1CAPITAL LETTER O WITH CIRCUMFLEX AND ACUTE
1ED1 0LATIN SMALL LETTER O WITH CIRCUMFLEX AND ACUTE;1CAPITAL LETTER O WITH CIRCUMFLEX AND GRAVE
1ED3 0LATIN SMALL LETTER O WITH CIRCUMFLEX AND GRAVE
1ED4 0LATIN CAPITAL LETTER O WITH CIRCUMFLEX AND HOOK ABOVE
1ED5 0LATIN SMALL LETTER O WITH CIRCUMFLEX AND HOOK ABOVE
1ED6 0LATIN CAPITAL LETTER O WITH CIRCUMFLEX AND TILDE;1SMALL LETTER O WITH CIRCUMFLEX AND TILDE
1ED8 0LATIN CAPITAL LETTER O WITH CIRCUMFLEX AND DOT BELOW
1ED9 0LATIN SMALL LETTER O WITH CIRCUMFLEX AND DOT BELOW;1CAPITAL LETTER O WITH HORN AND ACUTE
1EDB 0LATIN SMALL LETTER O WITH HORN AND ACUTE;1CAPITAL LETTER O WITH HORN AND GRAVE
1EDD 0LATIN SMALL LETTER O WITH HORN AND GRAVE;1CAPITAL LETTER O WITH HORN AND HOOK ABOVE
1EDF 0LATIN SMALL LETTER O WITH HORN AND HOOK ABOVE;1CAPITAL LETTER O WITH HORN AND TILDE
1EE1 0LATIN SMALL LETTER O WITH HORN AND TILDE;1CAPITAL LETTER O WITH HORN AND DOT BELOW
1EE3 0LATIN SMALL LETTER O WITH HORN AND DOT BELOW;1CAPITAL LETTER U WITH DOT BELOW
1EE5 0LATIN SMALL LETTER U WITH DOT BELOW;1CAPITAL LETTER U WITH HOOK ABOVE
1EE7 0LATIN SMALL LETTER U WITH HOOK ABOVE;1CAPITAL LETTER U WITH HORN AND ACUTE
1EE9 0LATIN SMALL LETTER U WITH HORN AND ACUTE;1CAPITAL LETTER U WITH HORN AND GRAVE
1EEB 0LATIN SMALL LETTER U WITH HORN AND GRAVE;1CAPITAL LETTER U WITH HORN AND HOOK ABOVE
1EED 0LATIN SMALL LETTER U WITH HORN AND HOOK ABOVE;1CAPITAL LETTER U WITH HORN AND TILDE
1EEF 0LATIN SMALL LETTER U WITH HORN AND TILDE;1CAPITAL LETTER U WITH HORN AND DOT BELOW
1EF1 0LATIN SMALL LETTER U WITH HORN AND DOT BELOW;1CAPITAL LETTER Y WITH GRAVE
1EF3 0LATIN SMALL LETTER Y WITH GRAVE;1CAPITAL LETTER Y WITH DOT BELOW
1EF5 0LATIN SMALL LETTER Y WITH DOT BELOW;1CAPITAL LETTER Y WITH HOOK ABOVE
1EF7 0LATIN SMALL LETTER Y WITH HOOK ABOVE;1CAPITAL LETTER Y WITH TILDE;1SMALL LETTER Y WITH TILDE
1EFA 0LATIN CAPITAL LETTER MIDDLE-WELSH LL;1SMALL LETTER MIDDLE-WELSH LL
1EFC 0LATIN CAPITAL LETTER MIDDLE-WELSH V;1SMALL LETTER MIDDLE-WELSH V;1CAPITAL LETTER Y WITH LOOP
1EFF 0LATIN SMALL LETTER Y WITH LOOP;0GREEK SMALL LETTER ALPHA WITH PSILI;5DASIA;5PSILI AND VARIA
1F03 0GREEK SMALL LETTER ALPHA WITH DASIA AND VARIA;5PSILI AND OXIA;5DASIA AND OXIA
1F06 0GREEK SMALL LETTER ALPHA WITH PSILI AND PERISPOMENI;5DASIA AND PERISPOMENI
1F08 0GREEK CAPITAL LETTER ALPHA WITH PSILI;5DASIA;5PSILI AND VARIA;5DASIA AND VARIA
1F0C 0GREEK CAPITAL LETTER ALPHA WITH PSILI AND OXIA;5DASIA AND OXIA;5PSILI AND PERISPOMENI
1F0F 0GREEK CAPITAL LETTER ALPHA WITH DASIA AND PERISPOMENI;1SMALL LETTER EPSILON WITH PSILI;5DASIA
1F12 0GREEK SMALL LETTER EPSILON WITH PSILI AND VARIA;5DASIA AND VARIA;5PSILI AND OXIA
1F15 0GREEK SMALL LETTER EPSILON WITH DASIA AND OXIA
1F18 0GREEK CAPITAL LETTER EPSILON WITH PSILI;5DASIA;5PSILI AND VARIA;5DASIA AND VARIA
1F1C 0GREEK CAPITAL LETTER EPSILON WITH PSILI AND OXIA;5DASIA AND OXIA
1F20 0GREEK SMALL LETTER ETA WITH PSILI;5DASIA;5PSILI AND VARIA;5DASIA AND VARIA;5PSILI AND OXIA
1F25 0GREEK SMALL LETTER ETA WITH DASIA AND OXIA;5PSILI AND PERISPOMENI;5DASIA AND PERISPOMENI
1F28 0GREEK CAPITAL LETTER ETA WITH PSILI;5DASIA;5PSILI AND VARIA;5DASIA AND VARIA;5PSILI AND OXIA
1F2D 0GREEK CAPITAL LETTER ETA WITH DASIA AND OXIA;5PSILI AND PERISPOMENI;5DASIA AND PERISPOMENI
1F30 0GREEK SMALL LETTER IOTA WITH PSILI;5DASIA;5PSILI AND VARIA;5DASIA AND VARIA;5PSILI AND OXIA
1F35 0GREEK SMALL LETTER IOTA WITH DASIA AND OXIA;5PSILI AND PERISPOMENI;5DASIA AND PERISPOMENI
1F38 0GREEK CAPITAL LETTER IOTA WITH PSILI;5DASIA;5PSILI AND VARIA;5DASIA AND VARIA;5PSILI AND OXIA
1F3D 0GREEK CAPITAL LETTER IOTA WITH DASIA AND OXIA;5PSILI AND PERISPOMENI;5DASIA AND PERISPOMENI
1F40 0GREEK SMALL LETTER OMICRON WITH PSILI;5DASIA;5PSILI AND VARIA;5DASIA AND VARIA
1F44 0GREEK SMALL LETTER OMICRON WITH PSILI AND OXIA;5DASIA AND OXIA
1F48 0GREEK CAPITAL LETTER OMICRON WITH PSILI;5DASIA;5PSILI AND VARIA;5DASIA AND VARIA
1F4C 0GREEK CAPITAL LETTER OMICRON WITH PSILI AND OXIA;5DASIA AND OXIA
1F50 0GREEK SMALL LETTER UPSILON WITH PSILI;5DASIA;5PSILI AND VARIA;5DASIA AND VARIA
1F54 0GREEK SMALL LETTER UPSILON WITH PSILI AND OXIA;5DASIA AND OXIA;5PSILI AND PERISPOMENI
1F57 0GREEK SMALL LETTER UPSILON WITH DASIA AND PERISPOMENI
1F59 0GREEK CAPITAL LETTER UPSILON WITH DASIA
1F5B 0GREEK CAPITAL LETTER UPSILON WITH DASIA AND VARIA
1F5D 0GREEK CAPITAL LETTER UPSILON WITH DASIA AND OXIA
1F5F 0GREEK CAPITAL LETTER UPSILON WITH DASIA AND PERISPOMENI;1SMALL LETTER OMEGA WITH PSILI;5DASIA
1F62 0GREEK SMALL LETTER OMEGA WITH PSILI AND VARIA;5DASIA AND VARIA;5PSILI AND OXIA
1F65 0GREEK SMALL LETTER OMEGA WITH DASIA AND OXIA;5PSILI AND PERISPOMENI;5DASIA AND PERISPOMENI
1F68 0GREEK CAPITAL LETTER OMEGA WITH PSILI;5DASIA;5PSILI AND VARIA;5DASIA AND VARIA
1F6C 0GREEK CAPITAL LETTER OMEGA WITH PSILI AND OXIA;5DASIA AND OXIA;5PSILI AND PERISPOMENI
1F6F 0GREEK CAPITAL LETTER OMEGA WITH DASIA AND PERISPOMENI;1SMALL LETTER ALPHA WITH VARIA;5OXIA
1F72 0GREEK SMALL LETTER EPSILON WITH VARIA;5OXIA;3ETA WITH VARIA;5OXIA;3IOTA WITH VARIA;5OXIA
1F78 0GREEK SMALL LETTER OMICRON WITH VARIA;5OXIA;3UPSILON WITH VARIA;5OXIA;3OMEGA WITH VARIA;5OXIA
1F80 0GREEK SMALL LETTER ALPHA WITH PSILI AND YPOGEGRAMMENI;5DASIA AND YPOGEGRAMMENI
1F82 0GREEK SMALL LETTER ALPHA WITH PSILI AND VARIA AND YPOGEGRAMMENI
1F83 0GREEK SMALL LETTER ALPHA WITH DASIA AND VARIA AND YPOGEGRAMMENI
1F84 0GREEK SMALL LETTER ALPHA WITH PSILI AND OXIA AND YPOGEGRAMMENI
1F85 0GREEK SMALL LETTER ALPHA WITH DASIA AND OXIA AND YPOGEGRAMMENI
1F86 0GREEK SMALL LETTER ALPHA WITH PSILI AND PERISPOMENI AND YPOGEGRAMMENI
1F87 0GREEK SMALL LETTER ALPHA WITH DASIA AND PERISPOMENI AND YPOGEGRAMMENI
1F88 0GREEK CAPITAL LETTER ALPHA WITH PSILI AND PROSGEGRAMMENI;5DASIA AND PROSGEGRAMMENI
1F8A 0GREEK CAPITAL LETTER ALPHA WITH PSILI AND VARIA AND PROSGEGRAMMENI
1F8B 0GREEK CAPITAL LETTER ALPHA WITH DASIA AND VARIA AND PROSGEGRAMMENI
1F8C 0GREEK CAPITAL LETTER ALPHA WITH PSILI AND OXIA AND PROSGEGRAMMENI
1F8D 0GREEK CAPITAL LETTER ALPHA WITH DASIA AND OXIA AND PROSGEGRAMMENI
1F8E 0GREEK CAPITAL LETTER ALPHA WITH PSILI AND PERISPOMENI AND PROSGEGRAMMENI
1F8F 0GREEK CAPITAL LETTER ALPHA WITH DASIA AND PERISPOMENI AND PROSGEGRAMMENI
1F90 0GREEK SMALL LETTER ETA WITH PSILI AND YPOGEGRAMMENI;5DASIA AND YPOGEGRAMMENI
1F92 0GREEK SMALL LETTER ETA WITH PSILI AND VARIA AND YPOGEGRAMMENI
1F93 0GREEK SMALL LETTER ETA WITH DASIA AND VARIA AND YPOGEGRAMMENI
1F94 0GREEK SMALL LETTER ETA WITH PSILI AND OXIA AND YPOGEGRAMMENI
1F95 0GREEK SMALL LETTER ETA WITH DASIA AND OXIA AND YPOGEGRAMMENI
1F96 0GREEK SMALL LETTER ETA WITH PSILI AND PERISPOMENI AND YPOGEGRAMMENI
1F97 0GREEK SMALL LETTER ETA WITH DASIA AND PERISPOMENI AND YPOGEGRAMMENI
1F98 0GREEK CAPITAL LETTER ETA WITH PSILI AND PROSGEGRAMMENI;5DASIA AND PROSGEGRAMMENI
1F9A 0GREEK CAPITAL LETTER ETA WITH PSILI AND VARIA AND PROSGEGRAMMENI
1F9B 0GREEK CAPITAL LETTER ETA WITH DASIA AND VARIA AND PROSGEGRAMMENI
1F9C 0GREEK CAPITAL LETTER ETA WITH PSILI AND OXIA AND PROSGEGRAMMENI
1F9D 0GREEK CAPITAL LETTER ETA WITH DASIA AND OXIA AND PROSGEGRAMMENI
1F9E 0GREEK CAPITAL LETTER ETA WITH PSILI AND PERISPOMENI AND PROSGEGRAMMENI
1F9F 0GREEK CAPITAL LETTER ETA WITH DASIA AND PERISPOMENI AND PROSGEGRAMMENI
1FA0 0GREEK SMALL LETTER OMEGA WITH PSILI AND YPOGEGRAMMENI;5DASIA AND YPOGEGRAMMENI
1FA2 0GREEK SMALL LETTER OMEGA WITH PSILI AND VARIA AND YPOGEGRAMMENI
1FA3 0GREEK SMALL LETTER OMEGA WITH DASIA AND VARIA AND YPOGEGRAMMENI
1FA4 0GREEK SMALL LETTER OMEGA WITH PSILI AND OXIA AND YPOGEGRAMMENI
1FA5 0GREEK SMALL LETTER OMEGA WITH DASIA AND OXIA AND YPOGEGRAMMENI
1FA6 0GREEK SMALL LETTER OMEGA WITH PSILI AND PERISPOMENI AND YPOGEGRAMMENI
1FA7 0GREEK SMALL LETTER OMEGA WITH DASIA AND PERISPOMENI AND YPOGEGRAMMENI
1FA8 0GREEK CAPITAL LETTER OMEGA WITH PSILI AND PROSGEGRAMMENI;5DASIA AND PROSGEGRAMMENI
1FAA 0GREEK CAPITAL LETTER OMEGA WITH PSILI AND VARIA AND PROSGEGRAMMENI
1FAB 0GREEK CAPITAL LETTER OMEGA WITH DASIA AND VARIA AND PROSGEGRAMMENI
1FAC 0GREEK CAPITAL LETTER OMEGA WITH PSILI AND OXIA AND PROSGEGRAMMENI
1FAD 0GREEK CAPITAL LETTER OMEGA WITH DASIA AND OXIA AND PROSGEGRAMMENI
1FAE 0GREEK CAPITAL LETTER OMEGA WITH PSILI AND PERISPOMENI AND PROSGEGRAMMENI
1FAF 0GREEK CAPITAL LETTER OMEGA WITH DASIA AND PERISPOMENI AND PROSGEGRAMMENI
1FB0 0GREEK SMALL LETTER ALPHA WITH VRACHY;5MACRON;5VARIA AND YPOGEGRAMMENI;5YPOGEGRAMMENI
1FB4 0GREEK SMALL LETTER ALPHA WITH OXIA AND YPOGEGRAMMENI
1FB6 0GREEK SMALL LETTER ALPHA WITH PERISPOMENI;6AND YPOGEGRAMMENI
1FB8 0GREEK CAPITAL LETTER ALPHA WITH VRACHY;5MACRON;5VARIA;5OXIA;5PROSGEGRAMMENI;1KORONIS
1FBE 0GREEK PROSGEGRAMMENI;1PSILI;1PERISPOMENI;1DIALYTIKA AND PERISPOMENI
1FC2 0GREEK SMALL LETTER ETA WITH VARIA AND YPOGEGRAMMENI;5YPOGEGRAMMENI;5OXIA AND YPOGEGRAMMENI
1FC6 0GREEK SMALL LETTER ETA WITH PERISPOMENI;6AND YPOGEGRAMMENI;1CAPITAL LETTER EPSILON WITH VARIA
1FC9 0GREEK CAPITAL LETTER EPSILON WITH OXIA;3ETA WITH VARIA;5OXIA;5PROSGEGRAMMENI;1PSILI AND VARIA
1FCE 0GREEK PSILI AND OXIA;3PERISPOMENI;1SMALL LETTER IOTA WITH VRACHY;5MACRON;5DIALYTIKA AND VARIA
1FD3 0GREEK SMALL LETTER IOTA WITH DIALYTIKA AND OXIA
1FD6 0GREEK SMALL LETTER IOTA WITH PERISPOMENI;5DIALYTIKA AND PERISPOMENI
1FD8 0GREEK CAPITAL LETTER IOTA WITH VRACHY;5MACRON;5VARIA;5OXIA
1FDD 0GREEK DASIA AND VARIA;3OXIA;3PERISPOMENI;1SMALL LETTER UPSILON WITH VRACHY;5MACRON
1FE2 0GREEK SMALL LETTER UPSILON WITH DIALYTIKA AND VARIA;7OXIA;3RHO WITH PSILI;5DASIA
1FE6 0GREEK SMALL LETTER UPSILON WITH PERISPOMENI;5DIALYTIKA AND PERISPOMENI
1FE8 0GREEK CAPITAL LETTER UPSILON WITH VRACHY;5MACRON;5VARIA;5OXIA;3RHO WITH DASIA
1FED 0GREEK DIALYTIKA AND VARIA;3OXIA;1VARIA
1FF2 0GREEK SMALL LETTER OMEGA WITH VARIA AND YPOGEGRAMMENI;5YPOGEGRAMMENI;5OXIA AND YPOGEGRAMMENI
1FF6 0GREEK SMALL LETTER OMEGA WITH PERISPOMENI;6AND YPOGEGRAMMENI
1FF8 0GREEK CAPITAL LETTER OMICRON WITH VARIA;5OXIA;3OMEGA WITH VARIA;5OXIA;5PROSGEGRAMMENI;1OXIA
1FFE 0GREEK DASIA"

end PlaybookLint.Text.CharacterName
