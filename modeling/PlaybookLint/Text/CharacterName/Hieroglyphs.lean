/-!
Names of characters from U+12000 to U+1BFFF: cuneiform, hieroglyphs and scripts of many signs. A row
begins with the number of its first character in hexadecimal. The names of the characters from there
on follow, divided by semicolons; the digit before a name tells how many words it shares with the
name before it.
-/

namespace PlaybookLint.Text.CharacterName

/-- The rows of names from U+12000 to U+1BFFF. -/
def hieroglyphs : String :=
  "12006 0CUNEIFORM SIGN A TIMES LAGAR GUNU;4MUSH;4SAG;2A2;2AB;3TIMES ASH2;4DUN3 GUNU;4GAL;4GAN2 TENU
1200F 0CUNEIFORM SIGN AB TIMES HA;4IGI GUNU;4IMIN;4LAGAB;4SHESH;4U PLUS U PLUS U;3GUNU;2AB2
12017 0CUNEIFORM SIGN AB2 TIMES BALAG;4GAN2 TENU;4ME PLUS EN;4SHA3;4TAK4;2AD;2AK;3TIMES ERIN2
1201F 0CUNEIFORM SIGN AK TIMES SHITA PLUS GISH;2AL;3TIMES AL;4DIM2;4GISH;4HA;4KAD3;4KI;4SHE;4USH
12029 0CUNEIFORM SIGN ALAN;2ALEPH;2AMAR;3TIMES SHE;2AN;3OVER AN;3THREE TIMES
12030 0CUNEIFORM SIGN AN PLUS NAGA OPPOSING AN PLUS NAGA;5SQUARED;2ANSHE;2APIN;2ARAD;3TIMES KUR
12036 0CUNEIFORM SIGN ARKAB;2ASAL2;2ASH;3ZIDA TENU;3KABA TENU
1203B 0CUNEIFORM SIGN ASH OVER ASH TUG2 OVER TUG2 TUG2 OVER TUG2 PAP;5OVER ASH
1203D 0CUNEIFORM SIGN ASH OVER ASH OVER ASH CROSSING ASH OVER ASH OVER ASH;2ASH2;2ASHGAB;2BA;2BAD
12042 0CUNEIFORM SIGN BAG3;2BAHAR2;2BAL;3OVER BAL;2BALAG;2BAR;2BARA2;2BI;3TIMES A;4GAR;4IGI GUNU
1204D 0CUNEIFORM SIGN BU;3OVER BU AB;5UN;3CROSSING BU;2BULUG;3OVER BULUG;2BUR;2BUR2;2DA;2DAG
12057 0CUNEIFORM SIGN DAG KISIM5 TIMES A PLUS MASH;5AMAR;5BALAG;5BI;5GA;6PLUS MASH;5GI;5GIR2;5GUD
12060 0CUNEIFORM SIGN DAG KISIM5 TIMES HA;5IR;6PLUS LU;5KAK;5LA;5LU;6PLUS MASH2;5LUM;5NE
12069 0CUNEIFORM SIGN DAG KISIM5 TIMES PAP PLUS PAP;5SI;5TAK4;5U2 PLUS GIR2;5USH;2DAM;2DAR;2DARA3
12071 0CUNEIFORM SIGN DARA4;2DI;2DIB;2DIM;3TIMES SHE;2DIM2;2DIN;3KASKAL U GUNU DISH;2DISH;2DU
1207B 0CUNEIFORM SIGN DU OVER DU;3GUNU;3SHESHIG;2DUB;3TIMES ESH2;2DUB2;2DUG;2DUGUD;2DUH;2DUN;2DUN3
12086 0CUNEIFORM SIGN DUN3 GUNU;4GUNU;2DUN4;2DUR2;2E;3TIMES PAP;3OVER E NUN OVER NUN;2E2
1208E 0CUNEIFORM SIGN E2 TIMES A PLUS HA PLUS DA;4GAR;4MI;4SAL;4SHE;4U;2EDIN;2EGIR;2EL;2EN
12098 0CUNEIFORM SIGN EN TIMES GAN2;5TENU;4ME;3CROSSING EN;3OPPOSING EN;3SQUARED;2EREN;2ERIN2;2ESH2
120A1 0CUNEIFORM SIGN EZEN;3TIMES A;5PLUS LAL;7TIMES LAL;4AN;4BAD;4DUN3 GUNU;6GUNU;4HA;5GUNU
120AB 0CUNEIFORM SIGN EZEN TIMES IGI GUNU;4KASKAL;5SQUARED;4KU3;4LA;4LAL TIMES LAL;4LI;4LU;4U2;4UD
120B5 0CUNEIFORM SIGN GA;3GUNU;2GA2;3TIMES A PLUS DA PLUS HA;6HA;6IGI;4AB2 TENU PLUS TAB;4AN;4ASH
120BE 0CUNEIFORM SIGN GA2 TIMES ASH2 PLUS GAL;4BAD;4BAR PLUS RA;4BUR;5PLUS RA;4DA;4DI
120C5 0CUNEIFORM SIGN GA2 TIMES DIM TIMES SHE;4DUB;4EL;5PLUS LA;4EN;5TIMES GAN2 TENU;4GAN2 TENU
120CC 0CUNEIFORM SIGN GA2 TIMES GAR;4GI;4GI4;5PLUS A;4GIR2 PLUS SU;4HA PLUS LU PLUS ESH2;4HAL
120D3 0CUNEIFORM SIGN GA2 TIMES HAL PLUS LA;4HI PLUS LI;4HUB2;4IGI GUNU;4ISH PLUS HU PLUS ASH;4KAK
120D9 0CUNEIFORM SIGN GA2 TIMES KASKAL;4KID;5PLUS LAL;4KU3 PLUS AN;4LA;4ME PLUS EN;4MI;4NUN
120E1 0CUNEIFORM SIGN GA2 TIMES NUN OVER NUN;4PA;4SAL;4SAR;4SHE;5PLUS TUR;4SHID;4SUM;4TAK4;4U;4UD
120EC 0CUNEIFORM SIGN GA2 TIMES UD PLUS DU;3OVER GA2;2GABA;3CROSSING GABA;2GAD
120F1 0CUNEIFORM SIGN GAD OVER GAD GAR OVER GAR;2GAL;3GAD OVER GAD GAR OVER GAR;2GALAM;2GAM;2GAN
120F7 0CUNEIFORM SIGN GAN2;3TENU;3OVER GAN2;3CROSSING GAN2;2GAR;2GAR3;2GASHAN;2GESHTIN;3TIMES KUR
12100 0CUNEIFORM SIGN GI;3TIMES E;4U;3CROSSING GI;2GI4;3OVER GI4;3CROSSING GI4;2GIDIM;2GIR2;3GUNU
1210A 0CUNEIFORM SIGN GIR3;3TIMES A PLUS IGI;4GAN2 TENU;4IGI;4LU PLUS IGI;4PA;2GISAL;2GISH
12112 0CUNEIFORM SIGN GISH CROSSING GISH;3TIMES BAD;4TAK4;3TENU;2GU;3CROSSING GU;2GU2;3TIMES KAK
1211A 0CUNEIFORM SIGN GU2 TIMES KAK TIMES IGI GUNU;4NUN;4SAL PLUS TUG2;3GUNU;2GUD;3TIMES A PLUS KUR
12120 0CUNEIFORM SIGN GUD TIMES KUR;3OVER GUD LUGAL;2GUL;2GUM;3TIMES SHE;2GUR;2GUR7;2GURUN;2GURUSH
12129 0CUNEIFORM SIGN HA;3TENU;3GUNU;2HAL;2HI;3TIMES ASH;4ASH2;4BAD;4DISH;4GAD;4KIN;4NUN;4SHE;4U
12137 0CUNEIFORM SIGN HU;2HUB2;3TIMES AN;4HAL;4KASKAL;4LISH;4UD;2HUL2;2I;3A;2IB;2IDIM
12143 0CUNEIFORM SIGN IDIM OVER IDIM BUR;5SQUARED;2IG;2IGI;3DIB;3RI
12149 0CUNEIFORM SIGN IGI OVER IGI SHIR OVER SHIR UD OVER UD;3GUNU;2IL;3TIMES GAN2 TENU;2IL2;2IM
1214F 0CUNEIFORM SIGN IM TIMES TAK4;3CROSSING IM;3OPPOSING IM;3SQUARED;2IMIN;2IN;2IR;2ISH;2KA
12158 0CUNEIFORM SIGN KA TIMES A;4AD;5PLUS KU3;4ASH2;4BAD;4BALAG;4BAR;4BI;4ERIN2;4ESH2;4GA;4GAL
12164 0CUNEIFORM SIGN KA TIMES GAN2 TENU;4GAR;5PLUS SHA3 PLUS A;4GI;4GIR2;4GISH PLUS SAR
1216A 0CUNEIFORM SIGN KA TIMES GISH CROSSING GISH;4GU;4GUR7;4IGI;4IM;4KAK;4KI;4KID;4LI;4LU;4ME
12175 0CUNEIFORM SIGN KA TIMES ME PLUS DU;6GI;6TE;4MI;5PLUS NUNUZ;4NE;4NUN;4PI;4RU;4SA;4SAR;4SHA
12181 0CUNEIFORM SIGN KA TIMES SHE;4SHID;4SHU;4SIG;4SUHUR;4TAR;4U;4U2;4UD;4UMUM TIMES PA;4USH;4ZI
1218D 0CUNEIFORM SIGN KA2;3CROSSING KA2;2KAB;2KAD2;2KAD3;2KAD4;2KAD5;3OVER KAD5;2KAK
12196 0CUNEIFORM SIGN KAK TIMES IGI GUNU;2KAL;3TIMES BAD;3CROSSING KAL;2KAM2;2KAM4;2KASKAL
1219D 0CUNEIFORM SIGN KASKAL LAGAB TIMES U OVER LAGAB TIMES U
1219E 0CUNEIFORM SIGN KASKAL OVER KASKAL LAGAB TIMES U OVER LAGAB TIMES U;2KESH2;2KI;3TIMES BAD;4U
121A3 0CUNEIFORM SIGN KI TIMES UD;2KID;2KIN;2KISAL;2KISH;2KISIM5;3OVER KISIM5;2KU
121AB 0CUNEIFORM SIGN KU OVER HI TIMES ASH2 KU OVER HI TIMES ASH2;2KU3;2KU4;3VARIANT FORM;2KU7;2KUL
121B1 0CUNEIFORM SIGN KUL GUNU;2KUN;2KUR;3OPPOSING KUR;2KUSHU2;2KWU318;2LA;2LAGAB;3TIMES A
121BA 0CUNEIFORM SIGN LAGAB TIMES A PLUS DA PLUS HA;6GAR;6LAL;4AL;4AN;4ASH ZIDA TENU;4BAD;4BI;4DAR
121C3 0CUNEIFORM SIGN LAGAB TIMES EN;4GA;4GAR;4GUD;5PLUS GUD;4HA;4HAL;4HI TIMES NUN;4IGI GUNU;4IM
121CD 0CUNEIFORM SIGN LAGAB TIMES IM PLUS HA;6LU;4KI;4KIN;4KU3;4KUL;5PLUS HI PLUS A;4LAGAB;4LISH
121D6 0CUNEIFORM SIGN LAGAB TIMES LU;4LUL;4ME;5PLUS EN;4MUSH;4NE;4SHE PLUS SUM
121DD 0CUNEIFORM SIGN LAGAB TIMES SHITA PLUS GISH PLUS ERIN2;7TENU;4SHU2;5PLUS SHU2;4SUM;4TAG;4TAK4
121E4 0CUNEIFORM SIGN LAGAB TIMES TE PLUS A PLUS SU PLUS NA;4U;5PLUS A;6U PLUS U;4U2 PLUS ASH;4UD
121EA 0CUNEIFORM SIGN LAGAB TIMES USH;3SQUARED;2LAGAR;3TIMES SHE;5PLUS SUM;3GUNU
121F0 0CUNEIFORM SIGN LAGAR GUNU OVER LAGAR GUNU SHE;2LAHSHU;2LAL;3TIMES LAL;2LAM;3TIMES KUR
121F6 0CUNEIFORM SIGN LAM TIMES KUR PLUS RU;2LI;2LIL;2LIMMU2;2LISH;2LU;3TIMES BAD;2LU2;3TIMES AL
121FF 0CUNEIFORM SIGN LU2 TIMES BAD;4ESH2;5TENU;4GAN2 TENU;4HI TIMES BAD;4IM;4KAD2;4KAD3;5PLUS ASH
12208 0CUNEIFORM SIGN LU2 TIMES KI;4LA PLUS ASH;4LAGAB;4ME PLUS EN;4NE;4NU;4SI PLUS ASH
1220F 0CUNEIFORM SIGN LU2 TIMES SIK2 PLUS BU;4TUG2;3TENU;3CROSSING LU2;3OPPOSING LU2;3SQUARED
12215 0CUNEIFORM SIGN LU2 SHESHIG;2LU3;2LUGAL;3OVER LUGAL;3OPPOSING LUGAL;3SHESHIG;2LUH;2LUL;2LUM
1221E 0CUNEIFORM SIGN LUM OVER LUM;5GAR OVER GAR;2MA;3TIMES TAK4;3GUNU;2MA2;2MAH;2MAR;2MASH;2MASH2
12228 0CUNEIFORM SIGN ME;2MES;2MI;2MIN;2MU;3OVER MU;2MUG;3GUNU;2MUNSUB;2MURGU2;2MUSH;3TIMES A;4KUR
12235 0CUNEIFORM SIGN MUSH TIMES ZA;3OVER MUSH;5TIMES A PLUS NA;3CROSSING MUSH;2MUSH3;3TIMES A
1223B 0CUNEIFORM SIGN MUSH3 TIMES A PLUS DI;4DI;3GUNU;2NA;2NA2;2NAGA;3INVERTED;3TIMES SHU TENU
12243 0CUNEIFORM SIGN NAGA OPPOSING NAGA;2NAGAR;2NAM NUTILLU;2NAM;2NAM2;2NE;3TIMES A;4UD;3SHESHIG
1224C 0CUNEIFORM SIGN NI;3TIMES E;2NI2;2NIM;3TIMES GAN2 TENU;4GAR PLUS GAN2 TENU;2NINDA2;3TIMES AN
12254 0CUNEIFORM SIGN NINDA2 TIMES ASH;5PLUS ASH;4GUD;4ME PLUS GAN2 TENU;4NE;4NUN;4SHE;5PLUS A AN
1225C 0CUNEIFORM SIGN NINDA2 TIMES SHE PLUS ASH;7PLUS ASH;4U2 PLUS ASH;4USH;2NISAG;2NU;2NU11;2NUN
12264 0CUNEIFORM SIGN NUN LAGAR TIMES GAR;5MASH;5SAL;6OVER NUN LAGAR TIMES SAL;5USH;3TENU;3OVER NUN
1226B 0CUNEIFORM SIGN NUN CROSSING NUN;5LAGAR OVER LAGAR;2NUNUZ;3AB2 TIMES ASHGAB;5BI;5DUG;5GUD
12272 0CUNEIFORM SIGN NUNUZ AB2 TIMES IGI GUNU;5KAD3;5LA;5NE;5SILA3;5U2;3KISIM5 TIMES BI;6U;2PA
1227B 0CUNEIFORM SIGN PAD;2PAN;2PAP;2PESH2;2PI;3TIMES A;4AB;4BI;4BU;4E;4I;4IB;4U;4U2;3CROSSING PI
1228A 0CUNEIFORM SIGN PIRIG;3TIMES KAL;4UD;4ZA;3OPPOSING PIRIG;2RA;2RAB;2RI;2RU;2SA;2SAG NUTILLU
12295 0CUNEIFORM SIGN SAG;3TIMES A;4DU;4DUB;4HA;4KAK;4KUR;4LUM;4MI;4NUN;4SAL;4SHID;4TAB;4U2;4UB;4UM
122A5 0CUNEIFORM SIGN SAG TIMES UR;4USH;3OVER SAG;3GUNU;2SAL;3LAGAB TIMES ASH2;2SANGA2;2SAR;2SHA
122AE 0CUNEIFORM SIGN SHA3;3TIMES A;4BAD;4GISH;4NE;4SHU2;4TUR;4U;5PLUS A;2SHA6;2SHAB6;2SHAR2;2SHE
122BB 0CUNEIFORM SIGN SHE HU;3OVER SHE GAD OVER GAD GAR OVER GAR;5TAB OVER TAB GAR OVER GAR;2SHEG9
122BF 0CUNEIFORM SIGN SHEN;2SHESH;2SHESH2;2SHESHLAM;2SHID;3TIMES A;4IM;2SHIM;3TIMES A;4BAL;4BULUG
122CA 0CUNEIFORM SIGN SHIM TIMES DIN;4GAR;4IGI;5GUNU;4KUSHU2;4LUL;4MUG;4SAL;2SHINIG;2SHIR;3TENU
122D5 0CUNEIFORM SIGN SHIR OVER SHIR BUR OVER BUR;2SHITA;2SHU;3OVER INVERTED SHU;2SHU2;2SHUBUR;2SI
122DC 0CUNEIFORM SIGN SI GUNU;2SIG;2SIG4;3OVER SIG4 SHU2;2SIK2;2SILA3;2SU;3OVER SU;2SUD;2SUD2
122E6 0CUNEIFORM SIGN SUHUR;2SUM;2SUMASH;2SUR;2SUR9;2TA;3ASTERISK;3TIMES HI;4MI;3GUNU;2TAB
122F1 0CUNEIFORM SIGN TAB OVER TAB NI OVER NI DISH OVER DISH;3SQUARED;2TAG;3TIMES BI;4GUD;4SHE;4SHU
122F8 0CUNEIFORM SIGN TAG TIMES TUG2;4UD;2TAK4;2TAR;2TE;3GUNU;2TI;3TENU;2TIL;2TIR;3TIMES TAK4
12303 0CUNEIFORM SIGN TIR OVER TIR;5GAD OVER GAD GAR OVER GAR;2TU;2TUG2;2TUK;2TUM;2TUR
1230A 0CUNEIFORM SIGN TUR OVER TUR ZA OVER ZA;2U;3GUD;3U U;3OVER U PA OVER PA GAR OVER GAR
1230F 0CUNEIFORM SIGN U OVER U SUR OVER SUR;5U REVERSED OVER U REVERSED;2U2;2UB;2UD;3KUSHU2
12315 0CUNEIFORM SIGN UD TIMES BAD;4MI;4U PLUS U PLUS U;9GUNU;3GUNU;3SHESHIG;4TIMES BAD;2UDUG;2UM
1231E 0CUNEIFORM SIGN UM TIMES LAGAB;4ME PLUS DA;4SHA3;4U;2UMBIN;2UMUM;3TIMES KASKAL;4PA;2UN;3GUNU
12328 0CUNEIFORM SIGN UR;3CROSSING UR;3SHESHIG;2UR2;3TIMES A PLUS HA;6NA;4AL;4HA;4NUN;4U2;5PLUS ASH
12333 0CUNEIFORM SIGN UR2 TIMES U2 PLUS BI;2UR4;2URI;2URI3;2URU;3TIMES A;4ASHGAB;4BAR;4DUN;4GA;4GAL
1233E 0CUNEIFORM SIGN URU TIMES GAN2 TENU;4GAR;4GU;4HA;4IGI;4IM;4ISH;4KI;4LUM;4MIN;4PA;4SHE;4SIG4
1234B 0CUNEIFORM SIGN URU TIMES TU;4U PLUS GUD;4UD;4URUDA;2URUDA;3TIMES U;2USH;3TIMES A;4KU;4KUR
12355 0CUNEIFORM SIGN USH TIMES TAK4;2USHX;2USH2;2USHUMX;2UTUKI;2UZ3;3TIMES KASKAL;2UZU;2ZA;3TENU
1235F 0CUNEIFORM SIGN ZA SQUARED TIMES KUR;2ZAG;2ZAMX;2ZE2;2ZI;3OVER ZI;2ZI3;2ZIB;3KABA TENU;2ZIG
12369 0CUNEIFORM SIGN ZIZ2;2ZU;2ZU5;3TIMES A;2ZUBUR;2ZUM;2KAP ELAMITE;2AB TIMES NUN;2AB2 TIMES A
12372 0CUNEIFORM SIGN AMAR TIMES KUG;2DAG KISIM5 TIMES U2 PLUS MASH;2DAG3;2DISH PLUS SHU
12376 0CUNEIFORM SIGN DUB TIMES SHE;2EZEN TIMES GUD;4SHE;2GA2 TIMES AN PLUS KAK PLUS A;4ASH2;2GE22
1237C 0CUNEIFORM SIGN GIG;2HUSH;2KA TIMES ANSHE;4ASH3;4GISH;4GUD;4HI TIMES ASH2;4LUM;4PA;4SHUL;4TU
12387 0CUNEIFORM SIGN KA TIMES UR2;2LAGAB TIMES GI;2LU2 SHESHIG TIMES BAD;3TIMES ESH2 PLUS LAL;4SHU
1238C 0CUNEIFORM SIGN MESH;2MUSH3 TIMES ZA;2NA4;2NIN;2NIN9;2NINDA2 TIMES BAL;4GI
12393 0CUNEIFORM SIGN NU11 ROTATED NINETY DEGREES;2PESH2 ASTERISK;2PIR2;2SAG TIMES IGI GUNU;2TI2
12398 0CUNEIFORM SIGN UM TIMES ME;2U U
12400 0CUNEIFORM NUMERIC SIGN TWO ASH;3THREE ASH;3FOUR ASH;3FIVE ASH;3SIX ASH;3SEVEN ASH;3EIGHT ASH
12407 0CUNEIFORM NUMERIC SIGN NINE ASH;3THREE DISH;3FOUR DISH;3FIVE DISH;3SIX DISH;3SEVEN DISH
1240D 0CUNEIFORM NUMERIC SIGN EIGHT DISH;3NINE DISH;3FOUR U;3FIVE U;3SIX U;3SEVEN U;3EIGHT U
12414 0CUNEIFORM NUMERIC SIGN NINE U;3ONE GESH2;3TWO GESH2;3THREE GESH2;3FOUR GESH2;3FIVE GESH2
1241A 0CUNEIFORM NUMERIC SIGN SIX GESH2;3SEVEN GESH2;3EIGHT GESH2;3NINE GESH2;3ONE GESHU;3TWO GESHU
12420 0CUNEIFORM NUMERIC SIGN THREE GESHU;3FOUR GESHU;3FIVE GESHU;3TWO SHAR2;3THREE SHAR2
12425 0CUNEIFORM NUMERIC SIGN THREE SHAR2 VARIANT FORM;3FOUR SHAR2;3FIVE SHAR2;3SIX SHAR2
12429 0CUNEIFORM NUMERIC SIGN SEVEN SHAR2;3EIGHT SHAR2;3NINE SHAR2;3ONE SHARU;3TWO SHARU
1242E 0CUNEIFORM NUMERIC SIGN THREE SHARU;5VARIANT FORM;3FOUR SHARU;3FIVE SHARU
12432 0CUNEIFORM NUMERIC SIGN SHAR2 TIMES GAL PLUS DISH;7MIN;3ONE BURU;3TWO BURU;3THREE BURU
12437 0CUNEIFORM NUMERIC SIGN THREE BURU VARIANT FORM;3FOUR BURU;3FIVE BURU
1243A 0CUNEIFORM NUMERIC SIGN THREE VARIANT FORM ESH16;6ESH21;3FOUR VARIANT FORM LIMMU;6LIMMU4
1243E 0CUNEIFORM NUMERIC SIGN FOUR VARIANT FORM LIMMU A;7B;3SIX VARIANT FORM ASH9
12441 0CUNEIFORM NUMERIC SIGN SEVEN VARIANT FORM IMIN3;6IMIN A;7B;3EIGHT VARIANT FORM USSU;6USSU3
12446 0CUNEIFORM NUMERIC SIGN NINE VARIANT FORM ILIMMU;6ILIMMU3;6ILIMMU4;6ILIMMU A;3TWO ASH TENU
1244B 0CUNEIFORM NUMERIC SIGN THREE ASH TENU;3FOUR ASH TENU;3FIVE ASH TENU;3SIX ASH TENU;3ONE BAN2
12450 0CUNEIFORM NUMERIC SIGN TWO BAN2;3THREE BAN2;3FOUR BAN2;5VARIANT FORM;3FIVE BAN2
12455 0CUNEIFORM NUMERIC SIGN FIVE BAN2 VARIANT FORM;3NIGIDAMIN;3NIGIDAESH;3ONE ESHE3;3TWO ESHE3
1245A 0CUNEIFORM NUMERIC SIGN ONE THIRD DISH;3TWO THIRDS DISH;3FIVE SIXTHS DISH
1245D 0CUNEIFORM NUMERIC SIGN ONE THIRD VARIANT FORM A;3TWO THIRDS VARIANT FORM A;3ONE EIGHTH ASH
12460 0CUNEIFORM NUMERIC SIGN ONE QUARTER ASH;3OLD ASSYRIAN ONE SIXTH;6QUARTER;3ONE QUARTER GUR
12464 0CUNEIFORM NUMERIC SIGN ONE HALF GUR;3ELAMITE ONE THIRD;4TWO THIRDS;4FORTY;4FIFTY
12469 0CUNEIFORM NUMERIC SIGN FOUR U VARIANT FORM;3FIVE U VARIANT FORM;3SIX U VARIANT FORM
1246C 0CUNEIFORM NUMERIC SIGN SEVEN U VARIANT FORM;3EIGHT U VARIANT FORM;3NINE U VARIANT FORM
12470 0CUNEIFORM PUNCTUATION SIGN OLD ASSYRIAN WORD DIVIDER;3VERTICAL COLON;3DIAGONAL COLON
12473 0CUNEIFORM PUNCTUATION SIGN DIAGONAL TRICOLON;4QUADCOLON
12480 0CUNEIFORM SIGN AB TIMES NUN TENU;4SHU2;2AD TIMES ESH2;2BAD TIMES DISH TENU;2BAHAR2 TIMES AB2
12485 0CUNEIFORM SIGN BAHAR2 TIMES NI;4ZA;2BU OVER BU TIMES NA2;2DA TIMES TAK4;2DAG TIMES KUR
1248A 0CUNEIFORM SIGN DIM TIMES IGI;4U U U;2DIM2 TIMES UD;2DUG TIMES ANSHE;4ASH;5AT LEFT;4DIN;4DUN
12492 0CUNEIFORM SIGN DUG TIMES ERIN2;4GA;4GI;4GIR2 GUNU;4GISH;4HA;4HI;4IGI GUNU;4KASKAL;4KUR
1249C 0CUNEIFORM SIGN DUG TIMES KUSHU2;5PLUS KASKAL;4LAK-020;4LAM;5TIMES KUR;4LUH PLUS GISH;4MASH
124A3 0CUNEIFORM SIGN DUG TIMES MES;4MI;4NI;4PI;4SHE;4SI GUNU;2E2 TIMES KUR;4PAP;2ERIN2 X
124AC 0CUNEIFORM SIGN ESH2 CROSSING ESH2;2EZEN SHESHIG TIMES ASH;5HI;5IGI GUNU;5LA;5LAL;5ME;5MES
124B4 0CUNEIFORM SIGN EZEN SHESHIG TIMES SU;3TIMES SU;2GA2 TIMES BAHAR2;4DIM GUNU
124B8 0CUNEIFORM SIGN GA2 TIMES DUG TIMES IGI GUNU;6KASKAL;4EREN;4GA;4GAR PLUS DI;6NE;4HA PLUS A
124BF 0CUNEIFORM SIGN GA2 TIMES KUSHU2 PLUS KASKAL;4LAM;5TIMES KUR;4LUH;4MUSH;4NE;5PLUS E2;6GI
124C7 0CUNEIFORM SIGN GA2 TIMES SHIM;4ZIZ2;2GABA ROTATED NINETY DEGREES;2GESHTIN TIMES U
124CB 0CUNEIFORM SIGN GISH TIMES GISH CROSSING GISH;2GU2 TIMES IGI GUNU;2GUD PLUS GISH TIMES TAK4
124CE 0CUNEIFORM SIGN HA TENU GUNU;2HI TIMES ASH OVER HI TIMES ASH;2KA TIMES BU;4KA;4U U U;4UR
124D4 0CUNEIFORM SIGN LAGAB TIMES ZU OVER ZU;2LAK-003;2LAK-021;2LAK-025;2LAK-030;2LAK-050;2LAK-051
124DB 0CUNEIFORM SIGN LAK-062;2LAK-079 OVER LAK-079 GUNU;2LAK-080;2LAK-081 OVER LAK-081;2LAK-092
124E0 0CUNEIFORM SIGN LAK-130;2LAK-142;2LAK-210;2LAK-219;2LAK-220;2LAK-225;2LAK-228;2LAK-238
124E8 0CUNEIFORM SIGN LAK-265;2LAK-266;2LAK-343;2LAK-347;2LAK-348;2LAK-383;2LAK-384;2LAK-390
124F0 0CUNEIFORM SIGN LAK-441;2LAK-449;3TIMES GU;4IGI;4PAP PLUS LU3;6PAP PLUS LU3;4U2 PLUS BA
124F7 0CUNEIFORM SIGN LAK-450;2LAK-457;2LAK-470;2LAK-483;2LAK-490;2LAK-492;2LAK-493;2LAK-495
124FF 0CUNEIFORM SIGN LAK-550;2LAK-608;2LAK-617;3TIMES ASH;4BAD;4DUN3 GUNU GUNU;4KU3;4LA;4TAR;4TE
12509 0CUNEIFORM SIGN LAK-617 TIMES U2;4UD;4URUDA;2LAK-636;2LAK-648;3TIMES DUB;4GA;4IGI;5GUNU;4NI
12513 0CUNEIFORM SIGN LAK-648 TIMES PAP PLUS PAP PLUS LU3;4SHESH PLUS KI;4UD;4URUDA;2LAK-724
12518 0CUNEIFORM SIGN LAK-749;2LU2 GUNU TIMES ASH;3TIMES DISH;4HAL;4PAP;5PLUS PAP PLUS LU3;4TAK4
1251F 0CUNEIFORM SIGN MI PLUS ZA7;2MUSH OVER MUSH TIMES GA;6KAK;2NINDA2 TIMES DIM GUNU;4GISH;4GUL
12525 0CUNEIFORM SIGN NINDA2 TIMES HI;4KESH2;4LAK-050;4MASH;4PAP PLUS PAP;4U;5PLUS U;4URUDA
1252D 0CUNEIFORM SIGN SAG GUNU TIMES HA;3TIMES EN;4SHE AT LEFT;4TAK4;2SHA6 TENU;2SHE OVER SHE
12533 0CUNEIFORM SIGN SHE PLUS HUB2;4NAM2;4SAR;2SHU2 PLUS DUG TIMES NI;4E2 TIMES AN;2SI TIMES TAK4
12539 0CUNEIFORM SIGN TAK4 PLUS SAG;2TUM TIMES GAN2 TENU;4THREE DISH;2UR2 INVERTED;3TIMES UD
1253E 0CUNEIFORM SIGN URU TIMES DARA3;4LAK-668;4LU3;2ZA7;2ZU OVER ZU PLUS SAR
12543 0CUNEIFORM SIGN ZU5 TIMES THREE DISH TENU
12F90 0CYPRO-MINOAN SIGN CM001;2CM002;2CM004;2CM005;2CM006;2CM007;2CM008;2CM009;2CM010;2CM011
12F9A 0CYPRO-MINOAN SIGN CM012;2CM012B;2CM013;2CM015;2CM017;2CM019;2CM021;2CM023;2CM024;2CM025
12FA4 0CYPRO-MINOAN SIGN CM026;2CM027;2CM028;2CM029;2CM030;2CM033;2CM034;2CM035;2CM036;2CM037
12FAE 0CYPRO-MINOAN SIGN CM038;2CM039;2CM040;2CM041;2CM044;2CM046;2CM047;2CM049;2CM050;2CM051
12FB8 0CYPRO-MINOAN SIGN CM052;2CM053;2CM054;2CM055;2CM056;2CM058;2CM059;2CM060;2CM061;2CM062
12FC2 0CYPRO-MINOAN SIGN CM063;2CM064;2CM066;2CM067;2CM068;2CM069;2CM070;2CM071;2CM072;2CM073
12FCC 0CYPRO-MINOAN SIGN CM074;2CM075;2CM075B;2CM076;2CM078;2CM079;2CM080;2CM081;2CM082;2CM083
12FD6 0CYPRO-MINOAN SIGN CM084;2CM085;2CM086;2CM087;2CM088;2CM089;2CM090;2CM091;2CM092;2CM094
12FE0 0CYPRO-MINOAN SIGN CM095;2CM096;2CM097;2CM098;2CM099;2CM100;2CM101;2CM102;2CM103;2CM104
12FEA 0CYPRO-MINOAN SIGN CM105;2CM107;2CM108;2CM109;2CM110;2CM112;2CM114;2CM301;2CM302
13000 0EGYPTIAN HIEROGLYPH A001;2A002;2A003;2A004;2A005;2A005A;2A006;2A006A;2A006B;2A007;2A008
1300B 0EGYPTIAN HIEROGLYPH A009;2A010;2A011;2A012;2A013;2A014;2A014A;2A015;2A016;2A017;2A017A;2A018
13017 0EGYPTIAN HIEROGLYPH A019;2A020;2A021;2A022;2A023;2A024;2A025;2A026;2A027;2A028;2A029;2A030
13023 0EGYPTIAN HIEROGLYPH A031;2A032;2A032A;2A033;2A034;2A035;2A036;2A037;2A038;2A039;2A040;2A040A
1302F 0EGYPTIAN HIEROGLYPH A041;2A042;2A042A;2A043;2A043A;2A044;2A045;2A045A;2A046;2A047;2A048
1303A 0EGYPTIAN HIEROGLYPH A049;2A050;2A051;2A052;2A053;2A054;2A055;2A056;2A057;2A058;2A059;2A060
13046 0EGYPTIAN HIEROGLYPH A061;2A062;2A063;2A064;2A065;2A066;2A067;2A068;2A069;2A070;2B001;2B002
13052 0EGYPTIAN HIEROGLYPH B003;2B004;2B005;2B005A;2B006;2B007;2B008;2B009;2C001;2C002;2C002A
1305D 0EGYPTIAN HIEROGLYPH C002B;2C002C;2C003;2C004;2C005;2C006;2C007;2C008;2C009;2C010;2C010A
13068 0EGYPTIAN HIEROGLYPH C011;2C012;2C013;2C014;2C015;2C016;2C017;2C018;2C019;2C020;2C021;2C022
13074 0EGYPTIAN HIEROGLYPH C023;2C024;2D001;2D002;2D003;2D004;2D005;2D006;2D007;2D008;2D008A;2D009
13080 0EGYPTIAN HIEROGLYPH D010;2D011;2D012;2D013;2D014;2D015;2D016;2D017;2D018;2D019;2D020;2D021
1308C 0EGYPTIAN HIEROGLYPH D022;2D023;2D024;2D025;2D026;2D027;2D027A;2D028;2D029;2D030;2D031;2D031A
13098 0EGYPTIAN HIEROGLYPH D032;2D033;2D034;2D034A;2D035;2D036;2D037;2D038;2D039;2D040;2D041;2D042
130A4 0EGYPTIAN HIEROGLYPH D043;2D044;2D045;2D046;2D046A;2D047;2D048;2D048A;2D049;2D050;2D050A
130AF 0EGYPTIAN HIEROGLYPH D050B;2D050C;2D050D;2D050E;2D050F;2D050G;2D050H;2D050I;2D051;2D052
130B9 0EGYPTIAN HIEROGLYPH D052A;2D053;2D054;2D054A;2D055;2D056;2D057;2D058;2D059;2D060;2D061;2D062
130C5 0EGYPTIAN HIEROGLYPH D063;2D064;2D065;2D066;2D067;2D067A;2D067B;2D067C;2D067D;2D067E;2D067F
130D0 0EGYPTIAN HIEROGLYPH D067G;2D067H;2E001;2E002;2E003;2E004;2E005;2E006;2E007;2E008;2E008A
130DB 0EGYPTIAN HIEROGLYPH E009;2E009A;2E010;2E011;2E012;2E013;2E014;2E015;2E016;2E016A;2E017
130E6 0EGYPTIAN HIEROGLYPH E017A;2E018;2E019;2E020;2E020A;2E021;2E022;2E023;2E024;2E025;2E026;2E027
130F2 0EGYPTIAN HIEROGLYPH E028;2E028A;2E029;2E030;2E031;2E032;2E033;2E034;2E034A;2E036;2E037;2E038
130FE 0EGYPTIAN HIEROGLYPH F001;2F001A;2F002;2F003;2F004;2F005;2F006;2F007;2F008;2F009;2F010;2F011
1310A 0EGYPTIAN HIEROGLYPH F012;2F013;2F013A;2F014;2F015;2F016;2F017;2F018;2F019;2F020;2F021;2F021A
13116 0EGYPTIAN HIEROGLYPH F022;2F023;2F024;2F025;2F026;2F027;2F028;2F029;2F030;2F031;2F031A;2F032
13122 0EGYPTIAN HIEROGLYPH F033;2F034;2F035;2F036;2F037;2F037A;2F038;2F038A;2F039;2F040;2F041;2F042
1312E 0EGYPTIAN HIEROGLYPH F043;2F044;2F045;2F045A;2F046;2F046A;2F047;2F047A;2F048;2F049;2F050
13139 0EGYPTIAN HIEROGLYPH F051;2F051A;2F051B;2F051C;2F052;2F053;2G001;2G002;2G003;2G004;2G005
13144 0EGYPTIAN HIEROGLYPH G006;2G006A;2G007;2G007A;2G007B;2G008;2G009;2G010;2G011;2G011A;2G012
1314F 0EGYPTIAN HIEROGLYPH G013;2G014;2G015;2G016;2G017;2G018;2G019;2G020;2G020A;2G021;2G022;2G023
1315B 0EGYPTIAN HIEROGLYPH G024;2G025;2G026;2G026A;2G027;2G028;2G029;2G030;2G031;2G032;2G033;2G034
13167 0EGYPTIAN HIEROGLYPH G035;2G036;2G036A;2G037;2G037A;2G038;2G039;2G040;2G041;2G042;2G043
13172 0EGYPTIAN HIEROGLYPH G043A;2G044;2G045;2G045A;2G046;2G047;2G048;2G049;2G050;2G051;2G052;2G053
1317E 0EGYPTIAN HIEROGLYPH G054;2H001;2H002;2H003;2H004;2H005;2H006;2H006A;2H007;2H008;2I001;2I002
1318A 0EGYPTIAN HIEROGLYPH I003;2I004;2I005;2I005A;2I006;2I007;2I008;2I009;2I009A;2I010;2I010A
13195 0EGYPTIAN HIEROGLYPH I011;2I011A;2I012;2I013;2I014;2I015;2K001;2K002;2K003;2K004;2K005;2K006
131A1 0EGYPTIAN HIEROGLYPH K007;2K008;2L001;2L002;2L002A;2L003;2L004;2L005;2L006;2L006A;2L007;2L008
131AD 0EGYPTIAN HIEROGLYPH M001;2M001A;2M001B;2M002;2M003;2M003A;2M004;2M005;2M006;2M007;2M008
131B8 0EGYPTIAN HIEROGLYPH M009;2M010;2M010A;2M011;2M012;2M012A;2M012B;2M012C;2M012D;2M012E;2M012F
131C3 0EGYPTIAN HIEROGLYPH M012G;2M012H;2M013;2M014;2M015;2M015A;2M016;2M016A;2M017;2M017A;2M018
131CE 0EGYPTIAN HIEROGLYPH M019;2M020;2M021;2M022;2M022A;2M023;2M024;2M024A;2M025;2M026;2M027;2M028
131DA 0EGYPTIAN HIEROGLYPH M028A;2M029;2M030;2M031;2M031A;2M032;2M033;2M033A;2M033B;2M034;2M035
131E5 0EGYPTIAN HIEROGLYPH M036;2M037;2M038;2M039;2M040;2M040A;2M041;2M042;2M043;2M044;2N001;2N002
131F1 0EGYPTIAN HIEROGLYPH N003;2N004;2N005;2N006;2N007;2N008;2N009;2N010;2N011;2N012;2N013;2N014
131FD 0EGYPTIAN HIEROGLYPH N015;2N016;2N017;2N018;2N018A;2N018B;2N019;2N020;2N021;2N022;2N023;2N024
13209 0EGYPTIAN HIEROGLYPH N025;2N025A;2N026;2N027;2N028;2N029;2N030;2N031;2N032;2N033;2N033A;2N034
13215 0EGYPTIAN HIEROGLYPH N034A;2N035;2N035A;2N036;2N037;2N037A;2N038;2N039;2N040;2N041;2N042
13220 0EGYPTIAN HIEROGLYPH NL001;2NL002;2NL003;2NL004;2NL005;2NL005A;2NL006;2NL007;2NL008;2NL009
1322A 0EGYPTIAN HIEROGLYPH NL010;2NL011;2NL012;2NL013;2NL014;2NL015;2NL016;2NL017;2NL017A;2NL018
13234 0EGYPTIAN HIEROGLYPH NL019;2NL020;2NU001;2NU002;2NU003;2NU004;2NU005;2NU006;2NU007;2NU008
1323E 0EGYPTIAN HIEROGLYPH NU009;2NU010;2NU010A;2NU011;2NU011A;2NU012;2NU013;2NU014;2NU015;2NU016
13248 0EGYPTIAN HIEROGLYPH NU017;2NU018;2NU018A;2NU019;2NU020;2NU021;2NU022;2NU022A;2O001;2O001A
13252 0EGYPTIAN HIEROGLYPH O002;2O003;2O004;2O005;2O005A;2O006;2O006A;2O006B;2O006C;2O006D;2O006E
1325D 0EGYPTIAN HIEROGLYPH O006F;2O007;2O008;2O009;2O010;2O010A;2O010B;2O010C;2O011;2O012;2O013
13268 0EGYPTIAN HIEROGLYPH O014;2O015;2O016;2O017;2O018;2O019;2O019A;2O020;2O020A;2O021;2O022;2O023
13274 0EGYPTIAN HIEROGLYPH O024;2O024A;2O025;2O025A;2O026;2O027;2O028;2O029;2O029A;2O030;2O030A
1327F 0EGYPTIAN HIEROGLYPH O031;2O032;2O033;2O033A;2O034;2O035;2O036;2O036A;2O036B;2O036C;2O036D
1328A 0EGYPTIAN HIEROGLYPH O037;2O038;2O039;2O040;2O041;2O042;2O043;2O044;2O045;2O046;2O047;2O048
13296 0EGYPTIAN HIEROGLYPH O049;2O050;2O050A;2O050B;2O051;2P001;2P001A;2P002;2P003;2P003A;2P004
132A1 0EGYPTIAN HIEROGLYPH P005;2P006;2P007;2P008;2P009;2P010;2P011;2Q001;2Q002;2Q003;2Q004;2Q005
132AD 0EGYPTIAN HIEROGLYPH Q006;2Q007;2R001;2R002;2R002A;2R003;2R003A;2R003B;2R004;2R005;2R006
132B8 0EGYPTIAN HIEROGLYPH R007;2R008;2R009;2R010;2R010A;2R011;2R012;2R013;2R014;2R015;2R016;2R016A
132C4 0EGYPTIAN HIEROGLYPH R017;2R018;2R019;2R020;2R021;2R022;2R023;2R024;2R025;2R026;2R027;2R028
132D0 0EGYPTIAN HIEROGLYPH R029;2S001;2S002;2S002A;2S003;2S004;2S005;2S006;2S006A;2S007;2S008;2S009
132DC 0EGYPTIAN HIEROGLYPH S010;2S011;2S012;2S013;2S014;2S014A;2S014B;2S015;2S016;2S017;2S017A
132E7 0EGYPTIAN HIEROGLYPH S018;2S019;2S020;2S021;2S022;2S023;2S024;2S025;2S026;2S026A;2S026B;2S027
132F3 0EGYPTIAN HIEROGLYPH S028;2S029;2S030;2S031;2S032;2S033;2S034;2S035;2S035A;2S036;2S037;2S038
132FF 0EGYPTIAN HIEROGLYPH S039;2S040;2S041;2S042;2S043;2S044;2S045;2S046;2T001;2T002;2T003;2T003A
1330B 0EGYPTIAN HIEROGLYPH T004;2T005;2T006;2T007;2T007A;2T008;2T008A;2T009;2T009A;2T010;2T011
13316 0EGYPTIAN HIEROGLYPH T011A;2T012;2T013;2T014;2T015;2T016;2T016A;2T017;2T018;2T019;2T020;2T021
13322 0EGYPTIAN HIEROGLYPH T022;2T023;2T024;2T025;2T026;2T027;2T028;2T029;2T030;2T031;2T032;2T032A
1332E 0EGYPTIAN HIEROGLYPH T033;2T033A;2T034;2T035;2T036;2U001;2U002;2U003;2U004;2U005;2U006;2U006A
1333A 0EGYPTIAN HIEROGLYPH U006B;2U007;2U008;2U009;2U010;2U011;2U012;2U013;2U014;2U015;2U016;2U017
13346 0EGYPTIAN HIEROGLYPH U018;2U019;2U020;2U021;2U022;2U023;2U023A;2U024;2U025;2U026;2U027;2U028
13352 0EGYPTIAN HIEROGLYPH U029;2U029A;2U030;2U031;2U032;2U032A;2U033;2U034;2U035;2U036;2U037;2U038
1335E 0EGYPTIAN HIEROGLYPH U039;2U040;2U041;2U042;2V001;2V001A;2V001B;2V001C;2V001D;2V001E;2V001F
13369 0EGYPTIAN HIEROGLYPH V001G;2V001H;2V001I;2V002;2V002A;2V003;2V004;2V005;2V006;2V007;2V007A
13374 0EGYPTIAN HIEROGLYPH V007B;2V008;2V009;2V010;2V011;2V011A;2V011B;2V011C;2V012;2V012A;2V012B
1337F 0EGYPTIAN HIEROGLYPH V013;2V014;2V015;2V016;2V017;2V018;2V019;2V020;2V020A;2V020B;2V020C
1338A 0EGYPTIAN HIEROGLYPH V020D;2V020E;2V020F;2V020G;2V020H;2V020I;2V020J;2V020K;2V020L;2V021
13394 0EGYPTIAN HIEROGLYPH V022;2V023;2V023A;2V024;2V025;2V026;2V027;2V028;2V028A;2V029;2V029A
1339F 0EGYPTIAN HIEROGLYPH V030;2V030A;2V031;2V031A;2V032;2V033;2V033A;2V034;2V035;2V036;2V037
133AA 0EGYPTIAN HIEROGLYPH V037A;2V038;2V039;2V040;2V040A;2W001;2W002;2W003;2W003A;2W004;2W005
133B5 0EGYPTIAN HIEROGLYPH W006;2W007;2W008;2W009;2W009A;2W010;2W010A;2W011;2W012;2W013;2W014
133C0 0EGYPTIAN HIEROGLYPH W014A;2W015;2W016;2W017;2W017A;2W018;2W018A;2W019;2W020;2W021;2W022
133CB 0EGYPTIAN HIEROGLYPH W023;2W024;2W024A;2W025;2X001;2X002;2X003;2X004;2X004A;2X004B;2X005
133D6 0EGYPTIAN HIEROGLYPH X006;2X006A;2X007;2X008;2X008A;2Y001;2Y001A;2Y002;2Y003;2Y004;2Y005
133E1 0EGYPTIAN HIEROGLYPH Y006;2Y007;2Y008;2Z001;2Z002;2Z002A;2Z002B;2Z002C;2Z002D;2Z003;2Z003A
133EC 0EGYPTIAN HIEROGLYPH Z003B;2Z004;2Z004A;2Z005;2Z005A;2Z006;2Z007;2Z008;2Z009;2Z010;2Z011
133F7 0EGYPTIAN HIEROGLYPH Z012;2Z013;2Z014;2Z015;2Z015A;2Z015B;2Z015C;2Z015D;2Z015E;2Z015F;2Z015G
13402 0EGYPTIAN HIEROGLYPH Z015H;2Z015I;2Z016;2Z016A;2Z016B;2Z016C;2Z016D;2Z016E;2Z016F;2Z016G
1340C 0EGYPTIAN HIEROGLYPH Z016H;2AA001;2AA002;2AA003;2AA004;2AA005;2AA006;2AA007;2AA007A;2AA007B
13416 0EGYPTIAN HIEROGLYPH AA008;2AA009;2AA010;2AA011;2AA012;2AA013;2AA014;2AA015;2AA016;2AA017
13420 0EGYPTIAN HIEROGLYPH AA018;2AA019;2AA020;2AA021;2AA022;2AA023;2AA024;2AA025;2AA026;2AA027
1342A 0EGYPTIAN HIEROGLYPH AA028;2AA029;2AA030;2AA031;2AA032
13430 0EGYPTIAN HIEROGLYPH VERTICAL JOINER;2HORIZONTAL JOINER;2INSERT AT TOP START;4BOTTOM START
13434 0EGYPTIAN HIEROGLYPH INSERT AT TOP END;4BOTTOM END;2OVERLAY MIDDLE;2BEGIN SEGMENT
13438 0EGYPTIAN HIEROGLYPH END SEGMENT
14400 0ANATOLIAN HIEROGLYPH A001;2A002;2A003;2A004;2A005;2A006;2A007;2A008;2A009;2A010;2A010A;2A011
1440C 0ANATOLIAN HIEROGLYPH A012;2A013;2A014;2A015;2A016;2A017;2A018;2A019;2A020;2A021;2A022;2A023
14418 0ANATOLIAN HIEROGLYPH A024;2A025;2A026;2A026A;2A027;2A028;2A029;2A030;2A031;2A032;2A033;2A034
14424 0ANATOLIAN HIEROGLYPH A035;2A036;2A037;2A038;2A039;2A039A;2A040;2A041;2A041A;2A042;2A043
1442F 0ANATOLIAN HIEROGLYPH A044;2A045;2A045A;2A046;2A046A;2A046B;2A047;2A048;2A049;2A050;2A051
1443A 0ANATOLIAN HIEROGLYPH A052;2A053;2A054;2A055;2A056;2A057;2A058;2A059;2A060;2A061;2A062;2A063
14446 0ANATOLIAN HIEROGLYPH A064;2A065;2A066;2A066A;2A066B;2A066C;2A067;2A068;2A069;2A070;2A071
14451 0ANATOLIAN HIEROGLYPH A072;2A073;2A074;2A075;2A076;2A077;2A078;2A079;2A080;2A081;2A082;2A083
1445D 0ANATOLIAN HIEROGLYPH A084;2A085;2A086;2A087;2A088;2A089;2A090;2A091;2A092;2A093;2A094;2A095
14469 0ANATOLIAN HIEROGLYPH A096;2A097;2A097A;2A098;2A098A;2A099;2A100;2A100A;2A101;2A101A;2A102
14474 0ANATOLIAN HIEROGLYPH A102A;2A103;2A104;2A104A;2A104B;2A104C;2A105;2A105A;2A105B;2A106;2A107
1447F 0ANATOLIAN HIEROGLYPH A107A;2A107B;2A107C;2A108;2A109;2A110;2A110A;2A110B;2A111;2A112;2A113
1448A 0ANATOLIAN HIEROGLYPH A114;2A115;2A115A;2A116;2A117;2A118;2A119;2A120;2A121;2A122;2A123;2A124
14496 0ANATOLIAN HIEROGLYPH A125;2A125A;2A126;2A127;2A128;2A129;2A130;2A131;2A132;2A133;2A134;2A135
144A2 0ANATOLIAN HIEROGLYPH A135A;2A136;2A137;2A138;2A139;2A140;2A141;2A142;2A143;2A144;2A145;2A146
144AE 0ANATOLIAN HIEROGLYPH A147;2A148;2A149;2A150;2A151;2A152;2A153;2A154;2A155;2A156;2A157;2A158
144BA 0ANATOLIAN HIEROGLYPH A159;2A160;2A161;2A162;2A163;2A164;2A165;2A166;2A167;2A168;2A169;2A170
144C6 0ANATOLIAN HIEROGLYPH A171;2A172;2A173;2A174;2A175;2A176;2A177;2A178;2A179;2A180;2A181;2A182
144D2 0ANATOLIAN HIEROGLYPH A183;2A184;2A185;2A186;2A187;2A188;2A189;2A190;2A191;2A192;2A193;2A194
144DE 0ANATOLIAN HIEROGLYPH A195;2A196;2A197;2A198;2A199;2A200;2A201;2A202;2A202A;2A202B;2A203
144E9 0ANATOLIAN HIEROGLYPH A204;2A205;2A206;2A207;2A207A;2A208;2A209;2A209A;2A210;2A211;2A212
144F4 0ANATOLIAN HIEROGLYPH A213;2A214;2A215;2A215A;2A216;2A216A;2A217;2A218;2A219;2A220;2A221
144FF 0ANATOLIAN HIEROGLYPH A222;2A223;2A224;2A225;2A226;2A227;2A227A;2A228;2A229;2A230;2A231;2A232
1450B 0ANATOLIAN HIEROGLYPH A233;2A234;2A235;2A236;2A237;2A238;2A239;2A240;2A241;2A242;2A243;2A244
14517 0ANATOLIAN HIEROGLYPH A245;2A246;2A247;2A248;2A249;2A250;2A251;2A252;2A253;2A254;2A255;2A256
14523 0ANATOLIAN HIEROGLYPH A257;2A258;2A259;2A260;2A261;2A262;2A263;2A264;2A265;2A266;2A267;2A267A
1452F 0ANATOLIAN HIEROGLYPH A268;2A269;2A270;2A271;2A272;2A273;2A274;2A275;2A276;2A277;2A278;2A279
1453B 0ANATOLIAN HIEROGLYPH A280;2A281;2A282;2A283;2A284;2A285;2A286;2A287;2A288;2A289;2A289A;2A290
14547 0ANATOLIAN HIEROGLYPH A291;2A292;2A293;2A294;2A294A;2A295;2A296;2A297;2A298;2A299;2A299A
14552 0ANATOLIAN HIEROGLYPH A300;2A301;2A302;2A303;2A304;2A305;2A306;2A307;2A308;2A309;2A309A;2A310
1455E 0ANATOLIAN HIEROGLYPH A311;2A312;2A313;2A314;2A315;2A316;2A317;2A318;2A319;2A320;2A321;2A322
1456A 0ANATOLIAN HIEROGLYPH A323;2A324;2A325;2A326;2A327;2A328;2A329;2A329A;2A330;2A331;2A332A
14575 0ANATOLIAN HIEROGLYPH A332B;2A332C;2A333;2A334;2A335;2A336;2A336A;2A336B;2A336C;2A337;2A338
14580 0ANATOLIAN HIEROGLYPH A339;2A340;2A341;2A342;2A343;2A344;2A345;2A346;2A347;2A348;2A349;2A350
1458C 0ANATOLIAN HIEROGLYPH A351;2A352;2A353;2A354;2A355;2A356;2A357;2A358;2A359;2A359A;2A360;2A361
14598 0ANATOLIAN HIEROGLYPH A362;2A363;2A364;2A364A;2A365;2A366;2A367;2A368;2A368A;2A369;2A370
145A3 0ANATOLIAN HIEROGLYPH A371;2A371A;2A372;2A373;2A374;2A375;2A376;2A377;2A378;2A379;2A380;2A381
145AF 0ANATOLIAN HIEROGLYPH A381A;2A382;2A383 RA OR RI;2A383A;2A384;2A385;2A386;2A386A;2A387;2A388
145B9 0ANATOLIAN HIEROGLYPH A389;2A390;2A391;2A392;2A393 EIGHT;2A394;2A395;2A396;2A397;2A398;2A399
145C4 0ANATOLIAN HIEROGLYPH A400;2A401;2A402;2A403;2A404;2A405;2A406;2A407;2A408;2A409
145CE 0ANATOLIAN HIEROGLYPH A410 BEGIN LOGOGRAM MARK;2A410A END LOGOGRAM MARK;2A411;2A412;2A413
145D3 0ANATOLIAN HIEROGLYPH A414;2A415;2A416;2A417;2A418;2A419;2A420;2A421;2A422;2A423;2A424;2A425
145DF 0ANATOLIAN HIEROGLYPH A426;2A427;2A428;2A429;2A430;2A431;2A432;2A433;2A434;2A435;2A436;2A437
145EB 0ANATOLIAN HIEROGLYPH A438;2A439;2A440;2A441;2A442;2A443;2A444;2A445;2A446;2A447;2A448;2A449
145F7 0ANATOLIAN HIEROGLYPH A450;2A450A;2A451;2A452;2A453;2A454;2A455;2A456;2A457;2A457A;2A458
14602 0ANATOLIAN HIEROGLYPH A459;2A460;2A461;2A462;2A463;2A464;2A465;2A466;2A467;2A468;2A469;2A470
1460E 0ANATOLIAN HIEROGLYPH A471;2A472;2A473;2A474;2A475;2A476;2A477;2A478;2A479;2A480;2A481;2A482
1461A 0ANATOLIAN HIEROGLYPH A483;2A484;2A485;2A486;2A487;2A488;2A489;2A490;2A491;2A492;2A493;2A494
14626 0ANATOLIAN HIEROGLYPH A495;2A496;2A497;2A501;2A502;2A503;2A504;2A505;2A506;2A507;2A508;2A509
14632 0ANATOLIAN HIEROGLYPH A510;2A511;2A512;2A513;2A514;2A515;2A516;2A517;2A518;2A519;2A520;2A521
1463E 0ANATOLIAN HIEROGLYPH A522;2A523;2A524;2A525;2A526;2A527;2A528;2A529;2A530
16800 0BAMUM LETTER PHASE-A NGKUE MFON;3GBIEE FON;3PON MFON PIPAEMGBIEE;5PIPAEMBA;3NAA MFON
16805 0BAMUM LETTER PHASE-A SHUENSHUET;3TITA MFON;3NZA MFON;3SHINDA PA NJI;3PON PA NJI PIPAEMGBIEE
1680A 0BAMUM LETTER PHASE-A PON PA NJI PIPAEMBA;3MAEMBGBIEE;3TU MAEMBA;3NGANGU;3MAEMVEUX;3MANSUAE
16810 0BAMUM LETTER PHASE-A MVEUAENGAM;3SEUNYAM;3NTOQPEN;3KEUKEUTNDA;3NKINDI;3SUU;3NGKUENZEUM
16817 0BAMUM LETTER PHASE-A LAPAQ;3LET KUT;3NTAP MFAA;3MAEKEUP;3PASHAE;3GHEUAERAE;3PAMSHAE
1681E 0BAMUM LETTER PHASE-A MON NGGEUAET;3NZUN MEUT;3U YUQ NAE;3GHEUAEGHEUAE;3NTAP NTAA;3SISA
16824 0BAMUM LETTER PHASE-A MGBASA;3MEUNJOMNDEUQ;3MOOMPUQ;3KAFA;3PA LEERAEWA;3NDA LEERAEWA;3PET
1682B 0BAMUM LETTER PHASE-A MAEMKPEN;3NIKA;3PUP;3TUAEP;3LUAEP;3SONJAM;3TEUTEUWEN;3MAENYI;3KET
16834 0BAMUM LETTER PHASE-A NDAANGGEUAET;3KUOQ;3MOOMEUT;3SHUM;3LOMMAE;3FIRI;3ROM;3KPOQ;3SOQ
1683D 0BAMUM LETTER PHASE-A MAP PIEET;3SHIRAE;3NTAP;3SHOQ NSHUT YUM;3NYIT MONGKEUAEQ;3PAARAE
16843 0BAMUM LETTER PHASE-A NKAARAE;3UNKNOWN;3NGGEN;3MAESI;3NJAM;3MBANYI;3NYET;3TEUAEN;3SOT;3PAAM
1684D 0BAMUM LETTER PHASE-A NSHIEE;3MAEM;3NYI;3KAQ;3NSHA;3VEE;3LU;3NEN;3NAQ;3MBAQ;2PHASE-B NSHUET
16858 0BAMUM LETTER PHASE-B TU MAEMGBIEE;3SIEE;3SET TU;3LOM NTEUM;3MBA MAELEE;3KIEEM;3YEURAE
1685F 0BAMUM LETTER PHASE-B MBAARAE;3KAM;3PEESHI;3YAFU LEERAEWA;3LAM NSHUT NYAM;3NTIEE SHEUOQ
16865 0BAMUM LETTER PHASE-B NDU NJAA;3GHEUGHEUAEM;3PIT;3TU NSIEE;3SHET NJAQ;3SHEUAEQTU;3MFON TEUAEQ
1686C 0BAMUM LETTER PHASE-B MBIT MBAAKET;3NYI NTEUM;3KEUPUQ;3GHEUGHEN;3KEUYEUX;3LAANAE;3PARUM;3VEUM
16874 0BAMUM LETTER PHASE-B NGKINDI MVOP;3NGGEU MBU;3WUAET;3SAKEUAE;3TAAM;3MEUQ;3NGGUOQ;4LARGE
1687C 0BAMUM LETTER PHASE-B MFIYAQ;3SUE;3MBEURI;3MONTIEEN;3NYAEMAE;3PUNGAAM;3MEUT NGGEET;3FEUX
16884 0BAMUM LETTER PHASE-B MBUOQ;3FEE;3KEUAEM;3MA NJEUAENA;4NJUQA;3LET;3NGGAAM;3NSEN;3MA;3KIQ
1688E 0BAMUM LETTER PHASE-B NGOM;2PHASE-C NGKUE MAEMBA;3NZA;3YUM;3WANGKUOQ;3NGGEN;3NDEUAEREE;3NGKAQ
16896 0BAMUM LETTER PHASE-C GHARAE;3MBEEKEET;3GBAYI;3NYIR MKPARAQ MEUN;3NTU MBIT;3MBEUM;3PIRIEEN
1689D 0BAMUM LETTER PHASE-C NDOMBU;3MBAA CABBAGE-TREE;3KEUSHEUAEP;3GHAP;3KEUKAQ;3YU MUOMAE;3NZEUM
168A4 0BAMUM LETTER PHASE-C MBUE;3NSEUAEN;3MBIT;3YEUQ;3KPARAQ;3KAA;3SEUX;3NDIDA;3TAASHAE;3NJUEQ
168AE 0BAMUM LETTER PHASE-C TITA YUE;3SUAET;3NGGUAEN NYAM;3VEUX;3NANSANAQ;3MA KEUAERI;3NTAA;3NGGUON
168B6 0BAMUM LETTER PHASE-C LAP;3MBIRIEEN;3MGBASAQ;3NTEUNGBA;3TEUTEUX;3NGGUM;3FUE;3NDEUT;3NSA
168BF 0BAMUM LETTER PHASE-C NSHAQ;3BUNG;3VEUAEPEN;3MBERAE;3RU;3NJAEM;3LAM;3TITUAEP;3NSUOT NGOM
168C8 0BAMUM LETTER PHASE-C NJEEEE;3KET;3NGGU;3MAESI;3MBUAEM;3LU;3KUT;3NJAM;3NGOM;3WUP;3NGGUEET
168D3 0BAMUM LETTER PHASE-C NSOM;3NTEN;3KUOP NKAARAE;3NSUN;3NDAM;3MA NSIEE;3YAA;3NDAP;3SHUEQ
168DC 0BAMUM LETTER PHASE-C SETFON;3MBI;3MAEMBA;3MBANYI;3KEUSEUX;3MBEUX;3KEUM;3MBAA PICKET;3YUWOQ
168E5 0BAMUM LETTER PHASE-C NJEUX;3MIEE;3MUAE;3SHIQ;3KEN LAW;4FATIGUE;3NGAQ;3NAQ;3LIQ;3PIN;3PEN
168F0 0BAMUM LETTER PHASE-C TET;2PHASE-D MBUO;3WAP;3NJI;3MFON;3NJIEE;3LIEE;3NJEUT;3NSHEE;3NGGAAMAE
168FA 0BAMUM LETTER PHASE-D NYAM;3WUAEN;3NGKUN;3SHEE;3NGKAP;3KEUAETMEUN;3TEUT;3SHEUAE;3NJAP;3SUE
16904 0BAMUM LETTER PHASE-D KET;3YAEMMAE;3KUOM;3SAP;3MFEUT;3NDEUX;3MALEERI;3MEUT;3SEUAEQ;3YEN
1690E 0BAMUM LETTER PHASE-D NJEUAEM;3KEUOT MBUAE;3NGKEURI;3TU;3GHAA;3NGKYEE;3FEUFEUAET;3NDEE
16916 0BAMUM LETTER PHASE-D MGBOFUM;3LEUAEP;3NDON;3MONI;3MGBEUN;3PUUT;3MGBIEE;3MFO;3LUM;3NSIEEP
16920 0BAMUM LETTER PHASE-D MBAA;3KWAET;3NYET;3TEUAEN;3SOT;3YUWOQ;3KEUM;3RAEM;3TEEEE;3NGKEUAEQ
1692A 0BAMUM LETTER PHASE-D MFEUAE;3NSIEET;3KEUP;3PIP;3PEUTAE;3NYUE;3LET;3NGGAAM;3MFIEE;3NGGWAEN
16934 0BAMUM LETTER PHASE-D YUOM;3PAP;3YUOP;3NDAM;3NTEUM;3SUAE;3KUN;3NGGEUX;3NGKIEE;3TUOT;3MEUN
1693F 0BAMUM LETTER PHASE-D KUQ;3NSUM;3TEUN;3MAENJET;3NGGAP;3LEUM;3NGGUOM;3NSHUT;3NJUEQ;3GHEUAE;3KU
1694A 0BAMUM LETTER PHASE-D REN OLD;3TAE;3TOQ;3NYI;3RII;3LEEEE;3MEEEE;3M;3SUU;3MU;3SHII;3SHEUX
16956 0BAMUM LETTER PHASE-D KYEE;3NU;3SHU;3NTEE;3PEE;3NI;3SHOQ;3PUQ;3MVOP;3LOQ;3REN MUCH;3TI;3NTUU
16963 0BAMUM LETTER PHASE-D MBAA SEVEN;3SAQ;3FAA;2PHASE-E NDAP;3TOON;3MBEUM;3LAP;3VOM;3LOON;3PAA
1696D 0BAMUM LETTER PHASE-E SOM;3RAQ;3NSHUOP;3NDUN;3PUAE;3TAM;3NGKA;3KPEUX;3WUO;3SEE;3NGGEUAET
16978 0BAMUM LETTER PHASE-E PAAM;3TOO;3KUOP;3LOM;3NSHIEE;3NGOP;3MAEM;3NGKEUX;3NGOQ;3NSHUE;3RIMGBA
16983 0BAMUM LETTER PHASE-E NJEUX;3PEEM;3SAA;3NGGURAE;3MGBA;3GHEUX;3NGKEUAEM;3NJAEMLI;3MAP;3LOOT
1698D 0BAMUM LETTER PHASE-E NGGEEEE;3NDIQ;3TAEN NTEUM;3SET;3PUM;3NDAA SOFTNESS;3NGGUAESHAE NYAM
16994 0BAMUM LETTER PHASE-E YIEE;3GHEUN;3TUAE;3YEUAE;3PO;3TUMAE;3KEUAE;3SUAEN;3TEUAEQ;3VEUAE;3WEUX
1699F 0BAMUM LETTER PHASE-E LAAM;3PU;3TAAQ;3GHAAMAE;3NGEUREUT;3SHEUAEQ;3MGBEN;3MBEE;3NZAQ;3NKOM
169A9 0BAMUM LETTER PHASE-E GBET;3TUM;3KUET;3YAP;3NYI CLEAVER;3YIT;3MFEUQ;3NDIAQ;3PIEEQ;3YUEQ
169B3 0BAMUM LETTER PHASE-E LEUAEM;3FUE;3GBEUX;3NGKUP;3KET;3MAE;3NGKAAMI;3GHET;3FA;3NTUM;3PEUT
169BE 0BAMUM LETTER PHASE-E YEUM;3NGGEUAE;3NYI BETWEEN;3NZUQ;3POON;3MIEE;3FUET;3NAE;3MUAE;3GHEUAE
169C8 0BAMUM LETTER PHASE-E FU I;3MVI;3PUAQ;3NGKUM;3KUT;3PIET;3NTAP;3YEUAET;3NGGUP;3PA PEOPLE
169D2 0BAMUM LETTER PHASE-E FU CALL;3FOM;3NJEE;3A;3TOQ;3O;3I;3LAQ;3PA PLURAL;3TAA;3TAQ
169DD 0BAMUM LETTER PHASE-E NDAA MY HOUSE;3SHIQ;3YEUX;3NGUAE;3YUAEN;3YOQ SWIMMING;4COVER;3YUQ;3YUN
169E6 0BAMUM LETTER PHASE-E KEUX;3PEUX;3NJEE EPOCH;3PUE;3WUE;3FEE;3VEE;3LU;3MI;3REUX;3RAE;3NGUAET
169F2 0BAMUM LETTER PHASE-E NGA;3SHO;3SHOQ;3FU REMEDY;3NA;3PI;3LOQ;3KO;3MEN;3MA;3MAQ;3TEU;3KI;3MON
16A00 0BAMUM LETTER PHASE-E TEN;3FAQ;3GHOM;2PHASE-F KA;3U;3KU;3EE;3REE;3TAE;3NYI;3LA;3RII;3RIEE
16A0D 0BAMUM LETTER PHASE-F MEEEE;3TAA;3NDAA;3NJAEM;3M;3SUU;3SHII;3SI;3SEUX;3KYEE;3KET;3NUAE;3NU
16A1A 0BAMUM LETTER PHASE-F NJUAE;3YOQ;3SHU;3YA;3NSHA;3PEUX;3NTEE;3WUE;3PEE;3RU;3NI;3REUX;3KEN
16A27 0BAMUM LETTER PHASE-F NGKWAEN;3NGGA;3SHO;3PUAE;3FOM;3WA;3LI;3LOQ;3KO;3MBEN;3REN;3MA;3MO;3MBAA
16A35 0BAMUM LETTER PHASE-F TET;3KPA;3SAMBA;3VUEQ
16A40 0MRO LETTER TA;2NGI;2YO;2MIM;2BA;2DA;2A;2PHI;2KHAI;2HAO;2DAI;2CHU;2KEAAE;2OL;2MAEM;2NIN;2PA
16A51 0MRO LETTER OO;2O;2RO;2SHI;2THEA;2EA;2WA;2E;2KO;2LAN;2LA;2HAI;2RI;2TEK
16A60 0MRO DIGIT ZERO;2ONE;2TWO;2THREE;2FOUR;2FIVE;2SIX;2SEVEN;2EIGHT;2NINE
16A6E 0MRO DANDA;1DOUBLE DANDA;0TANGSA LETTER OZ;2OC;2OQ;2OX;2AZ;2AC;2AQ;2AX;2VZ;2VC;2VQ;2VX;2EZ
16A7D 0TANGSA LETTER EC;2EQ;2EX;2IZ;2IC;2IQ;2IX;2UZ;2UC;2UQ;2UX;2AWZ;2AWC;2AWQ;2AWX;2UIZ;2UIC;2UIQ
16A8F 0TANGSA LETTER UIX;2FINAL NG;2LONG UEX;2SHORT UEZ;3AWX;2UEC;2UEZ;2UEQ;2UEX;2UIUZ;2UIUC;2UIUQ
16A9B 0TANGSA LETTER UIUX;2MZ;2MC;2MQ;2MX;2KA;2KHA;2GA;2NGA;2SA;2YA;2WA;2PA;2NYA;2PHA;2BA;2MA;2NA
16AAD 0TANGSA LETTER HA;2LA;2HTA;2TA;2DA;2RA;2NHA;2SHA;2CA;2TSA;2GHA;2HTTA;2THA;2XA;2FA;2DHA;2CHA
16ABE 0TANGSA LETTER ZA
16AC0 0TANGSA DIGIT ZERO;2ONE;2TWO;2THREE;2FOUR;2FIVE;2SIX;2SEVEN;2EIGHT;2NINE
16AD0 0BASSA VAH LETTER ENNI;3KA;3SE;3FA;3MBE;3YIE;3GAH;3DHII;3KPAH;3JO;3HWAH;3WA;3ZO;3GBU;3DO;3CE
16AE0 0BASSA VAH LETTER UWU;3TO;3BA;3VU;3YEIN;3PA;3WADDA;3A;3O;3OO;3U;3EE;3E;3I
16AF0 0BASSA VAH COMBINING HIGH TONE;3LOW TONE;3MID TONE;3LOW-MID TONE;3HIGH-LOW TONE;2FULL STOP
16B00 0PAHAWH HMONG VOWEL KEEB;3KEEV;3KIB;3KIV;3KAUB;3KAUV;3KUB;3KUV;3KEB;3KEV;3KAIB;3KAIV;3KOOB
16B0D 0PAHAWH HMONG VOWEL KOOV;3KAWB;3KAWV;3KUAB;3KUAV;3KOB;3KOV;3KIAB;3KIAV;3KAB;3KAV;3KWB;3KWV
16B1A 0PAHAWH HMONG VOWEL KAAB;3KAAV;2CONSONANT VAU;3NTSAU;3LAU;3HAU;3NLAU;3RAU;3NKAU;3QHAU;3YAU
16B25 0PAHAWH HMONG CONSONANT HLAU;3MAU;3CHAU;3NCHAU;3HNAU;3PLHAU;3NTHAU;3NAU;3AU;3XAU;3CAU
16B30 0PAHAWH HMONG MARK CIM TUB;4SO;4KES;4KHAV;4SUAM;4HOM;4TAUM;2SIGN VOS THOM;4TSHAB CEEB
16B39 0PAHAWH HMONG SIGN CIM CHEEM;3VOS THIAB;4FEEM;3XYEEM NTXIV;4RHO;4TOV;4FAIB;3VOS SEEV
16B41 0PAHAWH HMONG SIGN MEEJ SUAB;3VOS NRUA;3IB YAM;3XAUS;3CIM TSOV ROG
16B50 0PAHAWH HMONG DIGIT ZERO;3ONE;3TWO;3THREE;3FOUR;3FIVE;3SIX;3SEVEN;3EIGHT;3NINE
16B5B 0PAHAWH HMONG NUMBER TENS;3HUNDREDS;3TEN THOUSANDS;3MILLIONS;3HUNDRED MILLIONS;3TEN BILLIONS
16B61 0PAHAWH HMONG NUMBER TRILLIONS
16B63 0PAHAWH HMONG SIGN VOS LUB;3XYOO;3HLI;3THIRD-STAGE HLI;3ZWJ THAJ;3HNUB;3NQIG;3XIAB;3NTUJ;3AV
16B6D 0PAHAWH HMONG SIGN TXHEEJ CEEV;3MEEJ TSEEB;3TAU;3LOS;3MUS;3CIM HAIS LUS NTOG NTOG
16B73 0PAHAWH HMONG SIGN CIM CUAM TSHOOJ;4TXWV;5CHWV;4PUB DAWB;4NRES TOS
16B7D 0PAHAWH HMONG CLAN SIGN TSHEEJ;4YEEG;4LIS;4LAUJ;4XYOOJ;4KOO;4HAWJ;4MUAS;4THOJ;4TSAB;4PHAB
16B88 0PAHAWH HMONG CLAN SIGN KHAB;4HAM;4VAJ;4FAJ;4YAJ;4TSWB;4KWM;4VWJ
16E40 0MEDEFAIDRIN CAPITAL LETTER M;3S;3V;3W;3ATIU;3Z;3KP;3P;3T;3G;3F;3I;3K;3A;3J;3E;3B;3C;3U;3YU
16E54 0MEDEFAIDRIN CAPITAL LETTER L;3Q;3HP;3NY;3X;3D;3OE;3N;3R;3O;3AI;3Y;1SMALL LETTER M;3S;3V;3W
16E64 0MEDEFAIDRIN SMALL LETTER ATIU;3Z;3KP;3P;3T;3G;3F;3I;3K;3A;3J;3E;3B;3C;3U;3YU;3L;3Q;3HP;3NY
16E78 0MEDEFAIDRIN SMALL LETTER X;3D;3OE;3N;3R;3O;3AI;3Y;1DIGIT ZERO;2ONE;2TWO;2THREE;2FOUR;2FIVE
16E86 0MEDEFAIDRIN DIGIT SIX;2SEVEN;2EIGHT;2NINE;1NUMBER TEN;2ELEVEN;2TWELVE;2THIRTEEN;2FOURTEEN
16E8F 0MEDEFAIDRIN NUMBER FIFTEEN;2SIXTEEN;2SEVENTEEN;2EIGHTEEN;2NINETEEN;1DIGIT ONE ALTERNATE FORM
16E95 0MEDEFAIDRIN DIGIT TWO ALTERNATE FORM;2THREE ALTERNATE FORM;1COMMA;1FULL STOP;1SYMBOL AIVA
16E9A 0MEDEFAIDRIN EXCLAMATION OH
16F00 0MIAO LETTER PA;2BA;2YI PA;2PLA;2MA;2MHA;2ARCHAIC MA;2FA;2VA;2VFA;2TA;2DA;2YI TTA;3TA;2TTA
16F0F 0MIAO LETTER DDA;2NA;2NHA;2YI NNA;2ARCHAIC NA;2NNA;2NNHA;2LA;2LYA;2LHA;2LHYA;2TLHA;2DLHA
16F1C 0MIAO LETTER TLHYA;2DLHYA;2KA;2GA;2YI KA;2QA;2QGA;2NGA;2NGHA;2ARCHAIC NGA;2HA;2XA;2GHA;2GHHA
16F2A 0MIAO LETTER TSSA;2DZZA;2NYA;2NYHA;2TSHA;2DZHA;2YI TSHA;3DZHA;2REFORMED TSHA;2SHA;2SSA;2ZHA
16F36 0MIAO LETTER ZSHA;2TSA;2DZA;2YI TSA;2SA;2ZA;2ZSA;2ZZA;2ZZSA;2ARCHAIC ZZA;2ZZYA;2ZZSYA;2WA;2AH
16F44 0MIAO LETTER HHA;2BRI;2SYI;2DZYI;2TE;2TSE;2RTE
16F4F 0MIAO SIGN CONSONANT MODIFIER BAR;1LETTER NASALIZATION;1SIGN ASPIRATION;2REFORMED VOICING
16F53 0MIAO SIGN REFORMED ASPIRATION;1VOWEL SIGN A;3AA;3AHH;3AN;3ANG;3O;3OO;3WO;3W;3E;3EN;3ENG;3OEY
16F61 0MIAO VOWEL SIGN I;3IA;3IAN;3IANG;3IO;3IE;3II;3IU;3ING;3U;3UA;3UAN;3UANG;3UU;3UEI;3UNG;3Y;3YI
16F73 0MIAO VOWEL SIGN AE;3AEE;3ERR;3ROUNDED ERR;3ER;3ROUNDED ER;3AI;3EI;3AU;3OU;3N;3NG;3UOG;3YUI
16F81 0MIAO VOWEL SIGN OG;3OER;3VW;3IG;3EA;3IONG;3UI
16F8F 0MIAO TONE RIGHT;2TOP RIGHT;2ABOVE;2BELOW;1LETTER TONE-2;2TONE-3;2TONE-4;2TONE-5;2TONE-6
16F98 0MIAO LETTER TONE-7;2TONE-8;2REFORMED TONE-1;3TONE-2;3TONE-4;3TONE-5;3TONE-6;3TONE-8
16FE0 0TANGUT ITERATION MARK;0NUSHU ITERATION MARK;0OLD CHINESE HOOK MARK;2ITERATION MARK
16FE4 0KHITAN SMALL SCRIPT FILLER
16FF0 0VIETNAMESE ALTERNATE READING MARK CA;4NHAY
18800 0TANGUT COMPONENT-001;1COMPONENT-002;1COMPONENT-003;1COMPONENT-004;1COMPONENT-005
18805 0TANGUT COMPONENT-006;1COMPONENT-007;1COMPONENT-008;1COMPONENT-009;1COMPONENT-010
1880A 0TANGUT COMPONENT-011;1COMPONENT-012;1COMPONENT-013;1COMPONENT-014;1COMPONENT-015
1880F 0TANGUT COMPONENT-016;1COMPONENT-017;1COMPONENT-018;1COMPONENT-019;1COMPONENT-020
18814 0TANGUT COMPONENT-021;1COMPONENT-022;1COMPONENT-023;1COMPONENT-024;1COMPONENT-025
18819 0TANGUT COMPONENT-026;1COMPONENT-027;1COMPONENT-028;1COMPONENT-029;1COMPONENT-030
1881E 0TANGUT COMPONENT-031;1COMPONENT-032;1COMPONENT-033;1COMPONENT-034;1COMPONENT-035
18823 0TANGUT COMPONENT-036;1COMPONENT-037;1COMPONENT-038;1COMPONENT-039;1COMPONENT-040
18828 0TANGUT COMPONENT-041;1COMPONENT-042;1COMPONENT-043;1COMPONENT-044;1COMPONENT-045
1882D 0TANGUT COMPONENT-046;1COMPONENT-047;1COMPONENT-048;1COMPONENT-049;1COMPONENT-050
18832 0TANGUT COMPONENT-051;1COMPONENT-052;1COMPONENT-053;1COMPONENT-054;1COMPONENT-055
18837 0TANGUT COMPONENT-056;1COMPONENT-057;1COMPONENT-058;1COMPONENT-059;1COMPONENT-060
1883C 0TANGUT COMPONENT-061;1COMPONENT-062;1COMPONENT-063;1COMPONENT-064;1COMPONENT-065
18841 0TANGUT COMPONENT-066;1COMPONENT-067;1COMPONENT-068;1COMPONENT-069;1COMPONENT-070
18846 0TANGUT COMPONENT-071;1COMPONENT-072;1COMPONENT-073;1COMPONENT-074;1COMPONENT-075
1884B 0TANGUT COMPONENT-076;1COMPONENT-077;1COMPONENT-078;1COMPONENT-079;1COMPONENT-080
18850 0TANGUT COMPONENT-081;1COMPONENT-082;1COMPONENT-083;1COMPONENT-084;1COMPONENT-085
18855 0TANGUT COMPONENT-086;1COMPONENT-087;1COMPONENT-088;1COMPONENT-089;1COMPONENT-090
1885A 0TANGUT COMPONENT-091;1COMPONENT-092;1COMPONENT-093;1COMPONENT-094;1COMPONENT-095
1885F 0TANGUT COMPONENT-096;1COMPONENT-097;1COMPONENT-098;1COMPONENT-099;1COMPONENT-100
18864 0TANGUT COMPONENT-101;1COMPONENT-102;1COMPONENT-103;1COMPONENT-104;1COMPONENT-105
18869 0TANGUT COMPONENT-106;1COMPONENT-107;1COMPONENT-108;1COMPONENT-109;1COMPONENT-110
1886E 0TANGUT COMPONENT-111;1COMPONENT-112;1COMPONENT-113;1COMPONENT-114;1COMPONENT-115
18873 0TANGUT COMPONENT-116;1COMPONENT-117;1COMPONENT-118;1COMPONENT-119;1COMPONENT-120
18878 0TANGUT COMPONENT-121;1COMPONENT-122;1COMPONENT-123;1COMPONENT-124;1COMPONENT-125
1887D 0TANGUT COMPONENT-126;1COMPONENT-127;1COMPONENT-128;1COMPONENT-129;1COMPONENT-130
18882 0TANGUT COMPONENT-131;1COMPONENT-132;1COMPONENT-133;1COMPONENT-134;1COMPONENT-135
18887 0TANGUT COMPONENT-136;1COMPONENT-137;1COMPONENT-138;1COMPONENT-139;1COMPONENT-140
1888C 0TANGUT COMPONENT-141;1COMPONENT-142;1COMPONENT-143;1COMPONENT-144;1COMPONENT-145
18891 0TANGUT COMPONENT-146;1COMPONENT-147;1COMPONENT-148;1COMPONENT-149;1COMPONENT-150
18896 0TANGUT COMPONENT-151;1COMPONENT-152;1COMPONENT-153;1COMPONENT-154;1COMPONENT-155
1889B 0TANGUT COMPONENT-156;1COMPONENT-157;1COMPONENT-158;1COMPONENT-159;1COMPONENT-160
188A0 0TANGUT COMPONENT-161;1COMPONENT-162;1COMPONENT-163;1COMPONENT-164;1COMPONENT-165
188A5 0TANGUT COMPONENT-166;1COMPONENT-167;1COMPONENT-168;1COMPONENT-169;1COMPONENT-170
188AA 0TANGUT COMPONENT-171;1COMPONENT-172;1COMPONENT-173;1COMPONENT-174;1COMPONENT-175
188AF 0TANGUT COMPONENT-176;1COMPONENT-177;1COMPONENT-178;1COMPONENT-179;1COMPONENT-180
188B4 0TANGUT COMPONENT-181;1COMPONENT-182;1COMPONENT-183;1COMPONENT-184;1COMPONENT-185
188B9 0TANGUT COMPONENT-186;1COMPONENT-187;1COMPONENT-188;1COMPONENT-189;1COMPONENT-190
188BE 0TANGUT COMPONENT-191;1COMPONENT-192;1COMPONENT-193;1COMPONENT-194;1COMPONENT-195
188C3 0TANGUT COMPONENT-196;1COMPONENT-197;1COMPONENT-198;1COMPONENT-199;1COMPONENT-200
188C8 0TANGUT COMPONENT-201;1COMPONENT-202;1COMPONENT-203;1COMPONENT-204;1COMPONENT-205
188CD 0TANGUT COMPONENT-206;1COMPONENT-207;1COMPONENT-208;1COMPONENT-209;1COMPONENT-210
188D2 0TANGUT COMPONENT-211;1COMPONENT-212;1COMPONENT-213;1COMPONENT-214;1COMPONENT-215
188D7 0TANGUT COMPONENT-216;1COMPONENT-217;1COMPONENT-218;1COMPONENT-219;1COMPONENT-220
188DC 0TANGUT COMPONENT-221;1COMPONENT-222;1COMPONENT-223;1COMPONENT-224;1COMPONENT-225
188E1 0TANGUT COMPONENT-226;1COMPONENT-227;1COMPONENT-228;1COMPONENT-229;1COMPONENT-230
188E6 0TANGUT COMPONENT-231;1COMPONENT-232;1COMPONENT-233;1COMPONENT-234;1COMPONENT-235
188EB 0TANGUT COMPONENT-236;1COMPONENT-237;1COMPONENT-238;1COMPONENT-239;1COMPONENT-240
188F0 0TANGUT COMPONENT-241;1COMPONENT-242;1COMPONENT-243;1COMPONENT-244;1COMPONENT-245
188F5 0TANGUT COMPONENT-246;1COMPONENT-247;1COMPONENT-248;1COMPONENT-249;1COMPONENT-250
188FA 0TANGUT COMPONENT-251;1COMPONENT-252;1COMPONENT-253;1COMPONENT-254;1COMPONENT-255
188FF 0TANGUT COMPONENT-256;1COMPONENT-257;1COMPONENT-258;1COMPONENT-259;1COMPONENT-260
18904 0TANGUT COMPONENT-261;1COMPONENT-262;1COMPONENT-263;1COMPONENT-264;1COMPONENT-265
18909 0TANGUT COMPONENT-266;1COMPONENT-267;1COMPONENT-268;1COMPONENT-269;1COMPONENT-270
1890E 0TANGUT COMPONENT-271;1COMPONENT-272;1COMPONENT-273;1COMPONENT-274;1COMPONENT-275
18913 0TANGUT COMPONENT-276;1COMPONENT-277;1COMPONENT-278;1COMPONENT-279;1COMPONENT-280
18918 0TANGUT COMPONENT-281;1COMPONENT-282;1COMPONENT-283;1COMPONENT-284;1COMPONENT-285
1891D 0TANGUT COMPONENT-286;1COMPONENT-287;1COMPONENT-288;1COMPONENT-289;1COMPONENT-290
18922 0TANGUT COMPONENT-291;1COMPONENT-292;1COMPONENT-293;1COMPONENT-294;1COMPONENT-295
18927 0TANGUT COMPONENT-296;1COMPONENT-297;1COMPONENT-298;1COMPONENT-299;1COMPONENT-300
1892C 0TANGUT COMPONENT-301;1COMPONENT-302;1COMPONENT-303;1COMPONENT-304;1COMPONENT-305
18931 0TANGUT COMPONENT-306;1COMPONENT-307;1COMPONENT-308;1COMPONENT-309;1COMPONENT-310
18936 0TANGUT COMPONENT-311;1COMPONENT-312;1COMPONENT-313;1COMPONENT-314;1COMPONENT-315
1893B 0TANGUT COMPONENT-316;1COMPONENT-317;1COMPONENT-318;1COMPONENT-319;1COMPONENT-320
18940 0TANGUT COMPONENT-321;1COMPONENT-322;1COMPONENT-323;1COMPONENT-324;1COMPONENT-325
18945 0TANGUT COMPONENT-326;1COMPONENT-327;1COMPONENT-328;1COMPONENT-329;1COMPONENT-330
1894A 0TANGUT COMPONENT-331;1COMPONENT-332;1COMPONENT-333;1COMPONENT-334;1COMPONENT-335
1894F 0TANGUT COMPONENT-336;1COMPONENT-337;1COMPONENT-338;1COMPONENT-339;1COMPONENT-340
18954 0TANGUT COMPONENT-341;1COMPONENT-342;1COMPONENT-343;1COMPONENT-344;1COMPONENT-345
18959 0TANGUT COMPONENT-346;1COMPONENT-347;1COMPONENT-348;1COMPONENT-349;1COMPONENT-350
1895E 0TANGUT COMPONENT-351;1COMPONENT-352;1COMPONENT-353;1COMPONENT-354;1COMPONENT-355
18963 0TANGUT COMPONENT-356;1COMPONENT-357;1COMPONENT-358;1COMPONENT-359;1COMPONENT-360
18968 0TANGUT COMPONENT-361;1COMPONENT-362;1COMPONENT-363;1COMPONENT-364;1COMPONENT-365
1896D 0TANGUT COMPONENT-366;1COMPONENT-367;1COMPONENT-368;1COMPONENT-369;1COMPONENT-370
18972 0TANGUT COMPONENT-371;1COMPONENT-372;1COMPONENT-373;1COMPONENT-374;1COMPONENT-375
18977 0TANGUT COMPONENT-376;1COMPONENT-377;1COMPONENT-378;1COMPONENT-379;1COMPONENT-380
1897C 0TANGUT COMPONENT-381;1COMPONENT-382;1COMPONENT-383;1COMPONENT-384;1COMPONENT-385
18981 0TANGUT COMPONENT-386;1COMPONENT-387;1COMPONENT-388;1COMPONENT-389;1COMPONENT-390
18986 0TANGUT COMPONENT-391;1COMPONENT-392;1COMPONENT-393;1COMPONENT-394;1COMPONENT-395
1898B 0TANGUT COMPONENT-396;1COMPONENT-397;1COMPONENT-398;1COMPONENT-399;1COMPONENT-400
18990 0TANGUT COMPONENT-401;1COMPONENT-402;1COMPONENT-403;1COMPONENT-404;1COMPONENT-405
18995 0TANGUT COMPONENT-406;1COMPONENT-407;1COMPONENT-408;1COMPONENT-409;1COMPONENT-410
1899A 0TANGUT COMPONENT-411;1COMPONENT-412;1COMPONENT-413;1COMPONENT-414;1COMPONENT-415
1899F 0TANGUT COMPONENT-416;1COMPONENT-417;1COMPONENT-418;1COMPONENT-419;1COMPONENT-420
189A4 0TANGUT COMPONENT-421;1COMPONENT-422;1COMPONENT-423;1COMPONENT-424;1COMPONENT-425
189A9 0TANGUT COMPONENT-426;1COMPONENT-427;1COMPONENT-428;1COMPONENT-429;1COMPONENT-430
189AE 0TANGUT COMPONENT-431;1COMPONENT-432;1COMPONENT-433;1COMPONENT-434;1COMPONENT-435
189B3 0TANGUT COMPONENT-436;1COMPONENT-437;1COMPONENT-438;1COMPONENT-439;1COMPONENT-440
189B8 0TANGUT COMPONENT-441;1COMPONENT-442;1COMPONENT-443;1COMPONENT-444;1COMPONENT-445
189BD 0TANGUT COMPONENT-446;1COMPONENT-447;1COMPONENT-448;1COMPONENT-449;1COMPONENT-450
189C2 0TANGUT COMPONENT-451;1COMPONENT-452;1COMPONENT-453;1COMPONENT-454;1COMPONENT-455
189C7 0TANGUT COMPONENT-456;1COMPONENT-457;1COMPONENT-458;1COMPONENT-459;1COMPONENT-460
189CC 0TANGUT COMPONENT-461;1COMPONENT-462;1COMPONENT-463;1COMPONENT-464;1COMPONENT-465
189D1 0TANGUT COMPONENT-466;1COMPONENT-467;1COMPONENT-468;1COMPONENT-469;1COMPONENT-470
189D6 0TANGUT COMPONENT-471;1COMPONENT-472;1COMPONENT-473;1COMPONENT-474;1COMPONENT-475
189DB 0TANGUT COMPONENT-476;1COMPONENT-477;1COMPONENT-478;1COMPONENT-479;1COMPONENT-480
189E0 0TANGUT COMPONENT-481;1COMPONENT-482;1COMPONENT-483;1COMPONENT-484;1COMPONENT-485
189E5 0TANGUT COMPONENT-486;1COMPONENT-487;1COMPONENT-488;1COMPONENT-489;1COMPONENT-490
189EA 0TANGUT COMPONENT-491;1COMPONENT-492;1COMPONENT-493;1COMPONENT-494;1COMPONENT-495
189EF 0TANGUT COMPONENT-496;1COMPONENT-497;1COMPONENT-498;1COMPONENT-499;1COMPONENT-500
189F4 0TANGUT COMPONENT-501;1COMPONENT-502;1COMPONENT-503;1COMPONENT-504;1COMPONENT-505
189F9 0TANGUT COMPONENT-506;1COMPONENT-507;1COMPONENT-508;1COMPONENT-509;1COMPONENT-510
189FE 0TANGUT COMPONENT-511;1COMPONENT-512;1COMPONENT-513;1COMPONENT-514;1COMPONENT-515
18A03 0TANGUT COMPONENT-516;1COMPONENT-517;1COMPONENT-518;1COMPONENT-519;1COMPONENT-520
18A08 0TANGUT COMPONENT-521;1COMPONENT-522;1COMPONENT-523;1COMPONENT-524;1COMPONENT-525
18A0D 0TANGUT COMPONENT-526;1COMPONENT-527;1COMPONENT-528;1COMPONENT-529;1COMPONENT-530
18A12 0TANGUT COMPONENT-531;1COMPONENT-532;1COMPONENT-533;1COMPONENT-534;1COMPONENT-535
18A17 0TANGUT COMPONENT-536;1COMPONENT-537;1COMPONENT-538;1COMPONENT-539;1COMPONENT-540
18A1C 0TANGUT COMPONENT-541;1COMPONENT-542;1COMPONENT-543;1COMPONENT-544;1COMPONENT-545
18A21 0TANGUT COMPONENT-546;1COMPONENT-547;1COMPONENT-548;1COMPONENT-549;1COMPONENT-550
18A26 0TANGUT COMPONENT-551;1COMPONENT-552;1COMPONENT-553;1COMPONENT-554;1COMPONENT-555
18A2B 0TANGUT COMPONENT-556;1COMPONENT-557;1COMPONENT-558;1COMPONENT-559;1COMPONENT-560
18A30 0TANGUT COMPONENT-561;1COMPONENT-562;1COMPONENT-563;1COMPONENT-564;1COMPONENT-565
18A35 0TANGUT COMPONENT-566;1COMPONENT-567;1COMPONENT-568;1COMPONENT-569;1COMPONENT-570
18A3A 0TANGUT COMPONENT-571;1COMPONENT-572;1COMPONENT-573;1COMPONENT-574;1COMPONENT-575
18A3F 0TANGUT COMPONENT-576;1COMPONENT-577;1COMPONENT-578;1COMPONENT-579;1COMPONENT-580
18A44 0TANGUT COMPONENT-581;1COMPONENT-582;1COMPONENT-583;1COMPONENT-584;1COMPONENT-585
18A49 0TANGUT COMPONENT-586;1COMPONENT-587;1COMPONENT-588;1COMPONENT-589;1COMPONENT-590
18A4E 0TANGUT COMPONENT-591;1COMPONENT-592;1COMPONENT-593;1COMPONENT-594;1COMPONENT-595
18A53 0TANGUT COMPONENT-596;1COMPONENT-597;1COMPONENT-598;1COMPONENT-599;1COMPONENT-600
18A58 0TANGUT COMPONENT-601;1COMPONENT-602;1COMPONENT-603;1COMPONENT-604;1COMPONENT-605
18A5D 0TANGUT COMPONENT-606;1COMPONENT-607;1COMPONENT-608;1COMPONENT-609;1COMPONENT-610
18A62 0TANGUT COMPONENT-611;1COMPONENT-612;1COMPONENT-613;1COMPONENT-614;1COMPONENT-615
18A67 0TANGUT COMPONENT-616;1COMPONENT-617;1COMPONENT-618;1COMPONENT-619;1COMPONENT-620
18A6C 0TANGUT COMPONENT-621;1COMPONENT-622;1COMPONENT-623;1COMPONENT-624;1COMPONENT-625
18A71 0TANGUT COMPONENT-626;1COMPONENT-627;1COMPONENT-628;1COMPONENT-629;1COMPONENT-630
18A76 0TANGUT COMPONENT-631;1COMPONENT-632;1COMPONENT-633;1COMPONENT-634;1COMPONENT-635
18A7B 0TANGUT COMPONENT-636;1COMPONENT-637;1COMPONENT-638;1COMPONENT-639;1COMPONENT-640
18A80 0TANGUT COMPONENT-641;1COMPONENT-642;1COMPONENT-643;1COMPONENT-644;1COMPONENT-645
18A85 0TANGUT COMPONENT-646;1COMPONENT-647;1COMPONENT-648;1COMPONENT-649;1COMPONENT-650
18A8A 0TANGUT COMPONENT-651;1COMPONENT-652;1COMPONENT-653;1COMPONENT-654;1COMPONENT-655
18A8F 0TANGUT COMPONENT-656;1COMPONENT-657;1COMPONENT-658;1COMPONENT-659;1COMPONENT-660
18A94 0TANGUT COMPONENT-661;1COMPONENT-662;1COMPONENT-663;1COMPONENT-664;1COMPONENT-665
18A99 0TANGUT COMPONENT-666;1COMPONENT-667;1COMPONENT-668;1COMPONENT-669;1COMPONENT-670
18A9E 0TANGUT COMPONENT-671;1COMPONENT-672;1COMPONENT-673;1COMPONENT-674;1COMPONENT-675
18AA3 0TANGUT COMPONENT-676;1COMPONENT-677;1COMPONENT-678;1COMPONENT-679;1COMPONENT-680
18AA8 0TANGUT COMPONENT-681;1COMPONENT-682;1COMPONENT-683;1COMPONENT-684;1COMPONENT-685
18AAD 0TANGUT COMPONENT-686;1COMPONENT-687;1COMPONENT-688;1COMPONENT-689;1COMPONENT-690
18AB2 0TANGUT COMPONENT-691;1COMPONENT-692;1COMPONENT-693;1COMPONENT-694;1COMPONENT-695
18AB7 0TANGUT COMPONENT-696;1COMPONENT-697;1COMPONENT-698;1COMPONENT-699;1COMPONENT-700
18ABC 0TANGUT COMPONENT-701;1COMPONENT-702;1COMPONENT-703;1COMPONENT-704;1COMPONENT-705
18AC1 0TANGUT COMPONENT-706;1COMPONENT-707;1COMPONENT-708;1COMPONENT-709;1COMPONENT-710
18AC6 0TANGUT COMPONENT-711;1COMPONENT-712;1COMPONENT-713;1COMPONENT-714;1COMPONENT-715
18ACB 0TANGUT COMPONENT-716;1COMPONENT-717;1COMPONENT-718;1COMPONENT-719;1COMPONENT-720
18AD0 0TANGUT COMPONENT-721;1COMPONENT-722;1COMPONENT-723;1COMPONENT-724;1COMPONENT-725
18AD5 0TANGUT COMPONENT-726;1COMPONENT-727;1COMPONENT-728;1COMPONENT-729;1COMPONENT-730
18ADA 0TANGUT COMPONENT-731;1COMPONENT-732;1COMPONENT-733;1COMPONENT-734;1COMPONENT-735
18ADF 0TANGUT COMPONENT-736;1COMPONENT-737;1COMPONENT-738;1COMPONENT-739;1COMPONENT-740
18AE4 0TANGUT COMPONENT-741;1COMPONENT-742;1COMPONENT-743;1COMPONENT-744;1COMPONENT-745
18AE9 0TANGUT COMPONENT-746;1COMPONENT-747;1COMPONENT-748;1COMPONENT-749;1COMPONENT-750
18AEE 0TANGUT COMPONENT-751;1COMPONENT-752;1COMPONENT-753;1COMPONENT-754;1COMPONENT-755
18AF3 0TANGUT COMPONENT-756;1COMPONENT-757;1COMPONENT-758;1COMPONENT-759;1COMPONENT-760
18AF8 0TANGUT COMPONENT-761;1COMPONENT-762;1COMPONENT-763;1COMPONENT-764;1COMPONENT-765
18AFD 0TANGUT COMPONENT-766;1COMPONENT-767;1COMPONENT-768;0KHITAN SMALL SCRIPT CHARACTER-18B00
18B01 0KHITAN SMALL SCRIPT CHARACTER-18B01;3CHARACTER-18B02;3CHARACTER-18B03;3CHARACTER-18B04
18B05 0KHITAN SMALL SCRIPT CHARACTER-18B05;3CHARACTER-18B06;3CHARACTER-18B07;3CHARACTER-18B08
18B09 0KHITAN SMALL SCRIPT CHARACTER-18B09;3CHARACTER-18B0A;3CHARACTER-18B0B;3CHARACTER-18B0C
18B0D 0KHITAN SMALL SCRIPT CHARACTER-18B0D;3CHARACTER-18B0E;3CHARACTER-18B0F;3CHARACTER-18B10
18B11 0KHITAN SMALL SCRIPT CHARACTER-18B11;3CHARACTER-18B12;3CHARACTER-18B13;3CHARACTER-18B14
18B15 0KHITAN SMALL SCRIPT CHARACTER-18B15;3CHARACTER-18B16;3CHARACTER-18B17;3CHARACTER-18B18
18B19 0KHITAN SMALL SCRIPT CHARACTER-18B19;3CHARACTER-18B1A;3CHARACTER-18B1B;3CHARACTER-18B1C
18B1D 0KHITAN SMALL SCRIPT CHARACTER-18B1D;3CHARACTER-18B1E;3CHARACTER-18B1F;3CHARACTER-18B20
18B21 0KHITAN SMALL SCRIPT CHARACTER-18B21;3CHARACTER-18B22;3CHARACTER-18B23;3CHARACTER-18B24
18B25 0KHITAN SMALL SCRIPT CHARACTER-18B25;3CHARACTER-18B26;3CHARACTER-18B27;3CHARACTER-18B28
18B29 0KHITAN SMALL SCRIPT CHARACTER-18B29;3CHARACTER-18B2A;3CHARACTER-18B2B;3CHARACTER-18B2C
18B2D 0KHITAN SMALL SCRIPT CHARACTER-18B2D;3CHARACTER-18B2E;3CHARACTER-18B2F;3CHARACTER-18B30
18B31 0KHITAN SMALL SCRIPT CHARACTER-18B31;3CHARACTER-18B32;3CHARACTER-18B33;3CHARACTER-18B34
18B35 0KHITAN SMALL SCRIPT CHARACTER-18B35;3CHARACTER-18B36;3CHARACTER-18B37;3CHARACTER-18B38
18B39 0KHITAN SMALL SCRIPT CHARACTER-18B39;3CHARACTER-18B3A;3CHARACTER-18B3B;3CHARACTER-18B3C
18B3D 0KHITAN SMALL SCRIPT CHARACTER-18B3D;3CHARACTER-18B3E;3CHARACTER-18B3F;3CHARACTER-18B40
18B41 0KHITAN SMALL SCRIPT CHARACTER-18B41;3CHARACTER-18B42;3CHARACTER-18B43;3CHARACTER-18B44
18B45 0KHITAN SMALL SCRIPT CHARACTER-18B45;3CHARACTER-18B46;3CHARACTER-18B47;3CHARACTER-18B48
18B49 0KHITAN SMALL SCRIPT CHARACTER-18B49;3CHARACTER-18B4A;3CHARACTER-18B4B;3CHARACTER-18B4C
18B4D 0KHITAN SMALL SCRIPT CHARACTER-18B4D;3CHARACTER-18B4E;3CHARACTER-18B4F;3CHARACTER-18B50
18B51 0KHITAN SMALL SCRIPT CHARACTER-18B51;3CHARACTER-18B52;3CHARACTER-18B53;3CHARACTER-18B54
18B55 0KHITAN SMALL SCRIPT CHARACTER-18B55;3CHARACTER-18B56;3CHARACTER-18B57;3CHARACTER-18B58
18B59 0KHITAN SMALL SCRIPT CHARACTER-18B59;3CHARACTER-18B5A;3CHARACTER-18B5B;3CHARACTER-18B5C
18B5D 0KHITAN SMALL SCRIPT CHARACTER-18B5D;3CHARACTER-18B5E;3CHARACTER-18B5F;3CHARACTER-18B60
18B61 0KHITAN SMALL SCRIPT CHARACTER-18B61;3CHARACTER-18B62;3CHARACTER-18B63;3CHARACTER-18B64
18B65 0KHITAN SMALL SCRIPT CHARACTER-18B65;3CHARACTER-18B66;3CHARACTER-18B67;3CHARACTER-18B68
18B69 0KHITAN SMALL SCRIPT CHARACTER-18B69;3CHARACTER-18B6A;3CHARACTER-18B6B;3CHARACTER-18B6C
18B6D 0KHITAN SMALL SCRIPT CHARACTER-18B6D;3CHARACTER-18B6E;3CHARACTER-18B6F;3CHARACTER-18B70
18B71 0KHITAN SMALL SCRIPT CHARACTER-18B71;3CHARACTER-18B72;3CHARACTER-18B73;3CHARACTER-18B74
18B75 0KHITAN SMALL SCRIPT CHARACTER-18B75;3CHARACTER-18B76;3CHARACTER-18B77;3CHARACTER-18B78
18B79 0KHITAN SMALL SCRIPT CHARACTER-18B79;3CHARACTER-18B7A;3CHARACTER-18B7B;3CHARACTER-18B7C
18B7D 0KHITAN SMALL SCRIPT CHARACTER-18B7D;3CHARACTER-18B7E;3CHARACTER-18B7F;3CHARACTER-18B80
18B81 0KHITAN SMALL SCRIPT CHARACTER-18B81;3CHARACTER-18B82;3CHARACTER-18B83;3CHARACTER-18B84
18B85 0KHITAN SMALL SCRIPT CHARACTER-18B85;3CHARACTER-18B86;3CHARACTER-18B87;3CHARACTER-18B88
18B89 0KHITAN SMALL SCRIPT CHARACTER-18B89;3CHARACTER-18B8A;3CHARACTER-18B8B;3CHARACTER-18B8C
18B8D 0KHITAN SMALL SCRIPT CHARACTER-18B8D;3CHARACTER-18B8E;3CHARACTER-18B8F;3CHARACTER-18B90
18B91 0KHITAN SMALL SCRIPT CHARACTER-18B91;3CHARACTER-18B92;3CHARACTER-18B93;3CHARACTER-18B94
18B95 0KHITAN SMALL SCRIPT CHARACTER-18B95;3CHARACTER-18B96;3CHARACTER-18B97;3CHARACTER-18B98
18B99 0KHITAN SMALL SCRIPT CHARACTER-18B99;3CHARACTER-18B9A;3CHARACTER-18B9B;3CHARACTER-18B9C
18B9D 0KHITAN SMALL SCRIPT CHARACTER-18B9D;3CHARACTER-18B9E;3CHARACTER-18B9F;3CHARACTER-18BA0
18BA1 0KHITAN SMALL SCRIPT CHARACTER-18BA1;3CHARACTER-18BA2;3CHARACTER-18BA3;3CHARACTER-18BA4
18BA5 0KHITAN SMALL SCRIPT CHARACTER-18BA5;3CHARACTER-18BA6;3CHARACTER-18BA7;3CHARACTER-18BA8
18BA9 0KHITAN SMALL SCRIPT CHARACTER-18BA9;3CHARACTER-18BAA;3CHARACTER-18BAB;3CHARACTER-18BAC
18BAD 0KHITAN SMALL SCRIPT CHARACTER-18BAD;3CHARACTER-18BAE;3CHARACTER-18BAF;3CHARACTER-18BB0
18BB1 0KHITAN SMALL SCRIPT CHARACTER-18BB1;3CHARACTER-18BB2;3CHARACTER-18BB3;3CHARACTER-18BB4
18BB5 0KHITAN SMALL SCRIPT CHARACTER-18BB5;3CHARACTER-18BB6;3CHARACTER-18BB7;3CHARACTER-18BB8
18BB9 0KHITAN SMALL SCRIPT CHARACTER-18BB9;3CHARACTER-18BBA;3CHARACTER-18BBB;3CHARACTER-18BBC
18BBD 0KHITAN SMALL SCRIPT CHARACTER-18BBD;3CHARACTER-18BBE;3CHARACTER-18BBF;3CHARACTER-18BC0
18BC1 0KHITAN SMALL SCRIPT CHARACTER-18BC1;3CHARACTER-18BC2;3CHARACTER-18BC3;3CHARACTER-18BC4
18BC5 0KHITAN SMALL SCRIPT CHARACTER-18BC5;3CHARACTER-18BC6;3CHARACTER-18BC7;3CHARACTER-18BC8
18BC9 0KHITAN SMALL SCRIPT CHARACTER-18BC9;3CHARACTER-18BCA;3CHARACTER-18BCB;3CHARACTER-18BCC
18BCD 0KHITAN SMALL SCRIPT CHARACTER-18BCD;3CHARACTER-18BCE;3CHARACTER-18BCF;3CHARACTER-18BD0
18BD1 0KHITAN SMALL SCRIPT CHARACTER-18BD1;3CHARACTER-18BD2;3CHARACTER-18BD3;3CHARACTER-18BD4
18BD5 0KHITAN SMALL SCRIPT CHARACTER-18BD5;3CHARACTER-18BD6;3CHARACTER-18BD7;3CHARACTER-18BD8
18BD9 0KHITAN SMALL SCRIPT CHARACTER-18BD9;3CHARACTER-18BDA;3CHARACTER-18BDB;3CHARACTER-18BDC
18BDD 0KHITAN SMALL SCRIPT CHARACTER-18BDD;3CHARACTER-18BDE;3CHARACTER-18BDF;3CHARACTER-18BE0
18BE1 0KHITAN SMALL SCRIPT CHARACTER-18BE1;3CHARACTER-18BE2;3CHARACTER-18BE3;3CHARACTER-18BE4
18BE5 0KHITAN SMALL SCRIPT CHARACTER-18BE5;3CHARACTER-18BE6;3CHARACTER-18BE7;3CHARACTER-18BE8
18BE9 0KHITAN SMALL SCRIPT CHARACTER-18BE9;3CHARACTER-18BEA;3CHARACTER-18BEB;3CHARACTER-18BEC
18BED 0KHITAN SMALL SCRIPT CHARACTER-18BED;3CHARACTER-18BEE;3CHARACTER-18BEF;3CHARACTER-18BF0
18BF1 0KHITAN SMALL SCRIPT CHARACTER-18BF1;3CHARACTER-18BF2;3CHARACTER-18BF3;3CHARACTER-18BF4
18BF5 0KHITAN SMALL SCRIPT CHARACTER-18BF5;3CHARACTER-18BF6;3CHARACTER-18BF7;3CHARACTER-18BF8
18BF9 0KHITAN SMALL SCRIPT CHARACTER-18BF9;3CHARACTER-18BFA;3CHARACTER-18BFB;3CHARACTER-18BFC
18BFD 0KHITAN SMALL SCRIPT CHARACTER-18BFD;3CHARACTER-18BFE;3CHARACTER-18BFF;3CHARACTER-18C00
18C01 0KHITAN SMALL SCRIPT CHARACTER-18C01;3CHARACTER-18C02;3CHARACTER-18C03;3CHARACTER-18C04
18C05 0KHITAN SMALL SCRIPT CHARACTER-18C05;3CHARACTER-18C06;3CHARACTER-18C07;3CHARACTER-18C08
18C09 0KHITAN SMALL SCRIPT CHARACTER-18C09;3CHARACTER-18C0A;3CHARACTER-18C0B;3CHARACTER-18C0C
18C0D 0KHITAN SMALL SCRIPT CHARACTER-18C0D;3CHARACTER-18C0E;3CHARACTER-18C0F;3CHARACTER-18C10
18C11 0KHITAN SMALL SCRIPT CHARACTER-18C11;3CHARACTER-18C12;3CHARACTER-18C13;3CHARACTER-18C14
18C15 0KHITAN SMALL SCRIPT CHARACTER-18C15;3CHARACTER-18C16;3CHARACTER-18C17;3CHARACTER-18C18
18C19 0KHITAN SMALL SCRIPT CHARACTER-18C19;3CHARACTER-18C1A;3CHARACTER-18C1B;3CHARACTER-18C1C
18C1D 0KHITAN SMALL SCRIPT CHARACTER-18C1D;3CHARACTER-18C1E;3CHARACTER-18C1F;3CHARACTER-18C20
18C21 0KHITAN SMALL SCRIPT CHARACTER-18C21;3CHARACTER-18C22;3CHARACTER-18C23;3CHARACTER-18C24
18C25 0KHITAN SMALL SCRIPT CHARACTER-18C25;3CHARACTER-18C26;3CHARACTER-18C27;3CHARACTER-18C28
18C29 0KHITAN SMALL SCRIPT CHARACTER-18C29;3CHARACTER-18C2A;3CHARACTER-18C2B;3CHARACTER-18C2C
18C2D 0KHITAN SMALL SCRIPT CHARACTER-18C2D;3CHARACTER-18C2E;3CHARACTER-18C2F;3CHARACTER-18C30
18C31 0KHITAN SMALL SCRIPT CHARACTER-18C31;3CHARACTER-18C32;3CHARACTER-18C33;3CHARACTER-18C34
18C35 0KHITAN SMALL SCRIPT CHARACTER-18C35;3CHARACTER-18C36;3CHARACTER-18C37;3CHARACTER-18C38
18C39 0KHITAN SMALL SCRIPT CHARACTER-18C39;3CHARACTER-18C3A;3CHARACTER-18C3B;3CHARACTER-18C3C
18C3D 0KHITAN SMALL SCRIPT CHARACTER-18C3D;3CHARACTER-18C3E;3CHARACTER-18C3F;3CHARACTER-18C40
18C41 0KHITAN SMALL SCRIPT CHARACTER-18C41;3CHARACTER-18C42;3CHARACTER-18C43;3CHARACTER-18C44
18C45 0KHITAN SMALL SCRIPT CHARACTER-18C45;3CHARACTER-18C46;3CHARACTER-18C47;3CHARACTER-18C48
18C49 0KHITAN SMALL SCRIPT CHARACTER-18C49;3CHARACTER-18C4A;3CHARACTER-18C4B;3CHARACTER-18C4C
18C4D 0KHITAN SMALL SCRIPT CHARACTER-18C4D;3CHARACTER-18C4E;3CHARACTER-18C4F;3CHARACTER-18C50
18C51 0KHITAN SMALL SCRIPT CHARACTER-18C51;3CHARACTER-18C52;3CHARACTER-18C53;3CHARACTER-18C54
18C55 0KHITAN SMALL SCRIPT CHARACTER-18C55;3CHARACTER-18C56;3CHARACTER-18C57;3CHARACTER-18C58
18C59 0KHITAN SMALL SCRIPT CHARACTER-18C59;3CHARACTER-18C5A;3CHARACTER-18C5B;3CHARACTER-18C5C
18C5D 0KHITAN SMALL SCRIPT CHARACTER-18C5D;3CHARACTER-18C5E;3CHARACTER-18C5F;3CHARACTER-18C60
18C61 0KHITAN SMALL SCRIPT CHARACTER-18C61;3CHARACTER-18C62;3CHARACTER-18C63;3CHARACTER-18C64
18C65 0KHITAN SMALL SCRIPT CHARACTER-18C65;3CHARACTER-18C66;3CHARACTER-18C67;3CHARACTER-18C68
18C69 0KHITAN SMALL SCRIPT CHARACTER-18C69;3CHARACTER-18C6A;3CHARACTER-18C6B;3CHARACTER-18C6C
18C6D 0KHITAN SMALL SCRIPT CHARACTER-18C6D;3CHARACTER-18C6E;3CHARACTER-18C6F;3CHARACTER-18C70
18C71 0KHITAN SMALL SCRIPT CHARACTER-18C71;3CHARACTER-18C72;3CHARACTER-18C73;3CHARACTER-18C74
18C75 0KHITAN SMALL SCRIPT CHARACTER-18C75;3CHARACTER-18C76;3CHARACTER-18C77;3CHARACTER-18C78
18C79 0KHITAN SMALL SCRIPT CHARACTER-18C79;3CHARACTER-18C7A;3CHARACTER-18C7B;3CHARACTER-18C7C
18C7D 0KHITAN SMALL SCRIPT CHARACTER-18C7D;3CHARACTER-18C7E;3CHARACTER-18C7F;3CHARACTER-18C80
18C81 0KHITAN SMALL SCRIPT CHARACTER-18C81;3CHARACTER-18C82;3CHARACTER-18C83;3CHARACTER-18C84
18C85 0KHITAN SMALL SCRIPT CHARACTER-18C85;3CHARACTER-18C86;3CHARACTER-18C87;3CHARACTER-18C88
18C89 0KHITAN SMALL SCRIPT CHARACTER-18C89;3CHARACTER-18C8A;3CHARACTER-18C8B;3CHARACTER-18C8C
18C8D 0KHITAN SMALL SCRIPT CHARACTER-18C8D;3CHARACTER-18C8E;3CHARACTER-18C8F;3CHARACTER-18C90
18C91 0KHITAN SMALL SCRIPT CHARACTER-18C91;3CHARACTER-18C92;3CHARACTER-18C93;3CHARACTER-18C94
18C95 0KHITAN SMALL SCRIPT CHARACTER-18C95;3CHARACTER-18C96;3CHARACTER-18C97;3CHARACTER-18C98
18C99 0KHITAN SMALL SCRIPT CHARACTER-18C99;3CHARACTER-18C9A;3CHARACTER-18C9B;3CHARACTER-18C9C
18C9D 0KHITAN SMALL SCRIPT CHARACTER-18C9D;3CHARACTER-18C9E;3CHARACTER-18C9F;3CHARACTER-18CA0
18CA1 0KHITAN SMALL SCRIPT CHARACTER-18CA1;3CHARACTER-18CA2;3CHARACTER-18CA3;3CHARACTER-18CA4
18CA5 0KHITAN SMALL SCRIPT CHARACTER-18CA5;3CHARACTER-18CA6;3CHARACTER-18CA7;3CHARACTER-18CA8
18CA9 0KHITAN SMALL SCRIPT CHARACTER-18CA9;3CHARACTER-18CAA;3CHARACTER-18CAB;3CHARACTER-18CAC
18CAD 0KHITAN SMALL SCRIPT CHARACTER-18CAD;3CHARACTER-18CAE;3CHARACTER-18CAF;3CHARACTER-18CB0
18CB1 0KHITAN SMALL SCRIPT CHARACTER-18CB1;3CHARACTER-18CB2;3CHARACTER-18CB3;3CHARACTER-18CB4
18CB5 0KHITAN SMALL SCRIPT CHARACTER-18CB5;3CHARACTER-18CB6;3CHARACTER-18CB7;3CHARACTER-18CB8
18CB9 0KHITAN SMALL SCRIPT CHARACTER-18CB9;3CHARACTER-18CBA;3CHARACTER-18CBB;3CHARACTER-18CBC
18CBD 0KHITAN SMALL SCRIPT CHARACTER-18CBD;3CHARACTER-18CBE;3CHARACTER-18CBF;3CHARACTER-18CC0
18CC1 0KHITAN SMALL SCRIPT CHARACTER-18CC1;3CHARACTER-18CC2;3CHARACTER-18CC3;3CHARACTER-18CC4
18CC5 0KHITAN SMALL SCRIPT CHARACTER-18CC5;3CHARACTER-18CC6;3CHARACTER-18CC7;3CHARACTER-18CC8
18CC9 0KHITAN SMALL SCRIPT CHARACTER-18CC9;3CHARACTER-18CCA;3CHARACTER-18CCB;3CHARACTER-18CCC
18CCD 0KHITAN SMALL SCRIPT CHARACTER-18CCD;3CHARACTER-18CCE;3CHARACTER-18CCF;3CHARACTER-18CD0
18CD1 0KHITAN SMALL SCRIPT CHARACTER-18CD1;3CHARACTER-18CD2;3CHARACTER-18CD3;3CHARACTER-18CD4
18CD5 0KHITAN SMALL SCRIPT CHARACTER-18CD5
1AFF0 0KATAKANA LETTER MINNAN TONE-2;3TONE-3;3TONE-4;3TONE-5
1AFF5 0KATAKANA LETTER MINNAN TONE-7;3TONE-8;3NASALIZED TONE-1;4TONE-2;4TONE-3;4TONE-4;4TONE-5
1AFFD 0KATAKANA LETTER MINNAN NASALIZED TONE-7;4TONE-8
1B000 0KATAKANA LETTER ARCHAIC E;0HIRAGANA LETTER ARCHAIC YE;0HENTAIGANA LETTER A-1;2A-2;2A-3;2A-WO
1B006 0HENTAIGANA LETTER I-1;2I-2;2I-3;2I-4;2U-1;2U-2;2U-3;2U-4;2U-5;2E-2;2E-3;2E-4;2E-5;2E-6;2O-1
1B015 0HENTAIGANA LETTER O-2;2O-3;2KA-1;2KA-2;2KA-3;2KA-4;2KA-5;2KA-6;2KA-7;2KA-8;2KA-9;2KA-10
1B021 0HENTAIGANA LETTER KA-11;2KA-KE;2KI-1;2KI-2;2KI-3;2KI-4;2KI-5;2KI-6;2KI-7;2KI-8;2KU-1;2KU-2
1B02D 0HENTAIGANA LETTER KU-3;2KU-4;2KU-5;2KU-6;2KU-7;2KE-1;2KE-2;2KE-3;2KE-4;2KE-5;2KE-6;2KO-1
1B039 0HENTAIGANA LETTER KO-2;2KO-3;2KO-KI;2SA-1;2SA-2;2SA-3;2SA-4;2SA-5;2SA-6;2SA-7;2SA-8;2SI-1
1B045 0HENTAIGANA LETTER SI-2;2SI-3;2SI-4;2SI-5;2SI-6;2SU-1;2SU-2;2SU-3;2SU-4;2SU-5;2SU-6;2SU-7
1B051 0HENTAIGANA LETTER SU-8;2SE-1;2SE-2;2SE-3;2SE-4;2SE-5;2SO-1;2SO-2;2SO-3;2SO-4;2SO-5;2SO-6
1B05D 0HENTAIGANA LETTER SO-7;2TA-1;2TA-2;2TA-3;2TA-4;2TI-1;2TI-2;2TI-3;2TI-4;2TI-5;2TI-6;2TI-7
1B069 0HENTAIGANA LETTER TU-1;2TU-2;2TU-3;2TU-4;2TU-TO;2TE-1;2TE-2;2TE-3;2TE-4;2TE-5;2TE-6;2TE-7
1B075 0HENTAIGANA LETTER TE-8;2TE-9;2TO-1;2TO-2;2TO-3;2TO-4;2TO-5;2TO-6;2TO-RA;2NA-1;2NA-2;2NA-3
1B081 0HENTAIGANA LETTER NA-4;2NA-5;2NA-6;2NA-7;2NA-8;2NA-9;2NI-1;2NI-2;2NI-3;2NI-4;2NI-5;2NI-6
1B08D 0HENTAIGANA LETTER NI-7;2NI-TE;2NU-1;2NU-2;2NU-3;2NE-1;2NE-2;2NE-3;2NE-4;2NE-5;2NE-6;2NE-KO
1B099 0HENTAIGANA LETTER NO-1;2NO-2;2NO-3;2NO-4;2NO-5;2HA-1;2HA-2;2HA-3;2HA-4;2HA-5;2HA-6;2HA-7
1B0A5 0HENTAIGANA LETTER HA-8;2HA-9;2HA-10;2HA-11;2HI-1;2HI-2;2HI-3;2HI-4;2HI-5;2HI-6;2HI-7;2HU-1
1B0B1 0HENTAIGANA LETTER HU-2;2HU-3;2HE-1;2HE-2;2HE-3;2HE-4;2HE-5;2HE-6;2HE-7;2HO-1;2HO-2;2HO-3
1B0BD 0HENTAIGANA LETTER HO-4;2HO-5;2HO-6;2HO-7;2HO-8;2MA-1;2MA-2;2MA-3;2MA-4;2MA-5;2MA-6;2MA-7
1B0C9 0HENTAIGANA LETTER MI-1;2MI-2;2MI-3;2MI-4;2MI-5;2MI-6;2MI-7;2MU-1;2MU-2;2MU-3;2MU-4;2ME-1
1B0D5 0HENTAIGANA LETTER ME-2;2ME-MA;2MO-1;2MO-2;2MO-3;2MO-4;2MO-5;2MO-6;2YA-1;2YA-2;2YA-3;2YA-4
1B0E1 0HENTAIGANA LETTER YA-5;2YA-YO;2YU-1;2YU-2;2YU-3;2YU-4;2YO-1;2YO-2;2YO-3;2YO-4;2YO-5;2YO-6
1B0ED 0HENTAIGANA LETTER RA-1;2RA-2;2RA-3;2RA-4;2RI-1;2RI-2;2RI-3;2RI-4;2RI-5;2RI-6;2RI-7;2RU-1
1B0F9 0HENTAIGANA LETTER RU-2;2RU-3;2RU-4;2RU-5;2RU-6;2RE-1;2RE-2;2RE-3;2RE-4;2RO-1;2RO-2;2RO-3
1B105 0HENTAIGANA LETTER RO-4;2RO-5;2RO-6;2WA-1;2WA-2;2WA-3;2WA-4;2WA-5;2WI-1;2WI-2;2WI-3;2WI-4
1B111 0HENTAIGANA LETTER WI-5;2WE-1;2WE-2;2WE-3;2WE-4;2WO-1;2WO-2;2WO-3;2WO-4;2WO-5;2WO-6;2WO-7
1B11D 0HENTAIGANA LETTER N-MU-MO-1;2N-MU-MO-2;0HIRAGANA LETTER ARCHAIC WU
1B120 0KATAKANA LETTER ARCHAIC YI;3YE;3WU
1B150 0HIRAGANA LETTER SMALL WI;3WE;3WO
1B164 0KATAKANA LETTER SMALL WI;3WE;3WO;3N
1B170 0NUSHU CHARACTER-1B170;1CHARACTER-1B171;1CHARACTER-1B172;1CHARACTER-1B173;1CHARACTER-1B174
1B175 0NUSHU CHARACTER-1B175;1CHARACTER-1B176;1CHARACTER-1B177;1CHARACTER-1B178;1CHARACTER-1B179
1B17A 0NUSHU CHARACTER-1B17A;1CHARACTER-1B17B;1CHARACTER-1B17C;1CHARACTER-1B17D;1CHARACTER-1B17E
1B17F 0NUSHU CHARACTER-1B17F;1CHARACTER-1B180;1CHARACTER-1B181;1CHARACTER-1B182;1CHARACTER-1B183
1B184 0NUSHU CHARACTER-1B184;1CHARACTER-1B185;1CHARACTER-1B186;1CHARACTER-1B187;1CHARACTER-1B188
1B189 0NUSHU CHARACTER-1B189;1CHARACTER-1B18A;1CHARACTER-1B18B;1CHARACTER-1B18C;1CHARACTER-1B18D
1B18E 0NUSHU CHARACTER-1B18E;1CHARACTER-1B18F;1CHARACTER-1B190;1CHARACTER-1B191;1CHARACTER-1B192
1B193 0NUSHU CHARACTER-1B193;1CHARACTER-1B194;1CHARACTER-1B195;1CHARACTER-1B196;1CHARACTER-1B197
1B198 0NUSHU CHARACTER-1B198;1CHARACTER-1B199;1CHARACTER-1B19A;1CHARACTER-1B19B;1CHARACTER-1B19C
1B19D 0NUSHU CHARACTER-1B19D;1CHARACTER-1B19E;1CHARACTER-1B19F;1CHARACTER-1B1A0;1CHARACTER-1B1A1
1B1A2 0NUSHU CHARACTER-1B1A2;1CHARACTER-1B1A3;1CHARACTER-1B1A4;1CHARACTER-1B1A5;1CHARACTER-1B1A6
1B1A7 0NUSHU CHARACTER-1B1A7;1CHARACTER-1B1A8;1CHARACTER-1B1A9;1CHARACTER-1B1AA;1CHARACTER-1B1AB
1B1AC 0NUSHU CHARACTER-1B1AC;1CHARACTER-1B1AD;1CHARACTER-1B1AE;1CHARACTER-1B1AF;1CHARACTER-1B1B0
1B1B1 0NUSHU CHARACTER-1B1B1;1CHARACTER-1B1B2;1CHARACTER-1B1B3;1CHARACTER-1B1B4;1CHARACTER-1B1B5
1B1B6 0NUSHU CHARACTER-1B1B6;1CHARACTER-1B1B7;1CHARACTER-1B1B8;1CHARACTER-1B1B9;1CHARACTER-1B1BA
1B1BB 0NUSHU CHARACTER-1B1BB;1CHARACTER-1B1BC;1CHARACTER-1B1BD;1CHARACTER-1B1BE;1CHARACTER-1B1BF
1B1C0 0NUSHU CHARACTER-1B1C0;1CHARACTER-1B1C1;1CHARACTER-1B1C2;1CHARACTER-1B1C3;1CHARACTER-1B1C4
1B1C5 0NUSHU CHARACTER-1B1C5;1CHARACTER-1B1C6;1CHARACTER-1B1C7;1CHARACTER-1B1C8;1CHARACTER-1B1C9
1B1CA 0NUSHU CHARACTER-1B1CA;1CHARACTER-1B1CB;1CHARACTER-1B1CC;1CHARACTER-1B1CD;1CHARACTER-1B1CE
1B1CF 0NUSHU CHARACTER-1B1CF;1CHARACTER-1B1D0;1CHARACTER-1B1D1;1CHARACTER-1B1D2;1CHARACTER-1B1D3
1B1D4 0NUSHU CHARACTER-1B1D4;1CHARACTER-1B1D5;1CHARACTER-1B1D6;1CHARACTER-1B1D7;1CHARACTER-1B1D8
1B1D9 0NUSHU CHARACTER-1B1D9;1CHARACTER-1B1DA;1CHARACTER-1B1DB;1CHARACTER-1B1DC;1CHARACTER-1B1DD
1B1DE 0NUSHU CHARACTER-1B1DE;1CHARACTER-1B1DF;1CHARACTER-1B1E0;1CHARACTER-1B1E1;1CHARACTER-1B1E2
1B1E3 0NUSHU CHARACTER-1B1E3;1CHARACTER-1B1E4;1CHARACTER-1B1E5;1CHARACTER-1B1E6;1CHARACTER-1B1E7
1B1E8 0NUSHU CHARACTER-1B1E8;1CHARACTER-1B1E9;1CHARACTER-1B1EA;1CHARACTER-1B1EB;1CHARACTER-1B1EC
1B1ED 0NUSHU CHARACTER-1B1ED;1CHARACTER-1B1EE;1CHARACTER-1B1EF;1CHARACTER-1B1F0;1CHARACTER-1B1F1
1B1F2 0NUSHU CHARACTER-1B1F2;1CHARACTER-1B1F3;1CHARACTER-1B1F4;1CHARACTER-1B1F5;1CHARACTER-1B1F6
1B1F7 0NUSHU CHARACTER-1B1F7;1CHARACTER-1B1F8;1CHARACTER-1B1F9;1CHARACTER-1B1FA;1CHARACTER-1B1FB
1B1FC 0NUSHU CHARACTER-1B1FC;1CHARACTER-1B1FD;1CHARACTER-1B1FE;1CHARACTER-1B1FF;1CHARACTER-1B200
1B201 0NUSHU CHARACTER-1B201;1CHARACTER-1B202;1CHARACTER-1B203;1CHARACTER-1B204;1CHARACTER-1B205
1B206 0NUSHU CHARACTER-1B206;1CHARACTER-1B207;1CHARACTER-1B208;1CHARACTER-1B209;1CHARACTER-1B20A
1B20B 0NUSHU CHARACTER-1B20B;1CHARACTER-1B20C;1CHARACTER-1B20D;1CHARACTER-1B20E;1CHARACTER-1B20F
1B210 0NUSHU CHARACTER-1B210;1CHARACTER-1B211;1CHARACTER-1B212;1CHARACTER-1B213;1CHARACTER-1B214
1B215 0NUSHU CHARACTER-1B215;1CHARACTER-1B216;1CHARACTER-1B217;1CHARACTER-1B218;1CHARACTER-1B219
1B21A 0NUSHU CHARACTER-1B21A;1CHARACTER-1B21B;1CHARACTER-1B21C;1CHARACTER-1B21D;1CHARACTER-1B21E
1B21F 0NUSHU CHARACTER-1B21F;1CHARACTER-1B220;1CHARACTER-1B221;1CHARACTER-1B222;1CHARACTER-1B223
1B224 0NUSHU CHARACTER-1B224;1CHARACTER-1B225;1CHARACTER-1B226;1CHARACTER-1B227;1CHARACTER-1B228
1B229 0NUSHU CHARACTER-1B229;1CHARACTER-1B22A;1CHARACTER-1B22B;1CHARACTER-1B22C;1CHARACTER-1B22D
1B22E 0NUSHU CHARACTER-1B22E;1CHARACTER-1B22F;1CHARACTER-1B230;1CHARACTER-1B231;1CHARACTER-1B232
1B233 0NUSHU CHARACTER-1B233;1CHARACTER-1B234;1CHARACTER-1B235;1CHARACTER-1B236;1CHARACTER-1B237
1B238 0NUSHU CHARACTER-1B238;1CHARACTER-1B239;1CHARACTER-1B23A;1CHARACTER-1B23B;1CHARACTER-1B23C
1B23D 0NUSHU CHARACTER-1B23D;1CHARACTER-1B23E;1CHARACTER-1B23F;1CHARACTER-1B240;1CHARACTER-1B241
1B242 0NUSHU CHARACTER-1B242;1CHARACTER-1B243;1CHARACTER-1B244;1CHARACTER-1B245;1CHARACTER-1B246
1B247 0NUSHU CHARACTER-1B247;1CHARACTER-1B248;1CHARACTER-1B249;1CHARACTER-1B24A;1CHARACTER-1B24B
1B24C 0NUSHU CHARACTER-1B24C;1CHARACTER-1B24D;1CHARACTER-1B24E;1CHARACTER-1B24F;1CHARACTER-1B250
1B251 0NUSHU CHARACTER-1B251;1CHARACTER-1B252;1CHARACTER-1B253;1CHARACTER-1B254;1CHARACTER-1B255
1B256 0NUSHU CHARACTER-1B256;1CHARACTER-1B257;1CHARACTER-1B258;1CHARACTER-1B259;1CHARACTER-1B25A
1B25B 0NUSHU CHARACTER-1B25B;1CHARACTER-1B25C;1CHARACTER-1B25D;1CHARACTER-1B25E;1CHARACTER-1B25F
1B260 0NUSHU CHARACTER-1B260;1CHARACTER-1B261;1CHARACTER-1B262;1CHARACTER-1B263;1CHARACTER-1B264
1B265 0NUSHU CHARACTER-1B265;1CHARACTER-1B266;1CHARACTER-1B267;1CHARACTER-1B268;1CHARACTER-1B269
1B26A 0NUSHU CHARACTER-1B26A;1CHARACTER-1B26B;1CHARACTER-1B26C;1CHARACTER-1B26D;1CHARACTER-1B26E
1B26F 0NUSHU CHARACTER-1B26F;1CHARACTER-1B270;1CHARACTER-1B271;1CHARACTER-1B272;1CHARACTER-1B273
1B274 0NUSHU CHARACTER-1B274;1CHARACTER-1B275;1CHARACTER-1B276;1CHARACTER-1B277;1CHARACTER-1B278
1B279 0NUSHU CHARACTER-1B279;1CHARACTER-1B27A;1CHARACTER-1B27B;1CHARACTER-1B27C;1CHARACTER-1B27D
1B27E 0NUSHU CHARACTER-1B27E;1CHARACTER-1B27F;1CHARACTER-1B280;1CHARACTER-1B281;1CHARACTER-1B282
1B283 0NUSHU CHARACTER-1B283;1CHARACTER-1B284;1CHARACTER-1B285;1CHARACTER-1B286;1CHARACTER-1B287
1B288 0NUSHU CHARACTER-1B288;1CHARACTER-1B289;1CHARACTER-1B28A;1CHARACTER-1B28B;1CHARACTER-1B28C
1B28D 0NUSHU CHARACTER-1B28D;1CHARACTER-1B28E;1CHARACTER-1B28F;1CHARACTER-1B290;1CHARACTER-1B291
1B292 0NUSHU CHARACTER-1B292;1CHARACTER-1B293;1CHARACTER-1B294;1CHARACTER-1B295;1CHARACTER-1B296
1B297 0NUSHU CHARACTER-1B297;1CHARACTER-1B298;1CHARACTER-1B299;1CHARACTER-1B29A;1CHARACTER-1B29B
1B29C 0NUSHU CHARACTER-1B29C;1CHARACTER-1B29D;1CHARACTER-1B29E;1CHARACTER-1B29F;1CHARACTER-1B2A0
1B2A1 0NUSHU CHARACTER-1B2A1;1CHARACTER-1B2A2;1CHARACTER-1B2A3;1CHARACTER-1B2A4;1CHARACTER-1B2A5
1B2A6 0NUSHU CHARACTER-1B2A6;1CHARACTER-1B2A7;1CHARACTER-1B2A8;1CHARACTER-1B2A9;1CHARACTER-1B2AA
1B2AB 0NUSHU CHARACTER-1B2AB;1CHARACTER-1B2AC;1CHARACTER-1B2AD;1CHARACTER-1B2AE;1CHARACTER-1B2AF
1B2B0 0NUSHU CHARACTER-1B2B0;1CHARACTER-1B2B1;1CHARACTER-1B2B2;1CHARACTER-1B2B3;1CHARACTER-1B2B4
1B2B5 0NUSHU CHARACTER-1B2B5;1CHARACTER-1B2B6;1CHARACTER-1B2B7;1CHARACTER-1B2B8;1CHARACTER-1B2B9
1B2BA 0NUSHU CHARACTER-1B2BA;1CHARACTER-1B2BB;1CHARACTER-1B2BC;1CHARACTER-1B2BD;1CHARACTER-1B2BE
1B2BF 0NUSHU CHARACTER-1B2BF;1CHARACTER-1B2C0;1CHARACTER-1B2C1;1CHARACTER-1B2C2;1CHARACTER-1B2C3
1B2C4 0NUSHU CHARACTER-1B2C4;1CHARACTER-1B2C5;1CHARACTER-1B2C6;1CHARACTER-1B2C7;1CHARACTER-1B2C8
1B2C9 0NUSHU CHARACTER-1B2C9;1CHARACTER-1B2CA;1CHARACTER-1B2CB;1CHARACTER-1B2CC;1CHARACTER-1B2CD
1B2CE 0NUSHU CHARACTER-1B2CE;1CHARACTER-1B2CF;1CHARACTER-1B2D0;1CHARACTER-1B2D1;1CHARACTER-1B2D2
1B2D3 0NUSHU CHARACTER-1B2D3;1CHARACTER-1B2D4;1CHARACTER-1B2D5;1CHARACTER-1B2D6;1CHARACTER-1B2D7
1B2D8 0NUSHU CHARACTER-1B2D8;1CHARACTER-1B2D9;1CHARACTER-1B2DA;1CHARACTER-1B2DB;1CHARACTER-1B2DC
1B2DD 0NUSHU CHARACTER-1B2DD;1CHARACTER-1B2DE;1CHARACTER-1B2DF;1CHARACTER-1B2E0;1CHARACTER-1B2E1
1B2E2 0NUSHU CHARACTER-1B2E2;1CHARACTER-1B2E3;1CHARACTER-1B2E4;1CHARACTER-1B2E5;1CHARACTER-1B2E6
1B2E7 0NUSHU CHARACTER-1B2E7;1CHARACTER-1B2E8;1CHARACTER-1B2E9;1CHARACTER-1B2EA;1CHARACTER-1B2EB
1B2EC 0NUSHU CHARACTER-1B2EC;1CHARACTER-1B2ED;1CHARACTER-1B2EE;1CHARACTER-1B2EF;1CHARACTER-1B2F0
1B2F1 0NUSHU CHARACTER-1B2F1;1CHARACTER-1B2F2;1CHARACTER-1B2F3;1CHARACTER-1B2F4;1CHARACTER-1B2F5
1B2F6 0NUSHU CHARACTER-1B2F6;1CHARACTER-1B2F7;1CHARACTER-1B2F8;1CHARACTER-1B2F9;1CHARACTER-1B2FA
1B2FB 0NUSHU CHARACTER-1B2FB
1BC00 0DUPLOYAN LETTER H;2X;2P;2T;2F;2K;2L;2B;2D;2V;2G;2R;2P N;2D S;2F N;2K M;2R S;2TH;2SLOAN DH
1BC13 0DUPLOYAN LETTER DH;2KK;2SLOAN J;2HL;2LH;2RH;2M;2N;2J;2S;2M N;2N M;2J M;2S J;2M WITH DOT
1BC22 0DUPLOYAN LETTER N WITH DOT;2J WITH DOT;4DOTS INSIDE AND ABOVE;2S WITH DOT;5BELOW;2M S;2N S
1BC29 0DUPLOYAN LETTER J S;2S S;2M N S;2N M S;2J M S;2S J S;2J S WITH DOT;3N;4S;2S T;4R;3P;4R;2T S
1BC37 0DUPLOYAN LETTER T R S;2W;2WH;2W R;2S N;3M;2K R S;2G R S;2S K;4R;2A;2SLOAN OW;2OA;2O;2AOU;2I
1BC47 0DUPLOYAN LETTER E;2IE;2SHORT I;2UI;2EE;2SLOAN EH;2ROMANIAN I;2SLOAN EE;2LONG I;2YE;2U;2EU
1BC53 0DUPLOYAN LETTER XW;2U N;2LONG U;2ROMANIAN U;2UH;2SLOAN U;2OOH;2OW;2OU;2WA;2WO;2WI;2WEI;2WOW
1BC61 0DUPLOYAN LETTER NASAL U;3O;3I;3A;2PERNIN AN;3AM;2SLOAN EN;3AN;3ON;2VOCALIC M
1BC70 0DUPLOYAN AFFIX LEFT HORIZONTAL SECANT;2MID HORIZONTAL SECANT;2RIGHT HORIZONTAL SECANT
1BC73 0DUPLOYAN AFFIX LOW VERTICAL SECANT;2MID VERTICAL SECANT;2HIGH VERTICAL SECANT
1BC76 0DUPLOYAN AFFIX ATTACHED SECANT;3LEFT-TO-RIGHT SECANT;3TANGENT;3TAIL;3E HOOK;3I HOOK
1BC7C 0DUPLOYAN AFFIX ATTACHED TANGENT HOOK
1BC80 0DUPLOYAN AFFIX HIGH ACUTE;3TIGHT ACUTE;3GRAVE;3LONG GRAVE;3DOT;3CIRCLE;3LINE;3WAVE;3VERTICAL
1BC90 0DUPLOYAN AFFIX LOW ACUTE;3TIGHT ACUTE;3GRAVE;3LONG GRAVE;3DOT;3CIRCLE;3LINE;3WAVE;3VERTICAL
1BC99 0DUPLOYAN AFFIX LOW ARROW
1BC9C 0DUPLOYAN SIGN O WITH CROSS;1THICK LETTER SELECTOR;1DOUBLE MARK
1BC9F 0DUPLOYAN PUNCTUATION CHINOOK FULL STOP;0SHORTHAND FORMAT LETTER OVERLAP;2CONTINUING OVERLAP
1BCA2 0SHORTHAND FORMAT DOWN STEP;2UP STEP"

end PlaybookLint.Text.CharacterName
