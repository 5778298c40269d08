/-!
Names of characters from U+0000 to U+10FF: the scripts of Europe, western and southern Asia. A row
begins with the number of its first character in hexadecimal. The names of the characters from there
on follow, divided by semicolons; the digit before a name tells how many words it shares with the
name before it.
-/

namespace PlaybookLint.Text.CharacterName

/-- The rows of names from U+0000 to U+10FF. -/
def alphabeticScripts : String :=
  "20 0SPACE;0EXCLAMATION MARK;0QUOTATION MARK;0NUMBER SIGN;0DOLLAR SIGN;0PERCENT SIGN;0AMPERSAND
27 0APOSTROPHE;0LEFT PARENTHESIS;0RIGHT PARENTHESIS;0ASTERISK;0PLUS SIGN;0COMMA;0HYPHEN-MINUS
2E 0FULL STOP;0SOLIDUS;0DIGIT ZERO;1ONE;1TWO;1THREE;1FOUR;1FIVE;1SIX;1SEVEN;1EIGHT;1NINE;0COLON
3B 0SEMICOLON;0LESS-THAN SIGN;0EQUALS SIGN;0GREATER-THAN SIGN;0QUESTION MARK;0COMMERCIAL AT
41 0LATIN CAPITAL LETTER A;3B;3C;3D;3E;3F;3G;3H;3I;3J;3K;3L;3M;3N;3O;3P;3Q;3R;3S;3T;3U;3V;3W;3X;3Y
5A 0LATIN CAPITAL LETTER Z;0LEFT SQUARE BRACKET;0REVERSE SOLIDUS;0RIGHT SQUARE BRACKET
5E 0CIRCUMFLEX ACCENT;0LOW LINE;0GRAVE ACCENT;0LATIN SMALL LETTER A;3B;3C;3D;3E;3F;3G;3H;3I;3J;3K
6C 0LATIN SMALL LETTER L;3M;3N;3O;3P;3Q;3R;3S;3T;3U;3V;3W;3X;3Y;3Z;0LEFT CURLY BRACKET
7C 0VERTICAL LINE;0RIGHT CURLY BRACKET;0TILDE
A0 0NO-BREAK SPACE;0INVERTED EXCLAMATION MARK;0CENT SIGN;0POUND SIGN;0CURRENCY SIGN;0YEN SIGN
A6 0BROKEN BAR;0SECTION SIGN;0DIAERESIS;0COPYRIGHT SIGN;0FEMININE ORDINAL INDICATOR
AB 0LEFT-POINTING DOUBLE ANGLE QUOTATION MARK;0NOT SIGN;0SOFT HYPHEN;0REGISTERED SIGN;0MACRON
B0 0DEGREE SIGN;0PLUS-MINUS SIGN;0SUPERSCRIPT TWO;1THREE;0ACUTE ACCENT;0MICRO SIGN;0PILCROW SIGN
B7 0MIDDLE DOT;0CEDILLA;0SUPERSCRIPT ONE;0MASCULINE ORDINAL INDICATOR
BB 0RIGHT-POINTING DOUBLE ANGLE QUOTATION MARK;0VULGAR FRACTION ONE QUARTER;3HALF;2THREE QUARTERS
BF 0INVERTED QUESTION MARK;0LATIN CAPITAL LETTER A WITH GRAVE;5ACUTE;5CIRCUMFLEX;5TILDE;5DIAERESIS
C5 0LATIN CAPITAL LETTER A WITH RING ABOVE;3AE;3C WITH CEDILLA;3E WITH GRAVE;5ACUTE;5CIRCUMFLEX
CB 0LATIN CAPITAL LETTER E WITH DIAERESIS;3I WITH GRAVE;5ACUTE;5CIRCUMFLEX;5DIAERESIS;3ETH
D1 0LATIN CAPITAL LETTER N WITH TILDE;3O WITH GRAVE;5ACUTE;5CIRCUMFLEX;5TILDE;5DIAERESIS
D7 0MULTIPLICATION SIGN;0LATIN CAPITAL LETTER O WITH STROKE;3U WITH GRAVE;5ACUTE;5CIRCUMFLEX
DC 0LATIN CAPITAL LETTER U WITH DIAERESIS;3Y WITH ACUTE;3THORN;1SMALL LETTER SHARP S;3A WITH GRAVE
E1 0LATIN SMALL LETTER A WITH ACUTE;5CIRCUMFLEX;5TILDE;5DIAERESIS;5RING ABOVE;3AE;3C WITH CEDILLA
E8 0LATIN SMALL LETTER E WITH GRAVE;5ACUTE;5CIRCUMFLEX;5DIAERESIS;3I WITH GRAVE;5ACUTE;5CIRCUMFLEX
EF 0LATIN SMALL LETTER I WITH DIAERESIS;3ETH;3N WITH TILDE;3O WITH GRAVE;5ACUTE;5CIRCUMFLEX;5TILDE
F6 0LATIN SMALL LETTER O WITH DIAERESIS;0DIVISION SIGN;0LATIN SMALL LETTER O WITH STROKE
F9 0LATIN SMALL LETTER U WITH GRAVE;5ACUTE;5CIRCUMFLEX;5DIAERESIS;3Y WITH ACUTE;3THORN
FF 0LATIN SMALL LETTER Y WITH DIAERESIS;1CAPITAL LETTER A WITH MACRON;1SMALL LETTER A WITH MACRON
102 0LATIN CAPITAL LETTER A WITH BREVE;1SMALL LETTER A WITH BREVE;1CAPITAL LETTER A WITH OGONEK
105 0LATIN SMALL LETTER A WITH OGONEK;1CAPITAL LETTER C WITH ACUTE;1SMALL LETTER C WITH ACUTE
108 0LATIN CAPITAL LETTER C WITH CIRCUMFLEX;1SMALL LETTER C WITH CIRCUMFLEX
10A 0LATIN CAPITAL LETTER C WITH DOT ABOVE;1SMALL LETTER C WITH DOT ABOVE
10C 0LATIN CAPITAL LETTER C WITH CARON;1SMALL LETTER C WITH CARON;1CAPITAL LETTER D WITH CARON
10F 0LATIN SMALL LETTER D WITH CARON;1CAPITAL LETTER D WITH STROKE;1SMALL LETTER D WITH STROKE
112 0LATIN CAPITAL LETTER E WITH MACRON;1SMALL LETTER E WITH MACRON;1CAPITAL LETTER E WITH BREVE
115 0LATIN SMALL LETTER E WITH BREVE;1CAPITAL LETTER E WITH DOT ABOVE
117 0LATIN SMALL LETTER E WITH DOT ABOVE;1CAPITAL LETTER E WITH OGONEK;1SMALL LETTER E WITH OGONEK
11A 0LATIN CAPITAL LETTER E WITH CARON;1SMALL LETTER E WITH CARON;1CAPITAL LETTER G WITH CIRCUMFLEX
11D 0LATIN SMALL LETTER G WITH CIRCUMFLEX;1CAPITAL LETTER G WITH BREVE;1SMALL LETTER G WITH BREVE
120 0LATIN CAPITAL LETTER G WITH DOT ABOVE;1SMALL LETTER G WITH DOT ABOVE
122 0LATIN CAPITAL LETTER G WITH CEDILLA;1SMALL LETTER G WITH CEDILLA
124 0LATIN CAPITAL LETTER H WITH CIRCUMFLEX;1SMALL LETTER H WITH CIRCUMFLEX
126 0LATIN CAPITAL LETTER H WITH STROKE;1SMALL LETTER H WITH STROKE;1CAPITAL LETTER I WITH TILDE
129 0LATIN SMALL LETTER I WITH TILDE;1CAPITAL LETTER I WITH MACRON;1SMALL LETTER I WITH MACRON
12C 0LATIN CAPITAL LETTER I WITH BREVE;1SMALL LETTER I WITH BREVE;1CAPITAL LETTER I WITH OGONEK
12F 0LATIN SMALL LETTER I WITH OGONEK;1CAPITAL LETTER I WITH DOT ABOVE;1SMALL LETTER DOTLESS I
132 0LATIN CAPITAL LIGATURE IJ;1SMALL LIGATURE IJ;1CAPITAL LETTER J WITH CIRCUMFLEX
135 0LATIN SMALL LETTER J WITH CIRCUMFLEX;1CAPITAL LETTER K WITH CEDILLA
137 0LATIN SMALL LETTER K WITH CEDILLA;3KRA;1CAPITAL LETTER L WITH ACUTE;1SMALL LETTER L WITH ACUTE
13B 0LATIN CAPITAL LETTER L WITH CEDILLA;1SMALL LETTER L WITH CEDILLA;1CAPITAL LETTER L WITH CARON
13E 0LATIN SMALL LETTER L WITH CARON;1CAPITAL LETTER L WITH MIDDLE DOT
140 0LATIN SMALL LETTER L WITH MIDDLE DOT;1CAPITAL LETTER L WITH STROKE;1SMALL LETTER L WITH STROKE
143 0LATIN CAPITAL LETTER N WITH ACUTE;1SMALL LETTER N WITH ACUTE;1CAPITAL LETTER N WITH CEDILLA
146 0LATIN SMALL LETTER N WITH CEDILLA;1CAPITAL LETTER N WITH CARON;1SMALL LETTER N WITH CARON
149 0LATIN SMALL LETTER N PRECEDED BY APOSTROPHE;1CAPITAL LETTER ENG;1SMALL LETTER ENG
14C 0LATIN CAPITAL LETTER O WITH MACRON;1SMALL LETTER O WITH MACRON;1CAPITAL LETTER O WITH BREVE
14F 0LATIN SMALL LETTER O WITH BREVE;1CAPITAL LETTER O WITH DOUBLE ACUTE
151 0LATIN SMALL LETTER O WITH DOUBLE ACUTE;1CAPITAL LIGATURE OE;1SMALL LIGATURE OE
154 0LATIN CAPITAL LETTER R WITH ACUTE;1SMALL LETTER R WITH ACUTE;1CAPITAL LETTER R WITH CEDILLA
157 0LATIN SMALL LETTER R WITH CEDILLA;1CAPITAL LETTER R WITH CARON;1SMALL LETTER R WITH CARON
15A 0LATIN CAPITAL LETTER S WITH ACUTE;1SMALL LETTER S WITH ACUTE;1CAPITAL LETTER S WITH CIRCUMFLEX
15D 0LATIN SMALL LETTER S WITH CIRCUMFLEX;1CAPITAL LETTER S WITH CEDILLA
15F 0LATIN SMALL LETTER S WITH CEDILLA;1CAPITAL LETTER S WITH CARON;1SMALL LETTER S WITH CARON
162 0LATIN CAPITAL LETTER T WITH CEDILLA;1SMALL LETTER T WITH CEDILLA;1CAPITAL LETTER T WITH CARON
165 0LATIN SMALL LETTER T WITH CARON;1CAPITAL LETTER T WITH STROKE;1SMALL LETTER T WITH STROKE
168 0LATIN CAPITAL LETTER U WITH TILDE;1SMALL LETTER U WITH TILDE;1CAPITAL LETTER U WITH MACRON
16B 0LATIN SMALL LETTER U WITH MACRON;1CAPITAL LETTER U WITH BREVE;1SMALL LETTER U WITH BREVE
16E 0LATIN CAPITAL LETTER U WITH RING ABOVE;1SMALL LETTER U WITH RING ABOVE
170 0LATIN CAPITAL LETTER U WITH DOUBLE ACUTE;1SMALL LETTER U WITH DOUBLE ACUTE
172 0LATIN CAPITAL LETTER U WITH OGONEK;1SMALL LETTER U WITH OGONEK
174 0LATIN CAPITAL LETTER W WITH CIRCUMFLEX;1SMALL LETTER W WITH CIRCUMFLEX
176 0LATIN CAPITAL LETTER Y WITH CIRCUMFLEX;1SMALL LETTER Y WITH CIRCUMFLEX
178 0LATIN CAPITAL LETTER Y WITH DIAERESIS;3Z WITH ACUTE;1SMALL LETTER Z WITH ACUTE
17B 0LATIN CAPITAL LETTER Z WITH DOT ABOVE;1SMALL LETTER Z WITH DOT ABOVE
17D 0LATIN CAPITAL LETTER Z WITH CARON;1SMALL LETTER Z WITH CARON;3LONG S;3B WITH STROKE
181 0LATIN CAPITAL LETTER B WITH HOOK;5TOPBAR;1SMALL LETTER B WITH TOPBAR;1CAPITAL LETTER TONE SIX
185 0LATIN SMALL LETTER TONE SIX;1CAPITAL LETTER OPEN O;3C WITH HOOK;1SMALL LETTER C WITH HOOK
189 0LATIN CAPITAL LETTER AFRICAN D;3D WITH HOOK;5TOPBAR;1SMALL LETTER D WITH TOPBAR;3TURNED DELTA
18E 0LATIN CAPITAL LETTER REVERSED E;3SCHWA;3OPEN E;3F WITH HOOK;1SMALL LETTER F WITH HOOK
193 0LATIN CAPITAL LETTER G WITH HOOK;3GAMMA;1SMALL LETTER HV;1CAPITAL LETTER IOTA;3I WITH STROKE
198 0LATIN CAPITAL LETTER K WITH HOOK;1SMALL LETTER K WITH HOOK;3L WITH BAR;3LAMBDA WITH STROKE
19C 0LATIN CAPITAL LETTER TURNED M;3N WITH LEFT HOOK;1SMALL LETTER N WITH LONG RIGHT LEG
19F 0LATIN CAPITAL LETTER O WITH MIDDLE TILDE;5HORN;1SMALL LETTER O WITH HORN;1CAPITAL LETTER OI
1A3 0LATIN SMALL LETTER OI;1CAPITAL LETTER P WITH HOOK;1SMALL LETTER P WITH HOOK;1LETTER YR
1A7 0LATIN CAPITAL LETTER TONE TWO;1SMALL LETTER TONE TWO;1CAPITAL LETTER ESH
1AA 0LATIN LETTER REVERSED ESH LOOP;1SMALL LETTER T WITH PALATAL HOOK;1CAPITAL LETTER T WITH HOOK
1AD 0LATIN SMALL LETTER T WITH HOOK;1CAPITAL LETTER T WITH RETROFLEX HOOK;3U WITH HORN
1B0 0LATIN SMALL LETTER U WITH HORN;1CAPITAL LETTER UPSILON;3V WITH HOOK;3Y WITH HOOK
1B4 0LATIN SMALL LETTER Y WITH HOOK;1CAPITAL LETTER Z WITH STROKE;1SMALL LETTER Z WITH STROKE
1B7 0LATIN CAPITAL LETTER EZH;4REVERSED;1SMALL LETTER EZH REVERSED;4WITH TAIL
1BB 0LATIN LETTER TWO WITH STROKE;1CAPITAL LETTER TONE FIVE;1SMALL LETTER TONE FIVE
1BE 0LATIN LETTER INVERTED GLOTTAL STOP WITH STROKE;2WYNN;2DENTAL CLICK;2LATERAL CLICK
1C2 0LATIN LETTER ALVEOLAR CLICK;2RETROFLEX CLICK;1CAPITAL LETTER DZ WITH CARON
1C5 0LATIN CAPITAL LETTER D WITH SMALL LETTER Z WITH CARON;1SMALL LETTER DZ WITH CARON
1C7 0LATIN CAPITAL LETTER LJ;3L WITH SMALL LETTER J;1SMALL LETTER LJ;1CAPITAL LETTER NJ
1CB 0LATIN CAPITAL LETTER N WITH SMALL LETTER J;1SMALL LETTER NJ;1CAPITAL LETTER A WITH CARON
1CE 0LATIN SMALL LETTER A WITH CARON;1CAPITAL LETTER I WITH CARON;1SMALL LETTER I WITH CARON
1D1 0LATIN CAPITAL LETTER O WITH CARON;1SMALL LETTER O WITH CARON;1CAPITAL LETTER U WITH CARON
1D4 0LATIN SMALL LETTER U WITH CARON;1CAPITAL LETTER U WITH DIAERESIS AND MACRON
1D6 0LATIN SMALL LETTER U WITH DIAERESIS AND MACRON;1CAPITAL LETTER U WITH DIAERESIS AND ACUTE
1D8 0LATIN SMALL LETTER U WITH DIAERESIS AND ACUTE;1CAPITAL LETTER U WITH DIAERESIS AND CARON
1DA 0LATIN SMALL LETTER U WITH DIAERESIS AND CARON;1CAPITAL LETTER U WITH DIAERESIS AND GRAVE
1DC 0LATIN SMALL LETTER U WITH DIAERESIS AND GRAVE;3TURNED E
1DE 0LATIN CAPITAL LETTER A WITH DIAERESIS AND MACRON;1SMALL LETTER A WITH DIAERESIS AND MACRON
1E0 0LATIN CAPITAL LETTER A WITH DOT ABOVE AND MACRON;1SMALL LETTER A WITH DOT ABOVE AND MACRON
1E2 0LATIN CAPITAL LETTER AE WITH MACRON;1SMALL LETTER AE WITH MACRON;1CAPITAL LETTER G WITH STROKE
1E5 0LATIN SMALL LETTER G WITH STROKE;1CAPITAL LETTER G WITH CARON;1SMALL LETTER G WITH CARON
1E8 0LATIN CAPITAL LETTER K WITH CARON;1SMALL LETTER K WITH CARON;1CAPITAL LETTER O WITH OGONEK
1EB 0LATIN SMALL LETTER O WITH OGONEK;1CAPITAL LETTER O WITH OGONEK AND MACRON
1ED 0LATIN SMALL LETTER O WITH OGONEK AND MACRON;1CAPITAL LETTER EZH WITH CARON
1EF 0LATIN SMALL LETTER EZH WITH CARON;3J WITH CARON;1CAPITAL LETTER DZ;3D WITH SMALL LETTER Z
1F3 0LATIN SMALL LETTER DZ;1CAPITAL LETTER G WITH ACUTE;1SMALL LETTER G WITH ACUTE
1F6 0LATIN CAPITAL LETTER HWAIR;3WYNN;3N WITH GRAVE;1SMALL LETTER N WITH GRAVE
1FA 0LATIN CAPITAL LETTER A WITH RING ABOVE AND ACUTE;1SMALL LETTER A WITH RING ABOVE AND ACUTE
1FC 0LATIN CAPITAL LETTER AE WITH ACUTE;1SMALL LETTER AE WITH ACUTE
1FE 0LATIN CAPITAL LETTER O WITH STROKE AND ACUTE;1SMALL LETTER O WITH STROKE AND ACUTE
200 0LATIN CAPITAL LETTER A WITH DOUBLE GRAVE;1SMALL LETTER A WITH DOUBLE GRAVE
202 0LATIN CAPITAL LETTER A WITH INVERTED BREVE;1SMALL LETTER A WITH INVERTED BREVE
204 0LATIN CAPITAL LETTER E WITH DOUBLE GRAVE;1SMALL LETTER E WITH DOUBLE GRAVE
206 0LATIN CAPITAL LETTER E WITH INVERTED BREVE;1SMALL LETTER E WITH INVERTED BREVE
208 0LATIN CAPITAL LETTER I WITH DOUBLE GRAVE;1SMALL LETTER I WITH DOUBLE GRAVE
20A 0LATIN CAPITAL LETTER I WITH INVERTED BREVE;1SMALL LETTER I WITH INVERTED BREVE
20C 0LATIN CAPITAL LETTER O WITH DOUBLE GRAVE;1SMALL LETTER O WITH DOUBLE GRAVE
20E 0LATIN CAPITAL LETTER O WITH INVERTED BREVE;1SMALL LETTER O WITH INVERTED BREVE
210 0LATIN CAPITAL LETTER R WITH DOUBLE GRAVE;1SMALL LETTER R WITH DOUBLE GRAVE
212 0LATIN CAPITAL LETTER R WITH INVERTED BREVE;1SMALL LETTER R WITH INVERTED BREVE
214 0LATIN CAPITAL LETTER U WITH DOUBLE GRAVE;1SMALL LETTER U WITH DOUBLE GRAVE
216 0LATIN CAPITAL LETTER U WITH INVERTED BREVE;1SMALL LETTER U WITH INVERTED BREVE
218 0LATIN CAPITAL LETTER S WITH COMMA BELOW;1SMALL LETTER S WITH COMMA BELOW
21A 0LATIN CAPITAL LETTER T WITH COMMA BELOW;1SMALL LETTER T WITH COMMA BELOW;1CAPITAL LETTER YOGH
21D 0LATIN SMALL LETTER YOGH;1CAPITAL LETTER H WITH CARON;1SMALL LETTER H WITH CARON
220 0LATIN CAPITAL LETTER N WITH LONG RIGHT LEG;1SMALL LETTER D WITH CURL;1CAPITAL LETTER OU
223 0LATIN SMALL LETTER OU;1CAPITAL LETTER Z WITH HOOK;1SMALL LETTER Z WITH HOOK
226 0LATIN CAPITAL LETTER A WITH DOT ABOVE;1SMALL LETTER A WITH DOT ABOVE
228 0LATIN CAPITAL LETTER E WITH CEDILLA;1SMALL LETTER E WITH CEDILLA
22A 0LATIN CAPITAL LETTER O WITH DIAERESIS AND MACRON;1SMALL LETTER O WITH DIAERESIS AND MACRON
22C 0LATIN CAPITAL LETTER O WITH TILDE AND MACRON;1SMALL LETTER O WITH TILDE AND MACRON
22E 0LATIN CAPITAL LETTER O WITH DOT ABOVE;1SMALL LETTER O WITH DOT ABOVE
230 0LATIN CAPITAL LETTER O WITH DOT ABOVE AND MACRON;1SMALL LETTER O WITH DOT ABOVE AND MACRON
232 0LATIN CAPITAL LETTER Y WITH MACRON;1SMALL LETTER Y WITH MACRON;3L WITH CURL;3N WITH CURL
236 0LATIN SMALL LETTER T WITH CURL;3DOTLESS J;3DB DIGRAPH;3QP DIGRAPH
23A 0LATIN CAPITAL LETTER A WITH STROKE;3C WITH STROKE;1SMALL LETTER C WITH STROKE
23D 0LATIN CAPITAL LETTER L WITH BAR;3T WITH DIAGONAL STROKE;1SMALL LETTER S WITH SWASH TAIL
240 0LATIN SMALL LETTER Z WITH SWASH TAIL;1CAPITAL LETTER GLOTTAL STOP;1SMALL LETTER GLOTTAL STOP
243 0LATIN CAPITAL LETTER B WITH STROKE;3U BAR;3TURNED V;3E WITH STROKE;1SMALL LETTER E WITH STROKE
248 0LATIN CAPITAL LETTER J WITH STROKE;1SMALL LETTER J WITH STROKE
24A 0LATIN CAPITAL LETTER SMALL Q WITH HOOK TAIL;1SMALL LETTER Q WITH HOOK TAIL
24C 0LATIN CAPITAL LETTER R WITH STROKE;1SMALL LETTER R WITH STROKE;1CAPITAL LETTER Y WITH STROKE
24F 0LATIN SMALL LETTER Y WITH STROKE;3TURNED A;3ALPHA;3TURNED ALPHA;3B WITH HOOK;3OPEN O
255 0LATIN SMALL LETTER C WITH CURL;3D WITH TAIL;5HOOK;3REVERSED E;3SCHWA;4WITH HOOK;3OPEN E
25C 0LATIN SMALL LETTER REVERSED OPEN E;6WITH HOOK;3CLOSED REVERSED OPEN E;3DOTLESS J WITH STROKE
260 0LATIN SMALL LETTER G WITH HOOK;3SCRIPT G;1LETTER SMALL CAPITAL G;1SMALL LETTER GAMMA
264 0LATIN SMALL LETTER RAMS HORN;3TURNED H;3H WITH HOOK;3HENG WITH HOOK;3I WITH STROKE;3IOTA
26A 0LATIN LETTER SMALL CAPITAL I;1SMALL LETTER L WITH MIDDLE TILDE;5BELT;5RETROFLEX HOOK;3LEZH
26F 0LATIN SMALL LETTER TURNED M;5WITH LONG LEG;3M WITH HOOK;3N WITH LEFT HOOK;5RETROFLEX HOOK
274 0LATIN LETTER SMALL CAPITAL N;1SMALL LETTER BARRED O;1LETTER SMALL CAPITAL OE
277 0LATIN SMALL LETTER CLOSED OMEGA;3PHI;3TURNED R;5WITH LONG LEG;6HOOK;3R WITH LONG LEG;5TAIL
27E 0LATIN SMALL LETTER R WITH FISHHOOK;3REVERSED R WITH FISHHOOK;1LETTER SMALL CAPITAL R
281 0LATIN LETTER SMALL CAPITAL INVERTED R;1SMALL LETTER S WITH HOOK;3ESH
284 0LATIN SMALL LETTER DOTLESS J WITH STROKE AND HOOK;3SQUAT REVERSED ESH;3ESH WITH CURL;3TURNED T
288 0LATIN SMALL LETTER T WITH RETROFLEX HOOK;3U BAR;3UPSILON;3V WITH HOOK;3TURNED V;4W;4Y
28F 0LATIN LETTER SMALL CAPITAL Y;1SMALL LETTER Z WITH RETROFLEX HOOK;5CURL;3EZH;4WITH CURL
294 0LATIN LETTER GLOTTAL STOP;2PHARYNGEAL VOICED FRICATIVE;2INVERTED GLOTTAL STOP;2STRETCHED C
298 0LATIN LETTER BILABIAL CLICK;2SMALL CAPITAL B;1SMALL LETTER CLOSED OPEN E
29B 0LATIN LETTER SMALL CAPITAL G WITH HOOK;4H;1SMALL LETTER J WITH CROSSED-TAIL;3TURNED K
29F 0LATIN LETTER SMALL CAPITAL L;1SMALL LETTER Q WITH HOOK;1LETTER GLOTTAL STOP WITH STROKE
2A2 0LATIN LETTER REVERSED GLOTTAL STOP WITH STROKE;1SMALL LETTER DZ DIGRAPH;3DEZH DIGRAPH
2A5 0LATIN SMALL LETTER DZ DIGRAPH WITH CURL;3TS DIGRAPH;3TESH DIGRAPH;3TC DIGRAPH WITH CURL
2A9 0LATIN SMALL LETTER FENG DIGRAPH;3LS DIGRAPH;3LZ DIGRAPH;1LETTER BILABIAL PERCUSSIVE
2AD 0LATIN LETTER BIDENTAL PERCUSSIVE;1SMALL LETTER TURNED H WITH FISHHOOK;7AND TAIL
2B0 0MODIFIER LETTER SMALL H;4WITH HOOK;3J;3R;3TURNED R;5WITH HOOK;3CAPITAL INVERTED R;3W;3Y;2PRIME
2BA 0MODIFIER LETTER DOUBLE PRIME;2TURNED COMMA;2APOSTROPHE;2REVERSED COMMA;2RIGHT HALF RING
2BF 0MODIFIER LETTER LEFT HALF RING;2GLOTTAL STOP;2REVERSED GLOTTAL STOP;2LEFT ARROWHEAD
2C3 0MODIFIER LETTER RIGHT ARROWHEAD;2UP ARROWHEAD;2DOWN ARROWHEAD;2CIRCUMFLEX ACCENT;0CARON
2C8 0MODIFIER LETTER VERTICAL LINE;2MACRON;2ACUTE ACCENT;2GRAVE ACCENT;2LOW VERTICAL LINE;3MACRON
2CE 0MODIFIER LETTER LOW GRAVE ACCENT;3ACUTE ACCENT;2TRIANGULAR COLON;2HALF TRIANGULAR COLON
2D2 0MODIFIER LETTER CENTRED RIGHT HALF RING;3LEFT HALF RING;2UP TACK;2DOWN TACK;2PLUS SIGN
2D7 0MODIFIER LETTER MINUS SIGN;0BREVE;0DOT ABOVE;0RING ABOVE;0OGONEK;0SMALL TILDE
2DD 0DOUBLE ACUTE ACCENT;0MODIFIER LETTER RHOTIC HOOK;2CROSS ACCENT;2SMALL GAMMA;3L;3S;3X
2E4 0MODIFIER LETTER SMALL REVERSED GLOTTAL STOP;2EXTRA-HIGH TONE BAR;2HIGH TONE BAR;2MID TONE BAR
2E8 0MODIFIER LETTER LOW TONE BAR;2EXTRA-LOW TONE BAR;2YIN DEPARTING TONE MARK
2EB 0MODIFIER LETTER YANG DEPARTING TONE MARK;2VOICING;2UNASPIRATED;2DOUBLE APOSTROPHE
2EF 0MODIFIER LETTER LOW DOWN ARROWHEAD;3UP ARROWHEAD;3LEFT ARROWHEAD;3RIGHT ARROWHEAD;3RING
2F4 0MODIFIER LETTER MIDDLE GRAVE ACCENT;3DOUBLE GRAVE ACCENT;4ACUTE ACCENT;2LOW TILDE
2F8 0MODIFIER LETTER RAISED COLON;2BEGIN HIGH TONE;2END HIGH TONE;2BEGIN LOW TONE;2END LOW TONE
2FD 0MODIFIER LETTER SHELF;2OPEN SHELF;2LOW LEFT ARROW;0COMBINING GRAVE ACCENT;1ACUTE ACCENT
302 0COMBINING CIRCUMFLEX ACCENT;1TILDE;1MACRON;1OVERLINE;1BREVE;1DOT ABOVE;1DIAERESIS;1HOOK ABOVE
30A 0COMBINING RING ABOVE;1DOUBLE ACUTE ACCENT;1CARON;1VERTICAL LINE ABOVE
30E 0COMBINING DOUBLE VERTICAL LINE ABOVE;2GRAVE ACCENT;1CANDRABINDU;1INVERTED BREVE
312 0COMBINING TURNED COMMA ABOVE;1COMMA ABOVE;1REVERSED COMMA ABOVE;1COMMA ABOVE RIGHT
316 0COMBINING GRAVE ACCENT BELOW;1ACUTE ACCENT BELOW;1LEFT TACK BELOW;1RIGHT TACK BELOW
31A 0COMBINING LEFT ANGLE ABOVE;1HORN;1LEFT HALF RING BELOW;1UP TACK BELOW;1DOWN TACK BELOW
31F 0COMBINING PLUS SIGN BELOW;1MINUS SIGN BELOW;1PALATALIZED HOOK BELOW;1RETROFLEX HOOK BELOW
323 0COMBINING DOT BELOW;1DIAERESIS BELOW;1RING BELOW;1COMMA BELOW;1CEDILLA;1OGONEK
329 0COMBINING VERTICAL LINE BELOW;1BRIDGE BELOW;1INVERTED DOUBLE ARCH BELOW;1CARON BELOW
32D 0COMBINING CIRCUMFLEX ACCENT BELOW;1BREVE BELOW;1INVERTED BREVE BELOW;1TILDE BELOW
331 0COMBINING MACRON BELOW;1LOW LINE;1DOUBLE LOW LINE;1TILDE OVERLAY;1SHORT STROKE OVERLAY
336 0COMBINING LONG STROKE OVERLAY;1SHORT SOLIDUS OVERLAY;1LONG SOLIDUS OVERLAY
339 0COMBINING RIGHT HALF RING BELOW;1INVERTED BRIDGE BELOW;1SQUARE BELOW;1SEAGULL BELOW;1X ABOVE
33E 0COMBINING VERTICAL TILDE;1DOUBLE OVERLINE;1GRAVE TONE MARK;1ACUTE TONE MARK;1GREEK PERISPOMENI
343 0COMBINING GREEK KORONIS;2DIALYTIKA TONOS;2YPOGEGRAMMENI;1BRIDGE ABOVE;1EQUALS SIGN BELOW
348 0COMBINING DOUBLE VERTICAL LINE BELOW;1LEFT ANGLE BELOW;1NOT TILDE ABOVE;1HOMOTHETIC ABOVE
34C 0COMBINING ALMOST EQUAL TO ABOVE;1LEFT RIGHT ARROW BELOW;1UPWARDS ARROW BELOW;1GRAPHEME JOINER
350 0COMBINING RIGHT ARROWHEAD ABOVE;1LEFT HALF RING ABOVE;1FERMATA;1X BELOW;1LEFT ARROWHEAD BELOW
355 0COMBINING RIGHT ARROWHEAD BELOW;3AND UP ARROWHEAD BELOW;2HALF RING ABOVE;1DOT ABOVE RIGHT
359 0COMBINING ASTERISK BELOW;1DOUBLE RING BELOW;1ZIGZAG ABOVE;1DOUBLE BREVE BELOW;2BREVE;2MACRON
35F 0COMBINING DOUBLE MACRON BELOW;2TILDE;2INVERTED BREVE;2RIGHTWARDS ARROW BELOW
363 0COMBINING LATIN SMALL LETTER A;4E;4I;4O;4U;4C;4D;4H;4M;4R;4T;4V;4X;0GREEK CAPITAL LETTER HETA
371 0GREEK SMALL LETTER HETA;1CAPITAL LETTER ARCHAIC SAMPI;1SMALL LETTER ARCHAIC SAMPI
374 0GREEK NUMERAL SIGN;1LOWER NUMERAL SIGN;1CAPITAL LETTER PAMPHYLIAN DIGAMMA
377 0GREEK SMALL LETTER PAMPHYLIAN DIGAMMA
37A 0GREEK YPOGEGRAMMENI;1SMALL REVERSED LUNATE SIGMA SYMBOL;2DOTTED LUNATE SIGMA SYMBOL
37D 0GREEK SMALL REVERSED DOTTED LUNATE SIGMA SYMBOL;1QUESTION MARK;1CAPITAL LETTER YOT
384 0GREEK TONOS;1DIALYTIKA TONOS;1CAPITAL LETTER ALPHA WITH TONOS;1ANO TELEIA
388 0GREEK CAPITAL LETTER EPSILON WITH TONOS;3ETA WITH TONOS;3IOTA WITH TONOS
38C 0GREEK CAPITAL LETTER OMICRON WITH TONOS
38E 0GREEK CAPITAL LETTER UPSILON WITH TONOS;3OMEGA WITH TONOS
390 0GREEK SMALL LETTER IOTA WITH DIALYTIKA AND TONOS;1CAPITAL LETTER ALPHA;3BETA;3GAMMA;3DELTA
395 0GREEK CAPITAL LETTER EPSILON;3ZETA;3ETA;3THETA;3IOTA;3KAPPA;3LAMDA;3MU;3NU;3XI;3OMICRON;3PI
3A1 0GREEK CAPITAL LETTER RHO
3A3 0GREEK CAPITAL LETTER SIGMA;3TAU;3UPSILON;3PHI;3CHI;3PSI;3OMEGA;3IOTA WITH DIALYTIKA
3AB 0GREEK CAPITAL LETTER UPSILON WITH DIALYTIKA;1SMALL LETTER ALPHA WITH TONOS;3EPSILON WITH TONOS
3AE 0GREEK SMALL LETTER ETA WITH TONOS;3IOTA WITH TONOS;3UPSILON WITH DIALYTIKA AND TONOS;3ALPHA
3B2 0GREEK SMALL LETTER BETA;3GAMMA;3DELTA;3EPSILON;3ZETA;3ETA;3THETA;3IOTA;3KAPPA;3LAMDA;3MU;3NU
3BE 0GREEK SMALL LETTER XI;3OMICRON;3PI;3RHO;3FINAL SIGMA;3SIGMA;3TAU;3UPSILON;3PHI;3CHI;3PSI
3C9 0GREEK SMALL LETTER OMEGA;3IOTA WITH DIALYTIKA;3UPSILON WITH DIALYTIKA;3OMICRON WITH TONOS
3CD 0GREEK SMALL LETTER UPSILON WITH TONOS;3OMEGA WITH TONOS;1CAPITAL KAI SYMBOL;1BETA SYMBOL
3D1 0GREEK THETA SYMBOL;1UPSILON WITH HOOK SYMBOL;3ACUTE AND HOOK SYMBOL;3DIAERESIS AND HOOK SYMBOL
3D5 0GREEK PHI SYMBOL;1PI SYMBOL;1KAI SYMBOL;1LETTER ARCHAIC KOPPA;1SMALL LETTER ARCHAIC KOPPA
3DA 0GREEK LETTER STIGMA;1SMALL LETTER STIGMA;1LETTER DIGAMMA;1SMALL LETTER DIGAMMA;1LETTER KOPPA
3DF 0GREEK SMALL LETTER KOPPA;1LETTER SAMPI;1SMALL LETTER SAMPI;0COPTIC CAPITAL LETTER SHEI
3E3 0COPTIC SMALL LETTER SHEI;1CAPITAL LETTER FEI;1SMALL LETTER FEI;1CAPITAL LETTER KHEI
3E7 0COPTIC SMALL LETTER KHEI;1CAPITAL LETTER HORI;1SMALL LETTER HORI;1CAPITAL LETTER GANGIA
3EB 0COPTIC SMALL LETTER GANGIA;1CAPITAL LETTER SHIMA;1SMALL LETTER SHIMA;1CAPITAL LETTER DEI
3EF 0COPTIC SMALL LETTER DEI;0GREEK KAPPA SYMBOL;1RHO SYMBOL;1LUNATE SIGMA SYMBOL;1LETTER YOT
3F4 0GREEK CAPITAL THETA SYMBOL;1LUNATE EPSILON SYMBOL;1REVERSED LUNATE EPSILON SYMBOL
3F7 0GREEK CAPITAL LETTER SHO;1SMALL LETTER SHO;1CAPITAL LUNATE SIGMA SYMBOL;2LETTER SAN
3FB 0GREEK SMALL LETTER SAN;1RHO WITH STROKE SYMBOL;1CAPITAL REVERSED LUNATE SIGMA SYMBOL
3FE 0GREEK CAPITAL DOTTED LUNATE SIGMA SYMBOL;2REVERSED DOTTED LUNATE SIGMA SYMBOL
400 0CYRILLIC CAPITAL LETTER IE WITH GRAVE;3IO;3DJE;3GJE;3UKRAINIAN IE;3DZE
406 0CYRILLIC CAPITAL LETTER BYELORUSSIAN-UKRAINIAN I;3YI;3JE;3LJE;3NJE;3TSHE;3KJE;3I WITH GRAVE
40E 0CYRILLIC CAPITAL LETTER SHORT U;3DZHE;3A;3BE;3VE;3GHE;3DE;3IE;3ZHE;3ZE;3I;3SHORT I;3KA;3EL;3EM
41D 0CYRILLIC CAPITAL LETTER EN;3O;3PE;3ER;3ES;3TE;3U;3EF;3HA;3TSE;3CHE;3SHA;3SHCHA;3HARD SIGN
42B 0CYRILLIC CAPITAL LETTER YERU;3SOFT SIGN;3E;3YU;3YA;1SMALL LETTER A;3BE;3VE;3GHE;3DE;3IE;3ZHE
437 0CYRILLIC SMALL LETTER ZE;3I;3SHORT I;3KA;3EL;3EM;3EN;3O;3PE;3ER;3ES;3TE;3U;3EF;3HA;3TSE;3CHE
448 0CYRILLIC SMALL LETTER SHA;3SHCHA;3HARD SIGN;3YERU;3SOFT SIGN;3E;3YU;3YA;3IE WITH GRAVE;3IO
452 0CYRILLIC SMALL LETTER DJE;3GJE;3UKRAINIAN IE;3DZE;3BYELORUSSIAN-UKRAINIAN I;3YI;3JE;3LJE;3NJE
45B 0CYRILLIC SMALL LETTER TSHE;3KJE;3I WITH GRAVE;3SHORT U;3DZHE;1CAPITAL LETTER OMEGA
461 0CYRILLIC SMALL LETTER OMEGA;1CAPITAL LETTER YAT;1SMALL LETTER YAT;1CAPITAL LETTER IOTIFIED E
465 0CYRILLIC SMALL LETTER IOTIFIED E;1CAPITAL LETTER LITTLE YUS;1SMALL LETTER LITTLE YUS
468 0CYRILLIC CAPITAL LETTER IOTIFIED LITTLE YUS;1SMALL LETTER IOTIFIED LITTLE YUS
46A 0CYRILLIC CAPITAL LETTER BIG YUS;1SMALL LETTER BIG YUS;1CAPITAL LETTER IOTIFIED BIG YUS
46D 0CYRILLIC SMALL LETTER IOTIFIED BIG YUS;1CAPITAL LETTER KSI;1SMALL LETTER KSI
470 0CYRILLIC CAPITAL LETTER PSI;1SMALL LETTER PSI;1CAPITAL LETTER FITA;1SMALL LETTER FITA
474 0CYRILLIC CAPITAL LETTER IZHITSA;1SMALL LETTER IZHITSA
476 0CYRILLIC CAPITAL LETTER IZHITSA WITH DOUBLE GRAVE ACCENT
477 0CYRILLIC SMALL LETTER IZHITSA WITH DOUBLE GRAVE ACCENT;1CAPITAL LETTER UK;1SMALL LETTER UK
47A 0CYRILLIC CAPITAL LETTER ROUND OMEGA;1SMALL LETTER ROUND OMEGA;1CAPITAL LETTER OMEGA WITH TITLO
47D 0CYRILLIC SMALL LETTER OMEGA WITH TITLO;1CAPITAL LETTER OT;1SMALL LETTER OT
480 0CYRILLIC CAPITAL LETTER KOPPA;1SMALL LETTER KOPPA;1THOUSANDS SIGN;0COMBINING CYRILLIC TITLO
484 0COMBINING CYRILLIC PALATALIZATION;2DASIA PNEUMATA;2PSILI PNEUMATA;2POKRYTIE
488 0COMBINING CYRILLIC HUNDRED THOUSANDS SIGN;2MILLIONS SIGN
48A 0CYRILLIC CAPITAL LETTER SHORT I WITH TAIL;1SMALL LETTER SHORT I WITH TAIL
48C 0CYRILLIC CAPITAL LETTER SEMISOFT SIGN;1SMALL LETTER SEMISOFT SIGN;1CAPITAL LETTER ER WITH TICK
48F 0CYRILLIC SMALL LETTER ER WITH TICK;1CAPITAL LETTER GHE WITH UPTURN
491 0CYRILLIC SMALL LETTER GHE WITH UPTURN;1CAPITAL LETTER GHE WITH STROKE
493 0CYRILLIC SMALL LETTER GHE WITH STROKE;1CAPITAL LETTER GHE WITH MIDDLE HOOK
495 0CYRILLIC SMALL LETTER GHE WITH MIDDLE HOOK;1CAPITAL LETTER ZHE WITH DESCENDER
497 0CYRILLIC SMALL LETTER ZHE WITH DESCENDER;1CAPITAL LETTER ZE WITH DESCENDER
499 0CYRILLIC SMALL LETTER ZE WITH DESCENDER;1CAPITAL LETTER KA WITH DESCENDER
49B 0CYRILLIC SMALL LETTER KA WITH DESCENDER;1CAPITAL LETTER KA WITH VERTICAL STROKE
49D 0CYRILLIC SMALL LETTER KA WITH VERTICAL STROKE;1CAPITAL LETTER KA WITH STROKE
49F 0CYRILLIC SMALL LETTER KA WITH STROKE;1CAPITAL LETTER BASHKIR KA;1SMALL LETTER BASHKIR KA
4A2 0CYRILLIC CAPITAL LETTER EN WITH DESCENDER;1SMALL LETTER EN WITH DESCENDER
4A4 0CYRILLIC CAPITAL LIGATURE EN GHE;1SMALL LIGATURE EN GHE;1CAPITAL LETTER PE WITH MIDDLE HOOK
4A7 0CYRILLIC SMALL LETTER PE WITH MIDDLE HOOK;1CAPITAL LETTER ABKHASIAN HA
4A9 0CYRILLIC SMALL LETTER ABKHASIAN HA;1CAPITAL LETTER ES WITH DESCENDER
4AB 0CYRILLIC SMALL LETTER ES WITH DESCENDER;1CAPITAL LETTER TE WITH DESCENDER
4AD 0CYRILLIC SMALL LETTER TE WITH DESCENDER;1CAPITAL LETTER STRAIGHT U;1SMALL LETTER STRAIGHT U
4B0 0CYRILLIC CAPITAL LETTER STRAIGHT U WITH STROKE;1SMALL LETTER STRAIGHT U WITH STROKE
4B2 0CYRILLIC CAPITAL LETTER HA WITH DESCENDER;1SMALL LETTER HA WITH DESCENDER
4B4 0CYRILLIC CAPITAL LIGATURE TE TSE;1SMALL LIGATURE TE TSE;1CAPITAL LETTER CHE WITH DESCENDER
4B7 0CYRILLIC SMALL LETTER CHE WITH DESCENDER;1CAPITAL LETTER CHE WITH VERTICAL STROKE
4B9 0CYRILLIC SMALL LETTER CHE WITH VERTICAL STROKE;1CAPITAL LETTER SHHA;1SMALL LETTER SHHA
4BC 0CYRILLIC CAPITAL LETTER ABKHASIAN CHE;1SMALL LETTER ABKHASIAN CHE
4BE 0CYRILLIC CAPITAL LETTER ABKHASIAN CHE WITH DESCENDER
4BF 0CYRILLIC SMALL LETTER ABKHASIAN CHE WITH DESCENDER;1LETTER PALOCHKA
4C1 0CYRILLIC CAPITAL LETTER ZHE WITH BREVE;1SMALL LETTER ZHE WITH BREVE
4C3 0CYRILLIC CAPITAL LETTER KA WITH HOOK;1SMALL LETTER KA WITH HOOK;1CAPITAL LETTER EL WITH TAIL
4C6 0CYRILLIC SMALL LETTER EL WITH TAIL;1CAPITAL LETTER EN WITH HOOK;1SMALL LETTER EN WITH HOOK
4C9 0CYRILLIC CAPITAL LETTER EN WITH TAIL;1SMALL LETTER EN WITH TAIL;1CAPITAL LETTER KHAKASSIAN CHE
4CC 0CYRILLIC SMALL LETTER KHAKASSIAN CHE;1CAPITAL LETTER EM WITH TAIL;1SMALL LETTER EM WITH TAIL
4CF 0CYRILLIC SMALL LETTER PALOCHKA;1CAPITAL LETTER A WITH BREVE;1SMALL LETTER A WITH BREVE
4D2 0CYRILLIC CAPITAL LETTER A WITH DIAERESIS;1SMALL LETTER A WITH DIAERESIS;1CAPITAL LIGATURE A IE
4D5 0CYRILLIC SMALL LIGATURE A IE;1CAPITAL LETTER IE WITH BREVE;1SMALL LETTER IE WITH BREVE
4D8 0CYRILLIC CAPITAL LETTER SCHWA;1SMALL LETTER SCHWA;1CAPITAL LETTER SCHWA WITH DIAERESIS
4DB 0CYRILLIC SMALL LETTER SCHWA WITH DIAERESIS;1CAPITAL LETTER ZHE WITH DIAERESIS
4DD 0CYRILLIC SMALL LETTER ZHE WITH DIAERESIS;1CAPITAL LETTER ZE WITH DIAERESIS
4DF 0CYRILLIC SMALL LETTER ZE WITH DIAERESIS;1CAPITAL LETTER ABKHASIAN DZE
4E1 0CYRILLIC SMALL LETTER ABKHASIAN DZE;1CAPITAL LETTER I WITH MACRON;1SMALL LETTER I WITH MACRON
4E4 0CYRILLIC CAPITAL LETTER I WITH DIAERESIS;1SMALL LETTER I WITH DIAERESIS
4E6 0CYRILLIC CAPITAL LETTER O WITH DIAERESIS;1SMALL LETTER O WITH DIAERESIS
4E8 0CYRILLIC CAPITAL LETTER BARRED O;1SMALL LETTER BARRED O
4EA 0CYRILLIC CAPITAL LETTER BARRED O WITH DIAERESIS;1SMALL LETTER BARRED O WITH DIAERESIS
4EC 0CYRILLIC CAPITAL LETTER E WITH DIAERESIS;1SMALL LETTER E WITH DIAERESIS
4EE 0CYRILLIC CAPITAL LETTER U WITH MACRON;1SMALL LETTER U WITH MACRON
4F0 0CYRILLIC CAPITAL LETTER U WITH DIAERESIS;1SMALL LETTER U WITH DIAERESIS
4F2 0CYRILLIC CAPITAL LETTER U WITH DOUBLE ACUTE;1SMALL LETTER U WITH DOUBLE ACUTE
4F4 0CYRILLIC CAPITAL LETTER CHE WITH DIAERESIS;1SMALL LETTER CHE WITH DIAERESIS
4F6 0CYRILLIC CAPITAL LETTER GHE WITH DESCENDER;1SMALL LETTER GHE WITH DESCENDER
4F8 0CYRILLIC CAPITAL LETTER YERU WITH DIAERESIS;1SMALL LETTER YERU WITH DIAERESIS
4FA 0CYRILLIC CAPITAL LETTER GHE WITH STROKE AND HOOK;1SMALL LETTER GHE WITH STROKE AND HOOK
4FC 0CYRILLIC CAPITAL LETTER HA WITH HOOK;1SMALL LETTER HA WITH HOOK;1CAPITAL LETTER HA WITH STROKE
4FF 0CYRILLIC SMALL LETTER HA WITH STROKE;1CAPITAL LETTER KOMI DE;1SMALL LETTER KOMI DE
502 0CYRILLIC CAPITAL LETTER KOMI DJE;1SMALL LETTER KOMI DJE;1CAPITAL LETTER KOMI ZJE
505 0CYRILLIC SMALL LETTER KOMI ZJE;1CAPITAL LETTER KOMI DZJE;1SMALL LETTER KOMI DZJE
508 0CYRILLIC CAPITAL LETTER KOMI LJE;1SMALL LETTER KOMI LJE;1CAPITAL LETTER KOMI NJE
50B 0CYRILLIC SMALL LETTER KOMI NJE;1CAPITAL LETTER KOMI SJE;1SMALL LETTER KOMI SJE
50E 0CYRILLIC CAPITAL LETTER KOMI TJE;1SMALL LETTER KOMI TJE;1CAPITAL LETTER REVERSED ZE
511 0CYRILLIC SMALL LETTER REVERSED ZE;1CAPITAL LETTER EL WITH HOOK;1SMALL LETTER EL WITH HOOK
514 0CYRILLIC CAPITAL LETTER LHA;1SMALL LETTER LHA;1CAPITAL LETTER RHA;1SMALL LETTER RHA
518 0CYRILLIC CAPITAL LETTER YAE;1SMALL LETTER YAE;1CAPITAL LETTER QA;1SMALL LETTER QA
51C 0CYRILLIC CAPITAL LETTER WE;1SMALL LETTER WE;1CAPITAL LETTER ALEUT KA;1SMALL LETTER ALEUT KA
520 0CYRILLIC CAPITAL LETTER EL WITH MIDDLE HOOK;1SMALL LETTER EL WITH MIDDLE HOOK
522 0CYRILLIC CAPITAL LETTER EN WITH MIDDLE HOOK;1SMALL LETTER EN WITH MIDDLE HOOK
524 0CYRILLIC CAPITAL LETTER PE WITH DESCENDER;1SMALL LETTER PE WITH DESCENDER
526 0CYRILLIC CAPITAL LETTER SHHA WITH DESCENDER;1SMALL LETTER SHHA WITH DESCENDER
528 0CYRILLIC CAPITAL LETTER EN WITH LEFT HOOK;1SMALL LETTER EN WITH LEFT HOOK
52A 0CYRILLIC CAPITAL LETTER DZZHE;1SMALL LETTER DZZHE;1CAPITAL LETTER DCHE;1SMALL LETTER DCHE
52E 0CYRILLIC CAPITAL LETTER EL WITH DESCENDER;1SMALL LETTER EL WITH DESCENDER
531 0ARMENIAN CAPITAL LETTER AYB;3BEN;3GIM;3DA;3ECH;3ZA;3EH;3ET;3TO;3ZHE;3INI;3LIWN;3XEH;3CA;3KEN
540 0ARMENIAN CAPITAL LETTER HO;3JA;3GHAD;3CHEH;3MEN;3YI;3NOW;3SHA;3VO;3CHA;3PEH;3JHEH;3RA;3SEH
54E 0ARMENIAN CAPITAL LETTER VEW;3TIWN;3REH;3CO;3YIWN;3PIWR;3KEH;3OH;3FEH
559 0ARMENIAN MODIFIER LETTER LEFT HALF RING;1APOSTROPHE;1EMPHASIS MARK;1EXCLAMATION MARK;1COMMA
55E 0ARMENIAN QUESTION MARK;1ABBREVIATION MARK;1SMALL LETTER TURNED AYB;3AYB;3BEN;3GIM;3DA;3ECH;3ZA
567 0ARMENIAN SMALL LETTER EH;3ET;3TO;3ZHE;3INI;3LIWN;3XEH;3CA;3KEN;3HO;3JA;3GHAD;3CHEH;3MEN;3YI
576 0ARMENIAN SMALL LETTER NOW;3SHA;3VO;3CHA;3PEH;3JHEH;3RA;3SEH;3VEW;3TIWN;3REH;3CO;3YIWN;3PIWR
584 0ARMENIAN SMALL LETTER KEH;3OH;3FEH;2LIGATURE ECH YIWN;2LETTER YI WITH STROKE;1FULL STOP
58A 0ARMENIAN HYPHEN
58D 0RIGHT-FACING ARMENIAN ETERNITY SIGN;0LEFT-FACING ARMENIAN ETERNITY SIGN;0ARMENIAN DRAM SIGN
591 0HEBREW ACCENT ETNAHTA;2SEGOL;2SHALSHELET;2ZAQEF QATAN;3GADOL;2TIPEHA;2REVIA;2ZARQA;2PASHTA
59A 0HEBREW ACCENT YETIV;2TEVIR;2GERESH;3MUQDAM;2GERSHAYIM;2QARNEY PARA;2TELISHA GEDOLA;2PAZER
5A2 0HEBREW ACCENT ATNAH HAFUKH;2MUNAH;2MAHAPAKH;2MERKHA;3KEFULA;2DARGA;2QADMA;2TELISHA QETANA
5AA 0HEBREW ACCENT YERAH BEN YOMO;2OLE;2ILUY;2DEHI;2ZINOR;1MARK MASORA CIRCLE;1POINT SHEVA
5B1 0HEBREW POINT HATAF SEGOL;3PATAH;3QAMATS;2HIRIQ;2TSERE;2SEGOL;2PATAH;2QAMATS;2HOLAM
5BA 0HEBREW POINT HOLAM HASER FOR VAV;2QUBUTS;2DAGESH OR MAPIQ;2METEG;1PUNCTUATION MAQAF
5BF 0HEBREW POINT RAFE;1PUNCTUATION PASEQ;1POINT SHIN DOT;2SIN DOT;1PUNCTUATION SOF PASUQ
5C4 0HEBREW MARK UPPER DOT;2LOWER DOT;1PUNCTUATION NUN HAFUKHA;1POINT QAMATS QATAN
5D0 0HEBREW LETTER ALEF;2BET;2GIMEL;2DALET;2HE;2VAV;2ZAYIN;2HET;2TET;2YOD;2FINAL KAF;2KAF;2LAMED
5DD 0HEBREW LETTER FINAL MEM;2MEM;2FINAL NUN;2NUN;2SAMEKH;2AYIN;2FINAL PE;2PE;2FINAL TSADI;2TSADI
5E7 0HEBREW LETTER QOF;2RESH;2SHIN;2TAV
5EF 0HEBREW YOD TRIANGLE;1LIGATURE YIDDISH DOUBLE VAV;3VAV YOD;3DOUBLE YOD;1PUNCTUATION GERESH
5F4 0HEBREW PUNCTUATION GERSHAYIM
600 0ARABIC NUMBER SIGN;1SIGN SANAH;1FOOTNOTE MARKER;1SIGN SAFHA;2SAMVAT;1NUMBER MARK ABOVE
606 0ARABIC-INDIC CUBE ROOT;1FOURTH ROOT;0ARABIC RAY;0ARABIC-INDIC PER MILLE SIGN
60A 0ARABIC-INDIC PER TEN THOUSAND SIGN;0AFGHANI SIGN;0ARABIC COMMA;1DATE SEPARATOR
60E 0ARABIC POETIC VERSE SIGN;1SIGN MISRA;2SALLALLAHOU ALAYHE WASSALLAM;2ALAYHE ASSALLAM
612 0ARABIC SIGN RAHMATULLAH ALAYHE;2RADI ALLAHOU ANHU;2TAKHALLUS;1SMALL HIGH TAH
616 0ARABIC SMALL HIGH LIGATURE ALEF WITH LAM WITH YEH;3ZAIN;2FATHA;2DAMMA;2KASRA;1SEMICOLON
61C 0ARABIC LETTER MARK;1END OF TEXT MARK;1TRIPLE DOT PUNCTUATION MARK;1QUESTION MARK
620 0ARABIC LETTER KASHMIRI YEH;2HAMZA;2ALEF WITH MADDA ABOVE;4HAMZA ABOVE;2WAW WITH HAMZA ABOVE
625 0ARABIC LETTER ALEF WITH HAMZA BELOW;2YEH WITH HAMZA ABOVE;2ALEF;2BEH;2TEH MARBUTA;2TEH;2THEH
62C 0ARABIC LETTER JEEM;2HAH;2KHAH;2DAL;2THAL;2REH;2ZAIN;2SEEN;2SHEEN;2SAD;2DAD;2TAH;2ZAH;2AIN
63A 0ARABIC LETTER GHAIN;2KEHEH WITH TWO DOTS ABOVE;4THREE DOTS BELOW;2FARSI YEH WITH INVERTED V
63E 0ARABIC LETTER FARSI YEH WITH TWO DOTS ABOVE;5THREE DOTS ABOVE;1TATWEEL;1LETTER FEH;2QAF;2KAF
644 0ARABIC LETTER LAM;2MEEM;2NOON;2HEH;2WAW;2ALEF MAKSURA;2YEH;1FATHATAN;1DAMMATAN;1KASRATAN
64E 0ARABIC FATHA;1DAMMA;1KASRA;1SHADDA;1SUKUN;1MADDAH ABOVE;1HAMZA ABOVE;2BELOW;1SUBSCRIPT ALEF
657 0ARABIC INVERTED DAMMA;1MARK NOON GHUNNA;1ZWARAKAY;1VOWEL SIGN SMALL V ABOVE
65B 0ARABIC VOWEL SIGN INVERTED SMALL V ABOVE;3DOT BELOW;1REVERSED DAMMA;1FATHA WITH TWO DOTS
65F 0ARABIC WAVY HAMZA BELOW;0ARABIC-INDIC DIGIT ZERO;2ONE;2TWO;2THREE;2FOUR;2FIVE;2SIX;2SEVEN
668 0ARABIC-INDIC DIGIT EIGHT;2NINE;0ARABIC PERCENT SIGN;1DECIMAL SEPARATOR;1THOUSANDS SEPARATOR
66D 0ARABIC FIVE POINTED STAR;1LETTER DOTLESS BEH;3QAF;2SUPERSCRIPT ALEF;2ALEF WASLA
672 0ARABIC LETTER ALEF WITH WAVY HAMZA ABOVE;6BELOW;2HIGH HAMZA;4ALEF;4WAW;2U WITH HAMZA ABOVE
678 0ARABIC LETTER HIGH HAMZA YEH;2TTEH;2TTEHEH;2BEEH;2TEH WITH RING;4THREE DOTS ABOVE DOWNWARDS
67E 0ARABIC LETTER PEH;2TEHEH;2BEHEH;2HAH WITH HAMZA ABOVE;4TWO DOTS VERTICAL ABOVE;2NYEH;2DYEH
685 0ARABIC LETTER HAH WITH THREE DOTS ABOVE;2TCHEH;2TCHEHEH;2DDAL;2DAL WITH RING;4DOT BELOW
68B 0ARABIC LETTER DAL WITH DOT BELOW AND SMALL TAH;2DAHAL;2DDAHAL;2DUL
68F 0ARABIC LETTER DAL WITH THREE DOTS ABOVE DOWNWARDS;4FOUR DOTS ABOVE;2RREH;2REH WITH SMALL V
693 0ARABIC LETTER REH WITH RING;4DOT BELOW;4SMALL V BELOW;4DOT BELOW AND DOT ABOVE;4TWO DOTS ABOVE
698 0ARABIC LETTER JEH;2REH WITH FOUR DOTS ABOVE;2SEEN WITH DOT BELOW AND DOT ABOVE
69B 0ARABIC LETTER SEEN WITH THREE DOTS BELOW;7AND THREE DOTS ABOVE;2SAD WITH TWO DOTS BELOW
69E 0ARABIC LETTER SAD WITH THREE DOTS ABOVE;2TAH WITH THREE DOTS ABOVE;2AIN WITH THREE DOTS ABOVE
6A1 0ARABIC LETTER DOTLESS FEH;2FEH WITH DOT MOVED BELOW;5BELOW;2VEH;2FEH WITH THREE DOTS BELOW
6A6 0ARABIC LETTER PEHEH;2QAF WITH DOT ABOVE;4THREE DOTS ABOVE;2KEHEH;2SWASH KAF;2KAF WITH RING
6AC 0ARABIC LETTER KAF WITH DOT ABOVE;2NG;2KAF WITH THREE DOTS BELOW;2GAF;3WITH RING;2NGOEH
6B2 0ARABIC LETTER GAF WITH TWO DOTS BELOW;2GUEH;2GAF WITH THREE DOTS ABOVE;2LAM WITH SMALL V
6B6 0ARABIC LETTER LAM WITH DOT ABOVE;4THREE DOTS ABOVE;6BELOW;2NOON WITH DOT BELOW;3GHUNNA;2RNOON
6BC 0ARABIC LETTER NOON WITH RING;4THREE DOTS ABOVE;2HEH DOACHASHMEE;2TCHEH WITH DOT ABOVE
6C0 0ARABIC LETTER HEH WITH YEH ABOVE;3GOAL;4WITH HAMZA ABOVE;2TEH MARBUTA GOAL;2WAW WITH RING
6C5 0ARABIC LETTER KIRGHIZ OE;2OE;2U;2YU;2KIRGHIZ YU;2WAW WITH TWO DOTS ABOVE;2VE;2FARSI YEH
6CD 0ARABIC LETTER YEH WITH TAIL;4SMALL V;2WAW WITH DOT ABOVE;2E;2YEH WITH THREE DOTS BELOW;3BARREE
6D3 0ARABIC LETTER YEH BARREE WITH HAMZA ABOVE;1FULL STOP;1LETTER AE
6D6 0ARABIC SMALL HIGH LIGATURE SAD WITH LAM WITH ALEF MAKSURA;4QAF WITH LAM WITH ALEF MAKSURA
6D8 0ARABIC SMALL HIGH MEEM INITIAL FORM;3LAM ALEF;3JEEM;3THREE DOTS;3SEEN;1END OF AYAH
6DE 0ARABIC START OF RUB EL HIZB;1SMALL HIGH ROUNDED ZERO;3UPRIGHT RECTANGULAR ZERO
6E1 0ARABIC SMALL HIGH DOTLESS HEAD OF KHAH;3MEEM ISOLATED FORM;2LOW SEEN;2HIGH MADDA;2WAW;2YEH
6E7 0ARABIC SMALL HIGH YEH;3NOON;1PLACE OF SAJDAH;1EMPTY CENTRE LOW STOP;3HIGH STOP
6EC 0ARABIC ROUNDED HIGH STOP WITH FILLED CENTRE;1SMALL LOW MEEM;1LETTER DAL WITH INVERTED V
6EF 0ARABIC LETTER REH WITH INVERTED V;0EXTENDED ARABIC-INDIC DIGIT ZERO;3ONE;3TWO;3THREE;3FOUR
6F5 0EXTENDED ARABIC-INDIC DIGIT FIVE;3SIX;3SEVEN;3EIGHT;3NINE;0ARABIC LETTER SHEEN WITH DOT BELOW
6FB 0ARABIC LETTER DAD WITH DOT BELOW;2GHAIN WITH DOT BELOW;1SIGN SINDHI AMPERSAND
6FE 0ARABIC SIGN SINDHI POSTPOSITION MEN;1LETTER HEH WITH INVERTED V;0SYRIAC END OF PARAGRAPH
701 0SYRIAC SUPRALINEAR FULL STOP;1SUBLINEAR FULL STOP;1SUPRALINEAR COLON;1SUBLINEAR COLON
705 0SYRIAC HORIZONTAL COLON;1COLON SKEWED LEFT;3RIGHT;1SUPRALINEAR COLON SKEWED LEFT
709 0SYRIAC SUBLINEAR COLON SKEWED RIGHT;1CONTRACTION;1HARKLEAN OBELUS;2METOBELUS;2ASTERISCUS
70F 0SYRIAC ABBREVIATION MARK;1LETTER ALAPH;2SUPERSCRIPT ALAPH;2BETH;2GAMAL;3GARSHUNI;2DALATH
716 0SYRIAC LETTER DOTLESS DALATH RISH;2HE;2WAW;2ZAIN;2HETH;2TETH;3GARSHUNI;2YUDH;3HE;2KAPH;2LAMADH
721 0SYRIAC LETTER MIM;2NUN;2SEMKATH;2FINAL SEMKATH;2E;2PE;2REVERSED PE;2SADHE;2QAPH;2RISH;2SHIN
72C 0SYRIAC LETTER TAW;2PERSIAN BHETH;3GHAMAL;3DHALATH;1PTHAHA ABOVE;2BELOW;2DOTTED;1ZQAPHA ABOVE
734 0SYRIAC ZQAPHA BELOW;2DOTTED;1RBASA ABOVE;2BELOW;1DOTTED ZLAMA HORIZONTAL;3ANGULAR;1HBASA ABOVE
73B 0SYRIAC HBASA BELOW;1HBASA-ESASA DOTTED;1ESASA ABOVE;2BELOW;1RWAHA;1FEMININE DOT;1QUSHSHAYA
742 0SYRIAC RUKKAKHA;1TWO VERTICAL DOTS ABOVE;4BELOW;1THREE DOTS ABOVE;3BELOW;1OBLIQUE LINE ABOVE
748 0SYRIAC OBLIQUE LINE BELOW;1MUSIC;1BARREKH
74D 0SYRIAC LETTER SOGDIAN ZHAIN;3KHAPH;3FE;0ARABIC LETTER BEH WITH THREE DOTS HORIZONTALLY BELOW
751 0ARABIC LETTER BEH WITH DOT BELOW AND THREE DOTS ABOVE;4THREE DOTS POINTING UPWARDS BELOW
753 0ARABIC LETTER BEH WITH THREE DOTS POINTING UPWARDS BELOW AND TWO DOTS ABOVE
754 0ARABIC LETTER BEH WITH TWO DOTS BELOW AND DOT ABOVE;4INVERTED SMALL V BELOW;4SMALL V
757 0ARABIC LETTER HAH WITH TWO DOTS ABOVE;4THREE DOTS POINTING UPWARDS BELOW
759 0ARABIC LETTER DAL WITH TWO DOTS VERTICALLY BELOW AND SMALL TAH;4INVERTED SMALL V BELOW
75B 0ARABIC LETTER REH WITH STROKE;2SEEN WITH FOUR DOTS ABOVE;2AIN WITH TWO DOTS ABOVE
75E 0ARABIC LETTER AIN WITH THREE DOTS POINTING DOWNWARDS ABOVE;4TWO DOTS VERTICALLY ABOVE
760 0ARABIC LETTER FEH WITH TWO DOTS BELOW;4THREE DOTS POINTING UPWARDS BELOW;2KEHEH WITH DOT ABOVE
763 0ARABIC LETTER KEHEH WITH THREE DOTS ABOVE;6POINTING UPWARDS BELOW;2MEEM WITH DOT ABOVE;5BELOW
767 0ARABIC LETTER NOON WITH TWO DOTS BELOW;4SMALL TAH;5V;2LAM WITH BAR
76B 0ARABIC LETTER REH WITH TWO DOTS VERTICALLY ABOVE;4HAMZA ABOVE
76D 0ARABIC LETTER SEEN WITH TWO DOTS VERTICALLY ABOVE;2HAH WITH SMALL ARABIC LETTER TAH BELOW
76F 0ARABIC LETTER HAH WITH SMALL ARABIC LETTER TAH AND TWO DOTS
770 0ARABIC LETTER SEEN WITH SMALL ARABIC LETTER TAH AND TWO DOTS
771 0ARABIC LETTER REH WITH SMALL ARABIC LETTER TAH AND TWO DOTS
772 0ARABIC LETTER HAH WITH SMALL ARABIC LETTER TAH ABOVE
773 0ARABIC LETTER ALEF WITH EXTENDED ARABIC-INDIC DIGIT TWO ABOVE;7THREE ABOVE
775 0ARABIC LETTER FARSI YEH WITH EXTENDED ARABIC-INDIC DIGIT TWO ABOVE;8THREE ABOVE;8FOUR BELOW
778 0ARABIC LETTER WAW WITH EXTENDED ARABIC-INDIC DIGIT TWO ABOVE;7THREE ABOVE
77A 0ARABIC LETTER YEH BARREE WITH EXTENDED ARABIC-INDIC DIGIT TWO ABOVE;8THREE ABOVE
77C 0ARABIC LETTER HAH WITH EXTENDED ARABIC-INDIC DIGIT FOUR BELOW
77D 0ARABIC LETTER SEEN WITH EXTENDED ARABIC-INDIC DIGIT FOUR ABOVE;4INVERTED V
77F 0ARABIC LETTER KAF WITH TWO DOTS ABOVE;0THAANA LETTER HAA;2SHAVIYANI;2NOONU;2RAA;2BAA
785 0THAANA LETTER LHAVIYANI;2KAAFU;2ALIFU;2VAAVU;2MEEMU;2FAAFU;2DHAALU;2THAA;2LAAMU;2GAAFU
78F 0THAANA LETTER GNAVIYANI;2SEENU;2DAVIYANI;2ZAVIYANI;2TAVIYANI;2YAA;2PAVIYANI;2JAVIYANI
797 0THAANA LETTER CHAVIYANI;2TTAA;2HHAA;2KHAA;2THAALU;2ZAA;2SHEENU;2SAADHU;2DAADHU;2TO;2ZO;2AINU
7A3 0THAANA LETTER GHAINU;2QAAFU;2WAAVU;1ABAFILI;1AABAAFILI;1IBIFILI;1EEBEEFILI;1UBUFILI;1OOBOOFILI
7AC 0THAANA EBEFILI;1EYBEYFILI;1OBOFILI;1OABOAFILI;1SUKUN;1LETTER NAA
7C0 0NKO DIGIT ZERO;2ONE;2TWO;2THREE;2FOUR;2FIVE;2SIX;2SEVEN;2EIGHT;2NINE;1LETTER A;2EE;2I;2E;2U
7CF 0NKO LETTER OO;2O;2DAGBASINNA;2N;2BA;2PA;2TA;2JA;2CHA;2DA;2RA;2RRA;2SA;2GBA;2FA;2KA;2LA
7E0 0NKO LETTER NA WOLOSO;2MA;2NYA;2NA;2HA;2WA;2YA;2NYA WOLOSO;2JONA JA;3CHA;3RA
7EB 0NKO COMBINING SHORT HIGH TONE;3LOW TONE;3RISING TONE;2LONG DESCENDING TONE;3HIGH TONE
7F0 0NKO COMBINING LONG LOW TONE;3RISING TONE;2NASALIZATION MARK;2DOUBLE DOT ABOVE
7F4 0NKO HIGH TONE APOSTROPHE;1LOW TONE APOSTROPHE;1SYMBOL OO DENNEN;2GBAKURUNEN;1COMMA
7F9 0NKO EXCLAMATION MARK;1LAJANYALAN
7FD 0NKO DANTAYALAN;1DOROME SIGN;1TAMAN SIGN;0SAMARITAN LETTER ALAF;2BIT;2GAMAN;2DALAT;2IY;2BAA
806 0SAMARITAN LETTER ZEN;2IT;2TIT;2YUT;2KAAF;2LABAT;2MIM;2NUN;2SINGAAT;2IN;2FI;2TSAADIY;2QUF;2RISH
814 0SAMARITAN LETTER SHAN;2TAAF;1MARK IN;2IN-ALAF;2OCCLUSION;2DAGESH
81A 0SAMARITAN MODIFIER LETTER EPENTHETIC YUT;1MARK EPENTHETIC YUT;1VOWEL SIGN LONG E;3E
81E 0SAMARITAN VOWEL SIGN OVERLONG AA;3LONG AA;3AA;3OVERLONG A;3LONG A;3A;1MODIFIER LETTER SHORT A
825 0SAMARITAN VOWEL SIGN SHORT A;3LONG U;3U;1MODIFIER LETTER I;1VOWEL SIGN LONG I;3I;3O;3SUKUN
82D 0SAMARITAN MARK NEQUDAA
830 0SAMARITAN PUNCTUATION NEQUDAA;2AFSAAQ;2ANGED;2BAU;2ATMAAU;2SHIYYAALAA;1ABBREVIATION MARK
837 0SAMARITAN PUNCTUATION MELODIC QITSA;2ZIQAA;2QITSA;2ZAEF;2TURU;2ARKAANU;2SOF MASHFAAT;2ANNAAU
840 0MANDAIC LETTER HALQA;2AB;2AG;2AD;2AH;2USHENNA;2AZ;2IT;2ATT;2AKSA;2AK;2AL;2AM;2AN;2AS;2IN;2AP
851 0MANDAIC LETTER ASZ;2AQ;2AR;2ASH;2AT;2DUSHENNA;2KAD;2AIN;1AFFRICATION MARK;1VOCALIZATION MARK
85B 0MANDAIC GEMINATION MARK
85E 0MANDAIC PUNCTUATION
860 0SYRIAC LETTER MALAYALAM NGA;3JA;3NYA;3TTA;3NNA;3NNNA;3BHA;3RA;3LLA;3LLLA;3SSA
870 0ARABIC LETTER ALEF WITH ATTACHED FATHA;5TOP RIGHT FATHA;4RIGHT MIDDLE STROKE
873 0ARABIC LETTER ALEF WITH LEFT MIDDLE STROKE;4ATTACHED KASRA;5BOTTOM RIGHT KASRA
876 0ARABIC LETTER ALEF WITH ATTACHED ROUND DOT ABOVE;5RIGHT ROUND DOT;5LEFT ROUND DOT
879 0ARABIC LETTER ALEF WITH ATTACHED ROUND DOT BELOW;4DOT ABOVE
87B 0ARABIC LETTER ALEF WITH ATTACHED TOP RIGHT FATHA AND DOT ABOVE
87C 0ARABIC LETTER ALEF WITH RIGHT MIDDLE STROKE AND DOT ABOVE
87D 0ARABIC LETTER ALEF WITH ATTACHED BOTTOM RIGHT KASRA AND DOT ABOVE
87E 0ARABIC LETTER ALEF WITH ATTACHED TOP RIGHT FATHA AND LEFT RING
87F 0ARABIC LETTER ALEF WITH RIGHT MIDDLE STROKE AND LEFT RING
880 0ARABIC LETTER ALEF WITH ATTACHED BOTTOM RIGHT KASRA AND LEFT RING;5RIGHT HAMZA;5LEFT HAMZA
883 0ARABIC TATWEEL WITH OVERSTRUCK HAMZA;4WAW;3TWO DOTS BELOW;1LETTER THIN YEH;1BASELINE ROUND DOT
888 0ARABIC RAISED ROUND DOT;1LETTER NOON WITH INVERTED SMALL V;2HAH WITH INVERTED SMALL V BELOW
88B 0ARABIC LETTER TAH WITH DOT BELOW;4THREE DOTS BELOW;2KEHEH WITH TWO DOTS VERTICALLY BELOW
88E 0ARABIC VERTICAL TAIL
890 0ARABIC POUND MARK ABOVE;1PIASTRE MARK ABOVE
898 0ARABIC SMALL HIGH WORD AL-JUZ;2LOW WORD ISHMAAM;4IMAALA;4TASHEEL;1MADDA WAAJIB
89D 0ARABIC SUPERSCRIPT ALEF MOKHASSAS;1DOUBLED MADDA;1HALF MADDA OVER MADDA
8A0 0ARABIC LETTER BEH WITH SMALL V BELOW;4HAMZA ABOVE;2JEEM WITH TWO DOTS ABOVE
8A3 0ARABIC LETTER TAH WITH TWO DOTS ABOVE;2FEH WITH DOT BELOW AND THREE DOTS ABOVE
8A5 0ARABIC LETTER QAF WITH DOT BELOW;2LAM WITH DOUBLE BAR;2MEEM WITH THREE DOTS ABOVE
8A8 0ARABIC LETTER YEH WITH TWO DOTS BELOW AND HAMZA ABOVE;8DOT ABOVE;2REH WITH LOOP
8AB 0ARABIC LETTER WAW WITH DOT WITHIN;2ROHINGYA YEH;2LOW ALEF;2DAL WITH THREE DOTS BELOW
8AF 0ARABIC LETTER SAD WITH THREE DOTS BELOW;2GAF WITH INVERTED STROKE;2STRAIGHT WAW
8B2 0ARABIC LETTER ZAIN WITH INVERTED V ABOVE;2AIN WITH THREE DOTS BELOW;2KAF WITH DOT BELOW
8B5 0ARABIC LETTER QAF WITH DOT BELOW AND NO DOTS ABOVE;2BEH WITH SMALL MEEM ABOVE
8B7 0ARABIC LETTER PEH WITH SMALL MEEM ABOVE;2TEH WITH SMALL TEH ABOVE;2REH WITH SMALL NOON ABOVE
8BA 0ARABIC LETTER YEH WITH TWO DOTS BELOW AND SMALL NOON ABOVE;2AFRICAN FEH;3QAF;3NOON
8BE 0ARABIC LETTER PEH WITH SMALL V;2TEH WITH SMALL V;2TTEH WITH SMALL V;2TCHEH WITH SMALL V
8C2 0ARABIC LETTER KEHEH WITH SMALL V;2GHAIN WITH THREE DOTS ABOVE
8C4 0ARABIC LETTER AFRICAN QAF WITH THREE DOTS ABOVE;2JEEM WITH THREE DOTS ABOVE;6BELOW
8C7 0ARABIC LETTER LAM WITH SMALL ARABIC LETTER TAH ABOVE;2GRAF;1SMALL FARSI YEH;2HIGH FARSI YEH
8CB 0ARABIC SMALL HIGH YEH BARREE WITH TWO DOTS BELOW;3WORD SAH;3ZAH;1LARGE ROUND DOT ABOVE;4BELOW
8D0 0ARABIC SUKUN BELOW;1LARGE CIRCLE BELOW;2ROUND DOT INSIDE CIRCLE BELOW;1SMALL LOW WAW
8D4 0ARABIC SMALL HIGH WORD AR-RUB;3SAD;3AIN;3QAF;3NOON WITH KASRA;2LOW NOON WITH KASRA
8DA 0ARABIC SMALL HIGH WORD ATH-THALATHA;4AS-SAJDA;4AN-NISF;4SAKTA;4QIF;4WAQFA;3FOOTNOTE MARKER
8E1 0ARABIC SMALL HIGH SIGN SAFHA;1DISPUTED END OF AYAH;1TURNED DAMMA BELOW;1CURLY FATHA;2DAMMA
8E6 0ARABIC CURLY KASRA;2FATHATAN;2DAMMATAN;2KASRATAN;1TONE ONE DOT ABOVE;2TWO DOTS ABOVE
8EC 0ARABIC TONE LOOP ABOVE;2ONE DOT BELOW;2TWO DOTS BELOW;2LOOP BELOW;1OPEN FATHATAN;2DAMMATAN
8F2 0ARABIC OPEN KASRATAN;1SMALL HIGH WAW;1FATHA WITH RING;3DOT ABOVE;1KASRA WITH DOT BELOW
8F7 0ARABIC LEFT ARROWHEAD ABOVE;1RIGHT ARROWHEAD ABOVE;1LEFT ARROWHEAD BELOW
8FA 0ARABIC RIGHT ARROWHEAD BELOW;1DOUBLE RIGHT ARROWHEAD ABOVE;5WITH DOT
8FD 0ARABIC RIGHT ARROWHEAD ABOVE WITH DOT;1DAMMA WITH DOT;1MARK SIDEWAYS NOON GHUNNA
900 0DEVANAGARI SIGN INVERTED CANDRABINDU;2CANDRABINDU;2ANUSVARA;2VISARGA;1LETTER SHORT A;2A;2AA;2I
908 0DEVANAGARI LETTER II;2U;2UU;2VOCALIC R;3L;2CANDRA E;2SHORT E;2E;2AI;2CANDRA O;2SHORT O;2O;2AU
915 0DEVANAGARI LETTER KA;2KHA;2GA;2GHA;2NGA;2CA;2CHA;2JA;2JHA;2NYA;2TTA;2TTHA;2DDA;2DDHA;2NNA;2TA
925 0DEVANAGARI LETTER THA;2DA;2DHA;2NA;2NNNA;2PA;2PHA;2BA;2BHA;2MA;2YA;2RA;2RRA;2LA;2LLA;2LLLA;2VA
936 0DEVANAGARI LETTER SHA;2SSA;2SA;2HA;1VOWEL SIGN OE;3OOE;1SIGN NUKTA;2AVAGRAHA;1VOWEL SIGN AA;3I
940 0DEVANAGARI VOWEL SIGN II;3U;3UU;3VOCALIC R;4RR;3CANDRA E;3SHORT E;3E;3AI;3CANDRA O;3SHORT O;3O
94C 0DEVANAGARI VOWEL SIGN AU;1SIGN VIRAMA;1VOWEL SIGN PRISHTHAMATRA E;3AW;1OM;1STRESS SIGN UDATTA
952 0DEVANAGARI STRESS SIGN ANUDATTA;1GRAVE ACCENT;1ACUTE ACCENT;1VOWEL SIGN CANDRA LONG E;3UE;3UUE
958 0DEVANAGARI LETTER QA;2KHHA;2GHHA;2ZA;2DDDHA;2RHA;2FA;2YYA;2VOCALIC RR;3LL
962 0DEVANAGARI VOWEL SIGN VOCALIC L;4LL;1DANDA;1DOUBLE DANDA;1DIGIT ZERO;2ONE;2TWO;2THREE;2FOUR
96B 0DEVANAGARI DIGIT FIVE;2SIX;2SEVEN;2EIGHT;2NINE;1ABBREVIATION SIGN;1SIGN HIGH SPACING DOT
972 0DEVANAGARI LETTER CANDRA A;2OE;2OOE;2AW;2UE;2UUE;2MARWARI DDA;2ZHA;2HEAVY YA;2GGA;2JJA
97D 0DEVANAGARI LETTER GLOTTAL STOP;2DDDA;2BBA;0BENGALI ANJI;1SIGN CANDRABINDU;2ANUSVARA;2VISARGA
985 0BENGALI LETTER A;2AA;2I;2II;2U;2UU;2VOCALIC R;3L
98F 0BENGALI LETTER E;2AI
993 0BENGALI LETTER O;2AU;2KA;2KHA;2GA;2GHA;2NGA;2CA;2CHA;2JA;2JHA;2NYA;2TTA;2TTHA;2DDA;2DDHA;2NNA
9A4 0BENGALI LETTER TA;2THA;2DA;2DHA;2NA
9AA 0BENGALI LETTER PA;2PHA;2BA;2BHA;2MA;2YA;2RA
9B2 0BENGALI LETTER LA
9B6 0BENGALI LETTER SHA;2SSA;2SA;2HA
9BC 0BENGALI SIGN NUKTA;2AVAGRAHA;1VOWEL SIGN AA;3I;3II;3U;3UU;3VOCALIC R;4RR
9C7 0BENGALI VOWEL SIGN E;3AI
9CB 0BENGALI VOWEL SIGN O;3AU;1SIGN VIRAMA;1LETTER KHANDA TA
9D7 0BENGALI AU LENGTH MARK
9DC 0BENGALI LETTER RRA;2RHA
9DF 0BENGALI LETTER YYA;2VOCALIC RR;3LL;1VOWEL SIGN VOCALIC L;4LL
9E6 0BENGALI DIGIT ZERO;2ONE;2TWO;2THREE;2FOUR;2FIVE;2SIX;2SEVEN;2EIGHT;2NINE
9F0 0BENGALI LETTER RA WITH MIDDLE DIAGONAL;4LOWER DIAGONAL;1RUPEE MARK;2SIGN
9F4 0BENGALI CURRENCY NUMERATOR ONE;3TWO;3THREE;3FOUR;3ONE LESS THAN THE DENOMINATOR
9F9 0BENGALI CURRENCY DENOMINATOR SIXTEEN;1ISSHAR;1GANDA MARK;1LETTER VEDIC ANUSVARA
9FD 0BENGALI ABBREVIATION SIGN;1SANDHI MARK
A01 0GURMUKHI SIGN ADAK BINDI;2BINDI;2VISARGA
A05 0GURMUKHI LETTER A;2AA;2I;2II;2U;2UU
A0F 0GURMUKHI LETTER EE;2AI
A13 0GURMUKHI LETTER OO;2AU;2KA;2KHA;2GA;2GHA;2NGA;2CA;2CHA;2JA;2JHA;2NYA;2TTA;2TTHA;2DDA;2DDHA
A23 0GURMUKHI LETTER NNA;2TA;2THA;2DA;2DHA;2NA
A2A 0GURMUKHI LETTER PA;2PHA;2BA;2BHA;2MA;2YA;2RA
A32 0GURMUKHI LETTER LA;2LLA
A35 0GURMUKHI LETTER VA;2SHA
A38 0GURMUKHI LETTER SA;2HA
A3C 0GURMUKHI SIGN NUKTA
A3E 0GURMUKHI VOWEL SIGN AA;3I;3II;3U;3UU
A47 0GURMUKHI VOWEL SIGN EE;3AI
A4B 0GURMUKHI VOWEL SIGN OO;3AU;1SIGN VIRAMA
A51 0GURMUKHI SIGN UDAAT
A59 0GURMUKHI LETTER KHHA;2GHHA;2ZA;2RRA
A5E 0GURMUKHI LETTER FA
A66 0GURMUKHI DIGIT ZERO;2ONE;2TWO;2THREE;2FOUR;2FIVE;2SIX;2SEVEN;2EIGHT;2NINE;1TIPPI;1ADDAK;1IRI
A73 0GURMUKHI URA;1EK ONKAR;1SIGN YAKASH;1ABBREVIATION SIGN
A81 0GUJARATI SIGN CANDRABINDU;2ANUSVARA;2VISARGA
A85 0GUJARATI LETTER A;2AA;2I;2II;2U;2UU;2VOCALIC R;3L;1VOWEL CANDRA E
A8F 0GUJARATI LETTER E;2AI;1VOWEL CANDRA O
A93 0GUJARATI LETTER O;2AU;2KA;2KHA;2GA;2GHA;2NGA;2CA;2CHA;2JA;2JHA;2NYA;2TTA;2TTHA;2DDA;2DDHA;2NNA
AA4 0GUJARATI LETTER TA;2THA;2DA;2DHA;2NA
AAA 0GUJARATI LETTER PA;2PHA;2BA;2BHA;2MA;2YA;2RA
AB2 0GUJARATI LETTER LA;2LLA
AB5 0GUJARATI LETTER VA;2SHA;2SSA;2SA;2HA
ABC 0GUJARATI SIGN NUKTA;2AVAGRAHA;1VOWEL SIGN AA;3I;3II;3U;3UU;3VOCALIC R;4RR;3CANDRA E
AC7 0GUJARATI VOWEL SIGN E;3AI;3CANDRA O
ACB 0GUJARATI VOWEL SIGN O;3AU;1SIGN VIRAMA
AD0 0GUJARATI OM
AE0 0GUJARATI LETTER VOCALIC RR;3LL;1VOWEL SIGN VOCALIC L;4LL
AE6 0GUJARATI DIGIT ZERO;2ONE;2TWO;2THREE;2FOUR;2FIVE;2SIX;2SEVEN;2EIGHT;2NINE;1ABBREVIATION SIGN
AF1 0GUJARATI RUPEE SIGN
AF9 0GUJARATI LETTER ZHA;1SIGN SUKUN;2SHADDA;2MADDAH;2THREE-DOT NUKTA ABOVE;2CIRCLE NUKTA ABOVE
AFF 0GUJARATI SIGN TWO-CIRCLE NUKTA ABOVE
B01 0ORIYA SIGN CANDRABINDU;2ANUSVARA;2VISARGA
B05 0ORIYA LETTER A;2AA;2I;2II;2U;2UU;2VOCALIC R;3L
B0F 0ORIYA LETTER E;2AI
B13 0ORIYA LETTER O;2AU;2KA;2KHA;2GA;2GHA;2NGA;2CA;2CHA;2JA;2JHA;2NYA;2TTA;2TTHA;2DDA;2DDHA;2NNA
B24 0ORIYA LETTER TA;2THA;2DA;2DHA;2NA
B2A 0ORIYA LETTER PA;2PHA;2BA;2BHA;2MA;2YA;2RA
B32 0ORIYA LETTER LA;2LLA
B35 0ORIYA LETTER VA;2SHA;2SSA;2SA;2HA
B3C 0ORIYA SIGN NUKTA;2AVAGRAHA;1VOWEL SIGN AA;3I;3II;3U;3UU;3VOCALIC R;4RR
B47 0ORIYA VOWEL SIGN E;3AI
B4B 0ORIYA VOWEL SIGN O;3AU;1SIGN VIRAMA
B55 0ORIYA SIGN OVERLINE;1AI LENGTH MARK;1AU LENGTH MARK
B5C 0ORIYA LETTER RRA;2RHA
B5F 0ORIYA LETTER YYA;2VOCALIC RR;3LL;1VOWEL SIGN VOCALIC L;4LL
B66 0ORIYA DIGIT ZERO;2ONE;2TWO;2THREE;2FOUR;2FIVE;2SIX;2SEVEN;2EIGHT;2NINE;1ISSHAR;1LETTER WA
B72 0ORIYA FRACTION ONE QUARTER;3HALF;2THREE QUARTERS;2ONE SIXTEENTH;3EIGHTH;2THREE SIXTEENTHS
B82 0TAMIL SIGN ANUSVARA;2VISARGA
B85 0TAMIL LETTER A;2AA;2I;2II;2U;2UU
B8E 0TAMIL LETTER E;2EE;2AI
B92 0TAMIL LETTER O;2OO;2AU;2KA
B99 0TAMIL LETTER NGA;2CA
B9C 0TAMIL LETTER JA
B9E 0TAMIL LETTER NYA;2TTA
BA3 0TAMIL LETTER NNA;2TA
BA8 0TAMIL LETTER NA;2NNNA;2PA
BAE 0TAMIL LETTER MA;2YA;2RA;2RRA;2LA;2LLA;2LLLA;2VA;2SHA;2SSA;2SA;2HA
BBE 0TAMIL VOWEL SIGN AA;3I;3II;3U;3UU
BC6 0TAMIL VOWEL SIGN E;3EE;3AI
BCA 0TAMIL VOWEL SIGN O;3OO;3AU;1SIGN VIRAMA
BD0 0TAMIL OM
BD7 0TAMIL AU LENGTH MARK
BE6 0TAMIL DIGIT ZERO;2ONE;2TWO;2THREE;2FOUR;2FIVE;2SIX;2SEVEN;2EIGHT;2NINE;1NUMBER TEN
BF1 0TAMIL NUMBER ONE HUNDRED;3THOUSAND;1DAY SIGN;1MONTH SIGN;1YEAR SIGN;1DEBIT SIGN;1CREDIT SIGN
BF8 0TAMIL AS ABOVE SIGN;1RUPEE SIGN;1NUMBER SIGN
C00 0TELUGU SIGN COMBINING CANDRABINDU ABOVE;2CANDRABINDU;2ANUSVARA;2VISARGA
C04 0TELUGU SIGN COMBINING ANUSVARA ABOVE;1LETTER A;2AA;2I;2II;2U;2UU;2VOCALIC R;3L
C0E 0TELUGU LETTER E;2EE;2AI
C12 0TELUGU LETTER O;2OO;2AU;2KA;2KHA;2GA;2GHA;2NGA;2CA;2CHA;2JA;2JHA;2NYA;2TTA;2TTHA;2DDA;2DDHA
C23 0TELUGU LETTER NNA;2TA;2THA;2DA;2DHA;2NA
C2A 0TELUGU LETTER PA;2PHA;2BA;2BHA;2MA;2YA;2RA;2RRA;2LA;2LLA;2LLLA;2VA;2SHA;2SSA;2SA;2HA
C3C 0TELUGU SIGN NUKTA;2AVAGRAHA;1VOWEL SIGN AA;3I;3II;3U;3UU;3VOCALIC R;4RR
C46 0TELUGU VOWEL SIGN E;3EE;3AI
C4A 0TELUGU VOWEL SIGN O;3OO;3AU;1SIGN VIRAMA
C55 0TELUGU LENGTH MARK;1AI LENGTH MARK
C58 0TELUGU LETTER TSA;2DZA;2RRRA
C5D 0TELUGU LETTER NAKAARA POLLU
C60 0TELUGU LETTER VOCALIC RR;3LL;1VOWEL SIGN VOCALIC L;4LL
C66 0TELUGU DIGIT ZERO;2ONE;2TWO;2THREE;2FOUR;2FIVE;2SIX;2SEVEN;2EIGHT;2NINE
C77 0TELUGU SIGN SIDDHAM;1FRACTION DIGIT ZERO FOR ODD POWERS OF FOUR;3ONE FOR ODD POWERS OF FOUR
C7A 0TELUGU FRACTION DIGIT TWO FOR ODD POWERS OF FOUR;3THREE FOR ODD POWERS OF FOUR
C7C 0TELUGU FRACTION DIGIT ONE FOR EVEN POWERS OF FOUR;3TWO FOR EVEN POWERS OF FOUR
C7E 0TELUGU FRACTION DIGIT THREE FOR EVEN POWERS OF FOUR;1SIGN TUUMU
C80 0KANNADA SIGN SPACING CANDRABINDU;2CANDRABINDU;2ANUSVARA;2VISARGA;2SIDDHAM;1LETTER A;2AA;2I;2II
C89 0KANNADA LETTER U;2UU;2VOCALIC R;3L
C8E 0KANNADA LETTER E;2EE;2AI
C92 0KANNADA LETTER O;2OO;2AU;2KA;2KHA;2GA;2GHA;2NGA;2CA;2CHA;2JA;2JHA;2NYA;2TTA;2TTHA;2DDA;2DDHA
CA3 0KANNADA LETTER NNA;2TA;2THA;2DA;2DHA;2NA
CAA 0KANNADA LETTER PA;2PHA;2BA;2BHA;2MA;2YA;2RA;2RRA;2LA;2LLA
CB5 0KANNADA LETTER VA;2SHA;2SSA;2SA;2HA
CBC 0KANNADA SIGN NUKTA;2AVAGRAHA;1VOWEL SIGN AA;3I;3II;3U;3UU;3VOCALIC R;4RR
CC6 0KANNADA VOWEL SIGN E;3EE;3AI
CCA 0KANNADA VOWEL SIGN O;3OO;3AU;1SIGN VIRAMA
CD5 0KANNADA LENGTH MARK;1AI LENGTH MARK
CDD 0KANNADA LETTER NAKAARA POLLU;2FA
CE0 0KANNADA LETTER VOCALIC RR;3LL;1VOWEL SIGN VOCALIC L;4LL
CE6 0KANNADA DIGIT ZERO;2ONE;2TWO;2THREE;2FOUR;2FIVE;2SIX;2SEVEN;2EIGHT;2NINE
CF1 0KANNADA SIGN JIHVAMULIYA;2UPADHMANIYA
D00 0MALAYALAM SIGN COMBINING ANUSVARA ABOVE;2CANDRABINDU;2ANUSVARA;2VISARGA;1LETTER VEDIC ANUSVARA
D05 0MALAYALAM LETTER A;2AA;2I;2II;2U;2UU;2VOCALIC R;3L
D0E 0MALAYALAM LETTER E;2EE;2AI
D12 0MALAYALAM LETTER O;2OO;2AU;2KA;2KHA;2GA;2GHA;2NGA;2CA;2CHA;2JA;2JHA;2NYA;2TTA;2TTHA;2DDA;2DDHA
D23 0MALAYALAM LETTER NNA;2TA;2THA;2DA;2DHA;2NA;2NNNA;2PA;2PHA;2BA;2BHA;2MA;2YA;2RA;2RRA;2LA;2LLA
D34 0MALAYALAM LETTER LLLA;2VA;2SHA;2SSA;2SA;2HA;2TTTA;1SIGN VERTICAL BAR VIRAMA;2CIRCULAR VIRAMA
D3D 0MALAYALAM SIGN AVAGRAHA;1VOWEL SIGN AA;3I;3II;3U;3UU;3VOCALIC R;4RR
D46 0MALAYALAM VOWEL SIGN E;3EE;3AI
D4A 0MALAYALAM VOWEL SIGN O;3OO;3AU;1SIGN VIRAMA;1LETTER DOT REPH;1SIGN PARA
D54 0MALAYALAM LETTER CHILLU M;3Y;3LLL;1AU LENGTH MARK;1FRACTION ONE ONE-HUNDRED-AND-SIXTIETH
D59 0MALAYALAM FRACTION ONE FORTIETH;2THREE EIGHTIETHS;2ONE TWENTIETH;3TENTH;2THREE TWENTIETHS
D5E 0MALAYALAM FRACTION ONE FIFTH;1LETTER ARCHAIC II;2VOCALIC RR;3LL;1VOWEL SIGN VOCALIC L;4LL
D66 0MALAYALAM DIGIT ZERO;2ONE;2TWO;2THREE;2FOUR;2FIVE;2SIX;2SEVEN;2EIGHT;2NINE;1NUMBER TEN
D71 0MALAYALAM NUMBER ONE HUNDRED;3THOUSAND;1FRACTION ONE QUARTER;3HALF;2THREE QUARTERS
D76 0MALAYALAM FRACTION ONE SIXTEENTH;3EIGHTH;2THREE SIXTEENTHS;1DATE MARK;1LETTER CHILLU NN;3N;3RR
D7D 0MALAYALAM LETTER CHILLU L;3LL;3K
D81 0SINHALA SIGN CANDRABINDU;2ANUSVARAYA;2VISARGAYA
D85 0SINHALA LETTER AYANNA;2AAYANNA;2AEYANNA;2AEEYANNA;2IYANNA;2IIYANNA;2UYANNA;2UUYANNA;2IRUYANNA
D8E 0SINHALA LETTER IRUUYANNA;2ILUYANNA;2ILUUYANNA;2EYANNA;2EEYANNA;2AIYANNA;2OYANNA;2OOYANNA
D96 0SINHALA LETTER AUYANNA
D9A 0SINHALA LETTER ALPAPRAANA KAYANNA;2MAHAAPRAANA KAYANNA;2ALPAPRAANA GAYANNA
D9D 0SINHALA LETTER MAHAAPRAANA GAYANNA;2KANTAJA NAASIKYAYA;2SANYAKA GAYANNA;2ALPAPRAANA CAYANNA
DA1 0SINHALA LETTER MAHAAPRAANA CAYANNA;2ALPAPRAANA JAYANNA;2MAHAAPRAANA JAYANNA
DA4 0SINHALA LETTER TAALUJA NAASIKYAYA;3SANYOOGA NAAKSIKYAYA;2SANYAKA JAYANNA;2ALPAPRAANA TTAYANNA
DA8 0SINHALA LETTER MAHAAPRAANA TTAYANNA;2ALPAPRAANA DDAYANNA;2MAHAAPRAANA DDAYANNA
DAB 0SINHALA LETTER MUURDHAJA NAYANNA;2SANYAKA DDAYANNA;2ALPAPRAANA TAYANNA;2MAHAAPRAANA TAYANNA
DAF 0SINHALA LETTER ALPAPRAANA DAYANNA;2MAHAAPRAANA DAYANNA;2DANTAJA NAYANNA
DB3 0SINHALA LETTER SANYAKA DAYANNA;2ALPAPRAANA PAYANNA;2MAHAAPRAANA PAYANNA;2ALPAPRAANA BAYANNA
DB7 0SINHALA LETTER MAHAAPRAANA BAYANNA;2MAYANNA;2AMBA BAYANNA;2YAYANNA;2RAYANNA
DBD 0SINHALA LETTER DANTAJA LAYANNA
DC0 0SINHALA LETTER VAYANNA;2TAALUJA SAYANNA;2MUURDHAJA SAYANNA;2DANTAJA SAYANNA;2HAYANNA
DC5 0SINHALA LETTER MUURDHAJA LAYANNA;2FAYANNA
DCA 0SINHALA SIGN AL-LAKUNA
DCF 0SINHALA VOWEL SIGN AELA-PILLA;3KETTI AEDA-PILLA;3DIGA AEDA-PILLA;3KETTI IS-PILLA
DD3 0SINHALA VOWEL SIGN DIGA IS-PILLA;3KETTI PAA-PILLA
DD6 0SINHALA VOWEL SIGN DIGA PAA-PILLA
DD8 0SINHALA VOWEL SIGN GAETTA-PILLA;3KOMBUVA;3DIGA KOMBUVA;3KOMBU DEKA;3KOMBUVA HAA AELA-PILLA
DDD 0SINHALA VOWEL SIGN KOMBUVA HAA DIGA AELA-PILLA;5GAYANUKITTA;3GAYANUKITTA
DE6 0SINHALA LITH DIGIT ZERO;3ONE;3TWO;3THREE;3FOUR;3FIVE;3SIX;3SEVEN;3EIGHT;3NINE
DF2 0SINHALA VOWEL SIGN DIGA GAETTA-PILLA;4GAYANUKITTA;1PUNCTUATION KUNDDALIYA
E01 0THAI CHARACTER KO KAI;2KHO KHAI;3KHUAT;3KHWAI;3KHON;3RAKHANG;2NGO NGU;2CHO CHAN;3CHING;3CHANG
E0B 0THAI CHARACTER SO SO;2CHO CHOE;2YO YING;2DO CHADA;2TO PATAK;2THO THAN;3NANGMONTHO;3PHUTHAO
E13 0THAI CHARACTER NO NEN;2DO DEK;2TO TAO;2THO THUNG;3THAHAN;3THONG;2NO NU;2BO BAIMAI;2PO PLA
E1C 0THAI CHARACTER PHO PHUNG;2FO FA;2PHO PHAN;2FO FAN;2PHO SAMPHAO;2MO MA;2YO YAK;2RO RUA;2RU
E25 0THAI CHARACTER LO LING;2LU;2WO WAEN;2SO SALA;3RUSI;3SUA;2HO HIP;2LO CHULA;2O ANG;2HO NOKHUK
E2F 0THAI CHARACTER PAIYANNOI;2SARA A;2MAI HAN-AKAT;2SARA AA;3AM;3I;3II;3UE;3UEE;3U;3UU;2PHINTHU
E3F 0THAI CURRENCY SYMBOL BAHT;1CHARACTER SARA E;3AE;3O;3AI MAIMUAN;4MAIMALAI;2LAKKHANGYAO
E46 0THAI CHARACTER MAIYAMOK;2MAITAIKHU;2MAI EK;3THO;3TRI;3CHATTAWA;2THANTHAKHAT;2NIKHAHIT
E4E 0THAI CHARACTER YAMAKKAN;2FONGMAN;1DIGIT ZERO;2ONE;2TWO;2THREE;2FOUR;2FIVE;2SIX;2SEVEN;2EIGHT
E59 0THAI DIGIT NINE;1CHARACTER ANGKHANKHU;2KHOMUT
E81 0LAO LETTER KO;2KHO SUNG
E84 0LAO LETTER KHO TAM
E86 0LAO LETTER PALI GHA;2NGO;2CO;2PALI CHA;2SO TAM
E8C 0LAO LETTER PALI JHA;2NYO;2PALI NYA;3TTA;3TTHA;3DDA;3DDHA;3NNA;2DO;2TO;2THO SUNG;3TAM;2PALI DHA
E99 0LAO LETTER NO;2BO;2PO;2PHO SUNG;2FO TAM;2PHO TAM;2FO SUNG;2PALI BHA;2MO;2YO;2LO LING
EA5 0LAO LETTER LO LOOT
EA7 0LAO LETTER WO;2SANSKRIT SHA;3SSA;2SO SUNG;2HO SUNG;2PALI LLA;2O;2HO TAM;1ELLIPSIS
EB0 0LAO VOWEL SIGN A;3MAI KAN;3AA;3AM;3I;3II;3Y;3YY;3U;3UU;1SIGN PALI VIRAMA;1VOWEL SIGN MAI KON
EBC 0LAO SEMIVOWEL SIGN LO;3NYO
EC0 0LAO VOWEL SIGN E;3EI;3O;3AY;3AI
EC6 0LAO KO LA
EC8 0LAO TONE MAI EK;3THO;3TI;3CATAWA;1CANCELLATION MARK;1NIGGAHITA
ED0 0LAO DIGIT ZERO;2ONE;2TWO;2THREE;2FOUR;2FIVE;2SIX;2SEVEN;2EIGHT;2NINE
EDC 0LAO HO NO;2MO;1LETTER KHMU GO;3NYO
F00 0TIBETAN SYLLABLE OM;1MARK GTER YIG MGO TRUNCATED A;5-UM RNAM BCAD MA;6GTER TSHEG MA
F04 0TIBETAN MARK INITIAL YIG MGO MDUN MA;2CLOSING YIG MGO SGAB MA;2CARET YIG MGO PHUR SHAD MA
F07 0TIBETAN MARK YIG MGO TSHEG SHAD MA;2SBRUL SHAD;2BSKUR YIG MGO;2BKA- SHOG YIG MGO
F0B 0TIBETAN MARK INTERSYLLABIC TSHEG;2DELIMITER TSHEG BSTAR;2SHAD;2NYIS SHAD;2TSHEG SHAD
F10 0TIBETAN MARK NYIS TSHEG SHAD;2RIN CHEN SPUNGS SHAD;2RGYA GRAM SHAD
F13 0TIBETAN MARK CARET -DZUD RTAGS ME LONG CAN;2GTER TSHEG;1LOGOTYPE SIGN CHAD RTAGS;3LHAG RTAGS
F17 0TIBETAN ASTROLOGICAL SIGN SGRA GCAN -CHAR RTAGS;3-KHYUD PA;3SDONG TSHUGS;1SIGN RDEL DKAR GCIG
F1B 0TIBETAN SIGN RDEL DKAR GNYIS;4GSUM;3NAG GCIG;4GNYIS;3DKAR RDEL NAG;1DIGIT ZERO;2ONE;2TWO
F23 0TIBETAN DIGIT THREE;2FOUR;2FIVE;2SIX;2SEVEN;2EIGHT;2NINE;2HALF ONE;3TWO;3THREE;3FOUR;3FIVE
F2F 0TIBETAN DIGIT HALF SIX;3SEVEN;3EIGHT;3NINE;3ZERO;1MARK BSDUS RTAGS;2NGAS BZUNG NYI ZLA
F36 0TIBETAN MARK CARET -DZUD RTAGS BZHI MIG CAN;2NGAS BZUNG SGOR RTAGS;2CHE MGO;2TSA -PHRU
F3A 0TIBETAN MARK GUG RTAGS GYON;4GYAS;2ANG KHANG GYON;4GYAS;1SIGN YAR TSHES;2MAR TSHES;1LETTER KA
F41 0TIBETAN LETTER KHA;2GA;2GHA;2NGA;2CA;2CHA;2JA
F49 0TIBETAN LETTER NYA;2TTA;2TTHA;2DDA;2DDHA;2NNA;2TA;2THA;2DA;2DHA;2NA;2PA;2PHA;2BA;2BHA;2MA;2TSA
F5A 0TIBETAN LETTER TSHA;2DZA;2DZHA;2WA;2ZHA;2ZA;2-A;2YA;2RA;2LA;2SHA;2SSA;2SA;2HA;2A;2KSSA
F6A 0TIBETAN LETTER FIXED-FORM RA;2KKA;2RRA
F71 0TIBETAN VOWEL SIGN AA;3I;3II;3U;3UU;3VOCALIC R;4RR;4L;4LL;3E;3EE;3O;3OO;1SIGN RJES SU NGA RO
F7F 0TIBETAN SIGN RNAM BCAD;1VOWEL SIGN REVERSED I;4II;1SIGN NYI ZLA NAA DA;2SNA LDAN;1MARK HALANTA
F85 0TIBETAN MARK PALUTA;1SIGN LCI RTAGS;2YANG RTAGS;2LCE TSA CAN;2MCHU CAN;2GRU CAN RGYINGS
F8B 0TIBETAN SIGN GRU MED RGYINGS;2INVERTED MCHU CAN;1SUBJOINED SIGN LCE TSA CAN;3MCHU CAN
F8F 0TIBETAN SUBJOINED SIGN INVERTED MCHU CAN;2LETTER KA;3KHA;3GA;3GHA;3NGA;3CA;3CHA;3JA
F99 0TIBETAN SUBJOINED LETTER NYA;3TTA;3TTHA;3DDA;3DDHA;3NNA;3TA;3THA;3DA;3DHA;3NA;3PA;3PHA;3BA
FA7 0TIBETAN SUBJOINED LETTER BHA;3MA;3TSA;3TSHA;3DZA;3DZHA;3WA;3ZHA;3ZA;3-A;3YA;3RA;3LA;3SHA;3SSA
FB6 0TIBETAN SUBJOINED LETTER SA;3HA;3A;3KSSA;3FIXED-FORM WA;4YA;4RA
FBE 0TIBETAN KU RU KHA;4BZHI MIG CAN;1CANTILLATION SIGN HEAVY BEAT;3LIGHT BEAT;3CANG TE-U
FC3 0TIBETAN CANTILLATION SIGN SBUB -CHAL;1SYMBOL DRIL BU;2RDO RJE;2PADMA GDAN;2RDO RJE RGYA GRAM
FC8 0TIBETAN SYMBOL PHUR PA;2NOR BU;4NYIS -KHYIL;4GSUM -KHYIL;4BZHI -KHYIL
FCE 0TIBETAN SIGN RDEL NAG RDEL DKAR;4GSUM;1MARK BSKA- SHOG GI MGO RGYAN;2MNYAM YIG GI MGO RGYAN
FD2 0TIBETAN MARK NYIS TSHEG;2INITIAL BRDA RNYING YIG MGO MDUN MA
FD4 0TIBETAN MARK CLOSING BRDA RNYING YIG MGO SGAB MA;0RIGHT-FACING SVASTI SIGN
FD6 0LEFT-FACING SVASTI SIGN;0RIGHT-FACING SVASTI SIGN WITH DOTS;0LEFT-FACING SVASTI SIGN WITH DOTS
FD9 0TIBETAN MARK LEADING MCHAN RTAGS;2TRAILING MCHAN RTAGS
1000 0MYANMAR LETTER KA;2KHA;2GA;2GHA;2NGA;2CA;2CHA;2JA;2JHA;2NYA;2NNYA;2TTA;2TTHA;2DDA;2DDHA;2NNA
1010 0MYANMAR LETTER TA;2THA;2DA;2DHA;2NA;2PA;2PHA;2BA;2BHA;2MA;2YA;2RA;2LA;2WA;2SA;2HA;2LLA;2A
1022 0MYANMAR LETTER SHAN A;2I;2II;2U;2UU;2E;2MON E;2O;2AU;1VOWEL SIGN TALL AA;3AA;3I;3II;3U;3UU;3E
1032 0MYANMAR VOWEL SIGN AI;3MON II;4O;3E ABOVE;1SIGN ANUSVARA;2DOT BELOW;2VISARGA;2VIRAMA;2ASAT
103B 0MYANMAR CONSONANT SIGN MEDIAL YA;4RA;4WA;4HA;1LETTER GREAT SA;1DIGIT ZERO;2ONE;2TWO;2THREE
1044 0MYANMAR DIGIT FOUR;2FIVE;2SIX;2SEVEN;2EIGHT;2NINE;1SIGN LITTLE SECTION;2SECTION
104C 0MYANMAR SYMBOL LOCATIVE;2COMPLETED;2AFOREMENTIONED;2GENITIVE;1LETTER SHA;2SSA;2VOCALIC R;3RR
1054 0MYANMAR LETTER VOCALIC L;3LL;1VOWEL SIGN VOCALIC R;4RR;4L;4LL;1LETTER MON NGA;3JHA;3BBA;3BBE
105E 0MYANMAR CONSONANT SIGN MON MEDIAL NA;5MA;5LA;1LETTER SGAW KAREN SHA;1VOWEL SIGN SGAW KAREN EU
1063 0MYANMAR TONE MARK SGAW KAREN HATHI;5KE PHO;1LETTER WESTERN PWO KAREN THA;5PWA
1067 0MYANMAR VOWEL SIGN WESTERN PWO KAREN EU;6UE;1SIGN WESTERN PWO KAREN TONE-1;5TONE-2;5TONE-3
106C 0MYANMAR SIGN WESTERN PWO KAREN TONE-4;5TONE-5;1LETTER EASTERN PWO KAREN NNA;5YWA;5GHWA
1071 0MYANMAR VOWEL SIGN GEBA KAREN I;3KAYAH OE;4U;4EE;1LETTER SHAN KA;3KHA;3GA;3CA;3ZA;3NYA;3DA
107C 0MYANMAR LETTER SHAN NA;3PHA;3FA;3BA;3THA;3HA;1CONSONANT SIGN SHAN MEDIAL WA
1083 0MYANMAR VOWEL SIGN SHAN AA;4E;5ABOVE;4FINAL Y;1SIGN SHAN TONE-2;3TONE-3;3TONE-5;3TONE-6
108B 0MYANMAR SIGN SHAN COUNCIL TONE-2;4TONE-3;4EMPHATIC TONE;1LETTER RUMAI PALAUNG FA
108F 0MYANMAR SIGN RUMAI PALAUNG TONE-5;1SHAN DIGIT ZERO;3ONE;3TWO;3THREE;3FOUR;3FIVE;3SIX;3SEVEN
1098 0MYANMAR SHAN DIGIT EIGHT;3NINE;1SIGN KHAMTI TONE-1;3TONE-3;1VOWEL SIGN AITON A;4AI
109E 0MYANMAR SYMBOL SHAN ONE;3EXCLAMATION;0GEORGIAN CAPITAL LETTER AN;3BAN;3GAN;3DON;3EN;3VIN;3ZEN
10A7 0GEORGIAN CAPITAL LETTER TAN;3IN;3KAN;3LAS;3MAN;3NAR;3ON;3PAR;3ZHAR;3RAE;3SAN;3TAR;3UN;3PHAR
10B5 0GEORGIAN CAPITAL LETTER KHAR;3GHAN;3QAR;3SHIN;3CHIN;3CAN;3JIL;3CIL;3CHAR;3XAN;3JHAN;3HAE;3HE
10C2 0GEORGIAN CAPITAL LETTER HIE;3WE;3HAR;3HOE
10C7 0GEORGIAN CAPITAL LETTER YN
10CD 0GEORGIAN CAPITAL LETTER AEN
10D0 0GEORGIAN LETTER AN;2BAN;2GAN;2DON;2EN;2VIN;2ZEN;2TAN;2IN;2KAN;2LAS;2MAN;2NAR;2ON;2PAR;2ZHAR
10E0 0GEORGIAN LETTER RAE;2SAN;2TAR;2UN;2PHAR;2KHAR;2GHAN;2QAR;2SHIN;2CHIN;2CAN;2JIL;2CIL;2CHAR
10EE 0GEORGIAN LETTER XAN;2JHAN;2HAE;2HE;2HIE;2WE;2HAR;2HOE;2FI;2YN;2ELIFI;2TURNED GAN;2AIN
10FB 0GEORGIAN PARAGRAPH SEPARATOR;0MODIFIER LETTER GEORGIAN NAR;0GEORGIAN LETTER AEN;2HARD SIGN
10FF 0GEORGIAN LETTER LABIAL SIGN;0HANGUL CHOSEONG KIYEOK;2SSANGKIYEOK;2NIEUN;2TIKEUT;2SSANGTIKEUT"

end PlaybookLint.Text.CharacterName
