/-!
Names of characters from U+2C00 to U+FFFF: the scripts of eastern Asia, with what else has at most
four hexadecimal digits. A row begins with the number of its first character in hexadecimal. The
names of the characters from there on follow, divided by semicolons; the digit before a name tells
how many words it shares with the name before it.
-/

namespace PlaybookLint.Text.CharacterName

/-- The rows of names from U+2C00 to U+FFFF. -/
def eastAsianScripts : String :=
  "2C00 0GLAGOLITIC CAPITAL LETTER AZU;3BUKY;3VEDE;3GLAGOLI;3DOBRO;3YESTU;3ZHIVETE;3DZELO;3ZEMLJA
2C09 0GLAGOLITIC CAPITAL LETTER IZHE;3INITIAL IZHE;3I;3DJERVI;3KAKO;3LJUDIJE;3MYSLITE;3NASHI;3ONU
2C12 0GLAGOLITIC CAPITAL LETTER POKOJI;3RITSI;3SLOVO;3TVRIDO;3UKU;3FRITU;3HERU;3OTU;3PE;3SHTA;3TSI
2C1D 0GLAGOLITIC CAPITAL LETTER CHRIVI;3SHA;3YERU;3YERI;3YATI;3SPIDERY HA;3YU;3SMALL YUS;5WITH TAIL
2C26 0GLAGOLITIC CAPITAL LETTER YO;3IOTATED SMALL YUS;3BIG YUS;3IOTATED BIG YUS;3FITA;3IZHITSA
2C2C 0GLAGOLITIC CAPITAL LETTER SHTAPIC;3TROKUTASTI A;3LATINATE MYSLITE;3CAUDATE CHRIVI
2C30 0GLAGOLITIC SMALL LETTER AZU;3BUKY;3VEDE;3GLAGOLI;3DOBRO;3YESTU;3ZHIVETE;3DZELO;3ZEMLJA;3IZHE
2C3A 0GLAGOLITIC SMALL LETTER INITIAL IZHE;3I;3DJERVI;3KAKO;3LJUDIJE;3MYSLITE;3NASHI;3ONU;3POKOJI
2C43 0GLAGOLITIC SMALL LETTER RITSI;3SLOVO;3TVRIDO;3UKU;3FRITU;3HERU;3OTU;3PE;3SHTA;3TSI;3CHRIVI
2C4E 0GLAGOLITIC SMALL LETTER SHA;3YERU;3YERI;3YATI;3SPIDERY HA;3YU;3SMALL YUS;5WITH TAIL;3YO
2C57 0GLAGOLITIC SMALL LETTER IOTATED SMALL YUS;3BIG YUS;3IOTATED BIG YUS;3FITA;3IZHITSA;3SHTAPIC
2C5D 0GLAGOLITIC SMALL LETTER TROKUTASTI A;3LATINATE MYSLITE;3CAUDATE CHRIVI
2C60 0LATIN CAPITAL LETTER L WITH DOUBLE BAR;1SMALL LETTER L WITH DOUBLE BAR
2C62 0LATIN CAPITAL LETTER L WITH MIDDLE TILDE;3P WITH STROKE;3R WITH TAIL
2C65 0LATIN SMALL LETTER A WITH STROKE;3T WITH DIAGONAL STROKE;1CAPITAL LETTER H WITH DESCENDER
2C68 0LATIN SMALL LETTER H WITH DESCENDER;1CAPITAL LETTER K WITH DESCENDER
2C6A 0LATIN SMALL LETTER K WITH DESCENDER;1CAPITAL LETTER Z WITH DESCENDER
2C6C 0LATIN SMALL LETTER Z WITH DESCENDER;1CAPITAL LETTER ALPHA;3M WITH HOOK;3TURNED A;4ALPHA
2C71 0LATIN SMALL LETTER V WITH RIGHT HOOK;1CAPITAL LETTER W WITH HOOK;1SMALL LETTER W WITH HOOK
2C74 0LATIN SMALL LETTER V WITH CURL;1CAPITAL LETTER HALF H;1SMALL LETTER HALF H;3TAILLESS PHI
2C78 0LATIN SMALL LETTER E WITH NOTCH;3TURNED R WITH TAIL;3O WITH LOW RING INSIDE
2C7B 0LATIN LETTER SMALL CAPITAL TURNED E;1SUBSCRIPT SMALL LETTER J;0MODIFIER LETTER CAPITAL V
2C7E 0LATIN CAPITAL LETTER S WITH SWASH TAIL;3Z WITH SWASH TAIL;0COPTIC CAPITAL LETTER ALFA
2C81 0COPTIC SMALL LETTER ALFA;1CAPITAL LETTER VIDA;1SMALL LETTER VIDA;1CAPITAL LETTER GAMMA
2C85 0COPTIC SMALL LETTER GAMMA;1CAPITAL LETTER DALDA;1SMALL LETTER DALDA;1CAPITAL LETTER EIE
2C89 0COPTIC SMALL LETTER EIE;1CAPITAL LETTER SOU;1SMALL LETTER SOU;1CAPITAL LETTER ZATA
2C8D 0COPTIC SMALL LETTER ZATA;1CAPITAL LETTER HATE;1SMALL LETTER HATE;1CAPITAL LETTER THETHE
2C91 0COPTIC SMALL LETTER THETHE;1CAPITAL LETTER IAUDA;1SMALL LETTER IAUDA;1CAPITAL LETTER KAPA
2C95 0COPTIC SMALL LETTER KAPA;1CAPITAL LETTER LAULA;1SMALL LETTER LAULA;1CAPITAL LETTER MI
2C99 0COPTIC SMALL LETTER MI;1CAPITAL LETTER NI;1SMALL LETTER NI;1CAPITAL LETTER KSI
2C9D 0COPTIC SMALL LETTER KSI;1CAPITAL LETTER O;1SMALL LETTER O;1CAPITAL LETTER PI;1SMALL LETTER PI
2CA2 0COPTIC CAPITAL LETTER RO;1SMALL LETTER RO;1CAPITAL LETTER SIMA;1SMALL LETTER SIMA
2CA6 0COPTIC CAPITAL LETTER TAU;1SMALL LETTER TAU;1CAPITAL LETTER UA;1SMALL LETTER UA
2CAA 0COPTIC CAPITAL LETTER FI;1SMALL LETTER FI;1CAPITAL LETTER KHI;1SMALL LETTER KHI
2CAE 0COPTIC CAPITAL LETTER PSI;1SMALL LETTER PSI;1CAPITAL LETTER OOU;1SMALL LETTER OOU
2CB2 0COPTIC CAPITAL LETTER DIALECT-P ALEF;1SMALL LETTER DIALECT-P ALEF
2CB4 0COPTIC CAPITAL LETTER OLD COPTIC AIN;1SMALL LETTER OLD COPTIC AIN
2CB6 0COPTIC CAPITAL LETTER CRYPTOGRAMMIC EIE;1SMALL LETTER CRYPTOGRAMMIC EIE
2CB8 0COPTIC CAPITAL LETTER DIALECT-P KAPA;1SMALL LETTER DIALECT-P KAPA
2CBA 0COPTIC CAPITAL LETTER DIALECT-P NI;1SMALL LETTER DIALECT-P NI
2CBC 0COPTIC CAPITAL LETTER CRYPTOGRAMMIC NI;1SMALL LETTER CRYPTOGRAMMIC NI
2CBE 0COPTIC CAPITAL LETTER OLD COPTIC OOU;1SMALL LETTER OLD COPTIC OOU;1CAPITAL LETTER SAMPI
2CC1 0COPTIC SMALL LETTER SAMPI;1CAPITAL LETTER CROSSED SHEI;1SMALL LETTER CROSSED SHEI
2CC4 0COPTIC CAPITAL LETTER OLD COPTIC SHEI;1SMALL LETTER OLD COPTIC SHEI
2CC6 0COPTIC CAPITAL LETTER OLD COPTIC ESH;1SMALL LETTER OLD COPTIC ESH
2CC8 0COPTIC CAPITAL LETTER AKHMIMIC KHEI;1SMALL LETTER AKHMIMIC KHEI
2CCA 0COPTIC CAPITAL LETTER DIALECT-P HORI;1SMALL LETTER DIALECT-P HORI
2CCC 0COPTIC CAPITAL LETTER OLD COPTIC HORI;1SMALL LETTER OLD COPTIC HORI
2CCE 0COPTIC CAPITAL LETTER OLD COPTIC HA;1SMALL LETTER OLD COPTIC HA;1CAPITAL LETTER L-SHAPED HA
2CD1 0COPTIC SMALL LETTER L-SHAPED HA;1CAPITAL LETTER OLD COPTIC HEI;1SMALL LETTER OLD COPTIC HEI
2CD4 0COPTIC CAPITAL LETTER OLD COPTIC HAT;1SMALL LETTER OLD COPTIC HAT
2CD6 0COPTIC CAPITAL LETTER OLD COPTIC GANGIA;1SMALL LETTER OLD COPTIC GANGIA
2CD8 0COPTIC CAPITAL LETTER OLD COPTIC DJA;1SMALL LETTER OLD COPTIC DJA
2CDA 0COPTIC CAPITAL LETTER OLD COPTIC SHIMA;1SMALL LETTER OLD COPTIC SHIMA
2CDC 0COPTIC CAPITAL LETTER OLD NUBIAN SHIMA;1SMALL LETTER OLD NUBIAN SHIMA
2CDE 0COPTIC CAPITAL LETTER OLD NUBIAN NGI;1SMALL LETTER OLD NUBIAN NGI
2CE0 0COPTIC CAPITAL LETTER OLD NUBIAN NYI;1SMALL LETTER OLD NUBIAN NYI
2CE2 0COPTIC CAPITAL LETTER OLD NUBIAN WAU;1SMALL LETTER OLD NUBIAN WAU;1SYMBOL KAI;2MI RO;2PI RO
2CE7 0COPTIC SYMBOL STAUROS;2TAU RO;2KHI RO;2SHIMA SIMA;1CAPITAL LETTER CRYPTOGRAMMIC SHEI
2CEC 0COPTIC SMALL LETTER CRYPTOGRAMMIC SHEI;1CAPITAL LETTER CRYPTOGRAMMIC GANGIA
2CEE 0COPTIC SMALL LETTER CRYPTOGRAMMIC GANGIA;1COMBINING NI ABOVE;2SPIRITUS ASPER;3LENIS
2CF2 0COPTIC CAPITAL LETTER BOHAIRIC KHEI;1SMALL LETTER BOHAIRIC KHEI
2CF9 0COPTIC OLD NUBIAN FULL STOP;3DIRECT QUESTION MARK;3INDIRECT QUESTION MARK;3VERSE DIVIDER
2CFD 0COPTIC FRACTION ONE HALF;1FULL STOP;1MORPHOLOGICAL DIVIDER;0GEORGIAN SMALL LETTER AN;3BAN
2D02 0GEORGIAN SMALL LETTER GAN;3DON;3EN;3VIN;3ZEN;3TAN;3IN;3KAN;3LAS;3MAN;3NAR;3ON;3PAR;3ZHAR;3RAE
2D11 0GEORGIAN SMALL LETTER SAN;3TAR;3UN;3PHAR;3KHAR;3GHAN;3QAR;3SHIN;3CHIN;3CAN;3JIL;3CIL;3CHAR
2D1E 0GEORGIAN SMALL LETTER XAN;3JHAN;3HAE;3HE;3HIE;3WE;3HAR;3HOE
2D27 0GEORGIAN SMALL LETTER YN
2D2D 0GEORGIAN SMALL LETTER AEN
2D30 0TIFINAGH LETTER YA;2YAB;2YABH;2YAG;2YAGHH;2BERBER ACADEMY YAJ;2YAJ;2YAD;2YADH;2YADD;2YADDH
2D3B 0TIFINAGH LETTER YEY;2YAF;2YAK;2TUAREG YAK;2YAKHH;2YAH;2BERBER ACADEMY YAH;2TUAREG YAH;2YAHH
2D44 0TIFINAGH LETTER YAA;2YAKH;2TUAREG YAKH;2YAQ;2TUAREG YAQ;2YI;2YAZH;2AHAGGAR YAZH;2TUAREG YAZH
2D4D 0TIFINAGH LETTER YAL;2YAM;2YAN;2TUAREG YAGN;3YANG;2YAP;2YU;2YAR;2YARR;2YAGH;2TUAREG YAGH
2D58 0TIFINAGH LETTER AYER YAGH;2YAS;2YASS;2YASH;2YAT;2YATH;2YACH;2YATT;2YAV;2YAW;2YAY;2YAZ
2D64 0TIFINAGH LETTER TAWELLEMET YAZ;2YAZZ;2YE;2YO
2D6F 0TIFINAGH MODIFIER LETTER LABIALIZATION MARK;1SEPARATOR MARK
2D7F 0TIFINAGH CONSONANT JOINER;0ETHIOPIC SYLLABLE LOA;2MOA;2ROA;2SOA;2SHOA;2BOA;2TOA;2COA;2NOA
2D89 0ETHIOPIC SYLLABLE NYOA;2GLOTTAL OA;2ZOA;2DOA;2DDOA;2JOA;2THOA;2CHOA;2PHOA;2POA;2GGWA;2GGWI
2D95 0ETHIOPIC SYLLABLE GGWEE;2GGWE
2DA0 0ETHIOPIC SYLLABLE SSA;2SSU;2SSI;2SSAA;2SSEE;2SSE;2SSO
2DA8 0ETHIOPIC SYLLABLE CCA;2CCU;2CCI;2CCAA;2CCEE;2CCE;2CCO
2DB0 0ETHIOPIC SYLLABLE ZZA;2ZZU;2ZZI;2ZZAA;2ZZEE;2ZZE;2ZZO
2DB8 0ETHIOPIC SYLLABLE CCHA;2CCHU;2CCHI;2CCHAA;2CCHEE;2CCHE;2CCHO
2DC0 0ETHIOPIC SYLLABLE QYA;2QYU;2QYI;2QYAA;2QYEE;2QYE;2QYO
2DC8 0ETHIOPIC SYLLABLE KYA;2KYU;2KYI;2KYAA;2KYEE;2KYE;2KYO
2DD0 0ETHIOPIC SYLLABLE XYA;2XYU;2XYI;2XYAA;2XYEE;2XYE;2XYO
2DD8 0ETHIOPIC SYLLABLE GYA;2GYU;2GYI;2GYAA;2GYEE;2GYE;2GYO
2DE0 0COMBINING CYRILLIC LETTER BE;3VE;3GHE;3DE;3ZHE;3ZE;3KA;3EL;3EM;3EN;3O;3PE;3ER;3ES;3TE;3HA
2DF0 0COMBINING CYRILLIC LETTER TSE;3CHE;3SHA;3SHCHA;3FITA;3ES-TE;3A;3IE;3DJERV;3MONOGRAPH UK;3YAT
2DFB 0COMBINING CYRILLIC LETTER YU;3IOTIFIED A;3LITTLE YUS;3BIG YUS;3IOTIFIED BIG YUS
2E00 0RIGHT ANGLE SUBSTITUTION MARKER;2DOTTED SUBSTITUTION MARKER;0LEFT SUBSTITUTION BRACKET
2E03 0RIGHT SUBSTITUTION BRACKET;0LEFT DOTTED SUBSTITUTION BRACKET
2E05 0RIGHT DOTTED SUBSTITUTION BRACKET;0RAISED INTERPOLATION MARKER;1DOTTED INTERPOLATION MARKER
2E08 0DOTTED TRANSPOSITION MARKER;0LEFT TRANSPOSITION BRACKET;0RIGHT TRANSPOSITION BRACKET
2E0B 0RAISED SQUARE;0LEFT RAISED OMISSION BRACKET;0RIGHT RAISED OMISSION BRACKET;0EDITORIAL CORONIS
2E0F 0PARAGRAPHOS;0FORKED PARAGRAPHOS;0REVERSED FORKED PARAGRAPHOS;0HYPODIASTOLE;0DOTTED OBELOS
2E14 0DOWNWARDS ANCORA;0UPWARDS ANCORA;0DOTTED RIGHT-POINTING ANGLE;0DOUBLE OBLIQUE HYPHEN
2E18 0INVERTED INTERROBANG;0PALM BRANCH;0HYPHEN WITH DIAERESIS;0TILDE WITH RING ABOVE
2E1C 0LEFT LOW PARAPHRASE BRACKET;0RIGHT LOW PARAPHRASE BRACKET;0TILDE WITH DOT ABOVE;3BELOW
2E20 0LEFT VERTICAL BAR WITH QUILL;0RIGHT VERTICAL BAR WITH QUILL;0TOP LEFT HALF BRACKET
2E23 0TOP RIGHT HALF BRACKET;0BOTTOM LEFT HALF BRACKET;1RIGHT HALF BRACKET;0LEFT SIDEWAYS U BRACKET
2E27 0RIGHT SIDEWAYS U BRACKET;0LEFT DOUBLE PARENTHESIS;0RIGHT DOUBLE PARENTHESIS
2E2A 0TWO DOTS OVER ONE DOT PUNCTUATION;0ONE DOT OVER TWO DOTS PUNCTUATION
2E2C 0SQUARED FOUR DOT PUNCTUATION;0FIVE DOT MARK;0REVERSED QUESTION MARK;0VERTICAL TILDE
2E30 0RING POINT;0WORD SEPARATOR MIDDLE DOT;0TURNED COMMA;0RAISED DOT;1COMMA;0TURNED SEMICOLON
2E36 0DAGGER WITH LEFT GUARD;2RIGHT GUARD;0TURNED DAGGER;0TOP HALF SECTION SIGN;0TWO-EM DASH
2E3B 0THREE-EM DASH;0STENOGRAPHIC FULL STOP;0VERTICAL SIX DOTS;0WIGGLY VERTICAL LINE;0CAPITULUM
2E40 0DOUBLE HYPHEN;0REVERSED COMMA;0DOUBLE LOW-REVERSED-9 QUOTATION MARK;0DASH WITH LEFT UPTURN
2E44 0DOUBLE SUSPENSION MARK;0INVERTED LOW KAVYKA;3WITH KAVYKA ABOVE;0LOW KAVYKA;2WITH DOT
2E49 0DOUBLE STACKED COMMA;0DOTTED SOLIDUS;0TRIPLE DAGGER;0MEDIEVAL COMMA;0PARAGRAPHUS MARK
2E4E 0PUNCTUS ELEVATUS MARK;0CORNISH VERSE DIVIDER;0CROSS PATTY WITH RIGHT CROSSBAR;3LEFT CROSSBAR
2E52 0TIRONIAN SIGN CAPITAL ET;0MEDIEVAL EXCLAMATION MARK;1QUESTION MARK
2E55 0LEFT SQUARE BRACKET WITH STROKE;0RIGHT SQUARE BRACKET WITH STROKE
2E57 0LEFT SQUARE BRACKET WITH DOUBLE STROKE;0RIGHT SQUARE BRACKET WITH DOUBLE STROKE
2E59 0TOP HALF LEFT PARENTHESIS;2RIGHT PARENTHESIS;0BOTTOM HALF LEFT PARENTHESIS;2RIGHT PARENTHESIS
2E5D 0OBLIQUE HYPHEN
2E80 0CJK RADICAL REPEAT;2CLIFF;2SECOND ONE;3TWO;3THREE;2PERSON;2BOX;2TABLE;2KNIFE ONE;3TWO
2E8A 0CJK RADICAL DIVINATION;2SEAL;2SMALL ONE;3TWO;2LAME ONE;3TWO;3THREE;3FOUR;2SNAKE;2THREAD
2E94 0CJK RADICAL SNOUT ONE;3TWO;2HEART ONE;3TWO;2HAND;2RAP
2E9B 0CJK RADICAL CHOKE;2SUN;2MOON;2DEATH;2MOTHER;2CIVILIAN;2WATER ONE;3TWO;2FIRE;2PAW ONE;3TWO
2EA6 0CJK RADICAL SIMPLIFIED HALF TREE TRUNK;2COW;2DOG;2JADE;2BOLT OF CLOTH;2EYE;2SPIRIT ONE;3TWO
2EAE 0CJK RADICAL BAMBOO;2SILK;2C-SIMPLIFIED SILK;2NET ONE;3TWO;3THREE;3FOUR;2MESH;2SHEEP;2RAM;2EWE
2EB9 0CJK RADICAL OLD;2BRUSH ONE;3TWO;2MEAT;2MORTAR;2GRASS ONE;3TWO;3THREE;2TIGER;2CLOTHES
2EC3 0CJK RADICAL WEST ONE;3TWO;2C-SIMPLIFIED SEE;2SIMPLIFIED HORN;2HORN;2C-SIMPLIFIED SPEECH
2EC9 0CJK RADICAL C-SIMPLIFIED SHELL;2FOOT;2C-SIMPLIFIED CART;2SIMPLIFIED WALK;2WALK ONE;3TWO;2CITY
2ED0 0CJK RADICAL C-SIMPLIFIED GOLD;2LONG ONE;3TWO;2C-SIMPLIFIED LONG;3GATE;2MOUND ONE;3TWO;2RAIN
2ED8 0CJK RADICAL BLUE;2C-SIMPLIFIED TANNED LEATHER;3LEAF;3WIND;3FLY;2EAT ONE;3TWO;3THREE
2EE0 0CJK RADICAL C-SIMPLIFIED EAT;2HEAD;2C-SIMPLIFIED HORSE;2BONE;2GHOST;2C-SIMPLIFIED FISH;3BIRD
2EE7 0CJK RADICAL C-SIMPLIFIED SALT;2SIMPLIFIED WHEAT;3YELLOW;2C-SIMPLIFIED FROG;2J-SIMPLIFIED EVEN
2EEC 0CJK RADICAL C-SIMPLIFIED EVEN;2J-SIMPLIFIED TOOTH;2C-SIMPLIFIED TOOTH;2J-SIMPLIFIED DRAGON
2EF0 0CJK RADICAL C-SIMPLIFIED DRAGON;2TURTLE;2J-SIMPLIFIED TURTLE;2C-SIMPLIFIED TURTLE
2F00 0KANGXI RADICAL ONE;2LINE;2DOT;2SLASH;2SECOND;2HOOK;2TWO;2LID;2MAN;2LEGS;2ENTER;2EIGHT
2F0C 0KANGXI RADICAL DOWN BOX;2COVER;2ICE;2TABLE;2OPEN BOX;2KNIFE;2POWER;2WRAP;2SPOON
2F15 0KANGXI RADICAL RIGHT OPEN BOX;2HIDING ENCLOSURE;2TEN;2DIVINATION;2SEAL;2CLIFF;2PRIVATE;2AGAIN
2F1D 0KANGXI RADICAL MOUTH;2ENCLOSURE;2EARTH;2SCHOLAR;2GO;3SLOWLY;2EVENING;2BIG;2WOMAN;2CHILD;2ROOF
2F28 0KANGXI RADICAL INCH;2SMALL;2LAME;2CORPSE;2SPROUT;2MOUNTAIN;2RIVER;2WORK;2ONESELF;2TURBAN;2DRY
2F33 0KANGXI RADICAL SHORT THREAD;2DOTTED CLIFF;2LONG STRIDE;2TWO HANDS;2SHOOT;2BOW;2SNOUT;2BRISTLE
2F3B 0KANGXI RADICAL STEP;2HEART;2HALBERD;2DOOR;2HAND;2BRANCH;2RAP;2SCRIPT;2DIPPER;2AXE;2SQUARE
2F46 0KANGXI RADICAL NOT;2SUN;2SAY;2MOON;2TREE;2LACK;2STOP;2DEATH;2WEAPON;2DO NOT;2COMPARE;2FUR
2F52 0KANGXI RADICAL CLAN;2STEAM;2WATER;2FIRE;2CLAW;2FATHER;2DOUBLE X;2HALF TREE TRUNK;2SLICE;2FANG
2F5C 0KANGXI RADICAL COW;2DOG;2PROFOUND;2JADE;2MELON;2TILE;2SWEET;2LIFE;2USE;2FIELD;2BOLT OF CLOTH
2F67 0KANGXI RADICAL SICKNESS;2DOTTED TENT;2WHITE;2SKIN;2DISH;2EYE;2SPEAR;2ARROW;2STONE;2SPIRIT
2F71 0KANGXI RADICAL TRACK;2GRAIN;2CAVE;2STAND;2BAMBOO;2RICE;2SILK;2JAR;2NET;2SHEEP;2FEATHER;2OLD
2F7D 0KANGXI RADICAL AND;2PLOW;2EAR;2BRUSH;2MEAT;2MINISTER;2SELF;2ARRIVE;2MORTAR;2TONGUE;2OPPOSE
2F88 0KANGXI RADICAL BOAT;2STOPPING;2COLOR;2GRASS;2TIGER;2INSECT;2BLOOD;2WALK ENCLOSURE;2CLOTHES
2F91 0KANGXI RADICAL WEST;2SEE;2HORN;2SPEECH;2VALLEY;2BEAN;2PIG;2BADGER;2SHELL;2RED;2RUN;2FOOT
2F9D 0KANGXI RADICAL BODY;2CART;2BITTER;2MORNING;2WALK;2CITY;2WINE;2DISTINGUISH;2VILLAGE;2GOLD
2FA7 0KANGXI RADICAL LONG;2GATE;2MOUND;2SLAVE;2SHORT TAILED BIRD;2RAIN;2BLUE;2WRONG;2FACE;2LEATHER
2FB1 0KANGXI RADICAL TANNED LEATHER;2LEEK;2SOUND;2LEAF;2WIND;2FLY;2EAT;2HEAD;2FRAGRANT;2HORSE;2BONE
2FBC 0KANGXI RADICAL TALL;2HAIR;2FIGHT;2SACRIFICIAL WINE;2CAULDRON;2GHOST;2FISH;2BIRD;2SALT;2DEER
2FC6 0KANGXI RADICAL WHEAT;2HEMP;2YELLOW;2MILLET;2BLACK;2EMBROIDERY;2FROG;2TRIPOD;2DRUM;2RAT;2NOSE
2FD1 0KANGXI RADICAL EVEN;2TOOTH;2DRAGON;2TURTLE;2FLUTE
2FF0 0IDEOGRAPHIC DESCRIPTION CHARACTER LEFT TO RIGHT;3ABOVE TO BELOW;3LEFT TO MIDDLE AND RIGHT
2FF3 0IDEOGRAPHIC DESCRIPTION CHARACTER ABOVE TO MIDDLE AND BELOW;3FULL SURROUND
2FF5 0IDEOGRAPHIC DESCRIPTION CHARACTER SURROUND FROM ABOVE;5BELOW;5LEFT;5UPPER LEFT;6RIGHT
2FFA 0IDEOGRAPHIC DESCRIPTION CHARACTER SURROUND FROM LOWER LEFT;3OVERLAID
3000 0IDEOGRAPHIC SPACE;1COMMA;1FULL STOP;0DITTO MARK;0JAPANESE INDUSTRIAL STANDARD SYMBOL
3005 0IDEOGRAPHIC ITERATION MARK;1CLOSING MARK;1NUMBER ZERO;0LEFT ANGLE BRACKET
3009 0RIGHT ANGLE BRACKET;0LEFT DOUBLE ANGLE BRACKET;0RIGHT DOUBLE ANGLE BRACKET
300C 0LEFT CORNER BRACKET;0RIGHT CORNER BRACKET;0LEFT WHITE CORNER BRACKET
300F 0RIGHT WHITE CORNER BRACKET;0LEFT BLACK LENTICULAR BRACKET;0RIGHT BLACK LENTICULAR BRACKET
3012 0POSTAL MARK;0GETA MARK;0LEFT TORTOISE SHELL BRACKET;0RIGHT TORTOISE SHELL BRACKET
3016 0LEFT WHITE LENTICULAR BRACKET;0RIGHT WHITE LENTICULAR BRACKET
3018 0LEFT WHITE TORTOISE SHELL BRACKET;0RIGHT WHITE TORTOISE SHELL BRACKET
301A 0LEFT WHITE SQUARE BRACKET;0RIGHT WHITE SQUARE BRACKET;0WAVE DASH
301D 0REVERSED DOUBLE PRIME QUOTATION MARK;0DOUBLE PRIME QUOTATION MARK
301F 0LOW DOUBLE PRIME QUOTATION MARK;0POSTAL MARK FACE;0HANGZHOU NUMERAL ONE;2TWO;2THREE;2FOUR
3025 0HANGZHOU NUMERAL FIVE;2SIX;2SEVEN;2EIGHT;2NINE;0IDEOGRAPHIC LEVEL TONE MARK;1RISING TONE MARK
302C 0IDEOGRAPHIC DEPARTING TONE MARK;1ENTERING TONE MARK;0HANGUL SINGLE DOT TONE MARK
302F 0HANGUL DOUBLE DOT TONE MARK;0WAVY DASH;0VERTICAL KANA REPEAT MARK;3WITH VOICED SOUND MARK
3033 0VERTICAL KANA REPEAT MARK UPPER HALF;3WITH VOICED SOUND MARK UPPER HALF;3MARK LOWER HALF
3036 0CIRCLED POSTAL MARK;0IDEOGRAPHIC TELEGRAPH LINE FEED SEPARATOR SYMBOL;0HANGZHOU NUMERAL TEN
3039 0HANGZHOU NUMERAL TWENTY;2THIRTY;0VERTICAL IDEOGRAPHIC ITERATION MARK;0MASU MARK
303D 0PART ALTERNATION MARK;0IDEOGRAPHIC VARIATION INDICATOR;1HALF FILL SPACE
3041 0HIRAGANA LETTER SMALL A;2A;2SMALL I;2I;2SMALL U;2U;2SMALL E;2E;2SMALL O;2O;2KA;2GA;2KI;2GI
304F 0HIRAGANA LETTER KU;2GU;2KE;2GE;2KO;2GO;2SA;2ZA;2SI;2ZI;2SU;2ZU;2SE;2ZE;2SO;2ZO;2TA;2DA;2TI
3062 0HIRAGANA LETTER DI;2SMALL TU;2TU;2DU;2TE;2DE;2TO;2DO;2NA;2NI;2NU;2NE;2NO;2HA;2BA;2PA;2HI;2BI
3074 0HIRAGANA LETTER PI;2HU;2BU;2PU;2HE;2BE;2PE;2HO;2BO;2PO;2MA;2MI;2MU;2ME;2MO;2SMALL YA;2YA
3085 0HIRAGANA LETTER SMALL YU;2YU;2SMALL YO;2YO;2RA;2RI;2RU;2RE;2RO;2SMALL WA;2WA;2WI;2WE;2WO;2N
3094 0HIRAGANA LETTER VU;2SMALL KA;3KE
3099 0COMBINING KATAKANA-HIRAGANA VOICED SOUND MARK;2SEMI-VOICED SOUND MARK
309B 0KATAKANA-HIRAGANA VOICED SOUND MARK;1SEMI-VOICED SOUND MARK;0HIRAGANA ITERATION MARK
309E 0HIRAGANA VOICED ITERATION MARK;1DIGRAPH YORI;0KATAKANA-HIRAGANA DOUBLE HYPHEN
30A1 0KATAKANA LETTER SMALL A;2A;2SMALL I;2I;2SMALL U;2U;2SMALL E;2E;2SMALL O;2O;2KA;2GA;2KI;2GI
30AF 0KATAKANA LETTER KU;2GU;2KE;2GE;2KO;2GO;2SA;2ZA;2SI;2ZI;2SU;2ZU;2SE;2ZE;2SO;2ZO;2TA;2DA;2TI
30C2 0KATAKANA LETTER DI;2SMALL TU;2TU;2DU;2TE;2DE;2TO;2DO;2NA;2NI;2NU;2NE;2NO;2HA;2BA;2PA;2HI;2BI
30D4 0KATAKANA LETTER PI;2HU;2BU;2PU;2HE;2BE;2PE;2HO;2BO;2PO;2MA;2MI;2MU;2ME;2MO;2SMALL YA;2YA
30E5 0KATAKANA LETTER SMALL YU;2YU;2SMALL YO;2YO;2RA;2RI;2RU;2RE;2RO;2SMALL WA;2WA;2WI;2WE;2WO;2N
30F4 0KATAKANA LETTER VU;2SMALL KA;3KE;2VA;2VI;2VE;2VO;1MIDDLE DOT
30FC 0KATAKANA-HIRAGANA PROLONGED SOUND MARK;0KATAKANA ITERATION MARK;1VOICED ITERATION MARK
30FF 0KATAKANA DIGRAPH KOTO
3105 0BOPOMOFO LETTER B;2P;2M;2F;2D;2T;2N;2L;2G;2K;2H;2J;2Q;2X;2ZH;2CH;2SH;2R;2Z;2C;2S;2A;2O;2E;2EH
311E 0BOPOMOFO LETTER AI;2EI;2AU;2OU;2AN;2EN;2ANG;2ENG;2ER;2I;2U;2IU;2V;2NG;2GN;2IH
312E 0BOPOMOFO LETTER O WITH DOT ABOVE;2NN
3131 0HANGUL LETTER KIYEOK;2SSANGKIYEOK;2KIYEOK-SIOS;2NIEUN;2NIEUN-CIEUC;2NIEUN-HIEUH;2TIKEUT
3138 0HANGUL LETTER SSANGTIKEUT;2RIEUL;2RIEUL-KIYEOK;2RIEUL-MIEUM;2RIEUL-PIEUP;2RIEUL-SIOS
313E 0HANGUL LETTER RIEUL-THIEUTH;2RIEUL-PHIEUPH;2RIEUL-HIEUH;2MIEUM;2PIEUP;2SSANGPIEUP;2PIEUP-SIOS
3145 0HANGUL LETTER SIOS;2SSANGSIOS;2IEUNG;2CIEUC;2SSANGCIEUC;2CHIEUCH;2KHIEUKH;2THIEUTH;2PHIEUPH
314E 0HANGUL LETTER HIEUH;2A;2AE;2YA;2YAE;2EO;2E;2YEO;2YE;2O;2WA;2WAE;2OE;2YO;2U;2WEO;2WE;2WI;2YU
3161 0HANGUL LETTER EU;2YI;2I;1FILLER;1LETTER SSANGNIEUN;2NIEUN-TIKEUT;2NIEUN-SIOS;2NIEUN-PANSIOS
3169 0HANGUL LETTER RIEUL-KIYEOK-SIOS;2RIEUL-TIKEUT;2RIEUL-PIEUP-SIOS;2RIEUL-PANSIOS
316D 0HANGUL LETTER RIEUL-YEORINHIEUH;2MIEUM-PIEUP;2MIEUM-SIOS;2MIEUM-PANSIOS;2KAPYEOUNMIEUM
3172 0HANGUL LETTER PIEUP-KIYEOK;2PIEUP-TIKEUT;2PIEUP-SIOS-KIYEOK;2PIEUP-SIOS-TIKEUT;2PIEUP-CIEUC
3177 0HANGUL LETTER PIEUP-THIEUTH;2KAPYEOUNPIEUP;2KAPYEOUNSSANGPIEUP;2SIOS-KIYEOK;2SIOS-NIEUN
317C 0HANGUL LETTER SIOS-TIKEUT;2SIOS-PIEUP;2SIOS-CIEUC;2PANSIOS;2SSANGIEUNG;2YESIEUNG
3182 0HANGUL LETTER YESIEUNG-SIOS;2YESIEUNG-PANSIOS;2KAPYEOUNPHIEUPH;2SSANGHIEUH;2YEORINHIEUH
3187 0HANGUL LETTER YO-YA;2YO-YAE;2YO-I;2YU-YEO;2YU-YE;2YU-I;2ARAEA;2ARAEAE
3190 0IDEOGRAPHIC ANNOTATION LINKING MARK;2REVERSE MARK;2ONE MARK;2TWO MARK;2THREE MARK;2FOUR MARK
3196 0IDEOGRAPHIC ANNOTATION TOP MARK;2MIDDLE MARK;2BOTTOM MARK;2FIRST MARK;2SECOND MARK
319B 0IDEOGRAPHIC ANNOTATION THIRD MARK;2FOURTH MARK;2HEAVEN MARK;2EARTH MARK;2MAN MARK
31A0 0BOPOMOFO LETTER BU;2ZI;2JI;2GU;2EE;2ENN;2OO;2ONN;2IR;2ANN;2INN;2UNN;2IM;2NGG;2AINN;2AUNN;2AM
31B1 0BOPOMOFO LETTER OM;2ONG;2INNN;1FINAL LETTER P;3T;3K;3H;1LETTER GH;2LH;2ZY;1FINAL LETTER G
31BC 0BOPOMOFO LETTER GW;2KW;2OE;2AH;0CJK STROKE T;2WG;2XG;2BXG;2SW;2HZZ;2HZG;2HP;2HZWG;2SZWG;2HZT
31CB 0CJK STROKE HZZP;2HPWG;2HZW;2HZZZ;2N;2H;2S;2P;2SP;2D;2HZ;2HG;2SZ;2SWZ;2ST;2SG;2PD;2PZ;2TN;2SZZ
31DF 0CJK STROKE SWG;2HXWG;2HZZZG;2PG;2Q
31F0 0KATAKANA LETTER SMALL KU;3SI;3SU;3TO;3NU;3HA;3HI;3HU;3HE;3HO;3MU;3RA;3RI;3RU;3RE;3RO
3200 0PARENTHESIZED HANGUL KIYEOK;2NIEUN;2TIKEUT;2RIEUL;2MIEUM;2PIEUP;2SIOS;2IEUNG;2CIEUC;2CHIEUCH
320A 0PARENTHESIZED HANGUL KHIEUKH;2THIEUTH;2PHIEUPH;2HIEUH;2KIYEOK A;2NIEUN A;2TIKEUT A;2RIEUL A
3212 0PARENTHESIZED HANGUL MIEUM A;2PIEUP A;2SIOS A;2IEUNG A;2CIEUC A;2CHIEUCH A;2KHIEUKH A
3219 0PARENTHESIZED HANGUL THIEUTH A;2PHIEUPH A;2HIEUH A;2CIEUC U;1KOREAN CHARACTER OJEON;3O HU
3220 0PARENTHESIZED IDEOGRAPH ONE;2TWO;2THREE;2FOUR;2FIVE;2SIX;2SEVEN;2EIGHT;2NINE;2TEN;2MOON;2FIRE
322C 0PARENTHESIZED IDEOGRAPH WATER;2WOOD;2METAL;2EARTH;2SUN;2STOCK;2HAVE;2SOCIETY;2NAME;2SPECIAL
3236 0PARENTHESIZED IDEOGRAPH FINANCIAL;2CONGRATULATION;2LABOR;2REPRESENT;2CALL;2STUDY;2SUPERVISE
323D 0PARENTHESIZED IDEOGRAPH ENTERPRISE;2RESOURCE;2ALLIANCE;2FESTIVAL;2REST;2SELF;2REACH
3244 0CIRCLED IDEOGRAPH QUESTION;2KINDERGARTEN;2SCHOOL;2KOTO;1NUMBER TEN ON BLACK SQUARE
3249 0CIRCLED NUMBER TWENTY ON BLACK SQUARE;2THIRTY ON BLACK SQUARE;2FORTY ON BLACK SQUARE
324C 0CIRCLED NUMBER FIFTY ON BLACK SQUARE;2SIXTY ON BLACK SQUARE;2SEVENTY ON BLACK SQUARE
324F 0CIRCLED NUMBER EIGHTY ON BLACK SQUARE;0PARTNERSHIP SIGN;0CIRCLED NUMBER TWENTY ONE;3TWO
3253 0CIRCLED NUMBER TWENTY THREE;3FOUR;3FIVE;3SIX;3SEVEN;3EIGHT;3NINE;2THIRTY;3ONE;3TWO;3THREE
325E 0CIRCLED NUMBER THIRTY FOUR;3FIVE;1HANGUL KIYEOK;2NIEUN;2TIKEUT;2RIEUL;2MIEUM;2PIEUP;2SIOS
3267 0CIRCLED HANGUL IEUNG;2CIEUC;2CHIEUCH;2KHIEUKH;2THIEUTH;2PHIEUPH;2HIEUH;2KIYEOK A;2NIEUN A
3270 0CIRCLED HANGUL TIKEUT A;2RIEUL A;2MIEUM A;2PIEUP A;2SIOS A;2IEUNG A;2CIEUC A;2CHIEUCH A
3278 0CIRCLED HANGUL KHIEUKH A;2THIEUTH A;2PHIEUPH A;2HIEUH A;1KOREAN CHARACTER CHAMKO;3JUEUI
327E 0CIRCLED HANGUL IEUNG U;0KOREAN STANDARD SYMBOL;0CIRCLED IDEOGRAPH ONE;2TWO;2THREE;2FOUR;2FIVE
3285 0CIRCLED IDEOGRAPH SIX;2SEVEN;2EIGHT;2NINE;2TEN;2MOON;2FIRE;2WATER;2WOOD;2METAL;2EARTH;2SUN
3291 0CIRCLED IDEOGRAPH STOCK;2HAVE;2SOCIETY;2NAME;2SPECIAL;2FINANCIAL;2CONGRATULATION;2LABOR
3299 0CIRCLED IDEOGRAPH SECRET;2MALE;2FEMALE;2SUITABLE;2EXCELLENT;2PRINT;2ATTENTION;2ITEM;2REST
32A2 0CIRCLED IDEOGRAPH COPY;2CORRECT;2HIGH;2CENTRE;2LOW;2LEFT;2RIGHT;2MEDICINE;2RELIGION;2STUDY
32AC 0CIRCLED IDEOGRAPH SUPERVISE;2ENTERPRISE;2RESOURCE;2ALLIANCE;2NIGHT;1NUMBER THIRTY SIX;3SEVEN
32B3 0CIRCLED NUMBER THIRTY EIGHT;3NINE;2FORTY;3ONE;3TWO;3THREE;3FOUR;3FIVE;3SIX;3SEVEN;3EIGHT
32BE 0CIRCLED NUMBER FORTY NINE;2FIFTY;0IDEOGRAPHIC TELEGRAPH SYMBOL FOR JANUARY;4FEBRUARY;4MARCH
32C3 0IDEOGRAPHIC TELEGRAPH SYMBOL FOR APRIL;4MAY;4JUNE;4JULY;4AUGUST;4SEPTEMBER;4OCTOBER;4NOVEMBER
32CB 0IDEOGRAPHIC TELEGRAPH SYMBOL FOR DECEMBER;0SQUARE HG;1ERG;1EV;0LIMITED LIABILITY SIGN
32D0 0CIRCLED KATAKANA A;2I;2U;2E;2O;2KA;2KI;2KU;2KE;2KO;2SA;2SI;2SU;2SE;2SO;2TA;2TI;2TU;2TE;2TO
32E4 0CIRCLED KATAKANA NA;2NI;2NU;2NE;2NO;2HA;2HI;2HU;2HE;2HO;2MA;2MI;2MU;2ME;2MO;2YA;2YU;2YO;2RA
32F7 0CIRCLED KATAKANA RI;2RU;2RE;2RO;2WA;2WI;2WE;2WO;0SQUARE ERA NAME REIWA;1APAATO;1ARUHUA;1ANPEA
3303 0SQUARE AARU;1ININGU;1INTI;1UON;1ESUKUUDO;1EEKAA;1ONSU;1OOMU;1KAIRI;1KARATTO;1KARORII;1GARON
330F 0SQUARE GANMA;1GIGA;1GINII;1KYURII;1GIRUDAA;1KIRO;1KIROGURAMU;1KIROMEETORU;1KIROWATTO;1GURAMU
3319 0SQUARE GURAMUTON;1KURUZEIRO;1KUROONE;1KEESU;1KORUNA;1KOOPO;1SAIKURU;1SANTIIMU;1SIRINGU;1SENTI
3323 0SQUARE SENTO;1DAASU;1DESI;1DORU;1TON;1NANO;1NOTTO;1HAITU;1PAASENTO;1PAATU;1BAARERU;1PIASUTORU
332F 0SQUARE PIKURU;1PIKO;1BIRU;1HUARADDO;1HUIITO;1BUSSYERU;1HURAN;1HEKUTAARU;1PESO;1PENIHI;1HERUTU
333A 0SQUARE PENSU;1PEEZI;1BEETA;1POINTO;1BORUTO;1HON;1PONDO;1HOORU;1HOON;1MAIKURO;1MAIRU;1MAHHA
3346 0SQUARE MARUKU;1MANSYON;1MIKURON;1MIRI;1MIRIBAARU;1MEGA;1MEGATON;1MEETORU;1YAADO;1YAARU;1YUAN
3351 0SQUARE RITTORU;1RIRA;1RUPII;1RUUBURU;1REMU;1RENTOGEN;1WATTO
3358 0IDEOGRAPHIC TELEGRAPH SYMBOL FOR HOUR ZERO;5ONE;5TWO;5THREE;5FOUR;5FIVE;5SIX;5SEVEN;5EIGHT
3361 0IDEOGRAPHIC TELEGRAPH SYMBOL FOR HOUR NINE;5TEN;5ELEVEN;5TWELVE;5THIRTEEN;5FOURTEEN;5FIFTEEN
3368 0IDEOGRAPHIC TELEGRAPH SYMBOL FOR HOUR SIXTEEN;5SEVENTEEN;5EIGHTEEN;5NINETEEN;5TWENTY
336D 0IDEOGRAPHIC TELEGRAPH SYMBOL FOR HOUR TWENTY-ONE;5TWENTY-TWO;5TWENTY-THREE;5TWENTY-FOUR
3371 0SQUARE HPA;1DA;1AU;1BAR;1OV;1PC;1DM;2SQUARED;2CUBED;1IU;1ERA NAME HEISEI;3SYOUWA;3TAISYOU
337E 0SQUARE ERA NAME MEIZI;1CORPORATION;1PA AMPS;1NA;1MU A;1MA;1KA;1KB;1MB;1GB;1CAL;1KCAL;1PF;1NF
338C 0SQUARE MU F;2G;1MG;1KG;1HZ;1KHZ;1MHZ;1GHZ;1THZ;1MU L;1ML;1DL;1KL;1FM;1NM;1MU M;1MM;1CM;1KM
339F 0SQUARE MM SQUARED;1CM SQUARED;1M SQUARED;1KM SQUARED;1MM CUBED;1CM CUBED;1M CUBED;1KM CUBED
33A7 0SQUARE M OVER S;4SQUARED;1PA;1KPA;1MPA;1GPA;1RAD;2OVER S;4SQUARED;1PS;1NS;1MU S;1MS;1PV;1NV
33B6 0SQUARE MU V;1MV;1KV;1MV MEGA;1PW;1NW;1MU W;1MW;1KW;1MW MEGA;1K OHM;1M OHM;1AM;1BQ;1CC;1CD
33C6 0SQUARE C OVER KG;1CO;1DB;1GY;1HA;1HP;1IN;1KK;1KM CAPITAL;1KT;1LM;1LN;1LOG;1LX;1MB SMALL;1MIL
33D6 0SQUARE MOL;1PH;1PM;1PPM;1PR;1SR;1SV;1WB;1V OVER M;1A OVER M
33E0 0IDEOGRAPHIC TELEGRAPH SYMBOL FOR DAY ONE;5TWO;5THREE;5FOUR;5FIVE;5SIX;5SEVEN;5EIGHT;5NINE
33E9 0IDEOGRAPHIC TELEGRAPH SYMBOL FOR DAY TEN;5ELEVEN;5TWELVE;5THIRTEEN;5FOURTEEN;5FIFTEEN
33EF 0IDEOGRAPHIC TELEGRAPH SYMBOL FOR DAY SIXTEEN;5SEVENTEEN;5EIGHTEEN;5NINETEEN;5TWENTY
33F4 0IDEOGRAPHIC TELEGRAPH SYMBOL FOR DAY TWENTY-ONE;5TWENTY-TWO;5TWENTY-THREE;5TWENTY-FOUR
33F8 0IDEOGRAPHIC TELEGRAPH SYMBOL FOR DAY TWENTY-FIVE;5TWENTY-SIX;5TWENTY-SEVEN;5TWENTY-EIGHT
33FC 0IDEOGRAPHIC TELEGRAPH SYMBOL FOR DAY TWENTY-NINE;5THIRTY;5THIRTY-ONE;0SQUARE GAL
4DC0 0HEXAGRAM FOR THE CREATIVE HEAVEN;3RECEPTIVE EARTH;2DIFFICULTY AT THE BEGINNING
4DC3 0HEXAGRAM FOR YOUTHFUL FOLLY;2WAITING;2CONFLICT;2THE ARMY;2HOLDING TOGETHER;2SMALL TAMING
4DC9 0HEXAGRAM FOR TREADING;2PEACE;2STANDSTILL;2FELLOWSHIP;2GREAT POSSESSION;2MODESTY;2ENTHUSIASM
4DD0 0HEXAGRAM FOR FOLLOWING;2WORK ON THE DECAYED;2APPROACH;2CONTEMPLATION;2BITING THROUGH;2GRACE
4DD6 0HEXAGRAM FOR SPLITTING APART;2RETURN;2INNOCENCE;2GREAT TAMING;2MOUTH CORNERS
4DDB 0HEXAGRAM FOR GREAT PREPONDERANCE;2THE ABYSMAL WATER;3CLINGING FIRE;2INFLUENCE;2DURATION
4DE0 0HEXAGRAM FOR RETREAT;2GREAT POWER;2PROGRESS;2DARKENING OF THE LIGHT;2THE FAMILY;2OPPOSITION
4DE6 0HEXAGRAM FOR OBSTRUCTION;2DELIVERANCE;2DECREASE;2INCREASE;2BREAKTHROUGH;2COMING TO MEET
4DEC 0HEXAGRAM FOR GATHERING TOGETHER;2PUSHING UPWARD;2OPPRESSION;2THE WELL;2REVOLUTION
4DF1 0HEXAGRAM FOR THE CAULDRON;3AROUSING THUNDER;3KEEPING STILL MOUNTAIN;2DEVELOPMENT
4DF5 0HEXAGRAM FOR THE MARRYING MAIDEN;2ABUNDANCE;2THE WANDERER;3GENTLE WIND;3JOYOUS LAKE
4DFA 0HEXAGRAM FOR DISPERSION;2LIMITATION;2INNER TRUTH;2SMALL PREPONDERANCE;2AFTER COMPLETION
4DFF 0HEXAGRAM FOR BEFORE COMPLETION
A000 0YI SYLLABLE IT;2IX;2I;2IP;2IET;2IEX;2IE;2IEP;2AT;2AX;2A;2AP;2UOX;2UO;2UOP;2OT;2OX;2O;2OP;2EX
A014 0YI SYLLABLE E;2WU;2BIT;2BIX;2BI;2BIP;2BIET;2BIEX;2BIE;2BIEP;2BAT;2BAX;2BA;2BAP;2BUOX;2BUO
A024 0YI SYLLABLE BUOP;2BOT;2BOX;2BO;2BOP;2BEX;2BE;2BEP;2BUT;2BUX;2BU;2BUP;2BURX;2BUR;2BYT;2BYX;2BY
A035 0YI SYLLABLE BYP;2BYRX;2BYR;2PIT;2PIX;2PI;2PIP;2PIEX;2PIE;2PIEP;2PAT;2PAX;2PA;2PAP;2PUOX;2PUO
A045 0YI SYLLABLE PUOP;2POT;2POX;2PO;2POP;2PUT;2PUX;2PU;2PUP;2PURX;2PUR;2PYT;2PYX;2PY;2PYP;2PYRX
A055 0YI SYLLABLE PYR;2BBIT;2BBIX;2BBI;2BBIP;2BBIET;2BBIEX;2BBIE;2BBIEP;2BBAT;2BBAX;2BBA;2BBAP
A062 0YI SYLLABLE BBUOX;2BBUO;2BBUOP;2BBOT;2BBOX;2BBO;2BBOP;2BBEX;2BBE;2BBEP;2BBUT;2BBUX;2BBU;2BBUP
A070 0YI SYLLABLE BBURX;2BBUR;2BBYT;2BBYX;2BBY;2BBYP;2NBIT;2NBIX;2NBI;2NBIP;2NBIEX;2NBIE;2NBIEP
A07D 0YI SYLLABLE NBAT;2NBAX;2NBA;2NBAP;2NBOT;2NBOX;2NBO;2NBOP;2NBUT;2NBUX;2NBU;2NBUP;2NBURX;2NBUR
A08B 0YI SYLLABLE NBYT;2NBYX;2NBY;2NBYP;2NBYRX;2NBYR;2HMIT;2HMIX;2HMI;2HMIP;2HMIEX;2HMIE;2HMIEP
A098 0YI SYLLABLE HMAT;2HMAX;2HMA;2HMAP;2HMUOX;2HMUO;2HMUOP;2HMOT;2HMOX;2HMO;2HMOP;2HMUT;2HMUX;2HMU
A0A6 0YI SYLLABLE HMUP;2HMURX;2HMUR;2HMYX;2HMY;2HMYP;2HMYRX;2HMYR;2MIT;2MIX;2MI;2MIP;2MIEX;2MIE
A0B4 0YI SYLLABLE MIEP;2MAT;2MAX;2MA;2MAP;2MUOT;2MUOX;2MUO;2MUOP;2MOT;2MOX;2MO;2MOP;2MEX;2ME;2MUT
A0C4 0YI SYLLABLE MUX;2MU;2MUP;2MURX;2MUR;2MYT;2MYX;2MY;2MYP;2FIT;2FIX;2FI;2FIP;2FAT;2FAX;2FA;2FAP
A0D5 0YI SYLLABLE FOX;2FO;2FOP;2FUT;2FUX;2FU;2FUP;2FURX;2FUR;2FYT;2FYX;2FY;2FYP;2VIT;2VIX;2VI;2VIP
A0E6 0YI SYLLABLE VIET;2VIEX;2VIE;2VIEP;2VAT;2VAX;2VA;2VAP;2VOT;2VOX;2VO;2VOP;2VEX;2VEP;2VUT;2VUX
A0F6 0YI SYLLABLE VU;2VUP;2VURX;2VUR;2VYT;2VYX;2VY;2VYP;2VYRX;2VYR;2DIT;2DIX;2DI;2DIP;2DIEX;2DIE
A106 0YI SYLLABLE DIEP;2DAT;2DAX;2DA;2DAP;2DUOX;2DUO;2DOT;2DOX;2DO;2DOP;2DEX;2DE;2DEP;2DUT;2DUX;2DU
A117 0YI SYLLABLE DUP;2DURX;2DUR;2TIT;2TIX;2TI;2TIP;2TIEX;2TIE;2TIEP;2TAT;2TAX;2TA;2TAP;2TUOT;2TUOX
A127 0YI SYLLABLE TUO;2TUOP;2TOT;2TOX;2TO;2TOP;2TEX;2TE;2TEP;2TUT;2TUX;2TU;2TUP;2TURX;2TUR;2DDIT
A137 0YI SYLLABLE DDIX;2DDI;2DDIP;2DDIEX;2DDIE;2DDIEP;2DDAT;2DDAX;2DDA;2DDAP;2DDUOX;2DDUO;2DDUOP
A144 0YI SYLLABLE DDOT;2DDOX;2DDO;2DDOP;2DDEX;2DDE;2DDEP;2DDUT;2DDUX;2DDU;2DDUP;2DDURX;2DDUR;2NDIT
A152 0YI SYLLABLE NDIX;2NDI;2NDIP;2NDIEX;2NDIE;2NDAT;2NDAX;2NDA;2NDAP;2NDOT;2NDOX;2NDO;2NDOP;2NDEX
A160 0YI SYLLABLE NDE;2NDEP;2NDUT;2NDUX;2NDU;2NDUP;2NDURX;2NDUR;2HNIT;2HNIX;2HNI;2HNIP;2HNIET
A16D 0YI SYLLABLE HNIEX;2HNIE;2HNIEP;2HNAT;2HNAX;2HNA;2HNAP;2HNUOX;2HNUO;2HNOT;2HNOX;2HNOP;2HNEX
A17A 0YI SYLLABLE HNE;2HNEP;2HNUT;2NIT;2NIX;2NI;2NIP;2NIEX;2NIE;2NIEP;2NAX;2NA;2NAP;2NUOX;2NUO
A189 0YI SYLLABLE NUOP;2NOT;2NOX;2NO;2NOP;2NEX;2NE;2NEP;2NUT;2NUX;2NU;2NUP;2NURX;2NUR;2HLIT;2HLIX
A199 0YI SYLLABLE HLI;2HLIP;2HLIEX;2HLIE;2HLIEP;2HLAT;2HLAX;2HLA;2HLAP;2HLUOX;2HLUO;2HLUOP;2HLOX
A1A6 0YI SYLLABLE HLO;2HLOP;2HLEX;2HLE;2HLEP;2HLUT;2HLUX;2HLU;2HLUP;2HLURX;2HLUR;2HLYT;2HLYX;2HLY
A1B4 0YI SYLLABLE HLYP;2HLYRX;2HLYR;2LIT;2LIX;2LI;2LIP;2LIET;2LIEX;2LIE;2LIEP;2LAT;2LAX;2LA;2LAP
A1C3 0YI SYLLABLE LUOT;2LUOX;2LUO;2LUOP;2LOT;2LOX;2LO;2LOP;2LEX;2LE;2LEP;2LUT;2LUX;2LU;2LUP;2LURX
A1D3 0YI SYLLABLE LUR;2LYT;2LYX;2LY;2LYP;2LYRX;2LYR;2GIT;2GIX;2GI;2GIP;2GIET;2GIEX;2GIE;2GIEP;2GAT
A1E3 0YI SYLLABLE GAX;2GA;2GAP;2GUOT;2GUOX;2GUO;2GUOP;2GOT;2GOX;2GO;2GOP;2GET;2GEX;2GE;2GEP;2GUT
A1F3 0YI SYLLABLE GUX;2GU;2GUP;2GURX;2GUR;2KIT;2KIX;2KI;2KIP;2KIEX;2KIE;2KIEP;2KAT;2KAX;2KA;2KAP
A203 0YI SYLLABLE KUOX;2KUO;2KUOP;2KOT;2KOX;2KO;2KOP;2KET;2KEX;2KE;2KEP;2KUT;2KUX;2KU;2KUP;2KURX
A213 0YI SYLLABLE KUR;2GGIT;2GGIX;2GGI;2GGIEX;2GGIE;2GGIEP;2GGAT;2GGAX;2GGA;2GGAP;2GGUOT;2GGUOX
A220 0YI SYLLABLE GGUO;2GGUOP;2GGOT;2GGOX;2GGO;2GGOP;2GGET;2GGEX;2GGE;2GGEP;2GGUT;2GGUX;2GGU;2GGUP
A22E 0YI SYLLABLE GGURX;2GGUR;2MGIEX;2MGIE;2MGAT;2MGAX;2MGA;2MGAP;2MGUOX;2MGUO;2MGUOP;2MGOT;2MGOX
A23B 0YI SYLLABLE MGO;2MGOP;2MGEX;2MGE;2MGEP;2MGUT;2MGUX;2MGU;2MGUP;2MGURX;2MGUR;2HXIT;2HXIX;2HXI
A249 0YI SYLLABLE HXIP;2HXIET;2HXIEX;2HXIE;2HXIEP;2HXAT;2HXAX;2HXA;2HXAP;2HXUOT;2HXUOX;2HXUO;2HXUOP
A256 0YI SYLLABLE HXOT;2HXOX;2HXO;2HXOP;2HXEX;2HXE;2HXEP;2NGIEX;2NGIE;2NGIEP;2NGAT;2NGAX;2NGA;2NGAP
A264 0YI SYLLABLE NGUOT;2NGUOX;2NGUO;2NGOT;2NGOX;2NGO;2NGOP;2NGEX;2NGE;2NGEP;2HIT;2HIEX;2HIE;2HAT
A272 0YI SYLLABLE HAX;2HA;2HAP;2HUOT;2HUOX;2HUO;2HUOP;2HOT;2HOX;2HO;2HOP;2HEX;2HE;2HEP;2WAT;2WAX
A282 0YI SYLLABLE WA;2WAP;2WUOX;2WUO;2WUOP;2WOX;2WO;2WOP;2WEX;2WE;2WEP;2ZIT;2ZIX;2ZI;2ZIP;2ZIEX
A292 0YI SYLLABLE ZIE;2ZIEP;2ZAT;2ZAX;2ZA;2ZAP;2ZUOX;2ZUO;2ZUOP;2ZOT;2ZOX;2ZO;2ZOP;2ZEX;2ZE;2ZEP
A2A2 0YI SYLLABLE ZUT;2ZUX;2ZU;2ZUP;2ZURX;2ZUR;2ZYT;2ZYX;2ZY;2ZYP;2ZYRX;2ZYR;2CIT;2CIX;2CI;2CIP
A2B2 0YI SYLLABLE CIET;2CIEX;2CIE;2CIEP;2CAT;2CAX;2CA;2CAP;2CUOX;2CUO;2CUOP;2COT;2COX;2CO;2COP;2CEX
A2C2 0YI SYLLABLE CE;2CEP;2CUT;2CUX;2CU;2CUP;2CURX;2CUR;2CYT;2CYX;2CY;2CYP;2CYRX;2CYR;2ZZIT;2ZZIX
A2D2 0YI SYLLABLE ZZI;2ZZIP;2ZZIET;2ZZIEX;2ZZIE;2ZZIEP;2ZZAT;2ZZAX;2ZZA;2ZZAP;2ZZOX;2ZZO;2ZZOP
A2DF 0YI SYLLABLE ZZEX;2ZZE;2ZZEP;2ZZUX;2ZZU;2ZZUP;2ZZURX;2ZZUR;2ZZYT;2ZZYX;2ZZY;2ZZYP;2ZZYRX;2ZZYR
A2ED 0YI SYLLABLE NZIT;2NZIX;2NZI;2NZIP;2NZIEX;2NZIE;2NZIEP;2NZAT;2NZAX;2NZA;2NZAP;2NZUOX;2NZUO
A2FA 0YI SYLLABLE NZOX;2NZOP;2NZEX;2NZE;2NZUX;2NZU;2NZUP;2NZURX;2NZUR;2NZYT;2NZYX;2NZY;2NZYP;2NZYRX
A308 0YI SYLLABLE NZYR;2SIT;2SIX;2SI;2SIP;2SIEX;2SIE;2SIEP;2SAT;2SAX;2SA;2SAP;2SUOX;2SUO;2SUOP;2SOT
A318 0YI SYLLABLE SOX;2SO;2SOP;2SEX;2SE;2SEP;2SUT;2SUX;2SU;2SUP;2SURX;2SUR;2SYT;2SYX;2SY;2SYP;2SYRX
A329 0YI SYLLABLE SYR;2SSIT;2SSIX;2SSI;2SSIP;2SSIEX;2SSIE;2SSIEP;2SSAT;2SSAX;2SSA;2SSAP;2SSOT;2SSOX
A337 0YI SYLLABLE SSO;2SSOP;2SSEX;2SSE;2SSEP;2SSUT;2SSUX;2SSU;2SSUP;2SSYT;2SSYX;2SSY;2SSYP;2SSYRX
A345 0YI SYLLABLE SSYR;2ZHAT;2ZHAX;2ZHA;2ZHAP;2ZHUOX;2ZHUO;2ZHUOP;2ZHOT;2ZHOX;2ZHO;2ZHOP;2ZHET
A352 0YI SYLLABLE ZHEX;2ZHE;2ZHEP;2ZHUT;2ZHUX;2ZHU;2ZHUP;2ZHURX;2ZHUR;2ZHYT;2ZHYX;2ZHY;2ZHYP;2ZHYRX
A360 0YI SYLLABLE ZHYR;2CHAT;2CHAX;2CHA;2CHAP;2CHUOT;2CHUOX;2CHUO;2CHUOP;2CHOT;2CHOX;2CHO;2CHOP
A36D 0YI SYLLABLE CHET;2CHEX;2CHE;2CHEP;2CHUX;2CHU;2CHUP;2CHURX;2CHUR;2CHYT;2CHYX;2CHY;2CHYP;2CHYRX
A37B 0YI SYLLABLE CHYR;2RRAX;2RRA;2RRUOX;2RRUO;2RROT;2RROX;2RRO;2RROP;2RRET;2RREX;2RRE;2RREP;2RRUT
A389 0YI SYLLABLE RRUX;2RRU;2RRUP;2RRURX;2RRUR;2RRYT;2RRYX;2RRY;2RRYP;2RRYRX;2RRYR;2NRAT;2NRAX;2NRA
A397 0YI SYLLABLE NRAP;2NROX;2NRO;2NROP;2NRET;2NREX;2NRE;2NREP;2NRUT;2NRUX;2NRU;2NRUP;2NRURX;2NRUR
A3A5 0YI SYLLABLE NRYT;2NRYX;2NRY;2NRYP;2NRYRX;2NRYR;2SHAT;2SHAX;2SHA;2SHAP;2SHUOX;2SHUO;2SHUOP
A3B2 0YI SYLLABLE SHOT;2SHOX;2SHO;2SHOP;2SHET;2SHEX;2SHE;2SHEP;2SHUT;2SHUX;2SHU;2SHUP;2SHURX;2SHUR
A3C0 0YI SYLLABLE SHYT;2SHYX;2SHY;2SHYP;2SHYRX;2SHYR;2RAT;2RAX;2RA;2RAP;2RUOX;2RUO;2RUOP;2ROT;2ROX
A3CF 0YI SYLLABLE RO;2ROP;2REX;2RE;2REP;2RUT;2RUX;2RU;2RUP;2RURX;2RUR;2RYT;2RYX;2RY;2RYP;2RYRX;2RYR
A3E0 0YI SYLLABLE JIT;2JIX;2JI;2JIP;2JIET;2JIEX;2JIE;2JIEP;2JUOT;2JUOX;2JUO;2JUOP;2JOT;2JOX;2JO
A3EF 0YI SYLLABLE JOP;2JUT;2JUX;2JU;2JUP;2JURX;2JUR;2JYT;2JYX;2JY;2JYP;2JYRX;2JYR;2QIT;2QIX;2QI
A3FF 0YI SYLLABLE QIP;2QIET;2QIEX;2QIE;2QIEP;2QUOT;2QUOX;2QUO;2QUOP;2QOT;2QOX;2QO;2QOP;2QUT;2QUX
A40E 0YI SYLLABLE QU;2QUP;2QURX;2QUR;2QYT;2QYX;2QY;2QYP;2QYRX;2QYR;2JJIT;2JJIX;2JJI;2JJIP;2JJIET
A41D 0YI SYLLABLE JJIEX;2JJIE;2JJIEP;2JJUOX;2JJUO;2JJUOP;2JJOT;2JJOX;2JJO;2JJOP;2JJUT;2JJUX;2JJU
A42A 0YI SYLLABLE JJUP;2JJURX;2JJUR;2JJYT;2JJYX;2JJY;2JJYP;2NJIT;2NJIX;2NJI;2NJIP;2NJIET;2NJIEX
A437 0YI SYLLABLE NJIE;2NJIEP;2NJUOX;2NJUO;2NJOT;2NJOX;2NJO;2NJOP;2NJUX;2NJU;2NJUP;2NJURX;2NJUR
A444 0YI SYLLABLE NJYT;2NJYX;2NJY;2NJYP;2NJYRX;2NJYR;2NYIT;2NYIX;2NYI;2NYIP;2NYIET;2NYIEX;2NYIE
A451 0YI SYLLABLE NYIEP;2NYUOX;2NYUO;2NYUOP;2NYOT;2NYOX;2NYO;2NYOP;2NYUT;2NYUX;2NYU;2NYUP;2XIT;2XIX
A45F 0YI SYLLABLE XI;2XIP;2XIET;2XIEX;2XIE;2XIEP;2XUOX;2XUO;2XOT;2XOX;2XO;2XOP;2XYT;2XYX;2XY;2XYP
A46F 0YI SYLLABLE XYRX;2XYR;2YIT;2YIX;2YI;2YIP;2YIET;2YIEX;2YIE;2YIEP;2YUOT;2YUOX;2YUO;2YUOP;2YOT
A47E 0YI SYLLABLE YOX;2YO;2YOP;2YUT;2YUX;2YU;2YUP;2YURX;2YUR;2YYT;2YYX;2YY;2YYP;2YYRX;2YYR
A490 0YI RADICAL QOT;2LI;2KIT;2NYIP;2CYP;2SSI;2GGOP;2GEP;2MI;2HXIT;2LYR;2BBUT;2MOP;2YO;2PUT;2HXUO
A4A0 0YI RADICAL TAT;2GA;2ZUP;2CYT;2DDUR;2BUR;2GGUO;2NYOP;2TU;2OP;2JJUT;2ZOT;2PYT;2HMO;2YIT;2VUR
A4B0 0YI RADICAL SHY;2VEP;2ZA;2JO;2NZUP;2JJY;2GOT;2JJIE;2WO;2DU;2SHUR;2LIE;2CY;2CUOP;2CIP;2HXOP
A4C0 0YI RADICAL SHAT;2ZUR;2SHOP;2CHE;2ZZIET;2NBIE;2KE
A4D0 0LISU LETTER BA;2PA;2PHA;2DA;2TA;2THA;2GA;2KA;2KHA;2JA;2CA;2CHA;2DZA;2TSA;2TSHA;2MA;2NA;2LA
A4E2 0LISU LETTER SA;2ZHA;2ZA;2NGA;2HA;2XA;2HHA;2FA;2WA;2SHA;2YA;2GHA;2A;2AE;2E;2EU;2I;2O;2U;2UE
A4F6 0LISU LETTER UH;2OE;2TONE MYA TI;3NA PO;3MYA CYA;4BO;4NA;4JEU;1PUNCTUATION COMMA;2FULL STOP
A500 0VAI SYLLABLE EE;2EEN;2HEE;2WEE;2WEEN;2PEE;2BHEE;2BEE;2MBEE;2KPEE;2MGBEE;2GBEE;2FEE;2VEE;2TEE
A50F 0VAI SYLLABLE THEE;2DHEE;2DHHEE;2LEE;2REE;2DEE;2NDEE;2SEE;2SHEE;2ZEE;2ZHEE;2CEE;2JEE;2NJEE
A51D 0VAI SYLLABLE YEE;2KEE;2NGGEE;2GEE;2MEE;2NEE;2NYEE;2I;2IN;2HI;2HIN;2WI;2WIN;2PI;2BHI;2BI;2MBI
A52E 0VAI SYLLABLE KPI;2MGBI;2GBI;2FI;2VI;2TI;2THI;2DHI;2DHHI;2LI;2RI;2DI;2NDI;2SI;2SHI;2ZI;2ZHI
A53F 0VAI SYLLABLE CI;2JI;2NJI;2YI;2KI;2NGGI;2GI;2MI;2NI;2NYI;2A;2AN;2NGAN;2HA;2HAN;2WA;2WAN;2PA
A551 0VAI SYLLABLE BHA;2BA;2MBA;2KPA;2KPAN;2MGBA;2GBA;2FA;2VA;2TA;2THA;2DHA;2DHHA;2LA;2RA;2DA;2NDA
A562 0VAI SYLLABLE SA;2SHA;2ZA;2ZHA;2CA;2JA;2NJA;2YA;2KA;2KAN;2NGGA;2GA;2MA;2NA;2NYA;2OO;2OON;2HOO
A574 0VAI SYLLABLE WOO;2WOON;2POO;2BHOO;2BOO;2MBOO;2KPOO;2MGBOO;2GBOO;2FOO;2VOO;2TOO;2THOO;2DHOO
A582 0VAI SYLLABLE DHHOO;2LOO;2ROO;2DOO;2NDOO;2SOO;2SHOO;2ZOO;2ZHOO;2COO;2JOO;2NJOO;2YOO;2KOO
A590 0VAI SYLLABLE NGGOO;2GOO;2MOO;2NOO;2NYOO;2U;2UN;2HU;2HUN;2WU;2WUN;2PU;2BHU;2BU;2MBU;2KPU;2MGBU
A5A1 0VAI SYLLABLE GBU;2FU;2VU;2TU;2THU;2DHU;2DHHU;2LU;2RU;2DU;2NDU;2SU;2SHU;2ZU;2ZHU;2CU;2JU;2NJU
A5B3 0VAI SYLLABLE YU;2KU;2NGGU;2GU;2MU;2NU;2NYU;2O;2ON;2NGON;2HO;2HON;2WO;2WON;2PO;2BHO;2BO;2MBO
A5C5 0VAI SYLLABLE KPO;2MGBO;2GBO;2GBON;2FO;2VO;2TO;2THO;2DHO;2DHHO;2LO;2RO;2DO;2NDO;2SO;2SHO;2ZO
A5D6 0VAI SYLLABLE ZHO;2CO;2JO;2NJO;2YO;2KO;2NGGO;2GO;2MO;2NO;2NYO;2E;2EN;2NGEN;2HE;2HEN;2WE;2WEN
A5E8 0VAI SYLLABLE PE;2BHE;2BE;2MBE;2KPE;2KPEN;2MGBE;2GBE;2GBEN;2FE;2VE;2TE;2THE;2DHE;2DHHE;2LE;2RE
A5F9 0VAI SYLLABLE DE;2NDE;2SE;2SHE;2ZE;2ZHE;2CE;2JE;2NJE;2YE;2KE;2NGGE;2NGGEN;2GE;2GEN;2ME;2NE
A60A 0VAI SYLLABLE NYE;2NG;2LENGTHENER;1COMMA;1FULL STOP;1QUESTION MARK;1SYLLABLE NDOLE FA;3KA;3SOO
A613 0VAI SYMBOL FEENG;2KEENG;2TING;2NII;2BANG;2FAA;2TAA;2DANG;2DOONG;2KUNG;2TONG;2DO-O;2JONG
A620 0VAI DIGIT ZERO;2ONE;2TWO;2THREE;2FOUR;2FIVE;2SIX;2SEVEN;2EIGHT;2NINE;1SYLLABLE NDOLE MA;3DO
A640 0CYRILLIC CAPITAL LETTER ZEMLYA;1SMALL LETTER ZEMLYA;1CAPITAL LETTER DZELO;1SMALL LETTER DZELO
A644 0CYRILLIC CAPITAL LETTER REVERSED DZE;1SMALL LETTER REVERSED DZE;1CAPITAL LETTER IOTA
A647 0CYRILLIC SMALL LETTER IOTA;1CAPITAL LETTER DJERV;1SMALL LETTER DJERV
A64A 0CYRILLIC CAPITAL LETTER MONOGRAPH UK;1SMALL LETTER MONOGRAPH UK;1CAPITAL LETTER BROAD OMEGA
A64D 0CYRILLIC SMALL LETTER BROAD OMEGA;1CAPITAL LETTER NEUTRAL YER;1SMALL LETTER NEUTRAL YER
A650 0CYRILLIC CAPITAL LETTER YERU WITH BACK YER;1SMALL LETTER YERU WITH BACK YER
A652 0CYRILLIC CAPITAL LETTER IOTIFIED YAT;1SMALL LETTER IOTIFIED YAT;1CAPITAL LETTER REVERSED YU
A655 0CYRILLIC SMALL LETTER REVERSED YU;1CAPITAL LETTER IOTIFIED A;1SMALL LETTER IOTIFIED A
A658 0CYRILLIC CAPITAL LETTER CLOSED LITTLE YUS;1SMALL LETTER CLOSED LITTLE YUS
A65A 0CYRILLIC CAPITAL LETTER BLENDED YUS;1SMALL LETTER BLENDED YUS
A65C 0CYRILLIC CAPITAL LETTER IOTIFIED CLOSED LITTLE YUS;1SMALL LETTER IOTIFIED CLOSED LITTLE YUS
A65E 0CYRILLIC CAPITAL LETTER YN;1SMALL LETTER YN;1CAPITAL LETTER REVERSED TSE
A661 0CYRILLIC SMALL LETTER REVERSED TSE;1CAPITAL LETTER SOFT DE;1SMALL LETTER SOFT DE
A664 0CYRILLIC CAPITAL LETTER SOFT EL;1SMALL LETTER SOFT EL;1CAPITAL LETTER SOFT EM
A667 0CYRILLIC SMALL LETTER SOFT EM;1CAPITAL LETTER MONOCULAR O;1SMALL LETTER MONOCULAR O
A66A 0CYRILLIC CAPITAL LETTER BINOCULAR O;1SMALL LETTER BINOCULAR O
A66C 0CYRILLIC CAPITAL LETTER DOUBLE MONOCULAR O;1SMALL LETTER DOUBLE MONOCULAR O
A66E 0CYRILLIC LETTER MULTIOCULAR O;0COMBINING CYRILLIC VZMET;2TEN MILLIONS SIGN
A671 0COMBINING CYRILLIC HUNDRED MILLIONS SIGN;2THOUSAND MILLIONS SIGN;0SLAVONIC ASTERISK
A674 0COMBINING CYRILLIC LETTER UKRAINIAN IE;3I;3YI;3U;3HARD SIGN;3YERU;3SOFT SIGN;3OMEGA;2KAVYKA
A67D 0COMBINING CYRILLIC PAYEROK;0CYRILLIC KAVYKA;1PAYEROK;1CAPITAL LETTER DWE;1SMALL LETTER DWE
A682 0CYRILLIC CAPITAL LETTER DZWE;1SMALL LETTER DZWE;1CAPITAL LETTER ZHWE;1SMALL LETTER ZHWE
A686 0CYRILLIC CAPITAL LETTER CCHE;1SMALL LETTER CCHE;1CAPITAL LETTER DZZE;1SMALL LETTER DZZE
A68A 0CYRILLIC CAPITAL LETTER TE WITH MIDDLE HOOK;1SMALL LETTER TE WITH MIDDLE HOOK
A68C 0CYRILLIC CAPITAL LETTER TWE;1SMALL LETTER TWE;1CAPITAL LETTER TSWE;1SMALL LETTER TSWE
A690 0CYRILLIC CAPITAL LETTER TSSE;1SMALL LETTER TSSE;1CAPITAL LETTER TCHE;1SMALL LETTER TCHE
A694 0CYRILLIC CAPITAL LETTER HWE;1SMALL LETTER HWE;1CAPITAL LETTER SHWE;1SMALL LETTER SHWE
A698 0CYRILLIC CAPITAL LETTER DOUBLE O;1SMALL LETTER DOUBLE O;1CAPITAL LETTER CROSSED O
A69B 0CYRILLIC SMALL LETTER CROSSED O;0MODIFIER LETTER CYRILLIC HARD SIGN;3SOFT SIGN
A69E 0COMBINING CYRILLIC LETTER EF;3IOTIFIED E;0BAMUM LETTER A;2KA;2U;2KU;2EE;2REE;2TAE;2O;2NYI;2I
A6AA 0BAMUM LETTER LA;2PA;2RII;2RIEE;2LEEEE;2MEEEE;2TAA;2NDAA;2NJAEM;2M;2SUU;2MU;2SHII;2SI;2SHEUX
A6B9 0BAMUM LETTER SEUX;2KYEE;2KET;2NUAE;2NU;2NJUAE;2YOQ;2SHU;2YUQ;2YA;2NSHA;2KEUX;2PEUX;2NJEE
A6C7 0BAMUM LETTER NTEE;2PUE;2WUE;2PEE;2FEE;2RU;2LU;2MI;2NI;2REUX;2RAE;2KEN;2NGKWAEN;2NGGA;2NGA
A6D6 0BAMUM LETTER SHO;2PUAE;2FU;2FOM;2WA;2NA;2LI;2PI;2LOQ;2KO;2MBEN;2REN;2MEN;2MA;2TI;2KI;2MO
A6E7 0BAMUM LETTER MBAA;2TET;2KPA;2TEN;2NTUU;2SAMBA;2FAAMAE;2KOVUU;2KOGHOM;1COMBINING MARK KOQNDON
A6F1 0BAMUM COMBINING MARK TUKWENTIS;1NJAEMLI;1FULL STOP;1COLON;1COMMA;1SEMICOLON;1QUESTION MARK
A700 0MODIFIER LETTER CHINESE TONE YIN PING;4YANG PING;4YIN SHANG;4YANG SHANG;4YIN QU;4YANG QU
A706 0MODIFIER LETTER CHINESE TONE YIN RU;4YANG RU;2EXTRA-HIGH DOTTED TONE BAR
A709 0MODIFIER LETTER HIGH DOTTED TONE BAR;2MID DOTTED TONE BAR;2LOW DOTTED TONE BAR
A70C 0MODIFIER LETTER EXTRA-LOW DOTTED TONE BAR;2EXTRA-HIGH DOTTED LEFT-STEM TONE BAR
A70E 0MODIFIER LETTER HIGH DOTTED LEFT-STEM TONE BAR;2MID DOTTED LEFT-STEM TONE BAR
A710 0MODIFIER LETTER LOW DOTTED LEFT-STEM TONE BAR;2EXTRA-LOW DOTTED LEFT-STEM TONE BAR
A712 0MODIFIER LETTER EXTRA-HIGH LEFT-STEM TONE BAR;2HIGH LEFT-STEM TONE BAR
A714 0MODIFIER LETTER MID LEFT-STEM TONE BAR;2LOW LEFT-STEM TONE BAR;2EXTRA-LOW LEFT-STEM TONE BAR
A717 0MODIFIER LETTER DOT VERTICAL BAR;3SLASH;3HORIZONTAL BAR;2LOWER RIGHT CORNER ANGLE
A71B 0MODIFIER LETTER RAISED UP ARROW;3DOWN ARROW;3EXCLAMATION MARK;3INVERTED EXCLAMATION MARK
A71F 0MODIFIER LETTER LOW INVERTED EXCLAMATION MARK;2STRESS AND HIGH TONE;4LOW TONE
A722 0LATIN CAPITAL LETTER EGYPTOLOGICAL ALEF;1SMALL LETTER EGYPTOLOGICAL ALEF
A724 0LATIN CAPITAL LETTER EGYPTOLOGICAL AIN;1SMALL LETTER EGYPTOLOGICAL AIN;1CAPITAL LETTER HENG
A727 0LATIN SMALL LETTER HENG;1CAPITAL LETTER TZ;1SMALL LETTER TZ;1CAPITAL LETTER TRESILLO
A72B 0LATIN SMALL LETTER TRESILLO;1CAPITAL LETTER CUATRILLO;1SMALL LETTER CUATRILLO
A72E 0LATIN CAPITAL LETTER CUATRILLO WITH COMMA;1SMALL LETTER CUATRILLO WITH COMMA
A730 0LATIN LETTER SMALL CAPITAL F;4S;1CAPITAL LETTER AA;1SMALL LETTER AA;1CAPITAL LETTER AO
A735 0LATIN SMALL LETTER AO;1CAPITAL LETTER AU;1SMALL LETTER AU;1CAPITAL LETTER AV;1SMALL LETTER AV
A73A 0LATIN CAPITAL LETTER AV WITH HORIZONTAL BAR;1SMALL LETTER AV WITH HORIZONTAL BAR
A73C 0LATIN CAPITAL LETTER AY;1SMALL LETTER AY;1CAPITAL LETTER REVERSED C WITH DOT
A73F 0LATIN SMALL LETTER REVERSED C WITH DOT;1CAPITAL LETTER K WITH STROKE
A741 0LATIN SMALL LETTER K WITH STROKE;1CAPITAL LETTER K WITH DIAGONAL STROKE
A743 0LATIN SMALL LETTER K WITH DIAGONAL STROKE;1CAPITAL LETTER K WITH STROKE AND DIAGONAL STROKE
A745 0LATIN SMALL LETTER K WITH STROKE AND DIAGONAL STROKE;1CAPITAL LETTER BROKEN L
A747 0LATIN SMALL LETTER BROKEN L;1CAPITAL LETTER L WITH HIGH STROKE
A749 0LATIN SMALL LETTER L WITH HIGH STROKE;1CAPITAL LETTER O WITH LONG STROKE OVERLAY
A74B 0LATIN SMALL LETTER O WITH LONG STROKE OVERLAY;1CAPITAL LETTER O WITH LOOP
A74D 0LATIN SMALL LETTER O WITH LOOP;1CAPITAL LETTER OO;1SMALL LETTER OO
A750 0LATIN CAPITAL LETTER P WITH STROKE THROUGH DESCENDER
A751 0LATIN SMALL LETTER P WITH STROKE THROUGH DESCENDER;1CAPITAL LETTER P WITH FLOURISH
A753 0LATIN SMALL LETTER P WITH FLOURISH;1CAPITAL LETTER P WITH SQUIRREL TAIL
A755 0LATIN SMALL LETTER P WITH SQUIRREL TAIL;1CAPITAL LETTER Q WITH STROKE THROUGH DESCENDER
A757 0LATIN SMALL LETTER Q WITH STROKE THROUGH DESCENDER;1CAPITAL LETTER Q WITH DIAGONAL STROKE
A759 0LATIN SMALL LETTER Q WITH DIAGONAL STROKE;1CAPITAL LETTER R ROTUNDA;1SMALL LETTER R ROTUNDA
A75C 0LATIN CAPITAL LETTER RUM ROTUNDA;1SMALL LETTER RUM ROTUNDA
A75E 0LATIN CAPITAL LETTER V WITH DIAGONAL STROKE;1SMALL LETTER V WITH DIAGONAL STROKE
A760 0LATIN CAPITAL LETTER VY;1SMALL LETTER VY;1CAPITAL LETTER VISIGOTHIC Z
A763 0LATIN SMALL LETTER VISIGOTHIC Z;1CAPITAL LETTER THORN WITH STROKE
A765 0LATIN SMALL LETTER THORN WITH STROKE;1CAPITAL LETTER THORN WITH STROKE THROUGH DESCENDER
A767 0LATIN SMALL LETTER THORN WITH STROKE THROUGH DESCENDER;1CAPITAL LETTER VEND
A769 0LATIN SMALL LETTER VEND;1CAPITAL LETTER ET;1SMALL LETTER ET;1CAPITAL LETTER IS
A76D 0LATIN SMALL LETTER IS;1CAPITAL LETTER CON;1SMALL LETTER CON;0MODIFIER LETTER US
A771 0LATIN SMALL LETTER DUM;3LUM;3MUM;3NUM;3RUM;1LETTER SMALL CAPITAL RUM;1SMALL LETTER TUM;3UM
A779 0LATIN CAPITAL LETTER INSULAR D;1SMALL LETTER INSULAR D;1CAPITAL LETTER INSULAR F
A77C 0LATIN SMALL LETTER INSULAR F;1CAPITAL LETTER INSULAR G;3TURNED INSULAR G
A77F 0LATIN SMALL LETTER TURNED INSULAR G;1CAPITAL LETTER TURNED L;1SMALL LETTER TURNED L
A782 0LATIN CAPITAL LETTER INSULAR R;1SMALL LETTER INSULAR R;1CAPITAL LETTER INSULAR S
A785 0LATIN SMALL LETTER INSULAR S;1CAPITAL LETTER INSULAR T;1SMALL LETTER INSULAR T
A788 0MODIFIER LETTER LOW CIRCUMFLEX ACCENT;2COLON;2SHORT EQUALS SIGN
A78B 0LATIN CAPITAL LETTER SALTILLO;1SMALL LETTER SALTILLO;1CAPITAL LETTER TURNED H
A78E 0LATIN SMALL LETTER L WITH RETROFLEX HOOK AND BELT;1LETTER SINOLOGICAL DOT
A790 0LATIN CAPITAL LETTER N WITH DESCENDER;1SMALL LETTER N WITH DESCENDER
A792 0LATIN CAPITAL LETTER C WITH BAR;1SMALL LETTER C WITH BAR;5PALATAL HOOK;3H WITH PALATAL HOOK
A796 0LATIN CAPITAL LETTER B WITH FLOURISH;1SMALL LETTER B WITH FLOURISH
A798 0LATIN CAPITAL LETTER F WITH STROKE;1SMALL LETTER F WITH STROKE;1CAPITAL LETTER VOLAPUK AE
A79B 0LATIN SMALL LETTER VOLAPUK AE;1CAPITAL LETTER VOLAPUK OE;1SMALL LETTER VOLAPUK OE
A79E 0LATIN CAPITAL LETTER VOLAPUK UE;1SMALL LETTER VOLAPUK UE
A7A0 0LATIN CAPITAL LETTER G WITH OBLIQUE STROKE;1SMALL LETTER G WITH OBLIQUE STROKE
A7A2 0LATIN CAPITAL LETTER K WITH OBLIQUE STROKE;1SMALL LETTER K WITH OBLIQUE STROKE
A7A4 0LATIN CAPITAL LETTER N WITH OBLIQUE STROKE;1SMALL LETTER N WITH OBLIQUE STROKE
A7A6 0LATIN CAPITAL LETTER R WITH OBLIQUE STROKE;1SMALL LETTER R WITH OBLIQUE STROKE
A7A8 0LATIN CAPITAL LETTER S WITH OBLIQUE STROKE;1SMALL LETTER S WITH OBLIQUE STROKE
A7AA 0LATIN CAPITAL LETTER H WITH HOOK;3REVERSED OPEN E;3SCRIPT G;3L WITH BELT;3SMALL CAPITAL I
A7AF 0LATIN LETTER SMALL CAPITAL Q;1CAPITAL LETTER TURNED K;4T;3J WITH CROSSED-TAIL;3CHI;3BETA
A7B5 0LATIN SMALL LETTER BETA;1CAPITAL LETTER OMEGA;1SMALL LETTER OMEGA
A7B8 0LATIN CAPITAL LETTER U WITH STROKE;1SMALL LETTER U WITH STROKE;1CAPITAL LETTER GLOTTAL A
A7BB 0LATIN SMALL LETTER GLOTTAL A;1CAPITAL LETTER GLOTTAL I;1SMALL LETTER GLOTTAL I
A7BE 0LATIN CAPITAL LETTER GLOTTAL U;1SMALL LETTER GLOTTAL U;1CAPITAL LETTER OLD POLISH O
A7C1 0LATIN SMALL LETTER OLD POLISH O;1CAPITAL LETTER ANGLICANA W;1SMALL LETTER ANGLICANA W
A7C4 0LATIN CAPITAL LETTER C WITH PALATAL HOOK;3S WITH HOOK;3Z WITH PALATAL HOOK
A7C7 0LATIN CAPITAL LETTER D WITH SHORT STROKE OVERLAY;1SMALL LETTER D WITH SHORT STROKE OVERLAY
A7C9 0LATIN CAPITAL LETTER S WITH SHORT STROKE OVERLAY;1SMALL LETTER S WITH SHORT STROKE OVERLAY
A7D0 0LATIN CAPITAL LETTER CLOSED INSULAR G;1SMALL LETTER CLOSED INSULAR G
A7D3 0LATIN SMALL LETTER DOUBLE THORN
A7D5 0LATIN SMALL LETTER DOUBLE WYNN;1CAPITAL LETTER MIDDLE SCOTS S;1SMALL LETTER MIDDLE SCOTS S
A7D8 0LATIN CAPITAL LETTER SIGMOID S;1SMALL LETTER SIGMOID S
A7F2 0MODIFIER LETTER CAPITAL C;3F;3Q;0LATIN CAPITAL LETTER REVERSED HALF H
A7F6 0LATIN SMALL LETTER REVERSED HALF H;1EPIGRAPHIC LETTER SIDEWAYS I
A7F8 0MODIFIER LETTER CAPITAL H WITH STROKE;2SMALL LIGATURE OE;0LATIN LETTER SMALL CAPITAL TURNED M
A7FB 0LATIN EPIGRAPHIC LETTER REVERSED F;4P;3INVERTED M;3I LONGA;3ARCHAIC M;0SYLOTI NAGRI LETTER A
A801 0SYLOTI NAGRI LETTER I;2SIGN DVISVARA;2LETTER U;3E;3O;2SIGN HASANTA;2LETTER KO;3KHO;3GO;3GHO
A80B 0SYLOTI NAGRI SIGN ANUSVARA;2LETTER CO;3CHO;3JO;3JHO;3TTO;3TTHO;3DDO;3DDHO;3TO;3THO;3DO;3DHO
A818 0SYLOTI NAGRI LETTER NO;3PO;3PHO;3BO;3BHO;3MO;3RO;3LO;3RRO;3SO;3HO;2VOWEL SIGN A;4I;4U;4E;4OO
A828 0SYLOTI NAGRI POETRY MARK-1;3MARK-2;3MARK-3;3MARK-4;2SIGN ALTERNATE HASANTA
A830 0NORTH INDIC FRACTION ONE QUARTER;4HALF;3THREE QUARTERS;3ONE SIXTEENTH;4EIGHTH
A835 0NORTH INDIC FRACTION THREE SIXTEENTHS;2QUARTER MARK;2PLACEHOLDER MARK;2RUPEE MARK
A839 0NORTH INDIC QUANTITY MARK
A840 0PHAGS-PA LETTER KA;2KHA;2GA;2NGA;2CA;2CHA;2JA;2NYA;2TA;2THA;2DA;2NA;2PA;2PHA;2BA;2MA;2TSA
A851 0PHAGS-PA LETTER TSHA;2DZA;2WA;2ZHA;2ZA;2SMALL A;2YA;2RA;2LA;2SHA;2SA;2HA;2A;2I;2U;2E;2O;2QA
A863 0PHAGS-PA LETTER XA;2FA;2GGA;2EE;1SUBJOINED LETTER WA;3YA;1LETTER TTA;2TTHA;2DDA;2NNA
A86D 0PHAGS-PA LETTER ALTERNATE YA;2VOICELESS SHA;2VOICED HA;2ASPIRATED FA;1SUBJOINED LETTER RA
A872 0PHAGS-PA SUPERFIXED LETTER RA;1LETTER CANDRABINDU;1SINGLE HEAD MARK;1DOUBLE HEAD MARK
A876 0PHAGS-PA MARK SHAD;2DOUBLE SHAD
A880 0SAURASHTRA SIGN ANUSVARA;2VISARGA;1LETTER A;2AA;2I;2II;2U;2UU;2VOCALIC R;3RR;3L;3LL;2E;2EE
A88E 0SAURASHTRA LETTER AI;2O;2OO;2AU;2KA;2KHA;2GA;2GHA;2NGA;2CA;2CHA;2JA;2JHA;2NYA;2TTA;2TTHA;2DDA
A89F 0SAURASHTRA LETTER DDHA;2NNA;2TA;2THA;2DA;2DHA;2NA;2PA;2PHA;2BA;2BHA;2MA;2YA;2RA;2LA;2VA;2SHA
A8B0 0SAURASHTRA LETTER SSA;2SA;2HA;2LLA;1CONSONANT SIGN HAARU;1VOWEL SIGN AA;3I;3II;3U;3UU
A8BA 0SAURASHTRA VOWEL SIGN VOCALIC R;4RR;4L;4LL;3E;3EE;3AI;3O;3OO;3AU;1SIGN VIRAMA;2CANDRABINDU
A8CE 0SAURASHTRA DANDA;1DOUBLE DANDA;1DIGIT ZERO;2ONE;2TWO;2THREE;2FOUR;2FIVE;2SIX;2SEVEN;2EIGHT
A8D9 0SAURASHTRA DIGIT NINE
A8E0 0COMBINING DEVANAGARI DIGIT ZERO;3ONE;3TWO;3THREE;3FOUR;3FIVE;3SIX;3SEVEN;3EIGHT;3NINE
A8EA 0COMBINING DEVANAGARI LETTER A;3U;3KA;3NA;3PA;3RA;3VI;2SIGN AVAGRAHA
A8F2 0DEVANAGARI SIGN SPACING CANDRABINDU;2CANDRABINDU VIRAMA;2DOUBLE CANDRABINDU VIRAMA
A8F5 0DEVANAGARI SIGN CANDRABINDU TWO;3THREE;3AVAGRAHA;2PUSHPIKA;1GAP FILLER;1CARET;1HEADSTROKE
A8FC 0DEVANAGARI SIGN SIDDHAM;1JAIN OM;1LETTER AY;1VOWEL SIGN AY;0KAYAH LI DIGIT ZERO;3ONE;3TWO
A903 0KAYAH LI DIGIT THREE;3FOUR;3FIVE;3SIX;3SEVEN;3EIGHT;3NINE;2LETTER KA;3KHA;3GA;3NGA;3SA;3SHA
A910 0KAYAH LI LETTER ZA;3NYA;3TA;3HTA;3NA;3PA;3PHA;3MA;3DA;3BA;3RA;3YA;3LA;3WA;3THA;3HA;3VA;3CA;3A
A923 0KAYAH LI LETTER OE;3I;3OO;2VOWEL UE;3E;3U;3EE;3O;2TONE PLOPHU;3CALYA;4PLOPHU;2SIGN CWI;3SHYA
A930 0REJANG LETTER KA;2GA;2NGA;2TA;2DA;2NA;2PA;2BA;2MA;2CA;2JA;2NYA;2SA;2RA;2LA;2YA;2WA;2HA;2MBA
A943 0REJANG LETTER NGGA;2NDA;2NYJA;2A;1VOWEL SIGN I;3U;3E;3AI;3O;3AU;3EU;3EA;1CONSONANT SIGN NG;3N
A951 0REJANG CONSONANT SIGN R;3H;1VIRAMA
A95F 0REJANG SECTION MARK;0HANGUL CHOSEONG TIKEUT-MIEUM;2TIKEUT-PIEUP;2TIKEUT-SIOS;2TIKEUT-CIEUC
A964 0HANGUL CHOSEONG RIEUL-KIYEOK;2RIEUL-SSANGKIYEOK;2RIEUL-TIKEUT;2RIEUL-SSANGTIKEUT;2RIEUL-MIEUM
A969 0HANGUL CHOSEONG RIEUL-PIEUP;2RIEUL-SSANGPIEUP;2RIEUL-KAPYEOUNPIEUP;2RIEUL-SIOS;2RIEUL-CIEUC
A96E 0HANGUL CHOSEONG RIEUL-KHIEUKH;2MIEUM-KIYEOK;2MIEUM-TIKEUT;2MIEUM-SIOS;2PIEUP-SIOS-THIEUTH
A973 0HANGUL CHOSEONG PIEUP-KHIEUKH;2PIEUP-HIEUH;2SSANGSIOS-PIEUP;2IEUNG-RIEUL;2IEUNG-HIEUH
A978 0HANGUL CHOSEONG SSANGCIEUC-HIEUH;2SSANGTHIEUTH;2PHIEUPH-HIEUH;2HIEUH-SIOS;2SSANGYEORINHIEUH
A980 0JAVANESE SIGN PANYANGGA;2CECAK;2LAYAR;2WIGNYAN;1LETTER A;2I KAWI;2I;2II;2U;2PA CEREK
A98A 0JAVANESE LETTER NGA LELET;4RASWADI;2E;2AI;2O;2KA;3SASAK;3MURDA;2GA;3MURDA;2NGA;2CA;3MURDA;2JA
A998 0JAVANESE LETTER NYA MURDA;2JA MAHAPRANA;2NYA;2TTA;3MAHAPRANA;2DDA;3MAHAPRANA;2NA MURDA;2TA
A9A1 0JAVANESE LETTER TA MURDA;2DA;3MAHAPRANA;2NA;2PA;3MURDA;2BA;3MURDA;2MA;2YA;2RA;3AGUNG;2LA;2WA
A9AF 0JAVANESE LETTER SA MURDA;3MAHAPRANA;2SA;2HA;1SIGN CECAK TELU;1VOWEL SIGN TARUNG;3TOLONG;3WULU
A9B7 0JAVANESE VOWEL SIGN WULU MELIK;3SUKU;4MENDUT;3TALING;3DIRGA MURE;3PEPET;1CONSONANT SIGN KERET
A9BE 0JAVANESE CONSONANT SIGN PENGKAL;3CAKRA;1PANGKON;1LEFT RERENGGAN;1RIGHT RERENGGAN;1PADA ANDAP
A9C4 0JAVANESE PADA MADYA;2LUHUR;2WINDU;2PANGKAT;2LINGSA;2LUNGSI;2ADEG;3ADEG;2PISELEH
A9CD 0JAVANESE TURNED PADA PISELEH
A9CF 0JAVANESE PANGRANGKEP;1DIGIT ZERO;2ONE;2TWO;2THREE;2FOUR;2FIVE;2SIX;2SEVEN;2EIGHT;2NINE
A9DE 0JAVANESE PADA TIRTA TUMETES;2ISEN-ISEN;0MYANMAR LETTER SHAN GHA;3CHA;3JHA;3NNA;3BHA
A9E5 0MYANMAR SIGN SHAN SAW;1MODIFIER LETTER SHAN REDUPLICATION;1LETTER TAI LAING NYA;4FA;4GA;4GHA
A9EB 0MYANMAR LETTER TAI LAING JA;4JHA;4DDA;4DDHA;4NNA;1TAI LAING DIGIT ZERO;4ONE;4TWO;4THREE;4FOUR
A9F5 0MYANMAR TAI LAING DIGIT FIVE;4SIX;4SEVEN;4EIGHT;4NINE;1LETTER TAI LAING LLA;4DA;4DHA;4BA;4BHA
AA00 0CHAM LETTER A;2I;2U;2E;2AI;2O;2KA;2KHA;2GA;2GHA;2NGUE;2NGA;2CHA;2CHHA;2JA;2JHA;2NHUE;2NHA
AA12 0CHAM LETTER NHJA;2TA;2THA;2DA;2DHA;2NUE;2NA;2DDA;2PA;2PPA;2PHA;2BA;2BHA;2MUE;2MA;2BBA;2YA;2RA
AA24 0CHAM LETTER LA;2VA;2SSA;2SA;2HA;1VOWEL SIGN AA;3I;3II;3EI;3U;3OE;3O;3AI;3AU;3UE
AA33 0CHAM CONSONANT SIGN YA;3RA;3LA;3WA
AA40 0CHAM LETTER FINAL K;3G;3NG;1CONSONANT SIGN FINAL NG;1LETTER FINAL CH;3T;3N;3P;3Y;3R;3L;3SS
AA4C 0CHAM CONSONANT SIGN FINAL M;4H
AA50 0CHAM DIGIT ZERO;2ONE;2TWO;2THREE;2FOUR;2FIVE;2SIX;2SEVEN;2EIGHT;2NINE
AA5C 0CHAM PUNCTUATION SPIRAL;2DANDA;2DOUBLE DANDA;2TRIPLE DANDA;0MYANMAR LETTER KHAMTI GA;3CA;3CHA
AA63 0MYANMAR LETTER KHAMTI JA;3JHA;3NYA;3TTA;3TTHA;3DDA;3DDHA;3DHA;3NA;3SA;3HA;3HHA;3FA
AA70 0MYANMAR MODIFIER LETTER KHAMTI REDUPLICATION;1LETTER KHAMTI XA;3ZA;3RA;1LOGOGRAM KHAMTI OAY
AA75 0MYANMAR LOGOGRAM KHAMTI QN;3HM;1SYMBOL AITON EXCLAMATION;3ONE;3TWO;1LETTER AITON RA
AA7B 0MYANMAR SIGN PAO KAREN TONE;2TAI LAING TONE-2;4TONE-5;1LETTER SHWE PALAUNG CHA;4SHA
AA80 0TAI VIET LETTER LOW KO;3HIGH KO;3LOW KHO;3HIGH KHO;3LOW KHHO;3HIGH KHHO;3LOW GO;3HIGH GO
AA88 0TAI VIET LETTER LOW NGO;3HIGH NGO;3LOW CO;3HIGH CO;3LOW CHO;3HIGH CHO;3LOW SO;3HIGH SO
AA90 0TAI VIET LETTER LOW NYO;3HIGH NYO;3LOW DO;3HIGH DO;3LOW TO;3HIGH TO;3LOW THO;3HIGH THO
AA98 0TAI VIET LETTER LOW NO;3HIGH NO;3LOW BO;3HIGH BO;3LOW PO;3HIGH PO;3LOW PHO;3HIGH PHO;3LOW FO
AAA1 0TAI VIET LETTER HIGH FO;3LOW MO;3HIGH MO;3LOW YO;3HIGH YO;3LOW RO;3HIGH RO;3LOW LO;3HIGH LO
AAAA 0TAI VIET LETTER LOW VO;3HIGH VO;3LOW HO;3HIGH HO;3LOW O;3HIGH O;2MAI KANG;2VOWEL AA;3I;3UE;3U
AAB5 0TAI VIET VOWEL E;3O;2MAI KHIT;2VOWEL IA;3UEA;3UA;3AUE;3AY;3AN;3AM;2TONE MAI EK;4NUENG;4THO
AAC2 0TAI VIET TONE MAI SONG
AADB 0TAI VIET SYMBOL KON;3NUENG;3SAM;3HO HOI;3KOI KOI;0MEETEI MAYEK LETTER E;3O;3CHA;3NYA;3TTA
AAE5 0MEETEI MAYEK LETTER TTHA;3DDA;3DDHA;3NNA;3SHA;3SSA;2VOWEL SIGN II;4UU;4AAI;4AU;4AAU;2CHEIKHAN
AAF1 0MEETEI MAYEK AHANG KHUDAM;2ANJI;2SYLLABLE REPETITION MARK;2WORD REPETITION MARK
AAF5 0MEETEI MAYEK VOWEL SIGN VISARGA;2VIRAMA
AB01 0ETHIOPIC SYLLABLE TTHU;2TTHI;2TTHAA;2TTHEE;2TTHE;2TTHO
AB09 0ETHIOPIC SYLLABLE DDHU;2DDHI;2DDHAA;2DDHEE;2DDHE;2DDHO
AB11 0ETHIOPIC SYLLABLE DZU;2DZI;2DZAA;2DZEE;2DZE;2DZO
AB20 0ETHIOPIC SYLLABLE CCHHA;2CCHHU;2CCHHI;2CCHHAA;2CCHHEE;2CCHHE;2CCHHO
AB28 0ETHIOPIC SYLLABLE BBA;2BBU;2BBI;2BBAA;2BBEE;2BBE;2BBO
AB30 0LATIN SMALL LETTER BARRED ALPHA;3A REVERSED-SCHWA;3BLACKLETTER E;3BARRED E;3E WITH FLOURISH
AB35 0LATIN SMALL LETTER LENIS F;3SCRIPT G WITH CROSSED-TAIL;3L WITH INVERTED LAZY S
AB38 0LATIN SMALL LETTER L WITH DOUBLE MIDDLE TILDE;5MIDDLE RING;3M WITH CROSSED-TAIL
AB3B 0LATIN SMALL LETTER N WITH CROSSED-TAIL;3ENG WITH CROSSED-TAIL;3BLACKLETTER O;5WITH STROKE
AB3F 0LATIN SMALL LETTER OPEN O WITH STROKE;3INVERTED OE;3TURNED OE WITH STROKE;6HORIZONTAL STROKE
AB43 0LATIN SMALL LETTER TURNED O OPEN-O;6WITH STROKE;3STIRRUP R
AB46 0LATIN LETTER SMALL CAPITAL R WITH RIGHT LEG;1SMALL LETTER R WITHOUT HANDLE;3DOUBLE R
AB49 0LATIN SMALL LETTER R WITH CROSSED-TAIL;3DOUBLE R WITH CROSSED-TAIL;3SCRIPT R;5WITH RING
AB4D 0LATIN SMALL LETTER BASELINE ESH;3U WITH SHORT RIGHT LEG;4BAR WITH SHORT RIGHT LEG;3UI
AB51 0LATIN SMALL LETTER TURNED UI;3U WITH LEFT HOOK;3CHI;4WITH LOW RIGHT RING;6LEFT SERIF
AB56 0LATIN SMALL LETTER X WITH LOW RIGHT RING;5LONG LEFT LEG;8AND LOW RIGHT RING;8WITH SERIF
AB5A 0LATIN SMALL LETTER Y WITH SHORT RIGHT LEG;0MODIFIER BREVE WITH INVERTED BREVE
AB5C 0MODIFIER LETTER SMALL HENG;3L WITH INVERTED LAZY S;5MIDDLE TILDE;3U WITH LEFT HOOK
AB60 0LATIN SMALL LETTER SAKHA YAT;3IOTIFIED E;3OPEN OE;3UO;3INVERTED ALPHA
AB65 0GREEK LETTER SMALL CAPITAL OMEGA;0LATIN SMALL LETTER DZ DIGRAPH WITH RETROFLEX HOOK
AB67 0LATIN SMALL LETTER TS DIGRAPH WITH RETROFLEX HOOK;3TURNED R WITH MIDDLE TILDE
AB69 0MODIFIER LETTER SMALL TURNED W;2LEFT TACK;2RIGHT TACK
AB70 0CHEROKEE SMALL LETTER A;3E;3I;3O;3U;3V;3GA;3KA;3GE;3GI;3GO;3GU;3GV;3HA;3HE;3HI;3HO;3HU;3HV
AB83 0CHEROKEE SMALL LETTER LA;3LE;3LI;3LO;3LU;3LV;3MA;3ME;3MI;3MO;3MU;3NA;3HNA;3NAH;3NE;3NI;3NO
AB94 0CHEROKEE SMALL LETTER NU;3NV;3QUA;3QUE;3QUI;3QUO;3QUU;3QUV;3SA;3S;3SE;3SI;3SO;3SU;3SV;3DA;3TA
ABA5 0CHEROKEE SMALL LETTER DE;3TE;3DI;3TI;3DO;3DU;3DV;3DLA;3TLA;3TLE;3TLI;3TLO;3TLU;3TLV;3TSA;3TSE
ABB5 0CHEROKEE SMALL LETTER TSI;3TSO;3TSU;3TSV;3WA;3WE;3WI;3WO;3WU;3WV;3YA;0MEETEI MAYEK LETTER KOK
ABC1 0MEETEI MAYEK LETTER SAM;3LAI;3MIT;3PA;3NA;3CHIL;3TIL;3KHOU;3NGOU;3THOU;3WAI;3YANG;3HUK;3UN;3I
ABD0 0MEETEI MAYEK LETTER PHAM;3ATIYA;3GOK;3JHAM;3RAI;3BA;3JIL;3DIL;3GHOU;3DHOU;3BHAM;3KOK LONSUM
ABDC 0MEETEI MAYEK LETTER LAI LONSUM;3MIT LONSUM;3PA LONSUM;3NA LONSUM;3TIL LONSUM;3NGOU LONSUM
ABE2 0MEETEI MAYEK LETTER I LONSUM;2VOWEL SIGN ONAP;4INAP;4ANAP;4YENAP;4SOUNAP;4UNAP;4CHEINAP;4NUNG
ABEB 0MEETEI MAYEK CHEIKHEI;2LUM IYEK;2APUN IYEK
ABF0 0MEETEI MAYEK DIGIT ZERO;3ONE;3TWO;3THREE;3FOUR;3FIVE;3SIX;3SEVEN;3EIGHT;3NINE
D7B0 0HANGUL JUNGSEONG O-YEO;2O-O-I;2YO-A;2YO-AE;2YO-EO;2U-YEO;2U-I-I;2YU-AE;2YU-O;2EU-A;2EU-EO
D7BB 0HANGUL JUNGSEONG EU-E;2EU-O;2I-YA-O;2I-YAE;2I-YEO;2I-YE;2I-O-I;2I-YO;2I-YU;2I-I;2ARAEA-A
D7C6 0HANGUL JUNGSEONG ARAEA-E
D7CB 0HANGUL JONGSEONG NIEUN-RIEUL;2NIEUN-CHIEUCH;2SSANGTIKEUT;2SSANGTIKEUT-PIEUP;2TIKEUT-PIEUP
D7D0 0HANGUL JONGSEONG TIKEUT-SIOS;2TIKEUT-SIOS-KIYEOK;2TIKEUT-CIEUC;2TIKEUT-CHIEUCH
D7D4 0HANGUL JONGSEONG TIKEUT-THIEUTH;2RIEUL-SSANGKIYEOK;2RIEUL-KIYEOK-HIEUH;2SSANGRIEUL-KHIEUKH
D7D8 0HANGUL JONGSEONG RIEUL-MIEUM-HIEUH;2RIEUL-PIEUP-TIKEUT;2RIEUL-PIEUP-PHIEUPH;2RIEUL-YESIEUNG
D7DC 0HANGUL JONGSEONG RIEUL-YEORINHIEUH-HIEUH;2KAPYEOUNRIEUL;2MIEUM-NIEUN;2MIEUM-SSANGNIEUN
D7E0 0HANGUL JONGSEONG SSANGMIEUM;2MIEUM-PIEUP-SIOS;2MIEUM-CIEUC;2PIEUP-TIKEUT;2PIEUP-RIEUL-PHIEUPH
D7E5 0HANGUL JONGSEONG PIEUP-MIEUM;2SSANGPIEUP;2PIEUP-SIOS-TIKEUT;2PIEUP-CIEUC;2PIEUP-CHIEUCH
D7EA 0HANGUL JONGSEONG SIOS-MIEUM;2SIOS-KAPYEOUNPIEUP;2SSANGSIOS-KIYEOK;2SSANGSIOS-TIKEUT
D7EE 0HANGUL JONGSEONG SIOS-PANSIOS;2SIOS-CIEUC;2SIOS-CHIEUCH;2SIOS-THIEUTH;2SIOS-HIEUH
D7F3 0HANGUL JONGSEONG PANSIOS-PIEUP;2PANSIOS-KAPYEOUNPIEUP;2YESIEUNG-MIEUM;2YESIEUNG-HIEUH
D7F7 0HANGUL JONGSEONG CIEUC-PIEUP;2CIEUC-SSANGPIEUP;2SSANGCIEUC;2PHIEUPH-SIOS;2PHIEUPH-THIEUTH
FB00 0LATIN SMALL LIGATURE FF;3FI;3FL;3FFI;3FFL;3LONG S T;3ST
FB13 0ARMENIAN SMALL LIGATURE MEN NOW;4ECH;4INI;3VEW NOW;3MEN XEH
FB1D 0HEBREW LETTER YOD WITH HIRIQ;1POINT JUDEO-SPANISH VARIKA;1LIGATURE YIDDISH YOD YOD PATAH
FB20 0HEBREW LETTER ALTERNATIVE AYIN;2WIDE ALEF;3DALET;3HE;3KAF;3LAMED;3FINAL MEM;3RESH;3TAV
FB29 0HEBREW LETTER ALTERNATIVE PLUS SIGN;2SHIN WITH SHIN DOT;4SIN DOT;4DAGESH AND SHIN DOT
FB2D 0HEBREW LETTER SHIN WITH DAGESH AND SIN DOT;2ALEF WITH PATAH;4QAMATS;4MAPIQ;2BET WITH DAGESH
FB32 0HEBREW LETTER GIMEL WITH DAGESH;2DALET WITH DAGESH;2HE WITH MAPIQ;2VAV WITH DAGESH
FB36 0HEBREW LETTER ZAYIN WITH DAGESH
FB38 0HEBREW LETTER TET WITH DAGESH;2YOD WITH DAGESH;2FINAL KAF WITH DAGESH;2KAF WITH DAGESH
FB3C 0HEBREW LETTER LAMED WITH DAGESH
FB3E 0HEBREW LETTER MEM WITH DAGESH
FB40 0HEBREW LETTER NUN WITH DAGESH;2SAMEKH WITH DAGESH
FB43 0HEBREW LETTER FINAL PE WITH DAGESH;2PE WITH DAGESH
FB46 0HEBREW LETTER TSADI WITH DAGESH;2QOF WITH DAGESH;2RESH WITH DAGESH;2SHIN WITH DAGESH
FB4A 0HEBREW LETTER TAV WITH DAGESH;2VAV WITH HOLAM;2BET WITH RAFE;2KAF WITH RAFE;2PE WITH RAFE
FB4F 0HEBREW LIGATURE ALEF LAMED;0ARABIC LETTER ALEF WASLA ISOLATED FORM;4FINAL FORM
FB52 0ARABIC LETTER BEEH ISOLATED FORM;3FINAL FORM;3INITIAL FORM;3MEDIAL FORM;2PEH ISOLATED FORM
FB57 0ARABIC LETTER PEH FINAL FORM;3INITIAL FORM;3MEDIAL FORM;2BEHEH ISOLATED FORM;3FINAL FORM
FB5C 0ARABIC LETTER BEHEH INITIAL FORM;3MEDIAL FORM;2TTEHEH ISOLATED FORM;3FINAL FORM;3INITIAL FORM
FB61 0ARABIC LETTER TTEHEH MEDIAL FORM;2TEHEH ISOLATED FORM;3FINAL FORM;3INITIAL FORM;3MEDIAL FORM
FB66 0ARABIC LETTER TTEH ISOLATED FORM;3FINAL FORM;3INITIAL FORM;3MEDIAL FORM;2VEH ISOLATED FORM
FB6B 0ARABIC LETTER VEH FINAL FORM;3INITIAL FORM;3MEDIAL FORM;2PEHEH ISOLATED FORM;3FINAL FORM
FB70 0ARABIC LETTER PEHEH INITIAL FORM;3MEDIAL FORM;2DYEH ISOLATED FORM;3FINAL FORM;3INITIAL FORM
FB75 0ARABIC LETTER DYEH MEDIAL FORM;2NYEH ISOLATED FORM;3FINAL FORM;3INITIAL FORM;3MEDIAL FORM
FB7A 0ARABIC LETTER TCHEH ISOLATED FORM;3FINAL FORM;3INITIAL FORM;3MEDIAL FORM
FB7E 0ARABIC LETTER TCHEHEH ISOLATED FORM;3FINAL FORM;3INITIAL FORM;3MEDIAL FORM
FB82 0ARABIC LETTER DDAHAL ISOLATED FORM;3FINAL FORM;2DAHAL ISOLATED FORM;3FINAL FORM
FB86 0ARABIC LETTER DUL ISOLATED FORM;3FINAL FORM;2DDAL ISOLATED FORM;3FINAL FORM
FB8A 0ARABIC LETTER JEH ISOLATED FORM;3FINAL FORM;2RREH ISOLATED FORM;3FINAL FORM
FB8E 0ARABIC LETTER KEHEH ISOLATED FORM;3FINAL FORM;3INITIAL FORM;3MEDIAL FORM;2GAF ISOLATED FORM
FB93 0ARABIC LETTER GAF FINAL FORM;3INITIAL FORM;3MEDIAL FORM;2GUEH ISOLATED FORM;3FINAL FORM
FB98 0ARABIC LETTER GUEH INITIAL FORM;3MEDIAL FORM;2NGOEH ISOLATED FORM;3FINAL FORM;3INITIAL FORM
FB9D 0ARABIC LETTER NGOEH MEDIAL FORM;2NOON GHUNNA ISOLATED FORM;4FINAL FORM;2RNOON ISOLATED FORM
FBA1 0ARABIC LETTER RNOON FINAL FORM;3INITIAL FORM;3MEDIAL FORM;2HEH WITH YEH ABOVE ISOLATED FORM
FBA5 0ARABIC LETTER HEH WITH YEH ABOVE FINAL FORM;3GOAL ISOLATED FORM;4FINAL FORM;4INITIAL FORM
FBA9 0ARABIC LETTER HEH GOAL MEDIAL FORM;3DOACHASHMEE ISOLATED FORM;4FINAL FORM;4INITIAL FORM
FBAD 0ARABIC LETTER HEH DOACHASHMEE MEDIAL FORM;2YEH BARREE ISOLATED FORM;4FINAL FORM
FBB0 0ARABIC LETTER YEH BARREE WITH HAMZA ABOVE ISOLATED FORM;7FINAL FORM;1SYMBOL DOT ABOVE;3BELOW
FBB4 0ARABIC SYMBOL TWO DOTS ABOVE;4BELOW;2THREE DOTS ABOVE;4BELOW;4POINTING DOWNWARDS ABOVE;6BELOW
FBBA 0ARABIC SYMBOL FOUR DOTS ABOVE;4BELOW;2DOUBLE VERTICAL BAR BELOW;2TWO DOTS VERTICALLY ABOVE
FBBE 0ARABIC SYMBOL TWO DOTS VERTICALLY BELOW;2RING;2SMALL TAH ABOVE;4BELOW;2WASLA ABOVE
FBD3 0ARABIC LETTER NG ISOLATED FORM;3FINAL FORM;3INITIAL FORM;3MEDIAL FORM;2U ISOLATED FORM
FBD8 0ARABIC LETTER U FINAL FORM;2OE ISOLATED FORM;3FINAL FORM;2YU ISOLATED FORM;3FINAL FORM
FBDD 0ARABIC LETTER U WITH HAMZA ABOVE ISOLATED FORM;2VE ISOLATED FORM;3FINAL FORM
FBE0 0ARABIC LETTER KIRGHIZ OE ISOLATED FORM;4FINAL FORM;3YU ISOLATED FORM;4FINAL FORM
FBE4 0ARABIC LETTER E ISOLATED FORM;3FINAL FORM;3INITIAL FORM;3MEDIAL FORM
FBE8 0ARABIC LETTER UIGHUR KAZAKH KIRGHIZ ALEF MAKSURA INITIAL FORM;7MEDIAL FORM
FBEA 0ARABIC LIGATURE YEH WITH HAMZA ABOVE WITH ALEF ISOLATED FORM;8FINAL FORM;7AE ISOLATED FORM
FBED 0ARABIC LIGATURE YEH WITH HAMZA ABOVE WITH AE FINAL FORM;7WAW ISOLATED FORM;8FINAL FORM
FBF0 0ARABIC LIGATURE YEH WITH HAMZA ABOVE WITH U ISOLATED FORM;8FINAL FORM;7OE ISOLATED FORM
FBF3 0ARABIC LIGATURE YEH WITH HAMZA ABOVE WITH OE FINAL FORM;7YU ISOLATED FORM;8FINAL FORM
FBF6 0ARABIC LIGATURE YEH WITH HAMZA ABOVE WITH E ISOLATED FORM;8FINAL FORM;8INITIAL FORM
FBF9 0ARABIC LIGATURE UIGHUR KIRGHIZ YEH WITH HAMZA ABOVE WITH ALEF MAKSURA ISOLATED FORM
FBFA 0ARABIC LIGATURE UIGHUR KIRGHIZ YEH WITH HAMZA ABOVE WITH ALEF MAKSURA FINAL FORM
FBFB 0ARABIC LIGATURE UIGHUR KIRGHIZ YEH WITH HAMZA ABOVE WITH ALEF MAKSURA INITIAL FORM
FBFC 0ARABIC LETTER FARSI YEH ISOLATED FORM;4FINAL FORM;4INITIAL FORM;4MEDIAL FORM
FC00 0ARABIC LIGATURE YEH WITH HAMZA ABOVE WITH JEEM ISOLATED FORM;7HAH ISOLATED FORM
FC02 0ARABIC LIGATURE YEH WITH HAMZA ABOVE WITH MEEM ISOLATED FORM;7ALEF MAKSURA ISOLATED FORM
FC04 0ARABIC LIGATURE YEH WITH HAMZA ABOVE WITH YEH ISOLATED FORM;2BEH WITH JEEM ISOLATED FORM
FC06 0ARABIC LIGATURE BEH WITH HAH ISOLATED FORM;4KHAH ISOLATED FORM;4MEEM ISOLATED FORM
FC09 0ARABIC LIGATURE BEH WITH ALEF MAKSURA ISOLATED FORM;4YEH ISOLATED FORM
FC0B 0ARABIC LIGATURE TEH WITH JEEM ISOLATED FORM;4HAH ISOLATED FORM;4KHAH ISOLATED FORM
FC0E 0ARABIC LIGATURE TEH WITH MEEM ISOLATED FORM;4ALEF MAKSURA ISOLATED FORM;4YEH ISOLATED FORM
FC11 0ARABIC LIGATURE THEH WITH JEEM ISOLATED FORM;4MEEM ISOLATED FORM;4ALEF MAKSURA ISOLATED FORM
FC14 0ARABIC LIGATURE THEH WITH YEH ISOLATED FORM;2JEEM WITH HAH ISOLATED FORM;4MEEM ISOLATED FORM
FC17 0ARABIC LIGATURE HAH WITH JEEM ISOLATED FORM;4MEEM ISOLATED FORM;2KHAH WITH JEEM ISOLATED FORM
FC1A 0ARABIC LIGATURE KHAH WITH HAH ISOLATED FORM;4MEEM ISOLATED FORM;2SEEN WITH JEEM ISOLATED FORM
FC1D 0ARABIC LIGATURE SEEN WITH HAH ISOLATED FORM;4KHAH ISOLATED FORM;4MEEM ISOLATED FORM
FC20 0ARABIC LIGATURE SAD WITH HAH ISOLATED FORM;4MEEM ISOLATED FORM;2DAD WITH JEEM ISOLATED FORM
FC23 0ARABIC LIGATURE DAD WITH HAH ISOLATED FORM;4KHAH ISOLATED FORM;4MEEM ISOLATED FORM
FC26 0ARABIC LIGATURE TAH WITH HAH ISOLATED FORM;4MEEM ISOLATED FORM;2ZAH WITH MEEM ISOLATED FORM
FC29 0ARABIC LIGATURE AIN WITH JEEM ISOLATED FORM;4MEEM ISOLATED FORM
FC2B 0ARABIC LIGATURE GHAIN WITH JEEM ISOLATED FORM;4MEEM ISOLATED FORM
FC2D 0ARABIC LIGATURE FEH WITH JEEM ISOLATED FORM;4HAH ISOLATED FORM;4KHAH ISOLATED FORM
FC30 0ARABIC LIGATURE FEH WITH MEEM ISOLATED FORM;4ALEF MAKSURA ISOLATED FORM;4YEH ISOLATED FORM
FC33 0ARABIC LIGATURE QAF WITH HAH ISOLATED FORM;4MEEM ISOLATED FORM;4ALEF MAKSURA ISOLATED FORM
FC36 0ARABIC LIGATURE QAF WITH YEH ISOLATED FORM;2KAF WITH ALEF ISOLATED FORM;4JEEM ISOLATED FORM
FC39 0ARABIC LIGATURE KAF WITH HAH ISOLATED FORM;4KHAH ISOLATED FORM;4LAM ISOLATED FORM
FC3C 0ARABIC LIGATURE KAF WITH MEEM ISOLATED FORM;4ALEF MAKSURA ISOLATED FORM;4YEH ISOLATED FORM
FC3F 0ARABIC LIGATURE LAM WITH JEEM ISOLATED FORM;4HAH ISOLATED FORM;4KHAH ISOLATED FORM
FC42 0ARABIC LIGATURE LAM WITH MEEM ISOLATED FORM;4ALEF MAKSURA ISOLATED FORM;4YEH ISOLATED FORM
FC45 0ARABIC LIGATURE MEEM WITH JEEM ISOLATED FORM;4HAH ISOLATED FORM;4KHAH ISOLATED FORM
FC48 0ARABIC LIGATURE MEEM WITH MEEM ISOLATED FORM;4ALEF MAKSURA ISOLATED FORM;4YEH ISOLATED FORM
FC4B 0ARABIC LIGATURE NOON WITH JEEM ISOLATED FORM;4HAH ISOLATED FORM;4KHAH ISOLATED FORM
FC4E 0ARABIC LIGATURE NOON WITH MEEM ISOLATED FORM;4ALEF MAKSURA ISOLATED FORM;4YEH ISOLATED FORM
FC51 0ARABIC LIGATURE HEH WITH JEEM ISOLATED FORM;4MEEM ISOLATED FORM;4ALEF MAKSURA ISOLATED FORM
FC54 0ARABIC LIGATURE HEH WITH YEH ISOLATED FORM;2YEH WITH JEEM ISOLATED FORM;4HAH ISOLATED FORM
FC57 0ARABIC LIGATURE YEH WITH KHAH ISOLATED FORM;4MEEM ISOLATED FORM;4ALEF MAKSURA ISOLATED FORM
FC5A 0ARABIC LIGATURE YEH WITH YEH ISOLATED FORM;2THAL WITH SUPERSCRIPT ALEF ISOLATED FORM
FC5C 0ARABIC LIGATURE REH WITH SUPERSCRIPT ALEF ISOLATED FORM
FC5D 0ARABIC LIGATURE ALEF MAKSURA WITH SUPERSCRIPT ALEF ISOLATED FORM
FC5E 0ARABIC LIGATURE SHADDA WITH DAMMATAN ISOLATED FORM;4KASRATAN ISOLATED FORM
FC60 0ARABIC LIGATURE SHADDA WITH FATHA ISOLATED FORM;4DAMMA ISOLATED FORM;4KASRA ISOLATED FORM
FC63 0ARABIC LIGATURE SHADDA WITH SUPERSCRIPT ALEF ISOLATED FORM
FC64 0ARABIC LIGATURE YEH WITH HAMZA ABOVE WITH REH FINAL FORM;7ZAIN FINAL FORM;7MEEM FINAL FORM
FC67 0ARABIC LIGATURE YEH WITH HAMZA ABOVE WITH NOON FINAL FORM;7ALEF MAKSURA FINAL FORM
FC69 0ARABIC LIGATURE YEH WITH HAMZA ABOVE WITH YEH FINAL FORM;2BEH WITH REH FINAL FORM
FC6B 0ARABIC LIGATURE BEH WITH ZAIN FINAL FORM;4MEEM FINAL FORM;4NOON FINAL FORM
FC6E 0ARABIC LIGATURE BEH WITH ALEF MAKSURA FINAL FORM;4YEH FINAL FORM;2TEH WITH REH FINAL FORM
FC71 0ARABIC LIGATURE TEH WITH ZAIN FINAL FORM;4MEEM FINAL FORM;4NOON FINAL FORM
FC74 0ARABIC LIGATURE TEH WITH ALEF MAKSURA FINAL FORM;4YEH FINAL FORM;2THEH WITH REH FINAL FORM
FC77 0ARABIC LIGATURE THEH WITH ZAIN FINAL FORM;4MEEM FINAL FORM;4NOON FINAL FORM
FC7A 0ARABIC LIGATURE THEH WITH ALEF MAKSURA FINAL FORM;4YEH FINAL FORM
FC7C 0ARABIC LIGATURE FEH WITH ALEF MAKSURA FINAL FORM;4YEH FINAL FORM
FC7E 0ARABIC LIGATURE QAF WITH ALEF MAKSURA FINAL FORM;4YEH FINAL FORM;2KAF WITH ALEF FINAL FORM
FC81 0ARABIC LIGATURE KAF WITH LAM FINAL FORM;4MEEM FINAL FORM;4ALEF MAKSURA FINAL FORM
FC84 0ARABIC LIGATURE KAF WITH YEH FINAL FORM;2LAM WITH MEEM FINAL FORM;4ALEF MAKSURA FINAL FORM
FC87 0ARABIC LIGATURE LAM WITH YEH FINAL FORM;2MEEM WITH ALEF FINAL FORM;4MEEM FINAL FORM
FC8A 0ARABIC LIGATURE NOON WITH REH FINAL FORM;4ZAIN FINAL FORM;4MEEM FINAL FORM;4NOON FINAL FORM
FC8E 0ARABIC LIGATURE NOON WITH ALEF MAKSURA FINAL FORM;4YEH FINAL FORM
FC90 0ARABIC LIGATURE ALEF MAKSURA WITH SUPERSCRIPT ALEF FINAL FORM;2YEH WITH REH FINAL FORM
FC92 0ARABIC LIGATURE YEH WITH ZAIN FINAL FORM;4MEEM FINAL FORM;4NOON FINAL FORM
FC95 0ARABIC LIGATURE YEH WITH ALEF MAKSURA FINAL FORM;4YEH FINAL FORM
FC97 0ARABIC LIGATURE YEH WITH HAMZA ABOVE WITH JEEM INITIAL FORM;7HAH INITIAL FORM
FC99 0ARABIC LIGATURE YEH WITH HAMZA ABOVE WITH KHAH INITIAL FORM;7MEEM INITIAL FORM
FC9B 0ARABIC LIGATURE YEH WITH HAMZA ABOVE WITH HEH INITIAL FORM;2BEH WITH JEEM INITIAL FORM
FC9D 0ARABIC LIGATURE BEH WITH HAH INITIAL FORM;4KHAH INITIAL FORM;4MEEM INITIAL FORM
FCA0 0ARABIC LIGATURE BEH WITH HEH INITIAL FORM;2TEH WITH JEEM INITIAL FORM;4HAH INITIAL FORM
FCA3 0ARABIC LIGATURE TEH WITH KHAH INITIAL FORM;4MEEM INITIAL FORM;4HEH INITIAL FORM
FCA6 0ARABIC LIGATURE THEH WITH MEEM INITIAL FORM;2JEEM WITH HAH INITIAL FORM;4MEEM INITIAL FORM
FCA9 0ARABIC LIGATURE HAH WITH JEEM INITIAL FORM;4MEEM INITIAL FORM;2KHAH WITH JEEM INITIAL FORM
FCAC 0ARABIC LIGATURE KHAH WITH MEEM INITIAL FORM;2SEEN WITH JEEM INITIAL FORM;4HAH INITIAL FORM
FCAF 0ARABIC LIGATURE SEEN WITH KHAH INITIAL FORM;4MEEM INITIAL FORM;2SAD WITH HAH INITIAL FORM
FCB2 0ARABIC LIGATURE SAD WITH KHAH INITIAL FORM;4MEEM INITIAL FORM;2DAD WITH JEEM INITIAL FORM
FCB5 0ARABIC LIGATURE DAD WITH HAH INITIAL FORM;4KHAH INITIAL FORM;4MEEM INITIAL FORM
FCB8 0ARABIC LIGATURE TAH WITH HAH INITIAL FORM;2ZAH WITH MEEM INITIAL FORM
FCBA 0ARABIC LIGATURE AIN WITH JEEM INITIAL FORM;4MEEM INITIAL FORM;2GHAIN WITH JEEM INITIAL FORM
FCBD 0ARABIC LIGATURE GHAIN WITH MEEM INITIAL FORM;2FEH WITH JEEM INITIAL FORM;4HAH INITIAL FORM
FCC0 0ARABIC LIGATURE FEH WITH KHAH INITIAL FORM;4MEEM INITIAL FORM;2QAF WITH HAH INITIAL FORM
FCC3 0ARABIC LIGATURE QAF WITH MEEM INITIAL FORM;2KAF WITH JEEM INITIAL FORM;4HAH INITIAL FORM
FCC6 0ARABIC LIGATURE KAF WITH KHAH INITIAL FORM;4LAM INITIAL FORM;4MEEM INITIAL FORM
FCC9 0ARABIC LIGATURE LAM WITH JEEM INITIAL FORM;4HAH INITIAL FORM;4KHAH INITIAL FORM
FCCC 0ARABIC LIGATURE LAM WITH MEEM INITIAL FORM;4HEH INITIAL FORM;2MEEM WITH JEEM INITIAL FORM
FCCF 0ARABIC LIGATURE MEEM WITH HAH INITIAL FORM;4KHAH INITIAL FORM;4MEEM INITIAL FORM
FCD2 0ARABIC LIGATURE NOON WITH JEEM INITIAL FORM;4HAH INITIAL FORM;4KHAH INITIAL FORM
FCD5 0ARABIC LIGATURE NOON WITH MEEM INITIAL FORM;4HEH INITIAL FORM;2HEH WITH JEEM INITIAL FORM
FCD8 0ARABIC LIGATURE HEH WITH MEEM INITIAL FORM;4SUPERSCRIPT ALEF INITIAL FORM
FCDA 0ARABIC LIGATURE YEH WITH JEEM INITIAL FORM;4HAH INITIAL FORM;4KHAH INITIAL FORM
FCDD 0ARABIC LIGATURE YEH WITH MEEM INITIAL FORM;4HEH INITIAL FORM
FCDF 0ARABIC LIGATURE YEH WITH HAMZA ABOVE WITH MEEM MEDIAL FORM;7HEH MEDIAL FORM
FCE1 0ARABIC LIGATURE BEH WITH MEEM MEDIAL FORM;4HEH MEDIAL FORM;2TEH WITH MEEM MEDIAL FORM
FCE4 0ARABIC LIGATURE TEH WITH HEH MEDIAL FORM;2THEH WITH MEEM MEDIAL FORM;4HEH MEDIAL FORM
FCE7 0ARABIC LIGATURE SEEN WITH MEEM MEDIAL FORM;4HEH MEDIAL FORM;2SHEEN WITH MEEM MEDIAL FORM
FCEA 0ARABIC LIGATURE SHEEN WITH HEH MEDIAL FORM;2KAF WITH LAM MEDIAL FORM;4MEEM MEDIAL FORM
FCED 0ARABIC LIGATURE LAM WITH MEEM MEDIAL FORM;2NOON WITH MEEM MEDIAL FORM;4HEH MEDIAL FORM
FCF0 0ARABIC LIGATURE YEH WITH MEEM MEDIAL FORM;4HEH MEDIAL FORM;2SHADDA WITH FATHA MEDIAL FORM
FCF3 0ARABIC LIGATURE SHADDA WITH DAMMA MEDIAL FORM;4KASRA MEDIAL FORM
FCF5 0ARABIC LIGATURE TAH WITH ALEF MAKSURA ISOLATED FORM;4YEH ISOLATED FORM
FCF7 0ARABIC LIGATURE AIN WITH ALEF MAKSURA ISOLATED FORM;4YEH ISOLATED FORM
FCF9 0ARABIC LIGATURE GHAIN WITH ALEF MAKSURA ISOLATED FORM;4YEH ISOLATED FORM
FCFB 0ARABIC LIGATURE SEEN WITH ALEF MAKSURA ISOLATED FORM;4YEH ISOLATED FORM
FCFD 0ARABIC LIGATURE SHEEN WITH ALEF MAKSURA ISOLATED FORM;4YEH ISOLATED FORM
FCFF 0ARABIC LIGATURE HAH WITH ALEF MAKSURA ISOLATED FORM;4YEH ISOLATED FORM
FD01 0ARABIC LIGATURE JEEM WITH ALEF MAKSURA ISOLATED FORM;4YEH ISOLATED FORM
FD03 0ARABIC LIGATURE KHAH WITH ALEF MAKSURA ISOLATED FORM;4YEH ISOLATED FORM
FD05 0ARABIC LIGATURE SAD WITH ALEF MAKSURA ISOLATED FORM;4YEH ISOLATED FORM
FD07 0ARABIC LIGATURE DAD WITH ALEF MAKSURA ISOLATED FORM;4YEH ISOLATED FORM
FD09 0ARABIC LIGATURE SHEEN WITH JEEM ISOLATED FORM;4HAH ISOLATED FORM;4KHAH ISOLATED FORM
FD0C 0ARABIC LIGATURE SHEEN WITH MEEM ISOLATED FORM;4REH ISOLATED FORM;2SEEN WITH REH ISOLATED FORM
FD0F 0ARABIC LIGATURE SAD WITH REH ISOLATED FORM;2DAD WITH REH ISOLATED FORM
FD11 0ARABIC LIGATURE TAH WITH ALEF MAKSURA FINAL FORM;4YEH FINAL FORM
FD13 0ARABIC LIGATURE AIN WITH ALEF MAKSURA FINAL FORM;4YEH FINAL FORM
FD15 0ARABIC LIGATURE GHAIN WITH ALEF MAKSURA FINAL FORM;4YEH FINAL FORM
FD17 0ARABIC LIGATURE SEEN WITH ALEF MAKSURA FINAL FORM;4YEH FINAL FORM
FD19 0ARABIC LIGATURE SHEEN WITH ALEF MAKSURA FINAL FORM;4YEH FINAL FORM
FD1B 0ARABIC LIGATURE HAH WITH ALEF MAKSURA FINAL FORM;4YEH FINAL FORM
FD1D 0ARABIC LIGATURE JEEM WITH ALEF MAKSURA FINAL FORM;4YEH FINAL FORM
FD1F 0ARABIC LIGATURE KHAH WITH ALEF MAKSURA FINAL FORM;4YEH FINAL FORM
FD21 0ARABIC LIGATURE SAD WITH ALEF MAKSURA FINAL FORM;4YEH FINAL FORM
FD23 0ARABIC LIGATURE DAD WITH ALEF MAKSURA FINAL FORM;4YEH FINAL FORM;2SHEEN WITH JEEM FINAL FORM
FD26 0ARABIC LIGATURE SHEEN WITH HAH FINAL FORM;4KHAH FINAL FORM;4MEEM FINAL FORM;4REH FINAL FORM
FD2A 0ARABIC LIGATURE SEEN WITH REH FINAL FORM;2SAD WITH REH FINAL FORM;2DAD WITH REH FINAL FORM
FD2D 0ARABIC LIGATURE SHEEN WITH JEEM INITIAL FORM;4HAH INITIAL FORM;4KHAH INITIAL FORM
FD30 0ARABIC LIGATURE SHEEN WITH MEEM INITIAL FORM;2SEEN WITH HEH INITIAL FORM
FD32 0ARABIC LIGATURE SHEEN WITH HEH INITIAL FORM;2TAH WITH MEEM INITIAL FORM
FD34 0ARABIC LIGATURE SEEN WITH JEEM MEDIAL FORM;4HAH MEDIAL FORM;4KHAH MEDIAL FORM
FD37 0ARABIC LIGATURE SHEEN WITH JEEM MEDIAL FORM;4HAH MEDIAL FORM;4KHAH MEDIAL FORM
FD3A 0ARABIC LIGATURE TAH WITH MEEM MEDIAL FORM;2ZAH WITH MEEM MEDIAL FORM
FD3C 0ARABIC LIGATURE ALEF WITH FATHATAN FINAL FORM;5ISOLATED FORM;0ORNATE LEFT PARENTHESIS
FD3F 0ORNATE RIGHT PARENTHESIS;0ARABIC LIGATURE RAHIMAHU ALLAAH;2RADI ALLAAHU ANH;4ANHAA;4ANHUM
FD44 0ARABIC LIGATURE RADI ALLAAHU ANHUMAA;4ANHUNNA;2SALLALLAAHU ALAYHI WA-AALIH;2ALAYHI AS-SALAAM
FD48 0ARABIC LIGATURE ALAYHIM AS-SALAAM;2ALAYHIMAA AS-SALAAM;2ALAYHI AS-SALAATU WAS-SALAAM
FD4B 0ARABIC LIGATURE QUDDISA SIRRAH;2SALLALLAHU ALAYHI WAAALIHEE WA-SALLAM;2ALAYHAA AS-SALAAM
FD4E 0ARABIC LIGATURE TABAARAKA WA-TAAALAA;2RAHIMAHUM ALLAAH;2TEH WITH JEEM WITH MEEM INITIAL FORM
FD51 0ARABIC LIGATURE TEH WITH HAH WITH JEEM FINAL FORM;7INITIAL FORM;6MEEM INITIAL FORM
FD54 0ARABIC LIGATURE TEH WITH KHAH WITH MEEM INITIAL FORM;4MEEM WITH JEEM INITIAL FORM
FD56 0ARABIC LIGATURE TEH WITH MEEM WITH HAH INITIAL FORM;6KHAH INITIAL FORM
FD58 0ARABIC LIGATURE JEEM WITH MEEM WITH HAH FINAL FORM;7INITIAL FORM
FD5A 0ARABIC LIGATURE HAH WITH MEEM WITH YEH FINAL FORM;6ALEF MAKSURA FINAL FORM
FD5C 0ARABIC LIGATURE SEEN WITH HAH WITH JEEM INITIAL FORM;4JEEM WITH HAH INITIAL FORM
FD5E 0ARABIC LIGATURE SEEN WITH JEEM WITH ALEF MAKSURA FINAL FORM;4MEEM WITH HAH FINAL FORM
FD60 0ARABIC LIGATURE SEEN WITH MEEM WITH HAH INITIAL FORM;6JEEM INITIAL FORM;6MEEM FINAL FORM
FD63 0ARABIC LIGATURE SEEN WITH MEEM WITH MEEM INITIAL FORM;2SAD WITH HAH WITH HAH FINAL FORM
FD65 0ARABIC LIGATURE SAD WITH HAH WITH HAH INITIAL FORM;4MEEM WITH MEEM FINAL FORM
FD67 0ARABIC LIGATURE SHEEN WITH HAH WITH MEEM FINAL FORM;7INITIAL FORM;4JEEM WITH YEH FINAL FORM
FD6A 0ARABIC LIGATURE SHEEN WITH MEEM WITH KHAH FINAL FORM;7INITIAL FORM;6MEEM FINAL FORM
FD6D 0ARABIC LIGATURE SHEEN WITH MEEM WITH MEEM INITIAL FORM
FD6E 0ARABIC LIGATURE DAD WITH HAH WITH ALEF MAKSURA FINAL FORM;4KHAH WITH MEEM FINAL FORM
FD70 0ARABIC LIGATURE DAD WITH KHAH WITH MEEM INITIAL FORM;2TAH WITH MEEM WITH HAH FINAL FORM
FD72 0ARABIC LIGATURE TAH WITH MEEM WITH HAH INITIAL FORM;6MEEM INITIAL FORM;6YEH FINAL FORM
FD75 0ARABIC LIGATURE AIN WITH JEEM WITH MEEM FINAL FORM;4MEEM WITH MEEM FINAL FORM;7INITIAL FORM
FD78 0ARABIC LIGATURE AIN WITH MEEM WITH ALEF MAKSURA FINAL FORM
FD79 0ARABIC LIGATURE GHAIN WITH MEEM WITH MEEM FINAL FORM;6YEH FINAL FORM;6ALEF MAKSURA FINAL FORM
FD7C 0ARABIC LIGATURE FEH WITH KHAH WITH MEEM FINAL FORM;7INITIAL FORM
FD7E 0ARABIC LIGATURE QAF WITH MEEM WITH HAH FINAL FORM;6MEEM FINAL FORM
FD80 0ARABIC LIGATURE LAM WITH HAH WITH MEEM FINAL FORM;6YEH FINAL FORM;6ALEF MAKSURA FINAL FORM
FD83 0ARABIC LIGATURE LAM WITH JEEM WITH JEEM INITIAL FORM;7FINAL FORM;4KHAH WITH MEEM FINAL FORM
FD86 0ARABIC LIGATURE LAM WITH KHAH WITH MEEM INITIAL FORM;4MEEM WITH HAH FINAL FORM;7INITIAL FORM
FD89 0ARABIC LIGATURE MEEM WITH HAH WITH JEEM INITIAL FORM;6MEEM INITIAL FORM;6YEH FINAL FORM
FD8C 0ARABIC LIGATURE MEEM WITH JEEM WITH HAH INITIAL FORM;6MEEM INITIAL FORM
FD8E 0ARABIC LIGATURE MEEM WITH KHAH WITH JEEM INITIAL FORM;6MEEM INITIAL FORM
FD92 0ARABIC LIGATURE MEEM WITH JEEM WITH KHAH INITIAL FORM;2HEH WITH MEEM WITH JEEM INITIAL FORM
FD94 0ARABIC LIGATURE HEH WITH MEEM WITH MEEM INITIAL FORM;2NOON WITH HAH WITH MEEM INITIAL FORM
FD96 0ARABIC LIGATURE NOON WITH HAH WITH ALEF MAKSURA FINAL FORM;4JEEM WITH MEEM FINAL FORM
FD98 0ARABIC LIGATURE NOON WITH JEEM WITH MEEM INITIAL FORM;6ALEF MAKSURA FINAL FORM
FD9A 0ARABIC LIGATURE NOON WITH MEEM WITH YEH FINAL FORM;6ALEF MAKSURA FINAL FORM
FD9C 0ARABIC LIGATURE YEH WITH MEEM WITH MEEM FINAL FORM;7INITIAL FORM
FD9E 0ARABIC LIGATURE BEH WITH KHAH WITH YEH FINAL FORM;2TEH WITH JEEM WITH YEH FINAL FORM
FDA0 0ARABIC LIGATURE TEH WITH JEEM WITH ALEF MAKSURA FINAL FORM;4KHAH WITH YEH FINAL FORM
FDA2 0ARABIC LIGATURE TEH WITH KHAH WITH ALEF MAKSURA FINAL FORM;4MEEM WITH YEH FINAL FORM
FDA4 0ARABIC LIGATURE TEH WITH MEEM WITH ALEF MAKSURA FINAL FORM
FDA5 0ARABIC LIGATURE JEEM WITH MEEM WITH YEH FINAL FORM;4HAH WITH ALEF MAKSURA FINAL FORM
FDA7 0ARABIC LIGATURE JEEM WITH MEEM WITH ALEF MAKSURA FINAL FORM
FDA8 0ARABIC LIGATURE SEEN WITH KHAH WITH ALEF MAKSURA FINAL FORM;2SAD WITH HAH WITH YEH FINAL FORM
FDAA 0ARABIC LIGATURE SHEEN WITH HAH WITH YEH FINAL FORM;2DAD WITH HAH WITH YEH FINAL FORM
FDAC 0ARABIC LIGATURE LAM WITH JEEM WITH YEH FINAL FORM;4MEEM WITH YEH FINAL FORM
FDAE 0ARABIC LIGATURE YEH WITH HAH WITH YEH FINAL FORM;4JEEM WITH YEH FINAL FORM
FDB0 0ARABIC LIGATURE YEH WITH MEEM WITH YEH FINAL FORM;2MEEM WITH MEEM WITH YEH FINAL FORM
FDB2 0ARABIC LIGATURE QAF WITH MEEM WITH YEH FINAL FORM;2NOON WITH HAH WITH YEH FINAL FORM
FDB4 0ARABIC LIGATURE QAF WITH MEEM WITH HAH INITIAL FORM;2LAM WITH HAH WITH MEEM INITIAL FORM
FDB6 0ARABIC LIGATURE AIN WITH MEEM WITH YEH FINAL FORM;2KAF WITH MEEM WITH YEH FINAL FORM
FDB8 0ARABIC LIGATURE NOON WITH JEEM WITH HAH INITIAL FORM;2MEEM WITH KHAH WITH YEH FINAL FORM
FDBA 0ARABIC LIGATURE LAM WITH JEEM WITH MEEM INITIAL FORM;2KAF WITH MEEM WITH MEEM FINAL FORM
FDBC 0ARABIC LIGATURE LAM WITH JEEM WITH MEEM FINAL FORM;2NOON WITH JEEM WITH HAH FINAL FORM
FDBE 0ARABIC LIGATURE JEEM WITH HAH WITH YEH FINAL FORM;2HAH WITH JEEM WITH YEH FINAL FORM
FDC0 0ARABIC LIGATURE MEEM WITH JEEM WITH YEH FINAL FORM;2FEH WITH MEEM WITH YEH FINAL FORM
FDC2 0ARABIC LIGATURE BEH WITH HAH WITH YEH FINAL FORM;2KAF WITH MEEM WITH MEEM INITIAL FORM
FDC4 0ARABIC LIGATURE AIN WITH JEEM WITH MEEM INITIAL FORM;2SAD WITH MEEM WITH MEEM INITIAL FORM
FDC6 0ARABIC LIGATURE SEEN WITH KHAH WITH YEH FINAL FORM;2NOON WITH JEEM WITH YEH FINAL FORM
FDCF 0ARABIC LIGATURE SALAAMUHU ALAYNAA
FDF0 0ARABIC LIGATURE SALLA USED AS KORANIC STOP SIGN ISOLATED FORM
FDF1 0ARABIC LIGATURE QALA USED AS KORANIC STOP SIGN ISOLATED FORM;2ALLAH ISOLATED FORM
FDF3 0ARABIC LIGATURE AKBAR ISOLATED FORM;2MOHAMMAD ISOLATED FORM;2SALAM ISOLATED FORM
FDF6 0ARABIC LIGATURE RASOUL ISOLATED FORM;2ALAYHE ISOLATED FORM;2WASALLAM ISOLATED FORM
FDF9 0ARABIC LIGATURE SALLA ISOLATED FORM;2SALLALLAHOU ALAYHE WASALLAM;2JALLAJALALOUHOU;0RIAL SIGN
FDFD 0ARABIC LIGATURE BISMILLAH AR-RAHMAN AR-RAHEEM;2SUBHAANAHU WA TAAALAA;2AZZA WA JALL
FE00 0VARIATION SELECTOR-1;1SELECTOR-2;1SELECTOR-3;1SELECTOR-4;1SELECTOR-5;1SELECTOR-6;1SELECTOR-7
FE07 0VARIATION SELECTOR-8;1SELECTOR-9;1SELECTOR-10;1SELECTOR-11;1SELECTOR-12;1SELECTOR-13
FE0D 0VARIATION SELECTOR-14;1SELECTOR-15;1SELECTOR-16;0PRESENTATION FORM FOR VERTICAL COMMA
FE11 0PRESENTATION FORM FOR VERTICAL IDEOGRAPHIC COMMA;5FULL STOP;4COLON;4SEMICOLON
FE15 0PRESENTATION FORM FOR VERTICAL EXCLAMATION MARK;4QUESTION MARK;4LEFT WHITE LENTICULAR BRACKET
FE18 0PRESENTATION FORM FOR VERTICAL RIGHT WHITE LENTICULAR BRAKCET;4HORIZONTAL ELLIPSIS
FE20 0COMBINING LIGATURE LEFT HALF;2RIGHT HALF;1DOUBLE TILDE LEFT HALF;3RIGHT HALF
FE24 0COMBINING MACRON LEFT HALF;2RIGHT HALF;1CONJOINING MACRON;1LIGATURE LEFT HALF BELOW
FE28 0COMBINING LIGATURE RIGHT HALF BELOW;1TILDE LEFT HALF BELOW;2RIGHT HALF BELOW
FE2B 0COMBINING MACRON LEFT HALF BELOW;2RIGHT HALF BELOW;1CONJOINING MACRON BELOW
FE2E 0COMBINING CYRILLIC TITLO LEFT HALF;3RIGHT HALF;0PRESENTATION FORM FOR VERTICAL TWO DOT LEADER
FE31 0PRESENTATION FORM FOR VERTICAL EM DASH;4EN DASH;4LOW LINE;4WAVY LOW LINE;4LEFT PARENTHESIS
FE36 0PRESENTATION FORM FOR VERTICAL RIGHT PARENTHESIS;4LEFT CURLY BRACKET;4RIGHT CURLY BRACKET
FE39 0PRESENTATION FORM FOR VERTICAL LEFT TORTOISE SHELL BRACKET;4RIGHT TORTOISE SHELL BRACKET
FE3B 0PRESENTATION FORM FOR VERTICAL LEFT BLACK LENTICULAR BRACKET;4RIGHT BLACK LENTICULAR BRACKET
FE3D 0PRESENTATION FORM FOR VERTICAL LEFT DOUBLE ANGLE BRACKET;4RIGHT DOUBLE ANGLE BRACKET
FE3F 0PRESENTATION FORM FOR VERTICAL LEFT ANGLE BRACKET;4RIGHT ANGLE BRACKET;4LEFT CORNER BRACKET
FE42 0PRESENTATION FORM FOR VERTICAL RIGHT CORNER BRACKET;4LEFT WHITE CORNER BRACKET
FE44 0PRESENTATION FORM FOR VERTICAL RIGHT WHITE CORNER BRACKET;0SESAME DOT;0WHITE SESAME DOT
FE47 0PRESENTATION FORM FOR VERTICAL LEFT SQUARE BRACKET;4RIGHT SQUARE BRACKET;0DASHED OVERLINE
FE4A 0CENTRELINE OVERLINE;0WAVY OVERLINE;0DOUBLE WAVY OVERLINE;0DASHED LOW LINE
FE4E 0CENTRELINE LOW LINE;0WAVY LOW LINE;0SMALL COMMA;1IDEOGRAPHIC COMMA;1FULL STOP
FE54 0SMALL SEMICOLON;1COLON;1QUESTION MARK;1EXCLAMATION MARK;1EM DASH;1LEFT PARENTHESIS
FE5A 0SMALL RIGHT PARENTHESIS;1LEFT CURLY BRACKET;1RIGHT CURLY BRACKET;1LEFT TORTOISE SHELL BRACKET
FE5E 0SMALL RIGHT TORTOISE SHELL BRACKET;1NUMBER SIGN;1AMPERSAND;1ASTERISK;1PLUS SIGN;1HYPHEN-MINUS
FE64 0SMALL LESS-THAN SIGN;1GREATER-THAN SIGN;1EQUALS SIGN
FE68 0SMALL REVERSE SOLIDUS;1DOLLAR SIGN;1PERCENT SIGN;1COMMERCIAL AT
FE70 0ARABIC FATHATAN ISOLATED FORM;1TATWEEL WITH FATHATAN ABOVE;1DAMMATAN ISOLATED FORM
FE73 0ARABIC TAIL FRAGMENT;1KASRATAN ISOLATED FORM
FE76 0ARABIC FATHA ISOLATED FORM;2MEDIAL FORM;1DAMMA ISOLATED FORM;2MEDIAL FORM
FE7A 0ARABIC KASRA ISOLATED FORM;2MEDIAL FORM;1SHADDA ISOLATED FORM;2MEDIAL FORM
FE7E 0ARABIC SUKUN ISOLATED FORM;2MEDIAL FORM;1LETTER HAMZA ISOLATED FORM
FE81 0ARABIC LETTER ALEF WITH MADDA ABOVE ISOLATED FORM;6FINAL FORM;4HAMZA ABOVE ISOLATED FORM
FE84 0ARABIC LETTER ALEF WITH HAMZA ABOVE FINAL FORM;2WAW WITH HAMZA ABOVE ISOLATED FORM
FE86 0ARABIC LETTER WAW WITH HAMZA ABOVE FINAL FORM;2ALEF WITH HAMZA BELOW ISOLATED FORM
FE88 0ARABIC LETTER ALEF WITH HAMZA BELOW FINAL FORM;2YEH WITH HAMZA ABOVE ISOLATED FORM
FE8A 0ARABIC LETTER YEH WITH HAMZA ABOVE FINAL FORM;6INITIAL FORM;6MEDIAL FORM;2ALEF ISOLATED FORM
FE8E 0ARABIC LETTER ALEF FINAL FORM;2BEH ISOLATED FORM;3FINAL FORM;3INITIAL FORM;3MEDIAL FORM
FE93 0ARABIC LETTER TEH MARBUTA ISOLATED FORM;4FINAL FORM;3ISOLATED FORM;3FINAL FORM;3INITIAL FORM
FE98 0ARABIC LETTER TEH MEDIAL FORM;2THEH ISOLATED FORM;3FINAL FORM;3INITIAL FORM;3MEDIAL FORM
FE9D 0ARABIC LETTER JEEM ISOLATED FORM;3FINAL FORM;3INITIAL FORM;3MEDIAL FORM;2HAH ISOLATED FORM
FEA2 0ARABIC LETTER HAH FINAL FORM;3INITIAL FORM;3MEDIAL FORM;2KHAH ISOLATED FORM;3FINAL FORM
FEA7 0ARABIC LETTER KHAH INITIAL FORM;3MEDIAL FORM;2DAL ISOLATED FORM;3FINAL FORM
FEAB 0ARABIC LETTER THAL ISOLATED FORM;3FINAL FORM;2REH ISOLATED FORM;3FINAL FORM
FEAF 0ARABIC LETTER ZAIN ISOLATED FORM;3FINAL FORM;2SEEN ISOLATED FORM;3FINAL FORM;3INITIAL FORM
FEB4 0ARABIC LETTER SEEN MEDIAL FORM;2SHEEN ISOLATED FORM;3FINAL FORM;3INITIAL FORM;3MEDIAL FORM
FEB9 0ARABIC LETTER SAD ISOLATED FORM;3FINAL FORM;3INITIAL FORM;3MEDIAL FORM;2DAD ISOLATED FORM
FEBE 0ARABIC LETTER DAD FINAL FORM;3INITIAL FORM;3MEDIAL FORM;2TAH ISOLATED FORM;3FINAL FORM
FEC3 0ARABIC LETTER TAH INITIAL FORM;3MEDIAL FORM;2ZAH ISOLATED FORM;3FINAL FORM;3INITIAL FORM
FEC8 0ARABIC LETTER ZAH MEDIAL FORM;2AIN ISOLATED FORM;3FINAL FORM;3INITIAL FORM;3MEDIAL FORM
FECD 0ARABIC LETTER GHAIN ISOLATED FORM;3FINAL FORM;3INITIAL FORM;3MEDIAL FORM;2FEH ISOLATED FORM
FED2 0ARABIC LETTER FEH FINAL FORM;3INITIAL FORM;3MEDIAL FORM;2QAF ISOLATED FORM;3FINAL FORM
FED7 0ARABIC LETTER QAF INITIAL FORM;3MEDIAL FORM;2KAF ISOLATED FORM;3FINAL FORM;3INITIAL FORM
FEDC 0ARABIC LETTER KAF MEDIAL FORM;2LAM ISOLATED FORM;3FINAL FORM;3INITIAL FORM;3MEDIAL FORM
FEE1 0ARABIC LETTER MEEM ISOLATED FORM;3FINAL FORM;3INITIAL FORM;3MEDIAL FORM;2NOON ISOLATED FORM
FEE6 0ARABIC LETTER NOON FINAL FORM;3INITIAL FORM;3MEDIAL FORM;2HEH ISOLATED FORM;3FINAL FORM
FEEB 0ARABIC LETTER HEH INITIAL FORM;3MEDIAL FORM;2WAW ISOLATED FORM;3FINAL FORM
FEEF 0ARABIC LETTER ALEF MAKSURA ISOLATED FORM;4FINAL FORM;2YEH ISOLATED FORM;3FINAL FORM
FEF3 0ARABIC LETTER YEH INITIAL FORM;3MEDIAL FORM
FEF5 0ARABIC LIGATURE LAM WITH ALEF WITH MADDA ABOVE ISOLATED FORM;8FINAL FORM
FEF7 0ARABIC LIGATURE LAM WITH ALEF WITH HAMZA ABOVE ISOLATED FORM;8FINAL FORM;7BELOW ISOLATED FORM
FEFA 0ARABIC LIGATURE LAM WITH ALEF WITH HAMZA BELOW FINAL FORM;5ISOLATED FORM;5FINAL FORM
FEFF 0ZERO WIDTH NO-BREAK SPACE
FF01 0FULLWIDTH EXCLAMATION MARK;1QUOTATION MARK;1NUMBER SIGN;1DOLLAR SIGN;1PERCENT SIGN;1AMPERSAND
FF07 0FULLWIDTH APOSTROPHE;1LEFT PARENTHESIS;1RIGHT PARENTHESIS;1ASTERISK;1PLUS SIGN;1COMMA
FF0D 0FULLWIDTH HYPHEN-MINUS;1FULL STOP;1SOLIDUS;1DIGIT ZERO;2ONE;2TWO;2THREE;2FOUR;2FIVE;2SIX
FF17 0FULLWIDTH DIGIT SEVEN;2EIGHT;2NINE;1COLON;1SEMICOLON;1LESS-THAN SIGN;1EQUALS SIGN
FF1E 0FULLWIDTH GREATER-THAN SIGN;1QUESTION MARK;1COMMERCIAL AT;1LATIN CAPITAL LETTER A;4B;4C;4D;4E
FF26 0FULLWIDTH LATIN CAPITAL LETTER F;4G;4H;4I;4J;4K;4L;4M;4N;4O;4P;4Q;4R;4S;4T;4U;4V;4W;4X;4Y;4Z
FF3B 0FULLWIDTH LEFT SQUARE BRACKET;1REVERSE SOLIDUS;1RIGHT SQUARE BRACKET;1CIRCUMFLEX ACCENT
FF3F 0FULLWIDTH LOW LINE;1GRAVE ACCENT;1LATIN SMALL LETTER A;4B;4C;4D;4E;4F;4G;4H;4I;4J;4K;4L;4M;4N
FF4F 0FULLWIDTH LATIN SMALL LETTER O;4P;4Q;4R;4S;4T;4U;4V;4W;4X;4Y;4Z;1LEFT CURLY BRACKET
FF5C 0FULLWIDTH VERTICAL LINE;1RIGHT CURLY BRACKET;1TILDE;1LEFT WHITE PARENTHESIS
FF60 0FULLWIDTH RIGHT WHITE PARENTHESIS;0HALFWIDTH IDEOGRAPHIC FULL STOP;1LEFT CORNER BRACKET
FF63 0HALFWIDTH RIGHT CORNER BRACKET;1IDEOGRAPHIC COMMA;1KATAKANA MIDDLE DOT;2LETTER WO;3SMALL A;4I
FF69 0HALFWIDTH KATAKANA LETTER SMALL U;4E;4O;4YA;4YU;4YO;4TU
FF70 0HALFWIDTH KATAKANA-HIRAGANA PROLONGED SOUND MARK;1KATAKANA LETTER A;3I;3U;3E;3O;3KA;3KI;3KU
FF79 0HALFWIDTH KATAKANA LETTER KE;3KO;3SA;3SI;3SU;3SE;3SO;3TA;3TI;3TU;3TE;3TO;3NA;3NI;3NU;3NE;3NO
FF8A 0HALFWIDTH KATAKANA LETTER HA;3HI;3HU;3HE;3HO;3MA;3MI;3MU;3ME;3MO;3YA;3YU;3YO;3RA;3RI;3RU;3RE
FF9B 0HALFWIDTH KATAKANA LETTER RO;3WA;3N;2VOICED SOUND MARK;2SEMI-VOICED SOUND MARK;1HANGUL FILLER
FFA1 0HALFWIDTH HANGUL LETTER KIYEOK;3SSANGKIYEOK;3KIYEOK-SIOS;3NIEUN;3NIEUN-CIEUC;3NIEUN-HIEUH
FFA7 0HALFWIDTH HANGUL LETTER TIKEUT;3SSANGTIKEUT;3RIEUL;3RIEUL-KIYEOK;3RIEUL-MIEUM;3RIEUL-PIEUP
FFAD 0HALFWIDTH HANGUL LETTER RIEUL-SIOS;3RIEUL-THIEUTH;3RIEUL-PHIEUPH;3RIEUL-HIEUH;3MIEUM;3PIEUP
FFB3 0HALFWIDTH HANGUL LETTER SSANGPIEUP;3PIEUP-SIOS;3SIOS;3SSANGSIOS;3IEUNG;3CIEUC;3SSANGCIEUC
FFBA 0HALFWIDTH HANGUL LETTER CHIEUCH;3KHIEUKH;3THIEUTH;3PHIEUPH;3HIEUH
FFC2 0HALFWIDTH HANGUL LETTER A;3AE;3YA;3YAE;3EO;3E
FFCA 0HALFWIDTH HANGUL LETTER YEO;3YE;3O;3WA;3WAE;3OE
FFD2 0HALFWIDTH HANGUL LETTER YO;3U;3WEO;3WE;3WI;3YU
FFDA 0HALFWIDTH HANGUL LETTER EU;3YI;3I
FFE0 0FULLWIDTH CENT SIGN;1POUND SIGN;1NOT SIGN;1MACRON;1BROKEN BAR;1YEN SIGN;1WON SIGN
FFE8 0HALFWIDTH FORMS LIGHT VERTICAL;1LEFTWARDS ARROW;1UPWARDS ARROW;1RIGHTWARDS ARROW
FFEC 0HALFWIDTH DOWNWARDS ARROW;1BLACK SQUARE;1WHITE CIRCLE
FFF9 0INTERLINEAR ANNOTATION ANCHOR;2SEPARATOR;2TERMINATOR;0OBJECT REPLACEMENT CHARACTER
FFFD 0REPLACEMENT CHARACTER"

end PlaybookLint.Text.CharacterName
