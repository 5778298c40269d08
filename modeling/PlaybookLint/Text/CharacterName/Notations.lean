/-!
Names of characters from U+1C000 to U+1EFFF: musical, mathematical and sign notations. A row begins
with the number of its first character in hexadecimal. The names of the characters from there on
follow, divided by semicolons; the digit before a name tells how many words it shares with the name
before it.
-/

namespace PlaybookLint.Text.CharacterName

/-- The rows of names from U+1C000 to U+1EFFF. -/
def notations : String :=
  "1CF00 0ZNAMENNY COMBINING MARK GORAZDO NIZKO S KRYZHEM ON LEFT;3NIZKO S KRYZHEM ON LEFT
1CF02 0ZNAMENNY COMBINING MARK TSATA ON LEFT;3GORAZDO NIZKO ON LEFT;3NIZKO ON LEFT;3SREDNE ON LEFT
1CF06 0ZNAMENNY COMBINING MARK MALO POVYSHE ON LEFT;3POVYSHE ON LEFT;3VYSOKO ON LEFT
1CF09 0ZNAMENNY COMBINING MARK MALO POVYSHE S KHOKHLOM ON LEFT;3POVYSHE S KHOKHLOM ON LEFT
1CF0B 0ZNAMENNY COMBINING MARK VYSOKO S KHOKHLOM ON LEFT;3GORAZDO NIZKO S KRYZHEM ON RIGHT
1CF0D 0ZNAMENNY COMBINING MARK NIZKO S KRYZHEM ON RIGHT;3TSATA ON RIGHT;3GORAZDO NIZKO ON RIGHT
1CF10 0ZNAMENNY COMBINING MARK NIZKO ON RIGHT;3SREDNE ON RIGHT;3MALO POVYSHE ON RIGHT
1CF13 0ZNAMENNY COMBINING MARK POVYSHE ON RIGHT;3VYSOKO ON RIGHT;3MALO POVYSHE S KHOKHLOM ON RIGHT
1CF16 0ZNAMENNY COMBINING MARK POVYSHE S KHOKHLOM ON RIGHT;3VYSOKO S KHOKHLOM ON RIGHT
1CF18 0ZNAMENNY COMBINING MARK TSATA S KRYZHEM;3MALO POVYSHE S KRYZHEM;3STRANNO MALO POVYSHE
1CF1B 0ZNAMENNY COMBINING MARK POVYSHE S KRYZHEM;4STRANNO;3VYSOKO S KRYZHEM;3MALO POVYSHE STRANNO
1CF1F 0ZNAMENNY COMBINING MARK GORAZDO VYSOKO;3ZELO;3ON;3RAVNO;3TIKHAYA;3BORZAYA;3UDARKA;3PODVERTKA
1CF27 0ZNAMENNY COMBINING MARK LOMKA;3KUPNAYA;3KACHKA;3ZEVOK;3SKOBA;3RAZSEKA;3KRYZH ON LEFT
1CF30 0ZNAMENNY COMBINING TONAL RANGE MARK MRACHNO;5SVETLO;5TRESVETLO;2MARK ZADERZHKA
1CF34 0ZNAMENNY COMBINING MARK DEMESTVENNY ZADERZHKA;3OTSECHKA;3PODCHASHIE;4WITH VERTICAL STROKE
1CF38 0ZNAMENNY COMBINING MARK CHASHKA;4POLNAYA;3OBLACHKO;3SOROCHYA NOZHKA;3TOCHKA;3DVOETOCHIE
1CF3E 0ZNAMENNY COMBINING ATTACHING VERTICAL OMET;2MARK CURVED OMET;3KRYZH
1CF41 0ZNAMENNY COMBINING LOWER TONAL RANGE INDICATOR;1PRIZNAK MODIFIER LEVEL-2;3LEVEL-3
1CF44 0ZNAMENNY PRIZNAK MODIFIER DIRECTION FLIP;3KRYZH;3ROG
1CF50 0ZNAMENNY NEUME KRYUK;3TIKHY;2PARAKLIT;2DVA V CHELNU;2KLYUCH;2ZANOZHEK;2STOPITSA;3S OCHKOM
1CF58 0ZNAMENNY NEUME PEREVODKA;3NEPOSTOYANNAYA;2STOPITSA WITH SOROCHYA NOZHKA;2CHELYUSTKA;2PALKA
1CF5D 0ZNAMENNY NEUME ZAPYATAYA;2GOLUBCHIK BORZY;3TIKHY;3MRACHNY;3SVETLY;3TRESVETLY
1CF63 0ZNAMENNY NEUME VRAKHIYA PROSTAYA;3MRACHNAYA;3SVETLAYA;3TRESVETLAYA;3KLYUCHEVAYA PROSTAYA
1CF68 0ZNAMENNY NEUME VRAKHIYA KLYUCHEVAYA MRACHNAYA;4SVETLAYA;4TRESVETLAYA;2DOUBLE ZAPYATAYA
1CF6C 0ZNAMENNY NEUME REVERSED CHELYUSTKA;2DERBITSA;2KHAMILO;2CHASHKA;2PODCHASHIE
1CF71 0ZNAMENNY NEUME SKAMEYTSA MRACHNAYA;3SVETLAYA;3TRESVETLAYA;3TIKHAYA;2DEMESTVENNY KLYUCH
1CF76 0ZNAMENNY NEUME SKAMEYTSA KLYUCHEVAYA SVETLAYA;3KLYUCHENEPOSTOYANNAYA;3KLYUCHEVAYA TIKHAYA
1CF79 0ZNAMENNY NEUME SKAMEYTSA DVOECHELNAYA PROSTAYA;4SVETLAYA;4NEPOSTOYANNAYA;4KLYUCHEVAYA
1CF7D 0ZNAMENNY NEUME SLOZHITIE;3S ZAPYATOY;3ZAKRYTOE;3S KRYZHEM;2KRYZH;2ROG;2FITA;2KOBYLA;2ZMEYTSA
1CF86 0ZNAMENNY NEUME STATYA;3S ZAPYATOY;4KRYZHEM;4ZAPYATOY I KRYZHEM;4KRYZHEM I ZAPYATOY
1CF8B 0ZNAMENNY NEUME STATYA ZAKRYTAYA;4S ZAPYATOY;3S ROGOM;4DVUMYA ZAPYATYMI
1CF8F 0ZNAMENNY NEUME STATYA S ZAPYATOY I PODCHASHIEM;2POLKULIZMY;2STATYA NEPOSTOYANNAYA
1CF92 0ZNAMENNY NEUME STRELA PROSTAYA;3MRACHNOTIKHAYA;3KRYZHEVAYA;3POLUPOVODNAYA;3POVODNAYA
1CF97 0ZNAMENNY NEUME STRELA NEPOSTOYANNAYA;3KLYUCHEPOVODNAYA;3KLYUCHENEPOSTOYANNAYA
1CF9A 0ZNAMENNY NEUME STRELA TIKHAYA PUTNAYA;3DVOECHELNAYA;3DVOECHELNOKRYZHEVAYA
1CF9D 0ZNAMENNY NEUME STRELA DVOECHELNOPOVODNAYA;3DVOECHELNAYA KLYUCHEVAYA
1CF9F 0ZNAMENNY NEUME STRELA DVOECHELNOPOVODNAYA KLYUCHEVAYA;3GROMNAYA WITH SINGLE ZAPYATAYA
1CFA1 0ZNAMENNY NEUME STRELA GROMOPOVODNAYA WITH SINGLE ZAPYATAYA;3GROMNAYA;3GROMOPOVODNAYA
1CFA4 0ZNAMENNY NEUME STRELA GROMOPOVODNAYA WITH DOUBLE ZAPYATAYA;3GROMOKRYZHEVAYA;4POVODNAYA
1CFA7 0ZNAMENNY NEUME MECHIK;3POVODNY;3KLYUCHEVOY;3KLYUCHEPOVODNY;3KLYUCHENEPOSTOYANNY
1CFAC 0ZNAMENNY NEUME STRELA TRYASOGLASNAYA;3TRYASOPOVODNAYA;3TRYASOSTRELNAYA;2OSOKA;3SVETLAYA
1CFB1 0ZNAMENNY NEUME OSOKA TRESVETLAYA;3KRYUKOVAYA SVETLAYA;3KLYUCHEVAYA SVETLAYA;4NEPOSTOYANNAYA
1CFB5 0ZNAMENNY NEUME STRELA KRYUKOVAYA;4POVODNAYA;4GROMNAYA WITH SINGLE ZAPYATAYA
1CFB8 0ZNAMENNY NEUME STRELA KRYUKOVAYA GROMOPOVODNAYA WITH SINGLE ZAPYATAYA;4GROMNAYA
1CFBA 0ZNAMENNY NEUME STRELA KRYUKOVAYA GROMOPOVODNAYA;5WITH DOUBLE ZAPYATAYA;4GROMOKRYZHEVAYA
1CFBD 0ZNAMENNY NEUME STRELA KRYUKOVAYA GROMOKRYZHEVAYA POVODNAYA;4TRYASKA;2KUFISMA;2OBLAKO;2DUDA
1CFC2 0ZNAMENNY NEUME NEMKA;2PAUK
1D000 0BYZANTINE MUSICAL SYMBOL PSILI;3DASEIA;3PERISPOMENI;3OXEIA EKFONITIKON;4DIPLI
1D005 0BYZANTINE MUSICAL SYMBOL VAREIA EKFONITIKON;4DIPLI;3KATHISTI;3SYRMATIKI;3PARAKLITIKI
1D00A 0BYZANTINE MUSICAL SYMBOL YPOKRISIS;4DIPLI;3KREMASTI;3APESO EKFONITIKON;3EXO EKFONITIKON
1D00F 0BYZANTINE MUSICAL SYMBOL TELEIA;3KENTIMATA;3APOSTROFOS;4DIPLI;3SYNEVMA;3THITA
1D015 0BYZANTINE MUSICAL SYMBOL OLIGON ARCHAION;3GORGON ARCHAION;3PSILON;3CHAMILON;3VATHY
1D01A 0BYZANTINE MUSICAL SYMBOL ISON ARCHAION;3KENTIMA ARCHAION;3KENTIMATA ARCHAION;3SAXIMATA
1D01E 0BYZANTINE MUSICAL SYMBOL PARICHON;3STAVROS APODEXIA;3OXEIAI ARCHAION;3VAREIAI ARCHAION
1D022 0BYZANTINE MUSICAL SYMBOL APODERMA ARCHAION;3APOTHEMA;3KLASMA;3REVMA;3PIASMA ARCHAION
1D027 0BYZANTINE MUSICAL SYMBOL TINAGMA;3ANATRICHISMA;3SEISMA;3SYNAGMA ARCHAION;4META STAVROU
1D02C 0BYZANTINE MUSICAL SYMBOL OYRANISMA ARCHAION;3THEMA;3LEMOI;3DYO;3TRIA;3TESSERA;3KRATIMATA
1D033 0BYZANTINE MUSICAL SYMBOL APESO EXO NEO;3FTHORA ARCHAION;3IMIFTHORA;3TROMIKON ARCHAION
1D037 0BYZANTINE MUSICAL SYMBOL KATAVA TROMIKON;3PELASTON;3PSIFISTON;3KONTEVMA;3CHOREVMA ARCHAION
1D03C 0BYZANTINE MUSICAL SYMBOL RAPISMA;3PARAKALESMA ARCHAION;3PARAKLITIKI ARCHAION;3ICHADIN;3NANA
1D041 0BYZANTINE MUSICAL SYMBOL PETASMA;3KONTEVMA ALLO;3TROMIKON ALLO;3STRAGGISMATA;3GRONTHISMATA
1D046 0BYZANTINE MUSICAL SYMBOL ISON NEO;3OLIGON NEO;3OXEIA NEO;3PETASTI;3KOUFISMA;3PETASTOKOUFISMA
1D04C 0BYZANTINE MUSICAL SYMBOL KRATIMOKOUFISMA;3PELASTON NEO;3KENTIMATA NEO ANO;3KENTIMA NEO ANO
1D050 0BYZANTINE MUSICAL SYMBOL YPSILI;3APOSTROFOS NEO;3APOSTROFOI SYNDESMOS NEO;3YPORROI
1D054 0BYZANTINE MUSICAL SYMBOL KRATIMOYPORROON;3ELAFRON;3CHAMILI;3MIKRON ISON;3VAREIA NEO
1D059 0BYZANTINE MUSICAL SYMBOL PIASMA NEO;3PSIFISTON NEO;3OMALON;3ANTIKENOMA;3LYGISMA
1D05E 0BYZANTINE MUSICAL SYMBOL PARAKLITIKI NEO;3PARAKALESMA NEO;3ETERON PARAKALESMA;3KYLISMA
1D062 0BYZANTINE MUSICAL SYMBOL ANTIKENOKYLISMA;3TROMIKON NEO;3EKSTREPTON;3SYNAGMA NEO;3SYRMA
1D067 0BYZANTINE MUSICAL SYMBOL CHOREVMA NEO;3EPEGERMA;3SEISMA NEO;3XIRON KLASMA;3TROMIKOPSIFISTON
1D06C 0BYZANTINE MUSICAL SYMBOL PSIFISTOLYGISMA;3TROMIKOLYGISMA;3TROMIKOPARAKALESMA
1D06F 0BYZANTINE MUSICAL SYMBOL PSIFISTOPARAKALESMA;3TROMIKOSYNAGMA;3PSIFISTOSYNAGMA
1D072 0BYZANTINE MUSICAL SYMBOL GORGOSYNTHETON;3ARGOSYNTHETON;3ETERON ARGOSYNTHETON;3OYRANISMA NEO
1D076 0BYZANTINE MUSICAL SYMBOL THEMATISMOS ESO;4EXO;3THEMA APLOUN;3THES KAI APOTHES;3KATAVASMA
1D07B 0BYZANTINE MUSICAL SYMBOL ENDOFONON;3YFEN KATO;4ANO;3STAVROS;3KLASMA ANO;3DIPLI ARCHAION
1D081 0BYZANTINE MUSICAL SYMBOL KRATIMA ARCHAION;4ALLO;4NEO;3APODERMA NEO;3APLI;3DIPLI;3TRIPLI
1D088 0BYZANTINE MUSICAL SYMBOL TETRAPLI;3KORONIS;3LEIMMA ENOS CHRONOU;4DYO CHRONON;4TRION CHRONON
1D08D 0BYZANTINE MUSICAL SYMBOL LEIMMA TESSARON CHRONON;4IMISEOS CHRONOU;3GORGON NEO ANO
1D090 0BYZANTINE MUSICAL SYMBOL GORGON PARESTIGMENON ARISTERA;5DEXIA;3DIGORGON
1D093 0BYZANTINE MUSICAL SYMBOL DIGORGON PARESTIGMENON ARISTERA KATO;6ANO;5DEXIA;3TRIGORGON;3ARGON
1D098 0BYZANTINE MUSICAL SYMBOL IMIDIARGON;3DIARGON;3AGOGI POLI ARGI;4ARGOTERI;4ARGI;4METRIA;4MESI
1D09F 0BYZANTINE MUSICAL SYMBOL AGOGI GORGI;4GORGOTERI;4POLI GORGI;3MARTYRIA PROTOS ICHOS
1D0A3 0BYZANTINE MUSICAL SYMBOL MARTYRIA ALLI PROTOS ICHOS;4DEYTEROS ICHOS;4ALLI DEYTEROS ICHOS
1D0A6 0BYZANTINE MUSICAL SYMBOL MARTYRIA TRITOS ICHOS;4TRIFONIAS;4TETARTOS ICHOS;5LEGETOS ICHOS
1D0AA 0BYZANTINE MUSICAL SYMBOL MARTYRIA LEGETOS ICHOS;4PLAGIOS ICHOS;3ISAKIA TELOUS ICHIMATOS
1D0AD 0BYZANTINE MUSICAL SYMBOL APOSTROFOI TELOUS ICHIMATOS;3FANEROSIS TETRAFONIAS;4MONOFONIAS
1D0B0 0BYZANTINE MUSICAL SYMBOL FANEROSIS DIFONIAS;3MARTYRIA VARYS ICHOS;4PROTOVARYS ICHOS
1D0B3 0BYZANTINE MUSICAL SYMBOL MARTYRIA PLAGIOS TETARTOS ICHOS;3GORTHMIKON N APLOUN;5DIPLOUN
1D0B6 0BYZANTINE MUSICAL SYMBOL ENARXIS KAI FTHORA VOU;3IMIFONON;3IMIFTHORON
1D0B9 0BYZANTINE MUSICAL SYMBOL FTHORA ARCHAION DEYTEROU ICHOU;4DIATONIKI PA;5NANA;4NAOS ICHOS
1D0BD 0BYZANTINE MUSICAL SYMBOL FTHORA DIATONIKI DI;4SKLIRON DIATONON DI;4DIATONIKI KE;5ZO;5NI KATO
1D0C2 0BYZANTINE MUSICAL SYMBOL FTHORA DIATONIKI NI ANO;4MALAKON CHROMA DIFONIAS;6MONOFONIAS
1D0C5 0BYZANTINE MUSICAL SYMBOL FHTORA SKLIRON CHROMA VASIS;3FTHORA SKLIRON CHROMA SYNAFI;4NENANO
1D0C8 0BYZANTINE MUSICAL SYMBOL CHROA ZYGOS;4KLITON;4SPATHI;3FTHORA I YFESIS TETARTIMORION
1D0CC 0BYZANTINE MUSICAL SYMBOL FTHORA ENARMONIOS ANTIFONIA;3YFESIS TRITIMORION;3DIESIS TRITIMORION
1D0CF 0BYZANTINE MUSICAL SYMBOL DIESIS TETARTIMORION;4APLI DYO DODEKATA
1D0D1 0BYZANTINE MUSICAL SYMBOL DIESIS MONOGRAMMOS TESSERA DODEKATA;4DIGRAMMOS EX DODEKATA
1D0D3 0BYZANTINE MUSICAL SYMBOL DIESIS TRIGRAMMOS OKTO DODEKATA;3YFESIS APLI DYO DODEKATA
1D0D5 0BYZANTINE MUSICAL SYMBOL YFESIS MONOGRAMMOS TESSERA DODEKATA;4DIGRAMMOS EX DODEKATA
1D0D7 0BYZANTINE MUSICAL SYMBOL YFESIS TRIGRAMMOS OKTO DODEKATA;3GENIKI DIESIS;4YFESIS
1D0DA 0BYZANTINE MUSICAL SYMBOL DIASTOLI APLI MIKRI;5MEGALI;4DIPLI;4THESEOS;3SIMANSIS THESEOS
1D0DF 0BYZANTINE MUSICAL SYMBOL SIMANSIS THESEOS DISIMOU;5TRISIMOU;5TETRASIMOU;4ARSEOS;5DISIMOU
1D0E4 0BYZANTINE MUSICAL SYMBOL SIMANSIS ARSEOS TRISIMOU;5TETRASIMOU;3DIGRAMMA GG;3DIFTOGGOS OU
1D0E8 0BYZANTINE MUSICAL SYMBOL STIGMA;3ARKTIKO PA;4VOU;4GA;4DI;4KE;4ZO;4NI;3KENTIMATA NEO MESO
1D0F1 0BYZANTINE MUSICAL SYMBOL KENTIMA NEO MESO;3KENTIMATA NEO KATO;3KENTIMA NEO KATO;3KLASMA KATO
1D0F5 0BYZANTINE MUSICAL SYMBOL GORGON NEO KATO
1D100 0MUSICAL SYMBOL SINGLE BARLINE;2DOUBLE BARLINE;2FINAL BARLINE;2REVERSE FINAL BARLINE
1D104 0MUSICAL SYMBOL DASHED BARLINE;2SHORT BARLINE;2LEFT REPEAT SIGN;2RIGHT REPEAT SIGN
1D108 0MUSICAL SYMBOL REPEAT DOTS;2DAL SEGNO;2DA CAPO;2SEGNO;2CODA;2REPEATED FIGURE-1;3FIGURE-2
1D10F 0MUSICAL SYMBOL REPEATED FIGURE-3;2FERMATA;3BELOW;2BREATH MARK;2CAESURA;2BRACE;2BRACKET
1D116 0MUSICAL SYMBOL ONE-LINE STAFF;2TWO-LINE STAFF;2THREE-LINE STAFF;2FOUR-LINE STAFF
1D11A 0MUSICAL SYMBOL FIVE-LINE STAFF;2SIX-LINE STAFF;2SIX-STRING FRETBOARD;2FOUR-STRING FRETBOARD
1D11E 0MUSICAL SYMBOL G CLEF;4OTTAVA ALTA;5BASSA;2C CLEF;2F CLEF;4OTTAVA ALTA;5BASSA;2DRUM CLEF-1
1D126 0MUSICAL SYMBOL DRUM CLEF-2
1D129 0MUSICAL SYMBOL MULTIPLE MEASURE REST;2DOUBLE SHARP;3FLAT;2FLAT UP;3DOWN;2NATURAL UP;3DOWN
1D130 0MUSICAL SYMBOL SHARP UP;3DOWN;2QUARTER TONE SHARP;4FLAT;2COMMON TIME;2CUT TIME;2OTTAVA ALTA
1D137 0MUSICAL SYMBOL OTTAVA BASSA;2QUINDICESIMA ALTA;3BASSA;2MULTI REST;2WHOLE REST;2HALF REST
1D13D 0MUSICAL SYMBOL QUARTER REST;2EIGHTH REST;2SIXTEENTH REST;2THIRTY-SECOND REST
1D141 0MUSICAL SYMBOL SIXTY-FOURTH REST;2ONE HUNDRED TWENTY-EIGHTH REST;2X NOTEHEAD;2PLUS NOTEHEAD
1D145 0MUSICAL SYMBOL CIRCLE X NOTEHEAD;2SQUARE NOTEHEAD WHITE;4BLACK;2TRIANGLE NOTEHEAD UP WHITE
1D149 0MUSICAL SYMBOL TRIANGLE NOTEHEAD UP BLACK;4LEFT WHITE;5BLACK;4RIGHT WHITE;5BLACK;4DOWN WHITE
1D14F 0MUSICAL SYMBOL TRIANGLE NOTEHEAD DOWN BLACK;4UP RIGHT WHITE;6BLACK;2MOON NOTEHEAD WHITE
1D153 0MUSICAL SYMBOL MOON NOTEHEAD BLACK;2TRIANGLE-ROUND NOTEHEAD DOWN WHITE;5BLACK
1D156 0MUSICAL SYMBOL PARENTHESIS NOTEHEAD;2VOID NOTEHEAD;2NOTEHEAD BLACK;2NULL NOTEHEAD
1D15A 0MUSICAL SYMBOL CLUSTER NOTEHEAD WHITE;4BLACK;2BREVE;2WHOLE NOTE;2HALF NOTE;2QUARTER NOTE
1D160 0MUSICAL SYMBOL EIGHTH NOTE;2SIXTEENTH NOTE;2THIRTY-SECOND NOTE;2SIXTY-FOURTH NOTE
1D164 0MUSICAL SYMBOL ONE HUNDRED TWENTY-EIGHTH NOTE;2COMBINING STEM;3SPRECHGESANG STEM;3TREMOLO-1
1D168 0MUSICAL SYMBOL COMBINING TREMOLO-2;3TREMOLO-3;2FINGERED TREMOLO-1;3TREMOLO-2;3TREMOLO-3
1D16D 0MUSICAL SYMBOL COMBINING AUGMENTATION DOT;3FLAG-1;3FLAG-2;3FLAG-3;3FLAG-4;3FLAG-5
1D173 0MUSICAL SYMBOL BEGIN BEAM;2END BEAM;2BEGIN TIE;2END TIE;2BEGIN SLUR;2END SLUR;2BEGIN PHRASE
1D17A 0MUSICAL SYMBOL END PHRASE;2COMBINING ACCENT;3STACCATO;3TENUTO;3STACCATISSIMO;3MARCATO
1D180 0MUSICAL SYMBOL COMBINING MARCATO-STACCATO;3ACCENT-STACCATO;3LOURE;2ARPEGGIATO UP;3DOWN
1D185 0MUSICAL SYMBOL COMBINING DOIT;3RIP;3FLIP;3SMEAR;3BEND;3DOUBLE TONGUE;3TRIPLE TONGUE
1D18C 0MUSICAL SYMBOL RINFORZANDO;2SUBITO;2Z;2PIANO;2MEZZO;2FORTE;2CRESCENDO;2DECRESCENDO
1D194 0MUSICAL SYMBOL GRACE NOTE SLASH;4NO SLASH;2TR;2TURN;2INVERTED TURN;2TURN SLASH;3UP
1D19B 0MUSICAL SYMBOL ORNAMENT STROKE-1;3STROKE-2;3STROKE-3;3STROKE-4;3STROKE-5;3STROKE-6;3STROKE-7
1D1A2 0MUSICAL SYMBOL ORNAMENT STROKE-8;3STROKE-9;3STROKE-10;3STROKE-11;2HAUPTSTIMME;2NEBENSTIMME
1D1A8 0MUSICAL SYMBOL END OF STIMME;2DEGREE SLASH;2COMBINING DOWN BOW;3UP BOW;3HARMONIC
1D1AD 0MUSICAL SYMBOL COMBINING SNAP PIZZICATO;2PEDAL MARK;3UP MARK;2HALF PEDAL MARK;2GLISSANDO UP
1D1B2 0MUSICAL SYMBOL GLISSANDO DOWN;2WITH FINGERNAILS;2DAMP;3ALL;2MAXIMA;2LONGA;2BREVIS
1D1B9 0MUSICAL SYMBOL SEMIBREVIS WHITE;3BLACK;2MINIMA;3BLACK;2SEMIMINIMA WHITE;3BLACK;2FUSA WHITE
1D1C0 0MUSICAL SYMBOL FUSA BLACK;2LONGA PERFECTA REST;3IMPERFECTA REST;2BREVIS REST
1D1C4 0MUSICAL SYMBOL SEMIBREVIS REST;2MINIMA REST;2SEMIMINIMA REST
1D1C7 0MUSICAL SYMBOL TEMPUS PERFECTUM CUM PROLATIONE PERFECTA;6IMPERFECTA;6PERFECTA DIMINUTION-1
1D1CA 0MUSICAL SYMBOL TEMPUS IMPERFECTUM CUM PROLATIONE PERFECTA;6IMPERFECTA;7DIMINUTION-1
1D1CD 0MUSICAL SYMBOL TEMPUS IMPERFECTUM CUM PROLATIONE IMPERFECTA DIMINUTION-2;7DIMINUTION-3
1D1CF 0MUSICAL SYMBOL CROIX;2GREGORIAN C CLEF;3F CLEF;2SQUARE B;2VIRGA;2PODATUS;2CLIVIS;2SCANDICUS
1D1D7 0MUSICAL SYMBOL CLIMACUS;2TORCULUS;2PORRECTUS;3FLEXUS;2SCANDICUS FLEXUS;2TORCULUS RESUPINUS
1D1DD 0MUSICAL SYMBOL PES SUBPUNCTIS;2KIEVAN C CLEF;3END OF PIECE;3FINAL NOTE;3RECITATIVE MARK
1D1E2 0MUSICAL SYMBOL KIEVAN WHOLE NOTE;3HALF NOTE;3QUARTER NOTE STEM DOWN;6UP
1D1E6 0MUSICAL SYMBOL KIEVAN EIGHTH NOTE STEM DOWN;6UP;3FLAT SIGN;2SORI;2KORON
1D200 0GREEK VOCAL NOTATION SYMBOL-1;3SYMBOL-2;3SYMBOL-3;3SYMBOL-4;3SYMBOL-5;3SYMBOL-6;3SYMBOL-7
1D207 0GREEK VOCAL NOTATION SYMBOL-8;3SYMBOL-9;3SYMBOL-10;3SYMBOL-11;3SYMBOL-12;3SYMBOL-13
1D20D 0GREEK VOCAL NOTATION SYMBOL-14;3SYMBOL-15;3SYMBOL-16;3SYMBOL-17;3SYMBOL-18;3SYMBOL-19
1D213 0GREEK VOCAL NOTATION SYMBOL-20;3SYMBOL-21;3SYMBOL-22;3SYMBOL-23;3SYMBOL-24;3SYMBOL-50
1D219 0GREEK VOCAL NOTATION SYMBOL-51;3SYMBOL-52;3SYMBOL-53;3SYMBOL-54
1D21D 0GREEK INSTRUMENTAL NOTATION SYMBOL-1;3SYMBOL-2;3SYMBOL-4;3SYMBOL-5;3SYMBOL-7;3SYMBOL-8
1D223 0GREEK INSTRUMENTAL NOTATION SYMBOL-11;3SYMBOL-12;3SYMBOL-13;3SYMBOL-14;3SYMBOL-17;3SYMBOL-18
1D229 0GREEK INSTRUMENTAL NOTATION SYMBOL-19;3SYMBOL-23;3SYMBOL-24;3SYMBOL-25;3SYMBOL-26;3SYMBOL-27
1D22F 0GREEK INSTRUMENTAL NOTATION SYMBOL-29;3SYMBOL-30;3SYMBOL-32;3SYMBOL-36;3SYMBOL-37;3SYMBOL-38
1D235 0GREEK INSTRUMENTAL NOTATION SYMBOL-39;3SYMBOL-40;3SYMBOL-42;3SYMBOL-43;3SYMBOL-45;3SYMBOL-47
1D23B 0GREEK INSTRUMENTAL NOTATION SYMBOL-48;3SYMBOL-49;3SYMBOL-50;3SYMBOL-51;3SYMBOL-52;3SYMBOL-53
1D241 0GREEK INSTRUMENTAL NOTATION SYMBOL-54;0COMBINING GREEK MUSICAL TRISEME;3TETRASEME;3PENTASEME
1D245 0GREEK MUSICAL LEIMMA
1D2E0 0MAYAN NUMERAL ZERO;2ONE;2TWO;2THREE;2FOUR;2FIVE;2SIX;2SEVEN;2EIGHT;2NINE;2TEN;2ELEVEN
1D2EC 0MAYAN NUMERAL TWELVE;2THIRTEEN;2FOURTEEN;2FIFTEEN;2SIXTEEN;2SEVENTEEN;2EIGHTEEN;2NINETEEN
1D300 0MONOGRAM FOR EARTH;0DIGRAM FOR HEAVENLY EARTH;2HUMAN EARTH;2EARTHLY HEAVEN;3HUMAN;2EARTH
1D306 0TETRAGRAM FOR CENTRE;2FULL CIRCLE;2MIRED;2BARRIER;2KEEPING SMALL;2CONTRARIETY;2ASCENT
1D30D 0TETRAGRAM FOR OPPOSITION;2BRANCHING OUT;2DEFECTIVENESS OR DISTORTION;2DIVERGENCE
1D311 0TETRAGRAM FOR YOUTHFULNESS;2INCREASE;2PENETRATION;2REACH;2CONTACT;2HOLDING BACK;2WAITING
1D318 0TETRAGRAM FOR FOLLOWING;2ADVANCE;2RELEASE;2RESISTANCE;2EASE;2JOY;2CONTENTION;2ENDEAVOUR
1D320 0TETRAGRAM FOR DUTIES;2CHANGE;2DECISIVENESS;2BOLD RESOLUTION;2PACKING;2LEGION;2CLOSENESS
1D327 0TETRAGRAM FOR KINSHIP;2GATHERING;2STRENGTH;2PURITY;2FULLNESS;2RESIDENCE;2LAW OR MODEL
1D32E 0TETRAGRAM FOR RESPONSE;2GOING TO MEET;2ENCOUNTERS;2STOVE;2GREATNESS;2ENLARGEMENT;2PATTERN
1D335 0TETRAGRAM FOR RITUAL;2FLIGHT;2VASTNESS OR WASTING;2CONSTANCY;2MEASURE;2ETERNITY;2UNITY
1D33C 0TETRAGRAM FOR DIMINISHMENT;2CLOSED MOUTH;2GUARDEDNESS;2GATHERING IN;2MASSING;2ACCUMULATION
1D342 0TETRAGRAM FOR EMBELLISHMENT;2DOUBT;2WATCH;2SINKING;2INNER;2DEPARTURE;2DARKENING;2DIMMING
1D34A 0TETRAGRAM FOR EXHAUSTION;2SEVERANCE;2STOPPAGE;2HARDNESS;2COMPLETION;2CLOSURE;2FAILURE
1D351 0TETRAGRAM FOR AGGRAVATION;2COMPLIANCE;2ON THE VERGE;2DIFFICULTIES;2LABOURING;2FOSTERING
1D360 0COUNTING ROD UNIT DIGIT ONE;4TWO;4THREE;4FOUR;4FIVE;4SIX;4SEVEN;4EIGHT;4NINE;2TENS DIGIT ONE
1D36A 0COUNTING ROD TENS DIGIT TWO;4THREE;4FOUR;4FIVE;4SIX;4SEVEN;4EIGHT;4NINE
1D372 0IDEOGRAPHIC TALLY MARK ONE;3TWO;3THREE;3FOUR;3FIVE;0TALLY MARK ONE;2FIVE
1D400 0MATHEMATICAL BOLD CAPITAL A;3B;3C;3D;3E;3F;3G;3H;3I;3J;3K;3L;3M;3N;3O;3P;3Q;3R;3S;3T;3U;3V
1D416 0MATHEMATICAL BOLD CAPITAL W;3X;3Y;3Z;2SMALL A;3B;3C;3D;3E;3F;3G;3H;3I;3J;3K;3L;3M;3N;3O;3P
1D42A 0MATHEMATICAL BOLD SMALL Q;3R;3S;3T;3U;3V;3W;3X;3Y;3Z;1ITALIC CAPITAL A;3B;3C;3D;3E;3F;3G;3H
1D43C 0MATHEMATICAL ITALIC CAPITAL I;3J;3K;3L;3M;3N;3O;3P;3Q;3R;3S;3T;3U;3V;3W;3X;3Y;3Z;2SMALL A;3B
1D450 0MATHEMATICAL ITALIC SMALL C;3D;3E;3F;3G
1D456 0MATHEMATICAL ITALIC SMALL I;3J;3K;3L;3M;3N;3O;3P;3Q;3R;3S;3T;3U;3V;3W;3X;3Y;3Z
1D468 0MATHEMATICAL BOLD ITALIC CAPITAL A;4B;4C;4D;4E;4F;4G;4H;4I;4J;4K;4L;4M;4N;4O;4P;4Q;4R;4S;4T
1D47C 0MATHEMATICAL BOLD ITALIC CAPITAL U;4V;4W;4X;4Y;4Z;3SMALL A;4B;4C;4D;4E;4F;4G;4H;4I;4J;4K;4L
1D48E 0MATHEMATICAL BOLD ITALIC SMALL M;4N;4O;4P;4Q;4R;4S;4T;4U;4V;4W;4X;4Y;4Z;1SCRIPT CAPITAL A
1D49E 0MATHEMATICAL SCRIPT CAPITAL C;3D
1D4A2 0MATHEMATICAL SCRIPT CAPITAL G
1D4A5 0MATHEMATICAL SCRIPT CAPITAL J;3K
1D4A9 0MATHEMATICAL SCRIPT CAPITAL N;3O;3P;3Q
1D4AE 0MATHEMATICAL SCRIPT CAPITAL S;3T;3U;3V;3W;3X;3Y;3Z;2SMALL A;3B;3C;3D
1D4BB 0MATHEMATICAL SCRIPT SMALL F
1D4BD 0MATHEMATICAL SCRIPT SMALL H;3I;3J;3K;3L;3M;3N
1D4C5 0MATHEMATICAL SCRIPT SMALL P;3Q;3R;3S;3T;3U;3V;3W;3X;3Y;3Z;1BOLD SCRIPT CAPITAL A;4B;4C;4D;4E
1D4D5 0MATHEMATICAL BOLD SCRIPT CAPITAL F;4G;4H;4I;4J;4K;4L;4M;4N;4O;4P;4Q;4R;4S;4T;4U;4V;4W;4X;4Y
1D4E9 0MATHEMATICAL BOLD SCRIPT CAPITAL Z;3SMALL A;4B;4C;4D;4E;4F;4G;4H;4I;4J;4K;4L;4M;4N;4O;4P;4Q
1D4FB 0MATHEMATICAL BOLD SCRIPT SMALL R;4S;4T;4U;4V;4W;4X;4Y;4Z;1FRAKTUR CAPITAL A;3B
1D507 0MATHEMATICAL FRAKTUR CAPITAL D;3E;3F;3G
1D50D 0MATHEMATICAL FRAKTUR CAPITAL J;3K;3L;3M;3N;3O;3P;3Q
1D516 0MATHEMATICAL FRAKTUR CAPITAL S;3T;3U;3V;3W;3X;3Y
1D51E 0MATHEMATICAL FRAKTUR SMALL A;3B;3C;3D;3E;3F;3G;3H;3I;3J;3K;3L;3M;3N;3O;3P;3Q;3R;3S;3T;3U;3V
1D534 0MATHEMATICAL FRAKTUR SMALL W;3X;3Y;3Z;1DOUBLE-STRUCK CAPITAL A;3B
1D53B 0MATHEMATICAL DOUBLE-STRUCK CAPITAL D;3E;3F;3G
1D540 0MATHEMATICAL DOUBLE-STRUCK CAPITAL I;3J;3K;3L;3M
1D546 0MATHEMATICAL DOUBLE-STRUCK CAPITAL O
1D54A 0MATHEMATICAL DOUBLE-STRUCK CAPITAL S;3T;3U;3V;3W;3X;3Y
1D552 0MATHEMATICAL DOUBLE-STRUCK SMALL A;3B;3C;3D;3E;3F;3G;3H;3I;3J;3K;3L;3M;3N;3O;3P;3Q;3R;3S;3T
1D566 0MATHEMATICAL DOUBLE-STRUCK SMALL U;3V;3W;3X;3Y;3Z;1BOLD FRAKTUR CAPITAL A;4B;4C;4D;4E;4F;4G
1D573 0MATHEMATICAL BOLD FRAKTUR CAPITAL H;4I;4J;4K;4L;4M;4N;4O;4P;4Q;4R;4S;4T;4U;4V;4W;4X;4Y;4Z
1D586 0MATHEMATICAL BOLD FRAKTUR SMALL A;4B;4C;4D;4E;4F;4G;4H;4I;4J;4K;4L;4M;4N;4O;4P;4Q;4R;4S;4T
1D59A 0MATHEMATICAL BOLD FRAKTUR SMALL U;4V;4W;4X;4Y;4Z;1SANS-SERIF CAPITAL A;3B;3C;3D;3E;3F;3G;3H
1D5A8 0MATHEMATICAL SANS-SERIF CAPITAL I;3J;3K;3L;3M;3N;3O;3P;3Q;3R;3S;3T;3U;3V;3W;3X;3Y;3Z
1D5BA 0MATHEMATICAL SANS-SERIF SMALL A;3B;3C;3D;3E;3F;3G;3H;3I;3J;3K;3L;3M;3N;3O;3P;3Q;3R;3S;3T;3U
1D5CF 0MATHEMATICAL SANS-SERIF SMALL V;3W;3X;3Y;3Z;2BOLD CAPITAL A;4B;4C;4D;4E;4F;4G;4H;4I;4J;4K;4L
1D5E0 0MATHEMATICAL SANS-SERIF BOLD CAPITAL M;4N;4O;4P;4Q;4R;4S;4T;4U;4V;4W;4X;4Y;4Z;3SMALL A;4B;4C
1D5F1 0MATHEMATICAL SANS-SERIF BOLD SMALL D;4E;4F;4G;4H;4I;4J;4K;4L;4M;4N;4O;4P;4Q;4R;4S;4T;4U;4V
1D604 0MATHEMATICAL SANS-SERIF BOLD SMALL W;4X;4Y;4Z;2ITALIC CAPITAL A;4B;4C;4D;4E;4F;4G;4H;4I;4J
1D612 0MATHEMATICAL SANS-SERIF ITALIC CAPITAL K;4L;4M;4N;4O;4P;4Q;4R;4S;4T;4U;4V;4W;4X;4Y;4Z
1D622 0MATHEMATICAL SANS-SERIF ITALIC SMALL A;4B;4C;4D;4E;4F;4G;4H;4I;4J;4K;4L;4M;4N;4O;4P;4Q;4R;4S
1D635 0MATHEMATICAL SANS-SERIF ITALIC SMALL T;4U;4V;4W;4X;4Y;4Z;2BOLD ITALIC CAPITAL A;5B;5C;5D;5E
1D641 0MATHEMATICAL SANS-SERIF BOLD ITALIC CAPITAL F;5G;5H;5I;5J;5K;5L;5M;5N;5O;5P;5Q;5R;5S;5T;5U
1D651 0MATHEMATICAL SANS-SERIF BOLD ITALIC CAPITAL V;5W;5X;5Y;5Z;4SMALL A;5B;5C;5D;5E;5F;5G;5H;5I
1D65F 0MATHEMATICAL SANS-SERIF BOLD ITALIC SMALL J;5K;5L;5M;5N;5O;5P;5Q;5R;5S;5T;5U;5V;5W;5X;5Y;5Z
1D670 0MATHEMATICAL MONOSPACE CAPITAL A;3B;3C;3D;3E;3F;3G;3H;3I;3J;3K;3L;3M;3N;3O;3P;3Q;3R;3S;3T;3U
1D685 0MATHEMATICAL MONOSPACE CAPITAL V;3W;3X;3Y;3Z;2SMALL A;3B;3C;3D;3E;3F;3G;3H;3I;3J;3K;3L;3M;3N
1D698 0MATHEMATICAL MONOSPACE SMALL O;3P;3Q;3R;3S;3T;3U;3V;3W;3X;3Y;3Z;1ITALIC SMALL DOTLESS I;4J
1D6A8 0MATHEMATICAL BOLD CAPITAL ALPHA;3BETA;3GAMMA;3DELTA;3EPSILON;3ZETA;3ETA;3THETA;3IOTA;3KAPPA
1D6B2 0MATHEMATICAL BOLD CAPITAL LAMDA;3MU;3NU;3XI;3OMICRON;3PI;3RHO;3THETA SYMBOL;3SIGMA;3TAU
1D6BC 0MATHEMATICAL BOLD CAPITAL UPSILON;3PHI;3CHI;3PSI;3OMEGA;2NABLA;2SMALL ALPHA;3BETA;3GAMMA
1D6C5 0MATHEMATICAL BOLD SMALL DELTA;3EPSILON;3ZETA;3ETA;3THETA;3IOTA;3KAPPA;3LAMDA;3MU;3NU;3XI
1D6D0 0MATHEMATICAL BOLD SMALL OMICRON;3PI;3RHO;3FINAL SIGMA;3SIGMA;3TAU;3UPSILON;3PHI;3CHI;3PSI
1D6DA 0MATHEMATICAL BOLD SMALL OMEGA;2PARTIAL DIFFERENTIAL;2EPSILON SYMBOL;2THETA SYMBOL
1D6DE 0MATHEMATICAL BOLD KAPPA SYMBOL;2PHI SYMBOL;2RHO SYMBOL;2PI SYMBOL;1ITALIC CAPITAL ALPHA
1D6E3 0MATHEMATICAL ITALIC CAPITAL BETA;3GAMMA;3DELTA;3EPSILON;3ZETA;3ETA;3THETA;3IOTA;3KAPPA
1D6EC 0MATHEMATICAL ITALIC CAPITAL LAMDA;3MU;3NU;3XI;3OMICRON;3PI;3RHO;3THETA SYMBOL;3SIGMA;3TAU
1D6F6 0MATHEMATICAL ITALIC CAPITAL UPSILON;3PHI;3CHI;3PSI;3OMEGA;2NABLA;2SMALL ALPHA;3BETA;3GAMMA
1D6FF 0MATHEMATICAL ITALIC SMALL DELTA;3EPSILON;3ZETA;3ETA;3THETA;3IOTA;3KAPPA;3LAMDA;3MU;3NU;3XI
1D70A 0MATHEMATICAL ITALIC SMALL OMICRON;3PI;3RHO;3FINAL SIGMA;3SIGMA;3TAU;3UPSILON;3PHI;3CHI;3PSI
1D714 0MATHEMATICAL ITALIC SMALL OMEGA;2PARTIAL DIFFERENTIAL;2EPSILON SYMBOL;2THETA SYMBOL
1D718 0MATHEMATICAL ITALIC KAPPA SYMBOL;2PHI SYMBOL;2RHO SYMBOL;2PI SYMBOL
1D71C 0MATHEMATICAL BOLD ITALIC CAPITAL ALPHA;4BETA;4GAMMA;4DELTA;4EPSILON;4ZETA;4ETA;4THETA;4IOTA
1D725 0MATHEMATICAL BOLD ITALIC CAPITAL KAPPA;4LAMDA;4MU;4NU;4XI;4OMICRON;4PI;4RHO;4THETA SYMBOL
1D72E 0MATHEMATICAL BOLD ITALIC CAPITAL SIGMA;4TAU;4UPSILON;4PHI;4CHI;4PSI;4OMEGA;3NABLA
1D736 0MATHEMATICAL BOLD ITALIC SMALL ALPHA;4BETA;4GAMMA;4DELTA;4EPSILON;4ZETA;4ETA;4THETA;4IOTA
1D73F 0MATHEMATICAL BOLD ITALIC SMALL KAPPA;4LAMDA;4MU;4NU;4XI;4OMICRON;4PI;4RHO;4FINAL SIGMA
1D748 0MATHEMATICAL BOLD ITALIC SMALL SIGMA;4TAU;4UPSILON;4PHI;4CHI;4PSI;4OMEGA
1D74F 0MATHEMATICAL BOLD ITALIC PARTIAL DIFFERENTIAL;3EPSILON SYMBOL;3THETA SYMBOL;3KAPPA SYMBOL
1D753 0MATHEMATICAL BOLD ITALIC PHI SYMBOL;3RHO SYMBOL;3PI SYMBOL;1SANS-SERIF BOLD CAPITAL ALPHA
1D757 0MATHEMATICAL SANS-SERIF BOLD CAPITAL BETA;4GAMMA;4DELTA;4EPSILON;4ZETA;4ETA;4THETA;4IOTA
1D75F 0MATHEMATICAL SANS-SERIF BOLD CAPITAL KAPPA;4LAMDA;4MU;4NU;4XI;4OMICRON;4PI;4RHO
1D767 0MATHEMATICAL SANS-SERIF BOLD CAPITAL THETA SYMBOL;4SIGMA;4TAU;4UPSILON;4PHI;4CHI;4PSI;4OMEGA
1D76F 0MATHEMATICAL SANS-SERIF BOLD NABLA;3SMALL ALPHA;4BETA;4GAMMA;4DELTA;4EPSILON;4ZETA;4ETA
1D777 0MATHEMATICAL SANS-SERIF BOLD SMALL THETA;4IOTA;4KAPPA;4LAMDA;4MU;4NU;4XI;4OMICRON;4PI;4RHO
1D781 0MATHEMATICAL SANS-SERIF BOLD SMALL FINAL SIGMA;4SIGMA;4TAU;4UPSILON;4PHI;4CHI;4PSI;4OMEGA
1D789 0MATHEMATICAL SANS-SERIF BOLD PARTIAL DIFFERENTIAL;3EPSILON SYMBOL;3THETA SYMBOL
1D78C 0MATHEMATICAL SANS-SERIF BOLD KAPPA SYMBOL;3PHI SYMBOL;3RHO SYMBOL;3PI SYMBOL
1D790 0MATHEMATICAL SANS-SERIF BOLD ITALIC CAPITAL ALPHA;5BETA;5GAMMA;5DELTA;5EPSILON;5ZETA;5ETA
1D797 0MATHEMATICAL SANS-SERIF BOLD ITALIC CAPITAL THETA;5IOTA;5KAPPA;5LAMDA;5MU;5NU;5XI;5OMICRON
1D79F 0MATHEMATICAL SANS-SERIF BOLD ITALIC CAPITAL PI;5RHO;5THETA SYMBOL;5SIGMA;5TAU;5UPSILON;5PHI
1D7A6 0MATHEMATICAL SANS-SERIF BOLD ITALIC CAPITAL CHI;5PSI;5OMEGA;4NABLA;4SMALL ALPHA;5BETA;5GAMMA
1D7AD 0MATHEMATICAL SANS-SERIF BOLD ITALIC SMALL DELTA;5EPSILON;5ZETA;5ETA;5THETA;5IOTA;5KAPPA
1D7B4 0MATHEMATICAL SANS-SERIF BOLD ITALIC SMALL LAMDA;5MU;5NU;5XI;5OMICRON;5PI;5RHO;5FINAL SIGMA
1D7BC 0MATHEMATICAL SANS-SERIF BOLD ITALIC SMALL SIGMA;5TAU;5UPSILON;5PHI;5CHI;5PSI;5OMEGA
1D7C3 0MATHEMATICAL SANS-SERIF BOLD ITALIC PARTIAL DIFFERENTIAL;4EPSILON SYMBOL;4THETA SYMBOL
1D7C6 0MATHEMATICAL SANS-SERIF BOLD ITALIC KAPPA SYMBOL;4PHI SYMBOL;4RHO SYMBOL;4PI SYMBOL
1D7CA 0MATHEMATICAL BOLD CAPITAL DIGAMMA;2SMALL DIGAMMA
1D7CE 0MATHEMATICAL BOLD DIGIT ZERO;3ONE;3TWO;3THREE;3FOUR;3FIVE;3SIX;3SEVEN;3EIGHT;3NINE
1D7D8 0MATHEMATICAL DOUBLE-STRUCK DIGIT ZERO;3ONE;3TWO;3THREE;3FOUR;3FIVE;3SIX;3SEVEN;3EIGHT;3NINE
1D7E2 0MATHEMATICAL SANS-SERIF DIGIT ZERO;3ONE;3TWO;3THREE;3FOUR;3FIVE;3SIX;3SEVEN;3EIGHT;3NINE
1D7EC 0MATHEMATICAL SANS-SERIF BOLD DIGIT ZERO;4ONE;4TWO;4THREE;4FOUR;4FIVE;4SIX;4SEVEN;4EIGHT
1D7F5 0MATHEMATICAL SANS-SERIF BOLD DIGIT NINE;1MONOSPACE DIGIT ZERO;3ONE;3TWO;3THREE;3FOUR;3FIVE
1D7FC 0MATHEMATICAL MONOSPACE DIGIT SIX;3SEVEN;3EIGHT;3NINE;0SIGNWRITING HAND-FIST INDEX
1D801 0SIGNWRITING HAND-CIRCLE INDEX;1HAND-CUP INDEX;1HAND-OVAL INDEX;1HAND-HINGE INDEX
1D805 0SIGNWRITING HAND-ANGLE INDEX;1HAND-FIST INDEX BENT;1HAND-CIRCLE INDEX BENT
1D808 0SIGNWRITING HAND-FIST THUMB UNDER INDEX BENT;2INDEX RAISED KNUCKLE;3CUPPED;3HINGED;4LOW
1D80D 0SIGNWRITING HAND-CIRCLE INDEX HINGE;1HAND-FIST INDEX MIDDLE;1HAND-CIRCLE INDEX MIDDLE
1D810 0SIGNWRITING HAND-FIST INDEX MIDDLE BENT;4RAISED KNUCKLES;4HINGED;3UP MIDDLE HINGED
1D814 0SIGNWRITING HAND-FIST INDEX HINGED MIDDLE UP;3MIDDLE CONJOINED;5INDEX BENT;5MIDDLE BENT
1D818 0SIGNWRITING HAND-FIST INDEX MIDDLE CONJOINED CUPPED;5HINGED;4CROSSED
1D81B 0SIGNWRITING HAND-CIRCLE INDEX MIDDLE CROSSED;1HAND-FIST MIDDLE BENT OVER INDEX
1D81D 0SIGNWRITING HAND-FIST INDEX BENT OVER MIDDLE;3MIDDLE THUMB;1HAND-CIRCLE INDEX MIDDLE THUMB
1D820 0SIGNWRITING HAND-FIST INDEX MIDDLE STRAIGHT THUMB BENT;4BENT THUMB STRAIGHT;4THUMB BENT
1D823 0SIGNWRITING HAND-FIST INDEX MIDDLE HINGED SPREAD THUMB SIDE;3UP MIDDLE HINGED THUMB SIDE
1D825 0SIGNWRITING HAND-FIST INDEX UP MIDDLE HINGED THUMB CONJOINED;3HINGED MIDDLE UP THUMB SIDE
1D827 0SIGNWRITING HAND-FIST INDEX MIDDLE UP SPREAD THUMB FORWARD;4THUMB CUPPED;5CIRCLED;5HOOKED
1D82B 0SIGNWRITING HAND-FIST INDEX MIDDLE THUMB HINGED;2THUMB BETWEEN INDEX MIDDLE STRAIGHT
1D82D 0SIGNWRITING HAND-FIST INDEX MIDDLE CONJOINED THUMB SIDE;7CONJOINED;7BENT
1D830 0SIGNWRITING HAND-FIST MIDDLE THUMB HOOKED INDEX UP;2INDEX THUMB HOOKED MIDDLE UP
1D832 0SIGNWRITING HAND-FIST INDEX MIDDLE CONJOINED HINGED THUMB SIDE;4CROSSED THUMB SIDE
1D834 0SIGNWRITING HAND-FIST INDEX MIDDLE CONJOINED THUMB FORWARD;5CUPPED THUMB FORWARD
1D836 0SIGNWRITING HAND-FIST MIDDLE THUMB CUPPED INDEX UP;2INDEX THUMB CUPPED MIDDLE UP
1D838 0SIGNWRITING HAND-FIST MIDDLE THUMB CIRCLED INDEX UP;6HINGED
1D83A 0SIGNWRITING HAND-FIST INDEX THUMB ANGLED OUT MIDDLE UP;5IN MIDDLE UP;4CIRCLED MIDDLE UP
1D83D 0SIGNWRITING HAND-FIST INDEX MIDDLE THUMB CONJOINED HINGED;5ANGLED OUT;5ANGLED
1D840 0SIGNWRITING HAND-FIST MIDDLE THUMB ANGLED OUT INDEX UP;7CROSSED;5INDEX UP
1D843 0SIGNWRITING HAND-FIST INDEX THUMB HOOKED MIDDLE HINGED;1HAND-FLAT FOUR FINGERS;4BENT;4HINGED
1D847 0SIGNWRITING HAND-FLAT FOUR FINGERS CONJOINED;5SPLIT;1HAND-CLAW FOUR FINGERS CONJOINED
1D84A 0SIGNWRITING HAND-FIST FOUR FINGERS CONJOINED BENT;1HAND-HINGE FOUR FINGERS CONJOINED
1D84C 0SIGNWRITING HAND-FLAT FIVE FINGERS SPREAD;2HEEL FIVE FINGERS SPREAD
1D84E 0SIGNWRITING HAND-FLAT FIVE FINGERS SPREAD FOUR BENT;2HEEL FIVE FINGERS SPREAD FOUR BENT
1D850 0SIGNWRITING HAND-FLAT FIVE FINGERS SPREAD BENT;2HEEL FIVE FINGERS SPREAD BENT
1D852 0SIGNWRITING HAND-FLAT FIVE FINGERS SPREAD THUMB FORWARD;1HAND-CUP FIVE FINGERS SPREAD;5OPEN
1D855 0SIGNWRITING HAND-HINGE FIVE FINGERS SPREAD OPEN;1HAND-OVAL FIVE FINGERS SPREAD
1D857 0SIGNWRITING HAND-FLAT FIVE FINGERS SPREAD HINGED;6THUMB SIDE;6NO THUMB;1HAND-FLAT
1D85B 0SIGNWRITING HAND-FLAT BETWEEN PALM FACINGS;2HEEL;2THUMB SIDE;2HEEL THUMB SIDE;2THUMB BENT
1D860 0SIGNWRITING HAND-FLAT THUMB FORWARD;2SPLIT INDEX THUMB SIDE;3CENTRE;4THUMB SIDE;6BENT
1D865 0SIGNWRITING HAND-FLAT SPLIT LITTLE;1HAND-CLAW;2THUMB SIDE;2NO THUMB;2THUMB FORWARD
1D86A 0SIGNWRITING HAND-HOOK CURLICUE;1HAND-HOOK;1HAND-CUP OPEN;1HAND-CUP;2OPEN THUMB SIDE
1D86F 0SIGNWRITING HAND-CUP THUMB SIDE;2OPEN NO THUMB;2NO THUMB;2OPEN THUMB FORWARD;2THUMB FORWARD
1D874 0SIGNWRITING HAND-CURLICUE OPEN;1HAND-CURLICUE;1HAND-CIRCLE;1HAND-OVAL;2THUMB SIDE;2NO THUMB
1D87A 0SIGNWRITING HAND-OVAL THUMB FORWARD;1HAND-HINGE OPEN;3THUMB FORWARD;1HAND-HINGE;2SMALL
1D87F 0SIGNWRITING HAND-HINGE OPEN THUMB SIDE;2THUMB SIDE;2OPEN NO THUMB;2NO THUMB
1D883 0SIGNWRITING HAND-HINGE THUMB SIDE TOUCHING INDEX;3BETWEEN MIDDLE RING;1HAND-ANGLE
1D886 0SIGNWRITING HAND-FIST INDEX MIDDLE RING;1HAND-CIRCLE INDEX MIDDLE RING
1D888 0SIGNWRITING HAND-HINGE INDEX MIDDLE RING;1HAND-ANGLE INDEX MIDDLE RING;1HAND-HINGE LITTLE
1D88B 0SIGNWRITING HAND-FIST INDEX MIDDLE RING BENT;5CONJOINED
1D88D 0SIGNWRITING HAND-HINGE INDEX MIDDLE RING CONJOINED;1HAND-FIST LITTLE DOWN;4RIPPLE STRAIGHT
1D890 0SIGNWRITING HAND-FIST LITTLE DOWN RIPPLE CURVED;4OTHERS CIRCLED;3UP;2THUMB UNDER LITTLE UP
1D894 0SIGNWRITING HAND-CIRCLE LITTLE UP;1HAND-OVAL LITTLE UP;1HAND-ANGLE LITTLE UP
1D897 0SIGNWRITING HAND-FIST LITTLE RAISED KNUCKLE;3BENT;3TOUCHES THUMB;3THUMB
1D89B 0SIGNWRITING HAND-HINGE LITTLE THUMB;1HAND-FIST LITTLE INDEX THUMB
1D89D 0SIGNWRITING HAND-HINGE LITTLE INDEX THUMB;1HAND-ANGLE LITTLE INDEX THUMB INDEX THUMB OUT
1D89F 0SIGNWRITING HAND-ANGLE LITTLE INDEX THUMB INDEX THUMB;1HAND-FIST LITTLE INDEX
1D8A1 0SIGNWRITING HAND-CIRCLE LITTLE INDEX;1HAND-HINGE LITTLE INDEX;1HAND-ANGLE LITTLE INDEX
1D8A4 0SIGNWRITING HAND-FIST INDEX MIDDLE LITTLE;1HAND-CIRCLE INDEX MIDDLE LITTLE
1D8A6 0SIGNWRITING HAND-HINGE INDEX MIDDLE LITTLE;2RING;1HAND-ANGLE INDEX MIDDLE LITTLE
1D8A9 0SIGNWRITING HAND-FIST INDEX MIDDLE CROSS LITTLE;1HAND-CIRCLE INDEX MIDDLE CROSS LITTLE
1D8AB 0SIGNWRITING HAND-FIST RING DOWN;1HAND-HINGE RING DOWN INDEX THUMB HOOK MIDDLE
1D8AD 0SIGNWRITING HAND-ANGLE RING DOWN MIDDLE THUMB INDEX CROSS;1HAND-FIST RING UP;3RAISED KNUCKLE
1D8B0 0SIGNWRITING HAND-FIST RING LITTLE;1HAND-CIRCLE RING LITTLE;1HAND-OVAL RING LITTLE
1D8B3 0SIGNWRITING HAND-ANGLE RING LITTLE;1HAND-FIST RING MIDDLE;4CONJOINED;4RAISED KNUCKLES;3INDEX
1D8B8 0SIGNWRITING HAND-FIST RING THUMB;1HAND-HOOK RING THUMB;1HAND-FIST INDEX RING LITTLE
1D8BB 0SIGNWRITING HAND-CIRCLE INDEX RING LITTLE;1HAND-CURLICUE INDEX RING LITTLE ON
1D8BD 0SIGNWRITING HAND-HOOK INDEX RING LITTLE OUT;5IN;5UNDER;1HAND-CUP INDEX RING LITTLE
1D8C1 0SIGNWRITING HAND-HINGE INDEX RING LITTLE;1HAND-ANGLE INDEX RING LITTLE OUT;4LITTLE
1D8C4 0SIGNWRITING HAND-FIST MIDDLE DOWN;1HAND-HINGE MIDDLE;1HAND-FIST MIDDLE UP
1D8C7 0SIGNWRITING HAND-CIRCLE MIDDLE UP;1HAND-FIST MIDDLE RAISED KNUCKLE;3UP THUMB SIDE
1D8CA 0SIGNWRITING HAND-HOOK MIDDLE THUMB;1HAND-FIST MIDDLE THUMB LITTLE;3LITTLE;3RING LITTLE
1D8CE 0SIGNWRITING HAND-CIRCLE MIDDLE RING LITTLE;1HAND-CURLICUE MIDDLE RING LITTLE ON
1D8D0 0SIGNWRITING HAND-CUP MIDDLE RING LITTLE;1HAND-HINGE MIDDLE RING LITTLE
1D8D2 0SIGNWRITING HAND-ANGLE MIDDLE RING LITTLE OUT;5IN;4LITTLE
1D8D5 0SIGNWRITING HAND-CIRCLE MIDDLE RING LITTLE BENT;1HAND-CLAW MIDDLE RING LITTLE CONJOINED
1D8D7 0SIGNWRITING HAND-CLAW MIDDLE RING LITTLE CONJOINED SIDE
1D8D8 0SIGNWRITING HAND-HOOK MIDDLE RING LITTLE CONJOINED OUT;6IN;5CONJOINED
1D8DB 0SIGNWRITING HAND-HINGE INDEX HINGED;1HAND-FIST INDEX THUMB SIDE;1HAND-HINGE INDEX THUMB SIDE
1D8DE 0SIGNWRITING HAND-FIST INDEX THUMB SIDE THUMB DIAGONAL;6CONJOINED;6BENT;5INDEX BENT
1D8E2 0SIGNWRITING HAND-FIST INDEX THUMB SIDE BOTH BENT;5INDEX HINGE;4FORWARD INDEX STRAIGHT;6BENT
1D8E6 0SIGNWRITING HAND-FIST INDEX THUMB HOOK;4CURLICUE;4CURVE THUMB INSIDE
1D8E9 0SIGNWRITING HAND-CLAW INDEX THUMB CURVE THUMB INSIDE
1D8EA 0SIGNWRITING HAND-FIST INDEX THUMB CURVE THUMB UNDER;4CIRCLE;1HAND-CUP INDEX THUMB;4OPEN
1D8EE 0SIGNWRITING HAND-HINGE INDEX THUMB OPEN;4LARGE;3THUMB;4SMALL;1HAND-ANGLE INDEX THUMB OUT;4IN
1D8F4 0SIGNWRITING HAND-ANGLE INDEX THUMB;1HAND-FIST THUMB;3HEEL;3SIDE DIAGONAL;4CONJOINED;4BENT
1D8FA 0SIGNWRITING HAND-FIST THUMB FORWARD;3BETWEEN INDEX MIDDLE;4MIDDLE RING;4RING LITTLE
1D8FE 0SIGNWRITING HAND-FIST THUMB UNDER TWO FINGERS;3OVER TWO FINGERS;3UNDER THREE FINGERS
1D901 0SIGNWRITING HAND-FIST THUMB UNDER FOUR FINGERS;3OVER FOUR RAISED KNUCKLES;1HAND-FIST;2HEEL
1D905 0SIGNWRITING TOUCH SINGLE;2MULTIPLE;2BETWEEN;1GRASP SINGLE;2MULTIPLE;2BETWEEN;1STRIKE SINGLE
1D90C 0SIGNWRITING STRIKE MULTIPLE;2BETWEEN;1BRUSH SINGLE;2MULTIPLE;2BETWEEN;1RUB SINGLE;2MULTIPLE
1D913 0SIGNWRITING RUB BETWEEN;1SURFACE SYMBOLS;2BETWEEN;1SQUEEZE LARGE SINGLE;2SMALL SINGLE
1D918 0SIGNWRITING SQUEEZE LARGE MULTIPLE;2SMALL MULTIPLE;2SEQUENTIAL;1FLICK LARGE SINGLE
1D91C 0SIGNWRITING FLICK SMALL SINGLE;2LARGE MULTIPLE;2SMALL MULTIPLE;2SEQUENTIAL
1D920 0SIGNWRITING SQUEEZE FLICK ALTERNATING;1MOVEMENT-HINGE UP DOWN LARGE;4SMALL;3SEQUENTIAL
1D924 0SIGNWRITING MOVEMENT-HINGE DOWN SEQUENTIAL;2UP DOWN ALTERNATING LARGE;5SMALL
1D927 0SIGNWRITING MOVEMENT-HINGE SIDE TO SIDE SCISSORS;1MOVEMENT-WALLPLANE FINGER CONTACT
1D929 0SIGNWRITING MOVEMENT-FLOORPLANE FINGER CONTACT;1MOVEMENT-WALLPLANE SINGLE STRAIGHT SMALL
1D92B 0SIGNWRITING MOVEMENT-WALLPLANE SINGLE STRAIGHT MEDIUM;4LARGE;4LARGEST;3WRIST FLEX
1D92F 0SIGNWRITING MOVEMENT-WALLPLANE DOUBLE STRAIGHT;3WRIST FLEX;3ALTERNATING;4WRIST FLEX;2CROSS
1D934 0SIGNWRITING MOVEMENT-WALLPLANE TRIPLE STRAIGHT MOVEMENT;3WRIST FLEX;3ALTERNATING;4WRIST FLEX
1D938 0SIGNWRITING MOVEMENT-WALLPLANE BEND SMALL;3MEDIUM;3LARGE;2CORNER SMALL;3MEDIUM;3LARGE
1D93E 0SIGNWRITING MOVEMENT-WALLPLANE CORNER ROTATION;2CHECK SMALL;3MEDIUM;3LARGE;2BOX SMALL
1D943 0SIGNWRITING MOVEMENT-WALLPLANE BOX MEDIUM;3LARGE;2ZIGZAG SMALL;3MEDIUM;3LARGE;2PEAKS SMALL
1D949 0SIGNWRITING MOVEMENT-WALLPLANE PEAKS MEDIUM;3LARGE
1D94B 0SIGNWRITING TRAVEL-WALLPLANE ROTATION-WALLPLANE SINGLE;3DOUBLE;3ALTERNATING
1D94E 0SIGNWRITING TRAVEL-WALLPLANE ROTATION-FLOORPLANE SINGLE;3DOUBLE;3ALTERNATING;2SHAKING
1D952 0SIGNWRITING TRAVEL-WALLPLANE ARM SPIRAL SINGLE;4DOUBLE;4TRIPLE;1MOVEMENT-DIAGONAL AWAY SMALL
1D956 0SIGNWRITING MOVEMENT-DIAGONAL AWAY MEDIUM;3LARGE;3LARGEST;2TOWARDS SMALL;3MEDIUM;3LARGE
1D95C 0SIGNWRITING MOVEMENT-DIAGONAL TOWARDS LARGEST;2BETWEEN AWAY SMALL;4MEDIUM;4LARGE;4LARGEST
1D961 0SIGNWRITING MOVEMENT-DIAGONAL BETWEEN TOWARDS SMALL;4MEDIUM;4LARGE;4LARGEST
1D965 0SIGNWRITING MOVEMENT-FLOORPLANE SINGLE STRAIGHT SMALL;4MEDIUM;4LARGE;4LARGEST;3WRIST FLEX
1D96A 0SIGNWRITING MOVEMENT-FLOORPLANE DOUBLE STRAIGHT;3WRIST FLEX;3ALTERNATING;4WRIST FLEX;2CROSS
1D96F 0SIGNWRITING MOVEMENT-FLOORPLANE TRIPLE STRAIGHT MOVEMENT;3WRIST FLEX;3ALTERNATING MOVEMENT
1D972 0SIGNWRITING MOVEMENT-FLOORPLANE TRIPLE ALTERNATING WRIST FLEX;2BEND;2CORNER SMALL;3MEDIUM
1D976 0SIGNWRITING MOVEMENT-FLOORPLANE CORNER LARGE;2CHECK;2BOX SMALL;3MEDIUM;3LARGE;2ZIGZAG SMALL
1D97C 0SIGNWRITING MOVEMENT-FLOORPLANE ZIGZAG MEDIUM;3LARGE;2PEAKS SMALL;3MEDIUM;3LARGE
1D981 0SIGNWRITING TRAVEL-FLOORPLANE ROTATION-FLOORPLANE SINGLE;3DOUBLE;3ALTERNATING
1D984 0SIGNWRITING TRAVEL-FLOORPLANE ROTATION-WALLPLANE SINGLE;3DOUBLE;3ALTERNATING;2SHAKING
1D988 0SIGNWRITING MOVEMENT-WALLPLANE CURVE QUARTER SMALL;4MEDIUM;4LARGE;4LARGEST
1D98C 0SIGNWRITING MOVEMENT-WALLPLANE CURVE HALF-CIRCLE SMALL;4MEDIUM;4LARGE;4LARGEST
1D990 0SIGNWRITING MOVEMENT-WALLPLANE CURVE THREE-QUARTER CIRCLE SMALL;5MEDIUM;2HUMP SMALL;3MEDIUM
1D994 0SIGNWRITING MOVEMENT-WALLPLANE HUMP LARGE;2LOOP SMALL;3MEDIUM;3LARGE;3SMALL DOUBLE
1D999 0SIGNWRITING MOVEMENT-WALLPLANE WAVE CURVE DOUBLE SMALL;5MEDIUM;5LARGE;4TRIPLE SMALL;5MEDIUM
1D99E 0SIGNWRITING MOVEMENT-WALLPLANE WAVE CURVE TRIPLE LARGE;2CURVE THEN STRAIGHT
1D9A0 0SIGNWRITING MOVEMENT-WALLPLANE CURVED CROSS SMALL;4MEDIUM;1ROTATION-WALLPLANE SINGLE;2DOUBLE
1D9A4 0SIGNWRITING ROTATION-WALLPLANE ALTERNATE;1MOVEMENT-WALLPLANE SHAKING
1D9A6 0SIGNWRITING MOVEMENT-WALLPLANE CURVE HITTING FRONT WALL;2HUMP HITTING FRONT WALL
1D9A8 0SIGNWRITING MOVEMENT-WALLPLANE LOOP HITTING FRONT WALL;2WAVE HITTING FRONT WALL
1D9AA 0SIGNWRITING ROTATION-WALLPLANE SINGLE HITTING FRONT WALL;2DOUBLE HITTING FRONT WALL
1D9AC 0SIGNWRITING ROTATION-WALLPLANE ALTERNATING HITTING FRONT WALL
1D9AD 0SIGNWRITING MOVEMENT-WALLPLANE CURVE HITTING CHEST;2HUMP HITTING CHEST;2LOOP HITTING CHEST
1D9B0 0SIGNWRITING MOVEMENT-WALLPLANE WAVE HITTING CHEST;1ROTATION-WALLPLANE SINGLE HITTING CHEST
1D9B2 0SIGNWRITING ROTATION-WALLPLANE DOUBLE HITTING CHEST;2ALTERNATING HITTING CHEST
1D9B4 0SIGNWRITING MOVEMENT-WALLPLANE WAVE DIAGONAL PATH SMALL;5MEDIUM;5LARGE
1D9B7 0SIGNWRITING MOVEMENT-FLOORPLANE CURVE HITTING CEILING SMALL;5LARGE
1D9B9 0SIGNWRITING MOVEMENT-FLOORPLANE HUMP HITTING CEILING SMALL DOUBLE;5LARGE DOUBLE
1D9BB 0SIGNWRITING MOVEMENT-FLOORPLANE HUMP HITTING CEILING SMALL TRIPLE;5LARGE TRIPLE
1D9BD 0SIGNWRITING MOVEMENT-FLOORPLANE LOOP HITTING CEILING SMALL SINGLE;5LARGE SINGLE
1D9BF 0SIGNWRITING MOVEMENT-FLOORPLANE LOOP HITTING CEILING SMALL DOUBLE;5LARGE DOUBLE
1D9C1 0SIGNWRITING MOVEMENT-FLOORPLANE WAVE HITTING CEILING SMALL;5LARGE
1D9C3 0SIGNWRITING ROTATION-FLOORPLANE SINGLE HITTING CEILING;2DOUBLE HITTING CEILING
1D9C5 0SIGNWRITING ROTATION-FLOORPLANE ALTERNATING HITTING CEILING
1D9C6 0SIGNWRITING MOVEMENT-FLOORPLANE CURVE HITTING FLOOR SMALL;5LARGE
1D9C8 0SIGNWRITING MOVEMENT-FLOORPLANE HUMP HITTING FLOOR SMALL DOUBLE;5LARGE DOUBLE
1D9CA 0SIGNWRITING MOVEMENT-FLOORPLANE HUMP HITTING FLOOR TRIPLE SMALL TRIPLE;6LARGE TRIPLE
1D9CC 0SIGNWRITING MOVEMENT-FLOORPLANE LOOP HITTING FLOOR SMALL SINGLE;5LARGE SINGLE;5SMALL DOUBLE
1D9CF 0SIGNWRITING MOVEMENT-FLOORPLANE LOOP HITTING FLOOR LARGE DOUBLE;2WAVE HITTING FLOOR SMALL
1D9D1 0SIGNWRITING MOVEMENT-FLOORPLANE WAVE HITTING FLOOR LARGE
1D9D2 0SIGNWRITING ROTATION-FLOORPLANE SINGLE HITTING FLOOR;2DOUBLE HITTING FLOOR
1D9D4 0SIGNWRITING ROTATION-FLOORPLANE ALTERNATING HITTING FLOOR;1MOVEMENT-FLOORPLANE CURVE SMALL
1D9D6 0SIGNWRITING MOVEMENT-FLOORPLANE CURVE MEDIUM;3LARGE;3LARGEST;3COMBINED;2HUMP SMALL
1D9DB 0SIGNWRITING MOVEMENT-FLOORPLANE LOOP SMALL;2WAVE SNAKE;3SMALL;3LARGE
1D9DF 0SIGNWRITING ROTATION-FLOORPLANE SINGLE;2DOUBLE;2ALTERNATING
1D9E2 0SIGNWRITING MOVEMENT-FLOORPLANE SHAKING PARALLEL;1MOVEMENT-WALLPLANE ARM CIRCLE SMALL SINGLE
1D9E4 0SIGNWRITING MOVEMENT-WALLPLANE ARM CIRCLE MEDIUM SINGLE;4SMALL DOUBLE;4MEDIUM DOUBLE
1D9E7 0SIGNWRITING MOVEMENT-FLOORPLANE ARM CIRCLE HITTING WALL SMALL SINGLE;6MEDIUM SINGLE
1D9E9 0SIGNWRITING MOVEMENT-FLOORPLANE ARM CIRCLE HITTING WALL LARGE SINGLE;6SMALL DOUBLE
1D9EB 0SIGNWRITING MOVEMENT-FLOORPLANE ARM CIRCLE HITTING WALL MEDIUM DOUBLE;6LARGE DOUBLE
1D9ED 0SIGNWRITING MOVEMENT-WALLPLANE WRIST CIRCLE FRONT SINGLE;5DOUBLE
1D9EF 0SIGNWRITING MOVEMENT-FLOORPLANE WRIST CIRCLE HITTING WALL SINGLE;6DOUBLE
1D9F1 0SIGNWRITING MOVEMENT-WALLPLANE FINGER CIRCLES SINGLE;4DOUBLE
1D9F3 0SIGNWRITING MOVEMENT-FLOORPLANE FINGER CIRCLES HITTING WALL SINGLE;6DOUBLE
1D9F5 0SIGNWRITING DYNAMIC ARROWHEAD SMALL;3LARGE;2FAST;2SLOW;2TENSE;2RELAXED;2SIMULTANEOUS
1D9FC 0SIGNWRITING DYNAMIC SIMULTANEOUS ALTERNATING;2EVERY OTHER TIME;2GRADUAL;1HEAD;2RIM
1DA01 0SIGNWRITING HEAD MOVEMENT-WALLPLANE STRAIGHT;3TILT;2MOVEMENT-FLOORPLANE STRAIGHT
1DA04 0SIGNWRITING HEAD MOVEMENT-WALLPLANE CURVE;2MOVEMENT-FLOORPLANE CURVE;2MOVEMENT CIRCLE
1DA07 0SIGNWRITING FACE DIRECTION POSITION NOSE FORWARD TILTING;5UP OR DOWN;8TILTING
1DA0A 0SIGNWRITING EYEBROWS STRAIGHT UP;3NEUTRAL;3DOWN;1DREAMY EYEBROWS NEUTRAL DOWN;3DOWN NEUTRAL
1DA0F 0SIGNWRITING DREAMY EYEBROWS UP NEUTRAL;3NEUTRAL UP;1FOREHEAD NEUTRAL;2CONTACT;2WRINKLED
1DA14 0SIGNWRITING EYES OPEN;2SQUEEZED;2CLOSED;1EYE BLINK SINGLE;3MULTIPLE;1EYES HALF OPEN
1DA1A 0SIGNWRITING EYES WIDE OPEN;2HALF CLOSED;2WIDENING MOVEMENT;1EYE WINK;1EYELASHES UP;2DOWN
1DA20 0SIGNWRITING EYELASHES FLUTTERING;1EYEGAZE-WALLPLANE STRAIGHT;3DOUBLE;3ALTERNATING
1DA24 0SIGNWRITING EYEGAZE-FLOORPLANE STRAIGHT;3DOUBLE;3ALTERNATING;1EYEGAZE-WALLPLANE CURVED
1DA28 0SIGNWRITING EYEGAZE-FLOORPLANE CURVED;1EYEGAZE-WALLPLANE CIRCLING;1CHEEKS PUFFED;2NEUTRAL
1DA2C 0SIGNWRITING CHEEKS SUCKED;1TENSE CHEEKS HIGH;3MIDDLE;3LOW;1EARS;1NOSE NEUTRAL;2CONTACT
1DA33 0SIGNWRITING NOSE WRINKLES;2WIGGLES;1AIR BLOWING OUT;2SUCKING IN;2BLOW SMALL ROTATIONS
1DA38 0SIGNWRITING AIR SUCK SMALL ROTATIONS;1BREATH INHALE;2EXHALE;1MOUTH CLOSED NEUTRAL;3FORWARD
1DA3D 0SIGNWRITING MOUTH CLOSED CONTACT;2SMILE;3WRINKLED;3OPEN;2FROWN;3WRINKLED;3OPEN;2OPEN CIRCLE
1DA45 0SIGNWRITING MOUTH OPEN FORWARD;3WRINKLED;3OVAL;4WRINKLED;4YAWN;3RECTANGLE;4WRINKLED;4YAWN
1DA4D 0SIGNWRITING MOUTH KISS;3FORWARD;3WRINKLED;2TENSE;3FORWARD;3SUCKED;1LIPS PRESSED TOGETHER
1DA54 0SIGNWRITING LIP LOWER OVER UPPER;2UPPER OVER LOWER;1MOUTH CORNERS;2WRINKLES SINGLE;3DOUBLE
1DA59 0SIGNWRITING TONGUE STICKING OUT FAR;2LICKING LIPS;2TIP BETWEEN LIPS;3TOUCHING INSIDE MOUTH
1DA5D 0SIGNWRITING TONGUE INSIDE MOUTH RELAXED;2MOVES AGAINST CHEEK;2CENTRE STICKING OUT
1DA60 0SIGNWRITING TONGUE CENTRE INSIDE MOUTH;1TEETH;2MOVEMENT;2ON TONGUE;4MOVEMENT;3LIPS;4MOVEMENT
1DA67 0SIGNWRITING TEETH BITE LIPS;1MOVEMENT-WALLPLANE JAW;1MOVEMENT-FLOORPLANE JAW;1NECK;1HAIR
1DA6C 0SIGNWRITING EXCITEMENT;1SHOULDER HIP SPINE;3POSITIONS;1WALLPLANE SHOULDER HIP MOVE
1DA70 0SIGNWRITING FLOORPLANE SHOULDER HIP MOVE;1SHOULDER TILTING FROM WAIST
1DA72 0SIGNWRITING TORSO-WALLPLANE STRAIGHT STRETCH;2CURVED BEND;1TORSO-FLOORPLANE TWISTING
1DA75 0SIGNWRITING UPPER BODY TILTING FROM HIP JOINTS;1LIMB COMBINATION;2LENGTH-1;2LENGTH-2
1DA79 0SIGNWRITING LIMB LENGTH-3;2LENGTH-4;2LENGTH-5;2LENGTH-6;2LENGTH-7;1FINGER
1DA7F 0SIGNWRITING LOCATION-WALLPLANE SPACE;1LOCATION-FLOORPLANE SPACE;1LOCATION HEIGHT;2WIDTH
1DA83 0SIGNWRITING LOCATION DEPTH;2HEAD NECK;2TORSO;2LIMBS DIGITS;1COMMA;1FULL STOP;1SEMICOLON
1DA8A 0SIGNWRITING COLON;1PARENTHESIS
1DA9B 0SIGNWRITING FILL MODIFIER-2;2MODIFIER-3;2MODIFIER-4;2MODIFIER-5;2MODIFIER-6
1DAA1 0SIGNWRITING ROTATION MODIFIER-2;2MODIFIER-3;2MODIFIER-4;2MODIFIER-5;2MODIFIER-6;2MODIFIER-7
1DAA7 0SIGNWRITING ROTATION MODIFIER-8;2MODIFIER-9;2MODIFIER-10;2MODIFIER-11;2MODIFIER-12
1DAAC 0SIGNWRITING ROTATION MODIFIER-13;2MODIFIER-14;2MODIFIER-15;2MODIFIER-16
1DF00 0LATIN SMALL LETTER FENG DIGRAPH WITH TRILL;3REVERSED SCRIPT G;1LETTER SMALL CAPITAL TURNED G
1DF03 0LATIN SMALL LETTER REVERSED K;1LETTER SMALL CAPITAL L WITH BELT
1DF05 0LATIN SMALL LETTER LEZH WITH RETROFLEX HOOK;3TURNED Y WITH BELT;3REVERSED ENG
1DF08 0LATIN SMALL LETTER TURNED R WITH LONG LEG AND RETROFLEX HOOK;3T WITH HOOK AND RETROFLEX HOOK
1DF0A 0LATIN LETTER RETROFLEX CLICK WITH RETROFLEX HOOK;1SMALL LETTER ESH WITH DOUBLE BAR;7AND CURL
1DF0D 0LATIN SMALL LETTER TURNED T WITH CURL;1LETTER INVERTED GLOTTAL STOP WITH CURL
1DF0F 0LATIN LETTER STRETCHED C WITH CURL;2SMALL CAPITAL TURNED K;1SMALL LETTER L WITH FISHHOOK
1DF12 0LATIN SMALL LETTER DEZH DIGRAPH WITH PALATAL HOOK;3L WITH BELT AND PALATAL HOOK
1DF14 0LATIN SMALL LETTER ENG WITH PALATAL HOOK;3TURNED R WITH PALATAL HOOK
1DF16 0LATIN SMALL LETTER R WITH FISHHOOK AND PALATAL HOOK;3TESH DIGRAPH WITH PALATAL HOOK
1DF18 0LATIN SMALL LETTER EZH WITH PALATAL HOOK;3DEZH DIGRAPH WITH RETROFLEX HOOK
1DF1A 0LATIN SMALL LETTER I WITH STROKE AND RETROFLEX HOOK;3O WITH RETROFLEX HOOK
1DF1C 0LATIN SMALL LETTER TESH DIGRAPH WITH RETROFLEX HOOK;3C WITH RETROFLEX HOOK;3S WITH CURL
1E000 0COMBINING GLAGOLITIC LETTER AZU;3BUKY;3VEDE;3GLAGOLI;3DOBRO;3YESTU;3ZHIVETE
1E008 0COMBINING GLAGOLITIC LETTER ZEMLJA;3IZHE;3INITIAL IZHE;3I;3DJERVI;3KAKO;3LJUDIJE;3MYSLITE
1E010 0COMBINING GLAGOLITIC LETTER NASHI;3ONU;3POKOJI;3RITSI;3SLOVO;3TVRIDO;3UKU;3FRITU;3HERU
1E01B 0COMBINING GLAGOLITIC LETTER SHTA;3TSI;3CHRIVI;3SHA;3YERU;3YERI;3YATI
1E023 0COMBINING GLAGOLITIC LETTER YU;3SMALL YUS
1E026 0COMBINING GLAGOLITIC LETTER YO;3IOTATED SMALL YUS;3BIG YUS;3IOTATED BIG YUS;3FITA
1E100 0NYIAKENG PUACHUE HMONG LETTER MA;4TSA;4NTA;4TA;4HA;4NA;4XA;4NKA;4CA;4LA;4SA;4ZA;4NCA;4NTSA
1E10E 0NYIAKENG PUACHUE HMONG LETTER KA;4DA;4NYA;4NRA;4VA;4NTXA;4TXA;4FA;4RA;4QA;4YA;4NQA;4PA;4XYA
1E11C 0NYIAKENG PUACHUE HMONG LETTER NPA;4DLA;4NPLA;4HAH;4MLA;4PLA;4GA;4RRA;4A;4AA;4I;4U;4O;4OO;4E
1E12B 0NYIAKENG PUACHUE HMONG LETTER EE;4W
1E130 0NYIAKENG PUACHUE HMONG TONE-B;3TONE-M;3TONE-J;3TONE-V;3TONE-S;3TONE-G;3TONE-D
1E137 0NYIAKENG PUACHUE HMONG SIGN FOR PERSON;5THING;5LOCATION;5ANIMAL;5INVERTEBRATE;4XW XW
1E13D 0NYIAKENG PUACHUE HMONG SYLLABLE LENGTHENER
1E140 0NYIAKENG PUACHUE HMONG DIGIT ZERO;4ONE;4TWO;4THREE;4FOUR;4FIVE;4SIX;4SEVEN;4EIGHT;4NINE
1E14E 0NYIAKENG PUACHUE HMONG LOGOGRAM NYAJ;3CIRCLED CA
1E290 0TOTO LETTER PA;2BA;2TA;2DA;2KA;2GA;2MA;2NA;2NGA;2SA;2CHA;2YA;2WA;2JA;2HA;2RA;2LA;2I
1E2A2 0TOTO LETTER BREATHY I;2IU;2BREATHY IU;2U;2E;2BREATHY E;2EO;2BREATHY EO;2O;2AE;2BREATHY AE;2A
1E2AE 0TOTO SIGN RISING TONE
1E2C0 0WANCHO LETTER AA;2A;2BA;2CA;2DA;2GA;2YA;2PHA;2LA;2NA;2PA;2TA;2THA;2FA;2SA;2SHA;2JA;2ZA;2WA
1E2D3 0WANCHO LETTER VA;2KA;2O;2AU;2RA;2MA;2KHA;2HA;2E;2I;2NGA;2U;2LLHA;2TSA;2TRA;2ONG;2AANG;2ANG
1E2E5 0WANCHO LETTER ING;2ON;2EN;2AAN;2NYA;2UEN;2YIH;1TONE TUP;2TUPNI;2KOI;2KOINI;1DIGIT ZERO;2ONE
1E2F2 0WANCHO DIGIT TWO;2THREE;2FOUR;2FIVE;2SIX;2SEVEN;2EIGHT;2NINE
1E2FF 0WANCHO NGUN SIGN
1E7E0 0ETHIOPIC SYLLABLE HHYA;2HHYU;2HHYI;2HHYAA;2HHYEE;2HHYE;2HHYO
1E7E8 0ETHIOPIC SYLLABLE GURAGE HHWA;2HHWI;2HHWEE;2HHWE
1E7ED 0ETHIOPIC SYLLABLE GURAGE MWI;3MWEE
1E7F0 0ETHIOPIC SYLLABLE GURAGE QWI;3QWEE;3QWE;3BWI;3BWEE;3KWI;3KWEE;3KWE;3GWI;3GWEE;3GWE;3FWI
1E7FC 0ETHIOPIC SYLLABLE GURAGE FWEE;3PWI;3PWEE
1E800 0MENDE KIKAKUI SYLLABLE M001 KI;3M002 KA;3M003 KU;3M065 KEE;3M095 KE;3M076 KOO;3M048 KO
1E807 0MENDE KIKAKUI SYLLABLE M179 KUA;3M004 WI;3M005 WA;3M006 WU;3M126 WEE;3M118 WE;3M114 WOO
1E80E 0MENDE KIKAKUI SYLLABLE M045 WO;3M194 WUI;3M143 WEI;3M061 WVI;3M049 WVA;3M139 WVE;3M007 MIN
1E815 0MENDE KIKAKUI SYLLABLE M008 MAN;3M009 MUN;3M059 MEN;3M094 MON;3M154 MUAN;3M189 MUEN;3M010 BI
1E81C 0MENDE KIKAKUI SYLLABLE M011 BA;3M012 BU;3M150 BEE;3M097 BE;3M103 BOO;3M138 BO;3M013 I
1E823 0MENDE KIKAKUI SYLLABLE M014 A;3M015 U;3M163 EE;3M100 E;3M165 OO;3M147 O;3M137 EI;3M131 IN
1E82B 0MENDE KIKAKUI SYLLABLE M135 IN;3M195 AN;3M178 EN;3M019 SI;3M020 SA;3M021 SU;3M162 SEE
1E832 0MENDE KIKAKUI SYLLABLE M116 SE;3M136 SOO;3M079 SO;3M196 SIA;3M025 LI;3M026 LA;3M027 LU
1E839 0MENDE KIKAKUI SYLLABLE M084 LEE;3M073 LE;3M054 LOO;3M153 LO;3M110 LONG LE;3M016 DI;3M017 DA
1E840 0MENDE KIKAKUI SYLLABLE M018 DU;3M089 DEE;3M180 DOO;3M181 DO;3M022 TI;3M023 TA;3M024 TU
1E847 0MENDE KIKAKUI SYLLABLE M091 TEE;3M055 TE;3M104 TOO;3M069 TO;3M028 JI;3M029 JA;3M030 JU
1E84E 0MENDE KIKAKUI SYLLABLE M157 JEE;3M113 JE;3M160 JOO;3M063 JO;3M175 LONG JO;3M031 YI;3M032 YA
1E855 0MENDE KIKAKUI SYLLABLE M033 YU;3M109 YEE;3M080 YE;3M141 YOO;3M121 YO;3M034 FI;3M035 FA
1E85C 0MENDE KIKAKUI SYLLABLE M036 FU;3M078 FEE;3M075 FE;3M133 FOO;3M088 FO;3M197 FUA;3M101 FAN
1E863 0MENDE KIKAKUI SYLLABLE M037 NIN;3M038 NAN;3M039 NUN;3M117 NEN;3M169 NON;3M176 HI;3M041 HA
1E86A 0MENDE KIKAKUI SYLLABLE M186 HU;3M040 HEE;3M096 HE;3M042 HOO;3M140 HO;3M083 HEEI;3M128 HOOU
1E871 0MENDE KIKAKUI SYLLABLE M053 HIN;3M130 HAN;3M087 HUN;3M052 HEN;3M193 HON;3M046 HUAN
1E877 0MENDE KIKAKUI SYLLABLE M090 NGGI;3M043 NGGA;3M082 NGGU;3M115 NGGEE;3M146 NGGE;3M156 NGGOO
1E87D 0MENDE KIKAKUI SYLLABLE M120 NGGO;3M159 NGGAA;3M127 NGGUA;3M086 LONG NGGE;3M106 LONG NGGOO
1E882 0MENDE KIKAKUI SYLLABLE M183 LONG NGGO;3M155 GI;3M111 GA;3M168 GU;3M190 GEE;3M166 GUEI
1E888 0MENDE KIKAKUI SYLLABLE M167 GUAN;3M184 NGEN;3M057 NGON;3M177 NGUAN;3M068 PI;3M099 PA
1E88E 0MENDE KIKAKUI SYLLABLE M050 PU;3M081 PEE;3M051 PE;3M102 POO;3M066 PO;3M145 MBI;3M062 MBA
1E895 0MENDE KIKAKUI SYLLABLE M122 MBU;3M047 MBEE;3M188 MBEE;3M072 MBE;3M172 MBOO;3M174 MBO
1E89B 0MENDE KIKAKUI SYLLABLE M187 MBUU;3M161 LONG MBE;3M105 LONG MBOO;3M142 LONG MBO;3M132 KPI
1E8A0 0MENDE KIKAKUI SYLLABLE M092 KPA;3M074 KPU;3M044 KPEE;3M108 KPE;3M112 KPOO;3M158 KPO
1E8A6 0MENDE KIKAKUI SYLLABLE M124 GBI;3M056 GBA;3M148 GBU;3M093 GBEE;3M107 GBE;3M071 GBOO
1E8AC 0MENDE KIKAKUI SYLLABLE M070 GBO;3M171 RA;3M123 NDI;3M129 NDA;3M125 NDU;3M191 NDEE;3M119 NDE
1E8B3 0MENDE KIKAKUI SYLLABLE M067 NDOO;3M064 NDO;3M152 NJA;3M192 NJU;3M149 NJEE;3M134 NJOO
1E8B9 0MENDE KIKAKUI SYLLABLE M182 VI;3M185 VA;3M151 VU;3M173 VEE;3M085 VE;3M144 VOO;3M077 VO
1E8C0 0MENDE KIKAKUI SYLLABLE M164 NYIN;3M058 NYAN;3M170 NYUN;3M098 NYEN;3M060 NYON
1E8C7 0MENDE KIKAKUI DIGIT ONE;3TWO;3THREE;3FOUR;3FIVE;3SIX;3SEVEN;3EIGHT;3NINE
1E8D0 0MENDE KIKAKUI COMBINING NUMBER TEENS;4TENS;4HUNDREDS;4THOUSANDS;4TEN THOUSANDS
1E8D5 0MENDE KIKAKUI COMBINING NUMBER HUNDRED THOUSANDS;4MILLIONS
1E900 0ADLAM CAPITAL LETTER ALIF;3DAALI;3LAAM;3MIIM;3BA;3SINNYIIYHE;3PE;3BHE;3RA;3E;3FA;3I;3O;3DHA
1E90E 0ADLAM CAPITAL LETTER YHE;3WAW;3NUN;3KAF;3YA;3U;3JIIM;3CHI;3HA;3QAAF;3GA;3NYA;3TU;3NHA;3VA
1E91D 0ADLAM CAPITAL LETTER KHA;3GBE;3ZAL;3KPO;3SHA;1SMALL LETTER ALIF;3DAALI;3LAAM;3MIIM;3BA
1E927 0ADLAM SMALL LETTER SINNYIIYHE;3PE;3BHE;3RA;3E;3FA;3I;3O;3DHA;3YHE;3WAW;3NUN;3KAF;3YA;3U
1E936 0ADLAM SMALL LETTER JIIM;3CHI;3HA;3QAAF;3GA;3NYA;3TU;3NHA;3VA;3KHA;3GBE;3ZAL;3KPO;3SHA
1E944 0ADLAM ALIF LENGTHENER;1VOWEL LENGTHENER;1GEMINATION MARK;1HAMZA;1CONSONANT MODIFIER
1E949 0ADLAM GEMINATE CONSONANT MODIFIER;1NUKTA;1NASALIZATION MARK
1E950 0ADLAM DIGIT ZERO;2ONE;2TWO;2THREE;2FOUR;2FIVE;2SIX;2SEVEN;2EIGHT;2NINE
1E95E 0ADLAM INITIAL EXCLAMATION MARK;2QUESTION MARK
1EC71 0INDIC SIYAQ NUMBER ONE;3TWO;3THREE;3FOUR;3FIVE;3SIX;3SEVEN;3EIGHT;3NINE;3TEN;3TWENTY;3THIRTY
1EC7D 0INDIC SIYAQ NUMBER FORTY;3FIFTY;3SIXTY;3SEVENTY;3EIGHTY;3NINETY;3ONE HUNDRED;3TWO HUNDRED
1EC85 0INDIC SIYAQ NUMBER THREE HUNDRED;3FOUR HUNDRED;3FIVE HUNDRED;3SIX HUNDRED;3SEVEN HUNDRED
1EC8A 0INDIC SIYAQ NUMBER EIGHT HUNDRED;3NINE HUNDRED;3ONE THOUSAND;3TWO THOUSAND;3THREE THOUSAND
1EC8F 0INDIC SIYAQ NUMBER FOUR THOUSAND;3FIVE THOUSAND;3SIX THOUSAND;3SEVEN THOUSAND
1EC93 0INDIC SIYAQ NUMBER EIGHT THOUSAND;3NINE THOUSAND;3TEN THOUSAND;3TWENTY THOUSAND
1EC97 0INDIC SIYAQ NUMBER THIRTY THOUSAND;3FORTY THOUSAND;3FIFTY THOUSAND;3SIXTY THOUSAND
1EC9B 0INDIC SIYAQ NUMBER SEVENTY THOUSAND;3EIGHTY THOUSAND;3NINETY THOUSAND;3LAKH;3LAKHAN
1ECA0 0INDIC SIYAQ LAKH MARK;2NUMBER KAROR;3KARORAN;3PREFIXED ONE;4TWO;4THREE;4FOUR;4FIVE;4SIX
1ECA9 0INDIC SIYAQ NUMBER PREFIXED SEVEN;4EIGHT;4NINE;2PLACEHOLDER;2FRACTION ONE QUARTER;4HALF
1ECAF 0INDIC SIYAQ FRACTION THREE QUARTERS;2RUPEE MARK;2NUMBER ALTERNATE ONE;4TWO;4TEN THOUSAND
1ECB4 0INDIC SIYAQ ALTERNATE LAKH MARK
1ED01 0OTTOMAN SIYAQ NUMBER ONE;3TWO;3THREE;3FOUR;3FIVE;3SIX;3SEVEN;3EIGHT;3NINE;3TEN;3TWENTY
1ED0C 0OTTOMAN SIYAQ NUMBER THIRTY;3FORTY;3FIFTY;3SIXTY;3SEVENTY;3EIGHTY;3NINETY;3ONE HUNDRED
1ED14 0OTTOMAN SIYAQ NUMBER TWO HUNDRED;3THREE HUNDRED;3FOUR HUNDRED;3FIVE HUNDRED;3SIX HUNDRED
1ED19 0OTTOMAN SIYAQ NUMBER SEVEN HUNDRED;3EIGHT HUNDRED;3NINE HUNDRED;3ONE THOUSAND;3TWO THOUSAND
1ED1E 0OTTOMAN SIYAQ NUMBER THREE THOUSAND;3FOUR THOUSAND;3FIVE THOUSAND;3SIX THOUSAND
1ED22 0OTTOMAN SIYAQ NUMBER SEVEN THOUSAND;3EIGHT THOUSAND;3NINE THOUSAND;3TEN THOUSAND
1ED26 0OTTOMAN SIYAQ NUMBER TWENTY THOUSAND;3THIRTY THOUSAND;3FORTY THOUSAND;3FIFTY THOUSAND
1ED2A 0OTTOMAN SIYAQ NUMBER SIXTY THOUSAND;3SEVENTY THOUSAND;3EIGHTY THOUSAND;3NINETY THOUSAND
1ED2E 0OTTOMAN SIYAQ MARRATAN;2ALTERNATE NUMBER TWO;4THREE;4FOUR;4FIVE;4SIX;4SEVEN;4EIGHT;4NINE
1ED37 0OTTOMAN SIYAQ ALTERNATE NUMBER TEN;4FOUR HUNDRED;4SIX HUNDRED;4TWO THOUSAND;4TEN THOUSAND
1ED3C 0OTTOMAN SIYAQ FRACTION ONE HALF;4SIXTH
1EE00 0ARABIC MATHEMATICAL ALEF;2BEH;2JEEM;2DAL
1EE05 0ARABIC MATHEMATICAL WAW;2ZAIN;2HAH;2TAH;2YEH;2KAF;2LAM;2MEEM;2NOON;2SEEN;2AIN;2FEH;2SAD;2QAF
1EE13 0ARABIC MATHEMATICAL REH;2SHEEN;2TEH;2THEH;2KHAH;2THAL;2DAD;2ZAH;2GHAIN;2DOTLESS BEH;3NOON
1EE1E 0ARABIC MATHEMATICAL DOTLESS FEH;3QAF
1EE21 0ARABIC MATHEMATICAL INITIAL BEH;3JEEM
1EE24 0ARABIC MATHEMATICAL INITIAL HEH
1EE27 0ARABIC MATHEMATICAL INITIAL HAH
1EE29 0ARABIC MATHEMATICAL INITIAL YEH;3KAF;3LAM;3MEEM;3NOON;3SEEN;3AIN;3FEH;3SAD;3QAF
1EE34 0ARABIC MATHEMATICAL INITIAL SHEEN;3TEH;3THEH;3KHAH
1EE39 0ARABIC MATHEMATICAL INITIAL DAD
1EE3B 0ARABIC MATHEMATICAL INITIAL GHAIN
1EE42 0ARABIC MATHEMATICAL TAILED JEEM
1EE47 0ARABIC MATHEMATICAL TAILED HAH
1EE49 0ARABIC MATHEMATICAL TAILED YEH
1EE4B 0ARABIC MATHEMATICAL TAILED LAM
1EE4D 0ARABIC MATHEMATICAL TAILED NOON;3SEEN;3AIN
1EE51 0ARABIC MATHEMATICAL TAILED SAD;3QAF
1EE54 0ARABIC MATHEMATICAL TAILED SHEEN
1EE57 0ARABIC MATHEMATICAL TAILED KHAH
1EE59 0ARABIC MATHEMATICAL TAILED DAD
1EE5B 0ARABIC MATHEMATICAL TAILED GHAIN
1EE5D 0ARABIC MATHEMATICAL TAILED DOTLESS NOON
1EE5F 0ARABIC MATHEMATICAL TAILED DOTLESS QAF
1EE61 0ARABIC MATHEMATICAL STRETCHED BEH;3JEEM
1EE64 0ARABIC MATHEMATICAL STRETCHED HEH
1EE67 0ARABIC MATHEMATICAL STRETCHED HAH;3TAH;3YEH;3KAF
1EE6C 0ARABIC MATHEMATICAL STRETCHED MEEM;3NOON;3SEEN;3AIN;3FEH;3SAD;3QAF
1EE74 0ARABIC MATHEMATICAL STRETCHED SHEEN;3TEH;3THEH;3KHAH
1EE79 0ARABIC MATHEMATICAL STRETCHED DAD;3ZAH;3GHAIN;3DOTLESS BEH
1EE7E 0ARABIC MATHEMATICAL STRETCHED DOTLESS FEH
1EE80 0ARABIC MATHEMATICAL LOOPED ALEF;3BEH;3JEEM;3DAL;3HEH;3WAW;3ZAIN;3HAH;3TAH;3YEH
1EE8B 0ARABIC MATHEMATICAL LOOPED LAM;3MEEM;3NOON;3SEEN;3AIN;3FEH;3SAD;3QAF;3REH;3SHEEN;3TEH;3THEH
1EE97 0ARABIC MATHEMATICAL LOOPED KHAH;3THAL;3DAD;3ZAH;3GHAIN
1EEA1 0ARABIC MATHEMATICAL DOUBLE-STRUCK BEH;3JEEM;3DAL
1EEA5 0ARABIC MATHEMATICAL DOUBLE-STRUCK WAW;3ZAIN;3HAH;3TAH;3YEH
1EEAB 0ARABIC MATHEMATICAL DOUBLE-STRUCK LAM;3MEEM;3NOON;3SEEN;3AIN;3FEH;3SAD;3QAF;3REH;3SHEEN;3TEH
1EEB6 0ARABIC MATHEMATICAL DOUBLE-STRUCK THEH;3KHAH;3THAL;3DAD;3ZAH;3GHAIN
1EEF0 0ARABIC MATHEMATICAL OPERATOR MEEM WITH HAH WITH TATWEEL;3HAH WITH DAL"

end PlaybookLint.Text.CharacterName
