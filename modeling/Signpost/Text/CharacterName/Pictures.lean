namespace Signpost.Text.CharacterName

-- Rows of names. A code with an equals sign goes before a name that does not follow its
-- predecessor; the digit says how many words are taken over from the name before.
def pictures : List String :=
  ["1D000=0BYZANTINE MUSICAL SYMBOL PSILI;3DASEIA;3PERISPOMENI;3OXEIA EKFONITIKON;4DIPLI",
   "1D005=0BYZANTINE MUSICAL SYMBOL VAREIA EKFONITIKON;4DIPLI;3KATHISTI;3SYRMATIKI;3PARAKLITIKI",
   "1D00A=0BYZANTINE MUSICAL SYMBOL YPOKRISIS;4DIPLI;3KREMASTI;3APESO EKFONITIKON",
   "1D00E=0BYZANTINE MUSICAL SYMBOL EXO EKFONITIKON;3TELEIA;3KENTIMATA;3APOSTROFOS;4DIPLI",
   "1D013=0BYZANTINE MUSICAL SYMBOL SYNEVMA;3THITA;3OLIGON ARCHAION;3GORGON ARCHAION;3PSILON",
   "1D018=0BYZANTINE MUSICAL SYMBOL CHAMILON;3VATHY;3ISON ARCHAION;3KENTIMA ARCHAION",
   "1D01C=0BYZANTINE MUSICAL SYMBOL KENTIMATA ARCHAION;3SAXIMATA;3PARICHON;3STAVROS APODEXIA",
   "1D020=0BYZANTINE MUSICAL SYMBOL OXEIAI ARCHAION;3VAREIAI ARCHAION;3APODERMA ARCHAION",
   "1D023=0BYZANTINE MUSICAL SYMBOL APOTHEMA;3KLASMA;3REVMA;3PIASMA ARCHAION;3TINAGMA",
   "1D028=0BYZANTINE MUSICAL SYMBOL ANATRICHISMA;3SEISMA;3SYNAGMA ARCHAION;4META STAVROU",
   "1D02C=0BYZANTINE MUSICAL SYMBOL OYRANISMA ARCHAION;3THEMA;3LEMOI;3DYO;3TRIA;3TESSERA",
   "1D032=0BYZANTINE MUSICAL SYMBOL KRATIMATA;3APESO EXO NEO;3FTHORA ARCHAION;3IMIFTHORA",
   "1D036=0BYZANTINE MUSICAL SYMBOL TROMIKON ARCHAION;3KATAVA TROMIKON;3PELASTON;3PSIFISTON",
   "1D03A=0BYZANTINE MUSICAL SYMBOL KONTEVMA;3CHOREVMA ARCHAION;3RAPISMA;3PARAKALESMA ARCHAION",
   "1D03E=0BYZANTINE MUSICAL SYMBOL PARAKLITIKI ARCHAION;3ICHADIN;3NANA;3PETASMA;3KONTEVMA ALLO",
   "1D043=0BYZANTINE MUSICAL SYMBOL TROMIKON ALLO;3STRAGGISMATA;3GRONTHISMATA;3ISON NEO",
   "1D047=0BYZANTINE MUSICAL SYMBOL OLIGON NEO;3OXEIA NEO;3PETASTI;3KOUFISMA;3PETASTOKOUFISMA",
   "1D04C=0BYZANTINE MUSICAL SYMBOL KRATIMOKOUFISMA;3PELASTON NEO;3KENTIMATA NEO ANO",
   "1D04F=0BYZANTINE MUSICAL SYMBOL KENTIMA NEO ANO;3YPSILI;3APOSTROFOS NEO",
   "1D052=0BYZANTINE MUSICAL SYMBOL APOSTROFOI SYNDESMOS NEO;3YPORROI;3KRATIMOYPORROON;3ELAFRON",
   "1D056=0BYZANTINE MUSICAL SYMBOL CHAMILI;3MIKRON ISON;3VAREIA NEO;3PIASMA NEO;3PSIFISTON NEO",
   "1D05B=0BYZANTINE MUSICAL SYMBOL OMALON;3ANTIKENOMA;3LYGISMA;3PARAKLITIKI NEO;3PARAKALESMA NEO",
   "1D060=0BYZANTINE MUSICAL SYMBOL ETERON PARAKALESMA;3KYLISMA;3ANTIKENOKYLISMA;3TROMIKON NEO",
   "1D064=0BYZANTINE MUSICAL SYMBOL EKSTREPTON;3SYNAGMA NEO;3SYRMA;3CHOREVMA NEO;3EPEGERMA",
   "1D069=0BYZANTINE MUSICAL SYMBOL SEISMA NEO;3XIRON KLASMA;3TROMIKOPSIFISTON;3PSIFISTOLYGISMA",
   "1D06D=0BYZANTINE MUSICAL SYMBOL TROMIKOLYGISMA;3TROMIKOPARAKALESMA;3PSIFISTOPARAKALESMA",
   "1D070=0BYZANTINE MUSICAL SYMBOL TROMIKOSYNAGMA;3PSIFISTOSYNAGMA;3GORGOSYNTHETON",
   "1D073=0BYZANTINE MUSICAL SYMBOL ARGOSYNTHETON;3ETERON ARGOSYNTHETON;3OYRANISMA NEO",
   "1D076=0BYZANTINE MUSICAL SYMBOL THEMATISMOS ESO;4EXO;3THEMA APLOUN;3THES KAI APOTHES",
   "1D07A=0BYZANTINE MUSICAL SYMBOL KATAVASMA;3ENDOFONON;3YFEN KATO;4ANO;3STAVROS;3KLASMA ANO",
   "1D080=0BYZANTINE MUSICAL SYMBOL DIPLI ARCHAION;3KRATIMA ARCHAION;4ALLO;4NEO;3APODERMA NEO",
   "1D085=0BYZANTINE MUSICAL SYMBOL APLI;3DIPLI;3TRIPLI;3TETRAPLI;3KORONIS;3LEIMMA ENOS CHRONOU",
   "1D08B=0BYZANTINE MUSICAL SYMBOL LEIMMA DYO CHRONON;4TRION CHRONON;4TESSARON CHRONON",
   "1D08E=0BYZANTINE MUSICAL SYMBOL LEIMMA IMISEOS CHRONOU;3GORGON NEO ANO",
   "1D090=0BYZANTINE MUSICAL SYMBOL GORGON PARESTIGMENON ARISTERA;5DEXIA;3DIGORGON",
   "1D093=0BYZANTINE MUSICAL SYMBOL DIGORGON PARESTIGMENON ARISTERA KATO;6ANO;5DEXIA;3TRIGORGON",
   "1D097=0BYZANTINE MUSICAL SYMBOL ARGON;3IMIDIARGON;3DIARGON;3AGOGI POLI ARGI;4ARGOTERI;4ARGI",
   "1D09D=0BYZANTINE MUSICAL SYMBOL AGOGI METRIA;4MESI;4GORGI;4GORGOTERI;4POLI GORGI",
   "1D0A2=0BYZANTINE MUSICAL SYMBOL MARTYRIA PROTOS ICHOS;4ALLI PROTOS ICHOS;4DEYTEROS ICHOS",
   "1D0A5=0BYZANTINE MUSICAL SYMBOL MARTYRIA ALLI DEYTEROS ICHOS;4TRITOS ICHOS;4TRIFONIAS",
   "1D0A8=0BYZANTINE MUSICAL SYMBOL MARTYRIA TETARTOS ICHOS;5LEGETOS ICHOS;4LEGETOS ICHOS",
   "1D0AB=0BYZANTINE MUSICAL SYMBOL MARTYRIA PLAGIOS ICHOS;3ISAKIA TELOUS ICHIMATOS",
   "1D0AD=0BYZANTINE MUSICAL SYMBOL APOSTROFOI TELOUS ICHIMATOS;3FANEROSIS TETRAFONIAS",
   "1D0AF=0BYZANTINE MUSICAL SYMBOL FANEROSIS MONOFONIAS;4DIFONIAS;3MARTYRIA VARYS ICHOS",
   "1D0B2=0BYZANTINE MUSICAL SYMBOL MARTYRIA PROTOVARYS ICHOS;4PLAGIOS TETARTOS ICHOS",
   "1D0B4=0BYZANTINE MUSICAL SYMBOL GORTHMIKON N APLOUN;5DIPLOUN;3ENARXIS KAI FTHORA VOU",
   "1D0B7=0BYZANTINE MUSICAL SYMBOL IMIFONON;3IMIFTHORON;3FTHORA ARCHAION DEYTEROU ICHOU",
   "1D0BA=0BYZANTINE MUSICAL SYMBOL FTHORA DIATONIKI PA;5NANA;4NAOS ICHOS;4DIATONIKI DI",
   "1D0BE=0BYZANTINE MUSICAL SYMBOL FTHORA SKLIRON DIATONON DI;4DIATONIKI KE;5ZO;5NI KATO;6ANO",
   "1D0C3=0BYZANTINE MUSICAL SYMBOL FTHORA MALAKON CHROMA DIFONIAS;6MONOFONIAS",
   "1D0C5=0BYZANTINE MUSICAL SYMBOL FHTORA SKLIRON CHROMA VASIS;3FTHORA SKLIRON CHROMA SYNAFI",
   "1D0C7=0BYZANTINE MUSICAL SYMBOL FTHORA NENANO;3CHROA ZYGOS;4KLITON;4SPATHI",
   "1D0CB=0BYZANTINE MUSICAL SYMBOL FTHORA I YFESIS TETARTIMORION;4ENARMONIOS ANTIFONIA",
   "1D0CD=0BYZANTINE MUSICAL SYMBOL YFESIS TRITIMORION;3DIESIS TRITIMORION;4TETARTIMORION",
   "1D0D0=0BYZANTINE MUSICAL SYMBOL DIESIS APLI DYO DODEKATA;4MONOGRAMMOS TESSERA DODEKATA",
   "1D0D2=0BYZANTINE MUSICAL SYMBOL DIESIS DIGRAMMOS EX DODEKATA;4TRIGRAMMOS OKTO DODEKATA",
   "1D0D4=0BYZANTINE MUSICAL SYMBOL YFESIS APLI DYO DODEKATA;4MONOGRAMMOS TESSERA DODEKATA",
   "1D0D6=0BYZANTINE MUSICAL SYMBOL YFESIS DIGRAMMOS EX DODEKATA;4TRIGRAMMOS OKTO DODEKATA",
   "1D0D8=0BYZANTINE MUSICAL SYMBOL GENIKI DIESIS;4YFESIS;3DIASTOLI APLI MIKRI;5MEGALI;4DIPLI",
   "1D0DD=0BYZANTINE MUSICAL SYMBOL DIASTOLI THESEOS;3SIMANSIS THESEOS;5DISIMOU;5TRISIMOU",
   "1D0E1=0BYZANTINE MUSICAL SYMBOL SIMANSIS THESEOS TETRASIMOU;4ARSEOS;5DISIMOU;5TRISIMOU",
   "1D0E5=0BYZANTINE MUSICAL SYMBOL SIMANSIS ARSEOS TETRASIMOU;3DIGRAMMA GG;3DIFTOGGOS OU;3STIGMA",
   "1D0E9=0BYZANTINE MUSICAL SYMBOL ARKTIKO PA;4VOU;4GA;4DI;4KE;4ZO;4NI;3KENTIMATA NEO MESO",
   "1D0F1=0BYZANTINE MUSICAL SYMBOL KENTIMA NEO MESO;3KENTIMATA NEO KATO;3KENTIMA NEO KATO",
   "1D0F4=0BYZANTINE MUSICAL SYMBOL KLASMA KATO;3GORGON NEO KATO",
   "1D100=0MUSICAL SYMBOL SINGLE BARLINE;2DOUBLE BARLINE;2FINAL BARLINE;2REVERSE FINAL BARLINE",
   "1D104=0MUSICAL SYMBOL DASHED BARLINE;2SHORT BARLINE;2LEFT REPEAT SIGN;2RIGHT REPEAT SIGN",
   "1D108=0MUSICAL SYMBOL REPEAT DOTS;2DAL SEGNO;2DA CAPO;2SEGNO;2CODA;2REPEATED FIGURE-1",
   "1D10E=0MUSICAL SYMBOL REPEATED FIGURE-2;3FIGURE-3;2FERMATA;3BELOW;2BREATH MARK;2CAESURA",
   "1D114=0MUSICAL SYMBOL BRACE;2BRACKET;2ONE-LINE STAFF;2TWO-LINE STAFF;2THREE-LINE STAFF",
   "1D119=0MUSICAL SYMBOL FOUR-LINE STAFF;2FIVE-LINE STAFF;2SIX-LINE STAFF;2SIX-STRING FRETBOARD",
   "1D11D=0MUSICAL SYMBOL FOUR-STRING FRETBOARD;2G CLEF;4OTTAVA ALTA;5BASSA;2C CLEF;2F CLEF",
   "1D123=0MUSICAL SYMBOL F CLEF OTTAVA ALTA;5BASSA;2DRUM CLEF-1;3CLEF-2",
   "1D129=0MUSICAL SYMBOL MULTIPLE MEASURE REST;2DOUBLE SHARP;3FLAT;2FLAT UP;3DOWN;2NATURAL UP",
   "1D12F=0MUSICAL SYMBOL NATURAL DOWN;2SHARP UP;3DOWN;2QUARTER TONE SHARP;4FLAT;2COMMON TIME",
   "1D135=0MUSICAL SYMBOL CUT TIME;2OTTAVA ALTA;3BASSA;2QUINDICESIMA ALTA;3BASSA;2MULTI REST",
   "1D13B=0MUSICAL SYMBOL WHOLE REST;2HALF REST;2QUARTER REST;2EIGHTH REST;2SIXTEENTH REST",
   "1D140=0MUSICAL SYMBOL THIRTY-SECOND REST;2SIXTY-FOURTH REST;2ONE HUNDRED TWENTY-EIGHTH REST",
   "1D143=0MUSICAL SYMBOL X NOTEHEAD;2PLUS NOTEHEAD;2CIRCLE X NOTEHEAD;2SQUARE NOTEHEAD WHITE",
   "1D147=0MUSICAL SYMBOL SQUARE NOTEHEAD BLACK;2TRIANGLE NOTEHEAD UP WHITE;5BLACK;4LEFT WHITE",
   "1D14B=0MUSICAL SYMBOL TRIANGLE NOTEHEAD LEFT BLACK;4RIGHT WHITE;5BLACK;4DOWN WHITE;5BLACK",
   "1D150=0MUSICAL SYMBOL TRIANGLE NOTEHEAD UP RIGHT WHITE;6BLACK;2MOON NOTEHEAD WHITE;4BLACK",
   "1D154=0MUSICAL SYMBOL TRIANGLE-ROUND NOTEHEAD DOWN WHITE;5BLACK;2PARENTHESIS NOTEHEAD",
   "1D157=0MUSICAL SYMBOL VOID NOTEHEAD;2NOTEHEAD BLACK;2NULL NOTEHEAD;2CLUSTER NOTEHEAD WHITE",
   "1D15B=0MUSICAL SYMBOL CLUSTER NOTEHEAD BLACK;2BREVE;2WHOLE NOTE;2HALF NOTE;2QUARTER NOTE",
   "1D160=0MUSICAL SYMBOL EIGHTH NOTE;2SIXTEENTH NOTE;2THIRTY-SECOND NOTE;2SIXTY-FOURTH NOTE",
   "1D164=0MUSICAL SYMBOL ONE HUNDRED TWENTY-EIGHTH NOTE;2COMBINING STEM;3SPRECHGESANG STEM",
   "1D167=0MUSICAL SYMBOL COMBINING TREMOLO-1;3TREMOLO-2;3TREMOLO-3;2FINGERED TREMOLO-1",
   "1D16B=0MUSICAL SYMBOL FINGERED TREMOLO-2;3TREMOLO-3;2COMBINING AUGMENTATION DOT;3FLAG-1",
   "1D16F=0MUSICAL SYMBOL COMBINING FLAG-2;3FLAG-3;3FLAG-4;3FLAG-5;2BEGIN BEAM;2END BEAM",
   "1D175=0MUSICAL SYMBOL BEGIN TIE;2END TIE;2BEGIN SLUR;2END SLUR;2BEGIN PHRASE;2END PHRASE",
   "1D17B=0MUSICAL SYMBOL COMBINING ACCENT;3STACCATO;3TENUTO;3STACCATISSIMO;3MARCATO",
   "1D180=0MUSICAL SYMBOL COMBINING MARCATO-STACCATO;3ACCENT-STACCATO;3LOURE;2ARPEGGIATO UP;3DOWN",
   "1D185=0MUSICAL SYMBOL COMBINING DOIT;3RIP;3FLIP;3SMEAR;3BEND;3DOUBLE TONGUE;3TRIPLE TONGUE",
   "1D18C=0MUSICAL SYMBOL RINFORZANDO;2SUBITO;2Z;2PIANO;2MEZZO;2FORTE;2CRESCENDO;2DECRESCENDO",
   "1D194=0MUSICAL SYMBOL GRACE NOTE SLASH;4NO SLASH;2TR;2TURN;2INVERTED TURN;2TURN SLASH;3UP",
   "1D19B=0MUSICAL SYMBOL ORNAMENT STROKE-1;3STROKE-2;3STROKE-3;3STROKE-4;3STROKE-5;3STROKE-6",
   "1D1A1=0MUSICAL SYMBOL ORNAMENT STROKE-7;3STROKE-8;3STROKE-9;3STROKE-10;3STROKE-11",
   "1D1A6=0MUSICAL SYMBOL HAUPTSTIMME;2NEBENSTIMME;2END OF STIMME;2DEGREE SLASH",
   "1D1AA=0MUSICAL SYMBOL COMBINING DOWN BOW;3UP BOW;3HARMONIC;3SNAP PIZZICATO;2PEDAL MARK",
   "1D1AF=0MUSICAL SYMBOL PEDAL UP MARK;2HALF PEDAL MARK;2GLISSANDO UP;3DOWN;2WITH FINGERNAILS",
   "1D1B4=0MUSICAL SYMBOL DAMP;3ALL;2MAXIMA;2LONGA;2BREVIS;2SEMIBREVIS WHITE;3BLACK;2MINIMA",
   "1D1BC=0MUSICAL SYMBOL MINIMA BLACK;2SEMIMINIMA WHITE;3BLACK;2FUSA WHITE;3BLACK",
   "1D1C1=0MUSICAL SYMBOL LONGA PERFECTA REST;3IMPERFECTA REST;2BREVIS REST;2SEMIBREVIS REST",
   "1D1C5=0MUSICAL SYMBOL MINIMA REST;2SEMIMINIMA REST;2TEMPUS PERFECTUM CUM PROLATIONE PERFECTA",
   "1D1C8=0MUSICAL SYMBOL TEMPUS PERFECTUM CUM PROLATIONE IMPERFECTA;6PERFECTA DIMINUTION-1",
   "1D1CA=0MUSICAL SYMBOL TEMPUS IMPERFECTUM CUM PROLATIONE PERFECTA;6IMPERFECTA;7DIMINUTION-1",
   "1D1CD=0MUSICAL SYMBOL TEMPUS IMPERFECTUM CUM PROLATIONE IMPERFECTA DIMINUTION-2;7DIMINUTION-3",
   "1D1CF=0MUSICAL SYMBOL CROIX;2GREGORIAN C CLEF;3F CLEF;2SQUARE B;2VIRGA;2PODATUS;2CLIVIS",
   "1D1D6=0MUSICAL SYMBOL SCANDICUS;2CLIMACUS;2TORCULUS;2PORRECTUS;3FLEXUS;2SCANDICUS FLEXUS",
   "1D1DC=0MUSICAL SYMBOL TORCULUS RESUPINUS;2PES SUBPUNCTIS;2KIEVAN C CLEF;3END OF PIECE",
   "1D1E0=0MUSICAL SYMBOL KIEVAN FINAL NOTE;3RECITATIVE MARK;3WHOLE NOTE;3HALF NOTE",
   "1D1E4=0MUSICAL SYMBOL KIEVAN QUARTER NOTE STEM DOWN;6UP;3EIGHTH NOTE STEM DOWN;6UP;3FLAT SIGN",
   "1D1E9=0MUSICAL SYMBOL SORI;2KORON;1D200=0GREEK VOCAL NOTATION SYMBOL-1;3SYMBOL-2;3SYMBOL-3",
   "1D203=0GREEK VOCAL NOTATION SYMBOL-4;3SYMBOL-5;3SYMBOL-6;3SYMBOL-7;3SYMBOL-8;3SYMBOL-9",
   "1D209=0GREEK VOCAL NOTATION SYMBOL-10;3SYMBOL-11;3SYMBOL-12;3SYMBOL-13;3SYMBOL-14;3SYMBOL-15",
   "1D20F=0GREEK VOCAL NOTATION SYMBOL-16;3SYMBOL-17;3SYMBOL-18;3SYMBOL-19;3SYMBOL-20;3SYMBOL-21",
   "1D215=0GREEK VOCAL NOTATION SYMBOL-22;3SYMBOL-23;3SYMBOL-24;3SYMBOL-50;3SYMBOL-51;3SYMBOL-52",
   "1D21B=0GREEK VOCAL NOTATION SYMBOL-53;3SYMBOL-54;1INSTRUMENTAL NOTATION SYMBOL-1;3SYMBOL-2",
   "1D21F=0GREEK INSTRUMENTAL NOTATION SYMBOL-4;3SYMBOL-5;3SYMBOL-7;3SYMBOL-8;3SYMBOL-11",
   "1D224=0GREEK INSTRUMENTAL NOTATION SYMBOL-12;3SYMBOL-13;3SYMBOL-14;3SYMBOL-17;3SYMBOL-18",
   "1D229=0GREEK INSTRUMENTAL NOTATION SYMBOL-19;3SYMBOL-23;3SYMBOL-24;3SYMBOL-25;3SYMBOL-26",
   "1D22E=0GREEK INSTRUMENTAL NOTATION SYMBOL-27;3SYMBOL-29;3SYMBOL-30;3SYMBOL-32;3SYMBOL-36",
   "1D233=0GREEK INSTRUMENTAL NOTATION SYMBOL-37;3SYMBOL-38;3SYMBOL-39;3SYMBOL-40;3SYMBOL-42",
   "1D238=0GREEK INSTRUMENTAL NOTATION SYMBOL-43;3SYMBOL-45;3SYMBOL-47;3SYMBOL-48;3SYMBOL-49",
   "1D23D=0GREEK INSTRUMENTAL NOTATION SYMBOL-50;3SYMBOL-51;3SYMBOL-52;3SYMBOL-53;3SYMBOL-54",
   "1D242=0COMBINING GREEK MUSICAL TRISEME;3TETRASEME;3PENTASEME;0GREEK MUSICAL LEIMMA",
   "1D2C0=0KAKTOVIK NUMERAL ZERO;2ONE;2TWO;2THREE;2FOUR;2FIVE;2SIX;2SEVEN;2EIGHT;2NINE;2TEN",
   "1D2CB=0KAKTOVIK NUMERAL ELEVEN;2TWELVE;2THIRTEEN;2FOURTEEN;2FIFTEEN;2SIXTEEN;2SEVENTEEN",
   "1D2D2=0KAKTOVIK NUMERAL EIGHTEEN;2NINETEEN;1D2E0=0MAYAN NUMERAL ZERO;2ONE;2TWO;2THREE;2FOUR",
   "1D2E5=0MAYAN NUMERAL FIVE;2SIX;2SEVEN;2EIGHT;2NINE;2TEN;2ELEVEN;2TWELVE;2THIRTEEN;2FOURTEEN",
   "1D2EF=0MAYAN NUMERAL FIFTEEN;2SIXTEEN;2SEVENTEEN;2EIGHTEEN;2NINETEEN",
   "1D300=0MONOGRAM FOR EARTH;0DIGRAM FOR HEAVENLY EARTH;2HUMAN EARTH;2EARTHLY HEAVEN;3HUMAN",
   "1D305=0DIGRAM FOR EARTH;0TETRAGRAM FOR CENTRE;2FULL CIRCLE;2MIRED;2BARRIER;2KEEPING SMALL",
   "1D30B=0TETRAGRAM FOR CONTRARIETY;2ASCENT;2OPPOSITION;2BRANCHING OUT",
   "1D30F=0TETRAGRAM FOR DEFECTIVENESS OR DISTORTION;2DIVERGENCE;2YOUTHFULNESS;2INCREASE",
   "1D313=0TETRAGRAM FOR PENETRATION;2REACH;2CONTACT;2HOLDING BACK;2WAITING;2FOLLOWING;2ADVANCE",
   "1D31A=0TETRAGRAM FOR RELEASE;2RESISTANCE;2EASE;2JOY;2CONTENTION;2ENDEAVOUR;2DUTIES;2CHANGE",
   "1D322=0TETRAGRAM FOR DECISIVENESS;2BOLD RESOLUTION;2PACKING;2LEGION;2CLOSENESS;2KINSHIP",
   "1D328=0TETRAGRAM FOR GATHERING;2STRENGTH;2PURITY;2FULLNESS;2RESIDENCE;2LAW OR MODEL;2RESPONSE",
   "1D32F=0TETRAGRAM FOR GOING TO MEET;2ENCOUNTERS;2STOVE;2GREATNESS;2ENLARGEMENT;2PATTERN",
   "1D335=0TETRAGRAM FOR RITUAL;2FLIGHT;2VASTNESS OR WASTING;2CONSTANCY;2MEASURE;2ETERNITY;2UNITY",
   "1D33C=0TETRAGRAM FOR DIMINISHMENT;2CLOSED MOUTH;2GUARDEDNESS;2GATHERING IN;2MASSING",
   "1D341=0TETRAGRAM FOR ACCUMULATION;2EMBELLISHMENT;2DOUBT;2WATCH;2SINKING;2INNER;2DEPARTURE",
   "1D348=0TETRAGRAM FOR DARKENING;2DIMMING;2EXHAUSTION;2SEVERANCE;2STOPPAGE;2HARDNESS",
   "1D34E=0TETRAGRAM FOR COMPLETION;2CLOSURE;2FAILURE;2AGGRAVATION;2COMPLIANCE;2ON THE VERGE",
   "1D354=0TETRAGRAM FOR DIFFICULTIES;2LABOURING;2FOSTERING;1D360=0COUNTING ROD UNIT DIGIT ONE",
   "1D361=0COUNTING ROD UNIT DIGIT TWO;4THREE;4FOUR;4FIVE;4SIX;4SEVEN;4EIGHT;4NINE",
   "1D369=0COUNTING ROD TENS DIGIT ONE;4TWO;4THREE;4FOUR;4FIVE;4SIX;4SEVEN;4EIGHT;4NINE",
   "1D372=0IDEOGRAPHIC TALLY MARK ONE;3TWO;3THREE;3FOUR;3FIVE;0TALLY MARK ONE;2FIVE",
   "1D400=0MATHEMATICAL BOLD CAPITAL A;3B;3C;3D;3E;3F;3G;3H;3I;3J;3K;3L;3M;3N;3O;3P;3Q;3R;3S;3T",
   "1D414=0MATHEMATICAL BOLD CAPITAL U;3V;3W;3X;3Y;3Z;2SMALL A;3B;3C;3D;3E;3F;3G;3H;3I;3J;3K;3L",
   "1D426=0MATHEMATICAL BOLD SMALL M;3N;3O;3P;3Q;3R;3S;3T;3U;3V;3W;3X;3Y;3Z;1ITALIC CAPITAL A;3B",
   "1D436=0MATHEMATICAL ITALIC CAPITAL C;3D;3E;3F;3G;3H;3I;3J;3K;3L;3M;3N;3O;3P;3Q;3R;3S;3T;3U;3V",
   "1D44A=0MATHEMATICAL ITALIC CAPITAL W;3X;3Y;3Z;2SMALL A;3B;3C;3D;3E;3F;3G;1D456=3I;3J;3K;3L;3M",
   "1D45B=0MATHEMATICAL ITALIC SMALL N;3O;3P;3Q;3R;3S;3T;3U;3V;3W;3X;3Y;3Z;1BOLD ITALIC CAPITAL A",
   "1D469=0MATHEMATICAL BOLD ITALIC CAPITAL B;4C;4D;4E;4F;4G;4H;4I;4J;4K;4L;4M;4N;4O;4P;4Q;4R;4S",
   "1D47B=0MATHEMATICAL BOLD ITALIC CAPITAL T;4U;4V;4W;4X;4Y;4Z;3SMALL A;4B;4C;4D;4E;4F;4G;4H;4I",
   "1D48B=0MATHEMATICAL BOLD ITALIC SMALL J;4K;4L;4M;4N;4O;4P;4Q;4R;4S;4T;4U;4V;4W;4X;4Y;4Z",
   "1D49C=0MATHEMATICAL SCRIPT CAPITAL A;1D49E=3C;3D;1D4A2=3G;1D4A5=3J;3K;1D4A9=3N;3O;3P;3Q",
   "1D4AE=0MATHEMATICAL SCRIPT CAPITAL S;3T;3U;3V;3W;3X;3Y;3Z;2SMALL A;3B;3C;3D;1D4BB=3F;1D4BD=3H",
   "1D4BE=0MATHEMATICAL SCRIPT SMALL I;3J;3K;3L;3M;3N;1D4C5=3P;3Q;3R;3S;3T;3U;3V;3W;3X;3Y;3Z",
   "1D4D0=0MATHEMATICAL BOLD SCRIPT CAPITAL A;4B;4C;4D;4E;4F;4G;4H;4I;4J;4K;4L;4M;4N;4O;4P;4Q;4R",
   "1D4E2=0MATHEMATICAL BOLD SCRIPT CAPITAL S;4T;4U;4V;4W;4X;4Y;4Z;3SMALL A;4B;4C;4D;4E;4F;4G;4H",
   "1D4F2=0MATHEMATICAL BOLD SCRIPT SMALL I;4J;4K;4L;4M;4N;4O;4P;4Q;4R;4S;4T;4U;4V;4W;4X;4Y;4Z",
   "1D504=0MATHEMATICAL FRAKTUR CAPITAL A;3B;1D507=3D;3E;3F;3G;1D50D=3J;3K;3L;3M;3N;3O;3P;3Q",
   "1D516=0MATHEMATICAL FRAKTUR CAPITAL S;3T;3U;3V;3W;3X;3Y;1D51E=2SMALL A;3B;3C;3D;3E;3F;3G;3H",
   "1D526=0MATHEMATICAL FRAKTUR SMALL I;3J;3K;3L;3M;3N;3O;3P;3Q;3R;3S;3T;3U;3V;3W;3X;3Y;3Z",
   "1D538=0MATHEMATICAL DOUBLE-STRUCK CAPITAL A;3B;1D53B=3D;3E;3F;3G;1D540=3I;3J;3K;3L;3M",
   "1D546=0MATHEMATICAL DOUBLE-STRUCK CAPITAL O;1D54A=3S;3T;3U;3V;3W;3X;3Y;1D552=2SMALL A;3B;3C",
   "1D555=0MATHEMATICAL DOUBLE-STRUCK SMALL D;3E;3F;3G;3H;3I;3J;3K;3L;3M;3N;3O;3P;3Q;3R;3S;3T;3U",
   "1D567=0MATHEMATICAL DOUBLE-STRUCK SMALL V;3W;3X;3Y;3Z;1BOLD FRAKTUR CAPITAL A;4B;4C;4D;4E;4F",
   "1D572=0MATHEMATICAL BOLD FRAKTUR CAPITAL G;4H;4I;4J;4K;4L;4M;4N;4O;4P;4Q;4R;4S;4T;4U;4V;4W;4X",
   "1D584=0MATHEMATICAL BOLD FRAKTUR CAPITAL Y;4Z;3SMALL A;4B;4C;4D;4E;4F;4G;4H;4I;4J;4K;4L;4M;4N",
   "1D594=0MATHEMATICAL BOLD FRAKTUR SMALL O;4P;4Q;4R;4S;4T;4U;4V;4W;4X;4Y;4Z",
   "1D5A0=0MATHEMATICAL SANS-SERIF CAPITAL A;3B;3C;3D;3E;3F;3G;3H;3I;3J;3K;3L;3M;3N;3O;3P;3Q;3R",
   "1D5B2=0MATHEMATICAL SANS-SERIF CAPITAL S;3T;3U;3V;3W;3X;3Y;3Z;2SMALL A;3B;3C;3D;3E;3F;3G;3H",
   "1D5C2=0MATHEMATICAL SANS-SERIF SMALL I;3J;3K;3L;3M;3N;3O;3P;3Q;3R;3S;3T;3U;3V;3W;3X;3Y;3Z",
   "1D5D4=0MATHEMATICAL SANS-SERIF BOLD CAPITAL A;4B;4C;4D;4E;4F;4G;4H;4I;4J;4K;4L;4M;4N;4O;4P;4Q",
   "1D5E5=0MATHEMATICAL SANS-SERIF BOLD CAPITAL R;4S;4T;4U;4V;4W;4X;4Y;4Z;3SMALL A;4B;4C;4D;4E;4F",
   "1D5F4=0MATHEMATICAL SANS-SERIF BOLD SMALL G;4H;4I;4J;4K;4L;4M;4N;4O;4P;4Q;4R;4S;4T;4U;4V;4W",
   "1D605=0MATHEMATICAL SANS-SERIF BOLD SMALL X;4Y;4Z;2ITALIC CAPITAL A;4B;4C;4D;4E;4F;4G;4H;4I",
   "1D611=0MATHEMATICAL SANS-SERIF ITALIC CAPITAL J;4K;4L;4M;4N;4O;4P;4Q;4R;4S;4T;4U;4V;4W;4X;4Y",
   "1D621=0MATHEMATICAL SANS-SERIF ITALIC CAPITAL Z;3SMALL A;4B;4C;4D;4E;4F;4G;4H;4I;4J;4K;4L;4M",
   "1D62F=0MATHEMATICAL SANS-SERIF ITALIC SMALL N;4O;4P;4Q;4R;4S;4T;4U;4V;4W;4X;4Y;4Z",
   "1D63C=0MATHEMATICAL SANS-SERIF BOLD ITALIC CAPITAL A;5B;5C;5D;5E;5F;5G;5H;5I;5J;5K;5L;5M;5N",
   "1D64A=0MATHEMATICAL SANS-SERIF BOLD ITALIC CAPITAL O;5P;5Q;5R;5S;5T;5U;5V;5W;5X;5Y;5Z",
   "1D656=0MATHEMATICAL SANS-SERIF BOLD ITALIC SMALL A;5B;5C;5D;5E;5F;5G;5H;5I;5J;5K;5L;5M;5N;5O",
   "1D665=0MATHEMATICAL SANS-SERIF BOLD ITALIC SMALL P;5Q;5R;5S;5T;5U;5V;5W;5X;5Y;5Z",
   "1D670=0MATHEMATICAL MONOSPACE CAPITAL A;3B;3C;3D;3E;3F;3G;3H;3I;3J;3K;3L;3M;3N;3O;3P;3Q;3R;3S",
   "1D683=0MATHEMATICAL MONOSPACE CAPITAL T;3U;3V;3W;3X;3Y;3Z;2SMALL A;3B;3C;3D;3E;3F;3G;3H;3I;3J",
   "1D694=0MATHEMATICAL MONOSPACE SMALL K;3L;3M;3N;3O;3P;3Q;3R;3S;3T;3U;3V;3W;3X;3Y;3Z",
   "1D6A4=0MATHEMATICAL ITALIC SMALL DOTLESS I;4J;1D6A8=1BOLD CAPITAL ALPHA;3BETA;3GAMMA;3DELTA",
   "1D6AC=0MATHEMATICAL BOLD CAPITAL EPSILON;3ZETA;3ETA;3THETA;3IOTA;3KAPPA;3LAMDA;3MU;3NU;3XI",
   "1D6B6=0MATHEMATICAL BOLD CAPITAL OMICRON;3PI;3RHO;3THETA SYMBOL;3SIGMA;3TAU;3UPSILON;3PHI",
   "1D6BE=0MATHEMATICAL BOLD CAPITAL CHI;3PSI;3OMEGA;2NABLA;2SMALL ALPHA;3BETA;3GAMMA;3DELTA",
   "1D6C6=0MATHEMATICAL BOLD SMALL EPSILON;3ZETA;3ETA;3THETA;3IOTA;3KAPPA;3LAMDA;3MU;3NU;3XI",
   "1D6D0=0MATHEMATICAL BOLD SMALL OMICRON;3PI;3RHO;3FINAL SIGMA;3SIGMA;3TAU;3UPSILON;3PHI;3CHI",
   "1D6D9=0MATHEMATICAL BOLD SMALL PSI;3OMEGA;2PARTIAL DIFFERENTIAL;2EPSILON SYMBOL;2THETA SYMBOL",
   "1D6DE=0MATHEMATICAL BOLD KAPPA SYMBOL;2PHI SYMBOL;2RHO SYMBOL;2PI SYMBOL",
   "1D6E2=0MATHEMATICAL ITALIC CAPITAL ALPHA;3BETA;3GAMMA;3DELTA;3EPSILON;3ZETA;3ETA;3THETA;3IOTA",
   "1D6EB=0MATHEMATICAL ITALIC CAPITAL KAPPA;3LAMDA;3MU;3NU;3XI;3OMICRON;3PI;3RHO;3THETA SYMBOL",
   "1D6F4=0MATHEMATICAL ITALIC CAPITAL SIGMA;3TAU;3UPSILON;3PHI;3CHI;3PSI;3OMEGA;2NABLA",
   "1D6FC=0MATHEMATICAL ITALIC SMALL ALPHA;3BETA;3GAMMA;3DELTA;3EPSILON;3ZETA;3ETA;3THETA;3IOTA",
   "1D705=0MATHEMATICAL ITALIC SMALL KAPPA;3LAMDA;3MU;3NU;3XI;3OMICRON;3PI;3RHO;3FINAL SIGMA",
   "1D70E=0MATHEMATICAL ITALIC SMALL SIGMA;3TAU;3UPSILON;3PHI;3CHI;3PSI;3OMEGA",
   "1D715=0MATHEMATICAL ITALIC PARTIAL DIFFERENTIAL;2EPSILON SYMBOL;2THETA SYMBOL;2KAPPA SYMBOL",
   "1D719=0MATHEMATICAL ITALIC PHI SYMBOL;2RHO SYMBOL;2PI SYMBOL;1BOLD ITALIC CAPITAL ALPHA;4BETA",
   "1D71E=0MATHEMATICAL BOLD ITALIC CAPITAL GAMMA;4DELTA;4EPSILON;4ZETA;4ETA;4THETA;4IOTA;4KAPPA",
   "1D726=0MATHEMATICAL BOLD ITALIC CAPITAL LAMDA;4MU;4NU;4XI;4OMICRON;4PI;4RHO;4THETA SYMBOL",
   "1D72E=0MATHEMATICAL BOLD ITALIC CAPITAL SIGMA;4TAU;4UPSILON;4PHI;4CHI;4PSI;4OMEGA;3NABLA",
   "1D736=0MATHEMATICAL BOLD ITALIC SMALL ALPHA;4BETA;4GAMMA;4DELTA;4EPSILON;4ZETA;4ETA;4THETA",
   "1D73E=0MATHEMATICAL BOLD ITALIC SMALL IOTA;4KAPPA;4LAMDA;4MU;4NU;4XI;4OMICRON;4PI;4RHO",
   "1D747=0MATHEMATICAL BOLD ITALIC SMALL FINAL SIGMA;4SIGMA;4TAU;4UPSILON;4PHI;4CHI;4PSI;4OMEGA",
   "1D74F=0MATHEMATICAL BOLD ITALIC PARTIAL DIFFERENTIAL;3EPSILON SYMBOL;3THETA SYMBOL",
   "1D752=0MATHEMATICAL BOLD ITALIC KAPPA SYMBOL;3PHI SYMBOL;3RHO SYMBOL;3PI SYMBOL",
   "1D756=0MATHEMATICAL SANS-SERIF BOLD CAPITAL ALPHA;4BETA;4GAMMA;4DELTA;4EPSILON;4ZETA;4ETA",
   "1D75D=0MATHEMATICAL SANS-SERIF BOLD CAPITAL THETA;4IOTA;4KAPPA;4LAMDA;4MU;4NU;4XI;4OMICRON",
   "1D765=0MATHEMATICAL SANS-SERIF BOLD CAPITAL PI;4RHO;4THETA SYMBOL;4SIGMA;4TAU;4UPSILON;4PHI",
   "1D76C=0MATHEMATICAL SANS-SERIF BOLD CAPITAL CHI;4PSI;4OMEGA;3NABLA;3SMALL ALPHA;4BETA;4GAMMA",
   "1D773=0MATHEMATICAL SANS-SERIF BOLD SMALL DELTA;4EPSILON;4ZETA;4ETA;4THETA;4IOTA;4KAPPA",
   "1D77A=0MATHEMATICAL SANS-SERIF BOLD SMALL LAMDA;4MU;4NU;4XI;4OMICRON;4PI;4RHO;4FINAL SIGMA",
   "1D782=0MATHEMATICAL SANS-SERIF BOLD SMALL SIGMA;4TAU;4UPSILON;4PHI;4CHI;4PSI;4OMEGA",
   "1D789=0MATHEMATICAL SANS-SERIF BOLD PARTIAL DIFFERENTIAL;3EPSILON SYMBOL;3THETA SYMBOL",
   "1D78C=0MATHEMATICAL SANS-SERIF BOLD KAPPA SYMBOL;3PHI SYMBOL;3RHO SYMBOL;3PI SYMBOL",
   "1D790=0MATHEMATICAL SANS-SERIF BOLD ITALIC CAPITAL ALPHA;5BETA;5GAMMA;5DELTA;5EPSILON;5ZETA",
   "1D796=0MATHEMATICAL SANS-SERIF BOLD ITALIC CAPITAL ETA;5THETA;5IOTA;5KAPPA;5LAMDA;5MU;5NU;5XI",
   "1D79E=0MATHEMATICAL SANS-SERIF BOLD ITALIC CAPITAL OMICRON;5PI;5RHO;5THETA SYMBOL;5SIGMA;5TAU",
   "1D7A4=0MATHEMATICAL SANS-SERIF BOLD ITALIC CAPITAL UPSILON;5PHI;5CHI;5PSI;5OMEGA;4NABLA",
   "1D7AA=0MATHEMATICAL SANS-SERIF BOLD ITALIC SMALL ALPHA;5BETA;5GAMMA;5DELTA;5EPSILON;5ZETA",
   "1D7B0=0MATHEMATICAL SANS-SERIF BOLD ITALIC SMALL ETA;5THETA;5IOTA;5KAPPA;5LAMDA;5MU;5NU;5XI",
   "1D7B8=0MATHEMATICAL SANS-SERIF BOLD ITALIC SMALL OMICRON;5PI;5RHO;5FINAL SIGMA;5SIGMA;5TAU",
   "1D7BE=0MATHEMATICAL SANS-SERIF BOLD ITALIC SMALL UPSILON;5PHI;5CHI;5PSI;5OMEGA",
   "1D7C3=0MATHEMATICAL SANS-SERIF BOLD ITALIC PARTIAL DIFFERENTIAL;4EPSILON SYMBOL;4THETA SYMBOL",
   "1D7C6=0MATHEMATICAL SANS-SERIF BOLD ITALIC KAPPA SYMBOL;4PHI SYMBOL;4RHO SYMBOL;4PI SYMBOL",
   "1D7CA=0MATHEMATICAL BOLD CAPITAL DIGAMMA;2SMALL DIGAMMA;1D7CE=2DIGIT ZERO;3ONE;3TWO;3THREE",
   "1D7D2=0MATHEMATICAL BOLD DIGIT FOUR;3FIVE;3SIX;3SEVEN;3EIGHT;3NINE;1DOUBLE-STRUCK DIGIT ZERO",
   "1D7D9=0MATHEMATICAL DOUBLE-STRUCK DIGIT ONE;3TWO;3THREE;3FOUR;3FIVE;3SIX;3SEVEN;3EIGHT;3NINE",
   "1D7E2=0MATHEMATICAL SANS-SERIF DIGIT ZERO;3ONE;3TWO;3THREE;3FOUR;3FIVE;3SIX;3SEVEN;3EIGHT",
   "1D7EB=0MATHEMATICAL SANS-SERIF DIGIT NINE;2BOLD DIGIT ZERO;4ONE;4TWO;4THREE;4FOUR;4FIVE;4SIX",
   "1D7F3=0MATHEMATICAL SANS-SERIF BOLD DIGIT SEVEN;4EIGHT;4NINE;1MONOSPACE DIGIT ZERO;3ONE;3TWO",
   "1D7F9=0MATHEMATICAL MONOSPACE DIGIT THREE;3FOUR;3FIVE;3SIX;3SEVEN;3EIGHT;3NINE",
   "1D800=0SIGNWRITING HAND-FIST INDEX;1HAND-CIRCLE INDEX;1HAND-CUP INDEX;1HAND-OVAL INDEX",
   "1D804=0SIGNWRITING HAND-HINGE INDEX;1HAND-ANGLE INDEX;1HAND-FIST INDEX BENT",
   "1D807=0SIGNWRITING HAND-CIRCLE INDEX BENT;1HAND-FIST THUMB UNDER INDEX BENT",
   "1D809=0SIGNWRITING HAND-FIST INDEX RAISED KNUCKLE;3CUPPED;3HINGED;4LOW",
   "1D80D=0SIGNWRITING HAND-CIRCLE INDEX HINGE;1HAND-FIST INDEX MIDDLE;1HAND-CIRCLE INDEX MIDDLE",
   "1D810=0SIGNWRITING HAND-FIST INDEX MIDDLE BENT;4RAISED KNUCKLES;4HINGED;3UP MIDDLE HINGED",
   "1D814=0SIGNWRITING HAND-FIST INDEX HINGED MIDDLE UP;3MIDDLE CONJOINED;5INDEX BENT",
   "1D817=0SIGNWRITING HAND-FIST INDEX MIDDLE CONJOINED MIDDLE BENT;5CUPPED;5HINGED;4CROSSED",
   "1D81B=0SIGNWRITING HAND-CIRCLE INDEX MIDDLE CROSSED;1HAND-FIST MIDDLE BENT OVER INDEX",
   "1D81D=0SIGNWRITING HAND-FIST INDEX BENT OVER MIDDLE;3MIDDLE THUMB",
   "1D81F=0SIGNWRITING HAND-CIRCLE INDEX MIDDLE THUMB;1HAND-FIST INDEX MIDDLE STRAIGHT THUMB BENT",
   "1D821=0SIGNWRITING HAND-FIST INDEX MIDDLE BENT THUMB STRAIGHT;4THUMB BENT",
   "1D823=0SIGNWRITING HAND-FIST INDEX MIDDLE HINGED SPREAD THUMB SIDE",
   "1D824=0SIGNWRITING HAND-FIST INDEX UP MIDDLE HINGED THUMB SIDE;7CONJOINED",
   "1D826=0SIGNWRITING HAND-FIST INDEX HINGED MIDDLE UP THUMB SIDE",
   "1D827=0SIGNWRITING HAND-FIST INDEX MIDDLE UP SPREAD THUMB FORWARD;4THUMB CUPPED;5CIRCLED",
   "1D82A=0SIGNWRITING HAND-FIST INDEX MIDDLE THUMB HOOKED;5HINGED",
   "1D82C=0SIGNWRITING HAND-FIST THUMB BETWEEN INDEX MIDDLE STRAIGHT",
   "1D82D=0SIGNWRITING HAND-FIST INDEX MIDDLE CONJOINED THUMB SIDE;7CONJOINED;7BENT",
   "1D830=0SIGNWRITING HAND-FIST MIDDLE THUMB HOOKED INDEX UP;2INDEX THUMB HOOKED MIDDLE UP",
   "1D832=0SIGNWRITING HAND-FIST INDEX MIDDLE CONJOINED HINGED THUMB SIDE;4CROSSED THUMB SIDE",
   "1D834=0SIGNWRITING HAND-FIST INDEX MIDDLE CONJOINED THUMB FORWARD;5CUPPED THUMB FORWARD",
   "1D836=0SIGNWRITING HAND-FIST MIDDLE THUMB CUPPED INDEX UP;2INDEX THUMB CUPPED MIDDLE UP",
   "1D838=0SIGNWRITING HAND-FIST MIDDLE THUMB CIRCLED INDEX UP;6HINGED",
   "1D83A=0SIGNWRITING HAND-FIST INDEX THUMB ANGLED OUT MIDDLE UP;5IN MIDDLE UP",
   "1D83C=0SIGNWRITING HAND-FIST INDEX THUMB CIRCLED MIDDLE UP;3MIDDLE THUMB CONJOINED HINGED",
   "1D83E=0SIGNWRITING HAND-FIST INDEX MIDDLE THUMB ANGLED OUT;6",
   "1D840=0SIGNWRITING HAND-FIST MIDDLE THUMB ANGLED OUT INDEX UP;7CROSSED;5INDEX UP",
   "1D843=0SIGNWRITING HAND-FIST INDEX THUMB HOOKED MIDDLE HINGED;1HAND-FLAT FOUR FINGERS;4BENT",
   "1D846=0SIGNWRITING HAND-FLAT FOUR FINGERS HINGED;4CONJOINED;5SPLIT",
   "1D849=0SIGNWRITING HAND-CLAW FOUR FINGERS CONJOINED;1HAND-FIST FOUR FINGERS CONJOINED BENT",
   "1D84B=0SIGNWRITING HAND-HINGE FOUR FINGERS CONJOINED;1HAND-FLAT FIVE FINGERS SPREAD",
   "1D84D=0SIGNWRITING HAND-FLAT HEEL FIVE FINGERS SPREAD;2FIVE FINGERS SPREAD FOUR BENT",
   "1D84F=0SIGNWRITING HAND-FLAT HEEL FIVE FINGERS SPREAD FOUR BENT;2FIVE FINGERS SPREAD BENT",
   "1D851=0SIGNWRITING HAND-FLAT HEEL FIVE FINGERS SPREAD BENT;2FIVE FINGERS SPREAD THUMB FORWARD",
   "1D853=0SIGNWRITING HAND-CUP FIVE FINGERS SPREAD;5OPEN;1HAND-HINGE FIVE FINGERS SPREAD OPEN",
   "1D856=0SIGNWRITING HAND-OVAL FIVE FINGERS SPREAD;1HAND-FLAT FIVE FINGERS SPREAD HINGED",
   "1D858=0SIGNWRITING HAND-FLAT FIVE FINGERS SPREAD HINGED THUMB SIDE;6NO THUMB;2",
   "1D85B=0SIGNWRITING HAND-FLAT BETWEEN PALM FACINGS;2HEEL;2THUMB SIDE;2HEEL THUMB SIDE",
   "1D85F=0SIGNWRITING HAND-FLAT THUMB BENT;3FORWARD;2SPLIT INDEX THUMB SIDE;3CENTRE;4THUMB SIDE",
   "1D864=0SIGNWRITING HAND-FLAT SPLIT CENTRE THUMB SIDE BENT;3LITTLE;1HAND-CLAW;2THUMB SIDE",
   "1D868=0SIGNWRITING HAND-CLAW NO THUMB;2THUMB FORWARD;1HAND-HOOK CURLICUE;2;1HAND-CUP OPEN;2",
   "1D86E=0SIGNWRITING HAND-CUP OPEN THUMB SIDE;2THUMB SIDE;2OPEN NO THUMB;2NO THUMB",
   "1D872=0SIGNWRITING HAND-CUP OPEN THUMB FORWARD;2THUMB FORWARD;1HAND-CURLICUE OPEN;2",
   "1D876=0SIGNWRITING HAND-CIRCLE;1HAND-OVAL;2THUMB SIDE;2NO THUMB;2THUMB FORWARD",
   "1D87B=0SIGNWRITING HAND-HINGE OPEN;3THUMB FORWARD;2;2SMALL;2OPEN THUMB SIDE;2THUMB SIDE",
   "1D881=0SIGNWRITING HAND-HINGE OPEN NO THUMB;2NO THUMB;2THUMB SIDE TOUCHING INDEX",
   "1D884=0SIGNWRITING HAND-HINGE THUMB BETWEEN MIDDLE RING;1HAND-ANGLE",
   "1D886=0SIGNWRITING HAND-FIST INDEX MIDDLE RING;1HAND-CIRCLE INDEX MIDDLE RING",
   "1D888=0SIGNWRITING HAND-HINGE INDEX MIDDLE RING;1HAND-ANGLE INDEX MIDDLE RING",
   "1D88A=0SIGNWRITING HAND-HINGE LITTLE;1HAND-FIST INDEX MIDDLE RING BENT;5CONJOINED",
   "1D88D=0SIGNWRITING HAND-HINGE INDEX MIDDLE RING CONJOINED;1HAND-FIST LITTLE DOWN",
   "1D88F=0SIGNWRITING HAND-FIST LITTLE DOWN RIPPLE STRAIGHT;5CURVED;4OTHERS CIRCLED;3UP",
   "1D893=0SIGNWRITING HAND-FIST THUMB UNDER LITTLE UP;1HAND-CIRCLE LITTLE UP",
   "1D895=0SIGNWRITING HAND-OVAL LITTLE UP;1HAND-ANGLE LITTLE UP;1HAND-FIST LITTLE RAISED KNUCKLE",
   "1D898=0SIGNWRITING HAND-FIST LITTLE BENT;3TOUCHES THUMB;3THUMB;1HAND-HINGE LITTLE THUMB",
   "1D89C=0SIGNWRITING HAND-FIST LITTLE INDEX THUMB;1HAND-HINGE LITTLE INDEX THUMB",
   "1D89E=0SIGNWRITING HAND-ANGLE LITTLE INDEX THUMB INDEX THUMB OUT;7;1HAND-FIST LITTLE INDEX",
   "1D8A1=0SIGNWRITING HAND-CIRCLE LITTLE INDEX;1HAND-HINGE LITTLE INDEX;1HAND-ANGLE LITTLE INDEX",
   "1D8A4=0SIGNWRITING HAND-FIST INDEX MIDDLE LITTLE;1HAND-CIRCLE INDEX MIDDLE LITTLE",
   "1D8A6=0SIGNWRITING HAND-HINGE INDEX MIDDLE LITTLE;2RING;1HAND-ANGLE INDEX MIDDLE LITTLE",
   "1D8A9=0SIGNWRITING HAND-FIST INDEX MIDDLE CROSS LITTLE;1HAND-CIRCLE INDEX MIDDLE CROSS LITTLE",
   "1D8AB=0SIGNWRITING HAND-FIST RING DOWN;1HAND-HINGE RING DOWN INDEX THUMB HOOK MIDDLE",
   "1D8AD=0SIGNWRITING HAND-ANGLE RING DOWN MIDDLE THUMB INDEX CROSS;1HAND-FIST RING UP",
   "1D8AF=0SIGNWRITING HAND-FIST RING RAISED KNUCKLE;3LITTLE;1HAND-CIRCLE RING LITTLE",
   "1D8B2=0SIGNWRITING HAND-OVAL RING LITTLE;1HAND-ANGLE RING LITTLE;1HAND-FIST RING MIDDLE",
   "1D8B5=0SIGNWRITING HAND-FIST RING MIDDLE CONJOINED;4RAISED KNUCKLES;3INDEX;3THUMB",
   "1D8B9=0SIGNWRITING HAND-HOOK RING THUMB;1HAND-FIST INDEX RING LITTLE",
   "1D8BB=0SIGNWRITING HAND-CIRCLE INDEX RING LITTLE;1HAND-CURLICUE INDEX RING LITTLE ON",
   "1D8BD=0SIGNWRITING HAND-HOOK INDEX RING LITTLE OUT;5IN;5UNDER;1HAND-CUP INDEX RING LITTLE",
   "1D8C1=0SIGNWRITING HAND-HINGE INDEX RING LITTLE;1HAND-ANGLE INDEX RING LITTLE OUT;5",
   "1D8C4=0SIGNWRITING HAND-FIST MIDDLE DOWN;1HAND-HINGE MIDDLE;1HAND-FIST MIDDLE UP",
   "1D8C7=0SIGNWRITING HAND-CIRCLE MIDDLE UP;1HAND-FIST MIDDLE RAISED KNUCKLE;3UP THUMB SIDE",
   "1D8CA=0SIGNWRITING HAND-HOOK MIDDLE THUMB;1HAND-FIST MIDDLE THUMB LITTLE;3LITTLE;3RING LITTLE",
   "1D8CE=0SIGNWRITING HAND-CIRCLE MIDDLE RING LITTLE;1HAND-CURLICUE MIDDLE RING LITTLE ON",
   "1D8D0=0SIGNWRITING HAND-CUP MIDDLE RING LITTLE;1HAND-HINGE MIDDLE RING LITTLE",
   "1D8D2=0SIGNWRITING HAND-ANGLE MIDDLE RING LITTLE OUT;5IN;5",
   "1D8D5=0SIGNWRITING HAND-CIRCLE MIDDLE RING LITTLE BENT",
   "1D8D6=0SIGNWRITING HAND-CLAW MIDDLE RING LITTLE CONJOINED;6SIDE",
   "1D8D8=0SIGNWRITING HAND-HOOK MIDDLE RING LITTLE CONJOINED OUT;6IN;6;1HAND-HINGE INDEX HINGED",
   "1D8DC=0SIGNWRITING HAND-FIST INDEX THUMB SIDE;1HAND-HINGE INDEX THUMB SIDE",
   "1D8DE=0SIGNWRITING HAND-FIST INDEX THUMB SIDE THUMB DIAGONAL;6CONJOINED;6BENT;5INDEX BENT",
   "1D8E2=0SIGNWRITING HAND-FIST INDEX THUMB SIDE BOTH BENT;5INDEX HINGE;4FORWARD INDEX STRAIGHT",
   "1D8E5=0SIGNWRITING HAND-FIST INDEX THUMB FORWARD INDEX BENT;4HOOK;4CURLICUE",
   "1D8E8=0SIGNWRITING HAND-FIST INDEX THUMB CURVE THUMB INSIDE",
   "1D8E9=0SIGNWRITING HAND-CLAW INDEX THUMB CURVE THUMB INSIDE",
   "1D8EA=0SIGNWRITING HAND-FIST INDEX THUMB CURVE THUMB UNDER;4CIRCLE;1HAND-CUP INDEX THUMB",
   "1D8ED=0SIGNWRITING HAND-CUP INDEX THUMB OPEN;1HAND-HINGE INDEX THUMB OPEN;4LARGE;4;4SMALL",
   "1D8F2=0SIGNWRITING HAND-ANGLE INDEX THUMB OUT;4IN;4;1HAND-FIST THUMB;3HEEL;3SIDE DIAGONAL",
   "1D8F8=0SIGNWRITING HAND-FIST THUMB SIDE CONJOINED;4BENT;3FORWARD;3BETWEEN INDEX MIDDLE",
   "1D8FC=0SIGNWRITING HAND-FIST THUMB BETWEEN MIDDLE RING;4RING LITTLE;3UNDER TWO FINGERS",
   "1D8FF=0SIGNWRITING HAND-FIST THUMB OVER TWO FINGERS;3UNDER THREE FINGERS;4FOUR FINGERS",
   "1D902=0SIGNWRITING HAND-FIST THUMB OVER FOUR RAISED KNUCKLES;2;2HEEL;1TOUCH SINGLE;2MULTIPLE",
   "1D907=0SIGNWRITING TOUCH BETWEEN;1GRASP SINGLE;2MULTIPLE;2BETWEEN;1STRIKE SINGLE;2MULTIPLE",
   "1D90D=0SIGNWRITING STRIKE BETWEEN;1BRUSH SINGLE;2MULTIPLE;2BETWEEN;1RUB SINGLE;2MULTIPLE",
   "1D913=0SIGNWRITING RUB BETWEEN;1SURFACE SYMBOLS;2BETWEEN;1SQUEEZE LARGE SINGLE;2SMALL SINGLE",
   "1D918=0SIGNWRITING SQUEEZE LARGE MULTIPLE;2SMALL MULTIPLE;2SEQUENTIAL;1FLICK LARGE SINGLE",
   "1D91C=0SIGNWRITING FLICK SMALL SINGLE;2LARGE MULTIPLE;2SMALL MULTIPLE;2SEQUENTIAL",
   "1D920=0SIGNWRITING SQUEEZE FLICK ALTERNATING;1MOVEMENT-HINGE UP DOWN LARGE;4SMALL;3SEQUENTIAL",
   "1D924=0SIGNWRITING MOVEMENT-HINGE DOWN SEQUENTIAL;2UP DOWN ALTERNATING LARGE;5SMALL",
   "1D927=0SIGNWRITING MOVEMENT-HINGE SIDE TO SIDE SCISSORS;1MOVEMENT-WALLPLANE FINGER CONTACT",
   "1D929=0SIGNWRITING MOVEMENT-FLOORPLANE FINGER CONTACT",
   "1D92A=0SIGNWRITING MOVEMENT-WALLPLANE SINGLE STRAIGHT SMALL;4MEDIUM;4LARGE;4LARGEST",
   "1D92E=0SIGNWRITING MOVEMENT-WALLPLANE SINGLE WRIST FLEX;2DOUBLE STRAIGHT;3WRIST FLEX",
   "1D931=0SIGNWRITING MOVEMENT-WALLPLANE DOUBLE ALTERNATING;4WRIST FLEX;2CROSS",
   "1D934=0SIGNWRITING MOVEMENT-WALLPLANE TRIPLE STRAIGHT MOVEMENT;3WRIST FLEX;3ALTERNATING",
   "1D937=0SIGNWRITING MOVEMENT-WALLPLANE TRIPLE ALTERNATING WRIST FLEX;2BEND SMALL;3MEDIUM",
   "1D93A=0SIGNWRITING MOVEMENT-WALLPLANE BEND LARGE;2CORNER SMALL;3MEDIUM;3LARGE;3ROTATION",
   "1D93F=0SIGNWRITING MOVEMENT-WALLPLANE CHECK SMALL;3MEDIUM;3LARGE;2BOX SMALL;3MEDIUM;3LARGE",
   "1D945=0SIGNWRITING MOVEMENT-WALLPLANE ZIGZAG SMALL;3MEDIUM;3LARGE;2PEAKS SMALL;3MEDIUM;3LARGE",
   "1D94B=0SIGNWRITING TRAVEL-WALLPLANE ROTATION-WALLPLANE SINGLE;3DOUBLE;3ALTERNATING",
   "1D94E=0SIGNWRITING TRAVEL-WALLPLANE ROTATION-FLOORPLANE SINGLE;3DOUBLE;3ALTERNATING;2SHAKING",
   "1D952=0SIGNWRITING TRAVEL-WALLPLANE ARM SPIRAL SINGLE;4DOUBLE;4TRIPLE",
   "1D955=0SIGNWRITING MOVEMENT-DIAGONAL AWAY SMALL;3MEDIUM;3LARGE;3LARGEST;2TOWARDS SMALL",
   "1D95A=0SIGNWRITING MOVEMENT-DIAGONAL TOWARDS MEDIUM;3LARGE;3LARGEST;2BETWEEN AWAY SMALL",
   "1D95E=0SIGNWRITING MOVEMENT-DIAGONAL BETWEEN AWAY MEDIUM;4LARGE;4LARGEST;3TOWARDS SMALL",
   "1D962=0SIGNWRITING MOVEMENT-DIAGONAL BETWEEN TOWARDS MEDIUM;4LARGE;4LARGEST",
   "1D965=0SIGNWRITING MOVEMENT-FLOORPLANE SINGLE STRAIGHT SMALL;4MEDIUM;4LARGE;4LARGEST",
   "1D969=0SIGNWRITING MOVEMENT-FLOORPLANE SINGLE WRIST FLEX;2DOUBLE STRAIGHT;3WRIST FLEX",
   "1D96C=0SIGNWRITING MOVEMENT-FLOORPLANE DOUBLE ALTERNATING;4WRIST FLEX;2CROSS",
   "1D96F=0SIGNWRITING MOVEMENT-FLOORPLANE TRIPLE STRAIGHT MOVEMENT;3WRIST FLEX",
   "1D971=0SIGNWRITING MOVEMENT-FLOORPLANE TRIPLE ALTERNATING MOVEMENT;4WRIST FLEX;2BEND",
   "1D974=0SIGNWRITING MOVEMENT-FLOORPLANE CORNER SMALL;3MEDIUM;3LARGE;2CHECK;2BOX SMALL;3MEDIUM",
   "1D97A=0SIGNWRITING MOVEMENT-FLOORPLANE BOX LARGE;2ZIGZAG SMALL;3MEDIUM;3LARGE;2PEAKS SMALL",
   "1D97F=0SIGNWRITING MOVEMENT-FLOORPLANE PEAKS MEDIUM;3LARGE",
   "1D981=0SIGNWRITING TRAVEL-FLOORPLANE ROTATION-FLOORPLANE SINGLE;3DOUBLE;3ALTERNATING",
   "1D984=0SIGNWRITING TRAVEL-FLOORPLANE ROTATION-WALLPLANE SINGLE;3DOUBLE;3ALTERNATING;2SHAKING",
   "1D988=0SIGNWRITING MOVEMENT-WALLPLANE CURVE QUARTER SMALL;4MEDIUM;4LARGE;4LARGEST",
   "1D98C=0SIGNWRITING MOVEMENT-WALLPLANE CURVE HALF-CIRCLE SMALL;4MEDIUM;4LARGE;4LARGEST",
   "1D990=0SIGNWRITING MOVEMENT-WALLPLANE CURVE THREE-QUARTER CIRCLE SMALL;5MEDIUM;2HUMP SMALL",
   "1D993=0SIGNWRITING MOVEMENT-WALLPLANE HUMP MEDIUM;3LARGE;2LOOP SMALL;3MEDIUM;3LARGE",
   "1D998=0SIGNWRITING MOVEMENT-WALLPLANE LOOP SMALL DOUBLE;2WAVE CURVE DOUBLE SMALL;5MEDIUM",
   "1D99B=0SIGNWRITING MOVEMENT-WALLPLANE WAVE CURVE DOUBLE LARGE;4TRIPLE SMALL;5MEDIUM;5LARGE",
   "1D99F=0SIGNWRITING MOVEMENT-WALLPLANE CURVE THEN STRAIGHT;2CURVED CROSS SMALL;4MEDIUM",
   "1D9A2=0SIGNWRITING ROTATION-WALLPLANE SINGLE;2DOUBLE;2ALTERNATE;1MOVEMENT-WALLPLANE SHAKING",
   "1D9A6=0SIGNWRITING MOVEMENT-WALLPLANE CURVE HITTING FRONT WALL;2HUMP HITTING FRONT WALL",
   "1D9A8=0SIGNWRITING MOVEMENT-WALLPLANE LOOP HITTING FRONT WALL;2WAVE HITTING FRONT WALL",
   "1D9AA=0SIGNWRITING ROTATION-WALLPLANE SINGLE HITTING FRONT WALL;2DOUBLE HITTING FRONT WALL",
   "1D9AC=0SIGNWRITING ROTATION-WALLPLANE ALTERNATING HITTING FRONT WALL",
   "1D9AD=0SIGNWRITING MOVEMENT-WALLPLANE CURVE HITTING CHEST;2HUMP HITTING CHEST",
   "1D9AF=0SIGNWRITING MOVEMENT-WALLPLANE LOOP HITTING CHEST;2WAVE HITTING CHEST",
   "1D9B1=0SIGNWRITING ROTATION-WALLPLANE SINGLE HITTING CHEST;2DOUBLE HITTING CHEST",
   "1D9B3=0SIGNWRITING ROTATION-WALLPLANE ALTERNATING HITTING CHEST",
   "1D9B4=0SIGNWRITING MOVEMENT-WALLPLANE WAVE DIAGONAL PATH SMALL;5MEDIUM;5LARGE",
   "1D9B7=0SIGNWRITING MOVEMENT-FLOORPLANE CURVE HITTING CEILING SMALL;5LARGE",
   "1D9B9=0SIGNWRITING MOVEMENT-FLOORPLANE HUMP HITTING CEILING SMALL DOUBLE;5LARGE DOUBLE",
   "1D9BB=0SIGNWRITING MOVEMENT-FLOORPLANE HUMP HITTING CEILING SMALL TRIPLE;5LARGE TRIPLE",
   "1D9BD=0SIGNWRITING MOVEMENT-FLOORPLANE LOOP HITTING CEILING SMALL SINGLE;5LARGE SINGLE",
   "1D9BF=0SIGNWRITING MOVEMENT-FLOORPLANE LOOP HITTING CEILING SMALL DOUBLE;5LARGE DOUBLE",
   "1D9C1=0SIGNWRITING MOVEMENT-FLOORPLANE WAVE HITTING CEILING SMALL;5LARGE",
   "1D9C3=0SIGNWRITING ROTATION-FLOORPLANE SINGLE HITTING CEILING;2DOUBLE HITTING CEILING",
   "1D9C5=0SIGNWRITING ROTATION-FLOORPLANE ALTERNATING HITTING CEILING",
   "1D9C6=0SIGNWRITING MOVEMENT-FLOORPLANE CURVE HITTING FLOOR SMALL;5LARGE",
   "1D9C8=0SIGNWRITING MOVEMENT-FLOORPLANE HUMP HITTING FLOOR SMALL DOUBLE;5LARGE DOUBLE",
   "1D9CA=0SIGNWRITING MOVEMENT-FLOORPLANE HUMP HITTING FLOOR TRIPLE SMALL TRIPLE;6LARGE TRIPLE",
   "1D9CC=0SIGNWRITING MOVEMENT-FLOORPLANE LOOP HITTING FLOOR SMALL SINGLE;5LARGE SINGLE",
   "1D9CE=0SIGNWRITING MOVEMENT-FLOORPLANE LOOP HITTING FLOOR SMALL DOUBLE;5LARGE DOUBLE",
   "1D9D0=0SIGNWRITING MOVEMENT-FLOORPLANE WAVE HITTING FLOOR SMALL;5LARGE",
   "1D9D2=0SIGNWRITING ROTATION-FLOORPLANE SINGLE HITTING FLOOR;2DOUBLE HITTING FLOOR",
   "1D9D4=0SIGNWRITING ROTATION-FLOORPLANE ALTERNATING HITTING FLOOR",
   "1D9D5=0SIGNWRITING MOVEMENT-FLOORPLANE CURVE SMALL;3MEDIUM;3LARGE;3LARGEST;3COMBINED",
   "1D9DA=0SIGNWRITING MOVEMENT-FLOORPLANE HUMP SMALL;2LOOP SMALL;2WAVE SNAKE;3SMALL;3LARGE",
   "1D9DF=0SIGNWRITING ROTATION-FLOORPLANE SINGLE;2DOUBLE;2ALTERNATING",
   "1D9E2=0SIGNWRITING MOVEMENT-FLOORPLANE SHAKING PARALLEL",
   "1D9E3=0SIGNWRITING MOVEMENT-WALLPLANE ARM CIRCLE SMALL SINGLE;4MEDIUM SINGLE;4SMALL DOUBLE",
   "1D9E6=0SIGNWRITING MOVEMENT-WALLPLANE ARM CIRCLE MEDIUM DOUBLE",
   "1D9E7=0SIGNWRITING MOVEMENT-FLOORPLANE ARM CIRCLE HITTING WALL SMALL SINGLE;6MEDIUM SINGLE",
   "1D9E9=0SIGNWRITING MOVEMENT-FLOORPLANE ARM CIRCLE HITTING WALL LARGE SINGLE;6SMALL DOUBLE",
   "1D9EB=0SIGNWRITING MOVEMENT-FLOORPLANE ARM CIRCLE HITTING WALL MEDIUM DOUBLE;6LARGE DOUBLE",
   "1D9ED=0SIGNWRITING MOVEMENT-WALLPLANE WRIST CIRCLE FRONT SINGLE;5DOUBLE",
   "1D9EF=0SIGNWRITING MOVEMENT-FLOORPLANE WRIST CIRCLE HITTING WALL SINGLE;6DOUBLE",
   "1D9F1=0SIGNWRITING MOVEMENT-WALLPLANE FINGER CIRCLES SINGLE;4DOUBLE",
   "1D9F3=0SIGNWRITING MOVEMENT-FLOORPLANE FINGER CIRCLES HITTING WALL SINGLE;6DOUBLE",
   "1D9F5=0SIGNWRITING DYNAMIC ARROWHEAD SMALL;3LARGE;2FAST;2SLOW;2TENSE;2RELAXED;2SIMULTANEOUS",
   "1D9FC=0SIGNWRITING DYNAMIC SIMULTANEOUS ALTERNATING;2EVERY OTHER TIME;2GRADUAL;1HEAD;2RIM",
   "1DA01=0SIGNWRITING HEAD MOVEMENT-WALLPLANE STRAIGHT;3TILT;2MOVEMENT-FLOORPLANE STRAIGHT",
   "1DA04=0SIGNWRITING HEAD MOVEMENT-WALLPLANE CURVE;2MOVEMENT-FLOORPLANE CURVE;2MOVEMENT CIRCLE",
   "1DA07=0SIGNWRITING FACE DIRECTION POSITION NOSE FORWARD TILTING;5UP OR DOWN;8TILTING",
   "1DA0A=0SIGNWRITING EYEBROWS STRAIGHT UP;3NEUTRAL;3DOWN;1DREAMY EYEBROWS NEUTRAL DOWN",
   "1DA0E=0SIGNWRITING DREAMY EYEBROWS DOWN NEUTRAL;3UP NEUTRAL;3NEUTRAL UP;1FOREHEAD NEUTRAL",
   "1DA12=0SIGNWRITING FOREHEAD CONTACT;2WRINKLED;1EYES OPEN;2SQUEEZED;2CLOSED;1EYE BLINK SINGLE",
   "1DA18=0SIGNWRITING EYE BLINK MULTIPLE;1EYES HALF OPEN;2WIDE OPEN;2HALF CLOSED",
   "1DA1C=0SIGNWRITING EYES WIDENING MOVEMENT;1EYE WINK;1EYELASHES UP;2DOWN;2FLUTTERING",
   "1DA21=0SIGNWRITING EYEGAZE-WALLPLANE STRAIGHT;3DOUBLE;3ALTERNATING",
   "1DA24=0SIGNWRITING EYEGAZE-FLOORPLANE STRAIGHT;3DOUBLE;3ALTERNATING;1EYEGAZE-WALLPLANE CURVED",
   "1DA28=0SIGNWRITING EYEGAZE-FLOORPLANE CURVED;1EYEGAZE-WALLPLANE CIRCLING;1CHEEKS PUFFED",
   "1DA2B=0SIGNWRITING CHEEKS NEUTRAL;2SUCKED;1TENSE CHEEKS HIGH;3MIDDLE;3LOW;1EARS;1NOSE NEUTRAL",
   "1DA32=0SIGNWRITING NOSE CONTACT;2WRINKLES;2WIGGLES;1AIR BLOWING OUT;2SUCKING IN",
   "1DA37=0SIGNWRITING AIR BLOW SMALL ROTATIONS;2SUCK SMALL ROTATIONS;1BREATH INHALE;2EXHALE",
   "1DA3B=0SIGNWRITING MOUTH CLOSED NEUTRAL;3FORWARD;3CONTACT;2SMILE;3WRINKLED;3OPEN;2FROWN",
   "1DA42=0SIGNWRITING MOUTH FROWN WRINKLED;3OPEN;2OPEN CIRCLE;3FORWARD;3WRINKLED;3OVAL;4WRINKLED",
   "1DA49=0SIGNWRITING MOUTH OPEN OVAL YAWN;3RECTANGLE;4WRINKLED;4YAWN;2KISS;3FORWARD;3WRINKLED",
   "1DA50=0SIGNWRITING MOUTH TENSE;3FORWARD;3SUCKED;1LIPS PRESSED TOGETHER;1LIP LOWER OVER UPPER",
   "1DA55=0SIGNWRITING LIP UPPER OVER LOWER;1MOUTH CORNERS;2WRINKLES SINGLE;3DOUBLE",
   "1DA59=0SIGNWRITING TONGUE STICKING OUT FAR;2LICKING LIPS;2TIP BETWEEN LIPS",
   "1DA5C=0SIGNWRITING TONGUE TIP TOUCHING INSIDE MOUTH;2INSIDE MOUTH RELAXED",
   "1DA5E=0SIGNWRITING TONGUE MOVES AGAINST CHEEK;2CENTRE STICKING OUT;3INSIDE MOUTH;1TEETH",
   "1DA62=0SIGNWRITING TEETH MOVEMENT;2ON TONGUE;4MOVEMENT;3LIPS;4MOVEMENT;2BITE LIPS",
   "1DA68=0SIGNWRITING MOVEMENT-WALLPLANE JAW;1MOVEMENT-FLOORPLANE JAW;1NECK;1HAIR;1EXCITEMENT",
   "1DA6D=0SIGNWRITING SHOULDER HIP SPINE;3POSITIONS;1WALLPLANE SHOULDER HIP MOVE",
   "1DA70=0SIGNWRITING FLOORPLANE SHOULDER HIP MOVE;1SHOULDER TILTING FROM WAIST",
   "1DA72=0SIGNWRITING TORSO-WALLPLANE STRAIGHT STRETCH;2CURVED BEND;1TORSO-FLOORPLANE TWISTING",
   "1DA75=0SIGNWRITING UPPER BODY TILTING FROM HIP JOINTS;1LIMB COMBINATION;2LENGTH-1;2LENGTH-2",
   "1DA79=0SIGNWRITING LIMB LENGTH-3;2LENGTH-4;2LENGTH-5;2LENGTH-6;2LENGTH-7;1FINGER",
   "1DA7F=0SIGNWRITING LOCATION-WALLPLANE SPACE;1LOCATION-FLOORPLANE SPACE;1LOCATION HEIGHT",
   "1DA82=0SIGNWRITING LOCATION WIDTH;2DEPTH;2HEAD NECK;2TORSO;2LIMBS DIGITS;1COMMA;1FULL STOP",
   "1DA89=0SIGNWRITING SEMICOLON;1COLON;1PARENTHESIS;1DA9B=1FILL MODIFIER-2;2MODIFIER-3",
   "1DA9D=0SIGNWRITING FILL MODIFIER-4;2MODIFIER-5;2MODIFIER-6;1DAA1=1ROTATION MODIFIER-2",
   "1DAA2=0SIGNWRITING ROTATION MODIFIER-3;2MODIFIER-4;2MODIFIER-5;2MODIFIER-6;2MODIFIER-7",
   "1DAA7=0SIGNWRITING ROTATION MODIFIER-8;2MODIFIER-9;2MODIFIER-10;2MODIFIER-11;2MODIFIER-12",
   "1DAAC=0SIGNWRITING ROTATION MODIFIER-13;2MODIFIER-14;2MODIFIER-15;2MODIFIER-16",
   "1DF00=0LATIN SMALL LETTER FENG DIGRAPH WITH TRILL;3REVERSED SCRIPT G",
   "1DF02=0LATIN LETTER SMALL CAPITAL TURNED G;1SMALL LETTER REVERSED K",
   "1DF04=0LATIN LETTER SMALL CAPITAL L WITH BELT;1SMALL LETTER LEZH WITH RETROFLEX HOOK",
   "1DF06=0LATIN SMALL LETTER TURNED Y WITH BELT;3REVERSED ENG",
   "1DF08=0LATIN SMALL LETTER TURNED R WITH LONG LEG AND RETROFLEX HOOK",
   "1DF09=0LATIN SMALL LETTER T WITH HOOK AND RETROFLEX HOOK",
   "1DF0A=0LATIN LETTER RETROFLEX CLICK WITH RETROFLEX HOOK;1SMALL LETTER ESH WITH DOUBLE BAR",
   "1DF0C=0LATIN SMALL LETTER ESH WITH DOUBLE BAR AND CURL;3TURNED T WITH CURL",
   "1DF0E=0LATIN LETTER INVERTED GLOTTAL STOP WITH CURL;2STRETCHED C WITH CURL",
   "1DF10=0LATIN LETTER SMALL CAPITAL TURNED K;1SMALL LETTER L WITH FISHHOOK",
   "1DF12=0LATIN SMALL LETTER DEZH DIGRAPH WITH PALATAL HOOK;3L WITH BELT AND PALATAL HOOK",
   "1DF14=0LATIN SMALL LETTER ENG WITH PALATAL HOOK;3TURNED R WITH PALATAL HOOK",
   "1DF16=0LATIN SMALL LETTER R WITH FISHHOOK AND PALATAL HOOK;3TESH DIGRAPH WITH PALATAL HOOK",
   "1DF18=0LATIN SMALL LETTER EZH WITH PALATAL HOOK;3DEZH DIGRAPH WITH RETROFLEX HOOK",
   "1DF1A=0LATIN SMALL LETTER I WITH STROKE AND RETROFLEX HOOK;3O WITH RETROFLEX HOOK",
   "1DF1C=0LATIN SMALL LETTER TESH DIGRAPH WITH RETROFLEX HOOK;3C WITH RETROFLEX HOOK",
   "1DF1E=0LATIN SMALL LETTER S WITH CURL;1DF25=3D WITH MID-HEIGHT LEFT HOOK",
   "1DF26=0LATIN SMALL LETTER L WITH MID-HEIGHT LEFT HOOK;3N WITH MID-HEIGHT LEFT HOOK",
   "1DF28=0LATIN SMALL LETTER R WITH MID-HEIGHT LEFT HOOK;3S WITH MID-HEIGHT LEFT HOOK",
   "1DF2A=0LATIN SMALL LETTER T WITH MID-HEIGHT LEFT HOOK;1E000=0COMBINING GLAGOLITIC LETTER AZU",
   "1E001=0COMBINING GLAGOLITIC LETTER BUKY;3VEDE;3GLAGOLI;3DOBRO;3YESTU;3ZHIVETE;1E008=3ZEMLJA",
   "1E009=0COMBINING GLAGOLITIC LETTER IZHE;3INITIAL IZHE;3I;3DJERVI;3KAKO;3LJUDIJE;3MYSLITE",
   "1E010=0COMBINING GLAGOLITIC LETTER NASHI;3ONU;3POKOJI;3RITSI;3SLOVO;3TVRIDO;3UKU;3FRITU;3HERU",
   "1E01B=0COMBINING GLAGOLITIC LETTER SHTA;3TSI;3CHRIVI;3SHA;3YERU;3YERI;3YATI;1E023=3YU",
   "1E024=0COMBINING GLAGOLITIC LETTER SMALL YUS;1E026=3YO;3IOTATED SMALL YUS;3BIG YUS",
   "1E029=0COMBINING GLAGOLITIC LETTER IOTATED BIG YUS;3FITA",
   "1E030=0MODIFIER LETTER CYRILLIC SMALL A;4BE;4VE;4GHE;4DE;4IE;4ZHE;4ZE;4I;4KA;4EL;4EM;4O;4PE",
   "1E03E=0MODIFIER LETTER CYRILLIC SMALL ER;4ES;4TE;4U;4EF;4HA;4TSE;4CHE;4SHA;4YERU;4E;4YU;4DZZE",
   "1E04B=0MODIFIER LETTER CYRILLIC SMALL SCHWA;4BYELORUSSIAN-UKRAINIAN I;4JE;4BARRED O",
   "1E04F=0MODIFIER LETTER CYRILLIC SMALL STRAIGHT U;4PALOCHKA;0CYRILLIC SUBSCRIPT SMALL LETTER A",
   "1E052=0CYRILLIC SUBSCRIPT SMALL LETTER BE;4VE;4GHE;4DE;4IE;4ZHE;4ZE;4I;4KA;4EL;4O;4PE;4ES;4U",
   "1E060=0CYRILLIC SUBSCRIPT SMALL LETTER EF;4HA;4TSE;4CHE;4SHA;4HARD SIGN;4YERU",
   "1E067=0CYRILLIC SUBSCRIPT SMALL LETTER GHE WITH UPTURN;4BYELORUSSIAN-UKRAINIAN I;4DZE;4DZHE",
   "1E06B=0MODIFIER LETTER CYRILLIC SMALL ES WITH DESCENDER;4YERU WITH BACK YER",
   "1E06D=0MODIFIER LETTER CYRILLIC SMALL STRAIGHT U WITH STROKE",
   "1E08F=0COMBINING CYRILLIC SMALL LETTER BYELORUSSIAN-UKRAINIAN I",
   "1E100=0NYIAKENG PUACHUE HMONG LETTER MA;4TSA;4NTA;4TA;4HA;4NA;4XA;4NKA;4CA;4LA;4SA;4ZA;4NCA",
   "1E10D=0NYIAKENG PUACHUE HMONG LETTER NTSA;4KA;4DA;4NYA;4NRA;4VA;4NTXA;4TXA;4FA;4RA;4QA;4YA",
   "1E119=0NYIAKENG PUACHUE HMONG LETTER NQA;4PA;4XYA;4NPA;4DLA;4NPLA;4HAH;4MLA;4PLA;4GA;4RRA;4A",
   "1E125=0NYIAKENG PUACHUE HMONG LETTER AA;4I;4U;4O;4OO;4E;4EE;4W;1E130=3TONE-B;3TONE-M;3TONE-J",
   "1E133=0NYIAKENG PUACHUE HMONG TONE-V;3TONE-S;3TONE-G;3TONE-D;3SIGN FOR PERSON;5THING",
   "1E139=0NYIAKENG PUACHUE HMONG SIGN FOR LOCATION;5ANIMAL;5INVERTEBRATE;4XW XW",
   "1E13D=0NYIAKENG PUACHUE HMONG SYLLABLE LENGTHENER;1E140=3DIGIT ZERO;4ONE;4TWO;4THREE;4FOUR",
   "1E145=0NYIAKENG PUACHUE HMONG DIGIT FIVE;4SIX;4SEVEN;4EIGHT;4NINE;1E14E=3LOGOGRAM NYAJ",
   "1E14F=0NYIAKENG PUACHUE HMONG CIRCLED CA;1E290=0TOTO LETTER PA;2BA;2TA;2DA;2KA;2GA;2MA;2NA",
   "1E298=0TOTO LETTER NGA;2SA;2CHA;2YA;2WA;2JA;2HA;2RA;2LA;2I;2BREATHY I;2IU;2BREATHY IU;2U;2E",
   "1E2A7=0TOTO LETTER BREATHY E;2EO;2BREATHY EO;2O;2AE;2BREATHY AE;2A;1SIGN RISING TONE",
   "1E2C0=0WANCHO LETTER AA;2A;2BA;2CA;2DA;2GA;2YA;2PHA;2LA;2NA;2PA;2TA;2THA;2FA;2SA;2SHA;2JA;2ZA",
   "1E2D2=0WANCHO LETTER WA;2VA;2KA;2O;2AU;2RA;2MA;2KHA;2HA;2E;2I;2NGA;2U;2LLHA;2TSA;2TRA;2ONG",
   "1E2E3=0WANCHO LETTER AANG;2ANG;2ING;2ON;2EN;2AAN;2NYA;2UEN;2YIH;1TONE TUP;2TUPNI;2KOI;2KOINI",
   "1E2F0=0WANCHO DIGIT ZERO;2ONE;2TWO;2THREE;2FOUR;2FIVE;2SIX;2SEVEN;2EIGHT;2NINE",
   "1E2FF=0WANCHO NGUN SIGN;1E4D0=0NAG MUNDARI LETTER O;3OP;3OL;3OY;3ONG;3A;3AJ;3AB;3ANY;3AH;3I",
   "1E4DB=0NAG MUNDARI LETTER IS;3IDD;3IT;3IH;3U;3UC;3UD;3UK;3UR;3E;3ENN;3EG;3EM;3EN;3ETT;3ELL",
   "1E4EB=0NAG MUNDARI SIGN OJOD;3MUHOR;3TOYOR;3IKIR;3SUTUH;2DIGIT ZERO;3ONE;3TWO;3THREE;3FOUR",
   "1E4F5=0NAG MUNDARI DIGIT FIVE;3SIX;3SEVEN;3EIGHT;3NINE;1E7E0=0ETHIOPIC SYLLABLE HHYA;2HHYU",
   "1E7E2=0ETHIOPIC SYLLABLE HHYI;2HHYAA;2HHYEE;2HHYE;2HHYO;1E7E8=2GURAGE HHWA;2HHWI;2HHWEE;2HHWE",
   "1E7ED=0ETHIOPIC SYLLABLE GURAGE MWI;3MWEE;1E7F0=3QWI;3QWEE;3QWE;3BWI;3BWEE;3KWI;3KWEE;3KWE",
   "1E7F8=0ETHIOPIC SYLLABLE GURAGE GWI;3GWEE;3GWE;3FWI;3FWEE;3PWI;3PWEE",
   "1E800=0MENDE KIKAKUI SYLLABLE M001 KI;3M002 KA;3M003 KU;3M065 KEE;3M095 KE;3M076 KOO;3M048 KO",
   "1E807=0MENDE KIKAKUI SYLLABLE M179 KUA;3M004 WI;3M005 WA;3M006 WU;3M126 WEE;3M118 WE",
   "1E80D=0MENDE KIKAKUI SYLLABLE M114 WOO;3M045 WO;3M194 WUI;3M143 WEI;3M061 WVI;3M049 WVA",
   "1E813=0MENDE KIKAKUI SYLLABLE M139 WVE;3M007 MIN;3M008 MAN;3M009 MUN;3M059 MEN;3M094 MON",
   "1E819=0MENDE KIKAKUI SYLLABLE M154 MUAN;3M189 MUEN;3M010 BI;3M011 BA;3M012 BU;3M150 BEE",
   "1E81F=0MENDE KIKAKUI SYLLABLE M097 BE;3M103 BOO;3M138 BO;3M013 I;3M014 A;3M015 U;3M163 EE",
   "1E826=0MENDE KIKAKUI SYLLABLE M100 E;3M165 OO;3M147 O;3M137 EI;3M131 IN;3M135 IN;3M195 AN",
   "1E82D=0MENDE KIKAKUI SYLLABLE M178 EN;3M019 SI;3M020 SA;3M021 SU;3M162 SEE;3M116 SE;3M136 SOO",
   "1E834=0MENDE KIKAKUI SYLLABLE M079 SO;3M196 SIA;3M025 LI;3M026 LA;3M027 LU;3M084 LEE;3M073 LE",
   "1E83B=0MENDE KIKAKUI SYLLABLE M054 LOO;3M153 LO;3M110 LONG LE;3M016 DI;3M017 DA;3M018 DU",
   "1E841=0MENDE KIKAKUI SYLLABLE M089 DEE;3M180 DOO;3M181 DO;3M022 TI;3M023 TA;3M024 TU",
   "1E847=0MENDE KIKAKUI SYLLABLE M091 TEE;3M055 TE;3M104 TOO;3M069 TO;3M028 JI;3M029 JA;3M030 JU",
   "1E84E=0MENDE KIKAKUI SYLLABLE M157 JEE;3M113 JE;3M160 JOO;3M063 JO;3M175 LONG JO;3M031 YI",
   "1E854=0MENDE KIKAKUI SYLLABLE M032 YA;3M033 YU;3M109 YEE;3M080 YE;3M141 YOO;3M121 YO;3M034 FI",
   "1E85B=0MENDE KIKAKUI SYLLABLE M035 FA;3M036 FU;3M078 FEE;3M075 FE;3M133 FOO;3M088 FO",
   "1E861=0MENDE KIKAKUI SYLLABLE M197 FUA;3M101 FAN;3M037 NIN;3M038 NAN;3M039 NUN;3M117 NEN",
   "1E867=0MENDE KIKAKUI SYLLABLE M169 NON;3M176 HI;3M041 HA;3M186 HU;3M040 HEE;3M096 HE",
   "1E86D=0MENDE KIKAKUI SYLLABLE M042 HOO;3M140 HO;3M083 HEEI;3M128 HOOU;3M053 HIN;3M130 HAN",
   "1E873=0MENDE KIKAKUI SYLLABLE M087 HUN;3M052 HEN;3M193 HON;3M046 HUAN;3M090 NGGI;3M043 NGGA",
   "1E879=0MENDE KIKAKUI SYLLABLE M082 NGGU;3M115 NGGEE;3M146 NGGE;3M156 NGGOO;3M120 NGGO",
   "1E87E=0MENDE KIKAKUI SYLLABLE M159 NGGAA;3M127 NGGUA;3M086 LONG NGGE;3M106 LONG NGGOO",
   "1E882=0MENDE KIKAKUI SYLLABLE M183 LONG NGGO;3M155 GI;3M111 GA;3M168 GU;3M190 GEE;3M166 GUEI",
   "1E888=0MENDE KIKAKUI SYLLABLE M167 GUAN;3M184 NGEN;3M057 NGON;3M177 NGUAN;3M068 PI;3M099 PA",
   "1E88E=0MENDE KIKAKUI SYLLABLE M050 PU;3M081 PEE;3M051 PE;3M102 POO;3M066 PO;3M145 MBI",
   "1E894=0MENDE KIKAKUI SYLLABLE M062 MBA;3M122 MBU;3M047 MBEE;3M188 MBEE;3M072 MBE;3M172 MBOO",
   "1E89A=0MENDE KIKAKUI SYLLABLE M174 MBO;3M187 MBUU;3M161 LONG MBE;3M105 LONG MBOO",
   "1E89E=0MENDE KIKAKUI SYLLABLE M142 LONG MBO;3M132 KPI;3M092 KPA;3M074 KPU;3M044 KPEE",
   "1E8A3=0MENDE KIKAKUI SYLLABLE M108 KPE;3M112 KPOO;3M158 KPO;3M124 GBI;3M056 GBA;3M148 GBU",
   "1E8A9=0MENDE KIKAKUI SYLLABLE M093 GBEE;3M107 GBE;3M071 GBOO;3M070 GBO;3M171 RA;3M123 NDI",
   "1E8AF=0MENDE KIKAKUI SYLLABLE M129 NDA;3M125 NDU;3M191 NDEE;3M119 NDE;3M067 NDOO;3M064 NDO",
   "1E8B5=0MENDE KIKAKUI SYLLABLE M152 NJA;3M192 NJU;3M149 NJEE;3M134 NJOO;3M182 VI;3M185 VA",
   "1E8BB=0MENDE KIKAKUI SYLLABLE M151 VU;3M173 VEE;3M085 VE;3M144 VOO;3M077 VO;3M164 NYIN",
   "1E8C1=0MENDE KIKAKUI SYLLABLE M058 NYAN;3M170 NYUN;3M098 NYEN;3M060 NYON;1E8C7=2DIGIT ONE",
   "1E8C8=0MENDE KIKAKUI DIGIT TWO;3THREE;3FOUR;3FIVE;3SIX;3SEVEN;3EIGHT;3NINE",
   "1E8D0=0MENDE KIKAKUI COMBINING NUMBER TEENS;4TENS;4HUNDREDS;4THOUSANDS;4TEN THOUSANDS",
   "1E8D5=0MENDE KIKAKUI COMBINING NUMBER HUNDRED THOUSANDS;4MILLIONS",
   "1E900=0ADLAM CAPITAL LETTER ALIF;3DAALI;3LAAM;3MIIM;3BA;3SINNYIIYHE;3PE;3BHE;3RA;3E;3FA;3I;3O",
   "1E90D=0ADLAM CAPITAL LETTER DHA;3YHE;3WAW;3NUN;3KAF;3YA;3U;3JIIM;3CHI;3HA;3QAAF;3GA;3NYA;3TU",
   "1E91B=0ADLAM CAPITAL LETTER NHA;3VA;3KHA;3GBE;3ZAL;3KPO;3SHA;1SMALL LETTER ALIF;3DAALI;3LAAM",
   "1E925=0ADLAM SMALL LETTER MIIM;3BA;3SINNYIIYHE;3PE;3BHE;3RA;3E;3FA;3I;3O;3DHA;3YHE;3WAW;3NUN",
   "1E933=0ADLAM SMALL LETTER KAF;3YA;3U;3JIIM;3CHI;3HA;3QAAF;3GA;3NYA;3TU;3NHA;3VA;3KHA;3GBE",
   "1E941=0ADLAM SMALL LETTER ZAL;3KPO;3SHA;1ALIF LENGTHENER;1VOWEL LENGTHENER;1GEMINATION MARK",
   "1E947=0ADLAM HAMZA;1CONSONANT MODIFIER;1GEMINATE CONSONANT MODIFIER;1NUKTA;1NASALIZATION MARK",
   "1E950=0ADLAM DIGIT ZERO;2ONE;2TWO;2THREE;2FOUR;2FIVE;2SIX;2SEVEN;2EIGHT;2NINE",
   "1E95E=0ADLAM INITIAL EXCLAMATION MARK;2QUESTION MARK;1EC71=0INDIC SIYAQ NUMBER ONE;3TWO",
   "1EC73=0INDIC SIYAQ NUMBER THREE;3FOUR;3FIVE;3SIX;3SEVEN;3EIGHT;3NINE;3TEN;3TWENTY;3THIRTY",
   "1EC7D=0INDIC SIYAQ NUMBER FORTY;3FIFTY;3SIXTY;3SEVENTY;3EIGHTY;3NINETY;3ONE HUNDRED",
   "1EC84=0INDIC SIYAQ NUMBER TWO HUNDRED;3THREE HUNDRED;3FOUR HUNDRED;3FIVE HUNDRED;3SIX HUNDRED",
   "1EC89=0INDIC SIYAQ NUMBER SEVEN HUNDRED;3EIGHT HUNDRED;3NINE HUNDRED;3ONE THOUSAND",
   "1EC8D=0INDIC SIYAQ NUMBER TWO THOUSAND;3THREE THOUSAND;3FOUR THOUSAND;3FIVE THOUSAND",
   "1EC91=0INDIC SIYAQ NUMBER SIX THOUSAND;3SEVEN THOUSAND;3EIGHT THOUSAND;3NINE THOUSAND",
   "1EC95=0INDIC SIYAQ NUMBER TEN THOUSAND;3TWENTY THOUSAND;3THIRTY THOUSAND;3FORTY THOUSAND",
   "1EC99=0INDIC SIYAQ NUMBER FIFTY THOUSAND;3SIXTY THOUSAND;3SEVENTY THOUSAND;3EIGHTY THOUSAND",
   "1EC9D=0INDIC SIYAQ NUMBER NINETY THOUSAND;3LAKH;3LAKHAN;2LAKH MARK;2NUMBER KAROR;3KARORAN",
   "1ECA3=0INDIC SIYAQ NUMBER PREFIXED ONE;4TWO;4THREE;4FOUR;4FIVE;4SIX;4SEVEN;4EIGHT;4NINE",
   "1ECAC=0INDIC SIYAQ PLACEHOLDER;2FRACTION ONE QUARTER;4HALF;3THREE QUARTERS;2RUPEE MARK",
   "1ECB1=0INDIC SIYAQ NUMBER ALTERNATE ONE;4TWO;4TEN THOUSAND;2ALTERNATE LAKH MARK",
   "1ED01=0OTTOMAN SIYAQ NUMBER ONE;3TWO;3THREE;3FOUR;3FIVE;3SIX;3SEVEN;3EIGHT;3NINE;3TEN;3TWENTY",
   "1ED0C=0OTTOMAN SIYAQ NUMBER THIRTY;3FORTY;3FIFTY;3SIXTY;3SEVENTY;3EIGHTY;3NINETY;3ONE HUNDRED",
   "1ED14=0OTTOMAN SIYAQ NUMBER TWO HUNDRED;3THREE HUNDRED;3FOUR HUNDRED;3FIVE HUNDRED",
   "1ED18=0OTTOMAN SIYAQ NUMBER SIX HUNDRED;3SEVEN HUNDRED;3EIGHT HUNDRED;3NINE HUNDRED",
   "1ED1C=0OTTOMAN SIYAQ NUMBER ONE THOUSAND;3TWO THOUSAND;3THREE THOUSAND;3FOUR THOUSAND",
   "1ED20=0OTTOMAN SIYAQ NUMBER FIVE THOUSAND;3SIX THOUSAND;3SEVEN THOUSAND;3EIGHT THOUSAND",
   "1ED24=0OTTOMAN SIYAQ NUMBER NINE THOUSAND;3TEN THOUSAND;3TWENTY THOUSAND;3THIRTY THOUSAND",
   "1ED28=0OTTOMAN SIYAQ NUMBER FORTY THOUSAND;3FIFTY THOUSAND;3SIXTY THOUSAND;3SEVENTY THOUSAND",
   "1ED2C=0OTTOMAN SIYAQ NUMBER EIGHTY THOUSAND;3NINETY THOUSAND;2MARRATAN;2ALTERNATE NUMBER TWO",
   "1ED30=0OTTOMAN SIYAQ ALTERNATE NUMBER THREE;4FOUR;4FIVE;4SIX;4SEVEN;4EIGHT;4NINE;4TEN",
   "1ED38=0OTTOMAN SIYAQ ALTERNATE NUMBER FOUR HUNDRED;4SIX HUNDRED;4TWO THOUSAND;4TEN THOUSAND",
   "1ED3C=0OTTOMAN SIYAQ FRACTION ONE HALF;4SIXTH;1EE00=0ARABIC MATHEMATICAL ALEF;2BEH;2JEEM;2DAL",
   "1EE05=0ARABIC MATHEMATICAL WAW;2ZAIN;2HAH;2TAH;2YEH;2KAF;2LAM;2MEEM;2NOON;2SEEN;2AIN;2FEH",
   "1EE11=0ARABIC MATHEMATICAL SAD;2QAF;2REH;2SHEEN;2TEH;2THEH;2KHAH;2THAL;2DAD;2ZAH;2GHAIN",
   "1EE1C=0ARABIC MATHEMATICAL DOTLESS BEH;3NOON;3FEH;3QAF;1EE21=2INITIAL BEH;3JEEM;1EE24=3HEH",
   "1EE27=0ARABIC MATHEMATICAL INITIAL HAH;1EE29=3YEH;3KAF;3LAM;3MEEM;3NOON;3SEEN;3AIN;3FEH;3SAD",
   "1EE32=0ARABIC MATHEMATICAL INITIAL QAF;1EE34=3SHEEN;3TEH;3THEH;3KHAH;1EE39=3DAD;1EE3B=3GHAIN",
   "1EE42=0ARABIC MATHEMATICAL TAILED JEEM;1EE47=3HAH;1EE49=3YEH;1EE4B=3LAM;1EE4D=3NOON;3SEEN",
   "1EE4F=0ARABIC MATHEMATICAL TAILED AIN;1EE51=3SAD;3QAF;1EE54=3SHEEN;1EE57=3KHAH;1EE59=3DAD",
   "1EE5B=0ARABIC MATHEMATICAL TAILED GHAIN;1EE5D=3DOTLESS NOON;1EE5F=4QAF;1EE61=2STRETCHED BEH",
   "1EE62=0ARABIC MATHEMATICAL STRETCHED JEEM;1EE64=3HEH;1EE67=3HAH;3TAH;3YEH;3KAF;1EE6C=3MEEM",
   "1EE6D=0ARABIC MATHEMATICAL STRETCHED NOON;3SEEN;3AIN;3FEH;3SAD;3QAF;1EE74=3SHEEN;3TEH;3THEH",
   "1EE77=0ARABIC MATHEMATICAL STRETCHED KHAH;1EE79=3DAD;3ZAH;3GHAIN;3DOTLESS BEH;1EE7E=4FEH",
   "1EE80=0ARABIC MATHEMATICAL LOOPED ALEF;3BEH;3JEEM;3DAL;3HEH;3WAW;3ZAIN;3HAH;3TAH;3YEH",
   "1EE8B=0ARABIC MATHEMATICAL LOOPED LAM;3MEEM;3NOON;3SEEN;3AIN;3FEH;3SAD;3QAF;3REH;3SHEEN;3TEH",
   "1EE96=0ARABIC MATHEMATICAL LOOPED THEH;3KHAH;3THAL;3DAD;3ZAH;3GHAIN;1EEA1=2DOUBLE-STRUCK BEH",
   "1EEA2=0ARABIC MATHEMATICAL DOUBLE-STRUCK JEEM;3DAL;1EEA5=3WAW;3ZAIN;3HAH;3TAH;3YEH;1EEAB=3LAM",
   "1EEAC=0ARABIC MATHEMATICAL DOUBLE-STRUCK MEEM;3NOON;3SEEN;3AIN;3FEH;3SAD;3QAF;3REH;3SHEEN",
   "1EEB5=0ARABIC MATHEMATICAL DOUBLE-STRUCK TEH;3THEH;3KHAH;3THAL;3DAD;3ZAH;3GHAIN",
   "1EEF0=0ARABIC MATHEMATICAL OPERATOR MEEM WITH HAH WITH TATWEEL;3HAH WITH DAL",
   "1F000=0MAHJONG TILE EAST WIND;2SOUTH WIND;2WEST WIND;2NORTH WIND;2RED DRAGON;2GREEN DRAGON",
   "1F006=0MAHJONG TILE WHITE DRAGON;2ONE OF CHARACTERS;2TWO OF CHARACTERS;2THREE OF CHARACTERS",
   "1F00A=0MAHJONG TILE FOUR OF CHARACTERS;2FIVE OF CHARACTERS;2SIX OF CHARACTERS",
   "1F00D=0MAHJONG TILE SEVEN OF CHARACTERS;2EIGHT OF CHARACTERS;2NINE OF CHARACTERS",
   "1F010=0MAHJONG TILE ONE OF BAMBOOS;2TWO OF BAMBOOS;2THREE OF BAMBOOS;2FOUR OF BAMBOOS",
   "1F014=0MAHJONG TILE FIVE OF BAMBOOS;2SIX OF BAMBOOS;2SEVEN OF BAMBOOS;2EIGHT OF BAMBOOS",
   "1F018=0MAHJONG TILE NINE OF BAMBOOS;2ONE OF CIRCLES;2TWO OF CIRCLES;2THREE OF CIRCLES",
   "1F01C=0MAHJONG TILE FOUR OF CIRCLES;2FIVE OF CIRCLES;2SIX OF CIRCLES;2SEVEN OF CIRCLES",
   "1F020=0MAHJONG TILE EIGHT OF CIRCLES;2NINE OF CIRCLES;2PLUM;2ORCHID;2BAMBOO;2CHRYSANTHEMUM",
   "1F026=0MAHJONG TILE SPRING;2SUMMER;2AUTUMN;2WINTER;2JOKER;2BACK",
   "1F030=0DOMINO TILE HORIZONTAL BACK;2HORIZONTAL-00-00;2HORIZONTAL-00-01;2HORIZONTAL-00-02",
   "1F034=0DOMINO TILE HORIZONTAL-00-03;2HORIZONTAL-00-04;2HORIZONTAL-00-05;2HORIZONTAL-00-06",
   "1F038=0DOMINO TILE HORIZONTAL-01-00;2HORIZONTAL-01-01;2HORIZONTAL-01-02;2HORIZONTAL-01-03",
   "1F03C=0DOMINO TILE HORIZONTAL-01-04;2HORIZONTAL-01-05;2HORIZONTAL-01-06;2HORIZONTAL-02-00",
   "1F040=0DOMINO TILE HORIZONTAL-02-01;2HORIZONTAL-02-02;2HORIZONTAL-02-03;2HORIZONTAL-02-04",
   "1F044=0DOMINO TILE HORIZONTAL-02-05;2HORIZONTAL-02-06;2HORIZONTAL-03-00;2HORIZONTAL-03-01",
   "1F048=0DOMINO TILE HORIZONTAL-03-02;2HORIZONTAL-03-03;2HORIZONTAL-03-04;2HORIZONTAL-03-05",
   "1F04C=0DOMINO TILE HORIZONTAL-03-06;2HORIZONTAL-04-00;2HORIZONTAL-04-01;2HORIZONTAL-04-02",
   "1F050=0DOMINO TILE HORIZONTAL-04-03;2HORIZONTAL-04-04;2HORIZONTAL-04-05;2HORIZONTAL-04-06",
   "1F054=0DOMINO TILE HORIZONTAL-05-00;2HORIZONTAL-05-01;2HORIZONTAL-05-02;2HORIZONTAL-05-03",
   "1F058=0DOMINO TILE HORIZONTAL-05-04;2HORIZONTAL-05-05;2HORIZONTAL-05-06;2HORIZONTAL-06-00",
   "1F05C=0DOMINO TILE HORIZONTAL-06-01;2HORIZONTAL-06-02;2HORIZONTAL-06-03;2HORIZONTAL-06-04",
   "1F060=0DOMINO TILE HORIZONTAL-06-05;2HORIZONTAL-06-06;2VERTICAL BACK;2VERTICAL-00-00",
   "1F064=0DOMINO TILE VERTICAL-00-01;2VERTICAL-00-02;2VERTICAL-00-03;2VERTICAL-00-04",
   "1F068=0DOMINO TILE VERTICAL-00-05;2VERTICAL-00-06;2VERTICAL-01-00;2VERTICAL-01-01",
   "1F06C=0DOMINO TILE VERTICAL-01-02;2VERTICAL-01-03;2VERTICAL-01-04;2VERTICAL-01-05",
   "1F070=0DOMINO TILE VERTICAL-01-06;2VERTICAL-02-00;2VERTICAL-02-01;2VERTICAL-02-02",
   "1F074=0DOMINO TILE VERTICAL-02-03;2VERTICAL-02-04;2VERTICAL-02-05;2VERTICAL-02-06",
   "1F078=0DOMINO TILE VERTICAL-03-00;2VERTICAL-03-01;2VERTICAL-03-02;2VERTICAL-03-03",
   "1F07C=0DOMINO TILE VERTICAL-03-04;2VERTICAL-03-05;2VERTICAL-03-06;2VERTICAL-04-00",
   "1F080=0DOMINO TILE VERTICAL-04-01;2VERTICAL-04-02;2VERTICAL-04-03;2VERTICAL-04-04",
   "1F084=0DOMINO TILE VERTICAL-04-05;2VERTICAL-04-06;2VERTICAL-05-00;2VERTICAL-05-01",
   "1F088=0DOMINO TILE VERTICAL-05-02;2VERTICAL-05-03;2VERTICAL-05-04;2VERTICAL-05-05",
   "1F08C=0DOMINO TILE VERTICAL-05-06;2VERTICAL-06-00;2VERTICAL-06-01;2VERTICAL-06-02",
   "1F090=0DOMINO TILE VERTICAL-06-03;2VERTICAL-06-04;2VERTICAL-06-05;2VERTICAL-06-06",
   "1F0A0=0PLAYING CARD BACK;2ACE OF SPADES;2TWO OF SPADES;2THREE OF SPADES;2FOUR OF SPADES",
   "1F0A5=0PLAYING CARD FIVE OF SPADES;2SIX OF SPADES;2SEVEN OF SPADES;2EIGHT OF SPADES",
   "1F0A9=0PLAYING CARD NINE OF SPADES;2TEN OF SPADES;2JACK OF SPADES;2KNIGHT OF SPADES",
   "1F0AD=0PLAYING CARD QUEEN OF SPADES;2KING OF SPADES;1F0B1=2ACE OF HEARTS;2TWO OF HEARTS",
   "1F0B3=0PLAYING CARD THREE OF HEARTS;2FOUR OF HEARTS;2FIVE OF HEARTS;2SIX OF HEARTS",
   "1F0B7=0PLAYING CARD SEVEN OF HEARTS;2EIGHT OF HEARTS;2NINE OF HEARTS;2TEN OF HEARTS",
   "1F0BB=0PLAYING CARD JACK OF HEARTS;2KNIGHT OF HEARTS;2QUEEN OF HEARTS;2KING OF HEARTS",
   "1F0BF=0PLAYING CARD RED JOKER;1F0C1=2ACE OF DIAMONDS;2TWO OF DIAMONDS;2THREE OF DIAMONDS",
   "1F0C4=0PLAYING CARD FOUR OF DIAMONDS;2FIVE OF DIAMONDS;2SIX OF DIAMONDS;2SEVEN OF DIAMONDS",
   "1F0C8=0PLAYING CARD EIGHT OF DIAMONDS;2NINE OF DIAMONDS;2TEN OF DIAMONDS;2JACK OF DIAMONDS",
   "1F0CC=0PLAYING CARD KNIGHT OF DIAMONDS;2QUEEN OF DIAMONDS;2KING OF DIAMONDS;2BLACK JOKER",
   "1F0D1=0PLAYING CARD ACE OF CLUBS;2TWO OF CLUBS;2THREE OF CLUBS;2FOUR OF CLUBS;2FIVE OF CLUBS",
   "1F0D6=0PLAYING CARD SIX OF CLUBS;2SEVEN OF CLUBS;2EIGHT OF CLUBS;2NINE OF CLUBS;2TEN OF CLUBS",
   "1F0DB=0PLAYING CARD JACK OF CLUBS;2KNIGHT OF CLUBS;2QUEEN OF CLUBS;2KING OF CLUBS",
   "1F0DF=0PLAYING CARD WHITE JOKER;2FOOL;2TRUMP-1;2TRUMP-2;2TRUMP-3;2TRUMP-4;2TRUMP-5;2TRUMP-6",
   "1F0E7=0PLAYING CARD TRUMP-7;2TRUMP-8;2TRUMP-9;2TRUMP-10;2TRUMP-11;2TRUMP-12;2TRUMP-13",
   "1F0EE=0PLAYING CARD TRUMP-14;2TRUMP-15;2TRUMP-16;2TRUMP-17;2TRUMP-18;2TRUMP-19;2TRUMP-20",
   "1F0F5=0PLAYING CARD TRUMP-21;1F100=0DIGIT ZERO FULL STOP;2COMMA;1ONE COMMA;1TWO COMMA",
   "1F104=0DIGIT THREE COMMA;1FOUR COMMA;1FIVE COMMA;1SIX COMMA;1SEVEN COMMA;1EIGHT COMMA",
   "1F10A=0DIGIT NINE COMMA;0DINGBAT CIRCLED SANS-SERIF DIGIT ZERO",
   "1F10C=0DINGBAT NEGATIVE CIRCLED SANS-SERIF DIGIT ZERO;0CIRCLED ZERO WITH SLASH",
   "1F10E=0CIRCLED ANTICLOCKWISE ARROW;1DOLLAR SIGN WITH OVERLAID BACKSLASH",
   "1F110=0PARENTHESIZED LATIN CAPITAL LETTER A;4B;4C;4D;4E;4F;4G;4H;4I;4J;4K;4L;4M;4N;4O;4P;4Q",
   "1F121=0PARENTHESIZED LATIN CAPITAL LETTER R;4S;4T;4U;4V;4W;4X;4Y;4Z",
   "1F12A=0TORTOISE SHELL BRACKETED LATIN CAPITAL LETTER S;0CIRCLED ITALIC LATIN CAPITAL LETTER C",
   "1F12C=0CIRCLED ITALIC LATIN CAPITAL LETTER R;1CD;1WZ;0COPYLEFT SYMBOL",
   "1F130=0SQUARED LATIN CAPITAL LETTER A;4B;4C;4D;4E;4F;4G;4H;4I;4J;4K;4L;4M;4N;4O;4P;4Q;4R;4S",
   "1F143=0SQUARED LATIN CAPITAL LETTER T;4U;4V;4W;4X;4Y;4Z;1HV;1MV;1SD;1SS;1PPV;1WC",
   "1F150=0NEGATIVE CIRCLED LATIN CAPITAL LETTER A;5B;5C;5D;5E;5F;5G;5H;5I;5J;5K;5L;5M;5N;5O;5P",
   "1F160=0NEGATIVE CIRCLED LATIN CAPITAL LETTER Q;5R;5S;5T;5U;5V;5W;5X;5Y;5Z;0RAISED MC SIGN",
   "1F16B=0RAISED MD SIGN;1MR SIGN;0CIRCLED CC;1C WITH OVERLAID BACKSLASH;1HUMAN FIGURE",
   "1F170=0NEGATIVE SQUARED LATIN CAPITAL LETTER A;5B;5C;5D;5E;5F;5G;5H;5I;5J;5K;5L;5M;5N;5O;5P",
   "1F180=0NEGATIVE SQUARED LATIN CAPITAL LETTER Q;5R;5S;5T;5U;5V;5W;5X;5Y;5Z",
   "1F18A=0CROSSED NEGATIVE SQUARED LATIN CAPITAL LETTER P;0NEGATIVE SQUARED IC;2PA;2SA;2AB;2WC",
   "1F190=0SQUARE DJ;0SQUARED CL;1COOL;1FREE;1ID;1NEW;1NG;1OK;1SOS;1UP WITH EXCLAMATION MARK;1VS",
   "1F19B=0SQUARED THREE D;1SECOND SCREEN;1TWO K;1FOUR K;1EIGHT K;1FIVE POINT ONE",
   "1F1A1=0SQUARED SEVEN POINT ONE;1TWENTY-TWO POINT TWO;1SIXTY P;1ONE HUNDRED TWENTY P",
   "1F1A5=0SQUARED LATIN SMALL LETTER D;1HC;1HDR;1HI-RES;1LOSSLESS;1SHV;1UHD;1VOD",
   "1F1AD=0MASK WORK SYMBOL;1F1E6=0REGIONAL INDICATOR SYMBOL LETTER A;4B;4C;4D;4E;4F;4G;4H;4I;4J",
   "1F1F0=0REGIONAL INDICATOR SYMBOL LETTER K;4L;4M;4N;4O;4P;4Q;4R;4S;4T;4U;4V;4W;4X;4Y;4Z",
   "1F200=0SQUARE HIRAGANA HOKA;0SQUARED KATAKANA KOKO;2SA;1F210=1CJK UNIFIED IDEOGRAPH-624B",
   "1F211=0SQUARED CJK UNIFIED IDEOGRAPH-5B57;3IDEOGRAPH-53CC;1KATAKANA DE",
   "1F214=0SQUARED CJK UNIFIED IDEOGRAPH-4E8C;3IDEOGRAPH-591A;3IDEOGRAPH-89E3;3IDEOGRAPH-5929",
   "1F218=0SQUARED CJK UNIFIED IDEOGRAPH-4EA4;3IDEOGRAPH-6620;3IDEOGRAPH-7121;3IDEOGRAPH-6599",
   "1F21C=0SQUARED CJK UNIFIED IDEOGRAPH-524D;3IDEOGRAPH-5F8C;3IDEOGRAPH-518D;3IDEOGRAPH-65B0",
   "1F220=0SQUARED CJK UNIFIED IDEOGRAPH-521D;3IDEOGRAPH-7D42;3IDEOGRAPH-751F;3IDEOGRAPH-8CA9",
   "1F224=0SQUARED CJK UNIFIED IDEOGRAPH-58F0;3IDEOGRAPH-5439;3IDEOGRAPH-6F14;3IDEOGRAPH-6295",
   "1F228=0SQUARED CJK UNIFIED IDEOGRAPH-6355;3IDEOGRAPH-4E00;3IDEOGRAPH-4E09;3IDEOGRAPH-904A",
   "1F22C=0SQUARED CJK UNIFIED IDEOGRAPH-5DE6;3IDEOGRAPH-4E2D;3IDEOGRAPH-53F3;3IDEOGRAPH-6307",
   "1F230=0SQUARED CJK UNIFIED IDEOGRAPH-8D70;3IDEOGRAPH-6253;3IDEOGRAPH-7981;3IDEOGRAPH-7A7A",
   "1F234=0SQUARED CJK UNIFIED IDEOGRAPH-5408;3IDEOGRAPH-6E80;3IDEOGRAPH-6709;3IDEOGRAPH-6708",
   "1F238=0SQUARED CJK UNIFIED IDEOGRAPH-7533;3IDEOGRAPH-5272;3IDEOGRAPH-55B6;3IDEOGRAPH-914D",
   "1F240=0TORTOISE SHELL BRACKETED CJK UNIFIED IDEOGRAPH-672C;5IDEOGRAPH-4E09;5IDEOGRAPH-4E8C",
   "1F243=0TORTOISE SHELL BRACKETED CJK UNIFIED IDEOGRAPH-5B89;5IDEOGRAPH-70B9;5IDEOGRAPH-6253",
   "1F246=0TORTOISE SHELL BRACKETED CJK UNIFIED IDEOGRAPH-76D7;5IDEOGRAPH-52DD;5IDEOGRAPH-6557",
   "1F250=0CIRCLED IDEOGRAPH ADVANTAGE;2ACCEPT;1F260=0ROUNDED SYMBOL FOR FU;3LU;3SHOU;3XI",
   "1F264=0ROUNDED SYMBOL FOR SHUANGXI;3CAI;1F300=0CYCLONE;0FOGGY;0CLOSED UMBRELLA",
   "1F303=0NIGHT WITH STARS;0SUNRISE OVER MOUNTAINS;1;0CITYSCAPE AT DUSK;0SUNSET OVER BUILDINGS",
   "1F308=0RAINBOW;0BRIDGE AT NIGHT;0WATER WAVE;0VOLCANO;0MILKY WAY;0EARTH GLOBE EUROPE-AFRICA",
   "1F30E=0EARTH GLOBE AMERICAS;2ASIA-AUSTRALIA;0GLOBE WITH MERIDIANS;0NEW MOON SYMBOL",
   "1F312=0WAXING CRESCENT MOON SYMBOL;0FIRST QUARTER MOON SYMBOL;0WAXING GIBBOUS MOON SYMBOL",
   "1F315=0FULL MOON SYMBOL;0WANING GIBBOUS MOON SYMBOL;0LAST QUARTER MOON SYMBOL",
   "1F318=0WANING CRESCENT MOON SYMBOL;0CRESCENT MOON;0NEW MOON WITH FACE",
   "1F31B=0FIRST QUARTER MOON WITH FACE;0LAST QUARTER MOON WITH FACE;0FULL MOON WITH FACE",
   "1F31E=0SUN WITH FACE;0GLOWING STAR;0SHOOTING STAR;0THERMOMETER;0BLACK DROPLET;0WHITE SUN",
   "1F324=0WHITE SUN WITH SMALL CLOUD;2BEHIND CLOUD;4WITH RAIN;0CLOUD WITH RAIN;2SNOW;2LIGHTNING",
   "1F32A=0CLOUD WITH TORNADO;0FOG;0WIND BLOWING FACE;0HOT DOG;0TACO;0BURRITO;0CHESTNUT;0SEEDLING",
   "1F332=0EVERGREEN TREE;0DECIDUOUS TREE;0PALM TREE;0CACTUS;0HOT PEPPER;0TULIP;0CHERRY BLOSSOM",
   "1F339=0ROSE;0HIBISCUS;0SUNFLOWER;0BLOSSOM;0EAR OF MAIZE;2RICE;0HERB;0FOUR LEAF CLOVER",
   "1F341=0MAPLE LEAF;0FALLEN LEAF;0LEAF FLUTTERING IN WIND;0MUSHROOM;0TOMATO;0AUBERGINE;0GRAPES",
   "1F348=0MELON;0WATERMELON;0TANGERINE;0LEMON;0BANANA;0PINEAPPLE;0RED APPLE;0GREEN APPLE;0PEAR",
   "1F351=0PEACH;0CHERRIES;0STRAWBERRY;0HAMBURGER;0SLICE OF PIZZA;0MEAT ON BONE;0POULTRY LEG",
   "1F358=0RICE CRACKER;1BALL;0COOKED RICE;0CURRY AND RICE;0STEAMING BOWL;0SPAGHETTI;0BREAD",
   "1F35F=0FRENCH FRIES;0ROASTED SWEET POTATO;0DANGO;0ODEN;0SUSHI;0FRIED SHRIMP",
   "1F365=0FISH CAKE WITH SWIRL DESIGN;0SOFT ICE CREAM;0SHAVED ICE;0ICE CREAM;0DOUGHNUT;0COOKIE",
   "1F36B=0CHOCOLATE BAR;0CANDY;0LOLLIPOP;0CUSTARD;0HONEY POT;0SHORTCAKE;0BENTO BOX;0POT OF FOOD",
   "1F373=0COOKING;0FORK AND KNIFE;0TEACUP WITHOUT HANDLE;0SAKE BOTTLE AND CUP;0WINE GLASS",
   "1F378=0COCKTAIL GLASS;0TROPICAL DRINK;0BEER MUG;0CLINKING BEER MUGS;0BABY BOTTLE",
   "1F37D=0FORK AND KNIFE WITH PLATE;0BOTTLE WITH POPPING CORK;0POPCORN;0RIBBON;0WRAPPED PRESENT",
   "1F382=0BIRTHDAY CAKE;0JACK-O-LANTERN;0CHRISTMAS TREE;0FATHER CHRISTMAS;0FIREWORKS",
   "1F387=0FIREWORK SPARKLER;0BALLOON;0PARTY POPPER;0CONFETTI BALL;0TANABATA TREE;0CROSSED FLAGS",
   "1F38D=0PINE DECORATION;0JAPANESE DOLLS;0CARP STREAMER;0WIND CHIME;0MOON VIEWING CEREMONY",
   "1F392=0SCHOOL SATCHEL;0GRADUATION CAP;0HEART WITH TIP ON THE LEFT;0BOUQUET OF FLOWERS",
   "1F396=0MILITARY MEDAL;0REMINDER RIBBON;0MUSICAL KEYBOARD WITH JACKS;0STUDIO MICROPHONE",
   "1F39A=0LEVEL SLIDER;0CONTROL KNOBS;0BEAMED ASCENDING MUSICAL NOTES;1DESCENDING MUSICAL NOTES",
   "1F39E=0FILM FRAMES;0ADMISSION TICKETS;0CAROUSEL HORSE;0FERRIS WHEEL;0ROLLER COASTER",
   "1F3A3=0FISHING POLE AND FISH;0MICROPHONE;0MOVIE CAMERA;0CINEMA;0HEADPHONE;0ARTIST PALETTE",
   "1F3A9=0TOP HAT;0CIRCUS TENT;0TICKET;0CLAPPER BOARD;0PERFORMING ARTS;0VIDEO GAME;0DIRECT HIT",
   "1F3B0=0SLOT MACHINE;0BILLIARDS;0GAME DIE;0BOWLING;0FLOWER PLAYING CARDS;0MUSICAL NOTE",
   "1F3B6=0MULTIPLE MUSICAL NOTES;0SAXOPHONE;0GUITAR;0MUSICAL KEYBOARD;0TRUMPET;0VIOLIN",
   "1F3BC=0MUSICAL SCORE;0RUNNING SHIRT WITH SASH;0TENNIS RACQUET AND BALL;0SKI AND SKI BOOT",
   "1F3C0=0BASKETBALL AND HOOP;0CHEQUERED FLAG;0SNOWBOARDER;0RUNNER;0SURFER;0SPORTS MEDAL;0TROPHY",
   "1F3C7=0HORSE RACING;0AMERICAN FOOTBALL;0RUGBY FOOTBALL;0SWIMMER;0WEIGHT LIFTER;0GOLFER",
   "1F3CD=0RACING MOTORCYCLE;1CAR;0CRICKET BAT AND BALL;0VOLLEYBALL;0FIELD HOCKEY STICK AND BALL",
   "1F3D2=0ICE HOCKEY STICK AND PUCK;0TABLE TENNIS PADDLE AND BALL;0SNOW CAPPED MOUNTAIN;0CAMPING",
   "1F3D6=0BEACH WITH UMBRELLA;0BUILDING CONSTRUCTION;0HOUSE BUILDINGS;0CITYSCAPE",
   "1F3DA=0DERELICT HOUSE BUILDING;0CLASSICAL BUILDING;0DESERT;1ISLAND;0NATIONAL PARK;0STADIUM",
   "1F3E0=0HOUSE BUILDING;1WITH GARDEN;0OFFICE BUILDING;0JAPANESE POST OFFICE",
   "1F3E4=0EUROPEAN POST OFFICE;0HOSPITAL;0BANK;0AUTOMATED TELLER MACHINE;0HOTEL;0LOVE HOTEL",
   "1F3EA=0CONVENIENCE STORE;0SCHOOL;0DEPARTMENT STORE;0FACTORY;0IZAKAYA LANTERN;0JAPANESE CASTLE",
   "1F3F0=0EUROPEAN CASTLE;0WHITE PENNANT;0BLACK PENNANT;0WAVING WHITE FLAG;1BLACK FLAG;0ROSETTE",
   "1F3F6=0BLACK ROSETTE;0LABEL;0BADMINTON RACQUET AND SHUTTLECOCK;0BOW AND ARROW;0AMPHORA",
   "1F3FB=0EMOJI MODIFIER FITZPATRICK TYPE-1-2;3TYPE-3;3TYPE-4;3TYPE-5;3TYPE-6;0RAT;0MOUSE;0OX",
   "1F403=0WATER BUFFALO;0COW;0TIGER;0LEOPARD;0RABBIT;0CAT;0DRAGON;0CROCODILE;0WHALE;0SNAIL",
   "1F40D=0SNAKE;0HORSE;0RAM;0GOAT;0SHEEP;0MONKEY;0ROOSTER;0CHICKEN;0DOG;0PIG;0BOAR;0ELEPHANT",
   "1F419=0OCTOPUS;0SPIRAL SHELL;0BUG;0ANT;0HONEYBEE;0LADY BEETLE;0FISH;0TROPICAL FISH;0BLOWFISH",
   "1F422=0TURTLE;0HATCHING CHICK;0BABY CHICK;0FRONT-FACING BABY CHICK;0BIRD;0PENGUIN;0KOALA",
   "1F429=0POODLE;0DROMEDARY CAMEL;0BACTRIAN CAMEL;0DOLPHIN;0MOUSE FACE;0COW FACE;0TIGER FACE",
   "1F430=0RABBIT FACE;0CAT FACE;0DRAGON FACE;0SPOUTING WHALE;0HORSE FACE;0MONKEY FACE;0DOG FACE",
   "1F437=0PIG FACE;0FROG FACE;0HAMSTER FACE;0WOLF FACE;0BEAR FACE;0PANDA FACE;0PIG NOSE",
   "1F43E=0PAW PRINTS;0CHIPMUNK;0EYES;0EYE;0EAR;0NOSE;0MOUTH;0TONGUE",
   "1F446=0WHITE UP POINTING BACKHAND INDEX;1DOWN POINTING BACKHAND INDEX",
   "1F448=0WHITE LEFT POINTING BACKHAND INDEX;1RIGHT POINTING BACKHAND INDEX;0FISTED HAND SIGN",
   "1F44B=0WAVING HAND SIGN;0OK HAND SIGN;0THUMBS UP SIGN;1DOWN SIGN;0CLAPPING HANDS SIGN",
   "1F450=0OPEN HANDS SIGN;0CROWN;0WOMANS HAT;0EYEGLASSES;0NECKTIE;0T-SHIRT;0JEANS;0DRESS;0KIMONO",
   "1F459=0BIKINI;0WOMANS CLOTHES;0PURSE;0HANDBAG;0POUCH;0MANS SHOE;0ATHLETIC SHOE",
   "1F460=0HIGH-HEELED SHOE;0WOMANS SANDAL;1BOOTS;0FOOTPRINTS;0BUST IN SILHOUETTE",
   "1F465=0BUSTS IN SILHOUETTE;0BOY;0GIRL;0MAN;0WOMAN;0FAMILY;0MAN AND WOMAN HOLDING HANDS",
   "1F46C=0TWO MEN HOLDING HANDS;1WOMEN HOLDING HANDS;0POLICE OFFICER;0WOMAN WITH BUNNY EARS",
   "1F470=0BRIDE WITH VEIL;0PERSON WITH BLOND HAIR;0MAN WITH GUA PI MAO;2TURBAN;0OLDER MAN;1WOMAN",
   "1F476=0BABY;0CONSTRUCTION WORKER;0PRINCESS;0JAPANESE OGRE;1GOBLIN;0GHOST;0BABY ANGEL",
   "1F47D=0EXTRATERRESTRIAL ALIEN;0ALIEN MONSTER;0IMP;0SKULL;0INFORMATION DESK PERSON;0GUARDSMAN",
   "1F483=0DANCER;0LIPSTICK;0NAIL POLISH;0FACE MASSAGE;0HAIRCUT;0BARBER POLE;0SYRINGE;0PILL",
   "1F48B=0KISS MARK;0LOVE LETTER;0RING;0GEM STONE;0KISS;0BOUQUET;0COUPLE WITH HEART;0WEDDING",
   "1F493=0BEATING HEART;0BROKEN HEART;0TWO HEARTS;0SPARKLING HEART;0GROWING HEART",
   "1F498=0HEART WITH ARROW;0BLUE HEART;0GREEN HEART;0YELLOW HEART;0PURPLE HEART",
   "1F49D=0HEART WITH RIBBON;0REVOLVING HEARTS;0HEART DECORATION;0DIAMOND SHAPE WITH A DOT INSIDE",
   "1F4A1=0ELECTRIC LIGHT BULB;0ANGER SYMBOL;0BOMB;0SLEEPING SYMBOL;0COLLISION SYMBOL",
   "1F4A6=0SPLASHING SWEAT SYMBOL;0DROPLET;0DASH SYMBOL;0PILE OF POO;0FLEXED BICEPS;0DIZZY SYMBOL",
   "1F4AC=0SPEECH BALLOON;0THOUGHT BALLOON;0WHITE FLOWER;0HUNDRED POINTS SYMBOL;0MONEY BAG",
   "1F4B1=0CURRENCY EXCHANGE;0HEAVY DOLLAR SIGN;0CREDIT CARD;0BANKNOTE WITH YEN SIGN;2DOLLAR SIGN",
   "1F4B6=0BANKNOTE WITH EURO SIGN;2POUND SIGN;0MONEY WITH WINGS",
   "1F4B9=0CHART WITH UPWARDS TREND AND YEN SIGN;0SEAT;0PERSONAL COMPUTER;0BRIEFCASE;0MINIDISC",
   "1F4BE=0FLOPPY DISK;0OPTICAL DISC;0DVD;0FILE FOLDER;0OPEN FILE FOLDER;0PAGE WITH CURL",
   "1F4C4=0PAGE FACING UP;0CALENDAR;0TEAR-OFF CALENDAR;0CARD INDEX;0CHART WITH UPWARDS TREND",
   "1F4C9=0CHART WITH DOWNWARDS TREND;0BAR CHART;0CLIPBOARD;0PUSHPIN;0ROUND PUSHPIN;0PAPERCLIP",
   "1F4CF=0STRAIGHT RULER;0TRIANGULAR RULER;0BOOKMARK TABS;0LEDGER;0NOTEBOOK",
   "1F4D4=0NOTEBOOK WITH DECORATIVE COVER;0CLOSED BOOK;0OPEN BOOK;0GREEN BOOK;0BLUE BOOK",
   "1F4D9=0ORANGE BOOK;0BOOKS;0NAME BADGE;0SCROLL;0MEMO;0TELEPHONE RECEIVER;0PAGER;0FAX MACHINE",
   "1F4E1=0SATELLITE ANTENNA;0PUBLIC ADDRESS LOUDSPEAKER;0CHEERING MEGAPHONE;0OUTBOX TRAY",
   "1F4E5=0INBOX TRAY;0PACKAGE;0E-MAIL SYMBOL;0INCOMING ENVELOPE",
   "1F4E9=0ENVELOPE WITH DOWNWARDS ARROW ABOVE;0CLOSED MAILBOX WITH LOWERED FLAG;3RAISED FLAG",
   "1F4EC=0OPEN MAILBOX WITH RAISED FLAG;3LOWERED FLAG;0POSTBOX;0POSTAL HORN;0NEWSPAPER",
   "1F4F1=0MOBILE PHONE;2WITH RIGHTWARDS ARROW AT LEFT;0VIBRATION MODE;0MOBILE PHONE OFF",
   "1F4F5=0NO MOBILE PHONES;0ANTENNA WITH BARS;0CAMERA;1WITH FLASH;0VIDEO CAMERA;0TELEVISION",
   "1F4FB=0RADIO;0VIDEOCASSETTE;0FILM PROJECTOR;0PORTABLE STEREO;0PRAYER BEADS",
   "1F500=0TWISTED RIGHTWARDS ARROWS;0CLOCKWISE RIGHTWARDS AND LEFTWARDS OPEN CIRCLE ARROWS",
   "1F502=0CLOCKWISE RIGHTWARDS AND LEFTWARDS OPEN CIRCLE ARROWS WITH CIRCLED ONE OVERLAY",
   "1F503=0CLOCKWISE DOWNWARDS AND UPWARDS OPEN CIRCLE ARROWS",
   "1F504=0ANTICLOCKWISE DOWNWARDS AND UPWARDS OPEN CIRCLE ARROWS;0LOW BRIGHTNESS SYMBOL",
   "1F506=0HIGH BRIGHTNESS SYMBOL;0SPEAKER WITH CANCELLATION STROKE;1;1WITH ONE SOUND WAVE",
   "1F50A=0SPEAKER WITH THREE SOUND WAVES;0BATTERY;0ELECTRIC PLUG;0LEFT-POINTING MAGNIFYING GLASS",
   "1F50E=0RIGHT-POINTING MAGNIFYING GLASS;0LOCK WITH INK PEN;0CLOSED LOCK WITH KEY;0KEY;0LOCK",
   "1F513=0OPEN LOCK;0BELL;1WITH CANCELLATION STROKE;0BOOKMARK;0LINK SYMBOL;0RADIO BUTTON",
   "1F519=0BACK WITH LEFTWARDS ARROW ABOVE;0END WITH LEFTWARDS ARROW ABOVE",
   "1F51B=0ON WITH EXCLAMATION MARK WITH LEFT RIGHT ARROW ABOVE;0SOON WITH RIGHTWARDS ARROW ABOVE",
   "1F51D=0TOP WITH UPWARDS ARROW ABOVE;0NO ONE UNDER EIGHTEEN SYMBOL;0KEYCAP TEN",
   "1F520=0INPUT SYMBOL FOR LATIN CAPITAL LETTERS;4SMALL LETTERS;3NUMBERS;3SYMBOLS;3LATIN LETTERS",
   "1F525=0FIRE;0ELECTRIC TORCH;0WRENCH;0HAMMER;0NUT AND BOLT;0HOCHO;0PISTOL;0MICROSCOPE",
   "1F52D=0TELESCOPE;0CRYSTAL BALL;0SIX POINTED STAR WITH MIDDLE DOT",
   "1F530=0JAPANESE SYMBOL FOR BEGINNER;0TRIDENT EMBLEM;0BLACK SQUARE BUTTON;0WHITE SQUARE BUTTON",
   "1F534=0LARGE RED CIRCLE;1BLUE CIRCLE;1ORANGE DIAMOND;1BLUE DIAMOND;0SMALL ORANGE DIAMOND",
   "1F539=0SMALL BLUE DIAMOND;0UP-POINTING RED TRIANGLE;0DOWN-POINTING RED TRIANGLE",
   "1F53C=0UP-POINTING SMALL RED TRIANGLE;0DOWN-POINTING SMALL RED TRIANGLE",
   "1F53E=0LOWER RIGHT SHADOWED WHITE CIRCLE;0UPPER RIGHT SHADOWED WHITE CIRCLE",
   "1F540=0CIRCLED CROSS POMMEE;0CROSS POMMEE WITH HALF-CIRCLE BELOW;2",
   "1F543=0NOTCHED LEFT SEMICIRCLE WITH THREE DOTS;1RIGHT SEMICIRCLE WITH THREE DOTS",
   "1F545=0SYMBOL FOR MARKS CHAPTER;0WHITE LATIN CROSS;0HEAVY LATIN CROSS;0CELTIC CROSS",
   "1F549=0OM SYMBOL;0DOVE OF PEACE;0KAABA;0MOSQUE;0SYNAGOGUE;0MENORAH WITH NINE BRANCHES",
   "1F54F=0BOWL OF HYGIEIA;0CLOCK FACE ONE OCLOCK;2TWO OCLOCK;2THREE OCLOCK;2FOUR OCLOCK",
   "1F554=0CLOCK FACE FIVE OCLOCK;2SIX OCLOCK;2SEVEN OCLOCK;2EIGHT OCLOCK;2NINE OCLOCK",
   "1F559=0CLOCK FACE TEN OCLOCK;2ELEVEN OCLOCK;2TWELVE OCLOCK;2ONE-THIRTY;2TWO-THIRTY",
   "1F55E=0CLOCK FACE THREE-THIRTY;2FOUR-THIRTY;2FIVE-THIRTY;2SIX-THIRTY;2SEVEN-THIRTY",
   "1F563=0CLOCK FACE EIGHT-THIRTY;2NINE-THIRTY;2TEN-THIRTY;2ELEVEN-THIRTY;2TWELVE-THIRTY",
   "1F568=0RIGHT SPEAKER;2WITH ONE SOUND WAVE;3THREE SOUND WAVES;0BULLHORN;1WITH SOUND WAVES",
   "1F56D=0RINGING BELL;0BOOK;0CANDLE;0MANTELPIECE CLOCK;0BLACK SKULL AND CROSSBONES;0NO PIRACY",
   "1F573=0HOLE;0MAN IN BUSINESS SUIT LEVITATING;0SLEUTH OR SPY;0DARK SUNGLASSES;0SPIDER;1WEB",
   "1F579=0JOYSTICK;0MAN DANCING;0LEFT HAND TELEPHONE RECEIVER;0TELEPHONE RECEIVER WITH PAGE",
   "1F57D=0RIGHT HAND TELEPHONE RECEIVER;0WHITE TOUCHTONE TELEPHONE;0BLACK TOUCHTONE TELEPHONE",
   "1F580=0TELEPHONE ON TOP OF MODEM;0CLAMSHELL MOBILE PHONE;0BACK OF ENVELOPE;0STAMPED ENVELOPE",
   "1F584=0ENVELOPE WITH LIGHTNING;0FLYING ENVELOPE;0PEN OVER STAMPED ENVELOPE;0LINKED PAPERCLIPS",
   "1F588=0BLACK PUSHPIN;0LOWER LEFT PENCIL;2BALLPOINT PEN;2FOUNTAIN PEN;2PAINTBRUSH;2CRAYON",
   "1F58E=0LEFT WRITING HAND;0TURNED OK HAND SIGN;0RAISED HAND WITH FINGERS SPLAYED",
   "1F591=0REVERSED RAISED HAND WITH FINGERS SPLAYED;1THUMBS UP SIGN;2DOWN SIGN;1VICTORY HAND",
   "1F595=0REVERSED HAND WITH MIDDLE FINGER EXTENDED",
   "1F596=0RAISED HAND WITH PART BETWEEN MIDDLE AND RING FINGERS",
   "1F597=0WHITE DOWN POINTING LEFT HAND INDEX;0SIDEWAYS WHITE LEFT POINTING INDEX",
   "1F599=0SIDEWAYS WHITE RIGHT POINTING INDEX;1BLACK LEFT POINTING INDEX;2RIGHT POINTING INDEX",
   "1F59C=0BLACK LEFT POINTING BACKHAND INDEX;1RIGHT POINTING BACKHAND INDEX",
   "1F59E=0SIDEWAYS WHITE UP POINTING INDEX;2DOWN POINTING INDEX;1BLACK UP POINTING INDEX",
   "1F5A1=0SIDEWAYS BLACK DOWN POINTING INDEX;0BLACK UP POINTING BACKHAND INDEX",
   "1F5A3=0BLACK DOWN POINTING BACKHAND INDEX;1HEART;0DESKTOP COMPUTER;0KEYBOARD AND MOUSE",
   "1F5A7=0THREE NETWORKED COMPUTERS;0PRINTER;0POCKET CALCULATOR;0BLACK HARD SHELL FLOPPY DISK",
   "1F5AB=0WHITE HARD SHELL FLOPPY DISK;0SOFT SHELL FLOPPY DISK;0TAPE CARTRIDGE;0WIRED KEYBOARD",
   "1F5AF=0ONE BUTTON MOUSE;0TWO BUTTON MOUSE;0THREE BUTTON MOUSE;0TRACKBALL",
   "1F5B3=0OLD PERSONAL COMPUTER;0HARD DISK;0SCREEN;0PRINTER ICON;0FAX ICON;0OPTICAL DISC ICON",
   "1F5B9=0DOCUMENT WITH TEXT;3AND PICTURE;2PICTURE;0FRAME WITH PICTURE;2TILES;2AN X",
   "1F5BF=0BLACK FOLDER;0FOLDER;0OPEN FOLDER;0CARD INDEX DIVIDERS;1FILE BOX;0FILE CABINET",
   "1F5C5=0EMPTY NOTE;2PAGE;2PAD;0NOTE;1PAGE;1PAD;0EMPTY DOCUMENT;1PAGE;1PAGES;0DOCUMENT;0PAGE",
   "1F5D0=0PAGES;0WASTEBASKET;0SPIRAL NOTE PAD;1CALENDAR PAD;0DESKTOP WINDOW;0MINIMIZE;0MAXIMIZE",
   "1F5D7=0OVERLAP;0CLOCKWISE RIGHT AND LEFT SEMICIRCLE ARROWS;0CANCELLATION X",
   "1F5DA=0INCREASE FONT SIZE SYMBOL;0DECREASE FONT SIZE SYMBOL;0COMPRESSION;0OLD KEY",
   "1F5DE=0ROLLED-UP NEWSPAPER;0PAGE WITH CIRCLED TEXT;0STOCK CHART;0DAGGER KNIFE;0LIPS",
   "1F5E3=0SPEAKING HEAD IN SILHOUETTE;0THREE RAYS ABOVE;2BELOW;2LEFT;2RIGHT;0LEFT SPEECH BUBBLE",
   "1F5E9=0RIGHT SPEECH BUBBLE;0TWO SPEECH BUBBLES;0THREE SPEECH BUBBLES;0LEFT THOUGHT BUBBLE",
   "1F5ED=0RIGHT THOUGHT BUBBLE;0LEFT ANGER BUBBLE;0RIGHT ANGER BUBBLE;0MOOD BUBBLE",
   "1F5F1=0LIGHTNING MOOD BUBBLE;2;0BALLOT BOX WITH BALLOT;1SCRIPT X;1BOX WITH SCRIPT X",
   "1F5F6=0BALLOT BOLD SCRIPT X;1BOX WITH BOLD SCRIPT X;0LIGHT CHECK MARK",
   "1F5F9=0BALLOT BOX WITH BOLD CHECK;0WORLD MAP;0MOUNT FUJI;0TOKYO TOWER;0STATUE OF LIBERTY",
   "1F5FE=0SILHOUETTE OF JAPAN;0MOYAI;0GRINNING FACE;2WITH SMILING EYES;0FACE WITH TEARS OF JOY",
   "1F603=0SMILING FACE WITH OPEN MOUTH;5AND SMILING EYES;6COLD SWEAT;6TIGHTLY-CLOSED EYES;3HALO",
   "1F608=0SMILING FACE WITH HORNS;0WINKING FACE;0SMILING FACE WITH SMILING EYES",
   "1F60B=0FACE SAVOURING DELICIOUS FOOD;0RELIEVED FACE;0SMILING FACE WITH HEART-SHAPED EYES",
   "1F60E=0SMILING FACE WITH SUNGLASSES;0SMIRKING FACE;0NEUTRAL FACE;0EXPRESSIONLESS FACE",
   "1F612=0UNAMUSED FACE;0FACE WITH COLD SWEAT;0PENSIVE FACE;0CONFUSED FACE;0CONFOUNDED FACE",
   "1F617=0KISSING FACE;0FACE THROWING A KISS;0KISSING FACE WITH SMILING EYES;3CLOSED EYES",
   "1F61B=0FACE WITH STUCK-OUT TONGUE;4AND WINKING EYE;5TIGHTLY-CLOSED EYES;0DISAPPOINTED FACE",
   "1F61F=0WORRIED FACE;0ANGRY FACE;0POUTING FACE;0CRYING FACE;0PERSEVERING FACE",
   "1F624=0FACE WITH LOOK OF TRIUMPH;0DISAPPOINTED BUT RELIEVED FACE",
   "1F626=0FROWNING FACE WITH OPEN MOUTH;0ANGUISHED FACE;0FEARFUL FACE;0WEARY FACE;0SLEEPY FACE",
   "1F62B=0TIRED FACE;0GRIMACING FACE;0LOUDLY CRYING FACE;0FACE WITH OPEN MOUTH;0HUSHED FACE",
   "1F630=0FACE WITH OPEN MOUTH AND COLD SWEAT;1SCREAMING IN FEAR;0ASTONISHED FACE;0FLUSHED FACE",
   "1F634=0SLEEPING FACE;0DIZZY FACE;0FACE WITHOUT MOUTH;1WITH MEDICAL MASK",
   "1F638=0GRINNING CAT FACE WITH SMILING EYES;0CAT FACE WITH TEARS OF JOY",
   "1F63A=0SMILING CAT FACE WITH OPEN MOUTH;4HEART-SHAPED EYES;0CAT FACE WITH WRY SMILE",
   "1F63D=0KISSING CAT FACE WITH CLOSED EYES;0POUTING CAT FACE;0CRYING CAT FACE;0WEARY CAT FACE",
   "1F641=0SLIGHTLY FROWNING FACE;1SMILING FACE;0UPSIDE-DOWN FACE;0FACE WITH ROLLING EYES",
   "1F645=0FACE WITH NO GOOD GESTURE;2OK GESTURE;0PERSON BOWING DEEPLY;0SEE-NO-EVIL MONKEY",
   "1F649=0HEAR-NO-EVIL MONKEY;0SPEAK-NO-EVIL MONKEY;0HAPPY PERSON RAISING ONE HAND",
   "1F64C=0PERSON RAISING BOTH HANDS IN CELEBRATION;1FROWNING;1WITH POUTING FACE;2FOLDED HANDS",
   "1F650=0NORTH WEST POINTING LEAF;0SOUTH WEST POINTING LEAF;0NORTH EAST POINTING LEAF",
   "1F653=0SOUTH EAST POINTING LEAF;0TURNED NORTH WEST POINTING LEAF;1SOUTH WEST POINTING LEAF",
   "1F656=0TURNED NORTH EAST POINTING LEAF;1SOUTH EAST POINTING LEAF",
   "1F658=0NORTH WEST POINTING VINE LEAF;0SOUTH WEST POINTING VINE LEAF",
   "1F65A=0NORTH EAST POINTING VINE LEAF;0SOUTH EAST POINTING VINE LEAF",
   "1F65C=0HEAVY NORTH WEST POINTING VINE LEAF;1SOUTH WEST POINTING VINE LEAF",
   "1F65E=0HEAVY NORTH EAST POINTING VINE LEAF;1SOUTH EAST POINTING VINE LEAF",
   "1F660=0NORTH WEST POINTING BUD;0SOUTH WEST POINTING BUD;0NORTH EAST POINTING BUD",
   "1F663=0SOUTH EAST POINTING BUD;0HEAVY NORTH WEST POINTING BUD;1SOUTH WEST POINTING BUD",
   "1F666=0HEAVY NORTH EAST POINTING BUD;1SOUTH EAST POINTING BUD;0HOLLOW QUILT SQUARE ORNAMENT",
   "1F669=0HOLLOW QUILT SQUARE ORNAMENT IN BLACK SQUARE;0SOLID QUILT SQUARE ORNAMENT",
   "1F66B=0SOLID QUILT SQUARE ORNAMENT IN BLACK SQUARE;0LEFTWARDS ROCKET;0UPWARDS ROCKET",
   "1F66E=0RIGHTWARDS ROCKET;0DOWNWARDS ROCKET;0SCRIPT LIGATURE ET ORNAMENT",
   "1F671=0HEAVY SCRIPT LIGATURE ET ORNAMENT;0LIGATURE OPEN ET ORNAMENT",
   "1F673=0HEAVY LIGATURE OPEN ET ORNAMENT;1AMPERSAND ORNAMENT;0SWASH AMPERSAND ORNAMENT",
   "1F676=0SANS-SERIF HEAVY DOUBLE TURNED COMMA QUOTATION MARK ORNAMENT",
   "1F677=0SANS-SERIF HEAVY DOUBLE COMMA QUOTATION MARK ORNAMENT",
   "1F678=0SANS-SERIF HEAVY LOW DOUBLE COMMA QUOTATION MARK ORNAMENT;0HEAVY INTERROBANG ORNAMENT",
   "1F67A=0SANS-SERIF INTERROBANG ORNAMENT;0HEAVY SANS-SERIF INTERROBANG ORNAMENT",
   "1F67C=0VERY HEAVY SOLIDUS;2REVERSE SOLIDUS;0CHECKER BOARD;0REVERSE CHECKER BOARD;0ROCKET",
   "1F681=0HELICOPTER;0STEAM LOCOMOTIVE;0RAILWAY CAR;0HIGH-SPEED TRAIN;2WITH BULLET NOSE;0TRAIN",
   "1F687=0METRO;0LIGHT RAIL;0STATION;0TRAM;1CAR;0BUS;0ONCOMING BUS;0TROLLEYBUS;0BUS STOP",
   "1F690=0MINIBUS;0AMBULANCE;0FIRE ENGINE;0POLICE CAR;0ONCOMING POLICE CAR;0TAXI;0ONCOMING TAXI",
   "1F697=0AUTOMOBILE;0ONCOMING AUTOMOBILE;0RECREATIONAL VEHICLE;0DELIVERY TRUCK",
   "1F69B=0ARTICULATED LORRY;0TRACTOR;0MONORAIL;0MOUNTAIN RAILWAY;0SUSPENSION RAILWAY",
   "1F6A0=0MOUNTAIN CABLEWAY;0AERIAL TRAMWAY;0SHIP;0ROWBOAT;0SPEEDBOAT;0HORIZONTAL TRAFFIC LIGHT",
   "1F6A6=0VERTICAL TRAFFIC LIGHT;0CONSTRUCTION SIGN;0POLICE CARS REVOLVING LIGHT",
   "1F6A9=0TRIANGULAR FLAG ON POST;0DOOR;0NO ENTRY SIGN;0SMOKING SYMBOL;0NO SMOKING SYMBOL",
   "1F6AE=0PUT LITTER IN ITS PLACE SYMBOL;0DO NOT LITTER SYMBOL;0POTABLE WATER SYMBOL",
   "1F6B1=0NON-POTABLE WATER SYMBOL;0BICYCLE;0NO BICYCLES;0BICYCLIST;0MOUNTAIN BICYCLIST",
   "1F6B6=0PEDESTRIAN;0NO PEDESTRIANS;0CHILDREN CROSSING;0MENS SYMBOL;0WOMENS SYMBOL;0RESTROOM",
   "1F6BC=0BABY SYMBOL;0TOILET;0WATER CLOSET;0SHOWER;0BATH;0BATHTUB;0PASSPORT CONTROL;0CUSTOMS",
   "1F6C4=0BAGGAGE CLAIM;0LEFT LUGGAGE;0TRIANGLE WITH ROUNDED CORNERS;0PROHIBITED SIGN",
   "1F6C8=0CIRCLED INFORMATION SOURCE;0BOYS SYMBOL;0GIRLS SYMBOL;0COUCH AND LAMP",
   "1F6CC=0SLEEPING ACCOMMODATION;0SHOPPING BAGS;0BELLHOP BELL;0BED;0PLACE OF WORSHIP",
   "1F6D1=0OCTAGONAL SIGN;0SHOPPING TROLLEY;0STUPA;0PAGODA;0HINDU TEMPLE;0HUT;0ELEVATOR",
   "1F6DC=0WIRELESS;0PLAYGROUND SLIDE;0WHEEL;0RING BUOY;0HAMMER AND WRENCH;0SHIELD;0OIL DRUM",
   "1F6E3=0MOTORWAY;0RAILWAY TRACK;0MOTOR BOAT;0UP-POINTING MILITARY AIRPLANE;1AIRPLANE",
   "1F6E8=0UP-POINTING SMALL AIRPLANE;0SMALL AIRPLANE;0NORTHEAST-POINTING AIRPLANE",
   "1F6EB=0AIRPLANE DEPARTURE;1ARRIVING;1F6F0=0SATELLITE;0ONCOMING FIRE ENGINE;0DIESEL LOCOMOTIVE",
   "1F6F3=0PASSENGER SHIP;0SCOOTER;0MOTOR SCOOTER;0CANOE;0SLED;0FLYING SAUCER;0SKATEBOARD",
   "1F6FA=0AUTO RICKSHAW;0PICKUP TRUCK;0ROLLER SKATE;1F700=0ALCHEMICAL SYMBOL FOR QUINTESSENCE",
   "1F701=0ALCHEMICAL SYMBOL FOR AIR;3FIRE;3EARTH;3WATER;3AQUAFORTIS;3AQUA REGIA;4REGIA-2;4VITAE",
   "1F709=0ALCHEMICAL SYMBOL FOR AQUA VITAE-2;3VINEGAR;3VINEGAR-2;3VINEGAR-3;3SULFUR",
   "1F70E=0ALCHEMICAL SYMBOL FOR PHILOSOPHERS SULFUR;3BLACK SULFUR;3MERCURY SUBLIMATE",
   "1F711=0ALCHEMICAL SYMBOL FOR MERCURY SUBLIMATE-2;4SUBLIMATE-3;3CINNABAR;3SALT;3NITRE;3VITRIOL",
   "1F717=0ALCHEMICAL SYMBOL FOR VITRIOL-2;3ROCK SALT;4SALT-2;3GOLD;3SILVER;3IRON ORE;4ORE-2",
   "1F71E=0ALCHEMICAL SYMBOL FOR CROCUS OF IRON;3REGULUS OF IRON;3COPPER ORE;3IRON-COPPER ORE",
   "1F722=0ALCHEMICAL SYMBOL FOR SUBLIMATE OF COPPER;3CROCUS OF COPPER;5COPPER-2",
   "1F725=0ALCHEMICAL SYMBOL FOR COPPER ANTIMONIATE;3SALT OF COPPER ANTIMONIATE",
   "1F727=0ALCHEMICAL SYMBOL FOR SUBLIMATE OF SALT OF COPPER;3VERDIGRIS;3TIN ORE;3LEAD ORE",
   "1F72B=0ALCHEMICAL SYMBOL FOR ANTIMONY ORE;3SUBLIMATE OF ANTIMONY;3SALT OF ANTIMONY",
   "1F72E=0ALCHEMICAL SYMBOL FOR SUBLIMATE OF SALT OF ANTIMONY;3VINEGAR OF ANTIMONY",
   "1F730=0ALCHEMICAL SYMBOL FOR REGULUS OF ANTIMONY;5ANTIMONY-2;4;3REGULUS-2;3REGULUS-3",
   "1F735=0ALCHEMICAL SYMBOL FOR REGULUS-4;3ALKALI;3ALKALI-2;3MARCASITE;3SAL-AMMONIAC;3ARSENIC",
   "1F73B=0ALCHEMICAL SYMBOL FOR REALGAR;3REALGAR-2;3AURIPIGMENT;3BISMUTH ORE;3TARTAR;3TARTAR-2",
   "1F741=0ALCHEMICAL SYMBOL FOR QUICK LIME;3BORAX;3BORAX-2;3BORAX-3;3ALUM;3OIL;3SPIRIT;3TINCTURE",
   "1F749=0ALCHEMICAL SYMBOL FOR GUM;3WAX;3POWDER;3CALX;3TUTTY;3CAPUT MORTUUM;3SCEPTER OF JOVE",
   "1F750=0ALCHEMICAL SYMBOL FOR CADUCEUS;3TRIDENT;3STARRED TRIDENT;3LODESTONE;3SOAP;3URINE",
   "1F756=0ALCHEMICAL SYMBOL FOR HORSE DUNG;3ASHES;3POT ASHES;3BRICK;3POWDERED BRICK;3AMALGAM",
   "1F75C=0ALCHEMICAL SYMBOL FOR STRATUM SUPER STRATUM;5STRATUM-2;3SUBLIMATION;3PRECIPITATE",
   "1F760=0ALCHEMICAL SYMBOL FOR DISTILL;3DISSOLVE;3DISSOLVE-2;3PURIFY;3PUTREFACTION;3CRUCIBLE",
   "1F766=0ALCHEMICAL SYMBOL FOR CRUCIBLE-2;3CRUCIBLE-3;3CRUCIBLE-4;3CRUCIBLE-5;3ALEMBIC",
   "1F76B=0ALCHEMICAL SYMBOL FOR BATH OF MARY;5VAPOURS;3RETORT;3HOUR;3NIGHT;3DAY-NIGHT;3MONTH",
   "1F772=0ALCHEMICAL SYMBOL FOR HALF DRAM;4OUNCE;0LOT OF FORTUNE;0OCCULTATION;0LUNAR ECLIPSE",
   "1F77B=0HAUMEA;0MAKEMAKE;0GONGGONG;0QUAOAR;0ORCUS",
   "1F780=0BLACK LEFT-POINTING ISOSCELES RIGHT TRIANGLE;1UP-POINTING ISOSCELES RIGHT TRIANGLE",
   "1F782=0BLACK RIGHT-POINTING ISOSCELES RIGHT TRIANGLE;1DOWN-POINTING ISOSCELES RIGHT TRIANGLE",
   "1F784=0BLACK SLIGHTLY SMALL CIRCLE;0MEDIUM BOLD WHITE CIRCLE;0BOLD WHITE CIRCLE",
   "1F787=0HEAVY WHITE CIRCLE;0VERY HEAVY WHITE CIRCLE;0EXTREMELY HEAVY WHITE CIRCLE",
   "1F78A=0WHITE CIRCLE CONTAINING BLACK SMALL CIRCLE;0ROUND TARGET;0BLACK TINY SQUARE",
   "1F78D=0BLACK SLIGHTLY SMALL SQUARE;0LIGHT WHITE SQUARE;0MEDIUM WHITE SQUARE",
   "1F790=0BOLD WHITE SQUARE;0HEAVY WHITE SQUARE;0VERY HEAVY WHITE SQUARE",
   "1F793=0EXTREMELY HEAVY WHITE SQUARE;0WHITE SQUARE CONTAINING BLACK VERY SMALL SQUARE",
   "1F795=0WHITE SQUARE CONTAINING BLACK MEDIUM SQUARE;0SQUARE TARGET;0BLACK TINY DIAMOND",
   "1F798=0BLACK VERY SMALL DIAMOND;1MEDIUM SMALL DIAMOND",
   "1F79A=0WHITE DIAMOND CONTAINING BLACK VERY SMALL DIAMOND;4MEDIUM DIAMOND;0DIAMOND TARGET",
   "1F79D=0BLACK TINY LOZENGE;1VERY SMALL LOZENGE;1MEDIUM SMALL LOZENGE",
   "1F7A0=0WHITE LOZENGE CONTAINING BLACK SMALL LOZENGE;0THIN GREEK CROSS;0LIGHT GREEK CROSS",
   "1F7A3=0MEDIUM GREEK CROSS;0BOLD GREEK CROSS;0VERY BOLD GREEK CROSS;1HEAVY GREEK CROSS",
   "1F7A7=0EXTREMELY HEAVY GREEK CROSS;0THIN SALTIRE;0LIGHT SALTIRE;0MEDIUM SALTIRE;0BOLD SALTIRE",
   "1F7AC=0HEAVY SALTIRE;0VERY HEAVY SALTIRE;0EXTREMELY HEAVY SALTIRE;0LIGHT FIVE SPOKED ASTERISK",
   "1F7B0=0MEDIUM FIVE SPOKED ASTERISK;0BOLD FIVE SPOKED ASTERISK;0HEAVY FIVE SPOKED ASTERISK",
   "1F7B3=0VERY HEAVY FIVE SPOKED ASTERISK;0EXTREMELY HEAVY FIVE SPOKED ASTERISK",
   "1F7B5=0LIGHT SIX SPOKED ASTERISK;0MEDIUM SIX SPOKED ASTERISK;0BOLD SIX SPOKED ASTERISK",
   "1F7B8=0HEAVY SIX SPOKED ASTERISK;0VERY HEAVY SIX SPOKED ASTERISK",
   "1F7BA=0EXTREMELY HEAVY SIX SPOKED ASTERISK;0LIGHT EIGHT SPOKED ASTERISK",
   "1F7BC=0MEDIUM EIGHT SPOKED ASTERISK;0BOLD EIGHT SPOKED ASTERISK;0HEAVY EIGHT SPOKED ASTERISK",
   "1F7BF=0VERY HEAVY EIGHT SPOKED ASTERISK;0LIGHT THREE POINTED BLACK STAR",
   "1F7C1=0MEDIUM THREE POINTED BLACK STAR;0THREE POINTED BLACK STAR",
   "1F7C3=0MEDIUM THREE POINTED PINWHEEL STAR;0LIGHT FOUR POINTED BLACK STAR",
   "1F7C5=0MEDIUM FOUR POINTED BLACK STAR;0FOUR POINTED BLACK STAR",
   "1F7C7=0MEDIUM FOUR POINTED PINWHEEL STAR;0REVERSE LIGHT FOUR POINTED PINWHEEL STAR",
   "1F7C9=0LIGHT FIVE POINTED BLACK STAR;0HEAVY FIVE POINTED BLACK STAR",
   "1F7CB=0MEDIUM SIX POINTED BLACK STAR;0HEAVY SIX POINTED BLACK STAR;0SIX POINTED PINWHEEL STAR",
   "1F7CE=0MEDIUM EIGHT POINTED BLACK STAR;0HEAVY EIGHT POINTED BLACK STAR",
   "1F7D0=0VERY HEAVY EIGHT POINTED BLACK STAR;0HEAVY EIGHT POINTED PINWHEEL STAR",
   "1F7D2=0LIGHT TWELVE POINTED BLACK STAR;0HEAVY TWELVE POINTED BLACK STAR;3PINWHEEL STAR",
   "1F7D5=0CIRCLED TRIANGLE;0NEGATIVE CIRCLED TRIANGLE;0CIRCLED SQUARE;0NEGATIVE CIRCLED SQUARE",
   "1F7D9=0NINE POINTED WHITE STAR;1F7E0=0LARGE ORANGE CIRCLE;1YELLOW CIRCLE;1GREEN CIRCLE",
   "1F7E3=0LARGE PURPLE CIRCLE;1BROWN CIRCLE;1RED SQUARE;1BLUE SQUARE;1ORANGE SQUARE",
   "1F7E8=0LARGE YELLOW SQUARE;1GREEN SQUARE;1PURPLE SQUARE;1BROWN SQUARE",
   "1F7F0=0HEAVY EQUALS SIGN;1F800=0LEFTWARDS ARROW WITH SMALL TRIANGLE ARROWHEAD",
   "1F801=0UPWARDS ARROW WITH SMALL TRIANGLE ARROWHEAD",
   "1F802=0RIGHTWARDS ARROW WITH SMALL TRIANGLE ARROWHEAD",
   "1F803=0DOWNWARDS ARROW WITH SMALL TRIANGLE ARROWHEAD",
   "1F804=0LEFTWARDS ARROW WITH MEDIUM TRIANGLE ARROWHEAD",
   "1F805=0UPWARDS ARROW WITH MEDIUM TRIANGLE ARROWHEAD",
   "1F806=0RIGHTWARDS ARROW WITH MEDIUM TRIANGLE ARROWHEAD",
   "1F807=0DOWNWARDS ARROW WITH MEDIUM TRIANGLE ARROWHEAD",
   "1F808=0LEFTWARDS ARROW WITH LARGE TRIANGLE ARROWHEAD",
   "1F809=0UPWARDS ARROW WITH LARGE TRIANGLE ARROWHEAD",
   "1F80A=0RIGHTWARDS ARROW WITH LARGE TRIANGLE ARROWHEAD",
   "1F80B=0DOWNWARDS ARROW WITH LARGE TRIANGLE ARROWHEAD",
   "1F810=0LEFTWARDS ARROW WITH SMALL EQUILATERAL ARROWHEAD",
   "1F811=0UPWARDS ARROW WITH SMALL EQUILATERAL ARROWHEAD",
   "1F812=0RIGHTWARDS ARROW WITH SMALL EQUILATERAL ARROWHEAD",
   "1F813=0DOWNWARDS ARROW WITH SMALL EQUILATERAL ARROWHEAD",
   "1F814=0LEFTWARDS ARROW WITH EQUILATERAL ARROWHEAD;0UPWARDS ARROW WITH EQUILATERAL ARROWHEAD",
   "1F816=0RIGHTWARDS ARROW WITH EQUILATERAL ARROWHEAD",
   "1F817=0DOWNWARDS ARROW WITH EQUILATERAL ARROWHEAD",
   "1F818=0HEAVY LEFTWARDS ARROW WITH EQUILATERAL ARROWHEAD",
   "1F819=0HEAVY UPWARDS ARROW WITH EQUILATERAL ARROWHEAD",
   "1F81A=0HEAVY RIGHTWARDS ARROW WITH EQUILATERAL ARROWHEAD",
   "1F81B=0HEAVY DOWNWARDS ARROW WITH EQUILATERAL ARROWHEAD",
   "1F81C=0HEAVY LEFTWARDS ARROW WITH LARGE EQUILATERAL ARROWHEAD",
   "1F81D=0HEAVY UPWARDS ARROW WITH LARGE EQUILATERAL ARROWHEAD",
   "1F81E=0HEAVY RIGHTWARDS ARROW WITH LARGE EQUILATERAL ARROWHEAD",
   "1F81F=0HEAVY DOWNWARDS ARROW WITH LARGE EQUILATERAL ARROWHEAD",
   "1F820=0LEFTWARDS TRIANGLE-HEADED ARROW WITH NARROW SHAFT",
   "1F821=0UPWARDS TRIANGLE-HEADED ARROW WITH NARROW SHAFT",
   "1F822=0RIGHTWARDS TRIANGLE-HEADED ARROW WITH NARROW SHAFT",
   "1F823=0DOWNWARDS TRIANGLE-HEADED ARROW WITH NARROW SHAFT",
   "1F824=0LEFTWARDS TRIANGLE-HEADED ARROW WITH MEDIUM SHAFT",
   "1F825=0UPWARDS TRIANGLE-HEADED ARROW WITH MEDIUM SHAFT",
   "1F826=0RIGHTWARDS TRIANGLE-HEADED ARROW WITH MEDIUM SHAFT",
   "1F827=0DOWNWARDS TRIANGLE-HEADED ARROW WITH MEDIUM SHAFT",
   "1F828=0LEFTWARDS TRIANGLE-HEADED ARROW WITH BOLD SHAFT",
   "1F829=0UPWARDS TRIANGLE-HEADED ARROW WITH BOLD SHAFT",
   "1F82A=0RIGHTWARDS TRIANGLE-HEADED ARROW WITH BOLD SHAFT",
   "1F82B=0DOWNWARDS TRIANGLE-HEADED ARROW WITH BOLD SHAFT",
   "1F82C=0LEFTWARDS TRIANGLE-HEADED ARROW WITH HEAVY SHAFT",
   "1F82D=0UPWARDS TRIANGLE-HEADED ARROW WITH HEAVY SHAFT",
   "1F82E=0RIGHTWARDS TRIANGLE-HEADED ARROW WITH HEAVY SHAFT",
   "1F82F=0DOWNWARDS TRIANGLE-HEADED ARROW WITH HEAVY SHAFT",
   "1F830=0LEFTWARDS TRIANGLE-HEADED ARROW WITH VERY HEAVY SHAFT",
   "1F831=0UPWARDS TRIANGLE-HEADED ARROW WITH VERY HEAVY SHAFT",
   "1F832=0RIGHTWARDS TRIANGLE-HEADED ARROW WITH VERY HEAVY SHAFT",
   "1F833=0DOWNWARDS TRIANGLE-HEADED ARROW WITH VERY HEAVY SHAFT;0LEFTWARDS FINGER-POST ARROW",
   "1F835=0UPWARDS FINGER-POST ARROW;0RIGHTWARDS FINGER-POST ARROW;0DOWNWARDS FINGER-POST ARROW",
   "1F838=0LEFTWARDS SQUARED ARROW;0UPWARDS SQUARED ARROW;0RIGHTWARDS SQUARED ARROW",
   "1F83B=0DOWNWARDS SQUARED ARROW;0LEFTWARDS COMPRESSED ARROW;0UPWARDS COMPRESSED ARROW",
   "1F83E=0RIGHTWARDS COMPRESSED ARROW;0DOWNWARDS COMPRESSED ARROW",
   "1F840=0LEFTWARDS HEAVY COMPRESSED ARROW;0UPWARDS HEAVY COMPRESSED ARROW",
   "1F842=0RIGHTWARDS HEAVY COMPRESSED ARROW;0DOWNWARDS HEAVY COMPRESSED ARROW",
   "1F844=0LEFTWARDS HEAVY ARROW;0UPWARDS HEAVY ARROW;0RIGHTWARDS HEAVY ARROW",
   "1F847=0DOWNWARDS HEAVY ARROW;1F850=0LEFTWARDS SANS-SERIF ARROW;0UPWARDS SANS-SERIF ARROW",
   "1F852=0RIGHTWARDS SANS-SERIF ARROW;0DOWNWARDS SANS-SERIF ARROW;0NORTH WEST SANS-SERIF ARROW",
   "1F855=0NORTH EAST SANS-SERIF ARROW;0SOUTH EAST SANS-SERIF ARROW;1WEST SANS-SERIF ARROW",
   "1F858=0LEFT RIGHT SANS-SERIF ARROW;0UP DOWN SANS-SERIF ARROW",
   "1F860=0WIDE-HEADED LEFTWARDS LIGHT BARB ARROW;1UPWARDS LIGHT BARB ARROW",
   "1F862=0WIDE-HEADED RIGHTWARDS LIGHT BARB ARROW;1DOWNWARDS LIGHT BARB ARROW",
   "1F864=0WIDE-HEADED NORTH WEST LIGHT BARB ARROW;2EAST LIGHT BARB ARROW",
   "1F866=0WIDE-HEADED SOUTH EAST LIGHT BARB ARROW;2WEST LIGHT BARB ARROW;1LEFTWARDS BARB ARROW",
   "1F869=0WIDE-HEADED UPWARDS BARB ARROW;1RIGHTWARDS BARB ARROW;1DOWNWARDS BARB ARROW",
   "1F86C=0WIDE-HEADED NORTH WEST BARB ARROW;2EAST BARB ARROW;1SOUTH EAST BARB ARROW",
   "1F86F=0WIDE-HEADED SOUTH WEST BARB ARROW;1LEFTWARDS MEDIUM BARB ARROW",
   "1F871=0WIDE-HEADED UPWARDS MEDIUM BARB ARROW;1RIGHTWARDS MEDIUM BARB ARROW",
   "1F873=0WIDE-HEADED DOWNWARDS MEDIUM BARB ARROW;1NORTH WEST MEDIUM BARB ARROW",
   "1F875=0WIDE-HEADED NORTH EAST MEDIUM BARB ARROW;1SOUTH EAST MEDIUM BARB ARROW",
   "1F877=0WIDE-HEADED SOUTH WEST MEDIUM BARB ARROW;1LEFTWARDS HEAVY BARB ARROW",
   "1F879=0WIDE-HEADED UPWARDS HEAVY BARB ARROW;1RIGHTWARDS HEAVY BARB ARROW",
   "1F87B=0WIDE-HEADED DOWNWARDS HEAVY BARB ARROW;1NORTH WEST HEAVY BARB ARROW",
   "1F87D=0WIDE-HEADED NORTH EAST HEAVY BARB ARROW;1SOUTH EAST HEAVY BARB ARROW",
   "1F87F=0WIDE-HEADED SOUTH WEST HEAVY BARB ARROW;1LEFTWARDS VERY HEAVY BARB ARROW",
   "1F881=0WIDE-HEADED UPWARDS VERY HEAVY BARB ARROW;1RIGHTWARDS VERY HEAVY BARB ARROW",
   "1F883=0WIDE-HEADED DOWNWARDS VERY HEAVY BARB ARROW;1NORTH WEST VERY HEAVY BARB ARROW",
   "1F885=0WIDE-HEADED NORTH EAST VERY HEAVY BARB ARROW;1SOUTH EAST VERY HEAVY BARB ARROW",
   "1F887=0WIDE-HEADED SOUTH WEST VERY HEAVY BARB ARROW;1F890=0LEFTWARDS TRIANGLE ARROWHEAD",
   "1F891=0UPWARDS TRIANGLE ARROWHEAD;0RIGHTWARDS TRIANGLE ARROWHEAD",
   "1F893=0DOWNWARDS TRIANGLE ARROWHEAD;0LEFTWARDS WHITE ARROW WITHIN TRIANGLE ARROWHEAD",
   "1F895=0UPWARDS WHITE ARROW WITHIN TRIANGLE ARROWHEAD",
   "1F896=0RIGHTWARDS WHITE ARROW WITHIN TRIANGLE ARROWHEAD",
   "1F897=0DOWNWARDS WHITE ARROW WITHIN TRIANGLE ARROWHEAD;0LEFTWARDS ARROW WITH NOTCHED TAIL",
   "1F899=0UPWARDS ARROW WITH NOTCHED TAIL;0RIGHTWARDS ARROW WITH NOTCHED TAIL",
   "1F89B=0DOWNWARDS ARROW WITH NOTCHED TAIL;0HEAVY ARROW SHAFT WIDTH ONE;4TWO THIRDS;4ONE HALF",
   "1F89F=0HEAVY ARROW SHAFT WIDTH ONE THIRD;0LEFTWARDS BOTTOM-SHADED WHITE ARROW",
   "1F8A1=0RIGHTWARDS BOTTOM SHADED WHITE ARROW;0LEFTWARDS TOP SHADED WHITE ARROW",
   "1F8A3=0RIGHTWARDS TOP SHADED WHITE ARROW;0LEFTWARDS LEFT-SHADED WHITE ARROW",
   "1F8A5=0RIGHTWARDS RIGHT-SHADED WHITE ARROW;0LEFTWARDS RIGHT-SHADED WHITE ARROW",
   "1F8A7=0RIGHTWARDS LEFT-SHADED WHITE ARROW;0LEFTWARDS BACK-TILTED SHADOWED WHITE ARROW",
   "1F8A9=0RIGHTWARDS BACK-TILTED SHADOWED WHITE ARROW",
   "1F8AA=0LEFTWARDS FRONT-TILTED SHADOWED WHITE ARROW",
   "1F8AB=0RIGHTWARDS FRONT-TILTED SHADOWED WHITE ARROW;0WHITE ARROW SHAFT WIDTH ONE;4TWO THIRDS",
   "1F8B0=0ARROW POINTING UPWARDS THEN NORTH WEST;2RIGHTWARDS THEN CURVING SOUTH WEST",
   "1F900=0CIRCLED CROSS FORMEE WITH FOUR DOTS;4TWO DOTS;3;0LEFT HALF CIRCLE WITH FOUR DOTS",
   "1F904=0LEFT HALF CIRCLE WITH THREE DOTS;4TWO DOTS;4DOT;3;0DOWNWARD FACING HOOK;2NOTCHED HOOK",
   "1F90A=0DOWNWARD FACING HOOK WITH DOT;2NOTCHED HOOK WITH DOT;0PINCHED FINGERS;0WHITE HEART",
   "1F90E=0BROWN HEART;0PINCHING HAND;0ZIPPER-MOUTH FACE;0MONEY-MOUTH FACE;0FACE WITH THERMOMETER",
   "1F913=0NERD FACE;0THINKING FACE;0FACE WITH HEAD-BANDAGE;0ROBOT FACE;0HUGGING FACE",
   "1F918=0SIGN OF THE HORNS;0CALL ME HAND;0RAISED BACK OF HAND;0LEFT-FACING FIST",
   "1F91C=0RIGHT-FACING FIST;0HANDSHAKE;0HAND WITH INDEX AND MIDDLE FINGERS CROSSED",
   "1F91F=0I LOVE YOU HAND SIGN;0FACE WITH COWBOY HAT;0CLOWN FACE;0NAUSEATED FACE",
   "1F923=0ROLLING ON THE FLOOR LAUGHING;0DROOLING FACE;0LYING FACE;0FACE PALM;0SNEEZING FACE",
   "1F928=0FACE WITH ONE EYEBROW RAISED;0GRINNING FACE WITH STAR EYES",
   "1F92A=0GRINNING FACE WITH ONE LARGE AND ONE SMALL EYE;0FACE WITH FINGER COVERING CLOSED LIPS",
   "1F92C=0SERIOUS FACE WITH SYMBOLS COVERING MOUTH",
   "1F92D=0SMILING FACE WITH SMILING EYES AND HAND COVERING MOUTH;0FACE WITH OPEN MOUTH VOMITING",
   "1F92F=0SHOCKED FACE WITH EXPLODING HEAD;0PREGNANT WOMAN;0BREAST-FEEDING;0PALMS UP TOGETHER",
   "1F933=0SELFIE;0PRINCE;0MAN IN TUXEDO;0MOTHER CHRISTMAS;0SHRUG;0PERSON DOING CARTWHEEL",
   "1F939=0JUGGLING;0FENCER;0MODERN PENTATHLON;0WRESTLERS;0WATER POLO;0HANDBALL;0DIVING MASK",
   "1F940=0WILTED FLOWER;0DRUM WITH DRUMSTICKS;0CLINKING GLASSES;0TUMBLER GLASS;0SPOON;0GOAL NET",
   "1F946=0RIFLE;0FIRST PLACE MEDAL;0SECOND PLACE MEDAL;0THIRD PLACE MEDAL;0BOXING GLOVE",
   "1F94B=0MARTIAL ARTS UNIFORM;0CURLING STONE;0LACROSSE STICK AND BALL;0SOFTBALL;0FLYING DISC",
   "1F950=0CROISSANT;0AVOCADO;0CUCUMBER;0BACON;0POTATO;0CARROT;0BAGUETTE BREAD;0GREEN SALAD",
   "1F958=0SHALLOW PAN OF FOOD;0STUFFED FLATBREAD;0EGG;0GLASS OF MILK;0PEANUTS;0KIWIFRUIT",
   "1F95E=0PANCAKES;0DUMPLING;0FORTUNE COOKIE;0TAKEOUT BOX;0CHOPSTICKS;0BOWL WITH SPOON",
   "1F964=0CUP WITH STRAW;0COCONUT;0BROCCOLI;0PIE;0PRETZEL;0CUT OF MEAT;0SANDWICH;0CANNED FOOD",
   "1F96C=0LEAFY GREEN;0MANGO;0MOON CAKE;0BAGEL;0SMILING FACE WITH SMILING EYES AND THREE HEARTS",
   "1F971=0YAWNING FACE;0SMILING FACE WITH TEAR;0FACE WITH PARTY HORN AND PARTY HAT",
   "1F974=0FACE WITH UNEVEN EYES AND WAVY MOUTH;0OVERHEATED FACE;0FREEZING FACE;0NINJA",
   "1F978=0DISGUISED FACE;0FACE HOLDING BACK TEARS;1WITH PLEADING EYES;0SARI;0LAB COAT;0GOGGLES",
   "1F97E=0HIKING BOOT;0FLAT SHOE;0CRAB;0LION FACE;0SCORPION;0TURKEY;0UNICORN FACE;0EAGLE;0DUCK",
   "1F987=0BAT;0SHARK;0OWL;0FOX FACE;0BUTTERFLY;0DEER;0GORILLA;0LIZARD;0RHINOCEROS;0SHRIMP;0SQUID",
   "1F992=0GIRAFFE FACE;0ZEBRA FACE;0HEDGEHOG;0SAUROPOD;0T-REX;0CRICKET;0KANGAROO;0LLAMA;0PEACOCK",
   "1F99B=0HIPPOPOTAMUS;0PARROT;0RACCOON;0LOBSTER;0MOSQUITO;0MICROBE;0BADGER;0SWAN;0MAMMOTH;0DODO",
   "1F9A5=0SLOTH;0OTTER;0ORANGUTAN;0SKUNK;0FLAMINGO;0OYSTER;0BEAVER;0BISON;0SEAL;0GUIDE DOG",
   "1F9AF=0PROBING CANE;0EMOJI COMPONENT RED HAIR;2CURLY HAIR;2BALD;2WHITE HAIR;0BONE;0LEG;0FOOT",
   "1F9B7=0TOOTH;0SUPERHERO;0SUPERVILLAIN;0SAFETY VEST;0EAR WITH HEARING AID",
   "1F9BC=0MOTORIZED WHEELCHAIR;0MANUAL WHEELCHAIR;0MECHANICAL ARM;1LEG;0CHEESE WEDGE;0CUPCAKE",
   "1F9C2=0SALT SHAKER;0BEVERAGE BOX;0GARLIC;0ONION;0FALAFEL;0WAFFLE;0BUTTER;0MATE DRINK",
   "1F9CA=0ICE CUBE;0BUBBLE TEA;0TROLL;0STANDING PERSON;0KNEELING PERSON;0DEAF PERSON",
   "1F9D0=0FACE WITH MONOCLE;0ADULT;0CHILD;0OLDER ADULT;0BEARDED PERSON;0PERSON WITH HEADSCARF",
   "1F9D6=0PERSON IN STEAMY ROOM;1CLIMBING;1IN LOTUS POSITION;0MAGE;0FAIRY;0VAMPIRE;0MERPERSON",
   "1F9DD=0ELF;0GENIE;0ZOMBIE;0BRAIN;0ORANGE HEART;0BILLED CAP;0SCARF;0GLOVES;0COAT;0SOCKS",
   "1F9E7=0RED GIFT ENVELOPE;0FIRECRACKER;0JIGSAW PUZZLE PIECE;0TEST TUBE;0PETRI DISH",
   "1F9EC=0DNA DOUBLE HELIX;0COMPASS;0ABACUS;0FIRE EXTINGUISHER;0TOOLBOX;0BRICK;0MAGNET;0LUGGAGE",
   "1F9F4=0LOTION BOTTLE;0SPOOL OF THREAD;0BALL OF YARN;0SAFETY PIN;0TEDDY BEAR;0BROOM;0BASKET",
   "1F9FB=0ROLL OF PAPER;0BAR OF SOAP;0SPONGE;0RECEIPT;0NAZAR AMULET;0NEUTRAL CHESS KING;2QUEEN",
   "1FA02=0NEUTRAL CHESS ROOK;2BISHOP;2KNIGHT;2PAWN",
   "1FA06=0WHITE CHESS KNIGHT ROTATED FORTY-FIVE DEGREES",
   "1FA07=0BLACK CHESS KNIGHT ROTATED FORTY-FIVE DEGREES",
   "1FA08=0NEUTRAL CHESS KNIGHT ROTATED FORTY-FIVE DEGREES",
   "1FA09=0WHITE CHESS KING ROTATED NINETY DEGREES;2QUEEN ROTATED NINETY DEGREES",
   "1FA0B=0WHITE CHESS ROOK ROTATED NINETY DEGREES;2BISHOP ROTATED NINETY DEGREES",
   "1FA0D=0WHITE CHESS KNIGHT ROTATED NINETY DEGREES;2PAWN ROTATED NINETY DEGREES",
   "1FA0F=0BLACK CHESS KING ROTATED NINETY DEGREES;2QUEEN ROTATED NINETY DEGREES",
   "1FA11=0BLACK CHESS ROOK ROTATED NINETY DEGREES;2BISHOP ROTATED NINETY DEGREES",
   "1FA13=0BLACK CHESS KNIGHT ROTATED NINETY DEGREES;2PAWN ROTATED NINETY DEGREES",
   "1FA15=0NEUTRAL CHESS KING ROTATED NINETY DEGREES;2QUEEN ROTATED NINETY DEGREES",
   "1FA17=0NEUTRAL CHESS ROOK ROTATED NINETY DEGREES;2BISHOP ROTATED NINETY DEGREES",
   "1FA19=0NEUTRAL CHESS KNIGHT ROTATED NINETY DEGREES;2PAWN ROTATED NINETY DEGREES",
   "1FA1B=0WHITE CHESS KNIGHT ROTATED ONE HUNDRED THIRTY-FIVE DEGREES",
   "1FA1C=0BLACK CHESS KNIGHT ROTATED ONE HUNDRED THIRTY-FIVE DEGREES",
   "1FA1D=0NEUTRAL CHESS KNIGHT ROTATED ONE HUNDRED THIRTY-FIVE DEGREES;0WHITE CHESS TURNED KING",
   "1FA1F=0WHITE CHESS TURNED QUEEN;3ROOK;3BISHOP;3KNIGHT;3PAWN;0BLACK CHESS TURNED KING;3QUEEN",
   "1FA26=0BLACK CHESS TURNED ROOK;3BISHOP;3KNIGHT;3PAWN;0NEUTRAL CHESS TURNED KING;3QUEEN;3ROOK",
   "1FA2D=0NEUTRAL CHESS TURNED BISHOP;3KNIGHT;3PAWN",
   "1FA30=0WHITE CHESS KNIGHT ROTATED TWO HUNDRED TWENTY-FIVE DEGREES",
   "1FA31=0BLACK CHESS KNIGHT ROTATED TWO HUNDRED TWENTY-FIVE DEGREES",
   "1FA32=0NEUTRAL CHESS KNIGHT ROTATED TWO HUNDRED TWENTY-FIVE DEGREES",
   "1FA33=0WHITE CHESS KING ROTATED TWO HUNDRED SEVENTY DEGREES",
   "1FA34=0WHITE CHESS QUEEN ROTATED TWO HUNDRED SEVENTY DEGREES",
   "1FA35=0WHITE CHESS ROOK ROTATED TWO HUNDRED SEVENTY DEGREES",
   "1FA36=0WHITE CHESS BISHOP ROTATED TWO HUNDRED SEVENTY DEGREES",
   "1FA37=0WHITE CHESS KNIGHT ROTATED TWO HUNDRED SEVENTY DEGREES",
   "1FA38=0WHITE CHESS PAWN ROTATED TWO HUNDRED SEVENTY DEGREES",
   "1FA39=0BLACK CHESS KING ROTATED TWO HUNDRED SEVENTY DEGREES",
   "1FA3A=0BLACK CHESS QUEEN ROTATED TWO HUNDRED SEVENTY DEGREES",
   "1FA3B=0BLACK CHESS ROOK ROTATED TWO HUNDRED SEVENTY DEGREES",
   "1FA3C=0BLACK CHESS BISHOP ROTATED TWO HUNDRED SEVENTY DEGREES",
   "1FA3D=0BLACK CHESS KNIGHT ROTATED TWO HUNDRED SEVENTY DEGREES",
   "1FA3E=0BLACK CHESS PAWN ROTATED TWO HUNDRED SEVENTY DEGREES",
   "1FA3F=0NEUTRAL CHESS KING ROTATED TWO HUNDRED SEVENTY DEGREES",
   "1FA40=0NEUTRAL CHESS QUEEN ROTATED TWO HUNDRED SEVENTY DEGREES",
   "1FA41=0NEUTRAL CHESS ROOK ROTATED TWO HUNDRED SEVENTY DEGREES",
   "1FA42=0NEUTRAL CHESS BISHOP ROTATED TWO HUNDRED SEVENTY DEGREES",
   "1FA43=0NEUTRAL CHESS KNIGHT ROTATED TWO HUNDRED SEVENTY DEGREES",
   "1FA44=0NEUTRAL CHESS PAWN ROTATED TWO HUNDRED SEVENTY DEGREES",
   "1FA45=0WHITE CHESS KNIGHT ROTATED THREE HUNDRED FIFTEEN DEGREES",
   "1FA46=0BLACK CHESS KNIGHT ROTATED THREE HUNDRED FIFTEEN DEGREES",
   "1FA47=0NEUTRAL CHESS KNIGHT ROTATED THREE HUNDRED FIFTEEN DEGREES;0WHITE CHESS EQUIHOPPER",
   "1FA49=0BLACK CHESS EQUIHOPPER;0NEUTRAL CHESS EQUIHOPPER",
   "1FA4B=0WHITE CHESS EQUIHOPPER ROTATED NINETY DEGREES",
   "1FA4C=0BLACK CHESS EQUIHOPPER ROTATED NINETY DEGREES",
   "1FA4D=0NEUTRAL CHESS EQUIHOPPER ROTATED NINETY DEGREES;0WHITE CHESS KNIGHT-QUEEN;2KNIGHT-ROOK",
   "1FA50=0WHITE CHESS KNIGHT-BISHOP;0BLACK CHESS KNIGHT-QUEEN;2KNIGHT-ROOK;2KNIGHT-BISHOP",
   "1FA60=0XIANGQI RED GENERAL;2MANDARIN;2ELEPHANT;2HORSE;2CHARIOT;2CANNON;2SOLDIER",
   "1FA67=0XIANGQI BLACK GENERAL;2MANDARIN;2ELEPHANT;2HORSE;2CHARIOT;2CANNON;2SOLDIER",
   "1FA70=0BALLET SHOES;0ONE-PIECE SWIMSUIT;0BRIEFS;0SHORTS;0THONG SANDAL;0LIGHT BLUE HEART",
   "1FA76=0GREY HEART;0PINK HEART;0DROP OF BLOOD;0ADHESIVE BANDAGE;0STETHOSCOPE;0X-RAY;0CRUTCH",
   "1FA80=0YO-YO;0KITE;0PARACHUTE;0BOOMERANG;0MAGIC WAND;0PINATA;0NESTING DOLLS;0MARACAS;0FLUTE",
   "1FA90=0RINGED PLANET;0CHAIR;0RAZOR;0AXE;0DIYA LAMP;0BANJO;0MILITARY HELMET;0ACCORDION",
   "1FA98=0LONG DRUM;0COIN;0CARPENTRY SAW;0SCREWDRIVER;0LADDER;0HOOK;0MIRROR;0WINDOW;0PLUNGER",
   "1FAA1=0SEWING NEEDLE;0KNOT;0BUCKET;0MOUSE TRAP;0TOOTHBRUSH;0HEADSTONE;0PLACARD;0ROCK",
   "1FAA9=0MIRROR BALL;0IDENTIFICATION CARD;0LOW BATTERY;0HAMSA;0FOLDING HAND FAN;0HAIR PICK",
   "1FAAF=0KHANDA;0FLY;0WORM;0BEETLE;0COCKROACH;0POTTED PLANT;0WOOD;0FEATHER;0LOTUS;0CORAL",
   "1FAB9=0EMPTY NEST;0NEST WITH EGGS;0HYACINTH;0JELLYFISH;0WING;1FABF=0GOOSE;0ANATOMICAL HEART",
   "1FAC1=0LUNGS;0PEOPLE HUGGING;0PREGNANT MAN;1PERSON;0PERSON WITH CROWN;1FACE=0MOOSE;0DONKEY",
   "1FAD0=0BLUEBERRIES;0BELL PEPPER;0OLIVE;0FLATBREAD;0TAMALE;0FONDUE;0TEAPOT;0POURING LIQUID",
   "1FAD8=0BEANS;0JAR;0GINGER ROOT;0PEA POD;1FAE0=0MELTING FACE;0SALUTING FACE",
   "1FAE2=0FACE WITH OPEN EYES AND HAND OVER MOUTH;2PEEKING EYE;2DIAGONAL MOUTH;0DOTTED LINE FACE",
   "1FAE6=0BITING LIP;0BUBBLES;0SHAKING FACE;1FAF0=0HAND WITH INDEX FINGER AND THUMB CROSSED",
   "1FAF1=0RIGHTWARDS HAND;0LEFTWARDS HAND;0PALM DOWN HAND;1UP HAND;0INDEX POINTING AT THE VIEWER",
   "1FAF6=0HEART HANDS;0LEFTWARDS PUSHING HAND;0RIGHTWARDS PUSHING HAND;1FB00=0BLOCK SEXTANT-1",
   "1FB01=0BLOCK SEXTANT-2;1SEXTANT-12;1SEXTANT-3;1SEXTANT-13;1SEXTANT-23;1SEXTANT-123;1SEXTANT-4",
   "1FB08=0BLOCK SEXTANT-14;1SEXTANT-24;1SEXTANT-124;1SEXTANT-34;1SEXTANT-134;1SEXTANT-234",
   "1FB0E=0BLOCK SEXTANT-1234;1SEXTANT-5;1SEXTANT-15;1SEXTANT-25;1SEXTANT-125;1SEXTANT-35",
   "1FB14=0BLOCK SEXTANT-235;1SEXTANT-1235;1SEXTANT-45;1SEXTANT-145;1SEXTANT-245;1SEXTANT-1245",
   "1FB1A=0BLOCK SEXTANT-345;1SEXTANT-1345;1SEXTANT-2345;1SEXTANT-12345;1SEXTANT-6;1SEXTANT-16",
   "1FB20=0BLOCK SEXTANT-26;1SEXTANT-126;1SEXTANT-36;1SEXTANT-136;1SEXTANT-236;1SEXTANT-1236",
   "1FB26=0BLOCK SEXTANT-46;1SEXTANT-146;1SEXTANT-1246;1SEXTANT-346;1SEXTANT-1346;1SEXTANT-2346",
   "1FB2C=0BLOCK SEXTANT-12346;1SEXTANT-56;1SEXTANT-156;1SEXTANT-256;1SEXTANT-1256;1SEXTANT-356",
   "1FB32=0BLOCK SEXTANT-1356;1SEXTANT-2356;1SEXTANT-12356;1SEXTANT-456;1SEXTANT-1456",
   "1FB37=0BLOCK SEXTANT-2456;1SEXTANT-12456;1SEXTANT-3456;1SEXTANT-13456;1SEXTANT-23456",
   "1FB3C=0LOWER LEFT BLOCK DIAGONAL LOWER MIDDLE LEFT TO LOWER CENTRE;9RIGHT",
   "1FB3E=0LOWER LEFT BLOCK DIAGONAL UPPER MIDDLE LEFT TO LOWER CENTRE;9RIGHT",
   "1FB40=0LOWER LEFT BLOCK DIAGONAL UPPER LEFT TO LOWER CENTRE",
   "1FB41=0LOWER RIGHT BLOCK DIAGONAL UPPER MIDDLE LEFT TO UPPER CENTRE;9RIGHT",
   "1FB43=0LOWER RIGHT BLOCK DIAGONAL LOWER MIDDLE LEFT TO UPPER CENTRE;9RIGHT",
   "1FB45=0LOWER RIGHT BLOCK DIAGONAL LOWER LEFT TO UPPER CENTRE",
   "1FB46=0LOWER RIGHT BLOCK DIAGONAL LOWER MIDDLE LEFT TO UPPER MIDDLE RIGHT",
   "1FB47=0LOWER RIGHT BLOCK DIAGONAL LOWER CENTRE TO LOWER MIDDLE RIGHT",
   "1FB48=0LOWER RIGHT BLOCK DIAGONAL LOWER LEFT TO LOWER MIDDLE RIGHT",
   "1FB49=0LOWER RIGHT BLOCK DIAGONAL LOWER CENTRE TO UPPER MIDDLE RIGHT",
   "1FB4A=0LOWER RIGHT BLOCK DIAGONAL LOWER LEFT TO UPPER MIDDLE RIGHT;5CENTRE TO UPPER RIGHT",
   "1FB4C=0LOWER LEFT BLOCK DIAGONAL UPPER CENTRE TO UPPER MIDDLE RIGHT",
   "1FB4D=0LOWER LEFT BLOCK DIAGONAL UPPER LEFT TO UPPER MIDDLE RIGHT",
   "1FB4E=0LOWER LEFT BLOCK DIAGONAL UPPER CENTRE TO LOWER MIDDLE RIGHT",
   "1FB4F=0LOWER LEFT BLOCK DIAGONAL UPPER LEFT TO LOWER MIDDLE RIGHT;5CENTRE TO LOWER RIGHT",
   "1FB51=0LOWER LEFT BLOCK DIAGONAL UPPER MIDDLE LEFT TO LOWER MIDDLE RIGHT",
   "1FB52=0UPPER RIGHT BLOCK DIAGONAL LOWER MIDDLE LEFT TO LOWER CENTRE;9RIGHT",
   "1FB54=0UPPER RIGHT BLOCK DIAGONAL UPPER MIDDLE LEFT TO LOWER CENTRE;9RIGHT",
   "1FB56=0UPPER RIGHT BLOCK DIAGONAL UPPER LEFT TO LOWER CENTRE",
   "1FB57=0UPPER LEFT BLOCK DIAGONAL UPPER MIDDLE LEFT TO UPPER CENTRE;9RIGHT",
   "1FB59=0UPPER LEFT BLOCK DIAGONAL LOWER MIDDLE LEFT TO UPPER CENTRE;9RIGHT",
   "1FB5B=0UPPER LEFT BLOCK DIAGONAL LOWER LEFT TO UPPER CENTRE",
   "1FB5C=0UPPER LEFT BLOCK DIAGONAL LOWER MIDDLE LEFT TO UPPER MIDDLE RIGHT",
   "1FB5D=0UPPER LEFT BLOCK DIAGONAL LOWER CENTRE TO LOWER MIDDLE RIGHT",
   "1FB5E=0UPPER LEFT BLOCK DIAGONAL LOWER LEFT TO LOWER MIDDLE RIGHT",
   "1FB5F=0UPPER LEFT BLOCK DIAGONAL LOWER CENTRE TO UPPER MIDDLE RIGHT",
   "1FB60=0UPPER LEFT BLOCK DIAGONAL LOWER LEFT TO UPPER MIDDLE RIGHT;5CENTRE TO UPPER RIGHT",
   "1FB62=0UPPER RIGHT BLOCK DIAGONAL UPPER CENTRE TO UPPER MIDDLE RIGHT",
   "1FB63=0UPPER RIGHT BLOCK DIAGONAL UPPER LEFT TO UPPER MIDDLE RIGHT",
   "1FB64=0UPPER RIGHT BLOCK DIAGONAL UPPER CENTRE TO LOWER MIDDLE RIGHT",
   "1FB65=0UPPER RIGHT BLOCK DIAGONAL UPPER LEFT TO LOWER MIDDLE RIGHT;5CENTRE TO LOWER RIGHT",
   "1FB67=0UPPER RIGHT BLOCK DIAGONAL UPPER MIDDLE LEFT TO LOWER MIDDLE RIGHT",
   "1FB68=0UPPER AND RIGHT AND LOWER TRIANGULAR THREE QUARTERS BLOCK",
   "1FB69=0LEFT AND LOWER AND RIGHT TRIANGULAR THREE QUARTERS BLOCK",
   "1FB6A=0UPPER AND LEFT AND LOWER TRIANGULAR THREE QUARTERS BLOCK",
   "1FB6B=0LEFT AND UPPER AND RIGHT TRIANGULAR THREE QUARTERS BLOCK;1TRIANGULAR ONE QUARTER BLOCK",
   "1FB6D=0UPPER TRIANGULAR ONE QUARTER BLOCK;0RIGHT TRIANGULAR ONE QUARTER BLOCK",
   "1FB6F=0LOWER TRIANGULAR ONE QUARTER BLOCK;0VERTICAL ONE EIGHTH BLOCK-2;3BLOCK-3;3BLOCK-4",
   "1FB73=0VERTICAL ONE EIGHTH BLOCK-5;3BLOCK-6;3BLOCK-7;0HORIZONTAL ONE EIGHTH BLOCK-2;3BLOCK-3",
   "1FB78=0HORIZONTAL ONE EIGHTH BLOCK-4;3BLOCK-5;3BLOCK-6;3BLOCK-7",
   "1FB7C=0LEFT AND LOWER ONE EIGHTH BLOCK;2UPPER ONE EIGHTH BLOCK",
   "1FB7E=0RIGHT AND UPPER ONE EIGHTH BLOCK;2LOWER ONE EIGHTH BLOCK",
   "1FB80=0UPPER AND LOWER ONE EIGHTH BLOCK;0HORIZONTAL ONE EIGHTH BLOCK-1358",
   "1FB82=0UPPER ONE QUARTER BLOCK;1THREE EIGHTHS BLOCK;1FIVE EIGHTHS BLOCK;1THREE QUARTERS BLOCK",
   "1FB86=0UPPER SEVEN EIGHTHS BLOCK;0RIGHT ONE QUARTER BLOCK;1THREE EIGHTHS BLOCK",
   "1FB89=0RIGHT FIVE EIGHTHS BLOCK;1THREE QUARTERS BLOCK;1SEVEN EIGHTHS BLOCK",
   "1FB8C=0LEFT HALF MEDIUM SHADE;0RIGHT HALF MEDIUM SHADE;0UPPER HALF MEDIUM SHADE",
   "1FB8F=0LOWER HALF MEDIUM SHADE;0INVERSE MEDIUM SHADE",
   "1FB91=0UPPER HALF BLOCK AND LOWER HALF INVERSE MEDIUM SHADE",
   "1FB92=0UPPER HALF INVERSE MEDIUM SHADE AND LOWER HALF BLOCK",
   "1FB94=0LEFT HALF INVERSE MEDIUM SHADE AND RIGHT HALF BLOCK;0CHECKER BOARD FILL",
   "1FB96=0INVERSE CHECKER BOARD FILL;0HEAVY HORIZONTAL FILL;0UPPER LEFT TO LOWER RIGHT FILL",
   "1FB99=0UPPER RIGHT TO LOWER LEFT FILL;1AND LOWER TRIANGULAR HALF BLOCK",
   "1FB9B=0LEFT AND RIGHT TRIANGULAR HALF BLOCK;0UPPER LEFT TRIANGULAR MEDIUM SHADE",
   "1FB9D=0UPPER RIGHT TRIANGULAR MEDIUM SHADE;0LOWER RIGHT TRIANGULAR MEDIUM SHADE",
   "1FB9F=0LOWER LEFT TRIANGULAR MEDIUM SHADE",
   "1FBA0=0BOX DRAWINGS LIGHT DIAGONAL UPPER CENTRE TO MIDDLE LEFT;8RIGHT",
   "1FBA2=0BOX DRAWINGS LIGHT DIAGONAL MIDDLE LEFT TO LOWER CENTRE;5RIGHT TO LOWER CENTRE",
   "1FBA4=0BOX DRAWINGS LIGHT DIAGONAL UPPER CENTRE TO MIDDLE LEFT TO LOWER CENTRE",
   "1FBA5=0BOX DRAWINGS LIGHT DIAGONAL UPPER CENTRE TO MIDDLE RIGHT TO LOWER CENTRE",
   "1FBA6=0BOX DRAWINGS LIGHT DIAGONAL MIDDLE LEFT TO LOWER CENTRE TO MIDDLE RIGHT",
   "1FBA7=0BOX DRAWINGS LIGHT DIAGONAL MIDDLE LEFT TO UPPER CENTRE TO MIDDLE RIGHT",
   "1FBA8=0BOX DRAWINGS LIGHT DIAGONAL UPPER CENTRE TO MIDDLE LEFT AND MIDDLE RIGHT TO LOWER CENTRE",
   "1FBA9=0BOX DRAWINGS LIGHT DIAGONAL UPPER CENTRE TO MIDDLE RIGHT AND MIDDLE LEFT TO LOWER CENTRE",
   "1FBAA=0BOX DRAWINGS LIGHT DIAGONAL UPPER CENTRE TO MIDDLE RIGHT TO LOWER CENTRE TO MIDDLE LEFT",
   "1FBAB=0BOX DRAWINGS LIGHT DIAGONAL UPPER CENTRE TO MIDDLE LEFT TO LOWER CENTRE TO MIDDLE RIGHT",
   "1FBAC=0BOX DRAWINGS LIGHT DIAGONAL MIDDLE LEFT TO UPPER CENTRE TO MIDDLE RIGHT TO LOWER CENTRE",
   "1FBAD=0BOX DRAWINGS LIGHT DIAGONAL MIDDLE RIGHT TO UPPER CENTRE TO MIDDLE LEFT TO LOWER CENTRE",
   "1FBAE=0BOX DRAWINGS LIGHT DIAGONAL DIAMOND;3HORIZONTAL WITH VERTICAL STROKE",
   "1FBB0=0ARROWHEAD-SHAPED POINTER;0INVERSE CHECK MARK;0LEFT HALF RUNNING MAN",
   "1FBB3=0RIGHT HALF RUNNING MAN;0INVERSE DOWNWARDS ARROW WITH TIP LEFTWARDS",
   "1FBB5=0LEFTWARDS ARROW AND UPPER AND LOWER ONE EIGHTH BLOCK",
   "1FBB6=0RIGHTWARDS ARROW AND UPPER AND LOWER ONE EIGHTH BLOCK",
   "1FBB7=0DOWNWARDS ARROW AND RIGHT ONE EIGHTH BLOCK;0UPWARDS ARROW AND RIGHT ONE EIGHTH BLOCK",
   "1FBB9=0LEFT HALF FOLDER;0RIGHT HALF FOLDER;0VOIDED GREEK CROSS;0RIGHT OPEN SQUARED DOT",
   "1FBBD=0NEGATIVE DIAGONAL CROSS;2MIDDLE RIGHT TO LOWER CENTRE;2DIAMOND",
   "1FBC0=0WHITE HEAVY SALTIRE WITH ROUNDED CORNERS;0LEFT THIRD WHITE RIGHT POINTING INDEX",
   "1FBC2=0MIDDLE THIRD WHITE RIGHT POINTING INDEX;0RIGHT THIRD WHITE RIGHT POINTING INDEX",
   "1FBC4=0NEGATIVE SQUARED QUESTION MARK;0STICK FIGURE;2WITH ARMS RAISED;2LEANING LEFT;3RIGHT",
   "1FBC9=0STICK FIGURE WITH DRESS;0WHITE UP-POINTING CHEVRON;1FBF0=0SEGMENTED DIGIT ZERO;2ONE",
   "1FBF2=0SEGMENTED DIGIT TWO;2THREE;2FOUR;2FIVE;2SIX;2SEVEN;2EIGHT;2NINE;E0001=0LANGUAGE TAG",
   "E0020=0TAG SPACE;1EXCLAMATION MARK;1QUOTATION MARK;1NUMBER SIGN;1DOLLAR SIGN;1PERCENT SIGN",
   "E0026=0TAG AMPERSAND;1APOSTROPHE;1LEFT PARENTHESIS;1RIGHT PARENTHESIS;1ASTERISK;1PLUS SIGN",
   "E002C=0TAG COMMA;1HYPHEN-MINUS;1FULL STOP;1SOLIDUS;1DIGIT ZERO;2ONE;2TWO;2THREE;2FOUR;2FIVE",
   "E0036=0TAG DIGIT SIX;2SEVEN;2EIGHT;2NINE;1COLON;1SEMICOLON;1LESS-THAN SIGN;1EQUALS SIGN",
   "E003E=0TAG GREATER-THAN SIGN;1QUESTION MARK;1COMMERCIAL AT;1LATIN CAPITAL LETTER A;4B;4C;4D",
   "E0045=0TAG LATIN CAPITAL LETTER E;4F;4G;4H;4I;4J;4K;4L;4M;4N;4O;4P;4Q;4R;4S;4T;4U;4V;4W;4X;4Y",
   "E005A=0TAG LATIN CAPITAL LETTER Z;1LEFT SQUARE BRACKET;1REVERSE SOLIDUS;1RIGHT SQUARE BRACKET",
   "E005E=0TAG CIRCUMFLEX ACCENT;1LOW LINE;1GRAVE ACCENT;1LATIN SMALL LETTER A;4B;4C;4D;4E;4F;4G",
   "E0068=0TAG LATIN SMALL LETTER H;4I;4J;4K;4L;4M;4N;4O;4P;4Q;4R;4S;4T;4U;4V;4W;4X;4Y;4Z",
   "E007B=0TAG LEFT CURLY BRACKET;1VERTICAL LINE;1RIGHT CURLY BRACKET;1TILDE;0CANCEL TAG",
   "E0100=0VARIATION SELECTOR-17;1SELECTOR-18;1SELECTOR-19;1SELECTOR-20;1SELECTOR-21;1SELECTOR-22",
   "E0106=0VARIATION SELECTOR-23;1SELECTOR-24;1SELECTOR-25;1SELECTOR-26;1SELECTOR-27;1SELECTOR-28",
   "E010C=0VARIATION SELECTOR-29;1SELECTOR-30;1SELECTOR-31;1SELECTOR-32;1SELECTOR-33;1SELECTOR-34",
   "E0112=0VARIATION SELECTOR-35;1SELECTOR-36;1SELECTOR-37;1SELECTOR-38;1SELECTOR-39;1SELECTOR-40",
   "E0118=0VARIATION SELECTOR-41;1SELECTOR-42;1SELECTOR-43;1SELECTOR-44;1SELECTOR-45;1SELECTOR-46",
   "E011E=0VARIATION SELECTOR-47;1SELECTOR-48;1SELECTOR-49;1SELECTOR-50;1SELECTOR-51;1SELECTOR-52",
   "E0124=0VARIATION SELECTOR-53;1SELECTOR-54;1SELECTOR-55;1SELECTOR-56;1SELECTOR-57;1SELECTOR-58",
   "E012A=0VARIATION SELECTOR-59;1SELECTOR-60;1SELECTOR-61;1SELECTOR-62;1SELECTOR-63;1SELECTOR-64",
   "E0130=0VARIATION SELECTOR-65;1SELECTOR-66;1SELECTOR-67;1SELECTOR-68;1SELECTOR-69;1SELECTOR-70",
   "E0136=0VARIATION SELECTOR-71;1SELECTOR-72;1SELECTOR-73;1SELECTOR-74;1SELECTOR-75;1SELECTOR-76",
   "E013C=0VARIATION SELECTOR-77;1SELECTOR-78;1SELECTOR-79;1SELECTOR-80;1SELECTOR-81;1SELECTOR-82",
   "E0142=0VARIATION SELECTOR-83;1SELECTOR-84;1SELECTOR-85;1SELECTOR-86;1SELECTOR-87;1SELECTOR-88",
   "E0148=0VARIATION SELECTOR-89;1SELECTOR-90;1SELECTOR-91;1SELECTOR-92;1SELECTOR-93;1SELECTOR-94",
   "E014E=0VARIATION SELECTOR-95;1SELECTOR-96;1SELECTOR-97;1SELECTOR-98;1SELECTOR-99",
   "E0153=0VARIATION SELECTOR-100;1SELECTOR-101;1SELECTOR-102;1SELECTOR-103;1SELECTOR-104",
   "E0158=0VARIATION SELECTOR-105;1SELECTOR-106;1SELECTOR-107;1SELECTOR-108;1SELECTOR-109",
   "E015D=0VARIATION SELECTOR-110;1SELECTOR-111;1SELECTOR-112;1SELECTOR-113;1SELECTOR-114",
   "E0162=0VARIATION SELECTOR-115;1SELECTOR-116;1SELECTOR-117;1SELECTOR-118;1SELECTOR-119",
   "E0167=0VARIATION SELECTOR-120;1SELECTOR-121;1SELECTOR-122;1SELECTOR-123;1SELECTOR-124",
   "E016C=0VARIATION SELECTOR-125;1SELECTOR-126;1SELECTOR-127;1SELECTOR-128;1SELECTOR-129",
   "E0171=0VARIATION SELECTOR-130;1SELECTOR-131;1SELECTOR-132;1SELECTOR-133;1SELECTOR-134",
   "E0176=0VARIATION SELECTOR-135;1SELECTOR-136;1SELECTOR-137;1SELECTOR-138;1SELECTOR-139",
   "E017B=0VARIATION SELECTOR-140;1SELECTOR-141;1SELECTOR-142;1SELECTOR-143;1SELECTOR-144",
   "E0180=0VARIATION SELECTOR-145;1SELECTOR-146;1SELECTOR-147;1SELECTOR-148;1SELECTOR-149",
   "E0185=0VARIATION SELECTOR-150;1SELECTOR-151;1SELECTOR-152;1SELECTOR-153;1SELECTOR-154",
   "E018A=0VARIATION SELECTOR-155;1SELECTOR-156;1SELECTOR-157;1SELECTOR-158;1SELECTOR-159",
   "E018F=0VARIATION SELECTOR-160;1SELECTOR-161;1SELECTOR-162;1SELECTOR-163;1SELECTOR-164",
   "E0194=0VARIATION SELECTOR-165;1SELECTOR-166;1SELECTOR-167;1SELECTOR-168;1SELECTOR-169",
   "E0199=0VARIATION SELECTOR-170;1SELECTOR-171;1SELECTOR-172;1SELECTOR-173;1SELECTOR-174",
   "E019E=0VARIATION SELECTOR-175;1SELECTOR-176;1SELECTOR-177;1SELECTOR-178;1SELECTOR-179",
   "E01A3=0VARIATION SELECTOR-180;1SELECTOR-181;1SELECTOR-182;1SELECTOR-183;1SELECTOR-184",
   "E01A8=0VARIATION SELECTOR-185;1SELECTOR-186;1SELECTOR-187;1SELECTOR-188;1SELECTOR-189",
   "E01AD=0VARIATION SELECTOR-190;1SELECTOR-191;1SELECTOR-192;1SELECTOR-193;1SELECTOR-194",
   "E01B2=0VARIATION SELECTOR-195;1SELECTOR-196;1SELECTOR-197;1SELECTOR-198;1SELECTOR-199",
   "E01B7=0VARIATION SELECTOR-200;1SELECTOR-201;1SELECTOR-202;1SELECTOR-203;1SELECTOR-204",
   "E01BC=0VARIATION SELECTOR-205;1SELECTOR-206;1SELECTOR-207;1SELECTOR-208;1SELECTOR-209",
   "E01C1=0VARIATION SELECTOR-210;1SELECTOR-211;1SELECTOR-212;1SELECTOR-213;1SELECTOR-214",
   "E01C6=0VARIATION SELECTOR-215;1SELECTOR-216;1SELECTOR-217;1SELECTOR-218;1SELECTOR-219",
   "E01CB=0VARIATION SELECTOR-220;1SELECTOR-221;1SELECTOR-222;1SELECTOR-223;1SELECTOR-224",
   "E01D0=0VARIATION SELECTOR-225;1SELECTOR-226;1SELECTOR-227;1SELECTOR-228;1SELECTOR-229",
   "E01D5=0VARIATION SELECTOR-230;1SELECTOR-231;1SELECTOR-232;1SELECTOR-233;1SELECTOR-234",
   "E01DA=0VARIATION SELECTOR-235;1SELECTOR-236;1SELECTOR-237;1SELECTOR-238;1SELECTOR-239",
   "E01DF=0VARIATION SELECTOR-240;1SELECTOR-241;1SELECTOR-242;1SELECTOR-243;1SELECTOR-244",
   "E01E4=0VARIATION SELECTOR-245;1SELECTOR-246;1SELECTOR-247;1SELECTOR-248;1SELECTOR-249",
   "E01E9=0VARIATION SELECTOR-250;1SELECTOR-251;1SELECTOR-252;1SELECTOR-253;1SELECTOR-254",
   "E01EE=0VARIATION SELECTOR-255;1SELECTOR-256"]

end Signpost.Text.CharacterName
