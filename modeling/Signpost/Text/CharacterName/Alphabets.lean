namespace Signpost.Text.CharacterName

-- Rows of names. A code with an equals sign goes before a name that does not follow its
-- predecessor; the digit says how many words are taken over from the name before.
def alphabets : List String :=
  ["20=0SPACE;0EXCLAMATION MARK;0QUOTATION MARK;0NUMBER SIGN;0DOLLAR SIGN;0PERCENT SIGN",
   "26=0AMPERSAND;0APOSTROPHE;0LEFT PARENTHESIS;0RIGHT PARENTHESIS;0ASTERISK;0PLUS SIGN;0COMMA",
   "2D=0HYPHEN-MINUS;0FULL STOP;0SOLIDUS;0DIGIT ZERO;1ONE;1TWO;1THREE;1FOUR;1FIVE;1SIX;1SEVEN",
   "38=0DIGIT EIGHT;1NINE;0COLON;0SEMICOLON;0LESS-THAN SIGN;0EQUALS SIGN;0GREATER-THAN SIGN",
   "3F=0QUESTION MARK;0COMMERCIAL AT;0LATIN CAPITAL LETTER A;3B;3C;3D;3E;3F;3G;3H;3I;3J;3K;3L;3M",
   "4E=0LATIN CAPITAL LETTER N;3O;3P;3Q;3R;3S;3T;3U;3V;3W;3X;3Y;3Z;0LEFT SQUARE BRACKET",
   "5C=0REVERSE SOLIDUS;0RIGHT SQUARE BRACKET;0CIRCUMFLEX ACCENT;0LOW LINE;0GRAVE ACCENT",
   "61=0LATIN SMALL LETTER A;3B;3C;3D;3E;3F;3G;3H;3I;3J;3K;3L;3M;3N;3O;3P;3Q;3R;3S;3T;3U;3V;3W;3X",
   "79=0LATIN SMALL LETTER Y;3Z;0LEFT CURLY BRACKET;0VERTICAL LINE;0RIGHT CURLY BRACKET;0TILDE",
   "A0=0NO-BREAK SPACE;0INVERTED EXCLAMATION MARK;0CENT SIGN;0POUND SIGN;0CURRENCY SIGN;0YEN SIGN",
   "A6=0BROKEN BAR;0SECTION SIGN;0DIAERESIS;0COPYRIGHT SIGN;0FEMININE ORDINAL INDICATOR",
   "AB=0LEFT-POINTING DOUBLE ANGLE QUOTATION MARK;0NOT SIGN;0SOFT HYPHEN;0REGISTERED SIGN;0MACRON",
   "B0=0DEGREE SIGN;0PLUS-MINUS SIGN;0SUPERSCRIPT TWO;1THREE;0ACUTE ACCENT;0MICRO SIGN",
   "B6=0PILCROW SIGN;0MIDDLE DOT;0CEDILLA;0SUPERSCRIPT ONE;0MASCULINE ORDINAL INDICATOR",
   "BB=0RIGHT-POINTING DOUBLE ANGLE QUOTATION MARK;0VULGAR FRACTION ONE QUARTER;3HALF",
   "BE=0VULGAR FRACTION THREE QUARTERS;0INVERTED QUESTION MARK;0LATIN CAPITAL LETTER A WITH GRAVE",
   "C1=0LATIN CAPITAL LETTER A WITH ACUTE;5CIRCUMFLEX;5TILDE;5DIAERESIS;5RING ABOVE;3AE",
   "C7=0LATIN CAPITAL LETTER C WITH CEDILLA;3E WITH GRAVE;5ACUTE;5CIRCUMFLEX;5DIAERESIS",
   "CC=0LATIN CAPITAL LETTER I WITH GRAVE;5ACUTE;5CIRCUMFLEX;5DIAERESIS;3ETH;3N WITH TILDE",
   "D2=0LATIN CAPITAL LETTER O WITH GRAVE;5ACUTE;5CIRCUMFLEX;5TILDE;5DIAERESIS",
   "D7=0MULTIPLICATION SIGN;0LATIN CAPITAL LETTER O WITH STROKE;3U WITH GRAVE;5ACUTE;5CIRCUMFLEX",
   "DC=0LATIN CAPITAL LETTER U WITH DIAERESIS;3Y WITH ACUTE;3THORN;1SMALL LETTER SHARP S",
   "E0=0LATIN SMALL LETTER A WITH GRAVE;5ACUTE;5CIRCUMFLEX;5TILDE;5DIAERESIS;5RING ABOVE;3AE",
   "E7=0LATIN SMALL LETTER C WITH CEDILLA;3E WITH GRAVE;5ACUTE;5CIRCUMFLEX;5DIAERESIS",
   "EC=0LATIN SMALL LETTER I WITH GRAVE;5ACUTE;5CIRCUMFLEX;5DIAERESIS;3ETH;3N WITH TILDE",
   "F2=0LATIN SMALL LETTER O WITH GRAVE;5ACUTE;5CIRCUMFLEX;5TILDE;5DIAERESIS;0DIVISION SIGN",
   "F8=0LATIN SMALL LETTER O WITH STROKE;3U WITH GRAVE;5ACUTE;5CIRCUMFLEX;5DIAERESIS",
   "FD=0LATIN SMALL LETTER Y WITH ACUTE;3THORN;3Y WITH DIAERESIS;1CAPITAL LETTER A WITH MACRON",
   "101=0LATIN SMALL LETTER A WITH MACRON;1CAPITAL LETTER A WITH BREVE;1SMALL LETTER A WITH BREVE",
   "104=0LATIN CAPITAL LETTER A WITH OGONEK;1SMALL LETTER A WITH OGONEK",
   "106=0LATIN CAPITAL LETTER C WITH ACUTE;1SMALL LETTER C WITH ACUTE",
   "108=0LATIN CAPITAL LETTER C WITH CIRCUMFLEX;1SMALL LETTER C WITH CIRCUMFLEX",
   "10A=0LATIN CAPITAL LETTER C WITH DOT ABOVE;1SMALL LETTER C WITH DOT ABOVE",
   "10C=0LATIN CAPITAL LETTER C WITH CARON;1SMALL LETTER C WITH CARON",
   "10E=0LATIN CAPITAL LETTER D WITH CARON;1SMALL LETTER D WITH CARON",
   "110=0LATIN CAPITAL LETTER D WITH STROKE;1SMALL LETTER D WITH STROKE",
   "112=0LATIN CAPITAL LETTER E WITH MACRON;1SMALL LETTER E WITH MACRON",
   "114=0LATIN CAPITAL LETTER E WITH BREVE;1SMALL LETTER E WITH BREVE",
   "116=0LATIN CAPITAL LETTER E WITH DOT ABOVE;1SMALL LETTER E WITH DOT ABOVE",
   "118=0LATIN CAPITAL LETTER E WITH OGONEK;1SMALL LETTER E WITH OGONEK",
   "11A=0LATIN CAPITAL LETTER E WITH CARON;1SMALL LETTER E WITH CARON",
   "11C=0LATIN CAPITAL LETTER G WITH CIRCUMFLEX;1SMALL LETTER G WITH CIRCUMFLEX",
   "11E=0LATIN CAPITAL LETTER G WITH BREVE;1SMALL LETTER G WITH BREVE",
   "120=0LATIN CAPITAL LETTER G WITH DOT ABOVE;1SMALL LETTER G WITH DOT ABOVE",
   "122=0LATIN CAPITAL LETTER G WITH CEDILLA;1SMALL LETTER G WITH CEDILLA",
   "124=0LATIN CAPITAL LETTER H WITH CIRCUMFLEX;1SMALL LETTER H WITH CIRCUMFLEX",
   "126=0LATIN CAPITAL LETTER H WITH STROKE;1SMALL LETTER H WITH STROKE",
   "128=0LATIN CAPITAL LETTER I WITH TILDE;1SMALL LETTER I WITH TILDE",
   "12A=0LATIN CAPITAL LETTER I WITH MACRON;1SMALL LETTER I WITH MACRON",
   "12C=0LATIN CAPITAL LETTER I WITH BREVE;1SMALL LETTER I WITH BREVE",
   "12E=0LATIN CAPITAL LETTER I WITH OGONEK;1SMALL LETTER I WITH OGONEK",
   "130=0LATIN CAPITAL LETTER I WITH DOT ABOVE;1SMALL LETTER DOTLESS I;1CAPITAL LIGATURE IJ",
   "133=0LATIN SMALL LIGATURE IJ;1CAPITAL LETTER J WITH CIRCUMFLEX",
   "135=0LATIN SMALL LETTER J WITH CIRCUMFLEX;1CAPITAL LETTER K WITH CEDILLA",
   "137=0LATIN SMALL LETTER K WITH CEDILLA;3KRA;1CAPITAL LETTER L WITH ACUTE",
   "13A=0LATIN SMALL LETTER L WITH ACUTE;1CAPITAL LETTER L WITH CEDILLA",
   "13C=0LATIN SMALL LETTER L WITH CEDILLA;1CAPITAL LETTER L WITH CARON",
   "13E=0LATIN SMALL LETTER L WITH CARON;1CAPITAL LETTER L WITH MIDDLE DOT",
   "140=0LATIN SMALL LETTER L WITH MIDDLE DOT;1CAPITAL LETTER L WITH STROKE",
   "142=0LATIN SMALL LETTER L WITH STROKE;1CAPITAL LETTER N WITH ACUTE;1SMALL LETTER N WITH ACUTE",
   "145=0LATIN CAPITAL LETTER N WITH CEDILLA;1SMALL LETTER N WITH CEDILLA",
   "147=0LATIN CAPITAL LETTER N WITH CARON;1SMALL LETTER N WITH CARON;4PRECEDED BY APOSTROPHE",
   "14A=0LATIN CAPITAL LETTER ENG;1SMALL LETTER ENG;1CAPITAL LETTER O WITH MACRON",
   "14D=0LATIN SMALL LETTER O WITH MACRON;1CAPITAL LETTER O WITH BREVE;1SMALL LETTER O WITH BREVE",
   "150=0LATIN CAPITAL LETTER O WITH DOUBLE ACUTE;1SMALL LETTER O WITH DOUBLE ACUTE",
   "152=0LATIN CAPITAL LIGATURE OE;1SMALL LIGATURE OE;1CAPITAL LETTER R WITH ACUTE",
   "155=0LATIN SMALL LETTER R WITH ACUTE;1CAPITAL LETTER R WITH CEDILLA",
   "157=0LATIN SMALL LETTER R WITH CEDILLA;1CAPITAL LETTER R WITH CARON",
   "159=0LATIN SMALL LETTER R WITH CARON;1CAPITAL LETTER S WITH ACUTE;1SMALL LETTER S WITH ACUTE",
   "15C=0LATIN CAPITAL LETTER S WITH CIRCUMFLEX;1SMALL LETTER S WITH CIRCUMFLEX",
   "15E=0LATIN CAPITAL LETTER S WITH CEDILLA;1SMALL LETTER S WITH CEDILLA",
   "160=0LATIN CAPITAL LETTER S WITH CARON;1SMALL LETTER S WITH CARON",
   "162=0LATIN CAPITAL LETTER T WITH CEDILLA;1SMALL LETTER T WITH CEDILLA",
   "164=0LATIN CAPITAL LETTER T WITH CARON;1SMALL LETTER T WITH CARON",
   "166=0LATIN CAPITAL LETTER T WITH STROKE;1SMALL LETTER T WITH STROKE",
   "168=0LATIN CAPITAL LETTER U WITH TILDE;1SMALL LETTER U WITH TILDE",
   "16A=0LATIN CAPITAL LETTER U WITH MACRON;1SMALL LETTER U WITH MACRON",
   "16C=0LATIN CAPITAL LETTER U WITH BREVE;1SMALL LETTER U WITH BREVE",
   "16E=0LATIN CAPITAL LETTER U WITH RING ABOVE;1SMALL LETTER U WITH RING ABOVE",
   "170=0LATIN CAPITAL LETTER U WITH DOUBLE ACUTE;1SMALL LETTER U WITH DOUBLE ACUTE",
   "172=0LATIN CAPITAL LETTER U WITH OGONEK;1SMALL LETTER U WITH OGONEK",
   "174=0LATIN CAPITAL LETTER W WITH CIRCUMFLEX;1SMALL LETTER W WITH CIRCUMFLEX",
   "176=0LATIN CAPITAL LETTER Y WITH CIRCUMFLEX;1SMALL LETTER Y WITH CIRCUMFLEX",
   "178=0LATIN CAPITAL LETTER Y WITH DIAERESIS;3Z WITH ACUTE;1SMALL LETTER Z WITH ACUTE",
   "17B=0LATIN CAPITAL LETTER Z WITH DOT ABOVE;1SMALL LETTER Z WITH DOT ABOVE",
   "17D=0LATIN CAPITAL LETTER Z WITH CARON;1SMALL LETTER Z WITH CARON;3LONG S;3B WITH STROKE",
   "181=0LATIN CAPITAL LETTER B WITH HOOK;5TOPBAR;1SMALL LETTER B WITH TOPBAR",
   "184=0LATIN CAPITAL LETTER TONE SIX;1SMALL LETTER TONE SIX;1CAPITAL LETTER OPEN O;3C WITH HOOK",
   "188=0LATIN SMALL LETTER C WITH HOOK;1CAPITAL LETTER AFRICAN D;3D WITH HOOK;5TOPBAR",
   "18C=0LATIN SMALL LETTER D WITH TOPBAR;3TURNED DELTA;1CAPITAL LETTER REVERSED E;3SCHWA;3OPEN E",
   "191=0LATIN CAPITAL LETTER F WITH HOOK;1SMALL LETTER F WITH HOOK;1CAPITAL LETTER G WITH HOOK",
   "194=0LATIN CAPITAL LETTER GAMMA;1SMALL LETTER HV;1CAPITAL LETTER IOTA;3I WITH STROKE",
   "198=0LATIN CAPITAL LETTER K WITH HOOK;1SMALL LETTER K WITH HOOK;3L WITH BAR",
   "19B=0LATIN SMALL LETTER LAMBDA WITH STROKE;1CAPITAL LETTER TURNED M;3N WITH LEFT HOOK",
   "19E=0LATIN SMALL LETTER N WITH LONG RIGHT LEG;1CAPITAL LETTER O WITH MIDDLE TILDE;5HORN",
   "1A1=0LATIN SMALL LETTER O WITH HORN;1CAPITAL LETTER OI;1SMALL LETTER OI",
   "1A4=0LATIN CAPITAL LETTER P WITH HOOK;1SMALL LETTER P WITH HOOK;1LETTER YR",
   "1A7=0LATIN CAPITAL LETTER TONE TWO;1SMALL LETTER TONE TWO;1CAPITAL LETTER ESH",
   "1AA=0LATIN LETTER REVERSED ESH LOOP;1SMALL LETTER T WITH PALATAL HOOK",
   "1AC=0LATIN CAPITAL LETTER T WITH HOOK;1SMALL LETTER T WITH HOOK",
   "1AE=0LATIN CAPITAL LETTER T WITH RETROFLEX HOOK;3U WITH HORN;1SMALL LETTER U WITH HORN",
   "1B1=0LATIN CAPITAL LETTER UPSILON;3V WITH HOOK;3Y WITH HOOK;1SMALL LETTER Y WITH HOOK",
   "1B5=0LATIN CAPITAL LETTER Z WITH STROKE;1SMALL LETTER Z WITH STROKE;1CAPITAL LETTER EZH",
   "1B8=0LATIN CAPITAL LETTER EZH REVERSED;1SMALL LETTER EZH REVERSED;4WITH TAIL",
   "1BB=0LATIN LETTER TWO WITH STROKE;1CAPITAL LETTER TONE FIVE;1SMALL LETTER TONE FIVE",
   "1BE=0LATIN LETTER INVERTED GLOTTAL STOP WITH STROKE;2WYNN;2DENTAL CLICK;2LATERAL CLICK",
   "1C2=0LATIN LETTER ALVEOLAR CLICK;2RETROFLEX CLICK;1CAPITAL LETTER DZ WITH CARON",
   "1C5=0LATIN CAPITAL LETTER D WITH SMALL LETTER Z WITH CARON;1SMALL LETTER DZ WITH CARON",
   "1C7=0LATIN CAPITAL LETTER LJ;3L WITH SMALL LETTER J;1SMALL LETTER LJ;1CAPITAL LETTER NJ",
   "1CB=0LATIN CAPITAL LETTER N WITH SMALL LETTER J;1SMALL LETTER NJ;1CAPITAL LETTER A WITH CARON",
   "1CE=0LATIN SMALL LETTER A WITH CARON;1CAPITAL LETTER I WITH CARON;1SMALL LETTER I WITH CARON",
   "1D1=0LATIN CAPITAL LETTER O WITH CARON;1SMALL LETTER O WITH CARON",
   "1D3=0LATIN CAPITAL LETTER U WITH CARON;1SMALL LETTER U WITH CARON",
   "1D5=0LATIN CAPITAL LETTER U WITH DIAERESIS AND MACRON",
   "1D6=0LATIN SMALL LETTER U WITH DIAERESIS AND MACRON",
   "1D7=0LATIN CAPITAL LETTER U WITH DIAERESIS AND ACUTE;1SMALL LETTER U WITH DIAERESIS AND ACUTE",
   "1D9=0LATIN CAPITAL LETTER U WITH DIAERESIS AND CARON;1SMALL LETTER U WITH DIAERESIS AND CARON",
   "1DB=0LATIN CAPITAL LETTER U WITH DIAERESIS AND GRAVE;1SMALL LETTER U WITH DIAERESIS AND GRAVE",
   "1DD=0LATIN SMALL LETTER TURNED E;1CAPITAL LETTER A WITH DIAERESIS AND MACRON",
   "1DF=0LATIN SMALL LETTER A WITH DIAERESIS AND MACRON",
   "1E0=0LATIN CAPITAL LETTER A WITH DOT ABOVE AND MACRON",
   "1E1=0LATIN SMALL LETTER A WITH DOT ABOVE AND MACRON;1CAPITAL LETTER AE WITH MACRON",
   "1E3=0LATIN SMALL LETTER AE WITH MACRON;1CAPITAL LETTER G WITH STROKE",
   "1E5=0LATIN SMALL LETTER G WITH STROKE;1CAPITAL LETTER G WITH CARON;1SMALL LETTER G WITH CARON",
   "1E8=0LATIN CAPITAL LETTER K WITH CARON;1SMALL LETTER K WITH CARON",
   "1EA=0LATIN CAPITAL LETTER O WITH OGONEK;1SMALL LETTER O WITH OGONEK",
   "1EC=0LATIN CAPITAL LETTER O WITH OGONEK AND MACRON;1SMALL LETTER O WITH OGONEK AND MACRON",
   "1EE=0LATIN CAPITAL LETTER EZH WITH CARON;1SMALL LETTER EZH WITH CARON;3J WITH CARON",
   "1F1=0LATIN CAPITAL LETTER DZ;3D WITH SMALL LETTER Z;1SMALL LETTER DZ",
   "1F4=0LATIN CAPITAL LETTER G WITH ACUTE;1SMALL LETTER G WITH ACUTE;1CAPITAL LETTER HWAIR;3WYNN",
   "1F8=0LATIN CAPITAL LETTER N WITH GRAVE;1SMALL LETTER N WITH GRAVE",
   "1FA=0LATIN CAPITAL LETTER A WITH RING ABOVE AND ACUTE",
   "1FB=0LATIN SMALL LETTER A WITH RING ABOVE AND ACUTE;1CAPITAL LETTER AE WITH ACUTE",
   "1FD=0LATIN SMALL LETTER AE WITH ACUTE;1CAPITAL LETTER O WITH STROKE AND ACUTE",
   "1FF=0LATIN SMALL LETTER O WITH STROKE AND ACUTE;1CAPITAL LETTER A WITH DOUBLE GRAVE",
   "201=0LATIN SMALL LETTER A WITH DOUBLE GRAVE;1CAPITAL LETTER A WITH INVERTED BREVE",
   "203=0LATIN SMALL LETTER A WITH INVERTED BREVE;1CAPITAL LETTER E WITH DOUBLE GRAVE",
   "205=0LATIN SMALL LETTER E WITH DOUBLE GRAVE;1CAPITAL LETTER E WITH INVERTED BREVE",
   "207=0LATIN SMALL LETTER E WITH INVERTED BREVE;1CAPITAL LETTER I WITH DOUBLE GRAVE",
   "209=0LATIN SMALL LETTER I WITH DOUBLE GRAVE;1CAPITAL LETTER I WITH INVERTED BREVE",
   "20B=0LATIN SMALL LETTER I WITH INVERTED BREVE;1CAPITAL LETTER O WITH DOUBLE GRAVE",
   "20D=0LATIN SMALL LETTER O WITH DOUBLE GRAVE;1CAPITAL LETTER O WITH INVERTED BREVE",
   "20F=0LATIN SMALL LETTER O WITH INVERTED BREVE;1CAPITAL LETTER R WITH DOUBLE GRAVE",
   "211=0LATIN SMALL LETTER R WITH DOUBLE GRAVE;1CAPITAL LETTER R WITH INVERTED BREVE",
   "213=0LATIN SMALL LETTER R WITH INVERTED BREVE;1CAPITAL LETTER U WITH DOUBLE GRAVE",
   "215=0LATIN SMALL LETTER U WITH DOUBLE GRAVE;1CAPITAL LETTER U WITH INVERTED BREVE",
   "217=0LATIN SMALL LETTER U WITH INVERTED BREVE;1CAPITAL LETTER S WITH COMMA BELOW",
   "219=0LATIN SMALL LETTER S WITH COMMA BELOW;1CAPITAL LETTER T WITH COMMA BELOW",
   "21B=0LATIN SMALL LETTER T WITH COMMA BELOW;1CAPITAL LETTER YOGH;1SMALL LETTER YOGH",
   "21E=0LATIN CAPITAL LETTER H WITH CARON;1SMALL LETTER H WITH CARON",
   "220=0LATIN CAPITAL LETTER N WITH LONG RIGHT LEG;1SMALL LETTER D WITH CURL;1CAPITAL LETTER OU",
   "223=0LATIN SMALL LETTER OU;1CAPITAL LETTER Z WITH HOOK;1SMALL LETTER Z WITH HOOK",
   "226=0LATIN CAPITAL LETTER A WITH DOT ABOVE;1SMALL LETTER A WITH DOT ABOVE",
   "228=0LATIN CAPITAL LETTER E WITH CEDILLA;1SMALL LETTER E WITH CEDILLA",
   "22A=0LATIN CAPITAL LETTER O WITH DIAERESIS AND MACRON",
   "22B=0LATIN SMALL LETTER O WITH DIAERESIS AND MACRON;1CAPITAL LETTER O WITH TILDE AND MACRON",
   "22D=0LATIN SMALL LETTER O WITH TILDE AND MACRON;1CAPITAL LETTER O WITH DOT ABOVE",
   "22F=0LATIN SMALL LETTER O WITH DOT ABOVE;1CAPITAL LETTER O WITH DOT ABOVE AND MACRON",
   "231=0LATIN SMALL LETTER O WITH DOT ABOVE AND MACRON;1CAPITAL LETTER Y WITH MACRON",
   "233=0LATIN SMALL LETTER Y WITH MACRON;3L WITH CURL;3N WITH CURL;3T WITH CURL;3DOTLESS J",
   "238=0LATIN SMALL LETTER DB DIGRAPH;3QP DIGRAPH;1CAPITAL LETTER A WITH STROKE;3C WITH STROKE",
   "23C=0LATIN SMALL LETTER C WITH STROKE;1CAPITAL LETTER L WITH BAR;3T WITH DIAGONAL STROKE",
   "23F=0LATIN SMALL LETTER S WITH SWASH TAIL;3Z WITH SWASH TAIL;1CAPITAL LETTER GLOTTAL STOP",
   "242=0LATIN SMALL LETTER GLOTTAL STOP;1CAPITAL LETTER B WITH STROKE;3U BAR;3TURNED V",
   "246=0LATIN CAPITAL LETTER E WITH STROKE;1SMALL LETTER E WITH STROKE",
   "248=0LATIN CAPITAL LETTER J WITH STROKE;1SMALL LETTER J WITH STROKE",
   "24A=0LATIN CAPITAL LETTER SMALL Q WITH HOOK TAIL;1SMALL LETTER Q WITH HOOK TAIL",
   "24C=0LATIN CAPITAL LETTER R WITH STROKE;1SMALL LETTER R WITH STROKE",
   "24E=0LATIN CAPITAL LETTER Y WITH STROKE;1SMALL LETTER Y WITH STROKE;3TURNED A;3ALPHA",
   "252=0LATIN SMALL LETTER TURNED ALPHA;3B WITH HOOK;3OPEN O;3C WITH CURL;3D WITH TAIL;5HOOK",
   "258=0LATIN SMALL LETTER REVERSED E;3SCHWA;4WITH HOOK;3OPEN E;3REVERSED OPEN E;6WITH HOOK",
   "25E=0LATIN SMALL LETTER CLOSED REVERSED OPEN E;3DOTLESS J WITH STROKE;3G WITH HOOK;3SCRIPT G",
   "262=0LATIN LETTER SMALL CAPITAL G;1SMALL LETTER GAMMA;3RAMS HORN;3TURNED H;3H WITH HOOK",
   "267=0LATIN SMALL LETTER HENG WITH HOOK;3I WITH STROKE;3IOTA;1LETTER SMALL CAPITAL I",
   "26B=0LATIN SMALL LETTER L WITH MIDDLE TILDE;5BELT;5RETROFLEX HOOK;3LEZH;3TURNED M",
   "270=0LATIN SMALL LETTER TURNED M WITH LONG LEG;3M WITH HOOK;3N WITH LEFT HOOK;5RETROFLEX HOOK",
   "274=0LATIN LETTER SMALL CAPITAL N;1SMALL LETTER BARRED O;1LETTER SMALL CAPITAL OE",
   "277=0LATIN SMALL LETTER CLOSED OMEGA;3PHI;3TURNED R;5WITH LONG LEG;6HOOK;3R WITH LONG LEG",
   "27D=0LATIN SMALL LETTER R WITH TAIL;5FISHHOOK;3REVERSED R WITH FISHHOOK",
   "280=0LATIN LETTER SMALL CAPITAL R;4INVERTED R;1SMALL LETTER S WITH HOOK;3ESH",
   "284=0LATIN SMALL LETTER DOTLESS J WITH STROKE AND HOOK;3SQUAT REVERSED ESH;3ESH WITH CURL",
   "287=0LATIN SMALL LETTER TURNED T;3T WITH RETROFLEX HOOK;3U BAR;3UPSILON;3V WITH HOOK",
   "28C=0LATIN SMALL LETTER TURNED V;4W;4Y;1LETTER SMALL CAPITAL Y",
   "290=0LATIN SMALL LETTER Z WITH RETROFLEX HOOK;5CURL;3EZH;4WITH CURL;1LETTER GLOTTAL STOP",
   "295=0LATIN LETTER PHARYNGEAL VOICED FRICATIVE;2INVERTED GLOTTAL STOP;2STRETCHED C",
   "298=0LATIN LETTER BILABIAL CLICK;2SMALL CAPITAL B;1SMALL LETTER CLOSED OPEN E",
   "29B=0LATIN LETTER SMALL CAPITAL G WITH HOOK;4H;1SMALL LETTER J WITH CROSSED-TAIL;3TURNED K",
   "29F=0LATIN LETTER SMALL CAPITAL L;1SMALL LETTER Q WITH HOOK;1LETTER GLOTTAL STOP WITH STROKE",
   "2A2=0LATIN LETTER REVERSED GLOTTAL STOP WITH STROKE;1SMALL LETTER DZ DIGRAPH;3DEZH DIGRAPH",
   "2A5=0LATIN SMALL LETTER DZ DIGRAPH WITH CURL;3TS DIGRAPH;3TESH DIGRAPH;3TC DIGRAPH WITH CURL",
   "2A9=0LATIN SMALL LETTER FENG DIGRAPH;3LS DIGRAPH;3LZ DIGRAPH;1LETTER BILABIAL PERCUSSIVE",
   "2AD=0LATIN LETTER BIDENTAL PERCUSSIVE;1SMALL LETTER TURNED H WITH FISHHOOK;7AND TAIL",
   "2B0=0MODIFIER LETTER SMALL H;4WITH HOOK;3J;3R;3TURNED R;5WITH HOOK;3CAPITAL INVERTED R;3W;3Y",
   "2B9=0MODIFIER LETTER PRIME;2DOUBLE PRIME;2TURNED COMMA;2APOSTROPHE;2REVERSED COMMA",
   "2BE=0MODIFIER LETTER RIGHT HALF RING;2LEFT HALF RING;2GLOTTAL STOP;2REVERSED GLOTTAL STOP",
   "2C2=0MODIFIER LETTER LEFT ARROWHEAD;2RIGHT ARROWHEAD;2UP ARROWHEAD;2DOWN ARROWHEAD",
   "2C6=0MODIFIER LETTER CIRCUMFLEX ACCENT;0CARON;0MODIFIER LETTER VERTICAL LINE;2MACRON",
   "2CA=0MODIFIER LETTER ACUTE ACCENT;2GRAVE ACCENT;2LOW VERTICAL LINE;3MACRON;3GRAVE ACCENT",
   "2CF=0MODIFIER LETTER LOW ACUTE ACCENT;2TRIANGULAR COLON;2HALF TRIANGULAR COLON",
   "2D2=0MODIFIER LETTER CENTRED RIGHT HALF RING;3LEFT HALF RING;2UP TACK;2DOWN TACK;2PLUS SIGN",
   "2D7=0MODIFIER LETTER MINUS SIGN;0BREVE;0DOT ABOVE;0RING ABOVE;0OGONEK;0SMALL TILDE",
   "2DD=0DOUBLE ACUTE ACCENT;0MODIFIER LETTER RHOTIC HOOK;2CROSS ACCENT;2SMALL GAMMA;3L;3S;3X",
   "2E4=0MODIFIER LETTER SMALL REVERSED GLOTTAL STOP;2EXTRA-HIGH TONE BAR;2HIGH TONE BAR",
   "2E7=0MODIFIER LETTER MID TONE BAR;2LOW TONE BAR;2EXTRA-LOW TONE BAR;2YIN DEPARTING TONE MARK",
   "2EB=0MODIFIER LETTER YANG DEPARTING TONE MARK;2VOICING;2UNASPIRATED;2DOUBLE APOSTROPHE",
   "2EF=0MODIFIER LETTER LOW DOWN ARROWHEAD;3UP ARROWHEAD;3LEFT ARROWHEAD;3RIGHT ARROWHEAD;3RING",
   "2F4=0MODIFIER LETTER MIDDLE GRAVE ACCENT;3DOUBLE GRAVE ACCENT;4ACUTE ACCENT;2LOW TILDE",
   "2F8=0MODIFIER LETTER RAISED COLON;2BEGIN HIGH TONE;2END HIGH TONE;2BEGIN LOW TONE",
   "2FC=0MODIFIER LETTER END LOW TONE;2SHELF;2OPEN SHELF;2LOW LEFT ARROW;0COMBINING GRAVE ACCENT",
   "301=0COMBINING ACUTE ACCENT;1CIRCUMFLEX ACCENT;1TILDE;1MACRON;1OVERLINE;1BREVE;1DOT ABOVE",
   "308=0COMBINING DIAERESIS;1HOOK ABOVE;1RING ABOVE;1DOUBLE ACUTE ACCENT;1CARON",
   "30D=0COMBINING VERTICAL LINE ABOVE;1DOUBLE VERTICAL LINE ABOVE;2GRAVE ACCENT;1CANDRABINDU",
   "311=0COMBINING INVERTED BREVE;1TURNED COMMA ABOVE;1COMMA ABOVE;1REVERSED COMMA ABOVE",
   "315=0COMBINING COMMA ABOVE RIGHT;1GRAVE ACCENT BELOW;1ACUTE ACCENT BELOW;1LEFT TACK BELOW",
   "319=0COMBINING RIGHT TACK BELOW;1LEFT ANGLE ABOVE;1HORN;1LEFT HALF RING BELOW;1UP TACK BELOW",
   "31E=0COMBINING DOWN TACK BELOW;1PLUS SIGN BELOW;1MINUS SIGN BELOW;1PALATALIZED HOOK BELOW",
   "322=0COMBINING RETROFLEX HOOK BELOW;1DOT BELOW;1DIAERESIS BELOW;1RING BELOW;1COMMA BELOW",
   "327=0COMBINING CEDILLA;1OGONEK;1VERTICAL LINE BELOW;1BRIDGE BELOW;1INVERTED DOUBLE ARCH BELOW",
   "32C=0COMBINING CARON BELOW;1CIRCUMFLEX ACCENT BELOW;1BREVE BELOW;1INVERTED BREVE BELOW",
   "330=0COMBINING TILDE BELOW;1MACRON BELOW;1LOW LINE;1DOUBLE LOW LINE;1TILDE OVERLAY",
   "335=0COMBINING SHORT STROKE OVERLAY;1LONG STROKE OVERLAY;1SHORT SOLIDUS OVERLAY",
   "338=0COMBINING LONG SOLIDUS OVERLAY;1RIGHT HALF RING BELOW;1INVERTED BRIDGE BELOW",
   "33B=0COMBINING SQUARE BELOW;1SEAGULL BELOW;1X ABOVE;1VERTICAL TILDE;1DOUBLE OVERLINE",
   "340=0COMBINING GRAVE TONE MARK;1ACUTE TONE MARK;1GREEK PERISPOMENI;2KORONIS;2DIALYTIKA TONOS",
   "345=0COMBINING GREEK YPOGEGRAMMENI;1BRIDGE ABOVE;1EQUALS SIGN BELOW",
   "348=0COMBINING DOUBLE VERTICAL LINE BELOW;1LEFT ANGLE BELOW;1NOT TILDE ABOVE",
   "34B=0COMBINING HOMOTHETIC ABOVE;1ALMOST EQUAL TO ABOVE;1LEFT RIGHT ARROW BELOW",
   "34E=0COMBINING UPWARDS ARROW BELOW;1GRAPHEME JOINER;1RIGHT ARROWHEAD ABOVE",
   "351=0COMBINING LEFT HALF RING ABOVE;1FERMATA;1X BELOW;1LEFT ARROWHEAD BELOW",
   "355=0COMBINING RIGHT ARROWHEAD BELOW;3AND UP ARROWHEAD BELOW;2HALF RING ABOVE",
   "358=0COMBINING DOT ABOVE RIGHT;1ASTERISK BELOW;1DOUBLE RING BELOW;1ZIGZAG ABOVE",
   "35C=0COMBINING DOUBLE BREVE BELOW;3;2MACRON;3BELOW;2TILDE;2INVERTED BREVE",
   "362=0COMBINING DOUBLE RIGHTWARDS ARROW BELOW;1LATIN SMALL LETTER A;4E;4I;4O;4U;4C;4D;4H;4M;4R",
   "36D=0COMBINING LATIN SMALL LETTER T;4V;4X;0GREEK CAPITAL LETTER HETA;1SMALL LETTER HETA",
   "372=0GREEK CAPITAL LETTER ARCHAIC SAMPI;1SMALL LETTER ARCHAIC SAMPI;1NUMERAL SIGN",
   "375=0GREEK LOWER NUMERAL SIGN;1CAPITAL LETTER PAMPHYLIAN DIGAMMA",
   "377=0GREEK SMALL LETTER PAMPHYLIAN DIGAMMA;37A=1YPOGEGRAMMENI",
   "37B=0GREEK SMALL REVERSED LUNATE SIGMA SYMBOL;2DOTTED LUNATE SIGMA SYMBOL",
   "37D=0GREEK SMALL REVERSED DOTTED LUNATE SIGMA SYMBOL;1QUESTION MARK;1CAPITAL LETTER YOT",
   "384=0GREEK TONOS;1DIALYTIKA TONOS;1CAPITAL LETTER ALPHA WITH TONOS;1ANO TELEIA",
   "388=0GREEK CAPITAL LETTER EPSILON WITH TONOS;3ETA WITH TONOS;3IOTA WITH TONOS",
   "38C=0GREEK CAPITAL LETTER OMICRON WITH TONOS;38E=3UPSILON WITH TONOS;3OMEGA WITH TONOS",
   "390=0GREEK SMALL LETTER IOTA WITH DIALYTIKA AND TONOS;1CAPITAL LETTER ALPHA;3BETA;3GAMMA",
   "394=0GREEK CAPITAL LETTER DELTA;3EPSILON;3ZETA;3ETA;3THETA;3IOTA;3KAPPA;3LAMDA;3MU;3NU;3XI",
   "39F=0GREEK CAPITAL LETTER OMICRON;3PI;3RHO;3A3=3SIGMA;3TAU;3UPSILON;3PHI;3CHI;3PSI;3OMEGA",
   "3AA=0GREEK CAPITAL LETTER IOTA WITH DIALYTIKA;3UPSILON WITH DIALYTIKA",
   "3AC=0GREEK SMALL LETTER ALPHA WITH TONOS;3EPSILON WITH TONOS;3ETA WITH TONOS;3IOTA WITH TONOS",
   "3B0=0GREEK SMALL LETTER UPSILON WITH DIALYTIKA AND TONOS;3ALPHA;3BETA;3GAMMA;3DELTA;3EPSILON",
   "3B6=0GREEK SMALL LETTER ZETA;3ETA;3THETA;3IOTA;3KAPPA;3LAMDA;3MU;3NU;3XI;3OMICRON;3PI;3RHO",
   "3C2=0GREEK SMALL LETTER FINAL SIGMA;3SIGMA;3TAU;3UPSILON;3PHI;3CHI;3PSI;3OMEGA",
   "3CA=0GREEK SMALL LETTER IOTA WITH DIALYTIKA;3UPSILON WITH DIALYTIKA;3OMICRON WITH TONOS",
   "3CD=0GREEK SMALL LETTER UPSILON WITH TONOS;3OMEGA WITH TONOS;1CAPITAL KAI SYMBOL;1BETA SYMBOL",
   "3D1=0GREEK THETA SYMBOL;1UPSILON WITH HOOK SYMBOL;3ACUTE AND HOOK SYMBOL",
   "3D4=0GREEK UPSILON WITH DIAERESIS AND HOOK SYMBOL;1PHI SYMBOL;1PI SYMBOL;1KAI SYMBOL",
   "3D8=0GREEK LETTER ARCHAIC KOPPA;1SMALL LETTER ARCHAIC KOPPA;1LETTER STIGMA",
   "3DB=0GREEK SMALL LETTER STIGMA;1LETTER DIGAMMA;1SMALL LETTER DIGAMMA;1LETTER KOPPA",
   "3DF=0GREEK SMALL LETTER KOPPA;1LETTER SAMPI;1SMALL LETTER SAMPI;0COPTIC CAPITAL LETTER SHEI",
   "3E3=0COPTIC SMALL LETTER SHEI;1CAPITAL LETTER FEI;1SMALL LETTER FEI;1CAPITAL LETTER KHEI",
   "3E7=0COPTIC SMALL LETTER KHEI;1CAPITAL LETTER HORI;1SMALL LETTER HORI;1CAPITAL LETTER GANGIA",
   "3EB=0COPTIC SMALL LETTER GANGIA;1CAPITAL LETTER SHIMA;1SMALL LETTER SHIMA;1CAPITAL LETTER DEI",
   "3EF=0COPTIC SMALL LETTER DEI;0GREEK KAPPA SYMBOL;1RHO SYMBOL;1LUNATE SIGMA SYMBOL;1LETTER YOT",
   "3F4=0GREEK CAPITAL THETA SYMBOL;1LUNATE EPSILON SYMBOL;1REVERSED LUNATE EPSILON SYMBOL",
   "3F7=0GREEK CAPITAL LETTER SHO;1SMALL LETTER SHO;1CAPITAL LUNATE SIGMA SYMBOL;2LETTER SAN",
   "3FB=0GREEK SMALL LETTER SAN;1RHO WITH STROKE SYMBOL;1CAPITAL REVERSED LUNATE SIGMA SYMBOL",
   "3FE=0GREEK CAPITAL DOTTED LUNATE SIGMA SYMBOL;2REVERSED DOTTED LUNATE SIGMA SYMBOL",
   "400=0CYRILLIC CAPITAL LETTER IE WITH GRAVE;3IO;3DJE;3GJE;3UKRAINIAN IE;3DZE",
   "406=0CYRILLIC CAPITAL LETTER BYELORUSSIAN-UKRAINIAN I;3YI;3JE;3LJE;3NJE;3TSHE;3KJE",
   "40D=0CYRILLIC CAPITAL LETTER I WITH GRAVE;3SHORT U;3DZHE;3A;3BE;3VE;3GHE;3DE;3IE;3ZHE;3ZE;3I",
   "419=0CYRILLIC CAPITAL LETTER SHORT I;3KA;3EL;3EM;3EN;3O;3PE;3ER;3ES;3TE;3U;3EF;3HA;3TSE;3CHE",
   "428=0CYRILLIC CAPITAL LETTER SHA;3SHCHA;3HARD SIGN;3YERU;3SOFT SIGN;3E;3YU;3YA",
   "430=0CYRILLIC SMALL LETTER A;3BE;3VE;3GHE;3DE;3IE;3ZHE;3ZE;3I;3SHORT I;3KA;3EL;3EM;3EN;3O;3PE",
   "440=0CYRILLIC SMALL LETTER ER;3ES;3TE;3U;3EF;3HA;3TSE;3CHE;3SHA;3SHCHA;3HARD SIGN;3YERU",
   "44C=0CYRILLIC SMALL LETTER SOFT SIGN;3E;3YU;3YA;3IE WITH GRAVE;3IO;3DJE;3GJE;3UKRAINIAN IE",
   "455=0CYRILLIC SMALL LETTER DZE;3BYELORUSSIAN-UKRAINIAN I;3YI;3JE;3LJE;3NJE;3TSHE;3KJE",
   "45D=0CYRILLIC SMALL LETTER I WITH GRAVE;3SHORT U;3DZHE;1CAPITAL LETTER OMEGA",
   "461=0CYRILLIC SMALL LETTER OMEGA;1CAPITAL LETTER YAT;1SMALL LETTER YAT",
   "464=0CYRILLIC CAPITAL LETTER IOTIFIED E;1SMALL LETTER IOTIFIED E;1CAPITAL LETTER LITTLE YUS",
   "467=0CYRILLIC SMALL LETTER LITTLE YUS;1CAPITAL LETTER IOTIFIED LITTLE YUS",
   "469=0CYRILLIC SMALL LETTER IOTIFIED LITTLE YUS;1CAPITAL LETTER BIG YUS;1SMALL LETTER BIG YUS",
   "46C=0CYRILLIC CAPITAL LETTER IOTIFIED BIG YUS;1SMALL LETTER IOTIFIED BIG YUS",
   "46E=0CYRILLIC CAPITAL LETTER KSI;1SMALL LETTER KSI;1CAPITAL LETTER PSI;1SMALL LETTER PSI",
   "472=0CYRILLIC CAPITAL LETTER FITA;1SMALL LETTER FITA;1CAPITAL LETTER IZHITSA",
   "475=0CYRILLIC SMALL LETTER IZHITSA;1CAPITAL LETTER IZHITSA WITH DOUBLE GRAVE ACCENT",
   "477=0CYRILLIC SMALL LETTER IZHITSA WITH DOUBLE GRAVE ACCENT;1CAPITAL LETTER UK",
   "479=0CYRILLIC SMALL LETTER UK;1CAPITAL LETTER ROUND OMEGA;1SMALL LETTER ROUND OMEGA",
   "47C=0CYRILLIC CAPITAL LETTER OMEGA WITH TITLO;1SMALL LETTER OMEGA WITH TITLO",
   "47E=0CYRILLIC CAPITAL LETTER OT;1SMALL LETTER OT;1CAPITAL LETTER KOPPA;1SMALL LETTER KOPPA",
   "482=0CYRILLIC THOUSANDS SIGN;0COMBINING CYRILLIC TITLO;2PALATALIZATION;2DASIA PNEUMATA",
   "486=0COMBINING CYRILLIC PSILI PNEUMATA;2POKRYTIE;2HUNDRED THOUSANDS SIGN;2MILLIONS SIGN",
   "48A=0CYRILLIC CAPITAL LETTER SHORT I WITH TAIL;1SMALL LETTER SHORT I WITH TAIL",
   "48C=0CYRILLIC CAPITAL LETTER SEMISOFT SIGN;1SMALL LETTER SEMISOFT SIGN",
   "48E=0CYRILLIC CAPITAL LETTER ER WITH TICK;1SMALL LETTER ER WITH TICK",
   "490=0CYRILLIC CAPITAL LETTER GHE WITH UPTURN;1SMALL LETTER GHE WITH UPTURN",
   "492=0CYRILLIC CAPITAL LETTER GHE WITH STROKE;1SMALL LETTER GHE WITH STROKE",
   "494=0CYRILLIC CAPITAL LETTER GHE WITH MIDDLE HOOK;1SMALL LETTER GHE WITH MIDDLE HOOK",
   "496=0CYRILLIC CAPITAL LETTER ZHE WITH DESCENDER;1SMALL LETTER ZHE WITH DESCENDER",
   "498=0CYRILLIC CAPITAL LETTER ZE WITH DESCENDER;1SMALL LETTER ZE WITH DESCENDER",
   "49A=0CYRILLIC CAPITAL LETTER KA WITH DESCENDER;1SMALL LETTER KA WITH DESCENDER",
   "49C=0CYRILLIC CAPITAL LETTER KA WITH VERTICAL STROKE;1SMALL LETTER KA WITH VERTICAL STROKE",
   "49E=0CYRILLIC CAPITAL LETTER KA WITH STROKE;1SMALL LETTER KA WITH STROKE",
   "4A0=0CYRILLIC CAPITAL LETTER BASHKIR KA;1SMALL LETTER BASHKIR KA",
   "4A2=0CYRILLIC CAPITAL LETTER EN WITH DESCENDER;1SMALL LETTER EN WITH DESCENDER",
   "4A4=0CYRILLIC CAPITAL LIGATURE EN GHE;1SMALL LIGATURE EN GHE",
   "4A6=0CYRILLIC CAPITAL LETTER PE WITH MIDDLE HOOK;1SMALL LETTER PE WITH MIDDLE HOOK",
   "4A8=0CYRILLIC CAPITAL LETTER ABKHASIAN HA;1SMALL LETTER ABKHASIAN HA",
   "4AA=0CYRILLIC CAPITAL LETTER ES WITH DESCENDER;1SMALL LETTER ES WITH DESCENDER",
   "4AC=0CYRILLIC CAPITAL LETTER TE WITH DESCENDER;1SMALL LETTER TE WITH DESCENDER",
   "4AE=0CYRILLIC CAPITAL LETTER STRAIGHT U;1SMALL LETTER STRAIGHT U",
   "4B0=0CYRILLIC CAPITAL LETTER STRAIGHT U WITH STROKE;1SMALL LETTER STRAIGHT U WITH STROKE",
   "4B2=0CYRILLIC CAPITAL LETTER HA WITH DESCENDER;1SMALL LETTER HA WITH DESCENDER",
   "4B4=0CYRILLIC CAPITAL LIGATURE TE TSE;1SMALL LIGATURE TE TSE",
   "4B6=0CYRILLIC CAPITAL LETTER CHE WITH DESCENDER;1SMALL LETTER CHE WITH DESCENDER",
   "4B8=0CYRILLIC CAPITAL LETTER CHE WITH VERTICAL STROKE;1SMALL LETTER CHE WITH VERTICAL STROKE",
   "4BA=0CYRILLIC CAPITAL LETTER SHHA;1SMALL LETTER SHHA;1CAPITAL LETTER ABKHASIAN CHE",
   "4BD=0CYRILLIC SMALL LETTER ABKHASIAN CHE;1CAPITAL LETTER ABKHASIAN CHE WITH DESCENDER",
   "4BF=0CYRILLIC SMALL LETTER ABKHASIAN CHE WITH DESCENDER;1LETTER PALOCHKA",
   "4C1=0CYRILLIC CAPITAL LETTER ZHE WITH BREVE;1SMALL LETTER ZHE WITH BREVE",
   "4C3=0CYRILLIC CAPITAL LETTER KA WITH HOOK;1SMALL LETTER KA WITH HOOK",
   "4C5=0CYRILLIC CAPITAL LETTER EL WITH TAIL;1SMALL LETTER EL WITH TAIL",
   "4C7=0CYRILLIC CAPITAL LETTER EN WITH HOOK;1SMALL LETTER EN WITH HOOK",
   "4C9=0CYRILLIC CAPITAL LETTER EN WITH TAIL;1SMALL LETTER EN WITH TAIL",
   "4CB=0CYRILLIC CAPITAL LETTER KHAKASSIAN CHE;1SMALL LETTER KHAKASSIAN CHE",
   "4CD=0CYRILLIC CAPITAL LETTER EM WITH TAIL;1SMALL LETTER EM WITH TAIL;3PALOCHKA",
   "4D0=0CYRILLIC CAPITAL LETTER A WITH BREVE;1SMALL LETTER A WITH BREVE",
   "4D2=0CYRILLIC CAPITAL LETTER A WITH DIAERESIS;1SMALL LETTER A WITH DIAERESIS",
   "4D4=0CYRILLIC CAPITAL LIGATURE A IE;1SMALL LIGATURE A IE;1CAPITAL LETTER IE WITH BREVE",
   "4D7=0CYRILLIC SMALL LETTER IE WITH BREVE;1CAPITAL LETTER SCHWA;1SMALL LETTER SCHWA",
   "4DA=0CYRILLIC CAPITAL LETTER SCHWA WITH DIAERESIS;1SMALL LETTER SCHWA WITH DIAERESIS",
   "4DC=0CYRILLIC CAPITAL LETTER ZHE WITH DIAERESIS;1SMALL LETTER ZHE WITH DIAERESIS",
   "4DE=0CYRILLIC CAPITAL LETTER ZE WITH DIAERESIS;1SMALL LETTER ZE WITH DIAERESIS",
   "4E0=0CYRILLIC CAPITAL LETTER ABKHASIAN DZE;1SMALL LETTER ABKHASIAN DZE",
   "4E2=0CYRILLIC CAPITAL LETTER I WITH MACRON;1SMALL LETTER I WITH MACRON",
   "4E4=0CYRILLIC CAPITAL LETTER I WITH DIAERESIS;1SMALL LETTER I WITH DIAERESIS",
   "4E6=0CYRILLIC CAPITAL LETTER O WITH DIAERESIS;1SMALL LETTER O WITH DIAERESIS",
   "4E8=0CYRILLIC CAPITAL LETTER BARRED O;1SMALL LETTER BARRED O",
   "4EA=0CYRILLIC CAPITAL LETTER BARRED O WITH DIAERESIS;1SMALL LETTER BARRED O WITH DIAERESIS",
   "4EC=0CYRILLIC CAPITAL LETTER E WITH DIAERESIS;1SMALL LETTER E WITH DIAERESIS",
   "4EE=0CYRILLIC CAPITAL LETTER U WITH MACRON;1SMALL LETTER U WITH MACRON",
   "4F0=0CYRILLIC CAPITAL LETTER U WITH DIAERESIS;1SMALL LETTER U WITH DIAERESIS",
   "4F2=0CYRILLIC CAPITAL LETTER U WITH DOUBLE ACUTE;1SMALL LETTER U WITH DOUBLE ACUTE",
   "4F4=0CYRILLIC CAPITAL LETTER CHE WITH DIAERESIS;1SMALL LETTER CHE WITH DIAERESIS",
   "4F6=0CYRILLIC CAPITAL LETTER GHE WITH DESCENDER;1SMALL LETTER GHE WITH DESCENDER",
   "4F8=0CYRILLIC CAPITAL LETTER YERU WITH DIAERESIS;1SMALL LETTER YERU WITH DIAERESIS",
   "4FA=0CYRILLIC CAPITAL LETTER GHE WITH STROKE AND HOOK;1SMALL LETTER GHE WITH STROKE AND HOOK",
   "4FC=0CYRILLIC CAPITAL LETTER HA WITH HOOK;1SMALL LETTER HA WITH HOOK",
   "4FE=0CYRILLIC CAPITAL LETTER HA WITH STROKE;1SMALL LETTER HA WITH STROKE",
   "500=0CYRILLIC CAPITAL LETTER KOMI DE;1SMALL LETTER KOMI DE;1CAPITAL LETTER KOMI DJE",
   "503=0CYRILLIC SMALL LETTER KOMI DJE;1CAPITAL LETTER KOMI ZJE;1SMALL LETTER KOMI ZJE",
   "506=0CYRILLIC CAPITAL LETTER KOMI DZJE;1SMALL LETTER KOMI DZJE;1CAPITAL LETTER KOMI LJE",
   "509=0CYRILLIC SMALL LETTER KOMI LJE;1CAPITAL LETTER KOMI NJE;1SMALL LETTER KOMI NJE",
   "50C=0CYRILLIC CAPITAL LETTER KOMI SJE;1SMALL LETTER KOMI SJE;1CAPITAL LETTER KOMI TJE",
   "50F=0CYRILLIC SMALL LETTER KOMI TJE;1CAPITAL LETTER REVERSED ZE;1SMALL LETTER REVERSED ZE",
   "512=0CYRILLIC CAPITAL LETTER EL WITH HOOK;1SMALL LETTER EL WITH HOOK;1CAPITAL LETTER LHA",
   "515=0CYRILLIC SMALL LETTER LHA;1CAPITAL LETTER RHA;1SMALL LETTER RHA;1CAPITAL LETTER YAE",
   "519=0CYRILLIC SMALL LETTER YAE;1CAPITAL LETTER QA;1SMALL LETTER QA;1CAPITAL LETTER WE",
   "51D=0CYRILLIC SMALL LETTER WE;1CAPITAL LETTER ALEUT KA;1SMALL LETTER ALEUT KA",
   "520=0CYRILLIC CAPITAL LETTER EL WITH MIDDLE HOOK;1SMALL LETTER EL WITH MIDDLE HOOK",
   "522=0CYRILLIC CAPITAL LETTER EN WITH MIDDLE HOOK;1SMALL LETTER EN WITH MIDDLE HOOK",
   "524=0CYRILLIC CAPITAL LETTER PE WITH DESCENDER;1SMALL LETTER PE WITH DESCENDER",
   "526=0CYRILLIC CAPITAL LETTER SHHA WITH DESCENDER;1SMALL LETTER SHHA WITH DESCENDER",
   "528=0CYRILLIC CAPITAL LETTER EN WITH LEFT HOOK;1SMALL LETTER EN WITH LEFT HOOK",
   "52A=0CYRILLIC CAPITAL LETTER DZZHE;1SMALL LETTER DZZHE;1CAPITAL LETTER DCHE",
   "52D=0CYRILLIC SMALL LETTER DCHE;1CAPITAL LETTER EL WITH DESCENDER",
   "52F=0CYRILLIC SMALL LETTER EL WITH DESCENDER;531=0ARMENIAN CAPITAL LETTER AYB;3BEN;3GIM;3DA",
   "535=0ARMENIAN CAPITAL LETTER ECH;3ZA;3EH;3ET;3TO;3ZHE;3INI;3LIWN;3XEH;3CA;3KEN;3HO;3JA;3GHAD",
   "543=0ARMENIAN CAPITAL LETTER CHEH;3MEN;3YI;3NOW;3SHA;3VO;3CHA;3PEH;3JHEH;3RA;3SEH;3VEW;3TIWN",
   "550=0ARMENIAN CAPITAL LETTER REH;3CO;3YIWN;3PIWR;3KEH;3OH;3FEH",
   "559=0ARMENIAN MODIFIER LETTER LEFT HALF RING;1APOSTROPHE;1EMPHASIS MARK;1EXCLAMATION MARK",
   "55D=0ARMENIAN COMMA;1QUESTION MARK;1ABBREVIATION MARK;1SMALL LETTER TURNED AYB;3AYB;3BEN;3GIM",
   "564=0ARMENIAN SMALL LETTER DA;3ECH;3ZA;3EH;3ET;3TO;3ZHE;3INI;3LIWN;3XEH;3CA;3KEN;3HO;3JA",
   "572=0ARMENIAN SMALL LETTER GHAD;3CHEH;3MEN;3YI;3NOW;3SHA;3VO;3CHA;3PEH;3JHEH;3RA;3SEH;3VEW",
   "57F=0ARMENIAN SMALL LETTER TIWN;3REH;3CO;3YIWN;3PIWR;3KEH;3OH;3FEH;2LIGATURE ECH YIWN",
   "588=0ARMENIAN SMALL LETTER YI WITH STROKE;1FULL STOP;1HYPHEN",
   "58D=0RIGHT-FACING ARMENIAN ETERNITY SIGN;0LEFT-FACING ARMENIAN ETERNITY SIGN",
   "58F=0ARMENIAN DRAM SIGN;591=0HEBREW ACCENT ETNAHTA;2SEGOL;2SHALSHELET;2ZAQEF QATAN;3GADOL",
   "596=0HEBREW ACCENT TIPEHA;2REVIA;2ZARQA;2PASHTA;2YETIV;2TEVIR;2GERESH;3MUQDAM;2GERSHAYIM",
   "59F=0HEBREW ACCENT QARNEY PARA;2TELISHA GEDOLA;2PAZER;2ATNAH HAFUKH;2MUNAH;2MAHAPAKH;2MERKHA",
   "5A6=0HEBREW ACCENT MERKHA KEFULA;2DARGA;2QADMA;2TELISHA QETANA;2YERAH BEN YOMO;2OLE;2ILUY",
   "5AD=0HEBREW ACCENT DEHI;2ZINOR;1MARK MASORA CIRCLE;1POINT SHEVA;2HATAF SEGOL;3PATAH;3QAMATS",
   "5B4=0HEBREW POINT HIRIQ;2TSERE;2SEGOL;2PATAH;2QAMATS;2HOLAM;3HASER FOR VAV;2QUBUTS",
   "5BC=0HEBREW POINT DAGESH OR MAPIQ;2METEG;1PUNCTUATION MAQAF;1POINT RAFE;1PUNCTUATION PASEQ",
   "5C1=0HEBREW POINT SHIN DOT;2SIN DOT;1PUNCTUATION SOF PASUQ;1MARK UPPER DOT;2LOWER DOT",
   "5C6=0HEBREW PUNCTUATION NUN HAFUKHA;1POINT QAMATS QATAN;5D0=1LETTER ALEF;2BET;2GIMEL;2DALET",
   "5D4=0HEBREW LETTER HE;2VAV;2ZAYIN;2HET;2TET;2YOD;2FINAL KAF;2KAF;2LAMED;2FINAL MEM;2MEM",
   "5DF=0HEBREW LETTER FINAL NUN;2NUN;2SAMEKH;2AYIN;2FINAL PE;2PE;2FINAL TSADI;2TSADI;2QOF;2RESH",
   "5E9=0HEBREW LETTER SHIN;2TAV;5EF=1YOD TRIANGLE;1LIGATURE YIDDISH DOUBLE VAV;3VAV YOD",
   "5F2=0HEBREW LIGATURE YIDDISH DOUBLE YOD;1PUNCTUATION GERESH;2GERSHAYIM",
   "600=0ARABIC NUMBER SIGN;1SIGN SANAH;1FOOTNOTE MARKER;1SIGN SAFHA;2SAMVAT;1NUMBER MARK ABOVE",
   "606=0ARABIC-INDIC CUBE ROOT;1FOURTH ROOT;0ARABIC RAY;0ARABIC-INDIC PER MILLE SIGN",
   "60A=0ARABIC-INDIC PER TEN THOUSAND SIGN;0AFGHANI SIGN;0ARABIC COMMA;1DATE SEPARATOR",
   "60E=0ARABIC POETIC VERSE SIGN;1SIGN MISRA;2SALLALLAHOU ALAYHE WASSALLAM;2ALAYHE ASSALLAM",
   "612=0ARABIC SIGN RAHMATULLAH ALAYHE;2RADI ALLAHOU ANHU;2TAKHALLUS;1SMALL HIGH TAH",
   "616=0ARABIC SMALL HIGH LIGATURE ALEF WITH LAM WITH YEH;3ZAIN;2FATHA;2DAMMA;2KASRA;1SEMICOLON",
   "61C=0ARABIC LETTER MARK;1END OF TEXT MARK;1TRIPLE DOT PUNCTUATION MARK;1QUESTION MARK",
   "620=0ARABIC LETTER KASHMIRI YEH;2HAMZA;2ALEF WITH MADDA ABOVE;4HAMZA ABOVE",
   "624=0ARABIC LETTER WAW WITH HAMZA ABOVE;2ALEF WITH HAMZA BELOW;2YEH WITH HAMZA ABOVE;2ALEF",
   "628=0ARABIC LETTER BEH;2TEH MARBUTA;3;2THEH;2JEEM;2HAH;2KHAH;2DAL;2THAL;2REH;2ZAIN;2SEEN",
   "634=0ARABIC LETTER SHEEN;2SAD;2DAD;2TAH;2ZAH;2AIN;2GHAIN;2KEHEH WITH TWO DOTS ABOVE",
   "63C=0ARABIC LETTER KEHEH WITH THREE DOTS BELOW;2FARSI YEH WITH INVERTED V;5TWO DOTS ABOVE",
   "63F=0ARABIC LETTER FARSI YEH WITH THREE DOTS ABOVE;1TATWEEL;1LETTER FEH;2QAF;2KAF;2LAM;2MEEM",
   "646=0ARABIC LETTER NOON;2HEH;2WAW;2ALEF MAKSURA;2YEH;1FATHATAN;1DAMMATAN;1KASRATAN;1FATHA",
   "64F=0ARABIC DAMMA;1KASRA;1SHADDA;1SUKUN;1MADDAH ABOVE;1HAMZA ABOVE;2BELOW;1SUBSCRIPT ALEF",
   "657=0ARABIC INVERTED DAMMA;1MARK NOON GHUNNA;1ZWARAKAY;1VOWEL SIGN SMALL V ABOVE",
   "65B=0ARABIC VOWEL SIGN INVERTED SMALL V ABOVE;3DOT BELOW;1REVERSED DAMMA;1FATHA WITH TWO DOTS",
   "65F=0ARABIC WAVY HAMZA BELOW;0ARABIC-INDIC DIGIT ZERO;2ONE;2TWO;2THREE;2FOUR;2FIVE;2SIX",
   "667=0ARABIC-INDIC DIGIT SEVEN;2EIGHT;2NINE;0ARABIC PERCENT SIGN;1DECIMAL SEPARATOR",
   "66C=0ARABIC THOUSANDS SEPARATOR;1FIVE POINTED STAR;1LETTER DOTLESS BEH;3QAF;2SUPERSCRIPT ALEF",
   "671=0ARABIC LETTER ALEF WASLA;3WITH WAVY HAMZA ABOVE;6BELOW;2HIGH HAMZA;4ALEF;4WAW",
   "677=0ARABIC LETTER U WITH HAMZA ABOVE;2HIGH HAMZA YEH;2TTEH;2TTEHEH;2BEEH;2TEH WITH RING",
   "67D=0ARABIC LETTER TEH WITH THREE DOTS ABOVE DOWNWARDS;2PEH;2TEHEH;2BEHEH",
   "681=0ARABIC LETTER HAH WITH HAMZA ABOVE;4TWO DOTS VERTICAL ABOVE;2NYEH;2DYEH",
   "685=0ARABIC LETTER HAH WITH THREE DOTS ABOVE;2TCHEH;2TCHEHEH;2DDAL;2DAL WITH RING;4DOT BELOW",
   "68B=0ARABIC LETTER DAL WITH DOT BELOW AND SMALL TAH;2DAHAL;2DDAHAL;2DUL",
   "68F=0ARABIC LETTER DAL WITH THREE DOTS ABOVE DOWNWARDS;4FOUR DOTS ABOVE;2RREH",
   "692=0ARABIC LETTER REH WITH SMALL V;4RING;4DOT BELOW;4SMALL V BELOW;4DOT BELOW AND DOT ABOVE",
   "697=0ARABIC LETTER REH WITH TWO DOTS ABOVE;2JEH;2REH WITH FOUR DOTS ABOVE",
   "69A=0ARABIC LETTER SEEN WITH DOT BELOW AND DOT ABOVE;4THREE DOTS BELOW;7AND THREE DOTS ABOVE",
   "69D=0ARABIC LETTER SAD WITH TWO DOTS BELOW;4THREE DOTS ABOVE;2TAH WITH THREE DOTS ABOVE",
   "6A0=0ARABIC LETTER AIN WITH THREE DOTS ABOVE;2DOTLESS FEH;2FEH WITH DOT MOVED BELOW;5BELOW",
   "6A4=0ARABIC LETTER VEH;2FEH WITH THREE DOTS BELOW;2PEHEH;2QAF WITH DOT ABOVE",
   "6A8=0ARABIC LETTER QAF WITH THREE DOTS ABOVE;2KEHEH;2SWASH KAF;2KAF WITH RING;4DOT ABOVE;2NG",
   "6AE=0ARABIC LETTER KAF WITH THREE DOTS BELOW;2GAF;3WITH RING;2NGOEH;2GAF WITH TWO DOTS BELOW",
   "6B3=0ARABIC LETTER GUEH;2GAF WITH THREE DOTS ABOVE;2LAM WITH SMALL V;4DOT ABOVE",
   "6B7=0ARABIC LETTER LAM WITH THREE DOTS ABOVE;6BELOW;2NOON WITH DOT BELOW;3GHUNNA;2RNOON",
   "6BC=0ARABIC LETTER NOON WITH RING;4THREE DOTS ABOVE;2HEH DOACHASHMEE;2TCHEH WITH DOT ABOVE",
   "6C0=0ARABIC LETTER HEH WITH YEH ABOVE;3GOAL;4WITH HAMZA ABOVE;2TEH MARBUTA GOAL",
   "6C4=0ARABIC LETTER WAW WITH RING;2KIRGHIZ OE;2OE;2U;2YU;2KIRGHIZ YU;2WAW WITH TWO DOTS ABOVE",
   "6CB=0ARABIC LETTER VE;2FARSI YEH;2YEH WITH TAIL;4SMALL V;2WAW WITH DOT ABOVE;2E",
   "6D1=0ARABIC LETTER YEH WITH THREE DOTS BELOW;3BARREE;4WITH HAMZA ABOVE;1FULL STOP;1LETTER AE",
   "6D6=0ARABIC SMALL HIGH LIGATURE SAD WITH LAM WITH ALEF MAKSURA",
   "6D7=0ARABIC SMALL HIGH LIGATURE QAF WITH LAM WITH ALEF MAKSURA;3MEEM INITIAL FORM;3LAM ALEF",
   "6DA=0ARABIC SMALL HIGH JEEM;3THREE DOTS;3SEEN;1END OF AYAH;1START OF RUB EL HIZB",
   "6DF=0ARABIC SMALL HIGH ROUNDED ZERO;3UPRIGHT RECTANGULAR ZERO;3DOTLESS HEAD OF KHAH",
   "6E2=0ARABIC SMALL HIGH MEEM ISOLATED FORM;2LOW SEEN;2HIGH MADDA;2WAW;2YEH;2HIGH YEH;3NOON",
   "6E9=0ARABIC PLACE OF SAJDAH;1EMPTY CENTRE LOW STOP;3HIGH STOP",
   "6EC=0ARABIC ROUNDED HIGH STOP WITH FILLED CENTRE;1SMALL LOW MEEM;1LETTER DAL WITH INVERTED V",
   "6EF=0ARABIC LETTER REH WITH INVERTED V;0EXTENDED ARABIC-INDIC DIGIT ZERO;3ONE;3TWO;3THREE",
   "6F4=0EXTENDED ARABIC-INDIC DIGIT FOUR;3FIVE;3SIX;3SEVEN;3EIGHT;3NINE",
   "6FA=0ARABIC LETTER SHEEN WITH DOT BELOW;2DAD WITH DOT BELOW;2GHAIN WITH DOT BELOW",
   "6FD=0ARABIC SIGN SINDHI AMPERSAND;3POSTPOSITION MEN;1LETTER HEH WITH INVERTED V",
   "700=0SYRIAC END OF PARAGRAPH;1SUPRALINEAR FULL STOP;1SUBLINEAR FULL STOP;1SUPRALINEAR COLON",
   "704=0SYRIAC SUBLINEAR COLON;1HORIZONTAL COLON;1COLON SKEWED LEFT;3RIGHT",
   "708=0SYRIAC SUPRALINEAR COLON SKEWED LEFT;1SUBLINEAR COLON SKEWED RIGHT;1CONTRACTION",
   "70B=0SYRIAC HARKLEAN OBELUS;2METOBELUS;2ASTERISCUS;70F=1ABBREVIATION MARK;1LETTER ALAPH",
   "711=0SYRIAC LETTER SUPERSCRIPT ALAPH;2BETH;2GAMAL;3GARSHUNI;2DALATH;2DOTLESS DALATH RISH;2HE",
   "718=0SYRIAC LETTER WAW;2ZAIN;2HETH;2TETH;3GARSHUNI;2YUDH;3HE;2KAPH;2LAMADH;2MIM;2NUN;2SEMKATH",
   "724=0SYRIAC LETTER FINAL SEMKATH;2E;2PE;2REVERSED PE;2SADHE;2QAPH;2RISH;2SHIN;2TAW",
   "72D=0SYRIAC LETTER PERSIAN BHETH;3GHAMAL;3DHALATH;1PTHAHA ABOVE;2BELOW;2DOTTED;1ZQAPHA ABOVE",
   "734=0SYRIAC ZQAPHA BELOW;2DOTTED;1RBASA ABOVE;2BELOW;1DOTTED ZLAMA HORIZONTAL;3ANGULAR",
   "73A=0SYRIAC HBASA ABOVE;2BELOW;1HBASA-ESASA DOTTED;1ESASA ABOVE;2BELOW;1RWAHA;1FEMININE DOT",
   "741=0SYRIAC QUSHSHAYA;1RUKKAKHA;1TWO VERTICAL DOTS ABOVE;4BELOW;1THREE DOTS ABOVE;3BELOW",
   "747=0SYRIAC OBLIQUE LINE ABOVE;3BELOW;1MUSIC;1BARREKH;74D=1LETTER SOGDIAN ZHAIN;3KHAPH;3FE",
   "750=0ARABIC LETTER BEH WITH THREE DOTS HORIZONTALLY BELOW;4DOT BELOW AND THREE DOTS ABOVE",
   "752=0ARABIC LETTER BEH WITH THREE DOTS POINTING UPWARDS BELOW;9AND TWO DOTS ABOVE",
   "754=0ARABIC LETTER BEH WITH TWO DOTS BELOW AND DOT ABOVE;4INVERTED SMALL V BELOW;4SMALL V",
   "757=0ARABIC LETTER HAH WITH TWO DOTS ABOVE;4THREE DOTS POINTING UPWARDS BELOW",
   "759=0ARABIC LETTER DAL WITH TWO DOTS VERTICALLY BELOW AND SMALL TAH;4INVERTED SMALL V BELOW",
   "75B=0ARABIC LETTER REH WITH STROKE;2SEEN WITH FOUR DOTS ABOVE;2AIN WITH TWO DOTS ABOVE",
   "75E=0ARABIC LETTER AIN WITH THREE DOTS POINTING DOWNWARDS ABOVE;4TWO DOTS VERTICALLY ABOVE",
   "760=0ARABIC LETTER FEH WITH TWO DOTS BELOW;4THREE DOTS POINTING UPWARDS BELOW",
   "762=0ARABIC LETTER KEHEH WITH DOT ABOVE;4THREE DOTS ABOVE;6POINTING UPWARDS BELOW",
   "765=0ARABIC LETTER MEEM WITH DOT ABOVE;5BELOW;2NOON WITH TWO DOTS BELOW;4SMALL TAH;5V",
   "76A=0ARABIC LETTER LAM WITH BAR;2REH WITH TWO DOTS VERTICALLY ABOVE;4HAMZA ABOVE",
   "76D=0ARABIC LETTER SEEN WITH TWO DOTS VERTICALLY ABOVE",
   "76E=0ARABIC LETTER HAH WITH SMALL ARABIC LETTER TAH BELOW;8AND TWO DOTS",
   "770=0ARABIC LETTER SEEN WITH SMALL ARABIC LETTER TAH AND TWO DOTS",
   "771=0ARABIC LETTER REH WITH SMALL ARABIC LETTER TAH AND TWO DOTS",
   "772=0ARABIC LETTER HAH WITH SMALL ARABIC LETTER TAH ABOVE",
   "773=0ARABIC LETTER ALEF WITH EXTENDED ARABIC-INDIC DIGIT TWO ABOVE;7THREE ABOVE",
   "775=0ARABIC LETTER FARSI YEH WITH EXTENDED ARABIC-INDIC DIGIT TWO ABOVE;8THREE ABOVE",
   "777=0ARABIC LETTER FARSI YEH WITH EXTENDED ARABIC-INDIC DIGIT FOUR BELOW",
   "778=0ARABIC LETTER WAW WITH EXTENDED ARABIC-INDIC DIGIT TWO ABOVE;7THREE ABOVE",
   "77A=0ARABIC LETTER YEH BARREE WITH EXTENDED ARABIC-INDIC DIGIT TWO ABOVE;8THREE ABOVE",
   "77C=0ARABIC LETTER HAH WITH EXTENDED ARABIC-INDIC DIGIT FOUR BELOW",
   "77D=0ARABIC LETTER SEEN WITH EXTENDED ARABIC-INDIC DIGIT FOUR ABOVE;4INVERTED V",
   "77F=0ARABIC LETTER KAF WITH TWO DOTS ABOVE;0THAANA LETTER HAA;2SHAVIYANI;2NOONU;2RAA;2BAA",
   "785=0THAANA LETTER LHAVIYANI;2KAAFU;2ALIFU;2VAAVU;2MEEMU;2FAAFU;2DHAALU;2THAA;2LAAMU;2GAAFU",
   "78F=0THAANA LETTER GNAVIYANI;2SEENU;2DAVIYANI;2ZAVIYANI;2TAVIYANI;2YAA;2PAVIYANI;2JAVIYANI",
   "797=0THAANA LETTER CHAVIYANI;2TTAA;2HHAA;2KHAA;2THAALU;2ZAA;2SHEENU;2SAADHU;2DAADHU;2TO;2ZO",
   "7A2=0THAANA LETTER AINU;2GHAINU;2QAAFU;2WAAVU;1ABAFILI;1AABAAFILI;1IBIFILI;1EEBEEFILI",
   "7AA=0THAANA UBUFILI;1OOBOOFILI;1EBEFILI;1EYBEYFILI;1OBOFILI;1OABOAFILI;1SUKUN;1LETTER NAA",
   "7C0=0NKO DIGIT ZERO;2ONE;2TWO;2THREE;2FOUR;2FIVE;2SIX;2SEVEN;2EIGHT;2NINE;1LETTER A;2EE;2I;2E",
   "7CE=0NKO LETTER U;2OO;2O;2DAGBASINNA;2N;2BA;2PA;2TA;2JA;2CHA;2DA;2RA;2RRA;2SA;2GBA;2FA;2KA",
   "7DF=0NKO LETTER LA;2NA WOLOSO;2MA;2NYA;2NA;2HA;2WA;2YA;2NYA WOLOSO;2JONA JA;3CHA;3RA",
   "7EB=0NKO COMBINING SHORT HIGH TONE;3LOW TONE;3RISING TONE;2LONG DESCENDING TONE;3HIGH TONE",
   "7F0=0NKO COMBINING LONG LOW TONE;3RISING TONE;2NASALIZATION MARK;2DOUBLE DOT ABOVE",
   "7F4=0NKO HIGH TONE APOSTROPHE;1LOW TONE APOSTROPHE;1SYMBOL OO DENNEN;2GBAKURUNEN;1COMMA",
   "7F9=0NKO EXCLAMATION MARK;1LAJANYALAN;7FD=1DANTAYALAN;1DOROME SIGN;1TAMAN SIGN",
   "800=0SAMARITAN LETTER ALAF;2BIT;2GAMAN;2DALAT;2IY;2BAA;2ZEN;2IT;2TIT;2YUT;2KAAF;2LABAT;2MIM",
   "80D=0SAMARITAN LETTER NUN;2SINGAAT;2IN;2FI;2TSAADIY;2QUF;2RISH;2SHAN;2TAAF;1MARK IN;2IN-ALAF",
   "818=0SAMARITAN MARK OCCLUSION;2DAGESH;1MODIFIER LETTER EPENTHETIC YUT;1MARK EPENTHETIC YUT",
   "81C=0SAMARITAN VOWEL SIGN LONG E;3E;3OVERLONG AA;3LONG AA;3AA;3OVERLONG A;3LONG A;3A",
   "824=0SAMARITAN MODIFIER LETTER SHORT A;1VOWEL SIGN SHORT A;3LONG U;3U;1MODIFIER LETTER I",
   "829=0SAMARITAN VOWEL SIGN LONG I;3I;3O;3SUKUN;1MARK NEQUDAA;830=1PUNCTUATION NEQUDAA;2AFSAAQ",
   "832=0SAMARITAN PUNCTUATION ANGED;2BAU;2ATMAAU;2SHIYYAALAA;1ABBREVIATION MARK",
   "837=0SAMARITAN PUNCTUATION MELODIC QITSA;2ZIQAA;2QITSA;2ZAEF;2TURU;2ARKAANU;2SOF MASHFAAT",
   "83E=0SAMARITAN PUNCTUATION ANNAAU;840=0MANDAIC LETTER HALQA;2AB;2AG;2AD;2AH;2USHENNA;2AZ;2IT",
   "848=0MANDAIC LETTER ATT;2AKSA;2AK;2AL;2AM;2AN;2AS;2IN;2AP;2ASZ;2AQ;2AR;2ASH;2AT;2DUSHENNA",
   "857=0MANDAIC LETTER KAD;2AIN;1AFFRICATION MARK;1VOCALIZATION MARK;1GEMINATION MARK",
   "85E=0MANDAIC PUNCTUATION;860=0SYRIAC LETTER MALAYALAM NGA;3JA;3NYA;3TTA;3NNA;3NNNA;3BHA;3RA",
   "868=0SYRIAC LETTER MALAYALAM LLA;3LLLA;3SSA;870=0ARABIC LETTER ALEF WITH ATTACHED FATHA",
   "871=0ARABIC LETTER ALEF WITH ATTACHED TOP RIGHT FATHA;4RIGHT MIDDLE STROKE",
   "873=0ARABIC LETTER ALEF WITH LEFT MIDDLE STROKE;4ATTACHED KASRA;5BOTTOM RIGHT KASRA",
   "876=0ARABIC LETTER ALEF WITH ATTACHED ROUND DOT ABOVE;5RIGHT ROUND DOT;5LEFT ROUND DOT",
   "879=0ARABIC LETTER ALEF WITH ATTACHED ROUND DOT BELOW;4DOT ABOVE",
   "87B=0ARABIC LETTER ALEF WITH ATTACHED TOP RIGHT FATHA AND DOT ABOVE",
   "87C=0ARABIC LETTER ALEF WITH RIGHT MIDDLE STROKE AND DOT ABOVE",
   "87D=0ARABIC LETTER ALEF WITH ATTACHED BOTTOM RIGHT KASRA AND DOT ABOVE",
   "87E=0ARABIC LETTER ALEF WITH ATTACHED TOP RIGHT FATHA AND LEFT RING",
   "87F=0ARABIC LETTER ALEF WITH RIGHT MIDDLE STROKE AND LEFT RING",
   "880=0ARABIC LETTER ALEF WITH ATTACHED BOTTOM RIGHT KASRA AND LEFT RING;5RIGHT HAMZA",
   "882=0ARABIC LETTER ALEF WITH ATTACHED LEFT HAMZA;1TATWEEL WITH OVERSTRUCK HAMZA;4WAW",
   "885=0ARABIC TATWEEL WITH TWO DOTS BELOW;1LETTER THIN YEH;1BASELINE ROUND DOT",
   "888=0ARABIC RAISED ROUND DOT;1LETTER NOON WITH INVERTED SMALL V",
   "88A=0ARABIC LETTER HAH WITH INVERTED SMALL V BELOW;2TAH WITH DOT BELOW;4THREE DOTS BELOW",
   "88D=0ARABIC LETTER KEHEH WITH TWO DOTS VERTICALLY BELOW;1VERTICAL TAIL;890=1POUND MARK ABOVE",
   "891=0ARABIC PIASTRE MARK ABOVE;898=1SMALL HIGH WORD AL-JUZ;2LOW WORD ISHMAAM;4IMAALA;4TASHEEL",
   "89C=0ARABIC MADDA WAAJIB;1SUPERSCRIPT ALEF MOKHASSAS;1DOUBLED MADDA;1HALF MADDA OVER MADDA",
   "8A0=0ARABIC LETTER BEH WITH SMALL V BELOW;4HAMZA ABOVE;2JEEM WITH TWO DOTS ABOVE",
   "8A3=0ARABIC LETTER TAH WITH TWO DOTS ABOVE;2FEH WITH DOT BELOW AND THREE DOTS ABOVE",
   "8A5=0ARABIC LETTER QAF WITH DOT BELOW;2LAM WITH DOUBLE BAR;2MEEM WITH THREE DOTS ABOVE",
   "8A8=0ARABIC LETTER YEH WITH TWO DOTS BELOW AND HAMZA ABOVE;8DOT ABOVE;2REH WITH LOOP",
   "8AB=0ARABIC LETTER WAW WITH DOT WITHIN;2ROHINGYA YEH;2LOW ALEF;2DAL WITH THREE DOTS BELOW",
   "8AF=0ARABIC LETTER SAD WITH THREE DOTS BELOW;2GAF WITH INVERTED STROKE;2STRAIGHT WAW",
   "8B2=0ARABIC LETTER ZAIN WITH INVERTED V ABOVE;2AIN WITH THREE DOTS BELOW;2KAF WITH DOT BELOW",
   "8B5=0ARABIC LETTER QAF WITH DOT BELOW AND NO DOTS ABOVE;2BEH WITH SMALL MEEM ABOVE",
   "8B7=0ARABIC LETTER PEH WITH SMALL MEEM ABOVE;2TEH WITH SMALL TEH ABOVE",
   "8B9=0ARABIC LETTER REH WITH SMALL NOON ABOVE;2YEH WITH TWO DOTS BELOW AND SMALL NOON ABOVE",
   "8BB=0ARABIC LETTER AFRICAN FEH;3QAF;3NOON;2PEH WITH SMALL V;2TEH WITH SMALL V",
   "8C0=0ARABIC LETTER TTEH WITH SMALL V;2TCHEH WITH SMALL V;2KEHEH WITH SMALL V",
   "8C3=0ARABIC LETTER GHAIN WITH THREE DOTS ABOVE;2AFRICAN QAF WITH THREE DOTS ABOVE",
   "8C5=0ARABIC LETTER JEEM WITH THREE DOTS ABOVE;6BELOW;2LAM WITH SMALL ARABIC LETTER TAH ABOVE",
   "8C8=0ARABIC LETTER GRAF;1SMALL FARSI YEH;2HIGH FARSI YEH;3YEH BARREE WITH TWO DOTS BELOW",
   "8CC=0ARABIC SMALL HIGH WORD SAH;3ZAH;1LARGE ROUND DOT ABOVE;4BELOW;1SUKUN BELOW",
   "8D1=0ARABIC LARGE CIRCLE BELOW;2ROUND DOT INSIDE CIRCLE BELOW;1SMALL LOW WAW",
   "8D4=0ARABIC SMALL HIGH WORD AR-RUB;3SAD;3AIN;3QAF;3NOON WITH KASRA;2LOW NOON WITH KASRA",
   "8DA=0ARABIC SMALL HIGH WORD ATH-THALATHA;4AS-SAJDA;4AN-NISF;4SAKTA;4QIF;4WAQFA",
   "8E0=0ARABIC SMALL HIGH FOOTNOTE MARKER;3SIGN SAFHA;1DISPUTED END OF AYAH;1TURNED DAMMA BELOW",
   "8E4=0ARABIC CURLY FATHA;2DAMMA;2KASRA;2FATHATAN;2DAMMATAN;2KASRATAN;1TONE ONE DOT ABOVE",
   "8EB=0ARABIC TONE TWO DOTS ABOVE;2LOOP ABOVE;2ONE DOT BELOW;2TWO DOTS BELOW;2LOOP BELOW",
   "8F0=0ARABIC OPEN FATHATAN;2DAMMATAN;2KASRATAN;1SMALL HIGH WAW;1FATHA WITH RING;3DOT ABOVE",
   "8F6=0ARABIC KASRA WITH DOT BELOW;1LEFT ARROWHEAD ABOVE;1RIGHT ARROWHEAD ABOVE",
   "8F9=0ARABIC LEFT ARROWHEAD BELOW;1RIGHT ARROWHEAD BELOW;1DOUBLE RIGHT ARROWHEAD ABOVE",
   "8FC=0ARABIC DOUBLE RIGHT ARROWHEAD ABOVE WITH DOT;1RIGHT ARROWHEAD ABOVE WITH DOT",
   "8FE=0ARABIC DAMMA WITH DOT;1MARK SIDEWAYS NOON GHUNNA;0DEVANAGARI SIGN INVERTED CANDRABINDU",
   "901=0DEVANAGARI SIGN CANDRABINDU;2ANUSVARA;2VISARGA;1LETTER SHORT A;2A;2AA;2I;2II;2U;2UU",
   "90B=0DEVANAGARI LETTER VOCALIC R;3L;2CANDRA E;2SHORT E;2E;2AI;2CANDRA O;2SHORT O;2O;2AU;2KA",
   "916=0DEVANAGARI LETTER KHA;2GA;2GHA;2NGA;2CA;2CHA;2JA;2JHA;2NYA;2TTA;2TTHA;2DDA;2DDHA;2NNA",
   "924=0DEVANAGARI LETTER TA;2THA;2DA;2DHA;2NA;2NNNA;2PA;2PHA;2BA;2BHA;2MA;2YA;2RA;2RRA;2LA;2LLA",
   "934=0DEVANAGARI LETTER LLLA;2VA;2SHA;2SSA;2SA;2HA;1VOWEL SIGN OE;3OOE;1SIGN NUKTA;2AVAGRAHA",
   "93E=0DEVANAGARI VOWEL SIGN AA;3I;3II;3U;3UU;3VOCALIC R;4RR;3CANDRA E;3SHORT E;3E;3AI",
   "949=0DEVANAGARI VOWEL SIGN CANDRA O;3SHORT O;3O;3AU;1SIGN VIRAMA;1VOWEL SIGN PRISHTHAMATRA E",
   "94F=0DEVANAGARI VOWEL SIGN AW;1OM;1STRESS SIGN UDATTA;3ANUDATTA;1GRAVE ACCENT;1ACUTE ACCENT",
   "955=0DEVANAGARI VOWEL SIGN CANDRA LONG E;3UE;3UUE;1LETTER QA;2KHHA;2GHHA;2ZA;2DDDHA;2RHA;2FA",
   "95F=0DEVANAGARI LETTER YYA;2VOCALIC RR;3LL;1VOWEL SIGN VOCALIC L;4LL;1DANDA;1DOUBLE DANDA",
   "966=0DEVANAGARI DIGIT ZERO;2ONE;2TWO;2THREE;2FOUR;2FIVE;2SIX;2SEVEN;2EIGHT;2NINE",
   "970=0DEVANAGARI ABBREVIATION SIGN;1SIGN HIGH SPACING DOT;1LETTER CANDRA A;2OE;2OOE;2AW;2UE",
   "977=0DEVANAGARI LETTER UUE;2MARWARI DDA;2ZHA;2HEAVY YA;2GGA;2JJA;2GLOTTAL STOP;2DDDA;2BBA",
   "980=0BENGALI ANJI;1SIGN CANDRABINDU;2ANUSVARA;2VISARGA;985=1LETTER A;2AA;2I;2II;2U;2UU",
   "98B=0BENGALI LETTER VOCALIC R;3L;98F=2E;2AI;993=2O;2AU;2KA;2KHA;2GA;2GHA;2NGA;2CA;2CHA;2JA",
   "99D=0BENGALI LETTER JHA;2NYA;2TTA;2TTHA;2DDA;2DDHA;2NNA;2TA;2THA;2DA;2DHA;2NA;9AA=2PA;2PHA",
   "9AC=0BENGALI LETTER BA;2BHA;2MA;2YA;2RA;9B2=2LA;9B6=2SHA;2SSA;2SA;2HA;9BC=1SIGN NUKTA",
   "9BD=0BENGALI SIGN AVAGRAHA;1VOWEL SIGN AA;3I;3II;3U;3UU;3VOCALIC R;4RR;9C7=3E;3AI;9CB=3O;3AU",
   "9CD=0BENGALI SIGN VIRAMA;1LETTER KHANDA TA;9D7=1AU LENGTH MARK;9DC=1LETTER RRA;2RHA;9DF=2YYA",
   "9E0=0BENGALI LETTER VOCALIC RR;3LL;1VOWEL SIGN VOCALIC L;4LL;9E6=1DIGIT ZERO;2ONE;2TWO;2THREE",
   "9EA=0BENGALI DIGIT FOUR;2FIVE;2SIX;2SEVEN;2EIGHT;2NINE;1LETTER RA WITH MIDDLE DIAGONAL",
   "9F1=0BENGALI LETTER RA WITH LOWER DIAGONAL;1RUPEE MARK;2SIGN;1CURRENCY NUMERATOR ONE;3TWO",
   "9F6=0BENGALI CURRENCY NUMERATOR THREE;3FOUR;3ONE LESS THAN THE DENOMINATOR",
   "9F9=0BENGALI CURRENCY DENOMINATOR SIXTEEN;1ISSHAR;1GANDA MARK;1LETTER VEDIC ANUSVARA",
   "9FD=0BENGALI ABBREVIATION SIGN;1SANDHI MARK;A01=0GURMUKHI SIGN ADAK BINDI;2BINDI;2VISARGA",
   "A05=0GURMUKHI LETTER A;2AA;2I;2II;2U;2UU;A0F=2EE;2AI;A13=2OO;2AU;2KA;2KHA;2GA;2GHA;2NGA;2CA",
   "A1B=0GURMUKHI LETTER CHA;2JA;2JHA;2NYA;2TTA;2TTHA;2DDA;2DDHA;2NNA;2TA;2THA;2DA;2DHA;2NA",
   "A2A=0GURMUKHI LETTER PA;2PHA;2BA;2BHA;2MA;2YA;2RA;A32=2LA;2LLA;A35=2VA;2SHA;A38=2SA;2HA",
   "A3C=0GURMUKHI SIGN NUKTA;A3E=1VOWEL SIGN AA;3I;3II;3U;3UU;A47=3EE;3AI;A4B=3OO;3AU",
   "A4D=0GURMUKHI SIGN VIRAMA;A51=2UDAAT;A59=1LETTER KHHA;2GHHA;2ZA;2RRA;A5E=2FA;A66=1DIGIT ZERO",
   "A67=0GURMUKHI DIGIT ONE;2TWO;2THREE;2FOUR;2FIVE;2SIX;2SEVEN;2EIGHT;2NINE;1TIPPI;1ADDAK;1IRI",
   "A73=0GURMUKHI URA;1EK ONKAR;1SIGN YAKASH;1ABBREVIATION SIGN;A81=0GUJARATI SIGN CANDRABINDU",
   "A82=0GUJARATI SIGN ANUSVARA;2VISARGA;A85=1LETTER A;2AA;2I;2II;2U;2UU;2VOCALIC R;3L",
   "A8D=0GUJARATI VOWEL CANDRA E;A8F=1LETTER E;2AI;1VOWEL CANDRA O;A93=1LETTER O;2AU;2KA;2KHA;2GA",
   "A98=0GUJARATI LETTER GHA;2NGA;2CA;2CHA;2JA;2JHA;2NYA;2TTA;2TTHA;2DDA;2DDHA;2NNA;2TA;2THA;2DA",
   "AA7=0GUJARATI LETTER DHA;2NA;AAA=2PA;2PHA;2BA;2BHA;2MA;2YA;2RA;AB2=2LA;2LLA;AB5=2VA;2SHA;2SSA",
   "AB8=0GUJARATI LETTER SA;2HA;ABC=1SIGN NUKTA;2AVAGRAHA;1VOWEL SIGN AA;3I;3II;3U;3UU;3VOCALIC R",
   "AC4=0GUJARATI VOWEL SIGN VOCALIC RR;3CANDRA E;AC7=3E;3AI;3CANDRA O;ACB=3O;3AU;1SIGN VIRAMA",
   "AD0=0GUJARATI OM;AE0=1LETTER VOCALIC RR;3LL;1VOWEL SIGN VOCALIC L;4LL;AE6=1DIGIT ZERO;2ONE",
   "AE8=0GUJARATI DIGIT TWO;2THREE;2FOUR;2FIVE;2SIX;2SEVEN;2EIGHT;2NINE;1ABBREVIATION SIGN",
   "AF1=0GUJARATI RUPEE SIGN;AF9=1LETTER ZHA;1SIGN SUKUN;2SHADDA;2MADDAH;2THREE-DOT NUKTA ABOVE",
   "AFE=0GUJARATI SIGN CIRCLE NUKTA ABOVE;2TWO-CIRCLE NUKTA ABOVE;B01=0ORIYA SIGN CANDRABINDU",
   "B02=0ORIYA SIGN ANUSVARA;2VISARGA;B05=1LETTER A;2AA;2I;2II;2U;2UU;2VOCALIC R;3L;B0F=2E;2AI",
   "B13=0ORIYA LETTER O;2AU;2KA;2KHA;2GA;2GHA;2NGA;2CA;2CHA;2JA;2JHA;2NYA;2TTA;2TTHA;2DDA;2DDHA",
   "B23=0ORIYA LETTER NNA;2TA;2THA;2DA;2DHA;2NA;B2A=2PA;2PHA;2BA;2BHA;2MA;2YA;2RA;B32=2LA;2LLA",
   "B35=0ORIYA LETTER VA;2SHA;2SSA;2SA;2HA;B3C=1SIGN NUKTA;2AVAGRAHA;1VOWEL SIGN AA;3I;3II;3U;3UU",
   "B43=0ORIYA VOWEL SIGN VOCALIC R;4RR;B47=3E;3AI;B4B=3O;3AU;1SIGN VIRAMA;B55=2OVERLINE",
   "B56=0ORIYA AI LENGTH MARK;1AU LENGTH MARK;B5C=1LETTER RRA;2RHA;B5F=2YYA;2VOCALIC RR;3LL",
   "B62=0ORIYA VOWEL SIGN VOCALIC L;4LL;B66=1DIGIT ZERO;2ONE;2TWO;2THREE;2FOUR;2FIVE;2SIX;2SEVEN",
   "B6E=0ORIYA DIGIT EIGHT;2NINE;1ISSHAR;1LETTER WA;1FRACTION ONE QUARTER;3HALF;2THREE QUARTERS",
   "B75=0ORIYA FRACTION ONE SIXTEENTH;3EIGHTH;2THREE SIXTEENTHS;B82=0TAMIL SIGN ANUSVARA;2VISARGA",
   "B85=0TAMIL LETTER A;2AA;2I;2II;2U;2UU;B8E=2E;2EE;2AI;B92=2O;2OO;2AU;2KA;B99=2NGA;2CA;B9C=2JA",
   "B9E=0TAMIL LETTER NYA;2TTA;BA3=2NNA;2TA;BA8=2NA;2NNNA;2PA;BAE=2MA;2YA;2RA;2RRA;2LA;2LLA;2LLLA",
   "BB5=0TAMIL LETTER VA;2SHA;2SSA;2SA;2HA;BBE=1VOWEL SIGN AA;3I;3II;3U;3UU;BC6=3E;3EE;3AI;BCA=3O",
   "BCB=0TAMIL VOWEL SIGN OO;3AU;1SIGN VIRAMA;BD0=1OM;BD7=1AU LENGTH MARK;BE6=1DIGIT ZERO;2ONE",
   "BE8=0TAMIL DIGIT TWO;2THREE;2FOUR;2FIVE;2SIX;2SEVEN;2EIGHT;2NINE;1NUMBER TEN;2ONE HUNDRED",
   "BF2=0TAMIL NUMBER ONE THOUSAND;1DAY SIGN;1MONTH SIGN;1YEAR SIGN;1DEBIT SIGN;1CREDIT SIGN",
   "BF8=0TAMIL AS ABOVE SIGN;1RUPEE SIGN;1NUMBER SIGN",
   "C00=0TELUGU SIGN COMBINING CANDRABINDU ABOVE;2CANDRABINDU;2ANUSVARA;2VISARGA",
   "C04=0TELUGU SIGN COMBINING ANUSVARA ABOVE;1LETTER A;2AA;2I;2II;2U;2UU;2VOCALIC R;3L;C0E=2E",
   "C0F=0TELUGU LETTER EE;2AI;C12=2O;2OO;2AU;2KA;2KHA;2GA;2GHA;2NGA;2CA;2CHA;2JA;2JHA;2NYA;2TTA",
   "C20=0TELUGU LETTER TTHA;2DDA;2DDHA;2NNA;2TA;2THA;2DA;2DHA;2NA;C2A=2PA;2PHA;2BA;2BHA;2MA;2YA",
   "C30=0TELUGU LETTER RA;2RRA;2LA;2LLA;2LLLA;2VA;2SHA;2SSA;2SA;2HA;C3C=1SIGN NUKTA;2AVAGRAHA",
   "C3E=0TELUGU VOWEL SIGN AA;3I;3II;3U;3UU;3VOCALIC R;4RR;C46=3E;3EE;3AI;C4A=3O;3OO;3AU",
   "C4D=0TELUGU SIGN VIRAMA;C55=1LENGTH MARK;1AI LENGTH MARK;C58=1LETTER TSA;2DZA;2RRRA",
   "C5D=0TELUGU LETTER NAKAARA POLLU;C60=2VOCALIC RR;3LL;1VOWEL SIGN VOCALIC L;4LL",
   "C66=0TELUGU DIGIT ZERO;2ONE;2TWO;2THREE;2FOUR;2FIVE;2SIX;2SEVEN;2EIGHT;2NINE",
   "C77=0TELUGU SIGN SIDDHAM;1FRACTION DIGIT ZERO FOR ODD POWERS OF FOUR",
   "C79=0TELUGU FRACTION DIGIT ONE FOR ODD POWERS OF FOUR;3TWO FOR ODD POWERS OF FOUR",
   "C7B=0TELUGU FRACTION DIGIT THREE FOR ODD POWERS OF FOUR;3ONE FOR EVEN POWERS OF FOUR",
   "C7D=0TELUGU FRACTION DIGIT TWO FOR EVEN POWERS OF FOUR;3THREE FOR EVEN POWERS OF FOUR",
   "C7F=0TELUGU SIGN TUUMU;0KANNADA SIGN SPACING CANDRABINDU;2CANDRABINDU;2ANUSVARA;2VISARGA",
   "C84=0KANNADA SIGN SIDDHAM;1LETTER A;2AA;2I;2II;2U;2UU;2VOCALIC R;3L;C8E=2E;2EE;2AI;C92=2O;2OO",
   "C94=0KANNADA LETTER AU;2KA;2KHA;2GA;2GHA;2NGA;2CA;2CHA;2JA;2JHA;2NYA;2TTA;2TTHA;2DDA;2DDHA",
   "CA3=0KANNADA LETTER NNA;2TA;2THA;2DA;2DHA;2NA;CAA=2PA;2PHA;2BA;2BHA;2MA;2YA;2RA;2RRA;2LA;2LLA",
   "CB5=0KANNADA LETTER VA;2SHA;2SSA;2SA;2HA;CBC=1SIGN NUKTA;2AVAGRAHA;1VOWEL SIGN AA;3I;3II;3U",
   "CC2=0KANNADA VOWEL SIGN UU;3VOCALIC R;4RR;CC6=3E;3EE;3AI;CCA=3O;3OO;3AU;1SIGN VIRAMA",
   "CD5=0KANNADA LENGTH MARK;1AI LENGTH MARK;CDD=1LETTER NAKAARA POLLU;2FA;CE0=2VOCALIC RR;3LL",
   "CE2=0KANNADA VOWEL SIGN VOCALIC L;4LL;CE6=1DIGIT ZERO;2ONE;2TWO;2THREE;2FOUR;2FIVE;2SIX",
   "CED=0KANNADA DIGIT SEVEN;2EIGHT;2NINE;CF1=1SIGN JIHVAMULIYA;2UPADHMANIYA",
   "CF3=0KANNADA SIGN COMBINING ANUSVARA ABOVE RIGHT;D00=0MALAYALAM SIGN COMBINING ANUSVARA ABOVE",
   "D01=0MALAYALAM SIGN CANDRABINDU;2ANUSVARA;2VISARGA;1LETTER VEDIC ANUSVARA;2A;2AA;2I;2II;2U",
   "D0A=0MALAYALAM LETTER UU;2VOCALIC R;3L;D0E=2E;2EE;2AI;D12=2O;2OO;2AU;2KA;2KHA;2GA;2GHA;2NGA",
   "D1A=0MALAYALAM LETTER CA;2CHA;2JA;2JHA;2NYA;2TTA;2TTHA;2DDA;2DDHA;2NNA;2TA;2THA;2DA;2DHA;2NA",
   "D29=0MALAYALAM LETTER NNNA;2PA;2PHA;2BA;2BHA;2MA;2YA;2RA;2RRA;2LA;2LLA;2LLLA;2VA;2SHA;2SSA",
   "D38=0MALAYALAM LETTER SA;2HA;2TTTA;1SIGN VERTICAL BAR VIRAMA;2CIRCULAR VIRAMA;2AVAGRAHA",
   "D3E=0MALAYALAM VOWEL SIGN AA;3I;3II;3U;3UU;3VOCALIC R;4RR;D46=3E;3EE;3AI;D4A=3O;3OO;3AU",
   "D4D=0MALAYALAM SIGN VIRAMA;1LETTER DOT REPH;1SIGN PARA;D54=1LETTER CHILLU M;3Y;3LLL",
   "D57=0MALAYALAM AU LENGTH MARK;1FRACTION ONE ONE-HUNDRED-AND-SIXTIETH;3FORTIETH",
   "D5A=0MALAYALAM FRACTION THREE EIGHTIETHS;2ONE TWENTIETH;3TENTH;2THREE TWENTIETHS;2ONE FIFTH",
   "D5F=0MALAYALAM LETTER ARCHAIC II;2VOCALIC RR;3LL;1VOWEL SIGN VOCALIC L;4LL;D66=1DIGIT ZERO",
   "D67=0MALAYALAM DIGIT ONE;2TWO;2THREE;2FOUR;2FIVE;2SIX;2SEVEN;2EIGHT;2NINE;1NUMBER TEN",
   "D71=0MALAYALAM NUMBER ONE HUNDRED;3THOUSAND;1FRACTION ONE QUARTER;3HALF;2THREE QUARTERS",
   "D76=0MALAYALAM FRACTION ONE SIXTEENTH;3EIGHTH;2THREE SIXTEENTHS;1DATE MARK;1LETTER CHILLU NN",
   "D7B=0MALAYALAM LETTER CHILLU N;3RR;3L;3LL;3K;D81=0SINHALA SIGN CANDRABINDU;2ANUSVARAYA",
   "D83=0SINHALA SIGN VISARGAYA;D85=1LETTER AYANNA;2AAYANNA;2AEYANNA;2AEEYANNA;2IYANNA;2IIYANNA",
   "D8B=0SINHALA LETTER UYANNA;2UUYANNA;2IRUYANNA;2IRUUYANNA;2ILUYANNA;2ILUUYANNA;2EYANNA",
   "D92=0SINHALA LETTER EEYANNA;2AIYANNA;2OYANNA;2OOYANNA;2AUYANNA;D9A=2ALPAPRAANA KAYANNA",
   "D9B=0SINHALA LETTER MAHAAPRAANA KAYANNA;2ALPAPRAANA GAYANNA;2MAHAAPRAANA GAYANNA",
   "D9E=0SINHALA LETTER KANTAJA NAASIKYAYA;2SANYAKA GAYANNA;2ALPAPRAANA CAYANNA",
   "DA1=0SINHALA LETTER MAHAAPRAANA CAYANNA;2ALPAPRAANA JAYANNA;2MAHAAPRAANA JAYANNA",
   "DA4=0SINHALA LETTER TAALUJA NAASIKYAYA;3SANYOOGA NAAKSIKYAYA;2SANYAKA JAYANNA",
   "DA7=0SINHALA LETTER ALPAPRAANA TTAYANNA;2MAHAAPRAANA TTAYANNA;2ALPAPRAANA DDAYANNA",
   "DAA=0SINHALA LETTER MAHAAPRAANA DDAYANNA;2MUURDHAJA NAYANNA;2SANYAKA DDAYANNA",
   "DAD=0SINHALA LETTER ALPAPRAANA TAYANNA;2MAHAAPRAANA TAYANNA;2ALPAPRAANA DAYANNA",
   "DB0=0SINHALA LETTER MAHAAPRAANA DAYANNA;2DANTAJA NAYANNA;DB3=2SANYAKA DAYANNA",
   "DB4=0SINHALA LETTER ALPAPRAANA PAYANNA;2MAHAAPRAANA PAYANNA;2ALPAPRAANA BAYANNA",
   "DB7=0SINHALA LETTER MAHAAPRAANA BAYANNA;2MAYANNA;2AMBA BAYANNA;2YAYANNA;2RAYANNA",
   "DBD=0SINHALA LETTER DANTAJA LAYANNA;DC0=2VAYANNA;2TAALUJA SAYANNA;2MUURDHAJA SAYANNA",
   "DC3=0SINHALA LETTER DANTAJA SAYANNA;2HAYANNA;2MUURDHAJA LAYANNA;2FAYANNA;DCA=1SIGN AL-LAKUNA",
   "DCF=0SINHALA VOWEL SIGN AELA-PILLA;3KETTI AEDA-PILLA;3DIGA AEDA-PILLA;3KETTI IS-PILLA",
   "DD3=0SINHALA VOWEL SIGN DIGA IS-PILLA;3KETTI PAA-PILLA;DD6=3DIGA PAA-PILLA;DD8=3GAETTA-PILLA",
   "DD9=0SINHALA VOWEL SIGN KOMBUVA;3DIGA KOMBUVA;3KOMBU DEKA;3KOMBUVA HAA AELA-PILLA",
   "DDD=0SINHALA VOWEL SIGN KOMBUVA HAA DIGA AELA-PILLA;5GAYANUKITTA;3GAYANUKITTA",
   "DE6=0SINHALA LITH DIGIT ZERO;3ONE;3TWO;3THREE;3FOUR;3FIVE;3SIX;3SEVEN;3EIGHT;3NINE",
   "DF2=0SINHALA VOWEL SIGN DIGA GAETTA-PILLA;4GAYANUKITTA;1PUNCTUATION KUNDDALIYA",
   "E01=0THAI CHARACTER KO KAI;2KHO KHAI;3KHUAT;3KHWAI;3KHON;3RAKHANG;2NGO NGU;2CHO CHAN;3CHING",
   "E0A=0THAI CHARACTER CHO CHANG;2SO SO;2CHO CHOE;2YO YING;2DO CHADA;2TO PATAK;2THO THAN",
   "E11=0THAI CHARACTER THO NANGMONTHO;3PHUTHAO;2NO NEN;2DO DEK;2TO TAO;2THO THUNG;3THAHAN;3THONG",
   "E19=0THAI CHARACTER NO NU;2BO BAIMAI;2PO PLA;2PHO PHUNG;2FO FA;2PHO PHAN;2FO FAN;2PHO SAMPHAO",
   "E21=0THAI CHARACTER MO MA;2YO YAK;2RO RUA;2RU;2LO LING;2LU;2WO WAEN;2SO SALA;3RUSI;3SUA",
   "E2B=0THAI CHARACTER HO HIP;2LO CHULA;2O ANG;2HO NOKHUK;2PAIYANNOI;2SARA A;2MAI HAN-AKAT",
   "E32=0THAI CHARACTER SARA AA;3AM;3I;3II;3UE;3UEE;3U;3UU;2PHINTHU;E3F=1CURRENCY SYMBOL BAHT",
   "E40=0THAI CHARACTER SARA E;3AE;3O;3AI MAIMUAN;4MAIMALAI;2LAKKHANGYAO;2MAIYAMOK;2MAITAIKHU",
   "E48=0THAI CHARACTER MAI EK;3THO;3TRI;3CHATTAWA;2THANTHAKHAT;2NIKHAHIT;2YAMAKKAN;2FONGMAN",
   "E50=0THAI DIGIT ZERO;2ONE;2TWO;2THREE;2FOUR;2FIVE;2SIX;2SEVEN;2EIGHT;2NINE",
   "E5A=0THAI CHARACTER ANGKHANKHU;2KHOMUT;E81=0LAO LETTER KO;2KHO SUNG;E84=3TAM;E86=2PALI GHA",
   "E87=0LAO LETTER NGO;2CO;2PALI CHA;2SO TAM;E8C=2PALI JHA;2NYO;2PALI NYA;3TTA;3TTHA;3DDA;3DDHA",
   "E93=0LAO LETTER PALI NNA;2DO;2TO;2THO SUNG;3TAM;2PALI DHA;2NO;2BO;2PO;2PHO SUNG;2FO TAM",
   "E9E=0LAO LETTER PHO TAM;2FO SUNG;2PALI BHA;2MO;2YO;2LO LING;EA5=3LOOT;EA7=2WO;2SANSKRIT SHA",
   "EA9=0LAO LETTER SANSKRIT SSA;2SO SUNG;2HO SUNG;2PALI LLA;2O;2HO TAM;1ELLIPSIS;1VOWEL SIGN A",
   "EB1=0LAO VOWEL SIGN MAI KAN;3AA;3AM;3I;3II;3Y;3YY;3U;3UU;1SIGN PALI VIRAMA",
   "EBB=0LAO VOWEL SIGN MAI KON;1SEMIVOWEL SIGN LO;3NYO;EC0=1VOWEL SIGN E;3EI;3O;3AY;3AI",
   "EC6=0LAO KO LA;EC8=1TONE MAI EK;3THO;3TI;3CATAWA;1CANCELLATION MARK;1NIGGAHITA;1YAMAKKAN",
   "ED0=0LAO DIGIT ZERO;2ONE;2TWO;2THREE;2FOUR;2FIVE;2SIX;2SEVEN;2EIGHT;2NINE;EDC=1HO NO;2MO",
   "EDE=0LAO LETTER KHMU GO;3NYO;F00=0TIBETAN SYLLABLE OM;1MARK GTER YIG MGO TRUNCATED A",
   "F02=0TIBETAN MARK GTER YIG MGO -UM RNAM BCAD MA;6GTER TSHEG MA;2INITIAL YIG MGO MDUN MA",
   "F05=0TIBETAN MARK CLOSING YIG MGO SGAB MA;2CARET YIG MGO PHUR SHAD MA;2YIG MGO TSHEG SHAD MA",
   "F08=0TIBETAN MARK SBRUL SHAD;2BSKUR YIG MGO;2BKA- SHOG YIG MGO;2INTERSYLLABIC TSHEG",
   "F0C=0TIBETAN MARK DELIMITER TSHEG BSTAR;2SHAD;2NYIS SHAD;2TSHEG SHAD;2NYIS TSHEG SHAD",
   "F11=0TIBETAN MARK RIN CHEN SPUNGS SHAD;2RGYA GRAM SHAD;2CARET -DZUD RTAGS ME LONG CAN",
   "F14=0TIBETAN MARK GTER TSHEG;1LOGOTYPE SIGN CHAD RTAGS;3LHAG RTAGS",
   "F17=0TIBETAN ASTROLOGICAL SIGN SGRA GCAN -CHAR RTAGS;3-KHYUD PA;3SDONG TSHUGS",
   "F1A=0TIBETAN SIGN RDEL DKAR GCIG;4GNYIS;4GSUM;3NAG GCIG;4GNYIS;3DKAR RDEL NAG;1DIGIT ZERO",
   "F21=0TIBETAN DIGIT ONE;2TWO;2THREE;2FOUR;2FIVE;2SIX;2SEVEN;2EIGHT;2NINE;2HALF ONE;3TWO;3THREE",
   "F2D=0TIBETAN DIGIT HALF FOUR;3FIVE;3SIX;3SEVEN;3EIGHT;3NINE;3ZERO;1MARK BSDUS RTAGS",
   "F35=0TIBETAN MARK NGAS BZUNG NYI ZLA;2CARET -DZUD RTAGS BZHI MIG CAN;2NGAS BZUNG SGOR RTAGS",
   "F38=0TIBETAN MARK CHE MGO;2TSA -PHRU;2GUG RTAGS GYON;4GYAS;2ANG KHANG GYON;4GYAS",
   "F3E=0TIBETAN SIGN YAR TSHES;2MAR TSHES;1LETTER KA;2KHA;2GA;2GHA;2NGA;2CA;2CHA;2JA;F49=2NYA",
   "F4A=0TIBETAN LETTER TTA;2TTHA;2DDA;2DDHA;2NNA;2TA;2THA;2DA;2DHA;2NA;2PA;2PHA;2BA;2BHA;2MA",
   "F59=0TIBETAN LETTER TSA;2TSHA;2DZA;2DZHA;2WA;2ZHA;2ZA;2-A;2YA;2RA;2LA;2SHA;2SSA;2SA;2HA;2A",
   "F69=0TIBETAN LETTER KSSA;2FIXED-FORM RA;2KKA;2RRA;F71=1VOWEL SIGN AA;3I;3II;3U;3UU;3VOCALIC R",
   "F77=0TIBETAN VOWEL SIGN VOCALIC RR;4L;4LL;3E;3EE;3O;3OO;1SIGN RJES SU NGA RO;2RNAM BCAD",
   "F80=0TIBETAN VOWEL SIGN REVERSED I;4II;1SIGN NYI ZLA NAA DA;2SNA LDAN;1MARK HALANTA;2PALUTA",
   "F86=0TIBETAN SIGN LCI RTAGS;2YANG RTAGS;2LCE TSA CAN;2MCHU CAN;2GRU CAN RGYINGS;3MED RGYINGS",
   "F8C=0TIBETAN SIGN INVERTED MCHU CAN;1SUBJOINED SIGN LCE TSA CAN;3MCHU CAN;3INVERTED MCHU CAN",
   "F90=0TIBETAN SUBJOINED LETTER KA;3KHA;3GA;3GHA;3NGA;3CA;3CHA;3JA;F99=3NYA;3TTA;3TTHA;3DDA",
   "F9D=0TIBETAN SUBJOINED LETTER DDHA;3NNA;3TA;3THA;3DA;3DHA;3NA;3PA;3PHA;3BA;3BHA;3MA;3TSA",
   "FAA=0TIBETAN SUBJOINED LETTER TSHA;3DZA;3DZHA;3WA;3ZHA;3ZA;3-A;3YA;3RA;3LA;3SHA;3SSA;3SA;3HA",
   "FB8=0TIBETAN SUBJOINED LETTER A;3KSSA;3FIXED-FORM WA;4YA;4RA;FBE=1KU RU KHA;4BZHI MIG CAN",
   "FC0=0TIBETAN CANTILLATION SIGN HEAVY BEAT;3LIGHT BEAT;3CANG TE-U;3SBUB -CHAL;1SYMBOL DRIL BU",
   "FC5=0TIBETAN SYMBOL RDO RJE;2PADMA GDAN;2RDO RJE RGYA GRAM;2PHUR PA;2NOR BU;4NYIS -KHYIL",
   "FCB=0TIBETAN SYMBOL NOR BU GSUM -KHYIL;4BZHI -KHYIL;FCE=1SIGN RDEL NAG RDEL DKAR;4GSUM",
   "FD0=0TIBETAN MARK BSKA- SHOG GI MGO RGYAN;2MNYAM YIG GI MGO RGYAN;2NYIS TSHEG",
   "FD3=0TIBETAN MARK INITIAL BRDA RNYING YIG MGO MDUN MA;2CLOSING BRDA RNYING YIG MGO SGAB MA",
   "FD5=0RIGHT-FACING SVASTI SIGN;0LEFT-FACING SVASTI SIGN;0RIGHT-FACING SVASTI SIGN WITH DOTS",
   "FD8=0LEFT-FACING SVASTI SIGN WITH DOTS;0TIBETAN MARK LEADING MCHAN RTAGS",
   "FDA=0TIBETAN MARK TRAILING MCHAN RTAGS"]

end Signpost.Text.CharacterName
