namespace Signpost.Text.CharacterName

-- Rows of names. A code with an equals sign goes before a name that does not follow its
-- predecessor; the digit says how many words are taken over from the name before.
def ancient : List String :=
  ["10000=0LINEAR B SYLLABLE B008 A;3B038 E;3B028 I;3B061 O;3B010 U;3B001 DA;3B045 DE;3B007 DI",
   "10008=0LINEAR B SYLLABLE B014 DO;3B051 DU;3B057 JA;3B046 JE;1000D=3B036 JO;3B065 JU;3B077 KA",
   "10010=0LINEAR B SYLLABLE B044 KE;3B067 KI;3B070 KO;3B081 KU;3B080 MA;3B013 ME;3B073 MI",
   "10017=0LINEAR B SYLLABLE B015 MO;3B023 MU;3B006 NA;3B024 NE;3B030 NI;3B052 NO;3B055 NU",
   "1001E=0LINEAR B SYLLABLE B003 PA;3B072 PE;3B039 PI;3B011 PO;3B050 PU;3B016 QA;3B078 QE",
   "10025=0LINEAR B SYLLABLE B021 QI;3B032 QO;10028=3B060 RA;3B027 RE;3B053 RI;3B002 RO;3B026 RU",
   "1002D=0LINEAR B SYLLABLE B031 SA;3B009 SE;3B041 SI;3B012 SO;3B058 SU;3B059 TA;3B004 TE",
   "10034=0LINEAR B SYLLABLE B037 TI;3B005 TO;3B069 TU;3B054 WA;3B075 WE;3B040 WI;3B042 WO",
   "1003C=0LINEAR B SYLLABLE B017 ZA;3B074 ZE;1003F=3B020 ZO;3B025 A2;3B043 A3;3B085 AU;3B071 DWE",
   "10044=0LINEAR B SYLLABLE B090 DWO;3B048 NWA;3B029 PU2;3B062 PTE;3B076 RA2;3B033 RA3;3B068 RO2",
   "1004B=0LINEAR B SYLLABLE B066 TA2;3B087 TWE;3B091 TWO;10050=2SYMBOL B018;3B019;3B022;3B034",
   "10054=0LINEAR B SYMBOL B047;3B049;3B056;3B063;3B064;3B079;3B082;3B083;3B086;3B089",
   "10080=0LINEAR B IDEOGRAM B100 MAN;3B102 WOMAN;3B104 DEER;3B105 EQUID;3B105F MARE",
   "10085=0LINEAR B IDEOGRAM B105M STALLION;3B106F EWE;3B106M RAM;3B107F SHE-GOAT;3B107M HE-GOAT",
   "1008A=0LINEAR B IDEOGRAM B108F SOW;3B108M BOAR;3B109F COW;3B109M BULL;3B120 WHEAT",
   "1008F=0LINEAR B IDEOGRAM B121 BARLEY;3B122 OLIVE;3B123 SPICE;3B125 CYPERUS",
   "10093=0LINEAR B MONOGRAM B127 KAPO;3B128 KANAKO;2IDEOGRAM B130 OIL;3B131 WINE;3B132",
   "10098=0LINEAR B MONOGRAM B133 AREPA;3B135 MERI;2IDEOGRAM B140 BRONZE;3B141 GOLD;3B142",
   "1009D=0LINEAR B IDEOGRAM B145 WOOL;3B146;3B150;3B151 HORN;3B152;3B153;3B154",
   "100A4=0LINEAR B MONOGRAM B156 TURO2;2IDEOGRAM B157;3B158;3B159 CLOTH;3B160;3B161",
   "100AA=0LINEAR B IDEOGRAM B162 GARMENT;3B163 ARMOUR;3B164;3B165;3B166;3B167;3B168;3B169;3B170",
   "100B3=0LINEAR B IDEOGRAM B171;3B172;3B173 MONTH;3B174;3B176 TREE;3B177;3B178;3B179;3B180",
   "100BC=0LINEAR B IDEOGRAM B181;3B182;3B183;3B184;3B185;3B189;3B190;3B191 HELMET",
   "100C4=0LINEAR B IDEOGRAM B220 FOOTSTOOL;3B225 BATHTUB;3B230 SPEAR;3B231 ARROW;3B232",
   "100C9=0LINEAR B IDEOGRAM B233 SWORD;3B234;3B236;3B240 WHEELED CHARIOT;3B241 CHARIOT",
   "100CE=0LINEAR B IDEOGRAM B242 CHARIOT FRAME;3B243 WHEEL;3B245;3B246;2MONOGRAM B247 DIPTE",
   "100D3=0LINEAR B IDEOGRAM B248;3B249;3B251;3B252;3B253;3B254 DART;3B255;3B256;3B257;3B258",
   "100DD=0LINEAR B IDEOGRAM B259;3VESSEL B155;4B200;4B201;4B202;4B203;4B204;4B205;4B206;4B207",
   "100E7=0LINEAR B IDEOGRAM VESSEL B208;4B209;4B210;4B211;4B212;4B213;4B214;4B215;4B216;4B217",
   "100F1=0LINEAR B IDEOGRAM VESSEL B218;4B219;4B221;4B222;4B226;4B227;4B228;4B229;4B250;4B305",
   "10100=0AEGEAN WORD SEPARATOR LINE;3DOT;1CHECK MARK;10107=1NUMBER ONE;2TWO;2THREE;2FOUR;2FIVE",
   "1010C=0AEGEAN NUMBER SIX;2SEVEN;2EIGHT;2NINE;2TEN;2TWENTY;2THIRTY;2FORTY;2FIFTY;2SIXTY",
   "10116=0AEGEAN NUMBER SEVENTY;2EIGHTY;2NINETY;2ONE HUNDRED;2TWO HUNDRED;2THREE HUNDRED",
   "1011C=0AEGEAN NUMBER FOUR HUNDRED;2FIVE HUNDRED;2SIX HUNDRED;2SEVEN HUNDRED;2EIGHT HUNDRED",
   "10121=0AEGEAN NUMBER NINE HUNDRED;2ONE THOUSAND;2TWO THOUSAND;2THREE THOUSAND;2FOUR THOUSAND",
   "10126=0AEGEAN NUMBER FIVE THOUSAND;2SIX THOUSAND;2SEVEN THOUSAND;2EIGHT THOUSAND",
   "1012A=0AEGEAN NUMBER NINE THOUSAND;2TEN THOUSAND;2TWENTY THOUSAND;2THIRTY THOUSAND",
   "1012E=0AEGEAN NUMBER FORTY THOUSAND;2FIFTY THOUSAND;2SIXTY THOUSAND;2SEVENTY THOUSAND",
   "10132=0AEGEAN NUMBER EIGHTY THOUSAND;2NINETY THOUSAND;10137=1WEIGHT BASE UNIT;2FIRST SUBUNIT",
   "10139=0AEGEAN WEIGHT SECOND SUBUNIT;2THIRD SUBUNIT;2FOURTH SUBUNIT;1DRY MEASURE FIRST SUBUNIT",
   "1013D=0AEGEAN LIQUID MEASURE FIRST SUBUNIT;1MEASURE SECOND SUBUNIT;2THIRD SUBUNIT",
   "10140=0GREEK ACROPHONIC ATTIC ONE QUARTER;4HALF;4DRACHMA;3FIVE;3FIFTY;3FIVE HUNDRED;4THOUSAND",
   "10147=0GREEK ACROPHONIC ATTIC FIFTY THOUSAND;3FIVE TALENTS;3TEN TALENTS;3FIFTY TALENTS",
   "1014B=0GREEK ACROPHONIC ATTIC ONE HUNDRED TALENTS;3FIVE HUNDRED TALENTS;3ONE THOUSAND TALENTS",
   "1014E=0GREEK ACROPHONIC ATTIC FIVE THOUSAND TALENTS;4STATERS;3TEN STATERS;3FIFTY STATERS",
   "10152=0GREEK ACROPHONIC ATTIC ONE HUNDRED STATERS;3FIVE HUNDRED STATERS;3ONE THOUSAND STATERS",
   "10155=0GREEK ACROPHONIC ATTIC TEN THOUSAND STATERS;3FIFTY THOUSAND STATERS;3TEN MNAS",
   "10158=0GREEK ACROPHONIC HERAEUM ONE PLETHRON;2THESPIAN ONE;2HERMIONIAN ONE;2EPIDAUREAN TWO",
   "1015C=0GREEK ACROPHONIC THESPIAN TWO;2CYRENAIC TWO DRACHMAS;2EPIDAUREAN TWO DRACHMAS",
   "1015F=0GREEK ACROPHONIC TROEZENIAN FIVE;3TEN;4ALTERNATE FORM;2HERMIONIAN TEN;2MESSENIAN TEN",
   "10164=0GREEK ACROPHONIC THESPIAN TEN;3THIRTY;2TROEZENIAN FIFTY;4ALTERNATE FORM",
   "10168=0GREEK ACROPHONIC HERMIONIAN FIFTY;2THESPIAN FIFTY;3ONE HUNDRED;3THREE HUNDRED",
   "1016C=0GREEK ACROPHONIC EPIDAUREAN FIVE HUNDRED;2TROEZENIAN FIVE HUNDRED",
   "1016E=0GREEK ACROPHONIC THESPIAN FIVE HUNDRED;2CARYSTIAN FIVE HUNDRED;2NAXIAN FIVE HUNDRED",
   "10171=0GREEK ACROPHONIC THESPIAN ONE THOUSAND;3FIVE THOUSAND;2DELPHIC FIVE MNAS",
   "10174=0GREEK ACROPHONIC STRATIAN FIFTY MNAS;1ONE HALF SIGN;4ALTERNATE FORM;1TWO THIRDS SIGN",
   "10178=0GREEK THREE QUARTERS SIGN;1YEAR SIGN;1TALENT SIGN;1DRACHMA SIGN;1OBOL SIGN",
   "1017D=0GREEK TWO OBOLS SIGN;1THREE OBOLS SIGN;1FOUR OBOLS SIGN;1FIVE OBOLS SIGN",
   "10181=0GREEK METRETES SIGN;1KYATHOS BASE SIGN;1LITRA SIGN;1OUNKIA SIGN;1XESTES SIGN",
   "10186=0GREEK ARTABE SIGN;1AROURA SIGN;1GRAMMA SIGN;1TRYBLION BASE SIGN;1ZERO SIGN",
   "1018B=0GREEK ONE QUARTER SIGN;1SINUSOID SIGN;1INDICTION SIGN;0NOMISMA SIGN",
   "10190=0ROMAN SEXTANS SIGN;1UNCIA SIGN;1SEMUNCIA SIGN;1SEXTULA SIGN;1DIMIDIA SEXTULA SIGN",
   "10195=0ROMAN SILIQUA SIGN;1DENARIUS SIGN;1QUINARIUS SIGN;1SESTERTIUS SIGN;1DUPONDIUS SIGN",
   "1019A=0ROMAN AS SIGN;1CENTURIAL SIGN;0ASCIA SYMBOL;101A0=0GREEK SYMBOL TAU RHO",
   "101D0=0PHAISTOS DISC SIGN PEDESTRIAN;3PLUMED HEAD;3TATTOOED HEAD;3CAPTIVE;3CHILD;3WOMAN",
   "101D6=0PHAISTOS DISC SIGN HELMET;3GAUNTLET;3TIARA;3ARROW;3BOW;3SHIELD;3CLUB;3MANACLES",
   "101DE=0PHAISTOS DISC SIGN MATTOCK;3SAW;3LID;3BOOMERANG;3CARPENTRY PLANE;3DOLIUM;3COMB;3SLING",
   "101E6=0PHAISTOS DISC SIGN COLUMN;3BEEHIVE;3SHIP;3HORN;3HIDE;3BULLS LEG;3CAT;3RAM;3EAGLE;3DOVE",
   "101F0=0PHAISTOS DISC SIGN TUNNY;3BEE;3PLANE TREE;3VINE;3PAPYRUS;3ROSETTE;3LILY;3OX BACK",
   "101F8=0PHAISTOS DISC SIGN FLUTE;3GRATER;3STRAINER;3SMALL AXE;3WAVY BAND",
   "101FD=0PHAISTOS DISC SIGN COMBINING OBLIQUE STROKE;10280=0LYCIAN LETTER A;2E;2B;2BH;2G;2D;2I",
   "10287=0LYCIAN LETTER W;2Z;2TH;2J;2K;2Q;2L;2M;2N;2MM;2NN;2U;2P;2KK;2R;2S;2T;2TT;2AN;2EN;2H;2X",
   "102A0=0CARIAN LETTER A;2P2;2D;2L;2UUU;2R;2LD;2A2;2Q;2B;2M;2O;2D2;2T;2SH;2SH2;2S;2C-18;2U;2NN",
   "102B4=0CARIAN LETTER X;2N;2TT2;2P;2SS;2I;2E;2UUUU;2K;2K2;2ND;2UU;2G;2G2;2ST;2ST2;2NG;2II",
   "102C6=0CARIAN LETTER C-39;2TT;2UUU2;2RR;2MB;2MB2;2MB3;2MB4;2LD2;2E2;2UUU3",
   "102E0=0COPTIC EPACT THOUSANDS MARK;2DIGIT ONE;3TWO;3THREE;3FOUR;3FIVE;3SIX;3SEVEN;3EIGHT",
   "102E9=0COPTIC EPACT DIGIT NINE;2NUMBER TEN;3TWENTY;3THIRTY;3FORTY;3FIFTY;3SIXTY;3SEVENTY",
   "102F1=0COPTIC EPACT NUMBER EIGHTY;3NINETY;3ONE HUNDRED;3TWO HUNDRED;3THREE HUNDRED",
   "102F6=0COPTIC EPACT NUMBER FOUR HUNDRED;3FIVE HUNDRED;3SIX HUNDRED;3SEVEN HUNDRED",
   "102FA=0COPTIC EPACT NUMBER EIGHT HUNDRED;3NINE HUNDRED;10300=0OLD ITALIC LETTER A;3BE;3KE;3DE",
   "10304=0OLD ITALIC LETTER E;3VE;3ZE;3HE;3THE;3I;3KA;3EL;3EM;3EN;3ESH;3O;3PE;3SHE;3KU;3ER;3ES",
   "10315=0OLD ITALIC LETTER TE;3U;3EKS;3PHE;3KHE;3EF;3ERS;3CHE;3II;3UU;3ESS;2NUMERAL ONE;3FIVE",
   "10322=0OLD ITALIC NUMERAL TEN;3FIFTY;1032D=2LETTER YE;3NORTHERN TSE;3SOUTHERN TSE",
   "10330=0GOTHIC LETTER AHSA;2BAIRKAN;2GIBA;2DAGS;2AIHVUS;2QAIRTHRA;2IUJA;2HAGL;2THIUTH;2EIS",
   "1033A=0GOTHIC LETTER KUSMA;2LAGUS;2MANNA;2NAUTHS;2JER;2URUS;2PAIRTHRA;2NINETY;2RAIDA;2SAUIL",
   "10344=0GOTHIC LETTER TEIWS;2WINJA;2FAIHU;2IGGWS;2HWAIR;2OTHAL;2NINE HUNDRED",
   "10350=0OLD PERMIC LETTER AN;3BUR;3GAI;3DOI;3E;3ZHOI;3DZHOI;3ZATA;3DZITA;3I;3KOKE;3LEI;3MENOE",
   "1035D=0OLD PERMIC LETTER NENOE;3VOOI;3PEEI;3REI;3SII;3TAI;3U;3CHERY;3SHOOI;3SHCHOOI;3YRY",
   "10368=0OLD PERMIC LETTER YERU;3O;3OO;3EF;3HA;3TSIU;3VER;3YER;3YERI;3YAT;3IE;3YU;3YA;3IA",
   "10376=0COMBINING OLD PERMIC LETTER AN;4DOI;4ZATA;4NENOE;4SII;10380=0UGARITIC LETTER ALPA",
   "10381=0UGARITIC LETTER BETA;2GAMLA;2KHA;2DELTA;2HO;2WO;2ZETA;2HOTA;2TET;2YOD;2KAF;2SHIN",
   "1038D=0UGARITIC LETTER LAMDA;2MEM;2DHAL;2NUN;2ZU;2SAMKA;2AIN;2PU;2SADE;2QOPA;2RASHA;2THANNA",
   "10399=0UGARITIC LETTER GHAIN;2TO;2I;2U;2SSU;1039F=1WORD DIVIDER;0OLD PERSIAN SIGN A;3I;3U;3KA",
   "103A4=0OLD PERSIAN SIGN KU;3GA;3GU;3XA;3CA;3JA;3JI;3TA;3TU;3DA;3DI;3DU;3THA;3PA;3BA;3FA;3NA",
   "103B5=0OLD PERSIAN SIGN NU;3MA;3MI;3MU;3YA;3VA;3VI;3RA;3RU;3LA;3SA;3ZA;3SHA;3SSA;3HA",
   "103C8=0OLD PERSIAN SIGN AURAMAZDAA;3AURAMAZDAA-2;3AURAMAZDAAHA;3XSHAAYATHIYA;3DAHYAAUSH",
   "103CD=0OLD PERSIAN SIGN DAHYAAUSH-2;3BAGA;3BUUMISH;2WORD DIVIDER;2NUMBER ONE;3TWO;3TEN",
   "103D4=0OLD PERSIAN NUMBER TWENTY;3HUNDRED;10400=0DESERET CAPITAL LETTER LONG I;4E;4A;4AH;4O",
   "10405=0DESERET CAPITAL LETTER LONG OO;3SHORT I;4E;4A;4AH;4O;4OO;3AY;3OW;3WU;3YEE;3H;3PEE;3BEE",
   "10413=0DESERET CAPITAL LETTER TEE;3DEE;3CHEE;3JEE;3KAY;3GAY;3EF;3VEE;3ETH;3THEE;3ES;3ZEE;3ESH",
   "10420=0DESERET CAPITAL LETTER ZHEE;3ER;3EL;3EM;3EN;3ENG;3OI;3EW;1SMALL LETTER LONG I;4E;4A",
   "1042B=0DESERET SMALL LETTER LONG AH;4O;4OO;3SHORT I;4E;4A;4AH;4O;4OO;3AY;3OW;3WU;3YEE;3H;3PEE",
   "1043A=0DESERET SMALL LETTER BEE;3TEE;3DEE;3CHEE;3JEE;3KAY;3GAY;3EF;3VEE;3ETH;3THEE;3ES;3ZEE",
   "10447=0DESERET SMALL LETTER ESH;3ZHEE;3ER;3EL;3EM;3EN;3ENG;3OI;3EW;0SHAVIAN LETTER PEEP;2TOT",
   "10452=0SHAVIAN LETTER KICK;2FEE;2THIGH;2SO;2SURE;2CHURCH;2YEA;2HUNG;2BIB;2DEAD;2GAG;2VOW",
   "1045E=0SHAVIAN LETTER THEY;2ZOO;2MEASURE;2JUDGE;2WOE;2HA-HA;2LOLL;2MIME;2IF;2EGG;2ASH;2ADO",
   "1046A=0SHAVIAN LETTER ON;2WOOL;2OUT;2AH;2ROAR;2NUN;2EAT;2AGE;2ICE;2UP;2OAK;2OOZE;2OIL;2AWE",
   "10478=0SHAVIAN LETTER ARE;2OR;2AIR;2ERR;2ARRAY;2EAR;2IAN;2YEW;0OSMANYA LETTER ALEF;2BA;2TA",
   "10483=0OSMANYA LETTER JA;2XA;2KHA;2DEEL;2RA;2SA;2SHIIN;2DHA;2CAYN;2GA;2FA;2QAAF;2KAAF;2LAAN",
   "10491=0OSMANYA LETTER MIIN;2NUUN;2WAW;2HA;2YA;2A;2E;2I;2O;2U;2AA;2EE;2OO;104A0=1DIGIT ZERO",
   "104A1=0OSMANYA DIGIT ONE;2TWO;2THREE;2FOUR;2FIVE;2SIX;2SEVEN;2EIGHT;2NINE",
   "104B0=0OSAGE CAPITAL LETTER A;3AI;3AIN;3AH;3BRA;3CHA;3EHCHA;3E;3EIN;3HA;3HYA;3I;3KA;3EHKA",
   "104BE=0OSAGE CAPITAL LETTER KYA;3LA;3MA;3NA;3O;3OIN;3PA;3EHPA;3SA;3SHA;3TA;3EHTA;3TSA;3EHTSA",
   "104CC=0OSAGE CAPITAL LETTER TSHA;3DHA;3U;3WA;3KHA;3GHA;3ZA;3ZHA;104D8=1SMALL LETTER A;3AI",
   "104DA=0OSAGE SMALL LETTER AIN;3AH;3BRA;3CHA;3EHCHA;3E;3EIN;3HA;3HYA;3I;3KA;3EHKA;3KYA;3LA;3MA",
   "104E9=0OSAGE SMALL LETTER NA;3O;3OIN;3PA;3EHPA;3SA;3SHA;3TA;3EHTA;3TSA;3EHTSA;3TSHA;3DHA;3U",
   "104F7=0OSAGE SMALL LETTER WA;3KHA;3GHA;3ZA;3ZHA;10500=0ELBASAN LETTER A;2BE;2CE;2CHE;2DE;2NDE",
   "10506=0ELBASAN LETTER DHE;2EI;2E;2FE;2GE;2GJE;2HE;2I;2JE;2KE;2LE;2LLE;2ME;2NE;2NA;2NJE;2O;2PE",
   "10518=0ELBASAN LETTER QE;2RE;2RRE;2SE;2SHE;2TE;2THE;2U;2VE;2XE;2Y;2ZE;2ZHE;2GHE;2GHAMMA;2KHE",
   "10530=0CAUCASIAN ALBANIAN LETTER ALT;3BET;3GIM;3DAT;3EB;3ZARL;3EYN;3ZHIL;3TAS;3CHA;3YOWD;3ZHA",
   "1053C=0CAUCASIAN ALBANIAN LETTER IRB;3SHA;3LAN;3INYA;3XEYN;3DYAN;3CAR;3JHOX;3KAR;3LYIT;3HEYT",
   "10547=0CAUCASIAN ALBANIAN LETTER QAY;3AOR;3CHOY;3CHI;3CYAY;3MAQ;3QAR;3NOWC;3DZYAY;3SHAK;3JAYN",
   "10552=0CAUCASIAN ALBANIAN LETTER ON;3TYAY;3FAM;3DZAY;3CHAT;3PEN;3GHEYS;3RAT;3SEYK;3VEYZ;3TIWR",
   "1055D=0CAUCASIAN ALBANIAN LETTER SHOY;3IWN;3CYAW;3CAYN;3YAYD;3PIWR;3KIW;1056F=2CITATION MARK",
   "10570=0VITHKUQI CAPITAL LETTER A;3BBE;3BE;3CE;3CHE;3DE;3DHE;3EI;3E;3FE;3GA;1057C=3HA;3HHA;3I",
   "1057F=0VITHKUQI CAPITAL LETTER IJE;3JE;3KA;3LA;3LLA;3ME;3NE;3NJE;3O;3PE;3QA;3RE;1058C=3SE",
   "1058D=0VITHKUQI CAPITAL LETTER SHE;3TE;3THE;3U;3VE;3XE;10594=3Y;3ZE;10597=1SMALL LETTER A",
   "10598=0VITHKUQI SMALL LETTER BBE;3BE;3CE;3CHE;3DE;3DHE;3EI;3E;3FE;3GA;105A3=3HA;3HHA;3I;3IJE",
   "105A7=0VITHKUQI SMALL LETTER JE;3KA;3LA;3LLA;3ME;3NE;3NJE;3O;3PE;3QA;3RE;105B3=3SE;3SHE;3TE",
   "105B6=0VITHKUQI SMALL LETTER THE;3U;3VE;3XE;105BB=3Y;3ZE;10600=0LINEAR A SIGN AB001;3AB002",
   "10602=0LINEAR A SIGN AB003;3AB004;3AB005;3AB006;3AB007;3AB008;3AB009;3AB010;3AB011;3AB013",
   "1060C=0LINEAR A SIGN AB016;3AB017;3AB020;3AB021;3AB021F;3AB021M;3AB022;3AB022F;3AB022M;3AB023",
   "10616=0LINEAR A SIGN AB023M;3AB024;3AB026;3AB027;3AB028;3A028B;3AB029;3AB030;3AB031;3AB034",
   "10620=0LINEAR A SIGN AB037;3AB038;3AB039;3AB040;3AB041;3AB044;3AB045;3AB046;3AB047;3AB048",
   "1062A=0LINEAR A SIGN AB049;3AB050;3AB051;3AB053;3AB054;3AB055;3AB056;3AB057;3AB058;3AB059",
   "10634=0LINEAR A SIGN AB060;3AB061;3AB065;3AB066;3AB067;3AB069;3AB070;3AB073;3AB074;3AB076",
   "1063E=0LINEAR A SIGN AB077;3AB078;3AB079;3AB080;3AB081;3AB082;3AB085;3AB086;3AB087;3A100-102",
   "10648=0LINEAR A SIGN AB118;3AB120;3A120B;3AB122;3AB123;3AB131A;3AB131B;3A131C;3AB164;3AB171",
   "10652=0LINEAR A SIGN AB180;3AB188;3AB191;3A301;3A302;3A303;3A304;3A305;3A306;3A307;3A308",
   "1065D=0LINEAR A SIGN A309A;3A309B;3A309C;3A310;3A311;3A312;3A313A;3A313B;3A313C;3A314;3A315",
   "10668=0LINEAR A SIGN A316;3A317;3A318;3A319;3A320;3A321;3A322;3A323;3A324;3A325;3A326;3A327",
   "10674=0LINEAR A SIGN A328;3A329;3A330;3A331;3A332;3A333;3A334;3A335;3A336;3A337;3A338;3A339",
   "10680=0LINEAR A SIGN A340;3A341;3A342;3A343;3A344;3A345;3A346;3A347;3A348;3A349;3A350;3A351",
   "1068C=0LINEAR A SIGN A352;3A353;3A354;3A355;3A356;3A357;3A358;3A359;3A360;3A361;3A362;3A363",
   "10698=0LINEAR A SIGN A364;3A365;3A366;3A367;3A368;3A369;3A370;3A371;3A400-VAS;3A401-VAS",
   "106A2=0LINEAR A SIGN A402-VAS;3A403-VAS;3A404-VAS;3A405-VAS;3A406-VAS;3A407-VAS;3A408-VAS",
   "106A9=0LINEAR A SIGN A409-VAS;3A410-VAS;3A411-VAS;3A412-VAS;3A413-VAS;3A414-VAS;3A415-VAS",
   "106B0=0LINEAR A SIGN A416-VAS;3A417-VAS;3A418-VAS;3A501;3A502;3A503;3A504;3A505;3A506;3A508",
   "106BA=0LINEAR A SIGN A509;3A510;3A511;3A512;3A513;3A515;3A516;3A520;3A521;3A523;3A524;3A525",
   "106C6=0LINEAR A SIGN A526;3A527;3A528;3A529;3A530;3A531;3A532;3A534;3A535;3A536;3A537;3A538",
   "106D2=0LINEAR A SIGN A539;3A540;3A541;3A542;3A545;3A547;3A548;3A549;3A550;3A551;3A552;3A553",
   "106DE=0LINEAR A SIGN A554;3A555;3A556;3A557;3A559;3A563;3A564;3A565;3A566;3A568;3A569;3A570",
   "106EA=0LINEAR A SIGN A571;3A572;3A573;3A574;3A575;3A576;3A577;3A578;3A579;3A580;3A581;3A582",
   "106F6=0LINEAR A SIGN A583;3A584;3A585;3A586;3A587;3A588;3A589;3A591;3A592;3A594;3A595;3A596",
   "10702=0LINEAR A SIGN A598;3A600;3A601;3A602;3A603;3A604;3A606;3A608;3A609;3A610;3A611;3A612",
   "1070E=0LINEAR A SIGN A613;3A614;3A615;3A616;3A617;3A618;3A619;3A620;3A621;3A622;3A623;3A624",
   "1071A=0LINEAR A SIGN A626;3A627;3A628;3A629;3A634;3A637;3A638;3A640;3A642;3A643;3A644;3A645",
   "10726=0LINEAR A SIGN A646;3A648;3A649;3A651;3A652;3A653;3A654;3A655;3A656;3A657;3A658;3A659",
   "10732=0LINEAR A SIGN A660;3A661;3A662;3A663;3A664;10740=3A701 A;3A702 B;3A703 D;3A704 E",
   "10744=0LINEAR A SIGN A705 F;3A706 H;3A707 J;3A708 K;3A709 L;3A709-2 L2;3A709-3 L3;3A709-4 L4",
   "1074C=0LINEAR A SIGN A709-6 L6;3A710 W;3A711 X;3A712 Y;3A713 OMEGA;3A714 ABB;3A715 BB",
   "10753=0LINEAR A SIGN A717 DD;3A726 EYYY;3A732 JE;10760=3A800;3A801;3A802;3A803;3A804;3A805",
   "10766=0LINEAR A SIGN A806;3A807;10780=0MODIFIER LETTER SMALL CAPITAL AA",
   "10781=0MODIFIER LETTER SUPERSCRIPT TRIANGULAR COLON;3HALF TRIANGULAR COLON;2SMALL AE",
   "10784=0MODIFIER LETTER SMALL CAPITAL B;3B WITH HOOK;10787=3DZ DIGRAPH;5WITH RETROFLEX HOOK",
   "10789=0MODIFIER LETTER SMALL DZ DIGRAPH WITH CURL;3DEZH DIGRAPH;3D WITH TAIL;5HOOK;6AND TAIL",
   "1078E=0MODIFIER LETTER SMALL REVERSED E;3CLOSED REVERSED OPEN E;3FENG DIGRAPH;3RAMS HORN",
   "10792=0MODIFIER LETTER SMALL CAPITAL G;3G WITH HOOK;3CAPITAL G WITH HOOK;3H WITH STROKE",
   "10796=0MODIFIER LETTER SMALL CAPITAL H;3HENG WITH HOOK;3DOTLESS J WITH STROKE AND HOOK",
   "10799=0MODIFIER LETTER SMALL LS DIGRAPH;3LZ DIGRAPH;3L WITH BELT;3CAPITAL L WITH BELT",
   "1079D=0MODIFIER LETTER SMALL L WITH RETROFLEX HOOK AND BELT;3LEZH;4WITH RETROFLEX HOOK",
   "107A0=0MODIFIER LETTER SMALL TURNED Y;5WITH BELT;3O WITH STROKE;3CAPITAL OE;3CLOSED OMEGA;3Q",
   "107A6=0MODIFIER LETTER SMALL TURNED R WITH LONG LEG;8AND RETROFLEX HOOK;3R WITH TAIL",
   "107A9=0MODIFIER LETTER SMALL R WITH FISHHOOK;3CAPITAL R;3TC DIGRAPH WITH CURL;3TS DIGRAPH",
   "107AD=0MODIFIER LETTER SMALL TS DIGRAPH WITH RETROFLEX HOOK;3TESH DIGRAPH",
   "107AF=0MODIFIER LETTER SMALL T WITH RETROFLEX HOOK;3V WITH RIGHT HOOK;107B2=3CAPITAL Y",
   "107B3=0MODIFIER LETTER GLOTTAL STOP WITH STROKE;2REVERSED GLOTTAL STOP WITH STROKE",
   "107B5=0MODIFIER LETTER BILABIAL CLICK;2DENTAL CLICK;2LATERAL CLICK;2ALVEOLAR CLICK",
   "107B9=0MODIFIER LETTER RETROFLEX CLICK WITH RETROFLEX HOOK;2SMALL S WITH CURL",
   "10800=0CYPRIOT SYLLABLE A;2E;2I;2O;2U;2JA;10808=2JO;1080A=2KA;2KE;2KI;2KO;2KU;2LA;2LE;2LI;2LO",
   "10813=0CYPRIOT SYLLABLE LU;2MA;2ME;2MI;2MO;2MU;2NA;2NE;2NI;2NO;2NU;2PA;2PE;2PI;2PO;2PU;2RA",
   "10824=0CYPRIOT SYLLABLE RE;2RI;2RO;2RU;2SA;2SE;2SI;2SO;2SU;2TA;2TE;2TI;2TO;2TU;2WA;2WE;2WI",
   "10835=0CYPRIOT SYLLABLE WO;10837=2XA;2XE;1083C=2ZA;1083F=2ZO;0IMPERIAL ARAMAIC LETTER ALEPH",
   "10841=0IMPERIAL ARAMAIC LETTER BETH;3GIMEL;3DALETH;3HE;3WAW;3ZAYIN;3HETH;3TETH;3YODH;3KAPH",
   "1084B=0IMPERIAL ARAMAIC LETTER LAMEDH;3MEM;3NUN;3SAMEKH;3AYIN;3PE;3SADHE;3QOPH;3RESH;3SHIN",
   "10855=0IMPERIAL ARAMAIC LETTER TAW;10857=2SECTION SIGN;2NUMBER ONE;3TWO;3THREE;3TEN;3TWENTY",
   "1085D=0IMPERIAL ARAMAIC NUMBER ONE HUNDRED;4THOUSAND;3TEN THOUSAND;0PALMYRENE LETTER ALEPH",
   "10861=0PALMYRENE LETTER BETH;2GIMEL;2DALETH;2HE;2WAW;2ZAYIN;2HETH;2TETH;2YODH;2KAPH;2LAMEDH",
   "1086C=0PALMYRENE LETTER MEM;2FINAL NUN;2NUN;2SAMEKH;2AYIN;2PE;2SADHE;2QOPH;2RESH;2SHIN;2TAW",
   "10877=0PALMYRENE LEFT-POINTING FLEURON;1RIGHT-POINTING FLEURON;1NUMBER ONE;2TWO;2THREE;2FOUR",
   "1087D=0PALMYRENE NUMBER FIVE;2TEN;2TWENTY;0NABATAEAN LETTER FINAL ALEPH;2ALEPH;2FINAL BETH",
   "10883=0NABATAEAN LETTER BETH;2GIMEL;2DALETH;2FINAL HE;2HE;2WAW;2ZAYIN;2HETH;2TETH;2FINAL YODH",
   "1088D=0NABATAEAN LETTER YODH;2FINAL KAPH;2KAPH;2FINAL LAMEDH;2LAMEDH;2FINAL MEM;2MEM",
   "10894=0NABATAEAN LETTER FINAL NUN;2NUN;2SAMEKH;2AYIN;2PE;2SADHE;2QOPH;2RESH;2FINAL SHIN;2SHIN",
   "1089E=0NABATAEAN LETTER TAW;108A7=1NUMBER ONE;2TWO;2THREE;2FOUR;1CRUCIFORM NUMBER FOUR",
   "108AC=0NABATAEAN NUMBER FIVE;2TEN;2TWENTY;2ONE HUNDRED;108E0=0HATRAN LETTER ALEPH;2BETH",
   "108E2=0HATRAN LETTER GIMEL;2DALETH-RESH;2HE;2WAW;2ZAYN;2HETH;2TETH;2YODH;2KAPH;2LAMEDH;2MEM",
   "108ED=0HATRAN LETTER NUN;2SAMEKH;2AYN;2PE;2SADHE;2QOPH;108F4=2SHIN;2TAW;108FB=1NUMBER ONE",
   "108FC=0HATRAN NUMBER FIVE;2TEN;2TWENTY;2ONE HUNDRED;0PHOENICIAN LETTER ALF;2BET;2GAML;2DELT",
   "10904=0PHOENICIAN LETTER HE;2WAU;2ZAI;2HET;2TET;2YOD;2KAF;2LAMD;2MEM;2NUN;2SEMK;2AIN;2PE",
   "10911=0PHOENICIAN LETTER SADE;2QOF;2ROSH;2SHIN;2TAU;1NUMBER ONE;2TEN;2TWENTY;2ONE HUNDRED",
   "1091A=0PHOENICIAN NUMBER TWO;2THREE;1091F=1WORD SEPARATOR;0LYDIAN LETTER A;2B;2G;2D;2E;2V;2I",
   "10927=0LYDIAN LETTER Y;2K;2L;2M;2N;2O;2R;2SS;2T;2U;2F;2Q;2S;2TT;2AN;2EN;2LY;2NN;2C",
   "1093F=0LYDIAN TRIANGULAR MARK;10980=0MEROITIC HIEROGLYPHIC LETTER A;3E;3I;3O;3YA;3WA;3BA",
   "10987=0MEROITIC HIEROGLYPHIC LETTER BA-2;3PA;3MA;3NA;3NA-2;3NE;3NE-2;3RA;3RA-2;3LA;3KHA;3HHA",
   "10993=0MEROITIC HIEROGLYPHIC LETTER SA;3SA-2;3SE;3KA;3QA;3TA;3TA-2;3TE;3TE-2;3TO;3DA",
   "1099E=0MEROITIC HIEROGLYPHIC SYMBOL VIDJ;3VIDJ-2;1CURSIVE LETTER A;3E;3I;3O;3YA;3WA;3BA;3PA",
   "109A8=0MEROITIC CURSIVE LETTER MA;3NA;3NE;3RA;3LA;3KHA;3HHA;3SA;3ARCHAIC SA;3SE;3KA;3QA;3TA",
   "109B5=0MEROITIC CURSIVE LETTER TE;3TO;3DA;109BC=2FRACTION ELEVEN TWELFTHS;3ONE HALF",
   "109BE=0MEROITIC CURSIVE LOGOGRAM RMT;3IMN;2NUMBER ONE;3TWO;3THREE;3FOUR;3FIVE;3SIX;3SEVEN",
   "109C7=0MEROITIC CURSIVE NUMBER EIGHT;3NINE;3TEN;3TWENTY;3THIRTY;3FORTY;3FIFTY;3SIXTY;3SEVENTY",
   "109D2=0MEROITIC CURSIVE NUMBER ONE HUNDRED;3TWO HUNDRED;3THREE HUNDRED;3FOUR HUNDRED",
   "109D6=0MEROITIC CURSIVE NUMBER FIVE HUNDRED;3SIX HUNDRED;3SEVEN HUNDRED;3EIGHT HUNDRED",
   "109DA=0MEROITIC CURSIVE NUMBER NINE HUNDRED;3ONE THOUSAND;3TWO THOUSAND;3THREE THOUSAND",
   "109DE=0MEROITIC CURSIVE NUMBER FOUR THOUSAND;3FIVE THOUSAND;3SIX THOUSAND;3SEVEN THOUSAND",
   "109E2=0MEROITIC CURSIVE NUMBER EIGHT THOUSAND;3NINE THOUSAND;3TEN THOUSAND;3TWENTY THOUSAND",
   "109E6=0MEROITIC CURSIVE NUMBER THIRTY THOUSAND;3FORTY THOUSAND;3FIFTY THOUSAND",
   "109E9=0MEROITIC CURSIVE NUMBER SIXTY THOUSAND;3SEVENTY THOUSAND;3EIGHTY THOUSAND",
   "109EC=0MEROITIC CURSIVE NUMBER NINETY THOUSAND;3ONE HUNDRED THOUSAND;3TWO HUNDRED THOUSAND",
   "109EF=0MEROITIC CURSIVE NUMBER THREE HUNDRED THOUSAND;3FOUR HUNDRED THOUSAND",
   "109F1=0MEROITIC CURSIVE NUMBER FIVE HUNDRED THOUSAND;3SIX HUNDRED THOUSAND",
   "109F3=0MEROITIC CURSIVE NUMBER SEVEN HUNDRED THOUSAND;3EIGHT HUNDRED THOUSAND",
   "109F5=0MEROITIC CURSIVE NUMBER NINE HUNDRED THOUSAND;2FRACTION ONE TWELFTH;3TWO TWELFTHS",
   "109F8=0MEROITIC CURSIVE FRACTION THREE TWELFTHS;3FOUR TWELFTHS;3FIVE TWELFTHS;3SIX TWELFTHS",
   "109FC=0MEROITIC CURSIVE FRACTION SEVEN TWELFTHS;3EIGHT TWELFTHS;3NINE TWELFTHS;3TEN TWELFTHS",
   "10A00=0KHAROSHTHI LETTER A;1VOWEL SIGN I;3U;3VOCALIC R;10A05=3E;3O;10A0C=2LENGTH MARK",
   "10A0D=0KHAROSHTHI SIGN DOUBLE RING BELOW;2ANUSVARA;2VISARGA;1LETTER KA;2KHA;2GA;2GHA",
   "10A15=0KHAROSHTHI LETTER CA;2CHA;2JA;10A19=2NYA;2TTA;2TTHA;2DDA;2DDHA;2NNA;2TA;2THA;2DA;2DHA",
   "10A23=0KHAROSHTHI LETTER NA;2PA;2PHA;2BA;2BHA;2MA;2YA;2RA;2LA;2VA;2SHA;2SSA;2SA;2ZA;2HA;2KKA",
   "10A33=0KHAROSHTHI LETTER TTTHA;2TTTA;2VHA;10A38=1SIGN BAR ABOVE;2CAUDA;2DOT BELOW",
   "10A3F=0KHAROSHTHI VIRAMA;1DIGIT ONE;2TWO;2THREE;2FOUR;1NUMBER TEN;2TWENTY;2ONE HUNDRED",
   "10A47=0KHAROSHTHI NUMBER ONE THOUSAND;1FRACTION ONE HALF;10A50=1PUNCTUATION DOT;2SMALL CIRCLE",
   "10A52=0KHAROSHTHI PUNCTUATION CIRCLE;2CRESCENT BAR;2MANGALAM;2LOTUS;2DANDA;2DOUBLE DANDA",
   "10A58=0KHAROSHTHI PUNCTUATION LINES;10A60=0OLD SOUTH ARABIAN LETTER HE;4LAMEDH;4HETH;4MEM",
   "10A64=0OLD SOUTH ARABIAN LETTER QOPH;4WAW;4SHIN;4RESH;4BETH;4TAW;4SAT;4KAPH;4NUN;4KHETH",
   "10A6E=0OLD SOUTH ARABIAN LETTER SADHE;4SAMEKH;4FE;4ALEF;4AYN;4DHADHE;4GIMEL;4DALETH;4GHAYN",
   "10A77=0OLD SOUTH ARABIAN LETTER TETH;4ZAYN;4DHALETH;4YODH;4THAW;4THETH;3NUMBER ONE;4FIFTY",
   "10A7F=0OLD SOUTH ARABIAN NUMERIC INDICATOR;1NORTH ARABIAN LETTER HEH;4LAM;4HAH;4MEEM;4QAF",
   "10A85=0OLD NORTH ARABIAN LETTER WAW;4ES-2;4REH;4BEH;4TEH;4ES-1;4KAF;4NOON;4KHAH;4SAD;4ES-3",
   "10A90=0OLD NORTH ARABIAN LETTER FEH;4ALEF;4AIN;4DAD;4GEEM;4DAL;4GHAIN;4TAH;4ZAIN;4THAL;4YEH",
   "10A9B=0OLD NORTH ARABIAN LETTER THEH;4ZAH;3NUMBER ONE;4TEN;4TWENTY",
   "10AC0=0MANICHAEAN LETTER ALEPH;2BETH;2BHETH;2GIMEL;2GHIMEL;2DALETH;2HE;2WAW;1SIGN UD",
   "10AC9=0MANICHAEAN LETTER ZAYIN;2ZHAYIN;2JAYIN;2JHAYIN;2HETH;2TETH;2YODH;2KAPH;2XAPH;2KHAPH",
   "10AD3=0MANICHAEAN LETTER LAMEDH;2DHAMEDH;2THAMEDH;2MEM;2NUN;2SAMEKH;2AYIN;2AAYIN;2PE;2FE",
   "10ADD=0MANICHAEAN LETTER SADHE;2QOPH;2XOPH;2QHOPH;2RESH;2SHIN;2SSHIN;2TAW",
   "10AE5=0MANICHAEAN ABBREVIATION MARK ABOVE;3BELOW;10AEB=1NUMBER ONE;2FIVE;2TEN;2TWENTY",
   "10AEF=0MANICHAEAN NUMBER ONE HUNDRED;1PUNCTUATION STAR;2FLEURON;2DOUBLE DOT WITHIN DOT",
   "10AF3=0MANICHAEAN PUNCTUATION DOT WITHIN DOT;3;2TWO DOTS;2LINE FILLER;10B00=0AVESTAN LETTER A",
   "10B01=0AVESTAN LETTER AA;2AO;2AAO;2AN;2AAN;2AE;2AEE;2E;2EE;2O;2OO;2I;2II;2U;2UU;2KE;2XE;2XYE",
   "10B13=0AVESTAN LETTER XVE;2GE;2GGE;2GHE;2CE;2JE;2TE;2THE;2DE;2DHE;2TTE;2PE;2FE;2BE;2BHE;2NGE",
   "10B23=0AVESTAN LETTER NGYE;2NGVE;2NE;2NYE;2NNE;2ME;2HME;2YYE;2YE;2VE;2RE;2LE;2SE;2ZE;2SHE",
   "10B32=0AVESTAN LETTER ZHE;2SHYE;2SSHE;2HE;10B39=1ABBREVIATION MARK",
   "10B3A=0TINY TWO DOTS OVER ONE DOT PUNCTUATION;0SMALL TWO DOTS OVER ONE DOT PUNCTUATION",
   "10B3C=0LARGE TWO DOTS OVER ONE DOT PUNCTUATION;1ONE DOT OVER TWO DOTS PUNCTUATION",
   "10B3E=0LARGE TWO RINGS OVER ONE RING PUNCTUATION;1ONE RING OVER TWO RINGS PUNCTUATION",
   "10B40=0INSCRIPTIONAL PARTHIAN LETTER ALEPH;3BETH;3GIMEL;3DALETH;3HE;3WAW;3ZAYIN;3HETH;3TETH",
   "10B49=0INSCRIPTIONAL PARTHIAN LETTER YODH;3KAPH;3LAMEDH;3MEM;3NUN;3SAMEKH;3AYIN;3PE;3SADHE",
   "10B52=0INSCRIPTIONAL PARTHIAN LETTER QOPH;3RESH;3SHIN;3TAW;10B58=2NUMBER ONE;3TWO;3THREE",
   "10B5B=0INSCRIPTIONAL PARTHIAN NUMBER FOUR;3TEN;3TWENTY;3ONE HUNDRED;4THOUSAND",
   "10B60=0INSCRIPTIONAL PAHLAVI LETTER ALEPH;3BETH;3GIMEL;3DALETH;3HE;3WAW-AYIN-RESH;3ZAYIN",
   "10B67=0INSCRIPTIONAL PAHLAVI LETTER HETH;3TETH;3YODH;3KAPH;3LAMEDH;3MEM-QOPH;3NUN;3SAMEKH;3PE",
   "10B70=0INSCRIPTIONAL PAHLAVI LETTER SADHE;3SHIN;3TAW;10B78=2NUMBER ONE;3TWO;3THREE;3FOUR;3TEN",
   "10B7D=0INSCRIPTIONAL PAHLAVI NUMBER TWENTY;3ONE HUNDRED;4THOUSAND",
   "10B80=0PSALTER PAHLAVI LETTER ALEPH;3BETH;3GIMEL;3DALETH;3HE;3WAW-AYIN-RESH;3ZAYIN;3HETH",
   "10B88=0PSALTER PAHLAVI LETTER YODH;3KAPH;3LAMEDH;3MEM-QOPH;3NUN;3SAMEKH;3PE;3SADHE;3SHIN;3TAW",
   "10B99=0PSALTER PAHLAVI SECTION MARK;2TURNED SECTION MARK;2FOUR DOTS WITH CROSS;5DOT",
   "10BA9=0PSALTER PAHLAVI NUMBER ONE;3TWO;3THREE;3FOUR;3TEN;3TWENTY;3ONE HUNDRED",
   "10C00=0OLD TURKIC LETTER ORKHON A;3YENISEI A;4AE;3ORKHON I;3YENISEI I;4E;3ORKHON O;4OE",
   "10C08=0OLD TURKIC LETTER YENISEI OE;3ORKHON AB;3YENISEI AB;3ORKHON AEB;3YENISEI AEB",
   "10C0D=0OLD TURKIC LETTER ORKHON AG;3YENISEI AG;3ORKHON AEG;3YENISEI AEG;3ORKHON AD",
   "10C12=0OLD TURKIC LETTER YENISEI AD;3ORKHON AED;4EZ;3YENISEI EZ;3ORKHON AY;3YENISEI AY",
   "10C18=0OLD TURKIC LETTER ORKHON AEY;3YENISEI AEY;3ORKHON AEK;3YENISEI AEK;3ORKHON OEK",
   "10C1D=0OLD TURKIC LETTER YENISEI OEK;3ORKHON AL;3YENISEI AL;3ORKHON AEL;4ELT;4EM;4AN;4AEN",
   "10C25=0OLD TURKIC LETTER YENISEI AEN;3ORKHON ENT;3YENISEI ENT;3ORKHON ENC;3YENISEI ENC",
   "10C2A=0OLD TURKIC LETTER ORKHON ENY;3YENISEI ENY;4ANG;3ORKHON ENG;3YENISEI AENG;3ORKHON EP",
   "10C30=0OLD TURKIC LETTER ORKHON OP;4IC;4EC;3YENISEI EC;3ORKHON AQ;3YENISEI AQ;3ORKHON IQ",
   "10C37=0OLD TURKIC LETTER YENISEI IQ;3ORKHON OQ;3YENISEI OQ;3ORKHON AR;3YENISEI AR;3ORKHON AER",
   "10C3D=0OLD TURKIC LETTER ORKHON AS;4AES;4ASH;3YENISEI ASH;3ORKHON ESH;3YENISEI ESH;3ORKHON AT",
   "10C44=0OLD TURKIC LETTER YENISEI AT;3ORKHON AET;3YENISEI AET;3ORKHON OT;4BASH",
   "10C80=0OLD HUNGARIAN CAPITAL LETTER A;4AA;4EB;4AMB;4EC;4ENC;4ECS;4ED;4AND;4E;4CLOSE E;4EE;4EF",
   "10C8D=0OLD HUNGARIAN CAPITAL LETTER EG;4EGY;4EH;4I;4II;4EJ;4EK;4AK;4UNK;4EL;4ELY;4EM;4EN;4ENY",
   "10C9B=0OLD HUNGARIAN CAPITAL LETTER O;4OO;4NIKOLSBURG OE;4RUDIMENTA OE;4OEE;4EP;4EMP;4ER",
   "10CA3=0OLD HUNGARIAN CAPITAL LETTER SHORT ER;4ES;4ESZ;4ET;4ENT;4ETY;4ECH;4U;4UU",
   "10CAC=0OLD HUNGARIAN CAPITAL LETTER NIKOLSBURG UE;4RUDIMENTA UE;4EV;4EZ;4EZS;4ENT-SHAPED SIGN",
   "10CB2=0OLD HUNGARIAN CAPITAL LETTER US;10CC0=2SMALL LETTER A;4AA;4EB;4AMB;4EC;4ENC;4ECS;4ED",
   "10CC8=0OLD HUNGARIAN SMALL LETTER AND;4E;4CLOSE E;4EE;4EF;4EG;4EGY;4EH;4I;4II;4EJ;4EK;4AK",
   "10CD5=0OLD HUNGARIAN SMALL LETTER UNK;4EL;4ELY;4EM;4EN;4ENY;4O;4OO;4NIKOLSBURG OE",
   "10CDE=0OLD HUNGARIAN SMALL LETTER RUDIMENTA OE;4OEE;4EP;4EMP;4ER;4SHORT ER;4ES;4ESZ;4ET;4ENT",
   "10CE8=0OLD HUNGARIAN SMALL LETTER ETY;4ECH;4U;4UU;4NIKOLSBURG UE;4RUDIMENTA UE;4EV;4EZ;4EZS",
   "10CF1=0OLD HUNGARIAN SMALL LETTER ENT-SHAPED SIGN;4US;10CFA=2NUMBER ONE;3FIVE;3TEN;3FIFTY",
   "10CFE=0OLD HUNGARIAN NUMBER ONE HUNDRED;4THOUSAND;0HANIFI ROHINGYA LETTER A;3BA;3PA;3TA;3TTA",
   "10D05=0HANIFI ROHINGYA LETTER JA;3CA;3HA;3KHA;3FA;3DA;3DDA;3RA;3RRA;3ZA;3SA;3SHA;3KA;3GA;3LA",
   "10D14=0HANIFI ROHINGYA LETTER MA;3NA;3WA;3KINNA WA;3YA;3KINNA YA;3NGA;3NYA;3VA;2VOWEL A;3I;3U",
   "10D20=0HANIFI ROHINGYA VOWEL E;3O;2MARK SAKIN;3NA KHONNA;2SIGN HARBAHAY;3TAHALA;3TANA;3TASSI",
   "10D30=0HANIFI ROHINGYA DIGIT ZERO;3ONE;3TWO;3THREE;3FOUR;3FIVE;3SIX;3SEVEN;3EIGHT;3NINE",
   "10E60=0RUMI DIGIT ONE;2TWO;2THREE;2FOUR;2FIVE;2SIX;2SEVEN;2EIGHT;2NINE;1NUMBER TEN;2TWENTY",
   "10E6B=0RUMI NUMBER THIRTY;2FORTY;2FIFTY;2SIXTY;2SEVENTY;2EIGHTY;2NINETY;2ONE HUNDRED",
   "10E73=0RUMI NUMBER TWO HUNDRED;2THREE HUNDRED;2FOUR HUNDRED;2FIVE HUNDRED;2SIX HUNDRED",
   "10E78=0RUMI NUMBER SEVEN HUNDRED;2EIGHT HUNDRED;2NINE HUNDRED;1FRACTION ONE HALF;3QUARTER",
   "10E7D=0RUMI FRACTION ONE THIRD;2TWO THIRDS;10E80=0YEZIDI LETTER ELIF;2BE;2PE;2PHE;2THE;2SE",
   "10E86=0YEZIDI LETTER CIM;2CHIM;2CHHIM;2HHA;2XA;2DAL;2ZAL;2RA;2RHA;2ZA;2JA;2SIN;2SHIN;2SAD",
   "10E94=0YEZIDI LETTER DAD;2TA;2ZE;2EYN;2XHEYN;2FA;2VA;3ALTERNATE FORM;2QAF;2KAF;2KHAF;2GAF",
   "10EA0=0YEZIDI LETTER LAM;2MIM;2NUN;2UM;2WAW;2OW;2EW;2HAY;2YOT;2ET;10EAB=1COMBINING HAMZA MARK",
   "10EAC=0YEZIDI COMBINING MADDA MARK;1HYPHENATION MARK;10EB0=1LETTER LAM WITH DOT ABOVE",
   "10EB1=0YEZIDI LETTER YOT WITH CIRCUMFLEX ABOVE;10EFD=0ARABIC SMALL LOW WORD SAKTA;4QASR",
   "10EFF=0ARABIC SMALL LOW WORD MADDA;0OLD SOGDIAN LETTER ALEPH;3FINAL ALEPH;3BETH;3FINAL BETH",
   "10F04=0OLD SOGDIAN LETTER GIMEL;3HE;3FINAL HE;3WAW;3ZAYIN;3HETH;3YODH;3KAPH;3LAMEDH;3MEM;3NUN",
   "10F0F=0OLD SOGDIAN LETTER FINAL NUN;5WITH VERTICAL TAIL;3SAMEKH;3AYIN;3ALTERNATE AYIN;3PE",
   "10F15=0OLD SOGDIAN LETTER SADHE;3FINAL SADHE;5WITH VERTICAL TAIL;3RESH-AYIN-DALETH;3SHIN;3TAW",
   "10F1B=0OLD SOGDIAN LETTER FINAL TAW;5WITH VERTICAL TAIL;2NUMBER ONE;3TWO;3THREE;3FOUR;3FIVE",
   "10F22=0OLD SOGDIAN NUMBER TEN;3TWENTY;3THIRTY;3ONE HUNDRED;2FRACTION ONE HALF",
   "10F27=0OLD SOGDIAN LIGATURE AYIN-DALETH;10F30=0SOGDIAN LETTER ALEPH;2BETH;2GIMEL;2HE;2WAW",
   "10F35=0SOGDIAN LETTER ZAYIN;2HETH;2YODH;2KAPH;2LAMEDH;2MEM;2NUN;2SAMEKH;2AYIN;2PE;2SADHE",
   "10F40=0SOGDIAN LETTER RESH-AYIN;2SHIN;2TAW;2FETH;2LESH;1INDEPENDENT SHIN;1COMBINING DOT BELOW",
   "10F47=0SOGDIAN COMBINING TWO DOTS BELOW;2DOT ABOVE;2TWO DOTS ABOVE;2CURVE ABOVE;3BELOW",
   "10F4C=0SOGDIAN COMBINING HOOK ABOVE;3BELOW;2LONG HOOK BELOW;2RESH BELOW;2STROKE BELOW",
   "10F51=0SOGDIAN NUMBER ONE;2TEN;2TWENTY;2ONE HUNDRED;1PUNCTUATION TWO VERTICAL BARS;5WITH DOTS",
   "10F57=0SOGDIAN PUNCTUATION CIRCLE WITH DOT;2TWO CIRCLES WITH DOTS;2HALF CIRCLE WITH DOT",
   "10F70=0OLD UYGHUR LETTER ALEPH;3BETH;3GIMEL-HETH;3WAW;3ZAYIN;3FINAL HETH;3YODH;3KAPH;3LAMEDH",
   "10F79=0OLD UYGHUR LETTER MEM;3NUN;3SAMEKH;3PE;3SADHE;3RESH;3SHIN;3TAW;3LESH",
   "10F82=0OLD UYGHUR COMBINING DOT ABOVE;4BELOW;3TWO DOTS ABOVE;5BELOW;2PUNCTUATION BAR",
   "10F87=0OLD UYGHUR PUNCTUATION TWO BARS;4DOTS;3FOUR DOTS;10FB0=0CHORASMIAN LETTER ALEPH",
   "10FB1=0CHORASMIAN LETTER SMALL ALEPH;2BETH;2GIMEL;2DALETH;2HE;2WAW;2CURLED WAW;2ZAYIN;2HETH",
   "10FBA=0CHORASMIAN LETTER YODH;2KAPH;2LAMEDH;2MEM;2NUN;2SAMEKH;2AYIN;2PE;2RESH;2SHIN;2TAW",
   "10FC5=0CHORASMIAN NUMBER ONE;2TWO;2THREE;2FOUR;2TEN;2TWENTY;2ONE HUNDRED",
   "10FE0=0ELYMAIC LETTER ALEPH;2BETH;2GIMEL;2DALETH;2HE;2WAW;2ZAYIN;2HETH;2TETH;2YODH;2KAPH",
   "10FEB=0ELYMAIC LETTER LAMEDH;2MEM;2NUN;2SAMEKH;2AYIN;2PE;2SADHE;2QOPH;2RESH;2SHIN;2TAW",
   "10FF6=0ELYMAIC LIGATURE ZAYIN-YODH;11000=0BRAHMI SIGN CANDRABINDU;2ANUSVARA;2VISARGA",
   "11003=0BRAHMI SIGN JIHVAMULIYA;2UPADHMANIYA;1LETTER A;2AA;2I;2II;2U;2UU;2VOCALIC R;3RR;3L;3LL",
   "1100F=0BRAHMI LETTER E;2AI;2O;2AU;2KA;2KHA;2GA;2GHA;2NGA;2CA;2CHA;2JA;2JHA;2NYA;2TTA;2TTHA",
   "1101F=0BRAHMI LETTER DDA;2DDHA;2NNA;2TA;2THA;2DA;2DHA;2NA;2PA;2PHA;2BA;2BHA;2MA;2YA;2RA;2LA",
   "1102F=0BRAHMI LETTER VA;2SHA;2SSA;2SA;2HA;2LLA;2OLD TAMIL LLLA;4RRA;4NNNA;1VOWEL SIGN AA",
   "11039=0BRAHMI VOWEL SIGN BHATTIPROLU AA;3I;3II;3U;3UU;3VOCALIC R;4RR;4L;4LL;3E;3AI;3O;3AU",
   "11046=0BRAHMI VIRAMA;1DANDA;1DOUBLE DANDA;1PUNCTUATION DOT;2DOUBLE DOT;2LINE;2CRESCENT BAR",
   "1104D=0BRAHMI PUNCTUATION LOTUS;11052=1NUMBER ONE;2TWO;2THREE;2FOUR;2FIVE;2SIX;2SEVEN;2EIGHT",
   "1105A=0BRAHMI NUMBER NINE;2TEN;2TWENTY;2THIRTY;2FORTY;2FIFTY;2SIXTY;2SEVENTY;2EIGHTY;2NINETY",
   "11064=0BRAHMI NUMBER ONE HUNDRED;3THOUSAND;1DIGIT ZERO;2ONE;2TWO;2THREE;2FOUR;2FIVE;2SIX",
   "1106D=0BRAHMI DIGIT SEVEN;2EIGHT;2NINE;1SIGN OLD TAMIL VIRAMA;1LETTER OLD TAMIL SHORT E;5O",
   "11073=0BRAHMI VOWEL SIGN OLD TAMIL SHORT E;6O;1LETTER OLD TAMIL LLA;1107F=1NUMBER JOINER",
   "11080=0KAITHI SIGN CANDRABINDU;2ANUSVARA;2VISARGA;1LETTER A;2AA;2I;2II;2U;2UU;2E;2AI;2O;2AU",
   "1108D=0KAITHI LETTER KA;2KHA;2GA;2GHA;2NGA;2CA;2CHA;2JA;2JHA;2NYA;2TTA;2TTHA;2DDA;2DDDHA",
   "1109B=0KAITHI LETTER DDHA;2RHA;2NNA;2TA;2THA;2DA;2DHA;2NA;2PA;2PHA;2BA;2BHA;2MA;2YA;2RA;2LA",
   "110AB=0KAITHI LETTER VA;2SHA;2SSA;2SA;2HA;1VOWEL SIGN AA;3I;3II;3U;3UU;3E;3AI;3O;3AU",
   "110B9=0KAITHI SIGN VIRAMA;2NUKTA;1ABBREVIATION SIGN;1ENUMERATION SIGN;1NUMBER SIGN",
   "110BE=0KAITHI SECTION MARK;1DOUBLE SECTION MARK;1DANDA;1DOUBLE DANDA;1VOWEL SIGN VOCALIC R",
   "110CD=0KAITHI NUMBER SIGN ABOVE;110D0=0SORA SOMPENG LETTER SAH;3TAH;3BAH;3CAH;3DAH;3GAH;3MAH",
   "110D7=0SORA SOMPENG LETTER NGAH;3LAH;3NAH;3VAH;3PAH;3YAH;3RAH;3HAH;3KAH;3JAH;3NYAH;3AH;3EEH",
   "110E4=0SORA SOMPENG LETTER IH;3UH;3OH;3EH;3MAE;110F0=2DIGIT ZERO;3ONE;3TWO;3THREE;3FOUR;3FIVE",
   "110F6=0SORA SOMPENG DIGIT SIX;3SEVEN;3EIGHT;3NINE;11100=0CHAKMA SIGN CANDRABINDU;2ANUSVARA",
   "11102=0CHAKMA SIGN VISARGA;1LETTER AA;2I;2U;2E;2KAA;2KHAA;2GAA;2GHAA;2NGAA;2CAA;2CHAA;2JAA",
   "1110F=0CHAKMA LETTER JHAA;2NYAA;2TTAA;2TTHAA;2DDAA;2DDHAA;2NNAA;2TAA;2THAA;2DAA;2DHAA;2NAA",
   "1111B=0CHAKMA LETTER PAA;2PHAA;2BAA;2BHAA;2MAA;2YYAA;2YAA;2RAA;2LAA;2WAA;2SAA;2HAA",
   "11127=0CHAKMA VOWEL SIGN A;3I;3II;3U;3UU;3E;3AI;3O;3AU;3OI;1O MARK;1AU MARK;1VIRAMA;1MAAYYAA",
   "11136=0CHAKMA DIGIT ZERO;2ONE;2TWO;2THREE;2FOUR;2FIVE;2SIX;2SEVEN;2EIGHT;2NINE;1SECTION MARK",
   "11141=0CHAKMA DANDA;1DOUBLE DANDA;1QUESTION MARK;1LETTER LHAA;1VOWEL SIGN AA;3EI;1LETTER VAA",
   "11150=0MAHAJANI LETTER A;2I;2U;2E;2O;2KA;2KHA;2GA;2GHA;2CA;2CHA;2JA;2JHA;2NYA;2TTA;2TTHA;2DDA",
   "11161=0MAHAJANI LETTER DDHA;2NNA;2TA;2THA;2DA;2DHA;2NA;2PA;2PHA;2BA;2BHA;2MA;2RA;2LA;2VA;2SA",
   "11171=0MAHAJANI LETTER HA;2RRA;1SIGN NUKTA;1ABBREVIATION SIGN;1SECTION MARK;1LIGATURE SHRI",
   "11180=0SHARADA SIGN CANDRABINDU;2ANUSVARA;2VISARGA;1LETTER A;2AA;2I;2II;2U;2UU;2VOCALIC R;3RR",
   "1118B=0SHARADA LETTER VOCALIC L;3LL;2E;2AI;2O;2AU;2KA;2KHA;2GA;2GHA;2NGA;2CA;2CHA;2JA;2JHA",
   "1119A=0SHARADA LETTER NYA;2TTA;2TTHA;2DDA;2DDHA;2NNA;2TA;2THA;2DA;2DHA;2NA;2PA;2PHA;2BA;2BHA",
   "111A9=0SHARADA LETTER MA;2YA;2RA;2LA;2LLA;2VA;2SHA;2SSA;2SA;2HA;1VOWEL SIGN AA;3I;3II;3U;3UU",
   "111B8=0SHARADA VOWEL SIGN VOCALIC R;4RR;4L;4LL;3E;3AI;3O;3AU;1SIGN VIRAMA;2AVAGRAHA",
   "111C2=0SHARADA SIGN JIHVAMULIYA;2UPADHMANIYA;1OM;1DANDA;1DOUBLE DANDA;1ABBREVIATION SIGN",
   "111C8=0SHARADA SEPARATOR;1SANDHI MARK;1SIGN NUKTA;1VOWEL MODIFIER MARK",
   "111CC=0SHARADA EXTRA SHORT VOWEL MARK;1SUTRA MARK;1VOWEL SIGN PRISHTHAMATRA E",
   "111CF=0SHARADA SIGN INVERTED CANDRABINDU;1DIGIT ZERO;2ONE;2TWO;2THREE;2FOUR;2FIVE;2SIX;2SEVEN",
   "111D8=0SHARADA DIGIT EIGHT;2NINE;1EKAM;1SIGN SIDDHAM;1HEADSTROKE;1CONTINUATION SIGN",
   "111DE=0SHARADA SECTION MARK-1;2MARK-2;111E1=0SINHALA ARCHAIC DIGIT ONE;3TWO;3THREE;3FOUR",
   "111E5=0SINHALA ARCHAIC DIGIT FIVE;3SIX;3SEVEN;3EIGHT;3NINE;2NUMBER TEN;3TWENTY;3THIRTY;3FORTY",
   "111EE=0SINHALA ARCHAIC NUMBER FIFTY;3SIXTY;3SEVENTY;3EIGHTY;3NINETY;3ONE HUNDRED;4THOUSAND",
   "11200=0KHOJKI LETTER A;2AA;2I;2U;2E;2AI;2O;2AU;2KA;2KHA;2GA;2GGA;2GHA;2NGA;2CA;2CHA;2JA;2JJA",
   "11213=0KHOJKI LETTER NYA;2TTA;2TTHA;2DDA;2DDHA;2NNA;2TA;2THA;2DA;2DDDA;2DHA;2NA;2PA;2PHA;2BA",
   "11222=0KHOJKI LETTER BBA;2BHA;2MA;2YA;2RA;2LA;2VA;2SA;2HA;2LLA;1VOWEL SIGN AA;3I;3II;3U;3E",
   "11231=0KHOJKI VOWEL SIGN AI;3O;3AU;1SIGN ANUSVARA;2VIRAMA;2NUKTA;2SHADDA;1DANDA;1DOUBLE DANDA",
   "1123A=0KHOJKI WORD SEPARATOR;1SECTION MARK;1DOUBLE SECTION MARK;1ABBREVIATION SIGN",
   "1123E=0KHOJKI SIGN SUKUN;1LETTER QA;2SHORT I;1VOWEL SIGN VOCALIC R;11280=0MULTANI LETTER A;2I",
   "11282=0MULTANI LETTER U;2E;2KA;2KHA;2GA;11288=2GHA;1128A=2CA;2CHA;2JA;2JJA;1128F=2NYA;2TTA",
   "11291=0MULTANI LETTER TTHA;2DDA;2DDDA;2DDHA;2NNA;2TA;2THA;2DA;2DHA;2NA;2PA;2PHA;2BA",
   "1129F=0MULTANI LETTER BHA;2MA;2YA;2RA;2LA;2VA;2SA;2HA;2RRA;2RHA;1SECTION MARK",
   "112B0=0KHUDAWADI LETTER A;2AA;2I;2II;2U;2UU;2E;2AI;2O;2AU;2KA;2KHA;2GA;2GGA;2GHA;2NGA;2CA",
   "112C1=0KHUDAWADI LETTER CHA;2JA;2JJA;2JHA;2NYA;2TTA;2TTHA;2DDA;2DDDA;2RRA;2DDHA;2NNA;2TA;2THA",
   "112CF=0KHUDAWADI LETTER DA;2DHA;2NA;2PA;2PHA;2BA;2BBA;2BHA;2MA;2YA;2RA;2LA;2VA;2SHA;2SA;2HA",
   "112DF=0KHUDAWADI SIGN ANUSVARA;1VOWEL SIGN AA;3I;3II;3U;3UU;3E;3AI;3O;3AU;1SIGN NUKTA;2VIRAMA",
   "112F0=0KHUDAWADI DIGIT ZERO;2ONE;2TWO;2THREE;2FOUR;2FIVE;2SIX;2SEVEN;2EIGHT;2NINE",
   "11300=0GRANTHA SIGN COMBINING ANUSVARA ABOVE;2CANDRABINDU;2ANUSVARA;2VISARGA;11305=1LETTER A",
   "11306=0GRANTHA LETTER AA;2I;2II;2U;2UU;2VOCALIC R;3L;1130F=2EE;2AI;11313=2OO;2AU;2KA;2KHA;2GA",
   "11318=0GRANTHA LETTER GHA;2NGA;2CA;2CHA;2JA;2JHA;2NYA;2TTA;2TTHA;2DDA;2DDHA;2NNA;2TA;2THA;2DA",
   "11327=0GRANTHA LETTER DHA;2NA;1132A=2PA;2PHA;2BA;2BHA;2MA;2YA;2RA;11332=2LA;2LLA;11335=2VA",
   "11336=0GRANTHA LETTER SHA;2SSA;2SA;2HA;1133B=0COMBINING BINDU BELOW;0GRANTHA SIGN NUKTA",
   "1133D=0GRANTHA SIGN AVAGRAHA;1VOWEL SIGN AA;3I;3II;3U;3UU;3VOCALIC R;4RR;11347=3EE;3AI",
   "1134B=0GRANTHA VOWEL SIGN OO;3AU;1SIGN VIRAMA;11350=1OM;11357=1AU LENGTH MARK",
   "1135D=0GRANTHA SIGN PLUTA;1LETTER VEDIC ANUSVARA;3DOUBLE ANUSVARA;2VOCALIC RR;3LL",
   "11362=0GRANTHA VOWEL SIGN VOCALIC L;4LL;11366=0COMBINING GRANTHA DIGIT ZERO;3ONE;3TWO;3THREE",
   "1136A=0COMBINING GRANTHA DIGIT FOUR;3FIVE;3SIX;11370=2LETTER A;3KA;3NA;3VI;3PA",
   "11400=0NEWA LETTER A;2AA;2I;2II;2U;2UU;2VOCALIC R;3RR;3L;3LL;2E;2AI;2O;2AU;2KA;2KHA;2GA;2GHA",
   "11412=0NEWA LETTER NGA;2NGHA;2CA;2CHA;2JA;2JHA;2NYA;2NYHA;2TTA;2TTHA;2DDA;2DDHA;2NNA;2TA;2THA",
   "11421=0NEWA LETTER DA;2DHA;2NA;2NHA;2PA;2PHA;2BA;2BHA;2MA;2MHA;2YA;2RA;2RHA;2LA;2LHA;2WA;2SHA",
   "11432=0NEWA LETTER SSA;2SA;2HA;1VOWEL SIGN AA;3I;3II;3U;3UU;3VOCALIC R;4RR;4L;4LL;3E;3AI;3O",
   "11441=0NEWA VOWEL SIGN AU;1SIGN VIRAMA;2CANDRABINDU;2ANUSVARA;2VISARGA;2NUKTA;2AVAGRAHA",
   "11448=0NEWA SIGN FINAL ANUSVARA;1OM;1SIDDHI;1DANDA;1DOUBLE DANDA;1COMMA;1GAP FILLER",
   "1144F=0NEWA ABBREVIATION SIGN;1DIGIT ZERO;2ONE;2TWO;2THREE;2FOUR;2FIVE;2SIX;2SEVEN;2EIGHT",
   "11459=0NEWA DIGIT NINE;1DOUBLE COMMA;1PLACEHOLDER MARK;1145D=1INSERTION SIGN;1SANDHI MARK",
   "1145F=0NEWA LETTER VEDIC ANUSVARA;1SIGN JIHVAMULIYA;2UPADHMANIYA;11480=0TIRHUTA ANJI",
   "11481=0TIRHUTA LETTER A;2AA;2I;2II;2U;2UU;2VOCALIC R;3RR;3L;3LL;2E;2AI;2O;2AU;2KA;2KHA;2GA",
   "11492=0TIRHUTA LETTER GHA;2NGA;2CA;2CHA;2JA;2JHA;2NYA;2TTA;2TTHA;2DDA;2DDHA;2NNA;2TA;2THA;2DA",
   "114A1=0TIRHUTA LETTER DHA;2NA;2PA;2PHA;2BA;2BHA;2MA;2YA;2RA;2LA;2VA;2SHA;2SSA;2SA;2HA",
   "114B0=0TIRHUTA VOWEL SIGN AA;3I;3II;3U;3UU;3VOCALIC R;4RR;4L;4LL;3E;3SHORT E;3AI;3O;3SHORT O",
   "114BE=0TIRHUTA VOWEL SIGN AU;1SIGN CANDRABINDU;2ANUSVARA;2VISARGA;2VIRAMA;2NUKTA;2AVAGRAHA",
   "114C5=0TIRHUTA GVANG;1ABBREVIATION SIGN;1OM;114D0=1DIGIT ZERO;2ONE;2TWO;2THREE;2FOUR;2FIVE",
   "114D6=0TIRHUTA DIGIT SIX;2SEVEN;2EIGHT;2NINE;11580=0SIDDHAM LETTER A;2AA;2I;2II;2U;2UU",
   "11586=0SIDDHAM LETTER VOCALIC R;3RR;3L;3LL;2E;2AI;2O;2AU;2KA;2KHA;2GA;2GHA;2NGA;2CA;2CHA;2JA",
   "11596=0SIDDHAM LETTER JHA;2NYA;2TTA;2TTHA;2DDA;2DDHA;2NNA;2TA;2THA;2DA;2DHA;2NA;2PA;2PHA;2BA",
   "115A5=0SIDDHAM LETTER BHA;2MA;2YA;2RA;2LA;2VA;2SHA;2SSA;2SA;2HA;1VOWEL SIGN AA;3I;3II;3U;3UU",
   "115B4=0SIDDHAM VOWEL SIGN VOCALIC R;4RR;115B8=3E;3AI;3O;3AU;1SIGN CANDRABINDU;2ANUSVARA",
   "115BE=0SIDDHAM SIGN VISARGA;2VIRAMA;2NUKTA;2SIDDHAM;1DANDA;1DOUBLE DANDA;1SEPARATOR DOT;2BAR",
   "115C6=0SIDDHAM REPETITION MARK-1;2MARK-2;2MARK-3;1END OF TEXT MARK",
   "115CA=0SIDDHAM SECTION MARK WITH TRIDENT AND U-SHAPED ORNAMENTS;6DOTTED CRESCENTS",
   "115CC=0SIDDHAM SECTION MARK WITH RAYS AND DOTTED CRESCENTS;7DOUBLE CRESCENTS",
   "115CE=0SIDDHAM SECTION MARK WITH RAYS AND DOTTED TRIPLE CRESCENTS;3DOUBLE RING;5WITH RAYS",
   "115D1=0SIDDHAM SECTION MARK WITH DOUBLE CRESCENTS;4TRIPLE CRESCENTS;4QUADRUPLE CRESCENTS",
   "115D4=0SIDDHAM SECTION MARK WITH SEPTUPLE CRESCENTS;4CIRCLES AND RAYS;6TWO ENCLOSURES",
   "115D7=0SIDDHAM SECTION MARK WITH CIRCLES AND FOUR ENCLOSURES;1LETTER THREE-CIRCLE ALTERNATE I",
   "115D9=0SIDDHAM LETTER TWO-CIRCLE ALTERNATE I;4II;2ALTERNATE U;1VOWEL SIGN ALTERNATE U;4UU",
   "11600=0MODI LETTER A;2AA;2I;2II;2U;2UU;2VOCALIC R;3RR;3L;3LL;2E;2AI;2O;2AU;2KA;2KHA;2GA;2GHA",
   "11612=0MODI LETTER NGA;2CA;2CHA;2JA;2JHA;2NYA;2TTA;2TTHA;2DDA;2DDHA;2NNA;2TA;2THA;2DA;2DHA",
   "11621=0MODI LETTER NA;2PA;2PHA;2BA;2BHA;2MA;2YA;2RA;2LA;2VA;2SHA;2SSA;2SA;2HA;2LLA",
   "11630=0MODI VOWEL SIGN AA;3I;3II;3U;3UU;3VOCALIC R;4RR;4L;4LL;3E;3AI;3O;3AU;1SIGN ANUSVARA",
   "1163E=0MODI SIGN VISARGA;2VIRAMA;2ARDHACANDRA;1DANDA;1DOUBLE DANDA;1ABBREVIATION SIGN",
   "11644=0MODI SIGN HUVA;11650=1DIGIT ZERO;2ONE;2TWO;2THREE;2FOUR;2FIVE;2SIX;2SEVEN;2EIGHT;2NINE",
   "11660=0MONGOLIAN BIRGA WITH ORNAMENT;1ROTATED BIRGA;1DOUBLE BIRGA WITH ORNAMENT",
   "11663=0MONGOLIAN TRIPLE BIRGA WITH ORNAMENT;1BIRGA WITH DOUBLE ORNAMENT",
   "11665=0MONGOLIAN ROTATED BIRGA WITH ORNAMENT;4DOUBLE ORNAMENT;1INVERTED BIRGA",
   "11668=0MONGOLIAN INVERTED BIRGA WITH DOUBLE ORNAMENT;1SWIRL BIRGA;3WITH ORNAMENT",
   "1166B=0MONGOLIAN SWIRL BIRGA WITH DOUBLE ORNAMENT;1TURNED SWIRL BIRGA WITH DOUBLE ORNAMENT",
   "11680=0TAKRI LETTER A;2AA;2I;2II;2U;2UU;2E;2AI;2O;2AU;2KA;2KHA;2GA;2GHA;2NGA;2CA;2CHA;2JA",
   "11692=0TAKRI LETTER JHA;2NYA;2TTA;2TTHA;2DDA;2DDHA;2NNA;2TA;2THA;2DA;2DHA;2NA;2PA;2PHA;2BA",
   "116A1=0TAKRI LETTER BHA;2MA;2YA;2RA;2LA;2VA;2SHA;2SA;2HA;2RRA;1SIGN ANUSVARA;2VISARGA",
   "116AD=0TAKRI VOWEL SIGN AA;3I;3II;3U;3UU;3E;3AI;3O;3AU;1SIGN VIRAMA;2NUKTA",
   "116B8=0TAKRI LETTER ARCHAIC KHA;1ABBREVIATION SIGN;116C0=1DIGIT ZERO;2ONE;2TWO;2THREE;2FOUR",
   "116C5=0TAKRI DIGIT FIVE;2SIX;2SEVEN;2EIGHT;2NINE;11700=0AHOM LETTER KA;2KHA;2NGA;2NA;2TA",
   "11705=0AHOM LETTER ALTERNATE TA;2PA;2PHA;2BA;2MA;2JA;2CHA;2THA;2RA;2LA;2SA;2NYA;2HA;2A;2DA",
   "11714=0AHOM LETTER DHA;2GA;2ALTERNATE GA;2GHA;2BHA;2JHA;2ALTERNATE BA",
   "1171D=0AHOM CONSONANT SIGN MEDIAL LA;4RA;4LIGATING RA;1VOWEL SIGN A;3AA;3I;3II;3U;3UU;3E;3AW",
   "11728=0AHOM VOWEL SIGN O;3AI;3AM;1SIGN KILLER;11730=1DIGIT ZERO;2ONE;2TWO;2THREE;2FOUR;2FIVE",
   "11736=0AHOM DIGIT SIX;2SEVEN;2EIGHT;2NINE;1NUMBER TEN;2TWENTY;1SIGN SMALL SECTION;2SECTION",
   "1173E=0AHOM SIGN RULAI;1SYMBOL VI;1LETTER CA;2TTA;2TTHA;2DDA;2DDHA;2NNA;2LLA",
   "11800=0DOGRA LETTER A;2AA;2I;2II;2U;2UU;2E;2AI;2O;2AU;2KA;2KHA;2GA;2GHA;2NGA;2CA;2CHA;2JA",
   "11812=0DOGRA LETTER JHA;2NYA;2TTA;2TTHA;2DDA;2DDHA;2NNA;2TA;2THA;2DA;2DHA;2NA;2PA;2PHA;2BA",
   "11821=0DOGRA LETTER BHA;2MA;2YA;2RA;2LA;2VA;2SHA;2SSA;2SA;2HA;2RRA;1VOWEL SIGN AA;3I;3II;3U",
   "11830=0DOGRA VOWEL SIGN UU;3VOCALIC R;4RR;3E;3AI;3O;3AU;1SIGN ANUSVARA;2VISARGA;2VIRAMA",
   "1183A=0DOGRA SIGN NUKTA;1ABBREVIATION SIGN;118A0=0WARANG CITI CAPITAL LETTER NGAA;4A;4WI;4YU",
   "118A4=0WARANG CITI CAPITAL LETTER YA;4YO;4II;4UU;4E;4O;4ANG;4GA;4KO;4ENY;4YUJ;4UC;4ENN;4ODD",
   "118B2=0WARANG CITI CAPITAL LETTER TTE;4NUNG;4DA;4AT;4AM;4BU;4PU;4HIYO;4HOLO;4HORR;4HAR;4SSUU",
   "118BE=0WARANG CITI CAPITAL LETTER SII;4VIYO;2SMALL LETTER NGAA;4A;4WI;4YU;4YA;4YO;4II;4UU;4E",
   "118C9=0WARANG CITI SMALL LETTER O;4ANG;4GA;4KO;4ENY;4YUJ;4UC;4ENN;4ODD;4TTE;4NUNG;4DA;4AT;4AM",
   "118D7=0WARANG CITI SMALL LETTER BU;4PU;4HIYO;4HOLO;4HORR;4HAR;4SSUU;4SII;4VIYO;2DIGIT ZERO",
   "118E1=0WARANG CITI DIGIT ONE;3TWO;3THREE;3FOUR;3FIVE;3SIX;3SEVEN;3EIGHT;3NINE;2NUMBER TEN",
   "118EB=0WARANG CITI NUMBER TWENTY;3THIRTY;3FORTY;3FIFTY;3SIXTY;3SEVENTY;3EIGHTY;3NINETY",
   "118FF=0WARANG CITI OM;0DIVES AKURU LETTER A;3AA;3I;3II;3U;3UU;3E;11909=3O;1190C=3KA;3KHA;3GA",
   "1190F=0DIVES AKURU LETTER GHA;3NGA;3CA;3CHA;3JA;11915=3NYA;3TTA;11918=3DDA;3DDHA;3NNA;3TA",
   "1191C=0DIVES AKURU LETTER THA;3DA;3DHA;3NA;3PA;3PHA;3BA;3BHA;3MA;3YA;3YYA;3RA;3LA;3VA;3SHA",
   "1192B=0DIVES AKURU LETTER SSA;3SA;3HA;3LLA;3ZA;2VOWEL SIGN AA;4I;4II;4U;4UU;4E;11937=4AI;4O",
   "1193B=0DIVES AKURU SIGN ANUSVARA;3CANDRABINDU;3HALANTA;2VIRAMA;2PREFIXED NASAL SIGN",
   "11940=0DIVES AKURU MEDIAL YA;2INITIAL RA;2MEDIAL RA;2SIGN NUKTA;2DOUBLE DANDA;2GAP FILLER",
   "11946=0DIVES AKURU END OF TEXT MARK;11950=2DIGIT ZERO;3ONE;3TWO;3THREE;3FOUR;3FIVE;3SIX",
   "11957=0DIVES AKURU DIGIT SEVEN;3EIGHT;3NINE;119A0=0NANDINAGARI LETTER A;2AA;2I;2II;2U;2UU",
   "119A6=0NANDINAGARI LETTER VOCALIC R;3RR;119AA=2E;2AI;2O;2AU;2KA;2KHA;2GA;2GHA;2NGA;2CA;2CHA",
   "119B5=0NANDINAGARI LETTER JA;2JHA;2NYA;2TTA;2TTHA;2DDA;2DDHA;2NNA;2TA;2THA;2DA;2DHA;2NA;2PA",
   "119C3=0NANDINAGARI LETTER PHA;2BA;2BHA;2MA;2YA;2RA;2LA;2VA;2SHA;2SSA;2SA;2HA;2LLA;2RRA",
   "119D1=0NANDINAGARI VOWEL SIGN AA;3I;3II;3U;3UU;3VOCALIC R;4RR;119DA=3E;3AI;3O;3AU",
   "119DE=0NANDINAGARI SIGN ANUSVARA;2VISARGA;2VIRAMA;2AVAGRAHA;2SIDDHAM;1HEADSTROKE",
   "119E4=0NANDINAGARI VOWEL SIGN PRISHTHAMATRA E;11A00=0ZANABAZAR SQUARE LETTER A;2VOWEL SIGN I",
   "11A02=0ZANABAZAR SQUARE VOWEL SIGN UE;4U;4E;4OE;4O;4AI;4AU;4REVERSED I;3LENGTH MARK",
   "11A0B=0ZANABAZAR SQUARE LETTER KA;3KHA;3GA;3GHA;3NGA;3CA;3CHA;3JA;3NYA;3TTA;3TTHA;3DDA;3DDHA",
   "11A18=0ZANABAZAR SQUARE LETTER NNA;3TA;3THA;3DA;3DHA;3NA;3PA;3PHA;3BA;3BHA;3MA;3TSA;3TSHA",
   "11A25=0ZANABAZAR SQUARE LETTER DZA;3DZHA;3ZHA;3ZA;3-A;3YA;3RA;3LA;3VA;3SHA;3SSA;3SA;3HA;3KSSA",
   "11A33=0ZANABAZAR SQUARE FINAL CONSONANT MARK;2SIGN VIRAMA;3CANDRABINDU;4WITH ORNAMENT",
   "11A37=0ZANABAZAR SQUARE SIGN CANDRA WITH ORNAMENT;3ANUSVARA;3VISARGA",
   "11A3A=0ZANABAZAR SQUARE CLUSTER-INITIAL LETTER RA;2CLUSTER-FINAL LETTER YA;4RA;4LA;4VA",
   "11A3F=0ZANABAZAR SQUARE INITIAL HEAD MARK;2CLOSING HEAD MARK;2MARK TSHEG;3SHAD;3DOUBLE SHAD",
   "11A44=0ZANABAZAR SQUARE MARK LONG TSHEG;2INITIAL DOUBLE-LINED HEAD MARK",
   "11A46=0ZANABAZAR SQUARE CLOSING DOUBLE-LINED HEAD MARK;2SUBJOINER;11A50=0SOYOMBO LETTER A",
   "11A51=0SOYOMBO VOWEL SIGN I;3UE;3U;3E;3O;3OE;3AI;3AU;3VOCALIC R;4L;2LENGTH MARK;1LETTER KA",
   "11A5D=0SOYOMBO LETTER KHA;2GA;2GHA;2NGA;2CA;2CHA;2JA;2JHA;2NYA;2TTA;2TTHA;2DDA;2DDHA;2NNA;2TA",
   "11A6C=0SOYOMBO LETTER THA;2DA;2DHA;2NA;2PA;2PHA;2BA;2BHA;2MA;2TSA;2TSHA;2DZA;2ZHA;2ZA;2-A;2YA",
   "11A7C=0SOYOMBO LETTER RA;2LA;2VA;2SHA;2SSA;2SA;2HA;2KSSA;1SIGN JIHVAMULIYA;2UPADHMANIYA",
   "11A86=0SOYOMBO CLUSTER-INITIAL LETTER RA;3LA;3SHA;3SA;1FINAL CONSONANT SIGN G;4K;4NG;4D;4N;4B",
   "11A90=0SOYOMBO FINAL CONSONANT SIGN M;4R;4L;4SH;4S;4-A;1SIGN ANUSVARA;2VISARGA",
   "11A98=0SOYOMBO GEMINATION MARK;1SUBJOINER;1MARK TSHEG;2SHAD;2DOUBLE SHAD;2PLUTA",
   "11A9E=0SOYOMBO HEAD MARK WITH MOON AND SUN AND TRIPLE FLAME;8FLAME;7;1TERMINAL MARK-1;2MARK-2",
   "11AB0=0CANADIAN SYLLABICS NATTILIK HI;3HII;3HO;3HOO;3HA;3HAA;3SHRI;3SHRII;3SHRO;3SHROO;3SHRA",
   "11ABB=0CANADIAN SYLLABICS NATTILIK SHRAA;2SPE;2SPI;2SPO;2SPA;0PAU CIN HAU LETTER PA;4KA;4LA",
   "11AC3=0PAU CIN HAU LETTER MA;4DA;4ZA;4VA;4NGA;4HA;4GA;4KHA;4SA;4BA;4CA;4TA;4THA;4NA;4PHA;4RA",
   "11AD3=0PAU CIN HAU LETTER FA;4CHA;4A;4E;4I;4O;4U;4UA;4IA;4FINAL P;5K;5T;5M;5N;5L;5W;5NG;5Y",
   "11AE5=0PAU CIN HAU RISING TONE LONG;5;3SANDHI GLOTTAL STOP;3RISING TONE LONG FINAL;5FINAL",
   "11AEA=0PAU CIN HAU SANDHI GLOTTAL STOP FINAL;4TONE LONG;5;5LONG FINAL;5FINAL;3MID-LEVEL TONE",
   "11AF0=0PAU CIN HAU GLOTTAL STOP VARIANT;3MID-LEVEL TONE LONG FINAL;5FINAL",
   "11AF3=0PAU CIN HAU LOW-FALLING TONE LONG;5;3GLOTTAL STOP;3LOW-FALLING TONE LONG FINAL;5FINAL",
   "11AF8=0PAU CIN HAU GLOTTAL STOP FINAL;11B00=0DEVANAGARI HEAD MARK;3WITH HEADSTROKE",
   "11B02=0DEVANAGARI SIGN BHALE;3WITH HOOK;2EXTENDED BHALE;4WITH HOOK;2WESTERN FIVE-LIKE BHALE",
   "11B07=0DEVANAGARI SIGN WESTERN NINE-LIKE BHALE;2REVERSED NINE-LIKE BHALE;2MINDU",
   "11C00=0BHAIKSUKI LETTER A;2AA;2I;2II;2U;2UU;2VOCALIC R;3RR;3L;11C0A=2E;2AI;2O;2AU;2KA;2KHA",
   "11C10=0BHAIKSUKI LETTER GA;2GHA;2NGA;2CA;2CHA;2JA;2JHA;2NYA;2TTA;2TTHA;2DDA;2DDHA;2NNA;2TA",
   "11C1E=0BHAIKSUKI LETTER THA;2DA;2DHA;2NA;2PA;2PHA;2BA;2BHA;2MA;2YA;2RA;2LA;2VA;2SHA;2SSA;2SA",
   "11C2E=0BHAIKSUKI LETTER HA;1VOWEL SIGN AA;3I;3II;3U;3UU;3VOCALIC R;4RR;4L;11C38=3E;3AI;3O;3AU",
   "11C3C=0BHAIKSUKI SIGN CANDRABINDU;2ANUSVARA;2VISARGA;2VIRAMA;2AVAGRAHA;1DANDA;1DOUBLE DANDA",
   "11C43=0BHAIKSUKI WORD SEPARATOR;1GAP FILLER-1;2FILLER-2;11C50=1DIGIT ZERO;2ONE;2TWO;2THREE",
   "11C54=0BHAIKSUKI DIGIT FOUR;2FIVE;2SIX;2SEVEN;2EIGHT;2NINE;1NUMBER ONE;2TWO;2THREE;2FOUR",
   "11C5E=0BHAIKSUKI NUMBER FIVE;2SIX;2SEVEN;2EIGHT;2NINE;2TEN;2TWENTY;2THIRTY;2FORTY;2FIFTY",
   "11C68=0BHAIKSUKI NUMBER SIXTY;2SEVENTY;2EIGHTY;2NINETY;1HUNDREDS UNIT MARK",
   "11C70=0MARCHEN HEAD MARK;1MARK SHAD;1LETTER KA;2KHA;2GA;2NGA;2CA;2CHA;2JA;2NYA;2TA;2THA;2DA",
   "11C7D=0MARCHEN LETTER NA;2PA;2PHA;2BA;2MA;2TSA;2TSHA;2DZA;2WA;2ZHA;2ZA;2-A;2YA;2RA;2LA;2SHA",
   "11C8D=0MARCHEN LETTER SA;2HA;2A;11C92=1SUBJOINED LETTER KA;3KHA;3GA;3NGA;3CA;3CHA;3JA;3NYA",
   "11C9A=0MARCHEN SUBJOINED LETTER TA;3THA;3DA;3NA;3PA;3PHA;3BA;3MA;3TSA;3TSHA;3DZA;3WA;3ZHA;3ZA",
   "11CA9=0MARCHEN SUBJOINED LETTER YA;3RA;3LA;3SHA;3SA;3HA;3A;1VOWEL SIGN AA;3I;3U;3E;3O",
   "11CB5=0MARCHEN SIGN ANUSVARA;2CANDRABINDU;11D00=0MASARAM GONDI LETTER A;3AA;3I;3II;3U;3UU;3E",
   "11D08=0MASARAM GONDI LETTER AI;3O;11D0B=3AU;3KA;3KHA;3GA;3GHA;3NGA;3CA;3CHA;3JA;3JHA;3NYA",
   "11D16=0MASARAM GONDI LETTER TTA;3TTHA;3DDA;3DDHA;3NNA;3TA;3THA;3DA;3DHA;3NA;3PA;3PHA;3BA;3BHA",
   "11D24=0MASARAM GONDI LETTER MA;3YA;3RA;3LA;3VA;3SHA;3SSA;3SA;3HA;3LLA;3KSSA;3JNYA;3TRA",
   "11D31=0MASARAM GONDI VOWEL SIGN AA;4I;4II;4U;4UU;4VOCALIC R;11D3A=4E;11D3C=4AI;4O;11D3F=4AU",
   "11D40=0MASARAM GONDI SIGN ANUSVARA;3VISARGA;3NUKTA;3CANDRA;3HALANTA;2VIRAMA;2REPHA;2RA-KARA",
   "11D50=0MASARAM GONDI DIGIT ZERO;3ONE;3TWO;3THREE;3FOUR;3FIVE;3SIX;3SEVEN;3EIGHT;3NINE",
   "11D60=0GUNJALA GONDI LETTER A;3AA;3I;3II;3U;3UU;11D67=3EE;3AI;11D6A=3OO;3AU;3YA;3VA;3BA;3BHA",
   "11D70=0GUNJALA GONDI LETTER MA;3KA;3KHA;3TA;3THA;3LA;3GA;3GHA;3DA;3DHA;3NA;3CA;3CHA;3TTA",
   "11D7E=0GUNJALA GONDI LETTER TTHA;3LLA;3JA;3JHA;3DDA;3DDHA;3NGA;3PA;3PHA;3HA;3RA;3SA",
   "11D8A=0GUNJALA GONDI VOWEL SIGN AA;4I;4II;4U;4UU;11D90=4EE;4AI;11D93=4OO;4AU;2SIGN ANUSVARA",
   "11D96=0GUNJALA GONDI SIGN VISARGA;2VIRAMA;2OM;11DA0=2DIGIT ZERO;3ONE;3TWO;3THREE;3FOUR;3FIVE",
   "11DA6=0GUNJALA GONDI DIGIT SIX;3SEVEN;3EIGHT;3NINE;11EE0=0MAKASAR LETTER KA;2GA;2NGA;2PA;2BA",
   "11EE5=0MAKASAR LETTER MA;2TA;2DA;2NA;2CA;2JA;2NYA;2YA;2RA;2LA;2VA;2SA;2A;1ANGKA;1VOWEL SIGN I",
   "11EF4=0MAKASAR VOWEL SIGN U;3E;3O;1PASSIMBANG;1END OF SECTION;11F00=0KAWI SIGN CANDRABINDU",
   "11F01=0KAWI SIGN ANUSVARA;2REPHA;2VISARGA;1LETTER A;2AA;2I;2II;2U;2UU;2VOCALIC R;3RR;3L;3LL",
   "11F0E=0KAWI LETTER E;2AI;2O;11F12=2KA;2KHA;2GA;2GHA;2NGA;2CA;2CHA;2JA;2JHA;2NYA;2TTA;2TTHA",
   "11F1E=0KAWI LETTER DDA;2DDHA;2NNA;2TA;2THA;2DA;2DHA;2NA;2PA;2PHA;2BA;2BHA;2MA;2YA;2RA;2LA;2WA",
   "11F2F=0KAWI LETTER SHA;2SSA;2SA;2HA;2JNYA;1VOWEL SIGN AA;3ALTERNATE AA;3I;3II;3U;3UU",
   "11F3A=0KAWI VOWEL SIGN VOCALIC R;11F3E=3E;3AI;3EU;1SIGN KILLER;1CONJOINER;1DANDA",
   "11F44=0KAWI DOUBLE DANDA;1PUNCTUATION SECTION MARKER;2ALTERNATE SECTION MARKER;2FLOWER",
   "11F48=0KAWI PUNCTUATION SPACE FILLER;2DOT;2DOUBLE DOT;2TRIPLE DOT;2CIRCLE;2FILLED CIRCLE",
   "11F4E=0KAWI PUNCTUATION SPIRAL;2CLOSING SPIRAL;1DIGIT ZERO;2ONE;2TWO;2THREE;2FOUR;2FIVE;2SIX",
   "11F57=0KAWI DIGIT SEVEN;2EIGHT;2NINE;11FB0=0LISU LETTER YHA",
   "11FC0=0TAMIL FRACTION ONE THREE-HUNDRED-AND-TWENTIETH;3ONE-HUNDRED-AND-SIXTIETH;3EIGHTIETH",
   "11FC3=0TAMIL FRACTION ONE SIXTY-FOURTH;3FORTIETH;3THIRTY-SECOND;2THREE EIGHTIETHS",
   "11FC7=0TAMIL FRACTION THREE SIXTY-FOURTHS;2ONE TWENTIETH;3SIXTEENTH-1;3SIXTEENTH-2;3TENTH",
   "11FCC=0TAMIL FRACTION ONE EIGHTH;2THREE TWENTIETHS;3SIXTEENTHS;2ONE FIFTH;3QUARTER;3HALF-1",
   "11FD2=0TAMIL FRACTION ONE HALF-2;2THREE QUARTERS;2DOWNSCALING FACTOR KIIZH;1SIGN NEL;2CEVITU",
   "11FD7=0TAMIL SIGN AAZHAAKKU;2UZHAKKU;2MUUVUZHAKKU;2KURUNI;2PATHAKKU;2MUKKURUNI;2KAACU;2PANAM",
   "11FDF=0TAMIL SIGN PON;2VARAAKAN;2PAARAM;2KUZHI;2VELI;1WET CULTIVATION SIGN",
   "11FE5=0TAMIL DRY CULTIVATION SIGN;1LAND SIGN;1SALT PAN SIGN;1TRADITIONAL CREDIT SIGN",
   "11FE9=0TAMIL TRADITIONAL NUMBER SIGN;1CURRENT SIGN;1AND ODD SIGN;1SPENT SIGN;1TOTAL SIGN",
   "11FEE=0TAMIL IN POSSESSION SIGN;1STARTING FROM SIGN;1SIGN MUTHALIYA;2VAKAIYARAA",
   "11FFF=0TAMIL PUNCTUATION END OF TEXT;0CUNEIFORM SIGN A;3TIMES A;4BAD;4GAN2 TENU;4HA;4IGI",
   "12006=0CUNEIFORM SIGN A TIMES LAGAR GUNU;4MUSH;4SAG;2A2;2AB;3TIMES ASH2;4DUN3 GUNU;4GAL",
   "1200E=0CUNEIFORM SIGN AB TIMES GAN2 TENU;4HA;4IGI GUNU;4IMIN;4LAGAB;4SHESH;4U PLUS U PLUS U",
   "12015=0CUNEIFORM SIGN AB GUNU;2AB2;3TIMES BALAG;4GAN2 TENU;4ME PLUS EN;4SHA3;4TAK4;2AD;2AK",
   "1201E=0CUNEIFORM SIGN AK TIMES ERIN2;4SHITA PLUS GISH;2AL;3TIMES AL;4DIM2;4GISH;4HA;4KAD3;4KI",
   "12027=0CUNEIFORM SIGN AL TIMES SHE;4USH;2ALAN;2ALEPH;2AMAR;3TIMES SHE;2AN;3OVER AN",
   "1202F=0CUNEIFORM SIGN AN THREE TIMES;3PLUS NAGA OPPOSING AN PLUS NAGA;5SQUARED;2ANSHE;2APIN",
   "12034=0CUNEIFORM SIGN ARAD;3TIMES KUR;2ARKAB;2ASAL2;2ASH;3ZIDA TENU;3KABA TENU",
   "1203B=0CUNEIFORM SIGN ASH OVER ASH TUG2 OVER TUG2 TUG2 OVER TUG2 PAP;5OVER ASH",
   "1203D=0CUNEIFORM SIGN ASH OVER ASH OVER ASH CROSSING ASH OVER ASH OVER ASH;2ASH2;2ASHGAB;2BA",
   "12041=0CUNEIFORM SIGN BAD;2BAG3;2BAHAR2;2BAL;3OVER BAL;2BALAG;2BAR;2BARA2;2BI;3TIMES A;4GAR",
   "1204C=0CUNEIFORM SIGN BI TIMES IGI GUNU;2BU;3OVER BU AB;5UN;3CROSSING BU;2BULUG;3OVER BULUG",
   "12053=0CUNEIFORM SIGN BUR;2BUR2;2DA;2DAG;3KISIM5 TIMES A PLUS MASH;5AMAR;5BALAG;5BI;5GA",
   "1205C=0CUNEIFORM SIGN DAG KISIM5 TIMES GA PLUS MASH;5GI;5GIR2;5GUD;5HA;5IR;6PLUS LU;5KAK;5LA",
   "12065=0CUNEIFORM SIGN DAG KISIM5 TIMES LU;6PLUS MASH2;5LUM;5NE;5PAP PLUS PAP;5SI;5TAK4",
   "1206C=0CUNEIFORM SIGN DAG KISIM5 TIMES U2 PLUS GIR2;5USH;2DAM;2DAR;2DARA3;2DARA4;2DI;2DIB",
   "12074=0CUNEIFORM SIGN DIM;3TIMES SHE;2DIM2;2DIN;3KASKAL U GUNU DISH;2DISH;2DU;3OVER DU;3GUNU",
   "1207D=0CUNEIFORM SIGN DU SHESHIG;2DUB;3TIMES ESH2;2DUB2;2DUG;2DUGUD;2DUH;2DUN;2DUN3;3GUNU",
   "12087=0CUNEIFORM SIGN DUN3 GUNU GUNU;2DUN4;2DUR2;2E;3TIMES PAP;3OVER E NUN OVER NUN;2E2",
   "1208E=0CUNEIFORM SIGN E2 TIMES A PLUS HA PLUS DA;4GAR;4MI;4SAL;4SHE;4U;2EDIN;2EGIR;2EL;2EN",
   "12098=0CUNEIFORM SIGN EN TIMES GAN2;5TENU;4ME;3CROSSING EN;3OPPOSING EN;3SQUARED;2EREN;2ERIN2",
   "120A0=0CUNEIFORM SIGN ESH2;2EZEN;3TIMES A;5PLUS LAL;7TIMES LAL;4AN;4BAD;4DUN3 GUNU;6GUNU;4HA",
   "120AA=0CUNEIFORM SIGN EZEN TIMES HA GUNU;4IGI GUNU;4KASKAL;5SQUARED;4KU3;4LA;4LAL TIMES LAL",
   "120B1=0CUNEIFORM SIGN EZEN TIMES LI;4LU;4U2;4UD;2GA;3GUNU;2GA2;3TIMES A PLUS DA PLUS HA;6HA",
   "120BA=0CUNEIFORM SIGN GA2 TIMES A PLUS IGI;4AB2 TENU PLUS TAB;4AN;4ASH;4ASH2 PLUS GAL;4BAD",
   "120C0=0CUNEIFORM SIGN GA2 TIMES BAR PLUS RA;4BUR;5PLUS RA;4DA;4DI;4DIM TIMES SHE;4DUB;4EL",
   "120C8=0CUNEIFORM SIGN GA2 TIMES EL PLUS LA;4EN;5TIMES GAN2 TENU;4GAN2 TENU;4GAR;4GI;4GI4",
   "120CF=0CUNEIFORM SIGN GA2 TIMES GI4 PLUS A;4GIR2 PLUS SU;4HA PLUS LU PLUS ESH2;4HAL;5PLUS LA",
   "120D4=0CUNEIFORM SIGN GA2 TIMES HI PLUS LI;4HUB2;4IGI GUNU;4ISH PLUS HU PLUS ASH;4KAK;4KASKAL",
   "120DA=0CUNEIFORM SIGN GA2 TIMES KID;5PLUS LAL;4KU3 PLUS AN;4LA;4ME PLUS EN;4MI;4NUN;5OVER NUN",
   "120E2=0CUNEIFORM SIGN GA2 TIMES PA;4SAL;4SAR;4SHE;5PLUS TUR;4SHID;4SUM;4TAK4;4U;4UD;5PLUS DU",
   "120ED=0CUNEIFORM SIGN GA2 OVER GA2;2GABA;3CROSSING GABA;2GAD;3OVER GAD GAR OVER GAR;2GAL",
   "120F3=0CUNEIFORM SIGN GAL GAD OVER GAD GAR OVER GAR;2GALAM;2GAM;2GAN;2GAN2;3TENU;3OVER GAN2",
   "120FA=0CUNEIFORM SIGN GAN2 CROSSING GAN2;2GAR;2GAR3;2GASHAN;2GESHTIN;3TIMES KUR;2GI;3TIMES E",
   "12102=0CUNEIFORM SIGN GI TIMES U;3CROSSING GI;2GI4;3OVER GI4;3CROSSING GI4;2GIDIM;2GIR2;3GUNU",
   "1210A=0CUNEIFORM SIGN GIR3;3TIMES A PLUS IGI;4GAN2 TENU;4IGI;4LU PLUS IGI;4PA;2GISAL;2GISH",
   "12112=0CUNEIFORM SIGN GISH CROSSING GISH;3TIMES BAD;4TAK4;3TENU;2GU;3CROSSING GU;2GU2",
   "12119=0CUNEIFORM SIGN GU2 TIMES KAK;5TIMES IGI GUNU;4NUN;4SAL PLUS TUG2;3GUNU;2GUD",
   "1211F=0CUNEIFORM SIGN GUD TIMES A PLUS KUR;4KUR;3OVER GUD LUGAL;2GUL;2GUM;3TIMES SHE;2GUR",
   "12126=0CUNEIFORM SIGN GUR7;2GURUN;2GURUSH;2HA;3TENU;3GUNU;2HAL;2HI;3TIMES ASH;4ASH2;4BAD",
   "12131=0CUNEIFORM SIGN HI TIMES DISH;4GAD;4KIN;4NUN;4SHE;4U;2HU;2HUB2;3TIMES AN;4HAL;4KASKAL",
   "1213C=0CUNEIFORM SIGN HUB2 TIMES LISH;4UD;2HUL2;2I;3A;2IB;2IDIM;3OVER IDIM BUR;5SQUARED;2IG",
   "12146=0CUNEIFORM SIGN IGI;3DIB;3RI;3OVER IGI SHIR OVER SHIR UD OVER UD;3GUNU;2IL",
   "1214C=0CUNEIFORM SIGN IL TIMES GAN2 TENU;2IL2;2IM;3TIMES TAK4;3CROSSING IM;3OPPOSING IM",
   "12152=0CUNEIFORM SIGN IM SQUARED;2IMIN;2IN;2IR;2ISH;2KA;3TIMES A;4AD;5PLUS KU3;4ASH2;4BAD",
   "1215D=0CUNEIFORM SIGN KA TIMES BALAG;4BAR;4BI;4ERIN2;4ESH2;4GA;4GAL;4GAN2 TENU;4GAR",
   "12166=0CUNEIFORM SIGN KA TIMES GAR PLUS SHA3 PLUS A;4GI;4GIR2;4GISH PLUS SAR;5CROSSING GISH",
   "1216B=0CUNEIFORM SIGN KA TIMES GU;4GUR7;4IGI;4IM;4KAK;4KI;4KID;4LI;4LU;4ME;5PLUS DU;6GI;6TE",
   "12178=0CUNEIFORM SIGN KA TIMES MI;5PLUS NUNUZ;4NE;4NUN;4PI;4RU;4SA;4SAR;4SHA;4SHE;4SHID;4SHU",
   "12184=0CUNEIFORM SIGN KA TIMES SIG;4SUHUR;4TAR;4U;4U2;4UD;4UMUM TIMES PA;4USH;4ZI;2KA2",
   "1218E=0CUNEIFORM SIGN KA2 CROSSING KA2;2KAB;2KAD2;2KAD3;2KAD4;2KAD5;3OVER KAD5;2KAK",
   "12196=0CUNEIFORM SIGN KAK TIMES IGI GUNU;2KAL;3TIMES BAD;3CROSSING KAL;2KAM2;2KAM4;2KASKAL",
   "1219D=0CUNEIFORM SIGN KASKAL LAGAB TIMES U OVER LAGAB TIMES U",
   "1219E=0CUNEIFORM SIGN KASKAL OVER KASKAL LAGAB TIMES U OVER LAGAB TIMES U;2KESH2;2KI",
   "121A1=0CUNEIFORM SIGN KI TIMES BAD;4U;4UD;2KID;2KIN;2KISAL;2KISH;2KISIM5;3OVER KISIM5;2KU",
   "121AB=0CUNEIFORM SIGN KU OVER HI TIMES ASH2 KU OVER HI TIMES ASH2;2KU3;2KU4;3VARIANT FORM",
   "121AF=0CUNEIFORM SIGN KU7;2KUL;3GUNU;2KUN;2KUR;3OPPOSING KUR;2KUSHU2;2KWU318;2LA;2LAGAB",
   "121B9=0CUNEIFORM SIGN LAGAB TIMES A;5PLUS DA PLUS HA;6GAR;6LAL;4AL;4AN;4ASH ZIDA TENU;4BAD",
   "121C1=0CUNEIFORM SIGN LAGAB TIMES BI;4DAR;4EN;4GA;4GAR;4GUD;5PLUS GUD;4HA;4HAL;4HI TIMES NUN",
   "121CB=0CUNEIFORM SIGN LAGAB TIMES IGI GUNU;4IM;5PLUS HA;6LU;4KI;4KIN;4KU3;4KUL",
   "121D3=0CUNEIFORM SIGN LAGAB TIMES KUL PLUS HI PLUS A;4LAGAB;4LISH;4LU;4LUL;4ME;5PLUS EN;4MUSH",
   "121DB=0CUNEIFORM SIGN LAGAB TIMES NE;4SHE PLUS SUM;4SHITA PLUS GISH PLUS ERIN2;7TENU;4SHU2",
   "121E0=0CUNEIFORM SIGN LAGAB TIMES SHU2 PLUS SHU2;4SUM;4TAG;4TAK4;4TE PLUS A PLUS SU PLUS NA",
   "121E5=0CUNEIFORM SIGN LAGAB TIMES U;5PLUS A;6U PLUS U;4U2 PLUS ASH;4UD;4USH;3SQUARED;2LAGAR",
   "121ED=0CUNEIFORM SIGN LAGAR TIMES SHE;5PLUS SUM;3GUNU;4OVER LAGAR GUNU SHE;2LAHSHU;2LAL",
   "121F3=0CUNEIFORM SIGN LAL TIMES LAL;2LAM;3TIMES KUR;5PLUS RU;2LI;2LIL;2LIMMU2;2LISH;2LU",
   "121FC=0CUNEIFORM SIGN LU TIMES BAD;2LU2;3TIMES AL;4BAD;4ESH2;5TENU;4GAN2 TENU;4HI TIMES BAD",
   "12204=0CUNEIFORM SIGN LU2 TIMES IM;4KAD2;4KAD3;5PLUS ASH;4KI;4LA PLUS ASH;4LAGAB;4ME PLUS EN",
   "1220C=0CUNEIFORM SIGN LU2 TIMES NE;4NU;4SI PLUS ASH;4SIK2 PLUS BU;4TUG2;3TENU;3CROSSING LU2",
   "12213=0CUNEIFORM SIGN LU2 OPPOSING LU2;3SQUARED;3SHESHIG;2LU3;2LUGAL;3OVER LUGAL",
   "12219=0CUNEIFORM SIGN LUGAL OPPOSING LUGAL;3SHESHIG;2LUH;2LUL;2LUM;3OVER LUM;5GAR OVER GAR",
   "12220=0CUNEIFORM SIGN MA;3TIMES TAK4;3GUNU;2MA2;2MAH;2MAR;2MASH;2MASH2;2ME;2MES;2MI;2MIN;2MU",
   "1222D=0CUNEIFORM SIGN MU OVER MU;2MUG;3GUNU;2MUNSUB;2MURGU2;2MUSH;3TIMES A;4KUR;4ZA",
   "12236=0CUNEIFORM SIGN MUSH OVER MUSH;5TIMES A PLUS NA;3CROSSING MUSH;2MUSH3;3TIMES A;5PLUS DI",
   "1223C=0CUNEIFORM SIGN MUSH3 TIMES DI;3GUNU;2NA;2NA2;2NAGA;3INVERTED;3TIMES SHU TENU",
   "12243=0CUNEIFORM SIGN NAGA OPPOSING NAGA;2NAGAR;2NAM NUTILLU;3;2NAM2;2NE;3TIMES A;4UD",
   "1224B=0CUNEIFORM SIGN NE SHESHIG;2NI;3TIMES E;2NI2;2NIM;3TIMES GAN2 TENU;4GAR PLUS GAN2 TENU",
   "12252=0CUNEIFORM SIGN NINDA2;3TIMES AN;4ASH;5PLUS ASH;4GUD;4ME PLUS GAN2 TENU;4NE;4NUN;4SHE",
   "1225B=0CUNEIFORM SIGN NINDA2 TIMES SHE PLUS A AN;6ASH;7PLUS ASH;4U2 PLUS ASH;4USH;2NISAG;2NU",
   "12262=0CUNEIFORM SIGN NU11;2NUN;3LAGAR TIMES GAR;5MASH;5SAL;6OVER NUN LAGAR TIMES SAL;5USH",
   "12269=0CUNEIFORM SIGN NUN TENU;3OVER NUN;3CROSSING NUN;5LAGAR OVER LAGAR;2NUNUZ",
   "1226E=0CUNEIFORM SIGN NUNUZ AB2 TIMES ASHGAB;5BI;5DUG;5GUD;5IGI GUNU;5KAD3;5LA;5NE;5SILA3;5U2",
   "12278=0CUNEIFORM SIGN NUNUZ KISIM5 TIMES BI;6U;2PA;2PAD;2PAN;2PAP;2PESH2;2PI;3TIMES A;4AB;4BI",
   "12283=0CUNEIFORM SIGN PI TIMES BU;4E;4I;4IB;4U;4U2;3CROSSING PI;2PIRIG;3TIMES KAL;4UD;4ZA",
   "1228E=0CUNEIFORM SIGN PIRIG OPPOSING PIRIG;2RA;2RAB;2RI;2RU;2SA;2SAG NUTILLU;3;3TIMES A;4DU",
   "12298=0CUNEIFORM SIGN SAG TIMES DUB;4HA;4KAK;4KUR;4LUM;4MI;4NUN;4SAL;4SHID;4TAB;4U2;4UB;4UM",
   "122A5=0CUNEIFORM SIGN SAG TIMES UR;4USH;3OVER SAG;3GUNU;2SAL;3LAGAB TIMES ASH2;2SANGA2;2SAR",
   "122AD=0CUNEIFORM SIGN SHA;2SHA3;3TIMES A;4BAD;4GISH;4NE;4SHU2;4TUR;4U;5PLUS A;2SHA6;2SHAB6",
   "122B9=0CUNEIFORM SIGN SHAR2;2SHE;3HU;3OVER SHE GAD OVER GAD GAR OVER GAR",
   "122BD=0CUNEIFORM SIGN SHE OVER SHE TAB OVER TAB GAR OVER GAR;2SHEG9;2SHEN;2SHESH;2SHESH2",
   "122C2=0CUNEIFORM SIGN SHESHLAM;2SHID;3TIMES A;4IM;2SHIM;3TIMES A;4BAL;4BULUG;4DIN;4GAR;4IGI",
   "122CD=0CUNEIFORM SIGN SHIM TIMES IGI GUNU;4KUSHU2;4LUL;4MUG;4SAL;2SHINIG;2SHIR;3TENU",
   "122D5=0CUNEIFORM SIGN SHIR OVER SHIR BUR OVER BUR;2SHITA;2SHU;3OVER INVERTED SHU;2SHU2",
   "122DA=0CUNEIFORM SIGN SHUBUR;2SI;3GUNU;2SIG;2SIG4;3OVER SIG4 SHU2;2SIK2;2SILA3;2SU;3OVER SU",
   "122E4=0CUNEIFORM SIGN SUD;2SUD2;2SUHUR;2SUM;2SUMASH;2SUR;2SUR9;2TA;3ASTERISK;3TIMES HI;4MI",
   "122EF=0CUNEIFORM SIGN TA GUNU;2TAB;3OVER TAB NI OVER NI DISH OVER DISH;3SQUARED;2TAG",
   "122F4=0CUNEIFORM SIGN TAG TIMES BI;4GUD;4SHE;4SHU;4TUG2;4UD;2TAK4;2TAR;2TE;3GUNU;2TI;3TENU",
   "12300=0CUNEIFORM SIGN TIL;2TIR;3TIMES TAK4;3OVER TIR;5GAD OVER GAD GAR OVER GAR;2TU;2TUG2",
   "12307=0CUNEIFORM SIGN TUK;2TUM;2TUR;3OVER TUR ZA OVER ZA;2U;3GUD;3U U",
   "1230E=0CUNEIFORM SIGN U OVER U PA OVER PA GAR OVER GAR;5SUR OVER SUR",
   "12310=0CUNEIFORM SIGN U OVER U U REVERSED OVER U REVERSED;2U2;2UB;2UD;3KUSHU2;3TIMES BAD;4MI",
   "12317=0CUNEIFORM SIGN UD TIMES U PLUS U PLUS U;9GUNU;3GUNU;3SHESHIG;4TIMES BAD;2UDUG;2UM",
   "1231E=0CUNEIFORM SIGN UM TIMES LAGAB;4ME PLUS DA;4SHA3;4U;2UMBIN;2UMUM;3TIMES KASKAL;4PA;2UN",
   "12327=0CUNEIFORM SIGN UN GUNU;2UR;3CROSSING UR;3SHESHIG;2UR2;3TIMES A PLUS HA;6NA;4AL;4HA",
   "12330=0CUNEIFORM SIGN UR2 TIMES NUN;4U2;5PLUS ASH;6BI;2UR4;2URI;2URI3;2URU;3TIMES A;4ASHGAB",
   "1233A=0CUNEIFORM SIGN URU TIMES BAR;4DUN;4GA;4GAL;4GAN2 TENU;4GAR;4GU;4HA;4IGI;4IM;4ISH;4KI",
   "12346=0CUNEIFORM SIGN URU TIMES LUM;4MIN;4PA;4SHE;4SIG4;4TU;4U PLUS GUD;4UD;4URUDA;2URUDA",
   "12350=0CUNEIFORM SIGN URUDA TIMES U;2USH;3TIMES A;4KU;4KUR;4TAK4;2USHX;2USH2;2USHUMX;2UTUKI",
   "1235A=0CUNEIFORM SIGN UZ3;3TIMES KASKAL;2UZU;2ZA;3TENU;3SQUARED TIMES KUR;2ZAG;2ZAMX;2ZE2;2ZI",
   "12364=0CUNEIFORM SIGN ZI OVER ZI;2ZI3;2ZIB;3KABA TENU;2ZIG;2ZIZ2;2ZU;2ZU5;3TIMES A;2ZUBUR",
   "1236E=0CUNEIFORM SIGN ZUM;2KAP ELAMITE;2AB TIMES NUN;2AB2 TIMES A;2AMAR TIMES KUG",
   "12373=0CUNEIFORM SIGN DAG KISIM5 TIMES U2 PLUS MASH;2DAG3;2DISH PLUS SHU;2DUB TIMES SHE",
   "12377=0CUNEIFORM SIGN EZEN TIMES GUD;4SHE;2GA2 TIMES AN PLUS KAK PLUS A;4ASH2;2GE22;2GIG",
   "1237D=0CUNEIFORM SIGN HUSH;2KA TIMES ANSHE;4ASH3;4GISH;4GUD;4HI TIMES ASH2;4LUM;4PA;4SHUL;4TU",
   "12387=0CUNEIFORM SIGN KA TIMES UR2;2LAGAB TIMES GI;2LU2 SHESHIG TIMES BAD",
   "1238A=0CUNEIFORM SIGN LU2 TIMES ESH2 PLUS LAL;4SHU;2MESH;2MUSH3 TIMES ZA;2NA4;2NIN;2NIN9",
   "12391=0CUNEIFORM SIGN NINDA2 TIMES BAL;4GI;2NU11 ROTATED NINETY DEGREES;2PESH2 ASTERISK;2PIR2",
   "12396=0CUNEIFORM SIGN SAG TIMES IGI GUNU;2TI2;2UM TIMES ME;2U U;12400=1NUMERIC SIGN TWO ASH",
   "12401=0CUNEIFORM NUMERIC SIGN THREE ASH;3FOUR ASH;3FIVE ASH;3SIX ASH;3SEVEN ASH;3EIGHT ASH",
   "12407=0CUNEIFORM NUMERIC SIGN NINE ASH;3THREE DISH;3FOUR DISH;3FIVE DISH;3SIX DISH",
   "1240C=0CUNEIFORM NUMERIC SIGN SEVEN DISH;3EIGHT DISH;3NINE DISH;3FOUR U;3FIVE U;3SIX U",
   "12412=0CUNEIFORM NUMERIC SIGN SEVEN U;3EIGHT U;3NINE U;3ONE GESH2;3TWO GESH2;3THREE GESH2",
   "12418=0CUNEIFORM NUMERIC SIGN FOUR GESH2;3FIVE GESH2;3SIX GESH2;3SEVEN GESH2;3EIGHT GESH2",
   "1241D=0CUNEIFORM NUMERIC SIGN NINE GESH2;3ONE GESHU;3TWO GESHU;3THREE GESHU;3FOUR GESHU",
   "12422=0CUNEIFORM NUMERIC SIGN FIVE GESHU;3TWO SHAR2;3THREE SHAR2;5VARIANT FORM;3FOUR SHAR2",
   "12427=0CUNEIFORM NUMERIC SIGN FIVE SHAR2;3SIX SHAR2;3SEVEN SHAR2;3EIGHT SHAR2;3NINE SHAR2",
   "1242C=0CUNEIFORM NUMERIC SIGN ONE SHARU;3TWO SHARU;3THREE SHARU;5VARIANT FORM;3FOUR SHARU",
   "12431=0CUNEIFORM NUMERIC SIGN FIVE SHARU;3SHAR2 TIMES GAL PLUS DISH;7MIN;3ONE BURU;3TWO BURU",
   "12436=0CUNEIFORM NUMERIC SIGN THREE BURU;5VARIANT FORM;3FOUR BURU;3FIVE BURU",
   "1243A=0CUNEIFORM NUMERIC SIGN THREE VARIANT FORM ESH16;6ESH21;3FOUR VARIANT FORM LIMMU",
   "1243D=0CUNEIFORM NUMERIC SIGN FOUR VARIANT FORM LIMMU4;6LIMMU A;7B;3SIX VARIANT FORM ASH9",
   "12441=0CUNEIFORM NUMERIC SIGN SEVEN VARIANT FORM IMIN3;6IMIN A;7B;3EIGHT VARIANT FORM USSU",
   "12445=0CUNEIFORM NUMERIC SIGN EIGHT VARIANT FORM USSU3;3NINE VARIANT FORM ILIMMU;6ILIMMU3",
   "12448=0CUNEIFORM NUMERIC SIGN NINE VARIANT FORM ILIMMU4;6ILIMMU A;3TWO ASH TENU",
   "1244B=0CUNEIFORM NUMERIC SIGN THREE ASH TENU;3FOUR ASH TENU;3FIVE ASH TENU;3SIX ASH TENU",
   "1244F=0CUNEIFORM NUMERIC SIGN ONE BAN2;3TWO BAN2;3THREE BAN2;3FOUR BAN2;5VARIANT FORM",
   "12454=0CUNEIFORM NUMERIC SIGN FIVE BAN2;5VARIANT FORM;3NIGIDAMIN;3NIGIDAESH;3ONE ESHE3",
   "12459=0CUNEIFORM NUMERIC SIGN TWO ESHE3;3ONE THIRD DISH;3TWO THIRDS DISH;3FIVE SIXTHS DISH",
   "1245D=0CUNEIFORM NUMERIC SIGN ONE THIRD VARIANT FORM A;3TWO THIRDS VARIANT FORM A",
   "1245F=0CUNEIFORM NUMERIC SIGN ONE EIGHTH ASH;4QUARTER ASH;3OLD ASSYRIAN ONE SIXTH;6QUARTER",
   "12463=0CUNEIFORM NUMERIC SIGN ONE QUARTER GUR;4HALF GUR;3ELAMITE ONE THIRD;4TWO THIRDS;4FORTY",
   "12468=0CUNEIFORM NUMERIC SIGN ELAMITE FIFTY;3FOUR U VARIANT FORM;3FIVE U VARIANT FORM",
   "1246B=0CUNEIFORM NUMERIC SIGN SIX U VARIANT FORM;3SEVEN U VARIANT FORM;3EIGHT U VARIANT FORM",
   "1246E=0CUNEIFORM NUMERIC SIGN NINE U VARIANT FORM",
   "12470=0CUNEIFORM PUNCTUATION SIGN OLD ASSYRIAN WORD DIVIDER;3VERTICAL COLON;3DIAGONAL COLON",
   "12473=0CUNEIFORM PUNCTUATION SIGN DIAGONAL TRICOLON;4QUADCOLON;12480=1SIGN AB TIMES NUN TENU",
   "12481=0CUNEIFORM SIGN AB TIMES SHU2;2AD TIMES ESH2;2BAD TIMES DISH TENU;2BAHAR2 TIMES AB2;4NI",
   "12486=0CUNEIFORM SIGN BAHAR2 TIMES ZA;2BU OVER BU TIMES NA2;2DA TIMES TAK4;2DAG TIMES KUR",
   "1248A=0CUNEIFORM SIGN DIM TIMES IGI;4U U U;2DIM2 TIMES UD;2DUG TIMES ANSHE;4ASH;5AT LEFT;4DIN",
   "12491=0CUNEIFORM SIGN DUG TIMES DUN;4ERIN2;4GA;4GI;4GIR2 GUNU;4GISH;4HA;4HI;4IGI GUNU;4KASKAL",
   "1249B=0CUNEIFORM SIGN DUG TIMES KUR;4KUSHU2;5PLUS KASKAL;4LAK-020;4LAM;5TIMES KUR",
   "124A1=0CUNEIFORM SIGN DUG TIMES LUH PLUS GISH;4MASH;4MES;4MI;4NI;4PI;4SHE;4SI GUNU",
   "124A9=0CUNEIFORM SIGN E2 TIMES KUR;4PAP;2ERIN2 X;2ESH2 CROSSING ESH2;2EZEN SHESHIG TIMES ASH",
   "124AE=0CUNEIFORM SIGN EZEN SHESHIG TIMES HI;5IGI GUNU;5LA;5LAL;5ME;5MES;5SU;3TIMES SU",
   "124B6=0CUNEIFORM SIGN GA2 TIMES BAHAR2;4DIM GUNU;4DUG TIMES IGI GUNU;6KASKAL;4EREN;4GA",
   "124BC=0CUNEIFORM SIGN GA2 TIMES GAR PLUS DI;6NE;4HA PLUS A;4KUSHU2 PLUS KASKAL;4LAM",
   "124C1=0CUNEIFORM SIGN GA2 TIMES LAM TIMES KUR;4LUH;4MUSH;4NE;5PLUS E2;6GI;4SHIM;4ZIZ2",
   "124C9=0CUNEIFORM SIGN GABA ROTATED NINETY DEGREES;2GESHTIN TIMES U",
   "124CB=0CUNEIFORM SIGN GISH TIMES GISH CROSSING GISH;2GU2 TIMES IGI GUNU",
   "124CD=0CUNEIFORM SIGN GUD PLUS GISH TIMES TAK4;2HA TENU GUNU;2HI TIMES ASH OVER HI TIMES ASH",
   "124D0=0CUNEIFORM SIGN KA TIMES BU;4KA;4U U U;4UR;2LAGAB TIMES ZU OVER ZU;2LAK-003;2LAK-021",
   "124D7=0CUNEIFORM SIGN LAK-025;2LAK-030;2LAK-050;2LAK-051;2LAK-062;2LAK-079 OVER LAK-079 GUNU",
   "124DD=0CUNEIFORM SIGN LAK-080;2LAK-081 OVER LAK-081;2LAK-092;2LAK-130;2LAK-142;2LAK-210",
   "124E3=0CUNEIFORM SIGN LAK-219;2LAK-220;2LAK-225;2LAK-228;2LAK-238;2LAK-265;2LAK-266;2LAK-343",
   "124EB=0CUNEIFORM SIGN LAK-347;2LAK-348;2LAK-383;2LAK-384;2LAK-390;2LAK-441;2LAK-449;3TIMES GU",
   "124F3=0CUNEIFORM SIGN LAK-449 TIMES IGI;4PAP PLUS LU3;6PAP PLUS LU3;4U2 PLUS BA;2LAK-450",
   "124F8=0CUNEIFORM SIGN LAK-457;2LAK-470;2LAK-483;2LAK-490;2LAK-492;2LAK-493;2LAK-495;2LAK-550",
   "12500=0CUNEIFORM SIGN LAK-608;2LAK-617;3TIMES ASH;4BAD;4DUN3 GUNU GUNU;4KU3;4LA;4TAR;4TE;4U2",
   "1250A=0CUNEIFORM SIGN LAK-617 TIMES UD;4URUDA;2LAK-636;2LAK-648;3TIMES DUB;4GA;4IGI;5GUNU;4NI",
   "12513=0CUNEIFORM SIGN LAK-648 TIMES PAP PLUS PAP PLUS LU3;4SHESH PLUS KI;4UD;4URUDA;2LAK-724",
   "12518=0CUNEIFORM SIGN LAK-749;2LU2 GUNU TIMES ASH;3TIMES DISH;4HAL;4PAP;5PLUS PAP PLUS LU3",
   "1251E=0CUNEIFORM SIGN LU2 TIMES TAK4;2MI PLUS ZA7;2MUSH OVER MUSH TIMES GA;6KAK",
   "12522=0CUNEIFORM SIGN NINDA2 TIMES DIM GUNU;4GISH;4GUL;4HI;4KESH2;4LAK-050;4MASH",
   "12529=0CUNEIFORM SIGN NINDA2 TIMES PAP PLUS PAP;4U;5PLUS U;4URUDA;2SAG GUNU TIMES HA",
   "1252E=0CUNEIFORM SIGN SAG TIMES EN;4SHE AT LEFT;4TAK4;2SHA6 TENU;2SHE OVER SHE;3PLUS HUB2",
   "12534=0CUNEIFORM SIGN SHE PLUS NAM2;4SAR;2SHU2 PLUS DUG TIMES NI;4E2 TIMES AN;2SI TIMES TAK4",
   "12539=0CUNEIFORM SIGN TAK4 PLUS SAG;2TUM TIMES GAN2 TENU;4THREE DISH;2UR2 INVERTED;3TIMES UD",
   "1253E=0CUNEIFORM SIGN URU TIMES DARA3;4LAK-668;4LU3;2ZA7;2ZU OVER ZU PLUS SAR",
   "12543=0CUNEIFORM SIGN ZU5 TIMES THREE DISH TENU;12F90=0CYPRO-MINOAN SIGN CM001;2CM002;2CM004",
   "12F93=0CYPRO-MINOAN SIGN CM005;2CM006;2CM007;2CM008;2CM009;2CM010;2CM011;2CM012;2CM012B",
   "12F9C=0CYPRO-MINOAN SIGN CM013;2CM015;2CM017;2CM019;2CM021;2CM023;2CM024;2CM025;2CM026;2CM027",
   "12FA6=0CYPRO-MINOAN SIGN CM028;2CM029;2CM030;2CM033;2CM034;2CM035;2CM036;2CM037;2CM038;2CM039",
   "12FB0=0CYPRO-MINOAN SIGN CM040;2CM041;2CM044;2CM046;2CM047;2CM049;2CM050;2CM051;2CM052;2CM053",
   "12FBA=0CYPRO-MINOAN SIGN CM054;2CM055;2CM056;2CM058;2CM059;2CM060;2CM061;2CM062;2CM063;2CM064",
   "12FC4=0CYPRO-MINOAN SIGN CM066;2CM067;2CM068;2CM069;2CM070;2CM071;2CM072;2CM073;2CM074;2CM075",
   "12FCE=0CYPRO-MINOAN SIGN CM075B;2CM076;2CM078;2CM079;2CM080;2CM081;2CM082;2CM083;2CM084",
   "12FD7=0CYPRO-MINOAN SIGN CM085;2CM086;2CM087;2CM088;2CM089;2CM090;2CM091;2CM092;2CM094;2CM095",
   "12FE1=0CYPRO-MINOAN SIGN CM096;2CM097;2CM098;2CM099;2CM100;2CM101;2CM102;2CM103;2CM104;2CM105",
   "12FEB=0CYPRO-MINOAN SIGN CM107;2CM108;2CM109;2CM110;2CM112;2CM114;2CM301;2CM302"]

end Signpost.Text.CharacterName
