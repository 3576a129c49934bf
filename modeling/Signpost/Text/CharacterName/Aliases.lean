namespace Signpost.Text.CharacterName

-- Rows of names. A code with an equals sign goes before a name that does not follow its
-- predecessor; the digit says how many words are taken over from the name before.
def aliases : List String :=
  ["0=0NUL;0=0NULL;1=0SOH;1=0START OF HEADING;2=0START OF TEXT;2=0STX;3=0END OF TEXT;3=0ETX",
   "4=0END OF TRANSMISSION;4=0EOT;5=0ENQ;5=0ENQUIRY;6=0ACK;6=0ACKNOWLEDGE;7=0ALERT;7=0BEL",
   "8=0BACKSPACE;8=0BS;9=0CHARACTER TABULATION;9=0HORIZONTAL TABULATION;9=0HT;9=0TAB",
   "A=0END OF LINE;A=0EOL;A=0LF;A=0LINE FEED;A=0NEW LINE;A=0NL;B=0LINE TABULATION",
   "B=0VERTICAL TABULATION;B=0VT;C=0FF;C=0FORM FEED;D=0CARRIAGE RETURN;D=0CR;E=0LOCKING-SHIFT ONE",
   "E=0SHIFT OUT;E=0SO;F=0LOCKING-SHIFT ZERO;F=0SHIFT IN;F=0SI;10=0DATA LINK ESCAPE;10=0DLE",
   "11=0DC1;11=0DEVICE CONTROL ONE;12=0DC2;12=0DEVICE CONTROL TWO;13=0DC3",
   "13=0DEVICE CONTROL THREE;14=0DC4;14=0DEVICE CONTROL FOUR;15=0NAK;15=0NEGATIVE ACKNOWLEDGE",
   "16=0SYN;16=0SYNCHRONOUS IDLE;17=0END OF TRANSMISSION BLOCK;17=0ETB;18=0CAN;18=0CANCEL;19=0EM",
   "19=0END OF MEDIUM;19=0EOM;1A=0SUB;1A=0SUBSTITUTE;1B=0ESC;1B=0ESCAPE;1C=0FILE SEPARATOR;1C=0FS",
   "1C=0INFORMATION SEPARATOR FOUR;1D=0GROUP SEPARATOR;1D=0GS;1D=0INFORMATION SEPARATOR THREE",
   "1E=0INFORMATION SEPARATOR TWO;1E=0RECORD SEPARATOR;1E=0RS;1F=0INFORMATION SEPARATOR ONE",
   "1F=0UNIT SEPARATOR;1F=0US;20=0SP;7F=0DEL;7F=0DELETE;80=0PAD;80=0PADDING CHARACTER",
   "81=0HIGH OCTET PRESET;81=0HOP;82=0BPH;82=0BREAK PERMITTED HERE;83=0NBH;83=0NO BREAK HERE",
   "84=0IND;84=0INDEX;85=0NEL;85=0NEXT LINE;86=0SSA;86=0START OF SELECTED AREA",
   "87=0END OF SELECTED AREA;87=0ESA;88=0CHARACTER TABULATION SET;88=0HORIZONTAL TABULATION SET",
   "88=0HTS;89=0CHARACTER TABULATION WITH JUSTIFICATION",
   "89=0HORIZONTAL TABULATION WITH JUSTIFICATION;89=0HTJ;8A=0LINE TABULATION SET",
   "8A=0VERTICAL TABULATION SET;8A=0VTS;8B=0PARTIAL LINE DOWN;8B=0PARTIAL LINE FORWARD;8B=0PLD",
   "8C=0PARTIAL LINE BACKWARD;8C=0PARTIAL LINE UP;8C=0PLU;8D=0REVERSE INDEX;8D=0REVERSE LINE FEED",
   "8D=0RI;8E=0SINGLE SHIFT TWO;8E=0SINGLE-SHIFT-2;8E=0SS2;8F=0SINGLE SHIFT THREE",
   "8F=0SINGLE-SHIFT-3;8F=0SS3;90=0DCS;90=0DEVICE CONTROL STRING;91=0PRIVATE USE ONE",
   "91=0PRIVATE USE-1;91=0PU1;92=0PRIVATE USE TWO;92=0PRIVATE USE-2;92=0PU2",
   "93=0SET TRANSMIT STATE;93=0STS;94=0CANCEL CHARACTER;94=0CCH;95=0MESSAGE WAITING;95=0MW",
   "96=0SPA;96=0START OF GUARDED AREA;96=0START OF PROTECTED AREA;97=0END OF GUARDED AREA",
   "97=0END OF PROTECTED AREA;97=0EPA;98=0SOS;98=0START OF STRING;99=0SGC",
   "99=0SINGLE GRAPHIC CHARACTER INTRODUCER;9A=0SCI;9A=0SINGLE CHARACTER INTRODUCER",
   "9B=0CONTROL SEQUENCE INTRODUCER;9B=0CSI;9C=0ST;9C=0STRING TERMINATOR",
   "9D=0OPERATING SYSTEM COMMAND;9D=0OSC;9E=0PM;9E=0PRIVACY MESSAGE;9F=0APC",
   "9F=0APPLICATION PROGRAM COMMAND;A0=0NBSP;AD=0SHY;1A2=0LATIN CAPITAL LETTER GHA",
   "1A3=0LATIN SMALL LETTER GHA;34F=0CGJ;616=0ARABIC SMALL HIGH LIGATURE ALEF WITH YEH BARREE",
   "61C=0ALM;709=0SYRIAC SUBLINEAR COLON SKEWED LEFT;CDE=0KANNADA LETTER LLLA",
   "E9D=0LAO LETTER FO FON;E9F=0LAO LETTER FO FAY;EA3=0LAO LETTER RO;EA5=0LAO LETTER LO",
   "FD0=0TIBETAN MARK BKA- SHOG GI MGO RGYAN;11EC=0HANGUL JONGSEONG YESIEUNG-KIYEOK",
   "11ED=0HANGUL JONGSEONG YESIEUNG-SSANGKIYEOK;11EE=0HANGUL JONGSEONG SSANGYESIEUNG",
   "11EF=0HANGUL JONGSEONG YESIEUNG-KHIEUKH;180B=0FVS1;180C=0FVS2;180D=0FVS3;180E=0MVS;180F=0FVS4",
   "1BBD=0SUNDANESE LETTER ARCHAIC I;200B=0ZWSP;200C=0ZWNJ;200D=0ZWJ;200E=0LRM;200F=0RLM",
   "202A=0LRE;202B=0RLE;202C=0PDF;202D=0LRO;202E=0RLO;202F=0NNBSP;205F=0MMSP;2060=0WJ;2066=0LRI",
   "2067=0RLI;2068=0FSI;2069=0PDI;2118=0WEIERSTRASS ELLIPTIC FUNCTION;2448=0MICR ON US SYMBOL",
   "2449=0MICR DASH SYMBOL;2B7A=0LEFTWARDS TRIANGLE-HEADED ARROW WITH DOUBLE VERTICAL STROKE",
   "2B7C=0RIGHTWARDS TRIANGLE-HEADED ARROW WITH DOUBLE VERTICAL STROKE",
   "A015=0YI SYLLABLE ITERATION MARK;AA6E=0MYANMAR LETTER KHAMTI LLA;FE00=0VS1;FE01=0VS2",
   "FE02=0VS3;FE03=0VS4;FE04=0VS5;FE05=0VS6;FE06=0VS7;FE07=0VS8;FE08=0VS9;FE09=0VS10;FE0A=0VS11",
   "FE0B=0VS12;FE0C=0VS13;FE0D=0VS14;FE0E=0VS15;FE0F=0VS16",
   "FE18=0PRESENTATION FORM FOR VERTICAL RIGHT WHITE LENTICULAR BRACKET;FEFF=0BOM",
   "FEFF=0BYTE ORDER MARK;FEFF=0ZWNBSP;122D4=0CUNEIFORM SIGN NU11 TENU",
   "122D5=0CUNEIFORM SIGN NU11 OVER NU11 BUR OVER BUR;16E56=0MEDEFAIDRIN CAPITAL LETTER H",
   "16E57=0MEDEFAIDRIN CAPITAL LETTER NG;16E76=0MEDEFAIDRIN SMALL LETTER H",
   "16E77=0MEDEFAIDRIN SMALL LETTER NG;1B001=0HENTAIGANA LETTER E-1",
   "1D0C5=0BYZANTINE MUSICAL SYMBOL FTHORA SKLIRON CHROMA VASIS;E0100=0VS17;E0101=0VS18",
   "E0102=0VS19;E0103=0VS20;E0104=0VS21;E0105=0VS22;E0106=0VS23;E0107=0VS24;E0108=0VS25",
   "E0109=0VS26;E010A=0VS27;E010B=0VS28;E010C=0VS29;E010D=0VS30;E010E=0VS31;E010F=0VS32",
   "E0110=0VS33;E0111=0VS34;E0112=0VS35;E0113=0VS36;E0114=0VS37;E0115=0VS38;E0116=0VS39",
   "E0117=0VS40;E0118=0VS41;E0119=0VS42;E011A=0VS43;E011B=0VS44;E011C=0VS45;E011D=0VS46",
   "E011E=0VS47;E011F=0VS48;E0120=0VS49;E0121=0VS50;E0122=0VS51;E0123=0VS52;E0124=0VS53",
   "E0125=0VS54;E0126=0VS55;E0127=0VS56;E0128=0VS57;E0129=0VS58;E012A=0VS59;E012B=0VS60",
   "E012C=0VS61;E012D=0VS62;E012E=0VS63;E012F=0VS64;E0130=0VS65;E0131=0VS66;E0132=0VS67",
   "E0133=0VS68;E0134=0VS69;E0135=0VS70;E0136=0VS71;E0137=0VS72;E0138=0VS73;E0139=0VS74",
   "E013A=0VS75;E013B=0VS76;E013C=0VS77;E013D=0VS78;E013E=0VS79;E013F=0VS80;E0140=0VS81",
   "E0141=0VS82;E0142=0VS83;E0143=0VS84;E0144=0VS85;E0145=0VS86;E0146=0VS87;E0147=0VS88",
   "E0148=0VS89;E0149=0VS90;E014A=0VS91;E014B=0VS92;E014C=0VS93;E014D=0VS94;E014E=0VS95",
   "E014F=0VS96;E0150=0VS97;E0151=0VS98;E0152=0VS99;E0153=0VS100;E0154=0VS101;E0155=0VS102",
   "E0156=0VS103;E0157=0VS104;E0158=0VS105;E0159=0VS106;E015A=0VS107;E015B=0VS108;E015C=0VS109",
   "E015D=0VS110;E015E=0VS111;E015F=0VS112;E0160=0VS113;E0161=0VS114;E0162=0VS115;E0163=0VS116",
   "E0164=0VS117;E0165=0VS118;E0166=0VS119;E0167=0VS120;E0168=0VS121;E0169=0VS122;E016A=0VS123",
   "E016B=0VS124;E016C=0VS125;E016D=0VS126;E016E=0VS127;E016F=0VS128;E0170=0VS129;E0171=0VS130",
   "E0172=0VS131;E0173=0VS132;E0174=0VS133;E0175=0VS134;E0176=0VS135;E0177=0VS136;E0178=0VS137",
   "E0179=0VS138;E017A=0VS139;E017B=0VS140;E017C=0VS141;E017D=0VS142;E017E=0VS143;E017F=0VS144",
   "E0180=0VS145;E0181=0VS146;E0182=0VS147;E0183=0VS148;E0184=0VS149;E0185=0VS150;E0186=0VS151",
   "E0187=0VS152;E0188=0VS153;E0189=0VS154;E018A=0VS155;E018B=0VS156;E018C=0VS157;E018D=0VS158",
   "E018E=0VS159;E018F=0VS160;E0190=0VS161;E0191=0VS162;E0192=0VS163;E0193=0VS164;E0194=0VS165",
   "E0195=0VS166;E0196=0VS167;E0197=0VS168;E0198=0VS169;E0199=0VS170;E019A=0VS171;E019B=0VS172",
   "E019C=0VS173;E019D=0VS174;E019E=0VS175;E019F=0VS176;E01A0=0VS177;E01A1=0VS178;E01A2=0VS179",
   "E01A3=0VS180;E01A4=0VS181;E01A5=0VS182;E01A6=0VS183;E01A7=0VS184;E01A8=0VS185;E01A9=0VS186",
   "E01AA=0VS187;E01AB=0VS188;E01AC=0VS189;E01AD=0VS190;E01AE=0VS191;E01AF=0VS192;E01B0=0VS193",
   "E01B1=0VS194;E01B2=0VS195;E01B3=0VS196;E01B4=0VS197;E01B5=0VS198;E01B6=0VS199;E01B7=0VS200",
   "E01B8=0VS201;E01B9=0VS202;E01BA=0VS203;E01BB=0VS204;E01BC=0VS205;E01BD=0VS206;E01BE=0VS207",
   "E01BF=0VS208;E01C0=0VS209;E01C1=0VS210;E01C2=0VS211;E01C3=0VS212;E01C4=0VS213;E01C5=0VS214",
   "E01C6=0VS215;E01C7=0VS216;E01C8=0VS217;E01C9=0VS218;E01CA=0VS219;E01CB=0VS220;E01CC=0VS221",
   "E01CD=0VS222;E01CE=0VS223;E01CF=0VS224;E01D0=0VS225;E01D1=0VS226;E01D2=0VS227;E01D3=0VS228",
   "E01D4=0VS229;E01D5=0VS230;E01D6=0VS231;E01D7=0VS232;E01D8=0VS233;E01D9=0VS234;E01DA=0VS235",
   "E01DB=0VS236;E01DC=0VS237;E01DD=0VS238;E01DE=0VS239;E01DF=0VS240;E01E0=0VS241;E01E1=0VS242",
   "E01E2=0VS243;E01E3=0VS244;E01E4=0VS245;E01E5=0VS246;E01E6=0VS247;E01E7=0VS248;E01E8=0VS249",
   "E01E9=0VS250;E01EA=0VS251;E01EB=0VS252;E01EC=0VS253;E01ED=0VS254;E01EE=0VS255;E01EF=0VS256"]

end Signpost.Text.CharacterName
