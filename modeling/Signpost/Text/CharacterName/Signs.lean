namespace Signpost.Text.CharacterName

-- Rows of names. A code with an equals sign goes before a name that does not follow its
-- predecessor; the digit says how many words are taken over from the name before.
def signs : List String :=
  ["13000=0EGYPTIAN HIEROGLYPH A001;2A002;2A003;2A004;2A005;2A005A;2A006;2A006A;2A006B;2A007",
   "1300A=0EGYPTIAN HIEROGLYPH A008;2A009;2A010;2A011;2A012;2A013;2A014;2A014A;2A015;2A016;2A017",
   "13015=0EGYPTIAN HIEROGLYPH A017A;2A018;2A019;2A020;2A021;2A022;2A023;2A024;2A025;2A026;2A027",
   "13020=0EGYPTIAN HIEROGLYPH A028;2A029;2A030;2A031;2A032;2A032A;2A033;2A034;2A035;2A036;2A037",
   "1302B=0EGYPTIAN HIEROGLYPH A038;2A039;2A040;2A040A;2A041;2A042;2A042A;2A043;2A043A;2A044",
   "13035=0EGYPTIAN HIEROGLYPH A045;2A045A;2A046;2A047;2A048;2A049;2A050;2A051;2A052;2A053;2A054",
   "13040=0EGYPTIAN HIEROGLYPH A055;2A056;2A057;2A058;2A059;2A060;2A061;2A062;2A063;2A064;2A065",
   "1304B=0EGYPTIAN HIEROGLYPH A066;2A067;2A068;2A069;2A070;2B001;2B002;2B003;2B004;2B005;2B005A",
   "13056=0EGYPTIAN HIEROGLYPH B006;2B007;2B008;2B009;2C001;2C002;2C002A;2C002B;2C002C;2C003",
   "13060=0EGYPTIAN HIEROGLYPH C004;2C005;2C006;2C007;2C008;2C009;2C010;2C010A;2C011;2C012;2C013",
   "1306B=0EGYPTIAN HIEROGLYPH C014;2C015;2C016;2C017;2C018;2C019;2C020;2C021;2C022;2C023;2C024",
   "13076=0EGYPTIAN HIEROGLYPH D001;2D002;2D003;2D004;2D005;2D006;2D007;2D008;2D008A;2D009;2D010",
   "13081=0EGYPTIAN HIEROGLYPH D011;2D012;2D013;2D014;2D015;2D016;2D017;2D018;2D019;2D020;2D021",
   "1308C=0EGYPTIAN HIEROGLYPH D022;2D023;2D024;2D025;2D026;2D027;2D027A;2D028;2D029;2D030;2D031",
   "13097=0EGYPTIAN HIEROGLYPH D031A;2D032;2D033;2D034;2D034A;2D035;2D036;2D037;2D038;2D039;2D040",
   "130A2=0EGYPTIAN HIEROGLYPH D041;2D042;2D043;2D044;2D045;2D046;2D046A;2D047;2D048;2D048A;2D049",
   "130AD=0EGYPTIAN HIEROGLYPH D050;2D050A;2D050B;2D050C;2D050D;2D050E;2D050F;2D050G;2D050H",
   "130B6=0EGYPTIAN HIEROGLYPH D050I;2D051;2D052;2D052A;2D053;2D054;2D054A;2D055;2D056;2D057",
   "130C0=0EGYPTIAN HIEROGLYPH D058;2D059;2D060;2D061;2D062;2D063;2D064;2D065;2D066;2D067;2D067A",
   "130CB=0EGYPTIAN HIEROGLYPH D067B;2D067C;2D067D;2D067E;2D067F;2D067G;2D067H;2E001;2E002;2E003",
   "130D5=0EGYPTIAN HIEROGLYPH E004;2E005;2E006;2E007;2E008;2E008A;2E009;2E009A;2E010;2E011;2E012",
   "130E0=0EGYPTIAN HIEROGLYPH E013;2E014;2E015;2E016;2E016A;2E017;2E017A;2E018;2E019;2E020",
   "130EA=0EGYPTIAN HIEROGLYPH E020A;2E021;2E022;2E023;2E024;2E025;2E026;2E027;2E028;2E028A;2E029",
   "130F5=0EGYPTIAN HIEROGLYPH E030;2E031;2E032;2E033;2E034;2E034A;2E036;2E037;2E038;2F001;2F001A",
   "13100=0EGYPTIAN HIEROGLYPH F002;2F003;2F004;2F005;2F006;2F007;2F008;2F009;2F010;2F011;2F012",
   "1310B=0EGYPTIAN HIEROGLYPH F013;2F013A;2F014;2F015;2F016;2F017;2F018;2F019;2F020;2F021;2F021A",
   "13116=0EGYPTIAN HIEROGLYPH F022;2F023;2F024;2F025;2F026;2F027;2F028;2F029;2F030;2F031;2F031A",
   "13121=0EGYPTIAN HIEROGLYPH F032;2F033;2F034;2F035;2F036;2F037;2F037A;2F038;2F038A;2F039;2F040",
   "1312C=0EGYPTIAN HIEROGLYPH F041;2F042;2F043;2F044;2F045;2F045A;2F046;2F046A;2F047;2F047A",
   "13136=0EGYPTIAN HIEROGLYPH F048;2F049;2F050;2F051;2F051A;2F051B;2F051C;2F052;2F053;2G001",
   "13140=0EGYPTIAN HIEROGLYPH G002;2G003;2G004;2G005;2G006;2G006A;2G007;2G007A;2G007B;2G008",
   "1314A=0EGYPTIAN HIEROGLYPH G009;2G010;2G011;2G011A;2G012;2G013;2G014;2G015;2G016;2G017;2G018",
   "13155=0EGYPTIAN HIEROGLYPH G019;2G020;2G020A;2G021;2G022;2G023;2G024;2G025;2G026;2G026A;2G027",
   "13160=0EGYPTIAN HIEROGLYPH G028;2G029;2G030;2G031;2G032;2G033;2G034;2G035;2G036;2G036A;2G037",
   "1316B=0EGYPTIAN HIEROGLYPH G037A;2G038;2G039;2G040;2G041;2G042;2G043;2G043A;2G044;2G045",
   "13175=0EGYPTIAN HIEROGLYPH G045A;2G046;2G047;2G048;2G049;2G050;2G051;2G052;2G053;2G054;2H001",
   "13180=0EGYPTIAN HIEROGLYPH H002;2H003;2H004;2H005;2H006;2H006A;2H007;2H008;2I001;2I002;2I003",
   "1318B=0EGYPTIAN HIEROGLYPH I004;2I005;2I005A;2I006;2I007;2I008;2I009;2I009A;2I010;2I010A",
   "13195=0EGYPTIAN HIEROGLYPH I011;2I011A;2I012;2I013;2I014;2I015;2K001;2K002;2K003;2K004;2K005",
   "131A0=0EGYPTIAN HIEROGLYPH K006;2K007;2K008;2L001;2L002;2L002A;2L003;2L004;2L005;2L006;2L006A",
   "131AB=0EGYPTIAN HIEROGLYPH L007;2L008;2M001;2M001A;2M001B;2M002;2M003;2M003A;2M004;2M005",
   "131B5=0EGYPTIAN HIEROGLYPH M006;2M007;2M008;2M009;2M010;2M010A;2M011;2M012;2M012A;2M012B",
   "131BF=0EGYPTIAN HIEROGLYPH M012C;2M012D;2M012E;2M012F;2M012G;2M012H;2M013;2M014;2M015;2M015A",
   "131C9=0EGYPTIAN HIEROGLYPH M016;2M016A;2M017;2M017A;2M018;2M019;2M020;2M021;2M022;2M022A",
   "131D3=0EGYPTIAN HIEROGLYPH M023;2M024;2M024A;2M025;2M026;2M027;2M028;2M028A;2M029;2M030;2M031",
   "131DE=0EGYPTIAN HIEROGLYPH M031A;2M032;2M033;2M033A;2M033B;2M034;2M035;2M036;2M037;2M038",
   "131E8=0EGYPTIAN HIEROGLYPH M039;2M040;2M040A;2M041;2M042;2M043;2M044;2N001;2N002;2N003;2N004",
   "131F3=0EGYPTIAN HIEROGLYPH N005;2N006;2N007;2N008;2N009;2N010;2N011;2N012;2N013;2N014;2N015",
   "131FE=0EGYPTIAN HIEROGLYPH N016;2N017;2N018;2N018A;2N018B;2N019;2N020;2N021;2N022;2N023;2N024",
   "13209=0EGYPTIAN HIEROGLYPH N025;2N025A;2N026;2N027;2N028;2N029;2N030;2N031;2N032;2N033;2N033A",
   "13214=0EGYPTIAN HIEROGLYPH N034;2N034A;2N035;2N035A;2N036;2N037;2N037A;2N038;2N039;2N040",
   "1321E=0EGYPTIAN HIEROGLYPH N041;2N042;2NL001;2NL002;2NL003;2NL004;2NL005;2NL005A;2NL006",
   "13227=0EGYPTIAN HIEROGLYPH NL007;2NL008;2NL009;2NL010;2NL011;2NL012;2NL013;2NL014;2NL015",
   "13230=0EGYPTIAN HIEROGLYPH NL016;2NL017;2NL017A;2NL018;2NL019;2NL020;2NU001;2NU002;2NU003",
   "13239=0EGYPTIAN HIEROGLYPH NU004;2NU005;2NU006;2NU007;2NU008;2NU009;2NU010;2NU010A;2NU011",
   "13242=0EGYPTIAN HIEROGLYPH NU011A;2NU012;2NU013;2NU014;2NU015;2NU016;2NU017;2NU018;2NU018A",
   "1324B=0EGYPTIAN HIEROGLYPH NU019;2NU020;2NU021;2NU022;2NU022A;2O001;2O001A;2O002;2O003;2O004",
   "13255=0EGYPTIAN HIEROGLYPH O005;2O005A;2O006;2O006A;2O006B;2O006C;2O006D;2O006E;2O006F;2O007",
   "1325F=0EGYPTIAN HIEROGLYPH O008;2O009;2O010;2O010A;2O010B;2O010C;2O011;2O012;2O013;2O014",
   "13269=0EGYPTIAN HIEROGLYPH O015;2O016;2O017;2O018;2O019;2O019A;2O020;2O020A;2O021;2O022;2O023",
   "13274=0EGYPTIAN HIEROGLYPH O024;2O024A;2O025;2O025A;2O026;2O027;2O028;2O029;2O029A;2O030",
   "1327E=0EGYPTIAN HIEROGLYPH O030A;2O031;2O032;2O033;2O033A;2O034;2O035;2O036;2O036A;2O036B",
   "13288=0EGYPTIAN HIEROGLYPH O036C;2O036D;2O037;2O038;2O039;2O040;2O041;2O042;2O043;2O044;2O045",
   "13293=0EGYPTIAN HIEROGLYPH O046;2O047;2O048;2O049;2O050;2O050A;2O050B;2O051;2P001;2P001A",
   "1329D=0EGYPTIAN HIEROGLYPH P002;2P003;2P003A;2P004;2P005;2P006;2P007;2P008;2P009;2P010;2P011",
   "132A8=0EGYPTIAN HIEROGLYPH Q001;2Q002;2Q003;2Q004;2Q005;2Q006;2Q007;2R001;2R002;2R002A;2R003",
   "132B3=0EGYPTIAN HIEROGLYPH R003A;2R003B;2R004;2R005;2R006;2R007;2R008;2R009;2R010;2R010A",
   "132BD=0EGYPTIAN HIEROGLYPH R011;2R012;2R013;2R014;2R015;2R016;2R016A;2R017;2R018;2R019;2R020",
   "132C8=0EGYPTIAN HIEROGLYPH R021;2R022;2R023;2R024;2R025;2R026;2R027;2R028;2R029;2S001;2S002",
   "132D3=0EGYPTIAN HIEROGLYPH S002A;2S003;2S004;2S005;2S006;2S006A;2S007;2S008;2S009;2S010;2S011",
   "132DE=0EGYPTIAN HIEROGLYPH S012;2S013;2S014;2S014A;2S014B;2S015;2S016;2S017;2S017A;2S018",
   "132E8=0EGYPTIAN HIEROGLYPH S019;2S020;2S021;2S022;2S023;2S024;2S025;2S026;2S026A;2S026B;2S027",
   "132F3=0EGYPTIAN HIEROGLYPH S028;2S029;2S030;2S031;2S032;2S033;2S034;2S035;2S035A;2S036;2S037",
   "132FE=0EGYPTIAN HIEROGLYPH S038;2S039;2S040;2S041;2S042;2S043;2S044;2S045;2S046;2T001;2T002",
   "13309=0EGYPTIAN HIEROGLYPH T003;2T003A;2T004;2T005;2T006;2T007;2T007A;2T008;2T008A;2T009",
   "13313=0EGYPTIAN HIEROGLYPH T009A;2T010;2T011;2T011A;2T012;2T013;2T014;2T015;2T016;2T016A",
   "1331D=0EGYPTIAN HIEROGLYPH T017;2T018;2T019;2T020;2T021;2T022;2T023;2T024;2T025;2T026;2T027",
   "13328=0EGYPTIAN HIEROGLYPH T028;2T029;2T030;2T031;2T032;2T032A;2T033;2T033A;2T034;2T035;2T036",
   "13333=0EGYPTIAN HIEROGLYPH U001;2U002;2U003;2U004;2U005;2U006;2U006A;2U006B;2U007;2U008;2U009",
   "1333E=0EGYPTIAN HIEROGLYPH U010;2U011;2U012;2U013;2U014;2U015;2U016;2U017;2U018;2U019;2U020",
   "13349=0EGYPTIAN HIEROGLYPH U021;2U022;2U023;2U023A;2U024;2U025;2U026;2U027;2U028;2U029;2U029A",
   "13354=0EGYPTIAN HIEROGLYPH U030;2U031;2U032;2U032A;2U033;2U034;2U035;2U036;2U037;2U038;2U039",
   "1335F=0EGYPTIAN HIEROGLYPH U040;2U041;2U042;2V001;2V001A;2V001B;2V001C;2V001D;2V001E;2V001F",
   "13369=0EGYPTIAN HIEROGLYPH V001G;2V001H;2V001I;2V002;2V002A;2V003;2V004;2V005;2V006;2V007",
   "13373=0EGYPTIAN HIEROGLYPH V007A;2V007B;2V008;2V009;2V010;2V011;2V011A;2V011B;2V011C;2V012",
   "1337D=0EGYPTIAN HIEROGLYPH V012A;2V012B;2V013;2V014;2V015;2V016;2V017;2V018;2V019;2V020",
   "13387=0EGYPTIAN HIEROGLYPH V020A;2V020B;2V020C;2V020D;2V020E;2V020F;2V020G;2V020H;2V020I",
   "13390=0EGYPTIAN HIEROGLYPH V020J;2V020K;2V020L;2V021;2V022;2V023;2V023A;2V024;2V025;2V026",
   "1339A=0EGYPTIAN HIEROGLYPH V027;2V028;2V028A;2V029;2V029A;2V030;2V030A;2V031;2V031A;2V032",
   "133A4=0EGYPTIAN HIEROGLYPH V033;2V033A;2V034;2V035;2V036;2V037;2V037A;2V038;2V039;2V040",
   "133AE=0EGYPTIAN HIEROGLYPH V040A;2W001;2W002;2W003;2W003A;2W004;2W005;2W006;2W007;2W008;2W009",
   "133B9=0EGYPTIAN HIEROGLYPH W009A;2W010;2W010A;2W011;2W012;2W013;2W014;2W014A;2W015;2W016",
   "133C3=0EGYPTIAN HIEROGLYPH W017;2W017A;2W018;2W018A;2W019;2W020;2W021;2W022;2W023;2W024",
   "133CD=0EGYPTIAN HIEROGLYPH W024A;2W025;2X001;2X002;2X003;2X004;2X004A;2X004B;2X005;2X006",
   "133D7=0EGYPTIAN HIEROGLYPH X006A;2X007;2X008;2X008A;2Y001;2Y001A;2Y002;2Y003;2Y004;2Y005",
   "133E1=0EGYPTIAN HIEROGLYPH Y006;2Y007;2Y008;2Z001;2Z002;2Z002A;2Z002B;2Z002C;2Z002D;2Z003",
   "133EB=0EGYPTIAN HIEROGLYPH Z003A;2Z003B;2Z004;2Z004A;2Z005;2Z005A;2Z006;2Z007;2Z008;2Z009",
   "133F5=0EGYPTIAN HIEROGLYPH Z010;2Z011;2Z012;2Z013;2Z014;2Z015;2Z015A;2Z015B;2Z015C;2Z015D",
   "133FF=0EGYPTIAN HIEROGLYPH Z015E;2Z015F;2Z015G;2Z015H;2Z015I;2Z016;2Z016A;2Z016B;2Z016C",
   "13408=0EGYPTIAN HIEROGLYPH Z016D;2Z016E;2Z016F;2Z016G;2Z016H;2AA001;2AA002;2AA003;2AA004",
   "13411=0EGYPTIAN HIEROGLYPH AA005;2AA006;2AA007;2AA007A;2AA007B;2AA008;2AA009;2AA010;2AA011",
   "1341A=0EGYPTIAN HIEROGLYPH AA012;2AA013;2AA014;2AA015;2AA016;2AA017;2AA018;2AA019;2AA020",
   "13423=0EGYPTIAN HIEROGLYPH AA021;2AA022;2AA023;2AA024;2AA025;2AA026;2AA027;2AA028;2AA029",
   "1342C=0EGYPTIAN HIEROGLYPH AA030;2AA031;2AA032;2V011D;2VERTICAL JOINER;2HORIZONTAL JOINER",
   "13432=0EGYPTIAN HIEROGLYPH INSERT AT TOP START;4BOTTOM START;4TOP END;4BOTTOM END",
   "13436=0EGYPTIAN HIEROGLYPH OVERLAY MIDDLE;2BEGIN SEGMENT;2END SEGMENT;2INSERT AT MIDDLE;4TOP",
   "1343B=0EGYPTIAN HIEROGLYPH INSERT AT BOTTOM;2BEGIN ENCLOSURE;2END ENCLOSURE",
   "1343E=0EGYPTIAN HIEROGLYPH BEGIN WALLED ENCLOSURE;2END WALLED ENCLOSURE;2MIRROR HORIZONTALLY",
   "13441=0EGYPTIAN HIEROGLYPH FULL BLANK;2HALF BLANK;2LOST SIGN;2HALF LOST SIGN;2TALL LOST SIGN",
   "13446=0EGYPTIAN HIEROGLYPH WIDE LOST SIGN;2MODIFIER DAMAGED AT TOP START;5BOTTOM START;5START",
   "1344A=0EGYPTIAN HIEROGLYPH MODIFIER DAMAGED AT TOP END;6;5BOTTOM START AND TOP END",
   "1344D=0EGYPTIAN HIEROGLYPH MODIFIER DAMAGED AT START AND TOP;5BOTTOM END",
   "1344F=0EGYPTIAN HIEROGLYPH MODIFIER DAMAGED AT TOP START AND BOTTOM END;5BOTTOM",
   "13451=0EGYPTIAN HIEROGLYPH MODIFIER DAMAGED AT START AND BOTTOM;5END;5TOP AND END",
   "13454=0EGYPTIAN HIEROGLYPH MODIFIER DAMAGED AT BOTTOM AND END;4",
   "14400=0ANATOLIAN HIEROGLYPH A001;2A002;2A003;2A004;2A005;2A006;2A007;2A008;2A009;2A010;2A010A",
   "1440B=0ANATOLIAN HIEROGLYPH A011;2A012;2A013;2A014;2A015;2A016;2A017;2A018;2A019;2A020;2A021",
   "14416=0ANATOLIAN HIEROGLYPH A022;2A023;2A024;2A025;2A026;2A026A;2A027;2A028;2A029;2A030;2A031",
   "14421=0ANATOLIAN HIEROGLYPH A032;2A033;2A034;2A035;2A036;2A037;2A038;2A039;2A039A;2A040;2A041",
   "1442C=0ANATOLIAN HIEROGLYPH A041A;2A042;2A043;2A044;2A045;2A045A;2A046;2A046A;2A046B;2A047",
   "14436=0ANATOLIAN HIEROGLYPH A048;2A049;2A050;2A051;2A052;2A053;2A054;2A055;2A056;2A057;2A058",
   "14441=0ANATOLIAN HIEROGLYPH A059;2A060;2A061;2A062;2A063;2A064;2A065;2A066;2A066A;2A066B",
   "1444B=0ANATOLIAN HIEROGLYPH A066C;2A067;2A068;2A069;2A070;2A071;2A072;2A073;2A074;2A075;2A076",
   "14456=0ANATOLIAN HIEROGLYPH A077;2A078;2A079;2A080;2A081;2A082;2A083;2A084;2A085;2A086;2A087",
   "14461=0ANATOLIAN HIEROGLYPH A088;2A089;2A090;2A091;2A092;2A093;2A094;2A095;2A096;2A097;2A097A",
   "1446C=0ANATOLIAN HIEROGLYPH A098;2A098A;2A099;2A100;2A100A;2A101;2A101A;2A102;2A102A;2A103",
   "14476=0ANATOLIAN HIEROGLYPH A104;2A104A;2A104B;2A104C;2A105;2A105A;2A105B;2A106;2A107;2A107A",
   "14480=0ANATOLIAN HIEROGLYPH A107B;2A107C;2A108;2A109;2A110;2A110A;2A110B;2A111;2A112;2A113",
   "1448A=0ANATOLIAN HIEROGLYPH A114;2A115;2A115A;2A116;2A117;2A118;2A119;2A120;2A121;2A122;2A123",
   "14495=0ANATOLIAN HIEROGLYPH A124;2A125;2A125A;2A126;2A127;2A128;2A129;2A130;2A131;2A132;2A133",
   "144A0=0ANATOLIAN HIEROGLYPH A134;2A135;2A135A;2A136;2A137;2A138;2A139;2A140;2A141;2A142;2A143",
   "144AB=0ANATOLIAN HIEROGLYPH A144;2A145;2A146;2A147;2A148;2A149;2A150;2A151;2A152;2A153;2A154",
   "144B6=0ANATOLIAN HIEROGLYPH A155;2A156;2A157;2A158;2A159;2A160;2A161;2A162;2A163;2A164;2A165",
   "144C1=0ANATOLIAN HIEROGLYPH A166;2A167;2A168;2A169;2A170;2A171;2A172;2A173;2A174;2A175;2A176",
   "144CC=0ANATOLIAN HIEROGLYPH A177;2A178;2A179;2A180;2A181;2A182;2A183;2A184;2A185;2A186;2A187",
   "144D7=0ANATOLIAN HIEROGLYPH A188;2A189;2A190;2A191;2A192;2A193;2A194;2A195;2A196;2A197;2A198",
   "144E2=0ANATOLIAN HIEROGLYPH A199;2A200;2A201;2A202;2A202A;2A202B;2A203;2A204;2A205;2A206",
   "144EC=0ANATOLIAN HIEROGLYPH A207;2A207A;2A208;2A209;2A209A;2A210;2A211;2A212;2A213;2A214",
   "144F6=0ANATOLIAN HIEROGLYPH A215;2A215A;2A216;2A216A;2A217;2A218;2A219;2A220;2A221;2A222",
   "14500=0ANATOLIAN HIEROGLYPH A223;2A224;2A225;2A226;2A227;2A227A;2A228;2A229;2A230;2A231;2A232",
   "1450B=0ANATOLIAN HIEROGLYPH A233;2A234;2A235;2A236;2A237;2A238;2A239;2A240;2A241;2A242;2A243",
   "14516=0ANATOLIAN HIEROGLYPH A244;2A245;2A246;2A247;2A248;2A249;2A250;2A251;2A252;2A253;2A254",
   "14521=0ANATOLIAN HIEROGLYPH A255;2A256;2A257;2A258;2A259;2A260;2A261;2A262;2A263;2A264;2A265",
   "1452C=0ANATOLIAN HIEROGLYPH A266;2A267;2A267A;2A268;2A269;2A270;2A271;2A272;2A273;2A274;2A275",
   "14537=0ANATOLIAN HIEROGLYPH A276;2A277;2A278;2A279;2A280;2A281;2A282;2A283;2A284;2A285;2A286",
   "14542=0ANATOLIAN HIEROGLYPH A287;2A288;2A289;2A289A;2A290;2A291;2A292;2A293;2A294;2A294A",
   "1454C=0ANATOLIAN HIEROGLYPH A295;2A296;2A297;2A298;2A299;2A299A;2A300;2A301;2A302;2A303;2A304",
   "14557=0ANATOLIAN HIEROGLYPH A305;2A306;2A307;2A308;2A309;2A309A;2A310;2A311;2A312;2A313;2A314",
   "14562=0ANATOLIAN HIEROGLYPH A315;2A316;2A317;2A318;2A319;2A320;2A321;2A322;2A323;2A324;2A325",
   "1456D=0ANATOLIAN HIEROGLYPH A326;2A327;2A328;2A329;2A329A;2A330;2A331;2A332A;2A332B;2A332C",
   "14577=0ANATOLIAN HIEROGLYPH A333;2A334;2A335;2A336;2A336A;2A336B;2A336C;2A337;2A338;2A339",
   "14581=0ANATOLIAN HIEROGLYPH A340;2A341;2A342;2A343;2A344;2A345;2A346;2A347;2A348;2A349;2A350",
   "1458C=0ANATOLIAN HIEROGLYPH A351;2A352;2A353;2A354;2A355;2A356;2A357;2A358;2A359;2A359A;2A360",
   "14597=0ANATOLIAN HIEROGLYPH A361;2A362;2A363;2A364;2A364A;2A365;2A366;2A367;2A368;2A368A",
   "145A1=0ANATOLIAN HIEROGLYPH A369;2A370;2A371;2A371A;2A372;2A373;2A374;2A375;2A376;2A377;2A378",
   "145AC=0ANATOLIAN HIEROGLYPH A379;2A380;2A381;2A381A;2A382;2A383 RA OR RI;2A383A;2A384;2A385",
   "145B5=0ANATOLIAN HIEROGLYPH A386;2A386A;2A387;2A388;2A389;2A390;2A391;2A392;2A393 EIGHT;2A394",
   "145BF=0ANATOLIAN HIEROGLYPH A395;2A396;2A397;2A398;2A399;2A400;2A401;2A402;2A403;2A404;2A405",
   "145CA=0ANATOLIAN HIEROGLYPH A406;2A407;2A408;2A409;2A410 BEGIN LOGOGRAM MARK",
   "145CF=0ANATOLIAN HIEROGLYPH A410A END LOGOGRAM MARK;2A411;2A412;2A413;2A414;2A415;2A416;2A417",
   "145D7=0ANATOLIAN HIEROGLYPH A418;2A419;2A420;2A421;2A422;2A423;2A424;2A425;2A426;2A427;2A428",
   "145E2=0ANATOLIAN HIEROGLYPH A429;2A430;2A431;2A432;2A433;2A434;2A435;2A436;2A437;2A438;2A439",
   "145ED=0ANATOLIAN HIEROGLYPH A440;2A441;2A442;2A443;2A444;2A445;2A446;2A447;2A448;2A449;2A450",
   "145F8=0ANATOLIAN HIEROGLYPH A450A;2A451;2A452;2A453;2A454;2A455;2A456;2A457;2A457A;2A458",
   "14602=0ANATOLIAN HIEROGLYPH A459;2A460;2A461;2A462;2A463;2A464;2A465;2A466;2A467;2A468;2A469",
   "1460D=0ANATOLIAN HIEROGLYPH A470;2A471;2A472;2A473;2A474;2A475;2A476;2A477;2A478;2A479;2A480",
   "14618=0ANATOLIAN HIEROGLYPH A481;2A482;2A483;2A484;2A485;2A486;2A487;2A488;2A489;2A490;2A491",
   "14623=0ANATOLIAN HIEROGLYPH A492;2A493;2A494;2A495;2A496;2A497;2A501;2A502;2A503;2A504;2A505",
   "1462E=0ANATOLIAN HIEROGLYPH A506;2A507;2A508;2A509;2A510;2A511;2A512;2A513;2A514;2A515;2A516",
   "14639=0ANATOLIAN HIEROGLYPH A517;2A518;2A519;2A520;2A521;2A522;2A523;2A524;2A525;2A526;2A527",
   "14644=0ANATOLIAN HIEROGLYPH A528;2A529;2A530;16800=0BAMUM LETTER PHASE-A NGKUE MFON",
   "16801=0BAMUM LETTER PHASE-A GBIEE FON;3PON MFON PIPAEMGBIEE;5PIPAEMBA;3NAA MFON;3SHUENSHUET",
   "16806=0BAMUM LETTER PHASE-A TITA MFON;3NZA MFON;3SHINDA PA NJI;3PON PA NJI PIPAEMGBIEE",
   "1680A=0BAMUM LETTER PHASE-A PON PA NJI PIPAEMBA;3MAEMBGBIEE;3TU MAEMBA;3NGANGU;3MAEMVEUX",
   "1680F=0BAMUM LETTER PHASE-A MANSUAE;3MVEUAENGAM;3SEUNYAM;3NTOQPEN;3KEUKEUTNDA;3NKINDI;3SUU",
   "16816=0BAMUM LETTER PHASE-A NGKUENZEUM;3LAPAQ;3LET KUT;3NTAP MFAA;3MAEKEUP;3PASHAE;3GHEUAERAE",
   "1681D=0BAMUM LETTER PHASE-A PAMSHAE;3MON NGGEUAET;3NZUN MEUT;3U YUQ NAE;3GHEUAEGHEUAE",
   "16822=0BAMUM LETTER PHASE-A NTAP NTAA;3SISA;3MGBASA;3MEUNJOMNDEUQ;3MOOMPUQ;3KAFA;3PA LEERAEWA",
   "16829=0BAMUM LETTER PHASE-A NDA LEERAEWA;3PET;3MAEMKPEN;3NIKA;3PUP;3TUAEP;3LUAEP;3SONJAM",
   "16831=0BAMUM LETTER PHASE-A TEUTEUWEN;3MAENYI;3KET;3NDAANGGEUAET;3KUOQ;3MOOMEUT;3SHUM;3LOMMAE",
   "16839=0BAMUM LETTER PHASE-A FIRI;3ROM;3KPOQ;3SOQ;3MAP PIEET;3SHIRAE;3NTAP;3SHOQ NSHUT YUM",
   "16841=0BAMUM LETTER PHASE-A NYIT MONGKEUAEQ;3PAARAE;3NKAARAE;3UNKNOWN;3NGGEN;3MAESI;3NJAM",
   "16848=0BAMUM LETTER PHASE-A MBANYI;3NYET;3TEUAEN;3SOT;3PAAM;3NSHIEE;3MAEM;3NYI;3KAQ;3NSHA",
   "16852=0BAMUM LETTER PHASE-A VEE;3LU;3NEN;3NAQ;3MBAQ;2PHASE-B NSHUET;3TU MAEMGBIEE;3SIEE",
   "1685A=0BAMUM LETTER PHASE-B SET TU;3LOM NTEUM;3MBA MAELEE;3KIEEM;3YEURAE;3MBAARAE;3KAM",
   "16861=0BAMUM LETTER PHASE-B PEESHI;3YAFU LEERAEWA;3LAM NSHUT NYAM;3NTIEE SHEUOQ;3NDU NJAA",
   "16866=0BAMUM LETTER PHASE-B GHEUGHEUAEM;3PIT;3TU NSIEE;3SHET NJAQ;3SHEUAEQTU;3MFON TEUAEQ",
   "1686C=0BAMUM LETTER PHASE-B MBIT MBAAKET;3NYI NTEUM;3KEUPUQ;3GHEUGHEN;3KEUYEUX;3LAANAE;3PARUM",
   "16873=0BAMUM LETTER PHASE-B VEUM;3NGKINDI MVOP;3NGGEU MBU;3WUAET;3SAKEUAE;3TAAM;3MEUQ;3NGGUOQ",
   "1687B=0BAMUM LETTER PHASE-B NGGUOQ LARGE;3MFIYAQ;3SUE;3MBEURI;3MONTIEEN;3NYAEMAE;3PUNGAAM",
   "16882=0BAMUM LETTER PHASE-B MEUT NGGEET;3FEUX;3MBUOQ;3FEE;3KEUAEM;3MA NJEUAENA;4NJUQA;3LET",
   "1688A=0BAMUM LETTER PHASE-B NGGAAM;3NSEN;3MA;3KIQ;3NGOM;2PHASE-C NGKUE MAEMBA;3NZA;3YUM",
   "16892=0BAMUM LETTER PHASE-C WANGKUOQ;3NGGEN;3NDEUAEREE;3NGKAQ;3GHARAE;3MBEEKEET;3GBAYI",
   "16899=0BAMUM LETTER PHASE-C NYIR MKPARAQ MEUN;3NTU MBIT;3MBEUM;3PIRIEEN;3NDOMBU",
   "1689E=0BAMUM LETTER PHASE-C MBAA CABBAGE-TREE;3KEUSHEUAEP;3GHAP;3KEUKAQ;3YU MUOMAE;3NZEUM",
   "168A4=0BAMUM LETTER PHASE-C MBUE;3NSEUAEN;3MBIT;3YEUQ;3KPARAQ;3KAA;3SEUX;3NDIDA;3TAASHAE",
   "168AD=0BAMUM LETTER PHASE-C NJUEQ;3TITA YUE;3SUAET;3NGGUAEN NYAM;3VEUX;3NANSANAQ;3MA KEUAERI",
   "168B4=0BAMUM LETTER PHASE-C NTAA;3NGGUON;3LAP;3MBIRIEEN;3MGBASAQ;3NTEUNGBA;3TEUTEUX;3NGGUM",
   "168BC=0BAMUM LETTER PHASE-C FUE;3NDEUT;3NSA;3NSHAQ;3BUNG;3VEUAEPEN;3MBERAE;3RU;3NJAEM;3LAM",
   "168C6=0BAMUM LETTER PHASE-C TITUAEP;3NSUOT NGOM;3NJEEEE;3KET;3NGGU;3MAESI;3MBUAEM;3LU;3KUT",
   "168CF=0BAMUM LETTER PHASE-C NJAM;3NGOM;3WUP;3NGGUEET;3NSOM;3NTEN;3KUOP NKAARAE;3NSUN;3NDAM",
   "168D8=0BAMUM LETTER PHASE-C MA NSIEE;3YAA;3NDAP;3SHUEQ;3SETFON;3MBI;3MAEMBA;3MBANYI;3KEUSEUX",
   "168E1=0BAMUM LETTER PHASE-C MBEUX;3KEUM;3MBAA PICKET;3YUWOQ;3NJEUX;3MIEE;3MUAE;3SHIQ;3KEN LAW",
   "168EA=0BAMUM LETTER PHASE-C KEN FATIGUE;3NGAQ;3NAQ;3LIQ;3PIN;3PEN;3TET;2PHASE-D MBUO;3WAP",
   "168F3=0BAMUM LETTER PHASE-D NJI;3MFON;3NJIEE;3LIEE;3NJEUT;3NSHEE;3NGGAAMAE;3NYAM;3WUAEN",
   "168FC=0BAMUM LETTER PHASE-D NGKUN;3SHEE;3NGKAP;3KEUAETMEUN;3TEUT;3SHEUAE;3NJAP;3SUE;3KET",
   "16905=0BAMUM LETTER PHASE-D YAEMMAE;3KUOM;3SAP;3MFEUT;3NDEUX;3MALEERI;3MEUT;3SEUAEQ;3YEN",
   "1690E=0BAMUM LETTER PHASE-D NJEUAEM;3KEUOT MBUAE;3NGKEURI;3TU;3GHAA;3NGKYEE;3FEUFEUAET;3NDEE",
   "16916=0BAMUM LETTER PHASE-D MGBOFUM;3LEUAEP;3NDON;3MONI;3MGBEUN;3PUUT;3MGBIEE;3MFO;3LUM",
   "1691F=0BAMUM LETTER PHASE-D NSIEEP;3MBAA;3KWAET;3NYET;3TEUAEN;3SOT;3YUWOQ;3KEUM;3RAEM;3TEEEE",
   "16929=0BAMUM LETTER PHASE-D NGKEUAEQ;3MFEUAE;3NSIEET;3KEUP;3PIP;3PEUTAE;3NYUE;3LET;3NGGAAM",
   "16932=0BAMUM LETTER PHASE-D MFIEE;3NGGWAEN;3YUOM;3PAP;3YUOP;3NDAM;3NTEUM;3SUAE;3KUN;3NGGEUX",
   "1693C=0BAMUM LETTER PHASE-D NGKIEE;3TUOT;3MEUN;3KUQ;3NSUM;3TEUN;3MAENJET;3NGGAP;3LEUM;3NGGUOM",
   "16946=0BAMUM LETTER PHASE-D NSHUT;3NJUEQ;3GHEUAE;3KU;3REN OLD;3TAE;3TOQ;3NYI;3RII;3LEEEE",
   "16950=0BAMUM LETTER PHASE-D MEEEE;3M;3SUU;3MU;3SHII;3SHEUX;3KYEE;3NU;3SHU;3NTEE;3PEE;3NI",
   "1695C=0BAMUM LETTER PHASE-D SHOQ;3PUQ;3MVOP;3LOQ;3REN MUCH;3TI;3NTUU;3MBAA SEVEN;3SAQ;3FAA",
   "16966=0BAMUM LETTER PHASE-E NDAP;3TOON;3MBEUM;3LAP;3VOM;3LOON;3PAA;3SOM;3RAQ;3NSHUOP;3NDUN",
   "16971=0BAMUM LETTER PHASE-E PUAE;3TAM;3NGKA;3KPEUX;3WUO;3SEE;3NGGEUAET;3PAAM;3TOO;3KUOP;3LOM",
   "1697C=0BAMUM LETTER PHASE-E NSHIEE;3NGOP;3MAEM;3NGKEUX;3NGOQ;3NSHUE;3RIMGBA;3NJEUX;3PEEM;3SAA",
   "16986=0BAMUM LETTER PHASE-E NGGURAE;3MGBA;3GHEUX;3NGKEUAEM;3NJAEMLI;3MAP;3LOOT;3NGGEEEE;3NDIQ",
   "1698F=0BAMUM LETTER PHASE-E TAEN NTEUM;3SET;3PUM;3NDAA SOFTNESS;3NGGUAESHAE NYAM;3YIEE;3GHEUN",
   "16996=0BAMUM LETTER PHASE-E TUAE;3YEUAE;3PO;3TUMAE;3KEUAE;3SUAEN;3TEUAEQ;3VEUAE;3WEUX;3LAAM",
   "169A0=0BAMUM LETTER PHASE-E PU;3TAAQ;3GHAAMAE;3NGEUREUT;3SHEUAEQ;3MGBEN;3MBEE;3NZAQ;3NKOM",
   "169A9=0BAMUM LETTER PHASE-E GBET;3TUM;3KUET;3YAP;3NYI CLEAVER;3YIT;3MFEUQ;3NDIAQ;3PIEEQ;3YUEQ",
   "169B3=0BAMUM LETTER PHASE-E LEUAEM;3FUE;3GBEUX;3NGKUP;3KET;3MAE;3NGKAAMI;3GHET;3FA;3NTUM",
   "169BD=0BAMUM LETTER PHASE-E PEUT;3YEUM;3NGGEUAE;3NYI BETWEEN;3NZUQ;3POON;3MIEE;3FUET;3NAE",
   "169C6=0BAMUM LETTER PHASE-E MUAE;3GHEUAE;3FU I;3MVI;3PUAQ;3NGKUM;3KUT;3PIET;3NTAP;3YEUAET",
   "169D0=0BAMUM LETTER PHASE-E NGGUP;3PA PEOPLE;3FU CALL;3FOM;3NJEE;3A;3TOQ;3O;3I;3LAQ",
   "169DA=0BAMUM LETTER PHASE-E PA PLURAL;3TAA;3TAQ;3NDAA MY HOUSE;3SHIQ;3YEUX;3NGUAE;3YUAEN",
   "169E2=0BAMUM LETTER PHASE-E YOQ SWIMMING;4COVER;3YUQ;3YUN;3KEUX;3PEUX;3NJEE EPOCH;3PUE;3WUE",
   "169EB=0BAMUM LETTER PHASE-E FEE;3VEE;3LU;3MI;3REUX;3RAE;3NGUAET;3NGA;3SHO;3SHOQ;3FU REMEDY",
   "169F6=0BAMUM LETTER PHASE-E NA;3PI;3LOQ;3KO;3MEN;3MA;3MAQ;3TEU;3KI;3MON;3TEN;3FAQ;3GHOM",
   "16A03=0BAMUM LETTER PHASE-F KA;3U;3KU;3EE;3REE;3TAE;3NYI;3LA;3RII;3RIEE;3MEEEE;3TAA;3NDAA",
   "16A10=0BAMUM LETTER PHASE-F NJAEM;3M;3SUU;3SHII;3SI;3SEUX;3KYEE;3KET;3NUAE;3NU;3NJUAE;3YOQ",
   "16A1C=0BAMUM LETTER PHASE-F SHU;3YA;3NSHA;3PEUX;3NTEE;3WUE;3PEE;3RU;3NI;3REUX;3KEN;3NGKWAEN",
   "16A28=0BAMUM LETTER PHASE-F NGGA;3SHO;3PUAE;3FOM;3WA;3LI;3LOQ;3KO;3MBEN;3REN;3MA;3MO;3MBAA",
   "16A35=0BAMUM LETTER PHASE-F TET;3KPA;3SAMBA;3VUEQ;16A40=0MRO LETTER TA;2NGI;2YO;2MIM;2BA;2DA",
   "16A46=0MRO LETTER A;2PHI;2KHAI;2HAO;2DAI;2CHU;2KEAAE;2OL;2MAEM;2NIN;2PA;2OO;2O;2RO;2SHI;2THEA",
   "16A56=0MRO LETTER EA;2WA;2E;2KO;2LAN;2LA;2HAI;2RI;2TEK;16A60=1DIGIT ZERO;2ONE;2TWO;2THREE",
   "16A64=0MRO DIGIT FOUR;2FIVE;2SIX;2SEVEN;2EIGHT;2NINE;16A6E=1DANDA;1DOUBLE DANDA",
   "16A70=0TANGSA LETTER OZ;2OC;2OQ;2OX;2AZ;2AC;2AQ;2AX;2VZ;2VC;2VQ;2VX;2EZ;2EC;2EQ;2EX;2IZ;2IC",
   "16A82=0TANGSA LETTER IQ;2IX;2UZ;2UC;2UQ;2UX;2AWZ;2AWC;2AWQ;2AWX;2UIZ;2UIC;2UIQ;2UIX;2FINAL NG",
   "16A91=0TANGSA LETTER LONG UEX;2SHORT UEZ;3AWX;2UEC;2UEZ;2UEQ;2UEX;2UIUZ;2UIUC;2UIUQ;2UIUX;2MZ",
   "16A9D=0TANGSA LETTER MC;2MQ;2MX;2KA;2KHA;2GA;2NGA;2SA;2YA;2WA;2PA;2NYA;2PHA;2BA;2MA;2NA;2HA",
   "16AAE=0TANGSA LETTER LA;2HTA;2TA;2DA;2RA;2NHA;2SHA;2CA;2TSA;2GHA;2HTTA;2THA;2XA;2FA;2DHA;2CHA",
   "16ABE=0TANGSA LETTER ZA;16AC0=1DIGIT ZERO;2ONE;2TWO;2THREE;2FOUR;2FIVE;2SIX;2SEVEN;2EIGHT",
   "16AC9=0TANGSA DIGIT NINE;16AD0=0BASSA VAH LETTER ENNI;3KA;3SE;3FA;3MBE;3YIE;3GAH;3DHII;3KPAH",
   "16AD9=0BASSA VAH LETTER JO;3HWAH;3WA;3ZO;3GBU;3DO;3CE;3UWU;3TO;3BA;3VU;3YEIN;3PA;3WADDA;3A;3O",
   "16AE9=0BASSA VAH LETTER OO;3U;3EE;3E;3I;16AF0=2COMBINING HIGH TONE;3LOW TONE;3MID TONE",
   "16AF3=0BASSA VAH COMBINING LOW-MID TONE;3HIGH-LOW TONE;2FULL STOP",
   "16B00=0PAHAWH HMONG VOWEL KEEB;3KEEV;3KIB;3KIV;3KAUB;3KAUV;3KUB;3KUV;3KEB;3KEV;3KAIB;3KAIV",
   "16B0C=0PAHAWH HMONG VOWEL KOOB;3KOOV;3KAWB;3KAWV;3KUAB;3KUAV;3KOB;3KOV;3KIAB;3KIAV;3KAB;3KAV",
   "16B18=0PAHAWH HMONG VOWEL KWB;3KWV;3KAAB;3KAAV;2CONSONANT VAU;3NTSAU;3LAU;3HAU;3NLAU;3RAU",
   "16B22=0PAHAWH HMONG CONSONANT NKAU;3QHAU;3YAU;3HLAU;3MAU;3CHAU;3NCHAU;3HNAU;3PLHAU;3NTHAU",
   "16B2C=0PAHAWH HMONG CONSONANT NAU;3AU;3XAU;3CAU;2MARK CIM TUB;4SO;4KES;4KHAV;4SUAM;4HOM;4TAUM",
   "16B37=0PAHAWH HMONG SIGN VOS THOM;4TSHAB CEEB;3CIM CHEEM;3VOS THIAB;4FEEM;3XYEEM NTXIV;4RHO",
   "16B3E=0PAHAWH HMONG SIGN XYEEM TOV;4FAIB;3VOS SEEV;3MEEJ SUAB;3VOS NRUA;3IB YAM;3XAUS",
   "16B45=0PAHAWH HMONG SIGN CIM TSOV ROG;16B50=2DIGIT ZERO;3ONE;3TWO;3THREE;3FOUR;3FIVE;3SIX",
   "16B57=0PAHAWH HMONG DIGIT SEVEN;3EIGHT;3NINE;16B5B=2NUMBER TENS;3HUNDREDS;3TEN THOUSANDS",
   "16B5E=0PAHAWH HMONG NUMBER MILLIONS;3HUNDRED MILLIONS;3TEN BILLIONS;3TRILLIONS",
   "16B63=0PAHAWH HMONG SIGN VOS LUB;3XYOO;3HLI;3THIRD-STAGE HLI;3ZWJ THAJ;3HNUB;3NQIG;3XIAB",
   "16B6B=0PAHAWH HMONG SIGN NTUJ;3AV;3TXHEEJ CEEV;3MEEJ TSEEB;3TAU;3LOS;3MUS",
   "16B72=0PAHAWH HMONG SIGN CIM HAIS LUS NTOG NTOG;4CUAM TSHOOJ;4TXWV;5CHWV;4PUB DAWB;4NRES TOS",
   "16B7D=0PAHAWH HMONG CLAN SIGN TSHEEJ;4YEEG;4LIS;4LAUJ;4XYOOJ;4KOO;4HAWJ;4MUAS;4THOJ;4TSAB",
   "16B87=0PAHAWH HMONG CLAN SIGN PHAB;4KHAB;4HAM;4VAJ;4FAJ;4YAJ;4TSWB;4KWM;4VWJ",
   "16E40=0MEDEFAIDRIN CAPITAL LETTER M;3S;3V;3W;3ATIU;3Z;3KP;3P;3T;3G;3F;3I;3K;3A;3J;3E;3B;3C;3U",
   "16E53=0MEDEFAIDRIN CAPITAL LETTER YU;3L;3Q;3HP;3NY;3X;3D;3OE;3N;3R;3O;3AI;3Y;1SMALL LETTER M",
   "16E61=0MEDEFAIDRIN SMALL LETTER S;3V;3W;3ATIU;3Z;3KP;3P;3T;3G;3F;3I;3K;3A;3J;3E;3B;3C;3U;3YU",
   "16E74=0MEDEFAIDRIN SMALL LETTER L;3Q;3HP;3NY;3X;3D;3OE;3N;3R;3O;3AI;3Y;1DIGIT ZERO;2ONE;2TWO",
   "16E83=0MEDEFAIDRIN DIGIT THREE;2FOUR;2FIVE;2SIX;2SEVEN;2EIGHT;2NINE;1NUMBER TEN;2ELEVEN",
   "16E8C=0MEDEFAIDRIN NUMBER TWELVE;2THIRTEEN;2FOURTEEN;2FIFTEEN;2SIXTEEN;2SEVENTEEN;2EIGHTEEN",
   "16E93=0MEDEFAIDRIN NUMBER NINETEEN;1DIGIT ONE ALTERNATE FORM;2TWO ALTERNATE FORM",
   "16E96=0MEDEFAIDRIN DIGIT THREE ALTERNATE FORM;1COMMA;1FULL STOP;1SYMBOL AIVA;1EXCLAMATION OH",
   "16F00=0MIAO LETTER PA;2BA;2YI PA;2PLA;2MA;2MHA;2ARCHAIC MA;2FA;2VA;2VFA;2TA;2DA;2YI TTA;3TA",
   "16F0E=0MIAO LETTER TTA;2DDA;2NA;2NHA;2YI NNA;2ARCHAIC NA;2NNA;2NNHA;2LA;2LYA;2LHA;2LHYA;2TLHA",
   "16F1B=0MIAO LETTER DLHA;2TLHYA;2DLHYA;2KA;2GA;2YI KA;2QA;2QGA;2NGA;2NGHA;2ARCHAIC NGA;2HA;2XA",
   "16F28=0MIAO LETTER GHA;2GHHA;2TSSA;2DZZA;2NYA;2NYHA;2TSHA;2DZHA;2YI TSHA;3DZHA;2REFORMED TSHA",
   "16F33=0MIAO LETTER SHA;2SSA;2ZHA;2ZSHA;2TSA;2DZA;2YI TSA;2SA;2ZA;2ZSA;2ZZA;2ZZSA;2ARCHAIC ZZA",
   "16F40=0MIAO LETTER ZZYA;2ZZSYA;2WA;2AH;2HHA;2BRI;2SYI;2DZYI;2TE;2TSE;2RTE",
   "16F4F=0MIAO SIGN CONSONANT MODIFIER BAR;1LETTER NASALIZATION;1SIGN ASPIRATION",
   "16F52=0MIAO SIGN REFORMED VOICING;3ASPIRATION;1VOWEL SIGN A;3AA;3AHH;3AN;3ANG;3O;3OO;3WO;3W",
   "16F5D=0MIAO VOWEL SIGN E;3EN;3ENG;3OEY;3I;3IA;3IAN;3IANG;3IO;3IE;3II;3IU;3ING;3U;3UA;3UAN",
   "16F6D=0MIAO VOWEL SIGN UANG;3UU;3UEI;3UNG;3Y;3YI;3AE;3AEE;3ERR;3ROUNDED ERR;3ER;3ROUNDED ER",
   "16F79=0MIAO VOWEL SIGN AI;3EI;3AU;3OU;3N;3NG;3UOG;3YUI;3OG;3OER;3VW;3IG;3EA;3IONG;3UI",
   "16F8F=0MIAO TONE RIGHT;2TOP RIGHT;2ABOVE;2BELOW;1LETTER TONE-2;2TONE-3;2TONE-4;2TONE-5",
   "16F97=0MIAO LETTER TONE-6;2TONE-7;2TONE-8;2REFORMED TONE-1;3TONE-2;3TONE-4;3TONE-5;3TONE-6",
   "16F9F=0MIAO LETTER REFORMED TONE-8;16FE0=0TANGUT ITERATION MARK;0NUSHU ITERATION MARK",
   "16FE2=0OLD CHINESE HOOK MARK;2ITERATION MARK;0KHITAN SMALL SCRIPT FILLER",
   "16FF0=0VIETNAMESE ALTERNATE READING MARK CA;4NHAY;18800=0TANGUT COMPONENT-001;1COMPONENT-002",
   "18802=0TANGUT COMPONENT-003;1COMPONENT-004;1COMPONENT-005;1COMPONENT-006;1COMPONENT-007",
   "18807=0TANGUT COMPONENT-008;1COMPONENT-009;1COMPONENT-010;1COMPONENT-011;1COMPONENT-012",
   "1880C=0TANGUT COMPONENT-013;1COMPONENT-014;1COMPONENT-015;1COMPONENT-016;1COMPONENT-017",
   "18811=0TANGUT COMPONENT-018;1COMPONENT-019;1COMPONENT-020;1COMPONENT-021;1COMPONENT-022",
   "18816=0TANGUT COMPONENT-023;1COMPONENT-024;1COMPONENT-025;1COMPONENT-026;1COMPONENT-027",
   "1881B=0TANGUT COMPONENT-028;1COMPONENT-029;1COMPONENT-030;1COMPONENT-031;1COMPONENT-032",
   "18820=0TANGUT COMPONENT-033;1COMPONENT-034;1COMPONENT-035;1COMPONENT-036;1COMPONENT-037",
   "18825=0TANGUT COMPONENT-038;1COMPONENT-039;1COMPONENT-040;1COMPONENT-041;1COMPONENT-042",
   "1882A=0TANGUT COMPONENT-043;1COMPONENT-044;1COMPONENT-045;1COMPONENT-046;1COMPONENT-047",
   "1882F=0TANGUT COMPONENT-048;1COMPONENT-049;1COMPONENT-050;1COMPONENT-051;1COMPONENT-052",
   "18834=0TANGUT COMPONENT-053;1COMPONENT-054;1COMPONENT-055;1COMPONENT-056;1COMPONENT-057",
   "18839=0TANGUT COMPONENT-058;1COMPONENT-059;1COMPONENT-060;1COMPONENT-061;1COMPONENT-062",
   "1883E=0TANGUT COMPONENT-063;1COMPONENT-064;1COMPONENT-065;1COMPONENT-066;1COMPONENT-067",
   "18843=0TANGUT COMPONENT-068;1COMPONENT-069;1COMPONENT-070;1COMPONENT-071;1COMPONENT-072",
   "18848=0TANGUT COMPONENT-073;1COMPONENT-074;1COMPONENT-075;1COMPONENT-076;1COMPONENT-077",
   "1884D=0TANGUT COMPONENT-078;1COMPONENT-079;1COMPONENT-080;1COMPONENT-081;1COMPONENT-082",
   "18852=0TANGUT COMPONENT-083;1COMPONENT-084;1COMPONENT-085;1COMPONENT-086;1COMPONENT-087",
   "18857=0TANGUT COMPONENT-088;1COMPONENT-089;1COMPONENT-090;1COMPONENT-091;1COMPONENT-092",
   "1885C=0TANGUT COMPONENT-093;1COMPONENT-094;1COMPONENT-095;1COMPONENT-096;1COMPONENT-097",
   "18861=0TANGUT COMPONENT-098;1COMPONENT-099;1COMPONENT-100;1COMPONENT-101;1COMPONENT-102",
   "18866=0TANGUT COMPONENT-103;1COMPONENT-104;1COMPONENT-105;1COMPONENT-106;1COMPONENT-107",
   "1886B=0TANGUT COMPONENT-108;1COMPONENT-109;1COMPONENT-110;1COMPONENT-111;1COMPONENT-112",
   "18870=0TANGUT COMPONENT-113;1COMPONENT-114;1COMPONENT-115;1COMPONENT-116;1COMPONENT-117",
   "18875=0TANGUT COMPONENT-118;1COMPONENT-119;1COMPONENT-120;1COMPONENT-121;1COMPONENT-122",
   "1887A=0TANGUT COMPONENT-123;1COMPONENT-124;1COMPONENT-125;1COMPONENT-126;1COMPONENT-127",
   "1887F=0TANGUT COMPONENT-128;1COMPONENT-129;1COMPONENT-130;1COMPONENT-131;1COMPONENT-132",
   "18884=0TANGUT COMPONENT-133;1COMPONENT-134;1COMPONENT-135;1COMPONENT-136;1COMPONENT-137",
   "18889=0TANGUT COMPONENT-138;1COMPONENT-139;1COMPONENT-140;1COMPONENT-141;1COMPONENT-142",
   "1888E=0TANGUT COMPONENT-143;1COMPONENT-144;1COMPONENT-145;1COMPONENT-146;1COMPONENT-147",
   "18893=0TANGUT COMPONENT-148;1COMPONENT-149;1COMPONENT-150;1COMPONENT-151;1COMPONENT-152",
   "18898=0TANGUT COMPONENT-153;1COMPONENT-154;1COMPONENT-155;1COMPONENT-156;1COMPONENT-157",
   "1889D=0TANGUT COMPONENT-158;1COMPONENT-159;1COMPONENT-160;1COMPONENT-161;1COMPONENT-162",
   "188A2=0TANGUT COMPONENT-163;1COMPONENT-164;1COMPONENT-165;1COMPONENT-166;1COMPONENT-167",
   "188A7=0TANGUT COMPONENT-168;1COMPONENT-169;1COMPONENT-170;1COMPONENT-171;1COMPONENT-172",
   "188AC=0TANGUT COMPONENT-173;1COMPONENT-174;1COMPONENT-175;1COMPONENT-176;1COMPONENT-177",
   "188B1=0TANGUT COMPONENT-178;1COMPONENT-179;1COMPONENT-180;1COMPONENT-181;1COMPONENT-182",
   "188B6=0TANGUT COMPONENT-183;1COMPONENT-184;1COMPONENT-185;1COMPONENT-186;1COMPONENT-187",
   "188BB=0TANGUT COMPONENT-188;1COMPONENT-189;1COMPONENT-190;1COMPONENT-191;1COMPONENT-192",
   "188C0=0TANGUT COMPONENT-193;1COMPONENT-194;1COMPONENT-195;1COMPONENT-196;1COMPONENT-197",
   "188C5=0TANGUT COMPONENT-198;1COMPONENT-199;1COMPONENT-200;1COMPONENT-201;1COMPONENT-202",
   "188CA=0TANGUT COMPONENT-203;1COMPONENT-204;1COMPONENT-205;1COMPONENT-206;1COMPONENT-207",
   "188CF=0TANGUT COMPONENT-208;1COMPONENT-209;1COMPONENT-210;1COMPONENT-211;1COMPONENT-212",
   "188D4=0TANGUT COMPONENT-213;1COMPONENT-214;1COMPONENT-215;1COMPONENT-216;1COMPONENT-217",
   "188D9=0TANGUT COMPONENT-218;1COMPONENT-219;1COMPONENT-220;1COMPONENT-221;1COMPONENT-222",
   "188DE=0TANGUT COMPONENT-223;1COMPONENT-224;1COMPONENT-225;1COMPONENT-226;1COMPONENT-227",
   "188E3=0TANGUT COMPONENT-228;1COMPONENT-229;1COMPONENT-230;1COMPONENT-231;1COMPONENT-232",
   "188E8=0TANGUT COMPONENT-233;1COMPONENT-234;1COMPONENT-235;1COMPONENT-236;1COMPONENT-237",
   "188ED=0TANGUT COMPONENT-238;1COMPONENT-239;1COMPONENT-240;1COMPONENT-241;1COMPONENT-242",
   "188F2=0TANGUT COMPONENT-243;1COMPONENT-244;1COMPONENT-245;1COMPONENT-246;1COMPONENT-247",
   "188F7=0TANGUT COMPONENT-248;1COMPONENT-249;1COMPONENT-250;1COMPONENT-251;1COMPONENT-252",
   "188FC=0TANGUT COMPONENT-253;1COMPONENT-254;1COMPONENT-255;1COMPONENT-256;1COMPONENT-257",
   "18901=0TANGUT COMPONENT-258;1COMPONENT-259;1COMPONENT-260;1COMPONENT-261;1COMPONENT-262",
   "18906=0TANGUT COMPONENT-263;1COMPONENT-264;1COMPONENT-265;1COMPONENT-266;1COMPONENT-267",
   "1890B=0TANGUT COMPONENT-268;1COMPONENT-269;1COMPONENT-270;1COMPONENT-271;1COMPONENT-272",
   "18910=0TANGUT COMPONENT-273;1COMPONENT-274;1COMPONENT-275;1COMPONENT-276;1COMPONENT-277",
   "18915=0TANGUT COMPONENT-278;1COMPONENT-279;1COMPONENT-280;1COMPONENT-281;1COMPONENT-282",
   "1891A=0TANGUT COMPONENT-283;1COMPONENT-284;1COMPONENT-285;1COMPONENT-286;1COMPONENT-287",
   "1891F=0TANGUT COMPONENT-288;1COMPONENT-289;1COMPONENT-290;1COMPONENT-291;1COMPONENT-292",
   "18924=0TANGUT COMPONENT-293;1COMPONENT-294;1COMPONENT-295;1COMPONENT-296;1COMPONENT-297",
   "18929=0TANGUT COMPONENT-298;1COMPONENT-299;1COMPONENT-300;1COMPONENT-301;1COMPONENT-302",
   "1892E=0TANGUT COMPONENT-303;1COMPONENT-304;1COMPONENT-305;1COMPONENT-306;1COMPONENT-307",
   "18933=0TANGUT COMPONENT-308;1COMPONENT-309;1COMPONENT-310;1COMPONENT-311;1COMPONENT-312",
   "18938=0TANGUT COMPONENT-313;1COMPONENT-314;1COMPONENT-315;1COMPONENT-316;1COMPONENT-317",
   "1893D=0TANGUT COMPONENT-318;1COMPONENT-319;1COMPONENT-320;1COMPONENT-321;1COMPONENT-322",
   "18942=0TANGUT COMPONENT-323;1COMPONENT-324;1COMPONENT-325;1COMPONENT-326;1COMPONENT-327",
   "18947=0TANGUT COMPONENT-328;1COMPONENT-329;1COMPONENT-330;1COMPONENT-331;1COMPONENT-332",
   "1894C=0TANGUT COMPONENT-333;1COMPONENT-334;1COMPONENT-335;1COMPONENT-336;1COMPONENT-337",
   "18951=0TANGUT COMPONENT-338;1COMPONENT-339;1COMPONENT-340;1COMPONENT-341;1COMPONENT-342",
   "18956=0TANGUT COMPONENT-343;1COMPONENT-344;1COMPONENT-345;1COMPONENT-346;1COMPONENT-347",
   "1895B=0TANGUT COMPONENT-348;1COMPONENT-349;1COMPONENT-350;1COMPONENT-351;1COMPONENT-352",
   "18960=0TANGUT COMPONENT-353;1COMPONENT-354;1COMPONENT-355;1COMPONENT-356;1COMPONENT-357",
   "18965=0TANGUT COMPONENT-358;1COMPONENT-359;1COMPONENT-360;1COMPONENT-361;1COMPONENT-362",
   "1896A=0TANGUT COMPONENT-363;1COMPONENT-364;1COMPONENT-365;1COMPONENT-366;1COMPONENT-367",
   "1896F=0TANGUT COMPONENT-368;1COMPONENT-369;1COMPONENT-370;1COMPONENT-371;1COMPONENT-372",
   "18974=0TANGUT COMPONENT-373;1COMPONENT-374;1COMPONENT-375;1COMPONENT-376;1COMPONENT-377",
   "18979=0TANGUT COMPONENT-378;1COMPONENT-379;1COMPONENT-380;1COMPONENT-381;1COMPONENT-382",
   "1897E=0TANGUT COMPONENT-383;1COMPONENT-384;1COMPONENT-385;1COMPONENT-386;1COMPONENT-387",
   "18983=0TANGUT COMPONENT-388;1COMPONENT-389;1COMPONENT-390;1COMPONENT-391;1COMPONENT-392",
   "18988=0TANGUT COMPONENT-393;1COMPONENT-394;1COMPONENT-395;1COMPONENT-396;1COMPONENT-397",
   "1898D=0TANGUT COMPONENT-398;1COMPONENT-399;1COMPONENT-400;1COMPONENT-401;1COMPONENT-402",
   "18992=0TANGUT COMPONENT-403;1COMPONENT-404;1COMPONENT-405;1COMPONENT-406;1COMPONENT-407",
   "18997=0TANGUT COMPONENT-408;1COMPONENT-409;1COMPONENT-410;1COMPONENT-411;1COMPONENT-412",
   "1899C=0TANGUT COMPONENT-413;1COMPONENT-414;1COMPONENT-415;1COMPONENT-416;1COMPONENT-417",
   "189A1=0TANGUT COMPONENT-418;1COMPONENT-419;1COMPONENT-420;1COMPONENT-421;1COMPONENT-422",
   "189A6=0TANGUT COMPONENT-423;1COMPONENT-424;1COMPONENT-425;1COMPONENT-426;1COMPONENT-427",
   "189AB=0TANGUT COMPONENT-428;1COMPONENT-429;1COMPONENT-430;1COMPONENT-431;1COMPONENT-432",
   "189B0=0TANGUT COMPONENT-433;1COMPONENT-434;1COMPONENT-435;1COMPONENT-436;1COMPONENT-437",
   "189B5=0TANGUT COMPONENT-438;1COMPONENT-439;1COMPONENT-440;1COMPONENT-441;1COMPONENT-442",
   "189BA=0TANGUT COMPONENT-443;1COMPONENT-444;1COMPONENT-445;1COMPONENT-446;1COMPONENT-447",
   "189BF=0TANGUT COMPONENT-448;1COMPONENT-449;1COMPONENT-450;1COMPONENT-451;1COMPONENT-452",
   "189C4=0TANGUT COMPONENT-453;1COMPONENT-454;1COMPONENT-455;1COMPONENT-456;1COMPONENT-457",
   "189C9=0TANGUT COMPONENT-458;1COMPONENT-459;1COMPONENT-460;1COMPONENT-461;1COMPONENT-462",
   "189CE=0TANGUT COMPONENT-463;1COMPONENT-464;1COMPONENT-465;1COMPONENT-466;1COMPONENT-467",
   "189D3=0TANGUT COMPONENT-468;1COMPONENT-469;1COMPONENT-470;1COMPONENT-471;1COMPONENT-472",
   "189D8=0TANGUT COMPONENT-473;1COMPONENT-474;1COMPONENT-475;1COMPONENT-476;1COMPONENT-477",
   "189DD=0TANGUT COMPONENT-478;1COMPONENT-479;1COMPONENT-480;1COMPONENT-481;1COMPONENT-482",
   "189E2=0TANGUT COMPONENT-483;1COMPONENT-484;1COMPONENT-485;1COMPONENT-486;1COMPONENT-487",
   "189E7=0TANGUT COMPONENT-488;1COMPONENT-489;1COMPONENT-490;1COMPONENT-491;1COMPONENT-492",
   "189EC=0TANGUT COMPONENT-493;1COMPONENT-494;1COMPONENT-495;1COMPONENT-496;1COMPONENT-497",
   "189F1=0TANGUT COMPONENT-498;1COMPONENT-499;1COMPONENT-500;1COMPONENT-501;1COMPONENT-502",
   "189F6=0TANGUT COMPONENT-503;1COMPONENT-504;1COMPONENT-505;1COMPONENT-506;1COMPONENT-507",
   "189FB=0TANGUT COMPONENT-508;1COMPONENT-509;1COMPONENT-510;1COMPONENT-511;1COMPONENT-512",
   "18A00=0TANGUT COMPONENT-513;1COMPONENT-514;1COMPONENT-515;1COMPONENT-516;1COMPONENT-517",
   "18A05=0TANGUT COMPONENT-518;1COMPONENT-519;1COMPONENT-520;1COMPONENT-521;1COMPONENT-522",
   "18A0A=0TANGUT COMPONENT-523;1COMPONENT-524;1COMPONENT-525;1COMPONENT-526;1COMPONENT-527",
   "18A0F=0TANGUT COMPONENT-528;1COMPONENT-529;1COMPONENT-530;1COMPONENT-531;1COMPONENT-532",
   "18A14=0TANGUT COMPONENT-533;1COMPONENT-534;1COMPONENT-535;1COMPONENT-536;1COMPONENT-537",
   "18A19=0TANGUT COMPONENT-538;1COMPONENT-539;1COMPONENT-540;1COMPONENT-541;1COMPONENT-542",
   "18A1E=0TANGUT COMPONENT-543;1COMPONENT-544;1COMPONENT-545;1COMPONENT-546;1COMPONENT-547",
   "18A23=0TANGUT COMPONENT-548;1COMPONENT-549;1COMPONENT-550;1COMPONENT-551;1COMPONENT-552",
   "18A28=0TANGUT COMPONENT-553;1COMPONENT-554;1COMPONENT-555;1COMPONENT-556;1COMPONENT-557",
   "18A2D=0TANGUT COMPONENT-558;1COMPONENT-559;1COMPONENT-560;1COMPONENT-561;1COMPONENT-562",
   "18A32=0TANGUT COMPONENT-563;1COMPONENT-564;1COMPONENT-565;1COMPONENT-566;1COMPONENT-567",
   "18A37=0TANGUT COMPONENT-568;1COMPONENT-569;1COMPONENT-570;1COMPONENT-571;1COMPONENT-572",
   "18A3C=0TANGUT COMPONENT-573;1COMPONENT-574;1COMPONENT-575;1COMPONENT-576;1COMPONENT-577",
   "18A41=0TANGUT COMPONENT-578;1COMPONENT-579;1COMPONENT-580;1COMPONENT-581;1COMPONENT-582",
   "18A46=0TANGUT COMPONENT-583;1COMPONENT-584;1COMPONENT-585;1COMPONENT-586;1COMPONENT-587",
   "18A4B=0TANGUT COMPONENT-588;1COMPONENT-589;1COMPONENT-590;1COMPONENT-591;1COMPONENT-592",
   "18A50=0TANGUT COMPONENT-593;1COMPONENT-594;1COMPONENT-595;1COMPONENT-596;1COMPONENT-597",
   "18A55=0TANGUT COMPONENT-598;1COMPONENT-599;1COMPONENT-600;1COMPONENT-601;1COMPONENT-602",
   "18A5A=0TANGUT COMPONENT-603;1COMPONENT-604;1COMPONENT-605;1COMPONENT-606;1COMPONENT-607",
   "18A5F=0TANGUT COMPONENT-608;1COMPONENT-609;1COMPONENT-610;1COMPONENT-611;1COMPONENT-612",
   "18A64=0TANGUT COMPONENT-613;1COMPONENT-614;1COMPONENT-615;1COMPONENT-616;1COMPONENT-617",
   "18A69=0TANGUT COMPONENT-618;1COMPONENT-619;1COMPONENT-620;1COMPONENT-621;1COMPONENT-622",
   "18A6E=0TANGUT COMPONENT-623;1COMPONENT-624;1COMPONENT-625;1COMPONENT-626;1COMPONENT-627",
   "18A73=0TANGUT COMPONENT-628;1COMPONENT-629;1COMPONENT-630;1COMPONENT-631;1COMPONENT-632",
   "18A78=0TANGUT COMPONENT-633;1COMPONENT-634;1COMPONENT-635;1COMPONENT-636;1COMPONENT-637",
   "18A7D=0TANGUT COMPONENT-638;1COMPONENT-639;1COMPONENT-640;1COMPONENT-641;1COMPONENT-642",
   "18A82=0TANGUT COMPONENT-643;1COMPONENT-644;1COMPONENT-645;1COMPONENT-646;1COMPONENT-647",
   "18A87=0TANGUT COMPONENT-648;1COMPONENT-649;1COMPONENT-650;1COMPONENT-651;1COMPONENT-652",
   "18A8C=0TANGUT COMPONENT-653;1COMPONENT-654;1COMPONENT-655;1COMPONENT-656;1COMPONENT-657",
   "18A91=0TANGUT COMPONENT-658;1COMPONENT-659;1COMPONENT-660;1COMPONENT-661;1COMPONENT-662",
   "18A96=0TANGUT COMPONENT-663;1COMPONENT-664;1COMPONENT-665;1COMPONENT-666;1COMPONENT-667",
   "18A9B=0TANGUT COMPONENT-668;1COMPONENT-669;1COMPONENT-670;1COMPONENT-671;1COMPONENT-672",
   "18AA0=0TANGUT COMPONENT-673;1COMPONENT-674;1COMPONENT-675;1COMPONENT-676;1COMPONENT-677",
   "18AA5=0TANGUT COMPONENT-678;1COMPONENT-679;1COMPONENT-680;1COMPONENT-681;1COMPONENT-682",
   "18AAA=0TANGUT COMPONENT-683;1COMPONENT-684;1COMPONENT-685;1COMPONENT-686;1COMPONENT-687",
   "18AAF=0TANGUT COMPONENT-688;1COMPONENT-689;1COMPONENT-690;1COMPONENT-691;1COMPONENT-692",
   "18AB4=0TANGUT COMPONENT-693;1COMPONENT-694;1COMPONENT-695;1COMPONENT-696;1COMPONENT-697",
   "18AB9=0TANGUT COMPONENT-698;1COMPONENT-699;1COMPONENT-700;1COMPONENT-701;1COMPONENT-702",
   "18ABE=0TANGUT COMPONENT-703;1COMPONENT-704;1COMPONENT-705;1COMPONENT-706;1COMPONENT-707",
   "18AC3=0TANGUT COMPONENT-708;1COMPONENT-709;1COMPONENT-710;1COMPONENT-711;1COMPONENT-712",
   "18AC8=0TANGUT COMPONENT-713;1COMPONENT-714;1COMPONENT-715;1COMPONENT-716;1COMPONENT-717",
   "18ACD=0TANGUT COMPONENT-718;1COMPONENT-719;1COMPONENT-720;1COMPONENT-721;1COMPONENT-722",
   "18AD2=0TANGUT COMPONENT-723;1COMPONENT-724;1COMPONENT-725;1COMPONENT-726;1COMPONENT-727",
   "18AD7=0TANGUT COMPONENT-728;1COMPONENT-729;1COMPONENT-730;1COMPONENT-731;1COMPONENT-732",
   "18ADC=0TANGUT COMPONENT-733;1COMPONENT-734;1COMPONENT-735;1COMPONENT-736;1COMPONENT-737",
   "18AE1=0TANGUT COMPONENT-738;1COMPONENT-739;1COMPONENT-740;1COMPONENT-741;1COMPONENT-742",
   "18AE6=0TANGUT COMPONENT-743;1COMPONENT-744;1COMPONENT-745;1COMPONENT-746;1COMPONENT-747",
   "18AEB=0TANGUT COMPONENT-748;1COMPONENT-749;1COMPONENT-750;1COMPONENT-751;1COMPONENT-752",
   "18AF0=0TANGUT COMPONENT-753;1COMPONENT-754;1COMPONENT-755;1COMPONENT-756;1COMPONENT-757",
   "18AF5=0TANGUT COMPONENT-758;1COMPONENT-759;1COMPONENT-760;1COMPONENT-761;1COMPONENT-762",
   "18AFA=0TANGUT COMPONENT-763;1COMPONENT-764;1COMPONENT-765;1COMPONENT-766;1COMPONENT-767",
   "18AFF=0TANGUT COMPONENT-768;1AFF0=0KATAKANA LETTER MINNAN TONE-2;3TONE-3;3TONE-4;3TONE-5",
   "1AFF5=0KATAKANA LETTER MINNAN TONE-7;3TONE-8;3NASALIZED TONE-1;4TONE-2;4TONE-3;4TONE-4",
   "1AFFB=0KATAKANA LETTER MINNAN NASALIZED TONE-5;1AFFD=4TONE-7;4TONE-8;1B000=2ARCHAIC E",
   "1B001=0HIRAGANA LETTER ARCHAIC YE;0HENTAIGANA LETTER A-1;2A-2;2A-3;2A-WO;2I-1;2I-2;2I-3;2I-4",
   "1B00A=0HENTAIGANA LETTER U-1;2U-2;2U-3;2U-4;2U-5;2E-2;2E-3;2E-4;2E-5;2E-6;2O-1;2O-2;2O-3",
   "1B017=0HENTAIGANA LETTER KA-1;2KA-2;2KA-3;2KA-4;2KA-5;2KA-6;2KA-7;2KA-8;2KA-9;2KA-10;2KA-11",
   "1B022=0HENTAIGANA LETTER KA-KE;2KI-1;2KI-2;2KI-3;2KI-4;2KI-5;2KI-6;2KI-7;2KI-8;2KU-1;2KU-2",
   "1B02D=0HENTAIGANA LETTER KU-3;2KU-4;2KU-5;2KU-6;2KU-7;2KE-1;2KE-2;2KE-3;2KE-4;2KE-5;2KE-6",
   "1B038=0HENTAIGANA LETTER KO-1;2KO-2;2KO-3;2KO-KI;2SA-1;2SA-2;2SA-3;2SA-4;2SA-5;2SA-6;2SA-7",
   "1B043=0HENTAIGANA LETTER SA-8;2SI-1;2SI-2;2SI-3;2SI-4;2SI-5;2SI-6;2SU-1;2SU-2;2SU-3;2SU-4",
   "1B04E=0HENTAIGANA LETTER SU-5;2SU-6;2SU-7;2SU-8;2SE-1;2SE-2;2SE-3;2SE-4;2SE-5;2SO-1;2SO-2",
   "1B059=0HENTAIGANA LETTER SO-3;2SO-4;2SO-5;2SO-6;2SO-7;2TA-1;2TA-2;2TA-3;2TA-4;2TI-1;2TI-2",
   "1B064=0HENTAIGANA LETTER TI-3;2TI-4;2TI-5;2TI-6;2TI-7;2TU-1;2TU-2;2TU-3;2TU-4;2TU-TO;2TE-1",
   "1B06F=0HENTAIGANA LETTER TE-2;2TE-3;2TE-4;2TE-5;2TE-6;2TE-7;2TE-8;2TE-9;2TO-1;2TO-2;2TO-3",
   "1B07A=0HENTAIGANA LETTER TO-4;2TO-5;2TO-6;2TO-RA;2NA-1;2NA-2;2NA-3;2NA-4;2NA-5;2NA-6;2NA-7",
   "1B085=0HENTAIGANA LETTER NA-8;2NA-9;2NI-1;2NI-2;2NI-3;2NI-4;2NI-5;2NI-6;2NI-7;2NI-TE;2NU-1",
   "1B090=0HENTAIGANA LETTER NU-2;2NU-3;2NE-1;2NE-2;2NE-3;2NE-4;2NE-5;2NE-6;2NE-KO;2NO-1;2NO-2",
   "1B09B=0HENTAIGANA LETTER NO-3;2NO-4;2NO-5;2HA-1;2HA-2;2HA-3;2HA-4;2HA-5;2HA-6;2HA-7;2HA-8",
   "1B0A6=0HENTAIGANA LETTER HA-9;2HA-10;2HA-11;2HI-1;2HI-2;2HI-3;2HI-4;2HI-5;2HI-6;2HI-7;2HU-1",
   "1B0B1=0HENTAIGANA LETTER HU-2;2HU-3;2HE-1;2HE-2;2HE-3;2HE-4;2HE-5;2HE-6;2HE-7;2HO-1;2HO-2",
   "1B0BC=0HENTAIGANA LETTER HO-3;2HO-4;2HO-5;2HO-6;2HO-7;2HO-8;2MA-1;2MA-2;2MA-3;2MA-4;2MA-5",
   "1B0C7=0HENTAIGANA LETTER MA-6;2MA-7;2MI-1;2MI-2;2MI-3;2MI-4;2MI-5;2MI-6;2MI-7;2MU-1;2MU-2",
   "1B0D2=0HENTAIGANA LETTER MU-3;2MU-4;2ME-1;2ME-2;2ME-MA;2MO-1;2MO-2;2MO-3;2MO-4;2MO-5;2MO-6",
   "1B0DD=0HENTAIGANA LETTER YA-1;2YA-2;2YA-3;2YA-4;2YA-5;2YA-YO;2YU-1;2YU-2;2YU-3;2YU-4;2YO-1",
   "1B0E8=0HENTAIGANA LETTER YO-2;2YO-3;2YO-4;2YO-5;2YO-6;2RA-1;2RA-2;2RA-3;2RA-4;2RI-1;2RI-2",
   "1B0F3=0HENTAIGANA LETTER RI-3;2RI-4;2RI-5;2RI-6;2RI-7;2RU-1;2RU-2;2RU-3;2RU-4;2RU-5;2RU-6",
   "1B0FE=0HENTAIGANA LETTER RE-1;2RE-2;2RE-3;2RE-4;2RO-1;2RO-2;2RO-3;2RO-4;2RO-5;2RO-6;2WA-1",
   "1B109=0HENTAIGANA LETTER WA-2;2WA-3;2WA-4;2WA-5;2WI-1;2WI-2;2WI-3;2WI-4;2WI-5;2WE-1;2WE-2",
   "1B114=0HENTAIGANA LETTER WE-3;2WE-4;2WO-1;2WO-2;2WO-3;2WO-4;2WO-5;2WO-6;2WO-7;2N-MU-MO-1",
   "1B11E=0HENTAIGANA LETTER N-MU-MO-2;0HIRAGANA LETTER ARCHAIC WU;0KATAKANA LETTER ARCHAIC YI",
   "1B121=0KATAKANA LETTER ARCHAIC YE;3WU;1B132=0HIRAGANA LETTER SMALL KO;1B150=3WI;3WE;3WO",
   "1B155=0KATAKANA LETTER SMALL KO;1B164=3WI;3WE;3WO;3N;1BC00=0DUPLOYAN LETTER H;2X;2P;2T;2F;2K",
   "1BC06=0DUPLOYAN LETTER L;2B;2D;2V;2G;2R;2P N;2D S;2F N;2K M;2R S;2TH;2SLOAN DH;2DH;2KK",
   "1BC15=0DUPLOYAN LETTER SLOAN J;2HL;2LH;2RH;2M;2N;2J;2S;2M N;2N M;2J M;2S J;2M WITH DOT",
   "1BC22=0DUPLOYAN LETTER N WITH DOT;2J WITH DOT;4DOTS INSIDE AND ABOVE;2S WITH DOT;5BELOW;2M S",
   "1BC28=0DUPLOYAN LETTER N S;2J S;2S S;2M N S;2N M S;2J M S;2S J S;2J S WITH DOT;3N;4S;2S T;4R",
   "1BC34=0DUPLOYAN LETTER S P;4R;2T S;3R S;2W;2WH;2W R;2S N;3M;2K R S;2G R S;2S K;4R;2A",
   "1BC42=0DUPLOYAN LETTER SLOAN OW;2OA;2O;2AOU;2I;2E;2IE;2SHORT I;2UI;2EE;2SLOAN EH;2ROMANIAN I",
   "1BC4E=0DUPLOYAN LETTER SLOAN EE;2LONG I;2YE;2U;2EU;2XW;2U N;2LONG U;2ROMANIAN U;2UH;2SLOAN U",
   "1BC59=0DUPLOYAN LETTER OOH;2OW;2OU;2WA;2WO;2WI;2WEI;2WOW;2NASAL U;3O;3I;3A;2PERNIN AN;3AM",
   "1BC67=0DUPLOYAN LETTER SLOAN EN;3AN;3ON;2VOCALIC M;1BC70=1AFFIX LEFT HORIZONTAL SECANT",
   "1BC71=0DUPLOYAN AFFIX MID HORIZONTAL SECANT;2RIGHT HORIZONTAL SECANT;2LOW VERTICAL SECANT",
   "1BC74=0DUPLOYAN AFFIX MID VERTICAL SECANT;2HIGH VERTICAL SECANT;2ATTACHED SECANT",
   "1BC77=0DUPLOYAN AFFIX ATTACHED LEFT-TO-RIGHT SECANT;3TANGENT;3TAIL;3E HOOK;3I HOOK",
   "1BC7C=0DUPLOYAN AFFIX ATTACHED TANGENT HOOK;1BC80=2HIGH ACUTE;3TIGHT ACUTE;3GRAVE;3LONG GRAVE",
   "1BC84=0DUPLOYAN AFFIX HIGH DOT;3CIRCLE;3LINE;3WAVE;3VERTICAL;1BC90=2LOW ACUTE;3TIGHT ACUTE",
   "1BC92=0DUPLOYAN AFFIX LOW GRAVE;3LONG GRAVE;3DOT;3CIRCLE;3LINE;3WAVE;3VERTICAL;3ARROW",
   "1BC9C=0DUPLOYAN SIGN O WITH CROSS;1THICK LETTER SELECTOR;1DOUBLE MARK",
   "1BC9F=0DUPLOYAN PUNCTUATION CHINOOK FULL STOP;0SHORTHAND FORMAT LETTER OVERLAP",
   "1BCA1=0SHORTHAND FORMAT CONTINUING OVERLAP;2DOWN STEP;2UP STEP",
   "1CF00=0ZNAMENNY COMBINING MARK GORAZDO NIZKO S KRYZHEM ON LEFT;3NIZKO S KRYZHEM ON LEFT",
   "1CF02=0ZNAMENNY COMBINING MARK TSATA ON LEFT;3GORAZDO NIZKO ON LEFT;3NIZKO ON LEFT",
   "1CF05=0ZNAMENNY COMBINING MARK SREDNE ON LEFT;3MALO POVYSHE ON LEFT;3POVYSHE ON LEFT",
   "1CF08=0ZNAMENNY COMBINING MARK VYSOKO ON LEFT;3MALO POVYSHE S KHOKHLOM ON LEFT",
   "1CF0A=0ZNAMENNY COMBINING MARK POVYSHE S KHOKHLOM ON LEFT;3VYSOKO S KHOKHLOM ON LEFT",
   "1CF0C=0ZNAMENNY COMBINING MARK GORAZDO NIZKO S KRYZHEM ON RIGHT;3NIZKO S KRYZHEM ON RIGHT",
   "1CF0E=0ZNAMENNY COMBINING MARK TSATA ON RIGHT;3GORAZDO NIZKO ON RIGHT;3NIZKO ON RIGHT",
   "1CF11=0ZNAMENNY COMBINING MARK SREDNE ON RIGHT;3MALO POVYSHE ON RIGHT;3POVYSHE ON RIGHT",
   "1CF14=0ZNAMENNY COMBINING MARK VYSOKO ON RIGHT;3MALO POVYSHE S KHOKHLOM ON RIGHT",
   "1CF16=0ZNAMENNY COMBINING MARK POVYSHE S KHOKHLOM ON RIGHT;3VYSOKO S KHOKHLOM ON RIGHT",
   "1CF18=0ZNAMENNY COMBINING MARK TSATA S KRYZHEM;3MALO POVYSHE S KRYZHEM;3STRANNO MALO POVYSHE",
   "1CF1B=0ZNAMENNY COMBINING MARK POVYSHE S KRYZHEM;4STRANNO;3VYSOKO S KRYZHEM",
   "1CF1E=0ZNAMENNY COMBINING MARK MALO POVYSHE STRANNO;3GORAZDO VYSOKO;3ZELO;3ON;3RAVNO;3TIKHAYA",
   "1CF24=0ZNAMENNY COMBINING MARK BORZAYA;3UDARKA;3PODVERTKA;3LOMKA;3KUPNAYA;3KACHKA;3ZEVOK",
   "1CF2B=0ZNAMENNY COMBINING MARK SKOBA;3RAZSEKA;3KRYZH ON LEFT;1CF30=2TONAL RANGE MARK MRACHNO",
   "1CF31=0ZNAMENNY COMBINING TONAL RANGE MARK SVETLO;5TRESVETLO;2MARK ZADERZHKA",
   "1CF34=0ZNAMENNY COMBINING MARK DEMESTVENNY ZADERZHKA;3OTSECHKA;3PODCHASHIE",
   "1CF37=0ZNAMENNY COMBINING MARK PODCHASHIE WITH VERTICAL STROKE;3CHASHKA;4POLNAYA;3OBLACHKO",
   "1CF3B=0ZNAMENNY COMBINING MARK SOROCHYA NOZHKA;3TOCHKA;3DVOETOCHIE;2ATTACHING VERTICAL OMET",
   "1CF3F=0ZNAMENNY COMBINING MARK CURVED OMET;3KRYZH;2LOWER TONAL RANGE INDICATOR",
   "1CF42=0ZNAMENNY PRIZNAK MODIFIER LEVEL-2;3LEVEL-3;3DIRECTION FLIP;3KRYZH;3ROG",
   "1CF50=0ZNAMENNY NEUME KRYUK;3TIKHY;2PARAKLIT;2DVA V CHELNU;2KLYUCH;2ZANOZHEK;2STOPITSA",
   "1CF57=0ZNAMENNY NEUME STOPITSA S OCHKOM;2PEREVODKA;3NEPOSTOYANNAYA",
   "1CF5A=0ZNAMENNY NEUME STOPITSA WITH SOROCHYA NOZHKA;2CHELYUSTKA;2PALKA;2ZAPYATAYA",
   "1CF5E=0ZNAMENNY NEUME GOLUBCHIK BORZY;3TIKHY;3MRACHNY;3SVETLY;3TRESVETLY;2VRAKHIYA PROSTAYA",
   "1CF64=0ZNAMENNY NEUME VRAKHIYA MRACHNAYA;3SVETLAYA;3TRESVETLAYA;3KLYUCHEVAYA PROSTAYA",
   "1CF68=0ZNAMENNY NEUME VRAKHIYA KLYUCHEVAYA MRACHNAYA;4SVETLAYA;4TRESVETLAYA;2DOUBLE ZAPYATAYA",
   "1CF6C=0ZNAMENNY NEUME REVERSED CHELYUSTKA;2DERBITSA;2KHAMILO;2CHASHKA;2PODCHASHIE",
   "1CF71=0ZNAMENNY NEUME SKAMEYTSA MRACHNAYA;3SVETLAYA;3TRESVETLAYA;3TIKHAYA;2DEMESTVENNY KLYUCH",
   "1CF76=0ZNAMENNY NEUME SKAMEYTSA KLYUCHEVAYA SVETLAYA;3KLYUCHENEPOSTOYANNAYA",
   "1CF78=0ZNAMENNY NEUME SKAMEYTSA KLYUCHEVAYA TIKHAYA;3DVOECHELNAYA PROSTAYA;4SVETLAYA",
   "1CF7B=0ZNAMENNY NEUME SKAMEYTSA DVOECHELNAYA NEPOSTOYANNAYA;4KLYUCHEVAYA;2SLOZHITIE",
   "1CF7E=0ZNAMENNY NEUME SLOZHITIE S ZAPYATOY;3ZAKRYTOE;3S KRYZHEM;2KRYZH;2ROG;2FITA;2KOBYLA",
   "1CF85=0ZNAMENNY NEUME ZMEYTSA;2STATYA;3S ZAPYATOY;4KRYZHEM;4ZAPYATOY I KRYZHEM",
   "1CF8A=0ZNAMENNY NEUME STATYA S KRYZHEM I ZAPYATOY;3ZAKRYTAYA;4S ZAPYATOY;3S ROGOM",
   "1CF8E=0ZNAMENNY NEUME STATYA S DVUMYA ZAPYATYMI;4ZAPYATOY I PODCHASHIEM;2POLKULIZMY",
   "1CF91=0ZNAMENNY NEUME STATYA NEPOSTOYANNAYA;2STRELA PROSTAYA;3MRACHNOTIKHAYA;3KRYZHEVAYA",
   "1CF95=0ZNAMENNY NEUME STRELA POLUPOVODNAYA;3POVODNAYA;3NEPOSTOYANNAYA;3KLYUCHEPOVODNAYA",
   "1CF99=0ZNAMENNY NEUME STRELA KLYUCHENEPOSTOYANNAYA;3TIKHAYA PUTNAYA;3DVOECHELNAYA",
   "1CF9C=0ZNAMENNY NEUME STRELA DVOECHELNOKRYZHEVAYA;3DVOECHELNOPOVODNAYA",
   "1CF9E=0ZNAMENNY NEUME STRELA DVOECHELNAYA KLYUCHEVAYA;3DVOECHELNOPOVODNAYA KLYUCHEVAYA",
   "1CFA0=0ZNAMENNY NEUME STRELA GROMNAYA WITH SINGLE ZAPYATAYA",
   "1CFA1=0ZNAMENNY NEUME STRELA GROMOPOVODNAYA WITH SINGLE ZAPYATAYA;3GROMNAYA;3GROMOPOVODNAYA",
   "1CFA4=0ZNAMENNY NEUME STRELA GROMOPOVODNAYA WITH DOUBLE ZAPYATAYA;3GROMOKRYZHEVAYA;4POVODNAYA",
   "1CFA7=0ZNAMENNY NEUME MECHIK;3POVODNY;3KLYUCHEVOY;3KLYUCHEPOVODNY;3KLYUCHENEPOSTOYANNY",
   "1CFAC=0ZNAMENNY NEUME STRELA TRYASOGLASNAYA;3TRYASOPOVODNAYA;3TRYASOSTRELNAYA;2OSOKA",
   "1CFB0=0ZNAMENNY NEUME OSOKA SVETLAYA;3TRESVETLAYA;3KRYUKOVAYA SVETLAYA;3KLYUCHEVAYA SVETLAYA",
   "1CFB4=0ZNAMENNY NEUME OSOKA KLYUCHEVAYA NEPOSTOYANNAYA;2STRELA KRYUKOVAYA;4POVODNAYA",
   "1CFB7=0ZNAMENNY NEUME STRELA KRYUKOVAYA GROMNAYA WITH SINGLE ZAPYATAYA",
   "1CFB8=0ZNAMENNY NEUME STRELA KRYUKOVAYA GROMOPOVODNAYA WITH SINGLE ZAPYATAYA;4GROMNAYA",
   "1CFBA=0ZNAMENNY NEUME STRELA KRYUKOVAYA GROMOPOVODNAYA;5WITH DOUBLE ZAPYATAYA",
   "1CFBC=0ZNAMENNY NEUME STRELA KRYUKOVAYA GROMOKRYZHEVAYA;5POVODNAYA;4TRYASKA;2KUFISMA;2OBLAKO",
   "1CFC1=0ZNAMENNY NEUME DUDA;2NEMKA;2PAUK"]

end Signpost.Text.CharacterName
