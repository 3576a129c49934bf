namespace Signpost.Text.CharacterName

-- Rows of names. A code with an equals sign goes before a name that does not follow its
-- predecessor; the digit says how many words are taken over from the name before.
def syllables : List String :=
  ["A000=0YI SYLLABLE IT;2IX;2I;2IP;2IET;2IEX;2IE;2IEP;2AT;2AX;2A;2AP;2UOX;2UO;2UOP;2OT;2OX;2O",
   "A012=0YI SYLLABLE OP;2EX;2E;2WU;2BIT;2BIX;2BI;2BIP;2BIET;2BIEX;2BIE;2BIEP;2BAT;2BAX;2BA;2BAP",
   "A022=0YI SYLLABLE BUOX;2BUO;2BUOP;2BOT;2BOX;2BO;2BOP;2BEX;2BE;2BEP;2BUT;2BUX;2BU;2BUP;2BURX",
   "A031=0YI SYLLABLE BUR;2BYT;2BYX;2BY;2BYP;2BYRX;2BYR;2PIT;2PIX;2PI;2PIP;2PIEX;2PIE;2PIEP;2PAT",
   "A040=0YI SYLLABLE PAX;2PA;2PAP;2PUOX;2PUO;2PUOP;2POT;2POX;2PO;2POP;2PUT;2PUX;2PU;2PUP;2PURX",
   "A04F=0YI SYLLABLE PUR;2PYT;2PYX;2PY;2PYP;2PYRX;2PYR;2BBIT;2BBIX;2BBI;2BBIP;2BBIET;2BBIEX",
   "A05C=0YI SYLLABLE BBIE;2BBIEP;2BBAT;2BBAX;2BBA;2BBAP;2BBUOX;2BBUO;2BBUOP;2BBOT;2BBOX;2BBO",
   "A068=0YI SYLLABLE BBOP;2BBEX;2BBE;2BBEP;2BBUT;2BBUX;2BBU;2BBUP;2BBURX;2BBUR;2BBYT;2BBYX;2BBY",
   "A075=0YI SYLLABLE BBYP;2NBIT;2NBIX;2NBI;2NBIP;2NBIEX;2NBIE;2NBIEP;2NBAT;2NBAX;2NBA;2NBAP",
   "A081=0YI SYLLABLE NBOT;2NBOX;2NBO;2NBOP;2NBUT;2NBUX;2NBU;2NBUP;2NBURX;2NBUR;2NBYT;2NBYX;2NBY",
   "A08E=0YI SYLLABLE NBYP;2NBYRX;2NBYR;2HMIT;2HMIX;2HMI;2HMIP;2HMIEX;2HMIE;2HMIEP;2HMAT;2HMAX",
   "A09A=0YI SYLLABLE HMA;2HMAP;2HMUOX;2HMUO;2HMUOP;2HMOT;2HMOX;2HMO;2HMOP;2HMUT;2HMUX;2HMU;2HMUP",
   "A0A7=0YI SYLLABLE HMURX;2HMUR;2HMYX;2HMY;2HMYP;2HMYRX;2HMYR;2MIT;2MIX;2MI;2MIP;2MIEX;2MIE",
   "A0B4=0YI SYLLABLE MIEP;2MAT;2MAX;2MA;2MAP;2MUOT;2MUOX;2MUO;2MUOP;2MOT;2MOX;2MO;2MOP;2MEX;2ME",
   "A0C3=0YI SYLLABLE MUT;2MUX;2MU;2MUP;2MURX;2MUR;2MYT;2MYX;2MY;2MYP;2FIT;2FIX;2FI;2FIP;2FAT",
   "A0D2=0YI SYLLABLE FAX;2FA;2FAP;2FOX;2FO;2FOP;2FUT;2FUX;2FU;2FUP;2FURX;2FUR;2FYT;2FYX;2FY;2FYP",
   "A0E2=0YI SYLLABLE VIT;2VIX;2VI;2VIP;2VIET;2VIEX;2VIE;2VIEP;2VAT;2VAX;2VA;2VAP;2VOT;2VOX;2VO",
   "A0F1=0YI SYLLABLE VOP;2VEX;2VEP;2VUT;2VUX;2VU;2VUP;2VURX;2VUR;2VYT;2VYX;2VY;2VYP;2VYRX;2VYR",
   "A100=0YI SYLLABLE DIT;2DIX;2DI;2DIP;2DIEX;2DIE;2DIEP;2DAT;2DAX;2DA;2DAP;2DUOX;2DUO;2DOT;2DOX",
   "A10F=0YI SYLLABLE DO;2DOP;2DEX;2DE;2DEP;2DUT;2DUX;2DU;2DUP;2DURX;2DUR;2TIT;2TIX;2TI;2TIP",
   "A11E=0YI SYLLABLE TIEX;2TIE;2TIEP;2TAT;2TAX;2TA;2TAP;2TUOT;2TUOX;2TUO;2TUOP;2TOT;2TOX;2TO",
   "A12C=0YI SYLLABLE TOP;2TEX;2TE;2TEP;2TUT;2TUX;2TU;2TUP;2TURX;2TUR;2DDIT;2DDIX;2DDI;2DDIP",
   "A13A=0YI SYLLABLE DDIEX;2DDIE;2DDIEP;2DDAT;2DDAX;2DDA;2DDAP;2DDUOX;2DDUO;2DDUOP;2DDOT;2DDOX",
   "A146=0YI SYLLABLE DDO;2DDOP;2DDEX;2DDE;2DDEP;2DDUT;2DDUX;2DDU;2DDUP;2DDURX;2DDUR;2NDIT;2NDIX",
   "A153=0YI SYLLABLE NDI;2NDIP;2NDIEX;2NDIE;2NDAT;2NDAX;2NDA;2NDAP;2NDOT;2NDOX;2NDO;2NDOP;2NDEX",
   "A160=0YI SYLLABLE NDE;2NDEP;2NDUT;2NDUX;2NDU;2NDUP;2NDURX;2NDUR;2HNIT;2HNIX;2HNI;2HNIP;2HNIET",
   "A16D=0YI SYLLABLE HNIEX;2HNIE;2HNIEP;2HNAT;2HNAX;2HNA;2HNAP;2HNUOX;2HNUO;2HNOT;2HNOX;2HNOP",
   "A179=0YI SYLLABLE HNEX;2HNE;2HNEP;2HNUT;2NIT;2NIX;2NI;2NIP;2NIEX;2NIE;2NIEP;2NAX;2NA;2NAP",
   "A187=0YI SYLLABLE NUOX;2NUO;2NUOP;2NOT;2NOX;2NO;2NOP;2NEX;2NE;2NEP;2NUT;2NUX;2NU;2NUP;2NURX",
   "A196=0YI SYLLABLE NUR;2HLIT;2HLIX;2HLI;2HLIP;2HLIEX;2HLIE;2HLIEP;2HLAT;2HLAX;2HLA;2HLAP",
   "A1A2=0YI SYLLABLE HLUOX;2HLUO;2HLUOP;2HLOX;2HLO;2HLOP;2HLEX;2HLE;2HLEP;2HLUT;2HLUX;2HLU;2HLUP",
   "A1AF=0YI SYLLABLE HLURX;2HLUR;2HLYT;2HLYX;2HLY;2HLYP;2HLYRX;2HLYR;2LIT;2LIX;2LI;2LIP;2LIET",
   "A1BC=0YI SYLLABLE LIEX;2LIE;2LIEP;2LAT;2LAX;2LA;2LAP;2LUOT;2LUOX;2LUO;2LUOP;2LOT;2LOX;2LO",
   "A1CA=0YI SYLLABLE LOP;2LEX;2LE;2LEP;2LUT;2LUX;2LU;2LUP;2LURX;2LUR;2LYT;2LYX;2LY;2LYP;2LYRX",
   "A1D9=0YI SYLLABLE LYR;2GIT;2GIX;2GI;2GIP;2GIET;2GIEX;2GIE;2GIEP;2GAT;2GAX;2GA;2GAP;2GUOT",
   "A1E7=0YI SYLLABLE GUOX;2GUO;2GUOP;2GOT;2GOX;2GO;2GOP;2GET;2GEX;2GE;2GEP;2GUT;2GUX;2GU;2GUP",
   "A1F6=0YI SYLLABLE GURX;2GUR;2KIT;2KIX;2KI;2KIP;2KIEX;2KIE;2KIEP;2KAT;2KAX;2KA;2KAP;2KUOX;2KUO",
   "A205=0YI SYLLABLE KUOP;2KOT;2KOX;2KO;2KOP;2KET;2KEX;2KE;2KEP;2KUT;2KUX;2KU;2KUP;2KURX;2KUR",
   "A214=0YI SYLLABLE GGIT;2GGIX;2GGI;2GGIEX;2GGIE;2GGIEP;2GGAT;2GGAX;2GGA;2GGAP;2GGUOT;2GGUOX",
   "A220=0YI SYLLABLE GGUO;2GGUOP;2GGOT;2GGOX;2GGO;2GGOP;2GGET;2GGEX;2GGE;2GGEP;2GGUT;2GGUX;2GGU",
   "A22D=0YI SYLLABLE GGUP;2GGURX;2GGUR;2MGIEX;2MGIE;2MGAT;2MGAX;2MGA;2MGAP;2MGUOX;2MGUO;2MGUOP",
   "A239=0YI SYLLABLE MGOT;2MGOX;2MGO;2MGOP;2MGEX;2MGE;2MGEP;2MGUT;2MGUX;2MGU;2MGUP;2MGURX;2MGUR",
   "A246=0YI SYLLABLE HXIT;2HXIX;2HXI;2HXIP;2HXIET;2HXIEX;2HXIE;2HXIEP;2HXAT;2HXAX;2HXA;2HXAP",
   "A252=0YI SYLLABLE HXUOT;2HXUOX;2HXUO;2HXUOP;2HXOT;2HXOX;2HXO;2HXOP;2HXEX;2HXE;2HXEP;2NGIEX",
   "A25E=0YI SYLLABLE NGIE;2NGIEP;2NGAT;2NGAX;2NGA;2NGAP;2NGUOT;2NGUOX;2NGUO;2NGOT;2NGOX;2NGO",
   "A26A=0YI SYLLABLE NGOP;2NGEX;2NGE;2NGEP;2HIT;2HIEX;2HIE;2HAT;2HAX;2HA;2HAP;2HUOT;2HUOX;2HUO",
   "A278=0YI SYLLABLE HUOP;2HOT;2HOX;2HO;2HOP;2HEX;2HE;2HEP;2WAT;2WAX;2WA;2WAP;2WUOX;2WUO;2WUOP",
   "A287=0YI SYLLABLE WOX;2WO;2WOP;2WEX;2WE;2WEP;2ZIT;2ZIX;2ZI;2ZIP;2ZIEX;2ZIE;2ZIEP;2ZAT;2ZAX",
   "A296=0YI SYLLABLE ZA;2ZAP;2ZUOX;2ZUO;2ZUOP;2ZOT;2ZOX;2ZO;2ZOP;2ZEX;2ZE;2ZEP;2ZUT;2ZUX;2ZU",
   "A2A5=0YI SYLLABLE ZUP;2ZURX;2ZUR;2ZYT;2ZYX;2ZY;2ZYP;2ZYRX;2ZYR;2CIT;2CIX;2CI;2CIP;2CIET;2CIEX",
   "A2B4=0YI SYLLABLE CIE;2CIEP;2CAT;2CAX;2CA;2CAP;2CUOX;2CUO;2CUOP;2COT;2COX;2CO;2COP;2CEX;2CE",
   "A2C3=0YI SYLLABLE CEP;2CUT;2CUX;2CU;2CUP;2CURX;2CUR;2CYT;2CYX;2CY;2CYP;2CYRX;2CYR;2ZZIT;2ZZIX",
   "A2D2=0YI SYLLABLE ZZI;2ZZIP;2ZZIET;2ZZIEX;2ZZIE;2ZZIEP;2ZZAT;2ZZAX;2ZZA;2ZZAP;2ZZOX;2ZZO",
   "A2DE=0YI SYLLABLE ZZOP;2ZZEX;2ZZE;2ZZEP;2ZZUX;2ZZU;2ZZUP;2ZZURX;2ZZUR;2ZZYT;2ZZYX;2ZZY;2ZZYP",
   "A2EB=0YI SYLLABLE ZZYRX;2ZZYR;2NZIT;2NZIX;2NZI;2NZIP;2NZIEX;2NZIE;2NZIEP;2NZAT;2NZAX;2NZA",
   "A2F7=0YI SYLLABLE NZAP;2NZUOX;2NZUO;2NZOX;2NZOP;2NZEX;2NZE;2NZUX;2NZU;2NZUP;2NZURX;2NZUR",
   "A303=0YI SYLLABLE NZYT;2NZYX;2NZY;2NZYP;2NZYRX;2NZYR;2SIT;2SIX;2SI;2SIP;2SIEX;2SIE;2SIEP;2SAT",
   "A311=0YI SYLLABLE SAX;2SA;2SAP;2SUOX;2SUO;2SUOP;2SOT;2SOX;2SO;2SOP;2SEX;2SE;2SEP;2SUT;2SUX",
   "A320=0YI SYLLABLE SU;2SUP;2SURX;2SUR;2SYT;2SYX;2SY;2SYP;2SYRX;2SYR;2SSIT;2SSIX;2SSI;2SSIP",
   "A32E=0YI SYLLABLE SSIEX;2SSIE;2SSIEP;2SSAT;2SSAX;2SSA;2SSAP;2SSOT;2SSOX;2SSO;2SSOP;2SSEX;2SSE",
   "A33B=0YI SYLLABLE SSEP;2SSUT;2SSUX;2SSU;2SSUP;2SSYT;2SSYX;2SSY;2SSYP;2SSYRX;2SSYR;2ZHAT;2ZHAX",
   "A348=0YI SYLLABLE ZHA;2ZHAP;2ZHUOX;2ZHUO;2ZHUOP;2ZHOT;2ZHOX;2ZHO;2ZHOP;2ZHET;2ZHEX;2ZHE;2ZHEP",
   "A355=0YI SYLLABLE ZHUT;2ZHUX;2ZHU;2ZHUP;2ZHURX;2ZHUR;2ZHYT;2ZHYX;2ZHY;2ZHYP;2ZHYRX;2ZHYR",
   "A361=0YI SYLLABLE CHAT;2CHAX;2CHA;2CHAP;2CHUOT;2CHUOX;2CHUO;2CHUOP;2CHOT;2CHOX;2CHO;2CHOP",
   "A36D=0YI SYLLABLE CHET;2CHEX;2CHE;2CHEP;2CHUX;2CHU;2CHUP;2CHURX;2CHUR;2CHYT;2CHYX;2CHY;2CHYP",
   "A37A=0YI SYLLABLE CHYRX;2CHYR;2RRAX;2RRA;2RRUOX;2RRUO;2RROT;2RROX;2RRO;2RROP;2RRET;2RREX;2RRE",
   "A387=0YI SYLLABLE RREP;2RRUT;2RRUX;2RRU;2RRUP;2RRURX;2RRUR;2RRYT;2RRYX;2RRY;2RRYP;2RRYRX",
   "A393=0YI SYLLABLE RRYR;2NRAT;2NRAX;2NRA;2NRAP;2NROX;2NRO;2NROP;2NRET;2NREX;2NRE;2NREP;2NRUT",
   "A3A0=0YI SYLLABLE NRUX;2NRU;2NRUP;2NRURX;2NRUR;2NRYT;2NRYX;2NRY;2NRYP;2NRYRX;2NRYR;2SHAT",
   "A3AC=0YI SYLLABLE SHAX;2SHA;2SHAP;2SHUOX;2SHUO;2SHUOP;2SHOT;2SHOX;2SHO;2SHOP;2SHET;2SHEX;2SHE",
   "A3B9=0YI SYLLABLE SHEP;2SHUT;2SHUX;2SHU;2SHUP;2SHURX;2SHUR;2SHYT;2SHYX;2SHY;2SHYP;2SHYRX",
   "A3C5=0YI SYLLABLE SHYR;2RAT;2RAX;2RA;2RAP;2RUOX;2RUO;2RUOP;2ROT;2ROX;2RO;2ROP;2REX;2RE;2REP",
   "A3D4=0YI SYLLABLE RUT;2RUX;2RU;2RUP;2RURX;2RUR;2RYT;2RYX;2RY;2RYP;2RYRX;2RYR;2JIT;2JIX;2JI",
   "A3E3=0YI SYLLABLE JIP;2JIET;2JIEX;2JIE;2JIEP;2JUOT;2JUOX;2JUO;2JUOP;2JOT;2JOX;2JO;2JOP;2JUT",
   "A3F1=0YI SYLLABLE JUX;2JU;2JUP;2JURX;2JUR;2JYT;2JYX;2JY;2JYP;2JYRX;2JYR;2QIT;2QIX;2QI;2QIP",
   "A400=0YI SYLLABLE QIET;2QIEX;2QIE;2QIEP;2QUOT;2QUOX;2QUO;2QUOP;2QOT;2QOX;2QO;2QOP;2QUT;2QUX",
   "A40E=0YI SYLLABLE QU;2QUP;2QURX;2QUR;2QYT;2QYX;2QY;2QYP;2QYRX;2QYR;2JJIT;2JJIX;2JJI;2JJIP",
   "A41C=0YI SYLLABLE JJIET;2JJIEX;2JJIE;2JJIEP;2JJUOX;2JJUO;2JJUOP;2JJOT;2JJOX;2JJO;2JJOP;2JJUT",
   "A428=0YI SYLLABLE JJUX;2JJU;2JJUP;2JJURX;2JJUR;2JJYT;2JJYX;2JJY;2JJYP;2NJIT;2NJIX;2NJI;2NJIP",
   "A435=0YI SYLLABLE NJIET;2NJIEX;2NJIE;2NJIEP;2NJUOX;2NJUO;2NJOT;2NJOX;2NJO;2NJOP;2NJUX;2NJU",
   "A441=0YI SYLLABLE NJUP;2NJURX;2NJUR;2NJYT;2NJYX;2NJY;2NJYP;2NJYRX;2NJYR;2NYIT;2NYIX;2NYI",
   "A44D=0YI SYLLABLE NYIP;2NYIET;2NYIEX;2NYIE;2NYIEP;2NYUOX;2NYUO;2NYUOP;2NYOT;2NYOX;2NYO;2NYOP",
   "A459=0YI SYLLABLE NYUT;2NYUX;2NYU;2NYUP;2XIT;2XIX;2XI;2XIP;2XIET;2XIEX;2XIE;2XIEP;2XUOX;2XUO",
   "A467=0YI SYLLABLE XOT;2XOX;2XO;2XOP;2XYT;2XYX;2XY;2XYP;2XYRX;2XYR;2YIT;2YIX;2YI;2YIP;2YIET",
   "A476=0YI SYLLABLE YIEX;2YIE;2YIEP;2YUOT;2YUOX;2YUO;2YUOP;2YOT;2YOX;2YO;2YOP;2YUT;2YUX;2YU",
   "A484=0YI SYLLABLE YUP;2YURX;2YUR;2YYT;2YYX;2YY;2YYP;2YYRX;2YYR;A490=1RADICAL QOT;2LI;2KIT",
   "A493=0YI RADICAL NYIP;2CYP;2SSI;2GGOP;2GEP;2MI;2HXIT;2LYR;2BBUT;2MOP;2YO;2PUT;2HXUO;2TAT;2GA",
   "A4A2=0YI RADICAL ZUP;2CYT;2DDUR;2BUR;2GGUO;2NYOP;2TU;2OP;2JJUT;2ZOT;2PYT;2HMO;2YIT;2VUR;2SHY",
   "A4B1=0YI RADICAL VEP;2ZA;2JO;2NZUP;2JJY;2GOT;2JJIE;2WO;2DU;2SHUR;2LIE;2CY;2CUOP;2CIP;2HXOP",
   "A4C0=0YI RADICAL SHAT;2ZUR;2SHOP;2CHE;2ZZIET;2NBIE;2KE;A4D0=0LISU LETTER BA;2PA;2PHA;2DA;2TA",
   "A4D5=0LISU LETTER THA;2GA;2KA;2KHA;2JA;2CA;2CHA;2DZA;2TSA;2TSHA;2MA;2NA;2LA;2SA;2ZHA;2ZA;2NGA",
   "A4E6=0LISU LETTER HA;2XA;2HHA;2FA;2WA;2SHA;2YA;2GHA;2A;2AE;2E;2EU;2I;2O;2U;2UE;2UH;2OE",
   "A4F8=0LISU LETTER TONE MYA TI;3NA PO;3MYA CYA;4BO;4NA;4JEU;1PUNCTUATION COMMA;2FULL STOP",
   "A500=0VAI SYLLABLE EE;2EEN;2HEE;2WEE;2WEEN;2PEE;2BHEE;2BEE;2MBEE;2KPEE;2MGBEE;2GBEE;2FEE;2VEE",
   "A50E=0VAI SYLLABLE TEE;2THEE;2DHEE;2DHHEE;2LEE;2REE;2DEE;2NDEE;2SEE;2SHEE;2ZEE;2ZHEE;2CEE",
   "A51B=0VAI SYLLABLE JEE;2NJEE;2YEE;2KEE;2NGGEE;2GEE;2MEE;2NEE;2NYEE;2I;2IN;2HI;2HIN;2WI;2WIN",
   "A52A=0VAI SYLLABLE PI;2BHI;2BI;2MBI;2KPI;2MGBI;2GBI;2FI;2VI;2TI;2THI;2DHI;2DHHI;2LI;2RI;2DI",
   "A53A=0VAI SYLLABLE NDI;2SI;2SHI;2ZI;2ZHI;2CI;2JI;2NJI;2YI;2KI;2NGGI;2GI;2MI;2NI;2NYI;2A;2AN",
   "A54B=0VAI SYLLABLE NGAN;2HA;2HAN;2WA;2WAN;2PA;2BHA;2BA;2MBA;2KPA;2KPAN;2MGBA;2GBA;2FA;2VA;2TA",
   "A55B=0VAI SYLLABLE THA;2DHA;2DHHA;2LA;2RA;2DA;2NDA;2SA;2SHA;2ZA;2ZHA;2CA;2JA;2NJA;2YA;2KA",
   "A56B=0VAI SYLLABLE KAN;2NGGA;2GA;2MA;2NA;2NYA;2OO;2OON;2HOO;2WOO;2WOON;2POO;2BHOO;2BOO;2MBOO",
   "A57A=0VAI SYLLABLE KPOO;2MGBOO;2GBOO;2FOO;2VOO;2TOO;2THOO;2DHOO;2DHHOO;2LOO;2ROO;2DOO;2NDOO",
   "A587=0VAI SYLLABLE SOO;2SHOO;2ZOO;2ZHOO;2COO;2JOO;2NJOO;2YOO;2KOO;2NGGOO;2GOO;2MOO;2NOO;2NYOO",
   "A595=0VAI SYLLABLE U;2UN;2HU;2HUN;2WU;2WUN;2PU;2BHU;2BU;2MBU;2KPU;2MGBU;2GBU;2FU;2VU;2TU;2THU",
   "A5A6=0VAI SYLLABLE DHU;2DHHU;2LU;2RU;2DU;2NDU;2SU;2SHU;2ZU;2ZHU;2CU;2JU;2NJU;2YU;2KU;2NGGU",
   "A5B6=0VAI SYLLABLE GU;2MU;2NU;2NYU;2O;2ON;2NGON;2HO;2HON;2WO;2WON;2PO;2BHO;2BO;2MBO;2KPO",
   "A5C6=0VAI SYLLABLE MGBO;2GBO;2GBON;2FO;2VO;2TO;2THO;2DHO;2DHHO;2LO;2RO;2DO;2NDO;2SO;2SHO;2ZO",
   "A5D6=0VAI SYLLABLE ZHO;2CO;2JO;2NJO;2YO;2KO;2NGGO;2GO;2MO;2NO;2NYO;2E;2EN;2NGEN;2HE;2HEN;2WE",
   "A5E7=0VAI SYLLABLE WEN;2PE;2BHE;2BE;2MBE;2KPE;2KPEN;2MGBE;2GBE;2GBEN;2FE;2VE;2TE;2THE;2DHE",
   "A5F6=0VAI SYLLABLE DHHE;2LE;2RE;2DE;2NDE;2SE;2SHE;2ZE;2ZHE;2CE;2JE;2NJE;2YE;2KE;2NGGE;2NGGEN",
   "A606=0VAI SYLLABLE GE;2GEN;2ME;2NE;2NYE;2NG;2LENGTHENER;1COMMA;1FULL STOP;1QUESTION MARK",
   "A610=0VAI SYLLABLE NDOLE FA;3KA;3SOO;1SYMBOL FEENG;2KEENG;2TING;2NII;2BANG;2FAA;2TAA;2DANG",
   "A61B=0VAI SYMBOL DOONG;2KUNG;2TONG;2DO-O;2JONG;1DIGIT ZERO;2ONE;2TWO;2THREE;2FOUR;2FIVE;2SIX",
   "A627=0VAI DIGIT SEVEN;2EIGHT;2NINE;1SYLLABLE NDOLE MA;3DO",
   "A640=0CYRILLIC CAPITAL LETTER ZEMLYA;1SMALL LETTER ZEMLYA;1CAPITAL LETTER DZELO",
   "A643=0CYRILLIC SMALL LETTER DZELO;1CAPITAL LETTER REVERSED DZE;1SMALL LETTER REVERSED DZE",
   "A646=0CYRILLIC CAPITAL LETTER IOTA;1SMALL LETTER IOTA;1CAPITAL LETTER DJERV",
   "A649=0CYRILLIC SMALL LETTER DJERV;1CAPITAL LETTER MONOGRAPH UK;1SMALL LETTER MONOGRAPH UK",
   "A64C=0CYRILLIC CAPITAL LETTER BROAD OMEGA;1SMALL LETTER BROAD OMEGA",
   "A64E=0CYRILLIC CAPITAL LETTER NEUTRAL YER;1SMALL LETTER NEUTRAL YER",
   "A650=0CYRILLIC CAPITAL LETTER YERU WITH BACK YER;1SMALL LETTER YERU WITH BACK YER",
   "A652=0CYRILLIC CAPITAL LETTER IOTIFIED YAT;1SMALL LETTER IOTIFIED YAT",
   "A654=0CYRILLIC CAPITAL LETTER REVERSED YU;1SMALL LETTER REVERSED YU",
   "A656=0CYRILLIC CAPITAL LETTER IOTIFIED A;1SMALL LETTER IOTIFIED A",
   "A658=0CYRILLIC CAPITAL LETTER CLOSED LITTLE YUS;1SMALL LETTER CLOSED LITTLE YUS",
   "A65A=0CYRILLIC CAPITAL LETTER BLENDED YUS;1SMALL LETTER BLENDED YUS",
   "A65C=0CYRILLIC CAPITAL LETTER IOTIFIED CLOSED LITTLE YUS",
   "A65D=0CYRILLIC SMALL LETTER IOTIFIED CLOSED LITTLE YUS;1CAPITAL LETTER YN;1SMALL LETTER YN",
   "A660=0CYRILLIC CAPITAL LETTER REVERSED TSE;1SMALL LETTER REVERSED TSE;1CAPITAL LETTER SOFT DE",
   "A663=0CYRILLIC SMALL LETTER SOFT DE;1CAPITAL LETTER SOFT EL;1SMALL LETTER SOFT EL",
   "A666=0CYRILLIC CAPITAL LETTER SOFT EM;1SMALL LETTER SOFT EM;1CAPITAL LETTER MONOCULAR O",
   "A669=0CYRILLIC SMALL LETTER MONOCULAR O;1CAPITAL LETTER BINOCULAR O;1SMALL LETTER BINOCULAR O",
   "A66C=0CYRILLIC CAPITAL LETTER DOUBLE MONOCULAR O;1SMALL LETTER DOUBLE MONOCULAR O",
   "A66E=0CYRILLIC LETTER MULTIOCULAR O;0COMBINING CYRILLIC VZMET;2TEN MILLIONS SIGN",
   "A671=0COMBINING CYRILLIC HUNDRED MILLIONS SIGN;2THOUSAND MILLIONS SIGN;0SLAVONIC ASTERISK",
   "A674=0COMBINING CYRILLIC LETTER UKRAINIAN IE;3I;3YI;3U;3HARD SIGN;3YERU;3SOFT SIGN;3OMEGA",
   "A67C=0COMBINING CYRILLIC KAVYKA;2PAYEROK;0CYRILLIC KAVYKA;1PAYEROK;1CAPITAL LETTER DWE",
   "A681=0CYRILLIC SMALL LETTER DWE;1CAPITAL LETTER DZWE;1SMALL LETTER DZWE;1CAPITAL LETTER ZHWE",
   "A685=0CYRILLIC SMALL LETTER ZHWE;1CAPITAL LETTER CCHE;1SMALL LETTER CCHE;1CAPITAL LETTER DZZE",
   "A689=0CYRILLIC SMALL LETTER DZZE;1CAPITAL LETTER TE WITH MIDDLE HOOK",
   "A68B=0CYRILLIC SMALL LETTER TE WITH MIDDLE HOOK;1CAPITAL LETTER TWE;1SMALL LETTER TWE",
   "A68E=0CYRILLIC CAPITAL LETTER TSWE;1SMALL LETTER TSWE;1CAPITAL LETTER TSSE;1SMALL LETTER TSSE",
   "A692=0CYRILLIC CAPITAL LETTER TCHE;1SMALL LETTER TCHE;1CAPITAL LETTER HWE;1SMALL LETTER HWE",
   "A696=0CYRILLIC CAPITAL LETTER SHWE;1SMALL LETTER SHWE;1CAPITAL LETTER DOUBLE O",
   "A699=0CYRILLIC SMALL LETTER DOUBLE O;1CAPITAL LETTER CROSSED O;1SMALL LETTER CROSSED O",
   "A69C=0MODIFIER LETTER CYRILLIC HARD SIGN;3SOFT SIGN;0COMBINING CYRILLIC LETTER EF;3IOTIFIED E",
   "A6A0=0BAMUM LETTER A;2KA;2U;2KU;2EE;2REE;2TAE;2O;2NYI;2I;2LA;2PA;2RII;2RIEE;2LEEEE;2MEEEE",
   "A6B0=0BAMUM LETTER TAA;2NDAA;2NJAEM;2M;2SUU;2MU;2SHII;2SI;2SHEUX;2SEUX;2KYEE;2KET;2NUAE;2NU",
   "A6BE=0BAMUM LETTER NJUAE;2YOQ;2SHU;2YUQ;2YA;2NSHA;2KEUX;2PEUX;2NJEE;2NTEE;2PUE;2WUE;2PEE;2FEE",
   "A6CC=0BAMUM LETTER RU;2LU;2MI;2NI;2REUX;2RAE;2KEN;2NGKWAEN;2NGGA;2NGA;2SHO;2PUAE;2FU;2FOM;2WA",
   "A6DB=0BAMUM LETTER NA;2LI;2PI;2LOQ;2KO;2MBEN;2REN;2MEN;2MA;2TI;2KI;2MO;2MBAA;2TET;2KPA;2TEN",
   "A6EB=0BAMUM LETTER NTUU;2SAMBA;2FAAMAE;2KOVUU;2KOGHOM;1COMBINING MARK KOQNDON;3TUKWENTIS",
   "A6F2=0BAMUM NJAEMLI;1FULL STOP;1COLON;1COMMA;1SEMICOLON;1QUESTION MARK",
   "A700=0MODIFIER LETTER CHINESE TONE YIN PING;4YANG PING;4YIN SHANG;4YANG SHANG;4YIN QU",
   "A705=0MODIFIER LETTER CHINESE TONE YANG QU;4YIN RU;4YANG RU;2EXTRA-HIGH DOTTED TONE BAR",
   "A709=0MODIFIER LETTER HIGH DOTTED TONE BAR;2MID DOTTED TONE BAR;2LOW DOTTED TONE BAR",
   "A70C=0MODIFIER LETTER EXTRA-LOW DOTTED TONE BAR;2EXTRA-HIGH DOTTED LEFT-STEM TONE BAR",
   "A70E=0MODIFIER LETTER HIGH DOTTED LEFT-STEM TONE BAR;2MID DOTTED LEFT-STEM TONE BAR",
   "A710=0MODIFIER LETTER LOW DOTTED LEFT-STEM TONE BAR;2EXTRA-LOW DOTTED LEFT-STEM TONE BAR",
   "A712=0MODIFIER LETTER EXTRA-HIGH LEFT-STEM TONE BAR;2HIGH LEFT-STEM TONE BAR",
   "A714=0MODIFIER LETTER MID LEFT-STEM TONE BAR;2LOW LEFT-STEM TONE BAR",
   "A716=0MODIFIER LETTER EXTRA-LOW LEFT-STEM TONE BAR;2DOT VERTICAL BAR;3SLASH;3HORIZONTAL BAR",
   "A71A=0MODIFIER LETTER LOWER RIGHT CORNER ANGLE;2RAISED UP ARROW;3DOWN ARROW;3EXCLAMATION MARK",
   "A71E=0MODIFIER LETTER RAISED INVERTED EXCLAMATION MARK;2LOW INVERTED EXCLAMATION MARK",
   "A720=0MODIFIER LETTER STRESS AND HIGH TONE;4LOW TONE;0LATIN CAPITAL LETTER EGYPTOLOGICAL ALEF",
   "A723=0LATIN SMALL LETTER EGYPTOLOGICAL ALEF;1CAPITAL LETTER EGYPTOLOGICAL AIN",
   "A725=0LATIN SMALL LETTER EGYPTOLOGICAL AIN;1CAPITAL LETTER HENG;1SMALL LETTER HENG",
   "A728=0LATIN CAPITAL LETTER TZ;1SMALL LETTER TZ;1CAPITAL LETTER TRESILLO",
   "A72B=0LATIN SMALL LETTER TRESILLO;1CAPITAL LETTER CUATRILLO;1SMALL LETTER CUATRILLO",
   "A72E=0LATIN CAPITAL LETTER CUATRILLO WITH COMMA;1SMALL LETTER CUATRILLO WITH COMMA",
   "A730=0LATIN LETTER SMALL CAPITAL F;4S;1CAPITAL LETTER AA;1SMALL LETTER AA;1CAPITAL LETTER AO",
   "A735=0LATIN SMALL LETTER AO;1CAPITAL LETTER AU;1SMALL LETTER AU;1CAPITAL LETTER AV",
   "A739=0LATIN SMALL LETTER AV;1CAPITAL LETTER AV WITH HORIZONTAL BAR",
   "A73B=0LATIN SMALL LETTER AV WITH HORIZONTAL BAR;1CAPITAL LETTER AY;1SMALL LETTER AY",
   "A73E=0LATIN CAPITAL LETTER REVERSED C WITH DOT;1SMALL LETTER REVERSED C WITH DOT",
   "A740=0LATIN CAPITAL LETTER K WITH STROKE;1SMALL LETTER K WITH STROKE",
   "A742=0LATIN CAPITAL LETTER K WITH DIAGONAL STROKE;1SMALL LETTER K WITH DIAGONAL STROKE",
   "A744=0LATIN CAPITAL LETTER K WITH STROKE AND DIAGONAL STROKE",
   "A745=0LATIN SMALL LETTER K WITH STROKE AND DIAGONAL STROKE;1CAPITAL LETTER BROKEN L",
   "A747=0LATIN SMALL LETTER BROKEN L;1CAPITAL LETTER L WITH HIGH STROKE",
   "A749=0LATIN SMALL LETTER L WITH HIGH STROKE;1CAPITAL LETTER O WITH LONG STROKE OVERLAY",
   "A74B=0LATIN SMALL LETTER O WITH LONG STROKE OVERLAY;1CAPITAL LETTER O WITH LOOP",
   "A74D=0LATIN SMALL LETTER O WITH LOOP;1CAPITAL LETTER OO;1SMALL LETTER OO",
   "A750=0LATIN CAPITAL LETTER P WITH STROKE THROUGH DESCENDER",
   "A751=0LATIN SMALL LETTER P WITH STROKE THROUGH DESCENDER;1CAPITAL LETTER P WITH FLOURISH",
   "A753=0LATIN SMALL LETTER P WITH FLOURISH;1CAPITAL LETTER P WITH SQUIRREL TAIL",
   "A755=0LATIN SMALL LETTER P WITH SQUIRREL TAIL;1CAPITAL LETTER Q WITH STROKE THROUGH DESCENDER",
   "A757=0LATIN SMALL LETTER Q WITH STROKE THROUGH DESCENDER",
   "A758=0LATIN CAPITAL LETTER Q WITH DIAGONAL STROKE;1SMALL LETTER Q WITH DIAGONAL STROKE",
   "A75A=0LATIN CAPITAL LETTER R ROTUNDA;1SMALL LETTER R ROTUNDA;1CAPITAL LETTER RUM ROTUNDA",
   "A75D=0LATIN SMALL LETTER RUM ROTUNDA;1CAPITAL LETTER V WITH DIAGONAL STROKE",
   "A75F=0LATIN SMALL LETTER V WITH DIAGONAL STROKE;1CAPITAL LETTER VY;1SMALL LETTER VY",
   "A762=0LATIN CAPITAL LETTER VISIGOTHIC Z;1SMALL LETTER VISIGOTHIC Z",
   "A764=0LATIN CAPITAL LETTER THORN WITH STROKE;1SMALL LETTER THORN WITH STROKE",
   "A766=0LATIN CAPITAL LETTER THORN WITH STROKE THROUGH DESCENDER",
   "A767=0LATIN SMALL LETTER THORN WITH STROKE THROUGH DESCENDER;1CAPITAL LETTER VEND",
   "A769=0LATIN SMALL LETTER VEND;1CAPITAL LETTER ET;1SMALL LETTER ET;1CAPITAL LETTER IS",
   "A76D=0LATIN SMALL LETTER IS;1CAPITAL LETTER CON;1SMALL LETTER CON;0MODIFIER LETTER US",
   "A771=0LATIN SMALL LETTER DUM;3LUM;3MUM;3NUM;3RUM;1LETTER SMALL CAPITAL RUM;1SMALL LETTER TUM",
   "A778=0LATIN SMALL LETTER UM;1CAPITAL LETTER INSULAR D;1SMALL LETTER INSULAR D",
   "A77B=0LATIN CAPITAL LETTER INSULAR F;1SMALL LETTER INSULAR F;1CAPITAL LETTER INSULAR G",
   "A77E=0LATIN CAPITAL LETTER TURNED INSULAR G;1SMALL LETTER TURNED INSULAR G",
   "A780=0LATIN CAPITAL LETTER TURNED L;1SMALL LETTER TURNED L;1CAPITAL LETTER INSULAR R",
   "A783=0LATIN SMALL LETTER INSULAR R;1CAPITAL LETTER INSULAR S;1SMALL LETTER INSULAR S",
   "A786=0LATIN CAPITAL LETTER INSULAR T;1SMALL LETTER INSULAR T",
   "A788=0MODIFIER LETTER LOW CIRCUMFLEX ACCENT;2COLON;2SHORT EQUALS SIGN",
   "A78B=0LATIN CAPITAL LETTER SALTILLO;1SMALL LETTER SALTILLO;1CAPITAL LETTER TURNED H",
   "A78E=0LATIN SMALL LETTER L WITH RETROFLEX HOOK AND BELT;1LETTER SINOLOGICAL DOT",
   "A790=0LATIN CAPITAL LETTER N WITH DESCENDER;1SMALL LETTER N WITH DESCENDER",
   "A792=0LATIN CAPITAL LETTER C WITH BAR;1SMALL LETTER C WITH BAR;5PALATAL HOOK",
   "A795=0LATIN SMALL LETTER H WITH PALATAL HOOK;1CAPITAL LETTER B WITH FLOURISH",
   "A797=0LATIN SMALL LETTER B WITH FLOURISH;1CAPITAL LETTER F WITH STROKE",
   "A799=0LATIN SMALL LETTER F WITH STROKE;1CAPITAL LETTER VOLAPUK AE;1SMALL LETTER VOLAPUK AE",
   "A79C=0LATIN CAPITAL LETTER VOLAPUK OE;1SMALL LETTER VOLAPUK OE;1CAPITAL LETTER VOLAPUK UE",
   "A79F=0LATIN SMALL LETTER VOLAPUK UE;1CAPITAL LETTER G WITH OBLIQUE STROKE",
   "A7A1=0LATIN SMALL LETTER G WITH OBLIQUE STROKE;1CAPITAL LETTER K WITH OBLIQUE STROKE",
   "A7A3=0LATIN SMALL LETTER K WITH OBLIQUE STROKE;1CAPITAL LETTER N WITH OBLIQUE STROKE",
   "A7A5=0LATIN SMALL LETTER N WITH OBLIQUE STROKE;1CAPITAL LETTER R WITH OBLIQUE STROKE",
   "A7A7=0LATIN SMALL LETTER R WITH OBLIQUE STROKE;1CAPITAL LETTER S WITH OBLIQUE STROKE",
   "A7A9=0LATIN SMALL LETTER S WITH OBLIQUE STROKE;1CAPITAL LETTER H WITH HOOK;3REVERSED OPEN E",
   "A7AC=0LATIN CAPITAL LETTER SCRIPT G;3L WITH BELT;3SMALL CAPITAL I;1LETTER SMALL CAPITAL Q",
   "A7B0=0LATIN CAPITAL LETTER TURNED K;4T;3J WITH CROSSED-TAIL;3CHI;3BETA;1SMALL LETTER BETA",
   "A7B6=0LATIN CAPITAL LETTER OMEGA;1SMALL LETTER OMEGA;1CAPITAL LETTER U WITH STROKE",
   "A7B9=0LATIN SMALL LETTER U WITH STROKE;1CAPITAL LETTER GLOTTAL A;1SMALL LETTER GLOTTAL A",
   "A7BC=0LATIN CAPITAL LETTER GLOTTAL I;1SMALL LETTER GLOTTAL I;1CAPITAL LETTER GLOTTAL U",
   "A7BF=0LATIN SMALL LETTER GLOTTAL U;1CAPITAL LETTER OLD POLISH O;1SMALL LETTER OLD POLISH O",
   "A7C2=0LATIN CAPITAL LETTER ANGLICANA W;1SMALL LETTER ANGLICANA W",
   "A7C4=0LATIN CAPITAL LETTER C WITH PALATAL HOOK;3S WITH HOOK;3Z WITH PALATAL HOOK",
   "A7C7=0LATIN CAPITAL LETTER D WITH SHORT STROKE OVERLAY",
   "A7C8=0LATIN SMALL LETTER D WITH SHORT STROKE OVERLAY",
   "A7C9=0LATIN CAPITAL LETTER S WITH SHORT STROKE OVERLAY",
   "A7CA=0LATIN SMALL LETTER S WITH SHORT STROKE OVERLAY;A7D0=1CAPITAL LETTER CLOSED INSULAR G",
   "A7D1=0LATIN SMALL LETTER CLOSED INSULAR G;A7D3=3DOUBLE THORN;A7D5=4WYNN",
   "A7D6=0LATIN CAPITAL LETTER MIDDLE SCOTS S;1SMALL LETTER MIDDLE SCOTS S",
   "A7D8=0LATIN CAPITAL LETTER SIGMOID S;1SMALL LETTER SIGMOID S;A7F2=0MODIFIER LETTER CAPITAL C",
   "A7F3=0MODIFIER LETTER CAPITAL F;3Q;0LATIN CAPITAL LETTER REVERSED HALF H",
   "A7F6=0LATIN SMALL LETTER REVERSED HALF H;1EPIGRAPHIC LETTER SIDEWAYS I",
   "A7F8=0MODIFIER LETTER CAPITAL H WITH STROKE;2SMALL LIGATURE OE",
   "A7FA=0LATIN LETTER SMALL CAPITAL TURNED M;1EPIGRAPHIC LETTER REVERSED F;4P;3INVERTED M",
   "A7FE=0LATIN EPIGRAPHIC LETTER I LONGA;3ARCHAIC M;0SYLOTI NAGRI LETTER A;3I;2SIGN DVISVARA",
   "A803=0SYLOTI NAGRI LETTER U;3E;3O;2SIGN HASANTA;2LETTER KO;3KHO;3GO;3GHO;2SIGN ANUSVARA",
   "A80C=0SYLOTI NAGRI LETTER CO;3CHO;3JO;3JHO;3TTO;3TTHO;3DDO;3DDHO;3TO;3THO;3DO;3DHO;3NO;3PO",
   "A81A=0SYLOTI NAGRI LETTER PHO;3BO;3BHO;3MO;3RO;3LO;3RRO;3SO;3HO;2VOWEL SIGN A;4I;4U;4E;4OO",
   "A828=0SYLOTI NAGRI POETRY MARK-1;3MARK-2;3MARK-3;3MARK-4;2SIGN ALTERNATE HASANTA",
   "A830=0NORTH INDIC FRACTION ONE QUARTER;4HALF;3THREE QUARTERS;3ONE SIXTEENTH;4EIGHTH",
   "A835=0NORTH INDIC FRACTION THREE SIXTEENTHS;2QUARTER MARK;2PLACEHOLDER MARK;2RUPEE MARK",
   "A839=0NORTH INDIC QUANTITY MARK;A840=0PHAGS-PA LETTER KA;2KHA;2GA;2NGA;2CA;2CHA;2JA;2NYA;2TA",
   "A849=0PHAGS-PA LETTER THA;2DA;2NA;2PA;2PHA;2BA;2MA;2TSA;2TSHA;2DZA;2WA;2ZHA;2ZA;2SMALL A;2YA",
   "A858=0PHAGS-PA LETTER RA;2LA;2SHA;2SA;2HA;2A;2I;2U;2E;2O;2QA;2XA;2FA;2GGA;2EE",
   "A867=0PHAGS-PA SUBJOINED LETTER WA;3YA;1LETTER TTA;2TTHA;2DDA;2NNA;2ALTERNATE YA",
   "A86E=0PHAGS-PA LETTER VOICELESS SHA;2VOICED HA;2ASPIRATED FA;1SUBJOINED LETTER RA",
   "A872=0PHAGS-PA SUPERFIXED LETTER RA;1LETTER CANDRABINDU;1SINGLE HEAD MARK;1DOUBLE HEAD MARK",
   "A876=0PHAGS-PA MARK SHAD;2DOUBLE SHAD;A880=0SAURASHTRA SIGN ANUSVARA;2VISARGA;1LETTER A;2AA",
   "A884=0SAURASHTRA LETTER I;2II;2U;2UU;2VOCALIC R;3RR;3L;3LL;2E;2EE;2AI;2O;2OO;2AU;2KA;2KHA;2GA",
   "A895=0SAURASHTRA LETTER GHA;2NGA;2CA;2CHA;2JA;2JHA;2NYA;2TTA;2TTHA;2DDA;2DDHA;2NNA;2TA;2THA",
   "A8A3=0SAURASHTRA LETTER DA;2DHA;2NA;2PA;2PHA;2BA;2BHA;2MA;2YA;2RA;2LA;2VA;2SHA;2SSA;2SA;2HA",
   "A8B3=0SAURASHTRA LETTER LLA;1CONSONANT SIGN HAARU;1VOWEL SIGN AA;3I;3II;3U;3UU;3VOCALIC R;4RR",
   "A8BC=0SAURASHTRA VOWEL SIGN VOCALIC L;4LL;3E;3EE;3AI;3O;3OO;3AU;1SIGN VIRAMA;2CANDRABINDU",
   "A8CE=0SAURASHTRA DANDA;1DOUBLE DANDA;1DIGIT ZERO;2ONE;2TWO;2THREE;2FOUR;2FIVE;2SIX;2SEVEN",
   "A8D8=0SAURASHTRA DIGIT EIGHT;2NINE;A8E0=0COMBINING DEVANAGARI DIGIT ZERO;3ONE;3TWO;3THREE",
   "A8E4=0COMBINING DEVANAGARI DIGIT FOUR;3FIVE;3SIX;3SEVEN;3EIGHT;3NINE;2LETTER A;3U;3KA;3NA;3PA",
   "A8EF=0COMBINING DEVANAGARI LETTER RA;3VI;2SIGN AVAGRAHA;0DEVANAGARI SIGN SPACING CANDRABINDU",
   "A8F3=0DEVANAGARI SIGN CANDRABINDU VIRAMA;2DOUBLE CANDRABINDU VIRAMA;2CANDRABINDU TWO;3THREE",
   "A8F7=0DEVANAGARI SIGN CANDRABINDU AVAGRAHA;2PUSHPIKA;1GAP FILLER;1CARET;1HEADSTROKE",
   "A8FC=0DEVANAGARI SIGN SIDDHAM;1JAIN OM;1LETTER AY;1VOWEL SIGN AY;0KAYAH LI DIGIT ZERO;3ONE",
   "A902=0KAYAH LI DIGIT TWO;3THREE;3FOUR;3FIVE;3SIX;3SEVEN;3EIGHT;3NINE;2LETTER KA;3KHA;3GA;3NGA",
   "A90E=0KAYAH LI LETTER SA;3SHA;3ZA;3NYA;3TA;3HTA;3NA;3PA;3PHA;3MA;3DA;3BA;3RA;3YA;3LA;3WA;3THA",
   "A91F=0KAYAH LI LETTER HA;3VA;3CA;3A;3OE;3I;3OO;2VOWEL UE;3E;3U;3EE;3O;2TONE PLOPHU;3CALYA",
   "A92D=0KAYAH LI TONE CALYA PLOPHU;2SIGN CWI;3SHYA;0REJANG LETTER KA;2GA;2NGA;2TA;2DA;2NA;2PA",
   "A937=0REJANG LETTER BA;2MA;2CA;2JA;2NYA;2SA;2RA;2LA;2YA;2WA;2HA;2MBA;2NGGA;2NDA;2NYJA;2A",
   "A947=0REJANG VOWEL SIGN I;3U;3E;3AI;3O;3AU;3EU;3EA;1CONSONANT SIGN NG;3N;3R;3H;1VIRAMA",
   "A95F=0REJANG SECTION MARK;0HANGUL CHOSEONG TIKEUT-MIEUM;2TIKEUT-PIEUP;2TIKEUT-SIOS",
   "A963=0HANGUL CHOSEONG TIKEUT-CIEUC;2RIEUL-KIYEOK;2RIEUL-SSANGKIYEOK;2RIEUL-TIKEUT",
   "A967=0HANGUL CHOSEONG RIEUL-SSANGTIKEUT;2RIEUL-MIEUM;2RIEUL-PIEUP;2RIEUL-SSANGPIEUP",
   "A96B=0HANGUL CHOSEONG RIEUL-KAPYEOUNPIEUP;2RIEUL-SIOS;2RIEUL-CIEUC;2RIEUL-KHIEUKH",
   "A96F=0HANGUL CHOSEONG MIEUM-KIYEOK;2MIEUM-TIKEUT;2MIEUM-SIOS;2PIEUP-SIOS-THIEUTH",
   "A973=0HANGUL CHOSEONG PIEUP-KHIEUKH;2PIEUP-HIEUH;2SSANGSIOS-PIEUP;2IEUNG-RIEUL;2IEUNG-HIEUH",
   "A978=0HANGUL CHOSEONG SSANGCIEUC-HIEUH;2SSANGTHIEUTH;2PHIEUPH-HIEUH;2HIEUH-SIOS",
   "A97C=0HANGUL CHOSEONG SSANGYEORINHIEUH;A980=0JAVANESE SIGN PANYANGGA;2CECAK;2LAYAR;2WIGNYAN",
   "A984=0JAVANESE LETTER A;2I KAWI;3;2II;2U;2PA CEREK;2NGA LELET;4RASWADI;2E;2AI;2O;2KA;3SASAK",
   "A991=0JAVANESE LETTER KA MURDA;2GA;3MURDA;2NGA;2CA;3MURDA;2JA;2NYA MURDA;2JA MAHAPRANA;2NYA",
   "A99B=0JAVANESE LETTER TTA;3MAHAPRANA;2DDA;3MAHAPRANA;2NA MURDA;2TA;3MURDA;2DA;3MAHAPRANA;2NA",
   "A9A5=0JAVANESE LETTER PA;3MURDA;2BA;3MURDA;2MA;2YA;2RA;3AGUNG;2LA;2WA;2SA MURDA;3MAHAPRANA;3",
   "A9B2=0JAVANESE LETTER HA;1SIGN CECAK TELU;1VOWEL SIGN TARUNG;3TOLONG;3WULU;4MELIK;3SUKU",
   "A9B9=0JAVANESE VOWEL SIGN SUKU MENDUT;3TALING;3DIRGA MURE;3PEPET;1CONSONANT SIGN KERET",
   "A9BE=0JAVANESE CONSONANT SIGN PENGKAL;3CAKRA;1PANGKON;1LEFT RERENGGAN;1RIGHT RERENGGAN",
   "A9C3=0JAVANESE PADA ANDAP;2MADYA;2LUHUR;2WINDU;2PANGKAT;2LINGSA;2LUNGSI;2ADEG;3ADEG;2PISELEH",
   "A9CD=0JAVANESE TURNED PADA PISELEH;A9CF=1PANGRANGKEP;1DIGIT ZERO;2ONE;2TWO;2THREE;2FOUR;2FIVE",
   "A9D6=0JAVANESE DIGIT SIX;2SEVEN;2EIGHT;2NINE;A9DE=1PADA TIRTA TUMETES;2ISEN-ISEN",
   "A9E0=0MYANMAR LETTER SHAN GHA;3CHA;3JHA;3NNA;3BHA;1SIGN SHAN SAW",
   "A9E6=0MYANMAR MODIFIER LETTER SHAN REDUPLICATION;1LETTER TAI LAING NYA;4FA;4GA;4GHA;4JA;4JHA",
   "A9ED=0MYANMAR LETTER TAI LAING DDA;4DDHA;4NNA;1TAI LAING DIGIT ZERO;4ONE;4TWO;4THREE;4FOUR",
   "A9F5=0MYANMAR TAI LAING DIGIT FIVE;4SIX;4SEVEN;4EIGHT;4NINE;1LETTER TAI LAING LLA;4DA;4DHA",
   "A9FD=0MYANMAR LETTER TAI LAING BA;4BHA;AA00=0CHAM LETTER A;2I;2U;2E;2AI;2O;2KA;2KHA;2GA;2GHA",
   "AA0A=0CHAM LETTER NGUE;2NGA;2CHA;2CHHA;2JA;2JHA;2NHUE;2NHA;2NHJA;2TA;2THA;2DA;2DHA;2NUE;2NA",
   "AA19=0CHAM LETTER DDA;2PA;2PPA;2PHA;2BA;2BHA;2MUE;2MA;2BBA;2YA;2RA;2LA;2VA;2SSA;2SA;2HA",
   "AA29=0CHAM VOWEL SIGN AA;3I;3II;3EI;3U;3OE;3O;3AI;3AU;3UE;1CONSONANT SIGN YA;3RA;3LA;3WA",
   "AA40=0CHAM LETTER FINAL K;3G;3NG;1CONSONANT SIGN FINAL NG;1LETTER FINAL CH;3T;3N;3P;3Y;3R;3L",
   "AA4B=0CHAM LETTER FINAL SS;1CONSONANT SIGN FINAL M;4H;AA50=1DIGIT ZERO;2ONE;2TWO;2THREE;2FOUR",
   "AA55=0CHAM DIGIT FIVE;2SIX;2SEVEN;2EIGHT;2NINE;AA5C=1PUNCTUATION SPIRAL;2DANDA;2DOUBLE DANDA",
   "AA5F=0CHAM PUNCTUATION TRIPLE DANDA;0MYANMAR LETTER KHAMTI GA;3CA;3CHA;3JA;3JHA;3NYA;3TTA",
   "AA67=0MYANMAR LETTER KHAMTI TTHA;3DDA;3DDHA;3DHA;3NA;3SA;3HA;3HHA;3FA",
   "AA70=0MYANMAR MODIFIER LETTER KHAMTI REDUPLICATION;1LETTER KHAMTI XA;3ZA;3RA",
   "AA74=0MYANMAR LOGOGRAM KHAMTI OAY;3QN;3HM;1SYMBOL AITON EXCLAMATION;3ONE;3TWO",
   "AA7A=0MYANMAR LETTER AITON RA;1SIGN PAO KAREN TONE;2TAI LAING TONE-2;4TONE-5",
   "AA7E=0MYANMAR LETTER SHWE PALAUNG CHA;4SHA;0TAI VIET LETTER LOW KO;3HIGH KO;3LOW KHO",
   "AA83=0TAI VIET LETTER HIGH KHO;3LOW KHHO;3HIGH KHHO;3LOW GO;3HIGH GO;3LOW NGO;3HIGH NGO",
   "AA8A=0TAI VIET LETTER LOW CO;3HIGH CO;3LOW CHO;3HIGH CHO;3LOW SO;3HIGH SO;3LOW NYO;3HIGH NYO",
   "AA92=0TAI VIET LETTER LOW DO;3HIGH DO;3LOW TO;3HIGH TO;3LOW THO;3HIGH THO;3LOW NO;3HIGH NO",
   "AA9A=0TAI VIET LETTER LOW BO;3HIGH BO;3LOW PO;3HIGH PO;3LOW PHO;3HIGH PHO;3LOW FO;3HIGH FO",
   "AAA2=0TAI VIET LETTER LOW MO;3HIGH MO;3LOW YO;3HIGH YO;3LOW RO;3HIGH RO;3LOW LO;3HIGH LO",
   "AAAA=0TAI VIET LETTER LOW VO;3HIGH VO;3LOW HO;3HIGH HO;3LOW O;3HIGH O;2MAI KANG;2VOWEL AA;3I",
   "AAB3=0TAI VIET VOWEL UE;3U;3E;3O;2MAI KHIT;2VOWEL IA;3UEA;3UA;3AUE;3AY;3AN;3AM;2TONE MAI EK",
   "AAC0=0TAI VIET TONE MAI NUENG;4THO;4SONG;AADB=2SYMBOL KON;3NUENG;3SAM;3HO HOI;3KOI KOI",
   "AAE0=0MEETEI MAYEK LETTER E;3O;3CHA;3NYA;3TTA;3TTHA;3DDA;3DDHA;3NNA;3SHA;3SSA;2VOWEL SIGN II",
   "AAEC=0MEETEI MAYEK VOWEL SIGN UU;4AAI;4AU;4AAU;2CHEIKHAN;2AHANG KHUDAM;2ANJI",
   "AAF3=0MEETEI MAYEK SYLLABLE REPETITION MARK;2WORD REPETITION MARK;2VOWEL SIGN VISARGA;2VIRAMA",
   "AB01=0ETHIOPIC SYLLABLE TTHU;2TTHI;2TTHAA;2TTHEE;2TTHE;2TTHO;AB09=2DDHU;2DDHI;2DDHAA;2DDHEE",
   "AB0D=0ETHIOPIC SYLLABLE DDHE;2DDHO;AB11=2DZU;2DZI;2DZAA;2DZEE;2DZE;2DZO;AB20=2CCHHA;2CCHHU",
   "AB22=0ETHIOPIC SYLLABLE CCHHI;2CCHHAA;2CCHHEE;2CCHHE;2CCHHO;AB28=2BBA;2BBU;2BBI;2BBAA;2BBEE",
   "AB2D=0ETHIOPIC SYLLABLE BBE;2BBO;AB30=0LATIN SMALL LETTER BARRED ALPHA;3A REVERSED-SCHWA",
   "AB32=0LATIN SMALL LETTER BLACKLETTER E;3BARRED E;3E WITH FLOURISH;3LENIS F",
   "AB36=0LATIN SMALL LETTER SCRIPT G WITH CROSSED-TAIL;3L WITH INVERTED LAZY S",
   "AB38=0LATIN SMALL LETTER L WITH DOUBLE MIDDLE TILDE;5MIDDLE RING;3M WITH CROSSED-TAIL",
   "AB3B=0LATIN SMALL LETTER N WITH CROSSED-TAIL;3ENG WITH CROSSED-TAIL;3BLACKLETTER O",
   "AB3E=0LATIN SMALL LETTER BLACKLETTER O WITH STROKE;3OPEN O WITH STROKE;3INVERTED OE",
   "AB41=0LATIN SMALL LETTER TURNED OE WITH STROKE;6HORIZONTAL STROKE;4O OPEN-O;6WITH STROKE",
   "AB45=0LATIN SMALL LETTER STIRRUP R;1LETTER SMALL CAPITAL R WITH RIGHT LEG",
   "AB47=0LATIN SMALL LETTER R WITHOUT HANDLE;3DOUBLE R;3R WITH CROSSED-TAIL",
   "AB4A=0LATIN SMALL LETTER DOUBLE R WITH CROSSED-TAIL;3SCRIPT R;5WITH RING;3BASELINE ESH",
   "AB4E=0LATIN SMALL LETTER U WITH SHORT RIGHT LEG;4BAR WITH SHORT RIGHT LEG;3UI;3TURNED UI",
   "AB52=0LATIN SMALL LETTER U WITH LEFT HOOK;3CHI;4WITH LOW RIGHT RING;6LEFT SERIF",
   "AB56=0LATIN SMALL LETTER X WITH LOW RIGHT RING;5LONG LEFT LEG;8AND LOW RIGHT RING;8WITH SERIF",
   "AB5A=0LATIN SMALL LETTER Y WITH SHORT RIGHT LEG;0MODIFIER BREVE WITH INVERTED BREVE",
   "AB5C=0MODIFIER LETTER SMALL HENG;3L WITH INVERTED LAZY S;5MIDDLE TILDE;3U WITH LEFT HOOK",
   "AB60=0LATIN SMALL LETTER SAKHA YAT;3IOTIFIED E;3OPEN OE;3UO;3INVERTED ALPHA",
   "AB65=0GREEK LETTER SMALL CAPITAL OMEGA;0LATIN SMALL LETTER DZ DIGRAPH WITH RETROFLEX HOOK",
   "AB67=0LATIN SMALL LETTER TS DIGRAPH WITH RETROFLEX HOOK;3TURNED R WITH MIDDLE TILDE",
   "AB69=0MODIFIER LETTER SMALL TURNED W;2LEFT TACK;2RIGHT TACK;AB70=0CHEROKEE SMALL LETTER A;3E",
   "AB72=0CHEROKEE SMALL LETTER I;3O;3U;3V;3GA;3KA;3GE;3GI;3GO;3GU;3GV;3HA;3HE;3HI;3HO;3HU;3HV",
   "AB83=0CHEROKEE SMALL LETTER LA;3LE;3LI;3LO;3LU;3LV;3MA;3ME;3MI;3MO;3MU;3NA;3HNA;3NAH;3NE;3NI",
   "AB93=0CHEROKEE SMALL LETTER NO;3NU;3NV;3QUA;3QUE;3QUI;3QUO;3QUU;3QUV;3SA;3S;3SE;3SI;3SO;3SU",
   "ABA2=0CHEROKEE SMALL LETTER SV;3DA;3TA;3DE;3TE;3DI;3TI;3DO;3DU;3DV;3DLA;3TLA;3TLE;3TLI;3TLO",
   "ABB1=0CHEROKEE SMALL LETTER TLU;3TLV;3TSA;3TSE;3TSI;3TSO;3TSU;3TSV;3WA;3WE;3WI;3WO;3WU;3WV",
   "ABBF=0CHEROKEE SMALL LETTER YA;0MEETEI MAYEK LETTER KOK;3SAM;3LAI;3MIT;3PA;3NA;3CHIL;3TIL",
   "ABC8=0MEETEI MAYEK LETTER KHOU;3NGOU;3THOU;3WAI;3YANG;3HUK;3UN;3I;3PHAM;3ATIYA;3GOK;3JHAM",
   "ABD4=0MEETEI MAYEK LETTER RAI;3BA;3JIL;3DIL;3GHOU;3DHOU;3BHAM;3KOK LONSUM;3LAI LONSUM",
   "ABDD=0MEETEI MAYEK LETTER MIT LONSUM;3PA LONSUM;3NA LONSUM;3TIL LONSUM;3NGOU LONSUM;3I LONSUM",
   "ABE3=0MEETEI MAYEK VOWEL SIGN ONAP;4INAP;4ANAP;4YENAP;4SOUNAP;4UNAP;4CHEINAP;4NUNG;2CHEIKHEI",
   "ABEC=0MEETEI MAYEK LUM IYEK;2APUN IYEK;ABF0=2DIGIT ZERO;3ONE;3TWO;3THREE;3FOUR;3FIVE;3SIX",
   "ABF7=0MEETEI MAYEK DIGIT SEVEN;3EIGHT;3NINE;D7B0=0HANGUL JUNGSEONG O-YEO;2O-O-I;2YO-A;2YO-AE",
   "D7B4=0HANGUL JUNGSEONG YO-EO;2U-YEO;2U-I-I;2YU-AE;2YU-O;2EU-A;2EU-EO;2EU-E;2EU-O;2I-YA-O",
   "D7BE=0HANGUL JUNGSEONG I-YAE;2I-YEO;2I-YE;2I-O-I;2I-YO;2I-YU;2I-I;2ARAEA-A;2ARAEA-E",
   "D7CB=0HANGUL JONGSEONG NIEUN-RIEUL;2NIEUN-CHIEUCH;2SSANGTIKEUT;2SSANGTIKEUT-PIEUP",
   "D7CF=0HANGUL JONGSEONG TIKEUT-PIEUP;2TIKEUT-SIOS;2TIKEUT-SIOS-KIYEOK;2TIKEUT-CIEUC",
   "D7D3=0HANGUL JONGSEONG TIKEUT-CHIEUCH;2TIKEUT-THIEUTH;2RIEUL-SSANGKIYEOK;2RIEUL-KIYEOK-HIEUH",
   "D7D7=0HANGUL JONGSEONG SSANGRIEUL-KHIEUKH;2RIEUL-MIEUM-HIEUH;2RIEUL-PIEUP-TIKEUT",
   "D7DA=0HANGUL JONGSEONG RIEUL-PIEUP-PHIEUPH;2RIEUL-YESIEUNG;2RIEUL-YEORINHIEUH-HIEUH",
   "D7DD=0HANGUL JONGSEONG KAPYEOUNRIEUL;2MIEUM-NIEUN;2MIEUM-SSANGNIEUN;2SSANGMIEUM",
   "D7E1=0HANGUL JONGSEONG MIEUM-PIEUP-SIOS;2MIEUM-CIEUC;2PIEUP-TIKEUT;2PIEUP-RIEUL-PHIEUPH",
   "D7E5=0HANGUL JONGSEONG PIEUP-MIEUM;2SSANGPIEUP;2PIEUP-SIOS-TIKEUT;2PIEUP-CIEUC;2PIEUP-CHIEUCH",
   "D7EA=0HANGUL JONGSEONG SIOS-MIEUM;2SIOS-KAPYEOUNPIEUP;2SSANGSIOS-KIYEOK;2SSANGSIOS-TIKEUT",
   "D7EE=0HANGUL JONGSEONG SIOS-PANSIOS;2SIOS-CIEUC;2SIOS-CHIEUCH;2SIOS-THIEUTH;2SIOS-HIEUH",
   "D7F3=0HANGUL JONGSEONG PANSIOS-PIEUP;2PANSIOS-KAPYEOUNPIEUP;2YESIEUNG-MIEUM;2YESIEUNG-HIEUH",
   "D7F7=0HANGUL JONGSEONG CIEUC-PIEUP;2CIEUC-SSANGPIEUP;2SSANGCIEUC;2PHIEUPH-SIOS",
   "D7FB=0HANGUL JONGSEONG PHIEUPH-THIEUTH;FB00=0LATIN SMALL LIGATURE FF;3FI;3FL;3FFI;3FFL",
   "FB05=0LATIN SMALL LIGATURE LONG S T;3ST;FB13=0ARMENIAN SMALL LIGATURE MEN NOW;4ECH;4INI",
   "FB16=0ARMENIAN SMALL LIGATURE VEW NOW;3MEN XEH;FB1D=0HEBREW LETTER YOD WITH HIRIQ",
   "FB1E=0HEBREW POINT JUDEO-SPANISH VARIKA;1LIGATURE YIDDISH YOD YOD PATAH",
   "FB20=0HEBREW LETTER ALTERNATIVE AYIN;2WIDE ALEF;3DALET;3HE;3KAF;3LAMED;3FINAL MEM;3RESH;3TAV",
   "FB29=0HEBREW LETTER ALTERNATIVE PLUS SIGN;2SHIN WITH SHIN DOT;4SIN DOT;4DAGESH AND SHIN DOT",
   "FB2D=0HEBREW LETTER SHIN WITH DAGESH AND SIN DOT;2ALEF WITH PATAH;4QAMATS;4MAPIQ",
   "FB31=0HEBREW LETTER BET WITH DAGESH;2GIMEL WITH DAGESH;2DALET WITH DAGESH;2HE WITH MAPIQ",
   "FB35=0HEBREW LETTER VAV WITH DAGESH;2ZAYIN WITH DAGESH;FB38=2TET WITH DAGESH;2YOD WITH DAGESH",
   "FB3A=0HEBREW LETTER FINAL KAF WITH DAGESH;2KAF WITH DAGESH;2LAMED WITH DAGESH",
   "FB3E=0HEBREW LETTER MEM WITH DAGESH;FB40=2NUN WITH DAGESH;2SAMEKH WITH DAGESH",
   "FB43=0HEBREW LETTER FINAL PE WITH DAGESH;2PE WITH DAGESH;FB46=2TSADI WITH DAGESH",
   "FB47=0HEBREW LETTER QOF WITH DAGESH;2RESH WITH DAGESH;2SHIN WITH DAGESH;2TAV WITH DAGESH",
   "FB4B=0HEBREW LETTER VAV WITH HOLAM;2BET WITH RAFE;2KAF WITH RAFE;2PE WITH RAFE",
   "FB4F=0HEBREW LIGATURE ALEF LAMED;0ARABIC LETTER ALEF WASLA ISOLATED FORM;4FINAL FORM",
   "FB52=0ARABIC LETTER BEEH ISOLATED FORM;3FINAL FORM;3INITIAL FORM;3MEDIAL FORM",
   "FB56=0ARABIC LETTER PEH ISOLATED FORM;3FINAL FORM;3INITIAL FORM;3MEDIAL FORM",
   "FB5A=0ARABIC LETTER BEHEH ISOLATED FORM;3FINAL FORM;3INITIAL FORM;3MEDIAL FORM",
   "FB5E=0ARABIC LETTER TTEHEH ISOLATED FORM;3FINAL FORM;3INITIAL FORM;3MEDIAL FORM",
   "FB62=0ARABIC LETTER TEHEH ISOLATED FORM;3FINAL FORM;3INITIAL FORM;3MEDIAL FORM",
   "FB66=0ARABIC LETTER TTEH ISOLATED FORM;3FINAL FORM;3INITIAL FORM;3MEDIAL FORM",
   "FB6A=0ARABIC LETTER VEH ISOLATED FORM;3FINAL FORM;3INITIAL FORM;3MEDIAL FORM",
   "FB6E=0ARABIC LETTER PEHEH ISOLATED FORM;3FINAL FORM;3INITIAL FORM;3MEDIAL FORM",
   "FB72=0ARABIC LETTER DYEH ISOLATED FORM;3FINAL FORM;3INITIAL FORM;3MEDIAL FORM",
   "FB76=0ARABIC LETTER NYEH ISOLATED FORM;3FINAL FORM;3INITIAL FORM;3MEDIAL FORM",
   "FB7A=0ARABIC LETTER TCHEH ISOLATED FORM;3FINAL FORM;3INITIAL FORM;3MEDIAL FORM",
   "FB7E=0ARABIC LETTER TCHEHEH ISOLATED FORM;3FINAL FORM;3INITIAL FORM;3MEDIAL FORM",
   "FB82=0ARABIC LETTER DDAHAL ISOLATED FORM;3FINAL FORM;2DAHAL ISOLATED FORM;3FINAL FORM",
   "FB86=0ARABIC LETTER DUL ISOLATED FORM;3FINAL FORM;2DDAL ISOLATED FORM;3FINAL FORM",
   "FB8A=0ARABIC LETTER JEH ISOLATED FORM;3FINAL FORM;2RREH ISOLATED FORM;3FINAL FORM",
   "FB8E=0ARABIC LETTER KEHEH ISOLATED FORM;3FINAL FORM;3INITIAL FORM;3MEDIAL FORM",
   "FB92=0ARABIC LETTER GAF ISOLATED FORM;3FINAL FORM;3INITIAL FORM;3MEDIAL FORM",
   "FB96=0ARABIC LETTER GUEH ISOLATED FORM;3FINAL FORM;3INITIAL FORM;3MEDIAL FORM",
   "FB9A=0ARABIC LETTER NGOEH ISOLATED FORM;3FINAL FORM;3INITIAL FORM;3MEDIAL FORM",
   "FB9E=0ARABIC LETTER NOON GHUNNA ISOLATED FORM;4FINAL FORM;2RNOON ISOLATED FORM;3FINAL FORM",
   "FBA2=0ARABIC LETTER RNOON INITIAL FORM;3MEDIAL FORM;2HEH WITH YEH ABOVE ISOLATED FORM",
   "FBA5=0ARABIC LETTER HEH WITH YEH ABOVE FINAL FORM;3GOAL ISOLATED FORM;4FINAL FORM",
   "FBA8=0ARABIC LETTER HEH GOAL INITIAL FORM;4MEDIAL FORM;3DOACHASHMEE ISOLATED FORM;4FINAL FORM",
   "FBAC=0ARABIC LETTER HEH DOACHASHMEE INITIAL FORM;4MEDIAL FORM;2YEH BARREE ISOLATED FORM",
   "FBAF=0ARABIC LETTER YEH BARREE FINAL FORM;4WITH HAMZA ABOVE ISOLATED FORM;7FINAL FORM",
   "FBB2=0ARABIC SYMBOL DOT ABOVE;3BELOW;2TWO DOTS ABOVE;4BELOW;2THREE DOTS ABOVE;4BELOW",
   "FBB8=0ARABIC SYMBOL THREE DOTS POINTING DOWNWARDS ABOVE;6BELOW;2FOUR DOTS ABOVE;4BELOW",
   "FBBC=0ARABIC SYMBOL DOUBLE VERTICAL BAR BELOW;2TWO DOTS VERTICALLY ABOVE;5BELOW;2RING",
   "FBC0=0ARABIC SYMBOL SMALL TAH ABOVE;4BELOW;2WASLA ABOVE;FBD3=1LETTER NG ISOLATED FORM",
   "FBD4=0ARABIC LETTER NG FINAL FORM;3INITIAL FORM;3MEDIAL FORM;2U ISOLATED FORM;3FINAL FORM",
   "FBD9=0ARABIC LETTER OE ISOLATED FORM;3FINAL FORM;2YU ISOLATED FORM;3FINAL FORM",
   "FBDD=0ARABIC LETTER U WITH HAMZA ABOVE ISOLATED FORM;2VE ISOLATED FORM;3FINAL FORM",
   "FBE0=0ARABIC LETTER KIRGHIZ OE ISOLATED FORM;4FINAL FORM;3YU ISOLATED FORM;4FINAL FORM",
   "FBE4=0ARABIC LETTER E ISOLATED FORM;3FINAL FORM;3INITIAL FORM;3MEDIAL FORM",
   "FBE8=0ARABIC LETTER UIGHUR KAZAKH KIRGHIZ ALEF MAKSURA INITIAL FORM;7MEDIAL FORM",
   "FBEA=0ARABIC LIGATURE YEH WITH HAMZA ABOVE WITH ALEF ISOLATED FORM;8FINAL FORM",
   "FBEC=0ARABIC LIGATURE YEH WITH HAMZA ABOVE WITH AE ISOLATED FORM;8FINAL FORM",
   "FBEE=0ARABIC LIGATURE YEH WITH HAMZA ABOVE WITH WAW ISOLATED FORM;8FINAL FORM",
   "FBF0=0ARABIC LIGATURE YEH WITH HAMZA ABOVE WITH U ISOLATED FORM;8FINAL FORM;7OE ISOLATED FORM",
   "FBF3=0ARABIC LIGATURE YEH WITH HAMZA ABOVE WITH OE FINAL FORM;7YU ISOLATED FORM;8FINAL FORM",
   "FBF6=0ARABIC LIGATURE YEH WITH HAMZA ABOVE WITH E ISOLATED FORM;8FINAL FORM;8INITIAL FORM",
   "FBF9=0ARABIC LIGATURE UIGHUR KIRGHIZ YEH WITH HAMZA ABOVE WITH ALEF MAKSURA ISOLATED FORM",
   "FBFA=0ARABIC LIGATURE UIGHUR KIRGHIZ YEH WITH HAMZA ABOVE WITH ALEF MAKSURA FINAL FORM",
   "FBFB=0ARABIC LIGATURE UIGHUR KIRGHIZ YEH WITH HAMZA ABOVE WITH ALEF MAKSURA INITIAL FORM",
   "FBFC=0ARABIC LETTER FARSI YEH ISOLATED FORM;4FINAL FORM;4INITIAL FORM;4MEDIAL FORM",
   "FC00=0ARABIC LIGATURE YEH WITH HAMZA ABOVE WITH JEEM ISOLATED FORM;7HAH ISOLATED FORM",
   "FC02=0ARABIC LIGATURE YEH WITH HAMZA ABOVE WITH MEEM ISOLATED FORM",
   "FC03=0ARABIC LIGATURE YEH WITH HAMZA ABOVE WITH ALEF MAKSURA ISOLATED FORM;7YEH ISOLATED FORM",
   "FC05=0ARABIC LIGATURE BEH WITH JEEM ISOLATED FORM;4HAH ISOLATED FORM;4KHAH ISOLATED FORM",
   "FC08=0ARABIC LIGATURE BEH WITH MEEM ISOLATED FORM;4ALEF MAKSURA ISOLATED FORM",
   "FC0A=0ARABIC LIGATURE BEH WITH YEH ISOLATED FORM;2TEH WITH JEEM ISOLATED FORM",
   "FC0C=0ARABIC LIGATURE TEH WITH HAH ISOLATED FORM;4KHAH ISOLATED FORM;4MEEM ISOLATED FORM",
   "FC0F=0ARABIC LIGATURE TEH WITH ALEF MAKSURA ISOLATED FORM;4YEH ISOLATED FORM",
   "FC11=0ARABIC LIGATURE THEH WITH JEEM ISOLATED FORM;4MEEM ISOLATED FORM",
   "FC13=0ARABIC LIGATURE THEH WITH ALEF MAKSURA ISOLATED FORM;4YEH ISOLATED FORM",
   "FC15=0ARABIC LIGATURE JEEM WITH HAH ISOLATED FORM;4MEEM ISOLATED FORM",
   "FC17=0ARABIC LIGATURE HAH WITH JEEM ISOLATED FORM;4MEEM ISOLATED FORM",
   "FC19=0ARABIC LIGATURE KHAH WITH JEEM ISOLATED FORM;4HAH ISOLATED FORM;4MEEM ISOLATED FORM",
   "FC1C=0ARABIC LIGATURE SEEN WITH JEEM ISOLATED FORM;4HAH ISOLATED FORM;4KHAH ISOLATED FORM",
   "FC1F=0ARABIC LIGATURE SEEN WITH MEEM ISOLATED FORM;2SAD WITH HAH ISOLATED FORM",
   "FC21=0ARABIC LIGATURE SAD WITH MEEM ISOLATED FORM;2DAD WITH JEEM ISOLATED FORM",
   "FC23=0ARABIC LIGATURE DAD WITH HAH ISOLATED FORM;4KHAH ISOLATED FORM;4MEEM ISOLATED FORM",
   "FC26=0ARABIC LIGATURE TAH WITH HAH ISOLATED FORM;4MEEM ISOLATED FORM",
   "FC28=0ARABIC LIGATURE ZAH WITH MEEM ISOLATED FORM;2AIN WITH JEEM ISOLATED FORM",
   "FC2A=0ARABIC LIGATURE AIN WITH MEEM ISOLATED FORM;2GHAIN WITH JEEM ISOLATED FORM",
   "FC2C=0ARABIC LIGATURE GHAIN WITH MEEM ISOLATED FORM;2FEH WITH JEEM ISOLATED FORM",
   "FC2E=0ARABIC LIGATURE FEH WITH HAH ISOLATED FORM;4KHAH ISOLATED FORM;4MEEM ISOLATED FORM",
   "FC31=0ARABIC LIGATURE FEH WITH ALEF MAKSURA ISOLATED FORM;4YEH ISOLATED FORM",
   "FC33=0ARABIC LIGATURE QAF WITH HAH ISOLATED FORM;4MEEM ISOLATED FORM",
   "FC35=0ARABIC LIGATURE QAF WITH ALEF MAKSURA ISOLATED FORM;4YEH ISOLATED FORM",
   "FC37=0ARABIC LIGATURE KAF WITH ALEF ISOLATED FORM;4JEEM ISOLATED FORM;4HAH ISOLATED FORM",
   "FC3A=0ARABIC LIGATURE KAF WITH KHAH ISOLATED FORM;4LAM ISOLATED FORM;4MEEM ISOLATED FORM",
   "FC3D=0ARABIC LIGATURE KAF WITH ALEF MAKSURA ISOLATED FORM;4YEH ISOLATED FORM",
   "FC3F=0ARABIC LIGATURE LAM WITH JEEM ISOLATED FORM;4HAH ISOLATED FORM;4KHAH ISOLATED FORM",
   "FC42=0ARABIC LIGATURE LAM WITH MEEM ISOLATED FORM;4ALEF MAKSURA ISOLATED FORM",
   "FC44=0ARABIC LIGATURE LAM WITH YEH ISOLATED FORM;2MEEM WITH JEEM ISOLATED FORM",
   "FC46=0ARABIC LIGATURE MEEM WITH HAH ISOLATED FORM;4KHAH ISOLATED FORM;4MEEM ISOLATED FORM",
   "FC49=0ARABIC LIGATURE MEEM WITH ALEF MAKSURA ISOLATED FORM;4YEH ISOLATED FORM",
   "FC4B=0ARABIC LIGATURE NOON WITH JEEM ISOLATED FORM;4HAH ISOLATED FORM;4KHAH ISOLATED FORM",
   "FC4E=0ARABIC LIGATURE NOON WITH MEEM ISOLATED FORM;4ALEF MAKSURA ISOLATED FORM",
   "FC50=0ARABIC LIGATURE NOON WITH YEH ISOLATED FORM;2HEH WITH JEEM ISOLATED FORM",
   "FC52=0ARABIC LIGATURE HEH WITH MEEM ISOLATED FORM;4ALEF MAKSURA ISOLATED FORM",
   "FC54=0ARABIC LIGATURE HEH WITH YEH ISOLATED FORM;2YEH WITH JEEM ISOLATED FORM",
   "FC56=0ARABIC LIGATURE YEH WITH HAH ISOLATED FORM;4KHAH ISOLATED FORM;4MEEM ISOLATED FORM",
   "FC59=0ARABIC LIGATURE YEH WITH ALEF MAKSURA ISOLATED FORM;4YEH ISOLATED FORM",
   "FC5B=0ARABIC LIGATURE THAL WITH SUPERSCRIPT ALEF ISOLATED FORM",
   "FC5C=0ARABIC LIGATURE REH WITH SUPERSCRIPT ALEF ISOLATED FORM",
   "FC5D=0ARABIC LIGATURE ALEF MAKSURA WITH SUPERSCRIPT ALEF ISOLATED FORM",
   "FC5E=0ARABIC LIGATURE SHADDA WITH DAMMATAN ISOLATED FORM;4KASRATAN ISOLATED FORM",
   "FC60=0ARABIC LIGATURE SHADDA WITH FATHA ISOLATED FORM;4DAMMA ISOLATED FORM",
   "FC62=0ARABIC LIGATURE SHADDA WITH KASRA ISOLATED FORM;4SUPERSCRIPT ALEF ISOLATED FORM",
   "FC64=0ARABIC LIGATURE YEH WITH HAMZA ABOVE WITH REH FINAL FORM;7ZAIN FINAL FORM",
   "FC66=0ARABIC LIGATURE YEH WITH HAMZA ABOVE WITH MEEM FINAL FORM;7NOON FINAL FORM",
   "FC68=0ARABIC LIGATURE YEH WITH HAMZA ABOVE WITH ALEF MAKSURA FINAL FORM;7YEH FINAL FORM",
   "FC6A=0ARABIC LIGATURE BEH WITH REH FINAL FORM;4ZAIN FINAL FORM;4MEEM FINAL FORM",
   "FC6D=0ARABIC LIGATURE BEH WITH NOON FINAL FORM;4ALEF MAKSURA FINAL FORM;4YEH FINAL FORM",
   "FC70=0ARABIC LIGATURE TEH WITH REH FINAL FORM;4ZAIN FINAL FORM;4MEEM FINAL FORM",
   "FC73=0ARABIC LIGATURE TEH WITH NOON FINAL FORM;4ALEF MAKSURA FINAL FORM;4YEH FINAL FORM",
   "FC76=0ARABIC LIGATURE THEH WITH REH FINAL FORM;4ZAIN FINAL FORM;4MEEM FINAL FORM",
   "FC79=0ARABIC LIGATURE THEH WITH NOON FINAL FORM;4ALEF MAKSURA FINAL FORM;4YEH FINAL FORM",
   "FC7C=0ARABIC LIGATURE FEH WITH ALEF MAKSURA FINAL FORM;4YEH FINAL FORM",
   "FC7E=0ARABIC LIGATURE QAF WITH ALEF MAKSURA FINAL FORM;4YEH FINAL FORM",
   "FC80=0ARABIC LIGATURE KAF WITH ALEF FINAL FORM;4LAM FINAL FORM;4MEEM FINAL FORM",
   "FC83=0ARABIC LIGATURE KAF WITH ALEF MAKSURA FINAL FORM;4YEH FINAL FORM",
   "FC85=0ARABIC LIGATURE LAM WITH MEEM FINAL FORM;4ALEF MAKSURA FINAL FORM;4YEH FINAL FORM",
   "FC88=0ARABIC LIGATURE MEEM WITH ALEF FINAL FORM;4MEEM FINAL FORM;2NOON WITH REH FINAL FORM",
   "FC8B=0ARABIC LIGATURE NOON WITH ZAIN FINAL FORM;4MEEM FINAL FORM;4NOON FINAL FORM",
   "FC8E=0ARABIC LIGATURE NOON WITH ALEF MAKSURA FINAL FORM;4YEH FINAL FORM",
   "FC90=0ARABIC LIGATURE ALEF MAKSURA WITH SUPERSCRIPT ALEF FINAL FORM;2YEH WITH REH FINAL FORM",
   "FC92=0ARABIC LIGATURE YEH WITH ZAIN FINAL FORM;4MEEM FINAL FORM;4NOON FINAL FORM",
   "FC95=0ARABIC LIGATURE YEH WITH ALEF MAKSURA FINAL FORM;4YEH FINAL FORM",
   "FC97=0ARABIC LIGATURE YEH WITH HAMZA ABOVE WITH JEEM INITIAL FORM;7HAH INITIAL FORM",
   "FC99=0ARABIC LIGATURE YEH WITH HAMZA ABOVE WITH KHAH INITIAL FORM;7MEEM INITIAL FORM",
   "FC9B=0ARABIC LIGATURE YEH WITH HAMZA ABOVE WITH HEH INITIAL FORM;2BEH WITH JEEM INITIAL FORM",
   "FC9D=0ARABIC LIGATURE BEH WITH HAH INITIAL FORM;4KHAH INITIAL FORM;4MEEM INITIAL FORM",
   "FCA0=0ARABIC LIGATURE BEH WITH HEH INITIAL FORM;2TEH WITH JEEM INITIAL FORM;4HAH INITIAL FORM",
   "FCA3=0ARABIC LIGATURE TEH WITH KHAH INITIAL FORM;4MEEM INITIAL FORM;4HEH INITIAL FORM",
   "FCA6=0ARABIC LIGATURE THEH WITH MEEM INITIAL FORM;2JEEM WITH HAH INITIAL FORM",
   "FCA8=0ARABIC LIGATURE JEEM WITH MEEM INITIAL FORM;2HAH WITH JEEM INITIAL FORM",
   "FCAA=0ARABIC LIGATURE HAH WITH MEEM INITIAL FORM;2KHAH WITH JEEM INITIAL FORM",
   "FCAC=0ARABIC LIGATURE KHAH WITH MEEM INITIAL FORM;2SEEN WITH JEEM INITIAL FORM",
   "FCAE=0ARABIC LIGATURE SEEN WITH HAH INITIAL FORM;4KHAH INITIAL FORM;4MEEM INITIAL FORM",
   "FCB1=0ARABIC LIGATURE SAD WITH HAH INITIAL FORM;4KHAH INITIAL FORM;4MEEM INITIAL FORM",
   "FCB4=0ARABIC LIGATURE DAD WITH JEEM INITIAL FORM;4HAH INITIAL FORM;4KHAH INITIAL FORM",
   "FCB7=0ARABIC LIGATURE DAD WITH MEEM INITIAL FORM;2TAH WITH HAH INITIAL FORM",
   "FCB9=0ARABIC LIGATURE ZAH WITH MEEM INITIAL FORM;2AIN WITH JEEM INITIAL FORM",
   "FCBB=0ARABIC LIGATURE AIN WITH MEEM INITIAL FORM;2GHAIN WITH JEEM INITIAL FORM",
   "FCBD=0ARABIC LIGATURE GHAIN WITH MEEM INITIAL FORM;2FEH WITH JEEM INITIAL FORM",
   "FCBF=0ARABIC LIGATURE FEH WITH HAH INITIAL FORM;4KHAH INITIAL FORM;4MEEM INITIAL FORM",
   "FCC2=0ARABIC LIGATURE QAF WITH HAH INITIAL FORM;4MEEM INITIAL FORM",
   "FCC4=0ARABIC LIGATURE KAF WITH JEEM INITIAL FORM;4HAH INITIAL FORM;4KHAH INITIAL FORM",
   "FCC7=0ARABIC LIGATURE KAF WITH LAM INITIAL FORM;4MEEM INITIAL FORM",
   "FCC9=0ARABIC LIGATURE LAM WITH JEEM INITIAL FORM;4HAH INITIAL FORM;4KHAH INITIAL FORM",
   "FCCC=0ARABIC LIGATURE LAM WITH MEEM INITIAL FORM;4HEH INITIAL FORM",
   "FCCE=0ARABIC LIGATURE MEEM WITH JEEM INITIAL FORM;4HAH INITIAL FORM;4KHAH INITIAL FORM",
   "FCD1=0ARABIC LIGATURE MEEM WITH MEEM INITIAL FORM;2NOON WITH JEEM INITIAL FORM",
   "FCD3=0ARABIC LIGATURE NOON WITH HAH INITIAL FORM;4KHAH INITIAL FORM;4MEEM INITIAL FORM",
   "FCD6=0ARABIC LIGATURE NOON WITH HEH INITIAL FORM;2HEH WITH JEEM INITIAL FORM",
   "FCD8=0ARABIC LIGATURE HEH WITH MEEM INITIAL FORM;4SUPERSCRIPT ALEF INITIAL FORM",
   "FCDA=0ARABIC LIGATURE YEH WITH JEEM INITIAL FORM;4HAH INITIAL FORM;4KHAH INITIAL FORM",
   "FCDD=0ARABIC LIGATURE YEH WITH MEEM INITIAL FORM;4HEH INITIAL FORM",
   "FCDF=0ARABIC LIGATURE YEH WITH HAMZA ABOVE WITH MEEM MEDIAL FORM;7HEH MEDIAL FORM",
   "FCE1=0ARABIC LIGATURE BEH WITH MEEM MEDIAL FORM;4HEH MEDIAL FORM;2TEH WITH MEEM MEDIAL FORM",
   "FCE4=0ARABIC LIGATURE TEH WITH HEH MEDIAL FORM;2THEH WITH MEEM MEDIAL FORM;4HEH MEDIAL FORM",
   "FCE7=0ARABIC LIGATURE SEEN WITH MEEM MEDIAL FORM;4HEH MEDIAL FORM",
   "FCE9=0ARABIC LIGATURE SHEEN WITH MEEM MEDIAL FORM;4HEH MEDIAL FORM;2KAF WITH LAM MEDIAL FORM",
   "FCEC=0ARABIC LIGATURE KAF WITH MEEM MEDIAL FORM;2LAM WITH MEEM MEDIAL FORM",
   "FCEE=0ARABIC LIGATURE NOON WITH MEEM MEDIAL FORM;4HEH MEDIAL FORM;2YEH WITH MEEM MEDIAL FORM",
   "FCF1=0ARABIC LIGATURE YEH WITH HEH MEDIAL FORM;2SHADDA WITH FATHA MEDIAL FORM",
   "FCF3=0ARABIC LIGATURE SHADDA WITH DAMMA MEDIAL FORM;4KASRA MEDIAL FORM",
   "FCF5=0ARABIC LIGATURE TAH WITH ALEF MAKSURA ISOLATED FORM;4YEH ISOLATED FORM",
   "FCF7=0ARABIC LIGATURE AIN WITH ALEF MAKSURA ISOLATED FORM;4YEH ISOLATED FORM",
   "FCF9=0ARABIC LIGATURE GHAIN WITH ALEF MAKSURA ISOLATED FORM;4YEH ISOLATED FORM",
   "FCFB=0ARABIC LIGATURE SEEN WITH ALEF MAKSURA ISOLATED FORM;4YEH ISOLATED FORM",
   "FCFD=0ARABIC LIGATURE SHEEN WITH ALEF MAKSURA ISOLATED FORM;4YEH ISOLATED FORM",
   "FCFF=0ARABIC LIGATURE HAH WITH ALEF MAKSURA ISOLATED FORM;4YEH ISOLATED FORM",
   "FD01=0ARABIC LIGATURE JEEM WITH ALEF MAKSURA ISOLATED FORM;4YEH ISOLATED FORM",
   "FD03=0ARABIC LIGATURE KHAH WITH ALEF MAKSURA ISOLATED FORM;4YEH ISOLATED FORM",
   "FD05=0ARABIC LIGATURE SAD WITH ALEF MAKSURA ISOLATED FORM;4YEH ISOLATED FORM",
   "FD07=0ARABIC LIGATURE DAD WITH ALEF MAKSURA ISOLATED FORM;4YEH ISOLATED FORM",
   "FD09=0ARABIC LIGATURE SHEEN WITH JEEM ISOLATED FORM;4HAH ISOLATED FORM;4KHAH ISOLATED FORM",
   "FD0C=0ARABIC LIGATURE SHEEN WITH MEEM ISOLATED FORM;4REH ISOLATED FORM",
   "FD0E=0ARABIC LIGATURE SEEN WITH REH ISOLATED FORM;2SAD WITH REH ISOLATED FORM",
   "FD10=0ARABIC LIGATURE DAD WITH REH ISOLATED FORM;2TAH WITH ALEF MAKSURA FINAL FORM",
   "FD12=0ARABIC LIGATURE TAH WITH YEH FINAL FORM;2AIN WITH ALEF MAKSURA FINAL FORM",
   "FD14=0ARABIC LIGATURE AIN WITH YEH FINAL FORM;2GHAIN WITH ALEF MAKSURA FINAL FORM",
   "FD16=0ARABIC LIGATURE GHAIN WITH YEH FINAL FORM;2SEEN WITH ALEF MAKSURA FINAL FORM",
   "FD18=0ARABIC LIGATURE SEEN WITH YEH FINAL FORM;2SHEEN WITH ALEF MAKSURA FINAL FORM",
   "FD1A=0ARABIC LIGATURE SHEEN WITH YEH FINAL FORM;2HAH WITH ALEF MAKSURA FINAL FORM",
   "FD1C=0ARABIC LIGATURE HAH WITH YEH FINAL FORM;2JEEM WITH ALEF MAKSURA FINAL FORM",
   "FD1E=0ARABIC LIGATURE JEEM WITH YEH FINAL FORM;2KHAH WITH ALEF MAKSURA FINAL FORM",
   "FD20=0ARABIC LIGATURE KHAH WITH YEH FINAL FORM;2SAD WITH ALEF MAKSURA FINAL FORM",
   "FD22=0ARABIC LIGATURE SAD WITH YEH FINAL FORM;2DAD WITH ALEF MAKSURA FINAL FORM",
   "FD24=0ARABIC LIGATURE DAD WITH YEH FINAL FORM;2SHEEN WITH JEEM FINAL FORM;4HAH FINAL FORM",
   "FD27=0ARABIC LIGATURE SHEEN WITH KHAH FINAL FORM;4MEEM FINAL FORM;4REH FINAL FORM",
   "FD2A=0ARABIC LIGATURE SEEN WITH REH FINAL FORM;2SAD WITH REH FINAL FORM",
   "FD2C=0ARABIC LIGATURE DAD WITH REH FINAL FORM;2SHEEN WITH JEEM INITIAL FORM;4HAH INITIAL FORM",
   "FD2F=0ARABIC LIGATURE SHEEN WITH KHAH INITIAL FORM;4MEEM INITIAL FORM",
   "FD31=0ARABIC LIGATURE SEEN WITH HEH INITIAL FORM;2SHEEN WITH HEH INITIAL FORM",
   "FD33=0ARABIC LIGATURE TAH WITH MEEM INITIAL FORM;2SEEN WITH JEEM MEDIAL FORM;4HAH MEDIAL FORM",
   "FD36=0ARABIC LIGATURE SEEN WITH KHAH MEDIAL FORM;2SHEEN WITH JEEM MEDIAL FORM",
   "FD38=0ARABIC LIGATURE SHEEN WITH HAH MEDIAL FORM;4KHAH MEDIAL FORM;2TAH WITH MEEM MEDIAL FORM",
   "FD3B=0ARABIC LIGATURE ZAH WITH MEEM MEDIAL FORM;2ALEF WITH FATHATAN FINAL FORM;5ISOLATED FORM",
   "FD3E=0ORNATE LEFT PARENTHESIS;1RIGHT PARENTHESIS;0ARABIC LIGATURE RAHIMAHU ALLAAH",
   "FD41=0ARABIC LIGATURE RADI ALLAAHU ANH;4ANHAA;4ANHUM;4ANHUMAA;4ANHUNNA",
   "FD46=0ARABIC LIGATURE SALLALLAAHU ALAYHI WA-AALIH;2ALAYHI AS-SALAAM;2ALAYHIM AS-SALAAM",
   "FD49=0ARABIC LIGATURE ALAYHIMAA AS-SALAAM;2ALAYHI AS-SALAATU WAS-SALAAM;2QUDDISA SIRRAH",
   "FD4C=0ARABIC LIGATURE SALLALLAHU ALAYHI WAAALIHEE WA-SALLAM;2ALAYHAA AS-SALAAM",
   "FD4E=0ARABIC LIGATURE TABAARAKA WA-TAAALAA;2RAHIMAHUM ALLAAH",
   "FD50=0ARABIC LIGATURE TEH WITH JEEM WITH MEEM INITIAL FORM;4HAH WITH JEEM FINAL FORM",
   "FD52=0ARABIC LIGATURE TEH WITH HAH WITH JEEM INITIAL FORM;6MEEM INITIAL FORM",
   "FD54=0ARABIC LIGATURE TEH WITH KHAH WITH MEEM INITIAL FORM;4MEEM WITH JEEM INITIAL FORM",
   "FD56=0ARABIC LIGATURE TEH WITH MEEM WITH HAH INITIAL FORM;6KHAH INITIAL FORM",
   "FD58=0ARABIC LIGATURE JEEM WITH MEEM WITH HAH FINAL FORM;7INITIAL FORM",
   "FD5A=0ARABIC LIGATURE HAH WITH MEEM WITH YEH FINAL FORM;6ALEF MAKSURA FINAL FORM",
   "FD5C=0ARABIC LIGATURE SEEN WITH HAH WITH JEEM INITIAL FORM;4JEEM WITH HAH INITIAL FORM",
   "FD5E=0ARABIC LIGATURE SEEN WITH JEEM WITH ALEF MAKSURA FINAL FORM;4MEEM WITH HAH FINAL FORM",
   "FD60=0ARABIC LIGATURE SEEN WITH MEEM WITH HAH INITIAL FORM;6JEEM INITIAL FORM",
   "FD62=0ARABIC LIGATURE SEEN WITH MEEM WITH MEEM FINAL FORM;7INITIAL FORM",
   "FD64=0ARABIC LIGATURE SAD WITH HAH WITH HAH FINAL FORM;7INITIAL FORM",
   "FD66=0ARABIC LIGATURE SAD WITH MEEM WITH MEEM FINAL FORM;2SHEEN WITH HAH WITH MEEM FINAL FORM",
   "FD68=0ARABIC LIGATURE SHEEN WITH HAH WITH MEEM INITIAL FORM;4JEEM WITH YEH FINAL FORM",
   "FD6A=0ARABIC LIGATURE SHEEN WITH MEEM WITH KHAH FINAL FORM;7INITIAL FORM;6MEEM FINAL FORM",
   "FD6D=0ARABIC LIGATURE SHEEN WITH MEEM WITH MEEM INITIAL FORM",
   "FD6E=0ARABIC LIGATURE DAD WITH HAH WITH ALEF MAKSURA FINAL FORM;4KHAH WITH MEEM FINAL FORM",
   "FD70=0ARABIC LIGATURE DAD WITH KHAH WITH MEEM INITIAL FORM;2TAH WITH MEEM WITH HAH FINAL FORM",
   "FD72=0ARABIC LIGATURE TAH WITH MEEM WITH HAH INITIAL FORM;6MEEM INITIAL FORM;6YEH FINAL FORM",
   "FD75=0ARABIC LIGATURE AIN WITH JEEM WITH MEEM FINAL FORM;4MEEM WITH MEEM FINAL FORM",
   "FD77=0ARABIC LIGATURE AIN WITH MEEM WITH MEEM INITIAL FORM;6ALEF MAKSURA FINAL FORM",
   "FD79=0ARABIC LIGATURE GHAIN WITH MEEM WITH MEEM FINAL FORM;6YEH FINAL FORM",
   "FD7B=0ARABIC LIGATURE GHAIN WITH MEEM WITH ALEF MAKSURA FINAL FORM",
   "FD7C=0ARABIC LIGATURE FEH WITH KHAH WITH MEEM FINAL FORM;7INITIAL FORM",
   "FD7E=0ARABIC LIGATURE QAF WITH MEEM WITH HAH FINAL FORM;6MEEM FINAL FORM",
   "FD80=0ARABIC LIGATURE LAM WITH HAH WITH MEEM FINAL FORM;6YEH FINAL FORM",
   "FD82=0ARABIC LIGATURE LAM WITH HAH WITH ALEF MAKSURA FINAL FORM;4JEEM WITH JEEM INITIAL FORM",
   "FD84=0ARABIC LIGATURE LAM WITH JEEM WITH JEEM FINAL FORM;4KHAH WITH MEEM FINAL FORM",
   "FD86=0ARABIC LIGATURE LAM WITH KHAH WITH MEEM INITIAL FORM;4MEEM WITH HAH FINAL FORM",
   "FD88=0ARABIC LIGATURE LAM WITH MEEM WITH HAH INITIAL FORM",
   "FD89=0ARABIC LIGATURE MEEM WITH HAH WITH JEEM INITIAL FORM;6MEEM INITIAL FORM;6YEH FINAL FORM",
   "FD8C=0ARABIC LIGATURE MEEM WITH JEEM WITH HAH INITIAL FORM;6MEEM INITIAL FORM",
   "FD8E=0ARABIC LIGATURE MEEM WITH KHAH WITH JEEM INITIAL FORM;6MEEM INITIAL FORM",
   "FD92=0ARABIC LIGATURE MEEM WITH JEEM WITH KHAH INITIAL FORM",
   "FD93=0ARABIC LIGATURE HEH WITH MEEM WITH JEEM INITIAL FORM;6MEEM INITIAL FORM",
   "FD95=0ARABIC LIGATURE NOON WITH HAH WITH MEEM INITIAL FORM;6ALEF MAKSURA FINAL FORM",
   "FD97=0ARABIC LIGATURE NOON WITH JEEM WITH MEEM FINAL FORM;7INITIAL FORM",
   "FD99=0ARABIC LIGATURE NOON WITH JEEM WITH ALEF MAKSURA FINAL FORM;4MEEM WITH YEH FINAL FORM",
   "FD9B=0ARABIC LIGATURE NOON WITH MEEM WITH ALEF MAKSURA FINAL FORM",
   "FD9C=0ARABIC LIGATURE YEH WITH MEEM WITH MEEM FINAL FORM;7INITIAL FORM",
   "FD9E=0ARABIC LIGATURE BEH WITH KHAH WITH YEH FINAL FORM;2TEH WITH JEEM WITH YEH FINAL FORM",
   "FDA0=0ARABIC LIGATURE TEH WITH JEEM WITH ALEF MAKSURA FINAL FORM;4KHAH WITH YEH FINAL FORM",
   "FDA2=0ARABIC LIGATURE TEH WITH KHAH WITH ALEF MAKSURA FINAL FORM;4MEEM WITH YEH FINAL FORM",
   "FDA4=0ARABIC LIGATURE TEH WITH MEEM WITH ALEF MAKSURA FINAL FORM",
   "FDA5=0ARABIC LIGATURE JEEM WITH MEEM WITH YEH FINAL FORM;4HAH WITH ALEF MAKSURA FINAL FORM",
   "FDA7=0ARABIC LIGATURE JEEM WITH MEEM WITH ALEF MAKSURA FINAL FORM",
   "FDA8=0ARABIC LIGATURE SEEN WITH KHAH WITH ALEF MAKSURA FINAL FORM",
   "FDA9=0ARABIC LIGATURE SAD WITH HAH WITH YEH FINAL FORM;2SHEEN WITH HAH WITH YEH FINAL FORM",
   "FDAB=0ARABIC LIGATURE DAD WITH HAH WITH YEH FINAL FORM;2LAM WITH JEEM WITH YEH FINAL FORM",
   "FDAD=0ARABIC LIGATURE LAM WITH MEEM WITH YEH FINAL FORM;2YEH WITH HAH WITH YEH FINAL FORM",
   "FDAF=0ARABIC LIGATURE YEH WITH JEEM WITH YEH FINAL FORM;4MEEM WITH YEH FINAL FORM",
   "FDB1=0ARABIC LIGATURE MEEM WITH MEEM WITH YEH FINAL FORM;2QAF WITH MEEM WITH YEH FINAL FORM",
   "FDB3=0ARABIC LIGATURE NOON WITH HAH WITH YEH FINAL FORM;2QAF WITH MEEM WITH HAH INITIAL FORM",
   "FDB5=0ARABIC LIGATURE LAM WITH HAH WITH MEEM INITIAL FORM;2AIN WITH MEEM WITH YEH FINAL FORM",
   "FDB7=0ARABIC LIGATURE KAF WITH MEEM WITH YEH FINAL FORM;2NOON WITH JEEM WITH HAH INITIAL FORM",
   "FDB9=0ARABIC LIGATURE MEEM WITH KHAH WITH YEH FINAL FORM",
   "FDBA=0ARABIC LIGATURE LAM WITH JEEM WITH MEEM INITIAL FORM",
   "FDBB=0ARABIC LIGATURE KAF WITH MEEM WITH MEEM FINAL FORM;2LAM WITH JEEM WITH MEEM FINAL FORM",
   "FDBD=0ARABIC LIGATURE NOON WITH JEEM WITH HAH FINAL FORM;2JEEM WITH HAH WITH YEH FINAL FORM",
   "FDBF=0ARABIC LIGATURE HAH WITH JEEM WITH YEH FINAL FORM;2MEEM WITH JEEM WITH YEH FINAL FORM",
   "FDC1=0ARABIC LIGATURE FEH WITH MEEM WITH YEH FINAL FORM;2BEH WITH HAH WITH YEH FINAL FORM",
   "FDC3=0ARABIC LIGATURE KAF WITH MEEM WITH MEEM INITIAL FORM",
   "FDC4=0ARABIC LIGATURE AIN WITH JEEM WITH MEEM INITIAL FORM",
   "FDC5=0ARABIC LIGATURE SAD WITH MEEM WITH MEEM INITIAL FORM",
   "FDC6=0ARABIC LIGATURE SEEN WITH KHAH WITH YEH FINAL FORM;2NOON WITH JEEM WITH YEH FINAL FORM",
   "FDCF=0ARABIC LIGATURE SALAAMUHU ALAYNAA;FDF0=2SALLA USED AS KORANIC STOP SIGN ISOLATED FORM",
   "FDF1=0ARABIC LIGATURE QALA USED AS KORANIC STOP SIGN ISOLATED FORM;2ALLAH ISOLATED FORM",
   "FDF3=0ARABIC LIGATURE AKBAR ISOLATED FORM;2MOHAMMAD ISOLATED FORM;2SALAM ISOLATED FORM",
   "FDF6=0ARABIC LIGATURE RASOUL ISOLATED FORM;2ALAYHE ISOLATED FORM;2WASALLAM ISOLATED FORM",
   "FDF9=0ARABIC LIGATURE SALLA ISOLATED FORM;2SALLALLAHOU ALAYHE WASALLAM;2JALLAJALALOUHOU",
   "FDFC=0RIAL SIGN;0ARABIC LIGATURE BISMILLAH AR-RAHMAN AR-RAHEEM;2SUBHAANAHU WA TAAALAA",
   "FDFF=0ARABIC LIGATURE AZZA WA JALL;0VARIATION SELECTOR-1;1SELECTOR-2;1SELECTOR-3;1SELECTOR-4",
   "FE04=0VARIATION SELECTOR-5;1SELECTOR-6;1SELECTOR-7;1SELECTOR-8;1SELECTOR-9;1SELECTOR-10",
   "FE0A=0VARIATION SELECTOR-11;1SELECTOR-12;1SELECTOR-13;1SELECTOR-14;1SELECTOR-15;1SELECTOR-16",
   "FE10=0PRESENTATION FORM FOR VERTICAL COMMA;4IDEOGRAPHIC COMMA;5FULL STOP;4COLON;4SEMICOLON",
   "FE15=0PRESENTATION FORM FOR VERTICAL EXCLAMATION MARK;4QUESTION MARK",
   "FE17=0PRESENTATION FORM FOR VERTICAL LEFT WHITE LENTICULAR BRACKET",
   "FE18=0PRESENTATION FORM FOR VERTICAL RIGHT WHITE LENTICULAR BRAKCET;4HORIZONTAL ELLIPSIS",
   "FE20=0COMBINING LIGATURE LEFT HALF;2RIGHT HALF;1DOUBLE TILDE LEFT HALF;3RIGHT HALF",
   "FE24=0COMBINING MACRON LEFT HALF;2RIGHT HALF;1CONJOINING MACRON;1LIGATURE LEFT HALF BELOW",
   "FE28=0COMBINING LIGATURE RIGHT HALF BELOW;1TILDE LEFT HALF BELOW;2RIGHT HALF BELOW",
   "FE2B=0COMBINING MACRON LEFT HALF BELOW;2RIGHT HALF BELOW;1CONJOINING MACRON BELOW",
   "FE2E=0COMBINING CYRILLIC TITLO LEFT HALF;3RIGHT HALF",
   "FE30=0PRESENTATION FORM FOR VERTICAL TWO DOT LEADER;4EM DASH;4EN DASH;4LOW LINE",
   "FE34=0PRESENTATION FORM FOR VERTICAL WAVY LOW LINE;4LEFT PARENTHESIS;4RIGHT PARENTHESIS",
   "FE37=0PRESENTATION FORM FOR VERTICAL LEFT CURLY BRACKET;4RIGHT CURLY BRACKET",
   "FE39=0PRESENTATION FORM FOR VERTICAL LEFT TORTOISE SHELL BRACKET",
   "FE3A=0PRESENTATION FORM FOR VERTICAL RIGHT TORTOISE SHELL BRACKET",
   "FE3B=0PRESENTATION FORM FOR VERTICAL LEFT BLACK LENTICULAR BRACKET",
   "FE3C=0PRESENTATION FORM FOR VERTICAL RIGHT BLACK LENTICULAR BRACKET",
   "FE3D=0PRESENTATION FORM FOR VERTICAL LEFT DOUBLE ANGLE BRACKET;4RIGHT DOUBLE ANGLE BRACKET",
   "FE3F=0PRESENTATION FORM FOR VERTICAL LEFT ANGLE BRACKET;4RIGHT ANGLE BRACKET",
   "FE41=0PRESENTATION FORM FOR VERTICAL LEFT CORNER BRACKET;4RIGHT CORNER BRACKET",
   "FE43=0PRESENTATION FORM FOR VERTICAL LEFT WHITE CORNER BRACKET;4RIGHT WHITE CORNER BRACKET",
   "FE45=0SESAME DOT;0WHITE SESAME DOT;0PRESENTATION FORM FOR VERTICAL LEFT SQUARE BRACKET",
   "FE48=0PRESENTATION FORM FOR VERTICAL RIGHT SQUARE BRACKET;0DASHED OVERLINE",
   "FE4A=0CENTRELINE OVERLINE;0WAVY OVERLINE;0DOUBLE WAVY OVERLINE;0DASHED LOW LINE",
   "FE4E=0CENTRELINE LOW LINE;0WAVY LOW LINE;0SMALL COMMA;1IDEOGRAPHIC COMMA;1FULL STOP",
   "FE54=0SMALL SEMICOLON;1COLON;1QUESTION MARK;1EXCLAMATION MARK;1EM DASH;1LEFT PARENTHESIS",
   "FE5A=0SMALL RIGHT PARENTHESIS;1LEFT CURLY BRACKET;1RIGHT CURLY BRACKET",
   "FE5D=0SMALL LEFT TORTOISE SHELL BRACKET;1RIGHT TORTOISE SHELL BRACKET;1NUMBER SIGN;1AMPERSAND",
   "FE61=0SMALL ASTERISK;1PLUS SIGN;1HYPHEN-MINUS;1LESS-THAN SIGN;1GREATER-THAN SIGN;1EQUALS SIGN",
   "FE68=0SMALL REVERSE SOLIDUS;1DOLLAR SIGN;1PERCENT SIGN;1COMMERCIAL AT",
   "FE70=0ARABIC FATHATAN ISOLATED FORM;1TATWEEL WITH FATHATAN ABOVE;1DAMMATAN ISOLATED FORM",
   "FE73=0ARABIC TAIL FRAGMENT;1KASRATAN ISOLATED FORM;FE76=1FATHA ISOLATED FORM;2MEDIAL FORM",
   "FE78=0ARABIC DAMMA ISOLATED FORM;2MEDIAL FORM;1KASRA ISOLATED FORM;2MEDIAL FORM",
   "FE7C=0ARABIC SHADDA ISOLATED FORM;2MEDIAL FORM;1SUKUN ISOLATED FORM;2MEDIAL FORM",
   "FE80=0ARABIC LETTER HAMZA ISOLATED FORM;2ALEF WITH MADDA ABOVE ISOLATED FORM;6FINAL FORM",
   "FE83=0ARABIC LETTER ALEF WITH HAMZA ABOVE ISOLATED FORM;6FINAL FORM",
   "FE85=0ARABIC LETTER WAW WITH HAMZA ABOVE ISOLATED FORM;6FINAL FORM",
   "FE87=0ARABIC LETTER ALEF WITH HAMZA BELOW ISOLATED FORM;6FINAL FORM",
   "FE89=0ARABIC LETTER YEH WITH HAMZA ABOVE ISOLATED FORM;6FINAL FORM;6INITIAL FORM;6MEDIAL FORM",
   "FE8D=0ARABIC LETTER ALEF ISOLATED FORM;3FINAL FORM;2BEH ISOLATED FORM;3FINAL FORM",
   "FE91=0ARABIC LETTER BEH INITIAL FORM;3MEDIAL FORM;2TEH MARBUTA ISOLATED FORM;4FINAL FORM",
   "FE95=0ARABIC LETTER TEH ISOLATED FORM;3FINAL FORM;3INITIAL FORM;3MEDIAL FORM",
   "FE99=0ARABIC LETTER THEH ISOLATED FORM;3FINAL FORM;3INITIAL FORM;3MEDIAL FORM",
   "FE9D=0ARABIC LETTER JEEM ISOLATED FORM;3FINAL FORM;3INITIAL FORM;3MEDIAL FORM",
   "FEA1=0ARABIC LETTER HAH ISOLATED FORM;3FINAL FORM;3INITIAL FORM;3MEDIAL FORM",
   "FEA5=0ARABIC LETTER KHAH ISOLATED FORM;3FINAL FORM;3INITIAL FORM;3MEDIAL FORM",
   "FEA9=0ARABIC LETTER DAL ISOLATED FORM;3FINAL FORM;2THAL ISOLATED FORM;3FINAL FORM",
   "FEAD=0ARABIC LETTER REH ISOLATED FORM;3FINAL FORM;2ZAIN ISOLATED FORM;3FINAL FORM",
   "FEB1=0ARABIC LETTER SEEN ISOLATED FORM;3FINAL FORM;3INITIAL FORM;3MEDIAL FORM",
   "FEB5=0ARABIC LETTER SHEEN ISOLATED FORM;3FINAL FORM;3INITIAL FORM;3MEDIAL FORM",
   "FEB9=0ARABIC LETTER SAD ISOLATED FORM;3FINAL FORM;3INITIAL FORM;3MEDIAL FORM",
   "FEBD=0ARABIC LETTER DAD ISOLATED FORM;3FINAL FORM;3INITIAL FORM;3MEDIAL FORM",
   "FEC1=0ARABIC LETTER TAH ISOLATED FORM;3FINAL FORM;3INITIAL FORM;3MEDIAL FORM",
   "FEC5=0ARABIC LETTER ZAH ISOLATED FORM;3FINAL FORM;3INITIAL FORM;3MEDIAL FORM",
   "FEC9=0ARABIC LETTER AIN ISOLATED FORM;3FINAL FORM;3INITIAL FORM;3MEDIAL FORM",
   "FECD=0ARABIC LETTER GHAIN ISOLATED FORM;3FINAL FORM;3INITIAL FORM;3MEDIAL FORM",
   "FED1=0ARABIC LETTER FEH ISOLATED FORM;3FINAL FORM;3INITIAL FORM;3MEDIAL FORM",
   "FED5=0ARABIC LETTER QAF ISOLATED FORM;3FINAL FORM;3INITIAL FORM;3MEDIAL FORM",
   "FED9=0ARABIC LETTER KAF ISOLATED FORM;3FINAL FORM;3INITIAL FORM;3MEDIAL FORM",
   "FEDD=0ARABIC LETTER LAM ISOLATED FORM;3FINAL FORM;3INITIAL FORM;3MEDIAL FORM",
   "FEE1=0ARABIC LETTER MEEM ISOLATED FORM;3FINAL FORM;3INITIAL FORM;3MEDIAL FORM",
   "FEE5=0ARABIC LETTER NOON ISOLATED FORM;3FINAL FORM;3INITIAL FORM;3MEDIAL FORM",
   "FEE9=0ARABIC LETTER HEH ISOLATED FORM;3FINAL FORM;3INITIAL FORM;3MEDIAL FORM",
   "FEED=0ARABIC LETTER WAW ISOLATED FORM;3FINAL FORM;2ALEF MAKSURA ISOLATED FORM;4FINAL FORM",
   "FEF1=0ARABIC LETTER YEH ISOLATED FORM;3FINAL FORM;3INITIAL FORM;3MEDIAL FORM",
   "FEF5=0ARABIC LIGATURE LAM WITH ALEF WITH MADDA ABOVE ISOLATED FORM;8FINAL FORM",
   "FEF7=0ARABIC LIGATURE LAM WITH ALEF WITH HAMZA ABOVE ISOLATED FORM;8FINAL FORM",
   "FEF9=0ARABIC LIGATURE LAM WITH ALEF WITH HAMZA BELOW ISOLATED FORM;8FINAL FORM;5ISOLATED FORM",
   "FEFC=0ARABIC LIGATURE LAM WITH ALEF FINAL FORM;FEFF=0ZERO WIDTH NO-BREAK SPACE",
   "FF01=0FULLWIDTH EXCLAMATION MARK;1QUOTATION MARK;1NUMBER SIGN;1DOLLAR SIGN;1PERCENT SIGN",
   "FF06=0FULLWIDTH AMPERSAND;1APOSTROPHE;1LEFT PARENTHESIS;1RIGHT PARENTHESIS;1ASTERISK",
   "FF0B=0FULLWIDTH PLUS SIGN;1COMMA;1HYPHEN-MINUS;1FULL STOP;1SOLIDUS;1DIGIT ZERO;2ONE;2TWO",
   "FF13=0FULLWIDTH DIGIT THREE;2FOUR;2FIVE;2SIX;2SEVEN;2EIGHT;2NINE;1COLON;1SEMICOLON",
   "FF1C=0FULLWIDTH LESS-THAN SIGN;1EQUALS SIGN;1GREATER-THAN SIGN;1QUESTION MARK;1COMMERCIAL AT",
   "FF21=0FULLWIDTH LATIN CAPITAL LETTER A;4B;4C;4D;4E;4F;4G;4H;4I;4J;4K;4L;4M;4N;4O;4P;4Q;4R;4S",
   "FF34=0FULLWIDTH LATIN CAPITAL LETTER T;4U;4V;4W;4X;4Y;4Z;1LEFT SQUARE BRACKET",
   "FF3C=0FULLWIDTH REVERSE SOLIDUS;1RIGHT SQUARE BRACKET;1CIRCUMFLEX ACCENT;1LOW LINE",
   "FF40=0FULLWIDTH GRAVE ACCENT;1LATIN SMALL LETTER A;4B;4C;4D;4E;4F;4G;4H;4I;4J;4K;4L;4M;4N;4O",
   "FF50=0FULLWIDTH LATIN SMALL LETTER P;4Q;4R;4S;4T;4U;4V;4W;4X;4Y;4Z;1LEFT CURLY BRACKET",
   "FF5C=0FULLWIDTH VERTICAL LINE;1RIGHT CURLY BRACKET;1TILDE;1LEFT WHITE PARENTHESIS",
   "FF60=0FULLWIDTH RIGHT WHITE PARENTHESIS;0HALFWIDTH IDEOGRAPHIC FULL STOP;1LEFT CORNER BRACKET",
   "FF63=0HALFWIDTH RIGHT CORNER BRACKET;1IDEOGRAPHIC COMMA;1KATAKANA MIDDLE DOT;2LETTER WO",
   "FF67=0HALFWIDTH KATAKANA LETTER SMALL A;4I;4U;4E;4O;4YA;4YU;4YO;4TU",
   "FF70=0HALFWIDTH KATAKANA-HIRAGANA PROLONGED SOUND MARK;1KATAKANA LETTER A;3I;3U;3E;3O;3KA;3KI",
   "FF78=0HALFWIDTH KATAKANA LETTER KU;3KE;3KO;3SA;3SI;3SU;3SE;3SO;3TA;3TI;3TU;3TE;3TO;3NA;3NI",
   "FF87=0HALFWIDTH KATAKANA LETTER NU;3NE;3NO;3HA;3HI;3HU;3HE;3HO;3MA;3MI;3MU;3ME;3MO;3YA;3YU",
   "FF96=0HALFWIDTH KATAKANA LETTER YO;3RA;3RI;3RU;3RE;3RO;3WA;3N;2VOICED SOUND MARK",
   "FF9F=0HALFWIDTH KATAKANA SEMI-VOICED SOUND MARK;1HANGUL FILLER;2LETTER KIYEOK;3SSANGKIYEOK",
   "FFA3=0HALFWIDTH HANGUL LETTER KIYEOK-SIOS;3NIEUN;3NIEUN-CIEUC;3NIEUN-HIEUH;3TIKEUT",
   "FFA8=0HALFWIDTH HANGUL LETTER SSANGTIKEUT;3RIEUL;3RIEUL-KIYEOK;3RIEUL-MIEUM;3RIEUL-PIEUP",
   "FFAD=0HALFWIDTH HANGUL LETTER RIEUL-SIOS;3RIEUL-THIEUTH;3RIEUL-PHIEUPH;3RIEUL-HIEUH;3MIEUM",
   "FFB2=0HALFWIDTH HANGUL LETTER PIEUP;3SSANGPIEUP;3PIEUP-SIOS;3SIOS;3SSANGSIOS;3IEUNG;3CIEUC",
   "FFB9=0HALFWIDTH HANGUL LETTER SSANGCIEUC;3CHIEUCH;3KHIEUKH;3THIEUTH;3PHIEUPH;3HIEUH;FFC2=3A",
   "FFC3=0HALFWIDTH HANGUL LETTER AE;3YA;3YAE;3EO;3E;FFCA=3YEO;3YE;3O;3WA;3WAE;3OE;FFD2=3YO;3U",
   "FFD4=0HALFWIDTH HANGUL LETTER WEO;3WE;3WI;3YU;FFDA=3EU;3YI;3I;FFE0=0FULLWIDTH CENT SIGN",
   "FFE1=0FULLWIDTH POUND SIGN;1NOT SIGN;1MACRON;1BROKEN BAR;1YEN SIGN;1WON SIGN",
   "FFE8=0HALFWIDTH FORMS LIGHT VERTICAL;1LEFTWARDS ARROW;1UPWARDS ARROW;1RIGHTWARDS ARROW",
   "FFEC=0HALFWIDTH DOWNWARDS ARROW;1BLACK SQUARE;1WHITE CIRCLE",
   "FFF9=0INTERLINEAR ANNOTATION ANCHOR;2SEPARATOR;2TERMINATOR;0OBJECT REPLACEMENT CHARACTER",
   "FFFD=0REPLACEMENT CHARACTER"]

end Signpost.Text.CharacterName
