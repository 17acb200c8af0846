import Stencil.Literal.CharacterName.Block

/-!
# Names of characters: hieroglyphs and syllabaries
-/

namespace Stencil.CharacterName

/-- Hieroglyphs and syllabaries, from U+13000 on. -/
def hieroglyphs : List Block := [
  ⟨0x13000, "EGYPTIAN HIEROGLYPH A0", ["01;02;03;04;05;05A;06;06A;06B;07;08;09;10;11;12;13;14",
    "14A;15;16;17;17A;18;19;20;21;22;23;24;25;26;27;28;29;30;31;32;32A;33;34;35;36;37;38;39;40",
    "40A;41;42;42A;43;43A;44;45;45A;46;47;48;49;50;51;52;53;54;55;56;57;58;59;60;61;62;63;64;65",
    "66;67;68;69;70"]⟩,
  ⟨0x13050, "EGYPTIAN HIEROGLYPH B00", ["1;2;3;4;5;5A;6;7;8;9"]⟩,
  ⟨0x1305a, "EGYPTIAN HIEROGLYPH C0", ["01;02;02A;02B;02C;03;04;05;06;07;08;09;10;10A;11;12;13",
    "14;15;16;17;18;19;20;21;22;23;24"]⟩,
  ⟨0x13076, "EGYPTIAN HIEROGLYPH D0", ["01;02;03;04;05;06;07;08;08A;09;10;11;12;13;14;15;16;17",
    "18;19;20;21;22;23;24;25;26;27;27A;28;29;30;31;31A;32;33;34;34A;35;36;37;38;39;40;41;42;43",
    "44;45;46;46A;47;48;48A;49;50;50A;50B;50C;50D;50E;50F;50G;50H;50I;51;52;52A;53;54;54A;55;56",
    "57;58;59;60;61;62;63;64;65;66;67;67A;67B;67C;67D;67E;67F;67G;67H"]⟩,
  ⟨0x130d2, "EGYPTIAN HIEROGLYPH E0", ["01;02;03;04;05;06;07;08;08A;09;09A;10;11;12;13;14;15;16",
    "16A;17;17A;18;19;20;20A;21;22;23;24;25;26;27;28;28A;29;30;31;32;33;34;34A;36;37;38"]⟩,
  ⟨0x130fe, "EGYPTIAN HIEROGLYPH F0", ["01;01A;02;03;04;05;06;07;08;09;10;11;12;13;13A;14;15;16",
    "17;18;19;20;21;21A;22;23;24;25;26;27;28;29;30;31;31A;32;33;34;35;36;37;37A;38;38A;39;40;41",
    "42;43;44;45;45A;46;46A;47;47A;48;49;50;51;51A;51B;51C;52;53"]⟩,
  ⟨0x1313f, "EGYPTIAN HIEROGLYPH G0", ["01;02;03;04;05;06;06A;07;07A;07B;08;09;10;11;11A;12;13",
    "14;15;16;17;18;19;20;20A;21;22;23;24;25;26;26A;27;28;29;30;31;32;33;34;35;36;36A;37;37A;38",
    "39;40;41;42;43;43A;44;45;45A;46;47;48;49;50;51;52;53;54"]⟩,
  ⟨0x1317f, "EGYPTIAN HIEROGLYPH H00", ["1;2;3;4;5;6;6A;7;8"]⟩,
  ⟨0x13188, "EGYPTIAN HIEROGLYPH I0", ["01;02;03;04;05;05A;06;07;08;09;09A;10;10A;11;11A;12;13",
    "14;15"]⟩,
  ⟨0x1319b, "EGYPTIAN HIEROGLYPH K00", ["1;2;3;4;5;6;7;8"]⟩,
  ⟨0x131a3, "EGYPTIAN HIEROGLYPH L00", ["1;2;2A;3;4;5;6;6A;7;8"]⟩,
  ⟨0x131ad, "EGYPTIAN HIEROGLYPH M0", ["01;01A;01B;02;03;03A;04;05;06;07;08;09;10;10A;11;12;12A",
    "12B;12C;12D;12E;12F;12G;12H;13;14;15;15A;16;16A;17;17A;18;19;20;21;22;22A;23;24;24A;25;26",
    "27;28;28A;29;30;31;31A;32;33;33A;33B;34;35;36;37;38;39;40;40A;41;42;43;44"]⟩,
  ⟨0x131ef, "EGYPTIAN HIEROGLYPH N0", ["01;02;03;04;05;06;07;08;09;10;11;12;13;14;15;16;17;18",
    "18A;18B;19;20;21;22;23;24;25;25A;26;27;28;29;30;31;32;33;33A;34;34A;35;35A;36;37;37A;38;39",
    "40;41;42"]⟩,
  ⟨0x13220, "EGYPTIAN HIEROGLYPH NL0", ["01;02;03;04;05;05A;06;07;08;09;10;11;12;13;14;15;16;17",
    "17A;18;19;20"]⟩,
  ⟨0x13236, "EGYPTIAN HIEROGLYPH NU0", ["01;02;03;04;05;06;07;08;09;10;10A;11;11A;12;13;14;15",
    "16;17;18;18A;19;20;21;22;22A"]⟩,
  ⟨0x13250, "EGYPTIAN HIEROGLYPH O0", ["01;01A;02;03;04;05;05A;06;06A;06B;06C;06D;06E;06F;07;08",
    "09;10;10A;10B;10C;11;12;13;14;15;16;17;18;19;19A;20;20A;21;22;23;24;24A;25;25A;26;27;28;29",
    "29A;30;30A;31;32;33;33A;34;35;36;36A;36B;36C;36D;37;38;39;40;41;42;43;44;45;46;47;48;49;50",
    "50A;50B;51"]⟩,
  ⟨0x1329b, "EGYPTIAN HIEROGLYPH P0", ["01;01A;02;03;03A;04;05;06;07;08;09;10;11"]⟩,
  ⟨0x132a8, "EGYPTIAN HIEROGLYPH Q00", ["1;2;3;4;5;6;7"]⟩,
  ⟨0x132af, "EGYPTIAN HIEROGLYPH R0", ["01;02;02A;03;03A;03B;04;05;06;07;08;09;10;10A;11;12;13",
    "14;15;16;16A;17;18;19;20;21;22;23;24;25;26;27;28;29"]⟩,
  ⟨0x132d1, "EGYPTIAN HIEROGLYPH S0", ["01;02;02A;03;04;05;06;06A;07;08;09;10;11;12;13;14;14A",
    "14B;15;16;17;17A;18;19;20;21;22;23;24;25;26;26A;26B;27;28;29;30;31;32;33;34;35;35A;36;37;38",
    "39;40;41;42;43;44;45;46"]⟩,
  ⟨0x13307, "EGYPTIAN HIEROGLYPH T0", ["01;02;03;03A;04;05;06;07;07A;08;08A;09;09A;10;11;11A;12",
    "13;14;15;16;16A;17;18;19;20;21;22;23;24;25;26;27;28;29;30;31;32;32A;33;33A;34;35;36"]⟩,
  ⟨0x13333, "EGYPTIAN HIEROGLYPH U0", ["01;02;03;04;05;06;06A;06B;07;08;09;10;11;12;13;14;15;16",
    "17;18;19;20;21;22;23;23A;24;25;26;27;28;29;29A;30;31;32;32A;33;34;35;36;37;38;39;40;41;42"]⟩,
  ⟨0x13362, "EGYPTIAN HIEROGLYPH V0", ["01;01A;01B;01C;01D;01E;01F;01G;01H;01I;02;02A;03;04;05",
    "06;07;07A;07B;08;09;10;11;11A;11B;11C;12;12A;12B;13;14;15;16;17;18;19;20;20A;20B;20C;20D",
    "20E;20F;20G;20H;20I;20J;20K;20L;21;22;23;23A;24;25;26;27;28;28A;29;29A;30;30A;31;31A;32;33",
    "33A;34;35;36;37;37A;38;39;40;40A"]⟩,
  ⟨0x133af, "EGYPTIAN HIEROGLYPH W0", ["01;02;03;03A;04;05;06;07;08;09;09A;10;10A;11;12;13;14",
    "14A;15;16;17;17A;18;18A;19;20;21;22;23;24;24A;25"]⟩,
  ⟨0x133cf, "EGYPTIAN HIEROGLYPH X00", ["1;2;3;4;4A;4B;5;6;6A;7;8;8A"]⟩,
  ⟨0x133db, "EGYPTIAN HIEROGLYPH Y00", ["1;1A;2;3;4;5;6;7;8"]⟩,
  ⟨0x133e4, "EGYPTIAN HIEROGLYPH Z00", ["1;2;2A;2B;2C;2D;3;3A;3B;4;4A;5;5A;6;7;8;9"]⟩,
  ⟨0x133f5, "EGYPTIAN HIEROGLYPH Z01", ["0;1;2;3;4;5;5A;5B;5C;5D;5E;5F;5G;5H;5I;6;6A;6B;6C;6D",
    "6E;6F;6G;6H"]⟩,
  ⟨0x1340d, "EGYPTIAN HIEROGLYPH AA0", ["01;02;03;04;05;06;07;07A;07B;08;09;10;11;12;13;14;15",
    "16;17;18;19;20;21;22;23;24;25;26;27;28;29;30;31;32"]⟩,
  ⟨0x1342f, "EGYPTIAN HIEROGLYPH ", [";VERTICAL JOINER;HORIZONTAL JOINER;INSERT AT TOP START",
    "INSERT AT BOTTOM START;INSERT AT TOP END;INSERT AT BOTTOM END;OVERLAY MIDDLE;BEGIN SEGMENT",
    "END SEGMENT"]⟩,
  ⟨0x14400, "ANATOLIAN HIEROGLYPH A0", ["01;02;03;04;05;06;07;08;09;10;10A;11;12;13;14;15;16;17",
    "18;19;20;21;22;23;24;25;26;26A;27;28;29;30;31;32;33;34;35;36;37;38;39;39A;40;41;41A;42;43",
    "44;45;45A;46;46A;46B;47;48;49;50;51;52;53;54;55;56;57;58;59;60;61;62;63;64;65;66;66A;66B",
    "66C;67;68;69;70;71;72;73;74;75;76;77;78;79;80;81;82;83;84;85;86;87;88;89;90;91;92;93;94;95",
    "96;97;97A;98;98A;99"]⟩,
  ⟨0x1446f, "ANATOLIAN HIEROGLYPH A1", ["00;00A;01;01A;02;02A;03;04;04A;04B;04C;05;05A;05B;06",
    "07;07A;07B;07C;08;09;10;10A;10B;11;12;13;14;15;15A;16;17;18;19;20;21;22;23;24;25;25A;26;27",
    "28;29;30;31;32;33;34;35;35A;36;37;38;39;40;41;42;43;44;45;46;47;48;49;50;51;52;53;54;55;56",
    "57;58;59;60;61;62;63;64;65;66;67;68;69;70;71;72;73;74;75;76;77;78;79;80;81;82;83;84;85;86",
    "87;88;89;90;91;92;93;94;95;96;97;98;99"]⟩,
  ⟨0x144e3, "ANATOLIAN HIEROGLYPH A2", ["00;01;02;02A;02B;03;04;05;06;07;07A;08;09;09A;10;11;12",
    "13;14;15;15A;16;16A;17;18;19;20;21;22;23;24;25;26;27;27A;28;29;30;31;32;33;34;35;36;37;38",
    "39;40;41;42;43;44;45;46;47;48;49;50;51;52;53;54;55;56;57;58;59;60;61;62;63;64;65;66;67;67A",
    "68;69;70;71;72;73;74;75;76;77;78;79;80;81;82;83;84;85;86;87;88;89;89A;90;91;92;93;94;94A;95",
    "96;97;98;99;99A"]⟩,
  ⟨0x14552, "ANATOLIAN HIEROGLYPH A3", ["00;01;02;03;04;05;06;07;08;09;09A;10;11;12;13;14;15;16",
    "17;18;19;20;21;22;23;24;25;26;27;28;29;29A;30;31;32A;32B;32C;33;34;35;36;36A;36B;36C;37;38",
    "39;40;41;42;43;44;45;46;47;48;49;50;51;52;53;54;55;56;57;58;59;59A;60;61;62;63;64;64A;65;66",
    "67;68;68A;69;70;71;71A;72;73;74;75;76;77;78;79;80;81;81A;82;83 RA OR RI;83A;84;85;86;86A;87",
    "88;89;90;91;92;93 EIGHT;94;95;96;97;98;99"]⟩,
  ⟨0x145c4, "ANATOLIAN HIEROGLYPH A4", ["00;01;02;03;04;05;06;07;08;09;10 BEGIN LOGOGRAM MARK",
    "10A END LOGOGRAM MARK;11;12;13;14;15;16;17;18;19;20;21;22;23;24;25;26;27;28;29;30;31;32;33",
    "34;35;36;37;38;39;40;41;42;43;44;45;46;47;48;49;50;50A;51;52;53;54;55;56;57;57A;58;59;60;61",
    "62;63;64;65;66;67;68;69;70;71;72;73;74;75;76;77;78;79;80;81;82;83;84;85;86;87;88;89;90;91",
    "92;93;94;95;96;97"]⟩,
  ⟨0x14629, "ANATOLIAN HIEROGLYPH A5", ["01;02;03;04;05;06;07;08;09;10;11;12;13;14;15;16;17;18",
    "19;20;21;22;23;24;25;26;27;28;29;30"]⟩,
  ⟨0x16800, "BAMUM LETTER PHASE-A ", ["NGKUE MFON;GBIEE FON;PON MFON PIPAEMGBIEE",
    "PON MFON PIPAEMBA;NAA MFON;SHUENSHUET;TITA MFON;NZA MFON;SHINDA PA NJI",
    "PON PA NJI PIPAEMGBIEE;PON PA NJI PIPAEMBA;MAEMBGBIEE;TU MAEMBA;NGANGU;MAEMVEUX;MANSUAE",
    "MVEUAENGAM;SEUNYAM;NTOQPEN;KEUKEUTNDA;NKINDI;SUU;NGKUENZEUM;LAPAQ;LET KUT;NTAP MFAA;MAEKEUP",
    "PASHAE;GHEUAERAE;PAMSHAE;MON NGGEUAET;NZUN MEUT;U YUQ NAE;GHEUAEGHEUAE;NTAP NTAA;SISA",
    "MGBASA;MEUNJOMNDEUQ;MOOMPUQ;KAFA;PA LEERAEWA;NDA LEERAEWA;PET;MAEMKPEN;NIKA;PUP;TUAEP;LUAEP",
    "SONJAM;TEUTEUWEN;MAENYI;KET;NDAANGGEUAET;KUOQ;MOOMEUT;SHUM;LOMMAE;FIRI;ROM;KPOQ;SOQ",
    "MAP PIEET;SHIRAE;NTAP;SHOQ NSHUT YUM;NYIT MONGKEUAEQ;PAARAE;NKAARAE;UNKNOWN;NGGEN;MAESI",
    "NJAM;MBANYI;NYET;TEUAEN;SOT;PAAM;NSHIEE;MAEM;NYI;KAQ;NSHA;VEE;LU;NEN;NAQ;MBAQ"]⟩,
  ⟨0x16857, "BAMUM LETTER PHASE-B ", ["NSHUET;TU MAEMGBIEE;SIEE;SET TU;LOM NTEUM;MBA MAELEE",
    "KIEEM;YEURAE;MBAARAE;KAM;PEESHI;YAFU LEERAEWA;LAM NSHUT NYAM;NTIEE SHEUOQ;NDU NJAA",
    "GHEUGHEUAEM;PIT;TU NSIEE;SHET NJAQ;SHEUAEQTU;MFON TEUAEQ;MBIT MBAAKET;NYI NTEUM;KEUPUQ",
    "GHEUGHEN;KEUYEUX;LAANAE;PARUM;VEUM;NGKINDI MVOP;NGGEU MBU;WUAET;SAKEUAE;TAAM;MEUQ;NGGUOQ",
    "NGGUOQ LARGE;MFIYAQ;SUE;MBEURI;MONTIEEN;NYAEMAE;PUNGAAM;MEUT NGGEET;FEUX;MBUOQ;FEE;KEUAEM",
    "MA NJEUAENA;MA NJUQA;LET;NGGAAM;NSEN;MA;KIQ;NGOM"]⟩,
  ⟨0x1688f, "BAMUM LETTER PHASE-C ", ["NGKUE MAEMBA;NZA;YUM;WANGKUOQ;NGGEN;NDEUAEREE;NGKAQ",
    "GHARAE;MBEEKEET;GBAYI;NYIR MKPARAQ MEUN;NTU MBIT;MBEUM;PIRIEEN;NDOMBU;MBAA CABBAGE-TREE",
    "KEUSHEUAEP;GHAP;KEUKAQ;YU MUOMAE;NZEUM;MBUE;NSEUAEN;MBIT;YEUQ;KPARAQ;KAA;SEUX;NDIDA;TAASHAE",
    "NJUEQ;TITA YUE;SUAET;NGGUAEN NYAM;VEUX;NANSANAQ;MA KEUAERI;NTAA;NGGUON;LAP;MBIRIEEN;MGBASAQ",
    "NTEUNGBA;TEUTEUX;NGGUM;FUE;NDEUT;NSA;NSHAQ;BUNG;VEUAEPEN;MBERAE;RU;NJAEM;LAM;TITUAEP",
    "NSUOT NGOM;NJEEEE;KET;NGGU;MAESI;MBUAEM;LU;KUT;NJAM;NGOM;WUP;NGGUEET;NSOM;NTEN;KUOP NKAARAE",
    "NSUN;NDAM;MA NSIEE;YAA;NDAP;SHUEQ;SETFON;MBI;MAEMBA;MBANYI;KEUSEUX;MBEUX;KEUM;MBAA PICKET",
    "YUWOQ;NJEUX;MIEE;MUAE;SHIQ;KEN LAW;KEN FATIGUE;NGAQ;NAQ;LIQ;PIN;PEN;TET"]⟩,
  ⟨0x168f1, "BAMUM LETTER PHASE-D ", ["MBUO;WAP;NJI;MFON;NJIEE;LIEE;NJEUT;NSHEE;NGGAAMAE;NYAM",
    "WUAEN;NGKUN;SHEE;NGKAP;KEUAETMEUN;TEUT;SHEUAE;NJAP;SUE;KET;YAEMMAE;KUOM;SAP;MFEUT;NDEUX",
    "MALEERI;MEUT;SEUAEQ;YEN;NJEUAEM;KEUOT MBUAE;NGKEURI;TU;GHAA;NGKYEE;FEUFEUAET;NDEE;MGBOFUM",
    "LEUAEP;NDON;MONI;MGBEUN;PUUT;MGBIEE;MFO;LUM;NSIEEP;MBAA;KWAET;NYET;TEUAEN;SOT;YUWOQ;KEUM",
    "RAEM;TEEEE;NGKEUAEQ;MFEUAE;NSIEET;KEUP;PIP;PEUTAE;NYUE;LET;NGGAAM;MFIEE;NGGWAEN;YUOM;PAP",
    "YUOP;NDAM;NTEUM;SUAE;KUN;NGGEUX;NGKIEE;TUOT;MEUN;KUQ;NSUM;TEUN;MAENJET;NGGAP;LEUM;NGGUOM",
    "NSHUT;NJUEQ;GHEUAE;KU;REN OLD;TAE;TOQ;NYI;RII;LEEEE;MEEEE;M;SUU;MU;SHII;SHEUX;KYEE;NU;SHU",
    "NTEE;PEE;NI;SHOQ;PUQ;MVOP;LOQ;REN MUCH;TI;NTUU;MBAA SEVEN;SAQ;FAA"]⟩,
  ⟨0x16966, "BAMUM LETTER PHASE-E ", ["NDAP;TOON;MBEUM;LAP;VOM;LOON;PAA;SOM;RAQ;NSHUOP;NDUN",
    "PUAE;TAM;NGKA;KPEUX;WUO;SEE;NGGEUAET;PAAM;TOO;KUOP;LOM;NSHIEE;NGOP;MAEM;NGKEUX;NGOQ;NSHUE",
    "RIMGBA;NJEUX;PEEM;SAA;NGGURAE;MGBA;GHEUX;NGKEUAEM;NJAEMLI;MAP;LOOT;NGGEEEE;NDIQ;TAEN NTEUM",
    "SET;PUM;NDAA SOFTNESS;NGGUAESHAE NYAM;YIEE;GHEUN;TUAE;YEUAE;PO;TUMAE;KEUAE;SUAEN;TEUAEQ",
    "VEUAE;WEUX;LAAM;PU;TAAQ;GHAAMAE;NGEUREUT;SHEUAEQ;MGBEN;MBEE;NZAQ;NKOM;GBET;TUM;KUET;YAP",
    "NYI CLEAVER;YIT;MFEUQ;NDIAQ;PIEEQ;YUEQ;LEUAEM;FUE;GBEUX;NGKUP;KET;MAE;NGKAAMI;GHET;FA;NTUM",
    "PEUT;YEUM;NGGEUAE;NYI BETWEEN;NZUQ;POON;MIEE;FUET;NAE;MUAE;GHEUAE;FU I;MVI;PUAQ;NGKUM;KUT",
    "PIET;NTAP;YEUAET;NGGUP;PA PEOPLE;FU CALL;FOM;NJEE;A;TOQ;O;I;LAQ;PA PLURAL;TAA;TAQ",
    "NDAA MY HOUSE;SHIQ;YEUX;NGUAE;YUAEN;YOQ SWIMMING;YOQ COVER;YUQ;YUN;KEUX;PEUX;NJEE EPOCH;PUE",
    "WUE;FEE;VEE;LU;MI;REUX;RAE;NGUAET;NGA;SHO;SHOQ;FU REMEDY;NA;PI;LOQ;KO;MEN;MA;MAQ;TEU;KI;MON",
    "TEN;FAQ;GHOM"]⟩,
  ⟨0x16a03, "BAMUM LETTER PHASE-F ", ["KA;U;KU;EE;REE;TAE;NYI;LA;RII;RIEE;MEEEE;TAA;NDAA;NJAEM",
    "M;SUU;SHII;SI;SEUX;KYEE;KET;NUAE;NU;NJUAE;YOQ;SHU;YA;NSHA;PEUX;NTEE;WUE;PEE;RU;NI;REUX;KEN",
    "NGKWAEN;NGGA;SHO;PUAE;FOM;WA;LI;LOQ;KO;MBEN;REN;MA;MO;MBAA;TET;KPA;SAMBA;VUEQ"]⟩,
  ⟨0x16a39, "MRO LETTER ", [";;;;;;;TA;NGI;YO;MIM;BA;DA;A;PHI;KHAI;HAO;DAI;CHU;KEAAE;OL;MAEM",
    "NIN;PA;OO;O;RO;SHI;THEA;EA;WA;E;KO;LAN;LA;HAI;RI;TEK"]⟩,
  ⟨0x16a5f, "MRO DIGIT ", [";ZERO;ONE;TWO;THREE;FOUR;FIVE;SIX;SEVEN;EIGHT;NINE"]⟩,
  ⟨0x16a6a, "MRO D", [";;;;ANDA;OUBLE DANDA"]⟩,
  ⟨0x16a70, "TANGSA LETTER ", ["OZ;OC;OQ;OX;AZ;AC;AQ;AX;VZ;VC;VQ;VX;EZ;EC;EQ;EX;IZ;IC;IQ;IX;UZ",
    "UC;UQ;UX;AWZ;AWC;AWQ;AWX;UIZ;UIC;UIQ;UIX;FINAL NG;LONG UEX;SHORT UEZ;SHORT AWX;UEC;UEZ;UEQ",
    "UEX;UIUZ;UIUC;UIUQ;UIUX;MZ;MC;MQ;MX;KA;KHA;GA;NGA;SA;YA;WA;PA;NYA;PHA;BA;MA;NA;HA;LA;HTA;TA",
    "DA;RA;NHA;SHA;CA;TSA;GHA;HTTA;THA;XA;FA;DHA;CHA;ZA"]⟩,
  ⟨0x16abf, "TANGSA DIGIT ", [";ZERO;ONE;TWO;THREE;FOUR;FIVE;SIX;SEVEN;EIGHT;NINE"]⟩,
  ⟨0x16aca, "BASSA VAH LETTER ", [";;;;;;ENNI;KA;SE;FA;MBE;YIE;GAH;DHII;KPAH;JO;HWAH;WA;ZO;GBU",
    "DO;CE;UWU;TO;BA;VU;YEIN;PA;WADDA;A;O;OO;U;EE;E;I"]⟩,
  ⟨0x16aee, "BASSA VAH COMBINING ", [";;HIGH TONE;LOW TONE;MID TONE;LOW-MID TONE;HIGH-LOW TONE"]⟩,
  ⟨0x16af5, "BASSA VAH FULL STO", ["P"]⟩,
  ⟨0x16b00, "PAHAWH HMONG VOWEL K", ["EEB;EEV;IB;IV;AUB;AUV;UB;UV;EB;EV;AIB;AIV;OOB;OOV;AWB;AWV",
    "UAB;UAV;OB;OV;IAB;IAV;AB;AV;WB;WV;AAB;AAV"]⟩,
  ⟨0x16b1c, "PAHAWH HMONG CONSONANT ", ["VAU;NTSAU;LAU;HAU;NLAU;RAU;NKAU;QHAU;YAU;HLAU;MAU;CHAU",
    "NCHAU;HNAU;PLHAU;NTHAU;NAU;AU;XAU;CAU"]⟩,
  ⟨0x16b30, "PAHAWH HMONG MARK CIM ", ["TUB;SO;KES;KHAV;SUAM;HOM;TAUM"]⟩,
  ⟨0x16b37, "PAHAWH HMONG SIGN ", ["VOS THOM;VOS TSHAB CEEB;CIM CHEEM;VOS THIAB;VOS FEEM",
    "XYEEM NTXIV;XYEEM RHO;XYEEM TOV;XYEEM FAIB;VOS SEEV;MEEJ SUAB;VOS NRUA;IB YAM;XAUS",
    "CIM TSOV ROG"]⟩,
  ⟨0x16b50, "PAHAWH HMONG DIGIT ", ["ZERO;ONE;TWO;THREE;FOUR;FIVE;SIX;SEVEN;EIGHT;NINE"]⟩,
  ⟨0x16b5a, "PAHAWH HMONG NUMBER ", [";TENS;HUNDREDS;TEN THOUSANDS;MILLIONS;HUNDRED MILLIONS",
    "TEN BILLIONS;TRILLIONS"]⟩,
  ⟨0x16b62, "PAHAWH HMONG SIGN ", [";VOS LUB;XYOO;HLI;THIRD-STAGE HLI;ZWJ THAJ;HNUB;NQIG;XIAB",
    "NTUJ;AV;TXHEEJ CEEV;MEEJ TSEEB;TAU;LOS;MUS;CIM HAIS LUS NTOG NTOG;CIM CUAM TSHOOJ;CIM TXWV",
    "CIM TXWV CHWV;CIM PUB DAWB;CIM NRES TOS"]⟩,
  ⟨0x16b78, "PAHAWH HMONG CLAN SIGN ", [";;;;;TSHEEJ;YEEG;LIS;LAUJ;XYOOJ;KOO;HAWJ;MUAS;THOJ",
    "TSAB;PHAB;KHAB;HAM;VAJ;FAJ;YAJ;TSWB;KWM;VWJ"]⟩,
  ⟨0x16e40, "MEDEFAIDRIN CAPITAL LETTER ", ["M;S;V;W;ATIU;Z;KP;P;T;G;F;I;K;A;J;E;B;C;U;YU;L;Q",
    "HP;NY;X;D;OE;N;R;O;AI;Y"]⟩,
  ⟨0x16e60, "MEDEFAIDRIN SMALL LETTER ", ["M;S;V;W;ATIU;Z;KP;P;T;G;F;I;K;A;J;E;B;C;U;YU;L;Q;HP",
    "NY;X;D;OE;N;R;O;AI;Y"]⟩,
  ⟨0x16e80, "MEDEFAIDRIN DIGIT ", ["ZERO;ONE;TWO;THREE;FOUR;FIVE;SIX;SEVEN;EIGHT;NINE"]⟩,
  ⟨0x16e8a, "MEDEFAIDRIN NUMBER ", ["TEN;ELEVEN;TWELVE;THIRTEEN;FOURTEEN;FIFTEEN;SIXTEEN",
    "SEVENTEEN;EIGHTEEN;NINETEEN"]⟩,
  ⟨0x16e94, "MEDEFAIDRIN ", ["DIGIT ONE ALTERNATE FORM;DIGIT TWO ALTERNATE FORM",
    "DIGIT THREE ALTERNATE FORM;COMMA;FULL STOP;SYMBOL AIVA;EXCLAMATION OH"]⟩,
  ⟨0x16f00, "MIAO LETTER ", ["PA;BA;YI PA;PLA;MA;MHA;ARCHAIC MA;FA;VA;VFA;TA;DA;YI TTA;YI TA",
    "TTA;DDA;NA;NHA;YI NNA;ARCHAIC NA;NNA;NNHA;LA;LYA;LHA;LHYA;TLHA;DLHA;TLHYA;DLHYA;KA;GA;YI KA",
    "QA;QGA;NGA;NGHA;ARCHAIC NGA;HA;XA;GHA;GHHA;TSSA;DZZA;NYA;NYHA;TSHA;DZHA;YI TSHA;YI DZHA",
    "REFORMED TSHA;SHA;SSA;ZHA;ZSHA;TSA;DZA;YI TSA;SA;ZA;ZSA;ZZA;ZZSA;ARCHAIC ZZA;ZZYA;ZZSYA;WA",
    "AH;HHA;BRI;SYI;DZYI;TE;TSE;RTE"]⟩,
  ⟨0x16f4b, "MIAO ", [";;;;SIGN CONSONANT MODIFIER BAR;LETTER NASALIZATION;SIGN ASPIRATION"]⟩,
  ⟨0x16f52, "MIAO SIGN REFORMED ", ["VOICING;ASPIRATION"]⟩,
  ⟨0x16f54, "MIAO VOWEL SIGN ", ["A;AA;AHH;AN;ANG;O;OO;WO;W;E;EN;ENG;OEY;I;IA;IAN;IANG;IO;IE;II",
    "IU;ING;U;UA;UAN;UANG;UU;UEI;UNG;Y;YI;AE;AEE;ERR;ROUNDED ERR;ER;ROUNDED ER;AI;EI;AU;OU;N;NG",
    "UOG;YUI;OG;OER;VW;IG;EA;IONG;UI"]⟩,
  ⟨0x16f88, "MIAO TONE ", [";;;;;;;RIGHT;TOP RIGHT;ABOVE;BELOW"]⟩,
  ⟨0x16f93, "MIAO LETTER TONE-", ["2;3;4;5;6;7;8"]⟩,
  ⟨0x16f9a, "MIAO LETTER REFORMED TONE-", ["1;2;4;5;6;8"]⟩,
  ⟨0x16fe0, "", ["TANGUT ITERATION MARK;NUSHU ITERATION MARK"]⟩,
  ⟨0x16fe2, "OLD CHINESE ", ["HOOK MARK;ITERATION MARK"]⟩,
  ⟨0x16fe4, "KHITAN SMALL SCRIPT FILLE", ["R"]⟩,
  ⟨0x16ff0, "VIETNAMESE ALTERNATE READING MARK ", ["CA;NHAY"]⟩]

end Stencil.CharacterName
