import Stencil.Literal.CharacterName.Block

/-!
# Names of characters: ancient scripts, and further scripts of South Asia
-/

namespace Stencil.CharacterName

/-- Ancient scripts, and further scripts of South Asia, from U+1004E on. -/
def ancientPartA : List Block := [
  ⟨0x1004e, "LINEAR B SYMBOL B0", [";;18;19;22;34;47;49;56;63;64;79;82;83;86;89"]⟩,
  ⟨0x10080, "LINEAR B IDEOGRAM B1", ["00 MAN;02 WOMAN;04 DEER;05 EQUID;05F MARE;05M STALLION",
    "06F EWE;06M RAM;07F SHE-GOAT;07M HE-GOAT;08F SOW;08M BOAR;09F COW;09M BULL;20 WHEAT",
    "21 BARLEY;22 OLIVE;23 SPICE;25 CYPERUS"]⟩,
  ⟨0x10093, "LINEAR B MONOGRAM B12", ["7 KAPO;8 KANAKO"]⟩,
  ⟨0x10095, "LINEAR B IDEOGRAM B13", ["0 OIL;1 WINE;2"]⟩,
  ⟨0x10098, "LINEAR B MONOGRAM B13", ["3 AREPA;5 MERI"]⟩,
  ⟨0x1009a, "LINEAR B IDEOGRAM B1", ["40 BRONZE;41 GOLD;42;45 WOOL;46;50;51 HORN;52;53;54"]⟩,
  ⟨0x100a4, "LINEAR B MONOGRAM B156 TURO", ["2"]⟩,
  ⟨0x100a5, "LINEAR B IDEOGRAM B1", ["57;58;59 CLOTH;60;61;62 GARMENT;63 ARMOUR;64;65;66;67;68",
    "69;70;71;72;73 MONTH;74;76 TREE;77;78;79;80;81;82;83;84;85;89;90;91 HELMET"]⟩,
  ⟨0x100c4, "LINEAR B IDEOGRAM B2", ["20 FOOTSTOOL;25 BATHTUB;30 SPEAR;31 ARROW;32;33 SWORD;34",
    "36;40 WHEELED CHARIOT;41 CHARIOT;42 CHARIOT FRAME;43 WHEEL;45;46"]⟩,
  ⟨0x100d2, "LINEAR B MONOGRAM B247 DIPT", ["E"]⟩,
  ⟨0x100d3, "LINEAR B IDEOGRAM B2", ["48;49;51;52;53;54 DART;55;56;57;58;59"]⟩,
  ⟨0x100de, "LINEAR B IDEOGRAM VESSEL B", ["155;200;201;202;203;204;205;206;207;208;209;210;211",
    "212;213;214;215;216;217;218;219;221;222;226;227;228;229;250;305"]⟩,
  ⟨0x100fb, "AEGEAN WORD SEPARATOR ", [";;;;;LINE;DOT"]⟩,
  ⟨0x10102, "AEGEAN CHECK MAR", ["K"]⟩,
  ⟨0x10103, "AEGEAN NUMBER ", [";;;;ONE;TWO;THREE;FOUR;FIVE;SIX;SEVEN;EIGHT;NINE;TEN;TWENTY",
    "THIRTY;FORTY;FIFTY;SIXTY;SEVENTY;EIGHTY;NINETY;ONE HUNDRED;TWO HUNDRED;THREE HUNDRED",
    "FOUR HUNDRED;FIVE HUNDRED;SIX HUNDRED;SEVEN HUNDRED;EIGHT HUNDRED;NINE HUNDRED;ONE THOUSAND",
    "TWO THOUSAND;THREE THOUSAND;FOUR THOUSAND;FIVE THOUSAND;SIX THOUSAND;SEVEN THOUSAND",
    "EIGHT THOUSAND;NINE THOUSAND;TEN THOUSAND;TWENTY THOUSAND;THIRTY THOUSAND;FORTY THOUSAND",
    "FIFTY THOUSAND;SIXTY THOUSAND;SEVENTY THOUSAND;EIGHTY THOUSAND;NINETY THOUSAND"]⟩,
  ⟨0x10134, "AEGEAN WEIGHT ", [";;;BASE UNIT;FIRST SUBUNIT;SECOND SUBUNIT;THIRD SUBUNIT",
    "FOURTH SUBUNIT"]⟩,
  ⟨0x1013c, "AEGEAN ", ["DRY MEASURE FIRST SUBUNIT;LIQUID MEASURE FIRST SUBUNIT",
    "MEASURE SECOND SUBUNIT;MEASURE THIRD SUBUNIT"]⟩,
  ⟨0x10140, "GREEK ACROPHONIC ATTIC ", ["ONE QUARTER;ONE HALF;ONE DRACHMA;FIVE;FIFTY",
    "FIVE HUNDRED;FIVE THOUSAND;FIFTY THOUSAND;FIVE TALENTS;TEN TALENTS;FIFTY TALENTS",
    "ONE HUNDRED TALENTS;FIVE HUNDRED TALENTS;ONE THOUSAND TALENTS;FIVE THOUSAND TALENTS",
    "FIVE STATERS;TEN STATERS;FIFTY STATERS;ONE HUNDRED STATERS;FIVE HUNDRED STATERS",
    "ONE THOUSAND STATERS;TEN THOUSAND STATERS;FIFTY THOUSAND STATERS;TEN MNAS"]⟩,
  ⟨0x10158, "GREEK ACROPHONIC ", ["HERAEUM ONE PLETHRON;THESPIAN ONE;HERMIONIAN ONE",
    "EPIDAUREAN TWO;THESPIAN TWO;CYRENAIC TWO DRACHMAS;EPIDAUREAN TWO DRACHMAS;TROEZENIAN FIVE",
    "TROEZENIAN TEN;TROEZENIAN TEN ALTERNATE FORM;HERMIONIAN TEN;MESSENIAN TEN;THESPIAN TEN",
    "THESPIAN THIRTY;TROEZENIAN FIFTY;TROEZENIAN FIFTY ALTERNATE FORM;HERMIONIAN FIFTY",
    "THESPIAN FIFTY;THESPIAN ONE HUNDRED;THESPIAN THREE HUNDRED;EPIDAUREAN FIVE HUNDRED",
    "TROEZENIAN FIVE HUNDRED;THESPIAN FIVE HUNDRED;CARYSTIAN FIVE HUNDRED;NAXIAN FIVE HUNDRED",
    "THESPIAN ONE THOUSAND;THESPIAN FIVE THOUSAND;DELPHIC FIVE MNAS;STRATIAN FIFTY MNAS"]⟩,
  ⟨0x10175, "GREEK ONE HALF SIG", ["N;N ALTERNATE FORM"]⟩,
  ⟨0x10177, "GREEK ", ["TWO THIRDS SIGN;THREE QUARTERS SIGN;YEAR SIGN;TALENT SIGN;DRACHMA SIGN",
    "OBOL SIGN;TWO OBOLS SIGN;THREE OBOLS SIGN;FOUR OBOLS SIGN;FIVE OBOLS SIGN;METRETES SIGN",
    "KYATHOS BASE SIGN;LITRA SIGN;OUNKIA SIGN;XESTES SIGN;ARTABE SIGN;AROURA SIGN;GRAMMA SIGN",
    "TRYBLION BASE SIGN;ZERO SIGN;ONE QUARTER SIGN;SINUSOID SIGN;INDICTION SIGN"]⟩,
  ⟨0x1018e, "NOMISMA SIG", ["N"]⟩,
  ⟨0x1018f, "ROMAN ", [";SEXTANS SIGN;UNCIA SIGN;SEMUNCIA SIGN;SEXTULA SIGN",
    "DIMIDIA SEXTULA SIGN;SILIQUA SIGN;DENARIUS SIGN;QUINARIUS SIGN;SESTERTIUS SIGN",
    "DUPONDIUS SIGN;AS SIGN;CENTURIAL SIGN"]⟩,
  ⟨0x1019c, "", ["ASCIA SYMBOL;;;;GREEK SYMBOL TAU RHO"]⟩,
  ⟨0x101d0, "PHAISTOS DISC SIGN ", ["PEDESTRIAN;PLUMED HEAD;TATTOOED HEAD;CAPTIVE;CHILD;WOMAN",
    "HELMET;GAUNTLET;TIARA;ARROW;BOW;SHIELD;CLUB;MANACLES;MATTOCK;SAW;LID;BOOMERANG",
    "CARPENTRY PLANE;DOLIUM;COMB;SLING;COLUMN;BEEHIVE;SHIP;HORN;HIDE;BULLS LEG;CAT;RAM;EAGLE",
    "DOVE;TUNNY;BEE;PLANE TREE;VINE;PAPYRUS;ROSETTE;LILY;OX BACK;FLUTE;GRATER;STRAINER;SMALL AXE",
    "WAVY BAND;COMBINING OBLIQUE STROKE"]⟩,
  ⟨0x10280, "LYCIAN LETTER ", ["A;E;B;BH;G;D;I;W;Z;TH;J;K;Q;L;M;N;MM;NN;U;P;KK;R;S;T;TT;AN;EN;H",
    "X"]⟩,
  ⟨0x1029d, "CARIAN LETTER ", [";;;A;P2;D;L;UUU;R;LD;A2;Q;B;M;O;D2;T;SH;SH2;S;C-18;U;NN;X;N;TT2",
    "P;SS;I;E;UUUU;K;K2;ND;UU;G;G2;ST;ST2;NG;II;C-39;TT;UUU2;RR;MB;MB2;MB3;MB4;LD2;E2;UUU3"]⟩,
  ⟨0x102e0, "COPTIC EPACT THOUSANDS MAR", ["K"]⟩,
  ⟨0x102e1, "COPTIC EPACT DIGIT ", ["ONE;TWO;THREE;FOUR;FIVE;SIX;SEVEN;EIGHT;NINE"]⟩,
  ⟨0x102ea, "COPTIC EPACT NUMBER ", ["TEN;TWENTY;THIRTY;FORTY;FIFTY;SIXTY;SEVENTY;EIGHTY;NINETY",
    "ONE HUNDRED;TWO HUNDRED;THREE HUNDRED;FOUR HUNDRED;FIVE HUNDRED;SIX HUNDRED;SEVEN HUNDRED",
    "EIGHT HUNDRED;NINE HUNDRED"]⟩,
  ⟨0x102fc, "OLD ITALIC LETTER ", [";;;;A;BE;KE;DE;E;VE;ZE;HE;THE;I;KA;EL;EM;EN;ESH;O;PE;SHE;KU",
    "ER;ES;TE;U;EKS;PHE;KHE;EF;ERS;CHE;II;UU;ESS"]⟩,
  ⟨0x10320, "OLD ITALIC NUMERAL ", ["ONE;FIVE;TEN;FIFTY"]⟩,
  ⟨0x1032d, "OLD ITALIC LETTER ", ["YE;NORTHERN TSE;SOUTHERN TSE"]⟩,
  ⟨0x10330, "GOTHIC LETTER ", ["AHSA;BAIRKAN;GIBA;DAGS;AIHVUS;QAIRTHRA;IUJA;HAGL;THIUTH;EIS",
    "KUSMA;LAGUS;MANNA;NAUTHS;JER;URUS;PAIRTHRA;NINETY;RAIDA;SAUIL;TEIWS;WINJA;FAIHU;IGGWS;HWAIR",
    "OTHAL;NINE HUNDRED"]⟩,
  ⟨0x1034b, "OLD PERMIC LETTER ", [";;;;;AN;BUR;GAI;DOI;E;ZHOI;DZHOI;ZATA;DZITA;I;KOKE;LEI",
    "MENOE;NENOE;VOOI;PEEI;REI;SII;TAI;U;CHERY;SHOOI;SHCHOOI;YRY;YERU;O;OO;EF;HA;TSIU;VER;YER",
    "YERI;YAT;IE;YU;YA;IA"]⟩,
  ⟨0x10376, "COMBINING OLD PERMIC LETTER ", ["AN;DOI;ZATA;NENOE;SII"]⟩,
  ⟨0x1037b, "UGARITIC LETTER ", [";;;;;ALPA;BETA;GAMLA;KHA;DELTA;HO;WO;ZETA;HOTA;TET;YOD;KAF",
    "SHIN;LAMDA;MEM;DHAL;NUN;ZU;SAMKA;AIN;PU;SADE;QOPA;RASHA;THANNA;GHAIN;TO;I;U;SSU"]⟩,
  ⟨0x1039e, "UGARITIC WORD DIVIDE", [";R"]⟩,
  ⟨0x103a0, "OLD PERSIAN SIGN ", ["A;I;U;KA;KU;GA;GU;XA;CA;JA;JI;TA;TU;DA;DI;DU;THA;PA;BA;FA;NA",
    "NU;MA;MI;MU;YA;VA;VI;RA;RU;LA;SA;ZA;SHA;SSA;HA;;;;;AURAMAZDAA;AURAMAZDAA-2;AURAMAZDAAHA",
    "XSHAAYATHIYA;DAHYAAUSH;DAHYAAUSH-2;BAGA;BUUMISH"]⟩,
  ⟨0x103d0, "OLD PERSIAN WORD DIVIDE", ["R"]⟩,
  ⟨0x103d1, "OLD PERSIAN NUMBER ", ["ONE;TWO;TEN;TWENTY;HUNDRED"]⟩,
  ⟨0x10400, "DESERET CAPITAL LETTER LONG ", ["I;E;A;AH;O;OO"]⟩,
  ⟨0x10406, "DESERET CAPITAL LETTER SHORT ", ["I;E;A;AH;O;OO"]⟩,
  ⟨0x1040c, "DESERET CAPITAL LETTER ", ["AY;OW;WU;YEE;H;PEE;BEE;TEE;DEE;CHEE;JEE;KAY;GAY;EF;VEE",
    "ETH;THEE;ES;ZEE;ESH;ZHEE;ER;EL;EM;EN;ENG;OI;EW"]⟩,
  ⟨0x10428, "DESERET SMALL LETTER LONG ", ["I;E;A;AH;O;OO"]⟩,
  ⟨0x1042e, "DESERET SMALL LETTER SHORT ", ["I;E;A;AH;O;OO"]⟩,
  ⟨0x10434, "DESERET SMALL LETTER ", ["AY;OW;WU;YEE;H;PEE;BEE;TEE;DEE;CHEE;JEE;KAY;GAY;EF;VEE",
    "ETH;THEE;ES;ZEE;ESH;ZHEE;ER;EL;EM;EN;ENG;OI;EW"]⟩,
  ⟨0x10450, "SHAVIAN LETTER ", ["PEEP;TOT;KICK;FEE;THIGH;SO;SURE;CHURCH;YEA;HUNG;BIB;DEAD;GAG",
    "VOW;THEY;ZOO;MEASURE;JUDGE;WOE;HA-HA;LOLL;MIME;IF;EGG;ASH;ADO;ON;WOOL;OUT;AH;ROAR;NUN;EAT",
    "AGE;ICE;UP;OAK;OOZE;OIL;AWE;ARE;OR;AIR;ERR;ARRAY;EAR;IAN;YEW"]⟩,
  ⟨0x10480, "OSMANYA LETTER ", ["ALEF;BA;TA;JA;XA;KHA;DEEL;RA;SA;SHIIN;DHA;CAYN;GA;FA;QAAF;KAAF",
    "LAAN;MIIN;NUUN;WAW;HA;YA;A;E;I;O;U;AA;EE;OO"]⟩,
  ⟨0x1049e, "OSMANYA DIGIT ", [";;ZERO;ONE;TWO;THREE;FOUR;FIVE;SIX;SEVEN;EIGHT;NINE"]⟩,
  ⟨0x104aa, "OSAGE CAPITAL LETTER ", [";;;;;;A;AI;AIN;AH;BRA;CHA;EHCHA;E;EIN;HA;HYA;I;KA;EHKA",
    "KYA;LA;MA;NA;O;OIN;PA;EHPA;SA;SHA;TA;EHTA;TSA;EHTSA;TSHA;DHA;U;WA;KHA;GHA;ZA;ZHA"]⟩,
  ⟨0x104d4, "OSAGE SMALL LETTER ", [";;;;A;AI;AIN;AH;BRA;CHA;EHCHA;E;EIN;HA;HYA;I;KA;EHKA;KYA",
    "LA;MA;NA;O;OIN;PA;EHPA;SA;SHA;TA;EHTA;TSA;EHTSA;TSHA;DHA;U;WA;KHA;GHA;ZA;ZHA"]⟩,
  ⟨0x104fc, "ELBASAN LETTER ", [";;;;A;BE;CE;CHE;DE;NDE;DHE;EI;E;FE;GE;GJE;HE;I;JE;KE;LE;LLE;ME",
    "NE;NA;NJE;O;PE;QE;RE;RRE;SE;SHE;TE;THE;U;VE;XE;Y;ZE;ZHE;GHE;GHAMMA;KHE"]⟩,
  ⟨0x10530, "CAUCASIAN ALBANIAN LETTER ", ["ALT;BET;GIM;DAT;EB;ZARL;EYN;ZHIL;TAS;CHA;YOWD;ZHA",
    "IRB;SHA;LAN;INYA;XEYN;DYAN;CAR;JHOX;KAR;LYIT;HEYT;QAY;AOR;CHOY;CHI;CYAY;MAQ;QAR;NOWC;DZYAY",
    "SHAK;JAYN;ON;TYAY;FAM;DZAY;CHAT;PEN;GHEYS;RAT;SEYK;VEYZ;TIWR;SHOY;IWN;CYAW;CAYN;YAYD;PIWR",
    "KIW"]⟩,
  ⟨0x1056f, "CAUCASIAN ALBANIAN CITATION MAR", ["K"]⟩,
  ⟨0x10570, "VITHKUQI CAPITAL LETTER ", ["A;BBE;BE;CE;CHE;DE;DHE;EI;E;FE;GA;;HA;HHA;I;IJE;JE;KA",
    "LA;LLA;ME;NE;NJE;O;PE;QA;RE;;SE;SHE;TE;THE;U;VE;XE;;Y;ZE"]⟩,
  ⟨0x10596, "VITHKUQI SMALL LETTER ", [";A;BBE;BE;CE;CHE;DE;DHE;EI;E;FE;GA;;HA;HHA;I;IJE;JE;KA",
    "LA;LLA;ME;NE;NJE;O;PE;QA;RE;;SE;SHE;TE;THE;U;VE;XE;;Y;ZE"]⟩,
  ⟨0x10600, "LINEAR A SIGN AB0", ["01;02;03;04;05;06;07;08;09;10;11;13;16;17;20;21;21F;21M;22",
    "22F;22M;23;23M;24;26;27;28"]⟩,
  ⟨0x1061b, "LINEAR A SIGN A028", ["B"]⟩,
  ⟨0x1061c, "LINEAR A SIGN AB0", ["29;30;31;34;37;38;39;40;41;44;45;46;47;48;49;50;51;53;54;55",
    "56;57;58;59;60;61;65;66;67;69;70;73;74;76;77;78;79;80;81;82;85;86;87"]⟩,
  ⟨0x10647, "LINEAR A SIGN A", ["100-102;B118;B120;120B;B122;B123;B131A;B131B;131C;B164;B171",
    "B180;B188;B191"]⟩,
  ⟨0x10655, "LINEAR A SIGN A3", ["01;02;03;04;05;06;07;08;09A;09B;09C;10;11;12;13A;13B;13C;14",
    "15;16;17;18;19;20;21;22;23;24;25;26;27;28;29;30;31;32;33;34;35;36;37;38;39;40;41;42;43;44",
    "45;46;47;48;49;50;51;52;53;54;55;56;57;58;59;60;61;62;63;64;65;66;67;68;69;70;71"]⟩,
  ⟨0x106a0, "LINEAR A SIGN A4", ["00-VAS;01-VAS;02-VAS;03-VAS;04-VAS;05-VAS;06-VAS;07-VAS",
    "08-VAS;09-VAS;10-VAS;11-VAS;12-VAS;13-VAS;14-VAS;15-VAS;16-VAS;17-VAS;18-VAS"]⟩,
  ⟨0x106b3, "LINEAR A SIGN A5", ["01;02;03;04;05;06;08;09;10;11;12;13;15;16;20;21;23;24;25;26",
    "27;28;29;30;31;32;34;35;36;37;38;39;40;41;42;45;47;48;49;50;51;52;53;54;55;56;57;59;63;64",
    "65;66;68;69;70;71;72;73;74;75;76;77;78;79;80;81;82;83;84;85;86;87;88;89;91;92;94;95;96;98"]⟩,
  ⟨0x10703, "LINEAR A SIGN A6", ["00;01;02;03;04;06;08;09;10;11;12;13;14;15;16;17;18;19;20;21",
    "22;23;24;26;27;28;29;34;37;38;40;42;43;44;45;46;48;49;51;52;53;54;55;56;57;58;59;60;61;62",
    "63;64"]⟩,
  ⟨0x10740, "LINEAR A SIGN A7", ["01 A;02 B;03 D;04 E;05 F;06 H;07 J;08 K;09 L;09-2 L2;09-3 L3",
    "09-4 L4;09-6 L6;10 W;11 X;12 Y;13 OMEGA;14 ABB;15 BB;17 DD;26 EYYY;32 JE"]⟩,
  ⟨0x10760, "LINEAR A SIGN A80", ["0;1;2;3;4;5;6;7"]⟩,
  ⟨0x10780, "MODIFIER LETTER S", ["MALL CAPITAL AA;UPERSCRIPT TRIANGULAR COLON",
    "UPERSCRIPT HALF TRIANGULAR COLON"]⟩,
  ⟨0x10783, "MODIFIER LETTER SMALL ", ["AE;CAPITAL B;B WITH HOOK;;DZ DIGRAPH",
    "DZ DIGRAPH WITH RETROFLEX HOOK;DZ DIGRAPH WITH CURL;DEZH DIGRAPH;D WITH TAIL;D WITH HOOK",
    "D WITH HOOK AND TAIL;REVERSED E;CLOSED REVERSED OPEN E;FENG DIGRAPH;RAMS HORN;CAPITAL G",
    "G WITH HOOK;CAPITAL G WITH HOOK;H WITH STROKE;CAPITAL H;HENG WITH HOOK",
    "DOTLESS J WITH STROKE AND HOOK;LS DIGRAPH;LZ DIGRAPH;L WITH BELT;CAPITAL L WITH BELT",
    "L WITH RETROFLEX HOOK AND BELT;LEZH;LEZH WITH RETROFLEX HOOK;TURNED Y;TURNED Y WITH BELT",
    "O WITH STROKE;CAPITAL OE;CLOSED OMEGA;Q;TURNED R WITH LONG LEG",
    "TURNED R WITH LONG LEG AND RETROFLEX HOOK;R WITH TAIL;R WITH FISHHOOK;CAPITAL R",
    "TC DIGRAPH WITH CURL;TS DIGRAPH;TS DIGRAPH WITH RETROFLEX HOOK;TESH DIGRAPH",
    "T WITH RETROFLEX HOOK;V WITH RIGHT HOOK;;CAPITAL Y"]⟩,
  ⟨0x107b3, "MODIFIER LETTER ", ["GLOTTAL STOP WITH STROKE;REVERSED GLOTTAL STOP WITH STROKE",
    "BILABIAL CLICK;DENTAL CLICK;LATERAL CLICK;ALVEOLAR CLICK",
    "RETROFLEX CLICK WITH RETROFLEX HOOK;SMALL S WITH CURL"]⟩,
  ⟨0x10800, "CYPRIOT SYLLABLE ", ["A;E;I;O;U;JA;;;JO;;KA;KE;KI;KO;KU;LA;LE;LI;LO;LU;MA;ME;MI;MO",
    "MU;NA;NE;NI;NO;NU;PA;PE;PI;PO;PU;RA;RE;RI;RO;RU;SA;SE;SI;SO;SU;TA;TE;TI;TO;TU;WA;WE;WI;WO;",
    "XA;XE;;;;ZA;;;ZO"]⟩,
  ⟨0x10840, "IMPERIAL ARAMAIC LETTER ", ["ALEPH;BETH;GIMEL;DALETH;HE;WAW;ZAYIN;HETH;TETH;YODH",
    "KAPH;LAMEDH;MEM;NUN;SAMEKH;AYIN;PE;SADHE;QOPH;RESH;SHIN;TAW"]⟩,
  ⟨0x10856, "IMPERIAL ARAMAIC SECTION SIG", [";N"]⟩,
  ⟨0x10858, "IMPERIAL ARAMAIC NUMBER ", ["ONE;TWO;THREE;TEN;TWENTY;ONE HUNDRED;ONE THOUSAND",
    "TEN THOUSAND"]⟩,
  ⟨0x10860, "PALMYRENE LETTER ", ["ALEPH;BETH;GIMEL;DALETH;HE;WAW;ZAYIN;HETH;TETH;YODH;KAPH",
    "LAMEDH;MEM;FINAL NUN;NUN;SAMEKH;AYIN;PE;SADHE;QOPH;RESH;SHIN;TAW"]⟩,
  ⟨0x10877, "PALMYRENE ", ["LEFT-POINTING FLEURON;RIGHT-POINTING FLEURON"]⟩,
  ⟨0x10879, "PALMYRENE NUMBER ", ["ONE;TWO;THREE;FOUR;FIVE;TEN;TWENTY"]⟩,
  ⟨0x10880, "NABATAEAN LETTER ", ["FINAL ALEPH;ALEPH;FINAL BETH;BETH;GIMEL;DALETH;FINAL HE;HE",
    "WAW;ZAYIN;HETH;TETH;FINAL YODH;YODH;FINAL KAPH;KAPH;FINAL LAMEDH;LAMEDH;FINAL MEM;MEM",
    "FINAL NUN;NUN;SAMEKH;AYIN;PE;SADHE;QOPH;RESH;FINAL SHIN;SHIN;TAW"]⟩,
  ⟨0x108a7, "NABATAEAN NUMBER ", ["ONE;TWO;THREE;FOUR"]⟩,
  ⟨0x108ab, "NABATAEAN CRUCIFORM NUMBER FOU", ["R"]⟩,
  ⟨0x108ac, "NABATAEAN NUMBER ", ["FIVE;TEN;TWENTY;ONE HUNDRED"]⟩,
  ⟨0x108e0, "HATRAN LETTER ", ["ALEPH;BETH;GIMEL;DALETH-RESH;HE;WAW;ZAYN;HETH;TETH;YODH;KAPH",
    "LAMEDH;MEM;NUN;SAMEKH;AYN;PE;SADHE;QOPH;;SHIN;TAW"]⟩,
  ⟨0x108f6, "HATRAN NUMBER ", [";;;;;ONE;FIVE;TEN;TWENTY;ONE HUNDRED"]⟩,
  ⟨0x10900, "PHOENICIAN LETTER ", ["ALF;BET;GAML;DELT;HE;WAU;ZAI;HET;TET;YOD;KAF;LAMD;MEM;NUN",
    "SEMK;AIN;PE;SADE;QOF;ROSH;SHIN;TAU"]⟩,
  ⟨0x10916, "PHOENICIAN NUMBER ", ["ONE;TEN;TWENTY;ONE HUNDRED;TWO;THREE"]⟩,
  ⟨0x1091c, "PHOENICIAN WORD SEPARATO", [";;;R"]⟩,
  ⟨0x10920, "LYDIAN LETTER ", ["A;B;G;D;E;V;I;Y;K;L;M;N;O;R;SS;T;U;F;Q;S;TT;AN;EN;LY;NN;C"]⟩,
  ⟨0x1093a, "LYDIAN TRIANGULAR MAR", [";;;;;K"]⟩,
  ⟨0x10980, "MEROITIC HIEROGLYPHIC LETTER ", ["A;E;I;O;YA;WA;BA;BA-2;PA;MA;NA;NA-2;NE;NE-2;RA",
    "RA-2;LA;KHA;HHA;SA;SA-2;SE;KA;QA;TA;TA-2;TE;TE-2;TO;DA"]⟩,
  ⟨0x1099e, "MEROITIC HIEROGLYPHIC SYMBOL VID", ["J;J-2"]⟩,
  ⟨0x109a0, "MEROITIC CURSIVE LETTER ", ["A;E;I;O;YA;WA;BA;PA;MA;NA;NE;RA;LA;KHA;HHA;SA",
    "ARCHAIC SA;SE;KA;QA;TA;TE;TO;DA"]⟩,
  ⟨0x109b8, "MEROITIC CURSIVE ", [";;;;FRACTION ELEVEN TWELFTHS;FRACTION ONE HALF;LOGOGRAM RMT",
    "LOGOGRAM IMN"]⟩,
  ⟨0x109c0, "MEROITIC CURSIVE NUMBER ", ["ONE;TWO;THREE;FOUR;FIVE;SIX;SEVEN;EIGHT;NINE;TEN",
    "TWENTY;THIRTY;FORTY;FIFTY;SIXTY;SEVENTY;;;ONE HUNDRED;TWO HUNDRED;THREE HUNDRED",
    "FOUR HUNDRED;FIVE HUNDRED;SIX HUNDRED;SEVEN HUNDRED;EIGHT HUNDRED;NINE HUNDRED;ONE THOUSAND",
    "TWO THOUSAND;THREE THOUSAND;FOUR THOUSAND;FIVE THOUSAND;SIX THOUSAND;SEVEN THOUSAND",
    "EIGHT THOUSAND;NINE THOUSAND;TEN THOUSAND;TWENTY THOUSAND;THIRTY THOUSAND;FORTY THOUSAND",
    "FIFTY THOUSAND;SIXTY THOUSAND;SEVENTY THOUSAND;EIGHTY THOUSAND;NINETY THOUSAND",
    "ONE HUNDRED THOUSAND;TWO HUNDRED THOUSAND;THREE HUNDRED THOUSAND;FOUR HUNDRED THOUSAND",
    "FIVE HUNDRED THOUSAND;SIX HUNDRED THOUSAND;SEVEN HUNDRED THOUSAND;EIGHT HUNDRED THOUSAND",
    "NINE HUNDRED THOUSAND"]⟩,
  ⟨0x109f6, "MEROITIC CURSIVE FRACTION ", ["ONE TWELFTH;TWO TWELFTHS;THREE TWELFTHS",
    "FOUR TWELFTHS;FIVE TWELFTHS;SIX TWELFTHS;SEVEN TWELFTHS;EIGHT TWELFTHS;NINE TWELFTHS",
    "TEN TWELFTHS"]⟩,
  ⟨0x10a00, "KHAROSHTHI LETTER ", ["A"]⟩,
  ⟨0x10a01, "KHAROSHTHI VOWEL SIGN ", ["I;U;VOCALIC R;;E;O"]⟩,
  ⟨0x10a07, "KHAROSHTHI ", [";;;;;VOWEL LENGTH MARK;SIGN DOUBLE RING BELOW;SIGN ANUSVARA",
    "SIGN VISARGA"]⟩,
  ⟨0x10a10, "KHAROSHTHI LETTER ", ["KA;KHA;GA;GHA;;CA;CHA;JA;;NYA;TTA;TTHA;DDA;DDHA;NNA;TA;THA",
    "DA;DHA;NA;PA;PHA;BA;BHA;MA;YA;RA;LA;VA;SHA;SSA;SA;ZA;HA;KKA;TTTHA;TTTA;VHA"]⟩,
  ⟨0x10a36, "KHAROSHTHI ", [";;SIGN BAR ABOVE;SIGN CAUDA;SIGN DOT BELOW;;;;;VIRAMA;DIGIT ONE",
    "DIGIT TWO;DIGIT THREE;DIGIT FOUR;NUMBER TEN;NUMBER TWENTY;NUMBER ONE HUNDRED",
    "NUMBER ONE THOUSAND;FRACTION ONE HALF"]⟩,
  ⟨0x10a49, "KHAROSHTHI PUNCTUATION ", [";;;;;;;DOT;SMALL CIRCLE;CIRCLE;CRESCENT BAR;MANGALAM",
    "LOTUS;DANDA;DOUBLE DANDA;LINES"]⟩]

/-- Ancient scripts, and further scripts of South Asia, from U+10A59 on. -/
def ancientPartB : List Block := [
  ⟨0x10a59, "OLD SOUTH ARABIAN LETTER ", [";;;;;;;HE;LAMEDH;HETH;MEM;QOPH;WAW;SHIN;RESH;BETH",
    "TAW;SAT;KAPH;NUN;KHETH;SADHE;SAMEKH;FE;ALEF;AYN;DHADHE;GIMEL;DALETH;GHAYN;TETH;ZAYN;DHALETH",
    "YODH;THAW;THETH"]⟩,
  ⟨0x10a7d, "OLD SOUTH ARABIAN NUM", ["BER ONE;BER FIFTY;ERIC INDICATOR"]⟩,
  ⟨0x10a80, "OLD NORTH ARABIAN LETTER ", ["HEH;LAM;HAH;MEEM;QAF;WAW;ES-2;REH;BEH;TEH;ES-1;KAF",
    "NOON;KHAH;SAD;ES-3;FEH;ALEF;AIN;DAD;GEEM;DAL;GHAIN;TAH;ZAIN;THAL;YEH;THEH;ZAH"]⟩,
  ⟨0x10a9d, "OLD NORTH ARABIAN NUMBER ", ["ONE;TEN;TWENTY"]⟩,
  ⟨0x10ac0, "MANICHAEAN LETTER ", ["ALEPH;BETH;BHETH;GIMEL;GHIMEL;DALETH;HE;WAW"]⟩,
  ⟨0x10ac8, "MANICHAEAN SIGN U", ["D"]⟩,
  ⟨0x10ac9, "MANICHAEAN LETTER ", ["ZAYIN;ZHAYIN;JAYIN;JHAYIN;HETH;TETH;YODH;KAPH;XAPH;KHAPH",
    "LAMEDH;DHAMEDH;THAMEDH;MEM;NUN;SAMEKH;AYIN;AAYIN;PE;FE;SADHE;QOPH;XOPH;QHOPH;RESH;SHIN",
    "SSHIN;TAW"]⟩,
  ⟨0x10ae5, "MANICHAEAN ABBREVIATION MARK ", ["ABOVE;BELOW"]⟩,
  ⟨0x10ae7, "MANICHAEAN NUMBER ", [";;;;ONE;FIVE;TEN;TWENTY;ONE HUNDRED"]⟩,
  ⟨0x10af0, "MANICHAEAN PUNCTUATION ", ["STAR;FLEURON;DOUBLE DOT WITHIN DOT;DOT WITHIN DOT;DOT",
    "TWO DOTS;LINE FILLER"]⟩,
  ⟨0x10b00, "AVESTAN LETTER ", ["A;AA;AO;AAO;AN;AAN;AE;AEE;E;EE;O;OO;I;II;U;UU;KE;XE;XYE;XVE;GE",
    "GGE;GHE;CE;JE;TE;THE;DE;DHE;TTE;PE;FE;BE;BHE;NGE;NGYE;NGVE;NE;NYE;NNE;ME;HME;YYE;YE;VE;RE",
    "LE;SE;ZE;SHE;ZHE;SHYE;SSHE;HE"]⟩,
  ⟨0x10b36, "", [";;;AVESTAN ABBREVIATION MARK;TINY TWO DOTS OVER ONE DOT PUNCTUATION",
    "SMALL TWO DOTS OVER ONE DOT PUNCTUATION"]⟩,
  ⟨0x10b3c, "LARGE ", ["TWO DOTS OVER ONE DOT PUNCTUATION;ONE DOT OVER TWO DOTS PUNCTUATION",
    "TWO RINGS OVER ONE RING PUNCTUATION;ONE RING OVER TWO RINGS PUNCTUATION"]⟩,
  ⟨0x10b40, "INSCRIPTIONAL PARTHIAN LETTER ", ["ALEPH;BETH;GIMEL;DALETH;HE;WAW;ZAYIN;HETH;TETH",
    "YODH;KAPH;LAMEDH;MEM;NUN;SAMEKH;AYIN;PE;SADHE;QOPH;RESH;SHIN;TAW"]⟩,
  ⟨0x10b56, "INSCRIPTIONAL PARTHIAN NUMBER ", [";;ONE;TWO;THREE;FOUR;TEN;TWENTY;ONE HUNDRED",
    "ONE THOUSAND"]⟩,
  ⟨0x10b60, "INSCRIPTIONAL PAHLAVI LETTER ", ["ALEPH;BETH;GIMEL;DALETH;HE;WAW-AYIN-RESH;ZAYIN",
    "HETH;TETH;YODH;KAPH;LAMEDH;MEM-QOPH;NUN;SAMEKH;PE;SADHE;SHIN;TAW"]⟩,
  ⟨0x10b73, "INSCRIPTIONAL PAHLAVI NUMBER ", [";;;;;ONE;TWO;THREE;FOUR;TEN;TWENTY;ONE HUNDRED",
    "ONE THOUSAND"]⟩,
  ⟨0x10b80, "PSALTER PAHLAVI LETTER ", ["ALEPH;BETH;GIMEL;DALETH;HE;WAW-AYIN-RESH;ZAYIN;HETH",
    "YODH;KAPH;LAMEDH;MEM-QOPH;NUN;SAMEKH;PE;SADHE;SHIN;TAW"]⟩,
  ⟨0x10b92, "PSALTER PAHLAVI ", [";;;;;;;SECTION MARK;TURNED SECTION MARK;FOUR DOTS WITH CROSS",
    "FOUR DOTS WITH DOT"]⟩,
  ⟨0x10ba9, "PSALTER PAHLAVI NUMBER ", ["ONE;TWO;THREE;FOUR;TEN;TWENTY;ONE HUNDRED"]⟩,
  ⟨0x10c00, "OLD TURKIC LETTER ", ["ORKHON A;YENISEI A;YENISEI AE;ORKHON I;YENISEI I;YENISEI E",
    "ORKHON O;ORKHON OE;YENISEI OE;ORKHON AB;YENISEI AB;ORKHON AEB;YENISEI AEB;ORKHON AG",
    "YENISEI AG;ORKHON AEG;YENISEI AEG;ORKHON AD;YENISEI AD;ORKHON AED;ORKHON EZ;YENISEI EZ",
    "ORKHON AY;YENISEI AY;ORKHON AEY;YENISEI AEY;ORKHON AEK;YENISEI AEK;ORKHON OEK;YENISEI OEK",
    "ORKHON AL;YENISEI AL;ORKHON AEL;ORKHON ELT;ORKHON EM;ORKHON AN;ORKHON AEN;YENISEI AEN",
    "ORKHON ENT;YENISEI ENT;ORKHON ENC;YENISEI ENC;ORKHON ENY;YENISEI ENY;YENISEI ANG;ORKHON ENG",
    "YENISEI AENG;ORKHON EP;ORKHON OP;ORKHON IC;ORKHON EC;YENISEI EC;ORKHON AQ;YENISEI AQ",
    "ORKHON IQ;YENISEI IQ;ORKHON OQ;YENISEI OQ;ORKHON AR;YENISEI AR;ORKHON AER;ORKHON AS",
    "ORKHON AES;ORKHON ASH;YENISEI ASH;ORKHON ESH;YENISEI ESH;ORKHON AT;YENISEI AT;ORKHON AET",
    "YENISEI AET;ORKHON OT;ORKHON BASH"]⟩,
  ⟨0x10c80, "OLD HUNGARIAN CAPITAL LETTER ", ["A;AA;EB;AMB;EC;ENC;ECS;ED;AND;E;CLOSE E;EE;EF;EG",
    "EGY;EH;I;II;EJ;EK;AK;UNK;EL;ELY;EM;EN;ENY;O;OO;NIKOLSBURG OE;RUDIMENTA OE;OEE;EP;EMP;ER",
    "SHORT ER;ES;ESZ;ET;ENT;ETY;ECH;U;UU;NIKOLSBURG UE;RUDIMENTA UE;EV;EZ;EZS;ENT-SHAPED SIGN;US"]⟩,
  ⟨0x10cc0, "OLD HUNGARIAN SMALL LETTER ", ["A;AA;EB;AMB;EC;ENC;ECS;ED;AND;E;CLOSE E;EE;EF;EG",
    "EGY;EH;I;II;EJ;EK;AK;UNK;EL;ELY;EM;EN;ENY;O;OO;NIKOLSBURG OE;RUDIMENTA OE;OEE;EP;EMP;ER",
    "SHORT ER;ES;ESZ;ET;ENT;ETY;ECH;U;UU;NIKOLSBURG UE;RUDIMENTA UE;EV;EZ;EZS;ENT-SHAPED SIGN;US"]⟩,
  ⟨0x10cf3, "OLD HUNGARIAN NUMBER ", [";;;;;;;ONE;FIVE;TEN;FIFTY;ONE HUNDRED;ONE THOUSAND"]⟩,
  ⟨0x10d00, "HANIFI ROHINGYA LETTER ", ["A;BA;PA;TA;TTA;JA;CA;HA;KHA;FA;DA;DDA;RA;RRA;ZA;SA;SHA",
    "KA;GA;LA;MA;NA;WA;KINNA WA;YA;KINNA YA;NGA;NYA;VA"]⟩,
  ⟨0x10d1d, "HANIFI ROHINGYA VOWEL ", ["A;I;U;E;O"]⟩,
  ⟨0x10d22, "HANIFI ROHINGYA MARK ", ["SAKIN;NA KHONNA"]⟩,
  ⟨0x10d24, "HANIFI ROHINGYA SIGN ", ["HARBAHAY;TAHALA;TANA;TASSI"]⟩,
  ⟨0x10d30, "HANIFI ROHINGYA DIGIT ", ["ZERO;ONE;TWO;THREE;FOUR;FIVE;SIX;SEVEN;EIGHT;NINE"]⟩,
  ⟨0x10e60, "RUMI DIGIT ", ["ONE;TWO;THREE;FOUR;FIVE;SIX;SEVEN;EIGHT;NINE"]⟩,
  ⟨0x10e69, "RUMI NUMBER ", ["TEN;TWENTY;THIRTY;FORTY;FIFTY;SIXTY;SEVENTY;EIGHTY;NINETY",
    "ONE HUNDRED;TWO HUNDRED;THREE HUNDRED;FOUR HUNDRED;FIVE HUNDRED;SIX HUNDRED;SEVEN HUNDRED",
    "EIGHT HUNDRED;NINE HUNDRED"]⟩,
  ⟨0x10e7b, "RUMI FRACTION ", ["ONE HALF;ONE QUARTER;ONE THIRD;TWO THIRDS"]⟩,
  ⟨0x10e7f, "YEZIDI LETTER ", [";ELIF;BE;PE;PHE;THE;SE;CIM;CHIM;CHHIM;HHA;XA;DAL;ZAL;RA;RHA;ZA",
    "JA;SIN;SHIN;SAD;DAD;TA;ZE;EYN;XHEYN;FA;VA;VA ALTERNATE FORM;QAF;KAF;KHAF;GAF;LAM;MIM;NUN;UM",
    "WAW;OW;EW;HAY;YOT;ET"]⟩,
  ⟨0x10eaa, "YEZIDI ", [";COMBINING HAMZA MARK;COMBINING MADDA MARK;HYPHENATION MARK;;",
    "LETTER LAM WITH DOT ABOVE;LETTER YOT WITH CIRCUMFLEX ABOVE"]⟩,
  ⟨0x10f00, "OLD SOGDIAN LETTER ", ["ALEPH;FINAL ALEPH;BETH;FINAL BETH;GIMEL;HE;FINAL HE;WAW",
    "ZAYIN;HETH;YODH;KAPH;LAMEDH;MEM;NUN;FINAL NUN;FINAL NUN WITH VERTICAL TAIL;SAMEKH;AYIN",
    "ALTERNATE AYIN;PE;SADHE;FINAL SADHE;FINAL SADHE WITH VERTICAL TAIL;RESH-AYIN-DALETH;SHIN",
    "TAW;FINAL TAW;FINAL TAW WITH VERTICAL TAIL"]⟩,
  ⟨0x10f1d, "OLD SOGDIAN NUMBER ", ["ONE;TWO;THREE;FOUR;FIVE;TEN;TWENTY;THIRTY;ONE HUNDRED"]⟩,
  ⟨0x10f26, "OLD SOGDIAN ", ["FRACTION ONE HALF;LIGATURE AYIN-DALETH"]⟩,
  ⟨0x10f30, "SOGDIAN LETTER ", ["ALEPH;BETH;GIMEL;HE;WAW;ZAYIN;HETH;YODH;KAPH;LAMEDH;MEM;NUN",
    "SAMEKH;AYIN;PE;SADHE;RESH-AYIN;SHIN;TAW;FETH;LESH"]⟩,
  ⟨0x10f45, "SOGDIAN INDEPENDENT SHI", ["N"]⟩,
  ⟨0x10f46, "SOGDIAN COMBINING ", ["DOT BELOW;TWO DOTS BELOW;DOT ABOVE;TWO DOTS ABOVE",
    "CURVE ABOVE;CURVE BELOW;HOOK ABOVE;HOOK BELOW;LONG HOOK BELOW;RESH BELOW;STROKE BELOW"]⟩,
  ⟨0x10f51, "SOGDIAN NUMBER ", ["ONE;TEN;TWENTY;ONE HUNDRED"]⟩,
  ⟨0x10f55, "SOGDIAN PUNCTUATION ", ["TWO VERTICAL BARS;TWO VERTICAL BARS WITH DOTS",
    "CIRCLE WITH DOT;TWO CIRCLES WITH DOTS;HALF CIRCLE WITH DOT"]⟩,
  ⟨0x10f70, "OLD UYGHUR LETTER ", ["ALEPH;BETH;GIMEL-HETH;WAW;ZAYIN;FINAL HETH;YODH;KAPH;LAMEDH",
    "MEM;NUN;SAMEKH;PE;SADHE;RESH;SHIN;TAW;LESH"]⟩,
  ⟨0x10f82, "OLD UYGHUR COMBINING ", ["DOT ABOVE;DOT BELOW;TWO DOTS ABOVE;TWO DOTS BELOW"]⟩,
  ⟨0x10f86, "OLD UYGHUR PUNCTUATION ", ["BAR;TWO BARS;TWO DOTS;FOUR DOTS"]⟩,
  ⟨0x10fb0, "CHORASMIAN LETTER ", ["ALEPH;SMALL ALEPH;BETH;GIMEL;DALETH;HE;WAW;CURLED WAW;ZAYIN",
    "HETH;YODH;KAPH;LAMEDH;MEM;NUN;SAMEKH;AYIN;PE;RESH;SHIN;TAW"]⟩,
  ⟨0x10fc5, "CHORASMIAN NUMBER ", ["ONE;TWO;THREE;FOUR;TEN;TWENTY;ONE HUNDRED"]⟩,
  ⟨0x10fe0, "ELYMAIC LETTER ", ["ALEPH;BETH;GIMEL;DALETH;HE;WAW;ZAYIN;HETH;TETH;YODH;KAPH",
    "LAMEDH;MEM;NUN;SAMEKH;AYIN;PE;SADHE;QOPH;RESH;SHIN;TAW"]⟩,
  ⟨0x10ff6, "ELYMAIC LIGATURE ZAYIN-YOD", ["H"]⟩,
  ⟨0x11000, "BRAHMI SIGN ", ["CANDRABINDU;ANUSVARA;VISARGA;JIHVAMULIYA;UPADHMANIYA"]⟩,
  ⟨0x11005, "BRAHMI LETTER ", ["A;AA;I;II;U;UU;VOCALIC R;VOCALIC RR;VOCALIC L;VOCALIC LL;E;AI;O",
    "AU;KA;KHA;GA;GHA;NGA;CA;CHA;JA;JHA;NYA;TTA;TTHA;DDA;DDHA;NNA;TA;THA;DA;DHA;NA;PA;PHA;BA;BHA",
    "MA;YA;RA;LA;VA;SHA;SSA;SA;HA;LLA"]⟩,
  ⟨0x11035, "BRAHMI LETTER OLD TAMIL ", ["LLLA;RRA;NNNA"]⟩,
  ⟨0x11038, "BRAHMI VOWEL SIGN ", ["AA;BHATTIPROLU AA;I;II;U;UU;VOCALIC R;VOCALIC RR;VOCALIC L",
    "VOCALIC LL;E;AI;O;AU"]⟩,
  ⟨0x11046, "BRAHMI ", ["VIRAMA;DANDA;DOUBLE DANDA"]⟩,
  ⟨0x11049, "BRAHMI PUNCTUATION ", ["DOT;DOUBLE DOT;LINE;CRESCENT BAR;LOTUS"]⟩,
  ⟨0x1104e, "BRAHMI NUMBER ", [";;;;ONE;TWO;THREE;FOUR;FIVE;SIX;SEVEN;EIGHT;NINE;TEN;TWENTY",
    "THIRTY;FORTY;FIFTY;SIXTY;SEVENTY;EIGHTY;NINETY;ONE HUNDRED;ONE THOUSAND"]⟩,
  ⟨0x11066, "BRAHMI DIGIT ", ["ZERO;ONE;TWO;THREE;FOUR;FIVE;SIX;SEVEN;EIGHT;NINE"]⟩,
  ⟨0x11070, "BRAHMI SIGN OLD TAMIL VIRAM", ["A"]⟩,
  ⟨0x11071, "BRAHMI LETTER OLD TAMIL SHORT ", ["E;O"]⟩,
  ⟨0x11073, "BRAHMI VOWEL SIGN OLD TAMIL SHORT ", ["E;O"]⟩,
  ⟨0x11075, "BRAHMI LETTER OLD TAMIL LL", ["A"]⟩,
  ⟨0x1107f, "BRAHMI NUMBER JOINE", ["R"]⟩,
  ⟨0x11080, "KAITHI SIGN ", ["CANDRABINDU;ANUSVARA;VISARGA"]⟩,
  ⟨0x11083, "KAITHI LETTER ", ["A;AA;I;II;U;UU;E;AI;O;AU;KA;KHA;GA;GHA;NGA;CA;CHA;JA;JHA;NYA",
    "TTA;TTHA;DDA;DDDHA;DDHA;RHA;NNA;TA;THA;DA;DHA;NA;PA;PHA;BA;BHA;MA;YA;RA;LA;VA;SHA;SSA;SA;HA"]⟩,
  ⟨0x110b0, "KAITHI VOWEL SIGN ", ["AA;I;II;U;UU;E;AI;O;AU"]⟩,
  ⟨0x110b9, "KAITHI ", ["SIGN VIRAMA;SIGN NUKTA;ABBREVIATION SIGN;ENUMERATION SIGN;NUMBER SIGN",
    "SECTION MARK;DOUBLE SECTION MARK;DANDA;DOUBLE DANDA;VOWEL SIGN VOCALIC R"]⟩,
  ⟨0x110cd, "KAITHI NUMBER SIGN ABOV", ["E"]⟩,
  ⟨0x110ce, "SORA SOMPENG LETTER ", [";;SAH;TAH;BAH;CAH;DAH;GAH;MAH;NGAH;LAH;NAH;VAH;PAH;YAH",
    "RAH;HAH;KAH;JAH;NYAH;AH;EEH;IH;UH;OH;EH;MAE"]⟩,
  ⟨0x110e9, "SORA SOMPENG DIGIT ", [";;;;;;;ZERO;ONE;TWO;THREE;FOUR;FIVE;SIX;SEVEN;EIGHT;NINE"]⟩,
  ⟨0x110fa, "CHAKMA SIGN ", [";;;;;;CANDRABINDU;ANUSVARA;VISARGA"]⟩,
  ⟨0x11103, "CHAKMA LETTER ", ["AA;I;U;E;KAA;KHAA;GAA;GHAA;NGAA;CAA;CHAA;JAA;JHAA;NYAA;TTAA",
    "TTHAA;DDAA;DDHAA;NNAA;TAA;THAA;DAA;DHAA;NAA;PAA;PHAA;BAA;BHAA;MAA;YYAA;YAA;RAA;LAA;WAA;SAA",
    "HAA"]⟩,
  ⟨0x11127, "CHAKMA VOWEL SIGN ", ["A;I;II;U;UU;E;AI;O;AU;OI"]⟩,
  ⟨0x11131, "CHAKMA ", ["O MARK;AU MARK;VIRAMA;MAAYYAA"]⟩,
  ⟨0x11135, "CHAKMA DIGIT ", [";ZERO;ONE;TWO;THREE;FOUR;FIVE;SIX;SEVEN;EIGHT;NINE"]⟩,
  ⟨0x11140, "CHAKMA ", ["SECTION MARK;DANDA;DOUBLE DANDA;QUESTION MARK;LETTER LHAA",
    "VOWEL SIGN AA;VOWEL SIGN EI;LETTER VAA"]⟩,
  ⟨0x11150, "MAHAJANI LETTER ", ["A;I;U;E;O;KA;KHA;GA;GHA;CA;CHA;JA;JHA;NYA;TTA;TTHA;DDA;DDHA",
    "NNA;TA;THA;DA;DHA;NA;PA;PHA;BA;BHA;MA;RA;LA;VA;SA;HA;RRA"]⟩,
  ⟨0x11173, "MAHAJANI ", ["SIGN NUKTA;ABBREVIATION SIGN;SECTION MARK;LIGATURE SHRI"]⟩,
  ⟨0x11180, "SHARADA SIGN ", ["CANDRABINDU;ANUSVARA;VISARGA"]⟩,
  ⟨0x11183, "SHARADA LETTER ", ["A;AA;I;II;U;UU;VOCALIC R;VOCALIC RR;VOCALIC L;VOCALIC LL;E;AI",
    "O;AU;KA;KHA;GA;GHA;NGA;CA;CHA;JA;JHA;NYA;TTA;TTHA;DDA;DDHA;NNA;TA;THA;DA;DHA;NA;PA;PHA;BA",
    "BHA;MA;YA;RA;LA;LLA;VA;SHA;SSA;SA;HA"]⟩,
  ⟨0x111b3, "SHARADA VOWEL SIGN ", ["AA;I;II;U;UU;VOCALIC R;VOCALIC RR;VOCALIC L;VOCALIC LL;E",
    "AI;O;AU"]⟩,
  ⟨0x111c0, "SHARADA SIGN ", ["VIRAMA;AVAGRAHA;JIHVAMULIYA;UPADHMANIYA"]⟩,
  ⟨0x111c4, "SHARADA ", ["OM;DANDA;DOUBLE DANDA;ABBREVIATION SIGN;SEPARATOR;SANDHI MARK",
    "SIGN NUKTA;VOWEL MODIFIER MARK;EXTRA SHORT VOWEL MARK;SUTRA MARK;VOWEL SIGN PRISHTHAMATRA E",
    "SIGN INVERTED CANDRABINDU"]⟩,
  ⟨0x111d0, "SHARADA DIGIT ", ["ZERO;ONE;TWO;THREE;FOUR;FIVE;SIX;SEVEN;EIGHT;NINE"]⟩,
  ⟨0x111da, "SHARADA ", ["EKAM;SIGN SIDDHAM;HEADSTROKE;CONTINUATION SIGN"]⟩,
  ⟨0x111de, "SHARADA SECTION MARK-", ["1;2"]⟩,
  ⟨0x111e0, "SINHALA ARCHAIC DIGIT ", [";ONE;TWO;THREE;FOUR;FIVE;SIX;SEVEN;EIGHT;NINE"]⟩,
  ⟨0x111ea, "SINHALA ARCHAIC NUMBER ", ["TEN;TWENTY;THIRTY;FORTY;FIFTY;SIXTY;SEVENTY;EIGHTY",
    "NINETY;ONE HUNDRED;ONE THOUSAND"]⟩,
  ⟨0x11200, "KHOJKI LETTER ", ["A;AA;I;U;E;AI;O;AU;KA;KHA;GA;GGA;GHA;NGA;CA;CHA;JA;JJA;;NYA;TTA",
    "TTHA;DDA;DDHA;NNA;TA;THA;DA;DDDA;DHA;NA;PA;PHA;BA;BBA;BHA;MA;YA;RA;LA;VA;SA;HA;LLA"]⟩,
  ⟨0x1122c, "KHOJKI VOWEL SIGN ", ["AA;I;II;U;E;AI;O;AU"]⟩,
  ⟨0x11234, "KHOJKI SIGN ", ["ANUSVARA;VIRAMA;NUKTA;SHADDA"]⟩,
  ⟨0x11238, "KHOJKI ", ["DANDA;DOUBLE DANDA;WORD SEPARATOR;SECTION MARK;DOUBLE SECTION MARK",
    "ABBREVIATION SIGN;SIGN SUKUN"]⟩,
  ⟨0x11280, "MULTANI LETTER ", ["A;I;U;E;KA;KHA;GA;;GHA;;CA;CHA;JA;JJA;;NYA;TTA;TTHA;DDA;DDDA",
    "DDHA;NNA;TA;THA;DA;DHA;NA;PA;PHA;BA;;BHA;MA;YA;RA;LA;VA;SA;HA;RRA;RHA"]⟩,
  ⟨0x112a9, "MULTANI SECTION MAR", ["K"]⟩,
  ⟨0x112aa, "KHUDAWADI LETTER ", [";;;;;;A;AA;I;II;U;UU;E;AI;O;AU;KA;KHA;GA;GGA;GHA;NGA;CA;CHA",
    "JA;JJA;JHA;NYA;TTA;TTHA;DDA;DDDA;RRA;DDHA;NNA;TA;THA;DA;DHA;NA;PA;PHA;BA;BBA;BHA;MA;YA;RA",
    "LA;VA;SHA;SA;HA"]⟩,
  ⟨0x112df, "KHUDAWADI SIGN ANUSVAR", ["A"]⟩,
  ⟨0x112e0, "KHUDAWADI VOWEL SIGN ", ["AA;I;II;U;UU;E;AI;O;AU"]⟩,
  ⟨0x112e9, "KHUDAWADI SIGN ", ["NUKTA;VIRAMA"]⟩,
  ⟨0x112eb, "KHUDAWADI DIGIT ", [";;;;;ZERO;ONE;TWO;THREE;FOUR;FIVE;SIX;SEVEN;EIGHT;NINE"]⟩,
  ⟨0x112fa, "GRANTHA SIGN ", [";;;;;;COMBINING ANUSVARA ABOVE;CANDRABINDU;ANUSVARA;VISARGA"]⟩,
  ⟨0x11304, "GRANTHA LETTER ", [";A;AA;I;II;U;UU;VOCALIC R;VOCALIC L;;;EE;AI;;;OO;AU;KA;KHA;GA",
    "GHA;NGA;CA;CHA;JA;JHA;NYA;TTA;TTHA;DDA;DDHA;NNA;TA;THA;DA;DHA;NA;;PA;PHA;BA;BHA;MA;YA;RA;",
    "LA;LLA;;VA;SHA;SSA;SA;HA"]⟩]

/-- Ancient scripts, and further scripts of South Asia, from U+1133A on. -/
def ancientPartC : List Block := [
  ⟨0x1133a, "COMBINING BINDU BELO", [";W"]⟩,
  ⟨0x1133c, "GRANTHA SIGN ", ["NUKTA;AVAGRAHA"]⟩,
  ⟨0x1133e, "GRANTHA VOWEL SIGN ", ["AA;I;II;U;UU;VOCALIC R;VOCALIC RR;;;EE;AI;;;OO;AU"]⟩,
  ⟨0x1134d, "GRANTHA ", ["SIGN VIRAMA;;;OM;;;;;;;AU LENGTH MARK;;;;;;SIGN PLUTA"]⟩,
  ⟨0x1135e, "GRANTHA LETTER V", ["EDIC ANUSVARA;EDIC DOUBLE ANUSVARA;OCALIC RR;OCALIC LL"]⟩,
  ⟨0x11362, "GRANTHA VOWEL SIGN VOCALIC ", ["L;LL"]⟩,
  ⟨0x11364, "COMBINING GRANTHA DIGIT ", [";;ZERO;ONE;TWO;THREE;FOUR;FIVE;SIX"]⟩,
  ⟨0x1136d, "COMBINING GRANTHA LETTER ", [";;;A;KA;NA;VI;PA"]⟩,
  ⟨0x11400, "NEWA LETTER ", ["A;AA;I;II;U;UU;VOCALIC R;VOCALIC RR;VOCALIC L;VOCALIC LL;E;AI;O",
    "AU;KA;KHA;GA;GHA;NGA;NGHA;CA;CHA;JA;JHA;NYA;NYHA;TTA;TTHA;DDA;DDHA;NNA;TA;THA;DA;DHA;NA;NHA",
    "PA;PHA;BA;BHA;MA;MHA;YA;RA;RHA;LA;LHA;WA;SHA;SSA;SA;HA"]⟩,
  ⟨0x11435, "NEWA VOWEL SIGN ", ["AA;I;II;U;UU;VOCALIC R;VOCALIC RR;VOCALIC L;VOCALIC LL;E;AI;O",
    "AU"]⟩,
  ⟨0x11442, "NEWA SIGN ", ["VIRAMA;CANDRABINDU;ANUSVARA;VISARGA;NUKTA;AVAGRAHA;FINAL ANUSVARA"]⟩,
  ⟨0x11449, "NEWA ", ["OM;SIDDHI;DANDA;DOUBLE DANDA;COMMA;GAP FILLER;ABBREVIATION SIGN"]⟩,
  ⟨0x11450, "NEWA DIGIT ", ["ZERO;ONE;TWO;THREE;FOUR;FIVE;SIX;SEVEN;EIGHT;NINE"]⟩,
  ⟨0x1145a, "NEWA ", ["DOUBLE COMMA;PLACEHOLDER MARK;;INSERTION SIGN;SANDHI MARK",
    "LETTER VEDIC ANUSVARA;SIGN JIHVAMULIYA;SIGN UPADHMANIYA"]⟩,
  ⟨0x11480, "TIRHUTA ANJ", ["I"]⟩,
  ⟨0x11481, "TIRHUTA LETTER ", ["A;AA;I;II;U;UU;VOCALIC R;VOCALIC RR;VOCALIC L;VOCALIC LL;E;AI",
    "O;AU;KA;KHA;GA;GHA;NGA;CA;CHA;JA;JHA;NYA;TTA;TTHA;DDA;DDHA;NNA;TA;THA;DA;DHA;NA;PA;PHA;BA",
    "BHA;MA;YA;RA;LA;VA;SHA;SSA;SA;HA"]⟩,
  ⟨0x114b0, "TIRHUTA VOWEL SIGN ", ["AA;I;II;U;UU;VOCALIC R;VOCALIC RR;VOCALIC L;VOCALIC LL;E",
    "SHORT E;AI;O;SHORT O;AU"]⟩,
  ⟨0x114bf, "TIRHUTA SIGN ", ["CANDRABINDU;ANUSVARA;VISARGA;VIRAMA;NUKTA;AVAGRAHA"]⟩,
  ⟨0x114c5, "TIRHUTA ", ["GVANG;ABBREVIATION SIGN;OM"]⟩,
  ⟨0x114d0, "TIRHUTA DIGIT ", ["ZERO;ONE;TWO;THREE;FOUR;FIVE;SIX;SEVEN;EIGHT;NINE"]⟩,
  ⟨0x11580, "SIDDHAM LETTER ", ["A;AA;I;II;U;UU;VOCALIC R;VOCALIC RR;VOCALIC L;VOCALIC LL;E;AI",
    "O;AU;KA;KHA;GA;GHA;NGA;CA;CHA;JA;JHA;NYA;TTA;TTHA;DDA;DDHA;NNA;TA;THA;DA;DHA;NA;PA;PHA;BA",
    "BHA;MA;YA;RA;LA;VA;SHA;SSA;SA;HA"]⟩,
  ⟨0x115af, "SIDDHAM VOWEL SIGN ", ["AA;I;II;U;UU;VOCALIC R;VOCALIC RR;;;E;AI;O;AU"]⟩,
  ⟨0x115bc, "SIDDHAM SIGN ", ["CANDRABINDU;ANUSVARA;VISARGA;VIRAMA;NUKTA;SIDDHAM"]⟩,
  ⟨0x115c2, "SIDDHAM ", ["DANDA;DOUBLE DANDA;SEPARATOR DOT;SEPARATOR BAR"]⟩,
  ⟨0x115c6, "SIDDHAM REPETITION MARK-", ["1;2;3"]⟩,
  ⟨0x115c9, "SIDDHAM END OF TEXT MAR", ["K"]⟩,
  ⟨0x115ca, "SIDDHAM SECTION MARK WITH TRIDENT AND ", ["U-SHAPED ORNAMENTS;DOTTED CRESCENTS"]⟩,
  ⟨0x115cc, "SIDDHAM SECTION MARK WITH RAYS AND DOTTED ", ["CRESCENTS;DOUBLE CRESCENTS",
    "TRIPLE CRESCENTS"]⟩,
  ⟨0x115cf, "SIDDHAM SECTION MARK DOUBLE RIN", ["G;G WITH RAYS"]⟩,
  ⟨0x115d1, "SIDDHAM SECTION MARK WITH ", ["DOUBLE CRESCENTS;TRIPLE CRESCENTS",
    "QUADRUPLE CRESCENTS;SEPTUPLE CRESCENTS;CIRCLES AND RAYS;CIRCLES AND TWO ENCLOSURES",
    "CIRCLES AND FOUR ENCLOSURES"]⟩,
  ⟨0x115d8, "SIDDHAM LETTER ", ["THREE-CIRCLE ALTERNATE I;TWO-CIRCLE ALTERNATE I",
    "TWO-CIRCLE ALTERNATE II;ALTERNATE U"]⟩,
  ⟨0x115dc, "SIDDHAM VOWEL SIGN ALTERNATE ", ["U;UU"]⟩,
  ⟨0x11600, "MODI LETTER ", ["A;AA;I;II;U;UU;VOCALIC R;VOCALIC RR;VOCALIC L;VOCALIC LL;E;AI;O",
    "AU;KA;KHA;GA;GHA;NGA;CA;CHA;JA;JHA;NYA;TTA;TTHA;DDA;DDHA;NNA;TA;THA;DA;DHA;NA;PA;PHA;BA;BHA",
    "MA;YA;RA;LA;VA;SHA;SSA;SA;HA;LLA"]⟩,
  ⟨0x11630, "MODI VOWEL SIGN ", ["AA;I;II;U;UU;VOCALIC R;VOCALIC RR;VOCALIC L;VOCALIC LL;E;AI;O",
    "AU"]⟩,
  ⟨0x1163d, "MODI SIGN ", ["ANUSVARA;VISARGA;VIRAMA;ARDHACANDRA"]⟩,
  ⟨0x11641, "MODI ", ["DANDA;DOUBLE DANDA;ABBREVIATION SIGN;SIGN HUVA"]⟩,
  ⟨0x11650, "MODI DIGIT ", ["ZERO;ONE;TWO;THREE;FOUR;FIVE;SIX;SEVEN;EIGHT;NINE"]⟩,
  ⟨0x1165a, "MONGOLIAN ", [";;;;;;BIRGA WITH ORNAMENT;ROTATED BIRGA;DOUBLE BIRGA WITH ORNAMENT",
    "TRIPLE BIRGA WITH ORNAMENT;BIRGA WITH DOUBLE ORNAMENT;ROTATED BIRGA WITH ORNAMENT",
    "ROTATED BIRGA WITH DOUBLE ORNAMENT;INVERTED BIRGA;INVERTED BIRGA WITH DOUBLE ORNAMENT",
    "SWIRL BIRGA;SWIRL BIRGA WITH ORNAMENT;SWIRL BIRGA WITH DOUBLE ORNAMENT",
    "TURNED SWIRL BIRGA WITH DOUBLE ORNAMENT"]⟩,
  ⟨0x11680, "TAKRI LETTER ", ["A;AA;I;II;U;UU;E;AI;O;AU;KA;KHA;GA;GHA;NGA;CA;CHA;JA;JHA;NYA;TTA",
    "TTHA;DDA;DDHA;NNA;TA;THA;DA;DHA;NA;PA;PHA;BA;BHA;MA;YA;RA;LA;VA;SHA;SA;HA;RRA"]⟩,
  ⟨0x116ab, "TAKRI SIGN ", ["ANUSVARA;VISARGA"]⟩,
  ⟨0x116ad, "TAKRI VOWEL SIGN ", ["AA;I;II;U;UU;E;AI;O;AU"]⟩,
  ⟨0x116b6, "TAKRI ", ["SIGN VIRAMA;SIGN NUKTA;LETTER ARCHAIC KHA;ABBREVIATION SIGN"]⟩,
  ⟨0x116ba, "TAKRI DIGIT ", [";;;;;;ZERO;ONE;TWO;THREE;FOUR;FIVE;SIX;SEVEN;EIGHT;NINE"]⟩,
  ⟨0x11700, "AHOM LETTER ", ["KA;KHA;NGA;NA;TA;ALTERNATE TA;PA;PHA;BA;MA;JA;CHA;THA;RA;LA;SA",
    "NYA;HA;A;DA;DHA;GA;ALTERNATE GA;GHA;BHA;JHA;ALTERNATE BA"]⟩,
  ⟨0x1171b, "AHOM CONSONANT SIGN MEDIAL ", [";;LA;RA;LIGATING RA"]⟩,
  ⟨0x11720, "AHOM VOWEL SIGN ", ["A;AA;I;II;U;UU;E;AW;O;AI;AM"]⟩,
  ⟨0x1172b, "AHOM SIGN KILLE", ["R"]⟩,
  ⟨0x1172c, "AHOM DIGIT ", [";;;;ZERO;ONE;TWO;THREE;FOUR;FIVE;SIX;SEVEN;EIGHT;NINE"]⟩,
  ⟨0x1173a, "AHOM NUMBER T", ["EN;WENTY"]⟩,
  ⟨0x1173c, "AHOM S", ["IGN SMALL SECTION;IGN SECTION;IGN RULAI;YMBOL VI"]⟩,
  ⟨0x11740, "AHOM LETTER ", ["CA;TTA;TTHA;DDA;DDHA;NNA;LLA"]⟩,
  ⟨0x11800, "DOGRA LETTER ", ["A;AA;I;II;U;UU;E;AI;O;AU;KA;KHA;GA;GHA;NGA;CA;CHA;JA;JHA;NYA;TTA",
    "TTHA;DDA;DDHA;NNA;TA;THA;DA;DHA;NA;PA;PHA;BA;BHA;MA;YA;RA;LA;VA;SHA;SSA;SA;HA;RRA"]⟩,
  ⟨0x1182c, "DOGRA VOWEL SIGN ", ["AA;I;II;U;UU;VOCALIC R;VOCALIC RR;E;AI;O;AU"]⟩,
  ⟨0x11837, "DOGRA SIGN ", ["ANUSVARA;VISARGA;VIRAMA;NUKTA"]⟩,
  ⟨0x1183b, "DOGRA ABBREVIATION SIG", ["N"]⟩,
  ⟨0x118a0, "WARANG CITI CAPITAL LETTER ", ["NGAA;A;WI;YU;YA;YO;II;UU;E;O;ANG;GA;KO;ENY;YUJ;UC",
    "ENN;ODD;TTE;NUNG;DA;AT;AM;BU;PU;HIYO;HOLO;HORR;HAR;SSUU;SII;VIYO"]⟩,
  ⟨0x118c0, "WARANG CITI SMALL LETTER ", ["NGAA;A;WI;YU;YA;YO;II;UU;E;O;ANG;GA;KO;ENY;YUJ;UC",
    "ENN;ODD;TTE;NUNG;DA;AT;AM;BU;PU;HIYO;HOLO;HORR;HAR;SSUU;SII;VIYO"]⟩,
  ⟨0x118e0, "WARANG CITI DIGIT ", ["ZERO;ONE;TWO;THREE;FOUR;FIVE;SIX;SEVEN;EIGHT;NINE"]⟩,
  ⟨0x118ea, "WARANG CITI NUMBER ", ["TEN;TWENTY;THIRTY;FORTY;FIFTY;SIXTY;SEVENTY;EIGHTY;NINETY"]⟩,
  ⟨0x118ff, "WARANG CITI O", ["M"]⟩,
  ⟨0x11900, "DIVES AKURU LETTER ", ["A;AA;I;II;U;UU;E;;;O;;;KA;KHA;GA;GHA;NGA;CA;CHA;JA;;NYA",
    "TTA;;DDA;DDHA;NNA;TA;THA;DA;DHA;NA;PA;PHA;BA;BHA;MA;YA;YYA;RA;LA;VA;SHA;SSA;SA;HA;LLA;ZA"]⟩,
  ⟨0x11930, "DIVES AKURU VOWEL SIGN ", ["AA;I;II;U;UU;E;;AI;O"]⟩,
  ⟨0x11939, "DIVES AKURU ", [";;SIGN ANUSVARA;SIGN CANDRABINDU;SIGN HALANTA;VIRAMA",
    "PREFIXED NASAL SIGN;MEDIAL YA;INITIAL RA;MEDIAL RA;SIGN NUKTA;DOUBLE DANDA;GAP FILLER",
    "END OF TEXT MARK"]⟩,
  ⟨0x11950, "DIVES AKURU DIGIT ", ["ZERO;ONE;TWO;THREE;FOUR;FIVE;SIX;SEVEN;EIGHT;NINE"]⟩,
  ⟨0x119a0, "NANDINAGARI LETTER ", ["A;AA;I;II;U;UU;VOCALIC R;VOCALIC RR;;;E;AI;O;AU;KA;KHA;GA",
    "GHA;NGA;CA;CHA;JA;JHA;NYA;TTA;TTHA;DDA;DDHA;NNA;TA;THA;DA;DHA;NA;PA;PHA;BA;BHA;MA;YA;RA;LA",
    "VA;SHA;SSA;SA;HA;LLA;RRA"]⟩,
  ⟨0x119d1, "NANDINAGARI VOWEL SIGN ", ["AA;I;II;U;UU;VOCALIC R;VOCALIC RR;;;E;AI;O;AU"]⟩,
  ⟨0x119de, "NANDINAGARI SIGN ", ["ANUSVARA;VISARGA;VIRAMA;AVAGRAHA;SIDDHAM"]⟩,
  ⟨0x119e3, "NANDINAGARI ", ["HEADSTROKE;VOWEL SIGN PRISHTHAMATRA E"]⟩,
  ⟨0x11a00, "ZANABAZAR SQUARE LETTER ", ["A"]⟩,
  ⟨0x11a01, "ZANABAZAR SQUARE VOWEL SIGN ", ["I;UE;U;E;OE;O;AI;AU;REVERSED I"]⟩,
  ⟨0x11a0a, "ZANABAZAR SQUARE VOWEL LENGTH MAR", ["K"]⟩,
  ⟨0x11a0b, "ZANABAZAR SQUARE LETTER ", ["KA;KHA;GA;GHA;NGA;CA;CHA;JA;NYA;TTA;TTHA;DDA;DDHA;NNA",
    "TA;THA;DA;DHA;NA;PA;PHA;BA;BHA;MA;TSA;TSHA;DZA;DZHA;ZHA;ZA;-A;YA;RA;LA;VA;SHA;SSA;SA;HA",
    "KSSA"]⟩,
  ⟨0x11a33, "ZANABAZAR SQUARE ", ["FINAL CONSONANT MARK;SIGN VIRAMA;SIGN CANDRABINDU",
    "SIGN CANDRABINDU WITH ORNAMENT;SIGN CANDRA WITH ORNAMENT;SIGN ANUSVARA;SIGN VISARGA",
    "CLUSTER-INITIAL LETTER RA"]⟩,
  ⟨0x11a3b, "ZANABAZAR SQUARE CLUSTER-FINAL LETTER ", ["YA;RA;LA;VA"]⟩,
  ⟨0x11a3f, "ZANABAZAR SQUARE ", ["INITIAL HEAD MARK;CLOSING HEAD MARK;MARK TSHEG;MARK SHAD",
    "MARK DOUBLE SHAD;MARK LONG TSHEG;INITIAL DOUBLE-LINED HEAD MARK",
    "CLOSING DOUBLE-LINED HEAD MARK;SUBJOINER"]⟩,
  ⟨0x11a50, "SOYOMBO LETTER ", ["A"]⟩,
  ⟨0x11a51, "SOYOMBO VOWEL SIGN ", ["I;UE;U;E;O;OE;AI;AU;VOCALIC R;VOCALIC L"]⟩,
  ⟨0x11a5b, "SOYOMBO VOWEL LENGTH MAR", ["K"]⟩,
  ⟨0x11a5c, "SOYOMBO LETTER ", ["KA;KHA;GA;GHA;NGA;CA;CHA;JA;JHA;NYA;TTA;TTHA;DDA;DDHA;NNA;TA",
    "THA;DA;DHA;NA;PA;PHA;BA;BHA;MA;TSA;TSHA;DZA;ZHA;ZA;-A;YA;RA;LA;VA;SHA;SSA;SA;HA;KSSA"]⟩,
  ⟨0x11a84, "SOYOMBO SIGN ", ["JIHVAMULIYA;UPADHMANIYA"]⟩,
  ⟨0x11a86, "SOYOMBO CLUSTER-INITIAL LETTER ", ["RA;LA;SHA;SA"]⟩,
  ⟨0x11a8a, "SOYOMBO FINAL CONSONANT SIGN ", ["G;K;NG;D;N;B;M;R;L;SH;S;-A"]⟩,
  ⟨0x11a96, "SOYOMBO ", ["SIGN ANUSVARA;SIGN VISARGA;GEMINATION MARK;SUBJOINER"]⟩,
  ⟨0x11a9a, "SOYOMBO MARK ", ["TSHEG;SHAD;DOUBLE SHAD;PLUTA"]⟩,
  ⟨0x11a9e, "SOYOMBO HEAD MARK WITH MOON AND SU", ["N AND TRIPLE FLAME;N AND FLAME;N"]⟩,
  ⟨0x11aa1, "SOYOMBO TERMINAL MARK-", ["1;2"]⟩,
  ⟨0x11ab0, "CANADIAN SYLLABICS NATTILIK ", ["HI;HII;HO;HOO;HA;HAA;SHRI;SHRII;SHRO;SHROO;SHRA",
    "SHRAA"]⟩,
  ⟨0x11abc, "CANADIAN SYLLABICS SP", ["E;I;O;A"]⟩,
  ⟨0x11ac0, "PAU CIN HAU LETTER ", ["PA;KA;LA;MA;DA;ZA;VA;NGA;HA;GA;KHA;SA;BA;CA;TA;THA;NA;PHA",
    "RA;FA;CHA;A;E;I;O;U;UA;IA"]⟩,
  ⟨0x11adc, "PAU CIN HAU LETTER FINAL ", ["P;K;T;M;N;L;W;NG;Y"]⟩,
  ⟨0x11ae5, "PAU CIN HAU ", ["RISING TONE LONG;RISING TONE;SANDHI GLOTTAL STOP",
    "RISING TONE LONG FINAL;RISING TONE FINAL;SANDHI GLOTTAL STOP FINAL;SANDHI TONE LONG",
    "SANDHI TONE;SANDHI TONE LONG FINAL;SANDHI TONE FINAL;MID-LEVEL TONE;GLOTTAL STOP VARIANT",
    "MID-LEVEL TONE LONG FINAL;MID-LEVEL TONE FINAL;LOW-FALLING TONE LONG;LOW-FALLING TONE",
    "GLOTTAL STOP;LOW-FALLING TONE LONG FINAL;LOW-FALLING TONE FINAL;GLOTTAL STOP FINAL"]⟩,
  ⟨0x11c00, "BHAIKSUKI LETTER ", ["A;AA;I;II;U;UU;VOCALIC R;VOCALIC RR;VOCALIC L;;E;AI;O;AU;KA",
    "KHA;GA;GHA;NGA;CA;CHA;JA;JHA;NYA;TTA;TTHA;DDA;DDHA;NNA;TA;THA;DA;DHA;NA;PA;PHA;BA;BHA;MA;YA",
    "RA;LA;VA;SHA;SSA;SA;HA"]⟩,
  ⟨0x11c2f, "BHAIKSUKI VOWEL SIGN ", ["AA;I;II;U;UU;VOCALIC R;VOCALIC RR;VOCALIC L;;E;AI;O;AU"]⟩,
  ⟨0x11c3c, "BHAIKSUKI SIGN ", ["CANDRABINDU;ANUSVARA;VISARGA;VIRAMA;AVAGRAHA"]⟩,
  ⟨0x11c41, "BHAIKSUKI ", ["DANDA;DOUBLE DANDA;WORD SEPARATOR;GAP FILLER-1;GAP FILLER-2"]⟩,
  ⟨0x11c50, "BHAIKSUKI DIGIT ", ["ZERO;ONE;TWO;THREE;FOUR;FIVE;SIX;SEVEN;EIGHT;NINE"]⟩,
  ⟨0x11c5a, "BHAIKSUKI NUMBER ", ["ONE;TWO;THREE;FOUR;FIVE;SIX;SEVEN;EIGHT;NINE;TEN;TWENTY",
    "THIRTY;FORTY;FIFTY;SIXTY;SEVENTY;EIGHTY;NINETY"]⟩,
  ⟨0x11c6c, "BHAIKSUKI HUNDREDS UNIT MAR", ["K"]⟩,
  ⟨0x11c6d, "MARCHEN ", [";;;HEAD MARK;MARK SHAD"]⟩,
  ⟨0x11c72, "MARCHEN LETTER ", ["KA;KHA;GA;NGA;CA;CHA;JA;NYA;TA;THA;DA;NA;PA;PHA;BA;MA;TSA;TSHA",
    "DZA;WA;ZHA;ZA;-A;YA;RA;LA;SHA;SA;HA;A"]⟩]

/-- Ancient scripts, and further scripts of South Asia, from U+11C90 on. -/
def ancientPartD : List Block := [
  ⟨0x11c90, "MARCHEN SUBJOINED LETTER ", [";;KA;KHA;GA;NGA;CA;CHA;JA;NYA;TA;THA;DA;NA;PA;PHA;BA",
    "MA;TSA;TSHA;DZA;WA;ZHA;ZA;;YA;RA;LA;SHA;SA;HA;A"]⟩,
  ⟨0x11cb0, "MARCHEN VOWEL SIGN ", ["AA;I;U;E;O"]⟩,
  ⟨0x11cb5, "MARCHEN SIGN ", ["ANUSVARA;CANDRABINDU"]⟩,
  ⟨0x11d00, "MASARAM GONDI LETTER ", ["A;AA;I;II;U;UU;E;;AI;O;;AU;KA;KHA;GA;GHA;NGA;CA;CHA;JA",
    "JHA;NYA;TTA;TTHA;DDA;DDHA;NNA;TA;THA;DA;DHA;NA;PA;PHA;BA;BHA;MA;YA;RA;LA;VA;SHA;SSA;SA;HA",
    "LLA;KSSA;JNYA;TRA"]⟩,
  ⟨0x11d31, "MASARAM GONDI VOWEL SIGN ", ["AA;I;II;U;UU;VOCALIC R;;;;E;;AI;O;;AU"]⟩,
  ⟨0x11d40, "MASARAM GONDI SIGN ", ["ANUSVARA;VISARGA;NUKTA;CANDRA;HALANTA"]⟩,
  ⟨0x11d45, "MASARAM GONDI ", ["VIRAMA;REPHA;RA-KARA"]⟩,
  ⟨0x11d50, "MASARAM GONDI DIGIT ", ["ZERO;ONE;TWO;THREE;FOUR;FIVE;SIX;SEVEN;EIGHT;NINE"]⟩,
  ⟨0x11d5a, "GUNJALA GONDI LETTER ", [";;;;;;A;AA;I;II;U;UU;;EE;AI;;OO;AU;YA;VA;BA;BHA;MA;KA",
    "KHA;TA;THA;LA;GA;GHA;DA;DHA;NA;CA;CHA;TTA;TTHA;LLA;JA;JHA;DDA;DDHA;NGA;PA;PHA;HA;RA;SA"]⟩,
  ⟨0x11d8a, "GUNJALA GONDI VOWEL SIGN ", ["AA;I;II;U;UU;;EE;AI;;OO;AU"]⟩,
  ⟨0x11d95, "GUNJALA GONDI ", ["SIGN ANUSVARA;SIGN VISARGA;VIRAMA;OM"]⟩,
  ⟨0x11d99, "GUNJALA GONDI DIGIT ", [";;;;;;;ZERO;ONE;TWO;THREE;FOUR;FIVE;SIX;SEVEN;EIGHT;NINE"]⟩,
  ⟨0x11ee0, "MAKASAR LETTER ", ["KA;GA;NGA;PA;BA;MA;TA;DA;NA;CA;JA;NYA;YA;RA;LA;VA;SA;A"]⟩,
  ⟨0x11ef2, "MAKASAR ANGK", ["A"]⟩,
  ⟨0x11ef3, "MAKASAR VOWEL SIGN ", ["I;U;E;O"]⟩,
  ⟨0x11ef7, "MAKASAR ", ["PASSIMBANG;END OF SECTION"]⟩,
  ⟨0x11fb0, "LISU LETTER YH", ["A"]⟩,
  ⟨0x11fc0, "TAMIL FRACTION ONE ", ["THREE-HUNDRED-AND-TWENTIETH;ONE-HUNDRED-AND-SIXTIETH",
    "EIGHTIETH;SIXTY-FOURTH;FORTIETH;THIRTY-SECOND"]⟩,
  ⟨0x11fc6, "TAMIL FRACTION ", ["THREE EIGHTIETHS;THREE SIXTY-FOURTHS;ONE TWENTIETH",
    "ONE SIXTEENTH-1;ONE SIXTEENTH-2;ONE TENTH;ONE EIGHTH;THREE TWENTIETHS;THREE SIXTEENTHS",
    "ONE FIFTH;ONE QUARTER;ONE HALF-1;ONE HALF-2;THREE QUARTERS;DOWNSCALING FACTOR KIIZH"]⟩,
  ⟨0x11fd5, "TAMIL SIGN ", ["NEL;CEVITU;AAZHAAKKU;UZHAKKU;MUUVUZHAKKU;KURUNI;PATHAKKU;MUKKURUNI",
    "KAACU;PANAM;PON;VARAAKAN;PAARAM;KUZHI;VELI"]⟩,
  ⟨0x11fe4, "TAMIL ", ["WET CULTIVATION SIGN;DRY CULTIVATION SIGN;LAND SIGN;SALT PAN SIGN",
    "TRADITIONAL CREDIT SIGN;TRADITIONAL NUMBER SIGN;CURRENT SIGN;AND ODD SIGN;SPENT SIGN",
    "TOTAL SIGN;IN POSSESSION SIGN;STARTING FROM SIGN;SIGN MUTHALIYA;SIGN VAKAIYARAA"]⟩,
  ⟨0x11fff, "", ["TAMIL PUNCTUATION END OF TEXT;CUNEIFORM SIGN A"]⟩]

/-- Ancient scripts, and further scripts of South Asia. -/
def ancient : List Block :=
  ancientPartA ++ ancientPartB ++ ancientPartC ++ ancientPartD

end Stencil.CharacterName
