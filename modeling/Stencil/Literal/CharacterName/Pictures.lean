import Stencil.Literal.CharacterName.Block

/-!
# Names of characters: recent scripts, games and pictures
-/

namespace Stencil.CharacterName

/-- Recent scripts, games and pictures, from U+1E000 on. -/
def picturesPartA : List Block := [
  ⟨0x1e000, "COMBINING GLAGOLITIC LETTER ", ["AZU;BUKY;VEDE;GLAGOLI;DOBRO;YESTU;ZHIVETE;;ZEMLJA",
    "IZHE;INITIAL IZHE;I;DJERVI;KAKO;LJUDIJE;MYSLITE;NASHI;ONU;POKOJI;RITSI;SLOVO;TVRIDO;UKU",
    "FRITU;HERU;;;SHTA;TSI;CHRIVI;SHA;YERU;YERI;YATI;;YU;SMALL YUS;;YO;IOTATED SMALL YUS;BIG YUS",
    "IOTATED BIG YUS;FITA"]⟩,
  ⟨0x1e100, "NYIAKENG PUACHUE HMONG LETTER ", ["MA;TSA;NTA;TA;HA;NA;XA;NKA;CA;LA;SA;ZA;NCA;NTSA",
    "KA;DA;NYA;NRA;VA;NTXA;TXA;FA;RA;QA;YA;NQA;PA;XYA;NPA;DLA;NPLA;HAH;MLA;PLA;GA;RRA;A;AA;I;U;O",
    "OO;E;EE;W"]⟩,
  ⟨0x1e12d, "NYIAKENG PUACHUE HMONG TONE-", [";;;B;M;J;V;S;G;D"]⟩,
  ⟨0x1e137, "NYIAKENG PUACHUE HMONG SIGN FOR ", ["PERSON;THING;LOCATION;ANIMAL;INVERTEBRATE"]⟩,
  ⟨0x1e13c, "NYIAKENG PUACHUE HMONG S", ["IGN XW XW;YLLABLE LENGTHENER"]⟩,
  ⟨0x1e13e, "NYIAKENG PUACHUE HMONG DIGIT ", [";;ZERO;ONE;TWO;THREE;FOUR;FIVE;SIX;SEVEN;EIGHT",
    "NINE"]⟩,
  ⟨0x1e14a, "NYIAKENG PUACHUE HMONG ", [";;;;LOGOGRAM NYAJ;CIRCLED CA"]⟩,
  ⟨0x1e290, "TOTO LETTER ", ["PA;BA;TA;DA;KA;GA;MA;NA;NGA;SA;CHA;YA;WA;JA;HA;RA;LA;I;BREATHY I",
    "IU;BREATHY IU;U;E;BREATHY E;EO;BREATHY EO;O;AE;BREATHY AE;A"]⟩,
  ⟨0x1e2ae, "TOTO SIGN RISING TON", ["E"]⟩,
  ⟨0x1e2c0, "WANCHO LETTER ", ["AA;A;BA;CA;DA;GA;YA;PHA;LA;NA;PA;TA;THA;FA;SA;SHA;JA;ZA;WA;VA",
    "KA;O;AU;RA;MA;KHA;HA;E;I;NGA;U;LLHA;TSA;TRA;ONG;AANG;ANG;ING;ON;EN;AAN;NYA;UEN;YIH"]⟩,
  ⟨0x1e2ec, "WANCHO TONE ", ["TUP;TUPNI;KOI;KOINI"]⟩,
  ⟨0x1e2f0, "WANCHO DIGIT ", ["ZERO;ONE;TWO;THREE;FOUR;FIVE;SIX;SEVEN;EIGHT;NINE"]⟩,
  ⟨0x1e2fa, "WANCHO NGUN SIG", [";;;;;N"]⟩,
  ⟨0x1e7e0, "ETHIOPIC SYLLABLE ", ["HHYA;HHYU;HHYI;HHYAA;HHYEE;HHYE;HHYO;;GURAGE HHWA;HHWI",
    "HHWEE;HHWE"]⟩,
  ⟨0x1e7ec, "ETHIOPIC SYLLABLE GURAGE ", [";MWI;MWEE;;QWI;QWEE;QWE;BWI;BWEE;KWI;KWEE;KWE;GWI",
    "GWEE;GWE;FWI;FWEE;PWI;PWEE"]⟩,
  ⟨0x1e7ff, "MENDE KIKAKUI SYLLABLE M", [";001 KI;002 KA;003 KU;065 KEE;095 KE;076 KOO;048 KO",
    "179 KUA;004 WI;005 WA;006 WU;126 WEE;118 WE;114 WOO;045 WO;194 WUI;143 WEI;061 WVI;049 WVA",
    "139 WVE;007 MIN;008 MAN;009 MUN;059 MEN;094 MON;154 MUAN;189 MUEN;010 BI;011 BA;012 BU",
    "150 BEE;097 BE;103 BOO;138 BO;013 I;014 A;015 U;163 EE;100 E;165 OO;147 O;137 EI;131 IN",
    "135 IN;195 AN;178 EN;019 SI;020 SA;021 SU;162 SEE;116 SE;136 SOO;079 SO;196 SIA;025 LI",
    "026 LA;027 LU;084 LEE;073 LE;054 LOO;153 LO;110 LONG LE;016 DI;017 DA;018 DU;089 DEE",
    "180 DOO;181 DO;022 TI;023 TA;024 TU;091 TEE;055 TE;104 TOO;069 TO;028 JI;029 JA;030 JU",
    "157 JEE;113 JE;160 JOO;063 JO;175 LONG JO;031 YI;032 YA;033 YU;109 YEE;080 YE;141 YOO",
    "121 YO;034 FI;035 FA;036 FU;078 FEE;075 FE;133 FOO;088 FO;197 FUA;101 FAN;037 NIN;038 NAN",
    "039 NUN;117 NEN;169 NON;176 HI;041 HA;186 HU;040 HEE;096 HE;042 HOO;140 HO;083 HEEI",
    "128 HOOU;053 HIN;130 HAN;087 HUN;052 HEN;193 HON;046 HUAN;090 NGGI;043 NGGA;082 NGGU",
    "115 NGGEE;146 NGGE;156 NGGOO;120 NGGO;159 NGGAA;127 NGGUA;086 LONG NGGE;106 LONG NGGOO",
    "183 LONG NGGO;155 GI;111 GA;168 GU;190 GEE;166 GUEI;167 GUAN;184 NGEN;057 NGON;177 NGUAN",
    "068 PI;099 PA;050 PU;081 PEE;051 PE;102 POO;066 PO;145 MBI;062 MBA;122 MBU;047 MBEE",
    "188 MBEE;072 MBE;172 MBOO;174 MBO;187 MBUU;161 LONG MBE;105 LONG MBOO;142 LONG MBO;132 KPI",
    "092 KPA;074 KPU;044 KPEE;108 KPE;112 KPOO;158 KPO;124 GBI;056 GBA;148 GBU;093 GBEE;107 GBE",
    "071 GBOO;070 GBO;171 RA;123 NDI;129 NDA;125 NDU;191 NDEE;119 NDE;067 NDOO;064 NDO;152 NJA",
    "192 NJU;149 NJEE;134 NJOO;182 VI;185 VA;151 VU;173 VEE;085 VE;144 VOO;077 VO;164 NYIN",
    "058 NYAN;170 NYUN;098 NYEN;060 NYON"]⟩,
  ⟨0x1e8c5, "MENDE KIKAKUI DIGIT ", [";;ONE;TWO;THREE;FOUR;FIVE;SIX;SEVEN;EIGHT;NINE"]⟩,
  ⟨0x1e8d0, "MENDE KIKAKUI COMBINING NUMBER ", ["TEENS;TENS;HUNDREDS;THOUSANDS;TEN THOUSANDS",
    "HUNDRED THOUSANDS;MILLIONS"]⟩,
  ⟨0x1e900, "ADLAM CAPITAL LETTER ", ["ALIF;DAALI;LAAM;MIIM;BA;SINNYIIYHE;PE;BHE;RA;E;FA;I;O",
    "DHA;YHE;WAW;NUN;KAF;YA;U;JIIM;CHI;HA;QAAF;GA;NYA;TU;NHA;VA;KHA;GBE;ZAL;KPO;SHA"]⟩,
  ⟨0x1e922, "ADLAM SMALL LETTER ", ["ALIF;DAALI;LAAM;MIIM;BA;SINNYIIYHE;PE;BHE;RA;E;FA;I;O;DHA",
    "YHE;WAW;NUN;KAF;YA;U;JIIM;CHI;HA;QAAF;GA;NYA;TU;NHA;VA;KHA;GBE;ZAL;KPO;SHA"]⟩,
  ⟨0x1e944, "ADLAM ", ["ALIF LENGTHENER;VOWEL LENGTHENER;GEMINATION MARK;HAMZA",
    "CONSONANT MODIFIER;GEMINATE CONSONANT MODIFIER;NUKTA;NASALIZATION MARK"]⟩,
  ⟨0x1e94c, "ADLAM DIGIT ", [";;;;ZERO;ONE;TWO;THREE;FOUR;FIVE;SIX;SEVEN;EIGHT;NINE"]⟩,
  ⟨0x1e95a, "ADLAM INITIAL ", [";;;;EXCLAMATION MARK;QUESTION MARK"]⟩,
  ⟨0x1ec71, "INDIC SIYAQ NUMBER ", ["ONE;TWO;THREE;FOUR;FIVE;SIX;SEVEN;EIGHT;NINE;TEN;TWENTY",
    "THIRTY;FORTY;FIFTY;SIXTY;SEVENTY;EIGHTY;NINETY;ONE HUNDRED;TWO HUNDRED;THREE HUNDRED",
    "FOUR HUNDRED;FIVE HUNDRED;SIX HUNDRED;SEVEN HUNDRED;EIGHT HUNDRED;NINE HUNDRED;ONE THOUSAND",
    "TWO THOUSAND;THREE THOUSAND;FOUR THOUSAND;FIVE THOUSAND;SIX THOUSAND;SEVEN THOUSAND",
    "EIGHT THOUSAND;NINE THOUSAND;TEN THOUSAND;TWENTY THOUSAND;THIRTY THOUSAND;FORTY THOUSAND",
    "FIFTY THOUSAND;SIXTY THOUSAND;SEVENTY THOUSAND;EIGHTY THOUSAND;NINETY THOUSAND;LAKH;LAKHAN"]⟩,
  ⟨0x1eca0, "INDIC SIYAQ ", ["LAKH MARK;NUMBER KAROR;NUMBER KARORAN"]⟩,
  ⟨0x1eca3, "INDIC SIYAQ NUMBER PREFIXED ", ["ONE;TWO;THREE;FOUR;FIVE;SIX;SEVEN;EIGHT;NINE"]⟩,
  ⟨0x1ecac, "INDIC SIYAQ ", ["PLACEHOLDER;FRACTION ONE QUARTER;FRACTION ONE HALF",
    "FRACTION THREE QUARTERS;RUPEE MARK"]⟩,
  ⟨0x1ecb1, "INDIC SIYAQ NUMBER ALTERNATE ", ["ONE;TWO;TEN THOUSAND"]⟩,
  ⟨0x1ecb4, "INDIC SIYAQ ALTERNATE LAKH MAR", ["K"]⟩,
  ⟨0x1ed01, "OTTOMAN SIYAQ NUMBER ", ["ONE;TWO;THREE;FOUR;FIVE;SIX;SEVEN;EIGHT;NINE;TEN;TWENTY",
    "THIRTY;FORTY;FIFTY;SIXTY;SEVENTY;EIGHTY;NINETY;ONE HUNDRED;TWO HUNDRED;THREE HUNDRED",
    "FOUR HUNDRED;FIVE HUNDRED;SIX HUNDRED;SEVEN HUNDRED;EIGHT HUNDRED;NINE HUNDRED;ONE THOUSAND",
    "TWO THOUSAND;THREE THOUSAND;FOUR THOUSAND;FIVE THOUSAND;SIX THOUSAND;SEVEN THOUSAND",
    "EIGHT THOUSAND;NINE THOUSAND;TEN THOUSAND;TWENTY THOUSAND;THIRTY THOUSAND;FORTY THOUSAND",
    "FIFTY THOUSAND;SIXTY THOUSAND;SEVENTY THOUSAND;EIGHTY THOUSAND;NINETY THOUSAND"]⟩,
  ⟨0x1ed2e, "OTTOMAN SIYAQ MARRATA", ["N"]⟩,
  ⟨0x1ed2f, "OTTOMAN SIYAQ ALTERNATE NUMBER ", ["TWO;THREE;FOUR;FIVE;SIX;SEVEN;EIGHT;NINE;TEN",
    "FOUR HUNDRED;SIX HUNDRED;TWO THOUSAND;TEN THOUSAND"]⟩,
  ⟨0x1ed3c, "OTTOMAN SIYAQ FRACTION ONE ", ["HALF;SIXTH"]⟩,
  ⟨0x1ee00, "ARABIC MATHEMATICAL ", ["ALEF;BEH;JEEM;DAL;;WAW;ZAIN;HAH;TAH;YEH;KAF;LAM;MEEM;NOON",
    "SEEN;AIN;FEH;SAD;QAF;REH;SHEEN;TEH;THEH;KHAH;THAL;DAD;ZAH;GHAIN"]⟩,
  ⟨0x1ee1c, "ARABIC MATHEMATICAL DOTLESS ", ["BEH;NOON;FEH;QAF"]⟩,
  ⟨0x1ee20, "ARABIC MATHEMATICAL INITIAL ", [";BEH;JEEM;;HEH;;;HAH;;YEH;KAF;LAM;MEEM;NOON;SEEN",
    "AIN;FEH;SAD;QAF;;SHEEN;TEH;THEH;KHAH;;DAD;;GHAIN"]⟩,
  ⟨0x1ee3c, "ARABIC MATHEMATICAL TAILED ", [";;;;;;JEEM;;;;;HAH;;YEH;;LAM;;NOON;SEEN;AIN;;SAD",
    "QAF;;SHEEN;;;KHAH;;DAD;;GHAIN;;DOTLESS NOON;;DOTLESS QAF"]⟩,
  ⟨0x1ee60, "ARABIC MATHEMATICAL STRETCHED ", [";BEH;JEEM;;HEH;;;HAH;TAH;YEH;KAF;;MEEM;NOON",
    "SEEN;AIN;FEH;SAD;QAF;;SHEEN;TEH;THEH;KHAH;;DAD;ZAH;GHAIN;DOTLESS BEH;;DOTLESS FEH"]⟩,
  ⟨0x1ee7f, "ARABIC MATHEMATICAL LOOPED ", [";ALEF;BEH;JEEM;DAL;HEH;WAW;ZAIN;HAH;TAH;YEH;;LAM",
    "MEEM;NOON;SEEN;AIN;FEH;SAD;QAF;REH;SHEEN;TEH;THEH;KHAH;THAL;DAD;ZAH;GHAIN"]⟩,
  ⟨0x1ee9c, "ARABIC MATHEMATICAL DOUBLE-STRUCK ", [";;;;;BEH;JEEM;DAL;;WAW;ZAIN;HAH;TAH;YEH;",
    "LAM;MEEM;NOON;SEEN;AIN;FEH;SAD;QAF;REH;SHEEN;TEH;THEH;KHAH;THAL;DAD;ZAH;GHAIN"]⟩,
  ⟨0x1eef0, "ARABIC MATHEMATICAL OPERATOR ", ["MEEM WITH HAH WITH TATWEEL;HAH WITH DAL"]⟩,
  ⟨0x1f000, "MAHJONG TILE ", ["EAST WIND;SOUTH WIND;WEST WIND;NORTH WIND;RED DRAGON",
    "GREEN DRAGON;WHITE DRAGON;ONE OF CHARACTERS;TWO OF CHARACTERS;THREE OF CHARACTERS",
    "FOUR OF CHARACTERS;FIVE OF CHARACTERS;SIX OF CHARACTERS;SEVEN OF CHARACTERS",
    "EIGHT OF CHARACTERS;NINE OF CHARACTERS;ONE OF BAMBOOS;TWO OF BAMBOOS;THREE OF BAMBOOS",
    "FOUR OF BAMBOOS;FIVE OF BAMBOOS;SIX OF BAMBOOS;SEVEN OF BAMBOOS;EIGHT OF BAMBOOS",
    "NINE OF BAMBOOS;ONE OF CIRCLES;TWO OF CIRCLES;THREE OF CIRCLES;FOUR OF CIRCLES",
    "FIVE OF CIRCLES;SIX OF CIRCLES;SEVEN OF CIRCLES;EIGHT OF CIRCLES;NINE OF CIRCLES;PLUM",
    "ORCHID;BAMBOO;CHRYSANTHEMUM;SPRING;SUMMER;AUTUMN;WINTER;JOKER;BACK"]⟩,
  ⟨0x1f02c, "DOMINO TILE HORIZONTAL BAC", [";;;;K"]⟩,
  ⟨0x1f031, "DOMINO TILE HORIZONTAL-0", ["0-00;0-01;0-02;0-03;0-04;0-05;0-06;1-00;1-01;1-02",
    "1-03;1-04;1-05;1-06;2-00;2-01;2-02;2-03;2-04;2-05;2-06;3-00;3-01;3-02;3-03;3-04;3-05;3-06",
    "4-00;4-01;4-02;4-03;4-04;4-05;4-06;5-00;5-01;5-02;5-03;5-04;5-05;5-06;6-00;6-01;6-02;6-03",
    "6-04;6-05;6-06"]⟩,
  ⟨0x1f062, "DOMINO TILE VERTICAL BAC", ["K"]⟩,
  ⟨0x1f063, "DOMINO TILE VERTICAL-0", ["0-00;0-01;0-02;0-03;0-04;0-05;0-06;1-00;1-01;1-02;1-03",
    "1-04;1-05;1-06;2-00;2-01;2-02;2-03;2-04;2-05;2-06;3-00;3-01;3-02;3-03;3-04;3-05;3-06;4-00",
    "4-01;4-02;4-03;4-04;4-05;4-06;5-00;5-01;5-02;5-03;5-04;5-05;5-06;6-00;6-01;6-02;6-03;6-04",
    "6-05;6-06"]⟩,
  ⟨0x1f0a0, "PLAYING CARD ", ["BACK;ACE OF SPADES;TWO OF SPADES;THREE OF SPADES;FOUR OF SPADES",
    "FIVE OF SPADES;SIX OF SPADES;SEVEN OF SPADES;EIGHT OF SPADES;NINE OF SPADES;TEN OF SPADES",
    "JACK OF SPADES;KNIGHT OF SPADES;QUEEN OF SPADES;KING OF SPADES;;;ACE OF HEARTS",
    "TWO OF HEARTS;THREE OF HEARTS;FOUR OF HEARTS;FIVE OF HEARTS;SIX OF HEARTS;SEVEN OF HEARTS",
    "EIGHT OF HEARTS;NINE OF HEARTS;TEN OF HEARTS;JACK OF HEARTS;KNIGHT OF HEARTS",
    "QUEEN OF HEARTS;KING OF HEARTS;RED JOKER;;ACE OF DIAMONDS;TWO OF DIAMONDS;THREE OF DIAMONDS",
    "FOUR OF DIAMONDS;FIVE OF DIAMONDS;SIX OF DIAMONDS;SEVEN OF DIAMONDS;EIGHT OF DIAMONDS",
    "NINE OF DIAMONDS;TEN OF DIAMONDS;JACK OF DIAMONDS;KNIGHT OF DIAMONDS;QUEEN OF DIAMONDS",
    "KING OF DIAMONDS;BLACK JOKER;;ACE OF CLUBS;TWO OF CLUBS;THREE OF CLUBS;FOUR OF CLUBS",
    "FIVE OF CLUBS;SIX OF CLUBS;SEVEN OF CLUBS;EIGHT OF CLUBS;NINE OF CLUBS;TEN OF CLUBS",
    "JACK OF CLUBS;KNIGHT OF CLUBS;QUEEN OF CLUBS;KING OF CLUBS;WHITE JOKER;FOOL"]⟩,
  ⟨0x1f0e1, "PLAYING CARD TRUMP-", ["1;2;3;4;5;6;7;8;9;10;11;12;13;14;15;16;17;18;19;20;21"]⟩,
  ⟨0x1f100, "DIGIT ", ["ZERO FULL STOP;ZERO COMMA;ONE COMMA;TWO COMMA;THREE COMMA;FOUR COMMA",
    "FIVE COMMA;SIX COMMA;SEVEN COMMA;EIGHT COMMA;NINE COMMA"]⟩,
  ⟨0x1f10b, "DINGBAT ", ["CIRCLED SANS-SERIF DIGIT ZERO;NEGATIVE CIRCLED SANS-SERIF DIGIT ZERO"]⟩,
  ⟨0x1f10d, "CIRCLED ", ["ZERO WITH SLASH;ANTICLOCKWISE ARROW",
    "DOLLAR SIGN WITH OVERLAID BACKSLASH"]⟩,
  ⟨0x1f110, "PARENTHESIZED LATIN CAPITAL LETTER ", ["A;B;C;D;E;F;G;H;I;J;K;L;M;N;O;P;Q;R;S;T;U",
    "V;W;X;Y;Z"]⟩,
  ⟨0x1f12a, "TORTOISE SHELL BRACKETED LATIN CAPITAL LETTER ", ["S"]⟩,
  ⟨0x1f12b, "CIRCLED ITALIC LATIN CAPITAL LETTER ", ["C;R"]⟩,
  ⟨0x1f12d, "CIRCLED ", ["CD;WZ"]⟩,
  ⟨0x1f12f, "COPYLEFT SYMBO", ["L"]⟩,
  ⟨0x1f130, "SQUARED LATIN CAPITAL LETTER ", ["A;B;C;D;E;F;G;H;I;J;K;L;M;N;O;P;Q;R;S;T;U;V;W;X",
    "Y;Z"]⟩,
  ⟨0x1f14a, "SQUARED ", ["HV;MV;SD;SS;PPV;WC"]⟩,
  ⟨0x1f150, "NEGATIVE CIRCLED LATIN CAPITAL LETTER ", ["A;B;C;D;E;F;G;H;I;J;K;L;M;N;O;P;Q;R;S;T",
    "U;V;W;X;Y;Z"]⟩,
  ⟨0x1f16a, "RAISED M", ["C SIGN;D SIGN;R SIGN"]⟩,
  ⟨0x1f16d, "CIRCLED ", ["CC;C WITH OVERLAID BACKSLASH;HUMAN FIGURE"]⟩,
  ⟨0x1f170, "NEGATIVE SQUARED LATIN CAPITAL LETTER ", ["A;B;C;D;E;F;G;H;I;J;K;L;M;N;O;P;Q;R;S;T",
    "U;V;W;X;Y;Z"]⟩,
  ⟨0x1f18a, "CROSSED NEGATIVE SQUARED LATIN CAPITAL LETTER ", ["P"]⟩,
  ⟨0x1f18b, "NEGATIVE SQUARED ", ["IC;PA;SA;AB;WC"]⟩,
  ⟨0x1f190, "SQUARE D", ["J"]⟩,
  ⟨0x1f191, "SQUARED ", ["CL;COOL;FREE;ID;NEW;NG;OK;SOS;UP WITH EXCLAMATION MARK;VS;THREE D",
    "SECOND SCREEN;TWO K;FOUR K;EIGHT K;FIVE POINT ONE;SEVEN POINT ONE;TWENTY-TWO POINT TWO",
    "SIXTY P;ONE HUNDRED TWENTY P;LATIN SMALL LETTER D;HC;HDR;HI-RES;LOSSLESS;SHV;UHD;VOD"]⟩,
  ⟨0x1f1ad, "MASK WORK SYMBO", ["L"]⟩,
  ⟨0x1f1e6, "REGIONAL INDICATOR SYMBOL LETTER ", ["A;B;C;D;E;F;G;H;I;J;K;L;M;N;O;P;Q;R;S;T;U;V",
    "W;X;Y;Z"]⟩,
  ⟨0x1f200, "SQUARE HIRAGANA HOK", ["A"]⟩,
  ⟨0x1f201, "SQUARED KATAKANA ", ["KOKO;SA"]⟩,
  ⟨0x1f210, "SQUARED CJK UNIFIED IDEOGRAPH-", ["624B;5B57;53CC"]⟩,
  ⟨0x1f213, "SQUARED KATAKANA D", ["E"]⟩,
  ⟨0x1f214, "SQUARED CJK UNIFIED IDEOGRAPH-", ["4E8C;591A;89E3;5929;4EA4;6620;7121;6599;524D",
    "5F8C;518D;65B0;521D;7D42;751F;8CA9;58F0;5439;6F14;6295;6355;4E00;4E09;904A;5DE6;4E2D;53F3",
    "6307;8D70;6253;7981;7A7A;5408;6E80;6709;6708;7533;5272;55B6;914D"]⟩,
  ⟨0x1f23c, "TORTOISE SHELL BRACKETED CJK UNIFIED IDEOGRAPH-", [";;;;672C;4E09;4E8C;5B89;70B9",
    "6253;76D7;52DD;6557"]⟩,
  ⟨0x1f249, "CIRCLED IDEOGRAPH A", [";;;;;;;DVANTAGE;CCEPT"]⟩,
  ⟨0x1f260, "ROUNDED SYMBOL FOR ", ["FU;LU;SHOU;XI;SHUANGXI;CAI"]⟩,
  ⟨0x1f300, "", ["CYCLONE;FOGGY;CLOSED UMBRELLA;NIGHT WITH STARS;SUNRISE OVER MOUNTAINS;SUNRISE",
    "CITYSCAPE AT DUSK;SUNSET OVER BUILDINGS;RAINBOW;BRIDGE AT NIGHT;WATER WAVE;VOLCANO",
    "MILKY WAY"]⟩,
  ⟨0x1f30d, "EARTH GLOBE ", ["EUROPE-AFRICA;AMERICAS;ASIA-AUSTRALIA"]⟩,
  ⟨0x1f310, "", ["GLOBE WITH MERIDIANS;NEW MOON SYMBOL;WAXING CRESCENT MOON SYMBOL",
    "FIRST QUARTER MOON SYMBOL;WAXING GIBBOUS MOON SYMBOL;FULL MOON SYMBOL",
    "WANING GIBBOUS MOON SYMBOL;LAST QUARTER MOON SYMBOL;WANING CRESCENT MOON SYMBOL",
    "CRESCENT MOON;NEW MOON WITH FACE;FIRST QUARTER MOON WITH FACE;LAST QUARTER MOON WITH FACE",
    "FULL MOON WITH FACE;SUN WITH FACE;GLOWING STAR;SHOOTING STAR;THERMOMETER;BLACK DROPLET"]⟩,
  ⟨0x1f323, "WHITE SU", ["N;N WITH SMALL CLOUD"]⟩,
  ⟨0x1f325, "WHITE SUN BEHIND CLOU", ["D;D WITH RAIN"]⟩,
  ⟨0x1f327, "CLOUD WITH ", ["RAIN;SNOW;LIGHTNING;TORNADO"]⟩,
  ⟨0x1f32b, "", ["FOG;WIND BLOWING FACE;HOT DOG;TACO;BURRITO;CHESTNUT;SEEDLING;EVERGREEN TREE",
    "DECIDUOUS TREE;PALM TREE;CACTUS;HOT PEPPER;TULIP;CHERRY BLOSSOM;ROSE;HIBISCUS;SUNFLOWER",
    "BLOSSOM"]⟩,
  ⟨0x1f33d, "EAR OF ", ["MAIZE;RICE"]⟩,
  ⟨0x1f33f, "", ["HERB;FOUR LEAF CLOVER;MAPLE LEAF;FALLEN LEAF;LEAF FLUTTERING IN WIND;MUSHROOM",
    "TOMATO;AUBERGINE;GRAPES;MELON;WATERMELON;TANGERINE;LEMON;BANANA;PINEAPPLE;RED APPLE",
    "GREEN APPLE;PEAR;PEACH;CHERRIES;STRAWBERRY;HAMBURGER;SLICE OF PIZZA;MEAT ON BONE",
    "POULTRY LEG"]⟩,
  ⟨0x1f358, "RICE ", ["CRACKER;BALL"]⟩,
  ⟨0x1f35a, "", ["COOKED RICE;CURRY AND RICE;STEAMING BOWL;SPAGHETTI;BREAD;FRENCH FRIES",
    "ROASTED SWEET POTATO;DANGO;ODEN;SUSHI;FRIED SHRIMP;FISH CAKE WITH SWIRL DESIGN",
    "SOFT ICE CREAM;SHAVED ICE;ICE CREAM;DOUGHNUT;COOKIE;CHOCOLATE BAR;CANDY;LOLLIPOP;CUSTARD",
    "HONEY POT;SHORTCAKE;BENTO BOX;POT OF FOOD;COOKING;FORK AND KNIFE;TEACUP WITHOUT HANDLE",
    "SAKE BOTTLE AND CUP;WINE GLASS;COCKTAIL GLASS;TROPICAL DRINK;BEER MUG;CLINKING BEER MUGS",
    "BABY BOTTLE;FORK AND KNIFE WITH PLATE;BOTTLE WITH POPPING CORK;POPCORN;RIBBON",
    "WRAPPED PRESENT;BIRTHDAY CAKE;JACK-O-LANTERN;CHRISTMAS TREE;FATHER CHRISTMAS"]⟩,
  ⟨0x1f386, "FIREWORK", ["S; SPARKLER"]⟩,
  ⟨0x1f388, "", ["BALLOON;PARTY POPPER;CONFETTI BALL;TANABATA TREE;CROSSED FLAGS",
    "PINE DECORATION;JAPANESE DOLLS;CARP STREAMER;WIND CHIME;MOON VIEWING CEREMONY",
    "SCHOOL SATCHEL;GRADUATION CAP;HEART WITH TIP ON THE LEFT;BOUQUET OF FLOWERS;MILITARY MEDAL",
    "REMINDER RIBBON;MUSICAL KEYBOARD WITH JACKS;STUDIO MICROPHONE;LEVEL SLIDER;CONTROL KNOBS"]⟩,
  ⟨0x1f39c, "BEAMED ", ["ASCENDING MUSICAL NOTES;DESCENDING MUSICAL NOTES"]⟩,
  ⟨0x1f39e, "", ["FILM FRAMES;ADMISSION TICKETS;CAROUSEL HORSE;FERRIS WHEEL;ROLLER COASTER",
    "FISHING POLE AND FISH;MICROPHONE;MOVIE CAMERA;CINEMA;HEADPHONE;ARTIST PALETTE;TOP HAT",
    "CIRCUS TENT;TICKET;CLAPPER BOARD;PERFORMING ARTS;VIDEO GAME;DIRECT HIT;SLOT MACHINE",
    "BILLIARDS;GAME DIE;BOWLING;FLOWER PLAYING CARDS;MUSICAL NOTE;MULTIPLE MUSICAL NOTES",
    "SAXOPHONE;GUITAR;MUSICAL KEYBOARD;TRUMPET;VIOLIN;MUSICAL SCORE;RUNNING SHIRT WITH SASH",
    "TENNIS RACQUET AND BALL;SKI AND SKI BOOT;BASKETBALL AND HOOP;CHEQUERED FLAG;SNOWBOARDER",
    "RUNNER;SURFER;SPORTS MEDAL;TROPHY;HORSE RACING;AMERICAN FOOTBALL;RUGBY FOOTBALL;SWIMMER",
    "WEIGHT LIFTER;GOLFER"]⟩,
  ⟨0x1f3cd, "RACING ", ["MOTORCYCLE;CAR"]⟩,
  ⟨0x1f3cf, "", ["CRICKET BAT AND BALL;VOLLEYBALL;FIELD HOCKEY STICK AND BALL",
    "ICE HOCKEY STICK AND PUCK;TABLE TENNIS PADDLE AND BALL;SNOW CAPPED MOUNTAIN;CAMPING",
    "BEACH WITH UMBRELLA;BUILDING CONSTRUCTION;HOUSE BUILDINGS;CITYSCAPE;DERELICT HOUSE BUILDING",
    "CLASSICAL BUILDING;DESERT;DESERT ISLAND;NATIONAL PARK;STADIUM;HOUSE BUILDING",
    "HOUSE WITH GARDEN;OFFICE BUILDING;JAPANESE POST OFFICE;EUROPEAN POST OFFICE;HOSPITAL;BANK",
    "AUTOMATED TELLER MACHINE;HOTEL;LOVE HOTEL;CONVENIENCE STORE;SCHOOL;DEPARTMENT STORE;FACTORY",
    "IZAKAYA LANTERN;JAPANESE CASTLE;EUROPEAN CASTLE;WHITE PENNANT;BLACK PENNANT"]⟩,
  ⟨0x1f3f3, "WAVING ", ["WHITE FLAG;BLACK FLAG"]⟩,
  ⟨0x1f3f5, "", ["ROSETTE;BLACK ROSETTE;LABEL;BADMINTON RACQUET AND SHUTTLECOCK;BOW AND ARROW",
    "AMPHORA"]⟩,
  ⟨0x1f3fb, "EMOJI MODIFIER FITZPATRICK TYPE-", ["1-2;3;4;5;6"]⟩,
  ⟨0x1f400, "", ["RAT;MOUSE;OX;WATER BUFFALO;COW;TIGER;LEOPARD;RABBIT"]⟩,
  ⟨0x1f408, "", ["CAT;DRAGON;CROCODILE;WHALE;SNAIL;SNAKE;HORSE;RAM;GOAT;SHEEP;MONKEY;ROOSTER",
    "CHICKEN;DOG;PIG;BOAR;ELEPHANT;OCTOPUS;SPIRAL SHELL;BUG;ANT;HONEYBEE;LADY BEETLE;FISH",
    "TROPICAL FISH;BLOWFISH;TURTLE;HATCHING CHICK;BABY CHICK;FRONT-FACING BABY CHICK;BIRD",
    "PENGUIN;KOALA;POODLE;DROMEDARY CAMEL;BACTRIAN CAMEL;DOLPHIN;MOUSE FACE;COW FACE;TIGER FACE",
    "RABBIT FACE;CAT FACE;DRAGON FACE;SPOUTING WHALE;HORSE FACE;MONKEY FACE;DOG FACE;PIG FACE",
    "FROG FACE;HAMSTER FACE;WOLF FACE;BEAR FACE;PANDA FACE;PIG NOSE;PAW PRINTS;CHIPMUNK;EYES;EYE",
    "EAR;NOSE;MOUTH;TONGUE"]⟩,
  ⟨0x1f446, "WHITE ", ["UP POINTING BACKHAND INDEX;DOWN POINTING BACKHAND INDEX",
    "LEFT POINTING BACKHAND INDEX;RIGHT POINTING BACKHAND INDEX"]⟩,
  ⟨0x1f44a, "", ["FISTED HAND SIGN;WAVING HAND SIGN;OK HAND SIGN"]⟩]

/-- Recent scripts, games and pictures, from U+1F44D on. -/
def picturesPartB : List Block := [
  ⟨0x1f44d, "THUMBS ", ["UP SIGN;DOWN SIGN"]⟩,
  ⟨0x1f44f, "", ["CLAPPING HANDS SIGN;OPEN HANDS SIGN;CROWN;WOMANS HAT;EYEGLASSES;NECKTIE",
    "T-SHIRT;JEANS;DRESS;KIMONO;BIKINI;WOMANS CLOTHES;PURSE;HANDBAG;POUCH;MANS SHOE",
    "ATHLETIC SHOE;HIGH-HEELED SHOE"]⟩,
  ⟨0x1f461, "WOMANS ", ["SANDAL;BOOTS"]⟩,
  ⟨0x1f463, "", ["FOOTPRINTS;BUST IN SILHOUETTE;BUSTS IN SILHOUETTE;BOY;GIRL;MAN;WOMAN;FAMILY",
    "MAN AND WOMAN HOLDING HANDS;TWO MEN HOLDING HANDS;TWO WOMEN HOLDING HANDS;POLICE OFFICER",
    "WOMAN WITH BUNNY EARS;BRIDE WITH VEIL;PERSON WITH BLOND HAIR"]⟩,
  ⟨0x1f472, "MAN WITH ", ["GUA PI MAO;TURBAN"]⟩,
  ⟨0x1f474, "OLDER ", ["MAN;WOMAN"]⟩,
  ⟨0x1f476, "", ["BABY;CONSTRUCTION WORKER;PRINCESS"]⟩,
  ⟨0x1f479, "JAPANESE ", ["OGRE;GOBLIN"]⟩,
  ⟨0x1f47b, "", ["GHOST;BABY ANGEL;EXTRATERRESTRIAL ALIEN;ALIEN MONSTER;IMP;SKULL",
    "INFORMATION DESK PERSON;GUARDSMAN;DANCER;LIPSTICK;NAIL POLISH;FACE MASSAGE;HAIRCUT",
    "BARBER POLE;SYRINGE;PILL;KISS MARK;LOVE LETTER;RING;GEM STONE;KISS;BOUQUET",
    "COUPLE WITH HEART;WEDDING;BEATING HEART;BROKEN HEART;TWO HEARTS;SPARKLING HEART",
    "GROWING HEART;HEART WITH ARROW;BLUE HEART;GREEN HEART;YELLOW HEART;PURPLE HEART",
    "HEART WITH RIBBON;REVOLVING HEARTS;HEART DECORATION;DIAMOND SHAPE WITH A DOT INSIDE",
    "ELECTRIC LIGHT BULB;ANGER SYMBOL;BOMB;SLEEPING SYMBOL;COLLISION SYMBOL",
    "SPLASHING SWEAT SYMBOL;DROPLET;DASH SYMBOL;PILE OF POO;FLEXED BICEPS;DIZZY SYMBOL",
    "SPEECH BALLOON;THOUGHT BALLOON;WHITE FLOWER;HUNDRED POINTS SYMBOL;MONEY BAG",
    "CURRENCY EXCHANGE;HEAVY DOLLAR SIGN;CREDIT CARD"]⟩,
  ⟨0x1f4b4, "BANKNOTE WITH ", ["YEN SIGN;DOLLAR SIGN;EURO SIGN;POUND SIGN"]⟩,
  ⟨0x1f4b8, "", ["MONEY WITH WINGS;CHART WITH UPWARDS TREND AND YEN SIGN;SEAT;PERSONAL COMPUTER",
    "BRIEFCASE;MINIDISC;FLOPPY DISK;OPTICAL DISC;DVD;FILE FOLDER;OPEN FILE FOLDER;PAGE WITH CURL",
    "PAGE FACING UP;CALENDAR;TEAR-OFF CALENDAR;CARD INDEX"]⟩,
  ⟨0x1f4c8, "CHART WITH ", ["UPWARDS TREND;DOWNWARDS TREND"]⟩,
  ⟨0x1f4ca, "", ["BAR CHART;CLIPBOARD;PUSHPIN;ROUND PUSHPIN;PAPERCLIP;STRAIGHT RULER",
    "TRIANGULAR RULER;BOOKMARK TABS;LEDGER"]⟩,
  ⟨0x1f4d3, "NOTEBOO", ["K;K WITH DECORATIVE COVER"]⟩,
  ⟨0x1f4d5, "", ["CLOSED BOOK;OPEN BOOK;GREEN BOOK;BLUE BOOK;ORANGE BOOK;BOOKS;NAME BADGE",
    "SCROLL;MEMO;TELEPHONE RECEIVER;PAGER;FAX MACHINE;SATELLITE ANTENNA",
    "PUBLIC ADDRESS LOUDSPEAKER;CHEERING MEGAPHONE;OUTBOX TRAY;INBOX TRAY;PACKAGE;E-MAIL SYMBOL",
    "INCOMING ENVELOPE;ENVELOPE WITH DOWNWARDS ARROW ABOVE"]⟩,
  ⟨0x1f4ea, "CLOSED MAILBOX WITH ", ["LOWERED FLAG;RAISED FLAG"]⟩,
  ⟨0x1f4ec, "OPEN MAILBOX WITH ", ["RAISED FLAG;LOWERED FLAG"]⟩,
  ⟨0x1f4ee, "POST", ["BOX;AL HORN"]⟩,
  ⟨0x1f4f0, "NEWSPAPE", ["R"]⟩,
  ⟨0x1f4f1, "MOBILE PHON", ["E;E WITH RIGHTWARDS ARROW AT LEFT"]⟩,
  ⟨0x1f4f3, "", ["VIBRATION MODE;MOBILE PHONE OFF;NO MOBILE PHONES;ANTENNA WITH BARS;CAMERA",
    "CAMERA WITH FLASH;VIDEO CAMERA;TELEVISION;RADIO;VIDEOCASSETTE;FILM PROJECTOR",
    "PORTABLE STEREO;PRAYER BEADS;TWISTED RIGHTWARDS ARROWS"]⟩,
  ⟨0x1f501, "CLOCKWISE RIGHTWARDS AND LEFTWARDS OPEN CIRCLE ARROW", ["S",
    "S WITH CIRCLED ONE OVERLAY"]⟩,
  ⟨0x1f503, "", ["CLOCKWISE DOWNWARDS AND UPWARDS OPEN CIRCLE ARROWS",
    "ANTICLOCKWISE DOWNWARDS AND UPWARDS OPEN CIRCLE ARROWS;LOW BRIGHTNESS SYMBOL",
    "HIGH BRIGHTNESS SYMBOL"]⟩,
  ⟨0x1f507, "SPEAKE", ["R WITH CANCELLATION STROKE;R;R WITH ONE SOUND WAVE",
    "R WITH THREE SOUND WAVES"]⟩,
  ⟨0x1f50b, "", ["BATTERY;ELECTRIC PLUG;LEFT-POINTING MAGNIFYING GLASS",
    "RIGHT-POINTING MAGNIFYING GLASS;LOCK WITH INK PEN;CLOSED LOCK WITH KEY;KEY;LOCK;OPEN LOCK",
    "BELL;BELL WITH CANCELLATION STROKE;BOOKMARK;LINK SYMBOL;RADIO BUTTON",
    "BACK WITH LEFTWARDS ARROW ABOVE;END WITH LEFTWARDS ARROW ABOVE",
    "ON WITH EXCLAMATION MARK WITH LEFT RIGHT ARROW ABOVE;SOON WITH RIGHTWARDS ARROW ABOVE",
    "TOP WITH UPWARDS ARROW ABOVE;NO ONE UNDER EIGHTEEN SYMBOL;KEYCAP TEN"]⟩,
  ⟨0x1f520, "INPUT SYMBOL FOR ", ["LATIN CAPITAL LETTERS;LATIN SMALL LETTERS;NUMBERS;SYMBOLS",
    "LATIN LETTERS"]⟩,
  ⟨0x1f525, "", ["FIRE;ELECTRIC TORCH;WRENCH;HAMMER;NUT AND BOLT;HOCHO;PISTOL;MICROSCOPE",
    "TELESCOPE;CRYSTAL BALL;SIX POINTED STAR WITH MIDDLE DOT;JAPANESE SYMBOL FOR BEGINNER",
    "TRIDENT EMBLEM;BLACK SQUARE BUTTON;WHITE SQUARE BUTTON"]⟩,
  ⟨0x1f534, "LARGE ", ["RED CIRCLE;BLUE CIRCLE;ORANGE DIAMOND;BLUE DIAMOND"]⟩,
  ⟨0x1f538, "SMALL ", ["ORANGE DIAMOND;BLUE DIAMOND"]⟩,
  ⟨0x1f53a, "", ["UP-POINTING RED TRIANGLE;DOWN-POINTING RED TRIANGLE",
    "UP-POINTING SMALL RED TRIANGLE;DOWN-POINTING SMALL RED TRIANGLE",
    "LOWER RIGHT SHADOWED WHITE CIRCLE;UPPER RIGHT SHADOWED WHITE CIRCLE;CIRCLED CROSS POMMEE"]⟩,
  ⟨0x1f541, "CROSS POMME", ["E WITH HALF-CIRCLE BELOW;E"]⟩,
  ⟨0x1f543, "NOTCHED ", ["LEFT SEMICIRCLE WITH THREE DOTS;RIGHT SEMICIRCLE WITH THREE DOTS"]⟩,
  ⟨0x1f545, "", ["SYMBOL FOR MARKS CHAPTER;WHITE LATIN CROSS;HEAVY LATIN CROSS;CELTIC CROSS",
    "OM SYMBOL;DOVE OF PEACE;KAABA;MOSQUE;SYNAGOGUE;MENORAH WITH NINE BRANCHES;BOWL OF HYGIEIA"]⟩,
  ⟨0x1f550, "CLOCK FACE ", ["ONE OCLOCK;TWO OCLOCK;THREE OCLOCK;FOUR OCLOCK;FIVE OCLOCK",
    "SIX OCLOCK;SEVEN OCLOCK;EIGHT OCLOCK;NINE OCLOCK;TEN OCLOCK;ELEVEN OCLOCK;TWELVE OCLOCK",
    "ONE-THIRTY;TWO-THIRTY;THREE-THIRTY;FOUR-THIRTY;FIVE-THIRTY;SIX-THIRTY;SEVEN-THIRTY",
    "EIGHT-THIRTY;NINE-THIRTY;TEN-THIRTY;ELEVEN-THIRTY;TWELVE-THIRTY"]⟩,
  ⟨0x1f568, "RIGHT SPEAKE", ["R;R WITH ONE SOUND WAVE;R WITH THREE SOUND WAVES"]⟩,
  ⟨0x1f56b, "BULLHOR", ["N;N WITH SOUND WAVES"]⟩,
  ⟨0x1f56d, "", ["RINGING BELL;BOOK;CANDLE;MANTELPIECE CLOCK;BLACK SKULL AND CROSSBONES",
    "NO PIRACY;HOLE;MAN IN BUSINESS SUIT LEVITATING;SLEUTH OR SPY;DARK SUNGLASSES;SPIDER",
    "SPIDER WEB;JOYSTICK;MAN DANCING;LEFT HAND TELEPHONE RECEIVER;TELEPHONE RECEIVER WITH PAGE",
    "RIGHT HAND TELEPHONE RECEIVER;WHITE TOUCHTONE TELEPHONE;BLACK TOUCHTONE TELEPHONE",
    "TELEPHONE ON TOP OF MODEM;CLAMSHELL MOBILE PHONE;BACK OF ENVELOPE;STAMPED ENVELOPE",
    "ENVELOPE WITH LIGHTNING;FLYING ENVELOPE;PEN OVER STAMPED ENVELOPE;LINKED PAPERCLIPS",
    "BLACK PUSHPIN"]⟩,
  ⟨0x1f589, "LOWER LEFT ", ["PENCIL;BALLPOINT PEN;FOUNTAIN PEN;PAINTBRUSH;CRAYON"]⟩,
  ⟨0x1f58e, "", ["LEFT WRITING HAND;TURNED OK HAND SIGN;RAISED HAND WITH FINGERS SPLAYED"]⟩,
  ⟨0x1f591, "REVERSED ", ["RAISED HAND WITH FINGERS SPLAYED;THUMBS UP SIGN;THUMBS DOWN SIGN",
    "VICTORY HAND;HAND WITH MIDDLE FINGER EXTENDED"]⟩,
  ⟨0x1f596, "", ["RAISED HAND WITH PART BETWEEN MIDDLE AND RING FINGERS",
    "WHITE DOWN POINTING LEFT HAND INDEX"]⟩,
  ⟨0x1f598, "SIDEWAYS ", ["WHITE LEFT POINTING INDEX;WHITE RIGHT POINTING INDEX",
    "BLACK LEFT POINTING INDEX;BLACK RIGHT POINTING INDEX"]⟩,
  ⟨0x1f59c, "BLACK ", ["LEFT POINTING BACKHAND INDEX;RIGHT POINTING BACKHAND INDEX"]⟩,
  ⟨0x1f59e, "SIDEWAYS ", ["WHITE UP POINTING INDEX;WHITE DOWN POINTING INDEX",
    "BLACK UP POINTING INDEX;BLACK DOWN POINTING INDEX"]⟩,
  ⟨0x1f5a2, "BLACK ", ["UP POINTING BACKHAND INDEX;DOWN POINTING BACKHAND INDEX;HEART"]⟩,
  ⟨0x1f5a5, "", ["DESKTOP COMPUTER;KEYBOARD AND MOUSE;THREE NETWORKED COMPUTERS;PRINTER",
    "POCKET CALCULATOR;BLACK HARD SHELL FLOPPY DISK;WHITE HARD SHELL FLOPPY DISK",
    "SOFT SHELL FLOPPY DISK;TAPE CARTRIDGE;WIRED KEYBOARD;ONE BUTTON MOUSE;TWO BUTTON MOUSE",
    "THREE BUTTON MOUSE;TRACKBALL;OLD PERSONAL COMPUTER;HARD DISK;SCREEN;PRINTER ICON;FAX ICON",
    "OPTICAL DISC ICON"]⟩,
  ⟨0x1f5b9, "DOCUMENT WITH ", ["TEXT;TEXT AND PICTURE;PICTURE"]⟩,
  ⟨0x1f5bc, "FRAME WITH ", ["PICTURE;TILES;AN X"]⟩,
  ⟨0x1f5bf, "", ["BLACK FOLDER;FOLDER;OPEN FOLDER;CARD INDEX DIVIDERS;CARD FILE BOX",
    "FILE CABINET"]⟩,
  ⟨0x1f5c5, "EMPTY NOT", ["E;E PAGE;E PAD"]⟩,
  ⟨0x1f5c8, "NOT", ["E;E PAGE;E PAD"]⟩,
  ⟨0x1f5cb, "EMPTY ", ["DOCUMENT;PAGE;PAGES"]⟩,
  ⟨0x1f5ce, "", ["DOCUMENT;PAGE;PAGES;WASTEBASKET"]⟩,
  ⟨0x1f5d2, "SPIRAL ", ["NOTE PAD;CALENDAR PAD"]⟩,
  ⟨0x1f5d4, "", ["DESKTOP WINDOW;MINIMIZE;MAXIMIZE;OVERLAP",
    "CLOCKWISE RIGHT AND LEFT SEMICIRCLE ARROWS;CANCELLATION X;INCREASE FONT SIZE SYMBOL",
    "DECREASE FONT SIZE SYMBOL;COMPRESSION;OLD KEY;ROLLED-UP NEWSPAPER;PAGE WITH CIRCLED TEXT",
    "STOCK CHART;DAGGER KNIFE;LIPS;SPEAKING HEAD IN SILHOUETTE"]⟩,
  ⟨0x1f5e4, "THREE RAYS ", ["ABOVE;BELOW;LEFT;RIGHT"]⟩,
  ⟨0x1f5e8, "", ["LEFT SPEECH BUBBLE;RIGHT SPEECH BUBBLE;TWO SPEECH BUBBLES",
    "THREE SPEECH BUBBLES;LEFT THOUGHT BUBBLE;RIGHT THOUGHT BUBBLE;LEFT ANGER BUBBLE",
    "RIGHT ANGER BUBBLE;MOOD BUBBLE"]⟩,
  ⟨0x1f5f1, "LIGHTNING MOO", ["D BUBBLE;D"]⟩,
  ⟨0x1f5f3, "BALLOT ", ["BOX WITH BALLOT;SCRIPT X;BOX WITH SCRIPT X;BOLD SCRIPT X",
    "BOX WITH BOLD SCRIPT X"]⟩,
  ⟨0x1f5f8, "", ["LIGHT CHECK MARK;BALLOT BOX WITH BOLD CHECK;WORLD MAP;MOUNT FUJI;TOKYO TOWER",
    "STATUE OF LIBERTY;SILHOUETTE OF JAPAN;MOYAI"]⟩,
  ⟨0x1f600, "GRINNING FAC", ["E;E WITH SMILING EYES"]⟩,
  ⟨0x1f602, "FACE WITH TEARS OF JO", ["Y"]⟩,
  ⟨0x1f603, "SMILING FACE WITH OPEN MOUT", ["H;H AND SMILING EYES;H AND COLD SWEAT",
    "H AND TIGHTLY-CLOSED EYES"]⟩,
  ⟨0x1f607, "SMILING FACE WITH H", ["ALO;ORNS"]⟩,
  ⟨0x1f609, "", ["WINKING FACE;SMILING FACE WITH SMILING EYES;FACE SAVOURING DELICIOUS FOOD",
    "RELIEVED FACE"]⟩,
  ⟨0x1f60d, "SMILING FACE WITH ", ["HEART-SHAPED EYES;SUNGLASSES"]⟩,
  ⟨0x1f60f, "", ["SMIRKING FACE;NEUTRAL FACE;EXPRESSIONLESS FACE;UNAMUSED FACE",
    "FACE WITH COLD SWEAT;PENSIVE FACE;CONFUSED FACE;CONFOUNDED FACE;KISSING FACE",
    "FACE THROWING A KISS"]⟩,
  ⟨0x1f619, "KISSING FACE WITH ", ["SMILING EYES;CLOSED EYES"]⟩,
  ⟨0x1f61b, "FACE WITH STUCK-OUT TONGU", ["E;E AND WINKING EYE;E AND TIGHTLY-CLOSED EYES"]⟩,
  ⟨0x1f61e, "", ["DISAPPOINTED FACE;WORRIED FACE;ANGRY FACE;POUTING FACE;CRYING FACE",
    "PERSEVERING FACE;FACE WITH LOOK OF TRIUMPH;DISAPPOINTED BUT RELIEVED FACE",
    "FROWNING FACE WITH OPEN MOUTH;ANGUISHED FACE;FEARFUL FACE;WEARY FACE;SLEEPY FACE;TIRED FACE",
    "GRIMACING FACE;LOUDLY CRYING FACE;FACE WITH OPEN MOUTH;HUSHED FACE",
    "FACE WITH OPEN MOUTH AND COLD SWEAT;FACE SCREAMING IN FEAR;ASTONISHED FACE;FLUSHED FACE",
    "SLEEPING FACE;DIZZY FACE"]⟩,
  ⟨0x1f636, "FACE WITH", ["OUT MOUTH; MEDICAL MASK"]⟩,
  ⟨0x1f638, "", ["GRINNING CAT FACE WITH SMILING EYES;CAT FACE WITH TEARS OF JOY"]⟩,
  ⟨0x1f63a, "SMILING CAT FACE WITH ", ["OPEN MOUTH;HEART-SHAPED EYES"]⟩,
  ⟨0x1f63c, "", ["CAT FACE WITH WRY SMILE;KISSING CAT FACE WITH CLOSED EYES;POUTING CAT FACE",
    "CRYING CAT FACE;WEARY CAT FACE"]⟩,
  ⟨0x1f641, "SLIGHTLY ", ["FROWNING FACE;SMILING FACE"]⟩,
  ⟨0x1f643, "UPSIDE-DOWN FAC", ["E"]⟩,
  ⟨0x1f644, "FACE WITH ", ["ROLLING EYES;NO GOOD GESTURE;OK GESTURE"]⟩,
  ⟨0x1f647, "", ["PERSON BOWING DEEPLY;SEE-NO-EVIL MONKEY;HEAR-NO-EVIL MONKEY",
    "SPEAK-NO-EVIL MONKEY;HAPPY PERSON RAISING ONE HAND"]⟩,
  ⟨0x1f64c, "PERSON ", ["RAISING BOTH HANDS IN CELEBRATION;FROWNING;WITH POUTING FACE",
    "WITH FOLDED HANDS"]⟩,
  ⟨0x1f650, "", ["NORTH WEST POINTING LEAF;SOUTH WEST POINTING LEAF;NORTH EAST POINTING LEAF",
    "SOUTH EAST POINTING LEAF"]⟩,
  ⟨0x1f654, "TURNED ", ["NORTH WEST POINTING LEAF;SOUTH WEST POINTING LEAF",
    "NORTH EAST POINTING LEAF;SOUTH EAST POINTING LEAF"]⟩,
  ⟨0x1f658, "", ["NORTH WEST POINTING VINE LEAF;SOUTH WEST POINTING VINE LEAF",
    "NORTH EAST POINTING VINE LEAF;SOUTH EAST POINTING VINE LEAF"]⟩,
  ⟨0x1f65c, "HEAVY ", ["NORTH WEST POINTING VINE LEAF;SOUTH WEST POINTING VINE LEAF",
    "NORTH EAST POINTING VINE LEAF;SOUTH EAST POINTING VINE LEAF"]⟩,
  ⟨0x1f660, "", ["NORTH WEST POINTING BUD;SOUTH WEST POINTING BUD;NORTH EAST POINTING BUD",
    "SOUTH EAST POINTING BUD"]⟩,
  ⟨0x1f664, "HEAVY ", ["NORTH WEST POINTING BUD;SOUTH WEST POINTING BUD;NORTH EAST POINTING BUD",
    "SOUTH EAST POINTING BUD"]⟩,
  ⟨0x1f668, "HOLLOW QUILT SQUARE ORNAMEN", ["T;T IN BLACK SQUARE"]⟩,
  ⟨0x1f66a, "SOLID QUILT SQUARE ORNAMEN", ["T;T IN BLACK SQUARE"]⟩,
  ⟨0x1f66c, "", ["LEFTWARDS ROCKET;UPWARDS ROCKET;RIGHTWARDS ROCKET;DOWNWARDS ROCKET",
    "SCRIPT LIGATURE ET ORNAMENT;HEAVY SCRIPT LIGATURE ET ORNAMENT;LIGATURE OPEN ET ORNAMENT",
    "HEAVY LIGATURE OPEN ET ORNAMENT;HEAVY AMPERSAND ORNAMENT;SWASH AMPERSAND ORNAMENT"]⟩,
  ⟨0x1f676, "SANS-SERIF HEAVY ", ["DOUBLE TURNED COMMA QUOTATION MARK ORNAMENT",
    "DOUBLE COMMA QUOTATION MARK ORNAMENT;LOW DOUBLE COMMA QUOTATION MARK ORNAMENT"]⟩,
  ⟨0x1f679, "", ["HEAVY INTERROBANG ORNAMENT;SANS-SERIF INTERROBANG ORNAMENT",
    "HEAVY SANS-SERIF INTERROBANG ORNAMENT"]⟩,
  ⟨0x1f67c, "VERY HEAVY ", ["SOLIDUS;REVERSE SOLIDUS"]⟩,
  ⟨0x1f67e, "", ["CHECKER BOARD;REVERSE CHECKER BOARD;ROCKET;HELICOPTER;STEAM LOCOMOTIVE",
    "RAILWAY CAR"]⟩,
  ⟨0x1f684, "HIGH-SPEED TRAI", ["N;N WITH BULLET NOSE"]⟩,
  ⟨0x1f686, "", ["TRAIN;METRO;LIGHT RAIL;STATION;TRAM;TRAM CAR;BUS;ONCOMING BUS;TROLLEYBUS",
    "BUS STOP;MINIBUS;AMBULANCE;FIRE ENGINE;POLICE CAR;ONCOMING POLICE CAR;TAXI;ONCOMING TAXI",
    "AUTOMOBILE;ONCOMING AUTOMOBILE;RECREATIONAL VEHICLE;DELIVERY TRUCK;ARTICULATED LORRY",
    "TRACTOR;MONORAIL;MOUNTAIN RAILWAY;SUSPENSION RAILWAY;MOUNTAIN CABLEWAY;AERIAL TRAMWAY;SHIP",
    "ROWBOAT;SPEEDBOAT;HORIZONTAL TRAFFIC LIGHT;VERTICAL TRAFFIC LIGHT;CONSTRUCTION SIGN"]⟩,
  ⟨0x1f6a8, "", ["POLICE CARS REVOLVING LIGHT;TRIANGULAR FLAG ON POST;DOOR;NO ENTRY SIGN",
    "SMOKING SYMBOL;NO SMOKING SYMBOL;PUT LITTER IN ITS PLACE SYMBOL;DO NOT LITTER SYMBOL",
    "POTABLE WATER SYMBOL;NON-POTABLE WATER SYMBOL;BICYCLE;NO BICYCLES;BICYCLIST",
    "MOUNTAIN BICYCLIST;PEDESTRIAN;NO PEDESTRIANS;CHILDREN CROSSING;MENS SYMBOL;WOMENS SYMBOL",
    "RESTROOM;BABY SYMBOL;TOILET;WATER CLOSET;SHOWER;BATH;BATHTUB;PASSPORT CONTROL;CUSTOMS",
    "BAGGAGE CLAIM;LEFT LUGGAGE;TRIANGLE WITH ROUNDED CORNERS;PROHIBITED SIGN",
    "CIRCLED INFORMATION SOURCE;BOYS SYMBOL;GIRLS SYMBOL;COUCH AND LAMP;SLEEPING ACCOMMODATION",
    "SHOPPING BAGS;BELLHOP BELL;BED;PLACE OF WORSHIP;OCTAGONAL SIGN;SHOPPING TROLLEY;STUPA",
    "PAGODA;HINDU TEMPLE;HUT;ELEVATOR;;;;;;PLAYGROUND SLIDE;WHEEL;RING BUOY;HAMMER AND WRENCH",
    "SHIELD;OIL DRUM;MOTORWAY;RAILWAY TRACK;MOTOR BOAT"]⟩,
  ⟨0x1f6e6, "UP-POINTING ", ["MILITARY AIRPLANE;AIRPLANE;SMALL AIRPLANE"]⟩,
  ⟨0x1f6e9, "", ["SMALL AIRPLANE;NORTHEAST-POINTING AIRPLANE"]⟩,
  ⟨0x1f6eb, "AIRPLANE ", ["DEPARTURE;ARRIVING"]⟩,
  ⟨0x1f6ed, "", [";;;SATELLITE;ONCOMING FIRE ENGINE;DIESEL LOCOMOTIVE;PASSENGER SHIP;SCOOTER",
    "MOTOR SCOOTER;CANOE;SLED;FLYING SAUCER;SKATEBOARD;AUTO RICKSHAW;PICKUP TRUCK;ROLLER SKATE"]⟩,
  ⟨0x1f6fd, "ALCHEMICAL SYMBOL FOR ", [";;;QUINTESSENCE;AIR;FIRE;EARTH;WATER;AQUAFORTIS",
    "AQUA REGIA;AQUA REGIA-2;AQUA VITAE;AQUA VITAE-2;VINEGAR;VINEGAR-2;VINEGAR-3;SULFUR",
    "PHILOSOPHERS SULFUR;BLACK SULFUR;MERCURY SUBLIMATE;MERCURY SUBLIMATE-2;MERCURY SUBLIMATE-3",
    "CINNABAR;SALT;NITRE;VITRIOL;VITRIOL-2;ROCK SALT;ROCK SALT-2;GOLD;SILVER;IRON ORE;IRON ORE-2",
    "CROCUS OF IRON;REGULUS OF IRON;COPPER ORE;IRON-COPPER ORE;SUBLIMATE OF COPPER",
    "CROCUS OF COPPER;CROCUS OF COPPER-2;COPPER ANTIMONIATE;SALT OF COPPER ANTIMONIATE",
    "SUBLIMATE OF SALT OF COPPER;VERDIGRIS;TIN ORE;LEAD ORE;ANTIMONY ORE;SUBLIMATE OF ANTIMONY",
    "SALT OF ANTIMONY;SUBLIMATE OF SALT OF ANTIMONY;VINEGAR OF ANTIMONY;REGULUS OF ANTIMONY",
    "REGULUS OF ANTIMONY-2;REGULUS;REGULUS-2;REGULUS-3;REGULUS-4;ALKALI;ALKALI-2;MARCASITE",
    "SAL-AMMONIAC;ARSENIC;REALGAR;REALGAR-2;AURIPIGMENT;BISMUTH ORE;TARTAR;TARTAR-2;QUICK LIME",
    "BORAX;BORAX-2;BORAX-3;ALUM;OIL;SPIRIT;TINCTURE;GUM;WAX;POWDER;CALX;TUTTY;CAPUT MORTUUM",
    "SCEPTER OF JOVE;CADUCEUS;TRIDENT;STARRED TRIDENT;LODESTONE;SOAP;URINE;HORSE DUNG;ASHES",
    "POT ASHES;BRICK;POWDERED BRICK;AMALGAM;STRATUM SUPER STRATUM;STRATUM SUPER STRATUM-2",
    "SUBLIMATION;PRECIPITATE;DISTILL;DISSOLVE;DISSOLVE-2;PURIFY;PUTREFACTION;CRUCIBLE;CRUCIBLE-2",
    "CRUCIBLE-3;CRUCIBLE-4;CRUCIBLE-5;ALEMBIC;BATH OF MARY;BATH OF VAPOURS;RETORT;HOUR;NIGHT",
    "DAY-NIGHT;MONTH;HALF DRAM;HALF OUNCE"]⟩]

/-- Recent scripts, games and pictures, from U+1F780 on. -/
def picturesPartC : List Block := [
  ⟨0x1f780, "BLACK ", ["LEFT-POINTING ISOSCELES RIGHT TRIANGLE",
    "UP-POINTING ISOSCELES RIGHT TRIANGLE;RIGHT-POINTING ISOSCELES RIGHT TRIANGLE",
    "DOWN-POINTING ISOSCELES RIGHT TRIANGLE;SLIGHTLY SMALL CIRCLE"]⟩,
  ⟨0x1f785, "", ["MEDIUM BOLD WHITE CIRCLE;BOLD WHITE CIRCLE;HEAVY WHITE CIRCLE",
    "VERY HEAVY WHITE CIRCLE;EXTREMELY HEAVY WHITE CIRCLE",
    "WHITE CIRCLE CONTAINING BLACK SMALL CIRCLE;ROUND TARGET;BLACK TINY SQUARE",
    "BLACK SLIGHTLY SMALL SQUARE;LIGHT WHITE SQUARE;MEDIUM WHITE SQUARE;BOLD WHITE SQUARE",
    "HEAVY WHITE SQUARE;VERY HEAVY WHITE SQUARE;EXTREMELY HEAVY WHITE SQUARE"]⟩,
  ⟨0x1f794, "WHITE SQUARE CONTAINING BLACK ", ["VERY SMALL SQUARE;MEDIUM SQUARE"]⟩,
  ⟨0x1f796, "SQUARE TARGE", ["T"]⟩,
  ⟨0x1f797, "BLACK ", ["TINY DIAMOND;VERY SMALL DIAMOND;MEDIUM SMALL DIAMOND"]⟩,
  ⟨0x1f79a, "WHITE DIAMOND CONTAINING BLACK ", ["VERY SMALL DIAMOND;MEDIUM DIAMOND"]⟩,
  ⟨0x1f79c, "DIAMOND TARGE", ["T"]⟩,
  ⟨0x1f79d, "BLACK ", ["TINY LOZENGE;VERY SMALL LOZENGE;MEDIUM SMALL LOZENGE"]⟩,
  ⟨0x1f7a0, "", ["WHITE LOZENGE CONTAINING BLACK SMALL LOZENGE;THIN GREEK CROSS",
    "LIGHT GREEK CROSS;MEDIUM GREEK CROSS;BOLD GREEK CROSS;VERY BOLD GREEK CROSS",
    "VERY HEAVY GREEK CROSS;EXTREMELY HEAVY GREEK CROSS;THIN SALTIRE;LIGHT SALTIRE",
    "MEDIUM SALTIRE;BOLD SALTIRE;HEAVY SALTIRE;VERY HEAVY SALTIRE;EXTREMELY HEAVY SALTIRE",
    "LIGHT FIVE SPOKED ASTERISK;MEDIUM FIVE SPOKED ASTERISK;BOLD FIVE SPOKED ASTERISK",
    "HEAVY FIVE SPOKED ASTERISK;VERY HEAVY FIVE SPOKED ASTERISK",
    "EXTREMELY HEAVY FIVE SPOKED ASTERISK;LIGHT SIX SPOKED ASTERISK;MEDIUM SIX SPOKED ASTERISK",
    "BOLD SIX SPOKED ASTERISK;HEAVY SIX SPOKED ASTERISK;VERY HEAVY SIX SPOKED ASTERISK",
    "EXTREMELY HEAVY SIX SPOKED ASTERISK;LIGHT EIGHT SPOKED ASTERISK",
    "MEDIUM EIGHT SPOKED ASTERISK;BOLD EIGHT SPOKED ASTERISK;HEAVY EIGHT SPOKED ASTERISK",
    "VERY HEAVY EIGHT SPOKED ASTERISK;LIGHT THREE POINTED BLACK STAR",
    "MEDIUM THREE POINTED BLACK STAR;THREE POINTED BLACK STAR;MEDIUM THREE POINTED PINWHEEL STAR",
    "LIGHT FOUR POINTED BLACK STAR;MEDIUM FOUR POINTED BLACK STAR;FOUR POINTED BLACK STAR",
    "MEDIUM FOUR POINTED PINWHEEL STAR;REVERSE LIGHT FOUR POINTED PINWHEEL STAR",
    "LIGHT FIVE POINTED BLACK STAR;HEAVY FIVE POINTED BLACK STAR;MEDIUM SIX POINTED BLACK STAR",
    "HEAVY SIX POINTED BLACK STAR;SIX POINTED PINWHEEL STAR;MEDIUM EIGHT POINTED BLACK STAR",
    "HEAVY EIGHT POINTED BLACK STAR;VERY HEAVY EIGHT POINTED BLACK STAR",
    "HEAVY EIGHT POINTED PINWHEEL STAR;LIGHT TWELVE POINTED BLACK STAR"]⟩,
  ⟨0x1f7d3, "HEAVY TWELVE POINTED ", ["BLACK STAR;PINWHEEL STAR"]⟩,
  ⟨0x1f7d5, "", ["CIRCLED TRIANGLE;NEGATIVE CIRCLED TRIANGLE;CIRCLED SQUARE",
    "NEGATIVE CIRCLED SQUARE"]⟩,
  ⟨0x1f7d9, "LARGE ", [";;;;;;;ORANGE CIRCLE;YELLOW CIRCLE;GREEN CIRCLE;PURPLE CIRCLE",
    "BROWN CIRCLE;RED SQUARE;BLUE SQUARE;ORANGE SQUARE;YELLOW SQUARE;GREEN SQUARE;PURPLE SQUARE",
    "BROWN SQUARE"]⟩,
  ⟨0x1f7ec, "HEAVY EQUALS SIG", [";;;;N"]⟩,
  ⟨0x1f800, "", ["LEFTWARDS ARROW WITH SMALL TRIANGLE ARROWHEAD",
    "UPWARDS ARROW WITH SMALL TRIANGLE ARROWHEAD;RIGHTWARDS ARROW WITH SMALL TRIANGLE ARROWHEAD",
    "DOWNWARDS ARROW WITH SMALL TRIANGLE ARROWHEAD",
    "LEFTWARDS ARROW WITH MEDIUM TRIANGLE ARROWHEAD;UPWARDS ARROW WITH MEDIUM TRIANGLE ARROWHEAD",
    "RIGHTWARDS ARROW WITH MEDIUM TRIANGLE ARROWHEAD",
    "DOWNWARDS ARROW WITH MEDIUM TRIANGLE ARROWHEAD",
    "LEFTWARDS ARROW WITH LARGE TRIANGLE ARROWHEAD;UPWARDS ARROW WITH LARGE TRIANGLE ARROWHEAD",
    "RIGHTWARDS ARROW WITH LARGE TRIANGLE ARROWHEAD",
    "DOWNWARDS ARROW WITH LARGE TRIANGLE ARROWHEAD;;;;",
    "LEFTWARDS ARROW WITH SMALL EQUILATERAL ARROWHEAD",
    "UPWARDS ARROW WITH SMALL EQUILATERAL ARROWHEAD",
    "RIGHTWARDS ARROW WITH SMALL EQUILATERAL ARROWHEAD",
    "DOWNWARDS ARROW WITH SMALL EQUILATERAL ARROWHEAD;LEFTWARDS ARROW WITH EQUILATERAL ARROWHEAD",
    "UPWARDS ARROW WITH EQUILATERAL ARROWHEAD;RIGHTWARDS ARROW WITH EQUILATERAL ARROWHEAD",
    "DOWNWARDS ARROW WITH EQUILATERAL ARROWHEAD"]⟩,
  ⟨0x1f818, "HEAVY ", ["LEFTWARDS ARROW WITH EQUILATERAL ARROWHEAD",
    "UPWARDS ARROW WITH EQUILATERAL ARROWHEAD;RIGHTWARDS ARROW WITH EQUILATERAL ARROWHEAD",
    "DOWNWARDS ARROW WITH EQUILATERAL ARROWHEAD;LEFTWARDS ARROW WITH LARGE EQUILATERAL ARROWHEAD",
    "UPWARDS ARROW WITH LARGE EQUILATERAL ARROWHEAD",
    "RIGHTWARDS ARROW WITH LARGE EQUILATERAL ARROWHEAD",
    "DOWNWARDS ARROW WITH LARGE EQUILATERAL ARROWHEAD"]⟩,
  ⟨0x1f820, "", ["LEFTWARDS TRIANGLE-HEADED ARROW WITH NARROW SHAFT",
    "UPWARDS TRIANGLE-HEADED ARROW WITH NARROW SHAFT",
    "RIGHTWARDS TRIANGLE-HEADED ARROW WITH NARROW SHAFT",
    "DOWNWARDS TRIANGLE-HEADED ARROW WITH NARROW SHAFT",
    "LEFTWARDS TRIANGLE-HEADED ARROW WITH MEDIUM SHAFT",
    "UPWARDS TRIANGLE-HEADED ARROW WITH MEDIUM SHAFT",
    "RIGHTWARDS TRIANGLE-HEADED ARROW WITH MEDIUM SHAFT",
    "DOWNWARDS TRIANGLE-HEADED ARROW WITH MEDIUM SHAFT",
    "LEFTWARDS TRIANGLE-HEADED ARROW WITH BOLD SHAFT",
    "UPWARDS TRIANGLE-HEADED ARROW WITH BOLD SHAFT",
    "RIGHTWARDS TRIANGLE-HEADED ARROW WITH BOLD SHAFT",
    "DOWNWARDS TRIANGLE-HEADED ARROW WITH BOLD SHAFT",
    "LEFTWARDS TRIANGLE-HEADED ARROW WITH HEAVY SHAFT",
    "UPWARDS TRIANGLE-HEADED ARROW WITH HEAVY SHAFT",
    "RIGHTWARDS TRIANGLE-HEADED ARROW WITH HEAVY SHAFT",
    "DOWNWARDS TRIANGLE-HEADED ARROW WITH HEAVY SHAFT",
    "LEFTWARDS TRIANGLE-HEADED ARROW WITH VERY HEAVY SHAFT",
    "UPWARDS TRIANGLE-HEADED ARROW WITH VERY HEAVY SHAFT",
    "RIGHTWARDS TRIANGLE-HEADED ARROW WITH VERY HEAVY SHAFT",
    "DOWNWARDS TRIANGLE-HEADED ARROW WITH VERY HEAVY SHAFT;LEFTWARDS FINGER-POST ARROW",
    "UPWARDS FINGER-POST ARROW;RIGHTWARDS FINGER-POST ARROW;DOWNWARDS FINGER-POST ARROW",
    "LEFTWARDS SQUARED ARROW;UPWARDS SQUARED ARROW;RIGHTWARDS SQUARED ARROW",
    "DOWNWARDS SQUARED ARROW;LEFTWARDS COMPRESSED ARROW;UPWARDS COMPRESSED ARROW",
    "RIGHTWARDS COMPRESSED ARROW;DOWNWARDS COMPRESSED ARROW;LEFTWARDS HEAVY COMPRESSED ARROW",
    "UPWARDS HEAVY COMPRESSED ARROW;RIGHTWARDS HEAVY COMPRESSED ARROW",
    "DOWNWARDS HEAVY COMPRESSED ARROW;LEFTWARDS HEAVY ARROW;UPWARDS HEAVY ARROW",
    "RIGHTWARDS HEAVY ARROW;DOWNWARDS HEAVY ARROW"]⟩,
  ⟨0x1f850, "", ["LEFTWARDS SANS-SERIF ARROW;UPWARDS SANS-SERIF ARROW",
    "RIGHTWARDS SANS-SERIF ARROW;DOWNWARDS SANS-SERIF ARROW"]⟩,
  ⟨0x1f854, "NORTH ", ["WEST SANS-SERIF ARROW;EAST SANS-SERIF ARROW"]⟩,
  ⟨0x1f856, "SOUTH ", ["EAST SANS-SERIF ARROW;WEST SANS-SERIF ARROW"]⟩,
  ⟨0x1f858, "", ["LEFT RIGHT SANS-SERIF ARROW;UP DOWN SANS-SERIF ARROW"]⟩,
  ⟨0x1f85a, "WIDE-HEADED ", [";;;;;;LEFTWARDS LIGHT BARB ARROW;UPWARDS LIGHT BARB ARROW",
    "RIGHTWARDS LIGHT BARB ARROW;DOWNWARDS LIGHT BARB ARROW;NORTH WEST LIGHT BARB ARROW",
    "NORTH EAST LIGHT BARB ARROW;SOUTH EAST LIGHT BARB ARROW;SOUTH WEST LIGHT BARB ARROW",
    "LEFTWARDS BARB ARROW;UPWARDS BARB ARROW;RIGHTWARDS BARB ARROW;DOWNWARDS BARB ARROW",
    "NORTH WEST BARB ARROW;NORTH EAST BARB ARROW;SOUTH EAST BARB ARROW;SOUTH WEST BARB ARROW",
    "LEFTWARDS MEDIUM BARB ARROW;UPWARDS MEDIUM BARB ARROW;RIGHTWARDS MEDIUM BARB ARROW",
    "DOWNWARDS MEDIUM BARB ARROW;NORTH WEST MEDIUM BARB ARROW;NORTH EAST MEDIUM BARB ARROW",
    "SOUTH EAST MEDIUM BARB ARROW;SOUTH WEST MEDIUM BARB ARROW;LEFTWARDS HEAVY BARB ARROW",
    "UPWARDS HEAVY BARB ARROW;RIGHTWARDS HEAVY BARB ARROW;DOWNWARDS HEAVY BARB ARROW",
    "NORTH WEST HEAVY BARB ARROW;NORTH EAST HEAVY BARB ARROW;SOUTH EAST HEAVY BARB ARROW",
    "SOUTH WEST HEAVY BARB ARROW;LEFTWARDS VERY HEAVY BARB ARROW;UPWARDS VERY HEAVY BARB ARROW",
    "RIGHTWARDS VERY HEAVY BARB ARROW;DOWNWARDS VERY HEAVY BARB ARROW",
    "NORTH WEST VERY HEAVY BARB ARROW;NORTH EAST VERY HEAVY BARB ARROW",
    "SOUTH EAST VERY HEAVY BARB ARROW;SOUTH WEST VERY HEAVY BARB ARROW"]⟩,
  ⟨0x1f890, "", ["LEFTWARDS TRIANGLE ARROWHEAD;UPWARDS TRIANGLE ARROWHEAD",
    "RIGHTWARDS TRIANGLE ARROWHEAD;DOWNWARDS TRIANGLE ARROWHEAD",
    "LEFTWARDS WHITE ARROW WITHIN TRIANGLE ARROWHEAD",
    "UPWARDS WHITE ARROW WITHIN TRIANGLE ARROWHEAD",
    "RIGHTWARDS WHITE ARROW WITHIN TRIANGLE ARROWHEAD",
    "DOWNWARDS WHITE ARROW WITHIN TRIANGLE ARROWHEAD;LEFTWARDS ARROW WITH NOTCHED TAIL",
    "UPWARDS ARROW WITH NOTCHED TAIL;RIGHTWARDS ARROW WITH NOTCHED TAIL",
    "DOWNWARDS ARROW WITH NOTCHED TAIL"]⟩,
  ⟨0x1f89c, "HEAVY ARROW SHAFT WIDTH ", ["ONE;TWO THIRDS;ONE HALF;ONE THIRD"]⟩,
  ⟨0x1f8a0, "", ["LEFTWARDS BOTTOM-SHADED WHITE ARROW;RIGHTWARDS BOTTOM SHADED WHITE ARROW",
    "LEFTWARDS TOP SHADED WHITE ARROW;RIGHTWARDS TOP SHADED WHITE ARROW",
    "LEFTWARDS LEFT-SHADED WHITE ARROW;RIGHTWARDS RIGHT-SHADED WHITE ARROW",
    "LEFTWARDS RIGHT-SHADED WHITE ARROW;RIGHTWARDS LEFT-SHADED WHITE ARROW",
    "LEFTWARDS BACK-TILTED SHADOWED WHITE ARROW;RIGHTWARDS BACK-TILTED SHADOWED WHITE ARROW",
    "LEFTWARDS FRONT-TILTED SHADOWED WHITE ARROW;RIGHTWARDS FRONT-TILTED SHADOWED WHITE ARROW"]⟩,
  ⟨0x1f8ac, "WHITE ARROW SHAFT WIDTH ", ["ONE;TWO THIRDS"]⟩,
  ⟨0x1f8ae, "ARROW POINTING ", [";;UPWARDS THEN NORTH WEST;RIGHTWARDS THEN CURVING SOUTH WEST"]⟩,
  ⟨0x1f900, "CIRCLED CROSS FORME", ["E WITH FOUR DOTS;E WITH TWO DOTS;E"]⟩,
  ⟨0x1f903, "LEFT HALF CIRCLE WITH ", ["FOUR DOTS;THREE DOTS;TWO DOTS;DOT"]⟩,
  ⟨0x1f907, "LEFT HALF CIRCL", ["E"]⟩,
  ⟨0x1f908, "DOWNWARD FACING ", ["HOOK;NOTCHED HOOK;HOOK WITH DOT;NOTCHED HOOK WITH DOT"]⟩,
  ⟨0x1f90c, "", ["PINCHED FINGERS;WHITE HEART;BROWN HEART;PINCHING HAND;ZIPPER-MOUTH FACE",
    "MONEY-MOUTH FACE;FACE WITH THERMOMETER;NERD FACE;THINKING FACE;FACE WITH HEAD-BANDAGE",
    "ROBOT FACE;HUGGING FACE;SIGN OF THE HORNS;CALL ME HAND;RAISED BACK OF HAND;LEFT-FACING FIST",
    "RIGHT-FACING FIST;HANDSHAKE;HAND WITH INDEX AND MIDDLE FINGERS CROSSED;I LOVE YOU HAND SIGN",
    "FACE WITH COWBOY HAT;CLOWN FACE;NAUSEATED FACE;ROLLING ON THE FLOOR LAUGHING;DROOLING FACE",
    "LYING FACE;FACE PALM;SNEEZING FACE;FACE WITH ONE EYEBROW RAISED"]⟩,
  ⟨0x1f929, "GRINNING FACE WITH ", ["STAR EYES;ONE LARGE AND ONE SMALL EYE"]⟩,
  ⟨0x1f92b, "", ["FACE WITH FINGER COVERING CLOSED LIPS",
    "SERIOUS FACE WITH SYMBOLS COVERING MOUTH",
    "SMILING FACE WITH SMILING EYES AND HAND COVERING MOUTH;FACE WITH OPEN MOUTH VOMITING",
    "SHOCKED FACE WITH EXPLODING HEAD;PREGNANT WOMAN;BREAST-FEEDING;PALMS UP TOGETHER;SELFIE",
    "PRINCE"]⟩,
  ⟨0x1f935, "", ["MAN IN TUXEDO;MOTHER CHRISTMAS;SHRUG;PERSON DOING CARTWHEEL;JUGGLING;FENCER",
    "MODERN PENTATHLON;WRESTLERS;WATER POLO;HANDBALL;DIVING MASK;WILTED FLOWER",
    "DRUM WITH DRUMSTICKS;CLINKING GLASSES;TUMBLER GLASS;SPOON;GOAL NET;RIFLE;FIRST PLACE MEDAL",
    "SECOND PLACE MEDAL;THIRD PLACE MEDAL;BOXING GLOVE;MARTIAL ARTS UNIFORM;CURLING STONE",
    "LACROSSE STICK AND BALL;SOFTBALL;FLYING DISC;CROISSANT;AVOCADO;CUCUMBER;BACON;POTATO;CARROT",
    "BAGUETTE BREAD;GREEN SALAD;SHALLOW PAN OF FOOD;STUFFED FLATBREAD;EGG;GLASS OF MILK;PEANUTS",
    "KIWIFRUIT;PANCAKES;DUMPLING;FORTUNE COOKIE;TAKEOUT BOX;CHOPSTICKS;BOWL WITH SPOON",
    "CUP WITH STRAW;COCONUT;BROCCOLI;PIE;PRETZEL;CUT OF MEAT;SANDWICH;CANNED FOOD;LEAFY GREEN",
    "MANGO;MOON CAKE;BAGEL;SMILING FACE WITH SMILING EYES AND THREE HEARTS;YAWNING FACE",
    "SMILING FACE WITH TEAR"]⟩,
  ⟨0x1f973, "FACE WITH ", ["PARTY HORN AND PARTY HAT;UNEVEN EYES AND WAVY MOUTH"]⟩,
  ⟨0x1f975, "", ["OVERHEATED FACE;FREEZING FACE;NINJA;DISGUISED FACE;FACE HOLDING BACK TEARS",
    "FACE WITH PLEADING EYES;SARI;LAB COAT;GOGGLES;HIKING BOOT;FLAT SHOE;CRAB;LION FACE;SCORPION",
    "TURKEY;UNICORN FACE;EAGLE;DUCK;BAT;SHARK;OWL;FOX FACE;BUTTERFLY;DEER;GORILLA;LIZARD",
    "RHINOCEROS;SHRIMP;SQUID;GIRAFFE FACE;ZEBRA FACE;HEDGEHOG;SAUROPOD;T-REX;CRICKET;KANGAROO",
    "LLAMA;PEACOCK;HIPPOPOTAMUS;PARROT;RACCOON;LOBSTER;MOSQUITO;MICROBE;BADGER;SWAN;MAMMOTH;DODO",
    "SLOTH;OTTER;ORANGUTAN;SKUNK;FLAMINGO;OYSTER;BEAVER;BISON;SEAL;GUIDE DOG;PROBING CANE"]⟩,
  ⟨0x1f9b0, "EMOJI COMPONENT ", ["RED HAIR;CURLY HAIR;BALD;WHITE HAIR"]⟩,
  ⟨0x1f9b4, "", ["BONE;LEG;FOOT;TOOTH;SUPERHERO;SUPERVILLAIN;SAFETY VEST;EAR WITH HEARING AID",
    "MOTORIZED WHEELCHAIR;MANUAL WHEELCHAIR"]⟩,
  ⟨0x1f9be, "MECHANICAL ", ["ARM;LEG"]⟩,
  ⟨0x1f9c0, "", ["CHEESE WEDGE;CUPCAKE;SALT SHAKER;BEVERAGE BOX;GARLIC;ONION;FALAFEL;WAFFLE",
    "BUTTER;MATE DRINK;ICE CUBE;BUBBLE TEA;TROLL;STANDING PERSON;KNEELING PERSON;DEAF PERSON",
    "FACE WITH MONOCLE;ADULT;CHILD;OLDER ADULT;BEARDED PERSON"]⟩,
  ⟨0x1f9d5, "PERSON ", ["WITH HEADSCARF;IN STEAMY ROOM;CLIMBING;IN LOTUS POSITION"]⟩,
  ⟨0x1f9d9, "", ["MAGE;FAIRY;VAMPIRE;MERPERSON;ELF;GENIE;ZOMBIE;BRAIN;ORANGE HEART;BILLED CAP",
    "SCARF;GLOVES;COAT;SOCKS;RED GIFT ENVELOPE;FIRECRACKER;JIGSAW PUZZLE PIECE;TEST TUBE",
    "PETRI DISH;DNA DOUBLE HELIX;COMPASS;ABACUS;FIRE EXTINGUISHER;TOOLBOX;BRICK;MAGNET;LUGGAGE",
    "LOTION BOTTLE;SPOOL OF THREAD;BALL OF YARN;SAFETY PIN;TEDDY BEAR;BROOM;BASKET;ROLL OF PAPER",
    "BAR OF SOAP;SPONGE;RECEIPT;NAZAR AMULET"]⟩,
  ⟨0x1fa00, "NEUTRAL CHESS ", ["KING;QUEEN;ROOK;BISHOP;KNIGHT;PAWN"]⟩,
  ⟨0x1fa06, "", ["WHITE CHESS KNIGHT ROTATED FORTY-FIVE DEGREES",
    "BLACK CHESS KNIGHT ROTATED FORTY-FIVE DEGREES",
    "NEUTRAL CHESS KNIGHT ROTATED FORTY-FIVE DEGREES"]⟩,
  ⟨0x1fa09, "WHITE CHESS ", ["KING ROTATED NINETY DEGREES;QUEEN ROTATED NINETY DEGREES",
    "ROOK ROTATED NINETY DEGREES;BISHOP ROTATED NINETY DEGREES;KNIGHT ROTATED NINETY DEGREES",
    "PAWN ROTATED NINETY DEGREES"]⟩,
  ⟨0x1fa0f, "BLACK CHESS ", ["KING ROTATED NINETY DEGREES;QUEEN ROTATED NINETY DEGREES",
    "ROOK ROTATED NINETY DEGREES;BISHOP ROTATED NINETY DEGREES;KNIGHT ROTATED NINETY DEGREES",
    "PAWN ROTATED NINETY DEGREES"]⟩,
  ⟨0x1fa15, "NEUTRAL CHESS ", ["KING ROTATED NINETY DEGREES;QUEEN ROTATED NINETY DEGREES",
    "ROOK ROTATED NINETY DEGREES;BISHOP ROTATED NINETY DEGREES;KNIGHT ROTATED NINETY DEGREES",
    "PAWN ROTATED NINETY DEGREES"]⟩,
  ⟨0x1fa1b, "", ["WHITE CHESS KNIGHT ROTATED ONE HUNDRED THIRTY-FIVE DEGREES",
    "BLACK CHESS KNIGHT ROTATED ONE HUNDRED THIRTY-FIVE DEGREES",
    "NEUTRAL CHESS KNIGHT ROTATED ONE HUNDRED THIRTY-FIVE DEGREES"]⟩,
  ⟨0x1fa1e, "WHITE CHESS TURNED ", ["KING;QUEEN;ROOK;BISHOP;KNIGHT;PAWN"]⟩,
  ⟨0x1fa24, "BLACK CHESS TURNED ", ["KING;QUEEN;ROOK;BISHOP;KNIGHT;PAWN"]⟩,
  ⟨0x1fa2a, "NEUTRAL CHESS TURNED ", ["KING;QUEEN;ROOK;BISHOP;KNIGHT;PAWN"]⟩,
  ⟨0x1fa30, "", ["WHITE CHESS KNIGHT ROTATED TWO HUNDRED TWENTY-FIVE DEGREES",
    "BLACK CHESS KNIGHT ROTATED TWO HUNDRED TWENTY-FIVE DEGREES",
    "NEUTRAL CHESS KNIGHT ROTATED TWO HUNDRED TWENTY-FIVE DEGREES"]⟩,
  ⟨0x1fa33, "WHITE CHESS ", ["KING ROTATED TWO HUNDRED SEVENTY DEGREES",
    "QUEEN ROTATED TWO HUNDRED SEVENTY DEGREES;ROOK ROTATED TWO HUNDRED SEVENTY DEGREES",
    "BISHOP ROTATED TWO HUNDRED SEVENTY DEGREES;KNIGHT ROTATED TWO HUNDRED SEVENTY DEGREES",
    "PAWN ROTATED TWO HUNDRED SEVENTY DEGREES"]⟩,
  ⟨0x1fa39, "BLACK CHESS ", ["KING ROTATED TWO HUNDRED SEVENTY DEGREES",
    "QUEEN ROTATED TWO HUNDRED SEVENTY DEGREES;ROOK ROTATED TWO HUNDRED SEVENTY DEGREES",
    "BISHOP ROTATED TWO HUNDRED SEVENTY DEGREES;KNIGHT ROTATED TWO HUNDRED SEVENTY DEGREES",
    "PAWN ROTATED TWO HUNDRED SEVENTY DEGREES"]⟩,
  ⟨0x1fa3f, "NEUTRAL CHESS ", ["KING ROTATED TWO HUNDRED SEVENTY DEGREES",
    "QUEEN ROTATED TWO HUNDRED SEVENTY DEGREES;ROOK ROTATED TWO HUNDRED SEVENTY DEGREES",
    "BISHOP ROTATED TWO HUNDRED SEVENTY DEGREES;KNIGHT ROTATED TWO HUNDRED SEVENTY DEGREES",
    "PAWN ROTATED TWO HUNDRED SEVENTY DEGREES"]⟩,
  ⟨0x1fa45, "", ["WHITE CHESS KNIGHT ROTATED THREE HUNDRED FIFTEEN DEGREES",
    "BLACK CHESS KNIGHT ROTATED THREE HUNDRED FIFTEEN DEGREES",
    "NEUTRAL CHESS KNIGHT ROTATED THREE HUNDRED FIFTEEN DEGREES;WHITE CHESS EQUIHOPPER",
    "BLACK CHESS EQUIHOPPER;NEUTRAL CHESS EQUIHOPPER",
    "WHITE CHESS EQUIHOPPER ROTATED NINETY DEGREES;BLACK CHESS EQUIHOPPER ROTATED NINETY DEGREES",
    "NEUTRAL CHESS EQUIHOPPER ROTATED NINETY DEGREES"]⟩,
  ⟨0x1fa4e, "WHITE CHESS KNIGHT-", ["QUEEN;ROOK;BISHOP"]⟩,
  ⟨0x1fa51, "BLACK CHESS KNIGHT-", ["QUEEN;ROOK;BISHOP"]⟩,
  ⟨0x1fa60, "XIANGQI RED ", ["GENERAL;MANDARIN;ELEPHANT;HORSE;CHARIOT;CANNON;SOLDIER"]⟩,
  ⟨0x1fa67, "XIANGQI BLACK ", ["GENERAL;MANDARIN;ELEPHANT;HORSE;CHARIOT;CANNON;SOLDIER"]⟩,
  ⟨0x1fa6e, "", [";;BALLET SHOES;ONE-PIECE SWIMSUIT;BRIEFS;SHORTS;THONG SANDAL;;;;DROP OF BLOOD",
    "ADHESIVE BANDAGE;STETHOSCOPE;X-RAY;CRUTCH;;;;YO-YO;KITE;PARACHUTE;BOOMERANG;MAGIC WAND",
    "PINATA;NESTING DOLLS"]⟩,
  ⟨0x1fa90, "", ["RINGED PLANET;CHAIR;RAZOR;AXE;DIYA LAMP;BANJO;MILITARY HELMET;ACCORDION",
    "LONG DRUM;COIN;CARPENTRY SAW;SCREWDRIVER;LADDER;HOOK;MIRROR;WINDOW;PLUNGER;SEWING NEEDLE",
    "KNOT;BUCKET;MOUSE TRAP;TOOTHBRUSH;HEADSTONE;PLACARD;ROCK;MIRROR BALL;IDENTIFICATION CARD",
    "LOW BATTERY;HAMSA;;;;FLY;WORM;BEETLE;COCKROACH;POTTED PLANT;WOOD;FEATHER;LOTUS;CORAL",
    "EMPTY NEST;NEST WITH EGGS;;;;;;ANATOMICAL HEART;LUNGS;PEOPLE HUGGING"]⟩,
  ⟨0x1fac3, "PREGNANT ", ["MAN;PERSON"]⟩,
  ⟨0x1fac5, "PERSON WITH CROW", ["N"]⟩,
  ⟨0x1fad0, "", ["BLUEBERRIES;BELL PEPPER;OLIVE;FLATBREAD;TAMALE;FONDUE;TEAPOT;POURING LIQUID",
    "BEANS;JAR;;;;;;;MELTING FACE;SALUTING FACE"]⟩,
  ⟨0x1fae2, "FACE WITH ", ["OPEN EYES AND HAND OVER MOUTH;PEEKING EYE;DIAGONAL MOUTH"]⟩,
  ⟨0x1fae5, "", ["DOTTED LINE FACE;BITING LIP;BUBBLES"]⟩,
  ⟨0x1faf0, "", ["HAND WITH INDEX FINGER AND THUMB CROSSED;RIGHTWARDS HAND;LEFTWARDS HAND",
    "PALM DOWN HAND;PALM UP HAND;INDEX POINTING AT THE VIEWER;HEART HANDS"]⟩,
  ⟨0x1fb00, "BLOCK SEXTANT-", ["1;2;12;3;13;23;123;4;14;24;124;34;134;234;1234;5;15;25;125;35",
    "235;1235;45;145;245;1245;345;1345;2345;12345;6;16;26;126;36;136;236;1236;46;146;1246;346",
    "1346;2346;12346;56;156;256;1256;356;1356;2356;12356;456;1456;2456;12456;3456;13456;23456"]⟩,
  ⟨0x1fb3c, "LOWER LEFT BLOCK DIAGONAL LOWER MIDDLE LEFT TO LOWER ", ["CENTRE;RIGHT"]⟩,
  ⟨0x1fb3e, "LOWER LEFT BLOCK DIAGONAL UPPER ", ["MIDDLE LEFT TO LOWER CENTRE",
    "MIDDLE LEFT TO LOWER RIGHT;LEFT TO LOWER CENTRE"]⟩,
  ⟨0x1fb41, "LOWER RIGHT BLOCK DIAGONAL UPPER MIDDLE LEFT TO UPPER ", ["CENTRE;RIGHT"]⟩,
  ⟨0x1fb43, "LOWER RIGHT BLOCK DIAGONAL LOWER ", ["MIDDLE LEFT TO UPPER CENTRE",
    "MIDDLE LEFT TO UPPER RIGHT;LEFT TO UPPER CENTRE;MIDDLE LEFT TO UPPER MIDDLE RIGHT",
    "CENTRE TO LOWER MIDDLE RIGHT;LEFT TO LOWER MIDDLE RIGHT;CENTRE TO UPPER MIDDLE RIGHT",
    "LEFT TO UPPER MIDDLE RIGHT;CENTRE TO UPPER RIGHT"]⟩,
  ⟨0x1fb4c, "LOWER LEFT BLOCK DIAGONAL UPPER ", ["CENTRE TO UPPER MIDDLE RIGHT",
    "LEFT TO UPPER MIDDLE RIGHT;CENTRE TO LOWER MIDDLE RIGHT;LEFT TO LOWER MIDDLE RIGHT",
    "CENTRE TO LOWER RIGHT;MIDDLE LEFT TO LOWER MIDDLE RIGHT"]⟩,
  ⟨0x1fb52, "UPPER RIGHT BLOCK DIAGONAL LOWER MIDDLE LEFT TO LOWER ", ["CENTRE;RIGHT"]⟩,
  ⟨0x1fb54, "UPPER RIGHT BLOCK DIAGONAL UPPER ", ["MIDDLE LEFT TO LOWER CENTRE",
    "MIDDLE LEFT TO LOWER RIGHT;LEFT TO LOWER CENTRE"]⟩,
  ⟨0x1fb57, "UPPER LEFT BLOCK DIAGONAL UPPER MIDDLE LEFT TO UPPER ", ["CENTRE;RIGHT"]⟩,
  ⟨0x1fb59, "UPPER LEFT BLOCK DIAGONAL LOWER ", ["MIDDLE LEFT TO UPPER CENTRE",
    "MIDDLE LEFT TO UPPER RIGHT;LEFT TO UPPER CENTRE;MIDDLE LEFT TO UPPER MIDDLE RIGHT",
    "CENTRE TO LOWER MIDDLE RIGHT;LEFT TO LOWER MIDDLE RIGHT;CENTRE TO UPPER MIDDLE RIGHT",
    "LEFT TO UPPER MIDDLE RIGHT;CENTRE TO UPPER RIGHT"]⟩,
  ⟨0x1fb62, "UPPER RIGHT BLOCK DIAGONAL UPPER ", ["CENTRE TO UPPER MIDDLE RIGHT",
    "LEFT TO UPPER MIDDLE RIGHT;CENTRE TO LOWER MIDDLE RIGHT;LEFT TO LOWER MIDDLE RIGHT",
    "CENTRE TO LOWER RIGHT;MIDDLE LEFT TO LOWER MIDDLE RIGHT"]⟩,
  ⟨0x1fb68, "", ["UPPER AND RIGHT AND LOWER TRIANGULAR THREE QUARTERS BLOCK",
    "LEFT AND LOWER AND RIGHT TRIANGULAR THREE QUARTERS BLOCK",
    "UPPER AND LEFT AND LOWER TRIANGULAR THREE QUARTERS BLOCK",
    "LEFT AND UPPER AND RIGHT TRIANGULAR THREE QUARTERS BLOCK;LEFT TRIANGULAR ONE QUARTER BLOCK",
    "UPPER TRIANGULAR ONE QUARTER BLOCK;RIGHT TRIANGULAR ONE QUARTER BLOCK",
    "LOWER TRIANGULAR ONE QUARTER BLOCK"]⟩,
  ⟨0x1fb70, "VERTICAL ONE EIGHTH BLOCK-", ["2;3;4;5;6;7"]⟩,
  ⟨0x1fb76, "HORIZONTAL ONE EIGHTH BLOCK-", ["2;3;4;5;6;7"]⟩,
  ⟨0x1fb7c, "LEFT AND ", ["LOWER ONE EIGHTH BLOCK;UPPER ONE EIGHTH BLOCK"]⟩,
  ⟨0x1fb7e, "RIGHT AND ", ["UPPER ONE EIGHTH BLOCK;LOWER ONE EIGHTH BLOCK"]⟩,
  ⟨0x1fb80, "", ["UPPER AND LOWER ONE EIGHTH BLOCK;HORIZONTAL ONE EIGHTH BLOCK-1358"]⟩,
  ⟨0x1fb82, "UPPER ", ["ONE QUARTER BLOCK;THREE EIGHTHS BLOCK;FIVE EIGHTHS BLOCK",
    "THREE QUARTERS BLOCK;SEVEN EIGHTHS BLOCK"]⟩,
  ⟨0x1fb87, "RIGHT ", ["ONE QUARTER BLOCK;THREE EIGHTHS BLOCK;FIVE EIGHTHS BLOCK",
    "THREE QUARTERS BLOCK;SEVEN EIGHTHS BLOCK"]⟩,
  ⟨0x1fb8c, "", ["LEFT HALF MEDIUM SHADE;RIGHT HALF MEDIUM SHADE;UPPER HALF MEDIUM SHADE",
    "LOWER HALF MEDIUM SHADE;INVERSE MEDIUM SHADE"]⟩,
  ⟨0x1fb91, "UPPER HALF ", ["BLOCK AND LOWER HALF INVERSE MEDIUM SHADE",
    "INVERSE MEDIUM SHADE AND LOWER HALF BLOCK"]⟩,
  ⟨0x1fb93, "", [";LEFT HALF INVERSE MEDIUM SHADE AND RIGHT HALF BLOCK;CHECKER BOARD FILL",
    "INVERSE CHECKER BOARD FILL;HEAVY HORIZONTAL FILL"]⟩,
  ⟨0x1fb98, "UPPER ", ["LEFT TO LOWER RIGHT FILL;RIGHT TO LOWER LEFT FILL",
    "AND LOWER TRIANGULAR HALF BLOCK"]⟩,
  ⟨0x1fb9b, "LEFT AND RIGHT TRIANGULAR HALF BLOC", ["K"]⟩,
  ⟨0x1fb9c, "UPPER ", ["LEFT TRIANGULAR MEDIUM SHADE;RIGHT TRIANGULAR MEDIUM SHADE"]⟩,
  ⟨0x1fb9e, "LOWER ", ["RIGHT TRIANGULAR MEDIUM SHADE;LEFT TRIANGULAR MEDIUM SHADE"]⟩,
  ⟨0x1fba0, "BOX DRAWINGS LIGHT DIAGONAL ", ["UPPER CENTRE TO MIDDLE LEFT",
    "UPPER CENTRE TO MIDDLE RIGHT;MIDDLE LEFT TO LOWER CENTRE;MIDDLE RIGHT TO LOWER CENTRE",
    "UPPER CENTRE TO MIDDLE LEFT TO LOWER CENTRE;UPPER CENTRE TO MIDDLE RIGHT TO LOWER CENTRE",
    "MIDDLE LEFT TO LOWER CENTRE TO MIDDLE RIGHT;MIDDLE LEFT TO UPPER CENTRE TO MIDDLE RIGHT"]⟩,
  ⟨0x1fba8, "BOX DRAWINGS LIGHT DIAGONAL UPPER CENTRE TO MIDDLE ", ["LEFT AND MIDDLE RIGHT TO LOWER CENTRE",
    "RIGHT AND MIDDLE LEFT TO LOWER CENTRE;RIGHT TO LOWER CENTRE TO MIDDLE LEFT",
    "LEFT TO LOWER CENTRE TO MIDDLE RIGHT"]⟩,
  ⟨0x1fbac, "BOX DRAWINGS LIGHT ", ["DIAGONAL MIDDLE LEFT TO UPPER CENTRE TO MIDDLE RIGHT TO LOWER CENTRE",
    "DIAGONAL MIDDLE RIGHT TO UPPER CENTRE TO MIDDLE LEFT TO LOWER CENTRE;DIAGONAL DIAMOND",
    "HORIZONTAL WITH VERTICAL STROKE"]⟩,
  ⟨0x1fbb0, "", ["ARROWHEAD-SHAPED POINTER;INVERSE CHECK MARK;LEFT HALF RUNNING MAN",
    "RIGHT HALF RUNNING MAN;INVERSE DOWNWARDS ARROW WITH TIP LEFTWARDS",
    "LEFTWARDS ARROW AND UPPER AND LOWER ONE EIGHTH BLOCK",
    "RIGHTWARDS ARROW AND UPPER AND LOWER ONE EIGHTH BLOCK",
    "DOWNWARDS ARROW AND RIGHT ONE EIGHTH BLOCK;UPWARDS ARROW AND RIGHT ONE EIGHTH BLOCK",
    "LEFT HALF FOLDER;RIGHT HALF FOLDER;VOIDED GREEK CROSS;RIGHT OPEN SQUARED DOT"]⟩,
  ⟨0x1fbbd, "NEGATIVE DIAGONAL ", ["CROSS;MIDDLE RIGHT TO LOWER CENTRE;DIAMOND"]⟩,
  ⟨0x1fbc0, "", ["WHITE HEAVY SALTIRE WITH ROUNDED CORNERS",
    "LEFT THIRD WHITE RIGHT POINTING INDEX;MIDDLE THIRD WHITE RIGHT POINTING INDEX",
    "RIGHT THIRD WHITE RIGHT POINTING INDEX;NEGATIVE SQUARED QUESTION MARK"]⟩]

/-- Recent scripts, games and pictures, from U+1FBC5 on. -/
def picturesPartD : List Block := [
  ⟨0x1fbc5, "STICK FIGUR", ["E;E WITH ARMS RAISED;E LEANING LEFT;E LEANING RIGHT;E WITH DRESS"]⟩,
  ⟨0x1fbca, "WHITE UP-POINTING CHEVRO", ["N"]⟩,
  ⟨0x1fbf0, "SEGMENTED DIGIT ", ["ZERO;ONE;TWO;THREE;FOUR;FIVE;SIX;SEVEN;EIGHT;NINE"]⟩,
  ⟨0xe0001, "LANGUAGE TA", ["G"]⟩,
  ⟨0xe0020, "TAG ", ["SPACE;EXCLAMATION MARK;QUOTATION MARK;NUMBER SIGN;DOLLAR SIGN",
    "PERCENT SIGN;AMPERSAND;APOSTROPHE;LEFT PARENTHESIS;RIGHT PARENTHESIS;ASTERISK;PLUS SIGN",
    "COMMA;HYPHEN-MINUS;FULL STOP;SOLIDUS"]⟩,
  ⟨0xe0030, "TAG DIGIT ", ["ZERO;ONE;TWO;THREE;FOUR;FIVE;SIX;SEVEN;EIGHT;NINE"]⟩,
  ⟨0xe003a, "TAG ", ["COLON;SEMICOLON;LESS-THAN SIGN;EQUALS SIGN;GREATER-THAN SIGN",
    "QUESTION MARK;COMMERCIAL AT"]⟩,
  ⟨0xe0041, "TAG LATIN CAPITAL LETTER ", ["A;B;C;D;E;F;G;H;I;J;K;L;M;N;O;P;Q;R;S;T;U;V;W;X;Y;Z"]⟩,
  ⟨0xe005b, "TAG ", ["LEFT SQUARE BRACKET;REVERSE SOLIDUS;RIGHT SQUARE BRACKET",
    "CIRCUMFLEX ACCENT;LOW LINE;GRAVE ACCENT"]⟩,
  ⟨0xe0061, "TAG LATIN SMALL LETTER ", ["A;B;C;D;E;F;G;H;I;J;K;L;M;N;O;P;Q;R;S;T;U;V;W;X;Y;Z"]⟩,
  ⟨0xe007b, "TAG ", ["LEFT CURLY BRACKET;VERTICAL LINE;RIGHT CURLY BRACKET;TILDE"]⟩,
  ⟨0xe007f, "CANCEL TA", ["G"]⟩,
  ⟨0xe0100, "VARIATION SELECTOR-", ["17;18;19;20;21;22;23;24;25;26;27;28;29;30;31;32;33;34;35",
    "36;37;38;39;40;41;42;43;44;45;46;47;48;49;50;51;52;53;54;55;56;57;58;59;60;61;62;63;64;65",
    "66;67;68;69;70;71;72;73;74;75;76;77;78;79;80;81;82;83;84;85;86;87;88;89;90;91;92;93;94;95",
    "96;97;98;99"]⟩,
  ⟨0xe0153, "VARIATION SELECTOR-1", ["00;01;02;03;04;05;06;07;08;09;10;11;12;13;14;15;16;17;18",
    "19;20;21;22;23;24;25;26;27;28;29;30;31;32;33;34;35;36;37;38;39;40;41;42;43;44;45;46;47;48",
    "49;50;51;52;53;54;55;56;57;58;59;60;61;62;63;64;65;66;67;68;69;70;71;72;73;74;75;76;77;78",
    "79;80;81;82;83;84;85;86;87;88;89;90;91;92;93;94;95;96;97;98;99"]⟩,
  ⟨0xe01b7, "VARIATION SELECTOR-2", ["00;01;02;03;04;05;06;07;08;09;10;11;12;13;14;15;16;17;18",
    "19;20;21;22;23;24;25;26;27;28;29;30;31;32;33;34;35;36;37;38;39;40;41;42;43;44;45;46;47;48",
    "49;50;51;52;53;54;55;56"]⟩]

/-- Recent scripts, games and pictures. -/
def pictures : List Block :=
  picturesPartA ++ picturesPartB ++ picturesPartC ++ picturesPartD

end Stencil.CharacterName
