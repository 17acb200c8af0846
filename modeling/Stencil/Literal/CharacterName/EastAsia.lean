import Stencil.Literal.CharacterName.Block

/-!
# Names of characters: scripts from Glagolitic on, those of East Asia, and compatibility forms
-/

namespace Stencil.CharacterName

/-- Scripts from Glagolitic on, those of East Asia, and compatibility forms, from U+2C00 on. -/
def eastAsiaPartA : List Block := [
  ⟨0x2c00, "GLAGOLITIC CAPITAL LETTER ", ["AZU;BUKY;VEDE;GLAGOLI;DOBRO;YESTU;ZHIVETE;DZELO",
    "ZEMLJA;IZHE;INITIAL IZHE;I;DJERVI;KAKO;LJUDIJE;MYSLITE;NASHI;ONU;POKOJI;RITSI;SLOVO;TVRIDO",
    "UKU;FRITU;HERU;OTU;PE;SHTA;TSI;CHRIVI;SHA;YERU;YERI;YATI;SPIDERY HA;YU;SMALL YUS",
    "SMALL YUS WITH TAIL;YO;IOTATED SMALL YUS;BIG YUS;IOTATED BIG YUS;FITA;IZHITSA;SHTAPIC",
    "TROKUTASTI A;LATINATE MYSLITE;CAUDATE CHRIVI"]⟩,
  ⟨0x2c30, "GLAGOLITIC SMALL LETTER ", ["AZU;BUKY;VEDE;GLAGOLI;DOBRO;YESTU;ZHIVETE;DZELO;ZEMLJA",
    "IZHE;INITIAL IZHE;I;DJERVI;KAKO;LJUDIJE;MYSLITE;NASHI;ONU;POKOJI;RITSI;SLOVO;TVRIDO;UKU",
    "FRITU;HERU;OTU;PE;SHTA;TSI;CHRIVI;SHA;YERU;YERI;YATI;SPIDERY HA;YU;SMALL YUS",
    "SMALL YUS WITH TAIL;YO;IOTATED SMALL YUS;BIG YUS;IOTATED BIG YUS;FITA;IZHITSA;SHTAPIC",
    "TROKUTASTI A;LATINATE MYSLITE;CAUDATE CHRIVI"]⟩,
  ⟨0x2c60, "LATIN ", ["CAPITAL LETTER L WITH DOUBLE BAR;SMALL LETTER L WITH DOUBLE BAR"]⟩,
  ⟨0x2c62, "LATIN CAPITAL LETTER ", ["L WITH MIDDLE TILDE;P WITH STROKE;R WITH TAIL"]⟩,
  ⟨0x2c65, "LATIN SMALL LETTER ", ["A WITH STROKE;T WITH DIAGONAL STROKE"]⟩,
  ⟨0x2c67, "LATIN ", ["CAPITAL LETTER H WITH DESCENDER;SMALL LETTER H WITH DESCENDER",
    "CAPITAL LETTER K WITH DESCENDER;SMALL LETTER K WITH DESCENDER",
    "CAPITAL LETTER Z WITH DESCENDER;SMALL LETTER Z WITH DESCENDER"]⟩,
  ⟨0x2c6d, "LATIN CAPITAL LETTER ", ["ALPHA;M WITH HOOK;TURNED A;TURNED ALPHA"]⟩,
  ⟨0x2c71, "LATIN ", ["SMALL LETTER V WITH RIGHT HOOK;CAPITAL LETTER W WITH HOOK",
    "SMALL LETTER W WITH HOOK;SMALL LETTER V WITH CURL;CAPITAL LETTER HALF H"]⟩,
  ⟨0x2c76, "LATIN SMALL LETTER ", ["HALF H;TAILLESS PHI;E WITH NOTCH;TURNED R WITH TAIL",
    "O WITH LOW RING INSIDE"]⟩,
  ⟨0x2c7b, "LATIN ", ["LETTER SMALL CAPITAL TURNED E;SUBSCRIPT SMALL LETTER J"]⟩,
  ⟨0x2c7d, "MODIFIER LETTER CAPITAL ", ["V"]⟩,
  ⟨0x2c7e, "LATIN CAPITAL LETTER ", ["S WITH SWASH TAIL;Z WITH SWASH TAIL"]⟩,
  ⟨0x2c80, "COPTIC ", ["CAPITAL LETTER ALFA;SMALL LETTER ALFA;CAPITAL LETTER VIDA",
    "SMALL LETTER VIDA;CAPITAL LETTER GAMMA;SMALL LETTER GAMMA;CAPITAL LETTER DALDA",
    "SMALL LETTER DALDA;CAPITAL LETTER EIE;SMALL LETTER EIE;CAPITAL LETTER SOU;SMALL LETTER SOU",
    "CAPITAL LETTER ZATA;SMALL LETTER ZATA;CAPITAL LETTER HATE;SMALL LETTER HATE",
    "CAPITAL LETTER THETHE;SMALL LETTER THETHE;CAPITAL LETTER IAUDA;SMALL LETTER IAUDA",
    "CAPITAL LETTER KAPA;SMALL LETTER KAPA;CAPITAL LETTER LAULA;SMALL LETTER LAULA",
    "CAPITAL LETTER MI;SMALL LETTER MI;CAPITAL LETTER NI;SMALL LETTER NI;CAPITAL LETTER KSI",
    "SMALL LETTER KSI;CAPITAL LETTER O;SMALL LETTER O;CAPITAL LETTER PI;SMALL LETTER PI",
    "CAPITAL LETTER RO;SMALL LETTER RO;CAPITAL LETTER SIMA;SMALL LETTER SIMA;CAPITAL LETTER TAU",
    "SMALL LETTER TAU;CAPITAL LETTER UA;SMALL LETTER UA;CAPITAL LETTER FI;SMALL LETTER FI",
    "CAPITAL LETTER KHI;SMALL LETTER KHI;CAPITAL LETTER PSI;SMALL LETTER PSI;CAPITAL LETTER OOU",
    "SMALL LETTER OOU;CAPITAL LETTER DIALECT-P ALEF;SMALL LETTER DIALECT-P ALEF",
    "CAPITAL LETTER OLD COPTIC AIN;SMALL LETTER OLD COPTIC AIN;CAPITAL LETTER CRYPTOGRAMMIC EIE",
    "SMALL LETTER CRYPTOGRAMMIC EIE;CAPITAL LETTER DIALECT-P KAPA;SMALL LETTER DIALECT-P KAPA",
    "CAPITAL LETTER DIALECT-P NI;SMALL LETTER DIALECT-P NI;CAPITAL LETTER CRYPTOGRAMMIC NI",
    "SMALL LETTER CRYPTOGRAMMIC NI;CAPITAL LETTER OLD COPTIC OOU;SMALL LETTER OLD COPTIC OOU",
    "CAPITAL LETTER SAMPI;SMALL LETTER SAMPI;CAPITAL LETTER CROSSED SHEI",
    "SMALL LETTER CROSSED SHEI;CAPITAL LETTER OLD COPTIC SHEI;SMALL LETTER OLD COPTIC SHEI",
    "CAPITAL LETTER OLD COPTIC ESH;SMALL LETTER OLD COPTIC ESH;CAPITAL LETTER AKHMIMIC KHEI",
    "SMALL LETTER AKHMIMIC KHEI;CAPITAL LETTER DIALECT-P HORI;SMALL LETTER DIALECT-P HORI",
    "CAPITAL LETTER OLD COPTIC HORI;SMALL LETTER OLD COPTIC HORI;CAPITAL LETTER OLD COPTIC HA",
    "SMALL LETTER OLD COPTIC HA;CAPITAL LETTER L-SHAPED HA;SMALL LETTER L-SHAPED HA",
    "CAPITAL LETTER OLD COPTIC HEI;SMALL LETTER OLD COPTIC HEI;CAPITAL LETTER OLD COPTIC HAT",
    "SMALL LETTER OLD COPTIC HAT;CAPITAL LETTER OLD COPTIC GANGIA;SMALL LETTER OLD COPTIC GANGIA",
    "CAPITAL LETTER OLD COPTIC DJA;SMALL LETTER OLD COPTIC DJA;CAPITAL LETTER OLD COPTIC SHIMA",
    "SMALL LETTER OLD COPTIC SHIMA;CAPITAL LETTER OLD NUBIAN SHIMA;SMALL LETTER OLD NUBIAN SHIMA",
    "CAPITAL LETTER OLD NUBIAN NGI;SMALL LETTER OLD NUBIAN NGI;CAPITAL LETTER OLD NUBIAN NYI",
    "SMALL LETTER OLD NUBIAN NYI;CAPITAL LETTER OLD NUBIAN WAU;SMALL LETTER OLD NUBIAN WAU"]⟩,
  ⟨0x2ce4, "COPTIC SYMBOL ", ["KAI;MI RO;PI RO;STAUROS;TAU RO;KHI RO;SHIMA SIMA"]⟩,
  ⟨0x2ceb, "COPTIC ", ["CAPITAL LETTER CRYPTOGRAMMIC SHEI;SMALL LETTER CRYPTOGRAMMIC SHEI",
    "CAPITAL LETTER CRYPTOGRAMMIC GANGIA;SMALL LETTER CRYPTOGRAMMIC GANGIA;COMBINING NI ABOVE",
    "COMBINING SPIRITUS ASPER;COMBINING SPIRITUS LENIS;CAPITAL LETTER BOHAIRIC KHEI",
    "SMALL LETTER BOHAIRIC KHEI"]⟩,
  ⟨0x2cf4, "COPTIC OLD NUBIAN ", [";;;;;FULL STOP;DIRECT QUESTION MARK;INDIRECT QUESTION MARK",
    "VERSE DIVIDER"]⟩,
  ⟨0x2cfd, "COPTIC ", ["FRACTION ONE HALF;FULL STOP;MORPHOLOGICAL DIVIDER"]⟩,
  ⟨0x2d00, "GEORGIAN SMALL LETTER ", ["AN;BAN;GAN;DON;EN;VIN;ZEN;TAN;IN;KAN;LAS;MAN;NAR;ON;PAR",
    "ZHAR;RAE;SAN;TAR;UN;PHAR;KHAR;GHAN;QAR;SHIN;CHIN;CAN;JIL;CIL;CHAR;XAN;JHAN;HAE;HE;HIE;WE",
    "HAR;HOE;;YN;;;;;;AEN"]⟩,
  ⟨0x2d2e, "TIFINAGH LETTER ", [";;YA;YAB;YABH;YAG;YAGHH;BERBER ACADEMY YAJ;YAJ;YAD;YADH;YADD",
    "YADDH;YEY;YAF;YAK;TUAREG YAK;YAKHH;YAH;BERBER ACADEMY YAH;TUAREG YAH;YAHH;YAA;YAKH",
    "TUAREG YAKH;YAQ;TUAREG YAQ;YI;YAZH;AHAGGAR YAZH;TUAREG YAZH;YAL;YAM;YAN;TUAREG YAGN",
    "TUAREG YANG;YAP;YU;YAR;YARR;YAGH;TUAREG YAGH;AYER YAGH;YAS;YASS;YASH;YAT;YATH;YACH;YATT;YAV",
    "YAW;YAY;YAZ;TAWELLEMET YAZ;YAZZ;YE;YO"]⟩,
  ⟨0x2d68, "TIFINAGH ", [";;;;;;;MODIFIER LETTER LABIALIZATION MARK;SEPARATOR MARK"]⟩,
  ⟨0x2d7f, "TIFINAGH CONSONANT JOINE", ["R"]⟩,
  ⟨0x2d80, "ETHIOPIC SYLLABLE ", ["LOA;MOA;ROA;SOA;SHOA;BOA;TOA;COA;NOA;NYOA;GLOTTAL OA;ZOA;DOA",
    "DDOA;JOA;THOA;CHOA;PHOA;POA;GGWA;GGWI;GGWEE;GGWE"]⟩,
  ⟨0x2da0, "ETHIOPIC SYLLABLE ", ["SSA;SSU;SSI;SSAA;SSEE;SSE;SSO;;CCA;CCU;CCI;CCAA;CCEE;CCE;CCO",
    ";ZZA;ZZU;ZZI;ZZAA;ZZEE;ZZE;ZZO;;CCHA;CCHU;CCHI;CCHAA;CCHEE;CCHE;CCHO;;QYA;QYU;QYI;QYAA;QYEE",
    "QYE;QYO;;KYA;KYU;KYI;KYAA;KYEE;KYE;KYO;;XYA;XYU;XYI;XYAA;XYEE;XYE;XYO;;GYA;GYU;GYI;GYAA",
    "GYEE;GYE;GYO"]⟩,
  ⟨0x2ddf, "COMBINING CYRILLIC LETTER ", [";BE;VE;GHE;DE;ZHE;ZE;KA;EL;EM;EN;O;PE;ER;ES;TE;HA",
    "TSE;CHE;SHA;SHCHA;FITA;ES-TE;A;IE;DJERV;MONOGRAPH UK;YAT;YU;IOTIFIED A;LITTLE YUS;BIG YUS",
    "IOTIFIED BIG YUS"]⟩,
  ⟨0x2e00, "RIGHT ANGLE ", ["SUBSTITUTION MARKER;DOTTED SUBSTITUTION MARKER"]⟩,
  ⟨0x2e02, "", ["LEFT SUBSTITUTION BRACKET;RIGHT SUBSTITUTION BRACKET",
    "LEFT DOTTED SUBSTITUTION BRACKET;RIGHT DOTTED SUBSTITUTION BRACKET"]⟩,
  ⟨0x2e06, "RAISED ", ["INTERPOLATION MARKER;DOTTED INTERPOLATION MARKER"]⟩,
  ⟨0x2e08, "", ["DOTTED TRANSPOSITION MARKER;LEFT TRANSPOSITION BRACKET",
    "RIGHT TRANSPOSITION BRACKET;RAISED SQUARE;LEFT RAISED OMISSION BRACKET",
    "RIGHT RAISED OMISSION BRACKET;EDITORIAL CORONIS;PARAGRAPHOS;FORKED PARAGRAPHOS",
    "REVERSED FORKED PARAGRAPHOS;HYPODIASTOLE;DOTTED OBELOS;DOWNWARDS ANCORA;UPWARDS ANCORA",
    "DOTTED RIGHT-POINTING ANGLE;DOUBLE OBLIQUE HYPHEN;INVERTED INTERROBANG;PALM BRANCH",
    "HYPHEN WITH DIAERESIS;TILDE WITH RING ABOVE;LEFT LOW PARAPHRASE BRACKET",
    "RIGHT LOW PARAPHRASE BRACKET"]⟩,
  ⟨0x2e1e, "TILDE WITH DOT ", ["ABOVE;BELOW"]⟩,
  ⟨0x2e20, "", ["LEFT VERTICAL BAR WITH QUILL;RIGHT VERTICAL BAR WITH QUILL"]⟩,
  ⟨0x2e22, "TOP ", ["LEFT HALF BRACKET;RIGHT HALF BRACKET"]⟩,
  ⟨0x2e24, "BOTTOM ", ["LEFT HALF BRACKET;RIGHT HALF BRACKET"]⟩,
  ⟨0x2e26, "", ["LEFT SIDEWAYS U BRACKET;RIGHT SIDEWAYS U BRACKET;LEFT DOUBLE PARENTHESIS",
    "RIGHT DOUBLE PARENTHESIS;TWO DOTS OVER ONE DOT PUNCTUATION",
    "ONE DOT OVER TWO DOTS PUNCTUATION;SQUARED FOUR DOT PUNCTUATION;FIVE DOT MARK",
    "REVERSED QUESTION MARK;VERTICAL TILDE;RING POINT;WORD SEPARATOR MIDDLE DOT;TURNED COMMA"]⟩,
  ⟨0x2e33, "RAISED ", ["DOT;COMMA"]⟩,
  ⟨0x2e35, "TURNED SEMICOLO", ["N"]⟩,
  ⟨0x2e36, "DAGGER WITH ", ["LEFT GUARD;RIGHT GUARD"]⟩,
  ⟨0x2e38, "", ["TURNED DAGGER;TOP HALF SECTION SIGN;TWO-EM DASH;THREE-EM DASH",
    "STENOGRAPHIC FULL STOP;VERTICAL SIX DOTS;WIGGLY VERTICAL LINE;CAPITULUM;DOUBLE HYPHEN",
    "REVERSED COMMA;DOUBLE LOW-REVERSED-9 QUOTATION MARK;DASH WITH LEFT UPTURN",
    "DOUBLE SUSPENSION MARK"]⟩,
  ⟨0x2e45, "INVERTED LOW KAVYK", ["A;A WITH KAVYKA ABOVE"]⟩,
  ⟨0x2e47, "LOW KAVYK", ["A;A WITH DOT"]⟩,
  ⟨0x2e49, "", ["DOUBLE STACKED COMMA;DOTTED SOLIDUS;TRIPLE DAGGER;MEDIEVAL COMMA",
    "PARAGRAPHUS MARK;PUNCTUS ELEVATUS MARK;CORNISH VERSE DIVIDER"]⟩,
  ⟨0x2e50, "CROSS PATTY WITH ", ["RIGHT CROSSBAR;LEFT CROSSBAR"]⟩,
  ⟨0x2e52, "TIRONIAN SIGN CAPITAL E", ["T"]⟩,
  ⟨0x2e53, "MEDIEVAL ", ["EXCLAMATION MARK;QUESTION MARK"]⟩,
  ⟨0x2e55, "", ["LEFT SQUARE BRACKET WITH STROKE;RIGHT SQUARE BRACKET WITH STROKE",
    "LEFT SQUARE BRACKET WITH DOUBLE STROKE;RIGHT SQUARE BRACKET WITH DOUBLE STROKE"]⟩,
  ⟨0x2e59, "TOP HALF ", ["LEFT PARENTHESIS;RIGHT PARENTHESIS"]⟩,
  ⟨0x2e5b, "BOTTOM HALF ", ["LEFT PARENTHESIS;RIGHT PARENTHESIS"]⟩,
  ⟨0x2e5d, "OBLIQUE HYPHE", ["N"]⟩,
  ⟨0x2e80, "CJK RADICAL ", ["REPEAT;CLIFF;SECOND ONE;SECOND TWO;SECOND THREE;PERSON;BOX;TABLE",
    "KNIFE ONE;KNIFE TWO;DIVINATION;SEAL;SMALL ONE;SMALL TWO;LAME ONE;LAME TWO;LAME THREE",
    "LAME FOUR;SNAKE;THREAD;SNOUT ONE;SNOUT TWO;HEART ONE;HEART TWO;HAND;RAP;;CHOKE;SUN;MOON",
    "DEATH;MOTHER;CIVILIAN;WATER ONE;WATER TWO;FIRE;PAW ONE;PAW TWO;SIMPLIFIED HALF TREE TRUNK",
    "COW;DOG;JADE;BOLT OF CLOTH;EYE;SPIRIT ONE;SPIRIT TWO;BAMBOO;SILK;C-SIMPLIFIED SILK;NET ONE",
    "NET TWO;NET THREE;NET FOUR;MESH;SHEEP;RAM;EWE;OLD;BRUSH ONE;BRUSH TWO;MEAT;MORTAR;GRASS ONE",
    "GRASS TWO;GRASS THREE;TIGER;CLOTHES;WEST ONE;WEST TWO;C-SIMPLIFIED SEE;SIMPLIFIED HORN;HORN",
    "C-SIMPLIFIED SPEECH;C-SIMPLIFIED SHELL;FOOT;C-SIMPLIFIED CART;SIMPLIFIED WALK;WALK ONE",
    "WALK TWO;CITY;C-SIMPLIFIED GOLD;LONG ONE;LONG TWO;C-SIMPLIFIED LONG;C-SIMPLIFIED GATE",
    "MOUND ONE;MOUND TWO;RAIN;BLUE"]⟩,
  ⟨0x2ed9, "CJK RADICAL C-SIMPLIFIED ", ["TANNED LEATHER;LEAF;WIND;FLY"]⟩,
  ⟨0x2edd, "CJK RADICAL ", ["EAT ONE;EAT TWO;EAT THREE;C-SIMPLIFIED EAT;HEAD;C-SIMPLIFIED HORSE",
    "BONE;GHOST;C-SIMPLIFIED FISH;C-SIMPLIFIED BIRD;C-SIMPLIFIED SALT;SIMPLIFIED WHEAT",
    "SIMPLIFIED YELLOW;C-SIMPLIFIED FROG;J-SIMPLIFIED EVEN;C-SIMPLIFIED EVEN;J-SIMPLIFIED TOOTH",
    "C-SIMPLIFIED TOOTH;J-SIMPLIFIED DRAGON;C-SIMPLIFIED DRAGON;TURTLE;J-SIMPLIFIED TURTLE",
    "C-SIMPLIFIED TURTLE"]⟩,
  ⟨0x2f00, "KANGXI RADICAL ", ["ONE;LINE;DOT;SLASH;SECOND;HOOK;TWO;LID;MAN;LEGS;ENTER;EIGHT",
    "DOWN BOX;COVER;ICE;TABLE;OPEN BOX;KNIFE;POWER;WRAP;SPOON;RIGHT OPEN BOX;HIDING ENCLOSURE",
    "TEN;DIVINATION;SEAL;CLIFF;PRIVATE;AGAIN;MOUTH;ENCLOSURE;EARTH;SCHOLAR;GO;GO SLOWLY;EVENING",
    "BIG;WOMAN;CHILD;ROOF;INCH;SMALL;LAME;CORPSE;SPROUT;MOUNTAIN;RIVER;WORK;ONESELF;TURBAN;DRY",
    "SHORT THREAD;DOTTED CLIFF;LONG STRIDE;TWO HANDS;SHOOT;BOW;SNOUT;BRISTLE;STEP;HEART;HALBERD",
    "DOOR;HAND;BRANCH;RAP;SCRIPT;DIPPER;AXE;SQUARE;NOT;SUN;SAY;MOON;TREE;LACK;STOP;DEATH;WEAPON",
    "DO NOT;COMPARE;FUR;CLAN;STEAM;WATER;FIRE;CLAW;FATHER;DOUBLE X;HALF TREE TRUNK;SLICE;FANG",
    "COW;DOG;PROFOUND;JADE;MELON;TILE;SWEET;LIFE;USE;FIELD;BOLT OF CLOTH;SICKNESS;DOTTED TENT",
    "WHITE;SKIN;DISH;EYE;SPEAR;ARROW;STONE;SPIRIT;TRACK;GRAIN;CAVE;STAND;BAMBOO;RICE;SILK;JAR",
    "NET;SHEEP;FEATHER;OLD;AND;PLOW;EAR;BRUSH;MEAT;MINISTER;SELF;ARRIVE;MORTAR;TONGUE;OPPOSE",
    "BOAT;STOPPING;COLOR;GRASS;TIGER;INSECT;BLOOD;WALK ENCLOSURE;CLOTHES;WEST;SEE;HORN;SPEECH",
    "VALLEY;BEAN;PIG;BADGER;SHELL;RED;RUN;FOOT;BODY;CART;BITTER;MORNING;WALK;CITY;WINE",
    "DISTINGUISH;VILLAGE;GOLD;LONG;GATE;MOUND;SLAVE;SHORT TAILED BIRD;RAIN;BLUE;WRONG;FACE",
    "LEATHER;TANNED LEATHER;LEEK;SOUND;LEAF;WIND;FLY;EAT;HEAD;FRAGRANT;HORSE;BONE;TALL;HAIR",
    "FIGHT;SACRIFICIAL WINE;CAULDRON;GHOST;FISH;BIRD;SALT;DEER;WHEAT;HEMP;YELLOW;MILLET;BLACK",
    "EMBROIDERY;FROG;TRIPOD;DRUM;RAT;NOSE;EVEN;TOOTH;DRAGON;TURTLE;FLUTE"]⟩,
  ⟨0x2ff0, "IDEOGRAPHIC DESCRIPTION CHARACTER ", ["LEFT TO RIGHT;ABOVE TO BELOW",
    "LEFT TO MIDDLE AND RIGHT;ABOVE TO MIDDLE AND BELOW;FULL SURROUND"]⟩,
  ⟨0x2ff5, "IDEOGRAPHIC DESCRIPTION CHARACTER SURROUND FROM ", ["ABOVE;BELOW;LEFT;UPPER LEFT",
    "UPPER RIGHT;LOWER LEFT"]⟩,
  ⟨0x2ffb, "IDEOGRAPHIC ", ["DESCRIPTION CHARACTER OVERLAID;;;;;SPACE;COMMA;FULL STOP"]⟩,
  ⟨0x3003, "", ["DITTO MARK;JAPANESE INDUSTRIAL STANDARD SYMBOL"]⟩,
  ⟨0x3005, "IDEOGRAPHIC ", ["ITERATION MARK;CLOSING MARK;NUMBER ZERO"]⟩,
  ⟨0x3008, "", ["LEFT ANGLE BRACKET;RIGHT ANGLE BRACKET;LEFT DOUBLE ANGLE BRACKET",
    "RIGHT DOUBLE ANGLE BRACKET;LEFT CORNER BRACKET;RIGHT CORNER BRACKET",
    "LEFT WHITE CORNER BRACKET;RIGHT WHITE CORNER BRACKET;LEFT BLACK LENTICULAR BRACKET",
    "RIGHT BLACK LENTICULAR BRACKET;POSTAL MARK;GETA MARK;LEFT TORTOISE SHELL BRACKET",
    "RIGHT TORTOISE SHELL BRACKET;LEFT WHITE LENTICULAR BRACKET;RIGHT WHITE LENTICULAR BRACKET",
    "LEFT WHITE TORTOISE SHELL BRACKET;RIGHT WHITE TORTOISE SHELL BRACKET",
    "LEFT WHITE SQUARE BRACKET;RIGHT WHITE SQUARE BRACKET;WAVE DASH",
    "REVERSED DOUBLE PRIME QUOTATION MARK;DOUBLE PRIME QUOTATION MARK",
    "LOW DOUBLE PRIME QUOTATION MARK;POSTAL MARK FACE"]⟩,
  ⟨0x3021, "HANGZHOU NUMERAL ", ["ONE;TWO;THREE;FOUR;FIVE;SIX;SEVEN;EIGHT;NINE"]⟩,
  ⟨0x302a, "IDEOGRAPHIC ", ["LEVEL TONE MARK;RISING TONE MARK;DEPARTING TONE MARK",
    "ENTERING TONE MARK"]⟩,
  ⟨0x302e, "HANGUL ", ["SINGLE DOT TONE MARK;DOUBLE DOT TONE MARK"]⟩,
  ⟨0x3030, "WAVY DAS", ["H"]⟩,
  ⟨0x3031, "VERTICAL KANA REPEAT ", ["MARK;WITH VOICED SOUND MARK;MARK UPPER HALF",
    "WITH VOICED SOUND MARK UPPER HALF;MARK LOWER HALF"]⟩,
  ⟨0x3036, "", ["CIRCLED POSTAL MARK;IDEOGRAPHIC TELEGRAPH LINE FEED SEPARATOR SYMBOL"]⟩,
  ⟨0x3038, "HANGZHOU NUMERAL T", ["EN;WENTY;HIRTY"]⟩,
  ⟨0x303b, "", ["VERTICAL IDEOGRAPHIC ITERATION MARK;MASU MARK;PART ALTERNATION MARK"]⟩,
  ⟨0x303e, "IDEOGRAPHIC ", ["VARIATION INDICATOR;HALF FILL SPACE"]⟩,
  ⟨0x3040, "HIRAGANA LETTER ", [";SMALL A;A;SMALL I;I;SMALL U;U;SMALL E;E;SMALL O;O;KA;GA;KI;GI",
    "KU;GU;KE;GE;KO;GO;SA;ZA;SI;ZI;SU;ZU;SE;ZE;SO;ZO;TA;DA;TI;DI;SMALL TU;TU;DU;TE;DE;TO;DO;NA",
    "NI;NU;NE;NO;HA;BA;PA;HI;BI;PI;HU;BU;PU;HE;BE;PE;HO;BO;PO;MA;MI;MU;ME;MO;SMALL YA;YA",
    "SMALL YU;YU;SMALL YO;YO;RA;RI;RU;RE;RO;SMALL WA;WA;WI;WE;WO;N;VU;SMALL KA;SMALL KE"]⟩,
  ⟨0x3097, "COMBINING KATAKANA-HIRAGANA ", [";;VOICED SOUND MARK;SEMI-VOICED SOUND MARK"]⟩,
  ⟨0x309b, "KATAKANA-HIRAGANA ", ["VOICED SOUND MARK;SEMI-VOICED SOUND MARK"]⟩,
  ⟨0x309d, "HIRAGANA ", ["ITERATION MARK;VOICED ITERATION MARK;DIGRAPH YORI"]⟩,
  ⟨0x30a0, "KATAKANA-HIRAGANA DOUBLE HYPHE", ["N"]⟩,
  ⟨0x30a1, "KATAKANA LETTER ", ["SMALL A;A;SMALL I;I;SMALL U;U;SMALL E;E;SMALL O;O;KA;GA;KI;GI",
    "KU;GU;KE;GE;KO;GO;SA;ZA;SI;ZI;SU;ZU;SE;ZE;SO;ZO;TA;DA;TI;DI;SMALL TU;TU;DU;TE;DE;TO;DO;NA",
    "NI;NU;NE;NO;HA;BA;PA;HI;BI;PI;HU;BU;PU;HE;BE;PE;HO;BO;PO;MA;MI;MU;ME;MO;SMALL YA;YA",
    "SMALL YU;YU;SMALL YO;YO;RA;RI;RU;RE;RO;SMALL WA;WA;WI;WE;WO;N;VU;SMALL KA;SMALL KE;VA;VI;VE",
    "VO"]⟩,
  ⟨0x30fb, "KATAKANA", [" MIDDLE DOT;-HIRAGANA PROLONGED SOUND MARK; ITERATION MARK",
    " VOICED ITERATION MARK; DIGRAPH KOTO"]⟩,
  ⟨0x3100, "BOPOMOFO LETTER ", [";;;;;B;P;M;F;D;T;N;L;G;K;H;J;Q;X;ZH;CH;SH;R;Z;C;S;A;O;E;EH;AI",
    "EI;AU;OU;AN;EN;ANG;ENG;ER;I;U;IU;V;NG;GN;IH;O WITH DOT ABOVE;NN"]⟩,
  ⟨0x3130, "HANGUL LETTER ", [";KIYEOK;SSANGKIYEOK;KIYEOK-SIOS;NIEUN;NIEUN-CIEUC;NIEUN-HIEUH",
    "TIKEUT;SSANGTIKEUT;RIEUL"]⟩,
  ⟨0x313a, "HANGUL LETTER RIEUL-", ["KIYEOK;MIEUM;PIEUP;SIOS;THIEUTH;PHIEUPH;HIEUH"]⟩,
  ⟨0x3141, "HANGUL LETTER ", ["MIEUM;PIEUP;SSANGPIEUP;PIEUP-SIOS;SIOS;SSANGSIOS;IEUNG;CIEUC",
    "SSANGCIEUC;CHIEUCH;KHIEUKH;THIEUTH;PHIEUPH;HIEUH;A;AE;YA;YAE;EO;E;YEO;YE;O;WA;WAE;OE;YO;U",
    "WEO;WE;WI;YU;EU;YI;I"]⟩,
  ⟨0x3164, "HANGUL FILLE", ["R"]⟩,
  ⟨0x3165, "HANGUL LETTER ", ["SSANGNIEUN;NIEUN-TIKEUT;NIEUN-SIOS;NIEUN-PANSIOS",
    "RIEUL-KIYEOK-SIOS;RIEUL-TIKEUT;RIEUL-PIEUP-SIOS;RIEUL-PANSIOS;RIEUL-YEORINHIEUH;MIEUM-PIEUP",
    "MIEUM-SIOS;MIEUM-PANSIOS;KAPYEOUNMIEUM;PIEUP-KIYEOK;PIEUP-TIKEUT;PIEUP-SIOS-KIYEOK",
    "PIEUP-SIOS-TIKEUT;PIEUP-CIEUC;PIEUP-THIEUTH;KAPYEOUNPIEUP;KAPYEOUNSSANGPIEUP;SIOS-KIYEOK",
    "SIOS-NIEUN;SIOS-TIKEUT;SIOS-PIEUP;SIOS-CIEUC;PANSIOS;SSANGIEUNG;YESIEUNG;YESIEUNG-SIOS",
    "YESIEUNG-PANSIOS;KAPYEOUNPHIEUPH;SSANGHIEUH;YEORINHIEUH;YO-YA;YO-YAE;YO-I;YU-YEO;YU-YE;YU-I",
    "ARAEA;ARAEAE"]⟩,
  ⟨0x318f, "IDEOGRAPHIC ANNOTATION ", [";LINKING MARK;REVERSE MARK;ONE MARK;TWO MARK;THREE MARK",
    "FOUR MARK;TOP MARK;MIDDLE MARK;BOTTOM MARK;FIRST MARK;SECOND MARK;THIRD MARK;FOURTH MARK",
    "HEAVEN MARK;EARTH MARK;MAN MARK"]⟩,
  ⟨0x31a0, "BOPOMOFO LETTER ", ["BU;ZI;JI;GU;EE;ENN;OO;ONN;IR;ANN;INN;UNN;IM;NGG;AINN;AUNN;AM",
    "OM;ONG;INNN"]⟩,
  ⟨0x31b4, "BOPOMOFO FINAL LETTER ", ["P;T;K;H"]⟩,
  ⟨0x31b8, "BOPOMOFO LETTER ", ["GH;LH;ZY"]⟩,
  ⟨0x31bb, "BOPOMOFO FINAL LETTER ", ["G"]⟩,
  ⟨0x31bc, "BOPOMOFO LETTER ", ["GW;KW;OE;AH"]⟩,
  ⟨0x31c0, "CJK STROKE ", ["T;WG;XG;BXG;SW;HZZ;HZG;HP;HZWG;SZWG;HZT;HZZP;HPWG;HZW;HZZZ;N;H;S;P",
    "SP;D;HZ;HG;SZ;SWZ;ST;SG;PD;PZ;TN;SZZ;SWG;HXWG;HZZZG;PG;Q"]⟩,
  ⟨0x31f0, "KATAKANA LETTER SMALL ", ["KU;SI;SU;TO;NU;HA;HI;HU;HE;HO;MU;RA;RI;RU;RE;RO"]⟩,
  ⟨0x3200, "PARENTHESIZED HANGUL ", ["KIYEOK;NIEUN;TIKEUT;RIEUL;MIEUM;PIEUP;SIOS;IEUNG;CIEUC",
    "CHIEUCH;KHIEUKH;THIEUTH;PHIEUPH;HIEUH;KIYEOK A;NIEUN A;TIKEUT A;RIEUL A;MIEUM A;PIEUP A",
    "SIOS A;IEUNG A;CIEUC A;CHIEUCH A;KHIEUKH A;THIEUTH A;PHIEUPH A;HIEUH A;CIEUC U"]⟩,
  ⟨0x321d, "PARENTHESIZED KOREAN CHARACTER O", ["JEON; HU"]⟩,
  ⟨0x321f, "PARENTHESIZED IDEOGRAPH ", [";ONE;TWO;THREE;FOUR;FIVE;SIX;SEVEN;EIGHT;NINE;TEN;MOON",
    "FIRE;WATER;WOOD;METAL;EARTH;SUN;STOCK;HAVE;SOCIETY;NAME;SPECIAL;FINANCIAL;CONGRATULATION",
    "LABOR;REPRESENT;CALL;STUDY;SUPERVISE;ENTERPRISE;RESOURCE;ALLIANCE;FESTIVAL;REST;SELF;REACH"]⟩,
  ⟨0x3244, "CIRCLED IDEOGRAPH ", ["QUESTION;KINDERGARTEN;SCHOOL;KOTO"]⟩,
  ⟨0x3248, "CIRCLED NUMBER ", ["TEN ON BLACK SQUARE;TWENTY ON BLACK SQUARE",
    "THIRTY ON BLACK SQUARE;FORTY ON BLACK SQUARE;FIFTY ON BLACK SQUARE;SIXTY ON BLACK SQUARE",
    "SEVENTY ON BLACK SQUARE;EIGHTY ON BLACK SQUARE"]⟩,
  ⟨0x3250, "PARTNERSHIP SIG", ["N"]⟩,
  ⟨0x3251, "CIRCLED NUMBER TWENTY ", ["ONE;TWO;THREE;FOUR;FIVE;SIX;SEVEN;EIGHT;NINE"]⟩,
  ⟨0x325a, "CIRCLED NUMBER THIRT", ["Y;Y ONE;Y TWO;Y THREE;Y FOUR;Y FIVE"]⟩,
  ⟨0x3260, "CIRCLED HANGUL ", ["KIYEOK;NIEUN;TIKEUT;RIEUL;MIEUM;PIEUP;SIOS;IEUNG;CIEUC;CHIEUCH",
    "KHIEUKH;THIEUTH;PHIEUPH;HIEUH;KIYEOK A;NIEUN A;TIKEUT A;RIEUL A;MIEUM A;PIEUP A;SIOS A",
    "IEUNG A;CIEUC A;CHIEUCH A;KHIEUKH A;THIEUTH A;PHIEUPH A;HIEUH A"]⟩,
  ⟨0x327c, "CIRCLED KOREAN CHARACTER ", ["CHAMKO;JUEUI"]⟩,
  ⟨0x327e, "", ["CIRCLED HANGUL IEUNG U;KOREAN STANDARD SYMBOL"]⟩,
  ⟨0x3280, "CIRCLED IDEOGRAPH ", ["ONE;TWO;THREE;FOUR;FIVE;SIX;SEVEN;EIGHT;NINE;TEN;MOON;FIRE",
    "WATER;WOOD;METAL;EARTH;SUN;STOCK;HAVE;SOCIETY;NAME;SPECIAL;FINANCIAL;CONGRATULATION;LABOR",
    "SECRET;MALE;FEMALE;SUITABLE;EXCELLENT;PRINT;ATTENTION;ITEM;REST;COPY;CORRECT;HIGH;CENTRE",
    "LOW;LEFT;RIGHT;MEDICINE;RELIGION;STUDY;SUPERVISE;ENTERPRISE;RESOURCE;ALLIANCE;NIGHT"]⟩,
  ⟨0x32b1, "CIRCLED NUMBER THIRTY ", ["SIX;SEVEN;EIGHT;NINE"]⟩]

/-- Scripts from Glagolitic on, those of East Asia, and compatibility forms, from U+32B5 on. -/
def eastAsiaPartB : List Block := [
  ⟨0x32b5, "CIRCLED NUMBER FORT", ["Y;Y ONE;Y TWO;Y THREE;Y FOUR;Y FIVE;Y SIX;Y SEVEN;Y EIGHT",
    "Y NINE"]⟩,
  ⟨0x32bf, "CIRCLED NUMBER FIFT", ["Y"]⟩,
  ⟨0x32c0, "IDEOGRAPHIC TELEGRAPH SYMBOL FOR ", ["JANUARY;FEBRUARY;MARCH;APRIL;MAY;JUNE;JULY",
    "AUGUST;SEPTEMBER;OCTOBER;NOVEMBER;DECEMBER"]⟩,
  ⟨0x32cc, "SQUARE ", ["HG;ERG;EV"]⟩,
  ⟨0x32cf, "LIMITED LIABILITY SIG", ["N"]⟩,
  ⟨0x32d0, "CIRCLED KATAKANA ", ["A;I;U;E;O;KA;KI;KU;KE;KO;SA;SI;SU;SE;SO;TA;TI;TU;TE;TO;NA;NI",
    "NU;NE;NO;HA;HI;HU;HE;HO;MA;MI;MU;ME;MO;YA;YU;YO;RA;RI;RU;RE;RO;WA;WI;WE;WO"]⟩,
  ⟨0x32ff, "SQUARE ", ["ERA NAME REIWA;APAATO;ARUHUA;ANPEA;AARU;ININGU;INTI;UON;ESUKUUDO;EEKAA",
    "ONSU;OOMU;KAIRI;KARATTO;KARORII;GARON;GANMA;GIGA;GINII;KYURII;GIRUDAA;KIRO;KIROGURAMU",
    "KIROMEETORU;KIROWATTO;GURAMU;GURAMUTON;KURUZEIRO;KUROONE;KEESU;KORUNA;KOOPO;SAIKURU",
    "SANTIIMU;SIRINGU;SENTI;SENTO;DAASU;DESI;DORU;TON;NANO;NOTTO;HAITU;PAASENTO;PAATU;BAARERU",
    "PIASUTORU;PIKURU;PIKO;BIRU;HUARADDO;HUIITO;BUSSYERU;HURAN;HEKUTAARU;PESO;PENIHI;HERUTU",
    "PENSU;PEEZI;BEETA;POINTO;BORUTO;HON;PONDO;HOORU;HOON;MAIKURO;MAIRU;MAHHA;MARUKU;MANSYON",
    "MIKURON;MIRI;MIRIBAARU;MEGA;MEGATON;MEETORU;YAADO;YAARU;YUAN;RITTORU;RIRA;RUPII;RUUBURU",
    "REMU;RENTOGEN;WATTO"]⟩,
  ⟨0x3358, "IDEOGRAPHIC TELEGRAPH SYMBOL FOR HOUR ", ["ZERO;ONE;TWO;THREE;FOUR;FIVE;SIX;SEVEN",
    "EIGHT;NINE;TEN;ELEVEN;TWELVE;THIRTEEN;FOURTEEN;FIFTEEN;SIXTEEN;SEVENTEEN;EIGHTEEN;NINETEEN",
    "TWENTY;TWENTY-ONE;TWENTY-TWO;TWENTY-THREE;TWENTY-FOUR"]⟩,
  ⟨0x3371, "SQUARE ", ["HPA;DA;AU;BAR;OV;PC;DM;DM SQUARED;DM CUBED;IU"]⟩,
  ⟨0x337b, "SQUARE ERA NAME ", ["HEISEI;SYOUWA;TAISYOU;MEIZI"]⟩,
  ⟨0x337f, "SQUARE ", ["CORPORATION;PA AMPS;NA;MU A;MA;KA;KB;MB;GB;CAL;KCAL;PF;NF;MU F;MU G;MG",
    "KG;HZ;KHZ;MHZ;GHZ;THZ;MU L;ML;DL;KL;FM;NM;MU M;MM;CM;KM;MM SQUARED;CM SQUARED;M SQUARED",
    "KM SQUARED;MM CUBED;CM CUBED;M CUBED;KM CUBED;M OVER S;M OVER S SQUARED;PA;KPA;MPA;GPA;RAD",
    "RAD OVER S;RAD OVER S SQUARED;PS;NS;MU S;MS;PV;NV;MU V;MV;KV;MV MEGA;PW;NW;MU W;MW;KW",
    "MW MEGA;K OHM;M OHM;AM;BQ;CC;CD;C OVER KG;CO;DB;GY;HA;HP;IN;KK;KM CAPITAL;KT;LM;LN;LOG;LX",
    "MB SMALL;MIL;MOL;PH;PM;PPM;PR;SR;SV;WB;V OVER M;A OVER M"]⟩,
  ⟨0x33e0, "IDEOGRAPHIC TELEGRAPH SYMBOL FOR DAY ", ["ONE;TWO;THREE;FOUR;FIVE;SIX;SEVEN;EIGHT",
    "NINE;TEN;ELEVEN;TWELVE;THIRTEEN;FOURTEEN;FIFTEEN;SIXTEEN;SEVENTEEN;EIGHTEEN;NINETEEN;TWENTY",
    "TWENTY-ONE;TWENTY-TWO;TWENTY-THREE;TWENTY-FOUR;TWENTY-FIVE;TWENTY-SIX;TWENTY-SEVEN",
    "TWENTY-EIGHT;TWENTY-NINE;THIRTY;THIRTY-ONE"]⟩,
  ⟨0x33ff, "SQUARE GA", ["L"]⟩,
  ⟨0x4dc0, "HEXAGRAM FOR ", ["THE CREATIVE HEAVEN;THE RECEPTIVE EARTH",
    "DIFFICULTY AT THE BEGINNING;YOUTHFUL FOLLY;WAITING;CONFLICT;THE ARMY;HOLDING TOGETHER",
    "SMALL TAMING;TREADING;PEACE;STANDSTILL;FELLOWSHIP;GREAT POSSESSION;MODESTY;ENTHUSIASM",
    "FOLLOWING;WORK ON THE DECAYED;APPROACH;CONTEMPLATION;BITING THROUGH;GRACE;SPLITTING APART",
    "RETURN;INNOCENCE;GREAT TAMING;MOUTH CORNERS;GREAT PREPONDERANCE;THE ABYSMAL WATER",
    "THE CLINGING FIRE;INFLUENCE;DURATION;RETREAT;GREAT POWER;PROGRESS;DARKENING OF THE LIGHT",
    "THE FAMILY;OPPOSITION;OBSTRUCTION;DELIVERANCE;DECREASE;INCREASE;BREAKTHROUGH;COMING TO MEET",
    "GATHERING TOGETHER;PUSHING UPWARD;OPPRESSION;THE WELL;REVOLUTION;THE CAULDRON",
    "THE AROUSING THUNDER;THE KEEPING STILL MOUNTAIN;DEVELOPMENT;THE MARRYING MAIDEN;ABUNDANCE",
    "THE WANDERER;THE GENTLE WIND;THE JOYOUS LAKE;DISPERSION;LIMITATION;INNER TRUTH",
    "SMALL PREPONDERANCE;AFTER COMPLETION;BEFORE COMPLETION"]⟩,
  ⟨0xa000, "YI SYLLABLE ", ["IT;IX;I;IP;IET;IEX;IE;IEP;AT;AX;A;AP;UOX;UO;UOP;OT;OX;O;OP;EX;E;WU"]⟩,
  ⟨0xa016, "YI SYLLABLE B", ["IT;IX;I;IP;IET;IEX;IE;IEP;AT;AX;A;AP;UOX;UO;UOP;OT;OX;O;OP;EX;E",
    "EP;UT;UX;U;UP;URX;UR;YT;YX;Y;YP;YRX;YR"]⟩,
  ⟨0xa038, "YI SYLLABLE P", ["IT;IX;I;IP;IEX;IE;IEP;AT;AX;A;AP;UOX;UO;UOP;OT;OX;O;OP;UT;UX;U;UP",
    "URX;UR;YT;YX;Y;YP;YRX;YR"]⟩,
  ⟨0xa056, "YI SYLLABLE BB", ["IT;IX;I;IP;IET;IEX;IE;IEP;AT;AX;A;AP;UOX;UO;UOP;OT;OX;O;OP;EX;E",
    "EP;UT;UX;U;UP;URX;UR;YT;YX;Y;YP"]⟩,
  ⟨0xa076, "YI SYLLABLE NB", ["IT;IX;I;IP;IEX;IE;IEP;AT;AX;A;AP;OT;OX;O;OP;UT;UX;U;UP;URX;UR;YT",
    "YX;Y;YP;YRX;YR"]⟩,
  ⟨0xa091, "YI SYLLABLE HM", ["IT;IX;I;IP;IEX;IE;IEP;AT;AX;A;AP;UOX;UO;UOP;OT;OX;O;OP;UT;UX;U",
    "UP;URX;UR;YX;Y;YP;YRX;YR"]⟩,
  ⟨0xa0ae, "YI SYLLABLE M", ["IT;IX;I;IP;IEX;IE;IEP;AT;AX;A;AP;UOT;UOX;UO;UOP;OT;OX;O;OP;EX;E",
    "UT;UX;U;UP;URX;UR;YT;YX;Y;YP"]⟩,
  ⟨0xa0cd, "YI SYLLABLE F", ["IT;IX;I;IP;AT;AX;A;AP;OX;O;OP;UT;UX;U;UP;URX;UR;YT;YX;Y;YP"]⟩,
  ⟨0xa0e2, "YI SYLLABLE V", ["IT;IX;I;IP;IET;IEX;IE;IEP;AT;AX;A;AP;OT;OX;O;OP;EX;EP;UT;UX;U;UP",
    "URX;UR;YT;YX;Y;YP;YRX;YR"]⟩,
  ⟨0xa100, "YI SYLLABLE D", ["IT;IX;I;IP;IEX;IE;IEP;AT;AX;A;AP;UOX;UO;OT;OX;O;OP;EX;E;EP;UT;UX",
    "U;UP;URX;UR"]⟩,
  ⟨0xa11a, "YI SYLLABLE T", ["IT;IX;I;IP;IEX;IE;IEP;AT;AX;A;AP;UOT;UOX;UO;UOP;OT;OX;O;OP;EX;E",
    "EP;UT;UX;U;UP;URX;UR"]⟩,
  ⟨0xa136, "YI SYLLABLE DD", ["IT;IX;I;IP;IEX;IE;IEP;AT;AX;A;AP;UOX;UO;UOP;OT;OX;O;OP;EX;E;EP",
    "UT;UX;U;UP;URX;UR"]⟩,
  ⟨0xa151, "YI SYLLABLE ND", ["IT;IX;I;IP;IEX;IE;AT;AX;A;AP;OT;OX;O;OP;EX;E;EP;UT;UX;U;UP;URX",
    "UR"]⟩,
  ⟨0xa168, "YI SYLLABLE HN", ["IT;IX;I;IP;IET;IEX;IE;IEP;AT;AX;A;AP;UOX;UO;OT;OX;OP;EX;E;EP;UT"]⟩,
  ⟨0xa17d, "YI SYLLABLE N", ["IT;IX;I;IP;IEX;IE;IEP;AX;A;AP;UOX;UO;UOP;OT;OX;O;OP;EX;E;EP;UT;UX",
    "U;UP;URX;UR"]⟩,
  ⟨0xa197, "YI SYLLABLE HL", ["IT;IX;I;IP;IEX;IE;IEP;AT;AX;A;AP;UOX;UO;UOP;OX;O;OP;EX;E;EP;UT",
    "UX;U;UP;URX;UR;YT;YX;Y;YP;YRX;YR"]⟩,
  ⟨0xa1b7, "YI SYLLABLE L", ["IT;IX;I;IP;IET;IEX;IE;IEP;AT;AX;A;AP;UOT;UOX;UO;UOP;OT;OX;O;OP;EX",
    "E;EP;UT;UX;U;UP;URX;UR;YT;YX;Y;YP;YRX;YR"]⟩,
  ⟨0xa1da, "YI SYLLABLE G", ["IT;IX;I;IP;IET;IEX;IE;IEP;AT;AX;A;AP;UOT;UOX;UO;UOP;OT;OX;O;OP;ET",
    "EX;E;EP;UT;UX;U;UP;URX;UR"]⟩,
  ⟨0xa1f8, "YI SYLLABLE K", ["IT;IX;I;IP;IEX;IE;IEP;AT;AX;A;AP;UOX;UO;UOP;OT;OX;O;OP;ET;EX;E;EP",
    "UT;UX;U;UP;URX;UR"]⟩,
  ⟨0xa214, "YI SYLLABLE GG", ["IT;IX;I;IEX;IE;IEP;AT;AX;A;AP;UOT;UOX;UO;UOP;OT;OX;O;OP;ET;EX;E",
    "EP;UT;UX;U;UP;URX;UR"]⟩,
  ⟨0xa230, "YI SYLLABLE MG", ["IEX;IE;AT;AX;A;AP;UOX;UO;UOP;OT;OX;O;OP;EX;E;EP;UT;UX;U;UP;URX",
    "UR"]⟩,
  ⟨0xa246, "YI SYLLABLE HX", ["IT;IX;I;IP;IET;IEX;IE;IEP;AT;AX;A;AP;UOT;UOX;UO;UOP;OT;OX;O;OP",
    "EX;E;EP"]⟩,
  ⟨0xa25d, "YI SYLLABLE NG", ["IEX;IE;IEP;AT;AX;A;AP;UOT;UOX;UO;OT;OX;O;OP;EX;E;EP"]⟩,
  ⟨0xa26e, "YI SYLLABLE H", ["IT;IEX;IE;AT;AX;A;AP;UOT;UOX;UO;UOP;OT;OX;O;OP;EX;E;EP"]⟩,
  ⟨0xa280, "YI SYLLABLE W", ["AT;AX;A;AP;UOX;UO;UOP;OX;O;OP;EX;E;EP"]⟩,
  ⟨0xa28d, "YI SYLLABLE Z", ["IT;IX;I;IP;IEX;IE;IEP;AT;AX;A;AP;UOX;UO;UOP;OT;OX;O;OP;EX;E;EP;UT",
    "UX;U;UP;URX;UR;YT;YX;Y;YP;YRX;YR"]⟩,
  ⟨0xa2ae, "YI SYLLABLE C", ["IT;IX;I;IP;IET;IEX;IE;IEP;AT;AX;A;AP;UOX;UO;UOP;OT;OX;O;OP;EX;E",
    "EP;UT;UX;U;UP;URX;UR;YT;YX;Y;YP;YRX;YR"]⟩,
  ⟨0xa2d0, "YI SYLLABLE ZZ", ["IT;IX;I;IP;IET;IEX;IE;IEP;AT;AX;A;AP;OX;O;OP;EX;E;EP;UX;U;UP;URX",
    "UR;YT;YX;Y;YP;YRX;YR"]⟩,
  ⟨0xa2ed, "YI SYLLABLE NZ", ["IT;IX;I;IP;IEX;IE;IEP;AT;AX;A;AP;UOX;UO;OX;OP;EX;E;UX;U;UP;URX",
    "UR;YT;YX;Y;YP;YRX;YR"]⟩,
  ⟨0xa309, "YI SYLLABLE S", ["IT;IX;I;IP;IEX;IE;IEP;AT;AX;A;AP;UOX;UO;UOP;OT;OX;O;OP;EX;E;EP;UT",
    "UX;U;UP;URX;UR;YT;YX;Y;YP;YRX;YR"]⟩,
  ⟨0xa32a, "YI SYLLABLE SS", ["IT;IX;I;IP;IEX;IE;IEP;AT;AX;A;AP;OT;OX;O;OP;EX;E;EP;UT;UX;U;UP",
    "YT;YX;Y;YP;YRX;YR"]⟩,
  ⟨0xa346, "YI SYLLABLE ZH", ["AT;AX;A;AP;UOX;UO;UOP;OT;OX;O;OP;ET;EX;E;EP;UT;UX;U;UP;URX;UR;YT",
    "YX;Y;YP;YRX;YR"]⟩,
  ⟨0xa361, "YI SYLLABLE CH", ["AT;AX;A;AP;UOT;UOX;UO;UOP;OT;OX;O;OP;ET;EX;E;EP;UX;U;UP;URX;UR",
    "YT;YX;Y;YP;YRX;YR"]⟩,
  ⟨0xa37c, "YI SYLLABLE RR", ["AX;A;UOX;UO;OT;OX;O;OP;ET;EX;E;EP;UT;UX;U;UP;URX;UR;YT;YX;Y;YP",
    "YRX;YR"]⟩,
  ⟨0xa394, "YI SYLLABLE NR", ["AT;AX;A;AP;OX;O;OP;ET;EX;E;EP;UT;UX;U;UP;URX;UR;YT;YX;Y;YP;YRX",
    "YR"]⟩,
  ⟨0xa3ab, "YI SYLLABLE SH", ["AT;AX;A;AP;UOX;UO;UOP;OT;OX;O;OP;ET;EX;E;EP;UT;UX;U;UP;URX;UR;YT",
    "YX;Y;YP;YRX;YR"]⟩,
  ⟨0xa3c6, "YI SYLLABLE R", ["AT;AX;A;AP;UOX;UO;UOP;OT;OX;O;OP;EX;E;EP;UT;UX;U;UP;URX;UR;YT;YX",
    "Y;YP;YRX;YR"]⟩,
  ⟨0xa3e0, "YI SYLLABLE J", ["IT;IX;I;IP;IET;IEX;IE;IEP;UOT;UOX;UO;UOP;OT;OX;O;OP;UT;UX;U;UP",
    "URX;UR;YT;YX;Y;YP;YRX;YR"]⟩,
  ⟨0xa3fc, "YI SYLLABLE Q", ["IT;IX;I;IP;IET;IEX;IE;IEP;UOT;UOX;UO;UOP;OT;OX;O;OP;UT;UX;U;UP",
    "URX;UR;YT;YX;Y;YP;YRX;YR"]⟩,
  ⟨0xa418, "YI SYLLABLE JJ", ["IT;IX;I;IP;IET;IEX;IE;IEP;UOX;UO;UOP;OT;OX;O;OP;UT;UX;U;UP;URX",
    "UR;YT;YX;Y;YP"]⟩,
  ⟨0xa431, "YI SYLLABLE NJ", ["IT;IX;I;IP;IET;IEX;IE;IEP;UOX;UO;OT;OX;O;OP;UX;U;UP;URX;UR;YT;YX",
    "Y;YP;YRX;YR"]⟩,
  ⟨0xa44a, "YI SYLLABLE NY", ["IT;IX;I;IP;IET;IEX;IE;IEP;UOX;UO;UOP;OT;OX;O;OP;UT;UX;U;UP"]⟩,
  ⟨0xa45d, "YI SYLLABLE X", ["IT;IX;I;IP;IET;IEX;IE;IEP;UOX;UO;OT;OX;O;OP;YT;YX;Y;YP;YRX;YR"]⟩,
  ⟨0xa471, "YI SYLLABLE Y", ["IT;IX;I;IP;IET;IEX;IE;IEP;UOT;UOX;UO;UOP;OT;OX;O;OP;UT;UX;U;UP",
    "URX;UR;YT;YX;Y;YP;YRX;YR"]⟩,
  ⟨0xa48d, "YI RADICAL ", [";;;QOT;LI;KIT;NYIP;CYP;SSI;GGOP;GEP;MI;HXIT;LYR;BBUT;MOP;YO;PUT",
    "HXUO;TAT;GA;ZUP;CYT;DDUR;BUR;GGUO;NYOP;TU;OP;JJUT;ZOT;PYT;HMO;YIT;VUR;SHY;VEP;ZA;JO;NZUP",
    "JJY;GOT;JJIE;WO;DU;SHUR;LIE;CY;CUOP;CIP;HXOP;SHAT;ZUR;SHOP;CHE;ZZIET;NBIE;KE"]⟩,
  ⟨0xa4d0, "LISU LETTER ", ["BA;PA;PHA;DA;TA;THA;GA;KA;KHA;JA;CA;CHA;DZA;TSA;TSHA;MA;NA;LA;SA",
    "ZHA;ZA;NGA;HA;XA;HHA;FA;WA;SHA;YA;GHA;A;AE;E;EU;I;O;U;UE;UH;OE;TONE MYA TI;TONE NA PO"]⟩,
  ⟨0xa4fa, "LISU LETTER TONE MYA ", ["CYA;BO;NA;JEU"]⟩,
  ⟨0xa4fe, "LISU PUNCTUATION ", ["COMMA;FULL STOP"]⟩,
  ⟨0xa500, "VAI SYLLABLE ", ["EE;EEN;HEE;WEE;WEEN;PEE;BHEE;BEE;MBEE;KPEE;MGBEE;GBEE;FEE;VEE;TEE",
    "THEE;DHEE;DHHEE;LEE;REE;DEE;NDEE;SEE;SHEE;ZEE;ZHEE;CEE;JEE;NJEE;YEE;KEE;NGGEE;GEE;MEE;NEE",
    "NYEE;I;IN;HI;HIN;WI;WIN;PI;BHI;BI;MBI;KPI;MGBI;GBI;FI;VI;TI;THI;DHI;DHHI;LI;RI;DI;NDI;SI",
    "SHI;ZI;ZHI;CI;JI;NJI;YI;KI;NGGI;GI;MI;NI;NYI;A;AN;NGAN;HA;HAN;WA;WAN;PA;BHA;BA;MBA;KPA;KPAN",
    "MGBA;GBA;FA;VA;TA;THA;DHA;DHHA;LA;RA;DA;NDA;SA;SHA;ZA;ZHA;CA;JA;NJA;YA;KA;KAN;NGGA;GA;MA;NA",
    "NYA;OO;OON;HOO;WOO;WOON;POO;BHOO;BOO;MBOO;KPOO;MGBOO;GBOO;FOO;VOO;TOO;THOO;DHOO;DHHOO;LOO",
    "ROO;DOO;NDOO;SOO;SHOO;ZOO;ZHOO;COO;JOO;NJOO;YOO;KOO;NGGOO;GOO;MOO;NOO;NYOO;U;UN;HU;HUN;WU",
    "WUN;PU;BHU;BU;MBU;KPU;MGBU;GBU;FU;VU;TU;THU;DHU;DHHU;LU;RU;DU;NDU;SU;SHU;ZU;ZHU;CU;JU;NJU",
    "YU;KU;NGGU;GU;MU;NU;NYU;O;ON;NGON;HO;HON;WO;WON;PO;BHO;BO;MBO;KPO;MGBO;GBO;GBON;FO;VO;TO",
    "THO;DHO;DHHO;LO;RO;DO;NDO;SO;SHO;ZO;ZHO;CO;JO;NJO;YO;KO;NGGO;GO;MO;NO;NYO;E;EN;NGEN;HE;HEN",
    "WE;WEN;PE;BHE;BE;MBE;KPE;KPEN;MGBE;GBE;GBEN;FE;VE;TE;THE;DHE;DHHE;LE;RE;DE;NDE;SE;SHE;ZE",
    "ZHE;CE;JE;NJE;YE;KE;NGGE;NGGEN;GE;GEN;ME;NE;NYE;NG;LENGTHENER"]⟩,
  ⟨0xa60d, "VAI ", ["COMMA;FULL STOP;QUESTION MARK"]⟩,
  ⟨0xa610, "VAI SYLLABLE NDOLE ", ["FA;KA;SOO"]⟩,
  ⟨0xa613, "VAI SYMBOL ", ["FEENG;KEENG;TING;NII;BANG;FAA;TAA;DANG;DOONG;KUNG;TONG;DO-O;JONG"]⟩,
  ⟨0xa620, "VAI DIGIT ", ["ZERO;ONE;TWO;THREE;FOUR;FIVE;SIX;SEVEN;EIGHT;NINE"]⟩,
  ⟨0xa62a, "VAI SYLLABLE NDOLE ", ["MA;DO"]⟩,
  ⟨0xa640, "CYRILLIC ", ["CAPITAL LETTER ZEMLYA;SMALL LETTER ZEMLYA;CAPITAL LETTER DZELO",
    "SMALL LETTER DZELO;CAPITAL LETTER REVERSED DZE;SMALL LETTER REVERSED DZE",
    "CAPITAL LETTER IOTA;SMALL LETTER IOTA;CAPITAL LETTER DJERV;SMALL LETTER DJERV",
    "CAPITAL LETTER MONOGRAPH UK;SMALL LETTER MONOGRAPH UK;CAPITAL LETTER BROAD OMEGA",
    "SMALL LETTER BROAD OMEGA;CAPITAL LETTER NEUTRAL YER;SMALL LETTER NEUTRAL YER",
    "CAPITAL LETTER YERU WITH BACK YER;SMALL LETTER YERU WITH BACK YER",
    "CAPITAL LETTER IOTIFIED YAT;SMALL LETTER IOTIFIED YAT;CAPITAL LETTER REVERSED YU",
    "SMALL LETTER REVERSED YU;CAPITAL LETTER IOTIFIED A;SMALL LETTER IOTIFIED A",
    "CAPITAL LETTER CLOSED LITTLE YUS;SMALL LETTER CLOSED LITTLE YUS;CAPITAL LETTER BLENDED YUS",
    "SMALL LETTER BLENDED YUS;CAPITAL LETTER IOTIFIED CLOSED LITTLE YUS",
    "SMALL LETTER IOTIFIED CLOSED LITTLE YUS;CAPITAL LETTER YN;SMALL LETTER YN",
    "CAPITAL LETTER REVERSED TSE;SMALL LETTER REVERSED TSE;CAPITAL LETTER SOFT DE",
    "SMALL LETTER SOFT DE;CAPITAL LETTER SOFT EL;SMALL LETTER SOFT EL;CAPITAL LETTER SOFT EM",
    "SMALL LETTER SOFT EM;CAPITAL LETTER MONOCULAR O;SMALL LETTER MONOCULAR O",
    "CAPITAL LETTER BINOCULAR O;SMALL LETTER BINOCULAR O;CAPITAL LETTER DOUBLE MONOCULAR O",
    "SMALL LETTER DOUBLE MONOCULAR O;LETTER MULTIOCULAR O"]⟩,
  ⟨0xa66f, "COMBINING CYRILLIC ", ["VZMET;TEN MILLIONS SIGN;HUNDRED MILLIONS SIGN",
    "THOUSAND MILLIONS SIGN"]⟩,
  ⟨0xa673, "SLAVONIC ASTERIS", ["K"]⟩,
  ⟨0xa674, "COMBINING CYRILLIC LETTER ", ["UKRAINIAN IE;I;YI;U;HARD SIGN;YERU;SOFT SIGN;OMEGA"]⟩,
  ⟨0xa67c, "COMBINING CYRILLIC ", ["KAVYKA;PAYEROK"]⟩,
  ⟨0xa67e, "CYRILLIC ", ["KAVYKA;PAYEROK;CAPITAL LETTER DWE;SMALL LETTER DWE",
    "CAPITAL LETTER DZWE;SMALL LETTER DZWE;CAPITAL LETTER ZHWE;SMALL LETTER ZHWE",
    "CAPITAL LETTER CCHE;SMALL LETTER CCHE;CAPITAL LETTER DZZE;SMALL LETTER DZZE",
    "CAPITAL LETTER TE WITH MIDDLE HOOK;SMALL LETTER TE WITH MIDDLE HOOK;CAPITAL LETTER TWE",
    "SMALL LETTER TWE;CAPITAL LETTER TSWE;SMALL LETTER TSWE;CAPITAL LETTER TSSE",
    "SMALL LETTER TSSE;CAPITAL LETTER TCHE;SMALL LETTER TCHE;CAPITAL LETTER HWE;SMALL LETTER HWE",
    "CAPITAL LETTER SHWE;SMALL LETTER SHWE;CAPITAL LETTER DOUBLE O;SMALL LETTER DOUBLE O",
    "CAPITAL LETTER CROSSED O;SMALL LETTER CROSSED O"]⟩,
  ⟨0xa69c, "MODIFIER LETTER CYRILLIC ", ["HARD SIGN;SOFT SIGN"]⟩,
  ⟨0xa69e, "COMBINING CYRILLIC LETTER ", ["EF;IOTIFIED E"]⟩,
  ⟨0xa6a0, "BAMUM LETTER ", ["A;KA;U;KU;EE;REE;TAE;O;NYI;I;LA;PA;RII;RIEE;LEEEE;MEEEE;TAA;NDAA",
    "NJAEM;M;SUU;MU;SHII;SI;SHEUX;SEUX;KYEE;KET;NUAE;NU;NJUAE;YOQ;SHU;YUQ;YA;NSHA;KEUX;PEUX;NJEE",
    "NTEE;PUE;WUE;PEE;FEE;RU;LU;MI;NI;REUX;RAE;KEN;NGKWAEN;NGGA;NGA;SHO;PUAE;FU;FOM;WA;NA;LI;PI",
    "LOQ;KO;MBEN;REN;MEN;MA;TI;KI;MO;MBAA;TET;KPA;TEN;NTUU;SAMBA;FAAMAE;KOVUU;KOGHOM"]⟩,
  ⟨0xa6f0, "BAMUM COMBINING MARK ", ["KOQNDON;TUKWENTIS"]⟩,
  ⟨0xa6f2, "BAMUM ", ["NJAEMLI;FULL STOP;COLON;COMMA;SEMICOLON;QUESTION MARK"]⟩,
  ⟨0xa700, "MODIFIER LETTER CHINESE TONE Y", ["IN PING;ANG PING;IN SHANG;ANG SHANG;IN QU;ANG QU",
    "IN RU;ANG RU"]⟩,
  ⟨0xa708, "MODIFIER LETTER ", ["EXTRA-HIGH DOTTED TONE BAR;HIGH DOTTED TONE BAR",
    "MID DOTTED TONE BAR;LOW DOTTED TONE BAR;EXTRA-LOW DOTTED TONE BAR",
    "EXTRA-HIGH DOTTED LEFT-STEM TONE BAR;HIGH DOTTED LEFT-STEM TONE BAR",
    "MID DOTTED LEFT-STEM TONE BAR;LOW DOTTED LEFT-STEM TONE BAR",
    "EXTRA-LOW DOTTED LEFT-STEM TONE BAR;EXTRA-HIGH LEFT-STEM TONE BAR;HIGH LEFT-STEM TONE BAR",
    "MID LEFT-STEM TONE BAR;LOW LEFT-STEM TONE BAR;EXTRA-LOW LEFT-STEM TONE BAR;DOT VERTICAL BAR",
    "DOT SLASH;DOT HORIZONTAL BAR;LOWER RIGHT CORNER ANGLE;RAISED UP ARROW;RAISED DOWN ARROW",
    "RAISED EXCLAMATION MARK;RAISED INVERTED EXCLAMATION MARK;LOW INVERTED EXCLAMATION MARK",
    "STRESS AND HIGH TONE;STRESS AND LOW TONE"]⟩,
  ⟨0xa722, "LATIN ", ["CAPITAL LETTER EGYPTOLOGICAL ALEF;SMALL LETTER EGYPTOLOGICAL ALEF",
    "CAPITAL LETTER EGYPTOLOGICAL AIN;SMALL LETTER EGYPTOLOGICAL AIN;CAPITAL LETTER HENG",
    "SMALL LETTER HENG;CAPITAL LETTER TZ;SMALL LETTER TZ;CAPITAL LETTER TRESILLO",
    "SMALL LETTER TRESILLO;CAPITAL LETTER CUATRILLO;SMALL LETTER CUATRILLO",
    "CAPITAL LETTER CUATRILLO WITH COMMA;SMALL LETTER CUATRILLO WITH COMMA"]⟩,
  ⟨0xa730, "LATIN LETTER SMALL CAPITAL ", ["F;S"]⟩,
  ⟨0xa732, "LATIN ", ["CAPITAL LETTER AA;SMALL LETTER AA;CAPITAL LETTER AO;SMALL LETTER AO",
    "CAPITAL LETTER AU;SMALL LETTER AU;CAPITAL LETTER AV;SMALL LETTER AV",
    "CAPITAL LETTER AV WITH HORIZONTAL BAR;SMALL LETTER AV WITH HORIZONTAL BAR;CAPITAL LETTER AY",
    "SMALL LETTER AY;CAPITAL LETTER REVERSED C WITH DOT;SMALL LETTER REVERSED C WITH DOT",
    "CAPITAL LETTER K WITH STROKE;SMALL LETTER K WITH STROKE",
    "CAPITAL LETTER K WITH DIAGONAL STROKE;SMALL LETTER K WITH DIAGONAL STROKE",
    "CAPITAL LETTER K WITH STROKE AND DIAGONAL STROKE",
    "SMALL LETTER K WITH STROKE AND DIAGONAL STROKE;CAPITAL LETTER BROKEN L",
    "SMALL LETTER BROKEN L;CAPITAL LETTER L WITH HIGH STROKE;SMALL LETTER L WITH HIGH STROKE",
    "CAPITAL LETTER O WITH LONG STROKE OVERLAY;SMALL LETTER O WITH LONG STROKE OVERLAY",
    "CAPITAL LETTER O WITH LOOP;SMALL LETTER O WITH LOOP;CAPITAL LETTER OO;SMALL LETTER OO",
    "CAPITAL LETTER P WITH STROKE THROUGH DESCENDER;SMALL LETTER P WITH STROKE THROUGH DESCENDER",
    "CAPITAL LETTER P WITH FLOURISH;SMALL LETTER P WITH FLOURISH",
    "CAPITAL LETTER P WITH SQUIRREL TAIL;SMALL LETTER P WITH SQUIRREL TAIL",
    "CAPITAL LETTER Q WITH STROKE THROUGH DESCENDER;SMALL LETTER Q WITH STROKE THROUGH DESCENDER",
    "CAPITAL LETTER Q WITH DIAGONAL STROKE;SMALL LETTER Q WITH DIAGONAL STROKE",
    "CAPITAL LETTER R ROTUNDA;SMALL LETTER R ROTUNDA;CAPITAL LETTER RUM ROTUNDA",
    "SMALL LETTER RUM ROTUNDA;CAPITAL LETTER V WITH DIAGONAL STROKE",
    "SMALL LETTER V WITH DIAGONAL STROKE;CAPITAL LETTER VY;SMALL LETTER VY",
    "CAPITAL LETTER VISIGOTHIC Z;SMALL LETTER VISIGOTHIC Z;CAPITAL LETTER THORN WITH STROKE",
    "SMALL LETTER THORN WITH STROKE;CAPITAL LETTER THORN WITH STROKE THROUGH DESCENDER",
    "SMALL LETTER THORN WITH STROKE THROUGH DESCENDER;CAPITAL LETTER VEND;SMALL LETTER VEND",
    "CAPITAL LETTER ET;SMALL LETTER ET;CAPITAL LETTER IS;SMALL LETTER IS;CAPITAL LETTER CON",
    "SMALL LETTER CON"]⟩,
  ⟨0xa770, "MODIFIER LETTER U", ["S"]⟩,
  ⟨0xa771, "LATIN SMALL LETTER ", ["DUM;LUM;MUM;NUM;RUM"]⟩,
  ⟨0xa776, "LATIN ", ["LETTER SMALL CAPITAL RUM;SMALL LETTER TUM;SMALL LETTER UM",
    "CAPITAL LETTER INSULAR D;SMALL LETTER INSULAR D;CAPITAL LETTER INSULAR F",
    "SMALL LETTER INSULAR F;CAPITAL LETTER INSULAR G;CAPITAL LETTER TURNED INSULAR G",
    "SMALL LETTER TURNED INSULAR G;CAPITAL LETTER TURNED L;SMALL LETTER TURNED L",
    "CAPITAL LETTER INSULAR R;SMALL LETTER INSULAR R;CAPITAL LETTER INSULAR S",
    "SMALL LETTER INSULAR S;CAPITAL LETTER INSULAR T;SMALL LETTER INSULAR T"]⟩,
  ⟨0xa788, "MODIFIER LETTER ", ["LOW CIRCUMFLEX ACCENT;COLON;SHORT EQUALS SIGN"]⟩,
  ⟨0xa78b, "LATIN ", ["CAPITAL LETTER SALTILLO;SMALL LETTER SALTILLO;CAPITAL LETTER TURNED H",
    "SMALL LETTER L WITH RETROFLEX HOOK AND BELT;LETTER SINOLOGICAL DOT",
    "CAPITAL LETTER N WITH DESCENDER;SMALL LETTER N WITH DESCENDER;CAPITAL LETTER C WITH BAR"]⟩,
  ⟨0xa793, "LATIN SMALL LETTER ", ["C WITH BAR;C WITH PALATAL HOOK;H WITH PALATAL HOOK"]⟩,
  ⟨0xa796, "LATIN ", ["CAPITAL LETTER B WITH FLOURISH;SMALL LETTER B WITH FLOURISH",
    "CAPITAL LETTER F WITH STROKE;SMALL LETTER F WITH STROKE;CAPITAL LETTER VOLAPUK AE",
    "SMALL LETTER VOLAPUK AE;CAPITAL LETTER VOLAPUK OE;SMALL LETTER VOLAPUK OE",
    "CAPITAL LETTER VOLAPUK UE;SMALL LETTER VOLAPUK UE;CAPITAL LETTER G WITH OBLIQUE STROKE",
    "SMALL LETTER G WITH OBLIQUE STROKE;CAPITAL LETTER K WITH OBLIQUE STROKE",
    "SMALL LETTER K WITH OBLIQUE STROKE;CAPITAL LETTER N WITH OBLIQUE STROKE",
    "SMALL LETTER N WITH OBLIQUE STROKE;CAPITAL LETTER R WITH OBLIQUE STROKE",
    "SMALL LETTER R WITH OBLIQUE STROKE;CAPITAL LETTER S WITH OBLIQUE STROKE",
    "SMALL LETTER S WITH OBLIQUE STROKE"]⟩,
  ⟨0xa7aa, "LATIN CAPITAL LETTER ", ["H WITH HOOK;REVERSED OPEN E;SCRIPT G;L WITH BELT",
    "SMALL CAPITAL I"]⟩,
  ⟨0xa7af, "LATIN LETTER SMALL CAPITAL ", ["Q"]⟩,
  ⟨0xa7b0, "LATIN CAPITAL LETTER ", ["TURNED K;TURNED T;J WITH CROSSED-TAIL;CHI;BETA"]⟩,
  ⟨0xa7b5, "LATIN ", ["SMALL LETTER BETA;CAPITAL LETTER OMEGA;SMALL LETTER OMEGA",
    "CAPITAL LETTER U WITH STROKE;SMALL LETTER U WITH STROKE;CAPITAL LETTER GLOTTAL A",
    "SMALL LETTER GLOTTAL A;CAPITAL LETTER GLOTTAL I;SMALL LETTER GLOTTAL I",
    "CAPITAL LETTER GLOTTAL U;SMALL LETTER GLOTTAL U;CAPITAL LETTER OLD POLISH O",
    "SMALL LETTER OLD POLISH O;CAPITAL LETTER ANGLICANA W;SMALL LETTER ANGLICANA W"]⟩,
  ⟨0xa7c4, "LATIN CAPITAL LETTER ", ["C WITH PALATAL HOOK;S WITH HOOK;Z WITH PALATAL HOOK",
    "D WITH SHORT STROKE OVERLAY"]⟩,
  ⟨0xa7c8, "LATIN ", ["SMALL LETTER D WITH SHORT STROKE OVERLAY",
    "CAPITAL LETTER S WITH SHORT STROKE OVERLAY;SMALL LETTER S WITH SHORT STROKE OVERLAY;;;;;",
    "CAPITAL LETTER CLOSED INSULAR G"]⟩,
  ⟨0xa7d1, "LATIN SMALL LETTER ", ["CLOSED INSULAR G;;DOUBLE THORN;;DOUBLE WYNN"]⟩,
  ⟨0xa7d6, "LATIN ", ["CAPITAL LETTER MIDDLE SCOTS S;SMALL LETTER MIDDLE SCOTS S",
    "CAPITAL LETTER SIGMOID S;SMALL LETTER SIGMOID S"]⟩,
  ⟨0xa7f2, "MODIFIER LETTER CAPITAL ", ["C;F;Q"]⟩]

/-- Scripts from Glagolitic on, those of East Asia, and compatibility forms, from U+A7F5 on. -/
def eastAsiaPartC : List Block := [
  ⟨0xa7f5, "LATIN ", ["CAPITAL LETTER REVERSED HALF H;SMALL LETTER REVERSED HALF H",
    "EPIGRAPHIC LETTER SIDEWAYS I"]⟩,
  ⟨0xa7f8, "MODIFIER LETTER ", ["CAPITAL H WITH STROKE;SMALL LIGATURE OE"]⟩,
  ⟨0xa7fa, "LATIN LETTER SMALL CAPITAL TURNED ", ["M"]⟩,
  ⟨0xa7fb, "LATIN EPIGRAPHIC LETTER ", ["REVERSED F;REVERSED P;INVERTED M;I LONGA;ARCHAIC M"]⟩,
  ⟨0xa800, "SYLOTI NAGRI ", ["LETTER A;LETTER I;SIGN DVISVARA;LETTER U;LETTER E;LETTER O",
    "SIGN HASANTA;LETTER KO;LETTER KHO;LETTER GO;LETTER GHO;SIGN ANUSVARA"]⟩,
  ⟨0xa80c, "SYLOTI NAGRI LETTER ", ["CO;CHO;JO;JHO;TTO;TTHO;DDO;DDHO;TO;THO;DO;DHO;NO;PO;PHO;BO",
    "BHO;MO;RO;LO;RRO;SO;HO"]⟩,
  ⟨0xa823, "SYLOTI NAGRI VOWEL SIGN ", ["A;I;U;E;OO"]⟩,
  ⟨0xa828, "SYLOTI NAGRI POETRY MARK-", ["1;2;3;4"]⟩,
  ⟨0xa82c, "SYLOTI NAGRI SIGN ALTERNATE HASANT", ["A"]⟩,
  ⟨0xa82d, "NORTH INDIC FRACTION ", [";;;ONE QUARTER;ONE HALF;THREE QUARTERS;ONE SIXTEENTH",
    "ONE EIGHTH;THREE SIXTEENTHS"]⟩,
  ⟨0xa836, "NORTH INDIC ", ["QUARTER MARK;PLACEHOLDER MARK;RUPEE MARK;QUANTITY MARK"]⟩,
  ⟨0xa83a, "PHAGS-PA LETTER ", [";;;;;;KA;KHA;GA;NGA;CA;CHA;JA;NYA;TA;THA;DA;NA;PA;PHA;BA;MA",
    "TSA;TSHA;DZA;WA;ZHA;ZA;SMALL A;YA;RA;LA;SHA;SA;HA;A;I;U;E;O;QA;XA;FA;GGA;EE"]⟩,
  ⟨0xa867, "PHAGS-PA SUBJOINED LETTER ", ["WA;YA"]⟩,
  ⟨0xa869, "PHAGS-PA LETTER ", ["TTA;TTHA;DDA;NNA;ALTERNATE YA;VOICELESS SHA;VOICED HA",
    "ASPIRATED FA"]⟩,
  ⟨0xa871, "PHAGS-PA ", ["SUBJOINED LETTER RA;SUPERFIXED LETTER RA;LETTER CANDRABINDU",
    "SINGLE HEAD MARK;DOUBLE HEAD MARK;MARK SHAD;MARK DOUBLE SHAD"]⟩,
  ⟨0xa880, "SAURASHTRA SIGN ", ["ANUSVARA;VISARGA"]⟩,
  ⟨0xa882, "SAURASHTRA LETTER ", ["A;AA;I;II;U;UU;VOCALIC R;VOCALIC RR;VOCALIC L;VOCALIC LL;E",
    "EE;AI;O;OO;AU;KA;KHA;GA;GHA;NGA;CA;CHA;JA;JHA;NYA;TTA;TTHA;DDA;DDHA;NNA;TA;THA;DA;DHA;NA;PA",
    "PHA;BA;BHA;MA;YA;RA;LA;VA;SHA;SSA;SA;HA;LLA"]⟩,
  ⟨0xa8b4, "SAURASHTRA CONSONANT SIGN HAAR", ["U"]⟩,
  ⟨0xa8b5, "SAURASHTRA VOWEL SIGN ", ["AA;I;II;U;UU;VOCALIC R;VOCALIC RR;VOCALIC L;VOCALIC LL;E",
    "EE;AI;O;OO;AU"]⟩,
  ⟨0xa8c4, "SAURASHTRA SIGN ", ["VIRAMA;CANDRABINDU"]⟩,
  ⟨0xa8ce, "SAURASHTRA D", ["ANDA;OUBLE DANDA"]⟩,
  ⟨0xa8d0, "SAURASHTRA DIGIT ", ["ZERO;ONE;TWO;THREE;FOUR;FIVE;SIX;SEVEN;EIGHT;NINE"]⟩,
  ⟨0xa8da, "COMBINING DEVANAGARI DIGIT ", [";;;;;;ZERO;ONE;TWO;THREE;FOUR;FIVE;SIX;SEVEN;EIGHT",
    "NINE"]⟩,
  ⟨0xa8ea, "COMBINING DEVANAGARI LETTER ", ["A;U;KA;NA;PA;RA;VI"]⟩,
  ⟨0xa8f1, "COMBINING DEVANAGARI SIGN AVAGRAH", ["A"]⟩,
  ⟨0xa8f2, "DEVANAGARI SIGN ", ["SPACING CANDRABINDU;CANDRABINDU VIRAMA",
    "DOUBLE CANDRABINDU VIRAMA"]⟩,
  ⟨0xa8f5, "DEVANAGARI SIGN CANDRABINDU ", ["TWO;THREE;AVAGRAHA"]⟩,
  ⟨0xa8f8, "DEVANAGARI ", ["SIGN PUSHPIKA;GAP FILLER;CARET;HEADSTROKE;SIGN SIDDHAM;JAIN OM",
    "LETTER AY;VOWEL SIGN AY"]⟩,
  ⟨0xa900, "KAYAH LI DIGIT ", ["ZERO;ONE;TWO;THREE;FOUR;FIVE;SIX;SEVEN;EIGHT;NINE"]⟩,
  ⟨0xa90a, "KAYAH LI LETTER ", ["KA;KHA;GA;NGA;SA;SHA;ZA;NYA;TA;HTA;NA;PA;PHA;MA;DA;BA;RA;YA;LA",
    "WA;THA;HA;VA;CA;A;OE;I;OO"]⟩,
  ⟨0xa926, "KAYAH LI VOWEL ", ["UE;E;U;EE;O"]⟩,
  ⟨0xa92b, "KAYAH LI TONE ", ["PLOPHU;CALYA;CALYA PLOPHU"]⟩,
  ⟨0xa92e, "KAYAH LI SIGN ", ["CWI;SHYA"]⟩,
  ⟨0xa930, "REJANG LETTER ", ["KA;GA;NGA;TA;DA;NA;PA;BA;MA;CA;JA;NYA;SA;RA;LA;YA;WA;HA;MBA;NGGA",
    "NDA;NYJA;A"]⟩,
  ⟨0xa947, "REJANG VOWEL SIGN ", ["I;U;E;AI;O;AU;EU;EA"]⟩,
  ⟨0xa94f, "REJANG CONSONANT SIGN ", ["NG;N;R;H"]⟩,
  ⟨0xa953, "REJANG VIRAM", ["A"]⟩,
  ⟨0xa95f, "REJANG SECTION MAR", ["K"]⟩,
  ⟨0xa960, "HANGUL CHOSEONG TIKEUT-", ["MIEUM;PIEUP;SIOS;CIEUC"]⟩,
  ⟨0xa964, "HANGUL CHOSEONG RIEUL-", ["KIYEOK;SSANGKIYEOK;TIKEUT;SSANGTIKEUT;MIEUM;PIEUP",
    "SSANGPIEUP;KAPYEOUNPIEUP;SIOS;CIEUC;KHIEUKH"]⟩,
  ⟨0xa96f, "HANGUL CHOSEONG ", ["MIEUM-KIYEOK;MIEUM-TIKEUT;MIEUM-SIOS;PIEUP-SIOS-THIEUTH",
    "PIEUP-KHIEUKH;PIEUP-HIEUH;SSANGSIOS-PIEUP;IEUNG-RIEUL;IEUNG-HIEUH;SSANGCIEUC-HIEUH",
    "SSANGTHIEUTH;PHIEUPH-HIEUH;HIEUH-SIOS;SSANGYEORINHIEUH"]⟩,
  ⟨0xa97d, "JAVANESE SIGN ", [";;;PANYANGGA;CECAK;LAYAR;WIGNYAN"]⟩,
  ⟨0xa984, "JAVANESE LETTER ", ["A;I KAWI;I;II;U;PA CEREK;NGA LELET;NGA LELET RASWADI;E;AI;O;KA",
    "KA SASAK;KA MURDA;GA;GA MURDA;NGA;CA;CA MURDA;JA;NYA MURDA;JA MAHAPRANA;NYA;TTA",
    "TTA MAHAPRANA;DDA;DDA MAHAPRANA;NA MURDA;TA;TA MURDA;DA;DA MAHAPRANA;NA;PA;PA MURDA;BA",
    "BA MURDA;MA;YA;RA;RA AGUNG;LA;WA;SA MURDA;SA MAHAPRANA;SA;HA"]⟩,
  ⟨0xa9b3, "JAVANESE SIGN CECAK TEL", ["U"]⟩,
  ⟨0xa9b4, "JAVANESE VOWEL SIGN ", ["TARUNG;TOLONG;WULU;WULU MELIK;SUKU;SUKU MENDUT;TALING",
    "DIRGA MURE;PEPET"]⟩,
  ⟨0xa9bd, "JAVANESE CONSONANT SIGN ", ["KERET;PENGKAL;CAKRA"]⟩,
  ⟨0xa9c0, "JAVANESE ", ["PANGKON;LEFT RERENGGAN;RIGHT RERENGGAN"]⟩,
  ⟨0xa9c3, "JAVANESE PADA ", ["ANDAP;MADYA;LUHUR;WINDU;PANGKAT;LINGSA;LUNGSI;ADEG;ADEG ADEG",
    "PISELEH"]⟩,
  ⟨0xa9cd, "JAVANESE ", ["TURNED PADA PISELEH;;PANGRANGKEP"]⟩,
  ⟨0xa9d0, "JAVANESE DIGIT ", ["ZERO;ONE;TWO;THREE;FOUR;FIVE;SIX;SEVEN;EIGHT;NINE"]⟩,
  ⟨0xa9da, "JAVANESE PADA ", [";;;;TIRTA TUMETES;ISEN-ISEN"]⟩,
  ⟨0xa9e0, "MYANMAR LETTER SHAN ", ["GHA;CHA;JHA;NNA;BHA"]⟩,
  ⟨0xa9e5, "MYANMAR ", ["SIGN SHAN SAW;MODIFIER LETTER SHAN REDUPLICATION"]⟩,
  ⟨0xa9e7, "MYANMAR LETTER TAI LAING ", ["NYA;FA;GA;GHA;JA;JHA;DDA;DDHA;NNA"]⟩,
  ⟨0xa9f0, "MYANMAR TAI LAING DIGIT ", ["ZERO;ONE;TWO;THREE;FOUR;FIVE;SIX;SEVEN;EIGHT;NINE"]⟩,
  ⟨0xa9fa, "MYANMAR LETTER TAI LAING ", ["LLA;DA;DHA;BA;BHA"]⟩,
  ⟨0xa9ff, "CHAM LETTER ", [";A;I;U;E;AI;O;KA;KHA;GA;GHA;NGUE;NGA;CHA;CHHA;JA;JHA;NHUE;NHA;NHJA",
    "TA;THA;DA;DHA;NUE;NA;DDA;PA;PPA;PHA;BA;BHA;MUE;MA;BBA;YA;RA;LA;VA;SSA;SA;HA"]⟩,
  ⟨0xaa29, "CHAM VOWEL SIGN ", ["AA;I;II;EI;U;OE;O;AI;AU;UE"]⟩,
  ⟨0xaa33, "CHAM CONSONANT SIGN ", ["YA;RA;LA;WA"]⟩,
  ⟨0xaa40, "CHAM LETTER FINAL ", ["K;G;NG"]⟩,
  ⟨0xaa43, "CHAM CONSONANT SIGN FINAL N", ["G"]⟩,
  ⟨0xaa44, "CHAM LETTER FINAL ", ["CH;T;N;P;Y;R;L;SS"]⟩,
  ⟨0xaa4c, "CHAM CONSONANT SIGN FINAL ", ["M;H"]⟩,
  ⟨0xaa4e, "CHAM DIGIT ", [";;ZERO;ONE;TWO;THREE;FOUR;FIVE;SIX;SEVEN;EIGHT;NINE"]⟩,
  ⟨0xaa5a, "CHAM PUNCTUATION ", [";;SPIRAL;DANDA;DOUBLE DANDA;TRIPLE DANDA"]⟩,
  ⟨0xaa60, "MYANMAR LETTER KHAMTI ", ["GA;CA;CHA;JA;JHA;NYA;TTA;TTHA;DDA;DDHA;DHA;NA;SA;HA;HHA",
    "FA"]⟩,
  ⟨0xaa70, "MYANMAR MODIFIER LETTER KHAMTI REDUPLICATIO", ["N"]⟩,
  ⟨0xaa71, "MYANMAR LETTER KHAMTI ", ["XA;ZA;RA"]⟩,
  ⟨0xaa74, "MYANMAR LOGOGRAM KHAMTI ", ["OAY;QN;HM"]⟩,
  ⟨0xaa77, "MYANMAR SYMBOL AITON ", ["EXCLAMATION;ONE;TWO"]⟩,
  ⟨0xaa7a, "MYANMAR ", ["LETTER AITON RA;SIGN PAO KAREN TONE"]⟩,
  ⟨0xaa7c, "MYANMAR SIGN TAI LAING TONE-", ["2;5"]⟩,
  ⟨0xaa7e, "MYANMAR LETTER SHWE PALAUNG ", ["CHA;SHA"]⟩,
  ⟨0xaa80, "TAI VIET LETTER ", ["LOW KO;HIGH KO;LOW KHO;HIGH KHO;LOW KHHO;HIGH KHHO;LOW GO",
    "HIGH GO;LOW NGO;HIGH NGO;LOW CO;HIGH CO;LOW CHO;HIGH CHO;LOW SO;HIGH SO;LOW NYO;HIGH NYO",
    "LOW DO;HIGH DO;LOW TO;HIGH TO;LOW THO;HIGH THO;LOW NO;HIGH NO;LOW BO;HIGH BO;LOW PO;HIGH PO",
    "LOW PHO;HIGH PHO;LOW FO;HIGH FO;LOW MO;HIGH MO;LOW YO;HIGH YO;LOW RO;HIGH RO;LOW LO;HIGH LO",
    "LOW VO;HIGH VO;LOW HO;HIGH HO;LOW O;HIGH O"]⟩,
  ⟨0xaab0, "TAI VIET MAI KAN", ["G"]⟩,
  ⟨0xaab1, "TAI VIET VOWEL ", ["AA;I;UE;U;E;O"]⟩,
  ⟨0xaab7, "TAI VIET MAI KHI", ["T"]⟩,
  ⟨0xaab8, "TAI VIET VOWEL ", ["IA;UEA;UA;AUE;AY;AN;AM"]⟩,
  ⟨0xaabf, "TAI VIET TONE MAI ", ["EK;NUENG;THO;SONG"]⟩,
  ⟨0xaadb, "TAI VIET SYMBOL ", ["KON;NUENG;SAM;HO HOI;KOI KOI"]⟩,
  ⟨0xaae0, "MEETEI MAYEK LETTER ", ["E;O;CHA;NYA;TTA;TTHA;DDA;DDHA;NNA;SHA;SSA"]⟩,
  ⟨0xaaeb, "MEETEI MAYEK VOWEL SIGN ", ["II;UU;AAI;AU;AAU"]⟩,
  ⟨0xaaf0, "MEETEI MAYEK ", ["CHEIKHAN;AHANG KHUDAM;ANJI;SYLLABLE REPETITION MARK",
    "WORD REPETITION MARK;VOWEL SIGN VISARGA;VIRAMA"]⟩,
  ⟨0xab01, "ETHIOPIC SYLLABLE TTH", ["U;I;AA;EE;E;O"]⟩,
  ⟨0xab07, "ETHIOPIC SYLLABLE D", [";;DHU;DHI;DHAA;DHEE;DHE;DHO;;;ZU;ZI;ZAA;ZEE;ZE;ZO"]⟩,
  ⟨0xab20, "ETHIOPIC SYLLABLE CCHH", ["A;U;I;AA;EE;E;O"]⟩,
  ⟨0xab27, "ETHIOPIC SYLLABLE BB", [";A;U;I;AA;EE;E;O"]⟩,
  ⟨0xab2f, "LATIN SMALL LETTER ", [";BARRED ALPHA;A REVERSED-SCHWA;BLACKLETTER E;BARRED E",
    "E WITH FLOURISH;LENIS F;SCRIPT G WITH CROSSED-TAIL;L WITH INVERTED LAZY S",
    "L WITH DOUBLE MIDDLE TILDE;L WITH MIDDLE RING;M WITH CROSSED-TAIL;N WITH CROSSED-TAIL",
    "ENG WITH CROSSED-TAIL;BLACKLETTER O;BLACKLETTER O WITH STROKE;OPEN O WITH STROKE",
    "INVERTED OE;TURNED OE WITH STROKE;TURNED OE WITH HORIZONTAL STROKE;TURNED O OPEN-O",
    "TURNED O OPEN-O WITH STROKE;STIRRUP R"]⟩,
  ⟨0xab46, "LATIN LETTER SMALL CAPITAL R WITH RIGHT LE", ["G"]⟩,
  ⟨0xab47, "LATIN SMALL LETTER ", ["R WITHOUT HANDLE;DOUBLE R;R WITH CROSSED-TAIL",
    "DOUBLE R WITH CROSSED-TAIL;SCRIPT R;SCRIPT R WITH RING;BASELINE ESH;U WITH SHORT RIGHT LEG",
    "U BAR WITH SHORT RIGHT LEG;UI;TURNED UI;U WITH LEFT HOOK;CHI;CHI WITH LOW RIGHT RING",
    "CHI WITH LOW LEFT SERIF;X WITH LOW RIGHT RING;X WITH LONG LEFT LEG",
    "X WITH LONG LEFT LEG AND LOW RIGHT RING;X WITH LONG LEFT LEG WITH SERIF",
    "Y WITH SHORT RIGHT LEG"]⟩,
  ⟨0xab5b, "MODIFIER BREVE WITH INVERTED BREV", ["E"]⟩,
  ⟨0xab5c, "MODIFIER LETTER SMALL ", ["HENG;L WITH INVERTED LAZY S;L WITH MIDDLE TILDE",
    "U WITH LEFT HOOK"]⟩,
  ⟨0xab60, "LATIN SMALL LETTER ", ["SAKHA YAT;IOTIFIED E;OPEN OE;UO;INVERTED ALPHA"]⟩,
  ⟨0xab65, "GREEK LETTER SMALL CAPITAL OMEG", ["A"]⟩,
  ⟨0xab66, "LATIN SMALL LETTER ", ["DZ DIGRAPH WITH RETROFLEX HOOK",
    "TS DIGRAPH WITH RETROFLEX HOOK;TURNED R WITH MIDDLE TILDE"]⟩,
  ⟨0xab69, "MODIFIER LETTER ", ["SMALL TURNED W;LEFT TACK;RIGHT TACK"]⟩,
  ⟨0xab6c, "CHEROKEE SMALL LETTER ", [";;;;A;E;I;O;U;V;GA;KA;GE;GI;GO;GU;GV;HA;HE;HI;HO;HU;HV",
    "LA;LE;LI;LO;LU;LV;MA;ME;MI;MO;MU;NA;HNA;NAH;NE;NI;NO;NU;NV;QUA;QUE;QUI;QUO;QUU;QUV;SA;S;SE",
    "SI;SO;SU;SV;DA;TA;DE;TE;DI;TI;DO;DU;DV;DLA;TLA;TLE;TLI;TLO;TLU;TLV;TSA;TSE;TSI;TSO;TSU;TSV",
    "WA;WE;WI;WO;WU;WV;YA"]⟩,
  ⟨0xabc0, "MEETEI MAYEK LETTER ", ["KOK;SAM;LAI;MIT;PA;NA;CHIL;TIL;KHOU;NGOU;THOU;WAI;YANG;HUK",
    "UN;I;PHAM;ATIYA;GOK;JHAM;RAI;BA;JIL;DIL;GHOU;DHOU;BHAM;KOK LONSUM;LAI LONSUM;MIT LONSUM",
    "PA LONSUM;NA LONSUM;TIL LONSUM;NGOU LONSUM;I LONSUM"]⟩,
  ⟨0xabe3, "MEETEI MAYEK VOWEL SIGN ", ["ONAP;INAP;ANAP;YENAP;SOUNAP;UNAP;CHEINAP;NUNG"]⟩,
  ⟨0xabeb, "MEETEI MAYEK ", ["CHEIKHEI;LUM IYEK;APUN IYEK"]⟩]

/-- Scripts from Glagolitic on, those of East Asia, and compatibility forms, from U+ABEE on. -/
def eastAsiaPartD : List Block := [
  ⟨0xabee, "MEETEI MAYEK DIGIT ", [";;ZERO;ONE;TWO;THREE;FOUR;FIVE;SIX;SEVEN;EIGHT;NINE"]⟩,
  ⟨0xd7b0, "HANGUL JUNGSEONG ", ["O-YEO;O-O-I;YO-A;YO-AE;YO-EO;U-YEO;U-I-I;YU-AE;YU-O;EU-A",
    "EU-EO;EU-E;EU-O;I-YA-O;I-YAE;I-YEO;I-YE;I-O-I;I-YO;I-YU;I-I;ARAEA-A;ARAEA-E"]⟩,
  ⟨0xd7c7, "HANGUL JONGSEONG ", [";;;;NIEUN-RIEUL;NIEUN-CHIEUCH;SSANGTIKEUT;SSANGTIKEUT-PIEUP",
    "TIKEUT-PIEUP;TIKEUT-SIOS;TIKEUT-SIOS-KIYEOK;TIKEUT-CIEUC;TIKEUT-CHIEUCH;TIKEUT-THIEUTH",
    "RIEUL-SSANGKIYEOK;RIEUL-KIYEOK-HIEUH;SSANGRIEUL-KHIEUKH;RIEUL-MIEUM-HIEUH",
    "RIEUL-PIEUP-TIKEUT;RIEUL-PIEUP-PHIEUPH;RIEUL-YESIEUNG;RIEUL-YEORINHIEUH-HIEUH;KAPYEOUNRIEUL",
    "MIEUM-NIEUN;MIEUM-SSANGNIEUN;SSANGMIEUM;MIEUM-PIEUP-SIOS;MIEUM-CIEUC;PIEUP-TIKEUT",
    "PIEUP-RIEUL-PHIEUPH;PIEUP-MIEUM;SSANGPIEUP;PIEUP-SIOS-TIKEUT;PIEUP-CIEUC;PIEUP-CHIEUCH",
    "SIOS-MIEUM;SIOS-KAPYEOUNPIEUP;SSANGSIOS-KIYEOK;SSANGSIOS-TIKEUT;SIOS-PANSIOS;SIOS-CIEUC",
    "SIOS-CHIEUCH;SIOS-THIEUTH;SIOS-HIEUH;PANSIOS-PIEUP;PANSIOS-KAPYEOUNPIEUP;YESIEUNG-MIEUM",
    "YESIEUNG-HIEUH;CIEUC-PIEUP;CIEUC-SSANGPIEUP;SSANGCIEUC;PHIEUPH-SIOS;PHIEUPH-THIEUTH"]⟩,
  ⟨0xfb00, "LATIN SMALL LIGATURE ", ["FF;FI;FL;FFI;FFL;LONG S T;ST"]⟩,
  ⟨0xfb13, "ARMENIAN SMALL LIGATURE ", ["MEN NOW;MEN ECH;MEN INI;VEW NOW;MEN XEH"]⟩,
  ⟨0xfb18, "HEBREW ", [";;;;;LETTER YOD WITH HIRIQ;POINT JUDEO-SPANISH VARIKA",
    "LIGATURE YIDDISH YOD YOD PATAH;LETTER ALTERNATIVE AYIN"]⟩,
  ⟨0xfb21, "HEBREW LETTER WIDE ", ["ALEF;DALET;HE;KAF;LAMED;FINAL MEM;RESH;TAV"]⟩,
  ⟨0xfb29, "HEBREW LETTER ", ["ALTERNATIVE PLUS SIGN;SHIN WITH SHIN DOT;SHIN WITH SIN DOT",
    "SHIN WITH DAGESH AND SHIN DOT;SHIN WITH DAGESH AND SIN DOT;ALEF WITH PATAH;ALEF WITH QAMATS",
    "ALEF WITH MAPIQ;BET WITH DAGESH;GIMEL WITH DAGESH;DALET WITH DAGESH;HE WITH MAPIQ",
    "VAV WITH DAGESH;ZAYIN WITH DAGESH;;TET WITH DAGESH;YOD WITH DAGESH;FINAL KAF WITH DAGESH",
    "KAF WITH DAGESH;LAMED WITH DAGESH;;MEM WITH DAGESH;;NUN WITH DAGESH;SAMEKH WITH DAGESH;",
    "FINAL PE WITH DAGESH;PE WITH DAGESH;;TSADI WITH DAGESH;QOF WITH DAGESH;RESH WITH DAGESH",
    "SHIN WITH DAGESH;TAV WITH DAGESH;VAV WITH HOLAM;BET WITH RAFE;KAF WITH RAFE;PE WITH RAFE"]⟩,
  ⟨0xfb4f, "HEBREW LIGATURE ALEF LAME", ["D"]⟩,
  ⟨0xfb50, "ARABIC LETTER ", ["ALEF WASLA ISOLATED FORM;ALEF WASLA FINAL FORM",
    "BEEH ISOLATED FORM;BEEH FINAL FORM;BEEH INITIAL FORM;BEEH MEDIAL FORM;PEH ISOLATED FORM",
    "PEH FINAL FORM;PEH INITIAL FORM;PEH MEDIAL FORM;BEHEH ISOLATED FORM;BEHEH FINAL FORM",
    "BEHEH INITIAL FORM;BEHEH MEDIAL FORM;TTEHEH ISOLATED FORM;TTEHEH FINAL FORM",
    "TTEHEH INITIAL FORM;TTEHEH MEDIAL FORM;TEHEH ISOLATED FORM;TEHEH FINAL FORM",
    "TEHEH INITIAL FORM;TEHEH MEDIAL FORM;TTEH ISOLATED FORM;TTEH FINAL FORM;TTEH INITIAL FORM",
    "TTEH MEDIAL FORM;VEH ISOLATED FORM;VEH FINAL FORM;VEH INITIAL FORM;VEH MEDIAL FORM",
    "PEHEH ISOLATED FORM;PEHEH FINAL FORM;PEHEH INITIAL FORM;PEHEH MEDIAL FORM",
    "DYEH ISOLATED FORM;DYEH FINAL FORM;DYEH INITIAL FORM;DYEH MEDIAL FORM;NYEH ISOLATED FORM",
    "NYEH FINAL FORM;NYEH INITIAL FORM;NYEH MEDIAL FORM"]⟩,
  ⟨0xfb7a, "ARABIC LETTER TCHEH", [" ISOLATED FORM; FINAL FORM; INITIAL FORM; MEDIAL FORM",
    "EH ISOLATED FORM;EH FINAL FORM;EH INITIAL FORM;EH MEDIAL FORM"]⟩,
  ⟨0xfb82, "ARABIC LETTER ", ["DDAHAL ISOLATED FORM;DDAHAL FINAL FORM;DAHAL ISOLATED FORM",
    "DAHAL FINAL FORM;DUL ISOLATED FORM;DUL FINAL FORM;DDAL ISOLATED FORM;DDAL FINAL FORM",
    "JEH ISOLATED FORM;JEH FINAL FORM;RREH ISOLATED FORM;RREH FINAL FORM;KEHEH ISOLATED FORM",
    "KEHEH FINAL FORM;KEHEH INITIAL FORM;KEHEH MEDIAL FORM;GAF ISOLATED FORM;GAF FINAL FORM",
    "GAF INITIAL FORM;GAF MEDIAL FORM;GUEH ISOLATED FORM;GUEH FINAL FORM;GUEH INITIAL FORM",
    "GUEH MEDIAL FORM;NGOEH ISOLATED FORM;NGOEH FINAL FORM;NGOEH INITIAL FORM;NGOEH MEDIAL FORM",
    "NOON GHUNNA ISOLATED FORM;NOON GHUNNA FINAL FORM"]⟩,
  ⟨0xfba0, "ARABIC LETTER RNOON ", ["ISOLATED FORM;FINAL FORM;INITIAL FORM;MEDIAL FORM"]⟩,
  ⟨0xfba4, "ARABIC LETTER HEH WITH YEH ABOVE ", ["ISOLATED FORM;FINAL FORM"]⟩,
  ⟨0xfba6, "ARABIC LETTER HEH GOAL ", ["ISOLATED FORM;FINAL FORM;INITIAL FORM;MEDIAL FORM"]⟩,
  ⟨0xfbaa, "ARABIC LETTER HEH DOACHASHMEE ", ["ISOLATED FORM;FINAL FORM;INITIAL FORM",
    "MEDIAL FORM"]⟩,
  ⟨0xfbae, "ARABIC LETTER YEH BARREE ", ["ISOLATED FORM;FINAL FORM",
    "WITH HAMZA ABOVE ISOLATED FORM;WITH HAMZA ABOVE FINAL FORM"]⟩,
  ⟨0xfbb2, "ARABIC SYMBOL ", ["DOT ABOVE;DOT BELOW;TWO DOTS ABOVE;TWO DOTS BELOW",
    "THREE DOTS ABOVE;THREE DOTS BELOW;THREE DOTS POINTING DOWNWARDS ABOVE",
    "THREE DOTS POINTING DOWNWARDS BELOW;FOUR DOTS ABOVE;FOUR DOTS BELOW",
    "DOUBLE VERTICAL BAR BELOW;TWO DOTS VERTICALLY ABOVE;TWO DOTS VERTICALLY BELOW;RING",
    "SMALL TAH ABOVE;SMALL TAH BELOW;WASLA ABOVE"]⟩,
  ⟨0xfbd3, "ARABIC LETTER ", ["NG ISOLATED FORM;NG FINAL FORM;NG INITIAL FORM;NG MEDIAL FORM",
    "U ISOLATED FORM;U FINAL FORM;OE ISOLATED FORM;OE FINAL FORM;YU ISOLATED FORM;YU FINAL FORM",
    "U WITH HAMZA ABOVE ISOLATED FORM;VE ISOLATED FORM;VE FINAL FORM;KIRGHIZ OE ISOLATED FORM",
    "KIRGHIZ OE FINAL FORM;KIRGHIZ YU ISOLATED FORM;KIRGHIZ YU FINAL FORM;E ISOLATED FORM",
    "E FINAL FORM;E INITIAL FORM;E MEDIAL FORM"]⟩,
  ⟨0xfbe8, "ARABIC LETTER UIGHUR KAZAKH KIRGHIZ ALEF MAKSURA ", ["INITIAL FORM;MEDIAL FORM"]⟩,
  ⟨0xfbea, "ARABIC LIGATURE YEH WITH HAMZA ABOVE WITH ", ["ALEF ISOLATED FORM;ALEF FINAL FORM",
    "AE ISOLATED FORM;AE FINAL FORM;WAW ISOLATED FORM;WAW FINAL FORM;U ISOLATED FORM",
    "U FINAL FORM;OE ISOLATED FORM;OE FINAL FORM;YU ISOLATED FORM;YU FINAL FORM;E ISOLATED FORM",
    "E FINAL FORM;E INITIAL FORM"]⟩,
  ⟨0xfbf9, "ARABIC LIGATURE UIGHUR KIRGHIZ YEH WITH HAMZA ABOVE WITH ALEF MAKSURA ", ["ISOLATED FORM",
    "FINAL FORM;INITIAL FORM"]⟩,
  ⟨0xfbfc, "ARABIC LETTER FARSI YEH ", ["ISOLATED FORM;FINAL FORM;INITIAL FORM;MEDIAL FORM"]⟩,
  ⟨0xfc00, "ARABIC LIGATURE YEH WITH HAMZA ABOVE WITH ", ["JEEM ISOLATED FORM;HAH ISOLATED FORM",
    "MEEM ISOLATED FORM;ALEF MAKSURA ISOLATED FORM;YEH ISOLATED FORM"]⟩,
  ⟨0xfc05, "ARABIC LIGATURE BEH WITH ", ["JEEM ISOLATED FORM;HAH ISOLATED FORM",
    "KHAH ISOLATED FORM;MEEM ISOLATED FORM;ALEF MAKSURA ISOLATED FORM;YEH ISOLATED FORM"]⟩,
  ⟨0xfc0b, "ARABIC LIGATURE TEH WITH ", ["JEEM ISOLATED FORM;HAH ISOLATED FORM",
    "KHAH ISOLATED FORM;MEEM ISOLATED FORM;ALEF MAKSURA ISOLATED FORM;YEH ISOLATED FORM"]⟩,
  ⟨0xfc11, "ARABIC LIGATURE THEH WITH ", ["JEEM ISOLATED FORM;MEEM ISOLATED FORM",
    "ALEF MAKSURA ISOLATED FORM;YEH ISOLATED FORM"]⟩,
  ⟨0xfc15, "ARABIC LIGATURE ", ["JEEM WITH HAH ISOLATED FORM;JEEM WITH MEEM ISOLATED FORM",
    "HAH WITH JEEM ISOLATED FORM;HAH WITH MEEM ISOLATED FORM;KHAH WITH JEEM ISOLATED FORM",
    "KHAH WITH HAH ISOLATED FORM;KHAH WITH MEEM ISOLATED FORM;SEEN WITH JEEM ISOLATED FORM",
    "SEEN WITH HAH ISOLATED FORM;SEEN WITH KHAH ISOLATED FORM;SEEN WITH MEEM ISOLATED FORM",
    "SAD WITH HAH ISOLATED FORM;SAD WITH MEEM ISOLATED FORM;DAD WITH JEEM ISOLATED FORM",
    "DAD WITH HAH ISOLATED FORM;DAD WITH KHAH ISOLATED FORM;DAD WITH MEEM ISOLATED FORM",
    "TAH WITH HAH ISOLATED FORM;TAH WITH MEEM ISOLATED FORM;ZAH WITH MEEM ISOLATED FORM",
    "AIN WITH JEEM ISOLATED FORM;AIN WITH MEEM ISOLATED FORM;GHAIN WITH JEEM ISOLATED FORM",
    "GHAIN WITH MEEM ISOLATED FORM"]⟩,
  ⟨0xfc2d, "ARABIC LIGATURE FEH WITH ", ["JEEM ISOLATED FORM;HAH ISOLATED FORM",
    "KHAH ISOLATED FORM;MEEM ISOLATED FORM;ALEF MAKSURA ISOLATED FORM;YEH ISOLATED FORM"]⟩,
  ⟨0xfc33, "ARABIC LIGATURE QAF WITH ", ["HAH ISOLATED FORM;MEEM ISOLATED FORM",
    "ALEF MAKSURA ISOLATED FORM;YEH ISOLATED FORM"]⟩,
  ⟨0xfc37, "ARABIC LIGATURE KAF WITH ", ["ALEF ISOLATED FORM;JEEM ISOLATED FORM",
    "HAH ISOLATED FORM;KHAH ISOLATED FORM;LAM ISOLATED FORM;MEEM ISOLATED FORM",
    "ALEF MAKSURA ISOLATED FORM;YEH ISOLATED FORM"]⟩,
  ⟨0xfc3f, "ARABIC LIGATURE LAM WITH ", ["JEEM ISOLATED FORM;HAH ISOLATED FORM",
    "KHAH ISOLATED FORM;MEEM ISOLATED FORM;ALEF MAKSURA ISOLATED FORM;YEH ISOLATED FORM"]⟩,
  ⟨0xfc45, "ARABIC LIGATURE MEEM WITH ", ["JEEM ISOLATED FORM;HAH ISOLATED FORM",
    "KHAH ISOLATED FORM;MEEM ISOLATED FORM;ALEF MAKSURA ISOLATED FORM;YEH ISOLATED FORM"]⟩,
  ⟨0xfc4b, "ARABIC LIGATURE NOON WITH ", ["JEEM ISOLATED FORM;HAH ISOLATED FORM",
    "KHAH ISOLATED FORM;MEEM ISOLATED FORM;ALEF MAKSURA ISOLATED FORM;YEH ISOLATED FORM"]⟩,
  ⟨0xfc51, "ARABIC LIGATURE HEH WITH ", ["JEEM ISOLATED FORM;MEEM ISOLATED FORM",
    "ALEF MAKSURA ISOLATED FORM;YEH ISOLATED FORM"]⟩,
  ⟨0xfc55, "ARABIC LIGATURE YEH WITH ", ["JEEM ISOLATED FORM;HAH ISOLATED FORM",
    "KHAH ISOLATED FORM;MEEM ISOLATED FORM;ALEF MAKSURA ISOLATED FORM;YEH ISOLATED FORM"]⟩,
  ⟨0xfc5b, "ARABIC LIGATURE ", ["THAL WITH SUPERSCRIPT ALEF ISOLATED FORM",
    "REH WITH SUPERSCRIPT ALEF ISOLATED FORM;ALEF MAKSURA WITH SUPERSCRIPT ALEF ISOLATED FORM"]⟩,
  ⟨0xfc5e, "ARABIC LIGATURE SHADDA WITH ", ["DAMMATAN ISOLATED FORM;KASRATAN ISOLATED FORM",
    "FATHA ISOLATED FORM;DAMMA ISOLATED FORM;KASRA ISOLATED FORM;SUPERSCRIPT ALEF ISOLATED FORM"]⟩,
  ⟨0xfc64, "ARABIC LIGATURE YEH WITH HAMZA ABOVE WITH ", ["REH FINAL FORM;ZAIN FINAL FORM",
    "MEEM FINAL FORM;NOON FINAL FORM;ALEF MAKSURA FINAL FORM;YEH FINAL FORM"]⟩,
  ⟨0xfc6a, "ARABIC LIGATURE BEH WITH ", ["REH FINAL FORM;ZAIN FINAL FORM;MEEM FINAL FORM",
    "NOON FINAL FORM;ALEF MAKSURA FINAL FORM;YEH FINAL FORM"]⟩,
  ⟨0xfc70, "ARABIC LIGATURE TEH WITH ", ["REH FINAL FORM;ZAIN FINAL FORM;MEEM FINAL FORM",
    "NOON FINAL FORM;ALEF MAKSURA FINAL FORM;YEH FINAL FORM"]⟩,
  ⟨0xfc76, "ARABIC LIGATURE THEH WITH ", ["REH FINAL FORM;ZAIN FINAL FORM;MEEM FINAL FORM",
    "NOON FINAL FORM;ALEF MAKSURA FINAL FORM;YEH FINAL FORM"]⟩,
  ⟨0xfc7c, "ARABIC LIGATURE ", ["FEH WITH ALEF MAKSURA FINAL FORM;FEH WITH YEH FINAL FORM",
    "QAF WITH ALEF MAKSURA FINAL FORM;QAF WITH YEH FINAL FORM"]⟩,
  ⟨0xfc80, "ARABIC LIGATURE KAF WITH ", ["ALEF FINAL FORM;LAM FINAL FORM;MEEM FINAL FORM",
    "ALEF MAKSURA FINAL FORM;YEH FINAL FORM"]⟩,
  ⟨0xfc85, "ARABIC LIGATURE LAM WITH ", ["MEEM FINAL FORM;ALEF MAKSURA FINAL FORM",
    "YEH FINAL FORM"]⟩,
  ⟨0xfc88, "ARABIC LIGATURE MEEM WITH ", ["ALEF FINAL FORM;MEEM FINAL FORM"]⟩,
  ⟨0xfc8a, "ARABIC LIGATURE NOON WITH ", ["REH FINAL FORM;ZAIN FINAL FORM;MEEM FINAL FORM",
    "NOON FINAL FORM;ALEF MAKSURA FINAL FORM;YEH FINAL FORM"]⟩,
  ⟨0xfc90, "ARABIC LIGATURE ALEF MAKSURA WITH SUPERSCRIPT ALEF FINAL FOR", ["M"]⟩,
  ⟨0xfc91, "ARABIC LIGATURE YEH WITH ", ["REH FINAL FORM;ZAIN FINAL FORM;MEEM FINAL FORM",
    "NOON FINAL FORM;ALEF MAKSURA FINAL FORM;YEH FINAL FORM"]⟩,
  ⟨0xfc97, "ARABIC LIGATURE YEH WITH HAMZA ABOVE WITH ", ["JEEM INITIAL FORM;HAH INITIAL FORM",
    "KHAH INITIAL FORM;MEEM INITIAL FORM;HEH INITIAL FORM"]⟩,
  ⟨0xfc9c, "ARABIC LIGATURE BEH WITH ", ["JEEM INITIAL FORM;HAH INITIAL FORM;KHAH INITIAL FORM",
    "MEEM INITIAL FORM;HEH INITIAL FORM"]⟩,
  ⟨0xfca1, "ARABIC LIGATURE TEH WITH ", ["JEEM INITIAL FORM;HAH INITIAL FORM;KHAH INITIAL FORM",
    "MEEM INITIAL FORM;HEH INITIAL FORM"]⟩,
  ⟨0xfca6, "ARABIC LIGATURE ", ["THEH WITH MEEM INITIAL FORM;JEEM WITH HAH INITIAL FORM",
    "JEEM WITH MEEM INITIAL FORM;HAH WITH JEEM INITIAL FORM;HAH WITH MEEM INITIAL FORM",
    "KHAH WITH JEEM INITIAL FORM;KHAH WITH MEEM INITIAL FORM;SEEN WITH JEEM INITIAL FORM",
    "SEEN WITH HAH INITIAL FORM;SEEN WITH KHAH INITIAL FORM;SEEN WITH MEEM INITIAL FORM",
    "SAD WITH HAH INITIAL FORM;SAD WITH KHAH INITIAL FORM;SAD WITH MEEM INITIAL FORM",
    "DAD WITH JEEM INITIAL FORM;DAD WITH HAH INITIAL FORM;DAD WITH KHAH INITIAL FORM",
    "DAD WITH MEEM INITIAL FORM;TAH WITH HAH INITIAL FORM;ZAH WITH MEEM INITIAL FORM",
    "AIN WITH JEEM INITIAL FORM;AIN WITH MEEM INITIAL FORM;GHAIN WITH JEEM INITIAL FORM",
    "GHAIN WITH MEEM INITIAL FORM;FEH WITH JEEM INITIAL FORM;FEH WITH HAH INITIAL FORM",
    "FEH WITH KHAH INITIAL FORM;FEH WITH MEEM INITIAL FORM;QAF WITH HAH INITIAL FORM",
    "QAF WITH MEEM INITIAL FORM"]⟩,
  ⟨0xfcc4, "ARABIC LIGATURE KAF WITH ", ["JEEM INITIAL FORM;HAH INITIAL FORM;KHAH INITIAL FORM",
    "LAM INITIAL FORM;MEEM INITIAL FORM"]⟩,
  ⟨0xfcc9, "ARABIC LIGATURE LAM WITH ", ["JEEM INITIAL FORM;HAH INITIAL FORM;KHAH INITIAL FORM",
    "MEEM INITIAL FORM;HEH INITIAL FORM"]⟩,
  ⟨0xfcce, "ARABIC LIGATURE MEEM WITH ", ["JEEM INITIAL FORM;HAH INITIAL FORM;KHAH INITIAL FORM",
    "MEEM INITIAL FORM"]⟩,
  ⟨0xfcd2, "ARABIC LIGATURE NOON WITH ", ["JEEM INITIAL FORM;HAH INITIAL FORM;KHAH INITIAL FORM",
    "MEEM INITIAL FORM;HEH INITIAL FORM"]⟩,
  ⟨0xfcd7, "ARABIC LIGATURE HEH WITH ", ["JEEM INITIAL FORM;MEEM INITIAL FORM",
    "SUPERSCRIPT ALEF INITIAL FORM"]⟩,
  ⟨0xfcda, "ARABIC LIGATURE YEH WITH ", ["JEEM INITIAL FORM;HAH INITIAL FORM;KHAH INITIAL FORM",
    "MEEM INITIAL FORM;HEH INITIAL FORM;HAMZA ABOVE WITH MEEM MEDIAL FORM",
    "HAMZA ABOVE WITH HEH MEDIAL FORM"]⟩,
  ⟨0xfce1, "ARABIC LIGATURE ", ["BEH WITH MEEM MEDIAL FORM;BEH WITH HEH MEDIAL FORM",
    "TEH WITH MEEM MEDIAL FORM;TEH WITH HEH MEDIAL FORM;THEH WITH MEEM MEDIAL FORM",
    "THEH WITH HEH MEDIAL FORM;SEEN WITH MEEM MEDIAL FORM;SEEN WITH HEH MEDIAL FORM",
    "SHEEN WITH MEEM MEDIAL FORM;SHEEN WITH HEH MEDIAL FORM;KAF WITH LAM MEDIAL FORM",
    "KAF WITH MEEM MEDIAL FORM;LAM WITH MEEM MEDIAL FORM;NOON WITH MEEM MEDIAL FORM",
    "NOON WITH HEH MEDIAL FORM;YEH WITH MEEM MEDIAL FORM;YEH WITH HEH MEDIAL FORM",
    "SHADDA WITH FATHA MEDIAL FORM;SHADDA WITH DAMMA MEDIAL FORM;SHADDA WITH KASRA MEDIAL FORM",
    "TAH WITH ALEF MAKSURA ISOLATED FORM;TAH WITH YEH ISOLATED FORM",
    "AIN WITH ALEF MAKSURA ISOLATED FORM;AIN WITH YEH ISOLATED FORM",
    "GHAIN WITH ALEF MAKSURA ISOLATED FORM;GHAIN WITH YEH ISOLATED FORM",
    "SEEN WITH ALEF MAKSURA ISOLATED FORM;SEEN WITH YEH ISOLATED FORM",
    "SHEEN WITH ALEF MAKSURA ISOLATED FORM;SHEEN WITH YEH ISOLATED FORM",
    "HAH WITH ALEF MAKSURA ISOLATED FORM;HAH WITH YEH ISOLATED FORM",
    "JEEM WITH ALEF MAKSURA ISOLATED FORM;JEEM WITH YEH ISOLATED FORM",
    "KHAH WITH ALEF MAKSURA ISOLATED FORM;KHAH WITH YEH ISOLATED FORM",
    "SAD WITH ALEF MAKSURA ISOLATED FORM;SAD WITH YEH ISOLATED FORM",
    "DAD WITH ALEF MAKSURA ISOLATED FORM;DAD WITH YEH ISOLATED FORM"]⟩,
  ⟨0xfd09, "ARABIC LIGATURE SHEEN WITH ", ["JEEM ISOLATED FORM;HAH ISOLATED FORM",
    "KHAH ISOLATED FORM;MEEM ISOLATED FORM;REH ISOLATED FORM"]⟩,
  ⟨0xfd0e, "ARABIC LIGATURE ", ["SEEN WITH REH ISOLATED FORM;SAD WITH REH ISOLATED FORM",
    "DAD WITH REH ISOLATED FORM;TAH WITH ALEF MAKSURA FINAL FORM;TAH WITH YEH FINAL FORM",
    "AIN WITH ALEF MAKSURA FINAL FORM;AIN WITH YEH FINAL FORM;GHAIN WITH ALEF MAKSURA FINAL FORM",
    "GHAIN WITH YEH FINAL FORM;SEEN WITH ALEF MAKSURA FINAL FORM;SEEN WITH YEH FINAL FORM",
    "SHEEN WITH ALEF MAKSURA FINAL FORM;SHEEN WITH YEH FINAL FORM",
    "HAH WITH ALEF MAKSURA FINAL FORM;HAH WITH YEH FINAL FORM;JEEM WITH ALEF MAKSURA FINAL FORM",
    "JEEM WITH YEH FINAL FORM;KHAH WITH ALEF MAKSURA FINAL FORM;KHAH WITH YEH FINAL FORM",
    "SAD WITH ALEF MAKSURA FINAL FORM;SAD WITH YEH FINAL FORM;DAD WITH ALEF MAKSURA FINAL FORM",
    "DAD WITH YEH FINAL FORM"]⟩,
  ⟨0xfd25, "ARABIC LIGATURE SHEEN WITH ", ["JEEM FINAL FORM;HAH FINAL FORM;KHAH FINAL FORM",
    "MEEM FINAL FORM;REH FINAL FORM"]⟩,
  ⟨0xfd2a, "ARABIC LIGATURE ", ["SEEN WITH REH FINAL FORM;SAD WITH REH FINAL FORM",
    "DAD WITH REH FINAL FORM;SHEEN WITH JEEM INITIAL FORM;SHEEN WITH HAH INITIAL FORM",
    "SHEEN WITH KHAH INITIAL FORM;SHEEN WITH MEEM INITIAL FORM;SEEN WITH HEH INITIAL FORM",
    "SHEEN WITH HEH INITIAL FORM;TAH WITH MEEM INITIAL FORM;SEEN WITH JEEM MEDIAL FORM",
    "SEEN WITH HAH MEDIAL FORM;SEEN WITH KHAH MEDIAL FORM;SHEEN WITH JEEM MEDIAL FORM",
    "SHEEN WITH HAH MEDIAL FORM;SHEEN WITH KHAH MEDIAL FORM;TAH WITH MEEM MEDIAL FORM",
    "ZAH WITH MEEM MEDIAL FORM;ALEF WITH FATHATAN FINAL FORM;ALEF WITH FATHATAN ISOLATED FORM"]⟩,
  ⟨0xfd3e, "ORNATE ", ["LEFT PARENTHESIS;RIGHT PARENTHESIS"]⟩,
  ⟨0xfd40, "ARABIC LIGATURE RAHIMAHU ALLAA", ["H"]⟩,
  ⟨0xfd41, "ARABIC LIGATURE RADI ALLAAHU AN", ["H;HAA;HUM;HUMAA;HUNNA"]⟩,
  ⟨0xfd46, "ARABIC LIGATURE ", ["SALLALLAAHU ALAYHI WA-AALIH;ALAYHI AS-SALAAM;ALAYHIM AS-SALAAM",
    "ALAYHIMAA AS-SALAAM;ALAYHI AS-SALAATU WAS-SALAAM;QUDDISA SIRRAH",
    "SALLALLAHU ALAYHI WAAALIHEE WA-SALLAM;ALAYHAA AS-SALAAM;TABAARAKA WA-TAAALAA",
    "RAHIMAHUM ALLAAH"]⟩,
  ⟨0xfd50, "ARABIC LIGATURE TEH WITH ", ["JEEM WITH MEEM INITIAL FORM;HAH WITH JEEM FINAL FORM",
    "HAH WITH JEEM INITIAL FORM;HAH WITH MEEM INITIAL FORM;KHAH WITH MEEM INITIAL FORM",
    "MEEM WITH JEEM INITIAL FORM;MEEM WITH HAH INITIAL FORM;MEEM WITH KHAH INITIAL FORM"]⟩,
  ⟨0xfd58, "ARABIC LIGATURE JEEM WITH MEEM WITH HAH ", ["FINAL FORM;INITIAL FORM"]⟩,
  ⟨0xfd5a, "ARABIC LIGATURE HAH WITH MEEM WITH ", ["YEH FINAL FORM;ALEF MAKSURA FINAL FORM"]⟩,
  ⟨0xfd5c, "ARABIC LIGATURE SEEN WITH ", ["HAH WITH JEEM INITIAL FORM",
    "JEEM WITH HAH INITIAL FORM;JEEM WITH ALEF MAKSURA FINAL FORM"]⟩,
  ⟨0xfd5f, "ARABIC LIGATURE SEEN WITH MEEM WITH ", ["HAH FINAL FORM;HAH INITIAL FORM",
    "JEEM INITIAL FORM;MEEM FINAL FORM;MEEM INITIAL FORM"]⟩,
  ⟨0xfd64, "ARABIC LIGATURE SAD WITH ", ["HAH WITH HAH FINAL FORM;HAH WITH HAH INITIAL FORM",
    "MEEM WITH MEEM FINAL FORM"]⟩,
  ⟨0xfd67, "ARABIC LIGATURE SHEEN WITH ", ["HAH WITH MEEM FINAL FORM;HAH WITH MEEM INITIAL FORM",
    "JEEM WITH YEH FINAL FORM;MEEM WITH KHAH FINAL FORM;MEEM WITH KHAH INITIAL FORM",
    "MEEM WITH MEEM FINAL FORM;MEEM WITH MEEM INITIAL FORM"]⟩,
  ⟨0xfd6e, "ARABIC LIGATURE DAD WITH ", ["HAH WITH ALEF MAKSURA FINAL FORM",
    "KHAH WITH MEEM FINAL FORM;KHAH WITH MEEM INITIAL FORM"]⟩,
  ⟨0xfd71, "ARABIC LIGATURE TAH WITH MEEM WITH ", ["HAH FINAL FORM;HAH INITIAL FORM",
    "MEEM INITIAL FORM;YEH FINAL FORM"]⟩,
  ⟨0xfd75, "ARABIC LIGATURE AIN WITH ", ["JEEM WITH MEEM FINAL FORM;MEEM WITH MEEM FINAL FORM",
    "MEEM WITH MEEM INITIAL FORM;MEEM WITH ALEF MAKSURA FINAL FORM"]⟩,
  ⟨0xfd79, "ARABIC LIGATURE GHAIN WITH MEEM WITH ", ["MEEM FINAL FORM;YEH FINAL FORM",
    "ALEF MAKSURA FINAL FORM"]⟩,
  ⟨0xfd7c, "ARABIC LIGATURE FEH WITH KHAH WITH MEEM ", ["FINAL FORM;INITIAL FORM"]⟩,
  ⟨0xfd7e, "ARABIC LIGATURE QAF WITH MEEM WITH ", ["HAH FINAL FORM;MEEM FINAL FORM"]⟩,
  ⟨0xfd80, "ARABIC LIGATURE LAM WITH ", ["HAH WITH MEEM FINAL FORM;HAH WITH YEH FINAL FORM",
    "HAH WITH ALEF MAKSURA FINAL FORM;JEEM WITH JEEM INITIAL FORM;JEEM WITH JEEM FINAL FORM",
    "KHAH WITH MEEM FINAL FORM;KHAH WITH MEEM INITIAL FORM;MEEM WITH HAH FINAL FORM",
    "MEEM WITH HAH INITIAL FORM"]⟩,
  ⟨0xfd89, "ARABIC LIGATURE MEEM WITH ", ["HAH WITH JEEM INITIAL FORM",
    "HAH WITH MEEM INITIAL FORM;HAH WITH YEH FINAL FORM;JEEM WITH HAH INITIAL FORM",
    "JEEM WITH MEEM INITIAL FORM;KHAH WITH JEEM INITIAL FORM;KHAH WITH MEEM INITIAL FORM;;",
    "JEEM WITH KHAH INITIAL FORM"]⟩,
  ⟨0xfd93, "ARABIC LIGATURE HEH WITH MEEM WITH ", ["JEEM INITIAL FORM;MEEM INITIAL FORM"]⟩,
  ⟨0xfd95, "ARABIC LIGATURE NOON WITH ", ["HAH WITH MEEM INITIAL FORM",
    "HAH WITH ALEF MAKSURA FINAL FORM;JEEM WITH MEEM FINAL FORM;JEEM WITH MEEM INITIAL FORM",
    "JEEM WITH ALEF MAKSURA FINAL FORM;MEEM WITH YEH FINAL FORM",
    "MEEM WITH ALEF MAKSURA FINAL FORM"]⟩,
  ⟨0xfd9c, "ARABIC LIGATURE YEH WITH MEEM WITH MEEM ", ["FINAL FORM;INITIAL FORM"]⟩,
  ⟨0xfd9e, "ARABIC LIGATURE BEH WITH KHAH WITH YEH FINAL FOR", ["M"]⟩,
  ⟨0xfd9f, "ARABIC LIGATURE TEH WITH ", ["JEEM WITH YEH FINAL FORM",
    "JEEM WITH ALEF MAKSURA FINAL FORM;KHAH WITH YEH FINAL FORM",
    "KHAH WITH ALEF MAKSURA FINAL FORM;MEEM WITH YEH FINAL FORM",
    "MEEM WITH ALEF MAKSURA FINAL FORM"]⟩,
  ⟨0xfda5, "ARABIC LIGATURE JEEM WITH ", ["MEEM WITH YEH FINAL FORM",
    "HAH WITH ALEF MAKSURA FINAL FORM;MEEM WITH ALEF MAKSURA FINAL FORM"]⟩,
  ⟨0xfda8, "ARABIC LIGATURE ", ["SEEN WITH KHAH WITH ALEF MAKSURA FINAL FORM",
    "SAD WITH HAH WITH YEH FINAL FORM;SHEEN WITH HAH WITH YEH FINAL FORM",
    "DAD WITH HAH WITH YEH FINAL FORM;LAM WITH JEEM WITH YEH FINAL FORM",
    "LAM WITH MEEM WITH YEH FINAL FORM;YEH WITH HAH WITH YEH FINAL FORM",
    "YEH WITH JEEM WITH YEH FINAL FORM;YEH WITH MEEM WITH YEH FINAL FORM",
    "MEEM WITH MEEM WITH YEH FINAL FORM;QAF WITH MEEM WITH YEH FINAL FORM",
    "NOON WITH HAH WITH YEH FINAL FORM;QAF WITH MEEM WITH HAH INITIAL FORM",
    "LAM WITH HAH WITH MEEM INITIAL FORM;AIN WITH MEEM WITH YEH FINAL FORM",
    "KAF WITH MEEM WITH YEH FINAL FORM;NOON WITH JEEM WITH HAH INITIAL FORM",
    "MEEM WITH KHAH WITH YEH FINAL FORM;LAM WITH JEEM WITH MEEM INITIAL FORM",
    "KAF WITH MEEM WITH MEEM FINAL FORM;LAM WITH JEEM WITH MEEM FINAL FORM",
    "NOON WITH JEEM WITH HAH FINAL FORM;JEEM WITH HAH WITH YEH FINAL FORM",
    "HAH WITH JEEM WITH YEH FINAL FORM;MEEM WITH JEEM WITH YEH FINAL FORM",
    "FEH WITH MEEM WITH YEH FINAL FORM;BEH WITH HAH WITH YEH FINAL FORM",
    "KAF WITH MEEM WITH MEEM INITIAL FORM;AIN WITH JEEM WITH MEEM INITIAL FORM",
    "SAD WITH MEEM WITH MEEM INITIAL FORM;SEEN WITH KHAH WITH YEH FINAL FORM",
    "NOON WITH JEEM WITH YEH FINAL FORM;;;;;;;;SALAAMUHU ALAYNAA"]⟩,
  ⟨0xfdf0, "ARABIC LIGATURE ", ["SALLA USED AS KORANIC STOP SIGN ISOLATED FORM",
    "QALA USED AS KORANIC STOP SIGN ISOLATED FORM;ALLAH ISOLATED FORM;AKBAR ISOLATED FORM",
    "MOHAMMAD ISOLATED FORM;SALAM ISOLATED FORM;RASOUL ISOLATED FORM;ALAYHE ISOLATED FORM",
    "WASALLAM ISOLATED FORM;SALLA ISOLATED FORM;SALLALLAHOU ALAYHE WASALLAM;JALLAJALALOUHOU"]⟩,
  ⟨0xfdfc, "RIAL SIG", ["N"]⟩,
  ⟨0xfdfd, "ARABIC LIGATURE ", ["BISMILLAH AR-RAHMAN AR-RAHEEM;SUBHAANAHU WA TAAALAA",
    "AZZA WA JALL"]⟩,
  ⟨0xfe00, "VARIATION SELECTOR-", ["1;2;3;4;5;6;7;8;9;10;11;12;13;14;15;16"]⟩,
  ⟨0xfe10, "PRESENTATION FORM FOR VERTICAL ", ["COMMA;IDEOGRAPHIC COMMA;IDEOGRAPHIC FULL STOP",
    "COLON;SEMICOLON;EXCLAMATION MARK;QUESTION MARK;LEFT WHITE LENTICULAR BRACKET",
    "RIGHT WHITE LENTICULAR BRAKCET;HORIZONTAL ELLIPSIS"]⟩,
  ⟨0xfe1a, "COMBINING ", [";;;;;;LIGATURE LEFT HALF;LIGATURE RIGHT HALF;DOUBLE TILDE LEFT HALF",
    "DOUBLE TILDE RIGHT HALF;MACRON LEFT HALF;MACRON RIGHT HALF;CONJOINING MACRON",
    "LIGATURE LEFT HALF BELOW;LIGATURE RIGHT HALF BELOW;TILDE LEFT HALF BELOW",
    "TILDE RIGHT HALF BELOW;MACRON LEFT HALF BELOW;MACRON RIGHT HALF BELOW",
    "CONJOINING MACRON BELOW"]⟩,
  ⟨0xfe2e, "COMBINING CYRILLIC TITLO ", ["LEFT HALF;RIGHT HALF"]⟩,
  ⟨0xfe30, "PRESENTATION FORM FOR VERTICAL ", ["TWO DOT LEADER;EM DASH;EN DASH;LOW LINE",
    "WAVY LOW LINE;LEFT PARENTHESIS;RIGHT PARENTHESIS;LEFT CURLY BRACKET;RIGHT CURLY BRACKET",
    "LEFT TORTOISE SHELL BRACKET;RIGHT TORTOISE SHELL BRACKET;LEFT BLACK LENTICULAR BRACKET",
    "RIGHT BLACK LENTICULAR BRACKET;LEFT DOUBLE ANGLE BRACKET;RIGHT DOUBLE ANGLE BRACKET",
    "LEFT ANGLE BRACKET;RIGHT ANGLE BRACKET;LEFT CORNER BRACKET;RIGHT CORNER BRACKET",
    "LEFT WHITE CORNER BRACKET;RIGHT WHITE CORNER BRACKET"]⟩,
  ⟨0xfe45, "", ["SESAME DOT;WHITE SESAME DOT"]⟩,
  ⟨0xfe47, "PRESENTATION FORM FOR VERTICAL ", ["LEFT SQUARE BRACKET;RIGHT SQUARE BRACKET"]⟩]

/-- Scripts from Glagolitic on, those of East Asia, and compatibility forms, from U+FE49 on. -/
def eastAsiaPartE : List Block := [
  ⟨0xfe49, "", ["DASHED OVERLINE;CENTRELINE OVERLINE;WAVY OVERLINE;DOUBLE WAVY OVERLINE",
    "DASHED LOW LINE;CENTRELINE LOW LINE;WAVY LOW LINE"]⟩,
  ⟨0xfe50, "SMALL ", ["COMMA;IDEOGRAPHIC COMMA;FULL STOP;;SEMICOLON;COLON;QUESTION MARK",
    "EXCLAMATION MARK;EM DASH;LEFT PARENTHESIS;RIGHT PARENTHESIS;LEFT CURLY BRACKET",
    "RIGHT CURLY BRACKET;LEFT TORTOISE SHELL BRACKET;RIGHT TORTOISE SHELL BRACKET;NUMBER SIGN",
    "AMPERSAND;ASTERISK;PLUS SIGN;HYPHEN-MINUS;LESS-THAN SIGN;GREATER-THAN SIGN;EQUALS SIGN;",
    "REVERSE SOLIDUS;DOLLAR SIGN;PERCENT SIGN;COMMERCIAL AT"]⟩,
  ⟨0xfe6c, "ARABIC ", [";;;;FATHATAN ISOLATED FORM;TATWEEL WITH FATHATAN ABOVE",
    "DAMMATAN ISOLATED FORM;TAIL FRAGMENT;KASRATAN ISOLATED FORM;;FATHA ISOLATED FORM",
    "FATHA MEDIAL FORM;DAMMA ISOLATED FORM;DAMMA MEDIAL FORM;KASRA ISOLATED FORM",
    "KASRA MEDIAL FORM;SHADDA ISOLATED FORM;SHADDA MEDIAL FORM;SUKUN ISOLATED FORM",
    "SUKUN MEDIAL FORM;LETTER HAMZA ISOLATED FORM"]⟩,
  ⟨0xfe81, "ARABIC LETTER ALEF WITH ", ["MADDA ABOVE ISOLATED FORM;MADDA ABOVE FINAL FORM",
    "HAMZA ABOVE ISOLATED FORM;HAMZA ABOVE FINAL FORM"]⟩,
  ⟨0xfe85, "ARABIC LETTER WAW WITH HAMZA ABOVE ", ["ISOLATED FORM;FINAL FORM"]⟩,
  ⟨0xfe87, "ARABIC LETTER ALEF WITH HAMZA BELOW ", ["ISOLATED FORM;FINAL FORM"]⟩,
  ⟨0xfe89, "ARABIC LETTER YEH WITH HAMZA ABOVE ", ["ISOLATED FORM;FINAL FORM;INITIAL FORM",
    "MEDIAL FORM"]⟩,
  ⟨0xfe8d, "ARABIC LETTER ", ["ALEF ISOLATED FORM;ALEF FINAL FORM;BEH ISOLATED FORM",
    "BEH FINAL FORM;BEH INITIAL FORM;BEH MEDIAL FORM;TEH MARBUTA ISOLATED FORM",
    "TEH MARBUTA FINAL FORM;TEH ISOLATED FORM;TEH FINAL FORM;TEH INITIAL FORM;TEH MEDIAL FORM",
    "THEH ISOLATED FORM;THEH FINAL FORM;THEH INITIAL FORM;THEH MEDIAL FORM;JEEM ISOLATED FORM",
    "JEEM FINAL FORM;JEEM INITIAL FORM;JEEM MEDIAL FORM;HAH ISOLATED FORM;HAH FINAL FORM",
    "HAH INITIAL FORM;HAH MEDIAL FORM;KHAH ISOLATED FORM;KHAH FINAL FORM;KHAH INITIAL FORM",
    "KHAH MEDIAL FORM;DAL ISOLATED FORM;DAL FINAL FORM;THAL ISOLATED FORM;THAL FINAL FORM",
    "REH ISOLATED FORM;REH FINAL FORM;ZAIN ISOLATED FORM;ZAIN FINAL FORM;SEEN ISOLATED FORM",
    "SEEN FINAL FORM;SEEN INITIAL FORM;SEEN MEDIAL FORM;SHEEN ISOLATED FORM;SHEEN FINAL FORM",
    "SHEEN INITIAL FORM;SHEEN MEDIAL FORM;SAD ISOLATED FORM;SAD FINAL FORM;SAD INITIAL FORM",
    "SAD MEDIAL FORM;DAD ISOLATED FORM;DAD FINAL FORM;DAD INITIAL FORM;DAD MEDIAL FORM",
    "TAH ISOLATED FORM;TAH FINAL FORM;TAH INITIAL FORM;TAH MEDIAL FORM;ZAH ISOLATED FORM",
    "ZAH FINAL FORM;ZAH INITIAL FORM;ZAH MEDIAL FORM;AIN ISOLATED FORM;AIN FINAL FORM",
    "AIN INITIAL FORM;AIN MEDIAL FORM;GHAIN ISOLATED FORM;GHAIN FINAL FORM;GHAIN INITIAL FORM",
    "GHAIN MEDIAL FORM;FEH ISOLATED FORM;FEH FINAL FORM;FEH INITIAL FORM;FEH MEDIAL FORM",
    "QAF ISOLATED FORM;QAF FINAL FORM;QAF INITIAL FORM;QAF MEDIAL FORM;KAF ISOLATED FORM",
    "KAF FINAL FORM;KAF INITIAL FORM;KAF MEDIAL FORM;LAM ISOLATED FORM;LAM FINAL FORM",
    "LAM INITIAL FORM;LAM MEDIAL FORM;MEEM ISOLATED FORM;MEEM FINAL FORM;MEEM INITIAL FORM",
    "MEEM MEDIAL FORM;NOON ISOLATED FORM;NOON FINAL FORM;NOON INITIAL FORM;NOON MEDIAL FORM",
    "HEH ISOLATED FORM;HEH FINAL FORM;HEH INITIAL FORM;HEH MEDIAL FORM;WAW ISOLATED FORM",
    "WAW FINAL FORM;ALEF MAKSURA ISOLATED FORM;ALEF MAKSURA FINAL FORM;YEH ISOLATED FORM",
    "YEH FINAL FORM;YEH INITIAL FORM;YEH MEDIAL FORM"]⟩,
  ⟨0xfef5, "ARABIC LIGATURE LAM WITH ALEF ", ["WITH MADDA ABOVE ISOLATED FORM",
    "WITH MADDA ABOVE FINAL FORM;WITH HAMZA ABOVE ISOLATED FORM;WITH HAMZA ABOVE FINAL FORM",
    "WITH HAMZA BELOW ISOLATED FORM;WITH HAMZA BELOW FINAL FORM;ISOLATED FORM;FINAL FORM"]⟩,
  ⟨0xfefd, "ZERO WIDTH NO-BREAK SPAC", [";;E"]⟩,
  ⟨0xff00, "FULLWIDTH ", [";EXCLAMATION MARK;QUOTATION MARK;NUMBER SIGN;DOLLAR SIGN",
    "PERCENT SIGN;AMPERSAND;APOSTROPHE;LEFT PARENTHESIS;RIGHT PARENTHESIS;ASTERISK;PLUS SIGN",
    "COMMA;HYPHEN-MINUS;FULL STOP;SOLIDUS"]⟩,
  ⟨0xff10, "FULLWIDTH DIGIT ", ["ZERO;ONE;TWO;THREE;FOUR;FIVE;SIX;SEVEN;EIGHT;NINE"]⟩,
  ⟨0xff1a, "FULLWIDTH ", ["COLON;SEMICOLON;LESS-THAN SIGN;EQUALS SIGN;GREATER-THAN SIGN",
    "QUESTION MARK;COMMERCIAL AT"]⟩,
  ⟨0xff21, "FULLWIDTH LATIN CAPITAL LETTER ", ["A;B;C;D;E;F;G;H;I;J;K;L;M;N;O;P;Q;R;S;T;U;V;W;X",
    "Y;Z"]⟩,
  ⟨0xff3b, "FULLWIDTH ", ["LEFT SQUARE BRACKET;REVERSE SOLIDUS;RIGHT SQUARE BRACKET",
    "CIRCUMFLEX ACCENT;LOW LINE;GRAVE ACCENT"]⟩,
  ⟨0xff41, "FULLWIDTH LATIN SMALL LETTER ", ["A;B;C;D;E;F;G;H;I;J;K;L;M;N;O;P;Q;R;S;T;U;V;W;X;Y",
    "Z"]⟩,
  ⟨0xff5b, "FULLWIDTH ", ["LEFT CURLY BRACKET;VERTICAL LINE;RIGHT CURLY BRACKET;TILDE",
    "LEFT WHITE PARENTHESIS;RIGHT WHITE PARENTHESIS"]⟩,
  ⟨0xff61, "HALFWIDTH ", ["IDEOGRAPHIC FULL STOP;LEFT CORNER BRACKET;RIGHT CORNER BRACKET",
    "IDEOGRAPHIC COMMA;KATAKANA MIDDLE DOT;KATAKANA LETTER WO"]⟩,
  ⟨0xff67, "HALFWIDTH KATAKANA LETTER SMALL ", ["A;I;U;E;O;YA;YU;YO;TU"]⟩,
  ⟨0xff70, "HALFWIDTH KATAKANA-HIRAGANA PROLONGED SOUND MAR", ["K"]⟩,
  ⟨0xff71, "HALFWIDTH KATAKANA LETTER ", ["A;I;U;E;O;KA;KI;KU;KE;KO;SA;SI;SU;SE;SO;TA;TI;TU;TE",
    "TO;NA;NI;NU;NE;NO;HA;HI;HU;HE;HO;MA;MI;MU;ME;MO;YA;YU;YO;RA;RI;RU;RE;RO;WA;N"]⟩,
  ⟨0xff9e, "HALFWIDTH ", ["KATAKANA VOICED SOUND MARK;KATAKANA SEMI-VOICED SOUND MARK",
    "HANGUL FILLER"]⟩,
  ⟨0xffa1, "HALFWIDTH HANGUL LETTER ", ["KIYEOK;SSANGKIYEOK;KIYEOK-SIOS;NIEUN;NIEUN-CIEUC",
    "NIEUN-HIEUH;TIKEUT;SSANGTIKEUT;RIEUL;RIEUL-KIYEOK;RIEUL-MIEUM;RIEUL-PIEUP;RIEUL-SIOS",
    "RIEUL-THIEUTH;RIEUL-PHIEUPH;RIEUL-HIEUH;MIEUM;PIEUP;SSANGPIEUP;PIEUP-SIOS;SIOS;SSANGSIOS",
    "IEUNG;CIEUC;SSANGCIEUC;CHIEUCH;KHIEUKH;THIEUTH;PHIEUPH;HIEUH;;;;A;AE;YA;YAE;EO;E;;;YEO;YE;O",
    "WA;WAE;OE;;;YO;U;WEO;WE;WI;YU;;;EU;YI;I"]⟩,
  ⟨0xffdd, "FULLWIDTH ", [";;;CENT SIGN;POUND SIGN;NOT SIGN;MACRON;BROKEN BAR;YEN SIGN;WON SIGN"]⟩,
  ⟨0xffe7, "HALFWIDTH ", [";FORMS LIGHT VERTICAL;LEFTWARDS ARROW;UPWARDS ARROW;RIGHTWARDS ARROW",
    "DOWNWARDS ARROW;BLACK SQUARE;WHITE CIRCLE"]⟩,
  ⟨0xfff9, "INTERLINEAR ANNOTATION ", ["ANCHOR;SEPARATOR;TERMINATOR"]⟩,
  ⟨0xfffc, "", ["OBJECT REPLACEMENT CHARACTER;REPLACEMENT CHARACTER"]⟩,
  ⟨0xfffe, "LINEAR B SYLLABLE B0", [";;08 A;38 E;28 I;61 O;10 U;01 DA;45 DE;07 DI;14 DO;51 DU",
    "57 JA;46 JE;;36 JO;65 JU;77 KA;44 KE;67 KI;70 KO;81 KU;80 MA;13 ME;73 MI;15 MO;23 MU;06 NA",
    "24 NE;30 NI;52 NO;55 NU;03 PA;72 PE;39 PI;11 PO;50 PU;16 QA;78 QE;21 QI;32 QO;;60 RA;27 RE",
    "53 RI;02 RO;26 RU;31 SA;09 SE;41 SI;12 SO;58 SU;59 TA;04 TE;37 TI;05 TO;69 TU;54 WA;75 WE",
    "40 WI;42 WO;;17 ZA;74 ZE;;20 ZO;25 A2;43 A3;85 AU;71 DWE;90 DWO;48 NWA;29 PU2;62 PTE;76 RA2",
    "33 RA3;68 RO2;66 TA2;87 TWE;91 TWO"]⟩]

/-- Scripts from Glagolitic on, those of East Asia, and compatibility forms. -/
def eastAsia : List Block :=
  eastAsiaPartA ++ eastAsiaPartB ++ eastAsiaPartC ++ eastAsiaPartD ++ eastAsiaPartE

end Stencil.CharacterName
