import Stencil.Literal.CharacterName.Block

/-!
# Names of characters: punctuation, arrows, and mathematical and technical symbols
-/

namespace Stencil.CharacterName

/-- Punctuation, arrows, and mathematical and technical symbols, from U+200B on. -/
def symbolsPartA : List Block := [
  ⟨0x200b, "ZERO WIDTH ", ["SPACE;NON-JOINER;JOINER"]⟩,
  ⟨0x200e, "", ["LEFT-TO-RIGHT MARK;RIGHT-TO-LEFT MARK;HYPHEN;NON-BREAKING HYPHEN;FIGURE DASH",
    "EN DASH;EM DASH;HORIZONTAL BAR"]⟩,
  ⟨0x2016, "DOUBLE ", ["VERTICAL LINE;LOW LINE"]⟩,
  ⟨0x2018, "", ["LEFT SINGLE QUOTATION MARK;RIGHT SINGLE QUOTATION MARK"]⟩,
  ⟨0x201a, "SINGLE ", ["LOW-9 QUOTATION MARK;HIGH-REVERSED-9 QUOTATION MARK"]⟩,
  ⟨0x201c, "", ["LEFT DOUBLE QUOTATION MARK;RIGHT DOUBLE QUOTATION MARK"]⟩,
  ⟨0x201e, "DOUBLE ", ["LOW-9 QUOTATION MARK;HIGH-REVERSED-9 QUOTATION MARK"]⟩,
  ⟨0x2020, "", ["DAGGER;DOUBLE DAGGER;BULLET;TRIANGULAR BULLET;ONE DOT LEADER;TWO DOT LEADER",
    "HORIZONTAL ELLIPSIS;HYPHENATION POINT;LINE SEPARATOR;PARAGRAPH SEPARATOR",
    "LEFT-TO-RIGHT EMBEDDING;RIGHT-TO-LEFT EMBEDDING;POP DIRECTIONAL FORMATTING",
    "LEFT-TO-RIGHT OVERRIDE;RIGHT-TO-LEFT OVERRIDE;NARROW NO-BREAK SPACE;PER MILLE SIGN",
    "PER TEN THOUSAND SIGN;PRIME;DOUBLE PRIME;TRIPLE PRIME"]⟩,
  ⟨0x2035, "REVERSED ", ["PRIME;DOUBLE PRIME;TRIPLE PRIME"]⟩,
  ⟨0x2038, "CARE", ["T"]⟩,
  ⟨0x2039, "SINGLE ", ["LEFT-POINTING ANGLE QUOTATION MARK;RIGHT-POINTING ANGLE QUOTATION MARK"]⟩,
  ⟨0x203b, "", ["REFERENCE MARK;DOUBLE EXCLAMATION MARK;INTERROBANG;OVERLINE;UNDERTIE",
    "CHARACTER TIE;CARET INSERTION POINT;ASTERISM;HYPHEN BULLET;FRACTION SLASH",
    "LEFT SQUARE BRACKET WITH QUILL;RIGHT SQUARE BRACKET WITH QUILL;DOUBLE QUESTION MARK",
    "QUESTION EXCLAMATION MARK;EXCLAMATION QUESTION MARK;TIRONIAN SIGN ET;REVERSED PILCROW SIGN",
    "BLACK LEFTWARDS BULLET;BLACK RIGHTWARDS BULLET;LOW ASTERISK;REVERSED SEMICOLON;CLOSE UP",
    "TWO ASTERISKS ALIGNED VERTICALLY;COMMERCIAL MINUS SIGN;SWUNG DASH;INVERTED UNDERTIE",
    "FLOWER PUNCTUATION MARK;THREE DOT PUNCTUATION;QUADRUPLE PRIME;FOUR DOT PUNCTUATION",
    "FIVE DOT PUNCTUATION;TWO DOT PUNCTUATION;FOUR DOT MARK;DOTTED CROSS;TRICOLON",
    "VERTICAL FOUR DOTS;MEDIUM MATHEMATICAL SPACE;WORD JOINER;FUNCTION APPLICATION"]⟩,
  ⟨0x2062, "INVISIBLE ", ["TIMES;SEPARATOR;PLUS"]⟩,
  ⟨0x2065, "", [";LEFT-TO-RIGHT ISOLATE;RIGHT-TO-LEFT ISOLATE;FIRST STRONG ISOLATE",
    "POP DIRECTIONAL ISOLATE;INHIBIT SYMMETRIC SWAPPING;ACTIVATE SYMMETRIC SWAPPING",
    "INHIBIT ARABIC FORM SHAPING;ACTIVATE ARABIC FORM SHAPING;NATIONAL DIGIT SHAPES",
    "NOMINAL DIGIT SHAPES"]⟩,
  ⟨0x2070, "SUPERSCRIPT ", ["ZERO;LATIN SMALL LETTER I;;;FOUR;FIVE;SIX;SEVEN;EIGHT;NINE",
    "PLUS SIGN;MINUS;EQUALS SIGN;LEFT PARENTHESIS;RIGHT PARENTHESIS;LATIN SMALL LETTER N"]⟩,
  ⟨0x2080, "SUBSCRIPT ", ["ZERO;ONE;TWO;THREE;FOUR;FIVE;SIX;SEVEN;EIGHT;NINE;PLUS SIGN;MINUS",
    "EQUALS SIGN;LEFT PARENTHESIS;RIGHT PARENTHESIS"]⟩,
  ⟨0x208f, "LATIN SUBSCRIPT SMALL LETTER ", [";A;E;O;X;SCHWA;H;K;L;M;N;P;S;T"]⟩,
  ⟨0x209d, "", [";;;EURO-CURRENCY SIGN;COLON SIGN;CRUZEIRO SIGN;FRENCH FRANC SIGN;LIRA SIGN",
    "MILL SIGN;NAIRA SIGN;PESETA SIGN;RUPEE SIGN;WON SIGN;NEW SHEQEL SIGN;DONG SIGN;EURO SIGN",
    "KIP SIGN;TUGRIK SIGN;DRACHMA SIGN;GERMAN PENNY SIGN;PESO SIGN;GUARANI SIGN;AUSTRAL SIGN",
    "HRYVNIA SIGN;CEDI SIGN;LIVRE TOURNOIS SIGN;SPESMILO SIGN;TENGE SIGN;INDIAN RUPEE SIGN",
    "TURKISH LIRA SIGN;NORDIC MARK SIGN;MANAT SIGN;RUBLE SIGN;LARI SIGN;BITCOIN SIGN;SOM SIGN"]⟩,
  ⟨0x20d0, "COMBINING ", ["LEFT HARPOON ABOVE;RIGHT HARPOON ABOVE;LONG VERTICAL LINE OVERLAY",
    "SHORT VERTICAL LINE OVERLAY;ANTICLOCKWISE ARROW ABOVE;CLOCKWISE ARROW ABOVE",
    "LEFT ARROW ABOVE;RIGHT ARROW ABOVE;RING OVERLAY;CLOCKWISE RING OVERLAY",
    "ANTICLOCKWISE RING OVERLAY;THREE DOTS ABOVE;FOUR DOTS ABOVE"]⟩,
  ⟨0x20dd, "COMBINING ENCLOSING ", ["CIRCLE;SQUARE;DIAMOND;CIRCLE BACKSLASH"]⟩,
  ⟨0x20e1, "COMBINING ", ["LEFT RIGHT ARROW ABOVE;ENCLOSING SCREEN;ENCLOSING KEYCAP",
    "ENCLOSING UPWARD POINTING TRIANGLE;REVERSE SOLIDUS OVERLAY;DOUBLE VERTICAL STROKE OVERLAY",
    "ANNUITY SYMBOL;TRIPLE UNDERDOT;WIDE BRIDGE ABOVE;LEFTWARDS ARROW OVERLAY",
    "LONG DOUBLE SOLIDUS OVERLAY;RIGHTWARDS HARPOON WITH BARB DOWNWARDS",
    "LEFTWARDS HARPOON WITH BARB DOWNWARDS;LEFT ARROW BELOW;RIGHT ARROW BELOW;ASTERISK ABOVE"]⟩,
  ⟨0x2100, "", ["ACCOUNT OF;ADDRESSED TO THE SUBJECT;DOUBLE-STRUCK CAPITAL C;DEGREE CELSIUS",
    "CENTRE LINE SYMBOL;CARE OF;CADA UNA;EULER CONSTANT;SCRUPLE;DEGREE FAHRENHEIT"]⟩,
  ⟨0x210a, "SCRIPT ", ["SMALL G;CAPITAL H"]⟩,
  ⟨0x210c, "", ["BLACK-LETTER CAPITAL H;DOUBLE-STRUCK CAPITAL H"]⟩,
  ⟨0x210e, "PLANCK CONSTAN", ["T;T OVER TWO PI"]⟩,
  ⟨0x2110, "", ["SCRIPT CAPITAL I;BLACK-LETTER CAPITAL I"]⟩,
  ⟨0x2112, "SCRIPT ", ["CAPITAL L;SMALL L"]⟩,
  ⟨0x2114, "", ["L B BAR SYMBOL;DOUBLE-STRUCK CAPITAL N;NUMERO SIGN;SOUND RECORDING COPYRIGHT",
    "SCRIPT CAPITAL P"]⟩,
  ⟨0x2119, "DOUBLE-STRUCK CAPITAL ", ["P;Q"]⟩,
  ⟨0x211b, "", ["SCRIPT CAPITAL R;BLACK-LETTER CAPITAL R;DOUBLE-STRUCK CAPITAL R",
    "PRESCRIPTION TAKE;RESPONSE;SERVICE MARK;TELEPHONE SIGN;TRADE MARK SIGN;VERSICLE",
    "DOUBLE-STRUCK CAPITAL Z;OUNCE SIGN;OHM SIGN;INVERTED OHM SIGN;BLACK-LETTER CAPITAL Z",
    "TURNED GREEK SMALL LETTER IOTA;KELVIN SIGN;ANGSTROM SIGN;SCRIPT CAPITAL B",
    "BLACK-LETTER CAPITAL C;ESTIMATED SYMBOL;SCRIPT SMALL E"]⟩,
  ⟨0x2130, "SCRIPT CAPITAL ", ["E;F"]⟩,
  ⟨0x2132, "TURNED CAPITAL ", ["F"]⟩,
  ⟨0x2133, "SCRIPT ", ["CAPITAL M;SMALL O"]⟩,
  ⟨0x2135, "", ["ALEF SYMBOL;BET SYMBOL;GIMEL SYMBOL;DALET SYMBOL;INFORMATION SOURCE",
    "ROTATED CAPITAL Q;FACSIMILE SIGN"]⟩,
  ⟨0x213c, "DOUBLE-STRUCK ", ["SMALL PI;SMALL GAMMA;CAPITAL GAMMA;CAPITAL PI;N-ARY SUMMATION"]⟩,
  ⟨0x2141, "TURNED SANS-SERIF CAPITAL ", ["G;L"]⟩,
  ⟨0x2143, "", ["REVERSED SANS-SERIF CAPITAL L;TURNED SANS-SERIF CAPITAL Y"]⟩,
  ⟨0x2145, "DOUBLE-STRUCK ITALIC ", ["CAPITAL D;SMALL D;SMALL E;SMALL I;SMALL J"]⟩,
  ⟨0x214a, "", ["PROPERTY LINE;TURNED AMPERSAND;PER SIGN;AKTIESELSKAB;TURNED SMALL F",
    "SYMBOL FOR SAMARITAN SOURCE"]⟩,
  ⟨0x2150, "VULGAR FRACTION ", ["ONE SEVENTH;ONE NINTH;ONE TENTH;ONE THIRD;TWO THIRDS;ONE FIFTH",
    "TWO FIFTHS;THREE FIFTHS;FOUR FIFTHS;ONE SIXTH;FIVE SIXTHS;ONE EIGHTH;THREE EIGHTHS",
    "FIVE EIGHTHS;SEVEN EIGHTHS"]⟩,
  ⟨0x215f, "FRACTION NUMERATOR ON", ["E"]⟩,
  ⟨0x2160, "ROMAN NUMERAL ", ["ONE;TWO;THREE;FOUR;FIVE;SIX;SEVEN;EIGHT;NINE;TEN;ELEVEN;TWELVE",
    "FIFTY;ONE HUNDRED;FIVE HUNDRED;ONE THOUSAND"]⟩,
  ⟨0x2170, "SMALL ROMAN NUMERAL ", ["ONE;TWO;THREE;FOUR;FIVE;SIX;SEVEN;EIGHT;NINE;TEN;ELEVEN",
    "TWELVE;FIFTY;ONE HUNDRED;FIVE HUNDRED;ONE THOUSAND"]⟩,
  ⟨0x2180, "ROMAN NUMERAL ", ["ONE THOUSAND C D;FIVE THOUSAND;TEN THOUSAND;REVERSED ONE HUNDRED"]⟩,
  ⟨0x2184, "LATIN SMALL LETTER REVERSED ", ["C"]⟩,
  ⟨0x2185, "ROMAN NUMERAL ", ["SIX LATE FORM;FIFTY EARLY FORM;FIFTY THOUSAND",
    "ONE HUNDRED THOUSAND"]⟩,
  ⟨0x2189, "VULGAR FRACTION ZERO THIRD", ["S"]⟩,
  ⟨0x218a, "TURNED DIGIT T", ["WO;HREE"]⟩,
  ⟨0x218c, "", [";;;;LEFTWARDS ARROW;UPWARDS ARROW;RIGHTWARDS ARROW;DOWNWARDS ARROW",
    "LEFT RIGHT ARROW;UP DOWN ARROW"]⟩,
  ⟨0x2196, "NORTH ", ["WEST ARROW;EAST ARROW"]⟩,
  ⟨0x2198, "SOUTH ", ["EAST ARROW;WEST ARROW"]⟩,
  ⟨0x219a, "", ["LEFTWARDS ARROW WITH STROKE;RIGHTWARDS ARROW WITH STROKE;LEFTWARDS WAVE ARROW",
    "RIGHTWARDS WAVE ARROW;LEFTWARDS TWO HEADED ARROW;UPWARDS TWO HEADED ARROW",
    "RIGHTWARDS TWO HEADED ARROW;DOWNWARDS TWO HEADED ARROW;LEFTWARDS ARROW WITH TAIL",
    "RIGHTWARDS ARROW WITH TAIL;LEFTWARDS ARROW FROM BAR;UPWARDS ARROW FROM BAR",
    "RIGHTWARDS ARROW FROM BAR;DOWNWARDS ARROW FROM BAR;UP DOWN ARROW WITH BASE",
    "LEFTWARDS ARROW WITH HOOK;RIGHTWARDS ARROW WITH HOOK;LEFTWARDS ARROW WITH LOOP",
    "RIGHTWARDS ARROW WITH LOOP"]⟩,
  ⟨0x21ad, "LEFT RIGHT ", ["WAVE ARROW;ARROW WITH STROKE"]⟩,
  ⟨0x21af, "DOWNWARDS ZIGZAG ARRO", ["W"]⟩,
  ⟨0x21b0, "UPWARDS ARROW WITH TIP ", ["LEFTWARDS;RIGHTWARDS"]⟩,
  ⟨0x21b2, "DOWNWARDS ARROW WITH TIP ", ["LEFTWARDS;RIGHTWARDS"]⟩,
  ⟨0x21b4, "", ["RIGHTWARDS ARROW WITH CORNER DOWNWARDS;DOWNWARDS ARROW WITH CORNER LEFTWARDS",
    "ANTICLOCKWISE TOP SEMICIRCLE ARROW;CLOCKWISE TOP SEMICIRCLE ARROW",
    "NORTH WEST ARROW TO LONG BAR;LEFTWARDS ARROW TO BAR OVER RIGHTWARDS ARROW TO BAR",
    "ANTICLOCKWISE OPEN CIRCLE ARROW;CLOCKWISE OPEN CIRCLE ARROW"]⟩,
  ⟨0x21bc, "LEFTWARDS HARPOON WITH BARB ", ["UPWARDS;DOWNWARDS"]⟩,
  ⟨0x21be, "UPWARDS HARPOON WITH BARB ", ["RIGHTWARDS;LEFTWARDS"]⟩,
  ⟨0x21c0, "RIGHTWARDS HARPOON WITH BARB ", ["UPWARDS;DOWNWARDS"]⟩,
  ⟨0x21c2, "DOWNWARDS HARPOON WITH BARB ", ["RIGHTWARDS;LEFTWARDS"]⟩,
  ⟨0x21c4, "", ["RIGHTWARDS ARROW OVER LEFTWARDS ARROW",
    "UPWARDS ARROW LEFTWARDS OF DOWNWARDS ARROW"]⟩,
  ⟨0x21c6, "LEFTWARDS ", ["ARROW OVER RIGHTWARDS ARROW;PAIRED ARROWS"]⟩,
  ⟨0x21c8, "", ["UPWARDS PAIRED ARROWS;RIGHTWARDS PAIRED ARROWS;DOWNWARDS PAIRED ARROWS",
    "LEFTWARDS HARPOON OVER RIGHTWARDS HARPOON;RIGHTWARDS HARPOON OVER LEFTWARDS HARPOON",
    "LEFTWARDS DOUBLE ARROW WITH STROKE;LEFT RIGHT DOUBLE ARROW WITH STROKE",
    "RIGHTWARDS DOUBLE ARROW WITH STROKE;LEFTWARDS DOUBLE ARROW;UPWARDS DOUBLE ARROW",
    "RIGHTWARDS DOUBLE ARROW;DOWNWARDS DOUBLE ARROW;LEFT RIGHT DOUBLE ARROW;UP DOWN DOUBLE ARROW"]⟩,
  ⟨0x21d6, "NORTH ", ["WEST DOUBLE ARROW;EAST DOUBLE ARROW"]⟩,
  ⟨0x21d8, "SOUTH ", ["EAST DOUBLE ARROW;WEST DOUBLE ARROW"]⟩,
  ⟨0x21da, "", ["LEFTWARDS TRIPLE ARROW;RIGHTWARDS TRIPLE ARROW;LEFTWARDS SQUIGGLE ARROW",
    "RIGHTWARDS SQUIGGLE ARROW;UPWARDS ARROW WITH DOUBLE STROKE",
    "DOWNWARDS ARROW WITH DOUBLE STROKE;LEFTWARDS DASHED ARROW;UPWARDS DASHED ARROW",
    "RIGHTWARDS DASHED ARROW;DOWNWARDS DASHED ARROW;LEFTWARDS ARROW TO BAR",
    "RIGHTWARDS ARROW TO BAR;LEFTWARDS WHITE ARROW;UPWARDS WHITE ARROW;RIGHTWARDS WHITE ARROW",
    "DOWNWARDS WHITE ARROW"]⟩,
  ⟨0x21ea, "UPWARDS WHITE ARROW ", ["FROM BAR;ON PEDESTAL;ON PEDESTAL WITH HORIZONTAL BAR",
    "ON PEDESTAL WITH VERTICAL BAR"]⟩,
  ⟨0x21ee, "UPWARDS WHITE DOUBLE ARRO", ["W;W ON PEDESTAL"]⟩,
  ⟨0x21f0, "", ["RIGHTWARDS WHITE ARROW FROM WALL;NORTH WEST ARROW TO CORNER",
    "SOUTH EAST ARROW TO CORNER;UP DOWN WHITE ARROW;RIGHT ARROW WITH SMALL CIRCLE",
    "DOWNWARDS ARROW LEFTWARDS OF UPWARDS ARROW;THREE RIGHTWARDS ARROWS",
    "LEFTWARDS ARROW WITH VERTICAL STROKE;RIGHTWARDS ARROW WITH VERTICAL STROKE",
    "LEFT RIGHT ARROW WITH VERTICAL STROKE;LEFTWARDS ARROW WITH DOUBLE VERTICAL STROKE",
    "RIGHTWARDS ARROW WITH DOUBLE VERTICAL STROKE;LEFT RIGHT ARROW WITH DOUBLE VERTICAL STROKE",
    "LEFTWARDS OPEN-HEADED ARROW;RIGHTWARDS OPEN-HEADED ARROW;LEFT RIGHT OPEN-HEADED ARROW",
    "FOR ALL;COMPLEMENT;PARTIAL DIFFERENTIAL;THERE EXISTS;THERE DOES NOT EXIST;EMPTY SET",
    "INCREMENT;NABLA;ELEMENT OF;NOT AN ELEMENT OF;SMALL ELEMENT OF;CONTAINS AS MEMBER",
    "DOES NOT CONTAIN AS MEMBER;SMALL CONTAINS AS MEMBER;END OF PROOF"]⟩,
  ⟨0x220f, "N-ARY ", ["PRODUCT;COPRODUCT;SUMMATION"]⟩,
  ⟨0x2212, "MINUS", [" SIGN;-OR-PLUS SIGN"]⟩,
  ⟨0x2214, "", ["DOT PLUS;DIVISION SLASH;SET MINUS;ASTERISK OPERATOR;RING OPERATOR",
    "BULLET OPERATOR;SQUARE ROOT;CUBE ROOT;FOURTH ROOT;PROPORTIONAL TO;INFINITY;RIGHT ANGLE",
    "ANGLE;MEASURED ANGLE;SPHERICAL ANGLE;DIVIDES;DOES NOT DIVIDE;PARALLEL TO;NOT PARALLEL TO"]⟩,
  ⟨0x2227, "LOGICAL ", ["AND;OR"]⟩,
  ⟨0x2229, "", ["INTERSECTION;UNION;INTEGRAL;DOUBLE INTEGRAL;TRIPLE INTEGRAL;CONTOUR INTEGRAL",
    "SURFACE INTEGRAL;VOLUME INTEGRAL"]⟩,
  ⟨0x2231, "CLOCKWISE ", ["INTEGRAL;CONTOUR INTEGRAL"]⟩,
  ⟨0x2233, "", ["ANTICLOCKWISE CONTOUR INTEGRAL;THEREFORE;BECAUSE;RATIO;PROPORTION;DOT MINUS",
    "EXCESS;GEOMETRIC PROPORTION;HOMOTHETIC;TILDE OPERATOR;REVERSED TILDE;INVERTED LAZY S",
    "SINE WAVE;WREATH PRODUCT;NOT TILDE;MINUS TILDE;ASYMPTOTICALLY EQUAL TO",
    "NOT ASYMPTOTICALLY EQUAL TO"]⟩,
  ⟨0x2245, "APPROXIMATELY ", ["EQUAL TO;BUT NOT ACTUALLY EQUAL TO"]⟩,
  ⟨0x2247, "", ["NEITHER APPROXIMATELY NOR ACTUALLY EQUAL TO;ALMOST EQUAL TO",
    "NOT ALMOST EQUAL TO;ALMOST EQUAL OR EQUAL TO;TRIPLE TILDE;ALL EQUAL TO;EQUIVALENT TO",
    "GEOMETRICALLY EQUIVALENT TO;DIFFERENCE BETWEEN;APPROACHES THE LIMIT;GEOMETRICALLY EQUAL TO",
    "APPROXIMATELY EQUAL TO OR THE IMAGE OF;IMAGE OF OR APPROXIMATELY EQUAL TO;COLON EQUALS",
    "EQUALS COLON;RING IN EQUAL TO;RING EQUAL TO;CORRESPONDS TO;ESTIMATES;EQUIANGULAR TO",
    "STAR EQUALS;DELTA EQUAL TO;EQUAL TO BY DEFINITION;MEASURED BY;QUESTIONED EQUAL TO",
    "NOT EQUAL TO;IDENTICAL TO;NOT IDENTICAL TO;STRICTLY EQUIVALENT TO;LESS-THAN OR EQUAL TO",
    "GREATER-THAN OR EQUAL TO;LESS-THAN OVER EQUAL TO;GREATER-THAN OVER EQUAL TO",
    "LESS-THAN BUT NOT EQUAL TO;GREATER-THAN BUT NOT EQUAL TO;MUCH LESS-THAN;MUCH GREATER-THAN",
    "BETWEEN"]⟩,
  ⟨0x226d, "NOT ", ["EQUIVALENT TO;LESS-THAN;GREATER-THAN"]⟩,
  ⟨0x2270, "NEITHER ", ["LESS-THAN NOR EQUAL TO;GREATER-THAN NOR EQUAL TO"]⟩,
  ⟨0x2272, "", ["LESS-THAN OR EQUIVALENT TO;GREATER-THAN OR EQUIVALENT TO"]⟩,
  ⟨0x2274, "NEITHER ", ["LESS-THAN NOR EQUIVALENT TO;GREATER-THAN NOR EQUIVALENT TO"]⟩,
  ⟨0x2276, "", ["LESS-THAN OR GREATER-THAN;GREATER-THAN OR LESS-THAN"]⟩,
  ⟨0x2278, "NEITHER ", ["LESS-THAN NOR GREATER-THAN;GREATER-THAN NOR LESS-THAN"]⟩,
  ⟨0x227a, "", ["PRECEDES;SUCCEEDS;PRECEDES OR EQUAL TO;SUCCEEDS OR EQUAL TO",
    "PRECEDES OR EQUIVALENT TO;SUCCEEDS OR EQUIVALENT TO"]⟩,
  ⟨0x2280, "DOES NOT ", ["PRECEDE;SUCCEED"]⟩,
  ⟨0x2282, "SU", ["BSET OF;PERSET OF"]⟩,
  ⟨0x2284, "NOT A SU", ["BSET OF;PERSET OF"]⟩,
  ⟨0x2286, "SU", ["BSET OF OR EQUAL TO;PERSET OF OR EQUAL TO"]⟩,
  ⟨0x2288, "NEITHER A SU", ["BSET OF NOR EQUAL TO;PERSET OF NOR EQUAL TO"]⟩,
  ⟨0x228a, "SU", ["BSET OF WITH NOT EQUAL TO;PERSET OF WITH NOT EQUAL TO"]⟩,
  ⟨0x228c, "MULTISE", ["T;T MULTIPLICATION;T UNION"]⟩,
  ⟨0x228f, "SQUARE ", ["IMAGE OF;ORIGINAL OF;IMAGE OF OR EQUAL TO;ORIGINAL OF OR EQUAL TO;CAP",
    "CUP"]⟩,
  ⟨0x2295, "CIRCLED ", ["PLUS;MINUS;TIMES;DIVISION SLASH;DOT OPERATOR;RING OPERATOR",
    "ASTERISK OPERATOR;EQUALS;DASH"]⟩,
  ⟨0x229e, "SQUARED ", ["PLUS;MINUS;TIMES;DOT OPERATOR"]⟩,
  ⟨0x22a2, "", ["RIGHT TACK;LEFT TACK;DOWN TACK;UP TACK;ASSERTION;MODELS;TRUE;FORCES",
    "TRIPLE VERTICAL BAR RIGHT TURNSTILE;DOUBLE VERTICAL BAR DOUBLE RIGHT TURNSTILE",
    "DOES NOT PROVE;NOT TRUE;DOES NOT FORCE;NEGATED DOUBLE VERTICAL BAR DOUBLE RIGHT TURNSTILE",
    "PRECEDES UNDER RELATION;SUCCEEDS UNDER RELATION;NORMAL SUBGROUP OF",
    "CONTAINS AS NORMAL SUBGROUP;NORMAL SUBGROUP OF OR EQUAL TO",
    "CONTAINS AS NORMAL SUBGROUP OR EQUAL TO;ORIGINAL OF;IMAGE OF;MULTIMAP",
    "HERMITIAN CONJUGATE MATRIX;INTERCALATE;XOR;NAND;NOR"]⟩,
  ⟨0x22be, "RIGHT ", ["ANGLE WITH ARC;TRIANGLE"]⟩,
  ⟨0x22c0, "N-ARY ", ["LOGICAL AND;LOGICAL OR;INTERSECTION;UNION"]⟩,
  ⟨0x22c4, "", ["DIAMOND OPERATOR;DOT OPERATOR;STAR OPERATOR;DIVISION TIMES;BOWTIE",
    "LEFT NORMAL FACTOR SEMIDIRECT PRODUCT;RIGHT NORMAL FACTOR SEMIDIRECT PRODUCT",
    "LEFT SEMIDIRECT PRODUCT;RIGHT SEMIDIRECT PRODUCT;REVERSED TILDE EQUALS"]⟩]

/-- Punctuation, arrows, and mathematical and technical symbols, from U+22CE on. -/
def symbolsPartB : List Block := [
  ⟨0x22ce, "CURLY LOGICAL ", ["OR;AND"]⟩,
  ⟨0x22d0, "DOUBLE ", ["SUBSET;SUPERSET;INTERSECTION;UNION"]⟩,
  ⟨0x22d4, "", ["PITCHFORK;EQUAL AND PARALLEL TO;LESS-THAN WITH DOT;GREATER-THAN WITH DOT"]⟩,
  ⟨0x22d8, "VERY MUCH ", ["LESS-THAN;GREATER-THAN"]⟩,
  ⟨0x22da, "", ["LESS-THAN EQUAL TO OR GREATER-THAN;GREATER-THAN EQUAL TO OR LESS-THAN"]⟩,
  ⟨0x22dc, "EQUAL TO OR ", ["LESS-THAN;GREATER-THAN;PRECEDES;SUCCEEDS"]⟩,
  ⟨0x22e0, "DOES NOT ", ["PRECEDE OR EQUAL;SUCCEED OR EQUAL"]⟩,
  ⟨0x22e2, "NOT SQUARE ", ["IMAGE OF OR EQUAL TO;ORIGINAL OF OR EQUAL TO"]⟩,
  ⟨0x22e4, "SQUARE ", ["IMAGE OF OR NOT EQUAL TO;ORIGINAL OF OR NOT EQUAL TO"]⟩,
  ⟨0x22e6, "", ["LESS-THAN BUT NOT EQUIVALENT TO;GREATER-THAN BUT NOT EQUIVALENT TO",
    "PRECEDES BUT NOT EQUIVALENT TO;SUCCEEDS BUT NOT EQUIVALENT TO;NOT NORMAL SUBGROUP OF",
    "DOES NOT CONTAIN AS NORMAL SUBGROUP;NOT NORMAL SUBGROUP OF OR EQUAL TO",
    "DOES NOT CONTAIN AS NORMAL SUBGROUP OR EQUAL;VERTICAL ELLIPSIS;MIDLINE HORIZONTAL ELLIPSIS",
    "UP RIGHT DIAGONAL ELLIPSIS;DOWN RIGHT DIAGONAL ELLIPSIS"]⟩,
  ⟨0x22f2, "ELEMENT OF WITH ", ["LONG HORIZONTAL STROKE",
    "VERTICAL BAR AT END OF HORIZONTAL STROKE"]⟩,
  ⟨0x22f4, "SMALL ELEMENT OF WITH VERTICAL BAR AT END OF HORIZONTAL STROK", ["E"]⟩,
  ⟨0x22f5, "ELEMENT OF WITH ", ["DOT ABOVE;OVERBAR"]⟩,
  ⟨0x22f7, "SMALL ELEMENT OF WITH OVERBA", ["R"]⟩,
  ⟨0x22f8, "ELEMENT OF WITH ", ["UNDERBAR;TWO HORIZONTAL STROKES"]⟩,
  ⟨0x22fa, "CONTAINS WITH ", ["LONG HORIZONTAL STROKE;VERTICAL BAR AT END OF HORIZONTAL STROKE"]⟩,
  ⟨0x22fc, "", ["SMALL CONTAINS WITH VERTICAL BAR AT END OF HORIZONTAL STROKE",
    "CONTAINS WITH OVERBAR;SMALL CONTAINS WITH OVERBAR;Z NOTATION BAG MEMBERSHIP;DIAMETER SIGN",
    "ELECTRIC ARROW;HOUSE;UP ARROWHEAD;DOWN ARROWHEAD;PROJECTIVE;PERSPECTIVE;WAVY LINE",
    "LEFT CEILING;RIGHT CEILING;LEFT FLOOR;RIGHT FLOOR"]⟩,
  ⟨0x230c, "BOTTOM ", ["RIGHT CROP;LEFT CROP"]⟩,
  ⟨0x230e, "TOP ", ["RIGHT CROP;LEFT CROP"]⟩,
  ⟨0x2310, "", ["REVERSED NOT SIGN;SQUARE LOZENGE;ARC;SEGMENT;SECTOR;TELEPHONE RECORDER",
    "POSITION INDICATOR;VIEWDATA SQUARE;PLACE OF INTEREST SIGN;TURNED NOT SIGN;WATCH;HOURGLASS"]⟩,
  ⟨0x231c, "TOP ", ["LEFT CORNER;RIGHT CORNER"]⟩,
  ⟨0x231e, "BOTTOM ", ["LEFT CORNER;RIGHT CORNER"]⟩,
  ⟨0x2320, "", ["TOP HALF INTEGRAL;BOTTOM HALF INTEGRAL;FROWN;SMILE",
    "UP ARROWHEAD BETWEEN TWO HORIZONTAL BARS;OPTION KEY;ERASE TO THE RIGHT;X IN A RECTANGLE BOX",
    "KEYBOARD;LEFT-POINTING ANGLE BRACKET;RIGHT-POINTING ANGLE BRACKET;ERASE TO THE LEFT",
    "BENZENE RING;CYLINDRICITY;ALL AROUND-PROFILE;SYMMETRY;TOTAL RUNOUT;DIMENSION ORIGIN",
    "CONICAL TAPER;SLOPE"]⟩,
  ⟨0x2334, "COUNTER", ["BORE;SINK"]⟩,
  ⟨0x2336, "APL FUNCTIONAL SYMBOL ", ["I-BEAM;SQUISH QUAD;QUAD EQUAL;QUAD DIVIDE;QUAD DIAMOND",
    "QUAD JOT;QUAD CIRCLE;CIRCLE STILE;CIRCLE JOT;SLASH BAR;BACKSLASH BAR;QUAD SLASH",
    "QUAD BACKSLASH;QUAD LESS-THAN;QUAD GREATER-THAN;LEFTWARDS VANE;RIGHTWARDS VANE",
    "QUAD LEFTWARDS ARROW;QUAD RIGHTWARDS ARROW;CIRCLE BACKSLASH;DOWN TACK UNDERBAR;DELTA STILE",
    "QUAD DOWN CARET;QUAD DELTA;DOWN TACK JOT;UPWARDS VANE;QUAD UPWARDS ARROW;UP TACK OVERBAR",
    "DEL STILE;QUAD UP CARET;QUAD DEL;UP TACK JOT;DOWNWARDS VANE;QUAD DOWNWARDS ARROW",
    "QUOTE UNDERBAR;DELTA UNDERBAR;DIAMOND UNDERBAR;JOT UNDERBAR;CIRCLE UNDERBAR;UP SHOE JOT",
    "QUOTE QUAD;CIRCLE STAR;QUAD COLON;UP TACK DIAERESIS;DEL DIAERESIS;STAR DIAERESIS",
    "JOT DIAERESIS;CIRCLE DIAERESIS;DOWN SHOE STILE;LEFT SHOE STILE;TILDE DIAERESIS",
    "GREATER-THAN DIAERESIS;COMMA BAR;DEL TILDE;ZILDE;STILE TILDE;SEMICOLON UNDERBAR",
    "QUAD NOT EQUAL;QUAD QUESTION;DOWN CARET TILDE;UP CARET TILDE;IOTA;RHO;OMEGA;ALPHA UNDERBAR",
    "EPSILON UNDERBAR;IOTA UNDERBAR;OMEGA UNDERBAR;ALPHA"]⟩,
  ⟨0x237b, "", ["NOT CHECK MARK;RIGHT ANGLE WITH DOWNWARDS ZIGZAG ARROW;SHOULDERED OPEN BOX",
    "BELL SYMBOL;VERTICAL LINE WITH MIDDLE DOT;INSERTION SYMBOL;CONTINUOUS UNDERLINE SYMBOL",
    "DISCONTINUOUS UNDERLINE SYMBOL;EMPHASIS SYMBOL;COMPOSITION SYMBOL",
    "WHITE SQUARE WITH CENTRE VERTICAL LINE;ENTER SYMBOL;ALTERNATIVE KEY SYMBOL;HELM SYMBOL"]⟩,
  ⟨0x2389, "CIRCLED ", ["HORIZONTAL BAR WITH NOTCH;TRIANGLE DOWN"]⟩,
  ⟨0x238b, "", ["BROKEN CIRCLE WITH NORTHWEST ARROW;UNDO SYMBOL;MONOSTABLE SYMBOL",
    "HYSTERESIS SYMBOL"]⟩,
  ⟨0x238f, "OPEN-CIRCUIT-OUTPUT ", ["H-TYPE SYMBOL;L-TYPE SYMBOL"]⟩,
  ⟨0x2391, "PASSIVE-PULL-", ["DOWN-OUTPUT SYMBOL;UP-OUTPUT SYMBOL"]⟩,
  ⟨0x2393, "", ["DIRECT CURRENT SYMBOL FORM TWO;SOFTWARE-FUNCTION SYMBOL",
    "APL FUNCTIONAL SYMBOL QUAD;DECIMAL SEPARATOR KEY SYMBOL;PREVIOUS PAGE;NEXT PAGE",
    "PRINT SCREEN SYMBOL;CLEAR SCREEN SYMBOL"]⟩,
  ⟨0x239b, "LEFT PARENTHESIS ", ["UPPER HOOK;EXTENSION;LOWER HOOK"]⟩,
  ⟨0x239e, "RIGHT PARENTHESIS ", ["UPPER HOOK;EXTENSION;LOWER HOOK"]⟩,
  ⟨0x23a1, "LEFT SQUARE BRACKET ", ["UPPER CORNER;EXTENSION;LOWER CORNER"]⟩,
  ⟨0x23a4, "RIGHT SQUARE BRACKET ", ["UPPER CORNER;EXTENSION;LOWER CORNER"]⟩,
  ⟨0x23a7, "LEFT CURLY BRACKET ", ["UPPER HOOK;MIDDLE PIECE;LOWER HOOK"]⟩,
  ⟨0x23aa, "CURLY BRACKET EXTENSIO", ["N"]⟩,
  ⟨0x23ab, "RIGHT CURLY BRACKET ", ["UPPER HOOK;MIDDLE PIECE;LOWER HOOK"]⟩,
  ⟨0x23ae, "", ["INTEGRAL EXTENSION;HORIZONTAL LINE EXTENSION"]⟩,
  ⟨0x23b0, "UPPER ", ["LEFT OR LOWER RIGHT CURLY BRACKET SECTION",
    "RIGHT OR LOWER LEFT CURLY BRACKET SECTION"]⟩,
  ⟨0x23b2, "SUMMATION ", ["TOP;BOTTOM"]⟩,
  ⟨0x23b4, "TOP SQUARE BRACKE", ["T"]⟩,
  ⟨0x23b5, "BOTTOM SQUARE BRACKE", ["T;T OVER TOP SQUARE BRACKET"]⟩,
  ⟨0x23b7, "", ["RADICAL SYMBOL BOTTOM;LEFT VERTICAL BOX LINE;RIGHT VERTICAL BOX LINE"]⟩,
  ⟨0x23ba, "HORIZONTAL SCAN LINE-", ["1;3;7;9"]⟩,
  ⟨0x23be, "DENTISTRY SYMBOL LIGHT ", ["VERTICAL AND TOP RIGHT;VERTICAL AND BOTTOM RIGHT",
    "VERTICAL WITH CIRCLE;DOWN AND HORIZONTAL WITH CIRCLE;UP AND HORIZONTAL WITH CIRCLE",
    "VERTICAL WITH TRIANGLE;DOWN AND HORIZONTAL WITH TRIANGLE;UP AND HORIZONTAL WITH TRIANGLE",
    "VERTICAL AND WAVE;DOWN AND HORIZONTAL WITH WAVE;UP AND HORIZONTAL WITH WAVE",
    "DOWN AND HORIZONTAL;UP AND HORIZONTAL;VERTICAL AND TOP LEFT;VERTICAL AND BOTTOM LEFT"]⟩,
  ⟨0x23cd, "", ["SQUARE FOOT;RETURN SYMBOL;EJECT SYMBOL;VERTICAL LINE EXTENSION"]⟩,
  ⟨0x23d1, "METRICAL ", ["BREVE;LONG OVER SHORT;SHORT OVER LONG;LONG OVER TWO SHORTS",
    "TWO SHORTS OVER LONG;TWO SHORTS JOINED;TRISEME;TETRASEME;PENTASEME"]⟩,
  ⟨0x23da, "", ["EARTH GROUND;FUSE;TOP PARENTHESIS;BOTTOM PARENTHESIS;TOP CURLY BRACKET",
    "BOTTOM CURLY BRACKET;TOP TORTOISE SHELL BRACKET;BOTTOM TORTOISE SHELL BRACKET",
    "WHITE TRAPEZIUM;BENZENE RING WITH CIRCLE;STRAIGHTNESS;FLATNESS;AC CURRENT",
    "ELECTRICAL INTERSECTION;DECIMAL EXPONENT SYMBOL"]⟩,
  ⟨0x23e9, "BLACK ", ["RIGHT-POINTING DOUBLE TRIANGLE;LEFT-POINTING DOUBLE TRIANGLE",
    "UP-POINTING DOUBLE TRIANGLE;DOWN-POINTING DOUBLE TRIANGLE",
    "RIGHT-POINTING DOUBLE TRIANGLE WITH VERTICAL BAR",
    "LEFT-POINTING DOUBLE TRIANGLE WITH VERTICAL BAR",
    "RIGHT-POINTING TRIANGLE WITH DOUBLE VERTICAL BAR"]⟩,
  ⟨0x23f0, "", ["ALARM CLOCK;STOPWATCH;TIMER CLOCK;HOURGLASS WITH FLOWING SAND"]⟩,
  ⟨0x23f4, "BLACK MEDIUM ", ["LEFT-POINTING TRIANGLE;RIGHT-POINTING TRIANGLE",
    "UP-POINTING TRIANGLE;DOWN-POINTING TRIANGLE"]⟩,
  ⟨0x23f8, "DOUBLE VERTICAL BA", ["R"]⟩,
  ⟨0x23f9, "BLACK ", ["SQUARE FOR STOP;CIRCLE FOR RECORD"]⟩,
  ⟨0x23fb, "POWER ", ["SYMBOL;ON-OFF SYMBOL;ON SYMBOL;SLEEP SYMBOL"]⟩,
  ⟨0x23ff, "OBSERVER EYE SYMBO", ["L"]⟩,
  ⟨0x2400, "SYMBOL FOR ", ["NULL;START OF HEADING;START OF TEXT;END OF TEXT;END OF TRANSMISSION",
    "ENQUIRY;ACKNOWLEDGE;BELL;BACKSPACE;HORIZONTAL TABULATION;LINE FEED;VERTICAL TABULATION",
    "FORM FEED;CARRIAGE RETURN;SHIFT OUT;SHIFT IN;DATA LINK ESCAPE"]⟩,
  ⟨0x2411, "SYMBOL FOR DEVICE CONTROL ", ["ONE;TWO;THREE;FOUR"]⟩,
  ⟨0x2415, "SYMBOL FOR ", ["NEGATIVE ACKNOWLEDGE;SYNCHRONOUS IDLE;END OF TRANSMISSION BLOCK",
    "CANCEL;END OF MEDIUM;SUBSTITUTE;ESCAPE;FILE SEPARATOR;GROUP SEPARATOR;RECORD SEPARATOR",
    "UNIT SEPARATOR;SPACE;DELETE"]⟩,
  ⟨0x2422, "", ["BLANK SYMBOL;OPEN BOX"]⟩,
  ⟨0x2424, "SYMBOL FOR ", ["NEWLINE;DELETE FORM TWO;SUBSTITUTE FORM TWO"]⟩,
  ⟨0x2440, "OCR ", ["HOOK;CHAIR;FORK;INVERTED FORK;BELT BUCKLE;BOW TIE",
    "BRANCH BANK IDENTIFICATION;AMOUNT OF CHECK;DASH;CUSTOMER ACCOUNT NUMBER;DOUBLE BACKSLASH"]⟩,
  ⟨0x2460, "CIRCLED DIGIT ", ["ONE;TWO;THREE;FOUR;FIVE;SIX;SEVEN;EIGHT;NINE"]⟩,
  ⟨0x2469, "CIRCLED NUMBER ", ["TEN;ELEVEN;TWELVE;THIRTEEN;FOURTEEN;FIFTEEN;SIXTEEN;SEVENTEEN",
    "EIGHTEEN;NINETEEN;TWENTY"]⟩,
  ⟨0x2474, "PARENTHESIZED DIGIT ", ["ONE;TWO;THREE;FOUR;FIVE;SIX;SEVEN;EIGHT;NINE"]⟩,
  ⟨0x247d, "PARENTHESIZED NUMBER ", ["TEN;ELEVEN;TWELVE;THIRTEEN;FOURTEEN;FIFTEEN;SIXTEEN",
    "SEVENTEEN;EIGHTEEN;NINETEEN;TWENTY"]⟩,
  ⟨0x2488, "DIGIT ", ["ONE FULL STOP;TWO FULL STOP;THREE FULL STOP;FOUR FULL STOP",
    "FIVE FULL STOP;SIX FULL STOP;SEVEN FULL STOP;EIGHT FULL STOP;NINE FULL STOP"]⟩,
  ⟨0x2491, "NUMBER ", ["TEN FULL STOP;ELEVEN FULL STOP;TWELVE FULL STOP;THIRTEEN FULL STOP",
    "FOURTEEN FULL STOP;FIFTEEN FULL STOP;SIXTEEN FULL STOP;SEVENTEEN FULL STOP",
    "EIGHTEEN FULL STOP;NINETEEN FULL STOP;TWENTY FULL STOP"]⟩,
  ⟨0x249c, "PARENTHESIZED LATIN SMALL LETTER ", ["A;B;C;D;E;F;G;H;I;J;K;L;M;N;O;P;Q;R;S;T;U;V;W",
    "X;Y;Z"]⟩,
  ⟨0x24b6, "CIRCLED LATIN CAPITAL LETTER ", ["A;B;C;D;E;F;G;H;I;J;K;L;M;N;O;P;Q;R;S;T;U;V;W;X;Y",
    "Z"]⟩,
  ⟨0x24d0, "CIRCLED LATIN SMALL LETTER ", ["A;B;C;D;E;F;G;H;I;J;K;L;M;N;O;P;Q;R;S;T;U;V;W;X;Y;Z"]⟩,
  ⟨0x24ea, "CIRCLED DIGIT ZER", ["O"]⟩,
  ⟨0x24eb, "NEGATIVE CIRCLED NUMBER ", ["ELEVEN;TWELVE;THIRTEEN;FOURTEEN;FIFTEEN;SIXTEEN",
    "SEVENTEEN;EIGHTEEN;NINETEEN;TWENTY"]⟩,
  ⟨0x24f5, "DOUBLE CIRCLED DIGIT ", ["ONE;TWO;THREE;FOUR;FIVE;SIX;SEVEN;EIGHT;NINE"]⟩,
  ⟨0x24fe, "", ["DOUBLE CIRCLED NUMBER TEN;NEGATIVE CIRCLED DIGIT ZERO"]⟩,
  ⟨0x2500, "BOX DRAWINGS ", ["LIGHT HORIZONTAL;HEAVY HORIZONTAL;LIGHT VERTICAL;HEAVY VERTICAL",
    "LIGHT TRIPLE DASH HORIZONTAL;HEAVY TRIPLE DASH HORIZONTAL;LIGHT TRIPLE DASH VERTICAL",
    "HEAVY TRIPLE DASH VERTICAL;LIGHT QUADRUPLE DASH HORIZONTAL;HEAVY QUADRUPLE DASH HORIZONTAL",
    "LIGHT QUADRUPLE DASH VERTICAL;HEAVY QUADRUPLE DASH VERTICAL;LIGHT DOWN AND RIGHT",
    "DOWN LIGHT AND RIGHT HEAVY;DOWN HEAVY AND RIGHT LIGHT;HEAVY DOWN AND RIGHT",
    "LIGHT DOWN AND LEFT;DOWN LIGHT AND LEFT HEAVY;DOWN HEAVY AND LEFT LIGHT;HEAVY DOWN AND LEFT",
    "LIGHT UP AND RIGHT;UP LIGHT AND RIGHT HEAVY;UP HEAVY AND RIGHT LIGHT;HEAVY UP AND RIGHT",
    "LIGHT UP AND LEFT;UP LIGHT AND LEFT HEAVY;UP HEAVY AND LEFT LIGHT;HEAVY UP AND LEFT",
    "LIGHT VERTICAL AND RIGHT;VERTICAL LIGHT AND RIGHT HEAVY;UP HEAVY AND RIGHT DOWN LIGHT",
    "DOWN HEAVY AND RIGHT UP LIGHT;VERTICAL HEAVY AND RIGHT LIGHT;DOWN LIGHT AND RIGHT UP HEAVY",
    "UP LIGHT AND RIGHT DOWN HEAVY;HEAVY VERTICAL AND RIGHT;LIGHT VERTICAL AND LEFT",
    "VERTICAL LIGHT AND LEFT HEAVY;UP HEAVY AND LEFT DOWN LIGHT;DOWN HEAVY AND LEFT UP LIGHT",
    "VERTICAL HEAVY AND LEFT LIGHT;DOWN LIGHT AND LEFT UP HEAVY;UP LIGHT AND LEFT DOWN HEAVY",
    "HEAVY VERTICAL AND LEFT;LIGHT DOWN AND HORIZONTAL;LEFT HEAVY AND RIGHT DOWN LIGHT",
    "RIGHT HEAVY AND LEFT DOWN LIGHT;DOWN LIGHT AND HORIZONTAL HEAVY",
    "DOWN HEAVY AND HORIZONTAL LIGHT;RIGHT LIGHT AND LEFT DOWN HEAVY",
    "LEFT LIGHT AND RIGHT DOWN HEAVY;HEAVY DOWN AND HORIZONTAL;LIGHT UP AND HORIZONTAL",
    "LEFT HEAVY AND RIGHT UP LIGHT;RIGHT HEAVY AND LEFT UP LIGHT;UP LIGHT AND HORIZONTAL HEAVY",
    "UP HEAVY AND HORIZONTAL LIGHT;RIGHT LIGHT AND LEFT UP HEAVY;LEFT LIGHT AND RIGHT UP HEAVY",
    "HEAVY UP AND HORIZONTAL;LIGHT VERTICAL AND HORIZONTAL;LEFT HEAVY AND RIGHT VERTICAL LIGHT",
    "RIGHT HEAVY AND LEFT VERTICAL LIGHT;VERTICAL LIGHT AND HORIZONTAL HEAVY",
    "UP HEAVY AND DOWN HORIZONTAL LIGHT;DOWN HEAVY AND UP HORIZONTAL LIGHT",
    "VERTICAL HEAVY AND HORIZONTAL LIGHT;LEFT UP HEAVY AND RIGHT DOWN LIGHT",
    "RIGHT UP HEAVY AND LEFT DOWN LIGHT;LEFT DOWN HEAVY AND RIGHT UP LIGHT",
    "RIGHT DOWN HEAVY AND LEFT UP LIGHT;DOWN LIGHT AND UP HORIZONTAL HEAVY",
    "UP LIGHT AND DOWN HORIZONTAL HEAVY;RIGHT LIGHT AND LEFT VERTICAL HEAVY",
    "LEFT LIGHT AND RIGHT VERTICAL HEAVY;HEAVY VERTICAL AND HORIZONTAL",
    "LIGHT DOUBLE DASH HORIZONTAL;HEAVY DOUBLE DASH HORIZONTAL;LIGHT DOUBLE DASH VERTICAL",
    "HEAVY DOUBLE DASH VERTICAL;DOUBLE HORIZONTAL;DOUBLE VERTICAL;DOWN SINGLE AND RIGHT DOUBLE",
    "DOWN DOUBLE AND RIGHT SINGLE;DOUBLE DOWN AND RIGHT;DOWN SINGLE AND LEFT DOUBLE",
    "DOWN DOUBLE AND LEFT SINGLE;DOUBLE DOWN AND LEFT;UP SINGLE AND RIGHT DOUBLE",
    "UP DOUBLE AND RIGHT SINGLE;DOUBLE UP AND RIGHT;UP SINGLE AND LEFT DOUBLE",
    "UP DOUBLE AND LEFT SINGLE;DOUBLE UP AND LEFT;VERTICAL SINGLE AND RIGHT DOUBLE",
    "VERTICAL DOUBLE AND RIGHT SINGLE;DOUBLE VERTICAL AND RIGHT;VERTICAL SINGLE AND LEFT DOUBLE",
    "VERTICAL DOUBLE AND LEFT SINGLE;DOUBLE VERTICAL AND LEFT;DOWN SINGLE AND HORIZONTAL DOUBLE",
    "DOWN DOUBLE AND HORIZONTAL SINGLE;DOUBLE DOWN AND HORIZONTAL",
    "UP SINGLE AND HORIZONTAL DOUBLE;UP DOUBLE AND HORIZONTAL SINGLE;DOUBLE UP AND HORIZONTAL",
    "VERTICAL SINGLE AND HORIZONTAL DOUBLE;VERTICAL DOUBLE AND HORIZONTAL SINGLE",
    "DOUBLE VERTICAL AND HORIZONTAL"]⟩,
  ⟨0x256d, "BOX DRAWINGS LIGHT ", ["ARC DOWN AND RIGHT;ARC DOWN AND LEFT;ARC UP AND LEFT",
    "ARC UP AND RIGHT;DIAGONAL UPPER RIGHT TO LOWER LEFT;DIAGONAL UPPER LEFT TO LOWER RIGHT",
    "DIAGONAL CROSS;LEFT;UP;RIGHT;DOWN"]⟩,
  ⟨0x2578, "BOX DRAWINGS HEAVY ", ["LEFT;UP;RIGHT;DOWN"]⟩,
  ⟨0x257c, "BOX DRAWINGS ", ["LIGHT LEFT AND HEAVY RIGHT;LIGHT UP AND HEAVY DOWN",
    "HEAVY LEFT AND LIGHT RIGHT;HEAVY UP AND LIGHT DOWN"]⟩,
  ⟨0x2580, "UPPER HALF BLOC", ["K"]⟩,
  ⟨0x2581, "LOWER ", ["ONE EIGHTH BLOCK;ONE QUARTER BLOCK;THREE EIGHTHS BLOCK;HALF BLOCK",
    "FIVE EIGHTHS BLOCK;THREE QUARTERS BLOCK;SEVEN EIGHTHS BLOCK"]⟩,
  ⟨0x2588, "FULL BLOC", ["K"]⟩,
  ⟨0x2589, "LEFT ", ["SEVEN EIGHTHS BLOCK;THREE QUARTERS BLOCK;FIVE EIGHTHS BLOCK;HALF BLOCK",
    "THREE EIGHTHS BLOCK;ONE QUARTER BLOCK;ONE EIGHTH BLOCK"]⟩,
  ⟨0x2590, "", ["RIGHT HALF BLOCK;LIGHT SHADE;MEDIUM SHADE;DARK SHADE;UPPER ONE EIGHTH BLOCK",
    "RIGHT ONE EIGHTH BLOCK"]⟩,
  ⟨0x2596, "QUADRANT LOWER ", ["LEFT;RIGHT"]⟩,
  ⟨0x2598, "QUADRANT UPPER LEF", ["T;T AND LOWER LEFT AND LOWER RIGHT;T AND LOWER RIGHT"]⟩,
  ⟨0x259b, "QUADRANT UPPER LEFT AND UPPER RIGHT AND LOWER ", ["LEFT;RIGHT"]⟩,
  ⟨0x259d, "QUADRANT UPPER RIGH", ["T;T AND LOWER LEFT;T AND LOWER LEFT AND LOWER RIGHT"]⟩,
  ⟨0x25a0, "BLACK SQUAR", ["E"]⟩,
  ⟨0x25a1, "WHITE SQUAR", ["E;E WITH ROUNDED CORNERS;E CONTAINING BLACK SMALL SQUARE"]⟩,
  ⟨0x25a4, "SQUARE WITH ", ["HORIZONTAL FILL;VERTICAL FILL;ORTHOGONAL CROSSHATCH FILL",
    "UPPER LEFT TO LOWER RIGHT FILL;UPPER RIGHT TO LOWER LEFT FILL;DIAGONAL CROSSHATCH FILL"]⟩,
  ⟨0x25aa, "", ["BLACK SMALL SQUARE;WHITE SMALL SQUARE;BLACK RECTANGLE;WHITE RECTANGLE",
    "BLACK VERTICAL RECTANGLE;WHITE VERTICAL RECTANGLE;BLACK PARALLELOGRAM;WHITE PARALLELOGRAM",
    "BLACK UP-POINTING TRIANGLE;WHITE UP-POINTING TRIANGLE;BLACK UP-POINTING SMALL TRIANGLE",
    "WHITE UP-POINTING SMALL TRIANGLE;BLACK RIGHT-POINTING TRIANGLE",
    "WHITE RIGHT-POINTING TRIANGLE;BLACK RIGHT-POINTING SMALL TRIANGLE",
    "WHITE RIGHT-POINTING SMALL TRIANGLE;BLACK RIGHT-POINTING POINTER",
    "WHITE RIGHT-POINTING POINTER;BLACK DOWN-POINTING TRIANGLE;WHITE DOWN-POINTING TRIANGLE",
    "BLACK DOWN-POINTING SMALL TRIANGLE;WHITE DOWN-POINTING SMALL TRIANGLE",
    "BLACK LEFT-POINTING TRIANGLE;WHITE LEFT-POINTING TRIANGLE",
    "BLACK LEFT-POINTING SMALL TRIANGLE;WHITE LEFT-POINTING SMALL TRIANGLE",
    "BLACK LEFT-POINTING POINTER;WHITE LEFT-POINTING POINTER;BLACK DIAMOND"]⟩,
  ⟨0x25c7, "WHITE DIAMON", ["D;D CONTAINING BLACK SMALL DIAMOND"]⟩,
  ⟨0x25c9, "", ["FISHEYE;LOZENGE;WHITE CIRCLE;DOTTED CIRCLE;CIRCLE WITH VERTICAL FILL;BULLSEYE",
    "BLACK CIRCLE"]⟩,
  ⟨0x25d0, "CIRCLE WITH ", ["LEFT HALF BLACK;RIGHT HALF BLACK;LOWER HALF BLACK;UPPER HALF BLACK",
    "UPPER RIGHT QUADRANT BLACK;ALL BUT UPPER LEFT QUADRANT BLACK"]⟩,
  ⟨0x25d6, "", ["LEFT HALF BLACK CIRCLE;RIGHT HALF BLACK CIRCLE"]⟩,
  ⟨0x25d8, "INVERSE ", ["BULLET;WHITE CIRCLE"]⟩,
  ⟨0x25da, "", ["UPPER HALF INVERSE WHITE CIRCLE;LOWER HALF INVERSE WHITE CIRCLE"]⟩,
  ⟨0x25dc, "UPPER ", ["LEFT QUADRANT CIRCULAR ARC;RIGHT QUADRANT CIRCULAR ARC"]⟩,
  ⟨0x25de, "LOWER ", ["RIGHT QUADRANT CIRCULAR ARC;LEFT QUADRANT CIRCULAR ARC"]⟩]

/-- Punctuation, arrows, and mathematical and technical symbols, from U+25E0 on. -/
def symbolsPartC : List Block := [
  ⟨0x25e0, "", ["UPPER HALF CIRCLE;LOWER HALF CIRCLE"]⟩,
  ⟨0x25e2, "BLACK LOWER ", ["RIGHT TRIANGLE;LEFT TRIANGLE"]⟩,
  ⟨0x25e4, "BLACK UPPER ", ["LEFT TRIANGLE;RIGHT TRIANGLE"]⟩,
  ⟨0x25e6, "WHITE BULLE", ["T"]⟩,
  ⟨0x25e7, "SQUARE WITH ", ["LEFT HALF BLACK;RIGHT HALF BLACK;UPPER LEFT DIAGONAL HALF BLACK",
    "LOWER RIGHT DIAGONAL HALF BLACK"]⟩,
  ⟨0x25eb, "WHITE ", ["SQUARE WITH VERTICAL BISECTING LINE;UP-POINTING TRIANGLE WITH DOT"]⟩,
  ⟨0x25ed, "UP-POINTING TRIANGLE WITH ", ["LEFT HALF BLACK;RIGHT HALF BLACK"]⟩,
  ⟨0x25ef, "LARGE CIRCL", ["E"]⟩,
  ⟨0x25f0, "WHITE SQUARE WITH ", ["UPPER LEFT QUADRANT;LOWER LEFT QUADRANT;LOWER RIGHT QUADRANT",
    "UPPER RIGHT QUADRANT"]⟩,
  ⟨0x25f4, "WHITE CIRCLE WITH ", ["UPPER LEFT QUADRANT;LOWER LEFT QUADRANT;LOWER RIGHT QUADRANT",
    "UPPER RIGHT QUADRANT"]⟩,
  ⟨0x25f8, "UPPER ", ["LEFT TRIANGLE;RIGHT TRIANGLE"]⟩,
  ⟨0x25fa, "", ["LOWER LEFT TRIANGLE;WHITE MEDIUM SQUARE;BLACK MEDIUM SQUARE",
    "WHITE MEDIUM SMALL SQUARE;BLACK MEDIUM SMALL SQUARE;LOWER RIGHT TRIANGLE",
    "BLACK SUN WITH RAYS;CLOUD;UMBRELLA;SNOWMAN;COMET;BLACK STAR;WHITE STAR;LIGHTNING",
    "THUNDERSTORM;SUN;ASCENDING NODE;DESCENDING NODE;CONJUNCTION;OPPOSITION;BLACK TELEPHONE",
    "WHITE TELEPHONE"]⟩,
  ⟨0x2610, "BALLOT BO", ["X;X WITH CHECK;X WITH X"]⟩,
  ⟨0x2613, "", ["SALTIRE;UMBRELLA WITH RAIN DROPS;HOT BEVERAGE;WHITE SHOGI PIECE",
    "BLACK SHOGI PIECE;SHAMROCK;REVERSED ROTATED FLORAL HEART BULLET"]⟩,
  ⟨0x261a, "BLACK ", ["LEFT POINTING INDEX;RIGHT POINTING INDEX"]⟩,
  ⟨0x261c, "WHITE ", ["LEFT POINTING INDEX;UP POINTING INDEX;RIGHT POINTING INDEX",
    "DOWN POINTING INDEX"]⟩,
  ⟨0x2620, "", ["SKULL AND CROSSBONES;CAUTION SIGN;RADIOACTIVE SIGN;BIOHAZARD SIGN;CADUCEUS",
    "ANKH;ORTHODOX CROSS;CHI RHO"]⟩,
  ⟨0x2628, "CROSS OF ", ["LORRAINE;JERUSALEM"]⟩,
  ⟨0x262a, "", ["STAR AND CRESCENT;FARSI SYMBOL;ADI SHAKTI;HAMMER AND SICKLE;PEACE SYMBOL",
    "YIN YANG"]⟩,
  ⟨0x2630, "TRIGRAM FOR ", ["HEAVEN;LAKE;FIRE;THUNDER;WIND;WATER;MOUNTAIN;EARTH"]⟩,
  ⟨0x2638, "WH", ["EEL OF DHARMA;ITE FROWNING FACE;ITE SMILING FACE"]⟩,
  ⟨0x263b, "", ["BLACK SMILING FACE;WHITE SUN WITH RAYS;FIRST QUARTER MOON;LAST QUARTER MOON",
    "MERCURY;FEMALE SIGN;EARTH;MALE SIGN;JUPITER;SATURN;URANUS;NEPTUNE;PLUTO;ARIES;TAURUS;GEMINI",
    "CANCER;LEO;VIRGO;LIBRA;SCORPIUS;SAGITTARIUS;CAPRICORN;AQUARIUS;PISCES"]⟩,
  ⟨0x2654, "WHITE CHESS ", ["KING;QUEEN;ROOK;BISHOP;KNIGHT;PAWN"]⟩,
  ⟨0x265a, "BLACK CHESS ", ["KING;QUEEN;ROOK;BISHOP;KNIGHT;PAWN"]⟩,
  ⟨0x2660, "", ["BLACK SPADE SUIT;WHITE HEART SUIT;WHITE DIAMOND SUIT;BLACK CLUB SUIT",
    "WHITE SPADE SUIT;BLACK HEART SUIT;BLACK DIAMOND SUIT;WHITE CLUB SUIT;HOT SPRINGS",
    "QUARTER NOTE;EIGHTH NOTE"]⟩,
  ⟨0x266b, "BEAMED ", ["EIGHTH NOTES;SIXTEENTH NOTES"]⟩,
  ⟨0x266d, "MUSIC ", ["FLAT SIGN;NATURAL SIGN;SHARP SIGN"]⟩,
  ⟨0x2670, "", ["WEST SYRIAC CROSS;EAST SYRIAC CROSS;UNIVERSAL RECYCLING SYMBOL"]⟩,
  ⟨0x2673, "RECYCLING SYMBOL FOR TYPE-", ["1 PLASTICS;2 PLASTICS;3 PLASTICS;4 PLASTICS",
    "5 PLASTICS;6 PLASTICS;7 PLASTICS"]⟩,
  ⟨0x267a, "", ["RECYCLING SYMBOL FOR GENERIC MATERIALS;BLACK UNIVERSAL RECYCLING SYMBOL",
    "RECYCLED PAPER SYMBOL;PARTIALLY-RECYCLED PAPER SYMBOL;PERMANENT PAPER SIGN",
    "WHEELCHAIR SYMBOL"]⟩,
  ⟨0x2680, "DIE FACE-", ["1;2;3;4;5;6"]⟩,
  ⟨0x2686, "WHITE CIRCLE WITH ", ["DOT RIGHT;TWO DOTS"]⟩,
  ⟨0x2688, "BLACK CIRCLE WITH ", ["WHITE DOT RIGHT;TWO WHITE DOTS"]⟩,
  ⟨0x268a, "MONOGRAM FOR Y", ["ANG;IN"]⟩,
  ⟨0x268c, "DIGRAM FOR ", ["GREATER YANG;LESSER YIN;LESSER YANG;GREATER YIN"]⟩,
  ⟨0x2690, "", ["WHITE FLAG;BLACK FLAG;HAMMER AND PICK;ANCHOR;CROSSED SWORDS",
    "STAFF OF AESCULAPIUS;SCALES;ALEMBIC;FLOWER;GEAR;STAFF OF HERMES;ATOM SYMBOL;FLEUR-DE-LIS",
    "OUTLINED WHITE STAR"]⟩,
  ⟨0x269e, "THREE LINES CONVERGING ", ["RIGHT;LEFT"]⟩,
  ⟨0x26a0, "", ["WARNING SIGN;HIGH VOLTAGE SIGN"]⟩,
  ⟨0x26a2, "DOUBLED ", ["FEMALE SIGN;MALE SIGN"]⟩,
  ⟨0x26a4, "", ["INTERLOCKED FEMALE AND MALE SIGN;MALE AND FEMALE SIGN"]⟩,
  ⟨0x26a6, "MALE WITH STROKE ", ["SIGN;AND MALE AND FEMALE SIGN"]⟩,
  ⟨0x26a8, "", ["VERTICAL MALE WITH STROKE SIGN;HORIZONTAL MALE WITH STROKE SIGN"]⟩,
  ⟨0x26aa, "MEDIUM ", ["WHITE CIRCLE;BLACK CIRCLE;SMALL WHITE CIRCLE"]⟩,
  ⟨0x26ad, "", ["MARRIAGE SYMBOL;DIVORCE SYMBOL;UNMARRIED PARTNERSHIP SYMBOL;COFFIN;FUNERAL URN",
    "NEUTER;CERES;PALLAS;JUNO;VESTA;CHIRON;BLACK MOON LILITH;SEXTILE;SEMISEXTILE;QUINCUNX",
    "SESQUIQUADRATE;SOCCER BALL;BASEBALL;SQUARED KEY"]⟩,
  ⟨0x26c0, "WHITE DRAUGHTS ", ["MAN;KING"]⟩,
  ⟨0x26c2, "BLACK DRAUGHTS ", ["MAN;KING"]⟩,
  ⟨0x26c4, "", ["SNOWMAN WITHOUT SNOW;SUN BEHIND CLOUD;RAIN;BLACK SNOWMAN",
    "THUNDER CLOUD AND RAIN"]⟩,
  ⟨0x26c9, "TURNED ", ["WHITE SHOGI PIECE;BLACK SHOGI PIECE"]⟩,
  ⟨0x26cb, "", ["WHITE DIAMOND IN SQUARE;CROSSING LANES;DISABLED CAR;OPHIUCHUS;PICK;CAR SLIDING",
    "HELMET WITH WHITE CROSS;CIRCLED CROSSING LANES;CHAINS;NO ENTRY",
    "ALTERNATE ONE-WAY LEFT WAY TRAFFIC;BLACK TWO-WAY LEFT WAY TRAFFIC",
    "WHITE TWO-WAY LEFT WAY TRAFFIC;BLACK LEFT LANE MERGE;WHITE LEFT LANE MERGE;DRIVE SLOW SIGN",
    "HEAVY WHITE DOWN-POINTING TRIANGLE;LEFT CLOSED ENTRY;SQUARED SALTIRE",
    "FALLING DIAGONAL IN WHITE CIRCLE IN BLACK SQUARE;BLACK TRUCK"]⟩,
  ⟨0x26e0, "RESTRICTED LEFT ENTRY-", ["1;2"]⟩,
  ⟨0x26e2, "", ["ASTRONOMICAL SYMBOL FOR URANUS;HEAVY CIRCLE WITH STROKE AND TWO DOTS ABOVE",
    "PENTAGRAM;RIGHT-HANDED INTERLACED PENTAGRAM;LEFT-HANDED INTERLACED PENTAGRAM",
    "INVERTED PENTAGRAM;BLACK CROSS ON SHIELD;SHINTO SHRINE;CHURCH;CASTLE;HISTORIC SITE"]⟩,
  ⟨0x26ed, "GEAR WITH", ["OUT HUB; HANDLES"]⟩,
  ⟨0x26ef, "", ["MAP SYMBOL FOR LIGHTHOUSE;MOUNTAIN;UMBRELLA ON GROUND;FOUNTAIN;FLAG IN HOLE",
    "FERRY;SAILBOAT;SQUARE FOUR CORNERS;SKIER;ICE SKATE;PERSON WITH BALL;TENT",
    "JAPANESE BANK SYMBOL;HEADSTONE GRAVEYARD SYMBOL;FUEL PUMP;CUP ON BLACK SQUARE",
    "WHITE FLAG WITH HORIZONTAL MIDDLE BLACK STRIPE;BLACK SAFETY SCISSORS;UPPER BLADE SCISSORS",
    "BLACK SCISSORS;LOWER BLADE SCISSORS;WHITE SCISSORS;WHITE HEAVY CHECK MARK",
    "TELEPHONE LOCATION SIGN;TAPE DRIVE;AIRPLANE;ENVELOPE"]⟩,
  ⟨0x270a, "RAISED ", ["FIST;HAND"]⟩,
  ⟨0x270c, "", ["VICTORY HAND;WRITING HAND;LOWER RIGHT PENCIL;PENCIL;UPPER RIGHT PENCIL",
    "WHITE NIB;BLACK NIB;CHECK MARK;HEAVY CHECK MARK;MULTIPLICATION X;HEAVY MULTIPLICATION X",
    "BALLOT X;HEAVY BALLOT X;OUTLINED GREEK CROSS;HEAVY GREEK CROSS;OPEN CENTRE CROSS",
    "HEAVY OPEN CENTRE CROSS;LATIN CROSS;SHADOWED WHITE LATIN CROSS;OUTLINED LATIN CROSS",
    "MALTESE CROSS;STAR OF DAVID;FOUR TEARDROP-SPOKED ASTERISK;FOUR BALLOON-SPOKED ASTERISK",
    "HEAVY FOUR BALLOON-SPOKED ASTERISK;FOUR CLUB-SPOKED ASTERISK;BLACK FOUR POINTED STAR",
    "WHITE FOUR POINTED STAR;SPARKLES;STRESS OUTLINED WHITE STAR;CIRCLED WHITE STAR",
    "OPEN CENTRE BLACK STAR;BLACK CENTRE WHITE STAR;OUTLINED BLACK STAR",
    "HEAVY OUTLINED BLACK STAR;PINWHEEL STAR;SHADOWED WHITE STAR;HEAVY ASTERISK",
    "OPEN CENTRE ASTERISK;EIGHT SPOKED ASTERISK"]⟩,
  ⟨0x2734, "EIGHT POINTED ", ["BLACK STAR;PINWHEEL STAR"]⟩,
  ⟨0x2736, "", ["SIX POINTED BLACK STAR;EIGHT POINTED RECTILINEAR BLACK STAR",
    "HEAVY EIGHT POINTED RECTILINEAR BLACK STAR;TWELVE POINTED BLACK STAR",
    "SIXTEEN POINTED ASTERISK;TEARDROP-SPOKED ASTERISK;OPEN CENTRE TEARDROP-SPOKED ASTERISK",
    "HEAVY TEARDROP-SPOKED ASTERISK;SIX PETALLED BLACK AND WHITE FLORETTE;BLACK FLORETTE",
    "WHITE FLORETTE;EIGHT PETALLED OUTLINED BLACK FLORETTE",
    "CIRCLED OPEN CENTRE EIGHT POINTED STAR;HEAVY TEARDROP-SPOKED PINWHEEL ASTERISK;SNOWFLAKE",
    "TIGHT TRIFOLIATE SNOWFLAKE;HEAVY CHEVRON SNOWFLAKE;SPARKLE;HEAVY SPARKLE",
    "BALLOON-SPOKED ASTERISK;EIGHT TEARDROP-SPOKED PROPELLER ASTERISK",
    "HEAVY EIGHT TEARDROP-SPOKED PROPELLER ASTERISK;CROSS MARK;SHADOWED WHITE CIRCLE",
    "NEGATIVE SQUARED CROSS MARK;LOWER RIGHT DROP-SHADOWED WHITE SQUARE",
    "UPPER RIGHT DROP-SHADOWED WHITE SQUARE;LOWER RIGHT SHADOWED WHITE SQUARE",
    "UPPER RIGHT SHADOWED WHITE SQUARE;BLACK QUESTION MARK ORNAMENT;WHITE QUESTION MARK ORNAMENT",
    "WHITE EXCLAMATION MARK ORNAMENT;BLACK DIAMOND MINUS WHITE X;HEAVY EXCLAMATION MARK SYMBOL",
    "LIGHT VERTICAL BAR;MEDIUM VERTICAL BAR"]⟩,
  ⟨0x275a, "HEAVY ", ["VERTICAL BAR;SINGLE TURNED COMMA QUOTATION MARK ORNAMENT",
    "SINGLE COMMA QUOTATION MARK ORNAMENT;DOUBLE TURNED COMMA QUOTATION MARK ORNAMENT",
    "DOUBLE COMMA QUOTATION MARK ORNAMENT;LOW SINGLE COMMA QUOTATION MARK ORNAMENT",
    "LOW DOUBLE COMMA QUOTATION MARK ORNAMENT"]⟩,
  ⟨0x2761, "CURVED STEM PARAGRAPH SIGN ORNAMEN", ["T"]⟩,
  ⟨0x2762, "HEAVY ", ["EXCLAMATION MARK ORNAMENT;HEART EXCLAMATION MARK ORNAMENT;BLACK HEART"]⟩,
  ⟨0x2765, "", ["ROTATED HEAVY BLACK HEART BULLET;FLORAL HEART;ROTATED FLORAL HEART BULLET"]⟩,
  ⟨0x2768, "MEDIUM ", ["LEFT PARENTHESIS ORNAMENT;RIGHT PARENTHESIS ORNAMENT",
    "FLATTENED LEFT PARENTHESIS ORNAMENT;FLATTENED RIGHT PARENTHESIS ORNAMENT",
    "LEFT-POINTING ANGLE BRACKET ORNAMENT;RIGHT-POINTING ANGLE BRACKET ORNAMENT"]⟩,
  ⟨0x276e, "HEAVY ", ["LEFT-POINTING ANGLE QUOTATION MARK ORNAMENT",
    "RIGHT-POINTING ANGLE QUOTATION MARK ORNAMENT;LEFT-POINTING ANGLE BRACKET ORNAMENT",
    "RIGHT-POINTING ANGLE BRACKET ORNAMENT"]⟩,
  ⟨0x2772, "LIGHT ", ["LEFT TORTOISE SHELL BRACKET ORNAMENT",
    "RIGHT TORTOISE SHELL BRACKET ORNAMENT"]⟩,
  ⟨0x2774, "MEDIUM ", ["LEFT CURLY BRACKET ORNAMENT;RIGHT CURLY BRACKET ORNAMENT"]⟩,
  ⟨0x2776, "DINGBAT NEGATIVE CIRCLED DIGIT ", ["ONE;TWO;THREE;FOUR;FIVE;SIX;SEVEN;EIGHT;NINE"]⟩,
  ⟨0x277f, "DINGBAT NEGATIVE CIRCLED NUMBER TE", ["N"]⟩,
  ⟨0x2780, "DINGBAT CIRCLED SANS-SERIF DIGIT ", ["ONE;TWO;THREE;FOUR;FIVE;SIX;SEVEN;EIGHT;NINE"]⟩,
  ⟨0x2789, "DINGBAT CIRCLED SANS-SERIF NUMBER TE", ["N"]⟩,
  ⟨0x278a, "DINGBAT NEGATIVE CIRCLED SANS-SERIF DIGIT ", ["ONE;TWO;THREE;FOUR;FIVE;SIX;SEVEN",
    "EIGHT;NINE"]⟩,
  ⟨0x2793, "DINGBAT NEGATIVE CIRCLED SANS-SERIF NUMBER TE", ["N"]⟩,
  ⟨0x2794, "HEAVY ", ["WIDE-HEADED RIGHTWARDS ARROW;PLUS SIGN;MINUS SIGN;DIVISION SIGN",
    "SOUTH EAST ARROW;RIGHTWARDS ARROW;NORTH EAST ARROW"]⟩,
  ⟨0x279b, "", ["DRAFTING POINT RIGHTWARDS ARROW;HEAVY ROUND-TIPPED RIGHTWARDS ARROW",
    "TRIANGLE-HEADED RIGHTWARDS ARROW;HEAVY TRIANGLE-HEADED RIGHTWARDS ARROW",
    "DASHED TRIANGLE-HEADED RIGHTWARDS ARROW;HEAVY DASHED TRIANGLE-HEADED RIGHTWARDS ARROW",
    "BLACK RIGHTWARDS ARROW"]⟩,
  ⟨0x27a2, "THREE-D ", ["TOP-LIGHTED RIGHTWARDS ARROWHEAD;BOTTOM-LIGHTED RIGHTWARDS ARROWHEAD"]⟩,
  ⟨0x27a4, "BLACK RIGHTWARDS ARROWHEA", ["D"]⟩,
  ⟨0x27a5, "HEAVY BLACK CURVED ", ["DOWNWARDS AND RIGHTWARDS ARROW;UPWARDS AND RIGHTWARDS ARROW"]⟩,
  ⟨0x27a7, "", ["SQUAT BLACK RIGHTWARDS ARROW;HEAVY CONCAVE-POINTED BLACK RIGHTWARDS ARROW",
    "RIGHT-SHADED WHITE RIGHTWARDS ARROW;LEFT-SHADED WHITE RIGHTWARDS ARROW",
    "BACK-TILTED SHADOWED WHITE RIGHTWARDS ARROW;FRONT-TILTED SHADOWED WHITE RIGHTWARDS ARROW",
    "HEAVY LOWER RIGHT-SHADOWED WHITE RIGHTWARDS ARROW",
    "HEAVY UPPER RIGHT-SHADOWED WHITE RIGHTWARDS ARROW",
    "NOTCHED LOWER RIGHT-SHADOWED WHITE RIGHTWARDS ARROW;CURLY LOOP",
    "NOTCHED UPPER RIGHT-SHADOWED WHITE RIGHTWARDS ARROW;CIRCLED HEAVY WHITE RIGHTWARDS ARROW",
    "WHITE-FEATHERED RIGHTWARDS ARROW"]⟩,
  ⟨0x27b4, "BLACK-FEATHERED ", ["SOUTH EAST ARROW;RIGHTWARDS ARROW;NORTH EAST ARROW"]⟩,
  ⟨0x27b7, "HEAVY BLACK-FEATHERED ", ["SOUTH EAST ARROW;RIGHTWARDS ARROW;NORTH EAST ARROW"]⟩,
  ⟨0x27ba, "", ["TEARDROP-BARBED RIGHTWARDS ARROW;HEAVY TEARDROP-SHANKED RIGHTWARDS ARROW",
    "WEDGE-TAILED RIGHTWARDS ARROW;HEAVY WEDGE-TAILED RIGHTWARDS ARROW",
    "OPEN-OUTLINED RIGHTWARDS ARROW;DOUBLE CURLY LOOP;THREE DIMENSIONAL ANGLE",
    "WHITE TRIANGLE CONTAINING SMALL WHITE TRIANGLE;PERPENDICULAR"]⟩,
  ⟨0x27c3, "OPEN SU", ["BSET;PERSET"]⟩,
  ⟨0x27c5, "", ["LEFT S-SHAPED BAG DELIMITER;RIGHT S-SHAPED BAG DELIMITER;OR WITH DOT INSIDE",
    "REVERSE SOLIDUS PRECEDING SUBSET;SUPERSET PRECEDING SOLIDUS",
    "VERTICAL BAR WITH HORIZONTAL STROKE;MATHEMATICAL RISING DIAGONAL;LONG DIVISION",
    "MATHEMATICAL FALLING DIAGONAL"]⟩,
  ⟨0x27ce, "SQUARED LOGICAL ", ["AND;OR"]⟩,
  ⟨0x27d0, "", ["WHITE DIAMOND WITH CENTRED DOT;AND WITH DOT;ELEMENT OF OPENING UPWARDS",
    "LOWER RIGHT CORNER WITH DOT;UPPER LEFT CORNER WITH DOT;LEFT OUTER JOIN;RIGHT OUTER JOIN",
    "FULL OUTER JOIN"]⟩,
  ⟨0x27d8, "LARGE ", ["UP TACK;DOWN TACK"]⟩,
  ⟨0x27da, "LEFT AND RIGHT ", ["DOUBLE TURNSTILE;TACK"]⟩,
  ⟨0x27dc, "", ["LEFT MULTIMAP;LONG RIGHT TACK;LONG LEFT TACK;UP TACK WITH CIRCLE ABOVE",
    "LOZENGE DIVIDED BY HORIZONTAL RULE"]⟩,
  ⟨0x27e1, "WHITE CONCAVE-SIDED DIAMON", ["D;D WITH LEFTWARDS TICK;D WITH RIGHTWARDS TICK"]⟩,
  ⟨0x27e4, "WHITE SQUARE WITH ", ["LEFTWARDS TICK;RIGHTWARDS TICK"]⟩,
  ⟨0x27e6, "MATHEMATICAL ", ["LEFT WHITE SQUARE BRACKET;RIGHT WHITE SQUARE BRACKET",
    "LEFT ANGLE BRACKET;RIGHT ANGLE BRACKET;LEFT DOUBLE ANGLE BRACKET;RIGHT DOUBLE ANGLE BRACKET",
    "LEFT WHITE TORTOISE SHELL BRACKET;RIGHT WHITE TORTOISE SHELL BRACKET",
    "LEFT FLATTENED PARENTHESIS;RIGHT FLATTENED PARENTHESIS"]⟩,
  ⟨0x27f0, "", ["UPWARDS QUADRUPLE ARROW;DOWNWARDS QUADRUPLE ARROW",
    "ANTICLOCKWISE GAPPED CIRCLE ARROW;CLOCKWISE GAPPED CIRCLE ARROW",
    "RIGHT ARROW WITH CIRCLED PLUS"]⟩,
  ⟨0x27f5, "LONG ", ["LEFTWARDS ARROW;RIGHTWARDS ARROW;LEFT RIGHT ARROW;LEFTWARDS DOUBLE ARROW",
    "RIGHTWARDS DOUBLE ARROW;LEFT RIGHT DOUBLE ARROW;LEFTWARDS ARROW FROM BAR",
    "RIGHTWARDS ARROW FROM BAR;LEFTWARDS DOUBLE ARROW FROM BAR"]⟩,
  ⟨0x27fe, "LONG RIGHTWARDS ", ["DOUBLE ARROW FROM BAR;SQUIGGLE ARROW"]⟩,
  ⟨0x2800, "BRAILLE PATTERN BLAN", ["K"]⟩,
  ⟨0x2801, "BRAILLE PATTERN DOTS-", ["1;2;12;3;13;23;123;4;14;24;124;34;134;234;1234;5;15;25",
    "125;35;135;235;1235;45;145;245;1245;345;1345;2345;12345;6;16;26;126;36;136;236;1236;46;146",
    "246;1246;346;1346;2346;12346;56;156;256;1256;356;1356;2356;12356;456;1456;2456;12456;3456",
    "13456;23456;123456;7;17;27;127;37;137;237;1237;47;147;247;1247;347;1347;2347;12347;57;157",
    "257;1257;357;1357;2357;12357;457;1457;2457;12457;3457;13457;23457;123457;67;167;267;1267",
    "367;1367;2367;12367;467;1467;2467;12467;3467;13467;23467;123467;567;1567;2567;12567;3567",
    "13567;23567;123567;4567;14567;24567;124567;34567;134567;234567;1234567;8;18;28;128;38;138",
    "238;1238;48;148;248;1248;348;1348;2348;12348;58;158;258;1258;358;1358;2358;12358;458;1458",
    "2458;12458;3458;13458;23458;123458;68;168;268;1268;368;1368;2368;12368;468;1468;2468;12468",
    "3468;13468;23468;123468;568;1568;2568;12568;3568;13568;23568;123568;4568;14568;24568;124568",
    "34568;134568;234568;1234568;78;178;278;1278;378;1378;2378;12378;478;1478;2478;12478;3478",
    "13478;23478;123478;578;1578;2578;12578;3578;13578;23578;123578;4578;14578;24578;124578",
    "34578;134578;234578;1234578;678;1678;2678;12678;3678;13678;23678;123678;4678;14678;24678",
    "124678;34678;134678;234678;1234678;5678;15678;25678;125678;35678;135678;235678;1235678",
    "45678;145678;245678;1245678;345678;1345678;2345678;12345678"]⟩,
  ⟨0x2900, "RIGHTWARDS TWO-HEADED ARROW WITH ", ["VERTICAL STROKE;DOUBLE VERTICAL STROKE"]⟩,
  ⟨0x2902, "", ["LEFTWARDS DOUBLE ARROW WITH VERTICAL STROKE",
    "RIGHTWARDS DOUBLE ARROW WITH VERTICAL STROKE;LEFT RIGHT DOUBLE ARROW WITH VERTICAL STROKE",
    "RIGHTWARDS TWO-HEADED ARROW FROM BAR;LEFTWARDS DOUBLE ARROW FROM BAR",
    "RIGHTWARDS DOUBLE ARROW FROM BAR;DOWNWARDS ARROW WITH HORIZONTAL STROKE"]⟩,
  ⟨0x2909, "UPWARDS ", ["ARROW WITH HORIZONTAL STROKE;TRIPLE ARROW"]⟩,
  ⟨0x290b, "", ["DOWNWARDS TRIPLE ARROW;LEFTWARDS DOUBLE DASH ARROW",
    "RIGHTWARDS DOUBLE DASH ARROW;LEFTWARDS TRIPLE DASH ARROW"]⟩,
  ⟨0x290f, "RIGHTWARDS ", ["TRIPLE DASH ARROW;TWO-HEADED TRIPLE DASH ARROW",
    "ARROW WITH DOTTED STEM"]⟩]

/-- Punctuation, arrows, and mathematical and technical symbols, from U+2912 on. -/
def symbolsPartD : List Block := [
  ⟨0x2912, "", ["UPWARDS ARROW TO BAR;DOWNWARDS ARROW TO BAR"]⟩,
  ⟨0x2914, "RIGHTWARDS ARROW WITH TAIL WITH ", ["VERTICAL STROKE;DOUBLE VERTICAL STROKE"]⟩,
  ⟨0x2916, "RIGHTWARDS TWO-HEADED ARROW WITH TAI", ["L;L WITH VERTICAL STROKE",
    "L WITH DOUBLE VERTICAL STROKE"]⟩,
  ⟨0x2919, "", ["LEFTWARDS ARROW-TAIL;RIGHTWARDS ARROW-TAIL;LEFTWARDS DOUBLE ARROW-TAIL",
    "RIGHTWARDS DOUBLE ARROW-TAIL;LEFTWARDS ARROW TO BLACK DIAMOND",
    "RIGHTWARDS ARROW TO BLACK DIAMOND;LEFTWARDS ARROW FROM BAR TO BLACK DIAMOND",
    "RIGHTWARDS ARROW FROM BAR TO BLACK DIAMOND"]⟩,
  ⟨0x2921, "NORTH ", ["WEST AND SOUTH EAST ARROW;EAST AND SOUTH WEST ARROW;WEST ARROW WITH HOOK",
    "EAST ARROW WITH HOOK"]⟩,
  ⟨0x2925, "SOUTH ", ["EAST ARROW WITH HOOK;WEST ARROW WITH HOOK"]⟩,
  ⟨0x2927, "NORTH ", ["WEST ARROW AND NORTH EAST ARROW;EAST ARROW AND SOUTH EAST ARROW"]⟩,
  ⟨0x2929, "SOUTH ", ["EAST ARROW AND SOUTH WEST ARROW;WEST ARROW AND NORTH WEST ARROW"]⟩,
  ⟨0x292b, "", ["RISING DIAGONAL CROSSING FALLING DIAGONAL",
    "FALLING DIAGONAL CROSSING RISING DIAGONAL;SOUTH EAST ARROW CROSSING NORTH EAST ARROW",
    "NORTH EAST ARROW CROSSING SOUTH EAST ARROW;FALLING DIAGONAL CROSSING NORTH EAST ARROW",
    "RISING DIAGONAL CROSSING SOUTH EAST ARROW;NORTH EAST ARROW CROSSING NORTH WEST ARROW",
    "NORTH WEST ARROW CROSSING NORTH EAST ARROW;WAVE ARROW POINTING DIRECTLY RIGHT"]⟩,
  ⟨0x2934, "ARROW POINTING RIGHTWARDS THEN CURVING ", ["UPWARDS;DOWNWARDS"]⟩,
  ⟨0x2936, "ARROW POINTING DOWNWARDS THEN CURVING ", ["LEFTWARDS;RIGHTWARDS"]⟩,
  ⟨0x2938, "", ["RIGHT-SIDE ARC CLOCKWISE ARROW;LEFT-SIDE ARC ANTICLOCKWISE ARROW",
    "TOP ARC ANTICLOCKWISE ARROW;BOTTOM ARC ANTICLOCKWISE ARROW"]⟩,
  ⟨0x293c, "TOP ARC ", ["CLOCKWISE ARROW WITH MINUS;ANTICLOCKWISE ARROW WITH PLUS"]⟩,
  ⟨0x293e, "LOWER ", ["RIGHT SEMICIRCULAR CLOCKWISE ARROW;LEFT SEMICIRCULAR ANTICLOCKWISE ARROW"]⟩,
  ⟨0x2940, "", ["ANTICLOCKWISE CLOSED CIRCLE ARROW;CLOCKWISE CLOSED CIRCLE ARROW",
    "RIGHTWARDS ARROW ABOVE SHORT LEFTWARDS ARROW;LEFTWARDS ARROW ABOVE SHORT RIGHTWARDS ARROW",
    "SHORT RIGHTWARDS ARROW ABOVE LEFTWARDS ARROW;RIGHTWARDS ARROW WITH PLUS BELOW",
    "LEFTWARDS ARROW WITH PLUS BELOW;RIGHTWARDS ARROW THROUGH X",
    "LEFT RIGHT ARROW THROUGH SMALL CIRCLE;UPWARDS TWO-HEADED ARROW FROM SMALL CIRCLE"]⟩,
  ⟨0x294a, "LEFT BARB ", ["UP RIGHT BARB DOWN HARPOON;DOWN RIGHT BARB UP HARPOON"]⟩,
  ⟨0x294c, "UP BARB ", ["RIGHT DOWN BARB LEFT HARPOON;LEFT DOWN BARB RIGHT HARPOON"]⟩,
  ⟨0x294e, "", ["LEFT BARB UP RIGHT BARB UP HARPOON;UP BARB RIGHT DOWN BARB RIGHT HARPOON",
    "LEFT BARB DOWN RIGHT BARB DOWN HARPOON;UP BARB LEFT DOWN BARB LEFT HARPOON",
    "LEFTWARDS HARPOON WITH BARB UP TO BAR;RIGHTWARDS HARPOON WITH BARB UP TO BAR",
    "UPWARDS HARPOON WITH BARB RIGHT TO BAR;DOWNWARDS HARPOON WITH BARB RIGHT TO BAR",
    "LEFTWARDS HARPOON WITH BARB DOWN TO BAR;RIGHTWARDS HARPOON WITH BARB DOWN TO BAR",
    "UPWARDS HARPOON WITH BARB LEFT TO BAR;DOWNWARDS HARPOON WITH BARB LEFT TO BAR",
    "LEFTWARDS HARPOON WITH BARB UP FROM BAR;RIGHTWARDS HARPOON WITH BARB UP FROM BAR",
    "UPWARDS HARPOON WITH BARB RIGHT FROM BAR;DOWNWARDS HARPOON WITH BARB RIGHT FROM BAR",
    "LEFTWARDS HARPOON WITH BARB DOWN FROM BAR;RIGHTWARDS HARPOON WITH BARB DOWN FROM BAR",
    "UPWARDS HARPOON WITH BARB LEFT FROM BAR;DOWNWARDS HARPOON WITH BARB LEFT FROM BAR",
    "LEFTWARDS HARPOON WITH BARB UP ABOVE LEFTWARDS HARPOON WITH BARB DOWN",
    "UPWARDS HARPOON WITH BARB LEFT BESIDE UPWARDS HARPOON WITH BARB RIGHT",
    "RIGHTWARDS HARPOON WITH BARB UP ABOVE RIGHTWARDS HARPOON WITH BARB DOWN",
    "DOWNWARDS HARPOON WITH BARB LEFT BESIDE DOWNWARDS HARPOON WITH BARB RIGHT"]⟩,
  ⟨0x2966, "LEFTWARDS HARPOON WITH BARB ", ["UP ABOVE RIGHTWARDS HARPOON WITH BARB UP",
    "DOWN ABOVE RIGHTWARDS HARPOON WITH BARB DOWN"]⟩,
  ⟨0x2968, "RIGHTWARDS HARPOON WITH BARB ", ["UP ABOVE LEFTWARDS HARPOON WITH BARB UP",
    "DOWN ABOVE LEFTWARDS HARPOON WITH BARB DOWN"]⟩,
  ⟨0x296a, "LEFTWARDS HARPOON WITH BARB ", ["UP ABOVE LONG DASH;DOWN BELOW LONG DASH"]⟩,
  ⟨0x296c, "RIGHTWARDS HARPOON WITH BARB ", ["UP ABOVE LONG DASH;DOWN BELOW LONG DASH"]⟩,
  ⟨0x296e, "", ["UPWARDS HARPOON WITH BARB LEFT BESIDE DOWNWARDS HARPOON WITH BARB RIGHT",
    "DOWNWARDS HARPOON WITH BARB LEFT BESIDE UPWARDS HARPOON WITH BARB RIGHT",
    "RIGHT DOUBLE ARROW WITH ROUNDED HEAD;EQUALS SIGN ABOVE RIGHTWARDS ARROW",
    "TILDE OPERATOR ABOVE RIGHTWARDS ARROW;LEFTWARDS ARROW ABOVE TILDE OPERATOR"]⟩,
  ⟨0x2974, "RIGHTWARDS ARROW ABOVE ", ["TILDE OPERATOR;ALMOST EQUAL TO"]⟩,
  ⟨0x2976, "", ["LESS-THAN ABOVE LEFTWARDS ARROW;LEFTWARDS ARROW THROUGH LESS-THAN",
    "GREATER-THAN ABOVE RIGHTWARDS ARROW;SUBSET ABOVE RIGHTWARDS ARROW",
    "LEFTWARDS ARROW THROUGH SUBSET;SUPERSET ABOVE LEFTWARDS ARROW;LEFT FISH TAIL",
    "RIGHT FISH TAIL;UP FISH TAIL;DOWN FISH TAIL;TRIPLE VERTICAL BAR DELIMITER"]⟩,
  ⟨0x2981, "Z NOTATION ", ["SPOT;TYPE COLON"]⟩,
  ⟨0x2983, "", ["LEFT WHITE CURLY BRACKET;RIGHT WHITE CURLY BRACKET;LEFT WHITE PARENTHESIS",
    "RIGHT WHITE PARENTHESIS"]⟩,
  ⟨0x2987, "Z NOTATION ", ["LEFT IMAGE BRACKET;RIGHT IMAGE BRACKET;LEFT BINDING BRACKET",
    "RIGHT BINDING BRACKET"]⟩,
  ⟨0x298b, "", ["LEFT SQUARE BRACKET WITH UNDERBAR;RIGHT SQUARE BRACKET WITH UNDERBAR",
    "LEFT SQUARE BRACKET WITH TICK IN TOP CORNER;RIGHT SQUARE BRACKET WITH TICK IN BOTTOM CORNER",
    "LEFT SQUARE BRACKET WITH TICK IN BOTTOM CORNER;RIGHT SQUARE BRACKET WITH TICK IN TOP CORNER",
    "LEFT ANGLE BRACKET WITH DOT;RIGHT ANGLE BRACKET WITH DOT;LEFT ARC LESS-THAN BRACKET",
    "RIGHT ARC GREATER-THAN BRACKET"]⟩,
  ⟨0x2995, "DOUBLE ", ["LEFT ARC GREATER-THAN BRACKET;RIGHT ARC LESS-THAN BRACKET"]⟩,
  ⟨0x2997, "", ["LEFT BLACK TORTOISE SHELL BRACKET;RIGHT BLACK TORTOISE SHELL BRACKET",
    "DOTTED FENCE;VERTICAL ZIGZAG LINE;MEASURED ANGLE OPENING LEFT",
    "RIGHT ANGLE VARIANT WITH SQUARE;MEASURED RIGHT ANGLE WITH DOT;ANGLE WITH S INSIDE",
    "ACUTE ANGLE"]⟩,
  ⟨0x29a0, "SPHERICAL ANGLE OPENING ", ["LEFT;UP"]⟩,
  ⟨0x29a2, "", ["TURNED ANGLE;REVERSED ANGLE;ANGLE WITH UNDERBAR;REVERSED ANGLE WITH UNDERBAR"]⟩,
  ⟨0x29a6, "OBLIQUE ANGLE OPENING ", ["UP;DOWN"]⟩,
  ⟨0x29a8, "MEASURED ANGLE WITH OPEN ARM ENDING IN ARROW POINTING ", ["UP AND RIGHT;UP AND LEFT",
    "DOWN AND RIGHT;DOWN AND LEFT;RIGHT AND UP;LEFT AND UP;RIGHT AND DOWN;LEFT AND DOWN"]⟩,
  ⟨0x29b0, "REVERSED EMPTY SE", ["T"]⟩,
  ⟨0x29b1, "EMPTY SET WITH ", ["OVERBAR;SMALL CIRCLE ABOVE;RIGHT ARROW ABOVE;LEFT ARROW ABOVE"]⟩,
  ⟨0x29b5, "CIRCLE", [" WITH HORIZONTAL BAR;D VERTICAL BAR;D PARALLEL;D REVERSE SOLIDUS",
    "D PERPENDICULAR; DIVIDED BY HORIZONTAL BAR AND TOP HALF DIVIDED BY VERTICAL BAR",
    " WITH SUPERIMPOSED X;D ANTICLOCKWISE-ROTATED DIVISION SIGN"]⟩,
  ⟨0x29bd, "UP ARROW THROUGH CIRCL", ["E"]⟩,
  ⟨0x29be, "CIRCLED ", ["WHITE BULLET;BULLET;LESS-THAN;GREATER-THAN"]⟩,
  ⟨0x29c2, "CIRCLE WITH ", ["SMALL CIRCLE TO THE RIGHT;TWO HORIZONTAL STROKES TO THE RIGHT"]⟩,
  ⟨0x29c4, "SQUARED ", ["RISING DIAGONAL SLASH;FALLING DIAGONAL SLASH;ASTERISK;SMALL CIRCLE",
    "SQUARE"]⟩,
  ⟨0x29c9, "TWO JOINED SQUARE", ["S"]⟩,
  ⟨0x29ca, "TRIANGLE WITH ", ["DOT ABOVE;UNDERBAR"]⟩,
  ⟨0x29cc, "", ["S IN TRIANGLE;TRIANGLE WITH SERIFS AT BOTTOM",
    "RIGHT TRIANGLE ABOVE LEFT TRIANGLE;LEFT TRIANGLE BESIDE VERTICAL BAR",
    "VERTICAL BAR BESIDE RIGHT TRIANGLE"]⟩,
  ⟨0x29d1, "BOWTIE WITH ", ["LEFT HALF BLACK;RIGHT HALF BLACK"]⟩,
  ⟨0x29d3, "BLACK BOWTI", ["E"]⟩,
  ⟨0x29d4, "TIMES WITH ", ["LEFT HALF BLACK;RIGHT HALF BLACK"]⟩,
  ⟨0x29d6, "", ["WHITE HOURGLASS;BLACK HOURGLASS;LEFT WIGGLY FENCE;RIGHT WIGGLY FENCE",
    "LEFT DOUBLE WIGGLY FENCE;RIGHT DOUBLE WIGGLY FENCE;INCOMPLETE INFINITY;TIE OVER INFINITY",
    "INFINITY NEGATED WITH VERTICAL BAR;DOUBLE-ENDED MULTIMAP;SQUARE WITH CONTOURED OUTLINE",
    "INCREASES AS;SHUFFLE PRODUCT"]⟩,
  ⟨0x29e3, "EQUALS SIGN AND SLANTED PARALLE", ["L;L WITH TILDE ABOVE"]⟩,
  ⟨0x29e5, "", ["IDENTICAL TO AND SLANTED PARALLEL;GLEICH STARK;THERMODYNAMIC"]⟩,
  ⟨0x29e8, "DOWN-POINTING TRIANGLE WITH ", ["LEFT HALF BLACK;RIGHT HALF BLACK"]⟩,
  ⟨0x29ea, "BLACK ", ["DIAMOND WITH DOWN ARROW;LOZENGE"]⟩,
  ⟨0x29ec, "", ["WHITE CIRCLE WITH DOWN ARROW;BLACK CIRCLE WITH DOWN ARROW"]⟩,
  ⟨0x29ee, "ERROR-BARRED ", ["WHITE SQUARE;BLACK SQUARE;WHITE DIAMOND;BLACK DIAMOND",
    "WHITE CIRCLE;BLACK CIRCLE"]⟩,
  ⟨0x29f4, "", ["RULE-DELAYED;REVERSE SOLIDUS OPERATOR;SOLIDUS WITH OVERBAR",
    "REVERSE SOLIDUS WITH HORIZONTAL STROKE;BIG SOLIDUS;BIG REVERSE SOLIDUS;DOUBLE PLUS",
    "TRIPLE PLUS;LEFT-POINTING CURVED ANGLE BRACKET;RIGHT-POINTING CURVED ANGLE BRACKET;TINY",
    "MINY"]⟩,
  ⟨0x2a00, "N-ARY CIRCLED ", ["DOT OPERATOR;PLUS OPERATOR;TIMES OPERATOR"]⟩,
  ⟨0x2a03, "N-ARY UNION OPERATOR WITH ", ["DOT;PLUS"]⟩,
  ⟨0x2a05, "N-ARY SQUARE ", ["INTERSECTION OPERATOR;UNION OPERATOR"]⟩,
  ⟨0x2a07, "TWO LOGICAL ", ["AND OPERATOR;OR OPERATOR"]⟩,
  ⟨0x2a09, "", ["N-ARY TIMES OPERATOR;MODULO TWO SUM;SUMMATION WITH INTEGRAL",
    "QUADRUPLE INTEGRAL OPERATOR;FINITE PART INTEGRAL"]⟩,
  ⟨0x2a0e, "INTEGRAL ", ["WITH DOUBLE STROKE;AVERAGE WITH SLASH"]⟩,
  ⟨0x2a10, "", ["CIRCULATION FUNCTION;ANTICLOCKWISE INTEGRATION"]⟩,
  ⟨0x2a12, "LINE INTEGRATION ", ["WITH RECTANGULAR PATH AROUND POLE",
    "WITH SEMICIRCULAR PATH AROUND POLE;NOT INCLUDING THE POLE"]⟩,
  ⟨0x2a15, "", ["INTEGRAL AROUND A POINT OPERATOR;QUATERNION INTEGRAL OPERATOR"]⟩,
  ⟨0x2a17, "INTEGRAL WITH ", ["LEFTWARDS ARROW WITH HOOK;TIMES SIGN;INTERSECTION;UNION;OVERBAR",
    "UNDERBAR"]⟩,
  ⟨0x2a1d, "", ["JOIN;LARGE LEFT TRIANGLE OPERATOR"]⟩,
  ⟨0x2a1f, "Z NOTATION SCHEMA ", ["COMPOSITION;PIPING;PROJECTION"]⟩,
  ⟨0x2a22, "PLUS SIGN WITH ", ["SMALL CIRCLE ABOVE;CIRCUMFLEX ACCENT ABOVE;TILDE ABOVE",
    "DOT BELOW;TILDE BELOW;SUBSCRIPT TWO;BLACK TRIANGLE"]⟩,
  ⟨0x2a29, "MINUS SIGN WITH ", ["COMMA ABOVE;DOT BELOW;FALLING DOTS;RISING DOTS"]⟩,
  ⟨0x2a2d, "PLUS SIGN IN ", ["LEFT HALF CIRCLE;RIGHT HALF CIRCLE"]⟩,
  ⟨0x2a2f, "VECTOR OR CROSS PRODUC", ["T"]⟩,
  ⟨0x2a30, "MULTIPLICATION SIGN WITH ", ["DOT ABOVE;UNDERBAR"]⟩,
  ⟨0x2a32, "S", ["EMIDIRECT PRODUCT WITH BOTTOM CLOSED;MASH PRODUCT"]⟩,
  ⟨0x2a34, "MULTIPLICATION SIGN IN ", ["LEFT HALF CIRCLE;RIGHT HALF CIRCLE"]⟩,
  ⟨0x2a36, "", ["CIRCLED MULTIPLICATION SIGN WITH CIRCUMFLEX ACCENT",
    "MULTIPLICATION SIGN IN DOUBLE CIRCLE;CIRCLED DIVISION SIGN;PLUS SIGN IN TRIANGLE",
    "MINUS SIGN IN TRIANGLE;MULTIPLICATION SIGN IN TRIANGLE;INTERIOR PRODUCT",
    "RIGHTHAND INTERIOR PRODUCT;Z NOTATION RELATIONAL COMPOSITION;AMALGAMATION OR COPRODUCT",
    "INTERSECTION WITH DOT"]⟩,
  ⟨0x2a41, "UNION WITH ", ["MINUS SIGN;OVERBAR"]⟩,
  ⟨0x2a43, "INTERSECTION WITH ", ["OVERBAR;LOGICAL AND"]⟩,
  ⟨0x2a45, "UNION ", ["WITH LOGICAL OR;ABOVE INTERSECTION"]⟩,
  ⟨0x2a47, "", ["INTERSECTION ABOVE UNION;UNION ABOVE BAR ABOVE INTERSECTION",
    "INTERSECTION ABOVE BAR ABOVE UNION;UNION BESIDE AND JOINED WITH UNION",
    "INTERSECTION BESIDE AND JOINED WITH INTERSECTION"]⟩,
  ⟨0x2a4c, "CLOSED ", ["UNION WITH SERIFS;INTERSECTION WITH SERIFS"]⟩,
  ⟨0x2a4e, "DOUBLE SQUARE ", ["INTERSECTION;UNION"]⟩,
  ⟨0x2a50, "CLOSED UNION WITH SERIFS AND SMASH PRODUC", ["T"]⟩,
  ⟨0x2a51, "LOGICAL ", ["AND WITH DOT ABOVE;OR WITH DOT ABOVE"]⟩,
  ⟨0x2a53, "DOUBLE LOGICAL ", ["AND;OR"]⟩,
  ⟨0x2a55, "TWO INTERSECTING LOGICAL ", ["AND;OR"]⟩,
  ⟨0x2a57, "SLOPING LARGE ", ["OR;AND"]⟩,
  ⟨0x2a59, "LOGICAL ", ["OR OVERLAPPING LOGICAL AND;AND WITH MIDDLE STEM;OR WITH MIDDLE STEM",
    "AND WITH HORIZONTAL DASH;OR WITH HORIZONTAL DASH"]⟩,
  ⟨0x2a5e, "LOGICAL AND WITH ", ["DOUBLE OVERBAR;UNDERBAR;DOUBLE UNDERBAR"]⟩,
  ⟨0x2a61, "SMALL VEE WITH UNDERBA", ["R"]⟩,
  ⟨0x2a62, "LOGICAL OR WITH DOUBLE ", ["OVERBAR;UNDERBAR"]⟩,
  ⟨0x2a64, "Z NOTATION ", ["DOMAIN ANTIRESTRICTION;RANGE ANTIRESTRICTION"]⟩,
  ⟨0x2a66, "", ["EQUALS SIGN WITH DOT BELOW;IDENTICAL WITH DOT ABOVE"]⟩,
  ⟨0x2a68, "TRIPLE HORIZONTAL BAR WITH ", ["DOUBLE VERTICAL STROKE;TRIPLE VERTICAL STROKE"]⟩,
  ⟨0x2a6a, "TILDE OPERATOR WITH ", ["DOT ABOVE;RISING DOTS"]⟩,
  ⟨0x2a6c, "", ["SIMILAR MINUS SIMILAR;CONGRUENT WITH DOT ABOVE;EQUALS WITH ASTERISK",
    "ALMOST EQUAL TO WITH CIRCUMFLEX ACCENT;APPROXIMATELY EQUAL OR EQUAL TO",
    "EQUALS SIGN ABOVE PLUS SIGN;PLUS SIGN ABOVE EQUALS SIGN;EQUALS SIGN ABOVE TILDE OPERATOR",
    "DOUBLE COLON EQUAL;TWO CONSECUTIVE EQUALS SIGNS;THREE CONSECUTIVE EQUALS SIGNS",
    "EQUALS SIGN WITH TWO DOTS ABOVE AND TWO DOTS BELOW;EQUIVALENT WITH FOUR DOTS ABOVE",
    "LESS-THAN WITH CIRCLE INSIDE;GREATER-THAN WITH CIRCLE INSIDE",
    "LESS-THAN WITH QUESTION MARK ABOVE;GREATER-THAN WITH QUESTION MARK ABOVE",
    "LESS-THAN OR SLANTED EQUAL TO;GREATER-THAN OR SLANTED EQUAL TO",
    "LESS-THAN OR SLANTED EQUAL TO WITH DOT INSIDE",
    "GREATER-THAN OR SLANTED EQUAL TO WITH DOT INSIDE",
    "LESS-THAN OR SLANTED EQUAL TO WITH DOT ABOVE",
    "GREATER-THAN OR SLANTED EQUAL TO WITH DOT ABOVE",
    "LESS-THAN OR SLANTED EQUAL TO WITH DOT ABOVE RIGHT",
    "GREATER-THAN OR SLANTED EQUAL TO WITH DOT ABOVE LEFT;LESS-THAN OR APPROXIMATE",
    "GREATER-THAN OR APPROXIMATE;LESS-THAN AND SINGLE-LINE NOT EQUAL TO",
    "GREATER-THAN AND SINGLE-LINE NOT EQUAL TO;LESS-THAN AND NOT APPROXIMATE",
    "GREATER-THAN AND NOT APPROXIMATE;LESS-THAN ABOVE DOUBLE-LINE EQUAL ABOVE GREATER-THAN",
    "GREATER-THAN ABOVE DOUBLE-LINE EQUAL ABOVE LESS-THAN;LESS-THAN ABOVE SIMILAR OR EQUAL",
    "GREATER-THAN ABOVE SIMILAR OR EQUAL;LESS-THAN ABOVE SIMILAR ABOVE GREATER-THAN",
    "GREATER-THAN ABOVE SIMILAR ABOVE LESS-THAN",
    "LESS-THAN ABOVE GREATER-THAN ABOVE DOUBLE-LINE EQUAL",
    "GREATER-THAN ABOVE LESS-THAN ABOVE DOUBLE-LINE EQUAL",
    "LESS-THAN ABOVE SLANTED EQUAL ABOVE GREATER-THAN ABOVE SLANTED EQUAL",
    "GREATER-THAN ABOVE SLANTED EQUAL ABOVE LESS-THAN ABOVE SLANTED EQUAL"]⟩,
  ⟨0x2a95, "SLANTED EQUAL TO OR ", ["LESS-THAN;GREATER-THAN;LESS-THAN WITH DOT INSIDE",
    "GREATER-THAN WITH DOT INSIDE"]⟩,
  ⟨0x2a99, "DOUBLE-LINE EQUAL TO OR ", ["LESS-THAN;GREATER-THAN"]⟩,
  ⟨0x2a9b, "DOUBLE-LINE SLANTED EQUAL TO OR ", ["LESS-THAN;GREATER-THAN"]⟩,
  ⟨0x2a9d, "SIMILAR ", ["OR LESS-THAN;OR GREATER-THAN;ABOVE LESS-THAN ABOVE EQUALS SIGN",
    "ABOVE GREATER-THAN ABOVE EQUALS SIGN"]⟩]

/-- Punctuation, arrows, and mathematical and technical symbols, from U+2AA1 on. -/
def symbolsPartE : List Block := [
  ⟨0x2aa1, "DOUBLE NESTED ", ["LESS-THAN;GREATER-THAN;LESS-THAN WITH UNDERBAR"]⟩,
  ⟨0x2aa4, "GREATER-THAN ", ["OVERLAPPING LESS-THAN;BESIDE LESS-THAN"]⟩,
  ⟨0x2aa6, "", ["LESS-THAN CLOSED BY CURVE;GREATER-THAN CLOSED BY CURVE",
    "LESS-THAN CLOSED BY CURVE ABOVE SLANTED EQUAL",
    "GREATER-THAN CLOSED BY CURVE ABOVE SLANTED EQUAL;SMALLER THAN;LARGER THAN",
    "SMALLER THAN OR EQUAL TO;LARGER THAN OR EQUAL TO;EQUALS SIGN WITH BUMPY ABOVE",
    "PRECEDES ABOVE SINGLE-LINE EQUALS SIGN;SUCCEEDS ABOVE SINGLE-LINE EQUALS SIGN",
    "PRECEDES ABOVE SINGLE-LINE NOT EQUAL TO;SUCCEEDS ABOVE SINGLE-LINE NOT EQUAL TO",
    "PRECEDES ABOVE EQUALS SIGN;SUCCEEDS ABOVE EQUALS SIGN;PRECEDES ABOVE NOT EQUAL TO",
    "SUCCEEDS ABOVE NOT EQUAL TO;PRECEDES ABOVE ALMOST EQUAL TO;SUCCEEDS ABOVE ALMOST EQUAL TO",
    "PRECEDES ABOVE NOT ALMOST EQUAL TO;SUCCEEDS ABOVE NOT ALMOST EQUAL TO"]⟩,
  ⟨0x2abb, "DOUBLE ", ["PRECEDES;SUCCEEDS"]⟩,
  ⟨0x2abd, "SU", ["BSET WITH DOT;PERSET WITH DOT;BSET WITH PLUS SIGN BELOW",
    "PERSET WITH PLUS SIGN BELOW;BSET WITH MULTIPLICATION SIGN BELOW",
    "PERSET WITH MULTIPLICATION SIGN BELOW;BSET OF OR EQUAL TO WITH DOT ABOVE",
    "PERSET OF OR EQUAL TO WITH DOT ABOVE;BSET OF ABOVE EQUALS SIGN;PERSET OF ABOVE EQUALS SIGN",
    "BSET OF ABOVE TILDE OPERATOR;PERSET OF ABOVE TILDE OPERATOR;BSET OF ABOVE ALMOST EQUAL TO",
    "PERSET OF ABOVE ALMOST EQUAL TO;BSET OF ABOVE NOT EQUAL TO;PERSET OF ABOVE NOT EQUAL TO"]⟩,
  ⟨0x2acd, "SQUARE ", ["LEFT OPEN BOX OPERATOR;RIGHT OPEN BOX OPERATOR"]⟩,
  ⟨0x2acf, "CLOSED SU", ["BSET;PERSET;BSET OR EQUAL TO;PERSET OR EQUAL TO"]⟩,
  ⟨0x2ad3, "SU", ["BSET ABOVE SUPERSET;PERSET ABOVE SUBSET;BSET ABOVE SUBSET"]⟩,
  ⟨0x2ad6, "SUPERSET ", ["ABOVE SUPERSET;BESIDE SUBSET;BESIDE AND JOINED BY DASH WITH SUBSET"]⟩,
  ⟨0x2ad9, "", ["ELEMENT OF OPENING DOWNWARDS;PITCHFORK WITH TEE TOP;TRANSVERSAL INTERSECTION",
    "FORKING;NONFORKING"]⟩,
  ⟨0x2ade, "SHORT ", ["LEFT TACK;DOWN TACK;UP TACK"]⟩,
  ⟨0x2ae1, "", ["PERPENDICULAR WITH S;VERTICAL BAR TRIPLE RIGHT TURNSTILE",
    "DOUBLE VERTICAL BAR LEFT TURNSTILE;VERTICAL BAR DOUBLE LEFT TURNSTILE",
    "DOUBLE VERTICAL BAR DOUBLE LEFT TURNSTILE;LONG DASH FROM LEFT MEMBER OF DOUBLE VERTICAL",
    "SHORT DOWN TACK WITH OVERBAR"]⟩,
  ⟨0x2ae8, "SHORT UP TACK ", ["WITH UNDERBAR;ABOVE SHORT DOWN TACK"]⟩,
  ⟨0x2aea, "DOUBLE ", ["DOWN TACK;UP TACK;STROKE NOT SIGN"]⟩,
  ⟨0x2aed, "", ["REVERSED DOUBLE STROKE NOT SIGN;DOES NOT DIVIDE WITH REVERSED NEGATION SLASH"]⟩,
  ⟨0x2aef, "VERTICAL LINE WITH CIRCLE ", ["ABOVE;BELOW"]⟩,
  ⟨0x2af1, "DOWN TACK WITH CIRCLE BELO", ["W"]⟩,
  ⟨0x2af2, "PARALLEL WITH ", ["HORIZONTAL STROKE;TILDE OPERATOR"]⟩,
  ⟨0x2af4, "TRIPLE VERTICAL BAR ", ["BINARY RELATION;WITH HORIZONTAL STROKE"]⟩,
  ⟨0x2af6, "TRIPLE ", ["COLON OPERATOR;NESTED LESS-THAN;NESTED GREATER-THAN"]⟩,
  ⟨0x2af9, "DOUBLE-LINE SLANTED ", ["LESS-THAN OR EQUAL TO;GREATER-THAN OR EQUAL TO"]⟩,
  ⟨0x2afb, "", ["TRIPLE SOLIDUS BINARY RELATION;LARGE TRIPLE VERTICAL BAR OPERATOR",
    "DOUBLE SOLIDUS OPERATOR;WHITE VERTICAL BAR;N-ARY WHITE VERTICAL BAR"]⟩,
  ⟨0x2b00, "NORTH ", ["EAST WHITE ARROW;WEST WHITE ARROW"]⟩,
  ⟨0x2b02, "SOUTH ", ["EAST WHITE ARROW;WEST WHITE ARROW"]⟩,
  ⟨0x2b04, "LEFT", [" RIGHT WHITE ARROW;WARDS BLACK ARROW"]⟩,
  ⟨0x2b06, "", ["UPWARDS BLACK ARROW;DOWNWARDS BLACK ARROW"]⟩,
  ⟨0x2b08, "NORTH ", ["EAST BLACK ARROW;WEST BLACK ARROW"]⟩,
  ⟨0x2b0a, "SOUTH ", ["EAST BLACK ARROW;WEST BLACK ARROW"]⟩,
  ⟨0x2b0c, "", ["LEFT RIGHT BLACK ARROW;UP DOWN BLACK ARROW"]⟩,
  ⟨0x2b0e, "RIGHTWARDS ARROW WITH TIP ", ["DOWNWARDS;UPWARDS"]⟩,
  ⟨0x2b10, "LEFTWARDS ARROW WITH TIP ", ["DOWNWARDS;UPWARDS"]⟩,
  ⟨0x2b12, "SQUARE WITH ", ["TOP HALF BLACK;BOTTOM HALF BLACK;UPPER RIGHT DIAGONAL HALF BLACK",
    "LOWER LEFT DIAGONAL HALF BLACK"]⟩,
  ⟨0x2b16, "DIAMOND WITH ", ["LEFT HALF BLACK;RIGHT HALF BLACK;TOP HALF BLACK;BOTTOM HALF BLACK"]⟩,
  ⟨0x2b1a, "", ["DOTTED SQUARE;BLACK LARGE SQUARE;WHITE LARGE SQUARE;BLACK VERY SMALL SQUARE",
    "WHITE VERY SMALL SQUARE;BLACK PENTAGON;WHITE PENTAGON;WHITE HEXAGON;BLACK HEXAGON",
    "HORIZONTAL BLACK HEXAGON;BLACK LARGE CIRCLE;BLACK MEDIUM DIAMOND;WHITE MEDIUM DIAMOND",
    "BLACK MEDIUM LOZENGE;WHITE MEDIUM LOZENGE"]⟩,
  ⟨0x2b29, "BLACK SMALL ", ["DIAMOND;LOZENGE"]⟩,
  ⟨0x2b2b, "", ["WHITE SMALL LOZENGE;BLACK HORIZONTAL ELLIPSE;WHITE HORIZONTAL ELLIPSE",
    "BLACK VERTICAL ELLIPSE;WHITE VERTICAL ELLIPSE;LEFT ARROW WITH SMALL CIRCLE",
    "THREE LEFTWARDS ARROWS;LEFT ARROW WITH CIRCLED PLUS;LONG LEFTWARDS SQUIGGLE ARROW"]⟩,
  ⟨0x2b34, "LEFTWARDS TWO-HEADED ", ["ARROW WITH VERTICAL STROKE",
    "ARROW WITH DOUBLE VERTICAL STROKE;ARROW FROM BAR;TRIPLE DASH ARROW"]⟩,
  ⟨0x2b38, "LEFTWARDS ARROW WITH ", ["DOTTED STEM;TAIL WITH VERTICAL STROKE",
    "TAIL WITH DOUBLE VERTICAL STROKE"]⟩,
  ⟨0x2b3b, "LEFTWARDS TWO-HEADED ARROW WITH TAI", ["L;L WITH VERTICAL STROKE",
    "L WITH DOUBLE VERTICAL STROKE"]⟩,
  ⟨0x2b3e, "", ["LEFTWARDS ARROW THROUGH X;WAVE ARROW POINTING DIRECTLY LEFT",
    "EQUALS SIGN ABOVE LEFTWARDS ARROW;REVERSE TILDE OPERATOR ABOVE LEFTWARDS ARROW",
    "LEFTWARDS ARROW ABOVE REVERSE ALMOST EQUAL TO"]⟩,
  ⟨0x2b43, "RIGHTWARDS ARROW THROUGH ", ["GREATER-THAN;SUPERSET"]⟩,
  ⟨0x2b45, "", ["LEFTWARDS QUADRUPLE ARROW;RIGHTWARDS QUADRUPLE ARROW",
    "REVERSE TILDE OPERATOR ABOVE RIGHTWARDS ARROW",
    "RIGHTWARDS ARROW ABOVE REVERSE ALMOST EQUAL TO;TILDE OPERATOR ABOVE LEFTWARDS ARROW"]⟩,
  ⟨0x2b4a, "LEFTWARDS ARROW ABOVE ", ["ALMOST EQUAL TO;REVERSE TILDE OPERATOR"]⟩,
  ⟨0x2b4c, "", ["RIGHTWARDS ARROW ABOVE REVERSE TILDE OPERATOR",
    "DOWNWARDS TRIANGLE-HEADED ZIGZAG ARROW;SHORT SLANTED NORTH ARROW",
    "SHORT BACKSLANTED SOUTH ARROW;WHITE MEDIUM STAR;BLACK SMALL STAR;WHITE SMALL STAR",
    "BLACK RIGHT-POINTING PENTAGON;WHITE RIGHT-POINTING PENTAGON"]⟩,
  ⟨0x2b55, "HEAVY ", ["LARGE CIRCLE;OVAL WITH OVAL INSIDE"]⟩,
  ⟨0x2b57, "HEAVY CIRCL", ["E WITH CIRCLE INSIDE;E;ED SALTIRE"]⟩,
  ⟨0x2b5a, "", ["SLANTED NORTH ARROW WITH HOOKED HEAD;BACKSLANTED SOUTH ARROW WITH HOOKED TAIL",
    "SLANTED NORTH ARROW WITH HORIZONTAL TAIL;BACKSLANTED SOUTH ARROW WITH HORIZONTAL TAIL",
    "BENT ARROW POINTING DOWNWARDS THEN NORTH EAST",
    "SHORT BENT ARROW POINTING DOWNWARDS THEN NORTH EAST;LEFTWARDS TRIANGLE-HEADED ARROW",
    "UPWARDS TRIANGLE-HEADED ARROW;RIGHTWARDS TRIANGLE-HEADED ARROW",
    "DOWNWARDS TRIANGLE-HEADED ARROW;LEFT RIGHT TRIANGLE-HEADED ARROW",
    "UP DOWN TRIANGLE-HEADED ARROW"]⟩,
  ⟨0x2b66, "NORTH ", ["WEST TRIANGLE-HEADED ARROW;EAST TRIANGLE-HEADED ARROW"]⟩,
  ⟨0x2b68, "SOUTH ", ["EAST TRIANGLE-HEADED ARROW;WEST TRIANGLE-HEADED ARROW"]⟩,
  ⟨0x2b6a, "", ["LEFTWARDS TRIANGLE-HEADED DASHED ARROW;UPWARDS TRIANGLE-HEADED DASHED ARROW",
    "RIGHTWARDS TRIANGLE-HEADED DASHED ARROW;DOWNWARDS TRIANGLE-HEADED DASHED ARROW",
    "CLOCKWISE TRIANGLE-HEADED OPEN CIRCLE ARROW;ANTICLOCKWISE TRIANGLE-HEADED OPEN CIRCLE ARROW",
    "LEFTWARDS TRIANGLE-HEADED ARROW TO BAR;UPWARDS TRIANGLE-HEADED ARROW TO BAR",
    "RIGHTWARDS TRIANGLE-HEADED ARROW TO BAR;DOWNWARDS TRIANGLE-HEADED ARROW TO BAR"]⟩,
  ⟨0x2b74, "NORTH ", [";;WEST TRIANGLE-HEADED ARROW TO BAR;EAST TRIANGLE-HEADED ARROW TO BAR"]⟩,
  ⟨0x2b78, "SOUTH ", ["EAST TRIANGLE-HEADED ARROW TO BAR;WEST TRIANGLE-HEADED ARROW TO BAR"]⟩,
  ⟨0x2b7a, "", ["LEFTWARDS TRIANGLE-HEADED ARROW WITH DOUBLE HORIZONTAL STROKE",
    "UPWARDS TRIANGLE-HEADED ARROW WITH DOUBLE HORIZONTAL STROKE",
    "RIGHTWARDS TRIANGLE-HEADED ARROW WITH DOUBLE HORIZONTAL STROKE",
    "DOWNWARDS TRIANGLE-HEADED ARROW WITH DOUBLE HORIZONTAL STROKE;HORIZONTAL TAB KEY",
    "VERTICAL TAB KEY;LEFTWARDS TRIANGLE-HEADED ARROW OVER RIGHTWARDS TRIANGLE-HEADED ARROW",
    "UPWARDS TRIANGLE-HEADED ARROW LEFTWARDS OF DOWNWARDS TRIANGLE-HEADED ARROW",
    "RIGHTWARDS TRIANGLE-HEADED ARROW OVER LEFTWARDS TRIANGLE-HEADED ARROW",
    "DOWNWARDS TRIANGLE-HEADED ARROW LEFTWARDS OF UPWARDS TRIANGLE-HEADED ARROW",
    "LEFTWARDS TRIANGLE-HEADED PAIRED ARROWS;UPWARDS TRIANGLE-HEADED PAIRED ARROWS",
    "RIGHTWARDS TRIANGLE-HEADED PAIRED ARROWS;DOWNWARDS TRIANGLE-HEADED PAIRED ARROWS",
    "LEFTWARDS BLACK CIRCLED WHITE ARROW;UPWARDS BLACK CIRCLED WHITE ARROW",
    "RIGHTWARDS BLACK CIRCLED WHITE ARROW;DOWNWARDS BLACK CIRCLED WHITE ARROW"]⟩,
  ⟨0x2b8c, "ANTICLOCKWISE TRIANGLE-HEADED ", ["RIGHT U-SHAPED ARROW;BOTTOM U-SHAPED ARROW",
    "LEFT U-SHAPED ARROW;TOP U-SHAPED ARROW"]⟩,
  ⟨0x2b90, "RETURN ", ["LEFT;RIGHT"]⟩,
  ⟨0x2b92, "NEWLINE ", ["LEFT;RIGHT"]⟩,
  ⟨0x2b94, "", ["FOUR CORNER ARROWS CIRCLING ANTICLOCKWISE;RIGHTWARDS BLACK ARROW;",
    "SYMBOL FOR TYPE A ELECTRONICS"]⟩,
  ⟨0x2b98, "THREE-D ", ["TOP-LIGHTED LEFTWARDS EQUILATERAL ARROWHEAD",
    "RIGHT-LIGHTED UPWARDS EQUILATERAL ARROWHEAD;TOP-LIGHTED RIGHTWARDS EQUILATERAL ARROWHEAD",
    "LEFT-LIGHTED DOWNWARDS EQUILATERAL ARROWHEAD"]⟩,
  ⟨0x2b9c, "BLACK ", ["LEFTWARDS EQUILATERAL ARROWHEAD;UPWARDS EQUILATERAL ARROWHEAD",
    "RIGHTWARDS EQUILATERAL ARROWHEAD;DOWNWARDS EQUILATERAL ARROWHEAD"]⟩,
  ⟨0x2ba0, "DOWNWARDS TRIANGLE-HEADED ARROW WITH LONG TIP ", ["LEFTWARDS;RIGHTWARDS"]⟩,
  ⟨0x2ba2, "UPWARDS TRIANGLE-HEADED ARROW WITH LONG TIP ", ["LEFTWARDS;RIGHTWARDS"]⟩,
  ⟨0x2ba4, "", ["LEFTWARDS TRIANGLE-HEADED ARROW WITH LONG TIP UPWARDS",
    "RIGHTWARDS TRIANGLE-HEADED ARROW WITH LONG TIP UPWARDS",
    "LEFTWARDS TRIANGLE-HEADED ARROW WITH LONG TIP DOWNWARDS",
    "RIGHTWARDS TRIANGLE-HEADED ARROW WITH LONG TIP DOWNWARDS"]⟩,
  ⟨0x2ba8, "BLACK CURVED ", ["DOWNWARDS AND LEFTWARDS ARROW;DOWNWARDS AND RIGHTWARDS ARROW",
    "UPWARDS AND LEFTWARDS ARROW;UPWARDS AND RIGHTWARDS ARROW;LEFTWARDS AND UPWARDS ARROW",
    "RIGHTWARDS AND UPWARDS ARROW;LEFTWARDS AND DOWNWARDS ARROW;RIGHTWARDS AND DOWNWARDS ARROW"]⟩,
  ⟨0x2bb0, "RIBBON ARROW ", ["DOWN LEFT;DOWN RIGHT;UP LEFT;UP RIGHT;LEFT UP;RIGHT UP;LEFT DOWN",
    "RIGHT DOWN"]⟩,
  ⟨0x2bb8, "UP", ["WARDS WHITE ARROW FROM BAR WITH HORIZONTAL BAR; ARROWHEAD IN A RECTANGLE BOX"]⟩,
  ⟨0x2bba, "OVERLAPPING ", ["WHITE SQUARES;WHITE AND BLACK SQUARES;BLACK SQUARES"]⟩,
  ⟨0x2bbd, "BALLOT BOX WITH LIGHT ", ["X"]⟩,
  ⟨0x2bbe, "CIRCLED ", ["X;BOLD X"]⟩,
  ⟨0x2bc0, "BLACK ", ["SQUARE CENTRED;DIAMOND CENTRED"]⟩,
  ⟨0x2bc2, "", ["TURNED BLACK PENTAGON;HORIZONTAL BLACK OCTAGON;BLACK OCTAGON"]⟩,
  ⟨0x2bc5, "BLACK MEDIUM ", ["UP-POINTING TRIANGLE CENTRED;DOWN-POINTING TRIANGLE CENTRED",
    "LEFT-POINTING TRIANGLE CENTRED;RIGHT-POINTING TRIANGLE CENTRED"]⟩,
  ⟨0x2bc9, "", ["NEPTUNE FORM TWO;TOP HALF BLACK CIRCLE;BOTTOM HALF BLACK CIRCLE",
    "LIGHT FOUR POINTED BLACK CUSP;ROTATED LIGHT FOUR POINTED BLACK CUSP;WHITE FOUR POINTED CUSP",
    "ROTATED WHITE FOUR POINTED CUSP;SQUARE POSITION INDICATOR;UNCERTAINTY SIGN;GROUP MARK"]⟩,
  ⟨0x2bd3, "PLUTO FORM ", ["TWO;THREE;FOUR;FIVE"]⟩,
  ⟨0x2bd7, "", ["TRANSPLUTO;PROSERPINA;ASTRAEA;HYGIEA;PHOLUS;NESSUS;WHITE MOON SELENA",
    "BLACK DIAMOND ON CROSS;TRUE LIGHT MOON ARTA;CUPIDO;HADES;ZEUS;KRONOS;APOLLON;ADMETOS",
    "VULCANUS;POSEIDON;LEFT HALF BLACK STAR;RIGHT HALF BLACK STAR"]⟩,
  ⟨0x2bea, "STAR WITH ", ["LEFT HALF BLACK;RIGHT HALF BLACK"]⟩,
  ⟨0x2bec, "", ["LEFTWARDS TWO-HEADED ARROW WITH TRIANGLE ARROWHEADS",
    "UPWARDS TWO-HEADED ARROW WITH TRIANGLE ARROWHEADS",
    "RIGHTWARDS TWO-HEADED ARROW WITH TRIANGLE ARROWHEADS",
    "DOWNWARDS TWO-HEADED ARROW WITH TRIANGLE ARROWHEADS"]⟩,
  ⟨0x2bf0, "ERIS FORM ", ["ONE;TWO"]⟩,
  ⟨0x2bf2, "SEDN", ["A"]⟩,
  ⟨0x2bf3, "RUSSIAN ASTROLOGICAL SYMBOL ", ["VIGINTILE;NOVILE;QUINTILE;BINOVILE;SENTAGON",
    "TREDECILE"]⟩,
  ⟨0x2bf9, "", ["EQUALS SIGN WITH INFINITY BELOW;UNITED SYMBOL;SEPARATED SYMBOL;DOUBLED SYMBOL",
    "PASSED SYMBOL;REVERSED RIGHT ANGLE;HELLSCHREIBER PAUSE SYMBOL"]⟩]

/-- Punctuation, arrows, and mathematical and technical symbols. -/
def symbols : List Block :=
  symbolsPartA ++ symbolsPartB ++ symbolsPartC ++ symbolsPartD ++ symbolsPartE

end Stencil.CharacterName
