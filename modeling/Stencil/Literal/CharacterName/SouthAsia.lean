import Stencil.Literal.CharacterName.Block

/-!
# Names of characters: scripts of South and Southeast Asia
-/

namespace Stencil.CharacterName

/-- Scripts of South and Southeast Asia, from U+0900 on. -/
def southAsiaPartA : List Block := [
  ⟨0x900, "DEVANAGARI SIGN ", ["INVERTED CANDRABINDU;CANDRABINDU;ANUSVARA;VISARGA"]⟩,
  ⟨0x904, "DEVANAGARI LETTER ", ["SHORT A;A;AA;I;II;U;UU;VOCALIC R;VOCALIC L;CANDRA E;SHORT E;E",
    "AI;CANDRA O;SHORT O;O;AU;KA;KHA;GA;GHA;NGA;CA;CHA;JA;JHA;NYA;TTA;TTHA;DDA;DDHA;NNA;TA;THA",
    "DA;DHA;NA;NNNA;PA;PHA;BA;BHA;MA;YA;RA;RRA;LA;LLA;LLLA;VA;SHA;SSA;SA;HA"]⟩,
  ⟨0x93a, "DEVANAGARI VOWEL SIGN O", ["E;OE"]⟩,
  ⟨0x93c, "DEVANAGARI SIGN ", ["NUKTA;AVAGRAHA"]⟩,
  ⟨0x93e, "DEVANAGARI VOWEL SIGN ", ["AA;I;II;U;UU;VOCALIC R;VOCALIC RR;CANDRA E;SHORT E;E;AI",
    "CANDRA O;SHORT O;O;AU"]⟩,
  ⟨0x94d, "DEVANAGARI ", ["SIGN VIRAMA;VOWEL SIGN PRISHTHAMATRA E;VOWEL SIGN AW;OM",
    "STRESS SIGN UDATTA;STRESS SIGN ANUDATTA;GRAVE ACCENT;ACUTE ACCENT"]⟩,
  ⟨0x955, "DEVANAGARI VOWEL SIGN ", ["CANDRA LONG E;UE;UUE"]⟩,
  ⟨0x958, "DEVANAGARI LETTER ", ["QA;KHHA;GHHA;ZA;DDDHA;RHA;FA;YYA;VOCALIC RR;VOCALIC LL"]⟩,
  ⟨0x962, "DEVANAGARI VOWEL SIGN VOCALIC ", ["L;LL"]⟩,
  ⟨0x964, "DEVANAGARI D", ["ANDA;OUBLE DANDA"]⟩,
  ⟨0x966, "DEVANAGARI DIGIT ", ["ZERO;ONE;TWO;THREE;FOUR;FIVE;SIX;SEVEN;EIGHT;NINE"]⟩,
  ⟨0x970, "DEVANAGARI ", ["ABBREVIATION SIGN;SIGN HIGH SPACING DOT"]⟩,
  ⟨0x972, "DEVANAGARI LETTER ", ["CANDRA A;OE;OOE;AW;UE;UUE;MARWARI DDA;ZHA;HEAVY YA;GGA;JJA",
    "GLOTTAL STOP;DDDA;BBA"]⟩,
  ⟨0x980, "BENGALI ", ["ANJI;SIGN CANDRABINDU;SIGN ANUSVARA;SIGN VISARGA"]⟩,
  ⟨0x984, "BENGALI LETTER ", [";A;AA;I;II;U;UU;VOCALIC R;VOCALIC L;;;E;AI;;;O;AU;KA;KHA;GA;GHA",
    "NGA;CA;CHA;JA;JHA;NYA;TTA;TTHA;DDA;DDHA;NNA;TA;THA;DA;DHA;NA;;PA;PHA;BA;BHA;MA;YA;RA;;LA;;;",
    "SHA;SSA;SA;HA"]⟩,
  ⟨0x9ba, "BENGALI SIGN ", [";;NUKTA;AVAGRAHA"]⟩,
  ⟨0x9be, "BENGALI VOWEL SIGN ", ["AA;I;II;U;UU;VOCALIC R;VOCALIC RR;;;E;AI;;;O;AU"]⟩,
  ⟨0x9cd, "BENGALI ", ["SIGN VIRAMA;LETTER KHANDA TA"]⟩,
  ⟨0x9d7, "BENGALI AU LENGTH MAR", ["K"]⟩,
  ⟨0x9d8, "BENGALI LETTER ", [";;;;RRA;RHA;;YYA;VOCALIC RR;VOCALIC LL"]⟩,
  ⟨0x9e2, "BENGALI VOWEL SIGN VOCALIC ", ["L;LL"]⟩,
  ⟨0x9e4, "BENGALI DIGIT ", [";;ZERO;ONE;TWO;THREE;FOUR;FIVE;SIX;SEVEN;EIGHT;NINE"]⟩,
  ⟨0x9f0, "BENGALI LETTER RA WITH ", ["MIDDLE DIAGONAL;LOWER DIAGONAL"]⟩,
  ⟨0x9f2, "BENGALI RUPEE ", ["MARK;SIGN"]⟩,
  ⟨0x9f4, "BENGALI CURRENCY NUMERATOR ", ["ONE;TWO;THREE;FOUR;ONE LESS THAN THE DENOMINATOR"]⟩,
  ⟨0x9f9, "BENGALI ", ["CURRENCY DENOMINATOR SIXTEEN;ISSHAR;GANDA MARK;LETTER VEDIC ANUSVARA",
    "ABBREVIATION SIGN;SANDHI MARK"]⟩,
  ⟨0x9ff, "GURMUKHI SIGN ", [";;ADAK BINDI;BINDI;VISARGA"]⟩,
  ⟨0xa04, "GURMUKHI LETTER ", [";A;AA;I;II;U;UU;;;;;EE;AI;;;OO;AU;KA;KHA;GA;GHA;NGA;CA;CHA;JA",
    "JHA;NYA;TTA;TTHA;DDA;DDHA;NNA;TA;THA;DA;DHA;NA;;PA;PHA;BA;BHA;MA;YA;RA;;LA;LLA;;VA;SHA;;SA",
    "HA"]⟩,
  ⟨0xa3a, "GURMUKHI SIGN NUKT", [";;A"]⟩,
  ⟨0xa3d, "GURMUKHI VOWEL SIGN ", [";AA;I;II;U;UU;;;;;EE;AI;;;OO;AU"]⟩,
  ⟨0xa4d, "GURMUKHI SIGN ", ["VIRAMA;;;;UDAAT"]⟩,
  ⟨0xa52, "GURMUKHI LETTER ", [";;;;;;;KHHA;GHHA;ZA;RRA;;FA"]⟩,
  ⟨0xa5f, "GURMUKHI DIGIT ", [";;;;;;;ZERO;ONE;TWO;THREE;FOUR;FIVE;SIX;SEVEN;EIGHT;NINE"]⟩,
  ⟨0xa70, "GURMUKHI ", ["TIPPI;ADDAK;IRI;URA;EK ONKAR;SIGN YAKASH;ABBREVIATION SIGN"]⟩,
  ⟨0xa81, "GUJARATI SIGN ", ["CANDRABINDU;ANUSVARA;VISARGA"]⟩,
  ⟨0xa84, "GUJARATI LETTER ", [";A;AA;I;II;U;UU;VOCALIC R;VOCALIC L"]⟩,
  ⟨0xa8d, "GUJARATI ", ["VOWEL CANDRA E;;LETTER E;LETTER AI;VOWEL CANDRA O"]⟩,
  ⟨0xa92, "GUJARATI LETTER ", [";O;AU;KA;KHA;GA;GHA;NGA;CA;CHA;JA;JHA;NYA;TTA;TTHA;DDA;DDHA;NNA",
    "TA;THA;DA;DHA;NA;;PA;PHA;BA;BHA;MA;YA;RA;;LA;LLA;;VA;SHA;SSA;SA;HA"]⟩,
  ⟨0xaba, "GUJARATI SIGN ", [";;NUKTA;AVAGRAHA"]⟩,
  ⟨0xabe, "GUJARATI VOWEL SIGN ", ["AA;I;II;U;UU;VOCALIC R;VOCALIC RR;CANDRA E;;E;AI;CANDRA O;",
    "O;AU"]⟩,
  ⟨0xacd, "GUJARATI ", ["SIGN VIRAMA;;;OM"]⟩,
  ⟨0xae0, "GUJARATI LETTER VOCALIC ", ["RR;LL"]⟩,
  ⟨0xae2, "GUJARATI VOWEL SIGN VOCALIC ", ["L;LL"]⟩,
  ⟨0xae4, "GUJARATI DIGIT ", [";;ZERO;ONE;TWO;THREE;FOUR;FIVE;SIX;SEVEN;EIGHT;NINE"]⟩,
  ⟨0xaf0, "GUJARATI ", ["ABBREVIATION SIGN;RUPEE SIGN;;;;;;;;LETTER ZHA"]⟩,
  ⟨0xafa, "GUJARATI SIGN ", ["SUKUN;SHADDA;MADDAH;THREE-DOT NUKTA ABOVE;CIRCLE NUKTA ABOVE",
    "TWO-CIRCLE NUKTA ABOVE"]⟩,
  ⟨0xb00, "ORIYA SIGN ", [";CANDRABINDU;ANUSVARA;VISARGA"]⟩,
  ⟨0xb04, "ORIYA LETTER ", [";A;AA;I;II;U;UU;VOCALIC R;VOCALIC L;;;E;AI;;;O;AU;KA;KHA;GA;GHA",
    "NGA;CA;CHA;JA;JHA;NYA;TTA;TTHA;DDA;DDHA;NNA;TA;THA;DA;DHA;NA;;PA;PHA;BA;BHA;MA;YA;RA;;LA",
    "LLA;;VA;SHA;SSA;SA;HA"]⟩,
  ⟨0xb3a, "ORIYA SIGN ", [";;NUKTA;AVAGRAHA"]⟩,
  ⟨0xb3e, "ORIYA VOWEL SIGN ", ["AA;I;II;U;UU;VOCALIC R;VOCALIC RR;;;E;AI;;;O;AU"]⟩,
  ⟨0xb4d, "ORIYA ", ["SIGN VIRAMA;;;;;;;;SIGN OVERLINE;AI LENGTH MARK;AU LENGTH MARK"]⟩,
  ⟨0xb58, "ORIYA LETTER ", [";;;;RRA;RHA;;YYA;VOCALIC RR;VOCALIC LL"]⟩,
  ⟨0xb62, "ORIYA VOWEL SIGN VOCALIC ", ["L;LL"]⟩,
  ⟨0xb64, "ORIYA DIGIT ", [";;ZERO;ONE;TWO;THREE;FOUR;FIVE;SIX;SEVEN;EIGHT;NINE"]⟩,
  ⟨0xb70, "ORIYA ", ["ISSHAR;LETTER WA"]⟩,
  ⟨0xb72, "ORIYA FRACTION ", ["ONE QUARTER;ONE HALF;THREE QUARTERS;ONE SIXTEENTH;ONE EIGHTH",
    "THREE SIXTEENTHS"]⟩,
  ⟨0xb82, "TAMIL SIGN ", ["ANUSVARA;VISARGA"]⟩,
  ⟨0xb84, "TAMIL LETTER ", [";A;AA;I;II;U;UU;;;;E;EE;AI;;O;OO;AU;KA;;;;NGA;CA;;JA;;NYA;TTA;;;",
    "NNA;TA;;;;NA;NNNA;PA;;;;MA;YA;RA;RRA;LA;LLA;LLLA;VA;SHA;SSA;SA;HA"]⟩,
  ⟨0xbba, "TAMIL VOWEL SIGN ", [";;;;AA;I;II;U;UU;;;;E;EE;AI;;O;OO;AU"]⟩,
  ⟨0xbcd, "TAMIL ", ["SIGN VIRAMA;;;OM;;;;;;;AU LENGTH MARK"]⟩,
  ⟨0xbe6, "TAMIL DIGIT ", ["ZERO;ONE;TWO;THREE;FOUR;FIVE;SIX;SEVEN;EIGHT;NINE"]⟩,
  ⟨0xbf0, "TAMIL NUMBER ", ["TEN;ONE HUNDRED;ONE THOUSAND"]⟩,
  ⟨0xbf3, "TAMIL ", ["DAY SIGN;MONTH SIGN;YEAR SIGN;DEBIT SIGN;CREDIT SIGN;AS ABOVE SIGN",
    "RUPEE SIGN;NUMBER SIGN"]⟩,
  ⟨0xbfb, "TELUGU SIGN ", [";;;;;COMBINING CANDRABINDU ABOVE;CANDRABINDU;ANUSVARA;VISARGA",
    "COMBINING ANUSVARA ABOVE"]⟩,
  ⟨0xc05, "TELUGU LETTER ", ["A;AA;I;II;U;UU;VOCALIC R;VOCALIC L;;E;EE;AI;;O;OO;AU;KA;KHA;GA",
    "GHA;NGA;CA;CHA;JA;JHA;NYA;TTA;TTHA;DDA;DDHA;NNA;TA;THA;DA;DHA;NA;;PA;PHA;BA;BHA;MA;YA;RA",
    "RRA;LA;LLA;LLLA;VA;SHA;SSA;SA;HA"]⟩,
  ⟨0xc3a, "TELUGU SIGN ", [";;NUKTA;AVAGRAHA"]⟩,
  ⟨0xc3e, "TELUGU VOWEL SIGN ", ["AA;I;II;U;UU;VOCALIC R;VOCALIC RR;;E;EE;AI;;O;OO;AU"]⟩,
  ⟨0xc4d, "TELUGU ", ["SIGN VIRAMA;;;;;;;;LENGTH MARK;AI LENGTH MARK"]⟩,
  ⟨0xc57, "TELUGU LETTER ", [";TSA;DZA;RRRA;;;NAKAARA POLLU;;;VOCALIC RR;VOCALIC LL"]⟩,
  ⟨0xc62, "TELUGU VOWEL SIGN VOCALIC ", ["L;LL"]⟩,
  ⟨0xc64, "TELUGU DIGIT ", [";;ZERO;ONE;TWO;THREE;FOUR;FIVE;SIX;SEVEN;EIGHT;NINE"]⟩,
  ⟨0xc70, "TELUGU SIGN SIDDHA", [";;;;;;;M"]⟩,
  ⟨0xc78, "TELUGU FRACTION DIGIT ", ["ZERO FOR ODD POWERS OF FOUR;ONE FOR ODD POWERS OF FOUR",
    "TWO FOR ODD POWERS OF FOUR;THREE FOR ODD POWERS OF FOUR;ONE FOR EVEN POWERS OF FOUR",
    "TWO FOR EVEN POWERS OF FOUR;THREE FOR EVEN POWERS OF FOUR"]⟩,
  ⟨0xc7f, "TELUGU SIGN TUUM", ["U"]⟩,
  ⟨0xc80, "KANNADA SIGN ", ["SPACING CANDRABINDU;CANDRABINDU;ANUSVARA;VISARGA;SIDDHAM"]⟩,
  ⟨0xc85, "KANNADA LETTER ", ["A;AA;I;II;U;UU;VOCALIC R;VOCALIC L;;E;EE;AI;;O;OO;AU;KA;KHA;GA",
    "GHA;NGA;CA;CHA;JA;JHA;NYA;TTA;TTHA;DDA;DDHA;NNA;TA;THA;DA;DHA;NA;;PA;PHA;BA;BHA;MA;YA;RA",
    "RRA;LA;LLA;;VA;SHA;SSA;SA;HA"]⟩,
  ⟨0xcba, "KANNADA SIGN ", [";;NUKTA;AVAGRAHA"]⟩,
  ⟨0xcbe, "KANNADA VOWEL SIGN ", ["AA;I;II;U;UU;VOCALIC R;VOCALIC RR;;E;EE;AI;;O;OO;AU"]⟩,
  ⟨0xccd, "KANNADA ", ["SIGN VIRAMA;;;;;;;;LENGTH MARK;AI LENGTH MARK"]⟩,
  ⟨0xcd7, "KANNADA LETTER ", [";;;;;;NAKAARA POLLU;FA;;VOCALIC RR;VOCALIC LL"]⟩,
  ⟨0xce2, "KANNADA VOWEL SIGN VOCALIC ", ["L;LL"]⟩,
  ⟨0xce4, "KANNADA DIGIT ", [";;ZERO;ONE;TWO;THREE;FOUR;FIVE;SIX;SEVEN;EIGHT;NINE"]⟩,
  ⟨0xcf0, "KANNADA SIGN ", [";JIHVAMULIYA;UPADHMANIYA"]⟩,
  ⟨0xd00, "MALAYALAM SIGN ", ["COMBINING ANUSVARA ABOVE;CANDRABINDU;ANUSVARA;VISARGA"]⟩,
  ⟨0xd04, "MALAYALAM LETTER ", ["VEDIC ANUSVARA;A;AA;I;II;U;UU;VOCALIC R;VOCALIC L;;E;EE;AI;;O",
    "OO;AU;KA;KHA;GA;GHA;NGA;CA;CHA;JA;JHA;NYA;TTA;TTHA;DDA;DDHA;NNA;TA;THA;DA;DHA;NA;NNNA;PA",
    "PHA;BA;BHA;MA;YA;RA;RRA;LA;LLA;LLLA;VA;SHA;SSA;SA;HA;TTTA"]⟩,
  ⟨0xd3b, "MALAYALAM SIGN ", ["VERTICAL BAR VIRAMA;CIRCULAR VIRAMA;AVAGRAHA"]⟩,
  ⟨0xd3e, "MALAYALAM VOWEL SIGN ", ["AA;I;II;U;UU;VOCALIC R;VOCALIC RR;;E;EE;AI;;O;OO;AU"]⟩,
  ⟨0xd4d, "MALAYALAM ", ["SIGN VIRAMA;LETTER DOT REPH;SIGN PARA"]⟩,
  ⟨0xd50, "MALAYALAM LETTER CHILLU ", [";;;;M;Y;LLL"]⟩,
  ⟨0xd57, "MALAYALAM AU LENGTH MAR", ["K"]⟩,
  ⟨0xd58, "MALAYALAM FRACTION ", ["ONE ONE-HUNDRED-AND-SIXTIETH;ONE FORTIETH;THREE EIGHTIETHS",
    "ONE TWENTIETH;ONE TENTH;THREE TWENTIETHS;ONE FIFTH"]⟩,
  ⟨0xd5f, "MALAYALAM LETTER ", ["ARCHAIC II;VOCALIC RR;VOCALIC LL"]⟩,
  ⟨0xd62, "MALAYALAM VOWEL SIGN VOCALIC ", ["L;LL"]⟩,
  ⟨0xd64, "MALAYALAM DIGIT ", [";;ZERO;ONE;TWO;THREE;FOUR;FIVE;SIX;SEVEN;EIGHT;NINE"]⟩,
  ⟨0xd70, "MALAYALAM NUMBER ", ["TEN;ONE HUNDRED;ONE THOUSAND"]⟩,
  ⟨0xd73, "MALAYALAM FRACTION ", ["ONE QUARTER;ONE HALF;THREE QUARTERS;ONE SIXTEENTH;ONE EIGHTH",
    "THREE SIXTEENTHS"]⟩,
  ⟨0xd79, "MALAYALAM DATE MAR", ["K"]⟩,
  ⟨0xd7a, "MALAYALAM LETTER CHILLU ", ["NN;N;RR;L;LL;K"]⟩,
  ⟨0xd80, "SINHALA SIGN ", [";CANDRABINDU;ANUSVARAYA;VISARGAYA"]⟩,
  ⟨0xd84, "SINHALA LETTER ", [";AYANNA;AAYANNA;AEYANNA;AEEYANNA;IYANNA;IIYANNA;UYANNA;UUYANNA",
    "IRUYANNA;IRUUYANNA;ILUYANNA;ILUUYANNA;EYANNA;EEYANNA;AIYANNA;OYANNA;OOYANNA;AUYANNA;;;",
    "ALPAPRAANA KAYANNA;MAHAAPRAANA KAYANNA;ALPAPRAANA GAYANNA;MAHAAPRAANA GAYANNA",
    "KANTAJA NAASIKYAYA;SANYAKA GAYANNA;ALPAPRAANA CAYANNA;MAHAAPRAANA CAYANNA",
    "ALPAPRAANA JAYANNA;MAHAAPRAANA JAYANNA;TAALUJA NAASIKYAYA;TAALUJA SANYOOGA NAAKSIKYAYA",
    "SANYAKA JAYANNA;ALPAPRAANA TTAYANNA;MAHAAPRAANA TTAYANNA;ALPAPRAANA DDAYANNA",
    "MAHAAPRAANA DDAYANNA;MUURDHAJA NAYANNA;SANYAKA DDAYANNA;ALPAPRAANA TAYANNA",
    "MAHAAPRAANA TAYANNA;ALPAPRAANA DAYANNA;MAHAAPRAANA DAYANNA;DANTAJA NAYANNA;;SANYAKA DAYANNA",
    "ALPAPRAANA PAYANNA;MAHAAPRAANA PAYANNA;ALPAPRAANA BAYANNA;MAHAAPRAANA BAYANNA;MAYANNA",
    "AMBA BAYANNA;YAYANNA;RAYANNA;;DANTAJA LAYANNA;;;VAYANNA;TAALUJA SAYANNA;MUURDHAJA SAYANNA",
    "DANTAJA SAYANNA;HAYANNA;MUURDHAJA LAYANNA;FAYANNA"]⟩]

/-- Scripts of South and Southeast Asia, from U+0DC7 on. -/
def southAsiaPartB : List Block := [
  ⟨0xdc7, "SINHALA SIGN AL-LAKUN", [";;;A"]⟩,
  ⟨0xdcb, "SINHALA VOWEL SIGN ", [";;;;AELA-PILLA;KETTI AEDA-PILLA;DIGA AEDA-PILLA",
    "KETTI IS-PILLA;DIGA IS-PILLA;KETTI PAA-PILLA;;DIGA PAA-PILLA;;GAETTA-PILLA;KOMBUVA",
    "DIGA KOMBUVA;KOMBU DEKA;KOMBUVA HAA AELA-PILLA;KOMBUVA HAA DIGA AELA-PILLA",
    "KOMBUVA HAA GAYANUKITTA;GAYANUKITTA"]⟩,
  ⟨0xde0, "SINHALA LITH DIGIT ", [";;;;;;ZERO;ONE;TWO;THREE;FOUR;FIVE;SIX;SEVEN;EIGHT;NINE"]⟩,
  ⟨0xdf0, "SINHALA VOWEL SIGN DIGA GA", [";;ETTA-PILLA;YANUKITTA"]⟩,
  ⟨0xdf4, "SINHALA PUNCTUATION KUNDDALIY", ["A"]⟩,
  ⟨0xe01, "THAI CHARACTER ", ["KO KAI;KHO KHAI;KHO KHUAT;KHO KHWAI;KHO KHON;KHO RAKHANG;NGO NGU",
    "CHO CHAN;CHO CHING;CHO CHANG;SO SO;CHO CHOE;YO YING;DO CHADA;TO PATAK;THO THAN",
    "THO NANGMONTHO;THO PHUTHAO;NO NEN;DO DEK;TO TAO;THO THUNG;THO THAHAN;THO THONG;NO NU",
    "BO BAIMAI;PO PLA;PHO PHUNG;FO FA;PHO PHAN;FO FAN;PHO SAMPHAO;MO MA;YO YAK;RO RUA;RU;LO LING",
    "LU;WO WAEN;SO SALA;SO RUSI;SO SUA;HO HIP;LO CHULA;O ANG;HO NOKHUK;PAIYANNOI;SARA A",
    "MAI HAN-AKAT"]⟩,
  ⟨0xe32, "THAI CHARACTER SARA ", ["AA;AM;I;II;UE;UEE;U;UU"]⟩,
  ⟨0xe3a, "THAI C", ["HARACTER PHINTHU;;;;;URRENCY SYMBOL BAHT"]⟩,
  ⟨0xe40, "THAI CHARACTER SARA ", ["E;AE;O;AI MAIMUAN;AI MAIMALAI"]⟩,
  ⟨0xe45, "THAI CHARACTER ", ["LAKKHANGYAO;MAIYAMOK;MAITAIKHU;MAI EK;MAI THO;MAI TRI",
    "MAI CHATTAWA;THANTHAKHAT;NIKHAHIT;YAMAKKAN;FONGMAN"]⟩,
  ⟨0xe50, "THAI DIGIT ", ["ZERO;ONE;TWO;THREE;FOUR;FIVE;SIX;SEVEN;EIGHT;NINE"]⟩,
  ⟨0xe5a, "THAI CHARACTER ", ["ANGKHANKHU;KHOMUT"]⟩,
  ⟨0xe81, "LAO LETTER ", ["KO;KHO SUNG;;KHO TAM;;PALI GHA;NGO;CO;PALI CHA;SO TAM;;PALI JHA;NYO",
    "PALI NYA;PALI TTA;PALI TTHA;PALI DDA;PALI DDHA;PALI NNA;DO;TO;THO SUNG;THO TAM;PALI DHA;NO",
    "BO;PO;PHO SUNG;FO TAM;PHO TAM;FO SUNG;PALI BHA;MO;YO;LO LING;;LO LOOT;;WO;SANSKRIT SHA",
    "SANSKRIT SSA;SO SUNG;HO SUNG;PALI LLA;O;HO TAM"]⟩,
  ⟨0xeaf, "LAO ELLIPSI", ["S"]⟩,
  ⟨0xeb0, "LAO VOWEL SIGN ", ["A;MAI KAN;AA;AM;I;II;Y;YY;U;UU"]⟩,
  ⟨0xeba, "LAO ", ["SIGN PALI VIRAMA;VOWEL SIGN MAI KON"]⟩,
  ⟨0xebc, "LAO SEMIVOWEL SIGN ", ["LO;NYO"]⟩,
  ⟨0xebe, "LAO VOWEL SIGN ", [";;E;EI;O;AY;AI"]⟩,
  ⟨0xec5, "LAO KO L", [";A"]⟩,
  ⟨0xec7, "LAO TONE MAI ", [";EK;THO;TI;CATAWA"]⟩,
  ⟨0xecc, "LAO ", ["CANCELLATION MARK;NIGGAHITA"]⟩,
  ⟨0xece, "LAO DIGIT ", [";;ZERO;ONE;TWO;THREE;FOUR;FIVE;SIX;SEVEN;EIGHT;NINE"]⟩,
  ⟨0xeda, "LAO HO ", [";;NO;MO"]⟩,
  ⟨0xede, "LAO LETTER KHMU ", ["GO;NYO"]⟩,
  ⟨0xf00, "TIBETAN SYLLABLE O", ["M"]⟩,
  ⟨0xf01, "TIBETAN MARK GTER YIG MGO ", ["TRUNCATED A;-UM RNAM BCAD MA;-UM GTER TSHEG MA"]⟩,
  ⟨0xf04, "TIBETAN MARK ", ["INITIAL YIG MGO MDUN MA;CLOSING YIG MGO SGAB MA",
    "CARET YIG MGO PHUR SHAD MA;YIG MGO TSHEG SHAD MA;SBRUL SHAD;BSKUR YIG MGO;BKA- SHOG YIG MGO",
    "INTERSYLLABIC TSHEG;DELIMITER TSHEG BSTAR;SHAD;NYIS SHAD;TSHEG SHAD;NYIS TSHEG SHAD",
    "RIN CHEN SPUNGS SHAD;RGYA GRAM SHAD;CARET -DZUD RTAGS ME LONG CAN;GTER TSHEG"]⟩,
  ⟨0xf15, "TIBETAN LOGOTYPE SIGN ", ["CHAD RTAGS;LHAG RTAGS"]⟩,
  ⟨0xf17, "TIBETAN ASTROLOGICAL SIGN ", ["SGRA GCAN -CHAR RTAGS;-KHYUD PA;SDONG TSHUGS"]⟩,
  ⟨0xf1a, "TIBETAN SIGN RDEL ", ["DKAR GCIG;DKAR GNYIS;DKAR GSUM;NAG GCIG;NAG GNYIS",
    "DKAR RDEL NAG"]⟩,
  ⟨0xf20, "TIBETAN DIGIT ", ["ZERO;ONE;TWO;THREE;FOUR;FIVE;SIX;SEVEN;EIGHT;NINE"]⟩,
  ⟨0xf2a, "TIBETAN DIGIT HALF ", ["ONE;TWO;THREE;FOUR;FIVE;SIX;SEVEN;EIGHT;NINE;ZERO"]⟩,
  ⟨0xf34, "TIBETAN MARK ", ["BSDUS RTAGS;NGAS BZUNG NYI ZLA;CARET -DZUD RTAGS BZHI MIG CAN",
    "NGAS BZUNG SGOR RTAGS;CHE MGO;TSA -PHRU;GUG RTAGS GYON;GUG RTAGS GYAS;ANG KHANG GYON",
    "ANG KHANG GYAS"]⟩,
  ⟨0xf3e, "TIBETAN SIGN ", ["YAR TSHES;MAR TSHES"]⟩,
  ⟨0xf40, "TIBETAN LETTER ", ["KA;KHA;GA;GHA;NGA;CA;CHA;JA;;NYA;TTA;TTHA;DDA;DDHA;NNA;TA;THA;DA",
    "DHA;NA;PA;PHA;BA;BHA;MA;TSA;TSHA;DZA;DZHA;WA;ZHA;ZA;-A;YA;RA;LA;SHA;SSA;SA;HA;A;KSSA",
    "FIXED-FORM RA;KKA;RRA"]⟩,
  ⟨0xf6d, "TIBETAN VOWEL SIGN ", [";;;;AA;I;II;U;UU;VOCALIC R;VOCALIC RR;VOCALIC L;VOCALIC LL;E",
    "EE;O;OO"]⟩,
  ⟨0xf7e, "TIBETAN SIGN R", ["JES SU NGA RO;NAM BCAD"]⟩,
  ⟨0xf80, "TIBETAN VOWEL SIGN REVERSED ", ["I;II"]⟩,
  ⟨0xf82, "TIBETAN ", ["SIGN NYI ZLA NAA DA;SIGN SNA LDAN;MARK HALANTA;MARK PALUTA"]⟩,
  ⟨0xf86, "TIBETAN SIGN ", ["LCI RTAGS;YANG RTAGS;LCE TSA CAN;MCHU CAN;GRU CAN RGYINGS",
    "GRU MED RGYINGS;INVERTED MCHU CAN"]⟩,
  ⟨0xf8d, "TIBETAN SUBJOINED SIGN ", ["LCE TSA CAN;MCHU CAN;INVERTED MCHU CAN"]⟩,
  ⟨0xf90, "TIBETAN SUBJOINED LETTER ", ["KA;KHA;GA;GHA;NGA;CA;CHA;JA;;NYA;TTA;TTHA;DDA;DDHA;NNA",
    "TA;THA;DA;DHA;NA;PA;PHA;BA;BHA;MA;TSA;TSHA;DZA;DZHA;WA;ZHA;ZA;-A;YA;RA;LA;SHA;SSA;SA;HA;A",
    "KSSA;FIXED-FORM WA;FIXED-FORM YA;FIXED-FORM RA"]⟩,
  ⟨0xfbd, "TIBETAN KU RU KH", [";A;A BZHI MIG CAN"]⟩,
  ⟨0xfc0, "TIBETAN CANTILLATION SIGN ", ["HEAVY BEAT;LIGHT BEAT;CANG TE-U;SBUB -CHAL"]⟩,
  ⟨0xfc4, "TIBETAN SYMBOL ", ["DRIL BU;RDO RJE;PADMA GDAN;RDO RJE RGYA GRAM;PHUR PA;NOR BU",
    "NOR BU NYIS -KHYIL;NOR BU GSUM -KHYIL;NOR BU BZHI -KHYIL"]⟩,
  ⟨0xfcd, "TIBETAN SIGN RDEL NAG ", [";RDEL DKAR;GSUM"]⟩,
  ⟨0xfd0, "TIBETAN MARK ", ["BSKA- SHOG GI MGO RGYAN;MNYAM YIG GI MGO RGYAN;NYIS TSHEG",
    "INITIAL BRDA RNYING YIG MGO MDUN MA;CLOSING BRDA RNYING YIG MGO SGAB MA"]⟩,
  ⟨0xfd5, "", ["RIGHT-FACING SVASTI SIGN;LEFT-FACING SVASTI SIGN",
    "RIGHT-FACING SVASTI SIGN WITH DOTS;LEFT-FACING SVASTI SIGN WITH DOTS"]⟩,
  ⟨0xfd9, "TIBETAN MARK ", ["LEADING MCHAN RTAGS;TRAILING MCHAN RTAGS"]⟩,
  ⟨0x1000, "MYANMAR LETTER ", ["KA;KHA;GA;GHA;NGA;CA;CHA;JA;JHA;NYA;NNYA;TTA;TTHA;DDA;DDHA;NNA",
    "TA;THA;DA;DHA;NA;PA;PHA;BA;BHA;MA;YA;RA;LA;WA;SA;HA;LLA;A;SHAN A;I;II;U;UU;E;MON E;O;AU"]⟩,
  ⟨0x102b, "MYANMAR VOWEL SIGN ", ["TALL AA;AA;I;II;U;UU;E;AI;MON II;MON O;E ABOVE"]⟩,
  ⟨0x1036, "MYANMAR SIGN ", ["ANUSVARA;DOT BELOW;VISARGA;VIRAMA;ASAT"]⟩,
  ⟨0x103b, "MYANMAR CONSONANT SIGN MEDIAL ", ["YA;RA;WA;HA"]⟩,
  ⟨0x103f, "MYANMAR LETTER GREAT S", ["A"]⟩,
  ⟨0x1040, "MYANMAR DIGIT ", ["ZERO;ONE;TWO;THREE;FOUR;FIVE;SIX;SEVEN;EIGHT;NINE"]⟩,
  ⟨0x104a, "MYANMAR SIGN ", ["LITTLE SECTION;SECTION"]⟩,
  ⟨0x104c, "MYANMAR SYMBOL ", ["LOCATIVE;COMPLETED;AFOREMENTIONED;GENITIVE"]⟩,
  ⟨0x1050, "MYANMAR LETTER S", ["HA;SA"]⟩,
  ⟨0x1052, "MYANMAR LETTER VOCALIC ", ["R;RR;L;LL"]⟩,
  ⟨0x1056, "MYANMAR VOWEL SIGN VOCALIC ", ["R;RR;L;LL"]⟩,
  ⟨0x105a, "MYANMAR LETTER MON ", ["NGA;JHA;BBA;BBE"]⟩,
  ⟨0x105e, "MYANMAR CONSONANT SIGN MON MEDIAL ", ["NA;MA;LA"]⟩,
  ⟨0x1061, "MYANMAR ", ["LETTER SGAW KAREN SHA;VOWEL SIGN SGAW KAREN EU"]⟩,
  ⟨0x1063, "MYANMAR TONE MARK SGAW KAREN ", ["HATHI;KE PHO"]⟩,
  ⟨0x1065, "MYANMAR LETTER WESTERN PWO KAREN ", ["THA;PWA"]⟩,
  ⟨0x1067, "MYANMAR VOWEL SIGN WESTERN PWO KAREN ", ["EU;UE"]⟩,
  ⟨0x1069, "MYANMAR SIGN WESTERN PWO KAREN TONE-", ["1;2;3;4;5"]⟩,
  ⟨0x106e, "MYANMAR LETTER EASTERN PWO KAREN ", ["NNA;YWA;GHWA"]⟩,
  ⟨0x1071, "MYANMAR VOWEL SIGN ", ["GEBA KAREN I;KAYAH OE;KAYAH U;KAYAH EE"]⟩,
  ⟨0x1075, "MYANMAR LETTER SHAN ", ["KA;KHA;GA;CA;ZA;NYA;DA;NA;PHA;FA;BA;THA;HA"]⟩,
  ⟨0x1082, "MYANMAR CONSONANT SIGN SHAN MEDIAL W", ["A"]⟩,
  ⟨0x1083, "MYANMAR VOWEL SIGN SHAN ", ["AA;E;E ABOVE;FINAL Y"]⟩,
  ⟨0x1087, "MYANMAR SIGN SHAN TONE-", ["2;3;5;6"]⟩,
  ⟨0x108b, "MYANMAR SIGN SHAN COUNCIL ", ["TONE-2;TONE-3;EMPHATIC TONE"]⟩,
  ⟨0x108e, "MYANMAR ", ["LETTER RUMAI PALAUNG FA;SIGN RUMAI PALAUNG TONE-5"]⟩,
  ⟨0x1090, "MYANMAR SHAN DIGIT ", ["ZERO;ONE;TWO;THREE;FOUR;FIVE;SIX;SEVEN;EIGHT;NINE"]⟩,
  ⟨0x109a, "MYANMAR SIGN KHAMTI TONE-", ["1;3"]⟩,
  ⟨0x109c, "MYANMAR VOWEL SIGN AITON ", ["A;AI"]⟩,
  ⟨0x109e, "MYANMAR SYMBOL SHAN ", ["ONE;EXCLAMATION"]⟩]

/-- Scripts of South and Southeast Asia. -/
def southAsia : List Block :=
  southAsiaPartA ++ southAsiaPartB

end Stencil.CharacterName
