import Stencil.Literal.CharacterName.Block

/-!
# Names of characters: cuneiform scripts
-/

namespace Stencil.CharacterName

/-- Cuneiform scripts, from U+12001 on. -/
def cuneiform : List Block := [
  ⟨0x12001, "CUNEIFORM SIGN A TIMES ", ["A;BAD;GAN2 TENU;HA;IGI;LAGAR GUNU;MUSH;SAG"]⟩,
  ⟨0x12009, "CUNEIFORM SIGN A", ["2;B"]⟩,
  ⟨0x1200b, "CUNEIFORM SIGN AB TIMES ", ["ASH2;DUN3 GUNU;GAL;GAN2 TENU;HA;IGI GUNU;IMIN;LAGAB",
    "SHESH;U PLUS U PLUS U"]⟩,
  ⟨0x12015, "CUNEIFORM SIGN A", ["B GUNU;B2;B2 TIMES BALAG;B2 TIMES GAN2 TENU",
    "B2 TIMES ME PLUS EN;B2 TIMES SHA3;B2 TIMES TAK4;D;K;K TIMES ERIN2;K TIMES SHITA PLUS GISH;L"]⟩,
  ⟨0x12021, "CUNEIFORM SIGN AL TIMES ", ["AL;DIM2;GISH;HA;KAD3;KI;SHE;USH"]⟩,
  ⟨0x12029, "CUNEIFORM SIGN A", ["LAN;LEPH;MAR;MAR TIMES SHE;N;N OVER AN;N THREE TIMES",
    "N PLUS NAGA OPPOSING AN PLUS NAGA;N PLUS NAGA SQUARED;NSHE;PIN;RAD;RAD TIMES KUR;RKAB;SAL2",
    "SH;SH ZIDA TENU;SH KABA TENU"]⟩,
  ⟨0x1203b, "CUNEIFORM SIGN ASH OVER ASH ", ["TUG2 OVER TUG2 TUG2 OVER TUG2 PAP;OVER ASH",
    "OVER ASH CROSSING ASH OVER ASH OVER ASH"]⟩,
  ⟨0x1203e, "CUNEIFORM SIGN ", ["ASH2;ASHGAB;BA;BAD;BAG3;BAHAR2;BAL;BAL OVER BAL;BALAG;BAR",
    "BARA2;BI;BI TIMES A;BI TIMES GAR;BI TIMES IGI GUNU;BU;BU OVER BU AB;BU OVER BU UN",
    "BU CROSSING BU;BULUG;BULUG OVER BULUG;BUR;BUR2;DA;DAG"]⟩,
  ⟨0x12057, "CUNEIFORM SIGN DAG KISIM5 TIMES ", ["A PLUS MASH;AMAR;BALAG;BI;GA;GA PLUS MASH;GI",
    "GIR2;GUD;HA;IR;IR PLUS LU;KAK;LA;LU;LU PLUS MASH2;LUM;NE;PAP PLUS PAP;SI;TAK4;U2 PLUS GIR2",
    "USH"]⟩,
  ⟨0x1206e, "CUNEIFORM SIGN D", ["AM;AR;ARA3;ARA4;I;IB;IM;IM TIMES SHE;IM2;IN",
    "IN KASKAL U GUNU DISH;ISH;U;U OVER DU;U GUNU;U SHESHIG;UB;UB TIMES ESH2;UB2;UG;UGUD;UH;UN",
    "UN3;UN3 GUNU;UN3 GUNU GUNU;UN4;UR2"]⟩,
  ⟨0x1208a, "CUNEIFORM SIGN ", ["E;E TIMES PAP;E OVER E NUN OVER NUN;E2"]⟩,
  ⟨0x1208e, "CUNEIFORM SIGN E2 TIMES ", ["A PLUS HA PLUS DA;GAR;MI;SAL;SHE;U"]⟩,
  ⟨0x12094, "CUNEIFORM SIGN E", ["DIN;GIR;L;N;N TIMES GAN2;N TIMES GAN2 TENU;N TIMES ME",
    "N CROSSING EN;N OPPOSING EN;N SQUARED;REN;RIN2;SH2;ZEN"]⟩,
  ⟨0x120a2, "CUNEIFORM SIGN EZEN TIMES ", ["A;A PLUS LAL;A PLUS LAL TIMES LAL;AN;BAD;DUN3 GUNU",
    "DUN3 GUNU GUNU;HA;HA GUNU;IGI GUNU;KASKAL;KASKAL SQUARED;KU3;LA;LAL TIMES LAL;LI;LU;U2;UD"]⟩,
  ⟨0x120b5, "CUNEIFORM SIGN G", ["A;A GUNU;A2"]⟩,
  ⟨0x120b8, "CUNEIFORM SIGN GA2 TIMES ", ["A PLUS DA PLUS HA;A PLUS HA;A PLUS IGI",
    "AB2 TENU PLUS TAB;AN;ASH;ASH2 PLUS GAL;BAD;BAR PLUS RA;BUR;BUR PLUS RA;DA;DI;DIM TIMES SHE",
    "DUB;EL;EL PLUS LA;EN;EN TIMES GAN2 TENU;GAN2 TENU;GAR;GI;GI4;GI4 PLUS A;GIR2 PLUS SU",
    "HA PLUS LU PLUS ESH2;HAL;HAL PLUS LA;HI PLUS LI;HUB2;IGI GUNU;ISH PLUS HU PLUS ASH;KAK",
    "KASKAL;KID;KID PLUS LAL;KU3 PLUS AN;LA;ME PLUS EN;MI;NUN;NUN OVER NUN;PA;SAL;SAR;SHE",
    "SHE PLUS TUR;SHID;SUM;TAK4;U;UD;UD PLUS DU"]⟩,
  ⟨0x120ed, "CUNEIFORM SIGN G", ["A2 OVER GA2;ABA;ABA CROSSING GABA;AD;AD OVER GAD GAR OVER GAR",
    "AL;AL GAD OVER GAD GAR OVER GAR;ALAM;AM;AN;AN2;AN2 TENU;AN2 OVER GAN2;AN2 CROSSING GAN2;AR",
    "AR3;ASHAN;ESHTIN;ESHTIN TIMES KUR;I;I TIMES E;I TIMES U;I CROSSING GI;I4;I4 OVER GI4",
    "I4 CROSSING GI4;IDIM;IR2;IR2 GUNU;IR3"]⟩,
  ⟨0x1210b, "CUNEIFORM SIGN GIR3 TIMES ", ["A PLUS IGI;GAN2 TENU;IGI;LU PLUS IGI;PA"]⟩,
  ⟨0x12110, "CUNEIFORM SIGN G", ["ISAL;ISH;ISH CROSSING GISH;ISH TIMES BAD;ISH TIMES TAK4",
    "ISH TENU;U;U CROSSING GU;U2;U2 TIMES KAK;U2 TIMES KAK TIMES IGI GUNU;U2 TIMES NUN",
    "U2 TIMES SAL PLUS TUG2;U2 GUNU;UD;UD TIMES A PLUS KUR;UD TIMES KUR;UD OVER GUD LUGAL;UL;UM",
    "UM TIMES SHE;UR;UR7;URUN;URUSH"]⟩,
  ⟨0x12129, "CUNEIFORM SIGN H", ["A;A TENU;A GUNU;AL;I"]⟩,
  ⟨0x1212e, "CUNEIFORM SIGN HI TIMES ", ["ASH;ASH2;BAD;DISH;GAD;KIN;NUN;SHE;U"]⟩,
  ⟨0x12137, "CUNEIFORM SIGN H", ["U;UB2"]⟩,
  ⟨0x12139, "CUNEIFORM SIGN HUB2 TIMES ", ["AN;HAL;KASKAL;LISH;UD"]⟩,
  ⟨0x1213e, "CUNEIFORM SIGN ", ["HUL2;I;I A;IB;IDIM;IDIM OVER IDIM BUR;IDIM OVER IDIM SQUARED",
    "IG;IGI;IGI DIB;IGI RI;IGI OVER IGI SHIR OVER SHIR UD OVER UD;IGI GUNU;IL;IL TIMES GAN2 TENU",
    "IL2;IM;IM TIMES TAK4;IM CROSSING IM;IM OPPOSING IM;IM SQUARED;IMIN;IN;IR;ISH;KA"]⟩,
  ⟨0x12158, "CUNEIFORM SIGN KA TIMES ", ["A;AD;AD PLUS KU3;ASH2;BAD;BALAG;BAR;BI;ERIN2;ESH2;GA",
    "GAL;GAN2 TENU;GAR;GAR PLUS SHA3 PLUS A;GI;GIR2;GISH PLUS SAR;GISH CROSSING GISH;GU;GUR7;IGI",
    "IM;KAK;KI;KID;LI;LU;ME;ME PLUS DU;ME PLUS GI;ME PLUS TE;MI;MI PLUS NUNUZ;NE;NUN;PI;RU;SA",
    "SAR;SHA;SHE;SHID;SHU;SIG;SUHUR;TAR;U;U2;UD;UMUM TIMES PA;USH;ZI"]⟩,
  ⟨0x1218d, "CUNEIFORM SIGN K", ["A2;A2 CROSSING KA2;AB;AD2;AD3;AD4;AD5;AD5 OVER KAD5;AK",
    "AK TIMES IGI GUNU;AL;AL TIMES BAD;AL CROSSING KAL;AM2;AM4;ASKAL",
    "ASKAL LAGAB TIMES U OVER LAGAB TIMES U;ASKAL OVER KASKAL LAGAB TIMES U OVER LAGAB TIMES U",
    "ESH2;I;I TIMES BAD;I TIMES U;I TIMES UD;ID;IN;ISAL;ISH;ISIM5;ISIM5 OVER KISIM5;U",
    "U OVER HI TIMES ASH2 KU OVER HI TIMES ASH2;U3;U4;U4 VARIANT FORM;U7;UL;UL GUNU;UN;UR",
    "UR OPPOSING KUR;USHU2;WU318"]⟩,
  ⟨0x121b7, "CUNEIFORM SIGN L", ["A;AGAB"]⟩,
  ⟨0x121b9, "CUNEIFORM SIGN LAGAB TIMES ", ["A;A PLUS DA PLUS HA;A PLUS GAR;A PLUS LAL;AL;AN",
    "ASH ZIDA TENU;BAD;BI;DAR;EN;GA;GAR;GUD;GUD PLUS GUD;HA;HAL;HI TIMES NUN;IGI GUNU;IM",
    "IM PLUS HA;IM PLUS LU;KI;KIN;KU3;KUL;KUL PLUS HI PLUS A;LAGAB;LISH;LU;LUL;ME;ME PLUS EN",
    "MUSH;NE;SHE PLUS SUM;SHITA PLUS GISH PLUS ERIN2;SHITA PLUS GISH TENU;SHU2;SHU2 PLUS SHU2",
    "SUM;TAG;TAK4;TE PLUS A PLUS SU PLUS NA;U;U PLUS A;U PLUS U PLUS U;U2 PLUS ASH;UD;USH"]⟩,
  ⟨0x121eb, "CUNEIFORM SIGN L", ["AGAB SQUARED;AGAR;AGAR TIMES SHE;AGAR TIMES SHE PLUS SUM",
    "AGAR GUNU;AGAR GUNU OVER LAGAR GUNU SHE;AHSHU;AL;AL TIMES LAL;AM;AM TIMES KUR",
    "AM TIMES KUR PLUS RU;I;IL;IMMU2;ISH;U;U TIMES BAD;U2"]⟩,
  ⟨0x121fe, "CUNEIFORM SIGN LU2 TIMES ", ["AL;BAD;ESH2;ESH2 TENU;GAN2 TENU;HI TIMES BAD;IM;KAD2",
    "KAD3;KAD3 PLUS ASH;KI;LA PLUS ASH;LAGAB;ME PLUS EN;NE;NU;SI PLUS ASH;SIK2 PLUS BU;TUG2"]⟩,
  ⟨0x12211, "CUNEIFORM SIGN LU", ["2 TENU;2 CROSSING LU2;2 OPPOSING LU2;2 SQUARED;2 SHESHIG;3",
    "GAL;GAL OVER LUGAL;GAL OPPOSING LUGAL;GAL SHESHIG;H;L;M;M OVER LUM;M OVER LUM GAR OVER GAR"]⟩,
  ⟨0x12220, "CUNEIFORM SIGN M", ["A;A TIMES TAK4;A GUNU;A2;AH;AR;ASH;ASH2;E;ES;I;IN;U;U OVER MU",
    "UG;UG GUNU;UNSUB;URGU2;USH"]⟩,
  ⟨0x12233, "CUNEIFORM SIGN MUSH", [" TIMES A; TIMES KUR; TIMES ZA; OVER MUSH",
    " OVER MUSH TIMES A PLUS NA; CROSSING MUSH;3;3 TIMES A;3 TIMES A PLUS DI;3 TIMES DI;3 GUNU"]⟩,
  ⟨0x1223e, "CUNEIFORM SIGN N", ["A;A2;AGA;AGA INVERTED;AGA TIMES SHU TENU;AGA OPPOSING NAGA",
    "AGAR;AM NUTILLU;AM;AM2;E;E TIMES A;E TIMES UD;E SHESHIG;I;I TIMES E;I2;IM",
    "IM TIMES GAN2 TENU;IM TIMES GAR PLUS GAN2 TENU;INDA2"]⟩,
  ⟨0x12253, "CUNEIFORM SIGN NINDA2 TIMES ", ["AN;ASH;ASH PLUS ASH;GUD;ME PLUS GAN2 TENU;NE;NUN",
    "SHE;SHE PLUS A AN;SHE PLUS ASH;SHE PLUS ASH PLUS ASH;U2 PLUS ASH;USH"]⟩,
  ⟨0x12260, "CUNEIFORM SIGN N", ["ISAG;U;U11;UN"]⟩,
  ⟨0x12264, "CUNEIFORM SIGN NUN LAGAR TIMES ", ["GAR;MASH;SAL;SAL OVER NUN LAGAR TIMES SAL;USH"]⟩,
  ⟨0x12269, "CUNEIFORM SIGN NUN", [" TENU; OVER NUN; CROSSING NUN",
    " CROSSING NUN LAGAR OVER LAGAR;UZ"]⟩,
  ⟨0x1226e, "CUNEIFORM SIGN NUNUZ AB2 TIMES ", ["ASHGAB;BI;DUG;GUD;IGI GUNU;KAD3;LA;NE;SILA3;U2"]⟩,
  ⟨0x12278, "CUNEIFORM SIGN NUNUZ KISIM5 TIMES B", ["I;I U"]⟩,
  ⟨0x1227a, "CUNEIFORM SIGN P", ["A;AD;AN;AP;ESH2;I"]⟩,
  ⟨0x12280, "CUNEIFORM SIGN PI TIMES ", ["A;AB;BI;BU;E;I;IB;U;U2"]⟩,
  ⟨0x12289, "CUNEIFORM SIGN ", ["PI CROSSING PI;PIRIG;PIRIG TIMES KAL;PIRIG TIMES UD",
    "PIRIG TIMES ZA;PIRIG OPPOSING PIRIG;RA;RAB;RI;RU;SA;SAG NUTILLU;SAG"]⟩,
  ⟨0x12296, "CUNEIFORM SIGN SAG TIMES ", ["A;DU;DUB;HA;KAK;KUR;LUM;MI;NUN;SAL;SHID;TAB;U2;UB;UM",
    "UR;USH"]⟩,
  ⟨0x122a7, "CUNEIFORM SIGN S", ["AG OVER SAG;AG GUNU;AL;AL LAGAB TIMES ASH2;ANGA2;AR;HA;HA3"]⟩,
  ⟨0x122af, "CUNEIFORM SIGN SHA3 TIMES ", ["A;BAD;GISH;NE;SHU2;TUR;U;U PLUS A"]⟩,
  ⟨0x122b7, "CUNEIFORM SIGN SH", ["A6;AB6;AR2;E;E HU;E OVER SHE GAD OVER GAD GAR OVER GAR",
    "E OVER SHE TAB OVER TAB GAR OVER GAR;EG9;EN;ESH;ESH2;ESHLAM;ID;ID TIMES A;ID TIMES IM;IM"]⟩,
  ⟨0x122c7, "CUNEIFORM SIGN SHIM TIMES ", ["A;BAL;BULUG;DIN;GAR;IGI;IGI GUNU;KUSHU2;LUL;MUG;SAL"]⟩,
  ⟨0x122d2, "CUNEIFORM SIGN S", ["HINIG;HIR;HIR TENU;HIR OVER SHIR BUR OVER BUR;HITA;HU",
    "HU OVER INVERTED SHU;HU2;HUBUR;I;I GUNU;IG;IG4;IG4 OVER SIG4 SHU2;IK2;ILA3;U;U OVER SU;UD",
    "UD2;UHUR;UM;UMASH;UR;UR9"]⟩,
  ⟨0x122eb, "CUNEIFORM SIGN T", ["A;A ASTERISK;A TIMES HI;A TIMES MI;A GUNU;AB",
    "AB OVER TAB NI OVER NI DISH OVER DISH;AB SQUARED;AG"]⟩,
  ⟨0x122f4, "CUNEIFORM SIGN TAG TIMES ", ["BI;GUD;SHE;SHU;TUG2;UD"]⟩,
  ⟨0x122fa, "CUNEIFORM SIGN ", ["TAK4;TAR;TE;TE GUNU;TI;TI TENU;TIL;TIR;TIR TIMES TAK4",
    "TIR OVER TIR;TIR OVER TIR GAD OVER GAD GAR OVER GAR;TU;TUG2;TUK;TUM;TUR",
    "TUR OVER TUR ZA OVER ZA;U"]⟩,
  ⟨0x1230c, "CUNEIFORM SIGN U", [" GUD; U U; OVER U PA OVER PA GAR OVER GAR",
    " OVER U SUR OVER SUR; OVER U U REVERSED OVER U REVERSED;2;B;D;D KUSHU2;D TIMES BAD",
    "D TIMES MI;D TIMES U PLUS U PLUS U;D TIMES U PLUS U PLUS U GUNU;D GUNU;D SHESHIG",
    "D SHESHIG TIMES BAD;DUG;M;M TIMES LAGAB;M TIMES ME PLUS DA;M TIMES SHA3;M TIMES U;MBIN;MUM",
    "MUM TIMES KASKAL;MUM TIMES PA;N;N GUNU;R;R CROSSING UR;R SHESHIG;R2"]⟩,
  ⟨0x1232c, "CUNEIFORM SIGN UR2 TIMES ", ["A PLUS HA;A PLUS NA;AL;HA;NUN;U2;U2 PLUS ASH",
    "U2 PLUS BI"]⟩,
  ⟨0x12334, "CUNEIFORM SIGN UR", ["4;I;I3;U"]⟩,
  ⟨0x12338, "CUNEIFORM SIGN URU TIMES ", ["A;ASHGAB;BAR;DUN;GA;GAL;GAN2 TENU;GAR;GU;HA;IGI;IM",
    "ISH;KI;LUM;MIN;PA;SHE;SIG4;TU;U PLUS GUD;UD;URUDA"]⟩,
  ⟨0x1234f, "CUNEIFORM SIGN ", ["URUDA;URUDA TIMES U;USH;USH TIMES A;USH TIMES KU;USH TIMES KUR",
    "USH TIMES TAK4;USHX;USH2;USHUMX;UTUKI;UZ3;UZ3 TIMES KASKAL;UZU;ZA;ZA TENU",
    "ZA SQUARED TIMES KUR;ZAG;ZAMX;ZE2;ZI;ZI OVER ZI;ZI3;ZIB;ZIB KABA TENU;ZIG;ZIZ2;ZU;ZU5",
    "ZU5 TIMES A;ZUBUR;ZUM;KAP ELAMITE;AB TIMES NUN;AB2 TIMES A;AMAR TIMES KUG",
    "DAG KISIM5 TIMES U2 PLUS MASH;DAG3;DISH PLUS SHU;DUB TIMES SHE;EZEN TIMES GUD",
    "EZEN TIMES SHE;GA2 TIMES AN PLUS KAK PLUS A;GA2 TIMES ASH2;GE22;GIG;HUSH"]⟩,
  ⟨0x1237e, "CUNEIFORM SIGN KA TIMES ", ["ANSHE;ASH3;GISH;GUD;HI TIMES ASH2;LUM;PA;SHUL;TU;UR2"]⟩,
  ⟨0x12388, "CUNEIFORM SIGN ", ["LAGAB TIMES GI;LU2 SHESHIG TIMES BAD;LU2 TIMES ESH2 PLUS LAL",
    "LU2 TIMES SHU;MESH;MUSH3 TIMES ZA;NA4;NIN;NIN9;NINDA2 TIMES BAL;NINDA2 TIMES GI",
    "NU11 ROTATED NINETY DEGREES;PESH2 ASTERISK;PIR2;SAG TIMES IGI GUNU;TI2;UM TIMES ME;U U"]⟩,
  ⟨0x12400, "CUNEIFORM NUMERIC SIGN ", ["TWO ASH;THREE ASH;FOUR ASH;FIVE ASH;SIX ASH;SEVEN ASH",
    "EIGHT ASH;NINE ASH;THREE DISH;FOUR DISH;FIVE DISH;SIX DISH;SEVEN DISH;EIGHT DISH;NINE DISH",
    "FOUR U;FIVE U;SIX U;SEVEN U;EIGHT U;NINE U;ONE GESH2;TWO GESH2;THREE GESH2;FOUR GESH2",
    "FIVE GESH2;SIX GESH2;SEVEN GESH2;EIGHT GESH2;NINE GESH2;ONE GESHU;TWO GESHU;THREE GESHU",
    "FOUR GESHU;FIVE GESHU;TWO SHAR2;THREE SHAR2;THREE SHAR2 VARIANT FORM;FOUR SHAR2;FIVE SHAR2",
    "SIX SHAR2;SEVEN SHAR2;EIGHT SHAR2;NINE SHAR2;ONE SHARU;TWO SHARU;THREE SHARU",
    "THREE SHARU VARIANT FORM;FOUR SHARU;FIVE SHARU;SHAR2 TIMES GAL PLUS DISH",
    "SHAR2 TIMES GAL PLUS MIN;ONE BURU;TWO BURU;THREE BURU;THREE BURU VARIANT FORM;FOUR BURU",
    "FIVE BURU;THREE VARIANT FORM ESH16;THREE VARIANT FORM ESH21"]⟩,
  ⟨0x1243c, "CUNEIFORM NUMERIC SIGN FOUR VARIANT FORM LIMM", ["U;U4;U A;U B"]⟩,
  ⟨0x12440, "CUNEIFORM NUMERIC SIGN SIX VARIANT FORM ASH", ["9"]⟩,
  ⟨0x12441, "CUNEIFORM NUMERIC SIGN SEVEN VARIANT FORM IMIN", ["3; A; B"]⟩,
  ⟨0x12444, "CUNEIFORM NUMERIC SIGN EIGHT VARIANT FORM USS", ["U;U3"]⟩,
  ⟨0x12446, "CUNEIFORM NUMERIC SIGN NINE VARIANT FORM ILIMM", ["U;U3;U4;U A"]⟩,
  ⟨0x1244a, "CUNEIFORM NUMERIC SIGN ", ["TWO ASH TENU;THREE ASH TENU;FOUR ASH TENU",
    "FIVE ASH TENU;SIX ASH TENU;ONE BAN2;TWO BAN2;THREE BAN2;FOUR BAN2;FOUR BAN2 VARIANT FORM",
    "FIVE BAN2;FIVE BAN2 VARIANT FORM;NIGIDAMIN;NIGIDAESH;ONE ESHE3;TWO ESHE3;ONE THIRD DISH",
    "TWO THIRDS DISH;FIVE SIXTHS DISH;ONE THIRD VARIANT FORM A;TWO THIRDS VARIANT FORM A",
    "ONE EIGHTH ASH;ONE QUARTER ASH;OLD ASSYRIAN ONE SIXTH;OLD ASSYRIAN ONE QUARTER",
    "ONE QUARTER GUR;ONE HALF GUR;ELAMITE ONE THIRD;ELAMITE TWO THIRDS;ELAMITE FORTY",
    "ELAMITE FIFTY;FOUR U VARIANT FORM;FIVE U VARIANT FORM;SIX U VARIANT FORM",
    "SEVEN U VARIANT FORM;EIGHT U VARIANT FORM;NINE U VARIANT FORM"]⟩,
  ⟨0x1246f, "CUNEIFORM PUNCTUATION SIGN ", [";OLD ASSYRIAN WORD DIVIDER;VERTICAL COLON",
    "DIAGONAL COLON;DIAGONAL TRICOLON;DIAGONAL QUADCOLON"]⟩,
  ⟨0x12480, "CUNEIFORM SIGN ", ["AB TIMES NUN TENU;AB TIMES SHU2;AD TIMES ESH2",
    "BAD TIMES DISH TENU;BAHAR2 TIMES AB2;BAHAR2 TIMES NI;BAHAR2 TIMES ZA;BU OVER BU TIMES NA2",
    "DA TIMES TAK4;DAG TIMES KUR;DIM TIMES IGI;DIM TIMES U U U;DIM2 TIMES UD"]⟩,
  ⟨0x1248d, "CUNEIFORM SIGN DUG TIMES ", ["ANSHE;ASH;ASH AT LEFT;DIN;DUN;ERIN2;GA;GI;GIR2 GUNU",
    "GISH;HA;HI;IGI GUNU;KASKAL;KUR;KUSHU2;KUSHU2 PLUS KASKAL;LAK-020;LAM;LAM TIMES KUR",
    "LUH PLUS GISH;MASH;MES;MI;NI;PI;SHE;SI GUNU"]⟩,
  ⟨0x124a9, "CUNEIFORM SIGN E", ["2 TIMES KUR;2 TIMES PAP;RIN2 X;SH2 CROSSING ESH2"]⟩,
  ⟨0x124ad, "CUNEIFORM SIGN EZEN SHESHIG TIMES ", ["ASH;HI;IGI GUNU;LA;LAL;ME;MES;SU"]⟩,
  ⟨0x124b5, "CUNEIFORM SIGN EZEN TIMES S", ["U"]⟩,
  ⟨0x124b6, "CUNEIFORM SIGN GA2 TIMES ", ["BAHAR2;DIM GUNU;DUG TIMES IGI GUNU;DUG TIMES KASKAL",
    "EREN;GA;GAR PLUS DI;GAR PLUS NE;HA PLUS A;KUSHU2 PLUS KASKAL;LAM;LAM TIMES KUR;LUH;MUSH;NE",
    "NE PLUS E2;NE PLUS GI;SHIM;ZIZ2"]⟩,
  ⟨0x124c9, "CUNEIFORM SIGN ", ["GABA ROTATED NINETY DEGREES;GESHTIN TIMES U",
    "GISH TIMES GISH CROSSING GISH;GU2 TIMES IGI GUNU;GUD PLUS GISH TIMES TAK4;HA TENU GUNU",
    "HI TIMES ASH OVER HI TIMES ASH;KA TIMES BU;KA TIMES KA;KA TIMES U U U;KA TIMES UR",
    "LAGAB TIMES ZU OVER ZU"]⟩,
  ⟨0x124d5, "CUNEIFORM SIGN LAK-", ["003;021;025;030;050;051;062;079 OVER LAK-079 GUNU;080",
    "081 OVER LAK-081;092;130;142;210;219;220;225;228;238;265;266;343;347;348;383;384;390;441",
    "449;449 TIMES GU;449 TIMES IGI;449 TIMES PAP PLUS LU3;449 TIMES PAP PLUS PAP PLUS LU3",
    "449 TIMES U2 PLUS BA;450;457;470;483;490;492;493;495;550;608;617"]⟩,
  ⟨0x12502, "CUNEIFORM SIGN LAK-617 TIMES ", ["ASH;BAD;DUN3 GUNU GUNU;KU3;LA;TAR;TE;U2;UD;URUDA"]⟩,
  ⟨0x1250c, "CUNEIFORM SIGN LAK-6", ["36;48"]⟩,
  ⟨0x1250e, "CUNEIFORM SIGN LAK-648 TIMES ", ["DUB;GA;IGI;IGI GUNU;NI;PAP PLUS PAP PLUS LU3",
    "SHESH PLUS KI;UD;URUDA"]⟩,
  ⟨0x12517, "CUNEIFORM SIGN L", ["AK-724;AK-749;U2 GUNU TIMES ASH"]⟩,
  ⟨0x1251a, "CUNEIFORM SIGN LU2 TIMES ", ["DISH;HAL;PAP;PAP PLUS PAP PLUS LU3;TAK4"]⟩,
  ⟨0x1251f, "CUNEIFORM SIGN MI PLUS ZA", ["7"]⟩,
  ⟨0x12520, "CUNEIFORM SIGN MUSH OVER MUSH TIMES ", ["GA;KAK"]⟩,
  ⟨0x12522, "CUNEIFORM SIGN NINDA2 TIMES ", ["DIM GUNU;GISH;GUL;HI;KESH2;LAK-050;MASH",
    "PAP PLUS PAP;U;U PLUS U;URUDA"]⟩,
  ⟨0x1252d, "CUNEIFORM SIGN ", ["SAG GUNU TIMES HA;SAG TIMES EN;SAG TIMES SHE AT LEFT",
    "SAG TIMES TAK4;SHA6 TENU;SHE OVER SHE;SHE PLUS HUB2;SHE PLUS NAM2;SHE PLUS SAR",
    "SHU2 PLUS DUG TIMES NI;SHU2 PLUS E2 TIMES AN;SI TIMES TAK4;TAK4 PLUS SAG",
    "TUM TIMES GAN2 TENU;TUM TIMES THREE DISH;UR2 INVERTED;UR2 TIMES UD;URU TIMES DARA3",
    "URU TIMES LAK-668;URU TIMES LU3;ZA7;ZU OVER ZU PLUS SAR;ZU5 TIMES THREE DISH TENU"]⟩,
  ⟨0x12f90, "CYPRO-MINOAN SIGN CM0", ["01;02;04;05;06;07;08;09;10;11;12;12B;13;15;17;19;21;23",
    "24;25;26;27;28;29;30;33;34;35;36;37;38;39;40;41;44;46;47;49;50;51;52;53;54;55;56;58;59;60",
    "61;62;63;64;66;67;68;69;70;71;72;73;74;75;75B;76;78;79;80;81;82;83;84;85;86;87;88;89;90;91",
    "92;94;95;96;97;98;99"]⟩,
  ⟨0x12fe5, "CYPRO-MINOAN SIGN CM", ["100;101;102;103;104;105;107;108;109;110;112;114;301;302"]⟩]

end Stencil.CharacterName
