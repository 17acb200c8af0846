import Stencil.Literal.CharacterName.Block

/-!
# Names of characters: musical, mathematical and other notations
-/

namespace Stencil.CharacterName

/-- Musical, mathematical and other notations, from U+18800 on. -/
def notationsPartA : List Block := [
  ⟨0x18800, "TANGUT COMPONENT-0", ["01;02;03;04;05;06;07;08;09;10;11;12;13;14;15;16;17;18;19;20",
    "21;22;23;24;25;26;27;28;29;30;31;32;33;34;35;36;37;38;39;40;41;42;43;44;45;46;47;48;49;50",
    "51;52;53;54;55;56;57;58;59;60;61;62;63;64;65;66;67;68;69;70;71;72;73;74;75;76;77;78;79;80",
    "81;82;83;84;85;86;87;88;89;90;91;92;93;94;95;96;97;98;99"]⟩,
  ⟨0x18863, "TANGUT COMPONENT-1", ["00;01;02;03;04;05;06;07;08;09;10;11;12;13;14;15;16;17;18;19",
    "20;21;22;23;24;25;26;27;28;29;30;31;32;33;34;35;36;37;38;39;40;41;42;43;44;45;46;47;48;49",
    "50;51;52;53;54;55;56;57;58;59;60;61;62;63;64;65;66;67;68;69;70;71;72;73;74;75;76;77;78;79",
    "80;81;82;83;84;85;86;87;88;89;90;91;92;93;94;95;96;97;98;99"]⟩,
  ⟨0x188c7, "TANGUT COMPONENT-2", ["00;01;02;03;04;05;06;07;08;09;10;11;12;13;14;15;16;17;18;19",
    "20;21;22;23;24;25;26;27;28;29;30;31;32;33;34;35;36;37;38;39;40;41;42;43;44;45;46;47;48;49",
    "50;51;52;53;54;55;56;57;58;59;60;61;62;63;64;65;66;67;68;69;70;71;72;73;74;75;76;77;78;79",
    "80;81;82;83;84;85;86;87;88;89;90;91;92;93;94;95;96;97;98;99"]⟩,
  ⟨0x1892b, "TANGUT COMPONENT-3", ["00;01;02;03;04;05;06;07;08;09;10;11;12;13;14;15;16;17;18;19",
    "20;21;22;23;24;25;26;27;28;29;30;31;32;33;34;35;36;37;38;39;40;41;42;43;44;45;46;47;48;49",
    "50;51;52;53;54;55;56;57;58;59;60;61;62;63;64;65;66;67;68;69;70;71;72;73;74;75;76;77;78;79",
    "80;81;82;83;84;85;86;87;88;89;90;91;92;93;94;95;96;97;98;99"]⟩,
  ⟨0x1898f, "TANGUT COMPONENT-4", ["00;01;02;03;04;05;06;07;08;09;10;11;12;13;14;15;16;17;18;19",
    "20;21;22;23;24;25;26;27;28;29;30;31;32;33;34;35;36;37;38;39;40;41;42;43;44;45;46;47;48;49",
    "50;51;52;53;54;55;56;57;58;59;60;61;62;63;64;65;66;67;68;69;70;71;72;73;74;75;76;77;78;79",
    "80;81;82;83;84;85;86;87;88;89;90;91;92;93;94;95;96;97;98;99"]⟩,
  ⟨0x189f3, "TANGUT COMPONENT-5", ["00;01;02;03;04;05;06;07;08;09;10;11;12;13;14;15;16;17;18;19",
    "20;21;22;23;24;25;26;27;28;29;30;31;32;33;34;35;36;37;38;39;40;41;42;43;44;45;46;47;48;49",
    "50;51;52;53;54;55;56;57;58;59;60;61;62;63;64;65;66;67;68;69;70;71;72;73;74;75;76;77;78;79",
    "80;81;82;83;84;85;86;87;88;89;90;91;92;93;94;95;96;97;98;99"]⟩,
  ⟨0x18a57, "TANGUT COMPONENT-6", ["00;01;02;03;04;05;06;07;08;09;10;11;12;13;14;15;16;17;18;19",
    "20;21;22;23;24;25;26;27;28;29;30;31;32;33;34;35;36;37;38;39;40;41;42;43;44;45;46;47;48;49",
    "50;51;52;53;54;55;56;57;58;59;60;61;62;63;64;65;66;67;68;69;70;71;72;73;74;75;76;77;78;79",
    "80;81;82;83;84;85;86;87;88;89;90;91;92;93;94;95;96;97;98;99"]⟩,
  ⟨0x18abb, "TANGUT COMPONENT-7", ["00;01;02;03;04;05;06;07;08;09;10;11;12;13;14;15;16;17;18;19",
    "20;21;22;23;24;25;26;27;28;29;30;31;32;33;34;35;36;37;38;39;40;41;42;43;44;45;46;47;48;49",
    "50;51;52;53;54;55;56;57;58;59;60;61;62;63;64;65;66;67;68"]⟩,
  ⟨0x1aff0, "KATAKANA LETTER MINNAN TONE-", ["2;3;4;5;;7;8"]⟩,
  ⟨0x1aff7, "KATAKANA LETTER MINNAN NASALIZED TONE-", ["1;2;3;4;5;;7;8"]⟩,
  ⟨0x1afff, "", [";KATAKANA LETTER ARCHAIC E;HIRAGANA LETTER ARCHAIC YE"]⟩,
  ⟨0x1b002, "HENTAIGANA LETTER ", ["A-1;A-2;A-3;A-WO;I-1;I-2;I-3;I-4;U-1;U-2;U-3;U-4;U-5;E-2",
    "E-3;E-4;E-5;E-6;O-1;O-2;O-3"]⟩,
  ⟨0x1b017, "HENTAIGANA LETTER K", ["A-1;A-2;A-3;A-4;A-5;A-6;A-7;A-8;A-9;A-10;A-11;A-KE;I-1;I-2",
    "I-3;I-4;I-5;I-6;I-7;I-8;U-1;U-2;U-3;U-4;U-5;U-6;U-7;E-1;E-2;E-3;E-4;E-5;E-6;O-1;O-2;O-3",
    "O-KI"]⟩,
  ⟨0x1b03c, "HENTAIGANA LETTER S", ["A-1;A-2;A-3;A-4;A-5;A-6;A-7;A-8;I-1;I-2;I-3;I-4;I-5;I-6",
    "U-1;U-2;U-3;U-4;U-5;U-6;U-7;U-8;E-1;E-2;E-3;E-4;E-5;O-1;O-2;O-3;O-4;O-5;O-6;O-7"]⟩,
  ⟨0x1b05e, "HENTAIGANA LETTER T", ["A-1;A-2;A-3;A-4;I-1;I-2;I-3;I-4;I-5;I-6;I-7;U-1;U-2;U-3",
    "U-4;U-TO;E-1;E-2;E-3;E-4;E-5;E-6;E-7;E-8;E-9;O-1;O-2;O-3;O-4;O-5;O-6;O-RA"]⟩,
  ⟨0x1b07e, "HENTAIGANA LETTER N", ["A-1;A-2;A-3;A-4;A-5;A-6;A-7;A-8;A-9;I-1;I-2;I-3;I-4;I-5",
    "I-6;I-7;I-TE;U-1;U-2;U-3;E-1;E-2;E-3;E-4;E-5;E-6;E-KO;O-1;O-2;O-3;O-4;O-5"]⟩,
  ⟨0x1b09e, "HENTAIGANA LETTER H", ["A-1;A-2;A-3;A-4;A-5;A-6;A-7;A-8;A-9;A-10;A-11;I-1;I-2;I-3",
    "I-4;I-5;I-6;I-7;U-1;U-2;U-3;E-1;E-2;E-3;E-4;E-5;E-6;E-7;O-1;O-2;O-3;O-4;O-5;O-6;O-7;O-8"]⟩,
  ⟨0x1b0c2, "HENTAIGANA LETTER M", ["A-1;A-2;A-3;A-4;A-5;A-6;A-7;I-1;I-2;I-3;I-4;I-5;I-6;I-7",
    "U-1;U-2;U-3;U-4;E-1;E-2;E-MA;O-1;O-2;O-3;O-4;O-5;O-6"]⟩,
  ⟨0x1b0dd, "HENTAIGANA LETTER Y", ["A-1;A-2;A-3;A-4;A-5;A-YO;U-1;U-2;U-3;U-4;O-1;O-2;O-3;O-4",
    "O-5;O-6"]⟩,
  ⟨0x1b0ed, "HENTAIGANA LETTER R", ["A-1;A-2;A-3;A-4;I-1;I-2;I-3;I-4;I-5;I-6;I-7;U-1;U-2;U-3",
    "U-4;U-5;U-6;E-1;E-2;E-3;E-4;O-1;O-2;O-3;O-4;O-5;O-6"]⟩,
  ⟨0x1b108, "HENTAIGANA LETTER W", ["A-1;A-2;A-3;A-4;A-5;I-1;I-2;I-3;I-4;I-5;E-1;E-2;E-3;E-4",
    "O-1;O-2;O-3;O-4;O-5;O-6;O-7"]⟩,
  ⟨0x1b11d, "HENTAIGANA LETTER N-MU-MO-", ["1;2"]⟩,
  ⟨0x1b11f, "HIRAGANA LETTER ARCHAIC W", ["U"]⟩,
  ⟨0x1b120, "KATAKANA LETTER ARCHAIC ", ["YI;YE;WU"]⟩,
  ⟨0x1b150, "HIRAGANA LETTER SMALL W", ["I;E;O"]⟩,
  ⟨0x1b164, "KATAKANA LETTER SMALL ", ["WI;WE;WO;N"]⟩,
  ⟨0x1bc00, "DUPLOYAN LETTER ", ["H;X;P;T;F;K;L;B;D;V;G;R;P N;D S;F N;K M;R S;TH;SLOAN DH;DH;KK",
    "SLOAN J;HL;LH;RH;M;N;J;S;M N;N M;J M;S J;M WITH DOT;N WITH DOT;J WITH DOT",
    "J WITH DOTS INSIDE AND ABOVE;S WITH DOT;S WITH DOT BELOW;M S;N S;J S;S S;M N S;N M S;J M S",
    "S J S;J S WITH DOT;J N;J N S;S T;S T R;S P;S P R;T S;T R S;W;WH;W R;S N;S M;K R S;G R S;S K",
    "S K R;A;SLOAN OW;OA;O;AOU;I;E;IE;SHORT I;UI;EE;SLOAN EH;ROMANIAN I;SLOAN EE;LONG I;YE;U;EU",
    "XW;U N;LONG U;ROMANIAN U;UH;SLOAN U;OOH;OW;OU;WA;WO;WI;WEI;WOW;NASAL U;NASAL O;NASAL I",
    "NASAL A;PERNIN AN;PERNIN AM;SLOAN EN;SLOAN AN;SLOAN ON;VOCALIC M"]⟩,
  ⟨0x1bc6b, "DUPLOYAN AFFIX ", [";;;;;LEFT HORIZONTAL SECANT;MID HORIZONTAL SECANT",
    "RIGHT HORIZONTAL SECANT;LOW VERTICAL SECANT;MID VERTICAL SECANT;HIGH VERTICAL SECANT"]⟩,
  ⟨0x1bc76, "DUPLOYAN AFFIX ATTACHED ", ["SECANT;LEFT-TO-RIGHT SECANT;TANGENT;TAIL;E HOOK",
    "I HOOK;TANGENT HOOK"]⟩,
  ⟨0x1bc7d, "DUPLOYAN AFFIX HIGH ", [";;;ACUTE;TIGHT ACUTE;GRAVE;LONG GRAVE;DOT;CIRCLE;LINE",
    "WAVE;VERTICAL"]⟩,
  ⟨0x1bc89, "DUPLOYAN AFFIX LOW ", [";;;;;;;ACUTE;TIGHT ACUTE;GRAVE;LONG GRAVE;DOT;CIRCLE;LINE",
    "WAVE;VERTICAL;ARROW"]⟩,
  ⟨0x1bc9a, "DUPLOYAN ", [";;SIGN O WITH CROSS;THICK LETTER SELECTOR;DOUBLE MARK",
    "PUNCTUATION CHINOOK FULL STOP"]⟩,
  ⟨0x1bca0, "SHORTHAND FORMAT ", ["LETTER OVERLAP;CONTINUING OVERLAP;DOWN STEP;UP STEP"]⟩,
  ⟨0x1cf00, "ZNAMENNY COMBINING MARK ", ["GORAZDO NIZKO S KRYZHEM ON LEFT",
    "NIZKO S KRYZHEM ON LEFT;TSATA ON LEFT;GORAZDO NIZKO ON LEFT;NIZKO ON LEFT;SREDNE ON LEFT",
    "MALO POVYSHE ON LEFT;POVYSHE ON LEFT;VYSOKO ON LEFT;MALO POVYSHE S KHOKHLOM ON LEFT",
    "POVYSHE S KHOKHLOM ON LEFT;VYSOKO S KHOKHLOM ON LEFT;GORAZDO NIZKO S KRYZHEM ON RIGHT",
    "NIZKO S KRYZHEM ON RIGHT;TSATA ON RIGHT;GORAZDO NIZKO ON RIGHT;NIZKO ON RIGHT",
    "SREDNE ON RIGHT;MALO POVYSHE ON RIGHT;POVYSHE ON RIGHT;VYSOKO ON RIGHT",
    "MALO POVYSHE S KHOKHLOM ON RIGHT;POVYSHE S KHOKHLOM ON RIGHT;VYSOKO S KHOKHLOM ON RIGHT",
    "TSATA S KRYZHEM;MALO POVYSHE S KRYZHEM;STRANNO MALO POVYSHE;POVYSHE S KRYZHEM",
    "POVYSHE STRANNO;VYSOKO S KRYZHEM;MALO POVYSHE STRANNO;GORAZDO VYSOKO;ZELO;ON;RAVNO;TIKHAYA",
    "BORZAYA;UDARKA;PODVERTKA;LOMKA;KUPNAYA;KACHKA;ZEVOK;SKOBA;RAZSEKA;KRYZH ON LEFT"]⟩,
  ⟨0x1cf2e, "ZNAMENNY COMBINING TONAL RANGE MARK ", [";;MRACHNO;SVETLO;TRESVETLO"]⟩,
  ⟨0x1cf33, "ZNAMENNY COMBINING MARK ", ["ZADERZHKA;DEMESTVENNY ZADERZHKA;OTSECHKA;PODCHASHIE",
    "PODCHASHIE WITH VERTICAL STROKE;CHASHKA;CHASHKA POLNAYA;OBLACHKO;SOROCHYA NOZHKA;TOCHKA",
    "DVOETOCHIE"]⟩,
  ⟨0x1cf3e, "ZNAMENNY COMBINING ", ["ATTACHING VERTICAL OMET;MARK CURVED OMET;MARK KRYZH",
    "LOWER TONAL RANGE INDICATOR"]⟩,
  ⟨0x1cf42, "ZNAMENNY PRIZNAK MODIFIER ", ["LEVEL-2;LEVEL-3;DIRECTION FLIP;KRYZH;ROG"]⟩,
  ⟨0x1cf50, "ZNAMENNY NEUME ", ["KRYUK;KRYUK TIKHY;PARAKLIT;DVA V CHELNU;KLYUCH;ZANOZHEK",
    "STOPITSA;STOPITSA S OCHKOM;PEREVODKA;PEREVODKA NEPOSTOYANNAYA;STOPITSA WITH SOROCHYA NOZHKA",
    "CHELYUSTKA;PALKA;ZAPYATAYA"]⟩,
  ⟨0x1cf5e, "ZNAMENNY NEUME GOLUBCHIK ", ["BORZY;TIKHY;MRACHNY;SVETLY;TRESVETLY"]⟩,
  ⟨0x1cf63, "ZNAMENNY NEUME VRAKHIYA ", ["PROSTAYA;MRACHNAYA;SVETLAYA;TRESVETLAYA"]⟩,
  ⟨0x1cf67, "ZNAMENNY NEUME VRAKHIYA KLYUCHEVAYA ", ["PROSTAYA;MRACHNAYA;SVETLAYA;TRESVETLAYA"]⟩,
  ⟨0x1cf6b, "ZNAMENNY NEUME ", ["DOUBLE ZAPYATAYA;REVERSED CHELYUSTKA;DERBITSA;KHAMILO;CHASHKA",
    "PODCHASHIE;SKAMEYTSA MRACHNAYA;SKAMEYTSA SVETLAYA;SKAMEYTSA TRESVETLAYA;SKAMEYTSA TIKHAYA",
    "DEMESTVENNY KLYUCH"]⟩,
  ⟨0x1cf76, "ZNAMENNY NEUME SKAMEYTSA KLYUCHE", ["VAYA SVETLAYA;NEPOSTOYANNAYA;VAYA TIKHAYA"]⟩,
  ⟨0x1cf79, "ZNAMENNY NEUME SKAMEYTSA DVOECHELNAYA ", ["PROSTAYA;SVETLAYA;NEPOSTOYANNAYA",
    "KLYUCHEVAYA"]⟩,
  ⟨0x1cf7d, "ZNAMENNY NEUME SLOZHITI", ["E;E S ZAPYATOY;E ZAKRYTOE;E S KRYZHEM"]⟩,
  ⟨0x1cf81, "ZNAMENNY NEUME ", ["KRYZH;ROG;FITA;KOBYLA;ZMEYTSA;STATYA"]⟩,
  ⟨0x1cf87, "ZNAMENNY NEUME STATYA ", ["S ZAPYATOY;S KRYZHEM;S ZAPYATOY I KRYZHEM",
    "S KRYZHEM I ZAPYATOY;ZAKRYTAYA;ZAKRYTAYA S ZAPYATOY;S ROGOM;S DVUMYA ZAPYATYMI",
    "S ZAPYATOY I PODCHASHIEM"]⟩,
  ⟨0x1cf90, "ZNAMENNY NEUME ", ["POLKULIZMY;STATYA NEPOSTOYANNAYA"]⟩,
  ⟨0x1cf92, "ZNAMENNY NEUME STRELA ", ["PROSTAYA;MRACHNOTIKHAYA;KRYZHEVAYA;POLUPOVODNAYA",
    "POVODNAYA;NEPOSTOYANNAYA;KLYUCHEPOVODNAYA;KLYUCHENEPOSTOYANNAYA;TIKHAYA PUTNAYA"]⟩,
  ⟨0x1cf9b, "ZNAMENNY NEUME STRELA DVOECHELN", ["AYA;OKRYZHEVAYA;OPOVODNAYA;AYA KLYUCHEVAYA",
    "OPOVODNAYA KLYUCHEVAYA"]⟩,
  ⟨0x1cfa0, "ZNAMENNY NEUME STRELA GROM", ["NAYA WITH SINGLE ZAPYATAYA",
    "OPOVODNAYA WITH SINGLE ZAPYATAYA;NAYA;OPOVODNAYA;OPOVODNAYA WITH DOUBLE ZAPYATAYA",
    "OKRYZHEVAYA;OKRYZHEVAYA POVODNAYA"]⟩,
  ⟨0x1cfa7, "ZNAMENNY NEUME MECHI", ["K;K POVODNY;K KLYUCHEVOY;K KLYUCHEPOVODNY",
    "K KLYUCHENEPOSTOYANNY"]⟩,
  ⟨0x1cfac, "ZNAMENNY NEUME STRELA TRYASO", ["GLASNAYA;POVODNAYA;STRELNAYA"]⟩,
  ⟨0x1cfaf, "ZNAMENNY NEUME OSOK", ["A;A SVETLAYA;A TRESVETLAYA;A KRYUKOVAYA SVETLAYA",
    "A KLYUCHEVAYA SVETLAYA;A KLYUCHEVAYA NEPOSTOYANNAYA"]⟩,
  ⟨0x1cfb5, "ZNAMENNY NEUME STRELA KRYUKOVAY", ["A;A POVODNAYA;A GROMNAYA WITH SINGLE ZAPYATAYA",
    "A GROMOPOVODNAYA WITH SINGLE ZAPYATAYA;A GROMNAYA;A GROMOPOVODNAYA",
    "A GROMOPOVODNAYA WITH DOUBLE ZAPYATAYA;A GROMOKRYZHEVAYA;A GROMOKRYZHEVAYA POVODNAYA",
    "A TRYASKA"]⟩,
  ⟨0x1cfbf, "ZNAMENNY NEUME ", ["KUFISMA;OBLAKO;DUDA;NEMKA;PAUK"]⟩,
  ⟨0x1d000, "BYZANTINE MUSICAL SYMBOL ", ["PSILI;DASEIA;PERISPOMENI;OXEIA EKFONITIKON",
    "OXEIA DIPLI;VAREIA EKFONITIKON;VAREIA DIPLI;KATHISTI;SYRMATIKI;PARAKLITIKI;YPOKRISIS",
    "YPOKRISIS DIPLI;KREMASTI;APESO EKFONITIKON;EXO EKFONITIKON;TELEIA;KENTIMATA;APOSTROFOS",
    "APOSTROFOS DIPLI;SYNEVMA;THITA;OLIGON ARCHAION;GORGON ARCHAION;PSILON;CHAMILON;VATHY",
    "ISON ARCHAION;KENTIMA ARCHAION;KENTIMATA ARCHAION;SAXIMATA;PARICHON;STAVROS APODEXIA",
    "OXEIAI ARCHAION;VAREIAI ARCHAION;APODERMA ARCHAION;APOTHEMA;KLASMA;REVMA;PIASMA ARCHAION",
    "TINAGMA;ANATRICHISMA;SEISMA;SYNAGMA ARCHAION;SYNAGMA META STAVROU;OYRANISMA ARCHAION;THEMA",
    "LEMOI;DYO;TRIA;TESSERA;KRATIMATA;APESO EXO NEO;FTHORA ARCHAION;IMIFTHORA;TROMIKON ARCHAION",
    "KATAVA TROMIKON;PELASTON;PSIFISTON;KONTEVMA;CHOREVMA ARCHAION;RAPISMA;PARAKALESMA ARCHAION",
    "PARAKLITIKI ARCHAION;ICHADIN;NANA;PETASMA;KONTEVMA ALLO;TROMIKON ALLO;STRAGGISMATA",
    "GRONTHISMATA;ISON NEO;OLIGON NEO;OXEIA NEO;PETASTI;KOUFISMA;PETASTOKOUFISMA;KRATIMOKOUFISMA",
    "PELASTON NEO;KENTIMATA NEO ANO;KENTIMA NEO ANO;YPSILI;APOSTROFOS NEO",
    "APOSTROFOI SYNDESMOS NEO;YPORROI;KRATIMOYPORROON;ELAFRON;CHAMILI;MIKRON ISON;VAREIA NEO",
    "PIASMA NEO;PSIFISTON NEO;OMALON;ANTIKENOMA;LYGISMA;PARAKLITIKI NEO;PARAKALESMA NEO",
    "ETERON PARAKALESMA;KYLISMA;ANTIKENOKYLISMA;TROMIKON NEO;EKSTREPTON;SYNAGMA NEO;SYRMA",
    "CHOREVMA NEO;EPEGERMA;SEISMA NEO;XIRON KLASMA;TROMIKOPSIFISTON;PSIFISTOLYGISMA",
    "TROMIKOLYGISMA;TROMIKOPARAKALESMA;PSIFISTOPARAKALESMA;TROMIKOSYNAGMA;PSIFISTOSYNAGMA",
    "GORGOSYNTHETON;ARGOSYNTHETON;ETERON ARGOSYNTHETON;OYRANISMA NEO;THEMATISMOS ESO",
    "THEMATISMOS EXO;THEMA APLOUN;THES KAI APOTHES;KATAVASMA;ENDOFONON;YFEN KATO;YFEN ANO",
    "STAVROS;KLASMA ANO;DIPLI ARCHAION;KRATIMA ARCHAION;KRATIMA ALLO;KRATIMA NEO;APODERMA NEO",
    "APLI;DIPLI;TRIPLI;TETRAPLI;KORONIS;LEIMMA ENOS CHRONOU;LEIMMA DYO CHRONON",
    "LEIMMA TRION CHRONON;LEIMMA TESSARON CHRONON;LEIMMA IMISEOS CHRONOU;GORGON NEO ANO",
    "GORGON PARESTIGMENON ARISTERA;GORGON PARESTIGMENON DEXIA;DIGORGON",
    "DIGORGON PARESTIGMENON ARISTERA KATO;DIGORGON PARESTIGMENON ARISTERA ANO",
    "DIGORGON PARESTIGMENON DEXIA;TRIGORGON;ARGON;IMIDIARGON;DIARGON"]⟩,
  ⟨0x1d09a, "BYZANTINE MUSICAL SYMBOL AGOGI ", ["POLI ARGI;ARGOTERI;ARGI;METRIA;MESI;GORGI",
    "GORGOTERI;POLI GORGI"]⟩,
  ⟨0x1d0a2, "BYZANTINE MUSICAL SYMBOL MARTYRIA ", ["PROTOS ICHOS;ALLI PROTOS ICHOS",
    "DEYTEROS ICHOS;ALLI DEYTEROS ICHOS;TRITOS ICHOS;TRIFONIAS;TETARTOS ICHOS",
    "TETARTOS LEGETOS ICHOS;LEGETOS ICHOS;PLAGIOS ICHOS"]⟩,
  ⟨0x1d0ac, "BYZANTINE MUSICAL SYMBOL ", ["ISAKIA TELOUS ICHIMATOS;APOSTROFOI TELOUS ICHIMATOS",
    "FANEROSIS TETRAFONIAS;FANEROSIS MONOFONIAS;FANEROSIS DIFONIAS;MARTYRIA VARYS ICHOS",
    "MARTYRIA PROTOVARYS ICHOS;MARTYRIA PLAGIOS TETARTOS ICHOS;GORTHMIKON N APLOUN",
    "GORTHMIKON N DIPLOUN;ENARXIS KAI FTHORA VOU;IMIFONON;IMIFTHORON"]⟩,
  ⟨0x1d0b9, "BYZANTINE MUSICAL SYMBOL FTHORA ", ["ARCHAION DEYTEROU ICHOU;DIATONIKI PA",
    "DIATONIKI NANA;NAOS ICHOS;DIATONIKI DI;SKLIRON DIATONON DI;DIATONIKI KE;DIATONIKI ZO",
    "DIATONIKI NI KATO;DIATONIKI NI ANO;MALAKON CHROMA DIFONIAS;MALAKON CHROMA MONOFONIAS"]⟩,
  ⟨0x1d0c5, "BYZANTINE MUSICAL SYMBOL ", ["FHTORA SKLIRON CHROMA VASIS",
    "FTHORA SKLIRON CHROMA SYNAFI;FTHORA NENANO;CHROA ZYGOS;CHROA KLITON;CHROA SPATHI",
    "FTHORA I YFESIS TETARTIMORION;FTHORA ENARMONIOS ANTIFONIA;YFESIS TRITIMORION",
    "DIESIS TRITIMORION;DIESIS TETARTIMORION;DIESIS APLI DYO DODEKATA",
    "DIESIS MONOGRAMMOS TESSERA DODEKATA;DIESIS DIGRAMMOS EX DODEKATA",
    "DIESIS TRIGRAMMOS OKTO DODEKATA;YFESIS APLI DYO DODEKATA",
    "YFESIS MONOGRAMMOS TESSERA DODEKATA;YFESIS DIGRAMMOS EX DODEKATA",
    "YFESIS TRIGRAMMOS OKTO DODEKATA;GENIKI DIESIS;GENIKI YFESIS;DIASTOLI APLI MIKRI",
    "DIASTOLI APLI MEGALI;DIASTOLI DIPLI;DIASTOLI THESEOS"]⟩,
  ⟨0x1d0de, "BYZANTINE MUSICAL SYMBOL SIMANSIS ", ["THESEOS;THESEOS DISIMOU;THESEOS TRISIMOU",
    "THESEOS TETRASIMOU;ARSEOS;ARSEOS DISIMOU;ARSEOS TRISIMOU;ARSEOS TETRASIMOU"]⟩,
  ⟨0x1d0e6, "BYZANTINE MUSICAL SYMBOL ", ["DIGRAMMA GG;DIFTOGGOS OU;STIGMA;ARKTIKO PA",
    "ARKTIKO VOU;ARKTIKO GA;ARKTIKO DI;ARKTIKO KE;ARKTIKO ZO;ARKTIKO NI;KENTIMATA NEO MESO",
    "KENTIMA NEO MESO;KENTIMATA NEO KATO;KENTIMA NEO KATO;KLASMA KATO;GORGON NEO KATO"]⟩,
  ⟨0x1d100, "MUSICAL SYMBOL ", ["SINGLE BARLINE;DOUBLE BARLINE;FINAL BARLINE",
    "REVERSE FINAL BARLINE;DASHED BARLINE;SHORT BARLINE;LEFT REPEAT SIGN;RIGHT REPEAT SIGN",
    "REPEAT DOTS;DAL SEGNO;DA CAPO;SEGNO;CODA;REPEATED FIGURE-1;REPEATED FIGURE-2",
    "REPEATED FIGURE-3;FERMATA;FERMATA BELOW;BREATH MARK;CAESURA;BRACE;BRACKET;ONE-LINE STAFF",
    "TWO-LINE STAFF;THREE-LINE STAFF;FOUR-LINE STAFF;FIVE-LINE STAFF;SIX-LINE STAFF",
    "SIX-STRING FRETBOARD;FOUR-STRING FRETBOARD;G CLEF;G CLEF OTTAVA ALTA;G CLEF OTTAVA BASSA",
    "C CLEF;F CLEF;F CLEF OTTAVA ALTA;F CLEF OTTAVA BASSA;DRUM CLEF-1;DRUM CLEF-2;;",
    "MULTIPLE MEASURE REST;DOUBLE SHARP;DOUBLE FLAT;FLAT UP;FLAT DOWN;NATURAL UP;NATURAL DOWN",
    "SHARP UP;SHARP DOWN;QUARTER TONE SHARP;QUARTER TONE FLAT;COMMON TIME;CUT TIME;OTTAVA ALTA",
    "OTTAVA BASSA;QUINDICESIMA ALTA;QUINDICESIMA BASSA;MULTI REST;WHOLE REST;HALF REST",
    "QUARTER REST;EIGHTH REST;SIXTEENTH REST;THIRTY-SECOND REST;SIXTY-FOURTH REST",
    "ONE HUNDRED TWENTY-EIGHTH REST;X NOTEHEAD;PLUS NOTEHEAD;CIRCLE X NOTEHEAD",
    "SQUARE NOTEHEAD WHITE;SQUARE NOTEHEAD BLACK"]⟩,
  ⟨0x1d148, "MUSICAL SYMBOL TRIANGLE NOTEHEAD ", ["UP WHITE;UP BLACK;LEFT WHITE;LEFT BLACK",
    "RIGHT WHITE;RIGHT BLACK;DOWN WHITE;DOWN BLACK;UP RIGHT WHITE;UP RIGHT BLACK"]⟩,
  ⟨0x1d152, "MUSICAL SYMBOL MOON NOTEHEAD ", ["WHITE;BLACK"]⟩,
  ⟨0x1d154, "MUSICAL SYMBOL TRIANGLE-ROUND NOTEHEAD DOWN ", ["WHITE;BLACK"]⟩,
  ⟨0x1d156, "MUSICAL SYMBOL ", ["PARENTHESIS NOTEHEAD;VOID NOTEHEAD;NOTEHEAD BLACK",
    "NULL NOTEHEAD;CLUSTER NOTEHEAD WHITE;CLUSTER NOTEHEAD BLACK;BREVE;WHOLE NOTE;HALF NOTE",
    "QUARTER NOTE;EIGHTH NOTE;SIXTEENTH NOTE;THIRTY-SECOND NOTE;SIXTY-FOURTH NOTE",
    "ONE HUNDRED TWENTY-EIGHTH NOTE"]⟩,
  ⟨0x1d165, "MUSICAL SYMBOL COMBINING ", ["STEM;SPRECHGESANG STEM;TREMOLO-1;TREMOLO-2;TREMOLO-3"]⟩,
  ⟨0x1d16a, "MUSICAL SYMBOL FINGERED TREMOLO-", ["1;2;3"]⟩,
  ⟨0x1d16d, "MUSICAL SYMBOL COMBINING ", ["AUGMENTATION DOT;FLAG-1;FLAG-2;FLAG-3;FLAG-4;FLAG-5"]⟩,
  ⟨0x1d173, "MUSICAL SYMBOL ", ["BEGIN BEAM;END BEAM;BEGIN TIE;END TIE;BEGIN SLUR;END SLUR",
    "BEGIN PHRASE;END PHRASE"]⟩,
  ⟨0x1d17b, "MUSICAL SYMBOL COMBINING ", ["ACCENT;STACCATO;TENUTO;STACCATISSIMO;MARCATO",
    "MARCATO-STACCATO;ACCENT-STACCATO;LOURE"]⟩,
  ⟨0x1d183, "MUSICAL SYMBOL ARPEGGIATO ", ["UP;DOWN"]⟩,
  ⟨0x1d185, "MUSICAL SYMBOL COMBINING ", ["DOIT;RIP;FLIP;SMEAR;BEND;DOUBLE TONGUE;TRIPLE TONGUE"]⟩,
  ⟨0x1d18c, "MUSICAL SYMBOL ", ["RINFORZANDO;SUBITO;Z;PIANO;MEZZO;FORTE;CRESCENDO;DECRESCENDO",
    "GRACE NOTE SLASH;GRACE NOTE NO SLASH;TR;TURN;INVERTED TURN;TURN SLASH;TURN UP"]⟩,
  ⟨0x1d19b, "MUSICAL SYMBOL ORNAMENT STROKE-", ["1;2;3;4;5;6;7;8;9;10;11"]⟩,
  ⟨0x1d1a6, "MUSICAL SYMBOL ", ["HAUPTSTIMME;NEBENSTIMME;END OF STIMME;DEGREE SLASH",
    "COMBINING DOWN BOW;COMBINING UP BOW;COMBINING HARMONIC;COMBINING SNAP PIZZICATO;PEDAL MARK",
    "PEDAL UP MARK;HALF PEDAL MARK;GLISSANDO UP;GLISSANDO DOWN;WITH FINGERNAILS;DAMP;DAMP ALL",
    "MAXIMA;LONGA;BREVIS;SEMIBREVIS WHITE;SEMIBREVIS BLACK;MINIMA;MINIMA BLACK;SEMIMINIMA WHITE",
    "SEMIMINIMA BLACK;FUSA WHITE;FUSA BLACK;LONGA PERFECTA REST;LONGA IMPERFECTA REST",
    "BREVIS REST;SEMIBREVIS REST;MINIMA REST;SEMIMINIMA REST"]⟩,
  ⟨0x1d1c7, "MUSICAL SYMBOL TEMPUS PERFECTUM CUM PROLATIONE ", ["PERFECTA;IMPERFECTA",
    "PERFECTA DIMINUTION-1"]⟩,
  ⟨0x1d1ca, "MUSICAL SYMBOL TEMPUS IMPERFECTUM CUM PROLATIONE ", ["PERFECTA;IMPERFECTA",
    "IMPERFECTA DIMINUTION-1;IMPERFECTA DIMINUTION-2;IMPERFECTA DIMINUTION-3"]⟩,
  ⟨0x1d1cf, "MUSICAL SYMBOL ", ["CROIX;GREGORIAN C CLEF;GREGORIAN F CLEF;SQUARE B;VIRGA;PODATUS",
    "CLIVIS;SCANDICUS;CLIMACUS;TORCULUS;PORRECTUS;PORRECTUS FLEXUS;SCANDICUS FLEXUS",
    "TORCULUS RESUPINUS;PES SUBPUNCTIS"]⟩,
  ⟨0x1d1de, "MUSICAL SYMBOL KIEVAN ", ["C CLEF;END OF PIECE;FINAL NOTE;RECITATIVE MARK",
    "WHOLE NOTE;HALF NOTE;QUARTER NOTE STEM DOWN;QUARTER NOTE STEM UP;EIGHTH NOTE STEM DOWN",
    "EIGHTH NOTE STEM UP;FLAT SIGN"]⟩,
  ⟨0x1d1e9, "MUSICAL SYMBOL ", ["SORI;KORON"]⟩,
  ⟨0x1d200, "GREEK VOCAL NOTATION SYMBOL-", ["1;2;3;4;5;6;7;8;9;10;11;12;13;14;15;16;17;18;19",
    "20;21;22;23;24;50;51;52;53;54"]⟩,
  ⟨0x1d21d, "GREEK INSTRUMENTAL NOTATION SYMBOL-", ["1;2;4;5;7;8;11;12;13;14;17;18;19;23;24;25",
    "26;27;29;30;32;36;37;38;39;40;42;43;45;47;48;49;50;51;52;53;54"]⟩,
  ⟨0x1d242, "COMBINING GREEK MUSICAL ", ["TRISEME;TETRASEME;PENTASEME"]⟩,
  ⟨0x1d245, "GREEK MUSICAL LEIMM", ["A"]⟩,
  ⟨0x1d2e0, "MAYAN NUMERAL ", ["ZERO;ONE;TWO;THREE;FOUR;FIVE;SIX;SEVEN;EIGHT;NINE;TEN;ELEVEN",
    "TWELVE;THIRTEEN;FOURTEEN;FIFTEEN;SIXTEEN;SEVENTEEN;EIGHTEEN;NINETEEN"]⟩,
  ⟨0x1d300, "MONOGRAM FOR EART", ["H"]⟩,
  ⟨0x1d301, "DIGRAM FOR ", ["HEAVENLY EARTH;HUMAN EARTH;EARTHLY HEAVEN;EARTHLY HUMAN;EARTH"]⟩,
  ⟨0x1d306, "TETRAGRAM FOR ", ["CENTRE;FULL CIRCLE;MIRED;BARRIER;KEEPING SMALL;CONTRARIETY",
    "ASCENT;OPPOSITION;BRANCHING OUT;DEFECTIVENESS OR DISTORTION;DIVERGENCE;YOUTHFULNESS",
    "INCREASE;PENETRATION;REACH;CONTACT;HOLDING BACK;WAITING;FOLLOWING;ADVANCE;RELEASE",
    "RESISTANCE;EASE;JOY;CONTENTION;ENDEAVOUR;DUTIES;CHANGE;DECISIVENESS;BOLD RESOLUTION;PACKING",
    "LEGION;CLOSENESS;KINSHIP;GATHERING;STRENGTH;PURITY;FULLNESS;RESIDENCE;LAW OR MODEL;RESPONSE",
    "GOING TO MEET;ENCOUNTERS;STOVE;GREATNESS;ENLARGEMENT;PATTERN;RITUAL;FLIGHT",
    "VASTNESS OR WASTING;CONSTANCY;MEASURE;ETERNITY;UNITY;DIMINISHMENT;CLOSED MOUTH;GUARDEDNESS",
    "GATHERING IN;MASSING;ACCUMULATION;EMBELLISHMENT;DOUBT;WATCH;SINKING;INNER;DEPARTURE",
    "DARKENING;DIMMING;EXHAUSTION;SEVERANCE;STOPPAGE;HARDNESS;COMPLETION;CLOSURE;FAILURE",
    "AGGRAVATION;COMPLIANCE;ON THE VERGE;DIFFICULTIES;LABOURING;FOSTERING"]⟩,
  ⟨0x1d360, "COUNTING ROD UNIT DIGIT ", ["ONE;TWO;THREE;FOUR;FIVE;SIX;SEVEN;EIGHT;NINE"]⟩,
  ⟨0x1d369, "COUNTING ROD TENS DIGIT ", ["ONE;TWO;THREE;FOUR;FIVE;SIX;SEVEN;EIGHT;NINE"]⟩,
  ⟨0x1d372, "IDEOGRAPHIC TALLY MARK ", ["ONE;TWO;THREE;FOUR;FIVE"]⟩,
  ⟨0x1d377, "TALLY MARK ", ["ONE;FIVE"]⟩,
  ⟨0x1d400, "MATHEMATICAL BOLD CAPITAL ", ["A;B;C;D;E;F;G;H;I;J;K;L;M;N;O;P;Q;R;S;T;U;V;W;X;Y;Z"]⟩,
  ⟨0x1d41a, "MATHEMATICAL BOLD SMALL ", ["A;B;C;D;E;F;G;H;I;J;K;L;M;N;O;P;Q;R;S;T;U;V;W;X;Y;Z"]⟩,
  ⟨0x1d434, "MATHEMATICAL ITALIC CAPITAL ", ["A;B;C;D;E;F;G;H;I;J;K;L;M;N;O;P;Q;R;S;T;U;V;W;X;Y",
    "Z"]⟩]

/-- Musical, mathematical and other notations, from U+1D44E on. -/
def notationsPartB : List Block := [
  ⟨0x1d44e, "MATHEMATICAL ITALIC SMALL ", ["A;B;C;D;E;F;G;;I;J;K;L;M;N;O;P;Q;R;S;T;U;V;W;X;Y;Z"]⟩,
  ⟨0x1d468, "MATHEMATICAL BOLD ITALIC CAPITAL ", ["A;B;C;D;E;F;G;H;I;J;K;L;M;N;O;P;Q;R;S;T;U;V",
    "W;X;Y;Z"]⟩,
  ⟨0x1d482, "MATHEMATICAL BOLD ITALIC SMALL ", ["A;B;C;D;E;F;G;H;I;J;K;L;M;N;O;P;Q;R;S;T;U;V;W",
    "X;Y;Z"]⟩,
  ⟨0x1d49c, "MATHEMATICAL SCRIPT CAPITAL ", ["A;;C;D;;;G;;;J;K;;;N;O;P;Q;;S;T;U;V;W;X;Y;Z"]⟩,
  ⟨0x1d4b6, "MATHEMATICAL SCRIPT SMALL ", ["A;B;C;D;;F;;H;I;J;K;L;M;N;;P;Q;R;S;T;U;V;W;X;Y;Z"]⟩,
  ⟨0x1d4d0, "MATHEMATICAL BOLD SCRIPT CAPITAL ", ["A;B;C;D;E;F;G;H;I;J;K;L;M;N;O;P;Q;R;S;T;U;V",
    "W;X;Y;Z"]⟩,
  ⟨0x1d4ea, "MATHEMATICAL BOLD SCRIPT SMALL ", ["A;B;C;D;E;F;G;H;I;J;K;L;M;N;O;P;Q;R;S;T;U;V;W",
    "X;Y;Z"]⟩,
  ⟨0x1d504, "MATHEMATICAL FRAKTUR CAPITAL ", ["A;B;;D;E;F;G;;;J;K;L;M;N;O;P;Q;;S;T;U;V;W;X;Y"]⟩,
  ⟨0x1d51d, "MATHEMATICAL FRAKTUR SMALL ", [";A;B;C;D;E;F;G;H;I;J;K;L;M;N;O;P;Q;R;S;T;U;V;W;X;Y",
    "Z"]⟩,
  ⟨0x1d538, "MATHEMATICAL DOUBLE-STRUCK CAPITAL ", ["A;B;;D;E;F;G;;I;J;K;L;M;;O;;;;S;T;U;V;W;X",
    "Y"]⟩,
  ⟨0x1d551, "MATHEMATICAL DOUBLE-STRUCK SMALL ", [";A;B;C;D;E;F;G;H;I;J;K;L;M;N;O;P;Q;R;S;T;U;V",
    "W;X;Y;Z"]⟩,
  ⟨0x1d56c, "MATHEMATICAL BOLD FRAKTUR CAPITAL ", ["A;B;C;D;E;F;G;H;I;J;K;L;M;N;O;P;Q;R;S;T;U;V",
    "W;X;Y;Z"]⟩,
  ⟨0x1d586, "MATHEMATICAL BOLD FRAKTUR SMALL ", ["A;B;C;D;E;F;G;H;I;J;K;L;M;N;O;P;Q;R;S;T;U;V;W",
    "X;Y;Z"]⟩,
  ⟨0x1d5a0, "MATHEMATICAL SANS-SERIF CAPITAL ", ["A;B;C;D;E;F;G;H;I;J;K;L;M;N;O;P;Q;R;S;T;U;V;W",
    "X;Y;Z"]⟩,
  ⟨0x1d5ba, "MATHEMATICAL SANS-SERIF SMALL ", ["A;B;C;D;E;F;G;H;I;J;K;L;M;N;O;P;Q;R;S;T;U;V;W;X",
    "Y;Z"]⟩,
  ⟨0x1d5d4, "MATHEMATICAL SANS-SERIF BOLD CAPITAL ", ["A;B;C;D;E;F;G;H;I;J;K;L;M;N;O;P;Q;R;S;T",
    "U;V;W;X;Y;Z"]⟩,
  ⟨0x1d5ee, "MATHEMATICAL SANS-SERIF BOLD SMALL ", ["A;B;C;D;E;F;G;H;I;J;K;L;M;N;O;P;Q;R;S;T;U",
    "V;W;X;Y;Z"]⟩,
  ⟨0x1d608, "MATHEMATICAL SANS-SERIF ITALIC CAPITAL ", ["A;B;C;D;E;F;G;H;I;J;K;L;M;N;O;P;Q;R;S",
    "T;U;V;W;X;Y;Z"]⟩,
  ⟨0x1d622, "MATHEMATICAL SANS-SERIF ITALIC SMALL ", ["A;B;C;D;E;F;G;H;I;J;K;L;M;N;O;P;Q;R;S;T",
    "U;V;W;X;Y;Z"]⟩,
  ⟨0x1d63c, "MATHEMATICAL SANS-SERIF BOLD ITALIC CAPITAL ", ["A;B;C;D;E;F;G;H;I;J;K;L;M;N;O;P;Q",
    "R;S;T;U;V;W;X;Y;Z"]⟩,
  ⟨0x1d656, "MATHEMATICAL SANS-SERIF BOLD ITALIC SMALL ", ["A;B;C;D;E;F;G;H;I;J;K;L;M;N;O;P;Q;R",
    "S;T;U;V;W;X;Y;Z"]⟩,
  ⟨0x1d670, "MATHEMATICAL MONOSPACE CAPITAL ", ["A;B;C;D;E;F;G;H;I;J;K;L;M;N;O;P;Q;R;S;T;U;V;W",
    "X;Y;Z"]⟩,
  ⟨0x1d68a, "MATHEMATICAL MONOSPACE SMALL ", ["A;B;C;D;E;F;G;H;I;J;K;L;M;N;O;P;Q;R;S;T;U;V;W;X",
    "Y;Z"]⟩,
  ⟨0x1d6a4, "MATHEMATICAL ITALIC SMALL DOTLESS ", ["I;J"]⟩,
  ⟨0x1d6a6, "MATHEMATICAL BOLD CAPITAL ", [";;ALPHA;BETA;GAMMA;DELTA;EPSILON;ZETA;ETA;THETA",
    "IOTA;KAPPA;LAMDA;MU;NU;XI;OMICRON;PI;RHO;THETA SYMBOL;SIGMA;TAU;UPSILON;PHI;CHI;PSI;OMEGA"]⟩,
  ⟨0x1d6c1, "MATHEMATICAL BOLD NABL", ["A"]⟩,
  ⟨0x1d6c2, "MATHEMATICAL BOLD SMALL ", ["ALPHA;BETA;GAMMA;DELTA;EPSILON;ZETA;ETA;THETA;IOTA",
    "KAPPA;LAMDA;MU;NU;XI;OMICRON;PI;RHO;FINAL SIGMA;SIGMA;TAU;UPSILON;PHI;CHI;PSI;OMEGA"]⟩,
  ⟨0x1d6db, "MATHEMATICAL BOLD ", ["PARTIAL DIFFERENTIAL;EPSILON SYMBOL;THETA SYMBOL",
    "KAPPA SYMBOL;PHI SYMBOL;RHO SYMBOL;PI SYMBOL"]⟩,
  ⟨0x1d6e2, "MATHEMATICAL ITALIC CAPITAL ", ["ALPHA;BETA;GAMMA;DELTA;EPSILON;ZETA;ETA;THETA",
    "IOTA;KAPPA;LAMDA;MU;NU;XI;OMICRON;PI;RHO;THETA SYMBOL;SIGMA;TAU;UPSILON;PHI;CHI;PSI;OMEGA"]⟩,
  ⟨0x1d6fb, "MATHEMATICAL ITALIC NABL", ["A"]⟩,
  ⟨0x1d6fc, "MATHEMATICAL ITALIC SMALL ", ["ALPHA;BETA;GAMMA;DELTA;EPSILON;ZETA;ETA;THETA;IOTA",
    "KAPPA;LAMDA;MU;NU;XI;OMICRON;PI;RHO;FINAL SIGMA;SIGMA;TAU;UPSILON;PHI;CHI;PSI;OMEGA"]⟩,
  ⟨0x1d715, "MATHEMATICAL ITALIC ", ["PARTIAL DIFFERENTIAL;EPSILON SYMBOL;THETA SYMBOL",
    "KAPPA SYMBOL;PHI SYMBOL;RHO SYMBOL;PI SYMBOL"]⟩,
  ⟨0x1d71c, "MATHEMATICAL BOLD ITALIC CAPITAL ", ["ALPHA;BETA;GAMMA;DELTA;EPSILON;ZETA;ETA",
    "THETA;IOTA;KAPPA;LAMDA;MU;NU;XI;OMICRON;PI;RHO;THETA SYMBOL;SIGMA;TAU;UPSILON;PHI;CHI;PSI",
    "OMEGA"]⟩,
  ⟨0x1d735, "MATHEMATICAL BOLD ITALIC NABL", ["A"]⟩,
  ⟨0x1d736, "MATHEMATICAL BOLD ITALIC SMALL ", ["ALPHA;BETA;GAMMA;DELTA;EPSILON;ZETA;ETA;THETA",
    "IOTA;KAPPA;LAMDA;MU;NU;XI;OMICRON;PI;RHO;FINAL SIGMA;SIGMA;TAU;UPSILON;PHI;CHI;PSI;OMEGA"]⟩,
  ⟨0x1d74f, "MATHEMATICAL BOLD ITALIC ", ["PARTIAL DIFFERENTIAL;EPSILON SYMBOL;THETA SYMBOL",
    "KAPPA SYMBOL;PHI SYMBOL;RHO SYMBOL;PI SYMBOL"]⟩,
  ⟨0x1d756, "MATHEMATICAL SANS-SERIF BOLD CAPITAL ", ["ALPHA;BETA;GAMMA;DELTA;EPSILON;ZETA;ETA",
    "THETA;IOTA;KAPPA;LAMDA;MU;NU;XI;OMICRON;PI;RHO;THETA SYMBOL;SIGMA;TAU;UPSILON;PHI;CHI;PSI",
    "OMEGA"]⟩,
  ⟨0x1d76f, "MATHEMATICAL SANS-SERIF BOLD NABL", ["A"]⟩,
  ⟨0x1d770, "MATHEMATICAL SANS-SERIF BOLD SMALL ", ["ALPHA;BETA;GAMMA;DELTA;EPSILON;ZETA;ETA",
    "THETA;IOTA;KAPPA;LAMDA;MU;NU;XI;OMICRON;PI;RHO;FINAL SIGMA;SIGMA;TAU;UPSILON;PHI;CHI;PSI",
    "OMEGA"]⟩,
  ⟨0x1d789, "MATHEMATICAL SANS-SERIF BOLD ", ["PARTIAL DIFFERENTIAL;EPSILON SYMBOL;THETA SYMBOL",
    "KAPPA SYMBOL;PHI SYMBOL;RHO SYMBOL;PI SYMBOL"]⟩,
  ⟨0x1d790, "MATHEMATICAL SANS-SERIF BOLD ITALIC CAPITAL ", ["ALPHA;BETA;GAMMA;DELTA;EPSILON",
    "ZETA;ETA;THETA;IOTA;KAPPA;LAMDA;MU;NU;XI;OMICRON;PI;RHO;THETA SYMBOL;SIGMA;TAU;UPSILON;PHI",
    "CHI;PSI;OMEGA"]⟩,
  ⟨0x1d7a9, "MATHEMATICAL SANS-SERIF BOLD ITALIC NABL", ["A"]⟩,
  ⟨0x1d7aa, "MATHEMATICAL SANS-SERIF BOLD ITALIC SMALL ", ["ALPHA;BETA;GAMMA;DELTA;EPSILON;ZETA",
    "ETA;THETA;IOTA;KAPPA;LAMDA;MU;NU;XI;OMICRON;PI;RHO;FINAL SIGMA;SIGMA;TAU;UPSILON;PHI;CHI",
    "PSI;OMEGA"]⟩,
  ⟨0x1d7c3, "MATHEMATICAL SANS-SERIF BOLD ITALIC ", ["PARTIAL DIFFERENTIAL;EPSILON SYMBOL",
    "THETA SYMBOL;KAPPA SYMBOL;PHI SYMBOL;RHO SYMBOL;PI SYMBOL"]⟩,
  ⟨0x1d7ca, "MATHEMATICAL BOLD ", ["CAPITAL DIGAMMA;SMALL DIGAMMA"]⟩,
  ⟨0x1d7cc, "MATHEMATICAL BOLD DIGIT ", [";;ZERO;ONE;TWO;THREE;FOUR;FIVE;SIX;SEVEN;EIGHT;NINE"]⟩,
  ⟨0x1d7d8, "MATHEMATICAL DOUBLE-STRUCK DIGIT ", ["ZERO;ONE;TWO;THREE;FOUR;FIVE;SIX;SEVEN;EIGHT",
    "NINE"]⟩,
  ⟨0x1d7e2, "MATHEMATICAL SANS-SERIF DIGIT ", ["ZERO;ONE;TWO;THREE;FOUR;FIVE;SIX;SEVEN;EIGHT",
    "NINE"]⟩,
  ⟨0x1d7ec, "MATHEMATICAL SANS-SERIF BOLD DIGIT ", ["ZERO;ONE;TWO;THREE;FOUR;FIVE;SIX;SEVEN",
    "EIGHT;NINE"]⟩,
  ⟨0x1d7f6, "MATHEMATICAL MONOSPACE DIGIT ", ["ZERO;ONE;TWO;THREE;FOUR;FIVE;SIX;SEVEN;EIGHT",
    "NINE"]⟩,
  ⟨0x1d800, "SIGNWRITING HAND-", ["FIST INDEX;CIRCLE INDEX;CUP INDEX;OVAL INDEX;HINGE INDEX",
    "ANGLE INDEX;FIST INDEX BENT;CIRCLE INDEX BENT;FIST THUMB UNDER INDEX BENT",
    "FIST INDEX RAISED KNUCKLE;FIST INDEX CUPPED;FIST INDEX HINGED;FIST INDEX HINGED LOW",
    "CIRCLE INDEX HINGE;FIST INDEX MIDDLE;CIRCLE INDEX MIDDLE"]⟩,
  ⟨0x1d810, "SIGNWRITING HAND-FIST INDEX ", ["MIDDLE BENT;MIDDLE RAISED KNUCKLES;MIDDLE HINGED",
    "UP MIDDLE HINGED;HINGED MIDDLE UP"]⟩,
  ⟨0x1d815, "SIGNWRITING HAND-FIST INDEX MIDDLE CONJOINE", ["D;D INDEX BENT;D MIDDLE BENT",
    "D CUPPED;D HINGED"]⟩,
  ⟨0x1d81a, "SIGNWRITING HAND-", ["FIST INDEX MIDDLE CROSSED;CIRCLE INDEX MIDDLE CROSSED",
    "FIST MIDDLE BENT OVER INDEX;FIST INDEX BENT OVER MIDDLE;FIST INDEX MIDDLE THUMB",
    "CIRCLE INDEX MIDDLE THUMB"]⟩,
  ⟨0x1d820, "SIGNWRITING HAND-FIST INDEX ", ["MIDDLE STRAIGHT THUMB BENT",
    "MIDDLE BENT THUMB STRAIGHT;MIDDLE THUMB BENT;MIDDLE HINGED SPREAD THUMB SIDE",
    "UP MIDDLE HINGED THUMB SIDE;UP MIDDLE HINGED THUMB CONJOINED;HINGED MIDDLE UP THUMB SIDE",
    "MIDDLE UP SPREAD THUMB FORWARD"]⟩,
  ⟨0x1d828, "SIGNWRITING HAND-FIST INDEX MIDDLE THUMB ", ["CUPPED;CIRCLED;HOOKED;HINGED"]⟩,
  ⟨0x1d82c, "SIGNWRITING HAND-FIST THUMB BETWEEN INDEX MIDDLE STRAIGH", ["T"]⟩,
  ⟨0x1d82d, "SIGNWRITING HAND-FIST INDEX MIDDLE CONJOINED THUMB SID", ["E;E CONJOINED;E BENT"]⟩,
  ⟨0x1d830, "SIGNWRITING HAND-FIST ", ["MIDDLE THUMB HOOKED INDEX UP",
    "INDEX THUMB HOOKED MIDDLE UP;INDEX MIDDLE CONJOINED HINGED THUMB SIDE",
    "INDEX MIDDLE CROSSED THUMB SIDE;INDEX MIDDLE CONJOINED THUMB FORWARD",
    "INDEX MIDDLE CONJOINED CUPPED THUMB FORWARD;MIDDLE THUMB CUPPED INDEX UP",
    "INDEX THUMB CUPPED MIDDLE UP"]⟩,
  ⟨0x1d838, "SIGNWRITING HAND-FIST MIDDLE THUMB CIRCLED INDEX ", ["UP;HINGED"]⟩,
  ⟨0x1d83a, "SIGNWRITING HAND-FIST INDEX THUMB ", ["ANGLED OUT MIDDLE UP;ANGLED IN MIDDLE UP",
    "CIRCLED MIDDLE UP"]⟩,
  ⟨0x1d83d, "SIGNWRITING HAND-FIST INDEX MIDDLE THUMB ", ["CONJOINED HINGED;ANGLED OUT;ANGLED"]⟩,
  ⟨0x1d840, "SIGNWRITING HAND-FIST MIDDLE THUMB ANGLED ", ["OUT INDEX UP;OUT INDEX CROSSED",
    "INDEX UP"]⟩,
  ⟨0x1d843, "SIGNWRITING HAND-FIST INDEX THUMB HOOKED MIDDLE HINGE", ["D"]⟩,
  ⟨0x1d844, "SIGNWRITING HAND-FLAT FOUR FINGER", ["S;S BENT;S HINGED;S CONJOINED",
    "S CONJOINED SPLIT"]⟩,
  ⟨0x1d849, "SIGNWRITING HAND-", ["CLAW FOUR FINGERS CONJOINED;FIST FOUR FINGERS CONJOINED BENT",
    "HINGE FOUR FINGERS CONJOINED;FLAT FIVE FINGERS SPREAD;FLAT HEEL FIVE FINGERS SPREAD",
    "FLAT FIVE FINGERS SPREAD FOUR BENT;FLAT HEEL FIVE FINGERS SPREAD FOUR BENT",
    "FLAT FIVE FINGERS SPREAD BENT;FLAT HEEL FIVE FINGERS SPREAD BENT",
    "FLAT FIVE FINGERS SPREAD THUMB FORWARD;CUP FIVE FINGERS SPREAD;CUP FIVE FINGERS SPREAD OPEN",
    "HINGE FIVE FINGERS SPREAD OPEN;OVAL FIVE FINGERS SPREAD"]⟩,
  ⟨0x1d857, "SIGNWRITING HAND-FLAT FIVE FINGERS SPREAD HINGE", ["D;D THUMB SIDE;D NO THUMB"]⟩,
  ⟨0x1d85a, "SIGNWRITING HAND-FLA", ["T;T BETWEEN PALM FACINGS;T HEEL;T THUMB SIDE",
    "T HEEL THUMB SIDE;T THUMB BENT;T THUMB FORWARD"]⟩,
  ⟨0x1d861, "SIGNWRITING HAND-FLAT SPLIT ", ["INDEX THUMB SIDE;CENTRE;CENTRE THUMB SIDE",
    "CENTRE THUMB SIDE BENT;LITTLE"]⟩,
  ⟨0x1d866, "SIGNWRITING HAND-", ["CLAW;CLAW THUMB SIDE;CLAW NO THUMB;CLAW THUMB FORWARD",
    "HOOK CURLICUE;HOOK;CUP OPEN;CUP;CUP OPEN THUMB SIDE;CUP THUMB SIDE;CUP OPEN NO THUMB",
    "CUP NO THUMB;CUP OPEN THUMB FORWARD;CUP THUMB FORWARD;CURLICUE OPEN;CURLICUE;CIRCLE;OVAL",
    "OVAL THUMB SIDE;OVAL NO THUMB;OVAL THUMB FORWARD;HINGE OPEN;HINGE OPEN THUMB FORWARD;HINGE",
    "HINGE SMALL;HINGE OPEN THUMB SIDE;HINGE THUMB SIDE;HINGE OPEN NO THUMB;HINGE NO THUMB",
    "HINGE THUMB SIDE TOUCHING INDEX;HINGE THUMB BETWEEN MIDDLE RING;ANGLE",
    "FIST INDEX MIDDLE RING;CIRCLE INDEX MIDDLE RING;HINGE INDEX MIDDLE RING",
    "ANGLE INDEX MIDDLE RING;HINGE LITTLE;FIST INDEX MIDDLE RING BENT",
    "FIST INDEX MIDDLE RING CONJOINED;HINGE INDEX MIDDLE RING CONJOINED"]⟩,
  ⟨0x1d88e, "SIGNWRITING HAND-FIST LITTLE ", ["DOWN;DOWN RIPPLE STRAIGHT;DOWN RIPPLE CURVED",
    "DOWN OTHERS CIRCLED;UP"]⟩,
  ⟨0x1d893, "SIGNWRITING HAND-", ["FIST THUMB UNDER LITTLE UP;CIRCLE LITTLE UP;OVAL LITTLE UP",
    "ANGLE LITTLE UP;FIST LITTLE RAISED KNUCKLE;FIST LITTLE BENT;FIST LITTLE TOUCHES THUMB",
    "FIST LITTLE THUMB;HINGE LITTLE THUMB;FIST LITTLE INDEX THUMB;HINGE LITTLE INDEX THUMB",
    "ANGLE LITTLE INDEX THUMB INDEX THUMB OUT;ANGLE LITTLE INDEX THUMB INDEX THUMB",
    "FIST LITTLE INDEX;CIRCLE LITTLE INDEX;HINGE LITTLE INDEX;ANGLE LITTLE INDEX",
    "FIST INDEX MIDDLE LITTLE;CIRCLE INDEX MIDDLE LITTLE;HINGE INDEX MIDDLE LITTLE;HINGE RING",
    "ANGLE INDEX MIDDLE LITTLE;FIST INDEX MIDDLE CROSS LITTLE;CIRCLE INDEX MIDDLE CROSS LITTLE",
    "FIST RING DOWN;HINGE RING DOWN INDEX THUMB HOOK MIDDLE",
    "ANGLE RING DOWN MIDDLE THUMB INDEX CROSS;FIST RING UP;FIST RING RAISED KNUCKLE",
    "FIST RING LITTLE;CIRCLE RING LITTLE;OVAL RING LITTLE;ANGLE RING LITTLE;FIST RING MIDDLE",
    "FIST RING MIDDLE CONJOINED;FIST RING MIDDLE RAISED KNUCKLES;FIST RING INDEX;FIST RING THUMB",
    "HOOK RING THUMB;FIST INDEX RING LITTLE;CIRCLE INDEX RING LITTLE",
    "CURLICUE INDEX RING LITTLE ON"]⟩,
  ⟨0x1d8bd, "SIGNWRITING HAND-HOOK INDEX RING LITTLE ", ["OUT;IN;UNDER"]⟩,
  ⟨0x1d8c0, "SIGNWRITING HAND-", ["CUP INDEX RING LITTLE;HINGE INDEX RING LITTLE",
    "ANGLE INDEX RING LITTLE OUT;ANGLE INDEX RING LITTLE;FIST MIDDLE DOWN;HINGE MIDDLE",
    "FIST MIDDLE UP;CIRCLE MIDDLE UP;FIST MIDDLE RAISED KNUCKLE;FIST MIDDLE UP THUMB SIDE",
    "HOOK MIDDLE THUMB;FIST MIDDLE THUMB LITTLE;FIST MIDDLE LITTLE;FIST MIDDLE RING LITTLE",
    "CIRCLE MIDDLE RING LITTLE;CURLICUE MIDDLE RING LITTLE ON;CUP MIDDLE RING LITTLE",
    "HINGE MIDDLE RING LITTLE"]⟩,
  ⟨0x1d8d2, "SIGNWRITING HAND-ANGLE MIDDLE RING LITTL", ["E OUT;E IN;E"]⟩,
  ⟨0x1d8d5, "SIGNWRITING HAND-CIRCLE MIDDLE RING LITTLE BEN", ["T"]⟩,
  ⟨0x1d8d6, "SIGNWRITING HAND-CLAW MIDDLE RING LITTLE CONJOINE", ["D;D SIDE"]⟩,
  ⟨0x1d8d8, "SIGNWRITING HAND-HOOK MIDDLE RING LITTLE CONJOINE", ["D OUT;D IN;D"]⟩,
  ⟨0x1d8db, "SIGNWRITING HAND-", ["HINGE INDEX HINGED;FIST INDEX THUMB SIDE",
    "HINGE INDEX THUMB SIDE"]⟩,
  ⟨0x1d8de, "SIGNWRITING HAND-FIST INDEX THUMB ", ["SIDE THUMB DIAGONAL;SIDE THUMB CONJOINED",
    "SIDE THUMB BENT;SIDE INDEX BENT;SIDE BOTH BENT;SIDE INDEX HINGE;FORWARD INDEX STRAIGHT",
    "FORWARD INDEX BENT;HOOK;CURLICUE;CURVE THUMB INSIDE"]⟩,
  ⟨0x1d8e9, "SIGNWRITING HAND-", ["CLAW INDEX THUMB CURVE THUMB INSIDE",
    "FIST INDEX THUMB CURVE THUMB UNDER;FIST INDEX THUMB CIRCLE;CUP INDEX THUMB",
    "CUP INDEX THUMB OPEN"]⟩,
  ⟨0x1d8ee, "SIGNWRITING HAND-HINGE INDEX THUM", ["B OPEN;B LARGE;B;B SMALL"]⟩,
  ⟨0x1d8f2, "SIGNWRITING HAND-ANGLE INDEX THUM", ["B OUT;B IN;B"]⟩,
  ⟨0x1d8f5, "SIGNWRITING HAND-FIST THUM", ["B;B HEEL;B SIDE DIAGONAL;B SIDE CONJOINED",
    "B SIDE BENT;B FORWARD;B BETWEEN INDEX MIDDLE;B BETWEEN MIDDLE RING;B BETWEEN RING LITTLE",
    "B UNDER TWO FINGERS;B OVER TWO FINGERS;B UNDER THREE FINGERS;B UNDER FOUR FINGERS",
    "B OVER FOUR RAISED KNUCKLES"]⟩,
  ⟨0x1d903, "SIGNWRITING ", ["HAND-FIST;HAND-FIST HEEL;TOUCH SINGLE;TOUCH MULTIPLE",
    "TOUCH BETWEEN;GRASP SINGLE;GRASP MULTIPLE;GRASP BETWEEN;STRIKE SINGLE;STRIKE MULTIPLE",
    "STRIKE BETWEEN;BRUSH SINGLE;BRUSH MULTIPLE;BRUSH BETWEEN;RUB SINGLE;RUB MULTIPLE",
    "RUB BETWEEN;SURFACE SYMBOLS;SURFACE BETWEEN"]⟩,
  ⟨0x1d916, "SIGNWRITING SQUEEZE ", ["LARGE SINGLE;SMALL SINGLE;LARGE MULTIPLE;SMALL MULTIPLE",
    "SEQUENTIAL"]⟩,
  ⟨0x1d91b, "SIGNWRITING FLICK ", ["LARGE SINGLE;SMALL SINGLE;LARGE MULTIPLE;SMALL MULTIPLE",
    "SEQUENTIAL"]⟩,
  ⟨0x1d920, "SIGNWRITING SQUEEZE FLICK ALTERNATIN", ["G"]⟩,
  ⟨0x1d921, "SIGNWRITING MOVEMENT-HINGE ", ["UP DOWN LARGE;UP DOWN SMALL;UP SEQUENTIAL",
    "DOWN SEQUENTIAL;UP DOWN ALTERNATING LARGE;UP DOWN ALTERNATING SMALL;SIDE TO SIDE SCISSORS"]⟩,
  ⟨0x1d928, "SIGNWRITING MOVEMENT-", ["WALLPLANE FINGER CONTACT;FLOORPLANE FINGER CONTACT"]⟩,
  ⟨0x1d92a, "SIGNWRITING MOVEMENT-WALLPLANE SINGLE STRAIGHT ", ["SMALL;MEDIUM;LARGE;LARGEST"]⟩,
  ⟨0x1d92e, "SIGNWRITING MOVEMENT-WALLPLANE ", ["SINGLE WRIST FLEX;DOUBLE STRAIGHT",
    "DOUBLE WRIST FLEX;DOUBLE ALTERNATING;DOUBLE ALTERNATING WRIST FLEX;CROSS",
    "TRIPLE STRAIGHT MOVEMENT;TRIPLE WRIST FLEX;TRIPLE ALTERNATING;TRIPLE ALTERNATING WRIST FLEX",
    "BEND SMALL;BEND MEDIUM;BEND LARGE;CORNER SMALL;CORNER MEDIUM;CORNER LARGE;CORNER ROTATION",
    "CHECK SMALL;CHECK MEDIUM;CHECK LARGE;BOX SMALL;BOX MEDIUM;BOX LARGE;ZIGZAG SMALL",
    "ZIGZAG MEDIUM;ZIGZAG LARGE;PEAKS SMALL;PEAKS MEDIUM;PEAKS LARGE"]⟩,
  ⟨0x1d94b, "SIGNWRITING TRAVEL-WALLPLANE ROTATION-WALLPLANE ", ["SINGLE;DOUBLE;ALTERNATING"]⟩,
  ⟨0x1d94e, "SIGNWRITING TRAVEL-WALLPLANE ROTATION-FLOORPLANE ", ["SINGLE;DOUBLE;ALTERNATING"]⟩,
  ⟨0x1d951, "SIGNWRITING TRAVEL-WALLPLANE ", ["SHAKING;ARM SPIRAL SINGLE;ARM SPIRAL DOUBLE",
    "ARM SPIRAL TRIPLE"]⟩,
  ⟨0x1d955, "SIGNWRITING MOVEMENT-DIAGONAL AWAY ", ["SMALL;MEDIUM;LARGE;LARGEST"]⟩,
  ⟨0x1d959, "SIGNWRITING MOVEMENT-DIAGONAL TOWARDS ", ["SMALL;MEDIUM;LARGE;LARGEST"]⟩,
  ⟨0x1d95d, "SIGNWRITING MOVEMENT-DIAGONAL BETWEEN ", ["AWAY SMALL;AWAY MEDIUM;AWAY LARGE",
    "AWAY LARGEST;TOWARDS SMALL;TOWARDS MEDIUM;TOWARDS LARGE;TOWARDS LARGEST"]⟩,
  ⟨0x1d965, "SIGNWRITING MOVEMENT-FLOORPLANE SINGLE STRAIGHT ", ["SMALL;MEDIUM;LARGE;LARGEST"]⟩,
  ⟨0x1d969, "SIGNWRITING MOVEMENT-FLOORPLANE ", ["SINGLE WRIST FLEX;DOUBLE STRAIGHT",
    "DOUBLE WRIST FLEX;DOUBLE ALTERNATING;DOUBLE ALTERNATING WRIST FLEX;CROSS",
    "TRIPLE STRAIGHT MOVEMENT;TRIPLE WRIST FLEX;TRIPLE ALTERNATING MOVEMENT",
    "TRIPLE ALTERNATING WRIST FLEX;BEND;CORNER SMALL;CORNER MEDIUM;CORNER LARGE;CHECK;BOX SMALL",
    "BOX MEDIUM;BOX LARGE;ZIGZAG SMALL;ZIGZAG MEDIUM;ZIGZAG LARGE;PEAKS SMALL;PEAKS MEDIUM",
    "PEAKS LARGE"]⟩]

/-- Musical, mathematical and other notations, from U+1D981 on. -/
def notationsPartC : List Block := [
  ⟨0x1d981, "SIGNWRITING TRAVEL-FLOORPLANE ROTATION-", ["FLOORPLANE SINGLE;FLOORPLANE DOUBLE",
    "FLOORPLANE ALTERNATING;WALLPLANE SINGLE;WALLPLANE DOUBLE;WALLPLANE ALTERNATING"]⟩,
  ⟨0x1d987, "SIGNWRITING TRAVEL-FLOORPLANE SHAKIN", ["G"]⟩,
  ⟨0x1d988, "SIGNWRITING MOVEMENT-WALLPLANE CURVE QUARTER ", ["SMALL;MEDIUM;LARGE;LARGEST"]⟩,
  ⟨0x1d98c, "SIGNWRITING MOVEMENT-WALLPLANE CURVE HALF-CIRCLE ", ["SMALL;MEDIUM;LARGE;LARGEST"]⟩,
  ⟨0x1d990, "SIGNWRITING MOVEMENT-WALLPLANE ", ["CURVE THREE-QUARTER CIRCLE SMALL",
    "CURVE THREE-QUARTER CIRCLE MEDIUM;HUMP SMALL;HUMP MEDIUM;HUMP LARGE;LOOP SMALL;LOOP MEDIUM",
    "LOOP LARGE;LOOP SMALL DOUBLE;WAVE CURVE DOUBLE SMALL;WAVE CURVE DOUBLE MEDIUM",
    "WAVE CURVE DOUBLE LARGE;WAVE CURVE TRIPLE SMALL;WAVE CURVE TRIPLE MEDIUM",
    "WAVE CURVE TRIPLE LARGE;CURVE THEN STRAIGHT;CURVED CROSS SMALL;CURVED CROSS MEDIUM"]⟩,
  ⟨0x1d9a2, "SIGNWRITING ROTATION-WALLPLANE ", ["SINGLE;DOUBLE;ALTERNATE"]⟩,
  ⟨0x1d9a5, "SIGNWRITING MOVEMENT-WALLPLANE ", ["SHAKING;CURVE HITTING FRONT WALL",
    "HUMP HITTING FRONT WALL;LOOP HITTING FRONT WALL;WAVE HITTING FRONT WALL"]⟩,
  ⟨0x1d9aa, "SIGNWRITING ROTATION-WALLPLANE ", ["SINGLE HITTING FRONT WALL",
    "DOUBLE HITTING FRONT WALL;ALTERNATING HITTING FRONT WALL"]⟩,
  ⟨0x1d9ad, "SIGNWRITING MOVEMENT-WALLPLANE ", ["CURVE HITTING CHEST;HUMP HITTING CHEST",
    "LOOP HITTING CHEST;WAVE HITTING CHEST"]⟩,
  ⟨0x1d9b1, "SIGNWRITING ROTATION-WALLPLANE ", ["SINGLE HITTING CHEST;DOUBLE HITTING CHEST",
    "ALTERNATING HITTING CHEST"]⟩,
  ⟨0x1d9b4, "SIGNWRITING MOVEMENT-WALLPLANE WAVE DIAGONAL PATH ", ["SMALL;MEDIUM;LARGE"]⟩,
  ⟨0x1d9b7, "SIGNWRITING MOVEMENT-FLOORPLANE CURVE HITTING CEILING ", ["SMALL;LARGE"]⟩,
  ⟨0x1d9b9, "SIGNWRITING MOVEMENT-FLOORPLANE HUMP HITTING CEILING ", ["SMALL DOUBLE",
    "LARGE DOUBLE;SMALL TRIPLE;LARGE TRIPLE"]⟩,
  ⟨0x1d9bd, "SIGNWRITING MOVEMENT-FLOORPLANE LOOP HITTING CEILING ", ["SMALL SINGLE",
    "LARGE SINGLE;SMALL DOUBLE;LARGE DOUBLE"]⟩,
  ⟨0x1d9c1, "SIGNWRITING MOVEMENT-FLOORPLANE WAVE HITTING CEILING ", ["SMALL;LARGE"]⟩,
  ⟨0x1d9c3, "SIGNWRITING ROTATION-FLOORPLANE ", ["SINGLE HITTING CEILING;DOUBLE HITTING CEILING",
    "ALTERNATING HITTING CEILING"]⟩,
  ⟨0x1d9c6, "SIGNWRITING MOVEMENT-FLOORPLANE CURVE HITTING FLOOR ", ["SMALL;LARGE"]⟩,
  ⟨0x1d9c8, "SIGNWRITING MOVEMENT-FLOORPLANE HUMP HITTING FLOOR ", ["SMALL DOUBLE;LARGE DOUBLE",
    "TRIPLE SMALL TRIPLE;TRIPLE LARGE TRIPLE"]⟩,
  ⟨0x1d9cc, "SIGNWRITING MOVEMENT-FLOORPLANE LOOP HITTING FLOOR ", ["SMALL SINGLE;LARGE SINGLE",
    "SMALL DOUBLE;LARGE DOUBLE"]⟩,
  ⟨0x1d9d0, "SIGNWRITING MOVEMENT-FLOORPLANE WAVE HITTING FLOOR ", ["SMALL;LARGE"]⟩,
  ⟨0x1d9d2, "SIGNWRITING ROTATION-FLOORPLANE ", ["SINGLE HITTING FLOOR;DOUBLE HITTING FLOOR",
    "ALTERNATING HITTING FLOOR"]⟩,
  ⟨0x1d9d5, "SIGNWRITING MOVEMENT-FLOORPLANE ", ["CURVE SMALL;CURVE MEDIUM;CURVE LARGE",
    "CURVE LARGEST;CURVE COMBINED;HUMP SMALL;LOOP SMALL;WAVE SNAKE;WAVE SMALL;WAVE LARGE"]⟩,
  ⟨0x1d9df, "SIGNWRITING ROTATION-FLOORPLANE ", ["SINGLE;DOUBLE;ALTERNATING"]⟩,
  ⟨0x1d9e2, "SIGNWRITING MOVEMENT-FLOORPLANE SHAKING PARALLE", ["L"]⟩,
  ⟨0x1d9e3, "SIGNWRITING MOVEMENT-WALLPLANE ARM CIRCLE ", ["SMALL SINGLE;MEDIUM SINGLE",
    "SMALL DOUBLE;MEDIUM DOUBLE"]⟩,
  ⟨0x1d9e7, "SIGNWRITING MOVEMENT-FLOORPLANE ARM CIRCLE HITTING WALL ", ["SMALL SINGLE",
    "MEDIUM SINGLE;LARGE SINGLE;SMALL DOUBLE;MEDIUM DOUBLE;LARGE DOUBLE"]⟩,
  ⟨0x1d9ed, "SIGNWRITING MOVEMENT-WALLPLANE WRIST CIRCLE FRONT ", ["SINGLE;DOUBLE"]⟩,
  ⟨0x1d9ef, "SIGNWRITING MOVEMENT-FLOORPLANE WRIST CIRCLE HITTING WALL ", ["SINGLE;DOUBLE"]⟩,
  ⟨0x1d9f1, "SIGNWRITING MOVEMENT-WALLPLANE FINGER CIRCLES ", ["SINGLE;DOUBLE"]⟩,
  ⟨0x1d9f3, "SIGNWRITING MOVEMENT-FLOORPLANE FINGER CIRCLES HITTING WALL ", ["SINGLE;DOUBLE"]⟩,
  ⟨0x1d9f5, "SIGNWRITING DYNAMIC ", ["ARROWHEAD SMALL;ARROWHEAD LARGE;FAST;SLOW;TENSE;RELAXED",
    "SIMULTANEOUS;SIMULTANEOUS ALTERNATING;EVERY OTHER TIME;GRADUAL"]⟩,
  ⟨0x1d9ff, "SIGNWRITING HEA", ["D;D RIM"]⟩,
  ⟨0x1da01, "SIGNWRITING HEAD MOVEMENT", ["-WALLPLANE STRAIGHT;-WALLPLANE TILT",
    "-FLOORPLANE STRAIGHT;-WALLPLANE CURVE;-FLOORPLANE CURVE; CIRCLE"]⟩,
  ⟨0x1da07, "SIGNWRITING FACE DIRECTION POSITION NOSE ", ["FORWARD TILTING;UP OR DOWN",
    "UP OR DOWN TILTING"]⟩,
  ⟨0x1da0a, "SIGNWRITING EYEBROWS STRAIGHT ", ["UP;NEUTRAL;DOWN"]⟩,
  ⟨0x1da0d, "SIGNWRITING DREAMY EYEBROWS ", ["NEUTRAL DOWN;DOWN NEUTRAL;UP NEUTRAL;NEUTRAL UP"]⟩,
  ⟨0x1da11, "SIGNWRITING FOREHEAD ", ["NEUTRAL;CONTACT;WRINKLED"]⟩,
  ⟨0x1da14, "SIGNWRITING EYE", ["S OPEN;S SQUEEZED;S CLOSED; BLINK SINGLE; BLINK MULTIPLE",
    "S HALF OPEN;S WIDE OPEN;S HALF CLOSED;S WIDENING MOVEMENT; WINK;LASHES UP;LASHES DOWN",
    "LASHES FLUTTERING"]⟩,
  ⟨0x1da21, "SIGNWRITING EYEGAZE-WALLPLANE STRAIGH", ["T;T DOUBLE;T ALTERNATING"]⟩,
  ⟨0x1da24, "SIGNWRITING EYEGAZE-FLOORPLANE STRAIGH", ["T;T DOUBLE;T ALTERNATING"]⟩,
  ⟨0x1da27, "SIGNWRITING EYEGAZE-", ["WALLPLANE CURVED;FLOORPLANE CURVED;WALLPLANE CIRCLING"]⟩,
  ⟨0x1da2a, "SIGNWRITING CHEEKS ", ["PUFFED;NEUTRAL;SUCKED"]⟩,
  ⟨0x1da2d, "SIGNWRITING TENSE CHEEKS ", ["HIGH;MIDDLE;LOW"]⟩,
  ⟨0x1da30, "SIGNWRITING ", ["EARS;NOSE NEUTRAL;NOSE CONTACT;NOSE WRINKLES;NOSE WIGGLES",
    "AIR BLOWING OUT;AIR SUCKING IN;AIR BLOW SMALL ROTATIONS;AIR SUCK SMALL ROTATIONS",
    "BREATH INHALE;BREATH EXHALE"]⟩,
  ⟨0x1da3b, "SIGNWRITING MOUTH ", ["CLOSED NEUTRAL;CLOSED FORWARD;CLOSED CONTACT;SMILE",
    "SMILE WRINKLED;SMILE OPEN;FROWN;FROWN WRINKLED;FROWN OPEN;OPEN CIRCLE;OPEN FORWARD",
    "OPEN WRINKLED;OPEN OVAL;OPEN OVAL WRINKLED;OPEN OVAL YAWN;OPEN RECTANGLE",
    "OPEN RECTANGLE WRINKLED;OPEN RECTANGLE YAWN;KISS;KISS FORWARD;KISS WRINKLED;TENSE",
    "TENSE FORWARD;TENSE SUCKED"]⟩,
  ⟨0x1da53, "SIGNWRITING LIP", ["S PRESSED TOGETHER; LOWER OVER UPPER; UPPER OVER LOWER"]⟩,
  ⟨0x1da56, "SIGNWRITING MOUTH ", ["CORNERS;WRINKLES SINGLE;WRINKLES DOUBLE"]⟩,
  ⟨0x1da59, "SIGNWRITING TONGUE ", ["STICKING OUT FAR;LICKING LIPS;TIP BETWEEN LIPS",
    "TIP TOUCHING INSIDE MOUTH;INSIDE MOUTH RELAXED;MOVES AGAINST CHEEK;CENTRE STICKING OUT",
    "CENTRE INSIDE MOUTH"]⟩,
  ⟨0x1da61, "SIGNWRITING TEET", ["H;H MOVEMENT;H ON TONGUE;H ON TONGUE MOVEMENT;H ON LIPS",
    "H ON LIPS MOVEMENT;H BITE LIPS"]⟩,
  ⟨0x1da68, "SIGNWRITING ", ["MOVEMENT-WALLPLANE JAW;MOVEMENT-FLOORPLANE JAW;NECK;HAIR",
    "EXCITEMENT;SHOULDER HIP SPINE;SHOULDER HIP POSITIONS;WALLPLANE SHOULDER HIP MOVE",
    "FLOORPLANE SHOULDER HIP MOVE;SHOULDER TILTING FROM WAIST;TORSO-WALLPLANE STRAIGHT STRETCH",
    "TORSO-WALLPLANE CURVED BEND;TORSO-FLOORPLANE TWISTING;UPPER BODY TILTING FROM HIP JOINTS",
    "LIMB COMBINATION"]⟩,
  ⟨0x1da77, "SIGNWRITING LIMB LENGTH-", ["1;2;3;4;5;6;7"]⟩,
  ⟨0x1da7e, "SIGNWRITING FINGE", ["R"]⟩,
  ⟨0x1da7f, "SIGNWRITING LOCATION", ["-WALLPLANE SPACE;-FLOORPLANE SPACE; HEIGHT; WIDTH; DEPTH",
    " HEAD NECK; TORSO; LIMBS DIGITS"]⟩,
  ⟨0x1da87, "SIGNWRITING ", ["COMMA;FULL STOP;SEMICOLON;COLON;PARENTHESIS"]⟩,
  ⟨0x1da9b, "SIGNWRITING FILL MODIFIER-", ["2;3;4;5;6"]⟩,
  ⟨0x1daa0, "SIGNWRITING ROTATION MODIFIER-", [";2;3;4;5;6;7;8;9;10;11;12;13;14;15;16"]⟩,
  ⟨0x1df00, "LATIN SMALL LETTER ", ["FENG DIGRAPH WITH TRILL;REVERSED SCRIPT G"]⟩,
  ⟨0x1df02, "LATIN ", ["LETTER SMALL CAPITAL TURNED G;SMALL LETTER REVERSED K",
    "LETTER SMALL CAPITAL L WITH BELT"]⟩,
  ⟨0x1df05, "LATIN SMALL LETTER ", ["LEZH WITH RETROFLEX HOOK;TURNED Y WITH BELT;REVERSED ENG",
    "TURNED R WITH LONG LEG AND RETROFLEX HOOK;T WITH HOOK AND RETROFLEX HOOK"]⟩,
  ⟨0x1df0a, "LATIN LETTER RETROFLEX CLICK WITH RETROFLEX HOO", ["K"]⟩,
  ⟨0x1df0b, "LATIN SMALL LETTER ", ["ESH WITH DOUBLE BAR;ESH WITH DOUBLE BAR AND CURL",
    "TURNED T WITH CURL"]⟩,
  ⟨0x1df0e, "LATIN LETTER ", ["INVERTED GLOTTAL STOP WITH CURL;STRETCHED C WITH CURL",
    "SMALL CAPITAL TURNED K"]⟩,
  ⟨0x1df11, "LATIN SMALL LETTER ", ["L WITH FISHHOOK;DEZH DIGRAPH WITH PALATAL HOOK",
    "L WITH BELT AND PALATAL HOOK;ENG WITH PALATAL HOOK;TURNED R WITH PALATAL HOOK",
    "R WITH FISHHOOK AND PALATAL HOOK;TESH DIGRAPH WITH PALATAL HOOK;EZH WITH PALATAL HOOK",
    "DEZH DIGRAPH WITH RETROFLEX HOOK;I WITH STROKE AND RETROFLEX HOOK;O WITH RETROFLEX HOOK",
    "TESH DIGRAPH WITH RETROFLEX HOOK;C WITH RETROFLEX HOOK;S WITH CURL"]⟩]

/-- Musical, mathematical and other notations. -/
def notations : List Block :=
  notationsPartA ++ notationsPartB ++ notationsPartC

end Stencil.CharacterName
