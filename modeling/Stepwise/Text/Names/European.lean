/-!
The names of the other alphabets of Europe, block by block.
-/

namespace Stepwise.Text.Names

/-- The number of the first character of a block and the names from it on, each one ended by a semicolon. -/
def european : List (Nat × List String) :=
  [(0x370, ["GREEK CAPITAL LETTER HETA;GREEK SMALL LETTER HETA;GREEK CAPITAL LETTER ARCHAIC SAMPI;",
      "GREEK SMALL LETTER ARCHAIC SAMPI;GREEK NUMERAL SIGN;GREEK LOWER NUMERAL SIGN;",
      "GREEK CAPITAL LETTER PAMPHYLIAN DIGAMMA;GREEK SMALL LETTER PAMPHYLIAN DIGAMMA;;;",
      "GREEK YPOGEGRAMMENI;GREEK SMALL REVERSED LUNATE SIGMA SYMBOL;",
      "GREEK SMALL DOTTED LUNATE SIGMA SYMBOL;GREEK SMALL REVERSED DOTTED LUNATE SIGMA SYMBOL;",
      "GREEK QUESTION MARK;GREEK CAPITAL LETTER YOT;;;;;GREEK TONOS;GREEK DIALYTIKA TONOS;",
      "GREEK CAPITAL LETTER ALPHA WITH TONOS;GREEK ANO TELEIA;",
      "GREEK CAPITAL LETTER EPSILON WITH TONOS;GREEK CAPITAL LETTER ETA WITH TONOS;",
      "GREEK CAPITAL LETTER IOTA WITH TONOS;;GREEK CAPITAL LETTER OMICRON WITH TONOS;;",
      "GREEK CAPITAL LETTER UPSILON WITH TONOS;GREEK CAPITAL LETTER OMEGA WITH TONOS;",
      "GREEK SMALL LETTER IOTA WITH DIALYTIKA AND TONOS;GREEK CAPITAL LETTER ALPHA;",
      "GREEK CAPITAL LETTER BETA;GREEK CAPITAL LETTER GAMMA;GREEK CAPITAL LETTER DELTA;",
      "GREEK CAPITAL LETTER EPSILON;GREEK CAPITAL LETTER ZETA;GREEK CAPITAL LETTER ETA;",
      "GREEK CAPITAL LETTER THETA;GREEK CAPITAL LETTER IOTA;GREEK CAPITAL LETTER KAPPA;",
      "GREEK CAPITAL LETTER LAMDA;GREEK CAPITAL LETTER MU;GREEK CAPITAL LETTER NU;",
      "GREEK CAPITAL LETTER XI;GREEK CAPITAL LETTER OMICRON;GREEK CAPITAL LETTER PI;",
      "GREEK CAPITAL LETTER RHO;;GREEK CAPITAL LETTER SIGMA;GREEK CAPITAL LETTER TAU;",
      "GREEK CAPITAL LETTER UPSILON;GREEK CAPITAL LETTER PHI;GREEK CAPITAL LETTER CHI;",
      "GREEK CAPITAL LETTER PSI;GREEK CAPITAL LETTER OMEGA;",
      "GREEK CAPITAL LETTER IOTA WITH DIALYTIKA;GREEK CAPITAL LETTER UPSILON WITH DIALYTIKA;",
      "GREEK SMALL LETTER ALPHA WITH TONOS;GREEK SMALL LETTER EPSILON WITH TONOS;",
      "GREEK SMALL LETTER ETA WITH TONOS;GREEK SMALL LETTER IOTA WITH TONOS;",
      "GREEK SMALL LETTER UPSILON WITH DIALYTIKA AND TONOS;GREEK SMALL LETTER ALPHA;",
      "GREEK SMALL LETTER BETA;GREEK SMALL LETTER GAMMA;GREEK SMALL LETTER DELTA;",
      "GREEK SMALL LETTER EPSILON;GREEK SMALL LETTER ZETA;GREEK SMALL LETTER ETA;",
      "GREEK SMALL LETTER THETA;GREEK SMALL LETTER IOTA;GREEK SMALL LETTER KAPPA;",
      "GREEK SMALL LETTER LAMDA;GREEK SMALL LETTER MU;GREEK SMALL LETTER NU;GREEK SMALL LETTER XI;",
      "GREEK SMALL LETTER OMICRON;GREEK SMALL LETTER PI;GREEK SMALL LETTER RHO;",
      "GREEK SMALL LETTER FINAL SIGMA;GREEK SMALL LETTER SIGMA;GREEK SMALL LETTER TAU;",
      "GREEK SMALL LETTER UPSILON;GREEK SMALL LETTER PHI;GREEK SMALL LETTER CHI;",
      "GREEK SMALL LETTER PSI;GREEK SMALL LETTER OMEGA;GREEK SMALL LETTER IOTA WITH DIALYTIKA;",
      "GREEK SMALL LETTER UPSILON WITH DIALYTIKA;GREEK SMALL LETTER OMICRON WITH TONOS;",
      "GREEK SMALL LETTER UPSILON WITH TONOS;GREEK SMALL LETTER OMEGA WITH TONOS;",
      "GREEK CAPITAL KAI SYMBOL;GREEK BETA SYMBOL;GREEK THETA SYMBOL;",
      "GREEK UPSILON WITH HOOK SYMBOL;GREEK UPSILON WITH ACUTE AND HOOK SYMBOL;",
      "GREEK UPSILON WITH DIAERESIS AND HOOK SYMBOL;GREEK PHI SYMBOL;GREEK PI SYMBOL;",
      "GREEK KAI SYMBOL;GREEK LETTER ARCHAIC KOPPA;GREEK SMALL LETTER ARCHAIC KOPPA;",
      "GREEK LETTER STIGMA;GREEK SMALL LETTER STIGMA;GREEK LETTER DIGAMMA;",
      "GREEK SMALL LETTER DIGAMMA;GREEK LETTER KOPPA;GREEK SMALL LETTER KOPPA;GREEK LETTER SAMPI;",
      "GREEK SMALL LETTER SAMPI;COPTIC CAPITAL LETTER SHEI;COPTIC SMALL LETTER SHEI;",
      "COPTIC CAPITAL LETTER FEI;COPTIC SMALL LETTER FEI;COPTIC CAPITAL LETTER KHEI;",
      "COPTIC SMALL LETTER KHEI;COPTIC CAPITAL LETTER HORI;COPTIC SMALL LETTER HORI;",
      "COPTIC CAPITAL LETTER GANGIA;COPTIC SMALL LETTER GANGIA;COPTIC CAPITAL LETTER SHIMA;",
      "COPTIC SMALL LETTER SHIMA;COPTIC CAPITAL LETTER DEI;COPTIC SMALL LETTER DEI;",
      "GREEK KAPPA SYMBOL;GREEK RHO SYMBOL;GREEK LUNATE SIGMA SYMBOL;GREEK LETTER YOT;",
      "GREEK CAPITAL THETA SYMBOL;GREEK LUNATE EPSILON SYMBOL;GREEK REVERSED LUNATE EPSILON SYMBOL;",
      "GREEK CAPITAL LETTER SHO;GREEK SMALL LETTER SHO;GREEK CAPITAL LUNATE SIGMA SYMBOL;",
      "GREEK CAPITAL LETTER SAN;GREEK SMALL LETTER SAN;GREEK RHO WITH STROKE SYMBOL;",
      "GREEK CAPITAL REVERSED LUNATE SIGMA SYMBOL;GREEK CAPITAL DOTTED LUNATE SIGMA SYMBOL;",
      "GREEK CAPITAL REVERSED DOTTED LUNATE SIGMA SYMBOL;CYRILLIC CAPITAL LETTER IE WITH GRAVE;",
      "CYRILLIC CAPITAL LETTER IO;CYRILLIC CAPITAL LETTER DJE;CYRILLIC CAPITAL LETTER GJE;",
      "CYRILLIC CAPITAL LETTER UKRAINIAN IE;CYRILLIC CAPITAL LETTER DZE;",
      "CYRILLIC CAPITAL LETTER BYELORUSSIAN-UKRAINIAN I;CYRILLIC CAPITAL LETTER YI;",
      "CYRILLIC CAPITAL LETTER JE;CYRILLIC CAPITAL LETTER LJE;CYRILLIC CAPITAL LETTER NJE;",
      "CYRILLIC CAPITAL LETTER TSHE;CYRILLIC CAPITAL LETTER KJE;",
      "CYRILLIC CAPITAL LETTER I WITH GRAVE;CYRILLIC CAPITAL LETTER SHORT U;",
      "CYRILLIC CAPITAL LETTER DZHE;CYRILLIC CAPITAL LETTER A;CYRILLIC CAPITAL LETTER BE;",
      "CYRILLIC CAPITAL LETTER VE;CYRILLIC CAPITAL LETTER GHE;CYRILLIC CAPITAL LETTER DE;",
      "CYRILLIC CAPITAL LETTER IE;CYRILLIC CAPITAL LETTER ZHE;CYRILLIC CAPITAL LETTER ZE;",
      "CYRILLIC CAPITAL LETTER I;CYRILLIC CAPITAL LETTER SHORT I;CYRILLIC CAPITAL LETTER KA;",
      "CYRILLIC CAPITAL LETTER EL;CYRILLIC CAPITAL LETTER EM;CYRILLIC CAPITAL LETTER EN;",
      "CYRILLIC CAPITAL LETTER O;CYRILLIC CAPITAL LETTER PE;CYRILLIC CAPITAL LETTER ER;",
      "CYRILLIC CAPITAL LETTER ES;CYRILLIC CAPITAL LETTER TE;CYRILLIC CAPITAL LETTER U;",
      "CYRILLIC CAPITAL LETTER EF;CYRILLIC CAPITAL LETTER HA;CYRILLIC CAPITAL LETTER TSE;",
      "CYRILLIC CAPITAL LETTER CHE;CYRILLIC CAPITAL LETTER SHA;CYRILLIC CAPITAL LETTER SHCHA;",
      "CYRILLIC CAPITAL LETTER HARD SIGN;CYRILLIC CAPITAL LETTER YERU;",
      "CYRILLIC CAPITAL LETTER SOFT SIGN;CYRILLIC CAPITAL LETTER E;CYRILLIC CAPITAL LETTER YU;",
      "CYRILLIC CAPITAL LETTER YA;CYRILLIC SMALL LETTER A;CYRILLIC SMALL LETTER BE;",
      "CYRILLIC SMALL LETTER VE;CYRILLIC SMALL LETTER GHE;CYRILLIC SMALL LETTER DE;",
      "CYRILLIC SMALL LETTER IE;CYRILLIC SMALL LETTER ZHE;CYRILLIC SMALL LETTER ZE;",
      "CYRILLIC SMALL LETTER I;CYRILLIC SMALL LETTER SHORT I;CYRILLIC SMALL LETTER KA;",
      "CYRILLIC SMALL LETTER EL;CYRILLIC SMALL LETTER EM;CYRILLIC SMALL LETTER EN;",
      "CYRILLIC SMALL LETTER O;CYRILLIC SMALL LETTER PE;CYRILLIC SMALL LETTER ER;",
      "CYRILLIC SMALL LETTER ES;CYRILLIC SMALL LETTER TE;CYRILLIC SMALL LETTER U;",
      "CYRILLIC SMALL LETTER EF;CYRILLIC SMALL LETTER HA;CYRILLIC SMALL LETTER TSE;",
      "CYRILLIC SMALL LETTER CHE;CYRILLIC SMALL LETTER SHA;CYRILLIC SMALL LETTER SHCHA;",
      "CYRILLIC SMALL LETTER HARD SIGN;CYRILLIC SMALL LETTER YERU;CYRILLIC SMALL LETTER SOFT SIGN;",
      "CYRILLIC SMALL LETTER E;CYRILLIC SMALL LETTER YU;CYRILLIC SMALL LETTER YA;",
      "CYRILLIC SMALL LETTER IE WITH GRAVE;CYRILLIC SMALL LETTER IO;CYRILLIC SMALL LETTER DJE;",
      "CYRILLIC SMALL LETTER GJE;CYRILLIC SMALL LETTER UKRAINIAN IE;CYRILLIC SMALL LETTER DZE;",
      "CYRILLIC SMALL LETTER BYELORUSSIAN-UKRAINIAN I;CYRILLIC SMALL LETTER YI;",
      "CYRILLIC SMALL LETTER JE;CYRILLIC SMALL LETTER LJE;CYRILLIC SMALL LETTER NJE;",
      "CYRILLIC SMALL LETTER TSHE;CYRILLIC SMALL LETTER KJE;CYRILLIC SMALL LETTER I WITH GRAVE;",
      "CYRILLIC SMALL LETTER SHORT U;CYRILLIC SMALL LETTER DZHE;CYRILLIC CAPITAL LETTER OMEGA;",
      "CYRILLIC SMALL LETTER OMEGA;CYRILLIC CAPITAL LETTER YAT;CYRILLIC SMALL LETTER YAT;",
      "CYRILLIC CAPITAL LETTER IOTIFIED E;CYRILLIC SMALL LETTER IOTIFIED E;",
      "CYRILLIC CAPITAL LETTER LITTLE YUS;CYRILLIC SMALL LETTER LITTLE YUS;",
      "CYRILLIC CAPITAL LETTER IOTIFIED LITTLE YUS;CYRILLIC SMALL LETTER IOTIFIED LITTLE YUS;",
      "CYRILLIC CAPITAL LETTER BIG YUS;CYRILLIC SMALL LETTER BIG YUS;",
      "CYRILLIC CAPITAL LETTER IOTIFIED BIG YUS;CYRILLIC SMALL LETTER IOTIFIED BIG YUS;",
      "CYRILLIC CAPITAL LETTER KSI;CYRILLIC SMALL LETTER KSI;CYRILLIC CAPITAL LETTER PSI;",
      "CYRILLIC SMALL LETTER PSI;CYRILLIC CAPITAL LETTER FITA;CYRILLIC SMALL LETTER FITA;",
      "CYRILLIC CAPITAL LETTER IZHITSA;CYRILLIC SMALL LETTER IZHITSA;",
      "CYRILLIC CAPITAL LETTER IZHITSA WITH DOUBLE GRAVE ACCENT;",
      "CYRILLIC SMALL LETTER IZHITSA WITH DOUBLE GRAVE ACCENT;CYRILLIC CAPITAL LETTER UK;",
      "CYRILLIC SMALL LETTER UK;CYRILLIC CAPITAL LETTER ROUND OMEGA;",
      "CYRILLIC SMALL LETTER ROUND OMEGA;CYRILLIC CAPITAL LETTER OMEGA WITH TITLO;",
      "CYRILLIC SMALL LETTER OMEGA WITH TITLO;CYRILLIC CAPITAL LETTER OT;CYRILLIC SMALL LETTER OT;",
      "CYRILLIC CAPITAL LETTER KOPPA;CYRILLIC SMALL LETTER KOPPA;CYRILLIC THOUSANDS SIGN;",
      "COMBINING CYRILLIC TITLO;COMBINING CYRILLIC PALATALIZATION;",
      "COMBINING CYRILLIC DASIA PNEUMATA;COMBINING CYRILLIC PSILI PNEUMATA;",
      "COMBINING CYRILLIC POKRYTIE;COMBINING CYRILLIC HUNDRED THOUSANDS SIGN;",
      "COMBINING CYRILLIC MILLIONS SIGN;CYRILLIC CAPITAL LETTER SHORT I WITH TAIL;",
      "CYRILLIC SMALL LETTER SHORT I WITH TAIL;CYRILLIC CAPITAL LETTER SEMISOFT SIGN;",
      "CYRILLIC SMALL LETTER SEMISOFT SIGN;CYRILLIC CAPITAL LETTER ER WITH TICK;",
      "CYRILLIC SMALL LETTER ER WITH TICK;CYRILLIC CAPITAL LETTER GHE WITH UPTURN;",
      "CYRILLIC SMALL LETTER GHE WITH UPTURN;CYRILLIC CAPITAL LETTER GHE WITH STROKE;",
      "CYRILLIC SMALL LETTER GHE WITH STROKE;CYRILLIC CAPITAL LETTER GHE WITH MIDDLE HOOK;",
      "CYRILLIC SMALL LETTER GHE WITH MIDDLE HOOK;CYRILLIC CAPITAL LETTER ZHE WITH DESCENDER;",
      "CYRILLIC SMALL LETTER ZHE WITH DESCENDER;CYRILLIC CAPITAL LETTER ZE WITH DESCENDER;",
      "CYRILLIC SMALL LETTER ZE WITH DESCENDER;CYRILLIC CAPITAL LETTER KA WITH DESCENDER;",
      "CYRILLIC SMALL LETTER KA WITH DESCENDER;CYRILLIC CAPITAL LETTER KA WITH VERTICAL STROKE;",
      "CYRILLIC SMALL LETTER KA WITH VERTICAL STROKE;CYRILLIC CAPITAL LETTER KA WITH STROKE;",
      "CYRILLIC SMALL LETTER KA WITH STROKE;CYRILLIC CAPITAL LETTER BASHKIR KA;",
      "CYRILLIC SMALL LETTER BASHKIR KA;CYRILLIC CAPITAL LETTER EN WITH DESCENDER;",
      "CYRILLIC SMALL LETTER EN WITH DESCENDER;CYRILLIC CAPITAL LIGATURE EN GHE;",
      "CYRILLIC SMALL LIGATURE EN GHE;CYRILLIC CAPITAL LETTER PE WITH MIDDLE HOOK;",
      "CYRILLIC SMALL LETTER PE WITH MIDDLE HOOK;CYRILLIC CAPITAL LETTER ABKHASIAN HA;",
      "CYRILLIC SMALL LETTER ABKHASIAN HA;CYRILLIC CAPITAL LETTER ES WITH DESCENDER;",
      "CYRILLIC SMALL LETTER ES WITH DESCENDER;CYRILLIC CAPITAL LETTER TE WITH DESCENDER;",
      "CYRILLIC SMALL LETTER TE WITH DESCENDER;CYRILLIC CAPITAL LETTER STRAIGHT U;",
      "CYRILLIC SMALL LETTER STRAIGHT U;CYRILLIC CAPITAL LETTER STRAIGHT U WITH STROKE;",
      "CYRILLIC SMALL LETTER STRAIGHT U WITH STROKE;CYRILLIC CAPITAL LETTER HA WITH DESCENDER;",
      "CYRILLIC SMALL LETTER HA WITH DESCENDER;CYRILLIC CAPITAL LIGATURE TE TSE;",
      "CYRILLIC SMALL LIGATURE TE TSE;CYRILLIC CAPITAL LETTER CHE WITH DESCENDER;",
      "CYRILLIC SMALL LETTER CHE WITH DESCENDER;CYRILLIC CAPITAL LETTER CHE WITH VERTICAL STROKE;",
      "CYRILLIC SMALL LETTER CHE WITH VERTICAL STROKE;CYRILLIC CAPITAL LETTER SHHA;",
      "CYRILLIC SMALL LETTER SHHA;CYRILLIC CAPITAL LETTER ABKHASIAN CHE;",
      "CYRILLIC SMALL LETTER ABKHASIAN CHE;CYRILLIC CAPITAL LETTER ABKHASIAN CHE WITH DESCENDER;",
      "CYRILLIC SMALL LETTER ABKHASIAN CHE WITH DESCENDER;CYRILLIC LETTER PALOCHKA;",
      "CYRILLIC CAPITAL LETTER ZHE WITH BREVE;CYRILLIC SMALL LETTER ZHE WITH BREVE;",
      "CYRILLIC CAPITAL LETTER KA WITH HOOK;CYRILLIC SMALL LETTER KA WITH HOOK;",
      "CYRILLIC CAPITAL LETTER EL WITH TAIL;CYRILLIC SMALL LETTER EL WITH TAIL;",
      "CYRILLIC CAPITAL LETTER EN WITH HOOK;CYRILLIC SMALL LETTER EN WITH HOOK;",
      "CYRILLIC CAPITAL LETTER EN WITH TAIL;CYRILLIC SMALL LETTER EN WITH TAIL;",
      "CYRILLIC CAPITAL LETTER KHAKASSIAN CHE;CYRILLIC SMALL LETTER KHAKASSIAN CHE;",
      "CYRILLIC CAPITAL LETTER EM WITH TAIL;CYRILLIC SMALL LETTER EM WITH TAIL;",
      "CYRILLIC SMALL LETTER PALOCHKA;CYRILLIC CAPITAL LETTER A WITH BREVE;",
      "CYRILLIC SMALL LETTER A WITH BREVE;CYRILLIC CAPITAL LETTER A WITH DIAERESIS;",
      "CYRILLIC SMALL LETTER A WITH DIAERESIS;CYRILLIC CAPITAL LIGATURE A IE;",
      "CYRILLIC SMALL LIGATURE A IE;CYRILLIC CAPITAL LETTER IE WITH BREVE;",
      "CYRILLIC SMALL LETTER IE WITH BREVE;CYRILLIC CAPITAL LETTER SCHWA;",
      "CYRILLIC SMALL LETTER SCHWA;CYRILLIC CAPITAL LETTER SCHWA WITH DIAERESIS;",
      "CYRILLIC SMALL LETTER SCHWA WITH DIAERESIS;CYRILLIC CAPITAL LETTER ZHE WITH DIAERESIS;",
      "CYRILLIC SMALL LETTER ZHE WITH DIAERESIS;CYRILLIC CAPITAL LETTER ZE WITH DIAERESIS;",
      "CYRILLIC SMALL LETTER ZE WITH DIAERESIS;CYRILLIC CAPITAL LETTER ABKHASIAN DZE;",
      "CYRILLIC SMALL LETTER ABKHASIAN DZE;CYRILLIC CAPITAL LETTER I WITH MACRON;",
      "CYRILLIC SMALL LETTER I WITH MACRON;CYRILLIC CAPITAL LETTER I WITH DIAERESIS;",
      "CYRILLIC SMALL LETTER I WITH DIAERESIS;CYRILLIC CAPITAL LETTER O WITH DIAERESIS;",
      "CYRILLIC SMALL LETTER O WITH DIAERESIS;CYRILLIC CAPITAL LETTER BARRED O;",
      "CYRILLIC SMALL LETTER BARRED O;CYRILLIC CAPITAL LETTER BARRED O WITH DIAERESIS;",
      "CYRILLIC SMALL LETTER BARRED O WITH DIAERESIS;CYRILLIC CAPITAL LETTER E WITH DIAERESIS;",
      "CYRILLIC SMALL LETTER E WITH DIAERESIS;CYRILLIC CAPITAL LETTER U WITH MACRON;",
      "CYRILLIC SMALL LETTER U WITH MACRON;CYRILLIC CAPITAL LETTER U WITH DIAERESIS;",
      "CYRILLIC SMALL LETTER U WITH DIAERESIS;CYRILLIC CAPITAL LETTER U WITH DOUBLE ACUTE;",
      "CYRILLIC SMALL LETTER U WITH DOUBLE ACUTE;CYRILLIC CAPITAL LETTER CHE WITH DIAERESIS;",
      "CYRILLIC SMALL LETTER CHE WITH DIAERESIS;CYRILLIC CAPITAL LETTER GHE WITH DESCENDER;",
      "CYRILLIC SMALL LETTER GHE WITH DESCENDER;CYRILLIC CAPITAL LETTER YERU WITH DIAERESIS;",
      "CYRILLIC SMALL LETTER YERU WITH DIAERESIS;CYRILLIC CAPITAL LETTER GHE WITH STROKE AND HOOK;",
      "CYRILLIC SMALL LETTER GHE WITH STROKE AND HOOK;CYRILLIC CAPITAL LETTER HA WITH HOOK;",
      "CYRILLIC SMALL LETTER HA WITH HOOK;CYRILLIC CAPITAL LETTER HA WITH STROKE;",
      "CYRILLIC SMALL LETTER HA WITH STROKE;CYRILLIC CAPITAL LETTER KOMI DE;",
      "CYRILLIC SMALL LETTER KOMI DE;CYRILLIC CAPITAL LETTER KOMI DJE;",
      "CYRILLIC SMALL LETTER KOMI DJE;CYRILLIC CAPITAL LETTER KOMI ZJE;",
      "CYRILLIC SMALL LETTER KOMI ZJE;CYRILLIC CAPITAL LETTER KOMI DZJE;",
      "CYRILLIC SMALL LETTER KOMI DZJE;CYRILLIC CAPITAL LETTER KOMI LJE;",
      "CYRILLIC SMALL LETTER KOMI LJE;CYRILLIC CAPITAL LETTER KOMI NJE;",
      "CYRILLIC SMALL LETTER KOMI NJE;CYRILLIC CAPITAL LETTER KOMI SJE;",
      "CYRILLIC SMALL LETTER KOMI SJE;CYRILLIC CAPITAL LETTER KOMI TJE;",
      "CYRILLIC SMALL LETTER KOMI TJE;CYRILLIC CAPITAL LETTER REVERSED ZE;",
      "CYRILLIC SMALL LETTER REVERSED ZE;CYRILLIC CAPITAL LETTER EL WITH HOOK;",
      "CYRILLIC SMALL LETTER EL WITH HOOK;CYRILLIC CAPITAL LETTER LHA;CYRILLIC SMALL LETTER LHA;",
      "CYRILLIC CAPITAL LETTER RHA;CYRILLIC SMALL LETTER RHA;CYRILLIC CAPITAL LETTER YAE;",
      "CYRILLIC SMALL LETTER YAE;CYRILLIC CAPITAL LETTER QA;CYRILLIC SMALL LETTER QA;",
      "CYRILLIC CAPITAL LETTER WE;CYRILLIC SMALL LETTER WE;CYRILLIC CAPITAL LETTER ALEUT KA;",
      "CYRILLIC SMALL LETTER ALEUT KA;CYRILLIC CAPITAL LETTER EL WITH MIDDLE HOOK;",
      "CYRILLIC SMALL LETTER EL WITH MIDDLE HOOK;CYRILLIC CAPITAL LETTER EN WITH MIDDLE HOOK;",
      "CYRILLIC SMALL LETTER EN WITH MIDDLE HOOK;CYRILLIC CAPITAL LETTER PE WITH DESCENDER;",
      "CYRILLIC SMALL LETTER PE WITH DESCENDER;CYRILLIC CAPITAL LETTER SHHA WITH DESCENDER;",
      "CYRILLIC SMALL LETTER SHHA WITH DESCENDER;CYRILLIC CAPITAL LETTER EN WITH LEFT HOOK;",
      "CYRILLIC SMALL LETTER EN WITH LEFT HOOK;CYRILLIC CAPITAL LETTER DZZHE;",
      "CYRILLIC SMALL LETTER DZZHE;CYRILLIC CAPITAL LETTER DCHE;CYRILLIC SMALL LETTER DCHE;",
      "CYRILLIC CAPITAL LETTER EL WITH DESCENDER;CYRILLIC SMALL LETTER EL WITH DESCENDER;"]),
    (0x531, ["ARMENIAN CAPITAL LETTER AYB;ARMENIAN CAPITAL LETTER BEN;ARMENIAN CAPITAL LETTER GIM;",
      "ARMENIAN CAPITAL LETTER DA;ARMENIAN CAPITAL LETTER ECH;ARMENIAN CAPITAL LETTER ZA;",
      "ARMENIAN CAPITAL LETTER EH;ARMENIAN CAPITAL LETTER ET;ARMENIAN CAPITAL LETTER TO;",
      "ARMENIAN CAPITAL LETTER ZHE;ARMENIAN CAPITAL LETTER INI;ARMENIAN CAPITAL LETTER LIWN;",
      "ARMENIAN CAPITAL LETTER XEH;ARMENIAN CAPITAL LETTER CA;ARMENIAN CAPITAL LETTER KEN;",
      "ARMENIAN CAPITAL LETTER HO;ARMENIAN CAPITAL LETTER JA;ARMENIAN CAPITAL LETTER GHAD;",
      "ARMENIAN CAPITAL LETTER CHEH;ARMENIAN CAPITAL LETTER MEN;ARMENIAN CAPITAL LETTER YI;",
      "ARMENIAN CAPITAL LETTER NOW;ARMENIAN CAPITAL LETTER SHA;ARMENIAN CAPITAL LETTER VO;",
      "ARMENIAN CAPITAL LETTER CHA;ARMENIAN CAPITAL LETTER PEH;ARMENIAN CAPITAL LETTER JHEH;",
      "ARMENIAN CAPITAL LETTER RA;ARMENIAN CAPITAL LETTER SEH;ARMENIAN CAPITAL LETTER VEW;",
      "ARMENIAN CAPITAL LETTER TIWN;ARMENIAN CAPITAL LETTER REH;ARMENIAN CAPITAL LETTER CO;",
      "ARMENIAN CAPITAL LETTER YIWN;ARMENIAN CAPITAL LETTER PIWR;ARMENIAN CAPITAL LETTER KEH;",
      "ARMENIAN CAPITAL LETTER OH;ARMENIAN CAPITAL LETTER FEH;;;",
      "ARMENIAN MODIFIER LETTER LEFT HALF RING;ARMENIAN APOSTROPHE;ARMENIAN EMPHASIS MARK;",
      "ARMENIAN EXCLAMATION MARK;ARMENIAN COMMA;ARMENIAN QUESTION MARK;ARMENIAN ABBREVIATION MARK;",
      "ARMENIAN SMALL LETTER TURNED AYB;ARMENIAN SMALL LETTER AYB;ARMENIAN SMALL LETTER BEN;",
      "ARMENIAN SMALL LETTER GIM;ARMENIAN SMALL LETTER DA;ARMENIAN SMALL LETTER ECH;",
      "ARMENIAN SMALL LETTER ZA;ARMENIAN SMALL LETTER EH;ARMENIAN SMALL LETTER ET;",
      "ARMENIAN SMALL LETTER TO;ARMENIAN SMALL LETTER ZHE;ARMENIAN SMALL LETTER INI;",
      "ARMENIAN SMALL LETTER LIWN;ARMENIAN SMALL LETTER XEH;ARMENIAN SMALL LETTER CA;",
      "ARMENIAN SMALL LETTER KEN;ARMENIAN SMALL LETTER HO;ARMENIAN SMALL LETTER JA;",
      "ARMENIAN SMALL LETTER GHAD;ARMENIAN SMALL LETTER CHEH;ARMENIAN SMALL LETTER MEN;",
      "ARMENIAN SMALL LETTER YI;ARMENIAN SMALL LETTER NOW;ARMENIAN SMALL LETTER SHA;",
      "ARMENIAN SMALL LETTER VO;ARMENIAN SMALL LETTER CHA;ARMENIAN SMALL LETTER PEH;",
      "ARMENIAN SMALL LETTER JHEH;ARMENIAN SMALL LETTER RA;ARMENIAN SMALL LETTER SEH;",
      "ARMENIAN SMALL LETTER VEW;ARMENIAN SMALL LETTER TIWN;ARMENIAN SMALL LETTER REH;",
      "ARMENIAN SMALL LETTER CO;ARMENIAN SMALL LETTER YIWN;ARMENIAN SMALL LETTER PIWR;",
      "ARMENIAN SMALL LETTER KEH;ARMENIAN SMALL LETTER OH;ARMENIAN SMALL LETTER FEH;",
      "ARMENIAN SMALL LIGATURE ECH YIWN;ARMENIAN SMALL LETTER YI WITH STROKE;ARMENIAN FULL STOP;",
      "ARMENIAN HYPHEN;;;RIGHT-FACING ARMENIAN ETERNITY SIGN;LEFT-FACING ARMENIAN ETERNITY SIGN;",
      "ARMENIAN DRAM SIGN;"]),
    (0x10A0, ["GEORGIAN CAPITAL LETTER AN;GEORGIAN CAPITAL LETTER BAN;GEORGIAN CAPITAL LETTER GAN;",
      "GEORGIAN CAPITAL LETTER DON;GEORGIAN CAPITAL LETTER EN;GEORGIAN CAPITAL LETTER VIN;",
      "GEORGIAN CAPITAL LETTER ZEN;GEORGIAN CAPITAL LETTER TAN;GEORGIAN CAPITAL LETTER IN;",
      "GEORGIAN CAPITAL LETTER KAN;GEORGIAN CAPITAL LETTER LAS;GEORGIAN CAPITAL LETTER MAN;",
      "GEORGIAN CAPITAL LETTER NAR;GEORGIAN CAPITAL LETTER ON;GEORGIAN CAPITAL LETTER PAR;",
      "GEORGIAN CAPITAL LETTER ZHAR;GEORGIAN CAPITAL LETTER RAE;GEORGIAN CAPITAL LETTER SAN;",
      "GEORGIAN CAPITAL LETTER TAR;GEORGIAN CAPITAL LETTER UN;GEORGIAN CAPITAL LETTER PHAR;",
      "GEORGIAN CAPITAL LETTER KHAR;GEORGIAN CAPITAL LETTER GHAN;GEORGIAN CAPITAL LETTER QAR;",
      "GEORGIAN CAPITAL LETTER SHIN;GEORGIAN CAPITAL LETTER CHIN;GEORGIAN CAPITAL LETTER CAN;",
      "GEORGIAN CAPITAL LETTER JIL;GEORGIAN CAPITAL LETTER CIL;GEORGIAN CAPITAL LETTER CHAR;",
      "GEORGIAN CAPITAL LETTER XAN;GEORGIAN CAPITAL LETTER JHAN;GEORGIAN CAPITAL LETTER HAE;",
      "GEORGIAN CAPITAL LETTER HE;GEORGIAN CAPITAL LETTER HIE;GEORGIAN CAPITAL LETTER WE;",
      "GEORGIAN CAPITAL LETTER HAR;GEORGIAN CAPITAL LETTER HOE;;GEORGIAN CAPITAL LETTER YN;;;;;;",
      "GEORGIAN CAPITAL LETTER AEN;;;GEORGIAN LETTER AN;GEORGIAN LETTER BAN;GEORGIAN LETTER GAN;",
      "GEORGIAN LETTER DON;GEORGIAN LETTER EN;GEORGIAN LETTER VIN;GEORGIAN LETTER ZEN;",
      "GEORGIAN LETTER TAN;GEORGIAN LETTER IN;GEORGIAN LETTER KAN;GEORGIAN LETTER LAS;",
      "GEORGIAN LETTER MAN;GEORGIAN LETTER NAR;GEORGIAN LETTER ON;GEORGIAN LETTER PAR;",
      "GEORGIAN LETTER ZHAR;GEORGIAN LETTER RAE;GEORGIAN LETTER SAN;GEORGIAN LETTER TAR;",
      "GEORGIAN LETTER UN;GEORGIAN LETTER PHAR;GEORGIAN LETTER KHAR;GEORGIAN LETTER GHAN;",
      "GEORGIAN LETTER QAR;GEORGIAN LETTER SHIN;GEORGIAN LETTER CHIN;GEORGIAN LETTER CAN;",
      "GEORGIAN LETTER JIL;GEORGIAN LETTER CIL;GEORGIAN LETTER CHAR;GEORGIAN LETTER XAN;",
      "GEORGIAN LETTER JHAN;GEORGIAN LETTER HAE;GEORGIAN LETTER HE;GEORGIAN LETTER HIE;",
      "GEORGIAN LETTER WE;GEORGIAN LETTER HAR;GEORGIAN LETTER HOE;GEORGIAN LETTER FI;",
      "GEORGIAN LETTER YN;GEORGIAN LETTER ELIFI;GEORGIAN LETTER TURNED GAN;GEORGIAN LETTER AIN;",
      "GEORGIAN PARAGRAPH SEPARATOR;MODIFIER LETTER GEORGIAN NAR;GEORGIAN LETTER AEN;",
      "GEORGIAN LETTER HARD SIGN;GEORGIAN LETTER LABIAL SIGN;"]),
    (0x1F00, ["GREEK SMALL LETTER ALPHA WITH PSILI;GREEK SMALL LETTER ALPHA WITH DASIA;",
      "GREEK SMALL LETTER ALPHA WITH PSILI AND VARIA;GREEK SMALL LETTER ALPHA WITH DASIA AND VARIA;",
      "GREEK SMALL LETTER ALPHA WITH PSILI AND OXIA;GREEK SMALL LETTER ALPHA WITH DASIA AND OXIA;",
      "GREEK SMALL LETTER ALPHA WITH PSILI AND PERISPOMENI;",
      "GREEK SMALL LETTER ALPHA WITH DASIA AND PERISPOMENI;GREEK CAPITAL LETTER ALPHA WITH PSILI;",
      "GREEK CAPITAL LETTER ALPHA WITH DASIA;GREEK CAPITAL LETTER ALPHA WITH PSILI AND VARIA;",
      "GREEK CAPITAL LETTER ALPHA WITH DASIA AND VARIA;",
      "GREEK CAPITAL LETTER ALPHA WITH PSILI AND OXIA;",
      "GREEK CAPITAL LETTER ALPHA WITH DASIA AND OXIA;",
      "GREEK CAPITAL LETTER ALPHA WITH PSILI AND PERISPOMENI;",
      "GREEK CAPITAL LETTER ALPHA WITH DASIA AND PERISPOMENI;GREEK SMALL LETTER EPSILON WITH PSILI;",
      "GREEK SMALL LETTER EPSILON WITH DASIA;GREEK SMALL LETTER EPSILON WITH PSILI AND VARIA;",
      "GREEK SMALL LETTER EPSILON WITH DASIA AND VARIA;",
      "GREEK SMALL LETTER EPSILON WITH PSILI AND OXIA;",
      "GREEK SMALL LETTER EPSILON WITH DASIA AND OXIA;;;GREEK CAPITAL LETTER EPSILON WITH PSILI;",
      "GREEK CAPITAL LETTER EPSILON WITH DASIA;GREEK CAPITAL LETTER EPSILON WITH PSILI AND VARIA;",
      "GREEK CAPITAL LETTER EPSILON WITH DASIA AND VARIA;",
      "GREEK CAPITAL LETTER EPSILON WITH PSILI AND OXIA;",
      "GREEK CAPITAL LETTER EPSILON WITH DASIA AND OXIA;;;GREEK SMALL LETTER ETA WITH PSILI;",
      "GREEK SMALL LETTER ETA WITH DASIA;GREEK SMALL LETTER ETA WITH PSILI AND VARIA;",
      "GREEK SMALL LETTER ETA WITH DASIA AND VARIA;GREEK SMALL LETTER ETA WITH PSILI AND OXIA;",
      "GREEK SMALL LETTER ETA WITH DASIA AND OXIA;",
      "GREEK SMALL LETTER ETA WITH PSILI AND PERISPOMENI;",
      "GREEK SMALL LETTER ETA WITH DASIA AND PERISPOMENI;GREEK CAPITAL LETTER ETA WITH PSILI;",
      "GREEK CAPITAL LETTER ETA WITH DASIA;GREEK CAPITAL LETTER ETA WITH PSILI AND VARIA;",
      "GREEK CAPITAL LETTER ETA WITH DASIA AND VARIA;GREEK CAPITAL LETTER ETA WITH PSILI AND OXIA;",
      "GREEK CAPITAL LETTER ETA WITH DASIA AND OXIA;",
      "GREEK CAPITAL LETTER ETA WITH PSILI AND PERISPOMENI;",
      "GREEK CAPITAL LETTER ETA WITH DASIA AND PERISPOMENI;GREEK SMALL LETTER IOTA WITH PSILI;",
      "GREEK SMALL LETTER IOTA WITH DASIA;GREEK SMALL LETTER IOTA WITH PSILI AND VARIA;",
      "GREEK SMALL LETTER IOTA WITH DASIA AND VARIA;GREEK SMALL LETTER IOTA WITH PSILI AND OXIA;",
      "GREEK SMALL LETTER IOTA WITH DASIA AND OXIA;",
      "GREEK SMALL LETTER IOTA WITH PSILI AND PERISPOMENI;",
      "GREEK SMALL LETTER IOTA WITH DASIA AND PERISPOMENI;GREEK CAPITAL LETTER IOTA WITH PSILI;",
      "GREEK CAPITAL LETTER IOTA WITH DASIA;GREEK CAPITAL LETTER IOTA WITH PSILI AND VARIA;",
      "GREEK CAPITAL LETTER IOTA WITH DASIA AND VARIA;",
      "GREEK CAPITAL LETTER IOTA WITH PSILI AND OXIA;GREEK CAPITAL LETTER IOTA WITH DASIA AND OXIA;",
      "GREEK CAPITAL LETTER IOTA WITH PSILI AND PERISPOMENI;",
      "GREEK CAPITAL LETTER IOTA WITH DASIA AND PERISPOMENI;GREEK SMALL LETTER OMICRON WITH PSILI;",
      "GREEK SMALL LETTER OMICRON WITH DASIA;GREEK SMALL LETTER OMICRON WITH PSILI AND VARIA;",
      "GREEK SMALL LETTER OMICRON WITH DASIA AND VARIA;",
      "GREEK SMALL LETTER OMICRON WITH PSILI AND OXIA;",
      "GREEK SMALL LETTER OMICRON WITH DASIA AND OXIA;;;GREEK CAPITAL LETTER OMICRON WITH PSILI;",
      "GREEK CAPITAL LETTER OMICRON WITH DASIA;GREEK CAPITAL LETTER OMICRON WITH PSILI AND VARIA;",
      "GREEK CAPITAL LETTER OMICRON WITH DASIA AND VARIA;",
      "GREEK CAPITAL LETTER OMICRON WITH PSILI AND OXIA;",
      "GREEK CAPITAL LETTER OMICRON WITH DASIA AND OXIA;;;GREEK SMALL LETTER UPSILON WITH PSILI;",
      "GREEK SMALL LETTER UPSILON WITH DASIA;GREEK SMALL LETTER UPSILON WITH PSILI AND VARIA;",
      "GREEK SMALL LETTER UPSILON WITH DASIA AND VARIA;",
      "GREEK SMALL LETTER UPSILON WITH PSILI AND OXIA;",
      "GREEK SMALL LETTER UPSILON WITH DASIA AND OXIA;",
      "GREEK SMALL LETTER UPSILON WITH PSILI AND PERISPOMENI;",
      "GREEK SMALL LETTER UPSILON WITH DASIA AND PERISPOMENI;;",
      "GREEK CAPITAL LETTER UPSILON WITH DASIA;;GREEK CAPITAL LETTER UPSILON WITH DASIA AND VARIA;;",
      "GREEK CAPITAL LETTER UPSILON WITH DASIA AND OXIA;;",
      "GREEK CAPITAL LETTER UPSILON WITH DASIA AND PERISPOMENI;GREEK SMALL LETTER OMEGA WITH PSILI;",
      "GREEK SMALL LETTER OMEGA WITH DASIA;GREEK SMALL LETTER OMEGA WITH PSILI AND VARIA;",
      "GREEK SMALL LETTER OMEGA WITH DASIA AND VARIA;GREEK SMALL LETTER OMEGA WITH PSILI AND OXIA;",
      "GREEK SMALL LETTER OMEGA WITH DASIA AND OXIA;",
      "GREEK SMALL LETTER OMEGA WITH PSILI AND PERISPOMENI;",
      "GREEK SMALL LETTER OMEGA WITH DASIA AND PERISPOMENI;GREEK CAPITAL LETTER OMEGA WITH PSILI;",
      "GREEK CAPITAL LETTER OMEGA WITH DASIA;GREEK CAPITAL LETTER OMEGA WITH PSILI AND VARIA;",
      "GREEK CAPITAL LETTER OMEGA WITH DASIA AND VARIA;",
      "GREEK CAPITAL LETTER OMEGA WITH PSILI AND OXIA;",
      "GREEK CAPITAL LETTER OMEGA WITH DASIA AND OXIA;",
      "GREEK CAPITAL LETTER OMEGA WITH PSILI AND PERISPOMENI;",
      "GREEK CAPITAL LETTER OMEGA WITH DASIA AND PERISPOMENI;GREEK SMALL LETTER ALPHA WITH VARIA;",
      "GREEK SMALL LETTER ALPHA WITH OXIA;GREEK SMALL LETTER EPSILON WITH VARIA;",
      "GREEK SMALL LETTER EPSILON WITH OXIA;GREEK SMALL LETTER ETA WITH VARIA;",
      "GREEK SMALL LETTER ETA WITH OXIA;GREEK SMALL LETTER IOTA WITH VARIA;",
      "GREEK SMALL LETTER IOTA WITH OXIA;GREEK SMALL LETTER OMICRON WITH VARIA;",
      "GREEK SMALL LETTER OMICRON WITH OXIA;GREEK SMALL LETTER UPSILON WITH VARIA;",
      "GREEK SMALL LETTER UPSILON WITH OXIA;GREEK SMALL LETTER OMEGA WITH VARIA;",
      "GREEK SMALL LETTER OMEGA WITH OXIA;;;GREEK SMALL LETTER ALPHA WITH PSILI AND YPOGEGRAMMENI;",
      "GREEK SMALL LETTER ALPHA WITH DASIA AND YPOGEGRAMMENI;",
      "GREEK SMALL LETTER ALPHA WITH PSILI AND VARIA AND YPOGEGRAMMENI;",
      "GREEK SMALL LETTER ALPHA WITH DASIA AND VARIA AND YPOGEGRAMMENI;",
      "GREEK SMALL LETTER ALPHA WITH PSILI AND OXIA AND YPOGEGRAMMENI;",
      "GREEK SMALL LETTER ALPHA WITH DASIA AND OXIA AND YPOGEGRAMMENI;",
      "GREEK SMALL LETTER ALPHA WITH PSILI AND PERISPOMENI AND YPOGEGRAMMENI;",
      "GREEK SMALL LETTER ALPHA WITH DASIA AND PERISPOMENI AND YPOGEGRAMMENI;",
      "GREEK CAPITAL LETTER ALPHA WITH PSILI AND PROSGEGRAMMENI;",
      "GREEK CAPITAL LETTER ALPHA WITH DASIA AND PROSGEGRAMMENI;",
      "GREEK CAPITAL LETTER ALPHA WITH PSILI AND VARIA AND PROSGEGRAMMENI;",
      "GREEK CAPITAL LETTER ALPHA WITH DASIA AND VARIA AND PROSGEGRAMMENI;",
      "GREEK CAPITAL LETTER ALPHA WITH PSILI AND OXIA AND PROSGEGRAMMENI;",
      "GREEK CAPITAL LETTER ALPHA WITH DASIA AND OXIA AND PROSGEGRAMMENI;",
      "GREEK CAPITAL LETTER ALPHA WITH PSILI AND PERISPOMENI AND PROSGEGRAMMENI;",
      "GREEK CAPITAL LETTER ALPHA WITH DASIA AND PERISPOMENI AND PROSGEGRAMMENI;",
      "GREEK SMALL LETTER ETA WITH PSILI AND YPOGEGRAMMENI;",
      "GREEK SMALL LETTER ETA WITH DASIA AND YPOGEGRAMMENI;",
      "GREEK SMALL LETTER ETA WITH PSILI AND VARIA AND YPOGEGRAMMENI;",
      "GREEK SMALL LETTER ETA WITH DASIA AND VARIA AND YPOGEGRAMMENI;",
      "GREEK SMALL LETTER ETA WITH PSILI AND OXIA AND YPOGEGRAMMENI;",
      "GREEK SMALL LETTER ETA WITH DASIA AND OXIA AND YPOGEGRAMMENI;",
      "GREEK SMALL LETTER ETA WITH PSILI AND PERISPOMENI AND YPOGEGRAMMENI;",
      "GREEK SMALL LETTER ETA WITH DASIA AND PERISPOMENI AND YPOGEGRAMMENI;",
      "GREEK CAPITAL LETTER ETA WITH PSILI AND PROSGEGRAMMENI;",
      "GREEK CAPITAL LETTER ETA WITH DASIA AND PROSGEGRAMMENI;",
      "GREEK CAPITAL LETTER ETA WITH PSILI AND VARIA AND PROSGEGRAMMENI;",
      "GREEK CAPITAL LETTER ETA WITH DASIA AND VARIA AND PROSGEGRAMMENI;",
      "GREEK CAPITAL LETTER ETA WITH PSILI AND OXIA AND PROSGEGRAMMENI;",
      "GREEK CAPITAL LETTER ETA WITH DASIA AND OXIA AND PROSGEGRAMMENI;",
      "GREEK CAPITAL LETTER ETA WITH PSILI AND PERISPOMENI AND PROSGEGRAMMENI;",
      "GREEK CAPITAL LETTER ETA WITH DASIA AND PERISPOMENI AND PROSGEGRAMMENI;",
      "GREEK SMALL LETTER OMEGA WITH PSILI AND YPOGEGRAMMENI;",
      "GREEK SMALL LETTER OMEGA WITH DASIA AND YPOGEGRAMMENI;",
      "GREEK SMALL LETTER OMEGA WITH PSILI AND VARIA AND YPOGEGRAMMENI;",
      "GREEK SMALL LETTER OMEGA WITH DASIA AND VARIA AND YPOGEGRAMMENI;",
      "GREEK SMALL LETTER OMEGA WITH PSILI AND OXIA AND YPOGEGRAMMENI;",
      "GREEK SMALL LETTER OMEGA WITH DASIA AND OXIA AND YPOGEGRAMMENI;",
      "GREEK SMALL LETTER OMEGA WITH PSILI AND PERISPOMENI AND YPOGEGRAMMENI;",
      "GREEK SMALL LETTER OMEGA WITH DASIA AND PERISPOMENI AND YPOGEGRAMMENI;",
      "GREEK CAPITAL LETTER OMEGA WITH PSILI AND PROSGEGRAMMENI;",
      "GREEK CAPITAL LETTER OMEGA WITH DASIA AND PROSGEGRAMMENI;",
      "GREEK CAPITAL LETTER OMEGA WITH PSILI AND VARIA AND PROSGEGRAMMENI;",
      "GREEK CAPITAL LETTER OMEGA WITH DASIA AND VARIA AND PROSGEGRAMMENI;",
      "GREEK CAPITAL LETTER OMEGA WITH PSILI AND OXIA AND PROSGEGRAMMENI;",
      "GREEK CAPITAL LETTER OMEGA WITH DASIA AND OXIA AND PROSGEGRAMMENI;",
      "GREEK CAPITAL LETTER OMEGA WITH PSILI AND PERISPOMENI AND PROSGEGRAMMENI;",
      "GREEK CAPITAL LETTER OMEGA WITH DASIA AND PERISPOMENI AND PROSGEGRAMMENI;",
      "GREEK SMALL LETTER ALPHA WITH VRACHY;GREEK SMALL LETTER ALPHA WITH MACRON;",
      "GREEK SMALL LETTER ALPHA WITH VARIA AND YPOGEGRAMMENI;",
      "GREEK SMALL LETTER ALPHA WITH YPOGEGRAMMENI;",
      "GREEK SMALL LETTER ALPHA WITH OXIA AND YPOGEGRAMMENI;;",
      "GREEK SMALL LETTER ALPHA WITH PERISPOMENI;",
      "GREEK SMALL LETTER ALPHA WITH PERISPOMENI AND YPOGEGRAMMENI;",
      "GREEK CAPITAL LETTER ALPHA WITH VRACHY;GREEK CAPITAL LETTER ALPHA WITH MACRON;",
      "GREEK CAPITAL LETTER ALPHA WITH VARIA;GREEK CAPITAL LETTER ALPHA WITH OXIA;",
      "GREEK CAPITAL LETTER ALPHA WITH PROSGEGRAMMENI;GREEK KORONIS;GREEK PROSGEGRAMMENI;",
      "GREEK PSILI;GREEK PERISPOMENI;GREEK DIALYTIKA AND PERISPOMENI;",
      "GREEK SMALL LETTER ETA WITH VARIA AND YPOGEGRAMMENI;",
      "GREEK SMALL LETTER ETA WITH YPOGEGRAMMENI;",
      "GREEK SMALL LETTER ETA WITH OXIA AND YPOGEGRAMMENI;;GREEK SMALL LETTER ETA WITH PERISPOMENI;",
      "GREEK SMALL LETTER ETA WITH PERISPOMENI AND YPOGEGRAMMENI;",
      "GREEK CAPITAL LETTER EPSILON WITH VARIA;GREEK CAPITAL LETTER EPSILON WITH OXIA;",
      "GREEK CAPITAL LETTER ETA WITH VARIA;GREEK CAPITAL LETTER ETA WITH OXIA;",
      "GREEK CAPITAL LETTER ETA WITH PROSGEGRAMMENI;GREEK PSILI AND VARIA;GREEK PSILI AND OXIA;",
      "GREEK PSILI AND PERISPOMENI;GREEK SMALL LETTER IOTA WITH VRACHY;",
      "GREEK SMALL LETTER IOTA WITH MACRON;GREEK SMALL LETTER IOTA WITH DIALYTIKA AND VARIA;",
      "GREEK SMALL LETTER IOTA WITH DIALYTIKA AND OXIA;;;GREEK SMALL LETTER IOTA WITH PERISPOMENI;",
      "GREEK SMALL LETTER IOTA WITH DIALYTIKA AND PERISPOMENI;",
      "GREEK CAPITAL LETTER IOTA WITH VRACHY;GREEK CAPITAL LETTER IOTA WITH MACRON;",
      "GREEK CAPITAL LETTER IOTA WITH VARIA;GREEK CAPITAL LETTER IOTA WITH OXIA;;",
      "GREEK DASIA AND VARIA;GREEK DASIA AND OXIA;GREEK DASIA AND PERISPOMENI;",
      "GREEK SMALL LETTER UPSILON WITH VRACHY;GREEK SMALL LETTER UPSILON WITH MACRON;",
      "GREEK SMALL LETTER UPSILON WITH DIALYTIKA AND VARIA;",
      "GREEK SMALL LETTER UPSILON WITH DIALYTIKA AND OXIA;GREEK SMALL LETTER RHO WITH PSILI;",
      "GREEK SMALL LETTER RHO WITH DASIA;GREEK SMALL LETTER UPSILON WITH PERISPOMENI;",
      "GREEK SMALL LETTER UPSILON WITH DIALYTIKA AND PERISPOMENI;",
      "GREEK CAPITAL LETTER UPSILON WITH VRACHY;GREEK CAPITAL LETTER UPSILON WITH MACRON;",
      "GREEK CAPITAL LETTER UPSILON WITH VARIA;GREEK CAPITAL LETTER UPSILON WITH OXIA;",
      "GREEK CAPITAL LETTER RHO WITH DASIA;GREEK DIALYTIKA AND VARIA;GREEK DIALYTIKA AND OXIA;",
      "GREEK VARIA;;;GREEK SMALL LETTER OMEGA WITH VARIA AND YPOGEGRAMMENI;",
      "GREEK SMALL LETTER OMEGA WITH YPOGEGRAMMENI;",
      "GREEK SMALL LETTER OMEGA WITH OXIA AND YPOGEGRAMMENI;;",
      "GREEK SMALL LETTER OMEGA WITH PERISPOMENI;",
      "GREEK SMALL LETTER OMEGA WITH PERISPOMENI AND YPOGEGRAMMENI;",
      "GREEK CAPITAL LETTER OMICRON WITH VARIA;GREEK CAPITAL LETTER OMICRON WITH OXIA;",
      "GREEK CAPITAL LETTER OMEGA WITH VARIA;GREEK CAPITAL LETTER OMEGA WITH OXIA;",
      "GREEK CAPITAL LETTER OMEGA WITH PROSGEGRAMMENI;GREEK OXIA;GREEK DASIA;"])]

end Stepwise.Text.Names
