/-!
The names of scripts of Asia, block by block.
-/

namespace Stepwise.Text.Names

/-- The number of the first character of a block and the names from it on, each one ended by a semicolon. -/
def eastern : List (Nat × List String) :=
  [(0x591, ["HEBREW ACCENT ETNAHTA;HEBREW ACCENT SEGOL;HEBREW ACCENT SHALSHELET;",
      "HEBREW ACCENT ZAQEF QATAN;HEBREW ACCENT ZAQEF GADOL;HEBREW ACCENT TIPEHA;",
      "HEBREW ACCENT REVIA;HEBREW ACCENT ZARQA;HEBREW ACCENT PASHTA;HEBREW ACCENT YETIV;",
      "HEBREW ACCENT TEVIR;HEBREW ACCENT GERESH;HEBREW ACCENT GERESH MUQDAM;",
      "HEBREW ACCENT GERSHAYIM;HEBREW ACCENT QARNEY PARA;HEBREW ACCENT TELISHA GEDOLA;",
      "HEBREW ACCENT PAZER;HEBREW ACCENT ATNAH HAFUKH;HEBREW ACCENT MUNAH;HEBREW ACCENT MAHAPAKH;",
      "HEBREW ACCENT MERKHA;HEBREW ACCENT MERKHA KEFULA;HEBREW ACCENT DARGA;HEBREW ACCENT QADMA;",
      "HEBREW ACCENT TELISHA QETANA;HEBREW ACCENT YERAH BEN YOMO;HEBREW ACCENT OLE;",
      "HEBREW ACCENT ILUY;HEBREW ACCENT DEHI;HEBREW ACCENT ZINOR;HEBREW MARK MASORA CIRCLE;",
      "HEBREW POINT SHEVA;HEBREW POINT HATAF SEGOL;HEBREW POINT HATAF PATAH;",
      "HEBREW POINT HATAF QAMATS;HEBREW POINT HIRIQ;HEBREW POINT TSERE;HEBREW POINT SEGOL;",
      "HEBREW POINT PATAH;HEBREW POINT QAMATS;HEBREW POINT HOLAM;HEBREW POINT HOLAM HASER FOR VAV;",
      "HEBREW POINT QUBUTS;HEBREW POINT DAGESH OR MAPIQ;HEBREW POINT METEG;",
      "HEBREW PUNCTUATION MAQAF;HEBREW POINT RAFE;HEBREW PUNCTUATION PASEQ;HEBREW POINT SHIN DOT;",
      "HEBREW POINT SIN DOT;HEBREW PUNCTUATION SOF PASUQ;HEBREW MARK UPPER DOT;",
      "HEBREW MARK LOWER DOT;HEBREW PUNCTUATION NUN HAFUKHA;HEBREW POINT QAMATS QATAN;;;;;;;;;",
      "HEBREW LETTER ALEF;HEBREW LETTER BET;HEBREW LETTER GIMEL;HEBREW LETTER DALET;",
      "HEBREW LETTER HE;HEBREW LETTER VAV;HEBREW LETTER ZAYIN;HEBREW LETTER HET;HEBREW LETTER TET;",
      "HEBREW LETTER YOD;HEBREW LETTER FINAL KAF;HEBREW LETTER KAF;HEBREW LETTER LAMED;",
      "HEBREW LETTER FINAL MEM;HEBREW LETTER MEM;HEBREW LETTER FINAL NUN;HEBREW LETTER NUN;",
      "HEBREW LETTER SAMEKH;HEBREW LETTER AYIN;HEBREW LETTER FINAL PE;HEBREW LETTER PE;",
      "HEBREW LETTER FINAL TSADI;HEBREW LETTER TSADI;HEBREW LETTER QOF;HEBREW LETTER RESH;",
      "HEBREW LETTER SHIN;HEBREW LETTER TAV;;;;;HEBREW YOD TRIANGLE;",
      "HEBREW LIGATURE YIDDISH DOUBLE VAV;HEBREW LIGATURE YIDDISH VAV YOD;",
      "HEBREW LIGATURE YIDDISH DOUBLE YOD;HEBREW PUNCTUATION GERESH;HEBREW PUNCTUATION GERSHAYIM;"]),
    (0x600, ["ARABIC NUMBER SIGN;ARABIC SIGN SANAH;ARABIC FOOTNOTE MARKER;ARABIC SIGN SAFHA;",
      "ARABIC SIGN SAMVAT;ARABIC NUMBER MARK ABOVE;ARABIC-INDIC CUBE ROOT;ARABIC-INDIC FOURTH ROOT;",
      "ARABIC RAY;ARABIC-INDIC PER MILLE SIGN;ARABIC-INDIC PER TEN THOUSAND SIGN;AFGHANI SIGN;",
      "ARABIC COMMA;ARABIC DATE SEPARATOR;ARABIC POETIC VERSE SIGN;ARABIC SIGN MISRA;",
      "ARABIC SIGN SALLALLAHOU ALAYHE WASSALLAM;ARABIC SIGN ALAYHE ASSALLAM;",
      "ARABIC SIGN RAHMATULLAH ALAYHE;ARABIC SIGN RADI ALLAHOU ANHU;ARABIC SIGN TAKHALLUS;",
      "ARABIC SMALL HIGH TAH;ARABIC SMALL HIGH LIGATURE ALEF WITH LAM WITH YEH;",
      "ARABIC SMALL HIGH ZAIN;ARABIC SMALL FATHA;ARABIC SMALL DAMMA;ARABIC SMALL KASRA;",
      "ARABIC SEMICOLON;ARABIC LETTER MARK;ARABIC END OF TEXT MARK;",
      "ARABIC TRIPLE DOT PUNCTUATION MARK;ARABIC QUESTION MARK;ARABIC LETTER KASHMIRI YEH;",
      "ARABIC LETTER HAMZA;ARABIC LETTER ALEF WITH MADDA ABOVE;ARABIC LETTER ALEF WITH HAMZA ABOVE;",
      "ARABIC LETTER WAW WITH HAMZA ABOVE;ARABIC LETTER ALEF WITH HAMZA BELOW;",
      "ARABIC LETTER YEH WITH HAMZA ABOVE;ARABIC LETTER ALEF;ARABIC LETTER BEH;",
      "ARABIC LETTER TEH MARBUTA;ARABIC LETTER TEH;ARABIC LETTER THEH;ARABIC LETTER JEEM;",
      "ARABIC LETTER HAH;ARABIC LETTER KHAH;ARABIC LETTER DAL;ARABIC LETTER THAL;ARABIC LETTER REH;",
      "ARABIC LETTER ZAIN;ARABIC LETTER SEEN;ARABIC LETTER SHEEN;ARABIC LETTER SAD;",
      "ARABIC LETTER DAD;ARABIC LETTER TAH;ARABIC LETTER ZAH;ARABIC LETTER AIN;ARABIC LETTER GHAIN;",
      "ARABIC LETTER KEHEH WITH TWO DOTS ABOVE;ARABIC LETTER KEHEH WITH THREE DOTS BELOW;",
      "ARABIC LETTER FARSI YEH WITH INVERTED V;ARABIC LETTER FARSI YEH WITH TWO DOTS ABOVE;",
      "ARABIC LETTER FARSI YEH WITH THREE DOTS ABOVE;ARABIC TATWEEL;ARABIC LETTER FEH;",
      "ARABIC LETTER QAF;ARABIC LETTER KAF;ARABIC LETTER LAM;ARABIC LETTER MEEM;ARABIC LETTER NOON;",
      "ARABIC LETTER HEH;ARABIC LETTER WAW;ARABIC LETTER ALEF MAKSURA;ARABIC LETTER YEH;",
      "ARABIC FATHATAN;ARABIC DAMMATAN;ARABIC KASRATAN;ARABIC FATHA;ARABIC DAMMA;ARABIC KASRA;",
      "ARABIC SHADDA;ARABIC SUKUN;ARABIC MADDAH ABOVE;ARABIC HAMZA ABOVE;ARABIC HAMZA BELOW;",
      "ARABIC SUBSCRIPT ALEF;ARABIC INVERTED DAMMA;ARABIC MARK NOON GHUNNA;ARABIC ZWARAKAY;",
      "ARABIC VOWEL SIGN SMALL V ABOVE;ARABIC VOWEL SIGN INVERTED SMALL V ABOVE;",
      "ARABIC VOWEL SIGN DOT BELOW;ARABIC REVERSED DAMMA;ARABIC FATHA WITH TWO DOTS;",
      "ARABIC WAVY HAMZA BELOW;ARABIC-INDIC DIGIT ZERO;ARABIC-INDIC DIGIT ONE;",
      "ARABIC-INDIC DIGIT TWO;ARABIC-INDIC DIGIT THREE;ARABIC-INDIC DIGIT FOUR;",
      "ARABIC-INDIC DIGIT FIVE;ARABIC-INDIC DIGIT SIX;ARABIC-INDIC DIGIT SEVEN;",
      "ARABIC-INDIC DIGIT EIGHT;ARABIC-INDIC DIGIT NINE;ARABIC PERCENT SIGN;",
      "ARABIC DECIMAL SEPARATOR;ARABIC THOUSANDS SEPARATOR;ARABIC FIVE POINTED STAR;",
      "ARABIC LETTER DOTLESS BEH;ARABIC LETTER DOTLESS QAF;ARABIC LETTER SUPERSCRIPT ALEF;",
      "ARABIC LETTER ALEF WASLA;ARABIC LETTER ALEF WITH WAVY HAMZA ABOVE;",
      "ARABIC LETTER ALEF WITH WAVY HAMZA BELOW;ARABIC LETTER HIGH HAMZA;",
      "ARABIC LETTER HIGH HAMZA ALEF;ARABIC LETTER HIGH HAMZA WAW;ARABIC LETTER U WITH HAMZA ABOVE;",
      "ARABIC LETTER HIGH HAMZA YEH;ARABIC LETTER TTEH;ARABIC LETTER TTEHEH;ARABIC LETTER BEEH;",
      "ARABIC LETTER TEH WITH RING;ARABIC LETTER TEH WITH THREE DOTS ABOVE DOWNWARDS;",
      "ARABIC LETTER PEH;ARABIC LETTER TEHEH;ARABIC LETTER BEHEH;",
      "ARABIC LETTER HAH WITH HAMZA ABOVE;ARABIC LETTER HAH WITH TWO DOTS VERTICAL ABOVE;",
      "ARABIC LETTER NYEH;ARABIC LETTER DYEH;ARABIC LETTER HAH WITH THREE DOTS ABOVE;",
      "ARABIC LETTER TCHEH;ARABIC LETTER TCHEHEH;ARABIC LETTER DDAL;ARABIC LETTER DAL WITH RING;",
      "ARABIC LETTER DAL WITH DOT BELOW;ARABIC LETTER DAL WITH DOT BELOW AND SMALL TAH;",
      "ARABIC LETTER DAHAL;ARABIC LETTER DDAHAL;ARABIC LETTER DUL;",
      "ARABIC LETTER DAL WITH THREE DOTS ABOVE DOWNWARDS;ARABIC LETTER DAL WITH FOUR DOTS ABOVE;",
      "ARABIC LETTER RREH;ARABIC LETTER REH WITH SMALL V;ARABIC LETTER REH WITH RING;",
      "ARABIC LETTER REH WITH DOT BELOW;ARABIC LETTER REH WITH SMALL V BELOW;",
      "ARABIC LETTER REH WITH DOT BELOW AND DOT ABOVE;ARABIC LETTER REH WITH TWO DOTS ABOVE;",
      "ARABIC LETTER JEH;ARABIC LETTER REH WITH FOUR DOTS ABOVE;",
      "ARABIC LETTER SEEN WITH DOT BELOW AND DOT ABOVE;ARABIC LETTER SEEN WITH THREE DOTS BELOW;",
      "ARABIC LETTER SEEN WITH THREE DOTS BELOW AND THREE DOTS ABOVE;",
      "ARABIC LETTER SAD WITH TWO DOTS BELOW;ARABIC LETTER SAD WITH THREE DOTS ABOVE;",
      "ARABIC LETTER TAH WITH THREE DOTS ABOVE;ARABIC LETTER AIN WITH THREE DOTS ABOVE;",
      "ARABIC LETTER DOTLESS FEH;ARABIC LETTER FEH WITH DOT MOVED BELOW;",
      "ARABIC LETTER FEH WITH DOT BELOW;ARABIC LETTER VEH;ARABIC LETTER FEH WITH THREE DOTS BELOW;",
      "ARABIC LETTER PEHEH;ARABIC LETTER QAF WITH DOT ABOVE;",
      "ARABIC LETTER QAF WITH THREE DOTS ABOVE;ARABIC LETTER KEHEH;ARABIC LETTER SWASH KAF;",
      "ARABIC LETTER KAF WITH RING;ARABIC LETTER KAF WITH DOT ABOVE;ARABIC LETTER NG;",
      "ARABIC LETTER KAF WITH THREE DOTS BELOW;ARABIC LETTER GAF;ARABIC LETTER GAF WITH RING;",
      "ARABIC LETTER NGOEH;ARABIC LETTER GAF WITH TWO DOTS BELOW;ARABIC LETTER GUEH;",
      "ARABIC LETTER GAF WITH THREE DOTS ABOVE;ARABIC LETTER LAM WITH SMALL V;",
      "ARABIC LETTER LAM WITH DOT ABOVE;ARABIC LETTER LAM WITH THREE DOTS ABOVE;",
      "ARABIC LETTER LAM WITH THREE DOTS BELOW;ARABIC LETTER NOON WITH DOT BELOW;",
      "ARABIC LETTER NOON GHUNNA;ARABIC LETTER RNOON;ARABIC LETTER NOON WITH RING;",
      "ARABIC LETTER NOON WITH THREE DOTS ABOVE;ARABIC LETTER HEH DOACHASHMEE;",
      "ARABIC LETTER TCHEH WITH DOT ABOVE;ARABIC LETTER HEH WITH YEH ABOVE;ARABIC LETTER HEH GOAL;",
      "ARABIC LETTER HEH GOAL WITH HAMZA ABOVE;ARABIC LETTER TEH MARBUTA GOAL;",
      "ARABIC LETTER WAW WITH RING;ARABIC LETTER KIRGHIZ OE;ARABIC LETTER OE;ARABIC LETTER U;",
      "ARABIC LETTER YU;ARABIC LETTER KIRGHIZ YU;ARABIC LETTER WAW WITH TWO DOTS ABOVE;",
      "ARABIC LETTER VE;ARABIC LETTER FARSI YEH;ARABIC LETTER YEH WITH TAIL;",
      "ARABIC LETTER YEH WITH SMALL V;ARABIC LETTER WAW WITH DOT ABOVE;ARABIC LETTER E;",
      "ARABIC LETTER YEH WITH THREE DOTS BELOW;ARABIC LETTER YEH BARREE;",
      "ARABIC LETTER YEH BARREE WITH HAMZA ABOVE;ARABIC FULL STOP;ARABIC LETTER AE;",
      "ARABIC SMALL HIGH LIGATURE SAD WITH LAM WITH ALEF MAKSURA;",
      "ARABIC SMALL HIGH LIGATURE QAF WITH LAM WITH ALEF MAKSURA;",
      "ARABIC SMALL HIGH MEEM INITIAL FORM;ARABIC SMALL HIGH LAM ALEF;ARABIC SMALL HIGH JEEM;",
      "ARABIC SMALL HIGH THREE DOTS;ARABIC SMALL HIGH SEEN;ARABIC END OF AYAH;",
      "ARABIC START OF RUB EL HIZB;ARABIC SMALL HIGH ROUNDED ZERO;",
      "ARABIC SMALL HIGH UPRIGHT RECTANGULAR ZERO;ARABIC SMALL HIGH DOTLESS HEAD OF KHAH;",
      "ARABIC SMALL HIGH MEEM ISOLATED FORM;ARABIC SMALL LOW SEEN;ARABIC SMALL HIGH MADDA;",
      "ARABIC SMALL WAW;ARABIC SMALL YEH;ARABIC SMALL HIGH YEH;ARABIC SMALL HIGH NOON;",
      "ARABIC PLACE OF SAJDAH;ARABIC EMPTY CENTRE LOW STOP;ARABIC EMPTY CENTRE HIGH STOP;",
      "ARABIC ROUNDED HIGH STOP WITH FILLED CENTRE;ARABIC SMALL LOW MEEM;",
      "ARABIC LETTER DAL WITH INVERTED V;ARABIC LETTER REH WITH INVERTED V;",
      "EXTENDED ARABIC-INDIC DIGIT ZERO;EXTENDED ARABIC-INDIC DIGIT ONE;",
      "EXTENDED ARABIC-INDIC DIGIT TWO;EXTENDED ARABIC-INDIC DIGIT THREE;",
      "EXTENDED ARABIC-INDIC DIGIT FOUR;EXTENDED ARABIC-INDIC DIGIT FIVE;",
      "EXTENDED ARABIC-INDIC DIGIT SIX;EXTENDED ARABIC-INDIC DIGIT SEVEN;",
      "EXTENDED ARABIC-INDIC DIGIT EIGHT;EXTENDED ARABIC-INDIC DIGIT NINE;",
      "ARABIC LETTER SHEEN WITH DOT BELOW;ARABIC LETTER DAD WITH DOT BELOW;",
      "ARABIC LETTER GHAIN WITH DOT BELOW;ARABIC SIGN SINDHI AMPERSAND;",
      "ARABIC SIGN SINDHI POSTPOSITION MEN;ARABIC LETTER HEH WITH INVERTED V;"]),
    (0x900, ["DEVANAGARI SIGN INVERTED CANDRABINDU;DEVANAGARI SIGN CANDRABINDU;DEVANAGARI SIGN ANUSVARA;",
      "DEVANAGARI SIGN VISARGA;DEVANAGARI LETTER SHORT A;DEVANAGARI LETTER A;DEVANAGARI LETTER AA;",
      "DEVANAGARI LETTER I;DEVANAGARI LETTER II;DEVANAGARI LETTER U;DEVANAGARI LETTER UU;",
      "DEVANAGARI LETTER VOCALIC R;DEVANAGARI LETTER VOCALIC L;DEVANAGARI LETTER CANDRA E;",
      "DEVANAGARI LETTER SHORT E;DEVANAGARI LETTER E;DEVANAGARI LETTER AI;",
      "DEVANAGARI LETTER CANDRA O;DEVANAGARI LETTER SHORT O;DEVANAGARI LETTER O;",
      "DEVANAGARI LETTER AU;DEVANAGARI LETTER KA;DEVANAGARI LETTER KHA;DEVANAGARI LETTER GA;",
      "DEVANAGARI LETTER GHA;DEVANAGARI LETTER NGA;DEVANAGARI LETTER CA;DEVANAGARI LETTER CHA;",
      "DEVANAGARI LETTER JA;DEVANAGARI LETTER JHA;DEVANAGARI LETTER NYA;DEVANAGARI LETTER TTA;",
      "DEVANAGARI LETTER TTHA;DEVANAGARI LETTER DDA;DEVANAGARI LETTER DDHA;DEVANAGARI LETTER NNA;",
      "DEVANAGARI LETTER TA;DEVANAGARI LETTER THA;DEVANAGARI LETTER DA;DEVANAGARI LETTER DHA;",
      "DEVANAGARI LETTER NA;DEVANAGARI LETTER NNNA;DEVANAGARI LETTER PA;DEVANAGARI LETTER PHA;",
      "DEVANAGARI LETTER BA;DEVANAGARI LETTER BHA;DEVANAGARI LETTER MA;DEVANAGARI LETTER YA;",
      "DEVANAGARI LETTER RA;DEVANAGARI LETTER RRA;DEVANAGARI LETTER LA;DEVANAGARI LETTER LLA;",
      "DEVANAGARI LETTER LLLA;DEVANAGARI LETTER VA;DEVANAGARI LETTER SHA;DEVANAGARI LETTER SSA;",
      "DEVANAGARI LETTER SA;DEVANAGARI LETTER HA;DEVANAGARI VOWEL SIGN OE;",
      "DEVANAGARI VOWEL SIGN OOE;DEVANAGARI SIGN NUKTA;DEVANAGARI SIGN AVAGRAHA;",
      "DEVANAGARI VOWEL SIGN AA;DEVANAGARI VOWEL SIGN I;DEVANAGARI VOWEL SIGN II;",
      "DEVANAGARI VOWEL SIGN U;DEVANAGARI VOWEL SIGN UU;DEVANAGARI VOWEL SIGN VOCALIC R;",
      "DEVANAGARI VOWEL SIGN VOCALIC RR;DEVANAGARI VOWEL SIGN CANDRA E;",
      "DEVANAGARI VOWEL SIGN SHORT E;DEVANAGARI VOWEL SIGN E;DEVANAGARI VOWEL SIGN AI;",
      "DEVANAGARI VOWEL SIGN CANDRA O;DEVANAGARI VOWEL SIGN SHORT O;DEVANAGARI VOWEL SIGN O;",
      "DEVANAGARI VOWEL SIGN AU;DEVANAGARI SIGN VIRAMA;DEVANAGARI VOWEL SIGN PRISHTHAMATRA E;",
      "DEVANAGARI VOWEL SIGN AW;DEVANAGARI OM;DEVANAGARI STRESS SIGN UDATTA;",
      "DEVANAGARI STRESS SIGN ANUDATTA;DEVANAGARI GRAVE ACCENT;DEVANAGARI ACUTE ACCENT;",
      "DEVANAGARI VOWEL SIGN CANDRA LONG E;DEVANAGARI VOWEL SIGN UE;DEVANAGARI VOWEL SIGN UUE;",
      "DEVANAGARI LETTER QA;DEVANAGARI LETTER KHHA;DEVANAGARI LETTER GHHA;DEVANAGARI LETTER ZA;",
      "DEVANAGARI LETTER DDDHA;DEVANAGARI LETTER RHA;DEVANAGARI LETTER FA;DEVANAGARI LETTER YYA;",
      "DEVANAGARI LETTER VOCALIC RR;DEVANAGARI LETTER VOCALIC LL;DEVANAGARI VOWEL SIGN VOCALIC L;",
      "DEVANAGARI VOWEL SIGN VOCALIC LL;DEVANAGARI DANDA;DEVANAGARI DOUBLE DANDA;",
      "DEVANAGARI DIGIT ZERO;DEVANAGARI DIGIT ONE;DEVANAGARI DIGIT TWO;DEVANAGARI DIGIT THREE;",
      "DEVANAGARI DIGIT FOUR;DEVANAGARI DIGIT FIVE;DEVANAGARI DIGIT SIX;DEVANAGARI DIGIT SEVEN;",
      "DEVANAGARI DIGIT EIGHT;DEVANAGARI DIGIT NINE;DEVANAGARI ABBREVIATION SIGN;",
      "DEVANAGARI SIGN HIGH SPACING DOT;DEVANAGARI LETTER CANDRA A;DEVANAGARI LETTER OE;",
      "DEVANAGARI LETTER OOE;DEVANAGARI LETTER AW;DEVANAGARI LETTER UE;DEVANAGARI LETTER UUE;",
      "DEVANAGARI LETTER MARWARI DDA;DEVANAGARI LETTER ZHA;DEVANAGARI LETTER HEAVY YA;",
      "DEVANAGARI LETTER GGA;DEVANAGARI LETTER JJA;DEVANAGARI LETTER GLOTTAL STOP;",
      "DEVANAGARI LETTER DDDA;DEVANAGARI LETTER BBA;"]),
    (0xE01, ["THAI CHARACTER KO KAI;THAI CHARACTER KHO KHAI;THAI CHARACTER KHO KHUAT;",
      "THAI CHARACTER KHO KHWAI;THAI CHARACTER KHO KHON;THAI CHARACTER KHO RAKHANG;",
      "THAI CHARACTER NGO NGU;THAI CHARACTER CHO CHAN;THAI CHARACTER CHO CHING;",
      "THAI CHARACTER CHO CHANG;THAI CHARACTER SO SO;THAI CHARACTER CHO CHOE;",
      "THAI CHARACTER YO YING;THAI CHARACTER DO CHADA;THAI CHARACTER TO PATAK;",
      "THAI CHARACTER THO THAN;THAI CHARACTER THO NANGMONTHO;THAI CHARACTER THO PHUTHAO;",
      "THAI CHARACTER NO NEN;THAI CHARACTER DO DEK;THAI CHARACTER TO TAO;THAI CHARACTER THO THUNG;",
      "THAI CHARACTER THO THAHAN;THAI CHARACTER THO THONG;THAI CHARACTER NO NU;",
      "THAI CHARACTER BO BAIMAI;THAI CHARACTER PO PLA;THAI CHARACTER PHO PHUNG;",
      "THAI CHARACTER FO FA;THAI CHARACTER PHO PHAN;THAI CHARACTER FO FAN;",
      "THAI CHARACTER PHO SAMPHAO;THAI CHARACTER MO MA;THAI CHARACTER YO YAK;THAI CHARACTER RO RUA;",
      "THAI CHARACTER RU;THAI CHARACTER LO LING;THAI CHARACTER LU;THAI CHARACTER WO WAEN;",
      "THAI CHARACTER SO SALA;THAI CHARACTER SO RUSI;THAI CHARACTER SO SUA;THAI CHARACTER HO HIP;",
      "THAI CHARACTER LO CHULA;THAI CHARACTER O ANG;THAI CHARACTER HO NOKHUK;",
      "THAI CHARACTER PAIYANNOI;THAI CHARACTER SARA A;THAI CHARACTER MAI HAN-AKAT;",
      "THAI CHARACTER SARA AA;THAI CHARACTER SARA AM;THAI CHARACTER SARA I;THAI CHARACTER SARA II;",
      "THAI CHARACTER SARA UE;THAI CHARACTER SARA UEE;THAI CHARACTER SARA U;THAI CHARACTER SARA UU;",
      "THAI CHARACTER PHINTHU;;;;;THAI CURRENCY SYMBOL BAHT;THAI CHARACTER SARA E;",
      "THAI CHARACTER SARA AE;THAI CHARACTER SARA O;THAI CHARACTER SARA AI MAIMUAN;",
      "THAI CHARACTER SARA AI MAIMALAI;THAI CHARACTER LAKKHANGYAO;THAI CHARACTER MAIYAMOK;",
      "THAI CHARACTER MAITAIKHU;THAI CHARACTER MAI EK;THAI CHARACTER MAI THO;",
      "THAI CHARACTER MAI TRI;THAI CHARACTER MAI CHATTAWA;THAI CHARACTER THANTHAKHAT;",
      "THAI CHARACTER NIKHAHIT;THAI CHARACTER YAMAKKAN;THAI CHARACTER FONGMAN;THAI DIGIT ZERO;",
      "THAI DIGIT ONE;THAI DIGIT TWO;THAI DIGIT THREE;THAI DIGIT FOUR;THAI DIGIT FIVE;",
      "THAI DIGIT SIX;THAI DIGIT SEVEN;THAI DIGIT EIGHT;THAI DIGIT NINE;THAI CHARACTER ANGKHANKHU;",
      "THAI CHARACTER KHOMUT;"]),
    (0x3000, ["IDEOGRAPHIC SPACE;IDEOGRAPHIC COMMA;IDEOGRAPHIC FULL STOP;DITTO MARK;",
      "JAPANESE INDUSTRIAL STANDARD SYMBOL;IDEOGRAPHIC ITERATION MARK;IDEOGRAPHIC CLOSING MARK;",
      "IDEOGRAPHIC NUMBER ZERO;LEFT ANGLE BRACKET;RIGHT ANGLE BRACKET;LEFT DOUBLE ANGLE BRACKET;",
      "RIGHT DOUBLE ANGLE BRACKET;LEFT CORNER BRACKET;RIGHT CORNER BRACKET;",
      "LEFT WHITE CORNER BRACKET;RIGHT WHITE CORNER BRACKET;LEFT BLACK LENTICULAR BRACKET;",
      "RIGHT BLACK LENTICULAR BRACKET;POSTAL MARK;GETA MARK;LEFT TORTOISE SHELL BRACKET;",
      "RIGHT TORTOISE SHELL BRACKET;LEFT WHITE LENTICULAR BRACKET;RIGHT WHITE LENTICULAR BRACKET;",
      "LEFT WHITE TORTOISE SHELL BRACKET;RIGHT WHITE TORTOISE SHELL BRACKET;",
      "LEFT WHITE SQUARE BRACKET;RIGHT WHITE SQUARE BRACKET;WAVE DASH;",
      "REVERSED DOUBLE PRIME QUOTATION MARK;DOUBLE PRIME QUOTATION MARK;",
      "LOW DOUBLE PRIME QUOTATION MARK;POSTAL MARK FACE;HANGZHOU NUMERAL ONE;HANGZHOU NUMERAL TWO;",
      "HANGZHOU NUMERAL THREE;HANGZHOU NUMERAL FOUR;HANGZHOU NUMERAL FIVE;HANGZHOU NUMERAL SIX;",
      "HANGZHOU NUMERAL SEVEN;HANGZHOU NUMERAL EIGHT;HANGZHOU NUMERAL NINE;",
      "IDEOGRAPHIC LEVEL TONE MARK;IDEOGRAPHIC RISING TONE MARK;IDEOGRAPHIC DEPARTING TONE MARK;",
      "IDEOGRAPHIC ENTERING TONE MARK;HANGUL SINGLE DOT TONE MARK;HANGUL DOUBLE DOT TONE MARK;",
      "WAVY DASH;VERTICAL KANA REPEAT MARK;VERTICAL KANA REPEAT WITH VOICED SOUND MARK;",
      "VERTICAL KANA REPEAT MARK UPPER HALF;VERTICAL KANA REPEAT WITH VOICED SOUND MARK UPPER HALF;",
      "VERTICAL KANA REPEAT MARK LOWER HALF;CIRCLED POSTAL MARK;",
      "IDEOGRAPHIC TELEGRAPH LINE FEED SEPARATOR SYMBOL;HANGZHOU NUMERAL TEN;",
      "HANGZHOU NUMERAL TWENTY;HANGZHOU NUMERAL THIRTY;VERTICAL IDEOGRAPHIC ITERATION MARK;",
      "MASU MARK;PART ALTERNATION MARK;IDEOGRAPHIC VARIATION INDICATOR;IDEOGRAPHIC HALF FILL SPACE;",
      ";HIRAGANA LETTER SMALL A;HIRAGANA LETTER A;HIRAGANA LETTER SMALL I;HIRAGANA LETTER I;",
      "HIRAGANA LETTER SMALL U;HIRAGANA LETTER U;HIRAGANA LETTER SMALL E;HIRAGANA LETTER E;",
      "HIRAGANA LETTER SMALL O;HIRAGANA LETTER O;HIRAGANA LETTER KA;HIRAGANA LETTER GA;",
      "HIRAGANA LETTER KI;HIRAGANA LETTER GI;HIRAGANA LETTER KU;HIRAGANA LETTER GU;",
      "HIRAGANA LETTER KE;HIRAGANA LETTER GE;HIRAGANA LETTER KO;HIRAGANA LETTER GO;",
      "HIRAGANA LETTER SA;HIRAGANA LETTER ZA;HIRAGANA LETTER SI;HIRAGANA LETTER ZI;",
      "HIRAGANA LETTER SU;HIRAGANA LETTER ZU;HIRAGANA LETTER SE;HIRAGANA LETTER ZE;",
      "HIRAGANA LETTER SO;HIRAGANA LETTER ZO;HIRAGANA LETTER TA;HIRAGANA LETTER DA;",
      "HIRAGANA LETTER TI;HIRAGANA LETTER DI;HIRAGANA LETTER SMALL TU;HIRAGANA LETTER TU;",
      "HIRAGANA LETTER DU;HIRAGANA LETTER TE;HIRAGANA LETTER DE;HIRAGANA LETTER TO;",
      "HIRAGANA LETTER DO;HIRAGANA LETTER NA;HIRAGANA LETTER NI;HIRAGANA LETTER NU;",
      "HIRAGANA LETTER NE;HIRAGANA LETTER NO;HIRAGANA LETTER HA;HIRAGANA LETTER BA;",
      "HIRAGANA LETTER PA;HIRAGANA LETTER HI;HIRAGANA LETTER BI;HIRAGANA LETTER PI;",
      "HIRAGANA LETTER HU;HIRAGANA LETTER BU;HIRAGANA LETTER PU;HIRAGANA LETTER HE;",
      "HIRAGANA LETTER BE;HIRAGANA LETTER PE;HIRAGANA LETTER HO;HIRAGANA LETTER BO;",
      "HIRAGANA LETTER PO;HIRAGANA LETTER MA;HIRAGANA LETTER MI;HIRAGANA LETTER MU;",
      "HIRAGANA LETTER ME;HIRAGANA LETTER MO;HIRAGANA LETTER SMALL YA;HIRAGANA LETTER YA;",
      "HIRAGANA LETTER SMALL YU;HIRAGANA LETTER YU;HIRAGANA LETTER SMALL YO;HIRAGANA LETTER YO;",
      "HIRAGANA LETTER RA;HIRAGANA LETTER RI;HIRAGANA LETTER RU;HIRAGANA LETTER RE;",
      "HIRAGANA LETTER RO;HIRAGANA LETTER SMALL WA;HIRAGANA LETTER WA;HIRAGANA LETTER WI;",
      "HIRAGANA LETTER WE;HIRAGANA LETTER WO;HIRAGANA LETTER N;HIRAGANA LETTER VU;",
      "HIRAGANA LETTER SMALL KA;HIRAGANA LETTER SMALL KE;;;",
      "COMBINING KATAKANA-HIRAGANA VOICED SOUND MARK;",
      "COMBINING KATAKANA-HIRAGANA SEMI-VOICED SOUND MARK;KATAKANA-HIRAGANA VOICED SOUND MARK;",
      "KATAKANA-HIRAGANA SEMI-VOICED SOUND MARK;HIRAGANA ITERATION MARK;",
      "HIRAGANA VOICED ITERATION MARK;HIRAGANA DIGRAPH YORI;KATAKANA-HIRAGANA DOUBLE HYPHEN;",
      "KATAKANA LETTER SMALL A;KATAKANA LETTER A;KATAKANA LETTER SMALL I;KATAKANA LETTER I;",
      "KATAKANA LETTER SMALL U;KATAKANA LETTER U;KATAKANA LETTER SMALL E;KATAKANA LETTER E;",
      "KATAKANA LETTER SMALL O;KATAKANA LETTER O;KATAKANA LETTER KA;KATAKANA LETTER GA;",
      "KATAKANA LETTER KI;KATAKANA LETTER GI;KATAKANA LETTER KU;KATAKANA LETTER GU;",
      "KATAKANA LETTER KE;KATAKANA LETTER GE;KATAKANA LETTER KO;KATAKANA LETTER GO;",
      "KATAKANA LETTER SA;KATAKANA LETTER ZA;KATAKANA LETTER SI;KATAKANA LETTER ZI;",
      "KATAKANA LETTER SU;KATAKANA LETTER ZU;KATAKANA LETTER SE;KATAKANA LETTER ZE;",
      "KATAKANA LETTER SO;KATAKANA LETTER ZO;KATAKANA LETTER TA;KATAKANA LETTER DA;",
      "KATAKANA LETTER TI;KATAKANA LETTER DI;KATAKANA LETTER SMALL TU;KATAKANA LETTER TU;",
      "KATAKANA LETTER DU;KATAKANA LETTER TE;KATAKANA LETTER DE;KATAKANA LETTER TO;",
      "KATAKANA LETTER DO;KATAKANA LETTER NA;KATAKANA LETTER NI;KATAKANA LETTER NU;",
      "KATAKANA LETTER NE;KATAKANA LETTER NO;KATAKANA LETTER HA;KATAKANA LETTER BA;",
      "KATAKANA LETTER PA;KATAKANA LETTER HI;KATAKANA LETTER BI;KATAKANA LETTER PI;",
      "KATAKANA LETTER HU;KATAKANA LETTER BU;KATAKANA LETTER PU;KATAKANA LETTER HE;",
      "KATAKANA LETTER BE;KATAKANA LETTER PE;KATAKANA LETTER HO;KATAKANA LETTER BO;",
      "KATAKANA LETTER PO;KATAKANA LETTER MA;KATAKANA LETTER MI;KATAKANA LETTER MU;",
      "KATAKANA LETTER ME;KATAKANA LETTER MO;KATAKANA LETTER SMALL YA;KATAKANA LETTER YA;",
      "KATAKANA LETTER SMALL YU;KATAKANA LETTER YU;KATAKANA LETTER SMALL YO;KATAKANA LETTER YO;",
      "KATAKANA LETTER RA;KATAKANA LETTER RI;KATAKANA LETTER RU;KATAKANA LETTER RE;",
      "KATAKANA LETTER RO;KATAKANA LETTER SMALL WA;KATAKANA LETTER WA;KATAKANA LETTER WI;",
      "KATAKANA LETTER WE;KATAKANA LETTER WO;KATAKANA LETTER N;KATAKANA LETTER VU;",
      "KATAKANA LETTER SMALL KA;KATAKANA LETTER SMALL KE;KATAKANA LETTER VA;KATAKANA LETTER VI;",
      "KATAKANA LETTER VE;KATAKANA LETTER VO;KATAKANA MIDDLE DOT;",
      "KATAKANA-HIRAGANA PROLONGED SOUND MARK;KATAKANA ITERATION MARK;",
      "KATAKANA VOICED ITERATION MARK;KATAKANA DIGRAPH KOTO;;;;;;BOPOMOFO LETTER B;",
      "BOPOMOFO LETTER P;BOPOMOFO LETTER M;BOPOMOFO LETTER F;BOPOMOFO LETTER D;BOPOMOFO LETTER T;",
      "BOPOMOFO LETTER N;BOPOMOFO LETTER L;BOPOMOFO LETTER G;BOPOMOFO LETTER K;BOPOMOFO LETTER H;",
      "BOPOMOFO LETTER J;BOPOMOFO LETTER Q;BOPOMOFO LETTER X;BOPOMOFO LETTER ZH;BOPOMOFO LETTER CH;",
      "BOPOMOFO LETTER SH;BOPOMOFO LETTER R;BOPOMOFO LETTER Z;BOPOMOFO LETTER C;BOPOMOFO LETTER S;",
      "BOPOMOFO LETTER A;BOPOMOFO LETTER O;BOPOMOFO LETTER E;BOPOMOFO LETTER EH;BOPOMOFO LETTER AI;",
      "BOPOMOFO LETTER EI;BOPOMOFO LETTER AU;BOPOMOFO LETTER OU;BOPOMOFO LETTER AN;",
      "BOPOMOFO LETTER EN;BOPOMOFO LETTER ANG;BOPOMOFO LETTER ENG;BOPOMOFO LETTER ER;",
      "BOPOMOFO LETTER I;BOPOMOFO LETTER U;BOPOMOFO LETTER IU;BOPOMOFO LETTER V;BOPOMOFO LETTER NG;",
      "BOPOMOFO LETTER GN;BOPOMOFO LETTER IH;BOPOMOFO LETTER O WITH DOT ABOVE;BOPOMOFO LETTER NN;"])]

end Stepwise.Text.Names
