/-!
The names of Latin letters, of the marks on them, and of their forms, block by block.
-/

namespace Stepwise.Text.Names

/-- The number of the first character of a block and the names from it on, each one ended by a semicolon. -/
def latin : List (Nat × List String) :=
  [(0x20, ["SPACE;EXCLAMATION MARK;QUOTATION MARK;NUMBER SIGN;DOLLAR SIGN;PERCENT SIGN;AMPERSAND;",
      "APOSTROPHE;LEFT PARENTHESIS;RIGHT PARENTHESIS;ASTERISK;PLUS SIGN;COMMA;HYPHEN-MINUS;",
      "FULL STOP;SOLIDUS;DIGIT ZERO;DIGIT ONE;DIGIT TWO;DIGIT THREE;DIGIT FOUR;DIGIT FIVE;",
      "DIGIT SIX;DIGIT SEVEN;DIGIT EIGHT;DIGIT NINE;COLON;SEMICOLON;LESS-THAN SIGN;EQUALS SIGN;",
      "GREATER-THAN SIGN;QUESTION MARK;COMMERCIAL AT;LATIN CAPITAL LETTER A;LATIN CAPITAL LETTER B;",
      "LATIN CAPITAL LETTER C;LATIN CAPITAL LETTER D;LATIN CAPITAL LETTER E;LATIN CAPITAL LETTER F;",
      "LATIN CAPITAL LETTER G;LATIN CAPITAL LETTER H;LATIN CAPITAL LETTER I;LATIN CAPITAL LETTER J;",
      "LATIN CAPITAL LETTER K;LATIN CAPITAL LETTER L;LATIN CAPITAL LETTER M;LATIN CAPITAL LETTER N;",
      "LATIN CAPITAL LETTER O;LATIN CAPITAL LETTER P;LATIN CAPITAL LETTER Q;LATIN CAPITAL LETTER R;",
      "LATIN CAPITAL LETTER S;LATIN CAPITAL LETTER T;LATIN CAPITAL LETTER U;LATIN CAPITAL LETTER V;",
      "LATIN CAPITAL LETTER W;LATIN CAPITAL LETTER X;LATIN CAPITAL LETTER Y;LATIN CAPITAL LETTER Z;",
      "LEFT SQUARE BRACKET;REVERSE SOLIDUS;RIGHT SQUARE BRACKET;CIRCUMFLEX ACCENT;LOW LINE;",
      "GRAVE ACCENT;LATIN SMALL LETTER A;LATIN SMALL LETTER B;LATIN SMALL LETTER C;",
      "LATIN SMALL LETTER D;LATIN SMALL LETTER E;LATIN SMALL LETTER F;LATIN SMALL LETTER G;",
      "LATIN SMALL LETTER H;LATIN SMALL LETTER I;LATIN SMALL LETTER J;LATIN SMALL LETTER K;",
      "LATIN SMALL LETTER L;LATIN SMALL LETTER M;LATIN SMALL LETTER N;LATIN SMALL LETTER O;",
      "LATIN SMALL LETTER P;LATIN SMALL LETTER Q;LATIN SMALL LETTER R;LATIN SMALL LETTER S;",
      "LATIN SMALL LETTER T;LATIN SMALL LETTER U;LATIN SMALL LETTER V;LATIN SMALL LETTER W;",
      "LATIN SMALL LETTER X;LATIN SMALL LETTER Y;LATIN SMALL LETTER Z;LEFT CURLY BRACKET;",
      "VERTICAL LINE;RIGHT CURLY BRACKET;TILDE;"]),
    (0xA0, ["NO-BREAK SPACE;INVERTED EXCLAMATION MARK;CENT SIGN;POUND SIGN;CURRENCY SIGN;YEN SIGN;",
      "BROKEN BAR;SECTION SIGN;DIAERESIS;COPYRIGHT SIGN;FEMININE ORDINAL INDICATOR;",
      "LEFT-POINTING DOUBLE ANGLE QUOTATION MARK;NOT SIGN;SOFT HYPHEN;REGISTERED SIGN;MACRON;",
      "DEGREE SIGN;PLUS-MINUS SIGN;SUPERSCRIPT TWO;SUPERSCRIPT THREE;ACUTE ACCENT;MICRO SIGN;",
      "PILCROW SIGN;MIDDLE DOT;CEDILLA;SUPERSCRIPT ONE;MASCULINE ORDINAL INDICATOR;",
      "RIGHT-POINTING DOUBLE ANGLE QUOTATION MARK;VULGAR FRACTION ONE QUARTER;",
      "VULGAR FRACTION ONE HALF;VULGAR FRACTION THREE QUARTERS;INVERTED QUESTION MARK;",
      "LATIN CAPITAL LETTER A WITH GRAVE;LATIN CAPITAL LETTER A WITH ACUTE;",
      "LATIN CAPITAL LETTER A WITH CIRCUMFLEX;LATIN CAPITAL LETTER A WITH TILDE;",
      "LATIN CAPITAL LETTER A WITH DIAERESIS;LATIN CAPITAL LETTER A WITH RING ABOVE;",
      "LATIN CAPITAL LETTER AE;LATIN CAPITAL LETTER C WITH CEDILLA;",
      "LATIN CAPITAL LETTER E WITH GRAVE;LATIN CAPITAL LETTER E WITH ACUTE;",
      "LATIN CAPITAL LETTER E WITH CIRCUMFLEX;LATIN CAPITAL LETTER E WITH DIAERESIS;",
      "LATIN CAPITAL LETTER I WITH GRAVE;LATIN CAPITAL LETTER I WITH ACUTE;",
      "LATIN CAPITAL LETTER I WITH CIRCUMFLEX;LATIN CAPITAL LETTER I WITH DIAERESIS;",
      "LATIN CAPITAL LETTER ETH;LATIN CAPITAL LETTER N WITH TILDE;",
      "LATIN CAPITAL LETTER O WITH GRAVE;LATIN CAPITAL LETTER O WITH ACUTE;",
      "LATIN CAPITAL LETTER O WITH CIRCUMFLEX;LATIN CAPITAL LETTER O WITH TILDE;",
      "LATIN CAPITAL LETTER O WITH DIAERESIS;MULTIPLICATION SIGN;",
      "LATIN CAPITAL LETTER O WITH STROKE;LATIN CAPITAL LETTER U WITH GRAVE;",
      "LATIN CAPITAL LETTER U WITH ACUTE;LATIN CAPITAL LETTER U WITH CIRCUMFLEX;",
      "LATIN CAPITAL LETTER U WITH DIAERESIS;LATIN CAPITAL LETTER Y WITH ACUTE;",
      "LATIN CAPITAL LETTER THORN;LATIN SMALL LETTER SHARP S;LATIN SMALL LETTER A WITH GRAVE;",
      "LATIN SMALL LETTER A WITH ACUTE;LATIN SMALL LETTER A WITH CIRCUMFLEX;",
      "LATIN SMALL LETTER A WITH TILDE;LATIN SMALL LETTER A WITH DIAERESIS;",
      "LATIN SMALL LETTER A WITH RING ABOVE;LATIN SMALL LETTER AE;",
      "LATIN SMALL LETTER C WITH CEDILLA;LATIN SMALL LETTER E WITH GRAVE;",
      "LATIN SMALL LETTER E WITH ACUTE;LATIN SMALL LETTER E WITH CIRCUMFLEX;",
      "LATIN SMALL LETTER E WITH DIAERESIS;LATIN SMALL LETTER I WITH GRAVE;",
      "LATIN SMALL LETTER I WITH ACUTE;LATIN SMALL LETTER I WITH CIRCUMFLEX;",
      "LATIN SMALL LETTER I WITH DIAERESIS;LATIN SMALL LETTER ETH;LATIN SMALL LETTER N WITH TILDE;",
      "LATIN SMALL LETTER O WITH GRAVE;LATIN SMALL LETTER O WITH ACUTE;",
      "LATIN SMALL LETTER O WITH CIRCUMFLEX;LATIN SMALL LETTER O WITH TILDE;",
      "LATIN SMALL LETTER O WITH DIAERESIS;DIVISION SIGN;LATIN SMALL LETTER O WITH STROKE;",
      "LATIN SMALL LETTER U WITH GRAVE;LATIN SMALL LETTER U WITH ACUTE;",
      "LATIN SMALL LETTER U WITH CIRCUMFLEX;LATIN SMALL LETTER U WITH DIAERESIS;",
      "LATIN SMALL LETTER Y WITH ACUTE;LATIN SMALL LETTER THORN;",
      "LATIN SMALL LETTER Y WITH DIAERESIS;LATIN CAPITAL LETTER A WITH MACRON;",
      "LATIN SMALL LETTER A WITH MACRON;LATIN CAPITAL LETTER A WITH BREVE;",
      "LATIN SMALL LETTER A WITH BREVE;LATIN CAPITAL LETTER A WITH OGONEK;",
      "LATIN SMALL LETTER A WITH OGONEK;LATIN CAPITAL LETTER C WITH ACUTE;",
      "LATIN SMALL LETTER C WITH ACUTE;LATIN CAPITAL LETTER C WITH CIRCUMFLEX;",
      "LATIN SMALL LETTER C WITH CIRCUMFLEX;LATIN CAPITAL LETTER C WITH DOT ABOVE;",
      "LATIN SMALL LETTER C WITH DOT ABOVE;LATIN CAPITAL LETTER C WITH CARON;",
      "LATIN SMALL LETTER C WITH CARON;LATIN CAPITAL LETTER D WITH CARON;",
      "LATIN SMALL LETTER D WITH CARON;LATIN CAPITAL LETTER D WITH STROKE;",
      "LATIN SMALL LETTER D WITH STROKE;LATIN CAPITAL LETTER E WITH MACRON;",
      "LATIN SMALL LETTER E WITH MACRON;LATIN CAPITAL LETTER E WITH BREVE;",
      "LATIN SMALL LETTER E WITH BREVE;LATIN CAPITAL LETTER E WITH DOT ABOVE;",
      "LATIN SMALL LETTER E WITH DOT ABOVE;LATIN CAPITAL LETTER E WITH OGONEK;",
      "LATIN SMALL LETTER E WITH OGONEK;LATIN CAPITAL LETTER E WITH CARON;",
      "LATIN SMALL LETTER E WITH CARON;LATIN CAPITAL LETTER G WITH CIRCUMFLEX;",
      "LATIN SMALL LETTER G WITH CIRCUMFLEX;LATIN CAPITAL LETTER G WITH BREVE;",
      "LATIN SMALL LETTER G WITH BREVE;LATIN CAPITAL LETTER G WITH DOT ABOVE;",
      "LATIN SMALL LETTER G WITH DOT ABOVE;LATIN CAPITAL LETTER G WITH CEDILLA;",
      "LATIN SMALL LETTER G WITH CEDILLA;LATIN CAPITAL LETTER H WITH CIRCUMFLEX;",
      "LATIN SMALL LETTER H WITH CIRCUMFLEX;LATIN CAPITAL LETTER H WITH STROKE;",
      "LATIN SMALL LETTER H WITH STROKE;LATIN CAPITAL LETTER I WITH TILDE;",
      "LATIN SMALL LETTER I WITH TILDE;LATIN CAPITAL LETTER I WITH MACRON;",
      "LATIN SMALL LETTER I WITH MACRON;LATIN CAPITAL LETTER I WITH BREVE;",
      "LATIN SMALL LETTER I WITH BREVE;LATIN CAPITAL LETTER I WITH OGONEK;",
      "LATIN SMALL LETTER I WITH OGONEK;LATIN CAPITAL LETTER I WITH DOT ABOVE;",
      "LATIN SMALL LETTER DOTLESS I;LATIN CAPITAL LIGATURE IJ;LATIN SMALL LIGATURE IJ;",
      "LATIN CAPITAL LETTER J WITH CIRCUMFLEX;LATIN SMALL LETTER J WITH CIRCUMFLEX;",
      "LATIN CAPITAL LETTER K WITH CEDILLA;LATIN SMALL LETTER K WITH CEDILLA;",
      "LATIN SMALL LETTER KRA;LATIN CAPITAL LETTER L WITH ACUTE;LATIN SMALL LETTER L WITH ACUTE;",
      "LATIN CAPITAL LETTER L WITH CEDILLA;LATIN SMALL LETTER L WITH CEDILLA;",
      "LATIN CAPITAL LETTER L WITH CARON;LATIN SMALL LETTER L WITH CARON;",
      "LATIN CAPITAL LETTER L WITH MIDDLE DOT;LATIN SMALL LETTER L WITH MIDDLE DOT;",
      "LATIN CAPITAL LETTER L WITH STROKE;LATIN SMALL LETTER L WITH STROKE;",
      "LATIN CAPITAL LETTER N WITH ACUTE;LATIN SMALL LETTER N WITH ACUTE;",
      "LATIN CAPITAL LETTER N WITH CEDILLA;LATIN SMALL LETTER N WITH CEDILLA;",
      "LATIN CAPITAL LETTER N WITH CARON;LATIN SMALL LETTER N WITH CARON;",
      "LATIN SMALL LETTER N PRECEDED BY APOSTROPHE;LATIN CAPITAL LETTER ENG;LATIN SMALL LETTER ENG;",
      "LATIN CAPITAL LETTER O WITH MACRON;LATIN SMALL LETTER O WITH MACRON;",
      "LATIN CAPITAL LETTER O WITH BREVE;LATIN SMALL LETTER O WITH BREVE;",
      "LATIN CAPITAL LETTER O WITH DOUBLE ACUTE;LATIN SMALL LETTER O WITH DOUBLE ACUTE;",
      "LATIN CAPITAL LIGATURE OE;LATIN SMALL LIGATURE OE;LATIN CAPITAL LETTER R WITH ACUTE;",
      "LATIN SMALL LETTER R WITH ACUTE;LATIN CAPITAL LETTER R WITH CEDILLA;",
      "LATIN SMALL LETTER R WITH CEDILLA;LATIN CAPITAL LETTER R WITH CARON;",
      "LATIN SMALL LETTER R WITH CARON;LATIN CAPITAL LETTER S WITH ACUTE;",
      "LATIN SMALL LETTER S WITH ACUTE;LATIN CAPITAL LETTER S WITH CIRCUMFLEX;",
      "LATIN SMALL LETTER S WITH CIRCUMFLEX;LATIN CAPITAL LETTER S WITH CEDILLA;",
      "LATIN SMALL LETTER S WITH CEDILLA;LATIN CAPITAL LETTER S WITH CARON;",
      "LATIN SMALL LETTER S WITH CARON;LATIN CAPITAL LETTER T WITH CEDILLA;",
      "LATIN SMALL LETTER T WITH CEDILLA;LATIN CAPITAL LETTER T WITH CARON;",
      "LATIN SMALL LETTER T WITH CARON;LATIN CAPITAL LETTER T WITH STROKE;",
      "LATIN SMALL LETTER T WITH STROKE;LATIN CAPITAL LETTER U WITH TILDE;",
      "LATIN SMALL LETTER U WITH TILDE;LATIN CAPITAL LETTER U WITH MACRON;",
      "LATIN SMALL LETTER U WITH MACRON;LATIN CAPITAL LETTER U WITH BREVE;",
      "LATIN SMALL LETTER U WITH BREVE;LATIN CAPITAL LETTER U WITH RING ABOVE;",
      "LATIN SMALL LETTER U WITH RING ABOVE;LATIN CAPITAL LETTER U WITH DOUBLE ACUTE;",
      "LATIN SMALL LETTER U WITH DOUBLE ACUTE;LATIN CAPITAL LETTER U WITH OGONEK;",
      "LATIN SMALL LETTER U WITH OGONEK;LATIN CAPITAL LETTER W WITH CIRCUMFLEX;",
      "LATIN SMALL LETTER W WITH CIRCUMFLEX;LATIN CAPITAL LETTER Y WITH CIRCUMFLEX;",
      "LATIN SMALL LETTER Y WITH CIRCUMFLEX;LATIN CAPITAL LETTER Y WITH DIAERESIS;",
      "LATIN CAPITAL LETTER Z WITH ACUTE;LATIN SMALL LETTER Z WITH ACUTE;",
      "LATIN CAPITAL LETTER Z WITH DOT ABOVE;LATIN SMALL LETTER Z WITH DOT ABOVE;",
      "LATIN CAPITAL LETTER Z WITH CARON;LATIN SMALL LETTER Z WITH CARON;LATIN SMALL LETTER LONG S;",
      "LATIN SMALL LETTER B WITH STROKE;LATIN CAPITAL LETTER B WITH HOOK;",
      "LATIN CAPITAL LETTER B WITH TOPBAR;LATIN SMALL LETTER B WITH TOPBAR;",
      "LATIN CAPITAL LETTER TONE SIX;LATIN SMALL LETTER TONE SIX;LATIN CAPITAL LETTER OPEN O;",
      "LATIN CAPITAL LETTER C WITH HOOK;LATIN SMALL LETTER C WITH HOOK;",
      "LATIN CAPITAL LETTER AFRICAN D;LATIN CAPITAL LETTER D WITH HOOK;",
      "LATIN CAPITAL LETTER D WITH TOPBAR;LATIN SMALL LETTER D WITH TOPBAR;",
      "LATIN SMALL LETTER TURNED DELTA;LATIN CAPITAL LETTER REVERSED E;LATIN CAPITAL LETTER SCHWA;",
      "LATIN CAPITAL LETTER OPEN E;LATIN CAPITAL LETTER F WITH HOOK;LATIN SMALL LETTER F WITH HOOK;",
      "LATIN CAPITAL LETTER G WITH HOOK;LATIN CAPITAL LETTER GAMMA;LATIN SMALL LETTER HV;",
      "LATIN CAPITAL LETTER IOTA;LATIN CAPITAL LETTER I WITH STROKE;",
      "LATIN CAPITAL LETTER K WITH HOOK;LATIN SMALL LETTER K WITH HOOK;",
      "LATIN SMALL LETTER L WITH BAR;LATIN SMALL LETTER LAMBDA WITH STROKE;",
      "LATIN CAPITAL LETTER TURNED M;LATIN CAPITAL LETTER N WITH LEFT HOOK;",
      "LATIN SMALL LETTER N WITH LONG RIGHT LEG;LATIN CAPITAL LETTER O WITH MIDDLE TILDE;",
      "LATIN CAPITAL LETTER O WITH HORN;LATIN SMALL LETTER O WITH HORN;LATIN CAPITAL LETTER OI;",
      "LATIN SMALL LETTER OI;LATIN CAPITAL LETTER P WITH HOOK;LATIN SMALL LETTER P WITH HOOK;",
      "LATIN LETTER YR;LATIN CAPITAL LETTER TONE TWO;LATIN SMALL LETTER TONE TWO;",
      "LATIN CAPITAL LETTER ESH;LATIN LETTER REVERSED ESH LOOP;",
      "LATIN SMALL LETTER T WITH PALATAL HOOK;LATIN CAPITAL LETTER T WITH HOOK;",
      "LATIN SMALL LETTER T WITH HOOK;LATIN CAPITAL LETTER T WITH RETROFLEX HOOK;",
      "LATIN CAPITAL LETTER U WITH HORN;LATIN SMALL LETTER U WITH HORN;",
      "LATIN CAPITAL LETTER UPSILON;LATIN CAPITAL LETTER V WITH HOOK;",
      "LATIN CAPITAL LETTER Y WITH HOOK;LATIN SMALL LETTER Y WITH HOOK;",
      "LATIN CAPITAL LETTER Z WITH STROKE;LATIN SMALL LETTER Z WITH STROKE;",
      "LATIN CAPITAL LETTER EZH;LATIN CAPITAL LETTER EZH REVERSED;LATIN SMALL LETTER EZH REVERSED;",
      "LATIN SMALL LETTER EZH WITH TAIL;LATIN LETTER TWO WITH STROKE;",
      "LATIN CAPITAL LETTER TONE FIVE;LATIN SMALL LETTER TONE FIVE;",
      "LATIN LETTER INVERTED GLOTTAL STOP WITH STROKE;LATIN LETTER WYNN;LATIN LETTER DENTAL CLICK;",
      "LATIN LETTER LATERAL CLICK;LATIN LETTER ALVEOLAR CLICK;LATIN LETTER RETROFLEX CLICK;",
      "LATIN CAPITAL LETTER DZ WITH CARON;LATIN CAPITAL LETTER D WITH SMALL LETTER Z WITH CARON;",
      "LATIN SMALL LETTER DZ WITH CARON;LATIN CAPITAL LETTER LJ;",
      "LATIN CAPITAL LETTER L WITH SMALL LETTER J;LATIN SMALL LETTER LJ;LATIN CAPITAL LETTER NJ;",
      "LATIN CAPITAL LETTER N WITH SMALL LETTER J;LATIN SMALL LETTER NJ;",
      "LATIN CAPITAL LETTER A WITH CARON;LATIN SMALL LETTER A WITH CARON;",
      "LATIN CAPITAL LETTER I WITH CARON;LATIN SMALL LETTER I WITH CARON;",
      "LATIN CAPITAL LETTER O WITH CARON;LATIN SMALL LETTER O WITH CARON;",
      "LATIN CAPITAL LETTER U WITH CARON;LATIN SMALL LETTER U WITH CARON;",
      "LATIN CAPITAL LETTER U WITH DIAERESIS AND MACRON;",
      "LATIN SMALL LETTER U WITH DIAERESIS AND MACRON;",
      "LATIN CAPITAL LETTER U WITH DIAERESIS AND ACUTE;",
      "LATIN SMALL LETTER U WITH DIAERESIS AND ACUTE;",
      "LATIN CAPITAL LETTER U WITH DIAERESIS AND CARON;",
      "LATIN SMALL LETTER U WITH DIAERESIS AND CARON;",
      "LATIN CAPITAL LETTER U WITH DIAERESIS AND GRAVE;",
      "LATIN SMALL LETTER U WITH DIAERESIS AND GRAVE;LATIN SMALL LETTER TURNED E;",
      "LATIN CAPITAL LETTER A WITH DIAERESIS AND MACRON;",
      "LATIN SMALL LETTER A WITH DIAERESIS AND MACRON;",
      "LATIN CAPITAL LETTER A WITH DOT ABOVE AND MACRON;",
      "LATIN SMALL LETTER A WITH DOT ABOVE AND MACRON;LATIN CAPITAL LETTER AE WITH MACRON;",
      "LATIN SMALL LETTER AE WITH MACRON;LATIN CAPITAL LETTER G WITH STROKE;",
      "LATIN SMALL LETTER G WITH STROKE;LATIN CAPITAL LETTER G WITH CARON;",
      "LATIN SMALL LETTER G WITH CARON;LATIN CAPITAL LETTER K WITH CARON;",
      "LATIN SMALL LETTER K WITH CARON;LATIN CAPITAL LETTER O WITH OGONEK;",
      "LATIN SMALL LETTER O WITH OGONEK;LATIN CAPITAL LETTER O WITH OGONEK AND MACRON;",
      "LATIN SMALL LETTER O WITH OGONEK AND MACRON;LATIN CAPITAL LETTER EZH WITH CARON;",
      "LATIN SMALL LETTER EZH WITH CARON;LATIN SMALL LETTER J WITH CARON;LATIN CAPITAL LETTER DZ;",
      "LATIN CAPITAL LETTER D WITH SMALL LETTER Z;LATIN SMALL LETTER DZ;",
      "LATIN CAPITAL LETTER G WITH ACUTE;LATIN SMALL LETTER G WITH ACUTE;",
      "LATIN CAPITAL LETTER HWAIR;LATIN CAPITAL LETTER WYNN;LATIN CAPITAL LETTER N WITH GRAVE;",
      "LATIN SMALL LETTER N WITH GRAVE;LATIN CAPITAL LETTER A WITH RING ABOVE AND ACUTE;",
      "LATIN SMALL LETTER A WITH RING ABOVE AND ACUTE;LATIN CAPITAL LETTER AE WITH ACUTE;",
      "LATIN SMALL LETTER AE WITH ACUTE;LATIN CAPITAL LETTER O WITH STROKE AND ACUTE;",
      "LATIN SMALL LETTER O WITH STROKE AND ACUTE;LATIN CAPITAL LETTER A WITH DOUBLE GRAVE;",
      "LATIN SMALL LETTER A WITH DOUBLE GRAVE;LATIN CAPITAL LETTER A WITH INVERTED BREVE;",
      "LATIN SMALL LETTER A WITH INVERTED BREVE;LATIN CAPITAL LETTER E WITH DOUBLE GRAVE;",
      "LATIN SMALL LETTER E WITH DOUBLE GRAVE;LATIN CAPITAL LETTER E WITH INVERTED BREVE;",
      "LATIN SMALL LETTER E WITH INVERTED BREVE;LATIN CAPITAL LETTER I WITH DOUBLE GRAVE;",
      "LATIN SMALL LETTER I WITH DOUBLE GRAVE;LATIN CAPITAL LETTER I WITH INVERTED BREVE;",
      "LATIN SMALL LETTER I WITH INVERTED BREVE;LATIN CAPITAL LETTER O WITH DOUBLE GRAVE;",
      "LATIN SMALL LETTER O WITH DOUBLE GRAVE;LATIN CAPITAL LETTER O WITH INVERTED BREVE;",
      "LATIN SMALL LETTER O WITH INVERTED BREVE;LATIN CAPITAL LETTER R WITH DOUBLE GRAVE;",
      "LATIN SMALL LETTER R WITH DOUBLE GRAVE;LATIN CAPITAL LETTER R WITH INVERTED BREVE;",
      "LATIN SMALL LETTER R WITH INVERTED BREVE;LATIN CAPITAL LETTER U WITH DOUBLE GRAVE;",
      "LATIN SMALL LETTER U WITH DOUBLE GRAVE;LATIN CAPITAL LETTER U WITH INVERTED BREVE;",
      "LATIN SMALL LETTER U WITH INVERTED BREVE;LATIN CAPITAL LETTER S WITH COMMA BELOW;",
      "LATIN SMALL LETTER S WITH COMMA BELOW;LATIN CAPITAL LETTER T WITH COMMA BELOW;",
      "LATIN SMALL LETTER T WITH COMMA BELOW;LATIN CAPITAL LETTER YOGH;LATIN SMALL LETTER YOGH;",
      "LATIN CAPITAL LETTER H WITH CARON;LATIN SMALL LETTER H WITH CARON;",
      "LATIN CAPITAL LETTER N WITH LONG RIGHT LEG;LATIN SMALL LETTER D WITH CURL;",
      "LATIN CAPITAL LETTER OU;LATIN SMALL LETTER OU;LATIN CAPITAL LETTER Z WITH HOOK;",
      "LATIN SMALL LETTER Z WITH HOOK;LATIN CAPITAL LETTER A WITH DOT ABOVE;",
      "LATIN SMALL LETTER A WITH DOT ABOVE;LATIN CAPITAL LETTER E WITH CEDILLA;",
      "LATIN SMALL LETTER E WITH CEDILLA;LATIN CAPITAL LETTER O WITH DIAERESIS AND MACRON;",
      "LATIN SMALL LETTER O WITH DIAERESIS AND MACRON;LATIN CAPITAL LETTER O WITH TILDE AND MACRON;",
      "LATIN SMALL LETTER O WITH TILDE AND MACRON;LATIN CAPITAL LETTER O WITH DOT ABOVE;",
      "LATIN SMALL LETTER O WITH DOT ABOVE;LATIN CAPITAL LETTER O WITH DOT ABOVE AND MACRON;",
      "LATIN SMALL LETTER O WITH DOT ABOVE AND MACRON;LATIN CAPITAL LETTER Y WITH MACRON;",
      "LATIN SMALL LETTER Y WITH MACRON;LATIN SMALL LETTER L WITH CURL;",
      "LATIN SMALL LETTER N WITH CURL;LATIN SMALL LETTER T WITH CURL;LATIN SMALL LETTER DOTLESS J;",
      "LATIN SMALL LETTER DB DIGRAPH;LATIN SMALL LETTER QP DIGRAPH;",
      "LATIN CAPITAL LETTER A WITH STROKE;LATIN CAPITAL LETTER C WITH STROKE;",
      "LATIN SMALL LETTER C WITH STROKE;LATIN CAPITAL LETTER L WITH BAR;",
      "LATIN CAPITAL LETTER T WITH DIAGONAL STROKE;LATIN SMALL LETTER S WITH SWASH TAIL;",
      "LATIN SMALL LETTER Z WITH SWASH TAIL;LATIN CAPITAL LETTER GLOTTAL STOP;",
      "LATIN SMALL LETTER GLOTTAL STOP;LATIN CAPITAL LETTER B WITH STROKE;",
      "LATIN CAPITAL LETTER U BAR;LATIN CAPITAL LETTER TURNED V;LATIN CAPITAL LETTER E WITH STROKE;",
      "LATIN SMALL LETTER E WITH STROKE;LATIN CAPITAL LETTER J WITH STROKE;",
      "LATIN SMALL LETTER J WITH STROKE;LATIN CAPITAL LETTER SMALL Q WITH HOOK TAIL;",
      "LATIN SMALL LETTER Q WITH HOOK TAIL;LATIN CAPITAL LETTER R WITH STROKE;",
      "LATIN SMALL LETTER R WITH STROKE;LATIN CAPITAL LETTER Y WITH STROKE;",
      "LATIN SMALL LETTER Y WITH STROKE;LATIN SMALL LETTER TURNED A;LATIN SMALL LETTER ALPHA;",
      "LATIN SMALL LETTER TURNED ALPHA;LATIN SMALL LETTER B WITH HOOK;LATIN SMALL LETTER OPEN O;",
      "LATIN SMALL LETTER C WITH CURL;LATIN SMALL LETTER D WITH TAIL;",
      "LATIN SMALL LETTER D WITH HOOK;LATIN SMALL LETTER REVERSED E;LATIN SMALL LETTER SCHWA;",
      "LATIN SMALL LETTER SCHWA WITH HOOK;LATIN SMALL LETTER OPEN E;",
      "LATIN SMALL LETTER REVERSED OPEN E;LATIN SMALL LETTER REVERSED OPEN E WITH HOOK;",
      "LATIN SMALL LETTER CLOSED REVERSED OPEN E;LATIN SMALL LETTER DOTLESS J WITH STROKE;",
      "LATIN SMALL LETTER G WITH HOOK;LATIN SMALL LETTER SCRIPT G;LATIN LETTER SMALL CAPITAL G;",
      "LATIN SMALL LETTER GAMMA;LATIN SMALL LETTER RAMS HORN;LATIN SMALL LETTER TURNED H;",
      "LATIN SMALL LETTER H WITH HOOK;LATIN SMALL LETTER HENG WITH HOOK;",
      "LATIN SMALL LETTER I WITH STROKE;LATIN SMALL LETTER IOTA;LATIN LETTER SMALL CAPITAL I;",
      "LATIN SMALL LETTER L WITH MIDDLE TILDE;LATIN SMALL LETTER L WITH BELT;",
      "LATIN SMALL LETTER L WITH RETROFLEX HOOK;LATIN SMALL LETTER LEZH;",
      "LATIN SMALL LETTER TURNED M;LATIN SMALL LETTER TURNED M WITH LONG LEG;",
      "LATIN SMALL LETTER M WITH HOOK;LATIN SMALL LETTER N WITH LEFT HOOK;",
      "LATIN SMALL LETTER N WITH RETROFLEX HOOK;LATIN LETTER SMALL CAPITAL N;",
      "LATIN SMALL LETTER BARRED O;LATIN LETTER SMALL CAPITAL OE;LATIN SMALL LETTER CLOSED OMEGA;",
      "LATIN SMALL LETTER PHI;LATIN SMALL LETTER TURNED R;",
      "LATIN SMALL LETTER TURNED R WITH LONG LEG;LATIN SMALL LETTER TURNED R WITH HOOK;",
      "LATIN SMALL LETTER R WITH LONG LEG;LATIN SMALL LETTER R WITH TAIL;",
      "LATIN SMALL LETTER R WITH FISHHOOK;LATIN SMALL LETTER REVERSED R WITH FISHHOOK;",
      "LATIN LETTER SMALL CAPITAL R;LATIN LETTER SMALL CAPITAL INVERTED R;",
      "LATIN SMALL LETTER S WITH HOOK;LATIN SMALL LETTER ESH;",
      "LATIN SMALL LETTER DOTLESS J WITH STROKE AND HOOK;LATIN SMALL LETTER SQUAT REVERSED ESH;",
      "LATIN SMALL LETTER ESH WITH CURL;LATIN SMALL LETTER TURNED T;",
      "LATIN SMALL LETTER T WITH RETROFLEX HOOK;LATIN SMALL LETTER U BAR;",
      "LATIN SMALL LETTER UPSILON;LATIN SMALL LETTER V WITH HOOK;LATIN SMALL LETTER TURNED V;",
      "LATIN SMALL LETTER TURNED W;LATIN SMALL LETTER TURNED Y;LATIN LETTER SMALL CAPITAL Y;",
      "LATIN SMALL LETTER Z WITH RETROFLEX HOOK;LATIN SMALL LETTER Z WITH CURL;",
      "LATIN SMALL LETTER EZH;LATIN SMALL LETTER EZH WITH CURL;LATIN LETTER GLOTTAL STOP;",
      "LATIN LETTER PHARYNGEAL VOICED FRICATIVE;LATIN LETTER INVERTED GLOTTAL STOP;",
      "LATIN LETTER STRETCHED C;LATIN LETTER BILABIAL CLICK;LATIN LETTER SMALL CAPITAL B;",
      "LATIN SMALL LETTER CLOSED OPEN E;LATIN LETTER SMALL CAPITAL G WITH HOOK;",
      "LATIN LETTER SMALL CAPITAL H;LATIN SMALL LETTER J WITH CROSSED-TAIL;",
      "LATIN SMALL LETTER TURNED K;LATIN LETTER SMALL CAPITAL L;LATIN SMALL LETTER Q WITH HOOK;",
      "LATIN LETTER GLOTTAL STOP WITH STROKE;LATIN LETTER REVERSED GLOTTAL STOP WITH STROKE;",
      "LATIN SMALL LETTER DZ DIGRAPH;LATIN SMALL LETTER DEZH DIGRAPH;",
      "LATIN SMALL LETTER DZ DIGRAPH WITH CURL;LATIN SMALL LETTER TS DIGRAPH;",
      "LATIN SMALL LETTER TESH DIGRAPH;LATIN SMALL LETTER TC DIGRAPH WITH CURL;",
      "LATIN SMALL LETTER FENG DIGRAPH;LATIN SMALL LETTER LS DIGRAPH;LATIN SMALL LETTER LZ DIGRAPH;",
      "LATIN LETTER BILABIAL PERCUSSIVE;LATIN LETTER BIDENTAL PERCUSSIVE;",
      "LATIN SMALL LETTER TURNED H WITH FISHHOOK;",
      "LATIN SMALL LETTER TURNED H WITH FISHHOOK AND TAIL;MODIFIER LETTER SMALL H;",
      "MODIFIER LETTER SMALL H WITH HOOK;MODIFIER LETTER SMALL J;MODIFIER LETTER SMALL R;",
      "MODIFIER LETTER SMALL TURNED R;MODIFIER LETTER SMALL TURNED R WITH HOOK;",
      "MODIFIER LETTER SMALL CAPITAL INVERTED R;MODIFIER LETTER SMALL W;MODIFIER LETTER SMALL Y;",
      "MODIFIER LETTER PRIME;MODIFIER LETTER DOUBLE PRIME;MODIFIER LETTER TURNED COMMA;",
      "MODIFIER LETTER APOSTROPHE;MODIFIER LETTER REVERSED COMMA;MODIFIER LETTER RIGHT HALF RING;",
      "MODIFIER LETTER LEFT HALF RING;MODIFIER LETTER GLOTTAL STOP;",
      "MODIFIER LETTER REVERSED GLOTTAL STOP;MODIFIER LETTER LEFT ARROWHEAD;",
      "MODIFIER LETTER RIGHT ARROWHEAD;MODIFIER LETTER UP ARROWHEAD;MODIFIER LETTER DOWN ARROWHEAD;",
      "MODIFIER LETTER CIRCUMFLEX ACCENT;CARON;MODIFIER LETTER VERTICAL LINE;",
      "MODIFIER LETTER MACRON;MODIFIER LETTER ACUTE ACCENT;MODIFIER LETTER GRAVE ACCENT;",
      "MODIFIER LETTER LOW VERTICAL LINE;MODIFIER LETTER LOW MACRON;",
      "MODIFIER LETTER LOW GRAVE ACCENT;MODIFIER LETTER LOW ACUTE ACCENT;",
      "MODIFIER LETTER TRIANGULAR COLON;MODIFIER LETTER HALF TRIANGULAR COLON;",
      "MODIFIER LETTER CENTRED RIGHT HALF RING;MODIFIER LETTER CENTRED LEFT HALF RING;",
      "MODIFIER LETTER UP TACK;MODIFIER LETTER DOWN TACK;MODIFIER LETTER PLUS SIGN;",
      "MODIFIER LETTER MINUS SIGN;BREVE;DOT ABOVE;RING ABOVE;OGONEK;SMALL TILDE;",
      "DOUBLE ACUTE ACCENT;MODIFIER LETTER RHOTIC HOOK;MODIFIER LETTER CROSS ACCENT;",
      "MODIFIER LETTER SMALL GAMMA;MODIFIER LETTER SMALL L;MODIFIER LETTER SMALL S;",
      "MODIFIER LETTER SMALL X;MODIFIER LETTER SMALL REVERSED GLOTTAL STOP;",
      "MODIFIER LETTER EXTRA-HIGH TONE BAR;MODIFIER LETTER HIGH TONE BAR;",
      "MODIFIER LETTER MID TONE BAR;MODIFIER LETTER LOW TONE BAR;",
      "MODIFIER LETTER EXTRA-LOW TONE BAR;MODIFIER LETTER YIN DEPARTING TONE MARK;",
      "MODIFIER LETTER YANG DEPARTING TONE MARK;MODIFIER LETTER VOICING;",
      "MODIFIER LETTER UNASPIRATED;MODIFIER LETTER DOUBLE APOSTROPHE;",
      "MODIFIER LETTER LOW DOWN ARROWHEAD;MODIFIER LETTER LOW UP ARROWHEAD;",
      "MODIFIER LETTER LOW LEFT ARROWHEAD;MODIFIER LETTER LOW RIGHT ARROWHEAD;",
      "MODIFIER LETTER LOW RING;MODIFIER LETTER MIDDLE GRAVE ACCENT;",
      "MODIFIER LETTER MIDDLE DOUBLE GRAVE ACCENT;MODIFIER LETTER MIDDLE DOUBLE ACUTE ACCENT;",
      "MODIFIER LETTER LOW TILDE;MODIFIER LETTER RAISED COLON;MODIFIER LETTER BEGIN HIGH TONE;",
      "MODIFIER LETTER END HIGH TONE;MODIFIER LETTER BEGIN LOW TONE;MODIFIER LETTER END LOW TONE;",
      "MODIFIER LETTER SHELF;MODIFIER LETTER OPEN SHELF;MODIFIER LETTER LOW LEFT ARROW;",
      "COMBINING GRAVE ACCENT;COMBINING ACUTE ACCENT;COMBINING CIRCUMFLEX ACCENT;COMBINING TILDE;",
      "COMBINING MACRON;COMBINING OVERLINE;COMBINING BREVE;COMBINING DOT ABOVE;COMBINING DIAERESIS;",
      "COMBINING HOOK ABOVE;COMBINING RING ABOVE;COMBINING DOUBLE ACUTE ACCENT;COMBINING CARON;",
      "COMBINING VERTICAL LINE ABOVE;COMBINING DOUBLE VERTICAL LINE ABOVE;",
      "COMBINING DOUBLE GRAVE ACCENT;COMBINING CANDRABINDU;COMBINING INVERTED BREVE;",
      "COMBINING TURNED COMMA ABOVE;COMBINING COMMA ABOVE;COMBINING REVERSED COMMA ABOVE;",
      "COMBINING COMMA ABOVE RIGHT;COMBINING GRAVE ACCENT BELOW;COMBINING ACUTE ACCENT BELOW;",
      "COMBINING LEFT TACK BELOW;COMBINING RIGHT TACK BELOW;COMBINING LEFT ANGLE ABOVE;",
      "COMBINING HORN;COMBINING LEFT HALF RING BELOW;COMBINING UP TACK BELOW;",
      "COMBINING DOWN TACK BELOW;COMBINING PLUS SIGN BELOW;COMBINING MINUS SIGN BELOW;",
      "COMBINING PALATALIZED HOOK BELOW;COMBINING RETROFLEX HOOK BELOW;COMBINING DOT BELOW;",
      "COMBINING DIAERESIS BELOW;COMBINING RING BELOW;COMBINING COMMA BELOW;COMBINING CEDILLA;",
      "COMBINING OGONEK;COMBINING VERTICAL LINE BELOW;COMBINING BRIDGE BELOW;",
      "COMBINING INVERTED DOUBLE ARCH BELOW;COMBINING CARON BELOW;",
      "COMBINING CIRCUMFLEX ACCENT BELOW;COMBINING BREVE BELOW;COMBINING INVERTED BREVE BELOW;",
      "COMBINING TILDE BELOW;COMBINING MACRON BELOW;COMBINING LOW LINE;COMBINING DOUBLE LOW LINE;",
      "COMBINING TILDE OVERLAY;COMBINING SHORT STROKE OVERLAY;COMBINING LONG STROKE OVERLAY;",
      "COMBINING SHORT SOLIDUS OVERLAY;COMBINING LONG SOLIDUS OVERLAY;",
      "COMBINING RIGHT HALF RING BELOW;COMBINING INVERTED BRIDGE BELOW;COMBINING SQUARE BELOW;",
      "COMBINING SEAGULL BELOW;COMBINING X ABOVE;COMBINING VERTICAL TILDE;",
      "COMBINING DOUBLE OVERLINE;COMBINING GRAVE TONE MARK;COMBINING ACUTE TONE MARK;",
      "COMBINING GREEK PERISPOMENI;COMBINING GREEK KORONIS;COMBINING GREEK DIALYTIKA TONOS;",
      "COMBINING GREEK YPOGEGRAMMENI;COMBINING BRIDGE ABOVE;COMBINING EQUALS SIGN BELOW;",
      "COMBINING DOUBLE VERTICAL LINE BELOW;COMBINING LEFT ANGLE BELOW;COMBINING NOT TILDE ABOVE;",
      "COMBINING HOMOTHETIC ABOVE;COMBINING ALMOST EQUAL TO ABOVE;COMBINING LEFT RIGHT ARROW BELOW;",
      "COMBINING UPWARDS ARROW BELOW;COMBINING GRAPHEME JOINER;COMBINING RIGHT ARROWHEAD ABOVE;",
      "COMBINING LEFT HALF RING ABOVE;COMBINING FERMATA;COMBINING X BELOW;",
      "COMBINING LEFT ARROWHEAD BELOW;COMBINING RIGHT ARROWHEAD BELOW;",
      "COMBINING RIGHT ARROWHEAD AND UP ARROWHEAD BELOW;COMBINING RIGHT HALF RING ABOVE;",
      "COMBINING DOT ABOVE RIGHT;COMBINING ASTERISK BELOW;COMBINING DOUBLE RING BELOW;",
      "COMBINING ZIGZAG ABOVE;COMBINING DOUBLE BREVE BELOW;COMBINING DOUBLE BREVE;",
      "COMBINING DOUBLE MACRON;COMBINING DOUBLE MACRON BELOW;COMBINING DOUBLE TILDE;",
      "COMBINING DOUBLE INVERTED BREVE;COMBINING DOUBLE RIGHTWARDS ARROW BELOW;",
      "COMBINING LATIN SMALL LETTER A;COMBINING LATIN SMALL LETTER E;",
      "COMBINING LATIN SMALL LETTER I;COMBINING LATIN SMALL LETTER O;",
      "COMBINING LATIN SMALL LETTER U;COMBINING LATIN SMALL LETTER C;",
      "COMBINING LATIN SMALL LETTER D;COMBINING LATIN SMALL LETTER H;",
      "COMBINING LATIN SMALL LETTER M;COMBINING LATIN SMALL LETTER R;",
      "COMBINING LATIN SMALL LETTER T;COMBINING LATIN SMALL LETTER V;",
      "COMBINING LATIN SMALL LETTER X;"]),
    (0x1E00, ["LATIN CAPITAL LETTER A WITH RING BELOW;LATIN SMALL LETTER A WITH RING BELOW;",
      "LATIN CAPITAL LETTER B WITH DOT ABOVE;LATIN SMALL LETTER B WITH DOT ABOVE;",
      "LATIN CAPITAL LETTER B WITH DOT BELOW;LATIN SMALL LETTER B WITH DOT BELOW;",
      "LATIN CAPITAL LETTER B WITH LINE BELOW;LATIN SMALL LETTER B WITH LINE BELOW;",
      "LATIN CAPITAL LETTER C WITH CEDILLA AND ACUTE;LATIN SMALL LETTER C WITH CEDILLA AND ACUTE;",
      "LATIN CAPITAL LETTER D WITH DOT ABOVE;LATIN SMALL LETTER D WITH DOT ABOVE;",
      "LATIN CAPITAL LETTER D WITH DOT BELOW;LATIN SMALL LETTER D WITH DOT BELOW;",
      "LATIN CAPITAL LETTER D WITH LINE BELOW;LATIN SMALL LETTER D WITH LINE BELOW;",
      "LATIN CAPITAL LETTER D WITH CEDILLA;LATIN SMALL LETTER D WITH CEDILLA;",
      "LATIN CAPITAL LETTER D WITH CIRCUMFLEX BELOW;LATIN SMALL LETTER D WITH CIRCUMFLEX BELOW;",
      "LATIN CAPITAL LETTER E WITH MACRON AND GRAVE;LATIN SMALL LETTER E WITH MACRON AND GRAVE;",
      "LATIN CAPITAL LETTER E WITH MACRON AND ACUTE;LATIN SMALL LETTER E WITH MACRON AND ACUTE;",
      "LATIN CAPITAL LETTER E WITH CIRCUMFLEX BELOW;LATIN SMALL LETTER E WITH CIRCUMFLEX BELOW;",
      "LATIN CAPITAL LETTER E WITH TILDE BELOW;LATIN SMALL LETTER E WITH TILDE BELOW;",
      "LATIN CAPITAL LETTER E WITH CEDILLA AND BREVE;LATIN SMALL LETTER E WITH CEDILLA AND BREVE;",
      "LATIN CAPITAL LETTER F WITH DOT ABOVE;LATIN SMALL LETTER F WITH DOT ABOVE;",
      "LATIN CAPITAL LETTER G WITH MACRON;LATIN SMALL LETTER G WITH MACRON;",
      "LATIN CAPITAL LETTER H WITH DOT ABOVE;LATIN SMALL LETTER H WITH DOT ABOVE;",
      "LATIN CAPITAL LETTER H WITH DOT BELOW;LATIN SMALL LETTER H WITH DOT BELOW;",
      "LATIN CAPITAL LETTER H WITH DIAERESIS;LATIN SMALL LETTER H WITH DIAERESIS;",
      "LATIN CAPITAL LETTER H WITH CEDILLA;LATIN SMALL LETTER H WITH CEDILLA;",
      "LATIN CAPITAL LETTER H WITH BREVE BELOW;LATIN SMALL LETTER H WITH BREVE BELOW;",
      "LATIN CAPITAL LETTER I WITH TILDE BELOW;LATIN SMALL LETTER I WITH TILDE BELOW;",
      "LATIN CAPITAL LETTER I WITH DIAERESIS AND ACUTE;",
      "LATIN SMALL LETTER I WITH DIAERESIS AND ACUTE;LATIN CAPITAL LETTER K WITH ACUTE;",
      "LATIN SMALL LETTER K WITH ACUTE;LATIN CAPITAL LETTER K WITH DOT BELOW;",
      "LATIN SMALL LETTER K WITH DOT BELOW;LATIN CAPITAL LETTER K WITH LINE BELOW;",
      "LATIN SMALL LETTER K WITH LINE BELOW;LATIN CAPITAL LETTER L WITH DOT BELOW;",
      "LATIN SMALL LETTER L WITH DOT BELOW;LATIN CAPITAL LETTER L WITH DOT BELOW AND MACRON;",
      "LATIN SMALL LETTER L WITH DOT BELOW AND MACRON;LATIN CAPITAL LETTER L WITH LINE BELOW;",
      "LATIN SMALL LETTER L WITH LINE BELOW;LATIN CAPITAL LETTER L WITH CIRCUMFLEX BELOW;",
      "LATIN SMALL LETTER L WITH CIRCUMFLEX BELOW;LATIN CAPITAL LETTER M WITH ACUTE;",
      "LATIN SMALL LETTER M WITH ACUTE;LATIN CAPITAL LETTER M WITH DOT ABOVE;",
      "LATIN SMALL LETTER M WITH DOT ABOVE;LATIN CAPITAL LETTER M WITH DOT BELOW;",
      "LATIN SMALL LETTER M WITH DOT BELOW;LATIN CAPITAL LETTER N WITH DOT ABOVE;",
      "LATIN SMALL LETTER N WITH DOT ABOVE;LATIN CAPITAL LETTER N WITH DOT BELOW;",
      "LATIN SMALL LETTER N WITH DOT BELOW;LATIN CAPITAL LETTER N WITH LINE BELOW;",
      "LATIN SMALL LETTER N WITH LINE BELOW;LATIN CAPITAL LETTER N WITH CIRCUMFLEX BELOW;",
      "LATIN SMALL LETTER N WITH CIRCUMFLEX BELOW;LATIN CAPITAL LETTER O WITH TILDE AND ACUTE;",
      "LATIN SMALL LETTER O WITH TILDE AND ACUTE;LATIN CAPITAL LETTER O WITH TILDE AND DIAERESIS;",
      "LATIN SMALL LETTER O WITH TILDE AND DIAERESIS;LATIN CAPITAL LETTER O WITH MACRON AND GRAVE;",
      "LATIN SMALL LETTER O WITH MACRON AND GRAVE;LATIN CAPITAL LETTER O WITH MACRON AND ACUTE;",
      "LATIN SMALL LETTER O WITH MACRON AND ACUTE;LATIN CAPITAL LETTER P WITH ACUTE;",
      "LATIN SMALL LETTER P WITH ACUTE;LATIN CAPITAL LETTER P WITH DOT ABOVE;",
      "LATIN SMALL LETTER P WITH DOT ABOVE;LATIN CAPITAL LETTER R WITH DOT ABOVE;",
      "LATIN SMALL LETTER R WITH DOT ABOVE;LATIN CAPITAL LETTER R WITH DOT BELOW;",
      "LATIN SMALL LETTER R WITH DOT BELOW;LATIN CAPITAL LETTER R WITH DOT BELOW AND MACRON;",
      "LATIN SMALL LETTER R WITH DOT BELOW AND MACRON;LATIN CAPITAL LETTER R WITH LINE BELOW;",
      "LATIN SMALL LETTER R WITH LINE BELOW;LATIN CAPITAL LETTER S WITH DOT ABOVE;",
      "LATIN SMALL LETTER S WITH DOT ABOVE;LATIN CAPITAL LETTER S WITH DOT BELOW;",
      "LATIN SMALL LETTER S WITH DOT BELOW;LATIN CAPITAL LETTER S WITH ACUTE AND DOT ABOVE;",
      "LATIN SMALL LETTER S WITH ACUTE AND DOT ABOVE;",
      "LATIN CAPITAL LETTER S WITH CARON AND DOT ABOVE;",
      "LATIN SMALL LETTER S WITH CARON AND DOT ABOVE;",
      "LATIN CAPITAL LETTER S WITH DOT BELOW AND DOT ABOVE;",
      "LATIN SMALL LETTER S WITH DOT BELOW AND DOT ABOVE;LATIN CAPITAL LETTER T WITH DOT ABOVE;",
      "LATIN SMALL LETTER T WITH DOT ABOVE;LATIN CAPITAL LETTER T WITH DOT BELOW;",
      "LATIN SMALL LETTER T WITH DOT BELOW;LATIN CAPITAL LETTER T WITH LINE BELOW;",
      "LATIN SMALL LETTER T WITH LINE BELOW;LATIN CAPITAL LETTER T WITH CIRCUMFLEX BELOW;",
      "LATIN SMALL LETTER T WITH CIRCUMFLEX BELOW;LATIN CAPITAL LETTER U WITH DIAERESIS BELOW;",
      "LATIN SMALL LETTER U WITH DIAERESIS BELOW;LATIN CAPITAL LETTER U WITH TILDE BELOW;",
      "LATIN SMALL LETTER U WITH TILDE BELOW;LATIN CAPITAL LETTER U WITH CIRCUMFLEX BELOW;",
      "LATIN SMALL LETTER U WITH CIRCUMFLEX BELOW;LATIN CAPITAL LETTER U WITH TILDE AND ACUTE;",
      "LATIN SMALL LETTER U WITH TILDE AND ACUTE;LATIN CAPITAL LETTER U WITH MACRON AND DIAERESIS;",
      "LATIN SMALL LETTER U WITH MACRON AND DIAERESIS;LATIN CAPITAL LETTER V WITH TILDE;",
      "LATIN SMALL LETTER V WITH TILDE;LATIN CAPITAL LETTER V WITH DOT BELOW;",
      "LATIN SMALL LETTER V WITH DOT BELOW;LATIN CAPITAL LETTER W WITH GRAVE;",
      "LATIN SMALL LETTER W WITH GRAVE;LATIN CAPITAL LETTER W WITH ACUTE;",
      "LATIN SMALL LETTER W WITH ACUTE;LATIN CAPITAL LETTER W WITH DIAERESIS;",
      "LATIN SMALL LETTER W WITH DIAERESIS;LATIN CAPITAL LETTER W WITH DOT ABOVE;",
      "LATIN SMALL LETTER W WITH DOT ABOVE;LATIN CAPITAL LETTER W WITH DOT BELOW;",
      "LATIN SMALL LETTER W WITH DOT BELOW;LATIN CAPITAL LETTER X WITH DOT ABOVE;",
      "LATIN SMALL LETTER X WITH DOT ABOVE;LATIN CAPITAL LETTER X WITH DIAERESIS;",
      "LATIN SMALL LETTER X WITH DIAERESIS;LATIN CAPITAL LETTER Y WITH DOT ABOVE;",
      "LATIN SMALL LETTER Y WITH DOT ABOVE;LATIN CAPITAL LETTER Z WITH CIRCUMFLEX;",
      "LATIN SMALL LETTER Z WITH CIRCUMFLEX;LATIN CAPITAL LETTER Z WITH DOT BELOW;",
      "LATIN SMALL LETTER Z WITH DOT BELOW;LATIN CAPITAL LETTER Z WITH LINE BELOW;",
      "LATIN SMALL LETTER Z WITH LINE BELOW;LATIN SMALL LETTER H WITH LINE BELOW;",
      "LATIN SMALL LETTER T WITH DIAERESIS;LATIN SMALL LETTER W WITH RING ABOVE;",
      "LATIN SMALL LETTER Y WITH RING ABOVE;LATIN SMALL LETTER A WITH RIGHT HALF RING;",
      "LATIN SMALL LETTER LONG S WITH DOT ABOVE;LATIN SMALL LETTER LONG S WITH DIAGONAL STROKE;",
      "LATIN SMALL LETTER LONG S WITH HIGH STROKE;LATIN CAPITAL LETTER SHARP S;",
      "LATIN SMALL LETTER DELTA;LATIN CAPITAL LETTER A WITH DOT BELOW;",
      "LATIN SMALL LETTER A WITH DOT BELOW;LATIN CAPITAL LETTER A WITH HOOK ABOVE;",
      "LATIN SMALL LETTER A WITH HOOK ABOVE;LATIN CAPITAL LETTER A WITH CIRCUMFLEX AND ACUTE;",
      "LATIN SMALL LETTER A WITH CIRCUMFLEX AND ACUTE;",
      "LATIN CAPITAL LETTER A WITH CIRCUMFLEX AND GRAVE;",
      "LATIN SMALL LETTER A WITH CIRCUMFLEX AND GRAVE;",
      "LATIN CAPITAL LETTER A WITH CIRCUMFLEX AND HOOK ABOVE;",
      "LATIN SMALL LETTER A WITH CIRCUMFLEX AND HOOK ABOVE;",
      "LATIN CAPITAL LETTER A WITH CIRCUMFLEX AND TILDE;",
      "LATIN SMALL LETTER A WITH CIRCUMFLEX AND TILDE;",
      "LATIN CAPITAL LETTER A WITH CIRCUMFLEX AND DOT BELOW;",
      "LATIN SMALL LETTER A WITH CIRCUMFLEX AND DOT BELOW;",
      "LATIN CAPITAL LETTER A WITH BREVE AND ACUTE;LATIN SMALL LETTER A WITH BREVE AND ACUTE;",
      "LATIN CAPITAL LETTER A WITH BREVE AND GRAVE;LATIN SMALL LETTER A WITH BREVE AND GRAVE;",
      "LATIN CAPITAL LETTER A WITH BREVE AND HOOK ABOVE;",
      "LATIN SMALL LETTER A WITH BREVE AND HOOK ABOVE;LATIN CAPITAL LETTER A WITH BREVE AND TILDE;",
      "LATIN SMALL LETTER A WITH BREVE AND TILDE;LATIN CAPITAL LETTER A WITH BREVE AND DOT BELOW;",
      "LATIN SMALL LETTER A WITH BREVE AND DOT BELOW;LATIN CAPITAL LETTER E WITH DOT BELOW;",
      "LATIN SMALL LETTER E WITH DOT BELOW;LATIN CAPITAL LETTER E WITH HOOK ABOVE;",
      "LATIN SMALL LETTER E WITH HOOK ABOVE;LATIN CAPITAL LETTER E WITH TILDE;",
      "LATIN SMALL LETTER E WITH TILDE;LATIN CAPITAL LETTER E WITH CIRCUMFLEX AND ACUTE;",
      "LATIN SMALL LETTER E WITH CIRCUMFLEX AND ACUTE;",
      "LATIN CAPITAL LETTER E WITH CIRCUMFLEX AND GRAVE;",
      "LATIN SMALL LETTER E WITH CIRCUMFLEX AND GRAVE;",
      "LATIN CAPITAL LETTER E WITH CIRCUMFLEX AND HOOK ABOVE;",
      "LATIN SMALL LETTER E WITH CIRCUMFLEX AND HOOK ABOVE;",
      "LATIN CAPITAL LETTER E WITH CIRCUMFLEX AND TILDE;",
      "LATIN SMALL LETTER E WITH CIRCUMFLEX AND TILDE;",
      "LATIN CAPITAL LETTER E WITH CIRCUMFLEX AND DOT BELOW;",
      "LATIN SMALL LETTER E WITH CIRCUMFLEX AND DOT BELOW;LATIN CAPITAL LETTER I WITH HOOK ABOVE;",
      "LATIN SMALL LETTER I WITH HOOK ABOVE;LATIN CAPITAL LETTER I WITH DOT BELOW;",
      "LATIN SMALL LETTER I WITH DOT BELOW;LATIN CAPITAL LETTER O WITH DOT BELOW;",
      "LATIN SMALL LETTER O WITH DOT BELOW;LATIN CAPITAL LETTER O WITH HOOK ABOVE;",
      "LATIN SMALL LETTER O WITH HOOK ABOVE;LATIN CAPITAL LETTER O WITH CIRCUMFLEX AND ACUTE;",
      "LATIN SMALL LETTER O WITH CIRCUMFLEX AND ACUTE;",
      "LATIN CAPITAL LETTER O WITH CIRCUMFLEX AND GRAVE;",
      "LATIN SMALL LETTER O WITH CIRCUMFLEX AND GRAVE;",
      "LATIN CAPITAL LETTER O WITH CIRCUMFLEX AND HOOK ABOVE;",
      "LATIN SMALL LETTER O WITH CIRCUMFLEX AND HOOK ABOVE;",
      "LATIN CAPITAL LETTER O WITH CIRCUMFLEX AND TILDE;",
      "LATIN SMALL LETTER O WITH CIRCUMFLEX AND TILDE;",
      "LATIN CAPITAL LETTER O WITH CIRCUMFLEX AND DOT BELOW;",
      "LATIN SMALL LETTER O WITH CIRCUMFLEX AND DOT BELOW;",
      "LATIN CAPITAL LETTER O WITH HORN AND ACUTE;LATIN SMALL LETTER O WITH HORN AND ACUTE;",
      "LATIN CAPITAL LETTER O WITH HORN AND GRAVE;LATIN SMALL LETTER O WITH HORN AND GRAVE;",
      "LATIN CAPITAL LETTER O WITH HORN AND HOOK ABOVE;",
      "LATIN SMALL LETTER O WITH HORN AND HOOK ABOVE;LATIN CAPITAL LETTER O WITH HORN AND TILDE;",
      "LATIN SMALL LETTER O WITH HORN AND TILDE;LATIN CAPITAL LETTER O WITH HORN AND DOT BELOW;",
      "LATIN SMALL LETTER O WITH HORN AND DOT BELOW;LATIN CAPITAL LETTER U WITH DOT BELOW;",
      "LATIN SMALL LETTER U WITH DOT BELOW;LATIN CAPITAL LETTER U WITH HOOK ABOVE;",
      "LATIN SMALL LETTER U WITH HOOK ABOVE;LATIN CAPITAL LETTER U WITH HORN AND ACUTE;",
      "LATIN SMALL LETTER U WITH HORN AND ACUTE;LATIN CAPITAL LETTER U WITH HORN AND GRAVE;",
      "LATIN SMALL LETTER U WITH HORN AND GRAVE;LATIN CAPITAL LETTER U WITH HORN AND HOOK ABOVE;",
      "LATIN SMALL LETTER U WITH HORN AND HOOK ABOVE;LATIN CAPITAL LETTER U WITH HORN AND TILDE;",
      "LATIN SMALL LETTER U WITH HORN AND TILDE;LATIN CAPITAL LETTER U WITH HORN AND DOT BELOW;",
      "LATIN SMALL LETTER U WITH HORN AND DOT BELOW;LATIN CAPITAL LETTER Y WITH GRAVE;",
      "LATIN SMALL LETTER Y WITH GRAVE;LATIN CAPITAL LETTER Y WITH DOT BELOW;",
      "LATIN SMALL LETTER Y WITH DOT BELOW;LATIN CAPITAL LETTER Y WITH HOOK ABOVE;",
      "LATIN SMALL LETTER Y WITH HOOK ABOVE;LATIN CAPITAL LETTER Y WITH TILDE;",
      "LATIN SMALL LETTER Y WITH TILDE;LATIN CAPITAL LETTER MIDDLE-WELSH LL;",
      "LATIN SMALL LETTER MIDDLE-WELSH LL;LATIN CAPITAL LETTER MIDDLE-WELSH V;",
      "LATIN SMALL LETTER MIDDLE-WELSH V;LATIN CAPITAL LETTER Y WITH LOOP;",
      "LATIN SMALL LETTER Y WITH LOOP;"]),
    (0xFB00, ["LATIN SMALL LIGATURE FF;LATIN SMALL LIGATURE FI;LATIN SMALL LIGATURE FL;",
      "LATIN SMALL LIGATURE FFI;LATIN SMALL LIGATURE FFL;LATIN SMALL LIGATURE LONG S T;",
      "LATIN SMALL LIGATURE ST;"]),
    (0xFF01, ["FULLWIDTH EXCLAMATION MARK;FULLWIDTH QUOTATION MARK;FULLWIDTH NUMBER SIGN;",
      "FULLWIDTH DOLLAR SIGN;FULLWIDTH PERCENT SIGN;FULLWIDTH AMPERSAND;FULLWIDTH APOSTROPHE;",
      "FULLWIDTH LEFT PARENTHESIS;FULLWIDTH RIGHT PARENTHESIS;FULLWIDTH ASTERISK;",
      "FULLWIDTH PLUS SIGN;FULLWIDTH COMMA;FULLWIDTH HYPHEN-MINUS;FULLWIDTH FULL STOP;",
      "FULLWIDTH SOLIDUS;FULLWIDTH DIGIT ZERO;FULLWIDTH DIGIT ONE;FULLWIDTH DIGIT TWO;",
      "FULLWIDTH DIGIT THREE;FULLWIDTH DIGIT FOUR;FULLWIDTH DIGIT FIVE;FULLWIDTH DIGIT SIX;",
      "FULLWIDTH DIGIT SEVEN;FULLWIDTH DIGIT EIGHT;FULLWIDTH DIGIT NINE;FULLWIDTH COLON;",
      "FULLWIDTH SEMICOLON;FULLWIDTH LESS-THAN SIGN;FULLWIDTH EQUALS SIGN;",
      "FULLWIDTH GREATER-THAN SIGN;FULLWIDTH QUESTION MARK;FULLWIDTH COMMERCIAL AT;",
      "FULLWIDTH LATIN CAPITAL LETTER A;FULLWIDTH LATIN CAPITAL LETTER B;",
      "FULLWIDTH LATIN CAPITAL LETTER C;FULLWIDTH LATIN CAPITAL LETTER D;",
      "FULLWIDTH LATIN CAPITAL LETTER E;FULLWIDTH LATIN CAPITAL LETTER F;",
      "FULLWIDTH LATIN CAPITAL LETTER G;FULLWIDTH LATIN CAPITAL LETTER H;",
      "FULLWIDTH LATIN CAPITAL LETTER I;FULLWIDTH LATIN CAPITAL LETTER J;",
      "FULLWIDTH LATIN CAPITAL LETTER K;FULLWIDTH LATIN CAPITAL LETTER L;",
      "FULLWIDTH LATIN CAPITAL LETTER M;FULLWIDTH LATIN CAPITAL LETTER N;",
      "FULLWIDTH LATIN CAPITAL LETTER O;FULLWIDTH LATIN CAPITAL LETTER P;",
      "FULLWIDTH LATIN CAPITAL LETTER Q;FULLWIDTH LATIN CAPITAL LETTER R;",
      "FULLWIDTH LATIN CAPITAL LETTER S;FULLWIDTH LATIN CAPITAL LETTER T;",
      "FULLWIDTH LATIN CAPITAL LETTER U;FULLWIDTH LATIN CAPITAL LETTER V;",
      "FULLWIDTH LATIN CAPITAL LETTER W;FULLWIDTH LATIN CAPITAL LETTER X;",
      "FULLWIDTH LATIN CAPITAL LETTER Y;FULLWIDTH LATIN CAPITAL LETTER Z;",
      "FULLWIDTH LEFT SQUARE BRACKET;FULLWIDTH REVERSE SOLIDUS;FULLWIDTH RIGHT SQUARE BRACKET;",
      "FULLWIDTH CIRCUMFLEX ACCENT;FULLWIDTH LOW LINE;FULLWIDTH GRAVE ACCENT;",
      "FULLWIDTH LATIN SMALL LETTER A;FULLWIDTH LATIN SMALL LETTER B;",
      "FULLWIDTH LATIN SMALL LETTER C;FULLWIDTH LATIN SMALL LETTER D;",
      "FULLWIDTH LATIN SMALL LETTER E;FULLWIDTH LATIN SMALL LETTER F;",
      "FULLWIDTH LATIN SMALL LETTER G;FULLWIDTH LATIN SMALL LETTER H;",
      "FULLWIDTH LATIN SMALL LETTER I;FULLWIDTH LATIN SMALL LETTER J;",
      "FULLWIDTH LATIN SMALL LETTER K;FULLWIDTH LATIN SMALL LETTER L;",
      "FULLWIDTH LATIN SMALL LETTER M;FULLWIDTH LATIN SMALL LETTER N;",
      "FULLWIDTH LATIN SMALL LETTER O;FULLWIDTH LATIN SMALL LETTER P;",
      "FULLWIDTH LATIN SMALL LETTER Q;FULLWIDTH LATIN SMALL LETTER R;",
      "FULLWIDTH LATIN SMALL LETTER S;FULLWIDTH LATIN SMALL LETTER T;",
      "FULLWIDTH LATIN SMALL LETTER U;FULLWIDTH LATIN SMALL LETTER V;",
      "FULLWIDTH LATIN SMALL LETTER W;FULLWIDTH LATIN SMALL LETTER X;",
      "FULLWIDTH LATIN SMALL LETTER Y;FULLWIDTH LATIN SMALL LETTER Z;FULLWIDTH LEFT CURLY BRACKET;",
      "FULLWIDTH VERTICAL LINE;FULLWIDTH RIGHT CURLY BRACKET;FULLWIDTH TILDE;",
      "FULLWIDTH LEFT WHITE PARENTHESIS;FULLWIDTH RIGHT WHITE PARENTHESIS;",
      "HALFWIDTH IDEOGRAPHIC FULL STOP;HALFWIDTH LEFT CORNER BRACKET;",
      "HALFWIDTH RIGHT CORNER BRACKET;HALFWIDTH IDEOGRAPHIC COMMA;HALFWIDTH KATAKANA MIDDLE DOT;",
      "HALFWIDTH KATAKANA LETTER WO;HALFWIDTH KATAKANA LETTER SMALL A;",
      "HALFWIDTH KATAKANA LETTER SMALL I;HALFWIDTH KATAKANA LETTER SMALL U;",
      "HALFWIDTH KATAKANA LETTER SMALL E;HALFWIDTH KATAKANA LETTER SMALL O;",
      "HALFWIDTH KATAKANA LETTER SMALL YA;HALFWIDTH KATAKANA LETTER SMALL YU;",
      "HALFWIDTH KATAKANA LETTER SMALL YO;HALFWIDTH KATAKANA LETTER SMALL TU;",
      "HALFWIDTH KATAKANA-HIRAGANA PROLONGED SOUND MARK;HALFWIDTH KATAKANA LETTER A;",
      "HALFWIDTH KATAKANA LETTER I;HALFWIDTH KATAKANA LETTER U;HALFWIDTH KATAKANA LETTER E;",
      "HALFWIDTH KATAKANA LETTER O;HALFWIDTH KATAKANA LETTER KA;HALFWIDTH KATAKANA LETTER KI;",
      "HALFWIDTH KATAKANA LETTER KU;HALFWIDTH KATAKANA LETTER KE;HALFWIDTH KATAKANA LETTER KO;",
      "HALFWIDTH KATAKANA LETTER SA;HALFWIDTH KATAKANA LETTER SI;HALFWIDTH KATAKANA LETTER SU;",
      "HALFWIDTH KATAKANA LETTER SE;HALFWIDTH KATAKANA LETTER SO;HALFWIDTH KATAKANA LETTER TA;",
      "HALFWIDTH KATAKANA LETTER TI;HALFWIDTH KATAKANA LETTER TU;HALFWIDTH KATAKANA LETTER TE;",
      "HALFWIDTH KATAKANA LETTER TO;HALFWIDTH KATAKANA LETTER NA;HALFWIDTH KATAKANA LETTER NI;",
      "HALFWIDTH KATAKANA LETTER NU;HALFWIDTH KATAKANA LETTER NE;HALFWIDTH KATAKANA LETTER NO;",
      "HALFWIDTH KATAKANA LETTER HA;HALFWIDTH KATAKANA LETTER HI;HALFWIDTH KATAKANA LETTER HU;",
      "HALFWIDTH KATAKANA LETTER HE;HALFWIDTH KATAKANA LETTER HO;HALFWIDTH KATAKANA LETTER MA;",
      "HALFWIDTH KATAKANA LETTER MI;HALFWIDTH KATAKANA LETTER MU;HALFWIDTH KATAKANA LETTER ME;",
      "HALFWIDTH KATAKANA LETTER MO;HALFWIDTH KATAKANA LETTER YA;HALFWIDTH KATAKANA LETTER YU;",
      "HALFWIDTH KATAKANA LETTER YO;HALFWIDTH KATAKANA LETTER RA;HALFWIDTH KATAKANA LETTER RI;",
      "HALFWIDTH KATAKANA LETTER RU;HALFWIDTH KATAKANA LETTER RE;HALFWIDTH KATAKANA LETTER RO;",
      "HALFWIDTH KATAKANA LETTER WA;HALFWIDTH KATAKANA LETTER N;",
      "HALFWIDTH KATAKANA VOICED SOUND MARK;HALFWIDTH KATAKANA SEMI-VOICED SOUND MARK;",
      "HALFWIDTH HANGUL FILLER;HALFWIDTH HANGUL LETTER KIYEOK;HALFWIDTH HANGUL LETTER SSANGKIYEOK;",
      "HALFWIDTH HANGUL LETTER KIYEOK-SIOS;HALFWIDTH HANGUL LETTER NIEUN;",
      "HALFWIDTH HANGUL LETTER NIEUN-CIEUC;HALFWIDTH HANGUL LETTER NIEUN-HIEUH;",
      "HALFWIDTH HANGUL LETTER TIKEUT;HALFWIDTH HANGUL LETTER SSANGTIKEUT;",
      "HALFWIDTH HANGUL LETTER RIEUL;HALFWIDTH HANGUL LETTER RIEUL-KIYEOK;",
      "HALFWIDTH HANGUL LETTER RIEUL-MIEUM;HALFWIDTH HANGUL LETTER RIEUL-PIEUP;",
      "HALFWIDTH HANGUL LETTER RIEUL-SIOS;HALFWIDTH HANGUL LETTER RIEUL-THIEUTH;",
      "HALFWIDTH HANGUL LETTER RIEUL-PHIEUPH;HALFWIDTH HANGUL LETTER RIEUL-HIEUH;",
      "HALFWIDTH HANGUL LETTER MIEUM;HALFWIDTH HANGUL LETTER PIEUP;",
      "HALFWIDTH HANGUL LETTER SSANGPIEUP;HALFWIDTH HANGUL LETTER PIEUP-SIOS;",
      "HALFWIDTH HANGUL LETTER SIOS;HALFWIDTH HANGUL LETTER SSANGSIOS;",
      "HALFWIDTH HANGUL LETTER IEUNG;HALFWIDTH HANGUL LETTER CIEUC;",
      "HALFWIDTH HANGUL LETTER SSANGCIEUC;HALFWIDTH HANGUL LETTER CHIEUCH;",
      "HALFWIDTH HANGUL LETTER KHIEUKH;HALFWIDTH HANGUL LETTER THIEUTH;",
      "HALFWIDTH HANGUL LETTER PHIEUPH;HALFWIDTH HANGUL LETTER HIEUH;;;;HALFWIDTH HANGUL LETTER A;",
      "HALFWIDTH HANGUL LETTER AE;HALFWIDTH HANGUL LETTER YA;HALFWIDTH HANGUL LETTER YAE;",
      "HALFWIDTH HANGUL LETTER EO;HALFWIDTH HANGUL LETTER E;;;HALFWIDTH HANGUL LETTER YEO;",
      "HALFWIDTH HANGUL LETTER YE;HALFWIDTH HANGUL LETTER O;HALFWIDTH HANGUL LETTER WA;",
      "HALFWIDTH HANGUL LETTER WAE;HALFWIDTH HANGUL LETTER OE;;;HALFWIDTH HANGUL LETTER YO;",
      "HALFWIDTH HANGUL LETTER U;HALFWIDTH HANGUL LETTER WEO;HALFWIDTH HANGUL LETTER WE;",
      "HALFWIDTH HANGUL LETTER WI;HALFWIDTH HANGUL LETTER YU;;;HALFWIDTH HANGUL LETTER EU;",
      "HALFWIDTH HANGUL LETTER YI;HALFWIDTH HANGUL LETTER I;;;;FULLWIDTH CENT SIGN;",
      "FULLWIDTH POUND SIGN;FULLWIDTH NOT SIGN;FULLWIDTH MACRON;FULLWIDTH BROKEN BAR;",
      "FULLWIDTH YEN SIGN;FULLWIDTH WON SIGN;;HALFWIDTH FORMS LIGHT VERTICAL;",
      "HALFWIDTH LEFTWARDS ARROW;HALFWIDTH UPWARDS ARROW;HALFWIDTH RIGHTWARDS ARROW;",
      "HALFWIDTH DOWNWARDS ARROW;HALFWIDTH BLACK SQUARE;HALFWIDTH WHITE CIRCLE;"])]

end Stepwise.Text.Names
