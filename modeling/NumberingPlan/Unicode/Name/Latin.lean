import NumberingPlan.Unicode.Name.Run

/-! Names of Latin and phonetic letters and of combining marks. -/

namespace NumberingPlan.Unicode

/-- Latin letters, and the signs beside them. -/
def latinNames : List NameRun := [
  ⟨0x0020, "",
    "SPACE;EXCLAMATION MARK;QUOTATION MARK;NUMBER SIGN;DOLLAR SIGN;PERCENT SIGN;AMPERSAND;"
    ++ "APOSTROPHE;LEFT PARENTHESIS;RIGHT PARENTHESIS;ASTERISK;PLUS SIGN;COMMA;HYPHEN-MINUS;"
    ++ "FULL STOP;SOLIDUS"⟩,
  ⟨0x003a, "",
    "COLON;SEMICOLON;LESS-THAN SIGN;EQUALS SIGN;GREATER-THAN SIGN;QUESTION MARK;COMMERCIAL AT"⟩,
  ⟨0x0041, "LATIN CAPITAL LETTER", "A;B;C;D;E;F;G;H;I;J;K;L;M;N;O;P;Q;R;S;T;U;V;W;X;Y;Z"⟩,
  ⟨0x005b, "",
    "LEFT SQUARE BRACKET;REVERSE SOLIDUS;RIGHT SQUARE BRACKET;CIRCUMFLEX ACCENT;LOW LINE;"
    ++ "GRAVE ACCENT"⟩,
  ⟨0x0061, "LATIN SMALL LETTER", "A;B;C;D;E;F;G;H;I;J;K;L;M;N;O;P;Q;R;S;T;U;V;W;X;Y;Z"⟩,
  ⟨0x007b, "", "LEFT CURLY BRACKET;VERTICAL LINE;RIGHT CURLY BRACKET;TILDE"⟩,
  ⟨0x00a0, "",
    "NO-BREAK SPACE;INVERTED EXCLAMATION MARK;CENT SIGN;POUND SIGN;CURRENCY SIGN;YEN SIGN;"
    ++ "BROKEN BAR;SECTION SIGN;DIAERESIS;COPYRIGHT SIGN;FEMININE ORDINAL INDICATOR;"
    ++ "LEFT-POINTING DOUBLE ANGLE QUOTATION MARK;NOT SIGN;SOFT HYPHEN;REGISTERED SIGN;MACRON;"
    ++ "DEGREE SIGN;PLUS-MINUS SIGN;SUPERSCRIPT TWO;SUPERSCRIPT THREE;ACUTE ACCENT;MICRO SIGN;"
    ++ "PILCROW SIGN;MIDDLE DOT;CEDILLA;SUPERSCRIPT ONE;MASCULINE ORDINAL INDICATOR;"
    ++ "RIGHT-POINTING DOUBLE ANGLE QUOTATION MARK;VULGAR FRACTION ONE QUARTER;"
    ++ "VULGAR FRACTION ONE HALF;VULGAR FRACTION THREE QUARTERS;INVERTED QUESTION MARK"⟩,
  ⟨0x00c0, "LATIN CAPITAL LETTER",
    "A WITH GRAVE;A WITH ACUTE;A WITH CIRCUMFLEX;A WITH TILDE;A WITH DIAERESIS;"
    ++ "A WITH RING ABOVE;AE;C WITH CEDILLA;E WITH GRAVE;E WITH ACUTE;E WITH CIRCUMFLEX;"
    ++ "E WITH DIAERESIS;I WITH GRAVE;I WITH ACUTE;I WITH CIRCUMFLEX;I WITH DIAERESIS;ETH;"
    ++ "N WITH TILDE;O WITH GRAVE;O WITH ACUTE;O WITH CIRCUMFLEX;O WITH TILDE;O WITH DIAERESIS"⟩,
  ⟨0x00d7, "MULTIPLICATION", "SIGN"⟩,
  ⟨0x00d8, "LATIN CAPITAL LETTER",
    "O WITH STROKE;U WITH GRAVE;U WITH ACUTE;U WITH CIRCUMFLEX;U WITH DIAERESIS;Y WITH ACUTE;"
    ++ "THORN"⟩,
  ⟨0x00df, "LATIN SMALL LETTER",
    "SHARP S;A WITH GRAVE;A WITH ACUTE;A WITH CIRCUMFLEX;A WITH TILDE;A WITH DIAERESIS;"
    ++ "A WITH RING ABOVE;AE;C WITH CEDILLA;E WITH GRAVE;E WITH ACUTE;E WITH CIRCUMFLEX;"
    ++ "E WITH DIAERESIS;I WITH GRAVE;I WITH ACUTE;I WITH CIRCUMFLEX;I WITH DIAERESIS;ETH;"
    ++ "N WITH TILDE;O WITH GRAVE;O WITH ACUTE;O WITH CIRCUMFLEX;O WITH TILDE;O WITH DIAERESIS"⟩,
  ⟨0x00f7, "DIVISION", "SIGN"⟩,
  ⟨0x00f8, "LATIN SMALL LETTER",
    "O WITH STROKE;U WITH GRAVE;U WITH ACUTE;U WITH CIRCUMFLEX;U WITH DIAERESIS;Y WITH ACUTE;"
    ++ "THORN;Y WITH DIAERESIS"⟩,
  ⟨0x0100, "LATIN",
    "CAPITAL LETTER A WITH MACRON;SMALL LETTER A WITH MACRON;CAPITAL LETTER A WITH BREVE;"
    ++ "SMALL LETTER A WITH BREVE;CAPITAL LETTER A WITH OGONEK;SMALL LETTER A WITH OGONEK;"
    ++ "CAPITAL LETTER C WITH ACUTE;SMALL LETTER C WITH ACUTE;CAPITAL LETTER C WITH CIRCUMFLEX;"
    ++ "SMALL LETTER C WITH CIRCUMFLEX;CAPITAL LETTER C WITH DOT ABOVE;"
    ++ "SMALL LETTER C WITH DOT ABOVE;CAPITAL LETTER C WITH CARON;SMALL LETTER C WITH CARON;"
    ++ "CAPITAL LETTER D WITH CARON;SMALL LETTER D WITH CARON;CAPITAL LETTER D WITH STROKE;"
    ++ "SMALL LETTER D WITH STROKE;CAPITAL LETTER E WITH MACRON;SMALL LETTER E WITH MACRON;"
    ++ "CAPITAL LETTER E WITH BREVE;SMALL LETTER E WITH BREVE;CAPITAL LETTER E WITH DOT ABOVE;"
    ++ "SMALL LETTER E WITH DOT ABOVE;CAPITAL LETTER E WITH OGONEK;SMALL LETTER E WITH OGONEK;"
    ++ "CAPITAL LETTER E WITH CARON;SMALL LETTER E WITH CARON;CAPITAL LETTER G WITH CIRCUMFLEX;"
    ++ "SMALL LETTER G WITH CIRCUMFLEX;CAPITAL LETTER G WITH BREVE;SMALL LETTER G WITH BREVE;"
    ++ "CAPITAL LETTER G WITH DOT ABOVE;SMALL LETTER G WITH DOT ABOVE;"
    ++ "CAPITAL LETTER G WITH CEDILLA;SMALL LETTER G WITH CEDILLA;"
    ++ "CAPITAL LETTER H WITH CIRCUMFLEX;SMALL LETTER H WITH CIRCUMFLEX;"
    ++ "CAPITAL LETTER H WITH STROKE;SMALL LETTER H WITH STROKE;CAPITAL LETTER I WITH TILDE;"
    ++ "SMALL LETTER I WITH TILDE;CAPITAL LETTER I WITH MACRON;SMALL LETTER I WITH MACRON;"
    ++ "CAPITAL LETTER I WITH BREVE;SMALL LETTER I WITH BREVE;CAPITAL LETTER I WITH OGONEK;"
    ++ "SMALL LETTER I WITH OGONEK;CAPITAL LETTER I WITH DOT ABOVE;SMALL LETTER DOTLESS I;"
    ++ "CAPITAL LIGATURE IJ;SMALL LIGATURE IJ;CAPITAL LETTER J WITH CIRCUMFLEX;"
    ++ "SMALL LETTER J WITH CIRCUMFLEX;CAPITAL LETTER K WITH CEDILLA;"
    ++ "SMALL LETTER K WITH CEDILLA;SMALL LETTER KRA;CAPITAL LETTER L WITH ACUTE;"
    ++ "SMALL LETTER L WITH ACUTE;CAPITAL LETTER L WITH CEDILLA;SMALL LETTER L WITH CEDILLA;"
    ++ "CAPITAL LETTER L WITH CARON;SMALL LETTER L WITH CARON;CAPITAL LETTER L WITH MIDDLE DOT;"
    ++ "SMALL LETTER L WITH MIDDLE DOT;CAPITAL LETTER L WITH STROKE;SMALL LETTER L WITH STROKE;"
    ++ "CAPITAL LETTER N WITH ACUTE;SMALL LETTER N WITH ACUTE;CAPITAL LETTER N WITH CEDILLA;"
    ++ "SMALL LETTER N WITH CEDILLA;CAPITAL LETTER N WITH CARON;SMALL LETTER N WITH CARON;"
    ++ "SMALL LETTER N PRECEDED BY APOSTROPHE;CAPITAL LETTER ENG;SMALL LETTER ENG;"
    ++ "CAPITAL LETTER O WITH MACRON;SMALL LETTER O WITH MACRON;CAPITAL LETTER O WITH BREVE;"
    ++ "SMALL LETTER O WITH BREVE;CAPITAL LETTER O WITH DOUBLE ACUTE;"
    ++ "SMALL LETTER O WITH DOUBLE ACUTE;CAPITAL LIGATURE OE;SMALL LIGATURE OE;"
    ++ "CAPITAL LETTER R WITH ACUTE;SMALL LETTER R WITH ACUTE;CAPITAL LETTER R WITH CEDILLA;"
    ++ "SMALL LETTER R WITH CEDILLA;CAPITAL LETTER R WITH CARON;SMALL LETTER R WITH CARON;"
    ++ "CAPITAL LETTER S WITH ACUTE;SMALL LETTER S WITH ACUTE;CAPITAL LETTER S WITH CIRCUMFLEX;"
    ++ "SMALL LETTER S WITH CIRCUMFLEX;CAPITAL LETTER S WITH CEDILLA;"
    ++ "SMALL LETTER S WITH CEDILLA;CAPITAL LETTER S WITH CARON;SMALL LETTER S WITH CARON;"
    ++ "CAPITAL LETTER T WITH CEDILLA;SMALL LETTER T WITH CEDILLA;CAPITAL LETTER T WITH CARON;"
    ++ "SMALL LETTER T WITH CARON;CAPITAL LETTER T WITH STROKE;SMALL LETTER T WITH STROKE;"
    ++ "CAPITAL LETTER U WITH TILDE;SMALL LETTER U WITH TILDE;CAPITAL LETTER U WITH MACRON;"
    ++ "SMALL LETTER U WITH MACRON;CAPITAL LETTER U WITH BREVE;SMALL LETTER U WITH BREVE;"
    ++ "CAPITAL LETTER U WITH RING ABOVE;SMALL LETTER U WITH RING ABOVE;"
    ++ "CAPITAL LETTER U WITH DOUBLE ACUTE;SMALL LETTER U WITH DOUBLE ACUTE;"
    ++ "CAPITAL LETTER U WITH OGONEK;SMALL LETTER U WITH OGONEK;"
    ++ "CAPITAL LETTER W WITH CIRCUMFLEX;SMALL LETTER W WITH CIRCUMFLEX;"
    ++ "CAPITAL LETTER Y WITH CIRCUMFLEX;SMALL LETTER Y WITH CIRCUMFLEX;"
    ++ "CAPITAL LETTER Y WITH DIAERESIS;CAPITAL LETTER Z WITH ACUTE;SMALL LETTER Z WITH ACUTE;"
    ++ "CAPITAL LETTER Z WITH DOT ABOVE;SMALL LETTER Z WITH DOT ABOVE;"
    ++ "CAPITAL LETTER Z WITH CARON;SMALL LETTER Z WITH CARON;SMALL LETTER LONG S;"
    ++ "SMALL LETTER B WITH STROKE;CAPITAL LETTER B WITH HOOK;CAPITAL LETTER B WITH TOPBAR;"
    ++ "SMALL LETTER B WITH TOPBAR;CAPITAL LETTER TONE SIX;SMALL LETTER TONE SIX;"
    ++ "CAPITAL LETTER OPEN O;CAPITAL LETTER C WITH HOOK;SMALL LETTER C WITH HOOK;"
    ++ "CAPITAL LETTER AFRICAN D;CAPITAL LETTER D WITH HOOK;CAPITAL LETTER D WITH TOPBAR;"
    ++ "SMALL LETTER D WITH TOPBAR;SMALL LETTER TURNED DELTA;CAPITAL LETTER REVERSED E;"
    ++ "CAPITAL LETTER SCHWA;CAPITAL LETTER OPEN E;CAPITAL LETTER F WITH HOOK;"
    ++ "SMALL LETTER F WITH HOOK;CAPITAL LETTER G WITH HOOK;CAPITAL LETTER GAMMA;"
    ++ "SMALL LETTER HV;CAPITAL LETTER IOTA;CAPITAL LETTER I WITH STROKE;"
    ++ "CAPITAL LETTER K WITH HOOK;SMALL LETTER K WITH HOOK;SMALL LETTER L WITH BAR;"
    ++ "SMALL LETTER LAMBDA WITH STROKE;CAPITAL LETTER TURNED M;CAPITAL LETTER N WITH LEFT HOOK;"
    ++ "SMALL LETTER N WITH LONG RIGHT LEG;CAPITAL LETTER O WITH MIDDLE TILDE;"
    ++ "CAPITAL LETTER O WITH HORN;SMALL LETTER O WITH HORN;CAPITAL LETTER OI;SMALL LETTER OI;"
    ++ "CAPITAL LETTER P WITH HOOK;SMALL LETTER P WITH HOOK;LETTER YR;CAPITAL LETTER TONE TWO;"
    ++ "SMALL LETTER TONE TWO;CAPITAL LETTER ESH;LETTER REVERSED ESH LOOP;"
    ++ "SMALL LETTER T WITH PALATAL HOOK;CAPITAL LETTER T WITH HOOK;SMALL LETTER T WITH HOOK;"
    ++ "CAPITAL LETTER T WITH RETROFLEX HOOK;CAPITAL LETTER U WITH HORN;"
    ++ "SMALL LETTER U WITH HORN;CAPITAL LETTER UPSILON;CAPITAL LETTER V WITH HOOK;"
    ++ "CAPITAL LETTER Y WITH HOOK;SMALL LETTER Y WITH HOOK;CAPITAL LETTER Z WITH STROKE;"
    ++ "SMALL LETTER Z WITH STROKE;CAPITAL LETTER EZH;CAPITAL LETTER EZH REVERSED;"
    ++ "SMALL LETTER EZH REVERSED;SMALL LETTER EZH WITH TAIL;LETTER TWO WITH STROKE;"
    ++ "CAPITAL LETTER TONE FIVE;SMALL LETTER TONE FIVE;"
    ++ "LETTER INVERTED GLOTTAL STOP WITH STROKE;LETTER WYNN;LETTER DENTAL CLICK;"
    ++ "LETTER LATERAL CLICK;LETTER ALVEOLAR CLICK;LETTER RETROFLEX CLICK;"
    ++ "CAPITAL LETTER DZ WITH CARON;CAPITAL LETTER D WITH SMALL LETTER Z WITH CARON;"
    ++ "SMALL LETTER DZ WITH CARON;CAPITAL LETTER LJ;CAPITAL LETTER L WITH SMALL LETTER J;"
    ++ "SMALL LETTER LJ;CAPITAL LETTER NJ;CAPITAL LETTER N WITH SMALL LETTER J;SMALL LETTER NJ;"
    ++ "CAPITAL LETTER A WITH CARON;SMALL LETTER A WITH CARON;CAPITAL LETTER I WITH CARON;"
    ++ "SMALL LETTER I WITH CARON;CAPITAL LETTER O WITH CARON;SMALL LETTER O WITH CARON;"
    ++ "CAPITAL LETTER U WITH CARON;SMALL LETTER U WITH CARON;"
    ++ "CAPITAL LETTER U WITH DIAERESIS AND MACRON;SMALL LETTER U WITH DIAERESIS AND MACRON;"
    ++ "CAPITAL LETTER U WITH DIAERESIS AND ACUTE;SMALL LETTER U WITH DIAERESIS AND ACUTE;"
    ++ "CAPITAL LETTER U WITH DIAERESIS AND CARON;SMALL LETTER U WITH DIAERESIS AND CARON;"
    ++ "CAPITAL LETTER U WITH DIAERESIS AND GRAVE;SMALL LETTER U WITH DIAERESIS AND GRAVE;"
    ++ "SMALL LETTER TURNED E;CAPITAL LETTER A WITH DIAERESIS AND MACRON;"
    ++ "SMALL LETTER A WITH DIAERESIS AND MACRON;CAPITAL LETTER A WITH DOT ABOVE AND MACRON;"
    ++ "SMALL LETTER A WITH DOT ABOVE AND MACRON;CAPITAL LETTER AE WITH MACRON;"
    ++ "SMALL LETTER AE WITH MACRON;CAPITAL LETTER G WITH STROKE;SMALL LETTER G WITH STROKE;"
    ++ "CAPITAL LETTER G WITH CARON;SMALL LETTER G WITH CARON;CAPITAL LETTER K WITH CARON;"
    ++ "SMALL LETTER K WITH CARON;CAPITAL LETTER O WITH OGONEK;SMALL LETTER O WITH OGONEK;"
    ++ "CAPITAL LETTER O WITH OGONEK AND MACRON;SMALL LETTER O WITH OGONEK AND MACRON;"
    ++ "CAPITAL LETTER EZH WITH CARON;SMALL LETTER EZH WITH CARON;SMALL LETTER J WITH CARON;"
    ++ "CAPITAL LETTER DZ;CAPITAL LETTER D WITH SMALL LETTER Z;SMALL LETTER DZ;"
    ++ "CAPITAL LETTER G WITH ACUTE;SMALL LETTER G WITH ACUTE;CAPITAL LETTER HWAIR;"
    ++ "CAPITAL LETTER WYNN;CAPITAL LETTER N WITH GRAVE;SMALL LETTER N WITH GRAVE;"
    ++ "CAPITAL LETTER A WITH RING ABOVE AND ACUTE;SMALL LETTER A WITH RING ABOVE AND ACUTE;"
    ++ "CAPITAL LETTER AE WITH ACUTE;SMALL LETTER AE WITH ACUTE;"
    ++ "CAPITAL LETTER O WITH STROKE AND ACUTE;SMALL LETTER O WITH STROKE AND ACUTE;"
    ++ "CAPITAL LETTER A WITH DOUBLE GRAVE;SMALL LETTER A WITH DOUBLE GRAVE;"
    ++ "CAPITAL LETTER A WITH INVERTED BREVE;SMALL LETTER A WITH INVERTED BREVE;"
    ++ "CAPITAL LETTER E WITH DOUBLE GRAVE;SMALL LETTER E WITH DOUBLE GRAVE;"
    ++ "CAPITAL LETTER E WITH INVERTED BREVE;SMALL LETTER E WITH INVERTED BREVE;"
    ++ "CAPITAL LETTER I WITH DOUBLE GRAVE;SMALL LETTER I WITH DOUBLE GRAVE;"
    ++ "CAPITAL LETTER I WITH INVERTED BREVE;SMALL LETTER I WITH INVERTED BREVE;"
    ++ "CAPITAL LETTER O WITH DOUBLE GRAVE;SMALL LETTER O WITH DOUBLE GRAVE;"
    ++ "CAPITAL LETTER O WITH INVERTED BREVE;SMALL LETTER O WITH INVERTED BREVE;"
    ++ "CAPITAL LETTER R WITH DOUBLE GRAVE;SMALL LETTER R WITH DOUBLE GRAVE;"
    ++ "CAPITAL LETTER R WITH INVERTED BREVE;SMALL LETTER R WITH INVERTED BREVE;"
    ++ "CAPITAL LETTER U WITH DOUBLE GRAVE;SMALL LETTER U WITH DOUBLE GRAVE;"
    ++ "CAPITAL LETTER U WITH INVERTED BREVE;SMALL LETTER U WITH INVERTED BREVE;"
    ++ "CAPITAL LETTER S WITH COMMA BELOW;SMALL LETTER S WITH COMMA BELOW;"
    ++ "CAPITAL LETTER T WITH COMMA BELOW;SMALL LETTER T WITH COMMA BELOW;CAPITAL LETTER YOGH;"
    ++ "SMALL LETTER YOGH;CAPITAL LETTER H WITH CARON;SMALL LETTER H WITH CARON;"
    ++ "CAPITAL LETTER N WITH LONG RIGHT LEG;SMALL LETTER D WITH CURL;CAPITAL LETTER OU;"
    ++ "SMALL LETTER OU;CAPITAL LETTER Z WITH HOOK;SMALL LETTER Z WITH HOOK;"
    ++ "CAPITAL LETTER A WITH DOT ABOVE;SMALL LETTER A WITH DOT ABOVE;"
    ++ "CAPITAL LETTER E WITH CEDILLA;SMALL LETTER E WITH CEDILLA;"
    ++ "CAPITAL LETTER O WITH DIAERESIS AND MACRON;SMALL LETTER O WITH DIAERESIS AND MACRON;"
    ++ "CAPITAL LETTER O WITH TILDE AND MACRON;SMALL LETTER O WITH TILDE AND MACRON;"
    ++ "CAPITAL LETTER O WITH DOT ABOVE;SMALL LETTER O WITH DOT ABOVE;"
    ++ "CAPITAL LETTER O WITH DOT ABOVE AND MACRON;SMALL LETTER O WITH DOT ABOVE AND MACRON;"
    ++ "CAPITAL LETTER Y WITH MACRON"⟩,
  ⟨0x0233, "LATIN SMALL LETTER",
    "Y WITH MACRON;L WITH CURL;N WITH CURL;T WITH CURL;DOTLESS J;DB DIGRAPH;QP DIGRAPH"⟩,
  ⟨0x023a, "LATIN",
    "CAPITAL LETTER A WITH STROKE;CAPITAL LETTER C WITH STROKE;SMALL LETTER C WITH STROKE;"
    ++ "CAPITAL LETTER L WITH BAR;CAPITAL LETTER T WITH DIAGONAL STROKE;"
    ++ "SMALL LETTER S WITH SWASH TAIL;SMALL LETTER Z WITH SWASH TAIL;"
    ++ "CAPITAL LETTER GLOTTAL STOP;SMALL LETTER GLOTTAL STOP;CAPITAL LETTER B WITH STROKE;"
    ++ "CAPITAL LETTER U BAR;CAPITAL LETTER TURNED V;CAPITAL LETTER E WITH STROKE;"
    ++ "SMALL LETTER E WITH STROKE;CAPITAL LETTER J WITH STROKE;SMALL LETTER J WITH STROKE;"
    ++ "CAPITAL LETTER SMALL Q WITH HOOK TAIL;SMALL LETTER Q WITH HOOK TAIL;"
    ++ "CAPITAL LETTER R WITH STROKE;SMALL LETTER R WITH STROKE;CAPITAL LETTER Y WITH STROKE;"
    ++ "SMALL LETTER Y WITH STROKE"⟩,
  ⟨0x1e00, "LATIN",
    "CAPITAL LETTER A WITH RING BELOW;SMALL LETTER A WITH RING BELOW;"
    ++ "CAPITAL LETTER B WITH DOT ABOVE;SMALL LETTER B WITH DOT ABOVE;"
    ++ "CAPITAL LETTER B WITH DOT BELOW;SMALL LETTER B WITH DOT BELOW;"
    ++ "CAPITAL LETTER B WITH LINE BELOW;SMALL LETTER B WITH LINE BELOW;"
    ++ "CAPITAL LETTER C WITH CEDILLA AND ACUTE;SMALL LETTER C WITH CEDILLA AND ACUTE;"
    ++ "CAPITAL LETTER D WITH DOT ABOVE;SMALL LETTER D WITH DOT ABOVE;"
    ++ "CAPITAL LETTER D WITH DOT BELOW;SMALL LETTER D WITH DOT BELOW;"
    ++ "CAPITAL LETTER D WITH LINE BELOW;SMALL LETTER D WITH LINE BELOW;"
    ++ "CAPITAL LETTER D WITH CEDILLA;SMALL LETTER D WITH CEDILLA;"
    ++ "CAPITAL LETTER D WITH CIRCUMFLEX BELOW;SMALL LETTER D WITH CIRCUMFLEX BELOW;"
    ++ "CAPITAL LETTER E WITH MACRON AND GRAVE;SMALL LETTER E WITH MACRON AND GRAVE;"
    ++ "CAPITAL LETTER E WITH MACRON AND ACUTE;SMALL LETTER E WITH MACRON AND ACUTE;"
    ++ "CAPITAL LETTER E WITH CIRCUMFLEX BELOW;SMALL LETTER E WITH CIRCUMFLEX BELOW;"
    ++ "CAPITAL LETTER E WITH TILDE BELOW;SMALL LETTER E WITH TILDE BELOW;"
    ++ "CAPITAL LETTER E WITH CEDILLA AND BREVE;SMALL LETTER E WITH CEDILLA AND BREVE;"
    ++ "CAPITAL LETTER F WITH DOT ABOVE;SMALL LETTER F WITH DOT ABOVE;"
    ++ "CAPITAL LETTER G WITH MACRON;SMALL LETTER G WITH MACRON;CAPITAL LETTER H WITH DOT ABOVE;"
    ++ "SMALL LETTER H WITH DOT ABOVE;CAPITAL LETTER H WITH DOT BELOW;"
    ++ "SMALL LETTER H WITH DOT BELOW;CAPITAL LETTER H WITH DIAERESIS;"
    ++ "SMALL LETTER H WITH DIAERESIS;CAPITAL LETTER H WITH CEDILLA;SMALL LETTER H WITH CEDILLA;"
    ++ "CAPITAL LETTER H WITH BREVE BELOW;SMALL LETTER H WITH BREVE BELOW;"
    ++ "CAPITAL LETTER I WITH TILDE BELOW;SMALL LETTER I WITH TILDE BELOW;"
    ++ "CAPITAL LETTER I WITH DIAERESIS AND ACUTE;SMALL LETTER I WITH DIAERESIS AND ACUTE;"
    ++ "CAPITAL LETTER K WITH ACUTE;SMALL LETTER K WITH ACUTE;CAPITAL LETTER K WITH DOT BELOW;"
    ++ "SMALL LETTER K WITH DOT BELOW;CAPITAL LETTER K WITH LINE BELOW;"
    ++ "SMALL LETTER K WITH LINE BELOW;CAPITAL LETTER L WITH DOT BELOW;"
    ++ "SMALL LETTER L WITH DOT BELOW;CAPITAL LETTER L WITH DOT BELOW AND MACRON;"
    ++ "SMALL LETTER L WITH DOT BELOW AND MACRON;CAPITAL LETTER L WITH LINE BELOW;"
    ++ "SMALL LETTER L WITH LINE BELOW;CAPITAL LETTER L WITH CIRCUMFLEX BELOW;"
    ++ "SMALL LETTER L WITH CIRCUMFLEX BELOW;CAPITAL LETTER M WITH ACUTE;"
    ++ "SMALL LETTER M WITH ACUTE;CAPITAL LETTER M WITH DOT ABOVE;SMALL LETTER M WITH DOT ABOVE;"
    ++ "CAPITAL LETTER M WITH DOT BELOW;SMALL LETTER M WITH DOT BELOW;"
    ++ "CAPITAL LETTER N WITH DOT ABOVE;SMALL LETTER N WITH DOT ABOVE;"
    ++ "CAPITAL LETTER N WITH DOT BELOW;SMALL LETTER N WITH DOT BELOW;"
    ++ "CAPITAL LETTER N WITH LINE BELOW;SMALL LETTER N WITH LINE BELOW;"
    ++ "CAPITAL LETTER N WITH CIRCUMFLEX BELOW;SMALL LETTER N WITH CIRCUMFLEX BELOW;"
    ++ "CAPITAL LETTER O WITH TILDE AND ACUTE;SMALL LETTER O WITH TILDE AND ACUTE;"
    ++ "CAPITAL LETTER O WITH TILDE AND DIAERESIS;SMALL LETTER O WITH TILDE AND DIAERESIS;"
    ++ "CAPITAL LETTER O WITH MACRON AND GRAVE;SMALL LETTER O WITH MACRON AND GRAVE;"
    ++ "CAPITAL LETTER O WITH MACRON AND ACUTE;SMALL LETTER O WITH MACRON AND ACUTE;"
    ++ "CAPITAL LETTER P WITH ACUTE;SMALL LETTER P WITH ACUTE;CAPITAL LETTER P WITH DOT ABOVE;"
    ++ "SMALL LETTER P WITH DOT ABOVE;CAPITAL LETTER R WITH DOT ABOVE;"
    ++ "SMALL LETTER R WITH DOT ABOVE;CAPITAL LETTER R WITH DOT BELOW;"
    ++ "SMALL LETTER R WITH DOT BELOW;CAPITAL LETTER R WITH DOT BELOW AND MACRON;"
    ++ "SMALL LETTER R WITH DOT BELOW AND MACRON;CAPITAL LETTER R WITH LINE BELOW;"
    ++ "SMALL LETTER R WITH LINE BELOW;CAPITAL LETTER S WITH DOT ABOVE;"
    ++ "SMALL LETTER S WITH DOT ABOVE;CAPITAL LETTER S WITH DOT BELOW;"
    ++ "SMALL LETTER S WITH DOT BELOW;CAPITAL LETTER S WITH ACUTE AND DOT ABOVE;"
    ++ "SMALL LETTER S WITH ACUTE AND DOT ABOVE;CAPITAL LETTER S WITH CARON AND DOT ABOVE;"
    ++ "SMALL LETTER S WITH CARON AND DOT ABOVE;CAPITAL LETTER S WITH DOT BELOW AND DOT ABOVE;"
    ++ "SMALL LETTER S WITH DOT BELOW AND DOT ABOVE;CAPITAL LETTER T WITH DOT ABOVE;"
    ++ "SMALL LETTER T WITH DOT ABOVE;CAPITAL LETTER T WITH DOT BELOW;"
    ++ "SMALL LETTER T WITH DOT BELOW;CAPITAL LETTER T WITH LINE BELOW;"
    ++ "SMALL LETTER T WITH LINE BELOW;CAPITAL LETTER T WITH CIRCUMFLEX BELOW;"
    ++ "SMALL LETTER T WITH CIRCUMFLEX BELOW;CAPITAL LETTER U WITH DIAERESIS BELOW;"
    ++ "SMALL LETTER U WITH DIAERESIS BELOW;CAPITAL LETTER U WITH TILDE BELOW;"
    ++ "SMALL LETTER U WITH TILDE BELOW;CAPITAL LETTER U WITH CIRCUMFLEX BELOW;"
    ++ "SMALL LETTER U WITH CIRCUMFLEX BELOW;CAPITAL LETTER U WITH TILDE AND ACUTE;"
    ++ "SMALL LETTER U WITH TILDE AND ACUTE;CAPITAL LETTER U WITH MACRON AND DIAERESIS;"
    ++ "SMALL LETTER U WITH MACRON AND DIAERESIS;CAPITAL LETTER V WITH TILDE;"
    ++ "SMALL LETTER V WITH TILDE;CAPITAL LETTER V WITH DOT BELOW;SMALL LETTER V WITH DOT BELOW;"
    ++ "CAPITAL LETTER W WITH GRAVE;SMALL LETTER W WITH GRAVE;CAPITAL LETTER W WITH ACUTE;"
    ++ "SMALL LETTER W WITH ACUTE;CAPITAL LETTER W WITH DIAERESIS;SMALL LETTER W WITH DIAERESIS;"
    ++ "CAPITAL LETTER W WITH DOT ABOVE;SMALL LETTER W WITH DOT ABOVE;"
    ++ "CAPITAL LETTER W WITH DOT BELOW;SMALL LETTER W WITH DOT BELOW;"
    ++ "CAPITAL LETTER X WITH DOT ABOVE;SMALL LETTER X WITH DOT ABOVE;"
    ++ "CAPITAL LETTER X WITH DIAERESIS;SMALL LETTER X WITH DIAERESIS;"
    ++ "CAPITAL LETTER Y WITH DOT ABOVE;SMALL LETTER Y WITH DOT ABOVE;"
    ++ "CAPITAL LETTER Z WITH CIRCUMFLEX;SMALL LETTER Z WITH CIRCUMFLEX;"
    ++ "CAPITAL LETTER Z WITH DOT BELOW;SMALL LETTER Z WITH DOT BELOW;"
    ++ "CAPITAL LETTER Z WITH LINE BELOW"⟩,
  ⟨0x1e95, "LATIN SMALL LETTER",
    "Z WITH LINE BELOW;H WITH LINE BELOW;T WITH DIAERESIS;W WITH RING ABOVE;"
    ++ "Y WITH RING ABOVE;A WITH RIGHT HALF RING;LONG S WITH DOT ABOVE;"
    ++ "LONG S WITH DIAGONAL STROKE;LONG S WITH HIGH STROKE"⟩,
  ⟨0x1e9e, "LATIN",
    "CAPITAL LETTER SHARP S;SMALL LETTER DELTA;CAPITAL LETTER A WITH DOT BELOW;"
    ++ "SMALL LETTER A WITH DOT BELOW;CAPITAL LETTER A WITH HOOK ABOVE;"
    ++ "SMALL LETTER A WITH HOOK ABOVE;CAPITAL LETTER A WITH CIRCUMFLEX AND ACUTE;"
    ++ "SMALL LETTER A WITH CIRCUMFLEX AND ACUTE;CAPITAL LETTER A WITH CIRCUMFLEX AND GRAVE;"
    ++ "SMALL LETTER A WITH CIRCUMFLEX AND GRAVE;"
    ++ "CAPITAL LETTER A WITH CIRCUMFLEX AND HOOK ABOVE;"
    ++ "SMALL LETTER A WITH CIRCUMFLEX AND HOOK ABOVE;"
    ++ "CAPITAL LETTER A WITH CIRCUMFLEX AND TILDE;SMALL LETTER A WITH CIRCUMFLEX AND TILDE;"
    ++ "CAPITAL LETTER A WITH CIRCUMFLEX AND DOT BELOW;"
    ++ "SMALL LETTER A WITH CIRCUMFLEX AND DOT BELOW;CAPITAL LETTER A WITH BREVE AND ACUTE;"
    ++ "SMALL LETTER A WITH BREVE AND ACUTE;CAPITAL LETTER A WITH BREVE AND GRAVE;"
    ++ "SMALL LETTER A WITH BREVE AND GRAVE;CAPITAL LETTER A WITH BREVE AND HOOK ABOVE;"
    ++ "SMALL LETTER A WITH BREVE AND HOOK ABOVE;CAPITAL LETTER A WITH BREVE AND TILDE;"
    ++ "SMALL LETTER A WITH BREVE AND TILDE;CAPITAL LETTER A WITH BREVE AND DOT BELOW;"
    ++ "SMALL LETTER A WITH BREVE AND DOT BELOW;CAPITAL LETTER E WITH DOT BELOW;"
    ++ "SMALL LETTER E WITH DOT BELOW;CAPITAL LETTER E WITH HOOK ABOVE;"
    ++ "SMALL LETTER E WITH HOOK ABOVE;CAPITAL LETTER E WITH TILDE;SMALL LETTER E WITH TILDE;"
    ++ "CAPITAL LETTER E WITH CIRCUMFLEX AND ACUTE;SMALL LETTER E WITH CIRCUMFLEX AND ACUTE;"
    ++ "CAPITAL LETTER E WITH CIRCUMFLEX AND GRAVE;SMALL LETTER E WITH CIRCUMFLEX AND GRAVE;"
    ++ "CAPITAL LETTER E WITH CIRCUMFLEX AND HOOK ABOVE;"
    ++ "SMALL LETTER E WITH CIRCUMFLEX AND HOOK ABOVE;"
    ++ "CAPITAL LETTER E WITH CIRCUMFLEX AND TILDE;SMALL LETTER E WITH CIRCUMFLEX AND TILDE;"
    ++ "CAPITAL LETTER E WITH CIRCUMFLEX AND DOT BELOW;"
    ++ "SMALL LETTER E WITH CIRCUMFLEX AND DOT BELOW;CAPITAL LETTER I WITH HOOK ABOVE;"
    ++ "SMALL LETTER I WITH HOOK ABOVE;CAPITAL LETTER I WITH DOT BELOW;"
    ++ "SMALL LETTER I WITH DOT BELOW;CAPITAL LETTER O WITH DOT BELOW;"
    ++ "SMALL LETTER O WITH DOT BELOW;CAPITAL LETTER O WITH HOOK ABOVE;"
    ++ "SMALL LETTER O WITH HOOK ABOVE;CAPITAL LETTER O WITH CIRCUMFLEX AND ACUTE;"
    ++ "SMALL LETTER O WITH CIRCUMFLEX AND ACUTE;CAPITAL LETTER O WITH CIRCUMFLEX AND GRAVE;"
    ++ "SMALL LETTER O WITH CIRCUMFLEX AND GRAVE;"
    ++ "CAPITAL LETTER O WITH CIRCUMFLEX AND HOOK ABOVE;"
    ++ "SMALL LETTER O WITH CIRCUMFLEX AND HOOK ABOVE;"
    ++ "CAPITAL LETTER O WITH CIRCUMFLEX AND TILDE;SMALL LETTER O WITH CIRCUMFLEX AND TILDE;"
    ++ "CAPITAL LETTER O WITH CIRCUMFLEX AND DOT BELOW;"
    ++ "SMALL LETTER O WITH CIRCUMFLEX AND DOT BELOW;CAPITAL LETTER O WITH HORN AND ACUTE;"
    ++ "SMALL LETTER O WITH HORN AND ACUTE;CAPITAL LETTER O WITH HORN AND GRAVE;"
    ++ "SMALL LETTER O WITH HORN AND GRAVE;CAPITAL LETTER O WITH HORN AND HOOK ABOVE;"
    ++ "SMALL LETTER O WITH HORN AND HOOK ABOVE;CAPITAL LETTER O WITH HORN AND TILDE;"
    ++ "SMALL LETTER O WITH HORN AND TILDE;CAPITAL LETTER O WITH HORN AND DOT BELOW;"
    ++ "SMALL LETTER O WITH HORN AND DOT BELOW;CAPITAL LETTER U WITH DOT BELOW;"
    ++ "SMALL LETTER U WITH DOT BELOW;CAPITAL LETTER U WITH HOOK ABOVE;"
    ++ "SMALL LETTER U WITH HOOK ABOVE;CAPITAL LETTER U WITH HORN AND ACUTE;"
    ++ "SMALL LETTER U WITH HORN AND ACUTE;CAPITAL LETTER U WITH HORN AND GRAVE;"
    ++ "SMALL LETTER U WITH HORN AND GRAVE;CAPITAL LETTER U WITH HORN AND HOOK ABOVE;"
    ++ "SMALL LETTER U WITH HORN AND HOOK ABOVE;CAPITAL LETTER U WITH HORN AND TILDE;"
    ++ "SMALL LETTER U WITH HORN AND TILDE;CAPITAL LETTER U WITH HORN AND DOT BELOW;"
    ++ "SMALL LETTER U WITH HORN AND DOT BELOW;CAPITAL LETTER Y WITH GRAVE;"
    ++ "SMALL LETTER Y WITH GRAVE;CAPITAL LETTER Y WITH DOT BELOW;SMALL LETTER Y WITH DOT BELOW;"
    ++ "CAPITAL LETTER Y WITH HOOK ABOVE;SMALL LETTER Y WITH HOOK ABOVE;"
    ++ "CAPITAL LETTER Y WITH TILDE;SMALL LETTER Y WITH TILDE;CAPITAL LETTER MIDDLE-WELSH LL;"
    ++ "SMALL LETTER MIDDLE-WELSH LL;CAPITAL LETTER MIDDLE-WELSH V;SMALL LETTER MIDDLE-WELSH V;"
    ++ "CAPITAL LETTER Y WITH LOOP;SMALL LETTER Y WITH LOOP"⟩,
  ⟨0x2c60, "LATIN",
    "CAPITAL LETTER L WITH DOUBLE BAR;SMALL LETTER L WITH DOUBLE BAR;"
    ++ "CAPITAL LETTER L WITH MIDDLE TILDE;CAPITAL LETTER P WITH STROKE;"
    ++ "CAPITAL LETTER R WITH TAIL;SMALL LETTER A WITH STROKE;"
    ++ "SMALL LETTER T WITH DIAGONAL STROKE;CAPITAL LETTER H WITH DESCENDER;"
    ++ "SMALL LETTER H WITH DESCENDER;CAPITAL LETTER K WITH DESCENDER;"
    ++ "SMALL LETTER K WITH DESCENDER;CAPITAL LETTER Z WITH DESCENDER;"
    ++ "SMALL LETTER Z WITH DESCENDER;CAPITAL LETTER ALPHA;CAPITAL LETTER M WITH HOOK;"
    ++ "CAPITAL LETTER TURNED A;CAPITAL LETTER TURNED ALPHA;SMALL LETTER V WITH RIGHT HOOK;"
    ++ "CAPITAL LETTER W WITH HOOK;SMALL LETTER W WITH HOOK;SMALL LETTER V WITH CURL;"
    ++ "CAPITAL LETTER HALF H"⟩,
  ⟨0x2c76, "LATIN SMALL LETTER",
    "HALF H;TAILLESS PHI;E WITH NOTCH;TURNED R WITH TAIL;O WITH LOW RING INSIDE"⟩,
  ⟨0x2c7b, "",
    "LATIN LETTER SMALL CAPITAL TURNED E;LATIN SUBSCRIPT SMALL LETTER J;"
    ++ "MODIFIER LETTER CAPITAL V;LATIN CAPITAL LETTER S WITH SWASH TAIL;"
    ++ "LATIN CAPITAL LETTER Z WITH SWASH TAIL"⟩,
  ⟨0xa720, "MODIFIER LETTER STRESS AND", "HIGH TONE;LOW TONE"⟩,
  ⟨0xa722, "LATIN",
    "CAPITAL LETTER EGYPTOLOGICAL ALEF;SMALL LETTER EGYPTOLOGICAL ALEF;"
    ++ "CAPITAL LETTER EGYPTOLOGICAL AIN;SMALL LETTER EGYPTOLOGICAL AIN;CAPITAL LETTER HENG;"
    ++ "SMALL LETTER HENG;CAPITAL LETTER TZ;SMALL LETTER TZ;CAPITAL LETTER TRESILLO;"
    ++ "SMALL LETTER TRESILLO;CAPITAL LETTER CUATRILLO;SMALL LETTER CUATRILLO;"
    ++ "CAPITAL LETTER CUATRILLO WITH COMMA;SMALL LETTER CUATRILLO WITH COMMA;"
    ++ "LETTER SMALL CAPITAL F;LETTER SMALL CAPITAL S;CAPITAL LETTER AA;SMALL LETTER AA;"
    ++ "CAPITAL LETTER AO;SMALL LETTER AO;CAPITAL LETTER AU;SMALL LETTER AU;CAPITAL LETTER AV;"
    ++ "SMALL LETTER AV;CAPITAL LETTER AV WITH HORIZONTAL BAR;"
    ++ "SMALL LETTER AV WITH HORIZONTAL BAR;CAPITAL LETTER AY;SMALL LETTER AY;"
    ++ "CAPITAL LETTER REVERSED C WITH DOT;SMALL LETTER REVERSED C WITH DOT;"
    ++ "CAPITAL LETTER K WITH STROKE;SMALL LETTER K WITH STROKE;"
    ++ "CAPITAL LETTER K WITH DIAGONAL STROKE;SMALL LETTER K WITH DIAGONAL STROKE;"
    ++ "CAPITAL LETTER K WITH STROKE AND DIAGONAL STROKE;"
    ++ "SMALL LETTER K WITH STROKE AND DIAGONAL STROKE;CAPITAL LETTER BROKEN L;"
    ++ "SMALL LETTER BROKEN L;CAPITAL LETTER L WITH HIGH STROKE;SMALL LETTER L WITH HIGH STROKE;"
    ++ "CAPITAL LETTER O WITH LONG STROKE OVERLAY;SMALL LETTER O WITH LONG STROKE OVERLAY;"
    ++ "CAPITAL LETTER O WITH LOOP;SMALL LETTER O WITH LOOP;CAPITAL LETTER OO;SMALL LETTER OO;"
    ++ "CAPITAL LETTER P WITH STROKE THROUGH DESCENDER;"
    ++ "SMALL LETTER P WITH STROKE THROUGH DESCENDER;CAPITAL LETTER P WITH FLOURISH;"
    ++ "SMALL LETTER P WITH FLOURISH;CAPITAL LETTER P WITH SQUIRREL TAIL;"
    ++ "SMALL LETTER P WITH SQUIRREL TAIL;CAPITAL LETTER Q WITH STROKE THROUGH DESCENDER;"
    ++ "SMALL LETTER Q WITH STROKE THROUGH DESCENDER;CAPITAL LETTER Q WITH DIAGONAL STROKE;"
    ++ "SMALL LETTER Q WITH DIAGONAL STROKE;CAPITAL LETTER R ROTUNDA;SMALL LETTER R ROTUNDA;"
    ++ "CAPITAL LETTER RUM ROTUNDA;SMALL LETTER RUM ROTUNDA;"
    ++ "CAPITAL LETTER V WITH DIAGONAL STROKE;SMALL LETTER V WITH DIAGONAL STROKE;"
    ++ "CAPITAL LETTER VY;SMALL LETTER VY;CAPITAL LETTER VISIGOTHIC Z;SMALL LETTER VISIGOTHIC Z;"
    ++ "CAPITAL LETTER THORN WITH STROKE;SMALL LETTER THORN WITH STROKE;"
    ++ "CAPITAL LETTER THORN WITH STROKE THROUGH DESCENDER;"
    ++ "SMALL LETTER THORN WITH STROKE THROUGH DESCENDER;CAPITAL LETTER VEND;SMALL LETTER VEND;"
    ++ "CAPITAL LETTER ET;SMALL LETTER ET;CAPITAL LETTER IS;SMALL LETTER IS;CAPITAL LETTER CON;"
    ++ "SMALL LETTER CON"⟩,
  ⟨0xa770, "MODIFIER LETTER", "US"⟩,
  ⟨0xa771, "LATIN SMALL LETTER", "DUM;LUM;MUM;NUM;RUM"⟩,
  ⟨0xa776, "LATIN",
    "LETTER SMALL CAPITAL RUM;SMALL LETTER TUM;SMALL LETTER UM;CAPITAL LETTER INSULAR D;"
    ++ "SMALL LETTER INSULAR D;CAPITAL LETTER INSULAR F;SMALL LETTER INSULAR F;"
    ++ "CAPITAL LETTER INSULAR G;CAPITAL LETTER TURNED INSULAR G;SMALL LETTER TURNED INSULAR G;"
    ++ "CAPITAL LETTER TURNED L;SMALL LETTER TURNED L;CAPITAL LETTER INSULAR R;"
    ++ "SMALL LETTER INSULAR R;CAPITAL LETTER INSULAR S;SMALL LETTER INSULAR S;"
    ++ "CAPITAL LETTER INSULAR T;SMALL LETTER INSULAR T"⟩,
  ⟨0xa788, "MODIFIER LETTER", "LOW CIRCUMFLEX ACCENT;COLON;SHORT EQUALS SIGN"⟩,
  ⟨0xa78b, "LATIN",
    "CAPITAL LETTER SALTILLO;SMALL LETTER SALTILLO;CAPITAL LETTER TURNED H;"
    ++ "SMALL LETTER L WITH RETROFLEX HOOK AND BELT;LETTER SINOLOGICAL DOT;"
    ++ "CAPITAL LETTER N WITH DESCENDER;SMALL LETTER N WITH DESCENDER;CAPITAL LETTER C WITH BAR;"
    ++ "SMALL LETTER C WITH BAR;SMALL LETTER C WITH PALATAL HOOK;"
    ++ "SMALL LETTER H WITH PALATAL HOOK;CAPITAL LETTER B WITH FLOURISH;"
    ++ "SMALL LETTER B WITH FLOURISH;CAPITAL LETTER F WITH STROKE;SMALL LETTER F WITH STROKE;"
    ++ "CAPITAL LETTER VOLAPUK AE;SMALL LETTER VOLAPUK AE;CAPITAL LETTER VOLAPUK OE;"
    ++ "SMALL LETTER VOLAPUK OE;CAPITAL LETTER VOLAPUK UE;SMALL LETTER VOLAPUK UE;"
    ++ "CAPITAL LETTER G WITH OBLIQUE STROKE;SMALL LETTER G WITH OBLIQUE STROKE;"
    ++ "CAPITAL LETTER K WITH OBLIQUE STROKE;SMALL LETTER K WITH OBLIQUE STROKE;"
    ++ "CAPITAL LETTER N WITH OBLIQUE STROKE;SMALL LETTER N WITH OBLIQUE STROKE;"
    ++ "CAPITAL LETTER R WITH OBLIQUE STROKE;SMALL LETTER R WITH OBLIQUE STROKE;"
    ++ "CAPITAL LETTER S WITH OBLIQUE STROKE;SMALL LETTER S WITH OBLIQUE STROKE"⟩,
  ⟨0xa7aa, "LATIN CAPITAL LETTER",
    "H WITH HOOK;REVERSED OPEN E;SCRIPT G;L WITH BELT;SMALL CAPITAL I"⟩,
  ⟨0xa7af, "LATIN LETTER SMALL CAPITAL", "Q"⟩,
  ⟨0xa7b0, "LATIN CAPITAL LETTER", "TURNED K;TURNED T;J WITH CROSSED-TAIL;CHI;BETA"⟩,
  ⟨0xa7b5, "LATIN",
    "SMALL LETTER BETA;CAPITAL LETTER OMEGA;SMALL LETTER OMEGA;CAPITAL LETTER U WITH STROKE;"
    ++ "SMALL LETTER U WITH STROKE;CAPITAL LETTER GLOTTAL A;SMALL LETTER GLOTTAL A;"
    ++ "CAPITAL LETTER GLOTTAL I;SMALL LETTER GLOTTAL I;CAPITAL LETTER GLOTTAL U;"
    ++ "SMALL LETTER GLOTTAL U;CAPITAL LETTER OLD POLISH O;SMALL LETTER OLD POLISH O;"
    ++ "CAPITAL LETTER ANGLICANA W;SMALL LETTER ANGLICANA W;CAPITAL LETTER C WITH PALATAL HOOK;"
    ++ "CAPITAL LETTER S WITH HOOK;CAPITAL LETTER Z WITH PALATAL HOOK;"
    ++ "CAPITAL LETTER D WITH SHORT STROKE OVERLAY;SMALL LETTER D WITH SHORT STROKE OVERLAY;"
    ++ "CAPITAL LETTER S WITH SHORT STROKE OVERLAY;SMALL LETTER S WITH SHORT STROKE OVERLAY"⟩,
  ⟨0xa7d0, "LATIN", "CAPITAL LETTER CLOSED INSULAR G;SMALL LETTER CLOSED INSULAR G"⟩,
  ⟨0xa7d3, "LATIN SMALL LETTER DOUBLE", "THORN"⟩,
  ⟨0xa7d5, "LATIN",
    "SMALL LETTER DOUBLE WYNN;CAPITAL LETTER MIDDLE SCOTS S;SMALL LETTER MIDDLE SCOTS S;"
    ++ "CAPITAL LETTER SIGMOID S;SMALL LETTER SIGMOID S"⟩,
  ⟨0xa7f2, "MODIFIER LETTER CAPITAL", "C;F;Q"⟩,
  ⟨0xa7f5, "",
    "LATIN CAPITAL LETTER REVERSED HALF H;LATIN SMALL LETTER REVERSED HALF H;"
    ++ "LATIN EPIGRAPHIC LETTER SIDEWAYS I;MODIFIER LETTER CAPITAL H WITH STROKE;"
    ++ "MODIFIER LETTER SMALL LIGATURE OE;LATIN LETTER SMALL CAPITAL TURNED M"⟩,
  ⟨0xa7fb, "LATIN EPIGRAPHIC LETTER", "REVERSED F;REVERSED P;INVERTED M;I LONGA;ARCHAIC M"⟩,
  ⟨0xab30, "LATIN SMALL LETTER",
    "BARRED ALPHA;A REVERSED-SCHWA;BLACKLETTER E;BARRED E;E WITH FLOURISH;LENIS F;"
    ++ "SCRIPT G WITH CROSSED-TAIL;L WITH INVERTED LAZY S;L WITH DOUBLE MIDDLE TILDE;"
    ++ "L WITH MIDDLE RING;M WITH CROSSED-TAIL;N WITH CROSSED-TAIL;ENG WITH CROSSED-TAIL;"
    ++ "BLACKLETTER O;BLACKLETTER O WITH STROKE;OPEN O WITH STROKE;INVERTED OE;"
    ++ "TURNED OE WITH STROKE;TURNED OE WITH HORIZONTAL STROKE;TURNED O OPEN-O;"
    ++ "TURNED O OPEN-O WITH STROKE;STIRRUP R"⟩,
  ⟨0xab46, "LATIN LETTER SMALL CAPITAL R WITH RIGHT", "LEG"⟩,
  ⟨0xab47, "LATIN SMALL LETTER",
    "R WITHOUT HANDLE;DOUBLE R;R WITH CROSSED-TAIL;DOUBLE R WITH CROSSED-TAIL;SCRIPT R;"
    ++ "SCRIPT R WITH RING;BASELINE ESH;U WITH SHORT RIGHT LEG;U BAR WITH SHORT RIGHT LEG;UI;"
    ++ "TURNED UI;U WITH LEFT HOOK;CHI;CHI WITH LOW RIGHT RING;CHI WITH LOW LEFT SERIF;"
    ++ "X WITH LOW RIGHT RING;X WITH LONG LEFT LEG;X WITH LONG LEFT LEG AND LOW RIGHT RING;"
    ++ "X WITH LONG LEFT LEG WITH SERIF;Y WITH SHORT RIGHT LEG"⟩,
  ⟨0xab5b, "MODIFIER BREVE WITH INVERTED", "BREVE"⟩,
  ⟨0xab5c, "MODIFIER LETTER SMALL",
    "HENG;L WITH INVERTED LAZY S;L WITH MIDDLE TILDE;U WITH LEFT HOOK"⟩,
  ⟨0xab60, "LATIN SMALL LETTER", "SAKHA YAT;IOTIFIED E;OPEN OE;UO;INVERTED ALPHA"⟩,
  ⟨0xab65, "GREEK LETTER SMALL CAPITAL", "OMEGA"⟩,
  ⟨0xab66, "LATIN SMALL LETTER",
    "DZ DIGRAPH WITH RETROFLEX HOOK;TS DIGRAPH WITH RETROFLEX HOOK;TURNED R WITH MIDDLE TILDE"⟩,
  ⟨0xab69, "MODIFIER LETTER", "SMALL TURNED W;LEFT TACK;RIGHT TACK"⟩,
  ⟨0xfb00, "LATIN SMALL LIGATURE", "FF;FI;FL;FFI;FFL;LONG S T;ST"⟩]

/-- Letters of phonetic alphabets, modifier letters and tone marks. -/
def phoneticNames : List NameRun := [
  ⟨0x0250, "LATIN SMALL LETTER",
    "TURNED A;ALPHA;TURNED ALPHA;B WITH HOOK;OPEN O;C WITH CURL;D WITH TAIL;D WITH HOOK;"
    ++ "REVERSED E;SCHWA;SCHWA WITH HOOK;OPEN E;REVERSED OPEN E;REVERSED OPEN E WITH HOOK;"
    ++ "CLOSED REVERSED OPEN E;DOTLESS J WITH STROKE;G WITH HOOK;SCRIPT G"⟩,
  ⟨0x0262, "LATIN LETTER SMALL CAPITAL", "G"⟩,
  ⟨0x0263, "LATIN SMALL LETTER",
    "GAMMA;RAMS HORN;TURNED H;H WITH HOOK;HENG WITH HOOK;I WITH STROKE;IOTA"⟩,
  ⟨0x026a, "LATIN LETTER SMALL CAPITAL", "I"⟩,
  ⟨0x026b, "LATIN SMALL LETTER",
    "L WITH MIDDLE TILDE;L WITH BELT;L WITH RETROFLEX HOOK;LEZH;TURNED M;"
    ++ "TURNED M WITH LONG LEG;M WITH HOOK;N WITH LEFT HOOK;N WITH RETROFLEX HOOK"⟩,
  ⟨0x0274, "LATIN", "LETTER SMALL CAPITAL N;SMALL LETTER BARRED O;LETTER SMALL CAPITAL OE"⟩,
  ⟨0x0277, "LATIN SMALL LETTER",
    "CLOSED OMEGA;PHI;TURNED R;TURNED R WITH LONG LEG;TURNED R WITH HOOK;R WITH LONG LEG;"
    ++ "R WITH TAIL;R WITH FISHHOOK;REVERSED R WITH FISHHOOK"⟩,
  ⟨0x0280, "LATIN LETTER SMALL CAPITAL", "R;INVERTED R"⟩,
  ⟨0x0282, "LATIN SMALL LETTER",
    "S WITH HOOK;ESH;DOTLESS J WITH STROKE AND HOOK;SQUAT REVERSED ESH;ESH WITH CURL;"
    ++ "TURNED T;T WITH RETROFLEX HOOK;U BAR;UPSILON;V WITH HOOK;TURNED V;TURNED W;TURNED Y"⟩,
  ⟨0x028f, "LATIN",
    "LETTER SMALL CAPITAL Y;SMALL LETTER Z WITH RETROFLEX HOOK;SMALL LETTER Z WITH CURL;"
    ++ "SMALL LETTER EZH;SMALL LETTER EZH WITH CURL;LETTER GLOTTAL STOP;"
    ++ "LETTER PHARYNGEAL VOICED FRICATIVE;LETTER INVERTED GLOTTAL STOP;LETTER STRETCHED C;"
    ++ "LETTER BILABIAL CLICK;LETTER SMALL CAPITAL B;SMALL LETTER CLOSED OPEN E;"
    ++ "LETTER SMALL CAPITAL G WITH HOOK;LETTER SMALL CAPITAL H;"
    ++ "SMALL LETTER J WITH CROSSED-TAIL;SMALL LETTER TURNED K;LETTER SMALL CAPITAL L;"
    ++ "SMALL LETTER Q WITH HOOK;LETTER GLOTTAL STOP WITH STROKE;"
    ++ "LETTER REVERSED GLOTTAL STOP WITH STROKE"⟩,
  ⟨0x02a3, "LATIN SMALL LETTER",
    "DZ DIGRAPH;DEZH DIGRAPH;DZ DIGRAPH WITH CURL;TS DIGRAPH;TESH DIGRAPH;"
    ++ "TC DIGRAPH WITH CURL;FENG DIGRAPH;LS DIGRAPH;LZ DIGRAPH"⟩,
  ⟨0x02ac, "LATIN LETTER", "BILABIAL PERCUSSIVE;BIDENTAL PERCUSSIVE"⟩,
  ⟨0x02ae, "LATIN SMALL LETTER TURNED H WITH", "FISHHOOK;FISHHOOK AND TAIL"⟩,
  ⟨0x02b0, "MODIFIER LETTER SMALL",
    "H;H WITH HOOK;J;R;TURNED R;TURNED R WITH HOOK;CAPITAL INVERTED R;W;Y"⟩,
  ⟨0x02b9, "MODIFIER LETTER",
    "PRIME;DOUBLE PRIME;TURNED COMMA;APOSTROPHE;REVERSED COMMA;RIGHT HALF RING;"
    ++ "LEFT HALF RING;GLOTTAL STOP;REVERSED GLOTTAL STOP;LEFT ARROWHEAD;RIGHT ARROWHEAD;"
    ++ "UP ARROWHEAD;DOWN ARROWHEAD;CIRCUMFLEX ACCENT"⟩,
  ⟨0x02c7, "", "CARON"⟩,
  ⟨0x02c8, "MODIFIER LETTER",
    "VERTICAL LINE;MACRON;ACUTE ACCENT;GRAVE ACCENT;LOW VERTICAL LINE;LOW MACRON;"
    ++ "LOW GRAVE ACCENT;LOW ACUTE ACCENT;TRIANGULAR COLON;HALF TRIANGULAR COLON;"
    ++ "CENTRED RIGHT HALF RING;CENTRED LEFT HALF RING;UP TACK;DOWN TACK;PLUS SIGN;MINUS SIGN"⟩,
  ⟨0x02d8, "", "BREVE;DOT ABOVE;RING ABOVE;OGONEK;SMALL TILDE;DOUBLE ACUTE ACCENT"⟩,
  ⟨0x02de, "MODIFIER LETTER",
    "RHOTIC HOOK;CROSS ACCENT;SMALL GAMMA;SMALL L;SMALL S;SMALL X;"
    ++ "SMALL REVERSED GLOTTAL STOP;EXTRA-HIGH TONE BAR;HIGH TONE BAR;MID TONE BAR;LOW TONE BAR;"
    ++ "EXTRA-LOW TONE BAR;YIN DEPARTING TONE MARK;YANG DEPARTING TONE MARK;VOICING;UNASPIRATED;"
    ++ "DOUBLE APOSTROPHE;LOW DOWN ARROWHEAD;LOW UP ARROWHEAD;LOW LEFT ARROWHEAD;"
    ++ "LOW RIGHT ARROWHEAD;LOW RING;MIDDLE GRAVE ACCENT;MIDDLE DOUBLE GRAVE ACCENT;"
    ++ "MIDDLE DOUBLE ACUTE ACCENT;LOW TILDE;RAISED COLON;BEGIN HIGH TONE;END HIGH TONE;"
    ++ "BEGIN LOW TONE;END LOW TONE;SHELF;OPEN SHELF;LOW LEFT ARROW"⟩,
  ⟨0x1d00, "LATIN", "LETTER SMALL CAPITAL A;LETTER SMALL CAPITAL AE;SMALL LETTER TURNED AE"⟩,
  ⟨0x1d03, "LATIN LETTER SMALL CAPITAL", "BARRED B;C;D;ETH;E"⟩,
  ⟨0x1d08, "LATIN SMALL LETTER TURNED", "OPEN E;I"⟩,
  ⟨0x1d0a, "LATIN LETTER SMALL CAPITAL", "J;K;L WITH STROKE;M;REVERSED N;O;OPEN O"⟩,
  ⟨0x1d11, "LATIN SMALL LETTER SIDEWAYS", "O;OPEN O;O WITH STROKE"⟩,
  ⟨0x1d14, "LATIN",
    "SMALL LETTER TURNED OE;LETTER SMALL CAPITAL OU;SMALL LETTER TOP HALF O;"
    ++ "SMALL LETTER BOTTOM HALF O"⟩,
  ⟨0x1d18, "LATIN LETTER SMALL CAPITAL", "P;REVERSED R;TURNED R;T;U"⟩,
  ⟨0x1d1d, "LATIN SMALL LETTER SIDEWAYS", "U;DIAERESIZED U;TURNED M"⟩,
  ⟨0x1d20, "LATIN LETTER SMALL CAPITAL", "V;W;Z;EZH"⟩,
  ⟨0x1d24, "LATIN LETTER", "VOICED LARYNGEAL SPIRANT;AIN"⟩,
  ⟨0x1d26, "GREEK LETTER SMALL CAPITAL", "GAMMA;LAMDA;PI;RHO;PSI"⟩,
  ⟨0x1d2b, "CYRILLIC LETTER SMALL CAPITAL", "EL"⟩,
  ⟨0x1d2c, "MODIFIER LETTER CAPITAL",
    "A;AE;B;BARRED B;D;E;REVERSED E;G;H;I;J;K;L;M;N;REVERSED N;O;OU;P;R;T;U;W"⟩,
  ⟨0x1d43, "MODIFIER LETTER SMALL",
    "A;TURNED A;ALPHA;TURNED AE;B;D;E;SCHWA;OPEN E;TURNED OPEN E;G;TURNED I;K;M;ENG;O;OPEN O;"
    ++ "TOP HALF O;BOTTOM HALF O;P;T;U;SIDEWAYS U;TURNED M;V;AIN;BETA;GREEK GAMMA;DELTA;"
    ++ "GREEK PHI;CHI"⟩,
  ⟨0x1d62, "LATIN SUBSCRIPT SMALL LETTER", "I;R;U;V"⟩,
  ⟨0x1d66, "GREEK SUBSCRIPT SMALL LETTER", "BETA;GAMMA;RHO;PHI;CHI"⟩,
  ⟨0x1d6b, "LATIN SMALL LETTER",
    "UE;B WITH MIDDLE TILDE;D WITH MIDDLE TILDE;F WITH MIDDLE TILDE;M WITH MIDDLE TILDE;"
    ++ "N WITH MIDDLE TILDE;P WITH MIDDLE TILDE;R WITH MIDDLE TILDE;"
    ++ "R WITH FISHHOOK AND MIDDLE TILDE;S WITH MIDDLE TILDE;T WITH MIDDLE TILDE;"
    ++ "Z WITH MIDDLE TILDE;TURNED G"⟩,
  ⟨0x1d78, "MODIFIER LETTER CYRILLIC", "EN"⟩,
  ⟨0x1d79, "LATIN SMALL",
    "LETTER INSULAR G;LETTER TH WITH STRIKETHROUGH;CAPITAL LETTER I WITH STROKE;"
    ++ "LETTER IOTA WITH STROKE;LETTER P WITH STROKE;CAPITAL LETTER U WITH STROKE"⟩,
  ⟨0x1d7f, "LATIN SMALL LETTER",
    "UPSILON WITH STROKE;B WITH PALATAL HOOK;D WITH PALATAL HOOK;F WITH PALATAL HOOK;"
    ++ "G WITH PALATAL HOOK;K WITH PALATAL HOOK;L WITH PALATAL HOOK;M WITH PALATAL HOOK;"
    ++ "N WITH PALATAL HOOK;P WITH PALATAL HOOK;R WITH PALATAL HOOK;S WITH PALATAL HOOK;"
    ++ "ESH WITH PALATAL HOOK;V WITH PALATAL HOOK;X WITH PALATAL HOOK;Z WITH PALATAL HOOK;"
    ++ "A WITH RETROFLEX HOOK;ALPHA WITH RETROFLEX HOOK;D WITH HOOK AND TAIL;"
    ++ "E WITH RETROFLEX HOOK;OPEN E WITH RETROFLEX HOOK;REVERSED OPEN E WITH RETROFLEX HOOK;"
    ++ "SCHWA WITH RETROFLEX HOOK;I WITH RETROFLEX HOOK;OPEN O WITH RETROFLEX HOOK;"
    ++ "ESH WITH RETROFLEX HOOK;U WITH RETROFLEX HOOK;EZH WITH RETROFLEX HOOK"⟩,
  ⟨0x1d9b, "MODIFIER LETTER SMALL",
    "TURNED ALPHA;C;C WITH CURL;ETH;REVERSED OPEN E;F;DOTLESS J WITH STROKE;SCRIPT G;"
    ++ "TURNED H;I WITH STROKE;IOTA;CAPITAL I;CAPITAL I WITH STROKE;J WITH CROSSED-TAIL;"
    ++ "L WITH RETROFLEX HOOK;L WITH PALATAL HOOK;CAPITAL L;M WITH HOOK;TURNED M WITH LONG LEG;"
    ++ "N WITH LEFT HOOK;N WITH RETROFLEX HOOK;CAPITAL N;BARRED O;PHI;S WITH HOOK;ESH;"
    ++ "T WITH PALATAL HOOK;U BAR;UPSILON;CAPITAL U;V WITH HOOK;TURNED V;Z;"
    ++ "Z WITH RETROFLEX HOOK;Z WITH CURL;EZH;THETA"⟩,
  ⟨0xa700, "MODIFIER LETTER CHINESE TONE",
    "YIN PING;YANG PING;YIN SHANG;YANG SHANG;YIN QU;YANG QU;YIN RU;YANG RU"⟩,
  ⟨0xa708, "MODIFIER LETTER",
    "EXTRA-HIGH DOTTED TONE BAR;HIGH DOTTED TONE BAR;MID DOTTED TONE BAR;LOW DOTTED TONE BAR;"
    ++ "EXTRA-LOW DOTTED TONE BAR;EXTRA-HIGH DOTTED LEFT-STEM TONE BAR;"
    ++ "HIGH DOTTED LEFT-STEM TONE BAR;MID DOTTED LEFT-STEM TONE BAR;"
    ++ "LOW DOTTED LEFT-STEM TONE BAR;EXTRA-LOW DOTTED LEFT-STEM TONE BAR;"
    ++ "EXTRA-HIGH LEFT-STEM TONE BAR;HIGH LEFT-STEM TONE BAR;MID LEFT-STEM TONE BAR;"
    ++ "LOW LEFT-STEM TONE BAR;EXTRA-LOW LEFT-STEM TONE BAR;DOT VERTICAL BAR;DOT SLASH;"
    ++ "DOT HORIZONTAL BAR;LOWER RIGHT CORNER ANGLE;RAISED UP ARROW;RAISED DOWN ARROW;"
    ++ "RAISED EXCLAMATION MARK;RAISED INVERTED EXCLAMATION MARK;LOW INVERTED EXCLAMATION MARK"⟩,
  ⟨0x10780, "MODIFIER LETTER",
    "SMALL CAPITAL AA;SUPERSCRIPT TRIANGULAR COLON;SUPERSCRIPT HALF TRIANGULAR COLON;"
    ++ "SMALL AE;SMALL CAPITAL B;SMALL B WITH HOOK"⟩,
  ⟨0x10787, "MODIFIER LETTER SMALL",
    "DZ DIGRAPH;DZ DIGRAPH WITH RETROFLEX HOOK;DZ DIGRAPH WITH CURL;DEZH DIGRAPH;D WITH TAIL;"
    ++ "D WITH HOOK;D WITH HOOK AND TAIL;REVERSED E;CLOSED REVERSED OPEN E;FENG DIGRAPH;"
    ++ "RAMS HORN;CAPITAL G;G WITH HOOK;CAPITAL G WITH HOOK;H WITH STROKE;CAPITAL H;"
    ++ "HENG WITH HOOK;DOTLESS J WITH STROKE AND HOOK;LS DIGRAPH;LZ DIGRAPH;L WITH BELT;"
    ++ "CAPITAL L WITH BELT;L WITH RETROFLEX HOOK AND BELT;LEZH;LEZH WITH RETROFLEX HOOK;"
    ++ "TURNED Y;TURNED Y WITH BELT;O WITH STROKE;CAPITAL OE;CLOSED OMEGA;Q;"
    ++ "TURNED R WITH LONG LEG;TURNED R WITH LONG LEG AND RETROFLEX HOOK;R WITH TAIL;"
    ++ "R WITH FISHHOOK;CAPITAL R;TC DIGRAPH WITH CURL;TS DIGRAPH;"
    ++ "TS DIGRAPH WITH RETROFLEX HOOK;TESH DIGRAPH;T WITH RETROFLEX HOOK;V WITH RIGHT HOOK"⟩,
  ⟨0x107b2, "MODIFIER LETTER",
    "SMALL CAPITAL Y;GLOTTAL STOP WITH STROKE;REVERSED GLOTTAL STOP WITH STROKE;"
    ++ "BILABIAL CLICK;DENTAL CLICK;LATERAL CLICK;ALVEOLAR CLICK;"
    ++ "RETROFLEX CLICK WITH RETROFLEX HOOK;SMALL S WITH CURL"⟩,
  ⟨0x1df00, "LATIN",
    "SMALL LETTER FENG DIGRAPH WITH TRILL;SMALL LETTER REVERSED SCRIPT G;"
    ++ "LETTER SMALL CAPITAL TURNED G;SMALL LETTER REVERSED K;LETTER SMALL CAPITAL L WITH BELT;"
    ++ "SMALL LETTER LEZH WITH RETROFLEX HOOK;SMALL LETTER TURNED Y WITH BELT;"
    ++ "SMALL LETTER REVERSED ENG;SMALL LETTER TURNED R WITH LONG LEG AND RETROFLEX HOOK;"
    ++ "SMALL LETTER T WITH HOOK AND RETROFLEX HOOK;LETTER RETROFLEX CLICK WITH RETROFLEX HOOK;"
    ++ "SMALL LETTER ESH WITH DOUBLE BAR;SMALL LETTER ESH WITH DOUBLE BAR AND CURL;"
    ++ "SMALL LETTER TURNED T WITH CURL;LETTER INVERTED GLOTTAL STOP WITH CURL;"
    ++ "LETTER STRETCHED C WITH CURL;LETTER SMALL CAPITAL TURNED K"⟩,
  ⟨0x1df11, "LATIN SMALL LETTER",
    "L WITH FISHHOOK;DEZH DIGRAPH WITH PALATAL HOOK;L WITH BELT AND PALATAL HOOK;"
    ++ "ENG WITH PALATAL HOOK;TURNED R WITH PALATAL HOOK;R WITH FISHHOOK AND PALATAL HOOK;"
    ++ "TESH DIGRAPH WITH PALATAL HOOK;EZH WITH PALATAL HOOK;DEZH DIGRAPH WITH RETROFLEX HOOK;"
    ++ "I WITH STROKE AND RETROFLEX HOOK;O WITH RETROFLEX HOOK;TESH DIGRAPH WITH RETROFLEX HOOK;"
    ++ "C WITH RETROFLEX HOOK;S WITH CURL"⟩]

/-- Marks that combine with any letter. -/
def markNames : List NameRun := [
  ⟨0x0300, "COMBINING",
    "GRAVE ACCENT;ACUTE ACCENT;CIRCUMFLEX ACCENT;TILDE;MACRON;OVERLINE;BREVE;DOT ABOVE;"
    ++ "DIAERESIS;HOOK ABOVE;RING ABOVE;DOUBLE ACUTE ACCENT;CARON;VERTICAL LINE ABOVE;"
    ++ "DOUBLE VERTICAL LINE ABOVE;DOUBLE GRAVE ACCENT;CANDRABINDU;INVERTED BREVE;"
    ++ "TURNED COMMA ABOVE;COMMA ABOVE;REVERSED COMMA ABOVE;COMMA ABOVE RIGHT;"
    ++ "GRAVE ACCENT BELOW;ACUTE ACCENT BELOW;LEFT TACK BELOW;RIGHT TACK BELOW;LEFT ANGLE ABOVE;"
    ++ "HORN;LEFT HALF RING BELOW;UP TACK BELOW;DOWN TACK BELOW;PLUS SIGN BELOW;"
    ++ "MINUS SIGN BELOW;PALATALIZED HOOK BELOW;RETROFLEX HOOK BELOW;DOT BELOW;DIAERESIS BELOW;"
    ++ "RING BELOW;COMMA BELOW;CEDILLA;OGONEK;VERTICAL LINE BELOW;BRIDGE BELOW;"
    ++ "INVERTED DOUBLE ARCH BELOW;CARON BELOW;CIRCUMFLEX ACCENT BELOW;BREVE BELOW;"
    ++ "INVERTED BREVE BELOW;TILDE BELOW;MACRON BELOW;LOW LINE;DOUBLE LOW LINE;TILDE OVERLAY;"
    ++ "SHORT STROKE OVERLAY;LONG STROKE OVERLAY;SHORT SOLIDUS OVERLAY;LONG SOLIDUS OVERLAY;"
    ++ "RIGHT HALF RING BELOW;INVERTED BRIDGE BELOW;SQUARE BELOW;SEAGULL BELOW;X ABOVE;"
    ++ "VERTICAL TILDE;DOUBLE OVERLINE;GRAVE TONE MARK;ACUTE TONE MARK;GREEK PERISPOMENI;"
    ++ "GREEK KORONIS;GREEK DIALYTIKA TONOS;GREEK YPOGEGRAMMENI;BRIDGE ABOVE;EQUALS SIGN BELOW;"
    ++ "DOUBLE VERTICAL LINE BELOW;LEFT ANGLE BELOW;NOT TILDE ABOVE;HOMOTHETIC ABOVE;"
    ++ "ALMOST EQUAL TO ABOVE;LEFT RIGHT ARROW BELOW;UPWARDS ARROW BELOW;GRAPHEME JOINER;"
    ++ "RIGHT ARROWHEAD ABOVE;LEFT HALF RING ABOVE;FERMATA;X BELOW;LEFT ARROWHEAD BELOW;"
    ++ "RIGHT ARROWHEAD BELOW;RIGHT ARROWHEAD AND UP ARROWHEAD BELOW;RIGHT HALF RING ABOVE;"
    ++ "DOT ABOVE RIGHT;ASTERISK BELOW;DOUBLE RING BELOW;ZIGZAG ABOVE"⟩,
  ⟨0x035c, "COMBINING DOUBLE",
    "BREVE BELOW;BREVE;MACRON;MACRON BELOW;TILDE;INVERTED BREVE;RIGHTWARDS ARROW BELOW"⟩,
  ⟨0x0363, "COMBINING LATIN SMALL LETTER", "A;E;I;O;U;C;D;H;M;R;T;V;X"⟩,
  ⟨0x1ab0, "COMBINING",
    "DOUBLED CIRCUMFLEX ACCENT;DIAERESIS-RING;INFINITY;DOWNWARDS ARROW;TRIPLE DOT;X-X BELOW;"
    ++ "WIGGLY LINE BELOW;OPEN MARK BELOW;DOUBLE OPEN MARK BELOW;"
    ++ "LIGHT CENTRALIZATION STROKE BELOW;STRONG CENTRALIZATION STROKE BELOW;PARENTHESES ABOVE;"
    ++ "DOUBLE PARENTHESES ABOVE;PARENTHESES BELOW;PARENTHESES OVERLAY;"
    ++ "LATIN SMALL LETTER W BELOW;LATIN SMALL LETTER TURNED W BELOW;"
    ++ "LEFT PARENTHESIS ABOVE LEFT;RIGHT PARENTHESIS ABOVE RIGHT;LEFT PARENTHESIS BELOW LEFT;"
    ++ "RIGHT PARENTHESIS BELOW RIGHT;SQUARE BRACKETS ABOVE;NUMBER SIGN ABOVE;"
    ++ "INVERTED DOUBLE ARCH ABOVE;PLUS SIGN ABOVE;DOUBLE PLUS SIGN ABOVE;"
    ++ "DOUBLE PLUS SIGN BELOW;TRIPLE ACUTE ACCENT"⟩,
  ⟨0x1acc, "COMBINING LATIN SMALL LETTER INSULAR", "G;R;T"⟩,
  ⟨0x1dc0, "COMBINING",
    "DOTTED GRAVE ACCENT;DOTTED ACUTE ACCENT;SNAKE BELOW;SUSPENSION MARK;MACRON-ACUTE;"
    ++ "GRAVE-MACRON;MACRON-GRAVE;ACUTE-MACRON;GRAVE-ACUTE-GRAVE;ACUTE-GRAVE-ACUTE;"
    ++ "LATIN SMALL LETTER R BELOW;BREVE-MACRON;MACRON-BREVE;DOUBLE CIRCUMFLEX ABOVE;"
    ++ "OGONEK ABOVE;ZIGZAG BELOW;IS BELOW;UR ABOVE;US ABOVE"⟩,
  ⟨0x1dd3, "COMBINING LATIN SMALL LETTER",
    "FLATTENED OPEN A ABOVE;AE;AO;AV;C CEDILLA;INSULAR D;ETH;G"⟩,
  ⟨0x1ddb, "COMBINING LATIN",
    "LETTER SMALL CAPITAL G;SMALL LETTER K;SMALL LETTER L;LETTER SMALL CAPITAL L;"
    ++ "LETTER SMALL CAPITAL M;SMALL LETTER N;LETTER SMALL CAPITAL N;LETTER SMALL CAPITAL R"⟩,
  ⟨0x1de3, "COMBINING LATIN SMALL LETTER",
    "R ROTUNDA;S;LONG S;Z;ALPHA;B;BETA;SCHWA;F;L WITH DOUBLE MIDDLE TILDE;"
    ++ "O WITH LIGHT CENTRALIZATION STROKE;P;ESH;U WITH LIGHT CENTRALIZATION STROKE;W;"
    ++ "A WITH DIAERESIS;O WITH DIAERESIS;U WITH DIAERESIS"⟩,
  ⟨0x1df5, "COMBINING",
    "UP TACK ABOVE;KAVYKA ABOVE RIGHT;KAVYKA ABOVE LEFT;DOT ABOVE LEFT;"
    ++ "WIDE INVERTED BRIDGE BELOW;DOT BELOW LEFT;DELETION MARK;DOUBLE INVERTED BREVE BELOW;"
    ++ "ALMOST EQUAL TO BELOW;LEFT ARROWHEAD ABOVE;RIGHT ARROWHEAD AND DOWN ARROWHEAD BELOW"⟩,
  ⟨0x20d0, "COMBINING",
    "LEFT HARPOON ABOVE;RIGHT HARPOON ABOVE;LONG VERTICAL LINE OVERLAY;"
    ++ "SHORT VERTICAL LINE OVERLAY;ANTICLOCKWISE ARROW ABOVE;CLOCKWISE ARROW ABOVE;"
    ++ "LEFT ARROW ABOVE;RIGHT ARROW ABOVE;RING OVERLAY;CLOCKWISE RING OVERLAY;"
    ++ "ANTICLOCKWISE RING OVERLAY;THREE DOTS ABOVE;FOUR DOTS ABOVE;ENCLOSING CIRCLE;"
    ++ "ENCLOSING SQUARE;ENCLOSING DIAMOND;ENCLOSING CIRCLE BACKSLASH;LEFT RIGHT ARROW ABOVE;"
    ++ "ENCLOSING SCREEN;ENCLOSING KEYCAP;ENCLOSING UPWARD POINTING TRIANGLE;"
    ++ "REVERSE SOLIDUS OVERLAY;DOUBLE VERTICAL STROKE OVERLAY;ANNUITY SYMBOL;TRIPLE UNDERDOT;"
    ++ "WIDE BRIDGE ABOVE;LEFTWARDS ARROW OVERLAY;LONG DOUBLE SOLIDUS OVERLAY;"
    ++ "RIGHTWARDS HARPOON WITH BARB DOWNWARDS;LEFTWARDS HARPOON WITH BARB DOWNWARDS;"
    ++ "LEFT ARROW BELOW;RIGHT ARROW BELOW;ASTERISK ABOVE"⟩,
  ⟨0xfe20, "COMBINING",
    "LIGATURE LEFT HALF;LIGATURE RIGHT HALF;DOUBLE TILDE LEFT HALF;DOUBLE TILDE RIGHT HALF;"
    ++ "MACRON LEFT HALF;MACRON RIGHT HALF;CONJOINING MACRON;LIGATURE LEFT HALF BELOW;"
    ++ "LIGATURE RIGHT HALF BELOW;TILDE LEFT HALF BELOW;TILDE RIGHT HALF BELOW;"
    ++ "MACRON LEFT HALF BELOW;MACRON RIGHT HALF BELOW;CONJOINING MACRON BELOW;"
    ++ "CYRILLIC TITLO LEFT HALF;CYRILLIC TITLO RIGHT HALF"⟩]

end NumberingPlan.Unicode
