import NumberingPlan.Unicode.Name.Run

/-! Names of the letters of South Asia. -/

namespace NumberingPlan.Unicode

/-- The scripts of India that are in the widest use. -/
def indicNames : List NameRun := [
  ⟨0x0900, "DEVANAGARI SIGN", "INVERTED CANDRABINDU;CANDRABINDU;ANUSVARA;VISARGA"⟩,
  ⟨0x0904, "DEVANAGARI LETTER",
    "SHORT A;A;AA;I;II;U;UU;VOCALIC R;VOCALIC L;CANDRA E;SHORT E;E;AI;CANDRA O;SHORT O;O;AU;"
    ++ "KA;KHA;GA;GHA;NGA;CA;CHA;JA;JHA;NYA;TTA;TTHA;DDA;DDHA;NNA;TA;THA;DA;DHA;NA;NNNA;PA;PHA;"
    ++ "BA;BHA;MA;YA;RA;RRA;LA;LLA;LLLA;VA;SHA;SSA;SA;HA"⟩,
  ⟨0x093a, "DEVANAGARI", "VOWEL SIGN OE;VOWEL SIGN OOE;SIGN NUKTA;SIGN AVAGRAHA"⟩,
  ⟨0x093e, "DEVANAGARI VOWEL SIGN",
    "AA;I;II;U;UU;VOCALIC R;VOCALIC RR;CANDRA E;SHORT E;E;AI;CANDRA O;SHORT O;O;AU"⟩,
  ⟨0x094d, "DEVANAGARI",
    "SIGN VIRAMA;VOWEL SIGN PRISHTHAMATRA E;VOWEL SIGN AW;OM;STRESS SIGN UDATTA;"
    ++ "STRESS SIGN ANUDATTA;GRAVE ACCENT;ACUTE ACCENT;VOWEL SIGN CANDRA LONG E;VOWEL SIGN UE;"
    ++ "VOWEL SIGN UUE;LETTER QA;LETTER KHHA;LETTER GHHA;LETTER ZA;LETTER DDDHA;LETTER RHA;"
    ++ "LETTER FA;LETTER YYA;LETTER VOCALIC RR;LETTER VOCALIC LL;VOWEL SIGN VOCALIC L;"
    ++ "VOWEL SIGN VOCALIC LL;DANDA;DOUBLE DANDA"⟩,
  ⟨0x0970, "DEVANAGARI", "ABBREVIATION SIGN;SIGN HIGH SPACING DOT"⟩,
  ⟨0x0972, "DEVANAGARI LETTER",
    "CANDRA A;OE;OOE;AW;UE;UUE;MARWARI DDA;ZHA;HEAVY YA;GGA;JJA;GLOTTAL STOP;DDDA;BBA"⟩,
  ⟨0x0980, "BENGALI", "ANJI;SIGN CANDRABINDU;SIGN ANUSVARA;SIGN VISARGA"⟩,
  ⟨0x0985, "BENGALI LETTER", "A;AA;I;II;U;UU;VOCALIC R;VOCALIC L"⟩,
  ⟨0x098f, "BENGALI LETTER", "E;AI"⟩,
  ⟨0x0993, "BENGALI LETTER",
    "O;AU;KA;KHA;GA;GHA;NGA;CA;CHA;JA;JHA;NYA;TTA;TTHA;DDA;DDHA;NNA;TA;THA;DA;DHA;NA"⟩,
  ⟨0x09aa, "BENGALI LETTER", "PA;PHA;BA;BHA;MA;YA;RA"⟩,
  ⟨0x09b2, "BENGALI LETTER", "LA"⟩,
  ⟨0x09b6, "BENGALI LETTER", "SHA;SSA;SA;HA"⟩,
  ⟨0x09bc, "BENGALI SIGN", "NUKTA;AVAGRAHA"⟩,
  ⟨0x09be, "BENGALI VOWEL SIGN", "AA;I;II;U;UU;VOCALIC R;VOCALIC RR"⟩,
  ⟨0x09c7, "BENGALI VOWEL SIGN", "E;AI"⟩,
  ⟨0x09cb, "BENGALI", "VOWEL SIGN O;VOWEL SIGN AU;SIGN VIRAMA;LETTER KHANDA TA"⟩,
  ⟨0x09d7, "BENGALI AU LENGTH", "MARK"⟩,
  ⟨0x09dc, "BENGALI LETTER", "RRA;RHA"⟩,
  ⟨0x09df, "BENGALI LETTER", "YYA;VOCALIC RR;VOCALIC LL"⟩,
  ⟨0x09e2, "BENGALI VOWEL SIGN VOCALIC", "L;LL"⟩,
  ⟨0x09f0, "BENGALI",
    "LETTER RA WITH MIDDLE DIAGONAL;LETTER RA WITH LOWER DIAGONAL;RUPEE MARK;RUPEE SIGN"⟩,
  ⟨0x09f4, "BENGALI CURRENCY NUMERATOR", "ONE;TWO;THREE;FOUR;ONE LESS THAN THE DENOMINATOR"⟩,
  ⟨0x09f9, "BENGALI",
    "CURRENCY DENOMINATOR SIXTEEN;ISSHAR;GANDA MARK;LETTER VEDIC ANUSVARA;ABBREVIATION SIGN;"
    ++ "SANDHI MARK"⟩,
  ⟨0x0a01, "GURMUKHI SIGN", "ADAK BINDI;BINDI;VISARGA"⟩,
  ⟨0x0a05, "GURMUKHI LETTER", "A;AA;I;II;U;UU"⟩,
  ⟨0x0a0f, "GURMUKHI LETTER", "EE;AI"⟩,
  ⟨0x0a13, "GURMUKHI LETTER",
    "OO;AU;KA;KHA;GA;GHA;NGA;CA;CHA;JA;JHA;NYA;TTA;TTHA;DDA;DDHA;NNA;TA;THA;DA;DHA;NA"⟩,
  ⟨0x0a2a, "GURMUKHI LETTER", "PA;PHA;BA;BHA;MA;YA;RA"⟩,
  ⟨0x0a32, "GURMUKHI LETTER", "LA;LLA"⟩,
  ⟨0x0a35, "GURMUKHI LETTER", "VA;SHA"⟩,
  ⟨0x0a38, "GURMUKHI LETTER", "SA;HA"⟩,
  ⟨0x0a3c, "GURMUKHI SIGN", "NUKTA"⟩,
  ⟨0x0a3e, "GURMUKHI VOWEL SIGN", "AA;I;II;U;UU"⟩,
  ⟨0x0a47, "GURMUKHI VOWEL SIGN", "EE;AI"⟩,
  ⟨0x0a4b, "GURMUKHI", "VOWEL SIGN OO;VOWEL SIGN AU;SIGN VIRAMA"⟩,
  ⟨0x0a51, "GURMUKHI SIGN", "UDAAT"⟩,
  ⟨0x0a59, "GURMUKHI LETTER", "KHHA;GHHA;ZA;RRA"⟩,
  ⟨0x0a5e, "GURMUKHI LETTER", "FA"⟩,
  ⟨0x0a70, "GURMUKHI", "TIPPI;ADDAK;IRI;URA;EK ONKAR;SIGN YAKASH;ABBREVIATION SIGN"⟩,
  ⟨0x0a81, "GUJARATI SIGN", "CANDRABINDU;ANUSVARA;VISARGA"⟩,
  ⟨0x0a85, "GUJARATI LETTER", "A;AA;I;II;U;UU;VOCALIC R;VOCALIC L"⟩,
  ⟨0x0a8d, "GUJARATI VOWEL CANDRA", "E"⟩,
  ⟨0x0a8f, "GUJARATI", "LETTER E;LETTER AI;VOWEL CANDRA O"⟩,
  ⟨0x0a93, "GUJARATI LETTER",
    "O;AU;KA;KHA;GA;GHA;NGA;CA;CHA;JA;JHA;NYA;TTA;TTHA;DDA;DDHA;NNA;TA;THA;DA;DHA;NA"⟩,
  ⟨0x0aaa, "GUJARATI LETTER", "PA;PHA;BA;BHA;MA;YA;RA"⟩,
  ⟨0x0ab2, "GUJARATI LETTER", "LA;LLA"⟩,
  ⟨0x0ab5, "GUJARATI LETTER", "VA;SHA;SSA;SA;HA"⟩,
  ⟨0x0abc, "GUJARATI SIGN", "NUKTA;AVAGRAHA"⟩,
  ⟨0x0abe, "GUJARATI VOWEL SIGN", "AA;I;II;U;UU;VOCALIC R;VOCALIC RR;CANDRA E"⟩,
  ⟨0x0ac7, "GUJARATI VOWEL SIGN", "E;AI;CANDRA O"⟩,
  ⟨0x0acb, "GUJARATI", "VOWEL SIGN O;VOWEL SIGN AU;SIGN VIRAMA"⟩,
  ⟨0x0ad0, "GUJARATI", "OM"⟩,
  ⟨0x0ae0, "GUJARATI LETTER VOCALIC", "RR;LL"⟩,
  ⟨0x0ae2, "GUJARATI VOWEL SIGN VOCALIC", "L;LL"⟩,
  ⟨0x0af0, "GUJARATI", "ABBREVIATION SIGN;RUPEE SIGN"⟩,
  ⟨0x0af9, "GUJARATI",
    "LETTER ZHA;SIGN SUKUN;SIGN SHADDA;SIGN MADDAH;SIGN THREE-DOT NUKTA ABOVE;"
    ++ "SIGN CIRCLE NUKTA ABOVE;SIGN TWO-CIRCLE NUKTA ABOVE"⟩,
  ⟨0x0b01, "ORIYA SIGN", "CANDRABINDU;ANUSVARA;VISARGA"⟩,
  ⟨0x0b05, "ORIYA LETTER", "A;AA;I;II;U;UU;VOCALIC R;VOCALIC L"⟩,
  ⟨0x0b0f, "ORIYA LETTER", "E;AI"⟩,
  ⟨0x0b13, "ORIYA LETTER",
    "O;AU;KA;KHA;GA;GHA;NGA;CA;CHA;JA;JHA;NYA;TTA;TTHA;DDA;DDHA;NNA;TA;THA;DA;DHA;NA"⟩,
  ⟨0x0b2a, "ORIYA LETTER", "PA;PHA;BA;BHA;MA;YA;RA"⟩,
  ⟨0x0b32, "ORIYA LETTER", "LA;LLA"⟩,
  ⟨0x0b35, "ORIYA LETTER", "VA;SHA;SSA;SA;HA"⟩,
  ⟨0x0b3c, "ORIYA SIGN", "NUKTA;AVAGRAHA"⟩,
  ⟨0x0b3e, "ORIYA VOWEL SIGN", "AA;I;II;U;UU;VOCALIC R;VOCALIC RR"⟩,
  ⟨0x0b47, "ORIYA VOWEL SIGN", "E;AI"⟩,
  ⟨0x0b4b, "ORIYA", "VOWEL SIGN O;VOWEL SIGN AU;SIGN VIRAMA"⟩,
  ⟨0x0b55, "ORIYA", "SIGN OVERLINE;AI LENGTH MARK;AU LENGTH MARK"⟩,
  ⟨0x0b5c, "ORIYA LETTER", "RRA;RHA"⟩,
  ⟨0x0b5f, "ORIYA LETTER", "YYA;VOCALIC RR;VOCALIC LL"⟩,
  ⟨0x0b62, "ORIYA VOWEL SIGN VOCALIC", "L;LL"⟩,
  ⟨0x0b70, "ORIYA", "ISSHAR;LETTER WA"⟩,
  ⟨0x0b72, "ORIYA FRACTION",
    "ONE QUARTER;ONE HALF;THREE QUARTERS;ONE SIXTEENTH;ONE EIGHTH;THREE SIXTEENTHS"⟩,
  ⟨0x0b82, "TAMIL SIGN", "ANUSVARA;VISARGA"⟩,
  ⟨0x0b85, "TAMIL LETTER", "A;AA;I;II;U;UU"⟩,
  ⟨0x0b8e, "TAMIL LETTER", "E;EE;AI"⟩,
  ⟨0x0b92, "TAMIL LETTER", "O;OO;AU;KA"⟩,
  ⟨0x0b99, "TAMIL LETTER", "NGA;CA"⟩,
  ⟨0x0b9c, "TAMIL LETTER", "JA"⟩,
  ⟨0x0b9e, "TAMIL LETTER", "NYA;TTA"⟩,
  ⟨0x0ba3, "TAMIL LETTER", "NNA;TA"⟩,
  ⟨0x0ba8, "TAMIL LETTER", "NA;NNNA;PA"⟩,
  ⟨0x0bae, "TAMIL LETTER", "MA;YA;RA;RRA;LA;LLA;LLLA;VA;SHA;SSA;SA;HA"⟩,
  ⟨0x0bbe, "TAMIL VOWEL SIGN", "AA;I;II;U;UU"⟩,
  ⟨0x0bc6, "TAMIL VOWEL SIGN", "E;EE;AI"⟩,
  ⟨0x0bca, "TAMIL", "VOWEL SIGN O;VOWEL SIGN OO;VOWEL SIGN AU;SIGN VIRAMA"⟩,
  ⟨0x0bd0, "TAMIL", "OM"⟩,
  ⟨0x0bd7, "TAMIL AU LENGTH", "MARK"⟩,
  ⟨0x0bf0, "TAMIL",
    "NUMBER TEN;NUMBER ONE HUNDRED;NUMBER ONE THOUSAND;DAY SIGN;MONTH SIGN;YEAR SIGN;"
    ++ "DEBIT SIGN;CREDIT SIGN;AS ABOVE SIGN;RUPEE SIGN;NUMBER SIGN"⟩,
  ⟨0x0c00, "TELUGU SIGN",
    "COMBINING CANDRABINDU ABOVE;CANDRABINDU;ANUSVARA;VISARGA;COMBINING ANUSVARA ABOVE"⟩,
  ⟨0x0c05, "TELUGU LETTER", "A;AA;I;II;U;UU;VOCALIC R;VOCALIC L"⟩,
  ⟨0x0c0e, "TELUGU LETTER", "E;EE;AI"⟩,
  ⟨0x0c12, "TELUGU LETTER",
    "O;OO;AU;KA;KHA;GA;GHA;NGA;CA;CHA;JA;JHA;NYA;TTA;TTHA;DDA;DDHA;NNA;TA;THA;DA;DHA;NA"⟩,
  ⟨0x0c2a, "TELUGU LETTER", "PA;PHA;BA;BHA;MA;YA;RA;RRA;LA;LLA;LLLA;VA;SHA;SSA;SA;HA"⟩,
  ⟨0x0c3c, "TELUGU SIGN", "NUKTA;AVAGRAHA"⟩,
  ⟨0x0c3e, "TELUGU VOWEL SIGN", "AA;I;II;U;UU;VOCALIC R;VOCALIC RR"⟩,
  ⟨0x0c46, "TELUGU VOWEL SIGN", "E;EE;AI"⟩,
  ⟨0x0c4a, "TELUGU", "VOWEL SIGN O;VOWEL SIGN OO;VOWEL SIGN AU;SIGN VIRAMA"⟩,
  ⟨0x0c55, "TELUGU", "LENGTH MARK;AI LENGTH MARK"⟩,
  ⟨0x0c58, "TELUGU LETTER", "TSA;DZA;RRRA"⟩,
  ⟨0x0c5d, "TELUGU LETTER NAKAARA", "POLLU"⟩,
  ⟨0x0c60, "TELUGU LETTER VOCALIC", "RR;LL"⟩,
  ⟨0x0c62, "TELUGU VOWEL SIGN VOCALIC", "L;LL"⟩,
  ⟨0x0c77, "TELUGU SIGN", "SIDDHAM"⟩,
  ⟨0x0c78, "TELUGU FRACTION DIGIT",
    "ZERO FOR ODD POWERS OF FOUR;ONE FOR ODD POWERS OF FOUR;TWO FOR ODD POWERS OF FOUR;"
    ++ "THREE FOR ODD POWERS OF FOUR;ONE FOR EVEN POWERS OF FOUR;TWO FOR EVEN POWERS OF FOUR;"
    ++ "THREE FOR EVEN POWERS OF FOUR"⟩,
  ⟨0x0c7f, "TELUGU SIGN", "TUUMU"⟩,
  ⟨0x0c80, "KANNADA SIGN", "SPACING CANDRABINDU;CANDRABINDU;ANUSVARA;VISARGA;SIDDHAM"⟩,
  ⟨0x0c85, "KANNADA LETTER", "A;AA;I;II;U;UU;VOCALIC R;VOCALIC L"⟩,
  ⟨0x0c8e, "KANNADA LETTER", "E;EE;AI"⟩,
  ⟨0x0c92, "KANNADA LETTER",
    "O;OO;AU;KA;KHA;GA;GHA;NGA;CA;CHA;JA;JHA;NYA;TTA;TTHA;DDA;DDHA;NNA;TA;THA;DA;DHA;NA"⟩,
  ⟨0x0caa, "KANNADA LETTER", "PA;PHA;BA;BHA;MA;YA;RA;RRA;LA;LLA"⟩,
  ⟨0x0cb5, "KANNADA LETTER", "VA;SHA;SSA;SA;HA"⟩,
  ⟨0x0cbc, "KANNADA SIGN", "NUKTA;AVAGRAHA"⟩,
  ⟨0x0cbe, "KANNADA VOWEL SIGN", "AA;I;II;U;UU;VOCALIC R;VOCALIC RR"⟩,
  ⟨0x0cc6, "KANNADA VOWEL SIGN", "E;EE;AI"⟩,
  ⟨0x0cca, "KANNADA", "VOWEL SIGN O;VOWEL SIGN OO;VOWEL SIGN AU;SIGN VIRAMA"⟩,
  ⟨0x0cd5, "KANNADA", "LENGTH MARK;AI LENGTH MARK"⟩,
  ⟨0x0cdd, "KANNADA LETTER", "NAKAARA POLLU;FA"⟩,
  ⟨0x0ce0, "KANNADA LETTER VOCALIC", "RR;LL"⟩,
  ⟨0x0ce2, "KANNADA VOWEL SIGN VOCALIC", "L;LL"⟩,
  ⟨0x0cf1, "KANNADA SIGN", "JIHVAMULIYA;UPADHMANIYA"⟩,
  ⟨0x0d00, "MALAYALAM SIGN", "COMBINING ANUSVARA ABOVE;CANDRABINDU;ANUSVARA;VISARGA"⟩,
  ⟨0x0d04, "MALAYALAM LETTER", "VEDIC ANUSVARA;A;AA;I;II;U;UU;VOCALIC R;VOCALIC L"⟩,
  ⟨0x0d0e, "MALAYALAM LETTER", "E;EE;AI"⟩,
  ⟨0x0d12, "MALAYALAM LETTER",
    "O;OO;AU;KA;KHA;GA;GHA;NGA;CA;CHA;JA;JHA;NYA;TTA;TTHA;DDA;DDHA;NNA;TA;THA;DA;DHA;NA;NNNA;"
    ++ "PA;PHA;BA;BHA;MA;YA;RA;RRA;LA;LLA;LLLA;VA;SHA;SSA;SA;HA;TTTA"⟩,
  ⟨0x0d3b, "MALAYALAM SIGN", "VERTICAL BAR VIRAMA;CIRCULAR VIRAMA;AVAGRAHA"⟩,
  ⟨0x0d3e, "MALAYALAM VOWEL SIGN", "AA;I;II;U;UU;VOCALIC R;VOCALIC RR"⟩,
  ⟨0x0d46, "MALAYALAM VOWEL SIGN", "E;EE;AI"⟩,
  ⟨0x0d4a, "MALAYALAM",
    "VOWEL SIGN O;VOWEL SIGN OO;VOWEL SIGN AU;SIGN VIRAMA;LETTER DOT REPH;SIGN PARA"⟩,
  ⟨0x0d54, "MALAYALAM",
    "LETTER CHILLU M;LETTER CHILLU Y;LETTER CHILLU LLL;AU LENGTH MARK;"
    ++ "FRACTION ONE ONE-HUNDRED-AND-SIXTIETH;FRACTION ONE FORTIETH;FRACTION THREE EIGHTIETHS;"
    ++ "FRACTION ONE TWENTIETH;FRACTION ONE TENTH;FRACTION THREE TWENTIETHS;FRACTION ONE FIFTH;"
    ++ "LETTER ARCHAIC II;LETTER VOCALIC RR;LETTER VOCALIC LL;VOWEL SIGN VOCALIC L;"
    ++ "VOWEL SIGN VOCALIC LL"⟩,
  ⟨0x0d70, "MALAYALAM",
    "NUMBER TEN;NUMBER ONE HUNDRED;NUMBER ONE THOUSAND;FRACTION ONE QUARTER;"
    ++ "FRACTION ONE HALF;FRACTION THREE QUARTERS;FRACTION ONE SIXTEENTH;FRACTION ONE EIGHTH;"
    ++ "FRACTION THREE SIXTEENTHS;DATE MARK"⟩,
  ⟨0x0d7a, "MALAYALAM LETTER CHILLU", "NN;N;RR;L;LL;K"⟩,
  ⟨0x0d81, "SINHALA SIGN", "CANDRABINDU;ANUSVARAYA;VISARGAYA"⟩,
  ⟨0x0d85, "SINHALA LETTER",
    "AYANNA;AAYANNA;AEYANNA;AEEYANNA;IYANNA;IIYANNA;UYANNA;UUYANNA;IRUYANNA;IRUUYANNA;"
    ++ "ILUYANNA;ILUUYANNA;EYANNA;EEYANNA;AIYANNA;OYANNA;OOYANNA;AUYANNA"⟩,
  ⟨0x0d9a, "SINHALA LETTER",
    "ALPAPRAANA KAYANNA;MAHAAPRAANA KAYANNA;ALPAPRAANA GAYANNA;MAHAAPRAANA GAYANNA;"
    ++ "KANTAJA NAASIKYAYA;SANYAKA GAYANNA;ALPAPRAANA CAYANNA;MAHAAPRAANA CAYANNA;"
    ++ "ALPAPRAANA JAYANNA;MAHAAPRAANA JAYANNA;TAALUJA NAASIKYAYA;TAALUJA SANYOOGA NAAKSIKYAYA;"
    ++ "SANYAKA JAYANNA;ALPAPRAANA TTAYANNA;MAHAAPRAANA TTAYANNA;ALPAPRAANA DDAYANNA;"
    ++ "MAHAAPRAANA DDAYANNA;MUURDHAJA NAYANNA;SANYAKA DDAYANNA;ALPAPRAANA TAYANNA;"
    ++ "MAHAAPRAANA TAYANNA;ALPAPRAANA DAYANNA;MAHAAPRAANA DAYANNA;DANTAJA NAYANNA"⟩,
  ⟨0x0db3, "SINHALA LETTER",
    "SANYAKA DAYANNA;ALPAPRAANA PAYANNA;MAHAAPRAANA PAYANNA;ALPAPRAANA BAYANNA;"
    ++ "MAHAAPRAANA BAYANNA;MAYANNA;AMBA BAYANNA;YAYANNA;RAYANNA"⟩,
  ⟨0x0dbd, "SINHALA LETTER DANTAJA", "LAYANNA"⟩,
  ⟨0x0dc0, "SINHALA LETTER",
    "VAYANNA;TAALUJA SAYANNA;MUURDHAJA SAYANNA;DANTAJA SAYANNA;HAYANNA;MUURDHAJA LAYANNA;"
    ++ "FAYANNA"⟩,
  ⟨0x0dca, "SINHALA SIGN", "AL-LAKUNA"⟩,
  ⟨0x0dcf, "SINHALA VOWEL SIGN",
    "AELA-PILLA;KETTI AEDA-PILLA;DIGA AEDA-PILLA;KETTI IS-PILLA;DIGA IS-PILLA;KETTI PAA-PILLA"⟩,
  ⟨0x0dd6, "SINHALA VOWEL SIGN DIGA", "PAA-PILLA"⟩,
  ⟨0x0dd8, "SINHALA VOWEL SIGN",
    "GAETTA-PILLA;KOMBUVA;DIGA KOMBUVA;KOMBU DEKA;KOMBUVA HAA AELA-PILLA;"
    ++ "KOMBUVA HAA DIGA AELA-PILLA;KOMBUVA HAA GAYANUKITTA;GAYANUKITTA"⟩,
  ⟨0x0df2, "SINHALA",
    "VOWEL SIGN DIGA GAETTA-PILLA;VOWEL SIGN DIGA GAYANUKITTA;PUNCTUATION KUNDDALIYA"⟩,
  ⟨0x1cd0, "VEDIC",
    "TONE KARSHANA;TONE SHARA;TONE PRENKHA;SIGN NIHSHVASA;SIGN YAJURVEDIC MIDLINE SVARITA"⟩,
  ⟨0x1cd5, "VEDIC TONE",
    "YAJURVEDIC AGGRAVATED INDEPENDENT SVARITA;YAJURVEDIC INDEPENDENT SVARITA;"
    ++ "YAJURVEDIC KATHAKA INDEPENDENT SVARITA;CANDRA BELOW;"
    ++ "YAJURVEDIC KATHAKA INDEPENDENT SVARITA SCHROEDER;DOUBLE SVARITA;TRIPLE SVARITA;"
    ++ "KATHAKA ANUDATTA;DOT BELOW;TWO DOTS BELOW;THREE DOTS BELOW;"
    ++ "RIGVEDIC KASHMIRI INDEPENDENT SVARITA;ATHARVAVEDIC INDEPENDENT SVARITA"⟩,
  ⟨0x1ce2, "VEDIC SIGN",
    "VISARGA SVARITA;VISARGA UDATTA;REVERSED VISARGA UDATTA;VISARGA ANUDATTA;"
    ++ "REVERSED VISARGA ANUDATTA;VISARGA UDATTA WITH TAIL;VISARGA ANUDATTA WITH TAIL;"
    ++ "ANUSVARA ANTARGOMUKHA;ANUSVARA BAHIRGOMUKHA;ANUSVARA VAMAGOMUKHA;"
    ++ "ANUSVARA VAMAGOMUKHA WITH TAIL;TIRYAK;HEXIFORM LONG ANUSVARA;LONG ANUSVARA;"
    ++ "RTHANG LONG ANUSVARA;ANUSVARA UBHAYATO MUKHA;ARDHAVISARGA;ROTATED ARDHAVISARGA"⟩,
  ⟨0x1cf4, "VEDIC",
    "TONE CANDRA ABOVE;SIGN JIHVAMULIYA;SIGN UPADHMANIYA;SIGN ATIKRAMA;TONE RING ABOVE;"
    ++ "TONE DOUBLE RING ABOVE;SIGN DOUBLE ANUSVARA ANTARGOMUKHA"⟩,
  ⟨0xa830, "NORTH INDIC FRACTION",
    "ONE QUARTER;ONE HALF;THREE QUARTERS;ONE SIXTEENTH;ONE EIGHTH;THREE SIXTEENTHS"⟩,
  ⟨0xa836, "NORTH INDIC", "QUARTER MARK;PLACEHOLDER MARK;RUPEE MARK;QUANTITY MARK"⟩,
  ⟨0xa8e0, "COMBINING DEVANAGARI DIGIT", "ZERO;ONE;TWO;THREE;FOUR;FIVE;SIX;SEVEN;EIGHT;NINE"⟩,
  ⟨0xa8ea, "COMBINING DEVANAGARI",
    "LETTER A;LETTER U;LETTER KA;LETTER NA;LETTER PA;LETTER RA;LETTER VI;SIGN AVAGRAHA"⟩,
  ⟨0xa8f2, "DEVANAGARI",
    "SIGN SPACING CANDRABINDU;SIGN CANDRABINDU VIRAMA;SIGN DOUBLE CANDRABINDU VIRAMA;"
    ++ "SIGN CANDRABINDU TWO;SIGN CANDRABINDU THREE;SIGN CANDRABINDU AVAGRAHA;SIGN PUSHPIKA;"
    ++ "GAP FILLER;CARET;HEADSTROKE;SIGN SIDDHAM;JAIN OM;LETTER AY;VOWEL SIGN AY"⟩]

/-- Tibetan, Lepcha and other scripts of the north. -/
def himalayanNames : List NameRun := [
  ⟨0x0f00, "TIBETAN SYLLABLE", "OM"⟩,
  ⟨0x0f01, "TIBETAN MARK",
    "GTER YIG MGO TRUNCATED A;GTER YIG MGO -UM RNAM BCAD MA;GTER YIG MGO -UM GTER TSHEG MA;"
    ++ "INITIAL YIG MGO MDUN MA;CLOSING YIG MGO SGAB MA;CARET YIG MGO PHUR SHAD MA;"
    ++ "YIG MGO TSHEG SHAD MA;SBRUL SHAD;BSKUR YIG MGO;BKA- SHOG YIG MGO;INTERSYLLABIC TSHEG;"
    ++ "DELIMITER TSHEG BSTAR;SHAD;NYIS SHAD;TSHEG SHAD;NYIS TSHEG SHAD;RIN CHEN SPUNGS SHAD;"
    ++ "RGYA GRAM SHAD;CARET -DZUD RTAGS ME LONG CAN;GTER TSHEG"⟩,
  ⟨0x0f15, "TIBETAN LOGOTYPE SIGN", "CHAD RTAGS;LHAG RTAGS"⟩,
  ⟨0x0f17, "TIBETAN ASTROLOGICAL SIGN", "SGRA GCAN -CHAR RTAGS;-KHYUD PA;SDONG TSHUGS"⟩,
  ⟨0x0f1a, "TIBETAN SIGN RDEL", "DKAR GCIG;DKAR GNYIS;DKAR GSUM;NAG GCIG;NAG GNYIS;DKAR RDEL NAG"⟩,
  ⟨0x0f2a, "TIBETAN DIGIT HALF", "ONE;TWO;THREE;FOUR;FIVE;SIX;SEVEN;EIGHT;NINE;ZERO"⟩,
  ⟨0x0f34, "TIBETAN MARK",
    "BSDUS RTAGS;NGAS BZUNG NYI ZLA;CARET -DZUD RTAGS BZHI MIG CAN;NGAS BZUNG SGOR RTAGS;"
    ++ "CHE MGO;TSA -PHRU;GUG RTAGS GYON;GUG RTAGS GYAS;ANG KHANG GYON;ANG KHANG GYAS"⟩,
  ⟨0x0f3e, "TIBETAN SIGN", "YAR TSHES;MAR TSHES"⟩,
  ⟨0x0f40, "TIBETAN LETTER", "KA;KHA;GA;GHA;NGA;CA;CHA;JA"⟩,
  ⟨0x0f49, "TIBETAN LETTER",
    "NYA;TTA;TTHA;DDA;DDHA;NNA;TA;THA;DA;DHA;NA;PA;PHA;BA;BHA;MA;TSA;TSHA;DZA;DZHA;WA;ZHA;ZA;"
    ++ "-A;YA;RA;LA;SHA;SSA;SA;HA;A;KSSA;FIXED-FORM RA;KKA;RRA"⟩,
  ⟨0x0f71, "TIBETAN VOWEL SIGN",
    "AA;I;II;U;UU;VOCALIC R;VOCALIC RR;VOCALIC L;VOCALIC LL;E;EE;O;OO"⟩,
  ⟨0x0f7e, "TIBETAN",
    "SIGN RJES SU NGA RO;SIGN RNAM BCAD;VOWEL SIGN REVERSED I;VOWEL SIGN REVERSED II;"
    ++ "SIGN NYI ZLA NAA DA;SIGN SNA LDAN;MARK HALANTA;MARK PALUTA"⟩,
  ⟨0x0f86, "TIBETAN SIGN",
    "LCI RTAGS;YANG RTAGS;LCE TSA CAN;MCHU CAN;GRU CAN RGYINGS;GRU MED RGYINGS;"
    ++ "INVERTED MCHU CAN"⟩,
  ⟨0x0f8d, "TIBETAN SUBJOINED SIGN", "LCE TSA CAN;MCHU CAN;INVERTED MCHU CAN"⟩,
  ⟨0x0f90, "TIBETAN SUBJOINED LETTER", "KA;KHA;GA;GHA;NGA;CA;CHA;JA"⟩,
  ⟨0x0f99, "TIBETAN SUBJOINED LETTER",
    "NYA;TTA;TTHA;DDA;DDHA;NNA;TA;THA;DA;DHA;NA;PA;PHA;BA;BHA;MA;TSA;TSHA;DZA;DZHA;WA;ZHA;ZA;"
    ++ "-A;YA;RA;LA;SHA;SSA;SA;HA;A;KSSA;FIXED-FORM WA;FIXED-FORM YA;FIXED-FORM RA"⟩,
  ⟨0x0fbe, "TIBETAN KU RU", "KHA;KHA BZHI MIG CAN"⟩,
  ⟨0x0fc0, "TIBETAN CANTILLATION SIGN", "HEAVY BEAT;LIGHT BEAT;CANG TE-U;SBUB -CHAL"⟩,
  ⟨0x0fc4, "TIBETAN SYMBOL",
    "DRIL BU;RDO RJE;PADMA GDAN;RDO RJE RGYA GRAM;PHUR PA;NOR BU;NOR BU NYIS -KHYIL;"
    ++ "NOR BU GSUM -KHYIL;NOR BU BZHI -KHYIL"⟩,
  ⟨0x0fce, "TIBETAN SIGN RDEL NAG", "RDEL DKAR;GSUM"⟩,
  ⟨0x0fd0, "TIBETAN MARK",
    "BSKA- SHOG GI MGO RGYAN;MNYAM YIG GI MGO RGYAN;NYIS TSHEG;"
    ++ "INITIAL BRDA RNYING YIG MGO MDUN MA;CLOSING BRDA RNYING YIG MGO SGAB MA"⟩,
  ⟨0x0fd5, "",
    "RIGHT-FACING SVASTI SIGN;LEFT-FACING SVASTI SIGN;RIGHT-FACING SVASTI SIGN WITH DOTS;"
    ++ "LEFT-FACING SVASTI SIGN WITH DOTS;TIBETAN MARK LEADING MCHAN RTAGS;"
    ++ "TIBETAN MARK TRAILING MCHAN RTAGS"⟩,
  ⟨0x1c00, "LEPCHA LETTER",
    "KA;KLA;KHA;GA;GLA;NGA;CA;CHA;JA;NYA;TA;THA;DA;NA;PA;PLA;PHA;FA;FLA;BA;BLA;MA;MLA;TSA;"
    ++ "TSHA;DZA;YA;RA;LA;HA;HLA;VA;SA;SHA;WA;A"⟩,
  ⟨0x1c24, "LEPCHA SUBJOINED LETTER", "YA;RA"⟩,
  ⟨0x1c26, "LEPCHA VOWEL SIGN", "AA;I;O;OO;U;UU;E"⟩,
  ⟨0x1c2d, "LEPCHA CONSONANT SIGN", "K;M;L;N;P;R;T;NYIN-DO;KANG"⟩,
  ⟨0x1c36, "LEPCHA SIGN", "RAN;NUKTA"⟩,
  ⟨0x1c3b, "LEPCHA PUNCTUATION", "TA-ROL;NYET THYOOM TA-ROL;CER-WA;TSHOOK CER-WA;TSHOOK"⟩,
  ⟨0x1c4d, "LEPCHA LETTER", "TTA;TTHA;DDA"⟩,
  ⟨0x1c5a, "OL CHIKI LETTER",
    "LA;AT;AG;ANG;AL;LAA;AAK;AAJ;AAM;AAW;LI;IS;IH;INY;IR;LU;UC;UD;UNN;UY;LE;EP;EDD;EN;ERR;LO;"
    ++ "OTT;OB;OV;OH"⟩,
  ⟨0x1c78, "OL CHIKI",
    "MU TTUDDAG;GAAHLAA TTUDDAAG;MU-GAAHLAA TTUDDAAG;RELAA;PHAARKAA;AHAD;PUNCTUATION MUCAAD;"
    ++ "PUNCTUATION DOUBLE MUCAAD"⟩,
  ⟨0xa800, "SYLOTI NAGRI",
    "LETTER A;LETTER I;SIGN DVISVARA;LETTER U;LETTER E;LETTER O;SIGN HASANTA;LETTER KO;"
    ++ "LETTER KHO;LETTER GO;LETTER GHO;SIGN ANUSVARA"⟩,
  ⟨0xa80c, "SYLOTI NAGRI LETTER",
    "CO;CHO;JO;JHO;TTO;TTHO;DDO;DDHO;TO;THO;DO;DHO;NO;PO;PHO;BO;BHO;MO;RO;LO;RRO;SO;HO"⟩,
  ⟨0xa823, "SYLOTI NAGRI VOWEL SIGN", "A;I;U;E;OO"⟩,
  ⟨0xa828, "SYLOTI NAGRI",
    "POETRY MARK-1;POETRY MARK-2;POETRY MARK-3;POETRY MARK-4;SIGN ALTERNATE HASANTA"⟩,
  ⟨0xa840, "PHAGS-PA LETTER",
    "KA;KHA;GA;NGA;CA;CHA;JA;NYA;TA;THA;DA;NA;PA;PHA;BA;MA;TSA;TSHA;DZA;WA;ZHA;ZA;SMALL A;YA;"
    ++ "RA;LA;SHA;SA;HA;A;I;U;E;O;QA;XA;FA;GGA;EE"⟩,
  ⟨0xa867, "PHAGS-PA SUBJOINED LETTER", "WA;YA"⟩,
  ⟨0xa869, "PHAGS-PA LETTER", "TTA;TTHA;DDA;NNA;ALTERNATE YA;VOICELESS SHA;VOICED HA;ASPIRATED FA"⟩,
  ⟨0xa871, "PHAGS-PA",
    "SUBJOINED LETTER RA;SUPERFIXED LETTER RA;LETTER CANDRABINDU;SINGLE HEAD MARK;"
    ++ "DOUBLE HEAD MARK;MARK SHAD;MARK DOUBLE SHAD"⟩,
  ⟨0xa880, "SAURASHTRA SIGN", "ANUSVARA;VISARGA"⟩,
  ⟨0xa882, "SAURASHTRA LETTER",
    "A;AA;I;II;U;UU;VOCALIC R;VOCALIC RR;VOCALIC L;VOCALIC LL;E;EE;AI;O;OO;AU;KA;KHA;GA;GHA;"
    ++ "NGA;CA;CHA;JA;JHA;NYA;TTA;TTHA;DDA;DDHA;NNA;TA;THA;DA;DHA;NA;PA;PHA;BA;BHA;MA;YA;RA;LA;"
    ++ "VA;SHA;SSA;SA;HA;LLA"⟩,
  ⟨0xa8b4, "SAURASHTRA CONSONANT SIGN", "HAARU"⟩,
  ⟨0xa8b5, "SAURASHTRA VOWEL SIGN",
    "AA;I;II;U;UU;VOCALIC R;VOCALIC RR;VOCALIC L;VOCALIC LL;E;EE;AI;O;OO;AU"⟩,
  ⟨0xa8c4, "SAURASHTRA SIGN", "VIRAMA;CANDRABINDU"⟩,
  ⟨0xa8ce, "SAURASHTRA", "DANDA;DOUBLE DANDA"⟩,
  ⟨0xaae0, "MEETEI MAYEK LETTER", "E;O;CHA;NYA;TTA;TTHA;DDA;DDHA;NNA;SHA;SSA"⟩,
  ⟨0xaaeb, "MEETEI MAYEK VOWEL SIGN", "II;UU;AAI;AU;AAU"⟩,
  ⟨0xaaf0, "MEETEI MAYEK",
    "CHEIKHAN;AHANG KHUDAM;ANJI;SYLLABLE REPETITION MARK;WORD REPETITION MARK;"
    ++ "VOWEL SIGN VISARGA;VIRAMA"⟩,
  ⟨0xabc0, "MEETEI MAYEK LETTER",
    "KOK;SAM;LAI;MIT;PA;NA;CHIL;TIL;KHOU;NGOU;THOU;WAI;YANG;HUK;UN;I;PHAM;ATIYA;GOK;JHAM;RAI;"
    ++ "BA;JIL;DIL;GHOU;DHOU;BHAM;KOK LONSUM;LAI LONSUM;MIT LONSUM;PA LONSUM;NA LONSUM;"
    ++ "TIL LONSUM;NGOU LONSUM;I LONSUM"⟩,
  ⟨0xabe3, "MEETEI MAYEK VOWEL SIGN", "ONAP;INAP;ANAP;YENAP;SOUNAP;UNAP;CHEINAP;NUNG"⟩,
  ⟨0xabeb, "MEETEI MAYEK", "CHEIKHEI;LUM IYEK;APUN IYEK"⟩]

/-- Brahmi and the scripts that came of it. -/
def brahmicNames : List NameRun := [
  ⟨0x11000, "BRAHMI SIGN", "CANDRABINDU;ANUSVARA;VISARGA;JIHVAMULIYA;UPADHMANIYA"⟩,
  ⟨0x11005, "BRAHMI LETTER",
    "A;AA;I;II;U;UU;VOCALIC R;VOCALIC RR;VOCALIC L;VOCALIC LL;E;AI;O;AU;KA;KHA;GA;GHA;NGA;CA;"
    ++ "CHA;JA;JHA;NYA;TTA;TTHA;DDA;DDHA;NNA;TA;THA;DA;DHA;NA;PA;PHA;BA;BHA;MA;YA;RA;LA;VA;SHA;"
    ++ "SSA;SA;HA;LLA;OLD TAMIL LLLA;OLD TAMIL RRA;OLD TAMIL NNNA"⟩,
  ⟨0x11038, "BRAHMI VOWEL SIGN",
    "AA;BHATTIPROLU AA;I;II;U;UU;VOCALIC R;VOCALIC RR;VOCALIC L;VOCALIC LL;E;AI;O;AU"⟩,
  ⟨0x11046, "BRAHMI", "VIRAMA;DANDA;DOUBLE DANDA"⟩,
  ⟨0x11049, "BRAHMI PUNCTUATION", "DOT;DOUBLE DOT;LINE;CRESCENT BAR;LOTUS"⟩,
  ⟨0x11052, "BRAHMI NUMBER",
    "ONE;TWO;THREE;FOUR;FIVE;SIX;SEVEN;EIGHT;NINE;TEN;TWENTY;THIRTY;FORTY;FIFTY;SIXTY;"
    ++ "SEVENTY;EIGHTY;NINETY;ONE HUNDRED;ONE THOUSAND"⟩,
  ⟨0x11070, "BRAHMI",
    "SIGN OLD TAMIL VIRAMA;LETTER OLD TAMIL SHORT E;LETTER OLD TAMIL SHORT O;"
    ++ "VOWEL SIGN OLD TAMIL SHORT E;VOWEL SIGN OLD TAMIL SHORT O;LETTER OLD TAMIL LLA"⟩,
  ⟨0x1107f, "BRAHMI NUMBER", "JOINER"⟩,
  ⟨0x11080, "KAITHI SIGN", "CANDRABINDU;ANUSVARA;VISARGA"⟩,
  ⟨0x11083, "KAITHI LETTER",
    "A;AA;I;II;U;UU;E;AI;O;AU;KA;KHA;GA;GHA;NGA;CA;CHA;JA;JHA;NYA;TTA;TTHA;DDA;DDDHA;DDHA;"
    ++ "RHA;NNA;TA;THA;DA;DHA;NA;PA;PHA;BA;BHA;MA;YA;RA;LA;VA;SHA;SSA;SA;HA"⟩,
  ⟨0x110b0, "KAITHI VOWEL SIGN", "AA;I;II;U;UU;E;AI;O;AU"⟩,
  ⟨0x110b9, "KAITHI",
    "SIGN VIRAMA;SIGN NUKTA;ABBREVIATION SIGN;ENUMERATION SIGN;NUMBER SIGN;SECTION MARK;"
    ++ "DOUBLE SECTION MARK;DANDA;DOUBLE DANDA;VOWEL SIGN VOCALIC R"⟩,
  ⟨0x110cd, "KAITHI NUMBER SIGN", "ABOVE"⟩,
  ⟨0x110d0, "SORA SOMPENG LETTER",
    "SAH;TAH;BAH;CAH;DAH;GAH;MAH;NGAH;LAH;NAH;VAH;PAH;YAH;RAH;HAH;KAH;JAH;NYAH;AH;EEH;IH;UH;"
    ++ "OH;EH;MAE"⟩,
  ⟨0x11100, "CHAKMA SIGN", "CANDRABINDU;ANUSVARA;VISARGA"⟩,
  ⟨0x11103, "CHAKMA LETTER",
    "AA;I;U;E;KAA;KHAA;GAA;GHAA;NGAA;CAA;CHAA;JAA;JHAA;NYAA;TTAA;TTHAA;DDAA;DDHAA;NNAA;TAA;"
    ++ "THAA;DAA;DHAA;NAA;PAA;PHAA;BAA;BHAA;MAA;YYAA;YAA;RAA;LAA;WAA;SAA;HAA"⟩,
  ⟨0x11127, "CHAKMA VOWEL SIGN", "A;I;II;U;UU;E;AI;O;AU;OI"⟩,
  ⟨0x11131, "CHAKMA", "O MARK;AU MARK;VIRAMA;MAAYYAA"⟩,
  ⟨0x11140, "CHAKMA",
    "SECTION MARK;DANDA;DOUBLE DANDA;QUESTION MARK;LETTER LHAA;VOWEL SIGN AA;VOWEL SIGN EI;"
    ++ "LETTER VAA"⟩,
  ⟨0x11150, "MAHAJANI LETTER",
    "A;I;U;E;O;KA;KHA;GA;GHA;CA;CHA;JA;JHA;NYA;TTA;TTHA;DDA;DDHA;NNA;TA;THA;DA;DHA;NA;PA;PHA;"
    ++ "BA;BHA;MA;RA;LA;VA;SA;HA;RRA"⟩,
  ⟨0x11173, "MAHAJANI", "SIGN NUKTA;ABBREVIATION SIGN;SECTION MARK;LIGATURE SHRI"⟩,
  ⟨0x11180, "SHARADA SIGN", "CANDRABINDU;ANUSVARA;VISARGA"⟩,
  ⟨0x11183, "SHARADA LETTER",
    "A;AA;I;II;U;UU;VOCALIC R;VOCALIC RR;VOCALIC L;VOCALIC LL;E;AI;O;AU;KA;KHA;GA;GHA;NGA;CA;"
    ++ "CHA;JA;JHA;NYA;TTA;TTHA;DDA;DDHA;NNA;TA;THA;DA;DHA;NA;PA;PHA;BA;BHA;MA;YA;RA;LA;LLA;VA;"
    ++ "SHA;SSA;SA;HA"⟩,
  ⟨0x111b3, "SHARADA VOWEL SIGN",
    "AA;I;II;U;UU;VOCALIC R;VOCALIC RR;VOCALIC L;VOCALIC LL;E;AI;O;AU"⟩,
  ⟨0x111c0, "SHARADA",
    "SIGN VIRAMA;SIGN AVAGRAHA;SIGN JIHVAMULIYA;SIGN UPADHMANIYA;OM;DANDA;DOUBLE DANDA;"
    ++ "ABBREVIATION SIGN;SEPARATOR;SANDHI MARK;SIGN NUKTA;VOWEL MODIFIER MARK;"
    ++ "EXTRA SHORT VOWEL MARK;SUTRA MARK;VOWEL SIGN PRISHTHAMATRA E;SIGN INVERTED CANDRABINDU"⟩,
  ⟨0x111da, "SHARADA",
    "EKAM;SIGN SIDDHAM;HEADSTROKE;CONTINUATION SIGN;SECTION MARK-1;SECTION MARK-2"⟩,
  ⟨0x111e1, "SINHALA ARCHAIC DIGIT", "ONE;TWO;THREE;FOUR;FIVE;SIX;SEVEN;EIGHT;NINE"⟩,
  ⟨0x111ea, "SINHALA ARCHAIC NUMBER",
    "TEN;TWENTY;THIRTY;FORTY;FIFTY;SIXTY;SEVENTY;EIGHTY;NINETY;ONE HUNDRED;ONE THOUSAND"⟩,
  ⟨0x11200, "KHOJKI LETTER", "A;AA;I;U;E;AI;O;AU;KA;KHA;GA;GGA;GHA;NGA;CA;CHA;JA;JJA"⟩,
  ⟨0x11213, "KHOJKI LETTER",
    "NYA;TTA;TTHA;DDA;DDHA;NNA;TA;THA;DA;DDDA;DHA;NA;PA;PHA;BA;BBA;BHA;MA;YA;RA;LA;VA;SA;HA;"
    ++ "LLA"⟩,
  ⟨0x1122c, "KHOJKI VOWEL SIGN", "AA;I;II;U;E;AI;O;AU"⟩,
  ⟨0x11234, "KHOJKI",
    "SIGN ANUSVARA;SIGN VIRAMA;SIGN NUKTA;SIGN SHADDA;DANDA;DOUBLE DANDA;WORD SEPARATOR;"
    ++ "SECTION MARK;DOUBLE SECTION MARK;ABBREVIATION SIGN;SIGN SUKUN"⟩,
  ⟨0x11280, "MULTANI LETTER", "A;I;U;E;KA;KHA;GA"⟩,
  ⟨0x11288, "MULTANI LETTER", "GHA"⟩,
  ⟨0x1128a, "MULTANI LETTER", "CA;CHA;JA;JJA"⟩,
  ⟨0x1128f, "MULTANI LETTER", "NYA;TTA;TTHA;DDA;DDDA;DDHA;NNA;TA;THA;DA;DHA;NA;PA;PHA;BA"⟩,
  ⟨0x1129f, "MULTANI LETTER", "BHA;MA;YA;RA;LA;VA;SA;HA;RRA;RHA"⟩,
  ⟨0x112a9, "MULTANI SECTION", "MARK"⟩,
  ⟨0x112b0, "KHUDAWADI LETTER",
    "A;AA;I;II;U;UU;E;AI;O;AU;KA;KHA;GA;GGA;GHA;NGA;CA;CHA;JA;JJA;JHA;NYA;TTA;TTHA;DDA;DDDA;"
    ++ "RRA;DDHA;NNA;TA;THA;DA;DHA;NA;PA;PHA;BA;BBA;BHA;MA;YA;RA;LA;VA;SHA;SA;HA"⟩,
  ⟨0x112df, "KHUDAWADI SIGN", "ANUSVARA"⟩,
  ⟨0x112e0, "KHUDAWADI VOWEL SIGN", "AA;I;II;U;UU;E;AI;O;AU"⟩,
  ⟨0x112e9, "KHUDAWADI SIGN", "NUKTA;VIRAMA"⟩,
  ⟨0x11300, "GRANTHA SIGN", "COMBINING ANUSVARA ABOVE;CANDRABINDU;ANUSVARA;VISARGA"⟩,
  ⟨0x11305, "GRANTHA LETTER", "A;AA;I;II;U;UU;VOCALIC R;VOCALIC L"⟩,
  ⟨0x1130f, "GRANTHA LETTER", "EE;AI"⟩,
  ⟨0x11313, "GRANTHA LETTER",
    "OO;AU;KA;KHA;GA;GHA;NGA;CA;CHA;JA;JHA;NYA;TTA;TTHA;DDA;DDHA;NNA;TA;THA;DA;DHA;NA"⟩,
  ⟨0x1132a, "GRANTHA LETTER", "PA;PHA;BA;BHA;MA;YA;RA"⟩,
  ⟨0x11332, "GRANTHA LETTER", "LA;LLA"⟩,
  ⟨0x11335, "GRANTHA LETTER", "VA;SHA;SSA;SA;HA"⟩,
  ⟨0x1133b, "", "COMBINING BINDU BELOW;GRANTHA SIGN NUKTA;GRANTHA SIGN AVAGRAHA"⟩,
  ⟨0x1133e, "GRANTHA VOWEL SIGN", "AA;I;II;U;UU;VOCALIC R;VOCALIC RR"⟩,
  ⟨0x11347, "GRANTHA VOWEL SIGN", "EE;AI"⟩,
  ⟨0x1134b, "GRANTHA", "VOWEL SIGN OO;VOWEL SIGN AU;SIGN VIRAMA"⟩,
  ⟨0x11350, "GRANTHA", "OM"⟩,
  ⟨0x11357, "GRANTHA AU LENGTH", "MARK"⟩,
  ⟨0x1135d, "GRANTHA",
    "SIGN PLUTA;LETTER VEDIC ANUSVARA;LETTER VEDIC DOUBLE ANUSVARA;LETTER VOCALIC RR;"
    ++ "LETTER VOCALIC LL;VOWEL SIGN VOCALIC L;VOWEL SIGN VOCALIC LL"⟩,
  ⟨0x11366, "COMBINING GRANTHA DIGIT", "ZERO;ONE;TWO;THREE;FOUR;FIVE;SIX"⟩,
  ⟨0x11370, "COMBINING GRANTHA LETTER", "A;KA;NA;VI;PA"⟩,
  ⟨0x11400, "NEWA LETTER",
    "A;AA;I;II;U;UU;VOCALIC R;VOCALIC RR;VOCALIC L;VOCALIC LL;E;AI;O;AU;KA;KHA;GA;GHA;NGA;"
    ++ "NGHA;CA;CHA;JA;JHA;NYA;NYHA;TTA;TTHA;DDA;DDHA;NNA;TA;THA;DA;DHA;NA;NHA;PA;PHA;BA;BHA;MA;"
    ++ "MHA;YA;RA;RHA;LA;LHA;WA;SHA;SSA;SA;HA"⟩,
  ⟨0x11435, "NEWA VOWEL SIGN", "AA;I;II;U;UU;VOCALIC R;VOCALIC RR;VOCALIC L;VOCALIC LL;E;AI;O;AU"⟩,
  ⟨0x11442, "NEWA SIGN", "VIRAMA;CANDRABINDU;ANUSVARA;VISARGA;NUKTA;AVAGRAHA;FINAL ANUSVARA"⟩,
  ⟨0x11449, "NEWA", "OM;SIDDHI;DANDA;DOUBLE DANDA;COMMA;GAP FILLER;ABBREVIATION SIGN"⟩,
  ⟨0x1145a, "NEWA", "DOUBLE COMMA;PLACEHOLDER MARK"⟩,
  ⟨0x1145d, "NEWA",
    "INSERTION SIGN;SANDHI MARK;LETTER VEDIC ANUSVARA;SIGN JIHVAMULIYA;SIGN UPADHMANIYA"⟩,
  ⟨0x11480, "TIRHUTA", "ANJI"⟩,
  ⟨0x11481, "TIRHUTA LETTER",
    "A;AA;I;II;U;UU;VOCALIC R;VOCALIC RR;VOCALIC L;VOCALIC LL;E;AI;O;AU;KA;KHA;GA;GHA;NGA;CA;"
    ++ "CHA;JA;JHA;NYA;TTA;TTHA;DDA;DDHA;NNA;TA;THA;DA;DHA;NA;PA;PHA;BA;BHA;MA;YA;RA;LA;VA;SHA;"
    ++ "SSA;SA;HA"⟩,
  ⟨0x114b0, "TIRHUTA VOWEL SIGN",
    "AA;I;II;U;UU;VOCALIC R;VOCALIC RR;VOCALIC L;VOCALIC LL;E;SHORT E;AI;O;SHORT O;AU"⟩,
  ⟨0x114bf, "TIRHUTA",
    "SIGN CANDRABINDU;SIGN ANUSVARA;SIGN VISARGA;SIGN VIRAMA;SIGN NUKTA;SIGN AVAGRAHA;GVANG;"
    ++ "ABBREVIATION SIGN;OM"⟩,
  ⟨0x11580, "SIDDHAM LETTER",
    "A;AA;I;II;U;UU;VOCALIC R;VOCALIC RR;VOCALIC L;VOCALIC LL;E;AI;O;AU;KA;KHA;GA;GHA;NGA;CA;"
    ++ "CHA;JA;JHA;NYA;TTA;TTHA;DDA;DDHA;NNA;TA;THA;DA;DHA;NA;PA;PHA;BA;BHA;MA;YA;RA;LA;VA;SHA;"
    ++ "SSA;SA;HA"⟩,
  ⟨0x115af, "SIDDHAM VOWEL SIGN", "AA;I;II;U;UU;VOCALIC R;VOCALIC RR"⟩,
  ⟨0x115b8, "SIDDHAM VOWEL SIGN", "E;AI;O;AU"⟩,
  ⟨0x115bc, "SIDDHAM",
    "SIGN CANDRABINDU;SIGN ANUSVARA;SIGN VISARGA;SIGN VIRAMA;SIGN NUKTA;SIGN SIDDHAM;DANDA;"
    ++ "DOUBLE DANDA;SEPARATOR DOT;SEPARATOR BAR;REPETITION MARK-1;REPETITION MARK-2;"
    ++ "REPETITION MARK-3;END OF TEXT MARK"⟩,
  ⟨0x115ca, "SIDDHAM SECTION MARK",
    "WITH TRIDENT AND U-SHAPED ORNAMENTS;WITH TRIDENT AND DOTTED CRESCENTS;"
    ++ "WITH RAYS AND DOTTED CRESCENTS;WITH RAYS AND DOTTED DOUBLE CRESCENTS;"
    ++ "WITH RAYS AND DOTTED TRIPLE CRESCENTS;DOUBLE RING;DOUBLE RING WITH RAYS;"
    ++ "WITH DOUBLE CRESCENTS;WITH TRIPLE CRESCENTS;WITH QUADRUPLE CRESCENTS;"
    ++ "WITH SEPTUPLE CRESCENTS;WITH CIRCLES AND RAYS;WITH CIRCLES AND TWO ENCLOSURES;"
    ++ "WITH CIRCLES AND FOUR ENCLOSURES"⟩,
  ⟨0x115d8, "SIDDHAM LETTER",
    "THREE-CIRCLE ALTERNATE I;TWO-CIRCLE ALTERNATE I;TWO-CIRCLE ALTERNATE II;ALTERNATE U"⟩,
  ⟨0x115dc, "SIDDHAM VOWEL SIGN ALTERNATE", "U;UU"⟩,
  ⟨0x11600, "MODI LETTER",
    "A;AA;I;II;U;UU;VOCALIC R;VOCALIC RR;VOCALIC L;VOCALIC LL;E;AI;O;AU;KA;KHA;GA;GHA;NGA;CA;"
    ++ "CHA;JA;JHA;NYA;TTA;TTHA;DDA;DDHA;NNA;TA;THA;DA;DHA;NA;PA;PHA;BA;BHA;MA;YA;RA;LA;VA;SHA;"
    ++ "SSA;SA;HA;LLA"⟩,
  ⟨0x11630, "MODI VOWEL SIGN", "AA;I;II;U;UU;VOCALIC R;VOCALIC RR;VOCALIC L;VOCALIC LL;E;AI;O;AU"⟩,
  ⟨0x1163d, "MODI",
    "SIGN ANUSVARA;SIGN VISARGA;SIGN VIRAMA;SIGN ARDHACANDRA;DANDA;DOUBLE DANDA;"
    ++ "ABBREVIATION SIGN;SIGN HUVA"⟩,
  ⟨0x11680, "TAKRI LETTER",
    "A;AA;I;II;U;UU;E;AI;O;AU;KA;KHA;GA;GHA;NGA;CA;CHA;JA;JHA;NYA;TTA;TTHA;DDA;DDHA;NNA;TA;"
    ++ "THA;DA;DHA;NA;PA;PHA;BA;BHA;MA;YA;RA;LA;VA;SHA;SA;HA;RRA"⟩,
  ⟨0x116ab, "TAKRI SIGN", "ANUSVARA;VISARGA"⟩,
  ⟨0x116ad, "TAKRI VOWEL SIGN", "AA;I;II;U;UU;E;AI;O;AU"⟩,
  ⟨0x116b6, "TAKRI", "SIGN VIRAMA;SIGN NUKTA;LETTER ARCHAIC KHA;ABBREVIATION SIGN"⟩,
  ⟨0x11700, "AHOM LETTER",
    "KA;KHA;NGA;NA;TA;ALTERNATE TA;PA;PHA;BA;MA;JA;CHA;THA;RA;LA;SA;NYA;HA;A;DA;DHA;GA;"
    ++ "ALTERNATE GA;GHA;BHA;JHA;ALTERNATE BA"⟩,
  ⟨0x1171d, "AHOM CONSONANT SIGN MEDIAL", "LA;RA;LIGATING RA"⟩,
  ⟨0x11720, "AHOM VOWEL SIGN", "A;AA;I;II;U;UU;E;AW;O;AI;AM"⟩,
  ⟨0x1172b, "AHOM SIGN", "KILLER"⟩,
  ⟨0x1173a, "AHOM",
    "NUMBER TEN;NUMBER TWENTY;SIGN SMALL SECTION;SIGN SECTION;SIGN RULAI;SYMBOL VI"⟩,
  ⟨0x11740, "AHOM LETTER", "CA;TTA;TTHA;DDA;DDHA;NNA;LLA"⟩,
  ⟨0x11800, "DOGRA LETTER",
    "A;AA;I;II;U;UU;E;AI;O;AU;KA;KHA;GA;GHA;NGA;CA;CHA;JA;JHA;NYA;TTA;TTHA;DDA;DDHA;NNA;TA;"
    ++ "THA;DA;DHA;NA;PA;PHA;BA;BHA;MA;YA;RA;LA;VA;SHA;SSA;SA;HA;RRA"⟩,
  ⟨0x1182c, "DOGRA VOWEL SIGN", "AA;I;II;U;UU;VOCALIC R;VOCALIC RR;E;AI;O;AU"⟩,
  ⟨0x11837, "DOGRA", "SIGN ANUSVARA;SIGN VISARGA;SIGN VIRAMA;SIGN NUKTA;ABBREVIATION SIGN"⟩,
  ⟨0x118a0, "WARANG CITI CAPITAL LETTER",
    "NGAA;A;WI;YU;YA;YO;II;UU;E;O;ANG;GA;KO;ENY;YUJ;UC;ENN;ODD;TTE;NUNG;DA;AT;AM;BU;PU;HIYO;"
    ++ "HOLO;HORR;HAR;SSUU;SII;VIYO"⟩,
  ⟨0x118c0, "WARANG CITI SMALL LETTER",
    "NGAA;A;WI;YU;YA;YO;II;UU;E;O;ANG;GA;KO;ENY;YUJ;UC;ENN;ODD;TTE;NUNG;DA;AT;AM;BU;PU;HIYO;"
    ++ "HOLO;HORR;HAR;SSUU;SII;VIYO"⟩,
  ⟨0x118ea, "WARANG CITI NUMBER", "TEN;TWENTY;THIRTY;FORTY;FIFTY;SIXTY;SEVENTY;EIGHTY;NINETY"⟩,
  ⟨0x118ff, "WARANG CITI", "OM"⟩,
  ⟨0x11900, "DIVES AKURU LETTER", "A;AA;I;II;U;UU;E"⟩,
  ⟨0x11909, "DIVES AKURU LETTER", "O"⟩,
  ⟨0x1190c, "DIVES AKURU LETTER", "KA;KHA;GA;GHA;NGA;CA;CHA;JA"⟩,
  ⟨0x11915, "DIVES AKURU LETTER", "NYA;TTA"⟩,
  ⟨0x11918, "DIVES AKURU LETTER",
    "DDA;DDHA;NNA;TA;THA;DA;DHA;NA;PA;PHA;BA;BHA;MA;YA;YYA;RA;LA;VA;SHA;SSA;SA;HA;LLA;ZA"⟩,
  ⟨0x11930, "DIVES AKURU VOWEL SIGN", "AA;I;II;U;UU;E"⟩,
  ⟨0x11937, "DIVES AKURU VOWEL SIGN", "AI;O"⟩,
  ⟨0x1193b, "DIVES AKURU",
    "SIGN ANUSVARA;SIGN CANDRABINDU;SIGN HALANTA;VIRAMA;PREFIXED NASAL SIGN;MEDIAL YA;"
    ++ "INITIAL RA;MEDIAL RA;SIGN NUKTA;DOUBLE DANDA;GAP FILLER;END OF TEXT MARK"⟩,
  ⟨0x119a0, "NANDINAGARI LETTER", "A;AA;I;II;U;UU;VOCALIC R;VOCALIC RR"⟩,
  ⟨0x119aa, "NANDINAGARI LETTER",
    "E;AI;O;AU;KA;KHA;GA;GHA;NGA;CA;CHA;JA;JHA;NYA;TTA;TTHA;DDA;DDHA;NNA;TA;THA;DA;DHA;NA;PA;"
    ++ "PHA;BA;BHA;MA;YA;RA;LA;VA;SHA;SSA;SA;HA;LLA;RRA"⟩,
  ⟨0x119d1, "NANDINAGARI VOWEL SIGN", "AA;I;II;U;UU;VOCALIC R;VOCALIC RR"⟩,
  ⟨0x119da, "NANDINAGARI",
    "VOWEL SIGN E;VOWEL SIGN AI;VOWEL SIGN O;VOWEL SIGN AU;SIGN ANUSVARA;SIGN VISARGA;"
    ++ "SIGN VIRAMA;SIGN AVAGRAHA;SIGN SIDDHAM;HEADSTROKE;VOWEL SIGN PRISHTHAMATRA E"⟩,
  ⟨0x11a00, "ZANABAZAR SQUARE LETTER", "A"⟩,
  ⟨0x11a01, "ZANABAZAR SQUARE VOWEL",
    "SIGN I;SIGN UE;SIGN U;SIGN E;SIGN OE;SIGN O;SIGN AI;SIGN AU;SIGN REVERSED I;LENGTH MARK"⟩,
  ⟨0x11a0b, "ZANABAZAR SQUARE LETTER",
    "KA;KHA;GA;GHA;NGA;CA;CHA;JA;NYA;TTA;TTHA;DDA;DDHA;NNA;TA;THA;DA;DHA;NA;PA;PHA;BA;BHA;MA;"
    ++ "TSA;TSHA;DZA;DZHA;ZHA;ZA;-A;YA;RA;LA;VA;SHA;SSA;SA;HA;KSSA"⟩,
  ⟨0x11a33, "ZANABAZAR SQUARE",
    "FINAL CONSONANT MARK;SIGN VIRAMA;SIGN CANDRABINDU;SIGN CANDRABINDU WITH ORNAMENT;"
    ++ "SIGN CANDRA WITH ORNAMENT;SIGN ANUSVARA;SIGN VISARGA;CLUSTER-INITIAL LETTER RA;"
    ++ "CLUSTER-FINAL LETTER YA;CLUSTER-FINAL LETTER RA;CLUSTER-FINAL LETTER LA;"
    ++ "CLUSTER-FINAL LETTER VA;INITIAL HEAD MARK;CLOSING HEAD MARK;MARK TSHEG;MARK SHAD;"
    ++ "MARK DOUBLE SHAD;MARK LONG TSHEG;INITIAL DOUBLE-LINED HEAD MARK;"
    ++ "CLOSING DOUBLE-LINED HEAD MARK;SUBJOINER"⟩,
  ⟨0x11a50, "SOYOMBO LETTER", "A"⟩,
  ⟨0x11a51, "SOYOMBO VOWEL SIGN", "I;UE;U;E;O;OE;AI;AU;VOCALIC R;VOCALIC L"⟩,
  ⟨0x11a5b, "SOYOMBO VOWEL LENGTH", "MARK"⟩,
  ⟨0x11a5c, "SOYOMBO LETTER",
    "KA;KHA;GA;GHA;NGA;CA;CHA;JA;JHA;NYA;TTA;TTHA;DDA;DDHA;NNA;TA;THA;DA;DHA;NA;PA;PHA;BA;"
    ++ "BHA;MA;TSA;TSHA;DZA;ZHA;ZA;-A;YA;RA;LA;VA;SHA;SSA;SA;HA;KSSA"⟩,
  ⟨0x11a84, "SOYOMBO SIGN", "JIHVAMULIYA;UPADHMANIYA"⟩,
  ⟨0x11a86, "SOYOMBO CLUSTER-INITIAL LETTER", "RA;LA;SHA;SA"⟩,
  ⟨0x11a8a, "SOYOMBO FINAL CONSONANT SIGN", "G;K;NG;D;N;B;M;R;L;SH;S;-A"⟩,
  ⟨0x11a96, "SOYOMBO",
    "SIGN ANUSVARA;SIGN VISARGA;GEMINATION MARK;SUBJOINER;MARK TSHEG;MARK SHAD;"
    ++ "MARK DOUBLE SHAD;MARK PLUTA;HEAD MARK WITH MOON AND SUN AND TRIPLE FLAME;"
    ++ "HEAD MARK WITH MOON AND SUN AND FLAME;HEAD MARK WITH MOON AND SUN;TERMINAL MARK-1;"
    ++ "TERMINAL MARK-2"⟩,
  ⟨0x11ac0, "PAU CIN HAU LETTER",
    "PA;KA;LA;MA;DA;ZA;VA;NGA;HA;GA;KHA;SA;BA;CA;TA;THA;NA;PHA;RA;FA;CHA;A;E;I;O;U;UA;IA"⟩,
  ⟨0x11adc, "PAU CIN HAU LETTER FINAL", "P;K;T;M;N;L;W;NG;Y"⟩,
  ⟨0x11ae5, "PAU CIN HAU",
    "RISING TONE LONG;RISING TONE;SANDHI GLOTTAL STOP;RISING TONE LONG FINAL;"
    ++ "RISING TONE FINAL;SANDHI GLOTTAL STOP FINAL;SANDHI TONE LONG;SANDHI TONE;"
    ++ "SANDHI TONE LONG FINAL;SANDHI TONE FINAL;MID-LEVEL TONE;GLOTTAL STOP VARIANT;"
    ++ "MID-LEVEL TONE LONG FINAL;MID-LEVEL TONE FINAL;LOW-FALLING TONE LONG;LOW-FALLING TONE;"
    ++ "GLOTTAL STOP;LOW-FALLING TONE LONG FINAL;LOW-FALLING TONE FINAL;GLOTTAL STOP FINAL"⟩,
  ⟨0x11c00, "BHAIKSUKI LETTER", "A;AA;I;II;U;UU;VOCALIC R;VOCALIC RR;VOCALIC L"⟩,
  ⟨0x11c0a, "BHAIKSUKI LETTER",
    "E;AI;O;AU;KA;KHA;GA;GHA;NGA;CA;CHA;JA;JHA;NYA;TTA;TTHA;DDA;DDHA;NNA;TA;THA;DA;DHA;NA;PA;"
    ++ "PHA;BA;BHA;MA;YA;RA;LA;VA;SHA;SSA;SA;HA"⟩,
  ⟨0x11c2f, "BHAIKSUKI VOWEL SIGN", "AA;I;II;U;UU;VOCALIC R;VOCALIC RR;VOCALIC L"⟩,
  ⟨0x11c38, "BHAIKSUKI VOWEL SIGN", "E;AI;O;AU"⟩,
  ⟨0x11c3c, "BHAIKSUKI",
    "SIGN CANDRABINDU;SIGN ANUSVARA;SIGN VISARGA;SIGN VIRAMA;SIGN AVAGRAHA;DANDA;"
    ++ "DOUBLE DANDA;WORD SEPARATOR;GAP FILLER-1;GAP FILLER-2"⟩,
  ⟨0x11c5a, "BHAIKSUKI NUMBER",
    "ONE;TWO;THREE;FOUR;FIVE;SIX;SEVEN;EIGHT;NINE;TEN;TWENTY;THIRTY;FORTY;FIFTY;SIXTY;"
    ++ "SEVENTY;EIGHTY;NINETY"⟩,
  ⟨0x11c6c, "BHAIKSUKI HUNDREDS UNIT", "MARK"⟩,
  ⟨0x11c70, "MARCHEN", "HEAD MARK;MARK SHAD"⟩,
  ⟨0x11c72, "MARCHEN LETTER",
    "KA;KHA;GA;NGA;CA;CHA;JA;NYA;TA;THA;DA;NA;PA;PHA;BA;MA;TSA;TSHA;DZA;WA;ZHA;ZA;-A;YA;RA;"
    ++ "LA;SHA;SA;HA;A"⟩,
  ⟨0x11c92, "MARCHEN SUBJOINED LETTER",
    "KA;KHA;GA;NGA;CA;CHA;JA;NYA;TA;THA;DA;NA;PA;PHA;BA;MA;TSA;TSHA;DZA;WA;ZHA;ZA"⟩,
  ⟨0x11ca9, "MARCHEN SUBJOINED LETTER", "YA;RA;LA;SHA;SA;HA;A"⟩,
  ⟨0x11cb0, "MARCHEN VOWEL SIGN", "AA;I;U;E;O"⟩,
  ⟨0x11cb5, "MARCHEN SIGN", "ANUSVARA;CANDRABINDU"⟩,
  ⟨0x11d00, "MASARAM GONDI LETTER", "A;AA;I;II;U;UU;E"⟩,
  ⟨0x11d08, "MASARAM GONDI LETTER", "AI;O"⟩,
  ⟨0x11d0b, "MASARAM GONDI LETTER",
    "AU;KA;KHA;GA;GHA;NGA;CA;CHA;JA;JHA;NYA;TTA;TTHA;DDA;DDHA;NNA;TA;THA;DA;DHA;NA;PA;PHA;BA;"
    ++ "BHA;MA;YA;RA;LA;VA;SHA;SSA;SA;HA;LLA;KSSA;JNYA;TRA"⟩,
  ⟨0x11d31, "MASARAM GONDI VOWEL SIGN", "AA;I;II;U;UU;VOCALIC R"⟩,
  ⟨0x11d3a, "MASARAM GONDI VOWEL SIGN", "E"⟩,
  ⟨0x11d3c, "MASARAM GONDI VOWEL SIGN", "AI;O"⟩,
  ⟨0x11d3f, "MASARAM GONDI",
    "VOWEL SIGN AU;SIGN ANUSVARA;SIGN VISARGA;SIGN NUKTA;SIGN CANDRA;SIGN HALANTA;VIRAMA;"
    ++ "REPHA;RA-KARA"⟩,
  ⟨0x11d60, "GUNJALA GONDI LETTER", "A;AA;I;II;U;UU"⟩,
  ⟨0x11d67, "GUNJALA GONDI LETTER", "EE;AI"⟩,
  ⟨0x11d6a, "GUNJALA GONDI LETTER",
    "OO;AU;YA;VA;BA;BHA;MA;KA;KHA;TA;THA;LA;GA;GHA;DA;DHA;NA;CA;CHA;TTA;TTHA;LLA;JA;JHA;DDA;"
    ++ "DDHA;NGA;PA;PHA;HA;RA;SA"⟩,
  ⟨0x11d8a, "GUNJALA GONDI VOWEL SIGN", "AA;I;II;U;UU"⟩,
  ⟨0x11d90, "GUNJALA GONDI VOWEL SIGN", "EE;AI"⟩,
  ⟨0x11d93, "GUNJALA GONDI", "VOWEL SIGN OO;VOWEL SIGN AU;SIGN ANUSVARA;SIGN VISARGA;VIRAMA;OM"⟩,
  ⟨0x11ee0, "MAKASAR LETTER", "KA;GA;NGA;PA;BA;MA;TA;DA;NA;CA;JA;NYA;YA;RA;LA;VA;SA;A"⟩,
  ⟨0x11ef2, "MAKASAR",
    "ANGKA;VOWEL SIGN I;VOWEL SIGN U;VOWEL SIGN E;VOWEL SIGN O;PASSIMBANG;END OF SECTION"⟩,
  ⟨0x11fc0, "TAMIL FRACTION",
    "ONE THREE-HUNDRED-AND-TWENTIETH;ONE ONE-HUNDRED-AND-SIXTIETH;ONE EIGHTIETH;"
    ++ "ONE SIXTY-FOURTH;ONE FORTIETH;ONE THIRTY-SECOND;THREE EIGHTIETHS;THREE SIXTY-FOURTHS;"
    ++ "ONE TWENTIETH;ONE SIXTEENTH-1;ONE SIXTEENTH-2;ONE TENTH;ONE EIGHTH;THREE TWENTIETHS;"
    ++ "THREE SIXTEENTHS;ONE FIFTH;ONE QUARTER;ONE HALF-1;ONE HALF-2;THREE QUARTERS;"
    ++ "DOWNSCALING FACTOR KIIZH"⟩,
  ⟨0x11fd5, "TAMIL SIGN",
    "NEL;CEVITU;AAZHAAKKU;UZHAKKU;MUUVUZHAKKU;KURUNI;PATHAKKU;MUKKURUNI;KAACU;PANAM;PON;"
    ++ "VARAAKAN;PAARAM;KUZHI;VELI"⟩,
  ⟨0x11fe4, "TAMIL",
    "WET CULTIVATION SIGN;DRY CULTIVATION SIGN;LAND SIGN;SALT PAN SIGN;"
    ++ "TRADITIONAL CREDIT SIGN;TRADITIONAL NUMBER SIGN;CURRENT SIGN;AND ODD SIGN;SPENT SIGN;"
    ++ "TOTAL SIGN;IN POSSESSION SIGN;STARTING FROM SIGN;SIGN MUTHALIYA;SIGN VAKAIYARAA"⟩,
  ⟨0x11fff, "TAMIL PUNCTUATION END OF", "TEXT"⟩]

end NumberingPlan.Unicode
