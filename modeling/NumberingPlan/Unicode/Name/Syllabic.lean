import NumberingPlan.Unicode.Name.Run

/-! Names of African and American letters and of syllabaries. -/

namespace NumberingPlan.Unicode

/-- Ethiopic syllables, and Tifinagh letters. -/
def ethiopicNames : List NameRun := [
  ⟨0x1200, "ETHIOPIC SYLLABLE",
    "HA;HU;HI;HAA;HEE;HE;HO;HOA;LA;LU;LI;LAA;LEE;LE;LO;LWA;HHA;HHU;HHI;HHAA;HHEE;HHE;HHO;"
    ++ "HHWA;MA;MU;MI;MAA;MEE;ME;MO;MWA;SZA;SZU;SZI;SZAA;SZEE;SZE;SZO;SZWA;RA;RU;RI;RAA;REE;RE;"
    ++ "RO;RWA;SA;SU;SI;SAA;SEE;SE;SO;SWA;SHA;SHU;SHI;SHAA;SHEE;SHE;SHO;SHWA;QA;QU;QI;QAA;QEE;"
    ++ "QE;QO;QOA;QWA"⟩,
  ⟨0x124a, "ETHIOPIC SYLLABLE", "QWI;QWAA;QWEE;QWE"⟩,
  ⟨0x1250, "ETHIOPIC SYLLABLE", "QHA;QHU;QHI;QHAA;QHEE;QHE;QHO"⟩,
  ⟨0x1258, "ETHIOPIC SYLLABLE", "QHWA"⟩,
  ⟨0x125a, "ETHIOPIC SYLLABLE", "QHWI;QHWAA;QHWEE;QHWE"⟩,
  ⟨0x1260, "ETHIOPIC SYLLABLE",
    "BA;BU;BI;BAA;BEE;BE;BO;BWA;VA;VU;VI;VAA;VEE;VE;VO;VWA;TA;TU;TI;TAA;TEE;TE;TO;TWA;CA;CU;"
    ++ "CI;CAA;CEE;CE;CO;CWA;XA;XU;XI;XAA;XEE;XE;XO;XOA;XWA"⟩,
  ⟨0x128a, "ETHIOPIC SYLLABLE", "XWI;XWAA;XWEE;XWE"⟩,
  ⟨0x1290, "ETHIOPIC SYLLABLE",
    "NA;NU;NI;NAA;NEE;NE;NO;NWA;NYA;NYU;NYI;NYAA;NYEE;NYE;NYO;NYWA;GLOTTAL A;GLOTTAL U;"
    ++ "GLOTTAL I;GLOTTAL AA;GLOTTAL EE;GLOTTAL E;GLOTTAL O;GLOTTAL WA;KA;KU;KI;KAA;KEE;KE;KO;"
    ++ "KOA;KWA"⟩,
  ⟨0x12b2, "ETHIOPIC SYLLABLE", "KWI;KWAA;KWEE;KWE"⟩,
  ⟨0x12b8, "ETHIOPIC SYLLABLE", "KXA;KXU;KXI;KXAA;KXEE;KXE;KXO"⟩,
  ⟨0x12c0, "ETHIOPIC SYLLABLE", "KXWA"⟩,
  ⟨0x12c2, "ETHIOPIC SYLLABLE", "KXWI;KXWAA;KXWEE;KXWE"⟩,
  ⟨0x12c8, "ETHIOPIC SYLLABLE", "WA;WU;WI;WAA;WEE;WE;WO;WOA"⟩,
  ⟨0x12d0, "ETHIOPIC SYLLABLE PHARYNGEAL", "A;U;I;AA;EE;E;O"⟩,
  ⟨0x12d8, "ETHIOPIC SYLLABLE",
    "ZA;ZU;ZI;ZAA;ZEE;ZE;ZO;ZWA;ZHA;ZHU;ZHI;ZHAA;ZHEE;ZHE;ZHO;ZHWA;YA;YU;YI;YAA;YEE;YE;YO;"
    ++ "YOA;DA;DU;DI;DAA;DEE;DE;DO;DWA;DDA;DDU;DDI;DDAA;DDEE;DDE;DDO;DDWA;JA;JU;JI;JAA;JEE;JE;"
    ++ "JO;JWA;GA;GU;GI;GAA;GEE;GE;GO;GOA;GWA"⟩,
  ⟨0x1312, "ETHIOPIC SYLLABLE", "GWI;GWAA;GWEE;GWE"⟩,
  ⟨0x1318, "ETHIOPIC SYLLABLE",
    "GGA;GGU;GGI;GGAA;GGEE;GGE;GGO;GGWAA;THA;THU;THI;THAA;THEE;THE;THO;THWA;CHA;CHU;CHI;CHAA;"
    ++ "CHEE;CHE;CHO;CHWA;PHA;PHU;PHI;PHAA;PHEE;PHE;PHO;PHWA;TSA;TSU;TSI;TSAA;TSEE;TSE;TSO;TSWA;"
    ++ "TZA;TZU;TZI;TZAA;TZEE;TZE;TZO;TZOA;FA;FU;FI;FAA;FEE;FE;FO;FWA;PA;PU;PI;PAA;PEE;PE;PO;"
    ++ "PWA;RYA;MYA;FYA"⟩,
  ⟨0x135d, "ETHIOPIC",
    "COMBINING GEMINATION AND VOWEL LENGTH MARK;COMBINING VOWEL LENGTH MARK;"
    ++ "COMBINING GEMINATION MARK;SECTION MARK;WORDSPACE;FULL STOP;COMMA;SEMICOLON;COLON;"
    ++ "PREFACE COLON;QUESTION MARK;PARAGRAPH SEPARATOR"⟩,
  ⟨0x1369, "ETHIOPIC DIGIT", "ONE;TWO;THREE;FOUR;FIVE;SIX;SEVEN;EIGHT;NINE"⟩,
  ⟨0x1372, "ETHIOPIC NUMBER",
    "TEN;TWENTY;THIRTY;FORTY;FIFTY;SIXTY;SEVENTY;EIGHTY;NINETY;HUNDRED;TEN THOUSAND"⟩,
  ⟨0x1380, "ETHIOPIC SYLLABLE",
    "SEBATBEIT MWA;MWI;MWEE;MWE;SEBATBEIT BWA;BWI;BWEE;BWE;SEBATBEIT FWA;FWI;FWEE;FWE;"
    ++ "SEBATBEIT PWA;PWI;PWEE;PWE"⟩,
  ⟨0x1390, "ETHIOPIC TONAL MARK",
    "YIZET;DERET;RIKRIK;SHORT RIKRIK;DIFAT;KENAT;CHIRET;HIDET;DERET-HIDET;KURT"⟩,
  ⟨0x2d30, "TIFINAGH LETTER",
    "YA;YAB;YABH;YAG;YAGHH;BERBER ACADEMY YAJ;YAJ;YAD;YADH;YADD;YADDH;YEY;YAF;YAK;TUAREG YAK;"
    ++ "YAKHH;YAH;BERBER ACADEMY YAH;TUAREG YAH;YAHH;YAA;YAKH;TUAREG YAKH;YAQ;TUAREG YAQ;YI;"
    ++ "YAZH;AHAGGAR YAZH;TUAREG YAZH;YAL;YAM;YAN;TUAREG YAGN;TUAREG YANG;YAP;YU;YAR;YARR;YAGH;"
    ++ "TUAREG YAGH;AYER YAGH;YAS;YASS;YASH;YAT;YATH;YACH;YATT;YAV;YAW;YAY;YAZ;TAWELLEMET YAZ;"
    ++ "YAZZ;YE;YO"⟩,
  ⟨0x2d6f, "TIFINAGH", "MODIFIER LETTER LABIALIZATION MARK;SEPARATOR MARK"⟩,
  ⟨0x2d7f, "TIFINAGH CONSONANT", "JOINER"⟩,
  ⟨0x2d80, "ETHIOPIC SYLLABLE",
    "LOA;MOA;ROA;SOA;SHOA;BOA;TOA;COA;NOA;NYOA;GLOTTAL OA;ZOA;DOA;DDOA;JOA;THOA;CHOA;PHOA;"
    ++ "POA;GGWA;GGWI;GGWEE;GGWE"⟩,
  ⟨0x2da0, "ETHIOPIC SYLLABLE", "SSA;SSU;SSI;SSAA;SSEE;SSE;SSO"⟩,
  ⟨0x2da8, "ETHIOPIC SYLLABLE", "CCA;CCU;CCI;CCAA;CCEE;CCE;CCO"⟩,
  ⟨0x2db0, "ETHIOPIC SYLLABLE", "ZZA;ZZU;ZZI;ZZAA;ZZEE;ZZE;ZZO"⟩,
  ⟨0x2db8, "ETHIOPIC SYLLABLE", "CCHA;CCHU;CCHI;CCHAA;CCHEE;CCHE;CCHO"⟩,
  ⟨0x2dc0, "ETHIOPIC SYLLABLE", "QYA;QYU;QYI;QYAA;QYEE;QYE;QYO"⟩,
  ⟨0x2dc8, "ETHIOPIC SYLLABLE", "KYA;KYU;KYI;KYAA;KYEE;KYE;KYO"⟩,
  ⟨0x2dd0, "ETHIOPIC SYLLABLE", "XYA;XYU;XYI;XYAA;XYEE;XYE;XYO"⟩,
  ⟨0x2dd8, "ETHIOPIC SYLLABLE", "GYA;GYU;GYI;GYAA;GYEE;GYE;GYO"⟩,
  ⟨0xab01, "ETHIOPIC SYLLABLE", "TTHU;TTHI;TTHAA;TTHEE;TTHE;TTHO"⟩,
  ⟨0xab09, "ETHIOPIC SYLLABLE", "DDHU;DDHI;DDHAA;DDHEE;DDHE;DDHO"⟩,
  ⟨0xab11, "ETHIOPIC SYLLABLE", "DZU;DZI;DZAA;DZEE;DZE;DZO"⟩,
  ⟨0xab20, "ETHIOPIC SYLLABLE", "CCHHA;CCHHU;CCHHI;CCHHAA;CCHHEE;CCHHE;CCHHO"⟩,
  ⟨0xab28, "ETHIOPIC SYLLABLE", "BBA;BBU;BBI;BBAA;BBEE;BBE;BBO"⟩,
  ⟨0x1e7e0, "ETHIOPIC SYLLABLE", "HHYA;HHYU;HHYI;HHYAA;HHYEE;HHYE;HHYO"⟩,
  ⟨0x1e7e8, "ETHIOPIC SYLLABLE", "GURAGE HHWA;HHWI;HHWEE;HHWE"⟩,
  ⟨0x1e7ed, "ETHIOPIC SYLLABLE GURAGE", "MWI;MWEE"⟩,
  ⟨0x1e7f0, "ETHIOPIC SYLLABLE GURAGE",
    "QWI;QWEE;QWE;BWI;BWEE;KWI;KWEE;KWE;GWI;GWEE;GWE;FWI;FWEE;PWI;PWEE"⟩]

/-- Cherokee, Canadian and Osage syllables and letters. -/
def americanNames : List NameRun := [
  ⟨0x13a0, "CHEROKEE LETTER",
    "A;E;I;O;U;V;GA;KA;GE;GI;GO;GU;GV;HA;HE;HI;HO;HU;HV;LA;LE;LI;LO;LU;LV;MA;ME;MI;MO;MU;NA;"
    ++ "HNA;NAH;NE;NI;NO;NU;NV;QUA;QUE;QUI;QUO;QUU;QUV;SA;S;SE;SI;SO;SU;SV;DA;TA;DE;TE;DI;TI;DO;"
    ++ "DU;DV;DLA;TLA;TLE;TLI;TLO;TLU;TLV;TSA;TSE;TSI;TSO;TSU;TSV;WA;WE;WI;WO;WU;WV;YA;YE;YI;YO;"
    ++ "YU;YV;MV"⟩,
  ⟨0x13f8, "CHEROKEE SMALL LETTER", "YE;YI;YO;YU;YV;MV"⟩,
  ⟨0x1400, "CANADIAN SYLLABICS",
    "HYPHEN;E;AAI;I;II;O;OO;Y-CREE OO;CARRIER EE;CARRIER I;A;AA;WE;WEST-CREE WE;WI;"
    ++ "WEST-CREE WI;WII;WEST-CREE WII;WO;WEST-CREE WO;WOO;WEST-CREE WOO;NASKAPI WOO;WA;"
    ++ "WEST-CREE WA;WAA;WEST-CREE WAA;NASKAPI WAA;AI;Y-CREE W;GLOTTAL STOP;FINAL ACUTE;"
    ++ "FINAL GRAVE;FINAL BOTTOM HALF RING;FINAL TOP HALF RING;FINAL RIGHT HALF RING;FINAL RING;"
    ++ "FINAL DOUBLE ACUTE;FINAL DOUBLE SHORT VERTICAL STROKES;FINAL MIDDLE DOT;"
    ++ "FINAL SHORT HORIZONTAL STROKE;FINAL PLUS;FINAL DOWN TACK;EN;IN;ON;AN;PE;PAAI;PI;PII;PO;"
    ++ "POO;Y-CREE POO;CARRIER HEE;CARRIER HI;PA;PAA;PWE;WEST-CREE PWE;PWI;WEST-CREE PWI;PWII;"
    ++ "WEST-CREE PWII;PWO;WEST-CREE PWO;PWOO;WEST-CREE PWOO;PWA;WEST-CREE PWA;PWAA;"
    ++ "WEST-CREE PWAA;Y-CREE PWAA;P;WEST-CREE P;CARRIER H;TE;TAAI;TI;TII;TO;TOO;Y-CREE TOO;"
    ++ "CARRIER DEE;CARRIER DI;TA;TAA;TWE;WEST-CREE TWE;TWI;WEST-CREE TWI;TWII;WEST-CREE TWII;"
    ++ "TWO;WEST-CREE TWO;TWOO;WEST-CREE TWOO;TWA;WEST-CREE TWA;TWAA;WEST-CREE TWAA;"
    ++ "NASKAPI TWAA;T;TTE;TTI;TTO;TTA;KE;KAAI;KI;KII;KO;KOO;Y-CREE KOO;KA;KAA;KWE;"
    ++ "WEST-CREE KWE;KWI;WEST-CREE KWI;KWII;WEST-CREE KWII;KWO;WEST-CREE KWO;KWOO;"
    ++ "WEST-CREE KWOO;KWA;WEST-CREE KWA;KWAA;WEST-CREE KWAA;NASKAPI KWAA;K;KW;SOUTH-SLAVEY KEH;"
    ++ "SOUTH-SLAVEY KIH;SOUTH-SLAVEY KOH;SOUTH-SLAVEY KAH;CE;CAAI;CI;CII;CO;COO;Y-CREE COO;CA;"
    ++ "CAA;CWE;WEST-CREE CWE;CWI;WEST-CREE CWI;CWII;WEST-CREE CWII;CWO;WEST-CREE CWO;CWOO;"
    ++ "WEST-CREE CWOO;CWA;WEST-CREE CWA;CWAA;WEST-CREE CWAA;NASKAPI CWAA;C;SAYISI TH;ME;MAAI;"
    ++ "MI;MII;MO;MOO;Y-CREE MOO;MA;MAA;MWE;WEST-CREE MWE;MWI;WEST-CREE MWI;MWII;WEST-CREE MWII;"
    ++ "MWO;WEST-CREE MWO;MWOO;WEST-CREE MWOO;MWA;WEST-CREE MWA;MWAA;WEST-CREE MWAA;"
    ++ "NASKAPI MWAA;M;WEST-CREE M;MH;ATHAPASCAN M;SAYISI M;NE;NAAI;NI;NII;NO;NOO;Y-CREE NOO;NA;"
    ++ "NAA;NWE;WEST-CREE NWE;NWA;WEST-CREE NWA;NWAA;WEST-CREE NWAA;NASKAPI NWAA;N;CARRIER NG;"
    ++ "NH;LE;LAAI;LI;LII;LO;LOO;Y-CREE LOO;LA;LAA;LWE;WEST-CREE LWE;LWI;WEST-CREE LWI;LWII;"
    ++ "WEST-CREE LWII;LWO;WEST-CREE LWO;LWOO;WEST-CREE LWOO;LWA;WEST-CREE LWA;LWAA;"
    ++ "WEST-CREE LWAA;L;WEST-CREE L;MEDIAL L;SE;SAAI;SI;SII;SO;SOO;Y-CREE SOO;SA;SAA;SWE;"
    ++ "WEST-CREE SWE;SWI;WEST-CREE SWI;SWII;WEST-CREE SWII;SWO;WEST-CREE SWO;SWOO;"
    ++ "WEST-CREE SWOO;SWA;WEST-CREE SWA;SWAA;WEST-CREE SWAA;NASKAPI SWAA;S;ATHAPASCAN S;SW;"
    ++ "BLACKFOOT S;MOOSE-CREE SK;NASKAPI SKW;NASKAPI S-W;NASKAPI SPWA;NASKAPI STWA;"
    ++ "NASKAPI SKWA;NASKAPI SCWA;SHE;SHI;SHII;SHO;SHOO;SHA;SHAA;SHWE;WEST-CREE SHWE;SHWI;"
    ++ "WEST-CREE SHWI;SHWII;WEST-CREE SHWII;SHWO;WEST-CREE SHWO;SHWOO;WEST-CREE SHWOO;SHWA;"
    ++ "WEST-CREE SHWA;SHWAA;WEST-CREE SHWAA;SH;YE;YAAI;YI;YII;YO;YOO;Y-CREE YOO;YA;YAA;YWE;"
    ++ "WEST-CREE YWE;YWI;WEST-CREE YWI;YWII;WEST-CREE YWII;YWO;WEST-CREE YWO;YWOO;"
    ++ "WEST-CREE YWOO;YWA;WEST-CREE YWA;YWAA;WEST-CREE YWAA;NASKAPI YWAA;Y;BIBLE-CREE Y;"
    ++ "WEST-CREE Y;SAYISI YI;RE;R-CREE RE;WEST-CREE LE;RAAI;RI;RII;RO;ROO;WEST-CREE LO;RA;RAA;"
    ++ "WEST-CREE LA;RWAA;WEST-CREE RWAA;R;WEST-CREE R;MEDIAL R;FE;FAAI;FI;FII;FO;FOO;FA;FAA;"
    ++ "FWAA;WEST-CREE FWAA;F;THE;N-CREE THE;THI;N-CREE THI;THII;N-CREE THII;THO;THOO;THA;THAA;"
    ++ "THWAA;WEST-CREE THWAA;TH;TTHE;TTHI;TTHO;TTHA;TTH;TYE;TYI;TYO;TYA;NUNAVIK HE;NUNAVIK HI;"
    ++ "NUNAVIK HII;NUNAVIK HO;NUNAVIK HOO;NUNAVIK HA;NUNAVIK HAA;NUNAVIK H;NUNAVUT H;HK;QAAI;"
    ++ "QI;QII;QO;QOO;QA;QAA;Q;TLHE;TLHI;TLHO;TLHA;WEST-CREE RE;WEST-CREE RI;WEST-CREE RO;"
    ++ "WEST-CREE RA;NGAAI;NGI;NGII;NGO;NGOO;NGA;NGAA;NG;NNG;SAYISI SHE;SAYISI SHI;SAYISI SHO;"
    ++ "SAYISI SHA;WOODS-CREE THE;WOODS-CREE THI;WOODS-CREE THO;WOODS-CREE THA;WOODS-CREE TH;"
    ++ "LHI;LHII;LHO;LHOO;LHA;LHAA;LH;TH-CREE THE;TH-CREE THI;TH-CREE THII;TH-CREE THO;"
    ++ "TH-CREE THOO;TH-CREE THA;TH-CREE THAA;TH-CREE TH;AIVILIK B"⟩,
  ⟨0x15b0, "CANADIAN SYLLABICS BLACKFOOT", "E;I;O;A;WE;WI;WO;WA;NE;NI;NO;NA;KE;KI;KO;KA"⟩,
  ⟨0x15c0, "CANADIAN SYLLABICS SAYISI", "HE;HI;HO;HA"⟩,
  ⟨0x15c4, "CANADIAN SYLLABICS CARRIER",
    "GHU;GHO;GHE;GHEE;GHI;GHA;RU;RO;RE;REE;RI;RA;WU;WO;WE;WEE;WI;WA;HWU;HWO;HWE;HWEE;HWI;HWA;"
    ++ "THU;THO;THE;THEE;THI;THA;TTU;TTO;TTE;TTEE;TTI;TTA;PU;PO;PE;PEE;PI;PA;P;GU;GO;GE;GEE;GI;"
    ++ "GA;KHU;KHO;KHE;KHEE;KHI;KHA;KKU;KKO;KKE;KKEE;KKI;KKA;KK;NU;NO;NE;NEE;NI;NA;MU;MO;ME;MEE;"
    ++ "MI;MA;YU;YO;YE;YEE;YI;YA;JU"⟩,
  ⟨0x1615, "CANADIAN SYLLABICS",
    "SAYISI JU;CARRIER JO;CARRIER JE;CARRIER JEE;CARRIER JI;SAYISI JI"⟩,
  ⟨0x161b, "CANADIAN SYLLABICS CARRIER",
    "JA;JJU;JJO;JJE;JJEE;JJI;JJA;LU;LO;LE;LEE;LI;LA;DLU;DLO;DLE;DLEE;DLI;DLA;LHU;LHO;LHE;"
    ++ "LHEE;LHI;LHA;TLHU;TLHO;TLHE;TLHEE;TLHI;TLHA;TLU;TLO;TLE;TLEE;TLI;TLA;ZU;ZO;ZE;ZEE;ZI;ZA;"
    ++ "Z;INITIAL Z;DZU;DZO;DZE;DZEE;DZI;DZA;SU;SO;SE;SEE;SI;SA;SHU;SHO;SHE;SHEE;SHI;SHA;SH;TSU;"
    ++ "TSO;TSE;TSEE;TSI;TSA;CHU;CHO;CHE;CHEE;CHI;CHA;TTSU;TTSO;TTSE;TTSEE;TTSI;TTSA"⟩,
  ⟨0x166d, "CANADIAN SYLLABICS",
    "CHI SIGN;FULL STOP;QAI;NGAI;NNGI;NNGII;NNGO;NNGOO;NNGA;NNGAA;WOODS-CREE THWEE;"
    ++ "WOODS-CREE THWI;WOODS-CREE THWII;WOODS-CREE THWO;WOODS-CREE THWOO;WOODS-CREE THWA;"
    ++ "WOODS-CREE THWAA;WOODS-CREE FINAL TH;BLACKFOOT W"⟩,
  ⟨0x18b0, "CANADIAN SYLLABICS",
    "OY;AY;AAY;WAY;POY;PAY;PWOY;TAY;KAY;KWAY;MAY;NOY;NAY;LAY;SOY;SAY;SHOY;SHAY;SHWOY;YOY;YAY;"
    ++ "RAY;NWI;OJIBWAY NWI;NWII;OJIBWAY NWII;NWO;OJIBWAY NWO;NWOO;OJIBWAY NWOO;RWEE;RWI;RWII;"
    ++ "RWO;RWOO;RWA;OJIBWAY P;OJIBWAY T;OJIBWAY K;OJIBWAY C;OJIBWAY M;OJIBWAY N;OJIBWAY S;"
    ++ "OJIBWAY SH;EASTERN W;WESTERN W;FINAL SMALL RING;FINAL RAISED DOT;R-CREE RWE;"
    ++ "WEST-CREE LOO;WEST-CREE LAA;THWE;THWA;TTHWE;TTHOO;TTHAA;TLHWE;TLHOO;SAYISI SHWE;"
    ++ "SAYISI SHOO;SAYISI HOO;CARRIER GWU;CARRIER DENE GEE;CARRIER GAA;CARRIER GWA;SAYISI JUU;"
    ++ "CARRIER JWA;BEAVER DENE L;BEAVER DENE R;CARRIER DENTAL S"⟩,
  ⟨0xab70, "CHEROKEE SMALL LETTER",
    "A;E;I;O;U;V;GA;KA;GE;GI;GO;GU;GV;HA;HE;HI;HO;HU;HV;LA;LE;LI;LO;LU;LV;MA;ME;MI;MO;MU;NA;"
    ++ "HNA;NAH;NE;NI;NO;NU;NV;QUA;QUE;QUI;QUO;QUU;QUV;SA;S;SE;SI;SO;SU;SV;DA;TA;DE;TE;DI;TI;DO;"
    ++ "DU;DV;DLA;TLA;TLE;TLI;TLO;TLU;TLV;TSA;TSE;TSI;TSO;TSU;TSV;WA;WE;WI;WO;WU;WV;YA"⟩,
  ⟨0x10400, "DESERET CAPITAL LETTER",
    "LONG I;LONG E;LONG A;LONG AH;LONG O;LONG OO;SHORT I;SHORT E;SHORT A;SHORT AH;SHORT O;"
    ++ "SHORT OO;AY;OW;WU;YEE;H;PEE;BEE;TEE;DEE;CHEE;JEE;KAY;GAY;EF;VEE;ETH;THEE;ES;ZEE;ESH;"
    ++ "ZHEE;ER;EL;EM;EN;ENG;OI;EW"⟩,
  ⟨0x10428, "DESERET SMALL LETTER",
    "LONG I;LONG E;LONG A;LONG AH;LONG O;LONG OO;SHORT I;SHORT E;SHORT A;SHORT AH;SHORT O;"
    ++ "SHORT OO;AY;OW;WU;YEE;H;PEE;BEE;TEE;DEE;CHEE;JEE;KAY;GAY;EF;VEE;ETH;THEE;ES;ZEE;ESH;"
    ++ "ZHEE;ER;EL;EM;EN;ENG;OI;EW"⟩,
  ⟨0x104b0, "OSAGE CAPITAL LETTER",
    "A;AI;AIN;AH;BRA;CHA;EHCHA;E;EIN;HA;HYA;I;KA;EHKA;KYA;LA;MA;NA;O;OIN;PA;EHPA;SA;SHA;TA;"
    ++ "EHTA;TSA;EHTSA;TSHA;DHA;U;WA;KHA;GHA;ZA;ZHA"⟩,
  ⟨0x104d8, "OSAGE SMALL LETTER",
    "A;AI;AIN;AH;BRA;CHA;EHCHA;E;EIN;HA;HYA;I;KA;EHKA;KYA;LA;MA;NA;O;OIN;PA;EHPA;SA;SHA;TA;"
    ++ "EHTA;TSA;EHTSA;TSHA;DHA;U;WA;KHA;GHA;ZA;ZHA"⟩,
  ⟨0x11ab0, "CANADIAN SYLLABICS NATTILIK", "HI;HII;HO;HOO;HA;HAA;SHRI;SHRII;SHRO;SHROO;SHRA;SHRAA"⟩,
  ⟨0x11abc, "CANADIAN SYLLABICS", "SPE;SPI;SPO;SPA"⟩]

/-- Scripts of western Africa. -/
def africanNames : List NameRun := [
  ⟨0xa500, "VAI SYLLABLE",
    "EE;EEN;HEE;WEE;WEEN;PEE;BHEE;BEE;MBEE;KPEE;MGBEE;GBEE;FEE;VEE;TEE;THEE;DHEE;DHHEE;LEE;"
    ++ "REE;DEE;NDEE;SEE;SHEE;ZEE;ZHEE;CEE;JEE;NJEE;YEE;KEE;NGGEE;GEE;MEE;NEE;NYEE;I;IN;HI;HIN;"
    ++ "WI;WIN;PI;BHI;BI;MBI;KPI;MGBI;GBI;FI;VI;TI;THI;DHI;DHHI;LI;RI;DI;NDI;SI;SHI;ZI;ZHI;CI;"
    ++ "JI;NJI;YI;KI;NGGI;GI;MI;NI;NYI;A;AN;NGAN;HA;HAN;WA;WAN;PA;BHA;BA;MBA;KPA;KPAN;MGBA;GBA;"
    ++ "FA;VA;TA;THA;DHA;DHHA;LA;RA;DA;NDA;SA;SHA;ZA;ZHA;CA;JA;NJA;YA;KA;KAN;NGGA;GA;MA;NA;NYA;"
    ++ "OO;OON;HOO;WOO;WOON;POO;BHOO;BOO;MBOO;KPOO;MGBOO;GBOO;FOO;VOO;TOO;THOO;DHOO;DHHOO;LOO;"
    ++ "ROO;DOO;NDOO;SOO;SHOO;ZOO;ZHOO;COO;JOO;NJOO;YOO;KOO;NGGOO;GOO;MOO;NOO;NYOO;U;UN;HU;HUN;"
    ++ "WU;WUN;PU;BHU;BU;MBU;KPU;MGBU;GBU;FU;VU;TU;THU;DHU;DHHU;LU;RU;DU;NDU;SU;SHU;ZU;ZHU;CU;"
    ++ "JU;NJU;YU;KU;NGGU;GU;MU;NU;NYU;O;ON;NGON;HO;HON;WO;WON;PO;BHO;BO;MBO;KPO;MGBO;GBO;GBON;"
    ++ "FO;VO;TO;THO;DHO;DHHO;LO;RO;DO;NDO;SO;SHO;ZO;ZHO;CO;JO;NJO;YO;KO;NGGO;GO;MO;NO;NYO;E;EN;"
    ++ "NGEN;HE;HEN;WE;WEN;PE;BHE;BE;MBE;KPE;KPEN;MGBE;GBE;GBEN;FE;VE;TE;THE;DHE;DHHE;LE;RE;DE;"
    ++ "NDE;SE;SHE;ZE;ZHE;CE;JE;NJE;YE;KE;NGGE;NGGEN;GE;GEN;ME;NE;NYE;NG;LENGTHENER"⟩,
  ⟨0xa60d, "VAI", "COMMA;FULL STOP;QUESTION MARK"⟩,
  ⟨0xa610, "VAI SYLLABLE NDOLE", "FA;KA;SOO"⟩,
  ⟨0xa613, "VAI SYMBOL", "FEENG;KEENG;TING;NII;BANG;FAA;TAA;DANG;DOONG;KUNG;TONG;DO-O;JONG"⟩,
  ⟨0xa62a, "VAI SYLLABLE NDOLE", "MA;DO"⟩,
  ⟨0xa6a0, "BAMUM LETTER",
    "A;KA;U;KU;EE;REE;TAE;O;NYI;I;LA;PA;RII;RIEE;LEEEE;MEEEE;TAA;NDAA;NJAEM;M;SUU;MU;SHII;SI;"
    ++ "SHEUX;SEUX;KYEE;KET;NUAE;NU;NJUAE;YOQ;SHU;YUQ;YA;NSHA;KEUX;PEUX;NJEE;NTEE;PUE;WUE;PEE;"
    ++ "FEE;RU;LU;MI;NI;REUX;RAE;KEN;NGKWAEN;NGGA;NGA;SHO;PUAE;FU;FOM;WA;NA;LI;PI;LOQ;KO;MBEN;"
    ++ "REN;MEN;MA;TI;KI;MO;MBAA;TET;KPA;TEN;NTUU;SAMBA;FAAMAE;KOVUU;KOGHOM"⟩,
  ⟨0xa6f0, "BAMUM",
    "COMBINING MARK KOQNDON;COMBINING MARK TUKWENTIS;NJAEMLI;FULL STOP;COLON;COMMA;SEMICOLON;"
    ++ "QUESTION MARK"⟩,
  ⟨0x10480, "OSMANYA LETTER",
    "ALEF;BA;TA;JA;XA;KHA;DEEL;RA;SA;SHIIN;DHA;CAYN;GA;FA;QAAF;KAAF;LAAN;MIIN;NUUN;WAW;HA;YA;"
    ++ "A;E;I;O;U;AA;EE;OO"⟩,
  ⟨0x16800, "BAMUM LETTER PHASE-A",
    "NGKUE MFON;GBIEE FON;PON MFON PIPAEMGBIEE;PON MFON PIPAEMBA;NAA MFON;SHUENSHUET;"
    ++ "TITA MFON;NZA MFON;SHINDA PA NJI;PON PA NJI PIPAEMGBIEE;PON PA NJI PIPAEMBA;MAEMBGBIEE;"
    ++ "TU MAEMBA;NGANGU;MAEMVEUX;MANSUAE;MVEUAENGAM;SEUNYAM;NTOQPEN;KEUKEUTNDA;NKINDI;SUU;"
    ++ "NGKUENZEUM;LAPAQ;LET KUT;NTAP MFAA;MAEKEUP;PASHAE;GHEUAERAE;PAMSHAE;MON NGGEUAET;"
    ++ "NZUN MEUT;U YUQ NAE;GHEUAEGHEUAE;NTAP NTAA;SISA;MGBASA;MEUNJOMNDEUQ;MOOMPUQ;KAFA;"
    ++ "PA LEERAEWA;NDA LEERAEWA;PET;MAEMKPEN;NIKA;PUP;TUAEP;LUAEP;SONJAM;TEUTEUWEN;MAENYI;KET;"
    ++ "NDAANGGEUAET;KUOQ;MOOMEUT;SHUM;LOMMAE;FIRI;ROM;KPOQ;SOQ;MAP PIEET;SHIRAE;NTAP;"
    ++ "SHOQ NSHUT YUM;NYIT MONGKEUAEQ;PAARAE;NKAARAE;UNKNOWN;NGGEN;MAESI;NJAM;MBANYI;NYET;"
    ++ "TEUAEN;SOT;PAAM;NSHIEE;MAEM;NYI;KAQ;NSHA;VEE;LU;NEN;NAQ;MBAQ"⟩,
  ⟨0x16857, "BAMUM LETTER PHASE-B",
    "NSHUET;TU MAEMGBIEE;SIEE;SET TU;LOM NTEUM;MBA MAELEE;KIEEM;YEURAE;MBAARAE;KAM;PEESHI;"
    ++ "YAFU LEERAEWA;LAM NSHUT NYAM;NTIEE SHEUOQ;NDU NJAA;GHEUGHEUAEM;PIT;TU NSIEE;SHET NJAQ;"
    ++ "SHEUAEQTU;MFON TEUAEQ;MBIT MBAAKET;NYI NTEUM;KEUPUQ;GHEUGHEN;KEUYEUX;LAANAE;PARUM;VEUM;"
    ++ "NGKINDI MVOP;NGGEU MBU;WUAET;SAKEUAE;TAAM;MEUQ;NGGUOQ;NGGUOQ LARGE;MFIYAQ;SUE;MBEURI;"
    ++ "MONTIEEN;NYAEMAE;PUNGAAM;MEUT NGGEET;FEUX;MBUOQ;FEE;KEUAEM;MA NJEUAENA;MA NJUQA;LET;"
    ++ "NGGAAM;NSEN;MA;KIQ;NGOM"⟩,
  ⟨0x1688f, "BAMUM LETTER PHASE-C",
    "NGKUE MAEMBA;NZA;YUM;WANGKUOQ;NGGEN;NDEUAEREE;NGKAQ;GHARAE;MBEEKEET;GBAYI;"
    ++ "NYIR MKPARAQ MEUN;NTU MBIT;MBEUM;PIRIEEN;NDOMBU;MBAA CABBAGE-TREE;KEUSHEUAEP;GHAP;"
    ++ "KEUKAQ;YU MUOMAE;NZEUM;MBUE;NSEUAEN;MBIT;YEUQ;KPARAQ;KAA;SEUX;NDIDA;TAASHAE;NJUEQ;"
    ++ "TITA YUE;SUAET;NGGUAEN NYAM;VEUX;NANSANAQ;MA KEUAERI;NTAA;NGGUON;LAP;MBIRIEEN;MGBASAQ;"
    ++ "NTEUNGBA;TEUTEUX;NGGUM;FUE;NDEUT;NSA;NSHAQ;BUNG;VEUAEPEN;MBERAE;RU;NJAEM;LAM;TITUAEP;"
    ++ "NSUOT NGOM;NJEEEE;KET;NGGU;MAESI;MBUAEM;LU;KUT;NJAM;NGOM;WUP;NGGUEET;NSOM;NTEN;"
    ++ "KUOP NKAARAE;NSUN;NDAM;MA NSIEE;YAA;NDAP;SHUEQ;SETFON;MBI;MAEMBA;MBANYI;KEUSEUX;MBEUX;"
    ++ "KEUM;MBAA PICKET;YUWOQ;NJEUX;MIEE;MUAE;SHIQ;KEN LAW;KEN FATIGUE;NGAQ;NAQ;LIQ;PIN;PEN;TET"⟩,
  ⟨0x168f1, "BAMUM LETTER PHASE-D",
    "MBUO;WAP;NJI;MFON;NJIEE;LIEE;NJEUT;NSHEE;NGGAAMAE;NYAM;WUAEN;NGKUN;SHEE;NGKAP;"
    ++ "KEUAETMEUN;TEUT;SHEUAE;NJAP;SUE;KET;YAEMMAE;KUOM;SAP;MFEUT;NDEUX;MALEERI;MEUT;SEUAEQ;"
    ++ "YEN;NJEUAEM;KEUOT MBUAE;NGKEURI;TU;GHAA;NGKYEE;FEUFEUAET;NDEE;MGBOFUM;LEUAEP;NDON;MONI;"
    ++ "MGBEUN;PUUT;MGBIEE;MFO;LUM;NSIEEP;MBAA;KWAET;NYET;TEUAEN;SOT;YUWOQ;KEUM;RAEM;TEEEE;"
    ++ "NGKEUAEQ;MFEUAE;NSIEET;KEUP;PIP;PEUTAE;NYUE;LET;NGGAAM;MFIEE;NGGWAEN;YUOM;PAP;YUOP;NDAM;"
    ++ "NTEUM;SUAE;KUN;NGGEUX;NGKIEE;TUOT;MEUN;KUQ;NSUM;TEUN;MAENJET;NGGAP;LEUM;NGGUOM;NSHUT;"
    ++ "NJUEQ;GHEUAE;KU;REN OLD;TAE;TOQ;NYI;RII;LEEEE;MEEEE;M;SUU;MU;SHII;SHEUX;KYEE;NU;SHU;"
    ++ "NTEE;PEE;NI;SHOQ;PUQ;MVOP;LOQ;REN MUCH;TI;NTUU;MBAA SEVEN;SAQ;FAA"⟩,
  ⟨0x16966, "BAMUM LETTER PHASE-E",
    "NDAP;TOON;MBEUM;LAP;VOM;LOON;PAA;SOM;RAQ;NSHUOP;NDUN;PUAE;TAM;NGKA;KPEUX;WUO;SEE;"
    ++ "NGGEUAET;PAAM;TOO;KUOP;LOM;NSHIEE;NGOP;MAEM;NGKEUX;NGOQ;NSHUE;RIMGBA;NJEUX;PEEM;SAA;"
    ++ "NGGURAE;MGBA;GHEUX;NGKEUAEM;NJAEMLI;MAP;LOOT;NGGEEEE;NDIQ;TAEN NTEUM;SET;PUM;"
    ++ "NDAA SOFTNESS;NGGUAESHAE NYAM;YIEE;GHEUN;TUAE;YEUAE;PO;TUMAE;KEUAE;SUAEN;TEUAEQ;VEUAE;"
    ++ "WEUX;LAAM;PU;TAAQ;GHAAMAE;NGEUREUT;SHEUAEQ;MGBEN;MBEE;NZAQ;NKOM;GBET;TUM;KUET;YAP;"
    ++ "NYI CLEAVER;YIT;MFEUQ;NDIAQ;PIEEQ;YUEQ;LEUAEM;FUE;GBEUX;NGKUP;KET;MAE;NGKAAMI;GHET;FA;"
    ++ "NTUM;PEUT;YEUM;NGGEUAE;NYI BETWEEN;NZUQ;POON;MIEE;FUET;NAE;MUAE;GHEUAE;FU I;MVI;PUAQ;"
    ++ "NGKUM;KUT;PIET;NTAP;YEUAET;NGGUP;PA PEOPLE;FU CALL;FOM;NJEE;A;TOQ;O;I;LAQ;PA PLURAL;TAA;"
    ++ "TAQ;NDAA MY HOUSE;SHIQ;YEUX;NGUAE;YUAEN;YOQ SWIMMING;YOQ COVER;YUQ;YUN;KEUX;PEUX;"
    ++ "NJEE EPOCH;PUE;WUE;FEE;VEE;LU;MI;REUX;RAE;NGUAET;NGA;SHO;SHOQ;FU REMEDY;NA;PI;LOQ;KO;"
    ++ "MEN;MA;MAQ;TEU;KI;MON;TEN;FAQ;GHOM"⟩,
  ⟨0x16a03, "BAMUM LETTER PHASE-F",
    "KA;U;KU;EE;REE;TAE;NYI;LA;RII;RIEE;MEEEE;TAA;NDAA;NJAEM;M;SUU;SHII;SI;SEUX;KYEE;KET;"
    ++ "NUAE;NU;NJUAE;YOQ;SHU;YA;NSHA;PEUX;NTEE;WUE;PEE;RU;NI;REUX;KEN;NGKWAEN;NGGA;SHO;PUAE;"
    ++ "FOM;WA;LI;LOQ;KO;MBEN;REN;MA;MO;MBAA;TET;KPA;SAMBA;VUEQ"⟩,
  ⟨0x16ad0, "BASSA VAH LETTER",
    "ENNI;KA;SE;FA;MBE;YIE;GAH;DHII;KPAH;JO;HWAH;WA;ZO;GBU;DO;CE;UWU;TO;BA;VU;YEIN;PA;WADDA;"
    ++ "A;O;OO;U;EE;E;I"⟩,
  ⟨0x16af0, "BASSA VAH COMBINING", "HIGH TONE;LOW TONE;MID TONE;LOW-MID TONE;HIGH-LOW TONE"⟩,
  ⟨0x16af5, "BASSA VAH FULL", "STOP"⟩,
  ⟨0x16e40, "MEDEFAIDRIN CAPITAL LETTER",
    "M;S;V;W;ATIU;Z;KP;P;T;G;F;I;K;A;J;E;B;C;U;YU;L;Q;HP;NY;X;D;OE;N;R;O;AI;Y"⟩,
  ⟨0x16e60, "MEDEFAIDRIN SMALL LETTER",
    "M;S;V;W;ATIU;Z;KP;P;T;G;F;I;K;A;J;E;B;C;U;YU;L;Q;HP;NY;X;D;OE;N;R;O;AI;Y"⟩,
  ⟨0x16e80, "MEDEFAIDRIN DIGIT", "ZERO;ONE;TWO;THREE;FOUR;FIVE;SIX;SEVEN;EIGHT;NINE"⟩,
  ⟨0x16e8a, "MEDEFAIDRIN NUMBER",
    "TEN;ELEVEN;TWELVE;THIRTEEN;FOURTEEN;FIFTEEN;SIXTEEN;SEVENTEEN;EIGHTEEN;NINETEEN"⟩,
  ⟨0x16e94, "MEDEFAIDRIN",
    "DIGIT ONE ALTERNATE FORM;DIGIT TWO ALTERNATE FORM;DIGIT THREE ALTERNATE FORM;COMMA;"
    ++ "FULL STOP;SYMBOL AIVA;EXCLAMATION OH"⟩,
  ⟨0x1e800, "MENDE KIKAKUI SYLLABLE",
    "M001 KI;M002 KA;M003 KU;M065 KEE;M095 KE;M076 KOO;M048 KO;M179 KUA;M004 WI;M005 WA;"
    ++ "M006 WU;M126 WEE;M118 WE;M114 WOO;M045 WO;M194 WUI;M143 WEI;M061 WVI;M049 WVA;M139 WVE;"
    ++ "M007 MIN;M008 MAN;M009 MUN;M059 MEN;M094 MON;M154 MUAN;M189 MUEN;M010 BI;M011 BA;"
    ++ "M012 BU;M150 BEE;M097 BE;M103 BOO;M138 BO;M013 I;M014 A;M015 U;M163 EE;M100 E;M165 OO;"
    ++ "M147 O;M137 EI;M131 IN;M135 IN;M195 AN;M178 EN;M019 SI;M020 SA;M021 SU;M162 SEE;M116 SE;"
    ++ "M136 SOO;M079 SO;M196 SIA;M025 LI;M026 LA;M027 LU;M084 LEE;M073 LE;M054 LOO;M153 LO;"
    ++ "M110 LONG LE;M016 DI;M017 DA;M018 DU;M089 DEE;M180 DOO;M181 DO;M022 TI;M023 TA;M024 TU;"
    ++ "M091 TEE;M055 TE;M104 TOO;M069 TO;M028 JI;M029 JA;M030 JU;M157 JEE;M113 JE;M160 JOO;"
    ++ "M063 JO;M175 LONG JO;M031 YI;M032 YA;M033 YU;M109 YEE;M080 YE;M141 YOO;M121 YO;M034 FI;"
    ++ "M035 FA;M036 FU;M078 FEE;M075 FE;M133 FOO;M088 FO;M197 FUA;M101 FAN;M037 NIN;M038 NAN;"
    ++ "M039 NUN;M117 NEN;M169 NON;M176 HI;M041 HA;M186 HU;M040 HEE;M096 HE;M042 HOO;M140 HO;"
    ++ "M083 HEEI;M128 HOOU;M053 HIN;M130 HAN;M087 HUN;M052 HEN;M193 HON;M046 HUAN;M090 NGGI;"
    ++ "M043 NGGA;M082 NGGU;M115 NGGEE;M146 NGGE;M156 NGGOO;M120 NGGO;M159 NGGAA;M127 NGGUA;"
    ++ "M086 LONG NGGE;M106 LONG NGGOO;M183 LONG NGGO;M155 GI;M111 GA;M168 GU;M190 GEE;"
    ++ "M166 GUEI;M167 GUAN;M184 NGEN;M057 NGON;M177 NGUAN;M068 PI;M099 PA;M050 PU;M081 PEE;"
    ++ "M051 PE;M102 POO;M066 PO;M145 MBI;M062 MBA;M122 MBU;M047 MBEE;M188 MBEE;M072 MBE;"
    ++ "M172 MBOO;M174 MBO;M187 MBUU;M161 LONG MBE;M105 LONG MBOO;M142 LONG MBO;M132 KPI;"
    ++ "M092 KPA;M074 KPU;M044 KPEE;M108 KPE;M112 KPOO;M158 KPO;M124 GBI;M056 GBA;M148 GBU;"
    ++ "M093 GBEE;M107 GBE;M071 GBOO;M070 GBO;M171 RA;M123 NDI;M129 NDA;M125 NDU;M191 NDEE;"
    ++ "M119 NDE;M067 NDOO;M064 NDO;M152 NJA;M192 NJU;M149 NJEE;M134 NJOO;M182 VI;M185 VA;"
    ++ "M151 VU;M173 VEE;M085 VE;M144 VOO;M077 VO;M164 NYIN;M058 NYAN;M170 NYUN;M098 NYEN;"
    ++ "M060 NYON"⟩,
  ⟨0x1e8c7, "MENDE KIKAKUI DIGIT", "ONE;TWO;THREE;FOUR;FIVE;SIX;SEVEN;EIGHT;NINE"⟩,
  ⟨0x1e8d0, "MENDE KIKAKUI COMBINING NUMBER",
    "TEENS;TENS;HUNDREDS;THOUSANDS;TEN THOUSANDS;HUNDRED THOUSANDS;MILLIONS"⟩,
  ⟨0x1e900, "ADLAM CAPITAL LETTER",
    "ALIF;DAALI;LAAM;MIIM;BA;SINNYIIYHE;PE;BHE;RA;E;FA;I;O;DHA;YHE;WAW;NUN;KAF;YA;U;JIIM;CHI;"
    ++ "HA;QAAF;GA;NYA;TU;NHA;VA;KHA;GBE;ZAL;KPO;SHA"⟩,
  ⟨0x1e922, "ADLAM SMALL LETTER",
    "ALIF;DAALI;LAAM;MIIM;BA;SINNYIIYHE;PE;BHE;RA;E;FA;I;O;DHA;YHE;WAW;NUN;KAF;YA;U;JIIM;CHI;"
    ++ "HA;QAAF;GA;NYA;TU;NHA;VA;KHA;GBE;ZAL;KPO;SHA"⟩,
  ⟨0x1e944, "ADLAM",
    "ALIF LENGTHENER;VOWEL LENGTHENER;GEMINATION MARK;HAMZA;CONSONANT MODIFIER;"
    ++ "GEMINATE CONSONANT MODIFIER;NUKTA;NASALIZATION MARK"⟩,
  ⟨0x1e95e, "ADLAM INITIAL", "EXCLAMATION MARK;QUESTION MARK"⟩]

/-- Yi syllables and radicals, Lisu and Miao letters. -/
def yiNames : List NameRun := [
  ⟨0xa000, "YI SYLLABLE",
    "IT;IX;I;IP;IET;IEX;IE;IEP;AT;AX;A;AP;UOX;UO;UOP;OT;OX;O;OP;EX;E;WU;BIT;BIX;BI;BIP;BIET;"
    ++ "BIEX;BIE;BIEP;BAT;BAX;BA;BAP;BUOX;BUO;BUOP;BOT;BOX;BO;BOP;BEX;BE;BEP;BUT;BUX;BU;BUP;"
    ++ "BURX;BUR;BYT;BYX;BY;BYP;BYRX;BYR;PIT;PIX;PI;PIP;PIEX;PIE;PIEP;PAT;PAX;PA;PAP;PUOX;PUO;"
    ++ "PUOP;POT;POX;PO;POP;PUT;PUX;PU;PUP;PURX;PUR;PYT;PYX;PY;PYP;PYRX;PYR;BBIT;BBIX;BBI;BBIP;"
    ++ "BBIET;BBIEX;BBIE;BBIEP;BBAT;BBAX;BBA;BBAP;BBUOX;BBUO;BBUOP;BBOT;BBOX;BBO;BBOP;BBEX;BBE;"
    ++ "BBEP;BBUT;BBUX;BBU;BBUP;BBURX;BBUR;BBYT;BBYX;BBY;BBYP;NBIT;NBIX;NBI;NBIP;NBIEX;NBIE;"
    ++ "NBIEP;NBAT;NBAX;NBA;NBAP;NBOT;NBOX;NBO;NBOP;NBUT;NBUX;NBU;NBUP;NBURX;NBUR;NBYT;NBYX;NBY;"
    ++ "NBYP;NBYRX;NBYR;HMIT;HMIX;HMI;HMIP;HMIEX;HMIE;HMIEP;HMAT;HMAX;HMA;HMAP;HMUOX;HMUO;HMUOP;"
    ++ "HMOT;HMOX;HMO;HMOP;HMUT;HMUX;HMU;HMUP;HMURX;HMUR;HMYX;HMY;HMYP;HMYRX;HMYR;MIT;MIX;MI;"
    ++ "MIP;MIEX;MIE;MIEP;MAT;MAX;MA;MAP;MUOT;MUOX;MUO;MUOP;MOT;MOX;MO;MOP;MEX;ME;MUT;MUX;MU;"
    ++ "MUP;MURX;MUR;MYT;MYX;MY;MYP;FIT;FIX;FI;FIP;FAT;FAX;FA;FAP;FOX;FO;FOP;FUT;FUX;FU;FUP;"
    ++ "FURX;FUR;FYT;FYX;FY;FYP;VIT;VIX;VI;VIP;VIET;VIEX;VIE;VIEP;VAT;VAX;VA;VAP;VOT;VOX;VO;VOP;"
    ++ "VEX;VEP;VUT;VUX;VU;VUP;VURX;VUR;VYT;VYX;VY;VYP;VYRX;VYR;DIT;DIX;DI;DIP;DIEX;DIE;DIEP;"
    ++ "DAT;DAX;DA;DAP;DUOX;DUO;DOT;DOX;DO;DOP;DEX;DE;DEP;DUT;DUX;DU;DUP;DURX;DUR;TIT;TIX;TI;"
    ++ "TIP;TIEX;TIE;TIEP;TAT;TAX;TA;TAP;TUOT;TUOX;TUO;TUOP;TOT;TOX;TO;TOP;TEX;TE;TEP;TUT;TUX;"
    ++ "TU;TUP;TURX;TUR;DDIT;DDIX;DDI;DDIP;DDIEX;DDIE;DDIEP;DDAT;DDAX;DDA;DDAP;DDUOX;DDUO;DDUOP;"
    ++ "DDOT;DDOX;DDO;DDOP;DDEX;DDE;DDEP;DDUT;DDUX;DDU;DDUP;DDURX;DDUR;NDIT;NDIX;NDI;NDIP;NDIEX;"
    ++ "NDIE;NDAT;NDAX;NDA;NDAP;NDOT;NDOX;NDO;NDOP;NDEX;NDE;NDEP;NDUT;NDUX;NDU;NDUP;NDURX;NDUR;"
    ++ "HNIT;HNIX;HNI;HNIP;HNIET;HNIEX;HNIE;HNIEP;HNAT;HNAX;HNA;HNAP;HNUOX;HNUO;HNOT;HNOX;HNOP;"
    ++ "HNEX;HNE;HNEP;HNUT;NIT;NIX;NI;NIP;NIEX;NIE;NIEP;NAX;NA;NAP;NUOX;NUO;NUOP;NOT;NOX;NO;NOP;"
    ++ "NEX;NE;NEP;NUT;NUX;NU;NUP;NURX;NUR;HLIT;HLIX;HLI;HLIP;HLIEX;HLIE;HLIEP;HLAT;HLAX;HLA;"
    ++ "HLAP;HLUOX;HLUO;HLUOP;HLOX;HLO;HLOP;HLEX;HLE;HLEP;HLUT;HLUX;HLU;HLUP;HLURX;HLUR;HLYT;"
    ++ "HLYX;HLY;HLYP;HLYRX;HLYR;LIT;LIX;LI;LIP;LIET;LIEX;LIE;LIEP;LAT;LAX;LA;LAP;LUOT;LUOX;LUO;"
    ++ "LUOP;LOT;LOX;LO;LOP;LEX;LE;LEP;LUT;LUX;LU;LUP;LURX;LUR;LYT;LYX;LY;LYP;LYRX;LYR;GIT;GIX;"
    ++ "GI;GIP;GIET;GIEX;GIE;GIEP;GAT;GAX;GA;GAP;GUOT;GUOX;GUO;GUOP;GOT;GOX;GO;GOP;GET;GEX;GE;"
    ++ "GEP;GUT;GUX;GU;GUP;GURX;GUR;KIT;KIX;KI;KIP;KIEX;KIE;KIEP;KAT;KAX;KA;KAP;KUOX;KUO;KUOP;"
    ++ "KOT;KOX;KO;KOP;KET;KEX;KE;KEP;KUT;KUX;KU;KUP;KURX;KUR;GGIT;GGIX;GGI;GGIEX;GGIE;GGIEP;"
    ++ "GGAT;GGAX;GGA;GGAP;GGUOT;GGUOX;GGUO;GGUOP;GGOT;GGOX;GGO;GGOP;GGET;GGEX;GGE;GGEP;GGUT;"
    ++ "GGUX;GGU;GGUP;GGURX;GGUR;MGIEX;MGIE;MGAT;MGAX;MGA;MGAP;MGUOX;MGUO;MGUOP;MGOT;MGOX;MGO;"
    ++ "MGOP;MGEX;MGE;MGEP;MGUT;MGUX;MGU;MGUP;MGURX;MGUR;HXIT;HXIX;HXI;HXIP;HXIET;HXIEX;HXIE;"
    ++ "HXIEP;HXAT;HXAX;HXA;HXAP;HXUOT;HXUOX;HXUO;HXUOP;HXOT;HXOX;HXO;HXOP;HXEX;HXE;HXEP;NGIEX;"
    ++ "NGIE;NGIEP;NGAT;NGAX;NGA;NGAP;NGUOT;NGUOX;NGUO;NGOT;NGOX;NGO;NGOP;NGEX;NGE;NGEP;HIT;"
    ++ "HIEX;HIE;HAT;HAX;HA;HAP;HUOT;HUOX;HUO;HUOP;HOT;HOX;HO;HOP;HEX;HE;HEP;WAT;WAX;WA;WAP;"
    ++ "WUOX;WUO;WUOP;WOX;WO;WOP;WEX;WE;WEP;ZIT;ZIX;ZI;ZIP;ZIEX;ZIE;ZIEP;ZAT;ZAX;ZA;ZAP;ZUOX;"
    ++ "ZUO;ZUOP;ZOT;ZOX;ZO;ZOP;ZEX;ZE;ZEP;ZUT;ZUX;ZU;ZUP;ZURX;ZUR;ZYT;ZYX;ZY;ZYP;ZYRX;ZYR;CIT;"
    ++ "CIX;CI;CIP;CIET;CIEX;CIE;CIEP;CAT;CAX;CA;CAP;CUOX;CUO;CUOP;COT;COX;CO;COP;CEX;CE;CEP;"
    ++ "CUT;CUX;CU;CUP;CURX;CUR;CYT;CYX;CY;CYP;CYRX;CYR;ZZIT;ZZIX;ZZI;ZZIP;ZZIET;ZZIEX;ZZIE;"
    ++ "ZZIEP;ZZAT;ZZAX;ZZA;ZZAP;ZZOX;ZZO;ZZOP;ZZEX;ZZE;ZZEP;ZZUX;ZZU;ZZUP;ZZURX;ZZUR;ZZYT;ZZYX;"
    ++ "ZZY;ZZYP;ZZYRX;ZZYR;NZIT;NZIX;NZI;NZIP;NZIEX;NZIE;NZIEP;NZAT;NZAX;NZA;NZAP;NZUOX;NZUO;"
    ++ "NZOX;NZOP;NZEX;NZE;NZUX;NZU;NZUP;NZURX;NZUR;NZYT;NZYX;NZY;NZYP;NZYRX;NZYR;SIT;SIX;SI;"
    ++ "SIP;SIEX;SIE;SIEP;SAT;SAX;SA;SAP;SUOX;SUO;SUOP;SOT;SOX;SO;SOP;SEX;SE;SEP;SUT;SUX;SU;SUP;"
    ++ "SURX;SUR;SYT;SYX;SY;SYP;SYRX;SYR;SSIT;SSIX;SSI;SSIP;SSIEX;SSIE;SSIEP;SSAT;SSAX;SSA;SSAP;"
    ++ "SSOT;SSOX;SSO;SSOP;SSEX;SSE;SSEP;SSUT;SSUX;SSU;SSUP;SSYT;SSYX;SSY;SSYP;SSYRX;SSYR;ZHAT;"
    ++ "ZHAX;ZHA;ZHAP;ZHUOX;ZHUO;ZHUOP;ZHOT;ZHOX;ZHO;ZHOP;ZHET;ZHEX;ZHE;ZHEP;ZHUT;ZHUX;ZHU;ZHUP;"
    ++ "ZHURX;ZHUR;ZHYT;ZHYX;ZHY;ZHYP;ZHYRX;ZHYR;CHAT;CHAX;CHA;CHAP;CHUOT;CHUOX;CHUO;CHUOP;CHOT;"
    ++ "CHOX;CHO;CHOP;CHET;CHEX;CHE;CHEP;CHUX;CHU;CHUP;CHURX;CHUR;CHYT;CHYX;CHY;CHYP;CHYRX;CHYR;"
    ++ "RRAX;RRA;RRUOX;RRUO;RROT;RROX;RRO;RROP;RRET;RREX;RRE;RREP;RRUT;RRUX;RRU;RRUP;RRURX;RRUR;"
    ++ "RRYT;RRYX;RRY;RRYP;RRYRX;RRYR;NRAT;NRAX;NRA;NRAP;NROX;NRO;NROP;NRET;NREX;NRE;NREP;NRUT;"
    ++ "NRUX;NRU;NRUP;NRURX;NRUR;NRYT;NRYX;NRY;NRYP;NRYRX;NRYR;SHAT;SHAX;SHA;SHAP;SHUOX;SHUO;"
    ++ "SHUOP;SHOT;SHOX;SHO;SHOP;SHET;SHEX;SHE;SHEP;SHUT;SHUX;SHU;SHUP;SHURX;SHUR;SHYT;SHYX;SHY;"
    ++ "SHYP;SHYRX;SHYR;RAT;RAX;RA;RAP;RUOX;RUO;RUOP;ROT;ROX;RO;ROP;REX;RE;REP;RUT;RUX;RU;RUP;"
    ++ "RURX;RUR;RYT;RYX;RY;RYP;RYRX;RYR;JIT;JIX;JI;JIP;JIET;JIEX;JIE;JIEP;JUOT;JUOX;JUO;JUOP;"
    ++ "JOT;JOX;JO;JOP;JUT;JUX;JU;JUP;JURX;JUR;JYT;JYX;JY;JYP;JYRX;JYR;QIT;QIX;QI;QIP;QIET;QIEX;"
    ++ "QIE;QIEP;QUOT;QUOX;QUO;QUOP;QOT;QOX;QO;QOP;QUT;QUX;QU;QUP;QURX;QUR;QYT;QYX;QY;QYP;QYRX;"
    ++ "QYR;JJIT;JJIX;JJI;JJIP;JJIET;JJIEX;JJIE;JJIEP;JJUOX;JJUO;JJUOP;JJOT;JJOX;JJO;JJOP;JJUT;"
    ++ "JJUX;JJU;JJUP;JJURX;JJUR;JJYT;JJYX;JJY;JJYP;NJIT;NJIX;NJI;NJIP;NJIET;NJIEX;NJIE;NJIEP;"
    ++ "NJUOX;NJUO;NJOT;NJOX;NJO;NJOP;NJUX;NJU;NJUP;NJURX;NJUR;NJYT;NJYX;NJY;NJYP;NJYRX;NJYR;"
    ++ "NYIT;NYIX;NYI;NYIP;NYIET;NYIEX;NYIE;NYIEP;NYUOX;NYUO;NYUOP;NYOT;NYOX;NYO;NYOP;NYUT;NYUX;"
    ++ "NYU;NYUP;XIT;XIX;XI;XIP;XIET;XIEX;XIE;XIEP;XUOX;XUO;XOT;XOX;XO;XOP;XYT;XYX;XY;XYP;XYRX;"
    ++ "XYR;YIT;YIX;YI;YIP;YIET;YIEX;YIE;YIEP;YUOT;YUOX;YUO;YUOP;YOT;YOX;YO;YOP;YUT;YUX;YU;YUP;"
    ++ "YURX;YUR;YYT;YYX;YY;YYP;YYRX;YYR"⟩,
  ⟨0xa490, "YI RADICAL",
    "QOT;LI;KIT;NYIP;CYP;SSI;GGOP;GEP;MI;HXIT;LYR;BBUT;MOP;YO;PUT;HXUO;TAT;GA;ZUP;CYT;DDUR;"
    ++ "BUR;GGUO;NYOP;TU;OP;JJUT;ZOT;PYT;HMO;YIT;VUR;SHY;VEP;ZA;JO;NZUP;JJY;GOT;JJIE;WO;DU;SHUR;"
    ++ "LIE;CY;CUOP;CIP;HXOP;SHAT;ZUR;SHOP;CHE;ZZIET;NBIE;KE"⟩,
  ⟨0xa4d0, "LISU LETTER",
    "BA;PA;PHA;DA;TA;THA;GA;KA;KHA;JA;CA;CHA;DZA;TSA;TSHA;MA;NA;LA;SA;ZHA;ZA;NGA;HA;XA;HHA;"
    ++ "FA;WA;SHA;YA;GHA;A;AE;E;EU;I;O;U;UE;UH;OE;TONE MYA TI;TONE NA PO;TONE MYA CYA;"
    ++ "TONE MYA BO;TONE MYA NA;TONE MYA JEU"⟩,
  ⟨0xa4fe, "LISU PUNCTUATION", "COMMA;FULL STOP"⟩,
  ⟨0x11fb0, "LISU LETTER", "YHA"⟩,
  ⟨0x16f00, "MIAO LETTER",
    "PA;BA;YI PA;PLA;MA;MHA;ARCHAIC MA;FA;VA;VFA;TA;DA;YI TTA;YI TA;TTA;DDA;NA;NHA;YI NNA;"
    ++ "ARCHAIC NA;NNA;NNHA;LA;LYA;LHA;LHYA;TLHA;DLHA;TLHYA;DLHYA;KA;GA;YI KA;QA;QGA;NGA;NGHA;"
    ++ "ARCHAIC NGA;HA;XA;GHA;GHHA;TSSA;DZZA;NYA;NYHA;TSHA;DZHA;YI TSHA;YI DZHA;REFORMED TSHA;"
    ++ "SHA;SSA;ZHA;ZSHA;TSA;DZA;YI TSA;SA;ZA;ZSA;ZZA;ZZSA;ARCHAIC ZZA;ZZYA;ZZSYA;WA;AH;HHA;BRI;"
    ++ "SYI;DZYI;TE;TSE;RTE"⟩,
  ⟨0x16f4f, "MIAO",
    "SIGN CONSONANT MODIFIER BAR;LETTER NASALIZATION;SIGN ASPIRATION;SIGN REFORMED VOICING;"
    ++ "SIGN REFORMED ASPIRATION"⟩,
  ⟨0x16f54, "MIAO VOWEL SIGN",
    "A;AA;AHH;AN;ANG;O;OO;WO;W;E;EN;ENG;OEY;I;IA;IAN;IANG;IO;IE;II;IU;ING;U;UA;UAN;UANG;UU;"
    ++ "UEI;UNG;Y;YI;AE;AEE;ERR;ROUNDED ERR;ER;ROUNDED ER;AI;EI;AU;OU;N;NG;UOG;YUI;OG;OER;VW;IG;"
    ++ "EA;IONG;UI"⟩,
  ⟨0x16f8f, "MIAO TONE", "RIGHT;TOP RIGHT;ABOVE;BELOW"⟩,
  ⟨0x16f93, "MIAO LETTER", "TONE-2;TONE-3;TONE-4;TONE-5;TONE-6;TONE-7;TONE-8"⟩,
  ⟨0x16f9a, "MIAO LETTER REFORMED", "TONE-1;TONE-2;TONE-4;TONE-5;TONE-6;TONE-8"⟩]

end NumberingPlan.Unicode
