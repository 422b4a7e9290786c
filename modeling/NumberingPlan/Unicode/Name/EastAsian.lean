import NumberingPlan.Unicode.Name.Run

/-! Names of East Asian letters and signs. -/

namespace NumberingPlan.Unicode

/-- Hangul letters. -/
def hangulNames : List NameRun := [
  ⟨0x1100, "HANGUL CHOSEONG",
    "KIYEOK;SSANGKIYEOK;NIEUN;TIKEUT;SSANGTIKEUT;RIEUL;MIEUM;PIEUP;SSANGPIEUP;SIOS;SSANGSIOS;"
    ++ "IEUNG;CIEUC;SSANGCIEUC;CHIEUCH;KHIEUKH;THIEUTH;PHIEUPH;HIEUH;NIEUN-KIYEOK;SSANGNIEUN;"
    ++ "NIEUN-TIKEUT;NIEUN-PIEUP;TIKEUT-KIYEOK;RIEUL-NIEUN;SSANGRIEUL;RIEUL-HIEUH;KAPYEOUNRIEUL;"
    ++ "MIEUM-PIEUP;KAPYEOUNMIEUM;PIEUP-KIYEOK;PIEUP-NIEUN;PIEUP-TIKEUT;PIEUP-SIOS;"
    ++ "PIEUP-SIOS-KIYEOK;PIEUP-SIOS-TIKEUT;PIEUP-SIOS-PIEUP;PIEUP-SSANGSIOS;PIEUP-SIOS-CIEUC;"
    ++ "PIEUP-CIEUC;PIEUP-CHIEUCH;PIEUP-THIEUTH;PIEUP-PHIEUPH;KAPYEOUNPIEUP;KAPYEOUNSSANGPIEUP;"
    ++ "SIOS-KIYEOK;SIOS-NIEUN;SIOS-TIKEUT;SIOS-RIEUL;SIOS-MIEUM;SIOS-PIEUP;SIOS-PIEUP-KIYEOK;"
    ++ "SIOS-SSANGSIOS;SIOS-IEUNG;SIOS-CIEUC;SIOS-CHIEUCH;SIOS-KHIEUKH;SIOS-THIEUTH;"
    ++ "SIOS-PHIEUPH;SIOS-HIEUH;CHITUEUMSIOS;CHITUEUMSSANGSIOS;CEONGCHIEUMSIOS;"
    ++ "CEONGCHIEUMSSANGSIOS;PANSIOS;IEUNG-KIYEOK;IEUNG-TIKEUT;IEUNG-MIEUM;IEUNG-PIEUP;"
    ++ "IEUNG-SIOS;IEUNG-PANSIOS;SSANGIEUNG;IEUNG-CIEUC;IEUNG-CHIEUCH;IEUNG-THIEUTH;"
    ++ "IEUNG-PHIEUPH;YESIEUNG;CIEUC-IEUNG;CHITUEUMCIEUC;CHITUEUMSSANGCIEUC;CEONGCHIEUMCIEUC;"
    ++ "CEONGCHIEUMSSANGCIEUC;CHIEUCH-KHIEUKH;CHIEUCH-HIEUH;CHITUEUMCHIEUCH;CEONGCHIEUMCHIEUCH;"
    ++ "PHIEUPH-PIEUP;KAPYEOUNPHIEUPH;SSANGHIEUH;YEORINHIEUH;KIYEOK-TIKEUT;NIEUN-SIOS;"
    ++ "NIEUN-CIEUC;NIEUN-HIEUH;TIKEUT-RIEUL;FILLER"⟩,
  ⟨0x1160, "HANGUL JUNGSEONG",
    "FILLER;A;AE;YA;YAE;EO;E;YEO;YE;O;WA;WAE;OE;YO;U;WEO;WE;WI;YU;EU;YI;I;A-O;A-U;YA-O;YA-YO;"
    ++ "EO-O;EO-U;EO-EU;YEO-O;YEO-U;O-EO;O-E;O-YE;O-O;O-U;YO-YA;YO-YAE;YO-YEO;YO-O;YO-I;U-A;"
    ++ "U-AE;U-EO-EU;U-YE;U-U;YU-A;YU-EO;YU-E;YU-YEO;YU-YE;YU-U;YU-I;EU-U;EU-EU;YI-U;I-A;I-YA;"
    ++ "I-O;I-U;I-EU;I-ARAEA;ARAEA;ARAEA-EO;ARAEA-U;ARAEA-I;SSANGARAEA;A-EU;YA-U;YEO-YA;O-YA;"
    ++ "O-YAE"⟩,
  ⟨0x11a8, "HANGUL JONGSEONG",
    "KIYEOK;SSANGKIYEOK;KIYEOK-SIOS;NIEUN;NIEUN-CIEUC;NIEUN-HIEUH;TIKEUT;RIEUL;RIEUL-KIYEOK;"
    ++ "RIEUL-MIEUM;RIEUL-PIEUP;RIEUL-SIOS;RIEUL-THIEUTH;RIEUL-PHIEUPH;RIEUL-HIEUH;MIEUM;PIEUP;"
    ++ "PIEUP-SIOS;SIOS;SSANGSIOS;IEUNG;CIEUC;CHIEUCH;KHIEUKH;THIEUTH;PHIEUPH;HIEUH;"
    ++ "KIYEOK-RIEUL;KIYEOK-SIOS-KIYEOK;NIEUN-KIYEOK;NIEUN-TIKEUT;NIEUN-SIOS;NIEUN-PANSIOS;"
    ++ "NIEUN-THIEUTH;TIKEUT-KIYEOK;TIKEUT-RIEUL;RIEUL-KIYEOK-SIOS;RIEUL-NIEUN;RIEUL-TIKEUT;"
    ++ "RIEUL-TIKEUT-HIEUH;SSANGRIEUL;RIEUL-MIEUM-KIYEOK;RIEUL-MIEUM-SIOS;RIEUL-PIEUP-SIOS;"
    ++ "RIEUL-PIEUP-HIEUH;RIEUL-KAPYEOUNPIEUP;RIEUL-SSANGSIOS;RIEUL-PANSIOS;RIEUL-KHIEUKH;"
    ++ "RIEUL-YEORINHIEUH;MIEUM-KIYEOK;MIEUM-RIEUL;MIEUM-PIEUP;MIEUM-SIOS;MIEUM-SSANGSIOS;"
    ++ "MIEUM-PANSIOS;MIEUM-CHIEUCH;MIEUM-HIEUH;KAPYEOUNMIEUM;PIEUP-RIEUL;PIEUP-PHIEUPH;"
    ++ "PIEUP-HIEUH;KAPYEOUNPIEUP;SIOS-KIYEOK;SIOS-TIKEUT;SIOS-RIEUL;SIOS-PIEUP;PANSIOS;"
    ++ "IEUNG-KIYEOK;IEUNG-SSANGKIYEOK;SSANGIEUNG;IEUNG-KHIEUKH;YESIEUNG;YESIEUNG-SIOS;"
    ++ "YESIEUNG-PANSIOS;PHIEUPH-PIEUP;KAPYEOUNPHIEUPH;HIEUH-NIEUN;HIEUH-RIEUL;HIEUH-MIEUM;"
    ++ "HIEUH-PIEUP;YEORINHIEUH;KIYEOK-NIEUN;KIYEOK-PIEUP;KIYEOK-CHIEUCH;KIYEOK-KHIEUKH;"
    ++ "KIYEOK-HIEUH;SSANGNIEUN"⟩,
  ⟨0x3131, "HANGUL LETTER",
    "KIYEOK;SSANGKIYEOK;KIYEOK-SIOS;NIEUN;NIEUN-CIEUC;NIEUN-HIEUH;TIKEUT;SSANGTIKEUT;RIEUL;"
    ++ "RIEUL-KIYEOK;RIEUL-MIEUM;RIEUL-PIEUP;RIEUL-SIOS;RIEUL-THIEUTH;RIEUL-PHIEUPH;RIEUL-HIEUH;"
    ++ "MIEUM;PIEUP;SSANGPIEUP;PIEUP-SIOS;SIOS;SSANGSIOS;IEUNG;CIEUC;SSANGCIEUC;CHIEUCH;KHIEUKH;"
    ++ "THIEUTH;PHIEUPH;HIEUH;A;AE;YA;YAE;EO;E;YEO;YE;O;WA;WAE;OE;YO;U;WEO;WE;WI;YU;EU;YI;I"⟩,
  ⟨0x3164, "HANGUL", "FILLER"⟩,
  ⟨0x3165, "HANGUL LETTER",
    "SSANGNIEUN;NIEUN-TIKEUT;NIEUN-SIOS;NIEUN-PANSIOS;RIEUL-KIYEOK-SIOS;RIEUL-TIKEUT;"
    ++ "RIEUL-PIEUP-SIOS;RIEUL-PANSIOS;RIEUL-YEORINHIEUH;MIEUM-PIEUP;MIEUM-SIOS;MIEUM-PANSIOS;"
    ++ "KAPYEOUNMIEUM;PIEUP-KIYEOK;PIEUP-TIKEUT;PIEUP-SIOS-KIYEOK;PIEUP-SIOS-TIKEUT;PIEUP-CIEUC;"
    ++ "PIEUP-THIEUTH;KAPYEOUNPIEUP;KAPYEOUNSSANGPIEUP;SIOS-KIYEOK;SIOS-NIEUN;SIOS-TIKEUT;"
    ++ "SIOS-PIEUP;SIOS-CIEUC;PANSIOS;SSANGIEUNG;YESIEUNG;YESIEUNG-SIOS;YESIEUNG-PANSIOS;"
    ++ "KAPYEOUNPHIEUPH;SSANGHIEUH;YEORINHIEUH;YO-YA;YO-YAE;YO-I;YU-YEO;YU-YE;YU-I;ARAEA;ARAEAE"⟩,
  ⟨0xa960, "HANGUL CHOSEONG",
    "TIKEUT-MIEUM;TIKEUT-PIEUP;TIKEUT-SIOS;TIKEUT-CIEUC;RIEUL-KIYEOK;RIEUL-SSANGKIYEOK;"
    ++ "RIEUL-TIKEUT;RIEUL-SSANGTIKEUT;RIEUL-MIEUM;RIEUL-PIEUP;RIEUL-SSANGPIEUP;"
    ++ "RIEUL-KAPYEOUNPIEUP;RIEUL-SIOS;RIEUL-CIEUC;RIEUL-KHIEUKH;MIEUM-KIYEOK;MIEUM-TIKEUT;"
    ++ "MIEUM-SIOS;PIEUP-SIOS-THIEUTH;PIEUP-KHIEUKH;PIEUP-HIEUH;SSANGSIOS-PIEUP;IEUNG-RIEUL;"
    ++ "IEUNG-HIEUH;SSANGCIEUC-HIEUH;SSANGTHIEUTH;PHIEUPH-HIEUH;HIEUH-SIOS;SSANGYEORINHIEUH"⟩,
  ⟨0xd7b0, "HANGUL JUNGSEONG",
    "O-YEO;O-O-I;YO-A;YO-AE;YO-EO;U-YEO;U-I-I;YU-AE;YU-O;EU-A;EU-EO;EU-E;EU-O;I-YA-O;I-YAE;"
    ++ "I-YEO;I-YE;I-O-I;I-YO;I-YU;I-I;ARAEA-A;ARAEA-E"⟩,
  ⟨0xd7cb, "HANGUL JONGSEONG",
    "NIEUN-RIEUL;NIEUN-CHIEUCH;SSANGTIKEUT;SSANGTIKEUT-PIEUP;TIKEUT-PIEUP;TIKEUT-SIOS;"
    ++ "TIKEUT-SIOS-KIYEOK;TIKEUT-CIEUC;TIKEUT-CHIEUCH;TIKEUT-THIEUTH;RIEUL-SSANGKIYEOK;"
    ++ "RIEUL-KIYEOK-HIEUH;SSANGRIEUL-KHIEUKH;RIEUL-MIEUM-HIEUH;RIEUL-PIEUP-TIKEUT;"
    ++ "RIEUL-PIEUP-PHIEUPH;RIEUL-YESIEUNG;RIEUL-YEORINHIEUH-HIEUH;KAPYEOUNRIEUL;MIEUM-NIEUN;"
    ++ "MIEUM-SSANGNIEUN;SSANGMIEUM;MIEUM-PIEUP-SIOS;MIEUM-CIEUC;PIEUP-TIKEUT;"
    ++ "PIEUP-RIEUL-PHIEUPH;PIEUP-MIEUM;SSANGPIEUP;PIEUP-SIOS-TIKEUT;PIEUP-CIEUC;PIEUP-CHIEUCH;"
    ++ "SIOS-MIEUM;SIOS-KAPYEOUNPIEUP;SSANGSIOS-KIYEOK;SSANGSIOS-TIKEUT;SIOS-PANSIOS;SIOS-CIEUC;"
    ++ "SIOS-CHIEUCH;SIOS-THIEUTH;SIOS-HIEUH;PANSIOS-PIEUP;PANSIOS-KAPYEOUNPIEUP;YESIEUNG-MIEUM;"
    ++ "YESIEUNG-HIEUH;CIEUC-PIEUP;CIEUC-SSANGPIEUP;SSANGCIEUC;PHIEUPH-SIOS;PHIEUPH-THIEUTH"⟩]

/-- Radicals, strokes and the signs that stand among ideographs. -/
def hanNames : List NameRun := [
  ⟨0x2e80, "CJK RADICAL",
    "REPEAT;CLIFF;SECOND ONE;SECOND TWO;SECOND THREE;PERSON;BOX;TABLE;KNIFE ONE;KNIFE TWO;"
    ++ "DIVINATION;SEAL;SMALL ONE;SMALL TWO;LAME ONE;LAME TWO;LAME THREE;LAME FOUR;SNAKE;THREAD;"
    ++ "SNOUT ONE;SNOUT TWO;HEART ONE;HEART TWO;HAND;RAP"⟩,
  ⟨0x2e9b, "CJK RADICAL",
    "CHOKE;SUN;MOON;DEATH;MOTHER;CIVILIAN;WATER ONE;WATER TWO;FIRE;PAW ONE;PAW TWO;"
    ++ "SIMPLIFIED HALF TREE TRUNK;COW;DOG;JADE;BOLT OF CLOTH;EYE;SPIRIT ONE;SPIRIT TWO;BAMBOO;"
    ++ "SILK;C-SIMPLIFIED SILK;NET ONE;NET TWO;NET THREE;NET FOUR;MESH;SHEEP;RAM;EWE;OLD;"
    ++ "BRUSH ONE;BRUSH TWO;MEAT;MORTAR;GRASS ONE;GRASS TWO;GRASS THREE;TIGER;CLOTHES;WEST ONE;"
    ++ "WEST TWO;C-SIMPLIFIED SEE;SIMPLIFIED HORN;HORN;C-SIMPLIFIED SPEECH;C-SIMPLIFIED SHELL;"
    ++ "FOOT;C-SIMPLIFIED CART;SIMPLIFIED WALK;WALK ONE;WALK TWO;CITY;C-SIMPLIFIED GOLD;"
    ++ "LONG ONE;LONG TWO;C-SIMPLIFIED LONG;C-SIMPLIFIED GATE;MOUND ONE;MOUND TWO;RAIN;BLUE;"
    ++ "C-SIMPLIFIED TANNED LEATHER;C-SIMPLIFIED LEAF;C-SIMPLIFIED WIND;C-SIMPLIFIED FLY;"
    ++ "EAT ONE;EAT TWO;EAT THREE;C-SIMPLIFIED EAT;HEAD;C-SIMPLIFIED HORSE;BONE;GHOST;"
    ++ "C-SIMPLIFIED FISH;C-SIMPLIFIED BIRD;C-SIMPLIFIED SALT;SIMPLIFIED WHEAT;"
    ++ "SIMPLIFIED YELLOW;C-SIMPLIFIED FROG;J-SIMPLIFIED EVEN;C-SIMPLIFIED EVEN;"
    ++ "J-SIMPLIFIED TOOTH;C-SIMPLIFIED TOOTH;J-SIMPLIFIED DRAGON;C-SIMPLIFIED DRAGON;TURTLE;"
    ++ "J-SIMPLIFIED TURTLE;C-SIMPLIFIED TURTLE"⟩,
  ⟨0x2f00, "KANGXI RADICAL",
    "ONE;LINE;DOT;SLASH;SECOND;HOOK;TWO;LID;MAN;LEGS;ENTER;EIGHT;DOWN BOX;COVER;ICE;TABLE;"
    ++ "OPEN BOX;KNIFE;POWER;WRAP;SPOON;RIGHT OPEN BOX;HIDING ENCLOSURE;TEN;DIVINATION;SEAL;"
    ++ "CLIFF;PRIVATE;AGAIN;MOUTH;ENCLOSURE;EARTH;SCHOLAR;GO;GO SLOWLY;EVENING;BIG;WOMAN;CHILD;"
    ++ "ROOF;INCH;SMALL;LAME;CORPSE;SPROUT;MOUNTAIN;RIVER;WORK;ONESELF;TURBAN;DRY;SHORT THREAD;"
    ++ "DOTTED CLIFF;LONG STRIDE;TWO HANDS;SHOOT;BOW;SNOUT;BRISTLE;STEP;HEART;HALBERD;DOOR;HAND;"
    ++ "BRANCH;RAP;SCRIPT;DIPPER;AXE;SQUARE;NOT;SUN;SAY;MOON;TREE;LACK;STOP;DEATH;WEAPON;DO NOT;"
    ++ "COMPARE;FUR;CLAN;STEAM;WATER;FIRE;CLAW;FATHER;DOUBLE X;HALF TREE TRUNK;SLICE;FANG;COW;"
    ++ "DOG;PROFOUND;JADE;MELON;TILE;SWEET;LIFE;USE;FIELD;BOLT OF CLOTH;SICKNESS;DOTTED TENT;"
    ++ "WHITE;SKIN;DISH;EYE;SPEAR;ARROW;STONE;SPIRIT;TRACK;GRAIN;CAVE;STAND;BAMBOO;RICE;SILK;"
    ++ "JAR;NET;SHEEP;FEATHER;OLD;AND;PLOW;EAR;BRUSH;MEAT;MINISTER;SELF;ARRIVE;MORTAR;TONGUE;"
    ++ "OPPOSE;BOAT;STOPPING;COLOR;GRASS;TIGER;INSECT;BLOOD;WALK ENCLOSURE;CLOTHES;WEST;SEE;"
    ++ "HORN;SPEECH;VALLEY;BEAN;PIG;BADGER;SHELL;RED;RUN;FOOT;BODY;CART;BITTER;MORNING;WALK;"
    ++ "CITY;WINE;DISTINGUISH;VILLAGE;GOLD;LONG;GATE;MOUND;SLAVE;SHORT TAILED BIRD;RAIN;BLUE;"
    ++ "WRONG;FACE;LEATHER;TANNED LEATHER;LEEK;SOUND;LEAF;WIND;FLY;EAT;HEAD;FRAGRANT;HORSE;BONE;"
    ++ "TALL;HAIR;FIGHT;SACRIFICIAL WINE;CAULDRON;GHOST;FISH;BIRD;SALT;DEER;WHEAT;HEMP;YELLOW;"
    ++ "MILLET;BLACK;EMBROIDERY;FROG;TRIPOD;DRUM;RAT;NOSE;EVEN;TOOTH;DRAGON;TURTLE;FLUTE"⟩,
  ⟨0x2ff0, "IDEOGRAPHIC DESCRIPTION CHARACTER",
    "LEFT TO RIGHT;ABOVE TO BELOW;LEFT TO MIDDLE AND RIGHT;ABOVE TO MIDDLE AND BELOW;"
    ++ "FULL SURROUND;SURROUND FROM ABOVE;SURROUND FROM BELOW;SURROUND FROM LEFT;"
    ++ "SURROUND FROM UPPER LEFT;SURROUND FROM UPPER RIGHT;SURROUND FROM LOWER LEFT;OVERLAID"⟩,
  ⟨0x3000, "IDEOGRAPHIC", "SPACE;COMMA;FULL STOP"⟩,
  ⟨0x3003, "",
    "DITTO MARK;JAPANESE INDUSTRIAL STANDARD SYMBOL;IDEOGRAPHIC ITERATION MARK;"
    ++ "IDEOGRAPHIC CLOSING MARK;IDEOGRAPHIC NUMBER ZERO;LEFT ANGLE BRACKET;RIGHT ANGLE BRACKET;"
    ++ "LEFT DOUBLE ANGLE BRACKET;RIGHT DOUBLE ANGLE BRACKET;LEFT CORNER BRACKET;"
    ++ "RIGHT CORNER BRACKET;LEFT WHITE CORNER BRACKET;RIGHT WHITE CORNER BRACKET;"
    ++ "LEFT BLACK LENTICULAR BRACKET;RIGHT BLACK LENTICULAR BRACKET;POSTAL MARK;GETA MARK;"
    ++ "LEFT TORTOISE SHELL BRACKET;RIGHT TORTOISE SHELL BRACKET;LEFT WHITE LENTICULAR BRACKET;"
    ++ "RIGHT WHITE LENTICULAR BRACKET;LEFT WHITE TORTOISE SHELL BRACKET;"
    ++ "RIGHT WHITE TORTOISE SHELL BRACKET;LEFT WHITE SQUARE BRACKET;RIGHT WHITE SQUARE BRACKET;"
    ++ "WAVE DASH;REVERSED DOUBLE PRIME QUOTATION MARK;DOUBLE PRIME QUOTATION MARK;"
    ++ "LOW DOUBLE PRIME QUOTATION MARK;POSTAL MARK FACE"⟩,
  ⟨0x3021, "HANGZHOU NUMERAL", "ONE;TWO;THREE;FOUR;FIVE;SIX;SEVEN;EIGHT;NINE"⟩,
  ⟨0x302a, "IDEOGRAPHIC",
    "LEVEL TONE MARK;RISING TONE MARK;DEPARTING TONE MARK;ENTERING TONE MARK"⟩,
  ⟨0x302e, "", "HANGUL SINGLE DOT TONE MARK;HANGUL DOUBLE DOT TONE MARK;WAVY DASH"⟩,
  ⟨0x3031, "VERTICAL KANA REPEAT",
    "MARK;WITH VOICED SOUND MARK;MARK UPPER HALF;WITH VOICED SOUND MARK UPPER HALF;"
    ++ "MARK LOWER HALF"⟩,
  ⟨0x3036, "",
    "CIRCLED POSTAL MARK;IDEOGRAPHIC TELEGRAPH LINE FEED SEPARATOR SYMBOL;"
    ++ "HANGZHOU NUMERAL TEN;HANGZHOU NUMERAL TWENTY;HANGZHOU NUMERAL THIRTY;"
    ++ "VERTICAL IDEOGRAPHIC ITERATION MARK;MASU MARK;PART ALTERNATION MARK;"
    ++ "IDEOGRAPHIC VARIATION INDICATOR;IDEOGRAPHIC HALF FILL SPACE"⟩,
  ⟨0x3190, "IDEOGRAPHIC ANNOTATION",
    "LINKING MARK;REVERSE MARK;ONE MARK;TWO MARK;THREE MARK;FOUR MARK;TOP MARK;MIDDLE MARK;"
    ++ "BOTTOM MARK;FIRST MARK;SECOND MARK;THIRD MARK;FOURTH MARK;HEAVEN MARK;EARTH MARK;"
    ++ "MAN MARK"⟩,
  ⟨0x31c0, "CJK STROKE",
    "T;WG;XG;BXG;SW;HZZ;HZG;HP;HZWG;SZWG;HZT;HZZP;HPWG;HZW;HZZZ;N;H;S;P;SP;D;HZ;HG;SZ;SWZ;ST;"
    ++ "SG;PD;PZ;TN;SZZ;SWG;HXWG;HZZZG;PG;Q"⟩,
  ⟨0x4dc0, "HEXAGRAM FOR",
    "THE CREATIVE HEAVEN;THE RECEPTIVE EARTH;DIFFICULTY AT THE BEGINNING;YOUTHFUL FOLLY;"
    ++ "WAITING;CONFLICT;THE ARMY;HOLDING TOGETHER;SMALL TAMING;TREADING;PEACE;STANDSTILL;"
    ++ "FELLOWSHIP;GREAT POSSESSION;MODESTY;ENTHUSIASM;FOLLOWING;WORK ON THE DECAYED;APPROACH;"
    ++ "CONTEMPLATION;BITING THROUGH;GRACE;SPLITTING APART;RETURN;INNOCENCE;GREAT TAMING;"
    ++ "MOUTH CORNERS;GREAT PREPONDERANCE;THE ABYSMAL WATER;THE CLINGING FIRE;INFLUENCE;"
    ++ "DURATION;RETREAT;GREAT POWER;PROGRESS;DARKENING OF THE LIGHT;THE FAMILY;OPPOSITION;"
    ++ "OBSTRUCTION;DELIVERANCE;DECREASE;INCREASE;BREAKTHROUGH;COMING TO MEET;"
    ++ "GATHERING TOGETHER;PUSHING UPWARD;OPPRESSION;THE WELL;REVOLUTION;THE CAULDRON;"
    ++ "THE AROUSING THUNDER;THE KEEPING STILL MOUNTAIN;DEVELOPMENT;THE MARRYING MAIDEN;"
    ++ "ABUNDANCE;THE WANDERER;THE GENTLE WIND;THE JOYOUS LAKE;DISPERSION;LIMITATION;"
    ++ "INNER TRUTH;SMALL PREPONDERANCE;AFTER COMPLETION;BEFORE COMPLETION"⟩,
  ⟨0x16fe0, "",
    "TANGUT ITERATION MARK;NUSHU ITERATION MARK;OLD CHINESE HOOK MARK;"
    ++ "OLD CHINESE ITERATION MARK;KHITAN SMALL SCRIPT FILLER"⟩,
  ⟨0x16ff0, "VIETNAMESE ALTERNATE READING MARK", "CA;NHAY"⟩,
  ⟨0x18800, "TANGUT",
    "COMPONENT-001;COMPONENT-002;COMPONENT-003;COMPONENT-004;COMPONENT-005;COMPONENT-006;"
    ++ "COMPONENT-007;COMPONENT-008;COMPONENT-009;COMPONENT-010;COMPONENT-011;COMPONENT-012;"
    ++ "COMPONENT-013;COMPONENT-014;COMPONENT-015;COMPONENT-016;COMPONENT-017;COMPONENT-018;"
    ++ "COMPONENT-019;COMPONENT-020;COMPONENT-021;COMPONENT-022;COMPONENT-023;COMPONENT-024;"
    ++ "COMPONENT-025;COMPONENT-026;COMPONENT-027;COMPONENT-028;COMPONENT-029;COMPONENT-030;"
    ++ "COMPONENT-031;COMPONENT-032;COMPONENT-033;COMPONENT-034;COMPONENT-035;COMPONENT-036;"
    ++ "COMPONENT-037;COMPONENT-038;COMPONENT-039;COMPONENT-040;COMPONENT-041;COMPONENT-042;"
    ++ "COMPONENT-043;COMPONENT-044;COMPONENT-045;COMPONENT-046;COMPONENT-047;COMPONENT-048;"
    ++ "COMPONENT-049;COMPONENT-050;COMPONENT-051;COMPONENT-052;COMPONENT-053;COMPONENT-054;"
    ++ "COMPONENT-055;COMPONENT-056;COMPONENT-057;COMPONENT-058;COMPONENT-059;COMPONENT-060;"
    ++ "COMPONENT-061;COMPONENT-062;COMPONENT-063;COMPONENT-064;COMPONENT-065;COMPONENT-066;"
    ++ "COMPONENT-067;COMPONENT-068;COMPONENT-069;COMPONENT-070;COMPONENT-071;COMPONENT-072;"
    ++ "COMPONENT-073;COMPONENT-074;COMPONENT-075;COMPONENT-076;COMPONENT-077;COMPONENT-078;"
    ++ "COMPONENT-079;COMPONENT-080;COMPONENT-081;COMPONENT-082;COMPONENT-083;COMPONENT-084;"
    ++ "COMPONENT-085;COMPONENT-086;COMPONENT-087;COMPONENT-088;COMPONENT-089;COMPONENT-090;"
    ++ "COMPONENT-091;COMPONENT-092;COMPONENT-093;COMPONENT-094;COMPONENT-095;COMPONENT-096;"
    ++ "COMPONENT-097;COMPONENT-098;COMPONENT-099;COMPONENT-100;COMPONENT-101;COMPONENT-102;"
    ++ "COMPONENT-103;COMPONENT-104;COMPONENT-105;COMPONENT-106;COMPONENT-107;COMPONENT-108;"
    ++ "COMPONENT-109;COMPONENT-110;COMPONENT-111;COMPONENT-112;COMPONENT-113;COMPONENT-114;"
    ++ "COMPONENT-115;COMPONENT-116;COMPONENT-117;COMPONENT-118;COMPONENT-119;COMPONENT-120;"
    ++ "COMPONENT-121;COMPONENT-122;COMPONENT-123;COMPONENT-124;COMPONENT-125;COMPONENT-126;"
    ++ "COMPONENT-127;COMPONENT-128;COMPONENT-129;COMPONENT-130;COMPONENT-131;COMPONENT-132;"
    ++ "COMPONENT-133;COMPONENT-134;COMPONENT-135;COMPONENT-136;COMPONENT-137;COMPONENT-138;"
    ++ "COMPONENT-139;COMPONENT-140;COMPONENT-141;COMPONENT-142;COMPONENT-143;COMPONENT-144;"
    ++ "COMPONENT-145;COMPONENT-146;COMPONENT-147;COMPONENT-148;COMPONENT-149;COMPONENT-150;"
    ++ "COMPONENT-151;COMPONENT-152;COMPONENT-153;COMPONENT-154;COMPONENT-155;COMPONENT-156;"
    ++ "COMPONENT-157;COMPONENT-158;COMPONENT-159;COMPONENT-160;COMPONENT-161;COMPONENT-162;"
    ++ "COMPONENT-163;COMPONENT-164;COMPONENT-165;COMPONENT-166;COMPONENT-167;COMPONENT-168;"
    ++ "COMPONENT-169;COMPONENT-170;COMPONENT-171;COMPONENT-172;COMPONENT-173;COMPONENT-174;"
    ++ "COMPONENT-175;COMPONENT-176;COMPONENT-177;COMPONENT-178;COMPONENT-179;COMPONENT-180;"
    ++ "COMPONENT-181;COMPONENT-182;COMPONENT-183;COMPONENT-184;COMPONENT-185;COMPONENT-186;"
    ++ "COMPONENT-187;COMPONENT-188;COMPONENT-189;COMPONENT-190;COMPONENT-191;COMPONENT-192;"
    ++ "COMPONENT-193;COMPONENT-194;COMPONENT-195;COMPONENT-196;COMPONENT-197;COMPONENT-198;"
    ++ "COMPONENT-199;COMPONENT-200;COMPONENT-201;COMPONENT-202;COMPONENT-203;COMPONENT-204;"
    ++ "COMPONENT-205;COMPONENT-206;COMPONENT-207;COMPONENT-208;COMPONENT-209;COMPONENT-210;"
    ++ "COMPONENT-211;COMPONENT-212;COMPONENT-213;COMPONENT-214;COMPONENT-215;COMPONENT-216;"
    ++ "COMPONENT-217;COMPONENT-218;COMPONENT-219;COMPONENT-220;COMPONENT-221;COMPONENT-222;"
    ++ "COMPONENT-223;COMPONENT-224;COMPONENT-225;COMPONENT-226;COMPONENT-227;COMPONENT-228;"
    ++ "COMPONENT-229;COMPONENT-230;COMPONENT-231;COMPONENT-232;COMPONENT-233;COMPONENT-234;"
    ++ "COMPONENT-235;COMPONENT-236;COMPONENT-237;COMPONENT-238;COMPONENT-239;COMPONENT-240;"
    ++ "COMPONENT-241;COMPONENT-242;COMPONENT-243;COMPONENT-244;COMPONENT-245;COMPONENT-246;"
    ++ "COMPONENT-247;COMPONENT-248;COMPONENT-249;COMPONENT-250;COMPONENT-251;COMPONENT-252;"
    ++ "COMPONENT-253;COMPONENT-254;COMPONENT-255;COMPONENT-256;COMPONENT-257;COMPONENT-258;"
    ++ "COMPONENT-259;COMPONENT-260;COMPONENT-261;COMPONENT-262;COMPONENT-263;COMPONENT-264;"
    ++ "COMPONENT-265;COMPONENT-266;COMPONENT-267;COMPONENT-268;COMPONENT-269;COMPONENT-270;"
    ++ "COMPONENT-271;COMPONENT-272;COMPONENT-273;COMPONENT-274;COMPONENT-275;COMPONENT-276;"
    ++ "COMPONENT-277;COMPONENT-278;COMPONENT-279;COMPONENT-280;COMPONENT-281;COMPONENT-282;"
    ++ "COMPONENT-283;COMPONENT-284;COMPONENT-285;COMPONENT-286;COMPONENT-287;COMPONENT-288;"
    ++ "COMPONENT-289;COMPONENT-290;COMPONENT-291;COMPONENT-292;COMPONENT-293;COMPONENT-294;"
    ++ "COMPONENT-295;COMPONENT-296;COMPONENT-297;COMPONENT-298;COMPONENT-299;COMPONENT-300;"
    ++ "COMPONENT-301;COMPONENT-302;COMPONENT-303;COMPONENT-304;COMPONENT-305;COMPONENT-306;"
    ++ "COMPONENT-307;COMPONENT-308;COMPONENT-309;COMPONENT-310;COMPONENT-311;COMPONENT-312;"
    ++ "COMPONENT-313;COMPONENT-314;COMPONENT-315;COMPONENT-316;COMPONENT-317;COMPONENT-318;"
    ++ "COMPONENT-319;COMPONENT-320;COMPONENT-321;COMPONENT-322;COMPONENT-323;COMPONENT-324;"
    ++ "COMPONENT-325;COMPONENT-326;COMPONENT-327;COMPONENT-328;COMPONENT-329;COMPONENT-330;"
    ++ "COMPONENT-331;COMPONENT-332;COMPONENT-333;COMPONENT-334;COMPONENT-335;COMPONENT-336;"
    ++ "COMPONENT-337;COMPONENT-338;COMPONENT-339;COMPONENT-340;COMPONENT-341;COMPONENT-342;"
    ++ "COMPONENT-343;COMPONENT-344;COMPONENT-345;COMPONENT-346;COMPONENT-347;COMPONENT-348;"
    ++ "COMPONENT-349;COMPONENT-350;COMPONENT-351;COMPONENT-352;COMPONENT-353;COMPONENT-354;"
    ++ "COMPONENT-355;COMPONENT-356;COMPONENT-357;COMPONENT-358;COMPONENT-359;COMPONENT-360;"
    ++ "COMPONENT-361;COMPONENT-362;COMPONENT-363;COMPONENT-364;COMPONENT-365;COMPONENT-366;"
    ++ "COMPONENT-367;COMPONENT-368;COMPONENT-369;COMPONENT-370;COMPONENT-371;COMPONENT-372;"
    ++ "COMPONENT-373;COMPONENT-374;COMPONENT-375;COMPONENT-376;COMPONENT-377;COMPONENT-378;"
    ++ "COMPONENT-379;COMPONENT-380;COMPONENT-381;COMPONENT-382;COMPONENT-383;COMPONENT-384;"
    ++ "COMPONENT-385;COMPONENT-386;COMPONENT-387;COMPONENT-388;COMPONENT-389;COMPONENT-390;"
    ++ "COMPONENT-391;COMPONENT-392;COMPONENT-393;COMPONENT-394;COMPONENT-395;COMPONENT-396;"
    ++ "COMPONENT-397;COMPONENT-398;COMPONENT-399;COMPONENT-400;COMPONENT-401;COMPONENT-402;"
    ++ "COMPONENT-403;COMPONENT-404;COMPONENT-405;COMPONENT-406;COMPONENT-407;COMPONENT-408;"
    ++ "COMPONENT-409;COMPONENT-410;COMPONENT-411;COMPONENT-412;COMPONENT-413;COMPONENT-414;"
    ++ "COMPONENT-415;COMPONENT-416;COMPONENT-417;COMPONENT-418;COMPONENT-419;COMPONENT-420;"
    ++ "COMPONENT-421;COMPONENT-422;COMPONENT-423;COMPONENT-424;COMPONENT-425;COMPONENT-426;"
    ++ "COMPONENT-427;COMPONENT-428;COMPONENT-429;COMPONENT-430;COMPONENT-431;COMPONENT-432;"
    ++ "COMPONENT-433;COMPONENT-434;COMPONENT-435;COMPONENT-436;COMPONENT-437;COMPONENT-438;"
    ++ "COMPONENT-439;COMPONENT-440;COMPONENT-441;COMPONENT-442;COMPONENT-443;COMPONENT-444;"
    ++ "COMPONENT-445;COMPONENT-446;COMPONENT-447;COMPONENT-448;COMPONENT-449;COMPONENT-450;"
    ++ "COMPONENT-451;COMPONENT-452;COMPONENT-453;COMPONENT-454;COMPONENT-455;COMPONENT-456;"
    ++ "COMPONENT-457;COMPONENT-458;COMPONENT-459;COMPONENT-460;COMPONENT-461;COMPONENT-462;"
    ++ "COMPONENT-463;COMPONENT-464;COMPONENT-465;COMPONENT-466;COMPONENT-467;COMPONENT-468;"
    ++ "COMPONENT-469;COMPONENT-470;COMPONENT-471;COMPONENT-472;COMPONENT-473;COMPONENT-474;"
    ++ "COMPONENT-475;COMPONENT-476;COMPONENT-477;COMPONENT-478;COMPONENT-479;COMPONENT-480;"
    ++ "COMPONENT-481;COMPONENT-482;COMPONENT-483;COMPONENT-484;COMPONENT-485;COMPONENT-486;"
    ++ "COMPONENT-487;COMPONENT-488;COMPONENT-489;COMPONENT-490;COMPONENT-491;COMPONENT-492;"
    ++ "COMPONENT-493;COMPONENT-494;COMPONENT-495;COMPONENT-496;COMPONENT-497;COMPONENT-498;"
    ++ "COMPONENT-499;COMPONENT-500;COMPONENT-501;COMPONENT-502;COMPONENT-503;COMPONENT-504;"
    ++ "COMPONENT-505;COMPONENT-506;COMPONENT-507;COMPONENT-508;COMPONENT-509;COMPONENT-510;"
    ++ "COMPONENT-511;COMPONENT-512;COMPONENT-513;COMPONENT-514;COMPONENT-515;COMPONENT-516;"
    ++ "COMPONENT-517;COMPONENT-518;COMPONENT-519;COMPONENT-520;COMPONENT-521;COMPONENT-522;"
    ++ "COMPONENT-523;COMPONENT-524;COMPONENT-525;COMPONENT-526;COMPONENT-527;COMPONENT-528;"
    ++ "COMPONENT-529;COMPONENT-530;COMPONENT-531;COMPONENT-532;COMPONENT-533;COMPONENT-534;"
    ++ "COMPONENT-535;COMPONENT-536;COMPONENT-537;COMPONENT-538;COMPONENT-539;COMPONENT-540;"
    ++ "COMPONENT-541;COMPONENT-542;COMPONENT-543;COMPONENT-544;COMPONENT-545;COMPONENT-546;"
    ++ "COMPONENT-547;COMPONENT-548;COMPONENT-549;COMPONENT-550;COMPONENT-551;COMPONENT-552;"
    ++ "COMPONENT-553;COMPONENT-554;COMPONENT-555;COMPONENT-556;COMPONENT-557;COMPONENT-558;"
    ++ "COMPONENT-559;COMPONENT-560;COMPONENT-561;COMPONENT-562;COMPONENT-563;COMPONENT-564;"
    ++ "COMPONENT-565;COMPONENT-566;COMPONENT-567;COMPONENT-568;COMPONENT-569;COMPONENT-570;"
    ++ "COMPONENT-571;COMPONENT-572;COMPONENT-573;COMPONENT-574;COMPONENT-575;COMPONENT-576;"
    ++ "COMPONENT-577;COMPONENT-578;COMPONENT-579;COMPONENT-580;COMPONENT-581;COMPONENT-582;"
    ++ "COMPONENT-583;COMPONENT-584;COMPONENT-585;COMPONENT-586;COMPONENT-587;COMPONENT-588;"
    ++ "COMPONENT-589;COMPONENT-590;COMPONENT-591;COMPONENT-592;COMPONENT-593;COMPONENT-594;"
    ++ "COMPONENT-595;COMPONENT-596;COMPONENT-597;COMPONENT-598;COMPONENT-599;COMPONENT-600;"
    ++ "COMPONENT-601;COMPONENT-602;COMPONENT-603;COMPONENT-604;COMPONENT-605;COMPONENT-606;"
    ++ "COMPONENT-607;COMPONENT-608;COMPONENT-609;COMPONENT-610;COMPONENT-611;COMPONENT-612;"
    ++ "COMPONENT-613;COMPONENT-614;COMPONENT-615;COMPONENT-616;COMPONENT-617;COMPONENT-618;"
    ++ "COMPONENT-619;COMPONENT-620;COMPONENT-621;COMPONENT-622;COMPONENT-623;COMPONENT-624;"
    ++ "COMPONENT-625;COMPONENT-626;COMPONENT-627;COMPONENT-628;COMPONENT-629;COMPONENT-630;"
    ++ "COMPONENT-631;COMPONENT-632;COMPONENT-633;COMPONENT-634;COMPONENT-635;COMPONENT-636;"
    ++ "COMPONENT-637;COMPONENT-638;COMPONENT-639;COMPONENT-640;COMPONENT-641;COMPONENT-642;"
    ++ "COMPONENT-643;COMPONENT-644;COMPONENT-645;COMPONENT-646;COMPONENT-647;COMPONENT-648;"
    ++ "COMPONENT-649;COMPONENT-650;COMPONENT-651;COMPONENT-652;COMPONENT-653;COMPONENT-654;"
    ++ "COMPONENT-655;COMPONENT-656;COMPONENT-657;COMPONENT-658;COMPONENT-659;COMPONENT-660;"
    ++ "COMPONENT-661;COMPONENT-662;COMPONENT-663;COMPONENT-664;COMPONENT-665;COMPONENT-666;"
    ++ "COMPONENT-667;COMPONENT-668;COMPONENT-669;COMPONENT-670;COMPONENT-671;COMPONENT-672;"
    ++ "COMPONENT-673;COMPONENT-674;COMPONENT-675;COMPONENT-676;COMPONENT-677;COMPONENT-678;"
    ++ "COMPONENT-679;COMPONENT-680;COMPONENT-681;COMPONENT-682;COMPONENT-683;COMPONENT-684;"
    ++ "COMPONENT-685;COMPONENT-686;COMPONENT-687;COMPONENT-688;COMPONENT-689;COMPONENT-690;"
    ++ "COMPONENT-691;COMPONENT-692;COMPONENT-693;COMPONENT-694;COMPONENT-695;COMPONENT-696;"
    ++ "COMPONENT-697;COMPONENT-698;COMPONENT-699;COMPONENT-700;COMPONENT-701;COMPONENT-702;"
    ++ "COMPONENT-703;COMPONENT-704;COMPONENT-705;COMPONENT-706;COMPONENT-707;COMPONENT-708;"
    ++ "COMPONENT-709;COMPONENT-710;COMPONENT-711;COMPONENT-712;COMPONENT-713;COMPONENT-714;"
    ++ "COMPONENT-715;COMPONENT-716;COMPONENT-717;COMPONENT-718;COMPONENT-719;COMPONENT-720;"
    ++ "COMPONENT-721;COMPONENT-722;COMPONENT-723;COMPONENT-724;COMPONENT-725;COMPONENT-726;"
    ++ "COMPONENT-727;COMPONENT-728;COMPONENT-729;COMPONENT-730;COMPONENT-731;COMPONENT-732;"
    ++ "COMPONENT-733;COMPONENT-734;COMPONENT-735;COMPONENT-736;COMPONENT-737;COMPONENT-738;"
    ++ "COMPONENT-739;COMPONENT-740;COMPONENT-741;COMPONENT-742;COMPONENT-743;COMPONENT-744;"
    ++ "COMPONENT-745;COMPONENT-746;COMPONENT-747;COMPONENT-748;COMPONENT-749;COMPONENT-750;"
    ++ "COMPONENT-751;COMPONENT-752;COMPONENT-753;COMPONENT-754;COMPONENT-755;COMPONENT-756;"
    ++ "COMPONENT-757;COMPONENT-758;COMPONENT-759;COMPONENT-760;COMPONENT-761;COMPONENT-762;"
    ++ "COMPONENT-763;COMPONENT-764;COMPONENT-765;COMPONENT-766;COMPONENT-767;COMPONENT-768"⟩]

/-- Kana and Bopomofo letters. -/
def kanaNames : List NameRun := [
  ⟨0x3041, "HIRAGANA LETTER",
    "SMALL A;A;SMALL I;I;SMALL U;U;SMALL E;E;SMALL O;O;KA;GA;KI;GI;KU;GU;KE;GE;KO;GO;SA;ZA;"
    ++ "SI;ZI;SU;ZU;SE;ZE;SO;ZO;TA;DA;TI;DI;SMALL TU;TU;DU;TE;DE;TO;DO;NA;NI;NU;NE;NO;HA;BA;PA;"
    ++ "HI;BI;PI;HU;BU;PU;HE;BE;PE;HO;BO;PO;MA;MI;MU;ME;MO;SMALL YA;YA;SMALL YU;YU;SMALL YO;YO;"
    ++ "RA;RI;RU;RE;RO;SMALL WA;WA;WI;WE;WO;N;VU;SMALL KA;SMALL KE"⟩,
  ⟨0x3099, "COMBINING KATAKANA-HIRAGANA", "VOICED SOUND MARK;SEMI-VOICED SOUND MARK"⟩,
  ⟨0x309b, "",
    "KATAKANA-HIRAGANA VOICED SOUND MARK;KATAKANA-HIRAGANA SEMI-VOICED SOUND MARK;"
    ++ "HIRAGANA ITERATION MARK;HIRAGANA VOICED ITERATION MARK;HIRAGANA DIGRAPH YORI;"
    ++ "KATAKANA-HIRAGANA DOUBLE HYPHEN"⟩,
  ⟨0x30a1, "KATAKANA LETTER",
    "SMALL A;A;SMALL I;I;SMALL U;U;SMALL E;E;SMALL O;O;KA;GA;KI;GI;KU;GU;KE;GE;KO;GO;SA;ZA;"
    ++ "SI;ZI;SU;ZU;SE;ZE;SO;ZO;TA;DA;TI;DI;SMALL TU;TU;DU;TE;DE;TO;DO;NA;NI;NU;NE;NO;HA;BA;PA;"
    ++ "HI;BI;PI;HU;BU;PU;HE;BE;PE;HO;BO;PO;MA;MI;MU;ME;MO;SMALL YA;YA;SMALL YU;YU;SMALL YO;YO;"
    ++ "RA;RI;RU;RE;RO;SMALL WA;WA;WI;WE;WO;N;VU;SMALL KA;SMALL KE;VA;VI;VE;VO"⟩,
  ⟨0x30fb, "",
    "KATAKANA MIDDLE DOT;KATAKANA-HIRAGANA PROLONGED SOUND MARK;KATAKANA ITERATION MARK;"
    ++ "KATAKANA VOICED ITERATION MARK;KATAKANA DIGRAPH KOTO"⟩,
  ⟨0x3105, "BOPOMOFO LETTER",
    "B;P;M;F;D;T;N;L;G;K;H;J;Q;X;ZH;CH;SH;R;Z;C;S;A;O;E;EH;AI;EI;AU;OU;AN;EN;ANG;ENG;ER;I;U;"
    ++ "IU;V;NG;GN;IH;O WITH DOT ABOVE;NN"⟩,
  ⟨0x31a0, "BOPOMOFO LETTER",
    "BU;ZI;JI;GU;EE;ENN;OO;ONN;IR;ANN;INN;UNN;IM;NGG;AINN;AUNN;AM;OM;ONG;INNN"⟩,
  ⟨0x31b4, "BOPOMOFO FINAL LETTER", "P;T;K;H"⟩,
  ⟨0x31b8, "BOPOMOFO",
    "LETTER GH;LETTER LH;LETTER ZY;FINAL LETTER G;LETTER GW;LETTER KW;LETTER OE;LETTER AH"⟩,
  ⟨0x31f0, "KATAKANA LETTER SMALL", "KU;SI;SU;TO;NU;HA;HI;HU;HE;HO;MU;RA;RI;RU;RE;RO"⟩,
  ⟨0x1aff0, "KATAKANA LETTER MINNAN", "TONE-2;TONE-3;TONE-4;TONE-5"⟩,
  ⟨0x1aff5, "KATAKANA LETTER MINNAN",
    "TONE-7;TONE-8;NASALIZED TONE-1;NASALIZED TONE-2;NASALIZED TONE-3;NASALIZED TONE-4;"
    ++ "NASALIZED TONE-5"⟩,
  ⟨0x1affd, "KATAKANA LETTER MINNAN NASALIZED", "TONE-7;TONE-8"⟩,
  ⟨0x1b000, "", "KATAKANA LETTER ARCHAIC E;HIRAGANA LETTER ARCHAIC YE"⟩,
  ⟨0x1b002, "HENTAIGANA LETTER",
    "A-1;A-2;A-3;A-WO;I-1;I-2;I-3;I-4;U-1;U-2;U-3;U-4;U-5;E-2;E-3;E-4;E-5;E-6;O-1;O-2;O-3;"
    ++ "KA-1;KA-2;KA-3;KA-4;KA-5;KA-6;KA-7;KA-8;KA-9;KA-10;KA-11;KA-KE;KI-1;KI-2;KI-3;KI-4;KI-5;"
    ++ "KI-6;KI-7;KI-8;KU-1;KU-2;KU-3;KU-4;KU-5;KU-6;KU-7;KE-1;KE-2;KE-3;KE-4;KE-5;KE-6;KO-1;"
    ++ "KO-2;KO-3;KO-KI;SA-1;SA-2;SA-3;SA-4;SA-5;SA-6;SA-7;SA-8;SI-1;SI-2;SI-3;SI-4;SI-5;SI-6;"
    ++ "SU-1;SU-2;SU-3;SU-4;SU-5;SU-6;SU-7;SU-8;SE-1;SE-2;SE-3;SE-4;SE-5;SO-1;SO-2;SO-3;SO-4;"
    ++ "SO-5;SO-6;SO-7;TA-1;TA-2;TA-3;TA-4;TI-1;TI-2;TI-3;TI-4;TI-5;TI-6;TI-7;TU-1;TU-2;TU-3;"
    ++ "TU-4;TU-TO;TE-1;TE-2;TE-3;TE-4;TE-5;TE-6;TE-7;TE-8;TE-9;TO-1;TO-2;TO-3;TO-4;TO-5;TO-6;"
    ++ "TO-RA;NA-1;NA-2;NA-3;NA-4;NA-5;NA-6;NA-7;NA-8;NA-9;NI-1;NI-2;NI-3;NI-4;NI-5;NI-6;NI-7;"
    ++ "NI-TE;NU-1;NU-2;NU-3;NE-1;NE-2;NE-3;NE-4;NE-5;NE-6;NE-KO;NO-1;NO-2;NO-3;NO-4;NO-5;HA-1;"
    ++ "HA-2;HA-3;HA-4;HA-5;HA-6;HA-7;HA-8;HA-9;HA-10;HA-11;HI-1;HI-2;HI-3;HI-4;HI-5;HI-6;HI-7;"
    ++ "HU-1;HU-2;HU-3;HE-1;HE-2;HE-3;HE-4;HE-5;HE-6;HE-7;HO-1;HO-2;HO-3;HO-4;HO-5;HO-6;HO-7;"
    ++ "HO-8;MA-1;MA-2;MA-3;MA-4;MA-5;MA-6;MA-7;MI-1;MI-2;MI-3;MI-4;MI-5;MI-6;MI-7;MU-1;MU-2;"
    ++ "MU-3;MU-4;ME-1;ME-2;ME-MA;MO-1;MO-2;MO-3;MO-4;MO-5;MO-6;YA-1;YA-2;YA-3;YA-4;YA-5;YA-YO;"
    ++ "YU-1;YU-2;YU-3;YU-4;YO-1;YO-2;YO-3;YO-4;YO-5;YO-6;RA-1;RA-2;RA-3;RA-4;RI-1;RI-2;RI-3;"
    ++ "RI-4;RI-5;RI-6;RI-7;RU-1;RU-2;RU-3;RU-4;RU-5;RU-6;RE-1;RE-2;RE-3;RE-4;RO-1;RO-2;RO-3;"
    ++ "RO-4;RO-5;RO-6;WA-1;WA-2;WA-3;WA-4;WA-5;WI-1;WI-2;WI-3;WI-4;WI-5;WE-1;WE-2;WE-3;WE-4;"
    ++ "WO-1;WO-2;WO-3;WO-4;WO-5;WO-6;WO-7;N-MU-MO-1;N-MU-MO-2"⟩,
  ⟨0x1b11f, "HIRAGANA LETTER ARCHAIC", "WU"⟩,
  ⟨0x1b120, "KATAKANA LETTER ARCHAIC", "YI;YE;WU"⟩,
  ⟨0x1b150, "HIRAGANA LETTER SMALL", "WI;WE;WO"⟩,
  ⟨0x1b164, "KATAKANA LETTER SMALL", "WI;WE;WO;N"⟩]

/-- Enclosed, squared, wide and narrow characters. -/
def wideNames : List NameRun := [
  ⟨0x3200, "PARENTHESIZED HANGUL",
    "KIYEOK;NIEUN;TIKEUT;RIEUL;MIEUM;PIEUP;SIOS;IEUNG;CIEUC;CHIEUCH;KHIEUKH;THIEUTH;PHIEUPH;"
    ++ "HIEUH;KIYEOK A;NIEUN A;TIKEUT A;RIEUL A;MIEUM A;PIEUP A;SIOS A;IEUNG A;CIEUC A;"
    ++ "CHIEUCH A;KHIEUKH A;THIEUTH A;PHIEUPH A;HIEUH A;CIEUC U"⟩,
  ⟨0x321d, "PARENTHESIZED KOREAN CHARACTER", "OJEON;O HU"⟩,
  ⟨0x3220, "PARENTHESIZED IDEOGRAPH",
    "ONE;TWO;THREE;FOUR;FIVE;SIX;SEVEN;EIGHT;NINE;TEN;MOON;FIRE;WATER;WOOD;METAL;EARTH;SUN;"
    ++ "STOCK;HAVE;SOCIETY;NAME;SPECIAL;FINANCIAL;CONGRATULATION;LABOR;REPRESENT;CALL;STUDY;"
    ++ "SUPERVISE;ENTERPRISE;RESOURCE;ALLIANCE;FESTIVAL;REST;SELF;REACH"⟩,
  ⟨0x3244, "CIRCLED IDEOGRAPH", "QUESTION;KINDERGARTEN;SCHOOL;KOTO"⟩,
  ⟨0x3248, "CIRCLED NUMBER",
    "TEN ON BLACK SQUARE;TWENTY ON BLACK SQUARE;THIRTY ON BLACK SQUARE;FORTY ON BLACK SQUARE;"
    ++ "FIFTY ON BLACK SQUARE;SIXTY ON BLACK SQUARE;SEVENTY ON BLACK SQUARE;"
    ++ "EIGHTY ON BLACK SQUARE"⟩,
  ⟨0x3250, "PARTNERSHIP", "SIGN"⟩,
  ⟨0x3251, "CIRCLED NUMBER TWENTY", "ONE;TWO;THREE;FOUR;FIVE;SIX;SEVEN;EIGHT;NINE"⟩,
  ⟨0x325a, "CIRCLED NUMBER", "THIRTY;THIRTY ONE;THIRTY TWO;THIRTY THREE;THIRTY FOUR;THIRTY FIVE"⟩,
  ⟨0x3260, "CIRCLED HANGUL",
    "KIYEOK;NIEUN;TIKEUT;RIEUL;MIEUM;PIEUP;SIOS;IEUNG;CIEUC;CHIEUCH;KHIEUKH;THIEUTH;PHIEUPH;"
    ++ "HIEUH;KIYEOK A;NIEUN A;TIKEUT A;RIEUL A;MIEUM A;PIEUP A;SIOS A;IEUNG A;CIEUC A;"
    ++ "CHIEUCH A;KHIEUKH A;THIEUTH A;PHIEUPH A;HIEUH A"⟩,
  ⟨0x327c, "CIRCLED KOREAN CHARACTER", "CHAMKO;JUEUI"⟩,
  ⟨0x327e, "", "CIRCLED HANGUL IEUNG U;KOREAN STANDARD SYMBOL"⟩,
  ⟨0x3280, "CIRCLED IDEOGRAPH",
    "ONE;TWO;THREE;FOUR;FIVE;SIX;SEVEN;EIGHT;NINE;TEN;MOON;FIRE;WATER;WOOD;METAL;EARTH;SUN;"
    ++ "STOCK;HAVE;SOCIETY;NAME;SPECIAL;FINANCIAL;CONGRATULATION;LABOR;SECRET;MALE;FEMALE;"
    ++ "SUITABLE;EXCELLENT;PRINT;ATTENTION;ITEM;REST;COPY;CORRECT;HIGH;CENTRE;LOW;LEFT;RIGHT;"
    ++ "MEDICINE;RELIGION;STUDY;SUPERVISE;ENTERPRISE;RESOURCE;ALLIANCE;NIGHT"⟩,
  ⟨0x32b1, "CIRCLED NUMBER",
    "THIRTY SIX;THIRTY SEVEN;THIRTY EIGHT;THIRTY NINE;FORTY;FORTY ONE;FORTY TWO;FORTY THREE;"
    ++ "FORTY FOUR;FORTY FIVE;FORTY SIX;FORTY SEVEN;FORTY EIGHT;FORTY NINE;FIFTY"⟩,
  ⟨0x32c0, "IDEOGRAPHIC TELEGRAPH SYMBOL FOR",
    "JANUARY;FEBRUARY;MARCH;APRIL;MAY;JUNE;JULY;AUGUST;SEPTEMBER;OCTOBER;NOVEMBER;DECEMBER"⟩,
  ⟨0x32cc, "", "SQUARE HG;SQUARE ERG;SQUARE EV;LIMITED LIABILITY SIGN"⟩,
  ⟨0x32d0, "CIRCLED KATAKANA",
    "A;I;U;E;O;KA;KI;KU;KE;KO;SA;SI;SU;SE;SO;TA;TI;TU;TE;TO;NA;NI;NU;NE;NO;HA;HI;HU;HE;HO;MA;"
    ++ "MI;MU;ME;MO;YA;YU;YO;RA;RI;RU;RE;RO;WA;WI;WE;WO"⟩,
  ⟨0x32ff, "SQUARE",
    "ERA NAME REIWA;APAATO;ARUHUA;ANPEA;AARU;ININGU;INTI;UON;ESUKUUDO;EEKAA;ONSU;OOMU;KAIRI;"
    ++ "KARATTO;KARORII;GARON;GANMA;GIGA;GINII;KYURII;GIRUDAA;KIRO;KIROGURAMU;KIROMEETORU;"
    ++ "KIROWATTO;GURAMU;GURAMUTON;KURUZEIRO;KUROONE;KEESU;KORUNA;KOOPO;SAIKURU;SANTIIMU;"
    ++ "SIRINGU;SENTI;SENTO;DAASU;DESI;DORU;TON;NANO;NOTTO;HAITU;PAASENTO;PAATU;BAARERU;"
    ++ "PIASUTORU;PIKURU;PIKO;BIRU;HUARADDO;HUIITO;BUSSYERU;HURAN;HEKUTAARU;PESO;PENIHI;HERUTU;"
    ++ "PENSU;PEEZI;BEETA;POINTO;BORUTO;HON;PONDO;HOORU;HOON;MAIKURO;MAIRU;MAHHA;MARUKU;MANSYON;"
    ++ "MIKURON;MIRI;MIRIBAARU;MEGA;MEGATON;MEETORU;YAADO;YAARU;YUAN;RITTORU;RIRA;RUPII;RUUBURU;"
    ++ "REMU;RENTOGEN;WATTO"⟩,
  ⟨0x3358, "IDEOGRAPHIC TELEGRAPH SYMBOL FOR HOUR",
    "ZERO;ONE;TWO;THREE;FOUR;FIVE;SIX;SEVEN;EIGHT;NINE;TEN;ELEVEN;TWELVE;THIRTEEN;FOURTEEN;"
    ++ "FIFTEEN;SIXTEEN;SEVENTEEN;EIGHTEEN;NINETEEN;TWENTY;TWENTY-ONE;TWENTY-TWO;TWENTY-THREE;"
    ++ "TWENTY-FOUR"⟩,
  ⟨0x3371, "SQUARE",
    "HPA;DA;AU;BAR;OV;PC;DM;DM SQUARED;DM CUBED;IU;ERA NAME HEISEI;ERA NAME SYOUWA;"
    ++ "ERA NAME TAISYOU;ERA NAME MEIZI;CORPORATION;PA AMPS;NA;MU A;MA;KA;KB;MB;GB;CAL;KCAL;PF;"
    ++ "NF;MU F;MU G;MG;KG;HZ;KHZ;MHZ;GHZ;THZ;MU L;ML;DL;KL;FM;NM;MU M;MM;CM;KM;MM SQUARED;"
    ++ "CM SQUARED;M SQUARED;KM SQUARED;MM CUBED;CM CUBED;M CUBED;KM CUBED;M OVER S;"
    ++ "M OVER S SQUARED;PA;KPA;MPA;GPA;RAD;RAD OVER S;RAD OVER S SQUARED;PS;NS;MU S;MS;PV;NV;"
    ++ "MU V;MV;KV;MV MEGA;PW;NW;MU W;MW;KW;MW MEGA;K OHM;M OHM;AM;BQ;CC;CD;C OVER KG;CO;DB;GY;"
    ++ "HA;HP;IN;KK;KM CAPITAL;KT;LM;LN;LOG;LX;MB SMALL;MIL;MOL;PH;PM;PPM;PR;SR;SV;WB;V OVER M;"
    ++ "A OVER M"⟩,
  ⟨0x33e0, "IDEOGRAPHIC TELEGRAPH SYMBOL FOR DAY",
    "ONE;TWO;THREE;FOUR;FIVE;SIX;SEVEN;EIGHT;NINE;TEN;ELEVEN;TWELVE;THIRTEEN;FOURTEEN;"
    ++ "FIFTEEN;SIXTEEN;SEVENTEEN;EIGHTEEN;NINETEEN;TWENTY;TWENTY-ONE;TWENTY-TWO;TWENTY-THREE;"
    ++ "TWENTY-FOUR;TWENTY-FIVE;TWENTY-SIX;TWENTY-SEVEN;TWENTY-EIGHT;TWENTY-NINE;THIRTY;"
    ++ "THIRTY-ONE"⟩,
  ⟨0x33ff, "SQUARE", "GAL"⟩,
  ⟨0xfe10, "PRESENTATION FORM FOR VERTICAL",
    "COMMA;IDEOGRAPHIC COMMA;IDEOGRAPHIC FULL STOP;COLON;SEMICOLON;EXCLAMATION MARK;"
    ++ "QUESTION MARK;LEFT WHITE LENTICULAR BRACKET;RIGHT WHITE LENTICULAR BRAKCET;"
    ++ "HORIZONTAL ELLIPSIS"⟩,
  ⟨0xfe30, "PRESENTATION FORM FOR VERTICAL",
    "TWO DOT LEADER;EM DASH;EN DASH;LOW LINE;WAVY LOW LINE;LEFT PARENTHESIS;"
    ++ "RIGHT PARENTHESIS;LEFT CURLY BRACKET;RIGHT CURLY BRACKET;LEFT TORTOISE SHELL BRACKET;"
    ++ "RIGHT TORTOISE SHELL BRACKET;LEFT BLACK LENTICULAR BRACKET;"
    ++ "RIGHT BLACK LENTICULAR BRACKET;LEFT DOUBLE ANGLE BRACKET;RIGHT DOUBLE ANGLE BRACKET;"
    ++ "LEFT ANGLE BRACKET;RIGHT ANGLE BRACKET;LEFT CORNER BRACKET;RIGHT CORNER BRACKET;"
    ++ "LEFT WHITE CORNER BRACKET;RIGHT WHITE CORNER BRACKET"⟩,
  ⟨0xfe45, "",
    "SESAME DOT;WHITE SESAME DOT;PRESENTATION FORM FOR VERTICAL LEFT SQUARE BRACKET;"
    ++ "PRESENTATION FORM FOR VERTICAL RIGHT SQUARE BRACKET;DASHED OVERLINE;CENTRELINE OVERLINE;"
    ++ "WAVY OVERLINE;DOUBLE WAVY OVERLINE;DASHED LOW LINE;CENTRELINE LOW LINE;WAVY LOW LINE;"
    ++ "SMALL COMMA;SMALL IDEOGRAPHIC COMMA;SMALL FULL STOP"⟩,
  ⟨0xfe54, "SMALL",
    "SEMICOLON;COLON;QUESTION MARK;EXCLAMATION MARK;EM DASH;LEFT PARENTHESIS;"
    ++ "RIGHT PARENTHESIS;LEFT CURLY BRACKET;RIGHT CURLY BRACKET;LEFT TORTOISE SHELL BRACKET;"
    ++ "RIGHT TORTOISE SHELL BRACKET;NUMBER SIGN;AMPERSAND;ASTERISK;PLUS SIGN;HYPHEN-MINUS;"
    ++ "LESS-THAN SIGN;GREATER-THAN SIGN;EQUALS SIGN"⟩,
  ⟨0xfe68, "SMALL", "REVERSE SOLIDUS;DOLLAR SIGN;PERCENT SIGN;COMMERCIAL AT"⟩,
  ⟨0xff01, "FULLWIDTH",
    "EXCLAMATION MARK;QUOTATION MARK;NUMBER SIGN;DOLLAR SIGN;PERCENT SIGN;AMPERSAND;"
    ++ "APOSTROPHE;LEFT PARENTHESIS;RIGHT PARENTHESIS;ASTERISK;PLUS SIGN;COMMA;HYPHEN-MINUS;"
    ++ "FULL STOP;SOLIDUS"⟩,
  ⟨0xff1a, "FULLWIDTH",
    "COLON;SEMICOLON;LESS-THAN SIGN;EQUALS SIGN;GREATER-THAN SIGN;QUESTION MARK;COMMERCIAL AT"⟩,
  ⟨0xff21, "FULLWIDTH LATIN CAPITAL LETTER", "A;B;C;D;E;F;G;H;I;J;K;L;M;N;O;P;Q;R;S;T;U;V;W;X;Y;Z"⟩,
  ⟨0xff3b, "FULLWIDTH",
    "LEFT SQUARE BRACKET;REVERSE SOLIDUS;RIGHT SQUARE BRACKET;CIRCUMFLEX ACCENT;LOW LINE;"
    ++ "GRAVE ACCENT"⟩,
  ⟨0xff41, "FULLWIDTH LATIN SMALL LETTER", "A;B;C;D;E;F;G;H;I;J;K;L;M;N;O;P;Q;R;S;T;U;V;W;X;Y;Z"⟩,
  ⟨0xff5b, "FULLWIDTH",
    "LEFT CURLY BRACKET;VERTICAL LINE;RIGHT CURLY BRACKET;TILDE;LEFT WHITE PARENTHESIS;"
    ++ "RIGHT WHITE PARENTHESIS"⟩,
  ⟨0xff61, "HALFWIDTH",
    "IDEOGRAPHIC FULL STOP;LEFT CORNER BRACKET;RIGHT CORNER BRACKET;IDEOGRAPHIC COMMA;"
    ++ "KATAKANA MIDDLE DOT;KATAKANA LETTER WO"⟩,
  ⟨0xff67, "HALFWIDTH KATAKANA LETTER SMALL", "A;I;U;E;O;YA;YU;YO;TU"⟩,
  ⟨0xff70, "HALFWIDTH KATAKANA-HIRAGANA PROLONGED SOUND", "MARK"⟩,
  ⟨0xff71, "HALFWIDTH KATAKANA LETTER",
    "A;I;U;E;O;KA;KI;KU;KE;KO;SA;SI;SU;SE;SO;TA;TI;TU;TE;TO;NA;NI;NU;NE;NO;HA;HI;HU;HE;HO;MA;"
    ++ "MI;MU;ME;MO;YA;YU;YO;RA;RI;RU;RE;RO;WA;N"⟩,
  ⟨0xff9e, "HALFWIDTH", "KATAKANA VOICED SOUND MARK;KATAKANA SEMI-VOICED SOUND MARK;HANGUL FILLER"⟩,
  ⟨0xffa1, "HALFWIDTH HANGUL LETTER",
    "KIYEOK;SSANGKIYEOK;KIYEOK-SIOS;NIEUN;NIEUN-CIEUC;NIEUN-HIEUH;TIKEUT;SSANGTIKEUT;RIEUL;"
    ++ "RIEUL-KIYEOK;RIEUL-MIEUM;RIEUL-PIEUP;RIEUL-SIOS;RIEUL-THIEUTH;RIEUL-PHIEUPH;RIEUL-HIEUH;"
    ++ "MIEUM;PIEUP;SSANGPIEUP;PIEUP-SIOS;SIOS;SSANGSIOS;IEUNG;CIEUC;SSANGCIEUC;CHIEUCH;KHIEUKH;"
    ++ "THIEUTH;PHIEUPH;HIEUH"⟩,
  ⟨0xffc2, "HALFWIDTH HANGUL LETTER", "A;AE;YA;YAE;EO;E"⟩,
  ⟨0xffca, "HALFWIDTH HANGUL LETTER", "YEO;YE;O;WA;WAE;OE"⟩,
  ⟨0xffd2, "HALFWIDTH HANGUL LETTER", "YO;U;WEO;WE;WI;YU"⟩,
  ⟨0xffda, "HALFWIDTH HANGUL LETTER", "EU;YI;I"⟩,
  ⟨0xffe0, "FULLWIDTH", "CENT SIGN;POUND SIGN;NOT SIGN;MACRON;BROKEN BAR;YEN SIGN;WON SIGN"⟩,
  ⟨0xffe8, "HALFWIDTH",
    "FORMS LIGHT VERTICAL;LEFTWARDS ARROW;UPWARDS ARROW;RIGHTWARDS ARROW;DOWNWARDS ARROW;"
    ++ "BLACK SQUARE;WHITE CIRCLE"⟩,
  ⟨0x1f200, "", "SQUARE HIRAGANA HOKA;SQUARED KATAKANA KOKO;SQUARED KATAKANA SA"⟩,
  ⟨0x1f210, "SQUARED",
    "CJK UNIFIED IDEOGRAPH-624B;CJK UNIFIED IDEOGRAPH-5B57;CJK UNIFIED IDEOGRAPH-53CC;"
    ++ "KATAKANA DE"⟩,
  ⟨0x1f214, "SQUARED CJK UNIFIED",
    "IDEOGRAPH-4E8C;IDEOGRAPH-591A;IDEOGRAPH-89E3;IDEOGRAPH-5929;IDEOGRAPH-4EA4;"
    ++ "IDEOGRAPH-6620;IDEOGRAPH-7121;IDEOGRAPH-6599;IDEOGRAPH-524D;IDEOGRAPH-5F8C;"
    ++ "IDEOGRAPH-518D;IDEOGRAPH-65B0;IDEOGRAPH-521D;IDEOGRAPH-7D42;IDEOGRAPH-751F;"
    ++ "IDEOGRAPH-8CA9;IDEOGRAPH-58F0;IDEOGRAPH-5439;IDEOGRAPH-6F14;IDEOGRAPH-6295;"
    ++ "IDEOGRAPH-6355;IDEOGRAPH-4E00;IDEOGRAPH-4E09;IDEOGRAPH-904A;IDEOGRAPH-5DE6;"
    ++ "IDEOGRAPH-4E2D;IDEOGRAPH-53F3;IDEOGRAPH-6307;IDEOGRAPH-8D70;IDEOGRAPH-6253;"
    ++ "IDEOGRAPH-7981;IDEOGRAPH-7A7A;IDEOGRAPH-5408;IDEOGRAPH-6E80;IDEOGRAPH-6709;"
    ++ "IDEOGRAPH-6708;IDEOGRAPH-7533;IDEOGRAPH-5272;IDEOGRAPH-55B6;IDEOGRAPH-914D"⟩,
  ⟨0x1f240, "TORTOISE SHELL BRACKETED CJK UNIFIED",
    "IDEOGRAPH-672C;IDEOGRAPH-4E09;IDEOGRAPH-4E8C;IDEOGRAPH-5B89;IDEOGRAPH-70B9;"
    ++ "IDEOGRAPH-6253;IDEOGRAPH-76D7;IDEOGRAPH-52DD;IDEOGRAPH-6557"⟩,
  ⟨0x1f250, "CIRCLED IDEOGRAPH", "ADVANTAGE;ACCEPT"⟩,
  ⟨0x1f260, "ROUNDED SYMBOL FOR", "FU;LU;SHOU;XI;SHUANGXI;CAI"⟩]

/-- Mongolian letters. -/
def mongolianNames : List NameRun := [
  ⟨0x1800, "MONGOLIAN",
    "BIRGA;ELLIPSIS;COMMA;FULL STOP;COLON;FOUR DOTS;TODO SOFT HYPHEN;"
    ++ "SIBE SYLLABLE BOUNDARY MARKER;MANCHU COMMA;MANCHU FULL STOP;NIRUGU;"
    ++ "FREE VARIATION SELECTOR ONE;FREE VARIATION SELECTOR TWO;FREE VARIATION SELECTOR THREE;"
    ++ "VOWEL SEPARATOR;FREE VARIATION SELECTOR FOUR"⟩,
  ⟨0x1820, "MONGOLIAN LETTER",
    "A;E;I;O;U;OE;UE;EE;NA;ANG;BA;PA;QA;GA;MA;LA;SA;SHA;TA;DA;CHA;JA;YA;RA;WA;FA;KA;KHA;TSA;"
    ++ "ZA;HAA;ZRA;LHA;ZHI;CHI"⟩,
  ⟨0x1843, "MONGOLIAN LETTER TODO",
    "LONG VOWEL SIGN;E;I;O;U;OE;UE;ANG;BA;PA;QA;GA;MA;TA;DA;CHA;JA;TSA;YA;WA;KA;GAA;HAA;JIA;"
    ++ "NIA;DZA"⟩,
  ⟨0x185d, "MONGOLIAN LETTER SIBE",
    "E;I;IY;UE;U;ANG;KA;GA;HA;PA;SHA;TA;DA;JA;FA;GAA;HAA;TSA;ZA;RAA;CHA;ZHA"⟩,
  ⟨0x1873, "MONGOLIAN LETTER",
    "MANCHU I;MANCHU KA;MANCHU RA;MANCHU FA;MANCHU ZHA;CHA WITH TWO DOTS"⟩,
  ⟨0x1880, "MONGOLIAN LETTER ALI GALI",
    "ANUSVARA ONE;VISARGA ONE;DAMARU;UBADAMA;INVERTED UBADAMA;BALUDA;THREE BALUDA;A;I;KA;NGA;"
    ++ "CA;TTA;TTHA;DDA;NNA;TA;DA;PA;PHA;SSA;ZHA;ZA;AH"⟩,
  ⟨0x1898, "MONGOLIAN LETTER TODO ALI GALI", "TA;ZHA"⟩,
  ⟨0x189a, "MONGOLIAN LETTER MANCHU ALI GALI", "GHA;NGA;CA;JHA;TTA;DDHA;TA;DHA;SSA;CYA;ZHA;ZA"⟩,
  ⟨0x18a6, "MONGOLIAN LETTER",
    "ALI GALI HALF U;ALI GALI HALF YA;MANCHU ALI GALI BHA;ALI GALI DAGALGA;"
    ++ "MANCHU ALI GALI LHA"⟩,
  ⟨0x11660, "MONGOLIAN",
    "BIRGA WITH ORNAMENT;ROTATED BIRGA;DOUBLE BIRGA WITH ORNAMENT;TRIPLE BIRGA WITH ORNAMENT;"
    ++ "BIRGA WITH DOUBLE ORNAMENT;ROTATED BIRGA WITH ORNAMENT;"
    ++ "ROTATED BIRGA WITH DOUBLE ORNAMENT;INVERTED BIRGA;INVERTED BIRGA WITH DOUBLE ORNAMENT;"
    ++ "SWIRL BIRGA;SWIRL BIRGA WITH ORNAMENT;SWIRL BIRGA WITH DOUBLE ORNAMENT;"
    ++ "TURNED SWIRL BIRGA WITH DOUBLE ORNAMENT"⟩]

end NumberingPlan.Unicode
