/-!
# Tables of the names of characters

A name is a row of words. In a table each name is written as a digit and a text: the digit says how many
words the name begins with like the one before it, and the text has its other words. Two small letters stand
for the word of `words` at the place that they write in base 26; any other word stands for itself, and a
space divides it from the next one. Names are divided by `;` or the end of a line, and belong to characters
that follow each other, unless `=` and the code of the next one, in hexadecimal digits, stand between them.
-/

namespace Paygate.Text.NameTable

/-- The words that are abbreviated. -/
def words : String :=
"WITH LETTER SMALL FORM CAPITAL SIGN AND ARROW RIGHT ABOVE LEFT TWO ONE BELOW FINAL DOUBLE MARK DOT
THREE TO BLACK ISOLATED OF WHITE FOUR HOOK STROKE SYMBOL FIVE INITIAL RIGHTWARDS HEAVY MIDDLE
VERTICAL UP SIX EIGHT TIMES MEEM BAR PLUS LEFTWARDS DOWN SEVEN HALF HUNDRED HA NINE BRACKET KA FACE
SQUARE PA CIRCLE DOTS RA YEH OVER THOUSAND LA MA NA YA ALEF INDEX EQUAL HORIZONTAL LIGHT VOWEL SA TA
TILDE DIGIT RING DA DOWNWARDS LOWER TRIANGLE GA BARB LOW ACUTE MEDIUM UPWARDS HAH BA MEDIAL ZERO AA
WEST-CREE UPPER OPEN OR JEEM TURNED LONG TEN CIRCUMFLEX THUMB TONE AI II DASIA HIGH PSILI REVERSED
DIAERESIS AU LINE NGA SHA SINGLE STOP TRIANGLE-HEADED UU ARROWHEAD JA WA CA LARGE GRAVE CHA MAKSURA
NYA INVERTED KHA MACRON POINTING NUMBER ON EAST ROTATED OXIA VARIA COMMA THA BLOCK LESS-THAN NOT
GREATER-THAN STAR VOCALIC CENTRE BREVE HARPOON IN LITTLE PHA TAIL CIRCLED KHAH OLD VA WEST ANGLE
DEGREES GUNU LATIN ORNAMENT FULL SHORT ANUSVARA TTA DDA EN GHA DHA NORTH OO ZA NUN PE ASTERISK CROSS
TRIPLE ASH CARON DIAGONAL NNA BHA OPERATOR PERISPOMENI PUNCTUATION SOUTH DASH EE PARENTHESIS PI
RETROFLEX TENU TOP TTHA FA HE NO SSA TWENTY VIRAMA DDHA DESCENDER DIAMOND OE RR ACCENT COMBINING FOR
NOON DOTTED MU NINETY OMEGA THE WAW YPOGEGRAMMENI END LAM YU HAMZA JHA TE VISARGA CLOSED EQUALS LL
POINTED SQUARED HORN SEVENTY SHE TACK AIN ALPHA AN FIFTY LIGATURE QUARTER BOTTOM CHESS COLON CORNER
CANDRABINDU CROSSING FROM HAND HITTING IOTA REH SEPARATOR BENT DANDA KAF MODIFIER QUOTATION SHIN TSA
BOLD CEDILLA HEART HEH ORKHON PALATAL QUESTION YUS DIGRAPH GLOTTAL HAND-FIST KNIGHT LLA
PROSGEGRAMMENI TAH UPSILON VERY YENISEI BOX EIGHTH GAR NEO RHO SEEN CURLY EPSILON EXCLAMATION IGI
MOON QAF RAISED SIDE SIGMA SUBSET COPTIC GREEK NUKTA PHI THETA UNDERBAR CHE CHI EQUILATERAL FINGERS
RIGHT-POINTING SCRIPT SECTION SHELL SOLIDUS STRAIGHT SUPERSET ALTERNATE CONSONANT DAGESH DISH FEH
OVERLAY SAD SANS-SERIF CURL GAMMA LEAF NEUTRAL REVERSE SHAFT SLANTED SPACE THIRTY TRIANGULAR VARIANT
WAVE ZHA ETA EYES MAN MOUTH BEH DELTA LEFT-POINTING NOTE RRA ARABIC ARCHAIC ARCHAION BAD BETA DAD
FRACTION HEAD INSIDE INTEGRAL MEM SHEEN TEH TONOS ABBREVIATION ALTERNATING ANTICLOCKWISE CONJOINED
CURVE ESH FORTY FORWARD GAN2 GHE HAND-HINGE INSULAR KAPPA KING LOOP MINUS OMICRON REST SPOKED TAU
TORTOISE ALEPH BETH BETWEEN GHAIN HAND-CIRCLE HEARTS INTERSECTION LEG PSI SIXTY SMILING SOUND
SYLLABLE UNION ALMOST ARROWS AVAGRAHA CHARACTER GIMEL GISH HINGED IOTIFIED KAPH KOMI NEGATIVE PERSON
QUEEN SAMEKH SHAD SLASH TAK4 C-SIMPLIFIED CANDRA EIGHTHS EIGHTY EQUIVALENT HETH IDEOGRAPHIC KOET
LAMEDH LENGTH OBLIQUE OGONEK QUADRANT QUARTERS SADHE SHADE TSHA WORD YODH ZAIN BULLET CLUBS CYRILLIC
DIALYTIKA DIAMONDS DOTLESS EARTH FILL LAMDA QUAD SOFT SPADES THROUGH TWELVE UP-POINTING ZAYIN
CIRCLES CLOCKWISE CROSSED DASHED ICHOS KASRA LOGICAL LOZENGE MULTIPLE MUSICAL OVERBAR POINT PRECEDES
PRODUCT RESH RISING SHADOWED SPREAD SUCCEEDS SUPERSCRIPT THIRD WATER ZETA AYIN BACK BALL BISHOP
CHECK DOWN-POINTING ELEVEN FATHA FLAG HAND-ANGLE HYPHEN KASKAL KRYZHEM LAGAB MOVEMENT-FLOORPLANE
MOVEMENT-WALLPLANE NOTEHEAD OCLOCK PAWN POVYSHE PRIME ROOK ROUND RTAGS SEMICOLON TABULATION TEDUNG
TELEPHONE THEH WRIST Y-CREE YANG CARRIER CLICK CURVED DOUBLE-STRUCK FIFTEEN ITALIC KATAKANA
MULTIPLICATION MURDA QUADRUPLE SALTIRE SIMALUNGUN TSHEG TWO-HEADED ALPAPRAANA ARABIC-INDIC BARRED
BESIDE BIRGA CARET DALETH DAMMA ELEMENT FLOOR HANGUL INVERSE ITERATION LEFT-STEM LUNATE MAHAAPRAANA
NASKAPI NORMAL NUMERAL ROUNDED SCHWA SHAR2 SIXTEEN SVARITA TONE-2 TONE-5 TWELFTHS VOICED APOSTROPHE
BAMBOOS BUBBLE CEILING CHARACTERS CIEUC CONTROL CROSSED-TAIL CRYPTOGRAMMIC EIGHTEEN ENVELOPE FILLER
IEUNG KAREN LARGEST LENTICULAR MADDA NOTCHED NUBIAN PINWHEEL SAYISI SIDEWAYS THIRDS TONE-3 ABKHASIAN
AMPERSAND BACKHAND CENTRED CHIEUCH COMPRESSED CONTAINS CRESCENTS DIALECT-P DIVISION DODEKATA DRAGON
ELLIPSIS EXTENDED EXTENSION FINGER FOURTEEN INDEPENDENT INDICATOR KHIEUKH KIYEOK LONSUM MAHAPRANA
MARKER MOUNTAIN MOVEMENT NINETEEN NOTATION OPPOSING OVERLINE PAIRED PARALLEL PARTIAL PHIEUPH SECANT
SEVENTEEN SHESHIG STATERS SUBGROUP SUBUNIT SVETLAYA THIEUTH THIRTEEN THOUSANDS TIKEUT TURNSTILE
ZAPYATAYA ZIGZAG AIRPLANE BACKSLASH CONTAINING FALLING FISHHOOK JAPANESE KLYUCHEVAYA MILLIONS
OUTLINED PLASTICS RECTANGLE SIDDHAM SIMILAR SUBSCRIPT TALENTS TEARDROP-SPOKED VERTICALLY WRINKLED
ANTIMONY ATTACHED CRESCENT DIFFERENTIAL DOUBLE-LINE EQUIHOPPER EXTREMELY FATHATAN HAND-CUP HIRAGANA
INFINITY INFORMATION JIHVAMULIYA KHOKHLOM MATHEMATICAL MONOGRAM SCISSORS SINGLE-LINE SIXTEENTH
SUBJOINED SUBSTITUTION THESPIAN UPADHMANIYA ZAPYATOY APPROXIMATELY BLACK-LETTER COMMERCIAL
GEMINATION INTERROBANG KATAKANA-HIRAGANA LEFT-TO-RIGHT NEPOSTOYANNAYA PARAGRAPH ROTATION-FLOORPLANE
ROTATION-WALLPLANE SEMICIRCLE SEMIDIRECT CANCELLATION CENTRALIZATION EGYPTOLOGICAL GROMOPOVODNAYA
HYPHEN-MINUS J-SIMPLIFIED MIDDLE-WELSH PARENTHESIZED PRESENTATION RIEUL-KIYEOK RIGHT-FACING
RIGHT-SHADOWED RIGHT-TO-LEFT TRANSMISSION"

/-- The names of the characters. Syllables and ideographs are left out, whose names are put together. -/
def names : String :=
"=20;0mj;0kvaq;0jsaq;0eyaf;0DOLLAR af;0PERCENT af;0vo;0up;0akhe;0aihe;0gq;0boaf;0fe;0zq;0gdei;0lr;0cudj;1am;1al;1as;1ay;1bc;1bj;1br;1bk;1bv;0je;0sr;0fhaf;0ioaf;0fjaf;0kbaq;0zbAT;0gbaeabA;3B;3C;3D;3E;3F;3G;3H;3I;3J;3K;3L;3M;3N;3O;3P;3Q;3R;3S;3T;3U;3V;3W;3X;3Y;3Z;0akbzbw;0mglr;0aibzbw;0dthv;0dcee;0eqhv;0gbacabA;3B;3C;3D;3E;3F;3G;3H;3I;3J;3K;3L;3M;3N;3O;3P;3Q;3R;3S;3T;3U;3V;3W;3X;3Y;3Z;0akktbw;0bhee;0aiktbw;0ct;=A0;0NO-BREAK mj;0eukvaq;0CENT af;0POUND af;0CURRENCY af;0YEN af;0BROKEN bn;0lpaf;0ec;0COPYRIGHT af;0FEMININE ORDINAL wf;0mvapfyjsaq;0fiaf;0qqsd;0REGISTERED af;0ew;0DEGREE af;0PLUS-MINUS af;0rpal;1as;0ddhv;0MICRO af;0PILCROW af;0bgar;0jw;0rpam;0MASCULINE ORDINAL wf;0lnapfyjsaq;0VULGAR neamjb;3bs;2aspz;0eukbaq;0gbaeabA aaeq;5dd;5dt;5ct;5ec;5cvaj;3AE;3C aajw;3E aaeq;5dd;5dt;5ec;3I aaeq;5dd;5dt;5ec;3ETH;3N aact;3O aaeq;5dd;5dt;5ct;5ec;0tgaf;0gbaeabO aaba;3U aaeq;5dd;5dt;5ec;3Y aadd;3THORN;1acabSHARP S;3A aaeq;5dd;5dt;5ct;5ec;5cvaj;3AE;3C aajw;3E aaeq;5dd;5dt;5ec;3I aaeq;5dd;5dt;5ec
3ETH;3N aact;3O aaeq;5dd;5dt;5ct;5ec;0vwaf;0gbacabO aaba;3U aaeq;5dd;5dt;5ec;3Y aadd;3THORN;3Y aaec;1aeabA aaew;1acabA aaew;1aeabA aafn;1acabA aafn;1aeabA aapx;1acabA aapx;1aeabC aadd;1acabC aadd;1aeabC aadt;1acabC aadt;1aeabC aaaraj;1acabC aaaraj;1aeabC aagu;1acabC aagu;1aeabD aagu;1acabD aagu;1aeabD aaba;1acabD aaba;1aeabE aaew;1acabE aaew;1aeabE aafn;1acabE aafn;1aeabE aaaraj;1acabE aaaraj;1aeabE aapx;1acabE aapx;1aeabE aagu;1acabE aagu;1aeabG aadt;1acabG aadt;1aeabG aafn;1acabG aafn;1aeabG aaaraj;1acabG aaaraj;1aeabG aajw;1acabG aajw;1aeabH aadt;1acabH aadt;1aeabH aaba;1acabH aaba;1aeabI aact;1acabI aact;1aeabI aaew;1acabI aaew;1aeabI aafn;1acabI aafn;1aeabI aapx;1acabI aapx;1aeabI aaaraj;1acabqlI;1aejaIJ;1acjaIJ;1aeabJ aadt;1acabJ aadt;1aeabK aajw;1acabK aajw;3KRA;1aeabL aadd;1acabL aadd;1aeabL aajw;1acabL aajw;1aeabL aagu;1acabL aagu;1aeabL aabgar;1acabL aabgar;1aeabL aaba;1acabL aaba;1aeabN aadd;1acabN aadd;1aeabN aajw;1acabN aajw;1aeabN aagu;1acabN aagu;4PRECEDED BY up;1aeabENG
1acabENG;1aeabO aaew;1acabO aaew;1aeabO aafn;1acabO aafn;1aeabO aaapdd;1acabO aaapdd;1aejaht;1acjaht;1aeabR aadd;1acabR aadd;1aeabR aajw;1acabR aajw;1aeabR aagu;1acabR aagu;1aeabS aadd;1acabS aadd;1aeabS aadt;1acabS aadt;1aeabS aajw;1acabS aajw;1aeabS aagu;1acabS aagu;1aeabT aajw;1acabT aajw;1aeabT aagu;1acabT aagu;1aeabT aaba;1acabT aaba;1aeabU aact;1acabU aact;1aeabU aaew;1acabU aaew;1aeabU aafn;1acabU aafn;1aeabU aacvaj;1acabU aacvaj;1aeabU aaapdd;1acabU aaapdd;1aeabU aapx;1acabU aapx;1aeabW aadt;1acabW aadt;1aeabY aadt;1acabY aadt;1aeabY aaec;3Z aadd;1acabZ aadd;1aeabZ aaaraj;1acabZ aaaraj;1aeabZ aagu;1acabZ aagu;3drS;3B aaba;1aeabB aaaz;5TOPBAR;1acabB aaTOPBAR;1aeabdvbj;1acabdvbj;1aeabdnO;3C aaaz;1acabC aaaz;1aeabAFRICAN D;3D aaaz;5TOPBAR;1acabD aaTOPBAR;3dqmu;1aeabebE;3uh;3dnE;3F aaaz;1acabF aaaz;1aeabG aaaz;3md;1acabHV;1aeabjl;3I aaba;3K aaaz;1acabK aaaz;3L aabn;3LAMBDA aaba;1aeabdqM;3N aaakaz;1acabN aadraioo;1aeabO aabgct;5is;1acabO aais;1aeabOI;1acabOI;1aeabP aaaz;1acabP aaaz
1abYR;1aeabdval;1acabdval;1aeabnr;1abebnroa;1acabT aakaaz;1aeabT aaaz;1acabT aaaz;1aeabT aahgaz;3U aais;1acabU aais;1aeabkk;3V aaaz;3Y aaaz;1acabY aaaz;1aeabZ aaba;1acabZ aaba;1aeabEZH;4eb;1acabEZH eb;4aafs;1abalaaba;1aeabdvbc;1acabdvbc;1abeukeeiaaba;2WYNN;2DENTAL ta;2LATERAL ta;2ALVEOLAR ta;2hgta;1aeabDZ aagu;3D aaacabZ aagu;1acabDZ aagu;1aeabLJ;3L aaacabJ;1acabLJ;1aeabNJ;3N aaacabJ;1acabNJ;1aeabA aagu;1acabA aagu;1aeabI aagu;1acabI aagu;1aeabO aagu;1acabO aagu;1aeabU aagu;1acabU aagu;1aeabU aaecagew;1acabU aaecagew;1aeabU aaecagdd;1acabU aaecagdd;1aeabU aaecaggu;1acabU aaecaggu;1aeabU aaecageq;1acabU aaecageq;3dqE;1aeabA aaecagew;1acabA aaecagew;1aeabA aaarajagew;1acabA aaarajagew;1aeabAE aaew;1acabAE aaew;1aeabG aaba;1acabG aaba;1aeabG aagu;1acabG aagu;1aeabK aagu;1acabK aagu;1aeabO aapx;1acabO aapx;1aeabO aapxagew;1acabO aapxagew;1aeabEZH aagu;1acabEZH aagu;3J aagu;1aeabDZ;3D aaacabZ;1acabDZ;1aeabG aadd;1acabG aadd;1aeabHWAIR;3WYNN;3N aaeq;1acabN aaeq;1aeabA aacvajagdd
1acabA aacvajagdd;1aeabAE aadd;1acabAE aadd;1aeabO aabaagdd;1acabO aabaagdd;1aeabA aaapeq;1acabA aaapeq;1aeabA aaeufn;1acabA aaeufn;1aeabE aaapeq;1acabE aaapeq;1aeabE aaeufn;1acabE aaeufn;1aeabI aaapeq;1acabI aaapeq;1aeabI aaeufn;1acabI aaeufn;1aeabO aaapeq;1acabO aaapeq;1aeabO aaeufn;1acabO aaeufn;1aeabR aaapeq;1acabR aaapeq;1aeabR aaeufn;1acabR aaeufn;1aeabU aaapeq;1acabU aaapeq;1aeabU aaeufn;1acabU aaeufn;1aeabS aafean;1acabS aafean;1aeabT aafean;1acabT aafean;1aeabYOGH;1acabYOGH;1aeabH aagu;1acabH aagu;1aeabN aadraioo;1acabD aamc;1aeabOU;1acabOU;1aeabZ aaaz;1acabZ aaaz;1aeabA aaaraj;1acabA aaaraj;1aeabE aajw;1acabE aajw;1aeabO aaecagew;1acabO aaecagew;1aeabO aactagew;1acabO aactagew;1aeabO aaaraj;1acabO aaaraj;1aeabO aaarajagew;1acabO aaarajagew;1aeabY aaew;1acabY aaew;3L aamc;3N aamc;3T aamc;3qlJ;3DB kd;3QP kd;1aeabA aaba;3C aaba;1acabC aaba;1aeabL aabn;3T aagvba;1acabS aaSWASH fs;3Z aaSWASH fs;1aeabkeei;1acabkeei;1aeabB aaba;3U bn;3dqV;3E aaba;1acabE aaba;1aeabJ aaba;1acabJ aaba
1aeabacQ aaazfs;1acabQ aaazfs;1aeabR aaba;1acabR aaba;1aeabY aaba;1acabY aaba;3dqA;3ix;3dqix;3B aaaz;3dnO;3C aamc;3D aafs;5az;3ebE;3uh;4aaaz;3dnE;3ebdnE;6aaaz;3inebdnE;3qlJ aaba;3G aaaz;3loG;1abacaeG;1acabmd;3RAMS is;3dqH;3H aaaz;3HENG aaaz;3I aaba;3jl;1abacaeI;1acabL aabgct;5BELT;5hgaz;3LEZH;3dqM;5aadroo;3M aaaz;3N aaakaz;5hgaz;1abacaeN;1acabtpO;1abacaeht;1acabinic;3lg;3dqR;5aadroo;6az;3R aadroo;5fs;5xn;3ebR aaxn;1abacaeR;4euR;1acabS aaaz;3nr;3qlJ aabaagaz;3SQUAT ebnr;3nraamc;3dqT;3T aahgaz;3U bn;3kk;3V aaaz;3dqV;4W;4Y;1abacaeY;1acabZ aahgaz;5mc;3EZH;4aamc;1abkeei;2PHARYNGEAL uoFRICATIVE;2eukeei;2STRETCHED C;2BILABIAL ta;2acaeB;1acabindnE;1abacaeG aaaz;4H;1acabJ aauw;3dqK;1abacaeL;1acabQ aaaz;1abkeeiaaba;2ebkeeiaaba;1acabDZ kd;3DEZH kd;3DZ kdaamc;3TS kd;3TESH kd;3TC kdaamc;3FENG kd;3LS kd;3LZ kd;1abBILABIAL PERCUSSIVE;2BIDENTAL PERCUSSIVE;1acabdqH aaxn;7agfs;0jrabacH;4aaaz;3J;3R;3dqR;5aaaz;3aeeuR;3W;3Y;2sn;2apsn;2dqfe;2up;2ebfe;2aibscv;2akbscv;2keei;2ebkeei;2akel;2aiel;2biel;2bqel
2dthv;0gu;0jrabbhee;2ew;2ddhv;2eqhv;2dcbhee;3ew;3eqhv;3ddhv;2mlje;2bsmlje;2vqaibscv;3akbscv;2biiv;2bqiv;2boaf;2obaf;0fn;0araj;0cvaj;0px;0acct;0apddhv;0jrabRHOTIC az;2grhv;2acmd;3L;3S;3X;3ebkeei;2EXTRA-HIGH dvbn;2dzdvbn;2MID dvbn;2dcdvbn;2EXTRA-LOW dvbn;2YIN DEPARTING dvaq;2syDEPARTING dvaq;2VOICING;2UNASPIRATED;2apup;2dcbqel;3biel;3akel;3aiel;3cv;2bgeqhv;3apeqhv;4ddhv;2dcct;2kzje;2BEGIN dzdv;2igdzdv;2BEGIN dcdv;2igdcdv;2SHELF;2dnSHELF;2dcakah;0hweqhv;1ddhv;1dthv;1ct;1ew;1wq;1fn;1araj;1ec;1azaj;1cvaj;1apddhv;1gu;1bheeaj;1apbheeaj;2eqhv;1jg;1eufn;1dqfeaj;1feaj;1ebfeaj;1feajai;1eqhvan;1ddhvan;1akivan;1aiivan;1akfyaj;1is;1akbscvan;1biivan;1bqivan;1boafan;1obafan;1PALATALIZED azan;1hgazan;1aran;1ecan;1cvan;1fean;1jw;1px;1bheean;1BRIDGE an;1euapARCH an;1guan;1dthvan;1fnan;1eufnan;1ctan;1ewan;1dcee;1apdcee;1ctlz;1gebalz;1drbalz;1gelrlz;1drlrlz;1aibscvan;1euBRIDGE an;1bzan;1SEAGULL an;1X aj;1bhct;1apwq;1eqdvaq;1dddvaq;1legz;2KORONIS;2qjnl;2if;1BRIDGE aj;1ioafan;1apbheean;1akfyan;1fictaj
1HOMOTHETIC aj;1ovcnataj;1akaiahan;1dfahan;1GRAPHEME JOINER;1aielaj;1akbscvaj;1FERMATA;1X an;1akelan;1aielan;3agbielan;2bscvaj;1arajai;1gqan;1apcvan;1xiaj;1apfnan;3;2ew;3an;2ct;2eufn;2beahan;1gbacabA;4E;4I;4O;4U;4C;4D;4H;4M;4R;4T;4V;4X;0leaeabHETA;1acabHETA;1aeabmzSAMPI;1acabmzSAMPI;1ufaf;1cyufaf;1aeabPAMPHYLIAN DIGAMMA;1acabPAMPHYLIAN DIGAMMA;=37A;1if;1acebublbbb;2hzublbbb;2ebhzublbbb;1kbaq;1aeabYOT;=384;1nl;1qjnl;1aeabixaanl;1ANO TELEIA;1aeabkuaanl;3mpaanl;3jlaanl;=38C;3ocaanl;=38E;3kkaanl;3icaanl;1acabjlaaqjagnl;1aeabix;3nc;3md;3mu;3ku;3rs;3mp;3lh;3jl;3ny;3qo;3ia;3NU;3XI;3oc;3hf;3kr;=3A3;3lb;3of;3kk;3lg;3lk;3op;3ic;3jlaaqj;3kkaaqj;1acabixaanl;3kuaanl;3mpaanl;3jlaanl;3kkaaqjagnl;3ix;3nc;3md;3mu;3ku;3rs;3mp;3lh;3jl;3ny;3qo;3ia;3NU;3XI;3oc;3hf;3kr;3aolb;3lb;3of;3kk;3lg;3lk;3op;3ic;3jlaaqj;3kkaaqj;3ocaanl;3kkaanl;3icaanl;1aeKAI bb;1ncbb;1lhbb;1kkaaazbb;3ddagazbb;3ecagazbb;1lgbb;1hfbb;1KAI bb;1abmzKOPPA;1acabmzKOPPA;1abSTIGMA;1acabSTIGMA;1abDIGAMMA;1acabDIGAMMA;1abKOPPA;1acabKOPPA
1abSAMPI;1acabSAMPI;0ldaeabSHEI;1acabSHEI;1aeabFEI;1acabFEI;1aeabKHEI;1acabKHEI;1aeabHORI;1acabHORI;1aeabGANGIA;1acabGANGIA;1aeabSHIMA;1acabSHIMA;1aeabDEI;1acabDEI;0lenybb;1krbb;1ublbbb;1abYOT;1aelhbb;1ubkubb;1ebubkubb;1aeabSHO;1acabSHO;1aeublbbb;2abSAN;1acabSAN;1kraababb;1aeebublbbb;2hzublbbb;2ebhzublbbb;0qiaeabIE aaeq;3IO;3DJE;3GJE;3UKRAINIAN IE;3DZE;3BYELORUSSIAN-UKRAINIAN I;3YI;3JE;3LJE;3NJE;3TSHE;3KJE;3I aaeq;3geU;3DZHE;3A;3BE;3VE;3nv;3DE;3IE;3ZHE;3ZE;3I;3geI;3bx;3EL;3EM;3gi;3O;3gp;3ER;3ES;3il;3U;3EF;3bu;3TSE;3lj;3eg;3SHCHA;3HARD af;3YERU;3qqaf;3E;3ii;3ck;1acabA;3BE;3VE;3nv;3DE;3IE;3ZHE;3ZE;3I;3geI;3bx;3EL;3EM;3gi;3O;3gp;3ER;3ES;3il;3U;3EF;3bu;3TSE;3lj;3eg;3SHCHA;3HARD af;3YERU;3qqaf;3E;3ii;3ck;3IE aaeq;3IO;3DJE;3GJE;3UKRAINIAN IE;3DZE;3BYELORUSSIAN-UKRAINIAN I;3YI;3JE;3LJE;3NJE;3TSHE;3KJE;3I aaeq;3geU;3DZHE;1aeabic;1acabic;1aeabYAT;1acabYAT;1aeabpcE;1acabpcE;1aeabfqkc;1acabfqkc;1aeabpcfqkc;1acabpcfqkc;1aeabBIG kc;1acabBIG kc;1aeabpcBIG kc;1acabpcBIG kc;1aeabKSI;1acabKSI;1aeabop
1acabop;1aeabFITA;1acabFITA;1aeabIZHITSA;1acabIZHITSA;1aeabIZHITSA aaapeqhv;1acabIZHITSA aaapeqhv;1aeabUK;1acabUK;1aeabspic;1acabspic;1aeabicaaTITLO;1acabicaaTITLO;1aeabOT;1acabOT;1aeabKOPPA;1acabKOPPA;1xeaf;0hwqiTITLO;2PALATALIZATION;2dyPNEUMATA;2eaPNEUMATA;2POKRYTIE;2btxeaf;2xqaf;0qiaeabgeI aafs;1acabgeI aafs;1aeabSEMISOFT af;1acabSEMISOFT af;1aeabER aaTICK;1acabER aaTICK;1aeabnvaaUPTURN;1acabnvaaUPTURN;1aeabnvaaba;1acabnvaaba;1aeabnvaabgaz;1acabnvaabgaz;1aeabZHE aahr;1acabZHE aahr;1aeabZE aahr;1acabZE aahr;1aeabbxaahr;1acabbxaahr;1aeabbxaabhba;1acabbxaabhba;1aeabbxaaba;1acabbxaaba;1aeabBASHKIR bx;1acabBASHKIR bx;1aeabgiaahr;1acabgiaahr;1aejaginv;1acjaginv;1aeabgpaabgaz;1acabgpaabgaz;1aeabvnbu;1acabvnbu;1aeabES aahr;1acabES aahr;1aeabilaahr;1acabilaahr;1aeablsU;1acablsU;1aeablsU aaba;1acablsU aaba;1aeabbuaahr;1acabbuaahr;1aejailTSE;1acjailTSE;1aeabljaahr;1acabljaahr;1aeabljaabhba;1acabljaabhba;1aeabSHHA;1acabSHHA;1aeabvnlj;1acabvnlj;1aeabvnljaahr;1acabvnljaahr;1abPALOCHKA
1aeabZHE aafn;1acabZHE aafn;1aeabbxaaaz;1acabbxaaaz;1aeabEL aafs;1acabEL aafs;1aeabgiaaaz;1acabgiaaaz;1aeabgiaafs;1acabgiaafs;1aeabKHAKASSIAN lj;1acabKHAKASSIAN lj;1aeabEM aafs;1acabEM aafs;3PALOCHKA;1aeabA aafn;1acabA aafn;1aeabA aaec;1acabA aaec;1aejaA IE;1acjaA IE;1aeabIE aafn;1acabIE aafn;1aeabuh;1acabuh;1aeabuhaaec;1acabuhaaec;1aeabZHE aaec;1acabZHE aaec;1aeabZE aaec;1acabZE aaec;1aeabvnDZE;1acabvnDZE;1aeabI aaew;1acabI aaew;1aeabI aaec;1acabI aaec;1aeabO aaec;1acabO aaec;1aeabtpO;1acabtpO;1aeabtpO aaec;1acabtpO aaec;1aeabE aaec;1acabE aaec;1aeabU aaew;1acabU aaew;1aeabU aaec;1acabU aaec;1aeabU aaapdd;1acabU aaapdd;1aeabljaaec;1acabljaaec;1aeabnvaahr;1acabnvaahr;1aeabYERU aaec;1acabYERU aaec;1aeabnvaabaagaz;1acabnvaabaagaz;1aeabbuaaaz;1acabbuaaaz;1aeabbuaaba;1acabbuaaba;1aeabpeDE;1acabpeDE;1aeabpeDJE;1acabpeDJE;1aeabpeZJE;1acabpeZJE;1aeabpeDZJE;1acabpeDZJE;1aeabpeLJE;1acabpeLJE;1aeabpeNJE;1acabpeNJE;1aeabpeSJE;1acabpeSJE;1aeabpeTJE;1acabpeTJE;1aeabebZE;1acabebZE;1aeabEL aaaz
1acabEL aaaz;1aeabLHA;1acabLHA;1aeabRHA;1acabRHA;1aeabYAE;1acabYAE;1aeabQA;1acabQA;1aeabWE;1acabWE;1aeabALEUT bx;1acabALEUT bx;1aeabEL aabgaz;1acabEL aabgaz;1aeabgiaabgaz;1acabgiaabgaz;1aeabgpaahr;1acabgpaahr;1aeabSHHA aahr;1acabSHHA aahr;1aeabgiaaakaz;1acabgiaaakaz;1aeabDZZHE;1acabDZZHE;1aeabDCHE;1acabDCHE;1aeabEL aahr;1acabEL aahr;=531;0ARMENIAN aeabAYB;3BEN;3GIM;3cw;3ECH;3gn;3EH;3ET;3at;3ZHE;3INI;3LIWN;3XEH;3eo;3KEN;3HO;3em;3GHAD;3CHEH;3MEN;3YI;3NOW;3eg;3VO;3er;3PEH;3JHEH;3cd;3SEH;3VEW;3TIWN;3jm;3CO;3YIWN;3PIWR;3KEH;3OH;3ly;=559;1jrabakbscv;1up;1EMPHASIS aq;1kvaq;1fe;1kbaq;1nmaq;1acabdqAYB;3AYB;3BEN;3GIM;3cw;3ECH;3gn;3EH;3ET;3at;3ZHE;3INI;3LIWN;3XEH;3eo;3KEN;3HO;3em;3GHAD;3CHEH;3MEN;3YI;3NOW;3eg;3VO;3er;3PEH;3JHEH;3cd;3SEH;3VEW;3TIWN;3jm;3CO;3YIWN;3PIWR;3KEH;3OH;3ly;2jaECH YIWN;2abYI aaba;1gdei;1sd;=58D;0zwARMENIAN ETERNITY af;0LEFT-FACING ARMENIAN ETERNITY af;0ARMENIAN DRAM af;=591;0HEBREW hvETNAHTA;2SEGOL;2SHALSHELET;2ZAQEF QATAN;3GADOL;2TIPEHA;2REVIA;2ZARQA;2PASHTA;2YETIV;2TEVIR
2GERESH;3MUQDAM;2GERSHAYIM;2QARNEY PARA;2TELISHA GEDOLA;2PAZER;2ATNAH HAFUKH;2MUNAH;2MAHAPAKH;2MERKHA;3KEFULA;2DARGA;2QADMA;2TELISHA QETANA;2YERAH BEN YOMO;2OLE;2ILUY;2DEHI;2ZINOR;1aqMASORA cb;1rhSHEVA;2HATAF SEGOL;3PATAH;3QAMATS;2HIRIQ;2TSERE;2SEGOL;2PATAH;2QAMATS;2HOLAM;3HASER hxVAV;2QUBUTS;2lwdoMAPIQ;2METEG;1haMAQAF;1rhRAFE;1haPASEQ;1rhjtar;2SIN ar;1haSOF PASUQ;1aqdmar;2cyar;1hagoHAFUKHA;1rhQAMATS QATAN;=5D0;1abcl;2BET;2oz;2DALET;2hl;2VAV;2qv;2HET;2TET;2YOD;2aojq;2jq;2LAMED;2aoni;2ni;2aogo;2go;2pi;2rt;2aogp;2gp;2aoTSADI;2TSADI;2QOF;2rk;2jt;2TAV;=5EF;1YOD cz;1jaYIDDISH apVAV;3VAV YOD;3apYOD;1haGERESH;2GERSHAYIM;=600;0myeyaf;1afSANAH;1FOOTNOTE wk;1afSAFHA;2SAMVAT;1eyaqaj;0toCUBE ROOT;1FOURTH ROOT;0myRAY;0toPER MILLE af;2dscgaf;0AFGHANI af;0myfe;1DATE jn;1POETIC VERSE af;1afMISRA;2SALLALLAHOU ALAYHE WASSALLAM;2ALAYHE ASSALLAM;2RAHMATULLAH ALAYHE;2RADI ALLAHOU ANHU;2TAKHALLUS;1acdzkj;3jaclaaihaace;3qf;2sa;2tu;2rb;1sr;1abaq;1igawTEXT aq;1gsarhaaq;1kbaq;1abKASHMIRI ce;2ij;2claavfaj;4ijaj
2ieaaijaj;2claaijan;2ceaaijaj;2cl;2mt;2nkMARBUTA;3;2sv;2dp;2dg;2fu;2DAL;2THAL;2jm;2qf;2ks;2nj;2ma;2nd;2kj;2ZAH;2iw;2ok;2KEHEH aaalccaj;4asccan;2FARSI ceaaeuV;5alccaj;5asccaj;1TATWEEL;1ably;2ky;2jq;2ih;2bm;2hy;2jy;2ie;2cles;2ce;1yi;1DAMMATAN;1KASRATAN;1sa;1tu;1rb;1SHADDA;1SUKUN;1MADDAH aj;1ijaj;2an;1xwcl;1eutu;1aqhyGHUNNA;1ZWARAKAY;1cqafacV aj;3euacV aj;3aran;1ebtu;1saaaalcc;1WAVY ijan;0tocudj;2am;2al;2as;2ay;2bc;2bj;2br;2bk;2bv;0myPERCENT af;1DECIMAL jn;1xejn;1bciqfk;1abqlmt;3ky;2rpcl;2clWASLA;3aaWAVY ijaj;6an;2dzij;4cl;4ie;2U aaijaj;2dzijce;2TTEH;2TTEHEH;2BEEH;2nkaacv;4asccajcx;2PEH;2TEHEH;2BEHEH;2dgaaijaj;4alccbhaj;2NYEH;2DYEH;2dgaaasccaj;2TCHEH;2TCHEHEH;2DDAL;2DAL aacv;4aran;6agackj;2DAHAL;2DDAHAL;2DUL;2DAL aaasccajcx;4ayccaj;2RREH;2jmaaacV;4cv;4aran;4acV an;4aranagaraj;4alccaj;2JEH;2jmaaayccaj;2ksaaaranagaraj;4asccan;7agasccaj;2maaaalccan;4asccaj;2kjaaasccaj;2iwaaasccaj;2qlly;2lyaaarMOVED an;5an;2VEH;2lyaaasccan;2PEHEH;2kyaaaraj;4asccaj;2KEHEH;2SWASH jq;2jqaacv;4araj;2NG
2jqaaasccan;2GAF;3aacv;2NGOEH;2GAF aaalccan;2GUEH;2GAF aaasccaj;2ihaaacV;4araj;4asccaj;6an;2hyaaaran;3GHUNNA;2RNOON;2hyaacv;4asccaj;2jyDOACHASHMEE;2TCHEH aaaraj;2jyaaceaj;3GOAL;4aaijaj;2nkMARBUTA GOAL;2ieaacv;2KIRGHIZ ht;2ht;2U;2ii;2KIRGHIZ ii;2ieaaalccaj;2VE;2FARSI ce;2ceaafs;4acV;2ieaaaraj;2E;2ceaaasccan;3BARREE;4aaijaj;1gdei;1abAE;1acdzjamaaaihaacles;4kyaaihaacles;3bmbdad;3ihcl;3dp;3ascc;3ks;1igawAYAH;1START awRUB EL HIZB;1acdzugdj;3UPRIGHT RECTANGULAR dj;3qlnfawfu;3bmavad;2dcks;2dzvf;2ie;2ce;2dzce;3hy;1PLACE awSAJDAH;1EMPTY fmdcei;3dzei;1ugdzeiaaFILLED fm;1acdcbm;1abDAL aaeuV;2jmaaeuV;0watocudj;3am;3al;3as;3ay;3bc;3bj;3br;3bk;3bv;0myabnjaaaran;2ndaaaran;2okaaaran;1afSINDHI vo;3POSTPOSITION MEN;1abjyaaeuV;0SYRIAC igawzh;1SUPRALINEAR gdei;1SUBLINEAR gdei;1SUPRALINEAR je;1SUBLINEAR je;1coje;1jeSKEWED ak;3ai;1SUPRALINEAR jeSKEWED ak;1SUBLINEAR jeSKEWED ai;1CONTRACTION;1HARKLEAN OBELUS;2METOBELUS;2ASTERISCUS;=70F;1nmaq;1abALAPH;2rpALAPH;2oi;2GAMAL;3GARSHUNI;2DALATH;2qlDALATH RISH;2hl
2ie;2qf;2pr;2TETH;3GARSHUNI;2YUDH;3hl;2pd;2LAMADH;2MIM;2go;2SEMKATH;2aoSEMKATH;2E;2gp;2ebgp;2qa;2QAPH;2RISH;2jt;2TAW;2PERSIAN BHETH;3GHAMAL;3DHALATH;1PTHAHA aj;2an;2hz;1ZQAPHA aj;2an;2hz;1RBASA aj;2an;1hzZLAMA co;3ANGULAR;1HBASA aj;2an;1HBASA-ESASA hz;1ESASA aj;2an;1RWAHA;1FEMININE ar;1QUSHSHAYA;1RUKKAKHA;1albhccaj;4an;1asccaj;3an;1pweeaj;3an;1MUSIC;1BARREKH;=74D;1abSOGDIAN ZHAIN;3KHAPH;3FE;0myabmtaaasccHORIZONTALLY an;4aranagasccaj;4asccexdfan;9agalccaj;4alccanagaraj;4euacV an;4acV;2dgaaalccaj;4asccexdfan;2DAL aaalccxzanagackj;4euacV an;2jmaaba;2ksaaayccaj;2iwaaalccaj;4asccexcxaj;4alccxzaj;2lyaaalccan;4asccexdfan;2KEHEH aaaraj;4asccaj;6exdfan;2bmaaaraj;5an;2hyaaalccan;4ackj;5V;2ihaabn;2jmaaalccxzaj;4ijaj;2ksaaalccxzaj;2dgaaacmyabkjan;8agalcc;2ksaaacmyabkjagalcc;2jmaaacmyabkjagalcc;2dgaaacmyabkjaj;2claawatocualaj;7asaj;2FARSI ceaawatocualaj;8asaj;8ayan;2ieaawatocualaj;7asaj;2ceBARREE aawatocualaj;8asaj;2dgaawatocuayan;2ksaawatocuayaj;4euV;2jqaaalccaj;0THAANA abHAA;2SHAVIYANI;2NOONU
2RAA;2BAA;2LHAVIYANI;2KAAFU;2ALIFU;2VAAVU;2MEEMU;2FAAFU;2DHAALU;2THAA;2LAAMU;2GAAFU;2GNAVIYANI;2SEENU;2DAVIYANI;2ZAVIYANI;2TAVIYANI;2YAA;2PAVIYANI;2JAVIYANI;2CHAVIYANI;2TTAA;2HHAA;2KHAA;2THAALU;2ZAA;2SHEENU;2SAADHU;2DAADHU;2at;2ZO;2AINU;2GHAINU;2QAAFU;2WAAVU;1ABAFILI;1AABAAFILI;1IBIFILI;1EEBEEFILI;1UBUFILI;1OOBOOFILI;1EBEFILI;1EYBEYFILI;1OBOFILI;1OABOAFILI;1SUKUN;1abNAA;=7C0;0NKO cudj;2am;2al;2as;2ay;2bc;2bj;2br;2bk;2bv;1abA;2hd;2I;2E;2U;2gm;2O;2DAGBASINNA;2N;2dh;2ca;2cs;2em;2er;2cw;2cd;2mx;2cr;2GBA;2hk;2bx;2ch;2cjWOLOSO;2ci;2et;2cj;2bu;2en;2ck;2etWOLOSO;2JONA em;3er;3cd;1hwgedzdv;3dcdv;3rldv;2drDESCENDING dv;3dzdv;3dcdv;3rldv;2NASALIZATION aq;2aparaj;1dzdvup;1dcdvup;1bbgmDENNEN;2GBAKURUNEN;1fe;1kvaq;1LAJANYALAN;=7FD;1DANTAYALAN;1DOROME af;1TAMAN af;0SAMARITAN abALAF;2BIT;2GAMAN;2DALAT;2IY;2BAA;2ZEN;2IT;2TIT;2YUT;2KAAF;2LABAT;2MIM;2go;2SINGAAT;2fp;2FI;2TSAADIY;2QUF;2RISH;2SHAN;2TAAF;1aqfp;2IN-ALAF;2OCCLUSION;2lw;1jrabEPENTHETIC YUT;1aqEPENTHETIC YUT;1cqafdrE;3E;3OVERLONG dk;3drdk;3dk
3OVERLONG A;3drA;3A;1jrabgeA;1cqafgeA;3drU;3U;1jrabI;1cqafdrI;3I;3O;3SUKUN;1aqNEQUDAA;=830;1haNEQUDAA;2AFSAAQ;2ANGED;2BAU;2ATMAAU;2SHIYYAALAA;1nmaq;1haMELODIC QITSA;2ZIQAA;2QITSA;2ZAEF;2TURU;2ARKAANU;2SOF MASHFAAT;2ANNAAU;=840;0MANDAIC abHALQA;2AB;2AG;2AD;2AH;2USHENNA;2AZ;2IT;2ATT;2AKSA;2AK;2AL;2AM;2iy;2AS;2fp;2AP;2ASZ;2AQ;2AR;2gt;2AT;2DUSHENNA;2KAD;2iw;1AFFRICATION aq;1VOCALIZATION aq;1zcaq;=85E;1ha;=860;0SYRIAC abMALAYALAM ef;3em;3et;3gg;3gw;3NNNA;3gx;3cd;3kh;3LLLA;3hn;=870;0myabclaaycsa;5hiaisa;4aibgba;4akbgba;4ycrb;5jcairb;5sparaj;5aispar;5akspar;5sparan;4araj;4ychiaisaagaraj;4aibgbaagaraj;4ycjcairbagaraj;5hiaisaagakcv;4aibgbaagakcv;4ycjcairbagakcv;5aiij;5akij;1TATWEEL aaOVERSTRUCK ij;4ie;3alccan;1abTHIN ce;1BASELINE spar;1kzspar;1abhyaaeuacV;2dgaaeuacV an;2kjaaaran;4asccan;2KEHEH aaalccxzan;1bhfs;=890;1POUND aqaj;1PIASTRE aqaj;=898;1acdzqdAL-JUZ;2dcqdISHMAAM;4IMAALA;4TASHEEL;1vfWAAJIB;1rpclMOKHASSAS;1DOUBLED vf;1bsvfcfvf;1abmtaaacV an;4ijaj;2dpaaalccaj;2kjaaalccaj
2lyaaaranagasccaj;2kyaaaran;2ihaaapbn;2bmaaasccaj;2ceaaalccanagijaj;8araj;2jmaaoa;2ieaaarWITHIN;2ROHINGYA ce;2dccl;2DAL aaasccan;2maaaasccan;2GAF aaeuba;2lsie;2qfaaeuV aj;2iwaaasccan;2jqaaaran;2kyaaaranaghmccaj;2mtaaacbmaj;2PEH aaacbmaj;2nkaaacnkaj;2jmaaachyaj;2ceaaalccanagachyaj;2AFRICAN ly;3ky;3hy;2PEH aaacV;2nkaaacV;2TTEH aaacV;2TCHEH aaacV;2KEHEH aaacV;2okaaasccaj;2AFRICAN kyaaasccaj;2dpaaasccaj;6an;2ihaaacmyabkjaj;2GRAF;1acFARSI ce;2dzFARSI ce;3ceBARREE aaalccan;3qdSAH;3ZAH;1epsparaj;4an;1SUKUN an;1epcban;2sparngcban;1acdcie;2dzqdAR-RUB;3ma;3iw;3ky;3hyaarb;2dchyaarb;2dzqdATH-THALATHA;4AS-SAJDA;4AN-NISF;4SAKTA;4QIF;4WAQFA;3FOOTNOTE wk;3afSAFHA;1DISPUTED igawAYAH;1dqtuan;1ktsa;2tu;2rb;2yi;2DAMMATAN;2KASRATAN;1dvamaraj;2alccaj;2oaaj;2amaran;2alccan;2oaan;1dnyi;2DAMMATAN;2KASRATAN;1acdzie;1saaacv;3araj;1rbaaaran;1akelaj;1aielaj;1akelan;1aielan;1apaielaj;5aaar;1aielajaaar;1tuaaar;1aqvkhyGHUNNA;0DEVANAGARI afeujg;2jg;2gf;2im;1abgeA;2A;2dk;2I;2dx;2U;2ek;2flR;3L;2pnE;2geE;2E;2dw;2pnO;2geO
2O;2ed;2bx;2ev;2da;2gj;2ef;2eo;2er;2em;2ik;2et;2gg;2hj;2gh;2hq;2gw;2cs;2ff;2cw;2gk;2cj;2NNNA;2ca;2fr;2dh;2gx;2ci;2ck;2cd;2mx;2ch;2kh;2LLLA;2fw;2eg;2hn;2cr;2bu;1cqafht;3OOE;1aflf;2ox;1cqafdk;3I;3dx;3U;3ek;3flR;4hu;3pnE;3geE;3E;3dw;3pnO;3geO;3O;3ed;1afhp;1cqafPRISHTHAMATRA E;3AW;1OM;1STRESS afUDATTA;3ANUDATTA;1eqhv;1ddhv;1cqafpndrE;3UE;3UUE;1abQA;2KHHA;2GHHA;2gn;2DDDHA;2RHA;2hk;2YYA;2flhu;3ip;1cqafflL;4ip;1jp;1apjp;1cudj;2am;2al;2as;2ay;2bc;2bj;2br;2bk;2bv;1nmaf;1afdzSPACING ar;1abpnA;2ht;2OOE;2AW;2UE;2UUE;2MARWARI gh;2mo;2bfck;2GGA;2JJA;2keei;2DDDA;2BBA;0BENGALI ANJI;1afjg;2gf;2im;=985;1abA;2dk;2I;2dx;2U;2ek;2flR;3L;=98F;2E;2dw;=993;2O;2ed;2bx;2ev;2da;2gj;2ef;2eo;2er;2em;2ik;2et;2gg;2hj;2gh;2hq;2gw;2cs;2ff;2cw;2gk;2cj;=9AA;2ca;2fr;2dh;2gx;2ci;2ck;2cd;=9B2;2ch;=9B6;2eg;2hn;2cr;2bu;=9BC;1aflf;2ox;1cqafdk;3I;3dx;3U;3ek;3flR;4hu;=9C7;3E;3dw;=9CB;3O;3ed;1afhp;1abKHANDA cs;=9D7;1edpvaq;=9DC;1abmx;2RHA;=9DF;2YYA;2flhu;3ip;1cqafflL;4ip;=9E6;1cudj;2am;2al;2as;2ay;2bc;2bj;2br;2bk;2bv;1abcdaabggv
4cygv;1RUPEE aq;2af;1CURRENCY NUMERATOR am;3al;3as;3ay;3amLESS THAN idDENOMINATOR;2DENOMINATOR uj;1ISSHAR;1GANDA aq;1abVEDIC gf;1nmaf;1SANDHI aq;=A01;0GURMUKHI afADAK BINDI;2BINDI;2im;=A05;1abA;2dk;2I;2dx;2U;2ek;=A0F;2hd;2dw;=A13;2gm;2ed;2bx;2ev;2da;2gj;2ef;2eo;2er;2em;2ik;2et;2gg;2hj;2gh;2hq;2gw;2cs;2ff;2cw;2gk;2cj;=A2A;2ca;2fr;2dh;2gx;2ci;2ck;2cd;=A32;2ch;2kh;=A35;2fw;2eg;=A38;2cr;2bu;=A3C;1aflf;=A3E;1cqafdk;3I;3dx;3U;3ek;=A47;3hd;3dw;=A4B;3gm;3ed;1afhp;=A51;2UDAAT;=A59;1abKHHA;2GHHA;2gn;2mx;=A5E;2hk;=A66;1cudj;2am;2al;2as;2ay;2bc;2bj;2br;2bk;2bv;1TIPPI;1ADDAK;1IRI;1URA;1EK ONKAR;1afYAKASH;1nmaf;=A81;0GUJARATI afjg;2gf;2im;=A85;1abA;2dk;2I;2dx;2U;2ek;2flR;3L;1cqpnE;=A8F;1abE;2dw;1cqpnO;=A93;1abO;2ed;2bx;2ev;2da;2gj;2ef;2eo;2er;2em;2ik;2et;2gg;2hj;2gh;2hq;2gw;2cs;2ff;2cw;2gk;2cj;=AAA;2ca;2fr;2dh;2gx;2ci;2ck;2cd;=AB2;2ch;2kh;=AB5;2fw;2eg;2hn;2cr;2bu;=ABC;1aflf;2ox;1cqafdk;3I;3dx;3U;3ek;3flR;4hu;3pnE;=AC7;3E;3dw;3pnO;=ACB;3O;3ed;1afhp;=AD0;1OM;=AE0;1abflhu;3ip;1cqafflL;4ip;=AE6;1cudj
2am;2al;2as;2ay;2bc;2bj;2br;2bk;2bv;1nmaf;1RUPEE af;=AF9;1abmo;1afSUKUN;2SHADDA;2MADDAH;2THREE-DOT lfaj;2cblfaj;2TWO-CIRCLE lfaj;=B01;0ORIYA afjg;2gf;2im;=B05;1abA;2dk;2I;2dx;2U;2ek;2flR;3L;=B0F;2E;2dw;=B13;2O;2ed;2bx;2ev;2da;2gj;2ef;2eo;2er;2em;2ik;2et;2gg;2hj;2gh;2hq;2gw;2cs;2ff;2cw;2gk;2cj;=B2A;2ca;2fr;2dh;2gx;2ci;2ck;2cd;=B32;2ch;2kh;=B35;2fw;2eg;2hn;2cr;2bu;=B3C;1aflf;2ox;1cqafdk;3I;3dx;3U;3ek;3flR;4hu;=B47;3E;3dw;=B4B;3O;3ed;1afhp;=B55;2wq;1dwpvaq;1edpvaq;=B5C;1abmx;2RHA;=B5F;2YYA;2flhu;3ip;1cqafflL;4ip;=B66;1cudj;2am;2al;2as;2ay;2bc;2bj;2br;2bk;2bv;1ISSHAR;1aben;1neamjb;3bs;2aspz;2amyt;3ko;2asSIXTEENTHS;=B82;0TAMIL afgf;2im;=B85;1abA;2dk;2I;2dx;2U;2ek;=B8E;2E;2hd;2dw;=B92;2O;2gm;2ed;2bx;=B99;2ef;2eo;=B9C;2em;=B9E;2et;2gg;=BA3;2gw;2cs;=BA8;2cj;2NNNA;2ca;=BAE;2ci;2ck;2cd;2mx;2ch;2kh;2LLLA;2fw;2eg;2hn;2cr;2bu;=BBE;1cqafdk;3I;3dx;3U;3ek;=BC6;3E;3hd;3dw;=BCA;3O;3gm;3ed;1afhp;=BD0;1OM;=BD7;1edpvaq;=BE6;1cudj;2am;2al;2as;2ay;2bc;2bj;2br;2bk;2bv;1eyds;2ambt;3cg;1DAY af;1MONTH af
1YEAR af;1DEBIT af;1CREDIT af;1AS ajaf;1RUPEE af;1eyaf;=C00;0TELUGU afhwjgaj;2jg;2gf;2im;2hwgfaj;1abA;2dk;2I;2dx;2U;2ek;2flR;3L;=C0E;2E;2hd;2dw;=C12;2O;2gm;2ed;2bx;2ev;2da;2gj;2ef;2eo;2er;2em;2ik;2et;2gg;2hj;2gh;2hq;2gw;2cs;2ff;2cw;2gk;2cj;=C2A;2ca;2fr;2dh;2gx;2ci;2ck;2cd;2mx;2ch;2kh;2LLLA;2fw;2eg;2hn;2cr;2bu;=C3C;1aflf;2ox;1cqafdk;3I;3dx;3U;3ek;3flR;4hu;=C46;3E;3hd;3dw;=C4A;3O;3gm;3ed;1afhp;=C55;1pvaq;1dwpvaq;=C58;1abju;2DZA;2RRRA;=C5D;2NAKAARA POLLU;=C60;2flhu;3ip;1cqafflL;4ip;=C66;1cudj;2am;2al;2as;2ay;2bc;2bj;2br;2bk;2bv;=C77;1afxu;1necudjhxODD POWERS away;3amhxODD POWERS away;3alhxODD POWERS away;3ashxODD POWERS away;3amhxEVEN POWERS away;3alhxEVEN POWERS away;3ashxEVEN POWERS away;1afTUUMU;0KANNADA afSPACING jg;2jg;2gf;2im;2xu;1abA;2dk;2I;2dx;2U;2ek;2flR;3L;=C8E;2E;2hd;2dw;=C92;2O;2gm;2ed;2bx;2ev;2da;2gj;2ef;2eo;2er;2em;2ik;2et;2gg;2hj;2gh;2hq;2gw;2cs;2ff;2cw;2gk;2cj;=CAA;2ca;2fr;2dh;2gx;2ci;2ck;2cd;2mx;2ch;2kh;=CB5;2fw;2eg;2hn;2cr;2bu;=CBC;1aflf;2ox;1cqafdk;3I;3dx;3U;3ek;3flR
4hu;=CC6;3E;3hd;3dw;=CCA;3O;3gm;3ed;1afhp;=CD5;1pvaq;1dwpvaq;=CDD;1abNAKAARA POLLU;2hk;=CE0;2flhu;3ip;1cqafflL;4ip;=CE6;1cudj;2am;2al;2as;2ay;2bc;2bj;2br;2bk;2bv;=CF1;1afyn;2yx;=D00;0MALAYALAM afhwgfaj;2jg;2gf;2im;1abVEDIC gf;2A;2dk;2I;2dx;2U;2ek;2flR;3L;=D0E;2E;2hd;2dw;=D12;2O;2gm;2ed;2bx;2ev;2da;2gj;2ef;2eo;2er;2em;2ik;2et;2gg;2hj;2gh;2hq;2gw;2cs;2ff;2cw;2gk;2cj;2NNNA;2ca;2fr;2dh;2gx;2ci;2ck;2cd;2mx;2ch;2kh;2LLLA;2fw;2eg;2hn;2cr;2bu;2TTTA;1afbhbnhp;2CIRCULAR hp;2ox;1cqafdk;3I;3dx;3U;3ek;3flR;4hu;=D46;3E;3hd;3dw;=D4A;3O;3gm;3ed;1afhp;1abarREPH;1afPARA;=D54;1abCHILLU M;3Y;3LLL;1edpvaq;1neamONE-HUNDRED-AND-SIXTIETH;3FORTIETH;2asEIGHTIETHS;2amTWENTIETH;3TENTH;2asTWENTIETHS;2amFIFTH;1abmzdx;2flhu;3ip;1cqafflL;4ip;=D66;1cudj;2am;2al;2as;2ay;2bc;2bj;2br;2bk;2bv;1eyds;2ambt;3cg;1neamjb;3bs;2aspz;2amyt;3ko;2asSIXTEENTHS;1DATE aq;1abCHILLU NN;3N;3hu;3L;3ip;3K;=D81;0SINHALA afjg;2ANUSVARAYA;2VISARGAYA;=D85;1abAYANNA;2AAYANNA;2AEYANNA;2AEEYANNA;2IYANNA;2IIYANNA;2UYANNA;2UUYANNA;2IRUYANNA
2IRUUYANNA;2ILUYANNA;2ILUUYANNA;2EYANNA;2EEYANNA;2AIYANNA;2OYANNA;2OOYANNA;2AUYANNA;=D9A;2tnKAYANNA;2ucKAYANNA;2tnGAYANNA;2ucGAYANNA;2KANTAJA NAASIKYAYA;2SANYAKA GAYANNA;2tnCAYANNA;2ucCAYANNA;2tnJAYANNA;2ucJAYANNA;2TAALUJA NAASIKYAYA;3SANYOOGA NAAKSIKYAYA;2SANYAKA JAYANNA;2tnTTAYANNA;2ucTTAYANNA;2tnDDAYANNA;2ucDDAYANNA;2MUURDHAJA NAYANNA;2SANYAKA DDAYANNA;2tnTAYANNA;2ucTAYANNA;2tnDAYANNA;2ucDAYANNA;2DANTAJA NAYANNA;=DB3;2SANYAKA DAYANNA;2tnPAYANNA;2ucPAYANNA;2tnBAYANNA;2ucBAYANNA;2MAYANNA;2AMBA BAYANNA;2YAYANNA;2RAYANNA;=DBD;2DANTAJA LAYANNA;=DC0;2VAYANNA;2TAALUJA SAYANNA;2MUURDHAJA SAYANNA;2DANTAJA SAYANNA;2HAYANNA;2MUURDHAJA LAYANNA;2FAYANNA;=DCA;1afAL-LAKUNA;=DCF;1cqafAELA-PILLA;3KETTI AEDA-PILLA;3DIGA AEDA-PILLA;3KETTI IS-PILLA;3DIGA IS-PILLA;3KETTI PAA-PILLA;=DD6;3DIGA PAA-PILLA;=DD8;3GAETTA-PILLA;3KOMBUVA;3DIGA KOMBUVA;3KOMBU DEKA;3KOMBUVA HAA AELA-PILLA;5DIGA AELA-PILLA;5GAYANUKITTA;3GAYANUKITTA;=DE6;1LITH cudj;3am;3al;3as;3ay;3bc;3bj;3br;3bk;3bv;=DF2;1cqafDIGA GAETTA-PILLA
4GAYANUKITTA;1haKUNDDALIYA;=E01;0THAI oyKO KAI;2KHO KHAI;3KHUAT;3KHWAI;3KHON;3RAKHANG;2NGO NGU;2CHO CHAN;3CHING;3CHANG;2SO SO;2CHO CHOE;2YO YING;2DO CHADA;2atPATAK;2THO THAN;3NANGMONTHO;3PHUTHAO;2hmNEN;2DO DEK;2atTAO;2THO THUNG;3THAHAN;3THONG;2hmNU;2BO BAIMAI;2PO PLA;2PHO PHUNG;2FO hk;2PHO PHAN;2FO FAN;2PHO SAMPHAO;2MO ci;2YO YAK;2RO RUA;2RU;2LO LING;2LU;2WO WAEN;2SO SALA;3RUSI;3SUA;2HO HIP;2LO CHULA;2O ANG;2HO NOKHUK;2PAIYANNOI;2SARA A;2MAI HAN-AKAT;2SARA dk;3AM;3I;3dx;3UE;3UEE;3U;3ek;2PHINTHU;=E3F;1CURRENCY bbBAHT;1oySARA E;3AE;3O;3dwMAIMUAN;4MAIMALAI;2LAKKHANGYAO;2MAIYAMOK;2MAITAIKHU;2MAI EK;3THO;3TRI;3CHATTAWA;2THANTHAKHAT;2NIKHAHIT;2YAMAKKAN;2FONGMAN;1cudj;2am;2al;2as;2ay;2bc;2bj;2br;2bk;2bv;1oyANGKHANKHU;2KHOMUT;=E81;0LAO abKO;2KHO SUNG;=E84;3TAM;=E86;2PALI gj;2NGO;2CO;2PALI er;2SO TAM;=E8C;2PALI ik;2NYO;2PALI et;3gg;3hj;3gh;3hq;3gw;2DO;2at;2THO SUNG;3TAM;2PALI gk;2hm;2BO;2PO;2PHO SUNG;2FO TAM;2PHO TAM;2FO SUNG;2PALI gx;2MO;2YO;2LO LING;=EA5;3LOOT;=EA7;2WO;2SANSKRIT eg;3hn
2SO SUNG;2HO SUNG;2PALI kh;2O;2HO TAM;1vz;1cqafA;3MAI KAN;3dk;3AM;3I;3dx;3Y;3YY;3U;3ek;1afPALI hp;1cqafMAI KON;1SEMIVOWEL afLO;3NYO;=EC0;1cqafE;3EI;3O;3AY;3dw;=EC6;1KO ch;=EC8;1dvMAI EK;3THO;3TI;3CATAWA;1zmaq;1NIGGAHITA;=ED0;1cudj;2am;2al;2as;2ay;2bc;2bj;2br;2bk;2bv;=EDC;1HO hm;2MO;1abKHMU GO;3NYO;=F00;0TIBETAN otOM;1aqGTER YIG MGO TRUNCATED A;5-UM RNAM BCAD ci;6GTER tlci;2bdYIG MGO MDUN ci;2CLOSING YIG MGO SGAB ci;2tsYIG MGO PHUR pjci;2YIG MGO tlpjci;2SBRUL pj;2BSKUR YIG MGO;2BKA- SHOG YIG MGO;2INTERSYLLABIC tl;2DELIMITER tlBSTAR;2pj;2NYIS pj;2tlpj;2NYIS tlpj;2RIN CHEN SPUNGS pj;2RGYA GRAM pj;2ts-DZUD sqME drCAN;2GTER tl;1LOGOTYPE afCHAD sq;3LHAG sq;1ASTROLOGICAL afSGRA GCAN -CHAR sq;3-KHYUD ca;3SDONG TSHUGS;1afRDEL DKAR GCIG;4GNYIS;4GSUM;3NAG GCIG;4GNYIS;3DKAR RDEL NAG;1cudj;2am;2al;2as;2ay;2bc;2bj;2br;2bk;2bv;2bsam;3al;3as;3ay;3bc;3bj;3br;3bk;3bv;3dj;1aqBSDUS sq;2NGAS BZUNG NYI ZLA;2ts-DZUD sqBZHI MIG CAN;2NGAS BZUNG SGOR sq;2ljMGO;2ju-PHRU;2GUG sqGYON;4GYAS;2ANG KHANG GYON;4GYAS
1afYAR TSHES;2MAR TSHES;1abbx;2ev;2da;2gj;2ef;2eo;2er;2em;=F49;2et;2gg;2hj;2gh;2hq;2gw;2cs;2ff;2cw;2gk;2cj;2ca;2fr;2dh;2gx;2ci;2ju;2qc;2DZA;2DZHA;2en;2mo;2gn;2-A;2ck;2cd;2ch;2eg;2hn;2cr;2bu;2A;2KSSA;2FIXED-FORM cd;2KKA;2mx;=F71;1cqafdk;3I;3dx;3U;3ek;3flR;4hu;4L;4ip;3E;3hd;3O;3gm;1afRJES SU efRO;2RNAM BCAD;1cqafebI;4dx;1afNYI ZLA NAA cw;2SNA LDAN;1aqHALANTA;2PALUTA;1afLCI sq;2sysq;2LCE juCAN;2MCHU CAN;2GRU CAN RGYINGS;3MED RGYINGS;2euMCHU CAN;1yuafLCE juCAN;3MCHU CAN;3euMCHU CAN;2abbx;3ev;3da;3gj;3ef;3eo;3er;3em;=F99;3et;3gg;3hj;3gh;3hq;3gw;3cs;3ff;3cw;3gk;3cj;3ca;3fr;3dh;3gx;3ci;3ju;3qc;3DZA;3DZHA;3en;3mo;3gn;3-A;3ck;3cd;3ch;3eg;3hn;3cr;3bu;3A;3KSSA;3FIXED-FORM en;4ck;4cd;=FBE;1KU RU ev;4BZHI MIG CAN;1CANTILLATION afbfBEAT;3cpBEAT;3CANG TE-U;3SBUB -CHAL;1bbDRIL BU;2RDO RJE;2PADMA GDAN;2RDO RJE RGYA GRAM;2PHUR ca;2NOR BU;4NYIS -KHYIL;4GSUM -KHYIL;4BZHI -KHYIL;=FCE;1afRDEL NAG RDEL DKAR;4GSUM;1aqBSKA- SHOG GI MGO RGYAN;2MNYAM YIG GI MGO RGYAN;2NYIS tl;2bdBRDA RNYING YIG MGO MDUN ci
2CLOSING BRDA RNYING YIG MGO SGAB ci;0zwSVASTI af;0LEFT-FACING SVASTI af;0zwSVASTI afaacc;0LEFT-FACING SVASTI afaacc;0TIBETAN aqLEADING MCHAN sq;2TRAILING MCHAN sq;=1000;0MYANMAR abbx;2ev;2da;2gj;2ef;2eo;2er;2em;2ik;2et;2NNYA;2gg;2hj;2gh;2hq;2gw;2cs;2ff;2cw;2gk;2cj;2ca;2fr;2dh;2gx;2ci;2ck;2cd;2ch;2en;2cr;2bu;2kh;2A;2SHAN A;2I;2dx;2U;2ek;2E;2MON E;2O;2ed;1cqafTALL dk;3dk;3I;3dx;3U;3ek;3E;3dw;3MON dx;4O;3E aj;1afgf;2aran;2im;2hp;2ASAT;1lvafdick;4cd;4en;4bu;1abGREAT cr;1cudj;2am;2al;2as;2ay;2bc;2bj;2br;2bk;2bv;1affqlp;2lp;1bbLOCATIVE;2COMPLETED;2AFOREMENTIONED;2GENITIVE;1abeg;2hn;2flR;3hu;3L;3ip;1cqafflR;4hu;4L;4ip;1abMON ef;3ik;3BBA;3BBE;1lvafMON dicj;5ci;5ch;1abSGAW vceg;1cqafSGAW vcEU;1dvaqSGAW vcHATHI;5KE PHO;1abWESTERN PWO vcff;5PWA;1cqafWESTERN PWO vcEU;6UE;1afWESTERN PWO vcTONE-1;5ul;5vm;5TONE-4;5um;1abEASTERN PWO vcgw;5YWA;5GHWA;1cqafGEBA vcI;3KAYAH ht;4U;4hd;1abSHAN bx;3ev;3da;3eo;3gn;3et;3cw;3cj;3fr;3hk;3dh;3ff;3bu;1lvafSHAN dien;1cqafSHAN dk;4E;5aj;4aoY;1afSHAN ul;3vm;3um
3TONE-6;3COUNCIL ul;4vm;4EMPHATIC dv;1abRUMAI PALAUNG hk;1afRUMAI PALAUNG um;1SHAN cudj;3am;3al;3as;3ay;3bc;3bj;3br;3bk;3bv;1afKHAMTI TONE-1;3vm;1cqafAITON A;4dw;1bbSHAN am;3kv;0GEORGIAN aeabiy;3BAN;3GAN;3DON;3gi;3VIN;3ZEN;3TAN;3fp;3KAN;3LAS;3mr;3NAR;3ez;3PAR;3ZHAR;3RAE;3SAN;3TAR;3UN;3PHAR;3KHAR;3GHAN;3QAR;3jt;3CHIN;3CAN;3JIL;3CIL;3CHAR;3XAN;3JHAN;3HAE;3hl;3HIE;3WE;3HAR;3HOE;=10C7;3YN;=10CD;3AEN;=10D0;1abiy;2BAN;2GAN;2DON;2gi;2VIN;2ZEN;2TAN;2fp;2KAN;2LAS;2mr;2NAR;2ez;2PAR;2ZHAR;2RAE;2SAN;2TAR;2UN;2PHAR;2KHAR;2GHAN;2QAR;2jt;2CHIN;2CAN;2JIL;2CIL;2CHAR;2XAN;2JHAN;2HAE;2hl;2HIE;2WE;2HAR;2HOE;2FI;2YN;2ELIFI;2dqGAN;2iw;1zhjn;0jrabGEORGIAN NAR;0GEORGIAN abAEN;2HARD af;2LABIAL af;0txCHOSEONG wh;2SSANGKIYEOK;2NIEUN;2xf;2SSANGTIKEUT;2RIEUL;2MIEUM;2PIEUP;2SSANGPIEUP;2SIOS;2SSANGSIOS;2vb;2uu;2SSANGCIEUC;2vr;2wg;2xc;2wu;2HIEUH;2NIEUN-KIYEOK;2SSANGNIEUN;2NIEUN-TIKEUT;2NIEUN-PIEUP;2TIKEUT-KIYEOK;2RIEUL-NIEUN;2SSANGRIEUL;2RIEUL-HIEUH;2KAPYEOUNRIEUL;2MIEUM-PIEUP;2KAPYEOUNMIEUM;2PIEUP-KIYEOK
2PIEUP-NIEUN;2PIEUP-TIKEUT;2PIEUP-SIOS;2PIEUP-SIOS-KIYEOK;2PIEUP-SIOS-TIKEUT;2PIEUP-SIOS-PIEUP;2PIEUP-SSANGSIOS;2PIEUP-SIOS-CIEUC;2PIEUP-CIEUC;2PIEUP-CHIEUCH;2PIEUP-THIEUTH;2PIEUP-PHIEUPH;2KAPYEOUNPIEUP;2KAPYEOUNSSANGPIEUP;2SIOS-KIYEOK;2SIOS-NIEUN;2SIOS-TIKEUT;2SIOS-RIEUL;2SIOS-MIEUM;2SIOS-PIEUP;2SIOS-PIEUP-KIYEOK;2SIOS-SSANGSIOS;2SIOS-IEUNG;2SIOS-CIEUC;2SIOS-CHIEUCH;2SIOS-KHIEUKH;2SIOS-THIEUTH;2SIOS-PHIEUPH;2SIOS-HIEUH;2CHITUEUMSIOS;2CHITUEUMSSANGSIOS;2CEONGCHIEUMSIOS;2CEONGCHIEUMSSANGSIOS;2PANSIOS;2IEUNG-KIYEOK;2IEUNG-TIKEUT;2IEUNG-MIEUM;2IEUNG-PIEUP;2IEUNG-SIOS;2IEUNG-PANSIOS;2SSANGIEUNG;2IEUNG-CIEUC;2IEUNG-CHIEUCH;2IEUNG-THIEUTH;2IEUNG-PHIEUPH;2YESIEUNG;2CIEUC-IEUNG;2CHITUEUMCIEUC;2CHITUEUMSSANGCIEUC;2CEONGCHIEUMCIEUC;2CEONGCHIEUMSSANGCIEUC;2CHIEUCH-KHIEUKH;2CHIEUCH-HIEUH;2CHITUEUMCHIEUCH;2CEONGCHIEUMCHIEUCH;2PHIEUPH-PIEUP;2KAPYEOUNPHIEUPH;2SSANGHIEUH;2YEORINHIEUH;2KIYEOK-TIKEUT;2NIEUN-SIOS;2NIEUN-CIEUC;2NIEUN-HIEUH;2TIKEUT-RIEUL;2va;1JUNGSEONG va;2A;2AE;2ck;2YAE;2EO;2E;2YEO;2YE;2O
2en;2WAE;2ht;2YO;2U;2WEO;2WE;2WI;2ii;2EU;2YI;2I;2A-O;2A-U;2YA-O;2YA-YO;2EO-O;2EO-U;2EO-EU;2YEO-O;2YEO-U;2O-EO;2O-E;2O-YE;2O-O;2O-U;2YO-YA;2YO-YAE;2YO-YEO;2YO-O;2YO-I;2U-A;2U-AE;2U-EO-EU;2U-YE;2U-U;2YU-A;2YU-EO;2YU-E;2YU-YEO;2YU-YE;2YU-U;2YU-I;2EU-U;2EU-EU;2YI-U;2I-A;2I-YA;2I-O;2I-U;2I-EU;2I-ARAEA;2ARAEA;2ARAEA-EO;2ARAEA-U;2ARAEA-I;2SSANGARAEA;2A-EU;2YA-U;2YEO-YA;2O-YA;2O-YAE;1JONGSEONG wh;2SSANGKIYEOK;2KIYEOK-SIOS;2NIEUN;2NIEUN-CIEUC;2NIEUN-HIEUH;2xf;2RIEUL;2zv;2RIEUL-MIEUM;2RIEUL-PIEUP;2RIEUL-SIOS;2RIEUL-THIEUTH;2RIEUL-PHIEUPH;2RIEUL-HIEUH;2MIEUM;2PIEUP;2PIEUP-SIOS;2SIOS;2SSANGSIOS;2vb;2uu;2vr;2wg;2xc;2wu;2HIEUH;2KIYEOK-RIEUL;2KIYEOK-SIOS-KIYEOK;2NIEUN-KIYEOK;2NIEUN-TIKEUT;2NIEUN-SIOS;2NIEUN-PANSIOS;2NIEUN-THIEUTH;2TIKEUT-KIYEOK;2TIKEUT-RIEUL;2RIEUL-KIYEOK-SIOS;2RIEUL-NIEUN;2RIEUL-TIKEUT;2RIEUL-TIKEUT-HIEUH;2SSANGRIEUL;2RIEUL-MIEUM-KIYEOK;2RIEUL-MIEUM-SIOS;2RIEUL-PIEUP-SIOS;2RIEUL-PIEUP-HIEUH;2RIEUL-KAPYEOUNPIEUP;2RIEUL-SSANGSIOS;2RIEUL-PANSIOS;2RIEUL-KHIEUKH;2RIEUL-YEORINHIEUH
2MIEUM-KIYEOK;2MIEUM-RIEUL;2MIEUM-PIEUP;2MIEUM-SIOS;2MIEUM-SSANGSIOS;2MIEUM-PANSIOS;2MIEUM-CHIEUCH;2MIEUM-HIEUH;2KAPYEOUNMIEUM;2PIEUP-RIEUL;2PIEUP-PHIEUPH;2PIEUP-HIEUH;2KAPYEOUNPIEUP;2SIOS-KIYEOK;2SIOS-TIKEUT;2SIOS-RIEUL;2SIOS-PIEUP;2PANSIOS;2IEUNG-KIYEOK;2IEUNG-SSANGKIYEOK;2SSANGIEUNG;2IEUNG-KHIEUKH;2YESIEUNG;2YESIEUNG-SIOS;2YESIEUNG-PANSIOS;2PHIEUPH-PIEUP;2KAPYEOUNPHIEUPH;2HIEUH-NIEUN;2HIEUH-RIEUL;2HIEUH-MIEUM;2HIEUH-PIEUP;2YEORINHIEUH;2KIYEOK-NIEUN;2KIYEOK-PIEUP;2KIYEOK-CHIEUCH;2KIYEOK-KHIEUKH;2KIYEOK-HIEUH;2SSANGNIEUN;0ETHIOPIC otbu;2HU;2HI;2HAA;2HEE;2hl;2HO;2HOA;2ch;2LU;2LI;2LAA;2LEE;2LE;2LO;2LWA;2HHA;2HHU;2HHI;2HHAA;2HHEE;2HHE;2HHO;2HHWA;2ci;2ia;2MI;2MAA;2MEE;2ME;2MO;2MWA;2SZA;2SZU;2SZI;2SZAA;2SZEE;2SZE;2SZO;2SZWA;2cd;2RU;2RI;2RAA;2REE;2RE;2RO;2RWA;2cr;2SU;2SI;2SAA;2SEE;2SE;2SO;2SWA;2eg;2SHU;2SHI;2SHAA;2SHEE;2iu;2SHO;2SHWA;2QA;2QU;2QI;2QAA;2QEE;2QE;2QO;2QOA;2QWA;=124A;2QWI;2QWAA;2QWEE;2QWE;=1250;2QHA;2QHU;2QHI;2QHAA;2QHEE;2QHE;2QHO;=1258;2QHWA;=125A;2QHWI;2QHWAA;2QHWEE;2QHWE
=1260;2dh;2BU;2BI;2BAA;2BEE;2BE;2BO;2BWA;2fw;2VU;2VI;2VAA;2VEE;2VE;2VO;2VWA;2cs;2TU;2TI;2TAA;2TEE;2il;2at;2TWA;2eo;2CU;2CI;2CAA;2CEE;2CE;2CO;2CWA;2XA;2XU;2XI;2XAA;2XEE;2XE;2XO;2XOA;2XWA;=128A;2XWI;2XWAA;2XWEE;2XWE;=1290;2cj;2NU;2NI;2NAA;2NEE;2NE;2hm;2NWA;2et;2NYU;2NYI;2NYAA;2NYEE;2NYE;2NYO;2NYWA;2keA;3U;3I;3dk;3hd;3E;3O;3en;2bx;2KU;2KI;2KAA;2KEE;2KE;2KO;2KOA;2KWA;=12B2;2KWI;2KWAA;2KWEE;2KWE;=12B8;2KXA;2KXU;2KXI;2KXAA;2KXEE;2KXE;2KXO;=12C0;2KXWA;=12C2;2KXWI;2KXWAA;2KXWEE;2KXWE;=12C8;2en;2WU;2WI;2WAA;2WEE;2WE;2WO;2WOA;2PHARYNGEAL A;3U;3I;3dk;3hd;3E;3O;=12D8;2gn;2ZU;2ZI;2ZAA;2ZEE;2ZE;2ZO;2ZWA;2mo;2ZHU;2ZHI;2ZHAA;2ZHEE;2ZHE;2ZHO;2ZHWA;2ck;2ii;2YI;2YAA;2YEE;2YE;2YO;2YOA;2cw;2DU;2DI;2DAA;2DEE;2DE;2DO;2DWA;2gh;2DDU;2DDI;2DDAA;2DDEE;2DDE;2DDO;2DDWA;2em;2JU;2JI;2JAA;2JEE;2JE;2JO;2JWA;2da;2GU;2GI;2GAA;2GEE;2GE;2GO;2GOA;2GWA;=1312;2GWI;2GWAA;2GWEE;2GWE;=1318;2GGA;2GGU;2GGI;2GGAA;2GGEE;2GGE;2GGO;2GGWAA;2ff;2THU;2THI;2THAA;2THEE;2id;2THO;2THWA;2er;2CHU;2lk;2CHAA;2CHEE;2lj;2CHO;2CHWA;2fr;2PHU;2lg
2PHAA;2PHEE;2PHE;2PHO;2PHWA;2ju;2TSU;2TSI;2TSAA;2TSEE;2TSE;2TSO;2TSWA;2TZA;2TZU;2TZI;2TZAA;2TZEE;2TZE;2TZO;2TZOA;2hk;2FU;2FI;2FAA;2FEE;2FE;2FO;2FWA;2ca;2PU;2hf;2PAA;2PEE;2gp;2PO;2PWA;2RYA;2MYA;2FYA;=135D;1hwzcagcqpvaq;2cqpvaq;2zcaq;1lpaq;1WORDSPACE;1gdei;1fe;1sr;1je;1PREFACE je;1kbaq;1zhjn;1cuam;2al;2as;2ay;2bc;2bj;2br;2bk;2bv;1eyds;2ho;2mk;2ns;2iz;2oq;2it;2pp;2ib;2bt;2dscg;=1380;1otSEBATBEIT MWA;2MWI;2MWEE;2MWE;2SEBATBEIT BWA;2BWI;2BWEE;2BWE;2SEBATBEIT FWA;2FWI;2FWEE;2FWE;2SEBATBEIT PWA;2PWI;2PWEE;2PWE;1TONAL aqYIZET;3DERET;3RIKRIK;3geRIKRIK;3DIFAT;3KENAT;3CHIRET;3HIDET;3DERET-HIDET;3KURT;=13A0;0CHEROKEE abA;2E;2I;2O;2U;2V;2da;2bx;2GE;2GI;2GO;2GU;2GV;2bu;2hl;2HI;2HO;2HU;2HV;2ch;2LE;2LI;2LO;2LU;2LV;2ci;2ME;2MI;2MO;2ia;2cj;2HNA;2NAH;2NE;2NI;2hm;2NU;2NV;2QUA;2QUE;2QUI;2QUO;2QUU;2QUV;2cr;2S;2SE;2SI;2SO;2SU;2SV;2cw;2cs;2DE;2il;2DI;2TI;2DO;2DU;2DV;2DLA;2TLA;2TLE;2TLI;2TLO;2TLU;2TLV;2ju;2TSE;2TSI;2TSO;2TSU;2TSV;2en;2WE;2WI;2WO;2WU;2WV;2ck;2YE;2YI;2YO;2ii;2YV;2MV;=13F8;1acabYE;3YI;3YO;3ii;3YV
3MV;=1400;0CANADIAN SYLLABICS sd;2E;2AAI;2I;2dx;2O;2gm;2sxgm;2szhd;3I;2A;2dk;2WE;2dlWE;2WI;2dlWI;2WII;2dlWII;2WO;2dlWO;2WOO;2dlWOO;2udWOO;2en;2dlen;2WAA;2dlWAA;2udWAA;2dw;2sxW;2keei;2aodd;3eq;3jcbscv;3hibscv;3aibscv;3cv;3apdd;4gebhSTROKES;3bgar;3gecoba;3bo;3bqiv;2gi;2fp;2ez;2iy;2gp;2PAAI;2hf;2PII;2PO;2POO;2sxPOO;2szHEE;3HI;2ca;2PAA;2PWE;2dlPWE;2PWI;2dlPWI;2PWII;2dlPWII;2PWO;2dlPWO;2PWOO;2dlPWOO;2PWA;2dlPWA;2PWAA;2dlPWAA;2sxPWAA;2P;2dlP;2szH;2il;2TAAI;2TI;2TII;2at;2TOO;2sxTOO;2szDEE;3DI;2cs;2TAA;2TWE;2dlTWE;2TWI;2dlTWI;2TWII;2dlTWII;2al;2dlal;2TWOO;2dlTWOO;2TWA;2dlTWA;2TWAA;2dlTWAA;2udTWAA;2T;2TTE;2TTI;2TTO;2gg;2KE;2KAAI;2KI;2KII;2KO;2KOO;2sxKOO;2bx;2KAA;2KWE;2dlKWE;2KWI;2dlKWI;2KWII;2dlKWII;2KWO;2dlKWO;2KWOO;2dlKWOO;2KWA;2dlKWA;2KWAA;2dlKWAA;2udKWAA;2K;2KW;2SOUTH-SLAVEY KEH;3KIH;3KOH;3KAH;2CE;2CAAI;2CI;2CII;2CO;2COO;2sxCOO;2eo;2CAA;2CWE;2dlCWE;2CWI;2dlCWI;2CWII;2dlCWII;2CWO;2dlCWO;2CWOO;2dlCWOO;2CWA;2dlCWA;2CWAA;2dlCWAA;2udCWAA;2C;2vjTH;2ME;2MAAI;2MI;2MII;2MO;2MOO;2sxMOO;2ci;2MAA;2MWE
2dlMWE;2MWI;2dlMWI;2MWII;2dlMWII;2MWO;2dlMWO;2MWOO;2dlMWOO;2MWA;2dlMWA;2MWAA;2dlMWAA;2udMWAA;2M;2dlM;2MH;2ATHAPASCAN M;2vjM;2NE;2NAAI;2NI;2NII;2hm;2NOO;2sxNOO;2cj;2NAA;2NWE;2dlNWE;2NWA;2dlNWA;2NWAA;2dlNWAA;2udNWAA;2N;2szNG;2NH;2LE;2LAAI;2LI;2LII;2LO;2LOO;2sxLOO;2ch;2LAA;2LWE;2dlLWE;2LWI;2dlLWI;2LWII;2dlLWII;2LWO;2dlLWO;2LWOO;2dlLWOO;2LWA;2dlLWA;2LWAA;2dlLWAA;2L;2dlL;2diL;2SE;2SAAI;2SI;2SII;2SO;2SOO;2sxSOO;2cr;2SAA;2SWE;2dlSWE;2SWI;2dlSWI;2SWII;2dlSWII;2SWO;2dlSWO;2SWOO;2dlSWOO;2SWA;2dlSWA;2SWAA;2dlSWAA;2udSWAA;2S;2ATHAPASCAN S;2SW;2BLACKFOOT S;2MOOSE-CREE SK;2udSKW;3S-W;3SPWA;3STWA;3SKWA;3SCWA;2iu;2SHI;2SHII;2SHO;2SHOO;2eg;2SHAA;2SHWE;2dlSHWE;2SHWI;2dlSHWI;2SHWII;2dlSHWII;2SHWO;2dlSHWO;2SHWOO;2dlSHWOO;2SHWA;2dlSHWA;2SHWAA;2dlSHWAA;2SH;2YE;2YAAI;2YI;2YII;2YO;2YOO;2sxYOO;2ck;2YAA;2YWE;2dlYWE;2YWI;2dlYWI;2YWII;2dlYWII;2YWO;2dlYWO;2YWOO;2dlYWOO;2YWA;2dlYWA;2YWAA;2dlYWAA;2udYWAA;2Y;2BIBLE-CREE Y;2dlY;2vjYI;2RE;2R-CREE RE;2dlLE;2RAAI;2RI;2RII;2RO;2ROO;2dlLO;2cd;2RAA;2dlch;2RWAA;2dlRWAA;2R
2dlR;2diR;2FE;2FAAI;2FI;2FII;2FO;2FOO;2hk;2FAA;2FWAA;2dlFWAA;2F;2id;2N-CREE id;2THI;2N-CREE THI;2THII;2N-CREE THII;2THO;2THOO;2ff;2THAA;2THWAA;2dlTHWAA;2TH;2TTHE;2TTHI;2TTHO;2hj;2TTH;2TYE;2TYI;2TYO;2TYA;2NUNAVIK hl;3HI;3HII;3HO;3HOO;3bu;3HAA;3H;2NUNAVUT H;2HK;2QAAI;2QI;2QII;2QO;2QOO;2QA;2QAA;2Q;2TLHE;2TLHI;2TLHO;2TLHA;2dlRE;3RI;3RO;3cd;2NGAAI;2NGI;2NGII;2NGO;2NGOO;2ef;2NGAA;2NG;2NNG;2vjiu;3SHI;3SHO;3eg;2WOODS-CREE id;3THI;3THO;3ff;3TH;2LHI;2LHII;2LHO;2LHOO;2LHA;2LHAA;2LH;2TH-CREE id;3THI;3THII;3THO;3THOO;3ff;3THAA;3TH;2AIVILIK B;2BLACKFOOT E;3I;3O;3A;3WE;3WI;3WO;3en;3NE;3NI;3hm;3cj;3KE;3KI;3KO;3bx;2vjhl;3HI;3HO;3bu;2szGHU;3GHO;3nv;3GHEE;3GHI;3gj;3RU;3RO;3RE;3REE;3RI;3cd;3WU;3WO;3WE;3WEE;3WI;3en;3HWU;3HWO;3HWE;3HWEE;3HWI;3HWA;3THU;3THO;3id;3THEE;3THI;3ff;3TTU;3TTO;3TTE;3TTEE;3TTI;3gg;3PU;3PO;3gp;3PEE;3hf;3ca;3P;3GU;3GO;3GE;3GEE;3GI;3da;3KHU;3KHO;3KHE;3KHEE;3KHI;3ev;3KKU;3KKO;3KKE;3KKEE;3KKI;3KKA;3KK;3NU;3hm;3NE;3NEE;3NI;3cj;3ia;3MO;3ME;3MEE;3MI;3ci;3ii;3YO;3YE;3YEE;3YI;3ck;3JU;2vjJU
2szJO;3JE;3JEE;3JI;2vjJI;2szem;3JJU;3JJO;3JJE;3JJEE;3JJI;3JJA;3LU;3LO;3LE;3LEE;3LI;3ch;3DLU;3DLO;3DLE;3DLEE;3DLI;3DLA;3LHU;3LHO;3LHE;3LHEE;3LHI;3LHA;3TLHU;3TLHO;3TLHE;3TLHEE;3TLHI;3TLHA;3TLU;3TLO;3TLE;3TLEE;3TLI;3TLA;3ZU;3ZO;3ZE;3ZEE;3ZI;3gn;3Z;3bdZ;3DZU;3DZO;3DZE;3DZEE;3DZI;3DZA;3SU;3SO;3SE;3SEE;3SI;3cr;3SHU;3SHO;3iu;3SHEE;3SHI;3eg;3SH;3TSU;3TSO;3TSE;3TSEE;3TSI;3ju;3CHU;3CHO;3lj;3CHEE;3lk;3er;3TTSU;3TTSO;3TTSE;3TTSEE;3TTSI;3TTSA;2lkaf;2gdei;2QAI;2NGAI;2NNGI;2NNGII;2NNGO;2NNGOO;2NNGA;2NNGAA;2WOODS-CREE THWEE;3THWI;3THWII;3THWO;3THWOO;3THWA;3THWAA;3aoTH;2BLACKFOOT W;0OGHAM mjaq;1abBEITH;2LUIS;2FEARN;2SAIL;2NION;2UATH;2DAIR;2TINNE;2COLL;2CEIRT;2MUIN;2GORT;2NGEADAL;2STRAIF;2RUIS;2AILM;2ONN;2UR;2EADHADH;2IODHADH;2EABHADH;2do;2UILLEANN;2IFIN;2EAMHANCHOLL;2PEITH;1FEATHER aq;1ebFEATHER aq;=16A0;0RUNIC abFEHU FEOH FE F;2V;2URUZ UR U;2YR;2Y;2W;2THURISAZ THURS THORN;2ETH;2ANSUZ A;2OS O;2AC A;2AESC;2LONG-BRANCH-OSS O;2SHORT-TWIG-OSS O;2O;2ht;2ez;2RAIDO RAD REID R;2KAUNA;2CEN;2KAUN K;2G;2ENG
2GEBO GYFU G;2kp;2WUNJO WYNN W;2HAGLAZ H;2HAEGL H;2LONG-BRANCH-HAGALL H;2SHORT-TWIG-HAGALL H;2NAUDIZ NYD NAUD N;2SHORT-TWIG-NAUD N;2DOTTED-N;2ISAZ IS ISS I;2E;2JERAN J;2GER;2LONG-BRANCH-AR AE;2SHORT-TWIG-AR A;2IWAZ EOH;2PERTHO PEORTH P;2ALGIZ EOLHX;2SOWILO S;2SIGEL LONG-BRANCH-SOL S;2SHORT-TWIG-SOL S;2C;2Z;2TIWAZ TIR TYR T;2SHORT-TWIG-TYR T;2D;2BERKANAN BEORC BJARKAN B;2SHORT-TWIG-BJARKAN B;2DOTTED-P;2OPEN-P;2EHWAZ EH E;2MANNAZ mrM;2LONG-BRANCH-MADR M;2SHORT-TWIG-MADR M;2LAUKAZ LAGU LOGR L;2DOTTED-L;2INGWAZ;2ING;2DAGAZ DAEG D;2OTHALAN ETHEL O;2EAR;2IOR;2CWEORTH;2CALC;2CEALC;2STAN;2LONG-BRANCH-YR;2SHORT-TWIG-YR;2ICELANDIC-YR;2Q;2X;1ehha;1reha;1grha;1ARLAUG bb;1TVIMADUR bb;1BELGTHOR bb;1abK;2SH;2gm;2FRANKS CASKET OS;4IS;4EH;4AC;4AESC;=1700;0TAGALOG abA;2I;2U;2bx;2da;2ef;2cs;2cw;2cj;2ca;2dh;2ci;2ck;2cd;2ch;2en;2cr;2bu;1cqafI;3U;1afhp;2PAMUDPOD;=171F;1abmzcd;0HANUNOO abA;2I;2U;2bx;2da;2ef;2cs;2cw;2cj;2ca;2dh;2ci;2ck;2cd;2ch;2en;2cr;2bu;1cqafI;3U;1afPAMUDPOD;0PHILIPPINE ehha;1apha;=1740
0BUHID abA;2I;2U;2bx;2da;2ef;2cs;2cw;2cj;2ca;2dh;2ci;2ck;2cd;2ch;2en;2cr;2bu;1cqafI;3U;=1760;0TAGBANWA abA;2I;2U;2bx;2da;2ef;2cs;2cw;2cj;2ca;2dh;2ci;2ck;=176E;2ch;2en;2cr;=1772;1cqafI;3U;=1780;0KHMER abbx;2ev;2KO;2KHO;2NGO;2eo;2er;2CO;2CHO;2NYO;2cw;2hj;2DO;2TTHO;2NNO;2cs;2ff;2at;2THO;2hm;2dh;2fr;2PO;2PHO;2MO;2YO;2RO;2LO;2VO;2eg;2SSO;2cr;2bu;2ch;2QA;1wecqQAQ;3QAA;3QI;3QII;3QU;3QUK;3QUU;3QUUV;3RY;3RYY;3LY;3LYY;3QE;3QAI;3QOO TYPE am;5al;3QAU;1cqINHERENT AQ;3dk;2afdk;3I;3dx;3Y;3YY;3U;3ek;3UA;3ht;3ck;3IE;3E;3AE;3dw;3gm;3ed;1afNIKAHIT;2REAHMUK;2YUUKALEAPINTU;2MUUSIKATOAN;2TRIISAP;2BANTOC;2ROBAT;2TOANDAKHIAT;2KAKABAT;2AHSDA;2SAMYOK SANNYA;2VIRIAM;2COENG;2BATHAMASAT;2KHAN;2BARIYOOSAN;2CAMNUC PII KUUH;2LEK TOO;2BEYYAL;2PHNAEK MUAN;2KOOMUUT;1CURRENCY bbRIEL;1afAVAKRAHASANYA;2ATTHACAN;=17E0;1cudj;2am;2al;2as;2ay;2bc;2bj;2br;2bk;2bv;=17F0;1bbLEK ATTAK SON;4MUOY;4PII;4BEI;4BUON;4PRAM;4PRAM-MUOY;4PRAM-PII;4PRAM-BEI;4PRAM-BUON;=1800;0MONGOLIAN tr;1vz;1fe;1gdei;1je;1aycc;1TODO qqsd;1SIBE otBOUNDARY wk
1MANCHU fe;2gdei;1NIRUGU;1FREE VARIATION SELECTOR am;4al;4as;1cqjn;1FREE VARIATION SELECTOR ay;1cudj;2am;2al;2as;2ay;2bc;2bj;2br;2bk;2bv;=1820;1abA;2E;2I;2O;2U;2ht;2UE;2hd;2cj;2ANG;2dh;2ca;2QA;2da;2ci;2ch;2cr;2eg;2cs;2cw;2er;2em;2ck;2cd;2en;2hk;2bx;2ev;2ju;2gn;2HAA;2ZRA;2LHA;2ZHI;2lk;2TODO drcqaf;3E;3I;3O;3U;3ht;3UE;3ANG;3dh;3ca;3QA;3da;3ci;3cs;3cw;3er;3em;3ju;3ck;3en;3bx;3GAA;3HAA;3JIA;3NIA;3DZA;2SIBE E;3I;3IY;3UE;3U;3ANG;3bx;3da;3bu;3ca;3eg;3cs;3cw;3em;3hk;3GAA;3HAA;3ju;3gn;3RAA;3er;3mo;2MANCHU I;3bx;3cd;3hk;3mo;2eraaalcc;=1880;2ALI GALI gfam;4imam;4DAMARU;4UBADAMA;4euUBADAMA;4BALUDA;4asBALUDA;4A;4I;4bx;4ef;4eo;4gg;4hj;4gh;4gw;4cs;4cw;4ca;4fr;4hn;4mo;4gn;4AH;2TODO ALI GALI cs;5mo;2MANCHU ALI GALI gj;5ef;5eo;5ik;5gg;5hq;5cs;5gk;5hn;5CYA;5mo;5gn;2ALI GALI bsU;5ck;2MANCHU ALI GALI gx;2ALI GALI DAGALGA;2MANCHU ALI GALI LHA;=18B0;0CANADIAN SYLLABICS OY;2AY;2AAY;2WAY;2POY;2PAY;2PWOY;2TAY;2KAY;2KWAY;2MAY;2NOY;2NAY;2LAY;2SOY;2SAY;2SHOY;2SHAY;2SHWOY;2YOY;2YAY;2RAY;2NWI;2OJIBWAY NWI;2NWII
2OJIBWAY NWII;2NWO;2OJIBWAY NWO;2NWOO;2OJIBWAY NWOO;2RWEE;2RWI;2RWII;2RWO;2RWOO;2RWA;2OJIBWAY P;3T;3K;3C;3M;3N;3S;3SH;2EASTERN W;2WESTERN W;2aoaccv;3kzar;2R-CREE RWE;2dlLOO;3LAA;2THWE;2THWA;2TTHWE;2TTHOO;2TTHAA;2TLHWE;2TLHOO;2vjSHWE;3SHOO;3HOO;2szGWU;3DENE GEE;3GAA;3GWA;2vjJUU;2szJWA;2BEAVER DENE L;4R;2szDENTAL S;=1900;0LIMBU VOWEL-CARRIER ab;1abbx;2ev;2da;2gj;2ef;2eo;2er;2em;2ik;2YAN;2cs;2ff;2cw;2gk;2cj;2ca;2fr;2dh;2gx;2ci;2ck;2cd;2ch;2en;2eg;2hn;2cr;2bu;2GYAN;2TRA;=1920;1cqafA;3I;3U;3hd;3dw;3gm;3ed;3E;3O;1yuabck;3cd;3en;=1930;1acabbx;3ef;3gf;3cs;3cj;3ca;3ci;3cd;3ch;1afMUKPHRENG;2KEMPHRENG;2SA-I;=1940;2LOO;=1944;1kvaq;1kbaq;1cudj;2am;2al;2as;2ay;2bc;2bj;2br;2bk;2bv;0TAI LE abbx;3XA;3ef;3ju;3cr;3ck;3cs;3ff;3ch;3ca;3fr;3ci;3hk;3fw;3bu;3QA;3ev;3qc;3cj;3A;3I;3hd;3EH;3U;3gm;3O;3UE;3E;3AUE;3dw;=1970;3ul;3vm;3TONE-4;3um;3TONE-6;=1980;0NEW TAI LUE abdzQA;4dcQA;4dzbx;5XA;5ef;4dcbx;5XA;5ef;4dzju;5cr;5ck;4dcju;5cr;5ck;4dzcs;5ff;5cj;4dccs;5ff;5cj;4dzca;5fr;5ci;4dcca;5fr;5ci;4dzhk;5fw;5ch;4dchk
5fw;5ch;4dzbu;5cw;5dh;4dcbu;5cw;5dh;4dzKVA;5XVA;4dcKVA;5XVA;4dzSUA;4dcSUA;=19B0;3cqafcqSHORTENER;5dk;5dx;5U;5ek;5E;5AE;5O;5OA;5UE;5AY;5AAY;5UY;5OY;5OAY;5UEY;5IY;3abaoV;5NG;5N;5M;5K;5D;5B;3dvMARK-1;4MARK-2;=19D0;3cudj;4am;4al;4as;4ay;4bc;4bj;4br;4bk;4bv;3THAM cuam;=19DE;3afLAE;4LAEV;0KHMER bbPATHAMASAT;2MUOY pt;2PII pt;2BEI pt;2BUON pt;2PRAM pt;2PRAM-MUOY pt;2PRAM-PII pt;2PRAM-BEI pt;2PRAM-BUON pt;2DAP pt;2DAP-MUOY pt;2DAP-PII pt;2DAP-BEI pt;2DAP-BUON pt;2DAP-PRAM pt;2TUTEYASAT;2MUOY ROC;2PII ROC;2BEI ROC;2BUON ROC;2PRAM ROC;2PRAM-MUOY ROC;2PRAM-PII ROC;2PRAM-BEI ROC;2PRAM-BUON ROC;2DAP ROC;2DAP-MUOY ROC;2DAP-PII ROC;2DAP-BEI ROC;2DAP-BUON ROC;2DAP-PRAM ROC;0BUGINESE abbx;2da;2ef;2NGKA;2ca;2dh;2ci;2MPA;2cs;2cw;2cj;2NRA;2eo;2em;2et;2NYCA;2ck;2cd;2ch;2fw;2cr;2A;2bu;1cqafI;3U;3E;3O;3AE;=1A1E;1PALLAWA;1igawlp;0TAI THAM abdzbx;4ev;4KXA;3dcbx;4KXA;4ev;3ef;3dzeo;4er;3dceo;4cr;4er;3et;3RATA;3dzRATHA;3cw;3dcRATHA;3RANA;3dzcs;4ff;3dccs;4ff;3cj;3dh;3dzca;4fr;4hk;3dcca;4hk;4fr;3ci;3dcck;3dzck;3cd
3RUE;3ch;3LUE;3en;3dzeg;4hn;4cr;4bu;3kh;3A;3dcbu;3I;3dx;3U;3ek;3hd;3gm;3LAE;3GREAT cr;2lvafdicd;5ch;4chTANG LAI;2afMAI KANG LAI;2lvafaoef;4dcca;4dzRATHA dodcca;4ci;4dh;4cr;=1A60;2afSAKOT;2cqafA;4MAI SAT;4dk;4TALL dk;4I;4dx;4UE;4UUE;4U;4ek;4O;4OA an;4OY;4E;4AE;4gm;4dw;4THAM dw;4OA aj;2afMAI KANG;3TONE-1;3ul;3KHUEN vm;4TONE-4;4um;3cdHAAM;3MAI SAM;3KHUEN-LUE KARAN;=1A7F;2hwuxar;2HORA cudj;4am;4al;4as;4ay;4bc;4bj;4br;4bk;4bv;=1A90;2THAM cudj;4am;4al;4as;4ay;4bc;4bj;4br;4bk;4bv;=1AA0;2afWIANG;3WIANGWAAK;3SAWAN;3KEOW;3HOY;3DOKMAI;3ebfbRANA;3MAI YAMOK;3KAAN;3KAANKUU;3SATKAAN;3SATKAANKUU;3HANG;3CAANG;=1AB0;0hwDOUBLED dthv;1DIAERESIS-RING;1yl;1cxah;1gsar;1X-X an;1WIGGLY eean;1dnaqan;1apdnaqan;1cpznbaan;1STRONG znbaan;1PARENTHESES aj;1apPARENTHESES aj;1PARENTHESES an;2lz;1gbacabW an;4dqW an;1akheajak;1aiheajai;1akheanak;1aiheanai;1bzBRACKETS aj;1eyafaj;1euapARCH aj;1boafaj;1apboafaj;4an;1gsddhv;1gbacabnxG;5R;5T;=1B00;0BALINESE afULU RICEM;3pn;2CECEK;2SURANG;2BISAH;1abAKARA;3st;2IKARA;3st;2UKARA
3st;2cdREPA;4st;2chLENGA;4st;2EKARA;2AIKARA;2OKARA;3st;2bx;3wj;2da;3GORA;2ef;2eo;3LACA;2em;3JERA;2et;2csLATIK;3thwj;2cwthALPAPRANA;4wj;2cjRAMBAT;2cs;3TAWA;2cw;3MADU;2cj;2ca;3KAPAL;2dh;3KEMBANG;2ci;2ck;2cd;2ch;2en;2crSAGA;3SAPA;3;2bu;1afREREKAN;1cqafst;3ULU;4SARI;3SUKU;4ILUT;3cdREPA;5st;3chLENGA;5st;3TALING;4REPA;4st;4REPA st;3PEPET;4st;1ADEG ADEG;1abjqSASAK;2KHOT SASAK;2TZIR SASAK;2EF SASAK;2VE SASAK;2ZAL SASAK;2ASYURA SASAK;2mzJNYA;=1B50;1cudj;2am;2al;2as;2ay;2bc;2bj;2br;2bk;2bv;1PANTI;1PAMADA;1WINDU;1CARIK PAMUNGKAH;2SIKI;2PAREREN;1PAMENENG;1rfbbDONG;3DENG;3DUNG;3DANG;4SURANG;3DING;3DAENG;3DEUNG;3DAING;3DANG GEDE;3hwTEGEH;4ENDEP;4KEMPUL;4KEMPLI;4JEGOGAN;4KEMPUL aaJEGOGAN;4KEMPLI aaJEGOGAN;4BENDE;4GONG;3RIGHT-HAND dnDUG;5DAG;4inTUK;5TAK;3LEFT-HAND dnPANG;5PUNG;4inPLAK;5PLUK;4dnPING;1PANTI LANTANG;1PAMADA LANTANG;=1B80;0SUNDANESE afPANYECEK;2PANGLAYAR;2PANGWISAD;1abA;2I;2U;2AE;2O;2E;2EU;2bx;2QA;2da;2ef;2eo;2em;2gn;2et;2cs;2cw;2cj;2ca;2hk;2fw;2dh;2ci;2ck;2cd;2ch;2en;2cr;2XA;2bu
1lvafPAMINGKAL;3PANYAKRA;3PANYIKU;1cqafPANGHULU;3PANYUKU;3PANAELAENG;3PANOLONG;3PAMEPET;3PANEULEUNG;1afPAMAAEH;2hp;1lvafPASANGAN ci;4en;1abev;2SYA;1cudj;2am;2al;2as;2ay;2bc;2bj;2br;2bk;2bv;1ox;1abREU;2LEU;2gx;2aoK;3M;0BATAK abA;2tkA;2bu;2tkbu;2MANDAILING bu;2dh;2KARO dh;2ca;2tkca;2cj;2MANDAILING cj;2en;2tken;2PAKPAK en;2da;2tkda;2em;2cw;2cd;2tkcd;2ci;2tkci;2SOUTHERN cs;2NORTHERN cs;2cr;2tkcr;2MANDAILING cr;2ck;2tkck;2ef;2ch;2tkch;2et;2eo;2NDA;2MBA;2I;2U;1afTOMPI;1cqafE;3PAKPAK E;3hd;3I;3KARO I;3O;3KARO O;3U;4hxtkcr;1lvafNG;3H;1PANGOLAT;1PANONGONAN;=1BFC;1bbBINDU cjMETEK;3PINARBORAS;3JUDUL;3PANGOLAT;0LEPCHA abbx;2KLA;2ev;2da;2GLA;2ef;2eo;2er;2em;2et;2cs;2ff;2cw;2cj;2ca;2PLA;2fr;2hk;2FLA;2dh;2BLA;2ci;2MLA;2ju;2qc;2DZA;2ck;2cd;2ch;2bu;2HLA;2fw;2cr;2eg;2en;2A;1yuabck;3cd;1cqafdk;3I;3O;3gm;3U;3ek;3E;1lvafK;3M;3L;3N;3P;3R;3T;3NYIN-DO;3KANG;1afRAN;2lf;=1C3B;1haTA-ROL;2NYET THYOOM TA-ROL;2CER-WA;2TSHOOK CER-WA;3;1cudj;2am;2al;2as;2ay;2bc;2bj;2br;2bk;2bv;=1C4D;1abgg;2hj;2gh;0OL CHIKI cudj;3am
3al;3as;3ay;3bc;3bj;3br;3bk;3bv;2abch;3AT;3AG;3ANG;3AL;3LAA;3AAK;3AAJ;3AAM;3AAW;3LI;3IS;3IH;3INY;3IR;3LU;3UC;3UD;3UNN;3UY;3LE;3EP;3EDD;3gi;3ERR;3LO;3OTT;3OB;3OV;3OH;2iaTTUDDAG;2GAAHLAA TTUDDAAG;2MU-GAAHLAA TTUDDAAG;2RELAA;2PHAARKAA;2AHAD;2haMUCAAD;3apMUCAAD;0qiacabugVE;3LONG-LEGGED DE;3NARROW O;3WIDE ES;3TALL il;3THREE-LEGGED il;3TALL HARD af;4YAT;3UNBLENDED UK;=1C90;0GEORGIAN MTAVRULI aeabiy;4BAN;4GAN;4DON;4gi;4VIN;4ZEN;4TAN;4fp;4KAN;4LAS;4mr;4NAR;4ez;4PAR;4ZHAR;4RAE;4SAN;4TAR;4UN;4PHAR;4KHAR;4GHAN;4QAR;4jt;4CHIN;4CAN;4JIL;4CIL;4CHAR;4XAN;4JHAN;4HAE;4hl;4HIE;4WE;4HAR;4HOE;4FI;4YN;4ELIFI;4dqGAN;4iw;=1CBD;4AEN;4HARD af;4LABIAL af;0SUNDANESE haBINDU SURYA;3PANGLONG;3PURNAMA;3CAKRA;3LEU SATANGA;3bxSATANGA;3cwSATANGA;3dhSATANGA;=1CD0;0VEDIC dvKARSHANA;2SHARA;2PRENKHA;1afNIHSHVASA;2YAJURVEDIC MIDLINE uk;1dvYAJURVEDIC AGGRAVATED weuk;3weuk;3KATHAKA weuk;2pnan;2YAJURVEDIC KATHAKA weukSCHROEDER;2apuk;2gsuk;2KATHAKA ANUDATTA;2aran;2alccan;2asccan;2RIGVEDIC KASHMIRI weuk;2ATHARVAVEDIC weuk
1afimuk;3UDATTA;2ebimUDATTA;2imANUDATTA;2ebimANUDATTA;2imUDATTA aafs;3ANUDATTA aafs;2gfANTARGOMUKHA;3BAHIRGOMUKHA;3VAMAGOMUKHA;4aafs;2TIRYAK;2HEXIFORM drgf;2drgf;2RTHANG drgf;2gfUBHAYATO MUKHA;2ARDHAVISARGA;2fbARDHAVISARGA;1dvpnaj;1afyn;2yx;2ATIKRAMA;1dvcvaj;2apcvaj;1afapgfANTARGOMUKHA;=1D00;0gbabacaeA;4AE;1acabdqAE;1abacaetpB;4C;4D;4ETH;4E;1acabdqdnE;4I;1abacaeJ;4K;4L aaba;4M;4ebN;4O;4dnO;1acabvkO;4dnO;4O aaba;3dqht;1abacaeOU;1acabhibsO;3jcbsO;1abacaeP;4ebR;4dqR;4T;4U;1acabvkU;4DIAERESIZED U;4dqM;1abacaeV;4W;4Z;4EZH;2uoLARYNGEAL SPIRANT;2iw;0leabacaemd;4qo;4hf;4kr;4op;0qiabacaeEL;0jrabaeA;3AE;3B;3tpB;3D;3E;3ebE;3G;3H;3I;3J;3K;3L;3M;3N;3ebN;3O;3OU;3P;3R;3T;3U;3W;2acA;3dqA;3ix;3dqAE;3B;3D;3E;3uh;3dnE;3dqdnE;3G;3dqI;3K;3M;3ENG;3O;3dnO;3hibsO;3jcbsO;3P;3T;3U;3vkU;3dqM;3V;3iw;3nc;3lemd;3mu;3lelg;3lk;0gbxwacabI;4R;4U;4V;0lexwacabnc;4md;4kr;4lg;4lk;0gbacabUE;3B aabgct;3D aabgct;3F aabgct;3M aabgct;3N aabgct;3P aabgct;3R aabgct;5xnagbgct;3S aabgct;3T aabgct;3Z aabgct;3dqG;0jrabqigi;0gbacabnxG
3TH aaSTRIKETHROUGH;2aeabI aaba;2abjlaaba;3P aaba;2aeabU aaba;2abkkaaba;3B aakaaz;3D aakaaz;3F aakaaz;3G aakaaz;3K aakaaz;3L aakaaz;3M aakaaz;3N aakaaz;3P aakaaz;3R aakaaz;3S aakaaz;3nraakaaz;3V aakaaz;3X aakaaz;3Z aakaaz;3A aahgaz;3ixaahgaz;3D aaazagfs;3E aahgaz;3dnE aahgaz;3ebdnE aahgaz;3uhaahgaz;3I aahgaz;3dnO aahgaz;3nraahgaz;3U aahgaz;3EZH aahgaz;0jrabacdqix;3C;4aamc;3ETH;3ebdnE;3F;3qlJ aaba;3loG;3dqH;3I aaba;3jl;3aeI;5aaba;3J aauw;3L aahgaz;5kaaz;3aeL;3M aaaz;3dqM aadroo;3N aaakaz;5hgaz;3aeN;3tpO;3lg;3S aaaz;3nr;3T aakaaz;3U bn;3kk;3aeU;3V aaaz;3dqV;3Z;4aahgaz;5mc;3EZH;3lh;0hwhzeqhv;2ddhv;1SNAKE an;1SUSPENSION aq;1MACRON-ACUTE;1GRAVE-MACRON;1MACRON-GRAVE;1ACUTE-MACRON;1GRAVE-ACUTE-GRAVE;1ACUTE-GRAVE-ACUTE;1gbacabR an;1BREVE-MACRON;1MACRON-BREVE;1apdtaj;1pxaj;1xian;1IS an;1UR aj;1US aj;1gbacabFLATTENED dnA aj;4AE;4AO;4AV;4C jw;4nxD;4ETH;4G;2abacaeG;2acabK;4L;2abacaeL;5M;2acabN;2abacaeN;5R;2acabR ROTUNDA;4S;4drS;4Z;4ix;4B;4nc;4uh;4F;4L aaapbgct;4O aacpznba;4P;4nr;4U aacpznba;4W
4A aaec;4O aaec;4U aaec;1biivaj;1KAVYKA ajai;3ak;1arajak;1WIDE euBRIDGE an;1aranak;1DELETION aq;1apeufnan;1ovcnatan;1akelaj;1aielagbqelan;0gbaeabA aacvan;1acabA aacvan;1aeabB aaaraj;1acabB aaaraj;1aeabB aaaran;1acabB aaaran;1aeabB aaeean;1acabB aaeean;1aeabC aajwagdd;1acabC aajwagdd;1aeabD aaaraj;1acabD aaaraj;1aeabD aaaran;1acabD aaaran;1aeabD aaeean;1acabD aaeean;1aeabD aajw;1acabD aajw;1aeabD aadtan;1acabD aadtan;1aeabE aaewageq;1acabE aaewageq;1aeabE aaewagdd;1acabE aaewagdd;1aeabE aadtan;1acabE aadtan;1aeabE aactan;1acabE aactan;1aeabE aajwagfn;1acabE aajwagfn;1aeabF aaaraj;1acabF aaaraj;1aeabG aaew;1acabG aaew;1aeabH aaaraj;1acabH aaaraj;1aeabH aaaran;1acabH aaaran;1aeabH aaec;1acabH aaec;1aeabH aajw;1acabH aajw;1aeabH aafnan;1acabH aafnan;1aeabI aactan;1acabI aactan;1aeabI aaecagdd;1acabI aaecagdd;1aeabK aadd;1acabK aadd;1aeabK aaaran;1acabK aaaran;1aeabK aaeean;1acabK aaeean;1aeabL aaaran;1acabL aaaran;1aeabL aaaranagew;1acabL aaaranagew;1aeabL aaeean;1acabL aaeean
1aeabL aadtan;1acabL aadtan;1aeabM aadd;1acabM aadd;1aeabM aaaraj;1acabM aaaraj;1aeabM aaaran;1acabM aaaran;1aeabN aaaraj;1acabN aaaraj;1aeabN aaaran;1acabN aaaran;1aeabN aaeean;1acabN aaeean;1aeabN aadtan;1acabN aadtan;1aeabO aactagdd;1acabO aactagdd;1aeabO aactagec;1acabO aactagec;1aeabO aaewageq;1acabO aaewageq;1aeabO aaewagdd;1acabO aaewagdd;1aeabP aadd;1acabP aadd;1aeabP aaaraj;1acabP aaaraj;1aeabR aaaraj;1acabR aaaraj;1aeabR aaaran;1acabR aaaran;1aeabR aaaranagew;1acabR aaaranagew;1aeabR aaeean;1acabR aaeean;1aeabS aaaraj;1acabS aaaraj;1aeabS aaaran;1acabS aaaran;1aeabS aaddagaraj;1acabS aaddagaraj;1aeabS aaguagaraj;1acabS aaguagaraj;1aeabS aaaranagaraj;1acabS aaaranagaraj;1aeabT aaaraj;1acabT aaaraj;1aeabT aaaran;1acabT aaaran;1aeabT aaeean;1acabT aaeean;1aeabT aadtan;1acabT aadtan;1aeabU aaecan;1acabU aaecan;1aeabU aactan;1acabU aactan;1aeabU aadtan;1acabU aadtan;1aeabU aactagdd;1acabU aactagdd;1aeabU aaewagec;1acabU aaewagec;1aeabV aact;1acabV aact;1aeabV aaaran;1acabV aaaran
1aeabW aaeq;1acabW aaeq;1aeabW aadd;1acabW aadd;1aeabW aaec;1acabW aaec;1aeabW aaaraj;1acabW aaaraj;1aeabW aaaran;1acabW aaaran;1aeabX aaaraj;1acabX aaaraj;1aeabX aaec;1acabX aaec;1aeabY aaaraj;1acabY aaaraj;1aeabZ aadt;1acabZ aadt;1aeabZ aaaran;1acabZ aaaran;1aeabZ aaeean;1acabZ aaeean;3H aaeean;3T aaec;3W aacvaj;3Y aacvaj;3A aaaibscv;3drS aaaraj;6gvba;6dzba;1aeabSHARP S;1acabmu;1aeabA aaaran;1acabA aaaran;1aeabA aaazaj;1acabA aaazaj;1aeabA aadtagdd;1acabA aadtagdd;1aeabA aadtageq;1acabA aadtageq;1aeabA aadtagazaj;1acabA aadtagazaj;1aeabA aadtagct;1acabA aadtagct;1aeabA aadtagaran;1acabA aadtagaran;1aeabA aafnagdd;1acabA aafnagdd;1aeabA aafnageq;1acabA aafnageq;1aeabA aafnagazaj;1acabA aafnagazaj;1aeabA aafnagct;1acabA aafnagct;1aeabA aafnagaran;1acabA aafnagaran;1aeabE aaaran;1acabE aaaran;1aeabE aaazaj;1acabE aaazaj;1aeabE aact;1acabE aact;1aeabE aadtagdd;1acabE aadtagdd;1aeabE aadtageq;1acabE aadtageq;1aeabE aadtagazaj;1acabE aadtagazaj;1aeabE aadtagct;1acabE aadtagct
1aeabE aadtagaran;1acabE aadtagaran;1aeabI aaazaj;1acabI aaazaj;1aeabI aaaran;1acabI aaaran;1aeabO aaaran;1acabO aaaran;1aeabO aaazaj;1acabO aaazaj;1aeabO aadtagdd;1acabO aadtagdd;1aeabO aadtageq;1acabO aadtageq;1aeabO aadtagazaj;1acabO aadtagazaj;1aeabO aadtagct;1acabO aadtagct;1aeabO aadtagaran;1acabO aadtagaran;1aeabO aaisagdd;1acabO aaisagdd;1aeabO aaisageq;1acabO aaisageq;1aeabO aaisagazaj;1acabO aaisagazaj;1aeabO aaisagct;1acabO aaisagct;1aeabO aaisagaran;1acabO aaisagaran;1aeabU aaaran;1acabU aaaran;1aeabU aaazaj;1acabU aaazaj;1aeabU aaisagdd;1acabU aaisagdd;1aeabU aaisageq;1acabU aaisageq;1aeabU aaisagazaj;1acabU aaisagazaj;1aeabU aaisagct;1acabU aaisagct;1aeabU aaisagaran;1acabU aaisagaran;1aeabY aaeq;1acabY aaeq;1aeabY aaaran;1acabY aaaran;1aeabY aaazaj;1acabY aaazaj;1aeabY aact;1acabY aact;1aeabzsip;1acabzsip;1aeabzsV;1acabzsV;1aeabY aaoa;1acabY aaoa;0leacabixaaea;5dy;5eaagfd;5dyagfd;5eaagfc;5dyagfc;5eaaggz;5dyaggz;1aeabixaaea;5dy;5eaagfd;5dyagfd;5eaagfc;5dyagfc;5eaaggz
5dyaggz;1acabkuaaea;5dy;5eaagfd;5dyagfd;5eaagfc;5dyagfc;=1F18;1aeabkuaaea;5dy;5eaagfd;5dyagfd;5eaagfc;5dyagfc;=1F20;1acabmpaaea;5dy;5eaagfd;5dyagfd;5eaagfc;5dyagfc;5eaaggz;5dyaggz;1aeabmpaaea;5dy;5eaagfd;5dyagfd;5eaagfc;5dyagfc;5eaaggz;5dyaggz;1acabjlaaea;5dy;5eaagfd;5dyagfd;5eaagfc;5dyagfc;5eaaggz;5dyaggz;1aeabjlaaea;5dy;5eaagfd;5dyagfd;5eaagfc;5dyagfc;5eaaggz;5dyaggz;1acabocaaea;5dy;5eaagfd;5dyagfd;5eaagfc;5dyagfc;=1F48;1aeabocaaea;5dy;5eaagfd;5dyagfd;5eaagfc;5dyagfc;=1F50;1acabkkaaea;5dy;5eaagfd;5dyagfd;5eaagfc;5dyagfc;5eaaggz;5dyaggz;=1F59;1aeabkkaady;=1F5B;6agfd;=1F5D;7fc;=1F5F;7gz;1acabicaaea;5dy;5eaagfd;5dyagfd;5eaagfc;5dyagfc;5eaaggz;5dyaggz;1aeabicaaea;5dy;5eaagfd;5dyagfd;5eaagfc;5dyagfc;5eaaggz;5dyaggz;1acabixaafd;5fc;3kuaafd;5fc;3mpaafd;5fc;3jlaafd;5fc;3ocaafd;5fc;3kkaafd;5fc;3icaafd;5fc;=1F80;3ixaaeaagif;5dyagif;5eaagfdagif;5dyagfdagif;5eaagfcagif;5dyagfcagif;5eaaggzagif;5dyaggzagif;1aeabixaaeaagki;5dyagki;5eaagfdagki;5dyagfdagki;5eaagfcagki;5dyagfcagki;5eaaggzagki
5dyaggzagki;1acabmpaaeaagif;5dyagif;5eaagfdagif;5dyagfdagif;5eaagfcagif;5dyagfcagif;5eaaggzagif;5dyaggzagif;1aeabmpaaeaagki;5dyagki;5eaagfdagki;5dyagfdagki;5eaagfcagki;5dyagfcagki;5eaaggzagki;5dyaggzagki;1acabicaaeaagif;5dyagif;5eaagfdagif;5dyagfdagif;5eaagfcagif;5dyagfcagif;5eaaggzagif;5dyaggzagif;1aeabicaaeaagki;5dyagki;5eaagfdagki;5dyagfdagki;5eaagfcagki;5dyagfcagki;5eaaggzagki;5dyaggzagki;1acabixaaVRACHY;5ew;5fdagif;5if;5fcagif;=1FB6;5gz;6agif;1aeabixaaVRACHY;5ew;5fd;5fc;5ki;1KORONIS;1ki;1ea;1gz;1qjaggz;1acabmpaafdagif;5if;5fcagif;=1FC6;5gz;6agif;1aeabkuaafd;5fc;3mpaafd;5fc;5ki;1eaagfd;3fc;3gz;1acabjlaaVRACHY;5ew;5qjagfd;7fc;=1FD6;5gz;5qjaggz;1aeabjlaaVRACHY;5ew;5fd;5fc;=1FDD;1dyagfd;3fc;3gz;1acabkkaaVRACHY;5ew;5qjagfd;7fc;3kraaea;5dy;3kkaagz;5qjaggz;1aeabkkaaVRACHY;5ew;5fd;5fc;3kraady;1qjagfd;3fc;1fd;=1FF2;1acabicaafdagif;5if;5fcagif;=1FF6;5gz;6agif;1aeabocaafd;5fc;3icaafd;5fc;5ki;1fc;1dy;=2000;0giqp;0EM qp;0gimj;0EM mj;0THREE-PER-EM mj;0FOUR-PER-EM mj;0SIX-PER-EM mj;0FIGURE mj
0hamj;0THIN mj;0HAIR mj;0djWIDTH mj;2NON-JOINER;2JOINER;0zfaq;0zyaq;0sd;0NON-BREAKING sd;0FIGURE hc;0gihc;0EM hc;0cobn;0apbhee;1dcee;0akehjsaq;0aiehjsaq;0ehLOW-9 jsaq;1HIGH-REVERSED-9 jsaq;0akapjsaq;0aiapjsaq;0apLOW-9 jsaq;1HIGH-REVERSED-9 jsaq;0DAGGER;0apDAGGER;0qg;0mlqg;0amarLEADER;0alarLEADER;0covz;0HYPHENATION rh;0eejn;0zhjn;0zfEMBEDDING;0zyEMBEDDING;0POP DIRECTIONAL FORMATTING;0zfOVERRIDE;0zyOVERRIDE;0NARROW NO-BREAK mj;0PER MILLE af;1dscgaf;0sn;0apsn;0gssn;0ebsn;1apsn;1gssn;0ts;0ehmvfyjsaq;1lnfyjsaq;0REFERENCE aq;0apkvaq;0zd;0wq;0UNDERTIE;0oyTIE;0tsINSERTION rh;0ASTERISM;0sdqg;0nepk;0akbzbwaaQUILL;0aibzbwaaQUILL;0apkbaq;0kbkvaq;0kvkbaq;0TIRONIAN afET;0ebPILCROW af;0aubpqg;1beqg;0dcgq;0ebsr;0CLOSE bi;0alASTERISKS ALIGNED xz;0zbobaf;0SWUNG hc;0euUNDERTIE;0FLOWER haaq;0asarha;0tisn;0ayarha;0bcarha;0alarha;0ayaraq;0hzgr;0TRICOLON;0bhaycc;0deypmj;0qdJOINER;0FUNCTION APPLICATION;0INVISIBLE bl;1jn;1bo;=2066;0zfISOLATE;0zyISOLATE;0FIRST STRONG ISOLATE;0POP DIRECTIONAL ISOLATE
0INHIBIT SYMMETRIC SWAPPING;0ACTIVATE SYMMETRIC SWAPPING;0INHIBIT myadSHAPING;0ACTIVATE myadSHAPING;0NATIONAL cuSHAPES;0NOMINAL cuSHAPES;0rpdj;1gbacabI;=2074;1ay;1bc;1bj;1br;1bk;1bv;1boaf;1ob;1ioaf;1akhe;1aihe;1gbacabN;0xwdj;1am;1al;1as;1ay;1bc;1bj;1br;1bk;1bv;1boaf;1ob;1ioaf;1akhe;1aihe;=2090;0gbxwacabA;4E;4O;4X;4uh;4H;4K;4L;4M;4N;4P;4S;4T;=20A0;0EURO-CURRENCY af;0jeaf;0CRUZEIRO af;0FRENCH FRANC af;0LIRA af;0MILL af;0NAIRA af;0PESETA af;0RUPEE af;0WON af;0NEW SHEQEL af;0DONG af;0EURO af;0KIP af;0TUGRIK af;0DRACHMA af;0GERMAN PENNY af;0PESO af;0GUARANI af;0AUSTRAL af;0HRYVNIA af;0CEDI af;0LIVRE TOURNOIS af;0SPESMILO af;0TENGE af;0INDIAN RUPEE af;0TURKISH LIRA af;0NORDIC aqaf;0MANAT af;0RUBLE af;0LARI af;0BITCOIN af;0SOM af;=20D0;0hwakfoaj;1aifoaj;1drbheelz;1gebheelz;1noahaj;1qxahaj;1akahaj;1aiahaj;1cvlz;1qxcvlz;1nocvlz;1asccaj;1ayccaj;1ENCLOSING cb;2bz;2hs;2cbxk;1akaiahaj;1ENCLOSING SCREEN;2KEYCAP;2UPWARD excz;1mglrlz;1apbhbalz;1ANNUITY bb;1gsUNDERDOT;1WIDE BRIDGE aj;1bpahlz;1draplrlz
1befoaadbcx;1bpfoaadbcx;1akahan;1aiahan;1gqaj;=2100;0ACCOUNT aw;0ADDRESSED atidSUBJECT;0tcaeC;0DEGREE CELSIUS;0fmeebb;0CARE aw;0CADA UNA;0EULER CONSTANT;0SCRUPLE;0DEGREE FAHRENHEIT;0loacG;1aeH;0zaaeH;0tcaeH;0PLANCK CONSTANT;2cfalhf;0loaeI;0zaaeI;0loaeL;1acL;0L B bnbb;0tcaeN;0NUMERO af;0osRECORDING COPYRIGHT;0loaeP;0tcaeP;2Q;0loaeR;0zaaeR;0tcaeR;0PRESCRIPTION TAKE;0RESPONSE;0SERVICE aq;0suaf;0TRADE aqaf;0VERSICLE;0tcaeZ;0OUNCE af;0OHM af;0euOHM af;0zaaeZ;0dqleacabjl;0KELVIN af;0ANGSTROM af;0loaeB;0zaaeC;0ESTIMATED bb;0loacE;1aeE;2F;0dqaeF;0loaeM;1acO;0clbb;0BET bb;0ozbb;0DALET bb;0ymSOURCE;0fbaeQ;0FACSIMILE af;0tcachf;2md;1aemd;2hf;1N-ARY SUMMATION;0dqmbaeG;3L;0ebmbaeL;0dqmbaeY;0tcteaeD;2acD;3E;3I;3J;0PROPERTY ee;0dqvo;0PER af;0AKTIESELSKAB;0dqacF;0bbhxSAMARITAN SOURCE;0VULGAR neamSEVENTH;3NINTH;3TENTH;3rq;2alvl;2amFIFTH;2alFIFTHS;2asFIFTHS;2ayFIFTHS;2amSIXTH;2bcSIXTHS;2amko;2aspo;2bcpo;2brpo;0neNUMERATOR am;0ROMAN ufam;2al;2as;2ay;2bc;2bj;2br;2bk;2bv;2ds;2rz;2qt;2iz;2ambt;2bcbt;2amcg
0acROMAN ufam;3al;3as;3ay;3bc;3bj;3br;3bk;3bv;3ds;3rz;3qt;3iz;3ambt;3bcbt;3amcg;0ROMAN ufamcgC D;2bccg;2dscg;2ebambt;0gbacabebC;0ROMAN ufbjLATE ad;2izEARLY ad;3cg;2ambtcg;0VULGAR nedjvl;0dqcual;2as;=2190;0bpah;0dfah;0beah;0cxah;0akaiah;0bibqah;0glfxah;1faah;0hbfaah;1fxah;0bpahaaba;0beahaaba;0bpmnah;0bemnah;0bpalHEADED ah;0dfalHEADED ah;0bealHEADED ah;0cxalHEADED ah;0bpahaafs;0beahaafs;0bpahjibn;0dfahjibn;0beahjibn;0cxahjibn;0bibqahaaBASE;0bpahaaaz;0beahaaaz;0bpahaaoa;0beahaaoa;0akaimnah;2ahaaba;0cxxiah;0dfahaaTIP bp;4be;0cxahaaTIP bp;4be;0beahaajfcx;0cxahaajfbp;0nohizkah;0qxhizkah;0glfxahatdrbn;0bpahatbncfbeahatbn;0nodncbah;0qxdncbah;0bpfoaadbdf;4cx;0dffoaadbbe;4bp;0befoaadbdf;4cx;0cxfoaadbbe;4bp;0beahcfbpah;0dfahbpawcxah;0bpahcfbeah;1wrow;0dfwrow;0bewrow;0cxwrow;0bpfocfbefo;0befocfbpfo;0bpapahaaba;0akaiapahaaba;0beapahaaba;0bpapah;0dfapah;0beapah;0cxapah;0akaiapah;0bibqapah;0glfxapah;1faapah;0hbfaapah;1fxapah;0bpgsah;0begsah;0bpSQUIGGLE ah;0beSQUIGGLE ah;0dfahaaapba;0cxahaaapba
0bpqzah;0dfqzah;0beqzah;0cxqzah;0bpahatbn;0beahatbn;0bpaxah;0dfaxah;0beaxah;0cxaxah;0dfaxahjibn;3ezPEDESTAL;5aacobn;6bhbn;2apah;4ezPEDESTAL;0beaxahjiWALL;0glfxahatjf;0hbfaahatjf;0bibqaxah;0aiahaaaccb;0cxahbpawdfah;0asbeow;0bpahaabhba;0beahaabhba;0akaiahaabhba;0bpahaaapbhba;0beahaaapbhba;0akaiahaaapbhba;0bpOPEN-HEADED ah;0beOPEN-HEADED ah;0akaiOPEN-HEADED ah;0hxALL;0COMPLEMENT;0wtye;0THERE EXISTS;1DOES fiEXIST;0EMPTY SET;0INCREMENT;0NABLA;0tvaw;0fiiytvaw;0actvaw;0vtAS MEMBER;0DOES fiCONTAIN AS MEMBER;0acvtAS MEMBER;0igawPROOF;0N-ARY rj;1COPRODUCT;1SUMMATION;0obaf;0MINUS-OR-PLUS af;0arbo;0vwpk;0SET ob;0gqgy;0cvgy;0qggy;0bzROOT;0CUBE ROOT;0FOURTH ROOT;0PROPORTIONAL at;0yl;0aify;0fy;0MEASURED fy;0SPHERICAL fy;0DIVIDES;0DOES fiDIVIDE;0wsat;0fiwsat;0rcag;1do;0on;0ou;0nh;0apnh;0gsnh;0CONTOUR nh;0SURFACE nh;0VOLUME nh;0qxnh;1CONTOUR nh;0noCONTOUR nh;0THEREFORE;0BECAUSE;0RATIO;0PROPORTION;0arob;0EXCESS;0GEOMETRIC PROPORTION;0HOMOTHETIC;0ctgy;0ebct;0euLAZY S;0SINE mn;0WREATH rj;0fict;0obct
0ASYMPTOTICALLY cnat;0fiASYMPTOTICALLY cnat;0yzcnat;1BUT fiACTUALLY cnat;0NEITHER yzNOR ACTUALLY cnat;0ovcnat;0fiovcnat;0ovcndocnat;0gsct;0ALL cnat;0pqat;0GEOMETRICALLY pqat;0DIFFERENCE oj;0APPROACHES idLIMIT;0GEOMETRICALLY cnat;0yzcnatdoidIMAGE aw;0IMAGE awdoyzcnat;0jeio;0ioje;0cvfpcnat;1cnat;0CORRESPONDS at;0ESTIMATES;0EQUIANGULAR at;0fkio;0mucnat;0cnatBY DEFINITION;0MEASURED BY;0QUESTIONED cnat;0ficnat;0IDENTICAL at;0fiIDENTICAL at;0STRICTLY pqat;0fhdocnat;0fjdocnat;0fhcfcnat;0fjcfcnat;0fhBUT ficnat;0fjBUT ficnat;0MUCH fh;1fj;0oj;0fipqat;1fh;1fj;0NEITHER fhNOR cnat;1fjNOR cnat;0fhdopqat;0fjdopqat;0NEITHER fhNOR pqat;1fjNOR pqat;0fhdofj;0fjdofh;0NEITHER fhNOR fj;1fjNOR fh;0ri;0ro;0ridocnat;0rodocnat;0ridopqat;0rodopqat;0DOES fiPRECEDE;2SUCCEED;0lcaw;0ltaw;0fiA lcaw;2ltaw;0lcawdocnat;0ltawdocnat;0NEITHER A lcawNOR cnat;2ltawNOR cnat;0lcawaaficnat;0ltawaaficnat;0MULTISET;1tg;1ou;0bzIMAGE aw;1ORIGINAL aw;1IMAGE awdocnat;1ORIGINAL awdocnat;1CAP;1CUP;0ftbo;1ob;1bl;1vwpk;1argy;1cvgy;1gqgy
1io;1hc;0irbo;1ob;1bl;1argy;0aiiv;0akiv;0bqiv;0biiv;0ASSERTION;0MODELS;0TRUE;0FORCES;0gsbhbnaixg;0apbhbnapaixg;0DOES fiPROVE;0fiTRUE;0DOES fiFORCE;0NEGATED apbhbnapaixg;0riUNDER RELATION;0roUNDER RELATION;0uewzaw;0vtAS uewz;0uewzawdocnat;0vtAS uewzdocnat;0ORIGINAL aw;0IMAGE aw;0MULTIMAP;0HERMITIAN CONJUGATE MATRIX;0INTERCALATE;0XOR;0NAND;0NOR;0aifyaaARC;1cz;0N-ARY rcag;2do;1on;1ou;0hsgy;0argy;0fkgy;0vwbl;0BOWTIE;0akueFACTOR zlrj;0aiueFACTOR zlrj;0akzlrj;0aizlrj;0ebctio;0ktrcdo;2ag;0aplc;1lt;1on;1ou;0PITCHFORK;0cnagwsat;0fhaaar;0fjaaar;0klMUCH fh;2fj;0fhcnatdofj;0fjcnatdofh;0cnatdofh;3fj;3ri;3ro;0DOES fiPRECEDE docn;2SUCCEED docn;0fibzIMAGE awdocnat;2ORIGINAL awdocnat;0bzIMAGE awdoficnat;1ORIGINAL awdoficnat;0fhBUT fipqat;0fjBUT fipqat;0riBUT fipqat;0roBUT fipqat;0fiuewzaw;0DOES fiCONTAIN AS uewz;0fiuewzawdocnat;0DOES fiCONTAIN AS uewzdocn;0bhvz;0MIDLINE covz;0biaigvvz;0bqaigvvz;0tvawaadrcoba;3bhbnAT igawcoba;0actvawaabhbnAT igawcoba;0tvawaaaraj;3rg;0actvawaarg;0tvawaali;3alcoSTROKES
0vtaadrcoba;2bhbnAT igawcoba;0acvtaabhbnAT igawcoba;0vtaarg;0acvtaarg;0Z woBAG MEMBERSHIP;0DIAMETER af;0ELECTRIC ah;0HOUSE;0biel;0bqel;0PROJECTIVE;0PERSPECTIVE;0WAVY ee;0akus;0aius;0aktw;0aitw;0jcaiCROP;1akCROP;0hiaiCROP;1akCROP;0ebfiaf;0bzrd;0ARC;0SEGMENT;0SECTOR;0suRECORDER;0POSITION wf;0VIEWDATA bz;0PLACE awINTEREST af;0dqfiaf;0WATCH;0HOURGLASS;0hiakjf;1aijf;0jcakjf;1aijf;0hibsnh;0jcbsnh;0FROWN;0SMILE;0bielojalcoBARS;0OPTION KEY;0ERASE atidai;0X fpA xtkn;0KEYBOARD;0mvfybw;0lnfybw;0ERASE atidak;0BENZENE cv;0CYLINDRICITY;0ALL AROUND-PROFILE;0SYMMETRY;0TOTAL RUNOUT;0DIMENSION ORIGIN;0CONICAL TAPER;0SLOPE;0COUNTERBORE;0COUNTERSINK;0APL FUNCTIONAL bbI-BEAM;3SQUISH qp;3qpcn;4DIVIDE;4hs;4JOT;4cb;3cbSTILE;4JOT;3pkbn;3xkbn;3qppk;4xk;4fh;4fj;3bpVANE;3beVANE;3qpbpah;4beah;3cbxk;3bqivli;3muSTILE;3qpbqts;4mu;3bqivJOT;3dfVANE;3qpdfah;3biivrg;3DEL STILE;3qpbits;4DEL;3biivJOT;3cxVANE;3qpcxah;3QUOTE li;3muli;3hsli;3JOT li;3cbli;3biSHOE JOT;3QUOTE qp;3cbfk;3qpje;3biivec;3DEL ec;3fkec;3JOT ec;3cbec
3bqSHOE STILE;3akSHOE STILE;3ctec;3fjec;3febn;3DEL ct;3ZILDE;3STILE ct;3srli;3qpficn;4kb;3bqtsct;3bitsct;3jl;3kr;3ic;3ixli;3kuli;3jlli;3icli;3ix;0firxaq;0aifyaacxxiah;0SHOULDERED dnkn;0BELL bb;0bheeaabgar;0INSERTION bb;0CONTINUOUS UNDERLINE bb;0DISCONTINUOUS UNDERLINE bb;0EMPHASIS bb;0COMPOSITION bb;0axbzaafmbhee;0ENTER bb;0ALTERNATIVE KEY bb;0HELM bb;0ftcobnaaNOTCH;1czbq;0BROKEN cbaaNORTHWEST ah;0UNDO bb;0MONOSTABLE bb;0HYSTERESIS bb;0OPEN-CIRCUIT-OUTPUT H-TYPE bb;1L-TYPE bb;0PASSIVE-PULL-DOWN-OUTPUT bb;0PASSIVE-PULL-UP-OUTPUT bb;0DIRECT CURRENT bbadal;0SOFTWARE-FUNCTION bb;0APL FUNCTIONAL bbqp;0DECIMAL jnKEY bb;0PREVIOUS PAGE;0NEXT PAGE;0PRINT SCREEN bb;0CLEAR SCREEN bb;0akhedmaz;2wb;2cyaz;0aihedmaz;2wb;2cyaz;0akbzbwdmjf;3wb;3cyjf;0aibzbwdmjf;3wb;3cyjf;0akktbwdmaz;3bgPIECE;3cyaz;0ktbwwb;0aiktbwdmaz;3bgPIECE;3cyaz;0nhwb;0coeewb;0dmakdocyaiktbwlp;1aidocyakktbwlp;0SUMMATION hi;1jc;0hibzbw;0jcbzbw;3cfhibzbw;0RADICAL bbjc;0akbhknee;0aibhknee;0coSCAN LINE-1;2LINE-3;2LINE-7;2LINE-9
0DENTISTRY bbcpbhaghiai;5jcai;4aacb;3bqagcoaacb;3biagcoaacb;3bhaacz;3bqagcoaacz;3biagcoaacz;3bhagmn;3bqagcoaamn;3biagcoaamn;3bqagco;3biagco;3bhaghiak;5jcak;0bzFOOT;0RETURN bb;0EJECT bb;0bheewb;0METRICAL fn;1drcfge;1gecfdr;1drcfalSHORTS;1alSHORTS cfdr;3JOINED;1TRISEME;1TETRASEME;1PENTASEME;0qmGROUND;0FUSE;0hihe;0jche;0hiktbw;0jcktbw;0hioglqbw;0jcoglqbw;0axTRAPEZIUM;0BENZENE cvaacb;0STRAIGHTNESS;0FLATNESS;0AC CURRENT;0ELECTRICAL on;0DECIMAL EXPONENT bb;0aulnapcz;1mvapcz;1quapcz;1ryapcz;1lnapczaabhbn;1mvapczaabhbn;1lnczaaapbhbn;0ALARM CLOCK;0STOPWATCH;0TIMER CLOCK;0HOURGLASS aaFLOWING SAND;0audemvcz;2lncz;2qucz;2rycz;0apbhbn;0aubzhxei;1cbhxRECORD;0POWER bb;1ON-OFF bb;1ezbb;1SLEEP bb;0OBSERVER EYE bb;0bbhxNULL;2START awHEADING;4TEXT;2igawTEXT;4zz;2ENQUIRY;2ACKNOWLEDGE;2BELL;2BACKSPACE;2coss;2eeFEED;2bhss;2adFEED;2CARRIAGE RETURN;2SHIFT OUT;3fp;2DATA LINK ESCAPE;2DEVICE uvam;4al;4as;4ay;2pfACKNOWLEDGE;2SYNCHRONOUS IDLE;2igawzzfg;2CANCEL;2igawde;2SUBSTITUTE;2ESCAPE;2FILE jn;2GROUP jn
2RECORD jn;2UNIT jn;2mj;2DELETE;0BLANK bb;0dnkn;0bbhxNEWLINE;2DELETE adal;2SUBSTITUTE adal;=2440;0OCR az;1CHAIR;1FORK;1euFORK;1BELT BUCKLE;1BOW TIE;1BRANCH BANK IDENTIFICATION;1AMOUNT awrx;1hc;1CUSTOMER ACCOUNT ey;1apxk;=2460;0ftcuam;2al;2as;2ay;2bc;2bj;2br;2bk;2bv;1eyds;2rz;2qt;2xd;2wd;2td;2uj;2ww;2uy;2wn;2ho;0ztcuam;2al;2as;2ay;2bc;2bj;2br;2bk;2bv;1eyds;2rz;2qt;2xd;2wd;2td;2uj;2ww;2uy;2wn;2ho;0cuamgdei;1algdei;1asgdei;1aygdei;1bcgdei;1bjgdei;1brgdei;1bkgdei;1bvgdei;0eydsgdei;1rzgdei;1qtgdei;1xdgdei;1wdgdei;1tdgdei;1ujgdei;1wwgdei;1uygdei;1wngdei;1hogdei;0ztgbacabA;4B;4C;4D;4E;4F;4G;4H;4I;4J;4K;4L;4M;4N;4O;4P;4Q;4R;4S;4T;4U;4V;4W;4X;4Y;4Z;0ftgbaeabA;4B;4C;4D;4E;4F;4G;4H;4I;4J;4K;4L;4M;4N;4O;4P;4Q;4R;4S;4T;4U;4V;4W;4X;4Y;4Z;2acabA;4B;4C;4D;4E;4F;4G;4H;4I;4J;4K;4L;4M;4N;4O;4P;4Q;4R;4S;4T;4U;4V;4W;4X;4Y;4Z;1cudj;0pffteyrz;3qt;3xd;3wd;3td;3uj;3ww;3uy;3wn;3ho;0apftcuam;3al;3as;3ay;3bc;3bj;3br;3bk;3bv;2eyds;0pfftcudj;0knDRAWINGS cpco;2bfco;2cpbh;2bfbh;2cpgshcco;2bfgshcco;2cpgshcbh;2bfgshcbh
2cptihcco;2bftihcco;2cptihcbh;2bftihcbh;2cpbqagai;2bqcpagaibf;3bfagaicp;2bfbqagai;2cpbqagak;2bqcpagakbf;3bfagakcp;2bfbqagak;2cpbiagai;2bicpagaibf;3bfagaicp;2bfbiagai;2cpbiagak;2bicpagakbf;3bfagakcp;2bfbiagak;2cpbhagai;2bhcpagaibf;2bibfagaibqcp;2bqbfagaibicp;2bhbfagaicp;2bqcpagaibibf;2bicpagaibqbf;2bfbhagai;2cpbhagak;2bhcpagakbf;2bibfagakbqcp;2bqbfagakbicp;2bhbfagakcp;2bqcpagakbibf;2bicpagakbqbf;2bfbhagak;2cpbqagco;2akbfagaibqcp;2aibfagakbqcp;2bqcpagcobf;3bfagcocp;2aicpagakbqbf;2akcpagaibqbf;2bfbqagco;2cpbiagco;2akbfagaibicp;2aibfagakbicp;2bicpagcobf;3bfagcocp;2aicpagakbibf;2akcpagaibibf;2bfbiagco;2cpbhagco;2akbfagaibhcp;2aibfagakbhcp;2bhcpagcobf;2bibfagbqcocp;2bqbfagbicocp;2bhbfagcocp;2akbibfagaibqcp;2aibibfagakbqcp;2akbqbfagaibicp;2aibqbfagakbicp;2bqcpagbicobf;2bicpagbqcobf;2aicpagakbhbf;2akcpagaibhbf;2bfbhagco;2cpaphcco;2bfaphcco;2cpaphcbh;2bfaphcbh;2apco;3bh;2bqehagaiap;3apagaieh;2apbqagai;2bqehagakap;3apagakeh;2apbqagak;2biehagaiap;3apagaieh;2apbiagai;2biehagakap;3apagakeh
2apbiagak;2bhehagaiap;3apagaieh;2apbhagai;2bhehagakap;3apagakeh;2apbhagak;2bqehagcoap;3apagcoeh;2apbqagco;2biehagcoap;3apagcoeh;2apbiagco;2bhehagcoap;3apagcoeh;2apbhagco;2cpARC bqagai;6ak;4biagak;6ai;3gvdmaiatcyak;5akatcyai;4gr;3ak;3bi;3ai;3bq;2bfak;3bi;3ai;3bq;2cpakagbfai;3biagbfbq;2bfakagcpai;3biagcpbq;0dmbsfg;0cyamkofg;2jbfg;1aspofg;1bsfg;1bcpofg;1aspzfg;1brpofg;0gdfg;0akbrpofg;1aspzfg;1bcpofg;1bsfg;1aspofg;1amjbfg;2kofg;0aibsfg;0cpqb;0deqb;0DARK qb;0dmamkofg;0aiamkofg;0pycyak;2ai;1dmak;3agcyakagcyai;5ai;4dmaiagcyak;8ai;2ai;3agcyak;6agcyai;0aubz;0axbz;2aaugCORNERS;2xlauacbz;0bzaacoqn;2bhqn;2ORTHOGONAL CROSSHATCH qn;2dmakatcyaiqn;3aiatcyakqn;2gvCROSSHATCH qn;0auacbz;0axacbz;0auxt;0axxt;0aubhxt;0axbhxt;0auPARALLELOGRAM;0axPARALLELOGRAM;0auqucz;0axqucz;0auquaccz;0axquaccz;0aulncz;0axlncz;0aulnaccz;0axlnaccz;0aulnPOINTER;0axlnPOINTER;0aurycz;0axrycz;0auryaccz;0axryaccz;0aumvcz;0axmvcz;0aumvaccz;0axmvaccz;0aumvPOINTER;0axmvPOINTER;0auhs;0axhs;2xlauachs;0FISHEYE;0rd;0axcb;0hzcb;0cbaabhqn
0BULLSEYE;0aucb;0cbaaakbsau;2aibsau;2cybsau;2dmbsau;3aipyau;2ALL BUT dmakpyau;0akbsaucb;0aibsaucb;0tyqg;1axcb;0dmbstyaxcb;0cybstyaxcb;0dmakpyCIRCULAR ARC;1aipyCIRCULAR ARC;0cyaipyCIRCULAR ARC;1akpyCIRCULAR ARC;0dmbscb;0cybscb;0aucyaicz;2akcz;1dmakcz;2aicz;0axqg;0bzaaakbsau;2aibsau;2dmakgvbsau;2cyaigvbsau;0axbzaabhBISECTING ee;1quczaaar;0quczaaakbsau;3aibsau;0epcb;0axbzaadmakpy;3cyakpy;4aipy;3dmaipy;1cbaadmakpy;3cyakpy;4aipy;3dmaipy;0dmakcz;1aicz;0cyakcz;0axdebz;0audebz;0axdeacbz;0audeacbz;0cyaicz;0auSUN aaRAYS;0CLOUD;0UMBRELLA;0SNOWMAN;0COMET;0aufk;0axfk;0LIGHTNING;0THUNDERSTORM;0SUN;0ASCENDING NODE;0DESCENDING NODE;0CONJUNCTION;0OPPOSITION;0ausu;0axsu;0BALLOT kn;2aarx;3X;0tj;0UMBRELLA aaRAIN DROPS;0HOT BEVERAGE;0axSHOGI PIECE;0auSHOGI PIECE;0SHAMROCK;0ebfbFLORAL jxqg;0auakexcm;1aiexcm;0axakexcm;1biexcm;1aiexcm;1bqexcm;0SKULL agCROSSBONES;0CAUTION af;0RADIOACTIVE af;0BIOHAZARD af;0CADUCEUS;0ANKH;0ORTHODOX gr;0lkkr;0grawLORRAINE;2JERUSALEM;0fkagyd;0FARSI bb;0ADI SHAKTI;0HAMMER agSICKLE
0PEACE bb;0YIN sy;0TRIGRAM hxHEAVEN;2LAKE;2FIRE;2THUNDER;2WIND;2rr;2wl;2qm;0WHEEL awDHARMA;0axFROWNING by;1orby;0auorby;0axSUN aaRAYS;0FIRST jbkx;0LAST jbkx;0MERCURY;0FEMALE af;0qm;0MALE af;0JUPITER;0SATURN;0URANUS;0NEPTUNE;0PLUTO;0ARIES;0TAURUS;0GEMINI;0CANCER;0LEO;0VIRGO;0LIBRA;0SCORPIUS;0SAGITTARIUS;0CAPRICORN;0AQUARIUS;0PISCES;0axjdnz;2ph;2so;2rw;2kg;2sl;0aujdnz;2ph;2so;2rw;2kg;2sl;1SPADE SUIT;0axjxSUIT;1hsSUIT;0auCLUB SUIT;0axSPADE SUIT;0aujxSUIT;1hsSUIT;0axCLUB SUIT;0HOT SPRINGS;0jbmw;0komw;0BEAMED koNOTES;1ytNOTES;0MUSIC FLAT af;1NATURAL af;1SHARP af;0fxSYRIAC gr;0faSYRIAC gr;0UNIVERSAL RECYCLING bb;0RECYCLING bbhxTYPE-1 xs;3TYPE-2 xs;3TYPE-3 xs;3TYPE-4 xs;3TYPE-5 xs;3TYPE-6 xs;3TYPE-7 xs;3GENERIC MATERIALS;0auUNIVERSAL RECYCLING bb;0RECYCLED PAPER bb;0PARTIALLY-RECYCLED PAPER bb;0PERMANENT PAPER af;0WHEELCHAIR bb;0DIE FACE-1;1FACE-2;1FACE-3;1FACE-4;1FACE-5;1FACE-6;0axcbaaarai;3alcc;0aucbaaaxarai;3alaxcc;0yqhxsy;2YIN;0DIGRAM hxGREATER sy;2LESSER YIN;3sy;2GREATER YIN;0axsb;0ausb
0HAMMER agPICK;0ANCHOR;0qySWORDS;0STAFF awAESCULAPIUS;0SCALES;0ALEMBIC;0FLOWER;0GEAR;0STAFF awHERMES;0ATOM bb;0FLEUR-DE-LIS;0xraxfk;0asLINES CONVERGING ai;3ak;0WARNING af;0dzVOLTAGE af;0DOUBLED FEMALE af;1MALE af;0INTERLOCKED FEMALE agMALE af;0MALE agFEMALE af;1aabaaf;3agMALE agFEMALE af;0bhMALE aabaaf;0coMALE aabaaf;0deaxcb;1aucb;1acaxcb;0MARRIAGE bb;0DIVORCE bb;0UNMARRIED PARTNERSHIP bb;0COFFIN;0FUNERAL URN;0NEUTER;0CERES;0PALLAS;0JUNO;0VESTA;0CHIRON;0aukxLILITH;0SEXTILE;0SEMISEXTILE;0QUINCUNX;0SESQUIQUADRATE;0SOCCER rv;0BASEBALL;0irKEY;0axDRAUGHTS mr;2nz;0auDRAUGHTS mr;2nz;0SNOWMAN WITHOUT SNOW;0SUN BEHIND CLOUD;0RAIN;0auSNOWMAN;0THUNDER CLOUD agRAIN;0dqaxSHOGI PIECE;1auSHOGI PIECE;0axhsfpbz;0jhLANES;0DISABLED CAR;0OPHIUCHUS;0PICK;0CAR SLIDING;0HELMET aaaxgr;0ftjhLANES;0CHAINS;0hmENTRY;0luONE-WAY akWAY TRAFFIC;0auTWO-WAY akWAY TRAFFIC;0axTWO-WAY akWAY TRAFFIC;0auakLANE MERGE;0axakLANE MERGE;0DRIVE SLOW af;0bfaxrycz;0akinENTRY;0irtj;0xmgvfpaxcbfpaubz;0auTRUCK;0RESTRICTED akENTRY-1
2ENTRY-2;0ASTRONOMICAL bbhxURANUS;0bfcbaabaagalccaj;0PENTAGRAM;0RIGHT-HANDED INTERLACED PENTAGRAM;0LEFT-HANDED INTERLACED PENTAGRAM;0euPENTAGRAM;0augrezSHIELD;0SHINTO SHRINE;0CHURCH;0CASTLE;0HISTORIC SITE;0GEAR WITHOUT HUB;1aaHANDLES;0MAP bbhxLIGHTHOUSE;0wl;0UMBRELLA ezGROUND;0FOUNTAIN;0sbfpHOLE;0FERRY;0SAILBOAT;0bzayCORNERS;0SKIER;0ICE SKATE;0pgaarv;0TENT;0xoBANK bb;0HEADSTONE GRAVEYARD bb;0FUEL PUMP;0CUP ezaubz;0axsbaacobgauSTRIPE;0auSAFETY yr;0dmBLADE yr;0auyr;0cyBLADE yr;0axyr;1bfrxaq;0suLOCATION af;0TAPE DRIVE;0xj;0uz;0kzFIST;1jj;0VICTORY jj;0WRITING jj;0cyaiPENCIL;0PENCIL;0dmaiPENCIL;0axNIB;0auNIB;0rxaq;0bfrxaq;0tgX;0bftgX;0BALLOT X;0bfBALLOT X;0xrlegr;0bflegr;0dnfmgr;0bfdnfmgr;0gbgr;0rmaxgbgr;0xrgbgr;0MALTESE gr;0fkawDAVID;0ayxygq;1BALLOON-SPOKED gq;0bfayBALLOON-SPOKED gq;0ayCLUB-SPOKED gq;0auayiqfk;0axayiqfk;0SPARKLES;0STRESS xraxfk;0ftaxfk;0dnfmaufk;0aufmaxfk;0xraufk;0bfxraufk;0vifk;0rmaxfk;0bfgq;0dnfmgq;0bkoegq;1iqaufk;2vifk;0bjiqaufk;0bkiqRECTILINEAR aufk
0bfbkiqRECTILINEAR aufk;0qtiqaufk;0ujiqgq;0xygq;0dnfmxygq;0bfxygq;0bjPETALLED auagaxFLORETTE;0auFLORETTE;0axFLORETTE;0bkPETALLED xrauFLORETTE;0ftdnfmbkiqfk;0bfxyvigq;0SNOWFLAKE;0TIGHT TRIFOLIATE SNOWFLAKE;0bfCHEVRON SNOWFLAKE;0SPARKLE;0bfSPARKLE;0BALLOON-SPOKED gq;0bkxyPROPELLER gq;0bfbkxyPROPELLER gq;0graq;0rmaxcb;0pfirgraq;0cyaiDROP-SHADOWED axbz;0dmaiDROP-SHADOWED axbz;0cyairmaxbz;0dmairmaxbz;0aukbaqgc;0axkbaqgc;1kvaqgc;0auhsobaxX;0bfkvaqbb;0cpbhbn;0debhbn;0bfbhbn;1ehdqfejsaqgc;2fejsaqgc;1apdqfejsaqgc;2fejsaqgc;1dcehfejsaqgc;2apfejsaqgc;0tbSTEM zhafgc;0bfkvaqgc;1jxkvaqgc;1aujx;0fbbfaujxqg;0FLORAL jx;0fbFLORAL jxqg;0deakhegc;1aihegc;1FLATTENED akhegc;2aihegc;1mvfybwgc;1lnfybwgc;0bfmvfyjsaqgc;1lnfyjsaqgc;1mvfybwgc;1lnfybwgc;0cpakoglqbwgc;1aioglqbwgc;0deakktbwgc;1aiktbwgc;0DINGBAT pfftcuam;4al;4as;4ay;4bc;4bj;4br;4bk;4bv;3eyds;1ftmbcuam;4al;4as;4ay;4bc;4bj;4br;4bk;4bv;3eyds;1pfftmbcuam;5al;5as;5ay;5bc;5bj;5br;5bk;5bv;4eyds;0bfWIDE-HEADED beah;1boaf;1obaf;1vwaf;1hbfaah;1beah;1glfaah
0DRAFTING rhbeah;0bfROUND-TIPPED beah;0ejbeah;0bfejbeah;0qzejbeah;0bfqzejbeah;0aubeah;0THREE-D TOP-LIGHTED beel;1BOTTOM-LIGHTED beel;0aubeel;0bfautbcxagbeah;3dfagbeah;0SQUAT aubeah;0bfCONCAVE-POINTED aubeah;0RIGHT-SHADED axbeah;0LEFT-SHADED axbeah;0BACK-TILTED rmaxbeah;0FRONT-TILTED rmaxbeah;0bfcyzxaxbeah;1dmzxaxbeah;0vgcyzxaxbeah;0ktoa;0vgdmzxaxbeah;0ftbfaxbeah;0WHITE-FEATHERED beah;0BLACK-FEATHERED hbfaah;1beah;1glfaah;0bfBLACK-FEATHERED hbfaah;2beah;2glfaah;0TEARDROP-BARBED beah;0bfTEARDROP-SHANKED beah;0WEDGE-TAILED beah;0bfWEDGE-TAILED beah;0OPEN-OUTLINED beah;0apktoa;0asDIMENSIONAL fy;0axczxlacaxcz;0PERPENDICULAR;0dnlc;1lt;0akS-SHAPED BAG DELIMITER;0aiS-SHAPED BAG DELIMITER;0doaaarng;0mglrPRECEDING lc;0ltPRECEDING lr;0bhbnaacoba;0yprlgv;0drvw;0ypxmgv;0irrcag;2do;0axhsaavqar;0agaaar;0tvawOPENING df;0cyaijfaaar;0dmakjfaaar;0akOUTER JOIN;0aiOUTER JOIN;0gdOUTER JOIN;0epbiiv;1bqiv;0akagaiapxg;3iv;1MULTIMAP;0draiiv;1akiv;0biivaacbaj;0rdDIVIDED BY coRULE;0axCONCAVE-SIDED hs;3aabpTICK
4beTICK;1bzaabpTICK;3beTICK;0ypakaxbzbw;1aiaxbzbw;1akfybw;1aifybw;1akapfybw;1aiapfybw;1akaxoglqbw;1aiaxoglqbw;1akFLATTENED he;1aiFLATTENED he;0dftiah;0cxtiah;0noGAPPED cbah;0qxGAPPED cbah;0aiahaaftbo;0drbpah;1beah;1akaiah;1bpapah;1beapah;1akaiapah;1bpahjibn;1beahjibn;1bpapahjibn;1beapahjibn;2SQUIGGLE ah;0BRAILLE PATTERN BLANK;2DOTS-1;2DOTS-2;2DOTS-12;2DOTS-3;2DOTS-13;2DOTS-23;2DOTS-123;2DOTS-4;2DOTS-14;2DOTS-24;2DOTS-124;2DOTS-34;2DOTS-134;2DOTS-234;2DOTS-1234;2DOTS-5;2DOTS-15;2DOTS-25;2DOTS-125;2DOTS-35;2DOTS-135;2DOTS-235;2DOTS-1235;2DOTS-45;2DOTS-145;2DOTS-245;2DOTS-1245;2DOTS-345;2DOTS-1345;2DOTS-2345;2DOTS-12345;2DOTS-6;2DOTS-16;2DOTS-26;2DOTS-126;2DOTS-36;2DOTS-136;2DOTS-236;2DOTS-1236;2DOTS-46;2DOTS-146;2DOTS-246;2DOTS-1246;2DOTS-346;2DOTS-1346;2DOTS-2346;2DOTS-12346;2DOTS-56;2DOTS-156;2DOTS-256;2DOTS-1256;2DOTS-356;2DOTS-1356;2DOTS-2356;2DOTS-12356;2DOTS-456;2DOTS-1456;2DOTS-2456;2DOTS-12456;2DOTS-3456;2DOTS-13456;2DOTS-23456;2DOTS-123456;2DOTS-7;2DOTS-17;2DOTS-27;2DOTS-127
2DOTS-37;2DOTS-137;2DOTS-237;2DOTS-1237;2DOTS-47;2DOTS-147;2DOTS-247;2DOTS-1247;2DOTS-347;2DOTS-1347;2DOTS-2347;2DOTS-12347;2DOTS-57;2DOTS-157;2DOTS-257;2DOTS-1257;2DOTS-357;2DOTS-1357;2DOTS-2357;2DOTS-12357;2DOTS-457;2DOTS-1457;2DOTS-2457;2DOTS-12457;2DOTS-3457;2DOTS-13457;2DOTS-23457;2DOTS-123457;2DOTS-67;2DOTS-167;2DOTS-267;2DOTS-1267;2DOTS-367;2DOTS-1367;2DOTS-2367;2DOTS-12367;2DOTS-467;2DOTS-1467;2DOTS-2467;2DOTS-12467;2DOTS-3467;2DOTS-13467;2DOTS-23467;2DOTS-123467;2DOTS-567;2DOTS-1567;2DOTS-2567;2DOTS-12567;2DOTS-3567;2DOTS-13567;2DOTS-23567;2DOTS-123567;2DOTS-4567;2DOTS-14567;2DOTS-24567;2DOTS-124567;2DOTS-34567;2DOTS-134567;2DOTS-234567;2DOTS-1234567;2DOTS-8;2DOTS-18;2DOTS-28;2DOTS-128;2DOTS-38;2DOTS-138;2DOTS-238;2DOTS-1238;2DOTS-48;2DOTS-148;2DOTS-248;2DOTS-1248;2DOTS-348;2DOTS-1348;2DOTS-2348;2DOTS-12348;2DOTS-58;2DOTS-158;2DOTS-258;2DOTS-1258;2DOTS-358;2DOTS-1358;2DOTS-2358;2DOTS-12358;2DOTS-458;2DOTS-1458;2DOTS-2458;2DOTS-12458;2DOTS-3458;2DOTS-13458;2DOTS-23458
2DOTS-123458;2DOTS-68;2DOTS-168;2DOTS-268;2DOTS-1268;2DOTS-368;2DOTS-1368;2DOTS-2368;2DOTS-12368;2DOTS-468;2DOTS-1468;2DOTS-2468;2DOTS-12468;2DOTS-3468;2DOTS-13468;2DOTS-23468;2DOTS-123468;2DOTS-568;2DOTS-1568;2DOTS-2568;2DOTS-12568;2DOTS-3568;2DOTS-13568;2DOTS-23568;2DOTS-123568;2DOTS-4568;2DOTS-14568;2DOTS-24568;2DOTS-124568;2DOTS-34568;2DOTS-134568;2DOTS-234568;2DOTS-1234568;2DOTS-78;2DOTS-178;2DOTS-278;2DOTS-1278;2DOTS-378;2DOTS-1378;2DOTS-2378;2DOTS-12378;2DOTS-478;2DOTS-1478;2DOTS-2478;2DOTS-12478;2DOTS-3478;2DOTS-13478;2DOTS-23478;2DOTS-123478;2DOTS-578;2DOTS-1578;2DOTS-2578;2DOTS-12578;2DOTS-3578;2DOTS-13578;2DOTS-23578;2DOTS-123578;2DOTS-4578;2DOTS-14578;2DOTS-24578;2DOTS-124578;2DOTS-34578;2DOTS-134578;2DOTS-234578;2DOTS-1234578;2DOTS-678;2DOTS-1678;2DOTS-2678;2DOTS-12678;2DOTS-3678;2DOTS-13678;2DOTS-23678;2DOTS-123678;2DOTS-4678;2DOTS-14678;2DOTS-24678;2DOTS-124678;2DOTS-34678;2DOTS-134678;2DOTS-234678;2DOTS-1234678;2DOTS-5678;2DOTS-15678;2DOTS-25678;2DOTS-125678;2DOTS-35678
2DOTS-135678;2DOTS-235678;2DOTS-1235678;2DOTS-45678;2DOTS-145678;2DOTS-245678;2DOTS-1245678;2DOTS-345678;2DOTS-1345678;2DOTS-2345678;2DOTS-12345678;0betmahaabhba;4apbhba;0bpapahaabhba;0beapahaabhba;0akaiapahaabhba;0betmahjibn;0bpapahjibn;0beapahjibn;0cxahaacoba;0dfahaacoba;1gsah;0cxgsah;0bpaphcah;0beaphcah;0bpgshcah;0begshcah;1tmgshcah;1ahaahzSTEM;0dfahatbn;0cxahatbn;0beahaafsaabhba;5apbhba;1tmahaafs;5aabhba;6apbhba;0bpARROW-TAIL;0beARROW-TAIL;0bpapARROW-TAIL;0beapARROW-TAIL;0bpahatauhs;0beahatauhs;0bpahjibnatauhs;0beahjibnatauhs;0glfxaghbfaah;1faaghbfxah;1fxahaaaz;1faahaaaz;0hbfaahaaaz;1fxahaaaz;0glfxahagglfaah;1faahaghbfaah;0hbfaahaghbfxah;1fxahagglfxah;0rlgvjhxmgv;0xmgvjhrlgv;0hbfaahjhglfaah;0glfaahjhhbfaah;0xmgvjhglfaah;0rlgvjhhbfaah;0glfaahjhglfxah;1fxahjhglfaah;0mnahexDIRECTLY ai;0ahexbeTHEN CURVING df;5cx;2cxTHEN CURVING bp;5be;0RIGHT-SIDE ARC qxah;0LEFT-SIDE ARC noah;0hiARC noah;0jcARC noah;0hiARC qxahaaob;2noahaabo;0cyaiSEMICIRCULAR qxah;1akSEMICIRCULAR noah;0noincbah
0qxincbah;0beahajgebpah;0bpahajgebeah;0gebeahajbpah;0beahaaboan;0bpahaaboan;0beahqsX;0akaiahqsaccb;0dftmahjiaccb;0akdbbiaidbbqfo;2bqaidbbifo;0bidbaibqdbakfo;2akbqdbaifo;0akdbbiaidbbifo;0bidbaibqdbaifo;0akdbbqaidbbqfo;0bidbakbqdbakfo;0bpfoaadbbiatbn;0befoaadbbiatbn;0dffoaadbaiatbn;0cxfoaadbaiatbn;0bpfoaadbbqatbn;0befoaadbbqatbn;0dffoaadbakatbn;0cxfoaadbakatbn;0bpfoaadbbijibn;0befoaadbbijibn;0dffoaadbaijibn;0cxfoaadbaijibn;0bpfoaadbbqjibn;0befoaadbbqjibn;0dffoaadbakjibn;0cxfoaadbakjibn;0bpfoaadbbiajbpfoaadbbq;0dffoaadbaktqdffoaadbai;0befoaadbbiajbefoaadbbq;0cxfoaadbaktqcxfoaadbai;0bpfoaadbbiajbefoaadbbi;4bqajbefoaadbbq;0befoaadbbiajbpfoaadbbi;4bqajbpfoaadbbq;0bpfoaadbbiajdrhc;4bqandrhc;0befoaadbbiajdrhc;4bqandrhc;0dffoaadbaktqcxfoaadbai;0cxfoaadbaktqdffoaadbai;0aiapahaaugnf;0ioafajbeah;0ctgyajbeah;0bpahajctgy;0beahajctgy;3ovcnat;0fhajbpah;0bpahqsfh;0fjajbeah;0lcajbeah;0bpahqslc;0ltajbpah;0akFISH fs;0aiFISH fs;0biFISH fs;0bqFISH fs;0gsbhbnDELIMITER;0Z woSPOT;2TYPE je;0akaxktbw;0aiaxktbw
0akaxhe;0aiaxhe;0Z woakIMAGE bw;2aiIMAGE bw;2akBINDING bw;2aiBINDING bw;0akbzbwaali;0aibzbwaali;0akbzbwaaTICK fphijf;0aibzbwaaTICK fpjcjf;0akbzbwaaTICK fpjcjf;0aibzbwaaTICK fphijf;0akfybwaaar;0aifybwaaar;0akARC fhbw;0aiARC fjbw;0apakARC fjbw;1aiARC fhbw;0akauoglqbw;0aiauoglqbw;0hzFENCE;0bhxiee;0MEASURED fyOPENING ak;0aifymmaabz;0MEASURED aifyaaar;0fyaaS ng;0ddfy;0SPHERICAL fyOPENING ak;3bi;0dqfy;0ebfy;0fyaali;0ebfyaali;0pwfyOPENING bi;3bq;0MEASURED fyaadnARM ENDING fpahexbiagai;9biagak;9bqagai;9bqagak;9aiagbi;9akagbi;9aiagbq;9akagbq;0ebEMPTY SET;0EMPTY SET aarg;3accbaj;3aiahaj;3akahaj;0cbaacobn;0ftbhbn;1ws;1mglr;1PERPENDICULAR;0cbDIVIDED BY cobnaghibsDIVIDED BY bhbn;1aaSUPERIMPOSED X;0ftANTICLOCKWISE-ROTATED vwaf;0biahqscb;0ftaxqg;1qg;1fh;1fj;0cbaaaccbatidai;2alcoSTROKES atidai;0irrlgvpk;1xmgvpk;1gq;1accb;1bz;0alJOINED SQUARES;0czaaaraj;2li;0S fpcz;0czaaSERIFS AT jc;0aiczajakcz;0akcztqbhbn;0bhbntqaicz;0BOWTIE aaakbsau;2aibsau;0auBOWTIE;0blaaakbsau;2aibsau;0axHOURGLASS;0auHOURGLASS
0akWIGGLY FENCE;0aiWIGGLY FENCE;0akapWIGGLY FENCE;0aiapWIGGLY FENCE;0INCOMPLETE yl;0TIE cfyl;0ylNEGATED aabhbn;0DOUBLE-ENDED MULTIMAP;0bzaaCONTOURED OUTLINE;0INCREASES AS;0SHUFFLE rj;0ioafagmiws;5aactaj;0IDENTICAL atagmiws;0GLEICH STARK;0THERMODYNAMIC;0ryczaaakbsau;3aibsau;0auhsaabqah;1rd;0axcbaabqah;0aucbaabqah;0ERROR-BARRED axbz;1aubz;1axhs;1auhs;1axcb;1aucb;0RULE-DELAYED;0mglrgy;0lraarg;0mglraacoba;0BIG lr;1mglr;0apbo;0gsbo;0mvtbfybw;0lntbfybw;0TINY;0MINY;0N-ARY ftargy;2bogy;2blgy;1ougyaaar;4bo;1bzongy;2ougy;0alrcaggy;2dogy;0N-ARY blgy;0MODULO alSUM;0SUMMATION aanh;0tinhgy;0FINITE PART nh;0nhaaapba;1AVERAGE aapk;0CIRCULATION FUNCTION;0noINTEGRATION;0eeINTEGRATION aaRECTANGULAR PATH AROUND POLE;3SEMICIRCULAR PATH AROUND POLE;2fiINCLUDING idPOLE;0nhAROUND A rhgy;0QUATERNION nhgy;0nhaabpahaaaz;2blaf;2on;2ou;2rg;2li;0JOIN;0epakczgy;0Z woSCHEMA COMPOSITION;3PIPING;3PROJECTION;0boafaaaccbaj;3dthvaj;3ctaj;3aran;3ctan;3xwal;3aucz;0obafaafeaj;3aran;3xmcc;3rlcc;0boaffpakbscb;3aibscb
0VECTOR dogrrj;0tgafaaaraj;3li;0zlrjaajcin;0SMASH rj;0tgaffpakbscb;3aibscb;0fttgafaadthv;0tgaffpapcb;0ftvwaf;0boaffpcz;0obaffpcz;0tgaffpcz;0INTERIOR rj;0RIGHTHAND INTERIOR rj;0Z woRELATIONAL COMPOSITION;0AMALGAMATION doCOPRODUCT;0onaaar;0ouaaobaf;2rg;0onaarg;2rcag;0ouaarcdo;1ajon;0onajou;0ouajbnajon;0onajbnajou;0outqagJOINED aaou;0ontqagJOINED aaon;0inouaaSERIFS;1onaaSERIFS;0apbzon;2ou;0inouaaSERIFS agSMASH rj;0rcagaaaraj;1doaaaraj;0aprcag;2do;0alINTERSECTING rcag;3do;0SLOPING epdo;2ag;0rcdoOVERLAPPING rcag;1agaabgSTEM;1doaabgSTEM;1agaacohc;1doaacohc;1agaaaprg;3li;3apli;0acVEE aali;0rcdoaaaprg;4li;0Z woDOMAIN ANTIRESTRICTION;2RANGE ANTIRESTRICTION;0ioafaaaran;0IDENTICAL aaaraj;0gscobnaaapbhba;4gsbhba;0ctgyaaaraj;3rlcc;0xvobxv;0CONGRUENT aaaraj;0ioaagq;0ovcnataadthv;0yzcndocnat;0ioafajboaf;0boafajioaf;0ioafajctgy;0apjecn;0alCONSECUTIVE ioSIGNS;0asCONSECUTIVE ioSIGNS;0ioafaaalccajagalccan;0pqaaayccaj;0fhaacbng;0fjaacbng;0fhaakbaqaj;0fjaakbaqaj;0fhdomicnat;0fjdomicnat;0fhdomicnataaarng
0fjdomicnataaarng;0fhdomicnataaaraj;0fjdomicnataaaraj;0fhdomicnataaarajai;0fjdomicnataaarajak;0fhdoAPPROXIMATE;0fjdoAPPROXIMATE;0fhagysficnat;0fjagysficnat;0fhagfiAPPROXIMATE;0fjagfiAPPROXIMATE;0fhajyfcnajfj;0fjajyfcnajfh;0fhajxvdocn;0fjajxvdocn;0fhajxvajfj;0fjajxvajfh;0fhajfjajyfcn;0fjajfhajyfcn;0fhajmicnajfjajmicn;0fjajmicnajfhajmicn;0micnatdofh;4fj;4fhaaarng;4fjaaarng;0yfcnatdofh;4fj;1micnatdofh;5fj;0xvdofh;2fj;1ajfhajioaf;2fjajioaf;0apNESTED fh;2fj;2fhaali;0fjOVERLAPPING fh;1tqfh;0fhinBY nq;0fjinBY nq;0fhinBY nqajmicn;0fjinBY nqajmicn;0SMALLER THAN;0LARGER THAN;0SMALLER THAN docnat;0LARGER THAN docnat;0ioafaaBUMPY aj;0riajysioaf;0roajysioaf;0riajysficnat;0roajysficnat;0riajioaf;0roajioaf;0riajficnat;0roajficnat;0riajovcnat;0roajovcnat;0riajfiovcnat;0roajfiovcnat;0apri;1ro;0lcaaar;0ltaaar;0lcaaboafan;0ltaaboafan;0lcaatgafan;0ltaatgafan;0lcawdocnataaaraj;0ltawdocnataaaraj;0lcawajioaf;0ltawajioaf;0lcawajctgy;0ltawajctgy;0lcawajovcnat;0ltawajovcnat;0lcawajficnat;0ltawajficnat
0bzakdnkngy;1aidnkngy;0inlc;1lt;1lcdocnat;1ltdocnat;0lcajlt;0ltajlc;0lcajlc;0ltajlt;1tqlc;2agJOINED BY hcaalc;0tvawOPENING cx;0PITCHFORK aaTEE hi;0TRANSVERSAL on;0FORKING;0NONFORKING;0geakiv;1bqiv;1biiv;0PERPENDICULAR aaS;0bhbngsaixg;0apbhbnakxg;0bhbnapakxg;0apbhbnapakxg;0drhcjiakMEMBER awapbh;0gebqivaarg;1biivaali;3ajgebqiv;0apbqiv;1biiv;1bafiaf;0ebapbafiaf;0DOES fiDIVIDE aaebNEGATION pk;0bheeaacbaj;4an;0bqivaacban;0wsaacoba;2ctgy;0gsbhbnBINARY RELATION;3aacoba;1jegy;1NESTED fh;2fj;0yfmifhdocnat;2fjdocnat;0gslrBINARY RELATION;0epgsbhbngy;0aplrgy;0axbhbn;0N-ARY axbhbn;0glfaaxah;1fxaxah;0hbfaaxah;1fxaxah;0akaiaxah;0bpauah;0dfauah;0cxauah;0glfaauah;1fxauah;0hbfaauah;1fxauah;0akaiauah;0bibqauah;0beahaaTIP cx;4df;0bpahaaTIP cx;4df;0bzaahibsau;2jcbsau;2dmaigvbsau;2cyakgvbsau;0hsaaakbsau;2aibsau;2hibsau;2jcbsau;0hzbz;0auepbz;0axepbz;0auklacbz;0axklacbz;0auPENTAGON;0axPENTAGON;1HEXAGON;0auHEXAGON;0coauHEXAGON;0auepcb;1dehs;0axdehs;0auderd;0axderd;0auachs;2rd;0axacrd;0aucoELLIPSE;0axcoELLIPSE
0aubhELLIPSE;0axbhELLIPSE;0akahaaaccb;0asbpow;0akahaaftbo;0drbpSQUIGGLE ah;0bptmahaabhba;4apbhba;3jibn;2gshcah;1ahaahzSTEM;3fsaabhba;5apbhba;1tmahaafs;5aabhba;6apbhba;1ahqsX;0mnahexDIRECTLY ak;0ioafajbpah;0mgctgyajbpah;0bpahajmgovcnat;0beahqsfj;3lt;0bptiah;0betiah;0mgctgyajbeah;0beahajmgovcnat;0ctgyajbpah;0bpahajovcnat;3mgctgy;0beahajmgctgy;0cxejxiah;0gemiglah;1BACKSLANTED hbah;0axdefk;0auacfk;0axacfk;0aulnPENTAGON;0axlnPENTAGON;0bfepcb;1OVAL aaOVAL ng;1cbaacbng;2;1fttj;0miglahaaHOOKED nf;0BACKSLANTED hbahaaHOOKED fs;0miglahaacofs;0BACKSLANTED hbahaacofs;0joahexcxTHEN glfa;0gejoahexcxTHEN glfa;0bpejah;0dfejah;0beejah;0cxejah;0akaiejah;0bibqejah;0glfxejah;1faejah;0hbfaejah;1fxejah;0bpejqzah;0dfejqzah;0beejqzah;0cxejqzah;0qxejdncbah;0noejdncbah;0bpejahatbn;0dfejahatbn;0beejahatbn;0cxejahatbn;=2B76;0glfxejahatbn;1faejahatbn;0hbfaejahatbn;1fxejahatbn;0bpejahaaapcoba;0dfejahaaapcoba;0beejahaaapcoba;0cxejahaaapcoba;0coTAB KEY;0bhTAB KEY;0bpejahcfbeejah;0dfejahbpawcxejah;0beejahcfbpejah
0cxejahbpawdfejah;0bpejwrow;0dfejwrow;0beejwrow;0cxejwrow;0bpauftaxah;0dfauftaxah;0beauftaxah;0cxauftaxah;0noejaiU-SHAPED ah;2jcU-SHAPED ah;2akU-SHAPED ah;2hiU-SHAPED ah;0RETURN ak;1ai;0NEWLINE ak;1ai;0ayjfowCIRCLING no;0beauah;=2B97;0bbhxTYPE A ELECTRONICS;0THREE-D TOP-LIGHTED bpllel;1RIGHT-LIGHTED dfllel;1TOP-LIGHTED bellel;1LEFT-LIGHTED cxllel;0aubpllel;1dfllel;1bellel;1cxllel;0cxejahaadrTIP bp;6be;0dfejahaadrTIP bp;6be;0bpejahaadrTIP df;0beejahaadrTIP df;0bpejahaadrTIP cx;0beejahaadrTIP cx;0autbcxagbpah;4beah;2dfagbpah;4beah;2bpagdfah;2beagdfah;2bpagcxah;2beagcxah;0RIBBON ahbqak;3ai;2biak;3ai;2akbi;2aibi;2akbq;2aibq;0dfaxahjibnaacobn;0bielfpA xtkn;0OVERLAPPING axSQUARES;2agauSQUARES;1auSQUARES;0BALLOT knaacpX;0ftX;1jvX;0aubzvq;1hsvq;0dqauPENTAGON;0coauOCTAGON;0auOCTAGON;1dequczvq;2ryczvq;2mvczvq;2lnczvq;0NEPTUNE adal;0hibsaucb;0jcbsaucb;0cpayiqauCUSP;0fbcpayiqauCUSP;0axayiqCUSP;0fbaxayiqCUSP;0bzPOSITION wf;0UNCERTAINTY af;0GROUP aq;0PLUTO adal;2as;2ay;2bc;0TRANSPLUTO;0PROSERPINA
0ASTRAEA;0HYGIEA;0PHOLUS;0NESSUS;0axkxSELENA;0auhsezgr;0TRUE cpkxARTA;0CUPIDO;0HADES;0ZEUS;0KRONOS;0APOLLON;0ADMETOS;0VULCANUS;0POSEIDON;0akbsaufk;0aibsaufk;0fkaaakbsau;2aibsau;0bptmahaaczARROWHEADS;0dftmahaaczARROWHEADS;0betmahaaczARROWHEADS;0cxtmahaaczARROWHEADS;0ERIS adam;2al;0SEDNA;0RUSSIAN ASTROLOGICAL bbVIGINTILE;3NOVILE;3QUINTILE;3BINOVILE;3SENTAGON;3TREDECILE;0ioafaaylan;0UNITED bb;0SEPARATED bb;0DOUBLED bb;0PASSED bb;0ebaify;0HELLSCHREIBER PAUSE bb;0GLAGOLITIC aeabAZU;3BUKY;3VEDE;3GLAGOLI;3DOBRO;3YESTU;3ZHIVETE;3DZELO;3ZEMLJA;3IZHE;3bdIZHE;3I;3DJERVI;3KAKO;3LJUDIJE;3MYSLITE;3NASHI;3ONU;3POKOJI;3RITSI;3SLOVO;3TVRIDO;3UKU;3FRITU;3HERU;3OTU;3gp;3SHTA;3TSI;3CHRIVI;3eg;3YERU;3YERI;3YATI;3SPIDERY bu;3ii;3ackc;5aafs;3YO;3IOTATED ackc;3BIG kc;3IOTATED BIG kc;3FITA;3IZHITSA;3SHTAPIC;3TROKUTASTI A;3LATINATE MYSLITE;3CAUDATE CHRIVI;1acabAZU;3BUKY;3VEDE;3GLAGOLI;3DOBRO;3YESTU;3ZHIVETE;3DZELO;3ZEMLJA;3IZHE;3bdIZHE;3I;3DJERVI;3KAKO;3LJUDIJE;3MYSLITE;3NASHI;3ONU;3POKOJI;3RITSI;3SLOVO;3TVRIDO
3UKU;3FRITU;3HERU;3OTU;3gp;3SHTA;3TSI;3CHRIVI;3eg;3YERU;3YERI;3YATI;3SPIDERY bu;3ii;3ackc;5aafs;3YO;3IOTATED ackc;3BIG kc;3IOTATED BIG kc;3FITA;3IZHITSA;3SHTAPIC;3TROKUTASTI A;3LATINATE MYSLITE;3CAUDATE CHRIVI;0gbaeabL aaapbn;1acabL aaapbn;1aeabL aabgct;3P aaba;3R aafs;1acabA aaba;3T aagvba;1aeabH aahr;1acabH aahr;1aeabK aahr;1acabK aahr;1aeabZ aahr;1acabZ aahr;1aeabix;3M aaaz;3dqA;4ix;1acabV aaaiaz;1aeabW aaaz;1acabW aaaz;3V aamc;1aeabbsH;1acabbsH;3TAILLESS lg;3E aaNOTCH;3dqR aafs;3O aadccvng;1abacaedqE;1xwacabJ;0jrabaeV;0gbaeabS aaSWASH fs;3Z aaSWASH fs;0ldaeabALFA;1acabALFA;1aeabVIDA;1acabVIDA;1aeabmd;1acabmd;1aeabDALDA;1acabDALDA;1aeabEIE;1acabEIE;1aeabSOU;1acabSOU;1aeabZATA;1acabZATA;1aeabHATE;1acabHATE;1aeabTHETHE;1acabTHETHE;1aeabIAUDA;1acabIAUDA;1aeabKAPA;1acabKAPA;1aeabLAULA;1acabLAULA;1aeabMI;1acabMI;1aeabNI;1acabNI;1aeabKSI;1acabKSI;1aeabO;1acabO;1aeabhf;1acabhf;1aeabRO;1acabRO;1aeabSIMA;1acabSIMA;1aeabof;1acabof;1aeabUA;1acabUA;1aeabFI;1acabFI;1aeabKHI;1acabKHI;1aeabop
1acabop;1aeabOOU;1acabOOU;1aeabvvcl;1acabvvcl;1aeabfvldiw;1acabfvldiw;1aeabuxEIE;1acabuxEIE;1aeabvvKAPA;1acabvvKAPA;1aeabvvNI;1acabvvNI;1aeabuxNI;1acabuxNI;1aeabfvldOOU;1acabfvldOOU;1aeabSAMPI;1acabSAMPI;1aeabqySHEI;1acabqySHEI;1aeabfvldSHEI;1acabfvldSHEI;1aeabfvldnr;1acabfvldnr;1aeabAKHMIMIC KHEI;1acabAKHMIMIC KHEI;1aeabvvHORI;1acabvvHORI;1aeabfvldHORI;1acabfvldHORI;1aeabfvldbu;1acabfvldbu;1aeabL-SHAPED bu;1acabL-SHAPED bu;1aeabfvldHEI;1acabfvldHEI;1aeabfvldHAT;1acabfvldHAT;1aeabfvldGANGIA;1acabfvldGANGIA;1aeabfvldDJA;1acabfvldDJA;1aeabfvldSHIMA;1acabfvldSHIMA;1aeabfvvhSHIMA;1acabfvvhSHIMA;1aeabfvvhNGI;1acabfvvhNGI;1aeabfvvhNYI;1acabfvvhNYI;1aeabfvvhWAU;1acabfvvhWAU;1bbKAI;2MI RO;2hfRO;2STAUROS;2ofRO;2KHI RO;2SHIMA SIMA;1aeabuxSHEI;1acabuxSHEI;1aeabuxGANGIA;1acabuxGANGIA;1hwNI aj;2SPIRITUS ASPER;3LENIS;1aeabBOHAIRIC KHEI;1acabBOHAIRIC KHEI;=2CF9;1fvvhgdei;3DIRECT kbaq;3INDIRECT kbaq;3VERSE DIVIDER;1neambs;1gdei;1MORPHOLOGICAL DIVIDER;0GEORGIAN acabiy;3BAN;3GAN;3DON;3gi;3VIN;3ZEN;3TAN
3fp;3KAN;3LAS;3mr;3NAR;3ez;3PAR;3ZHAR;3RAE;3SAN;3TAR;3UN;3PHAR;3KHAR;3GHAN;3QAR;3jt;3CHIN;3CAN;3JIL;3CIL;3CHAR;3XAN;3JHAN;3HAE;3hl;3HIE;3WE;3HAR;3HOE;=2D27;3YN;=2D2D;3AEN;=2D30;0TIFINAGH abck;2YAB;2YABH;2YAG;2YAGHH;2BERBER ACADEMY YAJ;2YAJ;2YAD;2YADH;2YADD;2YADDH;2YEY;2YAF;2YAK;2TUAREG YAK;2YAKHH;2YAH;2BERBER ACADEMY YAH;2TUAREG YAH;2YAHH;2YAA;2YAKH;2TUAREG YAKH;2YAQ;2TUAREG YAQ;2YI;2YAZH;2AHAGGAR YAZH;2TUAREG YAZH;2YAL;2YAM;2YAN;2TUAREG YAGN;3sy;2YAP;2ii;2YAR;2YARR;2YAGH;2TUAREG YAGH;2AYER YAGH;2YAS;2YASS;2YASH;2YAT;2YATH;2YACH;2YATT;2YAV;2YAW;2YAY;2YAZ;2TAWELLEMET YAZ;2YAZZ;2YE;2YO;=2D6F;1jrabLABIALIZATION aq;1jnaq;=2D7F;1lvJOINER;0ETHIOPIC otLOA;2MOA;2ROA;2SOA;2SHOA;2BOA;2TOA;2COA;2NOA;2NYOA;2keOA;2ZOA;2DOA;2DDOA;2JOA;2THOA;2CHOA;2PHOA;2POA;2GGWA;2GGWI;2GGWEE;2GGWE;=2DA0;2hn;2SSU;2SSI;2SSAA;2SSEE;2SSE;2SSO;=2DA8;2CCA;2CCU;2CCI;2CCAA;2CCEE;2CCE;2CCO;=2DB0;2ZZA;2ZZU;2ZZI;2ZZAA;2ZZEE;2ZZE;2ZZO;=2DB8;2CCHA;2CCHU;2CCHI;2CCHAA;2CCHEE;2CCHE;2CCHO;=2DC0;2QYA;2QYU;2QYI;2QYAA;2QYEE;2QYE;2QYO
=2DC8;2KYA;2KYU;2KYI;2KYAA;2KYEE;2KYE;2KYO;=2DD0;2XYA;2XYU;2XYI;2XYAA;2XYEE;2XYE;2XYO;=2DD8;2GYA;2GYU;2GYI;2GYAA;2GYEE;2GYE;2GYO;=2DE0;0hwqiabBE;3VE;3nv;3DE;3ZHE;3ZE;3bx;3EL;3EM;3gi;3O;3gp;3ER;3ES;3il;3bu;3TSE;3lj;3eg;3SHCHA;3FITA;3ES-TE;3A;3IE;3DJERV;3MONOGRAPH UK;3YAT;3ii;3pcA;3fqkc;3BIG kc;3pcBIG kc;0aifyyvwk;2hzyvwk;0akyvbw;0aiyvbw;0akhzyvbw;0aihzyvbw;0kzINTERPOLATION wk;1hzINTERPOLATION wk;0hzTRANSPOSITION wk;0akTRANSPOSITION bw;0aiTRANSPOSITION bw;0kzbz;0akkzOMISSION bw;0aikzOMISSION bw;0EDITORIAL CORONIS;0PARAGRAPHOS;0FORKED PARAGRAPHOS;0ebFORKED PARAGRAPHOS;0HYPODIASTOLE;0hzOBELOS;0cxANCORA;0dfANCORA;0hzlnfy;0appwsd;0euzd;0PALM BRANCH;0sdaaec;0ctaacvaj;0akdcPARAPHRASE bw;0aidcPARAPHRASE bw;0ctaaaraj;3an;0akbhbnaaQUILL;0aibhbnaaQUILL;0hiakbsbw;1aibsbw;0jcakbsbw;1aibsbw;0akvkU bw;0aivkU bw;0akaphe;0aiaphe;0alcccfamarha;0amarcfalccha;0irayarha;0bcaraq;0ebkbaq;0bhct;0cvrh;0qdjnbgar;0dqfe;0kzar;1fe;0dqsr;0DAGGER aaakGUARD;2aiGUARD;0dqDAGGER;0hibslpaf;0TWO-EM hc;0THREE-EM hc
0STENOGRAPHIC gdei;0bhbjcc;0WIGGLY bhee;0CAPITULUM;0apsd;0ebfe;0apLOW-REVERSED-9 jsaq;0hcaaakUPTURN;0apSUSPENSION aq;0eudcKAVYKA;3aaKAVYKA aj;0dcKAVYKA;2aaar;0apSTACKED fe;0hzlr;0gsDAGGER;0MEDIEVAL fe;0PARAGRAPHUS aq;0PUNCTUS ELEVATUS aq;0CORNISH VERSE DIVIDER;0grPATTY aaaiCROSSBAR;3akCROSSBAR;0TIRONIAN afaeET;0MEDIEVAL kvaq;1kbaq;0akbzbwaaba;0aibzbwaaba;0akbzbwaaapba;0aibzbwaaapba;0hibsakhe;2aihe;0jcbsakhe;2aihe;0pwsd;=2E80;0CJK RADICAL REPEAT;2CLIFF;2SECOND am;3al;3as;2pg;2kn;2TABLE;2KNIFE am;3al;2DIVINATION;2SEAL;2acam;3al;2LAME am;3al;3as;3ay;2SNAKE;2THREAD;2SNOUT am;3al;2jxam;3al;2jj;2RAP;=2E9B;2CHOKE;2SUN;2kx;2DEATH;2MOTHER;2CIVILIAN;2rram;3al;2FIRE;2PAW am;3al;2SIMPLIFIED bsTREE TRUNK;2COW;2DOG;2JADE;2BOLT awCLOTH;2EYE;2SPIRIT am;3al;2BAMBOO;2SILK;2pmSILK;2NET am;3al;3as;3ay;2MESH;2SHEEP;2RAM;2EWE;2fv;2BRUSH am;3al;2MEAT;2MORTAR;2GRASS am;3al;3as;2TIGER;2CLOTHES;2fxam;3al;2pmSEE;2SIMPLIFIED is;2is;2pmSPEECH;3lq;2FOOT;2pmCART;2SIMPLIFIED WALK;2WALK am;3al;2CITY;2pmGOLD;2dram;3al
2pmdr;3GATE;2MOUND am;3al;2RAIN;2BLUE;2pmTANNED LEATHER;3me;3WIND;3FLY;2EAT am;3al;3as;2pmEAT;2nf;2pmHORSE;2BONE;2GHOST;2pmFISH;3BIRD;3SALT;2SIMPLIFIED WHEAT;3YELLOW;2pmFROG;2zrEVEN;2pmEVEN;2zrTOOTH;2pmTOOTH;2zrvy;2pmvy;2TURTLE;2zrTURTLE;2pmTURTLE;=2F00;0KANGXI RADICAL am;2ee;2ar;2pk;2SECOND;2az;2al;2LID;2mr;2LEGS;2ENTER;2bk;2bqkn;2COVER;2ICE;2TABLE;2dnkn;2KNIFE;2POWER;2WRAP;2SPOON;2aidnkn;2HIDING ENCLOSURE;2ds;2DIVINATION;2SEAL;2CLIFF;2PRIVATE;2AGAIN;2ms;2ENCLOSURE;2qm;2SCHOLAR;2GO;3SLOWLY;2EVENING;2BIG;2WOMAN;2CHILD;2ROOF;2INCH;2ac;2LAME;2CORPSE;2SPROUT;2wl;2RIVER;2WORK;2ONESELF;2TURBAN;2DRY;2geTHREAD;2hzCLIFF;2drSTRIDE;2alHANDS;2SHOOT;2BOW;2SNOUT;2BRISTLE;2STEP;2jx;2HALBERD;2DOOR;2jj;2BRANCH;2RAP;2lo;2DIPPER;2AXE;2bz;2fi;2SUN;2SAY;2kx;2TREE;2LACK;2ei;2DEATH;2WEAPON;2DO fi;2COMPARE;2FUR;2CLAN;2STEAM;2rr;2FIRE;2CLAW;2FATHER;2apX;2bsTREE TRUNK;2SLICE;2FANG;2COW;2DOG;2PROFOUND;2JADE;2MELON;2TILE;2SWEET;2LIFE;2USE;2FIELD;2BOLT awCLOTH;2SICKNESS;2hzTENT;2ax;2SKIN;2lx;2EYE;2SPEAR;2ah
2STONE;2SPIRIT;2TRACK;2GRAIN;2CAVE;2STAND;2BAMBOO;2RICE;2SILK;2JAR;2NET;2SHEEP;2FEATHER;2fv;2ag;2PLOW;2EAR;2BRUSH;2MEAT;2MINISTER;2SELF;2ARRIVE;2MORTAR;2TONGUE;2OPPOSE;2BOAT;2STOPPING;2COLOR;2GRASS;2TIGER;2INSECT;2BLOOD;2WALK ENCLOSURE;2CLOTHES;2fx;2SEE;2is;2SPEECH;2VALLEY;2BEAN;2PIG;2BADGER;2lq;2RED;2RUN;2FOOT;2BODY;2CART;2BITTER;2MORNING;2WALK;2CITY;2WINE;2DISTINGUISH;2VILLAGE;2GOLD;2dr;2GATE;2MOUND;2SLAVE;2geTAILED BIRD;2RAIN;2BLUE;2WRONG;2by;2LEATHER;2TANNED LEATHER;2LEEK;2os;2me;2WIND;2FLY;2EAT;2nf;2FRAGRANT;2HORSE;2BONE;2TALL;2HAIR;2FIGHT;2SACRIFICIAL WINE;2CAULDRON;2GHOST;2FISH;2BIRD;2SALT;2DEER;2WHEAT;2HEMP;2YELLOW;2MILLET;2au;2EMBROIDERY;2FROG;2TRIPOD;2DRUM;2RAT;2NOSE;2EVEN;2TOOTH;2vy;2TURTLE;2FLUTE;=2FF0;0psDESCRIPTION oyakatai;3ajatan;3akatbgagai;3ajatbgagan;3gdSURROUND;3SURROUND jiaj;5an;5ak;5dmak;6ai;5cyak;3OVERLAID;=3000;1mj;1fe;1gdei;0DITTO aq;0xoINDUSTRIAL STANDARD bb;0pstzaq;1CLOSING aq;1eydj;0akfybw;0aifybw;0akapfybw;0aiapfybw;0akjfbw;0aijfbw;0akaxjfbw;0aiaxjfbw
0akauvebw;0aiauvebw;0POSTAL aq;0GETA aq;0akoglqbw;0aioglqbw;0akaxvebw;0aiaxvebw;0akaxoglqbw;0aiaxoglqbw;0akaxbzbw;0aiaxbzbw;0mnhc;0ebapsnjsaq;0apsnjsaq;0dcapsnjsaq;0POSTAL aqby;0HANGZHOU ufam;2al;2as;2ay;2bc;2bj;2br;2bk;2bv;0psLEVEL dvaq;1rldvaq;1DEPARTING dvaq;1ENTERING dvaq;0txehardvaq;1apardvaq;0WAVY hc;0bhKANA REPEAT aq;3aauoosaq;3aqdmbs;3aauoosaqdmbs;3aqcybs;0ftPOSTAL aq;0psTELEGRAPH eeFEED jnbb;0HANGZHOU ufds;2ho;2mk;0bhpstzaq;0MASU aq;0PART ALTERNATION aq;0psVARIATION wf;1bsqnmj;=3041;0ykabacA;2A;2acI;2I;2acU;2U;2acE;2E;2acO;2O;2bx;2da;2KI;2GI;2KU;2GU;2KE;2GE;2KO;2GO;2cr;2gn;2SI;2ZI;2SU;2ZU;2SE;2ZE;2SO;2ZO;2cs;2cw;2TI;2DI;2acTU;2TU;2DU;2il;2DE;2at;2DO;2cj;2NI;2NU;2NE;2hm;2bu;2dh;2ca;2HI;2BI;2hf;2HU;2BU;2PU;2hl;2BE;2gp;2HO;2BO;2PO;2ci;2MI;2ia;2ME;2MO;2acck;2ck;2acii;2ii;2acYO;2YO;2cd;2RI;2RU;2RE;2RO;2acen;2en;2WI;2WE;2WO;2N;2VU;2acbx;3KE;=3099;0hwzeuoosaq;2SEMI-VOICED osaq;0zeuoosaq;1SEMI-VOICED osaq;0yktzaq;1uotzaq;1kdYORI;0zeapsd;0tfabacA;2A;2acI;2I;2acU;2U;2acE;2E;2acO;2O;2bx
2da;2KI;2GI;2KU;2GU;2KE;2GE;2KO;2GO;2cr;2gn;2SI;2ZI;2SU;2ZU;2SE;2ZE;2SO;2ZO;2cs;2cw;2TI;2DI;2acTU;2TU;2DU;2il;2DE;2at;2DO;2cj;2NI;2NU;2NE;2hm;2bu;2dh;2ca;2HI;2BI;2hf;2HU;2BU;2PU;2hl;2BE;2gp;2HO;2BO;2PO;2ci;2MI;2ia;2ME;2MO;2acck;2ck;2acii;2ii;2acYO;2YO;2cd;2RI;2RU;2RE;2RO;2acen;2en;2WI;2WE;2WO;2N;2VU;2acbx;3KE;2fw;2VI;2VE;2VO;1bgar;0zePROLONGED osaq;0tftzaq;1uotzaq;1kdKOTO;=3105;0BOPOMOFO abB;2P;2M;2F;2D;2T;2N;2L;2G;2K;2H;2J;2Q;2X;2ZH;2CH;2SH;2R;2Z;2C;2S;2A;2O;2E;2EH;2dw;2EI;2ed;2OU;2iy;2gi;2ANG;2ENG;2ER;2I;2U;2IU;2V;2NG;2GN;2IH;2O aaaraj;2NN;=3131;0txabwh;2SSANGKIYEOK;2KIYEOK-SIOS;2NIEUN;2NIEUN-CIEUC;2NIEUN-HIEUH;2xf;2SSANGTIKEUT;2RIEUL;2zv;2RIEUL-MIEUM;2RIEUL-PIEUP;2RIEUL-SIOS;2RIEUL-THIEUTH;2RIEUL-PHIEUPH;2RIEUL-HIEUH;2MIEUM;2PIEUP;2SSANGPIEUP;2PIEUP-SIOS;2SIOS;2SSANGSIOS;2vb;2uu;2SSANGCIEUC;2vr;2wg;2xc;2wu;2HIEUH;2A;2AE;2ck;2YAE;2EO;2E;2YEO;2YE;2O;2en;2WAE;2ht;2YO;2U;2WEO;2WE;2WI;2ii;2EU;2YI;2I;1va;1abSSANGNIEUN;2NIEUN-TIKEUT;2NIEUN-SIOS;2NIEUN-PANSIOS;2RIEUL-KIYEOK-SIOS
2RIEUL-TIKEUT;2RIEUL-PIEUP-SIOS;2RIEUL-PANSIOS;2RIEUL-YEORINHIEUH;2MIEUM-PIEUP;2MIEUM-SIOS;2MIEUM-PANSIOS;2KAPYEOUNMIEUM;2PIEUP-KIYEOK;2PIEUP-TIKEUT;2PIEUP-SIOS-KIYEOK;2PIEUP-SIOS-TIKEUT;2PIEUP-CIEUC;2PIEUP-THIEUTH;2KAPYEOUNPIEUP;2KAPYEOUNSSANGPIEUP;2SIOS-KIYEOK;2SIOS-NIEUN;2SIOS-TIKEUT;2SIOS-PIEUP;2SIOS-CIEUC;2PANSIOS;2SSANGIEUNG;2YESIEUNG;2YESIEUNG-SIOS;2YESIEUNG-PANSIOS;2KAPYEOUNPHIEUPH;2SSANGHIEUH;2YEORINHIEUH;2YO-YA;2YO-YAE;2YO-I;2YU-YEO;2YU-YE;2YU-I;2ARAEA;2ARAEAE;=3190;0psANNOTATION LINKING aq;2mgaq;2amaq;2alaq;2asaq;2ayaq;2hiaq;2bgaq;2jcaq;2FIRST aq;2SECOND aq;2rqaq;2FOURTH aq;2HEAVEN aq;2qmaq;2mraq;0BOPOMOFO abBU;2ZI;2JI;2GU;2hd;2ENN;2gm;2ONN;2IR;2ANN;2INN;2UNN;2IM;2NGG;2AINN;2AUNN;2AM;2OM;2ONG;2INNN;1aoabP;3T;3K;3H;1abGH;2LH;2ZY;1aoabG;1abGW;2KW;2ht;2AH;0CJK baT;2WG;2XG;2BXG;2SW;2HZZ;2HZG;2HP;2HZWG;2SZWG;2HZT;2HZZP;2HPWG;2HZW;2HZZZ;2N;2H;2S;2P;2SP;2D;2HZ;2HG;2SZ;2SWZ;2ST;2SG;2PD;2PZ;2TN;2SZZ;2SWG;2HXWG;2HZZZG;2PG;2Q;=31F0;0tfabacKU;3SI;3SU;3at;3NU;3bu;3HI;3HU;3hl;3HO;3ia;3cd
3RI;3RU;3RE;3RO;0zttxwh;2NIEUN;2xf;2RIEUL;2MIEUM;2PIEUP;2SIOS;2vb;2uu;2vr;2wg;2xc;2wu;2HIEUH;2whA;2NIEUN A;2xfA;2RIEUL A;2MIEUM A;2PIEUP A;2SIOS A;2vbA;2uuA;2vrA;2wgA;2xcA;2wuA;2HIEUH A;2uuU;1KOREAN oyOJEON;3O HU;=3220;1IDEOGRAPH am;2al;2as;2ay;2bc;2bj;2br;2bk;2bv;2ds;2kx;2FIRE;2rr;2WOOD;2METAL;2qm;2SUN;2STOCK;2HAVE;2SOCIETY;2NAME;2SPECIAL;2FINANCIAL;2CONGRATULATION;2LABOR;2REPRESENT;2CALL;2STUDY;2SUPERVISE;2ENTERPRISE;2RESOURCE;2ALLIANCE;2FESTIVAL;2od;2SELF;2REACH;0ftIDEOGRAPH kb;2KINDERGARTEN;2SCHOOL;2KOTO;1eydsezaubz;2hoezaubz;2mkezaubz;2nsezaubz;2izezaubz;2oqezaubz;2itezaubz;2ppezaubz;0PARTNERSHIP af;0fteyhoam;3al;3as;3ay;3bc;3bj;3br;3bk;3bv;2mk;3am;3al;3as;3ay;3bc;1txwh;2NIEUN;2xf;2RIEUL;2MIEUM;2PIEUP;2SIOS;2vb;2uu;2vr;2wg;2xc;2wu;2HIEUH;2whA;2NIEUN A;2xfA;2RIEUL A;2MIEUM A;2PIEUP A;2SIOS A;2vbA;2uuA;2vrA;2wgA;2xcA;2wuA;2HIEUH A;1KOREAN oyCHAMKO;3JUEUI;1txvbU;0KOREAN STANDARD bb;0ftIDEOGRAPH am;2al;2as;2ay;2bc;2bj;2br;2bk;2bv;2ds;2kx;2FIRE;2rr;2WOOD;2METAL;2qm;2SUN;2STOCK;2HAVE
2SOCIETY;2NAME;2SPECIAL;2FINANCIAL;2CONGRATULATION;2LABOR;2SECRET;2MALE;2FEMALE;2SUITABLE;2EXCELLENT;2PRINT;2ATTENTION;2ITEM;2od;2COPY;2CORRECT;2dz;2fm;2dc;2ak;2ai;2MEDICINE;2RELIGION;2STUDY;2SUPERVISE;2ENTERPRISE;2RESOURCE;2ALLIANCE;2NIGHT;1eymkbj;3br;3bk;3bv;2ns;3am;3al;3as;3ay;3bc;3bj;3br;3bk;3bv;2iz;0psTELEGRAPH bbhxJANUARY;4FEBRUARY;4MARCH;4APRIL;4MAY;4JUNE;4JULY;4AUGUST;4SEPTEMBER;4OCTOBER;4NOVEMBER;4DECEMBER;0bzHG;1ERG;1EV;0LIMITED LIABILITY af;0fttfA;2I;2U;2E;2O;2bx;2KI;2KU;2KE;2KO;2cr;2SI;2SU;2SE;2SO;2cs;2TI;2TU;2il;2at;2cj;2NI;2NU;2NE;2hm;2bu;2HI;2HU;2hl;2HO;2ci;2MI;2ia;2ME;2MO;2ck;2ii;2YO;2cd;2RI;2RU;2RE;2RO;2en;2WI;2WE;2WO;0bzERA NAME REIWA;1APAATO;1ARUHUA;1ANPEA;1AARU;1ININGU;1INTI;1UON;1ESUKUUDO;1EEKAA;1ONSU;1OOMU;1KAIRI;1KARATTO;1KARORII;1GARON;1GANMA;1GIGA;1GINII;1KYURII;1GIRUDAA;1KIRO;1KIROGURAMU;1KIROMEETORU;1KIROWATTO;1GURAMU;1GURAMUTON;1KURUZEIRO;1KUROONE;1KEESU;1KORUNA;1KOOPO;1SAIKURU;1SANTIIMU;1SIRINGU;1SENTI;1SENTO;1DAASU;1DESI;1DORU;1TON;1NANO;1NOTTO;1HAITU
1PAASENTO;1PAATU;1BAARERU;1PIASUTORU;1PIKURU;1PIKO;1BIRU;1HUARADDO;1HUIITO;1BUSSYERU;1HURAN;1HEKUTAARU;1PESO;1PENIHI;1HERUTU;1PENSU;1PEEZI;1BEETA;1POINTO;1BORUTO;1HON;1PONDO;1HOORU;1HOON;1MAIKURO;1MAIRU;1MAHHA;1MARUKU;1MANSYON;1MIKURON;1MIRI;1MIRIBAARU;1MEGA;1MEGATON;1MEETORU;1YAADO;1YAARU;1YUAN;1RITTORU;1RIRA;1RUPII;1RUUBURU;1REMU;1RENTOGEN;1WATTO;0psTELEGRAPH bbhxHOUR dj;5am;5al;5as;5ay;5bc;5bj;5br;5bk;5bv;5ds;5rz;5qt;5xd;5wd;5td;5uj;5ww;5uy;5wn;5ho;5TWENTY-ONE;5TWENTY-TWO;5TWENTY-THREE;5TWENTY-FOUR;0bzHPA;1cw;1ed;1bn;1OV;1PC;1DM;2ir;2CUBED;1IU;1ERA NAME HEISEI;3SYOUWA;3TAISYOU;3MEIZI;1CORPORATION;1caAMPS;1cj;1iaA;1ci;1bx;1KB;1MB;1GB;1CAL;1KCAL;1PF;1NF;1iaF;2G;1MG;1KG;1HZ;1KHZ;1MHZ;1GHZ;1THZ;1iaL;1ML;1DL;1KL;1FM;1NM;1iaM;1MM;1CM;1KM;1MM ir;1CM ir;1M ir;1KM ir;1MM CUBED;1CM CUBED;1M CUBED;1KM CUBED;1M cfS;4ir;1ca;1KPA;1MPA;1GPA;1RAD;2cfS;4ir;1PS;1NS;1iaS;1MS;1PV;1NV;1iaV;1MV;1KV;1MV MEGA;1PW;1NW;1iaW;1MW;1KW;1MW MEGA;1K OHM;1M OHM;1AM;1BQ;1CC;1CD;1C cfKG;1CO;1DB;1GY;1bu;1HP;1fp;1KK
1KM ae;1KT;1LM;1LN;1LOG;1LX;1MB ac;1MIL;1MOL;1PH;1PM;1PPM;1PR;1SR;1SV;1WB;1V cfM;1A cfM;0psTELEGRAPH bbhxDAY am;5al;5as;5ay;5bc;5bj;5br;5bk;5bv;5ds;5rz;5qt;5xd;5wd;5td;5uj;5ww;5uy;5wn;5ho;5TWENTY-ONE;5TWENTY-TWO;5TWENTY-THREE;5TWENTY-FOUR;5TWENTY-FIVE;5TWENTY-SIX;5TWENTY-SEVEN;5TWENTY-EIGHT;5TWENTY-NINE;5mk;5THIRTY-ONE;0bzGAL;=4DC0;0HEXAGRAM hxidCREATIVE HEAVEN;3RECEPTIVE qm;2DIFFICULTY AT idBEGINNING;2YOUTHFUL FOLLY;2WAITING;2CONFLICT;2idARMY;2HOLDING TOGETHER;2acTAMING;2TREADING;2PEACE;2STANDSTILL;2FELLOWSHIP;2GREAT POSSESSION;2MODESTY;2ENTHUSIASM;2FOLLOWING;2WORK ezidDECAYED;2APPROACH;2CONTEMPLATION;2BITING qs;2GRACE;2SPLITTING APART;2RETURN;2INNOCENCE;2GREAT TAMING;2msCORNERS;2GREAT PREPONDERANCE;2idABYSMAL rr;3CLINGING FIRE;2INFLUENCE;2DURATION;2RETREAT;2GREAT POWER;2PROGRESS;2DARKENING awidcp;2idFAMILY;2OPPOSITION;2OBSTRUCTION;2DELIVERANCE;2DECREASE;2INCREASE;2BREAKTHROUGH;2COMING atMEET;2GATHERING TOGETHER;2PUSHING UPWARD;2OPPRESSION;2idWELL;2REVOLUTION;2idCAULDRON
3AROUSING THUNDER;3KEEPING STILL wl;2DEVELOPMENT;2idMARRYING MAIDEN;2ABUNDANCE;2idWANDERER;3GENTLE WIND;3JOYOUS LAKE;2DISPERSION;2LIMITATION;2INNER TRUTH;2acPREPONDERANCE;2AFTER COMPLETION;2BEFORE COMPLETION;=A000;0YI otIT;2IX;2I;2IP;2IET;2IEX;2IE;2IEP;2AT;2AX;2A;2AP;2UOX;2UO;2UOP;2OT;2OX;2O;2OP;2EX;2E;2WU;2BIT;2BIX;2BI;2BIP;2BIET;2BIEX;2BIE;2BIEP;2BAT;2BAX;2dh;2BAP;2BUOX;2BUO;2BUOP;2BOT;2kn;2BO;2BOP;2BEX;2BE;2BEP;2BUT;2BUX;2BU;2BUP;2BURX;2BUR;2BYT;2BYX;2BY;2BYP;2BYRX;2BYR;2PIT;2PIX;2hf;2PIP;2PIEX;2PIE;2PIEP;2PAT;2PAX;2ca;2PAP;2PUOX;2PUO;2PUOP;2POT;2POX;2PO;2POP;2PUT;2PUX;2PU;2PUP;2PURX;2PUR;2PYT;2PYX;2PY;2PYP;2PYRX;2PYR;2BBIT;2BBIX;2BBI;2BBIP;2BBIET;2BBIEX;2BBIE;2BBIEP;2BBAT;2BBAX;2BBA;2BBAP;2BBUOX;2BBUO;2BBUOP;2BBOT;2BBOX;2BBO;2BBOP;2BBEX;2BBE;2BBEP;2BBUT;2BBUX;2BBU;2BBUP;2BBURX;2BBUR;2BBYT;2BBYX;2BBY;2BBYP;2NBIT;2NBIX;2NBI;2NBIP;2NBIEX;2NBIE;2NBIEP;2NBAT;2NBAX;2NBA;2NBAP;2NBOT;2NBOX;2NBO;2NBOP;2NBUT;2NBUX;2NBU;2NBUP;2NBURX;2NBUR;2NBYT;2NBYX;2NBY;2NBYP;2NBYRX;2NBYR;2HMIT;2HMIX;2HMI
2HMIP;2HMIEX;2HMIE;2HMIEP;2HMAT;2HMAX;2HMA;2HMAP;2HMUOX;2HMUO;2HMUOP;2HMOT;2HMOX;2HMO;2HMOP;2HMUT;2HMUX;2HMU;2HMUP;2HMURX;2HMUR;2HMYX;2HMY;2HMYP;2HMYRX;2HMYR;2MIT;2MIX;2MI;2MIP;2MIEX;2MIE;2MIEP;2MAT;2MAX;2ci;2MAP;2MUOT;2MUOX;2MUO;2MUOP;2MOT;2MOX;2MO;2MOP;2MEX;2ME;2MUT;2MUX;2ia;2MUP;2MURX;2MUR;2MYT;2MYX;2MY;2MYP;2FIT;2FIX;2FI;2FIP;2FAT;2FAX;2hk;2FAP;2FOX;2FO;2FOP;2FUT;2FUX;2FU;2FUP;2FURX;2FUR;2FYT;2FYX;2FY;2FYP;2VIT;2VIX;2VI;2VIP;2VIET;2VIEX;2VIE;2VIEP;2VAT;2VAX;2fw;2VAP;2VOT;2VOX;2VO;2VOP;2VEX;2VEP;2VUT;2VUX;2VU;2VUP;2VURX;2VUR;2VYT;2VYX;2VY;2VYP;2VYRX;2VYR;2DIT;2DIX;2DI;2DIP;2DIEX;2DIE;2DIEP;2DAT;2DAX;2cw;2DAP;2DUOX;2DUO;2ar;2DOX;2DO;2DOP;2DEX;2DE;2DEP;2DUT;2DUX;2DU;2DUP;2DURX;2DUR;2TIT;2TIX;2TI;2TIP;2TIEX;2TIE;2TIEP;2TAT;2TAX;2cs;2TAP;2TUOT;2TUOX;2TUO;2TUOP;2TOT;2TOX;2at;2hi;2TEX;2il;2TEP;2TUT;2TUX;2TU;2TUP;2TURX;2TUR;2DDIT;2DDIX;2DDI;2DDIP;2DDIEX;2DDIE;2DDIEP;2DDAT;2DDAX;2gh;2DDAP;2DDUOX;2DDUO;2DDUOP;2DDOT;2DDOX;2DDO;2DDOP;2DDEX;2DDE;2DDEP;2DDUT;2DDUX;2DDU;2DDUP;2DDURX;2DDUR;2NDIT
2NDIX;2NDI;2NDIP;2NDIEX;2NDIE;2NDAT;2NDAX;2NDA;2NDAP;2NDOT;2NDOX;2NDO;2NDOP;2NDEX;2NDE;2NDEP;2NDUT;2NDUX;2NDU;2NDUP;2NDURX;2NDUR;2HNIT;2HNIX;2HNI;2HNIP;2HNIET;2HNIEX;2HNIE;2HNIEP;2HNAT;2HNAX;2HNA;2HNAP;2HNUOX;2HNUO;2HNOT;2HNOX;2HNOP;2HNEX;2HNE;2HNEP;2HNUT;2NIT;2NIX;2NI;2NIP;2NIEX;2NIE;2NIEP;2NAX;2cj;2NAP;2NUOX;2NUO;2NUOP;2fi;2NOX;2hm;2NOP;2NEX;2NE;2NEP;2NUT;2NUX;2NU;2NUP;2NURX;2NUR;2HLIT;2HLIX;2HLI;2HLIP;2HLIEX;2HLIE;2HLIEP;2HLAT;2HLAX;2HLA;2HLAP;2HLUOX;2HLUO;2HLUOP;2HLOX;2HLO;2HLOP;2HLEX;2HLE;2HLEP;2HLUT;2HLUX;2HLU;2HLUP;2HLURX;2HLUR;2HLYT;2HLYX;2HLY;2HLYP;2HLYRX;2HLYR;2LIT;2LIX;2LI;2LIP;2LIET;2LIEX;2LIE;2LIEP;2LAT;2LAX;2ch;2LAP;2LUOT;2LUOX;2LUO;2LUOP;2LOT;2LOX;2LO;2LOP;2LEX;2LE;2LEP;2LUT;2LUX;2LU;2LUP;2LURX;2LUR;2LYT;2LYX;2LY;2LYP;2LYRX;2LYR;2GIT;2GIX;2GI;2GIP;2GIET;2GIEX;2GIE;2GIEP;2GAT;2GAX;2da;2GAP;2GUOT;2GUOX;2GUO;2GUOP;2GOT;2GOX;2GO;2GOP;2GET;2GEX;2GE;2GEP;2GUT;2GUX;2GU;2GUP;2GURX;2GUR;2KIT;2KIX;2KI;2KIP;2KIEX;2KIE;2KIEP;2KAT;2KAX;2bx;2KAP;2KUOX;2KUO;2KUOP;2KOT;2KOX;2KO;2KOP
2KET;2KEX;2KE;2KEP;2KUT;2KUX;2KU;2KUP;2KURX;2KUR;2GGIT;2GGIX;2GGI;2GGIEX;2GGIE;2GGIEP;2GGAT;2GGAX;2GGA;2GGAP;2GGUOT;2GGUOX;2GGUO;2GGUOP;2GGOT;2GGOX;2GGO;2GGOP;2GGET;2GGEX;2GGE;2GGEP;2GGUT;2GGUX;2GGU;2GGUP;2GGURX;2GGUR;2MGIEX;2MGIE;2MGAT;2MGAX;2MGA;2MGAP;2MGUOX;2MGUO;2MGUOP;2MGOT;2MGOX;2MGO;2MGOP;2MGEX;2MGE;2MGEP;2MGUT;2MGUX;2MGU;2MGUP;2MGURX;2MGUR;2HXIT;2HXIX;2HXI;2HXIP;2HXIET;2HXIEX;2HXIE;2HXIEP;2HXAT;2HXAX;2HXA;2HXAP;2HXUOT;2HXUOX;2HXUO;2HXUOP;2HXOT;2HXOX;2HXO;2HXOP;2HXEX;2HXE;2HXEP;2NGIEX;2NGIE;2NGIEP;2NGAT;2NGAX;2ef;2NGAP;2NGUOT;2NGUOX;2NGUO;2NGOT;2NGOX;2NGO;2NGOP;2NGEX;2NGE;2NGEP;2HIT;2HIEX;2HIE;2HAT;2HAX;2bu;2HAP;2HUOT;2HUOX;2HUO;2HUOP;2HOT;2HOX;2HO;2HOP;2HEX;2hl;2HEP;2WAT;2WAX;2en;2WAP;2WUOX;2WUO;2WUOP;2WOX;2WO;2WOP;2WEX;2WE;2WEP;2ZIT;2ZIX;2ZI;2ZIP;2ZIEX;2ZIE;2ZIEP;2ZAT;2ZAX;2gn;2ZAP;2ZUOX;2ZUO;2ZUOP;2ZOT;2ZOX;2ZO;2ZOP;2ZEX;2ZE;2ZEP;2ZUT;2ZUX;2ZU;2ZUP;2ZURX;2ZUR;2ZYT;2ZYX;2ZY;2ZYP;2ZYRX;2ZYR;2CIT;2CIX;2CI;2CIP;2CIET;2CIEX;2CIE;2CIEP;2CAT;2CAX;2eo;2CAP;2CUOX;2CUO;2CUOP;2COT;2COX
2CO;2COP;2CEX;2CE;2CEP;2CUT;2CUX;2CU;2CUP;2CURX;2CUR;2CYT;2CYX;2CY;2CYP;2CYRX;2CYR;2ZZIT;2ZZIX;2ZZI;2ZZIP;2ZZIET;2ZZIEX;2ZZIE;2ZZIEP;2ZZAT;2ZZAX;2ZZA;2ZZAP;2ZZOX;2ZZO;2ZZOP;2ZZEX;2ZZE;2ZZEP;2ZZUX;2ZZU;2ZZUP;2ZZURX;2ZZUR;2ZZYT;2ZZYX;2ZZY;2ZZYP;2ZZYRX;2ZZYR;2NZIT;2NZIX;2NZI;2NZIP;2NZIEX;2NZIE;2NZIEP;2NZAT;2NZAX;2NZA;2NZAP;2NZUOX;2NZUO;2NZOX;2NZOP;2NZEX;2NZE;2NZUX;2NZU;2NZUP;2NZURX;2NZUR;2NZYT;2NZYX;2NZY;2NZYP;2NZYRX;2NZYR;2SIT;2bj;2SI;2SIP;2SIEX;2SIE;2SIEP;2SAT;2SAX;2cr;2SAP;2SUOX;2SUO;2SUOP;2SOT;2SOX;2SO;2SOP;2SEX;2SE;2SEP;2SUT;2SUX;2SU;2SUP;2SURX;2SUR;2SYT;2SYX;2SY;2SYP;2SYRX;2SYR;2SSIT;2SSIX;2SSI;2SSIP;2SSIEX;2SSIE;2SSIEP;2SSAT;2SSAX;2hn;2SSAP;2SSOT;2SSOX;2SSO;2SSOP;2SSEX;2SSE;2SSEP;2SSUT;2SSUX;2SSU;2SSUP;2SSYT;2SSYX;2SSY;2SSYP;2SSYRX;2SSYR;2ZHAT;2ZHAX;2mo;2ZHAP;2ZHUOX;2ZHUO;2ZHUOP;2ZHOT;2ZHOX;2ZHO;2ZHOP;2ZHET;2ZHEX;2ZHE;2ZHEP;2ZHUT;2ZHUX;2ZHU;2ZHUP;2ZHURX;2ZHUR;2ZHYT;2ZHYX;2ZHY;2ZHYP;2ZHYRX;2ZHYR;2CHAT;2CHAX;2er;2CHAP;2CHUOT;2CHUOX;2CHUO;2CHUOP;2CHOT;2CHOX;2CHO;2CHOP;2CHET;2CHEX;2lj
2CHEP;2CHUX;2CHU;2CHUP;2CHURX;2CHUR;2CHYT;2CHYX;2CHY;2CHYP;2CHYRX;2CHYR;2RRAX;2mx;2RRUOX;2RRUO;2RROT;2RROX;2RRO;2RROP;2RRET;2RREX;2RRE;2RREP;2RRUT;2RRUX;2RRU;2RRUP;2RRURX;2RRUR;2RRYT;2RRYX;2RRY;2RRYP;2RRYRX;2RRYR;2NRAT;2NRAX;2NRA;2NRAP;2NROX;2NRO;2NROP;2NRET;2NREX;2NRE;2NREP;2NRUT;2NRUX;2NRU;2NRUP;2NRURX;2NRUR;2NRYT;2NRYX;2NRY;2NRYP;2NRYRX;2NRYR;2SHAT;2SHAX;2eg;2SHAP;2SHUOX;2SHUO;2SHUOP;2SHOT;2SHOX;2SHO;2SHOP;2SHET;2SHEX;2iu;2SHEP;2SHUT;2SHUX;2SHU;2SHUP;2SHURX;2SHUR;2SHYT;2SHYX;2SHY;2SHYP;2SHYRX;2SHYR;2RAT;2RAX;2cd;2RAP;2RUOX;2RUO;2RUOP;2ROT;2ROX;2RO;2ROP;2REX;2RE;2REP;2RUT;2RUX;2RU;2RUP;2RURX;2RUR;2RYT;2RYX;2RY;2RYP;2RYRX;2RYR;2JIT;2JIX;2JI;2JIP;2JIET;2JIEX;2JIE;2JIEP;2JUOT;2JUOX;2JUO;2JUOP;2JOT;2JOX;2JO;2JOP;2JUT;2JUX;2JU;2JUP;2JURX;2JUR;2JYT;2JYX;2JY;2JYP;2JYRX;2JYR;2QIT;2QIX;2QI;2QIP;2QIET;2QIEX;2QIE;2QIEP;2QUOT;2QUOX;2QUO;2QUOP;2QOT;2QOX;2QO;2QOP;2QUT;2QUX;2QU;2QUP;2QURX;2QUR;2QYT;2QYX;2QY;2QYP;2QYRX;2QYR;2JJIT;2JJIX;2JJI;2JJIP;2JJIET;2JJIEX;2JJIE;2JJIEP;2JJUOX;2JJUO;2JJUOP;2JJOT
2JJOX;2JJO;2JJOP;2JJUT;2JJUX;2JJU;2JJUP;2JJURX;2JJUR;2JJYT;2JJYX;2JJY;2JJYP;2NJIT;2NJIX;2NJI;2NJIP;2NJIET;2NJIEX;2NJIE;2NJIEP;2NJUOX;2NJUO;2NJOT;2NJOX;2NJO;2NJOP;2NJUX;2NJU;2NJUP;2NJURX;2NJUR;2NJYT;2NJYX;2NJY;2NJYP;2NJYRX;2NJYR;2NYIT;2NYIX;2NYI;2NYIP;2NYIET;2NYIEX;2NYIE;2NYIEP;2NYUOX;2NYUO;2NYUOP;2NYOT;2NYOX;2NYO;2NYOP;2NYUT;2NYUX;2NYU;2NYUP;2XIT;2XIX;2XI;2XIP;2XIET;2XIEX;2XIE;2XIEP;2XUOX;2XUO;2XOT;2XOX;2XO;2XOP;2XYT;2XYX;2XY;2XYP;2XYRX;2XYR;2YIT;2YIX;2YI;2YIP;2YIET;2YIEX;2YIE;2YIEP;2YUOT;2YUOX;2YUO;2YUOP;2YOT;2YOX;2YO;2YOP;2YUT;2YUX;2ii;2YUP;2YURX;2YUR;2YYT;2YYX;2YY;2YYP;2YYRX;2YYR;=A490;1RADICAL QOT;2LI;2KIT;2NYIP;2CYP;2SSI;2GGOP;2GEP;2MI;2HXIT;2LYR;2BBUT;2MOP;2YO;2PUT;2HXUO;2TAT;2da;2ZUP;2CYT;2DDUR;2BUR;2GGUO;2NYOP;2TU;2OP;2JJUT;2ZOT;2PYT;2HMO;2YIT;2VUR;2SHY;2VEP;2gn;2JO;2NZUP;2JJY;2GOT;2JJIE;2WO;2DU;2SHUR;2LIE;2CY;2CUOP;2CIP;2HXOP;2SHAT;2ZUR;2SHOP;2lj;2ZZIET;2NBIE;2KE;=A4D0;0LISU abdh;2ca;2fr;2cw;2cs;2ff;2da;2bx;2ev;2em;2eo;2er;2DZA;2ju;2qc;2ci;2cj;2ch;2cr;2mo;2gn;2ef;2bu;2XA;2HHA
2hk;2en;2eg;2ck;2gj;2A;2AE;2E;2EU;2I;2O;2U;2UE;2UH;2ht;2dvMYA TI;3cjPO;3MYA CYA;4BO;4cj;4JEU;1hafe;2gdei;0VAI othd;2EEN;2HEE;2WEE;2WEEN;2PEE;2BHEE;2BEE;2MBEE;2KPEE;2MGBEE;2GBEE;2FEE;2VEE;2TEE;2THEE;2DHEE;2DHHEE;2LEE;2REE;2DEE;2NDEE;2SEE;2SHEE;2ZEE;2ZHEE;2CEE;2JEE;2NJEE;2YEE;2KEE;2NGGEE;2GEE;2MEE;2NEE;2NYEE;2I;2fp;2HI;2HIN;2WI;2WIN;2hf;2BHI;2BI;2MBI;2KPI;2MGBI;2GBI;2FI;2VI;2TI;2THI;2DHI;2DHHI;2LI;2RI;2DI;2NDI;2SI;2SHI;2ZI;2ZHI;2CI;2JI;2NJI;2YI;2KI;2NGGI;2GI;2MI;2NI;2NYI;2A;2iy;2NGAN;2bu;2HAN;2en;2WAN;2ca;2gx;2dh;2MBA;2KPA;2KPAN;2MGBA;2GBA;2hk;2fw;2cs;2ff;2gk;2DHHA;2ch;2cd;2cw;2NDA;2cr;2eg;2gn;2mo;2eo;2em;2NJA;2ck;2bx;2KAN;2NGGA;2da;2ci;2cj;2et;2gm;2OON;2HOO;2WOO;2WOON;2POO;2BHOO;2BOO;2MBOO;2KPOO;2MGBOO;2GBOO;2FOO;2VOO;2TOO;2THOO;2DHOO;2DHHOO;2LOO;2ROO;2DOO;2NDOO;2SOO;2SHOO;2ZOO;2ZHOO;2COO;2JOO;2NJOO;2YOO;2KOO;2NGGOO;2GOO;2MOO;2NOO;2NYOO;2U;2UN;2HU;2HUN;2WU;2WUN;2PU;2BHU;2BU;2MBU;2KPU;2MGBU;2GBU;2FU;2VU;2TU;2THU;2DHU;2DHHU;2LU;2RU;2DU;2NDU;2SU;2SHU;2ZU;2ZHU;2CU;2JU;2NJU;2ii;2KU;2NGGU;2GU
2ia;2NU;2NYU;2O;2ez;2NGON;2HO;2HON;2WO;2WON;2PO;2BHO;2BO;2MBO;2KPO;2MGBO;2GBO;2GBON;2FO;2VO;2at;2THO;2DHO;2DHHO;2LO;2RO;2DO;2NDO;2SO;2SHO;2ZO;2ZHO;2CO;2JO;2NJO;2YO;2KO;2NGGO;2GO;2MO;2hm;2NYO;2E;2gi;2NGEN;2hl;2HEN;2WE;2WEN;2gp;2BHE;2BE;2MBE;2KPE;2KPEN;2MGBE;2GBE;2GBEN;2FE;2VE;2il;2id;2DHE;2DHHE;2LE;2RE;2DE;2NDE;2SE;2iu;2ZE;2ZHE;2CE;2JE;2NJE;2YE;2KE;2NGGE;2NGGEN;2GE;2GEN;2ME;2NE;2NYE;2NG;2LENGTHENER;1fe;1gdei;1kbaq;1otNDOLE hk;3bx;3SOO;1bbFEENG;2KEENG;2TING;2NII;2BANG;2FAA;2TAA;2DANG;2DOONG;2KUNG;2TONG;2DO-O;2JONG;1cudj;2am;2al;2as;2ay;2bc;2bj;2br;2bk;2bv;1otNDOLE ci;3DO;=A640;0qiaeabZEMLYA;1acabZEMLYA;1aeabDZELO;1acabDZELO;1aeabebDZE;1acabebDZE;1aeabjl;1acabjl;1aeabDJERV;1acabDJERV;1aeabMONOGRAPH UK;1acabMONOGRAPH UK;1aeabBROAD ic;1acabBROAD ic;1aeabmfYER;1acabmfYER;1aeabYERU aaruYER;1acabYERU aaruYER;1aeabpcYAT;1acabpcYAT;1aeabebii;1acabebii;1aeabpcA;1acabpcA;1aeabinfqkc;1acabinfqkc;1aeabBLENDED kc;1acabBLENDED kc;1aeabpcinfqkc;1acabpcinfqkc;1aeabYN;1acabYN;1aeabebTSE;1acabebTSE
1aeabqqDE;1acabqqDE;1aeabqqEL;1acabqqEL;1aeabqqEM;1acabqqEM;1aeabMONOCULAR O;1acabMONOCULAR O;1aeabBINOCULAR O;1acabBINOCULAR O;1aeabapMONOCULAR O;1acabapMONOCULAR O;1abMULTIOCULAR O;0hwqiVZMET;2dsxqaf;2btxqaf;2cgxqaf;0SLAVONIC gq;0hwqiabUKRAINIAN IE;3I;3YI;3U;3HARD af;3YERU;3qqaf;3ic;2KAVYKA;2PAYEROK;0qiKAVYKA;1PAYEROK;1aeabDWE;1acabDWE;1aeabDZWE;1acabDZWE;1aeabZHWE;1acabZHWE;1aeabCCHE;1acabCCHE;1aeabDZZE;1acabDZZE;1aeabilaabgaz;1acabilaabgaz;1aeabTWE;1acabTWE;1aeabTSWE;1acabTSWE;1aeabTSSE;1acabTSSE;1aeabTCHE;1acabTCHE;1aeabHWE;1acabHWE;1aeabSHWE;1acabSHWE;1aeabapO;1acabapO;1aeabqyO;1acabqyO;0jrabqiHARD af;3qqaf;0hwqiabEF;3pcE;0BAMUM abA;2bx;2U;2KU;2hd;2REE;2TAE;2O;2NYI;2I;2ch;2ca;2RII;2RIEE;2LEEEE;2MEEEE;2TAA;2NDAA;2NJAEM;2M;2SUU;2ia;2SHII;2SI;2SHEUX;2SEUX;2KYEE;2KET;2NUAE;2NU;2NJUAE;2YOQ;2SHU;2YUQ;2ck;2NSHA;2KEUX;2PEUX;2NJEE;2NTEE;2PUE;2WUE;2PEE;2FEE;2RU;2LU;2MI;2NI;2REUX;2RAE;2KEN;2NGKWAEN;2NGGA;2ef;2SHO;2PUAE;2FU;2FOM;2en;2cj;2LI;2hf;2LOQ;2KO;2MBEN;2REN;2MEN;2ci;2TI;2KI;2MO;2MBAA
2TET;2KPA;2ds;2NTUU;2SAMBA;2FAAMAE;2KOVUU;2KOGHOM;1hwaqKOQNDON;3TUKWENTIS;1NJAEMLI;1gdei;1je;1fe;1sr;1kbaq;=A700;0jrabCHINESE dvYIN PING;4syPING;4YIN SHANG;4sySHANG;4YIN QU;4syQU;4YIN RU;4syRU;2EXTRA-HIGH hzdvbn;2dzhzdvbn;2MID hzdvbn;2dchzdvbn;2EXTRA-LOW hzdvbn;2EXTRA-HIGH hzuadvbn;2dzhzuadvbn;2MID hzuadvbn;2dchzuadvbn;2EXTRA-LOW hzuadvbn;2EXTRA-HIGH uadvbn;2dzuadvbn;2MID uadvbn;2dcuadvbn;2EXTRA-LOW uadvbn;2arbhbn;3pk;3cobn;2cyaijffy;2kzbiah;3bqah;3kvaq;3eukvaq;2dceukvaq;2STRESS agdzdv;4dcdv;0gbaeabzocl;1acabzocl;1aeabzoiw;1acabzoiw;1aeabHENG;1acabHENG;1aeabTZ;1acabTZ;1aeabTRESILLO;1acabTRESILLO;1aeabCUATRILLO;1acabCUATRILLO;1aeabCUATRILLO aafe;1acabCUATRILLO aafe;1abacaeF;4S;1aeabdk;1acabdk;1aeabAO;1acabAO;1aeabed;1acabed;1aeabAV;1acabAV;1aeabAV aacobn;1acabAV aacobn;1aeabAY;1acabAY;1aeabebC aaar;1acabebC aaar;1aeabK aaba;1acabK aaba;1aeabK aagvba;1acabK aagvba;1aeabK aabaaggvba;1acabK aabaaggvba;1aeabBROKEN L;1acabBROKEN L;1aeabL aadzba;1acabL aadzba;1aeabO aadrbalz;1acabO aadrbalz
1aeabO aaoa;1acabO aaoa;1aeabgm;1acabgm;1aeabP aabaqshr;1acabP aabaqshr;1aeabP aaFLOURISH;1acabP aaFLOURISH;1aeabP aaSQUIRREL fs;1acabP aaSQUIRREL fs;1aeabQ aabaqshr;1acabQ aabaqshr;1aeabQ aagvba;1acabQ aagvba;1aeabR ROTUNDA;1acabR ROTUNDA;1aeabRUM ROTUNDA;1acabRUM ROTUNDA;1aeabV aagvba;1acabV aagvba;1aeabVY;1acabVY;1aeabVISIGOTHIC Z;1acabVISIGOTHIC Z;1aeabTHORN aaba;1acabTHORN aaba;1aeabTHORN aabaqshr;1acabTHORN aabaqshr;1aeabVEND;1acabVEND;1aeabET;1acabET;1aeabIS;1acabIS;1aeabCON;1acabCON;0jrabUS;0gbacabDUM;3LUM;3MUM;3NUM;3RUM;1abacaeRUM;1acabTUM;3UM;1aeabnxD;1acabnxD;1aeabnxF;1acabnxF;1aeabnxG;3dqnxG;1acabdqnxG;1aeabdqL;1acabdqL;1aeabnxR;1acabnxR;1aeabnxS;1acabnxS;1aeabnxT;1acabnxT;0jrabdcdthv;2je;2geioaf;0gbaeabSALTILLO;1acabSALTILLO;1aeabdqH;1acabL aahgazagBELT;1abSINOLOGICAL ar;1aeabN aahr;1acabN aahr;1aeabC aabn;1acabC aabn;5kaaz;3H aakaaz;1aeabB aaFLOURISH;1acabB aaFLOURISH;1aeabF aaba;1acabF aaba;1aeabVOLAPUK AE;1acabVOLAPUK AE;1aeabVOLAPUK ht;1acabVOLAPUK ht;1aeabVOLAPUK UE
1acabVOLAPUK UE;1aeabG aapwba;1acabG aapwba;1aeabK aapwba;1acabK aapwba;1aeabN aapwba;1acabN aapwba;1aeabR aapwba;1acabR aapwba;1aeabS aapwba;1acabS aapwba;1aeabH aaaz;3ebdnE;3loG;3L aaBELT;3acaeI;1abacaeQ;1aeabdqK;4T;3J aauw;3lk;3nc;1acabnc;1aeabic;1acabic;1aeabU aaba;1acabU aaba;1aeabkeA;1acabkeA;1aeabkeI;1acabkeI;1aeabkeU;1acabkeU;1aeabfvPOLISH O;1acabfvPOLISH O;1aeabANGLICANA W;1acabANGLICANA W;1aeabC aakaaz;3S aaaz;3Z aakaaz;3D aagebalz;1acabD aagebalz;1aeabS aagebalz;1acabS aagebalz;=A7D0;1aeabinnxG;1acabinnxG;=A7D3;3apTHORN;=A7D5;4WYNN;1aeabbgSCOTS S;1acabbgSCOTS S;1aeabSIGMOID S;1acabSIGMOID S;=A7F2;0jrabaeC;3F;3Q;0gbaeabebbsH;1acabebbsH;1EPIGRAPHIC abvkI;0jrabaeH aaba;2acjaht;0gbabacaedqM;1EPIGRAPHIC abebF;4P;3euM;3I LONGA;3mzM;0SYLOTI NAGRI abA;3I;2afDVISVARA;2abU;3E;3O;2afHASANTA;2abKO;3KHO;3GO;3GHO;2afgf;2abCO;3CHO;3JO;3JHO;3TTO;3TTHO;3DDO;3DDHO;3at;3THO;3DO;3DHO;3hm;3PO;3PHO;3BO;3BHO;3MO;3RO;3LO;3RRO;3SO;3HO;2cqafA;4I;4U;4E;4gm;2POETRY MARK-1;3MARK-2;3MARK-3;3MARK-4
2afluHASANTA;=A830;0glINDIC neamjb;4bs;3aspz;3amyt;4ko;3asSIXTEENTHS;2jbaq;2PLACEHOLDER aq;2RUPEE aq;2QUANTITY aq;=A840;0PHAGS-PA abbx;2ev;2da;2ef;2eo;2er;2em;2et;2cs;2ff;2cw;2cj;2ca;2fr;2dh;2ci;2ju;2qc;2DZA;2en;2mo;2gn;2acA;2ck;2cd;2ch;2eg;2cr;2bu;2A;2I;2U;2E;2O;2QA;2XA;2hk;2GGA;2hd;1yuaben;3ck;1abgg;2hj;2gh;2gw;2luck;2VOICELESS eg;2uobu;2ASPIRATED hk;1yuabcd;1SUPERFIXED abcd;1abjg;1ehnfaq;1apnfaq;1aqpj;2appj;=A880;0SAURASHTRA afgf;2im;1abA;2dk;2I;2dx;2U;2ek;2flR;3hu;3L;3ip;2E;2hd;2dw;2O;2gm;2ed;2bx;2ev;2da;2gj;2ef;2eo;2er;2em;2ik;2et;2gg;2hj;2gh;2hq;2gw;2cs;2ff;2cw;2gk;2cj;2ca;2fr;2dh;2gx;2ci;2ck;2cd;2ch;2fw;2eg;2hn;2cr;2bu;2kh;1lvafHAARU;1cqafdk;3I;3dx;3U;3ek;3flR;4hu;4L;4ip;3E;3hd;3dw;3O;3gm;3ed;1afhp;2jg;=A8CE;1jp;1apjp;1cudj;2am;2al;2as;2ay;2bc;2bj;2br;2bk;2bv;=A8E0;0hwDEVANAGARI cudj;3am;3al;3as;3ay;3bc;3bj;3br;3bk;3bv;2abA;3U;3bx;3cj;3ca;3cd;3VI;2afox;0DEVANAGARI afSPACING jg;2jghp;2apjghp;2jgal;3as;3ox;2PUSHPIKA;1GAP va;1ts;1HEADSTROKE;1afxu;1JAIN OM;1abAY;1cqafAY
0KAYAH LI cudj;3am;3al;3as;3ay;3bc;3bj;3br;3bk;3bv;2abbx;3ev;3da;3ef;3cr;3eg;3gn;3et;3cs;3HTA;3cj;3ca;3fr;3ci;3cw;3dh;3cd;3ck;3ch;3en;3ff;3bu;3fw;3eo;3A;3ht;3I;3gm;2cqUE;3E;3U;3hd;3O;2dvPLOPHU;3CALYA;4PLOPHU;2afCWI;3SHYA;0REJANG abbx;2da;2ef;2cs;2cw;2cj;2ca;2dh;2ci;2eo;2em;2et;2cr;2cd;2ch;2ck;2en;2bu;2MBA;2NGGA;2NDA;2NYJA;2A;1cqafI;3U;3E;3dw;3O;3ed;3EU;3EA;1lvafNG;3N;3R;3H;1hp;=A95F;1lpaq;0txCHOSEONG TIKEUT-MIEUM;2TIKEUT-PIEUP;2TIKEUT-SIOS;2TIKEUT-CIEUC;2zv;2RIEUL-SSANGKIYEOK;2RIEUL-TIKEUT;2RIEUL-SSANGTIKEUT;2RIEUL-MIEUM;2RIEUL-PIEUP;2RIEUL-SSANGPIEUP;2RIEUL-KAPYEOUNPIEUP;2RIEUL-SIOS;2RIEUL-CIEUC;2RIEUL-KHIEUKH;2MIEUM-KIYEOK;2MIEUM-TIKEUT;2MIEUM-SIOS;2PIEUP-SIOS-THIEUTH;2PIEUP-KHIEUKH;2PIEUP-HIEUH;2SSANGSIOS-PIEUP;2IEUNG-RIEUL;2IEUNG-HIEUH;2SSANGCIEUC-HIEUH;2SSANGTHIEUTH;2PHIEUPH-HIEUH;2HIEUH-SIOS;2SSANGYEORINHIEUH;=A980;0JAVANESE afPANYANGGA;2CECAK;2LAYAR;2WIGNYAN;1abA;2I KAWI;3;2dx;2U;2caCEREK;2efLELET;4RASWADI;2E;2dw;2O;2bx;3SASAK;3th;2da;3th;2ef;2eo;3th;2em;2etth;2emwj;2et;2gg;3wj
2gh;3wj;2cjth;2cs;3th;2cw;3wj;2cj;2ca;3th;2dh;3th;2ci;2ck;2cd;3AGUNG;2ch;2en;2crth;3wj;3;2bu;1afCECAK TELU;1cqafTARUNG;3TOLONG;3WULU;4MELIK;3SUKU;4MENDUT;3TALING;3DIRGA MURE;3PEPET;1lvafKERET;3PENGKAL;3CAKRA;1PANGKON;1akRERENGGAN;1aiRERENGGAN;1PADA ANDAP;2MADYA;2LUHUR;2WINDU;2PANGKAT;2LINGSA;2LUNGSI;2ADEG;3ADEG;2PISELEH;1dqPADA PISELEH;=A9CF;1PANGRANGKEP;1cudj;2am;2al;2as;2ay;2bc;2bj;2br;2bk;2bv;=A9DE;1PADA TIRTA TUMETES;2ISEN-ISEN;0MYANMAR abSHAN gj;3er;3ik;3gw;3gx;1afSHAN SAW;1jrabSHAN REDUPLICATION;1abTAI LAING et;4hk;4da;4gj;4em;4ik;4gh;4hq;4gw;1TAI LAING cudj;4am;4al;4as;4ay;4bc;4bj;4br;4bk;4bv;1abTAI LAING kh;4cw;4gk;4dh;4gx;=AA00;0CHAM abA;2I;2U;2E;2dw;2O;2bx;2ev;2da;2gj;2NGUE;2ef;2er;2CHHA;2em;2ik;2NHUE;2NHA;2NHJA;2cs;2ff;2cw;2gk;2NUE;2cj;2gh;2ca;2PPA;2fr;2dh;2gx;2MUE;2ci;2BBA;2ck;2cd;2ch;2fw;2hn;2cr;2bu;1cqafdk;3I;3dx;3EI;3U;3ht;3O;3dw;3ed;3UE;1lvafck;3cd;3ch;3en;=AA40;1abaoK;3G;3NG;1lvafaoNG;1abaoCH;3T;3N;3P;3Y;3R;3L;3SS;1lvafaoM;4H;=AA50;1cudj;2am;2al;2as;2ay;2bc;2bj;2br;2bk
2bv;=AA5C;1haSPIRAL;2jp;2apjp;2gsjp;0MYANMAR abKHAMTI da;3eo;3er;3em;3ik;3et;3gg;3hj;3gh;3hq;3gk;3cj;3cr;3bu;3HHA;3hk;1jrabKHAMTI REDUPLICATION;1abKHAMTI XA;3gn;3cd;1LOGOGRAM KHAMTI OAY;3QN;3HM;1bbAITON kv;3am;3al;1abAITON cd;1afPAO vcdv;2TAI LAING ul;4um;1abSHWE PALAUNG er;4eg;0TAI VIET abdcKO;3dzKO;3dcKHO;3dzKHO;3dcKHHO;3dzKHHO;3dcGO;3dzGO;3dcNGO;3dzNGO;3dcCO;3dzCO;3dcCHO;3dzCHO;3dcSO;3dzSO;3dcNYO;3dzNYO;3dcDO;3dzDO;3dcat;3dzat;3dcTHO;3dzTHO;3dchm;3dzhm;3dcBO;3dzBO;3dcPO;3dzPO;3dcPHO;3dzPHO;3dcFO;3dzFO;3dcMO;3dzMO;3dcYO;3dzYO;3dcRO;3dzRO;3dcLO;3dzLO;3dcVO;3dzVO;3dcHO;3dzHO;3dcO;3dzO;2MAI KANG;2cqdk;3I;3UE;3U;3E;3O;2MAI KHIT;2cqIA;3UEA;3UA;3AUE;3AY;3iy;3AM;2dvMAI EK;4NUENG;4THO;4SONG;=AADB;2bbKON;3NUENG;3SAM;3HO HOI;3KOI KOI;0MEETEI MAYEK abE;3O;3er;3et;3gg;3hj;3gh;3hq;3gw;3eg;3hn;2cqafdx;4ek;4AAI;4ed;4AAU;2CHEIKHAN;2AHANG KHUDAM;2ANJI;2otREPETITION aq;2qdREPETITION aq;2cqafim;2hp;=AB01;0ETHIOPIC otTTHU;2TTHI;2TTHAA;2TTHEE;2TTHE;2TTHO;=AB09;2DDHU;2DDHI;2DDHAA;2DDHEE;2DDHE;2DDHO;=AB11
2DZU;2DZI;2DZAA;2DZEE;2DZE;2DZO;=AB20;2CCHHA;2CCHHU;2CCHHI;2CCHHAA;2CCHHEE;2CCHHE;2CCHHO;=AB28;2BBA;2BBU;2BBI;2BBAA;2BBEE;2BBE;2BBO;=AB30;0gbacabtpix;3A REVERSED-SCHWA;3BLACKLETTER E;3tpE;3E aaFLOURISH;3LENIS F;3loG aauw;3L aaeuLAZY S;5apbgct;5bgcv;3M aauw;3N aauw;3ENG aauw;3BLACKLETTER O;5aaba;3dnO aaba;3euht;3dqhtaaba;6coba;4O OPEN-O;6aaba;3STIRRUP R;1abacaeR aaaioo;1acabR WITHOUT HANDLE;3apR;3R aauw;3apR aauw;3loR;5aacv;3BASELINE nr;3U aageaioo;4bnaageaioo;3UI;3dqUI;3U aaakaz;3lk;4aadcaicv;6akSERIF;3X aadcaicv;5drakoo;8agdcaicv;8aaSERIF;3Y aageaioo;0jrfnaaeufn;1abacHENG;3L aaeuLAZY S;5bgct;3U aaakaz;0gbacabSAKHA YAT;3pcE;3dnht;3UO;3euix;0leabacaeic;0gbacabDZ kdaahgaz;3TS kdaahgaz;3dqR aabgct;0jrabacdqW;2akiv;2aiiv;=AB70;0CHEROKEE acabA;3E;3I;3O;3U;3V;3da;3bx;3GE;3GI;3GO;3GU;3GV;3bu;3hl;3HI;3HO;3HU;3HV;3ch;3LE;3LI;3LO;3LU;3LV;3ci;3ME;3MI;3MO;3ia;3cj;3HNA;3NAH;3NE;3NI;3hm;3NU;3NV;3QUA;3QUE;3QUI;3QUO;3QUU;3QUV;3cr;3S;3SE;3SI;3SO;3SU;3SV;3cw;3cs;3DE;3il;3DI;3TI;3DO;3DU;3DV;3DLA;3TLA
3TLE;3TLI;3TLO;3TLU;3TLV;3ju;3TSE;3TSI;3TSO;3TSU;3TSV;3en;3WE;3WI;3WO;3WU;3WV;3ck;0MEETEI MAYEK abKOK;3SAM;3LAI;3MIT;3ca;3cj;3CHIL;3TIL;3KHOU;3NGOU;3THOU;3WAI;3sy;3HUK;3UN;3I;3PHAM;3ATIYA;3GOK;3JHAM;3RAI;3dh;3JIL;3DIL;3GHOU;3DHOU;3BHAM;3KOK wi;3LAI wi;3MIT wi;3cawi;3cjwi;3TIL wi;3NGOU wi;3I wi;2cqafONAP;4INAP;4ANAP;4YENAP;4SOUNAP;4UNAP;4CHEINAP;4NUNG;2CHEIKHEI;2LUM IYEK;2APUN IYEK;=ABF0;2cudj;3am;3al;3as;3ay;3bc;3bj;3br;3bk;3bv;=D7B0;0txJUNGSEONG O-YEO;2O-O-I;2YO-A;2YO-AE;2YO-EO;2U-YEO;2U-I-I;2YU-AE;2YU-O;2EU-A;2EU-EO;2EU-E;2EU-O;2I-YA-O;2I-YAE;2I-YEO;2I-YE;2I-O-I;2I-YO;2I-YU;2I-I;2ARAEA-A;2ARAEA-E;=D7CB;1JONGSEONG NIEUN-RIEUL;2NIEUN-CHIEUCH;2SSANGTIKEUT;2SSANGTIKEUT-PIEUP;2TIKEUT-PIEUP;2TIKEUT-SIOS;2TIKEUT-SIOS-KIYEOK;2TIKEUT-CIEUC;2TIKEUT-CHIEUCH;2TIKEUT-THIEUTH;2RIEUL-SSANGKIYEOK;2RIEUL-KIYEOK-HIEUH;2SSANGRIEUL-KHIEUKH;2RIEUL-MIEUM-HIEUH;2RIEUL-PIEUP-TIKEUT;2RIEUL-PIEUP-PHIEUPH;2RIEUL-YESIEUNG;2RIEUL-YEORINHIEUH-HIEUH;2KAPYEOUNRIEUL;2MIEUM-NIEUN;2MIEUM-SSANGNIEUN;2SSANGMIEUM
2MIEUM-PIEUP-SIOS;2MIEUM-CIEUC;2PIEUP-TIKEUT;2PIEUP-RIEUL-PHIEUPH;2PIEUP-MIEUM;2SSANGPIEUP;2PIEUP-SIOS-TIKEUT;2PIEUP-CIEUC;2PIEUP-CHIEUCH;2SIOS-MIEUM;2SIOS-KAPYEOUNPIEUP;2SSANGSIOS-KIYEOK;2SSANGSIOS-TIKEUT;2SIOS-PANSIOS;2SIOS-CIEUC;2SIOS-CHIEUCH;2SIOS-THIEUTH;2SIOS-HIEUH;2PANSIOS-PIEUP;2PANSIOS-KAPYEOUNPIEUP;2YESIEUNG-MIEUM;2YESIEUNG-HIEUH;2CIEUC-PIEUP;2CIEUC-SSANGPIEUP;2SSANGCIEUC;2PHIEUPH-SIOS;2PHIEUPH-THIEUTH;=FB00;0gbacjaFF;3FI;3FL;3FFI;3FFL;3drS T;3ST;=FB13;0ARMENIAN acjaMEN NOW;4ECH;4INI;3VEW NOW;3MEN XEH;=FB1D;0HEBREW abYOD aaHIRIQ;1rhJUDEO-SPANISH VARIKA;1jaYIDDISH YOD YOD PATAH;1abALTERNATIVE rt;2WIDE cl;3DALET;3hl;3jq;3LAMED;3aoni;3rk;3TAV;2ALTERNATIVE boaf;2jtaajtar;4SIN ar;4lwagjtar;6SIN ar;2claaPATAH;4QAMATS;4MAPIQ;2BET aalw;2ozaalw;2DALET aalw;2hlaaMAPIQ;2VAV aalw;2qvaalw;=FB38;2TET aalw;2YOD aalw;2aojqaalw;2jqaalw;2LAMED aalw;=FB3E;2niaalw;=FB40;2goaalw;2piaalw;=FB43;2aogpaalw;2gpaalw;=FB46;2TSADI aalw;2QOF aalw;2rkaalw;2jtaalw;2TAV aalw;2VAV aaHOLAM;2BET aaRAFE
2jqaaRAFE;2gpaaRAFE;1jaclLAMED;0myabclWASLA avad;4aoad;2BEEH avad;3aoad;3bdad;3diad;2PEH avad;3aoad;3bdad;3diad;2BEHEH avad;3aoad;3bdad;3diad;2TTEHEH avad;3aoad;3bdad;3diad;2TEHEH avad;3aoad;3bdad;3diad;2TTEH avad;3aoad;3bdad;3diad;2VEH avad;3aoad;3bdad;3diad;2PEHEH avad;3aoad;3bdad;3diad;2DYEH avad;3aoad;3bdad;3diad;2NYEH avad;3aoad;3bdad;3diad;2TCHEH avad;3aoad;3bdad;3diad;2TCHEHEH avad;3aoad;3bdad;3diad;2DDAHAL avad;3aoad;2DAHAL avad;3aoad;2DUL avad;3aoad;2DDAL avad;3aoad;2JEH avad;3aoad;2RREH avad;3aoad;2KEHEH avad;3aoad;3bdad;3diad;2GAF avad;3aoad;3bdad;3diad;2GUEH avad;3aoad;3bdad;3diad;2NGOEH avad;3aoad;3bdad;3diad;2hyGHUNNA avad;4aoad;2RNOON avad;3aoad;3bdad;3diad;2jyaaceajavad;6aoad;3GOAL avad;4aoad;4bdad;4diad;3DOACHASHMEE avad;4aoad;4bdad;4diad;2ceBARREE avad;4aoad;4aaijajavad;7aoad;1bbaraj;3an;2alccaj;4an;2asccaj;4an;4excxaj;6an;2ayccaj;4an;2apbhbnan;2alccxzaj;5an;2cv;2ackjaj;4an;2WASLA aj;=FBD3;1abNG avad;3aoad;3bdad;3diad;2U avad;3aoad;2htavad;3aoad;2iiavad;3aoad
2U aaijajavad;2VE avad;3aoad;2KIRGHIZ htavad;4aoad;3iiavad;4aoad;2E avad;3aoad;3bdad;3diad;2UIGHUR KAZAKH KIRGHIZ clesbdad;7diad;1jaceaaijajaaclavad;8aoad;7AE avad;8aoad;7ieavad;8aoad;7U avad;8aoad;7htavad;8aoad;7iiavad;8aoad;7E avad;8aoad;8bdad;2UIGHUR KIRGHIZ ceaaijajaaclesavad;9clesaoad;9clesbdad;1abFARSI ceavad;4aoad;4bdad;4diad;1jaceaaijajaadpavad;7dgavad;7bmavad;7clesavad;7ceavad;2mtaadpavad;4dgavad;4fuavad;4bmavad;4clesavad;4ceavad;2nkaadpavad;4dgavad;4fuavad;4bmavad;4clesavad;4ceavad;2svaadpavad;4bmavad;4clesavad;4ceavad;2dpaadgavad;4bmavad;2dgaadpavad;4bmavad;2fuaadpavad;4dgavad;4bmavad;2ksaadpavad;4dgavad;4fuavad;4bmavad;2maaadgavad;4bmavad;2ndaadpavad;4dgavad;4fuavad;4bmavad;2kjaadgavad;4bmavad;2ZAH aabmavad;2iwaadpavad;4bmavad;2okaadpavad;4bmavad;2lyaadpavad;4dgavad;4fuavad;4bmavad;4clesavad;4ceavad;2kyaadgavad;4bmavad;4clesavad;4ceavad;2jqaaclavad;4dpavad;4dgavad;4fuavad;4ihavad;4bmavad;4clesavad;4ceavad;2ihaadpavad;4dgavad;4fuavad;4bmavad;4clesavad;4ceavad;2bmaadpavad
4dgavad;4fuavad;4bmavad;4clesavad;4ceavad;2hyaadpavad;4dgavad;4fuavad;4bmavad;4clesavad;4ceavad;2jyaadpavad;4bmavad;4clesavad;4ceavad;2ceaadpavad;4dgavad;4fuavad;4bmavad;4clesavad;4ceavad;2THAL aarpclavad;2jmaarpclavad;2clesaarpclavad;2SHADDA aaDAMMATAN avad;4KASRATAN avad;4saavad;4tuavad;4rbavad;4rpclavad;2ceaaijajaajmaoad;7qfaoad;7bmaoad;7hyaoad;7clesaoad;7ceaoad;2mtaajmaoad;4qfaoad;4bmaoad;4hyaoad;4clesaoad;4ceaoad;2nkaajmaoad;4qfaoad;4bmaoad;4hyaoad;4clesaoad;4ceaoad;2svaajmaoad;4qfaoad;4bmaoad;4hyaoad;4clesaoad;4ceaoad;2lyaaclesaoad;4ceaoad;2kyaaclesaoad;4ceaoad;2jqaaclaoad;4ihaoad;4bmaoad;4clesaoad;4ceaoad;2ihaabmaoad;4clesaoad;4ceaoad;2bmaaclaoad;4bmaoad;2hyaajmaoad;4qfaoad;4bmaoad;4hyaoad;4clesaoad;4ceaoad;2clesaarpclaoad;2ceaajmaoad;4qfaoad;4bmaoad;4hyaoad;4clesaoad;4ceaoad;4ijajaadpbdad;7dgbdad;7fubdad;7bmbdad;7jybdad;2mtaadpbdad;4dgbdad;4fubdad;4bmbdad;4jybdad;2nkaadpbdad;4dgbdad;4fubdad;4bmbdad;4jybdad;2svaabmbdad;2dpaadgbdad;4bmbdad;2dgaadpbdad;4bmbdad;2fuaadpbdad;4bmbdad
2ksaadpbdad;4dgbdad;4fubdad;4bmbdad;2maaadgbdad;4fubdad;4bmbdad;2ndaadpbdad;4dgbdad;4fubdad;4bmbdad;2kjaadgbdad;2ZAH aabmbdad;2iwaadpbdad;4bmbdad;2okaadpbdad;4bmbdad;2lyaadpbdad;4dgbdad;4fubdad;4bmbdad;2kyaadgbdad;4bmbdad;2jqaadpbdad;4dgbdad;4fubdad;4ihbdad;4bmbdad;2ihaadpbdad;4dgbdad;4fubdad;4bmbdad;4jybdad;2bmaadpbdad;4dgbdad;4fubdad;4bmbdad;2hyaadpbdad;4dgbdad;4fubdad;4bmbdad;4jybdad;2jyaadpbdad;4bmbdad;4rpclbdad;2ceaadpbdad;4dgbdad;4fubdad;4bmbdad;4jybdad;4ijajaabmdiad;7jydiad;2mtaabmdiad;4jydiad;2nkaabmdiad;4jydiad;2svaabmdiad;4jydiad;2ksaabmdiad;4jydiad;2njaabmdiad;4jydiad;2jqaaihdiad;4bmdiad;2ihaabmdiad;2hyaabmdiad;4jydiad;2ceaabmdiad;4jydiad;2SHADDA aasadiad;4tudiad;4rbdiad;2kjaaclesavad;4ceavad;2iwaaclesavad;4ceavad;2okaaclesavad;4ceavad;2ksaaclesavad;4ceavad;2njaaclesavad;4ceavad;2dgaaclesavad;4ceavad;2dpaaclesavad;4ceavad;2fuaaclesavad;4ceavad;2maaaclesavad;4ceavad;2ndaaclesavad;4ceavad;2njaadpavad;4dgavad;4fuavad;4bmavad;4jmavad;2ksaajmavad;2maaajmavad;2ndaajmavad
2kjaaclesaoad;4ceaoad;2iwaaclesaoad;4ceaoad;2okaaclesaoad;4ceaoad;2ksaaclesaoad;4ceaoad;2njaaclesaoad;4ceaoad;2dgaaclesaoad;4ceaoad;2dpaaclesaoad;4ceaoad;2fuaaclesaoad;4ceaoad;2maaaclesaoad;4ceaoad;2ndaaclesaoad;4ceaoad;2njaadpaoad;4dgaoad;4fuaoad;4bmaoad;4jmaoad;2ksaajmaoad;2maaajmaoad;2ndaajmaoad;2njaadpbdad;4dgbdad;4fubdad;4bmbdad;2ksaajybdad;2njaajybdad;2kjaabmbdad;2ksaadpdiad;4dgdiad;4fudiad;2njaadpdiad;4dgdiad;4fudiad;2kjaabmdiad;2ZAH aabmdiad;2claayiaoad;5avad;0ORNATE akhe;1aihe;0myjaRAHIMAHU ALLAAH;2RADI ALLAAHU ANH;4ANHAA;4ANHUM;4ANHUMAA;4ANHUNNA;2SALLALLAAHU ALAYHI WA-AALIH;2ALAYHI AS-SALAAM;2ALAYHIM AS-SALAAM;2ALAYHIMAA AS-SALAAM;2ALAYHI AS-SALAATU WAS-SALAAM;2QUDDISA SIRRAH;2SALLALLAHU ALAYHI WAAALIHEE WA-SALLAM;2ALAYHAA AS-SALAAM;2TABAARAKA WA-TAAALAA;2RAHIMAHUM ALLAAH;2nkaadpaabmbdad;4dgaadpaoad;7bdad;6bmbdad;4fuaabmbdad;4bmaadpbdad;6dgbdad;6fubdad;2dpaabmaadgaoad;7bdad;2dgaabmaaceaoad;6clesaoad;2ksaadgaadpbdad;4dpaadgbdad;6clesaoad;4bmaadgaoad;7bdad;6dpbdad;6bmaoad;7bdad
2maaadgaadgaoad;7bdad;4bmaabmaoad;2njaadgaabmaoad;7bdad;4dpaaceaoad;4bmaafuaoad;7bdad;6bmaoad;7bdad;2ndaadgaaclesaoad;4fuaabmaoad;7bdad;2kjaabmaadgaoad;7bdad;6bmbdad;6ceaoad;2iwaadpaabmaoad;4bmaabmaoad;7bdad;6clesaoad;2okaabmaabmaoad;6ceaoad;6clesaoad;2lyaafuaabmaoad;7bdad;2kyaabmaadgaoad;6bmaoad;2ihaadgaabmaoad;6ceaoad;6clesaoad;4dpaadpbdad;7aoad;4fuaabmaoad;7bdad;4bmaadgaoad;7bdad;2bmaadgaadpbdad;6bmbdad;6ceaoad;4dpaadgbdad;6bmbdad;4fuaadpbdad;6bmbdad;=FD92;4dpaafubdad;2jyaabmaadpbdad;6bmbdad;2hyaadgaabmbdad;6clesaoad;4dpaabmaoad;7bdad;6clesaoad;4bmaaceaoad;6clesaoad;2ceaabmaabmaoad;7bdad;2mtaafuaaceaoad;2nkaadpaaceaoad;6clesaoad;4fuaaceaoad;6clesaoad;4bmaaceaoad;6clesaoad;2dpaabmaaceaoad;4dgaaclesaoad;4bmaaclesaoad;2ksaafuaaclesaoad;2maaadgaaceaoad;2njaadgaaceaoad;2ndaadgaaceaoad;2ihaadpaaceaoad;4bmaaceaoad;2ceaadgaaceaoad;4dpaaceaoad;4bmaaceaoad;2bmaabmaaceaoad;2kyaabmaaceaoad;2hyaadgaaceaoad;2kyaabmaadgbdad;2ihaadgaabmbdad;2iwaabmaaceaoad;2jqaabmaaceaoad;2hyaadpaadgbdad
2bmaafuaaceaoad;2ihaadpaabmbdad;2jqaabmaabmaoad;2ihaadpaabmaoad;2hyaadpaadgaoad;2dpaadgaaceaoad;2dgaadpaaceaoad;2bmaadpaaceaoad;2lyaabmaaceaoad;2mtaadgaaceaoad;2jqaabmaabmbdad;2iwaadpaabmbdad;2maaabmaabmbdad;2ksaafuaaceaoad;2hyaadpaaceaoad;=FDCF;2SALAAMUHU ALAYNAA;=FDF0;2SALLA USED AS KORANIC eiafavad;2QALA USED AS KORANIC eiafavad;2ALLAH avad;2AKBAR avad;2MOHAMMAD avad;2SALAM avad;2RASOUL avad;2ALAYHE avad;2WASALLAM avad;2SALLA avad;2SALLALLAHOU ALAYHE WASALLAM;2JALLAJALALOUHOU;0RIAL af;0myjaBISMILLAH AR-RAHMAN AR-RAHEEM;2SUBHAANAHU enTAAALAA;2AZZA enJALL;0VARIATION SELECTOR-1;1SELECTOR-2;1SELECTOR-3;1SELECTOR-4;1SELECTOR-5;1SELECTOR-6;1SELECTOR-7;1SELECTOR-8;1SELECTOR-9;1SELECTOR-10;1SELECTOR-11;1SELECTOR-12;1SELECTOR-13;1SELECTOR-14;1SELECTOR-15;1SELECTOR-16;0zuadhxbhfe;4psfe;5gdei;4je;4sr;4kvaq;4kbaq;4akaxvebw;4aiaxveBRAKCET;4covz;=FE20;0hwjaakbs;2aibs;1apctakbs;3aibs;1ewakbs;2aibs;1CONJOINING ew;1jaakbsan;2aibsan;1ctakbsan;2aibsan;1ewakbsan;2aibsan;1CONJOINING ewan;1qiTITLO akbs
3aibs;0zuadhxbhalarLEADER;4EM hc;4gihc;4dcee;4WAVY dcee;4akhe;4aihe;4akktbw;4aiktbw;4akoglqbw;4aioglqbw;4akauvebw;4aiauvebw;4akapfybw;4aiapfybw;4akfybw;4aifybw;4akjfbw;4aijfbw;4akaxjfbw;4aiaxjfbw;0SESAME ar;0axSESAME ar;0zuadhxbhakbzbw;4aibzbw;0qzwq;0CENTRELINE wq;0WAVY wq;0apWAVY wq;0qzdcee;0CENTRELINE dcee;0WAVY dcee;0acfe;1psfe;1gdei;=FE54;1sr;1je;1kbaq;1kvaq;1EM hc;1akhe;1aihe;1akktbw;1aiktbw;1akoglqbw;1aioglqbw;1eyaf;1vo;1gq;1boaf;1zq;1fhaf;1fjaf;1ioaf;=FE68;1mglr;1DOLLAR af;1PERCENT af;1zbAT;=FE70;0myyiavad;1TATWEEL aayiaj;1DAMMATAN avad;1fsFRAGMENT;1KASRATAN avad;=FE76;1saavad;2diad;1tuavad;2diad;1rbavad;2diad;1SHADDA avad;2diad;1SUKUN avad;2diad;1abijavad;2claavfajavad;6aoad;4ijajavad;6aoad;2ieaaijajavad;6aoad;2claaijanavad;6aoad;2ceaaijajavad;6aoad;6bdad;6diad;2clavad;3aoad;2mtavad;3aoad;3bdad;3diad;2nkMARBUTA avad;4aoad;3avad;3aoad;3bdad;3diad;2svavad;3aoad;3bdad;3diad;2dpavad;3aoad;3bdad;3diad;2dgavad;3aoad;3bdad;3diad;2fuavad;3aoad;3bdad;3diad;2DAL avad;3aoad;2THAL avad
3aoad;2jmavad;3aoad;2qfavad;3aoad;2ksavad;3aoad;3bdad;3diad;2njavad;3aoad;3bdad;3diad;2maavad;3aoad;3bdad;3diad;2ndavad;3aoad;3bdad;3diad;2kjavad;3aoad;3bdad;3diad;2ZAH avad;3aoad;3bdad;3diad;2iwavad;3aoad;3bdad;3diad;2okavad;3aoad;3bdad;3diad;2lyavad;3aoad;3bdad;3diad;2kyavad;3aoad;3bdad;3diad;2jqavad;3aoad;3bdad;3diad;2ihavad;3aoad;3bdad;3diad;2bmavad;3aoad;3bdad;3diad;2hyavad;3aoad;3bdad;3diad;2jyavad;3aoad;3bdad;3diad;2ieavad;3aoad;2clesavad;4aoad;2ceavad;3aoad;3bdad;3diad;1jaihaaclaavfajavad;8aoad;6ijajavad;8aoad;7anavad;8aoad;5avad;5aoad;=FEFF;0djWIDTH NO-BREAK mj;=FF01;0FULLWIDTH kvaq;1jsaq;1eyaf;1DOLLAR af;1PERCENT af;1vo;1up;1akhe;1aihe;1gq;1boaf;1fe;1zq;1gdei;1lr;1cudj;2am;2al;2as;2ay;2bc;2bj;2br;2bk;2bv;1je;1sr;1fhaf;1ioaf;1fjaf;1kbaq;1zbAT;1gbaeabA;4B;4C;4D;4E;4F;4G;4H;4I;4J;4K;4L;4M;4N;4O;4P;4Q;4R;4S;4T;4U;4V;4W;4X;4Y;4Z;1akbzbw;1mglr;1aibzbw;1dthv;1dcee;1eqhv;1gbacabA;4B;4C;4D;4E;4F;4G;4H;4I;4J;4K;4L;4M;4N;4O;4P;4Q;4R;4S;4T;4U;4V;4W;4X;4Y;4Z;1akktbw;1bhee;1aiktbw;1ct
1akaxhe;1aiaxhe;0HALFWIDTH psgdei;1akjfbw;1aijfbw;1psfe;1tfbgar;2abWO;3acA;4I;4U;4E;4O;4ck;4ii;4YO;4TU;1zePROLONGED osaq;1tfabA;3I;3U;3E;3O;3bx;3KI;3KU;3KE;3KO;3cr;3SI;3SU;3SE;3SO;3cs;3TI;3TU;3il;3at;3cj;3NI;3NU;3NE;3hm;3bu;3HI;3HU;3hl;3HO;3ci;3MI;3ia;3ME;3MO;3ck;3ii;3YO;3cd;3RI;3RU;3RE;3RO;3en;3N;2uoosaq;2SEMI-VOICED osaq;1txva;2abwh;3SSANGKIYEOK;3KIYEOK-SIOS;3NIEUN;3NIEUN-CIEUC;3NIEUN-HIEUH;3xf;3SSANGTIKEUT;3RIEUL;3zv;3RIEUL-MIEUM;3RIEUL-PIEUP;3RIEUL-SIOS;3RIEUL-THIEUTH;3RIEUL-PHIEUPH;3RIEUL-HIEUH;3MIEUM;3PIEUP;3SSANGPIEUP;3PIEUP-SIOS;3SIOS;3SSANGSIOS;3vb;3uu;3SSANGCIEUC;3vr;3wg;3xc;3wu;3HIEUH;=FFC2;3A;3AE;3ck;3YAE;3EO;3E;=FFCA;3YEO;3YE;3O;3en;3WAE;3ht;=FFD2;3YO;3U;3WEO;3WE;3WI;3ii;=FFDA;3EU;3YI;3I;=FFE0;0FULLWIDTH CENT af;1POUND af;1fiaf;1ew;1BROKEN bn;1YEN af;1WON af;=FFE8;0HALFWIDTH FORMS cpbh;1bpah;1dfah;1beah;1cxah;1aubz;1axcb;=FFF9;0INTERLINEAR ANNOTATION ANCHOR;2jn;2TERMINATOR;0OBJECT REPLACEMENT oy;0REPLACEMENT oy;=10000;0LINEAR B otB008 A;3B038 E;3B028 I;3B061 O;3B010 U
3B001 cw;3B045 DE;3B007 DI;3B014 DO;3B051 DU;3B057 em;3B046 JE;=1000D;3B036 JO;3B065 JU;3B077 bx;3B044 KE;3B067 KI;3B070 KO;3B081 KU;3B080 ci;3B013 ME;3B073 MI;3B015 MO;3B023 ia;3B006 cj;3B024 NE;3B030 NI;3B052 hm;3B055 NU;3B003 ca;3B072 gp;3B039 hf;3B011 PO;3B050 PU;3B016 QA;3B078 QE;3B021 QI;3B032 QO;=10028;3B060 cd;3B027 RE;3B053 RI;3B002 RO;3B026 RU;3B031 cr;3B009 SE;3B041 SI;3B012 SO;3B058 SU;3B059 cs;3B004 il;3B037 TI;3B005 at;3B069 TU;3B054 en;3B075 WE;3B040 WI;3B042 WO;=1003C;3B017 gn;3B074 ZE;=1003F;3B020 ZO;3B025 A2;3B043 A3;3B085 ed;3B071 DWE;3B090 DWO;3B048 NWA;3B029 PU2;3B062 PTE;3B076 RA2;3B033 RA3;3B068 RO2;3B066 TA2;3B087 TWE;3B091 al;=10050;2bbB018;3B019;3B022;3B034;3B047;3B049;3B056;3B063;3B064;3B079;3B082;3B083;3B086;3B089;=10080;2IDEOGRAM B100 mr;3B102 WOMAN;3B104 DEER;3B105 EQUID;3B105F MARE;3B105M STALLION;3B106F EWE;3B106M RAM;3B107F SHE-GOAT;3B107M HE-GOAT;3B108F SOW;3B108M BOAR;3B109F COW;3B109M BULL;3B120 WHEAT;3B121 BARLEY;3B122 OLIVE;3B123 SPICE
3B125 CYPERUS;2yqB127 KAPO;3B128 KANAKO;2IDEOGRAM B130 OIL;3B131 WINE;3B132;2yqB133 AREPA;3B135 MERI;2IDEOGRAM B140 BRONZE;3B141 GOLD;3B142;3B145 WOOL;3B146;3B150;3B151 is;3B152;3B153;3B154;2yqB156 TURO2;2IDEOGRAM B157;3B158;3B159 CLOTH;3B160;3B161;3B162 GARMENT;3B163 ARMOUR;3B164;3B165;3B166;3B167;3B168;3B169;3B170;3B171;3B172;3B173 MONTH;3B174;3B176 TREE;3B177;3B178;3B179;3B180;3B181;3B182;3B183;3B184;3B185;3B189;3B190;3B191 HELMET;3B220 FOOTSTOOL;3B225 BATHTUB;3B230 SPEAR;3B231 ah;3B232;3B233 SWORD;3B234;3B236;3B240 WHEELED CHARIOT;3B241 CHARIOT;3B242 CHARIOT FRAME;3B243 WHEEL;3B245;3B246;2yqB247 DIPTE;2IDEOGRAM B248;3B249;3B251;3B252;3B253;3B254 DART;3B255;3B256;3B257;3B258;3B259;3VESSEL B155;4B200;4B201;4B202;4B203;4B204;4B205;4B206;4B207;4B208;4B209;4B210;4B211;4B212;4B213;4B214;4B215;4B216;4B217;4B218;4B219;4B221;4B222;4B226;4B227;4B228;4B229;4B250;4B305;=10100;0AEGEAN qdjnee;3ar;1rxaq;=10107;1eyam;2al;2as;2ay;2bc;2bj;2br;2bk;2bv;2ds;2ho;2mk;2ns;2iz;2oq;2it;2pp;2ib;2ambt;2albt
2asbt;2aybt;2bcbt;2bjbt;2brbt;2bkbt;2bvbt;2amcg;2alcg;2ascg;2aycg;2bccg;2bjcg;2brcg;2bkcg;2bvcg;2dscg;2hocg;2mkcg;2nscg;2izcg;2oqcg;2itcg;2ppcg;2ibcg;=10137;1WEIGHT BASE UNIT;2FIRST xa;2SECOND xa;2rqxa;2FOURTH xa;1DRY MEASURE FIRST xa;1LIQUID MEASURE FIRST xa;1MEASURE SECOND xa;2rqxa;0leACROPHONIC ATTIC amjb;4bs;4DRACHMA;3bc;3iz;3bcbt;4cg;3izcg;3bcxx;3dsxx;3izxx;3ambtxx;3bcbtxx;3amcgxx;3bccgxx;4wy;3dswy;3izwy;3ambtwy;3bcbtwy;3amcgwy;3dscgwy;3izcgwy;3dsMNAS;2HERAEUM amPLETHRON;2ywam;2HERMIONIAN am;2EPIDAUREAN al;2ywal;2CYRENAIC alDRACHMAS;2EPIDAUREAN alDRACHMAS;2TROEZENIAN bc;3ds;4luad;2HERMIONIAN ds;2MESSENIAN ds;2ywds;3mk;2TROEZENIAN iz;4luad;2HERMIONIAN iz;2ywiz;3ambt;3asbt;2EPIDAUREAN bcbt;2TROEZENIAN bcbt;2ywbcbt;2CARYSTIAN bcbt;2NAXIAN bcbt;2ywamcg;3bccg;2DELPHIC bcMNAS;2STRATIAN izMNAS;1ambsaf;4luad;1alvlaf;1aspzaf;1YEAR af;1TALENT af;1DRACHMA af;1OBOL af;1alOBOLS af;1asOBOLS af;1ayOBOLS af;1bcOBOLS af;1METRETES af;1KYATHOS BASE af;1LITRA af;1OUNKIA af;1XESTES af;1ARTABE af
1AROURA af;1GRAMMA af;1TRYBLION BASE af;1djaf;1amjbaf;1SINUSOID af;1INDICTION af;0NOMISMA af;=10190;0ROMAN SEXTANS af;1UNCIA af;1SEMUNCIA af;1SEXTULA af;1DIMIDIA SEXTULA af;1SILIQUA af;1DENARIUS af;1QUINARIUS af;1SESTERTIUS af;1DUPONDIUS af;1AS af;1CENTURIAL af;0ASCIA bb;=101A0;0lebbofkr;=101D0;0PHAISTOS DISC afPEDESTRIAN;3PLUMED nf;3TATTOOED nf;3CAPTIVE;3CHILD;3WOMAN;3HELMET;3GAUNTLET;3TIARA;3ah;3BOW;3SHIELD;3CLUB;3MANACLES;3MATTOCK;3SAW;3LID;3BOOMERANG;3CARPENTRY PLANE;3DOLIUM;3COMB;3SLING;3COLUMN;3BEEHIVE;3SHIP;3is;3HIDE;3BULLS oo;3CAT;3RAM;3EAGLE;3DOVE;3TUNNY;3BEE;3PLANE TREE;3VINE;3PAPYRUS;3ROSETTE;3LILY;3OX ru;3FLUTE;3GRATER;3STRAINER;3acAXE;3WAVY BAND;3hwpwba;=10280;0LYCIAN abA;2E;2B;2BH;2G;2D;2I;2W;2Z;2TH;2J;2K;2Q;2L;2M;2N;2MM;2NN;2U;2P;2KK;2R;2S;2T;2TT;2iy;2gi;2H;2X;=102A0;0CARIAN abA;2P2;2D;2L;2UUU;2R;2LD;2A2;2Q;2B;2M;2O;2D2;2T;2SH;2SH2;2S;2C-18;2U;2NN;2X;2N;2TT2;2P;2SS;2I;2E;2UUUU;2K;2K2;2ND;2ek;2G;2G2;2ST;2ST2;2NG;2dx;2C-39;2TT;2UUU2;2hu;2MB;2MB2;2MB3;2MB4;2LD2;2E2;2UUU3
=102E0;0ldEPACT xeaq;2cuam;3al;3as;3ay;3bc;3bj;3br;3bk;3bv;2eyds;3ho;3mk;3ns;3iz;3oq;3it;3pp;3ib;3ambt;3albt;3asbt;3aybt;3bcbt;3bjbt;3brbt;3bkbt;3bvbt;=10300;0fvteabA;3BE;3KE;3DE;3E;3VE;3ZE;3hl;3id;3I;3bx;3EL;3EM;3gi;3nr;3O;3gp;3iu;3KU;3ER;3ES;3il;3U;3EKS;3PHE;3KHE;3EF;3ERS;3lj;3dx;3ek;3ESS;2ufam;3bc;3ds;3iz;=1032D;2abYE;3NORTHERN TSE;3SOUTHERN TSE;0GOTHIC abAHSA;2BAIRKAN;2GIBA;2DAGS;2AIHVUS;2QAIRTHRA;2IUJA;2HAGL;2THIUTH;2EIS;2KUSMA;2LAGUS;2MANNA;2NAUTHS;2JER;2URUS;2PAIRTHRA;2ib;2RAIDA;2SAUIL;2TEIWS;2WINJA;2FAIHU;2IGGWS;2HWAIR;2OTHAL;2bvbt;=10350;0fvPERMIC abiy;3BUR;3GAI;3DOI;3E;3ZHOI;3DZHOI;3ZATA;3DZITA;3I;3KOKE;3LEI;3MENOE;3NENOE;3VOOI;3PEEI;3REI;3SII;3TAI;3U;3CHERY;3SHOOI;3SHCHOOI;3YRY;3YERU;3O;3gm;3EF;3bu;3TSIU;3VER;3YER;3YERI;3YAT;3IE;3ii;3ck;3IA;0hwfvPERMIC abiy;4DOI;4ZATA;4NENOE;4SII;=10380;0UGARITIC abALPA;2nc;2GAMLA;2ev;2mu;2HO;2WO;2rs;2HOTA;2TET;2YOD;2jq;2jt;2qo;2ni;2DHAL;2go;2ZU;2SAMKA;2iw;2PU;2SADE;2QOPA;2RASHA;2THANNA;2ok;2at;2I;2U;2SSU;=1039F;1qdDIVIDER;0fvPERSIAN afA;3I
3U;3bx;3KU;3da;3GU;3XA;3eo;3em;3JI;3cs;3TU;3cw;3DI;3DU;3ff;3ca;3dh;3hk;3cj;3NU;3ci;3MI;3ia;3ck;3fw;3VI;3cd;3RU;3ch;3cr;3gn;3eg;3hn;3bu;=103C8;3AURAMAZDAA;3AURAMAZDAA-2;3AURAMAZDAAHA;3XSHAAYATHIYA;3DAHYAAUSH;3DAHYAAUSH-2;3BAGA;3BUUMISH;2qdDIVIDER;2eyam;3al;3ds;3ho;3bt;=10400;0DESERET aeabdrI;4E;4A;4AH;4O;4gm;3geI;4E;4A;4AH;4O;4gm;3AY;3OW;3WU;3YEE;3H;3PEE;3BEE;3TEE;3DEE;3CHEE;3JEE;3KAY;3GAY;3EF;3VEE;3ETH;3THEE;3ES;3ZEE;3nr;3ZHEE;3ER;3EL;3EM;3gi;3ENG;3OI;3EW;1acabdrI;4E;4A;4AH;4O;4gm;3geI;4E;4A;4AH;4O;4gm;3AY;3OW;3WU;3YEE;3H;3PEE;3BEE;3TEE;3DEE;3CHEE;3JEE;3KAY;3GAY;3EF;3VEE;3ETH;3THEE;3ES;3ZEE;3nr;3ZHEE;3ER;3EL;3EM;3gi;3ENG;3OI;3EW;0SHAVIAN abPEEP;2TOT;2KICK;2FEE;2THIGH;2SO;2SURE;2CHURCH;2YEA;2HUNG;2BIB;2DEAD;2GAG;2VOW;2THEY;2ZOO;2MEASURE;2JUDGE;2WOE;2HA-HA;2LOLL;2MIME;2IF;2EGG;2gt;2ADO;2ez;2WOOL;2OUT;2AH;2ROAR;2go;2EAT;2AGE;2ICE;2bi;2OAK;2OOZE;2OIL;2AWE;2ARE;2do;2AIR;2ERR;2ARRAY;2EAR;2IAN;2YEW;0OSMANYA abcl;2dh;2cs;2em;2XA;2ev;2DEEL;2cd;2cr;2SHIIN;2gk;2CAYN;2da;2hk;2QAAF;2KAAF;2LAAN
2MIIN;2NUUN;2ie;2bu;2ck;2A;2E;2I;2O;2U;2dk;2hd;2gm;=104A0;1cudj;2am;2al;2as;2ay;2bc;2bj;2br;2bk;2bv;=104B0;0OSAGE aeabA;3dw;3iw;3AH;3BRA;3er;3EHCHA;3E;3EIN;3bu;3HYA;3I;3bx;3EHKA;3KYA;3ch;3ci;3cj;3O;3OIN;3ca;3EHPA;3cr;3eg;3cs;3EHTA;3ju;3EHTSA;3qc;3gk;3U;3en;3ev;3gj;3gn;3mo;=104D8;1acabA;3dw;3iw;3AH;3BRA;3er;3EHCHA;3E;3EIN;3bu;3HYA;3I;3bx;3EHKA;3KYA;3ch;3ci;3cj;3O;3OIN;3ca;3EHPA;3cr;3eg;3cs;3EHTA;3ju;3EHTSA;3qc;3gk;3U;3en;3ev;3gj;3gn;3mo;=10500;0ELBASAN abA;2BE;2CE;2lj;2DE;2NDE;2DHE;2EI;2E;2FE;2GE;2GJE;2hl;2I;2JE;2KE;2LE;2LLE;2ME;2NE;2cj;2NJE;2O;2gp;2QE;2RE;2RRE;2SE;2iu;2il;2id;2U;2VE;2XE;2Y;2ZE;2ZHE;2nv;2GHAMMA;2KHE;=10530;0CAUCASIAN ALBANIAN abALT;3BET;3GIM;3DAT;3EB;3ZARL;3EYN;3ZHIL;3TAS;3er;3YOWD;3mo;3IRB;3eg;3LAN;3INYA;3XEYN;3DYAN;3CAR;3JHOX;3KAR;3LYIT;3HEYT;3QAY;3AOR;3CHOY;3lk;3CYAY;3MAQ;3QAR;3NOWC;3DZYAY;3SHAK;3JAYN;3ez;3TYAY;3FAM;3DZAY;3CHAT;3PEN;3GHEYS;3RAT;3SEYK;3VEYZ;3TIWR;3SHOY;3IWN;3CYAW;3CAYN;3YAYD;3PIWR;3KIW;=1056F;2CITATION aq;0VITHKUQI aeabA;3BBE;3BE;3CE;3lj;3DE;3DHE;3EI
3E;3FE;3da;=1057C;3bu;3HHA;3I;3IJE;3JE;3bx;3ch;3kh;3ME;3NE;3NJE;3O;3gp;3QA;3RE;=1058C;3SE;3iu;3il;3id;3U;3VE;3XE;=10594;3Y;3ZE;=10597;1acabA;3BBE;3BE;3CE;3lj;3DE;3DHE;3EI;3E;3FE;3da;=105A3;3bu;3HHA;3I;3IJE;3JE;3bx;3ch;3kh;3ME;3NE;3NJE;3O;3gp;3QA;3RE;=105B3;3SE;3iu;3il;3id;3U;3VE;3XE;=105BB;3Y;3ZE;=10600;0LINEAR A afAB001;3AB002;3AB003;3AB004;3AB005;3AB006;3AB007;3AB008;3AB009;3AB010;3AB011;3AB013;3AB016;3AB017;3AB020;3AB021;3AB021F;3AB021M;3AB022;3AB022F;3AB022M;3AB023;3AB023M;3AB024;3AB026;3AB027;3AB028;3A028B;3AB029;3AB030;3AB031;3AB034;3AB037;3AB038;3AB039;3AB040;3AB041;3AB044;3AB045;3AB046;3AB047;3AB048;3AB049;3AB050;3AB051;3AB053;3AB054;3AB055;3AB056;3AB057;3AB058;3AB059;3AB060;3AB061;3AB065;3AB066;3AB067;3AB069;3AB070;3AB073;3AB074;3AB076;3AB077;3AB078;3AB079;3AB080;3AB081;3AB082;3AB085;3AB086;3AB087;3A100-102;3AB118;3AB120;3A120B;3AB122;3AB123;3AB131A;3AB131B;3A131C;3AB164;3AB171;3AB180;3AB188;3AB191;3A301;3A302;3A303;3A304;3A305;3A306;3A307;3A308;3A309A;3A309B;3A309C;3A310
3A311;3A312;3A313A;3A313B;3A313C;3A314;3A315;3A316;3A317;3A318;3A319;3A320;3A321;3A322;3A323;3A324;3A325;3A326;3A327;3A328;3A329;3A330;3A331;3A332;3A333;3A334;3A335;3A336;3A337;3A338;3A339;3A340;3A341;3A342;3A343;3A344;3A345;3A346;3A347;3A348;3A349;3A350;3A351;3A352;3A353;3A354;3A355;3A356;3A357;3A358;3A359;3A360;3A361;3A362;3A363;3A364;3A365;3A366;3A367;3A368;3A369;3A370;3A371;3A400-VAS;3A401-VAS;3A402-VAS;3A403-VAS;3A404-VAS;3A405-VAS;3A406-VAS;3A407-VAS;3A408-VAS;3A409-VAS;3A410-VAS;3A411-VAS;3A412-VAS;3A413-VAS;3A414-VAS;3A415-VAS;3A416-VAS;3A417-VAS;3A418-VAS;3A501;3A502;3A503;3A504;3A505;3A506;3A508;3A509;3A510;3A511;3A512;3A513;3A515;3A516;3A520;3A521;3A523;3A524;3A525;3A526;3A527;3A528;3A529;3A530;3A531;3A532;3A534;3A535;3A536;3A537;3A538;3A539;3A540;3A541;3A542;3A545;3A547;3A548;3A549;3A550;3A551;3A552;3A553;3A554;3A555;3A556;3A557;3A559;3A563;3A564;3A565;3A566;3A568;3A569;3A570;3A571;3A572;3A573;3A574;3A575;3A576;3A577;3A578;3A579;3A580;3A581;3A582;3A583;3A584;3A585;3A586
3A587;3A588;3A589;3A591;3A592;3A594;3A595;3A596;3A598;3A600;3A601;3A602;3A603;3A604;3A606;3A608;3A609;3A610;3A611;3A612;3A613;3A614;3A615;3A616;3A617;3A618;3A619;3A620;3A621;3A622;3A623;3A624;3A626;3A627;3A628;3A629;3A634;3A637;3A638;3A640;3A642;3A643;3A644;3A645;3A646;3A648;3A649;3A651;3A652;3A653;3A654;3A655;3A656;3A657;3A658;3A659;3A660;3A661;3A662;3A663;3A664;=10740;3A701 A;3A702 B;3A703 D;3A704 E;3A705 F;3A706 H;3A707 J;3A708 K;3A709 L;3A709-2 L2;3A709-3 L3;3A709-4 L4;3A709-6 L6;3A710 W;3A711 X;3A712 Y;3A713 ic;3A714 ABB;3A715 BB;3A717 DD;3A726 EYYY;3A732 JE;=10760;3A800;3A801;3A802;3A803;3A804;3A805;3A806;3A807;=10780;0jrabacaedk;2rpmlje;3bsmlje;2acAE;3aeB;3B aaaz;=10787;3DZ kd;5aahgaz;6mc;3DEZH kd;3D aafs;5az;6agfs;3ebE;3inebdnE;3FENG kd;3RAMS is;3aeG;3G aaaz;3aeG aaaz;3H aaba;3aeH;3HENG aaaz;3qlJ aabaagaz;3LS kd;3LZ kd;3L aaBELT;3aeL aaBELT;3L aahgazagBELT;3LEZH;4aahgaz;3dqY;5aaBELT;3O aaba;3aeht;3inic;3Q;3dqR aadroo;8aghgaz;3R aafs;5xn;3aeR;3TC kdaamc;3TS kd;5aahgaz;3TESH kd
3T aahgaz;3V aaaiaz;=107B2;3aeY;2keeiaaba;2ebkeeiaaba;2BILABIAL ta;2DENTAL ta;2LATERAL ta;2ALVEOLAR ta;2hgtaaahgaz;2acS aamc;=10800;0CYPRIOT otA;2E;2I;2O;2U;2em;=10808;2JO;=1080A;2bx;2KE;2KI;2KO;2KU;2ch;2LE;2LI;2LO;2LU;2ci;2ME;2MI;2MO;2ia;2cj;2NE;2NI;2hm;2NU;2ca;2gp;2hf;2PO;2PU;2cd;2RE;2RI;2RO;2RU;2cr;2SE;2SI;2SO;2SU;2cs;2il;2TI;2at;2TU;2en;2WE;2WI;2WO;=10837;2XA;2XE;=1083C;2gn;=1083F;2ZO;0IMPERIAL ARAMAIC aboh;3oi;3oz;3tt;3hl;3ie;3qv;3pr;3TETH;3qe;3pd;3pu;3ni;3go;3pi;3rt;3gp;3qa;3QOPH;3rk;3jt;3TAW;=10857;2lpaf;2eyam;3al;3as;3ds;3ho;3ambt;4cg;3dscg;0PALMYRENE aboh;2oi;2oz;2tt;2hl;2ie;2qv;2pr;2TETH;2qe;2pd;2pu;2ni;2aogo;2go;2pi;2rt;2gp;2qa;2QOPH;2rk;2jt;2TAW;1mvFLEURON;1lnFLEURON;1eyam;2al;2as;2ay;2bc;2ds;2ho;0NABATAEAN abaooh;2oh;2aooi;2oi;2oz;2tt;2aohl;2hl;2ie;2qv;2pr;2TETH;2aoqe;2qe;2aopd;2pd;2aopu;2pu;2aoni;2ni;2aogo;2go;2pi;2rt;2gp;2qa;2QOPH;2rk;2aojt;2jt;2TAW;=108A7;1eyam;2al;2as;2ay;1CRUCIFORM eyay;1eybc;2ds;2ho;2ambt;=108E0;0HATRAN aboh;2oi;2oz;2DALETH-RESH;2hl;2ie;2ZAYN;2pr
2TETH;2qe;2pd;2pu;2ni;2go;2pi;2AYN;2gp;2qa;2QOPH;=108F4;2jt;2TAW;=108FB;1eyam;2bc;2ds;2ho;2ambt;0PHOENICIAN abALF;2BET;2GAML;2DELT;2hl;2WAU;2ZAI;2HET;2TET;2YOD;2jq;2LAMD;2ni;2go;2SEMK;2iw;2gp;2SADE;2QOF;2ROSH;2jt;2of;1eyam;2ds;2ho;2ambt;2al;2as;=1091F;1qdjn;0LYDIAN abA;2B;2G;2D;2E;2V;2I;2Y;2K;2L;2M;2N;2O;2R;2SS;2T;2U;2F;2Q;2S;2TT;2iy;2gi;2LY;2NN;2C;=1093F;1mlaq;=10980;0MEROITIC HIEROGLYPHIC abA;3E;3I;3O;3ck;3en;3dh;3BA-2;3ca;3ci;3cj;3NA-2;3NE;3NE-2;3cd;3RA-2;3ch;3ev;3HHA;3cr;3SA-2;3SE;3bx;3QA;3cs;3TA-2;3il;3TE-2;3at;3cw;2bbVIDJ;3VIDJ-2;1CURSIVE abA;3E;3I;3O;3ck;3en;3dh;3ca;3ci;3cj;3NE;3cd;3ch;3ev;3HHA;3cr;3mzcr;3SE;3bx;3QA;3cs;3il;3at;3cw;=109BC;2nerzun;3ambs;2LOGOGRAM RMT;3IMN;2eyam;3al;3as;3ay;3bc;3bj;3br;3bk;3bv;3ds;3ho;3mk;3ns;3iz;3oq;3it;=109D2;3ambt;3albt;3asbt;3aybt;3bcbt;3bjbt;3brbt;3bkbt;3bvbt;3amcg;3alcg;3ascg;3aycg;3bccg;3bjcg;3brcg;3bkcg;3bvcg;3dscg;3hocg;3mkcg;3nscg;3izcg;3oqcg;3itcg;3ppcg;3ibcg;3ambtcg;3albtcg;3asbtcg;3aybtcg;3bcbtcg;3bjbtcg;3brbtcg;3bkbtcg;3bvbtcg
2neamTWELFTH;3alun;3asun;3ayun;3bcun;3bjun;3brun;3bkun;3bvun;3dsun;0KHAROSHTHI abA;1cqafI;3U;3flR;=10A05;3E;3O;=10A0C;2pvaq;1afapcvan;2gf;2im;1abbx;2ev;2da;2gj;=10A15;2eo;2er;2em;=10A19;2et;2gg;2hj;2gh;2hq;2gw;2cs;2ff;2cw;2gk;2cj;2ca;2fr;2dh;2gx;2ci;2ck;2cd;2ch;2fw;2eg;2hn;2cr;2gn;2bu;2KKA;2TTTHA;2TTTA;2VHA;=10A38;1afbnaj;2CAUDA;2aran;=10A3F;1hp;1cuam;2al;2as;2ay;1eyds;2ho;2ambt;3cg;1neambs;=10A50;1haar;2accb;2cb;2ydbn;2MANGALAM;2LOTUS;2jp;2apjp;2LINES;=10A60;0fvhbARABIAN abhl;4pu;4pr;4ni;4QOPH;4ie;4jt;4rk;4oi;4TAW;4SAT;4pd;4go;4KHETH;4qa;4pi;4FE;4cl;4AYN;4DHADHE;4oz;4tt;4GHAYN;4TETH;4ZAYN;4DHALETH;4qe;4THAW;4THETH;3eyam;4iz;3NUMERIC wf;1glARABIAN abjy;4ih;4dg;4bm;4ky;4ie;4ES-2;4jm;4mt;4nk;4ES-1;4jq;4hy;4fu;4ma;4ES-3;4ly;4cl;4iw;4nd;4GEEM;4DAL;4ok;4kj;4qf;4THAL;4ce;4sv;4ZAH;3eyam;4ds;4ho;=10AC0;0MANICHAEAN aboh;2oi;2BHETH;2oz;2GHIMEL;2tt;2hl;2ie;1afUD;1abqv;2ZHAYIN;2JAYIN;2JHAYIN;2pr;2TETH;2qe;2pd;2XAPH;2KHAPH;2pu;2DHAMEDH;2THAMEDH;2ni;2go;2pi;2rt;2AAYIN;2gp;2FE;2qa;2QOPH;2XOPH;2QHOPH
2rk;2jt;2SSHIN;2TAW;1nmaqaj;3an;=10AEB;1eyam;2bc;2ds;2ho;2ambt;1hafk;2FLEURON;2aparWITHIN ar;2arWITHIN ar;3;2alcc;2eeva;=10B00;0AVESTAN abA;2dk;2AO;2AAO;2iy;2AAN;2AE;2AEE;2E;2hd;2O;2gm;2I;2dx;2U;2ek;2KE;2XE;2XYE;2XVE;2GE;2GGE;2nv;2CE;2JE;2il;2id;2DE;2DHE;2TTE;2gp;2FE;2BE;2BHE;2NGE;2NGYE;2NGVE;2NE;2NYE;2NNE;2ME;2HME;2YYE;2YE;2VE;2RE;2LE;2SE;2ZE;2iu;2ZHE;2SHYE;2SSHE;2hl;=10B39;1nmaq;0TINY alcccfamarha;0acalcccfamarha;0epalcccfamarha;1amarcfalccha;1alRINGS cfamcvha;1amcvcfalRINGS ha;0INSCRIPTIONAL PARTHIAN aboh;3oi;3oz;3tt;3hl;3ie;3qv;3pr;3TETH;3qe;3pd;3pu;3ni;3go;3pi;3rt;3gp;3qa;3QOPH;3rk;3jt;3TAW;=10B58;2eyam;3al;3as;3ay;3ds;3ho;3ambt;4cg;1PAHLAVI aboh;3oi;3oz;3tt;3hl;3WAW-AYIN-RESH;3qv;3pr;3TETH;3qe;3pd;3pu;3MEM-QOPH;3go;3pi;3gp;3qa;3jt;3TAW;=10B78;2eyam;3al;3as;3ay;3ds;3ho;3ambt;4cg;0PSALTER PAHLAVI aboh;3oi;3oz;3tt;3hl;3WAW-AYIN-RESH;3qv;3pr;3qe;3pd;3pu;3MEM-QOPH;3go;3pi;3gp;3qa;3jt;3TAW;=10B99;2lpaq;2dqlpaq;2ayccaagr;5ar;=10BA9;2eyam;3al;3as;3ay;3ds;3ho;3ambt;=10C00;0fvTURKIC abjzA
3kmA;4AE;3jzI;3kmI;4E;3jzO;4ht;3kmht;3jzAB;3kmAB;3jzAEB;3kmAEB;3jzAG;3kmAG;3jzAEG;3kmAEG;3jzAD;3kmAD;3jzAED;4EZ;3kmEZ;3jzAY;3kmAY;3jzAEY;3kmAEY;3jzAEK;3kmAEK;3jzOEK;3kmOEK;3jzAL;3kmAL;3jzAEL;4ELT;4EM;4iy;4AEN;3kmAEN;3jzENT;3kmENT;3jzENC;3kmENC;3jzENY;3kmENY;4ANG;3jzENG;3kmAENG;3jzEP;4OP;4IC;4EC;3kmEC;3jzAQ;3kmAQ;3jzIQ;3kmIQ;3jzOQ;3kmOQ;3jzAR;3kmAR;3jzAER;4AS;4AES;4gt;3kmgt;3jznr;3kmnr;3jzAT;3kmAT;3jzAET;3kmAET;3jzOT;4BASH;=10C80;1HUNGARIAN aeabA;4dk;4EB;4AMB;4EC;4ENC;4ECS;4ED;4ag;4E;4CLOSE E;4hd;4EF;4EG;4EGY;4EH;4I;4dx;4EJ;4EK;4AK;4UNK;4EL;4ELY;4EM;4gi;4ENY;4O;4gm;4NIKOLSBURG ht;4RUDIMENTA ht;4OEE;4EP;4EMP;4ER;4geER;4ES;4ESZ;4ET;4ENT;4ETY;4ECH;4U;4ek;4NIKOLSBURG UE;4RUDIMENTA UE;4EV;4EZ;4EZS;4ENT-SHAPED af;4US;=10CC0;2acabA;4dk;4EB;4AMB;4EC;4ENC;4ECS;4ED;4ag;4E;4CLOSE E;4hd;4EF;4EG;4EGY;4EH;4I;4dx;4EJ;4EK;4AK;4UNK;4EL;4ELY;4EM;4gi;4ENY;4O;4gm;4NIKOLSBURG ht;4RUDIMENTA ht;4OEE;4EP;4EMP;4ER;4geER;4ES;4ESZ;4ET;4ENT;4ETY;4ECH;4U;4ek;4NIKOLSBURG UE;4RUDIMENTA UE;4EV;4EZ;4EZS;4ENT-SHAPED af
4US;=10CFA;2eyam;3bc;3ds;3iz;3ambt;4cg;0HANIFI ROHINGYA abA;3dh;3ca;3cs;3gg;3em;3eo;3bu;3ev;3hk;3cw;3gh;3cd;3mx;3gn;3cr;3eg;3bx;3da;3ch;3ci;3cj;3en;3KINNA en;3ck;3KINNA ck;3ef;3et;3fw;2cqA;3I;3U;3E;3O;2aqSAKIN;3cjKHONNA;2afHARBAHAY;3TAHALA;3TANA;3TASSI;=10D30;2cudj;3am;3al;3as;3ay;3bc;3bj;3br;3bk;3bv;=10E60;0RUMI cuam;2al;2as;2ay;2bc;2bj;2br;2bk;2bv;1eyds;2ho;2mk;2ns;2iz;2oq;2it;2pp;2ib;2ambt;2albt;2asbt;2aybt;2bcbt;2bjbt;2brbt;2bkbt;2bvbt;1neambs;3jb;3rq;2alvl;=10E80;0YEZIDI abELIF;2BE;2gp;2PHE;2id;2SE;2CIM;2CHIM;2CHHIM;2HHA;2XA;2DAL;2ZAL;2cd;2RHA;2gn;2em;2SIN;2jt;2ma;2nd;2cs;2ZE;2EYN;2XHEYN;2hk;2fw;3luad;2ky;2jq;2KHAF;2GAF;2ih;2MIM;2go;2UM;2ie;2OW;2EW;2HAY;2YOT;2ET;=10EAB;1hwijaq;2vfaq;1HYPHENATION aq;=10EB0;1abihaaaraj;2YOT aadtaj;=10F00;0fvSOGDIAN aboh;3aooh;3oi;3aooi;3oz;3hl;3aohl;3ie;3qv;3pr;3qe;3pd;3pu;3ni;3go;3aogo;5aabhfs;3pi;3rt;3lurt;3gp;3qa;3aoqa;5aabhfs;3RESH-AYIN-DALETH;3jt;3TAW;3aoTAW;5aabhfs;2eyam;3al;3as;3ay;3bc;3ds;3ho;3mk;3ambt;2neambs;2jaAYIN-DALETH;=10F30
0SOGDIAN aboh;2oi;2oz;2hl;2ie;2qv;2pr;2qe;2pd;2pu;2ni;2go;2pi;2rt;2gp;2qa;2RESH-AYIN;2jt;2TAW;2FETH;2LESH;1wejt;1hwaran;2alccan;2araj;2alccaj;2nqaj;3an;2azaj;3an;2drazan;2rkan;2baan;1eyam;2ds;2ho;2ambt;1haalbhBARS;5aacc;2cbaaar;2alqwaacc;2bscbaaar;=10F70;0fvUYGHUR aboh;3oi;3GIMEL-HETH;3ie;3qv;3aopr;3qe;3pd;3pu;3ni;3go;3pi;3gp;3qa;3rk;3jt;3TAW;3LESH;2hwaraj;4an;3alccaj;5an;2habn;3alBARS;4cc;3aycc;=10FB0;0CHORASMIAN aboh;2acoh;2oi;2oz;2tt;2hl;2ie;2CURLED ie;2qv;2pr;2qe;2pd;2pu;2ni;2go;2pi;2rt;2gp;2rk;2jt;2TAW;1eyam;2al;2as;2ay;2ds;2ho;2ambt;=10FE0;0ELYMAIC aboh;2oi;2oz;2tt;2hl;2ie;2qv;2pr;2TETH;2qe;2pd;2pu;2ni;2go;2pi;2rt;2gp;2qa;2QOPH;2rk;2jt;2TAW;1jaZAYIN-YODH;=11000;0BRAHMI afjg;2gf;2im;2yn;2yx;1abA;2dk;2I;2dx;2U;2ek;2flR;3hu;3L;3ip;2E;2dw;2O;2ed;2bx;2ev;2da;2gj;2ef;2eo;2er;2em;2ik;2et;2gg;2hj;2gh;2hq;2gw;2cs;2ff;2cw;2gk;2cj;2ca;2fr;2dh;2gx;2ci;2ck;2cd;2ch;2fw;2eg;2hn;2cr;2bu;2kh;2fvTAMIL LLLA;4mx;4NNNA;1cqafdk;3BHATTIPROLU dk;3I;3dx;3U;3ek;3flR;4hu;4L;4ip;3E;3dw;3O;3ed;1hp;1jp;1apjp
1haar;2apar;2ee;2ydbn;2LOTUS;=11052;1eyam;2al;2as;2ay;2bc;2bj;2br;2bk;2bv;2ds;2ho;2mk;2ns;2iz;2oq;2it;2pp;2ib;2ambt;3cg;1cudj;2am;2al;2as;2ay;2bc;2bj;2br;2bk;2bv;1affvTAMIL hp;1abfvTAMIL geE;5O;1cqaffvTAMIL geE;6O;1abfvTAMIL kh;=1107F;1eyJOINER;0KAITHI afjg;2gf;2im;1abA;2dk;2I;2dx;2U;2ek;2E;2dw;2O;2ed;2bx;2ev;2da;2gj;2ef;2eo;2er;2em;2ik;2et;2gg;2hj;2gh;2DDDHA;2hq;2RHA;2gw;2cs;2ff;2cw;2gk;2cj;2ca;2fr;2dh;2gx;2ci;2ck;2cd;2ch;2fw;2eg;2hn;2cr;2bu;1cqafdk;3I;3dx;3U;3ek;3E;3dw;3O;3ed;1afhp;2lf;1nmaf;1ENUMERATION af;1eyaf;1lpaq;1aplpaq;1jp;1apjp;1cqafflR;=110CD;1eyafaj;=110D0;0SORA SOMPENG abSAH;3kj;3BAH;3CAH;3DAH;3GAH;3MAH;3NGAH;3LAH;3NAH;3VAH;3PAH;3YAH;3RAH;3dg;3KAH;3JAH;3NYAH;3AH;3EEH;3IH;3UH;3OH;3EH;3MAE;=110F0;2cudj;3am;3al;3as;3ay;3bc;3bj;3br;3bk;3bv;=11100;0CHAKMA afjg;2gf;2im;1abdk;2I;2U;2E;2KAA;2KHAA;2GAA;2GHAA;2NGAA;2CAA;2CHAA;2JAA;2JHAA;2NYAA;2TTAA;2TTHAA;2DDAA;2DDHAA;2NNAA;2TAA;2THAA;2DAA;2DHAA;2NAA;2PAA;2PHAA;2BAA;2BHAA;2MAA;2YYAA;2YAA;2RAA;2LAA;2WAA;2SAA;2HAA;1cqafA;3I;3dx;3U
3ek;3E;3dw;3O;3ed;3OI;1O aq;1edaq;1hp;1MAAYYAA;=11136;1cudj;2am;2al;2as;2ay;2bc;2bj;2br;2bk;2bv;1lpaq;1jp;1apjp;1kbaq;1abLHAA;1cqafdk;3EI;1abVAA;=11150;0MAHAJANI abA;2I;2U;2E;2O;2bx;2ev;2da;2gj;2eo;2er;2em;2ik;2et;2gg;2hj;2gh;2hq;2gw;2cs;2ff;2cw;2gk;2cj;2ca;2fr;2dh;2gx;2ci;2cd;2ch;2fw;2cr;2bu;2mx;1aflf;1nmaf;1lpaq;1jaSHRI;=11180;0SHARADA afjg;2gf;2im;1abA;2dk;2I;2dx;2U;2ek;2flR;3hu;3L;3ip;2E;2dw;2O;2ed;2bx;2ev;2da;2gj;2ef;2eo;2er;2em;2ik;2et;2gg;2hj;2gh;2hq;2gw;2cs;2ff;2cw;2gk;2cj;2ca;2fr;2dh;2gx;2ci;2ck;2cd;2ch;2kh;2fw;2eg;2hn;2cr;2bu;1cqafdk;3I;3dx;3U;3ek;3flR;4hu;4L;4ip;3E;3dw;3O;3ed;1afhp;2ox;2yn;2yx;1OM;1jp;1apjp;1nmaf;1jn;1SANDHI aq;1aflf;1cqjraq;1EXTRA gecqaq;1SUTRA aq;1cqafPRISHTHAMATRA E;1afeujg;1cudj;2am;2al;2as;2ay;2bc;2bj;2br;2bk;2bv;1EKAM;1afxu;1HEADSTROKE;1CONTINUATION af;1lpMARK-1;2MARK-2;=111E1;0SINHALA mzcuam;3al;3as;3ay;3bc;3bj;3br;3bk;3bv;2eyds;3ho;3mk;3ns;3iz;3oq;3it;3pp;3ib;3ambt;4cg;=11200;0KHOJKI abA;2dk;2I;2U;2E;2dw;2O;2ed;2bx;2ev;2da;2GGA;2gj;2ef;2eo;2er;2em
2JJA;=11213;2et;2gg;2hj;2gh;2hq;2gw;2cs;2ff;2cw;2DDDA;2gk;2cj;2ca;2fr;2dh;2BBA;2gx;2ci;2ck;2cd;2ch;2fw;2cr;2bu;2kh;1cqafdk;3I;3dx;3U;3E;3dw;3O;3ed;1afgf;2hp;2lf;2SHADDA;1jp;1apjp;1qdjn;1lpaq;1aplpaq;1nmaf;1afSUKUN;=11280;0MULTANI abA;2I;2U;2E;2bx;2ev;2da;=11288;2gj;=1128A;2eo;2er;2em;2JJA;=1128F;2et;2gg;2hj;2gh;2DDDA;2hq;2gw;2cs;2ff;2cw;2gk;2cj;2ca;2fr;2dh;=1129F;2gx;2ci;2ck;2cd;2ch;2fw;2cr;2bu;2mx;2RHA;1lpaq;=112B0;0KHUDAWADI abA;2dk;2I;2dx;2U;2ek;2E;2dw;2O;2ed;2bx;2ev;2da;2GGA;2gj;2ef;2eo;2er;2em;2JJA;2ik;2et;2gg;2hj;2gh;2DDDA;2mx;2hq;2gw;2cs;2ff;2cw;2gk;2cj;2ca;2fr;2dh;2BBA;2gx;2ci;2ck;2cd;2ch;2fw;2eg;2cr;2bu;1afgf;1cqafdk;3I;3dx;3U;3ek;3E;3dw;3O;3ed;1aflf;2hp;=112F0;1cudj;2am;2al;2as;2ay;2bc;2bj;2br;2bk;2bv;=11300;0GRANTHA afhwgfaj;2jg;2gf;2im;=11305;1abA;2dk;2I;2dx;2U;2ek;2flR;3L;=1130F;2hd;2dw;=11313;2gm;2ed;2bx;2ev;2da;2gj;2ef;2eo;2er;2em;2ik;2et;2gg;2hj;2gh;2hq;2gw;2cs;2ff;2cw;2gk;2cj;=1132A;2ca;2fr;2dh;2gx;2ci;2ck;2cd;=11332;2ch;2kh;=11335;2fw;2eg;2hn;2cr;2bu;=1133B
0hwBINDU an;0GRANTHA aflf;2ox;1cqafdk;3I;3dx;3U;3ek;3flR;4hu;=11347;3hd;3dw;=1134B;3gm;3ed;1afhp;=11350;1OM;=11357;1edpvaq;=1135D;1afPLUTA;1abVEDIC gf;3apgf;2flhu;3ip;1cqafflL;4ip;=11366;0hwGRANTHA cudj;3am;3al;3as;3ay;3bc;3bj;=11370;2abA;3bx;3cj;3VI;3ca;=11400;0NEWA abA;2dk;2I;2dx;2U;2ek;2flR;3hu;3L;3ip;2E;2dw;2O;2ed;2bx;2ev;2da;2gj;2ef;2NGHA;2eo;2er;2em;2ik;2et;2NYHA;2gg;2hj;2gh;2hq;2gw;2cs;2ff;2cw;2gk;2cj;2NHA;2ca;2fr;2dh;2gx;2ci;2MHA;2ck;2cd;2RHA;2ch;2LHA;2en;2eg;2hn;2cr;2bu;1cqafdk;3I;3dx;3U;3ek;3flR;4hu;4L;4ip;3E;3dw;3O;3ed;1afhp;2jg;2gf;2im;2lf;2ox;2aogf;1OM;1SIDDHI;1jp;1apjp;1fe;1GAP va;1nmaf;1cudj;2am;2al;2as;2ay;2bc;2bj;2br;2bk;2bv;1apfe;1PLACEHOLDER aq;=1145D;1INSERTION af;1SANDHI aq;1abVEDIC gf;1afyn;2yx;=11480;0TIRHUTA ANJI;1abA;2dk;2I;2dx;2U;2ek;2flR;3hu;3L;3ip;2E;2dw;2O;2ed;2bx;2ev;2da;2gj;2ef;2eo;2er;2em;2ik;2et;2gg;2hj;2gh;2hq;2gw;2cs;2ff;2cw;2gk;2cj;2ca;2fr;2dh;2gx;2ci;2ck;2cd;2ch;2fw;2eg;2hn;2cr;2bu;1cqafdk;3I;3dx;3U;3ek;3flR;4hu;4L;4ip;3E;3geE;3dw;3O;3geO;3ed;1afjg
2gf;2im;2hp;2lf;2ox;1GVANG;1nmaf;1OM;=114D0;1cudj;2am;2al;2as;2ay;2bc;2bj;2br;2bk;2bv;=11580;0xuabA;2dk;2I;2dx;2U;2ek;2flR;3hu;3L;3ip;2E;2dw;2O;2ed;2bx;2ev;2da;2gj;2ef;2eo;2er;2em;2ik;2et;2gg;2hj;2gh;2hq;2gw;2cs;2ff;2cw;2gk;2cj;2ca;2fr;2dh;2gx;2ci;2ck;2cd;2ch;2fw;2eg;2hn;2cr;2bu;1cqafdk;3I;3dx;3U;3ek;3flR;4hu;=115B8;3E;3dw;3O;3ed;1afjg;2gf;2im;2hp;2lf;2xu;1jp;1apjp;1jnar;2bn;1REPETITION MARK-1;2MARK-2;2MARK-3;1igawTEXT aq;1lpaqaaTRIDENT agU-SHAPED ORNAMENTS;6hzvu;4RAYS aghzvu;7apvu;7gsvu;3apcv;5aaRAYS;3aaapvu;4gsvu;4tivu;4SEPTUPLE vu;4qwagRAYS;6alENCLOSURES;6ayENCLOSURES;1abTHREE-CIRCLE luI;2TWO-CIRCLE luI;4dx;2luU;1cqafluU;4ek;=11600;0MODI abA;2dk;2I;2dx;2U;2ek;2flR;3hu;3L;3ip;2E;2dw;2O;2ed;2bx;2ev;2da;2gj;2ef;2eo;2er;2em;2ik;2et;2gg;2hj;2gh;2hq;2gw;2cs;2ff;2cw;2gk;2cj;2ca;2fr;2dh;2gx;2ci;2ck;2cd;2ch;2fw;2eg;2hn;2cr;2bu;2kh;1cqafdk;3I;3dx;3U;3ek;3flR;4hu;4L;4ip;3E;3dw;3O;3ed;1afgf;2im;2hp;2ARDHACANDRA;1jp;1apjp;1nmaf;1afHUVA;=11650;1cudj;2am;2al;2as;2ay;2bc;2bj;2br;2bk;2bv;=11660
0MONGOLIAN traagc;1fbtr;1aptraagc;1gstraagc;1traaapgc;1fbtraagc;4apgc;1eutr;3aaapgc;1SWIRL tr;3aagc;4apgc;1dqSWIRL traaapgc;=11680;0TAKRI abA;2dk;2I;2dx;2U;2ek;2E;2dw;2O;2ed;2bx;2ev;2da;2gj;2ef;2eo;2er;2em;2ik;2et;2gg;2hj;2gh;2hq;2gw;2cs;2ff;2cw;2gk;2cj;2ca;2fr;2dh;2gx;2ci;2ck;2cd;2ch;2fw;2eg;2cr;2bu;2mx;1afgf;2im;1cqafdk;3I;3dx;3U;3ek;3E;3dw;3O;3ed;1afhp;2lf;1abmzev;1nmaf;=116C0;1cudj;2am;2al;2as;2ay;2bc;2bj;2br;2bk;2bv;=11700;0AHOM abbx;2ev;2ef;2cj;2cs;2lucs;2ca;2fr;2dh;2ci;2em;2er;2ff;2cd;2ch;2cr;2et;2bu;2A;2cw;2gk;2da;2luda;2gj;2gx;2ik;2ludh;=1171D;1lvafdich;4cd;4LIGATING cd;1cqafA;3dk;3I;3dx;3U;3ek;3E;3AW;3O;3dw;3AM;1afKILLER;=11730;1cudj;2am;2al;2as;2ay;2bc;2bj;2br;2bk;2bv;1eyds;2ho;1afaclp;2lp;2RULAI;1bbVI;1abeo;2gg;2hj;2gh;2hq;2gw;2kh;=11800;0DOGRA abA;2dk;2I;2dx;2U;2ek;2E;2dw;2O;2ed;2bx;2ev;2da;2gj;2ef;2eo;2er;2em;2ik;2et;2gg;2hj;2gh;2hq;2gw;2cs;2ff;2cw;2gk;2cj;2ca;2fr;2dh;2gx;2ci;2ck;2cd;2ch;2fw;2eg;2hn;2cr;2bu;2mx;1cqafdk;3I;3dx;3U;3ek;3flR;4hu;3E;3dw;3O;3ed;1afgf;2im;2hp
2lf;1nmaf;=118A0;0WARANG CITI aeabNGAA;4A;4WI;4ii;4ck;4YO;4dx;4ek;4E;4O;4ANG;4da;4KO;4ENY;4YUJ;4UC;4ENN;4ODD;4TTE;4NUNG;4cw;4AT;4AM;4BU;4PU;4HIYO;4HOLO;4HORR;4HAR;4SSUU;4SII;4VIYO;2acabNGAA;4A;4WI;4ii;4ck;4YO;4dx;4ek;4E;4O;4ANG;4da;4KO;4ENY;4YUJ;4UC;4ENN;4ODD;4TTE;4NUNG;4cw;4AT;4AM;4BU;4PU;4HIYO;4HOLO;4HORR;4HAR;4SSUU;4SII;4VIYO;2cudj;3am;3al;3as;3ay;3bc;3bj;3br;3bk;3bv;2eyds;3ho;3mk;3ns;3iz;3oq;3it;3pp;3ib;=118FF;2OM;0DIVES AKURU abA;3dk;3I;3dx;3U;3ek;3E;=11909;3O;=1190C;3bx;3ev;3da;3gj;3ef;3eo;3er;3em;=11915;3et;3gg;=11918;3gh;3hq;3gw;3cs;3ff;3cw;3gk;3cj;3ca;3fr;3dh;3gx;3ci;3ck;3YYA;3cd;3ch;3fw;3eg;3hn;3cr;3bu;3kh;3gn;2cqafdk;4I;4dx;4U;4ek;4E;=11937;4dw;4O;=1193B;2afgf;3jg;3HALANTA;2hp;2PREFIXED NASAL af;2dick;2bdcd;2dicd;2aflf;2apjp;2GAP va;2igawTEXT aq;=11950;2cudj;3am;3al;3as;3ay;3bc;3bj;3br;3bk;3bv;=119A0;0NANDINAGARI abA;2dk;2I;2dx;2U;2ek;2flR;3hu;=119AA;2E;2dw;2O;2ed;2bx;2ev;2da;2gj;2ef;2eo;2er;2em;2ik;2et;2gg;2hj;2gh;2hq;2gw;2cs;2ff;2cw;2gk;2cj;2ca;2fr;2dh;2gx;2ci;2ck;2cd;2ch
2fw;2eg;2hn;2cr;2bu;2kh;2mx;1cqafdk;3I;3dx;3U;3ek;3flR;4hu;=119DA;3E;3dw;3O;3ed;1afgf;2im;2hp;2ox;2xu;1HEADSTROKE;1cqafPRISHTHAMATRA E;=11A00;0ZANABAZAR bzabA;2cqafI;4UE;4U;4E;4ht;4O;4dw;4ed;4ebI;3pvaq;2abbx;3ev;3da;3gj;3ef;3eo;3er;3em;3et;3gg;3hj;3gh;3hq;3gw;3cs;3ff;3cw;3gk;3cj;3ca;3fr;3dh;3gx;3ci;3ju;3qc;3DZA;3DZHA;3mo;3gn;3-A;3ck;3cd;3ch;3fw;3eg;3hn;3cr;3bu;3KSSA;2aolvaq;2afhp;3jg;4aagc;3pnaagc;3gf;3im;2CLUSTER-INITIAL abcd;2CLUSTER-FINAL abck;4cd;4ch;4fw;2bdnfaq;2CLOSING nfaq;2aqtl;3pj;3appj;3drtl;2bdDOUBLE-LINED nfaq;2CLOSING DOUBLE-LINED nfaq;2SUBJOINER;=11A50;0SOYOMBO abA;1cqafI;3UE;3U;3E;3O;3ht;3dw;3ed;3flR;4L;2pvaq;1abbx;2ev;2da;2gj;2ef;2eo;2er;2em;2ik;2et;2gg;2hj;2gh;2hq;2gw;2cs;2ff;2cw;2gk;2cj;2ca;2fr;2dh;2gx;2ci;2ju;2qc;2DZA;2mo;2gn;2-A;2ck;2cd;2ch;2fw;2eg;2hn;2cr;2bu;2KSSA;1afyn;2yx;1CLUSTER-INITIAL abcd;3ch;3eg;3cr;1aolvafG;4K;4NG;4D;4N;4B;4M;4R;4L;4SH;4S;4-A;1afgf;2im;1zcaq;1SUBJOINER;1aqtl;2pj;2appj;2PLUTA;1nfaqaakxagSUN aggsFLAME;8FLAME;7;1TERMINAL MARK-1;2MARK-2
=11AB0;0CANADIAN SYLLABICS NATTILIK HI;3HII;3HO;3HOO;3bu;3HAA;3SHRI;3SHRII;3SHRO;3SHROO;3SHRA;3SHRAA;2SPE;2SPI;2SPO;2SPA;0PAU CIN HAU abca;4bx;4ch;4ci;4cw;4gn;4fw;4ef;4bu;4da;4ev;4cr;4dh;4eo;4cs;4ff;4cj;4fr;4cd;4hk;4er;4A;4E;4I;4O;4U;4UA;4IA;4aoP;5K;5T;5M;5N;5L;5W;5NG;5Y;3rldvdr;5;3SANDHI keei;3rldvdrao;5ao;3SANDHI keeiao;4dvdr;5;5drao;5ao;3MID-LEVEL dv;3keeimm;3MID-LEVEL dvdrao;5ao;3LOW-FALLING dvdr;5;3keei;3LOW-FALLING dvdrao;5ao;3keeiao;=11C00;0BHAIKSUKI abA;2dk;2I;2dx;2U;2ek;2flR;3hu;3L;=11C0A;2E;2dw;2O;2ed;2bx;2ev;2da;2gj;2ef;2eo;2er;2em;2ik;2et;2gg;2hj;2gh;2hq;2gw;2cs;2ff;2cw;2gk;2cj;2ca;2fr;2dh;2gx;2ci;2ck;2cd;2ch;2fw;2eg;2hn;2cr;2bu;1cqafdk;3I;3dx;3U;3ek;3flR;4hu;4L;=11C38;3E;3dw;3O;3ed;1afjg;2gf;2im;2hp;2ox;1jp;1apjp;1qdjn;1GAP FILLER-1;2FILLER-2;=11C50;1cudj;2am;2al;2as;2ay;2bc;2bj;2br;2bk;2bv;1eyam;2al;2as;2ay;2bc;2bj;2br;2bk;2bv;2ds;2ho;2mk;2ns;2iz;2oq;2it;2pp;2ib;1HUNDREDS UNIT aq;=11C70;0MARCHEN nfaq;1aqpj;1abbx;2ev;2da;2ef;2eo;2er;2em;2et;2cs;2ff;2cw;2cj;2ca;2fr;2dh;2ci
2ju;2qc;2DZA;2en;2mo;2gn;2-A;2ck;2cd;2ch;2eg;2cr;2bu;2A;=11C92;1yuabbx;3ev;3da;3ef;3eo;3er;3em;3et;3cs;3ff;3cw;3cj;3ca;3fr;3dh;3ci;3ju;3qc;3DZA;3en;3mo;3gn;=11CA9;3ck;3cd;3ch;3eg;3cr;3bu;3A;1cqafdk;3I;3U;3E;3O;1afgf;2jg;=11D00;0MASARAM GONDI abA;3dk;3I;3dx;3U;3ek;3E;=11D08;3dw;3O;=11D0B;3ed;3bx;3ev;3da;3gj;3ef;3eo;3er;3em;3ik;3et;3gg;3hj;3gh;3hq;3gw;3cs;3ff;3cw;3gk;3cj;3ca;3fr;3dh;3gx;3ci;3ck;3cd;3ch;3fw;3eg;3hn;3cr;3bu;3kh;3KSSA;3JNYA;3TRA;2cqafdk;4I;4dx;4U;4ek;4flR;=11D3A;4E;=11D3C;4dw;4O;=11D3F;4ed;2afgf;3im;3lf;3pn;3HALANTA;2hp;2REPHA;2RA-KARA;=11D50;2cudj;3am;3al;3as;3ay;3bc;3bj;3br;3bk;3bv;=11D60;0GUNJALA GONDI abA;3dk;3I;3dx;3U;3ek;=11D67;3hd;3dw;=11D6A;3gm;3ed;3ck;3fw;3dh;3gx;3ci;3bx;3ev;3cs;3ff;3ch;3da;3gj;3cw;3gk;3cj;3eo;3er;3gg;3hj;3kh;3em;3ik;3gh;3hq;3ef;3ca;3fr;3bu;3cd;3cr;2cqafdk;4I;4dx;4U;4ek;=11D90;4hd;4dw;=11D93;4gm;4ed;2afgf;3im;2hp;2OM;=11DA0;2cudj;3am;3al;3as;3ay;3bc;3bj;3br;3bk;3bv;=11EE0;0MAKASAR abbx;2da;2ef;2ca;2dh;2ci;2cs;2cw;2cj;2eo;2em;2et;2ck;2cd;2ch;2fw;2cr
2A;1ANGKA;1cqafI;3U;3E;3O;1PASSIMBANG;1igawlp;=11FB0;0LISU abYHA;=11FC0;0TAMIL neamTHREE-HUNDRED-AND-TWENTIETH;3ONE-HUNDRED-AND-SIXTIETH;3EIGHTIETH;3SIXTY-FOURTH;3FORTIETH;3THIRTY-SECOND;2asEIGHTIETHS;3SIXTY-FOURTHS;2amTWENTIETH;3SIXTEENTH-1;3SIXTEENTH-2;3TENTH;3ko;2asTWENTIETHS;3SIXTEENTHS;2amFIFTH;3jb;3HALF-1;3HALF-2;2aspz;2DOWNSCALING FACTOR KIIZH;1afNEL;2CEVITU;2AAZHAAKKU;2UZHAKKU;2MUUVUZHAKKU;2KURUNI;2PATHAKKU;2MUKKURUNI;2KAACU;2PANAM;2PON;2VARAAKAN;2PAARAM;2KUZHI;2VELI;1WET CULTIVATION af;1DRY CULTIVATION af;1LAND af;1SALT PAN af;1TRADITIONAL CREDIT af;2eyaf;1CURRENT af;1agODD af;1SPENT af;1TOTAL af;1fpPOSSESSION af;1STARTING jiaf;1afMUTHALIYA;2VAKAIYARAA;=11FFF;1haigawTEXT;0CUNEIFORM afA;3blA;4nb;4nuhh;4bu;4kw;4LAGAR ga;4MUSH;4SAG;2A2;2AB;3blASH2;4DUN3 ga;4GAL;4nuhh;4bu;4kwga;4IMIN;4sg;4SHESH;4U boU boU;3ga;2AB2;3blBALAG;4nuhh;4ME bogi;4SHA3;4pl;2AD;2AK;3blERIN2;4SHITA bopa;2AL;3blAL;4DIM2;4pa;4bu;4KAD3;4KI;4iu;4USH;2ALAN;2oh;2AMAR;3bliu;2iy;3cfiy;3asbl;3boNAGA wpiyboNAGA;5ir
2ANSHE;2APIN;2ARAD;3blKUR;2ARKAB;2ASAL2;2gt;3ZIDA hh;3KABA hh;3cfgtTUG2 cfTUG2 TUG2 cfTUG2 PAP;5cfgt;7jhgtcfgtcfgt;2ASH2;2ASHGAB;2dh;2nb;2BAG3;2BAHAR2;2BAL;3cfBAL;2BALAG;2bn;2BARA2;2BI;3blA;4kp;4kwga;2BU;3cfBU AB;5UN;3jhBU;2BULUG;3cfBULUG;2BUR;2BUR2;2cw;2DAG;3KISIM5 blA boMASH;5AMAR;5BALAG;5BI;5da;6boMASH;5GI;5GIR2;5GUD;5bu;5IR;6boLU;5KAK;5ch;5LU;6boMASH2;5LUM;5NE;5PAP boPAP;5SI;5pl;5U2 boGIR2;5USH;2DAM;2DAR;2DARA3;2DARA4;2DI;2DIB;2DIM;3bliu;2DIM2;2DIN;3seU galx;2lx;2DU;3cfDU;3ga;3wx;2DUB;3blESH2;2DUB2;2DUG;2DUGUD;2DUH;2DUN;2DUN3;3ga;4ga;2DUN4;2DUR2;2E;3blPAP;3cfE gocfgo;2E2;3blA bobubocw;4kp;4MI;4SAL;4iu;4U;2EDIN;2EGIR;2EL;2gi;3blnu;5hh;4ME;3jhgi;3wpgi;3ir;2EREN;2ERIN2;2ESH2;2EZEN;3blA;5boLAL;7blLAL;4iy;4nb;4DUN3 ga;6ga;4bu;5ga;4kwga;4se;5ir;4KU3;4ch;4LAL blLAL;4LI;4LU;4U2;4UD;2da;3ga;2GA2;3blA bocwbobu;6bu;6kw;4AB2 hhboTAB;4iy;4gt;4ASH2 boGAL;4nb;4bnbocd;4BUR;5bocd;4cw;4DI;4DIM bliu;4DUB;4EL;5boch;4gi;5blnuhh;4nuhh;4kp;4GI;4GI4;5boA;4GIR2 boSU;4buboLU boESH2;4HAL;5boch;4HI boLI;4HUB2
4kwga;4ISH boHU bogt;4KAK;4se;4KID;5boLAL;4KU3 boiy;4ch;4ME bogi;4MI;4go;5cfgo;4ca;4SAL;4SAR;4iu;5boTUR;4SHID;4SUM;4pl;4U;4UD;5boDU;3cfGA2;2GABA;3jhGABA;2GAD;3cfGAD kpcfkp;2GAL;3GAD cfGAD kpcfkp;2GALAM;2GAM;2GAN;2nu;3hh;3cfnu;3jhnu;2kp;2GAR3;2GASHAN;2GESHTIN;3blKUR;2GI;3blE;4U;3jhGI;2GI4;3cfGI4;3jhGI4;2GIDIM;2GIR2;3ga;2GIR3;3blA bokw;4nuhh;4kw;4LU bokw;4ca;2GISAL;2pa;3jhpa;3blnb;4pl;3hh;2GU;3jhGU;2GU2;3blKAK;5blkwga;4go;4SAL boTUG2;3ga;2GUD;3blA boKUR;4KUR;3cfGUD LUGAL;2GUL;2GUM;3bliu;2GUR;2GUR7;2GURUN;2GURUSH;2bu;3hh;3ga;2HAL;2HI;3blgt;4ASH2;4nb;4lx;4GAD;4KIN;4go;4iu;4U;2HU;2HUB2;3bliy;4HAL;4se;4LISH;4UD;2HUL2;2I;3A;2IB;2IDIM;3cfIDIM BUR;5ir;2IG;2kw;3DIB;3RI;3cfkwSHIR cfSHIR UD cfUD;3ga;2IL;3blnuhh;2IL2;2IM;3blpl;3jhIM;3wpIM;3ir;2IMIN;2fp;2IR;2ISH;2bx;3blA;4AD;5boKU3;4ASH2;4nb;4BALAG;4bn;4BI;4ERIN2;4ESH2;4da;4GAL;4nuhh;4kp;5boSHA3 boA;4GI;4GIR2;4paboSAR;5jhpa;4GU;4GUR7;4kw;4IM;4KAK;4KI;4KID;4LI;4LU;4ME;5boDU;6GI;6il;4MI;5boNUNUZ;4NE;4go;4hf;4RU;4cr;4SAR;4eg;4iu;4SHID;4SHU;4SIG;4SUHUR
4TAR;4U;4U2;4UD;4UMUM blca;4USH;4ZI;2KA2;3jhKA2;2KAB;2KAD2;2KAD3;2KAD4;2KAD5;3cfKAD5;2KAK;3blkwga;2KAL;3blnb;3jhKAL;2KAM2;2KAM4;2se;3sgblU cfsgblU;3cfsesgblU cfsgblU;2KESH2;2KI;3blnb;4U;4UD;2KID;2KIN;2KISAL;2KISH;2KISIM5;3cfKISIM5;2KU;3cfHI blASH2 KU cfHI blASH2;2KU3;2KU4;3mmad;2KU7;2KUL;3ga;2KUN;2KUR;3wpKUR;2KUSHU2;2KWU318;2ch;2sg;3blA;5bocwbobu;6kp;6LAL;4AL;4iy;4gtZIDA hh;4nb;4BI;4DAR;4gi;4da;4kp;4GUD;5boGUD;4bu;4HAL;4HI blgo;4kwga;4IM;5bobu;6LU;4KI;4KIN;4KU3;4KUL;5boHI boA;4sg;4LISH;4LU;4LUL;4ME;5bogi;4MUSH;4NE;4iuboSUM;4SHITA bopaboERIN2;7hh;4SHU2;5boSHU2;4SUM;4TAG;4pl;4ilboA boSU bocj;4U;5boA;6U boU;4U2 bogt;4UD;4USH;3ir;2LAGAR;3bliu;5boSUM;3ga;4cfLAGAR gaiu;2LAHSHU;2LAL;3blLAL;2ih;3blKUR;5boRU;2LI;2LIL;2LIMMU2;2LISH;2LU;3blnb;2LU2;3blAL;4nb;4ESH2;5hh;4nuhh;4HI blnb;4IM;4KAD2;4KAD3;5bogt;4KI;4chbogt;4sg;4ME bogi;4NE;4NU;4SI bogt;4SIK2 boBU;4TUG2;3hh;3jhLU2;3wpLU2;3ir;3wx;2LU3;2LUGAL;3cfLUGAL;3wpLUGAL;3wx;2LUH;2LUL;2LUM;3cfLUM;5kpcfkp;2ci;3blpl;3ga;2MA2;2MAH;2MAR;2MASH;2MASH2;2ME
2MES;2MI;2MIN;2ia;3cfia;2MUG;3ga;2MUNSUB;2MURGU2;2MUSH;3blA;4KUR;4gn;3cfMUSH;5blA bocj;3jhMUSH;2MUSH3;3blA;5boDI;4DI;3ga;2cj;2NA2;2NAGA;3eu;3blSHU hh;3wpNAGA;2NAGAR;2NAM NUTILLU;3;2NAM2;2NE;3blA;4UD;3wx;2NI;3blE;2NI2;2NIM;3blnuhh;4kpbonuhh;2NINDA2;3bliy;4gt;5bogt;4GUD;4ME bonuhh;4NE;4go;4iu;5boA iy;6gt;7bogt;4U2 bogt;4USH;2NISAG;2NU;2NU11;2go;3LAGAR blkp;5MASH;5SAL;6cfgoLAGAR blSAL;5USH;3hh;3cfgo;3jhgo;5LAGAR cfLAGAR;2NUNUZ;3AB2 blASHGAB;5BI;5DUG;5GUD;5kwga;5KAD3;5ch;5NE;5SILA3;5U2;3KISIM5 blBI;6U;2ca;2PAD;2PAN;2PAP;2PESH2;2hf;3blA;4AB;4BI;4BU;4E;4I;4IB;4U;4U2;3jhhf;2PIRIG;3blKAL;4UD;4gn;3wpPIRIG;2cd;2RAB;2RI;2RU;2cr;2SAG NUTILLU;3;3blA;4DU;4DUB;4bu;4KAK;4KUR;4LUM;4MI;4go;4SAL;4SHID;4TAB;4U2;4UB;4UM;4UR;4USH;3cfSAG;3ga;2SAL;3sgblASH2;2SANGA2;2SAR;2eg;2SHA3;3blA;4nb;4pa;4NE;4SHU2;4TUR;4U;5boA;2SHA6;2SHAB6;2ui;2iu;3HU;3cfiuGAD cfGAD kpcfkp;5TAB cfTAB kpcfkp;2SHEG9;2SHEN;2SHESH;2SHESH2;2SHESHLAM;2SHID;3blA;4IM;2SHIM;3blA;4BAL;4BULUG;4DIN;4kp;4kw;5ga;4KUSHU2;4LUL;4MUG;4SAL;2SHINIG;2SHIR
3hh;3cfSHIR BUR cfBUR;2SHITA;2SHU;3cfeuSHU;2SHU2;2SHUBUR;2SI;3ga;2SIG;2SIG4;3cfSIG4 SHU2;2SIK2;2SILA3;2SU;3cfSU;2SUD;2SUD2;2SUHUR;2SUM;2SUMASH;2SUR;2SUR9;2cs;3gq;3blHI;4MI;3ga;2TAB;3cfTAB NI cfNI lxcflx;3ir;2TAG;3blBI;4GUD;4iu;4SHU;4TUG2;4UD;2pl;2TAR;2il;3ga;2TI;3hh;2TIL;2TIR;3blpl;3cfTIR;5GAD cfGAD kpcfkp;2TU;2TUG2;2TUK;2TUM;2TUR;3cfTUR gncfgn;2U;3GUD;3U U;3cfU cacfcakpcfkp;5SUR cfSUR;5U ebcfU eb;2U2;2UB;2UD;3KUSHU2;3blnb;4MI;4U boU boU;9ga;3ga;3wx;4blnb;2UDUG;2UM;3blsg;4ME bocw;4SHA3;4U;2UMBIN;2UMUM;3blse;4ca;2UN;3ga;2UR;3jhUR;3wx;2UR2;3blA bobu;6cj;4AL;4bu;4go;4U2;5bogt;6BI;2UR4;2URI;2URI3;2URU;3blA;4ASHGAB;4bn;4DUN;4da;4GAL;4nuhh;4kp;4GU;4bu;4kw;4IM;4ISH;4KI;4LUM;4MIN;4ca;4iu;4SIG4;4TU;4U boGUD;4UD;4URUDA;2URUDA;3blU;2USH;3blA;4KU;4KUR;4pl;2USHX;2USH2;2USHUMX;2UTUKI;2UZ3;3blse;2UZU;2gn;3hh;3irblKUR;2ZAG;2ZAMX;2ZE2;2ZI;3cfZI;2ZI3;2ZIB;3KABA hh;2ZIG;2ZIZ2;2ZU;2ZU5;3blA;2ZUBUR;2ZUM;2KAP ELAMITE;2AB blgo;2AB2 blA;2AMAR blKUG;2DAG KISIM5 blU2 boMASH;2DAG3;2lxboSHU;2DUB bliu;2EZEN blGUD
4iu;2GA2 bliyboKAK boA;4ASH2;2GE22;2GIG;2HUSH;2bxblANSHE;4ASH3;4pa;4GUD;4HI blASH2;4LUM;4ca;4SHUL;4TU;4UR2;2sgblGI;2LU2 wxblnb;3blESH2 boLAL;4SHU;2MESH;2MUSH3 blgn;2NA4;2NIN;2NIN9;2NINDA2 blBAL;4GI;2NU11 fbibfz;2PESH2 gq;2PIR2;2SAG blkwga;2TI2;2UM blME;2U U;=12400;1NUMERIC afalgt;3asgt;3aygt;3bcgt;3bjgt;3brgt;3bkgt;3bvgt;3aslx;3aylx;3bclx;3bjlx;3brlx;3bklx;3bvlx;3ayU;3bcU;3bjU;3brU;3bkU;3bvU;3amGESH2;3alGESH2;3asGESH2;3ayGESH2;3bcGESH2;3bjGESH2;3brGESH2;3bkGESH2;3bvGESH2;3amGESHU;3alGESHU;3asGESHU;3ayGESHU;3bcGESHU;3alui;3asui;5mmad;3ayui;3bcui;3bjui;3brui;3bkui;3bvui;3amSHARU;3alSHARU;3asSHARU;5mmad;3aySHARU;3bcSHARU;3uiblGAL bolx;7MIN;3amBURU;3alBURU;3asBURU;5mmad;3ayBURU;3bcBURU;3asmmadESH16;6ESH21;3aymmadLIMMU;6LIMMU4;6LIMMU A;7B;3bjmmadASH9;3brmmadIMIN3;6IMIN A;7B;3bkmmadUSSU;6USSU3;3bvmmadILIMMU;6ILIMMU3;6ILIMMU4;6ILIMMU A;3algthh;3asgthh;3aygthh;3bcgthh;3bjgthh;3amBAN2;3alBAN2;3asBAN2;3ayBAN2;5mmad;3bcBAN2;5mmad;3NIGIDAMIN;3NIGIDAESH;3amESHE3;3alESHE3;3amrqlx;3alvllx
3bcSIXTHS lx;3amrqmmadA;3alvlmmadA;3amkogt;4jbgt;3fvASSYRIAN amSIXTH;6jb;3amjbGUR;4bsGUR;3ELAMITE amrq;4alvl;4ns;4iz;3ayU mmad;3bcU mmad;3bjU mmad;3brU mmad;3bkU mmad;3bvU mmad;=12470;1haaffvASSYRIAN qdDIVIDER;3bhje;3gvje;4TRICOLON;4QUADCOLON;=12480;1afAB blgohh;4SHU2;2AD blESH2;2nbbllxhh;2BAHAR2 blAB2;4NI;4gn;2BU cfBU blNA2;2cwblpl;2DAG blKUR;2DIM blkw;4U U U;2DIM2 blUD;2DUG blANSHE;4gt;5AT ak;4DIN;4DUN;4ERIN2;4da;4GI;4GIR2 ga;4pa;4bu;4HI;4kwga;4se;4KUR;4KUSHU2;5bose;4LAK-020;4ih;5blKUR;4LUH bopa;4MASH;4MES;4MI;4NI;4hf;4iu;4SI ga;2E2 blKUR;4PAP;2ERIN2 X;2ESH2 jhESH2;2EZEN wxblgt;5HI;5kwga;5ch;5LAL;5ME;5MES;5SU;3blSU;2GA2 blBAHAR2;4DIM ga;4DUG blkwga;6se;4EREN;4da;4kpboDI;6NE;4buboA;4KUSHU2 bose;4ih;5blKUR;4LUH;4MUSH;4NE;5boE2;6GI;4SHIM;4ZIZ2;2GABA fbibfz;2GESHTIN blU;2pablpajhpa;2GU2 blkwga;2GUD bopablpl;2buhhga;2HI blgtcfHI blgt;2bxblBU;4bx;4U U U;4UR;2sgblZU cfZU;2LAK-003;2LAK-021;2LAK-025;2LAK-030;2LAK-050;2LAK-051;2LAK-062;2LAK-079 cfLAK-079 ga;2LAK-080;2LAK-081 cfLAK-081;2LAK-092
2LAK-130;2LAK-142;2LAK-210;2LAK-219;2LAK-220;2LAK-225;2LAK-228;2LAK-238;2LAK-265;2LAK-266;2LAK-343;2LAK-347;2LAK-348;2LAK-383;2LAK-384;2LAK-390;2LAK-441;2LAK-449;3blGU;4kw;4PAP boLU3;6PAP boLU3;4U2 bodh;2LAK-450;2LAK-457;2LAK-470;2LAK-483;2LAK-490;2LAK-492;2LAK-493;2LAK-495;2LAK-550;2LAK-608;2LAK-617;3blgt;4nb;4DUN3 gaga;4KU3;4ch;4TAR;4il;4U2;4UD;4URUDA;2LAK-636;2LAK-648;3blDUB;4da;4kw;5ga;4NI;4PAP boPAP boLU3;4SHESH boKI;4UD;4URUDA;2LAK-724;2LAK-749;2LU2 gablgt;3bllx;4HAL;4PAP;5boPAP boLU3;4pl;2MI boZA7;2MUSH cfMUSH blda;6KAK;2NINDA2 blDIM ga;4pa;4GUL;4HI;4KESH2;4LAK-050;4MASH;4PAP boPAP;4U;5boU;4URUDA;2SAG gablbu;3blgi;4iuAT ak;4pl;2SHA6 hh;2iucfiu;3boHUB2;4NAM2;4SAR;2SHU2 boDUG blNI;4E2 bliy;2SI blpl;2plboSAG;2TUM blnuhh;4aslx;2UR2 eu;3blUD;2URU blDARA3;4LAK-668;4LU3;2ZA7;2ZU cfZU boSAR;2ZU5 blaslxhh;=12F90;0CYPRO-MINOAN afCM001;2CM002;2CM004;2CM005;2CM006;2CM007;2CM008;2CM009;2CM010;2CM011;2CM012;2CM012B;2CM013;2CM015;2CM017;2CM019;2CM021;2CM023;2CM024;2CM025;2CM026;2CM027;2CM028
2CM029;2CM030;2CM033;2CM034;2CM035;2CM036;2CM037;2CM038;2CM039;2CM040;2CM041;2CM044;2CM046;2CM047;2CM049;2CM050;2CM051;2CM052;2CM053;2CM054;2CM055;2CM056;2CM058;2CM059;2CM060;2CM061;2CM062;2CM063;2CM064;2CM066;2CM067;2CM068;2CM069;2CM070;2CM071;2CM072;2CM073;2CM074;2CM075;2CM075B;2CM076;2CM078;2CM079;2CM080;2CM081;2CM082;2CM083;2CM084;2CM085;2CM086;2CM087;2CM088;2CM089;2CM090;2CM091;2CM092;2CM094;2CM095;2CM096;2CM097;2CM098;2CM099;2CM100;2CM101;2CM102;2CM103;2CM104;2CM105;2CM107;2CM108;2CM109;2CM110;2CM112;2CM114;2CM301;2CM302;=13000;0EGYPTIAN HIEROGLYPH A001;2A002;2A003;2A004;2A005;2A005A;2A006;2A006A;2A006B;2A007;2A008;2A009;2A010;2A011;2A012;2A013;2A014;2A014A;2A015;2A016;2A017;2A017A;2A018;2A019;2A020;2A021;2A022;2A023;2A024;2A025;2A026;2A027;2A028;2A029;2A030;2A031;2A032;2A032A;2A033;2A034;2A035;2A036;2A037;2A038;2A039;2A040;2A040A;2A041;2A042;2A042A;2A043;2A043A;2A044;2A045;2A045A;2A046;2A047;2A048;2A049;2A050;2A051;2A052;2A053;2A054;2A055;2A056;2A057;2A058;2A059;2A060;2A061
2A062;2A063;2A064;2A065;2A066;2A067;2A068;2A069;2A070;2B001;2B002;2B003;2B004;2B005;2B005A;2B006;2B007;2B008;2B009;2C001;2C002;2C002A;2C002B;2C002C;2C003;2C004;2C005;2C006;2C007;2C008;2C009;2C010;2C010A;2C011;2C012;2C013;2C014;2C015;2C016;2C017;2C018;2C019;2C020;2C021;2C022;2C023;2C024;2D001;2D002;2D003;2D004;2D005;2D006;2D007;2D008;2D008A;2D009;2D010;2D011;2D012;2D013;2D014;2D015;2D016;2D017;2D018;2D019;2D020;2D021;2D022;2D023;2D024;2D025;2D026;2D027;2D027A;2D028;2D029;2D030;2D031;2D031A;2D032;2D033;2D034;2D034A;2D035;2D036;2D037;2D038;2D039;2D040;2D041;2D042;2D043;2D044;2D045;2D046;2D046A;2D047;2D048;2D048A;2D049;2D050;2D050A;2D050B;2D050C;2D050D;2D050E;2D050F;2D050G;2D050H;2D050I;2D051;2D052;2D052A;2D053;2D054;2D054A;2D055;2D056;2D057;2D058;2D059;2D060;2D061;2D062;2D063;2D064;2D065;2D066;2D067;2D067A;2D067B;2D067C;2D067D;2D067E;2D067F;2D067G;2D067H;2E001;2E002;2E003;2E004;2E005;2E006;2E007;2E008;2E008A;2E009;2E009A;2E010;2E011;2E012;2E013;2E014;2E015;2E016;2E016A;2E017;2E017A;2E018
2E019;2E020;2E020A;2E021;2E022;2E023;2E024;2E025;2E026;2E027;2E028;2E028A;2E029;2E030;2E031;2E032;2E033;2E034;2E034A;2E036;2E037;2E038;2F001;2F001A;2F002;2F003;2F004;2F005;2F006;2F007;2F008;2F009;2F010;2F011;2F012;2F013;2F013A;2F014;2F015;2F016;2F017;2F018;2F019;2F020;2F021;2F021A;2F022;2F023;2F024;2F025;2F026;2F027;2F028;2F029;2F030;2F031;2F031A;2F032;2F033;2F034;2F035;2F036;2F037;2F037A;2F038;2F038A;2F039;2F040;2F041;2F042;2F043;2F044;2F045;2F045A;2F046;2F046A;2F047;2F047A;2F048;2F049;2F050;2F051;2F051A;2F051B;2F051C;2F052;2F053;2G001;2G002;2G003;2G004;2G005;2G006;2G006A;2G007;2G007A;2G007B;2G008;2G009;2G010;2G011;2G011A;2G012;2G013;2G014;2G015;2G016;2G017;2G018;2G019;2G020;2G020A;2G021;2G022;2G023;2G024;2G025;2G026;2G026A;2G027;2G028;2G029;2G030;2G031;2G032;2G033;2G034;2G035;2G036;2G036A;2G037;2G037A;2G038;2G039;2G040;2G041;2G042;2G043;2G043A;2G044;2G045;2G045A;2G046;2G047;2G048;2G049;2G050;2G051;2G052;2G053;2G054;2H001;2H002;2H003;2H004;2H005;2H006;2H006A;2H007;2H008;2I001;2I002
2I003;2I004;2I005;2I005A;2I006;2I007;2I008;2I009;2I009A;2I010;2I010A;2I011;2I011A;2I012;2I013;2I014;2I015;2K001;2K002;2K003;2K004;2K005;2K006;2K007;2K008;2L001;2L002;2L002A;2L003;2L004;2L005;2L006;2L006A;2L007;2L008;2M001;2M001A;2M001B;2M002;2M003;2M003A;2M004;2M005;2M006;2M007;2M008;2M009;2M010;2M010A;2M011;2M012;2M012A;2M012B;2M012C;2M012D;2M012E;2M012F;2M012G;2M012H;2M013;2M014;2M015;2M015A;2M016;2M016A;2M017;2M017A;2M018;2M019;2M020;2M021;2M022;2M022A;2M023;2M024;2M024A;2M025;2M026;2M027;2M028;2M028A;2M029;2M030;2M031;2M031A;2M032;2M033;2M033A;2M033B;2M034;2M035;2M036;2M037;2M038;2M039;2M040;2M040A;2M041;2M042;2M043;2M044;2N001;2N002;2N003;2N004;2N005;2N006;2N007;2N008;2N009;2N010;2N011;2N012;2N013;2N014;2N015;2N016;2N017;2N018;2N018A;2N018B;2N019;2N020;2N021;2N022;2N023;2N024;2N025;2N025A;2N026;2N027;2N028;2N029;2N030;2N031;2N032;2N033;2N033A;2N034;2N034A;2N035;2N035A;2N036;2N037;2N037A;2N038;2N039;2N040;2N041;2N042;2NL001;2NL002;2NL003;2NL004;2NL005;2NL005A;2NL006;2NL007;2NL008
2NL009;2NL010;2NL011;2NL012;2NL013;2NL014;2NL015;2NL016;2NL017;2NL017A;2NL018;2NL019;2NL020;2NU001;2NU002;2NU003;2NU004;2NU005;2NU006;2NU007;2NU008;2NU009;2NU010;2NU010A;2NU011;2NU011A;2NU012;2NU013;2NU014;2NU015;2NU016;2NU017;2NU018;2NU018A;2NU019;2NU020;2NU021;2NU022;2NU022A;2O001;2O001A;2O002;2O003;2O004;2O005;2O005A;2O006;2O006A;2O006B;2O006C;2O006D;2O006E;2O006F;2O007;2O008;2O009;2O010;2O010A;2O010B;2O010C;2O011;2O012;2O013;2O014;2O015;2O016;2O017;2O018;2O019;2O019A;2O020;2O020A;2O021;2O022;2O023;2O024;2O024A;2O025;2O025A;2O026;2O027;2O028;2O029;2O029A;2O030;2O030A;2O031;2O032;2O033;2O033A;2O034;2O035;2O036;2O036A;2O036B;2O036C;2O036D;2O037;2O038;2O039;2O040;2O041;2O042;2O043;2O044;2O045;2O046;2O047;2O048;2O049;2O050;2O050A;2O050B;2O051;2P001;2P001A;2P002;2P003;2P003A;2P004;2P005;2P006;2P007;2P008;2P009;2P010;2P011;2Q001;2Q002;2Q003;2Q004;2Q005;2Q006;2Q007;2R001;2R002;2R002A;2R003;2R003A;2R003B;2R004;2R005;2R006;2R007;2R008;2R009;2R010;2R010A;2R011;2R012;2R013;2R014;2R015;2R016
2R016A;2R017;2R018;2R019;2R020;2R021;2R022;2R023;2R024;2R025;2R026;2R027;2R028;2R029;2S001;2S002;2S002A;2S003;2S004;2S005;2S006;2S006A;2S007;2S008;2S009;2S010;2S011;2S012;2S013;2S014;2S014A;2S014B;2S015;2S016;2S017;2S017A;2S018;2S019;2S020;2S021;2S022;2S023;2S024;2S025;2S026;2S026A;2S026B;2S027;2S028;2S029;2S030;2S031;2S032;2S033;2S034;2S035;2S035A;2S036;2S037;2S038;2S039;2S040;2S041;2S042;2S043;2S044;2S045;2S046;2T001;2T002;2T003;2T003A;2T004;2T005;2T006;2T007;2T007A;2T008;2T008A;2T009;2T009A;2T010;2T011;2T011A;2T012;2T013;2T014;2T015;2T016;2T016A;2T017;2T018;2T019;2T020;2T021;2T022;2T023;2T024;2T025;2T026;2T027;2T028;2T029;2T030;2T031;2T032;2T032A;2T033;2T033A;2T034;2T035;2T036;2U001;2U002;2U003;2U004;2U005;2U006;2U006A;2U006B;2U007;2U008;2U009;2U010;2U011;2U012;2U013;2U014;2U015;2U016;2U017;2U018;2U019;2U020;2U021;2U022;2U023;2U023A;2U024;2U025;2U026;2U027;2U028;2U029;2U029A;2U030;2U031;2U032;2U032A;2U033;2U034;2U035;2U036;2U037;2U038;2U039;2U040;2U041;2U042;2V001;2V001A;2V001B
2V001C;2V001D;2V001E;2V001F;2V001G;2V001H;2V001I;2V002;2V002A;2V003;2V004;2V005;2V006;2V007;2V007A;2V007B;2V008;2V009;2V010;2V011;2V011A;2V011B;2V011C;2V012;2V012A;2V012B;2V013;2V014;2V015;2V016;2V017;2V018;2V019;2V020;2V020A;2V020B;2V020C;2V020D;2V020E;2V020F;2V020G;2V020H;2V020I;2V020J;2V020K;2V020L;2V021;2V022;2V023;2V023A;2V024;2V025;2V026;2V027;2V028;2V028A;2V029;2V029A;2V030;2V030A;2V031;2V031A;2V032;2V033;2V033A;2V034;2V035;2V036;2V037;2V037A;2V038;2V039;2V040;2V040A;2W001;2W002;2W003;2W003A;2W004;2W005;2W006;2W007;2W008;2W009;2W009A;2W010;2W010A;2W011;2W012;2W013;2W014;2W014A;2W015;2W016;2W017;2W017A;2W018;2W018A;2W019;2W020;2W021;2W022;2W023;2W024;2W024A;2W025;2X001;2X002;2X003;2X004;2X004A;2X004B;2X005;2X006;2X006A;2X007;2X008;2X008A;2Y001;2Y001A;2Y002;2Y003;2Y004;2Y005;2Y006;2Y007;2Y008;2Z001;2Z002;2Z002A;2Z002B;2Z002C;2Z002D;2Z003;2Z003A;2Z003B;2Z004;2Z004A;2Z005;2Z005A;2Z006;2Z007;2Z008;2Z009;2Z010;2Z011;2Z012;2Z013;2Z014;2Z015;2Z015A;2Z015B;2Z015C;2Z015D;2Z015E;2Z015F
2Z015G;2Z015H;2Z015I;2Z016;2Z016A;2Z016B;2Z016C;2Z016D;2Z016E;2Z016F;2Z016G;2Z016H;2AA001;2AA002;2AA003;2AA004;2AA005;2AA006;2AA007;2AA007A;2AA007B;2AA008;2AA009;2AA010;2AA011;2AA012;2AA013;2AA014;2AA015;2AA016;2AA017;2AA018;2AA019;2AA020;2AA021;2AA022;2AA023;2AA024;2AA025;2AA026;2AA027;2AA028;2AA029;2AA030;2AA031;2AA032;=13430;2bhJOINER;2coJOINER;2INSERT AT hiSTART;4jcSTART;4hiig;4jcig;2lzbg;2BEGIN SEGMENT;2igSEGMENT;=14400;0ANATOLIAN HIEROGLYPH A001;2A002;2A003;2A004;2A005;2A006;2A007;2A008;2A009;2A010;2A010A;2A011;2A012;2A013;2A014;2A015;2A016;2A017;2A018;2A019;2A020;2A021;2A022;2A023;2A024;2A025;2A026;2A026A;2A027;2A028;2A029;2A030;2A031;2A032;2A033;2A034;2A035;2A036;2A037;2A038;2A039;2A039A;2A040;2A041;2A041A;2A042;2A043;2A044;2A045;2A045A;2A046;2A046A;2A046B;2A047;2A048;2A049;2A050;2A051;2A052;2A053;2A054;2A055;2A056;2A057;2A058;2A059;2A060;2A061;2A062;2A063;2A064;2A065;2A066;2A066A;2A066B;2A066C;2A067;2A068;2A069;2A070;2A071;2A072;2A073;2A074;2A075;2A076;2A077;2A078;2A079;2A080
2A081;2A082;2A083;2A084;2A085;2A086;2A087;2A088;2A089;2A090;2A091;2A092;2A093;2A094;2A095;2A096;2A097;2A097A;2A098;2A098A;2A099;2A100;2A100A;2A101;2A101A;2A102;2A102A;2A103;2A104;2A104A;2A104B;2A104C;2A105;2A105A;2A105B;2A106;2A107;2A107A;2A107B;2A107C;2A108;2A109;2A110;2A110A;2A110B;2A111;2A112;2A113;2A114;2A115;2A115A;2A116;2A117;2A118;2A119;2A120;2A121;2A122;2A123;2A124;2A125;2A125A;2A126;2A127;2A128;2A129;2A130;2A131;2A132;2A133;2A134;2A135;2A135A;2A136;2A137;2A138;2A139;2A140;2A141;2A142;2A143;2A144;2A145;2A146;2A147;2A148;2A149;2A150;2A151;2A152;2A153;2A154;2A155;2A156;2A157;2A158;2A159;2A160;2A161;2A162;2A163;2A164;2A165;2A166;2A167;2A168;2A169;2A170;2A171;2A172;2A173;2A174;2A175;2A176;2A177;2A178;2A179;2A180;2A181;2A182;2A183;2A184;2A185;2A186;2A187;2A188;2A189;2A190;2A191;2A192;2A193;2A194;2A195;2A196;2A197;2A198;2A199;2A200;2A201;2A202;2A202A;2A202B;2A203;2A204;2A205;2A206;2A207;2A207A;2A208;2A209;2A209A;2A210;2A211;2A212;2A213;2A214;2A215;2A215A;2A216;2A216A;2A217;2A218
2A219;2A220;2A221;2A222;2A223;2A224;2A225;2A226;2A227;2A227A;2A228;2A229;2A230;2A231;2A232;2A233;2A234;2A235;2A236;2A237;2A238;2A239;2A240;2A241;2A242;2A243;2A244;2A245;2A246;2A247;2A248;2A249;2A250;2A251;2A252;2A253;2A254;2A255;2A256;2A257;2A258;2A259;2A260;2A261;2A262;2A263;2A264;2A265;2A266;2A267;2A267A;2A268;2A269;2A270;2A271;2A272;2A273;2A274;2A275;2A276;2A277;2A278;2A279;2A280;2A281;2A282;2A283;2A284;2A285;2A286;2A287;2A288;2A289;2A289A;2A290;2A291;2A292;2A293;2A294;2A294A;2A295;2A296;2A297;2A298;2A299;2A299A;2A300;2A301;2A302;2A303;2A304;2A305;2A306;2A307;2A308;2A309;2A309A;2A310;2A311;2A312;2A313;2A314;2A315;2A316;2A317;2A318;2A319;2A320;2A321;2A322;2A323;2A324;2A325;2A326;2A327;2A328;2A329;2A329A;2A330;2A331;2A332A;2A332B;2A332C;2A333;2A334;2A335;2A336;2A336A;2A336B;2A336C;2A337;2A338;2A339;2A340;2A341;2A342;2A343;2A344;2A345;2A346;2A347;2A348;2A349;2A350;2A351;2A352;2A353;2A354;2A355;2A356;2A357;2A358;2A359;2A359A;2A360;2A361;2A362;2A363;2A364;2A364A;2A365;2A366;2A367;2A368
2A368A;2A369;2A370;2A371;2A371A;2A372;2A373;2A374;2A375;2A376;2A377;2A378;2A379;2A380;2A381;2A381A;2A382;2A383 cddoRI;2A383A;2A384;2A385;2A386;2A386A;2A387;2A388;2A389;2A390;2A391;2A392;2A393 bk;2A394;2A395;2A396;2A397;2A398;2A399;2A400;2A401;2A402;2A403;2A404;2A405;2A406;2A407;2A408;2A409;2A410 BEGIN LOGOGRAM aq;2A410A igLOGOGRAM aq;2A411;2A412;2A413;2A414;2A415;2A416;2A417;2A418;2A419;2A420;2A421;2A422;2A423;2A424;2A425;2A426;2A427;2A428;2A429;2A430;2A431;2A432;2A433;2A434;2A435;2A436;2A437;2A438;2A439;2A440;2A441;2A442;2A443;2A444;2A445;2A446;2A447;2A448;2A449;2A450;2A450A;2A451;2A452;2A453;2A454;2A455;2A456;2A457;2A457A;2A458;2A459;2A460;2A461;2A462;2A463;2A464;2A465;2A466;2A467;2A468;2A469;2A470;2A471;2A472;2A473;2A474;2A475;2A476;2A477;2A478;2A479;2A480;2A481;2A482;2A483;2A484;2A485;2A486;2A487;2A488;2A489;2A490;2A491;2A492;2A493;2A494;2A495;2A496;2A497;2A501;2A502;2A503;2A504;2A505;2A506;2A507;2A508;2A509;2A510;2A511;2A512;2A513;2A514;2A515;2A516;2A517;2A518;2A519;2A520;2A521
2A522;2A523;2A524;2A525;2A526;2A527;2A528;2A529;2A530;=16800;0BAMUM abPHASE-A NGKUE MFON;3GBIEE FON;3PON MFON PIPAEMGBIEE;5PIPAEMBA;3NAA MFON;3SHUENSHUET;3TITA MFON;3NZA MFON;3SHINDA caNJI;3PON caNJI PIPAEMGBIEE;6PIPAEMBA;3MAEMBGBIEE;3TU MAEMBA;3NGANGU;3MAEMVEUX;3MANSUAE;3MVEUAENGAM;3SEUNYAM;3NTOQPEN;3KEUKEUTNDA;3NKINDI;3SUU;3NGKUENZEUM;3LAPAQ;3LET KUT;3NTAP MFAA;3MAEKEUP;3PASHAE;3GHEUAERAE;3PAMSHAE;3MON NGGEUAET;3NZUN MEUT;3U YUQ NAE;3GHEUAEGHEUAE;3NTAP NTAA;3SISA;3MGBASA;3MEUNJOMNDEUQ;3MOOMPUQ;3KAFA;3caLEERAEWA;3NDA LEERAEWA;3PET;3MAEMKPEN;3NIKA;3PUP;3TUAEP;3LUAEP;3SONJAM;3TEUTEUWEN;3MAENYI;3KET;3NDAANGGEUAET;3KUOQ;3MOOMEUT;3SHUM;3LOMMAE;3FIRI;3ROM;3KPOQ;3SOQ;3MAP PIEET;3SHIRAE;3NTAP;3SHOQ NSHUT YUM;3NYIT MONGKEUAEQ;3PAARAE;3NKAARAE;3UNKNOWN;3NGGEN;3MAESI;3NJAM;3MBANYI;3NYET;3TEUAEN;3SOT;3PAAM;3NSHIEE;3MAEM;3NYI;3KAQ;3NSHA;3VEE;3LU;3NEN;3NAQ;3MBAQ;2PHASE-B NSHUET;3TU MAEMGBIEE;3SIEE;3SET TU;3LOM NTEUM;3MBA MAELEE;3KIEEM;3YEURAE;3MBAARAE;3KAM;3PEESHI;3YAFU LEERAEWA;3ihNSHUT NYAM
3NTIEE SHEUOQ;3NDU NJAA;3GHEUGHEUAEM;3PIT;3TU NSIEE;3SHET NJAQ;3SHEUAEQTU;3MFON TEUAEQ;3MBIT MBAAKET;3NYI NTEUM;3KEUPUQ;3GHEUGHEN;3KEUYEUX;3LAANAE;3PARUM;3VEUM;3NGKINDI MVOP;3NGGEU MBU;3WUAET;3SAKEUAE;3TAAM;3MEUQ;3NGGUOQ;4ep;3MFIYAQ;3SUE;3MBEURI;3MONTIEEN;3NYAEMAE;3PUNGAAM;3MEUT NGGEET;3FEUX;3MBUOQ;3FEE;3KEUAEM;3ciNJEUAENA;4NJUQA;3LET;3NGGAAM;3NSEN;3ci;3KIQ;3NGOM;2PHASE-C NGKUE MAEMBA;3NZA;3YUM;3WANGKUOQ;3NGGEN;3NDEUAEREE;3NGKAQ;3GHARAE;3MBEEKEET;3GBAYI;3NYIR MKPARAQ MEUN;3NTU MBIT;3MBEUM;3PIRIEEN;3NDOMBU;3MBAA CABBAGE-TREE;3KEUSHEUAEP;3GHAP;3KEUKAQ;3iiMUOMAE;3NZEUM;3MBUE;3NSEUAEN;3MBIT;3YEUQ;3KPARAQ;3KAA;3SEUX;3NDIDA;3TAASHAE;3NJUEQ;3TITA YUE;3SUAET;3NGGUAEN NYAM;3VEUX;3NANSANAQ;3ciKEUAERI;3NTAA;3NGGUON;3LAP;3MBIRIEEN;3MGBASAQ;3NTEUNGBA;3TEUTEUX;3NGGUM;3FUE;3NDEUT;3NSA;3NSHAQ;3BUNG;3VEUAEPEN;3MBERAE;3RU;3NJAEM;3ih;3TITUAEP;3NSUOT NGOM;3NJEEEE;3KET;3NGGU;3MAESI;3MBUAEM;3LU;3KUT;3NJAM;3NGOM;3WUP;3NGGUEET;3NSOM;3NTEN;3KUOP NKAARAE;3NSUN;3NDAM;3ciNSIEE;3YAA;3NDAP;3SHUEQ;3SETFON;3MBI
3MAEMBA;3MBANYI;3KEUSEUX;3MBEUX;3KEUM;3MBAA PICKET;3YUWOQ;3NJEUX;3MIEE;3MUAE;3SHIQ;3KEN LAW;4FATIGUE;3NGAQ;3NAQ;3LIQ;3PIN;3PEN;3TET;2PHASE-D MBUO;3WAP;3NJI;3MFON;3NJIEE;3LIEE;3NJEUT;3NSHEE;3NGGAAMAE;3NYAM;3WUAEN;3NGKUN;3SHEE;3NGKAP;3KEUAETMEUN;3TEUT;3SHEUAE;3NJAP;3SUE;3KET;3YAEMMAE;3KUOM;3SAP;3MFEUT;3NDEUX;3MALEERI;3MEUT;3SEUAEQ;3YEN;3NJEUAEM;3KEUOT MBUAE;3NGKEURI;3TU;3GHAA;3NGKYEE;3FEUFEUAET;3NDEE;3MGBOFUM;3LEUAEP;3NDON;3MONI;3MGBEUN;3PUUT;3MGBIEE;3MFO;3LUM;3NSIEEP;3MBAA;3KWAET;3NYET;3TEUAEN;3SOT;3YUWOQ;3KEUM;3RAEM;3TEEEE;3NGKEUAEQ;3MFEUAE;3NSIEET;3KEUP;3PIP;3PEUTAE;3NYUE;3LET;3NGGAAM;3MFIEE;3NGGWAEN;3YUOM;3PAP;3YUOP;3NDAM;3NTEUM;3SUAE;3KUN;3NGGEUX;3NGKIEE;3TUOT;3MEUN;3KUQ;3NSUM;3TEUN;3MAENJET;3NGGAP;3LEUM;3NGGUOM;3NSHUT;3NJUEQ;3GHEUAE;3KU;3REN fv;3TAE;3TOQ;3NYI;3RII;3LEEEE;3MEEEE;3M;3SUU;3ia;3SHII;3SHEUX;3KYEE;3NU;3SHU;3NTEE;3PEE;3NI;3SHOQ;3PUQ;3MVOP;3LOQ;3REN MUCH;3TI;3NTUU;3MBAA br;3SAQ;3FAA;2PHASE-E NDAP;3TOON;3MBEUM;3LAP;3VOM;3LOON;3PAA;3SOM;3RAQ;3NSHUOP;3NDUN;3PUAE;3TAM;3NGKA
3KPEUX;3WUO;3SEE;3NGGEUAET;3PAAM;3TOO;3KUOP;3LOM;3NSHIEE;3NGOP;3MAEM;3NGKEUX;3NGOQ;3NSHUE;3RIMGBA;3NJEUX;3PEEM;3SAA;3NGGURAE;3MGBA;3GHEUX;3NGKEUAEM;3NJAEMLI;3MAP;3LOOT;3NGGEEEE;3NDIQ;3TAEN NTEUM;3SET;3PUM;3NDAA SOFTNESS;3NGGUAESHAE NYAM;3YIEE;3GHEUN;3TUAE;3YEUAE;3PO;3TUMAE;3KEUAE;3SUAEN;3TEUAEQ;3VEUAE;3WEUX;3LAAM;3PU;3TAAQ;3GHAAMAE;3NGEUREUT;3SHEUAEQ;3MGBEN;3MBEE;3NZAQ;3NKOM;3GBET;3TUM;3KUET;3YAP;3NYI CLEAVER;3YIT;3MFEUQ;3NDIAQ;3PIEEQ;3YUEQ;3LEUAEM;3FUE;3GBEUX;3NGKUP;3KET;3MAE;3NGKAAMI;3GHET;3hk;3NTUM;3PEUT;3YEUM;3NGGEUAE;3NYI oj;3NZUQ;3POON;3MIEE;3FUET;3NAE;3MUAE;3GHEUAE;3FU I;3MVI;3PUAQ;3NGKUM;3KUT;3PIET;3NTAP;3YEUAET;3NGGUP;3caPEOPLE;3FU CALL;3FOM;3NJEE;3A;3TOQ;3O;3I;3LAQ;3caPLURAL;3TAA;3TAQ;3NDAA MY HOUSE;3SHIQ;3YEUX;3NGUAE;3YUAEN;3YOQ SWIMMING;4COVER;3YUQ;3YUN;3KEUX;3PEUX;3NJEE EPOCH;3PUE;3WUE;3FEE;3VEE;3LU;3MI;3REUX;3RAE;3NGUAET;3ef;3SHO;3SHOQ;3FU REMEDY;3cj;3hf;3LOQ;3KO;3MEN;3ci;3MAQ;3TEU;3KI;3MON;3ds;3FAQ;3GHOM;2PHASE-F bx;3U;3KU;3hd;3REE;3TAE;3NYI;3ch;3RII;3RIEE;3MEEEE;3TAA
3NDAA;3NJAEM;3M;3SUU;3SHII;3SI;3SEUX;3KYEE;3KET;3NUAE;3NU;3NJUAE;3YOQ;3SHU;3ck;3NSHA;3PEUX;3NTEE;3WUE;3PEE;3RU;3NI;3REUX;3KEN;3NGKWAEN;3NGGA;3SHO;3PUAE;3FOM;3en;3LI;3LOQ;3KO;3MBEN;3REN;3ci;3MO;3MBAA;3TET;3KPA;3SAMBA;3VUEQ;=16A40;0MRO abcs;2NGI;2YO;2MIM;2dh;2cw;2A;2lg;2KHAI;2HAO;2DAI;2CHU;2KEAAE;2OL;2MAEM;2NIN;2ca;2gm;2O;2RO;2SHI;2THEA;2EA;2en;2E;2KO;2LAN;2ch;2HAI;2RI;2TEK;=16A60;1cudj;2am;2al;2as;2ay;2bc;2bj;2br;2bk;2bv;=16A6E;1jp;1apjp;0TANGSA abOZ;2OC;2OQ;2OX;2AZ;2AC;2AQ;2AX;2VZ;2VC;2VQ;2VX;2EZ;2EC;2EQ;2EX;2IZ;2IC;2IQ;2IX;2UZ;2UC;2UQ;2UX;2AWZ;2AWC;2AWQ;2AWX;2UIZ;2UIC;2UIQ;2UIX;2aoNG;2drUEX;2geUEZ;3AWX;2UEC;2UEZ;2UEQ;2UEX;2UIUZ;2UIUC;2UIUQ;2UIUX;2MZ;2MC;2MQ;2MX;2bx;2ev;2da;2ef;2cr;2ck;2en;2ca;2et;2fr;2dh;2ci;2cj;2bu;2ch;2HTA;2cs;2cw;2cd;2NHA;2eg;2eo;2ju;2gj;2HTTA;2ff;2XA;2hk;2gk;2er;2gn;=16AC0;1cudj;2am;2al;2as;2ay;2bc;2bj;2br;2bk;2bv;=16AD0;0BASSA VAH abENNI;3bx;3SE;3hk;3MBE;3YIE;3GAH;3DHII;3KPAH;3JO;3HWAH;3en;3ZO;3GBU;3DO;3CE;3UWU;3at;3dh;3VU;3YEIN;3ca;3WADDA;3A;3O;3gm;3U;3hd;3E;3I
=16AF0;2hwdzdv;3dcdv;3MID dv;3LOW-MID dv;3HIGH-LOW dv;2gdei;=16B00;0PAHAWH HMONG cqKEEB;3KEEV;3KIB;3KIV;3KAUB;3KAUV;3KUB;3KUV;3KEB;3KEV;3KAIB;3KAIV;3KOOB;3KOOV;3KAWB;3KAWV;3KUAB;3KUAV;3KOB;3KOV;3KIAB;3KIAV;3KAB;3KAV;3KWB;3KWV;3KAAB;3KAAV;2lvVAU;3NTSAU;3LAU;3HAU;3NLAU;3RAU;3NKAU;3QHAU;3YAU;3HLAU;3MAU;3CHAU;3NCHAU;3HNAU;3PLHAU;3NTHAU;3NAU;3ed;3XAU;3CAU;2aqCIM TUB;4SO;4KES;4KHAV;4SUAM;4HOM;4TAUM;2afVOS THOM;4TSHAB CEEB;3CIM CHEEM;3VOS THIAB;4FEEM;3XYEEM NTXIV;4kr;4TOV;4FAIB;3VOS SEEV;3MEEJ SUAB;3VOS NRUA;3IB YAM;3XAUS;3CIM TSOV ROG;=16B50;2cudj;3am;3al;3as;3ay;3bc;3bj;3br;3bk;3bv;=16B5B;2eyTENS;3HUNDREDS;3dsxe;3xq;3btxq;3dsBILLIONS;3TRILLIONS;=16B63;2afVOS LUB;3XYOO;3HLI;3THIRD-STAGE HLI;3ZWJ THAJ;3HNUB;3NQIG;3XIAB;3NTUJ;3AV;3TXHEEJ CEEV;3MEEJ TSEEB;3of;3LOS;3MUS;3CIM HAIS LUS NTOG NTOG;4CUAM TSHOOJ;4TXWV;5CHWV;4PUB DAWB;4NRES TOS;=16B7D;2CLAN afTSHEEJ;4YEEG;4LIS;4LAUJ;4XYOOJ;4KOO;4HAWJ;4MUAS;4THOJ;4TSAB;4PHAB;4KHAB;4HAM;4VAJ;4FAJ;4YAJ;4TSWB;4KWM;4VWJ;=16E40;0MEDEFAIDRIN aeabM;3S;3V;3W
3ATIU;3Z;3KP;3P;3T;3G;3F;3I;3K;3A;3J;3E;3B;3C;3U;3ii;3L;3Q;3HP;3NY;3X;3D;3ht;3N;3R;3O;3dw;3Y;1acabM;3S;3V;3W;3ATIU;3Z;3KP;3P;3T;3G;3F;3I;3K;3A;3J;3E;3B;3C;3U;3ii;3L;3Q;3HP;3NY;3X;3D;3ht;3N;3R;3O;3dw;3Y;1cudj;2am;2al;2as;2ay;2bc;2bj;2br;2bk;2bv;1eyds;2rz;2qt;2xd;2wd;2td;2uj;2ww;2uy;2wn;1cuamluad;2alluad;2asluad;1fe;1gdei;1bbAIVA;1kvOH;=16F00;0MIAO abca;2dh;2YI ca;2PLA;2ci;2MHA;2mzci;2hk;2fw;2VFA;2cs;2cw;2YI gg;3cs;2gg;2gh;2cj;2NHA;2YI gw;2mzcj;2gw;2NNHA;2ch;2LYA;2LHA;2LHYA;2TLHA;2DLHA;2TLHYA;2DLHYA;2bx;2da;2YI bx;2QA;2QGA;2ef;2NGHA;2mzef;2bu;2XA;2gj;2GHHA;2TSSA;2DZZA;2et;2NYHA;2qc;2DZHA;2YI qc;3DZHA;2REFORMED qc;2eg;2hn;2mo;2ZSHA;2ju;2DZA;2YI ju;2cr;2gn;2ZSA;2ZZA;2ZZSA;2mzZZA;2ZZYA;2ZZSYA;2en;2AH;2HHA;2BRI;2SYI;2DZYI;2il;2TSE;2RTE;=16F4F;1aflvjrbn;1abNASALIZATION;1afASPIRATION;2REFORMED VOICING;3ASPIRATION;1cqafA;3dk;3AHH;3iy;3ANG;3O;3gm;3WO;3W;3E;3gi;3ENG;3OEY;3I;3IA;3IAN;3IANG;3IO;3IE;3dx;3IU;3ING;3U;3UA;3UAN;3UANG;3ek;3UEI;3UNG;3Y;3YI;3AE;3AEE;3ERR;3ugERR;3ER;3ugER;3dw;3EI;3ed;3OU;3N
3NG;3UOG;3YUI;3OG;3OER;3VW;3IG;3EA;3IONG;3UI;=16F8F;1dvai;2hiai;2aj;2an;1abul;2vm;2TONE-4;2um;2TONE-6;2TONE-7;2TONE-8;2REFORMED TONE-1;3ul;3TONE-4;3um;3TONE-6;3TONE-8;=16FE0;0TANGUT tzaq;0NUSHU tzaq;0fvCHINESE azaq;2tzaq;0KHITAN aclova;=16FF0;0VIETNAMESE luREADING aqeo;4NHAY;=18800;0TANGUT COMPONENT-001;1COMPONENT-002;1COMPONENT-003;1COMPONENT-004;1COMPONENT-005;1COMPONENT-006;1COMPONENT-007;1COMPONENT-008;1COMPONENT-009;1COMPONENT-010;1COMPONENT-011;1COMPONENT-012;1COMPONENT-013;1COMPONENT-014;1COMPONENT-015;1COMPONENT-016;1COMPONENT-017;1COMPONENT-018;1COMPONENT-019;1COMPONENT-020;1COMPONENT-021;1COMPONENT-022;1COMPONENT-023;1COMPONENT-024;1COMPONENT-025;1COMPONENT-026;1COMPONENT-027;1COMPONENT-028;1COMPONENT-029;1COMPONENT-030;1COMPONENT-031;1COMPONENT-032;1COMPONENT-033;1COMPONENT-034;1COMPONENT-035;1COMPONENT-036;1COMPONENT-037;1COMPONENT-038;1COMPONENT-039;1COMPONENT-040;1COMPONENT-041;1COMPONENT-042;1COMPONENT-043;1COMPONENT-044;1COMPONENT-045;1COMPONENT-046;1COMPONENT-047
1COMPONENT-048;1COMPONENT-049;1COMPONENT-050;1COMPONENT-051;1COMPONENT-052;1COMPONENT-053;1COMPONENT-054;1COMPONENT-055;1COMPONENT-056;1COMPONENT-057;1COMPONENT-058;1COMPONENT-059;1COMPONENT-060;1COMPONENT-061;1COMPONENT-062;1COMPONENT-063;1COMPONENT-064;1COMPONENT-065;1COMPONENT-066;1COMPONENT-067;1COMPONENT-068;1COMPONENT-069;1COMPONENT-070;1COMPONENT-071;1COMPONENT-072;1COMPONENT-073;1COMPONENT-074;1COMPONENT-075;1COMPONENT-076;1COMPONENT-077;1COMPONENT-078;1COMPONENT-079;1COMPONENT-080;1COMPONENT-081;1COMPONENT-082;1COMPONENT-083;1COMPONENT-084;1COMPONENT-085;1COMPONENT-086;1COMPONENT-087;1COMPONENT-088;1COMPONENT-089;1COMPONENT-090;1COMPONENT-091;1COMPONENT-092;1COMPONENT-093;1COMPONENT-094;1COMPONENT-095;1COMPONENT-096;1COMPONENT-097;1COMPONENT-098;1COMPONENT-099;1COMPONENT-100;1COMPONENT-101;1COMPONENT-102;1COMPONENT-103;1COMPONENT-104;1COMPONENT-105;1COMPONENT-106;1COMPONENT-107;1COMPONENT-108;1COMPONENT-109;1COMPONENT-110;1COMPONENT-111;1COMPONENT-112;1COMPONENT-113
1COMPONENT-114;1COMPONENT-115;1COMPONENT-116;1COMPONENT-117;1COMPONENT-118;1COMPONENT-119;1COMPONENT-120;1COMPONENT-121;1COMPONENT-122;1COMPONENT-123;1COMPONENT-124;1COMPONENT-125;1COMPONENT-126;1COMPONENT-127;1COMPONENT-128;1COMPONENT-129;1COMPONENT-130;1COMPONENT-131;1COMPONENT-132;1COMPONENT-133;1COMPONENT-134;1COMPONENT-135;1COMPONENT-136;1COMPONENT-137;1COMPONENT-138;1COMPONENT-139;1COMPONENT-140;1COMPONENT-141;1COMPONENT-142;1COMPONENT-143;1COMPONENT-144;1COMPONENT-145;1COMPONENT-146;1COMPONENT-147;1COMPONENT-148;1COMPONENT-149;1COMPONENT-150;1COMPONENT-151;1COMPONENT-152;1COMPONENT-153;1COMPONENT-154;1COMPONENT-155;1COMPONENT-156;1COMPONENT-157;1COMPONENT-158;1COMPONENT-159;1COMPONENT-160;1COMPONENT-161;1COMPONENT-162;1COMPONENT-163;1COMPONENT-164;1COMPONENT-165;1COMPONENT-166;1COMPONENT-167;1COMPONENT-168;1COMPONENT-169;1COMPONENT-170;1COMPONENT-171;1COMPONENT-172;1COMPONENT-173;1COMPONENT-174;1COMPONENT-175;1COMPONENT-176;1COMPONENT-177;1COMPONENT-178;1COMPONENT-179
1COMPONENT-180;1COMPONENT-181;1COMPONENT-182;1COMPONENT-183;1COMPONENT-184;1COMPONENT-185;1COMPONENT-186;1COMPONENT-187;1COMPONENT-188;1COMPONENT-189;1COMPONENT-190;1COMPONENT-191;1COMPONENT-192;1COMPONENT-193;1COMPONENT-194;1COMPONENT-195;1COMPONENT-196;1COMPONENT-197;1COMPONENT-198;1COMPONENT-199;1COMPONENT-200;1COMPONENT-201;1COMPONENT-202;1COMPONENT-203;1COMPONENT-204;1COMPONENT-205;1COMPONENT-206;1COMPONENT-207;1COMPONENT-208;1COMPONENT-209;1COMPONENT-210;1COMPONENT-211;1COMPONENT-212;1COMPONENT-213;1COMPONENT-214;1COMPONENT-215;1COMPONENT-216;1COMPONENT-217;1COMPONENT-218;1COMPONENT-219;1COMPONENT-220;1COMPONENT-221;1COMPONENT-222;1COMPONENT-223;1COMPONENT-224;1COMPONENT-225;1COMPONENT-226;1COMPONENT-227;1COMPONENT-228;1COMPONENT-229;1COMPONENT-230;1COMPONENT-231;1COMPONENT-232;1COMPONENT-233;1COMPONENT-234;1COMPONENT-235;1COMPONENT-236;1COMPONENT-237;1COMPONENT-238;1COMPONENT-239;1COMPONENT-240;1COMPONENT-241;1COMPONENT-242;1COMPONENT-243;1COMPONENT-244;1COMPONENT-245
1COMPONENT-246;1COMPONENT-247;1COMPONENT-248;1COMPONENT-249;1COMPONENT-250;1COMPONENT-251;1COMPONENT-252;1COMPONENT-253;1COMPONENT-254;1COMPONENT-255;1COMPONENT-256;1COMPONENT-257;1COMPONENT-258;1COMPONENT-259;1COMPONENT-260;1COMPONENT-261;1COMPONENT-262;1COMPONENT-263;1COMPONENT-264;1COMPONENT-265;1COMPONENT-266;1COMPONENT-267;1COMPONENT-268;1COMPONENT-269;1COMPONENT-270;1COMPONENT-271;1COMPONENT-272;1COMPONENT-273;1COMPONENT-274;1COMPONENT-275;1COMPONENT-276;1COMPONENT-277;1COMPONENT-278;1COMPONENT-279;1COMPONENT-280;1COMPONENT-281;1COMPONENT-282;1COMPONENT-283;1COMPONENT-284;1COMPONENT-285;1COMPONENT-286;1COMPONENT-287;1COMPONENT-288;1COMPONENT-289;1COMPONENT-290;1COMPONENT-291;1COMPONENT-292;1COMPONENT-293;1COMPONENT-294;1COMPONENT-295;1COMPONENT-296;1COMPONENT-297;1COMPONENT-298;1COMPONENT-299;1COMPONENT-300;1COMPONENT-301;1COMPONENT-302;1COMPONENT-303;1COMPONENT-304;1COMPONENT-305;1COMPONENT-306;1COMPONENT-307;1COMPONENT-308;1COMPONENT-309;1COMPONENT-310;1COMPONENT-311
1COMPONENT-312;1COMPONENT-313;1COMPONENT-314;1COMPONENT-315;1COMPONENT-316;1COMPONENT-317;1COMPONENT-318;1COMPONENT-319;1COMPONENT-320;1COMPONENT-321;1COMPONENT-322;1COMPONENT-323;1COMPONENT-324;1COMPONENT-325;1COMPONENT-326;1COMPONENT-327;1COMPONENT-328;1COMPONENT-329;1COMPONENT-330;1COMPONENT-331;1COMPONENT-332;1COMPONENT-333;1COMPONENT-334;1COMPONENT-335;1COMPONENT-336;1COMPONENT-337;1COMPONENT-338;1COMPONENT-339;1COMPONENT-340;1COMPONENT-341;1COMPONENT-342;1COMPONENT-343;1COMPONENT-344;1COMPONENT-345;1COMPONENT-346;1COMPONENT-347;1COMPONENT-348;1COMPONENT-349;1COMPONENT-350;1COMPONENT-351;1COMPONENT-352;1COMPONENT-353;1COMPONENT-354;1COMPONENT-355;1COMPONENT-356;1COMPONENT-357;1COMPONENT-358;1COMPONENT-359;1COMPONENT-360;1COMPONENT-361;1COMPONENT-362;1COMPONENT-363;1COMPONENT-364;1COMPONENT-365;1COMPONENT-366;1COMPONENT-367;1COMPONENT-368;1COMPONENT-369;1COMPONENT-370;1COMPONENT-371;1COMPONENT-372;1COMPONENT-373;1COMPONENT-374;1COMPONENT-375;1COMPONENT-376;1COMPONENT-377
1COMPONENT-378;1COMPONENT-379;1COMPONENT-380;1COMPONENT-381;1COMPONENT-382;1COMPONENT-383;1COMPONENT-384;1COMPONENT-385;1COMPONENT-386;1COMPONENT-387;1COMPONENT-388;1COMPONENT-389;1COMPONENT-390;1COMPONENT-391;1COMPONENT-392;1COMPONENT-393;1COMPONENT-394;1COMPONENT-395;1COMPONENT-396;1COMPONENT-397;1COMPONENT-398;1COMPONENT-399;1COMPONENT-400;1COMPONENT-401;1COMPONENT-402;1COMPONENT-403;1COMPONENT-404;1COMPONENT-405;1COMPONENT-406;1COMPONENT-407;1COMPONENT-408;1COMPONENT-409;1COMPONENT-410;1COMPONENT-411;1COMPONENT-412;1COMPONENT-413;1COMPONENT-414;1COMPONENT-415;1COMPONENT-416;1COMPONENT-417;1COMPONENT-418;1COMPONENT-419;1COMPONENT-420;1COMPONENT-421;1COMPONENT-422;1COMPONENT-423;1COMPONENT-424;1COMPONENT-425;1COMPONENT-426;1COMPONENT-427;1COMPONENT-428;1COMPONENT-429;1COMPONENT-430;1COMPONENT-431;1COMPONENT-432;1COMPONENT-433;1COMPONENT-434;1COMPONENT-435;1COMPONENT-436;1COMPONENT-437;1COMPONENT-438;1COMPONENT-439;1COMPONENT-440;1COMPONENT-441;1COMPONENT-442;1COMPONENT-443
1COMPONENT-444;1COMPONENT-445;1COMPONENT-446;1COMPONENT-447;1COMPONENT-448;1COMPONENT-449;1COMPONENT-450;1COMPONENT-451;1COMPONENT-452;1COMPONENT-453;1COMPONENT-454;1COMPONENT-455;1COMPONENT-456;1COMPONENT-457;1COMPONENT-458;1COMPONENT-459;1COMPONENT-460;1COMPONENT-461;1COMPONENT-462;1COMPONENT-463;1COMPONENT-464;1COMPONENT-465;1COMPONENT-466;1COMPONENT-467;1COMPONENT-468;1COMPONENT-469;1COMPONENT-470;1COMPONENT-471;1COMPONENT-472;1COMPONENT-473;1COMPONENT-474;1COMPONENT-475;1COMPONENT-476;1COMPONENT-477;1COMPONENT-478;1COMPONENT-479;1COMPONENT-480;1COMPONENT-481;1COMPONENT-482;1COMPONENT-483;1COMPONENT-484;1COMPONENT-485;1COMPONENT-486;1COMPONENT-487;1COMPONENT-488;1COMPONENT-489;1COMPONENT-490;1COMPONENT-491;1COMPONENT-492;1COMPONENT-493;1COMPONENT-494;1COMPONENT-495;1COMPONENT-496;1COMPONENT-497;1COMPONENT-498;1COMPONENT-499;1COMPONENT-500;1COMPONENT-501;1COMPONENT-502;1COMPONENT-503;1COMPONENT-504;1COMPONENT-505;1COMPONENT-506;1COMPONENT-507;1COMPONENT-508;1COMPONENT-509
1COMPONENT-510;1COMPONENT-511;1COMPONENT-512;1COMPONENT-513;1COMPONENT-514;1COMPONENT-515;1COMPONENT-516;1COMPONENT-517;1COMPONENT-518;1COMPONENT-519;1COMPONENT-520;1COMPONENT-521;1COMPONENT-522;1COMPONENT-523;1COMPONENT-524;1COMPONENT-525;1COMPONENT-526;1COMPONENT-527;1COMPONENT-528;1COMPONENT-529;1COMPONENT-530;1COMPONENT-531;1COMPONENT-532;1COMPONENT-533;1COMPONENT-534;1COMPONENT-535;1COMPONENT-536;1COMPONENT-537;1COMPONENT-538;1COMPONENT-539;1COMPONENT-540;1COMPONENT-541;1COMPONENT-542;1COMPONENT-543;1COMPONENT-544;1COMPONENT-545;1COMPONENT-546;1COMPONENT-547;1COMPONENT-548;1COMPONENT-549;1COMPONENT-550;1COMPONENT-551;1COMPONENT-552;1COMPONENT-553;1COMPONENT-554;1COMPONENT-555;1COMPONENT-556;1COMPONENT-557;1COMPONENT-558;1COMPONENT-559;1COMPONENT-560;1COMPONENT-561;1COMPONENT-562;1COMPONENT-563;1COMPONENT-564;1COMPONENT-565;1COMPONENT-566;1COMPONENT-567;1COMPONENT-568;1COMPONENT-569;1COMPONENT-570;1COMPONENT-571;1COMPONENT-572;1COMPONENT-573;1COMPONENT-574;1COMPONENT-575
1COMPONENT-576;1COMPONENT-577;1COMPONENT-578;1COMPONENT-579;1COMPONENT-580;1COMPONENT-581;1COMPONENT-582;1COMPONENT-583;1COMPONENT-584;1COMPONENT-585;1COMPONENT-586;1COMPONENT-587;1COMPONENT-588;1COMPONENT-589;1COMPONENT-590;1COMPONENT-591;1COMPONENT-592;1COMPONENT-593;1COMPONENT-594;1COMPONENT-595;1COMPONENT-596;1COMPONENT-597;1COMPONENT-598;1COMPONENT-599;1COMPONENT-600;1COMPONENT-601;1COMPONENT-602;1COMPONENT-603;1COMPONENT-604;1COMPONENT-605;1COMPONENT-606;1COMPONENT-607;1COMPONENT-608;1COMPONENT-609;1COMPONENT-610;1COMPONENT-611;1COMPONENT-612;1COMPONENT-613;1COMPONENT-614;1COMPONENT-615;1COMPONENT-616;1COMPONENT-617;1COMPONENT-618;1COMPONENT-619;1COMPONENT-620;1COMPONENT-621;1COMPONENT-622;1COMPONENT-623;1COMPONENT-624;1COMPONENT-625;1COMPONENT-626;1COMPONENT-627;1COMPONENT-628;1COMPONENT-629;1COMPONENT-630;1COMPONENT-631;1COMPONENT-632;1COMPONENT-633;1COMPONENT-634;1COMPONENT-635;1COMPONENT-636;1COMPONENT-637;1COMPONENT-638;1COMPONENT-639;1COMPONENT-640;1COMPONENT-641
1COMPONENT-642;1COMPONENT-643;1COMPONENT-644;1COMPONENT-645;1COMPONENT-646;1COMPONENT-647;1COMPONENT-648;1COMPONENT-649;1COMPONENT-650;1COMPONENT-651;1COMPONENT-652;1COMPONENT-653;1COMPONENT-654;1COMPONENT-655;1COMPONENT-656;1COMPONENT-657;1COMPONENT-658;1COMPONENT-659;1COMPONENT-660;1COMPONENT-661;1COMPONENT-662;1COMPONENT-663;1COMPONENT-664;1COMPONENT-665;1COMPONENT-666;1COMPONENT-667;1COMPONENT-668;1COMPONENT-669;1COMPONENT-670;1COMPONENT-671;1COMPONENT-672;1COMPONENT-673;1COMPONENT-674;1COMPONENT-675;1COMPONENT-676;1COMPONENT-677;1COMPONENT-678;1COMPONENT-679;1COMPONENT-680;1COMPONENT-681;1COMPONENT-682;1COMPONENT-683;1COMPONENT-684;1COMPONENT-685;1COMPONENT-686;1COMPONENT-687;1COMPONENT-688;1COMPONENT-689;1COMPONENT-690;1COMPONENT-691;1COMPONENT-692;1COMPONENT-693;1COMPONENT-694;1COMPONENT-695;1COMPONENT-696;1COMPONENT-697;1COMPONENT-698;1COMPONENT-699;1COMPONENT-700;1COMPONENT-701;1COMPONENT-702;1COMPONENT-703;1COMPONENT-704;1COMPONENT-705;1COMPONENT-706;1COMPONENT-707
1COMPONENT-708;1COMPONENT-709;1COMPONENT-710;1COMPONENT-711;1COMPONENT-712;1COMPONENT-713;1COMPONENT-714;1COMPONENT-715;1COMPONENT-716;1COMPONENT-717;1COMPONENT-718;1COMPONENT-719;1COMPONENT-720;1COMPONENT-721;1COMPONENT-722;1COMPONENT-723;1COMPONENT-724;1COMPONENT-725;1COMPONENT-726;1COMPONENT-727;1COMPONENT-728;1COMPONENT-729;1COMPONENT-730;1COMPONENT-731;1COMPONENT-732;1COMPONENT-733;1COMPONENT-734;1COMPONENT-735;1COMPONENT-736;1COMPONENT-737;1COMPONENT-738;1COMPONENT-739;1COMPONENT-740;1COMPONENT-741;1COMPONENT-742;1COMPONENT-743;1COMPONENT-744;1COMPONENT-745;1COMPONENT-746;1COMPONENT-747;1COMPONENT-748;1COMPONENT-749;1COMPONENT-750;1COMPONENT-751;1COMPONENT-752;1COMPONENT-753;1COMPONENT-754;1COMPONENT-755;1COMPONENT-756;1COMPONENT-757;1COMPONENT-758;1COMPONENT-759;1COMPONENT-760;1COMPONENT-761;1COMPONENT-762;1COMPONENT-763;1COMPONENT-764;1COMPONENT-765;1COMPONENT-766;1COMPONENT-767;1COMPONENT-768;=1AFF0;0tfabMINNAN ul;3vm;3TONE-4;3um;=1AFF5;3TONE-7;3TONE-8;3NASALIZED TONE-1;4ul
4vm;4TONE-4;4um;=1AFFD;4TONE-7;4TONE-8;=1B000;2mzE;0ykabmzYE;0HENTAIGANA abA-1;2A-2;2A-3;2A-WO;2I-1;2I-2;2I-3;2I-4;2U-1;2U-2;2U-3;2U-4;2U-5;2E-2;2E-3;2E-4;2E-5;2E-6;2O-1;2O-2;2O-3;2KA-1;2KA-2;2KA-3;2KA-4;2KA-5;2KA-6;2KA-7;2KA-8;2KA-9;2KA-10;2KA-11;2KA-KE;2KI-1;2KI-2;2KI-3;2KI-4;2KI-5;2KI-6;2KI-7;2KI-8;2KU-1;2KU-2;2KU-3;2KU-4;2KU-5;2KU-6;2KU-7;2KE-1;2KE-2;2KE-3;2KE-4;2KE-5;2KE-6;2KO-1;2KO-2;2KO-3;2KO-KI;2SA-1;2SA-2;2SA-3;2SA-4;2SA-5;2SA-6;2SA-7;2SA-8;2SI-1;2SI-2;2SI-3;2SI-4;2SI-5;2SI-6;2SU-1;2SU-2;2SU-3;2SU-4;2SU-5;2SU-6;2SU-7;2SU-8;2SE-1;2SE-2;2SE-3;2SE-4;2SE-5;2SO-1;2SO-2;2SO-3;2SO-4;2SO-5;2SO-6;2SO-7;2TA-1;2TA-2;2TA-3;2TA-4;2TI-1;2TI-2;2TI-3;2TI-4;2TI-5;2TI-6;2TI-7;2TU-1;2TU-2;2TU-3;2TU-4;2TU-TO;2TE-1;2TE-2;2TE-3;2TE-4;2TE-5;2TE-6;2TE-7;2TE-8;2TE-9;2TO-1;2TO-2;2TO-3;2TO-4;2TO-5;2TO-6;2TO-RA;2NA-1;2NA-2;2NA-3;2NA-4;2NA-5;2NA-6;2NA-7;2NA-8;2NA-9;2NI-1;2NI-2;2NI-3;2NI-4;2NI-5;2NI-6;2NI-7;2NI-TE;2NU-1;2NU-2;2NU-3;2NE-1;2NE-2;2NE-3;2NE-4;2NE-5;2NE-6;2NE-KO;2NO-1;2NO-2;2NO-3;2NO-4;2NO-5
2HA-1;2HA-2;2HA-3;2HA-4;2HA-5;2HA-6;2HA-7;2HA-8;2HA-9;2HA-10;2HA-11;2HI-1;2HI-2;2HI-3;2HI-4;2HI-5;2HI-6;2HI-7;2HU-1;2HU-2;2HU-3;2HE-1;2HE-2;2HE-3;2HE-4;2HE-5;2HE-6;2HE-7;2HO-1;2HO-2;2HO-3;2HO-4;2HO-5;2HO-6;2HO-7;2HO-8;2MA-1;2MA-2;2MA-3;2MA-4;2MA-5;2MA-6;2MA-7;2MI-1;2MI-2;2MI-3;2MI-4;2MI-5;2MI-6;2MI-7;2MU-1;2MU-2;2MU-3;2MU-4;2ME-1;2ME-2;2ME-MA;2MO-1;2MO-2;2MO-3;2MO-4;2MO-5;2MO-6;2YA-1;2YA-2;2YA-3;2YA-4;2YA-5;2YA-YO;2YU-1;2YU-2;2YU-3;2YU-4;2YO-1;2YO-2;2YO-3;2YO-4;2YO-5;2YO-6;2RA-1;2RA-2;2RA-3;2RA-4;2RI-1;2RI-2;2RI-3;2RI-4;2RI-5;2RI-6;2RI-7;2RU-1;2RU-2;2RU-3;2RU-4;2RU-5;2RU-6;2RE-1;2RE-2;2RE-3;2RE-4;2RO-1;2RO-2;2RO-3;2RO-4;2RO-5;2RO-6;2WA-1;2WA-2;2WA-3;2WA-4;2WA-5;2WI-1;2WI-2;2WI-3;2WI-4;2WI-5;2WE-1;2WE-2;2WE-3;2WE-4;2WO-1;2WO-2;2WO-3;2WO-4;2WO-5;2WO-6;2WO-7;2N-MU-MO-1;2N-MU-MO-2;0ykabmzWU;0tfabmzYI;3YE;3WU;=1B150;0ykabacWI;3WE;3WO;=1B164;0tfabacWI;3WE;3WO;3N;=1BC00;0DUPLOYAN abH;2X;2P;2T;2F;2K;2L;2B;2D;2V;2G;2R;2P N;2D S;2F N;2K M;2R S;2TH;2SLOAN DH;2DH;2KK;2SLOAN J;2HL;2LH;2RH;2M;2N;2J
2S;2M N;2N M;2J M;2S J;2M aaar;2N aaar;2J aaar;4ccngagaj;2S aaar;5an;2M S;2N S;2J S;2S S;2M N S;2N M S;2J M S;2S J S;2J S aaar;3N;4S;2S T;4R;3P;4R;2T S;3R S;2W;2WH;2W R;2S N;3M;2K R S;2G R S;2S K;4R;2A;2SLOAN OW;2OA;2O;2AOU;2I;2E;2IE;2geI;2UI;2hd;2SLOAN EH;2ROMANIAN I;2SLOAN hd;2drI;2YE;2U;2EU;2XW;2U N;2drU;2ROMANIAN U;2UH;2SLOAN U;2OOH;2OW;2OU;2en;2WO;2WI;2WEI;2WOW;2NASAL U;3O;3I;3A;2PERNIN iy;3AM;2SLOAN gi;3iy;3ez;2flM;=1BC70;1AFFIX akcowv;2MID cowv;2aicowv;2dcbhwv;2MID bhwv;2dzbhwv;2ycwv;3zfwv;3TANGENT;3fs;3E az;3I az;3TANGENT az;=1BC80;2dzdd;3TIGHT dd;3eq;3dreq;3ar;3cb;3ee;3mn;3bh;=1BC90;2dcdd;3TIGHT dd;3eq;3dreq;3ar;3cb;3ee;3mn;3bh;3ah;=1BC9C;1afO aagr;1THICK abSELECTOR;1apaq;1haCHINOOK gdei;0SHORTHAND FORMAT abOVERLAP;2CONTINUING OVERLAP;2bqSTEP;2biSTEP;=1CF00;0ZNAMENNY hwaqGORAZDO NIZKO S sfezak;3NIZKO S sfezak;3TSATA ezak;3GORAZDO NIZKO ezak;3NIZKO ezak;3SREDNE ezak;3MALO smezak;3smezak;3VYSOKO ezak;3MALO smS yoezak;3smS yoezak;3VYSOKO S yoezak;3GORAZDO NIZKO S sfezai
3NIZKO S sfezai;3TSATA ezai;3GORAZDO NIZKO ezai;3NIZKO ezai;3SREDNE ezai;3MALO smezai;3smezai;3VYSOKO ezai;3MALO smS yoezai;3smS yoezai;3VYSOKO S yoezai;3TSATA S sf;3MALO smS sf;3STRANNO MALO sm;3smS sf;4STRANNO;3VYSOKO S sf;3MALO smSTRANNO;3GORAZDO VYSOKO;3ZELO;3ez;3RAVNO;3TIKHAYA;3BORZAYA;3UDARKA;3PODVERTKA;3LOMKA;3KUPNAYA;3KACHKA;3ZEVOK;3SKOBA;3RAZSEKA;3KRYZH ezak;=1CF30;2TONAL RANGE aqMRACHNO;5SVETLO;5TRESVETLO;2aqZADERZHKA;3DEMESTVENNY ZADERZHKA;3OTSECHKA;3PODCHASHIE;4aabhba;3CHASHKA;4POLNAYA;3OBLACHKO;3SOROCHYA NOZHKA;3TOCHKA;3DVOETOCHIE;2ATTACHING bhOMET;2aqtbOMET;3KRYZH;2cyTONAL RANGE wf;1PRIZNAK jrLEVEL-2;3LEVEL-3;3DIRECTION FLIP;3KRYZH;3ROG;=1CF50;1NEUME KRYUK;3TIKHY;2PARAKLIT;2DVA V CHELNU;2KLYUCH;2ZANOZHEK;2STOPITSA;3S OCHKOM;2PEREVODKA;3zg;2STOPITSA aaSOROCHYA NOZHKA;2CHELYUSTKA;2PALKA;2xh;2GOLUBCHIK BORZY;3TIKHY;3MRACHNY;3SVETLY;3TRESVETLY;2VRAKHIYA PROSTAYA;3MRACHNAYA;3xb;3TRESVETLAYA;3xpPROSTAYA;4MRACHNAYA;4xb;4TRESVETLAYA;2apxh;2ebCHELYUSTKA;2DERBITSA;2KHAMILO;2CHASHKA
2PODCHASHIE;2SKAMEYTSA MRACHNAYA;3xb;3TRESVETLAYA;3TIKHAYA;2DEMESTVENNY KLYUCH;2SKAMEYTSA xpxb;3KLYUCHENEPOSTOYANNAYA;3xpTIKHAYA;3DVOECHELNAYA PROSTAYA;4xb;4zg;4xp;2SLOZHITIE;3S yy;3ZAKRYTOE;3S sf;2KRYZH;2ROG;2FITA;2KOBYLA;2ZMEYTSA;2STATYA;3S yy;4sf;4yyI sf;4sfI yy;3ZAKRYTAYA;4S yy;3S ROGOM;4DVUMYA ZAPYATYMI;4yyI PODCHASHIEM;2POLKULIZMY;2STATYA zg;2STRELA PROSTAYA;3MRACHNOTIKHAYA;3KRYZHEVAYA;3POLUPOVODNAYA;3POVODNAYA;3zg;3KLYUCHEPOVODNAYA;3KLYUCHENEPOSTOYANNAYA;3TIKHAYA PUTNAYA;3DVOECHELNAYA;3DVOECHELNOKRYZHEVAYA;3DVOECHELNOPOVODNAYA;3DVOECHELNAYA xp;3DVOECHELNOPOVODNAYA xp;3GROMNAYA aaehxh;3zpaaehxh;3GROMNAYA;3zp;4aaapxh;3GROMOKRYZHEVAYA;4POVODNAYA;2MECHIK;3POVODNY;3KLYUCHEVOY;3KLYUCHEPOVODNY;3KLYUCHENEPOSTOYANNY;2STRELA TRYASOGLASNAYA;3TRYASOPOVODNAYA;3TRYASOSTRELNAYA;2OSOKA;3xb;3TRESVETLAYA;3KRYUKOVAYA xb;3xpxb;4zg;2STRELA KRYUKOVAYA;4POVODNAYA;4GROMNAYA aaehxh;4zpaaehxh;4GROMNAYA;4zp;5aaapxh;4GROMOKRYZHEVAYA;5POVODNAYA;4TRYASKA;2KUFISMA;2OBLAKO;2DUDA;2NEMKA;2PAUK;=1D000
0BYZANTINE rfbbea;3DASEIA;3gz;3OXEIA EKFONITIKON;4DIPLI;3VAREIA EKFONITIKON;4DIPLI;3KATHISTI;3SYRMATIKI;3PARAKLITIKI;3YPOKRISIS;4DIPLI;3KREMASTI;3APESO EKFONITIKON;3EXO EKFONITIKON;3TELEIA;3KENTIMATA;3APOSTROFOS;4DIPLI;3SYNEVMA;3THITA;3OLIGON na;3GORGON na;3PSILON;3CHAMILON;3VATHY;3ISON na;3KENTIMA na;3KENTIMATA na;3SAXIMATA;3PARICHON;3STAVROS APODEXIA;3OXEIAI na;3VAREIAI na;3APODERMA na;3APOTHEMA;3KLASMA;3REVMA;3PIASMA na;3TINAGMA;3ANATRICHISMA;3SEISMA;3SYNAGMA na;4META STAVROU;3OYRANISMA na;3THEMA;3LEMOI;3DYO;3TRIA;3TESSERA;3KRATIMATA;3APESO EXO kq;3FTHORA na;3IMIFTHORA;3TROMIKON na;3KATAVA TROMIKON;3PELASTON;3PSIFISTON;3KONTEVMA;3CHOREVMA na;3RAPISMA;3PARAKALESMA na;3PARAKLITIKI na;3ICHADIN;3NANA;3PETASMA;3KONTEVMA ALLO;3TROMIKON ALLO;3STRAGGISMATA;3GRONTHISMATA;3ISON kq;3OLIGON kq;3OXEIA kq;3PETASTI;3KOUFISMA;3PETASTOKOUFISMA;3KRATIMOKOUFISMA;3PELASTON kq;3KENTIMATA kqANO;3KENTIMA kqANO;3YPSILI;3APOSTROFOS kq;3APOSTROFOI SYNDESMOS kq;3YPORROI;3KRATIMOYPORROON;3ELAFRON;3CHAMILI
3MIKRON ISON;3VAREIA kq;3PIASMA kq;3PSIFISTON kq;3OMALON;3ANTIKENOMA;3LYGISMA;3PARAKLITIKI kq;3PARAKALESMA kq;3ETERON PARAKALESMA;3KYLISMA;3ANTIKENOKYLISMA;3TROMIKON kq;3EKSTREPTON;3SYNAGMA kq;3SYRMA;3CHOREVMA kq;3EPEGERMA;3SEISMA kq;3XIRON KLASMA;3TROMIKOPSIFISTON;3PSIFISTOLYGISMA;3TROMIKOLYGISMA;3TROMIKOPARAKALESMA;3PSIFISTOPARAKALESMA;3TROMIKOSYNAGMA;3PSIFISTOSYNAGMA;3GORGOSYNTHETON;3ARGOSYNTHETON;3ETERON ARGOSYNTHETON;3OYRANISMA kq;3THEMATISMOS ESO;4EXO;3THEMA APLOUN;3THES KAI APOTHES;3KATAVASMA;3ENDOFONON;3YFEN KATO;4ANO;3STAVROS;3KLASMA ANO;3DIPLI na;3KRATIMA na;4ALLO;4kq;3APODERMA kq;3APLI;3DIPLI;3TRIPLI;3TETRAPLI;3KORONIS;3LEIMMA ENOS CHRONOU;4DYO CHRONON;4TRION CHRONON;4TESSARON CHRONON;4IMISEOS CHRONOU;3GORGON kqANO;4PARESTIGMENON ARISTERA;5DEXIA;3DIGORGON;4PARESTIGMENON ARISTERA KATO;6ANO;5DEXIA;3TRIGORGON;3ARGON;3IMIDIARGON;3DIARGON;3AGOGI POLI ARGI;4ARGOTERI;4ARGI;4METRIA;4MESI;4GORGI;4GORGOTERI;4POLI GORGI;3MARTYRIA PROTOS ra;4ALLI PROTOS ra;4DEYTEROS ra;4ALLI DEYTEROS ra
4TRITOS ra;4TRIFONIAS;4TETARTOS ra;5LEGETOS ra;4LEGETOS ra;4PLAGIOS ra;3ISAKIA TELOUS ICHIMATOS;3APOSTROFOI TELOUS ICHIMATOS;3FANEROSIS TETRAFONIAS;4MONOFONIAS;4DIFONIAS;3MARTYRIA VARYS ra;4PROTOVARYS ra;4PLAGIOS TETARTOS ra;3GORTHMIKON N APLOUN;5DIPLOUN;3ENARXIS KAI FTHORA VOU;3IMIFONON;3IMIFTHORON;3FTHORA naDEYTEROU ICHOU;4DIATONIKI ca;5NANA;4NAOS ra;4DIATONIKI DI;4SKLIRON DIATONON DI;4DIATONIKI KE;5ZO;5NI KATO;6ANO;4MALAKON CHROMA DIFONIAS;6MONOFONIAS;3FHTORA SKLIRON CHROMA VASIS;3FTHORA SKLIRON CHROMA SYNAFI;4NENANO;3CHROA ZYGOS;4KLITON;4SPATHI;3FTHORA I YFESIS TETARTIMORION;4ENARMONIOS ANTIFONIA;3YFESIS TRITIMORION;3DIESIS TRITIMORION;4TETARTIMORION;4APLI DYO vx;4MONOGRAMMOS TESSERA vx;4DIGRAMMOS EX vx;4TRIGRAMMOS OKTO vx;3YFESIS APLI DYO vx;4MONOGRAMMOS TESSERA vx;4DIGRAMMOS EX vx;4TRIGRAMMOS OKTO vx;3GENIKI DIESIS;4YFESIS;3DIASTOLI APLI MIKRI;5MEGALI;4DIPLI;4THESEOS;3SIMANSIS THESEOS;5DISIMOU;5TRISIMOU;5TETRASIMOU;4ARSEOS;5DISIMOU;5TRISIMOU;5TETRASIMOU;3DIGRAMMA GG;3DIFTOGGOS OU
3STIGMA;3ARKTIKO ca;4VOU;4da;4DI;4KE;4ZO;4NI;3KENTIMATA kqMESO;3KENTIMA kqMESO;3KENTIMATA kqKATO;3KENTIMA kqKATO;3KLASMA KATO;3GORGON kqKATO;=1D100;0rfbbehBARLINE;2apBARLINE;2aoBARLINE;2mgaoBARLINE;2qzBARLINE;2geBARLINE;2akREPEAT af;2aiREPEAT af;2REPEAT cc;2DAL SEGNO;2cwCAPO;2SEGNO;2CODA;2REPEATED FIGURE-1;3FIGURE-2;3FIGURE-3;2FERMATA;3an;2BREATH aq;2CAESURA;2BRACE;2bw;2ONE-LINE STAFF;2TWO-LINE STAFF;2THREE-LINE STAFF;2FOUR-LINE STAFF;2FIVE-LINE STAFF;2SIX-LINE STAFF;2SIX-STRING FRETBOARD;2FOUR-STRING FRETBOARD;2G CLEF;4OTTAVA ALTA;5BASSA;2C CLEF;2F CLEF;4OTTAVA ALTA;5BASSA;2DRUM CLEF-1;3CLEF-2;=1D129;2reMEASURE od;2apSHARP;3FLAT;2FLAT bi;3bq;2NATURAL bi;3bq;2SHARP bi;3bq;2jbdvSHARP;4FLAT;2COMMON TIME;2CUT TIME;2OTTAVA ALTA;3BASSA;2QUINDICESIMA ALTA;3BASSA;2MULTI od;2WHOLE od;2bsod;2jbod;2kood;2ytod;2THIRTY-SECOND od;2SIXTY-FOURTH od;2ambtTWENTY-EIGHTH od;2X sj;2bosj;2cbX sj;2bzsjax;4au;2czsjbiax;5au;4akax;5au;4aiax;5au;4bqax;5au;4biaiax;6au;2kxsjax;4au;2TRIANGLE-ROUND sjbqax;5au;2hesj
2VOID sj;2sjau;2NULL sj;2CLUSTER sjax;4au;2fn;2WHOLE mw;2bsmw;2jbmw;2komw;2ytmw;2THIRTY-SECOND mw;2SIXTY-FOURTH mw;2ambtTWENTY-EIGHTH mw;2hwSTEM;3SPRECHGESANG STEM;3TREMOLO-1;3TREMOLO-2;3TREMOLO-3;2FINGERED TREMOLO-1;3TREMOLO-2;3TREMOLO-3;2hwAUGMENTATION ar;3FLAG-1;3FLAG-2;3FLAG-3;3FLAG-4;3FLAG-5;2BEGIN BEAM;2igBEAM;2BEGIN TIE;2igTIE;2BEGIN SLUR;2igSLUR;2BEGIN PHRASE;2igPHRASE;2hwhv;3STACCATO;3TENUTO;3STACCATISSIMO;3MARCATO;3MARCATO-STACCATO;3ACCENT-STACCATO;3LOURE;2ARPEGGIATO bi;3bq;2hwDOIT;3RIP;3FLIP;3SMEAR;3BEND;3apTONGUE;3gsTONGUE;2RINFORZANDO;2SUBITO;2Z;2PIANO;2MEZZO;2FORTE;2CRESCENDO;2DECRESCENDO;2GRACE mwpk;4hmpk;2TR;2TURN;2euTURN;2TURN pk;3bi;2gcSTROKE-1;3STROKE-2;3STROKE-3;3STROKE-4;3STROKE-5;3STROKE-6;3STROKE-7;3STROKE-8;3STROKE-9;3STROKE-10;3STROKE-11;2HAUPTSTIMME;2NEBENSTIMME;2igawSTIMME;2DEGREE pk;2hwbqBOW;3biBOW;3HARMONIC;3SNAP PIZZICATO;2PEDAL aq;3biaq;2bsPEDAL aq;2GLISSANDO bi;3bq;2aaFINGERNAILS;2DAMP;3ALL;2MAXIMA;2LONGA;2BREVIS;2SEMIBREVIS ax;3au;2MINIMA;3au
2SEMIMINIMA ax;3au;2FUSA ax;3au;2LONGA PERFECTA od;3IMPERFECTA od;2BREVIS od;2SEMIBREVIS od;2MINIMA od;2SEMIMINIMA od;2TEMPUS PERFECTUM CUM PROLATIONE PERFECTA;6IMPERFECTA;6PERFECTA DIMINUTION-1;3IMPERFECTUM CUM PROLATIONE PERFECTA;6IMPERFECTA;7DIMINUTION-1;7DIMINUTION-2;7DIMINUTION-3;2CROIX;2GREGORIAN C CLEF;3F CLEF;2bzB;2VIRGA;2PODATUS;2CLIVIS;2SCANDICUS;2CLIMACUS;2TORCULUS;2PORRECTUS;3FLEXUS;2SCANDICUS FLEXUS;2TORCULUS RESUPINUS;2PES SUBPUNCTIS;2KIEVAN C CLEF;3igawPIECE;3aomw;3RECITATIVE aq;3WHOLE mw;3bsmw;3jbmwSTEM bq;6bi;3komwSTEM bq;6bi;3FLAT af;2SORI;2KORON;=1D200;0leVOCAL woSYMBOL-1;3SYMBOL-2;3SYMBOL-3;3SYMBOL-4;3SYMBOL-5;3SYMBOL-6;3SYMBOL-7;3SYMBOL-8;3SYMBOL-9;3SYMBOL-10;3SYMBOL-11;3SYMBOL-12;3SYMBOL-13;3SYMBOL-14;3SYMBOL-15;3SYMBOL-16;3SYMBOL-17;3SYMBOL-18;3SYMBOL-19;3SYMBOL-20;3SYMBOL-21;3SYMBOL-22;3SYMBOL-23;3SYMBOL-24;3SYMBOL-50;3SYMBOL-51;3SYMBOL-52;3SYMBOL-53;3SYMBOL-54;1INSTRUMENTAL woSYMBOL-1;3SYMBOL-2;3SYMBOL-4;3SYMBOL-5;3SYMBOL-7;3SYMBOL-8;3SYMBOL-11;3SYMBOL-12
3SYMBOL-13;3SYMBOL-14;3SYMBOL-17;3SYMBOL-18;3SYMBOL-19;3SYMBOL-23;3SYMBOL-24;3SYMBOL-25;3SYMBOL-26;3SYMBOL-27;3SYMBOL-29;3SYMBOL-30;3SYMBOL-32;3SYMBOL-36;3SYMBOL-37;3SYMBOL-38;3SYMBOL-39;3SYMBOL-40;3SYMBOL-42;3SYMBOL-43;3SYMBOL-45;3SYMBOL-47;3SYMBOL-48;3SYMBOL-49;3SYMBOL-50;3SYMBOL-51;3SYMBOL-52;3SYMBOL-53;3SYMBOL-54;0hwlerfTRISEME;3TETRASEME;3PENTASEME;0lerfLEIMMA;=1D2E0;0MAYAN ufdj;2am;2al;2as;2ay;2bc;2bj;2br;2bk;2bv;2ds;2rz;2qt;2xd;2wd;2td;2uj;2ww;2uy;2wn;=1D300;0yqhxqm;0DIGRAM hxHEAVENLY qm;2HUMAN qm;2EARTHLY HEAVEN;3HUMAN;2qm;0TETRAGRAM hxfm;2gdcb;2MIRED;2BARRIER;2KEEPING ac;2CONTRARIETY;2ASCENT;2OPPOSITION;2BRANCHING OUT;2DEFECTIVENESS doDISTORTION;2DIVERGENCE;2YOUTHFULNESS;2INCREASE;2PENETRATION;2REACH;2CONTACT;2HOLDING ru;2WAITING;2FOLLOWING;2ADVANCE;2RELEASE;2RESISTANCE;2EASE;2JOY;2CONTENTION;2ENDEAVOUR;2DUTIES;2CHANGE;2DECISIVENESS;2jvRESOLUTION;2PACKING;2LEGION;2CLOSENESS;2KINSHIP;2GATHERING;2STRENGTH;2PURITY;2FULLNESS;2RESIDENCE;2LAW doMODEL;2RESPONSE;2GOING atMEET
2ENCOUNTERS;2STOVE;2GREATNESS;2ENLARGEMENT;2PATTERN;2RITUAL;2FLIGHT;2VASTNESS doWASTING;2CONSTANCY;2MEASURE;2ETERNITY;2UNITY;2DIMINISHMENT;2inms;2GUARDEDNESS;2GATHERING fp;2MASSING;2ACCUMULATION;2EMBELLISHMENT;2DOUBT;2WATCH;2SINKING;2INNER;2DEPARTURE;2DARKENING;2DIMMING;2EXHAUSTION;2SEVERANCE;2STOPPAGE;2HARDNESS;2COMPLETION;2CLOSURE;2FAILURE;2AGGRAVATION;2COMPLIANCE;2ezidVERGE;2DIFFICULTIES;2LABOURING;2FOSTERING;=1D360;0COUNTING ROD UNIT cuam;4al;4as;4ay;4bc;4bj;4br;4bk;4bv;2TENS cuam;4al;4as;4ay;4bc;4bj;4br;4bk;4bv;0psTALLY aqam;3al;3as;3ay;3bc;0TALLY aqam;2bc;=1D400;0ypjvaeA;3B;3C;3D;3E;3F;3G;3H;3I;3J;3K;3L;3M;3N;3O;3P;3Q;3R;3S;3T;3U;3V;3W;3X;3Y;3Z;2acA;3B;3C;3D;3E;3F;3G;3H;3I;3J;3K;3L;3M;3N;3O;3P;3Q;3R;3S;3T;3U;3V;3W;3X;3Y;3Z;1teaeA;3B;3C;3D;3E;3F;3G;3H;3I;3J;3K;3L;3M;3N;3O;3P;3Q;3R;3S;3T;3U;3V;3W;3X;3Y;3Z;2acA;3B;3C;3D;3E;3F;3G;=1D456;3I;3J;3K;3L;3M;3N;3O;3P;3Q;3R;3S;3T;3U;3V;3W;3X;3Y;3Z;1jvteaeA;4B;4C;4D;4E;4F;4G;4H;4I;4J;4K;4L;4M;4N;4O;4P;4Q;4R;4S;4T;4U;4V;4W;4X;4Y;4Z;3acA;4B;4C
4D;4E;4F;4G;4H;4I;4J;4K;4L;4M;4N;4O;4P;4Q;4R;4S;4T;4U;4V;4W;4X;4Y;4Z;1loaeA;=1D49E;3C;3D;=1D4A2;3G;=1D4A5;3J;3K;=1D4A9;3N;3O;3P;3Q;=1D4AE;3S;3T;3U;3V;3W;3X;3Y;3Z;2acA;3B;3C;3D;=1D4BB;3F;=1D4BD;3H;3I;3J;3K;3L;3M;3N;=1D4C5;3P;3Q;3R;3S;3T;3U;3V;3W;3X;3Y;3Z;1jvloaeA;4B;4C;4D;4E;4F;4G;4H;4I;4J;4K;4L;4M;4N;4O;4P;4Q;4R;4S;4T;4U;4V;4W;4X;4Y;4Z;3acA;4B;4C;4D;4E;4F;4G;4H;4I;4J;4K;4L;4M;4N;4O;4P;4Q;4R;4S;4T;4U;4V;4W;4X;4Y;4Z;1FRAKTUR aeA;3B;=1D507;3D;3E;3F;3G;=1D50D;3J;3K;3L;3M;3N;3O;3P;3Q;=1D516;3S;3T;3U;3V;3W;3X;3Y;=1D51E;2acA;3B;3C;3D;3E;3F;3G;3H;3I;3J;3K;3L;3M;3N;3O;3P;3Q;3R;3S;3T;3U;3V;3W;3X;3Y;3Z;1tcaeA;3B;=1D53B;3D;3E;3F;3G;=1D540;3I;3J;3K;3L;3M;=1D546;3O;=1D54A;3S;3T;3U;3V;3W;3X;3Y;=1D552;2acA;3B;3C;3D;3E;3F;3G;3H;3I;3J;3K;3L;3M;3N;3O;3P;3Q;3R;3S;3T;3U;3V;3W;3X;3Y;3Z;1jvFRAKTUR aeA;4B;4C;4D;4E;4F;4G;4H;4I;4J;4K;4L;4M;4N;4O;4P;4Q;4R;4S;4T;4U;4V;4W;4X;4Y;4Z;3acA;4B;4C;4D;4E;4F;4G;4H;4I;4J;4K;4L;4M;4N;4O;4P;4Q;4R;4S;4T;4U;4V;4W;4X;4Y;4Z;1mbaeA;3B;3C;3D;3E;3F;3G;3H;3I;3J;3K;3L;3M;3N;3O;3P;3Q
3R;3S;3T;3U;3V;3W;3X;3Y;3Z;2acA;3B;3C;3D;3E;3F;3G;3H;3I;3J;3K;3L;3M;3N;3O;3P;3Q;3R;3S;3T;3U;3V;3W;3X;3Y;3Z;2jvaeA;4B;4C;4D;4E;4F;4G;4H;4I;4J;4K;4L;4M;4N;4O;4P;4Q;4R;4S;4T;4U;4V;4W;4X;4Y;4Z;3acA;4B;4C;4D;4E;4F;4G;4H;4I;4J;4K;4L;4M;4N;4O;4P;4Q;4R;4S;4T;4U;4V;4W;4X;4Y;4Z;2teaeA;4B;4C;4D;4E;4F;4G;4H;4I;4J;4K;4L;4M;4N;4O;4P;4Q;4R;4S;4T;4U;4V;4W;4X;4Y;4Z;3acA;4B;4C;4D;4E;4F;4G;4H;4I;4J;4K;4L;4M;4N;4O;4P;4Q;4R;4S;4T;4U;4V;4W;4X;4Y;4Z;2jvteaeA;5B;5C;5D;5E;5F;5G;5H;5I;5J;5K;5L;5M;5N;5O;5P;5Q;5R;5S;5T;5U;5V;5W;5X;5Y;5Z;4acA;5B;5C;5D;5E;5F;5G;5H;5I;5J;5K;5L;5M;5N;5O;5P;5Q;5R;5S;5T;5U;5V;5W;5X;5Y;5Z;1MONOSPACE aeA;3B;3C;3D;3E;3F;3G;3H;3I;3J;3K;3L;3M;3N;3O;3P;3Q;3R;3S;3T;3U;3V;3W;3X;3Y;3Z;2acA;3B;3C;3D;3E;3F;3G;3H;3I;3J;3K;3L;3M;3N;3O;3P;3Q;3R;3S;3T;3U;3V;3W;3X;3Y;3Z;1teacqlI;4J;=1D6A8;1jvaeix;3nc;3md;3mu;3ku;3rs;3mp;3lh;3jl;3ny;3qo;3ia;3NU;3XI;3oc;3hf;3kr;3lhbb;3lb;3of;3kk;3lg;3lk;3op;3ic;2NABLA;2acix;3nc;3md;3mu;3ku;3rs;3mp;3lh;3jl;3ny;3qo;3ia;3NU;3XI;3oc;3hf;3kr;3aolb;3lb;3of;3kk;3lg;3lk;3op;3ic
2wtye;2kubb;2lhbb;2nybb;2lgbb;2krbb;2hfbb;1teaeix;3nc;3md;3mu;3ku;3rs;3mp;3lh;3jl;3ny;3qo;3ia;3NU;3XI;3oc;3hf;3kr;3lhbb;3lb;3of;3kk;3lg;3lk;3op;3ic;2NABLA;2acix;3nc;3md;3mu;3ku;3rs;3mp;3lh;3jl;3ny;3qo;3ia;3NU;3XI;3oc;3hf;3kr;3aolb;3lb;3of;3kk;3lg;3lk;3op;3ic;2wtye;2kubb;2lhbb;2nybb;2lgbb;2krbb;2hfbb;1jvteaeix;4nc;4md;4mu;4ku;4rs;4mp;4lh;4jl;4ny;4qo;4ia;4NU;4XI;4oc;4hf;4kr;4lhbb;4lb;4of;4kk;4lg;4lk;4op;4ic;3NABLA;3acix;4nc;4md;4mu;4ku;4rs;4mp;4lh;4jl;4ny;4qo;4ia;4NU;4XI;4oc;4hf;4kr;4aolb;4lb;4of;4kk;4lg;4lk;4op;4ic;3wtye;3kubb;3lhbb;3nybb;3lgbb;3krbb;3hfbb;1mbjvaeix;4nc;4md;4mu;4ku;4rs;4mp;4lh;4jl;4ny;4qo;4ia;4NU;4XI;4oc;4hf;4kr;4lhbb;4lb;4of;4kk;4lg;4lk;4op;4ic;3NABLA;3acix;4nc;4md;4mu;4ku;4rs;4mp;4lh;4jl;4ny;4qo;4ia;4NU;4XI;4oc;4hf;4kr;4aolb;4lb;4of;4kk;4lg;4lk;4op;4ic;3wtye;3kubb;3lhbb;3nybb;3lgbb;3krbb;3hfbb;3teaeix;5nc;5md;5mu;5ku;5rs;5mp;5lh;5jl;5ny;5qo;5ia;5NU;5XI;5oc;5hf;5kr;5lhbb;5lb;5of;5kk;5lg;5lk;5op;5ic;4NABLA;4acix;5nc;5md;5mu;5ku;5rs;5mp;5lh;5jl;5ny;5qo;5ia;5NU;5XI;5oc
5hf;5kr;5aolb;5lb;5of;5kk;5lg;5lk;5op;5ic;4wtye;4kubb;4lhbb;4nybb;4lgbb;4krbb;4hfbb;1jvaeDIGAMMA;2acDIGAMMA;=1D7CE;2cudj;3am;3al;3as;3ay;3bc;3bj;3br;3bk;3bv;1tccudj;3am;3al;3as;3ay;3bc;3bj;3br;3bk;3bv;1mbcudj;3am;3al;3as;3ay;3bc;3bj;3br;3bk;3bv;2jvcudj;4am;4al;4as;4ay;4bc;4bj;4br;4bk;4bv;1MONOSPACE cudj;3am;3al;3as;3ay;3bc;3bj;3br;3bk;3bv;0SIGNWRITING kfcm;1olcm;1yjcm;1HAND-OVAL cm;1nwcm;1sccm;1kfcmjo;1olcmjo;1kfduUNDER cmjo;2cmkzKNUCKLE;3CUPPED;3pb;4dc;1olcmHINGE;1kfcmbg;1olcmbg;1kfcmbgjo;4kzKNUCKLES;4pb;3bibgpb;3pbbgbi;3bgnp;5cmjo;5bgjo;5CUPPED;5pb;4qy;1olcmbgqy;1kfbgjocfcm;2cmjocfbg;3bgdu;1olcmbgdu;1kfcmbglsdujo;4joduls;4dujo;4pbrndula;3bibgpbdula;7np;3pbbgbidula;3bgbirndunt;4duCUPPED;5ft;5HOOKED;5pb;2duojcmbgls;2cmbgnpdula;7np;7jo;2bgduHOOKED cmbi;2cmduHOOKED bgbi;3bgnppbdula;4qydula;4npdunt;5CUPPED dunt;2bgduCUPPED cmbi;2cmduCUPPED bgbi;2bgduftcmbi;6pb;2cmduANGLED OUT bgbi;5fpbgbi;4ftbgbi;3bgdunppb;5ANGLED OUT;6;2bgduANGLED OUT cmbi;7qy;5cmbi;2cmduHOOKED bgpb;1HAND-FLAT aylm;4jo
4pb;4np;5SPLIT;1HAND-CLAW aylmnp;1kfaylmnpjo;1nwaylmnp;1HAND-FLAT bclmrn;2HEEL bclmrn;2bclmrnayjo;2HEEL bclmrnayjo;2bclmrnjo;2HEEL bclmrnjo;2bclmrndunt;1yjbclmrn;5dn;1nwbclmrndn;1HAND-OVAL bclmrn;1HAND-FLAT bclmrnpb;6dula;6hmdu;2;2ojPALM FACINGS;2HEEL;2dula;2HEEL dula;2dujo;3nt;2SPLIT cmdula;3fm;4dula;6jo;3fq;1HAND-CLAW;2dula;2hmdu;2dunt;1HAND-HOOK CURLICUE;2;1yjdn;2;2dndula;2dula;2dnhmdu;2hmdu;2dndunt;2dunt;1HAND-CURLICUE dn;2;1ol;1HAND-OVAL;2dula;2hmdu;2dunt;1nwdn;3dunt;2;2ac;2dndula;2dula;2dnhmdu;2hmdu;2dulaTOUCHING cm;3ojbgcv;1sc;1kfcmbgcv;1olcmbgcv;1nwcmbgcv;1sccmbgcv;1nwfq;1kfcmbgcvjo;5np;1nwcmbgcvnp;1kffqbq;4RIPPLE ls;5tb;4OTHERS ft;3bi;2duUNDER fqbi;1olfqbi;1HAND-OVAL fqbi;1scfqbi;1kffqkzKNUCKLE;3jo;3TOUCHES du;3du;1nwfqdu;1kffqcmdu;1nwfqcmdu;1scfqcmducmduOUT;7;1kffqcm;1olfqcm;1nwfqcm;1scfqcm;1kfcmbgfq;1olcmbgfq;1nwcmbgfq;2cv;1sccmbgfq;1kfcmbggrfq;1olcmbggrfq;1kfcvbq;1nwcvbqcmduazbg;1sccvbqbgducmgr;1kfcvbi;3kzKNUCKLE;3fq;1olcvfq;1HAND-OVAL cvfq;1sccvfq;1kfcvbg;4np;4kzKNUCKLES
3cm;3du;1HAND-HOOK cvdu;1kfcmcvfq;1olcmcvfq;1HAND-CURLICUE cmcvfqez;1HAND-HOOK cmcvfqOUT;5fp;5UNDER;1yjcmcvfq;1nwcmcvfq;1sccmcvfqOUT;5;1kfbgbq;1nwbg;1kfbgbi;1olbgbi;1kfbgkzKNUCKLE;3bidula;1HAND-HOOK bgdu;1kfbgdufq;3fq;3cvfq;1olbgcvfq;1HAND-CURLICUE bgcvfqez;1yjbgcvfq;1nwbgcvfq;1scbgcvfqOUT;5fp;5;1olbgcvfqjo;1HAND-CLAW bgcvfqnp;6la;1HAND-HOOK bgcvfqnpOUT;6fp;6;1nwcmpb;1kfcmdula;1nwcmdula;1kfcmduladugv;6np;6jo;5cmjo;5BOTH jo;5cmHINGE;4ntcmls;6jo;4az;4CURLICUE;4nqdung;1HAND-CLAW cmdunqdung;1kfcmdunqduUNDER;4cb;1yjcmdu;4dn;1nwcmdudn;4ep;4;4ac;1sccmduOUT;4fp;4;1kfdu;3HEEL;3lagv;4np;4jo;3nt;3ojcmbg;4bgcv;4cvfq;3UNDER allm;3cfallm;3UNDER aslm;4aylm;3cfaykzKNUCKLES;2;2HEEL;1TOUCH eh;2re;2oj;1GRASP eh;2re;2oj;1STRIKE eh;2re;2oj;1BRUSH eh;2re;2oj;1RUB eh;2re;2oj;1SURFACE SYMBOLS;2oj;1SQUEEZE epeh;2aceh;2epre;2acre;2SEQUENTIAL;1FLICK epeh;2aceh;2epre;2acre;2SEQUENTIAL;1SQUEEZE FLICK nn;1MOVEMENT-HINGE bibqep;4ac;3SEQUENTIAL;2bqSEQUENTIAL;2bibqnnep;5ac;2laatlayr;1siwcCONTACT;1shwcCONTACT;1siehlsac
4de;4ep;4vd;3swFLEX;2apls;3swFLEX;3nn;4swFLEX;2gr;2gslswm;3swFLEX;3nn;4swFLEX;2BEND ac;3de;3ep;2jfac;3de;3ep;3ROTATION;2rxac;3de;3ep;2knac;3de;3ep;2xiac;3de;3ep;2PEAKS ac;3de;3ep;1TRAVEL-WALLPLANE zjeh;3ap;3nn;2zieh;3ap;3nn;2SHAKING;2ARM SPIRAL eh;4ap;4gs;1MOVEMENT-DIAGONAL AWAY ac;3de;3ep;3vd;2TOWARDS ac;3de;3ep;3vd;2ojAWAY ac;4de;4ep;4vd;3TOWARDS ac;4de;4ep;4vd;1shehlsac;4de;4ep;4vd;3swFLEX;2apls;3swFLEX;3nn;4swFLEX;2gr;2gslswm;3swFLEX;3nnwm;4swFLEX;2BEND;2jfac;3de;3ep;2rx;2knac;3de;3ep;2xiac;3de;3ep;2PEAKS ac;3de;3ep;1TRAVEL-FLOORPLANE zieh;3ap;3nn;2zjeh;3ap;3nn;2SHAKING;1sinqjbac;4de;4ep;4vd;3HALF-CIRCLE ac;4de;4ep;4vd;3THREE-QUARTER cbac;5de;2HUMP ac;3de;3ep;2oaac;3de;3ep;3acap;2mnnqapac;5de;5ep;4gsac;5de;5ep;2nqTHEN ls;2tbgrac;4de;1zjeh;2ap;2lu;1siSHAKING;2nqjkFRONT WALL;2HUMP jkFRONT WALL;2oajkFRONT WALL;2mnjkFRONT WALL;1zjehjkFRONT WALL;2apjkFRONT WALL;2nnjkFRONT WALL;1sinqjkCHEST;2HUMP jkCHEST;2oajkCHEST;2mnjkCHEST;1zjehjkCHEST;2apjkCHEST;2nnjkCHEST;1simngvPATH ac;5de;5ep
1shnqjkusac;5ep;2HUMP jkusacap;5epap;5acgs;5epgs;2oajkusaceh;5epeh;5acap;5epap;2mnjkusac;5ep;1ziehjkus;2apjkus;2nnjkus;1shnqjktwac;5ep;2HUMP jktwacap;5epap;5gsacgs;6epgs;2oajktwaceh;5epeh;5acap;5epap;2mnjktwac;5ep;1ziehjktw;2apjktw;2nnjktw;1shnqac;3de;3ep;3vd;3COMBINED;2HUMP ac;2oaac;2mnSNAKE;3ac;3ep;1zieh;2ap;2nn;1shSHAKING ws;1siARM cbaceh;4deeh;4acap;4deap;1shARM cbjkWALL aceh;6deeh;6epeh;6acap;6deap;6epap;1siswcbFRONT eh;5ap;1shswcbjkWALL eh;6ap;1siwcqweh;4ap;1shwcqwjkWALL eh;6ap;1DYNAMIC elac;3ep;2FAST;2SLOW;2TENSE;2RELAXED;2SIMULTANEOUS;3nn;2EVERY OTHER TIME;2GRADUAL;1nf;2RIM;2sils;3TILT;2shls;2sinq;2shnq;2wmcb;1byDIRECTION POSITION NOSE ntTILTING;5bidobq;8TILTING;1EYEBROWS lsbi;3mf;3bq;1DREAMY EYEBROWS mfbq;3bqmf;3bimf;3mfbi;1FOREHEAD mf;2CONTACT;2ya;1mqdn;2SQUEEZED;2in;1EYE BLINK eh;3re;1mqbsdn;2WIDE dn;2bsin;2WIDENING wm;1EYE WINK;1EYELASHES bi;2bq;2FLUTTERING;1EYEGAZE-WALLPLANE ls;3ap;3nn;1EYEGAZE-FLOORPLANE ls;3ap;3nn;1EYEGAZE-WALLPLANE tb;1EYEGAZE-FLOORPLANE tb
1EYEGAZE-WALLPLANE CIRCLING;1CHEEKS PUFFED;2mf;2SUCKED;1TENSE CHEEKS dz;3bg;3dc;1EARS;1NOSE mf;2CONTACT;2WRINKLES;2WIGGLES;1AIR BLOWING OUT;2SUCKING fp;2BLOW acROTATIONS;2SUCK acROTATIONS;1BREATH INHALE;2EXHALE;1msinmf;3nt;3CONTACT;2SMILE;3ya;3dn;2FROWN;3ya;3dn;2dncb;3nt;3ya;3OVAL;4ya;4YAWN;3xt;4ya;4YAWN;2KISS;3nt;3ya;2TENSE;3nt;3SUCKED;1LIPS PRESSED TOGETHER;1LIP cycfdm;2dmcfcy;1msCORNERS;2WRINKLES eh;3ap;1TONGUE STICKING OUT FAR;2LICKING LIPS;2TIP ojLIPS;3TOUCHING ngms;2ngmsRELAXED;2MOVES AGAINST CHEEK;2fmSTICKING OUT;3ngms;1TEETH;2wm;2ezTONGUE;4wm;3LIPS;4wm;2BITE LIPS;1siJAW;1shJAW;1NECK;1HAIR;1EXCITEMENT;1SHOULDER HIP SPINE;3POSITIONS;1WALLPLANE SHOULDER HIP MOVE;1FLOORPLANE SHOULDER HIP MOVE;1SHOULDER TILTING jiWAIST;1TORSO-WALLPLANE lsSTRETCH;2tbBEND;1TORSO-FLOORPLANE TWISTING;1dmBODY TILTING jiHIP JOINTS;1LIMB COMBINATION;2LENGTH-1;2LENGTH-2;2LENGTH-3;2LENGTH-4;2LENGTH-5;2LENGTH-6;2LENGTH-7;1wc;1LOCATION-WALLPLANE mj;1LOCATION-FLOORPLANE mj;1LOCATION HEIGHT;2WIDTH;2DEPTH;2nfNECK
2TORSO;2LIMBS DIGITS;1fe;1gdei;1sr;1je;1he;=1DA9B;1qnMODIFIER-2;2MODIFIER-3;2MODIFIER-4;2MODIFIER-5;2MODIFIER-6;=1DAA1;1ROTATION MODIFIER-2;2MODIFIER-3;2MODIFIER-4;2MODIFIER-5;2MODIFIER-6;2MODIFIER-7;2MODIFIER-8;2MODIFIER-9;2MODIFIER-10;2MODIFIER-11;2MODIFIER-12;2MODIFIER-13;2MODIFIER-14;2MODIFIER-15;2MODIFIER-16;=1DF00;0gbacabFENG kdaaTRILL;3ebloG;1abacaedqG;1acabebK;1abacaeL aaBELT;1acabLEZH aahgaz;3dqY aaBELT;3ebENG;3dqR aadrooaghgaz;3T aaazaghgaz;1abhgtaaahgaz;1acabnraaapbn;7agmc;3dqT aamc;1abeukeeiaamc;2STRETCHED C aamc;2acaedqK;1acabL aaxn;3DEZH kdaakaaz;3L aaBELT agkaaz;3ENG aakaaz;3dqR aakaaz;3R aaxnagkaaz;3TESH kdaakaaz;3EZH aakaaz;3DEZH kdaahgaz;3I aabaaghgaz;3O aahgaz;3TESH kdaahgaz;3C aahgaz;3S aamc;=1E000;0hwGLAGOLITIC abAZU;3BUKY;3VEDE;3GLAGOLI;3DOBRO;3YESTU;3ZHIVETE;=1E008;3ZEMLJA;3IZHE;3bdIZHE;3I;3DJERVI;3KAKO;3LJUDIJE;3MYSLITE;3NASHI;3ONU;3POKOJI;3RITSI;3SLOVO;3TVRIDO;3UKU;3FRITU;3HERU;=1E01B;3SHTA;3TSI;3CHRIVI;3eg;3YERU;3YERI;3YATI;=1E023;3ii;3ackc;=1E026;3YO
3IOTATED ackc;3BIG kc;3IOTATED BIG kc;3FITA;=1E100;0NYIAKENG PUACHUE HMONG abci;4ju;4NTA;4cs;4bu;4cj;4XA;4NKA;4eo;4ch;4cr;4gn;4NCA;4NTSA;4bx;4cw;4et;4NRA;4fw;4NTXA;4TXA;4hk;4cd;4QA;4ck;4NQA;4ca;4XYA;4NPA;4DLA;4NPLA;4dg;4MLA;4PLA;4da;4mx;4A;4dk;4I;4U;4O;4gm;4E;4hd;4W;=1E130;3TONE-B;3TONE-M;3TONE-J;3TONE-V;3TONE-S;3TONE-G;3TONE-D;3afhxpg;5THING;5LOCATION;5ANIMAL;5INVERTEBRATE;4XW XW;3otLENGTHENER;=1E140;3cudj;4am;4al;4as;4ay;4bc;4bj;4br;4bk;4bv;=1E14E;3LOGOGRAM NYAJ;3fteo;=1E290;0TOTO abca;2dh;2cs;2cw;2bx;2da;2ci;2cj;2ef;2cr;2er;2ck;2en;2em;2bu;2cd;2ch;2I;2BREATHY I;2IU;2BREATHY IU;2U;2E;2BREATHY E;2EO;2BREATHY EO;2O;2AE;2BREATHY AE;2A;1afrldv;=1E2C0;0WANCHO abdk;2A;2dh;2eo;2cw;2da;2ck;2fr;2ch;2cj;2ca;2cs;2ff;2hk;2cr;2eg;2em;2gn;2en;2fw;2bx;2O;2ed;2cd;2ci;2ev;2bu;2E;2I;2ef;2U;2LLHA;2ju;2TRA;2ONG;2AANG;2ANG;2ING;2ez;2gi;2AAN;2et;2UEN;2YIH;1dvTUP;2TUPNI;2KOI;2KOINI;1cudj;2am;2al;2as;2ay;2bc;2bj;2br;2bk;2bv;=1E2FF;1NGUN af;=1E7E0;0ETHIOPIC otHHYA;2HHYU;2HHYI;2HHYAA;2HHYEE;2HHYE;2HHYO;=1E7E8
2GURAGE HHWA;2HHWI;2HHWEE;2HHWE;=1E7ED;2GURAGE MWI;3MWEE;=1E7F0;3QWI;3QWEE;3QWE;3BWI;3BWEE;3KWI;3KWEE;3KWE;3GWI;3GWEE;3GWE;3FWI;3FWEE;3PWI;3PWEE;=1E800;0MENDE KIKAKUI otM001 KI;3M002 bx;3M003 KU;3M065 KEE;3M095 KE;3M076 KOO;3M048 KO;3M179 KUA;3M004 WI;3M005 en;3M006 WU;3M126 WEE;3M118 WE;3M114 WOO;3M045 WO;3M194 WUI;3M143 WEI;3M061 WVI;3M049 WVA;3M139 WVE;3M007 MIN;3M008 mr;3M009 MUN;3M059 MEN;3M094 MON;3M154 MUAN;3M189 MUEN;3M010 BI;3M011 dh;3M012 BU;3M150 BEE;3M097 BE;3M103 BOO;3M138 BO;3M013 I;3M014 A;3M015 U;3M163 hd;3M100 E;3M165 gm;3M147 O;3M137 EI;3M131 fp;3M135 fp;3M195 iy;3M178 gi;3M019 SI;3M020 cr;3M021 SU;3M162 SEE;3M116 SE;3M136 SOO;3M079 SO;3M196 SIA;3M025 LI;3M026 ch;3M027 LU;3M084 LEE;3M073 LE;3M054 LOO;3M153 LO;3M110 drLE;3M016 DI;3M017 cw;3M018 DU;3M089 DEE;3M180 DOO;3M181 DO;3M022 TI;3M023 cs;3M024 TU;3M091 TEE;3M055 il;3M104 TOO;3M069 at;3M028 JI;3M029 em;3M030 JU;3M157 JEE;3M113 JE;3M160 JOO;3M063 JO;3M175 drJO;3M031 YI;3M032 ck;3M033 ii;3M109 YEE;3M080 YE;3M141 YOO
3M121 YO;3M034 FI;3M035 hk;3M036 FU;3M078 FEE;3M075 FE;3M133 FOO;3M088 FO;3M197 FUA;3M101 FAN;3M037 NIN;3M038 NAN;3M039 go;3M117 NEN;3M169 NON;3M176 HI;3M041 bu;3M186 HU;3M040 HEE;3M096 hl;3M042 HOO;3M140 HO;3M083 HEEI;3M128 HOOU;3M053 HIN;3M130 HAN;3M087 HUN;3M052 HEN;3M193 HON;3M046 HUAN;3M090 NGGI;3M043 NGGA;3M082 NGGU;3M115 NGGEE;3M146 NGGE;3M156 NGGOO;3M120 NGGO;3M159 NGGAA;3M127 NGGUA;3M086 drNGGE;3M106 drNGGOO;3M183 drNGGO;3M155 GI;3M111 da;3M168 GU;3M190 GEE;3M166 GUEI;3M167 GUAN;3M184 NGEN;3M057 NGON;3M177 NGUAN;3M068 hf;3M099 ca;3M050 PU;3M081 PEE;3M051 gp;3M102 POO;3M066 PO;3M145 MBI;3M062 MBA;3M122 MBU;3M047 MBEE;3M188 MBEE;3M072 MBE;3M172 MBOO;3M174 MBO;3M187 MBUU;3M161 drMBE;3M105 drMBOO;3M142 drMBO;3M132 KPI;3M092 KPA;3M074 KPU;3M044 KPEE;3M108 KPE;3M112 KPOO;3M158 KPO;3M124 GBI;3M056 GBA;3M148 GBU;3M093 GBEE;3M107 GBE;3M071 GBOO;3M070 GBO;3M171 cd;3M123 NDI;3M129 NDA;3M125 NDU;3M191 NDEE;3M119 NDE;3M067 NDOO;3M064 NDO;3M152 NJA;3M192 NJU;3M149 NJEE;3M134 NJOO;3M182 VI
3M185 fw;3M151 VU;3M173 VEE;3M085 VE;3M144 VOO;3M077 VO;3M164 NYIN;3M058 NYAN;3M170 NYUN;3M098 NYEN;3M060 NYON;=1E8C7;2cuam;3al;3as;3ay;3bc;3bj;3br;3bk;3bv;2hweyTEENS;4TENS;4HUNDREDS;4xe;4dsxe;4btxe;4xq;=1E900;0ADLAM aeabALIF;3DAALI;3LAAM;3MIIM;3dh;3SINNYIIYHE;3gp;3BHE;3cd;3E;3hk;3I;3O;3gk;3YHE;3ie;3go;3jq;3ck;3U;3JIIM;3lk;3bu;3QAAF;3da;3et;3TU;3NHA;3fw;3ev;3GBE;3ZAL;3KPO;3eg;1acabALIF;3DAALI;3LAAM;3MIIM;3dh;3SINNYIIYHE;3gp;3BHE;3cd;3E;3hk;3I;3O;3gk;3YHE;3ie;3go;3jq;3ck;3U;3JIIM;3lk;3bu;3QAAF;3da;3et;3TU;3NHA;3fw;3ev;3GBE;3ZAL;3KPO;3eg;1ALIF LENGTHENER;1cqLENGTHENER;1zcaq;1ij;1lvjr;1GEMINATE lvjr;1lf;1NASALIZATION aq;=1E950;1cudj;2am;2al;2as;2ay;2bc;2bj;2br;2bk;2bv;=1E95E;1bdkvaq;2kbaq;=1EC71;0INDIC SIYAQ eyam;3al;3as;3ay;3bc;3bj;3br;3bk;3bv;3ds;3ho;3mk;3ns;3iz;3oq;3it;3pp;3ib;3ambt;3albt;3asbt;3aybt;3bcbt;3bjbt;3brbt;3bkbt;3bvbt;3amcg;3alcg;3ascg;3aycg;3bccg;3bjcg;3brcg;3bkcg;3bvcg;3dscg;3hocg;3mkcg;3nscg;3izcg;3oqcg;3itcg;3ppcg;3ibcg;3LAKH;3LAKHAN;2LAKH aq;2eyKAROR;3KARORAN
3PREFIXED am;4al;4as;4ay;4bc;4bj;4br;4bk;4bv;2PLACEHOLDER;2neamjb;4bs;3aspz;2RUPEE aq;2eyluam;4al;4dscg;2luLAKH aq;=1ED01;0OTTOMAN SIYAQ eyam;3al;3as;3ay;3bc;3bj;3br;3bk;3bv;3ds;3ho;3mk;3ns;3iz;3oq;3it;3pp;3ib;3ambt;3albt;3asbt;3aybt;3bcbt;3bjbt;3brbt;3bkbt;3bvbt;3amcg;3alcg;3ascg;3aycg;3bccg;3bjcg;3brcg;3bkcg;3bvcg;3dscg;3hocg;3mkcg;3nscg;3izcg;3oqcg;3itcg;3ppcg;3ibcg;2MARRATAN;2lueyal;4as;4ay;4bc;4bj;4br;4bk;4bv;4ds;4aybt;4bjbt;4alcg;4dscg;2neambs;4SIXTH;=1EE00;0myypcl;2mt;2dp;2DAL;=1EE05;2ie;2qf;2dg;2kj;2ce;2jq;2ih;2bm;2hy;2ks;2iw;2ly;2ma;2ky;2jm;2nj;2nk;2sv;2fu;2THAL;2nd;2ZAH;2ok;2qlmt;3hy;3ly;3ky;=1EE21;2bdmt;3dp;=1EE24;3jy;=1EE27;3dg;=1EE29;3ce;3jq;3ih;3bm;3hy;3ks;3iw;3ly;3ma;3ky;=1EE34;3nj;3nk;3sv;3fu;=1EE39;3nd;=1EE3B;3ok;=1EE42;2TAILED dp;=1EE47;3dg;=1EE49;3ce;=1EE4B;3ih;=1EE4D;3hy;3ks;3iw;=1EE51;3ma;3ky;=1EE54;3nj;=1EE57;3fu;=1EE59;3nd;=1EE5B;3ok;=1EE5D;3qlhy;=1EE5F;4ky;=1EE61;2STRETCHED mt;3dp;=1EE64;3jy;=1EE67;3dg;3kj;3ce;3jq;=1EE6C;3bm;3hy;3ks;3iw;3ly;3ma;3ky;=1EE74;3nj
3nk;3sv;3fu;=1EE79;3nd;3ZAH;3ok;3qlmt;=1EE7E;4ly;=1EE80;2LOOPED cl;3mt;3dp;3DAL;3jy;3ie;3qf;3dg;3kj;3ce;=1EE8B;3ih;3bm;3hy;3ks;3iw;3ly;3ma;3ky;3jm;3nj;3nk;3sv;3fu;3THAL;3nd;3ZAH;3ok;=1EEA1;2tcmt;3dp;3DAL;=1EEA5;3ie;3qf;3dg;3kj;3ce;=1EEAB;3ih;3bm;3hy;3ks;3iw;3ly;3ma;3ky;3jm;3nj;3nk;3sv;3fu;3THAL;3nd;3ZAH;3ok;=1EEF0;2gybmaadgaaTATWEEL;3dgaaDAL;=1F000;0MAHJONG TILE faWIND;2hbWIND;2fxWIND;2glWIND;2RED vy;2GREEN vy;2axvy;2amawut;2alawut;2asawut;2ayawut;2bcawut;2bjawut;2brawut;2bkawut;2bvawut;2amawuq;2alawuq;2asawuq;2ayawuq;2bcawuq;2bjawuq;2brawuq;2bkawuq;2bvawuq;2amawqw;2alawqw;2asawqw;2ayawqw;2bcawqw;2bjawqw;2brawqw;2bkawqw;2bvawqw;2PLUM;2ORCHID;2BAMBOO;2CHRYSANTHEMUM;2SPRING;2SUMMER;2AUTUMN;2WINTER;2JOKER;2ru;=1F030;0DOMINO TILE coru;2HORIZONTAL-00-00;2HORIZONTAL-00-01;2HORIZONTAL-00-02;2HORIZONTAL-00-03;2HORIZONTAL-00-04;2HORIZONTAL-00-05;2HORIZONTAL-00-06;2HORIZONTAL-01-00;2HORIZONTAL-01-01;2HORIZONTAL-01-02;2HORIZONTAL-01-03;2HORIZONTAL-01-04;2HORIZONTAL-01-05;2HORIZONTAL-01-06
2HORIZONTAL-02-00;2HORIZONTAL-02-01;2HORIZONTAL-02-02;2HORIZONTAL-02-03;2HORIZONTAL-02-04;2HORIZONTAL-02-05;2HORIZONTAL-02-06;2HORIZONTAL-03-00;2HORIZONTAL-03-01;2HORIZONTAL-03-02;2HORIZONTAL-03-03;2HORIZONTAL-03-04;2HORIZONTAL-03-05;2HORIZONTAL-03-06;2HORIZONTAL-04-00;2HORIZONTAL-04-01;2HORIZONTAL-04-02;2HORIZONTAL-04-03;2HORIZONTAL-04-04;2HORIZONTAL-04-05;2HORIZONTAL-04-06;2HORIZONTAL-05-00;2HORIZONTAL-05-01;2HORIZONTAL-05-02;2HORIZONTAL-05-03;2HORIZONTAL-05-04;2HORIZONTAL-05-05;2HORIZONTAL-05-06;2HORIZONTAL-06-00;2HORIZONTAL-06-01;2HORIZONTAL-06-02;2HORIZONTAL-06-03;2HORIZONTAL-06-04;2HORIZONTAL-06-05;2HORIZONTAL-06-06;2bhru;2VERTICAL-00-00;2VERTICAL-00-01;2VERTICAL-00-02;2VERTICAL-00-03;2VERTICAL-00-04;2VERTICAL-00-05;2VERTICAL-00-06;2VERTICAL-01-00;2VERTICAL-01-01;2VERTICAL-01-02;2VERTICAL-01-03;2VERTICAL-01-04;2VERTICAL-01-05;2VERTICAL-01-06;2VERTICAL-02-00;2VERTICAL-02-01;2VERTICAL-02-02;2VERTICAL-02-03;2VERTICAL-02-04;2VERTICAL-02-05;2VERTICAL-02-06;2VERTICAL-03-00
2VERTICAL-03-01;2VERTICAL-03-02;2VERTICAL-03-03;2VERTICAL-03-04;2VERTICAL-03-05;2VERTICAL-03-06;2VERTICAL-04-00;2VERTICAL-04-01;2VERTICAL-04-02;2VERTICAL-04-03;2VERTICAL-04-04;2VERTICAL-04-05;2VERTICAL-04-06;2VERTICAL-05-00;2VERTICAL-05-01;2VERTICAL-05-02;2VERTICAL-05-03;2VERTICAL-05-04;2VERTICAL-05-05;2VERTICAL-05-06;2VERTICAL-06-00;2VERTICAL-06-01;2VERTICAL-06-02;2VERTICAL-06-03;2VERTICAL-06-04;2VERTICAL-06-05;2VERTICAL-06-06;=1F0A0;0PLAYING CARD ru;2ACE awqr;2alawqr;2asawqr;2ayawqr;2bcawqr;2bjawqr;2brawqr;2bkawqr;2bvawqr;2dsawqr;2JACK awqr;2kgawqr;2phawqr;2nzawqr;=1F0B1;2ACE awom;2alawom;2asawom;2ayawom;2bcawom;2bjawom;2brawom;2bkawom;2bvawom;2dsawom;2JACK awom;2kgawom;2phawom;2nzawom;2RED JOKER;=1F0C1;2ACE awqk;2alawqk;2asawqk;2ayawqk;2bcawqk;2bjawqk;2brawqk;2bkawqk;2bvawqk;2dsawqk;2JACK awqk;2kgawqk;2phawqk;2nzawqk;2auJOKER;=1F0D1;2ACE awqh;2alawqh;2asawqh;2ayawqh;2bcawqh;2bjawqh;2brawqh;2bkawqh;2bvawqh;2dsawqh;2JACK awqh;2kgawqh;2phawqh;2nzawqh;2axJOKER;2FOOL;2TRUMP-1;2TRUMP-2
2TRUMP-3;2TRUMP-4;2TRUMP-5;2TRUMP-6;2TRUMP-7;2TRUMP-8;2TRUMP-9;2TRUMP-10;2TRUMP-11;2TRUMP-12;2TRUMP-13;2TRUMP-14;2TRUMP-15;2TRUMP-16;2TRUMP-17;2TRUMP-18;2TRUMP-19;2TRUMP-20;2TRUMP-21;=1F100;0cudjgdei;2fe;1amfe;1alfe;1asfe;1ayfe;1bcfe;1bjfe;1brfe;1bkfe;1bvfe;0DINGBAT ftmbcudj;1pfftmbcudj;0ftdjaapk;1noah;1DOLLAR afaaOVERLAID xk;0ztgbaeabA;4B;4C;4D;4E;4F;4G;4H;4I;4J;4K;4L;4M;4N;4O;4P;4Q;4R;4S;4T;4U;4V;4W;4X;4Y;4Z;0oglqBRACKETED gbaeabS;0fttegbaeabC;5R;1CD;1WZ;0COPYLEFT bb;0irgbaeabA;4B;4C;4D;4E;4F;4G;4H;4I;4J;4K;4L;4M;4N;4O;4P;4Q;4R;4S;4T;4U;4V;4W;4X;4Y;4Z;1HV;1MV;1SD;1SS;1PPV;1WC;0pfftgbaeabA;5B;5C;5D;5E;5F;5G;5H;5I;5J;5K;5L;5M;5N;5O;5P;5Q;5R;5S;5T;5U;5V;5W;5X;5Y;5Z;0kzMC af;1MD af;1MR af;0ftCC;1C aaOVERLAID xk;1HUMAN FIGURE;0pfirgbaeabA;5B;5C;5D;5E;5F;5G;5H;5I;5J;5K;5L;5M;5N;5O;5P;5Q;5R;5S;5T;5U;5V;5W;5X;5Y;5Z;0qypfirgbaeabP;0pfirIC;2ca;2cr;2AB;2WC;0bzDJ;0irCL;1COOL;1FREE;1ID;1NEW;1NG;1OK;1SOS;1biaakvaq;1VS;1asD;1SECOND SCREEN;1alK;1ayK;1bkK;1bcrham;1brrham;1TWENTY-TWO rhal;1oqP
1ambthoP;1gbacabD;1HC;1HDR;1HI-RES;1LOSSLESS;1SHV;1UHD;1VOD;0MASK WORK bb;=1F1E6;0REGIONAL wfbbabA;4B;4C;4D;4E;4F;4G;4H;4I;4J;4K;4L;4M;4N;4O;4P;4Q;4R;4S;4T;4U;4V;4W;4X;4Y;4Z;0bzykHOKA;0irtfKOKO;2cr;=1F210;1CJK UNIFIED IDEOGRAPH-624B;3IDEOGRAPH-5B57;3IDEOGRAPH-53CC;1tfDE;1CJK UNIFIED IDEOGRAPH-4E8C;3IDEOGRAPH-591A;3IDEOGRAPH-89E3;3IDEOGRAPH-5929;3IDEOGRAPH-4EA4;3IDEOGRAPH-6620;3IDEOGRAPH-7121;3IDEOGRAPH-6599;3IDEOGRAPH-524D;3IDEOGRAPH-5F8C;3IDEOGRAPH-518D;3IDEOGRAPH-65B0;3IDEOGRAPH-521D;3IDEOGRAPH-7D42;3IDEOGRAPH-751F;3IDEOGRAPH-8CA9;3IDEOGRAPH-58F0;3IDEOGRAPH-5439;3IDEOGRAPH-6F14;3IDEOGRAPH-6295;3IDEOGRAPH-6355;3IDEOGRAPH-4E00;3IDEOGRAPH-4E09;3IDEOGRAPH-904A;3IDEOGRAPH-5DE6;3IDEOGRAPH-4E2D;3IDEOGRAPH-53F3;3IDEOGRAPH-6307;3IDEOGRAPH-8D70;3IDEOGRAPH-6253;3IDEOGRAPH-7981;3IDEOGRAPH-7A7A;3IDEOGRAPH-5408;3IDEOGRAPH-6E80;3IDEOGRAPH-6709;3IDEOGRAPH-6708;3IDEOGRAPH-7533;3IDEOGRAPH-5272;3IDEOGRAPH-55B6;3IDEOGRAPH-914D;=1F240;0oglqBRACKETED CJK UNIFIED IDEOGRAPH-672C;5IDEOGRAPH-4E09
5IDEOGRAPH-4E8C;5IDEOGRAPH-5B89;5IDEOGRAPH-70B9;5IDEOGRAPH-6253;5IDEOGRAPH-76D7;5IDEOGRAPH-52DD;5IDEOGRAPH-6557;=1F250;0ftIDEOGRAPH ADVANTAGE;2ACCEPT;=1F260;0ugbbhxFU;3LU;3SHOU;3XI;3SHUANGXI;3CAI;=1F300;0CYCLONE;0FOGGY;0inUMBRELLA;0NIGHT aaSTARS;0SUNRISE cfMOUNTAINS;1;0CITYSCAPE AT DUSK;0SUNSET cfBUILDINGS;0RAINBOW;0BRIDGE AT NIGHT;0rrmn;0VOLCANO;0MILKY WAY;0qmGLOBE EUROPE-AFRICA;2AMERICAS;2ASIA-AUSTRALIA;0GLOBE aaMERIDIANS;0NEW kxbb;0WAXING ydkxbb;0FIRST jbkxbb;0WAXING GIBBOUS kxbb;0gdkxbb;0WANING GIBBOUS kxbb;0LAST jbkxbb;0WANING ydkxbb;0ydkx;0NEW kxaaby;0FIRST jbkxaaby;0LAST jbkxaaby;0gdkxaaby;0SUN aaby;0GLOWING fk;0SHOOTING fk;0THERMOMETER;0auDROPLET;0axSUN;2aaacCLOUD;2BEHIND CLOUD;4aaRAIN;0CLOUD aaRAIN;2SNOW;2LIGHTNING;2TORNADO;0FOG;0WIND BLOWING by;0HOT DOG;0TACO;0BURRITO;0CHESTNUT;0SEEDLING;0EVERGREEN TREE;0DECIDUOUS TREE;0PALM TREE;0CACTUS;0HOT PEPPER;0TULIP;0CHERRY BLOSSOM;0ROSE;0HIBISCUS;0SUNFLOWER;0BLOSSOM;0EAR awMAIZE;2RICE;0HERB;0aymeCLOVER;0MAPLE me;0FALLEN me
0meFLUTTERING fpWIND;0MUSHROOM;0TOMATO;0AUBERGINE;0GRAPES;0MELON;0WATERMELON;0TANGERINE;0LEMON;0BANANA;0PINEAPPLE;0RED APPLE;0GREEN APPLE;0PEAR;0PEACH;0CHERRIES;0STRAWBERRY;0HAMBURGER;0SLICE awPIZZA;0MEAT ezBONE;0POULTRY oo;0RICE CRACKER;1rv;0COOKED RICE;0CURRY agRICE;0STEAMING BOWL;0SPAGHETTI;0BREAD;0FRENCH FRIES;0ROASTED SWEET POTATO;0DANGO;0ODEN;0SUSHI;0FRIED SHRIMP;0FISH CAKE aaSWIRL DESIGN;0qqICE CREAM;0SHAVED ICE;0ICE CREAM;0DOUGHNUT;0COOKIE;0CHOCOLATE bn;0CANDY;0LOLLIPOP;0CUSTARD;0HONEY POT;0SHORTCAKE;0BENTO kn;0POT awFOOD;0COOKING;0FORK agKNIFE;0TEACUP WITHOUT HANDLE;0SAKE BOTTLE agCUP;0WINE GLASS;0COCKTAIL GLASS;0TROPICAL DRINK;0BEER MUG;0CLINKING BEER MUGS;0BABY BOTTLE;0FORK agKNIFE aaPLATE;0BOTTLE aaPOPPING CORK;0POPCORN;0RIBBON;0WRAPPED PRESENT;0BIRTHDAY CAKE;0JACK-O-LANTERN;0CHRISTMAS TREE;0FATHER CHRISTMAS;0FIREWORKS;0FIREWORK SPARKLER;0BALLOON;0PARTY POPPER;0CONFETTI rv;0TANABATA TREE;0qyFLAGS;0PINE DECORATION;0xoDOLLS;0CARP STREAMER;0WIND CHIME;0kxVIEWING CEREMONY
0SCHOOL SATCHEL;0GRADUATION CAP;0jxaaTIP ezidak;0BOUQUET awFLOWERS;0MILITARY MEDAL;0REMINDER RIBBON;0rfKEYBOARD aaJACKS;0STUDIO MICROPHONE;0LEVEL SLIDER;0uvKNOBS;0BEAMED ASCENDING rfNOTES;1DESCENDING rfNOTES;0FILM FRAMES;0ADMISSION TICKETS;0CAROUSEL HORSE;0FERRIS WHEEL;0ROLLER COASTER;0FISHING POLE agFISH;0MICROPHONE;0MOVIE CAMERA;0CINEMA;0HEADPHONE;0ARTIST PALETTE;0hiHAT;0CIRCUS TENT;0TICKET;0CLAPPER BOARD;0PERFORMING ARTS;0VIDEO GAME;0DIRECT HIT;0SLOT MACHINE;0BILLIARDS;0GAME DIE;0BOWLING;0FLOWER PLAYING CARDS;0rfmw;0rerfNOTES;0SAXOPHONE;0GUITAR;0rfKEYBOARD;0TRUMPET;0VIOLIN;0rfSCORE;0RUNNING SHIRT aaSASH;0TENNIS RACQUET agrv;0SKI agSKI BOOT;0BASKETBALL agHOOP;0CHEQUERED sb;0SNOWBOARDER;0RUNNER;0SURFER;0SPORTS MEDAL;0TROPHY;0HORSE RACING;0AMERICAN FOOTBALL;0RUGBY FOOTBALL;0SWIMMER;0WEIGHT LIFTER;0GOLFER;0RACING MOTORCYCLE;1CAR;0CRICKET BAT agrv;0VOLLEYBALL;0FIELD HOCKEY STICK agrv;0ICE HOCKEY STICK agPUCK;0TABLE TENNIS PADDLE agrv;0SNOW CAPPED wl;0CAMPING;0BEACH aaUMBRELLA
0BUILDING CONSTRUCTION;0HOUSE BUILDINGS;0CITYSCAPE;0DERELICT HOUSE BUILDING;0CLASSICAL BUILDING;0DESERT;1ISLAND;0NATIONAL PARK;0STADIUM;0HOUSE BUILDING;1aaGARDEN;0OFFICE BUILDING;0xoPOST OFFICE;0EUROPEAN POST OFFICE;0HOSPITAL;0BANK;0AUTOMATED TELLER MACHINE;0HOTEL;0LOVE HOTEL;0CONVENIENCE STORE;0SCHOOL;0DEPARTMENT STORE;0FACTORY;0IZAKAYA LANTERN;0xoCASTLE;0EUROPEAN CASTLE;0axPENNANT;0auPENNANT;0WAVING axsb;1ausb;0ROSETTE;0auROSETTE;0LABEL;0BADMINTON RACQUET agSHUTTLECOCK;0BOW agah;0AMPHORA;0EMOJI jrFITZPATRICK TYPE-1-2;3TYPE-3;3TYPE-4;3TYPE-5;3TYPE-6;0RAT;0MOUSE;0OX;0rrBUFFALO;0COW;0TIGER;0LEOPARD;0RABBIT;0CAT;0vy;0CROCODILE;0WHALE;0SNAIL;0SNAKE;0HORSE;0RAM;0GOAT;0SHEEP;0MONKEY;0ROOSTER;0CHICKEN;0DOG;0PIG;0BOAR;0ELEPHANT;0OCTOPUS;0SPIRAL lq;0BUG;0ANT;0HONEYBEE;0LADY BEETLE;0FISH;0TROPICAL FISH;0BLOWFISH;0TURTLE;0HATCHING CHICK;0BABY CHICK;0FRONT-FACING BABY CHICK;0BIRD;0PENGUIN;0KOALA;0POODLE;0DROMEDARY CAMEL;0BACTRIAN CAMEL;0DOLPHIN;0MOUSE by;0COW by;0TIGER by;0RABBIT by;0CAT by;0vyby
0SPOUTING WHALE;0HORSE by;0MONKEY by;0DOG by;0PIG by;0FROG by;0HAMSTER by;0WOLF by;0BEAR by;0PANDA by;0PIG NOSE;0PAW PRINTS;0CHIPMUNK;0mq;0EYE;0EAR;0NOSE;0ms;0TONGUE;0axbiexvpcm;1bqexvpcm;1akexvpcm;1aiexvpcm;0FISTED jjaf;0WAVING jjaf;0OK jjaf;0THUMBS biaf;1bqaf;0CLAPPING HANDS af;0dnHANDS af;0CROWN;0WOMANS HAT;0EYEGLASSES;0NECKTIE;0T-SHIRT;0JEANS;0DRESS;0KIMONO;0BIKINI;0WOMANS CLOTHES;0PURSE;0HANDBAG;0POUCH;0MANS SHOE;0ATHLETIC SHOE;0HIGH-HEELED SHOE;0WOMANS SANDAL;1BOOTS;0FOOTPRINTS;0BUST fpSILHOUETTE;0BUSTS fpSILHOUETTE;0BOY;0GIRL;0mr;0WOMAN;0FAMILY;0mragWOMAN HOLDING HANDS;0alMEN HOLDING HANDS;1WOMEN HOLDING HANDS;0POLICE OFFICER;0WOMAN aaBUNNY EARS;0BRIDE aaVEIL;0pgaaBLOND HAIR;0mraaGUA hfMAO;2TURBAN;0OLDER mr;1WOMAN;0BABY;0CONSTRUCTION WORKER;0PRINCESS;0xoOGRE;1GOBLIN;0GHOST;0BABY ANGEL;0EXTRATERRESTRIAL ALIEN;0ALIEN MONSTER;0IMP;0SKULL;0ymDESK pg;0GUARDSMAN;0DANCER;0LIPSTICK;0NAIL POLISH;0byMASSAGE;0HAIRCUT;0BARBER POLE;0SYRINGE;0PILL;0KISS aq;0LOVE ab;0cv;0GEM STONE;0KISS
0BOUQUET;0COUPLE aajx;0WEDDING;0BEATING jx;0BROKEN jx;0alom;0SPARKLING jx;0GROWING jx;0jxaaah;0BLUE jx;0GREEN jx;0YELLOW jx;0PURPLE jx;0jxaaRIBBON;0REVOLVING om;0jxDECORATION;0hsSHAPE aaA arng;0ELECTRIC cpBULB;0ANGER bb;0BOMB;0SLEEPING bb;0COLLISION bb;0SPLASHING SWEAT bb;0DROPLET;0hcbb;0PILE awPOO;0FLEXED BICEPS;0DIZZY bb;0SPEECH BALLOON;0THOUGHT BALLOON;0axFLOWER;0btPOINTS bb;0MONEY BAG;0CURRENCY EXCHANGE;0bfDOLLAR af;0CREDIT CARD;0BANKNOTE aaYEN af;2DOLLAR af;2EURO af;2POUND af;0MONEY aaWINGS;0CHART aadfTREND agYEN af;0SEAT;0PERSONAL COMPUTER;0BRIEFCASE;0MINIDISC;0FLOPPY DISK;0OPTICAL DISC;0DVD;0FILE FOLDER;0dnFILE FOLDER;0PAGE aamc;1FACING bi;0CALENDAR;0TEAR-OFF CALENDAR;0CARD cm;0CHART aadfTREND;2cxTREND;0bnCHART;0CLIPBOARD;0PUSHPIN;0spPUSHPIN;0PAPERCLIP;0lsRULER;0mlRULER;0BOOKMARK TABS;0LEDGER;0NOTEBOOK;1aaDECORATIVE COVER;0inBOOK;0dnBOOK;0GREEN BOOK;0BLUE BOOK;0ORANGE BOOK;0BOOKS;0NAME BADGE;0SCROLL;0MEMO;0suRECEIVER;0PAGER;0FAX MACHINE;0SATELLITE ANTENNA
0PUBLIC ADDRESS LOUDSPEAKER;0CHEERING MEGAPHONE;0OUTBOX TRAY;0INBOX TRAY;0PACKAGE;0E-MAIL bb;0INCOMING uz;0uzaacxahaj;0inMAILBOX aaLOWERED sb;3kzsb;0dnMAILBOX aakzsb;3LOWERED sb;0POSTBOX;0POSTAL is;0NEWSPAPER;0MOBILE PHONE;2aabeahAT ak;0VIBRATION MODE;0MOBILE PHONE OFF;0hmMOBILE PHONES;0ANTENNA aaBARS;0CAMERA;1aaFLASH;0VIDEO CAMERA;0TELEVISION;0RADIO;0VIDEOCASSETTE;0FILM PROJECTOR;0PORTABLE STEREO;0PRAYER BEADS;0TWISTED beow;0qxbeagbpdncbow;7aaftamlz;1cxagdfdncbow;0nocxagdfdncbow;0dcBRIGHTNESS bb;0dzBRIGHTNESS bb;0SPEAKER aazmba;1;1aaamosmn;2asosWAVES;0BATTERY;0ELECTRIC PLUG;0mvMAGNIFYING GLASS;0lnMAGNIFYING GLASS;0LOCK aaINK PEN;0inLOCK aaKEY;0KEY;0LOCK;0dnLOCK;0BELL;1aazmba;0BOOKMARK;0LINK bb;0RADIO BUTTON;0ruaabpahaj;0igaabpahaj;0ezaakvaqaaakaiahaj;0SOON aabeahaj;0hiaadfahaj;0hmamUNDER uybb;0KEYCAP ds;0INPUT bbhxgbaeLETTERS;4acLETTERS;3NUMBERS;3SYMBOLS;3gbLETTERS;0FIRE;0ELECTRIC TORCH;0WRENCH;0HAMMER;0NUT agBOLT;0HOCHO;0PISTOL;0MICROSCOPE;0TELESCOPE;0CRYSTAL rv;0bjiqfkaabgar
0xobbhxBEGINNER;0TRIDENT EMBLEM;0aubzBUTTON;0axbzBUTTON;0epRED cb;1BLUE cb;1ORANGE hs;1BLUE hs;0acORANGE hs;1BLUE hs;0quRED cz;0ryRED cz;0quacRED cz;0ryacRED cz;0cyairmaxcb;0dmairmaxcb;0ftgrPOMMEE;0grPOMMEE aaHALF-CIRCLE an;2;0vgakzkaaascc;1aizkaaascc;0bbhxMARKS CHAPTER;0axgbgr;0bfgbgr;0CELTIC gr;0OM bb;0DOVE awPEACE;0KAABA;0MOSQUE;0SYNAGOGUE;0MENORAH aabvBRANCHES;0BOWL awHYGIEIA;0CLOCK byamsk;2alsk;2assk;2aysk;2bcsk;2bjsk;2brsk;2bksk;2bvsk;2dssk;2rzsk;2qtsk;2ONE-THIRTY;2TWO-THIRTY;2THREE-THIRTY;2FOUR-THIRTY;2FIVE-THIRTY;2SIX-THIRTY;2SEVEN-THIRTY;2EIGHT-THIRTY;2NINE-THIRTY;2TEN-THIRTY;2ELEVEN-THIRTY;2TWELVE-THIRTY;0aiSPEAKER;2aaamosmn;3asosWAVES;0BULLHORN;1aaosWAVES;0RINGING BELL;0BOOK;0CANDLE;0MANTELPIECE CLOCK;0auSKULL agCROSSBONES;0hmPIRACY;0HOLE;0mrfpBUSINESS SUIT LEVITATING;0SLEUTH doSPY;0DARK SUNGLASSES;0SPIDER;1WEB;0JOYSTICK;0mrDANCING;0akjjsuRECEIVER;0suRECEIVER aaPAGE;0aijjsuRECEIVER;0axTOUCHTONE su;0auTOUCHTONE su;0suezhiawMODEM;0CLAMSHELL MOBILE PHONE;0ruawuz;0STAMPED uz
0uzaaLIGHTNING;0FLYING uz;0PEN cfSTAMPED uz;0LINKED PAPERCLIPS;0auPUSHPIN;0cyakPENCIL;2BALLPOINT PEN;2FOUNTAIN PEN;2PAINTBRUSH;2CRAYON;0akWRITING jj;0dqOK jjaf;0kzjjaalmSPLAYED;0ebkzjjaalmSPLAYED;1THUMBS biaf;2bqaf;1VICTORY jj;1jjaabgwcwa;0kzjjaaPART ojbgagcvlm;0axbqexakjjcm;0vkaxakexcm;2aiexcm;1auakexcm;2aiexcm;0auakexvpcm;1aiexvpcm;0vkaxbiexcm;2bqexcm;1aubiexcm;2bqexcm;0aubiexvpcm;1bqexvpcm;1jx;0DESKTOP COMPUTER;0KEYBOARD agMOUSE;0asNETWORKED COMPUTERS;0PRINTER;0POCKET CALCULATOR;0auHARD lqFLOPPY DISK;0axHARD lqFLOPPY DISK;0qqlqFLOPPY DISK;0TAPE CARTRIDGE;0WIRED KEYBOARD;0amBUTTON MOUSE;0alBUTTON MOUSE;0asBUTTON MOUSE;0TRACKBALL;0fvPERSONAL COMPUTER;0HARD DISK;0SCREEN;0PRINTER ICON;0FAX ICON;0OPTICAL DISC ICON;0DOCUMENT aaTEXT;3agPICTURE;2PICTURE;0FRAME aaPICTURE;2TILES;2iyX;0auFOLDER;0FOLDER;0dnFOLDER;0CARD cmDIVIDERS;1FILE kn;0FILE CABINET;0EMPTY mw;2PAGE;2PAD;0mw;1PAGE;1PAD;0EMPTY DOCUMENT;1PAGE;1PAGES;0DOCUMENT;0PAGE;0PAGES;0WASTEBASKET;0SPIRAL mwPAD;1CALENDAR PAD;0DESKTOP WINDOW
0MINIMIZE;0MAXIMIZE;0OVERLAP;0qxaiagakzkow;0zmX;0INCREASE FONT SIZE bb;0DECREASE FONT SIZE bb;0COMPRESSION;0fvKEY;0ROLLED-UP NEWSPAPER;0PAGE aaftTEXT;0STOCK CHART;0DAGGER KNIFE;0LIPS;0SPEAKING nffpSILHOUETTE;0asRAYS aj;2an;2ak;2ai;0akSPEECH ur;0aiSPEECH ur;0alSPEECH BUBBLES;0asSPEECH BUBBLES;0akTHOUGHT ur;0aiTHOUGHT ur;0akANGER ur;0aiANGER ur;0MOOD ur;0LIGHTNING MOOD ur;2;0BALLOT knaaBALLOT;1loX;1knaaloX;1jvloX;1knaajvloX;0cprxaq;0BALLOT knaajvrx;0WORLD MAP;0MOUNT FUJI;0TOKYO TOWER;0STATUE awLIBERTY;0SILHOUETTE awJAPAN;0MOYAI;0GRINNING by;2aaormq;0byaaTEARS awJOY;0orbyaadnms;5agormq;6COLD SWEAT;6TIGHTLY-CLOSED mq;3HALO;3HORNS;0WINKING by;0orbyaaormq;0bySAVOURING DELICIOUS FOOD;0RELIEVED by;0orbyaaHEART-SHAPED mq;3SUNGLASSES;0SMIRKING by;0mfby;0EXPRESSIONLESS by;0UNAMUSED by;0byaaCOLD SWEAT;0PENSIVE by;0CONFUSED by;0CONFOUNDED by;0KISSING by;0byTHROWING A KISS;0KISSING byaaormq;3inmq;0byaaSTUCK-OUT TONGUE;4agWINKING EYE;5TIGHTLY-CLOSED mq;0DISAPPOINTED by;0WORRIED by;0ANGRY by
0POUTING by;0CRYING by;0PERSEVERING by;0byaaLOOK awTRIUMPH;0DISAPPOINTED BUT RELIEVED by;0FROWNING byaadnms;0ANGUISHED by;0FEARFUL by;0WEARY by;0SLEEPY by;0TIRED by;0GRIMACING by;0LOUDLY CRYING by;0byaadnms;0HUSHED by;0byaadnmsagCOLD SWEAT;1SCREAMING fpFEAR;0ASTONISHED by;0FLUSHED by;0SLEEPING by;0DIZZY by;0byWITHOUT ms;1aaMEDICAL MASK;0GRINNING CAT byaaormq;0CAT byaaTEARS awJOY;0orCAT byaadnms;4HEART-SHAPED mq;0CAT byaaWRY SMILE;0KISSING CAT byaainmq;0POUTING CAT by;0CRYING CAT by;0WEARY CAT by;0SLIGHTLY FROWNING by;1orby;0UPSIDE-DOWN by;0byaaROLLING mq;2hmGOOD GESTURE;2OK GESTURE;0pgBOWING DEEPLY;0SEE-NO-EVIL MONKEY;0HEAR-NO-EVIL MONKEY;0SPEAK-NO-EVIL MONKEY;0HAPPY pgRAISING amjj;0pgRAISING BOTH HANDS fpCELEBRATION;1FROWNING;1aaPOUTING by;2FOLDED HANDS;0glfxexme;0hbfxexme;0glfaexme;0hbfaexme;0dqglfxexme;1hbfxexme;1glfaexme;1hbfaexme;0glfxexVINE me;0hbfxexVINE me;0glfaexVINE me;0hbfaexVINE me;0bfglfxexVINE me;1hbfxexVINE me;1glfaexVINE me;1hbfaexVINE me;0glfxexBUD;0hbfxexBUD
0glfaexBUD;0hbfaexBUD;0bfglfxexBUD;1hbfxexBUD;1glfaexBUD;1hbfaexBUD;0HOLLOW QUILT bzgc;4fpaubz;0SOLID QUILT bzgc;4fpaubz;0bpROCKET;0dfROCKET;0beROCKET;0cxROCKET;0lojaET gc;0bflojaET gc;0jadnET gc;0bfjadnET gc;1vogc;0SWASH vogc;0mbbfapdqfejsaqgc;3fejsaqgc;2dcapfejsaqgc;0bfzdgc;0mbzdgc;0bfmbzdgc;0klbflr;2mglr;0CHECKER BOARD;0mgCHECKER BOARD;0ROCKET;0HELICOPTER;0STEAM LOCOMOTIVE;0RAILWAY CAR;0HIGH-SPEED TRAIN;2aaqgNOSE;0TRAIN;0METRO;0cpRAIL;0STATION;0TRAM;1CAR;0BUS;0ONCOMING BUS;0TROLLEYBUS;0BUS ei;0MINIBUS;0AMBULANCE;0FIRE ENGINE;0POLICE CAR;0ONCOMING POLICE CAR;0TAXI;0ONCOMING TAXI;0AUTOMOBILE;0ONCOMING AUTOMOBILE;0RECREATIONAL VEHICLE;0DELIVERY TRUCK;0ARTICULATED LORRY;0TRACTOR;0MONORAIL;0wlRAILWAY;0SUSPENSION RAILWAY;0wlCABLEWAY;0AERIAL TRAMWAY;0SHIP;0ROWBOAT;0SPEEDBOAT;0coTRAFFIC cp;0bhTRAFFIC cp;0CONSTRUCTION af;0POLICE CARS REVOLVING cp;0mlsbezPOST;0DOOR;0hmENTRY af;0SMOKING bb;0hmSMOKING bb;0PUT LITTER fpITS PLACE bb;0DO fiLITTER bb;0POTABLE rrbb;0NON-POTABLE rrbb;0BICYCLE
0hmBICYCLES;0BICYCLIST;0wlBICYCLIST;0PEDESTRIAN;0hmPEDESTRIANS;0CHILDREN jh;0MENS bb;0WOMENS bb;0RESTROOM;0BABY bb;0TOILET;0rrCLOSET;0SHOWER;0BATH;0BATHTUB;0PASSPORT uv;0CUSTOMS;0BAGGAGE CLAIM;0akLUGGAGE;0czaaugCORNERS;0PROHIBITED af;0ftymSOURCE;0BOYS bb;0GIRLS bb;0COUCH agLAMP;0SLEEPING ACCOMMODATION;0SHOPPING BAGS;0BELLHOP BELL;0BED;0PLACE awWORSHIP;0OCTAGONAL af;0SHOPPING TROLLEY;0STUPA;0PAGODA;0HINDU TEMPLE;0HUT;0ELEVATOR;=1F6DD;0PLAYGROUND SLIDE;0WHEEL;0cvBUOY;0HAMMER agWRENCH;0SHIELD;0OIL DRUM;0MOTORWAY;0RAILWAY TRACK;0MOTOR BOAT;0quMILITARY xj;1xj;1acxj;0acxj;0NORTHEAST-POINTING xj;0xjDEPARTURE;1ARRIVING;=1F6F0;0SATELLITE;0ONCOMING FIRE ENGINE;0DIESEL LOCOMOTIVE;0PASSENGER SHIP;0SCOOTER;0MOTOR SCOOTER;0CANOE;0SLED;0FLYING SAUCER;0SKATEBOARD;0AUTO RICKSHAW;0PICKUP TRUCK;0ROLLER SKATE;=1F700;0ALCHEMICAL bbhxQUINTESSENCE;3AIR;3FIRE;3qm;3rr;3AQUAFORTIS;3AQUA REGIA;4REGIA-2;4VITAE;4VITAE-2;3VINEGAR;3VINEGAR-2;3VINEGAR-3;3SULFUR;3PHILOSOPHERS SULFUR;3auSULFUR;3MERCURY SUBLIMATE
4SUBLIMATE-2;4SUBLIMATE-3;3CINNABAR;3SALT;3NITRE;3VITRIOL;3VITRIOL-2;3ROCK SALT;4SALT-2;3GOLD;3SILVER;3IRON ORE;4ORE-2;3CROCUS awIRON;3REGULUS awIRON;3COPPER ORE;3IRON-COPPER ORE;3SUBLIMATE awCOPPER;3CROCUS awCOPPER;5COPPER-2;3COPPER ANTIMONIATE;3SALT awCOPPER ANTIMONIATE;3SUBLIMATE awSALT awCOPPER;3VERDIGRIS;3TIN ORE;3LEAD ORE;3ybORE;3SUBLIMATE awyb;3SALT awyb;3SUBLIMATE awSALT awyb;3VINEGAR awyb;3REGULUS awyb;5ANTIMONY-2;4;3REGULUS-2;3REGULUS-3;3REGULUS-4;3ALKALI;3ALKALI-2;3MARCASITE;3SAL-AMMONIAC;3ARSENIC;3REALGAR;3REALGAR-2;3AURIPIGMENT;3BISMUTH ORE;3TARTAR;3TARTAR-2;3QUICK LIME;3BORAX;3BORAX-2;3BORAX-3;3ALUM;3OIL;3SPIRIT;3TINCTURE;3GUM;3WAX;3POWDER;3CALX;3TUTTY;3CAPUT MORTUUM;3SCEPTER awJOVE;3CADUCEUS;3TRIDENT;3STARRED TRIDENT;3LODESTONE;3SOAP;3URINE;3HORSE DUNG;3ASHES;3POT ASHES;3BRICK;3POWDERED BRICK;3AMALGAM;3STRATUM SUPER STRATUM;5STRATUM-2;3SUBLIMATION;3PRECIPITATE;3DISTILL;3DISSOLVE;3DISSOLVE-2;3PURIFY;3PUTREFACTION;3CRUCIBLE;3CRUCIBLE-2;3CRUCIBLE-3;3CRUCIBLE-4;3CRUCIBLE-5
3ALEMBIC;3BATH awMARY;5VAPOURS;3RETORT;3HOUR;3NIGHT;3DAY-NIGHT;3MONTH;3bsDRAM;4OUNCE;=1F780;0aumvISOSCELES aicz;1quISOSCELES aicz;1lnISOSCELES aicz;1ryISOSCELES aicz;1SLIGHTLY accb;0dejvaxcb;0jvaxcb;0bfaxcb;0klbfaxcb;0yhbfaxcb;0axcbxlauaccb;0spTARGET;0auTINY bz;1SLIGHTLY acbz;0cpaxbz;0deaxbz;0jvaxbz;0bfaxbz;0klbfaxbz;0yhbfaxbz;0axbzxlauklacbz;4debz;0bzTARGET;0auTINY hs;1klachs;1deachs;0axhsxlauklachs;4dehs;0hsTARGET;0auTINY rd;1klacrd;1deacrd;0axrdxlauacrd;0THIN legr;0cplegr;0delegr;0jvlegr;0kljvlegr;1bflegr;0yhbflegr;0THIN tj;0cptj;0detj;0jvtj;0bftj;0klbftj;0yhbftj;0cpbcoegq;0debcoegq;0jvbcoegq;0bfbcoegq;0klbfbcoegq;0yhbfbcoegq;0cpbjoegq;0debjoegq;0jvbjoegq;0bfbjoegq;0klbfbjoegq;0yhbfbjoegq;0cpbkoegq;0debkoegq;0jvbkoegq;0bfbkoegq;0klbfbkoegq;0cpasiqaufk;0deasiqaufk;0asiqaufk;0deasiqvifk;0cpayiqaufk;0deayiqaufk;0ayiqaufk;0deayiqvifk;0mgcpayiqvifk;0cpbciqaufk;0bfbciqaufk;0debjiqaufk;0bfbjiqaufk;0bjiqvifk;0debkiqaufk;0bfbkiqaufk;0klbfbkiqaufk;0bfbkiqvifk;0cpqtiqaufk;0bfqtiqaufk;3vifk
0ftcz;0pfftcz;0ftbz;0pfftbz;=1F7E0;0epORANGE cb;1YELLOW cb;1GREEN cb;1PURPLE cb;1BROWN cb;1RED bz;1BLUE bz;1ORANGE bz;1YELLOW bz;1GREEN bz;1PURPLE bz;1BROWN bz;=1F7F0;0bfioaf;=1F800;0bpahaaacczel;0dfahaaacczel;0beahaaacczel;0cxahaaacczel;0bpahaadeczel;0dfahaadeczel;0beahaadeczel;0cxahaadeczel;0bpahaaepczel;0dfahaaepczel;0beahaaepczel;0cxahaaepczel;=1F810;0bpahaaacllel;0dfahaaacllel;0beahaaacllel;0cxahaaacllel;0bpahaallel;0dfahaallel;0beahaallel;0cxahaallel;0bfbpahaallel;1dfahaallel;1beahaallel;1cxahaallel;1bpahaaepllel;1dfahaaepllel;1beahaaepllel;1cxahaaepllel;0bpejahaaNARROW mh;0dfejahaaNARROW mh;0beejahaaNARROW mh;0cxejahaaNARROW mh;0bpejahaademh;0dfejahaademh;0beejahaademh;0cxejahaademh;0bpejahaajvmh;0dfejahaajvmh;0beejahaajvmh;0cxejahaajvmh;0bpejahaabfmh;0dfejahaabfmh;0beejahaabfmh;0cxejahaabfmh;0bpejahaaklbfmh;0dfejahaaklbfmh;0beejahaaklbfmh;0cxejahaaklbfmh;0bpFINGER-POST ah;0dfFINGER-POST ah;0beFINGER-POST ah;0cxFINGER-POST ah;0bpirah;0dfirah;0beirah;0cxirah;0bpvsah;0dfvsah
0bevsah;0cxvsah;0bpbfvsah;0dfbfvsah;0bebfvsah;0cxbfvsah;0bpbfah;0dfbfah;0bebfah;0cxbfah;=1F850;0bpmbah;0dfmbah;0bembah;0cxmbah;0glfxmbah;1fambah;0hbfambah;1fxmbah;0akaimbah;0bibqmbah;=1F860;0WIDE-HEADED bpcpdbah;1dfcpdbah;1becpdbah;1cxcpdbah;1glfxcpdbah;2facpdbah;1hbfacpdbah;2fxcpdbah;1bpdbah;1dfdbah;1bedbah;1cxdbah;1glfxdbah;2fadbah;1hbfadbah;2fxdbah;1bpdedbah;1dfdedbah;1bededbah;1cxdedbah;1glfxdedbah;2fadedbah;1hbfadedbah;2fxdedbah;1bpbfdbah;1dfbfdbah;1bebfdbah;1cxbfdbah;1glfxbfdbah;2fabfdbah;1hbfabfdbah;2fxbfdbah;1bpklbfdbah;1dfklbfdbah;1beklbfdbah;1cxklbfdbah;1glfxklbfdbah;2faklbfdbah;1hbfaklbfdbah;2fxklbfdbah;=1F890;0bpczel;0dfczel;0beczel;0cxczel;0bpaxahWITHIN czel;0dfaxahWITHIN czel;0beaxahWITHIN czel;0cxaxahWITHIN czel;0bpahaavgfs;0dfahaavgfs;0beahaavgfs;0cxahaavgfs;0bfahmhWIDTH am;4alvl;4ambs;5rq;0bpBOTTOM-SHADED axah;0bejcSHADED axah;0bphiSHADED axah;0behiSHADED axah;0bpLEFT-SHADED axah;0beRIGHT-SHADED axah;0bpRIGHT-SHADED axah;0beLEFT-SHADED axah;0bpBACK-TILTED rmaxah
0beBACK-TILTED rmaxah;0bpFRONT-TILTED rmaxah;0beFRONT-TILTED rmaxah;0axahmhWIDTH am;4alvl;=1F8B0;0ahexdfTHEN glfx;2beTHEN CURVING hbfx;=1F900;0ftgrFORMEE aaaycc;4alcc;3;0akbscbaaaycc;4ascc;4alcc;4ar;3;0DOWNWARD FACING az;2vgaz;2azaaar;2vgazaaar;0PINCHED lm;0axjx;0BROWN jx;0PINCHING jj;0ZIPPER-MOUTH by;0MONEY-MOUTH by;0byaaTHERMOMETER;0NERD by;0THINKING by;0byaaHEAD-BANDAGE;0ROBOT by;0HUGGING by;0afawidHORNS;0CALL ME jj;0kzruawjj;0LEFT-FACING FIST;0zwFIST;0HANDSHAKE;0jjaacmagbglmqy;0I LOVE YOU jjaf;0byaaCOWBOY HAT;0CLOWN by;0NAUSEATED by;0ROLLING ezidtwLAUGHING;0DROOLING by;0LYING by;0byPALM;0SNEEZING by;0byaaamEYEBROW kz;0GRINNING byaafkmq;3amepagamacEYE;0byaawcCOVERING inLIPS;0SERIOUS byaaSYMBOLS COVERING ms;0orbyaaormqagjjCOVERING ms;0byaadnmsVOMITING;0SHOCKED byaaEXPLODING nf;0PREGNANT WOMAN;0BREAST-FEEDING;0PALMS biTOGETHER;0SELFIE;0PRINCE;0mrfpTUXEDO;0MOTHER CHRISTMAS;0SHRUG;0pgDOING CARTWHEEL;0JUGGLING;0FENCER;0MODERN PENTATHLON;0WRESTLERS;0rrPOLO;0HANDBALL;0DIVING MASK
0WILTED FLOWER;0DRUM aaDRUMSTICKS;0CLINKING GLASSES;0TUMBLER GLASS;0SPOON;0GOAL NET;0RIFLE;0FIRST PLACE MEDAL;0SECOND PLACE MEDAL;0rqPLACE MEDAL;0BOXING GLOVE;0MARTIAL ARTS UNIFORM;0CURLING STONE;0LACROSSE STICK agrv;0SOFTBALL;0FLYING DISC;0CROISSANT;0AVOCADO;0CUCUMBER;0BACON;0POTATO;0CARROT;0BAGUETTE BREAD;0GREEN SALAD;0SHALLOW PAN awFOOD;0STUFFED FLATBREAD;0EGG;0GLASS awMILK;0PEANUTS;0KIWIFRUIT;0PANCAKES;0DUMPLING;0FORTUNE COOKIE;0TAKEOUT kn;0CHOPSTICKS;0BOWL aaSPOON;0CUP aaSTRAW;0COCONUT;0BROCCOLI;0PIE;0PRETZEL;0CUT awMEAT;0SANDWICH;0CANNED FOOD;0LEAFY GREEN;0MANGO;0kxCAKE;0BAGEL;0orbyaaormqagasom;0YAWNING by;0orbyaaTEAR;0byaaPARTY isagPARTY HAT;2UNEVEN mqagWAVY ms;0OVERHEATED by;0FREEZING by;0NINJA;0DISGUISED by;0byHOLDING ruTEARS;1aaPLEADING mq;0SARI;0LAB COAT;0GOGGLES;0HIKING BOOT;0FLAT SHOE;0CRAB;0LION by;0SCORPION;0TURKEY;0UNICORN by;0EAGLE;0DUCK;0BAT;0SHARK;0OWL;0FOX by;0BUTTERFLY;0DEER;0GORILLA;0LIZARD;0RHINOCEROS;0SHRIMP;0SQUID;0GIRAFFE by;0ZEBRA by;0HEDGEHOG;0SAUROPOD
0T-REX;0CRICKET;0KANGAROO;0LLAMA;0PEACOCK;0HIPPOPOTAMUS;0PARROT;0RACCOON;0LOBSTER;0MOSQUITO;0MICROBE;0BADGER;0SWAN;0MAMMOTH;0DODO;0SLOTH;0OTTER;0ORANGUTAN;0SKUNK;0FLAMINGO;0OYSTER;0BEAVER;0BISON;0SEAL;0GUIDE DOG;0PROBING CANE;0EMOJI COMPONENT RED HAIR;2ktHAIR;2BALD;2axHAIR;0BONE;0oo;0FOOT;0TOOTH;0SUPERHERO;0SUPERVILLAIN;0SAFETY VEST;0EAR aaHEARING AID;0MOTORIZED WHEELCHAIR;0MANUAL WHEELCHAIR;0MECHANICAL ARM;1oo;0CHEESE WEDGE;0CUPCAKE;0SALT SHAKER;0BEVERAGE kn;0GARLIC;0ONION;0FALAFEL;0WAFFLE;0BUTTER;0MATE DRINK;0ICE CUBE;0urTEA;0TROLL;0STANDING pg;0KNEELING pg;0DEAF pg;0byaaMONOCLE;0ADULT;0CHILD;0OLDER ADULT;0BEARDED pg;0pgaaHEADSCARF;1fpSTEAMY ROOM;1CLIMBING;1fpLOTUS POSITION;0MAGE;0FAIRY;0VAMPIRE;0MERPERSON;0ELF;0GENIE;0ZOMBIE;0BRAIN;0ORANGE jx;0BILLED CAP;0SCARF;0GLOVES;0COAT;0SOCKS;0RED GIFT uz;0FIRECRACKER;0JIGSAW PUZZLE PIECE;0TEST TUBE;0PETRI lx;0DNA apHELIX;0COMPASS;0ABACUS;0FIRE EXTINGUISHER;0TOOLBOX;0BRICK;0MAGNET;0LUGGAGE;0LOTION BOTTLE;0SPOOL awTHREAD;0rvawYARN;0SAFETY PIN
0TEDDY BEAR;0BROOM;0BASKET;0ROLL awPAPER;0bnawSOAP;0SPONGE;0RECEIPT;0NAZAR AMULET;0mfjdnz;2ph;2so;2rw;2kg;2sl;0axjdkgfbFORTY-FIVE fz;0aujdkgfbFORTY-FIVE fz;0mfjdkgfbFORTY-FIVE fz;0axjdnzfbibfz;2phfbibfz;2sofbibfz;2rwfbibfz;2kgfbibfz;2slfbibfz;0aujdnzfbibfz;2phfbibfz;2sofbibfz;2rwfbibfz;2kgfbibfz;2slfbibfz;0mfjdnzfbibfz;2phfbibfz;2sofbibfz;2rwfbibfz;2kgfbibfz;2slfbibfz;0axjdkgfbambtTHIRTY-FIVE fz;0aujdkgfbambtTHIRTY-FIVE fz;0mfjdkgfbambtTHIRTY-FIVE fz;0axjddqnz;3ph;3so;3rw;3kg;3sl;0aujddqnz;3ph;3so;3rw;3kg;3sl;0mfjddqnz;3ph;3so;3rw;3kg;3sl;0axjdkgfbalbtTWENTY-FIVE fz;0aujdkgfbalbtTWENTY-FIVE fz;0mfjdkgfbalbtTWENTY-FIVE fz;0axjdnzfbalbtitfz;2phfbalbtitfz;2sofbalbtitfz;2rwfbalbtitfz;2kgfbalbtitfz;2slfbalbtitfz;0aujdnzfbalbtitfz;2phfbalbtitfz;2sofbalbtitfz;2rwfbalbtitfz;2kgfbalbtitfz;2slfbalbtitfz;0mfjdnzfbalbtitfz;2phfbalbtitfz;2sofbalbtitfz;2rwfbalbtitfz;2kgfbalbtitfz;2slfbalbtitfz;0axjdkgfbasbttdfz;0aujdkgfbasbttdfz;0mfjdkgfbasbttdfz;0axjdyg;0aujdyg;0mfjdyg;0axjdygfbibfz;0aujdygfbibfz
0mfjdygfbibfz;0axjdKNIGHT-QUEEN;2KNIGHT-ROOK;2KNIGHT-BISHOP;0aujdKNIGHT-QUEEN;2KNIGHT-ROOK;2KNIGHT-BISHOP;=1FA60;0XIANGQI RED GENERAL;2MANDARIN;2ELEPHANT;2HORSE;2CHARIOT;2CANNON;2SOLDIER;1auGENERAL;2MANDARIN;2ELEPHANT;2HORSE;2CHARIOT;2CANNON;2SOLDIER;=1FA70;0BALLET SHOES;0ONE-PIECE SWIMSUIT;0BRIEFS;0SHORTS;0THONG SANDAL;=1FA78;0DROP awBLOOD;0ADHESIVE BANDAGE;0STETHOSCOPE;0X-RAY;0CRUTCH;=1FA80;0YO-YO;0KITE;0PARACHUTE;0BOOMERANG;0MAGIC WAND;0PINATA;0NESTING DOLLS;=1FA90;0RINGED PLANET;0CHAIR;0RAZOR;0AXE;0DIYA LAMP;0BANJO;0MILITARY HELMET;0ACCORDION;0drDRUM;0COIN;0CARPENTRY SAW;0SCREWDRIVER;0LADDER;0az;0MIRROR;0WINDOW;0PLUNGER;0SEWING NEEDLE;0KNOT;0BUCKET;0MOUSE TRAP;0TOOTHBRUSH;0HEADSTONE;0PLACARD;0ROCK;0MIRROR rv;0IDENTIFICATION CARD;0dcBATTERY;0HAMSA;=1FAB0;0FLY;0WORM;0BEETLE;0COCKROACH;0POTTED PLANT;0WOOD;0FEATHER;0LOTUS;0CORAL;0EMPTY NEST;0NEST aaEGGS;=1FAC0;0ANATOMICAL jx;0LUNGS;0PEOPLE HUGGING;0PREGNANT mr;1pg;0pgaaCROWN;=1FAD0;0BLUEBERRIES;0BELL PEPPER;0OLIVE;0FLATBREAD;0TAMALE
0FONDUE;0TEAPOT;0POURING LIQUID;0BEANS;0JAR;=1FAE0;0MELTING by;0SALUTING by;0byaadnmqagjjcfms;2PEEKING EYE;2gvms;0hzeeby;0BITING LIP;0BUBBLES;=1FAF0;0jjaacmwcagduqy;0bejj;0bpjj;0PALM bqjj;1bijj;0cmexAT idVIEWER;0jxHANDS;=1FB00;0fgSEXTANT-1;1SEXTANT-2;1SEXTANT-12;1SEXTANT-3;1SEXTANT-13;1SEXTANT-23;1SEXTANT-123;1SEXTANT-4;1SEXTANT-14;1SEXTANT-24;1SEXTANT-124;1SEXTANT-34;1SEXTANT-134;1SEXTANT-234;1SEXTANT-1234;1SEXTANT-5;1SEXTANT-15;1SEXTANT-25;1SEXTANT-125;1SEXTANT-35;1SEXTANT-235;1SEXTANT-1235;1SEXTANT-45;1SEXTANT-145;1SEXTANT-245;1SEXTANT-1245;1SEXTANT-345;1SEXTANT-1345;1SEXTANT-2345;1SEXTANT-12345;1SEXTANT-6;1SEXTANT-16;1SEXTANT-26;1SEXTANT-126;1SEXTANT-36;1SEXTANT-136;1SEXTANT-236;1SEXTANT-1236;1SEXTANT-46;1SEXTANT-146;1SEXTANT-1246;1SEXTANT-346;1SEXTANT-1346;1SEXTANT-2346;1SEXTANT-12346;1SEXTANT-56;1SEXTANT-156;1SEXTANT-256;1SEXTANT-1256;1SEXTANT-356;1SEXTANT-1356;1SEXTANT-2356;1SEXTANT-12356;1SEXTANT-456;1SEXTANT-1456;1SEXTANT-2456;1SEXTANT-12456;1SEXTANT-3456;1SEXTANT-13456
1SEXTANT-23456;0cyakfggvcybgakatcyfm;9ai;4dmbgakatcyfm;9ai;5akatcyfm;1aifggvdmbgakatdmfm;9ai;4cybgakatdmfm;9ai;5akatdmfm;5bgakatdmbgai;5fmatcybgai;5akatcybgai;5fmatdmbgai;5akatdmbgai;5fmatdmai;1akfggvdmfmatdmbgai;5akatdmbgai;5fmatcybgai;5akatcybgai;5fmatcyai;5bgakatcybgai;0dmaifggvcybgakatcyfm;9ai;4dmbgakatcyfm;9ai;5akatcyfm;1akfggvdmbgakatdmfm;9ai;4cybgakatdmfm;9ai;5akatdmfm;5bgakatdmbgai;5fmatcybgai;5akatcybgai;5fmatdmbgai;5akatdmbgai;5fmatdmai;1aifggvdmfmatdmbgai;5akatdmbgai;5fmatcybgai;5akatcybgai;5fmatcyai;5bgakatcybgai;1agaiagcymlaspzfg;0akagcyagaimlaspzfg;0dmagakagcymlaspzfg;0akagdmagaimlaspzfg;1mlamjbfg;0dmmlamjbfg;0aimlamjbfg;0cymlamjbfg;0bhamkoBLOCK-2;3BLOCK-3;3BLOCK-4;3BLOCK-5;3BLOCK-6;3BLOCK-7;0coamkoBLOCK-2;3BLOCK-3;3BLOCK-4;3BLOCK-5;3BLOCK-6;3BLOCK-7;0akagcyamkofg;2dmamkofg;0aiagdmamkofg;2cyamkofg;0dmagcyamkofg;0coamkoBLOCK-1358;0dmamjbfg;1aspofg;1bcpofg;1aspzfg;1brpofg;0aiamjbfg;1aspofg;1bcpofg;1aspzfg;1brpofg;0akbsdeqb;0aibsdeqb;0dmbsdeqb;0cybsdeqb;0tydeqb
0dmbsfgagcybstydeqb;2tydeqbagcybsfg;=1FB94;0akbstydeqbagaibsfg;0CHECKER BOARD qn;0tyCHECKER BOARD qn;0bfcoqn;0dmakatcyaiqn;1aiatcyakqn;1agcymlbsfg;0akagaimlbsfg;0dmakmldeqb;1aimldeqb;0cyaimldeqb;1akmldeqb;0knDRAWINGS cpgvdmfmatbgak;8ai;4bgakatcyfm;5aiatcyfm;4dmfmatbgakatcyfm;8aiatcyfm;4bgakatcyfmatbgai;7dmfmatbgai;4dmfmatbgakagbgaiatcyfm;8aiagbgakatcyfm;9atcyfmatbgak;8akatcyfmatbgai;4bgakatdmfmatbgaiatcyfm;5aiatdmfmatbgakatcyfm;4hs;3coaabhba;0ARROWHEAD-SHAPED POINTER;0tyrxaq;0akbsRUNNING mr;0aibsRUNNING mr;0tycxahaaTIP bp;0bpahagdmagcyamkofg;0beahagdmagcyamkofg;0cxahagaiamkofg;0dfahagaiamkofg;0akbsFOLDER;0aibsFOLDER;0VOIDED legr;0aidnirar;0pfgvgr;2bgaiatcyfm;2hs;0axbftjaaugCORNERS;0akrqaxaiexcm;0bgrqaxaiexcm;0airqaxaiexcm;0pfirkbaq;0STICK FIGURE;2aaARMS kz;2LEANING ak;3ai;2aaDRESS;0axquCHEVRON;=1FBF0;0SEGMENTED cudj;2am;2al;2as;2ay;2bc;2bj;2br;2bk;2bv;=E0001;0LANGUAGE TAG;=E0020;0TAG mj;1kvaq;1jsaq;1eyaf;1DOLLAR af;1PERCENT af;1vo;1up;1akhe;1aihe;1gq;1boaf;1fe;1zq;1gdei;1lr;1cudj;2am
2al;2as;2ay;2bc;2bj;2br;2bk;2bv;1je;1sr;1fhaf;1ioaf;1fjaf;1kbaq;1zbAT;1gbaeabA;4B;4C;4D;4E;4F;4G;4H;4I;4J;4K;4L;4M;4N;4O;4P;4Q;4R;4S;4T;4U;4V;4W;4X;4Y;4Z;1akbzbw;1mglr;1aibzbw;1dthv;1dcee;1eqhv;1gbacabA;4B;4C;4D;4E;4F;4G;4H;4I;4J;4K;4L;4M;4N;4O;4P;4Q;4R;4S;4T;4U;4V;4W;4X;4Y;4Z;1akktbw;1bhee;1aiktbw;1ct;0CANCEL TAG;=E0100;0VARIATION SELECTOR-17;1SELECTOR-18;1SELECTOR-19;1SELECTOR-20;1SELECTOR-21;1SELECTOR-22;1SELECTOR-23;1SELECTOR-24;1SELECTOR-25;1SELECTOR-26;1SELECTOR-27;1SELECTOR-28;1SELECTOR-29;1SELECTOR-30;1SELECTOR-31;1SELECTOR-32;1SELECTOR-33;1SELECTOR-34;1SELECTOR-35;1SELECTOR-36;1SELECTOR-37;1SELECTOR-38;1SELECTOR-39;1SELECTOR-40;1SELECTOR-41;1SELECTOR-42;1SELECTOR-43;1SELECTOR-44;1SELECTOR-45;1SELECTOR-46;1SELECTOR-47;1SELECTOR-48;1SELECTOR-49;1SELECTOR-50;1SELECTOR-51;1SELECTOR-52;1SELECTOR-53;1SELECTOR-54;1SELECTOR-55;1SELECTOR-56;1SELECTOR-57;1SELECTOR-58;1SELECTOR-59;1SELECTOR-60;1SELECTOR-61;1SELECTOR-62;1SELECTOR-63;1SELECTOR-64;1SELECTOR-65;1SELECTOR-66;1SELECTOR-67
1SELECTOR-68;1SELECTOR-69;1SELECTOR-70;1SELECTOR-71;1SELECTOR-72;1SELECTOR-73;1SELECTOR-74;1SELECTOR-75;1SELECTOR-76;1SELECTOR-77;1SELECTOR-78;1SELECTOR-79;1SELECTOR-80;1SELECTOR-81;1SELECTOR-82;1SELECTOR-83;1SELECTOR-84;1SELECTOR-85;1SELECTOR-86;1SELECTOR-87;1SELECTOR-88;1SELECTOR-89;1SELECTOR-90;1SELECTOR-91;1SELECTOR-92;1SELECTOR-93;1SELECTOR-94;1SELECTOR-95;1SELECTOR-96;1SELECTOR-97;1SELECTOR-98;1SELECTOR-99;1SELECTOR-100;1SELECTOR-101;1SELECTOR-102;1SELECTOR-103;1SELECTOR-104;1SELECTOR-105;1SELECTOR-106;1SELECTOR-107;1SELECTOR-108;1SELECTOR-109;1SELECTOR-110;1SELECTOR-111;1SELECTOR-112;1SELECTOR-113;1SELECTOR-114;1SELECTOR-115;1SELECTOR-116;1SELECTOR-117;1SELECTOR-118;1SELECTOR-119;1SELECTOR-120;1SELECTOR-121;1SELECTOR-122;1SELECTOR-123;1SELECTOR-124;1SELECTOR-125;1SELECTOR-126;1SELECTOR-127;1SELECTOR-128;1SELECTOR-129;1SELECTOR-130;1SELECTOR-131;1SELECTOR-132;1SELECTOR-133;1SELECTOR-134;1SELECTOR-135;1SELECTOR-136;1SELECTOR-137;1SELECTOR-138;1SELECTOR-139;1SELECTOR-140
1SELECTOR-141;1SELECTOR-142;1SELECTOR-143;1SELECTOR-144;1SELECTOR-145;1SELECTOR-146;1SELECTOR-147;1SELECTOR-148;1SELECTOR-149;1SELECTOR-150;1SELECTOR-151;1SELECTOR-152;1SELECTOR-153;1SELECTOR-154;1SELECTOR-155;1SELECTOR-156;1SELECTOR-157;1SELECTOR-158;1SELECTOR-159;1SELECTOR-160;1SELECTOR-161;1SELECTOR-162;1SELECTOR-163;1SELECTOR-164;1SELECTOR-165;1SELECTOR-166;1SELECTOR-167;1SELECTOR-168;1SELECTOR-169;1SELECTOR-170;1SELECTOR-171;1SELECTOR-172;1SELECTOR-173;1SELECTOR-174;1SELECTOR-175;1SELECTOR-176;1SELECTOR-177;1SELECTOR-178;1SELECTOR-179;1SELECTOR-180;1SELECTOR-181;1SELECTOR-182;1SELECTOR-183;1SELECTOR-184;1SELECTOR-185;1SELECTOR-186;1SELECTOR-187;1SELECTOR-188;1SELECTOR-189;1SELECTOR-190;1SELECTOR-191;1SELECTOR-192;1SELECTOR-193;1SELECTOR-194;1SELECTOR-195;1SELECTOR-196;1SELECTOR-197;1SELECTOR-198;1SELECTOR-199;1SELECTOR-200;1SELECTOR-201;1SELECTOR-202;1SELECTOR-203;1SELECTOR-204;1SELECTOR-205;1SELECTOR-206;1SELECTOR-207;1SELECTOR-208;1SELECTOR-209;1SELECTOR-210;1SELECTOR-211
1SELECTOR-212;1SELECTOR-213;1SELECTOR-214;1SELECTOR-215;1SELECTOR-216;1SELECTOR-217;1SELECTOR-218;1SELECTOR-219;1SELECTOR-220;1SELECTOR-221;1SELECTOR-222;1SELECTOR-223;1SELECTOR-224;1SELECTOR-225;1SELECTOR-226;1SELECTOR-227;1SELECTOR-228;1SELECTOR-229;1SELECTOR-230;1SELECTOR-231;1SELECTOR-232;1SELECTOR-233;1SELECTOR-234;1SELECTOR-235;1SELECTOR-236;1SELECTOR-237;1SELECTOR-238;1SELECTOR-239;1SELECTOR-240;1SELECTOR-241;1SELECTOR-242;1SELECTOR-243;1SELECTOR-244;1SELECTOR-245;1SELECTOR-246;1SELECTOR-247;1SELECTOR-248;1SELECTOR-249;1SELECTOR-250;1SELECTOR-251;1SELECTOR-252;1SELECTOR-253;1SELECTOR-254;1SELECTOR-255;1SELECTOR-256"

/-- Other names, above all of characters that have no name. -/
def aliases : String :=
"0NUL;=0;0NULL;0SOH;=1;0START awHEADING;2TEXT;=2;0STX;0igawTEXT;=3;0ETX;0igawzz;=4;0EOT;0ENQ;=5;0ENQUIRY;0ACK;=6;0ACKNOWLEDGE;0ALERT;=7;0BEL;0BACKSPACE;=8;0BS;0oyss;=9;0coss;=9;0HT;=9;0TAB;0igawee;=A;0EOL;=A;0LF;=A;0eeFEED;=A;0NEW ee;=A;0NL;0eess;=B;0bhss;=B;0VT;0FF;=C;0adFEED;0CARRIAGE RETURN;=D;0CR;0LOCKING-SHIFT am;=E;0SHIFT OUT;=E;0SO;0LOCKING-SHIFT dj;=F;0SHIFT fp;=F;0SI;0DATA LINK ESCAPE;=10;0DLE;0DC1;=11;0DEVICE uvam;0DC2;=12;0DEVICE uval;0DC3;=13;0DEVICE uvas;0DC4;=14;0DEVICE uvay;0NAK;=15;0pfACKNOWLEDGE;0SYN;=16;0SYNCHRONOUS IDLE;0igawzzfg;=17;0ETB;0CAN;=18;0CANCEL;0igawde;=19;0EOM;0SUB;=1A;0SUBSTITUTE;0ESC;=1B;0ESCAPE;0FILE jn;=1C;0FS;=1C;0ymjnay;0GROUP jn;=1D;0GS;=1D;0ymjnas;2al;=1E;0RECORD jn;=1E;0RS;0ymjnam;=1F;0UNIT jn;=1F;0US;0SP;=7F;0DEL;=7F;0DELETE;0PAD;=80;0PADDING oy;0dzOCTET PRESET;=81;0HOP;0BPH;=82;0BREAK PERMITTED HERE;0NBH;=83;0hmBREAK HERE;0IND;=84;0cm;0NEL;=85;0NEXT ee;0hn;=86;0START awSELECTED AREA;0igawSELECTED AREA;=87;0ESA;0oyssSET;=88;0cossSET;=88;0HTS
0oyssaaJUSTIFICATION;=89;0cossaaJUSTIFICATION;=89;0HTJ;0eessSET;=8A;0bhssSET;=8A;0VTS;0wteebq;=8B;2nt;=8B;0PLD;0wteeBACKWARD;=8C;2bi;=8C;0PLU;0mgcm;=8D;1eeFEED;=8D;0RI;0ehSHIFT al;=8E;0SINGLE-SHIFT-2;=8E;0SS2;0ehSHIFT as;=8F;0SINGLE-SHIFT-3;=8F;0SS3;0DCS;=90;0DEVICE uvSTRING;0PRIVATE USE am;=91;1USE-1;=91;0PU1;0PRIVATE USE al;=92;1USE-2;=92;0PU2;0SET TRANSMIT STATE;=93;0STS;0CANCEL oy;=94;0CCH;0MESSAGE WAITING;=95;0MW;0SPA;=96;0START awGUARDED AREA;=96;2PROTECTED AREA;0igawGUARDED AREA;=97;2PROTECTED AREA;=97;0EPA;0SOS;=98;0START awSTRING;0SGC;=99;0ehGRAPHIC oyINTRODUCER;0SCI;=9A;0ehoyINTRODUCER;0uvSEQUENCE INTRODUCER;=9B;0CSI;0ST;=9C;0STRING TERMINATOR;0OPERATING SYSTEM COMMAND;=9D;0OSC;0PM;=9E;0PRIVACY MESSAGE;0APC;=9F;0APPLICATION PROGRAM COMMAND;0NBSP;=AD;0SHY;=1A2;0gbaeabgj;1acabgj;=34F;0CGJ;=61C;0ALM;=709;0SYRIAC SUBLINEAR jeSKEWED ak;=CDE;0KANNADA abLLLA;=E9D;0LAO abFO FON;=E9F;3FAY;=EA3;2RO;=EA5;2LO;=FD0;0TIBETAN aqBKA- SHOG GI MGO RGYAN;=11EC;0txJONGSEONG YESIEUNG-KIYEOK
2YESIEUNG-SSANGKIYEOK;2SSANGYESIEUNG;2YESIEUNG-KHIEUKH;=180B;0FVS1;0FVS2;0FVS3;0MVS;0FVS4;=200B;0ZWSP;0ZWNJ;0ZWJ;0LRM;0RLM;=202A;0LRE;0RLE;0PDF;0LRO;0RLO;0NNBSP;=205F;0MMSP;0WJ;=2066;0LRI;0RLI;0FSI;0PDI;=2118;0WEIERSTRASS ELLIPTIC FUNCTION;=2448;0MICR ezUS bb;1hcbb;=2B7A;0bpejahaaapbhba;=2B7C;0beejahaaapbhba;=A015;0YI ottzaq;=AA6E;0MYANMAR abKHAMTI kh;=FE18;0zuadhxbhaiaxvebw;=FEFF;0BOM;=FEFF;0BYTE ORDER aq;=FEFF;0ZWNBSP;=122D4;0CUNEIFORM afNU11 hh;3cfNU11 BUR cfBUR;=16E56;0MEDEFAIDRIN aeabH;3NG;=16E76;1acabH;3NG;=1B001;0HENTAIGANA abE-1;=1D0C5;0BYZANTINE rfbbFTHORA SKLIRON CHROMA VASIS"

end Paygate.Text.NameTable
