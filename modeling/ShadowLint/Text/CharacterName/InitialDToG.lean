/-!
# Names that begin with a letter from D to G

The names of characters that begin with a letter from D to G, as a tree of words in the form
that the module on names reads.
-/

namespace ShadowLint
namespace Text

/-- The names that begin with a letter from D to G. -/
def characterNamesDToG : String :=
    "DAGGER( . KNIFE WITH( LEFT( GUARD) RIGHT( GUARD))) DALET( SYMBOL) DANCER DANGO DARK( SHADE
    SUNGLASSES) DASH( SYMBOL WITH( LEFT( UPTURN))) DASHED( LOW( LINE) OVERLINE TRIANGLE-HEADED(
    RIGHTWARDS( ARROW))) DATA( LINK( ESCAPE)) DC1 DC2 DC3 DC4 DCS DEAF( PERSON) DECIDUOUS( TREE)
    DECIMAL( EXPONENT( SYMBOL) SEPARATOR( KEY( SYMBOL))) DECREASE( FONT( SIZE( SYMBOL))) DEER
    DEGREE( CELSIUS FAHRENHEIT SIGN) DEL DELETE DELIVERY( TRUCK) DELTA( EQUAL( TO)) DENTISTRY(
    SYMBOL( LIGHT( DOWN( AND( HORIZONTAL( . WITH( CIRCLE TRIANGLE WAVE)))) UP( AND( HORIZONTAL( .
    WITH( CIRCLE TRIANGLE WAVE)))) VERTICAL( AND( BOTTOM( LEFT RIGHT) TOP( LEFT RIGHT) WAVE) WITH(
    CIRCLE TRIANGLE))))) DEPARTMENT( STORE) DERELICT( HOUSE( BUILDING)) DESCENDING( NODE) DESERET(
    CAPITAL( LETTER( AY BEE CHEE DEE EF EL EM EN ENG ER ES ESH ETH EW GAY H JEE KAY LONG( A AH E I O
    OO) OI OW PEE SHORT( A AH E I O OO) TEE THEE VEE WU YEE ZEE ZHEE)) SMALL( LETTER( AY BEE CHEE
    DEE EF EL EM EN ENG ER ES ESH ETH EW GAY H JEE KAY LONG( A AH E I O OO) OI OW PEE SHORT( A AH E
    I O OO) TEE THEE VEE WU YEE ZEE ZHEE))) DESERT( . ISLAND) DESKTOP( COMPUTER WINDOW) DEVANAGARI(
    ABBREVIATION( SIGN) ACUTE( ACCENT) CARET DANDA DIGIT( EIGHT FIVE FOUR NINE ONE SEVEN SIX THREE
    TWO ZERO) DOUBLE( DANDA) GAP( FILLER) GRAVE( ACCENT) HEADSTROKE JAIN( OM) LETTER( A AA AI AU AW
    AY BA BBA BHA CA CANDRA( A E O) CHA DA DDA DDDA DDDHA DDHA DHA E FA GA GGA GHA GHHA GLOTTAL(
    STOP) HA HEAVY( YA) I II JA JHA JJA KA KHA KHHA LA LLA LLLA MA MARWARI( DDA) NA NGA NNA NNNA NYA
    O OE OOE PA PHA QA RA RHA RRA SA SHA SHORT( A E O) SSA TA THA TTA TTHA U UE UU UUE VA VOCALIC( L
    LL R RR) YA YYA ZA ZHA) OM SIGN( ANUSVARA AVAGRAHA CANDRABINDU( . AVAGRAHA THREE TWO VIRAMA)
    DOUBLE( CANDRABINDU( VIRAMA)) HIGH( SPACING( DOT)) INVERTED( CANDRABINDU) NUKTA PUSHPIKA SIDDHAM
    SPACING( CANDRABINDU) VIRAMA VISARGA) STRESS( SIGN( ANUDATTA UDATTA)) VOWEL( SIGN( AA AI AU AW
    AY CANDRA( E LONG( E) O) E I II O OE OOE PRISHTHAMATRA( E) SHORT( E O) U UE UU UUE VOCALIC( L LL
    R RR)))) DEVICE( CONTROL( FOUR ONE STRING THREE TWO)) DIAERESIS DIAMETER( SIGN) DIAMOND(
    OPERATOR SHAPE( WITH( A( DOT( INSIDE)))) TARGET WITH( BOTTOM( HALF( BLACK)) LEFT( HALF( BLACK))
    RIGHT( HALF( BLACK)) TOP( HALF( BLACK)))) DIE( FACE-1 FACE-2 FACE-3 FACE-4 FACE-5 FACE-6)
    DIESEL( LOCOMOTIVE) DIFFERENCE( BETWEEN) DIGIT( EIGHT( . COMMA FULL( STOP)) FIVE( . COMMA FULL(
    STOP)) FOUR( . COMMA FULL( STOP)) NINE( . COMMA FULL( STOP)) ONE( . COMMA FULL( STOP)) SEVEN( .
    COMMA FULL( STOP)) SIX( . COMMA FULL( STOP)) THREE( . COMMA FULL( STOP)) TWO( . COMMA FULL(
    STOP)) ZERO( . COMMA FULL( STOP))) DIGRAM( FOR( EARTH EARTHLY( HEAVEN HUMAN) GREATER( YANG YIN)
    HEAVENLY( EARTH) HUMAN( EARTH) LESSER( YANG YIN))) DIMENSION( ORIGIN) DINGBAT( CIRCLED(
    SANS-SERIF( DIGIT( EIGHT FIVE FOUR NINE ONE SEVEN SIX THREE TWO ZERO) NUMBER( TEN))) NEGATIVE(
    CIRCLED( DIGIT( EIGHT FIVE FOUR NINE ONE SEVEN SIX THREE TWO) NUMBER( TEN) SANS-SERIF( DIGIT(
    EIGHT FIVE FOUR NINE ONE SEVEN SIX THREE TWO ZERO) NUMBER( TEN))))) DIRECT( CURRENT( SYMBOL(
    FORM( TWO))) HIT) DISABLED( CAR) DISAPPOINTED( BUT( RELIEVED( FACE)) FACE) DISCONTINUOUS(
    UNDERLINE( SYMBOL)) DISGUISED( FACE) DITTO( MARK) DIVES( AKURU( DIGIT( EIGHT FIVE FOUR NINE ONE
    SEVEN SIX THREE TWO ZERO) DOUBLE( DANDA) END( OF( TEXT( MARK))) GAP( FILLER) INITIAL( RA)
    LETTER( A AA BA BHA CA CHA DA DDA DDHA DHA E GA GHA HA I II JA KA KHA LA LLA MA NA NGA NNA NYA O
    PA PHA RA SA SHA SSA TA THA TTA U UU VA YA YYA ZA) MEDIAL( RA YA) PREFIXED( NASAL( SIGN)) SIGN(
    ANUSVARA CANDRABINDU HALANTA NUKTA) VIRAMA VOWEL( SIGN( AA AI E I II O U UU)))) DIVIDES DIVING(
    MASK) DIVISION( SIGN SLASH TIMES) DIVORCE( SYMBOL) DIYA( LAMP) DIZZY( FACE SYMBOL) DLE DNA(
    DOUBLE( HELIX)) DO( NOT( LITTER( SYMBOL))) DOCUMENT( . WITH( PICTURE TEXT( . AND( PICTURE))))
    DODO DOES( NOT( CONTAIN( AS( MEMBER NORMAL( SUBGROUP( . OR( EQUAL))))) DIVIDE( . WITH( REVERSED(
    NEGATION( SLASH)))) FORCE PRECEDE( . OR( EQUAL)) PROVE SUCCEED( . OR( EQUAL)))) DOG( . FACE)
    DOGRA( ABBREVIATION( SIGN) LETTER( A AA AI AU BA BHA CA CHA DA DDA DDHA DHA E GA GHA HA I II JA
    JHA KA KHA LA MA NA NGA NNA NYA O PA PHA RA RRA SA SHA SSA TA THA TTA TTHA U UU VA YA) SIGN(
    ANUSVARA NUKTA VIRAMA VISARGA) VOWEL( SIGN( AA AI AU E I II O U UU VOCALIC( R RR)))) DOLLAR(
    SIGN) DOLPHIN DOMINO( TILE( HORIZONTAL( BACK) HORIZONTAL-00-00 HORIZONTAL-00-01 HORIZONTAL-00-02
    HORIZONTAL-00-03 HORIZONTAL-00-04 HORIZONTAL-00-05 HORIZONTAL-00-06 HORIZONTAL-01-00
    HORIZONTAL-01-01 HORIZONTAL-01-02 HORIZONTAL-01-03 HORIZONTAL-01-04 HORIZONTAL-01-05
    HORIZONTAL-01-06 HORIZONTAL-02-00 HORIZONTAL-02-01 HORIZONTAL-02-02 HORIZONTAL-02-03
    HORIZONTAL-02-04 HORIZONTAL-02-05 HORIZONTAL-02-06 HORIZONTAL-03-00 HORIZONTAL-03-01
    HORIZONTAL-03-02 HORIZONTAL-03-03 HORIZONTAL-03-04 HORIZONTAL-03-05 HORIZONTAL-03-06
    HORIZONTAL-04-00 HORIZONTAL-04-01 HORIZONTAL-04-02 HORIZONTAL-04-03 HORIZONTAL-04-04
    HORIZONTAL-04-05 HORIZONTAL-04-06 HORIZONTAL-05-00 HORIZONTAL-05-01 HORIZONTAL-05-02
    HORIZONTAL-05-03 HORIZONTAL-05-04 HORIZONTAL-05-05 HORIZONTAL-05-06 HORIZONTAL-06-00
    HORIZONTAL-06-01 HORIZONTAL-06-02 HORIZONTAL-06-03 HORIZONTAL-06-04 HORIZONTAL-06-05
    HORIZONTAL-06-06 VERTICAL( BACK) VERTICAL-00-00 VERTICAL-00-01 VERTICAL-00-02 VERTICAL-00-03
    VERTICAL-00-04 VERTICAL-00-05 VERTICAL-00-06 VERTICAL-01-00 VERTICAL-01-01 VERTICAL-01-02
    VERTICAL-01-03 VERTICAL-01-04 VERTICAL-01-05 VERTICAL-01-06 VERTICAL-02-00 VERTICAL-02-01
    VERTICAL-02-02 VERTICAL-02-03 VERTICAL-02-04 VERTICAL-02-05 VERTICAL-02-06 VERTICAL-03-00
    VERTICAL-03-01 VERTICAL-03-02 VERTICAL-03-03 VERTICAL-03-04 VERTICAL-03-05 VERTICAL-03-06
    VERTICAL-04-00 VERTICAL-04-01 VERTICAL-04-02 VERTICAL-04-03 VERTICAL-04-04 VERTICAL-04-05
    VERTICAL-04-06 VERTICAL-05-00 VERTICAL-05-01 VERTICAL-05-02 VERTICAL-05-03 VERTICAL-05-04
    VERTICAL-05-05 VERTICAL-05-06 VERTICAL-06-00 VERTICAL-06-01 VERTICAL-06-02 VERTICAL-06-03
    VERTICAL-06-04 VERTICAL-06-05 VERTICAL-06-06)) DONG( SIGN) DOOR DOT( ABOVE MINUS OPERATOR PLUS)
    DOTTED( CIRCLE CROSS FENCE LINE( FACE) OBELOS RIGHT-POINTING( ANGLE) SOLIDUS SQUARE
    TRANSPOSITION( MARKER)) DOUBLE( ACUTE( ACCENT) CIRCLED( DIGIT( EIGHT FIVE FOUR NINE ONE SEVEN
    SIX THREE TWO) NUMBER( TEN)) COLON( EQUAL) CURLY( LOOP) DAGGER DOWN( TACK) EXCLAMATION( MARK)
    HIGH-REVERSED-9( QUOTATION( MARK)) HYPHEN INTEGRAL INTERSECTION LEFT( ARC( GREATER-THAN(
    BRACKET))) LOGICAL( AND OR) LOW( LINE) LOW-9( QUOTATION( MARK)) LOW-REVERSED-9( QUOTATION(
    MARK)) NESTED( GREATER-THAN LESS-THAN( . WITH( UNDERBAR))) OBLIQUE( HYPHEN) PLUS PRECEDES PRIME(
    . QUOTATION( MARK)) QUESTION( MARK) RIGHT( ARC( LESS-THAN( BRACKET))) SOLIDUS( OPERATOR) SQUARE(
    INTERSECTION UNION) STACKED( COMMA) STROKE( NOT( SIGN)) SUBSET SUCCEEDS SUPERSET SUSPENSION(
    MARK) UNION UP( TACK) VERTICAL( BAR( . DOUBLE( LEFT( TURNSTILE) RIGHT( TURNSTILE)) LEFT(
    TURNSTILE)) LINE) WAVY( OVERLINE)) DOUBLE-ENDED( MULTIMAP) DOUBLE-LINE( EQUAL( TO( OR(
    GREATER-THAN LESS-THAN))) SLANTED( EQUAL( TO( OR( GREATER-THAN LESS-THAN))) GREATER-THAN( OR(
    EQUAL( TO))) LESS-THAN( OR( EQUAL( TO))))) DOUBLE-STRUCK( CAPITAL( C GAMMA H N P PI Q R Z)
    ITALIC( CAPITAL( D) SMALL( D E I J)) N-ARY( SUMMATION) SMALL( GAMMA PI)) DOUBLED( FEMALE( SIGN)
    MALE( SIGN) SYMBOL) DOUGHNUT DOVE( OF( PEACE)) DOWN( ARROWHEAD FISH( TAIL) RIGHT( DIAGONAL(
    ELLIPSIS)) TACK( . WITH( CIRCLE( BELOW)))) DOWN-POINTING( RED( TRIANGLE) SMALL( RED( TRIANGLE))
    TRIANGLE( WITH( LEFT( HALF( BLACK)) RIGHT( HALF( BLACK))))) DOWNWARD( FACING( HOOK( . WITH(
    DOT)) NOTCHED( HOOK( . WITH( DOT))))) DOWNWARDS( ANCORA ARROW( . AND( RIGHT( ONE( EIGHTH(
    BLOCK)))) FROM( BAR) LEFTWARDS( OF( UPWARDS( ARROW))) TO( BAR) WITH( CORNER( LEFTWARDS) DOUBLE(
    STROKE) EQUILATERAL( ARROWHEAD) HORIZONTAL( STROKE) LARGE( TRIANGLE( ARROWHEAD)) MEDIUM(
    TRIANGLE( ARROWHEAD)) NOTCHED( TAIL) SMALL( EQUILATERAL( ARROWHEAD) TRIANGLE( ARROWHEAD)) TIP(
    LEFTWARDS RIGHTWARDS))) BLACK( ARROW CIRCLED( WHITE( ARROW))) COMPRESSED( ARROW) DASHED( ARROW)
    DOUBLE( ARROW) FINGER-POST( ARROW) HARPOON( WITH( BARB( LEFT( BESIDE( DOWNWARDS( HARPOON( WITH(
    BARB( RIGHT)))) UPWARDS( HARPOON( WITH( BARB( RIGHT))))) FROM( BAR) TO( BAR)) LEFTWARDS RIGHT(
    FROM( BAR) TO( BAR)) RIGHTWARDS))) HEAVY( ARROW COMPRESSED( ARROW)) PAIRED( ARROWS) QUADRUPLE(
    ARROW) ROCKET SANS-SERIF( ARROW) SQUARED( ARROW) TRIANGLE( ARROWHEAD) TRIANGLE-HEADED( ARROW( .
    LEFTWARDS( OF( UPWARDS( TRIANGLE-HEADED( ARROW)))) TO( BAR) WITH( BOLD( SHAFT) DOUBLE(
    HORIZONTAL( STROKE)) HEAVY( SHAFT) LONG( TIP( LEFTWARDS RIGHTWARDS)) MEDIUM( SHAFT) NARROW(
    SHAFT) VERY( HEAVY( SHAFT)))) DASHED( ARROW) PAIRED( ARROWS) ZIGZAG( ARROW)) TRIPLE( ARROW) TWO(
    HEADED( ARROW)) TWO-HEADED( ARROW( WITH( TRIANGLE( ARROWHEADS)))) WHITE( ARROW( . WITHIN(
    TRIANGLE( ARROWHEAD)))) ZIGZAG( ARROW)) DRACHMA( SIGN) DRAFTING( POINT( RIGHTWARDS( ARROW)))
    DRAGON( . FACE) DRESS DRIVE( SLOW( SIGN)) DROMEDARY( CAMEL) DROOLING( FACE) DROP( OF( BLOOD))
    DROPLET DRUM( WITH( DRUMSTICKS)) DUCK DUMPLING DUPLOYAN( AFFIX( ATTACHED( E( HOOK) I( HOOK)
    LEFT-TO-RIGHT( SECANT) SECANT TAIL TANGENT( . HOOK)) HIGH( ACUTE CIRCLE DOT GRAVE LINE LONG(
    GRAVE) TIGHT( ACUTE) VERTICAL( . SECANT) WAVE) LEFT( HORIZONTAL( SECANT)) LOW( ACUTE ARROW
    CIRCLE DOT GRAVE LINE LONG( GRAVE) TIGHT( ACUTE) VERTICAL( . SECANT) WAVE) MID( HORIZONTAL(
    SECANT) VERTICAL( SECANT)) RIGHT( HORIZONTAL( SECANT))) DOUBLE( MARK) LETTER( A AOU B D( . S) DH
    E EE EU F( . N) G( . R( S)) H HL I IE J( . M( . S) N( . S) S( . WITH( DOT)) WITH( DOT DOTS(
    INSIDE( AND( ABOVE))))) K( . M R( S)) KK L LH LONG( I U) M( . N( . S) S WITH( DOT)) N( . M( . S)
    S WITH( DOT)) NASAL( A I O U) O OA OOH OU OW P( . N) PERNIN( AM AN) R( . S) RH ROMANIAN( I U) S(
    . J( . S) K( . R) M N P( . R) S T( . R) WITH( DOT( . BELOW))) SHORT( I) SLOAN( AN DH EE EH EN J
    ON OW U) T( . R( S) S) TH U( . N) UH UI V VOCALIC( M) W( . R) WA WEI WH WI WO WOW X XW YE)
    PUNCTUATION( CHINOOK( FULL( STOP))) SIGN( O( WITH( CROSS))) THICK( LETTER( SELECTOR))) DVD
    E-MAIL( SYMBOL) EAGLE EAR( . OF( MAIZE RICE) WITH( HEARING( AID))) EARTH( . GLOBE( AMERICAS
    ASIA-AUSTRALIA EUROPE-AFRICA) GROUND) EAST( SYRIAC( CROSS)) EDITORIAL( CORONIS) EGG EGYPTIAN(
    HIEROGLYPH( A001 A002 A003 A004 A005 A005A A006 A006A A006B A007 A008 A009 A010 A011 A012 A013
    A014 A014A A015 A016 A017 A017A A018 A019 A020 A021 A022 A023 A024 A025 A026 A027 A028 A029 A030
    A031 A032 A032A A033 A034 A035 A036 A037 A038 A039 A040 A040A A041 A042 A042A A043 A043A A044
    A045 A045A A046 A047 A048 A049 A050 A051 A052 A053 A054 A055 A056 A057 A058 A059 A060 A061 A062
    A063 A064 A065 A066 A067 A068 A069 A070 AA001 AA002 AA003 AA004 AA005 AA006 AA007 AA007A AA007B
    AA008 AA009 AA010 AA011 AA012 AA013 AA014 AA015 AA016 AA017 AA018 AA019 AA020 AA021 AA022 AA023
    AA024 AA025 AA026 AA027 AA028 AA029 AA030 AA031 AA032 B001 B002 B003 B004 B005 B005A B006 B007
    B008 B009 BEGIN( SEGMENT) C001 C002 C002A C002B C002C C003 C004 C005 C006 C007 C008 C009 C010
    C010A C011 C012 C013 C014 C015 C016 C017 C018 C019 C020 C021 C022 C023 C024 D001 D002 D003 D004
    D005 D006 D007 D008 D008A D009 D010 D011 D012 D013 D014 D015 D016 D017 D018 D019 D020 D021 D022
    D023 D024 D025 D026 D027 D027A D028 D029 D030 D031 D031A D032 D033 D034 D034A D035 D036 D037
    D038 D039 D040 D041 D042 D043 D044 D045 D046 D046A D047 D048 D048A D049 D050 D050A D050B D050C
    D050D D050E D050F D050G D050H D050I D051 D052 D052A D053 D054 D054A D055 D056 D057 D058 D059
    D060 D061 D062 D063 D064 D065 D066 D067 D067A D067B D067C D067D D067E D067F D067G D067H E001
    E002 E003 E004 E005 E006 E007 E008 E008A E009 E009A E010 E011 E012 E013 E014 E015 E016 E016A
    E017 E017A E018 E019 E020 E020A E021 E022 E023 E024 E025 E026 E027 E028 E028A E029 E030 E031
    E032 E033 E034 E034A E036 E037 E038 END( SEGMENT) F001 F001A F002 F003 F004 F005 F006 F007 F008
    F009 F010 F011 F012 F013 F013A F014 F015 F016 F017 F018 F019 F020 F021 F021A F022 F023 F024 F025
    F026 F027 F028 F029 F030 F031 F031A F032 F033 F034 F035 F036 F037 F037A F038 F038A F039 F040
    F041 F042 F043 F044 F045 F045A F046 F046A F047 F047A F048 F049 F050 F051 F051A F051B F051C F052
    F053 G001 G002 G003 G004 G005 G006 G006A G007 G007A G007B G008 G009 G010 G011 G011A G012 G013
    G014 G015 G016 G017 G018 G019 G020 G020A G021 G022 G023 G024 G025 G026 G026A G027 G028 G029 G030
    G031 G032 G033 G034 G035 G036 G036A G037 G037A G038 G039 G040 G041 G042 G043 G043A G044 G045
    G045A G046 G047 G048 G049 G050 G051 G052 G053 G054 H001 H002 H003 H004 H005 H006 H006A H007 H008
    HORIZONTAL( JOINER) I001 I002 I003 I004 I005 I005A I006 I007 I008 I009 I009A I010 I010A I011
    I011A I012 I013 I014 I015 INSERT( AT( BOTTOM( END START) TOP( END START))) K001 K002 K003 K004
    K005 K006 K007 K008 L001 L002 L002A L003 L004 L005 L006 L006A L007 L008 M001 M001A M001B M002
    M003 M003A M004 M005 M006 M007 M008 M009 M010 M010A M011 M012 M012A M012B M012C M012D M012E
    M012F M012G M012H M013 M014 M015 M015A M016 M016A M017 M017A M018 M019 M020 M021 M022 M022A M023
    M024 M024A M025 M026 M027 M028 M028A M029 M030 M031 M031A M032 M033 M033A M033B M034 M035 M036
    M037 M038 M039 M040 M040A M041 M042 M043 M044 N001 N002 N003 N004 N005 N006 N007 N008 N009 N010
    N011 N012 N013 N014 N015 N016 N017 N018 N018A N018B N019 N020 N021 N022 N023 N024 N025 N025A
    N026 N027 N028 N029 N030 N031 N032 N033 N033A N034 N034A N035 N035A N036 N037 N037A N038 N039
    N040 N041 N042 NL001 NL002 NL003 NL004 NL005 NL005A NL006 NL007 NL008 NL009 NL010 NL011 NL012
    NL013 NL014 NL015 NL016 NL017 NL017A NL018 NL019 NL020 NU001 NU002 NU003 NU004 NU005 NU006 NU007
    NU008 NU009 NU010 NU010A NU011 NU011A NU012 NU013 NU014 NU015 NU016 NU017 NU018 NU018A NU019
    NU020 NU021 NU022 NU022A O001 O001A O002 O003 O004 O005 O005A O006 O006A O006B O006C O006D O006E
    O006F O007 O008 O009 O010 O010A O010B O010C O011 O012 O013 O014 O015 O016 O017 O018 O019 O019A
    O020 O020A O021 O022 O023 O024 O024A O025 O025A O026 O027 O028 O029 O029A O030 O030A O031 O032
    O033 O033A O034 O035 O036 O036A O036B O036C O036D O037 O038 O039 O040 O041 O042 O043 O044 O045
    O046 O047 O048 O049 O050 O050A O050B O051 OVERLAY( MIDDLE) P001 P001A P002 P003 P003A P004 P005
    P006 P007 P008 P009 P010 P011 Q001 Q002 Q003 Q004 Q005 Q006 Q007 R001 R002 R002A R003 R003A
    R003B R004 R005 R006 R007 R008 R009 R010 R010A R011 R012 R013 R014 R015 R016 R016A R017 R018
    R019 R020 R021 R022 R023 R024 R025 R026 R027 R028 R029 S001 S002 S002A S003 S004 S005 S006 S006A
    S007 S008 S009 S010 S011 S012 S013 S014 S014A S014B S015 S016 S017 S017A S018 S019 S020 S021
    S022 S023 S024 S025 S026 S026A S026B S027 S028 S029 S030 S031 S032 S033 S034 S035 S035A S036
    S037 S038 S039 S040 S041 S042 S043 S044 S045 S046 T001 T002 T003 T003A T004 T005 T006 T007 T007A
    T008 T008A T009 T009A T010 T011 T011A T012 T013 T014 T015 T016 T016A T017 T018 T019 T020 T021
    T022 T023 T024 T025 T026 T027 T028 T029 T030 T031 T032 T032A T033 T033A T034 T035 T036 U001 U002
    U003 U004 U005 U006 U006A U006B U007 U008 U009 U010 U011 U012 U013 U014 U015 U016 U017 U018 U019
    U020 U021 U022 U023 U023A U024 U025 U026 U027 U028 U029 U029A U030 U031 U032 U032A U033 U034
    U035 U036 U037 U038 U039 U040 U041 U042 V001 V001A V001B V001C V001D V001E V001F V001G V001H
    V001I V002 V002A V003 V004 V005 V006 V007 V007A V007B V008 V009 V010 V011 V011A V011B V011C V012
    V012A V012B V013 V014 V015 V016 V017 V018 V019 V020 V020A V020B V020C V020D V020E V020F V020G
    V020H V020I V020J V020K V020L V021 V022 V023 V023A V024 V025 V026 V027 V028 V028A V029 V029A
    V030 V030A V031 V031A V032 V033 V033A V034 V035 V036 V037 V037A V038 V039 V040 V040A VERTICAL(
    JOINER) W001 W002 W003 W003A W004 W005 W006 W007 W008 W009 W009A W010 W010A W011 W012 W013 W014
    W014A W015 W016 W017 W017A W018 W018A W019 W020 W021 W022 W023 W024 W024A W025 X001 X002 X003
    X004 X004A X004B X005 X006 X006A X007 X008 X008A Y001 Y001A Y002 Y003 Y004 Y005 Y006 Y007 Y008
    Z001 Z002 Z002A Z002B Z002C Z002D Z003 Z003A Z003B Z004 Z004A Z005 Z005A Z006 Z007 Z008 Z009
    Z010 Z011 Z012 Z013 Z014 Z015 Z015A Z015B Z015C Z015D Z015E Z015F Z015G Z015H Z015I Z016 Z016A
    Z016B Z016C Z016D Z016E Z016F Z016G Z016H)) EIGHT( PETALLED( OUTLINED( BLACK( FLORETTE)))
    POINTED( BLACK( STAR) PINWHEEL( STAR) RECTILINEAR( BLACK( STAR))) SPOKED( ASTERISK)
    TEARDROP-SPOKED( PROPELLER( ASTERISK))) EIGHTH( NOTE) EJECT( SYMBOL) ELBASAN( LETTER( A BE CE
    CHE DE DHE E EI FE GE GHAMMA GHE GJE HE I JE KE KHE LE LLE ME NA NDE NE NJE O PE QE RE RRE SE
    SHE TE THE U VE XE Y ZE ZHE)) ELECTRIC( ARROW LIGHT( BULB) PLUG TORCH) ELECTRICAL( INTERSECTION)
    ELEMENT( OF( . OPENING( DOWNWARDS UPWARDS) WITH( DOT( ABOVE) LONG( HORIZONTAL( STROKE)) OVERBAR
    TWO( HORIZONTAL( STROKES)) UNDERBAR VERTICAL( BAR( AT( END( OF( HORIZONTAL( STROKE)))))))))
    ELEPHANT ELEVATOR ELF ELYMAIC( LETTER( ALEPH AYIN BETH DALETH GIMEL HE HETH KAPH LAMEDH MEM NUN
    PE QOPH RESH SADHE SAMEKH SHIN TAW TETH WAW YODH ZAYIN) LIGATURE( ZAYIN-YODH)) EM( DASH QUAD
    SPACE) EMOJI( COMPONENT( BALD CURLY( HAIR) RED( HAIR) WHITE( HAIR)) MODIFIER( FITZPATRICK(
    TYPE-1-2 TYPE-3 TYPE-4 TYPE-5 TYPE-6))) EMPHASIS( SYMBOL) EMPTY( DOCUMENT NEST NOTE( . PAD PAGE)
    PAGE PAGES SET( . WITH( LEFT( ARROW( ABOVE)) OVERBAR RIGHT( ARROW( ABOVE)) SMALL( CIRCLE(
    ABOVE))))) EN( DASH QUAD SPACE) END( OF( GUARDED( AREA) LINE MEDIUM PROOF PROTECTED( AREA)
    SELECTED( AREA) TEXT TRANSMISSION( . BLOCK)) WITH( LEFTWARDS( ARROW( ABOVE)))) ENQ ENQUIRY
    ENTER( SYMBOL) ENVELOPE( . WITH( DOWNWARDS( ARROW( ABOVE)) LIGHTNING)) EOL EOM EOT EPA EQUAL(
    AND( PARALLEL( TO)) TO( BY( DEFINITION) OR( GREATER-THAN LESS-THAN PRECEDES SUCCEEDS))) EQUALS(
    COLON SIGN( . ABOVE( LEFTWARDS( ARROW) PLUS( SIGN) RIGHTWARDS( ARROW) TILDE( OPERATOR)) AND(
    SLANTED( PARALLEL( . WITH( TILDE( ABOVE))))) WITH( BUMPY( ABOVE) DOT( BELOW) INFINITY( BELOW)
    TWO( DOTS( ABOVE( AND( TWO( DOTS( BELOW)))))))) WITH( ASTERISK)) EQUIANGULAR( TO) EQUIVALENT( TO
    WITH( FOUR( DOTS( ABOVE)))) ERASE( TO( THE( LEFT RIGHT))) ERIS( FORM( ONE TWO)) ERROR-BARRED(
    BLACK( CIRCLE DIAMOND SQUARE) WHITE( CIRCLE DIAMOND SQUARE)) ESA ESC ESCAPE ESTIMATED( SYMBOL)
    ESTIMATES ETB ETHIOPIC( COLON COMBINING( GEMINATION( AND( VOWEL( LENGTH( MARK))) MARK) VOWEL(
    LENGTH( MARK))) COMMA DIGIT( EIGHT FIVE FOUR NINE ONE SEVEN SIX THREE TWO) FULL( STOP) NUMBER(
    EIGHTY FIFTY FORTY HUNDRED NINETY SEVENTY SIXTY TEN( . THOUSAND) THIRTY TWENTY) PARAGRAPH(
    SEPARATOR) PREFACE( COLON) QUESTION( MARK) SECTION( MARK) SEMICOLON SYLLABLE( BA BAA BBA BBAA
    BBE BBEE BBI BBO BBU BE BEE BI BO BOA BU BWA BWE BWEE BWI CA CAA CCA CCAA CCE CCEE CCHA CCHAA
    CCHE CCHEE CCHHA CCHHAA CCHHE CCHHEE CCHHI CCHHO CCHHU CCHI CCHO CCHU CCI CCO CCU CE CEE CHA
    CHAA CHE CHEE CHI CHO CHOA CHU CHWA CI CO COA CU CWA DA DAA DDA DDAA DDE DDEE DDHAA DDHE DDHEE
    DDHI DDHO DDHU DDI DDO DDOA DDU DDWA DE DEE DI DO DOA DU DWA DZAA DZE DZEE DZI DZO DZU FA FAA FE
    FEE FI FO FU FWA FWE FWEE FWI FYA GA GAA GE GEE GGA GGAA GGE GGEE GGI GGO GGU GGWA GGWAA GGWE
    GGWEE GGWI GI GLOTTAL( A AA E EE I O OA U WA) GO GOA GU GURAGE( BWEE BWI FWEE FWI GWE GWEE GWI
    HHWA KWE KWEE KWI MWEE MWI PWEE PWI QWE QWEE QWI) GWA GWAA GWE GWEE GWI GYA GYAA GYE GYEE GYI
    GYO GYU HA HAA HE HEE HHA HHAA HHE HHEE HHI HHO HHU HHWA HHWE HHWEE HHWI HHYA HHYAA HHYE HHYEE
    HHYI HHYO HHYU HI HO HOA HU JA JAA JE JEE JI JO JOA JU JWA KA KAA KE KEE KI KO KOA KU KWA KWAA
    KWE KWEE KWI KXA KXAA KXE KXEE KXI KXO KXU KXWA KXWAA KXWE KXWEE KXWI KYA KYAA KYE KYEE KYI KYO
    KYU LA LAA LE LEE LI LO LOA LU LWA MA MAA ME MEE MI MO MOA MU MWA MWE MWEE MWI MYA NA NAA NE NEE
    NI NO NOA NU NWA NYA NYAA NYE NYEE NYI NYO NYOA NYU NYWA PA PAA PE PEE PHA PHAA PHARYNGEAL( A AA
    E EE I O U) PHE PHEE PHI PHO PHOA PHU PHWA PI PO POA PU PWA PWE PWEE PWI QA QAA QE QEE QHA QHAA
    QHE QHEE QHI QHO QHU QHWA QHWAA QHWE QHWEE QHWI QI QO QOA QU QWA QWAA QWE QWEE QWI QYA QYAA QYE
    QYEE QYI QYO QYU RA RAA RE REE RI RO ROA RU RWA RYA SA SAA SE SEBATBEIT( BWA FWA MWA PWA) SEE
    SHA SHAA SHE SHEE SHI SHO SHOA SHU SHWA SI SO SOA SSA SSAA SSE SSEE SSI SSO SSU SU SWA SZA SZAA
    SZE SZEE SZI SZO SZU SZWA TA TAA TE TEE THA THAA THE THEE THI THO THOA THU THWA TI TO TOA TSA
    TSAA TSE TSEE TSI TSO TSU TSWA TTHAA TTHE TTHEE TTHI TTHO TTHU TU TWA TZA TZAA TZE TZEE TZI TZO
    TZOA TZU VA VAA VE VEE VI VO VU VWA WA WAA WE WEE WI WO WOA WU XA XAA XE XEE XI XO XOA XU XWA
    XWAA XWE XWEE XWI XYA XYAA XYE XYEE XYI XYO XYU YA YAA YE YEE YI YO YOA YU ZA ZAA ZE ZEE ZHA
    ZHAA ZHE ZHEE ZHI ZHO ZHU ZHWA ZI ZO ZOA ZU ZWA ZZA ZZAA ZZE ZZEE ZZI ZZO ZZU) TONAL( MARK(
    CHIRET DERET DERET-HIDET DIFAT HIDET KENAT KURT RIKRIK SHORT( RIKRIK) YIZET)) WORDSPACE) ETX
    EULER( CONSTANT) EURO( SIGN) EURO-CURRENCY( SIGN) EUROPEAN( CASTLE POST( OFFICE)) EVERGREEN(
    TREE) EXCESS EXCLAMATION( MARK QUESTION( MARK)) EXPRESSIONLESS( FACE) EXTENDED( ARABIC-INDIC(
    DIGIT( EIGHT FIVE FOUR NINE ONE SEVEN SIX THREE TWO ZERO))) EXTRATERRESTRIAL( ALIEN) EXTREMELY(
    HEAVY( FIVE( SPOKED( ASTERISK)) GREEK( CROSS) SALTIRE SIX( SPOKED( ASTERISK)) WHITE( CIRCLE
    SQUARE))) EYE EYEGLASSES EYES FACE( HOLDING( BACK( TEARS)) MASSAGE PALM SAVOURING( DELICIOUS(
    FOOD)) SCREAMING( IN( FEAR)) THROWING( A( KISS)) WITH( COLD( SWEAT) COWBOY( HAT) DIAGONAL(
    MOUTH) FINGER( COVERING( CLOSED( LIPS))) HEAD-BANDAGE LOOK( OF( TRIUMPH)) MEDICAL( MASK) MONOCLE
    NO( GOOD( GESTURE)) OK( GESTURE) ONE( EYEBROW( RAISED)) OPEN( EYES( AND( HAND( OVER( MOUTH))))
    MOUTH( . AND( COLD( SWEAT)) VOMITING)) PARTY( HORN( AND( PARTY( HAT)))) PEEKING( EYE) PLEADING(
    EYES) ROLLING( EYES) STUCK-OUT( TONGUE( . AND( TIGHTLY-CLOSED( EYES) WINKING( EYE)))) TEARS( OF(
    JOY)) THERMOMETER UNEVEN( EYES( AND( WAVY( MOUTH))))) WITHOUT( MOUTH)) FACSIMILE( SIGN) FACTORY
    FAIRY FALAFEL FALLEN( LEAF) FALLING( DIAGONAL( CROSSING( NORTH( EAST( ARROW)) RISING( DIAGONAL))
    IN( WHITE( CIRCLE( IN( BLACK( SQUARE))))))) FAMILY FARSI( SYMBOL) FATHER( CHRISTMAS) FAX( ICON
    MACHINE) FEARFUL( FACE) FEATHER FEMALE( SIGN) FEMININE( ORDINAL( INDICATOR)) FENCER FERRIS(
    WHEEL) FERRY FF FIELD( HOCKEY( STICK( AND( BALL)))) FIGURE( DASH SPACE) FILE( CABINET FOLDER
    SEPARATOR) FILM( FRAMES PROJECTOR) FINITE( PART( INTEGRAL)) FIRE( . ENGINE EXTINGUISHER)
    FIRECRACKER FIREWORK( SPARKLER) FIREWORKS FIRST( PLACE( MEDAL) QUARTER( MOON( . SYMBOL WITH(
    FACE))) STRONG( ISOLATE)) FISH( . CAKE( WITH( SWIRL( DESIGN)))) FISHEYE FISHING( POLE( AND(
    FISH))) FISTED( HAND( SIGN)) FIVE( DOT( MARK PUNCTUATION)) FLAG( IN( HOLE)) FLAMINGO FLAT( SHOE)
    FLATBREAD FLATNESS FLEUR-DE-LIS FLEXED( BICEPS) FLOPPY( DISK) FLORAL( HEART) FLOWER( . PLAYING(
    CARDS) PUNCTUATION( MARK)) FLUSHED( FACE) FLY FLYING( DISC ENVELOPE SAUCER) FOG FOGGY FOLDER
    FONDUE FOOT FOOTPRINTS FOR( ALL) FORCES FORK( AND( KNIFE( . WITH( PLATE)))) FORKED( PARAGRAPHOS)
    FORKING FORM( FEED) FORTUNE( COOKIE) FOUNTAIN FOUR( BALLOON-SPOKED( ASTERISK) CLUB-SPOKED(
    ASTERISK) CORNER( ARROWS( CIRCLING( ANTICLOCKWISE))) DOT( MARK PUNCTUATION) LEAF( CLOVER)
    POINTED( BLACK( STAR)) TEARDROP-SPOKED( ASTERISK)) FOUR-PER-EM( SPACE) FOURTH( ROOT) FOX( FACE)
    FRACTION( NUMERATOR( ONE) SLASH) FRAME( WITH( AN( X) PICTURE TILES)) FREEZING( FACE) FRENCH(
    FRANC( SIGN) FRIES) FRIED( SHRIMP) FROG( FACE) FRONT-FACING( BABY( CHICK)) FRONT-TILTED(
    SHADOWED( WHITE( RIGHTWARDS( ARROW)))) FROWN FROWNING( FACE( WITH( OPEN( MOUTH)))) FS FSI FUEL(
    PUMP) FULL( BLOCK MOON( SYMBOL WITH( FACE)) OUTER( JOIN) STOP) FULLWIDTH( AMPERSAND APOSTROPHE
    ASTERISK BROKEN( BAR) CENT( SIGN) CIRCUMFLEX( ACCENT) COLON COMMA COMMERCIAL( AT) DIGIT( EIGHT
    FIVE FOUR NINE ONE SEVEN SIX THREE TWO ZERO) DOLLAR( SIGN) EQUALS( SIGN) EXCLAMATION( MARK)
    FULL( STOP) GRAVE( ACCENT) GREATER-THAN( SIGN) HYPHEN-MINUS LATIN( CAPITAL( LETTER( A B C D E F
    G H I J K L M N O P Q R S T U V W X Y Z)) SMALL( LETTER( A B C D E F G H I J K L M N O P Q R S T
    U V W X Y Z))) LEFT( CURLY( BRACKET) PARENTHESIS SQUARE( BRACKET) WHITE( PARENTHESIS))
    LESS-THAN( SIGN) LOW( LINE) MACRON NOT( SIGN) NUMBER( SIGN) PERCENT( SIGN) PLUS( SIGN) POUND(
    SIGN) QUESTION( MARK) QUOTATION( MARK) REVERSE( SOLIDUS) RIGHT( CURLY( BRACKET) PARENTHESIS
    SQUARE( BRACKET) WHITE( PARENTHESIS)) SEMICOLON SOLIDUS TILDE VERTICAL( LINE) WON( SIGN) YEN(
    SIGN)) FUNCTION( APPLICATION) FUNERAL( URN) FUSE FVS1 FVS2 FVS3 FVS4 GAME( DIE) GARLIC GEAR( .
    WITH( HANDLES) WITHOUT( HUB)) GEM( STONE) GEMINI GENIE GEOMETRIC( PROPORTION) GEOMETRICALLY(
    EQUAL( TO) EQUIVALENT( TO)) GEORGIAN( CAPITAL( LETTER( AEN AN BAN CAN CHAR CHIN CIL DON EN GAN
    GHAN HAE HAR HE HIE HOE IN JHAN JIL KAN KHAR LAS MAN NAR ON PAR PHAR QAR RAE SAN SHIN TAN TAR UN
    VIN WE XAN YN ZEN ZHAR)) LETTER( AEN AIN AN BAN CAN CHAR CHIN CIL DON ELIFI EN FI GAN GHAN HAE
    HAR HARD( SIGN) HE HIE HOE IN JHAN JIL KAN KHAR LABIAL( SIGN) LAS MAN NAR ON PAR PHAR QAR RAE
    SAN SHIN TAN TAR TURNED( GAN) UN VIN WE XAN YN ZEN ZHAR) MTAVRULI( CAPITAL( LETTER( AEN AIN AN
    BAN CAN CHAR CHIN CIL DON ELIFI EN FI GAN GHAN HAE HAR HARD( SIGN) HE HIE HOE IN JHAN JIL KAN
    KHAR LABIAL( SIGN) LAS MAN NAR ON PAR PHAR QAR RAE SAN SHIN TAN TAR TURNED( GAN) UN VIN WE XAN
    YN ZEN ZHAR))) PARAGRAPH( SEPARATOR) SMALL( LETTER( AEN AN BAN CAN CHAR CHIN CIL DON EN GAN GHAN
    HAE HAR HE HIE HOE IN JHAN JIL KAN KHAR LAS MAN NAR ON PAR PHAR QAR RAE SAN SHIN TAN TAR UN VIN
    WE XAN YN ZEN ZHAR))) GERMAN( PENNY( SIGN)) GETA( MARK) GHOST GIMEL( SYMBOL) GIRAFFE( FACE) GIRL
    GIRLS( SYMBOL) GLAGOLITIC( CAPITAL( LETTER( AZU BIG( YUS) BUKY CAUDATE( CHRIVI) CHRIVI DJERVI
    DOBRO DZELO FITA FRITU GLAGOLI HERU I INITIAL( IZHE) IOTATED( BIG( YUS) SMALL( YUS)) IZHE
    IZHITSA KAKO LATINATE( MYSLITE) LJUDIJE MYSLITE NASHI ONU OTU PE POKOJI RITSI SHA SHTA SHTAPIC
    SLOVO SMALL( YUS( . WITH( TAIL))) SPIDERY( HA) TROKUTASTI( A) TSI TVRIDO UKU VEDE YATI YERI YERU
    YESTU YO YU ZEMLJA ZHIVETE)) SMALL( LETTER( AZU BIG( YUS) BUKY CAUDATE( CHRIVI) CHRIVI DJERVI
    DOBRO DZELO FITA FRITU GLAGOLI HERU I INITIAL( IZHE) IOTATED( BIG( YUS) SMALL( YUS)) IZHE
    IZHITSA KAKO LATINATE( MYSLITE) LJUDIJE MYSLITE NASHI ONU OTU PE POKOJI RITSI SHA SHTA SHTAPIC
    SLOVO SMALL( YUS( . WITH( TAIL))) SPIDERY( HA) TROKUTASTI( A) TSI TVRIDO UKU VEDE YATI YERI YERU
    YESTU YO YU ZEMLJA ZHIVETE))) GLASS( OF( MILK)) GLEICH( STARK) GLOBE( WITH( MERIDIANS)) GLOVES
    GLOWING( STAR) GOAL( NET) GOAT GOGGLES GOLFER GORILLA GOTHIC( LETTER( AHSA AIHVUS BAIRKAN DAGS
    EIS FAIHU GIBA HAGL HWAIR IGGWS IUJA JER KUSMA LAGUS MANNA NAUTHS NINE( HUNDRED) NINETY OTHAL
    PAIRTHRA QAIRTHRA RAIDA SAUIL TEIWS THIUTH URUS WINJA)) GRADUATION( CAP) GRANTHA( AU( LENGTH(
    MARK)) LETTER( A AA AI AU BA BHA CA CHA DA DDA DDHA DHA EE GA GHA HA I II JA JHA KA KHA LA LLA
    MA NA NGA NNA NYA OO PA PHA RA SA SHA SSA TA THA TTA TTHA U UU VA VEDIC( ANUSVARA DOUBLE(
    ANUSVARA)) VOCALIC( L LL R RR) YA) OM SIGN( ANUSVARA AVAGRAHA CANDRABINDU COMBINING( ANUSVARA(
    ABOVE)) NUKTA PLUTA VIRAMA VISARGA) VOWEL( SIGN( AA AI AU EE I II OO U UU VOCALIC( L LL R RR))))
    GRAPES GRAVE( ACCENT) GREATER-THAN( ABOVE( DOUBLE-LINE( EQUAL( ABOVE( LESS-THAN))) LESS-THAN(
    ABOVE( DOUBLE-LINE( EQUAL))) RIGHTWARDS( ARROW) SIMILAR( ABOVE( LESS-THAN) OR( EQUAL)) SLANTED(
    EQUAL( ABOVE( LESS-THAN( ABOVE( SLANTED( EQUAL))))))) AND( NOT( APPROXIMATE) SINGLE-LINE( NOT(
    EQUAL( TO)))) BESIDE( LESS-THAN) BUT( NOT( EQUAL( TO) EQUIVALENT( TO))) CLOSED( BY( CURVE( .
    ABOVE( SLANTED( EQUAL))))) EQUAL( TO( OR( LESS-THAN))) OR( APPROXIMATE EQUAL( TO) EQUIVALENT(
    TO) LESS-THAN SLANTED( EQUAL( TO( . WITH( DOT( ABOVE( . LEFT) INSIDE)))))) OVER( EQUAL( TO))
    OVERLAPPING( LESS-THAN) SIGN WITH( CIRCLE( INSIDE) DOT QUESTION( MARK( ABOVE)))) GREEK(
    ACROPHONIC( ATTIC( FIFTY( . STATERS TALENTS THOUSAND( . STATERS)) FIVE( . HUNDRED( . STATERS
    TALENTS) STATERS TALENTS THOUSAND( . TALENTS)) ONE( DRACHMA HALF HUNDRED( STATERS TALENTS)
    QUARTER THOUSAND( STATERS TALENTS)) TEN( MNAS STATERS TALENTS THOUSAND( STATERS))) CARYSTIAN(
    FIVE( HUNDRED)) CYRENAIC( TWO( DRACHMAS)) DELPHIC( FIVE( MNAS)) EPIDAUREAN( FIVE( HUNDRED) TWO(
    . DRACHMAS)) HERAEUM( ONE( PLETHRON)) HERMIONIAN( FIFTY ONE TEN) MESSENIAN( TEN) NAXIAN( FIVE(
    HUNDRED)) STRATIAN( FIFTY( MNAS)) THESPIAN( FIFTY FIVE( HUNDRED THOUSAND) ONE( . HUNDRED
    THOUSAND) TEN THIRTY THREE( HUNDRED) TWO) TROEZENIAN( FIFTY( . ALTERNATE( FORM)) FIVE( .
    HUNDRED) TEN( . ALTERNATE( FORM)))) ANO( TELEIA) AROURA( SIGN) ARTABE( SIGN) BETA( SYMBOL)
    CAPITAL( DOTTED( LUNATE( SIGMA( SYMBOL))) KAI( SYMBOL) LETTER( ALPHA( . WITH( DASIA( . AND(
    OXIA( . AND( PROSGEGRAMMENI)) PERISPOMENI( . AND( PROSGEGRAMMENI)) PROSGEGRAMMENI VARIA( . AND(
    PROSGEGRAMMENI)))) MACRON OXIA PROSGEGRAMMENI PSILI( . AND( OXIA( . AND( PROSGEGRAMMENI))
    PERISPOMENI( . AND( PROSGEGRAMMENI)) PROSGEGRAMMENI VARIA( . AND( PROSGEGRAMMENI)))) TONOS VARIA
    VRACHY)) ARCHAIC( SAMPI) BETA CHI DELTA EPSILON( . WITH( DASIA( . AND( OXIA VARIA)) OXIA PSILI(
    . AND( OXIA VARIA)) TONOS VARIA)) ETA( . WITH( DASIA( . AND( OXIA( . AND( PROSGEGRAMMENI))
    PERISPOMENI( . AND( PROSGEGRAMMENI)) PROSGEGRAMMENI VARIA( . AND( PROSGEGRAMMENI)))) OXIA
    PROSGEGRAMMENI PSILI( . AND( OXIA( . AND( PROSGEGRAMMENI)) PERISPOMENI( . AND( PROSGEGRAMMENI))
    PROSGEGRAMMENI VARIA( . AND( PROSGEGRAMMENI)))) TONOS VARIA)) GAMMA HETA IOTA( . WITH( DASIA( .
    AND( OXIA PERISPOMENI VARIA)) DIALYTIKA MACRON OXIA PSILI( . AND( OXIA PERISPOMENI VARIA)) TONOS
    VARIA VRACHY)) KAPPA LAMDA MU NU OMEGA( . WITH( DASIA( . AND( OXIA( . AND( PROSGEGRAMMENI))
    PERISPOMENI( . AND( PROSGEGRAMMENI)) PROSGEGRAMMENI VARIA( . AND( PROSGEGRAMMENI)))) OXIA
    PROSGEGRAMMENI PSILI( . AND( OXIA( . AND( PROSGEGRAMMENI)) PERISPOMENI( . AND( PROSGEGRAMMENI))
    PROSGEGRAMMENI VARIA( . AND( PROSGEGRAMMENI)))) TONOS VARIA)) OMICRON( . WITH( DASIA( . AND(
    OXIA VARIA)) OXIA PSILI( . AND( OXIA VARIA)) TONOS VARIA)) PAMPHYLIAN( DIGAMMA) PHI PI PSI RHO(
    . WITH( DASIA)) SAN SHO SIGMA TAU THETA UPSILON( . WITH( DASIA( . AND( OXIA PERISPOMENI VARIA))
    DIALYTIKA MACRON OXIA TONOS VARIA VRACHY)) XI YOT ZETA) LUNATE( SIGMA( SYMBOL)) REVERSED(
    DOTTED( LUNATE( SIGMA( SYMBOL))) LUNATE( SIGMA( SYMBOL))) THETA( SYMBOL)) DASIA( . AND( OXIA
    PERISPOMENI VARIA)) DIALYTIKA( AND( OXIA PERISPOMENI VARIA) TONOS) DRACHMA( SIGN) FIVE( OBOLS(
    SIGN)) FOUR( OBOLS( SIGN)) GRAMMA( SIGN) INDICTION( SIGN) INSTRUMENTAL( NOTATION( SYMBOL-1
    SYMBOL-11 SYMBOL-12 SYMBOL-13 SYMBOL-14 SYMBOL-17 SYMBOL-18 SYMBOL-19 SYMBOL-2 SYMBOL-23
    SYMBOL-24 SYMBOL-25 SYMBOL-26 SYMBOL-27 SYMBOL-29 SYMBOL-30 SYMBOL-32 SYMBOL-36 SYMBOL-37
    SYMBOL-38 SYMBOL-39 SYMBOL-4 SYMBOL-40 SYMBOL-42 SYMBOL-43 SYMBOL-45 SYMBOL-47 SYMBOL-48
    SYMBOL-49 SYMBOL-5 SYMBOL-50 SYMBOL-51 SYMBOL-52 SYMBOL-53 SYMBOL-54 SYMBOL-7 SYMBOL-8)) KAI(
    SYMBOL) KAPPA( SYMBOL) KORONIS KYATHOS( BASE( SIGN)) LETTER( ARCHAIC( KOPPA) DIGAMMA KOPPA SAMPI
    SMALL( CAPITAL( GAMMA LAMDA OMEGA PI PSI RHO)) STIGMA YOT) LITRA( SIGN) LOWER( NUMERAL( SIGN))
    LUNATE( EPSILON( SYMBOL) SIGMA( SYMBOL)) METRETES( SIGN) MUSICAL( LEIMMA) NUMERAL( SIGN) OBOL(
    SIGN) ONE( HALF( SIGN( . ALTERNATE( FORM))) QUARTER( SIGN)) OUNKIA( SIGN) OXIA PERISPOMENI PHI(
    SYMBOL) PI( SYMBOL) PROSGEGRAMMENI PSILI( . AND( OXIA PERISPOMENI VARIA)) QUESTION( MARK)
    REVERSED( LUNATE( EPSILON( SYMBOL))) RHO( SYMBOL WITH( STROKE( SYMBOL))) SINUSOID( SIGN) SMALL(
    DOTTED( LUNATE( SIGMA( SYMBOL))) LETTER( ALPHA( . WITH( DASIA( . AND( OXIA( . AND(
    YPOGEGRAMMENI)) PERISPOMENI( . AND( YPOGEGRAMMENI)) VARIA( . AND( YPOGEGRAMMENI))
    YPOGEGRAMMENI)) MACRON OXIA( . AND( YPOGEGRAMMENI)) PERISPOMENI( . AND( YPOGEGRAMMENI)) PSILI( .
    AND( OXIA( . AND( YPOGEGRAMMENI)) PERISPOMENI( . AND( YPOGEGRAMMENI)) VARIA( . AND(
    YPOGEGRAMMENI)) YPOGEGRAMMENI)) TONOS VARIA( . AND( YPOGEGRAMMENI)) VRACHY YPOGEGRAMMENI))
    ARCHAIC( KOPPA SAMPI) BETA CHI DELTA DIGAMMA EPSILON( . WITH( DASIA( . AND( OXIA VARIA)) OXIA
    PSILI( . AND( OXIA VARIA)) TONOS VARIA)) ETA( . WITH( DASIA( . AND( OXIA( . AND( YPOGEGRAMMENI))
    PERISPOMENI( . AND( YPOGEGRAMMENI)) VARIA( . AND( YPOGEGRAMMENI)) YPOGEGRAMMENI)) OXIA( . AND(
    YPOGEGRAMMENI)) PERISPOMENI( . AND( YPOGEGRAMMENI)) PSILI( . AND( OXIA( . AND( YPOGEGRAMMENI))
    PERISPOMENI( . AND( YPOGEGRAMMENI)) VARIA( . AND( YPOGEGRAMMENI)) YPOGEGRAMMENI)) TONOS VARIA( .
    AND( YPOGEGRAMMENI)) YPOGEGRAMMENI)) FINAL( SIGMA) GAMMA HETA IOTA( . WITH( DASIA( . AND( OXIA
    PERISPOMENI VARIA)) DIALYTIKA( . AND( OXIA PERISPOMENI TONOS VARIA)) MACRON OXIA PERISPOMENI
    PSILI( . AND( OXIA PERISPOMENI VARIA)) TONOS VARIA VRACHY)) KAPPA KOPPA LAMDA MU NU OMEGA( .
    WITH( DASIA( . AND( OXIA( . AND( YPOGEGRAMMENI)) PERISPOMENI( . AND( YPOGEGRAMMENI)) VARIA( .
    AND( YPOGEGRAMMENI)) YPOGEGRAMMENI)) OXIA( . AND( YPOGEGRAMMENI)) PERISPOMENI( . AND(
    YPOGEGRAMMENI)) PSILI( . AND( OXIA( . AND( YPOGEGRAMMENI)) PERISPOMENI( . AND( YPOGEGRAMMENI))
    VARIA( . AND( YPOGEGRAMMENI)) YPOGEGRAMMENI)) TONOS VARIA( . AND( YPOGEGRAMMENI))
    YPOGEGRAMMENI)) OMICRON( . WITH( DASIA( . AND( OXIA VARIA)) OXIA PSILI( . AND( OXIA VARIA))
    TONOS VARIA)) PAMPHYLIAN( DIGAMMA) PHI PI PSI RHO( . WITH( DASIA PSILI)) SAMPI SAN SHO SIGMA
    STIGMA TAU THETA UPSILON( . WITH( DASIA( . AND( OXIA PERISPOMENI VARIA)) DIALYTIKA( . AND( OXIA
    PERISPOMENI TONOS VARIA)) MACRON OXIA PERISPOMENI PSILI( . AND( OXIA PERISPOMENI VARIA)) TONOS
    VARIA VRACHY)) XI ZETA) REVERSED( DOTTED( LUNATE( SIGMA( SYMBOL))) LUNATE( SIGMA( SYMBOL))))
    SUBSCRIPT( SMALL( LETTER( BETA CHI GAMMA PHI RHO))) SYMBOL( TAU( RHO)) TALENT( SIGN) THETA(
    SYMBOL) THREE( OBOLS( SIGN) QUARTERS( SIGN)) TONOS TRYBLION( BASE( SIGN)) TWO( OBOLS( SIGN)
    THIRDS( SIGN)) UPSILON( WITH( ACUTE( AND( HOOK( SYMBOL))) DIAERESIS( AND( HOOK( SYMBOL))) HOOK(
    SYMBOL))) VARIA VOCAL( NOTATION( SYMBOL-1 SYMBOL-10 SYMBOL-11 SYMBOL-12 SYMBOL-13 SYMBOL-14
    SYMBOL-15 SYMBOL-16 SYMBOL-17 SYMBOL-18 SYMBOL-19 SYMBOL-2 SYMBOL-20 SYMBOL-21 SYMBOL-22
    SYMBOL-23 SYMBOL-24 SYMBOL-3 SYMBOL-4 SYMBOL-5 SYMBOL-50 SYMBOL-51 SYMBOL-52 SYMBOL-53 SYMBOL-54
    SYMBOL-6 SYMBOL-7 SYMBOL-8 SYMBOL-9)) XESTES( SIGN) YEAR( SIGN) YPOGEGRAMMENI ZERO( SIGN))
    GREEN( APPLE BOOK HEART SALAD) GRIMACING( FACE) GRINNING( CAT( FACE( WITH( SMILING( EYES))))
    FACE( . WITH( ONE( LARGE( AND( ONE( SMALL( EYE))))) SMILING( EYES) STAR( EYES)))) GROUP( MARK
    SEPARATOR) GROWING( HEART) GS GUARANI( SIGN) GUARDSMAN GUIDE( DOG) GUITAR GUJARATI(
    ABBREVIATION( SIGN) DIGIT( EIGHT FIVE FOUR NINE ONE SEVEN SIX THREE TWO ZERO) LETTER( A AA AI AU
    BA BHA CA CHA DA DDA DDHA DHA E GA GHA HA I II JA JHA KA KHA LA LLA MA NA NGA NNA NYA O PA PHA
    RA SA SHA SSA TA THA TTA TTHA U UU VA VOCALIC( L LL R RR) YA ZHA) OM RUPEE( SIGN) SIGN( ANUSVARA
    AVAGRAHA CANDRABINDU CIRCLE( NUKTA( ABOVE)) MADDAH NUKTA SHADDA SUKUN THREE-DOT( NUKTA( ABOVE))
    TWO-CIRCLE( NUKTA( ABOVE)) VIRAMA VISARGA) VOWEL( CANDRA( E O) SIGN( AA AI AU CANDRA( E O) E I
    II O U UU VOCALIC( L LL R RR)))) GUNJALA( GONDI( DIGIT( EIGHT FIVE FOUR NINE ONE SEVEN SIX THREE
    TWO ZERO) LETTER( A AA AI AU BA BHA CA CHA DA DDA DDHA DHA EE GA GHA HA I II JA JHA KA KHA LA
    LLA MA NA NGA OO PA PHA RA SA TA THA TTA TTHA U UU VA YA) OM SIGN( ANUSVARA VISARGA) VIRAMA
    VOWEL( SIGN( AA AI AU EE I II OO U UU)))) GURMUKHI( ABBREVIATION( SIGN) ADDAK DIGIT( EIGHT FIVE
    FOUR NINE ONE SEVEN SIX THREE TWO ZERO) EK( ONKAR) IRI LETTER( A AA AI AU BA BHA CA CHA DA DDA
    DDHA DHA EE FA GA GHA GHHA HA I II JA JHA KA KHA KHHA LA LLA MA NA NGA NNA NYA OO PA PHA RA RRA
    SA SHA TA THA TTA TTHA U UU VA YA ZA) SIGN( ADAK( BINDI) BINDI NUKTA UDAAT VIRAMA VISARGA
    YAKASH) TIPPI URA VOWEL( SIGN( AA AI AU EE I II OO U UU)))"

end Text
end ShadowLint
