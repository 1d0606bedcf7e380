/-!
# Names that begin with a letter from U to Z

The names of characters that begin with a letter from U to Z, as a tree of words in the form
that the module on names reads.
-/

namespace ShadowLint
namespace Text

/-- The names that begin with a letter from U to Z. -/
def characterNamesUToZ : String :=
    "UGARITIC( LETTER( AIN ALPA BETA DELTA DHAL GAMLA GHAIN HO HOTA I KAF KHA LAMDA MEM NUN PU QOPA
    RASHA SADE SAMKA SHIN SSU TET THANNA TO U WO YOD ZETA ZU) WORD( DIVIDER)) UMBRELLA( . ON(
    GROUND) WITH( RAIN( DROPS))) UNAMUSED( FACE) UNCERTAINTY( SIGN) UNDERTIE UNDO( SYMBOL) UNICORN(
    FACE) UNION( . ABOVE( BAR( ABOVE( INTERSECTION)) INTERSECTION) BESIDE( AND( JOINED( WITH(
    UNION)))) WITH( LOGICAL( OR) MINUS( SIGN) OVERBAR)) UNIT( SEPARATOR) UNITED( SYMBOL) UNIVERSAL(
    RECYCLING( SYMBOL)) UNMARRIED( PARTNERSHIP( SYMBOL)) UP( ARROW( THROUGH( CIRCLE)) ARROWHEAD( .
    BETWEEN( TWO( HORIZONTAL( BARS))) IN( A( RECTANGLE( BOX)))) BARB( LEFT( DOWN( BARB( LEFT(
    HARPOON) RIGHT( HARPOON)))) RIGHT( DOWN( BARB( LEFT( HARPOON) RIGHT( HARPOON))))) DOWN( ARROW( .
    WITH( BASE)) BLACK( ARROW) DOUBLE( ARROW) SANS-SERIF( ARROW) TRIANGLE-HEADED( ARROW) WHITE(
    ARROW)) FISH( TAIL) RIGHT( DIAGONAL( ELLIPSIS)) TACK( . WITH( CIRCLE( ABOVE)))) UP-POINTING(
    AIRPLANE MILITARY( AIRPLANE) RED( TRIANGLE) SMALL( AIRPLANE RED( TRIANGLE)) TRIANGLE( WITH(
    LEFT( HALF( BLACK)) RIGHT( HALF( BLACK))))) UPPER( AND( LEFT( AND( LOWER( TRIANGULAR( THREE(
    QUARTERS( BLOCK)))))) LOWER( ONE( EIGHTH( BLOCK)) TRIANGULAR( HALF( BLOCK))) RIGHT( AND( LOWER(
    TRIANGULAR( THREE( QUARTERS( BLOCK))))))) BLADE( SCISSORS) FIVE( EIGHTHS( BLOCK)) HALF( BLOCK( .
    AND( LOWER( HALF( INVERSE( MEDIUM( SHADE)))))) CIRCLE INVERSE( MEDIUM( SHADE( AND( LOWER( HALF(
    BLOCK))))) WHITE( CIRCLE)) MEDIUM( SHADE)) LEFT( BLOCK( DIAGONAL( LOWER( CENTRE( TO( LOWER(
    MIDDLE( RIGHT)) UPPER( MIDDLE( RIGHT) RIGHT))) LEFT( TO( LOWER( MIDDLE( RIGHT)) UPPER( CENTRE
    MIDDLE( RIGHT)))) MIDDLE( LEFT( TO( UPPER( CENTRE MIDDLE( RIGHT) RIGHT))))) UPPER( MIDDLE( LEFT(
    TO( UPPER( CENTRE RIGHT))))))) CORNER( WITH( DOT)) OR( LOWER( RIGHT( CURLY( BRACKET(
    SECTION))))) QUADRANT( CIRCULAR( ARC)) TO( LOWER( RIGHT( FILL))) TRIANGLE TRIANGULAR( MEDIUM(
    SHADE))) ONE( EIGHTH( BLOCK) QUARTER( BLOCK)) RIGHT( BLOCK( DIAGONAL( LOWER( MIDDLE( LEFT( TO(
    LOWER( CENTRE RIGHT))))) UPPER( CENTRE( TO( LOWER( MIDDLE( RIGHT) RIGHT) UPPER( MIDDLE(
    RIGHT)))) LEFT( TO( LOWER( CENTRE MIDDLE( RIGHT)) UPPER( MIDDLE( RIGHT)))) MIDDLE( LEFT( TO(
    LOWER( CENTRE MIDDLE( RIGHT) RIGHT))))))) DROP-SHADOWED( WHITE( SQUARE)) OR( LOWER( LEFT( CURLY(
    BRACKET( SECTION))))) PENCIL QUADRANT( CIRCULAR( ARC)) SHADOWED( WHITE( CIRCLE SQUARE)) TO(
    LOWER( LEFT( FILL))) TRIANGLE TRIANGULAR( MEDIUM( SHADE))) SEVEN( EIGHTHS( BLOCK)) THREE(
    EIGHTHS( BLOCK) QUARTERS( BLOCK)) TRIANGULAR( ONE( QUARTER( BLOCK)))) UPSIDE-DOWN( FACE)
    UPWARDS( ANCORA ARROW( . AND( RIGHT( ONE( EIGHTH( BLOCK)))) FROM( BAR) LEFTWARDS( OF( DOWNWARDS(
    ARROW))) TO( BAR) WITH( DOUBLE( STROKE) EQUILATERAL( ARROWHEAD) HORIZONTAL( STROKE) LARGE(
    TRIANGLE( ARROWHEAD)) MEDIUM( TRIANGLE( ARROWHEAD)) NOTCHED( TAIL) SMALL( EQUILATERAL(
    ARROWHEAD) TRIANGLE( ARROWHEAD)) TIP( LEFTWARDS RIGHTWARDS))) BLACK( ARROW CIRCLED( WHITE(
    ARROW))) COMPRESSED( ARROW) DASHED( ARROW) DOUBLE( ARROW) FINGER-POST( ARROW) HARPOON( WITH(
    BARB( LEFT( BESIDE( DOWNWARDS( HARPOON( WITH( BARB( RIGHT)))) UPWARDS( HARPOON( WITH( BARB(
    RIGHT))))) FROM( BAR) TO( BAR)) LEFTWARDS RIGHT( FROM( BAR) TO( BAR)) RIGHTWARDS))) HEAVY( ARROW
    COMPRESSED( ARROW)) PAIRED( ARROWS) QUADRUPLE( ARROW) ROCKET SANS-SERIF( ARROW) SQUARED( ARROW)
    TRIANGLE( ARROWHEAD) TRIANGLE-HEADED( ARROW( . LEFTWARDS( OF( DOWNWARDS( TRIANGLE-HEADED(
    ARROW)))) TO( BAR) WITH( BOLD( SHAFT) DOUBLE( HORIZONTAL( STROKE)) HEAVY( SHAFT) LONG( TIP(
    LEFTWARDS RIGHTWARDS)) MEDIUM( SHAFT) NARROW( SHAFT) VERY( HEAVY( SHAFT)))) DASHED( ARROW)
    PAIRED( ARROWS)) TRIPLE( ARROW) TWO( HEADED( ARROW)) TWO-HEADED( ARROW( FROM( SMALL( CIRCLE))
    WITH( TRIANGLE( ARROWHEADS)))) WHITE( ARROW( . FROM( BAR( . WITH( HORIZONTAL( BAR)))) ON(
    PEDESTAL( . WITH( HORIZONTAL( BAR) VERTICAL( BAR)))) WITHIN( TRIANGLE( ARROWHEAD))) DOUBLE(
    ARROW( . ON( PEDESTAL))))) URANUS US VAI( COMMA DIGIT( EIGHT FIVE FOUR NINE ONE SEVEN SIX THREE
    TWO ZERO) FULL( STOP) QUESTION( MARK) SYLLABLE( A AN BA BE BEE BHA BHE BHEE BHI BHO BHOO BHU BI
    BO BOO BU CA CE CEE CI CO COO CU DA DE DEE DHA DHE DHEE DHHA DHHE DHHEE DHHI DHHO DHHOO DHHU DHI
    DHO DHOO DHU DI DO DOO DU E EE EEN EN FA FE FEE FI FO FOO FU GA GBA GBE GBEE GBEN GBI GBO GBON
    GBOO GBU GE GEE GEN GI GO GOO GU HA HAN HE HEE HEN HI HIN HO HON HOO HU HUN I IN JA JE JEE JI JO
    JOO JU KA KAN KE KEE KI KO KOO KPA KPAN KPE KPEE KPEN KPI KPO KPOO KPU KU LA LE LEE LENGTHENER
    LI LO LOO LU MA MBA MBE MBEE MBI MBO MBOO MBU ME MEE MGBA MGBE MGBEE MGBI MGBO MGBOO MGBU MI MO
    MOO MU NA NDA NDE NDEE NDI NDO NDOLE( DO FA KA MA SOO) NDOO NDU NE NEE NG NGAN NGEN NGGA NGGE
    NGGEE NGGEN NGGI NGGO NGGOO NGGU NGON NI NJA NJE NJEE NJI NJO NJOO NJU NO NOO NU NYA NYE NYEE
    NYI NYO NYOO NYU O ON OO OON PA PE PEE PI PO POO PU RA RE REE RI RO ROO RU SA SE SEE SHA SHE
    SHEE SHI SHO SHOO SHU SI SO SOO SU TA TE TEE THA THE THEE THI THO THOO THU TI TO TOO TU U UN VA
    VE VEE VI VO VOO VU WA WAN WE WEE WEEN WEN WI WIN WO WON WOO WOON WU WUN YA YE YEE YI YO YOO YU
    ZA ZE ZEE ZHA ZHE ZHEE ZHI ZHO ZHOO ZHU ZI ZO ZOO ZU) SYMBOL( BANG DANG DO-O DOONG FAA FEENG
    JONG KEENG KUNG NII TAA TING TONG)) VAMPIRE VARIATION( SELECTOR-1 SELECTOR-10 SELECTOR-100
    SELECTOR-101 SELECTOR-102 SELECTOR-103 SELECTOR-104 SELECTOR-105 SELECTOR-106 SELECTOR-107
    SELECTOR-108 SELECTOR-109 SELECTOR-11 SELECTOR-110 SELECTOR-111 SELECTOR-112 SELECTOR-113
    SELECTOR-114 SELECTOR-115 SELECTOR-116 SELECTOR-117 SELECTOR-118 SELECTOR-119 SELECTOR-12
    SELECTOR-120 SELECTOR-121 SELECTOR-122 SELECTOR-123 SELECTOR-124 SELECTOR-125 SELECTOR-126
    SELECTOR-127 SELECTOR-128 SELECTOR-129 SELECTOR-13 SELECTOR-130 SELECTOR-131 SELECTOR-132
    SELECTOR-133 SELECTOR-134 SELECTOR-135 SELECTOR-136 SELECTOR-137 SELECTOR-138 SELECTOR-139
    SELECTOR-14 SELECTOR-140 SELECTOR-141 SELECTOR-142 SELECTOR-143 SELECTOR-144 SELECTOR-145
    SELECTOR-146 SELECTOR-147 SELECTOR-148 SELECTOR-149 SELECTOR-15 SELECTOR-150 SELECTOR-151
    SELECTOR-152 SELECTOR-153 SELECTOR-154 SELECTOR-155 SELECTOR-156 SELECTOR-157 SELECTOR-158
    SELECTOR-159 SELECTOR-16 SELECTOR-160 SELECTOR-161 SELECTOR-162 SELECTOR-163 SELECTOR-164
    SELECTOR-165 SELECTOR-166 SELECTOR-167 SELECTOR-168 SELECTOR-169 SELECTOR-17 SELECTOR-170
    SELECTOR-171 SELECTOR-172 SELECTOR-173 SELECTOR-174 SELECTOR-175 SELECTOR-176 SELECTOR-177
    SELECTOR-178 SELECTOR-179 SELECTOR-18 SELECTOR-180 SELECTOR-181 SELECTOR-182 SELECTOR-183
    SELECTOR-184 SELECTOR-185 SELECTOR-186 SELECTOR-187 SELECTOR-188 SELECTOR-189 SELECTOR-19
    SELECTOR-190 SELECTOR-191 SELECTOR-192 SELECTOR-193 SELECTOR-194 SELECTOR-195 SELECTOR-196
    SELECTOR-197 SELECTOR-198 SELECTOR-199 SELECTOR-2 SELECTOR-20 SELECTOR-200 SELECTOR-201
    SELECTOR-202 SELECTOR-203 SELECTOR-204 SELECTOR-205 SELECTOR-206 SELECTOR-207 SELECTOR-208
    SELECTOR-209 SELECTOR-21 SELECTOR-210 SELECTOR-211 SELECTOR-212 SELECTOR-213 SELECTOR-214
    SELECTOR-215 SELECTOR-216 SELECTOR-217 SELECTOR-218 SELECTOR-219 SELECTOR-22 SELECTOR-220
    SELECTOR-221 SELECTOR-222 SELECTOR-223 SELECTOR-224 SELECTOR-225 SELECTOR-226 SELECTOR-227
    SELECTOR-228 SELECTOR-229 SELECTOR-23 SELECTOR-230 SELECTOR-231 SELECTOR-232 SELECTOR-233
    SELECTOR-234 SELECTOR-235 SELECTOR-236 SELECTOR-237 SELECTOR-238 SELECTOR-239 SELECTOR-24
    SELECTOR-240 SELECTOR-241 SELECTOR-242 SELECTOR-243 SELECTOR-244 SELECTOR-245 SELECTOR-246
    SELECTOR-247 SELECTOR-248 SELECTOR-249 SELECTOR-25 SELECTOR-250 SELECTOR-251 SELECTOR-252
    SELECTOR-253 SELECTOR-254 SELECTOR-255 SELECTOR-256 SELECTOR-26 SELECTOR-27 SELECTOR-28
    SELECTOR-29 SELECTOR-3 SELECTOR-30 SELECTOR-31 SELECTOR-32 SELECTOR-33 SELECTOR-34 SELECTOR-35
    SELECTOR-36 SELECTOR-37 SELECTOR-38 SELECTOR-39 SELECTOR-4 SELECTOR-40 SELECTOR-41 SELECTOR-42
    SELECTOR-43 SELECTOR-44 SELECTOR-45 SELECTOR-46 SELECTOR-47 SELECTOR-48 SELECTOR-49 SELECTOR-5
    SELECTOR-50 SELECTOR-51 SELECTOR-52 SELECTOR-53 SELECTOR-54 SELECTOR-55 SELECTOR-56 SELECTOR-57
    SELECTOR-58 SELECTOR-59 SELECTOR-6 SELECTOR-60 SELECTOR-61 SELECTOR-62 SELECTOR-63 SELECTOR-64
    SELECTOR-65 SELECTOR-66 SELECTOR-67 SELECTOR-68 SELECTOR-69 SELECTOR-7 SELECTOR-70 SELECTOR-71
    SELECTOR-72 SELECTOR-73 SELECTOR-74 SELECTOR-75 SELECTOR-76 SELECTOR-77 SELECTOR-78 SELECTOR-79
    SELECTOR-8 SELECTOR-80 SELECTOR-81 SELECTOR-82 SELECTOR-83 SELECTOR-84 SELECTOR-85 SELECTOR-86
    SELECTOR-87 SELECTOR-88 SELECTOR-89 SELECTOR-9 SELECTOR-90 SELECTOR-91 SELECTOR-92 SELECTOR-93
    SELECTOR-94 SELECTOR-95 SELECTOR-96 SELECTOR-97 SELECTOR-98 SELECTOR-99) VECTOR( OR( CROSS(
    PRODUCT))) VEDIC( SIGN( ANUSVARA( ANTARGOMUKHA BAHIRGOMUKHA UBHAYATO( MUKHA) VAMAGOMUKHA( .
    WITH( TAIL))) ARDHAVISARGA ATIKRAMA DOUBLE( ANUSVARA( ANTARGOMUKHA)) HEXIFORM( LONG( ANUSVARA))
    JIHVAMULIYA LONG( ANUSVARA) NIHSHVASA REVERSED( VISARGA( ANUDATTA UDATTA)) ROTATED(
    ARDHAVISARGA) RTHANG( LONG( ANUSVARA)) TIRYAK UPADHMANIYA VISARGA( ANUDATTA( . WITH( TAIL))
    SVARITA UDATTA( . WITH( TAIL))) YAJURVEDIC( MIDLINE( SVARITA))) TONE( ATHARVAVEDIC( INDEPENDENT(
    SVARITA)) CANDRA( ABOVE BELOW) DOT( BELOW) DOUBLE( RING( ABOVE) SVARITA) KARSHANA KATHAKA(
    ANUDATTA) PRENKHA RIGVEDIC( KASHMIRI( INDEPENDENT( SVARITA))) RING( ABOVE) SHARA THREE( DOTS(
    BELOW)) TRIPLE( SVARITA) TWO( DOTS( BELOW)) YAJURVEDIC( AGGRAVATED( INDEPENDENT( SVARITA))
    INDEPENDENT( SVARITA) KATHAKA( INDEPENDENT( SVARITA( . SCHROEDER)))))) VERSICLE VERTICAL( BAR(
    BESIDE( RIGHT( TRIANGLE)) DOUBLE( LEFT( TURNSTILE)) TRIPLE( RIGHT( TURNSTILE)) WITH( HORIZONTAL(
    STROKE))) ELLIPSIS FOUR( DOTS) IDEOGRAPHIC( ITERATION( MARK)) KANA( REPEAT( MARK( . LOWER( HALF)
    UPPER( HALF)) WITH( VOICED( SOUND( MARK( . UPPER( HALF))))))) LINE( . EXTENSION WITH( CIRCLE(
    ABOVE BELOW) MIDDLE( DOT))) MALE( WITH( STROKE( SIGN))) ONE( EIGHTH( BLOCK-2 BLOCK-3 BLOCK-4
    BLOCK-5 BLOCK-6 BLOCK-7)) SIX( DOTS) TAB( KEY) TABULATION( . SET) TILDE TRAFFIC( LIGHT) ZIGZAG(
    LINE)) VERY( BOLD( GREEK( CROSS)) HEAVY( EIGHT( POINTED( BLACK( STAR)) SPOKED( ASTERISK)) FIVE(
    SPOKED( ASTERISK)) GREEK( CROSS) REVERSE( SOLIDUS) SALTIRE SIX( SPOKED( ASTERISK)) SOLIDUS
    WHITE( CIRCLE SQUARE)) MUCH( GREATER-THAN LESS-THAN)) VESTA VIBRATION( MODE) VICTORY( HAND)
    VIDEO( CAMERA GAME) VIDEOCASSETTE VIETNAMESE( ALTERNATE( READING( MARK( CA NHAY)))) VIEWDATA(
    SQUARE) VIOLIN VIRGO VITHKUQI( CAPITAL( LETTER( A BBE BE CE CHE DE DHE E EI FE GA HA HHA I IJE
    JE KA LA LLA ME NE NJE O PE QA RE SE SHE TE THE U VE XE Y ZE)) SMALL( LETTER( A BBE BE CE CHE DE
    DHE E EI FE GA HA HHA I IJE JE KA LA LLA ME NE NJE O PE QA RE SE SHE TE THE U VE XE Y ZE)))
    VOIDED( GREEK( CROSS)) VOLCANO VOLLEYBALL VOLUME( INTEGRAL) VS1 VS10 VS100 VS101 VS102 VS103
    VS104 VS105 VS106 VS107 VS108 VS109 VS11 VS110 VS111 VS112 VS113 VS114 VS115 VS116 VS117 VS118
    VS119 VS12 VS120 VS121 VS122 VS123 VS124 VS125 VS126 VS127 VS128 VS129 VS13 VS130 VS131 VS132
    VS133 VS134 VS135 VS136 VS137 VS138 VS139 VS14 VS140 VS141 VS142 VS143 VS144 VS145 VS146 VS147
    VS148 VS149 VS15 VS150 VS151 VS152 VS153 VS154 VS155 VS156 VS157 VS158 VS159 VS16 VS160 VS161
    VS162 VS163 VS164 VS165 VS166 VS167 VS168 VS169 VS17 VS170 VS171 VS172 VS173 VS174 VS175 VS176
    VS177 VS178 VS179 VS18 VS180 VS181 VS182 VS183 VS184 VS185 VS186 VS187 VS188 VS189 VS19 VS190
    VS191 VS192 VS193 VS194 VS195 VS196 VS197 VS198 VS199 VS2 VS20 VS200 VS201 VS202 VS203 VS204
    VS205 VS206 VS207 VS208 VS209 VS21 VS210 VS211 VS212 VS213 VS214 VS215 VS216 VS217 VS218 VS219
    VS22 VS220 VS221 VS222 VS223 VS224 VS225 VS226 VS227 VS228 VS229 VS23 VS230 VS231 VS232 VS233
    VS234 VS235 VS236 VS237 VS238 VS239 VS24 VS240 VS241 VS242 VS243 VS244 VS245 VS246 VS247 VS248
    VS249 VS25 VS250 VS251 VS252 VS253 VS254 VS255 VS256 VS26 VS27 VS28 VS29 VS3 VS30 VS31 VS32 VS33
    VS34 VS35 VS36 VS37 VS38 VS39 VS4 VS40 VS41 VS42 VS43 VS44 VS45 VS46 VS47 VS48 VS49 VS5 VS50
    VS51 VS52 VS53 VS54 VS55 VS56 VS57 VS58 VS59 VS6 VS60 VS61 VS62 VS63 VS64 VS65 VS66 VS67 VS68
    VS69 VS7 VS70 VS71 VS72 VS73 VS74 VS75 VS76 VS77 VS78 VS79 VS8 VS80 VS81 VS82 VS83 VS84 VS85
    VS86 VS87 VS88 VS89 VS9 VS90 VS91 VS92 VS93 VS94 VS95 VS96 VS97 VS98 VS99 VT VTS VULCANUS
    VULGAR( FRACTION( FIVE( EIGHTHS SIXTHS) FOUR( FIFTHS) ONE( EIGHTH FIFTH HALF NINTH QUARTER
    SEVENTH SIXTH TENTH THIRD) SEVEN( EIGHTHS) THREE( EIGHTHS FIFTHS QUARTERS) TWO( FIFTHS THIRDS)
    ZERO( THIRDS))) WAFFLE WANCHO( DIGIT( EIGHT FIVE FOUR NINE ONE SEVEN SIX THREE TWO ZERO) LETTER(
    A AA AAN AANG ANG AU BA CA DA E EN FA GA HA I ING JA KA KHA LA LLHA MA NA NGA NYA O ON ONG PA
    PHA RA SA SHA TA THA TRA TSA U UEN VA WA YA YIH ZA) NGUN( SIGN) TONE( KOI KOINI TUP TUPNI))
    WANING( CRESCENT( MOON( SYMBOL)) GIBBOUS( MOON( SYMBOL))) WARANG( CITI( CAPITAL( LETTER( A AM
    ANG AT BU DA E ENN ENY GA HAR HIYO HOLO HORR II KO NGAA NUNG O ODD PU SII SSUU TTE UC UU VIYO WI
    YA YO YU YUJ)) DIGIT( EIGHT FIVE FOUR NINE ONE SEVEN SIX THREE TWO ZERO) NUMBER( EIGHTY FIFTY
    FORTY NINETY SEVENTY SIXTY TEN THIRTY TWENTY) OM SMALL( LETTER( A AM ANG AT BU DA E ENN ENY GA
    HAR HIYO HOLO HORR II KO NGAA NUNG O ODD PU SII SSUU TTE UC UU VIYO WI YA YO YU YUJ)))) WARNING(
    SIGN) WASTEBASKET WATCH WATER( BUFFALO CLOSET POLO WAVE) WATERMELON WAVE( ARROW( POINTING(
    DIRECTLY( LEFT RIGHT))) DASH) WAVING( BLACK( FLAG) HAND( SIGN) WHITE( FLAG)) WAVY( DASH LINE
    LOW( LINE) OVERLINE) WAXING( CRESCENT( MOON( SYMBOL)) GIBBOUS( MOON( SYMBOL))) WEARY( CAT( FACE)
    FACE) WEDDING WEDGE-TAILED( RIGHTWARDS( ARROW)) WEIERSTRASS( ELLIPTIC( FUNCTION)) WEIGHT(
    LIFTER) WEST( SYRIAC( CROSS)) WHALE WHEEL( . OF( DHARMA)) WHEELCHAIR( SYMBOL) WHITE( ARROW(
    SHAFT( WIDTH( ONE TWO( THIRDS)))) BULLET CHESS( BISHOP( . ROTATED( NINETY( DEGREES) TWO(
    HUNDRED( SEVENTY( DEGREES))))) EQUIHOPPER( . ROTATED( NINETY( DEGREES))) KING( . ROTATED(
    NINETY( DEGREES) TWO( HUNDRED( SEVENTY( DEGREES))))) KNIGHT( . ROTATED( FORTY-FIVE( DEGREES)
    NINETY( DEGREES) ONE( HUNDRED( THIRTY-FIVE( DEGREES))) THREE( HUNDRED( FIFTEEN( DEGREES))) TWO(
    HUNDRED( SEVENTY( DEGREES) TWENTY-FIVE( DEGREES))))) KNIGHT-BISHOP KNIGHT-QUEEN KNIGHT-ROOK
    PAWN( . ROTATED( NINETY( DEGREES) TWO( HUNDRED( SEVENTY( DEGREES))))) QUEEN( . ROTATED( NINETY(
    DEGREES) TWO( HUNDRED( SEVENTY( DEGREES))))) ROOK( . ROTATED( NINETY( DEGREES) TWO( HUNDRED(
    SEVENTY( DEGREES))))) TURNED( BISHOP KING KNIGHT PAWN QUEEN ROOK)) CIRCLE( . CONTAINING( BLACK(
    SMALL( CIRCLE))) WITH( DOT( RIGHT) DOWN( ARROW) LOWER( LEFT( QUADRANT) RIGHT( QUADRANT)) TWO(
    DOTS) UPPER( LEFT( QUADRANT) RIGHT( QUADRANT)))) CLUB( SUIT) CONCAVE-SIDED( DIAMOND( . WITH(
    LEFTWARDS( TICK) RIGHTWARDS( TICK)))) DIAMOND( . CONTAINING( BLACK( MEDIUM( DIAMOND) SMALL(
    DIAMOND) VERY( SMALL( DIAMOND)))) IN( SQUARE) SUIT WITH( CENTRED( DOT))) DOWN( POINTING(
    BACKHAND( INDEX) INDEX LEFT( HAND( INDEX)))) DOWN-POINTING( SMALL( TRIANGLE) TRIANGLE) DRAUGHTS(
    KING MAN) EXCLAMATION( MARK( ORNAMENT)) FLAG( . WITH( HORIZONTAL( MIDDLE( BLACK( STRIPE)))))
    FLORETTE FLOWER FOUR( POINTED( CUSP STAR)) FROWNING( FACE) HARD( SHELL( FLOPPY( DISK))) HEART( .
    SUIT) HEAVY( CHECK( MARK) SALTIRE( WITH( ROUNDED( CORNERS)))) HEXAGON HORIZONTAL( ELLIPSE)
    HOURGLASS LARGE( SQUARE) LATIN( CROSS) LEFT( LANE( MERGE) POINTING( BACKHAND( INDEX) INDEX))
    LEFT-POINTING( POINTER SMALL( TRIANGLE) TRIANGLE) LOZENGE( CONTAINING( BLACK( SMALL( LOZENGE))))
    MEDIUM( DIAMOND LOZENGE SMALL( SQUARE) SQUARE STAR) MOON( SELENA) NIB PARALLELOGRAM PENNANT
    PENTAGON QUESTION( MARK( ORNAMENT)) RECTANGLE RIGHT( POINTING( BACKHAND( INDEX) INDEX))
    RIGHT-POINTING( PENTAGON POINTER SMALL( TRIANGLE) TRIANGLE) SCISSORS SESAME( DOT) SHOGI( PIECE)
    SMALL( LOZENGE SQUARE STAR) SMILING( FACE) SPADE( SUIT) SQUARE( . BUTTON CONTAINING( BLACK(
    MEDIUM( SQUARE) SMALL( SQUARE) VERY( SMALL( SQUARE)))) WITH( CENTRE( VERTICAL( LINE)) LEFTWARDS(
    TICK) LOWER( LEFT( QUADRANT) RIGHT( QUADRANT)) RIGHTWARDS( TICK) ROUNDED( CORNERS) UPPER( LEFT(
    QUADRANT) RIGHT( QUADRANT)) VERTICAL( BISECTING( LINE)))) STAR SUN( . BEHIND( CLOUD( . WITH(
    RAIN))) WITH( RAYS SMALL( CLOUD))) TELEPHONE TOUCHTONE( TELEPHONE) TRAPEZIUM TRIANGLE(
    CONTAINING( SMALL( WHITE( TRIANGLE)))) TWO-WAY( LEFT( WAY( TRAFFIC))) UP( POINTING( BACKHAND(
    INDEX) INDEX)) UP-POINTING( CHEVRON SMALL( TRIANGLE) TRIANGLE( . WITH( DOT))) VERTICAL( BAR
    ELLIPSE RECTANGLE) VERY( SMALL( SQUARE))) WHITE-FEATHERED( RIGHTWARDS( ARROW)) WIDE-HEADED(
    DOWNWARDS( BARB( ARROW) HEAVY( BARB( ARROW)) LIGHT( BARB( ARROW)) MEDIUM( BARB( ARROW)) VERY(
    HEAVY( BARB( ARROW)))) LEFTWARDS( BARB( ARROW) HEAVY( BARB( ARROW)) LIGHT( BARB( ARROW)) MEDIUM(
    BARB( ARROW)) VERY( HEAVY( BARB( ARROW)))) NORTH( EAST( BARB( ARROW) HEAVY( BARB( ARROW)) LIGHT(
    BARB( ARROW)) MEDIUM( BARB( ARROW)) VERY( HEAVY( BARB( ARROW)))) WEST( BARB( ARROW) HEAVY( BARB(
    ARROW)) LIGHT( BARB( ARROW)) MEDIUM( BARB( ARROW)) VERY( HEAVY( BARB( ARROW))))) RIGHTWARDS(
    BARB( ARROW) HEAVY( BARB( ARROW)) LIGHT( BARB( ARROW)) MEDIUM( BARB( ARROW)) VERY( HEAVY( BARB(
    ARROW)))) SOUTH( EAST( BARB( ARROW) HEAVY( BARB( ARROW)) LIGHT( BARB( ARROW)) MEDIUM( BARB(
    ARROW)) VERY( HEAVY( BARB( ARROW)))) WEST( BARB( ARROW) HEAVY( BARB( ARROW)) LIGHT( BARB(
    ARROW)) MEDIUM( BARB( ARROW)) VERY( HEAVY( BARB( ARROW))))) UPWARDS( BARB( ARROW) HEAVY( BARB(
    ARROW)) LIGHT( BARB( ARROW)) MEDIUM( BARB( ARROW)) VERY( HEAVY( BARB( ARROW))))) WIGGLY(
    VERTICAL( LINE)) WILTED( FLOWER) WIND( BLOWING( FACE) CHIME) WINDOW WINE( GLASS) WINKING( FACE)
    WIRED( KEYBOARD) WJ WOLF( FACE) WOMAN( . WITH( BUNNY( EARS))) WOMANS( BOOTS CLOTHES HAT SANDAL)
    WOMENS( SYMBOL) WON( SIGN) WOOD WORD( JOINER SEPARATOR( MIDDLE( DOT))) WORLD( MAP) WORM WORRIED(
    FACE) WRAPPED( PRESENT) WREATH( PRODUCT) WRENCH WRESTLERS WRITING( HAND) X( IN( A( RECTANGLE(
    BOX)))) X-RAY XIANGQI( BLACK( CANNON CHARIOT ELEPHANT GENERAL HORSE MANDARIN SOLDIER) RED(
    CANNON CHARIOT ELEPHANT GENERAL HORSE MANDARIN SOLDIER)) XOR YAWNING( FACE) YELLOW( HEART) YEN(
    SIGN) YEZIDI( COMBINING( HAMZA( MARK) MADDA( MARK)) HYPHENATION( MARK) LETTER( BE CHHIM CHIM CIM
    DAD DAL ELIF ET EW EYN FA GAF HAY HHA JA KAF KHAF LAM( . WITH( DOT( ABOVE))) MIM NUN OW PE PHE
    QAF RA RHA SAD SE SHIN SIN TA THE UM VA( . ALTERNATE( FORM)) WAW XA XHEYN YOT( . WITH(
    CIRCUMFLEX( ABOVE))) ZA ZAL ZE)) YI( RADICAL( BBUT BUR CHE CIP CUOP CY CYP CYT DDUR DU GA GEP
    GGOP GGUO GOT HMO HXIT HXOP HXUO JJIE JJUT JJY JO KE KIT LI LIE LYR MI MOP NBIE NYIP NYOP NZUP
    OP PUT PYT QOT SHAT SHOP SHUR SHY SSI TAT TU VEP VUR WO YIT YO ZA ZOT ZUP ZUR ZZIET) SYLLABLE( A
    AP AT AX BA BAP BAT BAX BBA BBAP BBAT BBAX BBE BBEP BBEX BBI BBIE BBIEP BBIET BBIEX BBIP BBIT
    BBIX BBO BBOP BBOT BBOX BBU BBUO BBUOP BBUOX BBUP BBUR BBURX BBUT BBUX BBY BBYP BBYT BBYX BE BEP
    BEX BI BIE BIEP BIET BIEX BIP BIT BIX BO BOP BOT BOX BU BUO BUOP BUOX BUP BUR BURX BUT BUX BY
    BYP BYR BYRX BYT BYX CA CAP CAT CAX CE CEP CEX CHA CHAP CHAT CHAX CHE CHEP CHET CHEX CHO CHOP
    CHOT CHOX CHU CHUO CHUOP CHUOT CHUOX CHUP CHUR CHURX CHUX CHY CHYP CHYR CHYRX CHYT CHYX CI CIE
    CIEP CIET CIEX CIP CIT CIX CO COP COT COX CU CUO CUOP CUOX CUP CUR CURX CUT CUX CY CYP CYR CYRX
    CYT CYX DA DAP DAT DAX DDA DDAP DDAT DDAX DDE DDEP DDEX DDI DDIE DDIEP DDIEX DDIP DDIT DDIX DDO
    DDOP DDOT DDOX DDU DDUO DDUOP DDUOX DDUP DDUR DDURX DDUT DDUX DE DEP DEX DI DIE DIEP DIEX DIP
    DIT DIX DO DOP DOT DOX DU DUO DUOX DUP DUR DURX DUT DUX E EX FA FAP FAT FAX FI FIP FIT FIX FO
    FOP FOX FU FUP FUR FURX FUT FUX FY FYP FYT FYX GA GAP GAT GAX GE GEP GET GEX GGA GGAP GGAT GGAX
    GGE GGEP GGET GGEX GGI GGIE GGIEP GGIEX GGIT GGIX GGO GGOP GGOT GGOX GGU GGUO GGUOP GGUOT GGUOX
    GGUP GGUR GGURX GGUT GGUX GI GIE GIEP GIET GIEX GIP GIT GIX GO GOP GOT GOX GU GUO GUOP GUOT GUOX
    GUP GUR GURX GUT GUX HA HAP HAT HAX HE HEP HEX HIE HIEX HIT HLA HLAP HLAT HLAX HLE HLEP HLEX HLI
    HLIE HLIEP HLIEX HLIP HLIT HLIX HLO HLOP HLOX HLU HLUO HLUOP HLUOX HLUP HLUR HLURX HLUT HLUX HLY
    HLYP HLYR HLYRX HLYT HLYX HMA HMAP HMAT HMAX HMI HMIE HMIEP HMIEX HMIP HMIT HMIX HMO HMOP HMOT
    HMOX HMU HMUO HMUOP HMUOX HMUP HMUR HMURX HMUT HMUX HMY HMYP HMYR HMYRX HMYX HNA HNAP HNAT HNAX
    HNE HNEP HNEX HNI HNIE HNIEP HNIET HNIEX HNIP HNIT HNIX HNOP HNOT HNOX HNUO HNUOX HNUT HO HOP
    HOT HOX HUO HUOP HUOT HUOX HXA HXAP HXAT HXAX HXE HXEP HXEX HXI HXIE HXIEP HXIET HXIEX HXIP HXIT
    HXIX HXO HXOP HXOT HXOX HXUO HXUOP HXUOT HXUOX I IE IEP IET IEX IP IT ITERATION( MARK) IX JI JIE
    JIEP JIET JIEX JIP JIT JIX JJI JJIE JJIEP JJIET JJIEX JJIP JJIT JJIX JJO JJOP JJOT JJOX JJU JJUO
    JJUOP JJUOX JJUP JJUR JJURX JJUT JJUX JJY JJYP JJYT JJYX JO JOP JOT JOX JU JUO JUOP JUOT JUOX
    JUP JUR JURX JUT JUX JY JYP JYR JYRX JYT JYX KA KAP KAT KAX KE KEP KET KEX KI KIE KIEP KIEX KIP
    KIT KIX KO KOP KOT KOX KU KUO KUOP KUOX KUP KUR KURX KUT KUX LA LAP LAT LAX LE LEP LEX LI LIE
    LIEP LIET LIEX LIP LIT LIX LO LOP LOT LOX LU LUO LUOP LUOT LUOX LUP LUR LURX LUT LUX LY LYP LYR
    LYRX LYT LYX MA MAP MAT MAX ME MEX MGA MGAP MGAT MGAX MGE MGEP MGEX MGIE MGIEX MGO MGOP MGOT
    MGOX MGU MGUO MGUOP MGUOX MGUP MGUR MGURX MGUT MGUX MI MIE MIEP MIEX MIP MIT MIX MO MOP MOT MOX
    MU MUO MUOP MUOT MUOX MUP MUR MURX MUT MUX MY MYP MYT MYX NA NAP NAX NBA NBAP NBAT NBAX NBI NBIE
    NBIEP NBIEX NBIP NBIT NBIX NBO NBOP NBOT NBOX NBU NBUP NBUR NBURX NBUT NBUX NBY NBYP NBYR NBYRX
    NBYT NBYX NDA NDAP NDAT NDAX NDE NDEP NDEX NDI NDIE NDIEX NDIP NDIT NDIX NDO NDOP NDOT NDOX NDU
    NDUP NDUR NDURX NDUT NDUX NE NEP NEX NGA NGAP NGAT NGAX NGE NGEP NGEX NGIE NGIEP NGIEX NGO NGOP
    NGOT NGOX NGUO NGUOT NGUOX NI NIE NIEP NIEX NIP NIT NIX NJI NJIE NJIEP NJIET NJIEX NJIP NJIT
    NJIX NJO NJOP NJOT NJOX NJU NJUO NJUOX NJUP NJUR NJURX NJUX NJY NJYP NJYR NJYRX NJYT NJYX NO NOP
    NOT NOX NRA NRAP NRAT NRAX NRE NREP NRET NREX NRO NROP NROX NRU NRUP NRUR NRURX NRUT NRUX NRY
    NRYP NRYR NRYRX NRYT NRYX NU NUO NUOP NUOX NUP NUR NURX NUT NUX NYI NYIE NYIEP NYIET NYIEX NYIP
    NYIT NYIX NYO NYOP NYOT NYOX NYU NYUO NYUOP NYUOX NYUP NYUT NYUX NZA NZAP NZAT NZAX NZE NZEX NZI
    NZIE NZIEP NZIEX NZIP NZIT NZIX NZOP NZOX NZU NZUO NZUOX NZUP NZUR NZURX NZUX NZY NZYP NZYR
    NZYRX NZYT NZYX O OP OT OX PA PAP PAT PAX PI PIE PIEP PIEX PIP PIT PIX PO POP POT POX PU PUO
    PUOP PUOX PUP PUR PURX PUT PUX PY PYP PYR PYRX PYT PYX QI QIE QIEP QIET QIEX QIP QIT QIX QO QOP
    QOT QOX QU QUO QUOP QUOT QUOX QUP QUR QURX QUT QUX QY QYP QYR QYRX QYT QYX RA RAP RAT RAX RE REP
    REX RO ROP ROT ROX RRA RRAX RRE RREP RRET RREX RRO RROP RROT RROX RRU RRUO RRUOX RRUP RRUR RRURX
    RRUT RRUX RRY RRYP RRYR RRYRX RRYT RRYX RU RUO RUOP RUOX RUP RUR RURX RUT RUX RY RYP RYR RYRX
    RYT RYX SA SAP SAT SAX SE SEP SEX SHA SHAP SHAT SHAX SHE SHEP SHET SHEX SHO SHOP SHOT SHOX SHU
    SHUO SHUOP SHUOX SHUP SHUR SHURX SHUT SHUX SHY SHYP SHYR SHYRX SHYT SHYX SI SIE SIEP SIEX SIP
    SIT SIX SO SOP SOT SOX SSA SSAP SSAT SSAX SSE SSEP SSEX SSI SSIE SSIEP SSIEX SSIP SSIT SSIX SSO
    SSOP SSOT SSOX SSU SSUP SSUT SSUX SSY SSYP SSYR SSYRX SSYT SSYX SU SUO SUOP SUOX SUP SUR SURX
    SUT SUX SY SYP SYR SYRX SYT SYX TA TAP TAT TAX TE TEP TEX TI TIE TIEP TIEX TIP TIT TIX TO TOP
    TOT TOX TU TUO TUOP TUOT TUOX TUP TUR TURX TUT TUX UO UOP UOX VA VAP VAT VAX VEP VEX VI VIE VIEP
    VIET VIEX VIP VIT VIX VO VOP VOT VOX VU VUP VUR VURX VUT VUX VY VYP VYR VYRX VYT VYX WA WAP WAT
    WAX WE WEP WEX WO WOP WOX WU WUO WUOP WUOX XI XIE XIEP XIET XIEX XIP XIT XIX XO XOP XOT XOX XUO
    XUOX XY XYP XYR XYRX XYT XYX YI YIE YIEP YIET YIEX YIP YIT YIX YO YOP YOT YOX YU YUO YUOP YUOT
    YUOX YUP YUR YURX YUT YUX YY YYP YYR YYRX YYT YYX ZA ZAP ZAT ZAX ZE ZEP ZEX ZHA ZHAP ZHAT ZHAX
    ZHE ZHEP ZHET ZHEX ZHO ZHOP ZHOT ZHOX ZHU ZHUO ZHUOP ZHUOX ZHUP ZHUR ZHURX ZHUT ZHUX ZHY ZHYP
    ZHYR ZHYRX ZHYT ZHYX ZI ZIE ZIEP ZIEX ZIP ZIT ZIX ZO ZOP ZOT ZOX ZU ZUO ZUOP ZUOX ZUP ZUR ZURX
    ZUT ZUX ZY ZYP ZYR ZYRX ZYT ZYX ZZA ZZAP ZZAT ZZAX ZZE ZZEP ZZEX ZZI ZZIE ZZIEP ZZIET ZZIEX ZZIP
    ZZIT ZZIX ZZO ZZOP ZZOX ZZU ZZUP ZZUR ZZURX ZZUX ZZY ZZYP ZZYR ZZYRX ZZYT ZZYX)) YIN( YANG)
    YO-YO Z( NOTATION( BAG( MEMBERSHIP) DOMAIN( ANTIRESTRICTION) LEFT( BINDING( BRACKET) IMAGE(
    BRACKET)) RANGE( ANTIRESTRICTION) RELATIONAL( COMPOSITION) RIGHT( BINDING( BRACKET) IMAGE(
    BRACKET)) SCHEMA( COMPOSITION PIPING PROJECTION) SPOT TYPE( COLON))) ZANABAZAR( SQUARE( CLOSING(
    DOUBLE-LINED( HEAD( MARK)) HEAD( MARK)) CLUSTER-FINAL( LETTER( LA RA VA YA)) CLUSTER-INITIAL(
    LETTER( RA)) FINAL( CONSONANT( MARK)) INITIAL( DOUBLE-LINED( HEAD( MARK)) HEAD( MARK)) LETTER(
    -A A BA BHA CA CHA DA DDA DDHA DHA DZA DZHA GA GHA HA JA KA KHA KSSA LA MA NA NGA NNA NYA PA PHA
    RA SA SHA SSA TA THA TSA TSHA TTA TTHA VA YA ZA ZHA) MARK( DOUBLE( SHAD) LONG( TSHEG) SHAD
    TSHEG) SIGN( ANUSVARA CANDRA( WITH( ORNAMENT)) CANDRABINDU( . WITH( ORNAMENT)) VIRAMA VISARGA)
    SUBJOINER VOWEL( LENGTH( MARK) SIGN( AI AU E I O OE REVERSED( I) U UE)))) ZEBRA( FACE) ZERO(
    WIDTH( JOINER NO-BREAK( SPACE) NON-JOINER SPACE)) ZEUS ZIPPER-MOUTH( FACE) ZNAMENNY( COMBINING(
    ATTACHING( VERTICAL( OMET)) LOWER( TONAL( RANGE( INDICATOR))) MARK( BORZAYA CHASHKA( . POLNAYA)
    CURVED( OMET) DEMESTVENNY( ZADERZHKA) DVOETOCHIE GORAZDO( NIZKO( ON( LEFT RIGHT) S( KRYZHEM( ON(
    LEFT RIGHT)))) VYSOKO) KACHKA KRYZH( . ON( LEFT)) KUPNAYA LOMKA MALO( POVYSHE( ON( LEFT RIGHT)
    S( KHOKHLOM( ON( LEFT RIGHT)) KRYZHEM) STRANNO)) NIZKO( ON( LEFT RIGHT) S( KRYZHEM( ON( LEFT
    RIGHT)))) OBLACHKO ON OTSECHKA PODCHASHIE( . WITH( VERTICAL( STROKE))) PODVERTKA POVYSHE( ON(
    LEFT RIGHT) S( KHOKHLOM( ON( LEFT RIGHT)) KRYZHEM) STRANNO) RAVNO RAZSEKA SKOBA SOROCHYA(
    NOZHKA) SREDNE( ON( LEFT RIGHT)) STRANNO( MALO( POVYSHE)) TIKHAYA TOCHKA TSATA( ON( LEFT RIGHT)
    S( KRYZHEM)) UDARKA VYSOKO( ON( LEFT RIGHT) S( KHOKHLOM( ON( LEFT RIGHT)) KRYZHEM)) ZADERZHKA
    ZELO ZEVOK) TONAL( RANGE( MARK( MRACHNO SVETLO TRESVETLO)))) NEUME( CHASHKA CHELYUSTKA
    DEMESTVENNY( KLYUCH) DERBITSA DOUBLE( ZAPYATAYA) DUDA DVA( V( CHELNU)) FITA GOLUBCHIK( BORZY
    MRACHNY SVETLY TIKHY TRESVETLY) KHAMILO KLYUCH KOBYLA KRYUK( . TIKHY) KRYZH KUFISMA MECHIK( .
    KLYUCHENEPOSTOYANNY KLYUCHEPOVODNY KLYUCHEVOY POVODNY) NEMKA OBLAKO OSOKA( . KLYUCHEVAYA(
    NEPOSTOYANNAYA SVETLAYA) KRYUKOVAYA( SVETLAYA) SVETLAYA TRESVETLAYA) PALKA PARAKLIT PAUK
    PEREVODKA( . NEPOSTOYANNAYA) PODCHASHIE POLKULIZMY REVERSED( CHELYUSTKA) ROG SKAMEYTSA(
    DVOECHELNAYA( KLYUCHEVAYA NEPOSTOYANNAYA PROSTAYA SVETLAYA) KLYUCHENEPOSTOYANNAYA KLYUCHEVAYA(
    SVETLAYA TIKHAYA) MRACHNAYA SVETLAYA TIKHAYA TRESVETLAYA) SLOZHITIE( . S( KRYZHEM ZAPYATOY)
    ZAKRYTOE) STATYA( . NEPOSTOYANNAYA S( DVUMYA( ZAPYATYMI) KRYZHEM( . I( ZAPYATOY)) ROGOM
    ZAPYATOY( . I( KRYZHEM PODCHASHIEM))) ZAKRYTAYA( . S( ZAPYATOY))) STOPITSA( . S( OCHKOM) WITH(
    SOROCHYA( NOZHKA))) STRELA( DVOECHELNAYA( . KLYUCHEVAYA) DVOECHELNOKRYZHEVAYA
    DVOECHELNOPOVODNAYA( . KLYUCHEVAYA) GROMNAYA( . WITH( SINGLE( ZAPYATAYA))) GROMOKRYZHEVAYA( .
    POVODNAYA) GROMOPOVODNAYA( . WITH( DOUBLE( ZAPYATAYA) SINGLE( ZAPYATAYA))) KLYUCHENEPOSTOYANNAYA
    KLYUCHEPOVODNAYA KRYUKOVAYA( . GROMNAYA( . WITH( SINGLE( ZAPYATAYA))) GROMOKRYZHEVAYA( .
    POVODNAYA) GROMOPOVODNAYA( . WITH( DOUBLE( ZAPYATAYA) SINGLE( ZAPYATAYA))) POVODNAYA TRYASKA)
    KRYZHEVAYA MRACHNOTIKHAYA NEPOSTOYANNAYA POLUPOVODNAYA POVODNAYA PROSTAYA TIKHAYA( PUTNAYA)
    TRYASOGLASNAYA TRYASOPOVODNAYA TRYASOSTRELNAYA) VRAKHIYA( KLYUCHEVAYA( MRACHNAYA PROSTAYA
    SVETLAYA TRESVETLAYA) MRACHNAYA PROSTAYA SVETLAYA TRESVETLAYA) ZANOZHEK ZAPYATAYA ZMEYTSA)
    PRIZNAK( MODIFIER( DIRECTION( FLIP) KRYZH LEVEL-2 LEVEL-3 ROG))) ZOMBIE ZWJ ZWNBSP ZWNJ ZWSP"

end Text
end ShadowLint
