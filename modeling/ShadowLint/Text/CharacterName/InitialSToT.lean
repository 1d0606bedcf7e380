/-!
# Names that begin with a letter from S to T

The names of characters that begin with a letter from S to T, as a tree of words in the form
that the module on names reads.
-/

namespace ShadowLint
namespace Text

/-- The names that begin with a letter from S to T. -/
def characterNamesSToT : String :=
    "S( IN( TRIANGLE)) SAFETY( PIN VEST) SAGITTARIUS SAILBOAT SAKE( BOTTLE( AND( CUP))) SALT(
    SHAKER) SALTIRE SALUTING( FACE) SAMARITAN( ABBREVIATION( MARK) LETTER( ALAF BAA BIT DALAT FI
    GAMAN IN IT IY KAAF LABAT MIM NUN QUF RISH SHAN SINGAAT TAAF TIT TSAADIY YUT ZEN) MARK( DAGESH
    EPENTHETIC( YUT) IN IN-ALAF NEQUDAA OCCLUSION) MODIFIER( LETTER( EPENTHETIC( YUT) I SHORT( A)))
    PUNCTUATION( AFSAAQ ANGED ANNAAU ARKAANU ATMAAU BAU MELODIC( QITSA) NEQUDAA QITSA SHIYYAALAA
    SOF( MASHFAAT) TURU ZAEF ZIQAA) VOWEL( SIGN( A AA E I LONG( A AA E I U) O OVERLONG( A AA) SHORT(
    A) SUKUN U))) SANDWICH SANS-SERIF( HEAVY( DOUBLE( COMMA( QUOTATION( MARK( ORNAMENT))) TURNED(
    COMMA( QUOTATION( MARK( ORNAMENT))))) LOW( DOUBLE( COMMA( QUOTATION( MARK( ORNAMENT))))))
    INTERROBANG( ORNAMENT)) SARI SATELLITE( . ANTENNA) SATURN SAURASHTRA( CONSONANT( SIGN( HAARU))
    DANDA DIGIT( EIGHT FIVE FOUR NINE ONE SEVEN SIX THREE TWO ZERO) DOUBLE( DANDA) LETTER( A AA AI
    AU BA BHA CA CHA DA DDA DDHA DHA E EE GA GHA HA I II JA JHA KA KHA LA LLA MA NA NGA NNA NYA O OO
    PA PHA RA SA SHA SSA TA THA TTA TTHA U UU VA VOCALIC( L LL R RR) YA) SIGN( ANUSVARA CANDRABINDU
    VIRAMA VISARGA) VOWEL( SIGN( AA AI AU E EE I II O OO U UU VOCALIC( L LL R RR)))) SAUROPOD
    SAXOPHONE SCALES SCARF SCHOOL( . SATCHEL) SCI SCOOTER SCORPION SCORPIUS SCREEN SCREWDRIVER
    SCRIPT( CAPITAL( B E F H I L M P R) LIGATURE( ET( ORNAMENT)) SMALL( E G L O)) SCROLL SCRUPLE
    SEAL SEAT SECOND( PLACE( MEDAL)) SECTION( SIGN) SECTOR SEDNA SEE-NO-EVIL( MONKEY) SEEDLING
    SEGMENT SEGMENTED( DIGIT( EIGHT FIVE FOUR NINE ONE SEVEN SIX THREE TWO ZERO)) SELFIE SEMICOLON
    SEMIDIRECT( PRODUCT( WITH( BOTTOM( CLOSED)))) SEMISEXTILE SEPARATED( SYMBOL) SERIOUS( FACE(
    WITH( SYMBOLS( COVERING( MOUTH))))) SERVICE( MARK) SESAME( DOT) SESQUIQUADRATE SET( MINUS
    TRANSMIT( STATE)) SEWING( NEEDLE) SEXTILE SGC SHADOWED( WHITE( CIRCLE LATIN( CROSS) STAR))
    SHALLOW( PAN( OF( FOOD))) SHAMROCK SHARADA( ABBREVIATION( SIGN) CONTINUATION( SIGN) DANDA DIGIT(
    EIGHT FIVE FOUR NINE ONE SEVEN SIX THREE TWO ZERO) DOUBLE( DANDA) EKAM EXTRA( SHORT( VOWEL(
    MARK))) HEADSTROKE LETTER( A AA AI AU BA BHA CA CHA DA DDA DDHA DHA E GA GHA HA I II JA JHA KA
    KHA LA LLA MA NA NGA NNA NYA O PA PHA RA SA SHA SSA TA THA TTA TTHA U UU VA VOCALIC( L LL R RR)
    YA) OM SANDHI( MARK) SECTION( MARK-1 MARK-2) SEPARATOR SIGN( ANUSVARA AVAGRAHA CANDRABINDU
    INVERTED( CANDRABINDU) JIHVAMULIYA NUKTA SIDDHAM UPADHMANIYA VIRAMA VISARGA) SUTRA( MARK) VOWEL(
    MODIFIER( MARK) SIGN( AA AI AU E I II O PRISHTHAMATRA( E) U UU VOCALIC( L LL R RR)))) SHARK
    SHAVED( ICE) SHAVIAN( LETTER( ADO AGE AH AIR ARE ARRAY ASH AWE BIB CHURCH DEAD EAR EAT EGG ERR
    FEE GAG HA-HA HUNG IAN ICE IF JUDGE KICK LOLL MEASURE MIME NUN OAK OIL ON OOZE OR OUT PEEP ROAR
    SO SURE THEY THIGH TOT UP VOW WOE WOOL YEA YEW ZOO)) SHEEP SHIELD SHIFT( IN OUT) SHINTO( SHRINE)
    SHIP SHOCKED( FACE( WITH( EXPLODING( HEAD)))) SHOOTING( STAR) SHOPPING( BAGS TROLLEY) SHORT(
    BACKSLANTED( SOUTH( ARROW)) BENT( ARROW( POINTING( DOWNWARDS( THEN( NORTH( EAST)))))) DOWN(
    TACK( . WITH( OVERBAR))) LEFT( TACK) RIGHTWARDS( ARROW( ABOVE( LEFTWARDS( ARROW)))) SLANTED(
    NORTH( ARROW)) UP( TACK( . ABOVE( SHORT( DOWN( TACK))) WITH( UNDERBAR)))) SHORTCAKE SHORTHAND(
    FORMAT( CONTINUING( OVERLAP) DOWN( STEP) LETTER( OVERLAP) UP( STEP))) SHORTS SHOULDERED( OPEN(
    BOX)) SHOWER SHRIMP SHRUG SHUFFLE( PRODUCT) SHY SI SIDDHAM( DANDA DOUBLE( DANDA) END( OF( TEXT(
    MARK))) LETTER( A AA AI ALTERNATE( U) AU BA BHA CA CHA DA DDA DDHA DHA E GA GHA HA I II JA JHA
    KA KHA LA MA NA NGA NNA NYA O PA PHA RA SA SHA SSA TA THA THREE-CIRCLE( ALTERNATE( I)) TTA TTHA
    TWO-CIRCLE( ALTERNATE( I II)) U UU VA VOCALIC( L LL R RR) YA) REPETITION( MARK-1 MARK-2 MARK-3)
    SECTION( MARK( DOUBLE( RING( . WITH( RAYS))) WITH( CIRCLES( AND( FOUR( ENCLOSURES) RAYS TWO(
    ENCLOSURES))) DOUBLE( CRESCENTS) QUADRUPLE( CRESCENTS) RAYS( AND( DOTTED( CRESCENTS DOUBLE(
    CRESCENTS) TRIPLE( CRESCENTS)))) SEPTUPLE( CRESCENTS) TRIDENT( AND( DOTTED( CRESCENTS) U-SHAPED(
    ORNAMENTS))) TRIPLE( CRESCENTS)))) SEPARATOR( BAR DOT) SIGN( ANUSVARA CANDRABINDU NUKTA SIDDHAM
    VIRAMA VISARGA) VOWEL( SIGN( AA AI ALTERNATE( U UU) AU E I II O U UU VOCALIC( R RR)))) SIDEWAYS(
    BLACK( DOWN( POINTING( INDEX)) LEFT( POINTING( INDEX)) RIGHT( POINTING( INDEX)) UP( POINTING(
    INDEX))) WHITE( DOWN( POINTING( INDEX)) LEFT( POINTING( INDEX)) RIGHT( POINTING( INDEX)) UP(
    POINTING( INDEX)))) SIGN( OF( THE( HORNS))) SIGNWRITING( AIR( BLOW( SMALL( ROTATIONS)) BLOWING(
    OUT) SUCK( SMALL( ROTATIONS)) SUCKING( IN)) BREATH( EXHALE INHALE) BRUSH( BETWEEN MULTIPLE
    SINGLE) CHEEKS( NEUTRAL PUFFED SUCKED) COLON COMMA DREAMY( EYEBROWS( DOWN( NEUTRAL) NEUTRAL(
    DOWN UP) UP( NEUTRAL))) DYNAMIC( ARROWHEAD( LARGE SMALL) EVERY( OTHER( TIME)) FAST GRADUAL
    RELAXED SIMULTANEOUS( . ALTERNATING) SLOW TENSE) EARS EXCITEMENT EYE( BLINK( MULTIPLE SINGLE)
    WINK) EYEBROWS( STRAIGHT( DOWN NEUTRAL UP)) EYEGAZE-FLOORPLANE( CURVED STRAIGHT( . ALTERNATING
    DOUBLE)) EYEGAZE-WALLPLANE( CIRCLING CURVED STRAIGHT( . ALTERNATING DOUBLE)) EYELASHES( DOWN
    FLUTTERING UP) EYES( CLOSED HALF( CLOSED OPEN) OPEN SQUEEZED WIDE( OPEN) WIDENING( MOVEMENT))
    FACE( DIRECTION( POSITION( NOSE( FORWARD( TILTING) UP( OR( DOWN( . TILTING))))))) FILL(
    MODIFIER-2 MODIFIER-3 MODIFIER-4 MODIFIER-5 MODIFIER-6) FINGER FLICK( LARGE( MULTIPLE SINGLE)
    SEQUENTIAL SMALL( MULTIPLE SINGLE)) FLOORPLANE( SHOULDER( HIP( MOVE))) FOREHEAD( CONTACT NEUTRAL
    WRINKLED) FULL( STOP) GRASP( BETWEEN MULTIPLE SINGLE) HAIR HAND-ANGLE( . INDEX( . MIDDLE( LITTLE
    RING) RING( LITTLE( . OUT)) THUMB( . IN OUT)) LITTLE( INDEX( . THUMB( INDEX( THUMB( . OUT))))
    UP) MIDDLE( RING( LITTLE( . IN OUT))) RING( DOWN( MIDDLE( THUMB( INDEX( CROSS)))) LITTLE))
    HAND-CIRCLE( . INDEX( . BENT HINGE MIDDLE( . CROSS( LITTLE) CROSSED LITTLE RING THUMB) RING(
    LITTLE)) LITTLE( INDEX UP) MIDDLE( RING( LITTLE( . BENT)) UP) RING( LITTLE)) HAND-CLAW( . FOUR(
    FINGERS( CONJOINED)) INDEX( THUMB( CURVE( THUMB( INSIDE)))) MIDDLE( RING( LITTLE( CONJOINED( .
    SIDE)))) NO( THUMB) THUMB( FORWARD SIDE)) HAND-CUP( . FIVE( FINGERS( SPREAD( . OPEN))) INDEX( .
    RING( LITTLE) THUMB( . OPEN)) MIDDLE( RING( LITTLE)) NO( THUMB) OPEN( . NO( THUMB) THUMB(
    FORWARD SIDE)) THUMB( FORWARD SIDE)) HAND-CURLICUE( . INDEX( RING( LITTLE( ON))) MIDDLE( RING(
    LITTLE( ON))) OPEN) HAND-FIST( . FOUR( FINGERS( CONJOINED( BENT))) HEEL INDEX( . BENT( . OVER(
    MIDDLE)) CUPPED HINGED( . LOW MIDDLE( UP( . THUMB( SIDE)))) MIDDLE( . BENT( . THUMB( STRAIGHT))
    CONJOINED( . CUPPED( . THUMB( FORWARD)) HINGED( . THUMB( SIDE)) INDEX( BENT) MIDDLE( BENT)
    THUMB( FORWARD SIDE( . BENT CONJOINED))) CROSS( LITTLE) CROSSED( . THUMB( SIDE)) HINGED( .
    SPREAD( THUMB( SIDE))) LITTLE RAISED( KNUCKLES) RING( . BENT CONJOINED) STRAIGHT( THUMB( BENT))
    THUMB( . ANGLED( . OUT) BENT CIRCLED CONJOINED( HINGED) CUPPED HINGED HOOKED) UP( SPREAD( THUMB(
    FORWARD)))) RAISED( KNUCKLE) RING( LITTLE) THUMB( ANGLED( IN( MIDDLE( UP)) OUT( MIDDLE( UP)))
    CIRCLE CIRCLED( MIDDLE( UP)) CUPPED( MIDDLE( UP)) CURLICUE CURVE( THUMB( INSIDE UNDER)) FORWARD(
    INDEX( BENT STRAIGHT)) HOOK HOOKED( MIDDLE( HINGED UP)) SIDE( . BOTH( BENT) INDEX( BENT HINGE)
    THUMB( BENT CONJOINED DIAGONAL))) UP( MIDDLE( HINGED( . THUMB( CONJOINED SIDE))))) LITTLE( BENT
    DOWN( . OTHERS( CIRCLED) RIPPLE( CURVED STRAIGHT)) INDEX( . THUMB) RAISED( KNUCKLE) THUMB
    TOUCHES( THUMB) UP) MIDDLE( BENT( OVER( INDEX)) DOWN LITTLE RAISED( KNUCKLE) RING( LITTLE)
    THUMB( ANGLED( INDEX( UP) OUT( INDEX( CROSSED UP))) CIRCLED( INDEX( HINGED UP)) CUPPED( INDEX(
    UP)) HOOKED( INDEX( UP)) LITTLE) UP( . THUMB( SIDE))) RING( DOWN INDEX LITTLE MIDDLE( .
    CONJOINED RAISED( KNUCKLES)) RAISED( KNUCKLE) THUMB UP) THUMB( . BETWEEN( INDEX( MIDDLE( .
    STRAIGHT)) MIDDLE( RING) RING( LITTLE)) FORWARD HEEL OVER( FOUR( RAISED( KNUCKLES)) TWO(
    FINGERS)) SIDE( BENT CONJOINED DIAGONAL) UNDER( FOUR( FINGERS) INDEX( BENT) LITTLE( UP) THREE(
    FINGERS) TWO( FINGERS)))) HAND-FLAT( . BETWEEN( PALM( FACINGS)) FIVE( FINGERS( SPREAD( . BENT
    FOUR( BENT) HINGED( . NO( THUMB) THUMB( SIDE)) THUMB( FORWARD)))) FOUR( FINGERS( . BENT
    CONJOINED( . SPLIT) HINGED)) HEEL( . FIVE( FINGERS( SPREAD( . BENT FOUR( BENT)))) THUMB( SIDE))
    SPLIT( CENTRE( . THUMB( SIDE( . BENT))) INDEX( THUMB( SIDE)) LITTLE) THUMB( BENT FORWARD SIDE))
    HAND-HINGE( . FIVE( FINGERS( SPREAD( OPEN))) FOUR( FINGERS( CONJOINED)) INDEX( . HINGED MIDDLE(
    LITTLE RING( . CONJOINED)) RING( LITTLE) THUMB( . LARGE OPEN SIDE SMALL)) LITTLE( . INDEX( .
    THUMB) THUMB) MIDDLE( . RING( LITTLE)) NO( THUMB) OPEN( . NO( THUMB) THUMB( FORWARD SIDE)) RING(
    . DOWN( INDEX( THUMB( HOOK( MIDDLE))))) SMALL THUMB( BETWEEN( MIDDLE( RING)) SIDE( . TOUCHING(
    INDEX)))) HAND-HOOK( . CURLICUE INDEX( RING( LITTLE( IN OUT UNDER))) MIDDLE( RING( LITTLE(
    CONJOINED( . IN OUT))) THUMB) RING( THUMB)) HAND-OVAL( . FIVE( FINGERS( SPREAD)) INDEX LITTLE(
    UP) NO( THUMB) RING( LITTLE) THUMB( FORWARD SIDE)) HEAD( . MOVEMENT( CIRCLE)
    MOVEMENT-FLOORPLANE( CURVE STRAIGHT) MOVEMENT-WALLPLANE( CURVE STRAIGHT TILT) RIM) LIMB(
    COMBINATION LENGTH-1 LENGTH-2 LENGTH-3 LENGTH-4 LENGTH-5 LENGTH-6 LENGTH-7) LIP( LOWER( OVER(
    UPPER)) UPPER( OVER( LOWER))) LIPS( PRESSED( TOGETHER)) LOCATION( DEPTH HEAD( NECK) HEIGHT
    LIMBS( DIGITS) TORSO WIDTH) LOCATION-FLOORPLANE( SPACE) LOCATION-WALLPLANE( SPACE) MOUTH(
    CLOSED( CONTACT FORWARD NEUTRAL) CORNERS FROWN( . OPEN WRINKLED) KISS( . FORWARD WRINKLED) OPEN(
    CIRCLE FORWARD OVAL( . WRINKLED YAWN) RECTANGLE( . WRINKLED YAWN) WRINKLED) SMILE( . OPEN
    WRINKLED) TENSE( . FORWARD SUCKED) WRINKLES( DOUBLE SINGLE)) MOVEMENT-DIAGONAL( AWAY( LARGE
    LARGEST MEDIUM SMALL) BETWEEN( AWAY( LARGE LARGEST MEDIUM SMALL) TOWARDS( LARGE LARGEST MEDIUM
    SMALL)) TOWARDS( LARGE LARGEST MEDIUM SMALL)) MOVEMENT-FLOORPLANE( ARM( CIRCLE( HITTING( WALL(
    LARGE( DOUBLE SINGLE) MEDIUM( DOUBLE SINGLE) SMALL( DOUBLE SINGLE))))) BEND BOX( LARGE MEDIUM
    SMALL) CHECK CORNER( LARGE MEDIUM SMALL) CROSS CURVE( COMBINED HITTING( CEILING( LARGE SMALL)
    FLOOR( LARGE SMALL)) LARGE LARGEST MEDIUM SMALL) DOUBLE( ALTERNATING( . WRIST( FLEX)) STRAIGHT
    WRIST( FLEX)) FINGER( CIRCLES( HITTING( WALL( DOUBLE SINGLE))) CONTACT) HUMP( HITTING( CEILING(
    LARGE( DOUBLE TRIPLE) SMALL( DOUBLE TRIPLE)) FLOOR( LARGE( DOUBLE) SMALL( DOUBLE) TRIPLE( LARGE(
    TRIPLE) SMALL( TRIPLE)))) SMALL) JAW LOOP( HITTING( CEILING( LARGE( DOUBLE SINGLE) SMALL( DOUBLE
    SINGLE)) FLOOR( LARGE( DOUBLE SINGLE) SMALL( DOUBLE SINGLE))) SMALL) PEAKS( LARGE MEDIUM SMALL)
    SHAKING( PARALLEL) SINGLE( STRAIGHT( LARGE LARGEST MEDIUM SMALL) WRIST( FLEX)) TRIPLE(
    ALTERNATING( MOVEMENT WRIST( FLEX)) STRAIGHT( MOVEMENT) WRIST( FLEX)) WAVE( HITTING( CEILING(
    LARGE SMALL) FLOOR( LARGE SMALL)) LARGE SMALL SNAKE) WRIST( CIRCLE( HITTING( WALL( DOUBLE
    SINGLE)))) ZIGZAG( LARGE MEDIUM SMALL)) MOVEMENT-HINGE( DOWN( SEQUENTIAL) SIDE( TO( SIDE(
    SCISSORS))) UP( DOWN( ALTERNATING( LARGE SMALL) LARGE SMALL) SEQUENTIAL)) MOVEMENT-WALLPLANE(
    ARM( CIRCLE( MEDIUM( DOUBLE SINGLE) SMALL( DOUBLE SINGLE))) BEND( LARGE MEDIUM SMALL) BOX( LARGE
    MEDIUM SMALL) CHECK( LARGE MEDIUM SMALL) CORNER( LARGE MEDIUM ROTATION SMALL) CROSS CURVE(
    HALF-CIRCLE( LARGE LARGEST MEDIUM SMALL) HITTING( CHEST FRONT( WALL)) QUARTER( LARGE LARGEST
    MEDIUM SMALL) THEN( STRAIGHT) THREE-QUARTER( CIRCLE( MEDIUM SMALL))) CURVED( CROSS( MEDIUM
    SMALL)) DOUBLE( ALTERNATING( . WRIST( FLEX)) STRAIGHT WRIST( FLEX)) FINGER( CIRCLES( DOUBLE
    SINGLE) CONTACT) HUMP( HITTING( CHEST FRONT( WALL)) LARGE MEDIUM SMALL) JAW LOOP( HITTING( CHEST
    FRONT( WALL)) LARGE MEDIUM SMALL( . DOUBLE)) PEAKS( LARGE MEDIUM SMALL) SHAKING SINGLE(
    STRAIGHT( LARGE LARGEST MEDIUM SMALL) WRIST( FLEX)) TRIPLE( ALTERNATING( . WRIST( FLEX))
    STRAIGHT( MOVEMENT) WRIST( FLEX)) WAVE( CURVE( DOUBLE( LARGE MEDIUM SMALL) TRIPLE( LARGE MEDIUM
    SMALL)) DIAGONAL( PATH( LARGE MEDIUM SMALL)) HITTING( CHEST FRONT( WALL))) WRIST( CIRCLE( FRONT(
    DOUBLE SINGLE))) ZIGZAG( LARGE MEDIUM SMALL)) NECK NOSE( CONTACT NEUTRAL WIGGLES WRINKLES)
    PARENTHESIS ROTATION( MODIFIER-10 MODIFIER-11 MODIFIER-12 MODIFIER-13 MODIFIER-14 MODIFIER-15
    MODIFIER-16 MODIFIER-2 MODIFIER-3 MODIFIER-4 MODIFIER-5 MODIFIER-6 MODIFIER-7 MODIFIER-8
    MODIFIER-9) ROTATION-FLOORPLANE( ALTERNATING( . HITTING( CEILING FLOOR)) DOUBLE( . HITTING(
    CEILING FLOOR)) SINGLE( . HITTING( CEILING FLOOR))) ROTATION-WALLPLANE( ALTERNATE ALTERNATING(
    HITTING( CHEST FRONT( WALL))) DOUBLE( . HITTING( CHEST FRONT( WALL))) SINGLE( . HITTING( CHEST
    FRONT( WALL)))) RUB( BETWEEN MULTIPLE SINGLE) SEMICOLON SHOULDER( HIP( POSITIONS SPINE) TILTING(
    FROM( WAIST))) SQUEEZE( FLICK( ALTERNATING) LARGE( MULTIPLE SINGLE) SEQUENTIAL SMALL( MULTIPLE
    SINGLE)) STRIKE( BETWEEN MULTIPLE SINGLE) SURFACE( BETWEEN SYMBOLS) TEETH( . BITE( LIPS)
    MOVEMENT ON( LIPS( . MOVEMENT) TONGUE( . MOVEMENT))) TENSE( CHEEKS( HIGH LOW MIDDLE)) TONGUE(
    CENTRE( INSIDE( MOUTH) STICKING( OUT)) INSIDE( MOUTH( RELAXED)) LICKING( LIPS) MOVES( AGAINST(
    CHEEK)) STICKING( OUT( FAR)) TIP( BETWEEN( LIPS) TOUCHING( INSIDE( MOUTH)))) TORSO-FLOORPLANE(
    TWISTING) TORSO-WALLPLANE( CURVED( BEND) STRAIGHT( STRETCH)) TOUCH( BETWEEN MULTIPLE SINGLE)
    TRAVEL-FLOORPLANE( ROTATION-FLOORPLANE( ALTERNATING DOUBLE SINGLE) ROTATION-WALLPLANE(
    ALTERNATING DOUBLE SINGLE) SHAKING) TRAVEL-WALLPLANE( ARM( SPIRAL( DOUBLE SINGLE TRIPLE))
    ROTATION-FLOORPLANE( ALTERNATING DOUBLE SINGLE) ROTATION-WALLPLANE( ALTERNATING DOUBLE SINGLE)
    SHAKING) UPPER( BODY( TILTING( FROM( HIP( JOINTS))))) WALLPLANE( SHOULDER( HIP( MOVE))))
    SILHOUETTE( OF( JAPAN)) SIMILAR( ABOVE( GREATER-THAN( ABOVE( EQUALS( SIGN))) LESS-THAN( ABOVE(
    EQUALS( SIGN)))) MINUS( SIMILAR) OR( GREATER-THAN LESS-THAN)) SINE( WAVE) SINGLE( CHARACTER(
    INTRODUCER) GRAPHIC( CHARACTER( INTRODUCER)) HIGH-REVERSED-9( QUOTATION( MARK)) LEFT-POINTING(
    ANGLE( QUOTATION( MARK))) LOW-9( QUOTATION( MARK)) RIGHT-POINTING( ANGLE( QUOTATION( MARK)))
    SHIFT( THREE TWO)) SINGLE-SHIFT-2 SINGLE-SHIFT-3 SINHALA( ARCHAIC( DIGIT( EIGHT FIVE FOUR NINE
    ONE SEVEN SIX THREE TWO) NUMBER( EIGHTY FIFTY FORTY NINETY ONE( HUNDRED THOUSAND) SEVENTY SIXTY
    TEN THIRTY TWENTY)) LETTER( AAYANNA AEEYANNA AEYANNA AIYANNA ALPAPRAANA( BAYANNA CAYANNA DAYANNA
    DDAYANNA GAYANNA JAYANNA KAYANNA PAYANNA TAYANNA TTAYANNA) AMBA( BAYANNA) AUYANNA AYANNA
    DANTAJA( LAYANNA NAYANNA SAYANNA) EEYANNA EYANNA FAYANNA HAYANNA IIYANNA ILUUYANNA ILUYANNA
    IRUUYANNA IRUYANNA IYANNA KANTAJA( NAASIKYAYA) MAHAAPRAANA( BAYANNA CAYANNA DAYANNA DDAYANNA
    GAYANNA JAYANNA KAYANNA PAYANNA TAYANNA TTAYANNA) MAYANNA MUURDHAJA( LAYANNA NAYANNA SAYANNA)
    OOYANNA OYANNA RAYANNA SANYAKA( DAYANNA DDAYANNA GAYANNA JAYANNA) TAALUJA( NAASIKYAYA SANYOOGA(
    NAAKSIKYAYA) SAYANNA) UUYANNA UYANNA VAYANNA YAYANNA) LITH( DIGIT( EIGHT FIVE FOUR NINE ONE
    SEVEN SIX THREE TWO ZERO)) PUNCTUATION( KUNDDALIYA) SIGN( AL-LAKUNA ANUSVARAYA CANDRABINDU
    VISARGAYA) VOWEL( SIGN( AELA-PILLA DIGA( AEDA-PILLA GAETTA-PILLA GAYANUKITTA IS-PILLA KOMBUVA
    PAA-PILLA) GAETTA-PILLA GAYANUKITTA KETTI( AEDA-PILLA IS-PILLA PAA-PILLA) KOMBU( DEKA) KOMBUVA(
    . HAA( AELA-PILLA DIGA( AELA-PILLA) GAYANUKITTA))))) SIX( PETALLED( BLACK( AND( WHITE(
    FLORETTE)))) POINTED( BLACK( STAR) PINWHEEL( STAR) STAR( WITH( MIDDLE( DOT))))) SIX-PER-EM(
    SPACE) SIXTEEN( POINTED( ASTERISK)) SKATEBOARD SKI( AND( SKI( BOOT))) SKIER SKULL( . AND(
    CROSSBONES)) SKUNK SLANTED( EQUAL( TO( OR( GREATER-THAN( . WITH( DOT( INSIDE))) LESS-THAN( .
    WITH( DOT( INSIDE)))))) NORTH( ARROW( WITH( HOOKED( HEAD) HORIZONTAL( TAIL))))) SLAVONIC(
    ASTERISK) SLED SLEEPING( ACCOMMODATION FACE SYMBOL) SLEEPY( FACE) SLEUTH( OR( SPY)) SLICE( OF(
    PIZZA)) SLIGHTLY( FROWNING( FACE) SMILING( FACE)) SLOPE SLOPING( LARGE( AND OR)) SLOT( MACHINE)
    SLOTH SMALL( AIRPLANE AMPERSAND ASTERISK BLUE( DIAMOND) COLON COMMA COMMERCIAL( AT) CONTAINS(
    AS( MEMBER) WITH( OVERBAR VERTICAL( BAR( AT( END( OF( HORIZONTAL( STROKE)))))))) DOLLAR( SIGN)
    ELEMENT( OF( . WITH( OVERBAR VERTICAL( BAR( AT( END( OF( HORIZONTAL( STROKE))))))))) EM( DASH)
    EQUALS( SIGN) EXCLAMATION( MARK) FULL( STOP) GREATER-THAN( SIGN) HYPHEN-MINUS IDEOGRAPHIC(
    COMMA) LEFT( CURLY( BRACKET) PARENTHESIS TORTOISE( SHELL( BRACKET))) LESS-THAN( SIGN) NUMBER(
    SIGN) ORANGE( DIAMOND) PERCENT( SIGN) PLUS( SIGN) QUESTION( MARK) REVERSE( SOLIDUS) RIGHT(
    CURLY( BRACKET) PARENTHESIS TORTOISE( SHELL( BRACKET))) ROMAN( NUMERAL( EIGHT ELEVEN FIFTY FIVE(
    . HUNDRED) FOUR NINE ONE( . HUNDRED THOUSAND) SEVEN SIX TEN THREE TWELVE TWO)) SEMICOLON TILDE
    TWO( DOTS( OVER( ONE( DOT( PUNCTUATION))))) VEE( WITH( UNDERBAR))) SMALLER( THAN( . OR( EQUAL(
    TO)))) SMASH( PRODUCT) SMILE SMILING( CAT( FACE( WITH( HEART-SHAPED( EYES) OPEN( MOUTH)))) FACE(
    WITH( HALO HEART-SHAPED( EYES) HORNS OPEN( MOUTH( . AND( COLD( SWEAT) SMILING( EYES)
    TIGHTLY-CLOSED( EYES)))) SMILING( EYES( . AND( HAND( COVERING( MOUTH)) THREE( HEARTS))))
    SUNGLASSES TEAR))) SMIRKING( FACE) SMOKING( SYMBOL) SNAIL SNAKE SNEEZING( FACE) SNOW( CAPPED(
    MOUNTAIN)) SNOWBOARDER SNOWFLAKE SNOWMAN( . WITHOUT( SNOW)) SO SOCCER( BALL) SOCKS SOFT( HYPHEN
    ICE( CREAM) SHELL( FLOPPY( DISK))) SOFTBALL SOFTWARE-FUNCTION( SYMBOL) SOGDIAN( COMBINING(
    CURVE( ABOVE BELOW) DOT( ABOVE BELOW) HOOK( ABOVE BELOW) LONG( HOOK( BELOW)) RESH( BELOW)
    STROKE( BELOW) TWO( DOTS( ABOVE BELOW))) INDEPENDENT( SHIN) LETTER( ALEPH AYIN BETH FETH GIMEL
    HE HETH KAPH LAMEDH LESH MEM NUN PE RESH-AYIN SADHE SAMEKH SHIN TAW WAW YODH ZAYIN) NUMBER( ONE(
    . HUNDRED) TEN TWENTY) PUNCTUATION( CIRCLE( WITH( DOT)) HALF( CIRCLE( WITH( DOT))) TWO( CIRCLES(
    WITH( DOTS)) VERTICAL( BARS( . WITH( DOTS)))))) SOH SOLID( QUILT( SQUARE( ORNAMENT( . IN( BLACK(
    SQUARE)))))) SOLIDUS( . WITH( OVERBAR)) SOM( SIGN) SOON( WITH( RIGHTWARDS( ARROW( ABOVE))))
    SORA( SOMPENG( DIGIT( EIGHT FIVE FOUR NINE ONE SEVEN SIX THREE TWO ZERO) LETTER( AH BAH CAH DAH
    EEH EH GAH HAH IH JAH KAH LAH MAE MAH NAH NGAH NYAH OH PAH RAH SAH TAH UH VAH YAH))) SOS SOUTH(
    EAST( ARROW( . AND( SOUTH( WEST( ARROW))) CROSSING( NORTH( EAST( ARROW))) TO( CORNER) WITH(
    HOOK)) BLACK( ARROW) DOUBLE( ARROW) POINTING( BUD LEAF VINE( LEAF)) SANS-SERIF( ARROW)
    TRIANGLE-HEADED( ARROW( . TO( BAR))) WHITE( ARROW)) WEST( ARROW( . AND( NORTH( WEST( ARROW)))
    WITH( HOOK)) BLACK( ARROW) DOUBLE( ARROW) POINTING( BUD LEAF VINE( LEAF)) SANS-SERIF( ARROW)
    TRIANGLE-HEADED( ARROW( . TO( BAR))) WHITE( ARROW))) SOYOMBO( CLUSTER-INITIAL( LETTER( LA RA SA
    SHA)) FINAL( CONSONANT( SIGN( -A B D G K L M N NG R S SH))) GEMINATION( MARK) HEAD( MARK( WITH(
    MOON( AND( SUN( . AND( FLAME TRIPLE( FLAME)))))))) LETTER( -A A BA BHA CA CHA DA DDA DDHA DHA
    DZA GA GHA HA JA JHA KA KHA KSSA LA MA NA NGA NNA NYA PA PHA RA SA SHA SSA TA THA TSA TSHA TTA
    TTHA VA YA ZA ZHA) MARK( DOUBLE( SHAD) PLUTA SHAD TSHEG) SIGN( ANUSVARA JIHVAMULIYA UPADHMANIYA
    VISARGA) SUBJOINER TERMINAL( MARK-1 MARK-2) VOWEL( LENGTH( MARK) SIGN( AI AU E I O OE U UE
    VOCALIC( L R)))) SP SPA SPACE SPAGHETTI SPARKLE SPARKLES SPARKLING( HEART) SPEAK-NO-EVIL(
    MONKEY) SPEAKER( . WITH( CANCELLATION( STROKE) ONE( SOUND( WAVE)) THREE( SOUND( WAVES))))
    SPEAKING( HEAD( IN( SILHOUETTE))) SPEECH( BALLOON) SPEEDBOAT SPESMILO( SIGN) SPHERICAL( ANGLE( .
    OPENING( LEFT UP))) SPIDER( . WEB) SPIRAL( CALENDAR( PAD) NOTE( PAD) SHELL) SPLASHING( SWEAT(
    SYMBOL)) SPONGE SPOOL( OF( THREAD)) SPOON SPORTS( MEDAL) SPOUTING( WHALE) SQUARE( A( OVER( M))
    AARU AM ANPEA APAATO ARUHUA AU BAARERU BAR BEETA BIRU BORUTO BQ BUSSYERU C( OVER( KG)) CAL CAP
    CC CD CM( . CUBED SQUARED) CO CORPORATION CUP DA DAASU DB DESI DJ DL DM( . CUBED SQUARED) DORU
    EEKAA ERA( NAME( HEISEI MEIZI REIWA SYOUWA TAISYOU)) ERG ESUKUUDO EV FM FOOT FOUR( CORNERS) GAL
    GANMA GARON GB GHZ GIGA GINII GIRUDAA GPA GURAMU GURAMUTON GY HA HAITU HEKUTAARU HERUTU HG
    HIRAGANA( HOKA) HON HOON HOORU HP HPA HUARADDO HUIITO HURAN HZ IMAGE( OF( . OR( EQUAL( TO) NOT(
    EQUAL( TO))))) IN ININGU INTI IU K( OHM) KA KAIRI KARATTO KARORII KB KCAL KEESU KG KHZ KIRO
    KIROGURAMU KIROMEETORU KIROWATTO KK KL KM( . CAPITAL CUBED SQUARED) KOOPO KORUNA KPA KT KUROONE
    KURUZEIRO KV KW KYURII LEFT( OPEN( BOX( OPERATOR))) LM LN LOG LOZENGE LX M( CUBED OHM OVER( S( .
    SQUARED)) SQUARED) MA MAHHA MAIKURO MAIRU MANSYON MARUKU MB( . SMALL) MEETORU MEGA MEGATON MG
    MHZ MIKURON MIL MIRI MIRIBAARU ML MM( . CUBED SQUARED) MOL MPA MS MU( A F G L M S V W) MV( .
    MEGA) MW( . MEGA) NA NANO NF NM NOTTO NS NV NW ONSU OOMU OV PA( . AMPS) PAASENTO PAATU PC PEEZI
    PENIHI PENSU PESO PF PH PIASUTORU PIKO PIKURU PM POINTO PONDO POSITION( INDICATOR) PPM PR PS PV
    PW RAD( . OVER( S( . SQUARED))) REMU RENTOGEN RIGHT( OPEN( BOX( OPERATOR))) RIRA RITTORU ROOT
    RUPII RUUBURU SAIKURU SANTIIMU SENTI SENTO SIRINGU SR SV TARGET THZ TON UON V( OVER( M)) WATTO
    WB WITH( BOTTOM( HALF( BLACK)) CONTOURED( OUTLINE) DIAGONAL( CROSSHATCH( FILL)) HORIZONTAL(
    FILL) LEFT( HALF( BLACK)) LOWER( LEFT( DIAGONAL( HALF( BLACK))) RIGHT( DIAGONAL( HALF( BLACK))))
    ORTHOGONAL( CROSSHATCH( FILL)) RIGHT( HALF( BLACK)) TOP( HALF( BLACK)) UPPER( LEFT( DIAGONAL(
    HALF( BLACK)) TO( LOWER( RIGHT( FILL)))) RIGHT( DIAGONAL( HALF( BLACK)) TO( LOWER( LEFT(
    FILL))))) VERTICAL( FILL)) YAADO YAARU YUAN) SQUARED( ASTERISK CJK( UNIFIED( IDEOGRAPH-4E00
    IDEOGRAPH-4E09 IDEOGRAPH-4E2D IDEOGRAPH-4E8C IDEOGRAPH-4EA4 IDEOGRAPH-518D IDEOGRAPH-521D
    IDEOGRAPH-524D IDEOGRAPH-5272 IDEOGRAPH-53CC IDEOGRAPH-53F3 IDEOGRAPH-5408 IDEOGRAPH-5439
    IDEOGRAPH-55B6 IDEOGRAPH-58F0 IDEOGRAPH-591A IDEOGRAPH-5929 IDEOGRAPH-5B57 IDEOGRAPH-5DE6
    IDEOGRAPH-5F8C IDEOGRAPH-624B IDEOGRAPH-6253 IDEOGRAPH-6295 IDEOGRAPH-6307 IDEOGRAPH-6355
    IDEOGRAPH-6599 IDEOGRAPH-65B0 IDEOGRAPH-6620 IDEOGRAPH-6708 IDEOGRAPH-6709 IDEOGRAPH-6E80
    IDEOGRAPH-6F14 IDEOGRAPH-7121 IDEOGRAPH-751F IDEOGRAPH-7533 IDEOGRAPH-7981 IDEOGRAPH-7A7A
    IDEOGRAPH-7D42 IDEOGRAPH-89E3 IDEOGRAPH-8CA9 IDEOGRAPH-8D70 IDEOGRAPH-904A IDEOGRAPH-914D)) CL
    COOL DOT( OPERATOR) EIGHT( K) FALLING( DIAGONAL( SLASH)) FIVE( POINT( ONE)) FOUR( DOT(
    PUNCTUATION) K) FREE HC HDR HI-RES HV ID KATAKANA( DE KOKO SA) KEY LATIN( CAPITAL( LETTER( A B C
    D E F G H I J K L M N O P Q R S T U V W X Y Z)) SMALL( LETTER( D))) LOGICAL( AND OR) LOSSLESS
    MINUS MV NEW NG OK ONE( HUNDRED( TWENTY( P))) PLUS PPV RISING( DIAGONAL( SLASH)) SALTIRE SD
    SECOND( SCREEN) SEVEN( POINT( ONE)) SHV SIXTY( P) SMALL( CIRCLE) SOS SQUARE SS THREE( D) TIMES
    TWENTY-TWO( POINT( TWO)) TWO( K) UHD UP( WITH( EXCLAMATION( MARK))) VOD VS WC) SQUAT( BLACK(
    RIGHTWARDS( ARROW))) SQUID SS2 SS3 SSA ST STADIUM STAFF( OF( AESCULAPIUS HERMES)) STAMPED(
    ENVELOPE) STANDING( PERSON) STAR( AND( CRESCENT) EQUALS OF( DAVID) OPERATOR WITH( LEFT( HALF(
    BLACK)) RIGHT( HALF( BLACK)))) START( OF( GUARDED( AREA) HEADING PROTECTED( AREA) SELECTED(
    AREA) STRING TEXT)) STATION STATUE( OF( LIBERTY)) STEAM( LOCOMOTIVE) STEAMING( BOWL)
    STENOGRAPHIC( FULL( STOP)) STETHOSCOPE STICK( FIGURE( . LEANING( LEFT RIGHT) WITH( ARMS( RAISED)
    DRESS))) STOCK( CHART) STOPWATCH STRAIGHT( RULER) STRAIGHTNESS STRAWBERRY STRESS( OUTLINED(
    WHITE( STAR))) STRICTLY( EQUIVALENT( TO)) STRING( TERMINATOR) STS STUDIO( MICROPHONE) STUFFED(
    FLATBREAD) STUPA STX SUB SUBSCRIPT( EIGHT EQUALS( SIGN) FIVE FOUR LEFT( PARENTHESIS) MINUS NINE
    ONE PLUS( SIGN) RIGHT( PARENTHESIS) SEVEN SIX THREE TWO ZERO) SUBSET( ABOVE( RIGHTWARDS( ARROW)
    SUBSET SUPERSET) OF( . ABOVE( ALMOST( EQUAL( TO)) EQUALS( SIGN) NOT( EQUAL( TO)) TILDE(
    OPERATOR)) OR( EQUAL( TO( . WITH( DOT( ABOVE))))) WITH( NOT( EQUAL( TO)))) WITH( DOT
    MULTIPLICATION( SIGN( BELOW)) PLUS( SIGN( BELOW)))) SUBSTITUTE SUCCEEDS( . ABOVE( ALMOST( EQUAL(
    TO)) EQUALS( SIGN) NOT( ALMOST( EQUAL( TO)) EQUAL( TO)) SINGLE-LINE( EQUALS( SIGN) NOT( EQUAL(
    TO)))) BUT( NOT( EQUIVALENT( TO))) OR( EQUAL( TO) EQUIVALENT( TO)) UNDER( RELATION)) SUMMATION(
    BOTTOM TOP WITH( INTEGRAL)) SUN( . BEHIND( CLOUD) WITH( FACE)) SUNDANESE( AVAGRAHA CONSONANT(
    SIGN( PAMINGKAL PANYAKRA PANYIKU PASANGAN( MA WA))) DIGIT( EIGHT FIVE FOUR NINE ONE SEVEN SIX
    THREE TWO ZERO) LETTER( A AE BA BHA CA DA E EU FA FINAL( K M) GA HA I JA KA KHA LA LEU MA NA NGA
    NYA O PA QA RA REU SA SYA TA U VA WA XA YA ZA) PUNCTUATION( BINDU( BA( SATANGA) CAKRA DA(
    SATANGA) KA( SATANGA) LEU( SATANGA) PANGLONG PURNAMA SURYA)) SIGN( PAMAAEH PANGLAYAR PANGWISAD
    PANYECEK VIRAMA) VOWEL( SIGN( PAMEPET PANAELAENG PANEULEUNG PANGHULU PANOLONG PANYUKU)))
    SUNFLOWER SUNRISE( . OVER( MOUNTAINS)) SUNSET( OVER( BUILDINGS)) SUPERHERO SUPERSCRIPT( EIGHT
    EQUALS( SIGN) FIVE FOUR LATIN( SMALL( LETTER( I N))) LEFT( PARENTHESIS) MINUS NINE ONE PLUS(
    SIGN) RIGHT( PARENTHESIS) SEVEN SIX THREE TWO ZERO) SUPERSET( ABOVE( LEFTWARDS( ARROW) SUBSET
    SUPERSET) BESIDE( AND( JOINED( BY( DASH( WITH( SUBSET))))) SUBSET) OF( . ABOVE( ALMOST( EQUAL(
    TO)) EQUALS( SIGN) NOT( EQUAL( TO)) TILDE( OPERATOR)) OR( EQUAL( TO( . WITH( DOT( ABOVE)))))
    WITH( NOT( EQUAL( TO)))) PRECEDING( SOLIDUS) WITH( DOT MULTIPLICATION( SIGN( BELOW)) PLUS( SIGN(
    BELOW)))) SUPERVILLAIN SURFACE( INTEGRAL) SURFER SUSHI SUSPENSION( RAILWAY) SWAN SWASH(
    AMPERSAND( ORNAMENT)) SWIMMER SWUNG( DASH) SYLOTI( NAGRI( LETTER( A BHO BO CHO CO DDHO DDO DHO
    DO E GHO GO HO I JHO JO KHO KO LO MO NO O PHO PO RO RRO SO THO TO TTHO TTO U) POETRY( MARK-1
    MARK-2 MARK-3 MARK-4) SIGN( ALTERNATE( HASANTA) ANUSVARA DVISVARA HASANTA) VOWEL( SIGN( A E I OO
    U)))) SYMBOL( FOR( ACKNOWLEDGE BACKSPACE BELL CANCEL CARRIAGE( RETURN) DATA( LINK( ESCAPE))
    DELETE( . FORM( TWO)) DEVICE( CONTROL( FOUR ONE THREE TWO)) END( OF( MEDIUM TEXT TRANSMISSION( .
    BLOCK))) ENQUIRY ESCAPE FILE( SEPARATOR) FORM( FEED) GROUP( SEPARATOR) HORIZONTAL( TABULATION)
    LINE( FEED) MARKS( CHAPTER) NEGATIVE( ACKNOWLEDGE) NEWLINE NULL RECORD( SEPARATOR) SAMARITAN(
    SOURCE) SHIFT( IN OUT) SPACE START( OF( HEADING TEXT)) SUBSTITUTE( . FORM( TWO)) SYNCHRONOUS(
    IDLE) TYPE( A( ELECTRONICS)) UNIT( SEPARATOR) VERTICAL( TABULATION))) SYMMETRY SYN SYNAGOGUE
    SYNCHRONOUS( IDLE) SYRIAC( ABBREVIATION( MARK) BARREKH COLON( SKEWED( LEFT RIGHT)) CONTRACTION
    DOTTED( ZLAMA( ANGULAR HORIZONTAL)) END( OF( PARAGRAPH)) ESASA( ABOVE BELOW) FEMININE( DOT)
    HARKLEAN( ASTERISCUS METOBELUS OBELUS) HBASA( ABOVE BELOW) HBASA-ESASA( DOTTED) HORIZONTAL(
    COLON) LETTER( ALAPH BETH DALATH DOTLESS( DALATH( RISH)) E FINAL( SEMKATH) GAMAL( . GARSHUNI) HE
    HETH KAPH LAMADH MALAYALAM( BHA JA LLA LLLA NGA NNA NNNA NYA RA SSA TTA) MIM NUN PE PERSIAN(
    BHETH DHALATH GHAMAL) QAPH REVERSED( PE) RISH SADHE SEMKATH SHIN SOGDIAN( FE KHAPH ZHAIN)
    SUPERSCRIPT( ALAPH) TAW TETH( . GARSHUNI) WAW YUDH( . HE) ZAIN) MUSIC OBLIQUE( LINE( ABOVE
    BELOW)) PTHAHA( ABOVE BELOW DOTTED) QUSHSHAYA RBASA( ABOVE BELOW) RUKKAKHA RWAHA SUBLINEAR(
    COLON( . SKEWED( LEFT RIGHT)) FULL( STOP)) SUPRALINEAR( COLON( . SKEWED( LEFT)) FULL( STOP))
    THREE( DOTS( ABOVE BELOW)) TWO( VERTICAL( DOTS( ABOVE BELOW))) ZQAPHA( ABOVE BELOW DOTTED))
    SYRINGE T-REX T-SHIRT TAB TABLE( TENNIS( PADDLE( AND( BALL)))) TACO TAG( AMPERSAND APOSTROPHE
    ASTERISK CIRCUMFLEX( ACCENT) COLON COMMA COMMERCIAL( AT) DIGIT( EIGHT FIVE FOUR NINE ONE SEVEN
    SIX THREE TWO ZERO) DOLLAR( SIGN) EQUALS( SIGN) EXCLAMATION( MARK) FULL( STOP) GRAVE( ACCENT)
    GREATER-THAN( SIGN) HYPHEN-MINUS LATIN( CAPITAL( LETTER( A B C D E F G H I J K L M N O P Q R S T
    U V W X Y Z)) SMALL( LETTER( A B C D E F G H I J K L M N O P Q R S T U V W X Y Z))) LEFT( CURLY(
    BRACKET) PARENTHESIS SQUARE( BRACKET)) LESS-THAN( SIGN) LOW( LINE) NUMBER( SIGN) PERCENT( SIGN)
    PLUS( SIGN) QUESTION( MARK) QUOTATION( MARK) REVERSE( SOLIDUS) RIGHT( CURLY( BRACKET)
    PARENTHESIS SQUARE( BRACKET)) SEMICOLON SOLIDUS SPACE TILDE VERTICAL( LINE)) TAGALOG( LETTER( A
    ARCHAIC( RA) BA DA GA HA I KA LA MA NA NGA PA RA SA TA U WA YA) SIGN( PAMUDPOD VIRAMA) VOWEL(
    SIGN( I U))) TAGBANWA( LETTER( A BA DA GA I KA LA MA NA NGA PA SA TA U WA YA) VOWEL( SIGN( I
    U))) TAI( LE( LETTER( A AI AUE E EE EH FA HA I KA KHA LA MA NA NGA O OO PA PHA QA SA TA THA
    TONE-2 TONE-3 TONE-4 TONE-5 TONE-6 TSA TSHA U UE VA XA YA)) THAM( COMBINING( CRYPTOGRAMMIC(
    DOT)) CONSONANT( SIGN( BA FINAL( NGA) HIGH( RATHA( OR( LOW( PA)))) LA( TANG( LAI)) LOW( PA) MA
    MEDIAL( LA RA) SA)) HORA( DIGIT( EIGHT FIVE FOUR NINE ONE SEVEN SIX THREE TWO ZERO)) LETTER( A
    BA DA EE GREAT( SA) HIGH( CA CHA FA HA KA KHA KXA PA PHA RATHA SA SHA SSA TA THA YA) I II LA LAE
    LLA LOW( CA CHA FA HA KA KHA KXA PA PHA RATHA SA TA THA YA) LUE MA NA NGA NYA OO RA RANA RATA
    RUE U UU WA) SIGN( CAANG DOKMAI HANG HOY KAAN KAANKUU KEOW KHUEN( TONE-3 TONE-4 TONE-5)
    KHUEN-LUE( KARAN) MAI( KANG( . LAI) SAM YAMOK) RA( HAAM) REVERSED( ROTATED( RANA)) SAKOT SATKAAN
    SATKAANKUU SAWAN TONE-1 TONE-2 WIANG WIANGWAAK) THAM( DIGIT( EIGHT FIVE FOUR NINE ONE SEVEN SIX
    THREE TWO ZERO)) VOWEL( SIGN( A AA AE AI E I II MAI( SAT) O OA( ABOVE BELOW) OO OY TALL( AA)
    THAM( AI) U UE UU UUE))) VIET( LETTER( HIGH( BO CHO CO DO FO GO HO KHHO KHO KO LO MO NGO NO NYO
    O PHO PO RO SO THO TO VO YO) LOW( BO CHO CO DO FO GO HO KHHO KHO KO LO MO NGO NO NYO O PHO PO RO
    SO THO TO VO YO)) MAI( KANG KHIT) SYMBOL( HO( HOI) KOI( KOI) KON NUENG SAM) TONE( MAI( EK NUENG
    SONG THO)) VOWEL( AA AM AN AUE AY E I IA O U UA UE UEA))) TAKEOUT( BOX) TAKRI( ABBREVIATION(
    SIGN) DIGIT( EIGHT FIVE FOUR NINE ONE SEVEN SIX THREE TWO ZERO) LETTER( A AA AI ARCHAIC( KHA) AU
    BA BHA CA CHA DA DDA DDHA DHA E GA GHA HA I II JA JHA KA KHA LA MA NA NGA NNA NYA O PA PHA RA
    RRA SA SHA TA THA TTA TTHA U UU VA YA) SIGN( ANUSVARA NUKTA VIRAMA VISARGA) VOWEL( SIGN( AA AI
    AU E I II O U UU))) TALLY( MARK( FIVE ONE)) TAMALE TAMIL( AND( ODD( SIGN)) AS( ABOVE( SIGN)) AU(
    LENGTH( MARK)) CREDIT( SIGN) CURRENT( SIGN) DAY( SIGN) DEBIT( SIGN) DIGIT( EIGHT FIVE FOUR NINE
    ONE SEVEN SIX THREE TWO ZERO) DRY( CULTIVATION( SIGN)) FRACTION( DOWNSCALING( FACTOR( KIIZH))
    ONE( EIGHTH EIGHTIETH FIFTH FORTIETH HALF-1 HALF-2 ONE-HUNDRED-AND-SIXTIETH QUARTER SIXTEENTH-1
    SIXTEENTH-2 SIXTY-FOURTH TENTH THIRTY-SECOND THREE-HUNDRED-AND-TWENTIETH TWENTIETH) THREE(
    EIGHTIETHS QUARTERS SIXTEENTHS SIXTY-FOURTHS TWENTIETHS)) IN( POSSESSION( SIGN)) LAND( SIGN)
    LETTER( A AA AI AU CA E EE HA I II JA KA LA LLA LLLA MA NA NGA NNA NNNA NYA O OO PA RA RRA SA
    SHA SSA TA TTA U UU VA YA) MONTH( SIGN) NUMBER( ONE( HUNDRED THOUSAND) SIGN TEN) OM PUNCTUATION(
    END( OF( TEXT))) RUPEE( SIGN) SALT( PAN( SIGN)) SIGN( AAZHAAKKU ANUSVARA CEVITU KAACU KURUNI
    KUZHI MUKKURUNI MUTHALIYA MUUVUZHAKKU NEL PAARAM PANAM PATHAKKU PON UZHAKKU VAKAIYARAA VARAAKAN
    VELI VIRAMA VISARGA) SPENT( SIGN) STARTING( FROM( SIGN)) TOTAL( SIGN) TRADITIONAL( CREDIT( SIGN)
    NUMBER( SIGN)) VOWEL( SIGN( AA AI AU E EE I II O OO U UU)) WET( CULTIVATION( SIGN)) YEAR( SIGN))
    TANABATA( TREE) TANGERINE TANGSA( DIGIT( EIGHT FIVE FOUR NINE ONE SEVEN SIX THREE TWO ZERO)
    LETTER( AC AQ AWC AWQ AWX AWZ AX AZ BA CA CHA DA DHA EC EQ EX EZ FA FINAL( NG) GA GHA HA HTA
    HTTA IC IQ IX IZ KA KHA LA LONG( UEX) MA MC MQ MX MZ NA NGA NHA NYA OC OQ OX OZ PA PHA RA SA SHA
    SHORT( AWX UEZ) TA THA TSA UC UEC UEQ UEX UEZ UIC UIQ UIUC UIUQ UIUX UIUZ UIX UIZ UQ UX UZ VC VQ
    VX VZ WA XA YA ZA)) TANGUT( COMPONENT-001 COMPONENT-002 COMPONENT-003 COMPONENT-004
    COMPONENT-005 COMPONENT-006 COMPONENT-007 COMPONENT-008 COMPONENT-009 COMPONENT-010
    COMPONENT-011 COMPONENT-012 COMPONENT-013 COMPONENT-014 COMPONENT-015 COMPONENT-016
    COMPONENT-017 COMPONENT-018 COMPONENT-019 COMPONENT-020 COMPONENT-021 COMPONENT-022
    COMPONENT-023 COMPONENT-024 COMPONENT-025 COMPONENT-026 COMPONENT-027 COMPONENT-028
    COMPONENT-029 COMPONENT-030 COMPONENT-031 COMPONENT-032 COMPONENT-033 COMPONENT-034
    COMPONENT-035 COMPONENT-036 COMPONENT-037 COMPONENT-038 COMPONENT-039 COMPONENT-040
    COMPONENT-041 COMPONENT-042 COMPONENT-043 COMPONENT-044 COMPONENT-045 COMPONENT-046
    COMPONENT-047 COMPONENT-048 COMPONENT-049 COMPONENT-050 COMPONENT-051 COMPONENT-052
    COMPONENT-053 COMPONENT-054 COMPONENT-055 COMPONENT-056 COMPONENT-057 COMPONENT-058
    COMPONENT-059 COMPONENT-060 COMPONENT-061 COMPONENT-062 COMPONENT-063 COMPONENT-064
    COMPONENT-065 COMPONENT-066 COMPONENT-067 COMPONENT-068 COMPONENT-069 COMPONENT-070
    COMPONENT-071 COMPONENT-072 COMPONENT-073 COMPONENT-074 COMPONENT-075 COMPONENT-076
    COMPONENT-077 COMPONENT-078 COMPONENT-079 COMPONENT-080 COMPONENT-081 COMPONENT-082
    COMPONENT-083 COMPONENT-084 COMPONENT-085 COMPONENT-086 COMPONENT-087 COMPONENT-088
    COMPONENT-089 COMPONENT-090 COMPONENT-091 COMPONENT-092 COMPONENT-093 COMPONENT-094
    COMPONENT-095 COMPONENT-096 COMPONENT-097 COMPONENT-098 COMPONENT-099 COMPONENT-100
    COMPONENT-101 COMPONENT-102 COMPONENT-103 COMPONENT-104 COMPONENT-105 COMPONENT-106
    COMPONENT-107 COMPONENT-108 COMPONENT-109 COMPONENT-110 COMPONENT-111 COMPONENT-112
    COMPONENT-113 COMPONENT-114 COMPONENT-115 COMPONENT-116 COMPONENT-117 COMPONENT-118
    COMPONENT-119 COMPONENT-120 COMPONENT-121 COMPONENT-122 COMPONENT-123 COMPONENT-124
    COMPONENT-125 COMPONENT-126 COMPONENT-127 COMPONENT-128 COMPONENT-129 COMPONENT-130
    COMPONENT-131 COMPONENT-132 COMPONENT-133 COMPONENT-134 COMPONENT-135 COMPONENT-136
    COMPONENT-137 COMPONENT-138 COMPONENT-139 COMPONENT-140 COMPONENT-141 COMPONENT-142
    COMPONENT-143 COMPONENT-144 COMPONENT-145 COMPONENT-146 COMPONENT-147 COMPONENT-148
    COMPONENT-149 COMPONENT-150 COMPONENT-151 COMPONENT-152 COMPONENT-153 COMPONENT-154
    COMPONENT-155 COMPONENT-156 COMPONENT-157 COMPONENT-158 COMPONENT-159 COMPONENT-160
    COMPONENT-161 COMPONENT-162 COMPONENT-163 COMPONENT-164 COMPONENT-165 COMPONENT-166
    COMPONENT-167 COMPONENT-168 COMPONENT-169 COMPONENT-170 COMPONENT-171 COMPONENT-172
    COMPONENT-173 COMPONENT-174 COMPONENT-175 COMPONENT-176 COMPONENT-177 COMPONENT-178
    COMPONENT-179 COMPONENT-180 COMPONENT-181 COMPONENT-182 COMPONENT-183 COMPONENT-184
    COMPONENT-185 COMPONENT-186 COMPONENT-187 COMPONENT-188 COMPONENT-189 COMPONENT-190
    COMPONENT-191 COMPONENT-192 COMPONENT-193 COMPONENT-194 COMPONENT-195 COMPONENT-196
    COMPONENT-197 COMPONENT-198 COMPONENT-199 COMPONENT-200 COMPONENT-201 COMPONENT-202
    COMPONENT-203 COMPONENT-204 COMPONENT-205 COMPONENT-206 COMPONENT-207 COMPONENT-208
    COMPONENT-209 COMPONENT-210 COMPONENT-211 COMPONENT-212 COMPONENT-213 COMPONENT-214
    COMPONENT-215 COMPONENT-216 COMPONENT-217 COMPONENT-218 COMPONENT-219 COMPONENT-220
    COMPONENT-221 COMPONENT-222 COMPONENT-223 COMPONENT-224 COMPONENT-225 COMPONENT-226
    COMPONENT-227 COMPONENT-228 COMPONENT-229 COMPONENT-230 COMPONENT-231 COMPONENT-232
    COMPONENT-233 COMPONENT-234 COMPONENT-235 COMPONENT-236 COMPONENT-237 COMPONENT-238
    COMPONENT-239 COMPONENT-240 COMPONENT-241 COMPONENT-242 COMPONENT-243 COMPONENT-244
    COMPONENT-245 COMPONENT-246 COMPONENT-247 COMPONENT-248 COMPONENT-249 COMPONENT-250
    COMPONENT-251 COMPONENT-252 COMPONENT-253 COMPONENT-254 COMPONENT-255 COMPONENT-256
    COMPONENT-257 COMPONENT-258 COMPONENT-259 COMPONENT-260 COMPONENT-261 COMPONENT-262
    COMPONENT-263 COMPONENT-264 COMPONENT-265 COMPONENT-266 COMPONENT-267 COMPONENT-268
    COMPONENT-269 COMPONENT-270 COMPONENT-271 COMPONENT-272 COMPONENT-273 COMPONENT-274
    COMPONENT-275 COMPONENT-276 COMPONENT-277 COMPONENT-278 COMPONENT-279 COMPONENT-280
    COMPONENT-281 COMPONENT-282 COMPONENT-283 COMPONENT-284 COMPONENT-285 COMPONENT-286
    COMPONENT-287 COMPONENT-288 COMPONENT-289 COMPONENT-290 COMPONENT-291 COMPONENT-292
    COMPONENT-293 COMPONENT-294 COMPONENT-295 COMPONENT-296 COMPONENT-297 COMPONENT-298
    COMPONENT-299 COMPONENT-300 COMPONENT-301 COMPONENT-302 COMPONENT-303 COMPONENT-304
    COMPONENT-305 COMPONENT-306 COMPONENT-307 COMPONENT-308 COMPONENT-309 COMPONENT-310
    COMPONENT-311 COMPONENT-312 COMPONENT-313 COMPONENT-314 COMPONENT-315 COMPONENT-316
    COMPONENT-317 COMPONENT-318 COMPONENT-319 COMPONENT-320 COMPONENT-321 COMPONENT-322
    COMPONENT-323 COMPONENT-324 COMPONENT-325 COMPONENT-326 COMPONENT-327 COMPONENT-328
    COMPONENT-329 COMPONENT-330 COMPONENT-331 COMPONENT-332 COMPONENT-333 COMPONENT-334
    COMPONENT-335 COMPONENT-336 COMPONENT-337 COMPONENT-338 COMPONENT-339 COMPONENT-340
    COMPONENT-341 COMPONENT-342 COMPONENT-343 COMPONENT-344 COMPONENT-345 COMPONENT-346
    COMPONENT-347 COMPONENT-348 COMPONENT-349 COMPONENT-350 COMPONENT-351 COMPONENT-352
    COMPONENT-353 COMPONENT-354 COMPONENT-355 COMPONENT-356 COMPONENT-357 COMPONENT-358
    COMPONENT-359 COMPONENT-360 COMPONENT-361 COMPONENT-362 COMPONENT-363 COMPONENT-364
    COMPONENT-365 COMPONENT-366 COMPONENT-367 COMPONENT-368 COMPONENT-369 COMPONENT-370
    COMPONENT-371 COMPONENT-372 COMPONENT-373 COMPONENT-374 COMPONENT-375 COMPONENT-376
    COMPONENT-377 COMPONENT-378 COMPONENT-379 COMPONENT-380 COMPONENT-381 COMPONENT-382
    COMPONENT-383 COMPONENT-384 COMPONENT-385 COMPONENT-386 COMPONENT-387 COMPONENT-388
    COMPONENT-389 COMPONENT-390 COMPONENT-391 COMPONENT-392 COMPONENT-393 COMPONENT-394
    COMPONENT-395 COMPONENT-396 COMPONENT-397 COMPONENT-398 COMPONENT-399 COMPONENT-400
    COMPONENT-401 COMPONENT-402 COMPONENT-403 COMPONENT-404 COMPONENT-405 COMPONENT-406
    COMPONENT-407 COMPONENT-408 COMPONENT-409 COMPONENT-410 COMPONENT-411 COMPONENT-412
    COMPONENT-413 COMPONENT-414 COMPONENT-415 COMPONENT-416 COMPONENT-417 COMPONENT-418
    COMPONENT-419 COMPONENT-420 COMPONENT-421 COMPONENT-422 COMPONENT-423 COMPONENT-424
    COMPONENT-425 COMPONENT-426 COMPONENT-427 COMPONENT-428 COMPONENT-429 COMPONENT-430
    COMPONENT-431 COMPONENT-432 COMPONENT-433 COMPONENT-434 COMPONENT-435 COMPONENT-436
    COMPONENT-437 COMPONENT-438 COMPONENT-439 COMPONENT-440 COMPONENT-441 COMPONENT-442
    COMPONENT-443 COMPONENT-444 COMPONENT-445 COMPONENT-446 COMPONENT-447 COMPONENT-448
    COMPONENT-449 COMPONENT-450 COMPONENT-451 COMPONENT-452 COMPONENT-453 COMPONENT-454
    COMPONENT-455 COMPONENT-456 COMPONENT-457 COMPONENT-458 COMPONENT-459 COMPONENT-460
    COMPONENT-461 COMPONENT-462 COMPONENT-463 COMPONENT-464 COMPONENT-465 COMPONENT-466
    COMPONENT-467 COMPONENT-468 COMPONENT-469 COMPONENT-470 COMPONENT-471 COMPONENT-472
    COMPONENT-473 COMPONENT-474 COMPONENT-475 COMPONENT-476 COMPONENT-477 COMPONENT-478
    COMPONENT-479 COMPONENT-480 COMPONENT-481 COMPONENT-482 COMPONENT-483 COMPONENT-484
    COMPONENT-485 COMPONENT-486 COMPONENT-487 COMPONENT-488 COMPONENT-489 COMPONENT-490
    COMPONENT-491 COMPONENT-492 COMPONENT-493 COMPONENT-494 COMPONENT-495 COMPONENT-496
    COMPONENT-497 COMPONENT-498 COMPONENT-499 COMPONENT-500 COMPONENT-501 COMPONENT-502
    COMPONENT-503 COMPONENT-504 COMPONENT-505 COMPONENT-506 COMPONENT-507 COMPONENT-508
    COMPONENT-509 COMPONENT-510 COMPONENT-511 COMPONENT-512 COMPONENT-513 COMPONENT-514
    COMPONENT-515 COMPONENT-516 COMPONENT-517 COMPONENT-518 COMPONENT-519 COMPONENT-520
    COMPONENT-521 COMPONENT-522 COMPONENT-523 COMPONENT-524 COMPONENT-525 COMPONENT-526
    COMPONENT-527 COMPONENT-528 COMPONENT-529 COMPONENT-530 COMPONENT-531 COMPONENT-532
    COMPONENT-533 COMPONENT-534 COMPONENT-535 COMPONENT-536 COMPONENT-537 COMPONENT-538
    COMPONENT-539 COMPONENT-540 COMPONENT-541 COMPONENT-542 COMPONENT-543 COMPONENT-544
    COMPONENT-545 COMPONENT-546 COMPONENT-547 COMPONENT-548 COMPONENT-549 COMPONENT-550
    COMPONENT-551 COMPONENT-552 COMPONENT-553 COMPONENT-554 COMPONENT-555 COMPONENT-556
    COMPONENT-557 COMPONENT-558 COMPONENT-559 COMPONENT-560 COMPONENT-561 COMPONENT-562
    COMPONENT-563 COMPONENT-564 COMPONENT-565 COMPONENT-566 COMPONENT-567 COMPONENT-568
    COMPONENT-569 COMPONENT-570 COMPONENT-571 COMPONENT-572 COMPONENT-573 COMPONENT-574
    COMPONENT-575 COMPONENT-576 COMPONENT-577 COMPONENT-578 COMPONENT-579 COMPONENT-580
    COMPONENT-581 COMPONENT-582 COMPONENT-583 COMPONENT-584 COMPONENT-585 COMPONENT-586
    COMPONENT-587 COMPONENT-588 COMPONENT-589 COMPONENT-590 COMPONENT-591 COMPONENT-592
    COMPONENT-593 COMPONENT-594 COMPONENT-595 COMPONENT-596 COMPONENT-597 COMPONENT-598
    COMPONENT-599 COMPONENT-600 COMPONENT-601 COMPONENT-602 COMPONENT-603 COMPONENT-604
    COMPONENT-605 COMPONENT-606 COMPONENT-607 COMPONENT-608 COMPONENT-609 COMPONENT-610
    COMPONENT-611 COMPONENT-612 COMPONENT-613 COMPONENT-614 COMPONENT-615 COMPONENT-616
    COMPONENT-617 COMPONENT-618 COMPONENT-619 COMPONENT-620 COMPONENT-621 COMPONENT-622
    COMPONENT-623 COMPONENT-624 COMPONENT-625 COMPONENT-626 COMPONENT-627 COMPONENT-628
    COMPONENT-629 COMPONENT-630 COMPONENT-631 COMPONENT-632 COMPONENT-633 COMPONENT-634
    COMPONENT-635 COMPONENT-636 COMPONENT-637 COMPONENT-638 COMPONENT-639 COMPONENT-640
    COMPONENT-641 COMPONENT-642 COMPONENT-643 COMPONENT-644 COMPONENT-645 COMPONENT-646
    COMPONENT-647 COMPONENT-648 COMPONENT-649 COMPONENT-650 COMPONENT-651 COMPONENT-652
    COMPONENT-653 COMPONENT-654 COMPONENT-655 COMPONENT-656 COMPONENT-657 COMPONENT-658
    COMPONENT-659 COMPONENT-660 COMPONENT-661 COMPONENT-662 COMPONENT-663 COMPONENT-664
    COMPONENT-665 COMPONENT-666 COMPONENT-667 COMPONENT-668 COMPONENT-669 COMPONENT-670
    COMPONENT-671 COMPONENT-672 COMPONENT-673 COMPONENT-674 COMPONENT-675 COMPONENT-676
    COMPONENT-677 COMPONENT-678 COMPONENT-679 COMPONENT-680 COMPONENT-681 COMPONENT-682
    COMPONENT-683 COMPONENT-684 COMPONENT-685 COMPONENT-686 COMPONENT-687 COMPONENT-688
    COMPONENT-689 COMPONENT-690 COMPONENT-691 COMPONENT-692 COMPONENT-693 COMPONENT-694
    COMPONENT-695 COMPONENT-696 COMPONENT-697 COMPONENT-698 COMPONENT-699 COMPONENT-700
    COMPONENT-701 COMPONENT-702 COMPONENT-703 COMPONENT-704 COMPONENT-705 COMPONENT-706
    COMPONENT-707 COMPONENT-708 COMPONENT-709 COMPONENT-710 COMPONENT-711 COMPONENT-712
    COMPONENT-713 COMPONENT-714 COMPONENT-715 COMPONENT-716 COMPONENT-717 COMPONENT-718
    COMPONENT-719 COMPONENT-720 COMPONENT-721 COMPONENT-722 COMPONENT-723 COMPONENT-724
    COMPONENT-725 COMPONENT-726 COMPONENT-727 COMPONENT-728 COMPONENT-729 COMPONENT-730
    COMPONENT-731 COMPONENT-732 COMPONENT-733 COMPONENT-734 COMPONENT-735 COMPONENT-736
    COMPONENT-737 COMPONENT-738 COMPONENT-739 COMPONENT-740 COMPONENT-741 COMPONENT-742
    COMPONENT-743 COMPONENT-744 COMPONENT-745 COMPONENT-746 COMPONENT-747 COMPONENT-748
    COMPONENT-749 COMPONENT-750 COMPONENT-751 COMPONENT-752 COMPONENT-753 COMPONENT-754
    COMPONENT-755 COMPONENT-756 COMPONENT-757 COMPONENT-758 COMPONENT-759 COMPONENT-760
    COMPONENT-761 COMPONENT-762 COMPONENT-763 COMPONENT-764 COMPONENT-765 COMPONENT-766
    COMPONENT-767 COMPONENT-768 ITERATION( MARK)) TAPE( CARTRIDGE DRIVE) TAURUS TAXI TEACUP(
    WITHOUT( HANDLE)) TEAPOT TEAR-OFF( CALENDAR) TEARDROP-BARBED( RIGHTWARDS( ARROW))
    TEARDROP-SPOKED( ASTERISK) TEDDY( BEAR) TELEPHONE( LOCATION( SIGN) ON( TOP( OF( MODEM)))
    RECEIVER( . WITH( PAGE)) RECORDER SIGN) TELESCOPE TELEVISION TELUGU( AI( LENGTH( MARK)) DIGIT(
    EIGHT FIVE FOUR NINE ONE SEVEN SIX THREE TWO ZERO) FRACTION( DIGIT( ONE( FOR( EVEN( POWERS( OF(
    FOUR))) ODD( POWERS( OF( FOUR))))) THREE( FOR( EVEN( POWERS( OF( FOUR))) ODD( POWERS( OF(
    FOUR))))) TWO( FOR( EVEN( POWERS( OF( FOUR))) ODD( POWERS( OF( FOUR))))) ZERO( FOR( ODD( POWERS(
    OF( FOUR))))))) LENGTH( MARK) LETTER( A AA AI AU BA BHA CA CHA DA DDA DDHA DHA DZA E EE GA GHA
    HA I II JA JHA KA KHA LA LLA LLLA MA NA NAKAARA( POLLU) NGA NNA NYA O OO PA PHA RA RRA RRRA SA
    SHA SSA TA THA TSA TTA TTHA U UU VA VOCALIC( L LL R RR) YA) SIGN( ANUSVARA AVAGRAHA CANDRABINDU
    COMBINING( ANUSVARA( ABOVE) CANDRABINDU( ABOVE)) NUKTA SIDDHAM TUUMU VIRAMA VISARGA) VOWEL(
    SIGN( AA AI AU E EE I II O OO U UU VOCALIC( L LL R RR)))) TENGE( SIGN) TENNIS( RACQUET( AND(
    BALL))) TENT TEST( TUBE) TETRAGRAM( FOR( ACCUMULATION ADVANCE AGGRAVATION ASCENT BARRIER BOLD(
    RESOLUTION) BRANCHING( OUT) CENTRE CHANGE CLOSED( MOUTH) CLOSENESS CLOSURE COMPLETION COMPLIANCE
    CONSTANCY CONTACT CONTENTION CONTRARIETY DARKENING DECISIVENESS DEFECTIVENESS( OR( DISTORTION))
    DEPARTURE DIFFICULTIES DIMINISHMENT DIMMING DIVERGENCE DOUBT DUTIES EASE EMBELLISHMENT
    ENCOUNTERS ENDEAVOUR ENLARGEMENT ETERNITY EXHAUSTION FAILURE FLIGHT FOLLOWING FOSTERING FULL(
    CIRCLE) FULLNESS GATHERING( . IN) GOING( TO( MEET)) GREATNESS GUARDEDNESS HARDNESS HOLDING(
    BACK) INCREASE INNER JOY KEEPING( SMALL) KINSHIP LABOURING LAW( OR( MODEL)) LEGION MASSING
    MEASURE MIRED ON( THE( VERGE)) OPPOSITION PACKING PATTERN PENETRATION PURITY REACH RELEASE
    RESIDENCE RESISTANCE RESPONSE RITUAL SEVERANCE SINKING STOPPAGE STOVE STRENGTH UNITY VASTNESS(
    OR( WASTING)) WAITING WATCH YOUTHFULNESS)) THAANA( AABAAFILI ABAFILI EBEFILI EEBEEFILI EYBEYFILI
    IBIFILI LETTER( AINU ALIFU BAA CHAVIYANI DAADHU DAVIYANI DHAALU FAAFU GAAFU GHAINU GNAVIYANI HAA
    HHAA JAVIYANI KAAFU KHAA LAAMU LHAVIYANI MEEMU NAA NOONU PAVIYANI QAAFU RAA SAADHU SEENU
    SHAVIYANI SHEENU TAVIYANI THAA THAALU TO TTAA VAAVU WAAVU YAA ZAA ZAVIYANI ZO) OABOAFILI OBOFILI
    OOBOOFILI SUKUN UBUFILI) THAI( CHARACTER( ANGKHANKHU BO( BAIMAI) CHO( CHAN CHANG CHING CHOE) DO(
    CHADA DEK) FO( FA FAN) FONGMAN HO( HIP NOKHUK) KHO( KHAI KHON KHUAT KHWAI RAKHANG) KHOMUT KO(
    KAI) LAKKHANGYAO LO( CHULA LING) LU MAI( CHATTAWA EK HAN-AKAT THO TRI) MAITAIKHU MAIYAMOK MO(
    MA) NGO( NGU) NIKHAHIT NO( NEN NU) O( ANG) PAIYANNOI PHINTHU PHO( PHAN PHUNG SAMPHAO) PO( PLA)
    RO( RUA) RU SARA( A AA AE AI( MAIMALAI MAIMUAN) AM E I II O U UE UEE UU) SO( RUSI SALA SO SUA)
    THANTHAKHAT THO( NANGMONTHO PHUTHAO THAHAN THAN THONG THUNG) TO( PATAK TAO) WO( WAEN) YAMAKKAN
    YO( YAK YING)) CURRENCY( SYMBOL( BAHT)) DIGIT( EIGHT FIVE FOUR NINE ONE SEVEN SIX THREE TWO
    ZERO)) THERE( DOES( NOT( EXIST)) EXISTS) THEREFORE THERMODYNAMIC THERMOMETER THIN( GREEK( CROSS)
    SALTIRE SPACE) THINKING( FACE) THIRD( PLACE( MEDAL)) THONG( SANDAL) THOUGHT( BALLOON) THREE(
    BUTTON( MOUSE) CONSECUTIVE( EQUALS( SIGNS)) DIMENSIONAL( ANGLE) DOT( PUNCTUATION) LEFTWARDS(
    ARROWS) LINES( CONVERGING( LEFT RIGHT)) NETWORKED( COMPUTERS) POINTED( BLACK( STAR)) RAYS( ABOVE
    BELOW LEFT RIGHT) RIGHTWARDS( ARROWS) SPEECH( BUBBLES)) THREE-D( BOTTOM-LIGHTED( RIGHTWARDS(
    ARROWHEAD)) LEFT-LIGHTED( DOWNWARDS( EQUILATERAL( ARROWHEAD))) RIGHT-LIGHTED( UPWARDS(
    EQUILATERAL( ARROWHEAD))) TOP-LIGHTED( LEFTWARDS( EQUILATERAL( ARROWHEAD)) RIGHTWARDS( ARROWHEAD
    EQUILATERAL( ARROWHEAD)))) THREE-EM( DASH) THREE-PER-EM( SPACE) THUMBS( DOWN( SIGN) UP( SIGN))
    THUNDER( CLOUD( AND( RAIN))) THUNDERSTORM TIBETAN( ASTROLOGICAL( SIGN( -KHYUD( PA) SDONG(
    TSHUGS) SGRA( GCAN( -CHAR( RTAGS))))) CANTILLATION( SIGN( CANG( TE-U) HEAVY( BEAT) LIGHT( BEAT)
    SBUB( -CHAL))) DIGIT( EIGHT FIVE FOUR HALF( EIGHT FIVE FOUR NINE ONE SEVEN SIX THREE TWO ZERO)
    NINE ONE SEVEN SIX THREE TWO ZERO) KU( RU( KHA( . BZHI( MIG( CAN))))) LETTER( -A A BA BHA CA CHA
    DA DDA DDHA DHA DZA DZHA FIXED-FORM( RA) GA GHA HA JA KA KHA KKA KSSA LA MA NA NGA NNA NYA PA
    PHA RA RRA SA SHA SSA TA THA TSA TSHA TTA TTHA WA YA ZA ZHA) LOGOTYPE( SIGN( CHAD( RTAGS) LHAG(
    RTAGS))) MARK( ANG( KHANG( GYAS GYON)) BKA-( SHOG( GI( MGO( RGYAN)) YIG( MGO))) BSDUS( RTAGS)
    BSKA-( SHOG( GI( MGO( RGYAN)))) BSKUR( YIG( MGO)) CARET( -DZUD( RTAGS( BZHI( MIG( CAN)) ME(
    LONG( CAN)))) YIG( MGO( PHUR( SHAD( MA))))) CHE( MGO) CLOSING( BRDA( RNYING( YIG( MGO( SGAB(
    MA))))) YIG( MGO( SGAB( MA)))) DELIMITER( TSHEG( BSTAR)) GTER( TSHEG YIG( MGO( -UM( GTER( TSHEG(
    MA)) RNAM( BCAD( MA))) TRUNCATED( A)))) GUG( RTAGS( GYAS GYON)) HALANTA INITIAL( BRDA( RNYING(
    YIG( MGO( MDUN( MA))))) YIG( MGO( MDUN( MA)))) INTERSYLLABIC( TSHEG) LEADING( MCHAN( RTAGS))
    MNYAM( YIG( GI( MGO( RGYAN)))) NGAS( BZUNG( NYI( ZLA) SGOR( RTAGS))) NYIS( SHAD TSHEG( . SHAD))
    PALUTA RGYA( GRAM( SHAD)) RIN( CHEN( SPUNGS( SHAD))) SBRUL( SHAD) SHAD TRAILING( MCHAN( RTAGS))
    TSA( -PHRU) TSHEG( SHAD) YIG( MGO( TSHEG( SHAD( MA))))) SIGN( GRU( CAN( RGYINGS) MED( RGYINGS))
    INVERTED( MCHU( CAN)) LCE( TSA( CAN)) LCI( RTAGS) MAR( TSHES) MCHU( CAN) NYI( ZLA( NAA( DA)))
    RDEL( DKAR( GCIG GNYIS GSUM RDEL( NAG)) NAG( GCIG GNYIS GSUM RDEL( DKAR))) RJES( SU( NGA( RO)))
    RNAM( BCAD) SNA( LDAN) YANG( RTAGS) YAR( TSHES)) SUBJOINED( LETTER( -A A BA BHA CA CHA DA DDA
    DDHA DHA DZA DZHA FIXED-FORM( RA WA YA) GA GHA HA JA KA KHA KSSA LA MA NA NGA NNA NYA PA PHA RA
    SA SHA SSA TA THA TSA TSHA TTA TTHA WA YA ZA ZHA) SIGN( INVERTED( MCHU( CAN)) LCE( TSA( CAN))
    MCHU( CAN))) SYLLABLE( OM) SYMBOL( DRIL( BU) NOR( BU( . BZHI( -KHYIL) GSUM( -KHYIL) NYIS(
    -KHYIL))) PADMA( GDAN) PHUR( PA) RDO( RJE( . RGYA( GRAM)))) VOWEL( SIGN( AA E EE I II O OO
    REVERSED( I II) U UU VOCALIC( L LL R RR)))) TICKET TIE( OVER( INFINITY)) TIFINAGH( CONSONANT(
    JOINER) LETTER( AHAGGAR( YAZH) AYER( YAGH) BERBER( ACADEMY( YAH YAJ)) TAWELLEMET( YAZ) TUAREG(
    YAGH YAGN YAH YAK YAKH YANG YAQ YAZH) YA YAA YAB YABH YACH YAD YADD YADDH YADH YAF YAG YAGH
    YAGHH YAH YAHH YAJ YAK YAKH YAKHH YAL YAM YAN YAP YAQ YAR YARR YAS YASH YASS YAT YATH YATT YAV
    YAW YAY YAZ YAZH YAZZ YE YEY YI YO YU) MODIFIER( LETTER( LABIALIZATION( MARK))) SEPARATOR(
    MARK)) TIGER( . FACE) TIGHT( TRIFOLIATE( SNOWFLAKE)) TILDE( . OPERATOR( . ABOVE( LEFTWARDS(
    ARROW) RIGHTWARDS( ARROW)) WITH( DOT( ABOVE) RISING( DOTS))) WITH( DOT( ABOVE BELOW) RING(
    ABOVE))) TIMER( CLOCK) TIMES( WITH( LEFT( HALF( BLACK)) RIGHT( HALF( BLACK)))) TINY( . TWO(
    DOTS( OVER( ONE( DOT( PUNCTUATION)))))) TIRED( FACE) TIRHUTA( ABBREVIATION( SIGN) ANJI DIGIT(
    EIGHT FIVE FOUR NINE ONE SEVEN SIX THREE TWO ZERO) GVANG LETTER( A AA AI AU BA BHA CA CHA DA DDA
    DDHA DHA E GA GHA HA I II JA JHA KA KHA LA MA NA NGA NNA NYA O PA PHA RA SA SHA SSA TA THA TTA
    TTHA U UU VA VOCALIC( L LL R RR) YA) OM SIGN( ANUSVARA AVAGRAHA CANDRABINDU NUKTA VIRAMA
    VISARGA) VOWEL( SIGN( AA AI AU E I II O SHORT( E O) U UU VOCALIC( L LL R RR)))) TIRONIAN( SIGN(
    CAPITAL( ET) ET)) TOILET TOKYO( TOWER) TOMATO TONGUE TOOLBOX TOOTH TOOTHBRUSH TOP( ARC(
    ANTICLOCKWISE( ARROW( . WITH( PLUS))) CLOCKWISE( ARROW( WITH( MINUS)))) CURLY( BRACKET) HALF(
    BLACK( CIRCLE) INTEGRAL LEFT( PARENTHESIS) RIGHT( PARENTHESIS) SECTION( SIGN)) HAT LEFT( CORNER
    CROP HALF( BRACKET)) PARENTHESIS RIGHT( CORNER CROP HALF( BRACKET)) SQUARE( BRACKET) TORTOISE(
    SHELL( BRACKET)) WITH( UPWARDS( ARROW( ABOVE)))) TORTOISE( SHELL( BRACKETED( CJK( UNIFIED(
    IDEOGRAPH-4E09 IDEOGRAPH-4E8C IDEOGRAPH-52DD IDEOGRAPH-5B89 IDEOGRAPH-6253 IDEOGRAPH-6557
    IDEOGRAPH-672C IDEOGRAPH-70B9 IDEOGRAPH-76D7)) LATIN( CAPITAL( LETTER( S)))))) TOTAL( RUNOUT)
    TOTO( LETTER( A AE BA BREATHY( AE E EO I IU) CHA DA E EO GA HA I IU JA KA LA MA NA NGA O PA RA
    SA TA U WA YA) SIGN( RISING( TONE))) TRACKBALL TRACTOR TRADE( MARK( SIGN)) TRAIN TRAM( . CAR)
    TRANSPLUTO TRANSVERSAL( INTERSECTION) TRIANGLE( WITH( DOT( ABOVE) ROUNDED( CORNERS) SERIFS( AT(
    BOTTOM)) UNDERBAR)) TRIANGLE-HEADED( RIGHTWARDS( ARROW)) TRIANGULAR( BULLET FLAG( ON( POST))
    RULER) TRICOLON TRIDENT( EMBLEM) TRIGRAM( FOR( EARTH FIRE HEAVEN LAKE MOUNTAIN THUNDER WATER
    WIND)) TRIPLE( COLON( OPERATOR) DAGGER HORIZONTAL( BAR( WITH( DOUBLE( VERTICAL( STROKE)) TRIPLE(
    VERTICAL( STROKE))))) INTEGRAL NESTED( GREATER-THAN LESS-THAN) PLUS PRIME SOLIDUS( BINARY(
    RELATION)) TILDE VERTICAL( BAR( BINARY( RELATION) DELIMITER RIGHT( TURNSTILE) WITH( HORIZONTAL(
    STROKE))))) TROLL TROLLEYBUS TROPHY TROPICAL( DRINK FISH) TRUE( . LIGHT( MOON( ARTA))) TRUMPET
    TUGRIK( SIGN) TULIP TUMBLER( GLASS) TURKEY TURKISH( LIRA( SIGN)) TURNED( AMPERSAND ANGLE BLACK(
    PENTAGON SHOGI( PIECE)) CAPITAL( F) COMMA DAGGER DIGIT( THREE TWO) GREEK( SMALL( LETTER( IOTA)))
    NORTH( EAST( POINTING( LEAF)) WEST( POINTING( LEAF))) NOT( SIGN) OK( HAND( SIGN)) SANS-SERIF(
    CAPITAL( G L Y)) SEMICOLON SMALL( F) SOUTH( EAST( POINTING( LEAF)) WEST( POINTING( LEAF)))
    WHITE( SHOGI( PIECE))) TURTLE TWELVE( POINTED( BLACK( STAR))) TWISTED( RIGHTWARDS( ARROWS)) TWO(
    ASTERISKS( ALIGNED( VERTICALLY)) BUTTON( MOUSE) CONSECUTIVE( EQUALS( SIGNS)) DOT( LEADER
    PUNCTUATION) DOTS( OVER( ONE( DOT( PUNCTUATION)))) HEARTS INTERSECTING( LOGICAL( AND OR))
    JOINED( SQUARES) LOGICAL( AND( OPERATOR) OR( OPERATOR)) MEN( HOLDING( HANDS)) SPEECH( BUBBLES)
    WOMEN( HOLDING( HANDS))) TWO-EM( DASH)"

end Text
end ShadowLint
