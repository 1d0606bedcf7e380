/-!
# Names that begin with a letter from N to R

The names of characters that begin with a letter from N to R, as a tree of words in the form
that the module on names reads.
-/

namespace ShadowLint
namespace Text

/-- The names that begin with a letter from N to R. -/
def characterNamesNToR : String :=
    "N-ARY( CIRCLED( DOT( OPERATOR) PLUS( OPERATOR) TIMES( OPERATOR)) COPRODUCT INTERSECTION
    LOGICAL( AND OR) PRODUCT SQUARE( INTERSECTION( OPERATOR) UNION( OPERATOR)) SUMMATION TIMES(
    OPERATOR) UNION( . OPERATOR( WITH( DOT PLUS))) WHITE( VERTICAL( BAR))) NABATAEAN( CRUCIFORM(
    NUMBER( FOUR)) LETTER( ALEPH AYIN BETH DALETH FINAL( ALEPH BETH HE KAPH LAMEDH MEM NUN SHIN
    YODH) GIMEL HE HETH KAPH LAMEDH MEM NUN PE QOPH RESH SADHE SAMEKH SHIN TAW TETH WAW YODH ZAYIN)
    NUMBER( FIVE FOUR ONE( . HUNDRED) TEN THREE TWENTY TWO)) NABLA NAIL( POLISH) NAIRA( SIGN) NAK
    NAME( BADGE) NAND NANDINAGARI( HEADSTROKE LETTER( A AA AI AU BA BHA CA CHA DA DDA DDHA DHA E GA
    GHA HA I II JA JHA KA KHA LA LLA MA NA NGA NNA NYA O PA PHA RA RRA SA SHA SSA TA THA TTA TTHA U
    UU VA VOCALIC( R RR) YA) SIGN( ANUSVARA AVAGRAHA SIDDHAM VIRAMA VISARGA) VOWEL( SIGN( AA AI AU E
    I II O PRISHTHAMATRA( E) U UU VOCALIC( R RR)))) NARROW( NO-BREAK( SPACE)) NATIONAL( DIGIT(
    SHAPES) PARK) NAUSEATED( FACE) NAZAR( AMULET) NBH NBSP NECKTIE NEGATED( DOUBLE( VERTICAL( BAR(
    DOUBLE( RIGHT( TURNSTILE)))))) NEGATIVE( ACKNOWLEDGE CIRCLED( DIGIT( ZERO) LATIN( CAPITAL(
    LETTER( A B C D E F G H I J K L M N O P Q R S T U V W X Y Z))) NUMBER( EIGHTEEN ELEVEN FIFTEEN
    FOURTEEN NINETEEN SEVENTEEN SIXTEEN THIRTEEN TWELVE TWENTY) SQUARE TRIANGLE) DIAGONAL( CROSS
    DIAMOND MIDDLE( RIGHT( TO( LOWER( CENTRE))))) SQUARED( AB CROSS( MARK) IC LATIN( CAPITAL(
    LETTER( A B C D E F G H I J K L M N O P Q R S T U V W X Y Z))) PA QUESTION( MARK) SA WC))
    NEITHER( A( SUBSET( OF( NOR( EQUAL( TO)))) SUPERSET( OF( NOR( EQUAL( TO))))) APPROXIMATELY( NOR(
    ACTUALLY( EQUAL( TO)))) GREATER-THAN( NOR( EQUAL( TO) EQUIVALENT( TO) LESS-THAN)) LESS-THAN(
    NOR( EQUAL( TO) EQUIVALENT( TO) GREATER-THAN))) NEL NEPTUNE( . FORM( TWO)) NERD( FACE) NESSUS
    NEST( WITH( EGGS)) NESTING( DOLLS) NEUTER NEUTRAL( CHESS( BISHOP( . ROTATED( NINETY( DEGREES)
    TWO( HUNDRED( SEVENTY( DEGREES))))) EQUIHOPPER( . ROTATED( NINETY( DEGREES))) KING( . ROTATED(
    NINETY( DEGREES) TWO( HUNDRED( SEVENTY( DEGREES))))) KNIGHT( . ROTATED( FORTY-FIVE( DEGREES)
    NINETY( DEGREES) ONE( HUNDRED( THIRTY-FIVE( DEGREES))) THREE( HUNDRED( FIFTEEN( DEGREES))) TWO(
    HUNDRED( SEVENTY( DEGREES) TWENTY-FIVE( DEGREES))))) PAWN( . ROTATED( NINETY( DEGREES) TWO(
    HUNDRED( SEVENTY( DEGREES))))) QUEEN( . ROTATED( NINETY( DEGREES) TWO( HUNDRED( SEVENTY(
    DEGREES))))) ROOK( . ROTATED( NINETY( DEGREES) TWO( HUNDRED( SEVENTY( DEGREES))))) TURNED(
    BISHOP KING KNIGHT PAWN QUEEN ROOK)) FACE) NEW( LINE MOON( SYMBOL WITH( FACE)) SHEQEL( SIGN)
    TAI( LUE( DIGIT( EIGHT FIVE FOUR NINE ONE SEVEN SIX THREE TWO ZERO) LETTER( FINAL( B D K M N NG
    V) HIGH( BA DA FA HA KA KVA LA MA NA NGA PA PHA QA SA SUA TA THA TSA VA XA XVA YA) LOW( BA DA FA
    HA KA KVA LA MA NA NGA PA PHA QA SA SUA TA THA TSA VA XA XVA YA)) SIGN( LAE LAEV) THAM( DIGIT(
    ONE)) TONE( MARK-1 MARK-2) VOWEL( SIGN( AA AAY AE AY E II IY O OA OAY OY U UE UEY UU UY VOWEL(
    SHORTENER)))))) NEWA( ABBREVIATION( SIGN) COMMA DANDA DIGIT( EIGHT FIVE FOUR NINE ONE SEVEN SIX
    THREE TWO ZERO) DOUBLE( COMMA DANDA) GAP( FILLER) INSERTION( SIGN) LETTER( A AA AI AU BA BHA CA
    CHA DA DDA DDHA DHA E GA GHA HA I II JA JHA KA KHA LA LHA MA MHA NA NGA NGHA NHA NNA NYA NYHA O
    PA PHA RA RHA SA SHA SSA TA THA TTA TTHA U UU VEDIC( ANUSVARA) VOCALIC( L LL R RR) WA YA) OM
    PLACEHOLDER( MARK) SANDHI( MARK) SIDDHI SIGN( ANUSVARA AVAGRAHA CANDRABINDU FINAL( ANUSVARA)
    JIHVAMULIYA NUKTA UPADHMANIYA VIRAMA VISARGA) VOWEL( SIGN( AA AI AU E I II O U UU VOCALIC( L LL
    R RR)))) NEWLINE( LEFT RIGHT) NEWSPAPER NEXT( LINE PAGE) NIGHT( WITH( STARS)) NINJA NKO(
    COMBINING( DOUBLE( DOT( ABOVE)) LONG( DESCENDING( TONE) HIGH( TONE) LOW( TONE) RISING( TONE))
    NASALIZATION( MARK) SHORT( HIGH( TONE) LOW( TONE) RISING( TONE))) COMMA DANTAYALAN DIGIT( EIGHT
    FIVE FOUR NINE ONE SEVEN SIX THREE TWO ZERO) DOROME( SIGN) EXCLAMATION( MARK) HIGH( TONE(
    APOSTROPHE)) LAJANYALAN LETTER( A BA CHA DA DAGBASINNA E EE FA GBA HA I JA JONA( CHA JA RA) KA
    LA MA N NA( . WOLOSO) NYA( . WOLOSO) O OO PA RA RRA SA TA U WA YA) LOW( TONE( APOSTROPHE))
    SYMBOL( GBAKURUNEN OO( DENNEN)) TAMAN( SIGN)) NL NNBSP NO( BICYCLES BREAK( HERE) ENTRY( . SIGN)
    MOBILE( PHONES) ONE( UNDER( EIGHTEEN( SYMBOL))) PEDESTRIANS PIRACY SMOKING( SYMBOL)) NO-BREAK(
    SPACE) NOMINAL( DIGIT( SHAPES)) NOMISMA( SIGN) NON-BREAKING( HYPHEN) NON-POTABLE( WATER(
    SYMBOL)) NONFORKING NOR NORDIC( MARK( SIGN)) NORMAL( SUBGROUP( OF( . OR( EQUAL( TO))))) NORTH(
    EAST( AND( SOUTH( WEST( ARROW))) ARROW( . AND( SOUTH( EAST( ARROW))) CROSSING( NORTH( WEST(
    ARROW)) SOUTH( EAST( ARROW))) WITH( HOOK)) BLACK( ARROW) DOUBLE( ARROW) POINTING( BUD LEAF VINE(
    LEAF)) SANS-SERIF( ARROW) TRIANGLE-HEADED( ARROW( . TO( BAR))) WHITE( ARROW)) INDIC( FRACTION(
    ONE( EIGHTH HALF QUARTER SIXTEENTH) THREE( QUARTERS SIXTEENTHS)) PLACEHOLDER( MARK) QUANTITY(
    MARK) QUARTER( MARK) RUPEE( MARK)) WEST( AND( SOUTH( EAST( ARROW))) ARROW( . AND( NORTH( EAST(
    ARROW))) CROSSING( NORTH( EAST( ARROW))) TO( CORNER LONG( BAR)) WITH( HOOK)) BLACK( ARROW)
    DOUBLE( ARROW) POINTING( BUD LEAF VINE( LEAF)) SANS-SERIF( ARROW) TRIANGLE-HEADED( ARROW( . TO(
    BAR))) WHITE( ARROW))) NORTHEAST-POINTING( AIRPLANE) NOSE NOT( A( SUBSET( OF) SUPERSET( OF))
    ALMOST( EQUAL( TO)) AN( ELEMENT( OF)) ASYMPTOTICALLY( EQUAL( TO)) CHECK( MARK) EQUAL( TO)
    EQUIVALENT( TO) GREATER-THAN IDENTICAL( TO) LESS-THAN NORMAL( SUBGROUP( OF( . OR( EQUAL( TO)))))
    PARALLEL( TO) SIGN SQUARE( IMAGE( OF( OR( EQUAL( TO))))) TILDE TRUE) NOTCHED( LEFT( SEMICIRCLE(
    WITH( THREE( DOTS)))) LOWER( RIGHT-SHADOWED( WHITE( RIGHTWARDS( ARROW)))) RIGHT( SEMICIRCLE(
    WITH( THREE( DOTS)))) UPPER( RIGHT-SHADOWED( WHITE( RIGHTWARDS( ARROW))))) NOTE( . PAD PAGE)
    NOTEBOOK( . WITH( DECORATIVE( COVER))) NUL NULL NUMBER( EIGHTEEN( FULL( STOP)) ELEVEN( FULL(
    STOP)) FIFTEEN( FULL( STOP)) FOURTEEN( FULL( STOP)) NINETEEN( FULL( STOP)) SEVENTEEN( FULL(
    STOP)) SIGN SIXTEEN( FULL( STOP)) TEN( FULL( STOP)) THIRTEEN( FULL( STOP)) TWELVE( FULL( STOP))
    TWENTY( FULL( STOP))) NUMERO( SIGN) NUSHU( ITERATION( MARK)) NUT( AND( BOLT)) NYIAKENG( PUACHUE(
    HMONG( CIRCLED( CA) DIGIT( EIGHT FIVE FOUR NINE ONE SEVEN SIX THREE TWO ZERO) LETTER( A AA CA DA
    DLA E EE FA GA HA HAH I KA LA MA MLA NA NCA NKA NPA NPLA NQA NRA NTA NTSA NTXA NYA O OO PA PLA
    QA RA RRA SA TA TSA TXA U VA W XA XYA YA ZA) LOGOGRAM( NYAJ) SIGN( FOR( ANIMAL INVERTEBRATE
    LOCATION PERSON THING) XW( XW)) SYLLABLE( LENGTHENER) TONE-B TONE-D TONE-G TONE-J TONE-M TONE-S
    TONE-V))) OBJECT( REPLACEMENT( CHARACTER)) OBLIQUE( ANGLE( OPENING( DOWN UP)) HYPHEN) OBSERVER(
    EYE( SYMBOL)) OCR( AMOUNT( OF( CHECK)) BELT( BUCKLE) BOW( TIE) BRANCH( BANK( IDENTIFICATION))
    CHAIR CUSTOMER( ACCOUNT( NUMBER)) DASH DOUBLE( BACKSLASH) FORK HOOK INVERTED( FORK)) OCTAGONAL(
    SIGN) OCTOPUS ODEN OFFICE( BUILDING) OGHAM( FEATHER( MARK) LETTER( AILM BEITH CEIRT COLL DAIR
    EABHADH EADHADH EAMHANCHOLL FEARN GORT IFIN IODHADH LUIS MUIN NGEADAL NION ONN OR PEITH RUIS
    SAIL STRAIF TINNE UATH UILLEANN UR) REVERSED( FEATHER( MARK)) SPACE( MARK)) OGONEK OHM( SIGN)
    OIL( DRUM) OK( HAND( SIGN)) OL( CHIKI( AHAD DIGIT( EIGHT FIVE FOUR NINE ONE SEVEN SIX THREE TWO
    ZERO) GAAHLAA( TTUDDAAG) LETTER( AAJ AAK AAM AAW AG AL ANG AT EDD EN EP ERR IH INY IR IS LA LAA
    LE LI LO LU OB OH OTT OV UC UD UNN UY) MU( TTUDDAG) MU-GAAHLAA( TTUDDAAG) PHAARKAA PUNCTUATION(
    DOUBLE( MUCAAD) MUCAAD) RELAA)) OLD( CHINESE( HOOK( MARK) ITERATION( MARK)) HUNGARIAN( CAPITAL(
    LETTER( A AA AK AMB AND CLOSE( E) E EB EC ECH ECS ED EE EF EG EGY EH EJ EK EL ELY EM EMP EN ENC
    ENT ENT-SHAPED( SIGN) ENY EP ER ES ESZ ET ETY EV EZ EZS I II NIKOLSBURG( OE UE) O OEE OO
    RUDIMENTA( OE UE) SHORT( ER) U UNK US UU)) NUMBER( FIFTY FIVE ONE( . HUNDRED THOUSAND) TEN)
    SMALL( LETTER( A AA AK AMB AND CLOSE( E) E EB EC ECH ECS ED EE EF EG EGY EH EJ EK EL ELY EM EMP
    EN ENC ENT ENT-SHAPED( SIGN) ENY EP ER ES ESZ ET ETY EV EZ EZS I II NIKOLSBURG( OE UE) O OEE OO
    RUDIMENTA( OE UE) SHORT( ER) U UNK US UU))) ITALIC( LETTER( A BE CHE DE E EF EKS EL EM EN ER ERS
    ES ESH ESS HE I II KA KE KHE KU NORTHERN( TSE) O PE PHE SHE SOUTHERN( TSE) TE THE U UU VE YE ZE)
    NUMERAL( FIFTY FIVE ONE TEN)) KEY NORTH( ARABIAN( LETTER( AIN ALEF BEH DAD DAL ES-1 ES-2 ES-3
    FEH GEEM GHAIN HAH HEH KAF KHAH LAM MEEM NOON QAF REH SAD TAH TEH THAL THEH WAW YEH ZAH ZAIN)
    NUMBER( ONE TEN TWENTY))) PERMIC( LETTER( AN BUR CHERY DOI DZHOI DZITA E EF GAI HA I IA IE KOKE
    LEI MENOE NENOE O OO PEEI REI SHCHOOI SHOOI SII TAI TSIU U VER VOOI YA YAT YER YERI YERU YRY YU
    ZATA ZHOI)) PERSIAN( NUMBER( HUNDRED ONE TEN TWENTY TWO) SIGN( A AURAMAZDAA AURAMAZDAA-2
    AURAMAZDAAHA BA BAGA BUUMISH CA DA DAHYAAUSH DAHYAAUSH-2 DI DU FA GA GU HA I JA JI KA KU LA MA
    MI MU NA NU PA RA RU SA SHA SSA TA THA TU U VA VI XA XSHAAYATHIYA YA ZA) WORD( DIVIDER))
    PERSONAL( COMPUTER) SOGDIAN( FRACTION( ONE( HALF)) LETTER( ALEPH ALTERNATE( AYIN) AYIN BETH
    FINAL( ALEPH BETH HE NUN( . WITH( VERTICAL( TAIL))) SADHE( . WITH( VERTICAL( TAIL))) TAW( .
    WITH( VERTICAL( TAIL)))) GIMEL HE HETH KAPH LAMEDH MEM NUN PE RESH-AYIN-DALETH SADHE SAMEKH SHIN
    TAW WAW YODH ZAYIN) LIGATURE( AYIN-DALETH) NUMBER( FIVE FOUR ONE( . HUNDRED) TEN THIRTY THREE
    TWENTY TWO)) SOUTH( ARABIAN( LETTER( ALEF AYN BETH DALETH DHADHE DHALETH FE GHAYN GIMEL HE HETH
    KAPH KHETH LAMEDH MEM NUN QOPH RESH SADHE SAMEKH SAT SHIN TAW TETH THAW THETH WAW YODH ZAYN)
    NUMBER( FIFTY ONE) NUMERIC( INDICATOR))) TURKIC( LETTER( ORKHON( A AB AD AEB AED AEG AEK AEL AEN
    AER AES AET AEY AG AL AN AQ AR AS ASH AT AY BASH EC ELT EM ENC ENG ENT ENY EP ESH EZ I IC IQ O
    OE OEK OP OQ OT) YENISEI( A AB AD AE AEB AEG AEK AEN AENG AET AEY AG AL ANG AQ AR ASH AT AY E EC
    ENC ENT ENY ESH EZ I IQ OE OEK OQ))) UYGHUR( COMBINING( DOT( ABOVE BELOW) TWO( DOTS( ABOVE
    BELOW))) LETTER( ALEPH BETH FINAL( HETH) GIMEL-HETH KAPH LAMEDH LESH MEM NUN PE RESH SADHE
    SAMEKH SHIN TAW WAW YODH ZAYIN) PUNCTUATION( BAR FOUR( DOTS) TWO( BARS DOTS)))) OLDER( ADULT MAN
    WOMAN) OLIVE OM( SYMBOL) ON( WITH( EXCLAMATION( MARK( WITH( LEFT( RIGHT( ARROW( ABOVE))))))))
    ONCOMING( AUTOMOBILE BUS FIRE( ENGINE) POLICE( CAR) TAXI) ONE( BUTTON( MOUSE) DOT( LEADER OVER(
    TWO( DOTS( PUNCTUATION))))) ONE-PIECE( SWIMSUIT) ONION OPEN( BOOK BOX CENTRE( ASTERISK BLACK(
    STAR) CROSS TEARDROP-SPOKED( ASTERISK)) FILE( FOLDER) FOLDER HANDS( SIGN) LOCK MAILBOX( WITH(
    LOWERED( FLAG) RAISED( FLAG))) SUBSET SUPERSET) OPEN-CIRCUIT-OUTPUT( H-TYPE( SYMBOL) L-TYPE(
    SYMBOL)) OPEN-OUTLINED( RIGHTWARDS( ARROW)) OPERATING( SYSTEM( COMMAND)) OPHIUCHUS OPPOSITION
    OPTICAL( DISC( . ICON)) OPTION( KEY) OR( WITH( DOT( INSIDE))) ORANGE( BOOK HEART) ORANGUTAN
    ORIYA( AI( LENGTH( MARK)) AU( LENGTH( MARK)) DIGIT( EIGHT FIVE FOUR NINE ONE SEVEN SIX THREE TWO
    ZERO) FRACTION( ONE( EIGHTH HALF QUARTER SIXTEENTH) THREE( QUARTERS SIXTEENTHS)) ISSHAR LETTER(
    A AA AI AU BA BHA CA CHA DA DDA DDHA DHA E GA GHA HA I II JA JHA KA KHA LA LLA MA NA NGA NNA NYA
    O PA PHA RA RHA RRA SA SHA SSA TA THA TTA TTHA U UU VA VOCALIC( L LL R RR) WA YA YYA) SIGN(
    ANUSVARA AVAGRAHA CANDRABINDU NUKTA OVERLINE VIRAMA VISARGA) VOWEL( SIGN( AA AI AU E I II O U UU
    VOCALIC( L LL R RR)))) ORNATE( LEFT( PARENTHESIS) RIGHT( PARENTHESIS)) ORTHODOX( CROSS) OSAGE(
    CAPITAL( LETTER( A AH AI AIN BRA CHA DHA E EHCHA EHKA EHPA EHTA EHTSA EIN GHA HA HYA I KA KHA
    KYA LA MA NA O OIN PA SA SHA TA TSA TSHA U WA ZA ZHA)) SMALL( LETTER( A AH AI AIN BRA CHA DHA E
    EHCHA EHKA EHPA EHTA EHTSA EIN GHA HA HYA I KA KHA KYA LA MA NA O OIN PA SA SHA TA TSA TSHA U WA
    ZA ZHA))) OSC OSMANYA( DIGIT( EIGHT FIVE FOUR NINE ONE SEVEN SIX THREE TWO ZERO) LETTER( A AA
    ALEF BA CAYN DEEL DHA E EE FA GA HA I JA KAAF KHA LAAN MIIN NUUN O OO QAAF RA SA SHIIN TA U WAW
    XA YA)) OTTER OTTOMAN( SIYAQ( ALTERNATE( NUMBER( EIGHT FIVE FOUR( . HUNDRED) NINE SEVEN SIX( .
    HUNDRED) TEN( . THOUSAND) THREE TWO( . THOUSAND))) FRACTION( ONE( HALF SIXTH)) MARRATAN NUMBER(
    EIGHT( . HUNDRED THOUSAND) EIGHTY( . THOUSAND) FIFTY( . THOUSAND) FIVE( . HUNDRED THOUSAND)
    FORTY( . THOUSAND) FOUR( . HUNDRED THOUSAND) NINE( . HUNDRED THOUSAND) NINETY( . THOUSAND) ONE(
    . HUNDRED THOUSAND) SEVEN( . HUNDRED THOUSAND) SEVENTY( . THOUSAND) SIX( . HUNDRED THOUSAND)
    SIXTY( . THOUSAND) TEN( . THOUSAND) THIRTY( . THOUSAND) THREE( . HUNDRED THOUSAND) TWENTY( .
    THOUSAND) TWO( . HUNDRED THOUSAND)))) OUNCE( SIGN) OUTBOX( TRAY) OUTLINED( BLACK( STAR) GREEK(
    CROSS) LATIN( CROSS) WHITE( STAR)) OVERHEATED( FACE) OVERLAP OVERLAPPING( BLACK( SQUARES) WHITE(
    AND( BLACK( SQUARES)) SQUARES)) OVERLINE OWL OX OYSTER PACKAGE PAD PADDING( CHARACTER) PAGE( .
    FACING( UP) WITH( CIRCLED( TEXT) CURL)) PAGER PAGES PAGODA PAHAWH( HMONG( CLAN( SIGN( FAJ HAM
    HAWJ KHAB KOO KWM LAUJ LIS MUAS PHAB THOJ TSAB TSHEEJ TSWB VAJ VWJ XYOOJ YAJ YEEG)) CONSONANT(
    AU CAU CHAU HAU HLAU HNAU LAU MAU NAU NCHAU NKAU NLAU NTHAU NTSAU PLHAU QHAU RAU VAU XAU YAU)
    DIGIT( EIGHT FIVE FOUR NINE ONE SEVEN SIX THREE TWO ZERO) MARK( CIM( HOM KES KHAV SO SUAM TAUM
    TUB)) NUMBER( HUNDRED( MILLIONS) HUNDREDS MILLIONS TEN( BILLIONS THOUSANDS) TENS TRILLIONS)
    SIGN( AV CIM( CHEEM CUAM( TSHOOJ) HAIS( LUS( NTOG( NTOG))) NRES( TOS) PUB( DAWB) TSOV( ROG)
    TXWV( . CHWV)) HLI HNUB IB( YAM) LOS MEEJ( SUAB TSEEB) MUS NQIG NTUJ TAU THIRD-STAGE( HLI)
    TXHEEJ( CEEV) VOS( FEEM LUB NRUA SEEV THIAB THOM TSHAB( CEEB)) XAUS XIAB XYEEM( FAIB NTXIV RHO
    TOV) XYOO ZWJ( THAJ)) VOWEL( KAAB KAAV KAB KAIB KAIV KAUB KAUV KAV KAWB KAWV KEB KEEB KEEV KEV
    KIAB KIAV KIB KIV KOB KOOB KOOV KOV KUAB KUAV KUB KUV KWB KWV))) PALLAS PALM( BRANCH DOWN( HAND)
    TREE UP( HAND)) PALMS( UP( TOGETHER)) PALMYRENE( LEFT-POINTING( FLEURON) LETTER( ALEPH AYIN BETH
    DALETH FINAL( NUN) GIMEL HE HETH KAPH LAMEDH MEM NUN PE QOPH RESH SADHE SAMEKH SHIN TAW TETH WAW
    YODH ZAYIN) NUMBER( FIVE FOUR ONE TEN THREE TWENTY TWO) RIGHT-POINTING( FLEURON)) PANCAKES
    PANDA( FACE) PAPERCLIP PARACHUTE PARAGRAPH( SEPARATOR) PARAGRAPHOS PARAGRAPHUS( MARK) PARALLEL(
    TO WITH( HORIZONTAL( STROKE) TILDE( OPERATOR))) PARENTHESIZED( DIGIT( EIGHT FIVE FOUR NINE ONE
    SEVEN SIX THREE TWO) HANGUL( CHIEUCH( . A) CIEUC( . A U) HIEUH( . A) IEUNG( . A) KHIEUKH( . A)
    KIYEOK( . A) MIEUM( . A) NIEUN( . A) PHIEUPH( . A) PIEUP( . A) RIEUL( . A) SIOS( . A) THIEUTH( .
    A) TIKEUT( . A)) IDEOGRAPH( ALLIANCE CALL CONGRATULATION EARTH EIGHT ENTERPRISE FESTIVAL
    FINANCIAL FIRE FIVE FOUR HAVE LABOR METAL MOON NAME NINE ONE REACH REPRESENT RESOURCE REST SELF
    SEVEN SIX SOCIETY SPECIAL STOCK STUDY SUN SUPERVISE TEN THREE TWO WATER WOOD) KOREAN( CHARACTER(
    O( HU) OJEON)) LATIN( CAPITAL( LETTER( A B C D E F G H I J K L M N O P Q R S T U V W X Y Z))
    SMALL( LETTER( A B C D E F G H I J K L M N O P Q R S T U V W X Y Z))) NUMBER( EIGHTEEN ELEVEN
    FIFTEEN FOURTEEN NINETEEN SEVENTEEN SIXTEEN TEN THIRTEEN TWELVE TWENTY)) PARROT PART(
    ALTERNATION( MARK)) PARTIAL( DIFFERENTIAL LINE( BACKWARD DOWN FORWARD UP)) PARTIALLY-RECYCLED(
    PAPER( SYMBOL)) PARTNERSHIP( SIGN) PARTY( POPPER) PASSED( SYMBOL) PASSENGER( SHIP)
    PASSIVE-PULL-DOWN-OUTPUT( SYMBOL) PASSIVE-PULL-UP-OUTPUT( SYMBOL) PASSPORT( CONTROL) PAU( CIN(
    HAU( GLOTTAL( STOP( . FINAL VARIANT)) LETTER( A BA CA CHA DA E FA FINAL( K L M N NG P T W Y) GA
    HA I IA KA KHA LA MA NA NGA O PA PHA RA SA TA THA U UA VA ZA) LOW-FALLING( TONE( . FINAL LONG( .
    FINAL))) MID-LEVEL( TONE( . FINAL LONG( FINAL))) RISING( TONE( . FINAL LONG( . FINAL))) SANDHI(
    GLOTTAL( STOP( . FINAL)) TONE( . FINAL LONG( . FINAL)))))) PAW( PRINTS) PDF PDI PEACE( SYMBOL)
    PEACH PEACOCK PEANUTS PEAR PEDESTRIAN PEN( OVER( STAMPED( ENVELOPE))) PENCIL PENGUIN PENSIVE(
    FACE) PENTAGRAM PEOPLE( HUGGING) PER( MILLE( SIGN) SIGN TEN( THOUSAND( SIGN))) PERCENT( SIGN)
    PERFORMING( ARTS) PERMANENT( PAPER( SIGN)) PERPENDICULAR( . WITH( S)) PERSEVERING( FACE) PERSON(
    BOWING( DEEPLY) CLIMBING DOING( CARTWHEEL) FROWNING IN( LOTUS( POSITION) STEAMY( ROOM)) RAISING(
    BOTH( HANDS( IN( CELEBRATION)))) WITH( BALL BLOND( HAIR) CROWN FOLDED( HANDS) HEADSCARF POUTING(
    FACE))) PERSONAL( COMPUTER) PERSPECTIVE PESETA( SIGN) PESO( SIGN) PETRI( DISH) PHAGS-PA( DOUBLE(
    HEAD( MARK)) LETTER( A ALTERNATE( YA) ASPIRATED( FA) BA CA CANDRABINDU CHA DA DDA DZA E EE FA GA
    GGA HA I JA KA KHA LA MA NA NGA NNA NYA O PA PHA QA RA SA SHA SMALL( A) TA THA TSA TSHA TTA TTHA
    U VOICED( HA) VOICELESS( SHA) WA XA YA ZA ZHA) MARK( DOUBLE( SHAD) SHAD) SINGLE( HEAD( MARK))
    SUBJOINED( LETTER( RA WA YA)) SUPERFIXED( LETTER( RA))) PHAISTOS( DISC( SIGN( ARROW BEE BEEHIVE
    BOOMERANG BOW BULLS( LEG) CAPTIVE CARPENTRY( PLANE) CAT CHILD CLUB COLUMN COMB COMBINING(
    OBLIQUE( STROKE)) DOLIUM DOVE EAGLE FLUTE GAUNTLET GRATER HELMET HIDE HORN LID LILY MANACLES
    MATTOCK OX( BACK) PAPYRUS PEDESTRIAN PLANE( TREE) PLUMED( HEAD) RAM ROSETTE SAW SHIELD SHIP
    SLING SMALL( AXE) STRAINER TATTOOED( HEAD) TIARA TUNNY VINE WAVY( BAND) WOMAN))) PHILIPPINE(
    DOUBLE( PUNCTUATION) SINGLE( PUNCTUATION)) PHOENICIAN( LETTER( AIN ALF BET DELT GAML HE HET KAF
    LAMD MEM NUN PE QOF ROSH SADE SEMK SHIN TAU TET WAU YOD ZAI) NUMBER( ONE( . HUNDRED) TEN THREE
    TWENTY TWO) WORD( SEPARATOR)) PHOLUS PICK PICKUP( TRUCK) PIE PIG( . FACE NOSE) PILCROW( SIGN)
    PILE( OF( POO)) PILL PINATA PINCHED( FINGERS) PINCHING( HAND) PINE( DECORATION) PINEAPPLE
    PINWHEEL( STAR) PISCES PISTOL PITCHFORK( . WITH( TEE( TOP))) PLACARD PLACE( OF( INTEREST( SIGN)
    WORSHIP)) PLANCK( CONSTANT( . OVER( TWO( PI)))) PLAYGROUND( SLIDE) PLAYING( CARD( ACE( OF( CLUBS
    DIAMONDS HEARTS SPADES)) BACK BLACK( JOKER) EIGHT( OF( CLUBS DIAMONDS HEARTS SPADES)) FIVE( OF(
    CLUBS DIAMONDS HEARTS SPADES)) FOOL FOUR( OF( CLUBS DIAMONDS HEARTS SPADES)) JACK( OF( CLUBS
    DIAMONDS HEARTS SPADES)) KING( OF( CLUBS DIAMONDS HEARTS SPADES)) KNIGHT( OF( CLUBS DIAMONDS
    HEARTS SPADES)) NINE( OF( CLUBS DIAMONDS HEARTS SPADES)) QUEEN( OF( CLUBS DIAMONDS HEARTS
    SPADES)) RED( JOKER) SEVEN( OF( CLUBS DIAMONDS HEARTS SPADES)) SIX( OF( CLUBS DIAMONDS HEARTS
    SPADES)) TEN( OF( CLUBS DIAMONDS HEARTS SPADES)) THREE( OF( CLUBS DIAMONDS HEARTS SPADES))
    TRUMP-1 TRUMP-10 TRUMP-11 TRUMP-12 TRUMP-13 TRUMP-14 TRUMP-15 TRUMP-16 TRUMP-17 TRUMP-18
    TRUMP-19 TRUMP-2 TRUMP-20 TRUMP-21 TRUMP-3 TRUMP-4 TRUMP-5 TRUMP-6 TRUMP-7 TRUMP-8 TRUMP-9 TWO(
    OF( CLUBS DIAMONDS HEARTS SPADES)) WHITE( JOKER))) PLD PLU PLUNGER PLUS( SIGN( . ABOVE( EQUALS(
    SIGN)) IN( LEFT( HALF( CIRCLE)) RIGHT( HALF( CIRCLE)) TRIANGLE) WITH( BLACK( TRIANGLE)
    CIRCUMFLEX( ACCENT( ABOVE)) DOT( BELOW) SMALL( CIRCLE( ABOVE)) SUBSCRIPT( TWO) TILDE( ABOVE
    BELOW)))) PLUS-MINUS( SIGN) PLUTO( . FORM( FIVE FOUR THREE TWO)) PM POCKET( CALCULATOR) POLICE(
    CAR CARS( REVOLVING( LIGHT)) OFFICER) POODLE POP( DIRECTIONAL( FORMATTING ISOLATE)) POPCORN
    PORTABLE( STEREO) POSEIDON POSITION( INDICATOR) POSTAL( HORN MARK( . FACE)) POSTBOX POT( OF(
    FOOD)) POTABLE( WATER( SYMBOL)) POTATO POTTED( PLANT) POUCH POULTRY( LEG) POUND( SIGN) POURING(
    LIQUID) POUTING( CAT( FACE) FACE) POWER( ON( SYMBOL) ON-OFF( SYMBOL) SLEEP( SYMBOL) SYMBOL)
    PRAYER( BEADS) PRECEDES( . ABOVE( ALMOST( EQUAL( TO)) EQUALS( SIGN) NOT( ALMOST( EQUAL( TO))
    EQUAL( TO)) SINGLE-LINE( EQUALS( SIGN) NOT( EQUAL( TO)))) BUT( NOT( EQUIVALENT( TO))) OR( EQUAL(
    TO) EQUIVALENT( TO)) UNDER( RELATION)) PREGNANT( MAN PERSON WOMAN) PRESCRIPTION( TAKE)
    PRESENTATION( FORM( FOR( VERTICAL( COLON COMMA EM( DASH) EN( DASH) EXCLAMATION( MARK)
    HORIZONTAL( ELLIPSIS) IDEOGRAPHIC( COMMA FULL( STOP)) LEFT( ANGLE( BRACKET) BLACK( LENTICULAR(
    BRACKET)) CORNER( BRACKET) CURLY( BRACKET) DOUBLE( ANGLE( BRACKET)) PARENTHESIS SQUARE( BRACKET)
    TORTOISE( SHELL( BRACKET)) WHITE( CORNER( BRACKET) LENTICULAR( BRACKET))) LOW( LINE) QUESTION(
    MARK) RIGHT( ANGLE( BRACKET) BLACK( LENTICULAR( BRACKET)) CORNER( BRACKET) CURLY( BRACKET)
    DOUBLE( ANGLE( BRACKET)) PARENTHESIS SQUARE( BRACKET) TORTOISE( SHELL( BRACKET)) WHITE( CORNER(
    BRACKET) LENTICULAR( BRACKET BRAKCET))) SEMICOLON TWO( DOT( LEADER)) WAVY( LOW( LINE))))))
    PRETZEL PREVIOUS( PAGE) PRIME PRINCE PRINCESS PRINT( SCREEN( SYMBOL)) PRINTER( . ICON) PRIVACY(
    MESSAGE) PRIVATE( USE( ONE TWO) USE-1 USE-2) PROBING( CANE) PROHIBITED( SIGN) PROJECTIVE
    PROPERTY( LINE) PROPORTION PROPORTIONAL( TO) PROSERPINA PSALTER( PAHLAVI( FOUR( DOTS( WITH(
    CROSS DOT))) LETTER( ALEPH BETH DALETH GIMEL HE HETH KAPH LAMEDH MEM-QOPH NUN PE SADHE SAMEKH
    SHIN TAW WAW-AYIN-RESH YODH ZAYIN) NUMBER( FOUR ONE( . HUNDRED) TEN THREE TWENTY TWO) SECTION(
    MARK) TURNED( SECTION( MARK)))) PU1 PU2 PUBLIC( ADDRESS( LOUDSPEAKER)) PUNCTUATION( SPACE)
    PUNCTUS( ELEVATUS( MARK)) PURPLE( HEART) PURSE PUSHPIN PUT( LITTER( IN( ITS( PLACE( SYMBOL)))))
    QUADRANT( LOWER( LEFT RIGHT) UPPER( LEFT( . AND( LOWER( LEFT( AND( LOWER( RIGHT))) RIGHT) UPPER(
    RIGHT( AND( LOWER( LEFT RIGHT)))))) RIGHT( . AND( LOWER( LEFT( . AND( LOWER( RIGHT))))))))
    QUADRUPLE( INTEGRAL( OPERATOR) PRIME) QUARTER( NOTE) QUATERNION( INTEGRAL( OPERATOR)) QUESTION(
    EXCLAMATION( MARK) MARK) QUESTIONED( EQUAL( TO)) QUINCUNX QUOTATION( MARK) RABBIT( . FACE)
    RACCOON RACING( CAR MOTORCYCLE) RADICAL( SYMBOL( BOTTOM)) RADIO( . BUTTON) RADIOACTIVE( SIGN)
    RAILWAY( CAR TRACK) RAIN RAINBOW RAISED( BACK( OF( HAND)) COMMA DOT DOTTED( INTERPOLATION(
    MARKER)) FIST HAND( . WITH( FINGERS( SPLAYED) PART( BETWEEN( MIDDLE( AND( RING( FINGERS)))))))
    INTERPOLATION( MARKER) MC( SIGN) MD( SIGN) MR( SIGN) SQUARE) RAM RAT RATIO RAZOR RECEIPT RECORD(
    SEPARATOR) RECREATIONAL( VEHICLE) RECYCLED( PAPER( SYMBOL)) RECYCLING( SYMBOL( FOR( GENERIC(
    MATERIALS) TYPE-1( PLASTICS) TYPE-2( PLASTICS) TYPE-3( PLASTICS) TYPE-4( PLASTICS) TYPE-5(
    PLASTICS) TYPE-6( PLASTICS) TYPE-7( PLASTICS)))) RED( APPLE GIFT( ENVELOPE)) REFERENCE( MARK)
    REGIONAL( INDICATOR( SYMBOL( LETTER( A B C D E F G H I J K L M N O P Q R S T U V W X Y Z))))
    REGISTERED( SIGN) REJANG( CONSONANT( SIGN( H N NG R)) LETTER( A BA CA DA GA HA JA KA LA MA MBA
    NA NDA NGA NGGA NYA NYJA PA RA SA TA WA YA) SECTION( MARK) VIRAMA VOWEL( SIGN( AI AU E EA EU I O
    U))) RELIEVED( FACE) REMINDER( RIBBON) REPLACEMENT( CHARACTER) RESPONSE RESTRICTED( LEFT(
    ENTRY-1 ENTRY-2)) RESTROOM RETURN( LEFT RIGHT SYMBOL) REVERSE( CHECKER( BOARD) INDEX LIGHT(
    FOUR( POINTED( PINWHEEL( STAR)))) LINE( FEED) SOLIDUS( . OPERATOR PRECEDING( SUBSET) WITH(
    HORIZONTAL( STROKE))) TILDE( OPERATOR( ABOVE( LEFTWARDS( ARROW) RIGHTWARDS( ARROW))))) REVERSED(
    ANGLE( . WITH( UNDERBAR)) COMMA DOUBLE( PRIME( . QUOTATION( MARK)) STROKE( NOT( SIGN))) EMPTY(
    SET) FORKED( PARAGRAPHOS) HAND( WITH( MIDDLE( FINGER( EXTENDED)))) NOT( SIGN) PILCROW( SIGN)
    PRIME QUESTION( MARK) RAISED( HAND( WITH( FINGERS( SPLAYED)))) RIGHT( ANGLE) ROTATED( FLORAL(
    HEART( BULLET))) SANS-SERIF( CAPITAL( L)) SEMICOLON THUMBS( DOWN( SIGN) UP( SIGN)) TILDE( .
    EQUALS) TRIPLE( PRIME) VICTORY( HAND)) REVOLVING( HEARTS) RHINOCEROS RI RIAL( SIGN) RIBBON( .
    ARROW( DOWN( LEFT RIGHT) LEFT( DOWN UP) RIGHT( DOWN UP) UP( LEFT RIGHT))) RICE( BALL CRACKER)
    RIFLE RIGHT( AND( LOWER( ONE( EIGHTH( BLOCK))) UPPER( ONE( EIGHTH( BLOCK)))) ANGER( BUBBLE)
    ANGLE( . BRACKET( . WITH( DOT)) DOTTED( SUBSTITUTION( MARKER)) SUBSTITUTION( MARKER) VARIANT(
    WITH( SQUARE)) WITH( ARC DOWNWARDS( ZIGZAG( ARROW)))) ARC( GREATER-THAN( BRACKET)) ARROW( WITH(
    CIRCLED( PLUS) SMALL( CIRCLE))) BLACK( LENTICULAR( BRACKET) TORTOISE( SHELL( BRACKET))) CEILING
    CORNER( BRACKET) CURLY( BRACKET( . LOWER( HOOK) MIDDLE( PIECE) UPPER( HOOK))) DOTTED(
    SUBSTITUTION( BRACKET)) DOUBLE( ANGLE( BRACKET) ARROW( WITH( ROUNDED( HEAD))) PARENTHESIS
    QUOTATION( MARK) WIGGLY( FENCE)) FISH( TAIL) FIVE( EIGHTHS( BLOCK)) FLOOR HALF( BLACK( CIRCLE
    STAR) BLOCK FOLDER MEDIUM( SHADE) RUNNING( MAN)) HAND( TELEPHONE( RECEIVER)) LOW( PARAPHRASE(
    BRACKET)) NORMAL( FACTOR( SEMIDIRECT( PRODUCT))) ONE( EIGHTH( BLOCK) QUARTER( BLOCK)) OPEN(
    SQUARED( DOT)) OUTER( JOIN) PARENTHESIS( . EXTENSION LOWER( HOOK) UPPER( HOOK)) RAISED(
    OMISSION( BRACKET)) S-SHAPED( BAG( DELIMITER)) SEMIDIRECT( PRODUCT) SEVEN( EIGHTHS( BLOCK))
    SIDEWAYS( U( BRACKET)) SINGLE( QUOTATION( MARK)) SPEAKER( . WITH( ONE( SOUND( WAVE)) THREE(
    SOUND( WAVES)))) SPEECH( BUBBLE) SQUARE( BRACKET( . EXTENSION LOWER( CORNER) UPPER( CORNER)
    WITH( DOUBLE( STROKE) QUILL STROKE TICK( IN( BOTTOM( CORNER) TOP( CORNER))) UNDERBAR)))
    SUBSTITUTION( BRACKET) TACK THIRD( WHITE( RIGHT( POINTING( INDEX)))) THOUGHT( BUBBLE) THREE(
    EIGHTHS( BLOCK) QUARTERS( BLOCK)) TORTOISE( SHELL( BRACKET)) TRANSPOSITION( BRACKET) TRIANGLE( .
    ABOVE( LEFT( TRIANGLE))) TRIANGULAR( ONE( QUARTER( BLOCK))) VERTICAL( BAR( WITH( QUILL)) BOX(
    LINE)) WHITE( CORNER( BRACKET) CURLY( BRACKET) LENTICULAR( BRACKET) PARENTHESIS SQUARE( BRACKET)
    TORTOISE( SHELL( BRACKET))) WIGGLY( FENCE)) RIGHT-FACING( ARMENIAN( ETERNITY( SIGN)) FIST
    SVASTI( SIGN( . WITH( DOTS)))) RIGHT-HANDED( INTERLACED( PENTAGRAM)) RIGHT-POINTING( ANGLE(
    BRACKET) CURVED( ANGLE( BRACKET)) DOUBLE( ANGLE( QUOTATION( MARK))) MAGNIFYING( GLASS))
    RIGHT-SHADED( WHITE( RIGHTWARDS( ARROW))) RIGHT-SIDE( ARC( CLOCKWISE( ARROW))) RIGHT-TO-LEFT(
    EMBEDDING ISOLATE MARK OVERRIDE) RIGHTHAND( INTERIOR( PRODUCT)) RIGHTWARDS( ARROW( . ABOVE(
    ALMOST( EQUAL( TO)) REVERSE( ALMOST( EQUAL( TO)) TILDE( OPERATOR)) SHORT( LEFTWARDS( ARROW))
    TILDE( OPERATOR)) AND( UPPER( AND( LOWER( ONE( EIGHTH( BLOCK)))))) FROM( BAR( . TO( BLACK(
    DIAMOND)))) OVER( LEFTWARDS( ARROW)) THROUGH( GREATER-THAN SUPERSET X) TO( BAR BLACK( DIAMOND))
    WITH( CORNER( DOWNWARDS) DOTTED( STEM) DOUBLE( VERTICAL( STROKE)) EQUILATERAL( ARROWHEAD) HOOK
    LARGE( TRIANGLE( ARROWHEAD)) LOOP MEDIUM( TRIANGLE( ARROWHEAD)) NOTCHED( TAIL) PLUS( BELOW)
    SMALL( EQUILATERAL( ARROWHEAD) TRIANGLE( ARROWHEAD)) STROKE TAIL( . WITH( DOUBLE( VERTICAL(
    STROKE)) VERTICAL( STROKE))) TIP( DOWNWARDS UPWARDS) VERTICAL( STROKE))) ARROW-TAIL BACK-TILTED(
    SHADOWED( WHITE( ARROW))) BLACK( ARROW CIRCLED( WHITE( ARROW))) BOTTOM( SHADED( WHITE( ARROW)))
    COMPRESSED( ARROW) DASHED( ARROW) DOUBLE( ARROW( . FROM( BAR) WITH( STROKE VERTICAL( STROKE)))
    ARROW-TAIL DASH( ARROW)) FINGER-POST( ARROW) FRONT-TILTED( SHADOWED( WHITE( ARROW))) HAND
    HARPOON( OVER( LEFTWARDS( HARPOON)) WITH( BARB( DOWN( ABOVE( LEFTWARDS( HARPOON( WITH( BARB(
    DOWN))))) BELOW( LONG( DASH)) FROM( BAR) TO( BAR)) DOWNWARDS UP( ABOVE( LEFTWARDS( HARPOON(
    WITH( BARB( UP)))) LONG( DASH) RIGHTWARDS( HARPOON( WITH( BARB( DOWN))))) FROM( BAR) TO( BAR))
    UPWARDS))) HEAVY( ARROW COMPRESSED( ARROW)) LEFT-SHADED( WHITE( ARROW)) OPEN-HEADED( ARROW)
    PAIRED( ARROWS) QUADRUPLE( ARROW) RIGHT-SHADED( WHITE( ARROW)) ROCKET SANS-SERIF( ARROW)
    SQUARED( ARROW) SQUIGGLE( ARROW) TOP( SHADED( WHITE( ARROW))) TRIANGLE( ARROWHEAD)
    TRIANGLE-HEADED( ARROW( . OVER( LEFTWARDS( TRIANGLE-HEADED( ARROW))) TO( BAR) WITH( BOLD( SHAFT)
    DOUBLE( HORIZONTAL( STROKE) VERTICAL( STROKE)) HEAVY( SHAFT) LONG( TIP( DOWNWARDS UPWARDS))
    MEDIUM( SHAFT) NARROW( SHAFT) VERY( HEAVY( SHAFT)))) DASHED( ARROW) PAIRED( ARROWS)) TRIPLE(
    ARROW DASH( ARROW)) TWO( HEADED( ARROW)) TWO-HEADED( ARROW( FROM( BAR) WITH( DOUBLE( VERTICAL(
    STROKE)) TAIL( . WITH( DOUBLE( VERTICAL( STROKE)) VERTICAL( STROKE))) TRIANGLE( ARROWHEADS)
    VERTICAL( STROKE))) TRIPLE( DASH( ARROW))) WAVE( ARROW) WHITE( ARROW( . FROM( WALL) WITHIN(
    TRIANGLE( ARROWHEAD))))) RING( . ABOVE BUOY EQUAL( TO) IN( EQUAL( TO)) OPERATOR POINT) RINGED(
    PLANET) RINGING( BELL) RISING( DIAGONAL( CROSSING( FALLING( DIAGONAL) SOUTH( EAST( ARROW)))))
    RLE RLI RLM RLO ROASTED( SWEET( POTATO)) ROBOT( FACE) ROCK ROCKET ROLL( OF( PAPER)) ROLLED-UP(
    NEWSPAPER) ROLLER( COASTER SKATE) ROLLING( ON( THE( FLOOR( LAUGHING)))) ROMAN( AS( SIGN)
    CENTURIAL( SIGN) DENARIUS( SIGN) DIMIDIA( SEXTULA( SIGN)) DUPONDIUS( SIGN) NUMERAL( EIGHT ELEVEN
    FIFTY( . EARLY( FORM) THOUSAND) FIVE( . HUNDRED THOUSAND) FOUR NINE ONE( . HUNDRED( . THOUSAND)
    THOUSAND( . C( D))) REVERSED( ONE( HUNDRED)) SEVEN SIX( . LATE( FORM)) TEN( . THOUSAND) THREE
    TWELVE TWO) QUINARIUS( SIGN) SEMUNCIA( SIGN) SESTERTIUS( SIGN) SEXTANS( SIGN) SEXTULA( SIGN)
    SILIQUA( SIGN) UNCIA( SIGN)) ROOSTER ROSE ROSETTE ROTATED( CAPITAL( Q) FLORAL( HEART( BULLET))
    HEAVY( BLACK( HEART( BULLET))) LIGHT( FOUR( POINTED( BLACK( CUSP)))) WHITE( FOUR( POINTED(
    CUSP)))) ROUND( PUSHPIN TARGET) ROUNDED( SYMBOL( FOR( CAI FU LU SHOU SHUANGXI XI))) ROWBOAT RS
    RUBLE( SIGN) RUGBY( FOOTBALL) RULE-DELAYED RUMI( DIGIT( EIGHT FIVE FOUR NINE ONE SEVEN SIX THREE
    TWO) FRACTION( ONE( HALF QUARTER THIRD) TWO( THIRDS)) NUMBER( EIGHT( HUNDRED) EIGHTY FIFTY FIVE(
    HUNDRED) FORTY FOUR( HUNDRED) NINE( HUNDRED) NINETY ONE( HUNDRED) SEVEN( HUNDRED) SEVENTY SIX(
    HUNDRED) SIXTY TEN THIRTY THREE( HUNDRED) TWENTY TWO( HUNDRED))) RUNIC( ARLAUG( SYMBOL)
    BELGTHOR( SYMBOL) CROSS( PUNCTUATION) LETTER( AC( A) AESC ALGIZ( EOLHX) ANSUZ( A) BERKANAN(
    BEORC( BJARKAN( B))) C CALC CEALC CEN CWEORTH D DAGAZ( DAEG( D)) DOTTED-L DOTTED-N DOTTED-P E
    EAR EHWAZ( EH( E)) ENG ETH FEHU( FEOH( FE( F))) FRANKS( CASKET( AC AESC EH IS OS)) G GAR GEBO(
    GYFU( G)) GER HAEGL( H) HAGLAZ( H) ICELANDIC-YR ING INGWAZ IOR ISAZ( IS( ISS( I))) IWAZ( EOH)
    JERAN( J) K KAUN( K) KAUNA LAUKAZ( LAGU( LOGR( L))) LONG-BRANCH-AR( AE) LONG-BRANCH-HAGALL( H)
    LONG-BRANCH-MADR( M) LONG-BRANCH-OSS( O) LONG-BRANCH-YR MANNAZ( MAN( M)) NAUDIZ( NYD( NAUD( N)))
    O OE ON OO OPEN-P OS( O) OTHALAN( ETHEL( O)) PERTHO( PEORTH( P)) Q RAIDO( RAD( REID( R))) SH
    SHORT-TWIG-AR( A) SHORT-TWIG-BJARKAN( B) SHORT-TWIG-HAGALL( H) SHORT-TWIG-MADR( M)
    SHORT-TWIG-NAUD( N) SHORT-TWIG-OSS( O) SHORT-TWIG-SOL( S) SHORT-TWIG-TYR( T) SHORT-TWIG-YR
    SIGEL( LONG-BRANCH-SOL( S)) SOWILO( S) STAN THURISAZ( THURS( THORN)) TIWAZ( TIR( TYR( T))) URUZ(
    UR( U)) V W WUNJO( WYNN( W)) X Y YR Z) MULTIPLE( PUNCTUATION) SINGLE( PUNCTUATION) TVIMADUR(
    SYMBOL)) RUNNER RUNNING( SHIRT( WITH( SASH))) RUPEE( SIGN) RUSSIAN( ASTROLOGICAL( SYMBOL(
    BINOVILE NOVILE QUINTILE SENTAGON TREDECILE VIGINTILE)))"

end Text
end ShadowLint
