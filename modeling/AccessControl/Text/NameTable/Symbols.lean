import AccessControl.Text.Ranges

/-! Character names of Unicode 14 from U+2000 to U+2FFF. -/

namespace AccessControl.Text

/-- Names of punctuation, signs, arrows and technical symbols. -/
def symbolNames : Array NameRun := #[
  ⟨0x2000, "", ["EN QUAD/EM QUAD/EN SPACE"]⟩,
  ⟨0x2003, "", ["EM SPACE/THREE-PER-EM SPACE/FOUR-PER-EM SPACE/SIX-PER-EM SPACE/FIGURE SPACE"]⟩,
  ⟨0x2008, "", ["PUNCTUATION SPACE/THIN SPACE/HAIR SPACE/ZERO WIDTH SPACE/ZERO WIDTH NON-JOINER"]⟩,
  ⟨0x200d, "", ["ZERO WIDTH JOINER/LEFT-TO-RIGHT MARK/RIGHT-TO-LEFT MARK/HYPHEN",
    "NON-BREAKING HYPHEN"]⟩,
  ⟨0x2012, "", ["FIGURE DASH/EN DASH/EM DASH/HORIZONTAL BAR/DOUBLE VERTICAL LINE"]⟩,
  ⟨0x2017, "", ["DOUBLE LOW LINE/LEFT SINGLE QUOTATION MARK/RIGHT SINGLE QUOTATION MARK",
    "SINGLE LOW-9 QUOTATION MARK/SINGLE HIGH-REVERSED-9 QUOTATION MARK"]⟩,
  ⟨0x201c, "", ["LEFT DOUBLE QUOTATION MARK/RIGHT DOUBLE QUOTATION MARK",
    "DOUBLE LOW-9 QUOTATION MARK/DOUBLE HIGH-REVERSED-9 QUOTATION MARK/DAGGER"]⟩,
  ⟨0x2021, "", ["DOUBLE DAGGER/BULLET/TRIANGULAR BULLET/ONE DOT LEADER/TWO DOT LEADER"]⟩,
  ⟨0x2026, "", ["HORIZONTAL ELLIPSIS/HYPHENATION POINT/LINE SEPARATOR/PARAGRAPH SEPARATOR",
    "LEFT-TO-RIGHT EMBEDDING"]⟩,
  ⟨0x202b, "", ["RIGHT-TO-LEFT EMBEDDING/POP DIRECTIONAL FORMATTING/LEFT-TO-RIGHT OVERRIDE",
    "RIGHT-TO-LEFT OVERRIDE/NARROW NO-BREAK SPACE"]⟩,
  ⟨0x2030, "", ["PER MILLE SIGN/PER TEN THOUSAND SIGN/PRIME/DOUBLE PRIME/TRIPLE PRIME"]⟩,
  ⟨0x2035, "", ["REVERSED PRIME/REVERSED DOUBLE PRIME/REVERSED TRIPLE PRIME/CARET",
    "SINGLE LEFT-POINTING ANGLE QUOTATION MARK"]⟩,
  ⟨0x203a, "", ["SINGLE RIGHT-POINTING ANGLE QUOTATION MARK/REFERENCE MARK",
    "DOUBLE EXCLAMATION MARK/INTERROBANG/OVERLINE"]⟩,
  ⟨0x203f, "", ["UNDERTIE/CHARACTER TIE/CARET INSERTION POINT/ASTERISM/HYPHEN BULLET"]⟩,
  ⟨0x2044, "", ["FRACTION SLASH/LEFT SQUARE BRACKET WITH QUILL/RIGHT SQUARE BRACKET WITH QUILL",
    "DOUBLE QUESTION MARK/QUESTION EXCLAMATION MARK"]⟩,
  ⟨0x2049, "", ["EXCLAMATION QUESTION MARK/TIRONIAN SIGN ET/REVERSED PILCROW SIGN",
    "BLACK LEFTWARDS BULLET/BLACK RIGHTWARDS BULLET"]⟩,
  ⟨0x204e, "", ["LOW ASTERISK/REVERSED SEMICOLON/CLOSE UP/TWO ASTERISKS ALIGNED VERTICALLY",
    "COMMERCIAL MINUS SIGN"]⟩,
  ⟨0x2053, "", ["SWUNG DASH/INVERTED UNDERTIE/FLOWER PUNCTUATION MARK/THREE DOT PUNCTUATION",
    "QUADRUPLE PRIME"]⟩,
  ⟨0x2058, "", ["FOUR DOT PUNCTUATION/FIVE DOT PUNCTUATION/TWO DOT PUNCTUATION/FOUR DOT MARK",
    "DOTTED CROSS"]⟩,
  ⟨0x205d, "", ["TRICOLON/VERTICAL FOUR DOTS/MEDIUM MATHEMATICAL SPACE/WORD JOINER",
    "FUNCTION APPLICATION"]⟩,
  ⟨0x2062, "INVISIBLE ", ["TIMES/SEPARATOR/PLUS"]⟩,
  ⟨0x2066, "", ["LEFT-TO-RIGHT ISOLATE/RIGHT-TO-LEFT ISOLATE/FIRST STRONG ISOLATE",
    "POP DIRECTIONAL ISOLATE/INHIBIT SYMMETRIC SWAPPING"]⟩,
  ⟨0x206b, "", ["ACTIVATE SYMMETRIC SWAPPING/INHIBIT ARABIC FORM SHAPING",
    "ACTIVATE ARABIC FORM SHAPING/NATIONAL DIGIT SHAPES/NOMINAL DIGIT SHAPES"]⟩,
  ⟨0x2070, "SUPERSCRIPT ", ["ZERO/LATIN SMALL LETTER I"]⟩,
  ⟨0x2074, "SUPERSCRIPT ", ["FOUR/FIVE/SIX/SEVEN/EIGHT/NINE/PLUS SIGN/MINUS/EQUALS SIGN",
    "LEFT PARENTHESIS/RIGHT PARENTHESIS/LATIN SMALL LETTER N"]⟩,
  ⟨0x2080, "SUBSCRIPT ", ["ZERO/ONE/TWO/THREE/FOUR/FIVE/SIX/SEVEN/EIGHT/NINE/PLUS SIGN/MINUS",
    "EQUALS SIGN/LEFT PARENTHESIS/RIGHT PARENTHESIS"]⟩,
  ⟨0x2090, "LATIN SUBSCRIPT SMALL LETTER ", ["A/E/O/X/SCHWA/H/K/L/M/N/P/S/T"]⟩,
  ⟨0x20a0, "", ["EURO-CURRENCY SIGN/COLON SIGN/CRUZEIRO SIGN"]⟩,
  ⟨0x20a3, "", ["FRENCH FRANC SIGN/LIRA SIGN/MILL SIGN/NAIRA SIGN/PESETA SIGN"]⟩,
  ⟨0x20a8, "", ["RUPEE SIGN/WON SIGN/NEW SHEQEL SIGN/DONG SIGN/EURO SIGN"]⟩,
  ⟨0x20ad, "", ["KIP SIGN/TUGRIK SIGN/DRACHMA SIGN/GERMAN PENNY SIGN/PESO SIGN"]⟩,
  ⟨0x20b2, "", ["GUARANI SIGN/AUSTRAL SIGN/HRYVNIA SIGN/CEDI SIGN/LIVRE TOURNOIS SIGN"]⟩,
  ⟨0x20b7, "", ["SPESMILO SIGN/TENGE SIGN/INDIAN RUPEE SIGN/TURKISH LIRA SIGN/NORDIC MARK SIGN"]⟩,
  ⟨0x20bc, "", ["MANAT SIGN/RUBLE SIGN/LARI SIGN/BITCOIN SIGN/SOM SIGN"]⟩,
  ⟨0x20d0, "COMBINING ", ["LEFT HARPOON ABOVE/RIGHT HARPOON ABOVE/LONG VERTICAL LINE OVERLAY",
    "SHORT VERTICAL LINE OVERLAY/ANTICLOCKWISE ARROW ABOVE/CLOCKWISE ARROW ABOVE",
    "LEFT ARROW ABOVE/RIGHT ARROW ABOVE/RING OVERLAY/CLOCKWISE RING OVERLAY",
    "ANTICLOCKWISE RING OVERLAY/THREE DOTS ABOVE/FOUR DOTS ABOVE/ENCLOSING CIRCLE",
    "ENCLOSING SQUARE/ENCLOSING DIAMOND/ENCLOSING CIRCLE BACKSLASH/LEFT RIGHT ARROW ABOVE",
    "ENCLOSING SCREEN/ENCLOSING KEYCAP/ENCLOSING UPWARD POINTING TRIANGLE",
    "REVERSE SOLIDUS OVERLAY/DOUBLE VERTICAL STROKE OVERLAY/ANNUITY SYMBOL/TRIPLE UNDERDOT",
    "WIDE BRIDGE ABOVE/LEFTWARDS ARROW OVERLAY/LONG DOUBLE SOLIDUS OVERLAY",
    "RIGHTWARDS HARPOON WITH BARB DOWNWARDS/LEFTWARDS HARPOON WITH BARB DOWNWARDS",
    "LEFT ARROW BELOW/RIGHT ARROW BELOW/ASTERISK ABOVE"]⟩,
  ⟨0x2100, "", ["ACCOUNT OF/ADDRESSED TO THE SUBJECT/DOUBLE-STRUCK CAPITAL C/DEGREE CELSIUS",
    "CENTRE LINE SYMBOL"]⟩,
  ⟨0x2105, "", ["CARE OF/CADA UNA/EULER CONSTANT/SCRUPLE/DEGREE FAHRENHEIT"]⟩,
  ⟨0x210a, "", ["SCRIPT SMALL G/SCRIPT CAPITAL H/BLACK-LETTER CAPITAL H/DOUBLE-STRUCK CAPITAL H",
    "PLANCK CONSTANT"]⟩,
  ⟨0x210f, "", ["PLANCK CONSTANT OVER TWO PI/SCRIPT CAPITAL I/BLACK-LETTER CAPITAL I",
    "SCRIPT CAPITAL L/SCRIPT SMALL L"]⟩,
  ⟨0x2114, "", ["L B BAR SYMBOL/DOUBLE-STRUCK CAPITAL N/NUMERO SIGN/SOUND RECORDING COPYRIGHT",
    "SCRIPT CAPITAL P"]⟩,
  ⟨0x2119, "DOUBLE-STRUCK CAPITAL ", ["P/Q"]⟩,
  ⟨0x211b, "", ["SCRIPT CAPITAL R/BLACK-LETTER CAPITAL R/DOUBLE-STRUCK CAPITAL R",
    "PRESCRIPTION TAKE/RESPONSE"]⟩,
  ⟨0x2120, "", ["SERVICE MARK/TELEPHONE SIGN/TRADE MARK SIGN/VERSICLE/DOUBLE-STRUCK CAPITAL Z"]⟩,
  ⟨0x2125, "", ["OUNCE SIGN/OHM SIGN/INVERTED OHM SIGN/BLACK-LETTER CAPITAL Z",
    "TURNED GREEK SMALL LETTER IOTA"]⟩,
  ⟨0x212a, "", ["KELVIN SIGN/ANGSTROM SIGN/SCRIPT CAPITAL B/BLACK-LETTER CAPITAL C",
    "ESTIMATED SYMBOL"]⟩,
  ⟨0x212f, "SCRIPT ", ["SMALL E/CAPITAL E/CAPITAL F"]⟩,
  ⟨0x2132, "", ["TURNED CAPITAL F/SCRIPT CAPITAL M/SCRIPT SMALL O/ALEF SYMBOL/BET SYMBOL"]⟩,
  ⟨0x2137, "", ["GIMEL SYMBOL/DALET SYMBOL/INFORMATION SOURCE/ROTATED CAPITAL Q/FACSIMILE SIGN"]⟩,
  ⟨0x213c, "DOUBLE-STRUCK ", ["SMALL PI/SMALL GAMMA/CAPITAL GAMMA/CAPITAL PI/N-ARY SUMMATION"]⟩,
  ⟨0x2141, "TURNED SANS-SERIF CAPITAL ", ["G/L"]⟩,
  ⟨0x2143, "", ["REVERSED SANS-SERIF CAPITAL L/TURNED SANS-SERIF CAPITAL Y"]⟩,
  ⟨0x2145, "DOUBLE-STRUCK ITALIC ", ["CAPITAL D/SMALL D/SMALL E/SMALL I/SMALL J"]⟩,
  ⟨0x214a, "", ["PROPERTY LINE"]⟩,
  ⟨0x214b, "", ["TURNED AMPERSAND/PER SIGN/AKTIESELSKAB/TURNED SMALL F",
    "SYMBOL FOR SAMARITAN SOURCE"]⟩,
  ⟨0x2150, "VULGAR FRACTION ", ["ONE SEVENTH/ONE NINTH/ONE TENTH/ONE THIRD/TWO THIRDS/ONE FIFTH",
    "TWO FIFTHS/THREE FIFTHS/FOUR FIFTHS/ONE SIXTH/FIVE SIXTHS/ONE EIGHTH/THREE EIGHTHS",
    "FIVE EIGHTHS/SEVEN EIGHTHS"]⟩,
  ⟨0x215f, "", ["FRACTION NUMERATOR ONE"]⟩,
  ⟨0x2160, "ROMAN NUMERAL ", ["ONE/TWO/THREE/FOUR/FIVE/SIX/SEVEN/EIGHT/NINE/TEN/ELEVEN/TWELVE",
    "FIFTY/ONE HUNDRED/FIVE HUNDRED/ONE THOUSAND"]⟩,
  ⟨0x2170, "SMALL ROMAN NUMERAL ", ["ONE/TWO/THREE/FOUR/FIVE/SIX/SEVEN/EIGHT/NINE/TEN/ELEVEN",
    "TWELVE/FIFTY/ONE HUNDRED/FIVE HUNDRED/ONE THOUSAND"]⟩,
  ⟨0x2180, "ROMAN NUMERAL ", ["ONE THOUSAND C D/FIVE THOUSAND/TEN THOUSAND/REVERSED ONE HUNDRED"]⟩,
  ⟨0x2184, "", ["LATIN SMALL LETTER REVERSED C"]⟩,
  ⟨0x2185, "ROMAN NUMERAL ", ["SIX LATE FORM/FIFTY EARLY FORM/FIFTY THOUSAND",
    "ONE HUNDRED THOUSAND"]⟩,
  ⟨0x2189, "", ["VULGAR FRACTION ZERO THIRDS/TURNED DIGIT TWO/TURNED DIGIT THREE"]⟩,
  ⟨0x2190, "", ["LEFTWARDS ARROW/UPWARDS ARROW/RIGHTWARDS ARROW/DOWNWARDS ARROW"]⟩,
  ⟨0x2194, "", ["LEFT RIGHT ARROW/UP DOWN ARROW/NORTH WEST ARROW/NORTH EAST ARROW",
    "SOUTH EAST ARROW"]⟩,
  ⟨0x2199, "", ["SOUTH WEST ARROW/LEFTWARDS ARROW WITH STROKE/RIGHTWARDS ARROW WITH STROKE",
    "LEFTWARDS WAVE ARROW/RIGHTWARDS WAVE ARROW"]⟩,
  ⟨0x219e, "", ["LEFTWARDS TWO HEADED ARROW/UPWARDS TWO HEADED ARROW",
    "RIGHTWARDS TWO HEADED ARROW/DOWNWARDS TWO HEADED ARROW/LEFTWARDS ARROW WITH TAIL"]⟩,
  ⟨0x21a3, "", ["RIGHTWARDS ARROW WITH TAIL/LEFTWARDS ARROW FROM BAR/UPWARDS ARROW FROM BAR",
    "RIGHTWARDS ARROW FROM BAR/DOWNWARDS ARROW FROM BAR"]⟩,
  ⟨0x21a8, "", ["UP DOWN ARROW WITH BASE/LEFTWARDS ARROW WITH HOOK/RIGHTWARDS ARROW WITH HOOK",
    "LEFTWARDS ARROW WITH LOOP/RIGHTWARDS ARROW WITH LOOP"]⟩,
  ⟨0x21ad, "", ["LEFT RIGHT WAVE ARROW/LEFT RIGHT ARROW WITH STROKE/DOWNWARDS ZIGZAG ARROW",
    "UPWARDS ARROW WITH TIP LEFTWARDS/UPWARDS ARROW WITH TIP RIGHTWARDS"]⟩,
  ⟨0x21b2, "DOWNWARDS ARROW WITH TIP ", ["LEFTWARDS/RIGHTWARDS"]⟩,
  ⟨0x21b4, "", ["RIGHTWARDS ARROW WITH CORNER DOWNWARDS/DOWNWARDS ARROW WITH CORNER LEFTWARDS",
    "ANTICLOCKWISE TOP SEMICIRCLE ARROW"]⟩,
  ⟨0x21b7, "", ["CLOCKWISE TOP SEMICIRCLE ARROW/NORTH WEST ARROW TO LONG BAR",
    "LEFTWARDS ARROW TO BAR OVER RIGHTWARDS ARROW TO BAR/ANTICLOCKWISE OPEN CIRCLE ARROW",
    "CLOCKWISE OPEN CIRCLE ARROW"]⟩,
  ⟨0x21bc, "LEFTWARDS HARPOON WITH BARB ", ["UPWARDS/DOWNWARDS"]⟩,
  ⟨0x21be, "UPWARDS HARPOON WITH BARB ", ["RIGHTWARDS/LEFTWARDS"]⟩,
  ⟨0x21c0, "RIGHTWARDS HARPOON WITH BARB ", ["UPWARDS/DOWNWARDS"]⟩,
  ⟨0x21c2, "DOWNWARDS HARPOON WITH BARB ", ["RIGHTWARDS/LEFTWARDS"]⟩,
  ⟨0x21c4, "", ["RIGHTWARDS ARROW OVER LEFTWARDS ARROW",
    "UPWARDS ARROW LEFTWARDS OF DOWNWARDS ARROW/LEFTWARDS ARROW OVER RIGHTWARDS ARROW"]⟩,
  ⟨0x21c7, "", ["LEFTWARDS PAIRED ARROWS/UPWARDS PAIRED ARROWS/RIGHTWARDS PAIRED ARROWS",
    "DOWNWARDS PAIRED ARROWS/LEFTWARDS HARPOON OVER RIGHTWARDS HARPOON"]⟩,
  ⟨0x21cc, "", ["RIGHTWARDS HARPOON OVER LEFTWARDS HARPOON/LEFTWARDS DOUBLE ARROW WITH STROKE",
    "LEFT RIGHT DOUBLE ARROW WITH STROKE/RIGHTWARDS DOUBLE ARROW WITH STROKE",
    "LEFTWARDS DOUBLE ARROW"]⟩,
  ⟨0x21d1, "", ["UPWARDS DOUBLE ARROW/RIGHTWARDS DOUBLE ARROW/DOWNWARDS DOUBLE ARROW",
    "LEFT RIGHT DOUBLE ARROW/UP DOWN DOUBLE ARROW"]⟩,
  ⟨0x21d6, "", ["NORTH WEST DOUBLE ARROW/NORTH EAST DOUBLE ARROW/SOUTH EAST DOUBLE ARROW",
    "SOUTH WEST DOUBLE ARROW/LEFTWARDS TRIPLE ARROW"]⟩,
  ⟨0x21db, "", ["RIGHTWARDS TRIPLE ARROW/LEFTWARDS SQUIGGLE ARROW/RIGHTWARDS SQUIGGLE ARROW",
    "UPWARDS ARROW WITH DOUBLE STROKE/DOWNWARDS ARROW WITH DOUBLE STROKE"]⟩,
  ⟨0x21e0, "", ["LEFTWARDS DASHED ARROW/UPWARDS DASHED ARROW/RIGHTWARDS DASHED ARROW",
    "DOWNWARDS DASHED ARROW/LEFTWARDS ARROW TO BAR"]⟩,
  ⟨0x21e5, "", ["RIGHTWARDS ARROW TO BAR/LEFTWARDS WHITE ARROW/UPWARDS WHITE ARROW",
    "RIGHTWARDS WHITE ARROW/DOWNWARDS WHITE ARROW"]⟩,
  ⟨0x21ea, "UPWARDS WHITE ", ["ARROW FROM BAR/ARROW ON PEDESTAL",
    "ARROW ON PEDESTAL WITH HORIZONTAL BAR/ARROW ON PEDESTAL WITH VERTICAL BAR/DOUBLE ARROW",
    "DOUBLE ARROW ON PEDESTAL"]⟩,
  ⟨0x21f0, "", ["RIGHTWARDS WHITE ARROW FROM WALL/NORTH WEST ARROW TO CORNER",
    "SOUTH EAST ARROW TO CORNER/UP DOWN WHITE ARROW"]⟩,
  ⟨0x21f4, "", ["RIGHT ARROW WITH SMALL CIRCLE/DOWNWARDS ARROW LEFTWARDS OF UPWARDS ARROW",
    "THREE RIGHTWARDS ARROWS/LEFTWARDS ARROW WITH VERTICAL STROKE",
    "RIGHTWARDS ARROW WITH VERTICAL STROKE"]⟩,
  ⟨0x21f9, "", ["LEFT RIGHT ARROW WITH VERTICAL STROKE",
    "LEFTWARDS ARROW WITH DOUBLE VERTICAL STROKE/RIGHTWARDS ARROW WITH DOUBLE VERTICAL STROKE",
    "LEFT RIGHT ARROW WITH DOUBLE VERTICAL STROKE/LEFTWARDS OPEN-HEADED ARROW"]⟩,
  ⟨0x21fe, "", ["RIGHTWARDS OPEN-HEADED ARROW/LEFT RIGHT OPEN-HEADED ARROW/FOR ALL/COMPLEMENT",
    "PARTIAL DIFFERENTIAL"]⟩,
  ⟨0x2203, "", ["THERE EXISTS/THERE DOES NOT EXIST/EMPTY SET/INCREMENT/NABLA"]⟩,
  ⟨0x2208, "", ["ELEMENT OF/NOT AN ELEMENT OF/SMALL ELEMENT OF/CONTAINS AS MEMBER",
    "DOES NOT CONTAIN AS MEMBER"]⟩,
  ⟨0x220d, "", ["SMALL CONTAINS AS MEMBER/END OF PROOF/N-ARY PRODUCT/N-ARY COPRODUCT",
    "N-ARY SUMMATION"]⟩,
  ⟨0x2212, "", ["MINUS SIGN/MINUS-OR-PLUS SIGN/DOT PLUS/DIVISION SLASH/SET MINUS"]⟩,
  ⟨0x2217, "", ["ASTERISK OPERATOR/RING OPERATOR/BULLET OPERATOR/SQUARE ROOT/CUBE ROOT"]⟩,
  ⟨0x221c, "", ["FOURTH ROOT/PROPORTIONAL TO/INFINITY/RIGHT ANGLE/ANGLE"]⟩,
  ⟨0x2221, "", ["MEASURED ANGLE/SPHERICAL ANGLE/DIVIDES/DOES NOT DIVIDE/PARALLEL TO"]⟩,
  ⟨0x2226, "", ["NOT PARALLEL TO/LOGICAL AND/LOGICAL OR/INTERSECTION/UNION"]⟩,
  ⟨0x222b, "", ["INTEGRAL/DOUBLE INTEGRAL/TRIPLE INTEGRAL/CONTOUR INTEGRAL/SURFACE INTEGRAL"]⟩,
  ⟨0x2230, "", ["VOLUME INTEGRAL/CLOCKWISE INTEGRAL/CLOCKWISE CONTOUR INTEGRAL",
    "ANTICLOCKWISE CONTOUR INTEGRAL/THEREFORE"]⟩,
  ⟨0x2235, "", ["BECAUSE/RATIO/PROPORTION/DOT MINUS/EXCESS"]⟩,
  ⟨0x223a, "", ["GEOMETRIC PROPORTION/HOMOTHETIC/TILDE OPERATOR/REVERSED TILDE/INVERTED LAZY S"]⟩,
  ⟨0x223f, "", ["SINE WAVE/WREATH PRODUCT/NOT TILDE/MINUS TILDE/ASYMPTOTICALLY EQUAL TO"]⟩,
  ⟨0x2244, "", ["NOT ASYMPTOTICALLY EQUAL TO/APPROXIMATELY EQUAL TO",
    "APPROXIMATELY BUT NOT ACTUALLY EQUAL TO/NEITHER APPROXIMATELY NOR ACTUALLY EQUAL TO",
    "ALMOST EQUAL TO"]⟩,
  ⟨0x2249, "", ["NOT ALMOST EQUAL TO/ALMOST EQUAL OR EQUAL TO/TRIPLE TILDE/ALL EQUAL TO",
    "EQUIVALENT TO"]⟩,
  ⟨0x224e, "", ["GEOMETRICALLY EQUIVALENT TO/DIFFERENCE BETWEEN/APPROACHES THE LIMIT",
    "GEOMETRICALLY EQUAL TO/APPROXIMATELY EQUAL TO OR THE IMAGE OF"]⟩,
  ⟨0x2253, "", ["IMAGE OF OR APPROXIMATELY EQUAL TO/COLON EQUALS/EQUALS COLON/RING IN EQUAL TO",
    "RING EQUAL TO"]⟩,
  ⟨0x2258, "", ["CORRESPONDS TO/ESTIMATES/EQUIANGULAR TO/STAR EQUALS/DELTA EQUAL TO"]⟩,
  ⟨0x225d, "", ["EQUAL TO BY DEFINITION/MEASURED BY/QUESTIONED EQUAL TO/NOT EQUAL TO",
    "IDENTICAL TO"]⟩,
  ⟨0x2262, "", ["NOT IDENTICAL TO/STRICTLY EQUIVALENT TO/LESS-THAN OR EQUAL TO",
    "GREATER-THAN OR EQUAL TO/LESS-THAN OVER EQUAL TO"]⟩,
  ⟨0x2267, "", ["GREATER-THAN OVER EQUAL TO/LESS-THAN BUT NOT EQUAL TO",
    "GREATER-THAN BUT NOT EQUAL TO/MUCH LESS-THAN/MUCH GREATER-THAN"]⟩,
  ⟨0x226c, "", ["BETWEEN/NOT EQUIVALENT TO/NOT LESS-THAN/NOT GREATER-THAN",
    "NEITHER LESS-THAN NOR EQUAL TO"]⟩,
  ⟨0x2271, "", ["NEITHER GREATER-THAN NOR EQUAL TO/LESS-THAN OR EQUIVALENT TO",
    "GREATER-THAN OR EQUIVALENT TO/NEITHER LESS-THAN NOR EQUIVALENT TO",
    "NEITHER GREATER-THAN NOR EQUIVALENT TO"]⟩,
  ⟨0x2276, "", ["LESS-THAN OR GREATER-THAN/GREATER-THAN OR LESS-THAN",
    "NEITHER LESS-THAN NOR GREATER-THAN/NEITHER GREATER-THAN NOR LESS-THAN/PRECEDES"]⟩,
  ⟨0x227b, "", ["SUCCEEDS/PRECEDES OR EQUAL TO/SUCCEEDS OR EQUAL TO/PRECEDES OR EQUIVALENT TO",
    "SUCCEEDS OR EQUIVALENT TO"]⟩,
  ⟨0x2280, "", ["DOES NOT PRECEDE/DOES NOT SUCCEED/SUBSET OF/SUPERSET OF/NOT A SUBSET OF"]⟩,
  ⟨0x2285, "", ["NOT A SUPERSET OF/SUBSET OF OR EQUAL TO/SUPERSET OF OR EQUAL TO",
    "NEITHER A SUBSET OF NOR EQUAL TO/NEITHER A SUPERSET OF NOR EQUAL TO"]⟩,
  ⟨0x228a, "", ["SUBSET OF WITH NOT EQUAL TO/SUPERSET OF WITH NOT EQUAL TO/MULTISET",
    "MULTISET MULTIPLICATION/MULTISET UNION"]⟩,
  ⟨0x228f, "SQUARE ", ["IMAGE OF/ORIGINAL OF/IMAGE OF OR EQUAL TO/ORIGINAL OF OR EQUAL TO/CAP",
    "CUP"]⟩,
  ⟨0x2295, "CIRCLED ", ["PLUS/MINUS/TIMES/DIVISION SLASH/DOT OPERATOR/RING OPERATOR",
    "ASTERISK OPERATOR/EQUALS/DASH"]⟩,
  ⟨0x229e, "SQUARED ", ["PLUS/MINUS/TIMES/DOT OPERATOR"]⟩,
  ⟨0x22a2, "", ["RIGHT TACK/LEFT TACK/DOWN TACK/UP TACK/ASSERTION"]⟩,
  ⟨0x22a7, "", ["MODELS/TRUE/FORCES/TRIPLE VERTICAL BAR RIGHT TURNSTILE",
    "DOUBLE VERTICAL BAR DOUBLE RIGHT TURNSTILE"]⟩,
  ⟨0x22ac, "", ["DOES NOT PROVE/NOT TRUE/DOES NOT FORCE",
    "NEGATED DOUBLE VERTICAL BAR DOUBLE RIGHT TURNSTILE/PRECEDES UNDER RELATION"]⟩,
  ⟨0x22b1, "", ["SUCCEEDS UNDER RELATION/NORMAL SUBGROUP OF/CONTAINS AS NORMAL SUBGROUP",
    "NORMAL SUBGROUP OF OR EQUAL TO/CONTAINS AS NORMAL SUBGROUP OR EQUAL TO"]⟩,
  ⟨0x22b6, "", ["ORIGINAL OF/IMAGE OF/MULTIMAP/HERMITIAN CONJUGATE MATRIX/INTERCALATE"]⟩,
  ⟨0x22bb, "", ["XOR/NAND/NOR/RIGHT ANGLE WITH ARC/RIGHT TRIANGLE"]⟩,
  ⟨0x22c0, "N-ARY ", ["LOGICAL AND/LOGICAL OR/INTERSECTION/UNION"]⟩,
  ⟨0x22c4, "", ["DIAMOND OPERATOR/DOT OPERATOR/STAR OPERATOR/DIVISION TIMES/BOWTIE"]⟩,
  ⟨0x22c9, "", ["LEFT NORMAL FACTOR SEMIDIRECT PRODUCT/RIGHT NORMAL FACTOR SEMIDIRECT PRODUCT",
    "LEFT SEMIDIRECT PRODUCT/RIGHT SEMIDIRECT PRODUCT/REVERSED TILDE EQUALS"]⟩,
  ⟨0x22ce, "CURLY LOGICAL ", ["OR/AND"]⟩,
  ⟨0x22d0, "DOUBLE ", ["SUBSET/SUPERSET/INTERSECTION/UNION"]⟩,
  ⟨0x22d4, "", ["PITCHFORK/EQUAL AND PARALLEL TO/LESS-THAN WITH DOT"]⟩,
  ⟨0x22d7, "", ["GREATER-THAN WITH DOT/VERY MUCH LESS-THAN/VERY MUCH GREATER-THAN",
    "LESS-THAN EQUAL TO OR GREATER-THAN/GREATER-THAN EQUAL TO OR LESS-THAN"]⟩,
  ⟨0x22dc, "EQUAL TO OR ", ["LESS-THAN/GREATER-THAN/PRECEDES/SUCCEEDS"]⟩,
  ⟨0x22e0, "", ["DOES NOT PRECEDE OR EQUAL/DOES NOT SUCCEED OR EQUAL",
    "NOT SQUARE IMAGE OF OR EQUAL TO/NOT SQUARE ORIGINAL OF OR EQUAL TO"]⟩,
  ⟨0x22e4, "", ["SQUARE IMAGE OF OR NOT EQUAL TO/SQUARE ORIGINAL OF OR NOT EQUAL TO",
    "LESS-THAN BUT NOT EQUIVALENT TO/GREATER-THAN BUT NOT EQUIVALENT TO",
    "PRECEDES BUT NOT EQUIVALENT TO"]⟩,
  ⟨0x22e9, "", ["SUCCEEDS BUT NOT EQUIVALENT TO/NOT NORMAL SUBGROUP OF",
    "DOES NOT CONTAIN AS NORMAL SUBGROUP/NOT NORMAL SUBGROUP OF OR EQUAL TO",
    "DOES NOT CONTAIN AS NORMAL SUBGROUP OR EQUAL"]⟩,
  ⟨0x22ee, "", ["VERTICAL ELLIPSIS/MIDLINE HORIZONTAL ELLIPSIS/UP RIGHT DIAGONAL ELLIPSIS",
    "DOWN RIGHT DIAGONAL ELLIPSIS/ELEMENT OF WITH LONG HORIZONTAL STROKE"]⟩,
  ⟨0x22f3, "", ["ELEMENT OF WITH VERTICAL BAR AT END OF HORIZONTAL STROKE",
    "SMALL ELEMENT OF WITH VERTICAL BAR AT END OF HORIZONTAL STROKE/ELEMENT OF WITH DOT ABOVE",
    "ELEMENT OF WITH OVERBAR/SMALL ELEMENT OF WITH OVERBAR"]⟩,
  ⟨0x22f8, "ELEMENT OF WITH ", ["UNDERBAR/TWO HORIZONTAL STROKES"]⟩,
  ⟨0x22fa, "", ["CONTAINS WITH LONG HORIZONTAL STROKE",
    "CONTAINS WITH VERTICAL BAR AT END OF HORIZONTAL STROKE",
    "SMALL CONTAINS WITH VERTICAL BAR AT END OF HORIZONTAL STROKE/CONTAINS WITH OVERBAR",
    "SMALL CONTAINS WITH OVERBAR"]⟩,
  ⟨0x22ff, "", ["Z NOTATION BAG MEMBERSHIP/DIAMETER SIGN/ELECTRIC ARROW/HOUSE/UP ARROWHEAD"]⟩,
  ⟨0x2304, "", ["DOWN ARROWHEAD/PROJECTIVE/PERSPECTIVE/WAVY LINE/LEFT CEILING"]⟩,
  ⟨0x2309, "", ["RIGHT CEILING/LEFT FLOOR/RIGHT FLOOR/BOTTOM RIGHT CROP/BOTTOM LEFT CROP"]⟩,
  ⟨0x230e, "", ["TOP RIGHT CROP/TOP LEFT CROP/REVERSED NOT SIGN/SQUARE LOZENGE/ARC"]⟩,
  ⟨0x2313, "", ["SEGMENT/SECTOR/TELEPHONE RECORDER/POSITION INDICATOR/VIEWDATA SQUARE"]⟩,
  ⟨0x2318, "", ["PLACE OF INTEREST SIGN/TURNED NOT SIGN/WATCH/HOURGLASS/TOP LEFT CORNER"]⟩,
  ⟨0x231d, "", ["TOP RIGHT CORNER/BOTTOM LEFT CORNER/BOTTOM RIGHT CORNER/TOP HALF INTEGRAL",
    "BOTTOM HALF INTEGRAL"]⟩,
  ⟨0x2322, "", ["FROWN/SMILE/UP ARROWHEAD BETWEEN TWO HORIZONTAL BARS/OPTION KEY",
    "ERASE TO THE RIGHT"]⟩,
  ⟨0x2327, "", ["X IN A RECTANGLE BOX/KEYBOARD/LEFT-POINTING ANGLE BRACKET",
    "RIGHT-POINTING ANGLE BRACKET/ERASE TO THE LEFT"]⟩,
  ⟨0x232c, "", ["BENZENE RING/CYLINDRICITY/ALL AROUND-PROFILE/SYMMETRY/TOTAL RUNOUT"]⟩,
  ⟨0x2331, "", ["DIMENSION ORIGIN/CONICAL TAPER/SLOPE/COUNTERBORE/COUNTERSINK"]⟩,
  ⟨0x2336, "APL FUNCTIONAL SYMBOL ", ["I-BEAM/SQUISH QUAD/QUAD EQUAL/QUAD DIVIDE/QUAD DIAMOND",
    "QUAD JOT/QUAD CIRCLE/CIRCLE STILE/CIRCLE JOT/SLASH BAR/BACKSLASH BAR/QUAD SLASH",
    "QUAD BACKSLASH/QUAD LESS-THAN/QUAD GREATER-THAN/LEFTWARDS VANE/RIGHTWARDS VANE",
    "QUAD LEFTWARDS ARROW/QUAD RIGHTWARDS ARROW/CIRCLE BACKSLASH/DOWN TACK UNDERBAR/DELTA STILE",
    "QUAD DOWN CARET/QUAD DELTA/DOWN TACK JOT/UPWARDS VANE/QUAD UPWARDS ARROW/UP TACK OVERBAR",
    "DEL STILE/QUAD UP CARET/QUAD DEL/UP TACK JOT/DOWNWARDS VANE/QUAD DOWNWARDS ARROW",
    "QUOTE UNDERBAR/DELTA UNDERBAR/DIAMOND UNDERBAR/JOT UNDERBAR/CIRCLE UNDERBAR/UP SHOE JOT",
    "QUOTE QUAD/CIRCLE STAR/QUAD COLON/UP TACK DIAERESIS/DEL DIAERESIS/STAR DIAERESIS",
    "JOT DIAERESIS/CIRCLE DIAERESIS/DOWN SHOE STILE/LEFT SHOE STILE/TILDE DIAERESIS",
    "GREATER-THAN DIAERESIS/COMMA BAR/DEL TILDE/ZILDE/STILE TILDE/SEMICOLON UNDERBAR",
    "QUAD NOT EQUAL/QUAD QUESTION/DOWN CARET TILDE/UP CARET TILDE/IOTA/RHO/OMEGA/ALPHA UNDERBAR",
    "EPSILON UNDERBAR/IOTA UNDERBAR/OMEGA UNDERBAR/ALPHA"]⟩,
  ⟨0x237b, "", ["NOT CHECK MARK/RIGHT ANGLE WITH DOWNWARDS ZIGZAG ARROW/SHOULDERED OPEN BOX",
    "BELL SYMBOL/VERTICAL LINE WITH MIDDLE DOT"]⟩,
  ⟨0x2380, "", ["INSERTION SYMBOL/CONTINUOUS UNDERLINE SYMBOL/DISCONTINUOUS UNDERLINE SYMBOL",
    "EMPHASIS SYMBOL/COMPOSITION SYMBOL"]⟩,
  ⟨0x2385, "", ["WHITE SQUARE WITH CENTRE VERTICAL LINE/ENTER SYMBOL/ALTERNATIVE KEY SYMBOL",
    "HELM SYMBOL/CIRCLED HORIZONTAL BAR WITH NOTCH"]⟩,
  ⟨0x238a, "", ["CIRCLED TRIANGLE DOWN/BROKEN CIRCLE WITH NORTHWEST ARROW/UNDO SYMBOL",
    "MONOSTABLE SYMBOL/HYSTERESIS SYMBOL"]⟩,
  ⟨0x238f, "OPEN-CIRCUIT-OUTPUT ", ["H-TYPE SYMBOL/L-TYPE SYMBOL"]⟩,
  ⟨0x2391, "", ["PASSIVE-PULL-DOWN-OUTPUT SYMBOL/PASSIVE-PULL-UP-OUTPUT SYMBOL",
    "DIRECT CURRENT SYMBOL FORM TWO/SOFTWARE-FUNCTION SYMBOL/APL FUNCTIONAL SYMBOL QUAD"]⟩,
  ⟨0x2396, "", ["DECIMAL SEPARATOR KEY SYMBOL/PREVIOUS PAGE/NEXT PAGE/PRINT SCREEN SYMBOL",
    "CLEAR SCREEN SYMBOL"]⟩,
  ⟨0x239b, "LEFT PARENTHESIS ", ["UPPER HOOK/EXTENSION/LOWER HOOK"]⟩,
  ⟨0x239e, "RIGHT PARENTHESIS ", ["UPPER HOOK/EXTENSION/LOWER HOOK"]⟩,
  ⟨0x23a1, "LEFT SQUARE BRACKET ", ["UPPER CORNER/EXTENSION/LOWER CORNER"]⟩,
  ⟨0x23a4, "RIGHT SQUARE BRACKET ", ["UPPER CORNER/EXTENSION/LOWER CORNER"]⟩,
  ⟨0x23a7, "LEFT CURLY BRACKET ", ["UPPER HOOK/MIDDLE PIECE/LOWER HOOK"]⟩,
  ⟨0x23aa, "", ["CURLY BRACKET EXTENSION"]⟩,
  ⟨0x23ab, "RIGHT CURLY BRACKET ", ["UPPER HOOK/MIDDLE PIECE/LOWER HOOK"]⟩,
  ⟨0x23ae, "", ["INTEGRAL EXTENSION/HORIZONTAL LINE EXTENSION"]⟩,
  ⟨0x23b0, "", ["UPPER LEFT OR LOWER RIGHT CURLY BRACKET SECTION",
    "UPPER RIGHT OR LOWER LEFT CURLY BRACKET SECTION/SUMMATION TOP/SUMMATION BOTTOM",
    "TOP SQUARE BRACKET"]⟩,
  ⟨0x23b5, "", ["BOTTOM SQUARE BRACKET/BOTTOM SQUARE BRACKET OVER TOP SQUARE BRACKET",
    "RADICAL SYMBOL BOTTOM/LEFT VERTICAL BOX LINE/RIGHT VERTICAL BOX LINE"]⟩,
  ⟨0x23ba, "HORIZONTAL SCAN LINE-", ["1/3/7/9"]⟩,
  ⟨0x23be, "DENTISTRY SYMBOL LIGHT ", ["VERTICAL AND TOP RIGHT/VERTICAL AND BOTTOM RIGHT",
    "VERTICAL WITH CIRCLE/DOWN AND HORIZONTAL WITH CIRCLE/UP AND HORIZONTAL WITH CIRCLE",
    "VERTICAL WITH TRIANGLE/DOWN AND HORIZONTAL WITH TRIANGLE/UP AND HORIZONTAL WITH TRIANGLE",
    "VERTICAL AND WAVE/DOWN AND HORIZONTAL WITH WAVE/UP AND HORIZONTAL WITH WAVE",
    "DOWN AND HORIZONTAL/UP AND HORIZONTAL/VERTICAL AND TOP LEFT/VERTICAL AND BOTTOM LEFT"]⟩,
  ⟨0x23cd, "", ["SQUARE FOOT/RETURN SYMBOL/EJECT SYMBOL/VERTICAL LINE EXTENSION"]⟩,
  ⟨0x23d1, "METRICAL ", ["BREVE/LONG OVER SHORT/SHORT OVER LONG/LONG OVER TWO SHORTS",
    "TWO SHORTS OVER LONG/TWO SHORTS JOINED/TRISEME/TETRASEME/PENTASEME"]⟩,
  ⟨0x23da, "", ["EARTH GROUND/FUSE/TOP PARENTHESIS/BOTTOM PARENTHESIS/TOP CURLY BRACKET"]⟩,
  ⟨0x23df, "", ["BOTTOM CURLY BRACKET/TOP TORTOISE SHELL BRACKET/BOTTOM TORTOISE SHELL BRACKET",
    "WHITE TRAPEZIUM/BENZENE RING WITH CIRCLE"]⟩,
  ⟨0x23e4, "", ["STRAIGHTNESS/FLATNESS/AC CURRENT/ELECTRICAL INTERSECTION",
    "DECIMAL EXPONENT SYMBOL"]⟩,
  ⟨0x23e9, "BLACK ", ["RIGHT-POINTING DOUBLE TRIANGLE/LEFT-POINTING DOUBLE TRIANGLE",
    "UP-POINTING DOUBLE TRIANGLE/DOWN-POINTING DOUBLE TRIANGLE",
    "RIGHT-POINTING DOUBLE TRIANGLE WITH VERTICAL BAR",
    "LEFT-POINTING DOUBLE TRIANGLE WITH VERTICAL BAR",
    "RIGHT-POINTING TRIANGLE WITH DOUBLE VERTICAL BAR"]⟩,
  ⟨0x23f0, "", ["ALARM CLOCK/STOPWATCH/TIMER CLOCK/HOURGLASS WITH FLOWING SAND"]⟩,
  ⟨0x23f4, "BLACK MEDIUM ", ["LEFT-POINTING TRIANGLE/RIGHT-POINTING TRIANGLE",
    "UP-POINTING TRIANGLE/DOWN-POINTING TRIANGLE"]⟩,
  ⟨0x23f8, "", ["DOUBLE VERTICAL BAR/BLACK SQUARE FOR STOP/BLACK CIRCLE FOR RECORD"]⟩,
  ⟨0x23fb, "", ["POWER SYMBOL/POWER ON-OFF SYMBOL/POWER ON SYMBOL/POWER SLEEP SYMBOL",
    "OBSERVER EYE SYMBOL"]⟩,
  ⟨0x2400, "SYMBOL FOR ", ["NULL/START OF HEADING/START OF TEXT/END OF TEXT/END OF TRANSMISSION",
    "ENQUIRY/ACKNOWLEDGE/BELL/BACKSPACE/HORIZONTAL TABULATION/LINE FEED/VERTICAL TABULATION",
    "FORM FEED/CARRIAGE RETURN/SHIFT OUT/SHIFT IN/DATA LINK ESCAPE/DEVICE CONTROL ONE",
    "DEVICE CONTROL TWO/DEVICE CONTROL THREE/DEVICE CONTROL FOUR/NEGATIVE ACKNOWLEDGE",
    "SYNCHRONOUS IDLE/END OF TRANSMISSION BLOCK/CANCEL/END OF MEDIUM/SUBSTITUTE/ESCAPE",
    "FILE SEPARATOR/GROUP SEPARATOR/RECORD SEPARATOR/UNIT SEPARATOR/SPACE/DELETE"]⟩,
  ⟨0x2422, "", ["BLANK SYMBOL/OPEN BOX/SYMBOL FOR NEWLINE/SYMBOL FOR DELETE FORM TWO",
    "SYMBOL FOR SUBSTITUTE FORM TWO"]⟩,
  ⟨0x2440, "OCR ", ["HOOK/CHAIR/FORK/INVERTED FORK/BELT BUCKLE/BOW TIE",
    "BRANCH BANK IDENTIFICATION/AMOUNT OF CHECK/DASH/CUSTOMER ACCOUNT NUMBER/DOUBLE BACKSLASH"]⟩,
  ⟨0x2460, "CIRCLED DIGIT ", ["ONE/TWO/THREE/FOUR/FIVE/SIX/SEVEN/EIGHT/NINE"]⟩,
  ⟨0x2469, "CIRCLED NUMBER ", ["TEN/ELEVEN/TWELVE/THIRTEEN/FOURTEEN/FIFTEEN/SIXTEEN/SEVENTEEN",
    "EIGHTEEN/NINETEEN/TWENTY"]⟩,
  ⟨0x2474, "PARENTHESIZED DIGIT ", ["ONE/TWO/THREE/FOUR/FIVE/SIX/SEVEN/EIGHT/NINE"]⟩,
  ⟨0x247d, "PARENTHESIZED NUMBER ", ["TEN/ELEVEN/TWELVE/THIRTEEN/FOURTEEN/FIFTEEN/SIXTEEN",
    "SEVENTEEN/EIGHTEEN/NINETEEN/TWENTY"]⟩,
  ⟨0x2488, "DIGIT ", ["ONE FULL STOP/TWO FULL STOP/THREE FULL STOP/FOUR FULL STOP",
    "FIVE FULL STOP/SIX FULL STOP/SEVEN FULL STOP/EIGHT FULL STOP/NINE FULL STOP"]⟩,
  ⟨0x2491, "NUMBER ", ["TEN FULL STOP/ELEVEN FULL STOP/TWELVE FULL STOP/THIRTEEN FULL STOP",
    "FOURTEEN FULL STOP/FIFTEEN FULL STOP/SIXTEEN FULL STOP/SEVENTEEN FULL STOP",
    "EIGHTEEN FULL STOP/NINETEEN FULL STOP/TWENTY FULL STOP"]⟩,
  ⟨0x249c, "PARENTHESIZED LATIN SMALL LETTER ", ["A/B/C/D/E/F/G/H/I/J/K/L/M/N/O/P/Q/R/S/T/U/V/W",
    "X/Y/Z"]⟩,
  ⟨0x24b6, "CIRCLED LATIN CAPITAL LETTER ", ["A/B/C/D/E/F/G/H/I/J/K/L/M/N/O/P/Q/R/S/T/U/V/W/X/Y",
    "Z"]⟩,
  ⟨0x24d0, "CIRCLED LATIN SMALL LETTER ", ["A/B/C/D/E/F/G/H/I/J/K/L/M/N/O/P/Q/R/S/T/U/V/W/X/Y/Z"]⟩,
  ⟨0x24ea, "", ["CIRCLED DIGIT ZERO"]⟩,
  ⟨0x24eb, "NEGATIVE CIRCLED NUMBER ", ["ELEVEN/TWELVE/THIRTEEN/FOURTEEN/FIFTEEN/SIXTEEN",
    "SEVENTEEN/EIGHTEEN/NINETEEN/TWENTY"]⟩,
  ⟨0x24f5, "DOUBLE CIRCLED DIGIT ", ["ONE/TWO/THREE/FOUR/FIVE/SIX/SEVEN/EIGHT/NINE"]⟩,
  ⟨0x24fe, "", ["DOUBLE CIRCLED NUMBER TEN/NEGATIVE CIRCLED DIGIT ZERO"]⟩,
  ⟨0x2500, "BOX DRAWINGS ", ["LIGHT HORIZONTAL/HEAVY HORIZONTAL/LIGHT VERTICAL/HEAVY VERTICAL",
    "LIGHT TRIPLE DASH HORIZONTAL/HEAVY TRIPLE DASH HORIZONTAL/LIGHT TRIPLE DASH VERTICAL",
    "HEAVY TRIPLE DASH VERTICAL/LIGHT QUADRUPLE DASH HORIZONTAL/HEAVY QUADRUPLE DASH HORIZONTAL",
    "LIGHT QUADRUPLE DASH VERTICAL/HEAVY QUADRUPLE DASH VERTICAL/LIGHT DOWN AND RIGHT",
    "DOWN LIGHT AND RIGHT HEAVY/DOWN HEAVY AND RIGHT LIGHT/HEAVY DOWN AND RIGHT",
    "LIGHT DOWN AND LEFT/DOWN LIGHT AND LEFT HEAVY/DOWN HEAVY AND LEFT LIGHT",
    "HEAVY DOWN AND LEFT/LIGHT UP AND RIGHT/UP LIGHT AND RIGHT HEAVY/UP HEAVY AND RIGHT LIGHT",
    "HEAVY UP AND RIGHT/LIGHT UP AND LEFT/UP LIGHT AND LEFT HEAVY/UP HEAVY AND LEFT LIGHT",
    "HEAVY UP AND LEFT/LIGHT VERTICAL AND RIGHT/VERTICAL LIGHT AND RIGHT HEAVY",
    "UP HEAVY AND RIGHT DOWN LIGHT/DOWN HEAVY AND RIGHT UP LIGHT/VERTICAL HEAVY AND RIGHT LIGHT",
    "DOWN LIGHT AND RIGHT UP HEAVY/UP LIGHT AND RIGHT DOWN HEAVY/HEAVY VERTICAL AND RIGHT",
    "LIGHT VERTICAL AND LEFT/VERTICAL LIGHT AND LEFT HEAVY/UP HEAVY AND LEFT DOWN LIGHT",
    "DOWN HEAVY AND LEFT UP LIGHT/VERTICAL HEAVY AND LEFT LIGHT/DOWN LIGHT AND LEFT UP HEAVY",
    "UP LIGHT AND LEFT DOWN HEAVY/HEAVY VERTICAL AND LEFT/LIGHT DOWN AND HORIZONTAL",
    "LEFT HEAVY AND RIGHT DOWN LIGHT/RIGHT HEAVY AND LEFT DOWN LIGHT",
    "DOWN LIGHT AND HORIZONTAL HEAVY/DOWN HEAVY AND HORIZONTAL LIGHT",
    "RIGHT LIGHT AND LEFT DOWN HEAVY/LEFT LIGHT AND RIGHT DOWN HEAVY/HEAVY DOWN AND HORIZONTAL",
    "LIGHT UP AND HORIZONTAL/LEFT HEAVY AND RIGHT UP LIGHT/RIGHT HEAVY AND LEFT UP LIGHT",
    "UP LIGHT AND HORIZONTAL HEAVY/UP HEAVY AND HORIZONTAL LIGHT/RIGHT LIGHT AND LEFT UP HEAVY",
    "LEFT LIGHT AND RIGHT UP HEAVY/HEAVY UP AND HORIZONTAL/LIGHT VERTICAL AND HORIZONTAL",
    "LEFT HEAVY AND RIGHT VERTICAL LIGHT/RIGHT HEAVY AND LEFT VERTICAL LIGHT",
    "VERTICAL LIGHT AND HORIZONTAL HEAVY/UP HEAVY AND DOWN HORIZONTAL LIGHT",
    "DOWN HEAVY AND UP HORIZONTAL LIGHT/VERTICAL HEAVY AND HORIZONTAL LIGHT",
    "LEFT UP HEAVY AND RIGHT DOWN LIGHT/RIGHT UP HEAVY AND LEFT DOWN LIGHT",
    "LEFT DOWN HEAVY AND RIGHT UP LIGHT/RIGHT DOWN HEAVY AND LEFT UP LIGHT",
    "DOWN LIGHT AND UP HORIZONTAL HEAVY/UP LIGHT AND DOWN HORIZONTAL HEAVY",
    "RIGHT LIGHT AND LEFT VERTICAL HEAVY/LEFT LIGHT AND RIGHT VERTICAL HEAVY",
    "HEAVY VERTICAL AND HORIZONTAL/LIGHT DOUBLE DASH HORIZONTAL/HEAVY DOUBLE DASH HORIZONTAL",
    "LIGHT DOUBLE DASH VERTICAL/HEAVY DOUBLE DASH VERTICAL/DOUBLE HORIZONTAL/DOUBLE VERTICAL",
    "DOWN SINGLE AND RIGHT DOUBLE/DOWN DOUBLE AND RIGHT SINGLE/DOUBLE DOWN AND RIGHT",
    "DOWN SINGLE AND LEFT DOUBLE/DOWN DOUBLE AND LEFT SINGLE/DOUBLE DOWN AND LEFT",
    "UP SINGLE AND RIGHT DOUBLE/UP DOUBLE AND RIGHT SINGLE/DOUBLE UP AND RIGHT",
    "UP SINGLE AND LEFT DOUBLE/UP DOUBLE AND LEFT SINGLE/DOUBLE UP AND LEFT",
    "VERTICAL SINGLE AND RIGHT DOUBLE/VERTICAL DOUBLE AND RIGHT SINGLE",
    "DOUBLE VERTICAL AND RIGHT/VERTICAL SINGLE AND LEFT DOUBLE/VERTICAL DOUBLE AND LEFT SINGLE",
    "DOUBLE VERTICAL AND LEFT/DOWN SINGLE AND HORIZONTAL DOUBLE",
    "DOWN DOUBLE AND HORIZONTAL SINGLE/DOUBLE DOWN AND HORIZONTAL",
    "UP SINGLE AND HORIZONTAL DOUBLE/UP DOUBLE AND HORIZONTAL SINGLE/DOUBLE UP AND HORIZONTAL",
    "VERTICAL SINGLE AND HORIZONTAL DOUBLE/VERTICAL DOUBLE AND HORIZONTAL SINGLE",
    "DOUBLE VERTICAL AND HORIZONTAL/LIGHT ARC DOWN AND RIGHT/LIGHT ARC DOWN AND LEFT",
    "LIGHT ARC UP AND LEFT/LIGHT ARC UP AND RIGHT/LIGHT DIAGONAL UPPER RIGHT TO LOWER LEFT",
    "LIGHT DIAGONAL UPPER LEFT TO LOWER RIGHT/LIGHT DIAGONAL CROSS/LIGHT LEFT/LIGHT UP",
    "LIGHT RIGHT/LIGHT DOWN/HEAVY LEFT/HEAVY UP/HEAVY RIGHT/HEAVY DOWN",
    "LIGHT LEFT AND HEAVY RIGHT/LIGHT UP AND HEAVY DOWN/HEAVY LEFT AND LIGHT RIGHT",
    "HEAVY UP AND LIGHT DOWN"]⟩,
  ⟨0x2580, "", ["UPPER HALF BLOCK"]⟩,
  ⟨0x2581, "LOWER ", ["ONE EIGHTH BLOCK/ONE QUARTER BLOCK/THREE EIGHTHS BLOCK/HALF BLOCK",
    "FIVE EIGHTHS BLOCK/THREE QUARTERS BLOCK/SEVEN EIGHTHS BLOCK"]⟩,
  ⟨0x2588, "", ["FULL BLOCK"]⟩,
  ⟨0x2589, "LEFT ", ["SEVEN EIGHTHS BLOCK/THREE QUARTERS BLOCK/FIVE EIGHTHS BLOCK/HALF BLOCK",
    "THREE EIGHTHS BLOCK/ONE QUARTER BLOCK/ONE EIGHTH BLOCK"]⟩,
  ⟨0x2590, "", ["RIGHT HALF BLOCK/LIGHT SHADE/MEDIUM SHADE"]⟩,
  ⟨0x2593, "", ["DARK SHADE/UPPER ONE EIGHTH BLOCK/RIGHT ONE EIGHTH BLOCK/QUADRANT LOWER LEFT",
    "QUADRANT LOWER RIGHT"]⟩,
  ⟨0x2598, "QUADRANT UPPER ", ["LEFT/LEFT AND LOWER LEFT AND LOWER RIGHT/LEFT AND LOWER RIGHT",
    "LEFT AND UPPER RIGHT AND LOWER LEFT/LEFT AND UPPER RIGHT AND LOWER RIGHT/RIGHT",
    "RIGHT AND LOWER LEFT/RIGHT AND LOWER LEFT AND LOWER RIGHT"]⟩,
  ⟨0x25a0, "", ["BLACK SQUARE/WHITE SQUARE/WHITE SQUARE WITH ROUNDED CORNERS",
    "WHITE SQUARE CONTAINING BLACK SMALL SQUARE"]⟩,
  ⟨0x25a4, "SQUARE WITH ", ["HORIZONTAL FILL/VERTICAL FILL/ORTHOGONAL CROSSHATCH FILL",
    "UPPER LEFT TO LOWER RIGHT FILL/UPPER RIGHT TO LOWER LEFT FILL/DIAGONAL CROSSHATCH FILL"]⟩,
  ⟨0x25aa, "", ["BLACK SMALL SQUARE/WHITE SMALL SQUARE/BLACK RECTANGLE"]⟩,
  ⟨0x25ad, "", ["WHITE RECTANGLE/BLACK VERTICAL RECTANGLE/WHITE VERTICAL RECTANGLE",
    "BLACK PARALLELOGRAM/WHITE PARALLELOGRAM"]⟩,
  ⟨0x25b2, "", ["BLACK UP-POINTING TRIANGLE/WHITE UP-POINTING TRIANGLE",
    "BLACK UP-POINTING SMALL TRIANGLE/WHITE UP-POINTING SMALL TRIANGLE",
    "BLACK RIGHT-POINTING TRIANGLE"]⟩,
  ⟨0x25b7, "", ["WHITE RIGHT-POINTING TRIANGLE/BLACK RIGHT-POINTING SMALL TRIANGLE",
    "WHITE RIGHT-POINTING SMALL TRIANGLE/BLACK RIGHT-POINTING POINTER",
    "WHITE RIGHT-POINTING POINTER"]⟩,
  ⟨0x25bc, "", ["BLACK DOWN-POINTING TRIANGLE/WHITE DOWN-POINTING TRIANGLE",
    "BLACK DOWN-POINTING SMALL TRIANGLE/WHITE DOWN-POINTING SMALL TRIANGLE",
    "BLACK LEFT-POINTING TRIANGLE"]⟩,
  ⟨0x25c1, "", ["WHITE LEFT-POINTING TRIANGLE/BLACK LEFT-POINTING SMALL TRIANGLE",
    "WHITE LEFT-POINTING SMALL TRIANGLE/BLACK LEFT-POINTING POINTER/WHITE LEFT-POINTING POINTER"]⟩,
  ⟨0x25c6, "", ["BLACK DIAMOND/WHITE DIAMOND/WHITE DIAMOND CONTAINING BLACK SMALL DIAMOND",
    "FISHEYE/LOZENGE"]⟩,
  ⟨0x25cb, "", ["WHITE CIRCLE/DOTTED CIRCLE/CIRCLE WITH VERTICAL FILL/BULLSEYE/BLACK CIRCLE"]⟩,
  ⟨0x25d0, "CIRCLE WITH ", ["LEFT HALF BLACK/RIGHT HALF BLACK/LOWER HALF BLACK/UPPER HALF BLACK",
    "UPPER RIGHT QUADRANT BLACK/ALL BUT UPPER LEFT QUADRANT BLACK"]⟩,
  ⟨0x25d6, "", ["LEFT HALF BLACK CIRCLE/RIGHT HALF BLACK CIRCLE"]⟩,
  ⟨0x25d8, "", ["INVERSE BULLET/INVERSE WHITE CIRCLE/UPPER HALF INVERSE WHITE CIRCLE",
    "LOWER HALF INVERSE WHITE CIRCLE/UPPER LEFT QUADRANT CIRCULAR ARC"]⟩,
  ⟨0x25dd, "", ["UPPER RIGHT QUADRANT CIRCULAR ARC/LOWER RIGHT QUADRANT CIRCULAR ARC",
    "LOWER LEFT QUADRANT CIRCULAR ARC/UPPER HALF CIRCLE/LOWER HALF CIRCLE"]⟩,
  ⟨0x25e2, "", ["BLACK LOWER RIGHT TRIANGLE/BLACK LOWER LEFT TRIANGLE/BLACK UPPER LEFT TRIANGLE",
    "BLACK UPPER RIGHT TRIANGLE/WHITE BULLET"]⟩,
  ⟨0x25e7, "SQUARE WITH ", ["LEFT HALF BLACK/RIGHT HALF BLACK/UPPER LEFT DIAGONAL HALF BLACK",
    "LOWER RIGHT DIAGONAL HALF BLACK"]⟩,
  ⟨0x25eb, "", ["WHITE SQUARE WITH VERTICAL BISECTING LINE/WHITE UP-POINTING TRIANGLE WITH DOT",
    "UP-POINTING TRIANGLE WITH LEFT HALF BLACK/UP-POINTING TRIANGLE WITH RIGHT HALF BLACK",
    "LARGE CIRCLE"]⟩,
  ⟨0x25f0, "WHITE SQUARE WITH ", ["UPPER LEFT QUADRANT/LOWER LEFT QUADRANT/LOWER RIGHT QUADRANT",
    "UPPER RIGHT QUADRANT"]⟩,
  ⟨0x25f4, "WHITE CIRCLE WITH ", ["UPPER LEFT QUADRANT/LOWER LEFT QUADRANT/LOWER RIGHT QUADRANT",
    "UPPER RIGHT QUADRANT"]⟩,
  ⟨0x25f8, "", ["UPPER LEFT TRIANGLE/UPPER RIGHT TRIANGLE/LOWER LEFT TRIANGLE",
    "WHITE MEDIUM SQUARE/BLACK MEDIUM SQUARE"]⟩,
  ⟨0x25fd, "", ["WHITE MEDIUM SMALL SQUARE/BLACK MEDIUM SMALL SQUARE/LOWER RIGHT TRIANGLE",
    "BLACK SUN WITH RAYS/CLOUD"]⟩,
  ⟨0x2602, "", ["UMBRELLA/SNOWMAN/COMET/BLACK STAR/WHITE STAR"]⟩,
  ⟨0x2607, "", ["LIGHTNING/THUNDERSTORM/SUN/ASCENDING NODE/DESCENDING NODE"]⟩,
  ⟨0x260c, "", ["CONJUNCTION/OPPOSITION/BLACK TELEPHONE/WHITE TELEPHONE/BALLOT BOX"]⟩,
  ⟨0x2611, "BALLOT BOX WITH ", ["CHECK/X"]⟩,
  ⟨0x2613, "", ["SALTIRE/UMBRELLA WITH RAIN DROPS/HOT BEVERAGE/WHITE SHOGI PIECE"]⟩,
  ⟨0x2617, "", ["BLACK SHOGI PIECE/SHAMROCK/REVERSED ROTATED FLORAL HEART BULLET",
    "BLACK LEFT POINTING INDEX/BLACK RIGHT POINTING INDEX"]⟩,
  ⟨0x261c, "", ["WHITE LEFT POINTING INDEX/WHITE UP POINTING INDEX/WHITE RIGHT POINTING INDEX",
    "WHITE DOWN POINTING INDEX/SKULL AND CROSSBONES"]⟩,
  ⟨0x2621, "", ["CAUTION SIGN/RADIOACTIVE SIGN/BIOHAZARD SIGN/CADUCEUS/ANKH"]⟩,
  ⟨0x2626, "", ["ORTHODOX CROSS/CHI RHO/CROSS OF LORRAINE/CROSS OF JERUSALEM/STAR AND CRESCENT"]⟩,
  ⟨0x262b, "", ["FARSI SYMBOL/ADI SHAKTI/HAMMER AND SICKLE/PEACE SYMBOL/YIN YANG"]⟩,
  ⟨0x2630, "TRIGRAM FOR ", ["HEAVEN/LAKE/FIRE/THUNDER/WIND/WATER/MOUNTAIN/EARTH"]⟩,
  ⟨0x2638, "", ["WHEEL OF DHARMA/WHITE FROWNING FACE/WHITE SMILING FACE"]⟩,
  ⟨0x263b, "", ["BLACK SMILING FACE/WHITE SUN WITH RAYS/FIRST QUARTER MOON/LAST QUARTER MOON",
    "MERCURY"]⟩,
  ⟨0x2640, "", ["FEMALE SIGN/EARTH/MALE SIGN/JUPITER/SATURN"]⟩,
  ⟨0x2645, "", ["URANUS/NEPTUNE/PLUTO/ARIES/TAURUS"]⟩,
  ⟨0x264a, "", ["GEMINI/CANCER/LEO/VIRGO/LIBRA"]⟩,
  ⟨0x264f, "", ["SCORPIUS/SAGITTARIUS/CAPRICORN/AQUARIUS/PISCES"]⟩,
  ⟨0x2654, "WHITE CHESS ", ["KING/QUEEN/ROOK/BISHOP/KNIGHT/PAWN"]⟩,
  ⟨0x265a, "BLACK CHESS ", ["KING/QUEEN/ROOK/BISHOP/KNIGHT/PAWN"]⟩,
  ⟨0x2660, "", ["BLACK SPADE SUIT/WHITE HEART SUIT/WHITE DIAMOND SUIT/BLACK CLUB SUIT"]⟩,
  ⟨0x2664, "", ["WHITE SPADE SUIT/BLACK HEART SUIT/BLACK DIAMOND SUIT/WHITE CLUB SUIT",
    "HOT SPRINGS"]⟩,
  ⟨0x2669, "", ["QUARTER NOTE/EIGHTH NOTE/BEAMED EIGHTH NOTES/BEAMED SIXTEENTH NOTES",
    "MUSIC FLAT SIGN"]⟩,
  ⟨0x266e, "", ["MUSIC NATURAL SIGN/MUSIC SHARP SIGN/WEST SYRIAC CROSS/EAST SYRIAC CROSS",
    "UNIVERSAL RECYCLING SYMBOL"]⟩,
  ⟨0x2673, "RECYCLING SYMBOL FOR ", ["TYPE-1 PLASTICS/TYPE-2 PLASTICS/TYPE-3 PLASTICS",
    "TYPE-4 PLASTICS/TYPE-5 PLASTICS/TYPE-6 PLASTICS/TYPE-7 PLASTICS/GENERIC MATERIALS"]⟩,
  ⟨0x267b, "", ["BLACK UNIVERSAL RECYCLING SYMBOL/RECYCLED PAPER SYMBOL",
    "PARTIALLY-RECYCLED PAPER SYMBOL/PERMANENT PAPER SIGN/WHEELCHAIR SYMBOL"]⟩,
  ⟨0x2680, "DIE FACE-", ["1/2/3/4/5/6"]⟩,
  ⟨0x2686, "WHITE CIRCLE WITH ", ["DOT RIGHT/TWO DOTS"]⟩,
  ⟨0x2688, "BLACK CIRCLE WITH ", ["WHITE DOT RIGHT/TWO WHITE DOTS"]⟩,
  ⟨0x268a, "MONOGRAM FOR ", ["YANG/YIN"]⟩,
  ⟨0x268c, "DIGRAM FOR ", ["GREATER YANG/LESSER YIN/LESSER YANG/GREATER YIN"]⟩,
  ⟨0x2690, "", ["WHITE FLAG/BLACK FLAG/HAMMER AND PICK/ANCHOR"]⟩,
  ⟨0x2694, "", ["CROSSED SWORDS/STAFF OF AESCULAPIUS/SCALES/ALEMBIC/FLOWER"]⟩,
  ⟨0x2699, "", ["GEAR/STAFF OF HERMES/ATOM SYMBOL/FLEUR-DE-LIS/OUTLINED WHITE STAR"]⟩,
  ⟨0x269e, "THREE LINES CONVERGING ", ["RIGHT/LEFT"]⟩,
  ⟨0x26a0, "", ["WARNING SIGN/HIGH VOLTAGE SIGN/DOUBLED FEMALE SIGN/DOUBLED MALE SIGN",
    "INTERLOCKED FEMALE AND MALE SIGN"]⟩,
  ⟨0x26a5, "", ["MALE AND FEMALE SIGN/MALE WITH STROKE SIGN",
    "MALE WITH STROKE AND MALE AND FEMALE SIGN/VERTICAL MALE WITH STROKE SIGN",
    "HORIZONTAL MALE WITH STROKE SIGN"]⟩,
  ⟨0x26aa, "MEDIUM ", ["WHITE CIRCLE/BLACK CIRCLE/SMALL WHITE CIRCLE"]⟩,
  ⟨0x26ad, "", ["MARRIAGE SYMBOL/DIVORCE SYMBOL/UNMARRIED PARTNERSHIP SYMBOL/COFFIN"]⟩,
  ⟨0x26b1, "", ["FUNERAL URN/NEUTER/CERES/PALLAS/JUNO"]⟩,
  ⟨0x26b6, "", ["VESTA/CHIRON/BLACK MOON LILITH/SEXTILE/SEMISEXTILE"]⟩,
  ⟨0x26bb, "", ["QUINCUNX/SESQUIQUADRATE/SOCCER BALL/BASEBALL/SQUARED KEY"]⟩,
  ⟨0x26c0, "WHITE DRAUGHTS ", ["MAN/KING"]⟩,
  ⟨0x26c2, "", ["BLACK DRAUGHTS MAN/BLACK DRAUGHTS KING/SNOWMAN WITHOUT SNOW/SUN BEHIND CLOUD",
    "RAIN"]⟩,
  ⟨0x26c7, "", ["BLACK SNOWMAN/THUNDER CLOUD AND RAIN/TURNED WHITE SHOGI PIECE",
    "TURNED BLACK SHOGI PIECE/WHITE DIAMOND IN SQUARE"]⟩,
  ⟨0x26cc, "", ["CROSSING LANES/DISABLED CAR/OPHIUCHUS/PICK/CAR SLIDING"]⟩,
  ⟨0x26d1, "", ["HELMET WITH WHITE CROSS/CIRCLED CROSSING LANES/CHAINS/NO ENTRY",
    "ALTERNATE ONE-WAY LEFT WAY TRAFFIC"]⟩,
  ⟨0x26d6, "", ["BLACK TWO-WAY LEFT WAY TRAFFIC/WHITE TWO-WAY LEFT WAY TRAFFIC",
    "BLACK LEFT LANE MERGE/WHITE LEFT LANE MERGE/DRIVE SLOW SIGN"]⟩,
  ⟨0x26db, "", ["HEAVY WHITE DOWN-POINTING TRIANGLE/LEFT CLOSED ENTRY/SQUARED SALTIRE",
    "FALLING DIAGONAL IN WHITE CIRCLE IN BLACK SQUARE/BLACK TRUCK"]⟩,
  ⟨0x26e0, "RESTRICTED LEFT ENTRY-", ["1/2"]⟩,
  ⟨0x26e2, "", ["ASTRONOMICAL SYMBOL FOR URANUS/HEAVY CIRCLE WITH STROKE AND TWO DOTS ABOVE",
    "PENTAGRAM/RIGHT-HANDED INTERLACED PENTAGRAM/LEFT-HANDED INTERLACED PENTAGRAM"]⟩,
  ⟨0x26e7, "", ["INVERTED PENTAGRAM/BLACK CROSS ON SHIELD/SHINTO SHRINE/CHURCH/CASTLE"]⟩,
  ⟨0x26ec, "", ["HISTORIC SITE/GEAR WITHOUT HUB/GEAR WITH HANDLES/MAP SYMBOL FOR LIGHTHOUSE",
    "MOUNTAIN"]⟩,
  ⟨0x26f1, "", ["UMBRELLA ON GROUND/FOUNTAIN/FLAG IN HOLE/FERRY/SAILBOAT"]⟩,
  ⟨0x26f6, "", ["SQUARE FOUR CORNERS/SKIER/ICE SKATE/PERSON WITH BALL/TENT"]⟩,
  ⟨0x26fb, "", ["JAPANESE BANK SYMBOL/HEADSTONE GRAVEYARD SYMBOL/FUEL PUMP/CUP ON BLACK SQUARE",
    "WHITE FLAG WITH HORIZONTAL MIDDLE BLACK STRIPE"]⟩,
  ⟨0x2700, "", ["BLACK SAFETY SCISSORS/UPPER BLADE SCISSORS/BLACK SCISSORS/LOWER BLADE SCISSORS",
    "WHITE SCISSORS"]⟩,
  ⟨0x2705, "", ["WHITE HEAVY CHECK MARK/TELEPHONE LOCATION SIGN/TAPE DRIVE/AIRPLANE/ENVELOPE"]⟩,
  ⟨0x270a, "", ["RAISED FIST/RAISED HAND/VICTORY HAND/WRITING HAND/LOWER RIGHT PENCIL"]⟩,
  ⟨0x270f, "", ["PENCIL/UPPER RIGHT PENCIL/WHITE NIB/BLACK NIB/CHECK MARK"]⟩,
  ⟨0x2714, "", ["HEAVY CHECK MARK/MULTIPLICATION X/HEAVY MULTIPLICATION X/BALLOT X",
    "HEAVY BALLOT X"]⟩,
  ⟨0x2719, "", ["OUTLINED GREEK CROSS/HEAVY GREEK CROSS/OPEN CENTRE CROSS",
    "HEAVY OPEN CENTRE CROSS/LATIN CROSS"]⟩,
  ⟨0x271e, "", ["SHADOWED WHITE LATIN CROSS/OUTLINED LATIN CROSS/MALTESE CROSS/STAR OF DAVID",
    "FOUR TEARDROP-SPOKED ASTERISK"]⟩,
  ⟨0x2723, "", ["FOUR BALLOON-SPOKED ASTERISK/HEAVY FOUR BALLOON-SPOKED ASTERISK",
    "FOUR CLUB-SPOKED ASTERISK/BLACK FOUR POINTED STAR/WHITE FOUR POINTED STAR"]⟩,
  ⟨0x2728, "", ["SPARKLES/STRESS OUTLINED WHITE STAR/CIRCLED WHITE STAR/OPEN CENTRE BLACK STAR",
    "BLACK CENTRE WHITE STAR"]⟩,
  ⟨0x272d, "", ["OUTLINED BLACK STAR/HEAVY OUTLINED BLACK STAR/PINWHEEL STAR",
    "SHADOWED WHITE STAR/HEAVY ASTERISK"]⟩,
  ⟨0x2732, "", ["OPEN CENTRE ASTERISK/EIGHT SPOKED ASTERISK/EIGHT POINTED BLACK STAR",
    "EIGHT POINTED PINWHEEL STAR/SIX POINTED BLACK STAR"]⟩,
  ⟨0x2737, "", ["EIGHT POINTED RECTILINEAR BLACK STAR",
    "HEAVY EIGHT POINTED RECTILINEAR BLACK STAR/TWELVE POINTED BLACK STAR",
    "SIXTEEN POINTED ASTERISK/TEARDROP-SPOKED ASTERISK"]⟩,
  ⟨0x273c, "", ["OPEN CENTRE TEARDROP-SPOKED ASTERISK/HEAVY TEARDROP-SPOKED ASTERISK",
    "SIX PETALLED BLACK AND WHITE FLORETTE/BLACK FLORETTE/WHITE FLORETTE"]⟩,
  ⟨0x2741, "", ["EIGHT PETALLED OUTLINED BLACK FLORETTE/CIRCLED OPEN CENTRE EIGHT POINTED STAR",
    "HEAVY TEARDROP-SPOKED PINWHEEL ASTERISK/SNOWFLAKE/TIGHT TRIFOLIATE SNOWFLAKE"]⟩,
  ⟨0x2746, "", ["HEAVY CHEVRON SNOWFLAKE/SPARKLE/HEAVY SPARKLE/BALLOON-SPOKED ASTERISK",
    "EIGHT TEARDROP-SPOKED PROPELLER ASTERISK"]⟩,
  ⟨0x274b, "", ["HEAVY EIGHT TEARDROP-SPOKED PROPELLER ASTERISK/CROSS MARK",
    "SHADOWED WHITE CIRCLE/NEGATIVE SQUARED CROSS MARK/LOWER RIGHT DROP-SHADOWED WHITE SQUARE"]⟩,
  ⟨0x2750, "", ["UPPER RIGHT DROP-SHADOWED WHITE SQUARE/LOWER RIGHT SHADOWED WHITE SQUARE",
    "UPPER RIGHT SHADOWED WHITE SQUARE/BLACK QUESTION MARK ORNAMENT",
    "WHITE QUESTION MARK ORNAMENT"]⟩,
  ⟨0x2755, "", ["WHITE EXCLAMATION MARK ORNAMENT/BLACK DIAMOND MINUS WHITE X",
    "HEAVY EXCLAMATION MARK SYMBOL/LIGHT VERTICAL BAR/MEDIUM VERTICAL BAR"]⟩,
  ⟨0x275a, "HEAVY ", ["VERTICAL BAR/SINGLE TURNED COMMA QUOTATION MARK ORNAMENT",
    "SINGLE COMMA QUOTATION MARK ORNAMENT/DOUBLE TURNED COMMA QUOTATION MARK ORNAMENT",
    "DOUBLE COMMA QUOTATION MARK ORNAMENT/LOW SINGLE COMMA QUOTATION MARK ORNAMENT",
    "LOW DOUBLE COMMA QUOTATION MARK ORNAMENT"]⟩,
  ⟨0x2761, "", ["CURVED STEM PARAGRAPH SIGN ORNAMENT/HEAVY EXCLAMATION MARK ORNAMENT"]⟩,
  ⟨0x2763, "", ["HEAVY HEART EXCLAMATION MARK ORNAMENT/HEAVY BLACK HEART",
    "ROTATED HEAVY BLACK HEART BULLET/FLORAL HEART/ROTATED FLORAL HEART BULLET"]⟩,
  ⟨0x2768, "MEDIUM ", ["LEFT PARENTHESIS ORNAMENT/RIGHT PARENTHESIS ORNAMENT",
    "FLATTENED LEFT PARENTHESIS ORNAMENT/FLATTENED RIGHT PARENTHESIS ORNAMENT",
    "LEFT-POINTING ANGLE BRACKET ORNAMENT/RIGHT-POINTING ANGLE BRACKET ORNAMENT"]⟩,
  ⟨0x276e, "HEAVY ", ["LEFT-POINTING ANGLE QUOTATION MARK ORNAMENT",
    "RIGHT-POINTING ANGLE QUOTATION MARK ORNAMENT/LEFT-POINTING ANGLE BRACKET ORNAMENT",
    "RIGHT-POINTING ANGLE BRACKET ORNAMENT"]⟩,
  ⟨0x2772, "", ["LIGHT LEFT TORTOISE SHELL BRACKET ORNAMENT",
    "LIGHT RIGHT TORTOISE SHELL BRACKET ORNAMENT/MEDIUM LEFT CURLY BRACKET ORNAMENT",
    "MEDIUM RIGHT CURLY BRACKET ORNAMENT"]⟩,
  ⟨0x2776, "DINGBAT NEGATIVE CIRCLED ", ["DIGIT ONE/DIGIT TWO/DIGIT THREE/DIGIT FOUR/DIGIT FIVE",
    "DIGIT SIX/DIGIT SEVEN/DIGIT EIGHT/DIGIT NINE/NUMBER TEN"]⟩,
  ⟨0x2780, "DINGBAT CIRCLED SANS-SERIF ", ["DIGIT ONE/DIGIT TWO/DIGIT THREE/DIGIT FOUR",
    "DIGIT FIVE/DIGIT SIX/DIGIT SEVEN/DIGIT EIGHT/DIGIT NINE/NUMBER TEN"]⟩,
  ⟨0x278a, "DINGBAT NEGATIVE CIRCLED SANS-SERIF ", ["DIGIT ONE/DIGIT TWO/DIGIT THREE/DIGIT FOUR",
    "DIGIT FIVE/DIGIT SIX/DIGIT SEVEN/DIGIT EIGHT/DIGIT NINE/NUMBER TEN"]⟩,
  ⟨0x2794, "HEAVY ", ["WIDE-HEADED RIGHTWARDS ARROW/PLUS SIGN/MINUS SIGN/DIVISION SIGN",
    "SOUTH EAST ARROW/RIGHTWARDS ARROW/NORTH EAST ARROW"]⟩,
  ⟨0x279b, "", ["DRAFTING POINT RIGHTWARDS ARROW/HEAVY ROUND-TIPPED RIGHTWARDS ARROW",
    "TRIANGLE-HEADED RIGHTWARDS ARROW/HEAVY TRIANGLE-HEADED RIGHTWARDS ARROW",
    "DASHED TRIANGLE-HEADED RIGHTWARDS ARROW"]⟩,
  ⟨0x27a0, "", ["HEAVY DASHED TRIANGLE-HEADED RIGHTWARDS ARROW/BLACK RIGHTWARDS ARROW",
    "THREE-D TOP-LIGHTED RIGHTWARDS ARROWHEAD/THREE-D BOTTOM-LIGHTED RIGHTWARDS ARROWHEAD",
    "BLACK RIGHTWARDS ARROWHEAD"]⟩,
  ⟨0x27a5, "", ["HEAVY BLACK CURVED DOWNWARDS AND RIGHTWARDS ARROW",
    "HEAVY BLACK CURVED UPWARDS AND RIGHTWARDS ARROW/SQUAT BLACK RIGHTWARDS ARROW",
    "HEAVY CONCAVE-POINTED BLACK RIGHTWARDS ARROW/RIGHT-SHADED WHITE RIGHTWARDS ARROW"]⟩,
  ⟨0x27aa, "", ["LEFT-SHADED WHITE RIGHTWARDS ARROW/BACK-TILTED SHADOWED WHITE RIGHTWARDS ARROW",
    "FRONT-TILTED SHADOWED WHITE RIGHTWARDS ARROW",
    "HEAVY LOWER RIGHT-SHADOWED WHITE RIGHTWARDS ARROW",
    "HEAVY UPPER RIGHT-SHADOWED WHITE RIGHTWARDS ARROW"]⟩,
  ⟨0x27af, "", ["NOTCHED LOWER RIGHT-SHADOWED WHITE RIGHTWARDS ARROW/CURLY LOOP",
    "NOTCHED UPPER RIGHT-SHADOWED WHITE RIGHTWARDS ARROW/CIRCLED HEAVY WHITE RIGHTWARDS ARROW",
    "WHITE-FEATHERED RIGHTWARDS ARROW"]⟩,
  ⟨0x27b4, "BLACK-FEATHERED ", ["SOUTH EAST ARROW/RIGHTWARDS ARROW/NORTH EAST ARROW"]⟩,
  ⟨0x27b7, "HEAVY BLACK-FEATHERED ", ["SOUTH EAST ARROW/RIGHTWARDS ARROW/NORTH EAST ARROW"]⟩,
  ⟨0x27ba, "", ["TEARDROP-BARBED RIGHTWARDS ARROW/HEAVY TEARDROP-SHANKED RIGHTWARDS ARROW",
    "WEDGE-TAILED RIGHTWARDS ARROW/HEAVY WEDGE-TAILED RIGHTWARDS ARROW",
    "OPEN-OUTLINED RIGHTWARDS ARROW"]⟩,
  ⟨0x27bf, "", ["DOUBLE CURLY LOOP/THREE DIMENSIONAL ANGLE",
    "WHITE TRIANGLE CONTAINING SMALL WHITE TRIANGLE/PERPENDICULAR/OPEN SUBSET"]⟩,
  ⟨0x27c4, "", ["OPEN SUPERSET/LEFT S-SHAPED BAG DELIMITER/RIGHT S-SHAPED BAG DELIMITER",
    "OR WITH DOT INSIDE/REVERSE SOLIDUS PRECEDING SUBSET"]⟩,
  ⟨0x27c9, "", ["SUPERSET PRECEDING SOLIDUS/VERTICAL BAR WITH HORIZONTAL STROKE",
    "MATHEMATICAL RISING DIAGONAL/LONG DIVISION/MATHEMATICAL FALLING DIAGONAL"]⟩,
  ⟨0x27ce, "SQUARED LOGICAL ", ["AND/OR"]⟩,
  ⟨0x27d0, "", ["WHITE DIAMOND WITH CENTRED DOT/AND WITH DOT/ELEMENT OF OPENING UPWARDS",
    "LOWER RIGHT CORNER WITH DOT/UPPER LEFT CORNER WITH DOT"]⟩,
  ⟨0x27d5, "", ["LEFT OUTER JOIN/RIGHT OUTER JOIN/FULL OUTER JOIN/LARGE UP TACK/LARGE DOWN TACK"]⟩,
  ⟨0x27da, "LEFT AND RIGHT ", ["DOUBLE TURNSTILE/TACK"]⟩,
  ⟨0x27dc, "", ["LEFT MULTIMAP/LONG RIGHT TACK/LONG LEFT TACK/UP TACK WITH CIRCLE ABOVE",
    "LOZENGE DIVIDED BY HORIZONTAL RULE"]⟩,
  ⟨0x27e1, "WHITE CONCAVE-SIDED ", ["DIAMOND/DIAMOND WITH LEFTWARDS TICK",
    "DIAMOND WITH RIGHTWARDS TICK"]⟩,
  ⟨0x27e4, "WHITE SQUARE WITH ", ["LEFTWARDS TICK/RIGHTWARDS TICK"]⟩,
  ⟨0x27e6, "MATHEMATICAL ", ["LEFT WHITE SQUARE BRACKET/RIGHT WHITE SQUARE BRACKET",
    "LEFT ANGLE BRACKET/RIGHT ANGLE BRACKET/LEFT DOUBLE ANGLE BRACKET",
    "RIGHT DOUBLE ANGLE BRACKET/LEFT WHITE TORTOISE SHELL BRACKET",
    "RIGHT WHITE TORTOISE SHELL BRACKET/LEFT FLATTENED PARENTHESIS/RIGHT FLATTENED PARENTHESIS"]⟩,
  ⟨0x27f0, "", ["UPWARDS QUADRUPLE ARROW/DOWNWARDS QUADRUPLE ARROW",
    "ANTICLOCKWISE GAPPED CIRCLE ARROW/CLOCKWISE GAPPED CIRCLE ARROW",
    "RIGHT ARROW WITH CIRCLED PLUS"]⟩,
  ⟨0x27f5, "LONG ", ["LEFTWARDS ARROW/RIGHTWARDS ARROW/LEFT RIGHT ARROW/LEFTWARDS DOUBLE ARROW",
    "RIGHTWARDS DOUBLE ARROW/LEFT RIGHT DOUBLE ARROW/LEFTWARDS ARROW FROM BAR",
    "RIGHTWARDS ARROW FROM BAR/LEFTWARDS DOUBLE ARROW FROM BAR/RIGHTWARDS DOUBLE ARROW FROM BAR",
    "RIGHTWARDS SQUIGGLE ARROW"]⟩,
  ⟨0x2800, "", ["BRAILLE PATTERN BLANK"]⟩,
  ⟨0x2801, "BRAILLE PATTERN DOTS-", ["1/2/12/3/13/23/123/4/14/24/124/34/134/234/1234/5/15/25",
    "125/35/135/235/1235/45/145/245/1245/345/1345/2345/12345/6/16/26/126/36/136/236/1236/46/146",
    "246/1246/346/1346/2346/12346/56/156/256/1256/356/1356/2356/12356/456/1456/2456/12456/3456",
    "13456/23456/123456/7/17/27/127/37/137/237/1237/47/147/247/1247/347/1347/2347/12347/57/157",
    "257/1257/357/1357/2357/12357/457/1457/2457/12457/3457/13457/23457/123457/67/167/267/1267",
    "367/1367/2367/12367/467/1467/2467/12467/3467/13467/23467/123467/567/1567/2567/12567/3567",
    "13567/23567/123567/4567/14567/24567/124567/34567/134567/234567/1234567/8/18/28/128/38/138",
    "238/1238/48/148/248/1248/348/1348/2348/12348/58/158/258/1258/358/1358/2358/12358/458/1458",
    "2458/12458/3458/13458/23458/123458/68/168/268/1268/368/1368/2368/12368/468/1468/2468/12468",
    "3468/13468/23468/123468/568/1568/2568/12568/3568/13568/23568/123568/4568/14568/24568",
    "124568/34568/134568/234568/1234568/78/178/278/1278/378/1378/2378/12378/478/1478/2478/12478",
    "3478/13478/23478/123478/578/1578/2578/12578/3578/13578/23578/123578/4578/14578/24578",
    "124578/34578/134578/234578/1234578/678/1678/2678/12678/3678/13678/23678/123678/4678/14678",
    "24678/124678/34678/134678/234678/1234678/5678/15678/25678/125678/35678/135678/235678",
    "1235678/45678/145678/245678/1245678/345678/1345678/2345678/12345678"]⟩,
  ⟨0x2900, "RIGHTWARDS TWO-HEADED ARROW WITH ", ["VERTICAL STROKE/DOUBLE VERTICAL STROKE"]⟩,
  ⟨0x2902, "", ["LEFTWARDS DOUBLE ARROW WITH VERTICAL STROKE",
    "RIGHTWARDS DOUBLE ARROW WITH VERTICAL STROKE/LEFT RIGHT DOUBLE ARROW WITH VERTICAL STROKE"]⟩,
  ⟨0x2905, "", ["RIGHTWARDS TWO-HEADED ARROW FROM BAR/LEFTWARDS DOUBLE ARROW FROM BAR",
    "RIGHTWARDS DOUBLE ARROW FROM BAR/DOWNWARDS ARROW WITH HORIZONTAL STROKE",
    "UPWARDS ARROW WITH HORIZONTAL STROKE"]⟩,
  ⟨0x290a, "", ["UPWARDS TRIPLE ARROW/DOWNWARDS TRIPLE ARROW/LEFTWARDS DOUBLE DASH ARROW",
    "RIGHTWARDS DOUBLE DASH ARROW/LEFTWARDS TRIPLE DASH ARROW"]⟩,
  ⟨0x290f, "", ["RIGHTWARDS TRIPLE DASH ARROW/RIGHTWARDS TWO-HEADED TRIPLE DASH ARROW",
    "RIGHTWARDS ARROW WITH DOTTED STEM/UPWARDS ARROW TO BAR/DOWNWARDS ARROW TO BAR"]⟩,
  ⟨0x2914, "RIGHTWARDS ARROW WITH TAIL WITH ", ["VERTICAL STROKE/DOUBLE VERTICAL STROKE"]⟩,
  ⟨0x2916, "RIGHTWARDS TWO-HEADED ARROW WITH ", ["TAIL/TAIL WITH VERTICAL STROKE",
    "TAIL WITH DOUBLE VERTICAL STROKE"]⟩,
  ⟨0x2919, "", ["LEFTWARDS ARROW-TAIL/RIGHTWARDS ARROW-TAIL/LEFTWARDS DOUBLE ARROW-TAIL"]⟩,
  ⟨0x291c, "", ["RIGHTWARDS DOUBLE ARROW-TAIL/LEFTWARDS ARROW TO BLACK DIAMOND",
    "RIGHTWARDS ARROW TO BLACK DIAMOND/LEFTWARDS ARROW FROM BAR TO BLACK DIAMOND",
    "RIGHTWARDS ARROW FROM BAR TO BLACK DIAMOND"]⟩,
  ⟨0x2921, "NORTH ", ["WEST AND SOUTH EAST ARROW/EAST AND SOUTH WEST ARROW/WEST ARROW WITH HOOK",
    "EAST ARROW WITH HOOK"]⟩,
  ⟨0x2925, "", ["SOUTH EAST ARROW WITH HOOK/SOUTH WEST ARROW WITH HOOK",
    "NORTH WEST ARROW AND NORTH EAST ARROW/NORTH EAST ARROW AND SOUTH EAST ARROW",
    "SOUTH EAST ARROW AND SOUTH WEST ARROW"]⟩,
  ⟨0x292a, "", ["SOUTH WEST ARROW AND NORTH WEST ARROW",
    "RISING DIAGONAL CROSSING FALLING DIAGONAL/FALLING DIAGONAL CROSSING RISING DIAGONAL",
    "SOUTH EAST ARROW CROSSING NORTH EAST ARROW/NORTH EAST ARROW CROSSING SOUTH EAST ARROW"]⟩,
  ⟨0x292f, "", ["FALLING DIAGONAL CROSSING NORTH EAST ARROW",
    "RISING DIAGONAL CROSSING SOUTH EAST ARROW/NORTH EAST ARROW CROSSING NORTH WEST ARROW",
    "NORTH WEST ARROW CROSSING NORTH EAST ARROW/WAVE ARROW POINTING DIRECTLY RIGHT"]⟩,
  ⟨0x2934, "ARROW POINTING RIGHTWARDS THEN CURVING ", ["UPWARDS/DOWNWARDS"]⟩,
  ⟨0x2936, "ARROW POINTING DOWNWARDS THEN CURVING ", ["LEFTWARDS/RIGHTWARDS"]⟩,
  ⟨0x2938, "", ["RIGHT-SIDE ARC CLOCKWISE ARROW/LEFT-SIDE ARC ANTICLOCKWISE ARROW",
    "TOP ARC ANTICLOCKWISE ARROW/BOTTOM ARC ANTICLOCKWISE ARROW"]⟩,
  ⟨0x293c, "TOP ARC ", ["CLOCKWISE ARROW WITH MINUS/ANTICLOCKWISE ARROW WITH PLUS"]⟩,
  ⟨0x293e, "", ["LOWER RIGHT SEMICIRCULAR CLOCKWISE ARROW",
    "LOWER LEFT SEMICIRCULAR ANTICLOCKWISE ARROW/ANTICLOCKWISE CLOSED CIRCLE ARROW",
    "CLOCKWISE CLOSED CIRCLE ARROW/RIGHTWARDS ARROW ABOVE SHORT LEFTWARDS ARROW"]⟩,
  ⟨0x2943, "", ["LEFTWARDS ARROW ABOVE SHORT RIGHTWARDS ARROW",
    "SHORT RIGHTWARDS ARROW ABOVE LEFTWARDS ARROW/RIGHTWARDS ARROW WITH PLUS BELOW",
    "LEFTWARDS ARROW WITH PLUS BELOW/RIGHTWARDS ARROW THROUGH X"]⟩,
  ⟨0x2948, "", ["LEFT RIGHT ARROW THROUGH SMALL CIRCLE",
    "UPWARDS TWO-HEADED ARROW FROM SMALL CIRCLE/LEFT BARB UP RIGHT BARB DOWN HARPOON",
    "LEFT BARB DOWN RIGHT BARB UP HARPOON/UP BARB RIGHT DOWN BARB LEFT HARPOON"]⟩,
  ⟨0x294d, "", ["UP BARB LEFT DOWN BARB RIGHT HARPOON/LEFT BARB UP RIGHT BARB UP HARPOON",
    "UP BARB RIGHT DOWN BARB RIGHT HARPOON/LEFT BARB DOWN RIGHT BARB DOWN HARPOON",
    "UP BARB LEFT DOWN BARB LEFT HARPOON"]⟩,
  ⟨0x2952, "", ["LEFTWARDS HARPOON WITH BARB UP TO BAR/RIGHTWARDS HARPOON WITH BARB UP TO BAR",
    "UPWARDS HARPOON WITH BARB RIGHT TO BAR/DOWNWARDS HARPOON WITH BARB RIGHT TO BAR",
    "LEFTWARDS HARPOON WITH BARB DOWN TO BAR"]⟩,
  ⟨0x2957, "", ["RIGHTWARDS HARPOON WITH BARB DOWN TO BAR/UPWARDS HARPOON WITH BARB LEFT TO BAR",
    "DOWNWARDS HARPOON WITH BARB LEFT TO BAR/LEFTWARDS HARPOON WITH BARB UP FROM BAR",
    "RIGHTWARDS HARPOON WITH BARB UP FROM BAR"]⟩,
  ⟨0x295c, "", ["UPWARDS HARPOON WITH BARB RIGHT FROM BAR",
    "DOWNWARDS HARPOON WITH BARB RIGHT FROM BAR/LEFTWARDS HARPOON WITH BARB DOWN FROM BAR",
    "RIGHTWARDS HARPOON WITH BARB DOWN FROM BAR/UPWARDS HARPOON WITH BARB LEFT FROM BAR"]⟩,
  ⟨0x2961, "", ["DOWNWARDS HARPOON WITH BARB LEFT FROM BAR",
    "LEFTWARDS HARPOON WITH BARB UP ABOVE LEFTWARDS HARPOON WITH BARB DOWN",
    "UPWARDS HARPOON WITH BARB LEFT BESIDE UPWARDS HARPOON WITH BARB RIGHT",
    "RIGHTWARDS HARPOON WITH BARB UP ABOVE RIGHTWARDS HARPOON WITH BARB DOWN",
    "DOWNWARDS HARPOON WITH BARB LEFT BESIDE DOWNWARDS HARPOON WITH BARB RIGHT"]⟩,
  ⟨0x2966, "LEFTWARDS HARPOON WITH BARB ", ["UP ABOVE RIGHTWARDS HARPOON WITH BARB UP",
    "DOWN ABOVE RIGHTWARDS HARPOON WITH BARB DOWN"]⟩,
  ⟨0x2968, "RIGHTWARDS HARPOON WITH BARB ", ["UP ABOVE LEFTWARDS HARPOON WITH BARB UP",
    "DOWN ABOVE LEFTWARDS HARPOON WITH BARB DOWN"]⟩,
  ⟨0x296a, "LEFTWARDS HARPOON WITH BARB ", ["UP ABOVE LONG DASH/DOWN BELOW LONG DASH"]⟩,
  ⟨0x296c, "RIGHTWARDS HARPOON WITH BARB ", ["UP ABOVE LONG DASH/DOWN BELOW LONG DASH"]⟩,
  ⟨0x296e, "", ["UPWARDS HARPOON WITH BARB LEFT BESIDE DOWNWARDS HARPOON WITH BARB RIGHT",
    "DOWNWARDS HARPOON WITH BARB LEFT BESIDE UPWARDS HARPOON WITH BARB RIGHT",
    "RIGHT DOUBLE ARROW WITH ROUNDED HEAD/EQUALS SIGN ABOVE RIGHTWARDS ARROW",
    "TILDE OPERATOR ABOVE RIGHTWARDS ARROW"]⟩,
  ⟨0x2973, "", ["LEFTWARDS ARROW ABOVE TILDE OPERATOR/RIGHTWARDS ARROW ABOVE TILDE OPERATOR",
    "RIGHTWARDS ARROW ABOVE ALMOST EQUAL TO/LESS-THAN ABOVE LEFTWARDS ARROW",
    "LEFTWARDS ARROW THROUGH LESS-THAN"]⟩,
  ⟨0x2978, "", ["GREATER-THAN ABOVE RIGHTWARDS ARROW/SUBSET ABOVE RIGHTWARDS ARROW",
    "LEFTWARDS ARROW THROUGH SUBSET/SUPERSET ABOVE LEFTWARDS ARROW/LEFT FISH TAIL"]⟩,
  ⟨0x297d, "", ["RIGHT FISH TAIL/UP FISH TAIL/DOWN FISH TAIL/TRIPLE VERTICAL BAR DELIMITER",
    "Z NOTATION SPOT"]⟩,
  ⟨0x2982, "", ["Z NOTATION TYPE COLON/LEFT WHITE CURLY BRACKET/RIGHT WHITE CURLY BRACKET",
    "LEFT WHITE PARENTHESIS/RIGHT WHITE PARENTHESIS"]⟩,
  ⟨0x2987, "Z NOTATION ", ["LEFT IMAGE BRACKET/RIGHT IMAGE BRACKET/LEFT BINDING BRACKET",
    "RIGHT BINDING BRACKET"]⟩,
  ⟨0x298b, "", ["LEFT SQUARE BRACKET WITH UNDERBAR/RIGHT SQUARE BRACKET WITH UNDERBAR",
    "LEFT SQUARE BRACKET WITH TICK IN TOP CORNER",
    "RIGHT SQUARE BRACKET WITH TICK IN BOTTOM CORNER",
    "LEFT SQUARE BRACKET WITH TICK IN BOTTOM CORNER"]⟩,
  ⟨0x2990, "", ["RIGHT SQUARE BRACKET WITH TICK IN TOP CORNER/LEFT ANGLE BRACKET WITH DOT",
    "RIGHT ANGLE BRACKET WITH DOT/LEFT ARC LESS-THAN BRACKET/RIGHT ARC GREATER-THAN BRACKET"]⟩,
  ⟨0x2995, "DOUBLE ", ["LEFT ARC GREATER-THAN BRACKET/RIGHT ARC LESS-THAN BRACKET"]⟩,
  ⟨0x2997, "", ["LEFT BLACK TORTOISE SHELL BRACKET/RIGHT BLACK TORTOISE SHELL BRACKET",
    "DOTTED FENCE/VERTICAL ZIGZAG LINE/MEASURED ANGLE OPENING LEFT"]⟩,
  ⟨0x299c, "", ["RIGHT ANGLE VARIANT WITH SQUARE/MEASURED RIGHT ANGLE WITH DOT",
    "ANGLE WITH S INSIDE/ACUTE ANGLE/SPHERICAL ANGLE OPENING LEFT"]⟩,
  ⟨0x29a1, "", ["SPHERICAL ANGLE OPENING UP/TURNED ANGLE/REVERSED ANGLE/ANGLE WITH UNDERBAR",
    "REVERSED ANGLE WITH UNDERBAR"]⟩,
  ⟨0x29a6, "OBLIQUE ANGLE OPENING ", ["UP/DOWN"]⟩,
  ⟨0x29a8, "MEASURED ANGLE WITH OPEN ARM ENDING IN ARROW POINTING ", ["UP AND RIGHT/UP AND LEFT",
    "DOWN AND RIGHT/DOWN AND LEFT/RIGHT AND UP/LEFT AND UP/RIGHT AND DOWN/LEFT AND DOWN"]⟩,
  ⟨0x29b0, "", ["REVERSED EMPTY SET"]⟩,
  ⟨0x29b1, "EMPTY SET WITH ", ["OVERBAR/SMALL CIRCLE ABOVE/RIGHT ARROW ABOVE/LEFT ARROW ABOVE"]⟩,
  ⟨0x29b5, "", ["CIRCLE WITH HORIZONTAL BAR/CIRCLED VERTICAL BAR/CIRCLED PARALLEL",
    "CIRCLED REVERSE SOLIDUS"]⟩,
  ⟨0x29b9, "", ["CIRCLED PERPENDICULAR",
    "CIRCLE DIVIDED BY HORIZONTAL BAR AND TOP HALF DIVIDED BY VERTICAL BAR",
    "CIRCLE WITH SUPERIMPOSED X/CIRCLED ANTICLOCKWISE-ROTATED DIVISION SIGN",
    "UP ARROW THROUGH CIRCLE"]⟩,
  ⟨0x29be, "CIRCLED ", ["WHITE BULLET/BULLET/LESS-THAN/GREATER-THAN"]⟩,
  ⟨0x29c2, "CIRCLE WITH ", ["SMALL CIRCLE TO THE RIGHT/TWO HORIZONTAL STROKES TO THE RIGHT"]⟩,
  ⟨0x29c4, "SQUARED ", ["RISING DIAGONAL SLASH/FALLING DIAGONAL SLASH/ASTERISK/SMALL CIRCLE",
    "SQUARE"]⟩,
  ⟨0x29c9, "", ["TWO JOINED SQUARES"]⟩,
  ⟨0x29ca, "", ["TRIANGLE WITH DOT ABOVE/TRIANGLE WITH UNDERBAR/S IN TRIANGLE",
    "TRIANGLE WITH SERIFS AT BOTTOM/RIGHT TRIANGLE ABOVE LEFT TRIANGLE"]⟩,
  ⟨0x29cf, "", ["LEFT TRIANGLE BESIDE VERTICAL BAR/VERTICAL BAR BESIDE RIGHT TRIANGLE",
    "BOWTIE WITH LEFT HALF BLACK/BOWTIE WITH RIGHT HALF BLACK/BLACK BOWTIE"]⟩,
  ⟨0x29d4, "", ["TIMES WITH LEFT HALF BLACK/TIMES WITH RIGHT HALF BLACK/WHITE HOURGLASS",
    "BLACK HOURGLASS/LEFT WIGGLY FENCE"]⟩,
  ⟨0x29d9, "", ["RIGHT WIGGLY FENCE/LEFT DOUBLE WIGGLY FENCE/RIGHT DOUBLE WIGGLY FENCE",
    "INCOMPLETE INFINITY/TIE OVER INFINITY"]⟩,
  ⟨0x29de, "", ["INFINITY NEGATED WITH VERTICAL BAR/DOUBLE-ENDED MULTIMAP",
    "SQUARE WITH CONTOURED OUTLINE/INCREASES AS/SHUFFLE PRODUCT"]⟩,
  ⟨0x29e3, "", ["EQUALS SIGN AND SLANTED PARALLEL",
    "EQUALS SIGN AND SLANTED PARALLEL WITH TILDE ABOVE/IDENTICAL TO AND SLANTED PARALLEL",
    "GLEICH STARK/THERMODYNAMIC"]⟩,
  ⟨0x29e8, "DOWN-POINTING TRIANGLE WITH ", ["LEFT HALF BLACK/RIGHT HALF BLACK"]⟩,
  ⟨0x29ea, "", ["BLACK DIAMOND WITH DOWN ARROW/BLACK LOZENGE/WHITE CIRCLE WITH DOWN ARROW",
    "BLACK CIRCLE WITH DOWN ARROW"]⟩,
  ⟨0x29ee, "ERROR-BARRED ", ["WHITE SQUARE/BLACK SQUARE/WHITE DIAMOND/BLACK DIAMOND",
    "WHITE CIRCLE/BLACK CIRCLE"]⟩,
  ⟨0x29f4, "", ["RULE-DELAYED/REVERSE SOLIDUS OPERATOR"]⟩,
  ⟨0x29f6, "", ["SOLIDUS WITH OVERBAR/REVERSE SOLIDUS WITH HORIZONTAL STROKE/BIG SOLIDUS",
    "BIG REVERSE SOLIDUS/DOUBLE PLUS"]⟩,
  ⟨0x29fb, "", ["TRIPLE PLUS/LEFT-POINTING CURVED ANGLE BRACKET",
    "RIGHT-POINTING CURVED ANGLE BRACKET/TINY/MINY"]⟩,
  ⟨0x2a00, "N-ARY ", ["CIRCLED DOT OPERATOR/CIRCLED PLUS OPERATOR/CIRCLED TIMES OPERATOR",
    "UNION OPERATOR WITH DOT/UNION OPERATOR WITH PLUS/SQUARE INTERSECTION OPERATOR",
    "SQUARE UNION OPERATOR"]⟩,
  ⟨0x2a07, "TWO LOGICAL ", ["AND OPERATOR/OR OPERATOR"]⟩,
  ⟨0x2a09, "", ["N-ARY TIMES OPERATOR/MODULO TWO SUM/SUMMATION WITH INTEGRAL",
    "QUADRUPLE INTEGRAL OPERATOR"]⟩,
  ⟨0x2a0d, "", ["FINITE PART INTEGRAL/INTEGRAL WITH DOUBLE STROKE/INTEGRAL AVERAGE WITH SLASH",
    "CIRCULATION FUNCTION/ANTICLOCKWISE INTEGRATION"]⟩,
  ⟨0x2a12, "LINE INTEGRATION ", ["WITH RECTANGULAR PATH AROUND POLE",
    "WITH SEMICIRCULAR PATH AROUND POLE/NOT INCLUDING THE POLE"]⟩,
  ⟨0x2a15, "", ["INTEGRAL AROUND A POINT OPERATOR/QUATERNION INTEGRAL OPERATOR"]⟩,
  ⟨0x2a17, "INTEGRAL WITH ", ["LEFTWARDS ARROW WITH HOOK/TIMES SIGN/INTERSECTION/UNION/OVERBAR",
    "UNDERBAR"]⟩,
  ⟨0x2a1d, "", ["JOIN/LARGE LEFT TRIANGLE OPERATOR"]⟩,
  ⟨0x2a1f, "Z NOTATION SCHEMA ", ["COMPOSITION/PIPING/PROJECTION"]⟩,
  ⟨0x2a22, "PLUS SIGN WITH ", ["SMALL CIRCLE ABOVE/CIRCUMFLEX ACCENT ABOVE/TILDE ABOVE",
    "DOT BELOW/TILDE BELOW/SUBSCRIPT TWO/BLACK TRIANGLE"]⟩,
  ⟨0x2a29, "MINUS SIGN WITH ", ["COMMA ABOVE/DOT BELOW/FALLING DOTS/RISING DOTS"]⟩,
  ⟨0x2a2d, "PLUS SIGN IN ", ["LEFT HALF CIRCLE/RIGHT HALF CIRCLE"]⟩,
  ⟨0x2a2f, "", ["VECTOR OR CROSS PRODUCT/MULTIPLICATION SIGN WITH DOT ABOVE",
    "MULTIPLICATION SIGN WITH UNDERBAR/SEMIDIRECT PRODUCT WITH BOTTOM CLOSED/SMASH PRODUCT"]⟩,
  ⟨0x2a34, "MULTIPLICATION SIGN IN ", ["LEFT HALF CIRCLE/RIGHT HALF CIRCLE"]⟩,
  ⟨0x2a36, "", ["CIRCLED MULTIPLICATION SIGN WITH CIRCUMFLEX ACCENT",
    "MULTIPLICATION SIGN IN DOUBLE CIRCLE/CIRCLED DIVISION SIGN/PLUS SIGN IN TRIANGLE"]⟩,
  ⟨0x2a3a, "", ["MINUS SIGN IN TRIANGLE/MULTIPLICATION SIGN IN TRIANGLE/INTERIOR PRODUCT",
    "RIGHTHAND INTERIOR PRODUCT/Z NOTATION RELATIONAL COMPOSITION"]⟩,
  ⟨0x2a3f, "", ["AMALGAMATION OR COPRODUCT/INTERSECTION WITH DOT/UNION WITH MINUS SIGN",
    "UNION WITH OVERBAR/INTERSECTION WITH OVERBAR"]⟩,
  ⟨0x2a44, "", ["INTERSECTION WITH LOGICAL AND/UNION WITH LOGICAL OR/UNION ABOVE INTERSECTION",
    "INTERSECTION ABOVE UNION/UNION ABOVE BAR ABOVE INTERSECTION"]⟩,
  ⟨0x2a49, "", ["INTERSECTION ABOVE BAR ABOVE UNION/UNION BESIDE AND JOINED WITH UNION",
    "INTERSECTION BESIDE AND JOINED WITH INTERSECTION/CLOSED UNION WITH SERIFS",
    "CLOSED INTERSECTION WITH SERIFS"]⟩,
  ⟨0x2a4e, "", ["DOUBLE SQUARE INTERSECTION/DOUBLE SQUARE UNION",
    "CLOSED UNION WITH SERIFS AND SMASH PRODUCT/LOGICAL AND WITH DOT ABOVE",
    "LOGICAL OR WITH DOT ABOVE"]⟩,
  ⟨0x2a53, "DOUBLE LOGICAL ", ["AND/OR"]⟩,
  ⟨0x2a55, "TWO INTERSECTING LOGICAL ", ["AND/OR"]⟩,
  ⟨0x2a57, "SLOPING LARGE ", ["OR/AND"]⟩,
  ⟨0x2a59, "LOGICAL ", ["OR OVERLAPPING LOGICAL AND/AND WITH MIDDLE STEM/OR WITH MIDDLE STEM",
    "AND WITH HORIZONTAL DASH/OR WITH HORIZONTAL DASH/AND WITH DOUBLE OVERBAR/AND WITH UNDERBAR",
    "AND WITH DOUBLE UNDERBAR"]⟩,
  ⟨0x2a61, "", ["SMALL VEE WITH UNDERBAR/LOGICAL OR WITH DOUBLE OVERBAR"]⟩,
  ⟨0x2a63, "", ["LOGICAL OR WITH DOUBLE UNDERBAR/Z NOTATION DOMAIN ANTIRESTRICTION",
    "Z NOTATION RANGE ANTIRESTRICTION/EQUALS SIGN WITH DOT BELOW/IDENTICAL WITH DOT ABOVE"]⟩,
  ⟨0x2a68, "TRIPLE HORIZONTAL BAR WITH ", ["DOUBLE VERTICAL STROKE/TRIPLE VERTICAL STROKE"]⟩,
  ⟨0x2a6a, "", ["TILDE OPERATOR WITH DOT ABOVE/TILDE OPERATOR WITH RISING DOTS",
    "SIMILAR MINUS SIMILAR"]⟩,
  ⟨0x2a6d, "", ["CONGRUENT WITH DOT ABOVE/EQUALS WITH ASTERISK",
    "ALMOST EQUAL TO WITH CIRCUMFLEX ACCENT/APPROXIMATELY EQUAL OR EQUAL TO",
    "EQUALS SIGN ABOVE PLUS SIGN"]⟩,
  ⟨0x2a72, "", ["PLUS SIGN ABOVE EQUALS SIGN/EQUALS SIGN ABOVE TILDE OPERATOR",
    "DOUBLE COLON EQUAL/TWO CONSECUTIVE EQUALS SIGNS/THREE CONSECUTIVE EQUALS SIGNS"]⟩,
  ⟨0x2a77, "", ["EQUALS SIGN WITH TWO DOTS ABOVE AND TWO DOTS BELOW",
    "EQUIVALENT WITH FOUR DOTS ABOVE/LESS-THAN WITH CIRCLE INSIDE",
    "GREATER-THAN WITH CIRCLE INSIDE/LESS-THAN WITH QUESTION MARK ABOVE"]⟩,
  ⟨0x2a7c, "", ["GREATER-THAN WITH QUESTION MARK ABOVE/LESS-THAN OR SLANTED EQUAL TO",
    "GREATER-THAN OR SLANTED EQUAL TO/LESS-THAN OR SLANTED EQUAL TO WITH DOT INSIDE",
    "GREATER-THAN OR SLANTED EQUAL TO WITH DOT INSIDE"]⟩,
  ⟨0x2a81, "", ["LESS-THAN OR SLANTED EQUAL TO WITH DOT ABOVE",
    "GREATER-THAN OR SLANTED EQUAL TO WITH DOT ABOVE",
    "LESS-THAN OR SLANTED EQUAL TO WITH DOT ABOVE RIGHT",
    "GREATER-THAN OR SLANTED EQUAL TO WITH DOT ABOVE LEFT/LESS-THAN OR APPROXIMATE"]⟩,
  ⟨0x2a86, "", ["GREATER-THAN OR APPROXIMATE/LESS-THAN AND SINGLE-LINE NOT EQUAL TO",
    "GREATER-THAN AND SINGLE-LINE NOT EQUAL TO/LESS-THAN AND NOT APPROXIMATE",
    "GREATER-THAN AND NOT APPROXIMATE"]⟩,
  ⟨0x2a8b, "", ["LESS-THAN ABOVE DOUBLE-LINE EQUAL ABOVE GREATER-THAN",
    "GREATER-THAN ABOVE DOUBLE-LINE EQUAL ABOVE LESS-THAN/LESS-THAN ABOVE SIMILAR OR EQUAL",
    "GREATER-THAN ABOVE SIMILAR OR EQUAL/LESS-THAN ABOVE SIMILAR ABOVE GREATER-THAN"]⟩,
  ⟨0x2a90, "", ["GREATER-THAN ABOVE SIMILAR ABOVE LESS-THAN",
    "LESS-THAN ABOVE GREATER-THAN ABOVE DOUBLE-LINE EQUAL",
    "GREATER-THAN ABOVE LESS-THAN ABOVE DOUBLE-LINE EQUAL",
    "LESS-THAN ABOVE SLANTED EQUAL ABOVE GREATER-THAN ABOVE SLANTED EQUAL",
    "GREATER-THAN ABOVE SLANTED EQUAL ABOVE LESS-THAN ABOVE SLANTED EQUAL"]⟩,
  ⟨0x2a95, "SLANTED EQUAL TO OR ", ["LESS-THAN/GREATER-THAN/LESS-THAN WITH DOT INSIDE",
    "GREATER-THAN WITH DOT INSIDE"]⟩,
  ⟨0x2a99, "DOUBLE-LINE ", ["EQUAL TO OR LESS-THAN/EQUAL TO OR GREATER-THAN",
    "SLANTED EQUAL TO OR LESS-THAN/SLANTED EQUAL TO OR GREATER-THAN"]⟩,
  ⟨0x2a9d, "SIMILAR ", ["OR LESS-THAN/OR GREATER-THAN/ABOVE LESS-THAN ABOVE EQUALS SIGN",
    "ABOVE GREATER-THAN ABOVE EQUALS SIGN"]⟩,
  ⟨0x2aa1, "DOUBLE NESTED ", ["LESS-THAN/GREATER-THAN/LESS-THAN WITH UNDERBAR"]⟩,
  ⟨0x2aa4, "", ["GREATER-THAN OVERLAPPING LESS-THAN/GREATER-THAN BESIDE LESS-THAN",
    "LESS-THAN CLOSED BY CURVE"]⟩,
  ⟨0x2aa7, "", ["GREATER-THAN CLOSED BY CURVE/LESS-THAN CLOSED BY CURVE ABOVE SLANTED EQUAL",
    "GREATER-THAN CLOSED BY CURVE ABOVE SLANTED EQUAL/SMALLER THAN/LARGER THAN"]⟩,
  ⟨0x2aac, "", ["SMALLER THAN OR EQUAL TO/LARGER THAN OR EQUAL TO/EQUALS SIGN WITH BUMPY ABOVE",
    "PRECEDES ABOVE SINGLE-LINE EQUALS SIGN/SUCCEEDS ABOVE SINGLE-LINE EQUALS SIGN"]⟩,
  ⟨0x2ab1, "", ["PRECEDES ABOVE SINGLE-LINE NOT EQUAL TO",
    "SUCCEEDS ABOVE SINGLE-LINE NOT EQUAL TO/PRECEDES ABOVE EQUALS SIGN",
    "SUCCEEDS ABOVE EQUALS SIGN/PRECEDES ABOVE NOT EQUAL TO"]⟩,
  ⟨0x2ab6, "", ["SUCCEEDS ABOVE NOT EQUAL TO/PRECEDES ABOVE ALMOST EQUAL TO",
    "SUCCEEDS ABOVE ALMOST EQUAL TO/PRECEDES ABOVE NOT ALMOST EQUAL TO",
    "SUCCEEDS ABOVE NOT ALMOST EQUAL TO"]⟩,
  ⟨0x2abb, "", ["DOUBLE PRECEDES/DOUBLE SUCCEEDS/SUBSET WITH DOT/SUPERSET WITH DOT",
    "SUBSET WITH PLUS SIGN BELOW"]⟩,
  ⟨0x2ac0, "", ["SUPERSET WITH PLUS SIGN BELOW/SUBSET WITH MULTIPLICATION SIGN BELOW",
    "SUPERSET WITH MULTIPLICATION SIGN BELOW/SUBSET OF OR EQUAL TO WITH DOT ABOVE",
    "SUPERSET OF OR EQUAL TO WITH DOT ABOVE"]⟩,
  ⟨0x2ac5, "", ["SUBSET OF ABOVE EQUALS SIGN/SUPERSET OF ABOVE EQUALS SIGN",
    "SUBSET OF ABOVE TILDE OPERATOR/SUPERSET OF ABOVE TILDE OPERATOR",
    "SUBSET OF ABOVE ALMOST EQUAL TO"]⟩,
  ⟨0x2aca, "", ["SUPERSET OF ABOVE ALMOST EQUAL TO/SUBSET OF ABOVE NOT EQUAL TO",
    "SUPERSET OF ABOVE NOT EQUAL TO/SQUARE LEFT OPEN BOX OPERATOR",
    "SQUARE RIGHT OPEN BOX OPERATOR"]⟩,
  ⟨0x2acf, "CLOSED ", ["SUBSET/SUPERSET/SUBSET OR EQUAL TO/SUPERSET OR EQUAL TO"]⟩,
  ⟨0x2ad3, "", ["SUBSET ABOVE SUPERSET/SUPERSET ABOVE SUBSET/SUBSET ABOVE SUBSET",
    "SUPERSET ABOVE SUPERSET/SUPERSET BESIDE SUBSET"]⟩,
  ⟨0x2ad8, "", ["SUPERSET BESIDE AND JOINED BY DASH WITH SUBSET/ELEMENT OF OPENING DOWNWARDS",
    "PITCHFORK WITH TEE TOP/TRANSVERSAL INTERSECTION/FORKING"]⟩,
  ⟨0x2add, "", ["NONFORKING/SHORT LEFT TACK/SHORT DOWN TACK/SHORT UP TACK/PERPENDICULAR WITH S"]⟩,
  ⟨0x2ae2, "", ["VERTICAL BAR TRIPLE RIGHT TURNSTILE/DOUBLE VERTICAL BAR LEFT TURNSTILE",
    "VERTICAL BAR DOUBLE LEFT TURNSTILE/DOUBLE VERTICAL BAR DOUBLE LEFT TURNSTILE",
    "LONG DASH FROM LEFT MEMBER OF DOUBLE VERTICAL"]⟩,
  ⟨0x2ae7, "SHORT ", ["DOWN TACK WITH OVERBAR/UP TACK WITH UNDERBAR",
    "UP TACK ABOVE SHORT DOWN TACK"]⟩,
  ⟨0x2aea, "DOUBLE ", ["DOWN TACK/UP TACK/STROKE NOT SIGN"]⟩,
  ⟨0x2aed, "", ["REVERSED DOUBLE STROKE NOT SIGN/DOES NOT DIVIDE WITH REVERSED NEGATION SLASH",
    "VERTICAL LINE WITH CIRCLE ABOVE/VERTICAL LINE WITH CIRCLE BELOW",
    "DOWN TACK WITH CIRCLE BELOW"]⟩,
  ⟨0x2af2, "PARALLEL WITH ", ["HORIZONTAL STROKE/TILDE OPERATOR"]⟩,
  ⟨0x2af4, "TRIPLE ", ["VERTICAL BAR BINARY RELATION/VERTICAL BAR WITH HORIZONTAL STROKE",
    "COLON OPERATOR/NESTED LESS-THAN/NESTED GREATER-THAN"]⟩,
  ⟨0x2af9, "DOUBLE-LINE SLANTED ", ["LESS-THAN OR EQUAL TO/GREATER-THAN OR EQUAL TO"]⟩,
  ⟨0x2afb, "", ["TRIPLE SOLIDUS BINARY RELATION/LARGE TRIPLE VERTICAL BAR OPERATOR",
    "DOUBLE SOLIDUS OPERATOR/WHITE VERTICAL BAR"]⟩,
  ⟨0x2aff, "", ["N-ARY WHITE VERTICAL BAR/NORTH EAST WHITE ARROW/NORTH WEST WHITE ARROW",
    "SOUTH EAST WHITE ARROW/SOUTH WEST WHITE ARROW"]⟩,
  ⟨0x2b04, "", ["LEFT RIGHT WHITE ARROW/LEFTWARDS BLACK ARROW/UPWARDS BLACK ARROW",
    "DOWNWARDS BLACK ARROW/NORTH EAST BLACK ARROW"]⟩,
  ⟨0x2b09, "", ["NORTH WEST BLACK ARROW/SOUTH EAST BLACK ARROW/SOUTH WEST BLACK ARROW",
    "LEFT RIGHT BLACK ARROW/UP DOWN BLACK ARROW"]⟩,
  ⟨0x2b0e, "RIGHTWARDS ARROW WITH TIP ", ["DOWNWARDS/UPWARDS"]⟩,
  ⟨0x2b10, "LEFTWARDS ARROW WITH TIP ", ["DOWNWARDS/UPWARDS"]⟩,
  ⟨0x2b12, "SQUARE WITH ", ["TOP HALF BLACK/BOTTOM HALF BLACK/UPPER RIGHT DIAGONAL HALF BLACK",
    "LOWER LEFT DIAGONAL HALF BLACK"]⟩,
  ⟨0x2b16, "DIAMOND WITH ", ["LEFT HALF BLACK/RIGHT HALF BLACK/TOP HALF BLACK/BOTTOM HALF BLACK"]⟩,
  ⟨0x2b1a, "", ["DOTTED SQUARE/BLACK LARGE SQUARE/WHITE LARGE SQUARE/BLACK VERY SMALL SQUARE",
    "WHITE VERY SMALL SQUARE"]⟩,
  ⟨0x2b1f, "", ["BLACK PENTAGON/WHITE PENTAGON/WHITE HEXAGON/BLACK HEXAGON",
    "HORIZONTAL BLACK HEXAGON"]⟩,
  ⟨0x2b24, "", ["BLACK LARGE CIRCLE/BLACK MEDIUM DIAMOND/WHITE MEDIUM DIAMOND",
    "BLACK MEDIUM LOZENGE/WHITE MEDIUM LOZENGE"]⟩,
  ⟨0x2b29, "BLACK SMALL ", ["DIAMOND/LOZENGE"]⟩,
  ⟨0x2b2b, "", ["WHITE SMALL LOZENGE/BLACK HORIZONTAL ELLIPSE/WHITE HORIZONTAL ELLIPSE",
    "BLACK VERTICAL ELLIPSE"]⟩,
  ⟨0x2b2f, "", ["WHITE VERTICAL ELLIPSE/LEFT ARROW WITH SMALL CIRCLE/THREE LEFTWARDS ARROWS",
    "LEFT ARROW WITH CIRCLED PLUS/LONG LEFTWARDS SQUIGGLE ARROW"]⟩,
  ⟨0x2b34, "LEFTWARDS TWO-HEADED ", ["ARROW WITH VERTICAL STROKE",
    "ARROW WITH DOUBLE VERTICAL STROKE/ARROW FROM BAR/TRIPLE DASH ARROW"]⟩,
  ⟨0x2b38, "LEFTWARDS ARROW WITH ", ["DOTTED STEM/TAIL WITH VERTICAL STROKE",
    "TAIL WITH DOUBLE VERTICAL STROKE"]⟩,
  ⟨0x2b3b, "LEFTWARDS TWO-HEADED ARROW WITH ", ["TAIL/TAIL WITH VERTICAL STROKE",
    "TAIL WITH DOUBLE VERTICAL STROKE"]⟩,
  ⟨0x2b3e, "", ["LEFTWARDS ARROW THROUGH X/WAVE ARROW POINTING DIRECTLY LEFT",
    "EQUALS SIGN ABOVE LEFTWARDS ARROW/REVERSE TILDE OPERATOR ABOVE LEFTWARDS ARROW",
    "LEFTWARDS ARROW ABOVE REVERSE ALMOST EQUAL TO"]⟩,
  ⟨0x2b43, "RIGHTWARDS ARROW THROUGH ", ["GREATER-THAN/SUPERSET"]⟩,
  ⟨0x2b45, "", ["LEFTWARDS QUADRUPLE ARROW/RIGHTWARDS QUADRUPLE ARROW",
    "REVERSE TILDE OPERATOR ABOVE RIGHTWARDS ARROW",
    "RIGHTWARDS ARROW ABOVE REVERSE ALMOST EQUAL TO/TILDE OPERATOR ABOVE LEFTWARDS ARROW"]⟩,
  ⟨0x2b4a, "LEFTWARDS ARROW ABOVE ", ["ALMOST EQUAL TO/REVERSE TILDE OPERATOR"]⟩,
  ⟨0x2b4c, "", ["RIGHTWARDS ARROW ABOVE REVERSE TILDE OPERATOR",
    "DOWNWARDS TRIANGLE-HEADED ZIGZAG ARROW/SHORT SLANTED NORTH ARROW",
    "SHORT BACKSLANTED SOUTH ARROW"]⟩,
  ⟨0x2b50, "", ["WHITE MEDIUM STAR/BLACK SMALL STAR/WHITE SMALL STAR",
    "BLACK RIGHT-POINTING PENTAGON/WHITE RIGHT-POINTING PENTAGON"]⟩,
  ⟨0x2b55, "HEAVY ", ["LARGE CIRCLE/OVAL WITH OVAL INSIDE/CIRCLE WITH CIRCLE INSIDE/CIRCLE",
    "CIRCLED SALTIRE"]⟩,
  ⟨0x2b5a, "", ["SLANTED NORTH ARROW WITH HOOKED HEAD/BACKSLANTED SOUTH ARROW WITH HOOKED TAIL",
    "SLANTED NORTH ARROW WITH HORIZONTAL TAIL/BACKSLANTED SOUTH ARROW WITH HORIZONTAL TAIL"]⟩,
  ⟨0x2b5e, "", ["BENT ARROW POINTING DOWNWARDS THEN NORTH EAST",
    "SHORT BENT ARROW POINTING DOWNWARDS THEN NORTH EAST/LEFTWARDS TRIANGLE-HEADED ARROW",
    "UPWARDS TRIANGLE-HEADED ARROW/RIGHTWARDS TRIANGLE-HEADED ARROW"]⟩,
  ⟨0x2b63, "", ["DOWNWARDS TRIANGLE-HEADED ARROW/LEFT RIGHT TRIANGLE-HEADED ARROW",
    "UP DOWN TRIANGLE-HEADED ARROW/NORTH WEST TRIANGLE-HEADED ARROW",
    "NORTH EAST TRIANGLE-HEADED ARROW"]⟩,
  ⟨0x2b68, "SOUTH ", ["EAST TRIANGLE-HEADED ARROW/WEST TRIANGLE-HEADED ARROW"]⟩,
  ⟨0x2b6a, "", ["LEFTWARDS TRIANGLE-HEADED DASHED ARROW/UPWARDS TRIANGLE-HEADED DASHED ARROW",
    "RIGHTWARDS TRIANGLE-HEADED DASHED ARROW/DOWNWARDS TRIANGLE-HEADED DASHED ARROW",
    "CLOCKWISE TRIANGLE-HEADED OPEN CIRCLE ARROW"]⟩,
  ⟨0x2b6f, "", ["ANTICLOCKWISE TRIANGLE-HEADED OPEN CIRCLE ARROW",
    "LEFTWARDS TRIANGLE-HEADED ARROW TO BAR/UPWARDS TRIANGLE-HEADED ARROW TO BAR",
    "RIGHTWARDS TRIANGLE-HEADED ARROW TO BAR/DOWNWARDS TRIANGLE-HEADED ARROW TO BAR"]⟩,
  ⟨0x2b76, "NORTH ", ["WEST TRIANGLE-HEADED ARROW TO BAR/EAST TRIANGLE-HEADED ARROW TO BAR"]⟩,
  ⟨0x2b78, "", ["SOUTH EAST TRIANGLE-HEADED ARROW TO BAR",
    "SOUTH WEST TRIANGLE-HEADED ARROW TO BAR",
    "LEFTWARDS TRIANGLE-HEADED ARROW WITH DOUBLE HORIZONTAL STROKE",
    "UPWARDS TRIANGLE-HEADED ARROW WITH DOUBLE HORIZONTAL STROKE",
    "RIGHTWARDS TRIANGLE-HEADED ARROW WITH DOUBLE HORIZONTAL STROKE"]⟩,
  ⟨0x2b7d, "", ["DOWNWARDS TRIANGLE-HEADED ARROW WITH DOUBLE HORIZONTAL STROKE",
    "HORIZONTAL TAB KEY/VERTICAL TAB KEY",
    "LEFTWARDS TRIANGLE-HEADED ARROW OVER RIGHTWARDS TRIANGLE-HEADED ARROW",
    "UPWARDS TRIANGLE-HEADED ARROW LEFTWARDS OF DOWNWARDS TRIANGLE-HEADED ARROW"]⟩,
  ⟨0x2b82, "", ["RIGHTWARDS TRIANGLE-HEADED ARROW OVER LEFTWARDS TRIANGLE-HEADED ARROW",
    "DOWNWARDS TRIANGLE-HEADED ARROW LEFTWARDS OF UPWARDS TRIANGLE-HEADED ARROW",
    "LEFTWARDS TRIANGLE-HEADED PAIRED ARROWS/UPWARDS TRIANGLE-HEADED PAIRED ARROWS",
    "RIGHTWARDS TRIANGLE-HEADED PAIRED ARROWS"]⟩,
  ⟨0x2b87, "", ["DOWNWARDS TRIANGLE-HEADED PAIRED ARROWS/LEFTWARDS BLACK CIRCLED WHITE ARROW",
    "UPWARDS BLACK CIRCLED WHITE ARROW/RIGHTWARDS BLACK CIRCLED WHITE ARROW",
    "DOWNWARDS BLACK CIRCLED WHITE ARROW"]⟩,
  ⟨0x2b8c, "ANTICLOCKWISE TRIANGLE-HEADED ", ["RIGHT U-SHAPED ARROW/BOTTOM U-SHAPED ARROW",
    "LEFT U-SHAPED ARROW/TOP U-SHAPED ARROW"]⟩,
  ⟨0x2b90, "RETURN ", ["LEFT/RIGHT"]⟩,
  ⟨0x2b92, "", ["NEWLINE LEFT/NEWLINE RIGHT/FOUR CORNER ARROWS CIRCLING ANTICLOCKWISE",
    "RIGHTWARDS BLACK ARROW"]⟩,
  ⟨0x2b97, "", ["SYMBOL FOR TYPE A ELECTRONICS",
    "THREE-D TOP-LIGHTED LEFTWARDS EQUILATERAL ARROWHEAD",
    "THREE-D RIGHT-LIGHTED UPWARDS EQUILATERAL ARROWHEAD",
    "THREE-D TOP-LIGHTED RIGHTWARDS EQUILATERAL ARROWHEAD",
    "THREE-D LEFT-LIGHTED DOWNWARDS EQUILATERAL ARROWHEAD"]⟩,
  ⟨0x2b9c, "BLACK ", ["LEFTWARDS EQUILATERAL ARROWHEAD/UPWARDS EQUILATERAL ARROWHEAD",
    "RIGHTWARDS EQUILATERAL ARROWHEAD/DOWNWARDS EQUILATERAL ARROWHEAD"]⟩,
  ⟨0x2ba0, "DOWNWARDS TRIANGLE-HEADED ARROW WITH LONG TIP ", ["LEFTWARDS/RIGHTWARDS"]⟩,
  ⟨0x2ba2, "UPWARDS TRIANGLE-HEADED ARROW WITH LONG TIP ", ["LEFTWARDS/RIGHTWARDS"]⟩,
  ⟨0x2ba4, "", ["LEFTWARDS TRIANGLE-HEADED ARROW WITH LONG TIP UPWARDS",
    "RIGHTWARDS TRIANGLE-HEADED ARROW WITH LONG TIP UPWARDS",
    "LEFTWARDS TRIANGLE-HEADED ARROW WITH LONG TIP DOWNWARDS",
    "RIGHTWARDS TRIANGLE-HEADED ARROW WITH LONG TIP DOWNWARDS"]⟩,
  ⟨0x2ba8, "BLACK CURVED ", ["DOWNWARDS AND LEFTWARDS ARROW/DOWNWARDS AND RIGHTWARDS ARROW",
    "UPWARDS AND LEFTWARDS ARROW/UPWARDS AND RIGHTWARDS ARROW/LEFTWARDS AND UPWARDS ARROW",
    "RIGHTWARDS AND UPWARDS ARROW/LEFTWARDS AND DOWNWARDS ARROW/RIGHTWARDS AND DOWNWARDS ARROW"]⟩,
  ⟨0x2bb0, "RIBBON ARROW ", ["DOWN LEFT/DOWN RIGHT/UP LEFT/UP RIGHT/LEFT UP/RIGHT UP/LEFT DOWN",
    "RIGHT DOWN"]⟩,
  ⟨0x2bb8, "", ["UPWARDS WHITE ARROW FROM BAR WITH HORIZONTAL BAR",
    "UP ARROWHEAD IN A RECTANGLE BOX/OVERLAPPING WHITE SQUARES"]⟩,
  ⟨0x2bbb, "", ["OVERLAPPING WHITE AND BLACK SQUARES/OVERLAPPING BLACK SQUARES",
    "BALLOT BOX WITH LIGHT X/CIRCLED X/CIRCLED BOLD X"]⟩,
  ⟨0x2bc0, "", ["BLACK SQUARE CENTRED/BLACK DIAMOND CENTRED/TURNED BLACK PENTAGON",
    "HORIZONTAL BLACK OCTAGON/BLACK OCTAGON"]⟩,
  ⟨0x2bc5, "BLACK MEDIUM ", ["UP-POINTING TRIANGLE CENTRED/DOWN-POINTING TRIANGLE CENTRED",
    "LEFT-POINTING TRIANGLE CENTRED/RIGHT-POINTING TRIANGLE CENTRED"]⟩,
  ⟨0x2bc9, "", ["NEPTUNE FORM TWO/TOP HALF BLACK CIRCLE/BOTTOM HALF BLACK CIRCLE",
    "LIGHT FOUR POINTED BLACK CUSP/ROTATED LIGHT FOUR POINTED BLACK CUSP"]⟩,
  ⟨0x2bce, "", ["WHITE FOUR POINTED CUSP/ROTATED WHITE FOUR POINTED CUSP",
    "SQUARE POSITION INDICATOR/UNCERTAINTY SIGN/GROUP MARK"]⟩,
  ⟨0x2bd3, "PLUTO FORM ", ["TWO/THREE/FOUR/FIVE"]⟩,
  ⟨0x2bd7, "", ["TRANSPLUTO/PROSERPINA/ASTRAEA"]⟩,
  ⟨0x2bda, "", ["HYGIEA/PHOLUS/NESSUS/WHITE MOON SELENA/BLACK DIAMOND ON CROSS"]⟩,
  ⟨0x2bdf, "", ["TRUE LIGHT MOON ARTA/CUPIDO/HADES/ZEUS/KRONOS"]⟩,
  ⟨0x2be4, "", ["APOLLON/ADMETOS/VULCANUS/POSEIDON/LEFT HALF BLACK STAR"]⟩,
  ⟨0x2be9, "", ["RIGHT HALF BLACK STAR/STAR WITH LEFT HALF BLACK/STAR WITH RIGHT HALF BLACK",
    "LEFTWARDS TWO-HEADED ARROW WITH TRIANGLE ARROWHEADS",
    "UPWARDS TWO-HEADED ARROW WITH TRIANGLE ARROWHEADS"]⟩,
  ⟨0x2bee, "", ["RIGHTWARDS TWO-HEADED ARROW WITH TRIANGLE ARROWHEADS",
    "DOWNWARDS TWO-HEADED ARROW WITH TRIANGLE ARROWHEADS/ERIS FORM ONE/ERIS FORM TWO/SEDNA"]⟩,
  ⟨0x2bf3, "RUSSIAN ASTROLOGICAL SYMBOL ", ["VIGINTILE/NOVILE/QUINTILE/BINOVILE/SENTAGON",
    "TREDECILE"]⟩,
  ⟨0x2bf9, "", ["EQUALS SIGN WITH INFINITY BELOW/UNITED SYMBOL"]⟩,
  ⟨0x2bfb, "", ["SEPARATED SYMBOL/DOUBLED SYMBOL/PASSED SYMBOL/REVERSED RIGHT ANGLE",
    "HELLSCHREIBER PAUSE SYMBOL"]⟩,
  ⟨0x2c00, "GLAGOLITIC CAPITAL LETTER ", ["AZU/BUKY/VEDE/GLAGOLI/DOBRO/YESTU/ZHIVETE/DZELO",
    "ZEMLJA/IZHE/INITIAL IZHE/I/DJERVI/KAKO/LJUDIJE/MYSLITE/NASHI/ONU/POKOJI/RITSI/SLOVO/TVRIDO",
    "UKU/FRITU/HERU/OTU/PE/SHTA/TSI/CHRIVI/SHA/YERU/YERI/YATI/SPIDERY HA/YU/SMALL YUS",
    "SMALL YUS WITH TAIL/YO/IOTATED SMALL YUS/BIG YUS/IOTATED BIG YUS/FITA/IZHITSA/SHTAPIC",
    "TROKUTASTI A/LATINATE MYSLITE/CAUDATE CHRIVI"]⟩,
  ⟨0x2c30, "GLAGOLITIC SMALL LETTER ", ["AZU/BUKY/VEDE/GLAGOLI/DOBRO/YESTU/ZHIVETE/DZELO/ZEMLJA",
    "IZHE/INITIAL IZHE/I/DJERVI/KAKO/LJUDIJE/MYSLITE/NASHI/ONU/POKOJI/RITSI/SLOVO/TVRIDO/UKU",
    "FRITU/HERU/OTU/PE/SHTA/TSI/CHRIVI/SHA/YERU/YERI/YATI/SPIDERY HA/YU/SMALL YUS",
    "SMALL YUS WITH TAIL/YO/IOTATED SMALL YUS/BIG YUS/IOTATED BIG YUS/FITA/IZHITSA/SHTAPIC",
    "TROKUTASTI A/LATINATE MYSLITE/CAUDATE CHRIVI"]⟩,
  ⟨0x2c60, "LATIN ", ["CAPITAL LETTER L WITH DOUBLE BAR/SMALL LETTER L WITH DOUBLE BAR",
    "CAPITAL LETTER L WITH MIDDLE TILDE/CAPITAL LETTER P WITH STROKE/CAPITAL LETTER R WITH TAIL",
    "SMALL LETTER A WITH STROKE/SMALL LETTER T WITH DIAGONAL STROKE",
    "CAPITAL LETTER H WITH DESCENDER/SMALL LETTER H WITH DESCENDER",
    "CAPITAL LETTER K WITH DESCENDER/SMALL LETTER K WITH DESCENDER",
    "CAPITAL LETTER Z WITH DESCENDER/SMALL LETTER Z WITH DESCENDER/CAPITAL LETTER ALPHA",
    "CAPITAL LETTER M WITH HOOK/CAPITAL LETTER TURNED A/CAPITAL LETTER TURNED ALPHA",
    "SMALL LETTER V WITH RIGHT HOOK/CAPITAL LETTER W WITH HOOK/SMALL LETTER W WITH HOOK",
    "SMALL LETTER V WITH CURL/CAPITAL LETTER HALF H"]⟩,
  ⟨0x2c76, "LATIN SMALL LETTER ", ["HALF H/TAILLESS PHI/E WITH NOTCH/TURNED R WITH TAIL",
    "O WITH LOW RING INSIDE"]⟩,
  ⟨0x2c7b, "", ["LATIN LETTER SMALL CAPITAL TURNED E/LATIN SUBSCRIPT SMALL LETTER J",
    "MODIFIER LETTER CAPITAL V/LATIN CAPITAL LETTER S WITH SWASH TAIL",
    "LATIN CAPITAL LETTER Z WITH SWASH TAIL"]⟩,
  ⟨0x2c80, "COPTIC ", ["CAPITAL LETTER ALFA/SMALL LETTER ALFA/CAPITAL LETTER VIDA",
    "SMALL LETTER VIDA/CAPITAL LETTER GAMMA/SMALL LETTER GAMMA/CAPITAL LETTER DALDA",
    "SMALL LETTER DALDA/CAPITAL LETTER EIE/SMALL LETTER EIE/CAPITAL LETTER SOU/SMALL LETTER SOU",
    "CAPITAL LETTER ZATA/SMALL LETTER ZATA/CAPITAL LETTER HATE/SMALL LETTER HATE",
    "CAPITAL LETTER THETHE/SMALL LETTER THETHE/CAPITAL LETTER IAUDA/SMALL LETTER IAUDA",
    "CAPITAL LETTER KAPA/SMALL LETTER KAPA/CAPITAL LETTER LAULA/SMALL LETTER LAULA",
    "CAPITAL LETTER MI/SMALL LETTER MI/CAPITAL LETTER NI/SMALL LETTER NI/CAPITAL LETTER KSI",
    "SMALL LETTER KSI/CAPITAL LETTER O/SMALL LETTER O/CAPITAL LETTER PI/SMALL LETTER PI",
    "CAPITAL LETTER RO/SMALL LETTER RO/CAPITAL LETTER SIMA/SMALL LETTER SIMA/CAPITAL LETTER TAU",
    "SMALL LETTER TAU/CAPITAL LETTER UA/SMALL LETTER UA/CAPITAL LETTER FI/SMALL LETTER FI",
    "CAPITAL LETTER KHI/SMALL LETTER KHI/CAPITAL LETTER PSI/SMALL LETTER PSI/CAPITAL LETTER OOU",
    "SMALL LETTER OOU/CAPITAL LETTER DIALECT-P ALEF/SMALL LETTER DIALECT-P ALEF",
    "CAPITAL LETTER OLD COPTIC AIN/SMALL LETTER OLD COPTIC AIN/CAPITAL LETTER CRYPTOGRAMMIC EIE",
    "SMALL LETTER CRYPTOGRAMMIC EIE/CAPITAL LETTER DIALECT-P KAPA/SMALL LETTER DIALECT-P KAPA",
    "CAPITAL LETTER DIALECT-P NI/SMALL LETTER DIALECT-P NI/CAPITAL LETTER CRYPTOGRAMMIC NI",
    "SMALL LETTER CRYPTOGRAMMIC NI/CAPITAL LETTER OLD COPTIC OOU/SMALL LETTER OLD COPTIC OOU",
    "CAPITAL LETTER SAMPI/SMALL LETTER SAMPI/CAPITAL LETTER CROSSED SHEI",
    "SMALL LETTER CROSSED SHEI/CAPITAL LETTER OLD COPTIC SHEI/SMALL LETTER OLD COPTIC SHEI",
    "CAPITAL LETTER OLD COPTIC ESH/SMALL LETTER OLD COPTIC ESH/CAPITAL LETTER AKHMIMIC KHEI",
    "SMALL LETTER AKHMIMIC KHEI/CAPITAL LETTER DIALECT-P HORI/SMALL LETTER DIALECT-P HORI",
    "CAPITAL LETTER OLD COPTIC HORI/SMALL LETTER OLD COPTIC HORI/CAPITAL LETTER OLD COPTIC HA",
    "SMALL LETTER OLD COPTIC HA/CAPITAL LETTER L-SHAPED HA/SMALL LETTER L-SHAPED HA",
    "CAPITAL LETTER OLD COPTIC HEI/SMALL LETTER OLD COPTIC HEI/CAPITAL LETTER OLD COPTIC HAT",
    "SMALL LETTER OLD COPTIC HAT/CAPITAL LETTER OLD COPTIC GANGIA",
    "SMALL LETTER OLD COPTIC GANGIA/CAPITAL LETTER OLD COPTIC DJA/SMALL LETTER OLD COPTIC DJA",
    "CAPITAL LETTER OLD COPTIC SHIMA/SMALL LETTER OLD COPTIC SHIMA",
    "CAPITAL LETTER OLD NUBIAN SHIMA/SMALL LETTER OLD NUBIAN SHIMA",
    "CAPITAL LETTER OLD NUBIAN NGI/SMALL LETTER OLD NUBIAN NGI/CAPITAL LETTER OLD NUBIAN NYI",
    "SMALL LETTER OLD NUBIAN NYI/CAPITAL LETTER OLD NUBIAN WAU/SMALL LETTER OLD NUBIAN WAU",
    "SYMBOL KAI/SYMBOL MI RO/SYMBOL PI RO/SYMBOL STAUROS/SYMBOL TAU RO/SYMBOL KHI RO",
    "SYMBOL SHIMA SIMA/CAPITAL LETTER CRYPTOGRAMMIC SHEI/SMALL LETTER CRYPTOGRAMMIC SHEI",
    "CAPITAL LETTER CRYPTOGRAMMIC GANGIA/SMALL LETTER CRYPTOGRAMMIC GANGIA/COMBINING NI ABOVE",
    "COMBINING SPIRITUS ASPER/COMBINING SPIRITUS LENIS/CAPITAL LETTER BOHAIRIC KHEI",
    "SMALL LETTER BOHAIRIC KHEI"]⟩,
  ⟨0x2cf9, "COPTIC OLD NUBIAN ", ["FULL STOP/DIRECT QUESTION MARK/INDIRECT QUESTION MARK",
    "VERSE DIVIDER"]⟩,
  ⟨0x2cfd, "COPTIC ", ["FRACTION ONE HALF/FULL STOP/MORPHOLOGICAL DIVIDER"]⟩,
  ⟨0x2d00, "GEORGIAN SMALL LETTER ", ["AN/BAN/GAN/DON/EN/VIN/ZEN/TAN/IN/KAN/LAS/MAN/NAR/ON/PAR",
    "ZHAR/RAE/SAN/TAR/UN/PHAR/KHAR/GHAN/QAR/SHIN/CHIN/CAN/JIL/CIL/CHAR/XAN/JHAN/HAE/HE/HIE/WE",
    "HAR/HOE"]⟩,
  ⟨0x2d27, "", ["GEORGIAN SMALL LETTER YN"]⟩,
  ⟨0x2d2d, "", ["GEORGIAN SMALL LETTER AEN"]⟩,
  ⟨0x2d30, "TIFINAGH LETTER ", ["YA/YAB/YABH/YAG/YAGHH/BERBER ACADEMY YAJ/YAJ/YAD/YADH/YADD",
    "YADDH/YEY/YAF/YAK/TUAREG YAK/YAKHH/YAH/BERBER ACADEMY YAH/TUAREG YAH/YAHH/YAA/YAKH",
    "TUAREG YAKH/YAQ/TUAREG YAQ/YI/YAZH/AHAGGAR YAZH/TUAREG YAZH/YAL/YAM/YAN/TUAREG YAGN",
    "TUAREG YANG/YAP/YU/YAR/YARR/YAGH/TUAREG YAGH/AYER YAGH/YAS/YASS/YASH/YAT/YATH/YACH/YATT",
    "YAV/YAW/YAY/YAZ/TAWELLEMET YAZ/YAZZ/YE/YO"]⟩,
  ⟨0x2d6f, "TIFINAGH ", ["MODIFIER LETTER LABIALIZATION MARK/SEPARATOR MARK"]⟩,
  ⟨0x2d7f, "", ["TIFINAGH CONSONANT JOINER"]⟩,
  ⟨0x2d80, "ETHIOPIC SYLLABLE ", ["LOA/MOA/ROA/SOA/SHOA/BOA/TOA/COA/NOA/NYOA/GLOTTAL OA/ZOA/DOA",
    "DDOA/JOA/THOA/CHOA/PHOA/POA/GGWA/GGWI/GGWEE/GGWE"]⟩,
  ⟨0x2da0, "ETHIOPIC SYLLABLE ", ["SSA/SSU/SSI/SSAA/SSEE/SSE/SSO"]⟩,
  ⟨0x2da8, "ETHIOPIC SYLLABLE ", ["CCA/CCU/CCI/CCAA/CCEE/CCE/CCO"]⟩,
  ⟨0x2db0, "ETHIOPIC SYLLABLE ", ["ZZA/ZZU/ZZI/ZZAA/ZZEE/ZZE/ZZO"]⟩,
  ⟨0x2db8, "ETHIOPIC SYLLABLE ", ["CCHA/CCHU/CCHI/CCHAA/CCHEE/CCHE/CCHO"]⟩,
  ⟨0x2dc0, "ETHIOPIC SYLLABLE ", ["QYA/QYU/QYI/QYAA/QYEE/QYE/QYO"]⟩,
  ⟨0x2dc8, "ETHIOPIC SYLLABLE ", ["KYA/KYU/KYI/KYAA/KYEE/KYE/KYO"]⟩,
  ⟨0x2dd0, "ETHIOPIC SYLLABLE ", ["XYA/XYU/XYI/XYAA/XYEE/XYE/XYO"]⟩,
  ⟨0x2dd8, "ETHIOPIC SYLLABLE ", ["GYA/GYU/GYI/GYAA/GYEE/GYE/GYO"]⟩,
  ⟨0x2de0, "COMBINING CYRILLIC LETTER ", ["BE/VE/GHE/DE/ZHE/ZE/KA/EL/EM/EN/O/PE/ER/ES/TE/HA/TSE",
    "CHE/SHA/SHCHA/FITA/ES-TE/A/IE/DJERV/MONOGRAPH UK/YAT/YU/IOTIFIED A/LITTLE YUS/BIG YUS",
    "IOTIFIED BIG YUS"]⟩,
  ⟨0x2e00, "", ["RIGHT ANGLE SUBSTITUTION MARKER/RIGHT ANGLE DOTTED SUBSTITUTION MARKER",
    "LEFT SUBSTITUTION BRACKET/RIGHT SUBSTITUTION BRACKET"]⟩,
  ⟨0x2e04, "", ["LEFT DOTTED SUBSTITUTION BRACKET/RIGHT DOTTED SUBSTITUTION BRACKET",
    "RAISED INTERPOLATION MARKER/RAISED DOTTED INTERPOLATION MARKER/DOTTED TRANSPOSITION MARKER"]⟩,
  ⟨0x2e09, "", ["LEFT TRANSPOSITION BRACKET/RIGHT TRANSPOSITION BRACKET/RAISED SQUARE",
    "LEFT RAISED OMISSION BRACKET/RIGHT RAISED OMISSION BRACKET"]⟩,
  ⟨0x2e0e, "", ["EDITORIAL CORONIS/PARAGRAPHOS/FORKED PARAGRAPHOS/REVERSED FORKED PARAGRAPHOS",
    "HYPODIASTOLE"]⟩,
  ⟨0x2e13, "", ["DOTTED OBELOS/DOWNWARDS ANCORA/UPWARDS ANCORA/DOTTED RIGHT-POINTING ANGLE",
    "DOUBLE OBLIQUE HYPHEN"]⟩,
  ⟨0x2e18, "", ["INVERTED INTERROBANG/PALM BRANCH/HYPHEN WITH DIAERESIS/TILDE WITH RING ABOVE",
    "LEFT LOW PARAPHRASE BRACKET"]⟩,
  ⟨0x2e1d, "", ["RIGHT LOW PARAPHRASE BRACKET/TILDE WITH DOT ABOVE/TILDE WITH DOT BELOW",
    "LEFT VERTICAL BAR WITH QUILL/RIGHT VERTICAL BAR WITH QUILL"]⟩,
  ⟨0x2e22, "", ["TOP LEFT HALF BRACKET/TOP RIGHT HALF BRACKET/BOTTOM LEFT HALF BRACKET",
    "BOTTOM RIGHT HALF BRACKET/LEFT SIDEWAYS U BRACKET"]⟩,
  ⟨0x2e27, "", ["RIGHT SIDEWAYS U BRACKET/LEFT DOUBLE PARENTHESIS/RIGHT DOUBLE PARENTHESIS",
    "TWO DOTS OVER ONE DOT PUNCTUATION/ONE DOT OVER TWO DOTS PUNCTUATION"]⟩,
  ⟨0x2e2c, "", ["SQUARED FOUR DOT PUNCTUATION/FIVE DOT MARK/REVERSED QUESTION MARK",
    "VERTICAL TILDE/RING POINT"]⟩,
  ⟨0x2e31, "", ["WORD SEPARATOR MIDDLE DOT/TURNED COMMA/RAISED DOT/RAISED COMMA",
    "TURNED SEMICOLON"]⟩,
  ⟨0x2e36, "", ["DAGGER WITH LEFT GUARD/DAGGER WITH RIGHT GUARD/TURNED DAGGER",
    "TOP HALF SECTION SIGN/TWO-EM DASH"]⟩,
  ⟨0x2e3b, "", ["THREE-EM DASH/STENOGRAPHIC FULL STOP/VERTICAL SIX DOTS/WIGGLY VERTICAL LINE",
    "CAPITULUM"]⟩,
  ⟨0x2e40, "", ["DOUBLE HYPHEN/REVERSED COMMA/DOUBLE LOW-REVERSED-9 QUOTATION MARK",
    "DASH WITH LEFT UPTURN/DOUBLE SUSPENSION MARK"]⟩,
  ⟨0x2e45, "", ["INVERTED LOW KAVYKA/INVERTED LOW KAVYKA WITH KAVYKA ABOVE/LOW KAVYKA",
    "LOW KAVYKA WITH DOT/DOUBLE STACKED COMMA"]⟩,
  ⟨0x2e4a, "", ["DOTTED SOLIDUS/TRIPLE DAGGER/MEDIEVAL COMMA/PARAGRAPHUS MARK",
    "PUNCTUS ELEVATUS MARK"]⟩,
  ⟨0x2e4f, "", ["CORNISH VERSE DIVIDER/CROSS PATTY WITH RIGHT CROSSBAR",
    "CROSS PATTY WITH LEFT CROSSBAR/TIRONIAN SIGN CAPITAL ET/MEDIEVAL EXCLAMATION MARK"]⟩,
  ⟨0x2e54, "", ["MEDIEVAL QUESTION MARK/LEFT SQUARE BRACKET WITH STROKE",
    "RIGHT SQUARE BRACKET WITH STROKE/LEFT SQUARE BRACKET WITH DOUBLE STROKE",
    "RIGHT SQUARE BRACKET WITH DOUBLE STROKE"]⟩,
  ⟨0x2e59, "", ["TOP HALF LEFT PARENTHESIS/TOP HALF RIGHT PARENTHESIS",
    "BOTTOM HALF LEFT PARENTHESIS/BOTTOM HALF RIGHT PARENTHESIS/OBLIQUE HYPHEN"]⟩,
  ⟨0x2e80, "CJK RADICAL ", ["REPEAT/CLIFF/SECOND ONE/SECOND TWO/SECOND THREE/PERSON/BOX/TABLE",
    "KNIFE ONE/KNIFE TWO/DIVINATION/SEAL/SMALL ONE/SMALL TWO/LAME ONE/LAME TWO/LAME THREE",
    "LAME FOUR/SNAKE/THREAD/SNOUT ONE/SNOUT TWO/HEART ONE/HEART TWO/HAND/RAP"]⟩,
  ⟨0x2e9b, "CJK RADICAL ", ["CHOKE/SUN/MOON/DEATH/MOTHER/CIVILIAN/WATER ONE/WATER TWO/FIRE",
    "PAW ONE/PAW TWO/SIMPLIFIED HALF TREE TRUNK/COW/DOG/JADE/BOLT OF CLOTH/EYE/SPIRIT ONE",
    "SPIRIT TWO/BAMBOO/SILK/C-SIMPLIFIED SILK/NET ONE/NET TWO/NET THREE/NET FOUR/MESH/SHEEP/RAM",
    "EWE/OLD/BRUSH ONE/BRUSH TWO/MEAT/MORTAR/GRASS ONE/GRASS TWO/GRASS THREE/TIGER/CLOTHES",
    "WEST ONE/WEST TWO/C-SIMPLIFIED SEE/SIMPLIFIED HORN/HORN/C-SIMPLIFIED SPEECH",
    "C-SIMPLIFIED SHELL/FOOT/C-SIMPLIFIED CART/SIMPLIFIED WALK/WALK ONE/WALK TWO/CITY",
    "C-SIMPLIFIED GOLD/LONG ONE/LONG TWO/C-SIMPLIFIED LONG/C-SIMPLIFIED GATE/MOUND ONE",
    "MOUND TWO/RAIN/BLUE/C-SIMPLIFIED TANNED LEATHER/C-SIMPLIFIED LEAF/C-SIMPLIFIED WIND",
    "C-SIMPLIFIED FLY/EAT ONE/EAT TWO/EAT THREE/C-SIMPLIFIED EAT/HEAD/C-SIMPLIFIED HORSE/BONE",
    "GHOST/C-SIMPLIFIED FISH/C-SIMPLIFIED BIRD/C-SIMPLIFIED SALT/SIMPLIFIED WHEAT",
    "SIMPLIFIED YELLOW/C-SIMPLIFIED FROG/J-SIMPLIFIED EVEN/C-SIMPLIFIED EVEN/J-SIMPLIFIED TOOTH",
    "C-SIMPLIFIED TOOTH/J-SIMPLIFIED DRAGON/C-SIMPLIFIED DRAGON/TURTLE/J-SIMPLIFIED TURTLE",
    "C-SIMPLIFIED TURTLE"]⟩,
  ⟨0x2f00, "KANGXI RADICAL ", ["ONE/LINE/DOT/SLASH/SECOND/HOOK/TWO/LID/MAN/LEGS/ENTER/EIGHT",
    "DOWN BOX/COVER/ICE/TABLE/OPEN BOX/KNIFE/POWER/WRAP/SPOON/RIGHT OPEN BOX/HIDING ENCLOSURE",
    "TEN/DIVINATION/SEAL/CLIFF/PRIVATE/AGAIN/MOUTH/ENCLOSURE/EARTH/SCHOLAR/GO/GO SLOWLY/EVENING",
    "BIG/WOMAN/CHILD/ROOF/INCH/SMALL/LAME/CORPSE/SPROUT/MOUNTAIN/RIVER/WORK/ONESELF/TURBAN/DRY",
    "SHORT THREAD/DOTTED CLIFF/LONG STRIDE/TWO HANDS/SHOOT/BOW/SNOUT/BRISTLE/STEP/HEART/HALBERD",
    "DOOR/HAND/BRANCH/RAP/SCRIPT/DIPPER/AXE/SQUARE/NOT/SUN/SAY/MOON/TREE/LACK/STOP/DEATH/WEAPON",
    "DO NOT/COMPARE/FUR/CLAN/STEAM/WATER/FIRE/CLAW/FATHER/DOUBLE X/HALF TREE TRUNK/SLICE/FANG",
    "COW/DOG/PROFOUND/JADE/MELON/TILE/SWEET/LIFE/USE/FIELD/BOLT OF CLOTH/SICKNESS/DOTTED TENT",
    "WHITE/SKIN/DISH/EYE/SPEAR/ARROW/STONE/SPIRIT/TRACK/GRAIN/CAVE/STAND/BAMBOO/RICE/SILK/JAR",
    "NET/SHEEP/FEATHER/OLD/AND/PLOW/EAR/BRUSH/MEAT/MINISTER/SELF/ARRIVE/MORTAR/TONGUE/OPPOSE",
    "BOAT/STOPPING/COLOR/GRASS/TIGER/INSECT/BLOOD/WALK ENCLOSURE/CLOTHES/WEST/SEE/HORN/SPEECH",
    "VALLEY/BEAN/PIG/BADGER/SHELL/RED/RUN/FOOT/BODY/CART/BITTER/MORNING/WALK/CITY/WINE",
    "DISTINGUISH/VILLAGE/GOLD/LONG/GATE/MOUND/SLAVE/SHORT TAILED BIRD/RAIN/BLUE/WRONG/FACE",
    "LEATHER/TANNED LEATHER/LEEK/SOUND/LEAF/WIND/FLY/EAT/HEAD/FRAGRANT/HORSE/BONE/TALL/HAIR",
    "FIGHT/SACRIFICIAL WINE/CAULDRON/GHOST/FISH/BIRD/SALT/DEER/WHEAT/HEMP/YELLOW/MILLET/BLACK",
    "EMBROIDERY/FROG/TRIPOD/DRUM/RAT/NOSE/EVEN/TOOTH/DRAGON/TURTLE/FLUTE"]⟩,
  ⟨0x2ff0, "IDEOGRAPHIC DESCRIPTION CHARACTER ", ["LEFT TO RIGHT/ABOVE TO BELOW",
    "LEFT TO MIDDLE AND RIGHT/ABOVE TO MIDDLE AND BELOW/FULL SURROUND/SURROUND FROM ABOVE",
    "SURROUND FROM BELOW/SURROUND FROM LEFT/SURROUND FROM UPPER LEFT/SURROUND FROM UPPER RIGHT",
    "SURROUND FROM LOWER LEFT/OVERLAID"]⟩]

end AccessControl.Text
