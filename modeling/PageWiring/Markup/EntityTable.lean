/-!
The named characters of HTML.

Names are grouped by their first letter and listed without it. A name with a semicolon and the same
name without it are two names; only some may be written without.
-/
namespace PageWiring.Markup

/-- The rest of a name, and the characters it stands for. -/
abbrev NamedRest := String × List Nat

private def namesUpperA : List NamedRest := [
  ("Elig", [0xc6]), ("Elig;", [0xc6]), ("MP", [0x26]), ("MP;", [0x26]), ("acute", [0xc1]),
  ("acute;", [0xc1]), ("breve;", [0x102]), ("circ", [0xc2]), ("circ;", [0xc2]), ("cy;", [0x410]),
  ("fr;", [0x1d504]), ("grave", [0xc0]), ("grave;", [0xc0]), ("lpha;", [0x391]),
  ("macr;", [0x100]), ("nd;", [0x2a53]), ("ogon;", [0x104]), ("opf;", [0x1d538]),
  ("pplyFunction;", [0x2061]), ("ring", [0xc5]), ("ring;", [0xc5]), ("scr;", [0x1d49c]),
  ("ssign;", [0x2254]), ("tilde", [0xc3]), ("tilde;", [0xc3]), ("uml", [0xc4]), ("uml;", [0xc4])]

private def namesUpperB : List NamedRest := [
  ("ackslash;", [0x2216]), ("arv;", [0x2ae7]), ("arwed;", [0x2306]), ("cy;", [0x411]),
  ("ecause;", [0x2235]), ("ernoullis;", [0x212c]), ("eta;", [0x392]), ("fr;", [0x1d505]),
  ("opf;", [0x1d539]), ("reve;", [0x2d8]), ("scr;", [0x212c]), ("umpeq;", [0x224e])]

private def namesUpperC : List NamedRest := [
  ("Hcy;", [0x427]), ("OPY", [0xa9]), ("OPY;", [0xa9]), ("acute;", [0x106]), ("ap;", [0x22d2]),
  ("apitalDifferentialD;", [0x2145]), ("ayleys;", [0x212d]), ("caron;", [0x10c]),
  ("cedil", [0xc7]), ("cedil;", [0xc7]), ("circ;", [0x108]), ("conint;", [0x2230]),
  ("dot;", [0x10a]), ("edilla;", [0xb8]), ("enterDot;", [0xb7]), ("fr;", [0x212d]),
  ("hi;", [0x3a7]), ("ircleDot;", [0x2299]), ("ircleMinus;", [0x2296]), ("irclePlus;", [0x2295]),
  ("ircleTimes;", [0x2297]), ("lockwiseContourIntegral;", [0x2232]),
  ("loseCurlyDoubleQuote;", [0x201d]), ("loseCurlyQuote;", [0x2019]), ("olon;", [0x2237]),
  ("olone;", [0x2a74]), ("ongruent;", [0x2261]), ("onint;", [0x222f]),
  ("ontourIntegral;", [0x222e]), ("opf;", [0x2102]), ("oproduct;", [0x2210]),
  ("ounterClockwiseContourIntegral;", [0x2233]), ("ross;", [0x2a2f]), ("scr;", [0x1d49e]),
  ("up;", [0x22d3]), ("upCap;", [0x224d])]

private def namesUpperD : List NamedRest := [
  ("D;", [0x2145]), ("Dotrahd;", [0x2911]), ("Jcy;", [0x402]), ("Scy;", [0x405]),
  ("Zcy;", [0x40f]), ("agger;", [0x2021]), ("arr;", [0x21a1]), ("ashv;", [0x2ae4]),
  ("caron;", [0x10e]), ("cy;", [0x414]), ("el;", [0x2207]), ("elta;", [0x394]),
  ("fr;", [0x1d507]), ("iacriticalAcute;", [0xb4]), ("iacriticalDot;", [0x2d9]),
  ("iacriticalDoubleAcute;", [0x2dd]), ("iacriticalGrave;", [0x60]),
  ("iacriticalTilde;", [0x2dc]), ("iamond;", [0x22c4]), ("ifferentialD;", [0x2146]),
  ("opf;", [0x1d53b]), ("ot;", [0xa8]), ("otDot;", [0x20dc]), ("otEqual;", [0x2250]),
  ("oubleContourIntegral;", [0x222f]), ("oubleDot;", [0xa8]), ("oubleDownArrow;", [0x21d3]),
  ("oubleLeftArrow;", [0x21d0]), ("oubleLeftRightArrow;", [0x21d4]), ("oubleLeftTee;", [0x2ae4]),
  ("oubleLongLeftArrow;", [0x27f8]), ("oubleLongLeftRightArrow;", [0x27fa]),
  ("oubleLongRightArrow;", [0x27f9]), ("oubleRightArrow;", [0x21d2]),
  ("oubleRightTee;", [0x22a8]), ("oubleUpArrow;", [0x21d1]), ("oubleUpDownArrow;", [0x21d5]),
  ("oubleVerticalBar;", [0x2225]), ("ownArrow;", [0x2193]), ("ownArrowBar;", [0x2913]),
  ("ownArrowUpArrow;", [0x21f5]), ("ownBreve;", [0x311]), ("ownLeftRightVector;", [0x2950]),
  ("ownLeftTeeVector;", [0x295e]), ("ownLeftVector;", [0x21bd]), ("ownLeftVectorBar;", [0x2956]),
  ("ownRightTeeVector;", [0x295f]), ("ownRightVector;", [0x21c1]),
  ("ownRightVectorBar;", [0x2957]), ("ownTee;", [0x22a4]), ("ownTeeArrow;", [0x21a7]),
  ("ownarrow;", [0x21d3]), ("scr;", [0x1d49f]), ("strok;", [0x110])]

private def namesUpperE : List NamedRest := [
  ("NG;", [0x14a]), ("TH", [0xd0]), ("TH;", [0xd0]), ("acute", [0xc9]), ("acute;", [0xc9]),
  ("caron;", [0x11a]), ("circ", [0xca]), ("circ;", [0xca]), ("cy;", [0x42d]), ("dot;", [0x116]),
  ("fr;", [0x1d508]), ("grave", [0xc8]), ("grave;", [0xc8]), ("lement;", [0x2208]),
  ("macr;", [0x112]), ("mptySmallSquare;", [0x25fb]), ("mptyVerySmallSquare;", [0x25ab]),
  ("ogon;", [0x118]), ("opf;", [0x1d53c]), ("psilon;", [0x395]), ("qual;", [0x2a75]),
  ("qualTilde;", [0x2242]), ("quilibrium;", [0x21cc]), ("scr;", [0x2130]), ("sim;", [0x2a73]),
  ("ta;", [0x397]), ("uml", [0xcb]), ("uml;", [0xcb]), ("xists;", [0x2203]),
  ("xponentialE;", [0x2147])]

private def namesUpperF : List NamedRest := [
  ("cy;", [0x424]), ("fr;", [0x1d509]), ("illedSmallSquare;", [0x25fc]),
  ("illedVerySmallSquare;", [0x25aa]), ("opf;", [0x1d53d]), ("orAll;", [0x2200]),
  ("ouriertrf;", [0x2131]), ("scr;", [0x2131])]

private def namesUpperG : List NamedRest := [
  ("Jcy;", [0x403]), ("T", [0x3e]), ("T;", [0x3e]), ("amma;", [0x393]), ("ammad;", [0x3dc]),
  ("breve;", [0x11e]), ("cedil;", [0x122]), ("circ;", [0x11c]), ("cy;", [0x413]),
  ("dot;", [0x120]), ("fr;", [0x1d50a]), ("g;", [0x22d9]), ("opf;", [0x1d53e]),
  ("reaterEqual;", [0x2265]), ("reaterEqualLess;", [0x22db]), ("reaterFullEqual;", [0x2267]),
  ("reaterGreater;", [0x2aa2]), ("reaterLess;", [0x2277]), ("reaterSlantEqual;", [0x2a7e]),
  ("reaterTilde;", [0x2273]), ("scr;", [0x1d4a2]), ("t;", [0x226b])]

private def namesUpperH : List NamedRest := [
  ("ARDcy;", [0x42a]), ("acek;", [0x2c7]), ("at;", [0x5e]), ("circ;", [0x124]), ("fr;", [0x210c]),
  ("ilbertSpace;", [0x210b]), ("opf;", [0x210d]), ("orizontalLine;", [0x2500]),
  ("scr;", [0x210b]), ("strok;", [0x126]), ("umpDownHump;", [0x224e]), ("umpEqual;", [0x224f])]

private def namesUpperI : List NamedRest := [
  ("Ecy;", [0x415]), ("Jlig;", [0x132]), ("Ocy;", [0x401]), ("acute", [0xcd]), ("acute;", [0xcd]),
  ("circ", [0xce]), ("circ;", [0xce]), ("cy;", [0x418]), ("dot;", [0x130]), ("fr;", [0x2111]),
  ("grave", [0xcc]), ("grave;", [0xcc]), ("m;", [0x2111]), ("macr;", [0x12a]),
  ("maginaryI;", [0x2148]), ("mplies;", [0x21d2]), ("nt;", [0x222c]), ("ntegral;", [0x222b]),
  ("ntersection;", [0x22c2]), ("nvisibleComma;", [0x2063]), ("nvisibleTimes;", [0x2062]),
  ("ogon;", [0x12e]), ("opf;", [0x1d540]), ("ota;", [0x399]), ("scr;", [0x2110]),
  ("tilde;", [0x128]), ("ukcy;", [0x406]), ("uml", [0xcf]), ("uml;", [0xcf])]

private def namesUpperJ : List NamedRest := [
  ("circ;", [0x134]), ("cy;", [0x419]), ("fr;", [0x1d50d]), ("opf;", [0x1d541]),
  ("scr;", [0x1d4a5]), ("sercy;", [0x408]), ("ukcy;", [0x404])]

private def namesUpperK : List NamedRest := [
  ("Hcy;", [0x425]), ("Jcy;", [0x40c]), ("appa;", [0x39a]), ("cedil;", [0x136]), ("cy;", [0x41a]),
  ("fr;", [0x1d50e]), ("opf;", [0x1d542]), ("scr;", [0x1d4a6])]

private def namesUpperL : List NamedRest := [
  ("Jcy;", [0x409]), ("T", [0x3c]), ("T;", [0x3c]), ("acute;", [0x139]), ("ambda;", [0x39b]),
  ("ang;", [0x27ea]), ("aplacetrf;", [0x2112]), ("arr;", [0x219e]), ("caron;", [0x13d]),
  ("cedil;", [0x13b]), ("cy;", [0x41b]), ("eftAngleBracket;", [0x27e8]), ("eftArrow;", [0x2190]),
  ("eftArrowBar;", [0x21e4]), ("eftArrowRightArrow;", [0x21c6]), ("eftCeiling;", [0x2308]),
  ("eftDoubleBracket;", [0x27e6]), ("eftDownTeeVector;", [0x2961]), ("eftDownVector;", [0x21c3]),
  ("eftDownVectorBar;", [0x2959]), ("eftFloor;", [0x230a]), ("eftRightArrow;", [0x2194]),
  ("eftRightVector;", [0x294e]), ("eftTee;", [0x22a3]), ("eftTeeArrow;", [0x21a4]),
  ("eftTeeVector;", [0x295a]), ("eftTriangle;", [0x22b2]), ("eftTriangleBar;", [0x29cf]),
  ("eftTriangleEqual;", [0x22b4]), ("eftUpDownVector;", [0x2951]), ("eftUpTeeVector;", [0x2960]),
  ("eftUpVector;", [0x21bf]), ("eftUpVectorBar;", [0x2958]), ("eftVector;", [0x21bc]),
  ("eftVectorBar;", [0x2952]), ("eftarrow;", [0x21d0]), ("eftrightarrow;", [0x21d4]),
  ("essEqualGreater;", [0x22da]), ("essFullEqual;", [0x2266]), ("essGreater;", [0x2276]),
  ("essLess;", [0x2aa1]), ("essSlantEqual;", [0x2a7d]), ("essTilde;", [0x2272]),
  ("fr;", [0x1d50f]), ("l;", [0x22d8]), ("leftarrow;", [0x21da]), ("midot;", [0x13f]),
  ("ongLeftArrow;", [0x27f5]), ("ongLeftRightArrow;", [0x27f7]), ("ongRightArrow;", [0x27f6]),
  ("ongleftarrow;", [0x27f8]), ("ongleftrightarrow;", [0x27fa]), ("ongrightarrow;", [0x27f9]),
  ("opf;", [0x1d543]), ("owerLeftArrow;", [0x2199]), ("owerRightArrow;", [0x2198]),
  ("scr;", [0x2112]), ("sh;", [0x21b0]), ("strok;", [0x141]), ("t;", [0x226a])]

private def namesUpperM : List NamedRest := [
  ("ap;", [0x2905]), ("cy;", [0x41c]), ("ediumSpace;", [0x205f]), ("ellintrf;", [0x2133]),
  ("fr;", [0x1d510]), ("inusPlus;", [0x2213]), ("opf;", [0x1d544]), ("scr;", [0x2133]),
  ("u;", [0x39c])]

private def namesUpperN : List NamedRest := [
  ("Jcy;", [0x40a]), ("acute;", [0x143]), ("caron;", [0x147]), ("cedil;", [0x145]),
  ("cy;", [0x41d]), ("egativeMediumSpace;", [0x200b]), ("egativeThickSpace;", [0x200b]),
  ("egativeThinSpace;", [0x200b]), ("egativeVeryThinSpace;", [0x200b]),
  ("estedGreaterGreater;", [0x226b]), ("estedLessLess;", [0x226a]), ("ewLine;", [0xa]),
  ("fr;", [0x1d511]), ("oBreak;", [0x2060]), ("onBreakingSpace;", [0xa0]), ("opf;", [0x2115]),
  ("ot;", [0x2aec]), ("otCongruent;", [0x2262]), ("otCupCap;", [0x226d]),
  ("otDoubleVerticalBar;", [0x2226]), ("otElement;", [0x2209]), ("otEqual;", [0x2260]),
  ("otEqualTilde;", [0x2242, 0x338]), ("otExists;", [0x2204]), ("otGreater;", [0x226f]),
  ("otGreaterEqual;", [0x2271]), ("otGreaterFullEqual;", [0x2267, 0x338]),
  ("otGreaterGreater;", [0x226b, 0x338]), ("otGreaterLess;", [0x2279]),
  ("otGreaterSlantEqual;", [0x2a7e, 0x338]), ("otGreaterTilde;", [0x2275]),
  ("otHumpDownHump;", [0x224e, 0x338]), ("otHumpEqual;", [0x224f, 0x338]),
  ("otLeftTriangle;", [0x22ea]), ("otLeftTriangleBar;", [0x29cf, 0x338]),
  ("otLeftTriangleEqual;", [0x22ec]), ("otLess;", [0x226e]), ("otLessEqual;", [0x2270]),
  ("otLessGreater;", [0x2278]), ("otLessLess;", [0x226a, 0x338]),
  ("otLessSlantEqual;", [0x2a7d, 0x338]), ("otLessTilde;", [0x2274]),
  ("otNestedGreaterGreater;", [0x2aa2, 0x338]), ("otNestedLessLess;", [0x2aa1, 0x338]),
  ("otPrecedes;", [0x2280]), ("otPrecedesEqual;", [0x2aaf, 0x338]),
  ("otPrecedesSlantEqual;", [0x22e0]), ("otReverseElement;", [0x220c]),
  ("otRightTriangle;", [0x22eb]), ("otRightTriangleBar;", [0x29d0, 0x338]),
  ("otRightTriangleEqual;", [0x22ed]), ("otSquareSubset;", [0x228f, 0x338]),
  ("otSquareSubsetEqual;", [0x22e2]), ("otSquareSuperset;", [0x2290, 0x338]),
  ("otSquareSupersetEqual;", [0x22e3]), ("otSubset;", [0x2282, 0x20d2]),
  ("otSubsetEqual;", [0x2288]), ("otSucceeds;", [0x2281]), ("otSucceedsEqual;", [0x2ab0, 0x338]),
  ("otSucceedsSlantEqual;", [0x22e1]), ("otSucceedsTilde;", [0x227f, 0x338]),
  ("otSuperset;", [0x2283, 0x20d2]), ("otSupersetEqual;", [0x2289]), ("otTilde;", [0x2241]),
  ("otTildeEqual;", [0x2244]), ("otTildeFullEqual;", [0x2247]), ("otTildeTilde;", [0x2249]),
  ("otVerticalBar;", [0x2224]), ("scr;", [0x1d4a9]), ("tilde", [0xd1]), ("tilde;", [0xd1]),
  ("u;", [0x39d])]

private def namesUpperO : List NamedRest := [
  ("Elig;", [0x152]), ("acute", [0xd3]), ("acute;", [0xd3]), ("circ", [0xd4]), ("circ;", [0xd4]),
  ("cy;", [0x41e]), ("dblac;", [0x150]), ("fr;", [0x1d512]), ("grave", [0xd2]),
  ("grave;", [0xd2]), ("macr;", [0x14c]), ("mega;", [0x3a9]), ("micron;", [0x39f]),
  ("opf;", [0x1d546]), ("penCurlyDoubleQuote;", [0x201c]), ("penCurlyQuote;", [0x2018]),
  ("r;", [0x2a54]), ("scr;", [0x1d4aa]), ("slash", [0xd8]), ("slash;", [0xd8]), ("tilde", [0xd5]),
  ("tilde;", [0xd5]), ("times;", [0x2a37]), ("uml", [0xd6]), ("uml;", [0xd6]),
  ("verBar;", [0x203e]), ("verBrace;", [0x23de]), ("verBracket;", [0x23b4]),
  ("verParenthesis;", [0x23dc])]

private def namesUpperP : List NamedRest := [
  ("artialD;", [0x2202]), ("cy;", [0x41f]), ("fr;", [0x1d513]), ("hi;", [0x3a6]), ("i;", [0x3a0]),
  ("lusMinus;", [0xb1]), ("oincareplane;", [0x210c]), ("opf;", [0x2119]), ("r;", [0x2abb]),
  ("recedes;", [0x227a]), ("recedesEqual;", [0x2aaf]), ("recedesSlantEqual;", [0x227c]),
  ("recedesTilde;", [0x227e]), ("rime;", [0x2033]), ("roduct;", [0x220f]),
  ("roportion;", [0x2237]), ("roportional;", [0x221d]), ("scr;", [0x1d4ab]), ("si;", [0x3a8])]

private def namesUpperQ : List NamedRest := [
  ("UOT", [0x22]), ("UOT;", [0x22]), ("fr;", [0x1d514]), ("opf;", [0x211a]), ("scr;", [0x1d4ac])]

private def namesUpperR : List NamedRest := [
  ("Barr;", [0x2910]), ("EG", [0xae]), ("EG;", [0xae]), ("acute;", [0x154]), ("ang;", [0x27eb]),
  ("arr;", [0x21a0]), ("arrtl;", [0x2916]), ("caron;", [0x158]), ("cedil;", [0x156]),
  ("cy;", [0x420]), ("e;", [0x211c]), ("everseElement;", [0x220b]),
  ("everseEquilibrium;", [0x21cb]), ("everseUpEquilibrium;", [0x296f]), ("fr;", [0x211c]),
  ("ho;", [0x3a1]), ("ightAngleBracket;", [0x27e9]), ("ightArrow;", [0x2192]),
  ("ightArrowBar;", [0x21e5]), ("ightArrowLeftArrow;", [0x21c4]), ("ightCeiling;", [0x2309]),
  ("ightDoubleBracket;", [0x27e7]), ("ightDownTeeVector;", [0x295d]),
  ("ightDownVector;", [0x21c2]), ("ightDownVectorBar;", [0x2955]), ("ightFloor;", [0x230b]),
  ("ightTee;", [0x22a2]), ("ightTeeArrow;", [0x21a6]), ("ightTeeVector;", [0x295b]),
  ("ightTriangle;", [0x22b3]), ("ightTriangleBar;", [0x29d0]), ("ightTriangleEqual;", [0x22b5]),
  ("ightUpDownVector;", [0x294f]), ("ightUpTeeVector;", [0x295c]), ("ightUpVector;", [0x21be]),
  ("ightUpVectorBar;", [0x2954]), ("ightVector;", [0x21c0]), ("ightVectorBar;", [0x2953]),
  ("ightarrow;", [0x21d2]), ("opf;", [0x211d]), ("oundImplies;", [0x2970]),
  ("rightarrow;", [0x21db]), ("scr;", [0x211b]), ("sh;", [0x21b1]), ("uleDelayed;", [0x29f4])]

private def namesUpperS : List NamedRest := [
  ("HCHcy;", [0x429]), ("Hcy;", [0x428]), ("OFTcy;", [0x42c]), ("acute;", [0x15a]),
  ("c;", [0x2abc]), ("caron;", [0x160]), ("cedil;", [0x15e]), ("circ;", [0x15c]),
  ("cy;", [0x421]), ("fr;", [0x1d516]), ("hortDownArrow;", [0x2193]),
  ("hortLeftArrow;", [0x2190]), ("hortRightArrow;", [0x2192]), ("hortUpArrow;", [0x2191]),
  ("igma;", [0x3a3]), ("mallCircle;", [0x2218]), ("opf;", [0x1d54a]), ("qrt;", [0x221a]),
  ("quare;", [0x25a1]), ("quareIntersection;", [0x2293]), ("quareSubset;", [0x228f]),
  ("quareSubsetEqual;", [0x2291]), ("quareSuperset;", [0x2290]),
  ("quareSupersetEqual;", [0x2292]), ("quareUnion;", [0x2294]), ("scr;", [0x1d4ae]),
  ("tar;", [0x22c6]), ("ub;", [0x22d0]), ("ubset;", [0x22d0]), ("ubsetEqual;", [0x2286]),
  ("ucceeds;", [0x227b]), ("ucceedsEqual;", [0x2ab0]), ("ucceedsSlantEqual;", [0x227d]),
  ("ucceedsTilde;", [0x227f]), ("uchThat;", [0x220b]), ("um;", [0x2211]), ("up;", [0x22d1]),
  ("uperset;", [0x2283]), ("upersetEqual;", [0x2287]), ("upset;", [0x22d1])]

private def namesUpperT : List NamedRest := [
  ("HORN", [0xde]), ("HORN;", [0xde]), ("RADE;", [0x2122]), ("SHcy;", [0x40b]), ("Scy;", [0x426]),
  ("ab;", [0x9]), ("au;", [0x3a4]), ("caron;", [0x164]), ("cedil;", [0x162]), ("cy;", [0x422]),
  ("fr;", [0x1d517]), ("herefore;", [0x2234]), ("heta;", [0x398]),
  ("hickSpace;", [0x205f, 0x200a]), ("hinSpace;", [0x2009]), ("ilde;", [0x223c]),
  ("ildeEqual;", [0x2243]), ("ildeFullEqual;", [0x2245]), ("ildeTilde;", [0x2248]),
  ("opf;", [0x1d54b]), ("ripleDot;", [0x20db]), ("scr;", [0x1d4af]), ("strok;", [0x166])]

private def namesUpperU : List NamedRest := [
  ("acute", [0xda]), ("acute;", [0xda]), ("arr;", [0x219f]), ("arrocir;", [0x2949]),
  ("brcy;", [0x40e]), ("breve;", [0x16c]), ("circ", [0xdb]), ("circ;", [0xdb]), ("cy;", [0x423]),
  ("dblac;", [0x170]), ("fr;", [0x1d518]), ("grave", [0xd9]), ("grave;", [0xd9]),
  ("macr;", [0x16a]), ("nderBar;", [0x5f]), ("nderBrace;", [0x23df]), ("nderBracket;", [0x23b5]),
  ("nderParenthesis;", [0x23dd]), ("nion;", [0x22c3]), ("nionPlus;", [0x228e]),
  ("ogon;", [0x172]), ("opf;", [0x1d54c]), ("pArrow;", [0x2191]), ("pArrowBar;", [0x2912]),
  ("pArrowDownArrow;", [0x21c5]), ("pDownArrow;", [0x2195]), ("pEquilibrium;", [0x296e]),
  ("pTee;", [0x22a5]), ("pTeeArrow;", [0x21a5]), ("parrow;", [0x21d1]), ("pdownarrow;", [0x21d5]),
  ("pperLeftArrow;", [0x2196]), ("pperRightArrow;", [0x2197]), ("psi;", [0x3d2]),
  ("psilon;", [0x3a5]), ("ring;", [0x16e]), ("scr;", [0x1d4b0]), ("tilde;", [0x168]),
  ("uml", [0xdc]), ("uml;", [0xdc])]

private def namesUpperV : List NamedRest := [
  ("Dash;", [0x22ab]), ("bar;", [0x2aeb]), ("cy;", [0x412]), ("dash;", [0x22a9]),
  ("dashl;", [0x2ae6]), ("ee;", [0x22c1]), ("erbar;", [0x2016]), ("ert;", [0x2016]),
  ("erticalBar;", [0x2223]), ("erticalLine;", [0x7c]), ("erticalSeparator;", [0x2758]),
  ("erticalTilde;", [0x2240]), ("eryThinSpace;", [0x200a]), ("fr;", [0x1d519]),
  ("opf;", [0x1d54d]), ("scr;", [0x1d4b1]), ("vdash;", [0x22aa])]

private def namesUpperW : List NamedRest := [
  ("circ;", [0x174]), ("edge;", [0x22c0]), ("fr;", [0x1d51a]), ("opf;", [0x1d54e]),
  ("scr;", [0x1d4b2])]

private def namesUpperX : List NamedRest := [
  ("fr;", [0x1d51b]), ("i;", [0x39e]), ("opf;", [0x1d54f]), ("scr;", [0x1d4b3])]

private def namesUpperY : List NamedRest := [
  ("Acy;", [0x42f]), ("Icy;", [0x407]), ("Ucy;", [0x42e]), ("acute", [0xdd]), ("acute;", [0xdd]),
  ("circ;", [0x176]), ("cy;", [0x42b]), ("fr;", [0x1d51c]), ("opf;", [0x1d550]),
  ("scr;", [0x1d4b4]), ("uml;", [0x178])]

private def namesUpperZ : List NamedRest := [
  ("Hcy;", [0x416]), ("acute;", [0x179]), ("caron;", [0x17d]), ("cy;", [0x417]),
  ("dot;", [0x17b]), ("eroWidthSpace;", [0x200b]), ("eta;", [0x396]), ("fr;", [0x2128]),
  ("opf;", [0x2124]), ("scr;", [0x1d4b5])]

private def namesLowerA : List NamedRest := [
  ("acute", [0xe1]), ("acute;", [0xe1]), ("breve;", [0x103]), ("c;", [0x223e]),
  ("cE;", [0x223e, 0x333]), ("cd;", [0x223f]), ("circ", [0xe2]), ("circ;", [0xe2]),
  ("cute", [0xb4]), ("cute;", [0xb4]), ("cy;", [0x430]), ("elig", [0xe6]), ("elig;", [0xe6]),
  ("f;", [0x2061]), ("fr;", [0x1d51e]), ("grave", [0xe0]), ("grave;", [0xe0]),
  ("lefsym;", [0x2135]), ("leph;", [0x2135]), ("lpha;", [0x3b1]), ("macr;", [0x101]),
  ("malg;", [0x2a3f]), ("mp", [0x26]), ("mp;", [0x26]), ("nd;", [0x2227]), ("ndand;", [0x2a55]),
  ("ndd;", [0x2a5c]), ("ndslope;", [0x2a58]), ("ndv;", [0x2a5a]), ("ng;", [0x2220]),
  ("nge;", [0x29a4]), ("ngle;", [0x2220]), ("ngmsd;", [0x2221]), ("ngmsdaa;", [0x29a8]),
  ("ngmsdab;", [0x29a9]), ("ngmsdac;", [0x29aa]), ("ngmsdad;", [0x29ab]), ("ngmsdae;", [0x29ac]),
  ("ngmsdaf;", [0x29ad]), ("ngmsdag;", [0x29ae]), ("ngmsdah;", [0x29af]), ("ngrt;", [0x221f]),
  ("ngrtvb;", [0x22be]), ("ngrtvbd;", [0x299d]), ("ngsph;", [0x2222]), ("ngst;", [0xc5]),
  ("ngzarr;", [0x237c]), ("ogon;", [0x105]), ("opf;", [0x1d552]), ("p;", [0x2248]),
  ("pE;", [0x2a70]), ("pacir;", [0x2a6f]), ("pe;", [0x224a]), ("pid;", [0x224b]),
  ("pos;", [0x27]), ("pprox;", [0x2248]), ("pproxeq;", [0x224a]), ("ring", [0xe5]),
  ("ring;", [0xe5]), ("scr;", [0x1d4b6]), ("st;", [0x2a]), ("symp;", [0x2248]),
  ("sympeq;", [0x224d]), ("tilde", [0xe3]), ("tilde;", [0xe3]), ("uml", [0xe4]), ("uml;", [0xe4]),
  ("wconint;", [0x2233]), ("wint;", [0x2a11])]

private def namesLowerB : List NamedRest := [
  ("Not;", [0x2aed]), ("ackcong;", [0x224c]), ("ackepsilon;", [0x3f6]), ("ackprime;", [0x2035]),
  ("acksim;", [0x223d]), ("acksimeq;", [0x22cd]), ("arvee;", [0x22bd]), ("arwed;", [0x2305]),
  ("arwedge;", [0x2305]), ("brk;", [0x23b5]), ("brktbrk;", [0x23b6]), ("cong;", [0x224c]),
  ("cy;", [0x431]), ("dquo;", [0x201e]), ("ecaus;", [0x2235]), ("ecause;", [0x2235]),
  ("emptyv;", [0x29b0]), ("epsi;", [0x3f6]), ("ernou;", [0x212c]), ("eta;", [0x3b2]),
  ("eth;", [0x2136]), ("etween;", [0x226c]), ("fr;", [0x1d51f]), ("igcap;", [0x22c2]),
  ("igcirc;", [0x25ef]), ("igcup;", [0x22c3]), ("igodot;", [0x2a00]), ("igoplus;", [0x2a01]),
  ("igotimes;", [0x2a02]), ("igsqcup;", [0x2a06]), ("igstar;", [0x2605]),
  ("igtriangledown;", [0x25bd]), ("igtriangleup;", [0x25b3]), ("iguplus;", [0x2a04]),
  ("igvee;", [0x22c1]), ("igwedge;", [0x22c0]), ("karow;", [0x290d]), ("lacklozenge;", [0x29eb]),
  ("lacksquare;", [0x25aa]), ("lacktriangle;", [0x25b4]), ("lacktriangledown;", [0x25be]),
  ("lacktriangleleft;", [0x25c2]), ("lacktriangleright;", [0x25b8]), ("lank;", [0x2423]),
  ("lk12;", [0x2592]), ("lk14;", [0x2591]), ("lk34;", [0x2593]), ("lock;", [0x2588]),
  ("ne;", [0x3d, 0x20e5]), ("nequiv;", [0x2261, 0x20e5]), ("not;", [0x2310]), ("opf;", [0x1d553]),
  ("ot;", [0x22a5]), ("ottom;", [0x22a5]), ("owtie;", [0x22c8]), ("oxDL;", [0x2557]),
  ("oxDR;", [0x2554]), ("oxDl;", [0x2556]), ("oxDr;", [0x2553]), ("oxH;", [0x2550]),
  ("oxHD;", [0x2566]), ("oxHU;", [0x2569]), ("oxHd;", [0x2564]), ("oxHu;", [0x2567]),
  ("oxUL;", [0x255d]), ("oxUR;", [0x255a]), ("oxUl;", [0x255c]), ("oxUr;", [0x2559]),
  ("oxV;", [0x2551]), ("oxVH;", [0x256c]), ("oxVL;", [0x2563]), ("oxVR;", [0x2560]),
  ("oxVh;", [0x256b]), ("oxVl;", [0x2562]), ("oxVr;", [0x255f]), ("oxbox;", [0x29c9]),
  ("oxdL;", [0x2555]), ("oxdR;", [0x2552]), ("oxdl;", [0x2510]), ("oxdr;", [0x250c]),
  ("oxh;", [0x2500]), ("oxhD;", [0x2565]), ("oxhU;", [0x2568]), ("oxhd;", [0x252c]),
  ("oxhu;", [0x2534]), ("oxminus;", [0x229f]), ("oxplus;", [0x229e]), ("oxtimes;", [0x22a0]),
  ("oxuL;", [0x255b]), ("oxuR;", [0x2558]), ("oxul;", [0x2518]), ("oxur;", [0x2514]),
  ("oxv;", [0x2502]), ("oxvH;", [0x256a]), ("oxvL;", [0x2561]), ("oxvR;", [0x255e]),
  ("oxvh;", [0x253c]), ("oxvl;", [0x2524]), ("oxvr;", [0x251c]), ("prime;", [0x2035]),
  ("reve;", [0x2d8]), ("rvbar", [0xa6]), ("rvbar;", [0xa6]), ("scr;", [0x1d4b7]),
  ("semi;", [0x204f]), ("sim;", [0x223d]), ("sime;", [0x22cd]), ("sol;", [0x5c]),
  ("solb;", [0x29c5]), ("solhsub;", [0x27c8]), ("ull;", [0x2022]), ("ullet;", [0x2022]),
  ("ump;", [0x224e]), ("umpE;", [0x2aae]), ("umpe;", [0x224f]), ("umpeq;", [0x224f])]

private def namesLowerC : List NamedRest := [
  ("acute;", [0x107]), ("ap;", [0x2229]), ("apand;", [0x2a44]), ("apbrcup;", [0x2a49]),
  ("apcap;", [0x2a4b]), ("apcup;", [0x2a47]), ("apdot;", [0x2a40]), ("aps;", [0x2229, 0xfe00]),
  ("aret;", [0x2041]), ("aron;", [0x2c7]), ("caps;", [0x2a4d]), ("caron;", [0x10d]),
  ("cedil", [0xe7]), ("cedil;", [0xe7]), ("circ;", [0x109]), ("cups;", [0x2a4c]),
  ("cupssm;", [0x2a50]), ("dot;", [0x10b]), ("edil", [0xb8]), ("edil;", [0xb8]),
  ("emptyv;", [0x29b2]), ("ent", [0xa2]), ("ent;", [0xa2]), ("enterdot;", [0xb7]),
  ("fr;", [0x1d520]), ("hcy;", [0x447]), ("heck;", [0x2713]), ("heckmark;", [0x2713]),
  ("hi;", [0x3c7]), ("ir;", [0x25cb]), ("irE;", [0x29c3]), ("irc;", [0x2c6]),
  ("irceq;", [0x2257]), ("irclearrowleft;", [0x21ba]), ("irclearrowright;", [0x21bb]),
  ("ircledR;", [0xae]), ("ircledS;", [0x24c8]), ("ircledast;", [0x229b]),
  ("ircledcirc;", [0x229a]), ("ircleddash;", [0x229d]), ("ire;", [0x2257]),
  ("irfnint;", [0x2a10]), ("irmid;", [0x2aef]), ("irscir;", [0x29c2]), ("lubs;", [0x2663]),
  ("lubsuit;", [0x2663]), ("olon;", [0x3a]), ("olone;", [0x2254]), ("oloneq;", [0x2254]),
  ("omma;", [0x2c]), ("ommat;", [0x40]), ("omp;", [0x2201]), ("ompfn;", [0x2218]),
  ("omplement;", [0x2201]), ("omplexes;", [0x2102]), ("ong;", [0x2245]), ("ongdot;", [0x2a6d]),
  ("onint;", [0x222e]), ("opf;", [0x1d554]), ("oprod;", [0x2210]), ("opy", [0xa9]),
  ("opy;", [0xa9]), ("opysr;", [0x2117]), ("rarr;", [0x21b5]), ("ross;", [0x2717]),
  ("scr;", [0x1d4b8]), ("sub;", [0x2acf]), ("sube;", [0x2ad1]), ("sup;", [0x2ad0]),
  ("supe;", [0x2ad2]), ("tdot;", [0x22ef]), ("udarrl;", [0x2938]), ("udarrr;", [0x2935]),
  ("uepr;", [0x22de]), ("uesc;", [0x22df]), ("ularr;", [0x21b6]), ("ularrp;", [0x293d]),
  ("up;", [0x222a]), ("upbrcap;", [0x2a48]), ("upcap;", [0x2a46]), ("upcup;", [0x2a4a]),
  ("updot;", [0x228d]), ("upor;", [0x2a45]), ("ups;", [0x222a, 0xfe00]), ("urarr;", [0x21b7]),
  ("urarrm;", [0x293c]), ("urlyeqprec;", [0x22de]), ("urlyeqsucc;", [0x22df]),
  ("urlyvee;", [0x22ce]), ("urlywedge;", [0x22cf]), ("urren", [0xa4]), ("urren;", [0xa4]),
  ("urvearrowleft;", [0x21b6]), ("urvearrowright;", [0x21b7]), ("uvee;", [0x22ce]),
  ("uwed;", [0x22cf]), ("wconint;", [0x2232]), ("wint;", [0x2231]), ("ylcty;", [0x232d])]

private def namesLowerD : List NamedRest := [
  ("Arr;", [0x21d3]), ("Har;", [0x2965]), ("agger;", [0x2020]), ("aleth;", [0x2138]),
  ("arr;", [0x2193]), ("ash;", [0x2010]), ("ashv;", [0x22a3]), ("bkarow;", [0x290f]),
  ("blac;", [0x2dd]), ("caron;", [0x10f]), ("cy;", [0x434]), ("d;", [0x2146]),
  ("dagger;", [0x2021]), ("darr;", [0x21ca]), ("dotseq;", [0x2a77]), ("eg", [0xb0]),
  ("eg;", [0xb0]), ("elta;", [0x3b4]), ("emptyv;", [0x29b1]), ("fisht;", [0x297f]),
  ("fr;", [0x1d521]), ("harl;", [0x21c3]), ("harr;", [0x21c2]), ("iam;", [0x22c4]),
  ("iamond;", [0x22c4]), ("iamondsuit;", [0x2666]), ("iams;", [0x2666]), ("ie;", [0xa8]),
  ("igamma;", [0x3dd]), ("isin;", [0x22f2]), ("iv;", [0xf7]), ("ivide", [0xf7]),
  ("ivide;", [0xf7]), ("ivideontimes;", [0x22c7]), ("ivonx;", [0x22c7]), ("jcy;", [0x452]),
  ("lcorn;", [0x231e]), ("lcrop;", [0x230d]), ("ollar;", [0x24]), ("opf;", [0x1d555]),
  ("ot;", [0x2d9]), ("oteq;", [0x2250]), ("oteqdot;", [0x2251]), ("otminus;", [0x2238]),
  ("otplus;", [0x2214]), ("otsquare;", [0x22a1]), ("oublebarwedge;", [0x2306]),
  ("ownarrow;", [0x2193]), ("owndownarrows;", [0x21ca]), ("ownharpoonleft;", [0x21c3]),
  ("ownharpoonright;", [0x21c2]), ("rbkarow;", [0x2910]), ("rcorn;", [0x231f]),
  ("rcrop;", [0x230c]), ("scr;", [0x1d4b9]), ("scy;", [0x455]), ("sol;", [0x29f6]),
  ("strok;", [0x111]), ("tdot;", [0x22f1]), ("tri;", [0x25bf]), ("trif;", [0x25be]),
  ("uarr;", [0x21f5]), ("uhar;", [0x296f]), ("wangle;", [0x29a6]), ("zcy;", [0x45f]),
  ("zigrarr;", [0x27ff])]

private def namesLowerE : List NamedRest := [
  ("DDot;", [0x2a77]), ("Dot;", [0x2251]), ("acute", [0xe9]), ("acute;", [0xe9]),
  ("aster;", [0x2a6e]), ("caron;", [0x11b]), ("cir;", [0x2256]), ("circ", [0xea]),
  ("circ;", [0xea]), ("colon;", [0x2255]), ("cy;", [0x44d]), ("dot;", [0x117]), ("e;", [0x2147]),
  ("fDot;", [0x2252]), ("fr;", [0x1d522]), ("g;", [0x2a9a]), ("grave", [0xe8]),
  ("grave;", [0xe8]), ("gs;", [0x2a96]), ("gsdot;", [0x2a98]), ("l;", [0x2a99]),
  ("linters;", [0x23e7]), ("ll;", [0x2113]), ("ls;", [0x2a95]), ("lsdot;", [0x2a97]),
  ("macr;", [0x113]), ("mpty;", [0x2205]), ("mptyset;", [0x2205]), ("mptyv;", [0x2205]),
  ("msp13;", [0x2004]), ("msp14;", [0x2005]), ("msp;", [0x2003]), ("ng;", [0x14b]),
  ("nsp;", [0x2002]), ("ogon;", [0x119]), ("opf;", [0x1d556]), ("par;", [0x22d5]),
  ("parsl;", [0x29e3]), ("plus;", [0x2a71]), ("psi;", [0x3b5]), ("psilon;", [0x3b5]),
  ("psiv;", [0x3f5]), ("qcirc;", [0x2256]), ("qcolon;", [0x2255]), ("qsim;", [0x2242]),
  ("qslantgtr;", [0x2a96]), ("qslantless;", [0x2a95]), ("quals;", [0x3d]), ("quest;", [0x225f]),
  ("quiv;", [0x2261]), ("quivDD;", [0x2a78]), ("qvparsl;", [0x29e5]), ("rDot;", [0x2253]),
  ("rarr;", [0x2971]), ("scr;", [0x212f]), ("sdot;", [0x2250]), ("sim;", [0x2242]),
  ("ta;", [0x3b7]), ("th", [0xf0]), ("th;", [0xf0]), ("uml", [0xeb]), ("uml;", [0xeb]),
  ("uro;", [0x20ac]), ("xcl;", [0x21]), ("xist;", [0x2203]), ("xpectation;", [0x2130]),
  ("xponentiale;", [0x2147])]

private def namesLowerF : List NamedRest := [
  ("allingdotseq;", [0x2252]), ("cy;", [0x444]), ("emale;", [0x2640]), ("filig;", [0xfb03]),
  ("flig;", [0xfb00]), ("fllig;", [0xfb04]), ("fr;", [0x1d523]), ("ilig;", [0xfb01]),
  ("jlig;", [0x66, 0x6a]), ("lat;", [0x266d]), ("llig;", [0xfb02]), ("ltns;", [0x25b1]),
  ("nof;", [0x192]), ("opf;", [0x1d557]), ("orall;", [0x2200]), ("ork;", [0x22d4]),
  ("orkv;", [0x2ad9]), ("partint;", [0x2a0d]), ("rac12", [0xbd]), ("rac12;", [0xbd]),
  ("rac13;", [0x2153]), ("rac14", [0xbc]), ("rac14;", [0xbc]), ("rac15;", [0x2155]),
  ("rac16;", [0x2159]), ("rac18;", [0x215b]), ("rac23;", [0x2154]), ("rac25;", [0x2156]),
  ("rac34", [0xbe]), ("rac34;", [0xbe]), ("rac35;", [0x2157]), ("rac38;", [0x215c]),
  ("rac45;", [0x2158]), ("rac56;", [0x215a]), ("rac58;", [0x215d]), ("rac78;", [0x215e]),
  ("rasl;", [0x2044]), ("rown;", [0x2322]), ("scr;", [0x1d4bb])]

private def namesLowerG : List NamedRest := [
  ("E;", [0x2267]), ("El;", [0x2a8c]), ("acute;", [0x1f5]), ("amma;", [0x3b3]),
  ("ammad;", [0x3dd]), ("ap;", [0x2a86]), ("breve;", [0x11f]), ("circ;", [0x11d]),
  ("cy;", [0x433]), ("dot;", [0x121]), ("e;", [0x2265]), ("el;", [0x22db]), ("eq;", [0x2265]),
  ("eqq;", [0x2267]), ("eqslant;", [0x2a7e]), ("es;", [0x2a7e]), ("escc;", [0x2aa9]),
  ("esdot;", [0x2a80]), ("esdoto;", [0x2a82]), ("esdotol;", [0x2a84]), ("esl;", [0x22db, 0xfe00]),
  ("esles;", [0x2a94]), ("fr;", [0x1d524]), ("g;", [0x226b]), ("gg;", [0x22d9]),
  ("imel;", [0x2137]), ("jcy;", [0x453]), ("l;", [0x2277]), ("lE;", [0x2a92]), ("la;", [0x2aa5]),
  ("lj;", [0x2aa4]), ("nE;", [0x2269]), ("nap;", [0x2a8a]), ("napprox;", [0x2a8a]),
  ("ne;", [0x2a88]), ("neq;", [0x2a88]), ("neqq;", [0x2269]), ("nsim;", [0x22e7]),
  ("opf;", [0x1d558]), ("rave;", [0x60]), ("scr;", [0x210a]), ("sim;", [0x2273]),
  ("sime;", [0x2a8e]), ("siml;", [0x2a90]), ("t", [0x3e]), ("t;", [0x3e]), ("tcc;", [0x2aa7]),
  ("tcir;", [0x2a7a]), ("tdot;", [0x22d7]), ("tlPar;", [0x2995]), ("tquest;", [0x2a7c]),
  ("trapprox;", [0x2a86]), ("trarr;", [0x2978]), ("trdot;", [0x22d7]), ("treqless;", [0x22db]),
  ("treqqless;", [0x2a8c]), ("trless;", [0x2277]), ("trsim;", [0x2273]),
  ("vertneqq;", [0x2269, 0xfe00]), ("vnE;", [0x2269, 0xfe00])]

private def namesLowerH : List NamedRest := [
  ("Arr;", [0x21d4]), ("airsp;", [0x200a]), ("alf;", [0xbd]), ("amilt;", [0x210b]),
  ("ardcy;", [0x44a]), ("arr;", [0x2194]), ("arrcir;", [0x2948]), ("arrw;", [0x21ad]),
  ("bar;", [0x210f]), ("circ;", [0x125]), ("earts;", [0x2665]), ("eartsuit;", [0x2665]),
  ("ellip;", [0x2026]), ("ercon;", [0x22b9]), ("fr;", [0x1d525]), ("ksearow;", [0x2925]),
  ("kswarow;", [0x2926]), ("oarr;", [0x21ff]), ("omtht;", [0x223b]), ("ookleftarrow;", [0x21a9]),
  ("ookrightarrow;", [0x21aa]), ("opf;", [0x1d559]), ("orbar;", [0x2015]), ("scr;", [0x1d4bd]),
  ("slash;", [0x210f]), ("strok;", [0x127]), ("ybull;", [0x2043]), ("yphen;", [0x2010])]

private def namesLowerI : List NamedRest := [
  ("acute", [0xed]), ("acute;", [0xed]), ("c;", [0x2063]), ("circ", [0xee]), ("circ;", [0xee]),
  ("cy;", [0x438]), ("ecy;", [0x435]), ("excl", [0xa1]), ("excl;", [0xa1]), ("ff;", [0x21d4]),
  ("fr;", [0x1d526]), ("grave", [0xec]), ("grave;", [0xec]), ("i;", [0x2148]),
  ("iiint;", [0x2a0c]), ("iint;", [0x222d]), ("infin;", [0x29dc]), ("iota;", [0x2129]),
  ("jlig;", [0x133]), ("macr;", [0x12b]), ("mage;", [0x2111]), ("magline;", [0x2110]),
  ("magpart;", [0x2111]), ("math;", [0x131]), ("mof;", [0x22b7]), ("mped;", [0x1b5]),
  ("n;", [0x2208]), ("ncare;", [0x2105]), ("nfin;", [0x221e]), ("nfintie;", [0x29dd]),
  ("nodot;", [0x131]), ("nt;", [0x222b]), ("ntcal;", [0x22ba]), ("ntegers;", [0x2124]),
  ("ntercal;", [0x22ba]), ("ntlarhk;", [0x2a17]), ("ntprod;", [0x2a3c]), ("ocy;", [0x451]),
  ("ogon;", [0x12f]), ("opf;", [0x1d55a]), ("ota;", [0x3b9]), ("prod;", [0x2a3c]),
  ("quest", [0xbf]), ("quest;", [0xbf]), ("scr;", [0x1d4be]), ("sin;", [0x2208]),
  ("sinE;", [0x22f9]), ("sindot;", [0x22f5]), ("sins;", [0x22f4]), ("sinsv;", [0x22f3]),
  ("sinv;", [0x2208]), ("t;", [0x2062]), ("tilde;", [0x129]), ("ukcy;", [0x456]), ("uml", [0xef]),
  ("uml;", [0xef])]

private def namesLowerJ : List NamedRest := [
  ("circ;", [0x135]), ("cy;", [0x439]), ("fr;", [0x1d527]), ("math;", [0x237]),
  ("opf;", [0x1d55b]), ("scr;", [0x1d4bf]), ("sercy;", [0x458]), ("ukcy;", [0x454])]

private def namesLowerK : List NamedRest := [
  ("appa;", [0x3ba]), ("appav;", [0x3f0]), ("cedil;", [0x137]), ("cy;", [0x43a]),
  ("fr;", [0x1d528]), ("green;", [0x138]), ("hcy;", [0x445]), ("jcy;", [0x45c]),
  ("opf;", [0x1d55c]), ("scr;", [0x1d4c0])]

private def namesLowerL : List NamedRest := [
  ("Aarr;", [0x21da]), ("Arr;", [0x21d0]), ("Atail;", [0x291b]), ("Barr;", [0x290e]),
  ("E;", [0x2266]), ("Eg;", [0x2a8b]), ("Har;", [0x2962]), ("acute;", [0x13a]),
  ("aemptyv;", [0x29b4]), ("agran;", [0x2112]), ("ambda;", [0x3bb]), ("ang;", [0x27e8]),
  ("angd;", [0x2991]), ("angle;", [0x27e8]), ("ap;", [0x2a85]), ("aquo", [0xab]),
  ("aquo;", [0xab]), ("arr;", [0x2190]), ("arrb;", [0x21e4]), ("arrbfs;", [0x291f]),
  ("arrfs;", [0x291d]), ("arrhk;", [0x21a9]), ("arrlp;", [0x21ab]), ("arrpl;", [0x2939]),
  ("arrsim;", [0x2973]), ("arrtl;", [0x21a2]), ("at;", [0x2aab]), ("atail;", [0x2919]),
  ("ate;", [0x2aad]), ("ates;", [0x2aad, 0xfe00]), ("barr;", [0x290c]), ("bbrk;", [0x2772]),
  ("brace;", [0x7b]), ("brack;", [0x5b]), ("brke;", [0x298b]), ("brksld;", [0x298f]),
  ("brkslu;", [0x298d]), ("caron;", [0x13e]), ("cedil;", [0x13c]), ("ceil;", [0x2308]),
  ("cub;", [0x7b]), ("cy;", [0x43b]), ("dca;", [0x2936]), ("dquo;", [0x201c]),
  ("dquor;", [0x201e]), ("drdhar;", [0x2967]), ("drushar;", [0x294b]), ("dsh;", [0x21b2]),
  ("e;", [0x2264]), ("eftarrow;", [0x2190]), ("eftarrowtail;", [0x21a2]),
  ("eftharpoondown;", [0x21bd]), ("eftharpoonup;", [0x21bc]), ("eftleftarrows;", [0x21c7]),
  ("eftrightarrow;", [0x2194]), ("eftrightarrows;", [0x21c6]), ("eftrightharpoons;", [0x21cb]),
  ("eftrightsquigarrow;", [0x21ad]), ("eftthreetimes;", [0x22cb]), ("eg;", [0x22da]),
  ("eq;", [0x2264]), ("eqq;", [0x2266]), ("eqslant;", [0x2a7d]), ("es;", [0x2a7d]),
  ("escc;", [0x2aa8]), ("esdot;", [0x2a7f]), ("esdoto;", [0x2a81]), ("esdotor;", [0x2a83]),
  ("esg;", [0x22da, 0xfe00]), ("esges;", [0x2a93]), ("essapprox;", [0x2a85]),
  ("essdot;", [0x22d6]), ("esseqgtr;", [0x22da]), ("esseqqgtr;", [0x2a8b]), ("essgtr;", [0x2276]),
  ("esssim;", [0x2272]), ("fisht;", [0x297c]), ("floor;", [0x230a]), ("fr;", [0x1d529]),
  ("g;", [0x2276]), ("gE;", [0x2a91]), ("hard;", [0x21bd]), ("haru;", [0x21bc]),
  ("harul;", [0x296a]), ("hblk;", [0x2584]), ("jcy;", [0x459]), ("l;", [0x226a]),
  ("larr;", [0x21c7]), ("lcorner;", [0x231e]), ("lhard;", [0x296b]), ("ltri;", [0x25fa]),
  ("midot;", [0x140]), ("moust;", [0x23b0]), ("moustache;", [0x23b0]), ("nE;", [0x2268]),
  ("nap;", [0x2a89]), ("napprox;", [0x2a89]), ("ne;", [0x2a87]), ("neq;", [0x2a87]),
  ("neqq;", [0x2268]), ("nsim;", [0x22e6]), ("oang;", [0x27ec]), ("oarr;", [0x21fd]),
  ("obrk;", [0x27e6]), ("ongleftarrow;", [0x27f5]), ("ongleftrightarrow;", [0x27f7]),
  ("ongmapsto;", [0x27fc]), ("ongrightarrow;", [0x27f6]), ("ooparrowleft;", [0x21ab]),
  ("ooparrowright;", [0x21ac]), ("opar;", [0x2985]), ("opf;", [0x1d55d]), ("oplus;", [0x2a2d]),
  ("otimes;", [0x2a34]), ("owast;", [0x2217]), ("owbar;", [0x5f]), ("oz;", [0x25ca]),
  ("ozenge;", [0x25ca]), ("ozf;", [0x29eb]), ("par;", [0x28]), ("parlt;", [0x2993]),
  ("rarr;", [0x21c6]), ("rcorner;", [0x231f]), ("rhar;", [0x21cb]), ("rhard;", [0x296d]),
  ("rm;", [0x200e]), ("rtri;", [0x22bf]), ("saquo;", [0x2039]), ("scr;", [0x1d4c1]),
  ("sh;", [0x21b0]), ("sim;", [0x2272]), ("sime;", [0x2a8d]), ("simg;", [0x2a8f]),
  ("sqb;", [0x5b]), ("squo;", [0x2018]), ("squor;", [0x201a]), ("strok;", [0x142]), ("t", [0x3c]),
  ("t;", [0x3c]), ("tcc;", [0x2aa6]), ("tcir;", [0x2a79]), ("tdot;", [0x22d6]),
  ("three;", [0x22cb]), ("times;", [0x22c9]), ("tlarr;", [0x2976]), ("tquest;", [0x2a7b]),
  ("trPar;", [0x2996]), ("tri;", [0x25c3]), ("trie;", [0x22b4]), ("trif;", [0x25c2]),
  ("urdshar;", [0x294a]), ("uruhar;", [0x2966]), ("vertneqq;", [0x2268, 0xfe00]),
  ("vnE;", [0x2268, 0xfe00])]

private def namesLowerM : List NamedRest := [
  ("DDot;", [0x223a]), ("acr", [0xaf]), ("acr;", [0xaf]), ("ale;", [0x2642]), ("alt;", [0x2720]),
  ("altese;", [0x2720]), ("ap;", [0x21a6]), ("apsto;", [0x21a6]), ("apstodown;", [0x21a7]),
  ("apstoleft;", [0x21a4]), ("apstoup;", [0x21a5]), ("arker;", [0x25ae]), ("comma;", [0x2a29]),
  ("cy;", [0x43c]), ("dash;", [0x2014]), ("easuredangle;", [0x2221]), ("fr;", [0x1d52a]),
  ("ho;", [0x2127]), ("icro", [0xb5]), ("icro;", [0xb5]), ("id;", [0x2223]), ("idast;", [0x2a]),
  ("idcir;", [0x2af0]), ("iddot", [0xb7]), ("iddot;", [0xb7]), ("inus;", [0x2212]),
  ("inusb;", [0x229f]), ("inusd;", [0x2238]), ("inusdu;", [0x2a2a]), ("lcp;", [0x2adb]),
  ("ldr;", [0x2026]), ("nplus;", [0x2213]), ("odels;", [0x22a7]), ("opf;", [0x1d55e]),
  ("p;", [0x2213]), ("scr;", [0x1d4c2]), ("stpos;", [0x223e]), ("u;", [0x3bc]),
  ("ultimap;", [0x22b8]), ("umap;", [0x22b8])]

private def namesLowerN : List NamedRest := [
  ("Gg;", [0x22d9, 0x338]), ("Gt;", [0x226b, 0x20d2]), ("Gtv;", [0x226b, 0x338]),
  ("Leftarrow;", [0x21cd]), ("Leftrightarrow;", [0x21ce]), ("Ll;", [0x22d8, 0x338]),
  ("Lt;", [0x226a, 0x20d2]), ("Ltv;", [0x226a, 0x338]), ("Rightarrow;", [0x21cf]),
  ("VDash;", [0x22af]), ("Vdash;", [0x22ae]), ("abla;", [0x2207]), ("acute;", [0x144]),
  ("ang;", [0x2220, 0x20d2]), ("ap;", [0x2249]), ("apE;", [0x2a70, 0x338]),
  ("apid;", [0x224b, 0x338]), ("apos;", [0x149]), ("approx;", [0x2249]), ("atur;", [0x266e]),
  ("atural;", [0x266e]), ("aturals;", [0x2115]), ("bsp", [0xa0]), ("bsp;", [0xa0]),
  ("bump;", [0x224e, 0x338]), ("bumpe;", [0x224f, 0x338]), ("cap;", [0x2a43]),
  ("caron;", [0x148]), ("cedil;", [0x146]), ("cong;", [0x2247]), ("congdot;", [0x2a6d, 0x338]),
  ("cup;", [0x2a42]), ("cy;", [0x43d]), ("dash;", [0x2013]), ("e;", [0x2260]),
  ("eArr;", [0x21d7]), ("earhk;", [0x2924]), ("earr;", [0x2197]), ("earrow;", [0x2197]),
  ("edot;", [0x2250, 0x338]), ("equiv;", [0x2262]), ("esear;", [0x2928]),
  ("esim;", [0x2242, 0x338]), ("exist;", [0x2204]), ("exists;", [0x2204]), ("fr;", [0x1d52b]),
  ("gE;", [0x2267, 0x338]), ("ge;", [0x2271]), ("geq;", [0x2271]), ("geqq;", [0x2267, 0x338]),
  ("geqslant;", [0x2a7e, 0x338]), ("ges;", [0x2a7e, 0x338]), ("gsim;", [0x2275]),
  ("gt;", [0x226f]), ("gtr;", [0x226f]), ("hArr;", [0x21ce]), ("harr;", [0x21ae]),
  ("hpar;", [0x2af2]), ("i;", [0x220b]), ("is;", [0x22fc]), ("isd;", [0x22fa]), ("iv;", [0x220b]),
  ("jcy;", [0x45a]), ("lArr;", [0x21cd]), ("lE;", [0x2266, 0x338]), ("larr;", [0x219a]),
  ("ldr;", [0x2025]), ("le;", [0x2270]), ("leftarrow;", [0x219a]), ("leftrightarrow;", [0x21ae]),
  ("leq;", [0x2270]), ("leqq;", [0x2266, 0x338]), ("leqslant;", [0x2a7d, 0x338]),
  ("les;", [0x2a7d, 0x338]), ("less;", [0x226e]), ("lsim;", [0x2274]), ("lt;", [0x226e]),
  ("ltri;", [0x22ea]), ("ltrie;", [0x22ec]), ("mid;", [0x2224]), ("opf;", [0x1d55f]),
  ("ot", [0xac]), ("ot;", [0xac]), ("otin;", [0x2209]), ("otinE;", [0x22f9, 0x338]),
  ("otindot;", [0x22f5, 0x338]), ("otinva;", [0x2209]), ("otinvb;", [0x22f7]),
  ("otinvc;", [0x22f6]), ("otni;", [0x220c]), ("otniva;", [0x220c]), ("otnivb;", [0x22fe]),
  ("otnivc;", [0x22fd]), ("par;", [0x2226]), ("parallel;", [0x2226]),
  ("parsl;", [0x2afd, 0x20e5]), ("part;", [0x2202, 0x338]), ("polint;", [0x2a14]),
  ("pr;", [0x2280]), ("prcue;", [0x22e0]), ("pre;", [0x2aaf, 0x338]), ("prec;", [0x2280]),
  ("preceq;", [0x2aaf, 0x338]), ("rArr;", [0x21cf]), ("rarr;", [0x219b]),
  ("rarrc;", [0x2933, 0x338]), ("rarrw;", [0x219d, 0x338]), ("rightarrow;", [0x219b]),
  ("rtri;", [0x22eb]), ("rtrie;", [0x22ed]), ("sc;", [0x2281]), ("sccue;", [0x22e1]),
  ("sce;", [0x2ab0, 0x338]), ("scr;", [0x1d4c3]), ("shortmid;", [0x2224]),
  ("shortparallel;", [0x2226]), ("sim;", [0x2241]), ("sime;", [0x2244]), ("simeq;", [0x2244]),
  ("smid;", [0x2224]), ("spar;", [0x2226]), ("sqsube;", [0x22e2]), ("sqsupe;", [0x22e3]),
  ("sub;", [0x2284]), ("subE;", [0x2ac5, 0x338]), ("sube;", [0x2288]),
  ("subset;", [0x2282, 0x20d2]), ("subseteq;", [0x2288]), ("subseteqq;", [0x2ac5, 0x338]),
  ("succ;", [0x2281]), ("succeq;", [0x2ab0, 0x338]), ("sup;", [0x2285]),
  ("supE;", [0x2ac6, 0x338]), ("supe;", [0x2289]), ("supset;", [0x2283, 0x20d2]),
  ("supseteq;", [0x2289]), ("supseteqq;", [0x2ac6, 0x338]), ("tgl;", [0x2279]), ("tilde", [0xf1]),
  ("tilde;", [0xf1]), ("tlg;", [0x2278]), ("triangleleft;", [0x22ea]),
  ("trianglelefteq;", [0x22ec]), ("triangleright;", [0x22eb]), ("trianglerighteq;", [0x22ed]),
  ("u;", [0x3bd]), ("um;", [0x23]), ("umero;", [0x2116]), ("umsp;", [0x2007]),
  ("vDash;", [0x22ad]), ("vHarr;", [0x2904]), ("vap;", [0x224d, 0x20d2]), ("vdash;", [0x22ac]),
  ("vge;", [0x2265, 0x20d2]), ("vgt;", [0x3e, 0x20d2]), ("vinfin;", [0x29de]),
  ("vlArr;", [0x2902]), ("vle;", [0x2264, 0x20d2]), ("vlt;", [0x3c, 0x20d2]),
  ("vltrie;", [0x22b4, 0x20d2]), ("vrArr;", [0x2903]), ("vrtrie;", [0x22b5, 0x20d2]),
  ("vsim;", [0x223c, 0x20d2]), ("wArr;", [0x21d6]), ("warhk;", [0x2923]), ("warr;", [0x2196]),
  ("warrow;", [0x2196]), ("wnear;", [0x2927])]

private def namesLowerO : List NamedRest := [
  ("S;", [0x24c8]), ("acute", [0xf3]), ("acute;", [0xf3]), ("ast;", [0x229b]), ("cir;", [0x229a]),
  ("circ", [0xf4]), ("circ;", [0xf4]), ("cy;", [0x43e]), ("dash;", [0x229d]), ("dblac;", [0x151]),
  ("div;", [0x2a38]), ("dot;", [0x2299]), ("dsold;", [0x29bc]), ("elig;", [0x153]),
  ("fcir;", [0x29bf]), ("fr;", [0x1d52c]), ("gon;", [0x2db]), ("grave", [0xf2]),
  ("grave;", [0xf2]), ("gt;", [0x29c1]), ("hbar;", [0x29b5]), ("hm;", [0x3a9]),
  ("int;", [0x222e]), ("larr;", [0x21ba]), ("lcir;", [0x29be]), ("lcross;", [0x29bb]),
  ("line;", [0x203e]), ("lt;", [0x29c0]), ("macr;", [0x14d]), ("mega;", [0x3c9]),
  ("micron;", [0x3bf]), ("mid;", [0x29b6]), ("minus;", [0x2296]), ("opf;", [0x1d560]),
  ("par;", [0x29b7]), ("perp;", [0x29b9]), ("plus;", [0x2295]), ("r;", [0x2228]),
  ("rarr;", [0x21bb]), ("rd;", [0x2a5d]), ("rder;", [0x2134]), ("rderof;", [0x2134]),
  ("rdf", [0xaa]), ("rdf;", [0xaa]), ("rdm", [0xba]), ("rdm;", [0xba]), ("rigof;", [0x22b6]),
  ("ror;", [0x2a56]), ("rslope;", [0x2a57]), ("rv;", [0x2a5b]), ("scr;", [0x2134]),
  ("slash", [0xf8]), ("slash;", [0xf8]), ("sol;", [0x2298]), ("tilde", [0xf5]),
  ("tilde;", [0xf5]), ("times;", [0x2297]), ("timesas;", [0x2a36]), ("uml", [0xf6]),
  ("uml;", [0xf6]), ("vbar;", [0x233d])]

private def namesLowerP : List NamedRest := [
  ("ar;", [0x2225]), ("ara", [0xb6]), ("ara;", [0xb6]), ("arallel;", [0x2225]),
  ("arsim;", [0x2af3]), ("arsl;", [0x2afd]), ("art;", [0x2202]), ("cy;", [0x43f]),
  ("ercnt;", [0x25]), ("eriod;", [0x2e]), ("ermil;", [0x2030]), ("erp;", [0x22a5]),
  ("ertenk;", [0x2031]), ("fr;", [0x1d52d]), ("hi;", [0x3c6]), ("hiv;", [0x3d5]),
  ("hmmat;", [0x2133]), ("hone;", [0x260e]), ("i;", [0x3c0]), ("itchfork;", [0x22d4]),
  ("iv;", [0x3d6]), ("lanck;", [0x210f]), ("lanckh;", [0x210e]), ("lankv;", [0x210f]),
  ("lus;", [0x2b]), ("lusacir;", [0x2a23]), ("lusb;", [0x229e]), ("luscir;", [0x2a22]),
  ("lusdo;", [0x2214]), ("lusdu;", [0x2a25]), ("luse;", [0x2a72]), ("lusmn", [0xb1]),
  ("lusmn;", [0xb1]), ("lussim;", [0x2a26]), ("lustwo;", [0x2a27]), ("m;", [0xb1]),
  ("ointint;", [0x2a15]), ("opf;", [0x1d561]), ("ound", [0xa3]), ("ound;", [0xa3]),
  ("r;", [0x227a]), ("rE;", [0x2ab3]), ("rap;", [0x2ab7]), ("rcue;", [0x227c]), ("re;", [0x2aaf]),
  ("rec;", [0x227a]), ("recapprox;", [0x2ab7]), ("reccurlyeq;", [0x227c]), ("receq;", [0x2aaf]),
  ("recnapprox;", [0x2ab9]), ("recneqq;", [0x2ab5]), ("recnsim;", [0x22e8]),
  ("recsim;", [0x227e]), ("rime;", [0x2032]), ("rimes;", [0x2119]), ("rnE;", [0x2ab5]),
  ("rnap;", [0x2ab9]), ("rnsim;", [0x22e8]), ("rod;", [0x220f]), ("rofalar;", [0x232e]),
  ("rofline;", [0x2312]), ("rofsurf;", [0x2313]), ("rop;", [0x221d]), ("ropto;", [0x221d]),
  ("rsim;", [0x227e]), ("rurel;", [0x22b0]), ("scr;", [0x1d4c5]), ("si;", [0x3c8]),
  ("uncsp;", [0x2008])]

private def namesLowerQ : List NamedRest := [
  ("fr;", [0x1d52e]), ("int;", [0x2a0c]), ("opf;", [0x1d562]), ("prime;", [0x2057]),
  ("scr;", [0x1d4c6]), ("uaternions;", [0x210d]), ("uatint;", [0x2a16]), ("uest;", [0x3f]),
  ("uesteq;", [0x225f]), ("uot", [0x22]), ("uot;", [0x22])]

private def namesLowerR : List NamedRest := [
  ("Aarr;", [0x21db]), ("Arr;", [0x21d2]), ("Atail;", [0x291c]), ("Barr;", [0x290f]),
  ("Har;", [0x2964]), ("ace;", [0x223d, 0x331]), ("acute;", [0x155]), ("adic;", [0x221a]),
  ("aemptyv;", [0x29b3]), ("ang;", [0x27e9]), ("angd;", [0x2992]), ("ange;", [0x29a5]),
  ("angle;", [0x27e9]), ("aquo", [0xbb]), ("aquo;", [0xbb]), ("arr;", [0x2192]),
  ("arrap;", [0x2975]), ("arrb;", [0x21e5]), ("arrbfs;", [0x2920]), ("arrc;", [0x2933]),
  ("arrfs;", [0x291e]), ("arrhk;", [0x21aa]), ("arrlp;", [0x21ac]), ("arrpl;", [0x2945]),
  ("arrsim;", [0x2974]), ("arrtl;", [0x21a3]), ("arrw;", [0x219d]), ("atail;", [0x291a]),
  ("atio;", [0x2236]), ("ationals;", [0x211a]), ("barr;", [0x290d]), ("bbrk;", [0x2773]),
  ("brace;", [0x7d]), ("brack;", [0x5d]), ("brke;", [0x298c]), ("brksld;", [0x298e]),
  ("brkslu;", [0x2990]), ("caron;", [0x159]), ("cedil;", [0x157]), ("ceil;", [0x2309]),
  ("cub;", [0x7d]), ("cy;", [0x440]), ("dca;", [0x2937]), ("dldhar;", [0x2969]),
  ("dquo;", [0x201d]), ("dquor;", [0x201d]), ("dsh;", [0x21b3]), ("eal;", [0x211c]),
  ("ealine;", [0x211b]), ("ealpart;", [0x211c]), ("eals;", [0x211d]), ("ect;", [0x25ad]),
  ("eg", [0xae]), ("eg;", [0xae]), ("fisht;", [0x297d]), ("floor;", [0x230b]), ("fr;", [0x1d52f]),
  ("hard;", [0x21c1]), ("haru;", [0x21c0]), ("harul;", [0x296c]), ("ho;", [0x3c1]),
  ("hov;", [0x3f1]), ("ightarrow;", [0x2192]), ("ightarrowtail;", [0x21a3]),
  ("ightharpoondown;", [0x21c1]), ("ightharpoonup;", [0x21c0]), ("ightleftarrows;", [0x21c4]),
  ("ightleftharpoons;", [0x21cc]), ("ightrightarrows;", [0x21c9]), ("ightsquigarrow;", [0x219d]),
  ("ightthreetimes;", [0x22cc]), ("ing;", [0x2da]), ("isingdotseq;", [0x2253]),
  ("larr;", [0x21c4]), ("lhar;", [0x21cc]), ("lm;", [0x200f]), ("moust;", [0x23b1]),
  ("moustache;", [0x23b1]), ("nmid;", [0x2aee]), ("oang;", [0x27ed]), ("oarr;", [0x21fe]),
  ("obrk;", [0x27e7]), ("opar;", [0x2986]), ("opf;", [0x1d563]), ("oplus;", [0x2a2e]),
  ("otimes;", [0x2a35]), ("par;", [0x29]), ("pargt;", [0x2994]), ("ppolint;", [0x2a12]),
  ("rarr;", [0x21c9]), ("saquo;", [0x203a]), ("scr;", [0x1d4c7]), ("sh;", [0x21b1]),
  ("sqb;", [0x5d]), ("squo;", [0x2019]), ("squor;", [0x2019]), ("three;", [0x22cc]),
  ("times;", [0x22ca]), ("tri;", [0x25b9]), ("trie;", [0x22b5]), ("trif;", [0x25b8]),
  ("triltri;", [0x29ce]), ("uluhar;", [0x2968]), ("x;", [0x211e])]

private def namesLowerS : List NamedRest := [
  ("acute;", [0x15b]), ("bquo;", [0x201a]), ("c;", [0x227b]), ("cE;", [0x2ab4]),
  ("cap;", [0x2ab8]), ("caron;", [0x161]), ("ccue;", [0x227d]), ("ce;", [0x2ab0]),
  ("cedil;", [0x15f]), ("circ;", [0x15d]), ("cnE;", [0x2ab6]), ("cnap;", [0x2aba]),
  ("cnsim;", [0x22e9]), ("cpolint;", [0x2a13]), ("csim;", [0x227f]), ("cy;", [0x441]),
  ("dot;", [0x22c5]), ("dotb;", [0x22a1]), ("dote;", [0x2a66]), ("eArr;", [0x21d8]),
  ("earhk;", [0x2925]), ("earr;", [0x2198]), ("earrow;", [0x2198]), ("ect", [0xa7]),
  ("ect;", [0xa7]), ("emi;", [0x3b]), ("eswar;", [0x2929]), ("etminus;", [0x2216]),
  ("etmn;", [0x2216]), ("ext;", [0x2736]), ("fr;", [0x1d530]), ("frown;", [0x2322]),
  ("harp;", [0x266f]), ("hchcy;", [0x449]), ("hcy;", [0x448]), ("hortmid;", [0x2223]),
  ("hortparallel;", [0x2225]), ("hy", [0xad]), ("hy;", [0xad]), ("igma;", [0x3c3]),
  ("igmaf;", [0x3c2]), ("igmav;", [0x3c2]), ("im;", [0x223c]), ("imdot;", [0x2a6a]),
  ("ime;", [0x2243]), ("imeq;", [0x2243]), ("img;", [0x2a9e]), ("imgE;", [0x2aa0]),
  ("iml;", [0x2a9d]), ("imlE;", [0x2a9f]), ("imne;", [0x2246]), ("implus;", [0x2a24]),
  ("imrarr;", [0x2972]), ("larr;", [0x2190]), ("mallsetminus;", [0x2216]), ("mashp;", [0x2a33]),
  ("meparsl;", [0x29e4]), ("mid;", [0x2223]), ("mile;", [0x2323]), ("mt;", [0x2aaa]),
  ("mte;", [0x2aac]), ("mtes;", [0x2aac, 0xfe00]), ("oftcy;", [0x44c]), ("ol;", [0x2f]),
  ("olb;", [0x29c4]), ("olbar;", [0x233f]), ("opf;", [0x1d564]), ("pades;", [0x2660]),
  ("padesuit;", [0x2660]), ("par;", [0x2225]), ("qcap;", [0x2293]), ("qcaps;", [0x2293, 0xfe00]),
  ("qcup;", [0x2294]), ("qcups;", [0x2294, 0xfe00]), ("qsub;", [0x228f]), ("qsube;", [0x2291]),
  ("qsubset;", [0x228f]), ("qsubseteq;", [0x2291]), ("qsup;", [0x2290]), ("qsupe;", [0x2292]),
  ("qsupset;", [0x2290]), ("qsupseteq;", [0x2292]), ("qu;", [0x25a1]), ("quare;", [0x25a1]),
  ("quarf;", [0x25aa]), ("quf;", [0x25aa]), ("rarr;", [0x2192]), ("scr;", [0x1d4c8]),
  ("setmn;", [0x2216]), ("smile;", [0x2323]), ("starf;", [0x22c6]), ("tar;", [0x2606]),
  ("tarf;", [0x2605]), ("traightepsilon;", [0x3f5]), ("traightphi;", [0x3d5]), ("trns;", [0xaf]),
  ("ub;", [0x2282]), ("ubE;", [0x2ac5]), ("ubdot;", [0x2abd]), ("ube;", [0x2286]),
  ("ubedot;", [0x2ac3]), ("ubmult;", [0x2ac1]), ("ubnE;", [0x2acb]), ("ubne;", [0x228a]),
  ("ubplus;", [0x2abf]), ("ubrarr;", [0x2979]), ("ubset;", [0x2282]), ("ubseteq;", [0x2286]),
  ("ubseteqq;", [0x2ac5]), ("ubsetneq;", [0x228a]), ("ubsetneqq;", [0x2acb]),
  ("ubsim;", [0x2ac7]), ("ubsub;", [0x2ad5]), ("ubsup;", [0x2ad3]), ("ucc;", [0x227b]),
  ("uccapprox;", [0x2ab8]), ("ucccurlyeq;", [0x227d]), ("ucceq;", [0x2ab0]),
  ("uccnapprox;", [0x2aba]), ("uccneqq;", [0x2ab6]), ("uccnsim;", [0x22e9]),
  ("uccsim;", [0x227f]), ("um;", [0x2211]), ("ung;", [0x266a]), ("up1", [0xb9]), ("up1;", [0xb9]),
  ("up2", [0xb2]), ("up2;", [0xb2]), ("up3", [0xb3]), ("up3;", [0xb3]), ("up;", [0x2283]),
  ("upE;", [0x2ac6]), ("updot;", [0x2abe]), ("updsub;", [0x2ad8]), ("upe;", [0x2287]),
  ("upedot;", [0x2ac4]), ("uphsol;", [0x27c9]), ("uphsub;", [0x2ad7]), ("uplarr;", [0x297b]),
  ("upmult;", [0x2ac2]), ("upnE;", [0x2acc]), ("upne;", [0x228b]), ("upplus;", [0x2ac0]),
  ("upset;", [0x2283]), ("upseteq;", [0x2287]), ("upseteqq;", [0x2ac6]), ("upsetneq;", [0x228b]),
  ("upsetneqq;", [0x2acc]), ("upsim;", [0x2ac8]), ("upsub;", [0x2ad4]), ("upsup;", [0x2ad6]),
  ("wArr;", [0x21d9]), ("warhk;", [0x2926]), ("warr;", [0x2199]), ("warrow;", [0x2199]),
  ("wnwar;", [0x292a]), ("zlig", [0xdf]), ("zlig;", [0xdf])]

private def namesLowerT : List NamedRest := [
  ("arget;", [0x2316]), ("au;", [0x3c4]), ("brk;", [0x23b4]), ("caron;", [0x165]),
  ("cedil;", [0x163]), ("cy;", [0x442]), ("dot;", [0x20db]), ("elrec;", [0x2315]),
  ("fr;", [0x1d531]), ("here4;", [0x2234]), ("herefore;", [0x2234]), ("heta;", [0x3b8]),
  ("hetasym;", [0x3d1]), ("hetav;", [0x3d1]), ("hickapprox;", [0x2248]), ("hicksim;", [0x223c]),
  ("hinsp;", [0x2009]), ("hkap;", [0x2248]), ("hksim;", [0x223c]), ("horn", [0xfe]),
  ("horn;", [0xfe]), ("ilde;", [0x2dc]), ("imes", [0xd7]), ("imes;", [0xd7]),
  ("imesb;", [0x22a0]), ("imesbar;", [0x2a31]), ("imesd;", [0x2a30]), ("int;", [0x222d]),
  ("oea;", [0x2928]), ("op;", [0x22a4]), ("opbot;", [0x2336]), ("opcir;", [0x2af1]),
  ("opf;", [0x1d565]), ("opfork;", [0x2ada]), ("osa;", [0x2929]), ("prime;", [0x2034]),
  ("rade;", [0x2122]), ("riangle;", [0x25b5]), ("riangledown;", [0x25bf]),
  ("riangleleft;", [0x25c3]), ("rianglelefteq;", [0x22b4]), ("riangleq;", [0x225c]),
  ("riangleright;", [0x25b9]), ("rianglerighteq;", [0x22b5]), ("ridot;", [0x25ec]),
  ("rie;", [0x225c]), ("riminus;", [0x2a3a]), ("riplus;", [0x2a39]), ("risb;", [0x29cd]),
  ("ritime;", [0x2a3b]), ("rpezium;", [0x23e2]), ("scr;", [0x1d4c9]), ("scy;", [0x446]),
  ("shcy;", [0x45b]), ("strok;", [0x167]), ("wixt;", [0x226c]), ("woheadleftarrow;", [0x219e]),
  ("woheadrightarrow;", [0x21a0])]

private def namesLowerU : List NamedRest := [
  ("Arr;", [0x21d1]), ("Har;", [0x2963]), ("acute", [0xfa]), ("acute;", [0xfa]),
  ("arr;", [0x2191]), ("brcy;", [0x45e]), ("breve;", [0x16d]), ("circ", [0xfb]),
  ("circ;", [0xfb]), ("cy;", [0x443]), ("darr;", [0x21c5]), ("dblac;", [0x171]),
  ("dhar;", [0x296e]), ("fisht;", [0x297e]), ("fr;", [0x1d532]), ("grave", [0xf9]),
  ("grave;", [0xf9]), ("harl;", [0x21bf]), ("harr;", [0x21be]), ("hblk;", [0x2580]),
  ("lcorn;", [0x231c]), ("lcorner;", [0x231c]), ("lcrop;", [0x230f]), ("ltri;", [0x25f8]),
  ("macr;", [0x16b]), ("ml", [0xa8]), ("ml;", [0xa8]), ("ogon;", [0x173]), ("opf;", [0x1d566]),
  ("parrow;", [0x2191]), ("pdownarrow;", [0x2195]), ("pharpoonleft;", [0x21bf]),
  ("pharpoonright;", [0x21be]), ("plus;", [0x228e]), ("psi;", [0x3c5]), ("psih;", [0x3d2]),
  ("psilon;", [0x3c5]), ("puparrows;", [0x21c8]), ("rcorn;", [0x231d]), ("rcorner;", [0x231d]),
  ("rcrop;", [0x230e]), ("ring;", [0x16f]), ("rtri;", [0x25f9]), ("scr;", [0x1d4ca]),
  ("tdot;", [0x22f0]), ("tilde;", [0x169]), ("tri;", [0x25b5]), ("trif;", [0x25b4]),
  ("uarr;", [0x21c8]), ("uml", [0xfc]), ("uml;", [0xfc]), ("wangle;", [0x29a7])]

private def namesLowerV : List NamedRest := [
  ("Arr;", [0x21d5]), ("Bar;", [0x2ae8]), ("Barv;", [0x2ae9]), ("Dash;", [0x22a8]),
  ("angrt;", [0x299c]), ("arepsilon;", [0x3f5]), ("arkappa;", [0x3f0]), ("arnothing;", [0x2205]),
  ("arphi;", [0x3d5]), ("arpi;", [0x3d6]), ("arpropto;", [0x221d]), ("arr;", [0x2195]),
  ("arrho;", [0x3f1]), ("arsigma;", [0x3c2]), ("arsubsetneq;", [0x228a, 0xfe00]),
  ("arsubsetneqq;", [0x2acb, 0xfe00]), ("arsupsetneq;", [0x228b, 0xfe00]),
  ("arsupsetneqq;", [0x2acc, 0xfe00]), ("artheta;", [0x3d1]), ("artriangleleft;", [0x22b2]),
  ("artriangleright;", [0x22b3]), ("cy;", [0x432]), ("dash;", [0x22a2]), ("ee;", [0x2228]),
  ("eebar;", [0x22bb]), ("eeeq;", [0x225a]), ("ellip;", [0x22ee]), ("erbar;", [0x7c]),
  ("ert;", [0x7c]), ("fr;", [0x1d533]), ("ltri;", [0x22b2]), ("nsub;", [0x2282, 0x20d2]),
  ("nsup;", [0x2283, 0x20d2]), ("opf;", [0x1d567]), ("prop;", [0x221d]), ("rtri;", [0x22b3]),
  ("scr;", [0x1d4cb]), ("subnE;", [0x2acb, 0xfe00]), ("subne;", [0x228a, 0xfe00]),
  ("supnE;", [0x2acc, 0xfe00]), ("supne;", [0x228b, 0xfe00]), ("zigzag;", [0x299a])]

private def namesLowerW : List NamedRest := [
  ("circ;", [0x175]), ("edbar;", [0x2a5f]), ("edge;", [0x2227]), ("edgeq;", [0x2259]),
  ("eierp;", [0x2118]), ("fr;", [0x1d534]), ("opf;", [0x1d568]), ("p;", [0x2118]),
  ("r;", [0x2240]), ("reath;", [0x2240]), ("scr;", [0x1d4cc])]

private def namesLowerX : List NamedRest := [
  ("cap;", [0x22c2]), ("circ;", [0x25ef]), ("cup;", [0x22c3]), ("dtri;", [0x25bd]),
  ("fr;", [0x1d535]), ("hArr;", [0x27fa]), ("harr;", [0x27f7]), ("i;", [0x3be]),
  ("lArr;", [0x27f8]), ("larr;", [0x27f5]), ("map;", [0x27fc]), ("nis;", [0x22fb]),
  ("odot;", [0x2a00]), ("opf;", [0x1d569]), ("oplus;", [0x2a01]), ("otime;", [0x2a02]),
  ("rArr;", [0x27f9]), ("rarr;", [0x27f6]), ("scr;", [0x1d4cd]), ("sqcup;", [0x2a06]),
  ("uplus;", [0x2a04]), ("utri;", [0x25b3]), ("vee;", [0x22c1]), ("wedge;", [0x22c0])]

private def namesLowerY : List NamedRest := [
  ("acute", [0xfd]), ("acute;", [0xfd]), ("acy;", [0x44f]), ("circ;", [0x177]), ("cy;", [0x44b]),
  ("en", [0xa5]), ("en;", [0xa5]), ("fr;", [0x1d536]), ("icy;", [0x457]), ("opf;", [0x1d56a]),
  ("scr;", [0x1d4ce]), ("ucy;", [0x44e]), ("uml", [0xff]), ("uml;", [0xff])]

private def namesLowerZ : List NamedRest := [
  ("acute;", [0x17a]), ("caron;", [0x17e]), ("cy;", [0x437]), ("dot;", [0x17c]),
  ("eetrf;", [0x2128]), ("eta;", [0x3b6]), ("fr;", [0x1d537]), ("hcy;", [0x436]),
  ("igrarr;", [0x21dd]), ("opf;", [0x1d56b]), ("scr;", [0x1d4cf]), ("wj;", [0x200d]),
  ("wnj;", [0x200c])]

/-- The names that start with a letter. -/
def namesFrom : Char → List NamedRest
  | 'A' => namesUpperA
  | 'B' => namesUpperB
  | 'C' => namesUpperC
  | 'D' => namesUpperD
  | 'E' => namesUpperE
  | 'F' => namesUpperF
  | 'G' => namesUpperG
  | 'H' => namesUpperH
  | 'I' => namesUpperI
  | 'J' => namesUpperJ
  | 'K' => namesUpperK
  | 'L' => namesUpperL
  | 'M' => namesUpperM
  | 'N' => namesUpperN
  | 'O' => namesUpperO
  | 'P' => namesUpperP
  | 'Q' => namesUpperQ
  | 'R' => namesUpperR
  | 'S' => namesUpperS
  | 'T' => namesUpperT
  | 'U' => namesUpperU
  | 'V' => namesUpperV
  | 'W' => namesUpperW
  | 'X' => namesUpperX
  | 'Y' => namesUpperY
  | 'Z' => namesUpperZ
  | 'a' => namesLowerA
  | 'b' => namesLowerB
  | 'c' => namesLowerC
  | 'd' => namesLowerD
  | 'e' => namesLowerE
  | 'f' => namesLowerF
  | 'g' => namesLowerG
  | 'h' => namesLowerH
  | 'i' => namesLowerI
  | 'j' => namesLowerJ
  | 'k' => namesLowerK
  | 'l' => namesLowerL
  | 'm' => namesLowerM
  | 'n' => namesLowerN
  | 'o' => namesLowerO
  | 'p' => namesLowerP
  | 'q' => namesLowerQ
  | 'r' => namesLowerR
  | 's' => namesLowerS
  | 't' => namesLowerT
  | 'u' => namesLowerU
  | 'v' => namesLowerV
  | 'w' => namesLowerW
  | 'x' => namesLowerX
  | 'y' => namesLowerY
  | 'z' => namesLowerZ
  | _ => []

end PageWiring.Markup
