/-! # Named character references from `a` to `c`
-/

namespace CuratedList.Markdown
set_option autoImplicit false

/-- The names that start with a letter from `a` to `c` of either case, and their characters. -/
def entitiesAC : List (String × String) :=
  [("AElig", "\xc6"), ("AMP", "&"), ("Aacute", "\xc1"), ("Abreve", "\u0102"), ("Acirc", "\xc2"),
    ("Acy", "\u0410"), ("Afr", "𝔄"), ("Agrave", "\xc0"), ("Alpha", "\u0391"), ("Amacr", "\u0100"),
    ("And", "\u2a53"), ("Aogon", "\u0104"), ("Aopf", "𝔸"), ("ApplyFunction", "\u2061"),
    ("Aring", "\xc5"), ("Ascr", "𝒜"), ("Assign", "\u2254"), ("Atilde", "\xc3"), ("Auml", "\xc4"),
    ("Backslash", "\u2216"), ("Barv", "\u2ae7"), ("Barwed", "\u2306"), ("Bcy", "\u0411"),
    ("Because", "\u2235"), ("Bernoullis", "\u212c"), ("Beta", "\u0392"), ("Bfr", "𝔅"),
    ("Bopf", "𝔹"), ("Breve", "\u02d8"), ("Bscr", "\u212c"), ("Bumpeq", "\u224e"),
    ("CHcy", "\u0427"), ("COPY", "\xa9"), ("Cacute", "\u0106"), ("Cap", "\u22d2"),
    ("CapitalDifferentialD", "\u2145"), ("Cayleys", "\u212d"), ("Ccaron", "\u010c"),
    ("Ccedil", "\xc7"), ("Ccirc", "\u0108"), ("Cconint", "\u2230"), ("Cdot", "\u010a"),
    ("Cedilla", "\xb8"), ("CenterDot", "\xb7"), ("Cfr", "\u212d"), ("Chi", "\u03a7"),
    ("CircleDot", "\u2299"), ("CircleMinus", "\u2296"), ("CirclePlus", "\u2295"),
    ("CircleTimes", "\u2297"), ("ClockwiseContourIntegral", "\u2232"),
    ("CloseCurlyDoubleQuote", "\u201d"), ("CloseCurlyQuote", "\u2019"), ("Colon", "\u2237"),
    ("Colone", "\u2a74"), ("Congruent", "\u2261"), ("Conint", "\u222f"),
    ("ContourIntegral", "\u222e"), ("Copf", "\u2102"), ("Coproduct", "\u2210"),
    ("CounterClockwiseContourIntegral", "\u2233"), ("Cross", "\u2a2f"), ("Cscr", "𝒞"),
    ("Cup", "\u22d3"), ("CupCap", "\u224d"), ("aacute", "\xe1"), ("abreve", "\u0103"),
    ("ac", "\u223e"), ("acE", "\u223e\u0333"), ("acd", "\u223f"), ("acirc", "\xe2"),
    ("acute", "\xb4"), ("acy", "\u0430"), ("aelig", "\xe6"), ("af", "\u2061"), ("afr", "𝔞"),
    ("agrave", "\xe0"), ("alefsym", "\u2135"), ("aleph", "\u2135"), ("alpha", "\u03b1"),
    ("amacr", "\u0101"), ("amalg", "\u2a3f"), ("amp", "&"), ("and", "\u2227"), ("andand", "\u2a55"),
    ("andd", "\u2a5c"), ("andslope", "\u2a58"), ("andv", "\u2a5a"), ("ang", "\u2220"),
    ("ange", "\u29a4"), ("angle", "\u2220"), ("angmsd", "\u2221"), ("angmsdaa", "\u29a8"),
    ("angmsdab", "\u29a9"), ("angmsdac", "\u29aa"), ("angmsdad", "\u29ab"), ("angmsdae", "\u29ac"),
    ("angmsdaf", "\u29ad"), ("angmsdag", "\u29ae"), ("angmsdah", "\u29af"), ("angrt", "\u221f"),
    ("angrtvb", "\u22be"), ("angrtvbd", "\u299d"), ("angsph", "\u2222"), ("angst", "\xc5"),
    ("angzarr", "\u237c"), ("aogon", "\u0105"), ("aopf", "𝕒"), ("ap", "\u2248"), ("apE", "\u2a70"),
    ("apacir", "\u2a6f"), ("ape", "\u224a"), ("apid", "\u224b"), ("apos", "'"),
    ("approx", "\u2248"), ("approxeq", "\u224a"), ("aring", "\xe5"), ("ascr", "𝒶"), ("ast", "*"),
    ("asymp", "\u2248"), ("asympeq", "\u224d"), ("atilde", "\xe3"), ("auml", "\xe4"),
    ("awconint", "\u2233"), ("awint", "\u2a11"), ("bNot", "\u2aed"), ("backcong", "\u224c"),
    ("backepsilon", "\u03f6"), ("backprime", "\u2035"), ("backsim", "\u223d"),
    ("backsimeq", "\u22cd"), ("barvee", "\u22bd"), ("barwed", "\u2305"), ("barwedge", "\u2305"),
    ("bbrk", "\u23b5"), ("bbrktbrk", "\u23b6"), ("bcong", "\u224c"), ("bcy", "\u0431"),
    ("bdquo", "\u201e"), ("becaus", "\u2235"), ("because", "\u2235"), ("bemptyv", "\u29b0"),
    ("bepsi", "\u03f6"), ("bernou", "\u212c"), ("beta", "\u03b2"), ("beth", "\u2136"),
    ("between", "\u226c"), ("bfr", "𝔟"), ("bigcap", "\u22c2"), ("bigcirc", "\u25ef"),
    ("bigcup", "\u22c3"), ("bigodot", "\u2a00"), ("bigoplus", "\u2a01"), ("bigotimes", "\u2a02"),
    ("bigsqcup", "\u2a06"), ("bigstar", "\u2605"), ("bigtriangledown", "\u25bd"),
    ("bigtriangleup", "\u25b3"), ("biguplus", "\u2a04"), ("bigvee", "\u22c1"),
    ("bigwedge", "\u22c0"), ("bkarow", "\u290d"), ("blacklozenge", "\u29eb"),
    ("blacksquare", "\u25aa"), ("blacktriangle", "\u25b4"), ("blacktriangledown", "\u25be"),
    ("blacktriangleleft", "\u25c2"), ("blacktriangleright", "\u25b8"), ("blank", "\u2423"),
    ("blk12", "\u2592"), ("blk14", "\u2591"), ("blk34", "\u2593"), ("block", "\u2588"),
    ("bne", "=\u20e5"), ("bnequiv", "\u2261\u20e5"), ("bnot", "\u2310"), ("bopf", "𝕓"),
    ("bot", "\u22a5"), ("bottom", "\u22a5"), ("bowtie", "\u22c8"), ("boxDL", "\u2557"),
    ("boxDR", "\u2554"), ("boxDl", "\u2556"), ("boxDr", "\u2553"), ("boxH", "\u2550"),
    ("boxHD", "\u2566"), ("boxHU", "\u2569"), ("boxHd", "\u2564"), ("boxHu", "\u2567"),
    ("boxUL", "\u255d"), ("boxUR", "\u255a"), ("boxUl", "\u255c"), ("boxUr", "\u2559"),
    ("boxV", "\u2551"), ("boxVH", "\u256c"), ("boxVL", "\u2563"), ("boxVR", "\u2560"),
    ("boxVh", "\u256b"), ("boxVl", "\u2562"), ("boxVr", "\u255f"), ("boxbox", "\u29c9"),
    ("boxdL", "\u2555"), ("boxdR", "\u2552"), ("boxdl", "\u2510"), ("boxdr", "\u250c"),
    ("boxh", "\u2500"), ("boxhD", "\u2565"), ("boxhU", "\u2568"), ("boxhd", "\u252c"),
    ("boxhu", "\u2534"), ("boxminus", "\u229f"), ("boxplus", "\u229e"), ("boxtimes", "\u22a0"),
    ("boxuL", "\u255b"), ("boxuR", "\u2558"), ("boxul", "\u2518"), ("boxur", "\u2514"),
    ("boxv", "\u2502"), ("boxvH", "\u256a"), ("boxvL", "\u2561"), ("boxvR", "\u255e"),
    ("boxvh", "\u253c"), ("boxvl", "\u2524"), ("boxvr", "\u251c"), ("bprime", "\u2035"),
    ("breve", "\u02d8"), ("brvbar", "\xa6"), ("bscr", "𝒷"), ("bsemi", "\u204f"), ("bsim", "\u223d"),
    ("bsime", "\u22cd"), ("bsol", "\x5c"), ("bsolb", "\u29c5"), ("bsolhsub", "\u27c8"),
    ("bull", "\u2022"), ("bullet", "\u2022"), ("bump", "\u224e"), ("bumpE", "\u2aae"),
    ("bumpe", "\u224f"), ("bumpeq", "\u224f"), ("cacute", "\u0107"), ("cap", "\u2229"),
    ("capand", "\u2a44"), ("capbrcup", "\u2a49"), ("capcap", "\u2a4b"), ("capcup", "\u2a47"),
    ("capdot", "\u2a40"), ("caps", "\u2229\ufe00"), ("caret", "\u2041"), ("caron", "\u02c7"),
    ("ccaps", "\u2a4d"), ("ccaron", "\u010d"), ("ccedil", "\xe7"), ("ccirc", "\u0109"),
    ("ccups", "\u2a4c"), ("ccupssm", "\u2a50"), ("cdot", "\u010b"), ("cedil", "\xb8"),
    ("cemptyv", "\u29b2"), ("cent", "\xa2"), ("centerdot", "\xb7"), ("cfr", "𝔠"),
    ("chcy", "\u0447"), ("check", "\u2713"), ("checkmark", "\u2713"), ("chi", "\u03c7"),
    ("cir", "\u25cb"), ("cirE", "\u29c3"), ("circ", "\u02c6"), ("circeq", "\u2257"),
    ("circlearrowleft", "\u21ba"), ("circlearrowright", "\u21bb"), ("circledR", "\xae"),
    ("circledS", "\u24c8"), ("circledast", "\u229b"), ("circledcirc", "\u229a"),
    ("circleddash", "\u229d"), ("cire", "\u2257"), ("cirfnint", "\u2a10"), ("cirmid", "\u2aef"),
    ("cirscir", "\u29c2"), ("clubs", "\u2663"), ("clubsuit", "\u2663"), ("colon", ":"),
    ("colone", "\u2254"), ("coloneq", "\u2254"), ("comma", ","), ("commat", "@"),
    ("comp", "\u2201"), ("compfn", "\u2218"), ("complement", "\u2201"), ("complexes", "\u2102"),
    ("cong", "\u2245"), ("congdot", "\u2a6d"), ("conint", "\u222e"), ("copf", "𝕔"),
    ("coprod", "\u2210"), ("copy", "\xa9"), ("copysr", "\u2117"), ("crarr", "\u21b5"),
    ("cross", "\u2717"), ("cscr", "𝒸"), ("csub", "\u2acf"), ("csube", "\u2ad1"), ("csup", "\u2ad0"),
    ("csupe", "\u2ad2"), ("ctdot", "\u22ef"), ("cudarrl", "\u2938"), ("cudarrr", "\u2935"),
    ("cuepr", "\u22de"), ("cuesc", "\u22df"), ("cularr", "\u21b6"), ("cularrp", "\u293d"),
    ("cup", "\u222a"), ("cupbrcap", "\u2a48"), ("cupcap", "\u2a46"), ("cupcup", "\u2a4a"),
    ("cupdot", "\u228d"), ("cupor", "\u2a45"), ("cups", "\u222a\ufe00"), ("curarr", "\u21b7"),
    ("curarrm", "\u293c"), ("curlyeqprec", "\u22de"), ("curlyeqsucc", "\u22df"),
    ("curlyvee", "\u22ce"), ("curlywedge", "\u22cf"), ("curren", "\xa4"),
    ("curvearrowleft", "\u21b6"), ("curvearrowright", "\u21b7"), ("cuvee", "\u22ce"),
    ("cuwed", "\u22cf"), ("cwconint", "\u2232"), ("cwint", "\u2231"), ("cylcty", "\u232d")]

end CuratedList.Markdown
