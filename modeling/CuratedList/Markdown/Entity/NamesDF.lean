/-! # Named character references from `d` to `f`
-/

namespace CuratedList.Markdown
set_option autoImplicit false

/-- The names that start with a letter from `d` to `f` of either case, and their characters. -/
def entitiesDF : List (String × String) :=
  [("DD", "\u2145"), ("DDotrahd", "\u2911"), ("DJcy", "\u0402"), ("DScy", "\u0405"),
    ("DZcy", "\u040f"), ("Dagger", "\u2021"), ("Darr", "\u21a1"), ("Dashv", "\u2ae4"),
    ("Dcaron", "\u010e"), ("Dcy", "\u0414"), ("Del", "\u2207"), ("Delta", "\u0394"), ("Dfr", "𝔇"),
    ("DiacriticalAcute", "\xb4"), ("DiacriticalDot", "\u02d9"),
    ("DiacriticalDoubleAcute", "\u02dd"), ("DiacriticalGrave", "`"), ("DiacriticalTilde", "\u02dc"),
    ("Diamond", "\u22c4"), ("DifferentialD", "\u2146"), ("Dopf", "𝔻"), ("Dot", "\xa8"),
    ("DotDot", "\u20dc"), ("DotEqual", "\u2250"), ("DoubleContourIntegral", "\u222f"),
    ("DoubleDot", "\xa8"), ("DoubleDownArrow", "\u21d3"), ("DoubleLeftArrow", "\u21d0"),
    ("DoubleLeftRightArrow", "\u21d4"), ("DoubleLeftTee", "\u2ae4"),
    ("DoubleLongLeftArrow", "\u27f8"), ("DoubleLongLeftRightArrow", "\u27fa"),
    ("DoubleLongRightArrow", "\u27f9"), ("DoubleRightArrow", "\u21d2"),
    ("DoubleRightTee", "\u22a8"), ("DoubleUpArrow", "\u21d1"), ("DoubleUpDownArrow", "\u21d5"),
    ("DoubleVerticalBar", "\u2225"), ("DownArrow", "\u2193"), ("DownArrowBar", "\u2913"),
    ("DownArrowUpArrow", "\u21f5"), ("DownBreve", "\u0311"), ("DownLeftRightVector", "\u2950"),
    ("DownLeftTeeVector", "\u295e"), ("DownLeftVector", "\u21bd"), ("DownLeftVectorBar", "\u2956"),
    ("DownRightTeeVector", "\u295f"), ("DownRightVector", "\u21c1"),
    ("DownRightVectorBar", "\u2957"), ("DownTee", "\u22a4"), ("DownTeeArrow", "\u21a7"),
    ("Downarrow", "\u21d3"), ("Dscr", "𝒟"), ("Dstrok", "\u0110"), ("ENG", "\u014a"),
    ("ETH", "\xd0"), ("Eacute", "\xc9"), ("Ecaron", "\u011a"), ("Ecirc", "\xca"), ("Ecy", "\u042d"),
    ("Edot", "\u0116"), ("Efr", "𝔈"), ("Egrave", "\xc8"), ("Element", "\u2208"),
    ("Emacr", "\u0112"), ("EmptySmallSquare", "\u25fb"), ("EmptyVerySmallSquare", "\u25ab"),
    ("Eogon", "\u0118"), ("Eopf", "𝔼"), ("Epsilon", "\u0395"), ("Equal", "\u2a75"),
    ("EqualTilde", "\u2242"), ("Equilibrium", "\u21cc"), ("Escr", "\u2130"), ("Esim", "\u2a73"),
    ("Eta", "\u0397"), ("Euml", "\xcb"), ("Exists", "\u2203"), ("ExponentialE", "\u2147"),
    ("Fcy", "\u0424"), ("Ffr", "𝔉"), ("FilledSmallSquare", "\u25fc"),
    ("FilledVerySmallSquare", "\u25aa"), ("Fopf", "𝔽"), ("ForAll", "\u2200"),
    ("Fouriertrf", "\u2131"), ("Fscr", "\u2131"), ("dArr", "\u21d3"), ("dHar", "\u2965"),
    ("dagger", "\u2020"), ("daleth", "\u2138"), ("darr", "\u2193"), ("dash", "\u2010"),
    ("dashv", "\u22a3"), ("dbkarow", "\u290f"), ("dblac", "\u02dd"), ("dcaron", "\u010f"),
    ("dcy", "\u0434"), ("dd", "\u2146"), ("ddagger", "\u2021"), ("ddarr", "\u21ca"),
    ("ddotseq", "\u2a77"), ("deg", "\xb0"), ("delta", "\u03b4"), ("demptyv", "\u29b1"),
    ("dfisht", "\u297f"), ("dfr", "𝔡"), ("dharl", "\u21c3"), ("dharr", "\u21c2"),
    ("diam", "\u22c4"), ("diamond", "\u22c4"), ("diamondsuit", "\u2666"), ("diams", "\u2666"),
    ("die", "\xa8"), ("digamma", "\u03dd"), ("disin", "\u22f2"), ("div", "\xf7"),
    ("divide", "\xf7"), ("divideontimes", "\u22c7"), ("divonx", "\u22c7"), ("djcy", "\u0452"),
    ("dlcorn", "\u231e"), ("dlcrop", "\u230d"), ("dollar", "$"), ("dopf", "𝕕"), ("dot", "\u02d9"),
    ("doteq", "\u2250"), ("doteqdot", "\u2251"), ("dotminus", "\u2238"), ("dotplus", "\u2214"),
    ("dotsquare", "\u22a1"), ("doublebarwedge", "\u2306"), ("downarrow", "\u2193"),
    ("downdownarrows", "\u21ca"), ("downharpoonleft", "\u21c3"), ("downharpoonright", "\u21c2"),
    ("drbkarow", "\u2910"), ("drcorn", "\u231f"), ("drcrop", "\u230c"), ("dscr", "𝒹"),
    ("dscy", "\u0455"), ("dsol", "\u29f6"), ("dstrok", "\u0111"), ("dtdot", "\u22f1"),
    ("dtri", "\u25bf"), ("dtrif", "\u25be"), ("duarr", "\u21f5"), ("duhar", "\u296f"),
    ("dwangle", "\u29a6"), ("dzcy", "\u045f"), ("dzigrarr", "\u27ff"), ("eDDot", "\u2a77"),
    ("eDot", "\u2251"), ("eacute", "\xe9"), ("easter", "\u2a6e"), ("ecaron", "\u011b"),
    ("ecir", "\u2256"), ("ecirc", "\xea"), ("ecolon", "\u2255"), ("ecy", "\u044d"),
    ("edot", "\u0117"), ("ee", "\u2147"), ("efDot", "\u2252"), ("efr", "𝔢"), ("eg", "\u2a9a"),
    ("egrave", "\xe8"), ("egs", "\u2a96"), ("egsdot", "\u2a98"), ("el", "\u2a99"),
    ("elinters", "\u23e7"), ("ell", "\u2113"), ("els", "\u2a95"), ("elsdot", "\u2a97"),
    ("emacr", "\u0113"), ("empty", "\u2205"), ("emptyset", "\u2205"), ("emptyv", "\u2205"),
    ("emsp", "\u2003"), ("emsp13", "\u2004"), ("emsp14", "\u2005"), ("eng", "\u014b"),
    ("ensp", "\u2002"), ("eogon", "\u0119"), ("eopf", "𝕖"), ("epar", "\u22d5"),
    ("eparsl", "\u29e3"), ("eplus", "\u2a71"), ("epsi", "\u03b5"), ("epsilon", "\u03b5"),
    ("epsiv", "\u03f5"), ("eqcirc", "\u2256"), ("eqcolon", "\u2255"), ("eqsim", "\u2242"),
    ("eqslantgtr", "\u2a96"), ("eqslantless", "\u2a95"), ("equals", "="), ("equest", "\u225f"),
    ("equiv", "\u2261"), ("equivDD", "\u2a78"), ("eqvparsl", "\u29e5"), ("erDot", "\u2253"),
    ("erarr", "\u2971"), ("escr", "\u212f"), ("esdot", "\u2250"), ("esim", "\u2242"),
    ("eta", "\u03b7"), ("eth", "\xf0"), ("euml", "\xeb"), ("euro", "\u20ac"), ("excl", "!"),
    ("exist", "\u2203"), ("expectation", "\u2130"), ("exponentiale", "\u2147"),
    ("fallingdotseq", "\u2252"), ("fcy", "\u0444"), ("female", "\u2640"), ("ffilig", "\ufb03"),
    ("fflig", "\ufb00"), ("ffllig", "\ufb04"), ("ffr", "𝔣"), ("filig", "\ufb01"), ("fjlig", "fj"),
    ("flat", "\u266d"), ("fllig", "\ufb02"), ("fltns", "\u25b1"), ("fnof", "\u0192"), ("fopf", "𝕗"),
    ("forall", "\u2200"), ("fork", "\u22d4"), ("forkv", "\u2ad9"), ("fpartint", "\u2a0d"),
    ("frac12", "\xbd"), ("frac13", "\u2153"), ("frac14", "\xbc"), ("frac15", "\u2155"),
    ("frac16", "\u2159"), ("frac18", "\u215b"), ("frac23", "\u2154"), ("frac25", "\u2156"),
    ("frac34", "\xbe"), ("frac35", "\u2157"), ("frac38", "\u215c"), ("frac45", "\u2158"),
    ("frac56", "\u215a"), ("frac58", "\u215d"), ("frac78", "\u215e"), ("frasl", "\u2044"),
    ("frown", "\u2322"), ("fscr", "𝒻")]

end CuratedList.Markdown
