/-! # Named character references from `u` to `z`
-/

namespace CuratedList.Markdown
set_option autoImplicit false

/-- The names that start with a letter from `u` to `z` of either case, and their characters. -/
def entitiesUZ : List (String × String) :=
  [("Uacute", "\xda"), ("Uarr", "\u219f"), ("Uarrocir", "\u2949"), ("Ubrcy", "\u040e"),
    ("Ubreve", "\u016c"), ("Ucirc", "\xdb"), ("Ucy", "\u0423"), ("Udblac", "\u0170"), ("Ufr", "𝔘"),
    ("Ugrave", "\xd9"), ("Umacr", "\u016a"), ("UnderBar", "_"), ("UnderBrace", "\u23df"),
    ("UnderBracket", "\u23b5"), ("UnderParenthesis", "\u23dd"), ("Union", "\u22c3"),
    ("UnionPlus", "\u228e"), ("Uogon", "\u0172"), ("Uopf", "𝕌"), ("UpArrow", "\u2191"),
    ("UpArrowBar", "\u2912"), ("UpArrowDownArrow", "\u21c5"), ("UpDownArrow", "\u2195"),
    ("UpEquilibrium", "\u296e"), ("UpTee", "\u22a5"), ("UpTeeArrow", "\u21a5"),
    ("Uparrow", "\u21d1"), ("Updownarrow", "\u21d5"), ("UpperLeftArrow", "\u2196"),
    ("UpperRightArrow", "\u2197"), ("Upsi", "\u03d2"), ("Upsilon", "\u03a5"), ("Uring", "\u016e"),
    ("Uscr", "𝒰"), ("Utilde", "\u0168"), ("Uuml", "\xdc"), ("VDash", "\u22ab"), ("Vbar", "\u2aeb"),
    ("Vcy", "\u0412"), ("Vdash", "\u22a9"), ("Vdashl", "\u2ae6"), ("Vee", "\u22c1"),
    ("Verbar", "\u2016"), ("Vert", "\u2016"), ("VerticalBar", "\u2223"), ("VerticalLine", "|"),
    ("VerticalSeparator", "\u2758"), ("VerticalTilde", "\u2240"), ("VeryThinSpace", "\u200a"),
    ("Vfr", "𝔙"), ("Vopf", "𝕍"), ("Vscr", "𝒱"), ("Vvdash", "\u22aa"), ("Wcirc", "\u0174"),
    ("Wedge", "\u22c0"), ("Wfr", "𝔚"), ("Wopf", "𝕎"), ("Wscr", "𝒲"), ("Xfr", "𝔛"), ("Xi", "\u039e"),
    ("Xopf", "𝕏"), ("Xscr", "𝒳"), ("YAcy", "\u042f"), ("YIcy", "\u0407"), ("YUcy", "\u042e"),
    ("Yacute", "\xdd"), ("Ycirc", "\u0176"), ("Ycy", "\u042b"), ("Yfr", "𝔜"), ("Yopf", "𝕐"),
    ("Yscr", "𝒴"), ("Yuml", "\u0178"), ("ZHcy", "\u0416"), ("Zacute", "\u0179"),
    ("Zcaron", "\u017d"), ("Zcy", "\u0417"), ("Zdot", "\u017b"), ("ZeroWidthSpace", "\u200b"),
    ("Zeta", "\u0396"), ("Zfr", "\u2128"), ("Zopf", "\u2124"), ("Zscr", "𝒵"), ("uArr", "\u21d1"),
    ("uHar", "\u2963"), ("uacute", "\xfa"), ("uarr", "\u2191"), ("ubrcy", "\u045e"),
    ("ubreve", "\u016d"), ("ucirc", "\xfb"), ("ucy", "\u0443"), ("udarr", "\u21c5"),
    ("udblac", "\u0171"), ("udhar", "\u296e"), ("ufisht", "\u297e"), ("ufr", "𝔲"),
    ("ugrave", "\xf9"), ("uharl", "\u21bf"), ("uharr", "\u21be"), ("uhblk", "\u2580"),
    ("ulcorn", "\u231c"), ("ulcorner", "\u231c"), ("ulcrop", "\u230f"), ("ultri", "\u25f8"),
    ("umacr", "\u016b"), ("uml", "\xa8"), ("uogon", "\u0173"), ("uopf", "𝕦"), ("uparrow", "\u2191"),
    ("updownarrow", "\u2195"), ("upharpoonleft", "\u21bf"), ("upharpoonright", "\u21be"),
    ("uplus", "\u228e"), ("upsi", "\u03c5"), ("upsih", "\u03d2"), ("upsilon", "\u03c5"),
    ("upuparrows", "\u21c8"), ("urcorn", "\u231d"), ("urcorner", "\u231d"), ("urcrop", "\u230e"),
    ("uring", "\u016f"), ("urtri", "\u25f9"), ("uscr", "𝓊"), ("utdot", "\u22f0"),
    ("utilde", "\u0169"), ("utri", "\u25b5"), ("utrif", "\u25b4"), ("uuarr", "\u21c8"),
    ("uuml", "\xfc"), ("uwangle", "\u29a7"), ("vArr", "\u21d5"), ("vBar", "\u2ae8"),
    ("vBarv", "\u2ae9"), ("vDash", "\u22a8"), ("vangrt", "\u299c"), ("varepsilon", "\u03f5"),
    ("varkappa", "\u03f0"), ("varnothing", "\u2205"), ("varphi", "\u03d5"), ("varpi", "\u03d6"),
    ("varpropto", "\u221d"), ("varr", "\u2195"), ("varrho", "\u03f1"), ("varsigma", "\u03c2"),
    ("varsubsetneq", "\u228a\ufe00"), ("varsubsetneqq", "\u2acb\ufe00"),
    ("varsupsetneq", "\u228b\ufe00"), ("varsupsetneqq", "\u2acc\ufe00"), ("vartheta", "\u03d1"),
    ("vartriangleleft", "\u22b2"), ("vartriangleright", "\u22b3"), ("vcy", "\u0432"),
    ("vdash", "\u22a2"), ("vee", "\u2228"), ("veebar", "\u22bb"), ("veeeq", "\u225a"),
    ("vellip", "\u22ee"), ("verbar", "|"), ("vert", "|"), ("vfr", "𝔳"), ("vltri", "\u22b2"),
    ("vnsub", "\u2282\u20d2"), ("vnsup", "\u2283\u20d2"), ("vopf", "𝕧"), ("vprop", "\u221d"),
    ("vrtri", "\u22b3"), ("vscr", "𝓋"), ("vsubnE", "\u2acb\ufe00"), ("vsubne", "\u228a\ufe00"),
    ("vsupnE", "\u2acc\ufe00"), ("vsupne", "\u228b\ufe00"), ("vzigzag", "\u299a"),
    ("wcirc", "\u0175"), ("wedbar", "\u2a5f"), ("wedge", "\u2227"), ("wedgeq", "\u2259"),
    ("weierp", "\u2118"), ("wfr", "𝔴"), ("wopf", "𝕨"), ("wp", "\u2118"), ("wr", "\u2240"),
    ("wreath", "\u2240"), ("wscr", "𝓌"), ("xcap", "\u22c2"), ("xcirc", "\u25ef"),
    ("xcup", "\u22c3"), ("xdtri", "\u25bd"), ("xfr", "𝔵"), ("xhArr", "\u27fa"), ("xharr", "\u27f7"),
    ("xi", "\u03be"), ("xlArr", "\u27f8"), ("xlarr", "\u27f5"), ("xmap", "\u27fc"),
    ("xnis", "\u22fb"), ("xodot", "\u2a00"), ("xopf", "𝕩"), ("xoplus", "\u2a01"),
    ("xotime", "\u2a02"), ("xrArr", "\u27f9"), ("xrarr", "\u27f6"), ("xscr", "𝓍"),
    ("xsqcup", "\u2a06"), ("xuplus", "\u2a04"), ("xutri", "\u25b3"), ("xvee", "\u22c1"),
    ("xwedge", "\u22c0"), ("yacute", "\xfd"), ("yacy", "\u044f"), ("ycirc", "\u0177"),
    ("ycy", "\u044b"), ("yen", "\xa5"), ("yfr", "𝔶"), ("yicy", "\u0457"), ("yopf", "𝕪"),
    ("yscr", "𝓎"), ("yucy", "\u044e"), ("yuml", "\xff"), ("zacute", "\u017a"), ("zcaron", "\u017e"),
    ("zcy", "\u0437"), ("zdot", "\u017c"), ("zeetrf", "\u2128"), ("zeta", "\u03b6"), ("zfr", "𝔷"),
    ("zhcy", "\u0436"), ("zigrarr", "\u21dd"), ("zopf", "𝕫"), ("zscr", "𝓏"), ("zwj", "\u200d"),
    ("zwnj", "\u200c")]

end CuratedList.Markdown
