/-! # Named character references from `m` to `q`
-/

namespace CuratedList.Markdown
set_option autoImplicit false

/-- The names that start with a letter from `m` to `q` of either case, and their characters. -/
def entitiesMQ : List (String × String) :=
  [("Map", "\u2905"), ("Mcy", "\u041c"), ("MediumSpace", "\u205f"), ("Mellintrf", "\u2133"),
    ("Mfr", "𝔐"), ("MinusPlus", "\u2213"), ("Mopf", "𝕄"), ("Mscr", "\u2133"), ("Mu", "\u039c"),
    ("NJcy", "\u040a"), ("Nacute", "\u0143"), ("Ncaron", "\u0147"), ("Ncedil", "\u0145"),
    ("Ncy", "\u041d"), ("NegativeMediumSpace", "\u200b"), ("NegativeThickSpace", "\u200b"),
    ("NegativeThinSpace", "\u200b"), ("NegativeVeryThinSpace", "\u200b"),
    ("NestedGreaterGreater", "\u226b"), ("NestedLessLess", "\u226a"), ("NewLine", "\x0a"),
    ("Nfr", "𝔑"), ("NoBreak", "\u2060"), ("NonBreakingSpace", "\xa0"), ("Nopf", "\u2115"),
    ("Not", "\u2aec"), ("NotCongruent", "\u2262"), ("NotCupCap", "\u226d"),
    ("NotDoubleVerticalBar", "\u2226"), ("NotElement", "\u2209"), ("NotEqual", "\u2260"),
    ("NotEqualTilde", "\u2242\u0338"), ("NotExists", "\u2204"), ("NotGreater", "\u226f"),
    ("NotGreaterEqual", "\u2271"), ("NotGreaterFullEqual", "\u2267\u0338"),
    ("NotGreaterGreater", "\u226b\u0338"), ("NotGreaterLess", "\u2279"),
    ("NotGreaterSlantEqual", "\u2a7e\u0338"), ("NotGreaterTilde", "\u2275"),
    ("NotHumpDownHump", "\u224e\u0338"), ("NotHumpEqual", "\u224f\u0338"),
    ("NotLeftTriangle", "\u22ea"), ("NotLeftTriangleBar", "\u29cf\u0338"),
    ("NotLeftTriangleEqual", "\u22ec"), ("NotLess", "\u226e"), ("NotLessEqual", "\u2270"),
    ("NotLessGreater", "\u2278"), ("NotLessLess", "\u226a\u0338"),
    ("NotLessSlantEqual", "\u2a7d\u0338"), ("NotLessTilde", "\u2274"),
    ("NotNestedGreaterGreater", "\u2aa2\u0338"), ("NotNestedLessLess", "\u2aa1\u0338"),
    ("NotPrecedes", "\u2280"), ("NotPrecedesEqual", "\u2aaf\u0338"),
    ("NotPrecedesSlantEqual", "\u22e0"), ("NotReverseElement", "\u220c"),
    ("NotRightTriangle", "\u22eb"), ("NotRightTriangleBar", "\u29d0\u0338"),
    ("NotRightTriangleEqual", "\u22ed"), ("NotSquareSubset", "\u228f\u0338"),
    ("NotSquareSubsetEqual", "\u22e2"), ("NotSquareSuperset", "\u2290\u0338"),
    ("NotSquareSupersetEqual", "\u22e3"), ("NotSubset", "\u2282\u20d2"),
    ("NotSubsetEqual", "\u2288"), ("NotSucceeds", "\u2281"), ("NotSucceedsEqual", "\u2ab0\u0338"),
    ("NotSucceedsSlantEqual", "\u22e1"), ("NotSucceedsTilde", "\u227f\u0338"),
    ("NotSuperset", "\u2283\u20d2"), ("NotSupersetEqual", "\u2289"), ("NotTilde", "\u2241"),
    ("NotTildeEqual", "\u2244"), ("NotTildeFullEqual", "\u2247"), ("NotTildeTilde", "\u2249"),
    ("NotVerticalBar", "\u2224"), ("Nscr", "𝒩"), ("Ntilde", "\xd1"), ("Nu", "\u039d"),
    ("OElig", "\u0152"), ("Oacute", "\xd3"), ("Ocirc", "\xd4"), ("Ocy", "\u041e"),
    ("Odblac", "\u0150"), ("Ofr", "𝔒"), ("Ograve", "\xd2"), ("Omacr", "\u014c"),
    ("Omega", "\u03a9"), ("Omicron", "\u039f"), ("Oopf", "𝕆"), ("OpenCurlyDoubleQuote", "\u201c"),
    ("OpenCurlyQuote", "\u2018"), ("Or", "\u2a54"), ("Oscr", "𝒪"), ("Oslash", "\xd8"),
    ("Otilde", "\xd5"), ("Otimes", "\u2a37"), ("Ouml", "\xd6"), ("OverBar", "\u203e"),
    ("OverBrace", "\u23de"), ("OverBracket", "\u23b4"), ("OverParenthesis", "\u23dc"),
    ("PartialD", "\u2202"), ("Pcy", "\u041f"), ("Pfr", "𝔓"), ("Phi", "\u03a6"), ("Pi", "\u03a0"),
    ("PlusMinus", "\xb1"), ("Poincareplane", "\u210c"), ("Popf", "\u2119"), ("Pr", "\u2abb"),
    ("Precedes", "\u227a"), ("PrecedesEqual", "\u2aaf"), ("PrecedesSlantEqual", "\u227c"),
    ("PrecedesTilde", "\u227e"), ("Prime", "\u2033"), ("Product", "\u220f"),
    ("Proportion", "\u2237"), ("Proportional", "\u221d"), ("Pscr", "𝒫"), ("Psi", "\u03a8"),
    ("QUOT", "\x22"), ("Qfr", "𝔔"), ("Qopf", "\u211a"), ("Qscr", "𝒬"), ("mDDot", "\u223a"),
    ("macr", "\xaf"), ("male", "\u2642"), ("malt", "\u2720"), ("maltese", "\u2720"),
    ("map", "\u21a6"), ("mapsto", "\u21a6"), ("mapstodown", "\u21a7"), ("mapstoleft", "\u21a4"),
    ("mapstoup", "\u21a5"), ("marker", "\u25ae"), ("mcomma", "\u2a29"), ("mcy", "\u043c"),
    ("mdash", "\u2014"), ("measuredangle", "\u2221"), ("mfr", "𝔪"), ("mho", "\u2127"),
    ("micro", "\xb5"), ("mid", "\u2223"), ("midast", "*"), ("midcir", "\u2af0"), ("middot", "\xb7"),
    ("minus", "\u2212"), ("minusb", "\u229f"), ("minusd", "\u2238"), ("minusdu", "\u2a2a"),
    ("mlcp", "\u2adb"), ("mldr", "\u2026"), ("mnplus", "\u2213"), ("models", "\u22a7"),
    ("mopf", "𝕞"), ("mp", "\u2213"), ("mscr", "𝓂"), ("mstpos", "\u223e"), ("mu", "\u03bc"),
    ("multimap", "\u22b8"), ("mumap", "\u22b8"), ("nGg", "\u22d9\u0338"), ("nGt", "\u226b\u20d2"),
    ("nGtv", "\u226b\u0338"), ("nLeftarrow", "\u21cd"), ("nLeftrightarrow", "\u21ce"),
    ("nLl", "\u22d8\u0338"), ("nLt", "\u226a\u20d2"), ("nLtv", "\u226a\u0338"),
    ("nRightarrow", "\u21cf"), ("nVDash", "\u22af"), ("nVdash", "\u22ae"), ("nabla", "\u2207"),
    ("nacute", "\u0144"), ("nang", "\u2220\u20d2"), ("nap", "\u2249"), ("napE", "\u2a70\u0338"),
    ("napid", "\u224b\u0338"), ("napos", "\u0149"), ("napprox", "\u2249"), ("natur", "\u266e"),
    ("natural", "\u266e"), ("naturals", "\u2115"), ("nbsp", "\xa0"), ("nbump", "\u224e\u0338"),
    ("nbumpe", "\u224f\u0338"), ("ncap", "\u2a43"), ("ncaron", "\u0148"), ("ncedil", "\u0146"),
    ("ncong", "\u2247"), ("ncongdot", "\u2a6d\u0338"), ("ncup", "\u2a42"), ("ncy", "\u043d"),
    ("ndash", "\u2013"), ("ne", "\u2260"), ("neArr", "\u21d7"), ("nearhk", "\u2924"),
    ("nearr", "\u2197"), ("nearrow", "\u2197"), ("nedot", "\u2250\u0338"), ("nequiv", "\u2262"),
    ("nesear", "\u2928"), ("nesim", "\u2242\u0338"), ("nexist", "\u2204"), ("nexists", "\u2204"),
    ("nfr", "𝔫"), ("ngE", "\u2267\u0338"), ("nge", "\u2271"), ("ngeq", "\u2271"),
    ("ngeqq", "\u2267\u0338"), ("ngeqslant", "\u2a7e\u0338"), ("nges", "\u2a7e\u0338"),
    ("ngsim", "\u2275"), ("ngt", "\u226f"), ("ngtr", "\u226f"), ("nhArr", "\u21ce"),
    ("nharr", "\u21ae"), ("nhpar", "\u2af2"), ("ni", "\u220b"), ("nis", "\u22fc"),
    ("nisd", "\u22fa"), ("niv", "\u220b"), ("njcy", "\u045a"), ("nlArr", "\u21cd"),
    ("nlE", "\u2266\u0338"), ("nlarr", "\u219a"), ("nldr", "\u2025"), ("nle", "\u2270"),
    ("nleftarrow", "\u219a"), ("nleftrightarrow", "\u21ae"), ("nleq", "\u2270"),
    ("nleqq", "\u2266\u0338"), ("nleqslant", "\u2a7d\u0338"), ("nles", "\u2a7d\u0338"),
    ("nless", "\u226e"), ("nlsim", "\u2274"), ("nlt", "\u226e"), ("nltri", "\u22ea"),
    ("nltrie", "\u22ec"), ("nmid", "\u2224"), ("nopf", "𝕟"), ("not", "\xac"), ("notin", "\u2209"),
    ("notinE", "\u22f9\u0338"), ("notindot", "\u22f5\u0338"), ("notinva", "\u2209"),
    ("notinvb", "\u22f7"), ("notinvc", "\u22f6"), ("notni", "\u220c"), ("notniva", "\u220c"),
    ("notnivb", "\u22fe"), ("notnivc", "\u22fd"), ("npar", "\u2226"), ("nparallel", "\u2226"),
    ("nparsl", "\u2afd\u20e5"), ("npart", "\u2202\u0338"), ("npolint", "\u2a14"), ("npr", "\u2280"),
    ("nprcue", "\u22e0"), ("npre", "\u2aaf\u0338"), ("nprec", "\u2280"),
    ("npreceq", "\u2aaf\u0338"), ("nrArr", "\u21cf"), ("nrarr", "\u219b"),
    ("nrarrc", "\u2933\u0338"), ("nrarrw", "\u219d\u0338"), ("nrightarrow", "\u219b"),
    ("nrtri", "\u22eb"), ("nrtrie", "\u22ed"), ("nsc", "\u2281"), ("nsccue", "\u22e1"),
    ("nsce", "\u2ab0\u0338"), ("nscr", "𝓃"), ("nshortmid", "\u2224"), ("nshortparallel", "\u2226"),
    ("nsim", "\u2241"), ("nsime", "\u2244"), ("nsimeq", "\u2244"), ("nsmid", "\u2224"),
    ("nspar", "\u2226"), ("nsqsube", "\u22e2"), ("nsqsupe", "\u22e3"), ("nsub", "\u2284"),
    ("nsubE", "\u2ac5\u0338"), ("nsube", "\u2288"), ("nsubset", "\u2282\u20d2"),
    ("nsubseteq", "\u2288"), ("nsubseteqq", "\u2ac5\u0338"), ("nsucc", "\u2281"),
    ("nsucceq", "\u2ab0\u0338"), ("nsup", "\u2285"), ("nsupE", "\u2ac6\u0338"), ("nsupe", "\u2289"),
    ("nsupset", "\u2283\u20d2"), ("nsupseteq", "\u2289"), ("nsupseteqq", "\u2ac6\u0338"),
    ("ntgl", "\u2279"), ("ntilde", "\xf1"), ("ntlg", "\u2278"), ("ntriangleleft", "\u22ea"),
    ("ntrianglelefteq", "\u22ec"), ("ntriangleright", "\u22eb"), ("ntrianglerighteq", "\u22ed"),
    ("nu", "\u03bd"), ("num", "#"), ("numero", "\u2116"), ("numsp", "\u2007"), ("nvDash", "\u22ad"),
    ("nvHarr", "\u2904"), ("nvap", "\u224d\u20d2"), ("nvdash", "\u22ac"), ("nvge", "\u2265\u20d2"),
    ("nvgt", ">\u20d2"), ("nvinfin", "\u29de"), ("nvlArr", "\u2902"), ("nvle", "\u2264\u20d2"),
    ("nvlt", "<\u20d2"), ("nvltrie", "\u22b4\u20d2"), ("nvrArr", "\u2903"),
    ("nvrtrie", "\u22b5\u20d2"), ("nvsim", "\u223c\u20d2"), ("nwArr", "\u21d6"),
    ("nwarhk", "\u2923"), ("nwarr", "\u2196"), ("nwarrow", "\u2196"), ("nwnear", "\u2927"),
    ("oS", "\u24c8"), ("oacute", "\xf3"), ("oast", "\u229b"), ("ocir", "\u229a"), ("ocirc", "\xf4"),
    ("ocy", "\u043e"), ("odash", "\u229d"), ("odblac", "\u0151"), ("odiv", "\u2a38"),
    ("odot", "\u2299"), ("odsold", "\u29bc"), ("oelig", "\u0153"), ("ofcir", "\u29bf"),
    ("ofr", "𝔬"), ("ogon", "\u02db"), ("ograve", "\xf2"), ("ogt", "\u29c1"), ("ohbar", "\u29b5"),
    ("ohm", "\u03a9"), ("oint", "\u222e"), ("olarr", "\u21ba"), ("olcir", "\u29be"),
    ("olcross", "\u29bb"), ("oline", "\u203e"), ("olt", "\u29c0"), ("omacr", "\u014d"),
    ("omega", "\u03c9"), ("omicron", "\u03bf"), ("omid", "\u29b6"), ("ominus", "\u2296"),
    ("oopf", "𝕠"), ("opar", "\u29b7"), ("operp", "\u29b9"), ("oplus", "\u2295"), ("or", "\u2228"),
    ("orarr", "\u21bb"), ("ord", "\u2a5d"), ("order", "\u2134"), ("orderof", "\u2134"),
    ("ordf", "\xaa"), ("ordm", "\xba"), ("origof", "\u22b6"), ("oror", "\u2a56"),
    ("orslope", "\u2a57"), ("orv", "\u2a5b"), ("oscr", "\u2134"), ("oslash", "\xf8"),
    ("osol", "\u2298"), ("otilde", "\xf5"), ("otimes", "\u2297"), ("otimesas", "\u2a36"),
    ("ouml", "\xf6"), ("ovbar", "\u233d"), ("par", "\u2225"), ("para", "\xb6"),
    ("parallel", "\u2225"), ("parsim", "\u2af3"), ("parsl", "\u2afd"), ("part", "\u2202"),
    ("pcy", "\u043f"), ("percnt", "%"), ("period", "."), ("permil", "\u2030"), ("perp", "\u22a5"),
    ("pertenk", "\u2031"), ("pfr", "𝔭"), ("phi", "\u03c6"), ("phiv", "\u03d5"),
    ("phmmat", "\u2133"), ("phone", "\u260e"), ("pi", "\u03c0"), ("pitchfork", "\u22d4"),
    ("piv", "\u03d6"), ("planck", "\u210f"), ("planckh", "\u210e"), ("plankv", "\u210f"),
    ("plus", "+"), ("plusacir", "\u2a23"), ("plusb", "\u229e"), ("pluscir", "\u2a22"),
    ("plusdo", "\u2214"), ("plusdu", "\u2a25"), ("pluse", "\u2a72"), ("plusmn", "\xb1"),
    ("plussim", "\u2a26"), ("plustwo", "\u2a27"), ("pm", "\xb1"), ("pointint", "\u2a15"),
    ("popf", "𝕡"), ("pound", "\xa3"), ("pr", "\u227a"), ("prE", "\u2ab3"), ("prap", "\u2ab7"),
    ("prcue", "\u227c"), ("pre", "\u2aaf"), ("prec", "\u227a"), ("precapprox", "\u2ab7"),
    ("preccurlyeq", "\u227c"), ("preceq", "\u2aaf"), ("precnapprox", "\u2ab9"),
    ("precneqq", "\u2ab5"), ("precnsim", "\u22e8"), ("precsim", "\u227e"), ("prime", "\u2032"),
    ("primes", "\u2119"), ("prnE", "\u2ab5"), ("prnap", "\u2ab9"), ("prnsim", "\u22e8"),
    ("prod", "\u220f"), ("profalar", "\u232e"), ("profline", "\u2312"), ("profsurf", "\u2313"),
    ("prop", "\u221d"), ("propto", "\u221d"), ("prsim", "\u227e"), ("prurel", "\u22b0"),
    ("pscr", "𝓅"), ("psi", "\u03c8"), ("puncsp", "\u2008"), ("qfr", "𝔮"), ("qint", "\u2a0c"),
    ("qopf", "𝕢"), ("qprime", "\u2057"), ("qscr", "𝓆"), ("quaternions", "\u210d"),
    ("quatint", "\u2a16"), ("quest", "?"), ("questeq", "\u225f"), ("quot", "\x22")]

end CuratedList.Markdown
