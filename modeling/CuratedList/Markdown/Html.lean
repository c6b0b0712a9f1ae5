import CuratedList.Markdown.Source

/-! # Raw HTML

Where HTML blocks start and end, and inline tags, comments, instructions, declarations and CDATA
sections. A tag may run over several lines; the prefixes of its lines are not part of it.
-/

namespace CuratedList.Markdown
set_option autoImplicit false

/-! ## Tags -/

/-- A character of a tag's name after the first letter. -/
def isTagNameChar (c : Char) : Bool := isAsciiAlphanumeric c || c == '-'

/-- A character that starts an attribute's name. -/
def isAttributeStart (c : Char) : Bool := isAsciiLetter c || c == '_' || c == ':'

/-- A later character of an attribute's name. -/
def isAttributeChar (c : Char) : Bool :=
  isAsciiAlphanumeric c || c == '_' || c == '.' || c == ':' || c == '-'

/-- A character of an unquoted attribute value. -/
def isBareValueChar (c : Char) : Bool :=
  !(['\'', '"', ' ', '=', '>', '<', '`', '\n', '\r'].contains c)

/-- How the scan of a tag goes on at a line end: the position where the next line's content starts;
none where tags have to end with their line. -/
abbrev LineSkip := Option (Nat → Nat)

/-- A place in a tag, and the text of the tag so far without the prefixes of its lines. -/
structure TagScan where
  pos : Nat
  /-- The start of the part that is not yet in `done`. -/
  mark : Nat
  done : String := ""

namespace TagScan

/-- Moves to the content of the next line, over a line end of length `n`. -/
def newLine (s : Source) (skip : Nat → Nat) (t : TagScan) (n : Nat) : TagScan :=
  let after := t.pos + n
  let content := max after (skip after)
  if content = after then { t with pos := after }
  else ⟨content, content, t.done ++ s.slice t.mark after⟩

theorem pos_newLine (s : Source) (skip : Nat → Nat) (t : TagScan) (n : Nat) :
    t.pos + n ≤ (t.newLine s skip n).pos := by
  simp only [newLine]
  split <;> simp only <;> omega

/-- Skips white space and line ends. -/
def blanks? (s : Source) (skip : LineSkip) (t : TagScan) : Option TagScan :=
  if h : t.pos < s.size then
    if isInlineBlank s[t.pos] then blanks? s skip { t with pos := t.pos + 1 }
    else
      match s.lineEnd? t.pos with
      | none => some t
      | some n =>
        match skip with
        | none => none
        | some f => if _hn : n = 0 then some t else blanks? s skip (t.newLine s f n)
  else some t
  termination_by s.size - t.pos
  decreasing_by
    · omega
    · have := pos_newLine s f t n
      omega

/-- Skips to after the closing quote of an attribute value. -/
def quoted? (s : Source) (skip : LineSkip) (quote : Char) (t : TagScan) : Option TagScan :=
  if h : t.pos < s.size then
    if s[t.pos] = quote then some { t with pos := t.pos + 1 }
    else
      match s.lineEnd? t.pos with
      | none => quoted? s skip quote { t with pos := t.pos + 1 }
      | some n =>
        match skip with
        | none => none
        | some f => if _hn : n = 0 then none else quoted? s skip quote (t.newLine s f n)
  else none
  termination_by s.size - t.pos
  decreasing_by
    · omega
    · have := pos_newLine s f t n
      omega

/-- Skips the value of an attribute. -/
def value? (s : Source) (skip : LineSkip) (t : TagScan) : Option TagScan :=
  match s[t.pos]? with
  | none => none
  | some c =>
    if c = '"' ∨ c = '\'' then quoted? s skip c { t with pos := t.pos + 1 }
    else if isBareValueChar c then some { t with pos := s.skipWhile t.pos isBareValueChar }
    else none

/-- Skips an attribute with its value, if it has one. -/
def attribute? (s : Source) (skip : LineSkip) (t : TagScan) : Option TagScan := do
  let c ← s[t.pos]?
  if !isAttributeStart c then none
  else
    let t := { t with pos := s.skipWhile (t.pos + 1) isAttributeChar }
    let sign ← blanks? s skip t
    if s.hasAt sign.pos '=' then
      let value ← blanks? s skip { sign with pos := sign.pos + 1 }
      value? s skip value
    else some t

/-- Skips attributes, each after white space, up to the `/` or `>` of an opening tag. -/
def attributes? (s : Source) (skip : LineSkip) (t : TagScan) : Option TagScan :=
  match blanks? s skip t with
  | none => none
  | some u =>
    match s[u.pos]? with
    | none => none
    | some c =>
      if c = '/' ∨ c = '>' then some u
      else if u.pos = t.pos then none
      else
        match attribute? s skip u with
        | none => none
        | some v => if _h : t.pos < v.pos ∧ v.pos ≤ s.size then attributes? s skip v else none
  termination_by s.size - t.pos
  decreasing_by omega

end TagScan

/-- The tag whose `<` is at `i`: the position after it, and its text. -/
def tagAt? (s : Source) (skip : LineSkip) (i : Nat) : Option (Nat × String) := do
  let closing := s.hasAt (i + 1) '/'
  let nameStart := if closing then i + 2 else i + 1
  let letters := s.skipWhile nameStart isAsciiLetter
  if letters = nameStart then none
  else
    let t : TagScan := { pos := s.skipWhile letters isTagNameChar, mark := i }
    let t ← if closing then some t else t.attributes? s skip
    let j := s.skipWhile t.pos isInlineBlank
    let j := if !closing && s.hasAt j '/' then j + 1 else j
    if s.hasAt j '>' then some (j + 1, t.done ++ s.slice t.mark (j + 1)) else none

/-! ## Comments, instructions, declarations and CDATA sections -/

/-- The position after the first occurrence of `cs` from `i` on. -/
def afterFirst? (s : Source) (cs : List Char) (i : Nat) : Option Nat :=
  if s.hasListAt i cs then some (i + cs.length)
  else if i < s.size then afterFirst? s cs (i + 1) else none
  termination_by s.size - i

/-- The position after the inline construct `<!…` or `<?…` whose `<` is at `i`. -/
def markupAt? (s : Source) (i : Nat) : Option Nat :=
  if s.hasAt (i + 1) '?' then afterFirst? s ['?', '>'] (i + 2)
  else if s.hasListAt (i + 1) ['!', '-', '-'] then
    if s.hasAt (i + 4) '>' then some (i + 5)
    else if s.hasListAt (i + 4) ['-', '>'] then some (i + 6)
    else afterFirst? s ['-', '-', '>'] (i + 4)
  else if s.hasListAt (i + 1) "![CDATA[".toList then afterFirst? s [']', ']', '>'] (i + 9)
  else if s.hasAt (i + 1) '!' then
    let letters := s.skipWhile (i + 2) isAsciiLetter
    let blank := s.skipWhile letters isAsciiBlank
    if letters = i + 2 || blank = letters then none
    else (s.find? blank '>').map (· + 1)
  else none

/-- The inline HTML whose `<` is at `i`: the position after it, and its text. -/
def inlineHtmlAt? (s : Source) (skip : Nat → Nat) (i : Nat) : Option (Nat × String) :=
  if s.hasAt (i + 1) '!' || s.hasAt (i + 1) '?' then
    (markupAt? s i).map fun j => (j, s.slice i j)
  else tagAt? s (some skip) i

/-! ## Blocks -/

/-- Does `name` stand at `i`, in either case? -/
def hasNameAt (s : Source) (i : Nat) (name : List Char) : Bool :=
  ((s.extract i (i + name.length)).toList.map Char.toLower) == name

/-- For a block that runs to a given text, that text; the `<` is at `i`. -/
def htmlBlockEnd? (s : Source) (i : Nat) : Option (List Char) :=
  let raw := [("pre", "</pre>"), ("style", "</style>"), ("script", "</script>"),
    ("textarea", "</textarea>")].find? fun (name, _) =>
      hasNameAt s (i + 1) name.toList &&
        match s[i + 1 + name.length]? with
        | none => true
        | some c => isAsciiBlank c || c == '>'
  match raw with
  | some (_, stop) => some stop.toList
  | none =>
    if s.hasListAt (i + 1) ['!', '-', '-'] then some ['-', '-', '>']
    else if s.hasAt (i + 1) '?' then some ['?', '>']
    else if s.hasListAt (i + 1) "![CDATA[".toList then some [']', ']', '>']
    else if s.hasAt (i + 1) '!' && (s[i + 2]?.any isAsciiLetter) then some ['>']
    else none

/-- The tags that start a block wherever they open a line. -/
def blockTagNames : List String := [
  "address", "article", "aside", "base", "basefont", "blockquote", "body", "caption", "center",
  "col", "colgroup", "dd", "details", "dialog", "dir", "div", "dl", "dt", "fieldset", "figcaption",
  "figure", "footer", "form", "frame", "frameset", "h1", "h2", "h3", "h4", "h5", "h6", "head",
  "header", "hr", "html", "iframe", "legend", "li", "link", "main", "menu", "menuitem", "nav",
  "noframes", "ol", "optgroup", "option", "p", "param", "search", "section", "summary", "table",
  "tbody", "td", "tfoot", "th", "thead", "title", "tr", "track", "ul"]

/-- A block tag opens or closes at `i`, where its `<` is. -/
def startsBlockTag (s : Source) (i : Nat) : Bool :=
  let start := if s.hasAt (i + 1) '/' then i + 2 else i + 1
  let stop := s.skipWhile start isAsciiAlphanumeric
  let name := String.ofList ((s.extract start stop).toList.map Char.toLower)
  blockTagNames.contains name &&
    match s[stop]? with
    | none => true
    | some c => [' ', '\t', '\r', '\n', '>'].contains c || (c == '/' && s.hasAt (stop + 1) '>')

/-- A complete tag stands alone on the line; its `<` is at `i`. -/
def isLoneTag (s : Source) (i : Nat) : Bool :=
  match tagAt? s none i with
  | some (j, _) => s.isBlankFrom j
  | none => false

end CuratedList.Markdown
