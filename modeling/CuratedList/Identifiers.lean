import CuratedList.Text.Blank

/-! # Identifiers

The words that may open a description whatever their casing. A list of identifiers keeps each word
once; it starts from well-known names and grows by configured words and by files of words.
-/

namespace CuratedList
set_option autoImplicit false

/-- A set of words, each listed once. -/
structure Identifiers where
  words : List String
  nodup : words.Nodup := by decide

namespace Identifiers

/-- No words. -/
def empty : Identifiers := ⟨[], List.nodup_nil⟩

/-- Is `w` one of the words? -/
def contains (ids : Identifiers) (w : String) : Bool := ids.words.contains w

/-- The number of words. -/
def size (ids : Identifiers) : Nat := ids.words.length

/-- There is no word. -/
def isEmpty (ids : Identifiers) : Bool := ids.words.isEmpty

/-- Adds one word. -/
def insert (ids : Identifiers) (w : String) : Identifiers :=
  if h : w ∈ ids.words then ids else ⟨w :: ids.words, List.nodup_cons.2 ⟨h, ids.nodup⟩⟩

/-- Adds words. -/
def extend (ids : Identifiers) (ws : List String) : Identifiers := ws.foldl insert ids

@[simp] theorem contains_insert (ids : Identifiers) (w v : String) :
    (ids.insert w).contains v = (v == w || ids.contains v) := by
  by_cases h : w ∈ ids.words
  · by_cases e : v = w
    · simp [insert, contains, h, e]
    · simp [insert, contains, h, e]
  · simp [insert, contains, h, Bool.beq_eq_decide_eq]

@[simp] theorem contains_extend (ids : Identifiers) (ws : List String) (v : String) :
    (ids.extend ws).contains v = (ws.contains v || ids.contains v) := by
  induction ws generalizing ids with
  | nil => simp [extend]
  | cons w ws ih =>
    have := ih (ids.insert w)
    simp only [extend, List.foldl_cons] at this ⊢
    rw [this, contains_insert, List.contains_cons]
    cases v == w <;> cases ws.contains v <;> rfl

/-! ## Files of words -/

/-- The lines of a text. A line ends at a line feed, with a carriage return before it if there is
one; the last line needs no end. -/
def lines (cs : List Char) : List (List Char) :=
  go [] cs
where
  /-- The lines of the text when `line`, last character first, is already read. -/
  go : (line cs : List Char) → List (List Char)
    | line, [] => if line.isEmpty then [] else [line.reverse]
    | line, '\n' :: cs =>
      (match line with
        | '\r' :: l => l
        | l => l).reverse :: go [] cs
    | line, c :: cs => go (c :: line) cs

/-- The word on a line of a words file: what precedes `#`, trimmed. -/
def wordOfLine (line : List Char) : List Char := Text.trim (line.takeWhile (· != '#'))

/-- The words of a words file: one a line, with comments after `#`. -/
def wordsOfFile (content : String) : List String :=
  (((lines content.toList).map wordOfLine).filter (!·.isEmpty)).map String.ofList

/-! ## Well-known names -/

/-- Names whose usual spelling starts with a small letter or is irregular otherwise. -/
def builtin : Identifiers where
  words := [
    "a11y", "aws", "bash", "bzip2", "cURL", "d3", "dApp", "dApps", "deno", "eBook", "eBooks",
    "eCommerce", "eslint", "esbuild", "ffmpeg", "gRPC", "git", "gulp", "htop", "i18n", "iCloud",
    "iMessage", "iOS", "iPad", "iPadOS", "iPhone", "iPod", "iTunes", "jq", "jQuery", "k8s",
    "kubectl", "l10n", "libuv", "macOS", "micro:bit", "mdast", "nginx", "npm", "npx", "pnpm",
    "rollup", "rust-analyzer", "tmux", "tvOS", "unified", "vim", "vscode", "watchOS", "webpack",
    "wget", "xkcd", "yarn", "zsh"]

end Identifiers
end CuratedList
