import CuratedList.Markdown.Event

/-! # Phrases

Inline content as a tree: leaves, and containers of phrases, with the positions they cover. Pieces are
phrases among runs of emphasis marks that are not matched yet.

Runs are matched as they are met. A closing run takes the nearest opening run that fits it, whatever runs
stand between become text, and two marks make strong emphasis where one makes plain emphasis.
-/

namespace CuratedList.Markdown
set_option autoImplicit false

/-- An inline tree. -/
inductive Phrase where
  | leaf (event : Event) (start stop : Nat)
  | nest (tag : Tag) (children : List Phrase) (start stop : Nat)
  deriving Repr, Inhabited

/-- A run of emphasis marks that is not yet matched. -/
structure Run where
  mark : Char
  count : Nat
  /-- The number of marks before any were matched. -/
  length : Nat
  canOpen : Bool
  canClose : Bool
  start : Nat
  deriving Repr, Inhabited

/-- A phrase or a run of marks. -/
inductive Piece where
  | phrase (p : Phrase)
  | run (r : Run)
  deriving Repr, Inhabited

namespace Run

/-- May the run both open and close? -/
def both (r : Run) : Bool := r.canOpen && r.canClose

/-- The marks as text. -/
def asText (r : Run) : Phrase :=
  .leaf (.text (String.ofList (List.replicate r.count r.mark))) r.start (r.start + r.count)

/-- Does `closer` close `opener`? A run that can do both fits only if the lengths do not sum to a multiple
of three, or both are multiples of it; struck text needs equal lengths. -/
def fits (opener closer : Run) : Bool :=
  opener.mark == closer.mark && (closer.mark != '~' || closer.length == opener.length) &&
    ((!closer.both && !opener.both) || (closer.length + opener.length) % 3 != 0 ||
      closer.length % 3 == 0)

end Run

/-- An opening run, and the phrases after it, last one first. -/
structure Opener where
  run : Run
  inside : List Phrase := []

/-- The state of matching runs from left to right. -/
structure Matching where
  /-- The phrases before all open runs, last one first. -/
  base : List Phrase := []
  /-- The open runs, last one first. -/
  openers : List Opener := []
  /-- So many of the first open runs cannot open struck text any more. -/
  struckFloor : Nat := 0

namespace Matching

/-- Adds phrases, given last one first, after everything so far. -/
def pushAll (m : Matching) (ps : List Phrase) : Matching :=
  match m.openers with
  | [] => { m with base := ps ++ m.base }
  | o :: os => { m with openers := { o with inside := ps ++ o.inside } :: os }

/-- Turns the last `n` open runs into text. -/
def giveUp (m : Matching) : (n : Nat) → Matching
  | 0 => m
  | n + 1 =>
    match m.openers with
    | [] => m
    | o :: os => giveUp ({ m with openers := os }.pushAll (o.inside ++ [o.run.asText])) n

/-- Wraps phrases in emphasis by `count` marks on either side, two at a time from the inside out. -/
def wrap (mark : Char) (inner : List Phrase) (start stop : Nat) : (count : Nat) → List Phrase
  | 0 => inner
  | 1 => [.nest (if mark = '~' then .strikethrough else .emphasis) inner (start - 1) (stop + 1)]
  | n + 2 =>
    let tag := if mark = '~' then Tag.strikethrough else .strong
    wrap mark [.nest tag inner (start - 2) (stop + 2)] (start - 2) (stop + 2) n

/-- The place of the last open run that `closer` closes, counted from the last. -/
def findOpener? (m : Matching) (closer : Run) : Option Nat :=
  let floor := if closer.mark = '~' then min m.openers.length m.struckFloor else 0
  (m.openers.take (m.openers.length - floor)).findIdx? fun o => o.run.fits closer

/-- Keeps what is left of a run as an opening run, or as text. -/
def leave (m : Matching) (r : Run) : Matching :=
  if r.count = 0 then m
  else if r.canOpen then { m with openers := ⟨r, []⟩ :: m.openers }
  else m.pushAll [r.asText]

/-- Matches `n` marks of a closing run with the last open run. -/
def matchLast (m : Matching) (o : Opener) (os : List Opener) (r : Run) (n : Nat) : Matching :=
  let body := wrap r.mark o.inside.reverse (o.run.start + o.run.count) r.start n
  let m := { m with openers := os, struckFloor := min m.struckFloor os.length }
  if o.run.count > n then
    { m with openers := ⟨{ o.run with count := o.run.count - n }, body⟩ :: os }
  else m.pushAll body

/-- Matches the marks of a closing run as far as they find opening ones, then lets the rest open. -/
def closeWith (m : Matching) (r : Run) : Matching :=
  if !r.canClose || r.count = 0 then m.leave r
  else
    match m.findOpener? r with
    | none => (if r.mark = '~' then { m with struckFloor := m.openers.length } else m).leave r
    | some k =>
      let m := m.giveUp k
      match m.openers with
      | [] => m.leave r
      | o :: os =>
        let n := min r.count o.run.count
        if _h : 0 < n then
          closeWith (m.matchLast o os r n) { r with count := r.count - n, start := r.start + n }
        else m.leave r
  termination_by r.count
  decreasing_by
    have : min r.count o.run.count ≤ r.count := Nat.min_le_left ..
    have : 0 < min r.count o.run.count := _h
    omega

/-- Reads one piece. -/
def step (m : Matching) : Piece → Matching
  | .phrase p => m.pushAll [p]
  | .run r => m.closeWith r

end Matching

/-- The phrases of a list of pieces, with all runs matched or turned into text. -/
def matchRuns (pieces : List Piece) : List Phrase :=
  let m := pieces.foldl Matching.step {}
  (m.giveUp m.openers.length).base.reverse

end CuratedList.Markdown
