import CuratedList.Document
import CuratedList.Text.Blank

/-! # The lists that are checked

All lists of a document are, nested ones included, unless it has a table of contents: a heading
`Contents`. Then only the lists after the next heading of the same depth are.
-/

namespace CuratedList
set_option autoImplicit false

/-! ## Headings without comments -/

/-- What follows the first `-->`. -/
def afterComment : List Char → Option (List Char)
  | [] => none
  | c :: cs =>
    match Text.dropPrefix? ['-', '-', '>'] (c :: cs) with
    | some rest => some rest
    | none => afterComment cs

theorem length_of_afterComment {cs rest : List Char} (h : afterComment cs = some rest) :
    rest.length < cs.length := by
  induction cs with
  | nil => simp [afterComment] at h
  | cons c cs ih =>
    rw [afterComment] at h
    split at h
    next r e =>
      have := congrArg List.length (Text.dropPrefix?_eq_some_iff.1 e)
      simp only [List.length_cons, List.length_append, Option.some.injEq] at this h
      subst h
      simp only [List.length_cons]
      omega
    next =>
      have := ih h
      simp only [List.length_cons]
      omega

/-- What follows a comment `<!-- … -->` at the start. -/
def commentRest (cs : List Char) : Option (List Char) :=
  (Text.dropPrefix? ['<', '!', '-', '-'] cs).bind afterComment

theorem length_of_commentRest {cs rest : List Char} (h : commentRest cs = some rest) :
    rest.length < cs.length := by
  obtain ⟨body, e, h⟩ := Option.bind_eq_some_iff.1 h
  have := congrArg List.length (Text.dropPrefix?_eq_some_iff.1 e)
  have := length_of_afterComment h
  simp only [List.length_append] at *
  omega

/-- The text without its comments, each ended as early as possible. -/
def dropComments (cs : List Char) : List Char :=
  match cs with
  | [] => []
  | c :: rest =>
    match _h : commentRest (c :: rest) with
    | some after => dropComments after
    | none => c :: dropComments rest
  termination_by cs.length
  decreasing_by
    · exact length_of_commentRest _h
    · simp

/-! ## Landmarks -/

/-- A heading or a list. -/
inductive Landmark where
  | heading (depth : Nat) (text : List Char)
  | list (items : List Item) (span : Span)

namespace Landmark

/-- The list of a landmark. -/
def asList : Landmark → Option (List Item × Span)
  | heading .. => none
  | list items span => some (items, span)

mutual

/-- The headings and lists of a block, itself first. -/
def ofBlock : Block → List Landmark
  | .heading depth children _ =>
    [heading depth (Text.trim (dropComments (Inline.plainTextAll children).toList))]
  | .paragraph _ _ => []
  | .list items span => list items span :: ofItems items
  | .other children _ => ofBlocks children

/-- The headings and lists of consecutive blocks, in document order. -/
def ofBlocks : List Block → List Landmark
  | [] => []
  | b :: bs => ofBlock b ++ ofBlocks bs

/-- The headings and lists inside an item. -/
def ofItem : Item → List Landmark
  | .mk children _ => ofBlocks children

/-- The headings and lists inside consecutive items. -/
def ofItems : List Item → List Landmark
  | [] => []
  | i :: is => ofItem i ++ ofItems is

end

/-- The heading of a table of contents, by its depth. -/
def contentsDepth? : Landmark → Option Nat
  | heading depth text => if text = "Contents".toList then some depth else none
  | list .. => none

/-- A heading of the given depth. -/
def isHeadingOf (depth : Nat) : Landmark → Bool
  | heading d _ => d = depth
  | list .. => false

/-- The landmarks after the table of contents; all of them if there is no table. -/
def afterContents : List Landmark → List Landmark
  | [] => []
  | l :: ls => (scan (l :: ls)).getD (l :: ls)
where
  /-- The landmarks from the first heading that closes the table, if there is a table. -/
  scan : List Landmark → Option (List Landmark)
    | [] => none
    | l :: ls =>
      match l.contentsDepth? with
      | some depth => some (ls.dropWhile fun m => !m.isHeadingOf depth)
      | none => scan ls

end Landmark

/-- The lists to check, in document order. -/
def selectLists (doc : Document) (respectContents : Bool) : List (List Item × Span) :=
  let landmarks := Landmark.ofBlocks doc.blocks
  (if respectContents then Landmark.afterContents landmarks else landmarks).filterMap
    Landmark.asList

end CuratedList
