import CuratedList.Document
import CuratedList.Entry.Context
import CuratedList.Entry.Violation

/-! # The link rule

A link by label passes as it is. A link with a destination needs an absolute URL, then some text,
then only plain, emphasised or code nodes as its children.
-/

namespace CuratedList
set_option autoImplicit false

/-- The kinds a child of a link may have. -/
def isLinkChildKind : Inline.Kind → Bool
  | .emphasis | .code | .text => true
  | _ => false

/-- Checks the node expected to be the link of an entry. -/
def validateLink (cx : Context) (node : Inline) : Verdict :=
  match node with
  | .linkReference .. => .ok ()
  | .link url children span =>
    if !cx.isAbsoluteUrl url then reject .invalidLinkUrl span
    else if (Inline.plainTextAll children).isEmpty then reject .invalidLinkText span
    else
      match children.find? fun child => !isLinkChildKind child.kind with
      | some child => reject .invalidLink child.span
      | none => .ok ()
  | other => reject .invalidLink other.span

end CuratedList
