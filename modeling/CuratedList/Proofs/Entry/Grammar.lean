import CuratedList.Entry
import Mathlib.Data.List.Induction
import Mathlib.Data.List.TakeWhile

/-! # The entry grammar

The rules run one after another and stop at the first fault: a loop looks for the link, a scan from
the right sets badges aside, and a chain of tests follows. What they accept together is a grammar on
the nodes of the first paragraph. It is stated here without any of these searches, as a split of the
nodes into filler, link and description, and of a description into what is read and its badges.

Both splits are unique when they exist. This is what makes an accepted entry of the grammar also one
that the rules accept: the searches can only find the split that the grammar has.
-/

namespace CuratedList
set_option autoImplicit false

open Text

/-! ## The grammar -/

/-- A link that an entry may have. -/
inductive ProperLink (cx : Context) : Inline → Prop
  | byLabel (children : List Inline) (span : Span) : ProperLink cx (.linkReference children span)
  | direct {url : String} {children : List Inline} {span : Span}
      (absolute : cx.isAbsoluteUrl url = true)
      (named : Inline.plainTextAll children ≠ "")
      (plain : ∀ child ∈ children, child.kind ∈ [.text, .emphasis, .code]) :
      ProperLink cx (.link url children span)

/-- The text `dash` of a first node opens a description that reads `text` as a whole. -/
def Opens (cx : Context) (dash text : List Char) : Prop :=
  dashSeparator <+: dash ∨
    dash = text ∧ (trimStart dash).head? = some '-' ∧ cx.emoji.endsWithEmoji dash = true

/-- The nodes `kept`, the last of which reads `suffix`, end properly before `badges`. White space that
only parts them from badges does not count. -/
def EndsProperly (cx : Context) (kept badges : List Inline) (suffix : List Char) : Prop :=
  let full := (Inline.plainTextAll kept).toList
  if badges = [] then endingIsValid cx.emoji full suffix = true
  else endingIsValid cx.emoji (trimEnd full) (trimEnd suffix) = true

/-- The nodes `description`, which start with the text `dash`, are `before`, then `last`, then
`badges`, and keep all rules. -/
structure Regular (cx : Context) (dash : String) (span : Span) (description before : List Inline)
    (last : Inline) (badges : List Inline) : Prop where
  head : description.head? = some (.text dash span)
  split : description = before ++ last :: badges
  opens : Opens cx dash.toList (Inline.plainTextAll description).toList
  allBadges : ∀ node ∈ badges, isBadge node = true
  noBadge : isBadge last = false
  terminal : isTerminalKind last.kind = true
  ending : ∀ value, last.asText = some value →
    EndsProperly cx (before ++ [last]) badges value.toList
  alone : before = [] → checkFirstWord cx dash.toList span = .ok ()
  mixed : before ≠ [] → (∀ node ∈ before ++ [last], isDescriptionKind node.kind = true) ∧
    (dash.toList.length ≤ 3 ∨ checkFirstWord cx dash.toList span = .ok ())

/-- A description that an entry may have. -/
inductive ProperDescription (cx : Context) : List Inline → Prop
  | none : ProperDescription cx []
  | special {description : List Inline}
      (exempt : isSpecialCase cx (Inline.plainTextAll description).toList = true) :
      ProperDescription cx description
  | regular {dash : String} {span : Span} {description before badges : List Inline} {last : Inline}
      (parts : Regular cx dash span description before last badges) :
      ProperDescription cx description

/-- The nodes of an entry: plain text first, or filler, a link and a description. Filler leaves at
least one node to the description. -/
inductive ProperNodes (cx : Context) : List Inline → Prop
  | textLed (value : String) (span : Span) (rest : List Inline) :
      ProperNodes cx (.text value span :: rest)
  | linked {filler description : List Inline} {link : Inline}
      (noLink : ∀ node ∈ filler, node.isLinkLike = false)
      (room : filler = [] ∨ description ≠ [])
      (linkProper : ProperLink cx link)
      (descriptionProper : ProperDescription cx description) :
      ProperNodes cx (filler ++ link :: description)

/-- An entry that the grammar derives: its first block is a paragraph with such nodes. -/
def ProperEntry (cx : Context) (item : Item) : Prop :=
  ∃ nodes span blocks, item.children = .paragraph nodes span :: blocks ∧ ProperNodes cx nodes

/-! ## Verdicts in sequence -/

theorem verdict_bind_eq_ok {α β : Type} (first : Except Violation α)
    (next : α → Except Violation β) (b : β) :
    (first >>= next) = .ok b ↔ ∃ a, first = .ok a ∧ next a = .ok b := by
  cases first with
  | error v => simp [bind, Except.bind]
  | ok a => simp [bind, Except.bind]

/-! ## The link -/

theorem isLinkChildKind_iff (kind : Inline.Kind) :
    isLinkChildKind kind = true ↔ kind ∈ [.text, .emphasis, .code] := by
  cases kind <;> decide

theorem ProperLink.isLinkLike {cx : Context} {link : Inline} (proper : ProperLink cx link) :
    link.isLinkLike = true := by
  cases proper with
  | byLabel => rfl
  | direct => rfl

theorem validateLink_direct_eq_ok_iff (cx : Context) (url : String) (children : List Inline)
    (span : Span) :
    validateLink cx (.link url children span) = .ok () ↔
      cx.isAbsoluteUrl url = true ∧ Inline.plainTextAll children ≠ "" ∧
        ∀ child ∈ children, isLinkChildKind child.kind = true := by
  rw [validateLink]
  by_cases absolute : cx.isAbsoluteUrl url = true
  · by_cases named : Inline.plainTextAll children = ""
    · simp [absolute, named, reject]
    · cases found : children.find? fun child => !isLinkChildKind child.kind with
      | none =>
        have plain := List.find?_eq_none.1 found
        simpa [absolute, named, found] using plain
      | some child =>
        have bad := List.find?_some found
        have member := List.mem_of_find?_eq_some found
        simp only [absolute, Bool.not_true, Bool.false_eq_true, if_false, String.isEmpty_iff, named,
          reject, reduceCtorEq, false_iff]
        rintro ⟨-, -, plain⟩
        rw [plain child member] at bad
        cases bad
  · simp [absolute, reject]

theorem validateLink_eq_ok_iff (cx : Context) (link : Inline) :
    validateLink cx link = .ok () ↔ ProperLink cx link := by
  constructor
  · intro accepted
    cases link with
    | linkReference children span => exact .byLabel children span
    | link url children span =>
      obtain ⟨absolute, named, plain⟩ := (validateLink_direct_eq_ok_iff ..).1 accepted
      exact .direct absolute named fun child member => (isLinkChildKind_iff _).1 (plain child member)
    | _ => cases accepted
  · intro proper
    cases proper with
    | byLabel children span => rfl
    | direct absolute named plain =>
      exact (validateLink_direct_eq_ok_iff ..).2
        ⟨absolute, named, fun child member => (isLinkChildKind_iff _).2 (plain child member)⟩

/-! ## Badges -/

theorem exists_last_kept (description : List Inline) :
    (∀ node ∈ description, isBadge node = true) ∨
      ∃ before last badges, description = before ++ last :: badges ∧
        (∀ node ∈ badges, isBadge node = true) ∧ isBadge last = false := by
  induction description using List.reverseRecOn with
  | nil => exact .inl (by simp)
  | append_singleton front node ih =>
    cases badge : isBadge node with
    | false => exact .inr ⟨front, node, [], rfl, by simp, badge⟩
    | true =>
      rcases ih with only | ⟨before, last, badges, rfl, allBadges, noBadge⟩
      · left
        intro other member
        rcases List.mem_append.1 member with inside | inside
        · exact only other inside
        · rw [List.mem_singleton.1 inside, badge]
      · refine .inr ⟨before, last, badges ++ [node], by simp, ?_, noBadge⟩
        intro other member
        rcases List.mem_append.1 member with inside | inside
        · exact allBadges other inside
        · rw [List.mem_singleton.1 inside, badge]

theorem splitBadges_of_forall {description : List Inline}
    (only : ∀ node ∈ description, isBadge node = true) : splitBadges description = none := by
  have dropped : description.reverse.dropWhile isBadge = [] := by
    rw [List.dropWhile_eq_nil_iff]
    intro node member
    exact only node (List.mem_reverse.1 member)
  simp [splitBadges, dropped]

/-- The scan from the right stops at the last node that is no badge. -/
theorem splitBadges_append {before badges : List Inline} {last : Inline}
    (allBadges : ∀ node ∈ badges, isBadge node = true) (noBadge : isBadge last = false) :
    splitBadges (before ++ last :: badges) =
      some (before ++ [last], decide (badges ≠ [])) := by
  have dropped : (before ++ last :: badges).reverse.dropWhile isBadge = last :: before.reverse := by
    rw [List.reverse_append, List.reverse_cons, List.append_assoc,
      List.dropWhile_append_of_pos fun node member => allBadges node (List.mem_reverse.1 member)]
    simp [noBadge]
  have fewer : (before.length + 1 < before.length + (badges.length + 1)) ↔ badges ≠ [] := by
    rw [← List.length_pos_iff]
    omega
  simp only [splitBadges, dropped, List.reverse_cons, List.reverse_reverse, List.length_append,
    List.length_cons, List.length_nil, Nat.zero_add, fewer]

/-! ## The description -/

theorem separatorText?_eq_some_iff (cx : Context) (first : Inline) (text dash : List Char) :
    separatorText? cx first text = some dash ↔
      ∃ value, first.asText = some value ∧ value.toList = dash ∧ Opens cx dash text := by
  rw [separatorText?, Option.bind_eq_some_iff]
  refine exists_congr fun value => and_congr_right fun _ => ?_
  simp only [Option.ite_none_right_eq_some, Option.some.injEq, Bool.or_eq_true, Bool.and_eq_true,
    List.isPrefixOf_iff_prefix, beq_iff_eq, Opens]
  constructor
  · rintro ⟨opens | ⟨⟨whole, head⟩, emoji⟩, rfl⟩
    · exact ⟨rfl, .inl opens⟩
    · exact ⟨rfl, .inr ⟨whole, head, emoji⟩⟩
  · rintro ⟨rfl, opens | ⟨whole, head, emoji⟩⟩
    · exact ⟨.inl opens, rfl⟩
    · exact ⟨.inr ⟨⟨whole, head⟩, emoji⟩, rfl⟩

theorem checkSeparator_eq_ok_iff (cx : Context) (first : Inline) (rest : List Inline)
    (text dash : List Char) :
    checkSeparator cx first rest text = .ok dash ↔ separatorText? cx first text = some dash := by
  rw [checkSeparator]
  cases separatorText? cx first text with
  | some found => simp
  | none =>
    simp only [reduceCtorEq, iff_false]
    split <;> simp [reject]

/-- Behind the separator a description is judged by its ending and its content before the badges. -/
theorem validateDescription_of_checkSeparator (cx : Context) {first last : Inline}
    {rest before badges : List Inline} {dash : List Char}
    (regular : isSpecialCase cx (Inline.plainTextAll (first :: rest)).toList = false)
    (separated : checkSeparator cx first rest (Inline.plainTextAll (first :: rest)).toList = .ok dash)
    (split : first :: rest = before ++ last :: badges)
    (allBadges : ∀ node ∈ badges, isBadge node = true) (noBadge : isBadge last = false) :
    validateDescription cx (first :: rest) =
      (checkEnding cx (before ++ [last]) (decide (badges ≠ [])) last >>= fun _ =>
        checkContent cx (before ++ [last]) dash first.span) := by
  simp only [validateDescription, regular, Bool.false_eq_true, if_false, separated]
  rw [split, splitBadges_append allBadges noBadge]
  simp only [List.getLast?_append, List.getLast?_singleton, Option.some_or]
  rfl

theorem checkEnding_eq_ok_iff (cx : Context) (kept badges : List Inline) (last : Inline) :
    checkEnding cx kept (decide (badges ≠ [])) last = .ok () ↔
      isTerminalKind last.kind = true ∧
        ∀ value, last.asText = some value → EndsProperly cx kept badges value.toList := by
  rw [checkEnding]
  cases terminal : isTerminalKind last.kind with
  | false => simp [reject]
  | true =>
    cases text : last.asText with
    | none => simp
    | some value =>
      by_cases none : badges = []
      · simp [EndsProperly, none, reject]
      · simp [EndsProperly, none, reject]

theorem checkContent_eq_ok_iff (cx : Context) (before : List Inline) (last : Inline)
    (dash : List Char) (span : Span) :
    checkContent cx (before ++ [last]) dash span = .ok () ↔
      (before = [] → checkFirstWord cx dash span = .ok ()) ∧
        (before ≠ [] → (∀ node ∈ before ++ [last], isDescriptionKind node.kind = true) ∧
          (dash.length ≤ 3 ∨ checkFirstWord cx dash span = .ok ())) := by
  rw [checkContent]
  by_cases alone : before = []
  · simp [alone]
  · have several : (before ++ [last]).length ≠ 1 := by
      have := List.length_pos_iff.2 alone
      simp only [List.length_append, List.length_singleton]
      omega
    simp only [several, if_false, alone, false_imp_iff, true_and, ne_eq, not_false_eq_true,
      true_imp_iff]
    cases found : (before ++ [last]).find? fun node => !isDescriptionKind node.kind with
    | some node =>
      have bad := List.find?_some found
      have member := List.mem_of_find?_eq_some found
      simp only [reject, reduceCtorEq, false_iff]
      rintro ⟨allowed, -⟩
      rw [allowed node member] at bad
      cases bad
    | none =>
      have allowed : ∀ node ∈ before ++ [last], isDescriptionKind node.kind = true := by
        simpa using List.find?_eq_none.1 found
      by_cases long : dash.length ≤ 3
      · have short : ¬ dash.length > dashSeparator.length := Nat.not_lt.2 long
        simp only [short, if_false, long, true_or, and_true, true_iff]
        exact allowed
      · have longer : dash.length > dashSeparator.length := Nat.lt_of_not_le long
        simp only [longer, if_true, long, false_or]
        exact ⟨fun cased => ⟨allowed, cased⟩, fun both => both.2⟩

theorem validateDescription_eq_ok_iff (cx : Context) (description : List Inline) :
    validateDescription cx description = .ok () ↔ ProperDescription cx description := by
  cases description with
  | nil => exact iff_of_true rfl .none
  | cons first rest =>
    by_cases exempt : isSpecialCase cx (Inline.plainTextAll (first :: rest)).toList = true
    · refine iff_of_true ?_ (.special exempt)
      simp only [validateDescription, exempt, if_true]
    · simp only [validateDescription, exempt, Bool.false_eq_true, if_false, verdict_bind_eq_ok,
        checkSeparator_eq_ok_iff, separatorText?_eq_some_iff]
      constructor
      · rintro ⟨dash, ⟨value, isText, rfl, opens⟩, accepted⟩
        obtain ⟨span, rfl⟩ : ∃ span, first = .text value span := by
          cases first <;> simp_all [Inline.asText]
        rcases exists_last_kept (.text value span :: rest) with
          only | ⟨before, last, badges, split, allBadges, noBadge⟩
        · rw [splitBadges_of_forall only] at accepted
          cases accepted
        · rw [split, splitBadges_append allBadges noBadge] at accepted
          simp only [List.getLast?_append, List.getLast?_singleton, Option.some_or,
            verdict_bind_eq_ok] at accepted
          obtain ⟨⟨⟩, ended, content⟩ := accepted
          obtain ⟨terminal, ending⟩ := (checkEnding_eq_ok_iff ..).1 ended
          obtain ⟨alone, mixed⟩ := (checkContent_eq_ok_iff ..).1 content
          exact .regular
            { head := rfl, split, opens, allBadges, noBadge, terminal, ending, alone, mixed }
      · intro proper
        cases proper with
        | special special => exact absurd special exempt
        | regular parts =>
          rename_i dash span before badges last
          obtain rfl : first = .text dash span := by simpa using parts.head
          refine ⟨dash.toList, ⟨dash, rfl, rfl, parts.opens⟩, ?_⟩
          rw [parts.split, splitBadges_append parts.allBadges parts.noBadge]
          simp only [List.getLast?_append, List.getLast?_singleton, Option.some_or,
            verdict_bind_eq_ok]
          exact ⟨(), (checkEnding_eq_ok_iff ..).2 ⟨parts.terminal, parts.ending⟩,
            (checkContent_eq_ok_iff ..).2 ⟨parts.alone, parts.mixed⟩⟩

/-! ## The search for the link -/

/-- What the search finds splits the nodes as the grammar does, except that the node found may be no
link at all. -/
theorem skipFiller_split (first : Inline) (rest : List Inline) :
    ∃ filler, first :: rest =
        filler ++ (Parts.skipFiller first rest).1 :: (Parts.skipFiller first rest).2 ∧
      (∀ node ∈ filler, node.isLinkLike = false) ∧
      (filler = [] ∨ (Parts.skipFiller first rest).2 ≠ []) := by
  fun_induction Parts.skipFiller first rest with
  | case1 link next d ds isLink => exact ⟨[], rfl, by simp, .inl rfl⟩
  | case2 link next d ds isLink ih =>
    obtain ⟨filler, split, noLink, room⟩ := ih
    refine ⟨link :: filler, by rw [split, List.cons_append], ?_, .inr ?_⟩
    · intro node member
      rcases List.mem_cons.1 member with rfl | inside
      · exact Bool.eq_false_iff.2 isLink
      · exact noLink node inside
    · -- with no filler left, the description is the non-empty rest of the nodes
      rcases room with rfl | some
      · rw [List.nil_append, List.cons.injEq] at split
        rw [← split.2]
        exact List.cons_ne_nil d ds
      · exact some
  | case3 link ds => exact ⟨[], rfl, by simp, .inl rfl⟩

/-- The search passes over nodes that are no link while two more follow. -/
theorem skipFiller_append {filler : List Inline}
    (noLink : ∀ node ∈ filler, node.isLinkLike = false) (next d : Inline) (ds : List Inline)
    (first : Inline) (rest : List Inline) (nodes : first :: rest = filler ++ next :: d :: ds) :
    Parts.skipFiller first rest = Parts.skipFiller next (d :: ds) := by
  induction filler generalizing first rest with
  | nil =>
    obtain ⟨rfl, rfl⟩ := List.cons.inj nodes
    rfl
  | cons node filler ih =>
    obtain ⟨rfl, tail⟩ := List.cons.inj nodes
    obtain ⟨second, e, es, more⟩ : ∃ second e es, filler ++ next :: d :: ds = second :: e :: es := by
      rcases filler with _ | ⟨second, _ | ⟨e, filler⟩⟩
      · exact ⟨next, d, ds, rfl⟩
      · exact ⟨second, next, d :: ds, rfl⟩
      · exact ⟨second, e, filler ++ next :: d :: ds, rfl⟩
    have passed : ¬ first.isLinkLike = true := by simp [noLink first List.mem_cons_self]
    have tail : rest = second :: e :: es := tail.trans more
    rw [tail, Parts.skipFiller, if_neg passed]
    exact ih (fun other member => noLink other (List.mem_cons_of_mem _ member)) second (e :: es)
      more.symm

theorem skipFiller_of_isLinkLike {link : Inline} (isLink : link.isLinkLike = true)
    (description : List Inline) : Parts.skipFiller link description = (link, description) := by
  unfold Parts.skipFiller
  split <;> simp [isLink]

/-- The search passes over filler, and stops at the first link that it reaches. -/
theorem skipFiller_filler {filler description : List Inline} {link : Inline}
    (noLink : ∀ node ∈ filler, node.isLinkLike = false) (isLink : link.isLinkLike = true)
    (room : filler = [] ∨ description ≠ []) (first : Inline) (rest : List Inline)
    (nodes : first :: rest = filler ++ link :: description) :
    Parts.skipFiller first rest = (link, description) := by
  rcases room with rfl | left
  · obtain ⟨rfl, rfl⟩ := List.cons.inj nodes
    exact skipFiller_of_isLinkLike isLink rest
  · obtain ⟨d, ds, rfl⟩ := List.exists_cons_of_ne_nil left
    rw [skipFiller_append noLink link d ds first rest nodes]
    exact skipFiller_of_isLinkLike isLink (d :: ds)

/-! ## The entry -/

section

variable (cx : Context) (first : Inline) (rest : List Inline) (span itemSpan : Span)
  (blocks : List Block)

/-- An entry that does not start with plain text has the link and the description that the search
finds. -/
theorem ofItem_linked (linked : ¬ ∃ value textSpan, first = .text value textSpan) :
    Parts.ofItem (.mk (.paragraph (first :: rest) span :: blocks) itemSpan) =
      .ok (.linked (Parts.skipFiller first rest).1 (Parts.skipFiller first rest).2) := by
  cases first with
  | text value textSpan => exact absurd ⟨value, textSpan, rfl⟩ linked
  | _ => rfl

/-- An entry that does not start with plain text: the rules for the two parts, one after the other. -/
theorem validateEntry_linked (linked : ¬ ∃ value textSpan, first = .text value textSpan) :
    validateEntry cx (.mk (.paragraph (first :: rest) span :: blocks) itemSpan) =
      (validateLink cx (Parts.skipFiller first rest).1 >>= fun _ =>
        validateDescription cx (Parts.skipFiller first rest).2) := by
  rw [validateEntry, ofItem_linked first rest span itemSpan blocks linked]
  rfl

theorem validateEntry_nodes_eq_ok_iff :
    validateEntry cx (.mk (.paragraph (first :: rest) span :: blocks) itemSpan) = .ok () ↔
      (∃ value textSpan, first = .text value textSpan) ∨
        ProperLink cx (Parts.skipFiller first rest).1 ∧
          ProperDescription cx (Parts.skipFiller first rest).2 := by
  by_cases isText : ∃ value textSpan, first = .text value textSpan
  · obtain ⟨value, textSpan, rfl⟩ := isText
    exact iff_of_true rfl (.inl ⟨value, textSpan, rfl⟩)
  · rw [validateEntry_linked cx first rest span itemSpan blocks isText, verdict_bind_eq_ok,
      or_iff_right isText, ← validateLink_eq_ok_iff, ← validateDescription_eq_ok_iff]
    exact ⟨fun ⟨_, link, description⟩ => ⟨link, description⟩,
      fun ⟨link, description⟩ => ⟨(), link, description⟩⟩

end

/-- The rules accept exactly the entries of the grammar. -/
theorem validateEntry_accepts_grammar (cx : Context) (item : Item) :
    validateEntry cx item = .ok () ↔ ProperEntry cx item := by
  constructor
  · intro accepted
    obtain ⟨children, itemSpan⟩ := item
    cases children with
    | nil => cases accepted
    | cons block blocks =>
      cases block with
      | paragraph nodes span =>
        cases nodes with
        | nil => cases accepted
        | cons first rest =>
          refine ⟨first :: rest, span, blocks, rfl, ?_⟩
          rcases (validateEntry_nodes_eq_ok_iff ..).1 accepted with
            ⟨value, textSpan, rfl⟩ | ⟨linkProper, descriptionProper⟩
          · exact .textLed value textSpan rest
          · obtain ⟨filler, split, noLink, room⟩ := skipFiller_split first rest
            rw [split]
            exact .linked noLink room linkProper descriptionProper
      | _ => cases accepted
  · rintro ⟨nodes, span, blocks, children, proper⟩
    obtain ⟨inside, itemSpan⟩ := item
    obtain rfl : inside = .paragraph nodes span :: blocks := children
    cases proper with
    | textLed value textSpan rest => rfl
    | linked noLink room linkProper descriptionProper =>
      rename_i filler description link
      obtain ⟨first, rest, nodes⟩ : ∃ first rest, filler ++ link :: description = first :: rest :=
        List.exists_cons_of_ne_nil (by simp)
      have found :=
        skipFiller_filler noLink linkProper.isLinkLike room first rest nodes.symm
      rw [nodes, validateEntry_nodes_eq_ok_iff, found]
      exact .inr ⟨linkProper, descriptionProper⟩

end CuratedList
