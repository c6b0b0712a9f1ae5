import CuratedList.Text.Blank
import CuratedList.Text.Position
import Mathlib.Data.List.TakeWhile

/-! # Lines of a source, by its line feeds

The table of an index holds 0 and the ends of the line feeds. An offset parts it: the lines that have
started up to there are one more than the line feeds before the offset, and the last of them starts after
the last line feed (`lookup_of_split`). The bytes of other characters are no line feeds, so that it does not
matter whether characters or bytes are counted (`count_take_bytes`).
-/

namespace CuratedList.Text
set_option autoImplicit false

/-- The characters after the last line feed. -/
def lastLine (cs : List Char) : List Char := takeWhileEnd (· != '\n') cs

/-- The lines of a text before the last one, with their line feeds. -/
def linesBefore (cs : List Char) : List Char := dropWhileEnd (· != '\n') cs

theorem linesBefore_append_lastLine (cs : List Char) : linesBefore cs ++ lastLine cs = cs :=
  dropWhileEnd_append_takeWhileEnd _ cs

/-! ## Ends of line feeds -/

theorem lineEnds_append (pos : Nat) (as bs : List Char) :
    lineEnds pos (as ++ bs) = lineEnds pos as ++ lineEnds (pos + byteLength as) bs := by
  induction as generalizing pos with
  | nil => rfl
  | cons a as ih =>
    simp only [List.cons_append, lineEnds, ih, byteLength_cons, Nat.add_assoc]
    split <;> rfl

theorem length_lineEnds (pos : Nat) (cs : List Char) : (lineEnds pos cs).length = cs.count '\n' := by
  induction cs generalizing pos with
  | nil => rfl
  | cons c cs ih =>
    by_cases feed : c = '\n'
    · simp only [lineEnds, feed, if_true, List.length_cons, ih, List.count_cons_self]
    · simp only [lineEnds, feed, if_false, ih, List.count_cons_of_ne feed]

theorem lineEnds_bounds {pos n : Nat} {cs : List Char} (member : n ∈ lineEnds pos cs) :
    pos < n ∧ n ≤ pos + byteLength cs := by
  induction cs generalizing pos with
  | nil => cases member
  | cons c cs ih =>
    have positive := c.utf8Size_pos
    rw [byteLength_cons]
    simp only [lineEnds] at member
    split at member
    · rcases List.mem_cons.1 member with rfl | later
      · omega
      · have := ih later
        omega
    · have := ih member
      omega

theorem le_of_mem_lineEnds {pos n : Nat} {c : Char} {cs : List Char}
    (member : n ∈ lineEnds pos (c :: cs)) : pos + c.utf8Size ≤ n := by
  simp only [lineEnds] at member
  split at member
  · rcases List.mem_cons.1 member with rfl | later
    · exact Nat.le_refl _
    · exact (lineEnds_bounds later).1.le
  · exact (lineEnds_bounds member).1.le

theorem lineEnds_eq_nil {cs : List Char} (pos : Nat) (none : '\n' ∉ cs) : lineEnds pos cs = [] := by
  rw [← List.length_eq_zero_iff, length_lineEnds, List.count_eq_zero]
  exact none

/-- The last line that has started at the end of a text is the one after its last line feed. -/
theorem getLast?_starts (cs : List Char) :
    (0 :: lineEnds 0 cs).getLast? = some (byteLength (linesBefore cs)) := by
  have noFeed : '\n' ∉ lastLine cs := by
    intro member
    simpa using forall_mem_takeWhileEnd _ cs _ member
  have before := forall_getLast?_dropWhileEnd (· != '\n') cs
  rw [← linesBefore_append_lastLine cs, lineEnds_append, lineEnds_eq_nil _ noFeed, List.append_nil,
    linesBefore_append_lastLine]
  change ∀ c ∈ (linesBefore cs).getLast?, _ at before
  rcases List.eq_nil_or_concat (linesBefore cs) with none | ⟨front, c, split⟩
  · rw [none]
    rfl
  · rw [List.concat_eq_append] at split
    rw [split] at before ⊢
    have feed : c = '\n' := by simpa using before c (by simp)
    have last : lineEnds (0 + byteLength front) ['\n'] = [byteLength (front ++ ['\n'])] := by
      rw [Nat.zero_add, byteLength_append]
      rfl
    rw [feed, lineEnds_append, last, ← List.cons_append, List.getLast?_concat]

/-! ## Look-ups -/

/-- An offset between the characters of `before` and the line feeds of `rest` is in the last line of
`before`. -/
theorem lookup_of_split {before rest : List Char} {offset : Nat} (le : byteLength before ≤ offset)
    (ahead : ∀ n ∈ lineEnds (byteLength before) rest, offset < n) :
    partitionPoint (· ≤ offset) (LineIndex.ofSource (before ++ rest)).starts =
        before.count '\n' + 1 ∧
      (LineIndex.ofSource (before ++ rest)).starts[before.count '\n']? =
        some (byteLength (linesBefore before)) := by
  obtain ⟨line, start, count, here, startLe, next⟩ :=
    (LineIndex.ofSource (before ++ rest)).exists_line offset
  have starts : (LineIndex.ofSource (before ++ rest)).starts =
      ((0 :: lineEnds 0 before) ++ lineEnds (byteLength before) rest).toArray := by
    simp only [LineIndex.ofSource, lineEnds_append, Nat.zero_add, List.cons_append]
  have passed : ∀ n ∈ 0 :: lineEnds 0 before, n ≤ offset := by
    rw [List.forall_mem_cons]
    refine ⟨Nat.zero_le _, fun n member => ?_⟩
    have := (lineEnds_bounds member).2
    omega
  have size : (0 :: lineEnds 0 before).length = before.count '\n' + 1 := by
    rw [List.length_cons, length_lineEnds]
  rw [starts, List.getElem?_toArray] at here
  rw [starts] at next
  have started : line < before.count '\n' + 1 := by
    by_contra outside
    rw [List.getElem?_append_right (by omega)] at here
    have later := ahead start (List.mem_of_getElem? here)
    omega
  have last : ¬ line + 1 < before.count '\n' + 1 := by
    intro inside
    rw [← size] at inside
    have more := next _ (by rw [List.getElem?_toArray, List.getElem?_append_left inside,
      List.getElem?_eq_getElem inside])
    have := passed _ (List.getElem_mem inside)
    omega
  obtain rfl : line = before.count '\n' := by omega
  refine ⟨count, ?_⟩
  have place := getLast?_starts before
  rwa [List.getLast?_eq_getElem?, size, Nat.add_sub_cancel,
    ← List.getElem?_append_left (size ▸ started), ← List.getElem?_toArray, ← starts] at place

/-- At the end of a character, the line counts line feeds and the column the characters after the last of
them. -/
theorem position?_of_boundary (before rest : List Char) {offset : Nat}
    (here : min offset (byteLength (before ++ rest)) = byteLength before) :
    (LineIndex.ofSource (before ++ rest)).position? offset =
      some ⟨before.count '\n' + 1, (lastLine before).length + 1⟩ := by
  have parts : byteLength before = byteLength (linesBefore before) + byteLength (lastLine before) := by
    rw [← byteLength_append, linesBefore_append_lastLine]
  have slice : slice? (before ++ rest) (byteLength (linesBefore before)) (byteLength before) =
      some (lastLine before) := by
    refine slice?_eq_some_iff.2 ⟨linesBefore before, rest, ?_, rfl, ?_⟩
    · rw [linesBefore_append_lastLine]
    · rw [linesBefore_append_lastLine]
  have ahead : ∀ n ∈ lineEnds (byteLength before) rest, byteLength before < n :=
    fun n member => (lineEnds_bounds member).1
  obtain ⟨count, start⟩ := lookup_of_split (le_refl _) ahead
  have source : (LineIndex.ofSource (before ++ rest)).source = before ++ rest := rfl
  rw [← source] at here
  rw [LineIndex.position?_eq_some _ (by rw [here]; exact count) start (by omega), here, source, slice]

/-! ## Line feeds among the bytes -/

def bytes (cs : List Char) : List UInt8 := cs.flatMap String.utf8EncodeChar

theorem length_bytes (cs : List Char) : (bytes cs).length = byteLength cs := by
  induction cs with
  | nil => rfl
  | cons c cs ih =>
    rw [bytes, List.flatMap_cons, List.length_append, String.length_utf8EncodeChar, byteLength_cons,
      ← ih, bytes]

/-- The byte of a line feed is in no other character. -/
theorem not_mem_utf8EncodeChar {c : Char} (other : c ≠ '\n') :
    (10 : UInt8) ∉ String.utf8EncodeChar c := by
  have byte {n : Nat} (small : n < 256) (apart : n ≠ 10) : (10 : UInt8) ≠ UInt8.ofNat n := by
    intro same
    have value := congrArg UInt8.toNat same
    rw [UInt8.toNat_ofNat_of_lt' small] at value
    exact apart value.symm
  have code : c.val.toNat ≠ 10 := fun same => other (Char.ext (UInt32.toNat_inj.1 same))
  unfold String.utf8EncodeChar
  simp only
  split
  · rw [List.mem_singleton]
    exact byte (by omega) code
  · -- all bytes of a longer form are 128 or more
    have high {n : Nat} (low : 128 ≤ n) (small : n < 256) : (10 : UInt8) ≠ UInt8.ofNat n :=
      byte small (by omega)
    split
    · simp only [List.mem_cons, List.not_mem_nil, or_false, not_or]
      exact ⟨high (by omega) (by omega), high (by omega) (by omega)⟩
    · split
      · simp only [List.mem_cons, List.not_mem_nil, or_false, not_or]
        exact ⟨high (by omega) (by omega), high (by omega) (by omega), high (by omega) (by omega)⟩
      · simp only [List.mem_cons, List.not_mem_nil, or_false, not_or]
        exact ⟨high (by omega) (by omega), high (by omega) (by omega), high (by omega) (by omega),
          high (by omega) (by omega)⟩

theorem count_bytes (cs : List Char) : (bytes cs).count 10 = cs.count '\n' := by
  induction cs with
  | nil => rfl
  | cons c cs ih =>
    have rest : (bytes cs).count 10 = cs.count '\n' := ih
    rw [bytes, List.flatMap_cons, List.count_append, ← bytes, rest, List.count_cons, Nat.add_comm]
    congr 1
    by_cases feed : c = '\n'
    · rw [feed]
      rfl
    · rw [List.count_eq_zero.2 (not_mem_utf8EncodeChar feed), if_neg (by simpa using feed)]

/-- The line feeds among the first bytes are those of the characters that end there or before. -/
theorem count_take_bytes {before rest : List Char} {offset : Nat} (le : byteLength before ≤ offset)
    (inside : ∀ c ∈ rest.head?, offset < byteLength before + c.utf8Size) :
    ((bytes (before ++ rest)).take offset).count 10 = before.count '\n' := by
  have front : (bytes before).take offset = bytes before :=
    List.take_of_length_le (by rw [length_bytes]; exact le)
  rw [bytes, List.flatMap_append, ← bytes, ← bytes, List.take_append, front, List.count_append,
    count_bytes, length_bytes, Nat.add_eq_left]
  -- of the next character not all bytes are taken, and a line feed has only one
  cases rest with
  | nil => rw [bytes, List.flatMap_nil, List.take_nil, List.count_nil]
  | cons c rest =>
    have part := inside c rfl
    rw [bytes, List.flatMap_cons, List.take_append_of_le_length (by
      rw [String.length_utf8EncodeChar]; omega)]
    by_cases feed : c = '\n'
    · have none : offset - byteLength before = 0 := by
        rw [feed] at part
        have size : '\n'.utf8Size = 1 := rfl
        omega
      rw [none]
      rfl
    · exact List.count_eq_zero.2 fun member =>
        not_mem_utf8EncodeChar feed (List.mem_of_mem_take member)

/-! ## The position of any offset -/

/-- An offset is at the end of a character, or in the one that follows. -/
theorem exists_split (source : List Char) {offset : Nat} (le : offset ≤ byteLength source) :
    ∃ before rest, source = before ++ rest ∧ byteLength before ≤ offset ∧
      ∀ c ∈ rest.head?, offset < byteLength before + c.utf8Size := by
  induction source generalizing offset with
  | nil => exact ⟨[], [], rfl, Nat.zero_le _, nofun⟩
  | cons c source ih =>
    by_cases here : offset < c.utf8Size
    · exact ⟨[], c :: source, rfl, Nat.zero_le _, by simpa using here⟩
    · rw [byteLength_cons] at le
      have smaller : offset - c.utf8Size ≤ byteLength source := by omega
      obtain ⟨before, rest, rfl, start, inside⟩ := ih smaller
      refine ⟨c :: before, rest, rfl, ?_, fun d first => ?_⟩
      · rw [byteLength_cons]
        omega
      · have := inside d first
        rw [byteLength_cons]
        omega

/-- Every look-up gives a position, and its line counts the line feeds among the bytes before the offset. -/
theorem exists_position? (source : List Char) (offset : Nat) :
    ∃ position, (LineIndex.ofSource source).position? offset = some position ∧
      position.line =
        ((bytes source).take (min offset (byteLength source))).count 10 + 1 := by
  obtain ⟨before, rest, rfl, le, inside⟩ :=
    exists_split source (Nat.min_le_right offset (byteLength source))
  have ahead : ∀ n ∈ lineEnds (byteLength before) rest,
      min offset (byteLength (before ++ rest)) < n := by
    intro n member
    cases rest with
    | nil => cases member
    | cons c rest => exact (inside c rfl).trans_le (le_of_mem_lineEnds member)
  obtain ⟨count, start⟩ := lookup_of_split le ahead
  have startLe : byteLength (linesBefore before) ≤ byteLength before := by
    rw [← linesBefore_append_lastLine before, byteLength_append, linesBefore_append_lastLine]
    exact Nat.le_add_right _ _
  exact ⟨_, LineIndex.position?_eq_some _ count start (startLe.trans le),
    by rw [count_take_bytes le inside]⟩

end CuratedList.Text
