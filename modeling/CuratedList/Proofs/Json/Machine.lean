import CuratedList.Proofs.Json.Reader

/-! # The machine that reads JSON

Each value has one list of tokens (`Value.tokens`), and the machine reads a value from these tokens and from no
others (`value?_eq_some_iff`). Its state shows what it has read (`State.tokens`), and one step adds a token to
that (`step_tokens`). Conversely it comes through the tokens of a value with just this value added, whatever is
open around it (`passes`).
-/

namespace CuratedList.Json
set_option autoImplicit false

/-! ## Lists with commas -/

/-- Lists of tokens with a comma after each. -/
def closed (tss : List (List Token)) : List Token := tss.flatMap (· ++ [.comma])

/-- Lists of tokens with commas between them. -/
def separated (tss : List (List Token)) : List Token := [Token.comma].intercalate tss

@[simp] theorem closed_nil : closed [] = [] := rfl

@[simp] theorem closed_cons (ts : List Token) (tss : List (List Token)) :
    closed (ts :: tss) = ts ++ .comma :: closed tss := by
  simp [closed]

@[simp] theorem closed_append (tss uss : List (List Token)) : closed (tss ++ uss) = closed tss ++ closed uss :=
  List.flatMap_append

@[simp] theorem separated_nil : separated [] = [] := rfl

@[simp] theorem separated_cons (ts : List Token) (tss : List (List Token)) :
    separated (ts :: tss) = ts ++ tss.flatMap (.comma :: ·) := by
  induction tss generalizing ts with
  | nil => simp [separated]
  | cons us tss ih =>
    rw [separated, List.intercalate_cons_cons, ← separated, ih]
    simp

/-- There is no comma after the last list. -/
theorem separated_concat (tss : List (List Token)) (ts : List Token) :
    separated (tss ++ [ts]) = closed tss ++ ts := by
  cases tss with
  | nil => simp
  | cons us tss =>
    induction tss generalizing us with
    | nil => simp
    | cons vs tss ih => simpa using ih vs

/-! ## The tokens of a value -/

theorem sizeOf_lt_of_mem {members : List (String × Value)} {m : String × Value} (member : m ∈ members) :
    sizeOf m.2 < sizeOf (Value.object members) := by
  have smaller := List.sizeOf_lt_of_mem member
  obtain ⟨key, v⟩ := m
  simp only [Prod.mk.sizeOf_spec, Value.object.sizeOf_spec] at smaller ⊢
  omega

def Value.tokens : Value → List Token
  | .atom a => [.atom a]
  | .array items => .openArray :: separated (items.map Value.tokens) ++ [.closeArray]
  | .object members =>
    .openObject :: separated (members.map fun m => .atom (.text m.1) :: .colon :: m.2.tokens) ++
      [.closeObject]
  decreasing_by
    · decreasing_tactic
    · exact sizeOf_lt_of_mem ‹_›

def memberTokens (m : String × Value) : List Token := .atom (.text m.1) :: .colon :: m.2.tokens

@[simp] theorem tokens_atom (a : Atom) : (Value.atom a).tokens = [.atom a] := by rw [Value.tokens]

@[simp] theorem tokens_array (items : List Value) :
    (Value.array items).tokens = .openArray :: separated (items.map Value.tokens) ++ [.closeArray] := by
  rw [Value.tokens]

@[simp] theorem tokens_object (members : List (String × Value)) :
    (Value.object members).tokens =
      .openObject :: separated (members.map memberTokens) ++ [.closeObject] := by
  rw [Value.tokens]
  rfl

/-! ## What has been read -/

def Open.tokens : Open → List Token
  | .array items => .openArray :: closed (items.reverse.map Value.tokens)
  | .object members key =>
    .openObject :: closed (members.reverse.map memberTokens) ++ [.atom (.text key), .colon]

def outerTokens (outer : List Open) : List Token := outer.reverse.flatMap Open.tokens

/-- The tokens that have been read up to a state. -/
def State.tokens : State → List Token
  | .value outer => outerTokens outer
  | .firstItem outer => outerTokens outer ++ [.openArray]
  | .firstKey outer => outerTokens outer ++ [.openObject]
  | .nextKey members outer =>
    outerTokens outer ++ .openObject :: closed (members.reverse.map memberTokens)
  | .colon members key outer =>
    outerTokens outer ++ .openObject :: closed (members.reverse.map memberTokens) ++ [.atom (.text key)]
  | .after v outer => outerTokens outer ++ v.tokens

theorem outerTokens_cons (o : Open) (outer : List Open) :
    outerTokens (o :: outer) = outerTokens outer ++ o.tokens := by
  simp [outerTokens]

theorem startValue_tokens {outer : List Open} {t : Token} {s : State}
    (started : startValue outer t = some s) : s.tokens = outerTokens outer ++ [t] := by
  unfold startValue at started
  split at started <;> cases started
  · rw [State.tokens, tokens_atom]
  · rfl
  · rfl

/-- A step adds its token to what has been read. -/
theorem step_tokens {s next : State} {t : Token} (stepped : step s t = some next) :
    next.tokens = s.tokens ++ [t] := by
  unfold step at stepped
  -- two steps start a value; every other one that is there has its token in the state after it
  split at stepped
  case h_1 => exact startValue_tokens stepped
  case h_3 =>
    rw [startValue_tokens stepped, outerTokens_cons]
    rfl
  case h_2 | h_4 | h_5 | h_6 | h_7 | h_8 | h_9 | h_10 | h_11 =>
    cases stepped
    simp [State.tokens, outerTokens_cons, Open.tokens, memberTokens, separated_concat]
  case h_12 => cases stepped

theorem run_tokens_eq {s last : State} {ts : List Token} (ran : run s ts = some last) :
    last.tokens = s.tokens ++ ts := by
  induction ts generalizing s with
  | nil =>
    cases ran
    exact (List.append_nil _).symm
  | cons t ts ih =>
    obtain ⟨next, stepped, ran⟩ := Option.bind_eq_some_iff.1 ran
    rw [ih ran, step_tokens stepped, List.append_assoc, List.singleton_append]

/-! ## The way through a value -/

theorem run_cons_of_step {s next : State} {t : Token} (stepped : step s t = some next) (ts : List Token) :
    run s (t :: ts) = run next ts := by
  rw [run, List.foldlM_cons, stepped]
  rfl

/-- The machine reads the tokens of a value as this value, whatever is open around it and comes after it. -/
def Passes (v : Value) : Prop :=
  ∀ outer ts, run (.value outer) (v.tokens ++ ts) = run (.after v outer) ts

theorem run_items {items : List Value} (each : ∀ v ∈ items, Passes v) (v : Value) (before : List Value)
    (outer : List Open) (ts : List Token) :
    run (.after v (.array before :: outer))
        ((items.map Value.tokens).flatMap (.comma :: ·) ++ .closeArray :: ts) =
      run (.after (.array (before.reverse ++ v :: items)) outer) ts := by
  -- each item moves to the ones before it when the next comma is read
  induction items generalizing v before with
  | nil =>
    rw [List.map_nil, List.flatMap_nil, List.nil_append, run_cons_of_step rfl, List.reverse_cons]
  | cons w items ih =>
    obtain ⟨here, later⟩ := List.forall_mem_cons.1 each
    rw [List.map_cons, List.flatMap_cons, List.append_assoc, List.cons_append, run_cons_of_step rfl, here,
      ih later]
    simp

theorem run_members {members : List (String × Value)} (each : ∀ m ∈ members, Passes m.2) (v : Value)
    (before : List (String × Value)) (key : String) (outer : List Open) (ts : List Token) :
    run (.after v (.object before key :: outer))
        ((members.map memberTokens).flatMap (.comma :: ·) ++ .closeObject :: ts) =
      run (.after (.object (before.reverse ++ (key, v) :: members)) outer) ts := by
  induction members generalizing v before key with
  | nil =>
    rw [List.map_nil, List.flatMap_nil, List.nil_append, run_cons_of_step rfl, List.reverse_cons]
  | cons m members ih =>
    obtain ⟨here, later⟩ := List.forall_mem_cons.1 each
    rw [List.map_cons, List.flatMap_cons, List.append_assoc, List.cons_append, run_cons_of_step rfl,
      memberTokens, List.cons_append, run_cons_of_step rfl, List.cons_append, run_cons_of_step rfl, here,
      ih later]
    simp

/-- No value starts with the end of an array. -/
theorem run_firstItem (v : Value) (outer : List Open) (ts : List Token) :
    run (.firstItem outer) (v.tokens ++ ts) = run (.value (.array [] :: outer)) (v.tokens ++ ts) := by
  cases v <;> simp <;> rfl

theorem passes_array {items : List Value} (each : ∀ v ∈ items, Passes v) : Passes (.array items) := by
  intro outer ts
  rw [tokens_array]
  cases items with
  | nil => rfl
  | cons v items =>
    obtain ⟨here, later⟩ := List.forall_mem_cons.1 each
    have parts : .openArray :: separated ((v :: items).map Value.tokens) ++ [.closeArray] ++ ts =
        .openArray :: (v.tokens ++
          ((items.map Value.tokens).flatMap (.comma :: ·) ++ .closeArray :: ts)) := by simp
    rw [parts, run_cons_of_step rfl, run_firstItem, here, run_items later]
    rfl

theorem passes_object {members : List (String × Value)} (each : ∀ m ∈ members, Passes m.2) :
    Passes (.object members) := by
  intro outer ts
  rw [tokens_object]
  cases members with
  | nil => rfl
  | cons m members =>
    obtain ⟨here, later⟩ := List.forall_mem_cons.1 each
    have parts : .openObject :: separated ((m :: members).map memberTokens) ++ [.closeObject] ++ ts =
        .openObject :: .atom (.text m.1) :: .colon :: (m.2.tokens ++
          ((members.map memberTokens).flatMap (.comma :: ·) ++ .closeObject :: ts)) := by simp [memberTokens]
    rw [parts, run_cons_of_step rfl, run_cons_of_step rfl, run_cons_of_step rfl, here, run_members later]
    rfl

theorem passes (v : Value) : Passes v := by
  -- by recursion on the parts, of which the lemmas above need only that each passes
  match v with
  | .atom a => intro outer ts; rw [tokens_atom]; rfl
  | .array items => exact passes_array fun v _ => passes v
  | .object members => exact passes_object fun m _ => passes m.2
  termination_by v
  decreasing_by
    · decreasing_tactic
    · exact sizeOf_lt_of_mem ‹_›

/-- The machine reads a value from its tokens and from no others. -/
theorem value?_eq_some_iff (ts : List Token) (v : Value) : value? ts = some v ↔ ts = v.tokens := by
  constructor
  · intro read
    obtain ⟨last, ran, done⟩ := Option.bind_eq_some_iff.1 read
    unfold State.done? at done
    split at done
    · cases done
      simpa [State.tokens, outerTokens] using (run_tokens_eq ran).symm
    · cases done
  · rintro rfl
    have ran : run (.value []) v.tokens = some (.after v []) := by
      simpa [run] using passes v [] []
    rw [value?, ran]
    rfl

/-- No comma comes before the end of an array. -/
example : value? [.openArray, .atom .null, .comma, .closeArray] = none := rfl

end CuratedList.Json
