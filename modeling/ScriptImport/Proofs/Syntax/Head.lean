/-
# Reading with a head

`Parser` reads from a list that gets shorter, and how deep reading may go is said by the number of levels that are
left.  A head reads the same productions from a row of cells.  It stands in front of a cell, and counts up and down how
deep it is: a level is entered unless the head is as deep as it may be, and left again whatever has come of it.

Here much can go wrong that cannot go wrong with a list: a cell can be looked at that is not there, a counter at zero
can be counted down, and as nothing gets smaller, only fuel makes a run end.  Each of these stops a run as a `Halt` of
its own, apart from the faults of the source.
-/

import ScriptImport.Proofs.Syntax.Operators

namespace ScriptImport
namespace Syntax

/-- What stands in a cell: a token, or the end of the source. -/
inductive Cell where
  | token (token : Located)
  | stop

/-- The token in a cell. -/
def Cell.token? : Cell → Option Located
  | token t => some t
  | stop => none

/-- Tokens in a row, and the end of the source behind them. -/
def row (ts : List Located) : List Cell := ts.map .token ++ [.stop]

/-- What a head reads, and how many rounds its loops may take. -/
structure Tape where
  cells : List Cell
  fuel : Nat

/-- Where a head stands, how deep it is, and how deep it has ever been. -/
structure Head where
  position : Nat
  depth : Nat
  peak : Nat
  deriving Repr, DecidableEq

/-- The head one level further down. -/
def Head.deeper (h : Head) : Head := ⟨h.position, h.depth + 1, max h.peak (h.depth + 1)⟩

/-- Why a run of a head stops. -/
inductive Halt where
  /-- The source is not a module. -/
  | fault (failure : Failure)
  /-- A cell is looked at that is not there. -/
  | outside
  /-- A counter at zero is counted down. -/
  | belowZero
  /-- There is no fuel left. -/
  | unfinished

/-- A production that is read by a head. -/
abbrev Walk := ReaderT Tape (ExceptT Halt (StateM Head))

namespace Walk

/-- The token that stands `offset` cells behind the one in front; none is the end of the source.  Nothing keeps the
head from looking past the last cell. -/
def look (offset : Nat) : Walk (Option Located) := fun tape h =>
  match tape.cells[h.position + offset]? with
  | some c => (.ok c.token?, h)
  | none => (.error .outside, h)

/-- The token without its place. -/
def tokenAt (offset : Nat) : Walk (Option Token) := return (← look offset).map (·.token)

/-- One less. -/
def countDown : Nat → Walk Nat
  | 0 => throw .belowZero
  | n + 1 => return n

/-- Moves to the next cell, unless the head stands in front of the last one. -/
def advance : Walk Unit := do
  let _ ← look 0
  let last ← countDown (← read).cells.length
  modify fun h => if h.position < last then { h with position := h.position + 1 } else h

/-- Fails at the cell in front. -/
def stopAt {α : Type} (fault : Fault) : Walk α := do
  throw (.fault ⟨fault, ← look 0⟩)

/-- Looks for the parenthesis that closes all of `opened` ones, from the cell `offset` places behind the one in front
on, and whether an arrow is behind it. -/
def closesFrom : (fuel opened offset : Nat) → Walk Bool
  | 0, _, _ => throw .unfinished
  | fuel + 1, opened, offset => do
    match ← tokenAt offset with
    | none => return false
    | some (.mark .leftParen) => closesFrom fuel (opened + 1) (offset + 1)
    | some (.mark .rightParen) =>
      let opened ← countDown opened
      if opened = 0 then return (← tokenAt (offset + 1)).any (Token.isMark .arrow)
      closesFrom fuel opened (offset + 1)
    | some _ => closesFrom fuel opened (offset + 1)

/-- Looks ahead whether the parameters of an arrow function are in front. -/
def lookAhead : Walk Bool := do
  match ← tokenAt 0 with
  | some (.identifier _) => return (← tokenAt 1).any (Token.isMark .arrow)
  | some (.mark .leftParen) => closesFrom (← read).fuel 0 0
  | _ => return false

instance : Reading Walk where
  fail := stopAt
  peek := tokenAt 0
  skip := advance
  budget := return (← read).fuel
  spent _ := throw .unfinished
  arrowAhead := lookAhead

/-- Goes one level down. -/
def enter : Walk Unit := modify Head.deeper

/-- Comes one level up again. -/
def leave : Walk Unit := do
  let depth ← countDown (← get).depth
  modify fun h => { h with depth := depth }

/-- What comes of a production, also if the source is found not to be a module there. -/
def outcome {α : Type} (p : Walk α) : Walk (Except Failure α) := fun tape h =>
  match (p tape h : Except Halt α × Head) with
  | (.ok a, h) => (.ok (.ok a), h)
  | (.error (.fault f), h) => (.ok (.error f), h)
  | (.error e, h) => (.error e, h)

/-- A production one level further down, unless that is too deep.  The level is left whatever comes of it. -/
def nested {α : Type} (p : Walk α) : Walk α := do
  if Parser.maxNesting ≤ (← get).depth then stopAt .tooDeep
  else
    enter
    let result ← outcome p
    leave
    match result with
    | .ok a => return a
    | .error f => throw (.fault f)

/-- The productions that go one level down. -/
def level : (fuel : Nat) → Productions Walk
  | 0 => ⟨throw .unfinished, throw .unfinished, throw .unfinished⟩
  | fuel + 1 =>
    let inner := level fuel
    ⟨nested (Parser.assignment inner), nested (Parser.operand inner), nested (Parser.statement inner)⟩

/-- Reads a module. -/
def program : Walk Program := do
  let tape ← read
  return ⟨← Parser.items (level tape.fuel) (← Reading.budget)⟩

/-- Reads a source from the first cell on, with fuel for one round more than there are tokens and levels. -/
def parse (source : String) : Except Halt (Except SourceError Program) :=
  match tokenize source with
  | .error e => .ok (.error (.scan e))
  | .ok ts =>
    let tape : Tape := ⟨row ts.tokens, ts.tokens.length + Parser.maxNesting + 1⟩
    match (program tape ⟨0, 0, 0⟩ : Except Halt Program × Head) with
    | (.ok p, _) => .ok (.ok p)
    | (.error (.fault f), _) =>
      .ok (.error (.fault f.fault (f.found.map (·.token)) ((f.found.map (·.span)).getD ts.stop)))
    | (.error e, _) => .error e

end Walk

/-! ## Steps of a head -/

variable {α β : Type}

namespace Walk

theorem bind_ok {w : Walk α} {f : α → Walk β} {tape : Tape} {h h' : Head} {a : α} (run : w tape h = (.ok a, h')) :
    (w >>= f) tape h = f a tape h' := by
  simp only [bind, ReaderT.bind, ExceptT.bind, ExceptT.mk, StateT.bind, run, ExceptT.bindCont]

theorem bind_error {w : Walk α} {f : α → Walk β} {tape : Tape} {h h' : Head} {e : Halt}
    (run : w tape h = (.error e, h')) : (w >>= f) tape h = (.error e, h') := by
  simp only [bind, ReaderT.bind, ExceptT.bind, ExceptT.mk, StateT.bind, run, ExceptT.bindCont]
  rfl

/-- Where both parts of a production have a result, the head of the second one was where the first one left it. -/
theorem of_bind_ok {w : Walk α} {f : α → Walk β} {tape : Tape} {h h'' : Head} {b : β}
    (run : (w >>= f) tape h = (.ok b, h'')) : ∃ a h', w tape h = (.ok a, h') ∧ f a tape h' = (.ok b, h'') := by
  generalize first : w tape h = result
  obtain ⟨a | a, h'⟩ := result
  · rw [bind_error first] at run
    cases run
  · exact ⟨a, h', rfl, (bind_ok first).symm.trans run⟩

variable {ts : List Located} {fuel offset : Nat} {h : Head}

/-- From the end of the source on back, there is a cell at every place. -/
theorem look_row (inside : h.position + offset ≤ ts.length) :
    look offset ⟨row ts, fuel⟩ h = (.ok ts[h.position + offset]?, h) := by
  rcases Nat.lt_or_eq_of_le inside with within | atEnd
  · simp [look, row, List.getElem?_append_left, within, Cell.token?]
  · simp [look, row, atEnd, Cell.token?]

theorem tokenAt_row (inside : h.position + offset ≤ ts.length) :
    tokenAt offset ⟨row ts, fuel⟩ h = (.ok (ts[h.position + offset]?.map (·.token)), h) :=
  bind_ok (look_row inside)

theorem countDown_succ (n : Nat) (tape : Tape) : countDown (n + 1) tape h = (.ok n, h) := rfl

/-- A head moves by one cell, except from the end of the source. -/
theorem advance_row (fuel : Nat) (inside : h.position ≤ ts.length) :
    advance ⟨row ts, fuel⟩ h = (.ok (), { h with position := min (h.position + 1) ts.length }) := by
  have last : countDown (row ts).length ⟨row ts, fuel⟩ h = (.ok ts.length, h) := by
    rw [row, List.length_append, List.length_map]
    exact countDown_succ ..
  have moved : (if h.position < ts.length then { h with position := h.position + 1 } else h) =
      { h with position := min (h.position + 1) ts.length } := by
    rcases Nat.lt_or_eq_of_le inside with within | atEnd
    · rw [if_pos within, Nat.min_eq_left within]
    · rw [if_neg (Nat.not_lt.2 (Nat.le_of_eq atEnd.symm)), Nat.min_eq_right (by omega), ← atEnd]
  rw [advance, bind_ok (look_row inside)]
  show (countDown (row ts).length >>= _) _ h = _
  rw [bind_ok last, ← moved]
  rfl

/-- A head that fails says what is in front of it. -/
theorem stopAt_row (fuel : Nat) (fault : Fault) (inside : h.position ≤ ts.length) :
    stopAt (α := α) fault ⟨row ts, fuel⟩ h = (.error (.fault ⟨fault, ts[h.position]?⟩), h) :=
  bind_ok (look_row inside)

/-- The parenthesis is found, and whether an arrow is behind it, while at least one is open. -/
theorem closesFrom_row (opened : Nat) {rounds : Nat} (inside : h.position + offset ≤ ts.length)
    (enough : ts.length < h.position + offset + rounds) :
    closesFrom rounds (opened + 1) offset ⟨row ts, fuel⟩ h =
      (.ok (closesBeforeArrow (opened + 1) (ts.drop (h.position + offset))), h) := by
  induction rounds generalizing opened offset with
  | zero => omega
  | succ rounds ih =>
    rw [closesFrom, bind_ok (tokenAt_row inside)]
    rcases Nat.lt_or_eq_of_le inside with within | atEnd
    · rw [List.getElem?_eq_getElem within, Option.map_some, List.drop_eq_getElem_cons within]
      generalize ts[h.position + offset] = t
      generalize seen : some t.token = front
      split
      case h_1 => cases seen
      case h_2 =>
        rw [ih (opened + 1) (by omega) (by omega), closesBeforeArrow_open (Option.some.inj seen)]
        rfl
      case h_3 =>
        rw [bind_ok (countDown_succ ..)]
        cases opened with
        | zero =>
          have behind : tokenAt (offset + 1) ⟨row ts, fuel⟩ h = _ := tokenAt_row (by omega)
          rw [if_pos rfl, bind_ok behind, closesBeforeArrow_last (Option.some.inj seen), List.head?_drop,
            Option.any_map]
          rfl
        | succ opened =>
          rw [if_neg (Nat.succ_ne_zero _), ih opened (by omega) (by omega),
            closesBeforeArrow_close (Option.some.inj seen)]
          rfl
      case h_4 left right =>
        cases seen
        have other : t.token.isParen = false := by
          cases token : t.token with
          | mark m =>
            have notLeft : Mark.leftParen ≠ m := fun same => left (by rw [token, same])
            have notRight : Mark.rightParen ≠ m := fun same => right (by rw [token, same])
            simp [Token.isParen, Token.isMark, notLeft, notRight]
          | _ => rfl
        rw [ih opened (by omega) (by omega), closesBeforeArrow_other other]
        rfl
    · rw [atEnd, List.getElem?_eq_none (Nat.le_refl _), List.drop_length]
      rfl

/-- Looking ahead finds what is so of the tokens, and the head is where it was. -/
theorem lookAhead_row (inside : h.position ≤ ts.length) (enough : ts.length < h.position + fuel) :
    lookAhead ⟨row ts, fuel⟩ h = (.ok (startsArrow (ts.drop h.position)), h) := by
  rw [lookAhead, bind_ok (tokenAt_row inside), Nat.add_zero]
  rcases Nat.lt_or_eq_of_le inside with within | atEnd
  · rw [List.getElem?_eq_getElem within, Option.map_some, List.drop_eq_getElem_cons within]
    generalize found : ts[h.position] = t
    generalize seen : some t.token = front
    split
    case h_1 =>
      rw [bind_ok (tokenAt_row within), startsArrow, Option.some.inj seen, List.head?_drop, Option.any_map]
      rfl
    case h_2 =>
      show closesFrom fuel 0 0 ⟨row ts, fuel⟩ h = _
      obtain ⟨rounds, rfl⟩ : ∃ rounds, fuel = rounds + 1 := ⟨fuel - 1, by omega⟩
      rw [closesFrom, bind_ok (tokenAt_row inside), Nat.add_zero, List.getElem?_eq_getElem within, found,
        Option.map_some, seen]
      show closesFrom rounds 1 1 _ h = _
      rw [closesFrom_row 0 within (by omega), startsArrow, Option.some.inj seen]
    case h_3 notName notOpen =>
      have starts : startsArrow (t :: ts.drop (h.position + 1)) = false := by
        rw [startsArrow]
        split
        case h_1 x name => exact (notName x (by rw [← seen, name])).elim
        case h_2 isOpen => exact (notOpen (by rw [← seen, isOpen])).elim
        case h_3 => rfl
      rw [starts]
      rfl
  · rw [atEnd, List.getElem?_eq_none (Nat.le_refl _), List.drop_length]
    rfl

/-! ### Levels -/

variable {w : Walk α} {tape : Tape} {h' : Head} {result : Except Failure α}

theorem outcome_ok {a : α} (run : w tape h = (.ok a, h')) : outcome w tape h = (.ok (.ok a), h') := by
  simp only [outcome, run]

theorem outcome_fault {f : Failure} (run : w tape h = (.error (.fault f), h')) :
    outcome w tape h = (.ok (.error f), h') := by
  simp only [outcome, run]

theorem leave_succ {depth : Nat} (deeper : h.depth = depth + 1) :
    leave tape h = (.ok (), { h with depth := depth }) := by
  have less : countDown h.depth tape h = (.ok depth, h) := by
    rw [deeper]
    exact countDown_succ ..
  show (countDown h.depth >>= _) tape h = _
  rw [bind_ok less]
  rfl

/-- What is read one level further down is what is read, and the head comes back up. -/
theorem nested_of_outcome (shallow : h.depth < Parser.maxNesting)
    (run : outcome w tape h.deeper = (.ok result, h')) (deeper : h'.depth = h.depth + 1) :
    nested w tape h = (result.mapError .fault, { h' with depth := h.depth }) := by
  show (if Parser.maxNesting ≤ h.depth then _ else _ : Walk α) tape h = _
  rw [if_neg (Nat.not_le.2 shallow)]
  show (outcome w >>= _) tape h.deeper = _
  rw [bind_ok run, bind_ok (leave_succ deeper)]
  cases result <;> rfl

theorem nested_tooDeep (fuel : Nat) (deepest : Parser.maxNesting ≤ h.depth) (inside : h.position ≤ ts.length) :
    nested w ⟨row ts, fuel⟩ h = (.error (.fault ⟨.tooDeep, ts[h.position]?⟩), h) := by
  show (if Parser.maxNesting ≤ h.depth then _ else _ : Walk α) _ h = _
  rw [if_pos deepest]
  exact stopAt_row fuel .tooDeep inside

end Walk

end Syntax
end ScriptImport
