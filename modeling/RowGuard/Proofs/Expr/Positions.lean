import RowGuard.Proofs.Expr.Confinement
import RowGuard.Proofs.Token.Walk

/-! Where reading comes to. A position is the tokens from there on. From every
position up to the end of a text, each rule stays among the tokens, and each turn
of a loop of the grammar takes a token or is the last. -/

set_option autoImplicit false

namespace RowGuard

namespace Expr

/-! ## Staying among the tokens -/

/-- What a reader reads and leaves, or why it fails. -/
def outcome {α : Type} {tokens : List Token} {least : Nat} (reading : Reading α tokens least) :
    Except ReadError (α × List Token) :=
  reading.map fun read => (read.value, read.rest)

/-- Whether a reader stays among the tokens from a position on: it leaves a position up to the last
of them, what it refuses is one of them, and it does not see what stands behind them. -/
structure Stays (source : Source) {α : Type} {least : Nat}
    (reader : ∀ tokens, Reading α tokens least) (position : List Token) : Prop where
  leaves : ∀ read, reader position = .ok read → read.rest ≠ [] ∧ read.rest <:+ position
  refuses : FailsWith (source.Refuses position) (reader position)
  unseen : ∀ behind, outcome (reader (position ++ behind)) =
    (outcome (reader position)).map fun read => (read.1, read.2 ++ behind)

theorem Confined.stays {source : Source} {α : Type} {least : Nat}
    {reader : ∀ tokens, Reading α tokens least} {position : List Token}
    (confined : ∀ behind, Confined source position behind (reader position)
      (reader (position ++ behind))) : Stays source reader position where
  leaves _ got := (confined []).leaves got
  refuses := (confined []).failsWith
  unseen behind := by
    have both := confined behind
    generalize reader position = first at both
    generalize reader (position ++ behind) = second at both
    cases both <;> rfl

/-! ## Rules -/

/-- A rule of the grammar, with what it is told. -/
inductive Rule where
  | any
  | moreAny
  | all
  | moreAll
  | not
  | condition
  | quantified
  | list
  | moreItems
  /-- Items in brackets or in parentheses. -/
  | items (bracketed : Bool)
  | primary
  | reference
  | cast
  | choice
  | choiceBody
  | branches
  | name
  | parts
  | capture (depth : Nat) (target : Option String)
  | body
  | subquery
  | existence
  | castType (depth : Nat)

namespace Rule

/-- What a rule reads: a node, unless it reads the parts of one. -/
def Value : Rule → Type
  | .moreAny | .moreAll | .moreItems | .items _ => List Expr
  | .choiceBody => List (Expr × Expr) × Option Expr
  | .branches => List (Expr × Expr)
  | .name => String
  | .parts => List String
  | .capture _ _ => Nat × Option String
  | .body => Option String × String
  | .castType _ => Unit
  | _ => Expr

/-- The number of tokens that a rule takes at least: none only if it reads what may be repeated. -/
def least : Rule → Nat
  | .moreAny | .moreAll | .moreItems | .branches | .parts => 0
  | _ => 1

def read (source : Source) : (rule : Rule) → (tokens : List Token) →
    Reading rule.Value tokens rule.least
  | .any => readAny source
  | .moreAny => readMoreAny source
  | .all => readAll source
  | .moreAll => readMoreAll source
  | .not => readNot source
  | .condition => readCondition source
  | .quantified => readQuantified source
  | .list => readList source
  | .moreItems => readMoreItems source
  | .items Bool.true => readItems source .rightBracket "']' or ','"
  | .items Bool.false => readItems source .rightParen "')' or ','"
  | .primary => readPrimary source
  | .reference => readReference source
  | .cast => readCast source
  | .choice => readChoice source
  | .choiceBody => readChoiceBody source
  | .branches => readBranches source
  | .name => readName source
  | .parts => readParts source
  | .capture depth target => readCapture source depth target
  | .body => readBody source
  | .subquery => readSubquery source
  | .existence => readExistence source
  | .castType depth => readCastType source depth

theorem confined (source : Source) (rule : Rule) {tokens : List Token} (ended : Ended tokens)
    (behind : List Token) :
    Confined source tokens behind (rule.read source tokens)
      (rule.read source (tokens ++ behind)) := by
  cases rule with
  | any => exact confined_readAny source tokens behind ended
  | moreAny => exact confined_readMoreAny source tokens behind ended
  | all => exact confined_readAll source tokens behind ended
  | moreAll => exact confined_readMoreAll source tokens behind ended
  | not => exact confined_readNot source tokens behind ended
  | condition => exact confined_readCondition source tokens behind ended
  | quantified => exact confined_readQuantified source tokens behind ended
  | list => exact confined_readList source tokens behind ended
  | moreItems => exact confined_readMoreItems source tokens behind ended
  | items bracketed =>
      cases bracketed with
      | true => exact confined_readItems source _ _ tokens behind (by simp) ended
      | false => exact confined_readItems source _ _ tokens behind (by simp) ended
  | primary => exact confined_readPrimary source tokens behind ended
  | reference => exact confined_readReference source tokens behind ended
  | cast => exact confined_readCast source tokens behind ended
  | choice => exact confined_readChoice source tokens behind ended
  | choiceBody => exact confined_readChoiceBody source tokens behind ended
  | branches => exact confined_readBranches source tokens behind ended
  | name => exact confined_readName ended
  | parts => exact confined_readParts source tokens behind ended
  | capture depth target => exact confined_readCapture source depth target tokens behind ended
  | body => exact confined_readBody ended
  | subquery => exact confined_readSubquery ended
  | existence => exact confined_readExistence ended
  | castType depth => exact confined_readCastType source depth tokens behind ended

end Rule

/-! ## Loops -/

/-- A loop of the grammar and its state between two turns. -/
inductive Loop where
  | any
  | all
  | items
  | parts
  | branches
  /-- The type of a cast, inside so many parentheses. -/
  | castType (depth : Nat)
  /-- The body of a subquery, inside so many parentheses, and the entity found. -/
  | capture (depth : Nat) (target : Option String)
  /-- The dotted name after `FROM`, and its last part. -/
  | entityName (last : Option String)

namespace Loop

section Turn

variable {α : Type} (token : Token) (tokens rest : List Token)

theorem none_taken : tokens.length + 0 ≤ tokens.length :=
  Nat.le_refl _

theorem one_taken : rest.length + 0 ≤ (token :: rest).length :=
  Nat.le_succ _

theorem two_taken : (rest.drop 1).length + 0 ≤ (token :: rest).length :=
  (List.drop_suffix 1 rest).length_le.trans (Nat.le_succ _)

theorem target_taken : (readTarget none rest).2.val.length + 0 ≤ (token :: rest).length :=
  (readTarget none rest).2.property.trans (Nat.le_succ _)

theorem dropped_taken (read : Read α (tokens.drop 1) 1) :
    read.rest.length + 0 ≤ tokens.length :=
  (Nat.le_of_succ_le read.taken).trans (List.drop_suffix 1 tokens).length_le

def stop (tokens : List Token) : Reading (Option Loop) tokens 0 :=
  .ok ⟨none, tokens, none_taken tokens⟩

/-- One turn of a loop that goes on at a separator: it takes the separator and what follows it. -/
def take (loop : Loop) (separated : Bool) (reader : ∀ tokens, Reading α tokens 1)
    (tokens : List Token) : Reading (Option Loop) tokens 0 :=
  if separated then do
    let read ← reader (tokens.drop 1)
    return ⟨some loop, read.rest, dropped_taken tokens read⟩
  else stop tokens

def readBranch (source : Source) (tokens : List Token) : Reading (Expr × Expr) tokens 1 := do
  let key ← readAny source tokens
  let next ← source.takeKeyword .then key.rest
  let outcome ← readAny source next.rest
  return ⟨(key.value, outcome.value), outcome.rest, by
    have := key.taken; have := next.taken; have := outcome.taken; omega⟩

def castTypeTurn (source : Source) (depth : Nat) (tokens : List Token) :
    Reading (Option Loop) tokens 0 :=
  match tokens with
  | [] => .error (source.failure "')' closing CAST" (source.front []))
  | token :: rest =>
    match token.lexeme with
    | .finish => .error (source.failure "')' closing CAST" token)
    | .leftParen => return ⟨some (.castType (depth + 1)), rest, one_taken token rest⟩
    | .rightParen =>
      match depth with
      | 0 => return ⟨none, rest, one_taken token rest⟩
      | depth + 1 => return ⟨some (.castType depth), rest, one_taken token rest⟩
    | _ => return ⟨some (.castType depth), rest, one_taken token rest⟩

/-- One turn of passing over a subquery. The name after `FROM` is passed over in the same turn. -/
def captureTurn (source : Source) (depth : Nat) (target : Option String) (tokens : List Token) :
    Reading (Option Loop) tokens 0 :=
  match tokens with
  | [] => .error (source.failure "')' closing subquery" (source.front []))
  | token :: rest =>
    match token.lexeme with
    | .finish => .error (source.failure "')' closing subquery" token)
    | .leftParen => return ⟨some (.capture (depth + 1) target), rest, one_taken token rest⟩
    | .rightParen =>
      match depth with
      | 0 => return ⟨none, rest, one_taken token rest⟩
      | depth + 1 => return ⟨some (.capture depth target), rest, one_taken token rest⟩
    | _ =>
      if namesTarget depth target token then
        let named := readTarget none rest
        return ⟨some (.capture depth named.1), named.2.val, target_taken token rest⟩
      else return ⟨some (.capture depth target), rest, one_taken token rest⟩

def entityNameTurn (tokens : List Token) : Reading (Option Loop) tokens 0 :=
  match tokens with
  | [] => stop []
  | token :: rest =>
    match anyName? token with
    | none => stop (token :: rest)
    | some name =>
      if firstLexeme rest = some .dot then
        return ⟨some (.entityName (some name)), rest.drop 1, two_taken token rest⟩
      else return ⟨none, rest, one_taken token rest⟩

end Turn

/-- One turn of a loop: the loop that goes on, if it does, and where. -/
def turn (source : Source) (loop : Loop) (tokens : List Token) : Reading (Option Loop) tokens 0 :=
  match loop with
  | .any => loop.take (source.keyword? tokens = some .or) (readAll source) tokens
  | .all => loop.take (source.keyword? tokens = some .and) (readNot source) tokens
  | .items => loop.take (firstLexeme tokens = some .comma) (readAny source) tokens
  | .parts => loop.take (firstLexeme tokens = some .dot) (readName source) tokens
  | .branches => loop.take (source.keyword? tokens = some .when) (readBranch source) tokens
  | .castType depth => castTypeTurn source depth tokens
  | .capture depth target => captureTurn source depth target tokens
  | .entityName _ => entityNameTurn tokens

/-- What a loop leaves in the end. -/
def run (source : Source) (loop : Loop) (tokens : List Token) : Except ReadError (List Token) :=
  match loop with
  | .any => (readMoreAny source tokens).map (·.rest)
  | .all => (readMoreAll source tokens).map (·.rest)
  | .items => (readMoreItems source tokens).map (·.rest)
  | .parts => (readParts source tokens).map (·.rest)
  | .branches => (readBranches source tokens).map (·.rest)
  | .castType depth => (readCastType source depth tokens).map (·.rest)
  | .capture depth target => (readCapture source depth target tokens).map (·.rest)
  | .entityName last => .ok (readTarget last tokens).2.val

theorem map_rest_bind {α β : Type} {tokens tokens' : List Token} {least least' : Nat}
    {reading : Reading α tokens least} {next : Read α tokens least → Reading β tokens' least'}
    {left : Read α tokens least → Except ReadError (List Token)}
    (each : ∀ read, (next read).map (·.rest) = left read) :
    (reading >>= next).map (·.rest) = reading >>= left := by
  cases reading with
  | error _ => rfl
  | ok read => exact each read

theorem map_rest_bind_pure {α β : Type} {tokens tokens' : List Token} {least least' : Nat}
    {reading : Reading α tokens least} {next : Read α tokens least → Read β tokens' least'}
    (same : ∀ read, (next read).rest = read.rest) :
    (reading >>= fun read => pure (next read)).map (·.rest) = reading.map (·.rest) := by
  cases reading with
  | error _ => rfl
  | ok read => exact congrArg Except.ok (same read)

section Turns

variable {source : Source} {tokens : List Token}

def goOn (source : Source) (read : Read (Option Loop) tokens 0) : Except ReadError (List Token) :=
  match read.value with
  | none => .ok read.rest
  | some next => next.run source read.rest

theorem eq_take {α : Type} {loop : Loop} {separated : Bool}
    {reader : ∀ tokens, Reading α tokens 1} {left : Except ReadError (List Token)}
    (stops : ¬separated → left = .ok tokens)
    (goes : separated → left = reader (tokens.drop 1) >>= fun read => loop.run source read.rest) :
    left = loop.take separated reader tokens >>= goOn source := by
  by_cases found : separated
  · rw [goes found, take, if_pos found]
    cases reader (tokens.drop 1) <;> rfl
  · rw [stops found, take, if_neg found]
    rfl

theorem run_any : Loop.any.run source tokens = Loop.any.turn source tokens >>= goOn source := by
  cases tokens with
  | nil =>
      rw [run, readMoreAny]
      rfl
  | cons token rest =>
      rw [run, readMoreAny]
      apply eq_take
      · intro other
        rw [if_neg (mt decide_eq_true other : ¬token.keyword? = some .or)]
        rfl
      · intro found
        rw [if_pos (of_decide_eq_true found : token.keyword? = some .or)]
        change _ = readAll source rest >>= _
        exact map_rest_bind fun next => map_rest_bind_pure fun _ => rfl

theorem run_all : Loop.all.run source tokens = Loop.all.turn source tokens >>= goOn source := by
  cases tokens with
  | nil =>
      rw [run, readMoreAll]
      rfl
  | cons token rest =>
      rw [run, readMoreAll]
      apply eq_take
      · intro other
        rw [if_neg (mt decide_eq_true other : ¬token.keyword? = some .and)]
        rfl
      · intro found
        rw [if_pos (of_decide_eq_true found : token.keyword? = some .and)]
        change _ = readNot source rest >>= _
        exact map_rest_bind fun next => map_rest_bind_pure fun _ => rfl

theorem run_items :
    Loop.items.run source tokens = Loop.items.turn source tokens >>= goOn source := by
  apply eq_take
  · intro other
    rw [run, readMoreItems_unseparated (mt decide_eq_true other)]
    rfl
  · intro found
    obtain ⟨⟨lexeme, start, stop⟩, rest, rfl, isComma⟩ :=
      exists_of_firstLexeme (of_decide_eq_true found)
    cases isComma
    rw [run, readMoreItems]
    change _ = readAny source rest >>= _
    exact map_rest_bind fun next => map_rest_bind_pure fun _ => rfl

theorem run_parts :
    Loop.parts.run source tokens = Loop.parts.turn source tokens >>= goOn source := by
  apply eq_take
  · intro other
    rw [run, readParts_undotted (mt decide_eq_true other)]
    rfl
  · intro found
    obtain ⟨⟨lexeme, start, stop⟩, rest, rfl, isDot⟩ :=
      exists_of_firstLexeme (of_decide_eq_true found)
    cases isDot
    rw [run, readParts]
    change _ = readName source rest >>= _
    exact map_rest_bind fun part => map_rest_bind_pure fun _ => rfl

theorem run_branches :
    Loop.branches.run source tokens = Loop.branches.turn source tokens >>= goOn source := by
  cases tokens with
  | nil =>
      rw [run, readBranches]
      rfl
  | cons token rest =>
      rw [run, readBranches]
      apply eq_take
      · intro other
        rw [if_neg (mt decide_eq_true other : ¬token.keyword? = some .when)]
        rfl
      · intro found
        rw [if_pos (of_decide_eq_true found : token.keyword? = some .when)]
        change _ = readBranch source rest >>= _
        -- The loop reads the parts of a branch one by one, the turn a branch as a whole.
        rw [readBranch]
        refine (map_rest_bind fun key => ?_).trans (bind_assoc _ _ _).symm
        refine (map_rest_bind fun next => ?_).trans (bind_assoc _ _ _).symm
        refine (map_rest_bind fun outcome => ?_).trans (bind_assoc _ _ _).symm
        exact map_rest_bind_pure fun _ => rfl

theorem run_castType (depth : Nat) : (Loop.castType depth).run source tokens =
    castTypeTurn source depth tokens >>= goOn source := by
  cases tokens with
  | nil =>
      rw [run, readCastType]
      rfl
  | cons token rest =>
      obtain ⟨lexeme, start, stop⟩ := token
      rw [run, readCastType.eq_def, castTypeTurn.eq_def]
      cases lexeme with
      | finish => rfl
      | rightParen =>
          cases depth with
          | zero => rfl
          | succ depth => exact map_rest_bind_pure fun _ => rfl
      | _ => exact map_rest_bind_pure fun _ => rfl

theorem run_capture (depth : Nat) (target : Option String) :
    (Loop.capture depth target).run source tokens =
      captureTurn source depth target tokens >>= goOn source := by
  cases tokens with
  | nil =>
      rw [run, readCapture]
      rfl
  | cons token rest =>
      obtain ⟨lexeme, start, stop⟩ := token
      rw [run, readCapture.eq_def, captureTurn.eq_def]
      cases lexeme with
      | finish => rfl
      | leftParen => exact map_rest_bind_pure fun _ => rfl
      | rightParen =>
          cases depth with
          | zero => rfl
          | succ depth => exact map_rest_bind_pure fun _ => rfl
      | _ =>
          dsimp only
          rw [namesTarget]
          split
          · exact map_rest_bind_pure fun _ => rfl
          · exact map_rest_bind_pure fun _ => rfl

theorem run_entityName (last : Option String) :
    (Loop.entityName last).run source tokens = entityNameTurn tokens >>= goOn source := by
  cases tokens with
  | nil =>
      rw [run, readTarget]
      rfl
  | cons token rest =>
      rw [run, entityNameTurn]
      cases named : anyName? token with
      | none =>
          rw [(readTarget_unnamed named last rest).2]
          rfl
      | some name =>
          dsimp only
          split
          · next dotted =>
            obtain ⟨dot, rest, rfl, isDot⟩ := exists_of_firstLexeme dotted
            rw [(readTarget_dotted named isDot last rest).2]
            rfl
          · next undotted =>
            rw [(readTarget_named named undotted last).2]
            rfl

end Turns

/-- A loop leaves what its next turn leaves, if that is the last, or what the loop leaves that goes
on from there. -/
theorem run_eq_turn (source : Source) (loop : Loop) (tokens : List Token) :
    loop.run source tokens = loop.turn source tokens >>= goOn source := by
  cases loop with
  | any => exact run_any
  | all => exact run_all
  | items => exact run_items
  | parts => exact run_parts
  | branches => exact run_branches
  | castType depth => exact run_castType depth
  | capture depth target => exact run_capture depth target
  | entityName last => exact run_entityName last

section Confinement

variable {source : Source} {tokens behind : List Token}

theorem confined_take {α : Type} {loop : Loop} {separated : Bool}
    {reader : ∀ tokens, Reading α tokens 1} (ended : Ended tokens)
    (onward : separated → Confined source (tokens.drop 1) behind (reader (tokens.drop 1))
      (reader (tokens.drop 1 ++ behind))) :
    Confined source tokens behind (loop.take separated reader tokens)
      (loop.take separated reader (tokens ++ behind)) := by
  unfold take
  split
  · next found =>
    exact (Confined.dropped reader (onward found) ended.ne_nil).bind
      fun _ _ _ _ filled suffix => .gives filled suffix
  · exact .gives ended.ne_nil List.suffix_rfl

theorem confined_readBranch (ended : Ended tokens) :
    Confined source tokens behind (readBranch source tokens)
      (readBranch source (tokens ++ behind)) := by
  apply (confined_readAny source tokens behind ended).bind
  intro key rest _ _ filled suffix
  apply ((confined_takeKeyword (ended.suffix suffix filled)).later suffix).bind
  intro _ rest _ _ filled suffix
  exact ((confined_readAny source rest behind (ended.suffix suffix filled)).later suffix).bind
    fun _ _ _ _ filled suffix => .gives filled suffix

theorem confined_castTypeTurn (depth : Nat) (ended : Ended tokens) :
    Confined source tokens behind (castTypeTurn source depth tokens)
      (castTypeTurn source depth (tokens ++ behind)) := by
  cases tokens with
  | nil => exact absurd rfl ended.ne_nil
  | cons token rest =>
      have tail : rest <:+ token :: rest := List.suffix_cons _ _
      rw [List.cons_append, castTypeTurn.eq_def, castTypeTurn.eq_def source _ (token :: (rest ++ _))]
      dsimp only
      split
      · exact .refuses List.mem_cons_self
      · next opens => exact .gives (ended.tail (by simp [opens])).ne_nil tail
      · next closes =>
        have inner := ended.tail (by simp [closes])
        split
        · exact .gives inner.ne_nil tail
        · exact .gives inner.ne_nil tail
      · next unfinished _ _ => exact .gives (ended.tail unfinished).ne_nil tail

theorem confined_captureTurn (depth : Nat) (target : Option String) (ended : Ended tokens) :
    Confined source tokens behind (captureTurn source depth target tokens)
      (captureTurn source depth target (tokens ++ behind)) := by
  cases tokens with
  | nil => exact absurd rfl ended.ne_nil
  | cons token rest =>
      have tail : rest <:+ token :: rest := List.suffix_cons _ _
      rw [List.cons_append, captureTurn.eq_def, captureTurn.eq_def source _ _ (token :: (rest ++ _))]
      dsimp only
      split
      · exact .refuses List.mem_cons_self
      · next opens => exact .gives (ended.tail (by simp [opens])).ne_nil tail
      · next closes =>
        have inner := ended.tail (by simp [closes])
        split
        · exact .gives inner.ne_nil tail
        · exact .gives inner.ne_nil tail
      · next unfinished _ _ =>
        have inner := ended.tail unfinished
        split
        · obtain ⟨filled, first, second⟩ := readTarget_append none rest behind inner
          have within := (readTarget_suffix none rest).trans tail
          rw [first]
          exact .gives_of_eq filled within second
        · exact .gives inner.ne_nil tail

theorem confined_entityNameTurn (ended : Ended tokens) :
    Confined source tokens behind (entityNameTurn tokens) (entityNameTurn (tokens ++ behind)) := by
  cases tokens with
  | nil => exact absurd rfl ended.ne_nil
  | cons token rest =>
      rw [List.cons_append, entityNameTurn, entityNameTurn]
      split
      · exact .gives ended.ne_nil List.suffix_rfl
      · next name named =>
        have inner := ended.tail (ne_finish_of_anyName? named)
        have tail : rest <:+ token :: rest := List.suffix_cons _ _
        rw [firstLexeme_append inner.ne_nil]
        split
        · next dotted =>
          obtain ⟨dot, rest, rfl, isDot⟩ := exists_of_firstLexeme dotted
          exact .gives (inner.tail (by simp [isDot])).ne_nil ((List.suffix_cons _ _).trans tail)
        · exact .gives inner.ne_nil tail

theorem confined_turn (loop : Loop) (ended : Ended tokens) (behind : List Token) :
    Confined source tokens behind (loop.turn source tokens)
      (loop.turn source (tokens ++ behind)) := by
  have unfinished {keyword : Keyword}
      (found : decide (source.keyword? tokens = some keyword) = Bool.true) :
      Ended (tokens.drop 1) := ended.drop_one (ne_finish_of_keyword (of_decide_eq_true found))
  have separated {lexeme : Lexeme} (marks : lexeme ≠ .finish)
      (found : decide (firstLexeme tokens = some lexeme) = Bool.true) :
      Ended (tokens.drop 1) := by
    obtain ⟨token, rest, rfl, rfl⟩ := exists_of_firstLexeme (of_decide_eq_true found)
    exact ended.tail marks
  cases loop with
  | any =>
      rw [turn, turn, keyword?_append ended.ne_nil]
      exact confined_take ended fun found => confined_readAll source _ behind (unfinished found)
  | all =>
      rw [turn, turn, keyword?_append ended.ne_nil]
      exact confined_take ended fun found => confined_readNot source _ behind (unfinished found)
  | items =>
      rw [turn, turn, firstLexeme_append ended.ne_nil]
      exact confined_take ended fun found =>
        confined_readAny source _ behind (separated (by simp) found)
  | parts =>
      rw [turn, turn, firstLexeme_append ended.ne_nil]
      exact confined_take ended fun found => confined_readName (separated (by simp) found)
  | branches =>
      rw [turn, turn, keyword?_append ended.ne_nil]
      exact confined_take ended fun found => confined_readBranch (unfinished found)
  | castType depth => exact confined_castTypeTurn depth ended
  | capture depth target => exact confined_captureTurn depth target ended
  | entityName last => exact confined_entityNameTurn ended

end Confinement

/-! ## Turns -/

section Progress

variable {source : Source} {loop next last : Loop} {tokens rest left : List Token} {n : Nat}

theorem take_advances {α : Type} {separated : Bool} {reader : ∀ tokens, Reading α tokens 1}
    {read : Read (Option Loop) tokens 0} (turned : loop.take separated reader tokens = .ok read)
    (onward : read.value = some next) : read.rest.length < tokens.length := by
  unfold take at turned
  split at turned
  · obtain ⟨inner, _, got⟩ := except_bind_eq_ok turned
    cases got
    have taken := inner.taken
    rw [List.length_drop] at taken
    exact Nat.lt_of_lt_of_le (Nat.lt_of_succ_le taken) (Nat.sub_le _ _)
  · cases turned
    cases onward

theorem castTypeTurn_advances {depth : Nat} {read : Read (Option Loop) tokens 0}
    (turned : castTypeTurn source depth tokens = .ok read) : read.rest.length < tokens.length := by
  unfold castTypeTurn at turned
  split at turned
  · cases turned
  · have shorter := Nat.lt_succ_self
    split at turned
    · cases turned
    · cases turned
      exact shorter _
    · split at turned
      · cases turned
        exact shorter _
      · cases turned
        exact shorter _
    · cases turned
      exact shorter _

theorem captureTurn_advances {depth : Nat} {target : Option String}
    {read : Read (Option Loop) tokens 0}
    (turned : captureTurn source depth target tokens = .ok read) :
    read.rest.length < tokens.length := by
  unfold captureTurn at turned
  split at turned
  · cases turned
  · have shorter := Nat.lt_succ_self
    split at turned
    · cases turned
    · cases turned
      exact shorter _
    · split at turned
      · cases turned
        exact shorter _
      · cases turned
        exact shorter _
    · split at turned
      · cases turned
        exact Nat.lt_succ_of_le (readTarget none _).2.property
      · cases turned
        exact shorter _

theorem entityNameTurn_advances {read : Read (Option Loop) tokens 0}
    (turned : entityNameTurn tokens = .ok read) (onward : read.value = some next) :
    read.rest.length < tokens.length := by
  unfold entityNameTurn at turned
  split at turned
  · cases turned
    cases onward
  · split at turned
    · cases turned
      cases onward
    · split at turned
      · cases turned
        exact Nat.lt_succ_of_le (List.drop_suffix 1 _).length_le
      · cases turned
        cases onward

theorem turn_advances {read : Read (Option Loop) tokens 0}
    (turned : loop.turn source tokens = .ok read) (onward : read.value = some next) :
    read.rest.length < tokens.length := by
  cases loop with
  | any => exact take_advances turned onward
  | all => exact take_advances turned onward
  | items => exact take_advances turned onward
  | parts => exact take_advances turned onward
  | branches => exact take_advances turned onward
  | castType depth => exact castTypeTurn_advances turned
  | capture depth target => exact captureTurn_advances turned
  | entityName last => exact entityNameTurn_advances turned onward

/-- Turns of a loop, from its state and the tokens before them to those after them. -/
inductive Turns (source : Source) : Nat → Loop → List Token → Loop → List Token → Prop where
  | none {loop : Loop} {tokens : List Token} : Turns source 0 loop tokens loop tokens
  | more {n : Nat} {loop next last : Loop} {tokens left : List Token}
      {read : Read (Option Loop) tokens 0} :
      loop.turn source tokens = .ok read → read.value = some next →
      Turns source n next read.rest last left → Turns source (n + 1) loop tokens last left

/-- Turns take a token each and stop short of the end of the text. -/
theorem Turns.within (turns : Turns source n loop tokens last left) (ended : Ended tokens) :
    n + left.length ≤ tokens.length ∧ left ≠ [] ∧ left <:+ tokens := by
  induction turns with
  | none => exact ⟨(Nat.zero_add _).le, ended.ne_nil, List.suffix_rfl⟩
  | more turned onward _ ih =>
      have shorter := turn_advances turned onward
      obtain ⟨filled, suffix⟩ := (confined_turn _ ended []).leaves turned
      obtain ⟨fewer, more, within⟩ := ih (ended.suffix suffix filled)
      exact ⟨by omega, more, within.trans suffix⟩

theorem exists_last_turn (source : Source) (loop : Loop) (tokens : List Token) :
    ∃ n last left, Turns source n loop tokens last left ∧
      ∀ read, last.turn source left = .ok read → read.value = none := by
  -- A turn may change the loop's state, so only the number of tokens goes down.
  induction length : tokens.length using Nat.strongRecOn generalizing loop tokens with
  | ind size ih =>
      subst length
      by_cases goesOn : ∃ read next, loop.turn source tokens = .ok read ∧ read.value = some next
      · obtain ⟨read, next, turned, onward⟩ := goesOn
        obtain ⟨n, last, left, turns, stops⟩ :=
          ih _ (turn_advances turned onward) next read.rest rfl
        exact ⟨n + 1, last, left, .more turned onward turns, stops⟩
      · refine ⟨0, loop, tokens, .none, fun read turned => ?_⟩
        by_contra other
        obtain ⟨next, onward⟩ := Option.ne_none_iff_exists'.mp other
        exact goesOn ⟨read, next, turned, onward⟩

/-- Whether a loop comes to an end from a position on. -/
structure Ends (source : Source) (loop : Loop) (position : List Token) : Prop where
  stays : Stays source (loop.turn source) position
  /-- A turn takes a token, or it is the last. -/
  advances : ∀ read, loop.turn source position = .ok read →
    read.value = none ∨ read.rest.length < position.length
  /-- The loop leaves what its turns leave. -/
  onward : loop.run source position = loop.turn source position >>= goOn source
  within : ∀ n last left, Turns source n loop position last left →
    n + left.length ≤ position.length ∧ left ≠ [] ∧ left <:+ position
  stops : ∃ n last left, Turns source n loop position last left ∧
    ∀ read, last.turn source left = .ok read → read.value = none

theorem ends (source : Source) (loop : Loop) (ended : Ended tokens) : loop.Ends source tokens where
  stays := Confined.stays (confined_turn loop ended)
  advances read turned := by
    cases next : read.value with
    | none => exact .inl rfl
    | some next => exact .inr (turn_advances turned next)
  onward := run_eq_turn source loop tokens
  within _ _ _ turns := turns.within ended
  stops := exists_last_turn source loop tokens

end Progress

end Loop

/-! ## The whole text -/

theorem refuses_parse {text : String} {tokens : List Token}
    (scanned : Token.scan text = .ok tokens) (entity : String) :
    FailsWith (Source.Refuses ⟨text.toList, entity⟩ tokens) (parse text entity) := by
  rw [parse, scanned]
  exact .ite (fun _ => .ok _) fun _ => refuses_ofTokens (ended_of_scan scanned)

/-- Reading ends, and it stays among the tokens of a text, of which the end of the text is the last.
From every position each rule takes as many of them as it must, and each loop comes to an end. What
is refused in the end is one of them. -/
theorem scan_confines {text : String} {tokens : List Token}
    (scanned : Token.scan text = .ok tokens) :
    Ended tokens ∧
      (∀ (source : Source) (position : List Token), position ≠ [] → position <:+ tokens →
        (∀ rule : Rule, Stays source (rule.read source) position ∧
          ∀ read, rule.read source position = .ok read →
            read.rest.length + rule.least ≤ position.length) ∧
        ∀ loop : Loop, loop.Ends source position) ∧
      ∀ entity : String,
        FailsWith (Source.Refuses ⟨text.toList, entity⟩ tokens) (parse text entity) := by
  have whole := ended_of_scan scanned
  refine ⟨whole, fun source position filled suffix => ?_, refuses_parse scanned⟩
  have ended := whole.suffix suffix filled
  exact ⟨fun rule => ⟨Confined.stays (rule.confined source ended), fun read _ => read.taken⟩,
    fun loop => loop.ends source ended⟩

theorem scan_confines_unclosedCast :
    Token.scan "x IN (1, CAST(b AS" = .ok [⟨.word "x", 0, 1⟩, ⟨.word "IN", 2, 4⟩, ⟨.leftParen, 5, 6⟩,
        ⟨.integer 1, 6, 7⟩, ⟨.comma, 7, 8⟩, ⟨.word "CAST", 9, 13⟩, ⟨.leftParen, 13, 14⟩,
        ⟨.word "b", 14, 15⟩, ⟨.word "AS", 16, 18⟩, ⟨.finish, 18, 18⟩] ∧
      (Loop.castType 0).Ends ⟨"x IN (1, CAST(b AS".toList, "Post"⟩ [⟨.finish, 18, 18⟩] ∧
      parse "x IN (1, CAST(b AS" "Post" = .error (.malformed ⟨18, "')' closing CAST", ""⟩) := by
  have scanned : Token.scan "x IN (1, CAST(b AS" = .ok [⟨.word "x", 0, 1⟩, ⟨.word "IN", 2, 4⟩,
      ⟨.leftParen, 5, 6⟩, ⟨.integer 1, 6, 7⟩, ⟨.comma, 7, 8⟩, ⟨.word "CAST", 9, 13⟩,
      ⟨.leftParen, 13, 14⟩, ⟨.word "b", 14, 15⟩, ⟨.word "AS", 16, 18⟩, ⟨.finish, 18, 18⟩] := by
    with_unfolding_all rfl
  refine ⟨scanned, ?_, by with_unfolding_all rfl⟩
  exact ((scan_confines scanned).2.1 _ [⟨.finish, 18, 18⟩] (List.cons_ne_nil _ _) (by decide)).2 _

end Expr

end RowGuard
