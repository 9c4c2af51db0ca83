import RowGuard.Proofs.Expr.Embedding
import RowGuard.Proofs.Expr.Phrases

/-! Subqueries that are captured again from the text they were kept as. -/

set_option autoImplicit false

namespace RowGuard

namespace Expr

open Token (Walk)

variable {entity : String} {target : Option String} {body : String} {tokens : List Token}

/-- A text is captured as it stands: its tokens take up all of it, blanks at its ends apart, and
they name a target. -/
structure Recaptures (target : Option String) (body : String) (tokens : List Token) : Prop where
  walk : Walk 0 (body.toList ++ [')']) [')'] tokens
  begins : ∀ token ∈ tokens.head?, token.start = 0
  filled : tokens ≠ []
  trimmed : Text.trim body.toList = body.toList
  captured : ∀ (source : Source) (inside : List Token) (closing : Token) (rest : List Token),
    lexemes inside = lexemes tokens → closing.lexeme = .rightParen →
    Gives (readCapture source 0 none (inside ++ closing :: rest)) (closing.start, target) rest

/-- The property of being captured up to the parenthesis that closes it. -/
def YieldsCapture (target : Option String) (body : String) (first : Option Keyword)
    (source : Source) (tokens : List Token) : Prop :=
  ∀ rest, firstKeyword (tokens ++ rest) = first ∧
    Gives (readBody source (tokens ++ rest)) (target, body) rest

theorem Recaptures.scans (recaptures : Recaptures target body tokens) :
    Scans entity Whatever (body.toList ++ [')'])
      (YieldsCapture target body (firstKeyword tokens)) := by
  intro source start behind _ placed _
  have walk : Walk start (body.toList ++ ')' :: behind) (')' :: behind)
      (tokens.map (Token.shift start)) :=
    (recaptures.walk.retail ⟨⟨[], by simp, rfl⟩, by simp⟩).shift start
  rw [List.append_assoc, List.singleton_append] at placed ⊢
  refine ⟨_, walk.append (Walk.here.mark rfl), fun rest => ?_⟩
  obtain ⟨token, inside, rfl⟩ := List.exists_cons_of_ne_nil recaptures.filled
  have begins : token.start = 0 := recaptures.begins token rfl
  have slice : source.slice (start + token.start) (start + body.toList.length) = body.toList := by
    rw [begins, Nat.add_zero, Source.slice, placed, Nat.add_sub_cancel_left, List.take_left]
  refine ⟨rfl, gives_readBody_iff.mpr ⟨start + body.toList.length, ?_, ?_⟩⟩
  · rw [List.append_assoc, List.singleton_append]
    exact recaptures.captured source _ ⟨_, _, _⟩ rest (lexemes_map_shift _) rfl
  · change body = String.ofList (Text.trim (source.slice (start + token.start) _))
    rw [slice, recaptures.trimmed, String.ofList_toList]

theorem reads_subquery (recaptures : Recaptures target body tokens)
    (selects : firstKeyword tokens = some .select) :
    Reads entity ('(' :: (body.toList ++ [')'])) 5 (.subquery target body) := by
  refine (recaptures.scans.mono (fun _ _ => trivial) fun _ _ _ yields => yields).marked rfl ?_
  intro source token tokens _ lexeme yields rest _
  obtain ⟨first, captured⟩ := yields rest
  exact .subquery lexeme (first.trans selects) captured

theorem scans_listedSubquery (recaptures : Recaptures target body tokens)
    (selects : firstKeyword tokens = some .select) :
    Scans entity Whatever ('(' :: (body.toList ++ [')'])) fun source tokens =>
      ∀ rest, Derives source (.list (.subquery target body)) (tokens ++ rest) rest := by
  refine recaptures.scans.marked rfl ?_
  intro source token tokens _ lexeme yields rest
  obtain ⟨first, captured⟩ := yields rest
  exact .listedSubquery lexeme (first.trans selects) captured

theorem reads_existence (recaptures : Recaptures target body tokens) (filled : body ≠ "") :
    Reads entity (Keyword.exists.text.toList ++ ' ' :: ('(' :: (body.toList ++ [')']))) 5
      (.existence target body) := by
  have opened : Scans entity Parted ('(' :: (body.toList ++ [')'])) fun source tokens =>
      ∃ opening inside, tokens = opening :: inside ∧ opening.lexeme = .leftParen ∧
        YieldsCapture target body _ source inside :=
    (recaptures.scans.marked rfl fun _ opening inside _ lexeme yields =>
      ⟨opening, inside, rfl, lexeme, yields⟩).mono (fun _ _ => trivial) fun _ _ _ yields => yields
  refine (scans_keyword .exists).spaced opened ?_
  rintro source _ _ _ ⟨token, rfl, word⟩ ⟨opening, inside, rfl, opens, yields⟩ rest _
  exact .existence word opens (yields rest).2 filled

end Expr

end RowGuard
