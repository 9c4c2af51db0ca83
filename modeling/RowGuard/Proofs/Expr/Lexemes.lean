import Mathlib.Data.List.Forall2
import RowGuard.Proofs.Expr.Reading
import RowGuard.Proofs.Text.Dotted
import RowGuard.Proofs.Token.Number

/-! Texts that are one token, and dotted names: how they are scanned wherever
they stand. -/

set_option autoImplicit false

namespace RowGuard

namespace Expr

open Token (Walk Steps)

variable {entity : String} {text : List Char}

theorem Parted.ne {behind : List Char} (parted : Parted behind) {d : Char}
    (unlisted : d ∉ [' ', ')', ',', ']']) : ∀ c ∈ behind.head?, c ≠ d := by
  rintro c front rfl
  exact unlisted (parted c front)

theorem scans_text (content : String) :
    Scans entity Parted (Text.quoteLiteral content).toList
      (Lone fun token => token.lexeme = .text content) := by
  intro source start behind _ _ parted
  have steps := Steps.text (Token.unquote_doubleQuotes content.toList (parted.ne (by decide)))
  rw [String.ofList_toList, List.append_cons] at steps
  rw [Text.quoteLiteral, String.toList_ofList]
  exact exists_lone steps source start

/-! ## Numbers -/

theorem Parted.endsNumber {behind : List Char} (parted : Parted behind) :
    ∀ c ∈ behind.head?, Text.isDigit c = Bool.false ∧ c ∉ ['.', 'e', 'E', '+', '-'] := by
  have each : ∀ c ∈ [' ', ')', ',', ']'],
      Text.isDigit c = Bool.false ∧ c ∉ ['.', 'e', 'E', '+', '-'] :=
    List.forall_iff_forall_mem.mp (by decide)
  exact fun c front => each c (parted c front)

theorem scans_number {c : Char} {rest : List Char} {lexeme : Lexeme} (digit : Text.isDigit c)
    (read : Token.number (c :: rest) = .ok (lexeme, [])) :
    Scans entity Parted (c :: rest) (Lone fun token => token.lexeme = lexeme) := by
  intro source start behind _ _ parted
  have appended := Token.number_append parted.endsNumber (c :: rest)
  rw [read] at appended
  have steps : Steps c (rest ++ behind) (some lexeme) behind :=
    .number digit appended
  exact exists_lone steps source start

/-! ## Operators -/

/-- What may stand behind an operator. -/
def EndsOperator (behind : List Char) : Prop :=
  ∀ c ∈ behind.head?, Token.isOperatorChar c = Bool.false

theorem Parted.endsOperator {behind : List Char} (parted : Parted behind) :
    EndsOperator behind := by
  have each : ∀ c ∈ [' ', ')', ',', ']'], Token.isOperatorChar c = Bool.false :=
    List.forall_iff_forall_mem.mp (by decide)
  exact fun c front => each c (parted c front)

/-- Whether a text is an operator and no comment begins with it. -/
def isSymbol (symbol : String) : Bool :=
  match symbol.toList with
  | [] => Bool.false
  | c :: rest => Token.isOperatorChar c && !(['-', '-'].isPrefixOf (c :: rest)) &&
    !(['/', '*'].isPrefixOf (c :: rest)) && Token.operatorAt c rest == symbol

theorem scans_symbol {symbol : String} (isSymbol : isSymbol symbol) :
    Scans entity EndsOperator symbol.toList
      (Lone fun token => token.lexeme = .operator symbol) := by
  intro source start behind _ _ ended
  unfold Expr.isSymbol at isSymbol
  split at isSymbol
  · cases isSymbol
  · rename_i c rest whole
    simp only [Bool.and_eq_true, Bool.not_eq_true', beq_iff_eq] at isSymbol
    obtain ⟨⟨⟨operates, notLine⟩, notBlock⟩, found⟩ := isSymbol
    have same : Token.operatorAt c (rest ++ behind) = symbol :=
      (Token.operatorAt_append ended c rest).trans found
    have steps : Steps c (rest ++ behind) _ _ := .operator operates
      (by rw [← List.cons_append, Token.isPrefixOf_append_of_operator ended (by decide), notLine])
      (by rw [← List.cons_append, Token.isPrefixOf_append_of_operator ended (by decide), notBlock])
    rw [same, ← String.length_toList, whole, ← List.cons_append, List.drop_left] at steps
    rw [whole]
    exact exists_lone steps source start

theorem scans_negative {c : Char} {rest : List Char} {lexeme : Lexeme} (digit : Text.isDigit c)
    (read : Token.number (c :: rest) = .ok (lexeme, [])) :
    Scans entity Parted ('-' :: c :: rest) fun _ tokens =>
      ∃ minus token, tokens = [minus, token] ∧ minus.lexeme = .operator "-" ∧
        token.lexeme = lexeme := by
  have minus : Scans entity EndsOperator ['-'] (Lone fun token => token.lexeme = .operator "-") :=
    scans_symbol (by decide : isSymbol "-")
  refine minus.append (scans_number digit read) (fun behind _ => ?_) ?_
  · rintro _ ⟨⟩
    rw [Bool.eq_false_iff]
    intro operates
    have other := (Token.plain_of_isOperatorChar operates).2.1
    rw [digit] at other
    cases other
  · rintro _ _ _ _ ⟨minus, rfl, negates⟩ ⟨token, rfl, number⟩
    exact ⟨minus, token, rfl, negates, number⟩

/-! ## Names -/

/-- Whether a text is a name without quotes. -/
def isName (name : String) : Bool :=
  isWord name.toList && (Keyword.ofWord? name).isNone

def Dotted (more : List String) (_ : Source) (tokens : List Token) : Prop :=
  Parts more tokens

def Named (first : String) (more : List String) (_ : Source) (tokens : List Token) : Prop :=
  ∃ token inside, tokens = token :: inside ∧ name? token = some first ∧ Parts more inside

theorem scans_name {name : String} (named : isName name) :
    Scans entity EndsWord name.toList (Lone fun token => name? token = some name) := by
  rw [isName, Bool.and_eq_true, Option.isNone_iff_eq_none] at named
  refine (scans_word named.1).mono (fun _ ended => ended) ?_
  rintro _ _ _ ⟨token, rfl, word⟩
  rw [String.ofList_toList] at word
  refine ⟨token, rfl, ?_⟩
  unfold name?
  simp [word, named.2]

theorem scans_dotted {first : String} {more : List String} (named : isName first)
    (each : ∀ name ∈ more, isName name) :
    Scans entity EndsWord (Text.joinWith "." (first :: more)).toList (Named first more) := by
  have dot : Scans entity Whatever ['.'] (Lone fun token => token.lexeme = .dot) := Scans.mark rfl
  have further : Scans entity EndsWord ((more.map String.toList).flatMap (['.'] ++ ·))
      (Dotted more) := by
    have texts : List.Forall₂ (fun text name => Scans entity EndsWord text
        (Lone fun token => name? token = some name)) (more.map String.toList) more :=
      List.forall₂_map_left_iff.mpr
        (List.forall₂_same.mpr fun name member => scans_name (each name member))
    refine Scans.many dot (fun _ => ?_) (fun _ => Parts.nil) ?_ texts
    · rintro _ ⟨⟩
      decide
    · rintro _ name names _ _ back ⟨dot, rfl, lexeme⟩ ⟨token, rfl, named⟩ parts
      exact .cons lexeme named parts
  rw [Text.toList_joinWith]
  refine (scans_name named).append further (fun _ ended => ?_) ?_
  · refine Scans.flatMap_ends (fun _ => ?_) _ ended
    rintro _ ⟨⟩
    decide
  · rintro _ _ inside _ ⟨token, rfl, named⟩ parts
    exact ⟨token, inside, rfl, named, parts⟩

end Expr

end RowGuard
