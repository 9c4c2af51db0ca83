import Mathlib.Data.List.TakeWhile
import RowGuard.Proofs.Expr.Completeness
import RowGuard.Proofs.Expr.Lifting
import RowGuard.Proofs.Token.Walk

/-! Texts that are read the same wherever they stand, and how they are put
together: a text made of such texts is read to the expression made of theirs. -/

set_option autoImplicit false

namespace RowGuard

namespace Expr

open Token (Walk)

variable {entity : String} {text text' : List Char} {ends ends' : List Char → Prop}
  {holds holds' both : Source → List Token → Prop} {e : Expr} {level : Nat}

/-! ## Texts wherever they stand -/

/-- What may stand behind a word or a number: it does not go on with it. -/
def Parted (behind : List Char) : Prop :=
  ∀ c ∈ behind.head?, c ∈ [' ', ')', ',', ']']

def Whatever (_ : List Char) : Prop :=
  True

/-- Wherever a text stands in a source about an entity, its tokens have a property. -/
def Scans (entity : String) (ends : List Char → Prop) (text : List Char)
    (holds : Source → List Token → Prop) : Prop :=
  ∀ (source : Source) (start : Nat) (behind : List Char), source.entity = entity →
    source.text.drop start = text ++ behind → ends behind →
    ∃ tokens, Walk start (text ++ behind) behind tokens ∧ holds source tokens

def Lone (test : Token → Prop) (_ : Source) (tokens : List Token) : Prop :=
  ∃ token, tokens = [token] ∧ test token

/-- The property of being read to a form, whatever follows that does not go on with it. -/
def Yields (form : Form) (level : Nat) (source : Source) (tokens : List Token) : Prop :=
  ∀ rest, Follows level rest → Derives source form (tokens ++ rest) rest

/-- A text is read to an expression of some precedence wherever it stands. -/
def Reads (entity : String) (text : List Char) (level : Nat) (e : Expr) : Prop :=
  Scans entity Parted text (Yields (.level level e) level)

theorem parted_cons {c : Char} (listed : c ∈ [' ', ')', ',', ']']) (behind : List Char) :
    Parted (c :: behind) := by
  rintro _ ⟨⟩
  exact listed

namespace Scans

theorem nil (empty : ∀ source, holds source []) : Scans entity ends [] holds :=
  fun source _ _ _ _ _ => ⟨[], .here, empty source⟩

theorem nothing : Scans entity ends [] fun _ tokens => tokens = [] :=
  nil fun _ => rfl

theorem mono (scans : Scans entity ends text holds) (narrows : ∀ behind, ends' behind → ends behind)
    (weakens : ∀ source tokens, source.entity = entity → holds source tokens →
      holds' source tokens) :
    Scans entity ends' text holds' := by
  intro source start behind about placed ended
  obtain ⟨tokens, walk, found⟩ := scans source start behind about placed (narrows behind ended)
  exact ⟨tokens, walk, weakens source tokens about found⟩

theorem append (first : Scans entity ends text holds) (second : Scans entity ends' text' holds')
    (parts : ∀ behind, ends' behind → ends (text' ++ behind))
    (joins : ∀ source front back, source.entity = entity → holds source front →
      holds' source back → both source (front ++ back)) :
    Scans entity ends' (text ++ text') both := by
  intro source start behind about placed ended
  rw [List.append_assoc] at placed ⊢
  obtain ⟨front, walk, found⟩ := first source start _ about placed (parts behind ended)
  have placed' : source.text.drop (start + text.length) = text' ++ behind := by
    rw [← List.drop_drop, placed, List.drop_left]
  obtain ⟨back, walk', found'⟩ := second source _ behind about placed' ended
  exact ⟨front ++ back, walk.append walk', joins source front back about found found'⟩

theorem blank (scans : Scans entity ends text holds) : Scans entity ends (' ' :: text) holds := by
  intro source start behind about placed ended
  have placed' : source.text.drop (start + 1) = text ++ behind := by
    rw [← List.drop_drop, placed]
    rfl
  obtain ⟨tokens, walk, found⟩ := scans source (start + 1) behind about placed' ended
  refine ⟨tokens, .passed (.blank (by decide)) ?_, found⟩
  simpa using walk

theorem spaced (first : Scans entity Parted text holds)
    (second : Scans entity ends' text' holds')
    (joins : ∀ source front back, source.entity = entity → holds source front →
      holds' source back → both source (front ++ back)) :
    Scans entity ends' (text ++ ' ' :: text') both :=
  first.append second.blank (fun _ _ => parted_cons (by decide) _) joins

theorem marked {c : Char} {lexeme : Lexeme} (found : Token.punctuation? c = some lexeme)
    (scans : Scans entity ends text holds)
    (joins : ∀ source token tokens, source.entity = entity → token.lexeme = lexeme →
      holds source tokens → both source (token :: tokens)) :
    Scans entity ends (c :: text) both := by
  intro source start behind about placed ended
  have placed' : source.text.drop (start + 1) = text ++ behind := by
    rw [← List.drop_drop, placed]
    rfl
  obtain ⟨tokens, walk, held⟩ := scans source (start + 1) behind about placed' ended
  exact ⟨_, walk.mark found, joins source _ tokens about rfl held⟩

theorem mark {c : Char} {lexeme : Lexeme} (found : Token.punctuation? c = some lexeme) :
    Scans entity ends [c] (Lone fun token => token.lexeme = lexeme) := by
  refine nothing.marked found ?_
  rintro _ token _ _ lexeme rfl
  exact ⟨token, rfl, lexeme⟩

theorem closed {c : Char} {lexeme : Lexeme} (found : Token.punctuation? c = some lexeme)
    (listed : c ∈ [' ', ')', ',', ']']) (scans : Scans entity Parted text holds)
    (joins : ∀ source token tokens, source.entity = entity → token.lexeme = lexeme →
      holds source tokens → both source (tokens ++ [token])) :
    Scans entity Whatever (text ++ [c]) both := by
  refine scans.append (mark found) (fun _ _ => parted_cons listed _) ?_
  rintro source front _ about held ⟨token, rfl, lexeme⟩
  exact joins source token front about lexeme held

theorem flatMap_ends {separator : List Char} (parts : ∀ behind, ends (separator ++ behind))
    (texts : List (List Char)) {behind : List Char} (ended : ends behind) :
    ends (texts.flatMap (separator ++ ·) ++ behind) := by
  cases texts with
  | nil => exact ended
  | cons text texts =>
      rw [List.flatMap_cons, List.append_assoc, List.append_assoc]
      exact parts _

theorem many {α : Type} {separator : List Char} {lead : Source → List Token → Prop}
    {each : α → Source → List Token → Prop} {more : List α → Source → List Token → Prop}
    (separates : Scans entity Whatever separator lead)
    (parts : ∀ behind, ends (separator ++ behind)) (none : ∀ source, more [] source [])
    (one : ∀ source item items front middle back, lead source front → each item source middle →
      more items source back → more (item :: items) source (front ++ (middle ++ back)))
    {texts : List (List Char)} {items : List α}
    (read : List.Forall₂ (fun text item => Scans entity ends text (each item)) texts items) :
    Scans entity ends (texts.flatMap (separator ++ ·)) (more items) := by
  induction read with
  | nil => exact nil none
  | @cons text item texts items first _ ih =>
      rw [List.flatMap_cons, List.append_assoc]
      have tail : Scans entity ends (text ++ texts.flatMap (separator ++ ·))
          fun source tokens => ∃ middle back, tokens = middle ++ back ∧
            each item source middle ∧ more items source back :=
        first.append ih (fun _ ended => flatMap_ends parts texts ended)
          fun _ middle back _ held rest => ⟨middle, back, rfl, held, rest⟩
      refine separates.append tail (fun _ _ => trivial) ?_
      rintro source front _ _ leads ⟨middle, back, rfl, held, rest⟩
      exact one source item items front middle back leads held rest

end Scans

/-! ## Words -/

def EndsWord (behind : List Char) : Prop :=
  ∀ c ∈ behind.head?, Token.continuesName c = Bool.false

def isWord : List Char → Bool
  | [] => Bool.false
  | c :: rest => Token.beginsName c && rest.all Token.continuesName

theorem Parted.endsWord {behind : List Char} (parted : Parted behind) : EndsWord behind := by
  have each : ∀ c ∈ [' ', ')', ',', ']'], Token.continuesName c = Bool.false :=
    List.forall_iff_forall_mem.mp (by decide)
  exact fun c front => each c (parted c front)

theorem exists_lone {c : Char} {rest behind : List Char} {lexeme : Lexeme}
    (steps : Token.Steps c (rest ++ behind) (some lexeme) behind) (source : Source) (start : Nat) :
    ∃ tokens, Walk start (c :: rest ++ behind) behind tokens ∧
      Lone (fun token => token.lexeme = lexeme) source tokens :=
  ⟨_, .found steps .here, _, rfl, rfl⟩

theorem scans_word (word : isWord text) :
    Scans entity EndsWord text (Lone fun token => token.lexeme = .word (String.ofList text)) := by
  intro source start behind _ _ ended
  cases text with
  | nil => cases word
  | cons c rest =>
      rw [isWord, Bool.and_eq_true, List.all_eq_true] at word
      have steps : Token.Steps c (rest ++ behind) _ _ := .word word.1
      have taken := Token.takeWhile_append_of_stops ended []
      have left := Token.dropWhile_append_of_stops ended []
      rw [List.nil_append] at taken left
      rw [List.takeWhile_append_of_pos word.2, List.dropWhile_append_of_pos word.2, taken, left,
        List.takeWhile_nil, List.append_nil] at steps
      exact exists_lone steps source start

theorem scans_keyword (keyword : Keyword) :
    Scans entity Parted keyword.text.toList
      (Lone fun token => token.keyword? = some keyword) := by
  have word : isWord keyword.text.toList := by cases keyword <;> decide
  have read : Keyword.ofWord? (String.ofList keyword.text.toList) = some keyword := by
    cases keyword <;> decide
  refine (scans_word word).mono (fun _ parted => parted.endsWord) ?_
  rintro _ _ _ ⟨token, rfl, lexeme⟩
  exact ⟨token, rfl, (keyword?_of_word lexeme).trans read⟩

/-! ## What follows an expression -/

theorem follows_of_lexeme {token : Token} {lexeme : Lexeme} (found : token.lexeme = lexeme)
    (listed : lexeme ∈ [Lexeme.rightParen, .rightBracket, .comma, .finish]) (level : Nat)
    (rest : List Token) : Follows level (token :: rest) := by
  have unworded : token.keyword? = none := by
    refine keyword?_eq_none_of_lexeme found fun text => ?_
    rintro rfl
    simp at listed
  have shown : ∀ other, other ∉ [Lexeme.rightParen, .rightBracket, .comma, .finish] →
      token.lexeme ≠ other := by
    rintro other unlisted rfl
    exact unlisted (found ▸ listed)
  refine ⟨fun dot => ?_, fun paren => ?_, fun _ next front => ?_, fun _ => ?_, fun _ => ?_⟩
  · exact shown .dot (by decide) (Option.some.inj dot)
  · exact shown .leftParen (by decide) (Option.some.inj paren)
  · cases front
    exact ⟨fun symbol => shown _ (by simp), fun keyword _ => by rw [unworded]; nofun⟩
  · rw [firstKeyword_cons, unworded]
    nofun
  · rw [firstKeyword_cons, unworded]
    nofun

theorem follows_of_keyword {token : Token} {keyword : Keyword}
    (word : token.keyword? = some keyword)
    (unlisted : keyword ∉ [Keyword.not, .in, .like, .ilike, .is])
    (all : keyword = .and → 2 < level) (any : keyword = .or → 1 < level) (rest : List Token) :
    Follows level (token :: rest) := by
  obtain ⟨text, lexeme, _⟩ := exists_word_of_keyword word
  refine ⟨?_, ?_, fun _ next front => ?_, fun loose found => ?_, fun loose found => ?_⟩
  · rw [firstLexeme_cons, lexeme]
    nofun
  · rw [firstLexeme_cons, lexeme]
    nofun
  · cases front
    refine ⟨fun symbol => by rw [lexeme]; nofun, fun other listed found => ?_⟩
    cases word.symm.trans found
    exact unlisted listed
  · cases word.symm.trans found
    exact absurd (all rfl) (Nat.not_lt.mpr loose)
  · cases word.symm.trans found
    exact absurd (any rfl) (Nat.not_lt.mpr loose)

/-- An expression that stands by itself goes on only with a dot or a call. -/
theorem follows_primary {token : Token} (undotted : token.lexeme ≠ .dot)
    (uncalled : token.lexeme ≠ .leftParen) (rest : List Token) : Follows 5 (token :: rest) where
  undotted := fun dot => undotted (Option.some.inj dot)
  uncalled := fun paren => uncalled (Option.some.inj paren)
  condition := nofun
  all := nofun
  any := nofun

/-! ## Connectives -/

theorem Reads.of_eq (reads : Reads entity text level e) (same : text' = text) :
    Reads entity text' level e :=
  same ▸ reads

theorem Reads.lift {tighter : Nat} (reads : Reads entity text tighter e)
    (within : level ≤ tighter) : Reads entity text level e :=
  reads.mono (fun _ parted => parted) fun _ _ _ yields rest follows =>
    (yields rest (follows.mono within)).lift within follows

def YieldsClosed (e : Expr) (source : Source) (tokens : List Token) : Prop :=
  ∀ rest, ∃ closing, closing.lexeme = Lexeme.rightParen ∧
    Derives source (.any e) (tokens ++ rest) (closing :: rest)

theorem Reads.closed (reads : Reads entity text 1 e) :
    Scans entity Whatever (text ++ [')']) (YieldsClosed e) := by
  refine Scans.closed rfl (by decide) reads ?_
  intro source token tokens _ lexeme yields rest
  refine ⟨token, lexeme, ?_⟩
  rw [List.append_assoc]
  exact yields (token :: rest) (follows_of_lexeme lexeme (by decide) 1 rest)

theorem reads_of_closed (closed : Scans entity Whatever text (YieldsClosed e)) :
    Reads entity ('(' :: text) 5 e := by
  refine (closed.mono (fun _ _ => trivial) fun _ _ _ derives => derives).marked rfl ?_
  intro source token tokens _ lexeme derives rest _
  obtain ⟨closing, closes, derived⟩ := derives rest
  exact .parenthesised lexeme (derived.any_firstKeyword (by decide)) derived closes

theorem Reads.parenthesised (reads : Reads entity text 1 e) :
    Reads entity ('(' :: (text ++ [')'])) 5 e :=
  reads_of_closed reads.closed

theorem Reads.not (reads : Reads entity text 3 e) :
    Reads entity (Keyword.not.text.toList ++ ' ' :: text) 3 (.not e) := by
  refine (scans_keyword .not).spaced reads ?_
  rintro source _ tokens _ ⟨token, rfl, word⟩ yields rest follows
  exact .not word (yields rest follows)

section Connectives

variable {texts : List (List Char)} {operands : List Expr}

theorem scans_separator (keyword : Keyword) :
    Scans entity Whatever (' ' :: (keyword.text.toList ++ [' ']))
      (Lone fun token => token.keyword? = some keyword) := by
  refine ((scans_keyword keyword).spaced Scans.nothing ?_).blank
  rintro _ _ _ _ ⟨token, rfl, word⟩ rfl
  exact ⟨token, rfl, word⟩

def furtherTexts (keyword : Keyword) (texts : List (List Char)) : List Char :=
  texts.flatMap (' ' :: (keyword.text.toList ++ [' ']) ++ ·)

def YieldsMore (form : List Expr → Form) (level : Nat) (operands : List Expr) (source : Source)
    (tokens : List Token) : Prop :=
  ∀ rest, Follows level rest → Follows (level + 1) (tokens ++ rest) ∧
    Derives source (form operands) (tokens ++ rest) rest

theorem furtherTexts_parted (keyword : Keyword) (texts : List (List Char)) {behind : List Char}
    (parted : Parted behind) : Parted (furtherTexts keyword texts ++ behind) :=
  Scans.flatMap_ends (fun _ => parted_cons (by decide) _) texts parted

theorem scans_operands {keyword : Keyword} {form : List Expr → Form}
    (follows : ∀ token rest, token.keyword? = some keyword → Follows (level + 1) (token :: rest))
    (nothing : ∀ source rest, Follows level rest → Derives source (form []) rest rest)
    (next : ∀ source token e operands tokens middle rest, token.keyword? = some keyword →
      Derives source (.level (level + 1) e) tokens middle →
      Derives source (form operands) middle rest →
      Derives source (form (e :: operands)) (token :: tokens) rest)
    (more : List.Forall₂ (Reads entity · (level + 1) ·) texts operands) :
    Scans entity Parted (furtherTexts keyword texts) (YieldsMore form level operands) := by
  refine Scans.many (scans_separator keyword)
    (fun _ => parted_cons (by decide) _) ?_ ?_ more
  · intro source rest ended
    exact ⟨ended.mono (Nat.le_succ _), nothing source rest ended⟩
  · rintro source e operands _ middle back ⟨token, rfl, word⟩ yields others rest ended
    obtain ⟨followed, derived⟩ := others rest ended
    refine ⟨follows token _ word, ?_⟩
    rw [List.singleton_append, List.cons_append, List.append_assoc]
    exact next source token e operands _ _ rest word (yields (back ++ rest) followed) derived

theorem Reads.any (first : Reads entity text 2 e)
    (more : List.Forall₂ (Reads entity · 2 ·) texts operands) (several : operands ≠ []) :
    Reads entity (text ++ furtherTexts .or texts) 1 (.any (e :: operands)) := by
  have further : Scans entity Parted (furtherTexts .or texts) (YieldsMore .moreAny 1 operands) :=
    scans_operands
      (fun _ rest word => follows_of_keyword word (by decide) nofun (fun _ => by decide) rest)
      (fun _ _ ended => .noMoreAny (ended.any (by decide)))
      (fun _ _ _ _ _ _ _ word next rest => .moreAny word next rest) more
  refine first.append further (fun _ parted => furtherTexts_parted .or texts parted) ?_
  intro source front back _ yields others rest follows
  obtain ⟨followed, derived⟩ := others rest follows
  have whole := Derives.any (yields (back ++ rest) followed) derived
  rw [joined, if_neg (by simpa using several)] at whole
  rwa [List.append_assoc]

theorem Reads.all (first : Reads entity text 3 e)
    (more : List.Forall₂ (Reads entity · 3 ·) texts operands) (several : operands ≠ []) :
    Reads entity (text ++ furtherTexts .and texts) 2 (.all (e :: operands)) := by
  have further : Scans entity Parted (furtherTexts .and texts) (YieldsMore .moreAll 2 operands) :=
    scans_operands
      (fun _ rest word => follows_of_keyword word (by decide) (fun _ => by decide) nofun rest)
      (fun _ _ ended => .noMoreAll (ended.all (by decide)))
      (fun _ _ _ _ _ _ _ word next rest => .moreAll word next rest) more
  refine first.append further (fun _ parted => furtherTexts_parted .and texts parted) ?_
  intro source front back _ yields others rest follows
  obtain ⟨followed, derived⟩ := others rest follows
  have whole := Derives.all (yields (back ++ rest) followed) derived
  rw [joined, if_neg (by simpa using several)] at whole
  rwa [List.append_assoc]

end Connectives

/-! ## The whole text -/

theorem trim_isEmpty_iff {cs : List Char} : (Text.trim cs).isEmpty ↔ ∀ c ∈ cs, Text.isBlank c := by
  rw [Text.trim, List.isEmpty_reverse, List.isEmpty_iff, List.dropWhile_eq_nil_iff]
  constructor
  · intro blank c member
    rw [← List.takeWhile_append_dropWhile (p := Text.isBlank) (l := cs)] at member
    rcases List.mem_append.mp member with member | member
    · exact List.all_eq_true.mp List.all_takeWhile c member
    · exact blank c (List.mem_reverse.mpr member)
  · intro blank c member
    exact blank c ((List.dropWhile_suffix _).subset (List.mem_reverse.mp member))

/-- A text that is read wherever it stands is read by itself. -/
theorem Reads.parse {text : String} (reads : Reads entity text.toList 1 e) :
    parse text entity = .ok e := by
  obtain ⟨tokens, walk, yields⟩ := reads ⟨text.toList, entity⟩ 0 [] rfl (by simp) nofun
  rw [List.append_nil] at walk
  have ends : (Token.finishAt text.length).lexeme = .finish := rfl
  have derived := yields [Token.finishAt text.length] (follows_of_lexeme ends (by decide) 1 [])
  have filled : (Text.trim text.toList).isEmpty = Bool.false := by
    rw [Bool.eq_false_iff, ne_eq, trim_isEmpty_iff]
    intro blank
    have nothing := Walk.of_blanks blank [] 0
    rw [List.append_nil] at nothing
    obtain rfl := walk.unique nothing
    exact derived.any_firstLexeme (by decide) (congrArg some ends)
  exact (parse_eq_ok_iff filled).mpr
    ⟨_, _, Token.scan_eq_ok_iff.mpr ⟨tokens, walk, rfl⟩, derived, rfl⟩

end Expr

end RowGuard
