/-
This file shows that a tree keeps all tokens of its text in their order. Read from left to right, its leaves
are the tokens but for comments, parentheses and braces.
-/

import Reckon.Proofs.Expression.Parsed
import Reckon.Proofs.Expression.RoundTrip
import Reckon.Proofs.Token.Promise

namespace Reckon

open Text Lexeme Grammar Reckon.Symbol

/-- This is the only character that a token of the kind is written with. -/
def Kind.symbol? : Kind → Option Char
  | colon => some ':'
  | equal => some '='
  | leftParen => some '('
  | rightParen => some ')'
  | leftBracket => some '['
  | rightBracket => some ']'
  | leftBrace => some '\x7b'
  | rightBrace => some '\x7d'
  | atSign => some '@'
  | dollar => some '$'
  | dot => some '.'
  | comma => some ','
  | bar => some '|'
  | less => some '<'
  | greater => some '>'
  | plus => some '+'
  | dash => some '-'
  | star => some '*'
  | slash => some '/'
  | percent => some '%'
  | _ => none

/-- A tree does not show comments, parentheses and braces. -/
def Kind.isSilent : Kind → Bool
  | comment | leftParen | rightParen | leftBrace | rightBrace => true
  | _ => false

/-- A leaf is the value of a number, or a word with its kind. -/
inductive Leaf where
  | number (value : Literal)
  | word (kind : Kind) (name : String)

/-- This is the value of a number token. -/
def Token.number? (token : Token) : Option Literal :=
  match token.kind with
  | .integer =>
      match integerValue token.lexeme with
      | .ok (.ok value) => some (.int value)
      | _ => none
  | .float =>
      match floatValue token.lexeme with
      | .ok value => some (.float value)
      | .error _ => none
  | _ => none

/-- Only the value of a number matters, and not how it is spelled. -/
def Token.leaf (token : Token) : Leaf :=
  match token.number? with
  | some value => .number value
  | none => .word token.kind token.name

/-- These are the leaves that a tree shows of the tokens. -/
def Leaf.ofTokens (tokens : List Token) : List Leaf :=
  (tokens.filter fun token => !token.kind.isSilent).map Token.leaf

def Operator.kind : Operator → Kind
  | add => .plus
  | sub => .dash
  | mul => .star
  | div => .slash
  | mod => .percent
  | other code => .other code

def Operator.leaf (operator : Operator) : Leaf := .word operator.kind operator.text

/-- The unit value is written with parentheses alone, so it has no leaves. -/
def Literal.leaves : Literal → Except Fault (List Leaf)
  | int value => .ok [.number (.int value)]
  | float value => .ok [.number (.float value)]
  | unit => .ok []
  | other shown => .error (.invalidLiteral shown)

/-- This is the interpretation of expressions as their leaves from left to right. -/
def Leaf.interpretation : Interpretation (List Leaf) where
  literal := Literal.leaves
  ident name := [.word .identifier name]
  unary operator operand := operator.leaf :: operand
  binary operator left right := left ++ operator.leaf :: right
  function param body := .word .identifier param :: .word .colon ":" :: body
  apply callee arg := callee ++ arg
  list elems := .word .leftBracket "[" :: [.word .comma ","].intercalate elems ++ [.word .rightBracket "]"]

def Expression.leaves (expression : Expression) : Except Fault (List Leaf) :=
  expression.fold Leaf.interpretation

/-- A definition shows its parameter behind the equality sign. -/
def Statement.leaves : Statement → Except Fault (List Leaf)
  | missing => .error (.invalidNode missingText)
  | assign _ name value => do
      let value ← value.leaves
      return .word .identifier name :: .word .equal "=" :: value
  | define _ name param body => do
      let body ← body.leaves
      return .word .identifier name :: .word .equal "=" :: .word .identifier param ::
        .word .colon ":" :: body
  | expression value => value.leaves

section Symbols

/-- The kind of a symbol is spelled with that symbol. -/
theorem ofSymbol?_symbol? {character : Char} {kind : Kind}
    (known : Kind.ofSymbol? character = some kind) : kind.symbol? = some character := by
  unfold Kind.ofSymbol? at known
  split at known
  all_goals
    cases known
  all_goals
    rfl

/-- No keyword is spelled with a symbol. -/
theorem symbol?_keyword {kind : Kind} (isKeyword : kind.isKeyword = true) : kind.symbol? = none := by
  unfold Kind.isKeyword at isKeyword
  split at isKeyword
  all_goals first | rfl | cases isKeyword

/-- A symbol promises its character alone. -/
theorem Lexeme.Promised.symbol? {kind : Kind} {text after : List Char} {character : Char}
    (promised : Promised kind text after) (symbol : kind.symbol? = some character) :
    text = [character] := by
  cases promised with
  | keyword known _ =>
      rw [symbol?_keyword (ofKeyword?_named known).1] at symbol
      cases symbol
  | symbol known =>
      rw [ofSymbol?_symbol? known] at symbol
      cases symbol
      rfl
  | dash _ =>
      cases symbol
      rfl
  | _ => cases symbol

/-- A token is plain when it is written with the character of its kind, if there is only one. -/
def Token.Plain (token : Token) : Prop :=
  ∀ character, token.kind.symbol? = some character → token.name = String.singleton character

/-- The tokens of a text are spelled as their kinds say. -/
theorem Cut.plain {source : Bytes} {segments : List Segment} {tail : List Glyph}
    {misreadings : List Misreading} (cut : Cut .start source.glyphs segments tail misreadings)
    {token : Token} (member : token ∈ tokensFrom .start tail segments) : token.Plain := by
  intro character symbol
  obtain ⟨after, promised⟩ := cut.lexeme_promised member
  rw [Token.name, Bytes.decode, promised.symbol? symbol]
  rfl

end Symbols

section Tokens

theorem Token.number?_none {token : Token} (notInteger : token.kind ≠ .integer)
    (notFloat : token.kind ≠ .float) : token.number? = none := by
  simp only [number?]

/-- A symbol is a leaf of its own spelling. -/
theorem Token.Plain.leaf {token : Token} {kind : Kind} {character : Char} (plain : token.Plain)
    (isKind : token.kind = kind) (symbol : kind.symbol? = some character) :
    token.leaf = .word kind (String.singleton character) := by
  subst isKind
  have number : token.number? = none := by
    refine Token.number?_none ?_ ?_
    · intro same
      rw [same] at symbol
      cases symbol
    · intro same
      rw [same] at symbol
      cases symbol
  rw [Token.leaf, number, plain character symbol]

theorem Token.leaf_name {token : Token} (isName : token.kind = .identifier) :
    token.leaf = .word .identifier token.name := by
  rw [leaf, number?_none (by simp [isName]) (by simp [isName]), isName]

/-- A number with a value is shown as that value. -/
theorem Token.Sound.leaves {token : Token} (sound : token.Sound)
    (numeral : token.kind = .integer ∨ token.kind = .float) :
    (numeralLiteral token).leaves = .ok [token.leaf] := by
  rcases numeral with kind | kind
  · obtain ⟨value, read, _⟩ := sound.integer kind
    simp only [numeralLiteral, Token.leaf, Token.number?, kind, read]
    rfl
  · obtain ⟨value, read, _⟩ := sound.float kind
    simp only [numeralLiteral, Token.leaf, Token.number?, kind, read]
    rfl

end Tokens

namespace Leaf

/-- Leaves are gathered from left to right. -/
theorem ofTokens_append (first second : List Token) :
    ofTokens (first ++ second) = ofTokens first ++ ofTokens second := by
  rw [ofTokens, List.filter_append, List.map_append]
  rfl

/-- A token that shows comes first among the leaves. -/
theorem ofTokens_cons {token : Token} (shown : token.kind.isSilent = false) (tokens : List Token) :
    ofTokens (token :: tokens) = token.leaf :: ofTokens tokens := by
  rw [ofTokens, List.filter_cons_of_pos (by simp [shown]), List.map_cons]
  rfl

/-- A silent token is no leaf. -/
theorem ofTokens_silent {token : Token} (silent : token.kind.isSilent = true) (tokens : List Token) :
    ofTokens (token :: tokens) = ofTokens tokens := by
  rw [ofTokens, List.filter_cons_of_neg (by simp [silent])]
  rfl

/-- A separator stands before the last of several parts. -/
theorem intercalate_concat {A : Type} (separator : A) {parts : List (List A)} (some : parts ≠ [])
    (part : List A) : [separator].intercalate (parts ++ [part]) =
      [separator].intercalate parts ++ separator :: part := by
  induction parts with
  | nil => exact absurd rfl some
  | cons first parts ih =>
      cases parts with
      | nil => simp [List.intercalate_cons_cons]
      | cons second parts =>
          rw [List.cons_append, List.cons_append, List.intercalate_cons_cons, ← List.cons_append,
            ih (List.cons_ne_nil _ _), List.intercalate_cons_cons]
          simp only [List.append_assoc]

/-- What is made of several trees and one more is made of each. -/
theorem foldAll_concat {A : Type} {meaning : Interpretation A} {values : List Expression}
    {value : Expression} {parts : List A} {part : A}
    (found : Expression.foldAll meaning values = .ok parts) (last : value.fold meaning = .ok part) :
    Expression.foldAll meaning (values ++ [value]) = .ok (parts ++ [part]) := by
  induction values generalizing parts with
  | nil =>
      cases found
      simp only [List.nil_append, Expression.foldAll, last]
      rfl
  | cons first values ih =>
      rw [Expression.foldAll] at found
      obtain ⟨front, here, found⟩ := Parser.exists_of_bind_ok found
      obtain ⟨rest, later, found⟩ := Parser.exists_of_bind_ok found
      cases found
      rw [List.cons_append, Expression.foldAll, here, ih later]
      rfl

/-- Trees show the leaves that they have one after the other, with commas between them. -/
def Shows (values : List Expression) (leaves : List Leaf) : Prop :=
  ∃ parts, Expression.foldAll interpretation values = .ok parts ∧ parts ≠ [] ∧
    [.word .comma ","].intercalate parts = leaves

/-- A single tree shows its own leaves. -/
theorem shows_singleton {value : Expression} {leaves : List Leaf} :
    Shows [value] leaves ↔ value.leaves = .ok leaves := by
  constructor
  · rintro ⟨parts, found, _, rfl⟩
    rw [Expression.foldAll] at found
    obtain ⟨part, here, found⟩ := Parser.exists_of_bind_ok found
    cases found
    rw [List.intercalate_singleton]
    exact here
  · intro found
    have all : Expression.foldAll interpretation ([] ++ [value]) = .ok ([] ++ [leaves]) :=
      foldAll_concat rfl found
    exact ⟨[leaves], all, List.cons_ne_nil _ _, List.intercalate_singleton⟩

/-- One more tree shows its leaves behind a comma. -/
theorem Shows.concat {values : List Expression} {value : Expression} {leaves leaves' : List Leaf}
    (shows : Shows values leaves) (last : value.leaves = .ok leaves') :
    Shows (values ++ [value]) (leaves ++ .word .comma "," :: leaves') := by
  obtain ⟨parts, found, some, rfl⟩ := shows
  exact ⟨parts ++ [leaves'], foldAll_concat found last, by simp, intercalate_concat _ some _⟩

end Leaf

section Building

/-- An operator token is shown as its operator. -/
theorem Token.Plain.operator {token : Token} (plain : token.Plain) {part whole : Symbol}
    {operators : List (Kind × Operator)} {operator : Operator} (joins : Joins part whole operators)
    (known : operators.lookup token.kind = some operator) :
    token.leaf = operator.leaf ∧ token.kind.isSilent = false := by
  cases joins with
  | sum =>
      rcases lookup_sumOperators.1 known with ⟨kind, rfl⟩ | ⟨kind, rfl⟩
      all_goals exact ⟨plain.leaf kind rfl, kind ▸ rfl⟩
  | product =>
      rcases lookup_productOperators.1 known with ⟨kind, rfl⟩ | ⟨kind, rfl⟩ | ⟨kind, rfl⟩
      all_goals exact ⟨plain.leaf kind rfl, kind ▸ rfl⟩

theorem Symbol.Encloses.silent {part whole : Symbol} {left right : Kind}
    (encloses : Encloses part whole left right) : left.isSilent = true ∧ right.isSilent = true := by
  cases encloses <;> exact ⟨rfl, rfl⟩

/-- Silent brackets around tokens leave their leaves alone. -/
theorem Leaf.ofTokens_enclosed {opening closing : Token} (word : List Token)
    (silent : opening.kind.isSilent = true ∧ closing.kind.isSilent = true) :
    Leaf.ofTokens (opening :: word ++ [closing]) = Leaf.ofTokens word := by
  rw [List.cons_append, ofTokens_silent silent.1, ofTokens_append, ofTokens_silent silent.2]
  exact List.append_nil _

variable {symbol : Symbol} {tokens : List Token} {values : List Expression}

/-- What tokens build shows the leaves of the tokens. -/
theorem Symbol.Builds.shows (builds : Builds symbol tokens values)
    (sound : ∀ token ∈ tokens, token.Sound) (plain : ∀ token ∈ tokens, token.Plain) :
    Leaf.Shows values (Leaf.ofTokens tokens) := by
  induction builds with
  | passed _ _ ih => exact ih sound plain
  | @joined part whole operators word other token operator first second joins _ known _ left right =>
      obtain ⟨soundLeft, soundRight⟩ := List.forall_mem_append.1 sound
      obtain ⟨plainLeft, plainRight⟩ := List.forall_mem_append.1 plain
      obtain ⟨plainToken, plainOther⟩ := List.forall_mem_cons.1 plainRight
      have before := Leaf.shows_singleton.1 (left soundLeft plainLeft)
      have behind := Leaf.shows_singleton.1 (right (List.forall_mem_cons.1 soundRight).2 plainOther)
      obtain ⟨leaf, shown⟩ := plainToken.operator joins known
      rw [Leaf.ofTokens_append, Leaf.ofTokens_cons shown, leaf, Leaf.shows_singleton]
      rw [Expression.leaves] at before behind ⊢
      rw [Expression.fold, before, behind]
      rfl
  -- Brackets around a part have no leaf of their own, so those of the part are all there are.
  | @enclosed part whole opening closing word value encloses _ ih =>
      rw [Leaf.ofTokens_enclosed word encloses.silent]
      exact ih (List.forall_mem_append.1 (List.forall_mem_cons.1 sound).2).1
        (List.forall_mem_append.1 (List.forall_mem_cons.1 plain).2).1
  | name _ isName =>
      rw [Leaf.ofTokens_cons (isName ▸ rfl), Token.leaf_name isName, Leaf.shows_singleton]
      rfl
  | @number token numeral =>
      have shown : token.kind.isSilent = false := by
        rcases numeral with kind | kind <;> rw [kind] <;> rfl
      rw [Leaf.ofTokens_cons shown, Leaf.shows_singleton]
      exact (List.forall_mem_singleton.1 sound).leaves numeral
  | unit opens closes =>
      rw [Leaf.ofTokens_silent (opens ▸ rfl), Leaf.ofTokens_silent (closes ▸ rfl), Leaf.shows_singleton]
      rfl
  | unary known _ ih =>
      obtain ⟨plainToken, plainWord⟩ := List.forall_mem_cons.1 plain
      have inner := Leaf.shows_singleton.1 (ih (List.forall_mem_cons.1 sound).2 plainWord)
      obtain ⟨leaf, shown⟩ := plainToken.operator .sum known
      rw [Leaf.ofTokens_cons shown, leaf, Leaf.shows_singleton]
      rw [Expression.leaves] at inner ⊢
      rw [Expression.fold, inner]
      rfl
  | function isName isColon _ ih =>
      obtain ⟨_, soundRest⟩ := List.forall_mem_cons.1 sound
      obtain ⟨plainColon, plainWord⟩ := List.forall_mem_cons.1 (List.forall_mem_cons.1 plain).2
      have inner := Leaf.shows_singleton.1 (ih (List.forall_mem_cons.1 soundRest).2 plainWord)
      rw [Leaf.ofTokens_cons (isName ▸ rfl), Leaf.ofTokens_cons (isColon ▸ rfl), Token.leaf_name isName,
        plainColon.leaf isColon rfl, Leaf.shows_singleton]
      rw [Expression.leaves] at inner ⊢
      rw [Expression.fold, inner]
      rfl
  | application _ _ _ left right =>
      obtain ⟨soundLeft, soundRight⟩ := List.forall_mem_append.1 sound
      obtain ⟨plainLeft, plainRight⟩ := List.forall_mem_append.1 plain
      have callee := Leaf.shows_singleton.1 (left soundLeft plainLeft)
      have arg := Leaf.shows_singleton.1 (right soundRight plainRight)
      rw [Leaf.ofTokens_append, Leaf.shows_singleton]
      rw [Expression.leaves] at callee arg ⊢
      rw [Expression.fold, callee, arg]
      rfl
  | list_empty opens closes =>
      obtain ⟨plainOpening, plainRest⟩ := List.forall_mem_cons.1 plain
      have plainClosing := List.forall_mem_singleton.1 plainRest
      rw [Leaf.ofTokens_cons (opens ▸ rfl), Leaf.ofTokens_cons (closes ▸ rfl),
        plainOpening.leaf opens rfl, plainClosing.leaf closes rfl, Leaf.shows_singleton]
      rfl
  | list opens closes _ ih =>
      obtain ⟨_, soundRest⟩ := List.forall_mem_cons.1 sound
      obtain ⟨plainOpening, plainRest⟩ := List.forall_mem_cons.1 plain
      obtain ⟨plainWord, plainClosing⟩ := List.forall_mem_append.1 plainRest
      -- The elements are shown in turn with the commas between them, and the list adds its brackets.
      obtain ⟨parts, found, _, same⟩ := ih (List.forall_mem_append.1 soundRest).1 plainWord
      rw [List.cons_append, Leaf.ofTokens_cons (opens ▸ rfl), Leaf.ofTokens_append,
        Leaf.ofTokens_cons (closes ▸ rfl), plainOpening.leaf opens rfl,
        (List.forall_mem_singleton.1 plainClosing).leaf closes rfl, Leaf.shows_singleton,
        Expression.leaves, Expression.fold, found, ← same]
      rfl
  | elements _ isComma _ left right =>
      obtain ⟨soundLeft, soundRight⟩ := List.forall_mem_append.1 sound
      obtain ⟨plainLeft, plainRight⟩ := List.forall_mem_append.1 plain
      obtain ⟨plainComma, plainOther⟩ := List.forall_mem_cons.1 plainRight
      have last := Leaf.shows_singleton.1 (right (List.forall_mem_cons.1 soundRight).2 plainOther)
      rw [Leaf.ofTokens_append, Leaf.ofTokens_cons (isComma ▸ rfl), plainComma.leaf isComma rfl]
      exact (left soundLeft plainLeft).concat last

/-- What is assigned to a name stands behind an equality sign. -/
theorem assigned_leaves {name : Token} {value : Expression} {leaves : List Leaf}
    (found : value.leaves = .ok leaves) : (assigned name value).leaves =
      .ok (.word .identifier name.name :: .word .equal "=" :: leaves) := by
  unfold assigned
  cases value with
  | function span param body =>
      rw [Expression.leaves, Expression.fold] at found
      obtain ⟨inner, here, found⟩ := Parser.exists_of_bind_ok found
      cases found
      rw [Statement.leaves, Expression.leaves, here]
      rfl
  | _ =>
      rw [Statement.leaves, found]
      rfl

/-- A statement has the leaves of its tokens. -/
theorem Symbol.BuildsStatement.leaves {statement : Statement} (builds : BuildsStatement tokens statement)
    (sound : ∀ token ∈ tokens, token.Sound) (plain : ∀ token ∈ tokens, token.Plain) :
    statement.leaves = .ok (Leaf.ofTokens tokens) := by
  cases builds with
  | assignment isName isEqual inner =>
      obtain ⟨_, soundRest⟩ := List.forall_mem_cons.1 sound
      obtain ⟨plainEqual, plainWord⟩ := List.forall_mem_cons.1 (List.forall_mem_cons.1 plain).2
      have shows := inner.shows (List.forall_mem_cons.1 soundRest).2 plainWord
      rw [Leaf.ofTokens_cons (isName ▸ rfl), Leaf.ofTokens_cons (isEqual ▸ rfl), Token.leaf_name isName,
        plainEqual.leaf isEqual rfl]
      exact assigned_leaves (Leaf.shows_singleton.1 shows)
  | expression inner => exact Leaf.shows_singleton.1 (inner.shows sound plain)

end Building

/-- Comments have no leaves. -/
theorem Leaf.ofTokens_significant (tokens : List Token) :
    Leaf.ofTokens (significantTokens tokens) = Leaf.ofTokens tokens := by
  rw [ofTokens, ofTokens, significantTokens, List.filter_filter]
  refine congrArg (List.map Token.leaf) (List.filter_congr fun token _ => ?_)
  cases token.kind <;> rfl

/-- The tree that a text is parsed as shows all tokens of the text before the end of input, each of them
once and in their order, but for comments, parentheses and braces. -/
theorem parsed_leaves (source : Bytes) :
    ∃ tokens final, (Reading.ofBytes source).buffer.tokens = .ok (tokens ++ [final]) ∧
      final.kind = .endOfInput ∧ (∀ token ∈ tokens, token.kind ≠ .endOfInput) ∧
      (∀ expression, (Reading.ofBytes source).buffer.parseExpression = .ok expression →
        expression.leaves = .ok (Leaf.ofTokens tokens)) ∧
      (∀ statement, (Reading.ofBytes source).buffer.parseStatement = .ok statement →
        statement.leaves = .ok (Leaf.ofTokens tokens)) := by
  obtain ⟨segments, tail, misreadings, cut⟩ := exists_cut .start source.glyphs
  obtain ⟨body, final, split, starts⟩ := cut.startsBefore
  obtain ⟨tokens, last, whole, _, ends⟩ := tokensFrom_words .start tail segments
  have inside := body_subset split
  have sound := cut.sound inside starts.others
  have plain (token : Token) (member : token ∈ body) : token.Plain := cut.plain (inside member)
  rw [whole, significantTokens, List.filter_append, List.filter_singleton, ends] at split
  obtain ⟨significant, _⟩ := List.append_inj' split rfl
  have leaves : Leaf.ofTokens body = Leaf.ofTokens tokens := by
    rw [← significant]
    exact Leaf.ofTokens_significant tokens
  refine ⟨tokens, last, whole ▸ cut.tokens, ends, fun token member same => ?_, ?_, ?_⟩
  · refine starts.others token ?_ same
    rw [← significant]
    exact List.mem_filter.2 ⟨member, by rw [same]; rfl⟩
  · intro expression found
    obtain ⟨gives, quiet⟩ := starts.built.1 expression found
    rw [← leaves]
    exact Leaf.shows_singleton.1 (gives.shows (sound quiet) plain)
  · intro statement found
    obtain ⟨builds, quiet⟩ := starts.built.2 statement found
    rw [← leaves]
    exact builds.leaves (sound quiet) plain

/-- A difference shows its operands and its operator, and neither the comment nor the parentheses. -/
theorem commentedDifference_leaves :
    let buffer := (Reading.ofBytes (encode "(f) -\x7bc\x7d- - 2")).buffer
    let leaves : List Leaf := [.word .identifier "f", .word .dash "-", .number (.int 2)]
    (∃ expression, buffer.parseExpression = .ok expression ∧ expression.leaves = .ok leaves) ∧
      ∃ statement, buffer.parseStatement = .ok statement ∧ statement.leaves = .ok leaves := by
  intro buffer leaves
  obtain ⟨tokens, final, read, _, _, expressions, statements⟩ :=
    parsed_leaves (encode "(f) -\x7bc\x7d- - 2")
  let token (kind : Kind) (lexeme : Bytes) (start stop : Int) : Token :=
    ⟨kind, lexeme, ⟨⟨start, 1, start + 1⟩, ⟨stop, 1, stop + 1⟩⟩⟩
  have found : buffer.tokens = .ok ([token .leftParen #[0x28] 0 1, token .identifier #[0x66] 1 2,
      token .rightParen #[0x29] 2 3, token .comment #[0x2D, 0x7B, 0x63, 0x7D, 0x2D] 4 9,
      token .dash #[0x2D] 10 11, token .integer #[0x32] 12 13] ++ [token .endOfInput #[] 13 13]) := by
    decide +kernel
  obtain ⟨rfl, _⟩ := List.append_inj' (Except.ok.inj (read.symm.trans found)) rfl
  have name : Bytes.decode #[0x66] = "f" := by decide +kernel
  have sign : Bytes.decode #[0x2D] = "-" := by decide +kernel
  have value : integerValue #[0x32] = .ok (.ok 2) := by decide +kernel
  have shown : Leaf.ofTokens [token .leftParen #[0x28] 0 1, token .identifier #[0x66] 1 2,
      token .rightParen #[0x29] 2 3, token .comment #[0x2D, 0x7B, 0x63, 0x7D, 0x2D] 4 9,
      token .dash #[0x2D] 10 11, token .integer #[0x32] 12 13] = leaves := by
    simp [Leaf.ofTokens, Token.leaf, Token.number?, Token.name, Kind.isSilent, token, leaves, name, sign,
      value]
  rw [shown] at expressions statements
  have parses : buffer.parseExpression.isOk = true ∧ buffer.parseStatement.isOk = true := by
    decide +kernel
  obtain ⟨expression, parsed⟩ := Parser.exists_of_isOk parses.1
  obtain ⟨statement, parsed'⟩ := Parser.exists_of_isOk parses.2
  exact ⟨⟨expression, parsed, expressions expression parsed⟩,
    ⟨statement, parsed', statements statement parsed'⟩⟩

end Reckon
