import Mathlib.Data.List.TakeDrop
import TableLayout.Proofs.Json.Spelling
import TableLayout.Proofs.Text.Cutting
import TableLayout.Proofs.Text.Numeral

/-!
# The layout of a JSON text

A JSON text is laid out from words, one for each token, with white space around them. The words of numbers, of null and
of the Booleans have no end of their own, but no two of them stand side by side in a value; so the lexer finds the
tokens again.
-/

namespace TableLayout.Json

open Text

/-! ## Numbers -/

structure IsDigits (s : List Char) : Prop where
  ne_nil : s ≠ []
  digits : ∀ c ∈ s, c.isDigit = true

inductive IsFraction : List Char → Prop
  | none : IsFraction []
  | digits {digits : List Char} (h : IsDigits digits) : IsFraction ('.' :: digits)

inductive IsExponent : List Char → Prop
  | none : IsExponent []
  | digits {mark : Char} {sign digits : List Char} (hmark : mark = 'e' ∨ mark = 'E')
      (hsign : sign = [] ∨ sign = ['+'] ∨ sign = ['-']) (h : IsDigits digits) : IsExponent (mark :: (sign ++ digits))

/-- A number may have a sign, a fraction and an exponent, and no leading zeros. -/
inductive IsNumber : List Char → Prop
  | intro {sign whole fraction exponent : List Char} (hsign : sign = [] ∨ sign = ['-']) (hwhole : IsDigits whole)
      (hzero : whole.head? = some '0' → whole = ['0']) (hfraction : IsFraction fraction)
      (hexponent : IsExponent exponent) : IsNumber (sign ++ (whole ++ (fraction ++ exponent)))

/-- Whether a fraction is complete, if there is one, and what comes behind it. -/
def dropFraction : List Char → Bool × List Char
  | '.' :: rest => (!(rest.span Char.isDigit).1.isEmpty, (rest.span Char.isDigit).2)
  | rest => (true, rest)

def dropSign : List Char → List Char
  | '+' :: digits => digits
  | '-' :: digits => digits
  | digits => digits

def isExponent : List Char → Bool
  | [] => true
  | mark :: rest => (mark == 'e' || mark == 'E') && !(dropSign rest).isEmpty && (dropSign rest).all Char.isDigit

theorem isNumber_eq (literal : List Char) : isNumber literal =
    let parts := (if literal.head? = some '-' then literal.tail else literal).span Char.isDigit
    (!parts.1.isEmpty && (parts.1.head? ≠ some '0' || parts.1.length == 1)) && (dropFraction parts.2).1 &&
      isExponent (dropFraction parts.2).2 := rfl

theorem span_digits {digits rest : List Char} (h : IsDigits digits) (hrest : ∀ c ∈ rest.head?, c.isDigit = false) :
    (digits ++ rest).span Char.isDigit = (digits, rest) := by
  rw [List.span_eq_takeWhile_dropWhile, takeWhile_append_stop h.digits hrest, dropWhile_append_stop h.digits hrest]

theorem IsExponent.head {exponent : List Char} (h : IsExponent exponent) :
    ∀ c ∈ exponent.head?, c = 'e' ∨ c = 'E' := by
  cases h with
  | none => simp
  | digits hmark _ _ => simpa using hmark

theorem not_isDigit_of_head {fraction exponent : List Char} (hfraction : IsFraction fraction)
    (hexponent : IsExponent exponent) : ∀ c ∈ (fraction ++ exponent).head?, c.isDigit = false := by
  cases hfraction with
  | none =>
    intro c hc
    rcases hexponent.head c hc with rfl | rfl <;> decide
  | digits _ =>
    rintro c ⟨⟩
    decide

theorem dropFraction_append {fraction exponent : List Char} (hfraction : IsFraction fraction)
    (hexponent : IsExponent exponent) : dropFraction (fraction ++ exponent) = (true, exponent) := by
  cases hfraction with
  | none =>
    cases hexponent with
    | none => rfl
    | digits hmark _ _ => rcases hmark with rfl | rfl <;> rfl
  | digits h =>
    have hstop : ∀ c ∈ exponent.head?, c.isDigit = false := not_isDigit_of_head .none hexponent
    rw [List.cons_append, dropFraction, span_digits h hstop]
    simp [h.ne_nil]

theorem dropSign_append {sign digits : List Char} (hsign : sign = [] ∨ sign = ['+'] ∨ sign = ['-'])
    (h : IsDigits digits) : dropSign (sign ++ digits) = digits := by
  rcases hsign with rfl | rfl | rfl
  · rw [List.nil_append]
    unfold dropSign
    split
    · exact absurd (h.digits '+' List.mem_cons_self) (by decide)
    · exact absurd (h.digits '-' List.mem_cons_self) (by decide)
    · rfl
  · rfl
  · rfl

theorem isExponent_eq_true {exponent : List Char} (h : IsExponent exponent) : isExponent exponent = true := by
  cases h with
  | none => rfl
  | digits hmark hsign h =>
    rw [isExponent, dropSign_append hsign h]
    simpa [h.ne_nil, hmark] using h.digits

theorem isNumber_eq_true {literal : List Char} (h : IsNumber literal) : isNumber literal = true := by
  cases h with
  | @intro sign whole fraction exponent hsign hwhole hzero hfraction hexponent =>
    obtain ⟨c, rest, hc⟩ := List.exists_cons_of_ne_nil hwhole.ne_nil
    have hdash : c ≠ '-' := by
      rintro rfl
      exact absurd (hwhole.digits '-' (by simp [hc])) (by decide)
    have hunsigned : (if (sign ++ (whole ++ (fraction ++ exponent))).head? = some '-'
        then (sign ++ (whole ++ (fraction ++ exponent))).tail else sign ++ (whole ++ (fraction ++ exponent))) =
        whole ++ (fraction ++ exponent) := by
      rcases hsign with rfl | rfl
      · rw [if_neg (by simp [hc, hdash])]
        rfl
      · rfl
    rw [isNumber_eq, hunsigned, span_digits hwhole (not_isDigit_of_head hfraction hexponent)]
    dsimp only
    rw [dropFraction_append hfraction hexponent, isExponent_eq_true hexponent]
    by_cases hfirst : whole.head? = some '0'
    · simp [hzero hfirst]
    · simp [hwhole.ne_nil, hfirst]

theorem eq_zero_of_head_toDigits {n : Nat} (h : (Nat.toDigits 10 n).head? = some '0') : Nat.toDigits 10 n = ['0'] := by
  induction n using Nat.strongRecOn with
  | ind n ih =>
    by_cases hsmall : n < 10
    · rw [Nat.toDigits_of_lt_base hsmall] at h ⊢
      simpa using h
    · rw [Nat.toDigits_of_base_le (by decide) (by omega), List.head?_append_of_ne_nil _ Nat.toDigits_ne_nil] at h
      have hvalue := congrArg (Nat.ofDigitChars 10 · 0) (ih (n / 10) (by omega) h)
      rw [Nat.ofDigitChars_toDigits (by decide) (by decide)] at hvalue
      have hzero : Nat.ofDigitChars 10 ['0'] 0 = 0 := rfl
      omega

theorem isNumber_toDigits (n : Nat) : IsNumber (Nat.toDigits 10 n) := by
  have hdigits : IsDigits (Nat.toDigits 10 n) := ⟨Nat.toDigits_ne_nil, fun c => isDigit_of_mem_toDigits⟩
  simpa using IsNumber.intro (.inl rfl) hdigits eq_zero_of_head_toDigits .none .none

/-! ## Words -/

def marks : List (Token × Char) :=
  [(.openBrace, '\x7b'), (.closeBrace, '\x7d'), (.openBracket, '['), (.closeBracket, ']'), (.comma, ','), (.colon, ':')]

def words : List (Token × List Char) :=
  [(.null, "null".toList), (.bool true, "true".toList), (.bool false, "false".toList)]

inductive Token.IsSpelled : Token → List Char → Prop
  | mark {t : Token} {c : Char} (h : (t, c) ∈ marks) : IsSpelled t [c]
  | word {t : Token} {word : List Char} (h : (t, word) ∈ words) : IsSpelled t word
  | number {literal : List Char} (h : IsNumber literal) : IsSpelled (.number literal) literal
  | string {pieces : List Piece} {words : List (List Char)} (h : List.Forall₂ Piece.IsSpelled pieces words) :
      IsSpelled (.string ((text? pieces).map String.ofList)) ('"' :: words.flatten ++ ['"'])

/-- A word without an end of its own. -/
def Token.isLiteral : Token → Bool
  | .null | .bool _ | .number _ => true
  | _ => false

def IsSpace (s : List Char) : Prop := ∀ c ∈ s, c ∈ [' ', '\n', '\t', '\r']

/-- The texts with these tokens: a word for each, with white space before it or none. -/
inductive Layout : List Token → List Char → Prop
  | nil {space : List Char} (h : IsSpace space) : Layout [] space
  | cons {t : Token} {ts : List Token} {space word rest : List Char} (hspace : IsSpace space) (hword : t.IsSpelled word)
      (hrest : Layout ts rest) : Layout (t :: ts) (space ++ (word ++ rest))

namespace Lexer
variable {found : List Token} {t : Token} {literal rest : List Char}

def tokens? (l : Lexer) (s : List Char) : Option (List Token) := (l.run s).bind finish

theorem tokens?_append (l : Lexer) (s s' : List Char) : l.tokens? (s ++ s') = (l.run s).bind (tokens? · s') := by
  unfold tokens?
  rw [run_append, Option.bind_assoc]

theorem tokens?_of_run {l l' : Lexer} {s : List Char} (h : l.run s = some l') (s' : List Char) :
    l.tokens? (s ++ s') = l'.tokens? s' := by
  rw [tokens?_append, h, Option.bind_some]

/-! ### Literals -/

/-- What ends a literal in front of it. -/
def Stops (s : List Char) : Prop := ∀ c ∈ s.head?, c.toNat < 128 ∧ isLiteralChar c = false

theorem run_between {c : Char} (h : c.toNat < 128) :
    run ⟨.between, found⟩ [c] = stepBetween ⟨.between, found⟩ c := by
  rw [run_ascii h]
  show stepBetween _ (Char.ofNat _) = _
  rw [toChar_of_ascii h]

theorem run_literalChar {c : Char} (h : c.toNat < 128) (reversed : List Char) :
    run ⟨.literal reversed, found⟩ [c] = stepLiteral ⟨.literal reversed, found⟩ reversed c := by
  rw [run_ascii h]
  show stepLiteral _ reversed (Char.ofNat _) = _
  rw [toChar_of_ascii h]

theorem ascii_of_isLiteralChar {c : Char} (h : isLiteralChar c = true) : c.toNat < 128 := by
  simp only [isLiteralChar, Char.isAlphanum, Bool.or_eq_true, beq_iff_eq] at h
  rcases h with (((halpha | hdigit) | rfl) | rfl) | rfl
  · rcases (Bool.or_eq_true _ _).mp halpha with hupper | hlower
    · exact Nat.lt_of_le_of_lt (of_decide_eq_true hupper).2 (by decide)
    · exact Nat.lt_of_le_of_lt (of_decide_eq_true ((Bool.and_eq_true _ _).mp hlower).2) (by decide)
  · exact Nat.lt_of_le_of_lt (of_decide_eq_true ((Bool.and_eq_true _ _).mp hdigit).2) (by decide)
  · decide
  · decide
  · decide

theorem run_literal {s : List Char} (h : ∀ c ∈ s, isLiteralChar c = true) (reversed : List Char) :
    run ⟨.literal reversed, found⟩ s = some ⟨.literal (s.reverse ++ reversed), found⟩ := by
  induction s generalizing reversed with
  | nil => rfl
  | cons c s ih =>
    have hc := h c List.mem_cons_self
    rw [run_cons, run_literalChar (ascii_of_isLiteralChar hc), stepLiteral, if_pos hc, Option.bind_some,
      ih fun d hd => h d (List.mem_cons_of_mem _ hd)]
    simp

theorem stepBetween_literal {c : Char} (h : (c.isAlphanum || c == '-') = true) :
    stepBetween ⟨.between, found⟩ c = some ⟨.literal [c], found⟩ := by
  unfold stepBetween
  split
  case h_12 => rw [if_pos h]
  all_goals exact absurd h (by decide)

theorem tokens?_literal (h : literalToken literal = some t) (hrest : Stops rest) :
    tokens? ⟨.literal literal.reverse, found⟩ rest = tokens? ⟨.between, t :: found⟩ rest := by
  cases rest with
  | nil =>
    show finish ⟨.literal literal.reverse, found⟩ = finish ⟨.between, t :: found⟩
    simp [finish, h]
  | cons c rest =>
    obtain ⟨hascii, hc⟩ := hrest c rfl
    have hstep : run ⟨.literal literal.reverse, found⟩ [c] = run ⟨.between, t :: found⟩ [c] := by
      rw [run_literalChar hascii, run_between hascii, stepLiteral, if_neg (by simp [hc]), List.reverse_reverse, h]
      rfl
    rw [← List.singleton_append, tokens?_append, tokens?_append, hstep]

theorem isLiteralChar_of_isNumber (h : IsNumber literal) : ∀ c ∈ literal, isLiteralChar c = true := by
  have hdigits : ∀ {digits}, IsDigits digits → ∀ c ∈ digits, isLiteralChar c = true := by
    intro digits h c hc
    simp [isLiteralChar, Char.isAlphanum, h.digits c hc]
  cases h with
  | intro hsign hwhole hzero hfraction hexponent =>
    intro c hc
    simp only [List.mem_append] at hc
    rcases hc with hc | hc | hc | hc
    · rcases hsign with rfl | rfl
      · cases hc
      · rw [List.mem_singleton.mp hc]
        decide
    · exact hdigits hwhole c hc
    · cases hfraction with
      | none => cases hc
      | digits h =>
        rcases List.mem_cons.mp hc with rfl | hc
        · decide
        · exact hdigits h c hc
    · cases hexponent with
      | none => cases hc
      | digits hmark hsign h =>
        rcases List.mem_cons.mp hc with rfl | hc
        · rcases hmark with rfl | rfl <;> decide
        · rcases List.mem_append.mp hc with hc | hc
          · rcases hsign with rfl | rfl | rfl
            · cases hc
            · rw [List.mem_singleton.mp hc]
              decide
            · rw [List.mem_singleton.mp hc]
              decide
          · exact hdigits h c hc

theorem head_of_isNumber (h : IsNumber literal) :
    literal.head?.any (fun c => c.isAlphanum || c == '-') = true := by
  cases h with
  | intro hsign hwhole hzero hfraction hexponent =>
    rcases hsign with rfl | rfl
    · obtain ⟨c, s, rfl⟩ := List.exists_cons_of_ne_nil hwhole.ne_nil
      simp [Char.isAlphanum, hwhole.digits c List.mem_cons_self]
    · rfl

theorem run_word {word : List Char} (hfirst : word.head?.any (fun c => c.isAlphanum || c == '-') = true)
    (hall : ∀ c ∈ word, isLiteralChar c = true) :
    run ⟨.between, found⟩ word = some ⟨.literal word.reverse, found⟩ := by
  cases word with
  | nil => cases hfirst
  | cons c s =>
    rw [run_cons, run_between (ascii_of_isLiteralChar (hall c List.mem_cons_self)), stepBetween_literal hfirst,
      Option.bind_some, run_literal fun d hd => hall d (List.mem_cons_of_mem _ hd), List.reverse_cons]

theorem literalToken_number (h : IsNumber literal) : literalToken literal = some (.number literal) := by
  have hnumber := isNumber_eq_true h
  have hne : ∀ word, isNumber word = false → literal ≠ word := by
    rintro word hword rfl
    rw [hnumber] at hword
    cases hword
  unfold literalToken
  rw [if_neg (hne _ (by decide)), if_neg (hne _ (by decide)), if_neg (hne _ (by decide)), if_pos hnumber]

/-! ### Tokens -/

variable {word : List Char}

theorem run_mark {c : Char} (h : (t, c) ∈ marks) : run ⟨.between, found⟩ [c] = some ⟨.between, t :: found⟩ := by
  simp only [marks, List.mem_cons, Prod.mk.injEq, List.not_mem_nil, or_false] at h
  rcases h with ⟨rfl, rfl⟩ | ⟨rfl, rfl⟩ | ⟨rfl, rfl⟩ | ⟨rfl, rfl⟩ | ⟨rfl, rfl⟩ | ⟨rfl, rfl⟩ <;> rfl

theorem marks_spec : ∀ m ∈ marks, m.1.isLiteral = false ∧ m.2.toNat < 128 ∧ isLiteralChar m.2 = false := by decide

theorem words_spec : ∀ w ∈ words, w.1.isLiteral = true ∧ literalToken w.2 = some w.1 ∧
    w.2.head?.any (fun c => c.isAlphanum || c == '-') = true ∧ w.2.all isLiteralChar = true := by
  decide

theorem run_of_isLiteral (h : t.IsSpelled word) (ht : t.isLiteral = true) :
    run ⟨.between, found⟩ word = some ⟨.literal word.reverse, found⟩ ∧ literalToken word = some t := by
  cases h with
  | mark h =>
    rw [(marks_spec _ h).1] at ht
    cases ht
  | word h =>
    obtain ⟨-, htoken, hfirst, hall⟩ := words_spec _ h
    exact ⟨run_word hfirst (List.all_eq_true.mp hall), htoken⟩
  | number h => exact ⟨run_word (head_of_isNumber h) (isLiteralChar_of_isNumber h), literalToken_number h⟩
  | string h => cases ht

theorem run_of_not_isLiteral (h : t.IsSpelled word) (ht : t.isLiteral = false) :
    run ⟨.between, found⟩ word = some ⟨.between, t :: found⟩ := by
  cases h with
  | mark h => exact run_mark h
  | word h =>
    rw [(words_spec _ h).1] at ht
    cases ht
  | number h => cases ht
  | string h => exact run_quoted h

theorem tokens?_word (h : t.IsSpelled word) (hrest : t.isLiteral = true → Stops rest) :
    tokens? ⟨.between, found⟩ (word ++ rest) = tokens? ⟨.between, t :: found⟩ rest := by
  cases ht : t.isLiteral with
  | true =>
    obtain ⟨hrun, htoken⟩ := run_of_isLiteral h ht
    rw [tokens?_of_run hrun]
    exact tokens?_literal htoken (hrest ht)
  | false => exact tokens?_of_run (run_of_not_isLiteral h ht) rest

theorem run_space {space : List Char} (h : IsSpace space) : run ⟨.between, found⟩ space = some ⟨.between, found⟩ := by
  induction space with
  | nil => rfl
  | cons c space ih =>
    have hc : run ⟨.between, found⟩ [c] = some ⟨.between, found⟩ := by
      have := h c List.mem_cons_self
      simp only [List.mem_cons, List.not_mem_nil, or_false] at this
      rcases this with rfl | rfl | rfl | rfl <;> rfl
    rw [run_cons, hc]
    exact ih fun d hd => h d (List.mem_cons_of_mem _ hd)

theorem stops_of_space {space : List Char} (h : IsSpace space) (hne : space ≠ []) (s : List Char) :
    Stops (space ++ s) := by
  intro c hc
  rw [List.head?_append_of_ne_nil _ hne] at hc
  have := h c (List.mem_of_head? hc)
  simp only [List.mem_cons, List.not_mem_nil, or_false] at this
  rcases this with rfl | rfl | rfl | rfl <;> decide

theorem stops_of_word (h : t.IsSpelled word) (ht : t.isLiteral = false) (s : List Char) : Stops (word ++ s) := by
  cases h with
  | mark h =>
    rintro c ⟨⟩
    exact (marks_spec _ h).2
  | word h =>
    rw [(words_spec _ h).1] at ht
    cases ht
  | number h => cases ht
  | string h =>
    rintro c ⟨⟩
    decide

theorem stops_of_layout {ts : List Token} {s : List Char} (h : Layout ts s)
    (hts : ∀ t ∈ ts.head?, t.isLiteral = false) : Stops s := by
  cases h with
  | nil h =>
    by_cases hne : s = []
    · subst hne
      exact fun c hc => nomatch hc
    · simpa using stops_of_space h hne []
  | @cons t ts space word rest hspace hword hrest =>
    by_cases hne : space = []
    · subst hne
      exact stops_of_word hword (hts t rfl) rest
    · exact stops_of_space hspace hne _

def Apart (ts : List Token) : Prop := ts.IsChain fun t t' => t.isLiteral = true → t'.isLiteral = false

/-- The lexer finds the tokens of a text. -/
theorem tokens?_layout {ts : List Token} {s : List Char} (h : Layout ts s) (hts : Apart ts) :
    tokens? ⟨.between, found⟩ s = some (found.reverse ++ ts) := by
  induction h generalizing found with
  | nil h =>
    unfold tokens?
    rw [run_space h, List.append_nil]
    rfl
  | @cons t ts space word rest hspace hword hrest ih =>
    have hstops : t.isLiteral = true → Stops rest := by
      intro ht
      apply stops_of_layout hrest
      intro t' ht'
      cases ts with
      | nil => cases ht'
      | cons first ts =>
        cases ht'
        exact (List.isChain_cons_cons.mp hts).1 ht
    rw [tokens?_of_run (run_space hspace), tokens?_word hword hstops, ih hts.of_cons]
    simp

end Lexer

theorem Token.read_layout {ts : List Token} {s : List Char} (h : Layout ts s) (hts : Lexer.Apart ts) :
    Token.read (String.ofList s).toUTF8 = some ts := by
  have htokens : Lexer.start.tokens? s = some ts := Lexer.tokens?_layout h hts
  unfold Token.read
  rw [toList_toUTF8, bytesOf_eq, String.toList_ofList]
  exact htokens

/-! ## One text -/

theorem isSpelled_quote (s : String) : Token.IsSpelled (.string (some s)) (quote s).toList := by
  obtain ⟨pieces, words, hspelled, hwords, htext⟩ := exists_pieces s.toList
  have hword := Token.IsSpelled.string hspelled
  rw [htext, Option.map_some, String.ofList_toList, hwords] at hword
  rw [quote, String.toList_ofList]
  exact hword

/-- A word for each token; a lone surrogate stands for a string that spells no text. -/
def Token.word : Token → List Char
  | .openBrace => ['\x7b']
  | .closeBrace => ['\x7d']
  | .openBracket => ['[']
  | .closeBracket => [']']
  | .comma => [',']
  | .colon => [':']
  | .null => "null".toList
  | .bool true => "true".toList
  | .bool false => "false".toList
  | .number literal => literal
  | .string (some s) => (quote s).toList
  | .string none => ['"', '\\', 'u', 'd', '8', '0', '0', '"']

theorem isSpelled_word (t : Token) (h : ∀ literal, t = .number literal → IsNumber literal) : t.IsSpelled t.word := by
  match t with
  | .openBrace | .closeBrace | .openBracket | .closeBracket | .comma | .colon => exact .mark (by decide)
  | .null | .bool true | .bool false => exact .word (by decide)
  | .number literal => exact .number (h literal rfl)
  | .string (some s) => exact isSpelled_quote s
  | .string none =>
    have hlone : List.Forall₂ Piece.IsSpelled [.unit 0xD800] [['\\', 'u', 'd', '8', '0', '0']] :=
      .cons (.unit rfl (by decide)) .nil
    exact .string hlone

theorem layout_words {ts : List Token} (h : ∀ literal, .number literal ∈ ts → IsNumber literal) :
    Layout ts (ts.flatMap Token.word) := by
  have hspace : IsSpace [] := by simp [IsSpace]
  induction ts with
  | nil => exact .nil hspace
  | cons t ts ih =>
    have hword := isSpelled_word t fun literal ht => h literal (ht ▸ List.mem_cons_self)
    exact .cons hspace hword (ih fun literal hliteral => h literal (List.mem_cons_of_mem _ hliteral))

end TableLayout.Json
