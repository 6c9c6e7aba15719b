import Mathlib.Data.List.Chain
import TableLayout.Json.Reader
import TableLayout.Proofs.Json.Layout

/-!
# Written values

A JSON text is the tokens of a tree. The reader finds the value of the tree again, whatever stands around the tokens.
-/

namespace TableLayout.Json

/-- The tree of a text; a string that spells no text is there without one. -/
inductive Written
  | null
  | bool (value : Bool)
  | number (literal : List Char) (h : IsNumber literal)
  | string (value : Option String)
  | array (items : List Written)
  | object (members : List (Option String × Written))

mutual

def Written.tokens : Written → List Token
  | .null => [.null]
  | .bool b => [.bool b]
  | .number literal _ => [.number literal]
  | .string value => [.string value]
  | .array [] => [.openBracket, .closeBracket]
  | .array (item :: items) => .openBracket :: (item.tokens ++ itemTokens items)
  | .object [] => [.openBrace, .closeBrace]
  | .object ((key, v) :: members) => .openBrace :: .string key :: .colon :: (v.tokens ++ memberTokens members)

/-- The further items of an array, and its end. -/
def itemTokens : List Written → List Token
  | [] => [.closeBracket]
  | item :: items => .comma :: (item.tokens ++ itemTokens items)

def memberTokens : List (Option String × Written) → List Token
  | [] => [.closeBrace]
  | (key, v) :: members => .comma :: .string key :: .colon :: (v.tokens ++ memberTokens members)

end

def objectOf (members : List (Option String × Json)) : Json :=
  match members.mapM fun (key, v) => key.map fun key => (key, v) with
  | some members => .object members
  | none => .garbled

mutual

def Written.value : Written → Json
  | .null => .null
  | .bool b => .bool b
  | .number literal _ => .number literal
  | .string (some s) => .string s
  | .string none => .garbled
  | .array items => .array (itemValues items)
  | .object members => objectOf (memberValues members)

def itemValues : List Written → List Json
  | [] => []
  | item :: items => item.value :: itemValues items

def memberValues : List (Option String × Written) → List (Option String × Json)
  | [] => []
  | (key, v) :: members => (key, v.value) :: memberValues members

end

/-! ## Reading -/

namespace Reader

theorem foldlM_firstItem (w : Written) (stack : List Frame) :
    w.tokens.foldlM step ⟨stack, .firstItem⟩ = w.tokens.foldlM step ⟨stack, .value⟩ := by
  match w with
  | .null | .bool _ | .number _ _ | .string _ | .array [] | .array (_ :: _) | .object [] | .object (_ :: _) =>
    simp only [Written.tokens, List.foldlM_cons]
    rfl

mutual

/-- The tokens of a value complete it. -/
theorem foldlM_tokens (w : Written) (stack : List Frame) :
    w.tokens.foldlM step ⟨stack, .value⟩ = complete w.value stack := by
  match w with
  | .null | .bool _ | .number _ _ | .string (some _) | .string none =>
    rw [Written.tokens, Written.value]
    exact bind_pure _
  | .array [] =>
    rw [Written.tokens, Written.value, itemValues]
    show complete (.array []) stack >>= pure = _
    exact bind_pure _
  | .object [] =>
    rw [Written.tokens, Written.value, memberValues]
    show complete (objectOf []) stack >>= pure = _
    exact bind_pure _
  | .array (item :: items) =>
    rw [Written.tokens, Written.value, itemValues]
    show (item.tokens ++ itemTokens items).foldlM step ⟨.array [] :: stack, .firstItem⟩ = _
    rw [List.foldlM_append, foldlM_firstItem, foldlM_tokens item]
    exact foldlM_itemTokens items [item.value] stack
  | .object ((key, v) :: members) =>
    rw [Written.tokens, Written.value, memberValues]
    show (v.tokens ++ memberTokens members).foldlM step ⟨.member [] key :: stack, .value⟩ = _
    rw [List.foldlM_append, foldlM_tokens v]
    exact foldlM_memberTokens members [(key, v.value)] stack

theorem foldlM_itemTokens (items : List Written) (done : List Json) (stack : List Frame) :
    (itemTokens items).foldlM step ⟨.array done :: stack, .separator⟩ =
      complete (.array (done.reverse ++ itemValues items)) stack := by
  match items with
  | [] =>
    rw [itemTokens, itemValues, List.append_nil]
    exact bind_pure _
  | item :: items =>
    rw [itemTokens, itemValues]
    show (item.tokens ++ itemTokens items).foldlM step ⟨.array done :: stack, .value⟩ = _
    rw [List.foldlM_append, foldlM_tokens item]
    show (itemTokens items).foldlM step ⟨.array (item.value :: done) :: stack, .separator⟩ = _
    rw [foldlM_itemTokens items, List.reverse_cons, List.append_assoc, List.singleton_append]

theorem foldlM_memberTokens (members : List (Option String × Written)) (done : List (Option String × Json))
    (stack : List Frame) :
    (memberTokens members).foldlM step ⟨.object done :: stack, .separator⟩ =
      complete (objectOf (done.reverse ++ memberValues members)) stack := by
  match members with
  | [] =>
    rw [memberTokens, memberValues, List.append_nil]
    exact bind_pure _
  | (key, v) :: members =>
    rw [memberTokens, memberValues]
    show (v.tokens ++ memberTokens members).foldlM step ⟨.member done key :: stack, .value⟩ = _
    rw [List.foldlM_append, foldlM_tokens v]
    show (memberTokens members).foldlM step ⟨.object ((key, v.value) :: done) :: stack, .separator⟩ = _
    rw [foldlM_memberTokens members, List.reverse_cons, List.append_assoc, List.singleton_append]

end

end Reader

theorem ofTokens_tokens (w : Written) : ofTokens w.tokens = some w.value := by
  unfold ofTokens Reader.start
  rw [Reader.foldlM_tokens]
  rfl

/-! ## Tokens of a value -/

section
variable {t : Token} {rest : List Token}

theorem apart_cons (ht : t.isLiteral = false) : Lexer.Apart (t :: rest) ↔ Lexer.Apart rest := by
  unfold Lexer.Apart
  rw [List.isChain_cons]
  simp [ht]

end

mutual

theorem apart_tokens (w : Written) {rest : List Token} (h : Lexer.Apart rest)
    (hrest : ∀ t ∈ rest.head?, t.isLiteral = false) : Lexer.Apart (w.tokens ++ rest) := by
  match w with
  | .null | .bool _ | .number _ _ | .string _ =>
    rw [Written.tokens]
    exact List.isChain_cons.mpr ⟨fun t ht _ => hrest t ht, h⟩
  | .array [] | .object [] =>
    rw [Written.tokens]
    exact (apart_cons rfl).mpr ((apart_cons rfl).mpr h)
  | .array (item :: items) =>
    rw [Written.tokens, List.cons_append, apart_cons rfl, List.append_assoc]
    exact apart_tokens item (apart_itemTokens items h) (by cases items <;> simp [itemTokens, Token.isLiteral])
  | .object ((key, v) :: members) =>
    rw [Written.tokens]
    simp only [List.cons_append, List.append_assoc]
    rw [apart_cons rfl, apart_cons rfl, apart_cons rfl]
    exact apart_tokens v (apart_memberTokens members h) (by cases members <;> simp [memberTokens, Token.isLiteral])

theorem apart_itemTokens (items : List Written) {rest : List Token} (h : Lexer.Apart rest) :
    Lexer.Apart (itemTokens items ++ rest) := by
  match items with
  | [] =>
    rw [itemTokens]
    exact (apart_cons rfl).mpr h
  | item :: items =>
    rw [itemTokens, List.cons_append, apart_cons rfl, List.append_assoc]
    exact apart_tokens item (apart_itemTokens items h) (by cases items <;> simp [itemTokens, Token.isLiteral])

theorem apart_memberTokens (members : List (Option String × Written)) {rest : List Token} (h : Lexer.Apart rest) :
    Lexer.Apart (memberTokens members ++ rest) := by
  match members with
  | [] =>
    rw [memberTokens]
    exact (apart_cons rfl).mpr h
  | (key, v) :: members =>
    rw [memberTokens]
    simp only [List.cons_append, List.append_assoc]
    rw [apart_cons rfl, apart_cons rfl, apart_cons rfl]
    exact apart_tokens v (apart_memberTokens members h) (by cases members <;> simp [memberTokens, Token.isLiteral])

end

mutual

theorem isNumber_of_mem_tokens (w : Written) {literal : List Char} (h : .number literal ∈ w.tokens) :
    IsNumber literal := by
  match w with
  | .number _ hnumber =>
    rw [Written.tokens, List.mem_singleton] at h
    cases h
    exact hnumber
  | .null | .bool _ | .string _ | .array [] | .object [] => simp [Written.tokens] at h
  | .array (item :: items) =>
    simp only [Written.tokens, List.mem_cons, List.mem_append, reduceCtorEq, false_or] at h
    exact h.elim (isNumber_of_mem_tokens item) (isNumber_of_mem_itemTokens items)
  | .object ((key, v) :: members) =>
    simp only [Written.tokens, List.mem_cons, List.mem_append, reduceCtorEq, false_or] at h
    exact h.elim (isNumber_of_mem_tokens v) (isNumber_of_mem_memberTokens members)

theorem isNumber_of_mem_itemTokens (items : List Written) {literal : List Char}
    (h : .number literal ∈ itemTokens items) : IsNumber literal := by
  match items with
  | [] => simp [itemTokens] at h
  | item :: items =>
    simp only [itemTokens, List.mem_cons, List.mem_append, reduceCtorEq, false_or] at h
    exact h.elim (isNumber_of_mem_tokens item) (isNumber_of_mem_itemTokens items)

theorem isNumber_of_mem_memberTokens (members : List (Option String × Written)) {literal : List Char}
    (h : .number literal ∈ memberTokens members) : IsNumber literal := by
  match members with
  | [] => simp [memberTokens] at h
  | (key, v) :: members =>
    simp only [memberTokens, List.mem_cons, List.mem_append, reduceCtorEq, false_or] at h
    exact h.elim (isNumber_of_mem_tokens v) (isNumber_of_mem_memberTokens members)

end

/-! ## Texts -/

/-- The text of a value, in any layout and with any spelling of its strings. -/
def IsText (text : String) (v : Json) : Prop := ∃ w : Written, w.value = v ∧ Layout w.tokens text.toList

theorem read_of_isText {text : String} {v : Json} (h : IsText text v) : read text.toUTF8 = some v := by
  obtain ⟨w, rfl, hlayout⟩ := h
  have hapart : Lexer.Apart w.tokens := by
    rw [← List.append_nil w.tokens]
    exact apart_tokens w .nil (by simp)
  have htokens := Token.read_layout hlayout hapart
  rw [String.ofList_toList] at htokens
  unfold read
  rw [htokens]
  exact ofTokens_tokens w

def Written.text (w : Written) : String := String.ofList (w.tokens.flatMap Token.word)

theorem isText_text (w : Written) : IsText w.text w.value := by
  refine ⟨w, rfl, ?_⟩
  rw [Written.text, String.toList_ofList]
  exact layout_words fun literal h => isNumber_of_mem_tokens w h

end TableLayout.Json
