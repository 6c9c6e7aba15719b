import Mathlib.Data.List.Forall2
import TableLayout.Json
import TableLayout.Json.Token
import TableLayout.Proofs.Text.ByteOrder

/-!
# The spellings of a string

A string is written in pieces. A character stands for itself unless it is a quote, a backslash or a control, and some
characters can be escaped by a letter; the digits of an escape give a code unit of sixteen bits. A string spells a text
unless a surrogate among its units lacks its other half.
-/

namespace TableLayout.Json

open Text
open String (utf8EncodeChar)

inductive Piece
  | char (c : Char)
  /-- A code unit of sixteen bits. -/
  | unit (code : Nat)

def letterEscapes : List (Char × Char) :=
  [('"', '"'), ('\\', '\\'), ('/', '/'), ('b', '\x08'), ('f', '\x0c'), ('n', '\n'), ('r', '\r'), ('t', '\t')]

inductive Piece.IsSpelled : Piece → List Char → Prop
  | plain {c : Char} (hquote : c ≠ '"') (hbackslash : c ≠ '\\') (hcontrol : 0x20 ≤ c.toNat) : IsSpelled (.char c) [c]
  | letter {letter c : Char} (h : (letter, c) ∈ letterEscapes) : IsSpelled (.char c) ['\\', letter]
  | unit {digits : List Char} {code : Nat} (hlength : digits.length = 4) (hcode : readBase 16 digits = some code) :
      IsSpelled (.unit code) ('\\' :: 'u' :: digits)

def isLeading (code : Nat) : Bool := 0xD800 ≤ code && code ≤ 0xDBFF

def isTrailing (code : Nat) : Bool := 0xDC00 ≤ code && code ≤ 0xDFFF

/-- The text of a string; a surrogate without its other half spoils it. -/
def text? : List Piece → Option (List Char)
  | [] => some []
  | .char c :: rest => (text? rest).map (c :: ·)
  | .unit code :: rest =>
    if isTrailing code then none
    else if isLeading code then
      match rest with
      | .unit low :: rest =>
        if isTrailing low then
          (text? rest).map (Char.ofNat (0x10000 + (code - 0xD800) * 0x400 + (low - 0xDC00)) :: ·)
        else none
      | _ => none
    else (text? rest).map (Char.ofNat code :: ·)

theorem text?_unit (code : Nat) (rest : List Piece) : text? (.unit code :: rest) =
    if isTrailing code then none
    else if isLeading code then
      match rest with
      | .unit low :: rest =>
        if isTrailing low then
          (text? rest).map (Char.ofNat (0x10000 + (code - 0xD800) * 0x400 + (low - 0xDC00)) :: ·)
        else none
      | _ => none
    else (text? rest).map (Char.ofNat code :: ·) := by
  rw [text?.eq_def]

/-! ## Bytes of a character -/

theorem mem_utf8EncodeChar {c : Char} {b : UInt8} (h : b ∈ utf8EncodeChar c) :
    b.toNat = c.toNat ∨ 128 ≤ b.toNat := by
  have hbyte : ∀ n, (UInt8.ofNat n).toNat = n % 256 := fun n => UInt8.toNat_ofNat'
  unfold utf8EncodeChar at h
  dsimp only at h
  split_ifs at h with hone htwo hthree
  · left
    rw [List.mem_singleton.mp h, hbyte]
    exact Nat.mod_eq_of_lt (by omega)
  all_goals
    right
    simp only [List.mem_cons, List.not_mem_nil, or_false] at h
  · rcases h with rfl | rfl <;> rw [hbyte] <;> omega
  · rcases h with rfl | rfl | rfl <;> rw [hbyte] <;> omega
  · rcases h with rfl | rfl | rfl | rfl <;> rw [hbyte] <;> omega

theorem utf8EncodeChar_ascii {c : Char} (h : c.toNat < 128) : utf8EncodeChar c = [UInt8.ofNat c.toNat] := by
  unfold utf8EncodeChar
  exact if_pos (Nat.le_of_lt_succ h)

/-! ## What has been read of a string -/

namespace Spelling

def add (s : Spelling) : Piece → Spelling
  | .char c => s.settle.pushCode c.toNat
  | .unit code => s.pushUnit code

def ofText (front : List Char) : Spelling := ⟨(String.ofList front).toUTF8, none, false⟩

def waiting (front : List Char) (high : Nat) : Spelling := { ofText front with leading := some high }

theorem pushUnit_eq (s : Spelling) (code : Nat) : s.pushUnit code =
    if isTrailing code then
      match s.leading with
      | some high => { s with leading := none }.pushCode (0x10000 + (high - 0xD800) * 0x400 + (code - 0xDC00))
      | none => { s with garbled := true }
    else if isLeading code then { s.settle with leading := some code }
    else s.settle.pushCode code := rfl

section
variable {s : Spelling} {front : List Char} {code : Nat}

theorem settle_garbled (h : s.garbled = true) : s.settle.garbled = true := by
  unfold settle
  split
  · rfl
  · exact h

theorem value_of_garbled (h : s.settle.garbled = true) : s.value = none := if_pos h

theorem value_ofText (front : List Char) : (ofText front).value = some (String.ofList front) := by
  show String.fromUTF8? (String.ofList front).toUTF8 = _
  exact fromUTF8?_eq_some.mpr rfl

theorem pushCode_ofText (front : List Char) (code : Nat) :
    (ofText front).pushCode code = ofText (front ++ [Char.ofNat code]) := by
  have hbytes : (String.ofList front).toUTF8 ++ (String.singleton (Char.ofNat code)).toUTF8 =
      (String.ofList (front ++ [Char.ofNat code])).toUTF8 := by
    rw [String.ofList_append]
    exact (String.toByteArray_append ..).symm
  unfold pushCode ofText
  rw [hbytes]

/-! ### One piece -/

theorem add_garbled (h : s.garbled = true) (p : Piece) : (s.add p).garbled = true := by
  cases p with
  | char c => exact settle_garbled h
  | unit code =>
    rw [add, pushUnit_eq]
    split
    · split
      · exact h
      · rfl
    · split
      · exact settle_garbled h
      · exact settle_garbled h

theorem add_char (front : List Char) (c : Char) : (ofText front).add (.char c) = ofText (front ++ [c]) := by
  rw [add]
  show (ofText front).pushCode c.toNat = _
  rw [pushCode_ofText, Char.ofNat_toNat]

theorem add_trailing (h : isTrailing code = true) (front : List Char) :
    ((ofText front).add (.unit code)).garbled = true := by
  rw [add, pushUnit_eq, if_pos h]
  rfl

theorem add_leading (htrailing : ¬isTrailing code = true) (h : isLeading code = true) (front : List Char) :
    (ofText front).add (.unit code) = waiting front code := by
  rw [add, pushUnit_eq, if_neg htrailing, if_pos h]
  rfl

theorem add_unit (htrailing : ¬isTrailing code = true) (hleading : ¬isLeading code = true) (front : List Char) :
    (ofText front).add (.unit code) = ofText (front ++ [Char.ofNat code]) := by
  rw [add, pushUnit_eq, if_neg htrailing, if_neg hleading]
  exact pushCode_ofText front code

theorem add_pair {low : Nat} (h : isTrailing low = true) (front : List Char) (high : Nat) :
    (waiting front high).add (.unit low) =
      ofText (front ++ [Char.ofNat (0x10000 + (high - 0xD800) * 0x400 + (low - 0xDC00))]) := by
  rw [add, pushUnit_eq, if_pos h]
  exact pushCode_ofText front _

theorem add_waiting {p : Piece} (h : ∀ low, p = .unit low → ¬isTrailing low = true) (front : List Char) (high : Nat) :
    ((waiting front high).add p).garbled = true := by
  cases p with
  | char c => rfl
  | unit low =>
    rw [add, pushUnit_eq, if_neg (h low rfl)]
    split <;> rfl

/-! ### All pieces -/

theorem value_foldl_of_garbled (h : s.garbled = true) (pieces : List Piece) : (pieces.foldl add s).value = none := by
  induction pieces generalizing s with
  | nil => exact value_of_garbled (settle_garbled h)
  | cons p pieces ih => exact ih (add_garbled h p)

/-- The reader finds the text that pieces spell. -/
theorem value_foldl_add (front : List Char) (pieces : List Piece) :
    (pieces.foldl add (ofText front)).value = (text? pieces).map fun rest => String.ofList (front ++ rest) := by
  -- a surrogate pair takes two pieces at once, so the induction follows the text
  induction pieces using text?.induct generalizing front with
  | case1 => simp [value_ofText, text?]
  | case2 c rest ih =>
    rw [List.foldl_cons, add_char, ih, text?]
    simp [Function.comp_def]
  | case3 code rest htrailing =>
    rw [text?_unit, if_pos htrailing]
    exact value_foldl_of_garbled (add_trailing htrailing front) rest
  | case4 code htrailing hleading low rest hlow ih =>
    rw [text?_unit, if_neg htrailing, if_pos hleading]
    dsimp only
    rw [if_pos hlow, List.foldl_cons, add_leading htrailing hleading, List.foldl_cons, add_pair hlow, ih]
    simp [Function.comp_def]
  | case5 code htrailing hleading low rest hlow =>
    have hspoilt : ((waiting front code).add (.unit low)).garbled = true := by
      apply add_waiting
      rintro low' ⟨⟩
      exact hlow
    rw [text?_unit, if_neg htrailing, if_pos hleading]
    dsimp only
    rw [if_neg hlow, List.foldl_cons, add_leading htrailing hleading]
    exact value_foldl_of_garbled hspoilt rest
  | case6 code rest htrailing hleading hnext =>
    rw [text?_unit, if_neg htrailing, if_pos hleading, List.foldl_cons, add_leading htrailing hleading]
    cases rest with
    | nil => exact value_of_garbled rfl
    | cons p rest =>
      cases p with
      | char c => exact value_foldl_of_garbled (add_waiting (by simp) front code) rest
      | unit low => exact absurd rfl (hnext low rest)
  | case7 code rest htrailing hleading ih =>
    rw [text?_unit, if_neg htrailing, if_neg hleading, List.foldl_cons, add_unit htrailing hleading, ih]
    simp [Function.comp_def]

/-! ### Bytes of a piece -/

theorem settle_of_none (h : s.leading = none) : s.settle = s := if_neg (by simp [h])

theorem settle_leading (s : Spelling) : s.settle.leading = none := by
  unfold settle
  split
  · rfl
  · next h => simpa using h

theorem foldl_pushByte_of_none (h : s.leading = none) (bytes : List UInt8) :
    bytes.foldl pushByte s = { s with bytes := s.bytes ++ ⟨bytes.toArray⟩ } := by
  induction bytes generalizing s with
  | nil =>
    show s = { s with bytes := s.bytes ++ ByteArray.empty }
    rw [ByteArray.append_empty]
  | cons b bytes ih =>
    have hpush : s.pushByte b = { s with bytes := s.bytes.push b } := by
      unfold pushByte
      rw [settle_of_none h]
    have hbytes : s.bytes.push b ++ ⟨bytes.toArray⟩ = s.bytes ++ ⟨(b :: bytes).toArray⟩ := by
      apply ByteArray.ext
      simp
    rw [List.foldl_cons, hpush, ih (s := { s with bytes := s.bytes.push b }) h, hbytes]

theorem foldl_pushByte_char (s : Spelling) (c : Char) : (utf8EncodeChar c).foldl pushByte s = s.add (.char c) := by
  obtain ⟨b, bytes, hc⟩ := List.exists_cons_of_ne_nil (String.utf8EncodeChar_ne_nil (c := c))
  have hchar : (String.singleton (Char.ofNat c.toNat)).toUTF8 = ⟨(b :: bytes).toArray⟩ := by
    have hbytes : bytesOf (String.singleton c) = utf8EncodeChar c := by
      rw [bytesOf_eq]
      simp
    rw [Char.ofNat_toNat, ← hc, ← hbytes]
    rfl
  -- only the first byte can find a surrogate that waits
  have hfirst : s.pushByte b = s.settle.pushByte b := by
    unfold pushByte
    rw [settle_of_none (settle_leading s)]
  rw [hc, List.foldl_cons, hfirst, ← List.foldl_cons, foldl_pushByte_of_none (settle_leading s), add, pushCode, hchar]

end

end Spelling

/-! ## Reading a string -/

namespace Lexer
variable {s : Spelling} {found : List Token}

def run (l : Lexer) (s : List Char) : Option Lexer := (s.flatMap utf8EncodeChar).foldlM step l

theorem run_append (l : Lexer) (s t : List Char) : l.run (s ++ t) = (l.run s).bind (run · t) := by
  unfold run
  rw [List.flatMap_append, List.foldlM_append]
  rfl

theorem run_cons (l : Lexer) (c : Char) (s : List Char) : l.run (c :: s) = (l.run [c]).bind (run · s) :=
  run_append l [c] s

theorem foldlM_plain {bytes : List UInt8} (h : ∀ b ∈ bytes, b ≠ 0x22 ∧ b ≠ 0x5C ∧ ¬b < 0x20) :
    bytes.foldlM step ⟨.string s, found⟩ = some ⟨.string (bytes.foldl Spelling.pushByte s), found⟩ := by
  induction bytes generalizing s with
  | nil => rfl
  | cons b bytes ih =>
    obtain ⟨hquote, hbackslash, hcontrol⟩ := h b List.mem_cons_self
    have hstep : step ⟨.string s, found⟩ b = some ⟨.string (s.pushByte b), found⟩ := by
      show stepString _ s b = _
      unfold stepString
      rw [if_neg hquote, if_neg hbackslash, if_neg hcontrol]
    rw [List.foldlM_cons, hstep]
    exact ih fun b hb => h b (List.mem_cons_of_mem _ hb)

theorem run_plain {c : Char} (hquote : c ≠ '"') (hbackslash : c ≠ '\\') (hcontrol : 0x20 ≤ c.toNat) :
    run ⟨.string s, found⟩ [c] = some ⟨.string (s.add (.char c)), found⟩ := by
  unfold run
  rw [List.flatMap_singleton, ← Spelling.foldl_pushByte_char]
  have hcode : ∀ d : Char, c ≠ d → c.toNat ≠ d.toNat := fun d hd h => hd (Char.toNat_inj.mp h)
  have hquote' : c.toNat ≠ 0x22 := hcode '"' hquote
  have hbackslash' : c.toNat ≠ 0x5C := hcode '\\' hbackslash
  apply foldlM_plain
  intro b hb
  have hbyte := mem_utf8EncodeChar hb
  refine ⟨?_, ?_, ?_⟩
  · rintro rfl
    simp at hbyte
    omega
  · rintro rfl
    simp at hbyte
    omega
  · rw [UInt8.lt_iff_toNat_lt]
    simp
    omega

theorem run_letter {letter c : Char} (h : (letter, c) ∈ letterEscapes) :
    run ⟨.string s, found⟩ ['\\', letter] = some ⟨.string (s.add (.char c)), found⟩ := by
  simp only [letterEscapes, List.mem_cons, Prod.mk.injEq, List.not_mem_nil, or_false] at h
  rcases h with ⟨rfl, rfl⟩ | ⟨rfl, rfl⟩ | ⟨rfl, rfl⟩ | ⟨rfl, rfl⟩ | ⟨rfl, rfl⟩ | ⟨rfl, rfl⟩ | ⟨rfl, rfl⟩ |
    ⟨rfl, rfl⟩ <;> rfl

theorem run_ascii {c : Char} (h : c.toNat < 128) (l : Lexer) : run l [c] = l.step (UInt8.ofNat c.toNat) := by
  unfold run
  rw [List.flatMap_singleton, utf8EncodeChar_ascii h, List.foldlM_cons]
  exact bind_pure _

theorem toChar_of_ascii {c : Char} (h : c.toNat < 128) : Char.ofNat (UInt8.ofNat c.toNat).toNat = c := by
  rw [UInt8.toNat_ofNat', Nat.mod_eq_of_lt (by omega), Char.ofNat_toNat]

theorem ascii_of_hexValue? {c : Char} {d : Nat} (h : hexValue? c = some d) : c.toNat < 128 := by
  unfold hexValue? at h
  split_ifs at h with hdigit hlower hupper
  · exact Nat.lt_of_le_of_lt (of_decide_eq_true ((Bool.and_eq_true _ _).mp hdigit).2) (by decide)
  · exact Nat.lt_of_le_of_lt (of_decide_eq_true ((Bool.and_eq_true _ _).mp hlower).2) (by decide)
  · exact Nat.lt_of_le_of_lt (of_decide_eq_true ((Bool.and_eq_true _ _).mp hupper).2) (by decide)

theorem run_digit {c : Char} {d : Nat} (h : hexValue? c = some d) (n value : Nat) :
    run ⟨.unit s n value, found⟩ [c] =
      some ⟨if n ≤ 1 then .string (s.pushUnit (16 * value + d)) else .unit s (n - 1) (16 * value + d), found⟩ := by
  rw [run_ascii (ascii_of_hexValue? h)]
  show stepUnit _ s n value (Char.ofNat _) = _
  rw [toChar_of_ascii (ascii_of_hexValue? h)]
  unfold stepUnit
  rw [h]
  show (if n ≤ 1 then _ else _) = _
  split <;> rfl

theorem run_digits {digits : List Char} (hne : digits ≠ []) {value code : Nat}
    (h : digits.foldlM (fun n c => do
      let d ← hexValue? c
      if d < 16 then some (16 * n + d) else none) value = some code) :
    run ⟨.unit s digits.length value, found⟩ digits = some ⟨.string (s.pushUnit code), found⟩ := by
  induction digits generalizing value with
  | nil => exact absurd rfl hne
  | cons c digits ih =>
    rw [List.foldlM_cons] at h
    obtain ⟨value', hvalue, hrest⟩ := Option.bind_eq_some_iff.mp h
    obtain ⟨d, hd, hvalue⟩ := Option.bind_eq_some_iff.mp hvalue
    have hvalue : 16 * value + d = value' := by
      split at hvalue
      · exact Option.some.inj hvalue
      · cases hvalue
    rw [run_cons, run_digit hd, Option.bind_some, hvalue]
    by_cases hend : digits = []
    · subst hend
      cases hrest
      rfl
    · have hlength : ¬(c :: digits).length ≤ 1 := by
        have := List.length_pos_iff.mpr hend
        simp
        omega
      rw [if_neg hlength]
      exact ih hend hrest

theorem run_unit {digits : List Char} {code : Nat} (hlength : digits.length = 4) (h : readBase 16 digits = some code) :
    run ⟨.string s, found⟩ ('\\' :: 'u' :: digits) = some ⟨.string (s.add (.unit code)), found⟩ := by
  have hne : digits ≠ [] := by
    rintro rfl
    cases hlength
  have hopen : run ⟨.string s, found⟩ ['\\', 'u'] = some ⟨.unit s digits.length 0, found⟩ := by
    rw [hlength]
    rfl
  have hsplit : '\\' :: 'u' :: digits = ['\\', 'u'] ++ digits := rfl
  rw [hsplit, run_append, hopen, Option.bind_some]
  exact run_digits hne h

theorem run_piece {p : Piece} {word : List Char} (h : p.IsSpelled word) :
    run ⟨.string s, found⟩ word = some ⟨.string (s.add p), found⟩ := by
  cases h with
  | plain hquote hbackslash hcontrol => exact run_plain hquote hbackslash hcontrol
  | letter h => exact run_letter h
  | unit hlength hcode => exact run_unit hlength hcode

theorem run_pieces {pieces : List Piece} {words : List (List Char)} (h : List.Forall₂ Piece.IsSpelled pieces words) :
    run ⟨.string s, found⟩ words.flatten = some ⟨.string (pieces.foldl Spelling.add s), found⟩ := by
  induction h generalizing s with
  | nil => rfl
  | cons hp _ ih => rw [List.flatten_cons, run_append, run_piece hp, Option.bind_some, ih, List.foldl_cons]

/-- A string in quotes is read as the text that its pieces spell. -/
theorem run_quoted {pieces : List Piece} {words : List (List Char)}
    (h : List.Forall₂ Piece.IsSpelled pieces words) :
    run ⟨.between, found⟩ ('"' :: words.flatten ++ ['"']) =
      some ⟨.between, .string ((text? pieces).map String.ofList) :: found⟩ := by
  have hopen : run ⟨.between, found⟩ ['"'] = some ⟨.string (.ofText []), found⟩ := rfl
  have hclose : ∀ s, run ⟨.string s, found⟩ ['"'] = some ⟨.between, .string s.value :: found⟩ := fun _ => rfl
  rw [List.cons_append, run_cons, hopen, Option.bind_some, run_append, run_pieces h, Option.bind_some, hclose,
    Spelling.value_foldl_add]
  rfl

end Lexer

/-! ## Quoting -/

theorem readBase_control : ∀ n < 0x20,
    readBase 16 ['0', '0', Nat.digitChar (n / 16), Nat.digitChar (n % 16)] = some n := by
  decide

theorem exists_piece (c : Char) :
    ∃ p : Piece, p.IsSpelled (escapeChar c) ∧ ∀ rest, text? (p :: rest) = (text? rest).map (c :: ·) := by
  have hchar : ∀ c rest, text? (.char c :: rest) = (text? rest).map (c :: ·) := fun _ _ => by rw [text?]
  unfold escapeChar
  split
  case h_8 hquote hbackslash _ _ _ _ _ =>
    split
    · next hcontrol =>
      refine ⟨.unit c.toNat, .unit rfl (readBase_control _ hcontrol), fun rest => ?_⟩
      have htrailing : ¬isTrailing c.toNat = true := by
        simp [isTrailing]
        omega
      have hleading : ¬isLeading c.toNat = true := by
        simp [isLeading]
        omega
      rw [text?_unit, if_neg htrailing, if_neg hleading, Char.ofNat_toNat]
    · next hcontrol => exact ⟨.char c, .plain hquote hbackslash (by omega), hchar c⟩
  all_goals exact ⟨.char _, .letter (by decide), hchar _⟩

/-- Every text has a spelling, the one that is written for it. -/
theorem exists_pieces (s : List Char) : ∃ pieces words, List.Forall₂ Piece.IsSpelled pieces words ∧
    words.flatten = s.flatMap escapeChar ∧ text? pieces = some s := by
  induction s with
  | nil => exact ⟨[], [], .nil, rfl, rfl⟩
  | cons c s ih =>
    obtain ⟨pieces, words, hspelled, hwords, htext⟩ := ih
    obtain ⟨p, hp, hfirst⟩ := exists_piece c
    refine ⟨p :: pieces, escapeChar c :: words, .cons hp hspelled, ?_, ?_⟩
    · rw [List.flatten_cons, hwords, List.flatMap_cons]
    · rw [hfirst, htext, Option.map_some]

end TableLayout.Json
