/-!
# Reading bytes as UTF-8

Core decides which byte sequences are well-formed; for the others the fault is located: where the first
ill-formed sequence starts, and how many of its bytes could not go on to a character.
-/

namespace TableLayout.Text

/-- The first ill-formed sequence of a byte string. -/
structure Utf8Fault where
  index : Nat
  /-- The number of bytes that belong together; none when the text ends too early. -/
  length : Option Nat
deriving DecidableEq, Repr

/-- The byte count of a sequence that starts with `b`, and what its second byte may be. -/
def sequenceShape (b : UInt8) : Option (Nat × UInt8 × UInt8) :=
  if b < 0x80 then some (1, 0, 0)
  else if b < 0xC2 then none
  else if b < 0xE0 then some (2, 0x80, 0xBF)
  else if b = 0xE0 then some (3, 0xA0, 0xBF)
  else if b = 0xED then some (3, 0x80, 0x9F)
  else if b < 0xF0 then some (3, 0x80, 0xBF)
  else if b = 0xF0 then some (4, 0x90, 0xBF)
  else if b < 0xF4 then some (4, 0x80, 0xBF)
  else if b = 0xF4 then some (4, 0x80, 0x8F)
  else none

/-- How far a sequence of `size` bytes is well-formed: all of it, up to a wrong byte, or up to the end. -/
inductive Extent
  | whole
  | broken (good : Nat)
  | cut

def isContinuation (b : UInt8) : Bool := 0x80 ≤ b && b ≤ 0xBF

/-- Looks at the bytes after the first two. -/
def tailExtent : (size good : Nat) → List UInt8 → Extent
  | 0, _, _ => .whole
  | _ + 1, _, [] => .cut
  | n + 1, good, b :: rest => if isContinuation b then tailExtent n (good + 1) rest else .broken good

def extent (size : Nat) (lo hi : UInt8) : List UInt8 → Extent
  | [] => if size ≤ 1 then .whole else .cut
  | b :: rest =>
    if size ≤ 1 then .whole
    else if lo ≤ b && b ≤ hi then tailExtent (size - 2) 2 rest
    else .broken 1

/-- Finds the first fault of an ill-formed text, passing over the `skip` bytes of the sequence before. -/
def Utf8Fault.locate (index skip : Nat) : List UInt8 → Utf8Fault
  | [] => ⟨index, none⟩
  | b :: rest =>
    match skip with
    | skip + 1 => locate (index + 1) skip rest
    | 0 =>
      match sequenceShape b with
      | none => ⟨index, some 1⟩
      | some (size, lo, hi) =>
        match extent size lo hi rest with
        | .whole => locate (index + 1) (size - 1) rest
        | .broken good => ⟨index, some good⟩
        | .cut => ⟨index, none⟩

def Utf8Fault.message (f : Utf8Fault) : String :=
  match f.length with
  | some n => s!"invalid utf-8 sequence of {n} bytes from index {f.index}"
  | none => s!"incomplete utf-8 byte sequence from index {f.index}"

def decodeUtf8 (bytes : ByteArray) : Except Utf8Fault String :=
  match String.fromUTF8? bytes with
  | some text => .ok text
  | none => .error (Utf8Fault.locate 0 0 bytes.toList)

/-- The characters that the bytes encode, with one replacement character for every ill-formed sequence. -/
def decodeLossy (fuel : Nat) (bytes : List UInt8) : String :=
  match fuel with
  | 0 => ""
  | fuel + 1 =>
    match decodeUtf8 ⟨bytes.toArray⟩ with
    | .ok text => text
    | .error fault =>
      let before := (String.fromUTF8? ⟨(bytes.take fault.index).toArray⟩).getD ""
      let after := match fault.length with
        | some n => decodeLossy fuel (bytes.drop (fault.index + n))
        | none => ""
      before ++ "\uFFFD" ++ after

/-- What can be shown of bytes that should be text. -/
def lossyText (bytes : List UInt8) : String := decodeLossy (bytes.length + 1) bytes

end TableLayout.Text
