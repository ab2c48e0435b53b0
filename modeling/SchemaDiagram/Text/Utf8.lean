import SchemaDiagram.Text.Quoted

/-! Texts as bytes in UTF-8: one to four bytes a character, and where this goes wrong. -/
namespace SchemaDiagram.Utf8

/-- What is wrong with some bytes. -/
inductive Flaw where
  | invalidStart
  | invalidContinuation
  | unexpectedEnd
deriving DecidableEq

/-- The first bytes that cannot be read: where they start, the first of them and their number. -/
structure Fault where
  position : Nat
  byte : UInt8
  count : Nat
  flaw : Flaw
deriving DecidableEq

def Flaw.text : Flaw → String
  | .invalidStart => "invalid start byte"
  | .invalidContinuation => "invalid continuation byte"
  | .unexpectedEnd => "unexpected end of data"

def Fault.message (f : Fault) : Text :=
  "'utf-8' codec can't decode ".toList
    ++ (if f.count = 1 then
          "byte 0x".toList ++ Text.hex 2 f.byte.toNat ++ " in position ".toList
            ++ Text.ofNat f.position
        else
          "bytes in position ".toList ++ Text.ofNat f.position ++ ['-']
            ++ Text.ofNat (f.position + f.count - 1))
    ++ ": ".toList ++ f.flaw.text.toList

def encode (t : Text) : List UInt8 := t.flatMap String.utf8EncodeChar

/-- What a first byte stands for: its share of the character, the number of bytes that follow,
and the bounds of the next one. -/
def lead? (b : Nat) : Option (Nat × Nat × Nat × Nat) :=
  if b < 0x80 then some (b, 0, 0x80, 0xBF)
  else if b < 0xC2 then none
  else if b < 0xE0 then some (b - 0xC0, 1, 0x80, 0xBF)
  else if b < 0xF0 then
    some (b - 0xE0, 2, if b = 0xE0 then 0xA0 else 0x80, if b = 0xED then 0x9F else 0xBF)
  else if b < 0xF5 then
    some (b - 0xF0, 3, if b = 0xF0 then 0x90 else 0x80, if b = 0xF4 then 0x8F else 0xBF)
  else none

/-- The character of which a part is read, or how many bytes were good and what is wrong then. -/
def finish (part low high good : Nat) : Nat → List UInt8 → Except (Nat × Flaw) Char
  | 0, _ => .ok (Char.ofNat part)
  | _ + 1, [] => .error (good, .unexpectedEnd)
  | n + 1, b :: bs =>
    if low ≤ b.toNat ∧ b.toNat ≤ high then
      finish (part * 64 + (b.toNat - 0x80)) 0x80 0xBF (good + 1) n bs
    else .error (good, .invalidContinuation)

/-- The characters of bytes that follow `position` others; `skip` of them are read already. -/
def decodeFrom (position : Nat) : Nat → List UInt8 → Except Fault Text
  | _, [] => .ok []
  | skip + 1, _ :: bs => decodeFrom (position + 1) skip bs
  | 0, b :: bs =>
    match lead? b.toNat with
    | none => .error ⟨position, b, 1, .invalidStart⟩
    | some (part, count, low, high) =>
      match finish part low high 1 count bs with
      | .ok c => (decodeFrom (position + 1) count bs).map (c :: ·)
      | .error (good, flaw) => .error ⟨position, b, good, flaw⟩

def decode (bytes : List UInt8) : Except Fault Text := decodeFrom 0 0 bytes

end SchemaDiagram.Utf8
