import Linewise.Text.Quoted

/-!
Text from bytes in UTF-8, with the place and the reason of the first byte that does not fit, and
back.
-/

namespace Linewise.Utf8

inductive Reason
  | invalidStart
  | invalidContinuation
  | endOfData
deriving DecidableEq, Repr

def Reason.message : Reason → Text
  | .invalidStart => "invalid start byte".toList
  | .invalidContinuation => "invalid continuation byte".toList
  | .endOfData => "unexpected end of data".toList

/-- The bytes that cannot be decoded: the first of them, its position, and their number. -/
structure Failure where
  byte : UInt8
  position : Nat
  count : Nat
  reason : Reason
deriving DecidableEq, Repr

def Failure.message (failure : Failure) : Text :=
  "'utf-8' codec can't decode ".toList
    ++ (if failure.count = 1 then
          "byte 0x".toList ++ Text.hex 2 failure.byte.toNat ++ " in position ".toList
            ++ Text.ofNat failure.position
        else
          "bytes in position ".toList ++ Text.ofNat failure.position ++ ['-']
            ++ Text.ofNat (failure.position + failure.count - 1))
    ++ ": ".toList ++ failure.reason.message

/-- The bytes of a sequence after its first: how many, and the range of the first of them. Bytes
that begin no sequence have none. -/
structure Lead where
  bits : Nat
  following : Nat
  least : Nat
  greatest : Nat

def lead? (byte : Nat) : Option Lead :=
  if byte < 0x80 then some ⟨byte, 0, 0, 0⟩
  else if byte < 0xC2 then none
  else if byte < 0xE0 then some ⟨byte - 0xC0, 1, 0x80, 0xBF⟩
  else if byte = 0xE0 then some ⟨0, 2, 0xA0, 0xBF⟩
  else if byte = 0xED then some ⟨0xD, 2, 0x80, 0x9F⟩
  else if byte < 0xF0 then some ⟨byte - 0xE0, 2, 0x80, 0xBF⟩
  else if byte = 0xF0 then some ⟨0, 3, 0x90, 0xBF⟩
  else if byte < 0xF4 then some ⟨byte - 0xF0, 3, 0x80, 0xBF⟩
  else if byte = 0xF4 then some ⟨4, 3, 0x80, 0x8F⟩
  else none

/-- Read `missing` more bytes of a sequence, of which `used` were read. Returns the code point and
the number of all bytes, or the number of good bytes before the first bad one and the reason. -/
private def sequenceFrom (code used : Nat) (least greatest : Nat) :
    Nat → List UInt8 → Except (Nat × Reason) (Nat × Nat)
  | 0, _ => .ok (code, used)
  | _ + 1, [] => .error (used, .endOfData)
  | missing + 1, byte :: rest =>
      if least ≤ byte.toNat ∧ byte.toNat ≤ greatest then
        sequenceFrom (64 * code + (byte.toNat - 0x80)) (used + 1) 0x80 0xBF missing rest
      else .error (used, .invalidContinuation)

/-- Decode bytes of which the first `skipped` are already used, and the first has the given
position. -/
private def decodeFrom (position : Nat) : Nat → List UInt8 → Except Failure Text
  | _, [] => .ok []
  | skipped + 1, _ :: rest => decodeFrom (position + 1) skipped rest
  | 0, byte :: rest =>
      match lead? byte.toNat with
      | none => .error ⟨byte, position, 1, .invalidStart⟩
      | some lead =>
          match sequenceFrom lead.bits 1 lead.least lead.greatest lead.following rest with
          | .error (count, reason) => .error ⟨byte, position, count, reason⟩
          | .ok (code, used) => do
              return Char.ofNat code :: (← decodeFrom (position + 1) (used - 1) rest)

def decode (bytes : List UInt8) : Except Failure Text := decodeFrom 0 0 bytes

def encodeChar (char : Char) : List UInt8 :=
  let code := char.toNat
  let continuation (shift : Nat) : UInt8 := UInt8.ofNat (0x80 + code / Nat.pow 2 shift % 64)
  if code < 0x80 then [UInt8.ofNat code]
  else if code < 0x800 then [UInt8.ofNat (0xC0 + code / 64), continuation 0]
  else if code < 0x10000 then
    [UInt8.ofNat (0xE0 + code / 4096), continuation 6, continuation 0]
  else [UInt8.ofNat (0xF0 + code / 262144), continuation 12, continuation 6, continuation 0]

def encode (text : Text) : List UInt8 := text.flatMap encodeChar

example : (decode (encode "aé日😀".toList)).toOption = some "aé日😀".toList := by decide

example : decode [0x61, 0xC3] = .error ⟨0xC3, 1, 1, .endOfData⟩ := rfl

end Linewise.Utf8
