import Nexolab.PythonValues

/-!
# Strict UTF-8 decoding

`bytes.decode("utf-8")` reads one byte at a time.  Between two characters there
is nothing pending; within a character the decoder knows how many bytes are
still needed and in which range the next one lies.  The errors carry the range
of bytes and the reason that `UnicodeDecodeError` reports.
-/

namespace Nexolab

abbrev Bytes := List UInt8

structure UnicodeDecodeError where
  (firstByte start stop : ℕ)
  reason : String

def hexDigit (value : ℕ) : Char :=
  ("0123456789abcdef".toList).getD value '0'

def UnicodeDecodeError.text (error : UnicodeDecodeError) : String :=
  if error.stop = error.start + 1 then
    "'utf-8' codec can't decode byte 0x" ++
      String.ofList [hexDigit (error.firstByte / 16), hexDigit (error.firstByte % 16)] ++
      " in position " ++ toString error.start ++ ": " ++ error.reason
  else
    "'utf-8' codec can't decode bytes in position " ++ toString error.start ++
      "-" ++ toString (error.stop - 1) ++ ": " ++ error.reason

structure PendingCharacter where
  (firstByte start needed low high value : ℕ)

def beginCharacter (position byte : ℕ) : Option PendingCharacter :=
  if 0xC2 ≤ byte ∧ byte ≤ 0xDF then
    some ⟨byte, position, 1, 0x80, 0xBF, byte - 0xC0⟩
  else if byte = 0xE0 then some ⟨byte, position, 2, 0xA0, 0xBF, 0⟩
  else if byte = 0xED then some ⟨byte, position, 2, 0x80, 0x9F, 0x0D⟩
  else if 0xE1 ≤ byte ∧ byte ≤ 0xEF then
    some ⟨byte, position, 2, 0x80, 0xBF, byte - 0xE0⟩
  else if byte = 0xF0 then some ⟨byte, position, 3, 0x90, 0xBF, 0⟩
  else if byte = 0xF4 then some ⟨byte, position, 3, 0x80, 0x8F, 4⟩
  else if 0xF1 ≤ byte ∧ byte ≤ 0xF3 then
    some ⟨byte, position, 3, 0x80, 0xBF, byte - 0xF0⟩
  else none

def decodeUtf8From (position : ℕ) (pending : Option PendingCharacter) :
    Bytes → Except UnicodeDecodeError CodePoints
  | [] =>
    match pending with
    | none => .ok []
    | some character => .error ⟨character.firstByte, character.start, position,
        "unexpected end of data"⟩
  | byte :: rest =>
    match pending with
    | none =>
      if byte.toNat < 0x80 then
        (decodeUtf8From (position + 1) none rest).map (byte.toNat :: ·)
      else
        match beginCharacter position byte.toNat with
        | none => .error ⟨byte.toNat, position, position + 1, "invalid start byte"⟩
        | some character =>
          decodeUtf8From (position + 1) (some character) rest
    | some character =>
      if character.low ≤ byte.toNat ∧ byte.toNat ≤ character.high then
        let value := character.value * 64 + (byte.toNat - 0x80)
        if character.needed = 1 then
          (decodeUtf8From (position + 1) none rest).map (value :: ·)
        else
          decodeUtf8From (position + 1) (some { character with
              needed := character.needed - 1
              low := 0x80
              high := 0xBF
              value := value }) rest
      else .error ⟨character.firstByte, character.start, position,
        "invalid continuation byte"⟩

def decodeUtf8 (bytes : Bytes) : Except UnicodeDecodeError CodePoints :=
  decodeUtf8From 0 none bytes

theorem decodeUtf8From_ascii {bytes : Bytes}
    (hascii : ∀ byte ∈ bytes, byte.toNat < 0x80) (position : ℕ) :
    decodeUtf8From position none bytes = .ok (bytes.map UInt8.toNat) := by
  induction bytes generalizing position with
  | nil => rfl
  | cons byte rest ih =>
    have hrest := ih (fun other hother =>
      hascii other (List.mem_cons_of_mem _ hother)) (position + 1)
    have hbyte := hascii byte List.mem_cons_self
    simp [decodeUtf8From, hbyte, hrest, Except.map]

example : decodeUtf8 [0xE2, 0x82, 0xAC, 0x21] = .ok [0x20AC, 0x21] := by rfl

end Nexolab
