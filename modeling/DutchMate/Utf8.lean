/-
# UTF-8 decoding

The decoder behind `bytes.decode("utf-8", errors="replace")`: every maximal
ill-formed prefix becomes one U+FFFD, and decoding goes on at the byte after it.
The strict decoder refuses such bytes instead.
The encoder is core's `String.utf8EncodeChar`, letter by letter.
-/
import Mathlib.Data.List.Basic
import Mathlib.Tactic.Common

namespace Utf8

/-- Bytes of a string in UTF-8, as `str.encode("utf-8")` gives them. -/
def encode (s : String) : List UInt8 := s.toList.flatMap String.utf8EncodeChar

/-- The replacement character U+FFFD. -/
def replacement : Char := Char.ofNat 0xFFFD

/-- Whether a byte continues a multi-byte sequence. -/
def isContinuation (b : UInt8) : Bool := 0x80 ≤ b && b ≤ 0xBF

/-- The range the second byte must lie in after a given lead byte. -/
def secondInRange (lead b : UInt8) : Bool :=
  if lead = 0xE0 then 0xA0 ≤ b && b ≤ 0xBF
  else if lead = 0xED then 0x80 ≤ b && b ≤ 0x9F
  else if lead = 0xF0 then 0x90 ≤ b && b ≤ 0xBF
  else if lead = 0xF4 then 0x80 ≤ b && b ≤ 0x8F
  else isContinuation b

/-- Number of continuation bytes a lead byte announces; `none` for a byte that
cannot lead. -/
def continuationCount (lead : UInt8) : Option ℕ :=
  if lead < 0x80 then some 0
  else if 0xC2 ≤ lead && lead ≤ 0xDF then some 1
  else if 0xE0 ≤ lead && lead ≤ 0xEF then some 2
  else if 0xF0 ≤ lead && lead ≤ 0xF4 then some 3
  else none

/-- The scalar built from a lead byte's payload bits and the continuation bytes. -/
def scalar2 (b0 b1 : UInt8) : Char := Char.ofNat ((b0.toNat % 32) * 64 + b1.toNat % 64)

/-- Three-byte form of `scalar2`. -/
def scalar3 (b0 b1 b2 : UInt8) : Char :=
  Char.ofNat (((b0.toNat % 16) * 64 + b1.toNat % 64) * 64 + b2.toNat % 64)

/-- Four-byte form of `scalar2`. -/
def scalar4 (b0 b1 b2 b3 : UInt8) : Char :=
  Char.ofNat ((((b0.toNat % 8) * 64 + b1.toNat % 64) * 64 + b2.toNat % 64) * 64 + b3.toNat % 64)

/-- Decode with replacement.  Each branch consumes the longest well-formed prefix
of a sequence and replaces it when the sequence stops short. -/
def decodeReplace : List UInt8 → List Char
  | [] => []
  | b0 :: rest =>
    match continuationCount b0 with
    | some 0 => Char.ofNat b0.toNat :: decodeReplace rest
    | none => replacement :: decodeReplace rest
    | some need =>
      match rest with
      | [] => [replacement]
      | b1 :: rest1 =>
        if !secondInRange b0 b1 then replacement :: decodeReplace (b1 :: rest1)
        else if need = 1 then scalar2 b0 b1 :: decodeReplace rest1
        else
          match rest1 with
          | [] => [replacement]
          | b2 :: rest2 =>
            if !isContinuation b2 then replacement :: decodeReplace (b2 :: rest2)
            else if need = 2 then scalar3 b0 b1 b2 :: decodeReplace rest2
            else
              match rest2 with
              | [] => [replacement]
              | b3 :: rest3 =>
                if !isContinuation b3 then replacement :: decodeReplace (b3 :: rest3)
                else scalar4 b0 b1 b2 b3 :: decodeReplace rest3

/-- Decode strictly, as `bytes.decode("utf-8")` does: bytes that are not well formed are
refused. -/
def decode : List UInt8 → Option (List Char)
  | [] => some []
  | b0 :: rest =>
    match continuationCount b0 with
    | some 0 => (decode rest).map (Char.ofNat b0.toNat :: ·)
    | none => none
    | some need =>
      match rest with
      | [] => none
      | b1 :: rest1 =>
        if !secondInRange b0 b1 then none
        else if need = 1 then (decode rest1).map (scalar2 b0 b1 :: ·)
        else
          match rest1 with
          | [] => none
          | b2 :: rest2 =>
            if !isContinuation b2 then none
            else if need = 2 then (decode rest2).map (scalar3 b0 b1 b2 :: ·)
            else
              match rest2 with
              | [] => none
              | b3 :: rest3 =>
                if !isContinuation b3 then none
                else (decode rest3).map (scalar4 b0 b1 b2 b3 :: ·)

/-- ASCII bytes are decoded to their own characters. -/
theorem decode_ascii {bytes : List UInt8} (h : ∀ b ∈ bytes, b < 0x80) :
    decode bytes = some (bytes.map fun b => Char.ofNat b.toNat) := by
  induction bytes with
  | nil => rfl
  | cons b bytes ih =>
    have hcount : continuationCount b = some 0 := if_pos (h b (by simp))
    rw [decode, hcount]
    rw [ih fun b hb => h b (by simp [hb])]
    rfl

example : decodeReplace [0x41, 0xC3, 0xA9, 0xE2, 0x82, 0x42, 0xFF]
    = ['A', 'é', replacement, 'B', replacement] := by decide

end Utf8

/-! ## Character classes -/

/-- Unicode category `Cc`. -/
def isControl (c : Char) : Bool := c.toNat < 0x20 || (0x7F ≤ c.toNat && c.toNat < 0xA0)

/-- Python's `str.isspace` on one character. -/
def isSpace (c : Char) : Bool :=
  (0x09 ≤ c.toNat && c.toNat ≤ 0x0D) || (0x1C ≤ c.toNat && c.toNat ≤ 0x20)
    || c.toNat == 0x85 || c.toNat == 0xA0 || c.toNat == 0x1680
    || (0x2000 ≤ c.toNat && c.toNat ≤ 0x200A) || c.toNat == 0x2028 || c.toNat == 0x2029
    || c.toNat == 0x202F || c.toNat == 0x205F || c.toNat == 0x3000
