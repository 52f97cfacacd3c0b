/-
# Frames written by the firmware

A frame is text appended piece by piece to an output of fixed capacity; a piece that does
not fit ends the encoder with `noSpace`.  Decimals are 64-bit numbers, written from their
last digit into a scratch of twenty.
-/
import Mathlib.Data.Nat.Digits.Defs
import Mathlib.Tactic.Common

/-- Why an encoder gave up: its `EINVAL` and `ENOSPC`. -/
inductive EncodeError where
  | invalidArgument
  | noSpace
  deriving DecidableEq, Repr

/-- The bytes of a literal. -/
def ascii (literal : String) : List UInt8 := literal.toList.map fun c => c.toNat.toUInt8

/-- The loop that writes a decimal backwards into a scratch with this many places left. -/
def decimalLoop : ℕ → ℕ → List UInt8 → List UInt8
  | 0, _, digits => digits
  | index + 1, value, digits =>
    let digits := (48 + value % 10).toUInt8 :: digits
    if 0 < value / 10 then decimalLoop index (value / 10) digits else digits

/-- The digits of a 64-bit number. -/
def decimal (value : UInt64) : List UInt8 := decimalLoop 20 value.toNat []

structure FrameWriter where
  capacity : ℕ
  written : List UInt8 := []
  deriving DecidableEq, Repr

namespace FrameWriter

def appendBytes (writer : FrameWriter) (bytes : List UInt8) : Except EncodeError FrameWriter :=
  if writer.capacity - writer.written.length < bytes.length then .error .noSpace
  else .ok { writer with written := writer.written ++ bytes }

/-- Pieces appended one after the other, each refused when it does not fit. -/
def appendAll (writer : FrameWriter) : List (List UInt8) → Except EncodeError FrameWriter
  | [] => .ok writer
  | piece :: pieces =>
    match writer.appendBytes piece with
    | .error e => .error e
    | .ok writer => writer.appendAll pieces

/-- The frame of the pieces, in an output of this capacity. -/
def frame (capacity : ℕ) (pieces : List (List UInt8)) : Except EncodeError (List UInt8) :=
  match FrameWriter.appendAll { capacity := capacity } pieces with
  | .error e => .error e
  | .ok writer => .ok writer.written

theorem appendAll_eq {writer : FrameWriter} {pieces : List (List UInt8)}
    (hwritten : writer.written.length ≤ writer.capacity) :
    writer.appendAll pieces
      = if writer.written.length + pieces.flatten.length ≤ writer.capacity
        then .ok { writer with written := writer.written ++ pieces.flatten }
        else .error .noSpace := by
  induction pieces generalizing writer with
  | nil =>
    rw [List.flatten_nil, List.length_nil, Nat.add_zero, if_pos hwritten, List.append_nil]
    rfl
  | cons piece pieces ih =>
    rw [appendAll, appendBytes, List.flatten_cons, List.length_append]
    by_cases hfits : writer.capacity - writer.written.length < piece.length
    · rw [if_pos hfits, if_neg (by omega)]
    · rw [if_neg hfits]
      dsimp only
      rw [ih (by rw [List.length_append]; dsimp only; omega)]
      dsimp only
      rw [List.length_append, Nat.add_assoc, List.append_assoc]

/-- A frame is its pieces when they fit, and nothing otherwise. -/
theorem frame_eq (capacity : ℕ) (pieces : List (List UInt8)) :
    frame capacity pieces
      = if pieces.flatten.length ≤ capacity then .ok pieces.flatten else .error .noSpace := by
  rw [frame, appendAll_eq (Nat.zero_le _)]
  simp only [List.length_nil, Nat.zero_add, List.nil_append]
  split_ifs <;> rfl

end FrameWriter

/-! ## Decimals -/

theorem length_decimalLoop (index value : ℕ) (digits : List UInt8) :
    (decimalLoop index value digits).length ≤ index + digits.length := by
  induction index generalizing value digits with
  | zero =>
    rw [decimalLoop, Nat.zero_add]
  | succ index ih =>
    rw [decimalLoop]
    split
    · have hrest := ih (value / 10) ((48 + value % 10).toUInt8 :: digits)
      rw [List.length_cons] at hrest
      omega
    · rw [List.length_cons]
      omega

/-- No 64-bit number takes more than twenty digits. -/
theorem length_decimal (value : UInt64) : (decimal value).length ≤ 20 :=
  length_decimalLoop 20 value.toNat []

example : decimal 18446744073709551615 = ascii "18446744073709551615" := by decide +kernel
