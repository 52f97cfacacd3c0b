/-
# Checked memory

Reads and writes of byte buffers of fixed size.  What C leaves undefined or lets wrap around is a
fault here: an access outside the buffer, a difference below zero, and a loop that needs more
steps than it was given.
-/
import Mathlib.Data.List.Basic
import Mathlib.Tactic.Common

inductive AccessFault where
  | outOfBounds
  | wrapped
  | outOfFuel
  deriving DecidableEq, Repr

abbrev Checked := Except AccessFault

namespace Checked

theorem ok_bind {α β : Type} (a : α) (f : α → Checked β) : (Except.ok a : Checked α) >>= f = f a := rfl

def read (bytes : List UInt8) (index : ℕ) : Checked UInt8 :=
  match bytes[index]? with
  | some byte => .ok byte
  | none => .error .outOfBounds

/-- The difference of two sizes. -/
def sub (a b : ℕ) : Checked ℕ := if b ≤ a then .ok (a - b) else .error .wrapped

/-- The bytes before the terminator. -/
def stringOf : List UInt8 → Checked (List UInt8)
  | [] => .error .outOfBounds
  | byte :: rest => if byte = 0 then .ok [] else do return byte :: (← stringOf rest)

theorem stringOf_terminated {text : List UInt8} (h : 0 ∉ text) (rest : List UInt8) :
    stringOf (text ++ 0 :: rest) = .ok text := by
  induction text with
  | nil => rfl
  | cons byte text ih =>
    rw [List.mem_cons, not_or] at h
    rw [List.cons_append, stringOf, if_neg (Ne.symm h.1), ih h.2]
    rfl

end Checked

/-- Bytes of a fixed size. -/
structure Buffer (size : ℕ) where
  bytes : List UInt8
  length_eq : bytes.length = size
  deriving DecidableEq, Repr

namespace Buffer

variable {size : ℕ}

def zero (size : ℕ) : Buffer size := ⟨List.replicate size 0, List.length_replicate⟩

def load (buffer : Buffer size) (index : ℕ) : Checked UInt8 := Checked.read buffer.bytes index

def store (buffer : Buffer size) (index : ℕ) (byte : UInt8) : Checked (Buffer size) :=
  if index < size then
    .ok ⟨buffer.bytes.set index byte, (List.length_set ..).trans buffer.length_eq⟩
  else .error .outOfBounds

/-- The string the buffer holds, read up to its terminator. -/
def text (buffer : Buffer size) : Checked (List UInt8) := Checked.stringOf buffer.bytes

/-- The buffer begins with these bytes. -/
def Begins (buffer : Buffer size) (written : List UInt8) : Prop :=
  ∃ rest, buffer.bytes = written ++ rest

/-- The buffer holds a terminated string. -/
def Holds (buffer : Buffer size) (value : List UInt8) : Prop :=
  buffer.Begins (value ++ [0]) ∧ 0 ∉ value

theorem begins_nil (buffer : Buffer size) : buffer.Begins [] := ⟨buffer.bytes, rfl⟩

/-- A write behind what was written goes through while there is room. -/
theorem Begins.store {buffer : Buffer size} {written : List UInt8} (h : buffer.Begins written)
    (hroom : written.length < size) (byte : UInt8) :
    ∃ buffer' : Buffer size, buffer.store written.length byte = .ok buffer'
      ∧ buffer'.Begins (written ++ [byte]) := by
  obtain ⟨rest, hbytes⟩ := h
  refine ⟨_, if_pos hroom, rest.tail, ?_⟩
  have hlength := buffer.length_eq
  rw [hbytes, List.length_append] at hlength
  obtain ⟨next, rest, rfl⟩ := List.exists_cons_of_length_pos (l := rest) (by omega)
  dsimp only
  rw [hbytes, List.set_append_right _ _ (Nat.le_refl _), Nat.sub_self, List.set_cons_zero,
    List.append_assoc]
  rfl

theorem Begins.load {buffer : Buffer size} {written : List UInt8} (h : buffer.Begins written)
    {index : ℕ} {byte : UInt8} (hbyte : written[index]? = some byte) :
    buffer.load index = .ok byte := by
  obtain ⟨rest, hbytes⟩ := h
  obtain ⟨hlt, _⟩ := List.getElem?_eq_some_iff.mp hbyte
  rw [Buffer.load, Checked.read, hbytes, List.getElem?_append_left hlt, hbyte]

theorem Holds.text {buffer : Buffer size} {value : List UInt8} (h : buffer.Holds value) :
    buffer.text = .ok value := by
  obtain ⟨⟨rest, hbytes⟩, hzero⟩ := h
  rw [Buffer.text, hbytes, List.append_assoc]
  exact Checked.stringOf_terminated hzero rest

theorem zero_holds (h : 0 < size) : (zero size).Holds [] := by
  cases size with
  | zero => exact absurd h (Nat.lt_irrefl 0)
  | succ n => exact ⟨⟨List.replicate n 0, rfl⟩, List.not_mem_nil⟩

end Buffer
