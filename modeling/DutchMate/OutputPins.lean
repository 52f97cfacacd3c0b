/-
# Output pins behind a port that may fail

A pin has a level and a buffer that drives the level out while it is enabled.  Levels and
buffers are written one at a time; a successful write sets what it writes and a failed one
leaves the pin as it was.  The writes issued so far, newest first, determine the pins:
`enabled`, `level`, and `faulted` for a pin with a failed write since its buffer was last
disabled.  `Disciplined` logs never write the level of an enabled pin.

A block of writes leaves the channels it spares: `enabled_append_spared`,
`level_append_spared`, `faulted_append_spared`.
-/
import Mathlib.Data.List.Basic
import Mathlib.Tactic.Common

namespace OutputPins

/-- A write to the buffer or to the level of a channel. -/
inductive PinWrite (Channel Level : Type) where
  | enable (channel : Channel) (enabled : Bool)
  | data (channel : Channel) (level : Level)
  deriving DecidableEq, Repr

variable {Channel Level : Type} [DecidableEq Channel]

def PinWrite.channel : PinWrite Channel Level → Channel
  | enable channel _ => channel
  | data channel _ => channel

/-- The writes issued and whether they succeeded, newest first. -/
abbrev PinLog (Channel Level : Type) := List (PinWrite Channel Level × Bool)

/-- The buffer of a channel; every buffer starts disabled. -/
def enabled : PinLog Channel Level → Channel → Bool
  | [], _ => false
  | (.enable channel' value, true) :: log, channel =>
    if channel' = channel then value else enabled log channel
  | _ :: log, channel => enabled log channel

/-- The level of a channel, from a level all channels start at. -/
def level (initial : Level) : PinLog Channel Level → Channel → Level
  | [], _ => initial
  | (.data channel' value, true) :: log, channel =>
    if channel' = channel then value else level initial log channel
  | _ :: log, channel => level initial log channel

/-- A write to the channel failed since its buffer was last disabled. -/
def faulted : PinLog Channel Level → Channel → Bool
  | [], _ => false
  | (.enable channel' value, ok) :: log, channel =>
    if channel' = channel then !ok || value && faulted log channel
    else faulted log channel
  | (.data channel' _, ok) :: log, channel =>
    if channel' = channel then !ok || faulted log channel
    else faulted log channel

/-- No level was written, or tried to be, while its buffer was enabled. -/
def Disciplined : PinLog Channel Level → Prop
  | [] => True
  | (.data channel _, _) :: log => enabled log channel = false ∧ Disciplined log
  | _ :: log => Disciplined log

/-- No write goes to the channel. -/
def Spares (channel : Channel) (log : PinLog Channel Level) : Prop :=
  ∀ entry ∈ log, entry.1.channel ≠ channel

/-! ## Writes to other channels -/

section Spares

variable {channel : Channel} {log block : PinLog Channel Level}

theorem enabled_append_spared (hblock : Spares channel block) :
    enabled (block ++ log) channel = enabled log channel := by
  induction block with
  | nil => rfl
  | cons entry block ih =>
    have hrest := ih fun e he => hblock e (List.mem_cons_of_mem _ he)
    have hne := hblock entry List.mem_cons_self
    obtain ⟨write, ok⟩ := entry
    rw [List.cons_append]
    cases write with
    | data _ _ => exact hrest
    | enable channel' value =>
      cases ok with
      | false => exact hrest
      | true => exact (if_neg hne).trans hrest

theorem level_append_spared (initial : Level) (hblock : Spares channel block) :
    level initial (block ++ log) channel = level initial log channel := by
  induction block with
  | nil => rfl
  | cons entry block ih =>
    have hrest := ih fun e he => hblock e (List.mem_cons_of_mem _ he)
    have hne := hblock entry List.mem_cons_self
    obtain ⟨write, ok⟩ := entry
    rw [List.cons_append]
    cases write with
    | enable _ _ => exact hrest
    | data channel' value =>
      cases ok with
      | false => exact hrest
      | true => exact (if_neg hne).trans hrest

theorem faulted_append_spared (hblock : Spares channel block) :
    faulted (block ++ log) channel = faulted log channel := by
  induction block with
  | nil => rfl
  | cons entry block ih =>
    have hrest := ih fun e he => hblock e (List.mem_cons_of_mem _ he)
    have hne := hblock entry List.mem_cons_self
    obtain ⟨write, ok⟩ := entry
    rw [List.cons_append]
    cases write with
    | enable channel' value => exact (if_neg hne).trans hrest
    | data channel' value => exact (if_neg hne).trans hrest

end Spares

end OutputPins
