/-
# Sources of events

A capture source is read by one thread, filled by a second one and closed by a third.
`read_event` and `close` take many steps; between them the other threads go on.

`EventSource` is what a recorder sees of a source, with two lists that no thread sees:
what the source has produced, and what its reads have returned.  `Lawful` is what a
recorder may rely on: events come out in order, and a closed source that reports nothing
pending has nothing left.
-/
import Mathlib.Data.List.Basic
import Mathlib.Tactic.Common

/-- Why `read_event` raised: a lost connection, or any other error. -/
inductive ReadFailure
  | disconnected | failed
  deriving DecidableEq, Repr

inductive ReadResult (Event : Type)
  | event (event : Event)
  | nothing
  | raised (failure : ReadFailure)
  deriving DecidableEq

/-- The events a result hands over. -/
def ReadResult.events {Event : Type} : ReadResult Event → List Event
  | event e => [e]
  | nothing => []
  | raised _ => []

structure EventSource (Event : Type) where
  State : Type
  /-- the steps of the source's own threads, and of reads and closes under way -/
  Internal : Type
  start : State
  internal : State → Internal → Option State
  beginRead : State → State
  /-- the result of a read that has come to its end, and the state without that read -/
  readResult : State → Option (ReadResult Event × State)
  requestClose : State → State
  /-- whether a close that has ended returned -/
  closeResult : State → Option Bool
  /-- `has_pending_events` -/
  pending : State → Bool
  reading : State → Bool
  closeRequested : State → Bool
  produced : State → List Event
  delivered : State → List Event
  /-- nothing is left, and nothing more will come -/
  exhausted : State → Bool

namespace EventSource

variable {Event : Type}

/-- A step that is no read's end keeps what was delivered and what has ended. -/
structure Keeps (S : EventSource Event) (σ σ' : S.State) : Prop where
  delivered : S.delivered σ' = S.delivered σ
  closeResult : ∀ result, S.closeResult σ = some result → S.closeResult σ' = some result
  exhausted : S.exhausted σ = true → S.exhausted σ' = true

/-- What a recorder may rely on. -/
structure Lawful (S : EventSource Event) where
  Valid : S.State → Prop
  start_valid : Valid S.start
  start_delivered : S.delivered S.start = []
  start_reading : S.reading S.start = false
  start_closeRequested : S.closeRequested S.start = false
  internal_valid : ∀ σ i σ', Valid σ → S.internal σ i = some σ' → Valid σ'
  internal_keeps : ∀ σ i σ', Valid σ → S.internal σ i = some σ' → S.Keeps σ σ'
  internal_reading : ∀ σ i σ', Valid σ → S.internal σ i = some σ' →
    S.reading σ' = S.reading σ
  internal_closeRequested : ∀ σ i σ', Valid σ → S.internal σ i = some σ' →
    S.closeRequested σ' = S.closeRequested σ
  beginRead_valid : ∀ σ, Valid σ → S.reading σ = false → Valid (S.beginRead σ)
  beginRead_keeps : ∀ σ, Valid σ → S.reading σ = false → S.Keeps σ (S.beginRead σ)
  beginRead_reading : ∀ σ, S.reading (S.beginRead σ) = true
  beginRead_closeRequested : ∀ σ, S.closeRequested (S.beginRead σ) = S.closeRequested σ
  requestClose_valid : ∀ σ, Valid σ → Valid (S.requestClose σ)
  requestClose_keeps : ∀ σ, Valid σ → S.Keeps σ (S.requestClose σ)
  requestClose_reading : ∀ σ, S.reading (S.requestClose σ) = S.reading σ
  readResult_valid : ∀ σ result σ', Valid σ → S.readResult σ = some (result, σ') → Valid σ'
  readResult_delivered : ∀ σ result σ', S.readResult σ = some (result, σ') →
    S.delivered σ' = S.delivered σ ++ result.events
  readResult_closeResult : ∀ σ result σ', S.readResult σ = some (result, σ') →
    S.closeResult σ' = S.closeResult σ
  readResult_exhausted : ∀ σ result σ', Valid σ → S.readResult σ = some (result, σ') →
    S.exhausted σ = true → S.exhausted σ' = true ∧ result.events = []
  readResult_reading : ∀ σ result σ', S.readResult σ = some (result, σ') →
    S.reading σ' = false
  readResult_closeRequested : ∀ σ result σ', S.readResult σ = some (result, σ') →
    S.closeRequested σ' = S.closeRequested σ
  /-- a closed source that reports nothing pending has nothing left -/
  drained : ∀ σ, Valid σ → S.reading σ = false → S.closeResult σ = some true →
    S.pending σ = false → S.exhausted σ = true
  /-- what is exhausted has delivered all it produced, and what was delivered is a
  beginning of what was produced -/
  exhausted_delivered : ∀ σ, Valid σ → S.exhausted σ = true → S.delivered σ = S.produced σ
  delivered_prefix : ∀ σ, Valid σ → S.delivered σ <+: S.produced σ

/-- A source whose reads only raise, before it is closed, when nothing is left. -/
def RaisesExhausted (S : EventSource Event) (L : S.Lawful) : Prop :=
  ∀ σ failure σ', L.Valid σ → S.readResult σ = some (.raised failure, σ') →
    S.closeRequested σ = false → S.exhausted σ' = true

end EventSource
