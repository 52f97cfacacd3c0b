/-
# The firmware's UART RX ring

`dmh_uart_rx_ring`: a circular store of received bytes beside a circular table of
descriptors, one for every push, with the oldest bytes dropped when either is full.  The
caller serializes the operations.  An operation gives `none` where a counter would wrap
below zero or a loop would not end.
-/
import DutchMate.Circular
import Mathlib.Algebra.GroupWithZero.Nat

open Circular

/-! ## State -/

/-- Bytes the ring stores. -/
def ringBufferSizeBytes : ℕ := 32 * 1024

/-- Pushes the ring can keep apart. -/
def rxDescriptorCapacity : ℕ := 512

def maxUint64 : ℕ := 2 ^ 64 - 1

/-- The bytes of one push that are left. -/
structure RxDescriptor where
  timestampUs : ℕ
  observationSequence : ℕ
  length : ℕ
  channel : UInt8
  deriving DecidableEq, Repr

/-- One claimed overflow episode. -/
structure RxOverflow where
  firstDropTimestampUs : ℕ
  droppedBytes : ℕ
  observationSequence : ℕ
  deriving DecidableEq, Repr

/-- Bytes taken out of one push. -/
structure RxChunk where
  timestampUs : ℕ
  observationSequence : ℕ
  channel : UInt8
  data : List UInt8
  deriving DecidableEq, Repr

structure RxSnapshot where
  capacityBytes : ℕ
  usedBytes : ℕ
  highWaterBytes : ℕ
  droppedBytesTotal : ℕ
  overflowEvents : ℕ
  deriving DecidableEq, Repr

structure RxRing where
  bytes : ℕ → UInt8
  descriptors : ℕ → RxDescriptor
  readIndex : ℕ
  usedBytes : ℕ
  highWaterBytes : ℕ
  descriptorHead : ℕ
  descriptorCount : ℕ
  droppedBytesTotal : ℕ
  overflowEvents : ℕ
  episodeFirstDropTimestampUs : ℕ
  episodeDroppedBytes : ℕ
  episodeObservationSequence : ℕ
  nextObservationSequence : ℕ
  episodeActive : Bool

inductive RxObservationKind where
  | none
  | chunk
  | overflow
  deriving DecidableEq, Repr

/-- What a take hands over; `again` when an overflow has to be claimed first. -/
inductive RxTake where
  | empty
  | again
  | chunk (chunk : RxChunk)
  deriving DecidableEq, Repr

/-- What a take before a limit observes. -/
inductive RxObservation where
  | nothing
  | overflow (overflow : RxOverflow)
  | chunk (take : RxTake)
  deriving DecidableEq, Repr

def saturatingAddU64 (value increment : ℕ) : ℕ :=
  if maxUint64 - value < increment then maxUint64 else value + increment

namespace RxRing

/-- Everything zero. -/
def init : RxRing where
  bytes _ := 0
  descriptors _ := ⟨0, 0, 0, 0⟩
  readIndex := 0
  usedBytes := 0
  highWaterBytes := 0
  descriptorHead := 0
  descriptorCount := 0
  droppedBytesTotal := 0
  overflowEvents := 0
  episodeFirstDropTimestampUs := 0
  episodeDroppedBytes := 0
  episodeObservationSequence := 0
  nextObservationSequence := 0
  episodeActive := false

variable (ring : RxRing)

/-- Draw the next observation sequence; the counter wraps. -/
def drawSequence : RxRing :=
  { ring with nextObservationSequence := (ring.nextObservationSequence + 1) % 2 ^ 64 }

def oldestDescriptor : RxDescriptor := ring.descriptors ring.descriptorHead

def setDescriptor (index : ℕ) (descriptor : RxDescriptor) : RxRing :=
  { ring with descriptors := fun i => if i = index then descriptor else ring.descriptors i }

/-! ## Dropping -/

def removeEmptyOldestDescriptor : Option RxRing :=
  if ring.descriptorCount = 0 then none
  else
    some
      { ring with
        descriptorHead := (ring.descriptorHead + 1) % rxDescriptorCapacity
        descriptorCount := ring.descriptorCount - 1 }

/-- The oldest push without its first bytes. -/
def cutOldest (dropped : ℕ) : RxRing :=
  { ring with
    readIndex := (ring.readIndex + dropped) % ringBufferSizeBytes
    usedBytes := ring.usedBytes - dropped }.setDescriptor ring.descriptorHead
      { ring.oldestDescriptor with length := ring.oldestDescriptor.length - dropped }

/-- One turn: drop bytes of the oldest push, and the push itself when none are left. -/
def dropFromOldest (dropped : ℕ) : Option RxRing :=
  if ring.usedBytes < dropped then none
  else if ring.oldestDescriptor.length - dropped = 0 then
    (ring.cutOldest dropped).removeEmptyOldestDescriptor
  else some (ring.cutOldest dropped)

/-- The loop that drops, for at most so many turns. -/
def dropLoop : ℕ → RxRing → ℕ → Option RxRing
  | 0, ring, length => if length = 0 then some ring else none
  | turns + 1, ring, length =>
    if length = 0 then some ring
    else
      let oldest := ring.oldestDescriptor.length
      let dropped := if length < oldest then length else oldest
      (ring.dropFromOldest dropped).bind fun ring => dropLoop turns ring (length - dropped)

/-- Every turn drops a byte. -/
def dropOldestBytes (length : ℕ) : Option RxRing := dropLoop length ring length

/-- Account for dropped bytes, in the open episode or a new one. -/
def recordDrop (dropped timestampUs : ℕ) : RxRing :=
  if dropped = 0 then ring
  else
    let ring :=
      { ring with droppedBytesTotal := saturatingAddU64 ring.droppedBytesTotal dropped }
    let ring :=
      if ring.episodeActive then ring
      else
        let ring := ring.drawSequence
        { ring with
          episodeActive := true
          episodeFirstDropTimestampUs := timestampUs
          episodeDroppedBytes := 0
          episodeObservationSequence := ring.nextObservationSequence
          overflowEvents := saturatingAddU64 ring.overflowEvents 1 }
    { ring with episodeDroppedBytes := saturatingAddU64 ring.episodeDroppedBytes dropped }

/-! ## Pushing -/

/-- Copy behind the retained bytes, in two parts at the end of the store. -/
def copyIntoRing (data : List UInt8) : RxRing :=
  { ring with
    bytes := wrap ring.bytes ringBufferSizeBytes
      ((ring.readIndex + ring.usedBytes) % ringBufferSizeBytes) data }

def appendDescriptor (channel : UInt8) (timestampUs length : ℕ) : RxRing :=
  let index := (ring.descriptorHead + ring.descriptorCount) % rxDescriptorCapacity
  let ring := ring.drawSequence
  { ring.setDescriptor index
      { timestampUs := timestampUs
        observationSequence := ring.nextObservationSequence
        length := length
        channel := channel } with
    descriptorCount := ring.descriptorCount + 1 }

/-- Make a descriptor free, dropping what the oldest push has left. -/
def freeDescriptor : Option (RxRing × ℕ) :=
  if ring.descriptorCount = rxDescriptorCapacity then
    let dropped := ring.oldestDescriptor.length
    (ring.dropOldestBytes dropped).map fun ring => (ring, dropped)
  else some (ring, 0)

/-- Make room for bytes. -/
def freeBytes (length : ℕ) : Option (RxRing × ℕ) :=
  if ringBufferSizeBytes - length < ring.usedBytes then
    let dropped := ring.usedBytes - (ringBufferSizeBytes - length)
    (ring.dropOldestBytes dropped).map fun ring => (ring, dropped)
  else some (ring, 0)

/-- Store bytes there is room for. -/
def store (channel : UInt8) (timestampUs : ℕ) (data : List UInt8) (length : ℕ) : RxRing :=
  let ring := (ring.copyIntoRing data).appendDescriptor channel timestampUs length
  let usedBytes := ring.usedBytes + length
  { ring with
    usedBytes := usedBytes
    highWaterBytes :=
      if ring.highWaterBytes < usedBytes then usedBytes else ring.highWaterBytes }

/-- One UART RX callback with its timestamp; of too many bytes the last are kept. -/
def push (channel : UInt8) (timestampUs : ℕ) (data : List UInt8) : Option RxRing :=
  if data = [] then some ring
  else
    let retainedLength :=
      if ringBufferSizeBytes < data.length then ringBufferSizeBytes else data.length
    let inputDrop := data.length - retainedLength
    match ring.freeDescriptor with
    | none => none
    | some (ring, descriptorDrop) =>
      match ring.freeBytes retainedLength with
      | none => none
      | some (ring, byteSpaceDrop) =>
        let ring := ring.recordDrop inputDrop timestampUs
        let ring := ring.recordDrop (descriptorDrop + byteSpaceDrop) timestampUs
        some (ring.store channel timestampUs (data.drop inputDrop) retainedLength)

theorem push_eq {ring ring₁ ring₂ : RxRing} {channel : UInt8} {timestampUs : ℕ}
    {data : List UInt8} {length descriptorDrop byteSpaceDrop : ℕ} (hdata : data ≠ [])
    (hlength : length
      = if ringBufferSizeBytes < data.length then ringBufferSizeBytes else data.length)
    (hdescriptor : ring.freeDescriptor = some (ring₁, descriptorDrop))
    (hbytes : ring₁.freeBytes length = some (ring₂, byteSpaceDrop)) :
    ring.push channel timestampUs data
      = some (((ring₂.recordDrop (data.length - length) timestampUs).recordDrop
          (descriptorDrop + byteSpaceDrop) timestampUs).store channel timestampUs
            (data.drop (data.length - length)) length) := by
  rw [push, if_neg hdata, ← hlength, hdescriptor]
  simp only [hbytes]

/-! ## Draining -/

/-- Which observation comes first: the oldest push left or the open episode. -/
def nextObservation : RxObservationKind :=
  if ring.descriptorCount = 0 then if ring.episodeActive then .overflow else .none
  else if !ring.episodeActive
      || decide (ring.oldestDescriptor.observationSequence < ring.episodeObservationSequence) then
    .chunk
  else .overflow

/-- The sequence of the first observation. -/
def peekObservation : Option (RxObservationKind × ℕ) :=
  match ring.nextObservation with
  | .none => none
  | .chunk => some (.chunk, ring.oldestDescriptor.observationSequence)
  | .overflow => some (.overflow, ring.episodeObservationSequence)

/-- Copy out of the oldest push, in two parts at the end of the store, and drop what was
copied. -/
def take (outputCapacity : ℕ) : Option (RxRing × RxTake) :=
  if outputCapacity = 0 ∨ ring.descriptorCount = 0 then some (ring, .empty)
  else if ring.nextObservation = .overflow then some (ring, .again)
  else
    let descriptor := ring.oldestDescriptor
    let length := if outputCapacity < descriptor.length then outputCapacity else descriptor.length
    let firstLength := min (ringBufferSizeBytes - ring.readIndex) length
    let output := read ring.bytes ring.readIndex firstLength
      ++ read ring.bytes 0 (length - firstLength)
    (ring.dropOldestBytes length).map fun ring =>
      (ring, .chunk
        { timestampUs := descriptor.timestampUs
          observationSequence := descriptor.observationSequence
          channel := descriptor.channel
          data := output })

/-- End the open episode and report it. -/
def claimOverflow : RxRing × Option RxOverflow :=
  if ring.episodeActive then
    ({ ring with episodeActive := false, episodeDroppedBytes := 0 },
      some
        { firstDropTimestampUs := ring.episodeFirstDropTimestampUs
          droppedBytes := ring.episodeDroppedBytes
          observationSequence := ring.episodeObservationSequence })
  else (ring, none)

/-- Hand out the first observation, unless its sequence reaches the limit. -/
def takeBefore (sequenceLimit : Option ℕ) (outputCapacity : ℕ) :
    Option (RxRing × RxObservation) :=
  match ring.peekObservation with
  | none => some (ring, .nothing)
  | some (kind, sequence) =>
    if sequenceLimit.any fun limit => limit ≤ sequence then some (ring, .nothing)
    else if kind = .overflow then
      let (ring, overflow) := ring.claimOverflow
      some (ring, match overflow with
        | some overflow => .overflow overflow
        | none => .nothing)
    else (ring.take outputCapacity).map fun r => (r.1, .chunk r.2)

def snapshot : RxSnapshot where
  capacityBytes := ringBufferSizeBytes
  usedBytes := ring.usedBytes
  highWaterBytes := ring.highWaterBytes
  droppedBytesTotal := ring.droppedBytesTotal
  overflowEvents := ring.overflowEvents

/-- A snapshot that takes its place among the observations. -/
def snapshotObservation : RxRing × RxSnapshot × ℕ :=
  (ring.drawSequence, ring.snapshot, ring.drawSequence.nextObservationSequence)

/-- Forget what was not drained. -/
def discardRetained : RxRing :=
  { ring with
    readIndex := 0
    usedBytes := 0
    descriptorHead := 0
    descriptorCount := 0
    episodeActive := false
    episodeDroppedBytes := 0 }

end RxRing

/-! ## Calls -/

inductive RxCall where
  | init
  | push (channel : UInt8) (timestampUs : ℕ) (data : List UInt8)
  | take (outputCapacity : ℕ)
  | takeBefore (sequenceLimit : Option ℕ) (outputCapacity : ℕ)
  | claimOverflow
  | snapshotObservation
  | discardRetained
  deriving DecidableEq, Repr

/-- What a call hands out. -/
inductive RxOutput where
  | nothing
  | observed (observation : RxObservation)
  | claimed (overflow : Option RxOverflow)
  | snapshot (snapshot : RxSnapshot) (observationSequence : ℕ)
  deriving DecidableEq, Repr

def RxRing.call (ring : RxRing) : RxCall → Option (RxRing × RxOutput)
  | .init => some (.init, .nothing)
  | .push channel timestampUs data =>
    (ring.push channel timestampUs data).map fun ring => (ring, .nothing)
  | .take outputCapacity =>
    (ring.take outputCapacity).map fun r => (r.1, .observed (.chunk r.2))
  | .takeBefore sequenceLimit outputCapacity =>
    (ring.takeBefore sequenceLimit outputCapacity).map fun r => (r.1, .observed r.2)
  | .claimOverflow => some (ring.claimOverflow.1, .claimed ring.claimOverflow.2)
  | .snapshotObservation =>
    some (ring.snapshotObservation.1,
      .snapshot ring.snapshotObservation.2.1 ring.snapshotObservation.2.2)
  | .discardRetained => some (ring.discardRetained, .nothing)
