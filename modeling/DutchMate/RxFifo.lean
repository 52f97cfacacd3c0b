/-
# The RX ring as a FIFO

What the ring is for: a FIFO of bursts, one for each push, that forgets its oldest bytes
when it is full and keeps count of what it forgot.  `Stores` reads the bursts out of the
ring's memory, `Counts` its episode and counters, and every operation of the ring is the
operation of the FIFO on them as long as no counter leaves its 64 bits.
-/
import DutchMate.RxRing

open Circular

/-! ## Bursts -/

/-- What is left of one push, numbered by its call. -/
structure Burst where
  call : ℕ
  timestampUs : ℕ
  observationSequence : ℕ
  channel : UInt8
  bytes : List UInt8
  deriving DecidableEq, Repr

def Burst.descriptor (b : Burst) : RxDescriptor :=
  ⟨b.timestampUs, b.observationSequence, b.bytes.length, b.channel⟩

/-- The bytes of bursts, oldest first. -/
def burstBytes (bursts : List Burst) : List UInt8 := bursts.flatMap Burst.bytes

/-- Forget the oldest `n` bytes. -/
def dropOldest : ℕ → List Burst → List Burst
  | _, [] => []
  | n, b :: rest =>
    if n < b.bytes.length then { b with bytes := b.bytes.drop n } :: rest
    else dropOldest (n - b.bytes.length) rest

/-- A received byte with where it came from: its push call, that call's timestamp and channel. -/
structure RxByte where
  value : UInt8
  timestampUs : ℕ
  channel : UInt8
  call : ℕ
  deriving DecidableEq, Repr

def Burst.tagged (b : Burst) : List RxByte :=
  b.bytes.map fun value => ⟨value, b.timestampUs, b.channel, b.call⟩

/-- The bytes of bursts with where they came from, oldest first. -/
def taggedBytes (bursts : List Burst) : List RxByte := bursts.flatMap Burst.tagged

@[simp] theorem Burst.length_tagged (b : Burst) : b.tagged.length = b.bytes.length := by
  simp [Burst.tagged]

theorem burstBytes_eq (bursts : List Burst) :
    burstBytes bursts = (taggedBytes bursts).map RxByte.value := by
  induction bursts with
  | nil => rfl
  | cons b rest ih =>
    have hb : b.tagged.map RxByte.value = b.bytes := by simp [Burst.tagged, Function.comp_def]
    rw [burstBytes, taggedBytes, List.flatMap_cons, List.flatMap_cons, List.map_append, hb]
    exact congrArg (b.bytes ++ ·) ih

theorem length_taggedBytes (bursts : List Burst) :
    (taggedBytes bursts).length = (burstBytes bursts).length := by
  rw [burstBytes_eq, List.length_map]

theorem taggedBytes_dropOldest (n : ℕ) (bursts : List Burst) :
    taggedBytes (dropOldest n bursts) = (taggedBytes bursts).drop n := by
  induction bursts generalizing n with
  | nil => simp [dropOldest, taggedBytes]
  | cons b rest ih =>
    simp only [taggedBytes] at ih ⊢
    rw [dropOldest, List.flatMap_cons, List.drop_append, Burst.length_tagged]
    split
    · rename_i hlt
      rw [List.flatMap_cons, show n - b.bytes.length = 0 by omega, List.drop_zero, Burst.tagged,
        Burst.tagged, List.map_drop]
    · rename_i hge
      have hnil : b.tagged.drop n = [] := by
        apply List.drop_eq_nil_of_le
        rw [Burst.length_tagged]
        omega
      rw [ih, hnil, List.nil_append]

theorem burstBytes_dropOldest (n : ℕ) (bursts : List Burst) :
    burstBytes (dropOldest n bursts) = (burstBytes bursts).drop n := by
  rw [burstBytes_eq, taggedBytes_dropOldest, burstBytes_eq, List.map_drop]

/-- No burst is empty. -/
def AllNonempty (bursts : List Burst) : Prop := ∀ b ∈ bursts, b.bytes ≠ []

theorem allNonempty_dropOldest {bursts : List Burst} (h : AllNonempty bursts) (n : ℕ) :
    AllNonempty (dropOldest n bursts) := by
  induction bursts generalizing n with
  | nil => exact h
  | cons b rest ih =>
    unfold dropOldest
    split
    · rename_i hlt
      intro b' hb'
      rcases List.mem_cons.mp hb' with rfl | hb'
      · intro hnil
        have hlength := List.drop_eq_nil_iff.mp hnil
        omega
      · exact h b' (List.mem_cons_of_mem _ hb')
    · exact ih (fun b' hb' => h b' (List.mem_cons_of_mem _ hb')) _

theorem length_dropOldest_le (n : ℕ) (bursts : List Burst) :
    (dropOldest n bursts).length ≤ bursts.length := by
  induction bursts generalizing n with
  | nil => exact le_rfl
  | cons b rest ih =>
    rw [dropOldest]
    split
    · exact le_rfl
    · exact (ih _).trans (Nat.le_succ _)

theorem dropOldest_zero {bursts : List Burst} (h : AllNonempty bursts) :
    dropOldest 0 bursts = bursts := by
  cases bursts with
  | nil => rfl
  | cons b rest =>
    rw [dropOldest, if_pos (List.length_pos_iff.mpr (h b List.mem_cons_self)), List.drop_zero]

/-- Dropping all of the oldest burst removes it. -/
theorem dropOldest_head {b : Burst} {rest : List Burst} (h : AllNonempty rest) :
    dropOldest b.bytes.length (b :: rest) = rest := by
  rw [dropOldest, if_neg (lt_irrefl _), Nat.sub_self, dropOldest_zero h]

/-! ## The FIFO -/

/-- Bursts, the open overflow episode and exact counters. -/
structure RxFifo where
  bursts : List Burst := []
  episode : Option RxOverflow := none
  highWaterBytes : ℕ := 0
  droppedBytesTotal : ℕ := 0
  overflowEvents : ℕ := 0
  sequences : ℕ := 0
  pushes : ℕ := 0
  deriving DecidableEq, Repr

namespace RxFifo

def usedBytes (f : RxFifo) : ℕ := (burstBytes f.bursts).length

/-- Account for forgotten bytes, in the open episode or a new one. -/
def record (f : RxFifo) (dropped timestampUs : ℕ) : RxFifo :=
  if dropped = 0 then f
  else
    match f.episode with
    | some e =>
      { f with
        droppedBytesTotal := f.droppedBytesTotal + dropped
        episode := some { e with droppedBytes := e.droppedBytes + dropped } }
    | none =>
      { f with
        droppedBytesTotal := f.droppedBytesTotal + dropped
        overflowEvents := f.overflowEvents + 1
        sequences := f.sequences + 1
        episode := some
          { firstDropTimestampUs := timestampUs
            droppedBytes := dropped
            observationSequence := f.sequences + 1 } }

/-- The bytes of a push that are kept: the last of them. -/
def keptOf (data : List UInt8) : List UInt8 := data.drop (data.length - ringBufferSizeBytes)

/-- The retained bytes a push makes the FIFO forget for a descriptor. -/
def descriptorDrop (f : RxFifo) : ℕ :=
  if f.bursts.length = rxDescriptorCapacity then (f.bursts.head?.map fun b => b.bytes.length).getD 0
  else 0

/-- And those for the bytes themselves, once the descriptor is free. -/
def byteSpaceDrop (f : RxFifo) (kept : ℕ) : ℕ :=
  f.usedBytes - f.descriptorDrop - (ringBufferSizeBytes - kept)

/-- The kept bytes of a call go behind the others. -/
def append (f : RxFifo) (call : ℕ) (channel : UInt8) (timestampUs : ℕ) (kept : List UInt8) :
    RxFifo :=
  let bursts := f.bursts ++ [⟨call, timestampUs, f.sequences + 1, channel, kept⟩]
  { f with
    bursts := bursts
    sequences := f.sequences + 1
    highWaterBytes := max f.highWaterBytes (burstBytes bursts).length }

def push (f : RxFifo) (channel : UInt8) (timestampUs : ℕ) (data : List UInt8) : RxFifo :=
  if data = [] then { f with pushes := f.pushes + 1 }
  else
    let kept := keptOf data
    let bursts := dropOldest (f.byteSpaceDrop kept.length) (dropOldest f.descriptorDrop f.bursts)
    (({ f with bursts := bursts, pushes := f.pushes + 1 }.record (data.length - kept.length)
      timestampUs).record (f.descriptorDrop + f.byteSpaceDrop kept.length) timestampUs).append
        f.pushes channel timestampUs kept

def nextObservation (f : RxFifo) : RxObservationKind :=
  match f.bursts, f.episode with
  | [], none => .none
  | [], some _ => .overflow
  | _ :: _, none => .chunk
  | b :: _, some e => if b.observationSequence < e.observationSequence then .chunk else .overflow

def peekObservation (f : RxFifo) : Option (RxObservationKind × ℕ) :=
  match f.bursts, f.episode with
  | [], none => none
  | [], some e => some (.overflow, e.observationSequence)
  | b :: _, none => some (.chunk, b.observationSequence)
  | b :: _, some e =>
    if b.observationSequence < e.observationSequence then some (.chunk, b.observationSequence)
    else some (.overflow, e.observationSequence)

/-- The oldest bytes of the oldest burst. -/
def take (f : RxFifo) (outputCapacity : ℕ) : RxFifo × RxTake :=
  match f.bursts with
  | [] => (f, .empty)
  | b :: _ =>
    if outputCapacity = 0 then (f, .empty)
    else if f.nextObservation = .overflow then (f, .again)
    else
      ({ f with bursts := dropOldest (min outputCapacity b.bytes.length) f.bursts },
        .chunk
          { timestampUs := b.timestampUs
            observationSequence := b.observationSequence
            channel := b.channel
            data := b.bytes.take outputCapacity })

def claimOverflow (f : RxFifo) : RxFifo × Option RxOverflow :=
  ({ f with episode := none }, f.episode)

def takeBefore (f : RxFifo) (sequenceLimit : Option ℕ) (outputCapacity : ℕ) :
    RxFifo × RxObservation :=
  match f.peekObservation with
  | none => (f, .nothing)
  | some (kind, sequence) =>
    if sequenceLimit.any fun limit => limit ≤ sequence then (f, .nothing)
    else if kind = .overflow then
      (f.claimOverflow.1, match f.episode with
        | some overflow => .overflow overflow
        | none => .nothing)
    else ((f.take outputCapacity).1, .chunk (f.take outputCapacity).2)

def snapshot (f : RxFifo) : RxSnapshot where
  capacityBytes := ringBufferSizeBytes
  usedBytes := f.usedBytes
  highWaterBytes := f.highWaterBytes
  droppedBytesTotal := f.droppedBytesTotal
  overflowEvents := f.overflowEvents

def call (f : RxFifo) : RxCall → RxFifo × RxOutput
  | .init => ({}, .nothing)
  | .push channel timestampUs data => (f.push channel timestampUs data, .nothing)
  | .take outputCapacity =>
    ((f.take outputCapacity).1, .observed (.chunk (f.take outputCapacity).2))
  | .takeBefore sequenceLimit outputCapacity =>
    ((f.takeBefore sequenceLimit outputCapacity).1,
      .observed (f.takeBefore sequenceLimit outputCapacity).2)
  | .claimOverflow => (f.claimOverflow.1, .claimed f.claimOverflow.2)
  | .snapshotObservation =>
    ({ f with sequences := f.sequences + 1 }, .snapshot f.snapshot (f.sequences + 1))
  | .discardRetained => ({ f with bursts := [], episode := none }, .nothing)

end RxFifo

/-! ## Bursts in memory -/

/-- The ring's memory holds these bursts. -/
structure Stores (ring : RxRing) (bursts : List Burst) : Prop where
  descriptors : window ring.descriptors rxDescriptorCapacity ring.descriptorHead
    ring.descriptorCount = bursts.map Burst.descriptor
  bytes : window ring.bytes ringBufferSizeBytes ring.readIndex ring.usedBytes = burstBytes bursts
  readIndex : ring.readIndex < ringBufferSizeBytes
  descriptorHead : ring.descriptorHead < rxDescriptorCapacity
  usedBytes : ring.usedBytes ≤ ringBufferSizeBytes
  descriptorCount : ring.descriptorCount ≤ rxDescriptorCapacity
  nonempty : AllNonempty bursts

/-- The store's bytes, the episode and the counters are those of before. -/
structure SameCounters (ring ring' : RxRing) : Prop where
  bytes : ring'.bytes = ring.bytes
  highWaterBytes : ring'.highWaterBytes = ring.highWaterBytes
  droppedBytesTotal : ring'.droppedBytesTotal = ring.droppedBytesTotal
  overflowEvents : ring'.overflowEvents = ring.overflowEvents
  episodeFirstDrop : ring'.episodeFirstDropTimestampUs = ring.episodeFirstDropTimestampUs
  episodeDroppedBytes : ring'.episodeDroppedBytes = ring.episodeDroppedBytes
  episode : ring'.episodeObservationSequence = ring.episodeObservationSequence ∧
    ring'.episodeActive = ring.episodeActive
  nextObservationSequence : ring'.nextObservationSequence = ring.nextObservationSequence

theorem SameCounters.refl (ring : RxRing) : SameCounters ring ring :=
  ⟨rfl, rfl, rfl, rfl, rfl, rfl, ⟨rfl, rfl⟩, rfl⟩

theorem SameCounters.trans {r₁ r₂ r₃ : RxRing} (h₁ : SameCounters r₁ r₂)
    (h₂ : SameCounters r₂ r₃) : SameCounters r₁ r₃ where
  bytes := h₂.bytes.trans h₁.bytes
  highWaterBytes := h₂.highWaterBytes.trans h₁.highWaterBytes
  droppedBytesTotal := h₂.droppedBytesTotal.trans h₁.droppedBytesTotal
  overflowEvents := h₂.overflowEvents.trans h₁.overflowEvents
  episodeFirstDrop := h₂.episodeFirstDrop.trans h₁.episodeFirstDrop
  episodeDroppedBytes := h₂.episodeDroppedBytes.trans h₁.episodeDroppedBytes
  episode := ⟨h₂.episode.1.trans h₁.episode.1, h₂.episode.2.trans h₁.episode.2⟩
  nextObservationSequence := h₂.nextObservationSequence.trans h₁.nextObservationSequence

namespace Stores

variable {ring : RxRing} {bursts rest : List Burst} {b : Burst}

theorem length_bursts (h : Stores ring bursts) : ring.descriptorCount = bursts.length := by
  have hlength := congrArg List.length h.descriptors
  rwa [length_window, List.length_map] at hlength

theorem length_bytes (h : Stores ring bursts) : ring.usedBytes = (burstBytes bursts).length := by
  have hlength := congrArg List.length h.bytes
  rwa [length_window] at hlength

theorem oldest (h : Stores ring (b :: rest)) :
    ring.oldestDescriptor = b.descriptor ∧
      window ring.descriptors rxDescriptorCapacity (ring.descriptorHead + 1)
        (ring.descriptorCount - 1) = rest.map Burst.descriptor := by
  have hcount := h.length_bursts
  rw [List.length_cons] at hcount
  have hwindow := h.descriptors
  rw [hcount, window_succ, Nat.mod_eq_of_lt h.descriptorHead, List.map_cons] at hwindow
  obtain ⟨hhead, htail⟩ := List.cons.inj hwindow
  refine ⟨hhead, ?_⟩
  rw [hcount, Nat.add_sub_cancel]
  exact htail

theorem usedBytes_cons (h : Stores ring (b :: rest)) :
    ring.usedBytes = b.bytes.length + (burstBytes rest).length := by
  rw [h.length_bytes, burstBytes, List.flatMap_cons, List.length_append]
  rfl

/-- The table with the head replaced, from the next descriptor on. -/
theorem window_setHead (h : Stores ring (b :: rest)) (d : RxDescriptor) :
    window (fun i => if i = ring.descriptorHead then d else ring.descriptors i)
      rxDescriptorCapacity (ring.descriptorHead + 1) (ring.descriptorCount - 1)
      = rest.map Burst.descriptor := by
  rw [← h.oldest.2]
  apply window_congr
  intro i hi
  have hcount := h.descriptorCount
  have hhead := h.descriptorHead
  have hne : (ring.descriptorHead + 0) % rxDescriptorCapacity
      ≠ (ring.descriptorHead + (1 + i)) % rxDescriptorCapacity := mod_ne_of_lt (by omega) (by omega)
  rw [Nat.add_zero, Nat.mod_eq_of_lt hhead, ← Nat.add_assoc] at hne
  rw [if_neg hne.symm]

/-- What is left behind the bytes dropped. -/
theorem window_dropped (h : Stores ring bursts) {n : ℕ} (hn : n ≤ ring.usedBytes) :
    window ring.bytes ringBufferSizeBytes ((ring.readIndex + n) % ringBufferSizeBytes)
      (ring.usedBytes - n) = (burstBytes bursts).drop n := by
  rw [window_mod, ← h.bytes, window_drop hn]

/-- Part of the oldest burst is dropped. -/
theorem cutOldest (h : Stores ring (b :: rest)) {n : ℕ} (hn : n < b.bytes.length) :
    Stores (ring.cutOldest n) ({ b with bytes := b.bytes.drop n } :: rest) := by
  have hused := h.usedBytes_cons
  have hcount := h.length_bursts
  rw [List.length_cons] at hcount
  obtain ⟨holdest, _⟩ := h.oldest
  refine ⟨?_, ?_, Nat.mod_lt _ (by decide), h.descriptorHead, ?_, h.descriptorCount, ?_⟩
  · show window _ _ ring.descriptorHead ring.descriptorCount = _
    rw [show ring.descriptorCount = (ring.descriptorCount - 1) + 1 by omega, window_succ,
      Nat.mod_eq_of_lt h.descriptorHead, List.map_cons]
    congr 1
    · simp [RxRing.cutOldest, RxRing.setDescriptor, holdest, Burst.descriptor]
    · exact h.window_setHead _
  · show window ring.bytes _ ((ring.readIndex + n) % _) (ring.usedBytes - n) = _
    rw [h.window_dropped (by omega), burstBytes, burstBytes, List.flatMap_cons, List.flatMap_cons,
      List.drop_append, show n - b.bytes.length = 0 by omega, List.drop_zero]
  · show ring.usedBytes - n ≤ _
    have := h.usedBytes
    omega
  · intro b' hb'
    rcases List.mem_cons.mp hb' with rfl | hb'
    · intro hnil
      have := List.drop_eq_nil_iff.mp hnil
      omega
    · exact h.nonempty b' (List.mem_cons_of_mem _ hb')

/-- The oldest burst is dropped as a whole, with its descriptor. -/
theorem removeOldest (h : Stores ring (b :: rest)) :
    ∃ ring', (ring.cutOldest b.bytes.length).removeEmptyOldestDescriptor = some ring' ∧
      Stores ring' rest ∧ SameCounters ring ring' := by
  have hused := h.usedBytes_cons
  have hcount := h.length_bursts
  rw [List.length_cons] at hcount
  refine ⟨{ ring.cutOldest b.bytes.length with
    descriptorHead := (ring.descriptorHead + 1) % rxDescriptorCapacity
    descriptorCount := ring.descriptorCount - 1 }, ?_, ?_, rfl, rfl, rfl, rfl, rfl, rfl, ⟨rfl, rfl⟩, rfl⟩
  · rw [RxRing.removeEmptyOldestDescriptor]
    exact if_neg (show ring.descriptorCount ≠ 0 by omega)
  · refine ⟨?_, ?_, Nat.mod_lt _ (by decide), Nat.mod_lt _ (by decide), ?_, ?_, ?_⟩
    · show window _ _ ((ring.descriptorHead + 1) % _) (ring.descriptorCount - 1) = _
      rw [window_mod]
      exact h.window_setHead _
    · show window ring.bytes _ ((ring.readIndex + b.bytes.length) % _)
        (ring.usedBytes - b.bytes.length) = _
      rw [h.window_dropped (by omega), burstBytes, List.flatMap_cons, List.drop_left' rfl]
      rfl
    · show ring.usedBytes - b.bytes.length ≤ _
      have := h.usedBytes
      omega
    · show ring.descriptorCount - 1 ≤ _
      have := h.descriptorCount
      omega
    · exact fun b' hb' => h.nonempty b' (List.mem_cons_of_mem _ hb')

/-- The loop drops what is asked for in as many turns as there are bytes, without underflow. -/
theorem dropLoop (turns : ℕ) {n : ℕ} (h : Stores ring bursts) (hn : n ≤ ring.usedBytes)
    (hturns : n ≤ turns) :
    ∃ ring', RxRing.dropLoop turns ring n = some ring' ∧ Stores ring' (dropOldest n bursts) ∧
      SameCounters ring ring' := by
  induction turns generalizing ring bursts n with
  | zero =>
    obtain rfl : n = 0 := by omega
    exact ⟨ring, rfl, by rw [dropOldest_zero h.nonempty]; exact h, .refl ring⟩
  | succ turns ih =>
    rw [RxRing.dropLoop]
    by_cases hzero : n = 0
    · subst hzero
      exact ⟨ring, rfl, by rw [dropOldest_zero h.nonempty]; exact h, .refl ring⟩
    rw [if_neg hzero]
    cases bursts with
    | nil =>
      have hlength := h.length_bytes
      simp only [burstBytes, List.flatMap_nil, List.length_nil] at hlength
      omega
    | cons b rest =>
      have hused := h.usedBytes_cons
      have holdest : ring.oldestDescriptor.length = b.bytes.length := by rw [h.oldest.1]; rfl
      have hpos := List.length_pos_iff.mpr (h.nonempty b List.mem_cons_self)
      simp only [holdest]
      by_cases hpart : n < b.bytes.length
      · rw [if_pos hpart, RxRing.dropFromOldest, if_neg (by omega), holdest, if_neg (by omega),
          Option.bind_some, Nat.sub_self]
        refine ⟨ring.cutOldest n, ?_, ?_, rfl, rfl, rfl, rfl, rfl, rfl, ⟨rfl, rfl⟩, rfl⟩
        · cases turns <;> rfl
        · rw [dropOldest, if_pos hpart]
          exact h.cutOldest hpart
      · rw [if_neg hpart, RxRing.dropFromOldest, if_neg (by omega), holdest,
          if_pos (Nat.sub_self _)]
        obtain ⟨ring', hremoved, hrest, hsame⟩ := h.removeOldest
        rw [hremoved, Option.bind_some]
        have hleft := hrest.length_bytes
        obtain ⟨ring'', hloop, hstores, hsame'⟩ := ih hrest
          (show n - b.bytes.length ≤ ring'.usedBytes by omega) (by omega)
        refine ⟨ring'', hloop, ?_, hsame.trans hsame'⟩
        rw [dropOldest, if_neg hpart]
        exact hstores

theorem dropOldestBytes (h : Stores ring bursts) {n : ℕ} (hn : n ≤ ring.usedBytes) :
    ∃ ring', ring.dropOldestBytes n = some ring' ∧ Stores ring' (dropOldest n bursts) ∧
      SameCounters ring ring' :=
  h.dropLoop n hn le_rfl

end Stores

namespace Stores

variable {ring : RxRing} {bursts rest : List Burst} {b : Burst}

/-- Bytes and their descriptor are written behind what is stored. -/
theorem append (h : Stores ring bursts) {kept : List UInt8} (hne : kept ≠ [])
    (hbytes : ring.usedBytes + kept.length ≤ ringBufferSizeBytes)
    (hroom : ring.descriptorCount < rxDescriptorCapacity) (channel : UInt8)
    (timestampUs call : ℕ) :
    Stores (ring.store channel timestampUs kept kept.length)
      (bursts ++ [⟨call, timestampUs, (ring.nextObservationSequence + 1) % 2 ^ 64, channel, kept⟩])
    where
  descriptors := by
    rw [List.map_append, ← h.descriptors]
    exact window_update_self hroom
  bytes := by
    have hself : window (wrap ring.bytes ringBufferSizeBytes
        ((ring.readIndex + ring.usedBytes) % ringBufferSizeBytes) kept) ringBufferSizeBytes
        (ring.readIndex + ring.usedBytes) kept.length = kept :=
      window_wrap_self (by decide) (by omega)
    show window (wrap ring.bytes _ _ kept) _ ring.readIndex (ring.usedBytes + kept.length) = _
    rw [window_append, window_wrap (by decide) hbytes, hself, h.bytes, burstBytes, burstBytes,
      List.flatMap_append]
    simp
  readIndex := h.readIndex
  descriptorHead := h.descriptorHead
  usedBytes := hbytes
  descriptorCount := hroom
  nonempty := by
    intro b hb
    rcases List.mem_append.mp hb with hb | hb
    · exact h.nonempty b hb
    · rw [List.mem_singleton.mp hb]
      exact hne

/-- The two straight reads give the oldest bytes of the oldest burst. -/
theorem read_oldest (h : Stores ring (b :: rest)) {n : ℕ} (hn : n ≤ b.bytes.length) :
    read ring.bytes ring.readIndex (min (ringBufferSizeBytes - ring.readIndex) n)
        ++ read ring.bytes 0 (n - min (ringBufferSizeBytes - ring.readIndex) n)
      = b.bytes.take n := by
  have hused := h.usedBytes_cons
  have hmax := h.usedBytes
  rw [window_eq_read h.readIndex (by omega), ← window_take (show n ≤ ring.usedBytes by omega),
    h.bytes, burstBytes, List.flatMap_cons, List.take_append_of_le_length hn]

end Stores

/-- The stores and their indices are those of before. -/
structure SameMemory (ring ring' : RxRing) : Prop where
  bytes : ring'.bytes = ring.bytes
  descriptors : ring'.descriptors = ring.descriptors
  readIndex : ring'.readIndex = ring.readIndex
  usedBytes : ring'.usedBytes = ring.usedBytes
  descriptorHead : ring'.descriptorHead = ring.descriptorHead
  descriptorCount : ring'.descriptorCount = ring.descriptorCount

theorem SameMemory.trans {r₁ r₂ r₃ : RxRing} (h₁ : SameMemory r₁ r₂) (h₂ : SameMemory r₂ r₃) :
    SameMemory r₁ r₃ where
  bytes := h₂.bytes.trans h₁.bytes
  descriptors := h₂.descriptors.trans h₁.descriptors
  readIndex := h₂.readIndex.trans h₁.readIndex
  usedBytes := h₂.usedBytes.trans h₁.usedBytes
  descriptorHead := h₂.descriptorHead.trans h₁.descriptorHead
  descriptorCount := h₂.descriptorCount.trans h₁.descriptorCount

theorem Stores.of_same {ring ring' : RxRing} {bursts : List Burst} (h : Stores ring bursts)
    (hsame : SameMemory ring ring') : Stores ring' bursts where
  descriptors := by
    rw [hsame.descriptors, hsame.descriptorHead, hsame.descriptorCount]
    exact h.descriptors
  bytes := by
    rw [hsame.bytes, hsame.readIndex, hsame.usedBytes]
    exact h.bytes
  readIndex := hsame.readIndex ▸ h.readIndex
  descriptorHead := hsame.descriptorHead ▸ h.descriptorHead
  usedBytes := hsame.usedBytes ▸ h.usedBytes
  descriptorCount := hsame.descriptorCount ▸ h.descriptorCount
  nonempty := h.nonempty

/-- A recorded drop touches the counters only. -/
theorem sameMemory_recordDrop (ring : RxRing) (dropped timestampUs : ℕ) :
    SameMemory ring (ring.recordDrop dropped timestampUs) := by
  unfold RxRing.recordDrop
  dsimp only
  split
  · exact ⟨rfl, rfl, rfl, rfl, rfl, rfl⟩
  · split <;> exact ⟨rfl, rfl, rfl, rfl, rfl, rfl⟩

/-! ## Counters -/

/-- The ring's episode and counters are those of the FIFO. -/
structure Counts (ring : RxRing) (f : RxFifo) : Prop where
  highWaterBytes : ring.highWaterBytes = f.highWaterBytes
  droppedBytesTotal : ring.droppedBytesTotal = f.droppedBytesTotal
  overflowEvents : ring.overflowEvents = f.overflowEvents
  nextObservationSequence : ring.nextObservationSequence = f.sequences
  active : ring.episodeActive = f.episode.isSome
  episode : ∀ e, f.episode = some e →
    e = ⟨ring.episodeFirstDropTimestampUs, ring.episodeDroppedBytes,
      ring.episodeObservationSequence⟩

theorem Counts.of_same {ring ring' : RxRing} {f : RxFifo} (h : Counts ring f)
    (hsame : SameCounters ring ring') : Counts ring' f where
  highWaterBytes := hsame.highWaterBytes.trans h.highWaterBytes
  droppedBytesTotal := hsame.droppedBytesTotal.trans h.droppedBytesTotal
  overflowEvents := hsame.overflowEvents.trans h.overflowEvents
  nextObservationSequence := hsame.nextObservationSequence.trans h.nextObservationSequence
  active := hsame.episode.2.trans h.active
  episode e he := by
    rw [hsame.episodeFirstDrop, hsame.episodeDroppedBytes, hsame.episode.1]
    exact h.episode e he

/-- The exact counters are in the range of 64 bits. -/
structure CountersFit (f : RxFifo) : Prop where
  sequences : f.sequences < 2 ^ 64
  droppedBytesTotal : f.droppedBytesTotal < 2 ^ 64

/-- No episode counts more than was dropped, nor are there more of them. -/
structure EpisodesCounted (f : RxFifo) : Prop where
  episode : ∀ e, f.episode = some e → e.droppedBytes ≤ f.droppedBytesTotal
  overflowEvents : f.overflowEvents ≤ f.droppedBytesTotal

theorem saturatingAddU64_eq {value increment : ℕ} (h : value + increment < 2 ^ 64) :
    saturatingAddU64 value increment = value + increment := by
  rw [saturatingAddU64, if_neg]
  unfold maxUint64
  omega

theorem RxFifo.record_mono (f : RxFifo) (dropped timestampUs : ℕ) :
    f.sequences ≤ (f.record dropped timestampUs).sequences ∧
      f.droppedBytesTotal ≤ (f.record dropped timestampUs).droppedBytesTotal := by
  unfold record
  split
  · exact ⟨le_rfl, le_rfl⟩
  · split <;> exact ⟨by simp, by simp⟩

theorem EpisodesCounted.record {f : RxFifo} (h : EpisodesCounted f) (dropped timestampUs : ℕ) :
    EpisodesCounted (f.record dropped timestampUs) := by
  unfold RxFifo.record
  split
  · exact h
  rename_i hdropped
  have hevents := h.overflowEvents
  split
  · rename_i e he
    have hepisode := h.episode e he
    constructor
    · intro e' he'
      cases he'
      simp only
      omega
    · simp only
      omega
  · constructor
    · intro e' he'
      cases he'
      simp only
      omega
    · simp only
      omega

theorem Counts.recordDrop {ring : RxRing} {f : RxFifo} (h : Counts ring f)
    (hepisodes : EpisodesCounted f) (dropped timestampUs : ℕ)
    (hfit : CountersFit (f.record dropped timestampUs)) :
    Counts (ring.recordDrop dropped timestampUs) (f.record dropped timestampUs) := by
  obtain ⟨hseq, htotal⟩ := hfit
  unfold RxRing.recordDrop
  unfold RxFifo.record at hseq htotal ⊢
  by_cases hdropped : dropped = 0
  · simp only [hdropped, if_true]
    exact h
  simp only [hdropped, if_false] at hseq htotal ⊢
  have hactive := h.active
  cases he : f.episode with
  | some e =>
    simp only [he] at hseq htotal ⊢
    have hepisode := h.episode e he
    have hcounted := hepisodes.episode e he
    rw [he, Option.isSome_some] at hactive
    simp only [hactive, if_true]
    refine ⟨h.highWaterBytes, ?_, h.overflowEvents, h.nextObservationSequence, rfl, ?_⟩
    · show saturatingAddU64 ring.droppedBytesTotal dropped = _
      rw [h.droppedBytesTotal, saturatingAddU64_eq htotal]
    · intro e' he'
      cases he'
      subst hepisode
      simp only at hcounted ⊢
      rw [saturatingAddU64_eq (by omega)]
  | none =>
    simp only [he] at hseq htotal ⊢
    have hevents := hepisodes.overflowEvents
    rw [he, Option.isSome_none] at hactive
    have hdrawn : (ring.nextObservationSequence + 1) % 2 ^ 64 = f.sequences + 1 := by
      rw [h.nextObservationSequence, Nat.mod_eq_of_lt hseq]
    simp only [hactive]
    refine ⟨h.highWaterBytes, ?_, ?_, hdrawn, rfl, ?_⟩
    · show saturatingAddU64 ring.droppedBytesTotal dropped = _
      rw [h.droppedBytesTotal, saturatingAddU64_eq htotal]
    · show saturatingAddU64 ring.overflowEvents 1 = _
      rw [h.overflowEvents, saturatingAddU64_eq (by omega)]
    · intro e' he'
      cases he'
      show _ = RxOverflow.mk timestampUs (saturatingAddU64 0 dropped)
        ((ring.nextObservationSequence + 1) % 2 ^ 64)
      rw [hdrawn, saturatingAddU64_eq (by omega), Nat.zero_add]

/-! ## Operations -/

/-- The ring is the FIFO. -/
structure Refines (ring : RxRing) (f : RxFifo) : Prop where
  stores : Stores ring f.bursts
  counts : Counts ring f
  episodes : EpisodesCounted f

namespace Refines

variable {ring : RxRing} {f : RxFifo}

theorem usedBytes (h : Refines ring f) : ring.usedBytes = f.usedBytes := h.stores.length_bytes

theorem freeDescriptor (h : Refines ring f) :
    ∃ ring', ring.freeDescriptor = some (ring', f.descriptorDrop) ∧
      Stores ring' (dropOldest f.descriptorDrop f.bursts) ∧ SameCounters ring ring' ∧
      ring'.descriptorCount < rxDescriptorCapacity ∧
      ring'.usedBytes = f.usedBytes - f.descriptorDrop ∧ f.descriptorDrop ≤ f.usedBytes := by
  have hcount := h.stores.length_bursts
  have hmax := h.stores.descriptorCount
  unfold RxRing.freeDescriptor RxFifo.descriptorDrop
  by_cases hfull : f.bursts.length = rxDescriptorCapacity
  · rw [if_pos (hcount.trans hfull), if_pos hfull]
    cases hbursts : f.bursts with
    | nil =>
      rw [hbursts] at hfull
      cases hfull
    | cons b rest =>
      have hstores := h.stores
      rw [hbursts] at hstores hcount
      rw [List.length_cons] at hcount
      have hused := hstores.usedBytes_cons
      have holdest : ring.oldestDescriptor.length = b.bytes.length := by rw [hstores.oldest.1]; rfl
      obtain ⟨ring', hdrop, hstores', hsame⟩ :=
        hstores.dropOldestBytes (show b.bytes.length ≤ ring.usedBytes by omega)
      have hcount' := hstores'.length_bursts
      have hused' := hstores'.length_bytes
      rw [burstBytes_dropOldest, List.length_drop, ← hstores.length_bytes] at hused'
      rw [dropOldest_head fun b' hb' => hstores.nonempty b' (List.mem_cons_of_mem _ hb')] at hcount'
      simp only [List.head?_cons, Option.map_some, Option.getD_some, holdest, hdrop]
      refine ⟨ring', rfl, hstores', hsame, by omega, ?_, ?_⟩
      · rw [hused', h.usedBytes]
      · rw [← h.usedBytes]
        omega
  · rw [if_neg fun heq => hfull (hcount.symm.trans heq), if_neg hfull]
    refine ⟨ring, rfl, ?_, .refl ring, by omega, h.usedBytes, Nat.zero_le _⟩
    rw [dropOldest_zero h.stores.nonempty]
    exact h.stores

theorem freeBytes {bursts : List Burst} (h : Stores ring bursts) {kept : ℕ}
    (hkept : kept ≤ ringBufferSizeBytes) :
    ∃ ring', ring.freeBytes kept
        = some (ring', ring.usedBytes - (ringBufferSizeBytes - kept)) ∧
      Stores ring' (dropOldest (ring.usedBytes - (ringBufferSizeBytes - kept)) bursts) ∧
      SameCounters ring ring' ∧ ring'.descriptorCount ≤ ring.descriptorCount ∧
      ring'.usedBytes + kept ≤ ringBufferSizeBytes := by
  unfold RxRing.freeBytes
  by_cases hfull : ringBufferSizeBytes - kept < ring.usedBytes
  · rw [if_pos hfull]
    obtain ⟨ring', hdrop, hstores, hsame⟩ := h.dropOldestBytes
      (show ring.usedBytes - (ringBufferSizeBytes - kept) ≤ ring.usedBytes by omega)
    have hused := hstores.length_bytes
    rw [burstBytes_dropOldest, List.length_drop, ← h.length_bytes] at hused
    have hcount := length_dropOldest_le (ring.usedBytes - (ringBufferSizeBytes - kept)) bursts
    rw [← hstores.length_bursts, ← h.length_bursts] at hcount
    refine ⟨ring', ?_, hstores, hsame, hcount, by omega⟩
    simp only [hdrop, Option.map_some]
  · rw [if_neg hfull]
    refine ⟨ring, ?_, ?_, .refl ring, le_rfl, by omega⟩
    · rw [show ring.usedBytes - (ringBufferSizeBytes - kept) = 0 by omega]
    · rw [show ring.usedBytes - (ringBufferSizeBytes - kept) = 0 by omega,
        dropOldest_zero h.nonempty]
      exact h

theorem length_keptOf (data : List UInt8) :
    (RxFifo.keptOf data).length
      = if ringBufferSizeBytes < data.length then ringBufferSizeBytes else data.length := by
  rw [RxFifo.keptOf, List.length_drop]
  split <;> omega

theorem drop_keptOf (data : List UInt8) :
    data.drop (data.length - (RxFifo.keptOf data).length) = RxFifo.keptOf data := by
  have hlength : data.length - (RxFifo.keptOf data).length = data.length - ringBufferSizeBytes := by
    rw [length_keptOf]
    split <;> omega
  rw [hlength]
  rfl

theorem length_keptOf_le (data : List UInt8) :
    (RxFifo.keptOf data).length ≤ ringBufferSizeBytes := by
  rw [length_keptOf]
  split <;> omega

theorem keptOf_ne_nil {data : List UInt8} (h : data ≠ []) : RxFifo.keptOf data ≠ [] := by
  have hpos := List.length_pos_iff.mpr h
  intro hnil
  have hlength := length_keptOf data
  rw [hnil, List.length_nil] at hlength
  split at hlength
  · cases hlength
  · omega

/-- Records of drops leave the bursts and what else they do not count. -/
theorem record_bursts (f : RxFifo) (dropped timestampUs : ℕ) :
    (f.record dropped timestampUs).bursts = f.bursts ∧
      (f.record dropped timestampUs).pushes = f.pushes ∧
      (f.record dropped timestampUs).highWaterBytes = f.highWaterBytes := by
  unfold RxFifo.record
  split
  · exact ⟨rfl, rfl, rfl⟩
  · split <;> exact ⟨rfl, rfl, rfl⟩

theorem recordDrop (h : Refines ring f) (dropped timestampUs : ℕ)
    (hfit : CountersFit (f.record dropped timestampUs)) :
    Refines (ring.recordDrop dropped timestampUs) (f.record dropped timestampUs) where
  stores := by
    rw [(record_bursts f dropped timestampUs).1]
    exact h.stores.of_same (sameMemory_recordDrop ring dropped timestampUs)
  counts := h.counts.recordDrop h.episodes dropped timestampUs hfit
  episodes := h.episodes.record dropped timestampUs

theorem of_append {call : ℕ} {channel : UInt8} {timestampUs : ℕ} {kept : List UInt8}
    (h : CountersFit (f.append call channel timestampUs kept)) : CountersFit f := by
  have hlt : f.sequences + 1 < 2 ^ 64 := h.sequences
  exact ⟨by omega, h.droppedBytesTotal⟩

/-- Appending to ring and FIFO, once there is room. -/
theorem append (h : Refines ring f) {kept : List UInt8} (hne : kept ≠ [])
    (hbytes : ring.usedBytes + kept.length ≤ ringBufferSizeBytes)
    (hroom : ring.descriptorCount < rxDescriptorCapacity) (call : ℕ) (channel : UInt8)
    (timestampUs : ℕ) (hfit : CountersFit (f.append call channel timestampUs kept)) :
    Refines (ring.store channel timestampUs kept kept.length)
      (f.append call channel timestampUs kept) := by
  have hsequence : (ring.nextObservationSequence + 1) % 2 ^ 64 = f.sequences + 1 := by
    have hlt : f.sequences + 1 < 2 ^ 64 := hfit.sequences
    rw [h.counts.nextObservationSequence, Nat.mod_eq_of_lt hlt]
  have hstores := h.stores.append hne hbytes hroom channel timestampUs call
  rw [hsequence] at hstores
  refine ⟨hstores, ?_, ⟨h.episodes.1, h.episodes.2⟩⟩
  refine ⟨?_, h.counts.droppedBytesTotal, h.counts.overflowEvents, hsequence, h.counts.active,
    h.counts.episode⟩
  have hlength : ring.usedBytes + kept.length = (burstBytes
      (f.bursts ++ [⟨call, timestampUs, f.sequences + 1, channel, kept⟩])).length :=
    hstores.length_bytes
  show (if ring.highWaterBytes < ring.usedBytes + kept.length then ring.usedBytes + kept.length
    else ring.highWaterBytes) = max f.highWaterBytes _
  rw [← hlength, h.counts.highWaterBytes]
  split <;> omega

theorem push (h : Refines ring f) (channel : UInt8) (timestampUs : ℕ) (data : List UInt8)
    (hfit : CountersFit (f.push channel timestampUs data)) :
    ∃ ring', ring.push channel timestampUs data = some ring' ∧
      Refines ring' (f.push channel timestampUs data) := by
  by_cases hdata : data = []
  · subst hdata
    exact ⟨ring, rfl, h.stores, ⟨h.counts.1, h.counts.2, h.counts.3, h.counts.4, h.counts.5,
      h.counts.6⟩, ⟨h.episodes.1, h.episodes.2⟩⟩
  have hkept := length_keptOf data
  obtain ⟨ring₁, hdescriptor, hstores₁, hsame₁, hroom₁, hused₁, hdrop₁⟩ := h.freeDescriptor
  obtain ⟨ring₂, hbytes, hstores₂, hsame₂, hroom₂, hused₂⟩ :=
    freeBytes hstores₁ (length_keptOf_le data)
  have hbyteSpace : ring₁.usedBytes - (ringBufferSizeBytes - (RxFifo.keptOf data).length)
      = f.byteSpaceDrop (RxFifo.keptOf data).length := by
    rw [hused₁, RxFifo.byteSpaceDrop]
  rw [hbyteSpace] at hbytes hstores₂
  -- The drops are recorded one after the other.
  unfold RxFifo.push at hfit ⊢
  rw [if_neg hdata] at hfit ⊢
  dsimp only at hfit ⊢
  generalize hf₀ : ({ f with
    bursts := dropOldest (f.byteSpaceDrop (RxFifo.keptOf data).length)
      (dropOldest f.descriptorDrop f.bursts)
    pushes := f.pushes + 1 } : RxFifo) = f₀ at hfit ⊢
  have h₀ : Refines ring₂ f₀ := by
    subst hf₀
    have hcounts := h.counts.of_same (hsame₁.trans hsame₂)
    exact ⟨hstores₂, ⟨hcounts.1, hcounts.2, hcounts.3, hcounts.4, hcounts.5, hcounts.6⟩,
      ⟨h.episodes.1, h.episodes.2⟩⟩
  generalize hinput : data.length - (RxFifo.keptOf data).length = input at hfit ⊢
  generalize hretained : f.descriptorDrop + f.byteSpaceDrop (RxFifo.keptOf data).length = retained
    at hfit ⊢
  have hrecorded := of_append hfit
  have hmono := (f₀.record input timestampUs).record_mono retained timestampUs
  have h₁ := h₀.recordDrop input timestampUs
    ⟨hmono.1.trans_lt hrecorded.1, hmono.2.trans_lt hrecorded.2⟩
  have h₂ := h₁.recordDrop retained timestampUs hrecorded
  have hsame := (sameMemory_recordDrop ring₂ input timestampUs).trans
    (sameMemory_recordDrop _ retained timestampUs)
  have happended := h₂.append (keptOf_ne_nil hdata)
    (by rw [hsame.usedBytes]; exact hused₂)
    (by rw [hsame.descriptorCount]; exact hroom₂.trans_lt hroom₁) f.pushes channel timestampUs hfit
  refine ⟨_, ?_, happended⟩
  rw [RxRing.push_eq hdata hkept hdescriptor hbytes, drop_keptOf, hinput, hretained]

theorem init : Refines .init {} where
  stores := ⟨rfl, rfl, by decide, by decide, Nat.zero_le _, Nat.zero_le _, nofun⟩
  counts := ⟨rfl, rfl, rfl, rfl, rfl, nofun⟩
  episodes := ⟨nofun, le_rfl⟩

/-- Both look at the oldest burst and the open episode. -/
theorem peekObservation (h : Refines ring f) :
    ring.peekObservation = f.peekObservation ∧ ring.nextObservation = f.nextObservation := by
  have hstores := h.stores
  have hcount := hstores.length_bursts
  have hactive := h.counts.active
  have hepisode := h.counts.episode
  unfold RxRing.peekObservation RxRing.nextObservation RxFifo.peekObservation
    RxFifo.nextObservation
  cases hbursts : f.bursts with
  | nil =>
    rw [hbursts, List.length_nil] at hcount
    cases he : f.episode with
    | none =>
      rw [he, Option.isSome_none] at hactive
      simp [hcount, hactive]
    | some e =>
      rw [he, Option.isSome_some] at hactive
      simp [hcount, hactive, hepisode e he]
  | cons b rest =>
    rw [hbursts] at hcount hstores
    have hne : ring.descriptorCount ≠ 0 := by
      rw [hcount]
      exact Nat.succ_ne_zero _
    have hsequence : ring.oldestDescriptor.observationSequence = b.observationSequence := by
      rw [hstores.oldest.1]
      rfl
    cases he : f.episode with
    | none =>
      rw [he, Option.isSome_none] at hactive
      simp [hne, hactive, hsequence]
    | some e =>
      rw [he, Option.isSome_some] at hactive
      have heq : ring.episodeObservationSequence = e.observationSequence := by rw [hepisode e he]
      simp only [hne, if_false, hactive, hsequence, heq, Bool.not_true, Bool.false_or,
        decide_eq_true_eq]
      by_cases hlt : b.observationSequence < e.observationSequence
      · simp [hlt]
      · simp [hlt]

theorem take (h : Refines ring f) (outputCapacity : ℕ) :
    ∃ ring', ring.take outputCapacity = some (ring', (f.take outputCapacity).2) ∧
      Refines ring' (f.take outputCapacity).1 := by
  have hstores := h.stores
  have hcount := hstores.length_bursts
  have hnext := h.peekObservation.2
  unfold RxRing.take RxFifo.take
  cases hbursts : f.bursts with
  | nil =>
    rw [hbursts, List.length_nil] at hcount
    exact ⟨ring, by rw [if_pos (.inr hcount)], h⟩
  | cons b rest =>
    rw [hbursts] at hcount hstores
    have hne : ring.descriptorCount ≠ 0 := by
      rw [hcount]
      exact Nat.succ_ne_zero _
    dsimp only
    by_cases hcapacity : outputCapacity = 0
    · exact ⟨ring, by rw [if_pos (.inl hcapacity), if_pos hcapacity],
        by rw [if_pos hcapacity]; exact h⟩
    rw [if_neg (show ¬ (outputCapacity = 0 ∨ ring.descriptorCount = 0) by omega),
      if_neg hcapacity, hnext]
    by_cases hagain : f.nextObservation = .overflow
    · exact ⟨ring, by rw [if_pos hagain, if_pos hagain], by rw [if_pos hagain]; exact h⟩
    rw [if_neg hagain, if_neg hagain, hstores.oldest.1]
    -- The bytes are read before they are dropped.
    have hlength : (if outputCapacity < b.descriptor.length then outputCapacity
        else b.descriptor.length) = min outputCapacity b.bytes.length := by
      show (if outputCapacity < b.bytes.length then outputCapacity else b.bytes.length) = _
      split <;> omega
    have hused := hstores.usedBytes_cons
    obtain ⟨ring', hdrop, hstores', hsame⟩ := hstores.dropOldestBytes
      (show min outputCapacity b.bytes.length ≤ ring.usedBytes by omega)
    have hcounts := h.counts.of_same hsame
    have hread := hstores.read_oldest (show min outputCapacity b.bytes.length ≤ b.bytes.length by
      omega)
    rw [← List.take_eq_take_min] at hread
    refine ⟨ring', ?_, hstores', ⟨hcounts.1, hcounts.2, hcounts.3, hcounts.4, hcounts.5,
      hcounts.6⟩, ⟨h.episodes.1, h.episodes.2⟩⟩
    rw [hlength, hdrop, Option.map_some, hread]
    rfl

theorem claimOverflow (h : Refines ring f) :
    ring.claimOverflow.2 = f.claimOverflow.2 ∧ Refines ring.claimOverflow.1 f.claimOverflow.1 := by
  have hactive := h.counts.active
  have hstores := h.stores
  have hcounts := h.counts
  unfold RxRing.claimOverflow RxFifo.claimOverflow
  cases he : f.episode with
  | none =>
    rw [he, Option.isSome_none] at hactive
    rw [hactive]
    refine ⟨rfl, hstores, ⟨hcounts.1, hcounts.2, hcounts.3, hcounts.4, hactive, nofun⟩, ?_⟩
    exact ⟨nofun, h.episodes.2⟩
  | some e =>
    rw [he, Option.isSome_some] at hactive
    rw [hactive]
    refine ⟨?_, ?_, ⟨hcounts.1, hcounts.2, hcounts.3, hcounts.4, rfl, nofun⟩,
      ⟨nofun, h.episodes.2⟩⟩
    · exact congrArg some (hcounts.episode e he).symm
    · exact ⟨hstores.1, hstores.2, hstores.3, hstores.4, hstores.5, hstores.6, hstores.7⟩

theorem takeBefore (h : Refines ring f) (sequenceLimit : Option ℕ) (outputCapacity : ℕ) :
    ∃ ring', ring.takeBefore sequenceLimit outputCapacity
        = some (ring', (f.takeBefore sequenceLimit outputCapacity).2) ∧
      Refines ring' (f.takeBefore sequenceLimit outputCapacity).1 := by
  unfold RxRing.takeBefore RxFifo.takeBefore
  rw [h.peekObservation.1]
  cases f.peekObservation with
  | none => exact ⟨ring, rfl, h⟩
  | some observation =>
    obtain ⟨kind, sequence⟩ := observation
    dsimp only
    split
    · exact ⟨ring, rfl, h⟩
    · split
      · obtain ⟨hclaimed, hrefines⟩ := h.claimOverflow
        refine ⟨ring.claimOverflow.1, ?_, hrefines⟩
        rw [hclaimed]
        rfl
      · obtain ⟨ring', htake, hrefines⟩ := h.take outputCapacity
        exact ⟨ring', by rw [htake, Option.map_some], hrefines⟩

theorem snapshot (h : Refines ring f) : ring.snapshot = f.snapshot := by
  rw [RxRing.snapshot, RxFifo.snapshot, h.usedBytes, h.counts.highWaterBytes,
    h.counts.droppedBytesTotal, h.counts.overflowEvents]

/-- Every call of the ring is that call of the FIFO. -/
theorem call (h : Refines ring f) (c : RxCall) (hfit : CountersFit (f.call c).1) :
    ∃ ring', ring.call c = some (ring', (f.call c).2) ∧ Refines ring' (f.call c).1 := by
  cases c with
  | init => exact ⟨.init, rfl, .init⟩
  | push channel timestampUs data =>
    obtain ⟨ring', hpush, hrefines⟩ := h.push channel timestampUs data hfit
    exact ⟨ring', by rw [RxRing.call, hpush]; rfl, hrefines⟩
  | take outputCapacity =>
    obtain ⟨ring', htake, hrefines⟩ := h.take outputCapacity
    exact ⟨ring', by rw [RxRing.call, htake]; rfl, hrefines⟩
  | takeBefore sequenceLimit outputCapacity =>
    obtain ⟨ring', htake, hrefines⟩ := h.takeBefore sequenceLimit outputCapacity
    exact ⟨ring', by rw [RxRing.call, htake]; rfl, hrefines⟩
  | claimOverflow =>
    obtain ⟨hclaimed, hrefines⟩ := h.claimOverflow
    exact ⟨ring.claimOverflow.1, by rw [RxRing.call, hclaimed]; rfl, hrefines⟩
  | snapshotObservation =>
    have hlt : f.sequences + 1 < 2 ^ 64 := hfit.sequences
    have hsequence : (ring.nextObservationSequence + 1) % 2 ^ 64 = f.sequences + 1 := by
      rw [h.counts.nextObservationSequence, Nat.mod_eq_of_lt hlt]
    refine ⟨ring.drawSequence, ?_, h.stores.of_same ⟨rfl, rfl, rfl, rfl, rfl, rfl⟩,
      ⟨h.counts.1, h.counts.2, h.counts.3, hsequence, h.counts.5, h.counts.6⟩,
      ⟨h.episodes.1, h.episodes.2⟩⟩
    rw [RxRing.call, RxRing.snapshotObservation, h.snapshot]
    dsimp only
    rw [RxRing.drawSequence, hsequence]
    rfl
  | discardRetained =>
    refine ⟨ring.discardRetained, rfl, ?_, ⟨h.counts.1, h.counts.2, h.counts.3, h.counts.4, rfl,
      nofun⟩, ⟨nofun, h.episodes.2⟩⟩
    exact ⟨rfl, rfl, show 0 < ringBufferSizeBytes by decide,
      show 0 < rxDescriptorCapacity by decide, Nat.zero_le _, Nat.zero_le _, nofun⟩

end Refines
