/-
# The order of device evidence

The RX callback and the main thread of the firmware over the RX ring.  The callback reads
the clock once and pushes what it finds under that reading; the main thread reads the clock,
takes a status snapshot under the ring's lock if one is due, and writes evidence out in the
order of the ring's observation sequences.  The host measures every timestamp from the first
one of its connection and fails on an earlier one.

Evidence leaves in the order it was drawn in, so its timestamps never go back as long as
every observation is drawn with a clock reading that no observation before it passes.
-/
import DutchMate.RxRingRun

/-! ## Telemetry schedule -/

def bufferStatusIntervalUs : ℕ := 1000000

structure BufferStatusObservation where
  timestampUs : ℕ
  snapshot : RxSnapshot
  observationSequence : ℕ
  deriving DecidableEq, Repr

structure TelemetrySchedule where
  active : Bool
  pendingStatus : Option BufferStatusObservation
  nextStatusDueUs : ℕ
  deriving DecidableEq, Repr

namespace TelemetrySchedule

def start (nowUs : ℕ) : TelemetrySchedule where
  active := true
  pendingStatus := none
  nextStatusDueUs := nowUs + bufferStatusIntervalUs

variable (schedule : TelemetrySchedule)

def statusDue (nowUs : ℕ) : Bool := schedule.active && schedule.nextStatusDueUs ≤ nowUs

/-- A status that was not sent yet gives way to the newer one. -/
def stageStatus (observation : BufferStatusObservation) : TelemetrySchedule :=
  { schedule with
    pendingStatus := some observation
    nextStatusDueUs := observation.timestampUs + bufferStatusIntervalUs }

def statusSent : TelemetrySchedule := { schedule with pendingStatus := none }

end TelemetrySchedule

/-! ## Evidence -/

/-- The frames of evidence. -/
inductive Evidence where
  | uart (chunk : RxChunk)
  | overflow (episode : RxOverflow)
  | status (timestampUs : ℕ) (snapshot : RxSnapshot)
  deriving DecidableEq, Repr

namespace Evidence

def timestampUs : Evidence → ℕ
  | uart chunk => chunk.timestampUs
  | overflow episode => episode.firstDropTimestampUs
  | status timestampUs _ => timestampUs

/-- The timestamp of what the RX callback observed. -/
def receivedUs? : Evidence → Option ℕ
  | uart chunk => some chunk.timestampUs
  | overflow episode => some episode.firstDropTimestampUs
  | status _ _ => none

/-- The timestamp of a status. -/
def statusUs? : Evidence → Option ℕ
  | status timestampUs _ => some timestampUs
  | _ => none

end Evidence

/-- The firmware within one connection: the clock, what the two threads share, the clock
readings they hold, and the evidence written so far. -/
structure EvidenceEpoch where
  clockUs : ℕ
  ring : RxRing
  schedule : TelemetrySchedule
  /-- the reading of the RX callback under way -/
  callback : Option ℕ
  /-- the reading of the stager on its way to the snapshot -/
  staging : Option ℕ
  emitted : List Evidence

inductive EvidenceStep where
  | tick (us : ℕ)
  | callbackBegins
  | callbackPushes (data : List UInt8)
  | callbackEnds
  | stagerReads
  | stagerSnapshots
  | drains
  deriving DecidableEq, Repr

def uartStagingBytes : ℕ := 1024

/-- A ring as earlier epochs leave it. -/
structure UsedRing where
  ring : RxRing
  fifo : RxFifo
  refines : Refines ring fifo
  fit : CountersFit fifo

namespace EvidenceEpoch

def start (used : UsedRing) (nowUs : ℕ) : EvidenceEpoch where
  clockUs := nowUs
  ring := used.ring.discardRetained
  schedule := .start nowUs
  callback := none
  staging := none
  emitted := []

variable (s : EvidenceEpoch)

def emit (evidence : Evidence) : EvidenceEpoch := { s with emitted := s.emitted ++ [evidence] }

/-- `drain_one_evidence`; `none` when the ring has no chunk to give after all. -/
def drainOneEvidence : Option EvidenceEpoch :=
  let status := s.schedule.pendingStatus
  match s.ring.takeBefore (status.map BufferStatusObservation.observationSequence)
    uartStagingBytes with
  | none => none
  | some (ring, .chunk (.chunk chunk)) => some ({ s with ring := ring }.emit (.uart chunk))
  | some (_, .chunk _) => none
  | some (ring, .overflow overflow) => some ({ s with ring := ring }.emit (.overflow overflow))
  | some (ring, .nothing) =>
    match status with
    | none => some { s with ring := ring }
    | some status =>
      some ({ s with ring := ring, schedule := s.schedule.statusSent }.emit
        (.status status.timestampUs status.snapshot))

/-- A step of the clock, the callback or the main thread; one that has no place does nothing. -/
def step : EvidenceStep → Option EvidenceEpoch
  | .tick us => some { s with clockUs := s.clockUs + us }
  | .callbackBegins =>
    some (if s.callback.isSome then s else { s with callback := some s.clockUs })
  | .callbackPushes data =>
    match s.callback with
    | none => some s
    | some timestampUs => (s.ring.push 0 timestampUs data).map fun ring => { s with ring := ring }
  | .callbackEnds => some { s with callback := none }
  | .stagerReads =>
    some (if s.staging.isSome || !s.schedule.statusDue s.clockUs then s
      else { s with staging := some s.clockUs })
  | .stagerSnapshots =>
    match s.staging with
    | none => some s
    | some nowUs =>
      let (ring, snapshot, sequence) := s.ring.snapshotObservation
      some
        { s with
          ring := ring
          schedule := s.schedule.stageStatus ⟨nowUs, snapshot, sequence⟩
          staging := none }
  | .drains => if s.staging.isSome then some s else s.drainOneEvidence

def run : EvidenceEpoch → List EvidenceStep → Option EvidenceEpoch
  | s, [] => some s
  | s, step :: steps => (s.step step).bind fun s => s.run steps

/-! ## The host -/

/-- `_relative_timestamp`. -/
def relativeTimestamp (timestampUs sourceOriginUs : ℕ) : Except String ℕ :=
  if timestampUs < sourceOriginUs then
    .error "Enhanced event timestamp precedes its segment origin"
  else .ok (timestampUs - sourceOriginUs)

/-- What the host makes of the timestamps of a connection; the first is the origin. -/
def normalizeTimestamps : Option ℕ → List ℕ → Except String (List ℕ)
  | _, [] => .ok []
  | origin, timestampUs :: rest => do
    let origin := origin.getD timestampUs
    let relative ← relativeTimestamp timestampUs origin
    return relative :: (← normalizeTimestamps (some origin) rest)

/-! ## Order -/

def timestamps : List ℕ := s.emitted.map Evidence.timestampUs

/-- The readings of callbacks whose observations the ring holds or the host was sent. -/
def receivedUs : List ℕ :=
  s.emitted.filterMap Evidence.receivedUs? ++ s.ring.liveDescriptors.map RxDescriptor.timestampUs
    ++ if s.ring.episodeActive then [s.ring.episodeFirstDropTimestampUs] else []

/-- The readings of statuses that are pending or were sent. -/
def statusUs : List ℕ :=
  s.emitted.filterMap Evidence.statusUs?
    ++ (s.schedule.pendingStatus.map BufferStatusObservation.timestampUs).toList

/-- The ring's 64-bit counters have room for what a step of so many bytes adds. -/
def CountersRoom (length : ℕ) : Prop :=
  s.ring.nextObservationSequence + 2 < 2 ^ 64 ∧
    s.ring.droppedBytesTotal + s.ring.usedBytes + length < 2 ^ 64

instance (length : ℕ) : Decidable (s.CountersRoom length) :=
  inferInstanceAs (Decidable (_ ∧ _))

/-- A push comes with a reading no status has passed, a status with a reading no push has. -/
def Orderly : EvidenceStep → Prop
  | .callbackPushes data => ∀ timestampUs ∈ s.callback, data ≠ [] →
    (∀ u ∈ s.statusUs, u ≤ timestampUs) ∧ s.CountersRoom data.length
  | .stagerSnapshots => ∀ nowUs ∈ s.staging, (∀ u ∈ s.receivedUs, u ≤ nowUs) ∧ s.CountersRoom 0
  | _ => True

instance : (step : EvidenceStep) → Decidable (s.Orderly step)
  | .tick _ => inferInstanceAs (Decidable True)
  | .callbackBegins => inferInstanceAs (Decidable True)
  | .callbackPushes data => inferInstanceAs (Decidable (∀ timestampUs ∈ s.callback, data ≠ [] →
    (∀ u ∈ s.statusUs, u ≤ timestampUs) ∧ s.CountersRoom data.length))
  | .callbackEnds => inferInstanceAs (Decidable True)
  | .stagerReads => inferInstanceAs (Decidable True)
  | .stagerSnapshots => inferInstanceAs (Decidable (∀ nowUs ∈ s.staging,
    (∀ u ∈ s.receivedUs, u ≤ nowUs) ∧ s.CountersRoom 0))
  | .drains => inferInstanceAs (Decidable True)

def OrderlyThroughout : EvidenceEpoch → List EvidenceStep → Prop
  | _, [] => True
  | s, step :: steps => s.Orderly step ∧ ∀ s' ∈ s.step step, s'.OrderlyThroughout steps

instance decidableOrderlyThroughout :
    (s : EvidenceEpoch) → (steps : List EvidenceStep) → Decidable (s.OrderlyThroughout steps)
  | _, [] => inferInstanceAs (Decidable True)
  | s, step :: steps =>
    let _ := fun s' : EvidenceEpoch => decidableOrderlyThroughout s' steps
    inferInstanceAs (Decidable (s.Orderly step ∧ ∀ s' ∈ s.step step, s'.OrderlyThroughout steps))

/-- Timestamps never go back, and the host takes them all. -/
structure TimestampsInOrder : Prop where
  sorted : s.timestamps.Pairwise (· ≤ ·)
  normalized : ∃ relative, normalizeTimestamps none s.timestamps = .ok relative

end EvidenceEpoch

/-! ## Marks of observations -/

/-- An observation's sequence with the reading it was made at. -/
abbrev Mark := ℕ × ℕ

def Burst.mark (b : Burst) : Mark := (b.observationSequence, b.timestampUs)

def RxOverflow.mark (e : RxOverflow) : Mark := (e.observationSequence, e.firstDropTimestampUs)

def BufferStatusObservation.mark (o : BufferStatusObservation) : Mark :=
  (o.observationSequence, o.timestampUs)

namespace RxFifo

def marks (f : RxFifo) : List Mark := f.bursts.map Burst.mark ++ (f.episode.map RxOverflow.mark).toList

theorem pending_eq (f : RxFifo) : f.pending = f.marks.map Prod.fst := by
  unfold pending marks
  rw [List.map_append, List.map_map]
  congr 1
  cases f.episode <;> rfl

/-- The marks of `f'` are those of `f` and new ones, drawn after them with one reading. -/
structure Draws (timestampUs : ℕ) (f f' : RxFifo) : Prop where
  sequences : f.sequences ≤ f'.sequences
  marks : ∀ m ∈ f'.marks, m ∈ f.marks ∨
    (f.sequences < m.1 ∧ m.1 ≤ f'.sequences ∧ m.2 = timestampUs)

variable {f f' f'' : RxFifo} {timestampUs : ℕ}

theorem Draws.trans (h : Draws timestampUs f f') (h' : Draws timestampUs f' f'') :
    Draws timestampUs f f'' where
  sequences := h.sequences.trans h'.sequences
  marks m hm := by
    have hle := h.sequences
    have hle' := h'.sequences
    rcases h'.marks m hm with hm | ⟨hlt, hm, htime⟩
    · rcases h.marks m hm with hm | ⟨hlt, hm, htime⟩
      · exact .inl hm
      · exact .inr ⟨hlt, by omega, htime⟩
    · exact .inr ⟨by omega, hm, htime⟩

theorem marks_dropOldest (n : ℕ) (bursts : List Burst) :
    (dropOldest n bursts).map Burst.mark <:+ bursts.map Burst.mark := by
  induction bursts generalizing n with
  | nil => exact List.suffix_refl _
  | cons b rest ih =>
    rw [dropOldest]
    split
    · exact List.suffix_refl _
    · exact (ih _).trans (List.suffix_cons _ _)

theorem mem_marks_dropOldest {n : ℕ} {m : Mark}
    (h : m ∈ ({ f with bursts := dropOldest n f.bursts } : RxFifo).marks) : m ∈ f.marks := by
  rcases List.mem_append.mp h with h | h
  · exact List.mem_append_left _ ((marks_dropOldest n f.bursts).subset h)
  · exact List.mem_append_right _ h

theorem draws_record (f : RxFifo) (dropped timestampUs : ℕ) :
    Draws timestampUs f (f.record dropped timestampUs) := by
  unfold record
  split
  · exact ⟨le_rfl, fun m hm => .inl hm⟩
  split
  · rename_i e he
    refine ⟨le_rfl, fun m hm => .inl ?_⟩
    rw [marks, he]
    exact hm
  · refine ⟨Nat.le_succ _, fun m hm => ?_⟩
    rcases List.mem_append.mp hm with hm | hm
    · exact .inl (List.mem_append_left _ hm)
    · rw [Option.map_some, Option.toList_some, List.mem_singleton] at hm
      subst hm
      exact .inr ⟨Nat.lt_succ_self _, le_rfl, rfl⟩

theorem draws_append (f : RxFifo) (call : ℕ) (channel : UInt8) (timestampUs : ℕ)
    (kept : List UInt8) : Draws timestampUs f (f.append call channel timestampUs kept) := by
  refine ⟨Nat.le_succ _, fun m hm => ?_⟩
  rcases List.mem_append.mp hm with hm | hm
  · have hm : m ∈ (f.bursts ++ [(⟨call, timestampUs, f.sequences + 1, channel, kept⟩ : Burst)]).map
        Burst.mark := hm
    rw [List.map_append, List.mem_append] at hm
    rcases hm with hm | hm
    · exact .inl (List.mem_append_left _ hm)
    · rw [List.map_singleton, List.mem_singleton] at hm
      subst hm
      exact .inr ⟨Nat.lt_succ_self _, le_rfl, rfl⟩
  · exact .inl (List.mem_append_right _ hm)

/-- A push draws its marks with its own reading. -/
theorem draws_push (f : RxFifo) (channel : UInt8) (timestampUs : ℕ) (data : List UInt8) :
    Draws timestampUs f (f.push channel timestampUs data) := by
  unfold push
  split
  · exact ⟨le_rfl, fun m hm => .inl hm⟩
  dsimp only
  refine Draws.trans ?_ (draws_append _ _ _ _ _)
  refine Draws.trans ?_ (draws_record _ _ _)
  refine Draws.trans ?_ (draws_record _ _ _)
  refine ⟨le_rfl, fun m hm => .inl ?_⟩
  exact mem_marks_dropOldest (mem_marks_dropOldest (f := { f with
    bursts := dropOldest f.descriptorDrop f.bursts }) hm)

theorem inOrder_push (h : InOrder f []) (channel : UInt8) (timestampUs : ℕ) (data : List UInt8) :
    InOrder (f.push channel timestampUs data) [] := by
  unfold push
  by_cases hdata : data = []
  · rw [if_pos hdata]
    exact ⟨h.bursts, h.drawn, h.sorted, h.least, h.past⟩
  rw [if_neg hdata]
  dsimp only
  generalize keptOf data = kept
  generalize f.byteSpaceDrop kept.length = dropped
  have hdropped : InOrder { f with
      bursts := dropOldest dropped (dropOldest f.descriptorDrop f.bursts)
      pushes := f.pushes + 1 } [] := by
    have hbursts := (h.dropOldest f.descriptorDrop).dropOldest dropped
    exact ⟨hbursts.1, hbursts.2, hbursts.3, hbursts.4, hbursts.5⟩
  exact ((hdropped.record _ _).record _ _).append _ _ _ _

/-- A record draws at most one sequence, and none while an episode is open. -/
theorem sequences_record (f : RxFifo) (dropped timestampUs : ℕ) :
    (f.record dropped timestampUs).sequences ≤ f.sequences + 1 ∧
      (f.episode.isSome → (f.record dropped timestampUs).sequences = f.sequences) ∧
      ((f.record dropped timestampUs).sequences = f.sequences ∨
        (f.record dropped timestampUs).episode.isSome) := by
  unfold record
  split
  · exact ⟨Nat.le_succ _, fun _ => rfl, .inl rfl⟩
  split
  · exact ⟨Nat.le_succ _, fun _ => rfl, .inl rfl⟩
  · rename_i he
    rw [he]
    exact ⟨le_rfl, nofun, .inr rfl⟩

/-- What a push adds to the counters. -/
theorem counters_push (f : RxFifo) (channel : UInt8) (timestampUs : ℕ) (data : List UInt8) :
    (f.push channel timestampUs data).sequences ≤ f.sequences + 2 ∧
      (f.push channel timestampUs data).droppedBytesTotal
        ≤ f.droppedBytesTotal + f.usedBytes + data.length := by
  have hdescriptor := f.descriptorDrop_le
  have hspace := f.byteSpaceDrop_le (keptOf data).length
  unfold push
  by_cases hdata : data = []
  · rw [if_pos hdata]
    dsimp only
    omega
  rw [if_neg hdata]
  dsimp only
  generalize keptOf data = kept at hspace ⊢
  generalize f.byteSpaceDrop kept.length = dropped at hspace ⊢
  generalize hbase : ({ f with
    bursts := dropOldest dropped (dropOldest f.descriptorDrop f.bursts)
    pushes := f.pushes + 1 } : RxFifo) = g
  have hbefore : g.sequences = f.sequences ∧ g.droppedBytesTotal = f.droppedBytesTotal := by
    subst hbase
    exact ⟨rfl, rfl⟩
  obtain ⟨hfirst, _, hopen⟩ := g.sequences_record (data.length - kept.length) timestampUs
  have hcount := (g.record_counts (data.length - kept.length) timestampUs).1
  generalize g.record (data.length - kept.length) timestampUs = g₁ at hfirst hopen hcount ⊢
  obtain ⟨hsecond, hsame, _⟩ := g₁.sequences_record (f.descriptorDrop + dropped) timestampUs
  have hcount₂ := (g₁.record_counts (f.descriptorDrop + dropped) timestampUs).1
  generalize g₁.record (f.descriptorDrop + dropped) timestampUs = g₂ at hsecond hsame hcount₂ ⊢
  have happend : (g₂.append f.pushes channel timestampUs kept).sequences = g₂.sequences + 1 := rfl
  rw [(g₂.append_fields f.pushes channel timestampUs kept).2.1, happend]
  constructor
  · rcases hopen with hclosed | hsome
    · omega
    · have := hsame hsome
      omega
  · omega

/-! ## Draining -/

/-- What a take before a limit leaves and hands out: nothing, when all that is left is past the
limit, or what was drawn first. -/
theorem takeBefore_spec (h : InOrder f []) (sequenceLimit : Option ℕ) {outputCapacity : ℕ}
    (hcapacity : outputCapacity ≠ 0) :
    (f.takeBefore sequenceLimit outputCapacity = (f, .nothing) ∧
        ∀ limit, sequenceLimit = some limit → ∀ p ∈ f.pending, limit ≤ p) ∨
      (∃ e, f.episode = some e ∧ (∀ p ∈ f.pending, e.observationSequence ≤ p) ∧
        (∀ limit, sequenceLimit = some limit → e.observationSequence < limit) ∧
        f.takeBefore sequenceLimit outputCapacity = ({ f with episode := none }, .overflow e)) ∨
      ∃ b rest n chunk, f.bursts = b :: rest ∧ (∀ p ∈ f.pending, b.observationSequence ≤ p) ∧
        (∀ limit, sequenceLimit = some limit → b.observationSequence < limit) ∧
        chunk.timestampUs = b.timestampUs ∧
        f.takeBefore sequenceLimit outputCapacity
          = ({ f with bursts := dropOldest n f.bursts }, .chunk (.chunk chunk)) := by
  unfold takeBefore
  cases hpeek : f.peekObservation with
  | none =>
    refine .inl ⟨rfl, fun limit _ p hp => ?_⟩
    exfalso
    revert hp
    unfold peekObservation at hpeek
    unfold pending
    cases hbursts : f.bursts with
    | nil =>
      cases he : f.episode with
      | none => exact nofun
      | some e => simp [hbursts, he] at hpeek
    | cons b rest =>
      cases he : f.episode with
      | none => simp [hbursts, he] at hpeek
      | some e =>
        simp only [hbursts, he] at hpeek
        split at hpeek <;> cases hpeek
  | some observation =>
    obtain ⟨kind, sequence⟩ := observation
    have hnext := f.nextObservation_of_peek hpeek
    have hleast : ∀ p ∈ f.pending, sequence ≤ p := by
      rcases peek_cases hpeek with ⟨rfl, b, rest, hbursts, rfl⟩ | ⟨rfl, e, he, rfl⟩
      · exact (h.first_burst hbursts (by rw [hnext]; exact nofun)).2
      · exact (h.first_episode he hnext).2
    dsimp only
    split
    · rename_i hlimit
      refine .inl ⟨rfl, ?_⟩
      rintro limit rfl p hp
      have hle : limit ≤ sequence := by simpa using hlimit
      exact hle.trans (hleast p hp)
    rename_i hlimit
    have hbelow : ∀ limit, sequenceLimit = some limit → sequence < limit := by
      rintro limit rfl
      simpa using hlimit
    right
    rcases peek_cases hpeek with ⟨rfl, b, rest, hbursts, rfl⟩ | ⟨rfl, e, he, rfl⟩
    · right
      rw [if_neg nofun]
      refine ⟨b, rest, min outputCapacity b.bytes.length,
        ⟨b.timestampUs, b.observationSequence, b.channel, b.bytes.take outputCapacity⟩, hbursts,
        hleast, hbelow, rfl, ?_⟩
      unfold take
      rw [hbursts]
      dsimp only
      rw [if_neg hcapacity, if_neg (by rw [hnext]; exact nofun)]
    · left
      rw [if_pos rfl]
      refine ⟨e, he, hleast, hbelow, ?_⟩
      unfold claimOverflow
      rw [he]

end RxFifo

/-! ## What every orderly step keeps -/

/-- What was sent was received or is a status. -/
theorem Evidence.receivedUs?_or_statusUs? (e : Evidence) :
    e.receivedUs? = some e.timestampUs ∨ e.statusUs? = some e.timestampUs := by
  cases e with
  | uart _ => exact .inl rfl
  | overflow _ => exact .inl rfl
  | status _ _ => exact .inr rfl

namespace EvidenceEpoch

variable {s : EvidenceEpoch} {f : RxFifo}

/-- The marks of what can still be sent. -/
def ahead (s : EvidenceEpoch) (f : RxFifo) : List Mark :=
  f.marks ++ (s.schedule.pendingStatus.map BufferStatusObservation.mark).toList

theorem mem_ahead {m : Mark} :
    m ∈ s.ahead f ↔ m ∈ f.marks ∨ ∃ o, s.schedule.pendingStatus = some o ∧ o.mark = m := by
  unfold ahead
  rw [List.mem_append]
  cases s.schedule.pendingStatus <;> simp [eq_comm]

theorem mem_receivedUs (h : Refines s.ring f) {u : ℕ} :
    u ∈ s.receivedUs ↔ (∃ e ∈ s.emitted, e.receivedUs? = some u) ∨ ∃ m ∈ f.marks, m.2 = u := by
  have hlive : s.ring.liveDescriptors = f.bursts.map Burst.descriptor := h.stores.descriptors
  have hactive := h.counts.active
  have hepisode := h.counts.episode
  unfold receivedUs RxFifo.marks
  rw [hlive, hactive]
  cases he : f.episode with
  | none => simp [Burst.descriptor, Burst.mark]
  | some e =>
    have hfirst : s.ring.episodeFirstDropTimestampUs = e.firstDropTimestampUs := by
      rw [hepisode e he]
    simp only [Option.isSome_some, if_true, Option.map_some, Option.toList_some, List.mem_append,
      List.mem_filterMap, List.map_map, List.mem_map, List.mem_singleton, hfirst, or_assoc]
    refine or_congr_right ⟨?_, ?_⟩
    · rintro (⟨b, hb, rfl⟩ | rfl)
      · exact ⟨b.mark, .inl ⟨b, hb, rfl⟩, rfl⟩
      · exact ⟨e.mark, .inr rfl, rfl⟩
    · rintro ⟨m, ⟨b, hb, rfl⟩ | rfl, rfl⟩
      · exact .inl ⟨b, hb, rfl⟩
      · exact .inr rfl

theorem mem_statusUs {u : ℕ} :
    u ∈ s.statusUs ↔ (∃ e ∈ s.emitted, e.statusUs? = some u) ∨
      ∃ o, s.schedule.pendingStatus = some o ∧ o.timestampUs = u := by
  unfold statusUs
  rw [List.mem_append, List.mem_filterMap]
  cases s.schedule.pendingStatus <;> simp [eq_comm]

/-- The order of what is ahead is that of its readings, and everything sent is before it. -/
structure Timely (s : EvidenceEpoch) (f : RxFifo) : Prop where
  refines : Refines s.ring f
  order : InOrder f []
  aligned : ∀ m ∈ s.ahead f, ∀ m' ∈ s.ahead f, m.1 ≤ m'.1 → m.2 ≤ m'.2
  drawn : ∀ m ∈ s.ahead f, m.1 ≤ f.sequences
  sent : ∀ e ∈ s.emitted, ∀ m ∈ s.ahead f, e.timestampUs ≤ m.2
  sorted : s.timestamps.Pairwise (· ≤ ·)
  /-- The callback's reading is the latest of the callbacks'. -/
  received : ∀ u ∈ s.receivedUs, u ≤ s.clockUs ∧ ∀ now, s.callback = some now → u ≤ now
  /-- The stager's is the latest of the stager's. -/
  statuses : ∀ u ∈ s.statusUs, u ≤ s.clockUs ∧ ∀ now, s.staging = some now → u ≤ now
  readings : (∀ now, s.callback = some now → now ≤ s.clockUs) ∧
    ∀ now, s.staging = some now → now ≤ s.clockUs

theorem Timely.start (used : UsedRing) (nowUs : ℕ) :
    Timely (start used nowUs) { used.fifo with bursts := [], episode := none } := by
  obtain ⟨ring', hcall, hdiscarded⟩ := used.refines.call .discardRetained
    ⟨used.fit.sequences, used.fit.droppedBytesTotal⟩
  cases hcall
  refine ⟨hdiscarded, ⟨.nil, nofun, .nil, nofun, nofun⟩, nofun, nofun, nofun, .nil, ?_, nofun,
    nofun, nofun⟩
  intro u hu
  rcases (mem_receivedUs (s := EvidenceEpoch.start used nowUs) hdiscarded).mp hu
    with ⟨e, he, _⟩ | ⟨m, hm, _⟩
  · cases he
  · cases hm

/-- The readings of everything sent and ahead, when neither the callbacks' nor the statuses'
pass a reading. -/
theorem Timely.all_le (h : Timely s f) {nowUs : ℕ} (hreceived : ∀ u ∈ s.receivedUs, u ≤ nowUs)
    (hstatuses : ∀ u ∈ s.statusUs, u ≤ nowUs) :
    (∀ e ∈ s.emitted, e.timestampUs ≤ nowUs) ∧ ∀ m ∈ s.ahead f, m.2 ≤ nowUs := by
  constructor
  · intro e he
    rcases e.receivedUs?_or_statusUs? with hkind | hkind
    · exact hreceived _ ((mem_receivedUs h.refines).mpr (.inl ⟨e, he, hkind⟩))
    · exact hstatuses _ (mem_statusUs.mpr (.inl ⟨e, he, hkind⟩))
  · intro m hm
    rcases mem_ahead.mp hm with hm | ⟨o, ho, rfl⟩
    · exact hreceived _ ((mem_receivedUs h.refines).mpr (.inr ⟨m, hm, rfl⟩))
    · exact hstatuses _ (mem_statusUs.mpr (.inr ⟨o, ho, rfl⟩))

/-- Marks drawn last with a reading that passes all others come last. -/
theorem aligned_extend {old new : List Mark} {sequences nowUs : ℕ}
    (haligned : ∀ m ∈ old, ∀ m' ∈ old, m.1 ≤ m'.1 → m.2 ≤ m'.2)
    (hdrawn : ∀ m ∈ old, m.1 ≤ sequences) (hle : ∀ m ∈ old, m.2 ≤ nowUs)
    (hnew : ∀ m ∈ new, m ∈ old ∨ (sequences < m.1 ∧ m.2 = nowUs)) :
    ∀ m ∈ new, ∀ m' ∈ new, m.1 ≤ m'.1 → m.2 ≤ m'.2 := by
  intro m hm m' hm' hsequence
  rcases hnew m hm with hm | ⟨hlt, htime⟩
  · rcases hnew m' hm' with hm' | ⟨_, htime'⟩
    · exact haligned m hm m' hm' hsequence
    · rw [htime']
      exact hle m hm
  · rcases hnew m' hm' with hm' | ⟨_, htime'⟩
    · have hbefore := hdrawn m' hm'
      omega
    · rw [htime, htime']

theorem step_callbackPushes {timestampUs : ℕ} (h : s.callback = some timestampUs)
    (data : List UInt8) : s.step (.callbackPushes data)
      = (s.ring.push 0 timestampUs data).map fun ring => { s with ring := ring } := by
  unfold step
  dsimp only
  split
  · rename_i hnone
    cases hnone.symm.trans h
  · rename_i reading hsome
    cases hsome.symm.trans h
    rfl

/-- A push draws its marks last, with a reading that passes all others. -/
theorem Timely.push (h : Timely s f) {timestampUs : ℕ} (hcallback : s.callback = some timestampUs)
    (data : List UInt8) (horderly : s.Orderly (.callbackPushes data)) :
    ∃ s', s.step (.callbackPushes data) = some s' ∧
      Timely s' (f.push 0 timestampUs data) := by
  by_cases hdata : data = []
  · subst hdata
    refine ⟨{ s with ring := s.ring }, step_callbackPushes hcallback [], ?_⟩
    have hsame : f.push 0 timestampUs [] = { f with pushes := f.pushes + 1 } := if_pos rfl
    rw [hsame]
    have hcounts := h.refines.counts
    have horder := h.order
    have hrefines : Refines s.ring { f with pushes := f.pushes + 1 } :=
      ⟨h.refines.stores, ⟨hcounts.1, hcounts.2, hcounts.3, hcounts.4, hcounts.5, hcounts.6⟩,
        ⟨h.refines.episodes.1, h.refines.episodes.2⟩⟩
    exact ⟨hrefines, ⟨horder.1, horder.2, horder.3, horder.4, horder.5⟩, h.aligned, h.drawn, h.sent,
      h.sorted, h.received, h.statuses, h.readings⟩
  obtain ⟨hstatuses, hroom⟩ := horderly timestampUs hcallback hdata
  have hreceived : ∀ u ∈ s.receivedUs, u ≤ timestampUs :=
    fun u hu => (h.received u hu).2 timestampUs hcallback
  obtain ⟨hsent, hahead⟩ := h.all_le hreceived hstatuses
  obtain ⟨hsequences, hdropped⟩ := f.counters_push 0 timestampUs data
  have hfit : CountersFit (f.push 0 timestampUs data) := by
    have hnext := hroom.1
    have htotal := hroom.2
    rw [h.refines.counts.nextObservationSequence] at hnext
    rw [h.refines.counts.droppedBytesTotal, h.refines.usedBytes] at htotal
    exact ⟨by omega, by omega⟩
  obtain ⟨ring, hpush, hrefines⟩ := h.refines.push 0 timestampUs data hfit
  have hdraws := f.draws_push 0 timestampUs data
  refine ⟨{ s with ring := ring }, by rw [step_callbackPushes hcallback, hpush, Option.map_some], ?_⟩
  have hnew : ∀ m ∈ ({ s with ring := ring } : EvidenceEpoch).ahead (f.push 0 timestampUs data),
      m ∈ s.ahead f ∨ (f.sequences < m.1 ∧ m.1 ≤ (f.push 0 timestampUs data).sequences ∧
        m.2 = timestampUs) := by
    intro m hm
    rcases mem_ahead.mp hm with hm | hm
    · exact (hdraws.marks m hm).imp_left fun hm => mem_ahead.mpr (.inl hm)
    · exact .inl (mem_ahead.mpr (.inr hm))
  refine ⟨hrefines, RxFifo.inOrder_push h.order 0 timestampUs data,
    aligned_extend h.aligned h.drawn hahead fun m hm => (hnew m hm).imp_right fun h => ⟨h.1, h.2.2⟩,
    fun m hm => ?_, fun e he m hm => ?_, h.sorted, fun u hu => ?_, h.statuses, h.readings⟩
  · rcases hnew m hm with hm | ⟨_, hm, _⟩
    · exact (h.drawn m hm).trans hdraws.sequences
    · exact hm
  · rcases hnew m hm with hm | ⟨_, _, htime⟩
    · exact h.sent e he m hm
    · rw [htime]
      exact hsent e he
  · rcases (mem_receivedUs hrefines).mp hu with hu | ⟨m, hm, rfl⟩
    · exact h.received u ((mem_receivedUs h.refines).mpr (.inl hu))
    · rcases hdraws.marks m hm with hm | ⟨_, _, htime⟩
      · exact h.received m.2 ((mem_receivedUs h.refines).mpr (.inr ⟨m, hm, rfl⟩))
      · rw [htime]
        refine ⟨h.readings.1 timestampUs hcallback, fun now hnow => ?_⟩
        cases hcallback.symm.trans hnow
        exact le_rfl

/-- The snapshot takes the next sequence, and its status the place of the pending one. -/
theorem Timely.snapshot (h : Timely s f) {nowUs : ℕ} (hstaging : s.staging = some nowUs)
    (horderly : s.Orderly .stagerSnapshots) :
    ∃ s', s.step .stagerSnapshots = some s' ∧
      Timely s' { f with sequences := f.sequences + 1 } := by
  obtain ⟨hreceived, hroom⟩ := horderly nowUs hstaging
  obtain ⟨hsent, hahead⟩ := h.all_le hreceived fun u hu => (h.statuses u hu).2 nowUs hstaging
  have hfit : CountersFit (f.call .snapshotObservation).1 := by
    have hnext := hroom.1
    have htotal := hroom.2
    rw [h.refines.counts.nextObservationSequence] at hnext
    rw [h.refines.counts.droppedBytesTotal] at htotal
    refine ⟨?_, ?_⟩
    · show f.sequences + 1 < 2 ^ 64
      omega
    · show f.droppedBytesTotal < 2 ^ 64
      omega
  obtain ⟨ring, hcall, hrefines⟩ := h.refines.call .snapshotObservation hfit
  unfold RxRing.call RxFifo.call at hcall
  unfold RxFifo.call at hrefines
  dsimp only at hcall hrefines
  unfold step
  rw [hstaging]
  dsimp only
  generalize s.ring.snapshotObservation = p at hcall ⊢
  obtain ⟨ring', snapshot, sequence⟩ := p
  obtain ⟨rfl, hsnapshot⟩ := Prod.mk.inj (Option.some.inj hcall)
  obtain ⟨_, rfl⟩ := RxOutput.snapshot.inj hsnapshot
  refine ⟨_, rfl, ?_⟩
  have hold : ∀ m ∈ f.marks, m ∈ s.ahead f := fun m hm => mem_ahead.mpr (.inl hm)
  have horder : InOrder { f with sequences := f.sequences + 1 } [] :=
    ⟨h.order.bursts, fun p hp => (h.order.drawn p hp).trans (Nat.le_succ _), .nil, nofun, nofun⟩
  have hnew : ∀ m ∈ f.marks ++ [(f.sequences + 1, nowUs)],
      m ∈ s.ahead f ∨ (f.sequences < m.1 ∧ m.2 = nowUs) := by
    intro m hm
    rcases List.mem_append.mp hm with hm | hm
    · exact .inl (hold m hm)
    · rw [List.mem_singleton.mp hm]
      exact .inr ⟨Nat.lt_succ_self _, rfl⟩
  refine ⟨hrefines, horder, aligned_extend h.aligned h.drawn hahead hnew, fun m hm => ?_,
    fun e he m hm => ?_, h.sorted, fun u hu => ?_, fun u hu => ?_, h.readings.1, nofun⟩
  · rcases List.mem_append.mp hm with hm | hm
    · exact (h.drawn m (hold m hm)).trans (Nat.le_succ _)
    · rw [List.mem_singleton.mp hm]
      exact le_rfl
  · rcases hnew m hm with hm | ⟨_, htime⟩
    · exact h.sent e he m hm
    · rw [htime]
      exact hsent e he
  · rcases (mem_receivedUs hrefines).mp hu with hu | hu
    · exact h.received u ((mem_receivedUs h.refines).mpr (.inl hu))
    · exact h.received u ((mem_receivedUs h.refines).mpr (.inr hu))
  · refine ⟨?_, nofun⟩
    rcases mem_statusUs.mp hu with hu | ⟨o, ho, rfl⟩
    · exact (h.statuses u (mem_statusUs.mpr (.inl hu))).1
    · cases ho
      exact h.readings.2 nowUs hstaging

/-- Sending what was drawn first of what is ahead. -/
theorem Timely.emit (h : Timely s f) {ring : RxRing} {f' : RxFifo} {schedule : TelemetrySchedule}
    {evidence : Evidence} (mark : Mark) (hmem : mark ∈ s.ahead f)
    (htime : evidence.timestampUs = mark.2) (hfirst : ∀ m ∈ s.ahead f, mark.1 ≤ m.1)
    (hrefines : Refines ring f') (horder : InOrder f' []) (hsequences : f'.sequences = f.sequences)
    (hmarks : ∀ m ∈ f'.marks, m ∈ f.marks)
    (hpending : ∀ o, schedule.pendingStatus = some o → s.schedule.pendingStatus = some o)
    (hkind : (evidence.receivedUs? = some mark.2 ∧ evidence.statusUs? = none ∧ mark ∈ f.marks) ∨
      (evidence.statusUs? = some mark.2 ∧ evidence.receivedUs? = none ∧
        ∃ o, s.schedule.pendingStatus = some o ∧ o.timestampUs = mark.2)) :
    Timely ({ s with ring := ring, schedule := schedule }.emit evidence) f' := by
  have hahead : ∀ m ∈ ({ s with ring := ring, schedule := schedule }.emit evidence).ahead f',
      m ∈ s.ahead f := by
    intro m hm
    rcases mem_ahead.mp hm with hm | ⟨o, ho, hmark⟩
    · exact mem_ahead.mpr (.inl (hmarks m hm))
    · exact mem_ahead.mpr (.inr ⟨o, hpending o ho, hmark⟩)
  have hemitted : ∀ e ∈ s.emitted ++ [evidence], e ∈ s.emitted ∨ e = evidence :=
    fun e he => (List.mem_append.mp he).imp_right List.mem_singleton.mp
  refine ⟨hrefines, horder, fun m hm m' hm' => h.aligned m (hahead m hm) m' (hahead m' hm'),
    fun m hm => ?_, fun e he m hm => ?_, ?_, fun u hu => ?_, fun u hu => ?_, h.readings⟩
  · rw [hsequences]
    exact h.drawn m (hahead m hm)
  · rcases hemitted e he with he | rfl
    · exact h.sent e he m (hahead m hm)
    · rw [htime]
      exact h.aligned mark hmem m (hahead m hm) (hfirst m (hahead m hm))
  · show ((s.emitted ++ [evidence]).map Evidence.timestampUs).Pairwise (· ≤ ·)
    rw [List.map_append, List.map_singleton, List.pairwise_append]
    refine ⟨h.sorted, List.pairwise_singleton _ _, fun x hx y hy => ?_⟩
    obtain ⟨e, he, rfl⟩ := List.mem_map.mp hx
    rw [List.mem_singleton.mp hy, htime]
    exact h.sent e he mark hmem
  · rcases (mem_receivedUs hrefines).mp hu with ⟨e, he, hreceived⟩ | ⟨m, hm, rfl⟩
    · rcases hemitted e he with he | rfl
      · exact h.received u ((mem_receivedUs h.refines).mpr (.inl ⟨e, he, hreceived⟩))
      · rcases hkind with ⟨hsame, _, hmark⟩ | ⟨_, hnone, _⟩
        · cases hsame.symm.trans hreceived
          exact h.received _ ((mem_receivedUs h.refines).mpr (.inr ⟨mark, hmark, rfl⟩))
        · cases hnone.symm.trans hreceived
    · exact h.received _ ((mem_receivedUs h.refines).mpr (.inr ⟨m, hmarks m hm, rfl⟩))
  · rcases mem_statusUs.mp hu with ⟨e, he, hstatus⟩ | ⟨o, ho, rfl⟩
    · rcases hemitted e he with he | rfl
      · exact h.statuses u (mem_statusUs.mpr (.inl ⟨e, he, hstatus⟩))
      · rcases hkind with ⟨_, hnone, _⟩ | ⟨hsame, _, hpending⟩
        · cases hnone.symm.trans hstatus
        · cases hsame.symm.trans hstatus
          exact h.statuses _ (mem_statusUs.mpr (.inr hpending))
    · exact h.statuses _ (mem_statusUs.mpr (.inr ⟨o, hpending o ho, rfl⟩))

/-- What comes first in the FIFO, and before the pending status, comes first. -/
theorem first_ahead {sequence : ℕ} (hfirst : ∀ p ∈ f.pending, sequence ≤ p)
    (hlimit : ∀ limit, s.schedule.pendingStatus.map BufferStatusObservation.observationSequence
      = some limit → sequence < limit) : ∀ m ∈ s.ahead f, sequence ≤ m.1 := by
  intro m hm
  rcases mem_ahead.mp hm with hm | ⟨o, ho, rfl⟩
  · refine hfirst m.1 ?_
    rw [f.pending_eq]
    exact List.mem_map_of_mem hm
  · refine (hlimit o.observationSequence ?_).le
    rw [ho, Option.map_some]

/-- A drain finds something to send or nothing, and is never refused. -/
theorem Timely.drain (h : Timely s f) : ∃ s' f', s.drainOneEvidence = some s' ∧ Timely s' f' := by
  obtain ⟨ring, htake, hrefines⟩ := h.refines.takeBefore
    (s.schedule.pendingStatus.map BufferStatusObservation.observationSequence) uartStagingBytes
  unfold drainOneEvidence
  dsimp only
  rw [htake]
  rcases RxFifo.takeBefore_spec h.order
      (s.schedule.pendingStatus.map BufferStatusObservation.observationSequence)
      (show uartStagingBytes ≠ 0 by decide) with
    ⟨hspec, hpast⟩ | ⟨e, he, hfirst, hlimit, hspec⟩
      | ⟨b, rest, n, chunk, hbursts, hfirst, hlimit, htime, hspec⟩
  · rw [hspec] at hrefines ⊢
    dsimp only at hrefines ⊢
    cases hstatus : s.schedule.pendingStatus with
    | none =>
      refine ⟨_, f, rfl, hrefines, h.order, h.aligned, h.drawn, h.sent, h.sorted, fun u hu => ?_,
        h.statuses, h.readings⟩
      exact h.received u ((mem_receivedUs h.refines).mpr
        ((mem_receivedUs (s := { s with ring := ring }) hrefines).mp hu))
    | some status =>
      rw [hstatus, Option.map_some] at hpast
      refine ⟨_, f, rfl, h.emit status.mark (mem_ahead.mpr (.inr ⟨status, hstatus, rfl⟩))
        rfl ?_ hrefines h.order rfl (fun _ hm => hm) nofun
        (.inr ⟨rfl, rfl, status, hstatus, rfl⟩)⟩
      -- Everything left in the ring was drawn after the status.
      intro m hm
      rcases mem_ahead.mp hm with hm | ⟨o, ho, rfl⟩
      · refine hpast status.observationSequence rfl m.1 ?_
        rw [f.pending_eq]
        exact List.mem_map_of_mem hm
      · cases hstatus.symm.trans ho
        exact le_rfl
  · rw [hspec] at hrefines ⊢
    dsimp only at hrefines ⊢
    have hmark : e.mark ∈ f.marks := by
      unfold RxFifo.marks
      rw [he]
      exact List.mem_append_right _ (List.mem_singleton.mpr rfl)
    have hmarks : ∀ m ∈ ({ f with episode := none } : RxFifo).marks, m ∈ f.marks := by
      intro m hm
      rcases List.mem_append.mp hm with hm | hm
      · exact List.mem_append_left _ hm
      · cases hm
    have horder : InOrder { f with episode := none } [] := by
      refine h.order.of_pending h.order.bursts (fun p hp => .inl ?_) (Nat.le_refl f.sequences)
      rw [RxFifo.pending_eq] at hp ⊢
      obtain ⟨m, hm, rfl⟩ := List.mem_map.mp hp
      exact List.mem_map_of_mem (hmarks m hm)
    exact ⟨_, _, rfl, h.emit e.mark (mem_ahead.mpr (.inl hmark)) rfl
      (first_ahead hfirst hlimit) hrefines horder rfl hmarks (fun _ ho => ho)
      (.inl ⟨rfl, rfl, hmark⟩)⟩
  · rw [hspec] at hrefines ⊢
    dsimp only at hrefines ⊢
    have hmark : b.mark ∈ f.marks := by
      unfold RxFifo.marks
      rw [hbursts]
      exact List.mem_append_left _ List.mem_cons_self
    exact ⟨_, _, rfl, h.emit b.mark (mem_ahead.mpr (.inl hmark)) htime
      (first_ahead hfirst hlimit) hrefines (h.order.dropOldest n) rfl
      (fun m hm => RxFifo.mem_marks_dropOldest hm) (fun _ ho => ho)
      (.inl ⟨congrArg some htime, rfl, hmark⟩)⟩

/-- Every orderly step is taken and keeps the order. -/
theorem Timely.step (h : Timely s f) (step : EvidenceStep) (horderly : s.Orderly step) :
    ∃ s' f', s.step step = some s' ∧ Timely s' f' := by
  cases step with
  | tick us =>
    refine ⟨_, f, rfl, h.refines, h.order, h.aligned, h.drawn, h.sent, h.sorted, fun u hu => ?_,
      fun u hu => ?_, fun now hnow => ?_, fun now hnow => ?_⟩
    · exact ⟨Nat.le_add_right_of_le (h.received u hu).1, (h.received u hu).2⟩
    · exact ⟨Nat.le_add_right_of_le (h.statuses u hu).1, (h.statuses u hu).2⟩
    · exact Nat.le_add_right_of_le (h.readings.1 now hnow)
    · exact Nat.le_add_right_of_le (h.readings.2 now hnow)
  | callbackBegins =>
    unfold EvidenceEpoch.step
    dsimp only
    split
    · exact ⟨s, f, rfl, h⟩
    · refine ⟨_, f, rfl, h.refines, h.order, h.aligned, h.drawn, h.sent, h.sorted, fun u hu => ?_,
        h.statuses, fun now hnow => ?_, h.readings.2⟩
      · have hle := (h.received u hu).1
        refine ⟨hle, fun now hnow => ?_⟩
        cases hnow
        exact hle
      · cases hnow
        exact le_rfl
  | callbackPushes data =>
    cases hcallback : s.callback with
    | none =>
      unfold EvidenceEpoch.step
      dsimp only
      rw [hcallback]
      exact ⟨s, f, rfl, h⟩
    | some timestampUs =>
      obtain ⟨s', hstep, htimely⟩ := h.push hcallback data horderly
      exact ⟨s', _, hstep, htimely⟩
  | callbackEnds =>
    exact ⟨_, f, rfl, h.refines, h.order, h.aligned, h.drawn, h.sent, h.sorted,
      fun u hu => ⟨(h.received u hu).1, nofun⟩, h.statuses, nofun, h.readings.2⟩
  | stagerReads =>
    unfold EvidenceEpoch.step
    dsimp only
    split
    · exact ⟨s, f, rfl, h⟩
    · refine ⟨_, f, rfl, h.refines, h.order, h.aligned, h.drawn, h.sent, h.sorted, h.received,
        fun u hu => ?_, h.readings.1, fun now hnow => ?_⟩
      · have hle := (h.statuses u hu).1
        refine ⟨hle, fun now hnow => ?_⟩
        cases hnow
        exact hle
      · cases hnow
        exact le_rfl
  | stagerSnapshots =>
    cases hstaging : s.staging with
    | none =>
      unfold EvidenceEpoch.step
      dsimp only
      rw [hstaging]
      exact ⟨s, f, rfl, h⟩
    | some nowUs =>
      obtain ⟨s', hstep, htimely⟩ := h.snapshot hstaging horderly
      exact ⟨s', _, hstep, htimely⟩
  | drains =>
    unfold EvidenceEpoch.step
    dsimp only
    split
    · exact ⟨s, f, rfl, h⟩
    · exact h.drain

/-! ## Runs -/

theorem Timely.run (steps : List EvidenceStep) (h : Timely s f)
    (horderly : s.OrderlyThroughout steps) : ∃ s' f', s.run steps = some s' ∧ Timely s' f' := by
  induction steps generalizing s f with
  | nil => exact ⟨s, f, rfl, h⟩
  | cons step steps ih =>
    obtain ⟨s₁, f₁, hstep, h₁⟩ := h.step step horderly.1
    obtain ⟨s₂, f₂, hrun, h₂⟩ := ih h₁ (horderly.2 s₁ hstep)
    exact ⟨s₂, f₂, by rw [EvidenceEpoch.run, hstep, Option.bind_some, hrun], h₂⟩

/-- Timestamps from the origin on are all taken. -/
theorem normalizeTimestamps_ok (origin : ℕ) (timestamps : List ℕ)
    (h : ∀ timestampUs ∈ timestamps, origin ≤ timestampUs) :
    ∃ relative, normalizeTimestamps (some origin) timestamps = .ok relative := by
  induction timestamps with
  | nil => exact ⟨[], rfl⟩
  | cons timestampUs rest ih =>
    obtain ⟨relative, hrest⟩ := ih fun t ht => h t (List.mem_cons_of_mem _ ht)
    have horigin := h timestampUs List.mem_cons_self
    refine ⟨(timestampUs - origin) :: relative, ?_⟩
    unfold normalizeTimestamps relativeTimestamp
    dsimp only
    rw [Option.getD_some, if_neg (by omega), hrest]
    rfl

theorem timestampsInOrder_of_sorted (h : s.timestamps.Pairwise (· ≤ ·)) : s.TimestampsInOrder where
  sorted := h
  normalized := by
    cases htimestamps : s.timestamps with
    | nil => exact ⟨[], rfl⟩
    | cons first rest =>
      rw [htimestamps] at h
      refine normalizeTimestamps_ok first (first :: rest) fun t ht => ?_
      rcases List.mem_cons.mp ht with rfl | ht
      · exact le_rfl
      · exact List.rel_of_pairwise_cons h ht

/-- In every run of orderly steps the timestamps sent never go back and the host takes them. -/
theorem timestamps_inOrder (used : UsedRing) (nowUs : ℕ) (steps : List EvidenceStep)
    (h : (start used nowUs).OrderlyThroughout steps) :
    ∃ s, (start used nowUs).run steps = some s ∧ s.TimestampsInOrder := by
  obtain ⟨s, f, hrun, htimely⟩ := (Timely.start used nowUs).run steps h
  exact ⟨s, hrun, timestampsInOrder_of_sorted htimely.sorted⟩

/-- A ring no one has used. -/
def unusedRing : UsedRing := ⟨.init, {}, .init, ⟨by decide, by decide⟩⟩

/-- A byte, and a status a second later. -/
theorem timestamps_inOrder_byte_status :
    (start unusedRing 0).OrderlyThroughout [.tick 7, .callbackBegins, .callbackPushes [65],
      .callbackEnds, .tick 1000000, .stagerReads, .stagerSnapshots, .drains, .drains] ∧
    ∃ s, (start unusedRing 0).run [.tick 7, .callbackBegins, .callbackPushes [65],
      .callbackEnds, .tick 1000000, .stagerReads, .stagerSnapshots, .drains, .drains] = some s ∧
      s.TimestampsInOrder := by
  have horderly : (start unusedRing 0).OrderlyThroughout [.tick 7, .callbackBegins,
      .callbackPushes [65], .callbackEnds, .tick 1000000, .stagerReads, .stagerSnapshots, .drains,
      .drains] := by
    decide +kernel
  exact ⟨horderly, timestamps_inOrder unusedRing 0 _ horderly⟩

/-- The first byte of a connection arrives after the stager has read the clock and before it
takes its snapshot. -/
theorem not_timestamps_inOrder :
    ¬ ∀ (used : UsedRing) (nowUs : ℕ) (steps : List EvidenceStep) (s : EvidenceEpoch),
      (start used nowUs).run steps = some s → s.TimestampsInOrder := by
  intro h
  have hrun : ((start unusedRing 0).run [.tick 1000000, .stagerReads, .tick 5, .callbackBegins,
      .callbackPushes [65], .callbackEnds, .stagerSnapshots, .drains, .drains]).map timestamps
      = some [1000005, 1000000] := by
    decide +kernel
  obtain ⟨s, hs, htimestamps⟩ := Option.map_eq_some_iff.mp hrun
  obtain ⟨relative, hnormalized⟩ := (h _ _ _ s hs).normalized
  rw [htimestamps] at hnormalized
  have herror : normalizeTimestamps none [1000005, 1000000]
      = .error "Enhanced event timestamp precedes its segment origin" := by
    decide +kernel
  cases herror.symm.trans hnormalized

end EvidenceEpoch
