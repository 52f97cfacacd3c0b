/-
# Runs of the RX ring

Accounts of a run, kept from its calls and from what they handed out: every byte pushed
since the last discard, how many were pushed, taken and discarded, what overflow was
claimed, and the sequences handed out.  In every run the ring's memory holds the last of
the bytes pushed, and the accounts add up.
-/
import DutchMate.RxFifo

open Circular

/-! ## Accounts -/

/-- What a run of calls handed in and out. -/
structure RxAccount where
  pushed : List RxByte := []
  pushes : ℕ := 0
  pushedTotal : ℕ := 0
  takenTotal : ℕ := 0
  discardedTotal : ℕ := 0
  claimedOverflow : ℕ := 0
  discardedOverflow : ℕ := 0
  handedOut : List ℕ := []

namespace RxOutput

/-- The chunk a call handed out. -/
def chunk? : RxOutput → Option RxChunk
  | observed (.chunk (.chunk chunk)) => some chunk
  | _ => none

/-- The overflow a call handed out, drained or claimed. -/
def overflow? : RxOutput → Option RxOverflow
  | observed (.overflow overflow) => some overflow
  | claimed overflow => overflow
  | _ => none

/-- The sequence of a drained observation. -/
def sequence? : RxOutput → Option ℕ
  | observed (.chunk (.chunk chunk)) => some chunk.observationSequence
  | observed (.overflow overflow) => some overflow.observationSequence
  | _ => none

end RxOutput

/-- The accounts after a call that pushed and discarded nothing. -/
def RxAccount.observe (a : RxAccount) (out : RxOutput) : RxAccount :=
  { a with
    takenTotal := a.takenTotal + (out.chunk?.map fun chunk => chunk.data.length).getD 0
    claimedOverflow := a.claimedOverflow + (out.overflow?.map RxOverflow.droppedBytes).getD 0
    handedOut := a.handedOut ++ out.sequence?.toList }

/-- The accounts after a call on `ring` that handed out `out`. -/
def RxAccount.record (a : RxAccount) (ring : RxRing) (c : RxCall) (out : RxOutput) : RxAccount :=
  match c with
  | .init => {}
  | .push channel timestampUs data =>
    { a with
      pushed := a.pushed ++ data.map fun value => ⟨value, timestampUs, channel, a.pushes⟩
      pushes := a.pushes + 1
      pushedTotal := a.pushedTotal + data.length }
  | .discardRetained =>
    { a with
      pushed := []
      discardedTotal := a.discardedTotal + ring.usedBytes
      discardedOverflow :=
        a.discardedOverflow + if ring.episodeActive then ring.episodeDroppedBytes else 0 }
  | _ => a.observe out

theorem RxAccount.record_push (a : RxAccount) (ring : RxRing) (channel : UInt8) (timestampUs : ℕ)
    (data : List UInt8) (out : RxOutput) :
    a.record ring (.push channel timestampUs data) out
      = { a with
          pushed := a.pushed ++ data.map fun value => ⟨value, timestampUs, channel, a.pushes⟩
          pushes := a.pushes + 1
          pushedTotal := a.pushedTotal + data.length } := rfl

/-- A run of calls with its accounts; `none` when one of them underflows or never ends. -/
def runRx : RxRing × RxAccount → List RxCall → Option (RxRing × RxAccount)
  | s, [] => some s
  | s, c :: calls =>
    match s.1.call c with
    | none => none
    | some (ring, out) => runRx (ring, s.2.record s.1 c out) calls

/-- The FIFO after the same calls. -/
def RxFifo.after (f : RxFifo) (calls : List RxCall) : RxFifo :=
  calls.foldl (fun f c => (f.call c).1) f

/-- The exact counters stay in the range of 64 bits. -/
def CountersFitAlong : RxFifo → List RxCall → Prop
  | f, [] => CountersFit f
  | f, c :: calls => CountersFit f ∧ CountersFitAlong (f.call c).1 calls

/-! ## What the FIFO and the accounts agree on -/

def RxFifo.openOverflow (f : RxFifo) : ℕ := (f.episode.map RxOverflow.droppedBytes).getD 0

/-- The sequences of the observations not handed out. -/
def RxFifo.pending (f : RxFifo) : List ℕ :=
  f.bursts.map Burst.observationSequence ++ (f.episode.map RxOverflow.observationSequence).toList

/-- Sequences are handed out in the order they were drawn. -/
structure InOrder (f : RxFifo) (handedOut : List ℕ) : Prop where
  bursts : (f.bursts.map Burst.observationSequence).Pairwise (· < ·)
  drawn : ∀ p ∈ f.pending, p ≤ f.sequences
  sorted : handedOut.Pairwise (· ≤ ·)
  least : ∀ x ∈ handedOut, ∀ p ∈ f.pending, x ≤ p
  past : ∀ x ∈ handedOut, x ≤ f.sequences

structure Accounts (f : RxFifo) (a : RxAccount) : Prop where
  kept : taggedBytes f.bursts <:+ a.pushed
  pushes : f.pushes = a.pushes
  bytes : a.pushedTotal
    = a.takenTotal + f.usedBytes + f.droppedBytesTotal + a.discardedTotal
  overflow : a.claimedOverflow + f.openOverflow + a.discardedOverflow = f.droppedBytesTotal
  order : InOrder f a.handedOut

theorem InOrder.of_pending {f f' : RxFifo} {handedOut : List ℕ} (h : InOrder f handedOut)
    (hbursts : (f'.bursts.map Burst.observationSequence).Pairwise (· < ·))
    (hpending : ∀ p ∈ f'.pending, p ∈ f.pending ∨ (f.sequences ≤ p ∧ p ≤ f'.sequences))
    (hsequences : f.sequences ≤ f'.sequences) : InOrder f' handedOut where
  bursts := hbursts
  drawn p hp := by
    rcases hpending p hp with hp | ⟨_, hp⟩
    · exact (h.drawn p hp).trans hsequences
    · exact hp
  sorted := h.sorted
  least x hx p hp := by
    rcases hpending p hp with hp | ⟨hp, _⟩
    · exact h.least x hx p hp
    · exact (h.past x hx).trans hp
  past x hx := (h.past x hx).trans hsequences

/-- The least pending sequence is handed out. -/
theorem InOrder.hand {f : RxFifo} {handedOut : List ℕ} (h : InOrder f handedOut) {sequence : ℕ}
    (hmem : sequence ∈ f.pending) (hleast : ∀ p ∈ f.pending, sequence ≤ p) :
    InOrder f (handedOut ++ [sequence]) where
  bursts := h.bursts
  drawn := h.drawn
  sorted := by
    rw [List.pairwise_append]
    refine ⟨h.sorted, List.pairwise_singleton _ _, fun x hx y hy => ?_⟩
    rw [List.mem_singleton.mp hy]
    exact h.least x hx sequence hmem
  least x hx p hp := by
    rcases List.mem_append.mp hx with hx | hx
    · exact h.least x hx p hp
    · rw [List.mem_singleton.mp hx]
      exact hleast p hp
  past x hx := by
    rcases List.mem_append.mp hx with hx | hx
    · exact h.past x hx
    · rw [List.mem_singleton.mp hx]
      exact h.drawn sequence hmem

theorem sequences_dropOldest (n : ℕ) (bursts : List Burst) :
    (dropOldest n bursts).map Burst.observationSequence
      <:+ bursts.map Burst.observationSequence := by
  induction bursts generalizing n with
  | nil => exact List.suffix_refl _
  | cons b rest ih =>
    rw [dropOldest]
    split
    · exact List.suffix_refl _
    · exact (ih _).trans (List.suffix_cons _ _)

/-- Forgetting bytes keeps the order. -/
theorem InOrder.dropOldest {f : RxFifo} {handedOut : List ℕ} (h : InOrder f handedOut) (n : ℕ) :
    InOrder { f with bursts := dropOldest n f.bursts } handedOut := by
  have hsuffix := sequences_dropOldest n f.bursts
  refine h.of_pending (h.bursts.sublist hsuffix.sublist) ?_ (Nat.le_refl f.sequences)
  intro p hp
  rcases List.mem_append.mp hp with hp | hp
  · exact .inl (List.mem_append_left _ (hsuffix.subset hp))
  · exact .inl (List.mem_append_right _ hp)

theorem InOrder.record {f : RxFifo} {handedOut : List ℕ} (h : InOrder f handedOut)
    (dropped timestampUs : ℕ) : InOrder (f.record dropped timestampUs) handedOut := by
  unfold RxFifo.record
  split
  · exact h
  split
  · rename_i e he
    refine h.of_pending h.bursts ?_ (Nat.le_refl f.sequences)
    intro p hp
    rw [RxFifo.pending, he]
    exact .inl hp
  · refine h.of_pending h.bursts ?_ (Nat.le_succ f.sequences)
    intro p hp
    rcases List.mem_append.mp hp with hp | hp
    · exact .inl (List.mem_append_left _ hp)
    · rw [Option.map_some, Option.toList_some, List.mem_singleton] at hp
      rw [hp]
      exact .inr ⟨Nat.le_succ _, le_rfl⟩

theorem InOrder.append {f : RxFifo} {handedOut : List ℕ} (h : InOrder f handedOut) (call : ℕ)
    (channel : UInt8) (timestampUs : ℕ) (kept : List UInt8) :
    InOrder (f.append call channel timestampUs kept) handedOut := by
  refine h.of_pending ?_ ?_ (Nat.le_succ f.sequences)
  · show ((f.bursts ++ [_]).map Burst.observationSequence).Pairwise (· < ·)
    rw [List.map_append, List.pairwise_append]
    refine ⟨h.bursts, List.pairwise_singleton _ _, fun x hx y hy => ?_⟩
    rw [List.map_singleton, List.mem_singleton] at hy
    subst hy
    exact Nat.lt_succ_of_le (h.drawn x (List.mem_append_left _ hx))
  · intro p hp
    rcases List.mem_append.mp hp with hp | hp
    · have hp : p ∈ (f.bursts ++ [(⟨call, timestampUs, f.sequences + 1, channel, kept⟩ : Burst)]).map
          Burst.observationSequence := hp
      rw [List.map_append, List.mem_append] at hp
      rcases hp with hp | hp
      · exact .inl (List.mem_append_left _ hp)
      · rw [List.map_singleton, List.mem_singleton] at hp
        subst hp
        exact .inr ⟨Nat.le_succ _, le_rfl⟩
    · exact .inl (List.mem_append_right _ hp)

theorem RxFifo.nextObservation_of_peek (f : RxFifo) {kind : RxObservationKind} {sequence : ℕ}
    (h : f.peekObservation = some (kind, sequence)) : f.nextObservation = kind := by
  unfold peekObservation at h
  unfold nextObservation
  cases hbursts : f.bursts with
  | nil =>
    cases he : f.episode with
    | none => simp [hbursts, he] at h
    | some e =>
      simp only [hbursts, he, Option.some.injEq, Prod.mk.injEq] at h
      exact h.1
  | cons b rest =>
    cases he : f.episode with
    | none =>
      simp only [hbursts, he, Option.some.injEq, Prod.mk.injEq] at h
      exact h.1
    | some e =>
      simp only [hbursts, he] at h ⊢
      split at h
      · rename_i hlt
        rw [if_pos hlt]
        cases h
        rfl
      · rename_i hlt
        rw [if_neg hlt]
        cases h
        rfl

theorem RxFifo.episode_of_overflow (f : RxFifo) (h : f.nextObservation = .overflow) :
    f.episode ≠ none := by
  intro he
  unfold nextObservation at h
  rw [he] at h
  cases hbursts : f.bursts with
  | nil => simp [hbursts] at h
  | cons b rest => simp [hbursts] at h

/-- The ring's open episode is that of the FIFO. -/
theorem Refines.openOverflow {ring : RxRing} {f : RxFifo} (h : Refines ring f) :
    (if ring.episodeActive then ring.episodeDroppedBytes else 0) = f.openOverflow := by
  have hactive := h.counts.active
  have hepisode := h.counts.episode
  unfold RxFifo.openOverflow
  cases he : f.episode with
  | none =>
    rw [he, Option.isSome_none] at hactive
    rw [hactive]
    rfl
  | some e =>
    rw [he, Option.isSome_some] at hactive
    rw [hactive, if_pos rfl, Option.map_some, Option.getD_some, hepisode e he]

/-! ## Calls keep the accounts -/

theorem RxFifo.append_fields (f : RxFifo) (call : ℕ) (channel : UInt8) (timestampUs : ℕ)
    (kept : List UInt8) :
    (f.append call channel timestampUs kept).pushes = f.pushes ∧
      (f.append call channel timestampUs kept).droppedBytesTotal = f.droppedBytesTotal ∧
      (f.append call channel timestampUs kept).openOverflow = f.openOverflow := ⟨rfl, rfl, rfl⟩

theorem RxFifo.record_counts (f : RxFifo) (dropped timestampUs : ℕ) :
    (f.record dropped timestampUs).droppedBytesTotal = f.droppedBytesTotal + dropped ∧
      (f.record dropped timestampUs).openOverflow = f.openOverflow + dropped := by
  unfold record openOverflow
  split
  · rename_i hdropped
    exact ⟨by omega, by omega⟩
  · split
    · rename_i e he
      rw [he]
      exact ⟨rfl, rfl⟩
    · rename_i he
      rw [he]
      exact ⟨rfl, (Nat.zero_add _).symm⟩

theorem RxFifo.descriptorDrop_le (f : RxFifo) : f.descriptorDrop ≤ f.usedBytes := by
  unfold descriptorDrop usedBytes
  split
  · cases f.bursts with
    | nil => exact Nat.zero_le _
    | cons b rest =>
      rw [burstBytes, List.flatMap_cons, List.length_append]
      exact Nat.le_add_right _ _
  · exact Nat.zero_le _

theorem RxFifo.byteSpaceDrop_le (f : RxFifo) (kept : ℕ) :
    f.byteSpaceDrop kept ≤ f.usedBytes - f.descriptorDrop := Nat.sub_le _ _

variable {f : RxFifo} {a : RxAccount}

theorem Accounts.push (h : Accounts f a) (channel : UInt8) (timestampUs : ℕ) (data : List UInt8)
    (ring : RxRing) :
    Accounts (f.push channel timestampUs data)
      (a.record ring (.push channel timestampUs data) .nothing) := by
  have hpushes := h.pushes
  by_cases hdata : data = []
  · subst hdata
    refine ⟨?_, congrArg (· + 1) hpushes, h.bytes, h.overflow,
      ⟨h.order.1, h.order.2, h.order.3, h.order.4, h.order.5⟩⟩
    show taggedBytes f.bursts <:+ a.pushed ++ []
    rw [List.append_nil]
    exact h.kept
  have hlength := Refines.length_keptOf data
  have hkept := Refines.drop_keptOf data
  have hdescriptor := f.descriptorDrop_le
  have hbyteSpace := f.byteSpaceDrop_le (RxFifo.keptOf data).length
  have hspace : f.byteSpaceDrop (RxFifo.keptOf data).length
      = f.usedBytes - f.descriptorDrop - (ringBufferSizeBytes - (RxFifo.keptOf data).length) := by
    rw [RxFifo.byteSpaceDrop]
  unfold RxFifo.push
  rw [if_neg hdata]
  dsimp only
  generalize RxFifo.keptOf data = kept at hlength hkept hbyteSpace hspace ⊢
  have horder : InOrder { f with
      bursts := dropOldest (f.byteSpaceDrop kept.length) (dropOldest f.descriptorDrop f.bursts)
      pushes := f.pushes + 1 } a.handedOut := by
    have hdropped := (h.order.dropOldest f.descriptorDrop).dropOldest (f.byteSpaceDrop kept.length)
    exact ⟨hdropped.1, hdropped.2, hdropped.3, hdropped.4, hdropped.5⟩
  have htagged : taggedBytes (dropOldest (f.byteSpaceDrop kept.length)
      (dropOldest f.descriptorDrop f.bursts))
      = (taggedBytes f.bursts).drop (f.descriptorDrop + f.byteSpaceDrop kept.length) := by
    rw [taggedBytes_dropOldest, taggedBytes_dropOldest, List.drop_drop]
  have hused : (taggedBytes f.bursts).length = f.usedBytes := length_taggedBytes _
  generalize hf₀ : ({ f with
    bursts := dropOldest (f.byteSpaceDrop kept.length) (dropOldest f.descriptorDrop f.bursts)
    pushes := f.pushes + 1 } : RxFifo) = f₀ at horder ⊢
  have hfields : f₀.bursts = dropOldest (f.byteSpaceDrop kept.length)
      (dropOldest f.descriptorDrop f.bursts) ∧ f₀.pushes = f.pushes + 1 ∧
      f₀.droppedBytesTotal = f.droppedBytesTotal ∧ f₀.openOverflow = f.openOverflow := by
    subst hf₀
    exact ⟨rfl, rfl, rfl, rfl⟩
  obtain ⟨hbursts₀, hpushes₀, hdropped₀, hopen₀⟩ := hfields
  have hdrops : f.descriptorDrop + f.byteSpaceDrop kept.length ≤ f.usedBytes := by omega
  have hlost : kept.length < data.length →
      f.descriptorDrop + f.byteSpaceDrop kept.length = f.usedBytes := by
    intro hlt
    split at hlength <;> omega
  generalize f.descriptorDrop + f.byteSpaceDrop kept.length = drops at hdrops hlost htagged ⊢
  obtain ⟨hdropped₁, hopen₁⟩ := f₀.record_counts (data.length - kept.length) timestampUs
  obtain ⟨hbursts₁, hpushes₁, _⟩ := Refines.record_bursts f₀ (data.length - kept.length) timestampUs
  have horder₁ := horder.record (data.length - kept.length) timestampUs
  generalize f₀.record (data.length - kept.length) timestampUs = f₁ at *
  obtain ⟨hdropped₂, hopen₂⟩ := f₁.record_counts drops timestampUs
  obtain ⟨hbursts₂, hpushes₂, _⟩ := Refines.record_bursts f₁ drops timestampUs
  have horder₂ := horder₁.record drops timestampUs
  generalize f₁.record drops timestampUs = f₂ at *
  have hbursts : taggedBytes (f₂.bursts ++ [⟨f.pushes, timestampUs, f₂.sequences + 1, channel, kept⟩])
      = (taggedBytes f.bursts).drop drops
        ++ kept.map fun value => ⟨value, timestampUs, channel, f.pushes⟩ := by
    rw [taggedBytes, List.flatMap_append, hbursts₂, hbursts₁, hbursts₀, ← taggedBytes, htagged]
    simp [Burst.tagged]
  have hcount : (f₂.append f.pushes channel timestampUs kept).usedBytes
      = f.usedBytes - drops + kept.length := by
    have hlength := congrArg List.length hbursts
    rw [length_taggedBytes, List.length_append, List.length_drop, hused, List.length_map] at hlength
    exact hlength
  obtain ⟨hpushes₃, hdropped₃, hopen₃⟩ := f₂.append_fields f.pushes channel timestampUs kept
  refine ⟨?_, ?_, ?_, ?_, ?_⟩
  · show taggedBytes (f₂.bursts ++ [⟨f.pushes, timestampUs, f₂.sequences + 1, channel, kept⟩])
      <:+ a.pushed ++ data.map fun value => ⟨value, timestampUs, channel, a.pushes⟩
    rw [hbursts, hpushes]
    by_cases hlt : kept.length < data.length
    · rw [hlost hlt, List.drop_eq_nil_of_le (by omega), List.nil_append, ← hkept, List.map_drop]
      exact (List.drop_suffix _ _).trans (List.suffix_append _ _)
    · have hall : kept = data := by
        rw [← hkept, show data.length - kept.length = 0 by omega, List.drop_zero]
      obtain ⟨before, hbefore⟩ := (List.drop_suffix drops (taggedBytes f.bursts)).trans h.kept
      rw [hall, ← hbefore, List.append_assoc]
      exact List.suffix_append _ _
  · rw [a.record_push, hpushes₃, hpushes₂, hpushes₁, hpushes₀, hpushes]
  · have hbytes := h.bytes
    rw [a.record_push, hcount, hdropped₃, hdropped₂, hdropped₁, hdropped₀]
    dsimp only
    split at hlength <;> omega
  · have hoverflow := h.overflow
    rw [a.record_push, hopen₃, hdropped₃]
    dsimp only
    omega
  · exact horder₂.append f.pushes channel timestampUs kept

/-- A call that hands out nothing changes nothing but the sequences drawn. -/
theorem Accounts.quiet (h : Accounts f a) {out : RxOutput} (hchunk : out.chunk? = none)
    (hoverflow : out.overflow? = none) (hsequence : out.sequence? = none) :
    Accounts f (a.observe out) := by
  have hobserve : a.observe out = a := by
    rw [RxAccount.observe, hchunk, hoverflow, hsequence, Option.toList_none, List.append_nil]
    rfl
  rw [hobserve]
  exact h

/-- The oldest burst comes before what else is pending, unless the episode does. -/
theorem InOrder.first_burst {handedOut : List ℕ} (h : InOrder f handedOut) {b : Burst}
    {rest : List Burst} (hbursts : f.bursts = b :: rest) (hnext : f.nextObservation ≠ .overflow) :
    b.observationSequence ∈ f.pending ∧ ∀ p ∈ f.pending, b.observationSequence ≤ p := by
  have hsorted := h.bursts
  rw [hbursts, List.map_cons, List.pairwise_cons] at hsorted
  have hmem : b.observationSequence ∈ f.bursts.map Burst.observationSequence := by
    rw [hbursts, List.map_cons]
    exact List.mem_cons_self
  refine ⟨List.mem_append_left _ hmem, fun p hp => ?_⟩
  rcases List.mem_append.mp hp with hp | hp
  · rw [hbursts, List.map_cons, List.mem_cons] at hp
    rcases hp with rfl | hp
    · exact le_rfl
    · exact (hsorted.1 p hp).le
  · rw [RxFifo.nextObservation, hbursts] at hnext
    cases he : f.episode with
    | none => simp [he] at hp
    | some e =>
      rw [he, Option.map_some, Option.toList_some, List.mem_singleton] at hp
      simp only [he, ne_eq, ite_eq_right_iff, reduceCtorEq, imp_false, not_not] at hnext
      omega

/-- The open episode comes before what else is pending, unless the oldest burst does. -/
theorem InOrder.first_episode {handedOut : List ℕ} (h : InOrder f handedOut) {e : RxOverflow}
    (he : f.episode = some e) (hnext : f.nextObservation = .overflow) :
    e.observationSequence ∈ f.pending ∧ ∀ p ∈ f.pending, e.observationSequence ≤ p := by
  have hmem : e.observationSequence
      ∈ (f.episode.map RxOverflow.observationSequence).toList := by
    rw [he]
    exact List.mem_singleton.mpr rfl
  refine ⟨List.mem_append_right _ hmem, fun p hp => ?_⟩
  rcases List.mem_append.mp hp with hp | hp
  · have hsorted := h.bursts
    cases hbursts : f.bursts with
    | nil =>
      rw [hbursts] at hp
      cases hp
    | cons b rest =>
      rw [hbursts, List.map_cons] at hp hsorted
      rw [List.pairwise_cons] at hsorted
      simp only [RxFifo.nextObservation, hbursts, he, ite_eq_right_iff, reduceCtorEq, imp_false]
        at hnext
      rcases List.mem_cons.mp hp with rfl | hp
      · omega
      · have hlt := hsorted.1 p hp
        omega
  · rw [he, Option.map_some, Option.toList_some, List.mem_singleton] at hp
    omega

theorem Accounts.take (h : Accounts f a) (outputCapacity : ℕ) :
    Accounts (f.take outputCapacity).1
      (a.observe (.observed (.chunk (f.take outputCapacity).2))) := by
  unfold RxFifo.take
  cases hbursts : f.bursts with
  | nil => exact h.quiet rfl rfl rfl
  | cons b rest =>
    dsimp only
    split
    · exact h.quiet rfl rfl rfl
    split
    · exact h.quiet rfl rfl rfl
    rename_i hnext
    obtain ⟨hmem, hleast⟩ := h.order.first_burst hbursts hnext
    have horder := (h.order.hand hmem hleast).dropOldest (min outputCapacity b.bytes.length)
    have hused : f.usedBytes = b.bytes.length + (burstBytes rest).length := by
      rw [RxFifo.usedBytes, hbursts, burstBytes, List.flatMap_cons, List.length_append]
      rfl
    have hbytes := h.bytes
    refine ⟨?_, h.pushes, ?_, h.overflow, ?_⟩
    · show taggedBytes (dropOldest _ (b :: rest)) <:+ a.pushed
      rw [taggedBytes_dropOldest, ← hbursts]
      exact (List.drop_suffix _ _).trans h.kept
    · show a.pushedTotal = a.takenTotal + (b.bytes.take outputCapacity).length
        + (burstBytes (dropOldest _ (b :: rest))).length + f.droppedBytesTotal + a.discardedTotal
      rw [burstBytes_dropOldest, List.length_drop, List.length_take, ← hbursts]
      show a.pushedTotal = _ + (f.usedBytes - _) + _ + _
      omega
    · rw [hbursts] at horder
      exact horder

/-- Ending the episode hands its bytes out. -/
theorem Accounts.claim (h : Accounts f a) {out : RxOutput} (hchunk : out.chunk? = none)
    (hoverflow : out.overflow? = f.episode)
    (horder : InOrder f (a.handedOut ++ out.sequence?.toList)) :
    Accounts { f with episode := none } (a.observe out) := by
  refine ⟨h.kept, h.pushes, ?_, ?_, ?_⟩
  · rw [RxAccount.observe, hchunk]
    exact h.bytes
  · rw [RxAccount.observe, hoverflow]
    exact h.overflow
  · refine horder.of_pending h.order.bursts ?_ (Nat.le_refl f.sequences)
    intro p hp
    rw [RxFifo.pending, Option.map_none, Option.toList_none, List.append_nil] at hp
    exact .inl (List.mem_append_left _ hp)

theorem Accounts.takeBefore (h : Accounts f a) (sequenceLimit : Option ℕ) (outputCapacity : ℕ) :
    Accounts (f.takeBefore sequenceLimit outputCapacity).1
      (a.observe (.observed (f.takeBefore sequenceLimit outputCapacity).2)) := by
  unfold RxFifo.takeBefore
  cases hpeek : f.peekObservation with
  | none => exact h.quiet rfl rfl rfl
  | some observation =>
    obtain ⟨kind, sequence⟩ := observation
    dsimp only
    split
    · exact h.quiet rfl rfl rfl
    split
    · rename_i hkind
      subst hkind
      have hnext := f.nextObservation_of_peek hpeek
      cases he : f.episode with
      | none => exact absurd he (f.episode_of_overflow hnext)
      | some e =>
        obtain ⟨hmem, hleast⟩ := h.order.first_episode he hnext
        exact h.claim rfl he.symm (h.order.hand hmem hleast)
    · exact h.take outputCapacity

theorem Accounts.call {ring : RxRing} (hrefines : Refines ring f) (h : Accounts f a) (c : RxCall) :
    Accounts (f.call c).1 (a.record ring c (f.call c).2) := by
  cases c with
  | init => exact ⟨List.suffix_refl _, rfl, rfl, rfl, .nil, nofun, .nil, nofun, nofun⟩
  | push channel timestampUs data => exact h.push channel timestampUs data ring
  | take outputCapacity => exact h.take outputCapacity
  | takeBefore sequenceLimit outputCapacity => exact h.takeBefore sequenceLimit outputCapacity
  | claimOverflow =>
    refine h.claim rfl rfl ?_
    show InOrder f (a.handedOut ++ [])
    rw [List.append_nil]
    exact h.order
  | snapshotObservation =>
    refine Accounts.quiet (f := { f with sequences := f.sequences + 1 }) ?_ rfl rfl rfl
    refine ⟨h.kept, h.pushes, h.bytes, h.overflow, ?_⟩
    exact h.order.of_pending h.order.bursts (fun p hp => .inl hp) (Nat.le_succ f.sequences)
  | discardRetained =>
    have hopen : (if ring.episodeActive then ring.episodeDroppedBytes else 0) = f.openOverflow :=
      hrefines.openOverflow
    have hbytes := h.bytes
    have hoverflow := h.overflow
    refine ⟨List.nil_suffix, h.pushes, ?_, ?_, ?_⟩
    · show a.pushedTotal
        = a.takenTotal + 0 + f.droppedBytesTotal + (a.discardedTotal + ring.usedBytes)
      rw [hrefines.usedBytes]
      omega
    · show a.claimedOverflow + 0 + (a.discardedOverflow + _) = f.droppedBytesTotal
      rw [hopen]
      omega
    · exact h.order.of_pending .nil nofun (Nat.le_refl f.sequences)

/-! ## What the ring's memory says -/

namespace RxRing

variable (ring : RxRing)

def liveDescriptors : List RxDescriptor :=
  window ring.descriptors rxDescriptorCapacity ring.descriptorHead ring.descriptorCount

/-- The retained bytes, each with the timestamp and channel of its descriptor. -/
def retained : List (UInt8 × ℕ × UInt8) :=
  (window ring.bytes ringBufferSizeBytes ring.readIndex ring.usedBytes).zip
    (ring.liveDescriptors.flatMap fun d => List.replicate d.length (d.timestampUs, d.channel))

end RxRing

def RxByte.provenance (x : RxByte) : UInt8 × ℕ × UInt8 := (x.value, x.timestampUs, x.channel)

/-- The last bytes pushed, as many as the ring uses. -/
def RxAccount.lastPushed (a : RxAccount) (ring : RxRing) : List RxByte :=
  a.pushed.drop (a.pushed.length - ring.usedBytes)

/-- The ring is sound, and the accounts add up. -/
structure RingSound (ring : RxRing) (a : RxAccount) : Prop where
  usedBytes : ring.usedBytes = (ring.liveDescriptors.map RxDescriptor.length).sum
  capacity : ring.usedBytes ≤ ringBufferSizeBytes
  descriptorCount : ring.descriptorCount ≤ rxDescriptorCapacity
  nonempty : ∀ d ∈ ring.liveDescriptors, 1 ≤ d.length
  retained : ring.retained = (a.lastPushed ring).map RxByte.provenance
  bytes : a.pushedTotal = a.takenTotal + ring.usedBytes + ring.droppedBytesTotal + a.discardedTotal
  overflow : a.claimedOverflow + (if ring.episodeActive then ring.episodeDroppedBytes else 0)
    + a.discardedOverflow = ring.droppedBytesTotal
  sorted : a.handedOut.Pairwise (· ≤ ·)

/-- What a call may hand out. -/
structure HandsOut (ring : RxRing) (a : RxAccount) (c : RxCall) (out : RxOutput) : Prop where
  /-- A chunk is the start of what is retained, out of a single push. -/
  chunk : ∀ chunk, out.chunk? = some chunk → chunk.data ≠ [] ∧
    ∃ call, chunk.data.map (fun value => ⟨value, chunk.timestampUs, chunk.channel, call⟩)
      = (a.lastPushed ring).take chunk.data.length
  /-- A take with room in its output takes, unless an overflow comes first. -/
  take : ∀ outputCapacity, c = .take outputCapacity → 0 < outputCapacity →
    match ring.nextObservation with
    | .none => out = .observed (.chunk .empty)
    | .overflow => out = .observed (.chunk (if ring.descriptorCount = 0 then .empty else .again))
    | .chunk => ∃ chunk, out.chunk? = some chunk ∧
        chunk.data.length = min outputCapacity ring.oldestDescriptor.length
  /-- Nothing in the ring comes before what is drained. -/
  first : ∀ sequence ∈ out.sequence?,
    (∀ d ∈ ring.liveDescriptors, sequence ≤ d.observationSequence) ∧
      (ring.episodeActive → sequence ≤ ring.episodeObservationSequence)
  limit : ∀ limit outputCapacity, c = .takeBefore (some limit) outputCapacity →
    ∀ sequence ∈ out.sequence?, sequence < limit

theorem zip_bursts (bursts : List Burst) :
    (burstBytes bursts).zip ((bursts.map Burst.descriptor).flatMap fun d =>
      List.replicate d.length (d.timestampUs, d.channel))
      = (taggedBytes bursts).map RxByte.provenance := by
  induction bursts with
  | nil => rfl
  | cons b rest ih =>
    have hb : b.bytes.zip (List.replicate b.bytes.length (b.timestampUs, b.channel))
        = b.tagged.map RxByte.provenance := by
      rw [Burst.tagged, List.map_map]
      induction b.bytes with
      | nil => rfl
      | cons value bytes ih => rw [List.length_cons, List.replicate_succ, List.zip_cons_cons, ih]; rfl
    rw [burstBytes, taggedBytes, List.flatMap_cons, List.flatMap_cons, List.map_cons,
      List.flatMap_cons, List.map_append, ← hb]
    rw [List.zip_append (by simp [Burst.descriptor])]
    exact congrArg (_ ++ ·) ih

theorem sum_bursts (bursts : List Burst) :
    ((bursts.map Burst.descriptor).map RxDescriptor.length).sum = (burstBytes bursts).length := by
  rw [burstBytes, List.length_flatMap, List.map_map]
  rfl

/-- What is kept is what was pushed last. -/
theorem lastPushed_eq {ring : RxRing} {f : RxFifo} {a : RxAccount} (hrefines : Refines ring f)
    (h : Accounts f a) : a.lastPushed ring = taggedBytes f.bursts := by
  obtain ⟨before, hpushed⟩ := h.kept
  have hused : (taggedBytes f.bursts).length = ring.usedBytes :=
    (length_taggedBytes _).trans hrefines.usedBytes.symm
  rw [RxAccount.lastPushed, ← hpushed, List.length_append, hused, Nat.add_sub_cancel,
    List.drop_left]

theorem ringSound {ring : RxRing} {f : RxFifo} {a : RxAccount} (hrefines : Refines ring f)
    (h : Accounts f a) : RingSound ring a := by
  have hlive : ring.liveDescriptors = f.bursts.map Burst.descriptor := hrefines.stores.descriptors
  constructor
  · rw [hlive, sum_bursts]
    exact hrefines.stores.length_bytes
  · exact hrefines.stores.usedBytes
  · exact hrefines.stores.descriptorCount
  · intro d hd
    rw [hlive, List.mem_map] at hd
    obtain ⟨b, hb, rfl⟩ := hd
    exact List.length_pos_iff.mpr (hrefines.stores.nonempty b hb)
  · rw [RxRing.retained, hlive, hrefines.stores.bytes, zip_bursts, lastPushed_eq hrefines h]
  · rw [hrefines.usedBytes, hrefines.counts.droppedBytesTotal]
    exact h.bytes
  · rw [hrefines.openOverflow, hrefines.counts.droppedBytesTotal]
    exact h.overflow
  · exact h.order.sorted

/-- A chunk is the start of the oldest burst. -/
theorem RxFifo.take_chunk {f : RxFifo} {outputCapacity : ℕ} {chunk : RxChunk}
    (h : (f.take outputCapacity).2 = .chunk chunk) :
    ∃ b rest, f.bursts = b :: rest ∧ outputCapacity ≠ 0 ∧ f.nextObservation ≠ .overflow ∧
      chunk = ⟨b.timestampUs, b.observationSequence, b.channel, b.bytes.take outputCapacity⟩ := by
  unfold take at h
  cases hbursts : f.bursts with
  | nil => simp [hbursts] at h
  | cons b rest =>
    simp only [hbursts] at h
    split at h
    · cases h
    split at h
    · cases h
    rename_i hcapacity hnext
    exact ⟨b, rest, rfl, hcapacity, hnext, (RxTake.chunk.inj h).symm⟩

/-- The sequence an observation is peeked with is its own. -/
theorem RxFifo.peek_cases {f : RxFifo} {kind : RxObservationKind} {sequence : ℕ}
    (h : f.peekObservation = some (kind, sequence)) :
    (kind = .chunk ∧ ∃ b rest, f.bursts = b :: rest ∧ b.observationSequence = sequence) ∨
      (kind = .overflow ∧ ∃ e, f.episode = some e ∧ e.observationSequence = sequence) := by
  unfold peekObservation at h
  split at h
  · cases h
  · rename_i e _ he
    cases h
    exact .inr ⟨rfl, e, he, rfl⟩
  · rename_i b rest hbursts _
    cases h
    exact .inl ⟨rfl, b, rest, hbursts, rfl⟩
  · rename_i b rest e hbursts he
    split at h
    · cases h
      exact .inl ⟨rfl, b, rest, hbursts, rfl⟩
    · cases h
      exact .inr ⟨rfl, e, he, rfl⟩

/-- A take before a limit hands out the open episode or takes from the oldest burst. -/
theorem RxFifo.takeBefore_cases (f : RxFifo) (sequenceLimit : Option ℕ) (outputCapacity : ℕ) :
    (f.takeBefore sequenceLimit outputCapacity).2 = .nothing ∨
      (∃ e, f.episode = some e ∧ f.nextObservation = .overflow ∧
        (∀ limit, sequenceLimit = some limit → e.observationSequence < limit) ∧
        (f.takeBefore sequenceLimit outputCapacity).2 = .overflow e) ∨
      (∃ b rest, f.bursts = b :: rest ∧
        (∀ limit, sequenceLimit = some limit → b.observationSequence < limit) ∧
        (f.takeBefore sequenceLimit outputCapacity).2 = .chunk (f.take outputCapacity).2) := by
  unfold takeBefore
  cases hpeek : f.peekObservation with
  | none => exact .inl rfl
  | some observation =>
    obtain ⟨kind, sequence⟩ := observation
    dsimp only
    split
    · exact .inl rfl
    rename_i hlimit
    have hbelow : ∀ limit, sequenceLimit = some limit → sequence < limit := by
      rintro limit rfl
      simpa using hlimit
    have hnext := f.nextObservation_of_peek hpeek
    rcases peek_cases hpeek with ⟨rfl, b, rest, hbursts, rfl⟩ | ⟨rfl, e, he, rfl⟩
    · rw [if_neg nofun]
      exact .inr (.inr ⟨b, rest, hbursts, hbelow, rfl⟩)
    · rw [if_pos rfl]
      refine .inr (.inl ⟨e, he, hnext, hbelow, ?_⟩)
      rw [he]

section HandsOut

variable {ring : RxRing}

theorem lastPushed_take (hrefines : Refines ring f) (h : Accounts f a) {outputCapacity : ℕ}
    {chunk : RxChunk} (htake : (f.take outputCapacity).2 = .chunk chunk) : chunk.data ≠ [] ∧
      ∃ call, chunk.data.map (fun value => (⟨value, chunk.timestampUs, chunk.channel, call⟩ : RxByte))
        = (a.lastPushed ring).take chunk.data.length := by
  obtain ⟨b, rest, hbursts, hcapacity, _, rfl⟩ := RxFifo.take_chunk htake
  have hne : b.bytes ≠ [] := hrefines.stores.nonempty b (by rw [hbursts]; exact List.mem_cons_self)
  refine ⟨?_, b.call, ?_⟩
  · intro hnil
    rcases List.take_eq_nil_iff.mp hnil with hzero | hzero
    · exact hcapacity hzero
    · exact hne hzero
  · rw [lastPushed_eq hrefines h, hbursts, taggedBytes, List.flatMap_cons,
      List.take_append_of_le_length]
    · rw [Burst.tagged, ← List.map_take, List.length_take, ← List.take_eq_take_min]
    · rw [Burst.length_tagged, List.length_take]
      exact Nat.min_le_right _ _

/-- What comes first in the FIFO comes first in the ring. -/
theorem first_of_pending (hrefines : Refines ring f) {sequence : ℕ}
    (hleast : ∀ p ∈ f.pending, sequence ≤ p) :
    (∀ d ∈ ring.liveDescriptors, sequence ≤ d.observationSequence) ∧
      (ring.episodeActive → sequence ≤ ring.episodeObservationSequence) := by
  have hlive : ring.liveDescriptors = f.bursts.map Burst.descriptor := hrefines.stores.descriptors
  constructor
  · intro d hd
    rw [hlive, List.mem_map] at hd
    obtain ⟨b, hb, rfl⟩ := hd
    exact hleast _ (List.mem_append_left _ (List.mem_map_of_mem hb))
  · intro hactive
    rw [hrefines.counts.active] at hactive
    obtain ⟨e, he⟩ := Option.isSome_iff_exists.mp hactive
    have hsequence : e.observationSequence = ring.episodeObservationSequence := by
      rw [hrefines.counts.episode e he]
    rw [← hsequence]
    apply hleast
    apply List.mem_append_right
    rw [he]
    exact List.mem_singleton.mpr rfl

theorem handsOut_take (hrefines : Refines ring f) (h : Accounts f a) (outputCapacity : ℕ) :
    HandsOut ring a (.take outputCapacity) (.observed (.chunk (f.take outputCapacity).2)) where
  chunk chunk hchunk := by
    cases htake : (f.take outputCapacity).2 with
    | empty => rw [htake] at hchunk; cases hchunk
    | again => rw [htake] at hchunk; cases hchunk
    | chunk taken =>
      rw [htake] at hchunk
      cases hchunk
      exact lastPushed_take hrefines h htake
  take outputCapacity' hcapacity hpos := by
    cases hcapacity
    have hcount := hrefines.stores.length_bursts
    have hstores := hrefines.stores
    rw [hrefines.peekObservation.2]
    unfold RxFifo.take
    cases hnext : f.nextObservation with
    | none =>
      cases hbursts : f.bursts with
      | nil => rfl
      | cons b rest =>
        exfalso
        revert hnext
        unfold RxFifo.nextObservation
        rw [hbursts]
        cases he : f.episode with
        | none => nofun
        | some e =>
          dsimp only
          split <;> nofun
    | overflow =>
      cases hbursts : f.bursts with
      | nil =>
        rw [hbursts, List.length_nil] at hcount
        rw [if_pos hcount]
      | cons b rest =>
        rw [hbursts, List.length_cons] at hcount
        rw [if_neg (by omega)]
        dsimp only
        rw [if_neg (by omega), if_pos rfl]
    | chunk =>
      cases hbursts : f.bursts with
      | nil =>
        exfalso
        revert hnext
        unfold RxFifo.nextObservation
        rw [hbursts]
        cases f.episode <;> nofun
      | cons b rest =>
        rw [hbursts] at hstores
        dsimp only
        rw [if_neg (by omega), if_neg nofun, hstores.oldest.1]
        exact ⟨_, rfl, List.length_take⟩
  first sequence hsequence := by
    cases htake : (f.take outputCapacity).2 with
    | empty => rw [htake] at hsequence; cases hsequence
    | again => rw [htake] at hsequence; cases hsequence
    | chunk taken =>
      rw [htake] at hsequence
      cases hsequence
      obtain ⟨b, rest, hbursts, _, hnext, rfl⟩ := RxFifo.take_chunk htake
      exact first_of_pending hrefines (h.order.first_burst hbursts hnext).2
  limit := nofun

theorem handsOut_takeBefore (hrefines : Refines ring f) (h : Accounts f a)
    (sequenceLimit : Option ℕ) (outputCapacity : ℕ) :
    HandsOut ring a (.takeBefore sequenceLimit outputCapacity)
      (.observed (f.takeBefore sequenceLimit outputCapacity).2) := by
  rcases f.takeBefore_cases sequenceLimit outputCapacity with
    hout | ⟨e, he, hnext, hlimit, hout⟩ | ⟨b, rest, hbursts, hlimit, hout⟩
  · rw [hout]
    exact ⟨nofun, nofun, nofun, nofun⟩
  · rw [hout]
    refine ⟨nofun, nofun, ?_, ?_⟩
    · rintro _ ⟨⟩
      exact first_of_pending hrefines (h.order.first_episode he hnext).2
    · rintro limit _ ⟨⟩ _ ⟨⟩
      exact hlimit limit rfl
  · rw [hout]
    obtain ⟨hchunk, _, hfirst, _⟩ := handsOut_take hrefines h outputCapacity
    refine ⟨hchunk, nofun, hfirst, ?_⟩
    rintro limit _ ⟨⟩ sequence hsequence
    cases htake : (f.take outputCapacity).2 with
    | empty => rw [htake] at hsequence; cases hsequence
    | again => rw [htake] at hsequence; cases hsequence
    | chunk taken =>
      rw [htake] at hsequence
      cases hsequence
      obtain ⟨b', rest', hbursts', _, _, rfl⟩ := RxFifo.take_chunk htake
      cases hbursts.symm.trans hbursts'
      exact hlimit limit rfl

theorem handsOut_call (hrefines : Refines ring f) (h : Accounts f a) (c : RxCall) :
    HandsOut ring a c (f.call c).2 := by
  cases c with
  | take outputCapacity => exact handsOut_take hrefines h outputCapacity
  | takeBefore sequenceLimit outputCapacity =>
    exact handsOut_takeBefore hrefines h sequenceLimit outputCapacity
  | init => exact ⟨nofun, nofun, nofun, nofun⟩
  | push channel timestampUs data => exact ⟨nofun, nofun, nofun, nofun⟩
  | claimOverflow => exact ⟨nofun, nofun, nofun, nofun⟩
  | snapshotObservation => exact ⟨nofun, nofun, nofun, nofun⟩
  | discardRetained => exact ⟨nofun, nofun, nofun, nofun⟩

end HandsOut

/-! ## Runs -/

theorem CountersFitAlong.start {calls : List RxCall} (h : CountersFitAlong f calls) :
    CountersFit f := by
  cases calls with
  | nil => exact h
  | cons c calls => exact h.1

theorem runRx_refines (calls : List RxCall) {ring : RxRing} (hrefines : Refines ring f)
    (h : Accounts f a) (hfit : CountersFitAlong f calls) :
    ∃ ring' a', runRx (ring, a) calls = some (ring', a') ∧ Refines ring' (f.after calls) ∧
      Accounts (f.after calls) a' := by
  induction calls generalizing f ring a with
  | nil => exact ⟨ring, a, rfl, hrefines, h⟩
  | cons c calls ih =>
    obtain ⟨ring', hcall, hrefines'⟩ := hrefines.call c hfit.2.start
    obtain ⟨ring'', a'', hrun, hafter⟩ := ih hrefines' (Accounts.call hrefines h c) hfit.2
    refine ⟨ring'', a'', ?_, hafter⟩
    rw [runRx, hcall]
    exact hrun

instance (f : RxFifo) : Decidable (CountersFit f) :=
  decidable_of_iff (f.sequences < 2 ^ 64 ∧ f.droppedBytesTotal < 2 ^ 64)
    ⟨fun h => ⟨h.1, h.2⟩, fun h => ⟨h.1, h.2⟩⟩

instance decidableCountersFitAlong :
    (f : RxFifo) → (calls : List RxCall) → Decidable (CountersFitAlong f calls)
  | f, [] => inferInstanceAs (Decidable (CountersFit f))
  | f, c :: calls =>
    let _ := decidableCountersFitAlong (f.call c).1 calls
    inferInstanceAs (Decidable (CountersFit f ∧ CountersFitAlong (f.call c).1 calls))

/-- In every run of calls whose counters stay below 2^64 the ring is a FIFO of tagged bytes. -/
theorem RxRing.run_sound (calls : List RxCall) (hfit : CountersFitAlong {} calls) :
    ∃ ring a, runRx (.init, {}) calls = some (ring, a) ∧ RingSound ring a ∧
      Refines ring (RxFifo.after {} calls) ∧
      ∀ c, CountersFit ((RxFifo.after {} calls).call c).1 →
        ∃ ring' out, ring.call c = some (ring', out) ∧ HandsOut ring a c out ∧
          out = ((RxFifo.after {} calls).call c).2 := by
  have hinit : Accounts {} {} :=
    ⟨List.suffix_refl _, rfl, rfl, rfl, .nil, nofun, .nil, nofun, nofun⟩
  obtain ⟨ring, a, hrun, hrefines, haccounts⟩ := runRx_refines calls Refines.init hinit hfit
  refine ⟨ring, a, hrun, ringSound hrefines haccounts, hrefines, fun c hfit => ?_⟩
  obtain ⟨ring', hcall, _⟩ := hrefines.call c hfit
  exact ⟨ring', _, hcall, handsOut_call hrefines haccounts c, rfl⟩

/-- Two pushes; a take hands out the first byte. -/
theorem RxRing.run_sound_two_pushes :
    CountersFitAlong {} [.push 0 7 [65, 66], .push 1 9 [67]] ∧
      ∃ ring a, runRx (.init, {}) [.push 0 7 [65, 66], .push 1 9 [67]] = some (ring, a) ∧
        RingSound ring a ∧ ∃ ring', ring.call (.take 1)
          = some (ring', .observed (.chunk (.chunk ⟨7, 1, 0, [65]⟩))) := by
  have hfit : CountersFitAlong {} [.push 0 7 [65, 66], .push 1 9 [67]] := by
    decide +kernel
  obtain ⟨ring, a, hrun, hsound, _, hcall⟩ := RxRing.run_sound _ hfit
  obtain ⟨ring', out, htake, _, hout⟩ := hcall (.take 1) (by decide +kernel)
  have houtput : out = .observed (.chunk (.chunk ⟨7, 1, 0, [65]⟩)) := by
    rw [hout]
    decide +kernel
  exact ⟨hfit, ring, a, hrun, hsound, ring', houtput ▸ htake⟩
