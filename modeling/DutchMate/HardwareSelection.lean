/-
# The selected events

The events of failed outcomes are offered first, then the attempts of unknown ones, and then all
others; as many as are allowed are selected.
-/
import DutchMate.HardwareOutcomes

open PyJson

namespace DebugEvidence

variable {sessionId : PyStr} {records : List Payload} {events : List HardwareEventExcerpt}
  {outcomes : List UartTxOutcome} {critical : List HardwareEventExcerpt}

/-! ## The selection -/

/-- The events selected, in the order in which they were offered. -/
def takenEvents (excerpts : List HardwareEventExcerpt) : List HardwareEventExcerpt :=
  Budget.choose HardwareEventExcerpt.eventIndex (fun _ => 0) hardwareEventLimit 0 excerpts

theorem entries_set_self {κ α : Type} [DecidableEq κ] {d : Dict κ α} {k : κ} {v : α}
    (h : d.get? k = some v) : (d.set k v).entries = d.entries := by
  have hmem : k ∈ d.keys := (Dict.mem_keys_iff _ _).mpr ⟨v, h⟩
  rw [Dict.set, dif_pos hmem]
  refine (List.map_congr_left fun entry hentry => ?_).trans (List.map_id _)
  by_cases hk : entry.1 = k
  · rw [if_pos hk]
    have hget := (Dict.get?_eq_some_iff d entry.1 entry.2).mpr hentry
    rw [hk, h] at hget
    exact Prod.ext hk.symm (Option.some.inj hget)
  · exact if_neg hk

theorem selectEvents_entries {selected : Dict ℕ HardwareEventExcerpt}
    {taken offered : List HardwareEventExcerpt} (hexcerpted : Excerpted sessionId records events)
    (htaken : ∀ excerpt ∈ taken, excerpt ∈ events)
    (hoffered : ∀ excerpt ∈ offered, excerpt ∈ events)
    (h : selected.entries = taken.map fun excerpt => (excerpt.eventIndex, excerpt))
    (hlength : taken.length ≤ hardwareEventLimit) :
    (selectEvents selected offered).entries
      = (Budget.offerAll HardwareEventExcerpt.eventIndex (fun _ => 0) hardwareEventLimit 0 taken
          offered).map fun excerpt => (excerpt.eventIndex, excerpt) := by
  induction offered generalizing selected taken with
  | nil => exact h
  | cons excerpt offered ih =>
    have hcount : selected.length = taken.length := by
      rw [Dict.length, h, List.length_map]
    have hkeys : selected.keys = taken.map HardwareEventExcerpt.eventIndex := by
      rw [Dict.keys, h, List.map_map]
      rfl
    have hevent := hoffered excerpt List.mem_cons_self
    have hrest : ∀ other ∈ offered, other ∈ events := fun other hother =>
      hoffered other (List.mem_cons_of_mem _ hother)
    rw [selectEvents, hcount]
    by_cases hfull : hardwareEventLimit ≤ taken.length
    · rw [if_pos hfull, Budget.offerAll_of_full (le_antisymm hlength hfull), h]
    rw [if_neg hfull]
    change _ = (Budget.offerAll _ _ _ _ (Budget.offer _ _ _ _ taken excerpt) offered).map _
    by_cases hmem : excerpt.eventIndex ∈ taken.map HardwareEventExcerpt.eventIndex
    · have hoffer : Budget.offer HardwareEventExcerpt.eventIndex (fun _ => 0) hardwareEventLimit 0
          taken excerpt = taken := if_pos (.inl hmem)
      obtain ⟨other, hother, hindex⟩ := List.mem_map.mp hmem
      obtain rfl := hexcerpted.eq_of_index (htaken other hother) hevent hindex
      have hget : selected.get? other.eventIndex = some other := by
        rw [Dict.get?_eq_some_iff, h]
        exact List.mem_map_of_mem hother
      rw [hoffer]
      exact ih htaken hrest ((entries_set_self hget).trans h) hlength
    · have hoffer : Budget.offer HardwareEventExcerpt.eventIndex (fun _ => 0) hardwareEventLimit 0
          taken excerpt = taken ++ [excerpt] :=
        if_neg (not_or.mpr ⟨hmem, Budget.not_exceeds_of_length (not_le.mp hfull)⟩)
      rw [hoffer]
      refine ih (fun other hother => ?_) hrest ?_ ?_
      · rcases List.mem_append.mp hother with hother | hother
        · exact htaken other hother
        · exact List.mem_singleton.mp hother ▸ hevent
      · rw [Dict.entries_set_of_notMem _ _ (hkeys ▸ hmem), h, List.map_append, List.map_singleton]
      · rw [List.length_append, List.length_singleton]
        exact not_le.mp hfull

variable {s : HardwareSelector}

theorem Lists.mem_offered (h : Lists sessionId records events s) {excerpt : HardwareEventExcerpt}
    (hmem : excerpt ∈ s.offered) : excerpt ∈ events := by
  rw [HardwareSelector.offered, List.mem_append] at hmem
  rcases hmem with hmem | hmem
  · exact (h.critical.real excerpt hmem).1
  · exact h.listed excerpt hmem

theorem Lists.select_eq (h : Lists sessionId records events s) :
    s.select.1 = Newest.sorted HardwareEventExcerpt.eventIndex (takenEvents s.offered) :=
  sortedEntries_keyed (selectEvents_entries h.excerpted nofun
    (fun _ hmem => h.mem_offered hmem) rfl (Nat.zero_le _))

/-! ## What the selection is to be -/

/-- Where an event of one of some outcomes is passed over, as many as are ever selected are of
them. -/
def Precede (events excerpts : List HardwareEventExcerpt) (listed : UartTxOutcome → Prop) : Prop :=
  ∀ outcome, listed outcome → ∀ excerpt ∈ events, EventOf outcome excerpt → excerpt ∉ excerpts →
    excerpts.length = hardwareEventLimit ∧
      ∀ other ∈ excerpts, ∃ outcome, listed outcome ∧ EventOf outcome other

/-- A selection of events within the limit, those of failed outcomes before those of unknown ones
and these before all others. -/
structure SelectsEvents (records : List Payload) (events excerpts : List HardwareEventExcerpt) :
    Prop where
  real : excerpts.Sublist events
  count : excerpts.length ≤ hardwareEventLimit
  failed : Precede events excerpts (IsFailed records)
  unknown : Precede events excerpts fun outcome =>
    IsFailed records outcome ∨ IsUnknown records outcome

/-- Every failed or unknown outcome is listed once, in the order of the attempts. -/
structure ListsOutcomes (records : List Payload) (outcomes : List UartTxOutcome) : Prop where
  mem : ∀ outcome, outcome ∈ outcomes ↔ IsFailed records outcome ∨ IsUnknown records outcome
  ordered : outcomes.Pairwise fun outcome other =>
    outcome.attemptEventIndex < other.attemptEventIndex

theorem takenEvents_or_full (excerpts : List HardwareEventExcerpt) :
    (∀ excerpt ∈ excerpts, excerpt.eventIndex
      ∈ (takenEvents excerpts).map HardwareEventExcerpt.eventIndex) ∨
        (takenEvents excerpts).length = hardwareEventLimit := Budget.taken_or_full

theorem Critical.length_taken (h : Critical events outcomes critical)
    (hfull : hardwareEventLimit ≤ critical.length) :
    (takenEvents critical).length = hardwareEventLimit := by
  have hwithin : (takenEvents critical).length ≤ hardwareEventLimit :=
    (Budget.within_choose _).length
  rcases takenEvents_or_full critical with hall | hlength
  · have hle := (List.subperm_of_subset h.nodup fun index hindex => by
      obtain ⟨excerpt, hexcerpt, rfl⟩ := List.mem_map.mp hindex
      exact hall excerpt hexcerpt).length_le
    rw [List.length_map, List.length_map] at hle
    exact le_antisymm hwithin (hfull.trans hle)
  · exact hlength

/-- The events offered first are selected before the others. -/
theorem Critical.precede (h : Critical events outcomes critical)
    (hexcerpted : Excerpted sessionId records events) {more : List HardwareEventExcerpt}
    {listed : UartTxOutcome → Prop} (hlisted : ∀ outcome, outcome ∈ outcomes ↔ listed outcome) :
    Precede events (takenEvents (critical ++ more)) listed := by
  intro outcome houtcome excerpt hevent hof hnot
  have hfull : (takenEvents critical).length = hardwareEventLimit := by
    by_cases hroom : critical.length < hardwareEventLimit
    · rcases takenEvents_or_full critical with hall | hlength
      · have hmem := h.all hroom outcome ((hlisted outcome).mpr houtcome) excerpt hevent hof
        obtain ⟨other, hother, hindex⟩ := List.mem_map.mp (hall excerpt hmem)
        have hsame := hexcerpted.eq_of_index (h.real other (Budget.mem_of_mem_choose hother)).1
          hevent hindex
        exact absurd ((Budget.choose_initial critical more).subset (hsame ▸ hother)) hnot
      · exact hlength
    · exact h.length_taken (not_lt.mp hroom)
  have hsame : takenEvents (critical ++ more) = takenEvents critical :=
    Budget.choose_of_full hfull more
  rw [hsame]
  refine ⟨hfull, fun other hother => ?_⟩
  obtain ⟨-, outcome', hmem, hof'⟩ := h.real other (Budget.mem_of_mem_choose hother)
  exact ⟨outcome', (hlisted outcome').mp hmem, hof'⟩

theorem Precede.sorted {taken : List HardwareEventExcerpt} {listed : UartTxOutcome → Prop}
    (h : Precede events taken listed) :
    Precede events (Newest.sorted HardwareEventExcerpt.eventIndex taken) listed := by
  intro outcome houtcome excerpt hevent hof hnot
  have hperm : (Newest.sorted HardwareEventExcerpt.eventIndex taken).Perm taken :=
    Newest.sorted_perm taken
  obtain ⟨hlength, hlisted⟩ := h outcome houtcome excerpt hevent hof (mt hperm.mem_iff.mpr hnot)
  exact ⟨hperm.length_eq.trans hlength, fun other hother => hlisted other (hperm.mem_iff.mp hother)⟩

theorem Lists.selectsEvents (h : Lists sessionId records events s) :
    SelectsEvents records events s.select.1 where
  real := by
    rw [h.select_eq]
    exact Newest.sorted_sublist (Budget.within_choose _).nodup
      (fun excerpt hmem => h.mem_offered (Budget.mem_of_mem_choose hmem)) h.excerpted.pairwise
  count := by
    rw [h.select_eq, Newest.length_sorted]
    exact (Budget.within_choose _).length
  failed := by
    obtain ⟨failures, initial, hfailures, hcritical, later, hlater⟩ := h.failed
    rw [h.select_eq, HardwareSelector.offered, ← hlater, List.append_assoc]
    exact (hcritical.precede h.excerpted hfailures).sorted
  unknown := by
    rw [h.select_eq]
    exact (h.critical.precede h.excerpted h.outcomes).sorted

theorem Lists.listsOutcomes (h : Lists sessionId records events s) :
    ListsOutcomes records s.select.2 := by
  have hperm : s.select.2.Perm s.outcomes := List.perm_insertionSort _ _
  have hsorted : s.select.2.Pairwise
      (UartTxOutcome.attemptEventIndex · ≤ UartTxOutcome.attemptEventIndex ·) :=
    Newest.pairwise_sorted s.outcomes
  have hdistinct := List.pairwise_map.mp
    ((hperm.map UartTxOutcome.attemptEventIndex).nodup_iff.mpr h.once)
  refine ⟨fun outcome => ?_, (hsorted.and hdistinct).imp fun h => lt_of_le_of_ne h.1 h.2⟩
  rw [hperm.mem_iff, h.outcomes]

end DebugEvidence
