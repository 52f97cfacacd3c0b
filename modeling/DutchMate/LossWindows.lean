/-
# Loss windows

The loss of a range of evidence is recomputed from the stored reports about the receive
buffer, in one window for each segment.  A report before the range moves the baseline of its
window, a report in the range is counted.  No part of a session lost more than the whole.
-/
import DutchMate.SessionStore
import Mathlib.Data.List.TakeWhile

/-! ## The loss of a range -/

/-- What a record says about the receive buffer. -/
inductive BufferReport where
  | overflow (droppedBytes : ℕ)
  | status (droppedBytesTotal overflowEvents : ℕ)

/-- The report of a record, with its segment. -/
def RecordBody.report? : RecordBody → Option (ℕ × BufferReport)
  | .bufferOverflow segmentId _ _ droppedBytes => some (segmentId, .overflow droppedBytes)
  | .bufferStatus segmentId _ _ _ _ droppedBytesTotal overflowEvents =>
    some (segmentId, .status droppedBytesTotal overflowEvents)
  | _ => none

/-- The counts of one segment.  The two totals of the baseline are set together. -/
structure V2IntegrityWindow where
  explicitDroppedBytes : ℕ := 0
  statusBaseline : Option (ℕ × ℕ) := none
  statusDroppedBytes : ℕ := 0
  reportedLoss : Bool := false

namespace V2IntegrityWindow

/-- A report before the range moves the baseline. -/
def advanceBaseline (window : V2IntegrityWindow) : BufferReport → V2IntegrityWindow
  | .status droppedBytesTotal overflowEvents =>
    { window with statusBaseline := some (droppedBytesTotal, overflowEvents) }
  | .overflow droppedBytes =>
    match window.statusBaseline with
    | none => window
    | some (baselineDropped, baselineOverflows) =>
      { window with
        statusBaseline := some (baselineDropped + droppedBytes, baselineOverflows + 1) }

/-- A report in the range is counted. -/
def count (window : V2IntegrityWindow) : BufferReport → V2IntegrityWindow
  | .overflow droppedBytes =>
    { window with
      explicitDroppedBytes := window.explicitDroppedBytes + droppedBytes
      reportedLoss := true }
  | .status droppedBytesTotal overflowEvents =>
    match window.statusBaseline with
    | none => { window with statusBaseline := some (droppedBytesTotal, overflowEvents) }
    | some (baselineDropped, baselineOverflows) =>
      let observedDropped := droppedBytesTotal - baselineDropped
      { window with
        statusDroppedBytes := max window.statusDroppedBytes observedDropped
        reportedLoss :=
          window.reportedLoss || 0 < observedDropped || baselineOverflows < overflowEvents }

theorem count_status_none {window : V2IntegrityWindow} (h : window.statusBaseline = none)
    (t o : ℕ) : window.count (.status t o) = { window with statusBaseline := some (t, o) } := by
  rw [count, h]

theorem count_status_some {window : V2IntegrityWindow} {b : ℕ × ℕ}
    (h : window.statusBaseline = some b) (t o : ℕ) :
    window.count (.status t o) =
      { window with
        statusDroppedBytes := max window.statusDroppedBytes (t - b.1)
        reportedLoss := window.reportedLoss || 0 < t - b.1 || b.2 < o } := by
  unfold count
  simp only [h]

/-- The lost bytes of a segment: the same loss may be reported both ways. -/
def lostBytes (window : V2IntegrityWindow) : ℕ :=
  max window.explicitDroppedBytes window.statusDroppedBytes

end V2IntegrityWindow

/-- A range of evidence of one session. -/
structure EvidenceRange where
  sessionId : SessionId
  startEvidenceSeq : ℕ
  endEvidenceSeqExclusive : ℕ

/-- A record before or in the range, entered into the window of its segment. -/
def enterRecord (start : ℕ) (windows : Dict ℕ V2IntegrityWindow) (record : EvidenceRecord) :
    Dict ℕ V2IntegrityWindow :=
  match record.body.report? with
  | none => windows
  | some (segmentId, report) =>
    let window := windows.getD segmentId {}
    windows.set segmentId
      (if record.evidenceSeq < start then window.advanceBaseline report else window.count report)

/-- The windows of a range; reading stops at its end. -/
def v2RangeWindows (range : EvidenceRange) :
    Dict ℕ V2IntegrityWindow → List EvidenceRecord → Dict ℕ V2IntegrityWindow
  | windows, [] => windows
  | windows, record :: records =>
    if range.endEvidenceSeqExclusive ≤ record.evidenceSeq then windows
    else v2RangeWindows range (enterRecord range.startEvidenceSeq windows record) records

/-- Whether loss was reported in a range, and how many bytes. -/
def v2RangeIntegrity (m : Metadata) (hardwareEvents : List EvidenceRecord)
    (range : EvidenceRange) : Option (Bool × ℕ) :=
  match m.profile.backendMode with
  | .basic => none
  | .enhanced =>
    let windows := v2RangeWindows range ∅ hardwareEvents
    some (windows.values.any V2IntegrityWindow.reportedLoss,
      (windows.values.map V2IntegrityWindow.lostBytes).sum)

/-! ## Windows of a session -/

abbrev IntegrityWindows := Dict ℕ V2IntegrityWindow

namespace IntegrityWindows

def lostBytes (windows : IntegrityWindows) : ℕ :=
  (windows.values.map V2IntegrityWindow.lostBytes).sum

def reportedLoss (windows : IntegrityWindows) : Bool :=
  windows.values.any V2IntegrityWindow.reportedLoss

end IntegrityWindows

/-- Every report counted. -/
def countedWindows (records : List EvidenceRecord) : IntegrityWindows :=
  records.foldl (enterRecord 0) ∅

theorem v2RangeWindows_eq_foldl (range : EvidenceRange) (windows : IntegrityWindows)
    (records : List EvidenceRecord) :
    v2RangeWindows range windows records =
      (records.takeWhile fun r => r.evidenceSeq < range.endEvidenceSeqExclusive).foldl
        (enterRecord range.startEvidenceSeq) windows := by
  induction records generalizing windows with
  | nil => rfl
  | cons record records ih =>
    rw [v2RangeWindows, List.takeWhile_cons]
    by_cases hend : range.endEvidenceSeqExclusive ≤ record.evidenceSeq
    · simp [hend, Nat.not_lt.mpr hend]
    · simp only [if_neg hend, decide_eq_true (Nat.lt_of_not_le hend), if_true, List.foldl_cons]
      exact ih _

theorem enterRecord_zero {windows : IntegrityWindows} {record : EvidenceRecord} {segmentId : ℕ}
    {report : BufferReport} (h : record.body.report? = some (segmentId, report)) :
    enterRecord 0 windows record =
      windows.set segmentId ((windows.getD segmentId {}).count report) := by
  simp [enterRecord, h]

theorem countedWindows_append (records rs : List EvidenceRecord) :
    countedWindows (records ++ rs) = rs.foldl (enterRecord 0) (countedWindows records) :=
  List.foldl_append

/-- Records that report nothing change no window. -/
theorem countedWindows_quiet {records rs : List EvidenceRecord}
    (h : ∀ r ∈ rs, r.body.report? = none) :
    countedWindows (records ++ rs) = countedWindows records := by
  rw [countedWindows_append]
  induction rs with
  | nil => rfl
  | cons r rs ih =>
    have hr : enterRecord 0 (countedWindows records) r = countedWindows records := by
      simp [enterRecord, h r List.mem_cons_self]
    rw [List.foldl_cons, hr]
    exact ih fun r hr => h r (List.mem_cons_of_mem _ hr)

theorem countedWindows_report {records : List EvidenceRecord} {record : EvidenceRecord}
    {segmentId : ℕ} {report : BufferReport}
    (h : record.body.report? = some (segmentId, report)) :
    countedWindows (records ++ [record]) = (countedWindows records).set segmentId
      (((countedWindows records).getD segmentId {}).count report) := by
  rw [countedWindows_append]
  exact enterRecord_zero h

/-! ## One report -/

namespace V2IntegrityWindow

/-- What every counted window satisfies. -/
structure WellCounted (window : V2IntegrityWindow) : Prop where
  lost : window.lostBytes ≠ 0 → window.reportedLoss = true
  unobserved : window.statusBaseline = none → window.statusDroppedBytes = 0

theorem wellCounted_empty : WellCounted {} := ⟨fun h => absurd rfl h, fun _ => rfl⟩

theorem WellCounted.count {window : V2IntegrityWindow} (h : window.WellCounted)
    (report : BufferReport) : (window.count report).WellCounted := by
  obtain ⟨hlost, hunobserved⟩ := h
  cases report with
  | overflow droppedBytes => exact ⟨fun _ => rfl, hunobserved⟩
  | status droppedBytesTotal overflowEvents =>
    cases hbaseline : window.statusBaseline with
    | none =>
      rw [count_status_none hbaseline]
      exact ⟨hlost, fun h => by cases h⟩
    | some baseline =>
      rw [count_status_some hbaseline]
      refine ⟨fun hne => ?_, fun h => ?_⟩
      · simp only [Bool.or_eq_true, decide_eq_true_eq]
        by_cases hobserved : 0 < droppedBytesTotal - baseline.1
        · exact .inl (.inr hobserved)
        · refine .inl (.inl (hlost fun hzero => hne ?_))
          simp only [V2IntegrityWindow.lostBytes] at hzero ⊢
          omega
      · cases hbaseline.symm.trans h

theorem explicit_count_status (window : V2IntegrityWindow) (t o : ℕ) :
    (window.count (.status t o)).explicitDroppedBytes = window.explicitDroppedBytes := by
  rw [V2IntegrityWindow.count]
  split <;> rfl

/-- Counting only adds. -/
structure Le (window window' : V2IntegrityWindow) : Prop where
  explicit : window.explicitDroppedBytes ≤ window'.explicitDroppedBytes
  status : window.statusDroppedBytes ≤ window'.statusDroppedBytes
  reported : window.reportedLoss = true → window'.reportedLoss = true

theorem Le.lostBytes {window window' : V2IntegrityWindow} (h : window.Le window') :
    window.lostBytes ≤ window'.lostBytes :=
  max_le_max h.explicit h.status

theorem le_count (window : V2IntegrityWindow) (report : BufferReport) :
    window.Le (window.count report) := by
  cases report with
  | overflow droppedBytes => exact ⟨Nat.le_add_right _ _, le_rfl, fun _ => rfl⟩
  | status droppedBytesTotal overflowEvents =>
    rw [V2IntegrityWindow.count]
    split
    · exact ⟨le_rfl, le_rfl, id⟩
    · exact ⟨le_rfl, le_max_left _ _, fun h => by simp [h]⟩

end V2IntegrityWindow

namespace IntegrityWindows

variable {windows : IntegrityWindows} {segmentId : ℕ} {window : V2IntegrityWindow}

/-- The window of a segment is exchanged for one that counts more. -/
theorem lostBytes_set (windows : IntegrityWindows) (segmentId : ℕ)
    (window : V2IntegrityWindow) : lostBytes (windows.set segmentId window)
      + (windows.getD segmentId {}).lostBytes = lostBytes windows + window.lostBytes :=
  windows.sum_values_set V2IntegrityWindow.lostBytes segmentId window (w := {}) rfl

theorem reportedLoss_set (h : (windows.getD segmentId {}).Le window) :
    reportedLoss (windows.set segmentId window) = (reportedLoss windows || window.reportedLoss) :=
  windows.any_values_set V2IntegrityWindow.reportedLoss segmentId window h.reported

/-- A window that reports loss is one of the windows. -/
theorem reported_of_getD (h : (windows.getD segmentId {}).reportedLoss = true) :
    reportedLoss windows = true := by
  rw [Dict.getD] at h
  cases hget : windows.get? segmentId with
  | none =>
    rw [hget] at h
    cases h
  | some window =>
    rw [hget] at h
    exact List.any_eq_true.mpr ⟨window, List.mem_map_of_mem (f := Prod.snd)
      ((windows.get?_eq_some_iff segmentId window).mp hget), h⟩

/-- Every window is well counted. -/
def WellCounted (windows : IntegrityWindows) : Prop :=
  ∀ window ∈ windows.values, window.WellCounted

theorem WellCounted.getD (h : WellCounted windows) (segmentId : ℕ) :
    (windows.getD segmentId {}).WellCounted := by
  rw [Dict.getD]
  cases hget : windows.get? segmentId with
  | none => exact V2IntegrityWindow.wellCounted_empty
  | some window =>
    exact h window (List.mem_map_of_mem (f := Prod.snd)
      ((windows.get?_eq_some_iff segmentId window).mp hget))

/-- Lost bytes were reported. -/
theorem WellCounted.reported (h : WellCounted windows) (hne : lostBytes windows ≠ 0) :
    reportedLoss windows = true := by
  by_contra hnot
  refine hne (List.sum_eq_zero ?_)
  intro n hn
  obtain ⟨window, hwindow, rfl⟩ := List.mem_map.mp hn
  by_contra hlost
  exact hnot (List.any_eq_true.mpr ⟨window, hwindow, (h window hwindow).lost hlost⟩)

theorem WellCounted.enter (h : WellCounted windows) (record : EvidenceRecord) :
    WellCounted (enterRecord 0 windows record) := by
  cases hreport : record.body.report? with
  | none => simpa [enterRecord, hreport] using h
  | some entry =>
    rw [enterRecord_zero hreport]
    intro window hwindow
    rcases Dict.mem_values_set hwindow with rfl | hold
    · exact (h.getD entry.1).count entry.2
    · exact h window hold

end IntegrityWindows

theorem wellCounted_countedWindows (records : List EvidenceRecord) :
    IntegrityWindows.WellCounted (countedWindows records) := by
  refine List.foldlRecOn records (enterRecord 0) ?_ fun windows h record _ => h.enter record
  intro window hwindow
  cases hwindow

/-! ## Parts of a session -/

namespace V2IntegrityWindow

/-- A window of a range, beside the window that counts everything. -/
structure Below (window whole : V2IntegrityWindow) : Prop extends Le window whole where
  baseline : ∀ b, whole.statusBaseline = some b → ∃ b', window.statusBaseline = some b' ∧
    b.1 ≤ b'.1 ∧ b.2 ≤ b'.2
  unset : whole.statusBaseline = none → window.statusBaseline = none

theorem below_empty : Below {} {} := by
  refine ⟨⟨le_rfl, le_rfl, id⟩, fun b hb => ?_, fun _ => rfl⟩
  cases hb

variable {window whole : V2IntegrityWindow}

/-- A baseline that moves stays above the one that counts everything. -/
theorem Below.advanceBaseline (h : window.Below whole) {report : BufferReport}
    (hrises : ∀ t o, report = .status t o → ∀ b, whole.statusBaseline = some b →
      b.1 ≤ t ∧ b.2 ≤ o) : (window.advanceBaseline report).Below (whole.count report) := by
  obtain ⟨⟨hexplicit, hstatus, hreported⟩, hbaseline, hunset⟩ := h
  cases report with
  | overflow droppedBytes =>
    have hexplicit' := hexplicit.trans (Nat.le_add_right _ droppedBytes)
    cases hwhole : whole.statusBaseline with
    | none =>
      -- Without a baseline an overflow before the range is forgotten.
      rw [V2IntegrityWindow.advanceBaseline, hunset hwhole]
      refine ⟨⟨hexplicit', hstatus, fun _ => rfl⟩, fun b hb => ?_, fun _ => hunset hwhole⟩
      cases hwhole.symm.trans hb
    | some b =>
      obtain ⟨b', hb', hle⟩ := hbaseline b hwhole
      rw [V2IntegrityWindow.advanceBaseline, hb']
      refine ⟨⟨hexplicit', hstatus, fun _ => rfl⟩, fun c hc => ?_, fun hnone => ?_⟩
      · cases hwhole.symm.trans hc
        exact ⟨_, rfl, hle.1.trans (Nat.le_add_right _ _), hle.2.trans (Nat.le_add_right _ _)⟩
      · cases hwhole.symm.trans hnone
  | status droppedBytesTotal overflowEvents =>
    cases hwhole : whole.statusBaseline with
    | none =>
      rw [count_status_none hwhole]
      refine ⟨⟨hexplicit, hstatus, hreported⟩, fun b hb => ?_, fun hnone => by cases hnone⟩
      cases hb
      exact ⟨_, rfl, le_rfl, le_rfl⟩
    | some b =>
      rw [count_status_some hwhole]
      refine ⟨⟨hexplicit, hstatus.trans (le_max_left _ _), fun hloss => ?_⟩, fun c hc => ?_,
        fun hnone => ?_⟩
      · simp [hreported hloss]
      · cases hwhole.symm.trans hc
        exact ⟨_, rfl, hrises _ _ rfl _ hwhole⟩
      · cases hwhole.symm.trans hnone

/-- A report counted in both adds less over the higher baseline. -/
theorem Below.count (h : window.Below whole) (report : BufferReport) :
    (window.count report).Below (whole.count report) := by
  obtain ⟨⟨hexplicit, hstatus, hreported⟩, hbaseline, hunset⟩ := h
  cases report with
  | overflow droppedBytes =>
    exact ⟨⟨Nat.add_le_add_right hexplicit _, hstatus, fun _ => rfl⟩, hbaseline, hunset⟩
  | status droppedBytesTotal overflowEvents =>
    cases hwhole : whole.statusBaseline with
    | none =>
      rw [count_status_none hwhole, count_status_none (hunset hwhole)]
      refine ⟨⟨hexplicit, hstatus, hreported⟩, fun b hb => ?_, fun hnone => by cases hnone⟩
      cases hb
      exact ⟨_, rfl, le_rfl, le_rfl⟩
    | some b =>
      obtain ⟨b', hb', hle⟩ := hbaseline b hwhole
      rw [count_status_some hwhole, count_status_some hb']
      -- The baseline of the range is the later one, so it observes less.
      have hobserved : droppedBytesTotal - b'.1 ≤ droppedBytesTotal - b.1 :=
        Nat.sub_le_sub_left hle.1 _
      refine ⟨⟨hexplicit, max_le_max hstatus hobserved, fun hloss => ?_⟩, fun c hc => ?_,
        fun hnone => ?_⟩
      · simp only [Bool.or_eq_true, decide_eq_true_eq] at hloss ⊢
        rcases hloss with (hloss | hloss) | hloss
        · exact .inl (.inl (hreported hloss))
        · exact .inl (.inr (lt_of_lt_of_le hloss hobserved))
        · exact .inr (lt_of_le_of_lt hle.2 hloss)
      · cases hwhole.symm.trans hc
        exact ⟨_, hb', hle⟩
      · cases hwhole.symm.trans hnone

end V2IntegrityWindow

/-- Each status report of a segment is at least the first one. -/
def TotalsRise (records : List EvidenceRecord) : Prop :=
  ∀ before record after, records = before ++ record :: after →
    ∀ segmentId t o, record.body.report? = some (segmentId, .status t o) →
      ∀ b, ((countedWindows before).getD segmentId {}).statusBaseline = some b →
        b.1 ≤ t ∧ b.2 ≤ o

theorem totalsRise_nil : TotalsRise [] := by
  intro before record after h
  simp at h

theorem TotalsRise.of_append {records rs : List EvidenceRecord} (h : TotalsRise (records ++ rs)) :
    TotalsRise records := by
  rintro before record after rfl
  exact h before record (after ++ rs) (by simp)

theorem TotalsRise.concat {records : List EvidenceRecord} {record : EvidenceRecord}
    (h : TotalsRise records)
    (hrecord : ∀ segmentId t o, record.body.report? = some (segmentId, .status t o) →
      ∀ b, ((countedWindows records).getD segmentId {}).statusBaseline = some b →
        b.1 ≤ t ∧ b.2 ≤ o) : TotalsRise (records ++ [record]) := by
  intro before r after hsplit
  rcases List.eq_nil_or_concat after with rfl | ⟨after', last, rfl⟩
  · obtain ⟨rfl, hlast⟩ := List.append_inj' hsplit rfl
    cases hlast
    exact hrecord
  · have hsplit' : records ++ [record] = (before ++ r :: after') ++ [last] := by
      rw [hsplit]
      simp
    obtain ⟨rfl, _⟩ := List.append_inj' hsplit' rfl
    exact h before r after' rfl

namespace IntegrityWindows

/-- The windows of a range, segment by segment, beside those that count everything. -/
def Below (windows whole : IntegrityWindows) : Prop :=
  List.Forall₂ (fun x y => x.1 = y.1 ∧ x.2.Below y.2) windows.entries whole.entries

theorem Below.enter {windows whole : IntegrityWindows} (h : Below windows whole) (start : ℕ)
    {record : EvidenceRecord}
    (hrises : ∀ segmentId t o, record.body.report? = some (segmentId, .status t o) →
      ∀ b, (whole.getD segmentId {}).statusBaseline = some b → b.1 ≤ t ∧ b.2 ≤ o) :
    Below (enterRecord start windows record) (enterRecord 0 whole record) := by
  cases hreport : record.body.report? with
  | none => simpa [enterRecord, hreport] using h
  | some entry =>
    obtain ⟨segmentId, report⟩ := entry
    have hold := Dict.forall₂_getD h segmentId V2IntegrityWindow.below_empty
    rw [enterRecord_zero hreport]
    simp only [enterRecord, hreport]
    refine Dict.forall₂_set h segmentId ?_
    split
    · refine hold.advanceBaseline fun t o hstatus b hb => hrises segmentId t o ?_ b hb
      rw [hreport, hstatus]
    · exact hold.count report

/-- Less in every window is less in all of them. -/
theorem Below.le {windows whole : IntegrityWindows} (h : Below windows whole) :
    (reportedLoss windows = true → reportedLoss whole = true) ∧
      lostBytes windows ≤ lostBytes whole := by
  rw [Below] at h
  simp only [reportedLoss, lostBytes, Dict.values]
  generalize windows.entries = xs at h
  generalize whole.entries = ys at h
  induction h with
  | nil => exact ⟨id, le_rfl⟩
  | cons hxy _ ih =>
    obtain ⟨_, hle⟩ := hxy
    simp only [List.map_cons, List.any_cons, Bool.or_eq_true, List.sum_cons]
    exact ⟨Or.imp hle.reported ih.1, Nat.add_le_add hle.lostBytes ih.2⟩

/-- What is counted later adds to the loss. -/
theorem le_foldl (windows : IntegrityWindows) (records : List EvidenceRecord) :
    (reportedLoss windows = true → reportedLoss (records.foldl (enterRecord 0) windows) = true) ∧
      lostBytes windows ≤ lostBytes (records.foldl (enterRecord 0) windows) := by
  induction records generalizing windows with
  | nil => exact ⟨id, le_rfl⟩
  | cons record records ih =>
    obtain ⟨hloss, hlost⟩ := ih (enterRecord 0 windows record)
    rw [List.foldl_cons]
    cases hreport : record.body.report? with
    | none =>
      have hsame : enterRecord 0 windows record = windows := by simp [enterRecord, hreport]
      rw [hsame] at hloss hlost ⊢
      exact ⟨hloss, hlost⟩
    | some entry =>
      have hle := V2IntegrityWindow.le_count (windows.getD entry.1 {}) entry.2
      rw [enterRecord_zero hreport] at hloss hlost ⊢
      refine ⟨fun h => hloss ?_, le_trans ?_ hlost⟩
      · rw [reportedLoss_set hle, h]
        rfl
      · have hset := lostBytes_set windows entry.1 ((windows.getD entry.1 {}).count entry.2)
        have hlostLe := hle.lostBytes
        omega

end IntegrityWindows

/-- The windows of a prefix, whatever of it lies before the range. -/
theorem below_countedWindows (start : ℕ) {records : List EvidenceRecord}
    (hrises : TotalsRise records) :
    IntegrityWindows.Below (records.foldl (enterRecord start) ∅) (countedWindows records) := by
  induction records using List.reverseRecOn with
  | nil => exact .nil
  | append_singleton records record ih =>
    rw [List.foldl_append, countedWindows_append]
    exact (ih hrises.of_append).enter start fun segmentId t o hreport =>
      hrises records record [] rfl segmentId t o hreport

/-- No range lost more than the whole session. -/
theorem v2RangeWindows_le (range : EvidenceRange) {records : List EvidenceRecord}
    (hrises : TotalsRise records) :
    (IntegrityWindows.reportedLoss (v2RangeWindows range ∅ records) = true →
        IntegrityWindows.reportedLoss (countedWindows records) = true) ∧
      IntegrityWindows.lostBytes (v2RangeWindows range ∅ records) ≤
        IntegrityWindows.lostBytes (countedWindows records) := by
  obtain ⟨after, hafter⟩ := List.takeWhile_prefix
    (fun r : EvidenceRecord => decide (r.evidenceSeq < range.endEvidenceSeqExclusive)) (l := records)
  rw [v2RangeWindows_eq_foldl]
  -- What is stored behind the range can only add to the whole.
  generalize hbefore : records.takeWhile
    (fun r => decide (r.evidenceSeq < range.endEvidenceSeqExclusive)) = before at hafter
  subst hafter
  obtain ⟨hloss, hlost⟩ := (below_countedWindows range.startEvidenceSeq hrises.of_append).le
  obtain ⟨hloss', hlost'⟩ := IntegrityWindows.le_foldl (countedWindows before) after
  rw [← countedWindows_append] at hloss' hlost'
  exact ⟨fun h => hloss' (hloss h), hlost.trans hlost'⟩

/-- A range over all records counts every report. -/
theorem v2RangeWindows_whole {id : SessionId} {records : List EvidenceRecord} {next : ℕ}
    (h : ∀ r ∈ records, r.evidenceSeq < next) :
    v2RangeWindows ⟨id, 0, next⟩ ∅ records = countedWindows records := by
  rw [v2RangeWindows_eq_foldl, List.takeWhile_eq_self_iff.mpr]
  · rfl
  · intro r hr
    simpa using h r hr
