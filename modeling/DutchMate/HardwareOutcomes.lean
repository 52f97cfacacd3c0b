/-
# Attempts and their outcomes

The result of an attempt is the first one of its ID behind it.  The selector lists the failed
attempts and those without a result, and keeps their events apart.
-/
import DutchMate.HardwareExcerpts
import DutchMate.UartSelection

open PyJson

namespace DebugEvidence

/-! ## Attempts and their results -/

def IsAttempt (record : Payload) (attemptId : PyStr) : Prop :=
  getField record "type" = some (.str (py "uart_tx_attempt")) ∧
    getField record "attempt_id" = some (.str attemptId)

def IsResult (record : Payload) (attemptId : PyStr) : Prop :=
  getField record "type" = some (.str (py "uart_tx_result")) ∧
    getField record "attempt_id" = some (.str attemptId)

/-- The bytes that a result says were accepted, if it says so. -/
def Accepts (record : Payload) : Option ℕ → Prop
  | none => getField record "bytes_accepted" = none ∨ getField record "bytes_accepted" = some .null
  | some accepted => getField record "bytes_accepted" = some (.int accepted)

/-- An attempt of some bytes that has no result. -/
structure IsOpen (records : List Payload) (attemptId : PyStr) (index payloadBytes : ℕ) : Prop where
  attempt : ∃ record, records[index]? = some record ∧ IsAttempt record attemptId ∧
    getField record "payload_bytes" = some (.int payloadBytes)
  unanswered : ∀ later record, index < later → records[later]? = some record →
    ¬IsResult record attemptId

/-- An attempt whose result says that it failed, listed with what the two events record. -/
structure FailedAs (records : List Payload) (outcome : UartTxOutcome) (resultIndex : ℕ)
    (result : Payload) (error : PyStr) : Prop where
  status : outcome.status = .failed
  resultEventIndex : outcome.resultEventIndex = some resultIndex
  attempt : IsOpen (records.take resultIndex) outcome.attemptId outcome.attemptEventIndex
    outcome.payloadBytes
  event : records[resultIndex]? = some result
  answers : IsResult result outcome.attemptId
  failed : getField result "outcome" = some (.str (py "failed"))
  accepted : Accepts result outcome.bytesAccepted
  partialAcceptance : outcome.partialAcceptance
    = outcome.bytesAccepted.any (· < outcome.payloadBytes)
  recorded : getField result "error" = some (.str error)
  text : ∃ text, outcome.error = some text ∧
    limitedString error = .ok (text, outcome.errorTruncated)

def IsFailed (records : List Payload) (outcome : UartTxOutcome) : Prop :=
  ∃ resultIndex result error, FailedAs records outcome resultIndex result error

/-- An attempt without a result, listed with what its event records. -/
structure IsUnknown (records : List Payload) (outcome : UartTxOutcome) : Prop where
  status : outcome.status = .unknown
  attempt : IsOpen records outcome.attemptId outcome.attemptEventIndex outcome.payloadBytes
  resultEventIndex : outcome.resultEventIndex = none
  bytesAccepted : outcome.bytesAccepted = none
  partialAcceptance : outcome.partialAcceptance = false
  error : outcome.error = none
  errorTruncated : outcome.errorTruncated = false

variable {sessionId : PyStr} {records : List Payload} {record : Payload} {attemptId : PyStr}
  {index payloadBytes : ℕ}

theorem IsAttempt.not_isResult {other : PyStr} (h : IsAttempt record attemptId) :
    ¬IsResult record other := by
  rintro ⟨htype, -⟩
  have hsame := PyJson.str.inj (Option.some.inj (h.1.symm.trans htype))
  exact absurd hsame (by decide)

theorem IsOpen.lt (h : IsOpen records attemptId index payloadBytes) : index < records.length := by
  obtain ⟨record, hrecord, -⟩ := h.attempt
  exact (List.getElem?_eq_some_iff.mp hrecord).1

theorem isOpen_concat :
    IsOpen (records ++ [record]) attemptId index payloadBytes
      ↔ IsOpen records attemptId index payloadBytes ∧ ¬IsResult record attemptId ∨
        index = records.length ∧ IsAttempt record attemptId ∧
          getField record "payload_bytes" = some (.int payloadBytes) := by
  constructor
  · intro h
    rcases lt_or_eq_of_le (Nat.lt_succ_iff.mp (by simpa using h.lt)) with hlt | rfl
    · refine .inl ⟨⟨?_, fun later other hlater hother => ?_⟩, ?_⟩
      · obtain ⟨attempt, hattempt, hrest⟩ := h.attempt
        rw [List.getElem?_append_left hlt] at hattempt
        exact ⟨attempt, hattempt, hrest⟩
      · refine h.unanswered later other hlater ?_
        rwa [List.getElem?_append_left (List.getElem?_eq_some_iff.mp hother).1]
      · exact h.unanswered records.length record hlt List.getElem?_concat_length
    · obtain ⟨attempt, hattempt, hrest⟩ := h.attempt
      rw [List.getElem?_concat_length] at hattempt
      exact .inr ⟨rfl, Option.some.inj hattempt ▸ hrest⟩
  · rintro (⟨h, hresult⟩ | ⟨rfl, hattempt⟩)
    · refine ⟨?_, fun later other hlater hother => ?_⟩
      · obtain ⟨attempt, hattempt, hrest⟩ := h.attempt
        exact ⟨attempt, by rwa [List.getElem?_append_left h.lt], hrest⟩
      · rw [List.getElem?_append] at hother
        split at hother
        · exact h.unanswered later other hlater hother
        · rw [List.getElem?_singleton] at hother
          split at hother
          · exact Option.some.inj hother ▸ hresult
          · cases hother
    · refine ⟨⟨record, List.getElem?_concat_length, hattempt⟩, fun later other hlater hother => ?_⟩
      have hend := (List.getElem?_eq_some_iff.mp hother).1
      rw [List.length_append, List.length_singleton] at hend
      omega

/-- One more record adds the outcome of an attempt that it answers. -/
theorem isFailed_concat {outcome : UartTxOutcome} :
    IsFailed (records ++ [record]) outcome
      ↔ IsFailed records outcome ∨
        ∃ error, FailedAs (records ++ [record]) outcome records.length record error := by
  constructor
  · rintro ⟨resultIndex, result, error, h⟩
    have hlt := (List.getElem?_eq_some_iff.mp h.event).1
    rw [List.length_append, List.length_singleton, Nat.lt_succ_iff] at hlt
    rcases hlt.lt_or_eq with hlt | rfl
    · refine .inl ⟨resultIndex, result, error, { h with attempt := ?_, event := ?_ }⟩
      · have hattempt := h.attempt
        rwa [List.take_append_of_le_length hlt.le] at hattempt
      · rw [← h.event, List.getElem?_append_left hlt]
    · have hresult := h.event
      rw [List.getElem?_concat_length] at hresult
      exact .inr ⟨error, Option.some.inj hresult ▸ h⟩
  · rintro (⟨resultIndex, result, error, h⟩ | ⟨error, h⟩)
    · have hlt := (List.getElem?_eq_some_iff.mp h.event).1
      refine ⟨resultIndex, result, error, { h with attempt := ?_, event := ?_ }⟩
      · rw [List.take_append_of_le_length hlt.le]
        exact h.attempt
      · rw [← h.event, List.getElem?_append_left hlt]
    · exact ⟨_, record, error, h⟩

/-! ## One record -/

theorem integer_eq_ok {value : Option PyJson} {name : String} {n : ℕ}
    (h : integer value name = .ok n) : value = some (.int n) := by
  unfold integer at h
  split at h
  · next hvalue =>
    rw [← Except.ok.inj h]
    rfl
  · cases h

theorem requiredString_eq_ok {field : String} {value : PyStr}
    (h : requiredString record field = .ok value) : getField record field = some (.str value) := by
  unfold requiredString at h
  split at h
  · next hfield =>
    rw [← Except.ok.inj h]
    exact hfield
  · cases h

theorem acceptedBytes_eq_ok {accepted : Option ℕ}
    (h : acceptedBytes record payloadBytes = .ok accepted) : Accepts record accepted := by
  unfold acceptedBytes at h
  split at h
  · next hfield =>
    rw [← Except.ok.inj h]
    exact .inl hfield
  · next hfield =>
    rw [← Except.ok.inj h]
    exact .inr hfield
  · obtain ⟨n, hn, h⟩ := Throwing.except_bind_eq_ok.mp h
    split at h
    · cases h
    · rw [← Except.ok.inj h]
      exact integer_eq_ok hn

theorem resultFailed_eq_ok {failed : Bool} (h : resultFailed record = .ok failed) :
    getField record "outcome" = some (.str (if failed then py "failed" else py "success")) := by
  unfold resultFailed at h
  split at h
  · cases h
  · cases h
  · next outcome houtcome =>
    split at h
    · next hsuccess =>
      rw [← Except.ok.inj h, houtcome, hsuccess]
      rfl
    · split at h
      · next hfailed =>
        rw [← Except.ok.inj h, houtcome, hfailed]
        rfl
      · cases h
  · cases h

theorem hardwareExcerpt_eq_ok {excerpt : HardwareEventExcerpt}
    (h : hardwareExcerpt sessionId index record = .ok excerpt) :
    excerpt.eventIndex = index ∧ getField record "type" = some (.str excerpt.type) := by
  unfold hardwareExcerpt at h
  split at h
  · next type htype =>
    obtain ⟨projected, -, h⟩ := Throwing.except_bind_eq_ok.mp h
    rw [← Except.ok.inj h]
    exact ⟨rfl, htype⟩
  · cases h

/-- What one turn of the loop does. -/
inductive Turn (sessionId : PyStr) (index : ℕ) (record : Payload) (s : HardwareSelector)
    (pending : PendingAttempts) (excerpt : HardwareEventExcerpt) :
    HardwareSelector → PendingAttempts → Prop where
  | attempt {attemptId : PyStr} {payloadBytes : ℕ} (hattempt : IsAttempt record attemptId)
      (hnew : pending.get? attemptId = none)
      (hbytes : getField record "payload_bytes" = some (.int payloadBytes)) :
      Turn sessionId index record s pending excerpt (s.see excerpt)
        (pending.set attemptId (excerpt, payloadBytes))
  | succeeded {attemptId : PyStr} {attempt : HardwareEventExcerpt × ℕ}
      (hresult : IsResult record attemptId) (hpending : pending.get? attemptId = some attempt)
      (houtcome : getField record "outcome" = some (.str (py "success"))) :
      Turn sessionId index record s pending excerpt
        { s.see excerpt with successfulCount := s.successfulCount + 1 } (pending.erase attemptId)
  | failed {attemptId : PyStr} {attempt : HardwareEventExcerpt} {payloadBytes : ℕ}
      {accepted : Option ℕ} {error : PyStr} {text : PyStr × Bool}
      (hresult : IsResult record attemptId)
      (hpending : pending.get? attemptId = some (attempt, payloadBytes))
      (houtcome : getField record "outcome" = some (.str (py "failed")))
      (haccepted : Accepts record accepted)
      (herror : getField record "error" = some (.str error))
      (htext : limitedString error = .ok text) :
      Turn sessionId index record s pending excerpt
        (({ s.see excerpt with
            outcomes := s.outcomes ++ [failedOutcome attemptId attempt payloadBytes
              excerpt.eventIndex accepted text] } : HardwareSelector).addCritical
          [excerpt, attempt]) (pending.erase attemptId)
  | other (hattempt : ∀ attemptId, ¬IsAttempt record attemptId)
      (hresult : ∀ attemptId, ¬IsResult record attemptId) :
      Turn sessionId index record s pending excerpt (s.see excerpt) pending

theorem turn_of_readResult {s s' : HardwareSelector} {pending pending' : PendingAttempts}
    {excerpt : HardwareEventExcerpt}
    (htype : getField record "type" = some (.str (py "uart_tx_result")))
    (h : readResult record excerpt (s.see excerpt) pending = .ok (s', pending')) :
    Turn sessionId index record s pending excerpt s' pending' := by
  obtain ⟨attemptId, hid, h⟩ := Throwing.except_bind_eq_ok.mp h
  have hresult : IsResult record attemptId := ⟨htype, requiredString_eq_ok hid⟩
  split at h
  · cases h
  next attempt payloadBytes hpending =>
  obtain ⟨failed, hfailed, h⟩ := Throwing.except_bind_eq_ok.mp h
  obtain ⟨accepted, haccepted, h⟩ := Throwing.except_bind_eq_ok.mp h
  have houtcome := resultFailed_eq_ok hfailed
  split at h
  · next hyes =>
    rw [if_pos hyes] at houtcome
    split at h
    · next c cs herror =>
      obtain ⟨text, htext, h⟩ := Throwing.except_bind_eq_ok.mp h
      obtain ⟨rfl, rfl⟩ := Prod.mk.inj (Except.ok.inj h)
      exact .failed hresult hpending houtcome (acceptedBytes_eq_ok haccepted) herror htext
    · cases h
  · next hno =>
    rw [if_neg hno] at houtcome
    split at h
    · cases h
    · obtain ⟨rfl, rfl⟩ := Prod.mk.inj (Except.ok.inj h)
      exact .succeeded hresult hpending houtcome

theorem readHardwareRecord_turn {s s' : HardwareSelector} {pending pending' : PendingAttempts}
    (h : readHardwareRecord sessionId index record (s, pending) = .ok (s', pending')) :
    ∃ excerpt, hardwareExcerpt sessionId index record = .ok excerpt ∧
      Turn sessionId index record s pending excerpt s' pending' := by
  obtain ⟨excerpt, hexcerpt, h⟩ := Throwing.except_bind_eq_ok.mp h
  obtain ⟨-, htype⟩ := hardwareExcerpt_eq_ok hexcerpt
  refine ⟨excerpt, hexcerpt, ?_⟩
  dsimp only at h
  split at h
  · next hattempt =>
    obtain ⟨next, hnext, h⟩ := Throwing.except_bind_eq_ok.mp h
    obtain ⟨rfl, rfl⟩ := Prod.mk.inj (Except.ok.inj h)
    obtain ⟨attemptId, hid, hnext⟩ := Throwing.except_bind_eq_ok.mp hnext
    split at hnext
    · cases hnext
    next hnew =>
    obtain ⟨payloadBytes, hbytes, hnext⟩ := Throwing.except_bind_eq_ok.mp hnext
    rw [← Except.ok.inj hnext]
    refine .attempt ⟨hattempt ▸ htype, requiredString_eq_ok hid⟩ ?_ (integer_eq_ok hbytes)
    exact Option.isNone_iff_eq_none.mp (by simpa [Dict.contains] using hnew)
  · next hattempt =>
    split at h
    · next hresult => exact turn_of_readResult (hresult ▸ htype) h
    · next hresult =>
      obtain ⟨rfl, rfl⟩ := Prod.mk.inj (Except.ok.inj h)
      refine .other (fun attemptId hother => hattempt ?_) fun attemptId hother => hresult ?_
      · exact PyJson.str.inj (Option.some.inj (htype.symm.trans hother.1))
      · exact PyJson.str.inj (Option.some.inj (htype.symm.trans hother.1))

/-! ## The excerpts -/

/-- The excerpts of some records. -/
inductive Excerpted (sessionId : PyStr) : List Payload → List HardwareEventExcerpt → Prop where
  | nil : Excerpted sessionId [] []
  | concat {records : List Payload} {events : List HardwareEventExcerpt} {record : Payload}
      {excerpt : HardwareEventExcerpt} (h : Excerpted sessionId records events)
      (hexcerpt : hardwareExcerpt sessionId records.length record = .ok excerpt) :
      Excerpted sessionId (records ++ [record]) (events ++ [excerpt])

variable {events : List HardwareEventExcerpt}

theorem Excerpted.indices (h : Excerpted sessionId records events) :
    events.map HardwareEventExcerpt.eventIndex = List.range records.length := by
  induction h with
  | nil => rfl
  | concat _ hexcerpt ih =>
    rw [List.map_append, ih, List.length_append, List.length_singleton, List.range_succ,
      List.map_singleton, (hardwareExcerpt_eq_ok hexcerpt).1]

theorem Excerpted.length (h : Excerpted sessionId records events) :
    events.length = records.length := by
  have hlength := congrArg List.length h.indices
  rwa [List.length_map, List.length_range] at hlength

theorem Excerpted.lt (h : Excerpted sessionId records events) {excerpt : HardwareEventExcerpt}
    (hmem : excerpt ∈ events) : excerpt.eventIndex < records.length := by
  have hindex := List.mem_map_of_mem (f := HardwareEventExcerpt.eventIndex) hmem
  rw [h.indices] at hindex
  exact List.mem_range.mp hindex

theorem Excerpted.exists_of_lt (h : Excerpted sessionId records events)
    (hindex : index < records.length) : ∃ excerpt ∈ events, excerpt.eventIndex = index := by
  rw [← List.mem_range, ← h.indices] at hindex
  exact List.mem_map.mp hindex

theorem Excerpted.nodup (h : Excerpted sessionId records events) :
    (events.map HardwareEventExcerpt.eventIndex).Nodup := by
  rw [h.indices]
  exact List.nodup_range

theorem Excerpted.pairwise (h : Excerpted sessionId records events) :
    events.Pairwise fun excerpt other => excerpt.eventIndex < other.eventIndex := by
  refine List.pairwise_map.mp ?_
  rw [h.indices]
  exact List.pairwise_lt_range

theorem Excerpted.eq_of_index (h : Excerpted sessionId records events)
    {excerpt other : HardwareEventExcerpt} (hexcerpt : excerpt ∈ events) (hother : other ∈ events)
    (hindex : excerpt.eventIndex = other.eventIndex) : excerpt = other :=
  List.inj_on_of_nodup_map h.nodup hexcerpt hother hindex

theorem Excerpted.unique {others : List HardwareEventExcerpt}
    (h : Excerpted sessionId records events) (hother : Excerpted sessionId records others) :
    events = others := by
  induction h generalizing others with
  | nil =>
    generalize hrecords : ([] : List Payload) = records at hother
    cases hother with
    | nil => rfl
    | concat => simp at hrecords
  | @concat records events record excerpt h hexcerpt ih =>
    generalize hrecords : records ++ [record] = all at hother
    cases hother with
    | nil => simp at hrecords
    | concat hother hexcerpt' =>
      obtain ⟨rfl, hrecord⟩ := List.append_inj' hrecords rfl
      obtain rfl := List.singleton_inj.mp hrecord
      rw [ih hother, Except.ok.inj (hexcerpt.symm.trans hexcerpt')]

/-! ## The events listed first -/

def EventOf (outcome : UartTxOutcome) (excerpt : HardwareEventExcerpt) : Prop :=
  excerpt.eventIndex = outcome.attemptEventIndex ∨
    outcome.resultEventIndex = some excerpt.eventIndex

/-- The events of some outcomes, all of them or as many as are ever selected. -/
structure Critical (events : List HardwareEventExcerpt) (outcomes : List UartTxOutcome)
    (critical : List HardwareEventExcerpt) : Prop where
  real : ∀ excerpt ∈ critical, excerpt ∈ events ∧ ∃ outcome ∈ outcomes, EventOf outcome excerpt
  nodup : (critical.map HardwareEventExcerpt.eventIndex).Nodup
  all : critical.length < hardwareEventLimit → ∀ outcome ∈ outcomes, ∀ excerpt ∈ events,
    EventOf outcome excerpt → excerpt ∈ critical

theorem addCritical_critical (s : HardwareSelector) (excerpts : List HardwareEventExcerpt) :
    (s.addCritical excerpts).critical
      = if s.critical.length < hardwareEventLimit then s.critical ++ excerpts else s.critical := by
  unfold HardwareSelector.addCritical
  split
  · rfl
  · rfl

theorem addCritical_rest (s : HardwareSelector) (excerpts : List HardwareEventExcerpt) :
    s.addCritical excerpts
      = { s with critical := (s.addCritical excerpts).critical } := by
  unfold HardwareSelector.addCritical
  split
  · rfl
  · rfl

variable {outcomes : List UartTxOutcome} {critical : List HardwareEventExcerpt}

/-- The events of one more outcome. -/
theorem Critical.add (h : Critical events outcomes critical) {outcome : UartTxOutcome}
    {excerpts : List HardwareEventExcerpt}
    (hmem : ∀ excerpt, excerpt ∈ excerpts ↔ excerpt ∈ events ∧ EventOf outcome excerpt)
    (hnodup : (excerpts.map HardwareEventExcerpt.eventIndex).Nodup)
    (hnew : ∀ excerpt ∈ excerpts, ∀ other ∈ outcomes, ¬EventOf other excerpt) :
    Critical events (outcomes ++ [outcome])
      (if critical.length < hardwareEventLimit then critical ++ excerpts else critical) := by
  split
  · next hroom =>
    refine ⟨fun excerpt hexcerpt => ?_, ?_, fun _ other hother excerpt hevent hof => ?_⟩
    · rcases List.mem_append.mp hexcerpt with hexcerpt | hexcerpt
      · obtain ⟨hevent, other, hother, hof⟩ := h.real excerpt hexcerpt
        exact ⟨hevent, other, List.mem_append_left _ hother, hof⟩
      · obtain ⟨hevent, hof⟩ := (hmem excerpt).mp hexcerpt
        exact ⟨hevent, outcome, by simp, hof⟩
    · rw [List.map_append]
      refine h.nodup.append hnodup fun index hindex hindex' => ?_
      obtain ⟨excerpt, hexcerpt, rfl⟩ := List.mem_map.mp hindex
      obtain ⟨excerpt', hexcerpt', heq⟩ := List.mem_map.mp hindex'
      obtain ⟨-, other, hother, hof⟩ := h.real excerpt hexcerpt
      refine hnew excerpt' hexcerpt' other hother ?_
      rwa [EventOf, heq]
    · rcases List.mem_append.mp hother with hother | hother
      · exact List.mem_append_left _ (h.all hroom other hother excerpt hevent hof)
      · rw [List.mem_singleton] at hother
        exact List.mem_append_right _ ((hmem excerpt).mpr ⟨hevent, hother ▸ hof⟩)
  · next hfull =>
    refine ⟨fun excerpt hexcerpt => ?_, h.nodup, fun hroom => absurd hroom hfull⟩
    obtain ⟨hevent, other, hother, hof⟩ := h.real excerpt hexcerpt
    exact ⟨hevent, other, List.mem_append_left _ hother, hof⟩

/-- One more event, which is of none of the outcomes. -/
theorem Critical.concat (h : Critical events outcomes critical) {excerpt : HardwareEventExcerpt}
    (hnew : ∀ outcome ∈ outcomes, ¬EventOf outcome excerpt) :
    Critical (events ++ [excerpt]) outcomes critical where
  real other hother := by
    obtain ⟨hevent, hof⟩ := h.real other hother
    exact ⟨List.mem_append_left _ hevent, hof⟩
  nodup := h.nodup
  all hroom outcome houtcome other hother hof := by
    rcases List.mem_append.mp hother with hother | hother
    · exact h.all hroom outcome houtcome other hother hof
    · rw [List.mem_singleton] at hother
      exact absurd (hother ▸ hof) (hnew outcome houtcome)

/-! ## The loop -/

/-- What the loop has when it has read some records. -/
structure Pairs (sessionId : PyStr) (records : List Payload) (events : List HardwareEventExcerpt)
    (s : HardwareSelector) (pending : PendingAttempts) : Prop where
  excerpted : Excerpted sessionId records events
  count : s.count = records.length
  listed : ∀ excerpt ∈ s.important ++ (s.start ++ (s.ending ++ s.recent)), excerpt ∈ events
  opened : ∀ attemptId excerpt payloadBytes, pending.get? attemptId = some (excerpt, payloadBytes)
    ↔ excerpt ∈ events ∧ IsOpen records attemptId excerpt.eventIndex payloadBytes
  outcomes : ∀ outcome, outcome ∈ s.outcomes ↔ IsFailed records outcome
  once : (s.outcomes.map UartTxOutcome.attemptEventIndex).Nodup
  critical : Critical events s.outcomes s.critical

theorem pairs_nil (sessionId : PyStr) : Pairs sessionId [] [] {} ∅ where
  excerpted := .nil
  count := rfl
  listed := nofun
  opened _ _ _ := iff_of_false nofun fun h => nomatch h.1
  outcomes outcome := by
    refine iff_of_false nofun ?_
    rintro ⟨resultIndex, result, error, h⟩
    cases h.event
  once := .nil
  critical := ⟨nofun, .nil, fun _ => nofun⟩

theorem IsFailed.lt {outcome : UartTxOutcome} (h : IsFailed records outcome) :
    outcome.attemptEventIndex < records.length ∧
      ∃ resultIndex < records.length, outcome.resultEventIndex = some resultIndex := by
  obtain ⟨resultIndex, result, error, h⟩ := h
  have hresult := (List.getElem?_eq_some_iff.mp h.event).1
  have hattempt := h.attempt.lt
  rw [List.length_take_of_le hresult.le] at hattempt
  exact ⟨hattempt.trans hresult, resultIndex, hresult, h.resultEventIndex⟩

theorem IsFailed.not_eventOf {outcome : UartTxOutcome} (h : IsFailed records outcome)
    {excerpt : HardwareEventExcerpt} (hindex : excerpt.eventIndex = records.length) :
    ¬EventOf outcome excerpt := by
  obtain ⟨hattempt, resultIndex, hresult, heq⟩ := h.lt
  rintro (hof | hof)
  · exact absurd (hindex.symm.trans hof) hattempt.ne'
  · rw [heq, hindex] at hof
    exact absurd (Option.some.inj hof) hresult.ne

section

variable {s s' : HardwareSelector} {pending pending' : PendingAttempts}
  {excerpt : HardwareEventExcerpt}

/-- The attempts without a result when one more record has been read. -/
theorem Pairs.opened_concat (h : Pairs sessionId records events s pending)
    (hexcerpt : hardwareExcerpt sessionId records.length record = .ok excerpt)
    (other : HardwareEventExcerpt) :
    other ∈ events ++ [excerpt] ∧
        IsOpen (records ++ [record]) attemptId other.eventIndex payloadBytes
      ↔ pending.get? attemptId = some (other, payloadBytes) ∧ ¬IsResult record attemptId ∨
        other = excerpt ∧ IsAttempt record attemptId ∧
          getField record "payload_bytes" = some (.int payloadBytes) := by
  have hindex := (hardwareExcerpt_eq_ok hexcerpt).1
  rw [h.opened, isOpen_concat, List.mem_append, List.mem_singleton]
  constructor
  · rintro ⟨hmem, ⟨hopen, hresult⟩ | ⟨hnew, hattempt⟩⟩
    · refine .inl ⟨⟨hmem.resolve_right ?_, hopen⟩, hresult⟩
      rintro rfl
      exact absurd hopen.lt (hindex ▸ lt_irrefl _)
    · exact .inr ⟨hmem.resolve_left fun hold => absurd (h.excerpted.lt hold) hnew.not_lt, hattempt⟩
  · rintro (⟨⟨hmem, hopen⟩, hresult⟩ | ⟨rfl, hattempt⟩)
    · exact ⟨.inl hmem, .inl ⟨hopen, hresult⟩⟩
    · exact ⟨.inr rfl, .inr ⟨hindex, hattempt⟩⟩

/-- No outcome is added by a record that is no result of a failure. -/
theorem Pairs.outcomes_concat (h : Pairs sessionId records events s pending)
    (hfailed : ∀ attemptId, IsResult record attemptId →
      getField record "outcome" ≠ some (.str (py "failed"))) (outcome : UartTxOutcome) :
    outcome ∈ s.outcomes ↔ IsFailed (records ++ [record]) outcome := by
  rw [h.outcomes, isFailed_concat, or_iff_left]
  rintro ⟨error, hnew⟩
  exact hfailed _ hnew.answers hnew.failed

/-- A record that adds no outcome. -/
theorem Pairs.see (h : Pairs sessionId records events s pending)
    (hexcerpt : hardwareExcerpt sessionId records.length record = .ok excerpt)
    (hfailed : ∀ attemptId, IsResult record attemptId →
      getField record "outcome" ≠ some (.str (py "failed")))
    (hopened : ∀ attemptId other payloadBytes,
      pending'.get? attemptId = some (other, payloadBytes)
        ↔ pending.get? attemptId = some (other, payloadBytes) ∧ ¬IsResult record attemptId ∨
          other = excerpt ∧ IsAttempt record attemptId ∧
            getField record "payload_bytes" = some (.int payloadBytes)) :
    Pairs sessionId (records ++ [record]) (events ++ [excerpt]) (s.see excerpt) pending' where
  excerpted := h.excerpted.concat hexcerpt
  count := by
    rw [List.length_append, List.length_singleton, ← h.count]
    rfl
  listed other hother := by
    rw [List.mem_append, List.mem_singleton]
    exact (mem_listed hother).imp_left (h.listed other)
  opened attemptId other payloadBytes :=
    (hopened attemptId other payloadBytes).trans (h.opened_concat hexcerpt other).symm
  outcomes := h.outcomes_concat hfailed
  once := h.once
  critical := h.critical.concat fun outcome houtcome =>
    ((h.outcomes outcome).mp houtcome).not_eventOf (hardwareExcerpt_eq_ok hexcerpt).1

/-- A result closes the attempt of its ID. -/
theorem get?_erase_iff (hresult : IsResult record attemptId) (other : PyStr)
    (entry : HardwareEventExcerpt) (payloadBytes : ℕ) :
    (pending.erase attemptId).get? other = some (entry, payloadBytes)
      ↔ pending.get? other = some (entry, payloadBytes) ∧ ¬IsResult record other ∨
        entry = excerpt ∧ IsAttempt record other ∧
          getField record "payload_bytes" = some (.int payloadBytes) := by
  have hattempt : ¬IsAttempt record other := fun hother => hother.not_isResult hresult
  rw [Dict.get?_erase, or_iff_left fun hnew => hattempt hnew.2.1]
  by_cases hid : other = attemptId
  · rw [if_pos hid]
    exact iff_of_false nofun fun hold => hold.2 (hid ▸ hresult)
  · rw [if_neg hid]
    refine (and_iff_left fun hother => hid ?_).symm
    exact PyJson.str.inj (Option.some.inj (hother.2.symm.trans hresult.2))

theorem get?_set_iff (hattempt : IsAttempt record attemptId)
    (hnew : pending.get? attemptId = none)
    (hbytes : getField record "payload_bytes" = some (.int payloadBytes)) (other : PyStr)
    (entry : HardwareEventExcerpt) (bytes : ℕ) :
    (pending.set attemptId (excerpt, payloadBytes)).get? other = some (entry, bytes)
      ↔ pending.get? other = some (entry, bytes) ∧ ¬IsResult record other ∨
        entry = excerpt ∧ IsAttempt record other ∧
          getField record "payload_bytes" = some (.int bytes) := by
  rw [Dict.get?_set, and_iff_left hattempt.not_isResult]
  by_cases hid : other = attemptId
  · rw [if_pos hid, hid, hnew, hbytes]
    constructor
    · intro heq
      obtain ⟨rfl, rfl⟩ := Prod.mk.inj (Option.some.inj heq)
      exact .inr ⟨rfl, hattempt, rfl⟩
    · rintro (hold | ⟨rfl, -, heq⟩)
      · cases hold
      · rw [Int.ofNat.inj (PyJson.int.inj (Option.some.inj heq))]
  · rw [if_neg hid]
    refine (or_iff_left fun hattempt' => hid ?_).symm
    exact PyJson.str.inj (Option.some.inj (hattempt'.2.1.2.symm.trans hattempt.2))

/-- An attempt without a result has no part in a listed failure. -/
theorem IsOpen.not_eventOf (h : IsOpen records attemptId excerpt.eventIndex payloadBytes)
    {outcome : UartTxOutcome} (hfailed : IsFailed records outcome) : ¬EventOf outcome excerpt := by
  obtain ⟨attempt, hattempt, hisAttempt, -⟩ := h.attempt
  obtain ⟨resultIndex, result, error, hfailed⟩ := hfailed
  rintro (hof | hof)
  · obtain ⟨other, hother, hisOther, -⟩ := hfailed.attempt.attempt
    have hlt := hfailed.attempt.lt
    rw [List.length_take] at hlt
    have horder : outcome.attemptEventIndex < resultIndex := hlt.trans_le (min_le_left _ _)
    rw [List.getElem?_take_of_lt horder, ← hof, hattempt] at hother
    obtain rfl := Option.some.inj hother
    have hid : outcome.attemptId = attemptId :=
      PyJson.str.inj (Option.some.inj (hisOther.2.symm.trans hisAttempt.2))
    exact h.unanswered resultIndex result (hof ▸ horder) hfailed.event (hid ▸ hfailed.answers)
  · have hindex := Option.some.inj (hfailed.resultEventIndex.symm.trans hof)
    have hevent := hfailed.event
    rw [hindex, hattempt] at hevent
    exact hisAttempt.not_isResult (Option.some.inj hevent ▸ hfailed.answers)

theorem Accepts.unique {accepted accepted' : Option ℕ} (h : Accepts record accepted)
    (h' : Accepts record accepted') : accepted = accepted' := by
  cases accepted with
  | none =>
    cases accepted' with
    | none => rfl
    | some n' => rcases h with h | h <;> cases h.symm.trans h'
  | some n =>
    cases accepted' with
    | none => rcases h' with h' | h' <;> cases h'.symm.trans h
    | some n' => rw [Int.ofNat.inj (PyJson.int.inj (Option.some.inj (h.symm.trans h')))]

variable {attempt : HardwareEventExcerpt} {accepted : Option ℕ} {error : PyStr}
  {text : PyStr × Bool}

/-- The outcome that a result adds. -/
theorem Pairs.failedAs_iff (h : Pairs sessionId records events s pending)
    (hindex : index = records.length) (hresult : IsResult record attemptId)
    (hpending : pending.get? attemptId = some (attempt, payloadBytes))
    (houtcome : getField record "outcome" = some (.str (py "failed")))
    (haccepted : Accepts record accepted) (herror : getField record "error" = some (.str error))
    (htext : limitedString error = .ok text) (outcome : UartTxOutcome) :
    (∃ error, FailedAs (records ++ [record]) outcome records.length record error)
      ↔ outcome = failedOutcome attemptId attempt payloadBytes index accepted text := by
  constructor
  · rintro ⟨error', hfailed⟩
    have hid : outcome.attemptId = attemptId :=
      PyJson.str.inj (Option.some.inj (hfailed.answers.2.symm.trans hresult.2))
    have hopen := hfailed.attempt
    rw [List.take_left, hid] at hopen
    obtain ⟨other, hother, heq⟩ := h.excerpted.exists_of_lt hopen.lt
    have hsame := (h.opened attemptId other outcome.payloadBytes).mpr ⟨hother, heq.symm ▸ hopen⟩
    obtain ⟨rfl, hbytes⟩ := Prod.mk.inj (Option.some.inj (hpending.symm.trans hsame))
    have haccepts := hfailed.accepted.unique haccepted
    have hshort := hfailed.partialAcceptance
    have hrecorded := hfailed.recorded.symm.trans herror
    obtain rfl := PyJson.str.inj (Option.some.inj hrecorded)
    obtain ⟨text', htext', hlimited⟩ := hfailed.text
    obtain rfl := Except.ok.inj (hlimited.symm.trans htext)
    rw [haccepts, ← hbytes] at hshort
    obtain ⟨_, _, _, _, _, _, _, _, _⟩ := outcome
    simp only [failedOutcome, UartTxOutcome.mk.injEq]
    exact ⟨hid, hfailed.status, heq.symm, hindex ▸ hfailed.resultEventIndex, hbytes.symm, haccepts,
      hshort, htext', trivial⟩
  · rintro rfl
    refine ⟨error, rfl, congrArg some hindex, ?_, List.getElem?_concat_length, hresult, houtcome,
      haccepted, rfl, herror, text.1, rfl, htext⟩
    rw [List.take_left]
    exact ((h.opened attemptId attempt payloadBytes).mp hpending).2

/-- A result of a failure. -/
theorem Pairs.failed (h : Pairs sessionId records events s pending)
    (hexcerpt : hardwareExcerpt sessionId records.length record = .ok excerpt)
    (hresult : IsResult record attemptId)
    (hpending : pending.get? attemptId = some (attempt, payloadBytes))
    (houtcome : getField record "outcome" = some (.str (py "failed")))
    (haccepted : Accepts record accepted) (herror : getField record "error" = some (.str error))
    (htext : limitedString error = .ok text) :
    Pairs sessionId (records ++ [record]) (events ++ [excerpt])
      (({ s.see excerpt with
          outcomes := s.outcomes ++ [failedOutcome attemptId attempt payloadBytes
            excerpt.eventIndex accepted text] } : HardwareSelector).addCritical
        [excerpt, attempt]) (pending.erase attemptId) := by
  have hindex := (hardwareExcerpt_eq_ok hexcerpt).1
  obtain ⟨hattempt, hopen⟩ := (h.opened attemptId attempt payloadBytes).mp hpending
  have hexcerpted := h.excerpted.concat hexcerpt
  rw [addCritical_rest]
  refine ⟨hexcerpted, ?_, fun other hother => ?_, fun other entry bytes => ?_,
    fun outcome => ?_, ?_, ?_⟩
  · rw [List.length_append, List.length_singleton, ← h.count]
    rfl
  · rw [List.mem_append, List.mem_singleton]
    exact (mem_listed hother).imp_left (h.listed other)
  · rw [h.opened_concat hexcerpt]
    exact get?_erase_iff hresult other entry bytes
  · dsimp only
    rw [List.mem_append, List.mem_singleton, h.outcomes, isFailed_concat,
      h.failedAs_iff hindex hresult hpending houtcome haccepted herror htext]
  · dsimp only
    rw [List.map_append, List.map_singleton, ← List.concat_eq_append]
    refine h.once.concat fun hmem => ?_
    obtain ⟨outcome, hmem, heq⟩ := List.mem_map.mp hmem
    exact hopen.not_eventOf ((h.outcomes outcome).mp hmem) (.inl heq.symm)
  · dsimp only
    rw [addCritical_critical]
    refine (h.critical.concat fun outcome hmem =>
      ((h.outcomes outcome).mp hmem).not_eventOf hindex).add (fun other => ?_) ?_ ?_
    · constructor
      · intro hother
        rcases List.mem_pair.mp hother with rfl | rfl
        · exact ⟨by simp, .inr rfl⟩
        · exact ⟨List.mem_append_left _ hattempt, .inl rfl⟩
      · rintro ⟨hevent, hof | hof⟩
        · rw [hexcerpted.eq_of_index hevent (List.mem_append_left _ hattempt) hof]
          simp
        · rw [hexcerpted.eq_of_index hevent (by simp) (Option.some.inj hof).symm]
          simp
    · have hlt : attempt.eventIndex < excerpt.eventIndex := hindex ▸ h.excerpted.lt hattempt
      simpa using hlt.ne'
    · intro other hother outcome hmem
      have hfailed := (h.outcomes outcome).mp hmem
      rcases List.mem_pair.mp hother with rfl | rfl
      · exact hfailed.not_eventOf hindex
      · exact hopen.not_eventOf hfailed

theorem Pairs.turn (h : Pairs sessionId records events s pending)
    (hexcerpt : hardwareExcerpt sessionId records.length record = .ok excerpt)
    (hturn : Turn sessionId records.length record s pending excerpt s' pending') :
    Pairs sessionId (records ++ [record]) (events ++ [excerpt]) s' pending' := by
  cases hturn with
  | attempt hattempt hnew hbytes =>
    exact h.see hexcerpt (fun _ hresult => absurd hresult hattempt.not_isResult)
      (get?_set_iff hattempt hnew hbytes)
  | succeeded hresult hpending houtcome =>
    have hsee := h.see hexcerpt (fun _ _ hfailed => by
      have hsame := PyJson.str.inj (Option.some.inj (houtcome.symm.trans hfailed))
      exact absurd hsame (by decide)) (get?_erase_iff hresult)
    exact { hsee with }
  | failed hresult hpending houtcome haccepted herror htext =>
    exact h.failed hexcerpt hresult hpending houtcome haccepted herror htext
  | other hattempt hresult =>
    refine h.see hexcerpt (fun attemptId hother => absurd hother (hresult attemptId))
      fun attemptId other payloadBytes => ?_
    rw [or_iff_left fun hnew => hattempt attemptId hnew.2.1, and_iff_left (hresult attemptId)]

/-- The loop over the records of an artifact. -/
theorem Pairs.run {limits : JsonLimits} {lines : List (List UInt8)}
    (h : Pairs sessionId records events s pending)
    (hread : readHardwareRecords limits sessionId records.length lines (s, pending)
      = .ok (s', pending')) :
    ∃ more moreEvents, lines.mapM (jsonlObject limits) = .ok more ∧
      Pairs sessionId (records ++ more) (events ++ moreEvents) s' pending' := by
  induction lines generalizing records events s pending with
  | nil =>
    obtain ⟨rfl, rfl⟩ := Prod.mk.inj (Except.ok.inj hread)
    exact ⟨[], [], rfl, by rw [List.append_nil, List.append_nil]; exact h⟩
  | cons line lines ih =>
    rw [readHardwareRecords] at hread
    obtain ⟨record, hrecord, hread⟩ := Throwing.except_bind_eq_ok.mp hread
    obtain ⟨⟨next, nextPending⟩, hnext, hread⟩ := Throwing.except_bind_eq_ok.mp hread
    obtain ⟨excerpt, hexcerpt, hturn⟩ := readHardwareRecord_turn hnext
    have hlength : records.length + 1 = (records ++ [record]).length := by
      rw [List.length_append, List.length_singleton]
    rw [hlength] at hread
    obtain ⟨more, moreEvents, hmore, hpairs⟩ := ih (h.turn hexcerpt hturn) hread
    refine ⟨record :: more, excerpt :: moreEvents, ?_, ?_⟩
    · rw [List.mapM_cons, hrecord, hmore]
      rfl
    · rw [List.append_cons, List.append_cons events]
      exact hpairs

end

/-! ## The attempts left -/

theorem leaveUnknown_rest (s : HardwareSelector) (entry : PyStr × HardwareEventExcerpt × ℕ) :
    leaveUnknown s entry
      = { s with
          outcomes := s.outcomes ++ [unknownOutcome entry.1 entry.2.1 entry.2.2]
          critical :=
            if s.critical.length < hardwareEventLimit then s.critical ++ [entry.2.1]
            else s.critical } := by
  unfold leaveUnknown
  rw [addCritical_rest, addCritical_critical]

theorem foldl_leaveUnknown (entries : List (PyStr × HardwareEventExcerpt × ℕ))
    (s : HardwareSelector) :
    ∃ critical, s.critical <+: critical ∧ entries.foldl leaveUnknown s
      = { s with
          outcomes := s.outcomes
            ++ entries.map fun entry => unknownOutcome entry.1 entry.2.1 entry.2.2
          critical } := by
  induction entries generalizing s with
  | nil => exact ⟨s.critical, List.prefix_rfl, by rw [List.map_nil, List.append_nil]; rfl⟩
  | cons entry entries ih =>
    obtain ⟨critical, hinitial, hrest⟩ := ih (leaveUnknown s entry)
    refine ⟨critical, ?_, ?_⟩
    · refine List.IsPrefix.trans ?_ hinitial
      rw [leaveUnknown_rest]
      dsimp only
      split
      · exact List.prefix_append _ _
      · exact List.prefix_rfl
    · rw [List.foldl_cons, hrest, leaveUnknown_rest, List.map_cons]
      dsimp only
      rw [List.append_assoc]
      rfl

theorem Critical.leaveUnknown {entries : List (PyStr × HardwareEventExcerpt × ℕ)}
    {s : HardwareSelector} (h : Critical events s.outcomes s.critical)
    (hexcerpted : Excerpted sessionId records events)
    (hevents : ∀ entry ∈ entries, entry.2.1 ∈ events)
    (hnodup : (entries.map (·.2.1.eventIndex)).Nodup)
    (hnew : ∀ entry ∈ entries, ∀ outcome ∈ s.outcomes, ¬EventOf outcome entry.2.1) :
    Critical events (entries.foldl leaveUnknown s).outcomes
      (entries.foldl leaveUnknown s).critical := by
  induction entries generalizing s with
  | nil => exact h
  | cons entry entries ih =>
    rw [List.map_cons, List.nodup_cons] at hnodup
    rw [List.foldl_cons]
    refine ih ?_ (fun other hother => hevents other (List.mem_cons_of_mem _ hother)) hnodup.2 ?_
    · rw [leaveUnknown_rest]
      refine h.add (fun excerpt => ?_) (List.nodup_singleton _) fun excerpt hexcerpt => ?_
      · rw [List.mem_singleton]
        have hevent := hevents entry List.mem_cons_self
        constructor
        · rintro rfl
          exact ⟨hevent, .inl rfl⟩
        · rintro ⟨hmem, hof | hof⟩
          · exact hexcerpted.eq_of_index hmem hevent hof
          · cases hof
      · rw [List.mem_singleton.mp hexcerpt]
        exact hnew entry List.mem_cons_self
    · intro other hother outcome houtcome
      rw [leaveUnknown_rest, List.mem_append, List.mem_singleton] at houtcome
      rcases houtcome with houtcome | rfl
      · exact hnew other (List.mem_cons_of_mem _ hother) outcome houtcome
      · rintro (hof | hof)
        · exact hnodup.1 (List.mem_map.mpr ⟨other, hother, hof⟩)
        · cases hof

/-- What the selector lists when it has read some records. -/
structure Lists (sessionId : PyStr) (records : List Payload) (events : List HardwareEventExcerpt)
    (s : HardwareSelector) : Prop where
  excerpted : Excerpted sessionId records events
  count : s.count = records.length
  listed : ∀ excerpt ∈ s.important ++ (s.start ++ (s.ending ++ s.recent)), excerpt ∈ events
  outcomes : ∀ outcome, outcome ∈ s.outcomes ↔ IsFailed records outcome ∨ IsUnknown records outcome
  once : (s.outcomes.map UartTxOutcome.attemptEventIndex).Nodup
  critical : Critical events s.outcomes s.critical
  failed : ∃ failures initial, (∀ outcome, outcome ∈ failures ↔ IsFailed records outcome) ∧
    Critical events failures initial ∧ initial <+: s.critical

section

variable {s : HardwareSelector} {pending : PendingAttempts}

theorem Pairs.mem_entries (h : Pairs sessionId records events s pending)
    {entry : PyStr × HardwareEventExcerpt × ℕ} :
    entry ∈ pending.entries
      ↔ entry.2.1 ∈ events ∧ IsOpen records entry.1 entry.2.1.eventIndex entry.2.2 := by
  rw [← h.opened, Dict.get?_eq_some_iff]

theorem IsOpen.id_eq {other : PyStr} {bytes : ℕ} (h : IsOpen records attemptId index payloadBytes)
    (hother : IsOpen records other index bytes) : attemptId = other := by
  obtain ⟨attempt, hattempt, hisAttempt, -⟩ := h.attempt
  obtain ⟨attempt', hattempt', hisAttempt', -⟩ := hother.attempt
  obtain rfl := Option.some.inj (hattempt.symm.trans hattempt')
  exact PyJson.str.inj (Option.some.inj (hisAttempt.2.symm.trans hisAttempt'.2))

theorem Pairs.nodup_entries (h : Pairs sessionId records events s pending) :
    (pending.entries.map (·.2.1.eventIndex)).Nodup := by
  have hids := List.pairwise_map.mp pending.nodup
  refine List.pairwise_map.mpr (hids.imp_of_mem fun {entry other} hentry hother hne heq => ?_)
  have hopen := (h.mem_entries.mp hother).2
  rw [← heq] at hopen
  exact hne ((h.mem_entries.mp hentry).2.id_eq hopen)

/-- The attempts left are the unknown ones. -/
theorem Pairs.isUnknown_iff (h : Pairs sessionId records events s pending)
    (outcome : UartTxOutcome) :
    outcome ∈ pending.entries.map (fun entry => unknownOutcome entry.1 entry.2.1 entry.2.2)
      ↔ IsUnknown records outcome := by
  rw [List.mem_map]
  constructor
  · rintro ⟨entry, hentry, rfl⟩
    exact ⟨rfl, (h.mem_entries.mp hentry).2, rfl, rfl, rfl, rfl, rfl⟩
  · intro hunknown
    obtain ⟨excerpt, hexcerpt, hindex⟩ := h.excerpted.exists_of_lt hunknown.attempt.lt
    refine ⟨(outcome.attemptId, excerpt, outcome.payloadBytes), ?_, ?_⟩
    · exact h.mem_entries.mpr ⟨hexcerpt, hindex.symm ▸ hunknown.attempt⟩
    · obtain ⟨_, _, _, _, _, _, _, _, _⟩ := outcome
      simp only [unknownOutcome, UartTxOutcome.mk.injEq]
      exact ⟨trivial, hunknown.status.symm, hindex, hunknown.resultEventIndex.symm, trivial,
        hunknown.bytesAccepted.symm, hunknown.partialAcceptance.symm, hunknown.error.symm,
        hunknown.errorTruncated.symm⟩

theorem Pairs.lists (h : Pairs sessionId records events s pending) (unmatchedCount : ℕ) :
    Lists sessionId records events
      { pending.entries.foldl leaveUnknown s with unmatchedCount } := by
  obtain ⟨critical, hinitial, hfold⟩ := foldl_leaveUnknown pending.entries s
  have hnew : ∀ entry ∈ pending.entries, ∀ outcome ∈ s.outcomes, ¬EventOf outcome entry.2.1 :=
    fun entry hentry outcome houtcome =>
      (h.mem_entries.mp hentry).2.not_eventOf ((h.outcomes outcome).mp houtcome)
  have hcritical := h.critical.leaveUnknown h.excerpted
    (fun entry hentry => (h.mem_entries.mp hentry).1) h.nodup_entries hnew
  rw [hfold] at hcritical ⊢
  refine ⟨h.excerpted, h.count, h.listed, fun outcome => ?_, ?_, hcritical,
    ⟨s.outcomes, s.critical, h.outcomes, h.critical, hinitial⟩⟩
  · rw [List.mem_append, h.outcomes, h.isUnknown_iff]
  · dsimp only
    rw [List.map_append, List.map_map]
    refine h.once.append h.nodup_entries fun index hindex hindex' => ?_
    obtain ⟨outcome, houtcome, rfl⟩ := List.mem_map.mp hindex
    obtain ⟨entry, hentry, heq⟩ := List.mem_map.mp hindex'
    exact hnew entry hentry outcome houtcome (.inl heq)

end

theorem readHardware_lists {limits : JsonLimits} {data : List UInt8} {s : HardwareSelector}
    (h : readHardware limits sessionId data = .ok s) :
    ∃ records events, (jsonlLines data).mapM (jsonlObject limits) = .ok records ∧
      Lists sessionId records events s := by
  obtain ⟨⟨s', pending⟩, hread, h⟩ := Throwing.except_bind_eq_ok.mp h
  obtain ⟨records, events, hrecords, hpairs⟩ := (pairs_nil sessionId).run hread
  refine ⟨records, events, hrecords, ?_⟩
  rw [← Except.ok.inj h]
  exact hpairs.lists _

end DebugEvidence
