/-
# The history of the sessions

Over a run the evidence of a session is only appended to, a session that ended stays as it
ended, and the links rollovers leave form chains: a session and its successor name each
other, and no chain comes back to where it was.  Identifiers that were drawn twice could
make a deleted session return, so the results are about runs that draw distinct ones.
-/
import DutchMate.JournalRun
import Mathlib.Logic.Relation

/-! ## Identifiers -/

theorem Timestamp.length_idChars (t : Timestamp) : t.idChars.length = 16 := by
  simp [Timestamp.idChars]

/-- The moment before the suffix has a fixed width. -/
theorem suffix_of_newSessionId {s t : Timestamp} {a b : String}
    (h : newSessionId s a = newSessionId t b) : a = b := by
  have hchars : s.idChars ++ ('-' :: a.toList) = t.idChars ++ ('-' :: b.toList) := by
    have := congrArg String.toList h
    simpa [newSessionId, String.toList_append, List.append_assoc] using this
  have hlength : s.idChars.length = t.idChars.length := by
    rw [Timestamp.length_idChars, Timestamp.length_idChars]
  have htail := (List.append_inj hchars hlength).2
  rw [List.cons.injEq] at htail
  exact String.toList_injective htail.2

/-- The identifier was drawn `n`-th. -/
def DrawnAt (cfg : StoreConfig) (id : SessionId) (n : ℕ) : Prop :=
  ∃ startedAt, id = newSessionId startedAt (cfg.idFactory n)

/-- The first `n` suffixes drawn are distinct. -/
def DistinctIds (cfg : StoreConfig) (n : ℕ) : Prop :=
  ∀ i < n, ∀ j < n, cfg.idFactory i = cfg.idFactory j → i = j

theorem DistinctIds.mono {cfg : StoreConfig} {m n : ℕ} (h : DistinctIds cfg n) (hmn : m ≤ n) :
    DistinctIds cfg m := fun i hi j hj =>
  h i (lt_of_lt_of_le hi hmn) j (lt_of_lt_of_le hj hmn)

/-- With distinct suffixes an identifier was drawn once. -/
theorem DistinctIds.eq_of_drawnAt {cfg : StoreConfig} {n i j : ℕ} {id : SessionId}
    (h : DistinctIds cfg n) (hi : i < n) (hj : j < n) (hidi : DrawnAt cfg id i)
    (hidj : DrawnAt cfg id j) : i = j := by
  obtain ⟨s, hs⟩ := hidi
  obtain ⟨t, ht⟩ := hidj
  exact h i hi j hj (suffix_of_newSessionId (hs.symm.trans ht))

/-! ## Growth -/

/-- What later files of a session keep of earlier ones. -/
structure Grown (f f' : SessionFiles) : Prop where
  uartRaw : f.uartRaw <+: f'.uartRaw
  uartEvents : f.uartEvents <+: f'.uartEvents
  operationEvents : f.operationEvents <+: f'.operationEvents
  hardwareEvents : f.hardwareEvents <+: f'.hardwareEvents
  connectionEvents : f.connectionEvents <+: f'.connectionEvents
  nextEvidenceSeq : f.metadata.nextEvidenceSeq ≤ f'.metadata.nextEvidenceSeq
  predecessorSessionId : f'.metadata.predecessorSessionId = f.metadata.predecessorSessionId
  ended : f.metadata.state ≠ .active → f' = f

theorem Grown.refl (f : SessionFiles) : Grown f f :=
  ⟨List.prefix_rfl, List.prefix_rfl, List.prefix_rfl, List.prefix_rfl, List.prefix_rfl, le_rfl,
    rfl, fun _ => rfl⟩

theorem Grown.trans {f₁ f₂ f₃ : SessionFiles} (h₁ : Grown f₁ f₂) (h₂ : Grown f₂ f₃) :
    Grown f₁ f₃ where
  uartRaw := h₁.uartRaw.trans h₂.uartRaw
  uartEvents := h₁.uartEvents.trans h₂.uartEvents
  operationEvents := h₁.operationEvents.trans h₂.operationEvents
  hardwareEvents := h₁.hardwareEvents.trans h₂.hardwareEvents
  connectionEvents := h₁.connectionEvents.trans h₂.connectionEvents
  nextEvidenceSeq := h₁.nextEvidenceSeq.trans h₂.nextEvidenceSeq
  predecessorSessionId := h₂.predecessorSessionId.trans h₁.predecessorSessionId
  ended h := by
    have h' := h₁.ended h
    subst h'
    exact h₂.ended h

theorem EndedAs.state_ne {m m' : Metadata} (h : EndedAs m m') : m'.state ≠ .active := by
  obtain ⟨_, hstate⟩ := h
  exact hstate

theorem LinkedAs.state_ne {successor : SessionId} {m m' : Metadata}
    (h : LinkedAs successor m m') : m'.state ≠ .active := by
  obtain ⟨_, _, hstate⟩ := h
  exact hstate

/-- Ending a session leaves its links alone. -/
theorem EndedAs.links {m m' : Metadata} (h : EndedAs m m') :
    m'.predecessorSessionId = m.predecessorSessionId ∧
      m'.successorSessionId = m.successorSessionId := by
  obtain ⟨hown, _⟩ := h
  obtain ⟨_, _, _, rfl⟩ := relinquishV2Ownership_eq_ok hown
  exact ⟨rfl, rfl⟩

theorem LinkedAs.links {successor : SessionId} {m m' : Metadata} (h : LinkedAs successor m m') :
    m'.predecessorSessionId = m.predecessorSessionId ∧
      m'.successorSessionId = some successor := by
  obtain ⟨hlink, hown, _⟩ := h
  obtain ⟨_, rfl⟩ := linkSuccessor_eq_ok hlink
  obtain ⟨_, _, _, rfl⟩ := relinquishV2Ownership_eq_ok hown
  exact ⟨rfl, rfl⟩

/-- New metadata over the files of an active session. -/
theorem Grown.withMetadata {f : SessionFiles} {m : Metadata}
    (hactive : f.metadata.state = .active)
    (hnext : m.nextEvidenceSeq = f.metadata.nextEvidenceSeq)
    (hpredecessor : m.predecessorSessionId = f.metadata.predecessorSessionId) :
    Grown f (f.withMetadata m) :=
  ⟨List.prefix_rfl, List.prefix_rfl, List.prefix_rfl, List.prefix_rfl, List.prefix_rfl, hnext.ge,
    hpredecessor, fun h => absurd hactive h⟩

/-- An admission appends to the files and keeps the links. -/
theorem Admitted.grown {handle : SessionId} {kind : StepKind} {f f' : SessionFiles}
    (h : Admitted handle kind f f') (hactive : f.metadata.state = .active) :
    Grown f f' ∧ f'.metadata.state = .active ∧
      f'.metadata.successorSessionId = f.metadata.successorSessionId := by
  cases h with
  | @record _ _ stream r m hseq _ _ hframe _ =>
    refine ⟨?_, hframe.state.trans hactive, hframe.successorSessionId⟩
    have hnext : f.metadata.nextEvidenceSeq ≤ m.nextEvidenceSeq := by
      rw [hframe.nextEvidenceSeq, hseq]
      exact Nat.le_succ _
    cases stream with
    | operation =>
      exact ⟨List.prefix_rfl, List.prefix_rfl, List.prefix_append _ _, List.prefix_rfl,
        List.prefix_rfl, hnext, hframe.predecessorSessionId, fun h => absurd hactive h⟩
    | hardware =>
      exact ⟨List.prefix_rfl, List.prefix_rfl, List.prefix_rfl, List.prefix_append _ _,
        List.prefix_rfl, hnext, hframe.predecessorSessionId, fun h => absurd hactive h⟩
    | connection =>
      exact ⟨List.prefix_rfl, List.prefix_rfl, List.prefix_rfl, List.prefix_rfl,
        List.prefix_append _ _, hnext, hframe.predecessorSessionId, fun h => absurd hactive h⟩
  | @uart _ event unit captureResult hunit _ _ =>
    have hframe := admissionFrame_unit unit event captureResult f.metadata
    refine ⟨⟨List.prefix_append _ _, List.prefix_append _ _, List.prefix_rfl,
      List.prefix_append _ _, List.prefix_rfl, ?_, hframe.predecessorSessionId,
      fun h => absurd hactive h⟩, hframe.state.trans hactive, hframe.successorSessionId⟩
    obtain ⟨recordedAt, hrecord⟩ := hunit.record
    show f.metadata.nextEvidenceSeq ≤
      (unit.metadata event captureResult f.metadata).nextEvidenceSeq
    rw [hframe.nextEvidenceSeq, hrecord]
    show f.metadata.nextEvidenceSeq ≤
      f.metadata.nextEvidenceSeq + 1 + unit.hardwareEvents.length
    omega

/-! ## What a step does to the history -/

/-- A step leaves the history alone, adds a session under the next identifier, or changes an
active one. -/
inductive HistoryStep (cfg : StoreConfig) (st st' : Store) : Prop where
  | same (hhistory : st'.history = st.history) (hids : st.idsDrawn ≤ st'.idsDrawn)
  | created {id : SessionId} {f : SessionFiles} (hdrawn : DrawnAt cfg id st.idsDrawn)
      (hpredecessor : ∀ p, f.metadata.predecessorSessionId = some p →
        ∃ g, st.history p = some g ∧ g.metadata.state = .active)
      (hsuccessor : f.metadata.successorSessionId = none)
      (hhistory : ∀ id', st'.history id' = if id' = id then some f else st.history id')
      (hids : st'.idsDrawn = st.idsDrawn + 1)
  | changed {id : SessionId} {f f' : SessionFiles} (hget : st.history id = some f)
      (hactive : f.metadata.state = .active) (hgrown : Grown f f')
      (hsuccessor : f'.metadata.successorSessionId = f.metadata.successorSessionId ∨
        f'.metadata.state ≠ .active ∧ ∃ s g, f'.metadata.successorSessionId = some s ∧
          st.history s = some g ∧ g.metadata.predecessorSessionId = some id)
      (hhistory : ∀ id', st'.history id' = if id' = id then some f' else st.history id')
      (hids : st'.idsDrawn = st.idsDrawn)

theorem StoreStep.history {cfg : StoreConfig} {kind : StepKind} {st st' : Store}
    (h : StoreStep cfg kind st st') : HistoryStep cfg st st' := by
  cases h with
  | quiet hsessions hremoved hids =>
    refine .same ?_ hids
    funext id
    rw [Store.history, Store.history, hsessions, hremoved]
  | created hpredecessor _ _ _ hsessions hremoved hids =>
    refine .created ⟨_, rfl⟩ ?_ rfl (history_set hsessions hremoved) hids
    intro p hp
    cases kind with
    | call => cases hpredecessor.symm.trans hp
    | rollover =>
      obtain ⟨handle, files, hsome, hget, hactive⟩ := hpredecessor
      cases hsome.symm.trans hp
      exact ⟨files, history_of_get? hget, hactive⟩
  | admitted hget hactive _ hadmitted _ hsessions hframe =>
    obtain ⟨hgrown, _, hsuccessor⟩ := hadmitted.grown hactive
    exact .changed (history_of_get? hget) hactive hgrown (.inl hsuccessor)
      (history_set hsessions hframe.removed) hframe.idsDrawn
  | ended hget hactive hended _ hsessions hframe =>
    have hlinks := hended.links
    exact .changed (history_of_get? hget) hactive
      (.withMetadata hactive hended.frame.1.nextEvidenceSeq hlinks.1) (.inl hlinks.2)
      (history_set hsessions hframe.removed) hframe.idsDrawn
  | linked hget hactive hlinked hnext hpredecessor _ hsessions hframe =>
    have hlinks := hlinked.links
    exact .changed (history_of_get? hget) hactive
      (.withMetadata hactive hlinked.frame.1.nextEvidenceSeq hlinks.1)
      (.inr ⟨hlinked.state_ne, _, _, hlinks.2, history_of_get? hnext, hpredecessor⟩)
      (history_set hsessions hframe.removed) hframe.idsDrawn
  | removed hget _ hstep =>
    subst hstep
    exact .same (history_removeSession hget) le_rfl

theorem HistoryStep.idsDrawn_le {cfg : StoreConfig} {st st' : Store}
    (h : HistoryStep cfg st st') : st.idsDrawn ≤ st'.idsDrawn := by
  cases h with
  | same _ hids => exact hids
  | created _ _ _ _ hids => omega
  | changed _ _ _ _ _ hids => exact hids.ge

/-- Every session in the history has a drawn identifier. -/
def AllDrawn (cfg : StoreConfig) (st : Store) : Prop :=
  ∀ id f, st.history id = some f → ∃ n < st.idsDrawn, DrawnAt cfg id n

theorem HistoryStep.allDrawn {cfg : StoreConfig} {st st' : Store} (h : HistoryStep cfg st st')
    (hst : AllDrawn cfg st) : AllDrawn cfg st' := by
  intro id f hf
  have hold : ∀ g, st.history id = some g → ∃ n < st'.idsDrawn, DrawnAt cfg id n := by
    intro g hg
    obtain ⟨n, hn, hdrawn⟩ := hst id g hg
    exact ⟨n, lt_of_lt_of_le hn h.idsDrawn_le, hdrawn⟩
  cases h with
  | same hhistory => exact hold f (hhistory ▸ hf)
  | created hdrawn _ _ hhistory hids =>
    rw [hhistory] at hf
    split at hf
    · rename_i hid
      exact ⟨st.idsDrawn, by omega, hid ▸ hdrawn⟩
    · exact hold f hf
  | changed hget _ _ _ hhistory =>
    rw [hhistory] at hf
    split at hf
    · rename_i hid
      exact hold _ (hid ▸ hget)
    · exact hold f hf

/-- A created session was not in the history. -/
theorem AllDrawn.fresh {cfg : StoreConfig} {st : Store} (hst : AllDrawn cfg st) {id : SessionId}
    (hdistinct : DistinctIds cfg (st.idsDrawn + 1)) (hid : DrawnAt cfg id st.idsDrawn) :
    st.history id = none := by
  rw [Option.eq_none_iff_forall_ne_some]
  intro f hf
  obtain ⟨n, hn, hdrawn⟩ := hst id f hf
  have := hdistinct.eq_of_drawnAt (Nat.lt_succ_of_lt hn) (Nat.lt_succ_self _) hdrawn hid
  omega

/-- A session in the history stays there and grows. -/
theorem HistoryStep.grown {cfg : StoreConfig} {st st' : Store} (h : HistoryStep cfg st st')
    (hst : AllDrawn cfg st) (hdistinct : DistinctIds cfg st'.idsDrawn) {id : SessionId}
    {f : SessionFiles} (hf : st.history id = some f) :
    ∃ f', st'.history id = some f' ∧ Grown f f' := by
  cases h with
  | same hhistory => exact ⟨f, hhistory ▸ hf, .refl f⟩
  | created hdrawn _ _ hhistory hids =>
    refine ⟨f, ?_, .refl f⟩
    rw [hhistory, if_neg, hf]
    rintro rfl
    rw [hst.fresh (hids ▸ hdistinct) hdrawn] at hf
    cases hf
  | @changed id' g g' hget _ hgrown _ hhistory =>
    by_cases hid : id = id'
    · subst hid
      rw [hget] at hf
      cases hf
      exact ⟨g', by rw [hhistory, if_pos rfl], hgrown⟩
    · exact ⟨f, by rw [hhistory, if_neg hid, hf], .refl f⟩

/-! ## Runs -/

section Runs

variable (cfg : StoreConfig) (depth : ℕ)

/-- A property of the history that every step keeps holds over every run. -/
theorem history_invariant {I : Store → Prop}
    (hstep : ∀ st st', HistoryStep cfg st st' → AllDrawn cfg st → I st → I st')
    (calls : List StoreCall) {st : Store} (hsound : Sound st) (hdrawn : AllDrawn cfg st)
    (hst : I st) : I (runCalls cfg depth calls st) := by
  have hclosed : ∀ kind, Closed cfg kind fun st => Sound st ∧ AllDrawn cfg st ∧ I st := by
    intro kind st st' h hI
    exact ⟨closed_sound cfg kind st st' h hI.1, h.history.allDrawn hI.2.1,
      hstep st st' h.history hI.2.1 hI.2.2⟩
  have hcalls : CallInvariant cfg depth fun st => Sound st ∧ AllDrawn cfg st ∧ I st :=
    callInvariant_of_closed hclosed fun _ h => h.1
  exact (hcalls.runCalls (fun _ h => segments_of_sound h.1) calls ⟨hsound, hdrawn, hst⟩).2.2

theorem allDrawn_runCalls (calls : List StoreCall) {st : Store} (hsound : Sound st)
    (hdrawn : AllDrawn cfg st) : AllDrawn cfg (runCalls cfg depth calls st) :=
  history_invariant cfg depth (fun _ _ h hst _ => h.allDrawn hst) calls hsound hdrawn hdrawn

theorem allDrawn_empty (cfg : StoreConfig) : AllDrawn cfg {} := fun _ _ h => by cases h

theorem runCalls_append (calls calls' : List StoreCall) (st : Store) :
    runCalls cfg depth (calls ++ calls') st
      = runCalls cfg depth calls' (runCalls cfg depth calls st) := by
  rw [runCalls, List.foldl_append]
  rfl

/-- What later calls leave of a session: its evidence is only appended to, and once it has
ended nothing of it changes any more. -/
theorem sessions_grow (cfg : StoreConfig) (depth : ℕ) (calls calls' : List StoreCall)
    (hids : DistinctIds cfg (runCalls cfg depth (calls ++ calls') {}).idsDrawn) (id : SessionId)
    (f : SessionFiles) (hf : (runCalls cfg depth calls {}).history id = some f) :
    ∃ f', (runCalls cfg depth (calls ++ calls') {}).history id = some f' ∧ Grown f f' := by
  rw [runCalls_append] at hids ⊢
  have hdrawn := allDrawn_runCalls cfg depth calls sound_empty (allDrawn_empty cfg)
  have hsound := sound_runCalls cfg depth calls sound_empty
  have hrun := history_invariant cfg depth
    (I := fun st => DistinctIds cfg st.idsDrawn → ∃ f', st.history id = some f' ∧ Grown f f')
    ?_ calls' hsound hdrawn fun _ => ⟨f, hf, .refl f⟩
  · exact hrun hids
  · intro st st' hstep hst hI hdistinct
    obtain ⟨g, hg, hgrown⟩ := hI (hdistinct.mono hstep.idsDrawn_le)
    obtain ⟨g', hg', hgrown'⟩ := hstep.grown hst hdistinct hg
    exact ⟨g', hg', hgrown.trans hgrown'⟩

end Runs

/-! A session gains a byte after it was created. -/

theorem distinctIds_one (cfg : StoreConfig) : DistinctIds cfg 1 := by
  intro i hi j hj _
  omega

theorem sessions_grow_oneByte :
    ∃ f, (runCalls exampleConfig 1 (exampleCalls.take 1) {}).history exampleId = some f ∧
      ∃ f', (runCalls exampleConfig 1 (exampleCalls.take 1 ++ exampleCalls.drop 1) {}).history
        exampleId = some f' ∧ Grown f f' := by
  have hsome : ((runCalls exampleConfig 1 (exampleCalls.take 1) {}).history
      exampleId).isSome = true := by decide +kernel
  obtain ⟨f, hf⟩ := Option.isSome_iff_exists.mp hsome
  have hdrawn : (runCalls exampleConfig 1 (exampleCalls.take 1 ++ exampleCalls.drop 1)
      {}).idsDrawn = 1 := by decide +kernel
  have hids : DistinctIds exampleConfig (runCalls exampleConfig 1
      (exampleCalls.take 1 ++ exampleCalls.drop 1) {}).idsDrawn := by
    rw [hdrawn]
    exact distinctIds_one exampleConfig
  exact ⟨f, hf, sessions_grow exampleConfig 1 (exampleCalls.take 1) (exampleCalls.drop 1) hids
    exampleId f hf⟩

/-! ## Chains -/

/-- The first session names the second as its successor. -/
def Succeeds (st : Store) (id successor : SessionId) : Prop :=
  ∃ f, st.history id = some f ∧ f.metadata.successorSessionId = some successor

/-- The links of the sessions. -/
structure Chained (cfg : StoreConfig) (st : Store) : Prop where
  later : ∀ id f p, st.history id = some f → f.metadata.predecessorSessionId = some p →
    ∃ j k, j < k ∧ k < st.idsDrawn ∧ DrawnAt cfg p j ∧ DrawnAt cfg id k
  unlinked : ∀ id f, st.history id = some f → f.metadata.state = .active →
    f.metadata.successorSessionId = none
  origin : ∀ id f p, st.history id = some f → f.metadata.predecessorSessionId = some p →
    ∃ g, st.history p = some g
  named : ∀ id s, Succeeds st id s →
    ∃ g, st.history s = some g ∧ g.metadata.predecessorSessionId = some id

/-- Where a session of the history comes from. -/
theorem HistoryStep.source {cfg : StoreConfig} {st st' : Store} (h : HistoryStep cfg st st')
    {id : SessionId} {f' : SessionFiles} (hf' : st'.history id = some f') :
    (∃ f, st.history id = some f ∧
        f'.metadata.predecessorSessionId = f.metadata.predecessorSessionId ∧
        (f'.metadata.successorSessionId = f.metadata.successorSessionId ∧
            (f'.metadata.state = .active → f.metadata.state = .active) ∨
          f'.metadata.state ≠ .active ∧ ∃ s g, f'.metadata.successorSessionId = some s ∧
            st.history s = some g ∧ g.metadata.predecessorSessionId = some id)) ∨
      DrawnAt cfg id st.idsDrawn ∧ st'.idsDrawn = st.idsDrawn + 1 ∧
        f'.metadata.successorSessionId = none ∧
        ∀ p, f'.metadata.predecessorSessionId = some p → ∃ g, st.history p = some g := by
  cases h with
  | same hhistory => exact .inl ⟨f', hhistory ▸ hf', rfl, .inl ⟨rfl, fun h => h⟩⟩
  | created hdrawn hpredecessor hsuccessor hhistory hids =>
    rw [hhistory] at hf'
    split at hf'
    · rename_i hid
      cases hf'
      refine .inr ⟨hid ▸ hdrawn, hids, hsuccessor, fun p hp => ?_⟩
      obtain ⟨g, hg, _⟩ := hpredecessor p hp
      exact ⟨g, hg⟩
    · exact .inl ⟨f', hf', rfl, .inl ⟨rfl, fun h => h⟩⟩
  | changed hget hactive hgrown hsuccessor hhistory =>
    rw [hhistory] at hf'
    split at hf'
    · rename_i hid
      cases hf'
      subst hid
      refine .inl ⟨_, hget, hgrown.predecessorSessionId, ?_⟩
      rcases hsuccessor with hsame | hlinked
      · exact .inl ⟨hsame, fun _ => hactive⟩
      · exact .inr hlinked
    · exact .inl ⟨f', hf', rfl, .inl ⟨rfl, fun h => h⟩⟩

/-- Every step keeps the chains. -/
theorem HistoryStep.chained {cfg : StoreConfig} {st st' : Store} (h : HistoryStep cfg st st')
    (hst : AllDrawn cfg st) (hdistinct : DistinctIds cfg st'.idsDrawn) (hchained : Chained cfg st) :
    Chained cfg st' where
  later := by
    intro id f' p hf' hp
    rcases h.source hf' with ⟨f, hf, hsame, _⟩ | ⟨hdrawn, hids, _, horigin⟩
    · obtain ⟨j, k, hjk, hk, hpj, hidk⟩ := hchained.later id f p hf (hsame ▸ hp)
      exact ⟨j, k, hjk, lt_of_lt_of_le hk h.idsDrawn_le, hpj, hidk⟩
    · obtain ⟨g, hg⟩ := horigin p hp
      obtain ⟨j, hj, hpj⟩ := hst p g hg
      exact ⟨j, st.idsDrawn, hj, by omega, hpj, hdrawn⟩
  unlinked := by
    intro id f' hf' hactive
    rcases h.source hf' with ⟨f, hf, _, hcase⟩ | ⟨_, _, hnone, _⟩
    · rcases hcase with ⟨hsame, hold⟩ | ⟨hended, _⟩
      · rw [hsame]
        exact hchained.unlinked id f hf (hold hactive)
      · exact absurd hactive hended
    · exact hnone
  origin := by
    intro id f' p hf' hp
    have hold : ∃ g, st.history p = some g := by
      rcases h.source hf' with ⟨f, hf, hsame, _⟩ | ⟨_, _, _, horigin⟩
      · exact hchained.origin id f p hf (hsame ▸ hp)
      · exact horigin p hp
    obtain ⟨g, hg⟩ := hold
    obtain ⟨g', hg', _⟩ := h.grown hst hdistinct hg
    exact ⟨g', hg'⟩
  named := by
    rintro id s ⟨f', hf', hs⟩
    have hold : ∃ g, st.history s = some g ∧ g.metadata.predecessorSessionId = some id := by
      rcases h.source hf' with ⟨f, hf, _, hcase⟩ | ⟨_, _, hnone, _⟩
      · rcases hcase with ⟨hsame, _⟩ | ⟨_, t, g, ht, hg, hid⟩
        · exact hchained.named id s ⟨f, hf, hsame ▸ hs⟩
        · cases ht.symm.trans hs
          exact ⟨g, hg, hid⟩
      · cases hnone.symm.trans hs
    obtain ⟨g, hg, hid⟩ := hold
    obtain ⟨g', hg', hgrown⟩ := h.grown hst hdistinct hg
    exact ⟨g', hg', hgrown.predecessorSessionId.trans hid⟩

theorem chained_empty (cfg : StoreConfig) : Chained cfg {} where
  later := by
    intro id f p hf
    cases hf
  unlinked := by
    intro id f hf
    cases hf
  origin := by
    intro id f p hf
    cases hf
  named := by
    rintro id s ⟨f, hf, _⟩
    cases hf

/-- Along the links identifiers are drawn later and later. -/
theorem Chained.later_of_transGen {cfg : StoreConfig} {st : Store} (h : Chained cfg st)
    (hdistinct : DistinctIds cfg st.idsDrawn) {a b : SessionId}
    (hab : Relation.TransGen (Succeeds st) a b) :
    ∃ j k, j < k ∧ k < st.idsDrawn ∧ DrawnAt cfg a j ∧ DrawnAt cfg b k := by
  have hstep : ∀ {a b}, Succeeds st a b →
      ∃ j k, j < k ∧ k < st.idsDrawn ∧ DrawnAt cfg a j ∧ DrawnAt cfg b k := by
    intro a b hab
    obtain ⟨g, hg, hp⟩ := h.named a b hab
    exact h.later b g a hg hp
  induction hab with
  | single hab => exact hstep hab
  | tail _ hbc ih =>
    obtain ⟨j, k, hjk, hk, haj, hbk⟩ := ih
    obtain ⟨k', l, hkl, hl, hbk', hcl⟩ := hstep hbc
    have hkk : k = k' := hdistinct.eq_of_drawnAt hk (hkl.trans hl) hbk hbk'
    exact ⟨j, l, by omega, hl, haj, hcl⟩

/-- What the links of the sessions are: an active session is the last of its chain, a
session and its successor name each other, and no chain closes. -/
structure ChainsSound (st : Store) : Prop where
  unlinked : ∀ id f, st.history id = some f → f.metadata.state = .active →
    f.metadata.successorSessionId = none
  named : ∀ id s, Succeeds st id s →
    ∃ g, st.history s = some g ∧ g.metadata.predecessorSessionId = some id
  unique : ∀ a b s, Succeeds st a s → Succeeds st b s → a = b
  origin : ∀ id f p, st.history id = some f → f.metadata.predecessorSessionId = some p →
    ∃ g, st.history p = some g
  acyclic : ∀ id, ¬ Relation.TransGen (Succeeds st) id id

theorem Chained.sound {cfg : StoreConfig} {st : Store} (h : Chained cfg st)
    (hdistinct : DistinctIds cfg st.idsDrawn) : ChainsSound st where
  unlinked := h.unlinked
  named := h.named
  unique := by
    intro a b s ha hb
    obtain ⟨g, hg, hga⟩ := h.named a s ha
    obtain ⟨g', hg', hgb⟩ := h.named b s hb
    cases hg.symm.trans hg'
    exact Option.some.inj (hga.symm.trans hgb)
  origin := h.origin
  acyclic := by
    intro id hcycle
    obtain ⟨j, k, hjk, hk, hj, hk'⟩ := h.later_of_transGen hdistinct hcycle
    have := hdistinct.eq_of_drawnAt (hjk.trans hk) hk hj hk'
    omega

/-- After any calls that draw distinct identifiers, the links form chains. -/
theorem chains_sound (cfg : StoreConfig) (depth : ℕ) (calls : List StoreCall)
    (hids : DistinctIds cfg (runCalls cfg depth calls {}).idsDrawn) :
    ChainsSound (runCalls cfg depth calls {}) := by
  have hrun := history_invariant cfg depth
    (I := fun st => DistinctIds cfg st.idsDrawn → Chained cfg st) ?_ calls sound_empty
    (allDrawn_empty cfg) fun _ => chained_empty cfg
  · exact (hrun hids).sound hids
  · intro st st' hstep hst hI hdistinct
    exact hstep.chained hst hdistinct (hI (hdistinct.mono hstep.idsDrawn_le))

/-! A session whose segments are used up rolls over. -/

def unaryConfig : StoreConfig :=
  { exampleConfig with idFactory := fun n => String.ofList (List.replicate (n + 1) 'a') }

theorem distinctIds_unary (n : ℕ) : DistinctIds unaryConfig n := by
  intro i _ j _ h
  have hlength := congrArg (fun s : String => s.toList.length) h
  simpa [unaryConfig] using hlength

/-- A session opens each of its segments, and one more. -/
def segmentCalls : List StoreCall :=
  .createV2Session exampleProfile exampleSnapshot ::
    (List.range maxSessionSegments).map fun n =>
      .appendV2Segment (newSessionId exampleTimestamp "a")
        (exampleSnapshot.withSegmentId (n + 1))

theorem chains_sound_segments : ChainsSound (runCalls unaryConfig 2 segmentCalls {}) :=
  chains_sound unaryConfig 2 segmentCalls (distinctIds_unary _)
