/-
# When a transaction is atomic under failures and crashes

`admitEvidence` runs one evidence transaction under an arbitrary schedule of failures and
crashes.  `CutShort` reads off the steps taken whether the new metadata was renamed
into place, the transaction then rolled back all the same, and that rollback undid an
append or the patterns without reaching the metadata.  Exactly then a later recovery
settles on a mixture (`admit_atomic_iff`).
-/
import DutchMate.TransactionRecovery

open Faults

/-! ## What a run did -/

/-- Whether a step had an effect somewhere in the run. -/
def took (l : List (FsStep × Outcome)) (label : FsStep) : Bool :=
  l.any fun e => decide (e.1 = label) && e.2.took

@[simp] theorem took_nil (label : FsStep) : took [] label = false := rfl

@[simp] theorem took_concat (l : List (FsStep × Outcome)) (label label' : FsStep) (o : Outcome) :
    took (l ++ [(label', o)]) label = (took l label || (decide (label' = label) && o.took)) := by
  simp [took]

/-- Nothing was published, undone or restored. -/
structure Quiet (l : List (FsStep × Outcome)) : Prop where
  publish : took l (.replace .metadata) = false
  truncate : ∀ f, took l (.truncate f) = false
  restore : ∀ t, took l (.restore t) = false

/-- Neither an append file nor the patterns were undone. -/
structure NoUndo (l : List (FsStep × Outcome)) : Prop where
  truncate : ∀ f, took l (.truncate f) = false
  restore : took l (.restore .detectedPatterns) = false

/-- Steps that publish nothing and undo nothing. -/
def FsStep.quiet : FsStep → Prop
  | .replace .metadata | .truncate _ | .restore _ => False
  | _ => True

theorem stable_quiet : Stable FsStep.quiet Quiet := by
  intro l label o hlabel h
  refine ⟨?_, fun f => ?_, fun t => ?_⟩
  · have hne : label ≠ .replace .metadata := by rintro rfl; exact hlabel
    simp [h.publish, hne]
  · have hne : label ≠ .truncate f := by rintro rfl; exact hlabel
    simp [h.truncate f, hne]
  · have hne : label ≠ .restore t := by rintro rfl; exact hlabel
    simp [h.restore t, hne]

theorem stable_noUndo : Stable FsStep.quiet NoUndo := by
  intro l label o hlabel h
  refine ⟨fun f => ?_, ?_⟩
  · have hne : label ≠ .truncate f := by rintro rfl; exact hlabel
    simp [h.truncate f, hne]
  · have hne : label ≠ .restore .detectedPatterns := by rintro rfl; exact hlabel
    simp [h.restore, hne]

theorem FsStep.quiet_of_cleans {label : FsStep} (h : label.cleans) : label.quiet := by
  cases label <;> first | exact trivial | exact absurd h id

theorem stable_cleans {L : List (FsStep × Outcome) → Prop} (hL : Stable FsStep.quiet L) :
    Stable FsStep.cleans L := fun l label o hlabel hl => hL l label o (label.quiet_of_cleans hlabel) hl

section Transaction

variable {Digest : Type} (sha256 : Content → Digest) (c₀ : Contents) (u : EvidenceUnit)

/-- The metadata was published, and the rollback that followed undid an append or the
patterns document but did not reach the metadata. -/
def CutShort (l : List (FsStep × Outcome)) : Prop :=
  took l (.replace .metadata) = true ∧ took l (.restore .metadata) = false ∧
    ((∃ f, took l (.truncate f) = true ∧ EvidenceUnit.payload u.appends f ≠ []) ∨
      (took l (.restore .detectedPatterns) = true ∧
        (u.publish c₀).documents .detectedPatterns ≠ c₀.documents .detectedPatterns))

/-- The transaction ended, and the contents the next recovery settles on are those
before or those after it unless the rollback was cut short. -/
def Ended (d : SessionDir Digest) (l : List (FsStep × Outcome)) : Prop :=
  ∃ c, Phase sha256 c₀ u c d ∧ ((c = c₀ ∨ c = u.publish c₀) ↔ ¬ CutShort c₀ u l)

/-- The transaction has its marker and backups. -/
structure Begun (m : TransactionMarker Digest) (d : SessionDir Digest) : Prop where
  markerFor : MarkerFor sha256 c₀ u m
  state : m.state = .prepared
  marker : d.marker = some m
  contents : d.contents = c₀
  backups : BackupsHold c₀ d
  metadataBackup : (d.backups .metadata).isSome
  patternsBackup : u.patterns.isSome → (d.backups .detectedPatterns).isSome

/-- The unit's appends `done` are written, and the patterns document if `patternsDone`. -/
structure Writing (state : TransactionState) (done : List (AppendFile × Content))
    (patternsDone : Bool) (d : SessionDir Digest) : Prop where
  marker : ∃ m, d.marker = some m ∧ MarkerFor sha256 c₀ u m ∧ m.state = state
  files : ∀ f, d.appendFiles f = c₀.appendFiles f ++ EvidenceUnit.payload done f
  metadata : (d.documents .metadata).content = c₀.documents .metadata
  patterns : (d.documents .detectedPatterns).content
    = if patternsDone then (u.publish c₀).documents .detectedPatterns
      else c₀.documents .detectedPatterns
  backups : BackupsHold c₀ d
  metadataBackup : (d.backups .metadata).isSome
  patternsBackup : u.patterns.isSome → (d.backups .detectedPatterns).isSome

/-- The metadata is published; what the log says was undone is as before. -/
structure Undoing (d : SessionDir Digest) (l : List (FsStep × Outcome)) : Prop where
  marker : ∃ m, d.marker = some m ∧ MarkerFor sha256 c₀ u m ∧ m.state = .evidenceWritten
  published : took l (.replace .metadata) = true
  unrestored : took l (.restore .metadata) = false
  metadata : (d.documents .metadata).content = u.metadata
  files : ∀ f, d.appendFiles f
    = if took l (.truncate f) then c₀.appendFiles f else (u.publish c₀).appendFiles f
  patterns : (d.documents .detectedPatterns).content
    = if took l (.restore .detectedPatterns) then c₀.documents .detectedPatterns
      else (u.publish c₀).documents .detectedPatterns
  backups : BackupsHold c₀ d
  metadataBackup : (d.backups .metadata).isSome
  patternsBackup : took l (.restore .detectedPatterns) = false → u.patterns.isSome →
    (d.backups .detectedPatterns).isSome

variable {sha256 c₀ u}

/-! ## The stages end well -/

theorem ended_before {d : SessionDir Digest} {l : List (FsStep × Outcome)}
    (h : Phase sha256 c₀ u c₀ d)
    (hl : took l (.replace .metadata) = false ∨ took l (.restore .metadata) = true) :
    Ended sha256 c₀ u d l := by
  refine ⟨c₀, h, iff_of_true (Or.inl rfl) ?_⟩
  rintro ⟨hpub, hrest, _⟩
  rcases hl with hl | hl
  · rw [hpub] at hl; cases hl
  · rw [hrest] at hl; cases hl

theorem ended_after {d : SessionDir Digest} {l : List (FsStep × Outcome)}
    (h : Phase sha256 c₀ u (u.publish c₀) d) (hl : NoUndo l) : Ended sha256 c₀ u d l := by
  refine ⟨_, h, iff_of_true (Or.inr rfl) ?_⟩
  rintro ⟨_, _, ⟨f, htook, _⟩ | ⟨htook, _⟩⟩
  · rw [hl.truncate f] at htook; cases htook
  · rw [hl.restore] at htook; cases htook

theorem Begun.writing {m : TransactionMarker Digest} {d : SessionDir Digest}
    (h : Begun sha256 c₀ u m d) : Writing sha256 c₀ u .prepared [] false d := by
  refine ⟨⟨m, h.marker, h.markerFor, h.state⟩, ?_, ?_, ?_, h.backups, h.metadataBackup,
    h.patternsBackup⟩
  · intro f
    rw [← h.contents]
    simp [SessionDir.contents, EvidenceUnit.payload]
  · rw [← h.contents]
    rfl
  · rw [← h.contents]
    rfl

theorem Writing.undoable {state : TransactionState} {done : List (AppendFile × Content)}
    {patternsDone : Bool} {d : SessionDir Digest} (h : Writing sha256 c₀ u state done patternsDone d)
    (hstate : state ≠ .committed) (hdone : done <+: u.appends) : Undoable sha256 c₀ u d := by
  obtain ⟨m, hmarker, hfor, hm⟩ := h.marker
  refine ⟨⟨m, hmarker, hfor, by rw [hm]; exact hstate⟩, h.metadata, fun f => ⟨_, h.files f⟩, ?_,
    ?_, h.backups⟩
  · intro f hf
    have hnot : f ∉ done.map Prod.fst := fun hmem =>
      hf ((hdone.map Prod.fst).subset hmem)
    rw [h.files, EvidenceUnit.payload_of_notMem hnot, List.append_nil]
  · by_cases hp : u.patterns.isSome
    · exact Or.inr ⟨hp, h.patternsBackup hp⟩
    · left
      rw [h.patterns]
      have hnone : u.patterns = none := by simpa using hp
      simp [EvidenceUnit.publish, hnone]

/-- Renaming the new metadata into place publishes the unit. -/
theorem Writing.publish {d : SessionDir Digest} {l : List (FsStep × Outcome)}
    (h : Writing sha256 c₀ u .evidenceWritten u.appends true d) (hl : Quiet l) {o : Outcome}
    (ho : o.took = true) :
    Undoing sha256 c₀ u (d.replaceDocument .metadata u.metadata)
      (l ++ [(.replace .metadata, o)]) := by
  refine ⟨h.marker, by simp [ho], by simp [hl.restore], by simp, ?_, ?_, ?_, h.metadataBackup, ?_⟩
  · intro f
    simp [hl.truncate, h.files, EvidenceUnit.publish]
  · simp [hl.restore, h.patterns]
  · intro t b hb
    obtain ⟨hcontent, hsame⟩ := h.backups t b hb
    refine ⟨hcontent, ?_⟩
    cases t with
    | metadata =>
      intro hinode
      rw [SessionDir.replaceDocument_documents, Function.update_self] at hinode
      exact absurd hinode (d.inode_ne_freshInode hb)
    | detectedPatterns => simpa using hsame
  · intro _ hp
    exact h.patternsBackup hp

theorem noUndo_publish {l : List (FsStep × Outcome)} (hl : Quiet l) (o : Outcome) :
    NoUndo (l ++ [(.replace .metadata, o)]) :=
  ⟨fun f => by simp [hl.truncate f], by simp [hl.restore]⟩

/-- The contents on disk are kept by the next recovery. -/
theorem Undoing.kept {d : SessionDir Digest} {l : List (FsStep × Outcome)}
    (h : Undoing sha256 c₀ u d l) : Kept sha256 c₀ u d.contents d := by
  obtain ⟨m, hmarker, hfor, hm⟩ := h.marker
  exact ⟨⟨m, hmarker, hfor, by simp [hm]⟩, rfl, h.metadata⟩

theorem Undoing.contents {d : SessionDir Digest} {l : List (FsStep × Outcome)}
    (h : Undoing sha256 c₀ u d l) (hl : NoUndo l) : d.contents = u.publish c₀ := by
  refine Contents.ext' ?_ ?_
  · intro f
    have := h.files f
    rwa [hl.truncate f] at this
  · intro t
    cases t with
    | metadata => exact h.metadata
    | detectedPatterns =>
      have := h.patterns
      rwa [hl.restore] at this

/-- Undoing leaves a mixture exactly when it undid something. -/
theorem Undoing.ended {d : SessionDir Digest} {l : List (FsStep × Outcome)}
    (hmeta : u.metadata ≠ c₀.documents .metadata) (h : Undoing sha256 c₀ u d l) :
    Ended sha256 c₀ u d l := by
  have hnot : d.contents ≠ c₀ := by
    intro heq
    have : (d.documents .metadata).content = c₀.documents .metadata :=
      congrFun (congrArg Contents.documents heq) .metadata
    rw [h.metadata] at this
    exact hmeta this
  refine ⟨d.contents, Or.inr (Or.inl h.kept), ?_⟩
  constructor
  · rintro (heq | heq)
    · exact absurd heq hnot
    · rintro ⟨_, _, ⟨f, htook, hpayload⟩ | ⟨htook, hpatterns⟩⟩
      · have hf : d.appendFiles f = (u.publish c₀).appendFiles f :=
          congrFun (congrArg Contents.appendFiles heq) f
        rw [h.files, htook, if_pos rfl] at hf
        exact hpayload (by simpa [EvidenceUnit.publish] using hf)
      · have hp : (d.documents .detectedPatterns).content
            = (u.publish c₀).documents .detectedPatterns :=
          congrFun (congrArg Contents.documents heq) .detectedPatterns
        rw [h.patterns, htook, if_pos rfl] at hp
        exact hpatterns hp.symm
  · intro hcut
    right
    refine Contents.ext' ?_ ?_
    · intro f
      refine (h.files f).trans ?_
      split
      · rename_i htook
        have hnil : EvidenceUnit.payload u.appends f = [] := by
          by_contra hne
          exact hcut ⟨h.published, h.unrestored, Or.inl ⟨f, htook, hne⟩⟩
        simp [EvidenceUnit.publish, hnil]
      · rfl
    · intro t
      cases t with
      | metadata => exact h.metadata
      | detectedPatterns =>
        refine h.patterns.trans ?_
        split
        · rename_i htook
          by_contra hne
          exact hcut ⟨h.published, h.unrestored, Or.inr ⟨htook, fun heq => hne heq.symm⟩⟩
        · rfl

/-! ## Steps between the stages -/

theorem Writing.append {state : TransactionState} {done : List (AppendFile × Content)}
    {d : SessionDir Digest} (h : Writing sha256 c₀ u state done false d)
    (p : AppendFile × Content) :
    Writing sha256 c₀ u state (done ++ [p]) false
      (d.setAppendFile p.1 (d.appendFiles p.1 ++ p.2)) := by
  refine ⟨h.marker, ?_, h.metadata, h.patterns, h.backups, h.metadataBackup, h.patternsBackup⟩
  intro f
  rw [EvidenceUnit.payload_append_singleton]
  by_cases hf : f = p.1
  · subst hf
    simp [h.files, List.append_assoc]
  · rw [SessionDir.setAppendFile_appendFiles, Function.update_of_ne hf, h.files,
      if_neg (Ne.symm hf), List.append_nil]

theorem Writing.undoable_append {done : List (AppendFile × Content)} {d : SessionDir Digest}
    (h : Writing sha256 c₀ u .prepared done false d) (hdone : done <+: u.appends)
    {f : AppendFile} (hf : f ∈ u.appends.map Prod.fst) (bytes : Content) :
    Undoable sha256 c₀ u (d.setAppendFile f (d.appendFiles f ++ bytes)) := by
  have hu := h.undoable (by simp) hdone
  refine ⟨hu.marker, hu.metadata, ?_, ?_, hu.patterns, hu.backups⟩
  · intro g
    by_cases hg : g = f
    · subst hg
      exact ⟨EvidenceUnit.payload done g ++ bytes, by simp [h.files]⟩
    · rw [SessionDir.setAppendFile_appendFiles, Function.update_of_ne hg]
      exact hu.grown g
  · intro g hout
    have hg : g ≠ f := fun heq => hout (heq ▸ hf)
    rw [SessionDir.setAppendFile_appendFiles, Function.update_of_ne hg]
    exact hu.untouched g hout

theorem Writing.replacePatterns {d : SessionDir Digest} {patterns : Content}
    (h : Writing sha256 c₀ u .prepared u.appends false d) (hp : u.patterns = some patterns) :
    Writing sha256 c₀ u .prepared u.appends true
      (d.replaceDocument .detectedPatterns patterns) := by
  refine ⟨h.marker, h.files, by simpa using h.metadata, ?_, ?_, h.metadataBackup,
    h.patternsBackup⟩
  · simp [EvidenceUnit.publish, hp]
  · intro t b hb
    obtain ⟨hcontent, hsame⟩ := h.backups t b hb
    refine ⟨hcontent, ?_⟩
    cases t with
    | metadata => simpa using hsame
    | detectedPatterns =>
      intro hinode
      rw [SessionDir.replaceDocument_documents, Function.update_self] at hinode
      exact absurd hinode (d.inode_ne_freshInode hb)

/-- Where the body stops short, the rollback starts. -/
def Interrupted (sha256 : Content → Digest) (c₀ : Contents) (u : EvidenceUnit)
    (d : SessionDir Digest) (l : List (FsStep × Outcome)) : Prop :=
  (Undoable sha256 c₀ u d ∧ Quiet l) ∨ (Undoing sha256 c₀ u d l ∧ NoUndo l)

theorem Interrupted.ended {d : SessionDir Digest} {l : List (FsStep × Outcome)}
    (hmeta : u.metadata ≠ c₀.documents .metadata) (h : Interrupted sha256 c₀ u d l) :
    Ended sha256 c₀ u d l := by
  rcases h with ⟨h, hl⟩ | ⟨h, _⟩
  · exact ended_before (Or.inr (Or.inr ⟨rfl, h⟩)) (Or.inl hl.publish)
  · exact h.ended hmeta

/-- The transaction object after the metadata was prepared. -/
def Prepared (sha256 : Content → Digest) (c₀ : Contents) (u : EvidenceUnit)
    (m : TransactionMarker Digest) : Prop :=
  MarkerFor sha256 c₀ u m ∧ m.state = .evidenceWritten

/-- A step that was to truncate or restore, but had no effect. -/
theorem Undoing.untaken {d : SessionDir Digest} {l : List (FsStep × Outcome)}
    (h : Undoing sha256 c₀ u d l) (label : FsStep) {o : Outcome} (ho : o.took = false) :
    Undoing sha256 c₀ u d (l ++ [(label, o)]) := by
  refine ⟨h.marker, by simp [h.published], by simp [h.unrestored, ho], h.metadata, ?_, ?_,
    h.backups, h.metadataBackup, ?_⟩
  · intro f
    simp [h.files, ho]
  · simp [h.patterns, ho]
  · intro hrestore
    exact h.patternsBackup (by simpa [ho] using hrestore)

theorem Undoing.truncate {d : SessionDir Digest} {l : List (FsStep × Outcome)}
    (h : Undoing sha256 c₀ u d l) (f : AppendFile) {o : Outcome} (ho : o.took = true) :
    Undoing sha256 c₀ u (d.setAppendFile f (c₀.appendFiles f)) (l ++ [(.truncate f, o)]) := by
  refine ⟨h.marker, by simp [h.published], by simp [h.unrestored], h.metadata, ?_, ?_, h.backups,
    h.metadataBackup, ?_⟩
  · intro g
    by_cases hg : g = f
    · subst hg
      simp [ho]
    · rw [SessionDir.setAppendFile_appendFiles, Function.update_of_ne hg, h.files]
      simp [Ne.symm hg]
  · simp [h.patterns]
  · intro hrestore
    exact h.patternsBackup (by simpa using hrestore)

theorem Undoing.restorePatterns {d : SessionDir Digest} {l : List (FsStep × Outcome)}
    (h : Undoing sha256 c₀ u d l) (hb : (d.backups .detectedPatterns).isSome) {o : Outcome}
    (ho : o.took = true) :
    Undoing sha256 c₀ u (d.restoreBackup .detectedPatterns)
      (l ++ [(.restore .detectedPatterns, o)]) := by
  obtain ⟨hcontent, hbackups, hother⟩ := content_restoreBackup h.backups .detectedPatterns hb
  refine ⟨by simpa using h.marker, by simp [h.published], by simp [h.unrestored], ?_, ?_, ?_,
    hbackups, ?_, ?_⟩
  · rw [(hother .metadata (by simp)).1]
    exact h.metadata
  · intro f
    simp [h.files]
  · simp [hcontent, ho]
  · rw [(hother .metadata (by simp)).2]
    exact h.metadataBackup
  · intro hrestore
    simp [ho] at hrestore

/-- Bringing the metadata back last makes the directory undoable again, with nothing
left to undo. -/
theorem Undoing.restoreMetadata {d : SessionDir Digest} {l : List (FsStep × Outcome)}
    (h : Undoing sha256 c₀ u d l) (hfiles : FilesBack c₀ d)
    (hpatterns : (d.documents .detectedPatterns).content = c₀.documents .detectedPatterns) :
    Ready sha256 c₀ u c₀ (d.restoreBackup .metadata) := by
  obtain ⟨hcontent, hbackups, hother⟩ := content_restoreBackup h.backups .metadata h.metadataBackup
  obtain ⟨m, hmarker, hfor, hm⟩ := h.marker
  have hpatterns' : ((d.restoreBackup .metadata).documents .detectedPatterns).content
      = c₀.documents .detectedPatterns := by
    rw [(hother .detectedPatterns (by simp)).1]
    exact hpatterns
  refine Undoable.ready ⟨⟨m, by simpa using hmarker, hfor, by simp [hm]⟩, hcontent, ?_, ?_,
    Or.inl hpatterns', hbackups⟩ ?_ hpatterns'
  · intro f
    exact ⟨[], by simp [hfiles f]⟩
  · intro f _
    simp [hfiles f]
  · intro f
    simp [hfiles f]

/-! ## Beginning -/

/-- Offsets known for the paths `X` so far. -/
def OffsetsFor (c₀ : Contents) (X : List AppendFile) (offsets : Dict AppendFile ℕ) : Prop :=
  ∀ f n, offsets.get? f = some n ↔ f ∈ X ∧ n = (c₀.appendFiles f).length

theorem OffsetsFor.skip {X : List AppendFile} {offsets : Dict AppendFile ℕ}
    (h : OffsetsFor c₀ X offsets) {f : AppendFile} (hf : offsets.contains f = true) :
    OffsetsFor c₀ (X ++ [f]) offsets := by
  obtain ⟨n, hn⟩ := Option.isSome_iff_exists.mp hf
  have hmem := ((h f n).mp hn).1
  intro g k
  rw [h g k, List.mem_append, List.mem_singleton]
  constructor
  · rintro ⟨hg, hk⟩
    exact ⟨Or.inl hg, hk⟩
  · rintro ⟨hg | rfl, hk⟩
    · exact ⟨hg, hk⟩
    · exact ⟨hmem, hk⟩

theorem OffsetsFor.set {X : List AppendFile} {offsets : Dict AppendFile ℕ}
    (h : OffsetsFor c₀ X offsets) (f : AppendFile) :
    OffsetsFor c₀ (X ++ [f]) (offsets.set f (c₀.appendFiles f).length) := by
  intro g k
  rw [Dict.get?_set, List.mem_append, List.mem_singleton]
  by_cases hg : g = f
  · subst hg
    simp [eq_comm]
  · rw [if_neg hg, h g k]
    simp [hg]

theorem triple_appendOffsets (c₀ : Contents) (paths X : List AppendFile) (offsets : Dict AppendFile ℕ)
    {P : SessionDir Digest → Prop} (hP : ∀ d, P d → d.appendFiles = c₀.appendFiles) :
    Triple (fun d l => OffsetsFor c₀ X offsets ∧ P d ∧ Quiet l)
      (appendOffsets paths offsets : Fs Digest _)
      (fun offsets' d l => OffsetsFor c₀ (X ++ paths) offsets' ∧ P d ∧ Quiet l)
      (fun d l => P d ∧ Quiet l) (fun d l => P d ∧ Quiet l) := by
  induction paths generalizing X offsets with
  | nil =>
    refine triple_pure fun d l h => ?_
    rwa [List.append_nil]
  | cons f paths ih =>
    have hstep := fun offsets => ih (X ++ [f]) offsets
    simp only [List.append_assoc, List.singleton_append] at hstep
    unfold appendOffsets
    split
    · rename_i hcontains
      exact triple_conseq (hstep offsets) (fun _ _ h => ⟨h.1.skip hcontains, h.2⟩)
        (fun _ _ _ h => h) (fun _ _ h => h) (fun _ _ h => h)
    · refine triple_bind (M := fun _ d l => OffsetsFor c₀ X offsets ∧ P d ∧ Quiet l) ?_ fun _ => ?_
      · refine triple_reading ?_
        rintro d l o ⟨hoff, hPd, hl⟩
        have hl' := stable_quiet l (.stat f) o trivial hl
        exact ⟨⟨hoff, hPd, hl'⟩, ⟨hPd, hl'⟩, ⟨hPd, hl'⟩⟩
      · refine triple_look fun d₁ => ?_
        refine triple_conseq (hstep (offsets.set f (d₁.appendFiles f).length)) ?_
          (fun _ _ _ h => h) (fun _ _ h => h) (fun _ _ h => h)
        rintro d l ⟨rfl, hoff, hPd, hl⟩
        rw [hP d hPd]
        exact ⟨hoff.set f, hPd, hl⟩

/-- Contents in place, no marker, backups holding the old documents. -/
structure Linking (c₀ : Contents) (linked : List Target) (d : SessionDir Digest) : Prop where
  settled : Settled c₀ d
  holds : BackupsHold c₀ d
  linked : ∀ t, (d.backups t).isSome ↔ t ∈ linked

theorem Linking.linkBackup {linked : List Target} {d : SessionDir Digest}
    (h : Linking c₀ linked d) (t : Target) :
    Linking c₀ (t :: linked) (d.linkBackup t) := by
  refine ⟨⟨h.settled.marker, h.settled.contents⟩, ?_, ?_⟩
  · intro t' b hb
    by_cases ht : t' = t
    · subst ht
      simp only [SessionDir.linkBackup_backups, Function.update_self, Option.some.injEq] at hb
      subst hb
      have hcontent : (d.documents t').content = c₀.documents t' :=
        congrFun (congrArg Contents.documents h.settled.contents) t'
      exact ⟨hcontent, fun _ => hcontent⟩
    · rw [SessionDir.linkBackup_backups, Function.update_of_ne ht] at hb
      exact h.holds t' b hb
  · intro t'
    by_cases ht : t' = t
    · subst ht
      simp
    · simp [h.linked t', ht]

theorem triple_linkBackup (t : Target) (linked : List Target) (ht : t ∉ linked) :
    Triple (fun d l => Linking c₀ linked d ∧ Quiet l) (linkBackup t : Fs Digest Unit)
      (fun _ d l => Linking c₀ (t :: linked) d ∧ Quiet l)
      (fun d l => Ready sha256 c₀ u c₀ d ∧ Quiet l)
      (fun d l => Phase sha256 c₀ u c₀ d ∧ Quiet l) := by
  unfold linkBackup
  refine triple_look fun d₁ => ?_
  split
  · rename_i hsome
    refine triple_raise ?_
    rintro d l ⟨rfl, h, _⟩
    exact absurd ((h.linked t).mp hsome) ht
  · refine triple_atomic ?_ ?_
    · rintro d l o ⟨rfl, h, hl⟩ _
      have hl' := stable_quiet l (.link t) o trivial hl
      have h' := h.linkBackup t
      exact ⟨⟨h', hl'⟩, ⟨h'.settled.ready, hl'⟩, ⟨h'.settled.ready.2, hl'⟩⟩
    · rintro d l o ⟨rfl, h, hl⟩ _
      have hl' := stable_quiet l (.link t) o trivial hl
      exact ⟨⟨h.settled.ready, hl'⟩, ⟨h.settled.ready.2, hl'⟩⟩

theorem triple_prepareTransaction {m : TransactionMarker Digest} (hm : MarkerFor sha256 c₀ u m)
    (hstate : m.state = .prepared) :
    Triple (fun d l => Linking c₀ [] d ∧ Quiet l) (prepareTransaction m : Fs Digest Unit)
      (fun _ d l => Begun sha256 c₀ u m d ∧ Quiet l)
      (fun d l => Ready sha256 c₀ u c₀ d ∧ Quiet l)
      (fun d l => Phase sha256 c₀ u c₀ d ∧ Quiet l) := by
  unfold prepareTransaction
  refine triple_bind (triple_linkBackup .metadata [] (by simp)) fun _ => ?_
  refine triple_bind (M := fun _ d l => (∃ linked, Linking c₀ linked d ∧
    .metadata ∈ linked ∧ (u.patterns.isSome → .detectedPatterns ∈ linked)) ∧ Quiet l) ?_
    fun _ => ?_
  · unfold linkPatterns
    rw [hm.replaces]
    by_cases hp : u.patterns.isSome
    · rw [if_pos hp]
      refine triple_conseq (triple_linkBackup .detectedPatterns [.metadata] (by simp))
        (fun _ _ h => h) ?_ (fun _ _ h => h) (fun _ _ h => h)
      rintro _ d l ⟨h, hl⟩
      exact ⟨⟨_, h, by simp, by simp⟩, hl⟩
    · rw [if_neg hp]
      refine triple_pure ?_
      rintro d l ⟨h, hl⟩
      exact ⟨⟨_, h, by simp, fun hp' => absurd hp' hp⟩, hl⟩
  refine triple_bind (M := fun _ d l => (∃ linked, Linking c₀ linked d ∧
    .metadata ∈ linked ∧ (u.patterns.isSome → .detectedPatterns ∈ linked)) ∧ Quiet l) ?_
    fun _ => ?_
  · unfold syncDirectory
    refine triple_reading ?_
    rintro d l o ⟨h, hl⟩
    have hl' := stable_quiet l .syncDirectory o trivial hl
    obtain ⟨linked, hlinking, _⟩ := id h
    exact ⟨⟨h, hl'⟩, ⟨hlinking.settled.ready, hl'⟩, ⟨hlinking.settled.ready.2, hl'⟩⟩
  · unfold writeMarker
    refine triple_atomic ?_ ?_
    · rintro d l o ⟨⟨linked, h, hmeta, hpatterns⟩, hl⟩ _
      have hl' := stable_quiet l (.writeMarker m.state) o trivial hl
      have hbegun : Begun sha256 c₀ u m { d with marker := some m } :=
        ⟨hm, hstate, rfl, h.settled.contents, h.holds, (h.linked .metadata).mpr hmeta,
          fun hp => (h.linked .detectedPatterns).mpr (hpatterns hp)⟩
      have hundo := hbegun.writing.undoable (by simp) (List.nil_prefix)
      exact ⟨⟨hbegun, hl'⟩, ⟨⟨h.settled.contents, Or.inr (Or.inr ⟨rfl, hundo⟩)⟩, hl'⟩,
        ⟨Or.inr (Or.inr ⟨rfl, hundo⟩), hl'⟩⟩
    · rintro d l o ⟨⟨linked, h, _⟩, hl⟩ _
      have hl' := stable_quiet l (.writeMarker m.state) o trivial hl
      exact ⟨⟨h.settled.ready, hl'⟩, ⟨h.settled.ready.2, hl'⟩⟩

/-! ## The body -/

/-- The body publishes the unit, or stops where it can be rolled back. -/
theorem triple_admitUnit (hmeta : u.metadata ≠ c₀.documents .metadata)
    (m : TransactionMarker Digest) :
    Triple (fun d l => Begun sha256 c₀ u m d ∧ Quiet l) (admitUnit sha256 u m)
      (fun m' d l => Prepared sha256 c₀ u m' ∧ Undoing sha256 c₀ u d l ∧ NoUndo l)
      (Interrupted sha256 c₀ u) (Ended sha256 c₀ u) := by
  have hundoable : ∀ (d : SessionDir Digest) l, Undoable sha256 c₀ u d → Quiet l →
      Interrupted sha256 c₀ u d l ∧ Ended sha256 c₀ u d l := fun d l h hl =>
    ⟨Or.inl ⟨h, hl⟩, Interrupted.ended hmeta (Or.inl ⟨h, hl⟩)⟩
  refine triple_assume (p := MarkerFor sha256 c₀ u m) (fun _ _ h => h.1.markerFor) fun hfor => ?_
  unfold admitUnit
  refine triple_bind (M := fun _ d l => Writing sha256 c₀ u .prepared u.appends false d ∧ Quiet l)
    ?_ fun _ => ?_
  · refine triple_conseq (triple_forM (I := fun done d l =>
      Writing sha256 c₀ u .prepared done false d ∧ Quiet l) ?_) (fun _ _ h => ⟨h.1.writing, h.2⟩)
      (fun _ _ _ h => h) (fun _ _ h => h) (fun _ _ h => h)
    intro done p after hsplit
    have hprefix : done <+: u.appends := ⟨p :: after, hsplit.symm⟩
    have hmem : p.1 ∈ u.appends.map Prod.fst := by rw [hsplit]; simp
    unfold appendSerialized
    refine triple_step ?_ ?_ ?_
    · rintro d l ⟨h, hl⟩
      exact ⟨h.append p, stable_quiet l (.append p.1) _ trivial hl⟩
    · rintro n d l ⟨h, hl⟩
      exact (hundoable _ _ (h.undoable_append hprefix hmem _)
        (stable_quiet l (.append p.1) _ trivial hl)).1
    · rintro n d l ⟨h, hl⟩
      exact (hundoable _ _ (h.undoable_append hprefix hmem _)
        (stable_quiet l (.append p.1) _ trivial hl)).2
  have hsame : ∀ {state done patternsDone} {d : SessionDir Digest} {l},
      Writing sha256 c₀ u state done patternsDone d → state ≠ .committed → done = u.appends →
      Quiet l → Interrupted sha256 c₀ u d l ∧ Ended sha256 c₀ u d l := by
    rintro state done patternsDone d l h hstate rfl hl
    exact hundoable d l (h.undoable hstate (List.prefix_refl _)) hl
  refine triple_bind (M := fun _ d l => Writing sha256 c₀ u .prepared u.appends true d ∧ Quiet l)
    ?_ fun _ => ?_
  · unfold writePatterns
    cases hp : u.patterns with
    | none =>
      refine triple_pure ?_
      rintro d l ⟨h, hl⟩
      refine ⟨⟨h.marker, h.files, h.metadata, ?_, h.backups, h.metadataBackup,
        h.patternsBackup⟩, hl⟩
      rw [h.patterns]
      simp [EvidenceUnit.publish, hp]
    | some patterns =>
      refine triple_atomic ?_ ?_
      · rintro d l o ⟨h, hl⟩ _
        have hl' := stable_quiet l (.replace .detectedPatterns) o trivial hl
        have h' := h.replacePatterns hp
        have hend := hsame h' (by simp) rfl hl'
        exact ⟨⟨h', hl'⟩, hend.1, hend.2⟩
      · rintro d l o ⟨h, hl⟩ _
        exact hsame h (by simp) rfl (stable_quiet l (.replace .detectedPatterns) o trivial hl)
  refine triple_bind (M := fun _ d l => Writing sha256 c₀ u .prepared u.appends true d ∧ Quiet l)
    ?_ fun _ => ?_
  · refine triple_reading ?_
    rintro d l o ⟨h, hl⟩
    have hl' := stable_quiet l .accountEvidence o trivial hl
    have hend := hsame h (by simp) rfl hl'
    exact ⟨⟨h, hl'⟩, hend.1, hend.2⟩
  refine triple_bind (M := fun m' d l => Prepared sha256 c₀ u m' ∧
    Writing sha256 c₀ u .evidenceWritten u.appends true d ∧ Quiet l) ?_ fun m' => ?_
  · -- the marker that expects the new metadata
    have hfor' : MarkerFor sha256 c₀ u { m with
        state := .evidenceWritten, expectedMetadata := some (sha256 u.metadata) } :=
      ⟨hfor.offsets, hfor.replaces, hfor.metadata_before, hfor.patterns_before, rfl⟩
    unfold prepareMetadata
    refine triple_bind (M := fun _ d l =>
      Writing sha256 c₀ u .evidenceWritten u.appends true d ∧ Quiet l) ?_ fun _ =>
      triple_pure fun _ _ h => ⟨⟨hfor', rfl⟩, h⟩
    unfold writeMarker
    refine triple_atomic ?_ ?_
    · rintro d l o ⟨h, hl⟩ _
      have hl' := stable_quiet l (.writeMarker .evidenceWritten) o trivial hl
      have h' : Writing sha256 c₀ u .evidenceWritten u.appends true
          { d with marker := some { m with
              state := .evidenceWritten, expectedMetadata := some (sha256 u.metadata) } } :=
        ⟨⟨_, rfl, hfor', rfl⟩, h.files, h.metadata, h.patterns, h.backups, h.metadataBackup,
          h.patternsBackup⟩
      have hend := hsame h' (by simp) rfl hl'
      exact ⟨⟨h', hl'⟩, hend.1, hend.2⟩
    · rintro d l o ⟨h, hl⟩ _
      exact hsame h (by simp) rfl (stable_quiet l (.writeMarker .evidenceWritten) o trivial hl)
  · refine triple_of_pure fun hprepared => ?_
    refine triple_bind (M := fun _ d l => Undoing sha256 c₀ u d l ∧ NoUndo l) ?_ fun _ =>
      triple_pure fun _ _ h => ⟨hprepared, h⟩
    unfold writeDocument
    refine triple_atomic ?_ ?_
    · rintro d l o ⟨h, hl⟩ ho
      have h' := h.publish hl ho
      have hno := noUndo_publish hl o
      exact ⟨⟨h', hno⟩, Or.inr ⟨h', hno⟩, h'.ended hmeta⟩
    · rintro d l o ⟨h, hl⟩ ho
      have hl' : Quiet (l ++ [(.replace .metadata, o)]) :=
        ⟨by simp [hl.publish, ho], fun f => by simp [hl.truncate f], fun t => by simp [hl.restore t]⟩
      exact hsame h (by simp) rfl hl'

/-! ## Committing -/

/-- Committing ends the transaction with the unit published. -/
theorem triple_commit {m : TransactionMarker Digest} (hm : Prepared sha256 c₀ u m) :
    Triple (fun d l => Undoing sha256 c₀ u d l ∧ NoUndo l) (commit m)
      (fun _ => Ended sha256 c₀ u) (Ended sha256 c₀ u) (Ended sha256 c₀ u) := by
  obtain ⟨hfor, hstate⟩ := hm
  have hready : ∀ (d : SessionDir Digest) l, Undoing sha256 c₀ u d l → NoUndo l →
      Ready sha256 c₀ u (u.publish c₀) d := by
    intro d l h hl
    rw [← h.contents hl]
    exact h.kept.ready
  have hended : ∀ (d : SessionDir Digest) l, Ready sha256 c₀ u (u.publish c₀) d ∧ NoUndo l →
      Ended sha256 c₀ u d l := fun d l h => ended_after h.1.2 h.2
  have hclean := @triple_cleanup Digest sha256 c₀ u NoUndo (stable_cleans stable_noUndo)
    (u.publish c₀)
  unfold commit
  rw [if_neg (by simp [hstate])]
  refine triple_bind (M := fun _ d l => Ready sha256 c₀ u (u.publish c₀) d ∧ NoUndo l)
    (triple_catching (R := fun d l => Ready sha256 c₀ u (u.publish c₀) d ∧ NoUndo l) ?_ fun _ => ?_)
    fun written => ?_
  · refine triple_bind (M := fun _ d l => Ready sha256 c₀ u (u.publish c₀) d ∧ NoUndo l) ?_
      fun _ => triple_pure fun _ _ h => h
    unfold writeMarker
    refine triple_atomic ?_ ?_
    · rintro d l o ⟨h, hl⟩ _
      have hl' := stable_noUndo l (.writeMarker .committed) o trivial hl
      have hfor' : MarkerFor sha256 c₀ u { m with state := .committed } :=
        ⟨hfor.offsets, hfor.replaces, hfor.metadata_before, hfor.patterns_before, by
          rw [hfor.expected, if_neg (by simp [hstate])]; rfl⟩
      have hkept : Kept sha256 c₀ u (u.publish c₀)
          { d with marker := some { m with state := .committed } } :=
        ⟨⟨_, rfl, hfor', by simp⟩, h.contents hl, rfl⟩
      exact ⟨⟨hkept.ready, hl'⟩, ⟨hkept.ready, hl'⟩, hended _ _ ⟨hkept.ready, hl'⟩⟩
    · rintro d l o ⟨h, hl⟩ _
      have hl' := stable_noUndo l (.writeMarker .committed) o trivial hl
      have h' := hready d l h hl
      exact ⟨⟨h', hl'⟩, hended _ _ ⟨h', hl'⟩⟩
  · refine triple_bind (M := fun _ d l => Ready sha256 c₀ u (u.publish c₀) d ∧ NoUndo l) ?_
      fun _ => triple_pure fun _ _ h => h
    exact triple_catching (triple_conseq hclean (fun _ _ h => h)
      (fun _ _ _ h => ⟨h.1.ready, h.2⟩) (fun _ _ h => h) hended)
      fun _ => triple_raise hended
  · split
    · exact triple_catching (triple_conseq hclean (fun _ _ h => h)
        (fun _ d l h => hended d l ⟨h.1.ready, h.2⟩) (fun _ _ h => h) hended)
        fun _ => triple_pure hended
    · exact triple_pure hended

variable [DecidableEq Digest]

/-- A transaction begins over settled contents, or leaves them settled. -/
theorem triple_begin :
    Triple (fun d l => Settled c₀ d ∧ Quiet l)
      (beginEvidenceTransaction sha256 (u.appends.map Prod.fst) u.patterns.isSome)
      (fun m d l => Begun sha256 c₀ u m d ∧ Quiet l)
      (fun d l => Phase sha256 c₀ u c₀ d ∧ Quiet l)
      (fun d l => Phase sha256 c₀ u c₀ d ∧ Quiet l) := by
  have hphase : ∀ (d : SessionDir Digest) l, Linking c₀ [] d ∧ Quiet l →
      Phase sha256 c₀ u c₀ d ∧ Quiet l := fun d l h => ⟨h.1.settled.ready.2, h.2⟩
  have hdocs : ∀ (d : SessionDir Digest) t, Linking c₀ [] d →
      (d.documents t).content = c₀.documents t := fun d t h =>
    congrFun (congrArg Contents.documents h.settled.contents) t
  have hdigest : ∀ t, Triple (fun d l => Linking c₀ [] d ∧ Quiet l) (digestFile sha256 t)
      (fun digest d l => digest = sha256 (c₀.documents t) ∧ Linking c₀ [] d ∧ Quiet l)
      (fun d l => Phase sha256 c₀ u c₀ d ∧ Quiet l)
      (fun d l => Phase sha256 c₀ u c₀ d ∧ Quiet l) := by
    intro t
    refine triple_conseq (triple_digestFile
      (P := fun d l => Linking c₀ [] d ∧ Quiet l) t ?_) (fun _ _ h => h) ?_ hphase hphase
    · rintro d l o ⟨h, hl⟩
      exact ⟨h, stable_quiet l (.digest t) o trivial hl⟩
    · rintro digest d l ⟨rfl, h, hl⟩
      exact ⟨by rw [hdocs d t h], h, hl⟩
  unfold beginEvidenceTransaction
  refine triple_bind (M := fun _ d l => Linking c₀ [] d ∧ Quiet l) ?_ fun _ => ?_
  · unfold recoverEvidenceTransaction
    refine triple_look fun d₁ => ?_
    cases hmarker : d₁.marker with
    | none =>
      refine triple_bind (triple_conseq
        (triple_cleanupOrphanBackups (stable_cleans stable_quiet) c₀) (fun _ _ h => h.2)
        (fun _ _ _ h => h) (fun _ _ h => ⟨h.1.ready.2, h.2⟩) (fun _ _ h => ⟨h.1.ready.2, h.2⟩))
        fun _ => triple_pure ?_
      rintro d l ⟨⟨h, hnone⟩, hl⟩
      refine ⟨⟨h, ?_, ?_⟩, hl⟩
      · intro t b hb
        rw [hnone t] at hb
        cases hb
      · intro t
        simp [hnone t]
    | some m =>
      rintro w ⟨hw, h, _⟩
      rw [← hw, h.marker] at hmarker
      cases hmarker
  refine triple_bind (triple_conseq (triple_appendOffsets c₀
    (u.appends.map Prod.fst) [] ∅
    (P := fun d => Linking c₀ [] d) ?_) ?_ (fun _ _ _ h => h) hphase hphase)
    fun offsets => ?_
  · intro d h
    exact congrArg Contents.appendFiles h.settled.contents
  · rintro d l ⟨h, hl⟩
    exact ⟨by intro f n; simp, h, hl⟩
  refine triple_of_pure fun hoffsets => ?_
  refine triple_bind (hdigest .metadata) fun metadataBefore => ?_
  refine triple_of_pure fun hbefore => ?_
  refine triple_bind (M := fun patternsBefore d l =>
    (patternsBefore
      = if u.patterns.isSome then some (sha256 (c₀.documents .detectedPatterns)) else none) ∧
    Linking c₀ [] d ∧ Quiet l) ?_ fun patternsBefore => ?_
  · unfold digestPatterns
    by_cases hp : u.patterns.isSome
    · rw [if_pos hp, if_pos hp]
      refine triple_bind (hdigest .detectedPatterns) fun digest => triple_pure ?_
      rintro d l ⟨rfl, h⟩
      exact ⟨rfl, h⟩
    · rw [if_neg hp, if_neg hp]
      exact triple_pure fun _ _ h => ⟨rfl, h⟩
  refine triple_of_pure fun hpatterns => ?_
  have hm : MarkerFor sha256 c₀ u
      ⟨.prepared, offsets, u.patterns.isSome, metadataBefore, patternsBefore, none⟩ :=
    ⟨by simpa [OffsetsFor] using hoffsets, rfl, hbefore, hpatterns, rfl⟩
  refine triple_bind (M := fun _ d l => Begun sha256 c₀ u _ d ∧ Quiet l)
    (triple_catching (triple_prepareTransaction hm rfl) fun _ => ?_) fun _ => triple_pure ?_
  · refine triple_bind (M := fun _ d l => Phase sha256 c₀ u c₀ d ∧ Quiet l) ?_ fun _ =>
      triple_raise fun _ _ h => h
    refine triple_catching (triple_conseq (triple_cleanup (stable_cleans stable_quiet) c₀)
      (fun _ _ h => h) (fun _ _ _ h => ⟨h.1.ready.2, h.2⟩) (fun _ _ h => h)
      (fun _ _ h => ⟨h.1.2, h.2⟩)) fun _ => triple_raise fun _ _ h => ⟨h.1.2, h.2⟩
  · exact fun _ _ h => h

/-! ## Rolling back -/

/-- Rolling back a published unit. -/
theorem triple_rollback_undoing (hmeta : u.metadata ≠ c₀.documents .metadata)
    {m : TransactionMarker Digest} (hm : MarkerFor sha256 c₀ u m) :
    Triple (fun d l => Undoing sha256 c₀ u d l ∧ NoUndo l) (rollbackFiles sha256 m)
      (fun _ => Ended sha256 c₀ u) (Ended sha256 c₀ u) (Ended sha256 c₀ u) := by
  have hunrestored : ∀ {l : List (FsStep × Outcome)} {label o},
      took l (.restore .detectedPatterns) = false → label ≠ .restore .detectedPatterns →
      took (l ++ [(label, o)]) (.restore .detectedPatterns) = false := by
    intro l label o hl hne
    simp [hl, hne]
  unfold rollbackFiles
  refine triple_bind (M := fun _ d l => Undoing sha256 c₀ u d l ∧ FilesBack c₀ d ∧
    took l (.restore .detectedPatterns) = false) ?_ fun _ => ?_
  · refine triple_conseq (triple_forM (I := fun before d l => Undoing sha256 c₀ u d l ∧
      (∀ g ∈ before.map Prod.fst, d.appendFiles g = c₀.appendFiles g) ∧
      took l (.restore .detectedPatterns) = false) ?_) ?_ ?_ (fun _ _ h => h) (fun _ _ h => h)
    · intro before e after hsplit
      have he : e ∈ m.appendOffsets.entries := by rw [hsplit]; simp
      unfold truncateTo
      refine triple_look fun d₁ => ?_
      split
      · refine triple_raise ?_
        rintro d l ⟨_, h, _⟩
        exact h.ended hmeta
      · refine triple_atomic ?_ ?_
        · rintro d l o ⟨rfl, h, hX, hrestore⟩ ho
          have htake : (d.appendFiles e.1).take e.2 = c₀.appendFiles e.1 := by
            rw [(hm.entry he).2, h.files]
            split
            · exact List.take_length
            · exact List.take_left
          rw [htake]
          have h' := h.truncate e.1 ho
          refine ⟨⟨h', ?_, hunrestored hrestore (by simp)⟩, h'.ended hmeta, h'.ended hmeta⟩
          intro g hg
          by_cases hge : g = e.1
          · subst hge
            simp
          · rw [SessionDir.setAppendFile_appendFiles, Function.update_of_ne hge]
            exact hX g (by simpa [hge] using hg)
        · rintro d l o ⟨rfl, h, _⟩ ho
          have h' := h.untaken (.truncate e.1) ho
          exact ⟨h'.ended hmeta, h'.ended hmeta⟩
    · rintro d l ⟨h, hl⟩
      exact ⟨h, by simp, hl.restore⟩
    · rintro _ d l ⟨h, hback, hrestore⟩
      refine ⟨h, ?_, hrestore⟩
      intro f
      by_cases hf : f ∈ u.appends.map Prod.fst
      · exact hback f (hm.exists_entry hf)
      · rw [h.files]
        split
        · rfl
        · simp [EvidenceUnit.publish, EvidenceUnit.payload_of_notMem hf]
  refine triple_bind (M := fun _ d l => Undoing sha256 c₀ u d l ∧ FilesBack c₀ d ∧
    (d.documents .detectedPatterns).content = c₀.documents .detectedPatterns) ?_ fun _ => ?_
  · unfold restorePatterns
    rw [hm.replaces, hm.patterns_before]
    by_cases hp : u.patterns.isSome
    · rw [if_pos hp, if_pos hp]
      unfold restoreBackup
      refine triple_look fun d₁ => ?_
      split
      · rename_i hsome
        refine triple_atomic ?_ ?_
        · rintro d l o ⟨rfl, h, hback, _⟩ ho
          have h' := h.restorePatterns hsome ho
          refine ⟨⟨h', fun f => ?_, (content_restoreBackup h.backups _ hsome).1⟩, h'.ended hmeta,
            h'.ended hmeta⟩
          rw [SessionDir.restoreBackup_appendFiles]
          exact hback f
        · rintro d l o ⟨rfl, h, _⟩ ho
          have h' := h.untaken (.restore .detectedPatterns) ho
          exact ⟨h'.ended hmeta, h'.ended hmeta⟩
      · rename_i hsome
        rintro w ⟨hw, h, _, hrestore⟩
        exact absurd (hw ▸ h.patternsBackup hrestore hp) hsome
    · rw [if_neg hp]
      refine triple_pure ?_
      rintro d l ⟨h, hback, hrestore⟩
      refine ⟨h, hback, ?_⟩
      have hnone : u.patterns = none := by simpa using hp
      rw [h.patterns, hrestore]
      simp [EvidenceUnit.publish, hnone]
  have hended : ∀ (d : SessionDir Digest) l, Ready sha256 c₀ u c₀ d ∧
      took l (.restore .metadata) = true → Ended sha256 c₀ u d l := fun d l h =>
    ended_before h.1.2 (Or.inr h.2)
  have hstable : Stable FsStep.cleans fun l => took l (.restore .metadata) = true := by
    intro l label o _ hl
    simp [hl]
  refine triple_bind (M := fun _ d l => Ready sha256 c₀ u c₀ d ∧
    took l (.restore .metadata) = true) ?_ fun _ => ?_
  · unfold restoreBackup
    refine triple_look fun d₁ => ?_
    split
    · refine triple_atomic ?_ ?_
      · rintro d l o ⟨rfl, h, hback, hpatterns⟩ ho
        have hready := h.restoreMetadata hback hpatterns
        have hl : took (l ++ [(FsStep.restore .metadata, o)]) (.restore .metadata) = true := by
          simp [ho]
        exact ⟨⟨hready, hl⟩, hended _ _ ⟨hready, hl⟩, hended _ _ ⟨hready, hl⟩⟩
      · rintro d l o ⟨rfl, h, _⟩ ho
        have h' := h.untaken (.restore .metadata) ho
        exact ⟨h'.ended hmeta, h'.ended hmeta⟩
    · rename_i hsome
      rintro w ⟨hw, h, _⟩
      exact absurd (hw ▸ h.metadataBackup) hsome
  refine triple_bind (M := fun _ d l => Ready sha256 c₀ u c₀ d ∧
    took l (.restore .metadata) = true) ?_ fun _ => ?_
  · unfold syncDirectory
    refine triple_reading ?_
    rintro d l o ⟨h, hl⟩
    have hl' := hstable l .syncDirectory o trivial hl
    exact ⟨⟨h, hl'⟩, hended _ _ ⟨h, hl'⟩, hended _ _ ⟨h, hl'⟩⟩
  · exact triple_conseq (triple_cleanup hstable c₀) (fun _ _ h => h)
      (fun _ d l h => hended d l ⟨h.1.ready, h.2⟩) hended hended

/-- Rolling back ends the transaction. -/
theorem triple_rollback (hmeta : u.metadata ≠ c₀.documents .metadata)
    {m : TransactionMarker Digest} (hm : MarkerFor sha256 c₀ u m) :
    Triple (Interrupted sha256 c₀ u) (rollback sha256 m)
      (fun _ => Ended sha256 c₀ u) (Ended sha256 c₀ u) (Ended sha256 c₀ u) := by
  have hstable : Stable FsStep.undoes fun l => took l (.replace .metadata) = false := by
    intro l label o hlabel hl
    have hne : label ≠ .replace .metadata := by rintro rfl; exact hlabel
    simp [hl, hne]
  unfold rollback
  refine triple_catching (R := Ended sha256 c₀ u) (triple_or ?_ (triple_rollback_undoing hmeta hm))
    fun _ => triple_raise fun _ _ h => h
  exact triple_conseq (triple_rollbackFiles hstable hm) (fun _ _ h => ⟨h.1, h.2.publish⟩)
    (fun _ _ _ h => ended_before h.1.ready.2 (Or.inl h.2))
    (fun _ _ h => ended_before h.1 (Or.inl h.2)) (fun _ _ h => ended_before h.1 (Or.inl h.2))

/-- Whatever fails and wherever the machine stops, a transaction ends in a state whose
next recovery settles on the contents before or after it, unless the rollback of a
published unit was cut short. -/
theorem triple_admitEvidence (hmeta : u.metadata ≠ c₀.documents .metadata) :
    Triple (fun d l => Settled c₀ d ∧ Quiet l) (admitEvidence sha256 u)
      (fun _ => Ended sha256 c₀ u) (Ended sha256 c₀ u) (Ended sha256 c₀ u) := by
  have hbefore : ∀ (d : SessionDir Digest) l, Phase sha256 c₀ u c₀ d ∧ Quiet l →
      Ended sha256 c₀ u d l := fun d l h => ended_before h.1 (Or.inl h.2.publish)
  unfold admitEvidence evidenceTransaction
  refine triple_bind (triple_conseq triple_begin (fun _ _ h => h) (fun _ _ _ h => h) hbefore
    hbefore) fun m => ?_
  refine triple_bind (M := fun m' d l =>
    Prepared sha256 c₀ u m' ∧ Undoing sha256 c₀ u d l ∧ NoUndo l)
    (triple_catching (R := fun d l => MarkerFor sha256 c₀ u m ∧ Interrupted sha256 c₀ u d l)
      ?_ fun _ => ?_) fun m' => triple_of_pure triple_commit
  · intro w hw r w' hrun
    have hfor := hw.1.markerFor
    have h := triple_admitUnit hmeta m w hw r w' hrun
    cases r with
    | done m' => exact h
    | raised e => exact ⟨hfor, h⟩
    | crashed => exact h
  · refine triple_of_pure fun hfor => ?_
    exact triple_bind (triple_rollback hmeta hfor) fun _ => triple_raise fun _ _ h => h

end Transaction

/-! ## Atomicity -/

/-- Crash atomicity of the transaction that admits `u`: however it fails or stops, and
however many recoveries are cut short, a recovery that returns leaves all files as they
were before the transaction or all as they are after it. -/
def CrashAtomic {Digest : Type} [DecidableEq Digest] (sha256 : Content → Digest)
    (d : SessionDir Digest) (u : EvidenceUnit) : Prop :=
  ∀ (faults : List Outcome) (interrupted : List (List Outcome)) (last : List Outcome) r w,
    run (recoverEvidenceTransaction sha256)
      (interruptedRecoveries sha256 (run (admitEvidence sha256 u) d faults).2.state interrupted) last
        = (.done r, w) →
    w.state.contents = d.contents ∨ w.state.contents = u.publish d.contents

/-- A recovery that returns leaves the contents before or after the unit exactly when the
steps of the transaction did not publish the metadata, undo an append or the patterns,
and stop before the metadata was back. -/
theorem admit_atomic_iff {Digest : Type} [DecidableEq Digest] {sha256 : Content → Digest}
    (hinj : Function.Injective sha256) (d : SessionDir Digest) (hclean : d.marker = none)
    (u : EvidenceUnit) (hmeta : u.metadata ≠ (d.documents .metadata).content)
    (faults : List Outcome) (interrupted : List (List Outcome)) (last : List Outcome)
    (r : Option TransactionRecovery) (w : World (SessionDir Digest) FsStep)
    (hrecovered : run (recoverEvidenceTransaction sha256)
      (interruptedRecoveries sha256 (run (admitEvidence sha256 u) d faults).2.state interrupted) last
        = (.done r, w)) :
    (w.state.contents = d.contents ∨ w.state.contents = u.publish d.contents) ↔
      ¬ CutShort d.contents u (run (admitEvidence sha256 u) d faults).2.log := by
  have hquiet : Quiet [] := ⟨rfl, fun _ => rfl, fun _ => rfl⟩
  obtain ⟨c, hphase, hiff⟩ := run_of_triple
    (@triple_admitEvidence Digest sha256 d.contents u _ hmeta) ⟨⟨hclean, rfl⟩, hquiet⟩ faults
  have hsettled : Settled c w.state := triple_recover hinj hmeta c _
    (phase_interruptedRecoveries hinj hmeta hphase interrupted) _ _ hrecovered
  rw [hsettled.contents]
  exact hiff

/-- A session without evidence. -/
def emptySession : SessionDir Content where
  appendFiles := fun _ => []
  documents
    | .metadata => ⟨1, [0]⟩
    | .detectedPatterns => ⟨2, [1]⟩
  backups := fun _ => none
  marker := none

/-- One received byte. -/
def oneByteUnit : EvidenceUnit := ⟨[(.uartRaw, [65])], none, [2]⟩

/-- Everything completes up to the new metadata's rename; then the sync of the directory
fails, the rollback truncates the raw log, and the machine stops. -/
def renamedThenStopped : List Outcome := List.replicate 8 .ok ++ [.fail 1, .ok, .crash 0]

/-- The recovery finds the published metadata and keeps it, without the byte. -/
theorem not_crashAtomic_oneByteUnit : ¬ CrashAtomic id emptySession oneByteUnit := by
  intro h
  have hmixed := h renamedThenStopped [] [] (some .committed) _ rfl
  rcases hmixed with hmixed | hmixed
  · have := congrFun (congrArg Contents.documents hmixed) .metadata
    exact absurd this (by decide)
  · have := congrFun (congrArg Contents.appendFiles hmixed) .uartRaw
    exact absurd this (by decide)

/-- With no failure at all the condition holds, and the recovery finds nothing to do. -/
theorem admit_atomic_oneByteUnit :
    ∃ w, run (recoverEvidenceTransaction id)
        (interruptedRecoveries id (run (admitEvidence id oneByteUnit) emptySession []).2.state []) []
          = (.done none, w) ∧
      (w.state.contents = emptySession.contents ∨
        w.state.contents = oneByteUnit.publish emptySession.contents) := by
  refine ⟨_, rfl, ?_⟩
  refine (admit_atomic_iff Function.injective_id emptySession rfl oneByteUnit (by decide) [] [] []
    none _ rfl).mpr ?_
  rintro ⟨_, _, ⟨f, htook, _⟩ | ⟨htook, _⟩⟩
  · cases f <;> exact absurd htook (by decide)
  · exact absurd htook (by decide)
