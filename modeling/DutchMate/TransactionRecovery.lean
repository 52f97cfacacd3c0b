/-
# What recovery does with an interrupted transaction

`Contents` are the files a session is made of, without the bookkeeping.  `Phase` says
which contents the next recovery of a directory settles on: a directory without a marker
keeps its contents, a marker whose metadata digest matches keeps them too, and any other
marker brings back the contents from before the transaction.  Every step of a recovery
keeps the phase, so a recovery may be cut short any number of times.
-/
import DutchMate.Transactions

open Faults

/-- The contents of a session's files, without bookkeeping. -/
structure Contents where
  appendFiles : AppendFile → Content
  documents : Target → Content

theorem Contents.ext' {c c' : Contents} (h₁ : ∀ f, c.appendFiles f = c'.appendFiles f)
    (h₂ : ∀ t, c.documents t = c'.documents t) : c = c' := by
  cases c; cases c'
  simp only [Contents.mk.injEq]
  exact ⟨funext h₁, funext h₂⟩

def SessionDir.contents {Digest : Type} (d : SessionDir Digest) : Contents :=
  ⟨d.appendFiles, fun t => (d.documents t).content⟩

namespace EvidenceUnit

/-- Everything a unit appends to a file. -/
def payload (appends : List (AppendFile × Content)) (f : AppendFile) : Content :=
  (appends.filter (·.1 = f)).flatMap Prod.snd

/-- The contents after the unit. -/
def publish (u : EvidenceUnit) (c : Contents) : Contents where
  appendFiles f := c.appendFiles f ++ payload u.appends f
  documents
    | .metadata => u.metadata
    | .detectedPatterns => u.patterns.getD (c.documents .detectedPatterns)

theorem payload_of_notMem {appends : List (AppendFile × Content)} {f : AppendFile}
    (h : f ∉ appends.map Prod.fst) : payload appends f = [] := by
  have hnil : appends.filter (·.1 = f) = [] := by
    rw [List.filter_eq_nil_iff]
    intro p hp hf
    simp only [decide_eq_true_eq] at hf
    exact h (hf ▸ List.mem_map_of_mem hp)
  rw [payload, hnil]
  rfl

theorem payload_append_singleton (appends : List (AppendFile × Content)) (p : AppendFile × Content)
    (f : AppendFile) :
    payload (appends ++ [p]) f = payload appends f ++ if p.1 = f then p.2 else [] := by
  by_cases h : p.1 = f <;> simp [payload, h]

end EvidenceUnit

section Phases

variable {Digest : Type} (sha256 : Content → Digest) (c₀ : Contents) (u : EvidenceUnit)

/-- A marker of the transaction that admits `u` over the contents `c₀`. -/
structure MarkerFor (m : TransactionMarker Digest) : Prop where
  offsets : ∀ f n, m.appendOffsets.get? f = some n ↔
    f ∈ u.appends.map Prod.fst ∧ n = (c₀.appendFiles f).length
  replaces : m.replaceDetectedPatterns = u.patterns.isSome
  metadata_before : m.metadataBefore = sha256 (c₀.documents .metadata)
  patterns_before : m.patternsBefore
    = if u.patterns.isSome then some (sha256 (c₀.documents .detectedPatterns)) else none
  expected : m.expectedMetadata
    = if m.state = .prepared then none else some (sha256 u.metadata)

/-- Backups hold the documents of `c₀`. -/
def BackupsHold (d : SessionDir Digest) : Prop :=
  ∀ t b, d.backups t = some b → b.content = c₀.documents t ∧
    (b.inode = (d.documents t).inode → (d.documents t).content = c₀.documents t)

/-- Metadata is not published and everything can be undone. -/
structure Undoable (d : SessionDir Digest) : Prop where
  marker : ∃ m, d.marker = some m ∧ MarkerFor sha256 c₀ u m ∧ m.state ≠ .committed
  metadata : (d.documents .metadata).content = c₀.documents .metadata
  grown : ∀ f, ∃ extra, d.appendFiles f = c₀.appendFiles f ++ extra
  untouched : ∀ f ∉ u.appends.map Prod.fst, d.appendFiles f = c₀.appendFiles f
  patterns : (d.documents .detectedPatterns).content = c₀.documents .detectedPatterns ∨
    u.patterns.isSome ∧ (d.backups .detectedPatterns).isSome
  backups : BackupsHold c₀ d

/-- The published metadata is in place and the marker expects it. -/
structure Kept (c : Contents) (d : SessionDir Digest) : Prop where
  marker : ∃ m, d.marker = some m ∧ MarkerFor sha256 c₀ u m ∧ m.state ≠ .prepared
  contents : d.contents = c
  metadata : c.documents .metadata = u.metadata

/-- No transaction is under way. -/
structure Settled (c : Contents) (d : SessionDir Digest) : Prop where
  marker : d.marker = none
  contents : d.contents = c

/-- The next recovery settles on the contents `c`. -/
def Phase (c : Contents) (d : SessionDir Digest) : Prop :=
  Settled c d ∨ Kept sha256 c₀ u c d ∨ (c = c₀ ∧ Undoable sha256 c₀ u d)

/-- The contents `c` are in place, whatever bookkeeping is left. -/
def Ready (c : Contents) (d : SessionDir Digest) : Prop :=
  d.contents = c ∧ Phase sha256 c₀ u c d

/-- Log properties that the steps in `S` cannot change. -/
def Stable (S : FsStep → Prop) (L : List (FsStep × Outcome) → Prop) : Prop :=
  ∀ l label o, S label → L l → L (l ++ [(label, o)])

/-- Steps of cleaning up. -/
def FsStep.cleans : FsStep → Prop
  | .unlinkBackup _ | .unlinkMarker | .syncDirectory => True
  | _ => False

variable {sha256 c₀ u}

theorem Ready.unlinkBackup {c : Contents} {d : SessionDir Digest} (h : Ready sha256 c₀ u c d)
    (t : Target) : Ready sha256 c₀ u c (d.unlinkBackup t) := by
  obtain ⟨hc, hphase⟩ := h
  refine ⟨hc, ?_⟩
  rcases hphase with hs | hk | ⟨rfl, hu⟩
  · exact Or.inl ⟨hs.marker, hs.contents⟩
  · exact Or.inr (Or.inl ⟨hk.marker, hk.contents, hk.metadata⟩)
  · refine Or.inr (Or.inr ⟨rfl, hu.marker, hu.metadata, hu.grown, hu.untouched, Or.inl ?_, ?_⟩)
    · rw [← hc]
      rfl
    · intro t' b hb
      by_cases ht : t' = t
      · subst ht
        simp at hb
      · rw [SessionDir.unlinkBackup_backups, Function.update_of_ne ht] at hb
        exact hu.backups t' b hb

theorem Ready.settled {c : Contents} {d : SessionDir Digest} (h : Ready sha256 c₀ u c d) :
    Settled c ({ d with marker := none } : SessionDir Digest) := ⟨rfl, h.1⟩

theorem Settled.ready {c : Contents} {d : SessionDir Digest} (h : Settled c d) :
    Ready sha256 c₀ u c d := ⟨h.contents, Or.inl h⟩

theorem Kept.ready {c : Contents} {d : SessionDir Digest} (h : Kept sha256 c₀ u c d) :
    Ready sha256 c₀ u c d := ⟨h.contents, Or.inr (Or.inl h)⟩

/-- A marker of a transaction that is kept says so. -/
theorem Kept.published {c : Contents} {d : SessionDir Digest} (h : Kept sha256 c₀ u c d) :
    sha256 (d.documents .metadata).content = sha256 u.metadata := by
  have := congrArg (fun c => c.documents .metadata) h.contents
  rw [← h.metadata]
  exact congrArg sha256 this

/-- Cleaning up settles on the contents in place, also when it is cut short. -/
theorem triple_cleanup {L : List (FsStep × Outcome) → Prop} (hL : Stable FsStep.cleans L)
    (c : Contents) :
    Triple (fun d l => Ready sha256 c₀ u c d ∧ L l) (cleanup : Fs Digest Unit)
      (fun _ d l => Settled c d ∧ L l)
      (fun d l => Ready sha256 c₀ u c d ∧ L l)
      (fun d l => Ready sha256 c₀ u c d ∧ L l) := by
  have hunlink : ∀ t e, Triple (fun d l => Ready sha256 c₀ u c d ∧ L l)
      (atomic (.unlinkBackup t) (·.unlinkBackup t) e : Fs Digest Unit)
      (fun _ d l => Ready sha256 c₀ u c d ∧ L l)
      (fun d l => Ready sha256 c₀ u c d ∧ L l) (fun d l => Ready sha256 c₀ u c d ∧ L l) := by
    intro t e
    refine triple_atomic ?_ ?_
    · intro d l o h _
      have hl := hL l (.unlinkBackup t) o trivial h.2
      exact ⟨⟨h.1.unlinkBackup t, hl⟩, ⟨h.1.unlinkBackup t, hl⟩, ⟨h.1.unlinkBackup t, hl⟩⟩
    · intro d l o h _
      have hl := hL l (.unlinkBackup t) o trivial h.2
      exact ⟨⟨h.1, hl⟩, ⟨h.1, hl⟩⟩
  unfold cleanup
  refine triple_bind (hunlink .metadata _) fun _ => ?_
  refine triple_bind (hunlink .detectedPatterns _) fun _ => ?_
  refine triple_bind (M := fun _ d l => Settled c d ∧ L l) ?_ fun _ => ?_
  · refine triple_atomic ?_ ?_
    · intro d l o h _
      have hl := hL l .unlinkMarker o trivial h.2
      exact ⟨⟨h.1.settled, hl⟩, ⟨h.1.settled.ready, hl⟩, ⟨h.1.settled.ready, hl⟩⟩
    · intro d l o h _
      have hl := hL l .unlinkMarker o trivial h.2
      exact ⟨⟨h.1, hl⟩, ⟨h.1, hl⟩⟩
  · refine triple_reading ?_
    intro d l o h
    have hl := hL l .syncDirectory o trivial h.2
    exact ⟨⟨h.1, hl⟩, ⟨h.1.ready, hl⟩, ⟨h.1.ready, hl⟩⟩

/-! ## Undoing -/

/-- Steps of undoing a transaction. -/
def FsStep.undoes : FsStep → Prop
  | .truncate _ | .restore _ | .digest _ => True
  | label => label.cleans

theorem stable_cleans_of_undoes {L : List (FsStep × Outcome) → Prop}
    (hL : Stable FsStep.undoes L) : Stable FsStep.cleans L := by
  intro l label o hlabel hl
  refine hL l label o ?_ hl
  cases label <;> first | exact hlabel | exact absurd hlabel id

/-- Cutting a file back to its old length keeps the transaction undoable. -/
theorem Undoable.truncate {d : SessionDir Digest} (h : Undoable sha256 c₀ u d) (f : AppendFile) :
    Undoable sha256 c₀ u (d.setAppendFile f (c₀.appendFiles f)) := by
  refine ⟨h.marker, h.metadata, ?_, ?_, h.patterns, h.backups⟩
  · intro g
    by_cases hg : g = f
    · subst hg
      exact ⟨[], by simp⟩
    · rw [SessionDir.setAppendFile_appendFiles, Function.update_of_ne hg]
      exact h.grown g
  · intro g hout
    by_cases hg : g = f
    · subst hg
      simp
    · rw [SessionDir.setAppendFile_appendFiles, Function.update_of_ne hg]
      exact h.untouched g hout

/-- Renaming a backup back brings the old document, unless both are one file already. -/
theorem content_restoreBackup {d : SessionDir Digest} (h : BackupsHold c₀ d) (t : Target)
    (hb : (d.backups t).isSome) :
    ((d.restoreBackup t).documents t).content = c₀.documents t ∧
      BackupsHold c₀ (d.restoreBackup t) ∧
      ∀ t' ≠ t, (d.restoreBackup t).documents t' = d.documents t' ∧
        (d.restoreBackup t).backups t' = d.backups t' := by
  obtain ⟨b, hb⟩ := Option.isSome_iff_exists.mp hb
  obtain ⟨hcontent, hsame⟩ := h t b hb
  unfold SessionDir.restoreBackup
  simp only [hb]
  split
  · rename_i hinode
    exact ⟨hsame hinode, h, fun _ _ => ⟨rfl, rfl⟩⟩
  · refine ⟨by simp [hcontent], ?_, ?_⟩
    · intro t' b' hb'
      by_cases ht : t' = t
      · subst ht
        simp at hb'
      · simp only [Function.update_of_ne ht] at hb' ⊢
        exact h t' b' hb'
    · intro t' ht
      simp [Function.update_of_ne ht]

theorem Undoable.restoreBackup {d : SessionDir Digest} (h : Undoable sha256 c₀ u d) (t : Target)
    (hb : (d.backups t).isSome) : Undoable sha256 c₀ u (d.restoreBackup t) := by
  obtain ⟨hcontent, hbackups, hother⟩ := content_restoreBackup h.backups t hb
  refine ⟨by simpa using h.marker, ?_, by simpa using h.grown, by simpa using h.untouched, ?_,
    hbackups⟩
  · cases t with
    | metadata => exact hcontent
    | detectedPatterns => rw [(hother .metadata (by simp)).1]; exact h.metadata
  · cases t with
    | metadata =>
      rw [(hother .detectedPatterns (by simp)).1, (hother .detectedPatterns (by simp)).2]
      exact h.patterns
    | detectedPatterns => exact Or.inl hcontent

/-- The append files are as they were. -/
def FilesBack (c₀ : Contents) (d : SessionDir Digest) : Prop :=
  ∀ f, d.appendFiles f = c₀.appendFiles f

theorem Undoable.ready {d : SessionDir Digest} (h : Undoable sha256 c₀ u d)
    (hfiles : FilesBack c₀ d)
    (hpatterns : (d.documents .detectedPatterns).content = c₀.documents .detectedPatterns) :
    Ready sha256 c₀ u c₀ d := by
  refine ⟨Contents.ext' hfiles ?_, Or.inr (Or.inr ⟨rfl, h⟩)⟩
  intro t
  cases t with
  | metadata => exact h.metadata
  | detectedPatterns => exact hpatterns

/-- Truncating one file of the marker. -/
theorem triple_truncateTo {L : List (FsStep × Outcome) → Prop} (hL : Stable FsStep.undoes L)
    (f : AppendFile) (X : List AppendFile) :
    Triple
      (fun d l => Undoable sha256 c₀ u d ∧ (∀ g ∈ X, d.appendFiles g = c₀.appendFiles g) ∧ L l)
      (truncateTo f (c₀.appendFiles f).length : Fs Digest Unit)
      (fun _ d l =>
        Undoable sha256 c₀ u d ∧ (∀ g ∈ X ++ [f], d.appendFiles g = c₀.appendFiles g) ∧ L l)
      (fun d l => Undoable sha256 c₀ u d ∧ L l) (fun d l => Undoable sha256 c₀ u d ∧ L l) := by
  unfold truncateTo
  refine triple_look fun d₁ => ?_
  split
  · rename_i hshort
    refine triple_raise ?_
    rintro d l ⟨rfl, h, _, hl⟩
    exact ⟨h, hl⟩
  · refine triple_atomic ?_ ?_
    · rintro d l o ⟨rfl, h, hX, hl⟩ _
      obtain ⟨extra, hgrown⟩ := h.grown f
      have htake : (d.appendFiles f).take (c₀.appendFiles f).length = c₀.appendFiles f := by
        rw [hgrown, List.take_left]
      have hl' := hL l (.truncate f) o trivial hl
      rw [htake]
      refine ⟨⟨h.truncate f, ?_, hl'⟩, ⟨h.truncate f, hl'⟩, ⟨h.truncate f, hl'⟩⟩
      intro g hg
      by_cases hgf : g = f
      · subst hgf
        simp
      · rw [SessionDir.setAppendFile_appendFiles, Function.update_of_ne hgf]
        exact hX g (by simpa [hgf] using hg)
    · rintro d l o ⟨rfl, h, _, hl⟩ _
      have hl' := hL l (.truncate f) o trivial hl
      exact ⟨⟨h, hl'⟩, ⟨h, hl'⟩⟩

/-- The entries of a marker's offsets. -/
theorem MarkerFor.entry {m : TransactionMarker Digest} (hm : MarkerFor sha256 c₀ u m)
    {e : AppendFile × ℕ} (he : e ∈ m.appendOffsets.entries) :
    e.1 ∈ u.appends.map Prod.fst ∧ e.2 = (c₀.appendFiles e.1).length := by
  rw [← hm.offsets, Dict.get?_eq_some_iff]
  exact he

theorem MarkerFor.exists_entry {m : TransactionMarker Digest} (hm : MarkerFor sha256 c₀ u m)
    {f : AppendFile} (hf : f ∈ u.appends.map Prod.fst) :
    f ∈ m.appendOffsets.entries.map Prod.fst := by
  have := (hm.offsets f _).mpr ⟨hf, rfl⟩
  rw [Dict.get?_eq_some_iff] at this
  exact List.mem_map_of_mem (f := Prod.fst) this

/-- Cutting all append files back. -/
theorem triple_truncateAll {L : List (FsStep × Outcome) → Prop} (hL : Stable FsStep.undoes L)
    {m : TransactionMarker Digest} (hm : MarkerFor sha256 c₀ u m) :
    Triple (fun d l => Undoable sha256 c₀ u d ∧ L l)
      (m.appendOffsets.entries.forM fun e => truncateTo e.1 e.2 : Fs Digest Unit)
      (fun _ d l => Undoable sha256 c₀ u d ∧ FilesBack c₀ d ∧ L l)
      (fun d l => Undoable sha256 c₀ u d ∧ L l) (fun d l => Undoable sha256 c₀ u d ∧ L l) := by
  refine triple_conseq (triple_forM (I := fun before d l => Undoable sha256 c₀ u d ∧
    (∀ g ∈ before.map Prod.fst, d.appendFiles g = c₀.appendFiles g) ∧ L l) ?_) ?_ ?_
    (fun _ _ h => h) (fun _ _ h => h)
  · intro before e after hsplit
    have he : e ∈ m.appendOffsets.entries := by rw [hsplit]; simp
    rw [(hm.entry he).2, List.map_append]
    exact triple_truncateTo hL e.1 (before.map Prod.fst)
  · rintro d l ⟨h, hl⟩
    exact ⟨h, by simp, hl⟩
  · rintro _ d l ⟨h, hback, hl⟩
    refine ⟨h, ?_, hl⟩
    intro f
    by_cases hf : f ∈ u.appends.map Prod.fst
    · exact hback f (hm.exists_entry hf)
    · exact h.untouched f hf

theorem triple_digestFile {P : Assertion (SessionDir Digest) FsStep} (t : Target)
    (hP : ∀ d l o, P d l → P d (l ++ [(.digest t, o)])) :
    Triple P (digestFile sha256 t)
      (fun digest d l => digest = sha256 (d.documents t).content ∧ P d l) P P := by
  unfold digestFile
  refine triple_bind (M := fun _ => P) ?_ fun _ => ?_
  · refine triple_reading ?_
    intro d l o h
    exact ⟨hP d l o h, hP d l o h, hP d l o h⟩
  · refine triple_look fun d₁ => triple_pure ?_
    rintro d l ⟨rfl, h⟩
    exact ⟨rfl, h⟩

/-- A marker of the transaction passes its checks. -/
theorem MarkerFor.checkMarker_eq {m : TransactionMarker Digest} (hm : MarkerFor sha256 c₀ u m) :
    (checkMarker m : Fs Digest Unit) = pure () := by
  have h₁ : ¬ m.replaceDetectedPatterns ≠ m.patternsBefore.isSome := by
    rw [hm.replaces, hm.patterns_before]
    by_cases hp : u.patterns.isSome <;> simp [hp]
  have h₂ : ¬ (m.state = .prepared ∧ m.expectedMetadata.isSome) := by
    rintro ⟨hs, he⟩
    rw [hm.expected, if_pos hs] at he
    simp at he
  have h₃ : ¬ (m.state ≠ .prepared ∧ m.expectedMetadata.isNone) := by
    rintro ⟨hs, he⟩
    rw [hm.expected, if_neg hs] at he
    simp at he
  rw [checkMarker, if_neg h₁, if_neg h₂, if_neg h₃]

/-- Removing orphan backups keeps settled contents. -/
theorem triple_cleanupOrphanBackups {L : List (FsStep × Outcome) → Prop}
    (hL : Stable FsStep.cleans L) (c : Contents) :
    Triple (fun d l => Settled c d ∧ L l) (cleanupOrphanBackups : Fs Digest Unit)
      (fun _ d l => (Settled c d ∧ ∀ t, d.backups t = none) ∧ L l)
      (fun d l => Settled c d ∧ L l) (fun d l => Settled c d ∧ L l) := by
  have hremove : ∀ (t : Target) (X : List Target), Triple
      (fun d l => (Settled c d ∧ ∀ t' ∈ X, d.backups t' = none) ∧ L l)
      (restoreOrRemoveOrphan t : Fs Digest Unit)
      (fun _ d l => (Settled c d ∧ ∀ t' ∈ t :: X, d.backups t' = none) ∧ L l)
      (fun d l => Settled c d ∧ L l) (fun d l => Settled c d ∧ L l) := by
    intro t X
    unfold restoreOrRemoveOrphan
    refine triple_look fun d₁ => ?_
    split
    · refine triple_atomic ?_ ?_
      · rintro d l o ⟨rfl, ⟨h, hX⟩, hl⟩ _
        have hl' := hL l (.unlinkBackup t) o trivial hl
        have hs : Settled c (d.unlinkBackup t) := ⟨h.marker, h.contents⟩
        refine ⟨⟨⟨hs, ?_⟩, hl'⟩, ⟨hs, hl'⟩, ⟨hs, hl'⟩⟩
        intro t' ht'
        by_cases htt : t' = t
        · subst htt
          simp
        · rw [SessionDir.unlinkBackup_backups, Function.update_of_ne htt]
          exact hX t' (by simpa [htt] using ht')
      · rintro d l o ⟨rfl, ⟨h, _⟩, hl⟩ _
        have hl' := hL l (.unlinkBackup t) o trivial hl
        exact ⟨⟨h, hl'⟩, ⟨h, hl'⟩⟩
    · rename_i hnone
      refine triple_pure ?_
      rintro d l ⟨rfl, ⟨h, hX⟩, hl⟩
      refine ⟨⟨h, ?_⟩, hl⟩
      intro t' ht'
      rcases List.mem_cons.mp ht' with rfl | ht'
      · simpa using hnone
      · exact hX t' ht'
  unfold cleanupOrphanBackups
  refine triple_look fun d₁ => ?_
  split
  · rename_i hnone
    refine triple_pure ?_
    rintro d l ⟨rfl, h, hl⟩
    simp only [Bool.and_eq_true, Option.isNone_iff_eq_none] at hnone
    refine ⟨⟨h, fun t => ?_⟩, hl⟩
    cases t
    · exact hnone.1
    · exact hnone.2
  · refine triple_bind (triple_conseq (hremove .metadata [])
      (fun d l h => ⟨⟨h.2.1, by simp⟩, h.2.2⟩) (fun _ _ _ h => h) (fun _ _ h => h)
      (fun _ _ h => h)) fun _ => ?_
    refine triple_bind (hremove .detectedPatterns [.metadata]) fun _ => ?_
    refine triple_reading ?_
    rintro d l o ⟨⟨h, hX⟩, hl⟩
    have hl' := hL l .syncDirectory o trivial hl
    refine ⟨⟨⟨h, fun t => ?_⟩, hl'⟩, ⟨h, hl'⟩, ⟨h, hl'⟩⟩
    cases t
    · exact hX _ (by simp)
    · exact hX _ (by simp)

variable [DecidableEq Digest]

/-- Bringing one document back. -/
theorem triple_restoreBackup {L : List (FsStep × Outcome) → Prop} (hL : Stable FsStep.undoes L)
    (t : Target) {P : SessionDir Digest → Prop}
    (hP : ∀ d, (d.backups t).isSome → Undoable sha256 c₀ u d → P d → P (d.restoreBackup t))
    (hnone : ∀ d, Undoable sha256 c₀ u d → d.backups t = none →
      (d.documents t).content = c₀.documents t) :
    Triple (fun d l => Undoable sha256 c₀ u d ∧ P d ∧ L l)
      (restoreBackup sha256 t (sha256 (c₀.documents t)))
      (fun _ d l => Undoable sha256 c₀ u d ∧ (d.documents t).content = c₀.documents t ∧
        P d ∧ L l)
      (fun d l => Undoable sha256 c₀ u d ∧ L l) (fun d l => Undoable sha256 c₀ u d ∧ L l) := by
  unfold restoreBackup
  refine triple_look fun d₁ => ?_
  split
  · rename_i hsome
    refine triple_atomic ?_ ?_
    · rintro d l o ⟨rfl, h, hPd, hl⟩ _
      have hl' := hL l (.restore t) o trivial hl
      have hu := h.restoreBackup t hsome
      exact ⟨⟨hu, (content_restoreBackup h.backups t hsome).1, hP d hsome h hPd, hl'⟩,
        ⟨hu, hl'⟩, ⟨hu, hl'⟩⟩
    · rintro d l o ⟨rfl, h, _, hl⟩ _
      have hl' := hL l (.restore t) o trivial hl
      exact ⟨⟨h, hl'⟩, ⟨h, hl'⟩⟩
  · rename_i hsome
    refine triple_bind (triple_conseq (triple_digestFile
      (P := fun d l => Undoable sha256 c₀ u d ∧ P d ∧ d = d₁ ∧ L l) t ?_) ?_ (fun _ _ _ h => h)
      (fun _ _ h => ⟨h.1, h.2.2.2⟩) (fun _ _ h => ⟨h.1, h.2.2.2⟩)) fun digest => ?_
    · rintro d l o ⟨h, hPd, hd, hl⟩
      exact ⟨h, hPd, hd, hL l (.digest t) o trivial hl⟩
    · rintro d l ⟨rfl, h, hPd, hl⟩
      exact ⟨h, hPd, rfl, hl⟩
    · split
      · refine triple_raise ?_
        rintro d l ⟨_, h, _, _, hl⟩
        exact ⟨h, hl⟩
      · refine triple_pure ?_
        rintro d l ⟨_, h, hPd, rfl, hl⟩
        exact ⟨h, hnone d h (by simpa using hsome), hPd, hl⟩

/-- Rolling back what can be undone settles on the old contents. -/
theorem triple_rollbackFiles {L : List (FsStep × Outcome) → Prop} (hL : Stable FsStep.undoes L)
    {m : TransactionMarker Digest} (hm : MarkerFor sha256 c₀ u m) :
    Triple (fun d l => Undoable sha256 c₀ u d ∧ L l) (rollbackFiles sha256 m)
      (fun _ d l => Settled c₀ d ∧ L l)
      (fun d l => Phase sha256 c₀ u c₀ d ∧ L l) (fun d l => Phase sha256 c₀ u c₀ d ∧ L l) := by
  have hphase : ∀ (d : SessionDir Digest) l, Undoable sha256 c₀ u d ∧ L l →
      Phase sha256 c₀ u c₀ d ∧ L l := fun d l h => ⟨Or.inr (Or.inr ⟨rfl, h.1⟩), h.2⟩
  have hready : ∀ (d : SessionDir Digest) l, Ready sha256 c₀ u c₀ d ∧ L l →
      Phase sha256 c₀ u c₀ d ∧ L l := fun d l h => ⟨h.1.2, h.2⟩
  unfold rollbackFiles
  refine triple_bind (triple_conseq (triple_truncateAll hL hm) (fun _ _ h => h)
    (fun _ _ _ h => h) hphase hphase) fun _ => ?_
  refine triple_bind (M := fun _ d l => Undoable sha256 c₀ u d ∧
    (d.documents .detectedPatterns).content = c₀.documents .detectedPatterns ∧
    FilesBack c₀ d ∧ L l) ?_ fun _ => ?_
  · -- patterns
    unfold restorePatterns
    rw [hm.replaces, hm.patterns_before]
    by_cases hp : u.patterns.isSome
    · rw [if_pos hp, if_pos hp]
      refine triple_conseq (triple_restoreBackup hL .detectedPatterns (P := FilesBack c₀) ?_ ?_)
        (fun _ _ h => h) (fun _ _ _ h => h) hphase hphase
      · intro d _ _ hback f
        rw [SessionDir.restoreBackup_appendFiles]
        exact hback f
      · intro d h hnone
        rcases h.patterns with hsame | ⟨_, hsome⟩
        · exact hsame
        · rw [hnone] at hsome
          simp at hsome
    · rw [if_neg hp]
      refine triple_pure ?_
      rintro d l ⟨h, hback, hl⟩
      refine ⟨h, ?_, hback, hl⟩
      rcases h.patterns with hsame | ⟨hsome, _⟩
      · exact hsame
      · exact absurd hsome hp
  refine triple_bind (M := fun _ d l => Ready sha256 c₀ u c₀ d ∧ L l) ?_ fun _ => ?_
  · rw [hm.metadata_before]
    refine triple_conseq (triple_restoreBackup hL .metadata (P := fun d => FilesBack c₀ d ∧
      (d.documents .detectedPatterns).content = c₀.documents .detectedPatterns) ?_ ?_)
      (fun _ _ h => ⟨h.1, ⟨h.2.2.1, h.2.1⟩, h.2.2.2⟩)
      (fun _ _ _ h => ⟨h.1.ready h.2.2.1.1 h.2.2.1.2, h.2.2.2⟩) hphase hphase
    · rintro d hsome h ⟨hback, hpatterns⟩
      refine ⟨fun f => by rw [SessionDir.restoreBackup_appendFiles]; exact hback f, ?_⟩
      rw [((content_restoreBackup h.backups .metadata hsome).2.2 .detectedPatterns (by simp)).1]
      exact hpatterns
    · intro d h _
      exact h.metadata
  refine triple_bind (M := fun _ d l => Ready sha256 c₀ u c₀ d ∧ L l) ?_ fun _ => ?_
  · unfold syncDirectory
    refine triple_reading ?_
    intro d l o h
    have hl := hL l .syncDirectory o trivial h.2
    exact ⟨⟨h.1, hl⟩, hready _ _ ⟨h.1, hl⟩, hready _ _ ⟨h.1, hl⟩⟩
  · exact triple_conseq (triple_cleanup (stable_cleans_of_undoes hL) c₀) (fun _ _ h => h)
      (fun _ _ _ h => h) hready hready

/-! ## Recovery -/

/-- Comparing the digest on disk with the expected one. -/
theorem triple_metadataMatches {m : TransactionMarker Digest} (hm : MarkerFor sha256 c₀ u m)
    (hstate : m.state = .evidenceWritten) {P : SessionDir Digest → Prop} (b : Bool)
    (hP : ∀ d, P d → decide (sha256 (d.documents .metadata).content = sha256 u.metadata) = b) :
    Triple (fun d _ => P d) (metadataMatchesExpected sha256 m)
      (fun published d _ => published = b ∧ P d) (fun d _ => P d) (fun d _ => P d) := by
  have hexpected : m.expectedMetadata = some (sha256 u.metadata) := by
    rw [hm.expected, if_neg (by simp [hstate])]
  unfold metadataMatchesExpected
  rw [hexpected]
  refine triple_bind (triple_digestFile .metadata fun _ _ _ h => h) fun digest => ?_
  refine triple_pure ?_
  rintro d l ⟨rfl, h⟩
  exact ⟨hP d h, h⟩

/-- Resolving a marker settles on the contents its phase promises. -/
theorem triple_resolveMarker (hinj : Function.Injective sha256)
    (hmeta : u.metadata ≠ c₀.documents .metadata) (c : Contents) (m : TransactionMarker Digest) :
    Triple (fun d _ => d.marker = some m ∧ Phase sha256 c₀ u c d) (resolveMarker sha256 m)
      (fun _ d _ => Settled c d)
      (fun d _ => Phase sha256 c₀ u c d) (fun d _ => Phase sha256 c₀ u c d) := by
  have hstable : Stable FsStep.undoes fun _ => True := fun _ _ _ _ _ => trivial
  have hclean : Triple (fun d _ => Kept sha256 c₀ u c d) (cleanup : Fs Digest Unit)
      (fun _ d _ => Settled c d) (fun d _ => Phase sha256 c₀ u c d)
      (fun d _ => Phase sha256 c₀ u c d) :=
    triple_conseq (triple_cleanup (stable_cleans_of_undoes hstable) c)
      (fun _ _ h => ⟨h.ready, trivial⟩) (fun _ _ _ h => h.1) (fun _ _ h => h.1.2)
      (fun _ _ h => h.1.2)
  have hkept : MarkerFor sha256 c₀ u m → m.state ≠ .prepared →
      Triple (fun d _ => Kept sha256 c₀ u c d) (resolveMarker sha256 m) (fun _ d _ => Settled c d)
        (fun d _ => Phase sha256 c₀ u c d) (fun d _ => Phase sha256 c₀ u c d) := by
    intro hm hstate
    unfold resolveMarker
    rw [hm.checkMarker_eq]
    refine triple_bind (M := fun _ d _ => Kept sha256 c₀ u c d) (triple_pure fun _ _ h => h)
      fun _ => ?_
    by_cases hcommitted : m.state = .committed
    · rw [if_pos hcommitted]
      exact triple_bind hclean fun _ => triple_pure fun _ _ h => h
    · have hwritten : m.state = .evidenceWritten := by
        cases hs : m.state with
        | prepared => exact absurd hs hstate
        | evidenceWritten => rfl
        | committed => exact absurd hs hcommitted
      rw [if_neg hcommitted, metadataPublished, if_pos hwritten]
      refine triple_bind (triple_conseq (triple_metadataMatches hm hwritten
        (P := fun d => Kept sha256 c₀ u c d) true ?_) (fun _ _ h => h) (fun _ _ _ h => h)
        (fun _ _ h => h.ready.2) (fun _ _ h => h.ready.2)) fun published => ?_
      · intro d h
        rw [h.published, decide_eq_true rfl]
      · refine triple_of_pure fun hpublished => ?_
        simp only [if_pos hpublished]
        exact triple_bind hclean fun _ => triple_pure fun _ _ h => h
  have hundo : MarkerFor sha256 c₀ u m → m.state ≠ .committed →
      Triple (fun d _ => Undoable sha256 c₀ u d) (resolveMarker sha256 m)
        (fun _ d _ => Settled c₀ d)
        (fun d _ => Phase sha256 c₀ u c₀ d) (fun d _ => Phase sha256 c₀ u c₀ d) := by
    intro hm hstate
    have hroll : Triple (fun d _ => Undoable sha256 c₀ u d) (rollbackFiles sha256 m)
        (fun _ d _ => Settled c₀ d) (fun d _ => Phase sha256 c₀ u c₀ d)
        (fun d _ => Phase sha256 c₀ u c₀ d) :=
      triple_conseq (triple_rollbackFiles hstable hm) (fun _ _ h => ⟨h, trivial⟩)
        (fun _ _ _ h => h.1) (fun _ _ h => h.1) (fun _ _ h => h.1)
    unfold resolveMarker
    rw [hm.checkMarker_eq]
    refine triple_bind (M := fun _ d _ => Undoable sha256 c₀ u d) (triple_pure fun _ _ h => h)
      fun _ => ?_
    rw [if_neg hstate, metadataPublished]
    refine triple_bind (M := fun published d _ => published = false ∧ Undoable sha256 c₀ u d) ?_
      fun published => ?_
    · by_cases hwritten : m.state = .evidenceWritten
      · rw [if_pos hwritten]
        refine triple_conseq (triple_metadataMatches hm hwritten
          (P := fun d => Undoable sha256 c₀ u d) false ?_) (fun _ _ h => h) (fun _ _ _ h => h)
          (fun _ _ h => Or.inr (Or.inr ⟨rfl, h⟩)) (fun _ _ h => Or.inr (Or.inr ⟨rfl, h⟩))
        intro d h
        rw [h.metadata]
        exact decide_eq_false fun heq => hmeta (hinj heq).symm
      · rw [if_neg hwritten]
        exact triple_pure fun _ _ h => ⟨rfl, h⟩
    · refine triple_of_pure fun hpublished => ?_
      simp only [hpublished, Bool.false_eq_true, if_false]
      exact triple_bind hroll fun _ => triple_pure fun _ _ h => h
  intro w hw r w' hrun
  obtain ⟨hmarker, hs | hk | ⟨rfl, hu⟩⟩ := hw
  · rw [hs.marker] at hmarker
    cases hmarker
  · obtain ⟨m', hm', hfor, hstate⟩ := hk.marker
    rw [hmarker] at hm'
    cases hm'
    exact hkept hfor hstate w hk r w' hrun
  · obtain ⟨m', hm', hfor, hstate⟩ := hu.marker
    rw [hmarker] at hm'
    cases hm'
    exact hundo hfor hstate w hu r w' hrun

/-- A recovery settles on the contents its phase promises, or is cut short in that
phase. -/
theorem triple_recover (hinj : Function.Injective sha256)
    (hmeta : u.metadata ≠ c₀.documents .metadata) (c : Contents) :
    Triple (fun d _ => Phase sha256 c₀ u c d) (recoverEvidenceTransaction sha256)
      (fun _ d _ => Settled c d)
      (fun d _ => Phase sha256 c₀ u c d) (fun d _ => Phase sha256 c₀ u c d) := by
  unfold recoverEvidenceTransaction
  refine triple_look fun d₁ => ?_
  cases hmarker : d₁.marker with
  | none =>
    refine triple_bind (triple_conseq (triple_cleanupOrphanBackups (L := fun _ => True)
      (fun _ _ _ _ _ => trivial) c) ?_ (fun _ _ _ h => h.1.1) (fun _ _ h => Or.inl h.1)
      (fun _ _ h => Or.inl h.1)) fun _ => triple_pure fun _ _ h => h
    rintro d l ⟨rfl, hs | hk | ⟨_, hu⟩⟩
    · exact ⟨hs, trivial⟩
    · obtain ⟨m, hm, _⟩ := hk.marker
      rw [hmarker] at hm
      cases hm
    · obtain ⟨m, hm, _⟩ := hu.marker
      rw [hmarker] at hm
      cases hm
  | some m =>
    refine triple_catching (R := fun d _ => Phase sha256 c₀ u c d) ?_ fun _ =>
      triple_raise fun _ _ h => h
    refine triple_bind (M := fun _ d _ => d.marker = some m ∧ Phase sha256 c₀ u c d) ?_
      fun _ => ?_
    · refine triple_reading ?_
      rintro d l o ⟨rfl, h⟩
      exact ⟨⟨hmarker, h⟩, h, h⟩
    · exact triple_bind (triple_resolveMarker hinj hmeta c m) fun _ => triple_pure fun _ _ h => h

/-- Interrupted recoveries, each leaving its directory to the next. -/
def interruptedRecoveries (sha256 : Content → Digest) (d : SessionDir Digest)
    (schedules : List (List Outcome)) : SessionDir Digest :=
  schedules.foldl (fun d schedule => (run (recoverEvidenceTransaction sha256) d schedule).2.state) d

theorem phase_run_recover (hinj : Function.Injective sha256)
    (hmeta : u.metadata ≠ c₀.documents .metadata) {c : Contents} {d : SessionDir Digest}
    (h : Phase sha256 c₀ u c d) (schedule : List Outcome) :
    Phase sha256 c₀ u c (run (recoverEvidenceTransaction sha256) d schedule).2.state := by
  have hphase := triple_conseq (triple_recover hinj hmeta c) (fun _ _ h => h)
    (fun _ _ _ h => (Or.inl h : Phase sha256 c₀ u c _)) (fun _ _ h => h) (fun _ _ h => h)
  exact run_of_triple hphase h schedule

/-- However many recoveries are cut short, the phase stays. -/
theorem phase_interruptedRecoveries (hinj : Function.Injective sha256)
    (hmeta : u.metadata ≠ c₀.documents .metadata) {c : Contents} {d : SessionDir Digest}
    (h : Phase sha256 c₀ u c d) (schedules : List (List Outcome)) :
    Phase sha256 c₀ u c (interruptedRecoveries sha256 d schedules) := by
  induction schedules generalizing d with
  | nil => exact h
  | cons schedule schedules ih => exact ih (phase_run_recover hinj hmeta h schedule)

end Phases
