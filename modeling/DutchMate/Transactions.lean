/-
# Crash-recoverable evidence transactions

One admitted unit appends to several files of a session directory, may replace
`detected_patterns.json` and replaces `metadata.json`.  A marker and hard-link backups
of the two documents let a later `recoverEvidenceTransaction` finish or undo it.  Every
filesystem step may fail or be cut by a crash; a replacement may fail after its rename,
when the sync of the directory fails.
-/
import DutchMate.Dict
import DutchMate.Faults
import Mathlib.Logic.Function.Basic

open Faults

abbrev Content := List UInt8

/-- The files evidence is appended to. -/
inductive AppendFile where
  | uartRaw
  | uartEvents
  | operationEvents
  | hardwareEvents
  | connectionEvents
  deriving DecidableEq, Repr

def AppendFile.name : AppendFile → String
  | .uartRaw => "uart_raw.log"
  | .uartEvents => "uart_events.jsonl"
  | .operationEvents => "operation_events.jsonl"
  | .hardwareEvents => "hardware_events.jsonl"
  | .connectionEvents => "connection_events.jsonl"

/-- The documents a transaction replaces as a whole. -/
inductive Target where
  | metadata
  | detectedPatterns
  deriving DecidableEq, Repr

def Target.name : Target → String
  | .metadata => "metadata.json"
  | .detectedPatterns => "detected_patterns.json"

def markerName : String := ".evidence-transaction.json"

/-- A document with the inode its name points to. -/
structure Document where
  inode : ℕ
  content : Content
  deriving DecidableEq, Repr

inductive TransactionState where
  | prepared
  | evidenceWritten
  | committed
  deriving DecidableEq, Repr

/-- The transaction marker, `Digest` being the type of SHA-256 digests. -/
structure TransactionMarker (Digest : Type) where
  state : TransactionState
  appendOffsets : Dict AppendFile ℕ
  replaceDetectedPatterns : Bool
  metadataBefore : Digest
  patternsBefore : Option Digest
  expectedMetadata : Option Digest := none
  deriving DecidableEq

/-- What a session directory holds. -/
structure SessionDir (Digest : Type) where
  appendFiles : AppendFile → Content
  documents : Target → Document
  backups : Target → Option Document
  marker : Option (TransactionMarker Digest)

inductive StoreError where
  | persistence (operation path : String) (terminalizationSafe : Bool)
  | value (message : String)
  | runtime (message : String)
  deriving DecidableEq, Repr

/-- The filesystem steps a schedule speaks about. -/
inductive FsStep where
  | stat (file : AppendFile)
  | digest (target : Target)
  | readMarker
  | link (target : Target)
  | syncDirectory
  | writeMarker (state : TransactionState)
  | append (file : AppendFile)
  | accountEvidence
  | replace (target : Target)
  | truncate (file : AppendFile)
  | restore (target : Target)
  | unlinkBackup (target : Target)
  | unlinkMarker
  deriving DecidableEq, Repr

namespace SessionDir

variable {Digest : Type}

/-- An inode no name of the directory points to. -/
def freshInode (d : SessionDir Digest) : ℕ :=
  [d.documents .metadata, d.documents .detectedPatterns].foldr (max ·.inode)
    ([d.backups .metadata, d.backups .detectedPatterns].foldr
      (fun b n => max (b.elim 0 Document.inode) n) 0) + 1

def setAppendFile (d : SessionDir Digest) (f : AppendFile) (c : Content) : SessionDir Digest :=
  { d with appendFiles := Function.update d.appendFiles f c }

/-- A temporary file renamed over the document: a new inode. -/
def replaceDocument (d : SessionDir Digest) (t : Target) (c : Content) : SessionDir Digest :=
  { d with documents := Function.update d.documents t ⟨d.freshInode, c⟩ }

/-- A hard link to the document. -/
def linkBackup (d : SessionDir Digest) (t : Target) : SessionDir Digest :=
  { d with backups := Function.update d.backups t (some (d.documents t)) }

def unlinkBackup (d : SessionDir Digest) (t : Target) : SessionDir Digest :=
  { d with backups := Function.update d.backups t none }

/-- Rename the backup over the document.  Renaming a name over another name of the
same inode does nothing, and both names stay. -/
def restoreBackup (d : SessionDir Digest) (t : Target) : SessionDir Digest :=
  match d.backups t with
  | none => d
  | some b =>
    if b.inode = (d.documents t).inode then d
    else
      { d with
        documents := Function.update d.documents t b
        backups := Function.update d.backups t none }

@[simp] theorem setAppendFile_appendFiles (d : SessionDir Digest) (f : AppendFile) (c : Content) :
    (d.setAppendFile f c).appendFiles = Function.update d.appendFiles f c := rfl
@[simp] theorem setAppendFile_documents (d : SessionDir Digest) (f : AppendFile) (c : Content) :
    (d.setAppendFile f c).documents = d.documents := rfl
@[simp] theorem setAppendFile_backups (d : SessionDir Digest) (f : AppendFile) (c : Content) :
    (d.setAppendFile f c).backups = d.backups := rfl
@[simp] theorem setAppendFile_marker (d : SessionDir Digest) (f : AppendFile) (c : Content) :
    (d.setAppendFile f c).marker = d.marker := rfl

@[simp] theorem replaceDocument_appendFiles (d : SessionDir Digest) (t : Target) (c : Content) :
    (d.replaceDocument t c).appendFiles = d.appendFiles := rfl
@[simp] theorem replaceDocument_documents (d : SessionDir Digest) (t : Target) (c : Content) :
    (d.replaceDocument t c).documents = Function.update d.documents t ⟨d.freshInode, c⟩ := rfl
@[simp] theorem replaceDocument_backups (d : SessionDir Digest) (t : Target) (c : Content) :
    (d.replaceDocument t c).backups = d.backups := rfl
@[simp] theorem replaceDocument_marker (d : SessionDir Digest) (t : Target) (c : Content) :
    (d.replaceDocument t c).marker = d.marker := rfl

@[simp] theorem linkBackup_appendFiles (d : SessionDir Digest) (t : Target) :
    (d.linkBackup t).appendFiles = d.appendFiles := rfl
@[simp] theorem linkBackup_documents (d : SessionDir Digest) (t : Target) :
    (d.linkBackup t).documents = d.documents := rfl
@[simp] theorem linkBackup_backups (d : SessionDir Digest) (t : Target) :
    (d.linkBackup t).backups = Function.update d.backups t (some (d.documents t)) := rfl
@[simp] theorem linkBackup_marker (d : SessionDir Digest) (t : Target) :
    (d.linkBackup t).marker = d.marker := rfl

@[simp] theorem unlinkBackup_appendFiles (d : SessionDir Digest) (t : Target) :
    (d.unlinkBackup t).appendFiles = d.appendFiles := rfl
@[simp] theorem unlinkBackup_documents (d : SessionDir Digest) (t : Target) :
    (d.unlinkBackup t).documents = d.documents := rfl
@[simp] theorem unlinkBackup_backups (d : SessionDir Digest) (t : Target) :
    (d.unlinkBackup t).backups = Function.update d.backups t none := rfl
@[simp] theorem unlinkBackup_marker (d : SessionDir Digest) (t : Target) :
    (d.unlinkBackup t).marker = d.marker := rfl

@[simp] theorem restoreBackup_appendFiles (d : SessionDir Digest) (t : Target) :
    (d.restoreBackup t).appendFiles = d.appendFiles := by
  unfold restoreBackup
  split
  · rfl
  · split <;> rfl

@[simp] theorem restoreBackup_marker (d : SessionDir Digest) (t : Target) :
    (d.restoreBackup t).marker = d.marker := by
  unfold restoreBackup
  split
  · rfl
  · split <;> rfl

/-- A document that is replaced shares its inode with no backup. -/
theorem inode_ne_freshInode (d : SessionDir Digest) {t : Target} {b : Document}
    (h : d.backups t = some b) : b.inode ≠ d.freshInode := by
  have hle : b.inode ≤ max ((d.backups .metadata).elim 0 Document.inode)
      ((d.backups .detectedPatterns).elim 0 Document.inode) := by
    cases t <;> simp [h]
  simp only [freshInode, List.foldr_cons, List.foldr_nil]
  omega

end SessionDir

/-! ## The program -/

section Program

variable {Digest : Type} [DecidableEq Digest] (sha256 : Content → Digest)

abbrev Fs (Digest α : Type) := Prog (SessionDir Digest) FsStep StoreError α

def persistenceError (operation path : String) : StoreError :=
  .persistence operation path true

/-- The directory may hold a half-done transaction: it is not safe to terminalize. -/
def unsafeError (operation : String) : StoreError := .persistence operation markerName false

def appendSerialized (f : AppendFile) (payload : Content) : Fs Digest Unit :=
  step (.append f) (fun d => d.setAppendFile f (d.appendFiles f ++ payload))
    (fun n d => d.setAppendFile f (d.appendFiles f ++ payload.take n))
    (persistenceError "append" f.name)

def writeDocument (t : Target) (c : Content) : Fs Digest Unit :=
  atomic (.replace t) (·.replaceDocument t c) (persistenceError "write" t.name)

def writeMarker (marker : TransactionMarker Digest) : Fs Digest Unit :=
  atomic (.writeMarker marker.state) (fun d => { d with marker := some marker })
    (persistenceError "write" markerName)

def syncDirectory : Fs Digest Unit :=
  reading .syncDirectory (persistenceError "sync transaction directory" "")

def digestFile (t : Target) : Fs Digest Digest := do
  reading (.digest t) (persistenceError "digest" t.name)
  let d ← look
  pure (sha256 (d.documents t).content)

def cleanup : Fs Digest Unit := do
  let failed := persistenceError "clean transaction" markerName
  atomic (.unlinkBackup .metadata) (·.unlinkBackup .metadata) failed
  atomic (.unlinkBackup .detectedPatterns) (·.unlinkBackup .detectedPatterns) failed
  atomic .unlinkMarker (fun d => { d with marker := none }) failed
  reading .syncDirectory failed

/-- The target always exists, so an orphan backup is removed. -/
def restoreOrRemoveOrphan (t : Target) : Fs Digest Unit := do
  let d ← look
  if (d.backups t).isSome then
    atomic (.unlinkBackup t) (·.unlinkBackup t)
      (persistenceError "clean orphan transaction" markerName)
  else pure ()

def cleanupOrphanBackups : Fs Digest Unit := do
  let d ← look
  if (d.backups .metadata).isNone && (d.backups .detectedPatterns).isNone then pure ()
  else do
    restoreOrRemoveOrphan .metadata
    restoreOrRemoveOrphan .detectedPatterns
    reading .syncDirectory (persistenceError "clean orphan transaction" markerName)

def truncateTo (f : AppendFile) (offset : ℕ) : Fs Digest Unit := do
  let d ← look
  if (d.appendFiles f).length < offset then
    raise (persistenceError "restore append offset" f.name)
  else
    atomic (.truncate f) (fun d => d.setAppendFile f ((d.appendFiles f).take offset))
      (persistenceError "restore append offset" f.name)

def restoreBackup (t : Target) (expectedDigest : Digest) : Fs Digest Unit := do
  let d ← look
  if (d.backups t).isSome then
    atomic (.restore t) (·.restoreBackup t) (persistenceError "restore transaction preimage" t.name)
  else do
    let digest ← digestFile sha256 t
    if digest ≠ expectedDigest then
      raise (.value s!"transaction preimage for {t.name} is unavailable")
    else pure ()

def restorePatterns (marker : TransactionMarker Digest) : Fs Digest Unit :=
  if marker.replaceDetectedPatterns then
    match marker.patternsBefore with
    | none => raise (.value "transaction patterns preimage digest is missing")
    | some digest => restoreBackup sha256 .detectedPatterns digest
  else pure ()

def rollbackFiles (marker : TransactionMarker Digest) : Fs Digest Unit := do
  marker.appendOffsets.entries.forM fun e => truncateTo e.1 e.2
  restorePatterns sha256 marker
  restoreBackup sha256 .metadata marker.metadataBefore
  syncDirectory
  cleanup

/-- Check a marker read back from its file. -/
def checkMarker (marker : TransactionMarker Digest) : Fs Digest Unit :=
  if marker.replaceDetectedPatterns ≠ marker.patternsBefore.isSome then
    raise (.value "evidence transaction pattern preimage is inconsistent")
  else if marker.state = .prepared ∧ marker.expectedMetadata.isSome then
    raise (.value "prepared evidence transaction has an expected metadata digest")
  else if marker.state ≠ .prepared ∧ marker.expectedMetadata.isNone then
    raise (.value "advanced evidence transaction lacks an expected metadata digest")
  else pure ()

inductive TransactionRecovery where
  | committed
  | rolledBack
  deriving DecidableEq, Repr

/-- Whether the metadata on disk is the document the transaction was to publish. -/
def metadataMatchesExpected (marker : TransactionMarker Digest) : Fs Digest Bool :=
  match marker.expectedMetadata with
  | none => pure false
  | some expected => do
    let digest ← digestFile sha256 .metadata
    pure (decide (digest = expected))

def metadataPublished (marker : TransactionMarker Digest) : Fs Digest Bool :=
  if marker.state = .evidenceWritten then metadataMatchesExpected sha256 marker else pure false

/-- Finish or undo the transaction a marker describes. -/
def resolveMarker (marker : TransactionMarker Digest) : Fs Digest TransactionRecovery := do
  checkMarker marker
  if marker.state = .committed then do
    cleanup
    pure .committed
  else do
    let published ← metadataPublished sha256 marker
    if published then do
      cleanup
      pure .committed
    else do
      rollbackFiles sha256 marker
      pure .rolledBack

/-- Resolve one interrupted transaction before lifecycle recovery proceeds. -/
def recoverEvidenceTransaction : Fs Digest (Option TransactionRecovery) := do
  let d ← look
  match d.marker with
  | none => do
    cleanupOrphanBackups
    pure none
  | some marker =>
    catching
      (do
        reading .readMarker (persistenceError "read" markerName)
        let recovery ← resolveMarker sha256 marker
        pure (some recovery))
      (fun _ => raise (unsafeError "recover transaction"))

/-- Sizes of the append targets, each path once. -/
def appendOffsets : List AppendFile → Dict AppendFile ℕ → Fs Digest (Dict AppendFile ℕ)
  | [], offsets => pure offsets
  | f :: paths, offsets =>
    if offsets.contains f then appendOffsets paths offsets
    else do
      reading (.stat f) (persistenceError "read append offset" f.name)
      let d ← look
      appendOffsets paths (offsets.set f (d.appendFiles f).length)

def linkBackup (t : Target) : Fs Digest Unit := do
  let d ← look
  if (d.backups t).isSome then raise (persistenceError "prepare transaction" markerName)
  else atomic (.link t) (·.linkBackup t) (persistenceError "prepare transaction" markerName)

def linkPatterns (marker : TransactionMarker Digest) : Fs Digest Unit :=
  if marker.replaceDetectedPatterns then linkBackup .detectedPatterns else pure ()

/-- Links and marker of a new transaction. -/
def prepareTransaction (marker : TransactionMarker Digest) : Fs Digest Unit := do
  linkBackup .metadata
  linkPatterns marker
  syncDirectory
  writeMarker marker

/-- Digest of the patterns document when it is to be replaced. -/
def digestPatterns (replacePatterns : Bool) : Fs Digest (Option Digest) :=
  if replacePatterns then do
    let digest ← digestFile sha256 .detectedPatterns
    pure (some digest)
  else pure none

def beginEvidenceTransaction (appendPaths : List AppendFile) (replacePatterns : Bool) :
    Fs Digest (TransactionMarker Digest) := do
  let _ ← recoverEvidenceTransaction sha256
  let offsets ← appendOffsets appendPaths ∅
  let metadataBefore ← digestFile sha256 .metadata
  let patternsBefore ← digestPatterns sha256 replacePatterns
  let marker : TransactionMarker Digest :=
    { state := .prepared
      appendOffsets := offsets
      replaceDetectedPatterns := replacePatterns
      metadataBefore := metadataBefore
      patternsBefore := patternsBefore }
  catching (prepareTransaction marker) fun exc => do
    catching cleanup fun _ => raise (unsafeError "prepare transaction")
    raise exc
  pure marker

/-- Record the digest of the metadata before replacing it. -/
def prepareMetadata (marker : TransactionMarker Digest) (serializedMetadata : Content) :
    Fs Digest (TransactionMarker Digest) := do
  let marker' :=
    { marker with
      state := .evidenceWritten
      expectedMetadata := some (sha256 serializedMetadata) }
  writeMarker marker'
  pure marker'

/-- Mark the unit committed and remove the bookkeeping. -/
def commit (marker : TransactionMarker Digest) : Fs Digest Unit :=
  if marker.state ≠ .evidenceWritten then
    raise (.runtime "evidence transaction metadata was not prepared")
  else do
    let written ← catching
      (do
        writeMarker { marker with state := .committed }
        pure true)
      (fun _ => do
        catching cleanup fun _ => raise (unsafeError "commit bookkeeping")
        pure false)
    if written then catching cleanup fun _ => pure () else pure ()

def rollback (marker : TransactionMarker Digest) : Fs Digest Unit :=
  catching (rollbackFiles sha256 marker) fun _ => raise (unsafeError "rollback")

/-- Prepare, commit, or synchronously roll back one evidence mutation.  Rolling back
reads only what `prepareMetadata` leaves as it was, so the first marker serves. -/
def evidenceTransaction (appendPaths : List AppendFile) (replacePatterns : Bool)
    (body : TransactionMarker Digest → Fs Digest (TransactionMarker Digest)) : Fs Digest Unit := do
  let marker ← beginEvidenceTransaction sha256 appendPaths replacePatterns
  let marker' ← catching (body marker) fun exc => do
    rollback sha256 marker
    raise exc
  commit marker'

/-- One admitted unit: what it appends, the patterns document it publishes if any, and
the metadata document that accounts for it. -/
structure EvidenceUnit where
  appends : List (AppendFile × Content)
  patterns : Option Content
  metadata : Content

def writePatterns (u : EvidenceUnit) : Fs Digest Unit :=
  match u.patterns with
  | some patterns => writeDocument .detectedPatterns patterns
  | none => pure ()

/-- The body of the admission transactions. -/
def admitUnit (u : EvidenceUnit) (marker : TransactionMarker Digest) :
    Fs Digest (TransactionMarker Digest) := do
  u.appends.forM fun p => appendSerialized p.1 p.2
  writePatterns u
  reading .accountEvidence (persistenceError "account evidence" "")
  let marker' ← prepareMetadata sha256 marker u.metadata
  writeDocument .metadata u.metadata
  pure marker'

/-- Admit one unit in a transaction of its own. -/
def admitEvidence (u : EvidenceUnit) : Fs Digest Unit :=
  evidenceTransaction sha256 (u.appends.map Prod.fst) u.patterns.isSome (admitUnit sha256 u)

end Program
