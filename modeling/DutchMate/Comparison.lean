/-
# Comparison of recent lines

`_compare_lines` counts the exact lines of two logs and reports those whose counts differ, the
greatest differences first.  The reported differences are those of two multisets: they depend
neither on the order of the lines nor on that in which a set of keys is walked.
-/
import DutchMate.Base64
import DutchMate.Diagnostics
import DutchMate.Newest
import DutchMate.RecentLines
import Mathlib.Algebra.Order.Group.Unbundled.Int
import Mathlib.Data.Char
import Mathlib.Data.List.Dedup
import Mathlib.Data.List.Forall2
import Mathlib.Data.List.Lex

open Diagnostics LogReplay PyJson

namespace Comparison

def maxComparisonLineChanges : ℕ := 50

inductive ComparisonFault where
  | persistence (detail : String)
  | diagnostic (fault : DiagnosticFault)
  | missingKey
  deriving DecidableEq

/-- A channel and the exact bytes of a line, in base64. -/
abbrev LineKey := ℕ × List Char

def lineKey (line : RecentLogLine) : LineKey := (line.channel, line.lineRawB64)

structure LineCountComparison where
  channel : ℕ
  lineSha256 : List Char
  lineBytes : ℕ
  textExcerpt : PyStr
  excerptTruncated : Bool
  baselineCount : ℕ
  subjectCount : ℕ
  delta : ℤ
  deriving DecidableEq

/-- `Counter`, read at a key. -/
def lineCount (lines : List RecentLogLine) (key : LineKey) : ℕ := (lines.map lineKey).count key

/-- The last line of a key, in a dictionary over both logs. -/
def representative (baseline subject : List RecentLogLine) (key : LineKey) : Option RecentLogLine :=
  ((baseline ++ subject).filter fun line => lineKey line = key).getLast?

def decodeLine (rawB64 : List Char) : Except ComparisonFault (List UInt8) :=
  match Base64.decode rawB64 with
  | some raw => .ok raw
  | none => .error (.persistence "Replayed UART line contains invalid base64")

def lineExcerpt (line : RecentLogLine) : Except ComparisonFault (PyStr × Bool) :=
  if line.lineText = [] then .ok ([], false)
  else
    (projectDiagnosticDetail (codePoints "uart_line".toList) (codePoints line.lineText)).mapError
      .diagnostic

/-- The order in which changes are reported. -/
def changeKey (change : LineCountComparison) : ℤ ×ₗ (ℕ ×ₗ List Char) :=
  toLex (-|change.delta|, toLex (change.channel, change.lineSha256))

/-- The loop over the keys; `sha256` is the hexadecimal digest. -/
def compareKeys (sha256 : List UInt8 → List Char) (baseline subject : List RecentLogLine) :
    List LineKey → Except ComparisonFault (List LineCountComparison)
  | [] => .ok []
  | key :: keys => do
    let baselineCount := lineCount baseline key
    let subjectCount := lineCount subject key
    if baselineCount = subjectCount then compareKeys sha256 baseline subject keys
    else
      let raw ← decodeLine key.2
      match representative baseline subject key with
      | none => .error .missingKey
      | some line =>
        let excerpt ← lineExcerpt line
        let changes ← compareKeys sha256 baseline subject keys
        .ok
          ({ channel := key.1
             lineSha256 := sha256 raw
             lineBytes := raw.length
             textExcerpt := excerpt.1
             excerptTruncated := excerpt.2
             baselineCount := baselineCount
             subjectCount := subjectCount
             delta := (subjectCount : ℤ) - baselineCount } :: changes)

/-- `_compare_lines`; `keys` is the union of the counted keys in the order it is walked. -/
def compareLines (sha256 : List UInt8 → List Char) (keys : List LineKey)
    (baseline subject : List RecentLogLine) :
    Except ComparisonFault (List LineCountComparison × ℕ) := do
  let changes ← compareKeys sha256 baseline subject keys
  let changes := Newest.sorted changeKey changes
  .ok (changes.take maxComparisonLineChanges, changes.length - maxComparisonLineChanges)

/-! ## What a comparison is -/

/-- A line as the replay makes it: its text is decoded from its bytes. -/
def FromBytes (line : RecentLogLine) : Prop :=
  ∃ raw, line.lineRawB64 = Base64.encode raw ∧ line.lineText = Utf8.decodeReplace raw

/-- A walk over the keys of both logs, each once. -/
def Walks (keys : List LineKey) (baseline subject : List RecentLogLine) : Prop :=
  keys.Nodup ∧ ∀ key, key ∈ keys ↔ key ∈ (baseline ++ subject).map lineKey

/-- No two different lines of some logs have one hash. -/
def CollisionFree (sha256 : List UInt8 → List Char) (lines : List RecentLogLine) : Prop :=
  ∀ raw raw', Base64.encode raw ∈ lines.map (·.lineRawB64) →
    Base64.encode raw' ∈ lines.map (·.lineRawB64) → sha256 raw = sha256 raw' → raw = raw'

def delta (baseline subject : List RecentLogLine) (key : LineKey) : ℤ :=
  (lineCount subject key : ℤ) - lineCount baseline key

/-- What is reported of one key. -/
structure Reports (sha256 : List UInt8 → List Char) (baseline subject : List RecentLogLine)
    (key : LineKey) (change : LineCountComparison) : Prop where
  channel : change.channel = key.1
  line : ∃ raw, key.2 = Base64.encode raw ∧ change.lineSha256 = sha256 raw ∧
    change.lineBytes = raw.length
  baselineCount : change.baselineCount = lineCount baseline key
  subjectCount : change.subjectCount = lineCount subject key
  delta : change.delta = delta baseline subject key

/-- The reported and the omitted keys are the keys of different multiplicity, each once, and no
omitted one differs more. -/
structure IsDifference (sha256 : List UInt8 → List Char) (baseline subject : List RecentLogLine)
    (changes : List LineCountComparison) (omitted : ℕ) : Prop where
  bounded : changes.length ≤ maxComparisonLineChanges
  keys : ∃ reported left : List LineKey, (reported ++ left).Nodup ∧
    (∀ key, key ∈ reported ++ left ↔ lineCount baseline key ≠ lineCount subject key) ∧
    List.Forall₂ (Reports sha256 baseline subject) reported changes ∧ left.length = omitted ∧
    ∀ key ∈ reported, ∀ other ∈ left,
      |delta baseline subject other| ≤ |delta baseline subject key|

/-- A change seen from the other log. -/
def swapped (change : LineCountComparison) : LineCountComparison :=
  { change with
    baselineCount := change.subjectCount
    subjectCount := change.baselineCount
    delta := -change.delta }

/-! ## The replayed lines -/

theorem fromBytes_completeLine {key : ℕ × ℕ} {tagged : List TaggedByte}
    {line : RecentLogLine} (h : completeLine key tagged = some line) : FromBytes line := by
  obtain ⟨last, -, rfl⟩ := Option.map_eq_some_iff.mp h
  exact ⟨_, rfl, rfl⟩

/-- The complete lines that a replay returns are those of some bytes each. -/
theorem fromBytes_of_isNewest {lines : ℕ} {records : List Record} {result : ReplayResult}
    (h : IsNewest lines records result) : ∀ line ∈ result.completeLines, FromBytes line := by
  intro line hline
  rw [h.complete] at hline
  have hmem : line ∈ completeLines records :=
    (Newest.sorted_perm _).mem_iff.mp (List.mem_of_mem_drop hline)
  obtain ⟨key, -, hkey⟩ := List.mem_flatMap.mp hmem
  obtain ⟨tagged, -, htagged⟩ := List.mem_filterMap.mp hkey
  exact fromBytes_completeLine htagged

/-! ## One key -/

variable {sha256 : List UInt8 → List Char} {baseline subject : List RecentLogLine} {key : LineKey}

def excerptOf (raw : List UInt8) : PyStr × Bool :=
  if Utf8.decodeReplace raw = [] then ([], false)
  else
    match projectDiagnosticDetail (codePoints "uart_line".toList)
      (codePoints (Utf8.decodeReplace raw)) with
    | .ok excerpt => excerpt
    | .error _ => ([], false)

theorem isIdentifier_uartLine : IsIdentifier (codePoints "uart_line".toList) :=
  ⟨⟨_, rfl, by decide⟩, by decide⟩

theorem lineExcerpt_eq {line : RecentLogLine} {raw : List UInt8}
    (h : line.lineText = Utf8.decodeReplace raw) : lineExcerpt line = .ok (excerptOf raw) := by
  rw [lineExcerpt, excerptOf, h]
  split
  · rfl
  · obtain ⟨result, truncated, hproject, -⟩ := projects_of_valid isIdentifier_uartLine
      (show ∀ c ∈ codePoints (Utf8.decodeReplace raw), c.isValidChar from fun c hc => by
        obtain ⟨d, -, rfl⟩ := List.mem_map.mp hc
        exact d.valid)
    rw [hproject]
    rfl

/-- The change of a key whose counts differ. -/
def changeOf (sha256 : List UInt8 → List Char) (baseline subject : List RecentLogLine)
    (key : LineKey) : LineCountComparison :=
  let raw := (Base64.decode key.2).getD []
  { channel := key.1
    lineSha256 := sha256 raw
    lineBytes := raw.length
    textExcerpt := (excerptOf raw).1
    excerptTruncated := (excerptOf raw).2
    baselineCount := lineCount baseline key
    subjectCount := lineCount subject key
    delta := delta baseline subject key }

def differs (baseline subject : List RecentLogLine) (key : LineKey) : Bool :=
  lineCount baseline key ≠ lineCount subject key

theorem exists_representative (h : key ∈ (baseline ++ subject).map lineKey) :
    ∃ line ∈ baseline ++ subject, representative baseline subject key = some line ∧
      lineKey line = key := by
  obtain ⟨line, hline, hkey⟩ := List.mem_map.mp h
  have hmem : line ∈ (baseline ++ subject).filter fun line => lineKey line = key :=
    List.mem_filter.mpr ⟨hline, decide_eq_true hkey⟩
  have hlast := List.getLast_mem (List.ne_nil_of_mem hmem)
  exact ⟨_, List.mem_of_mem_filter hlast, List.getLast?_eq_some_getLast _,
    of_decide_eq_true (List.mem_filter.mp hlast).2⟩

theorem compareKeys_eq (hlines : ∀ line ∈ baseline ++ subject, FromBytes line)
    {keys : List LineKey} (hkeys : ∀ key ∈ keys, key ∈ (baseline ++ subject).map lineKey) :
    compareKeys sha256 baseline subject keys
      = .ok ((keys.filter (differs baseline subject)).map (changeOf sha256 baseline subject)) := by
  induction keys with
  | nil => rfl
  | cons key keys ih =>
    have hrest := ih fun key hkey => hkeys key (by simp [hkey])
    unfold compareKeys
    dsimp only
    by_cases hsame : lineCount baseline key = lineCount subject key
    · rw [if_pos hsame, hrest, List.filter_cons_of_neg (by simp [differs, hsame])]
    · rw [if_neg hsame, List.filter_cons_of_pos (by simp [differs, hsame]), List.map_cons]
      obtain ⟨line, hline, hrepresentative, hkey⟩ := exists_representative (hkeys key (by simp))
      obtain ⟨raw, hraw, htext⟩ := hlines line hline
      have hencoded : key.2 = Base64.encode raw := by rw [← hkey, ← hraw]; rfl
      have hdecode : decodeLine key.2 = .ok raw := by
        rw [decodeLine, hencoded, Base64.decode_encode]
      rw [hdecode, hrepresentative]
      dsimp only [bind, Except.bind]
      rw [lineExcerpt_eq htext, hrest]
      dsimp only
      rw [changeOf, hencoded, Base64.decode_encode]
      rfl

/-! ## The keys that differ -/

theorem lineCount_eq_zero {lines : List RecentLogLine} (h : key ∉ lines.map lineKey) :
    lineCount lines key = 0 := List.count_eq_zero.mpr h

theorem mem_of_differs (h : differs baseline subject key = true) :
    key ∈ (baseline ++ subject).map lineKey := by
  by_contra hnot
  rw [List.map_append, List.mem_append, not_or] at hnot
  rw [differs, lineCount_eq_zero hnot.1, lineCount_eq_zero hnot.2] at h
  exact absurd h (by decide)

/-- The changes before they are ordered. -/
def unordered (sha256 : List UInt8 → List Char) (baseline subject : List RecentLogLine) :
    List LineCountComparison :=
  ((((baseline ++ subject).map lineKey).dedup).filter (differs baseline subject)).map
    (changeOf sha256 baseline subject)

theorem walks_perm {keys : List LineKey} (h : Walks keys baseline subject) :
    keys.Perm ((baseline ++ subject).map lineKey).dedup :=
  (List.perm_ext_iff_of_nodup h.1 (List.nodup_dedup _)).mpr fun key => by
    rw [List.mem_dedup]
    exact h.2 key

theorem exists_raw (hlines : ∀ line ∈ baseline ++ subject, FromBytes line)
    (hkey : key ∈ (baseline ++ subject).map lineKey) :
    ∃ raw, key.2 = Base64.encode raw ∧
      Base64.encode raw ∈ (baseline ++ subject).map (·.lineRawB64) := by
  obtain ⟨line, hline, rfl⟩ := List.mem_map.mp hkey
  obtain ⟨raw, hraw, -⟩ := hlines line hline
  exact ⟨raw, hraw, hraw ▸ List.mem_map_of_mem hline⟩

/-- Two keys with changes of one place in the order are one key. -/
theorem changeKey_injective (hlines : ∀ line ∈ baseline ++ subject, FromBytes line)
    (hfree : CollisionFree sha256 (baseline ++ subject)) {other : LineKey}
    (hkey : key ∈ (baseline ++ subject).map lineKey)
    (hother : other ∈ (baseline ++ subject).map lineKey)
    (h : changeKey (changeOf sha256 baseline subject key)
      = changeKey (changeOf sha256 baseline subject other)) : key = other := by
  obtain ⟨raw, hraw, hmem⟩ := exists_raw hlines hkey
  obtain ⟨raw', hraw', hmem'⟩ := exists_raw hlines hother
  have hpair : (key.1, sha256 ((Base64.decode key.2).getD []))
      = (other.1, sha256 ((Base64.decode other.2).getD [])) :=
    congrArg (fun k => ofLex (ofLex k).2) h
  rw [hraw, hraw', Base64.decode_encode, Base64.decode_encode] at hpair
  obtain ⟨hchannel, hsha⟩ := Prod.mk.inj hpair
  refine Prod.ext hchannel ?_
  rw [hraw, hraw', hfree raw raw' hmem hmem' hsha]

theorem nodup_unordered (hlines : ∀ line ∈ baseline ++ subject, FromBytes line)
    (hfree : CollisionFree sha256 (baseline ++ subject)) :
    ((unordered sha256 baseline subject).map changeKey).Nodup := by
  rw [unordered, List.map_map]
  refine ((List.nodup_dedup _).filter _).map_on fun key hkey other hother h => ?_
  have hmem := List.mem_dedup.mp (List.mem_of_mem_filter hkey)
  have hmem' := List.mem_dedup.mp (List.mem_of_mem_filter hother)
  exact changeKey_injective hlines hfree hmem hmem' h

theorem compareLines_eq (hlines : ∀ line ∈ baseline ++ subject, FromBytes line)
    (hfree : CollisionFree sha256 (baseline ++ subject)) {keys : List LineKey}
    (hwalk : Walks keys baseline subject) :
    compareLines sha256 keys baseline subject
      = .ok ((Newest.sorted changeKey (unordered sha256 baseline subject)).take
            maxComparisonLineChanges,
          (unordered sha256 baseline subject).length - maxComparisonLineChanges) := by
  have hperm : (unordered sha256 baseline subject).Perm
      ((keys.filter (differs baseline subject)).map (changeOf sha256 baseline subject)) :=
    (((walks_perm hwalk).symm).filter _).map _
  rw [compareLines, compareKeys_eq hlines fun key hkey => (hwalk.2 key).mp hkey]
  dsimp only [bind, Except.bind]
  rw [Newest.length_sorted, ← hperm.length_eq,
    ← Newest.sorted_of_perm (nodup_unordered hlines hfree) hperm]

/-! ## The order of the lines -/

section Order

variable {baseline' subject' : List RecentLogLine}

theorem lineCount_perm {lines lines' : List RecentLogLine} (h : lines'.Perm lines) :
    lineCount lines' = lineCount lines := by
  funext key
  exact (h.map lineKey).count_eq key

theorem walks_of_perm (hbaseline : baseline'.Perm baseline) (hsubject : subject'.Perm subject)
    {keys : List LineKey} (h : Walks keys baseline' subject') : Walks keys baseline subject :=
  ⟨h.1, fun key => (h.2 key).trans ((hbaseline.append hsubject).map lineKey).mem_iff⟩

theorem changeOf_perm (hbaseline : baseline'.Perm baseline) (hsubject : subject'.Perm subject) :
    changeOf sha256 baseline' subject' = changeOf sha256 baseline subject := by
  funext key
  rw [changeOf, changeOf, delta, delta, lineCount_perm hbaseline, lineCount_perm hsubject]

/-- Neither the order of the lines nor that of the walk shows in the result. -/
theorem compareLines_perm (hlines : ∀ line ∈ baseline ++ subject, FromBytes line)
    (hfree : CollisionFree sha256 (baseline ++ subject)) (hbaseline : baseline'.Perm baseline)
    (hsubject : subject'.Perm subject) {keys : List LineKey}
    (hwalk : Walks keys baseline' subject') :
    compareLines sha256 keys baseline' subject'
      = .ok ((Newest.sorted changeKey (unordered sha256 baseline subject)).take
            maxComparisonLineChanges,
          (unordered sha256 baseline subject).length - maxComparisonLineChanges) := by
  have hlogs := hbaseline.append hsubject
  have hsame : compareKeys sha256 baseline' subject' keys
      = compareKeys sha256 baseline subject keys := by
    have hkeys := fun key => (hwalk.2 key).mp
    have hdiffers : differs baseline' subject' = differs baseline subject := by
      funext key
      rw [differs, differs, lineCount_perm hbaseline, lineCount_perm hsubject]
    rw [compareKeys_eq (fun line hline => hlines line (hlogs.mem_iff.mp hline)) hkeys,
      compareKeys_eq hlines fun key hkey => (hlogs.map lineKey).mem_iff.mp (hkeys key hkey),
      hdiffers, changeOf_perm hbaseline hsubject]
  have hresult := compareLines_eq hlines hfree (walks_of_perm hbaseline hsubject hwalk)
  rw [compareLines] at hresult ⊢
  rw [hsame]
  exact hresult

end Order

/-! ## The difference -/

/-- The keys that differ, in the order of their changes. -/
def orderedKeys (sha256 : List UInt8 → List Char) (baseline subject : List RecentLogLine) :
    List LineKey :=
  Newest.sorted (fun key => changeKey (changeOf sha256 baseline subject key))
    ((((baseline ++ subject).map lineKey).dedup).filter (differs baseline subject))

theorem mem_orderedKeys :
    key ∈ orderedKeys sha256 baseline subject
      ↔ lineCount baseline key ≠ lineCount subject key := by
  rw [orderedKeys, (Newest.sorted_perm _).mem_iff, List.mem_filter, List.mem_dedup]
  constructor
  · rintro ⟨-, h⟩
    exact of_decide_eq_true h
  · intro h
    have hdiffers : differs baseline subject key = true := decide_eq_true h
    exact ⟨mem_of_differs hdiffers, hdiffers⟩

theorem nodup_orderedKeys : (orderedKeys sha256 baseline subject).Nodup :=
  (Newest.sorted_perm _).nodup_iff.mpr ((List.nodup_dedup _).filter _)

theorem map_orderedKeys (hlines : ∀ line ∈ baseline ++ subject, FromBytes line)
    (hfree : CollisionFree sha256 (baseline ++ subject)) :
    (orderedKeys sha256 baseline subject).map (changeOf sha256 baseline subject)
      = Newest.sorted changeKey (unordered sha256 baseline subject) := by
  refine (Newest.sorted_eq (nodup_unordered hlines hfree) ?_ ?_).symm
  · exact (Newest.sorted_perm _).map _
  · exact List.pairwise_map.mpr (Newest.pairwise_sorted _)

theorem abs_delta_le {other : LineKey}
    (h : changeKey (changeOf sha256 baseline subject key)
      ≤ changeKey (changeOf sha256 baseline subject other)) :
    |delta baseline subject other| ≤ |delta baseline subject key| :=
  neg_le_neg_iff.mp (Prod.Lex.monotone_fst_ofLex h)

theorem reports_changeOf (hlines : ∀ line ∈ baseline ++ subject, FromBytes line)
    (hkey : key ∈ (baseline ++ subject).map lineKey) :
    Reports sha256 baseline subject key (changeOf sha256 baseline subject key) where
  channel := rfl
  line := by
    obtain ⟨raw, hraw, -⟩ := exists_raw hlines hkey
    refine ⟨raw, hraw, ?_, ?_⟩
    · rw [changeOf, hraw, Base64.decode_encode]
      rfl
    · rw [changeOf, hraw, Base64.decode_encode]
      rfl
  baselineCount := rfl
  subjectCount := rfl
  delta := rfl

theorem isDifference (hlines : ∀ line ∈ baseline ++ subject, FromBytes line)
    (hfree : CollisionFree sha256 (baseline ++ subject)) :
    IsDifference sha256 baseline subject
      ((Newest.sorted changeKey (unordered sha256 baseline subject)).take maxComparisonLineChanges)
      ((unordered sha256 baseline subject).length - maxComparisonLineChanges) where
  bounded := List.length_take_le _ _
  keys := by
    set ordered := orderedKeys sha256 baseline subject with hordered
    have hsplit := List.take_append_drop maxComparisonLineChanges ordered
    have hpairwise : ordered.Pairwise fun key other =>
        changeKey (changeOf sha256 baseline subject key)
          ≤ changeKey (changeOf sha256 baseline subject other) := Newest.pairwise_sorted _
    have hlength : (unordered sha256 baseline subject).length = ordered.length := by
      rw [unordered, List.length_map, hordered, orderedKeys, Newest.length_sorted]
    refine ⟨ordered.take maxComparisonLineChanges, ordered.drop maxComparisonLineChanges,
      ?_, ?_, ?_, ?_, ?_⟩
    · rw [hsplit]
      exact nodup_orderedKeys
    · intro key
      rw [hsplit]
      exact mem_orderedKeys
    · rw [← map_orderedKeys hlines hfree, ← List.map_take, List.forall₂_map_right_iff,
        List.forall₂_same]
      intro key hkey
      have hdiffers := mem_orderedKeys.mp (List.mem_of_mem_take hkey)
      exact reports_changeOf hlines (mem_of_differs (decide_eq_true hdiffers))
    · rw [List.length_drop, hlength]
    · intro key hkey other hother
      rw [← hsplit] at hpairwise
      exact abs_delta_le ((List.pairwise_append.mp hpairwise).2.2 key hkey other hother)

/-! ## The other way round, and a log with itself -/

theorem changeOf_swapped :
    changeOf sha256 subject baseline key = swapped (changeOf sha256 baseline subject key) := by
  rw [swapped, changeOf, changeOf, delta, delta, neg_sub]

theorem changeKey_swapped (change : LineCountComparison) :
    changeKey (swapped change) = changeKey change := by
  rw [changeKey, changeKey, swapped, abs_neg]

theorem unordered_swapped :
    (unordered sha256 subject baseline).Perm ((unordered sha256 baseline subject).map swapped) := by
  have hdiffers : differs subject baseline = differs baseline subject := by
    funext key
    rw [differs, differs]
    simp only [ne_comm]
  have hmap : changeOf sha256 subject baseline
      = swapped ∘ changeOf sha256 baseline subject := by
    funext key
    exact changeOf_swapped
  rw [unordered, unordered, hdiffers, hmap, List.map_map]
  refine (List.Perm.filter _ ?_).map _
  exact (List.perm_append_comm.map lineKey).dedup

theorem sorted_swapped (hlines : ∀ line ∈ baseline ++ subject, FromBytes line)
    (hfree : CollisionFree sha256 (baseline ++ subject)) :
    Newest.sorted changeKey (unordered sha256 subject baseline)
      = (Newest.sorted changeKey (unordered sha256 baseline subject)).map swapped := by
  have hkeys : ((unordered sha256 baseline subject).map swapped).map changeKey
      = (unordered sha256 baseline subject).map changeKey := by
    rw [List.map_map]
    exact List.map_congr_left fun change _ => changeKey_swapped change
  have hnodup : ((unordered sha256 subject baseline).map changeKey).Nodup := by
    rw [(unordered_swapped.map changeKey).nodup_iff, hkeys]
    exact nodup_unordered hlines hfree
  refine Newest.sorted_eq hnodup ?_ ?_
  · exact ((Newest.sorted_perm _).map swapped).trans unordered_swapped.symm
  · rw [List.pairwise_map]
    simp only [changeKey_swapped]
    exact Newest.pairwise_sorted _

theorem unordered_self : unordered sha256 baseline baseline = [] := by
  have hnone : ∀ keys : List LineKey, keys.filter (differs baseline baseline) = [] := fun keys =>
    List.filter_eq_nil_iff.mpr fun key _ => by simp [differs]
  rw [unordered, hnone, List.map_nil]

/-- A line comparison is the difference of two multisets: of the keys of different multiplicity it
reports those that differ most, the same for every order of the lines and of the walk, with the
signs turned when the logs change places, and none for a log and itself. -/
theorem compareLines_isDifference (sha256 : List UInt8 → List Char)
    (baseline subject : List RecentLogLine)
    (hlines : ∀ line ∈ baseline ++ subject, FromBytes line)
    (hfree : CollisionFree sha256 (baseline ++ subject)) :
    ∃ changes omitted,
      (∀ baseline' subject' keys, baseline'.Perm baseline → subject'.Perm subject →
        Walks keys baseline' subject' →
        compareLines sha256 keys baseline' subject' = .ok (changes, omitted)) ∧
      IsDifference sha256 baseline subject changes omitted ∧
      (∀ keys, Walks keys subject baseline →
        compareLines sha256 keys subject baseline = .ok (changes.map swapped, omitted)) ∧
      ∀ keys, Walks keys baseline baseline →
        compareLines sha256 keys baseline baseline = .ok ([], 0) := by
  refine ⟨_, _, fun baseline' subject' keys hbaseline hsubject hwalk =>
    compareLines_perm hlines hfree hbaseline hsubject hwalk, isDifference hlines hfree, ?_, ?_⟩
  · intro keys hwalk
    have hboth : (subject ++ baseline).Perm (baseline ++ subject) := List.perm_append_comm
    have hlines' : ∀ line ∈ subject ++ baseline, FromBytes line := fun line hline =>
      hlines line (hboth.mem_iff.mp hline)
    have hfree' : CollisionFree sha256 (subject ++ baseline) := fun raw raw' hraw hraw' =>
      hfree raw raw' ((hboth.map _).mem_iff.mp hraw) ((hboth.map _).mem_iff.mp hraw')
    rw [compareLines_eq hlines' hfree' hwalk, sorted_swapped hlines hfree, List.map_take,
      unordered_swapped.length_eq, List.length_map]
  · intro keys hwalk
    have hlines' : ∀ line ∈ baseline ++ baseline, FromBytes line := fun line hline =>
      hlines line (List.mem_append_left _ ((List.mem_append.mp hline).elim id id))
    have hfree' : CollisionFree sha256 (baseline ++ baseline) := fun raw raw' hraw hraw' =>
      hfree raw raw' (by simpa using .inl (by simpa using hraw))
        (by simpa using .inl (by simpa using hraw'))
    rw [compareLines_eq hlines' hfree' hwalk, unordered_self]
    rfl

def okLine : List UInt8 := [111, 107, 10]

def errorLine : List UInt8 := [101, 114, 114, 111, 114, 10]

/-- The digests of the two lines. -/
def sampleSha256 (raw : List UInt8) : List Char :=
  if raw = okLine then "dc51b8c96c2d745df3bd5590d990230a482fd247123599548e0632fdbf97fc22".toList
  else if raw = errorLine then
    "f097b5f4f46cda2da21b954c9ff4097e1e14ae7064ecdee2c2cec2d3c1f08e6b".toList
  else []

def sampleLine (ingestionIndex : ℕ) (raw : List UInt8) : RecentLogLine :=
  ⟨0, 0, 5, ingestionIndex, 0, Base64.encode raw, Utf8.decodeReplace raw, false⟩

theorem collisionFree_sample : CollisionFree sampleSha256
    [sampleLine 0 okLine, sampleLine 1 errorLine, sampleLine 2 errorLine] := by
  have heither : ∀ raw, Base64.encode raw ∈ [sampleLine 0 okLine, sampleLine 1 errorLine,
      sampleLine 2 errorLine].map (·.lineRawB64) → raw = okLine ∨ raw = errorLine := by
    intro raw h
    have hdecode := Base64.decode_encode raw
    simp only [List.map_cons, List.map_nil, List.mem_cons, List.not_mem_nil, or_false,
      sampleLine] at h
    obtain h | h | h := h <;> rw [h, Base64.decode_encode, Option.some_inj] at hdecode
    · exact .inl hdecode.symm
    · exact .inr hdecode.symm
    · exact .inr hdecode.symm
  intro raw raw' hraw hraw' h
  obtain rfl | rfl := heither raw hraw <;> obtain rfl | rfl := heither raw' hraw'
  · rfl
  · exact absurd h (by decide)
  · exact absurd h (by decide)
  · rfl

theorem compareLines_isDifference_sample : ∃ changes omitted,
    (∀ baseline' subject' keys, baseline'.Perm [sampleLine 0 okLine] →
      subject'.Perm [sampleLine 1 errorLine, sampleLine 2 errorLine] →
      Walks keys baseline' subject' →
      compareLines sampleSha256 keys baseline' subject' = .ok (changes, omitted)) ∧
    IsDifference sampleSha256 [sampleLine 0 okLine]
      [sampleLine 1 errorLine, sampleLine 2 errorLine] changes omitted ∧
    (∀ keys, Walks keys [sampleLine 1 errorLine, sampleLine 2 errorLine] [sampleLine 0 okLine] →
      compareLines sampleSha256 keys [sampleLine 1 errorLine, sampleLine 2 errorLine]
        [sampleLine 0 okLine] = .ok (changes.map swapped, omitted)) ∧
    ∀ keys, Walks keys [sampleLine 0 okLine] [sampleLine 0 okLine] →
      compareLines sampleSha256 keys [sampleLine 0 okLine] [sampleLine 0 okLine] = .ok ([], 0) :=
  compareLines_isDifference sampleSha256 _ _
    (fun line hline => by
      simp only [List.cons_append, List.nil_append, List.mem_cons, List.not_mem_nil, or_false]
        at hline
      obtain rfl | rfl | rfl := hline <;> exact ⟨_, rfl, rfl⟩)
    collisionFree_sample

end Comparison
