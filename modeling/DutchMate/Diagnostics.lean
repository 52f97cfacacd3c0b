/-
# Diagnostic details

`project_diagnostic_detail` makes the text of any fault a short printable one.  It succeeds on
every text that has bytes in UTF-8, and raises on the others: a lone surrogate, such as the text of
an operating system's error may carry, is passed on to the encoder.
-/
import DutchMate.PythonJson
import DutchMate.Utf8Text

open PyJson

namespace Diagnostics

def maxDiagnosticBytes : ℕ := 1024

inductive DiagnosticFault where
  | value (detail : String)
  | unicodeEncode
  deriving DecidableEq, Repr

/-- `str.encode("utf-8")`. -/
def strEncode (s : PyStr) : Option (List UInt8) :=
  if s.all fun c => c.isValidChar then some (Utf8.encodeChars (s.map Char.ofNat)) else none

/-- What one character of a detail becomes. -/
def cleanedCode (c : ℕ) : ℕ :=
  if c = 0x0D ∨ c = 0x0A ∨ c = 0x09 then 0x20 else if isControlCode c then 0xFFFD else c

/-- The text before it is bounded: the cleaned detail, or else the code in words. -/
def cleanedDetail (fallbackCode detail : PyStr) : PyStr :=
  if detail.map cleanedCode = [] then fallbackCode.map fun c => if c = 0x5F then 0x20 else c
  else detail.map cleanedCode

def projectDiagnosticDetail (fallbackCode detail : PyStr) :
    Except DiagnosticFault (PyStr × Bool) :=
  if fallbackCode = [] then
    .error (.value "diagnostic fallback code must be a non-empty string")
  else
    let cleaned := cleanedDetail fallbackCode detail
    match strEncode cleaned with
    | none => .error .unicodeEncode
    | some encoded =>
      if maxDiagnosticBytes < encoded.length then
        .ok (codePoints (Utf8.decodeLongest (encoded.take maxDiagnosticBytes)), true)
      else .ok (cleaned, false)

/-! ## What is asked of a projection -/

/-- A Python string. -/
def IsStr (s : PyStr) : Prop := ∀ c ∈ s, c < 0x110000

def isSurrogate (c : ℕ) : Bool := 0xD800 ≤ c && c ≤ 0xDFFF

def isIdentifierStart (c : ℕ) : Bool :=
  (0x41 ≤ c && c ≤ 0x5A) || c = 0x5F || (0x61 ≤ c && c ≤ 0x7A)

/-- An ASCII identifier. -/
def IsIdentifier (s : PyStr) : Prop :=
  (∃ c ∈ s.head?, isIdentifierStart c = true) ∧
    ∀ c ∈ s, isIdentifierStart c = true ∨ (0x30 ≤ c ∧ c ≤ 0x39)

/-- A text that fits in the bytes of a diagnostic. -/
def Fits (s : PyStr) : Prop :=
  ∃ encoded, strEncode s = some encoded ∧ encoded.length ≤ maxDiagnosticBytes

/-- The longest beginning of the cleaned text that fits, which is printable and stays as it is. -/
structure IsProjection (cleaned result : PyStr) (truncated : Bool) : Prop where
  nonempty : result ≠ []
  fits : Fits result
  printable : ∀ c ∈ result, isControlCode c = false
  beginning : result <+: cleaned
  longest : ∀ other, other <+: cleaned → Fits other → other.length ≤ result.length
  flag : truncated = true ↔ result ≠ cleaned
  again : ∀ fallbackCode, fallbackCode ≠ [] →
    projectDiagnosticDetail fallbackCode result = .ok (result, false)

/-- The detail is projected. -/
def Projects (fallbackCode detail : PyStr) : Prop :=
  ∃ result truncated, projectDiagnosticDetail fallbackCode detail = .ok (result, truncated) ∧
    IsProjection (cleanedDetail fallbackCode detail) result truncated

/-! ## Cleaning -/

theorem not_isControlCode_cleanedCode (c : ℕ) : isControlCode (cleanedCode c) = false := by
  unfold cleanedCode
  split
  · decide
  split
  · decide
  · next h => exact Bool.eq_false_iff.mpr h

theorem cleanedCode_of_printable {c : ℕ} (h : isControlCode c = false) : cleanedCode c = c := by
  unfold cleanedCode
  rw [if_neg, if_neg (by rw [h]; exact nofun)]
  rintro (rfl | rfl | rfl)
  · exact absurd h (by decide)
  · exact absurd h (by decide)
  · exact absurd h (by decide)

/-- Cleaning neither brings nor takes away a code point without bytes. -/
theorem isValidChar_cleanedCode (c : ℕ) : (cleanedCode c).isValidChar ↔ c.isValidChar := by
  unfold cleanedCode
  split
  · next h =>
    refine ⟨fun _ => ?_, fun _ => by decide⟩
    rcases h with rfl | rfl | rfl
    · decide
    · decide
    · decide
  split
  · next h =>
    refine ⟨fun _ => ?_, fun _ => by decide⟩
    unfold isControlCode at h
    exact of_decide_eq_true (Bool.and_eq_true_iff.mp h).1
  · exact Iff.rfl

theorem isIdentifier_printable {s : PyStr} (h : IsIdentifier s) {c : ℕ} (hc : c ∈ s) :
    0x20 ≤ c ∧ c < 0x7F := by
  rcases h.2 c hc with hstart | ⟨hlow, hhigh⟩
  · simp only [isIdentifierStart, Bool.or_eq_true, Bool.and_eq_true, decide_eq_true_eq] at hstart
    omega
  · omega

theorem isControlCode_of_ascii {c : ℕ} (hlow : 0x20 ≤ c) (hhigh : c < 0x7F) :
    isControlCode c = false := by
  have hvalid : c.isValidChar := .inl (by omega)
  have htoNat : (Char.ofNat c).toNat = c := toNat_ofNat hvalid
  rw [isControlCode, isControl, htoNat]
  simp only [Bool.and_eq_false_imp, Bool.or_eq_false_iff, decide_eq_false_iff_not,
    decide_eq_true_eq]
  omega

variable {fallbackCode detail : PyStr}

theorem cleanedDetail_ne_nil (h : fallbackCode ≠ []) : cleanedDetail fallbackCode detail ≠ [] := by
  unfold cleanedDetail
  split
  · exact List.map_eq_nil_iff.not.mpr h
  · next hne => exact hne

theorem printable_cleanedDetail (h : IsIdentifier fallbackCode) {c : ℕ}
    (hc : c ∈ cleanedDetail fallbackCode detail) : isControlCode c = false := by
  unfold cleanedDetail at hc
  split at hc
  · obtain ⟨d, hd, rfl⟩ := List.mem_map.mp hc
    obtain ⟨hlow, hhigh⟩ := isIdentifier_printable h hd
    split
    · decide
    · exact isControlCode_of_ascii hlow hhigh
  · obtain ⟨d, -, rfl⟩ := List.mem_map.mp hc
    exact not_isControlCode_cleanedCode d

/-- The cleaned text has bytes when the detail has. -/
theorem isValidChar_cleanedDetail (h : IsIdentifier fallbackCode) :
    (∀ c ∈ cleanedDetail fallbackCode detail, c.isValidChar) ↔ ∀ c ∈ detail, c.isValidChar := by
  unfold cleanedDetail
  split
  · next hnil =>
    rw [List.map_eq_nil_iff.mp hnil]
    refine ⟨fun _ => nofun, fun _ c hc => ?_⟩
    obtain ⟨d, hd, rfl⟩ := List.mem_map.mp hc
    obtain ⟨-, hhigh⟩ := isIdentifier_printable h hd
    split
    · decide
    · exact .inl (by omega)
  · rw [List.forall_mem_map]
    exact forall₂_congr fun c _ => isValidChar_cleanedCode c

/-! ## Encoding -/

theorem strEncode_eq_some_iff {s : PyStr} {encoded : List UInt8} :
    strEncode s = some encoded
      ↔ (∀ c ∈ s, c.isValidChar) ∧ Utf8.encodeChars (s.map Char.ofNat) = encoded := by
  unfold strEncode
  split
  · next h =>
    rw [Option.some_inj]
    exact ⟨fun heq => ⟨fun c hc => of_decide_eq_true (List.all_eq_true.mp h c hc), heq⟩, And.right⟩
  · next h =>
    refine ⟨nofun, fun hand => absurd ?_ h⟩
    exact List.all_eq_true.mpr fun c hc => decide_eq_true (hand.1 c hc)

theorem codePoints_map_ofNat {s : PyStr} (h : ∀ c ∈ s, c.isValidChar) :
    codePoints (s.map Char.ofNat) = s := by
  rw [codePoints, List.map_map]
  exact (List.map_congr_left fun c hc => toNat_ofNat (h c hc)).trans (List.map_id s)

theorem strEncode_codePoints (cs : List Char) :
    strEncode (codePoints cs) = some (Utf8.encodeChars cs) := by
  refine strEncode_eq_some_iff.mpr ⟨fun c hc => ?_, ?_⟩
  · obtain ⟨d, -, rfl⟩ := List.mem_map.mp hc
    exact d.valid
  · rw [codePoints, List.map_map]
    refine congrArg _ ((List.map_congr_left fun c _ => ?_).trans (List.map_id cs))
    exact Char.ofNat_toNat c

theorem fits_codePoints {cs : List Char} :
    Fits (codePoints cs) ↔ (Utf8.encodeChars cs).length ≤ maxDiagnosticBytes := by
  unfold Fits
  rw [strEncode_codePoints]
  exact ⟨fun ⟨_, heq, hle⟩ => Option.some.inj heq ▸ hle, fun hle => ⟨_, rfl, hle⟩⟩

/-- A beginning of a text is a beginning of its characters. -/
theorem exists_of_prefix_codePoints {cs : List Char} {other : PyStr}
    (h : other <+: codePoints cs) : ∃ ds, ds <+: cs ∧ other = codePoints ds := by
  refine ⟨cs.take other.length, List.take_prefix _ _, ?_⟩
  rw [codePoints, List.map_take]
  exact List.prefix_iff_eq_take.mp h

/-! ## The projection -/

theorem utf8Size_le_four (c : Char) : c.utf8Size ≤ 4 := Char.utf8Size_le_four c

theorem fitting_ne_nil {cs : List Char} (h : cs ≠ []) :
    Utf8.fitting maxDiagnosticBytes cs ≠ [] := by
  obtain ⟨c, ds, rfl⟩ := List.exists_cons_of_ne_nil h
  have hsize : c.utf8Size ≤ maxDiagnosticBytes := (utf8Size_le_four c).trans (by decide)
  rw [Utf8.fitting, if_pos hsize]
  exact List.cons_ne_nil _ _

/-- A clean text that fits is left as it is. -/
theorem projectDiagnosticDetail_clean {result : PyStr} (hfallback : fallbackCode ≠ [])
    (hne : result ≠ []) (hfits : Fits result) (hclean : ∀ c ∈ result, isControlCode c = false) :
    projectDiagnosticDetail fallbackCode result = .ok (result, false) := by
  have hmap : result.map cleanedCode = result :=
    (List.map_congr_left fun c hc => cleanedCode_of_printable (hclean c hc)).trans (List.map_id _)
  have hcleaned : cleanedDetail fallbackCode result = result := by
    rw [cleanedDetail, hmap, if_neg hne]
  obtain ⟨encoded, hencode, hle⟩ := hfits
  unfold projectDiagnosticDetail
  dsimp only
  rw [if_neg hfallback, hcleaned, hencode]
  dsimp only
  rw [if_neg (Nat.not_lt.mpr hle)]

/-- What is projected from a text of characters. -/
theorem isProjection_fitting {cleaned : List Char} (hne : cleaned ≠ [])
    (hclean : ∀ c ∈ codePoints cleaned, isControlCode c = false) {truncated : Bool}
    (hflag : truncated = true ↔ Utf8.fitting maxDiagnosticBytes cleaned ≠ cleaned) :
    IsProjection (codePoints cleaned)
      (codePoints (Utf8.fitting maxDiagnosticBytes cleaned)) truncated := by
  have hnonempty : codePoints (Utf8.fitting maxDiagnosticBytes cleaned) ≠ [] :=
    List.map_eq_nil_iff.not.mpr (fitting_ne_nil hne)
  have hfits : Fits (codePoints (Utf8.fitting maxDiagnosticBytes cleaned)) :=
    fits_codePoints.mpr (Utf8.length_fitting_le _ _)
  have hbeginning := (Utf8.fitting_initial maxDiagnosticBytes cleaned).map Char.toNat
  have hprintable : ∀ c ∈ codePoints (Utf8.fitting maxDiagnosticBytes cleaned),
      isControlCode c = false := fun c hc => hclean c (hbeginning.subset hc)
  refine ⟨hnonempty, hfits, hprintable, hbeginning, ?_, ?_, ?_⟩
  · intro other hother hfit
    obtain ⟨ds, hds, rfl⟩ := exists_of_prefix_codePoints hother
    rw [codePoints, codePoints, List.length_map, List.length_map]
    exact Utf8.le_length_fitting hds (fits_codePoints.mp hfit)
  · rw [hflag]
    exact (List.map_injective_iff.mpr fun c d h => Char.toNat_inj.mp h).ne_iff.symm
  · exact fun fallback hfallback =>
      projectDiagnosticDetail_clean hfallback hnonempty hfits hprintable

theorem isValidChar_iff {c : ℕ} (h : c < 0x110000) : c.isValidChar ↔ isSurrogate c = false := by
  have hvalid : c.isValidChar ↔ c < 0xD800 ∨ (0xDFFF < c ∧ c < 0x110000) := Iff.rfl
  rw [hvalid, isSurrogate, Bool.and_eq_false_iff, decide_eq_false_iff_not,
    decide_eq_false_iff_not]
  omega

theorem IsIdentifier.ne_nil (h : IsIdentifier fallbackCode) : fallbackCode ≠ [] := by
  rintro rfl
  obtain ⟨c, hc, -⟩ := h.1
  cases hc

/-- A detail that has bytes is projected. -/
theorem projects_of_valid (hfallback : IsIdentifier fallbackCode)
    (hdetail : ∀ c ∈ detail, c.isValidChar) : Projects fallbackCode detail := by
  have hall := (isValidChar_cleanedDetail hfallback).mpr hdetail
  obtain ⟨cleaned, hcleaned⟩ : ∃ cleaned, cleanedDetail fallbackCode detail = codePoints cleaned :=
    ⟨_, (codePoints_map_ofNat hall).symm⟩
  have hne : cleaned ≠ [] := by
    rintro rfl
    exact cleanedDetail_ne_nil hfallback.ne_nil hcleaned
  have hclean : ∀ c ∈ codePoints cleaned, isControlCode c = false := fun c hc =>
    printable_cleanedDetail hfallback (hcleaned ▸ hc)
  unfold Projects projectDiagnosticDetail
  dsimp only
  rw [if_neg hfallback.ne_nil, hcleaned, strEncode_codePoints]
  dsimp only
  split
  · next hlong =>
    rw [Utf8.decodeLongest_take]
    refine ⟨_, _, rfl, isProjection_fitting hne hclean (iff_of_true rfl ?_)⟩
    intro hsame
    have hle := Utf8.length_fitting_le maxDiagnosticBytes cleaned
    rw [hsame] at hle
    omega
  · next hshort =>
    have hsame := Utf8.fitting_of_le (Nat.not_lt.mp hshort)
    have hprojection : IsProjection _ _ false :=
      isProjection_fitting hne hclean (iff_of_false nofun (not_not.mpr hsame))
    rw [hsame] at hprojection
    exact ⟨_, _, rfl, hprojection⟩

/-- A detail is projected exactly when it holds no surrogate. -/
theorem projectDiagnosticDetail_iff (hdetail : IsStr detail) (hfallback : IsIdentifier fallbackCode) :
    Projects fallbackCode detail ↔ ∀ c ∈ detail, isSurrogate c = false := by
  have hvalid : (∀ c ∈ detail, c.isValidChar) ↔ ∀ c ∈ detail, isSurrogate c = false :=
    forall₂_congr fun c hc => isValidChar_iff (hdetail c hc)
  rw [← hvalid]
  refine ⟨?_, projects_of_valid hfallback⟩
  rintro ⟨result, truncated, hproject, -⟩
  rw [← isValidChar_cleanedDetail hfallback]
  unfold projectDiagnosticDetail at hproject
  dsimp only at hproject
  rw [if_neg hfallback.ne_nil] at hproject
  cases hencode : strEncode (cleanedDetail fallbackCode detail) with
  | none =>
    rw [hencode] at hproject
    cases hproject
  | some encoded => exact (strEncode_eq_some_iff.mp hencode).1

theorem projectDiagnosticDetail_iff_plain :
    Projects (codePoints "io_error".toList) (codePoints "disk\tfull".toList)
      ↔ ∀ c ∈ codePoints "disk\tfull".toList, isSurrogate c = false :=
  projectDiagnosticDetail_iff (by unfold IsStr; decide) ⟨⟨_, rfl, by decide⟩, by decide⟩

/-- The text of a fault about a file whose name is not UTF-8. -/
theorem projectDiagnosticDetail_surrogate :
    ¬ ∀ fallbackCode detail, IsStr detail → IsIdentifier fallbackCode →
      Projects fallbackCode detail := by
  intro hall
  obtain ⟨result, truncated, hproject, -⟩ := hall (codePoints "io_error".toList)
    (codePoints "No such file or directory: '".toList ++ [0xDC80, 0x27])
    (by unfold IsStr; decide) ⟨⟨_, rfl, by decide⟩, by decide⟩
  have hraised : projectDiagnosticDetail (codePoints "io_error".toList)
      (codePoints "No such file or directory: '".toList ++ [0xDC80, 0x27])
        = .error .unicodeEncode := by decide
  rw [hraised] at hproject
  cases hproject

end Diagnostics
