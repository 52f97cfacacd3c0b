/-
# The commands a frame can denote

The grammar of commands, stated over flat JSON objects, and the parser of `command_decode.c`
against it: `commandDecode_iff` says which frames are accepted and what they are decoded to.
-/
import DutchMate.CommandRoundTrip
import DutchMate.FlatJson
import Mathlib.Data.Set.List

open FlatJson

/-! ## Strings -/

theorem skipWhitespace_blanks {blanks : List UInt8} (h : Blank blanks) (rest : List UInt8) :
    skipWhitespace (blanks ++ rest) = skipWhitespace rest :=
  List.dropWhile_append_of_pos fun byte hbyte => decide_eq_true (h byte hbyte)

/-- What is skipped is blank. -/
theorem skipWhitespace_split (input : List UInt8) :
    ∃ blanks : List UInt8, Blank blanks ∧ input = blanks ++ skipWhitespace input := by
  refine ⟨input.takeWhile fun b => b = 0x20 ∨ b = 0x09, fun byte hbyte => ?_,
    (List.takeWhile_append_dropWhile).symm⟩
  exact of_decide_eq_true (List.all_eq_true.mp List.all_takeWhile byte hbyte)

theorem escapedByte_eq_some {letter byte : UInt8} :
    escapedByte letter = some byte ↔ (letter, byte) ∈ escapes := by
  have hsound : ∀ n : Fin 256, ((escapedByte (UInt8.ofFin n)).all fun byte =>
      (UInt8.ofFin n, byte) ∈ escapes) = true := by decide +kernel
  have hcomplete : (escapes.all fun e => escapedByte e.1 = some e.2) = true := by decide
  constructor
  · intro h
    have hletter := hsound letter.toFin
    rw [UInt8.ofFin_toFin, h] at hletter
    exact of_decide_eq_true hletter
  · intro h
    exact of_decide_eq_true (List.all_eq_true.mp hcomplete _ h)

theorem hexValue_eq_some {byte : UInt8} {n : ℕ} : hexValue byte = some n ↔ (byte, n) ∈ hexDigits := by
  have hsound : ∀ byte : Fin 256, ((hexValue (UInt8.ofFin byte)).all fun n =>
      (UInt8.ofFin byte, n) ∈ hexDigits) = true := by decide +kernel
  have hcomplete : (hexDigits.all fun digit => hexValue digit.1 = some digit.2) = true := by
    decide +kernel
  constructor
  · intro h
    have hbyte := hsound byte.toFin
    rw [UInt8.ofFin_toFin, h] at hbyte
    exact of_decide_eq_true hbyte
  · intro h
    exact of_decide_eq_true (List.all_eq_true.mp hcomplete _ h)

theorem escapes_ne_zero {letter byte : UInt8} (h : (letter, byte) ∈ escapes) :
    byte ≠ 0 ∧ letter ≠ 0x75 := by
  have hall : (escapes.all fun e => e.2 ≠ 0 ∧ e.1 ≠ 0x75) = true := by decide
  exact of_decide_eq_true (List.all_eq_true.mp hall _ h)

theorem appendStringByte_ok {outputCapacity : ℕ} {output output' : List UInt8} {byte : UInt8} :
    appendStringByte outputCapacity output byte = .ok output'
      ↔ byte ≠ 0 ∧ output.length + 1 < outputCapacity ∧ output' = output ++ [byte] := by
  rw [appendStringByte]
  split
  next h =>
    refine ⟨nofun, fun ⟨hbyte, hlength, _⟩ => ?_⟩
    exact (h.elim hbyte fun hfull => absurd hlength (not_lt.mpr hfull)).elim
  next h =>
    rw [not_or, not_le] at h
    exact ⟨fun heq => ⟨h.1, h.2, (Except.ok.inj heq).symm⟩, fun ⟨_, _, heq⟩ => heq ▸ rfl⟩

theorem parseUnicodeEscape_ok {outputCapacity : ℕ} {output output' : List UInt8} {a b c d : UInt8} :
    parseUnicodeEscape outputCapacity output a b c d = .ok output'
      ↔ ∃ i j k l : ℕ, (a, i) ∈ hexDigits ∧ (b, j) ∈ hexDigits ∧ (c, k) ∈ hexDigits
        ∧ (d, l) ∈ hexDigits ∧ 0 < ((i * 16 + j) * 16 + k) * 16 + l
        ∧ ((i * 16 + j) * 16 + k) * 16 + l < 0x80 ∧ output.length + 1 < outputCapacity
        ∧ output' = output ++ [(((i * 16 + j) * 16 + k) * 16 + l).toUInt8] := by
  have hzero : ∀ n : ℕ, n < 0x80 → (n.toUInt8 ≠ 0 ↔ 0 < n) := by decide
  constructor
  · intro h
    rw [parseUnicodeEscape] at h
    split at h
    case h_2 => cases h
    rename_i i j k l ha hb hc hd
    dsimp only at h
    split at h
    · cases h
    rename_i hascii
    rw [not_lt] at hascii
    obtain ⟨hbyte, hlength, rfl⟩ := appendStringByte_ok.mp h
    exact ⟨i, j, k, l, hexValue_eq_some.mp ha, hexValue_eq_some.mp hb, hexValue_eq_some.mp hc,
      hexValue_eq_some.mp hd, (hzero _ (by omega)).mp hbyte, by omega, hlength, rfl⟩
  · rintro ⟨i, j, k, l, ha, hb, hc, hd, hpos, hascii, hlength, rfl⟩
    rw [parseUnicodeEscape, hexValue_eq_some.mpr ha, hexValue_eq_some.mpr hb,
      hexValue_eq_some.mpr hc, hexValue_eq_some.mpr hd]
    dsimp only
    rw [if_neg (by omega)]
    exact appendStringByte_ok.mpr ⟨(hzero _ hascii).mpr hpos, hlength, rfl⟩

/-- A body that is parsed is one of the grammar. -/
theorem parseStringBody_sound {outputCapacity : ℕ} {output input value rest : List UInt8}
    (hroom : output.length < outputCapacity)
    (h : parseStringBody outputCapacity output input = .ok (value, rest)) :
    ∃ text added : List UInt8, StringBody text added ∧ input = text ++ rest
      ∧ value = output ++ added ∧ value.length < outputCapacity := by
  fun_induction parseStringBody outputCapacity output input with
  | case2 output rest' =>
    cases h
    exact ⟨[0x22], [], .close, rfl, (List.append_nil _).symm, hroom⟩
  | case5 output byte rest' hquote hascii hescape output' happend ih =>
    obtain ⟨_, hlength, rfl⟩ := appendStringByte_ok.mp happend
    obtain ⟨text, added, hbody, rfl, rfl, hvalue⟩ := ih (by simpa using hlength) h
    rw [not_or, UInt8.not_lt, UInt8.not_le] at hascii
    refine ⟨byte :: text, byte :: added, .plain hascii.1 hascii.2 hquote hescape hbody,
      rfl, ?_, hvalue⟩
    rw [List.append_assoc, List.singleton_append]
  | case8 output byte _ _ hbyte a b c d rest' output' hunicode ih =>
    obtain ⟨i, j, k, l, ha, hb, hc, hd, hpos, hascii, hlength, rfl⟩ :=
      parseUnicodeEscape_ok.mp hunicode
    obtain ⟨text, added, hbody, rfl, rfl, hvalue⟩ := ih (by simpa using hlength) h
    refine ⟨_, _, .unicode ha hb hc hd hpos hascii hbody, ?_, ?_, hvalue⟩
    · rw [not_not.mp hbyte]; rfl
    · rw [List.append_assoc, List.singleton_append]
  | case12 output byte _ _ hbyte letter rest' _ escaped hletter output' happend ih =>
    obtain ⟨_, hlength, rfl⟩ := appendStringByte_ok.mp happend
    obtain ⟨text, added, hbody, rfl, rfl, hvalue⟩ := ih (by simpa using hlength) h
    refine ⟨_, _, .escape (escapedByte_eq_some.mp hletter) hbody, ?_, ?_, hvalue⟩
    · rw [not_not.mp hbyte]; rfl
    · rw [List.append_assoc, List.singleton_append]
  | _ => cases h

/-- A body of the grammar is parsed, when its value fits. -/
theorem parseStringBody_complete {outputCapacity : ℕ} {text added : List UInt8}
    (h : StringBody text added) {output : List UInt8}
    (hroom : (output ++ added).length < outputCapacity) (rest : List UInt8) :
    parseStringBody outputCapacity output (text ++ rest) = .ok (output ++ added, rest) := by
  induction h generalizing output with
  | close =>
    rw [List.singleton_append, List.append_nil, parseStringBody.eq_def]
    exact if_pos rfl
  | @plain byte text value hlow hhigh hquote hescape _ ih =>
    have hlength : output.length + 1 < outputCapacity := by
      simp only [List.length_append, List.length_cons] at hroom
      omega
    have hbyte : byte ≠ 0 := by
      rintro rfl
      exact absurd hlow (by decide)
    have happend := appendStringByte_ok.mpr ⟨hbyte, hlength, rfl⟩
    rw [List.cons_append, parseStringBody.eq_def]
    dsimp only
    rw [if_neg hquote,
      if_neg (by rw [not_or, UInt8.not_lt, UInt8.not_le]; exact ⟨hlow, hhigh⟩), if_pos hescape,
      happend]
    dsimp only
    rw [ih (by simpa using hroom)]
    simp
  | @escape letter byte text value hletter _ ih =>
    have hlength : output.length + 1 < outputCapacity := by
      simp only [List.length_append, List.length_cons] at hroom
      omega
    obtain ⟨hbyte, hunicode⟩ := escapes_ne_zero hletter
    rw [List.cons_append, List.cons_append, parseStringBody.eq_def]
    dsimp only
    rw [if_neg (by decide), if_neg (by decide), if_neg (by decide)]
    rw [if_neg hunicode, escapedByte_eq_some.mpr hletter]
    dsimp only
    rw [appendStringByte_ok.mpr ⟨hbyte, hlength, rfl⟩]
    dsimp only
    rw [ih (by simpa using hroom)]
    simp
  | @unicode a b c d i j k l text value ha hb hc hd hpos hascii _ ih =>
    have hlength : output.length + 1 < outputCapacity := by
      simp only [List.length_append, List.length_cons] at hroom
      omega
    have happend := parseUnicodeEscape_ok.mpr ⟨i, j, k, l, ha, hb, hc, hd, hpos, hascii, hlength, rfl⟩
    simp only [List.cons_append]
    rw [parseStringBody.eq_def]
    dsimp only
    rw [if_neg (by decide), if_neg (by decide), if_neg (by decide)]
    rw [if_pos rfl, happend]
    dsimp only
    rw [ih (by simpa using hroom)]
    simp

theorem parseJsonString_sound {outputCapacity : ℕ} (hcapacity : 0 < outputCapacity)
    {input value rest : List UInt8} (h : parseJsonString outputCapacity input = .ok (value, rest)) :
    ∃ text : List UInt8, StringText text value ∧ input = text ++ rest
      ∧ value.length < outputCapacity := by
  cases input with
  | nil => cases h
  | cons byte input =>
    rw [parseJsonString] at h
    split at h
    · cases h
    rename_i hquote
    obtain ⟨text, added, hbody, rfl, rfl, hlength⟩ := parseStringBody_sound hcapacity h
    exact ⟨0x22 :: text, .quoted hbody, by rw [not_not.mp hquote]; rfl, hlength⟩

theorem parseJsonString_complete {outputCapacity : ℕ} {text value : List UInt8}
    (h : StringText text value) (hlength : value.length < outputCapacity) (rest : List UInt8) :
    parseJsonString outputCapacity (text ++ rest) = .ok (value, rest) := by
  obtain ⟨hbody⟩ := h
  rw [List.cons_append, parseJsonString, if_neg (not_not.mpr rfl)]
  exact parseStringBody_complete hbody hlength rest

/-! ## Numbers -/

theorem isDigit_iff {byte : UInt8} : isDigit byte = true ↔ 0x30 ≤ byte ∧ byte ≤ 0x39 := by
  simp [isDigit]

/-- The bytes do not go on with a digit. -/
def EndsDigits (rest : List UInt8) : Prop := ∀ byte ∈ rest.head?, isDigit byte = false

/-- One digit more of a decimal number. -/
def pushDigit (value : ℕ) (byte : UInt8) : ℕ := value * 10 + (byte.toNat - 0x30)

theorem le_foldl_pushDigit (digits : List UInt8) (value : ℕ) :
    value ≤ digits.foldl pushDigit value := by
  induction digits generalizing value with
  | nil => exact Nat.le_refl _
  | cons byte digits ih => exact le_trans (by rw [pushDigit]; omega) (ih (pushDigit value byte))

theorem parsePulseDigits_sound {parsed value : ℕ} {input rest : List UInt8}
    (hparsed : parsed ≤ 4294967295) (h : parsePulseDigits parsed input = some (value, rest)) :
    ∃ digits : List UInt8, (∀ byte ∈ digits, isDigit byte = true) ∧ input = digits ++ rest
      ∧ value = digits.foldl pushDigit parsed ∧ value ≤ 4294967295 := by
  fun_induction parsePulseDigits parsed input with
  | case1 =>
    cases h
    exact ⟨[], List.forall_mem_nil _, rfl, rfl, hparsed⟩
  | case2 => cases h
  | case3 parsed byte input hbyte digit hlimit ih =>
    have hnine : byte.toNat ≤ 0x39 := UInt8.le_iff_toNat_le.mp (isDigit_iff.mp hbyte).2
    have hdigit : digit = byte.toNat - 0x30 := rfl
    obtain ⟨digits, hdigits, rfl, rfl, hvalue⟩ := ih (by omega) h
    exact ⟨byte :: digits, List.forall_mem_cons.mpr ⟨hbyte, hdigits⟩, rfl, rfl, hvalue⟩
  | case4 =>
    cases h
    exact ⟨[], List.forall_mem_nil _, rfl, rfl, hparsed⟩

theorem parsePulseDigits_complete {digits rest : List UInt8}
    (hdigits : ∀ byte ∈ digits, isDigit byte = true) (hrest : EndsDigits rest) {parsed : ℕ}
    (hvalue : digits.foldl pushDigit parsed ≤ 4294967295) :
    parsePulseDigits parsed (digits ++ rest) = some (digits.foldl pushDigit parsed, rest) := by
  induction digits generalizing parsed with
  | nil =>
    cases rest with
    | nil => rfl
    | cons byte rest =>
      have hbyte := hrest byte rfl
      rw [List.nil_append, parsePulseDigits, if_neg (by rw [hbyte]; decide)]
      rfl
  | cons byte digits ih =>
    obtain ⟨hbyte, hdigits⟩ := List.forall_mem_cons.mp hdigits
    have hstep := (le_foldl_pushDigit digits (pushDigit parsed byte)).trans hvalue
    rw [pushDigit] at hstep
    rw [List.cons_append, parsePulseDigits, if_pos hbyte]
    dsimp only
    rw [if_neg (by omega)]
    exact ih hdigits hvalue

theorem digitsValue_eq (digits : List UInt8) : digitsValue digits = digits.foldl pushDigit 0 := rfl

theorem digits_isDigit {text : List UInt8} :
    Digits text ↔ text ≠ [] ∧ ∀ byte ∈ text, isDigit byte = true := by
  simp only [Digits, isDigit_iff]

theorem parsePulseMs_sound {input rest : List UInt8} {value : UInt32}
    (h : parsePulseMs input = some (value, rest)) :
    ∃ (text : List UInt8) (n : ℕ), PlainInteger text n ∧ input = text ++ rest ∧ n ≤ 4294967295
      ∧ value = n.toUInt32 := by
  cases input with
  | nil => cases h
  | cons byte input =>
    rw [parsePulseMs] at h
    split at h
    · cases h
    rename_i hbyte
    split at h
    · cases h
    rename_i hzero
    obtain ⟨⟨n, rest'⟩, hparsed, heq⟩ := Option.map_eq_some_iff.mp h
    obtain ⟨rfl, rfl⟩ := Prod.mk.inj heq
    obtain ⟨text, hdigits, hsplit, rfl, hlimit⟩ := parsePulseDigits_sound (by decide) hparsed
    have hne : text ≠ [] := by
      rintro rfl
      rw [List.nil_append] at hsplit
      subst hsplit
      have hconsumed := parsePulseDigits_length hparsed
      rw [parsePulseDigits, if_pos (by simpa using hbyte)] at hparsed
      dsimp only at hparsed
      split at hparsed
      · cases hparsed
      · have := parsePulseDigits_length hparsed
        simp only [List.length_cons] at this
        omega
    refine ⟨text, _, ⟨⟨digits_isDigit.mpr ⟨hne, hdigits⟩, fun hhead => ?_⟩, rfl⟩, hsplit, hlimit,
      rfl⟩
    obtain ⟨first, text, rfl⟩ := List.exists_cons_of_ne_nil hne
    obtain ⟨rfl, rfl⟩ := List.cons_eq_cons.mp hsplit
    obtain rfl : byte = 0x30 := by simpa using hhead
    cases text with
    | nil => rfl
    | cons second text =>
      refine absurd ⟨rfl, ?_⟩ hzero
      simpa using hdigits second (by simp)

theorem parsePulseMs_complete {text rest : List UInt8} {n : ℕ} (h : PlainInteger text n)
    (hlimit : n ≤ 4294967295) (hrest : EndsDigits rest) :
    parsePulseMs (text ++ rest) = some (n.toUInt32, rest) := by
  obtain ⟨⟨hdigits, hzero⟩, rfl⟩ := h
  obtain ⟨hne, hdigits⟩ := digits_isDigit.mp hdigits
  obtain ⟨byte, text, rfl⟩ := List.exists_cons_of_ne_nil hne
  have hparsed : parsePulseDigits 0 (byte :: text ++ rest) = some (digitsValue (byte :: text), rest) :=
    parsePulseDigits_complete hdigits hrest hlimit
  have hleading : ¬(byte = 0x30 ∧ (text ++ rest).head?.any isDigit) := by
    rintro ⟨rfl, hnext⟩
    obtain rfl : text = [] := by simpa using hzero rfl
    rw [List.nil_append, Option.any_eq_true] at hnext
    obtain ⟨next, hmem, hdigit⟩ := hnext
    rw [hrest next hmem] at hdigit
    cases hdigit
  rw [List.cons_append] at hparsed ⊢
  rw [parsePulseMs, if_neg (by simpa using hdigits byte (by simp)), if_neg hleading, hparsed]
  rfl

/-! ## Members -/

/-- A member under the field its key names. -/
abbrev FieldMember := FieldId × Value ℕ

namespace FieldMember

def named (member : FieldMember) : List UInt8 × Value ℕ := (ascii member.1.name, member.2)

/-- A value of the kind of its field that the field has room for. -/
def Fits : FieldMember → Prop
  | (field, .string bytes) => field ≠ .pulseMs ∧ bytes.length < RawFields.capacity field
  | (field, .number n) => field = .pulseMs ∧ n ≤ 4294967295

end FieldMember

namespace RawFields

def setValue (fields : RawFields) : FieldMember → RawFields
  | (field, .string bytes) => fields.setString bytes field
  | (_, .number n) => { fields with pulseMs := n.toUInt32 }

/-- What a member makes of the fields. -/
def keep (fields : RawFields) (member : FieldMember) : RawFields :=
  (fields.setValue member).markPresent member.1

end RawFields

theorem capacity_pos {field : FieldId} (h : field ≠ .pulseMs) : 0 < RawFields.capacity field := by
  cases field with
  | pulseMs => exact absurd rfl h
  | _ => decide

theorem StringText.head {text value : List UInt8} (h : StringText text value) :
    text.head? = some 0x22 := by
  cases h
  rfl

theorem parseFieldValue_sound {fields fields' : RawFields} {field : FieldId}
    {input rest : List UInt8} (h : parseFieldValue fields field input = .ok (fields', rest)) :
    ∃ (text : List UInt8) (value : Value ℕ), ValueText PlainInteger text value
      ∧ input = text ++ rest ∧ FieldMember.Fits (field, value)
      ∧ fields' = fields.setValue (field, value) := by
  unfold parseFieldValue parseFieldString at h
  split at h
  next hfield =>
    split at h
    · cases h
    rename_i value rest' hparsed
    cases h
    obtain ⟨text, n, hplain, rfl, hlimit, rfl⟩ := parsePulseMs_sound hparsed
    exact ⟨text, .number n, .number hplain, rfl, ⟨hfield, hlimit⟩, rfl⟩
  next hfield =>
    split at h
    · cases h
    split at h
    · cases h
    rename_i hstring
    split at hstring
    · cases hstring
    rename_i value rest' hparsed
    cases hstring
    cases h
    obtain ⟨text, htext, rfl, hlength⟩ := parseJsonString_sound (capacity_pos hfield) hparsed
    exact ⟨text, .string value, .string htext, rfl, ⟨hfield, hlength⟩, rfl⟩

theorem parseFieldValue_complete {field : FieldId} {text rest : List UInt8} {value : Value ℕ}
    (h : ValueText PlainInteger text value) (hfits : FieldMember.Fits (field, value))
    (hrest : EndsDigits rest) (fields : RawFields) :
    parseFieldValue fields field (text ++ rest) = .ok (fields.setValue (field, value), rest) := by
  unfold parseFieldValue parseFieldString
  cases h with
  | @string bytes htext =>
    obtain ⟨hfield, hlength⟩ := hfits
    have hparsed := parseJsonString_complete htext hlength rest
    have hhead : (text ++ rest).head? = some 0x22 := by
      obtain ⟨_⟩ := htext
      rfl
    rw [if_neg hfield, if_neg (not_not.mpr hhead), if_neg hfield, hparsed]
    rfl
  | @number n hplain =>
    obtain ⟨hfield, hlimit⟩ := hfits
    rw [if_pos hfield, parsePulseMs_complete hplain hlimit hrest]
    rfl

theorem fromName_eq_some {key : List UInt8} {field : FieldId} :
    FieldId.fromName key = some field ↔ key = ascii field.name := by
  constructor
  · intro h
    rw [FieldId.fromName] at h
    have hfound := List.find?_some h
    exact of_decide_eq_true hfound
  · rintro rfl
    exact fromName_name field

theorem length_name_lt (field : FieldId) : (ascii field.name).length < keyCapacity := by
  cases field <;> decide

/-- The bytes behind a member. -/
def EndsValue (rest : List UInt8) : Prop := ∃ byte tail, rest = byte :: tail ∧ EndsMember byte

theorem EndsValue.skip {rest : List UInt8} (h : EndsValue rest) : skipWhitespace rest = rest := by
  obtain ⟨byte, tail, rfl, hbyte⟩ := h
  exact hbyte.skip tail

theorem EndsValue.endsDigits {blanks rest : List UInt8} (h : EndsValue rest) (hblanks : Blank blanks) :
    EndsDigits (blanks ++ rest) := by
  obtain ⟨byte, tail, rfl, hbyte⟩ := h
  cases blanks with
  | nil =>
    rintro _ ⟨rfl⟩
    rcases hbyte with rfl | rfl <;> decide
  | cons blank blanks =>
    rintro _ ⟨rfl⟩
    rcases hblanks blank (by simp) with rfl | rfl <;> decide

/-- No value begins with a blank. -/
theorem skipWhitespace_valueText {text : List UInt8} {value : Value ℕ}
    (h : ValueText PlainInteger text value) (rest : List UInt8) :
    skipWhitespace (text ++ rest) = text ++ rest := by
  cases h with
  | string h =>
    obtain ⟨_⟩ := h
    exact skipWhitespace_cons (by decide) _
  | number h =>
    obtain ⟨⟨⟨hne, hdigits⟩, _⟩, _⟩ := h
    obtain ⟨byte, text, rfl⟩ := List.exists_cons_of_ne_nil hne
    obtain ⟨hlow, _⟩ := hdigits byte (by simp)
    refine skipWhitespace_cons ⟨?_, ?_⟩ _
    · rintro rfl
      exact absurd hlow (by decide)
    · rintro rfl
      exact absurd hlow (by decide)

theorem parseMember_sound {fields fields' : RawFields} {input rest : List UInt8}
    (h : parseMember fields input = .ok (fields', rest)) :
    ∃ (text : List UInt8) (member : FieldMember), Member PlainInteger text member.named
      ∧ input = text ++ rest ∧ member.Fits ∧ fields.present &&& member.1.bit = 0
      ∧ fields' = fields.keep member := by
  unfold parseMember at h
  split at h
  · cases h
  rename_i key afterKey hkey
  split at h
  · cases h
  rename_i field hfield
  split at h
  · cases h
  rename_i habsent
  split at h
  · cases h
  rename_i byte afterColon hcolon
  split at h
  · cases h
  rename_i hbyte
  split at h
  · cases h
  rename_i fields'' afterValue hvalue
  cases h
  obtain ⟨keyText, hkeyText, rfl, _⟩ := parseJsonString_sound (by decide) hkey
  obtain rfl := fromName_eq_some.mp hfield
  obtain ⟨between, hbetween, hafterKey⟩ := skipWhitespace_split afterKey
  obtain ⟨around, haround, hafterColon⟩ := skipWhitespace_split afterColon
  obtain ⟨valueText, value, hvalueText, hsplit, hfits, rfl⟩ := parseFieldValue_sound hvalue
  obtain ⟨after, hafter, hafterValue⟩ := skipWhitespace_split afterValue
  refine ⟨_, (field, value), .parts (List.forall_mem_nil _) hkeyText hbetween haround hvalueText
    hafter, ?_, hfits, not_not.mp habsent, rfl⟩
  rw [hcolon, not_not.mp hbyte, hafterColon, hsplit, hafterValue] at hafterKey
  simp only [List.nil_append, List.append_assoc, List.cons_append]
  rw [hafterKey]

theorem parseMember_complete {fields : RawFields} {text rest : List UInt8} {member : FieldMember}
    (h : Member PlainInteger text member.named) (hfits : member.Fits)
    (habsent : fields.present &&& member.1.bit = 0) (hrest : EndsValue rest) :
    parseMember fields (skipWhitespace (text ++ rest)) = .ok (fields.keep member, rest) := by
  obtain ⟨field, value⟩ := member
  obtain @⟨before, keyText, between, around, valueText, after, _, _, hbefore, hkey, hbetween, haround,
    hvalue, hafter⟩ := h
  have hskip : skipWhitespace (before ++ (keyText ++ (between ++ 0x3A :: (around ++ (valueText
      ++ after)))) ++ rest)
      = keyText ++ (between ++ 0x3A :: (around ++ (valueText ++ (after ++ rest)))) := by
    obtain ⟨_⟩ := hkey
    simp only [List.append_assoc, List.cons_append]
    rw [skipWhitespace_blanks hbefore, skipWhitespace_cons (by decide)]
  have hparsedKey := parseJsonString_complete hkey (length_name_lt field)
    (between ++ 0x3A :: (around ++ (valueText ++ (after ++ rest))))
  have hvalueHead := skipWhitespace_valueText hvalue (after ++ rest)
  rw [hskip]
  unfold parseMember
  rw [hparsedKey]
  dsimp only
  rw [fromName_name]
  dsimp only
  rw [if_neg (not_not.mpr habsent), skipWhitespace_blanks hbetween, skipWhitespace_cons (by decide)]
  dsimp only
  rw [if_neg (not_not.mpr rfl), skipWhitespace_blanks haround, hvalueHead,
    parseFieldValue_complete hvalue hfits (hrest.endsDigits hafter)]
  dsimp only
  rw [skipWhitespace_blanks hafter, hrest.skip]
  rfl

/-- Members whose fields are not there yet and whose values fit. -/
def Keepable (fields : RawFields) : List FieldMember → Prop
  | [] => True
  | member :: members =>
    member.Fits ∧ fields.present &&& member.1.bit = 0 ∧ Keepable (fields.keep member) members

theorem parseMembers_sound {fields fields' : RawFields} {input rest : List UInt8}
    (h : parseMembers fields input = .ok (fields', rest)) :
    ∃ (text : List UInt8) (members : List FieldMember),
      Members PlainInteger text (members.map FieldMember.named) ∧ input = text ++ 0x7D :: rest
      ∧ Keepable fields members ∧ fields' = members.foldl RawFields.keep fields := by
  fun_induction parseMembers fields input with
  | case1 => cases h
  | case2 => cases h
  | case3 fields input fields'' tail hmember =>
    cases h
    obtain ⟨text, member, htext, rfl, hfits, habsent, rfl⟩ := parseMember_sound hmember
    exact ⟨text, [member], .last htext, rfl, ⟨hfits, habsent, trivial⟩, rfl⟩
  | case4 => cases h
  | case5 => cases h
  | case6 => cases h
  | case7 fields input fields'' byte tail hmember hend hcomma next afterComma hnext hclose ih =>
    obtain ⟨text, member, htext, rfl, hfits, habsent, rfl⟩ := parseMember_sound hmember
    obtain ⟨restText, members, hrest, hsplit, hkeepable, rfl⟩ := ih h
    obtain ⟨blanks, hblanks, hskipped⟩ := skipWhitespace_split tail
    refine ⟨_, member :: members, .next htext (hrest.blanks hblanks), ?_,
      ⟨hfits, habsent, hkeepable⟩, rfl⟩
    rw [not_not.mp hcomma, hskipped, hnext, hsplit]
    simp only [List.append_assoc, List.cons_append]

theorem parseMembers_complete {fields : RawFields} {text : List UInt8} {members : List FieldMember}
    (h : Members PlainInteger text (members.map FieldMember.named))
    (hkeepable : Keepable fields members) (rest : List UInt8) :
    parseMembers fields (skipWhitespace (text ++ 0x7D :: rest))
      = .ok (members.foldl RawFields.keep fields, rest) := by
  induction members generalizing fields text with
  | nil => cases h
  | cons member members ih =>
    obtain ⟨hfits, habsent, hkeepable⟩ := hkeepable
    rw [List.map_cons] at h
    generalize hnamed : members.map FieldMember.named = named at h
    cases h with
    | last h =>
      obtain rfl := List.map_eq_nil_iff.mp hnamed
      exact parseMembers_end (parseMember_complete h hfits habsent ⟨0x7D, rest, rfl, .inr rfl⟩)
    | @next text restText _ _ h hrest =>
      subst hnamed
      obtain ⟨blanks, tail, hblanks, hhead⟩ := hrest.head
      have hmember := parseMember_complete h hfits habsent
        ⟨0x2C, restText ++ 0x7D :: rest, rfl, .inl rfl⟩
      have hnext : skipWhitespace (restText ++ 0x7D :: rest) = 0x22 :: (tail ++ 0x7D :: rest) := by
        rw [hhead, List.append_assoc, skipWhitespace_blanks hblanks, List.cons_append,
          skipWhitespace_cons (by decide)]
      rw [List.append_assoc, List.cons_append, parseMembers_next hmember hnext (by decide), ← hnext]
      exact ih hrest hkeepable

theorem object_braces (text : List UInt8) :
    ¬((0x7B :: (text ++ [0x7D])).length < 2 ∨ (0x7B :: (text ++ [0x7D])).head? ≠ some 0x7B
      ∨ (0x7B :: (text ++ [0x7D])).getLast? ≠ some 0x7D) := by
  rw [← List.cons_append, List.getLast?_concat]
  simp

/-- The frames whose members are parsed are the objects of members that can be kept. -/
theorem parseObject_ok {frame : List UInt8} {fields : RawFields} :
    parseObject frame = .ok fields ↔ ∃ members : List FieldMember,
      Object PlainInteger frame (members.map FieldMember.named) ∧ Keepable {} members
      ∧ fields = members.foldl RawFields.keep {} := by
  constructor
  · intro h
    unfold parseObject at h
    split at h
    · cases h
    rename_i hframe
    dsimp only at h
    split at h
    · cases h
    rename_i fields' rest hmembers
    split at h
    · cases h
    rename_i hrest
    cases h
    obtain rfl := not_not.mp hrest
    simp only [not_or, not_not] at hframe
    obtain ⟨input, rfl⟩ : ∃ input, frame = 0x7B :: input := by
      cases frame with
      | nil => exact absurd hframe.2.1 nofun
      | cons byte input => exact ⟨input, by simpa using hframe.2.1⟩
    rw [List.tail_cons] at hmembers
    obtain ⟨blanks, hblanks, hinput⟩ := skipWhitespace_split input
    split at hmembers
    · cases hmembers
    rename_i byte tail hskipped
    rw [hskipped] at hinput
    split at hmembers
    next hclose =>
      cases hmembers
      refine ⟨[], ?_, trivial, rfl⟩
      rw [hinput, hclose]
      exact .empty hblanks
    next hclose =>
      obtain ⟨text, members, htext, hsplit, hkeepable, rfl⟩ := parseMembers_sound hmembers
      refine ⟨members, ?_, hkeepable, rfl⟩
      rw [hinput, hsplit, ← List.append_assoc]
      exact .members (htext.blanks hblanks)
  · rintro ⟨members, hobject, hkeepable, rfl⟩
    generalize hnamed : members.map FieldMember.named = named at hobject
    unfold parseObject
    cases hobject with
    | @empty text h =>
      obtain rfl := List.map_eq_nil_iff.mp hnamed
      rw [if_neg (object_braces text), List.tail_cons, skipWhitespace_blanks h, skipWhitespace_cons (by decide)]
      rfl
    | @members text _ h =>
      subst hnamed
      obtain ⟨blanks, tail, hblanks, hhead⟩ := h.head
      have hskipped : skipWhitespace (text ++ [0x7D]) = 0x22 :: (tail ++ [0x7D]) := by
        rw [hhead, List.append_assoc, skipWhitespace_blanks hblanks, List.cons_append,
          skipWhitespace_cons (by decide)]
      have hparsed := parseMembers_complete h hkeepable []
      rw [hskipped] at hparsed
      rw [if_neg (object_braces text), List.tail_cons, hskipped]
      dsimp only
      rw [if_neg (by decide), hparsed]
      rfl

/-! ## Fields -/

theorem bit_and_bit (field other : FieldId) :
    field.bit &&& other.bit = if field = other then field.bit else 0 := by
  cases field <;> cases other <;> rfl

theorem bit_ne_zero (field : FieldId) : field.bit ≠ 0 := by cases field <;> decide

theorem or_and_bit (present bits bit : UInt32) :
    (present ||| bits) &&& bit = present &&& bit ||| bits &&& bit :=
  UInt32.toBitVec_inj.mp BitVec.and_or_distrib_right

/-- The bits of a list of fields tell its members. -/
theorem fieldBits_and_bit (fields : List FieldId) (field : FieldId) (present : UInt32) :
    (fields.map FieldId.bit).foldl (· ||| ·) present &&& field.bit ≠ 0
      ↔ present &&& field.bit ≠ 0 ∨ field ∈ fields := by
  induction fields generalizing present with
  | nil => simp
  | cons other fields ih =>
    rw [List.map_cons, List.foldl_cons, ih, List.mem_cons, ← or_assoc]
    refine or_congr_left ?_
    rw [or_and_bit, bit_and_bit, ne_eq, UInt32.or_eq_zero_iff, not_and_or]
    refine or_congr_right ?_
    split
    next heq => simp [heq, bit_ne_zero]
    next hne => simp [Ne.symm hne]

theorem fieldBits_perm {fields others : List FieldId} (h : fields.Perm others) :
    fieldBits fields = fieldBits others := by
  refine (h.map FieldId.bit).foldl_eq' (fun x _ y _ z => ?_) 0
  rw [UInt32.or_assoc, UInt32.or_comm x, ← UInt32.or_assoc]

theorem perm_of_fieldBits {fields others : List FieldId} (h : fields.Nodup) (h' : others.Nodup)
    (heq : fieldBits fields = fieldBits others) : fields.Perm others := by
  refine (List.perm_ext_iff_of_nodup h h').mpr fun field => ?_
  have hfield := fieldBits_and_bit fields field 0
  have hother := fieldBits_and_bit others field 0
  rw [fieldBits, fieldBits] at heq
  rw [heq] at hfield
  simpa using hfield.symm.trans hother

namespace RawFields

/-- The value of a field. -/
def value (fields : RawFields) : FieldId → Value ℕ
  | .cmd => .string fields.cmd
  | .channel => .string fields.channel
  | .mode => .string fields.mode
  | .activeLevel => .string fields.activeLevel
  | .idleLevel => .string fields.idleLevel
  | .pulseMs => .number fields.pulseMs.toNat
  | .state => .string fields.state
  | .dataB64 => .string fields.dataB64

theorem setString_value_ne {fields : RawFields} {field other : FieldId} (h : other ≠ field)
    (bytes : List UInt8) : (fields.setString bytes field).value other = fields.value other := by
  cases field <;> cases other <;> first | rfl | exact absurd rfl h

theorem setString_value {fields : RawFields} {field : FieldId} (h : field ≠ .pulseMs)
    (bytes : List UInt8) : (fields.setString bytes field).value field = .string bytes := by
  cases field <;> first | rfl | exact absurd rfl h

@[simp] theorem markPresent_value (fields : RawFields) (field other : FieldId) :
    (fields.markPresent field).value other = fields.value other := by cases other <;> rfl

@[simp] theorem setString_present (fields : RawFields) (bytes : List UInt8) (field : FieldId) :
    (fields.setString bytes field).present = fields.present := by cases field <;> rfl

theorem keep_value {fields : RawFields} {member : FieldMember} (h : member.Fits) :
    (fields.keep member).value member.1 = member.2 := by
  obtain ⟨field, value⟩ := member
  rw [keep, markPresent_value]
  cases value with
  | string bytes => exact setString_value h.1 bytes
  | number n =>
    obtain ⟨rfl, hlimit⟩ := h
    rw [setValue, RawFields.value, UInt32.toNat_ofNat_of_lt' (Nat.lt_succ_of_le hlimit)]

theorem keep_value_ne {fields : RawFields} {member : FieldMember} (h : member.Fits)
    {field : FieldId} (hne : field ≠ member.1) : (fields.keep member).value field = fields.value field := by
  obtain ⟨other, value⟩ := member
  rw [keep, markPresent_value]
  cases value with
  | string bytes => exact setString_value_ne hne bytes
  | number n =>
    obtain ⟨rfl, hlimit⟩ := h
    cases field <;> first | rfl | exact absurd rfl hne

theorem keep_present (fields : RawFields) (member : FieldMember) :
    (fields.keep member).present = fields.present ||| member.1.bit := by
  obtain ⟨field, value⟩ := member
  cases value with
  | string bytes => exact congrArg (· ||| field.bit) (setString_present fields bytes field)
  | number n => rfl

theorem foldl_keep_present (fields : RawFields) (members : List FieldMember) :
    (members.foldl keep fields).present
      = ((members.map Prod.fst).map FieldId.bit).foldl (· ||| ·) fields.present := by
  induction members generalizing fields with
  | nil => rfl
  | cons member members ih => rw [List.foldl_cons, ih, keep_present]; rfl

end RawFields

/-- Members can be kept in fields that hold none of theirs when each field occurs once. -/
theorem keepable_iff {members : List FieldMember} {fields : RawFields} :
    Keepable fields members ↔ (∀ member ∈ members, member.Fits) ∧ (members.map Prod.fst).Nodup
      ∧ ∀ member ∈ members, fields.present &&& member.1.bit = 0 := by
  induction members generalizing fields with
  | nil => simp [Keepable]
  | cons member members ih =>
    have habsent : ∀ other : FieldMember, (fields.keep member).present &&& other.1.bit = 0
        ↔ fields.present &&& other.1.bit = 0 ∧ member.1 ≠ other.1 := by
      intro other
      rw [RawFields.keep_present, or_and_bit, bit_and_bit, UInt32.or_eq_zero_iff]
      refine and_congr_right fun _ => ?_
      split
      next heq => simp [heq, bit_ne_zero]
      next hne => simp [hne]
    rw [Keepable, ih]
    simp only [habsent, List.forall_mem_cons, List.map_cons, List.nodup_cons, List.mem_map,
      not_exists, not_and]
    constructor
    · rintro ⟨hfits, hbit, hrest, hnodup, hothers⟩
      exact ⟨⟨hfits, hrest⟩, ⟨fun other hmem heq => (hothers other hmem).2 heq.symm, hnodup⟩, hbit,
        fun other hmem => (hothers other hmem).1⟩
    · rintro ⟨⟨hfits, hrest⟩, ⟨hfresh, hnodup⟩, hbit, hothers⟩
      exact ⟨hfits, hbit, hrest, hnodup, fun other hmem =>
        ⟨hothers other hmem, fun heq => hfresh other hmem heq.symm⟩⟩

theorem foldl_keep_value_ne {members : List FieldMember} (h : ∀ member ∈ members, member.Fits)
    {field : FieldId} (hfresh : field ∉ members.map Prod.fst) (fields : RawFields) :
    (members.foldl RawFields.keep fields).value field = fields.value field := by
  induction members generalizing fields with
  | nil => rfl
  | cons member members ih =>
    obtain ⟨hfits, hrest⟩ := List.forall_mem_cons.mp h
    rw [List.map_cons, List.mem_cons, not_or] at hfresh
    rw [List.foldl_cons, ih hrest hfresh.2, RawFields.keep_value_ne hfits hfresh.1]

/-- The fields hold the value of each member. -/
theorem foldl_keep_value {members : List FieldMember} (h : ∀ member ∈ members, member.Fits)
    (hnodup : (members.map Prod.fst).Nodup) {member : FieldMember} (hmem : member ∈ members)
    (fields : RawFields) : (members.foldl RawFields.keep fields).value member.1 = member.2 := by
  induction members generalizing fields with
  | nil => cases hmem
  | cons other members ih =>
    obtain ⟨hfits, hrest⟩ := List.forall_mem_cons.mp h
    rw [List.map_cons, List.nodup_cons] at hnodup
    rw [List.foldl_cons]
    rcases List.mem_cons.mp hmem with rfl | hmem
    · rw [foldl_keep_value_ne hrest hnodup.1, RawFields.keep_value hfits]
    · exact ih hrest hnodup.2 hmem _

/-! ## Payloads -/

/-- The characters of ASCII bytes. -/
def asciiChars (bytes : List UInt8) : List Char := bytes.map fun b => Char.ofNat b.toNat

theorem base64Value_eq (byte : UInt8) : base64Value byte = Base64.value (Char.ofNat byte.toNat) := by
  have hall : ∀ n : Fin 256,
      base64Value (UInt8.ofFin n) = Base64.value (Char.ofNat (UInt8.ofFin n).toNat) := by
    decide +kernel
  exact hall byte.toFin

theorem ofNat_eq_pad {byte : UInt8} : Char.ofNat byte.toNat = '=' ↔ byte = 0x3D := by
  have hall : ∀ n : Fin 256, Char.ofNat (UInt8.ofFin n).toNat = '=' ↔ UInt8.ofFin n = 0x3D := by
    decide +kernel
  exact hall byte.toFin

theorem toUInt8_congr {m n : ℕ} (h : m % 256 = n % 256) : m.toUInt8 = n.toUInt8 := by
  refine UInt8.toNat_inj.mp ?_
  simpa using h

/-- What a decoded text adds to the payload, within the payload's room. -/
def Decodes (encoded output data : List UInt8) : Prop :=
  ∃ added : List UInt8, Base64.decode (asciiChars encoded) = some added ∧ data = output ++ added
    ∧ data.length ≤ uartSendMaxBytes

theorem decodeBase64Groups_nil (output : List UInt8) : decodeBase64Groups output [] = some output := by
  rw [decodeBase64Groups]
  intro _ _ _ _ _ h
  cases h

/-- The groups are decoded as base64 while the payload has room. -/
theorem decodeBase64Groups_iff (encoded : List UInt8) (hgroups : encoded.length % 4 = 0)
    {output data : List UInt8} (hroom : output.length ≤ uartSendMaxBytes) :
    decodeBase64Groups output encoded = some data ↔ Decodes encoded output data := by
  match encoded with
  | [] =>
    rw [decodeBase64Groups_nil, Option.some_inj]
    constructor
    · rintro rfl
      exact ⟨[], rfl, (List.append_nil _).symm, hroom⟩
    · rintro ⟨added, hadded, rfl, _⟩
      cases hadded
      exact (List.append_nil _).symm
  | [_] | [_, _] | [_, _, _] => simp at hgroups
  | first :: second :: third :: fourth :: rest =>
    simp only [List.length_cons] at hgroups
    have hrest : ∀ {output data : List UInt8}, output.length ≤ uartSendMaxBytes →
        (decodeBase64Groups output rest = some data ↔ Decodes rest output data) :=
      decodeBase64Groups_iff rest (by omega)
    unfold Decodes at hrest ⊢
    rw [decodeBase64Groups, base64Value_eq first, base64Value_eq second]
    simp only [asciiChars, List.map_cons, Base64.decode, Option.bind_eq_bind] at hrest ⊢
    cases ha : Base64.value (Char.ofNat first.toNat) with
    | none => simp
    | some a =>
    cases hb : Base64.value (Char.ofNat second.toNat) with
    | none => simp
    | some b =>
    simp only [Option.bind_some, ofNat_eq_pad, List.map_eq_nil_iff]
    by_cases hthird : third = 0x3D
    · rw [if_pos hthird, if_pos hthird]
      constructor
      · intro h
        split at h
        · cases h
        rename_i hfull
        split at h
        · cases h
        rename_i hend
        simp only [not_or, not_not] at hend
        obtain ⟨rfl, rfl⟩ := hend
        rw [decodeBase64Groups_nil] at h
        cases h
        refine ⟨[_], if_pos ⟨rfl, rfl⟩, rfl, ?_⟩
        simp only [List.length_append, List.length_singleton]
        omega
      · rintro ⟨added, hadded, rfl, hlength⟩
        split at hadded
        case isFalse => cases hadded
        rename_i hend
        obtain ⟨rfl, rfl⟩ := hend
        cases hadded
        simp only [List.length_append, List.length_singleton] at hlength
        rw [if_neg (by omega), if_neg (by simp), decodeBase64Groups_nil]
    rw [if_neg hthird, if_neg hthird, base64Value_eq third]
    cases hc : Base64.value (Char.ofNat third.toNat) with
    | none => simp
    | some c =>
    simp only [Option.bind_some]
    have hsecond : (b * 16 + c / 4).toUInt8 = (b % 16 * 16 + c / 4).toUInt8 :=
      toUInt8_congr (by omega)
    by_cases hfourth : fourth = 0x3D
    · rw [if_pos hfourth, if_pos hfourth]
      constructor
      · intro h
        split at h
        · cases h
        split at h
        · cases h
        rename_i hfull
        split at h
        · cases h
        rename_i hend
        obtain rfl := not_not.mp hend
        rw [decodeBase64Groups_nil] at h
        cases h
        refine ⟨[_, _], if_pos rfl, ?_, ?_⟩
        · rw [hsecond, List.append_assoc]
          rfl
        · simp only [List.length_append, List.length_singleton] at hfull ⊢
          omega
      · rintro ⟨added, hadded, rfl, hlength⟩
        split at hadded
        case isFalse => cases hadded
        rename_i hend
        subst hend
        cases hadded
        simp only [List.length_append, List.length_cons, List.length_nil] at hlength
        rw [if_neg (by omega), if_neg (by simp; omega), if_neg (by simp), decodeBase64Groups_nil,
          hsecond, List.append_assoc]
        rfl
    rw [if_neg hfourth, if_neg hfourth, base64Value_eq fourth]
    cases hd : Base64.value (Char.ofNat fourth.toNat) with
    | none => simp
    | some d =>
    simp only [Option.bind_some]
    have hlast : (c * 64 + d).toUInt8 = (c % 4 * 64 + d).toUInt8 := toUInt8_congr (by omega)
    constructor
    · intro h
      split at h
      · cases h
      split at h
      · cases h
      split at h
      · cases h
      rename_i hfull
      simp only [List.length_append, List.length_singleton] at hfull
      obtain ⟨added, hadded, rfl, hlength⟩ := (hrest (by
        simp only [List.length_append, List.length_singleton]
        omega)).mp h
      refine ⟨_, by rw [hadded]; rfl, ?_, hlength⟩
      rw [hsecond, hlast]
      simp
    · rintro ⟨added, hadded, rfl, hlength⟩
      obtain ⟨tail, htail, heq⟩ := Option.bind_eq_some_iff.mp hadded
      cases heq
      simp only [List.length_append, List.length_cons] at hlength
      rw [if_neg (by omega), if_neg (by simp; omega), if_neg (by simp; omega)]
      refine (hrest (by simp; omega)).mpr ⟨tail, htail, ?_, ?_⟩
      · rw [hsecond, hlast]
        simp
      · simp only [List.length_append, List.length_cons]
        omega
termination_by encoded.length

theorem decodeBase64_iff {encoded data : List UInt8} :
    decodeBase64 encoded = some data ↔ Base64.decode (asciiChars encoded) = some data
      ∧ 1 ≤ data.length ∧ data.length ≤ uartSendMaxBytes := by
  have hlength : (asciiChars encoded).length = encoded.length := List.length_map _
  have hnil : ([] : List UInt8).length ≤ uartSendMaxBytes := Nat.zero_le _
  unfold decodeBase64
  constructor
  · intro h
    split at h
    · cases h
    rename_i hframe
    simp only [not_or, not_lt, not_not] at hframe
    obtain ⟨hgroups, hne⟩ := Option.filter_eq_some_iff.mp h
    obtain ⟨added, hadded, rfl, hroom⟩ := (decodeBase64Groups_iff encoded hframe.2.2 hnil).mp hgroups
    exact ⟨hadded, List.length_pos_of_ne_nil (of_decide_eq_true hne), hroom⟩
  · rintro ⟨hdecode, hpos, hroom⟩
    have htext := Base64.length_of_decode hdecode
    rw [hlength] at htext
    have hmax : uartSendMaxBytes = 1024 := rfl
    have hencoded : base64MaxBytes = 1368 := rfl
    have hgroups := (decodeBase64Groups_iff encoded (by omega) hnil).mpr ⟨data, hdecode, rfl, hroom⟩
    rw [if_neg (by omega), Option.filter_eq_some_iff]
    exact ⟨hgroups, decide_eq_true (List.ne_nil_of_length_pos hpos)⟩

/-! ## Commands -/

/-- The text of a channel. -/
def channelText (channel : ℕ) : List UInt8 := ascii "CTRL" ++ [(0x30 + channel).toUInt8]

/-- The commands that members denote: the fields of one command, each once and in any order, with
the values the command admits. -/
inductive Denotes {α : Type} [NatCast α] : List (List UInt8 × Value α) → Command → Prop
  | openDrain {members : List (List UInt8 × Value α)} {channel : ℕ} (hchannel : channel < 4)
      (hmembers : members.Perm
        [(ascii "cmd", .string (ascii "configure_gpio_mode")),
          (ascii "channel", .string (channelText channel)),
          (ascii "mode", .string (ascii "open_drain")),
          (ascii "active_level", .string (ascii "low"))]) :
      Denotes members (.configureGpioMode channel .openDrain .low false .low)
  | pushPull {members : List (List UInt8 × Value α)} {channel : ℕ} {active idle : ControlLevel}
      (hchannel : channel < 4) (hlevels : active ≠ idle)
      (hmembers : members.Perm
        [(ascii "cmd", .string (ascii "configure_gpio_mode")),
          (ascii "channel", .string (channelText channel)),
          (ascii "mode", .string (ascii "push_pull")),
          (ascii "active_level", .string (ascii active.name)),
          (ascii "idle_level", .string (ascii idle.name))]) :
      Denotes members (.configureGpioMode channel .pushPull active true idle)
  | pulseControl {members : List (List UInt8 × Value α)} {channel pulseMs : ℕ}
      (hchannel : channel < 4) (hmin : 1 ≤ pulseMs) (hmax : pulseMs ≤ 10000)
      (hmembers : members.Perm
        [(ascii "cmd", .string (ascii "pulse_control")),
          (ascii "channel", .string (channelText channel)), (ascii "pulse_ms", .number pulseMs)]) :
      Denotes members (.pulseControl channel pulseMs.toUInt32)
  | setControlState {members : List (List UInt8 × Value α)} {channel : ℕ} {target : ControlTarget}
      (hchannel : channel < 4)
      (hmembers : members.Perm
        [(ascii "cmd", .string (ascii "set_control_state")),
          (ascii "channel", .string (channelText channel)),
          (ascii "state", .string (ascii target.name))]) :
      Denotes members (.setControlState channel target)
  | uartSend {members : List (List UInt8 × Value α)} {text data : List UInt8}
      (hdata : Base64.decode (asciiChars text) = some data) (hmin : 1 ≤ data.length)
      (hmax : data.length ≤ 1024)
      (hmembers : members.Perm
        [(ascii "cmd", .string (ascii "uart_send")), (ascii "data_b64", .string text)]) :
      Denotes members (.uartSend data)

theorem named_injective : Function.Injective FieldMember.named := by
  rintro ⟨field, value⟩ ⟨other, value'⟩ h
  obtain ⟨hname, rfl⟩ := Prod.mk.inj h
  have hfield := fromName_name field
  dsimp only at hname
  rw [hname, fromName_name] at hfield
  rw [Option.some_inj.mp hfield]

/-- The value of each field of a command, in the command's order. -/
theorem members_perm {members : List FieldMember} (h : Keepable {} members) {required : List FieldId}
    (hnodup : required.Nodup)
    (hpresent : (members.foldl RawFields.keep {}).present = fieldBits required) :
    members.Perm (required.map fun field => (field, (members.foldl RawFields.keep {}).value field)) := by
  obtain ⟨hfits, hfields, -⟩ := keepable_iff.mp h
  rw [RawFields.foldl_keep_present] at hpresent
  have hperm := (perm_of_fieldBits hfields hnodup hpresent).map
    fun field => (field, (members.foldl RawFields.keep {}).value field)
  rw [List.map_map] at hperm
  convert hperm using 1
  refine (List.map_id members).symm.trans (List.map_congr_left fun member hmem => ?_)
  rw [Function.comp_apply, foldl_keep_value hfits hfields hmem]
  rfl

/-- Members are a command's when their fields are and hold its values. -/
theorem named_perm_iff {members : List FieldMember} (h : Keepable {} members)
    (fields : List FieldId) {required : List FieldMember} (hrequired : required.map Prod.fst = fields)
    (hnodup : fields.Nodup) :
    (members.map FieldMember.named).Perm (required.map FieldMember.named)
      ↔ (members.foldl RawFields.keep {}).present = fieldBits fields
        ∧ ∀ member ∈ required, (members.foldl RawFields.keep {}).value member.1 = member.2 := by
  rw [List.map_perm_map_iff named_injective]
  subst hrequired
  obtain ⟨hfits, hfields, -⟩ := keepable_iff.mp h
  constructor
  · intro hperm
    refine ⟨?_, fun member hmem => foldl_keep_value hfits hfields (hperm.mem_iff.mpr hmem) _⟩
    rw [RawFields.foldl_keep_present]
    exact fieldBits_perm (hperm.map Prod.fst)
  · rintro ⟨hpresent, hvalues⟩
    refine (members_perm h hnodup hpresent).trans (List.Perm.of_eq ?_)
    rw [List.map_map]
    refine (List.map_congr_left fun member hmem => ?_).trans (List.map_id required)
    rw [Function.comp_apply, hvalues member hmem]
    rfl

/-! The members of each command. -/

section

variable (channel : ℕ)

def openDrainMembers : List FieldMember :=
  [(.cmd, .string (ascii "configure_gpio_mode")), (.channel, .string (channelText channel)),
    (.mode, .string (ascii "open_drain")), (.activeLevel, .string (ascii "low"))]

def pushPullMembers (active idle : ControlLevel) : List FieldMember :=
  [(.cmd, .string (ascii "configure_gpio_mode")), (.channel, .string (channelText channel)),
    (.mode, .string (ascii "push_pull")), (.activeLevel, .string (ascii active.name)),
    (.idleLevel, .string (ascii idle.name))]

def pulseControlMembers (pulseMs : ℕ) : List FieldMember :=
  [(.cmd, .string (ascii "pulse_control")), (.channel, .string (channelText channel)),
    (.pulseMs, .number pulseMs)]

def setControlStateMembers (target : ControlTarget) : List FieldMember :=
  [(.cmd, .string (ascii "set_control_state")), (.channel, .string (channelText channel)),
    (.state, .string (ascii target.name))]

def uartSendMembers (text : List UInt8) : List FieldMember :=
  [(.cmd, .string (ascii "uart_send")), (.dataB64, .string text)]

end

theorem decodeChannel_eq_some {value : List UInt8} {channel : ℕ} :
    decodeChannel value = some channel ↔ channel < 4 ∧ value = channelText channel := by
  constructor
  · intro h
    unfold decodeChannel at h
    split at h
    case h_2 => cases h
    rename_i c t r l digit
    split at h
    · cases h
    rename_i hvalue
    cases h
    simp only [not_or, not_not, UInt8.not_lt] at hvalue
    obtain ⟨hletters, hlow, hhigh⟩ := hvalue
    rw [UInt8.le_iff_toNat_le] at hlow hhigh
    have hlow : 0x30 ≤ digit.toNat := hlow
    have hhigh : digit.toNat ≤ 0x33 := hhigh
    refine ⟨by omega, ?_⟩
    rw [channelText, ← hletters, Nat.add_sub_cancel' hlow]
    simp
  · rintro ⟨hchannel, rfl⟩
    have hall : ∀ channel < 4, decodeChannel (channelText channel) = some channel := by decide
    exact hall channel hchannel

theorem decodeLevel_eq_some {value : List UInt8} {level : ControlLevel} :
    decodeLevel value = some level ↔ value = ascii level.name := by
  unfold decodeLevel
  constructor
  · intro h
    split at h
    · cases h
      assumption
    split at h
    · cases h
      assumption
    · cases h
  · rintro rfl
    cases level <;> decide

/-- A command's fields are decoded by the decoder its name selects. -/
theorem decodeFields_eq_ok {fields : RawFields} {command : Command} :
    decodeFields fields = .ok command ↔ fields.present &&& FieldId.cmd.bit ≠ 0
      ∧ (fields.cmd = ascii "configure_gpio_mode" ∧ decodeConfigure fields = some command
        ∨ fields.cmd = ascii "pulse_control" ∧ decodePulse fields = some command
        ∨ fields.cmd = ascii "set_control_state" ∧ decodeState fields = some command
        ∨ fields.cmd = ascii "uart_send" ∧ decodeUartSend fields = some command) := by
  unfold decodeFields
  by_cases hpresent : fields.present &&& FieldId.cmd.bit = 0
  · simp [hpresent]
  by_cases hname : fields.cmd = []
  · simp [hname, ascii]
  rw [if_neg (not_or.mpr ⟨hpresent, hname⟩)]
  dsimp only
  have hnames : (ascii "configure_gpio_mode" ≠ ascii "pulse_control"
      ∧ ascii "configure_gpio_mode" ≠ ascii "set_control_state"
      ∧ ascii "configure_gpio_mode" ≠ ascii "uart_send"
      ∧ ascii "pulse_control" ≠ ascii "set_control_state"
      ∧ ascii "pulse_control" ≠ ascii "uart_send"
      ∧ ascii "set_control_state" ≠ ascii "uart_send") := by decide
  obtain ⟨h₁, h₂, h₃, h₄, h₅, h₆⟩ := hnames
  by_cases hconfigure : fields.cmd = ascii "configure_gpio_mode"
  · rw [if_pos hconfigure]
    cases decodeConfigure fields <;> simp [hconfigure, hpresent, h₁, h₂, h₃]
  by_cases hpulse : fields.cmd = ascii "pulse_control"
  · rw [if_neg hconfigure, if_pos hpulse]
    cases decodePulse fields <;> simp [hpulse, hpresent, h₁.symm, h₄, h₅]
  by_cases hstate : fields.cmd = ascii "set_control_state"
  · rw [if_neg hconfigure, if_neg hpulse, if_pos hstate]
    cases decodeState fields <;> simp [hstate, hpresent, h₂.symm, h₄.symm, h₆]
  by_cases huart : fields.cmd = ascii "uart_send"
  · rw [if_neg hconfigure, if_neg hpulse, if_neg hstate, if_pos huart]
    cases decodeUartSend fields <;> simp [huart, hpresent, h₃.symm, h₅.symm, h₆.symm]
  · rw [if_neg hconfigure, if_neg hpulse, if_neg hstate, if_neg huart]
    simp [hconfigure, hpulse, hstate, huart]

theorem decodeConfigure_eq_some {fields : RawFields} {command : Command} :
    decodeConfigure fields = some command ↔ ∃ channel < 4, fields.channel = channelText channel
      ∧ (fields.activeLevel = ascii "low" ∧ fields.mode = ascii "open_drain"
          ∧ fields.present = fieldBits [.cmd, .channel, .mode, .activeLevel]
          ∧ command = .configureGpioMode channel .openDrain .low false .low
        ∨ ∃ active idle : ControlLevel, fields.activeLevel = ascii active.name
          ∧ fields.idleLevel = ascii idle.name ∧ active ≠ idle ∧ fields.mode = ascii "push_pull"
          ∧ fields.present = fieldBits [.cmd, .channel, .mode, .activeLevel, .idleLevel]
          ∧ command = .configureGpioMode channel .pushPull active true idle) := by
  have hmodes : ascii "push_pull" ≠ ascii "open_drain" := by decide
  constructor
  · intro h
    unfold decodeConfigure at h
    split at h
    case h_2 => cases h
    rename_i channel active hchannel hactive
    obtain ⟨hlt, hchannel⟩ := decodeChannel_eq_some.mp hchannel
    refine ⟨channel, hlt, hchannel, ?_⟩
    dsimp only at h
    split at h
    · rename_i hmode
      split at h
      · cases h
      rename_i hcheck
      simp only [not_or, not_not] at hcheck
      obtain ⟨hpresent, rfl⟩ := hcheck
      cases h
      exact .inl ⟨decodeLevel_eq_some.mp hactive, hmode, hpresent, rfl⟩
    split at h
    case isFalse => cases h
    rename_i hmode
    split at h
    · cases h
    rename_i hpresent
    split at h
    · cases h
    rename_i idle hidle
    split at h
    · cases h
    rename_i hlevels
    cases h
    exact .inr ⟨active, idle, decodeLevel_eq_some.mp hactive, decodeLevel_eq_some.mp hidle, hlevels,
      hmode, not_not.mp hpresent, rfl⟩
  · rintro ⟨channel, hlt, hchannel, h⟩
    have hchannel := decodeChannel_eq_some.mpr ⟨hlt, hchannel⟩
    unfold decodeConfigure
    rcases h with ⟨hactive, hmode, hpresent, rfl⟩
      | ⟨active, idle, hactive, hidle, hlevels, hmode, hpresent, rfl⟩
    · have hactive : decodeLevel fields.activeLevel = some .low := decodeLevel_eq_some.mpr hactive
      rw [hchannel, hactive]
      dsimp only
      rw [if_pos hmode, if_neg (by simp [hpresent])]
    · rw [hchannel, decodeLevel_eq_some.mpr hactive]
      dsimp only
      have hrequired : fields.present
          = fieldBits [.cmd, .channel, .mode, .activeLevel] ||| FieldId.idleLevel.bit := hpresent
      rw [hmode, if_neg hmodes, if_pos rfl, if_neg (not_not.mpr hrequired),
        decodeLevel_eq_some.mpr hidle]
      dsimp only
      rw [if_neg hlevels]

theorem decodePulse_eq_some {fields : RawFields} {command : Command} :
    decodePulse fields = some command ↔ ∃ channel < 4, fields.channel = channelText channel
      ∧ fields.present = fieldBits [.cmd, .channel, .pulseMs] ∧ 1 ≤ fields.pulseMs
      ∧ fields.pulseMs ≤ 10000 ∧ command = .pulseControl channel fields.pulseMs := by
  unfold decodePulse
  constructor
  · intro h
    split at h
    · cases h
    rename_i hcheck
    simp only [not_or, not_not, UInt32.not_lt] at hcheck
    obtain ⟨channel, hchannel, rfl⟩ := Option.map_eq_some_iff.mp h
    obtain ⟨hlt, hchannel⟩ := decodeChannel_eq_some.mp hchannel
    exact ⟨channel, hlt, hchannel, hcheck.1, hcheck.2.1, hcheck.2.2, rfl⟩
  · rintro ⟨channel, hlt, hchannel, hpresent, hmin, hmax, rfl⟩
    have hcheck : ¬(fields.present ≠ fieldBits [.cmd, .channel, .pulseMs] ∨ fields.pulseMs < 1
        ∨ 10000 < fields.pulseMs) := by
      simp only [not_or, not_not, UInt32.not_lt]
      exact ⟨hpresent, hmin, hmax⟩
    rw [if_neg hcheck, decodeChannel_eq_some.mpr ⟨hlt, hchannel⟩]
    rfl

theorem decodeState_eq_some {fields : RawFields} {command : Command} :
    decodeState fields = some command ↔ ∃ channel < 4, fields.channel = channelText channel
      ∧ fields.present = fieldBits [.cmd, .channel, .state] ∧ ∃ target : ControlTarget,
        fields.state = ascii target.name ∧ command = .setControlState channel target := by
  unfold decodeState
  constructor
  · intro h
    split at h
    · cases h
    rename_i hpresent
    split at h
    · cases h
    rename_i channel hchannel
    obtain ⟨hlt, hchannel⟩ := decodeChannel_eq_some.mp hchannel
    refine ⟨channel, hlt, hchannel, not_not.mp hpresent, ?_⟩
    split at h
    · cases h
      exact ⟨.active, ‹_›, rfl⟩
    split at h
    · cases h
      exact ⟨.idle, ‹_›, rfl⟩
    · cases h
  · rintro ⟨channel, hlt, hchannel, hpresent, target, htarget, rfl⟩
    rw [if_neg (not_not.mpr hpresent), decodeChannel_eq_some.mpr ⟨hlt, hchannel⟩, htarget]
    cases target <;> rfl

theorem decodeUartSend_eq_some {fields : RawFields} {command : Command} :
    decodeUartSend fields = some command ↔ fields.present = fieldBits [.cmd, .dataB64]
      ∧ ∃ data : List UInt8, Base64.decode (asciiChars fields.dataB64) = some data
        ∧ 1 ≤ data.length ∧ data.length ≤ uartSendMaxBytes ∧ command = .uartSend data := by
  unfold decodeUartSend
  constructor
  · intro h
    split at h
    · cases h
    rename_i hpresent
    obtain ⟨data, hdata, rfl⟩ := Option.map_eq_some_iff.mp h
    obtain ⟨hdecode, hmin, hmax⟩ := decodeBase64_iff.mp hdata
    exact ⟨not_not.mp hpresent, data, hdecode, hmin, hmax, rfl⟩
  · rintro ⟨hpresent, data, hdecode, hmin, hmax, rfl⟩
    rw [if_neg (not_not.mpr hpresent), decodeBase64_iff.mpr ⟨hdecode, hmin, hmax⟩]
    rfl

/-- Fields that were kept are decoded to the command their members denote. -/
theorem decodeFields_iff {members : List FieldMember} (h : Keepable {} members) {command : Command} :
    decodeFields (members.foldl RawFields.keep {}) = .ok command
      ↔ Denotes (members.map FieldMember.named) command := by
  have hopenDrain := fun channel => named_perm_iff h [.cmd, .channel, .mode, .activeLevel]
    (rfl : (openDrainMembers channel).map Prod.fst = _) (by decide)
  have hpushPull := fun channel active idle =>
    named_perm_iff h [.cmd, .channel, .mode, .activeLevel, .idleLevel]
      (rfl : (pushPullMembers channel active idle).map Prod.fst = _) (by decide)
  have hpulseControl := fun channel pulseMs => named_perm_iff h [.cmd, .channel, .pulseMs]
    (rfl : (pulseControlMembers channel pulseMs).map Prod.fst = _) (by decide)
  have hsetControlState := fun channel target => named_perm_iff h [.cmd, .channel, .state]
    (rfl : (setControlStateMembers channel target).map Prod.fst = _) (by decide)
  have huartSend := fun text => named_perm_iff h [.cmd, .dataB64]
    (rfl : (uartSendMembers text).map Prod.fst = _) (by decide)
  generalize members.foldl RawFields.keep {} = fields at *
  rw [decodeFields_eq_ok]
  constructor
  · rintro ⟨-, ⟨hcmd, hdecoded⟩ | ⟨hcmd, hdecoded⟩ | ⟨hcmd, hdecoded⟩ | ⟨hcmd, hdecoded⟩⟩
    · obtain ⟨channel, hlt, hchannel, ⟨hactive, hmode, hpresent, rfl⟩
        | ⟨active, idle, hactive, hidle, hlevels, hmode, hpresent, rfl⟩⟩ :=
        decodeConfigure_eq_some.mp hdecoded
      · refine .openDrain hlt ((hopenDrain channel).mpr ⟨hpresent, ?_⟩)
        simp [openDrainMembers, RawFields.value, hcmd, hchannel, hmode, hactive]
      · refine .pushPull hlt hlevels ((hpushPull channel active idle).mpr ⟨hpresent, ?_⟩)
        simp [pushPullMembers, RawFields.value, hcmd, hchannel, hmode, hactive, hidle]
    · obtain ⟨channel, hlt, hchannel, hpresent, hmin, hmax, rfl⟩ := decodePulse_eq_some.mp hdecoded
      have hmembers := (hpulseControl channel fields.pulseMs.toNat).mpr ⟨hpresent, by
        simp [pulseControlMembers, RawFields.value, hcmd, hchannel]⟩
      have hpulse : Denotes (members.map FieldMember.named)
          (.pulseControl channel fields.pulseMs.toNat.toUInt32) :=
        .pulseControl hlt (UInt32.le_iff_toNat_le.mp hmin) (UInt32.le_iff_toNat_le.mp hmax) hmembers
      rwa [Nat.toUInt32_eq, UInt32.ofNat_toNat] at hpulse
    · obtain ⟨channel, hlt, hchannel, hpresent, target, htarget, rfl⟩ := decodeState_eq_some.mp hdecoded
      refine .setControlState hlt ((hsetControlState channel target).mpr ⟨hpresent, ?_⟩)
      simp [setControlStateMembers, RawFields.value, hcmd, hchannel, htarget]
    · obtain ⟨hpresent, data, hdata, hmin, hmax, rfl⟩ := decodeUartSend_eq_some.mp hdecoded
      refine .uartSend hdata hmin hmax ((huartSend fields.dataB64).mpr ⟨hpresent, ?_⟩)
      simp [uartSendMembers, RawFields.value, hcmd]
  · intro hdenotes
    cases hdenotes with
    | @openDrain channel hchannel hmembers =>
      obtain ⟨hpresent, hvalues⟩ := (hopenDrain channel).mp hmembers
      simp only [openDrainMembers, List.forall_mem_cons, RawFields.value, Value.string.injEq] at hvalues
      obtain ⟨hcmd, hchannelText, hmode, hactive, -⟩ := hvalues
      refine ⟨by rw [hpresent]; decide, .inl ⟨hcmd, decodeConfigure_eq_some.mpr ?_⟩⟩
      exact ⟨channel, hchannel, hchannelText, .inl ⟨hactive, hmode, hpresent, rfl⟩⟩
    | @pushPull channel active idle hchannel hlevels hmembers =>
      obtain ⟨hpresent, hvalues⟩ := (hpushPull channel active idle).mp hmembers
      simp only [pushPullMembers, List.forall_mem_cons, RawFields.value, Value.string.injEq] at hvalues
      obtain ⟨hcmd, hchannelText, hmode, hactive, hidle, -⟩ := hvalues
      refine ⟨by rw [hpresent]; decide, .inl ⟨hcmd, decodeConfigure_eq_some.mpr ?_⟩⟩
      exact ⟨channel, hchannel, hchannelText,
        .inr ⟨active, idle, hactive, hidle, hlevels, hmode, hpresent, rfl⟩⟩
    | @pulseControl channel pulseMs hchannel hmin hmax hmembers =>
      obtain ⟨hpresent, hvalues⟩ := (hpulseControl channel pulseMs).mp hmembers
      simp only [pulseControlMembers, List.forall_mem_cons, RawFields.value, Value.string.injEq,
        Value.number.injEq] at hvalues
      obtain ⟨hcmd, hchannelText, rfl, -⟩ := hvalues
      refine ⟨by rw [hpresent]; decide, .inr (.inl ⟨hcmd, decodePulse_eq_some.mpr ?_⟩)⟩
      refine ⟨channel, hchannel, hchannelText, hpresent, hmin, hmax, ?_⟩
      rw [Nat.toUInt32_eq, UInt32.ofNat_toNat]
    | @setControlState channel target hchannel hmembers =>
      obtain ⟨hpresent, hvalues⟩ := (hsetControlState channel target).mp hmembers
      simp only [setControlStateMembers, List.forall_mem_cons, RawFields.value,
        Value.string.injEq] at hvalues
      obtain ⟨hcmd, hchannelText, htarget, -⟩ := hvalues
      refine ⟨by rw [hpresent]; decide, .inr (.inr (.inl ⟨hcmd, decodeState_eq_some.mpr ?_⟩))⟩
      exact ⟨channel, hchannel, hchannelText, hpresent, target, htarget, rfl⟩
    | @uartSend text data hdata hmin hmax hmembers =>
      obtain ⟨hpresent, hvalues⟩ := (huartSend text).mp hmembers
      simp only [uartSendMembers, List.forall_mem_cons, RawFields.value,
        Value.string.injEq] at hvalues
      obtain ⟨hcmd, rfl, -⟩ := hvalues
      refine ⟨by rw [hpresent]; decide, .inr (.inr (.inr ⟨hcmd, decodeUartSend_eq_some.mpr ?_⟩))⟩
      exact ⟨hpresent, data, hdata, hmin, hmax, rfl⟩

/-- The members of a command can be kept. -/
theorem Denotes.keepable {named : List (List UInt8 × Value ℕ)} {command : Command}
    (h : Denotes named command) :
    ∃ members : List FieldMember, named = members.map FieldMember.named ∧ Keepable {} members := by
  have hchannel : ∀ channel < 4, (channelText channel).length < 6 := by decide
  have hperm : ∀ (required : List FieldMember), named.Perm (required.map FieldMember.named) →
      (∀ member ∈ required, member.Fits) → (required.map Prod.fst).Nodup →
      ∃ members : List FieldMember, named = members.map FieldMember.named ∧ Keepable {} members := by
    intro required hnamed hfits hnodup
    have hrange : named ∈ Set.range (List.map FieldMember.named) := by
      rw [Set.range_list_map]
      intro member hmem
      obtain ⟨origin, -, heq⟩ := List.mem_map.mp (hnamed.mem_iff.mp hmem)
      exact ⟨origin, heq⟩
    obtain ⟨members, rfl⟩ := hrange
    have hperm := (List.map_perm_map_iff named_injective).mp hnamed
    exact ⟨members, rfl, keepable_iff.mpr ⟨fun member hmem => hfits member (hperm.mem_iff.mp hmem),
      (hperm.map Prod.fst).nodup_iff.mpr hnodup, fun _ _ => UInt32.zero_and⟩⟩
  cases h with
  | @openDrain channel hlt hmembers =>
    refine hperm (openDrainMembers channel) hmembers ?_
      (show List.Nodup [FieldId.cmd, .channel, .mode, .activeLevel] by decide)
    simp only [openDrainMembers, FieldMember.Fits, List.forall_mem_cons, List.not_mem_nil, false_imp_iff,
      implies_true, and_true]
    exact ⟨by decide, ⟨by decide, hchannel channel hlt⟩, by decide, by decide⟩
  | @pushPull channel active idle hlt _ hmembers =>
    refine hperm (pushPullMembers channel active idle) hmembers ?_
      (show List.Nodup [FieldId.cmd, .channel, .mode, .activeLevel, .idleLevel] by decide)
    simp only [pushPullMembers, FieldMember.Fits, List.forall_mem_cons, List.not_mem_nil, false_imp_iff,
      implies_true, and_true]
    refine ⟨by decide, ⟨by decide, hchannel channel hlt⟩, by decide, ?_, ?_⟩
    · cases active <;> decide
    · cases idle <;> decide
  | @pulseControl channel pulseMs hlt hmin hmax hmembers =>
    refine hperm (pulseControlMembers channel pulseMs) hmembers ?_
      (show List.Nodup [FieldId.cmd, .channel, .pulseMs] by decide)
    simp only [pulseControlMembers, FieldMember.Fits, List.forall_mem_cons, List.not_mem_nil, false_imp_iff,
      implies_true, and_true]
    exact ⟨by decide, ⟨by decide, hchannel channel hlt⟩, trivial, by omega⟩
  | @setControlState channel target hlt hmembers =>
    refine hperm (setControlStateMembers channel target) hmembers ?_
      (show List.Nodup [FieldId.cmd, .channel, .state] by decide)
    simp only [setControlStateMembers, FieldMember.Fits, List.forall_mem_cons, List.not_mem_nil, false_imp_iff,
      implies_true, and_true]
    refine ⟨by decide, ⟨by decide, hchannel channel hlt⟩, ?_⟩
    cases target <;> decide
  | @uartSend text data hdata hmin hmax hmembers =>
    refine hperm (uartSendMembers text) hmembers ?_
      (show List.Nodup [FieldId.cmd, .dataB64] by decide)
    simp only [uartSendMembers, FieldMember.Fits, List.forall_mem_cons, List.not_mem_nil, false_imp_iff,
      implies_true, and_true]
    refine ⟨by decide, by decide, ?_⟩
    have htext := Base64.length_of_decode hdata
    rw [asciiChars, List.length_map] at htext
    have hcapacity : RawFields.capacity .dataB64 = 1369 := rfl
    omega

/-- A frame is decoded exactly when it is short enough and is one object whose members denote a
command, and then to that command. -/
theorem commandDecode_eq_ok {frame : List UInt8} {command : Command} :
    commandDecode frame = .ok command ↔ frame.length ≤ commandFrameMaxBodyBytes
      ∧ ∃ members, Object PlainInteger frame members ∧ Denotes members command := by
  unfold commandDecode
  constructor
  · intro h
    split at h
    · cases h
    rename_i hlength
    split at h
    · cases h
    rename_i fields hparsed
    obtain ⟨members, hobject, hkeepable, rfl⟩ := parseObject_ok.mp hparsed
    exact ⟨by omega, _, hobject, (decodeFields_iff hkeepable).mp h⟩
  · rintro ⟨hlength, named, hobject, hdenotes⟩
    obtain ⟨members, rfl, hkeepable⟩ := hdenotes.keepable
    have hne : frame.length ≠ 0 := by
      generalize members.map FieldMember.named = named at hobject
      cases hobject <;> simp
    rw [if_neg (by omega), parseObject_ok.mpr ⟨members, hobject, hkeepable, rfl⟩]
    exact (decodeFields_iff hkeepable).mpr hdenotes
