/-
# The round trip of commands

A command the host builds is a flat object of plain texts and a number; the firmware's parser
stores exactly these members (`parseObject_entries`) and decodes them to a command with the
same fields.
-/
import DutchMate.CommandWire

/-! ## Written text -/

/-- A character that a string literal shows as itself, in one byte. -/
def isPlain (c : Char) : Bool := 0x20 ≤ c.toNat && c.toNat < 0x7F && c ≠ '"' && c ≠ '\\'

def Plain (s : String) : Prop := ∀ c ∈ s.toList, isPlain c = true

instance (s : String) : Decidable (Plain s) := List.decidableBAll _ _

/-- The byte of an ASCII character. -/
def byteOf (c : Char) : UInt8 := c.toNat.toUInt8

theorem keptChar_plain {c : Char} (h : isPlain c = true) : keptChar c = [c] := by
  simp only [isPlain, Bool.and_eq_true, decide_eq_true_eq] at h
  obtain ⟨⟨⟨hlow, _⟩, hquote⟩, hbackslash⟩ := h
  have hne : ∀ d : Char, d.toNat < 0x20 → c ≠ d := by
    rintro d hd rfl
    omega
  unfold keptChar
  rw [if_neg hquote, if_neg hbackslash, if_neg (hne _ (by decide)), if_neg (hne _ (by decide)),
    if_neg (hne _ (by decide)), if_neg (hne _ (by decide)), if_neg (hne _ (by decide)),
    if_neg (by omega)]

theorem keptStringChars_plain {s : String} (h : Plain s) :
    keptStringChars s = '"' :: (s.toList ++ ['"']) := by
  have hkept : s.toList.flatMap keptChar = s.toList := by
    rw [List.flatMap_congr fun c hc => keptChar_plain (h c hc)]
    exact List.flatMap_singleton' _
  rw [keptStringChars, hkept]

theorem utf8EncodeChar_ascii {c : Char} (h : c.toNat < 0x80) :
    String.utf8EncodeChar c = [byteOf c] :=
  if_pos (show c.val.toNat ≤ 0x7F from Nat.le_of_lt_succ h)

theorem isPlain_lt {c : Char} (h : isPlain c = true) : c.toNat < 0x7F := by
  simp only [isPlain, Bool.and_eq_true, decide_eq_true_eq] at h
  exact h.1.1.2

theorem utf8_ascii {cs : List Char} (h : ∀ c ∈ cs, c.toNat < 0x80) :
    cs.flatMap String.utf8EncodeChar = cs.map byteOf := by
  rw [List.flatMap_congr fun c hc => utf8EncodeChar_ascii (h c hc)]
  exact List.map_eq_flatMap.symm

/-- The bytes of a value. -/
def PayloadValue.bytes : PayloadValue → List UInt8
  | text s => 0x22 :: (ascii s ++ [0x22])
  | number n => (Json.intChars n).map byteOf

/-- A member of the object with its field. -/
abbrev Entry := FieldId × PayloadValue

namespace Entry

def bytes (entry : Entry) : List UInt8 :=
  0x22 :: (ascii entry.1.name ++ 0x22 :: 0x3A :: entry.2.bytes)

def payloadField (entry : Entry) : String × PayloadValue := (entry.1.name, entry.2)

/-- What the firmware makes of the member. -/
def store (fields : RawFields) (entry : Entry) : RawFields :=
  match entry with
  | (field, .text s) => (fields.setString (ascii s) field).markPresent field
  | (field, .number n) => { fields with pulseMs := n.toNat.toUInt32 }.markPresent field

/-- A value that fits its field. -/
def Fits : Entry → Prop
  | (field, .text s) =>
    field ≠ .pulseMs ∧ Plain s ∧ s.toList.length < RawFields.capacity field
  | (field, .number n) => field = .pulseMs ∧ 0 < n ∧ n ≤ 4294967295

end Entry

theorem plain_name (field : FieldId) : Plain field.name := by cases field <;> decide

/-- A character that stays as it is on the wire and does not end the line. -/
def Inline (c : Char) : Prop := c.toNat < 0x80 ∧ c ≠ '\n'

theorem Inline.of_plain {c : Char} (h : isPlain c = true) : Inline c := by
  simp only [isPlain, Bool.and_eq_true, decide_eq_true_eq] at h
  refine ⟨by omega, ?_⟩
  rintro rfl
  exact absurd h.1.1.1 (by decide)

theorem Inline.of_digit {n : ℕ} {c : Char} (h : c ∈ Nat.toDigits 10 n) : Inline c := by
  have hdigit := Nat.isDigit_of_mem_toDigits (by decide) (by decide) h
  simp only [Char.isDigit, Bool.and_eq_true, decide_eq_true_eq] at hdigit
  have hle : c.toNat ≤ 0x39 := hdigit.2
  refine ⟨by omega, ?_⟩
  rintro rfl
  exact absurd hdigit.1 (by decide)

theorem keptStringChars_inline {s : String} (h : Plain s) : ∀ c ∈ keptStringChars s, Inline c := by
  intro c hc
  rw [keptStringChars_plain h] at hc
  rcases List.mem_cons.mp hc with rfl | hc
  · exact ⟨by decide, by decide⟩
  rcases List.mem_append.mp hc with hc | hc
  · exact .of_plain (h c hc)
  · rw [List.mem_singleton.mp hc]
    exact ⟨by decide, by decide⟩

theorem intChars_nat {n : ℤ} (h : 0 ≤ n) : Json.intChars n = Nat.toDigits 10 n.toNat := by
  obtain ⟨n, rfl⟩ := Int.eq_ofNat_of_zero_le h
  rfl

theorem payloadFieldChars_inline {entry : Entry} (h : entry.Fits) :
    ∀ c ∈ payloadFieldChars entry.payloadField, Inline c := by
  intro c hc
  rcases List.mem_append.mp hc with hc | hc
  · exact keptStringChars_inline (plain_name _) c hc
  rcases List.mem_cons.mp hc with rfl | hc
  · exact ⟨by decide, by decide⟩
  rcases entry with ⟨field, s | n⟩
  · exact keptStringChars_inline h.2.1 c hc
  · rw [Entry.payloadField, PayloadValue.chars, intChars_nat h.2.1.le] at hc
    exact .of_digit hc

theorem payloadFieldChars_bytes {entry : Entry} (h : entry.Fits) :
    (payloadFieldChars entry.payloadField).map byteOf = entry.bytes := by
  have hstring : ∀ s : String, Plain s →
      (keptStringChars s).map byteOf = 0x22 :: (ascii s ++ [0x22]) := by
    intro s hs
    rw [keptStringChars_plain hs, List.map_cons, List.map_append]
    rfl
  have hvalue : entry.2.chars.map byteOf = entry.2.bytes := by
    rcases entry with ⟨field, s | n⟩
    · exact hstring s h.2.1
    · rfl
  rw [payloadFieldChars, List.map_append, List.map_cons, Entry.payloadField,
    hstring _ (plain_name _), hvalue, List.cons_append, List.append_assoc]
  rfl

/-- The members of the object, with commas between them. -/
def entriesBytes : List Entry → List UInt8
  | [] => []
  | [entry] => entry.bytes
  | entry :: entries => entry.bytes ++ 0x2C :: entriesBytes entries

theorem entriesBytes_cons (entry : Entry) {entries : List Entry} (h : entries ≠ []) :
    entriesBytes (entry :: entries) = entry.bytes ++ 0x2C :: entriesBytes entries := by
  cases entries with
  | nil => exact absurd rfl h
  | cons next entries => rfl

/-- The text of a payload whose values fit. -/
theorem intercalate_entries {entries : List Entry} (h : ∀ entry ∈ entries, entry.Fits) :
    (∀ c ∈ List.intercalate [','] ((entries.map Entry.payloadField).map payloadFieldChars),
      Inline c) ∧
      (List.intercalate [','] ((entries.map Entry.payloadField).map payloadFieldChars)).map byteOf
        = entriesBytes entries := by
  induction entries with
  | nil => exact ⟨nofun, rfl⟩
  | cons entry entries ih =>
    obtain ⟨hinline, hbytes⟩ := ih fun e he => h e (List.mem_cons_of_mem _ he)
    have hfits := h entry List.mem_cons_self
    cases entries with
    | nil =>
      simp only [List.map_cons, List.map_nil, List.intercalate_singleton]
      exact ⟨payloadFieldChars_inline hfits, payloadFieldChars_bytes hfits⟩
    | cons next entries =>
      simp only [List.map_cons, List.intercalate_cons_cons] at hinline hbytes ⊢
      constructor
      · intro c hc
        rcases List.mem_append.mp hc with hc | hc
        · rcases List.mem_append.mp hc with hc | hc
          · exact payloadFieldChars_inline hfits c hc
          · rw [List.mem_singleton.mp hc]
            exact ⟨by decide, by decide⟩
        · exact hinline c hc
      · rw [List.map_append, List.map_append, payloadFieldChars_bytes hfits, hbytes,
          entriesBytes_cons _ (List.cons_ne_nil _ _), List.append_assoc]
        rfl

theorem toNat_byteOf {c : Char} (h : c.toNat < 0x80) : (byteOf c).toNat = c.toNat := by
  have hmod : (byteOf c).toNat = c.toNat % 256 := UInt8.toNat_ofNat'
  rw [hmod, Nat.mod_eq_of_lt (by omega)]

theorem byteOf_inj {c d : Char} (hc : c.toNat < 0x80) (hd : d.toNat < 0x80)
    (h : byteOf c = byteOf d) : c = d := by
  have hnat := congrArg UInt8.toNat h
  rw [toNat_byteOf hc, toNat_byteOf hd] at hnat
  exact Char.toNat_inj.mp hnat

/-- The line of a payload whose values fit, when it is not too long. -/
theorem encodePayload_entries {entries : List Entry} (h : ∀ entry ∈ entries, entry.Fits)
    (hlength : (entriesBytes entries).length + 3 ≤ maxHostFrameBytes) :
    encodePayload (entries.map Entry.payloadField)
        = .ok (0x7B :: (entriesBytes entries ++ [0x7D]) ++ [newline]) ∧
      newline ∉ 0x7B :: (entriesBytes entries ++ [0x7D]) := by
  obtain ⟨hinline, hbytes⟩ := intercalate_entries h
  set members := List.intercalate [','] ((entries.map Entry.payloadField).map payloadFieldChars)
    with hmembers
  have hchars : payloadChars (entries.map Entry.payloadField) = '{' :: (members ++ ['}']) := rfl
  have hframe : (payloadChars (entries.map Entry.payloadField) ++ ['\n']).flatMap
      String.utf8EncodeChar = 0x7B :: (entriesBytes entries ++ [0x7D]) ++ [newline] := by
    rw [hchars, utf8_ascii, List.map_append, List.map_cons, List.map_append, hbytes]
    · rfl
    · intro c hc
      simp only [List.cons_append, List.append_assoc, List.mem_cons, List.mem_append,
        List.not_mem_nil, or_false, false_or] at hc
      rcases hc with rfl | hc | rfl | rfl
      · decide
      · exact (hinline c hc).1
      · decide
      · decide
  refine ⟨?_, ?_⟩
  · rw [encodePayload, hframe, if_neg]
    simp only [List.length_append, List.length_cons, List.length_nil]
    omega
  · have hmembers : newline ∉ entriesBytes entries := by
      rw [← hbytes]
      intro hmem
      obtain ⟨c, hc, hnewline⟩ := List.mem_map.mp hmem
      exact (hinline c hc).2 (byteOf_inj (hinline c hc).1 (by decide) hnewline)
    simp only [List.mem_cons, List.mem_append, List.not_mem_nil, or_false, not_or]
    exact ⟨by decide, hmembers, by decide⟩

/-! ## What the firmware parses -/

/-- The byte of a plain character. -/
theorem byteOf_plain {c : Char} (h : isPlain c = true) :
    byteOf c ≠ 0x22 ∧ ¬(byteOf c < 0x20 ∨ 0x80 ≤ byteOf c) ∧ byteOf c ≠ 0x5C ∧ byteOf c ≠ 0 := by
  have hascii := (Inline.of_plain h).1
  have hnat := toNat_byteOf hascii
  simp only [isPlain, Bool.and_eq_true, decide_eq_true_eq] at h
  obtain ⟨⟨⟨hlow, hhigh⟩, hquote⟩, hbackslash⟩ := h
  refine ⟨fun heq => hquote (byteOf_inj (d := '"') hascii (by decide) heq), ?_,
    fun heq => hbackslash (byteOf_inj (d := '\\') hascii (by decide) heq), ?_⟩
  · rw [UInt8.lt_iff_toNat_lt, UInt8.le_iff_toNat_le, hnat]
    show ¬(c.toNat < 0x20 ∨ 0x80 ≤ c.toNat)
    omega
  · intro hzero
    rw [hzero] at hnat
    have : (0 : UInt8).toNat = 0 := rfl
    omega

theorem parseStringBody_plain {outputCapacity : ℕ} {output rest : List UInt8} {cs : List Char}
    (h : ∀ c ∈ cs, isPlain c = true) (hfits : output.length + cs.length < outputCapacity) :
    parseStringBody outputCapacity output (cs.map byteOf ++ 0x22 :: rest)
      = .ok (output ++ cs.map byteOf, rest) := by
  induction cs generalizing output with
  | nil =>
    rw [List.map_nil, List.nil_append, List.append_nil, parseStringBody.eq_def]
    exact if_pos rfl
  | cons c cs ih =>
    obtain ⟨hquote, hrange, hbackslash, hzero⟩ := byteOf_plain (h c List.mem_cons_self)
    rw [List.length_cons] at hfits
    have happend : appendStringByte outputCapacity output (byteOf c) = .ok (output ++ [byteOf c]) :=
      if_neg (not_or.mpr ⟨hzero, by omega⟩)
    rw [List.map_cons, List.cons_append, parseStringBody.eq_def]
    dsimp only
    rw [if_neg hquote, if_neg hrange, if_pos hbackslash, happend]
    dsimp only
    rw [ih (fun c hc => h c (List.mem_cons_of_mem _ hc)) (by
      rw [List.length_append, List.length_singleton]
      omega), List.append_assoc]
    rfl

theorem parseJsonString_plain {outputCapacity : ℕ} {s : String} (h : Plain s)
    (hfits : s.toList.length < outputCapacity) (rest : List UInt8) :
    parseJsonString outputCapacity (0x22 :: (ascii s ++ 0x22 :: rest)) = .ok (ascii s, rest) := by
  rw [parseJsonString, if_neg (not_not.mpr rfl)]
  exact parseStringBody_plain h (by rwa [List.length_nil, Nat.zero_add])

theorem fromName_name (field : FieldId) : FieldId.fromName (ascii field.name) = some field := by
  cases field <;> decide

theorem isDigit_byteOf {c : Char} (h : c.isDigit = true) :
    isDigit (byteOf c) = true ∧ (byteOf c).toNat - 0x30 = c.toNat - '0'.toNat := by
  simp only [Char.isDigit, Bool.and_eq_true, decide_eq_true_eq] at h
  obtain ⟨hlow, hhigh⟩ := h
  have hlow : 0x30 ≤ c.toNat := hlow
  have hhigh : c.toNat ≤ 0x39 := hhigh
  have hnat := toNat_byteOf (show c.toNat < 0x80 by omega)
  refine ⟨?_, by rw [hnat]; rfl⟩
  rw [isDigit, Bool.and_eq_true, decide_eq_true_eq, decide_eq_true_eq, UInt8.le_iff_toNat_le,
    UInt8.le_iff_toNat_le, hnat]
  exact ⟨hlow, hhigh⟩

theorem le_ofDigitChars (cs : List Char) (init : ℕ) : init ≤ Nat.ofDigitChars 10 cs init := by
  rw [Nat.ofDigitChars_eq_ofDigitChars_zero]
  exact (Nat.le_mul_of_pos_left _ (by positivity)).trans (Nat.le_add_right _ _)

/-- Digits are read to the number they stand for. -/
theorem parsePulseDigits_digits {cs : List Char} {rest : List UInt8} (parsed : ℕ)
    (hdigits : ∀ c ∈ cs, c.isDigit = true) (hrest : rest.head?.any isDigit = false)
    (hbound : Nat.ofDigitChars 10 cs parsed ≤ 4294967295) :
    parsePulseDigits parsed (cs.map byteOf ++ rest)
      = some (Nat.ofDigitChars 10 cs parsed, rest) := by
  induction cs generalizing parsed with
  | nil =>
    rw [List.map_nil, List.nil_append, Nat.ofDigitChars_nil]
    cases rest with
    | nil => rfl
    | cons byte rest =>
      have hbyte : isDigit byte = false := hrest
      rw [parsePulseDigits, hbyte, if_neg nofun]
  | cons c cs ih =>
    obtain ⟨hdigit, hvalue⟩ := isDigit_byteOf (hdigits c List.mem_cons_self)
    rw [Nat.ofDigitChars_cons] at hbound ⊢
    have hstep := (le_ofDigitChars cs _).trans hbound
    rw [List.map_cons, List.cons_append, parsePulseDigits, if_pos hdigit]
    dsimp only
    rw [hvalue, if_neg (by omega), Nat.mul_comm parsed 10]
    exact ih _ (fun c hc => hdigits c (List.mem_cons_of_mem _ hc)) hbound

/-- A positive number is written without a leading zero. -/
theorem toDigits_head {n : ℕ} (h : 0 < n) :
    ∃ c cs, Nat.toDigits 10 n = c :: cs ∧ c ≠ '0' := by
  induction n using Nat.strong_induction_on with
  | _ n ih =>
    by_cases hsmall : n < 10
    · refine ⟨n.digitChar, [], Nat.toDigits_of_lt_base hsmall, ?_⟩
      intro hzero
      have hvalue := Nat.toNat_digitChar_sub_48_of_lt_ten hsmall
      rw [hzero] at hvalue
      exact absurd hvalue (Nat.ne_of_lt h)
    · obtain ⟨c, cs, hdigits, hc⟩ := ih (n / 10) (by omega) (by omega)
      refine ⟨c, cs ++ [(n % 10).digitChar], ?_, hc⟩
      rw [Nat.toDigits_of_base_le (by decide) (by omega), hdigits]
      rfl

theorem parsePulseMs_toDigits {n : ℕ} {rest : List UInt8} (hpos : 0 < n) (hmax : n ≤ 4294967295)
    (hrest : rest.head?.any isDigit = false) :
    parsePulseMs ((Nat.toDigits 10 n).map byteOf ++ rest) = some (n.toUInt32, rest) := by
  have hdigits : ∀ c ∈ Nat.toDigits 10 n, c.isDigit = true := fun _ hc =>
    Nat.isDigit_of_mem_toDigits (by decide) (by decide) hc
  have hvalue : Nat.ofDigitChars 10 (Nat.toDigits 10 n) 0 = n := Nat.ofDigitChars_ten_toDigits
  have hparsed := parsePulseDigits_digits 0 hdigits hrest (by rwa [hvalue])
  rw [hvalue] at hparsed
  obtain ⟨c, cs, hcs, hzero⟩ := toDigits_head hpos
  rw [hcs] at hdigits hparsed ⊢
  obtain ⟨hdigit, _⟩ := isDigit_byteOf (hdigits c List.mem_cons_self)
  have hascii : c.toNat < 0x80 := (Inline.of_digit (n := n) (hcs ▸ List.mem_cons_self)).1
  have hne : byteOf c ≠ 0x30 := fun heq => hzero (byteOf_inj (d := '0') hascii (by decide) heq)
  rw [List.map_cons, List.cons_append, parsePulseMs, hdigit, if_neg (by simp),
    if_neg fun h => hne h.1]
  rw [List.map_cons, List.cons_append] at hparsed
  rw [hparsed]
  rfl

/-- Bytes that no blank is skipped before. -/
theorem skipWhitespace_cons {byte : UInt8} (h : byte ≠ 0x20 ∧ byte ≠ 0x09) (rest : List UInt8) :
    skipWhitespace (byte :: rest) = byte :: rest := by
  rw [skipWhitespace, List.dropWhile_cons_of_neg]
  simpa using h

/-- What may follow a value. -/
def EndsMember (byte : UInt8) : Prop := byte = 0x2C ∨ byte = 0x7D

theorem EndsMember.skip {byte : UInt8} (h : EndsMember byte) (rest : List UInt8) :
    skipWhitespace (byte :: rest) = byte :: rest := by
  rcases h with rfl | rfl <;> exact skipWhitespace_cons (by decide) rest

theorem parseFieldValue_entry {entry : Entry} (h : entry.Fits) (fields : RawFields) {byte : UInt8}
    (hbyte : EndsMember byte) (rest : List UInt8) :
    ∃ stored, parseFieldValue fields entry.1 (entry.2.bytes ++ byte :: rest)
        = .ok (stored, byte :: rest) ∧ stored.markPresent entry.1 = Entry.store fields entry := by
  rcases entry with ⟨field, s | n⟩
  · obtain ⟨hfield, hplain, hlength⟩ := h
    refine ⟨fields.setString (ascii s) field, ?_, rfl⟩
    have hbytes : (PayloadValue.text s).bytes ++ byte :: rest
        = 0x22 :: (ascii s ++ 0x22 :: byte :: rest) := by
      simp [PayloadValue.bytes]
    rw [hbytes, parseFieldValue, if_neg hfield, List.head?_cons, if_neg (not_not.mpr rfl),
      parseFieldString, if_neg hfield, parseJsonString_plain hplain hlength]
  · obtain ⟨rfl, hpos, hmax⟩ := h
    refine ⟨{ fields with pulseMs := n.toNat.toUInt32 }, ?_, rfl⟩
    have hbytes : (PayloadValue.number n).bytes = (Nat.toDigits 10 n.toNat).map byteOf := by
      rw [PayloadValue.bytes, intChars_nat hpos.le]
    have hrest : (byte :: rest).head?.any isDigit = false := by
      rcases hbyte with rfl | rfl <;> rfl
    rw [parseFieldValue, if_pos rfl, hbytes,
      parsePulseMs_toDigits (by omega) (by omega) hrest]

/-- The first byte of a value is no blank. -/
theorem skipWhitespace_value {entry : Entry} (h : entry.Fits) (rest : List UInt8) :
    skipWhitespace (entry.2.bytes ++ rest) = entry.2.bytes ++ rest := by
  rcases entry with ⟨field, s | n⟩
  · exact skipWhitespace_cons (by decide) _
  · obtain ⟨_, hpos, _⟩ := h
    obtain ⟨c, cs, hcs, _⟩ := toDigits_head (show 0 < n.toNat by omega)
    have hmem : c ∈ Nat.toDigits 10 n.toNat := hcs ▸ List.mem_cons_self
    have hdigit := Nat.isDigit_of_mem_toDigits (by decide) (by decide) hmem
    have hne : ∀ d : Char, d.toNat < 0x80 → d.isDigit = false → byteOf c ≠ byteOf d := by
      intro d hd hblank heq
      rw [byteOf_inj (Inline.of_digit hmem).1 hd heq, hblank] at hdigit
      cases hdigit
    rw [PayloadValue.bytes, intChars_nat hpos.le, hcs]
    exact skipWhitespace_cons ⟨hne ' ' (by decide) (by decide), hne '\t' (by decide) (by decide)⟩ _

theorem parseMember_entry {entry : Entry} (h : entry.Fits) {fields : RawFields}
    (hpresent : fields.present &&& entry.1.bit = 0) {byte : UInt8} (hbyte : EndsMember byte)
    (rest : List UInt8) :
    parseMember fields (entry.bytes ++ byte :: rest)
      = .ok (Entry.store fields entry, byte :: rest) := by
  obtain ⟨stored, hvalue, hstored⟩ := parseFieldValue_entry h fields hbyte rest
  have hlength : entry.1.name.toList.length < keyCapacity := by cases entry.1 <;> decide
  have hbytes : entry.bytes ++ byte :: rest
      = 0x22 :: (ascii entry.1.name ++ 0x22 :: 0x3A :: (entry.2.bytes ++ byte :: rest)) := by
    simp [Entry.bytes]
  rw [hbytes, parseMember, parseJsonString_plain (plain_name _) hlength]
  dsimp only
  rw [fromName_name]
  dsimp only
  rw [if_neg (not_not.mpr hpresent), skipWhitespace_cons (by decide)]
  dsimp only
  rw [if_neg (not_not.mpr rfl), skipWhitespace_value h, hvalue]
  dsimp only
  rw [hstored, hbyte.skip]

/-- Entries whose fields are not there yet and whose values fit. -/
def Storable (fields : RawFields) : List Entry → Prop
  | [] => True
  | entry :: entries =>
    entry.Fits ∧ fields.present &&& entry.1.bit = 0 ∧ Storable (Entry.store fields entry) entries

theorem Storable.fits {fields : RawFields} {entries : List Entry} (h : Storable fields entries) :
    ∀ entry ∈ entries, entry.Fits := by
  induction entries generalizing fields with
  | nil => nofun
  | cons entry entries ih =>
    intro e he
    rcases List.mem_cons.mp he with rfl | he
    · exact h.1
    · exact ih h.2.2 e he

theorem entriesBytes_head {entries : List Entry} (h : entries ≠ []) :
    ∃ rest, entriesBytes entries = 0x22 :: rest := by
  match entries with
  | [] => exact absurd rfl h
  | [entry] => exact ⟨_, rfl⟩
  | entry :: next :: entries => exact ⟨_, rfl⟩

theorem parseMembers_entries {entries : List Entry} (hne : entries ≠ []) {fields : RawFields}
    (h : Storable fields entries) :
    parseMembers fields (entriesBytes entries ++ [0x7D])
      = .ok (entries.foldl Entry.store fields, []) := by
  induction entries generalizing fields with
  | nil => exact absurd rfl hne
  | cons entry entries ih =>
    obtain ⟨hfits, hpresent, hrest⟩ := h
    cases entries with
    | nil => exact parseMembers_end (parseMember_entry hfits hpresent (.inr rfl) [])
    | cons next entries =>
      obtain ⟨rest, hhead⟩ := entriesBytes_head (List.cons_ne_nil next entries)
      have hmember := parseMember_entry hfits hpresent (.inl rfl)
        (entriesBytes (next :: entries) ++ [0x7D])
      have hnext : skipWhitespace (entriesBytes (next :: entries) ++ [0x7D])
          = 0x22 :: (rest ++ [0x7D]) := by
        rw [hhead]
        exact skipWhitespace_cons (by decide) _
      have hstored := ih (List.cons_ne_nil _ _) hrest
      rw [hhead] at hstored
      rw [entriesBytes_cons _ (List.cons_ne_nil _ _), List.append_assoc, List.cons_append,
        parseMembers_next hmember hnext (by decide)]
      exact hstored

/-- The object of entries that can be stored holds just these. -/
theorem parseObject_entries {entries : List Entry} (hne : entries ≠ [])
    (h : Storable {} entries) :
    parseObject (0x7B :: (entriesBytes entries ++ [0x7D]))
      = .ok (entries.foldl Entry.store {}) := by
  have hmembers := parseMembers_entries hne h
  obtain ⟨rest, hhead⟩ := entriesBytes_head hne
  have hskip : skipWhitespace (entriesBytes entries ++ [0x7D]) = 0x22 :: (rest ++ [0x7D]) := by
    rw [hhead]
    exact skipWhitespace_cons (by decide) _
  rw [hhead, List.cons_append] at hmembers
  rw [parseObject, if_neg]
  · dsimp only [List.tail_cons]
    rw [hskip]
    dsimp only
    rw [if_neg (by decide), hmembers]
    dsimp only
    rw [if_neg (not_not.mpr rfl)]
  · rw [← List.cons_append, List.getLast?_concat, List.cons_append, List.head?_cons,
      List.length_cons, List.length_append, List.length_singleton]
    simp only [not_or, not_not]
    exact ⟨by omega, trivial, trivial⟩

/-- A payload of storable entries is one line, and the firmware decodes the fields it stores. -/
theorem lineRequest_entries {entries : List Entry} (hne : entries ≠ []) (h : Storable {} entries)
    (hlength : (entriesBytes entries).length + 2 ≤ commandFrameMaxBodyBytes) {command : Command}
    (hdecoded : decodeFields (entries.foldl Entry.store {}) = .ok command) :
    lineRequest (0x7B :: (entriesBytes entries ++ [0x7D])) = .command command := by
  have hlast : (0x7B :: (entriesBytes entries ++ [0x7D])).getLast? = some 0x7D := by
    rw [← List.cons_append, List.getLast?_concat]
  have hbody : (0x7B :: (entriesBytes entries ++ [0x7D])).length
      = (entriesBytes entries).length + 2 := by
    simp
  have hmax : commandFrameMaxBodyBytes = hostFrameMaxPendingBytes := rfl
  rw [lineRequest, if_neg (by omega), dropCarriageReturn, hlast, if_neg (by decide), frameRequest,
    commandDecode, if_neg (by omega), parseObject_entries hne h]
  dsimp only
  rw [hdecoded]

/-! ## Base64 payloads -/

theorem letter_isPlain (n : ℕ) : isPlain (Base64.letter n) = true := by
  by_cases hn : n < 64
  · have hall : ∀ n : Fin 64, isPlain (Base64.letter n) = true := by decide +kernel
    exact hall ⟨n, hn⟩
  · have hlength : Base64.alphabet.length = 64 := by decide
    rw [Base64.letter, List.getD_eq_getElem?_getD, List.getElem?_eq_none (by omega)]
    decide

theorem base64Value_letter {n : ℕ} (hn : n < 64) :
    base64Value (byteOf (Base64.letter n)) = some n := by
  have hall : ∀ n : Fin 64, base64Value (byteOf (Base64.letter n)) = some n.val := by
    decide +kernel
  exact hall ⟨n, hn⟩

theorem byteOf_letter_ne_pad {n : ℕ} (hn : n < 64) : byteOf (Base64.letter n) ≠ 0x3D := by
  have hall : ∀ n : Fin 64, byteOf (Base64.letter n) ≠ 0x3D := by decide +kernel
  exact hall ⟨n, hn⟩

theorem encode_isPlain (data : List UInt8) : ∀ c ∈ Base64.encode data, isPlain c = true := by
  have hpad : isPlain '=' = true := by decide
  induction data using Base64.encode.induct with
  | case1 => simp [Base64.encode]
  | case2 a => simp [Base64.encode, letter_isPlain, hpad]
  | case3 a b => simp [Base64.encode, letter_isPlain, hpad]
  | case4 a b c rest ih =>
    intro d hd
    simp only [Base64.encode, List.mem_cons] at hd
    rcases hd with rfl | rfl | rfl | rfl | hd
    all_goals first | exact letter_isPlain _ | exact ih d hd

/-- The bytes that groups of letters stand for. -/
theorem toUInt8_mod {n : ℕ} {a : UInt8} (h : n % 256 = a.toNat) : n.toUInt8 = a := by
  have hn : n.toUInt8.toNat = n % 256 := UInt8.toNat_ofNat'
  exact UInt8.toNat_inj.mp (hn.trans h)

theorem decodeBase64Groups_encode (data output : List UInt8)
    (h : output.length + data.length ≤ uartSendMaxBytes) :
    decodeBase64Groups output ((Base64.encode data).map byteOf) = some (output ++ data) := by
  have hpad : byteOf '=' = 0x3D := rfl
  have hadded : ∀ (output : List UInt8) (b : UInt8),
      (output ++ [b]).length = output.length + 1 := fun output b => by simp
  induction data using Base64.encode.induct generalizing output with
  | case1 =>
    rw [Base64.encode, List.map_nil, List.append_nil]
    rfl
  | case2 a =>
    have ha := a.toNat_lt
    rw [List.length_singleton] at h
    simp only [Base64.encode, List.map_cons, List.map_nil, hpad]
    rw [decodeBase64Groups, base64Value_letter (by omega), base64Value_letter (by omega)]
    dsimp only
    rw [if_neg (by omega), if_pos rfl, if_neg (by simp), decodeBase64Groups,
      toUInt8_mod (a := a) (by omega)]
    intro _ _ _ _ _ h
    cases h
  | case3 a b =>
    have ha := a.toNat_lt
    have hb := b.toNat_lt
    simp only [List.length_cons, List.length_nil] at h
    simp only [Base64.encode, List.map_cons, List.map_nil, hpad]
    rw [decodeBase64Groups, base64Value_letter (by omega), base64Value_letter (by omega)]
    dsimp only
    rw [if_neg (by omega), if_neg (byteOf_letter_ne_pad (by omega)),
      base64Value_letter (by omega)]
    dsimp only
    rw [hadded, if_neg (by omega), if_pos rfl, if_neg (by simp), decodeBase64Groups,
      toUInt8_mod (a := a) (by omega), toUInt8_mod (a := b) (by omega), List.append_assoc]
    · rfl
    · intro _ _ _ _ _ h
      cases h
  | case4 a b c rest ih =>
    have ha := a.toNat_lt
    have hb := b.toNat_lt
    have hc := c.toNat_lt
    simp only [List.length_cons] at h
    simp only [Base64.encode, List.map_cons]
    rw [decodeBase64Groups, base64Value_letter (by omega), base64Value_letter (by omega)]
    dsimp only
    rw [if_neg (by omega), if_neg (byteOf_letter_ne_pad (by omega)),
      base64Value_letter (by omega)]
    dsimp only
    rw [hadded, if_neg (by omega), if_neg (byteOf_letter_ne_pad (by omega)),
      base64Value_letter (by omega)]
    dsimp only
    rw [hadded, hadded, if_neg (by omega), toUInt8_mod (a := a) (by omega),
      toUInt8_mod (a := b) (by omega), toUInt8_mod (a := c) (by omega),
      ih _ (by simp only [hadded]; omega)]
    simp

theorem decodeBase64_encode {data : List UInt8} (hdata : data ≠ [])
    (hlength : data.length ≤ uartSendMaxBytes) :
    decodeBase64 (ascii (String.ofList (Base64.encode data))) = some data := by
  have htext : ascii (String.ofList (Base64.encode data)) = (Base64.encode data).map byteOf := by
    rw [ascii, String.toList_ofList]
    rfl
  have hpos := List.length_pos_of_ne_nil hdata
  have hletters := Base64.length_encode data
  have hmax : uartSendMaxBytes = 1024 := rfl
  have hmaxLetters : base64MaxBytes = 1368 := rfl
  rw [htext, decodeBase64, if_neg, decodeBase64Groups_encode data [] (by simpa using hlength)]
  · simp [hdata]
  · rw [List.length_map, hletters]
    omega

/-! ## The round trip -/

namespace HostCommand

/-- The members of a command's object. -/
def entries : HostCommand → List Entry
  | configureGpioMode channel mode activeLevel idleLevel =>
    [(.cmd, .text "configure_gpio_mode"), (.channel, .text channel), (.mode, .text mode),
      (.activeLevel, .text activeLevel)]
      ++ (idleLevel.map fun level => ((.idleLevel, .text level) : Entry)).toList
  | pulseControl channel pulseMs =>
    [(.cmd, .text "pulse_control"), (.channel, .text channel), (.pulseMs, .number pulseMs)]
  | setControlState channel state =>
    [(.cmd, .text "set_control_state"), (.channel, .text channel), (.state, .text state)]
  | uartSend data =>
    [(.cmd, .text "uart_send"), (.dataB64, .text (String.ofList (Base64.encode data)))]

theorem toPayload_eq (command : HostCommand) :
    command.toPayload = command.entries.map Entry.payloadField := by
  rcases command with ⟨_, _, _, _ | _⟩ | _ | _ | _ <;> rfl

theorem entries_ne_nil (command : HostCommand) : command.entries ≠ [] := by
  rcases command with ⟨_, _, _, _⟩ | _ | _ | _ <;> exact List.cons_ne_nil _ _

/-- The command the firmware decodes. -/
structure Decoded (host : HostCommand) (command : Command) : Prop where
  storable : Storable {} host.entries
  length : (entriesBytes host.entries).length + 2 ≤ commandFrameMaxBodyBytes
  fields : decodeFields (host.entries.foldl Entry.store {}) = .ok command
  carried : host.Carried command

end HostCommand

instance (entry : Entry) : Decidable entry.Fits :=
  match entry with
  | (_, .text _) => inferInstanceAs (Decidable (_ ∧ _ ∧ _))
  | (_, .number _) => inferInstanceAs (Decidable (_ ∧ _ ∧ _))

instance decidableStorable : (fields : RawFields) → (entries : List Entry) →
    Decidable (Storable fields entries)
  | _, [] => isTrue trivial
  | fields, entry :: entries =>
    have := decidableStorable (Entry.store fields entry) entries
    inferInstanceAs (Decidable (_ ∧ _ ∧ _))

theorem Entry.store_present (fields : RawFields) (entry : Entry) :
    (Entry.store fields entry).present = fields.present ||| entry.1.bit := by
  rcases entry with ⟨field, s | n⟩
  · cases field <;> rfl
  · rfl

theorem length_ascii (s : String) : (ascii s).length = s.toList.length := List.length_map _

theorem PayloadValue.length_text (s : String) :
    (PayloadValue.text s).bytes.length = s.toList.length + 2 := by
  rw [bytes, List.length_cons, List.length_append, length_ascii, List.length_singleton]

theorem PayloadValue.length_number (n : ℕ) :
    (PayloadValue.number n).bytes.length = (Nat.toDigits 10 n).length := List.length_map _

theorem Entry.length_bytes (entry : Entry) :
    entry.bytes.length = entry.1.name.toList.length + 3 + entry.2.bytes.length := by
  rw [bytes, List.length_cons, List.length_append, length_ascii, List.length_cons,
    List.length_cons]
  omega

theorem FieldId.length_name (field : FieldId) : field.name.toList.length ≤ 12 := by
  cases field <;> decide

namespace HostCommand.Decoded

theorem openDrain (channel : GpioControlChannel) :
    Decoded (.configureGpioMode channel.name "open_drain" "low" none)
      (.configureGpioMode channel.index .openDrain .low false .low) where
  storable := by cases channel <;> decide +kernel
  length := by cases channel <;> decide +kernel
  fields := by cases channel <;> decide +kernel
  carried := ⟨⟨channel, rfl, rfl⟩, rfl, rfl, rfl⟩

theorem pushPull (channel : GpioControlChannel) (level : ControlLevel) :
    Decoded (.configureGpioMode channel.name "push_pull" level.name (some level.opposite.name))
      (.configureGpioMode channel.index .pushPull level true level.opposite) where
  storable := by cases channel <;> cases level <;> decide +kernel
  length := by cases channel <;> cases level <;> decide +kernel
  fields := by cases channel <;> cases level <;> decide +kernel
  carried := ⟨⟨channel, rfl, rfl⟩, rfl, rfl, rfl⟩

theorem setControlState (channel : GpioControlChannel) (target : ControlTarget) :
    Decoded (.setControlState channel.name target.name) (.setControlState channel.index target) where
  storable := by cases channel <;> cases target <;> decide +kernel
  length := by cases channel <;> cases target <;> decide +kernel
  fields := by cases channel <;> cases target <;> decide +kernel
  carried := ⟨⟨channel, rfl, rfl⟩, rfl⟩

theorem pulseControl (channel : GpioControlChannel) {pulseMs : ℕ} (hmin : 1 ≤ pulseMs)
    (hmax : pulseMs ≤ 10000) :
    Decoded (.pulseControl channel.name pulseMs)
      (.pulseControl channel.index pulseMs.toUInt32) := by
  have htoNat : pulseMs.toUInt32.toNat = pulseMs := by
    have hmod : pulseMs.toUInt32.toNat = pulseMs % 4294967296 := UInt32.toNat_ofNat'
    omega
  have hlow : ¬pulseMs.toUInt32 < 1 := by
    rw [UInt32.lt_iff_toNat_lt, htoNat]
    exact Nat.not_lt.mpr hmin
  have hhigh : ¬10000 < pulseMs.toUInt32 := by
    rw [UInt32.lt_iff_toNat_lt, htoNat]
    exact Nat.not_lt.mpr hmax
  have hdigits : (Nat.toDigits 10 pulseMs).length ≤ 5 := by
    rw [Nat.length_toDigits_le_iff (by decide) (by decide)]
    omega
  have hfits : Entry.Fits (.pulseMs, .number pulseMs) := ⟨rfl, by omega, by omega⟩
  have hchannel : Entry.Fits (.channel, .text channel.name) := by cases channel <;> decide
  have hindex : decodeChannel (ascii channel.name) = some channel.index := by
    cases channel <;> decide +kernel
  set fields := (HostCommand.pulseControl channel.name pulseMs).entries.foldl Entry.store {}
    with hfields
  have hpresent : fields.present = fieldBits [.cmd, .channel, .pulseMs] := by
    simp only [hfields, HostCommand.entries, List.foldl_cons, List.foldl_nil, Entry.store_present]
    decide
  constructor
  · refine ⟨by decide, by decide, hchannel, ?_, hfits, ?_, trivial⟩
    · rw [Entry.store_present]
      dsimp only
      decide
    · rw [Entry.store_present, Entry.store_present]
      dsimp only
      decide
  · have hname : channel.name.toList.length = 5 := by cases channel <;> decide
    have hmaxBytes : commandFrameMaxBodyBytes = 2047 := rfl
    have hcmd : "pulse_control".toList.length = 13 := by decide
    have h₁ := FieldId.length_name .cmd
    have h₂ := FieldId.length_name .channel
    have h₃ := FieldId.length_name .pulseMs
    simp only [HostCommand.entries, entriesBytes, List.length_append, List.length_cons,
      Entry.length_bytes, PayloadValue.length_text, PayloadValue.length_number, hname, hcmd]
    omega
  · have hdecoded : decodePulse fields = some (.pulseControl channel.index pulseMs.toUInt32) := by
      have hpulse : fields.pulseMs = pulseMs.toUInt32 := rfl
      have hname : fields.channel = ascii channel.name := rfl
      rw [decodePulse, hpresent, hpulse, hname, if_neg (by simp [hlow, hhigh]), hindex]
      rfl
    have hcmd : fields.cmd = ascii "pulse_control" := rfl
    rw [decodeFields, hpresent, hcmd, if_neg (by decide +kernel)]
    dsimp only
    rw [if_neg (by decide +kernel), if_pos rfl, hdecoded]
  · exact ⟨⟨channel, rfl, rfl⟩, by rw [htoNat]⟩

theorem uartSend {data : List UInt8} (hdata : data ≠ []) (hlength : data.length ≤ uartSendMaxBytes) :
    Decoded (.uartSend data) (.uartSend data) := by
  set text := String.ofList (Base64.encode data) with htext
  have hlist : text.toList = Base64.encode data := String.toList_ofList
  have hletters := Base64.length_encode data
  have hplain : Plain text := fun c hc => encode_isPlain data c (hlist ▸ hc)
  have hmax : uartSendMaxBytes = 1024 := rfl
  have hcapacity : RawFields.capacity .dataB64 = 1369 := rfl
  have hfits : Entry.Fits (.dataB64, .text text) :=
    ⟨by decide, hplain, by rw [hlist, hletters]; omega⟩
  set fields := (HostCommand.uartSend data).entries.foldl Entry.store {} with hfields
  have hpresent : fields.present = fieldBits [.cmd, .dataB64] := by
    simp only [hfields, HostCommand.entries, List.foldl_cons, List.foldl_nil, Entry.store_present]
    decide
  constructor
  · refine ⟨by decide, by decide, hfits, ?_, trivial⟩
    rw [Entry.store_present]
    dsimp only
    decide
  · have hmaxBytes : commandFrameMaxBodyBytes = 2047 := rfl
    have hcmd : "uart_send".toList.length = 9 := by decide
    have h₁ := FieldId.length_name .cmd
    have h₂ := FieldId.length_name .dataB64
    simp only [HostCommand.entries, entriesBytes, List.length_append, List.length_cons,
      Entry.length_bytes, PayloadValue.length_text, ← htext, hlist, hletters, hcmd]
    omega
  · have hdecoded : decodeUartSend fields = some (.uartSend data) := by
      have hvalue : fields.dataB64 = ascii text := rfl
      rw [decodeUartSend, hpresent, hvalue, htext, decodeBase64_encode hdata hlength,
        if_neg (not_not.mpr rfl)]
      rfl
    have hcmd : fields.cmd = ascii "uart_send" := rfl
    rw [decodeFields, hpresent, hcmd, if_neg (by decide +kernel)]
    dsimp only
    rw [if_neg (by decide +kernel), if_neg (by decide +kernel), if_neg (by decide +kernel),
      if_pos rfl, hdecoded]
  · exact rfl

end HostCommand.Decoded

/-- Every command a constructor builds is decoded to a command that carries it. -/
theorem HostCommand.Valid.decoded {host : HostCommand} (h : host.Valid) :
    ∃ command, Decoded host command := by
  cases h with
  | openDrain channel => exact ⟨_, .openDrain channel⟩
  | pushPull channel level => exact ⟨_, .pushPull channel level⟩
  | pulseControl channel pulseMs hmin hmax => exact ⟨_, .pulseControl channel hmin hmax⟩
  | setControlState channel target => exact ⟨_, .setControlState channel target⟩
  | uartSend data hdata hlength => exact ⟨_, .uartSend hdata hlength⟩

/-- A command that can be decoded is written as one line, whose request it is. -/
theorem HostCommand.Decoded.written {host : HostCommand} {command : Command}
    (h : Decoded host command) :
    ∃ line, host.toNdjson = .ok (line ++ [newline]) ∧ newline ∉ line ∧
      lineRequest line = .command command := by
  have hlength := h.length
  have hbody : commandFrameMaxBodyBytes + 1 = maxHostFrameBytes := rfl
  obtain ⟨hencoded, hnewline⟩ := encodePayload_entries h.storable.fits (by omega)
  refine ⟨_, ?_, hnewline, lineRequest_entries host.entries_ne_nil h.storable hlength h.fields⟩
  rw [toNdjson, toPayload_eq, hencoded]

open SplitLines in
/-- Lines before, then one more. -/
theorem splitNewlines_snoc {before line : List UInt8}
    (hbefore : before = [] ∨ before.getLast? = some newline) (hline : newline ∉ line) :
    splitNewlines (before ++ (line ++ [newline])) = ((splitNewlines before).1 ++ [line], []) := by
  have htail : (splitNewlines before).2 = [] := by
    rcases hbefore with rfl | hlast
    · rfl
    · obtain ⟨start, rfl⟩ := List.getLast?_eq_some_iff.mp hlast
      rw [splitNewlines, splitFrom_append]
      rfl
  have hopen : ∀ b ∈ line, isFrameEnd b = false := fun b hb =>
    decide_eq_false fun heq => hline (heq ▸ hb)
  have hsplit : splitNewlines (line ++ [newline]) = ([line], []) := by
    rw [splitNewlines, splitFrom_segment isFrameEnd [] line [] newline hopen rfl]
    simp
  rw [splitNewlines_append, htail, List.nil_append, hsplit]

/-- Round trip: whatever lines come before it and however the bytes are cut, a command the
host built arrives as one request with the same fields.  Framing: the requests of a stream are
those of its complete lines. -/
theorem commandWire_roundTrip :
    (∀ (call : CommandCall) (host : HostCommand), call.build = .ok host →
      ∃ frame command, host.toNdjson = .ok frame ∧ host.Carried command ∧
        ∀ (before : List UInt8) (chunks : List (List UInt8)),
          before = [] ∨ before.getLast? = some newline → chunks.flatten = before ++ frame →
          CommandIngress.reset.feedChunks chunks
            = some (.reset, (splitNewlines before).1.map lineRequest ++ [.command command])) ∧
      ∀ chunks : List (List UInt8),
        CommandIngress.reset.feedChunks chunks
          = some (.amid (splitNewlines chunks.flatten).2,
              (splitNewlines chunks.flatten).1.map lineRequest) := by
  refine ⟨fun call host hbuild => ?_, CommandIngress.feedChunks_eq⟩
  obtain ⟨command, hdecoded⟩ := (CommandCall.build_valid hbuild).decoded
  obtain ⟨line, hwritten, hnewline, hrequest⟩ := hdecoded.written
  refine ⟨_, command, hwritten, hdecoded.carried, fun before chunks hbefore hchunks => ?_⟩
  rw [CommandIngress.feedChunks_eq, hchunks, splitNewlines_snoc hbefore hnewline, List.map_append,
    List.map_singleton, hrequest, CommandIngress.amid, NdjsonFramer.amid_nil]
  rfl

theorem commandWire_roundTrip_pulse :
    ∃ frame command,
      (HostCommand.pulseControl "CTRL1" 100).toNdjson = .ok frame ∧
        (HostCommand.pulseControl "CTRL1" 100).Carried command ∧
        ∀ (before : List UInt8) (chunks : List (List UInt8)),
          before = [] ∨ before.getLast? = some newline → chunks.flatten = before ++ frame →
          CommandIngress.reset.feedChunks chunks
            = some (.reset, (splitNewlines before).1.map lineRequest ++ [.command command]) :=
  commandWire_roundTrip.1 (.pulseControl "CTRL1" 100) _ (by rfl)
