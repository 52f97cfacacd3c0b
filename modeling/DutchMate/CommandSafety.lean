/-
# The decoder stays inside its buffers

The decoder in place does what `commandDecode` does: no access is outside a buffer, the loops end
within as many steps as a frame has bytes, and the command is written as it is decoded.
-/
import DutchMate.CommandBuffers
import DutchMate.CommandGrammar
import Mathlib.Data.List.DropRight

open Checked FlatJson

/-- The input left at an index of the frame. -/
def At (frame : List UInt8) (index : ℕ) (input : List UInt8) : Prop :=
  index ≤ frame.length ∧ frame.drop index = input

namespace At

variable {frame input rest : List UInt8} {index : ℕ} {byte : UInt8}

theorem length_eq (h : At frame index input) : frame.length = index + input.length := by
  obtain ⟨hindex, rfl⟩ := h
  rw [List.length_drop]
  omega

theorem lt_of_cons (h : At frame index (byte :: rest)) : index < frame.length := by
  have hlength := h.length_eq
  rw [List.length_cons] at hlength
  omega

theorem eq_of_nil (h : At frame index []) : index = frame.length := h.length_eq.symm

theorem getElem? (h : At frame index (byte :: rest)) : frame[index]? = some byte := by
  rw [← List.head?_drop, h.2]
  rfl

theorem read (h : At frame index (byte :: rest)) : Checked.read frame index = .ok byte := by
  rw [Checked.read, h.getElem?]

theorem next (h : At frame index (byte :: rest)) : At frame (index + 1) rest := by
  refine ⟨h.lt_of_cons, ?_⟩
  rw [← List.tail_drop, h.2]
  rfl

end At

theorem at_zero (frame : List UInt8) : At frame 0 frame := ⟨Nat.zero_le _, rfl⟩

/-- A function in place answers as the function on lists does, and its results are related. -/
def Answers {ε α β : Type} (R : β → α → Prop) (inPlace : Checked (Except ε β))
    (answer : Except ε α) : Prop :=
  (∃ e, inPlace = .ok (.error e) ∧ answer = .error e)
    ∨ ∃ b a, inPlace = .ok (.ok b) ∧ answer = .ok a ∧ R b a

theorem Answers.error {ε α β : Type} {R : β → α → Prop} (e : ε) :
    Answers R (.ok (.error e)) (.error e) := .inl ⟨e, rfl, rfl⟩

theorem Answers.ok {ε α β : Type} {R : β → α → Prop} {b : β} {a : α} (h : R b a) :
    Answers (ε := ε) R (.ok (.ok b)) (.ok a) := .inr ⟨b, a, rfl, rfl, h⟩

/-! ## Strings and numbers -/

section

variable {frame : List UInt8}

theorem skipWhitespaceAt_spec {input : List UInt8} {fuel index : ℕ} (h : At frame index input)
    (hfuel : input.length < fuel) :
    ∃ index', skipWhitespaceAt frame fuel index = .ok index'
      ∧ At frame index' (skipWhitespace input) := by
  induction input generalizing fuel index with
  | nil =>
    obtain ⟨fuel, rfl⟩ := Nat.exists_eq_add_one_of_ne_zero hfuel.ne'
    exact ⟨index, if_neg (by rw [h.eq_of_nil]; exact Nat.lt_irrefl _), h⟩
  | cons byte input ih =>
    obtain ⟨fuel, rfl⟩ := Nat.exists_eq_add_one_of_ne_zero (Nat.ne_zero_of_lt hfuel)
    rw [skipWhitespaceAt, if_pos h.lt_of_cons, h.read, ok_bind]
    by_cases hblank : byte = 0x20 ∨ byte = 0x09
    · rw [if_pos hblank, skipWhitespace, List.dropWhile_cons, if_pos (decide_eq_true hblank)]
      exact ih h.next (Nat.lt_of_succ_lt_succ hfuel)
    · rw [if_neg hblank, skipWhitespace, List.dropWhile_cons,
        if_neg (by simpa using hblank)]
      exact ⟨index, rfl, h⟩

/-- An output that was written to so far, with room for the terminator. -/
def Written {outputCapacity : ℕ} (b : Buffer outputCapacity × ℕ) (output : List UInt8) : Prop :=
  b.1.Begins output ∧ b.2 = output.length ∧ 0 ∉ output ∧ output.length < outputCapacity

theorem appendStringByteTo_spec {outputCapacity : ℕ} {buffer : Buffer outputCapacity}
    {outputLength : ℕ} {output : List UInt8} (h : Written (buffer, outputLength) output)
    (byte : UInt8) :
    Answers Written (appendStringByteTo buffer outputLength byte)
      (appendStringByte outputCapacity output byte) := by
  obtain ⟨hbegins, rfl, hzero, hroom⟩ := h
  dsimp only at hbegins ⊢
  unfold appendStringByteTo appendStringByte
  split
  · exact .error _
  rename_i hbyte
  rw [not_or, not_le] at hbyte
  obtain ⟨buffer', hstore, hbegins'⟩ := hbegins.store hroom byte
  rw [hstore, ok_bind]
  refine .ok ⟨hbegins', by simp, ?_, by simpa using hbyte.2⟩
  rw [List.mem_append, not_or, List.mem_singleton]
  exact ⟨hzero, Ne.symm hbyte.1⟩

theorem shiftLeft_or {n digit : ℕ} (h : digit < 16) : n <<< 4 ||| digit = n * 16 + digit := by
  rw [← Nat.shiftLeft_add_eq_or_of_lt (show digit < 2 ^ 4 from h), Nat.shiftLeft_eq]

theorem hexValue_lt {byte : UInt8} {n : ℕ} (h : hexValue byte = some n) : n < 16 := by
  have hall : ∀ byte : Fin 256, ((hexValue (UInt8.ofFin byte)).all fun n => n < 16) = true := by
    decide +kernel
  have hbyte := hall byte.toFin
  rw [UInt8.ofFin_toFin, h] at hbyte
  exact of_decide_eq_true hbyte

theorem unicodeDigitsAt_cons {rest : List UInt8} {index count codepoint : ℕ} {byte : UInt8}
    (h : At frame index (byte :: rest)) :
    unicodeDigitsAt frame (count + 1) index codepoint
      = match hexValue byte with
        | none => .ok none
        | some digit => unicodeDigitsAt frame count (index + 1) (codepoint * 16 + digit) := by
  rw [unicodeDigitsAt, h.read, ok_bind]
  cases hdigit : hexValue byte with
  | none => rfl
  | some digit =>
    dsimp only
    rw [shiftLeft_or (hexValue_lt hdigit)]

/-- Four digits are read as an escape. -/
theorem parseUnicodeEscapeAt_spec {outputCapacity : ℕ} {a b c d : UInt8} {rest : List UInt8}
    {index : ℕ} (h : At frame index (a :: b :: c :: d :: rest)) {buffer : Buffer outputCapacity}
    {outputLength : ℕ} {output : List UInt8} (hwritten : Written (buffer, outputLength) output) :
    Answers (fun (r : ℕ × Buffer outputCapacity × ℕ) output => At frame r.1 rest ∧ Written r.2 output)
      (parseUnicodeEscapeAt frame index buffer outputLength)
      (parseUnicodeEscape outputCapacity output a b c d) := by
  have hlength := h.length_eq
  simp only [List.length_cons] at hlength
  unfold parseUnicodeEscapeAt parseUnicodeEscape
  rw [sub, if_pos (by omega), ok_bind, if_neg (by omega), unicodeDigitsAt_cons h]
  cases hexValue a with
  | none => exact .error _
  | some i =>
  dsimp only
  rw [unicodeDigitsAt_cons h.next]
  cases hexValue b with
  | none => exact .error _
  | some j =>
  dsimp only
  rw [unicodeDigitsAt_cons h.next.next]
  cases hexValue c with
  | none => exact .error _
  | some k =>
  dsimp only
  rw [unicodeDigitsAt_cons h.next.next.next]
  cases hexValue d with
  | none => exact .error _
  | some l =>
  dsimp only
  rw [unicodeDigitsAt, Nat.zero_mul, Nat.zero_add, pure_bind]
  dsimp only
  split
  · exact .error _
  rcases appendStringByteTo_spec hwritten (((i * 16 + j) * 16 + k) * 16 + l).toUInt8 with
    ⟨e, hinPlace, hanswer⟩ | ⟨⟨buffer', outputLength'⟩, output', hinPlace, hanswer, hwritten'⟩
  · rw [hinPlace, ok_bind, hanswer]
    exact .error _
  · rw [hinPlace, ok_bind, hanswer]
    exact .ok ⟨h.next.next.next.next, hwritten'⟩

/-- A string in its buffer, with the index behind it. -/
def StringAt (frame : List UInt8) {outputCapacity : ℕ} (b : ℕ × Buffer outputCapacity)
    (a : List UInt8 × List UInt8) : Prop := At frame b.1 a.2 ∧ b.2.Holds a.1

theorem stringBodyAt_cons {outputCapacity : ℕ} {rest : List UInt8} {fuel index : ℕ} {byte : UInt8}
    (h : At frame index (byte :: rest)) (buffer : Buffer outputCapacity) (outputLength : ℕ)
    (hquote : byte ≠ 0x22) (hascii : ¬(byte < 0x20 ∨ 0x80 ≤ byte)) (hescape : byte ≠ 0x5C) :
    stringBodyAt frame (fuel + 1) index buffer outputLength = (do
      match ← appendStringByteTo buffer outputLength byte with
      | .error e => return .error e
      | .ok (output, outputLength) => stringBodyAt frame fuel (index + 1) output outputLength) := by
  rw [stringBodyAt, if_pos h.lt_of_cons, h.read, ok_bind, if_neg hquote, if_neg hascii]
  exact if_pos hescape

theorem stringBodyAt_escape {outputCapacity : ℕ} {rest : List UInt8} {fuel index : ℕ}
    {escape : UInt8} (h : At frame index (0x5C :: escape :: rest)) (buffer : Buffer outputCapacity)
    (outputLength : ℕ) :
    stringBodyAt frame (fuel + 1) index buffer outputLength
      = (if escape = 0x75 then do
          match ← parseUnicodeEscapeAt frame (index + 2) buffer outputLength with
          | .error e => return .error e
          | .ok (index, output, outputLength) => stringBodyAt frame fuel index output outputLength
        else
          match escapedByte escape with
          | none => return .error .malformed
          | some byte => do
            match ← appendStringByteTo buffer outputLength byte with
            | .error e => return .error e
            | .ok (output, outputLength) => stringBodyAt frame fuel (index + 2) output outputLength) := by
  rw [stringBodyAt, if_pos h.lt_of_cons, h.read, ok_bind, if_neg (by decide), if_neg (by decide),
    if_neg (by decide), if_neg (not_le.mpr h.next.lt_of_cons), h.next.read]
  exact ok_bind _ _

theorem stringBodyAt_spec {outputCapacity : ℕ} {output input : List UInt8} {fuel index : ℕ}
    (h : At frame index input) (hfuel : input.length < fuel) {buffer : Buffer outputCapacity}
    {outputLength : ℕ} (hwritten : Written (buffer, outputLength) output) :
    Answers (StringAt frame) (stringBodyAt frame fuel index buffer outputLength)
      (parseStringBody outputCapacity output input) := by
  obtain ⟨fuel, rfl⟩ := Nat.exists_eq_add_one_of_ne_zero (Nat.ne_zero_of_lt hfuel)
  fun_induction parseStringBody outputCapacity output input generalizing fuel index buffer outputLength with
  | case1 output =>
    rw [stringBodyAt, if_neg (by rw [h.eq_of_nil]; exact Nat.lt_irrefl _)]
    exact .error _
  | case2 output rest =>
    obtain ⟨hbegins, rfl, hzero, hroom⟩ := hwritten
    obtain ⟨buffer', hstore, hbegins'⟩ := hbegins.store hroom 0
    rw [stringBodyAt, if_pos h.lt_of_cons, h.read, ok_bind, if_pos rfl]
    dsimp only at hstore
    rw [hstore, ok_bind]
    exact .ok ⟨h.next, hbegins', hzero⟩
  | case3 output byte rest hquote hascii =>
    rw [stringBodyAt, if_pos h.lt_of_cons, h.read, ok_bind, if_neg hquote, if_pos hascii]
    exact .error _
  | case4 output byte rest hquote hascii hescape e happend =>
    rw [stringBodyAt_cons h _ _ hquote hascii hescape]
    rcases appendStringByteTo_spec hwritten byte with ⟨e', hinPlace, hanswer⟩ | ⟨_, _, _, hanswer, _⟩
    · rw [hinPlace, ok_bind]
      cases hanswer.symm.trans happend
      exact .error _
    · cases hanswer.symm.trans happend
  | case5 output byte rest hquote hascii hescape output' happend ih =>
    rw [stringBodyAt_cons h _ _ hquote hascii hescape]
    rcases appendStringByteTo_spec hwritten byte with
      ⟨_, _, hanswer⟩ | ⟨⟨buffer', outputLength'⟩, _, hinPlace, hanswer, hwritten'⟩
    · cases hanswer.symm.trans happend
    · rw [hinPlace, ok_bind]
      cases hanswer.symm.trans happend
      simp only [List.length_cons] at hfuel
      obtain ⟨fuel, rfl⟩ := Nat.exists_eq_add_one_of_ne_zero
        (Nat.ne_zero_of_lt (Nat.lt_of_succ_lt_succ hfuel))
      exact ih h.next hwritten' fuel (Nat.lt_of_succ_lt_succ hfuel)
  | case6 output byte hquote hascii hescape =>
    rw [stringBodyAt, if_pos h.lt_of_cons, h.read, ok_bind, if_neg hquote, if_neg hascii,
      if_neg hescape, if_pos (by rw [← h.next.eq_of_nil])]
    exact .error _
  | case7 output byte hquote hascii hescape a b c d rest e hunicode =>
    obtain rfl := not_not.mp hescape
    rw [stringBodyAt_escape h, if_pos rfl]
    rcases parseUnicodeEscapeAt_spec h.next.next hwritten with
      ⟨e', hinPlace, hanswer⟩ | ⟨_, _, _, hanswer, _⟩
    · rw [hinPlace, ok_bind]
      cases hanswer.symm.trans hunicode
      exact .error _
    · cases hanswer.symm.trans hunicode
  | case8 output byte hquote hascii hescape a b c d rest output' hunicode ih =>
    obtain rfl := not_not.mp hescape
    rw [stringBodyAt_escape h, if_pos rfl]
    rcases parseUnicodeEscapeAt_spec h.next.next hwritten with
      ⟨_, _, hanswer⟩ | ⟨⟨index', buffer', outputLength'⟩, _, hinPlace, hanswer, hat, hwritten'⟩
    · cases hanswer.symm.trans hunicode
    · rw [hinPlace, ok_bind]
      cases hanswer.symm.trans hunicode
      simp only [List.length_cons] at hfuel
      obtain ⟨fuel, rfl⟩ := Nat.exists_eq_add_one_of_ne_zero (show fuel ≠ 0 by omega)
      exact ih hat hwritten' fuel (by omega)
  | case9 output byte hquote hascii hescape rest hshort =>
    obtain rfl := not_not.mp hescape
    rw [stringBodyAt_escape h, if_pos rfl]
    have hlength := h.next.next.length_eq
    have hrest : rest.length < 4 := by
      rcases rest with _ | ⟨a, _ | ⟨b, _ | ⟨c, _ | ⟨d, rest⟩⟩⟩⟩
      all_goals first | exact absurd rfl (hshort a b c d rest) | simp
    unfold parseUnicodeEscapeAt
    rw [sub, if_pos (by omega), ok_bind, if_pos (by omega)]
    exact .error _
  | case10 output byte hquote hascii hescape escape rest hunicode hnone =>
    obtain rfl := not_not.mp hescape
    rw [stringBodyAt_escape h, if_neg hunicode, hnone]
    exact .error _
  | case11 output byte hquote hascii hescape escape rest hunicode byte' hsome e happend =>
    obtain rfl := not_not.mp hescape
    rw [stringBodyAt_escape h, if_neg hunicode, hsome]
    dsimp only
    rcases appendStringByteTo_spec hwritten byte' with ⟨e', hinPlace, hanswer⟩ | ⟨_, _, _, hanswer, _⟩
    · rw [hinPlace, ok_bind]
      cases hanswer.symm.trans happend
      exact .error _
    · cases hanswer.symm.trans happend
  | case12 output byte hquote hascii hescape escape rest hunicode byte' hsome output' happend ih =>
    obtain rfl := not_not.mp hescape
    rw [stringBodyAt_escape h, if_neg hunicode, hsome]
    dsimp only
    rcases appendStringByteTo_spec hwritten byte' with
      ⟨_, _, hanswer⟩ | ⟨⟨buffer', outputLength'⟩, _, hinPlace, hanswer, hwritten'⟩
    · cases hanswer.symm.trans happend
    · rw [hinPlace, ok_bind]
      cases hanswer.symm.trans happend
      simp only [List.length_cons] at hfuel
      obtain ⟨fuel, rfl⟩ := Nat.exists_eq_add_one_of_ne_zero (show fuel ≠ 0 by omega)
      exact ih h.next.next hwritten' fuel (by omega)

/-- A string is parsed into a buffer of its capacity. -/
theorem parseJsonStringAt_spec {outputCapacity : ℕ} (hcapacity : 0 < outputCapacity)
    {input : List UInt8} {fuel index : ℕ} (h : At frame index input) (hfuel : input.length ≤ fuel)
    (output : Buffer outputCapacity) :
    Answers (StringAt frame) (parseJsonStringAt fuel frame index output)
      (parseJsonString outputCapacity input) := by
  unfold parseJsonStringAt
  cases input with
  | nil =>
    rw [if_pos h.eq_of_nil.ge]
    exact .error _
  | cons byte rest =>
    rw [if_neg (not_le.mpr h.lt_of_cons), h.read, ok_bind, parseJsonString]
    split
    · exact .error _
    · exact stringBodyAt_spec h.next hfuel ⟨output.begins_nil, rfl, List.not_mem_nil, hcapacity⟩

theorem pulseDigitsAt_spec {input : List UInt8} {fuel index : ℕ} (h : At frame index input)
    (hfuel : input.length < fuel) (parsed : ℕ) :
    (pulseDigitsAt frame fuel index parsed = .ok none ∧ parsePulseDigits parsed input = none)
      ∨ ∃ value index' rest, pulseDigitsAt frame fuel index parsed = .ok (some (value, index'))
        ∧ parsePulseDigits parsed input = some (value, rest) ∧ At frame index' rest := by
  induction input generalizing fuel index parsed with
  | nil =>
    obtain ⟨fuel, rfl⟩ := Nat.exists_eq_add_one_of_ne_zero (Nat.ne_zero_of_lt hfuel)
    exact .inr ⟨parsed, index, [], if_neg (by rw [h.eq_of_nil]; exact Nat.lt_irrefl _), rfl, h⟩
  | cons byte rest ih =>
    obtain ⟨fuel, rfl⟩ := Nat.exists_eq_add_one_of_ne_zero (Nat.ne_zero_of_lt hfuel)
    rw [pulseDigitsAt, if_pos h.lt_of_cons, h.read, ok_bind, parsePulseDigits]
    split
    · dsimp only
      split
      · exact .inl ⟨rfl, rfl⟩
      · exact ih h.next (Nat.lt_of_succ_lt_succ hfuel) _
    · exact .inr ⟨parsed, index, byte :: rest, rfl, rfl, h⟩

theorem digitFollows_spec {input : List UInt8} {index : ℕ} (h : At frame index input) :
    digitFollows frame index = .ok (input.head?.any isDigit) := by
  unfold digitFollows
  cases input with
  | nil =>
    rw [if_neg (by rw [h.eq_of_nil]; exact Nat.lt_irrefl _)]
    rfl
  | cons byte rest =>
    rw [if_pos h.lt_of_cons, h.read]
    rfl

theorem parsePulseMsAt_spec {input : List UInt8} {fuel index : ℕ} (h : At frame index input)
    (hfuel : input.length < fuel) :
    (parsePulseMsAt fuel frame index = .ok none ∧ parsePulseMs input = none)
      ∨ ∃ value index' rest, parsePulseMsAt fuel frame index = .ok (some (value, index'))
        ∧ parsePulseMs input = some (value, rest) ∧ At frame index' rest := by
  unfold parsePulseMsAt
  cases input with
  | nil =>
    rw [if_pos h.eq_of_nil.ge]
    exact .inl ⟨rfl, rfl⟩
  | cons byte rest =>
    rw [if_neg (not_le.mpr h.lt_of_cons), h.read, ok_bind, parsePulseMs, digitFollows_spec h.next,
      ok_bind]
    split
    · exact .inl ⟨rfl, rfl⟩
    split
    · exact .inl ⟨rfl, rfl⟩
    rcases pulseDigitsAt_spec h hfuel 0 with ⟨hinPlace, hanswer⟩ | ⟨value, index', rest', hinPlace,
      hanswer, hat⟩
    · rw [hinPlace, hanswer]
      exact .inl ⟨rfl, rfl⟩
    · rw [hinPlace, hanswer]
      exact .inr ⟨_, _, rest', rfl, rfl, hat⟩

end

/-! ## Objects -/

/-- The buffers hold the fields' strings. -/
structure FieldBuffers.Hold (buffers : FieldBuffers) (fields : RawFields) : Prop where
  present : buffers.present = fields.present
  cmd : buffers.cmd.Holds fields.cmd
  channel : buffers.channel.Holds fields.channel
  mode : buffers.mode.Holds fields.mode
  activeLevel : buffers.activeLevel.Holds fields.activeLevel
  idleLevel : buffers.idleLevel.Holds fields.idleLevel
  state : buffers.state.Holds fields.state
  dataB64 : buffers.dataB64.Holds fields.dataB64
  pulseMs : buffers.pulseMs = fields.pulseMs

theorem FieldBuffers.hold_empty : FieldBuffers.Hold {} {} where
  present := rfl
  cmd := Buffer.zero_holds (by decide)
  channel := Buffer.zero_holds (by decide)
  mode := Buffer.zero_holds (by decide)
  activeLevel := Buffer.zero_holds (by decide)
  idleLevel := Buffer.zero_holds (by decide)
  state := Buffer.zero_holds (by decide)
  dataB64 := Buffer.zero_holds (by decide)
  pulseMs := rfl

/-- Fields in their buffers, with the index behind what was parsed. -/
def FieldsAt (frame : List UInt8) (b : ℕ × FieldBuffers) (a : RawFields × List UInt8) : Prop :=
  At frame b.1 a.2 ∧ b.2.Hold a.1

section

variable {frame : List UInt8}

theorem parseStringInto_spec {outputCapacity : ℕ} (hcapacity : 0 < outputCapacity)
    {input : List UInt8} {fuel index : ℕ} (h : At frame index input) (hfuel : input.length ≤ fuel)
    {output : Buffer outputCapacity} {putBack : Buffer outputCapacity → FieldBuffers}
    {keep : List UInt8 → RawFields}
    (hkeep : ∀ buffer value, buffer.Holds value → (putBack buffer).Hold (keep value)) :
    Answers (FieldsAt frame) (parseStringInto fuel frame index output putBack)
      (match parseJsonString outputCapacity input with
        | .error e => .error e
        | .ok (value, rest) => .ok (keep value, rest)) := by
  unfold parseStringInto
  rcases parseJsonStringAt_spec hcapacity h hfuel output with
    ⟨e, hinPlace, hanswer⟩ | ⟨⟨index', buffer⟩, ⟨value, rest⟩, hinPlace, hanswer, hat, hholds⟩
  · rw [hinPlace, ok_bind, hanswer]
    exact .error e
  · rw [hinPlace, ok_bind, hanswer]
    exact .ok ⟨hat, hkeep buffer value hholds⟩

theorem parseFieldStringAt_spec {input : List UInt8} {fuel index : ℕ} (h : At frame index input)
    (hfuel : input.length ≤ fuel) {buffers : FieldBuffers} {fields : RawFields}
    (hhold : buffers.Hold fields) (field : FieldId) :
    Answers (FieldsAt frame) (parseFieldStringAt fuel frame index buffers field)
      (parseFieldString fields field input) := by
  unfold parseFieldString
  cases field with
  | pulseMs => exact .error _
  | cmd =>
    exact parseStringInto_spec (by decide) h hfuel fun _ _ hholds => { hhold with cmd := hholds }
  | channel =>
    exact parseStringInto_spec (by decide) h hfuel fun _ _ hholds => { hhold with channel := hholds }
  | mode =>
    exact parseStringInto_spec (by decide) h hfuel fun _ _ hholds => { hhold with mode := hholds }
  | activeLevel =>
    exact parseStringInto_spec (by decide) h hfuel
      fun _ _ hholds => { hhold with activeLevel := hholds }
  | idleLevel =>
    exact parseStringInto_spec (by decide) h hfuel
      fun _ _ hholds => { hhold with idleLevel := hholds }
  | state =>
    exact parseStringInto_spec (by decide) h hfuel fun _ _ hholds => { hhold with state := hholds }
  | dataB64 =>
    exact parseStringInto_spec (by decide) h hfuel fun _ _ hholds => { hhold with dataB64 := hholds }

theorem fieldValueAt_spec {input : List UInt8} {fuel index : ℕ} (h : At frame index input)
    (hfuel : input.length < fuel) {buffers : FieldBuffers} {fields : RawFields}
    (hhold : buffers.Hold fields) (field : FieldId) :
    Answers (FieldsAt frame) (fieldValueAt fuel frame index buffers field)
      (parseFieldValue fields field input) := by
  unfold fieldValueAt parseFieldValue
  split
  · rcases parsePulseMsAt_spec h hfuel with ⟨hinPlace, hanswer⟩ | ⟨value, index', rest, hinPlace,
      hanswer, hat⟩
    · rw [hinPlace, ok_bind, hanswer]
      exact .error _
    · rw [hinPlace, ok_bind, hanswer]
      exact .ok ⟨hat, { hhold with pulseMs := rfl }⟩
  cases input with
  | nil =>
    rw [if_pos h.eq_of_nil.ge, List.head?_nil, if_pos (Option.some_ne_none _).symm]
    exact .error _
  | cons byte rest =>
    rw [if_neg (not_le.mpr h.lt_of_cons), h.read, ok_bind, List.head?_cons]
    by_cases hquote : byte = 0x22
    · rw [if_neg (not_not.mpr hquote), if_neg (by rw [hquote]; simp)]
      rcases parseFieldStringAt_spec h hfuel.le hhold field with
        ⟨e, hinPlace, hanswer⟩ | ⟨_, _, hinPlace, hanswer, hfields⟩
      · rw [hinPlace, ok_bind, hanswer]
        exact .error _
      · rw [hinPlace, ok_bind, hanswer]
        exact .ok hfields
    · rw [if_pos hquote, if_pos (fun heq => hquote (Option.some_inj.mp heq))]
      exact .error _

theorem memberAt_spec {input : List UInt8} {fuel index : ℕ} (h : At frame index input)
    (hfuel : frame.length < fuel) {buffers : FieldBuffers} {fields : RawFields}
    (hhold : buffers.Hold fields) :
    Answers (FieldsAt frame) (memberAt fuel frame index buffers) (parseMember fields input) := by
  have hroom : ∀ {index : ℕ} {input : List UInt8}, At frame index input → input.length < fuel :=
    fun hat => (by rw [hat.length_eq]; omega : _ ≤ frame.length).trans_lt hfuel
  unfold memberAt parseMember
  rcases parseJsonStringAt_spec (by decide) h (hroom h).le (Buffer.zero keyCapacity) with
    ⟨e, hinPlace, hanswer⟩ | ⟨⟨afterKey, buffer⟩, ⟨key, rest⟩, hinPlace, hanswer, hat, hholds⟩
  · rw [hinPlace, ok_bind, hanswer]
    exact .error _
  rw [hinPlace, ok_bind, hanswer]
  dsimp only at hholds ⊢
  rw [hholds.text, ok_bind]
  cases FieldId.fromName key with
  | none => exact .error _
  | some field =>
  dsimp only
  rw [hhold.present]
  split
  · exact .error _
  obtain ⟨colon, hcolon, hatColon⟩ := skipWhitespaceAt_spec hat (hroom hat)
  dsimp only at hatColon
  rw [hcolon, ok_bind]
  cases hskipped : skipWhitespace rest with
  | nil =>
    rw [hskipped] at hatColon
    rw [if_pos hatColon.eq_of_nil.ge]
    exact .error _
  | cons byte afterColon =>
  rw [hskipped] at hatColon
  rw [if_neg (not_le.mpr hatColon.lt_of_cons), hatColon.read, ok_bind]
  dsimp only
  split
  · exact .error _
  obtain ⟨start, hstart, hatStart⟩ := skipWhitespaceAt_spec hatColon.next (hroom hatColon.next)
  rw [hstart, ok_bind]
  rcases fieldValueAt_spec hatStart (hroom hatStart) hhold field with
    ⟨e, hinPlace, hanswer⟩ | ⟨⟨afterValue, buffers'⟩, ⟨fields', rest'⟩, hinPlace, hanswer, hatValue,
      hhold'⟩
  · rw [hinPlace, ok_bind, hanswer]
    exact .error _
  rw [hinPlace, ok_bind, hanswer]
  dsimp only at hatValue hhold' ⊢
  obtain ⟨final, hfinal, hatFinal⟩ := skipWhitespaceAt_spec hatValue (hroom hatValue)
  rw [hfinal, ok_bind]
  exact .ok ⟨hatFinal, { hhold' with present := congrArg (· ||| field.bit) hhold'.present }⟩

theorem skipWhitespace_idem (input : List UInt8) :
    skipWhitespace (skipWhitespace input) = skipWhitespace input :=
  List.dropWhile_idempotent _ _

/-- The loop parses members unless the first byte behind the blanks closes the object. -/
theorem membersAt_spec {input tail : List UInt8} {first : UInt8} {fuel index : ℕ}
    (h : At frame index input) (hfuel : frame.length < fuel) {buffers : FieldBuffers}
    {fields : RawFields} (hhold : buffers.Hold fields) {steps : ℕ} (hsteps : input.length < steps)
    (hskip : skipWhitespace input = first :: tail) (hfirst : first ≠ 0x7D) :
    Answers (FieldsAt frame) (membersAt fuel frame steps index buffers)
      (parseMembers fields (first :: tail)) := by
  have hroom : ∀ {index : ℕ} {input : List UInt8}, At frame index input → input.length < fuel :=
    fun hat => (by rw [hat.length_eq]; omega : _ ≤ frame.length).trans_lt hfuel
  induction steps generalizing input first tail index buffers fields with
  | zero => cases hsteps
  | succ steps ih =>
    have hstartLength := length_skipWhitespace input
    rw [hskip] at hstartLength
    obtain ⟨start, hstart, hatStart⟩ := skipWhitespaceAt_spec h (hroom h)
    rw [hskip] at hatStart
    rw [membersAt, hstart, ok_bind, if_neg (not_le.mpr hatStart.lt_of_cons), hatStart.read, ok_bind,
      if_neg hfirst, parseMembers]
    have hmember := memberAt_spec hatStart hfuel hhold
    split
    · rename_i e herror
      rcases hmember with ⟨e', hinPlace, hanswer⟩ | ⟨_, _, _, hanswer, _⟩
      · rw [hinPlace, ok_bind]
        cases hanswer.symm.trans herror
        exact .error _
      · cases hanswer.symm.trans herror
    · rename_i fields' hparsed
      rcases hmember with ⟨_, _, hanswer⟩ | ⟨⟨index', buffers'⟩, _, hinPlace, hanswer, hat, hhold'⟩
      · cases hanswer.symm.trans hparsed
      · rw [hinPlace, ok_bind]
        cases hanswer.symm.trans hparsed
        dsimp only at hat ⊢
        rw [if_pos hat.eq_of_nil.ge]
        exact .error _
    · rename_i fields' byte rest hparsed
      have hshorter := parseMember_length hparsed
      rcases hmember with ⟨_, _, hanswer⟩ | ⟨⟨index', buffers'⟩, _, hinPlace, hanswer, hat, hhold'⟩
      · cases hanswer.symm.trans hparsed
      rw [hinPlace, ok_bind]
      cases hanswer.symm.trans hparsed
      dsimp only at hat hhold' ⊢
      rw [if_neg (not_le.mpr hat.lt_of_cons), hat.read, ok_bind]
      split
      · exact .ok ⟨hat.next, hhold'⟩
      split
      · exact .error _
      obtain ⟨next, hnext, hatNext⟩ := skipWhitespaceAt_spec hat.next (hroom hat.next)
      rw [hnext, ok_bind]
      generalize hskipped : skipWhitespace rest = remaining at hatNext
      cases remaining with
      | nil =>
        rw [if_pos hatNext.eq_of_nil.ge]
        exact .error _
      | cons nextByte afterComma =>
        have hlength := length_skipWhitespace rest
        have hidem := skipWhitespace_idem rest
        rw [hskipped] at hlength hidem
        rw [if_neg (not_le.mpr hatNext.lt_of_cons), hatNext.read, ok_bind]
        dsimp only
        by_cases hclose : nextByte = 0x7D
        · rw [if_pos hclose, if_pos hclose]
          exact .error _
        · rw [if_neg hclose, if_neg hclose]
          simp only [List.length_cons] at hshorter hstartLength hlength
          exact ih hatNext hhold' (by simp only [List.length_cons]; omega) hidem hclose

theorem braced_eq (frame : List UInt8) :
    braced frame = .ok (!decide (frame.length < 2 ∨ frame.head? ≠ some 0x7B
      ∨ frame.getLast? ≠ some 0x7D)) := by
  unfold braced
  by_cases hlength : frame.length < 2
  · rw [if_pos hlength, decide_eq_true (.inl hlength)]
    rfl
  obtain ⟨first, rest, rfl⟩ := List.exists_cons_of_length_pos (l := frame) (by omega)
  rw [if_neg hlength, (at_zero _).read, ok_bind, List.head?_cons]
  by_cases hfirst : first = 0x7B
  · rw [if_neg (not_not.mpr hfirst), sub, if_pos (by omega), ok_bind, Checked.read,
      ← List.getLast?_eq_getElem?]
    cases hfinal : (first :: rest).getLast? with
    | none => cases List.getLast?_eq_none_iff.mp hfinal
    | some final =>
      have hcheck : ((first :: rest).length < 2 ∨ some first ≠ some 0x7B ∨ some final ≠ some 0x7D)
          ↔ final ≠ 0x7D := by
        rw [or_iff_right hlength, hfirst]
        simp
      rw [ok_bind, decide_eq_decide.mpr hcheck, decide_not, Bool.not_not]
      rfl
  · rw [if_pos hfirst, decide_eq_true (.inr (.inl (by simpa using hfirst)))]
    rfl

/-- What is parsed must reach the end of the frame. -/
theorem fieldsEnd_spec (inPlace : Checked (Except CommandDecodeFailure (ℕ × FieldBuffers)))
    (answer : Except CommandDecodeFailure (RawFields × List UInt8)) :
    Answers (FieldsAt frame) inPlace answer → Answers (fun buffers fields => buffers.Hold fields)
      (do
        match ← inPlace with
        | .error e => return .error e
        | .ok (index, fields) =>
          if index ≠ frame.length then return .error .invalidCommand
          else return .ok fields)
      (match answer with
        | .error e => .error e
        | .ok (fields, rest) => if rest ≠ [] then .error .invalidCommand else .ok fields) := by
  rintro (⟨e, rfl, rfl⟩ | ⟨⟨index, buffers⟩, ⟨fields, left⟩, rfl, rfl, hat, hhold⟩)
  · exact .error e
  rw [ok_bind]
  dsimp only at hat hhold ⊢
  have hindex : index ≠ frame.length ↔ left ≠ [] := by
    rw [hat.length_eq, ← List.length_pos_iff]
    omega
  by_cases hdone : left = []
  · rw [if_neg (by rw [hindex]; exact not_not.mpr hdone), if_neg (not_not.mpr hdone)]
    exact .ok hhold
  · rw [if_pos (hindex.mpr hdone), if_pos hdone]
    exact .error _

theorem parseObjectAt_spec {fuel : ℕ} (hfuel : frame.length < fuel) :
    Answers (fun buffers fields => buffers.Hold fields) (parseObjectAt fuel frame)
      (parseObject frame) := by
  unfold parseObjectAt parseObject
  rw [braced_eq, ok_bind]
  by_cases hbraces : frame.length < 2 ∨ frame.head? ≠ some 0x7B ∨ frame.getLast? ≠ some 0x7D
  · rw [if_pos hbraces, if_pos (by rw [decide_eq_true hbraces]; rfl)]
    exact .error _
  rw [if_neg hbraces, if_neg (by rw [decide_eq_false hbraces]; decide)]
  dsimp only
  have hframe : frame ≠ [] := by
    rintro rfl
    exact hbraces (.inl (by decide))
  obtain ⟨first, rest, rfl⟩ := List.exists_cons_of_ne_nil hframe
  have hat : At (first :: rest) 1 rest := (at_zero (first :: rest)).next
  rw [List.tail_cons]
  refine fieldsEnd_spec _ _ ?_
  obtain ⟨steps, rfl⟩ := Nat.exists_eq_add_one_of_ne_zero (Nat.ne_zero_of_lt hfuel)
  have hrest : rest.length < steps + 1 := (Nat.lt_succ_self _).trans hfuel
  obtain ⟨start, hstart, hatStart⟩ := skipWhitespaceAt_spec hat hrest
  generalize hinput : skipWhitespace rest = input at hatStart
  cases input with
  | nil =>
    rw [membersAt, hstart, ok_bind, if_pos hatStart.eq_of_nil.ge]
    exact .error _
  | cons byte tail =>
    by_cases hclose : byte = 0x7D
    · rw [membersAt, hstart, ok_bind, if_neg (not_le.mpr hatStart.lt_of_cons), hatStart.read,
        ok_bind, if_pos hclose]
      dsimp only
      rw [if_pos hclose]
      exact .ok ⟨hatStart.next, FieldBuffers.hold_empty⟩
    · dsimp only
      rw [if_neg hclose]
      exact membersAt_spec hat hfuel FieldBuffers.hold_empty hrest hinput hclose

end

/-! ## Fields to commands -/

/-- An answer in place is that of a decoder on lists, with what was written for it. -/
def Writes {α β : Type} (inPlace : Checked (Bool × α)) (answer : Option β) (read : α → β) : Prop :=
  ∃ ok output, inPlace = .ok (ok, output) ∧ answer = if ok then some (read output) else none

theorem Writes.fail {α β : Type} {read : α → β} (output : α) :
    Writes (.ok (false, output)) none read := ⟨false, output, rfl, rfl⟩

theorem Writes.succeed {α β : Type} {read : α → β} {output : α} {b : β} (h : b = read output) :
    Writes (.ok (true, output)) (some b) read := ⟨true, output, rfl, congrArg some h⟩

theorem holds_load {size : ℕ} {buffer : Buffer size} {value : List UInt8} (h : buffer.Holds value)
    (index : ℕ) {byte : UInt8} (hbyte : value[index]? = some byte) :
    buffer.load index = .ok byte := by
  refine h.1.load ?_
  obtain ⟨hlt, _⟩ := List.getElem?_eq_some_iff.mp hbyte
  rw [List.getElem?_append_left hlt, hbyte]

theorem decodeChannelTo_spec {buffer : Buffer 6} {value : List UInt8} (h : buffer.Holds value)
    (channel : ℕ) : Writes (decodeChannelTo buffer channel) (decodeChannel value) id := by
  unfold decodeChannelTo
  rw [h.text, ok_bind]
  by_cases hlength : value.length = 5
  · match value, hlength with
    | [c, t, r, l, digit], _ =>
      have hhead : (List.range 4).mapM buffer.load = .ok [c, t, r, l] := by
        rw [show List.range 4 = [0, 1, 2, 3] from rfl]
        simp only [List.mapM_cons, List.mapM_nil]
        rw [holds_load h 0 rfl, holds_load h 1 rfl, holds_load h 2 rfl, holds_load h 3 rfl]
        rfl
      rw [if_neg (by simp), hhead, ok_bind, holds_load h 4 rfl, ok_bind, decodeChannel]
      split
      · exact .fail _
      · exact .succeed rfl
  · rw [if_pos hlength]
    unfold decodeChannel
    split
    · exact absurd rfl hlength
    · exact .fail _

theorem decodeLevelTo_spec {buffer : Buffer 5} {value : List UInt8} (h : buffer.Holds value)
    (level : ControlLevel) : Writes (decodeLevelTo buffer level) (decodeLevel value) id := by
  unfold decodeLevelTo decodeLevel
  rw [h.text, ok_bind]
  split
  · exact .succeed rfl
  split
  · exact .succeed rfl
  · exact .fail _

theorem decodeConfigureTo_spec {buffers : FieldBuffers} {fields : RawFields}
    (h : buffers.Hold fields) :
    Writes (decodeConfigureTo buffers .zeroed) (decodeConfigure fields) CommandOutput.command := by
  unfold decodeConfigureTo decodeConfigure
  dsimp only
  obtain ⟨ok, channel, hchannelTo, hchannel⟩ :=
    decodeChannelTo_spec h.channel CommandOutput.zeroed.channel
  rw [hchannelTo, ok_bind, hchannel]
  cases ok with
  | false => exact .fail _
  | true =>
  obtain ⟨ok, active, hactiveTo, hactive⟩ :=
    decodeLevelTo_spec h.activeLevel CommandOutput.zeroed.configure.activeLevel
  simp only [Bool.not_true, Bool.false_eq_true, if_false, if_true, id_eq]
  rw [hactiveTo, ok_bind, hactive]
  cases ok with
  | false => exact .fail _
  | true =>
  simp only [Bool.not_true, Bool.false_eq_true, if_false, if_true, id_eq]
  rw [h.mode.text, ok_bind, h.present]
  split
  · split
    · exact .fail _
    · rename_i hcheck
      rw [not_or, not_not, not_not] at hcheck
      exact .succeed (by rw [hcheck.2]; rfl)
  split
  · split
    · exact .fail _
    obtain ⟨ok, idle, hidleTo, hidle⟩ :=
      decodeLevelTo_spec h.idleLevel CommandOutput.zeroed.configure.idleLevel
    rw [hidleTo, ok_bind, hidle]
    cases ok with
    | false => exact .fail _
    | true =>
    simp only [Bool.not_true, Bool.false_eq_true, false_or, if_true, id_eq]
    split
    · exact .fail _
    · exact .succeed rfl
  · exact .fail _

theorem decodePulseTo_spec {buffers : FieldBuffers} {fields : RawFields} (h : buffers.Hold fields) :
    Writes (decodePulseTo buffers .zeroed) (decodePulse fields) CommandOutput.command := by
  unfold decodePulseTo decodePulse
  rw [h.present, h.pulseMs]
  split
  · exact .fail _
  obtain ⟨ok, channel, hchannelTo, hchannel⟩ :=
    decodeChannelTo_spec h.channel CommandOutput.zeroed.channel
  rw [hchannelTo, ok_bind, hchannel]
  cases ok with
  | false => exact .fail _
  | true => exact .succeed rfl

theorem decodeStateTo_spec {buffers : FieldBuffers} {fields : RawFields} (h : buffers.Hold fields) :
    Writes (decodeStateTo buffers .zeroed) (decodeState fields) CommandOutput.command := by
  unfold decodeStateTo decodeState
  rw [h.present]
  split
  · exact .fail _
  obtain ⟨ok, channel, hchannelTo, hchannel⟩ :=
    decodeChannelTo_spec h.channel CommandOutput.zeroed.channel
  rw [hchannelTo, ok_bind, hchannel]
  cases ok with
  | false => exact .fail _
  | true =>
  simp only [Bool.not_true, Bool.false_eq_true, if_false, if_true, id_eq]
  rw [h.state.text, ok_bind]
  split
  · exact .succeed rfl
  split
  · exact .succeed rfl
  · exact .fail _

/-- The groups from an index on are decoded into the output. -/
theorem base64GroupsTo_spec {encoded : Buffer (base64MaxBytes + 1)} {text : List UInt8}
    (hencoded : encoded.Holds text) {groups payload : List UInt8} {fuel index : ℕ}
    (h : At text index groups) (hgroups : groups.length % 4 = 0) (hfuel : groups.length < fuel)
    {data : Buffer uartSendMaxBytes} (hdata : data.Begins payload) :
    ∃ ok data' payload', base64GroupsTo encoded text.length fuel index data payload.length
        = .ok (ok, data', payload'.length) ∧ data'.Begins payload'
      ∧ decodeBase64Groups payload groups = if ok then some payload' else none := by
  induction fuel generalizing groups payload index data with
  | zero => cases hfuel
  | succ fuel ih =>
    match groups with
    | [] =>
      refine ⟨true, data, payload, if_neg ?_, hdata, decodeBase64Groups_nil payload⟩
      rw [h.eq_of_nil]
      exact Nat.lt_irrefl _
    | [_] | [_, _] | [_, _, _] => simp at hgroups
    | first :: second :: third :: fourth :: rest =>
      have hrest : At text (index + 4) rest := h.next.next.next.next
      have hlast : index + 4 ≠ text.length ↔ rest ≠ [] := by
        rw [hrest.length_eq, ← List.length_pos_iff]
        omega
      simp only [List.length_cons] at hgroups hfuel
      have hnext : ∀ {data : Buffer uartSendMaxBytes} {payload : List UInt8}, data.Begins payload →
          ∃ ok data' payload', base64GroupsTo encoded text.length fuel (index + 4) data payload.length
              = .ok (ok, data', payload'.length) ∧ data'.Begins payload'
            ∧ decodeBase64Groups payload rest = if ok then some payload' else none :=
        fun hdata => ih hrest (by omega) (by omega) hdata
      rw [base64GroupsTo, if_pos h.lt_of_cons, holds_load hencoded index h.getElem?, ok_bind,
        holds_load hencoded (index + 1) h.next.getElem?, ok_bind, decodeBase64Groups]
      cases base64Value first with
      | none => exact ⟨false, data, payload, rfl, hdata, rfl⟩
      | some a =>
      cases base64Value second with
      | none => exact ⟨false, data, payload, rfl, hdata, rfl⟩
      | some b =>
      dsimp only
      by_cases hfull : uartSendMaxBytes ≤ payload.length
      · rw [if_pos hfull, if_pos hfull]
        exact ⟨false, data, payload, rfl, hdata, rfl⟩
      obtain ⟨data₁, hstore₁, hdata₁⟩ := hdata.store (not_le.mp hfull) (a * 4 + b / 16).toUInt8
      rw [if_neg hfull, if_neg hfull, hstore₁, ok_bind,
        holds_load hencoded (index + 2) h.next.next.getElem?, ok_bind]
      have hlength₁ : payload.length + 1 = (payload ++ [(a * 4 + b / 16).toUInt8]).length := by simp
      by_cases hthird : third = 0x3D
      · rw [if_pos hthird, if_pos hthird]
        by_cases hend : rest = []
        · rw [if_neg (by rw [hlast]; exact not_not.mpr hend),
            holds_load hencoded (index + 3) h.next.next.next.getElem?, ok_bind]
          by_cases hfourth : fourth = 0x3D
          · rw [if_neg (not_not.mpr hfourth), if_neg (by simp [hend, hfourth]), hlength₁]
            exact hnext hdata₁
          · rw [if_pos hfourth, if_pos (.inr hfourth), hlength₁]
            exact ⟨false, data₁, _, rfl, hdata₁, rfl⟩
        · rw [if_pos (hlast.mpr hend), if_pos (.inl hend), hlength₁]
          exact ⟨false, data₁, _, rfl, hdata₁, rfl⟩
      rw [if_neg hthird, if_neg hthird]
      cases base64Value third with
      | none =>
        rw [hlength₁]
        exact ⟨false, data₁, _, rfl, hdata₁, rfl⟩
      | some c =>
      dsimp only
      rw [hlength₁]
      by_cases hfull₁ : uartSendMaxBytes ≤ (payload ++ [(a * 4 + b / 16).toUInt8]).length
      · rw [if_pos hfull₁, if_pos hfull₁]
        exact ⟨false, data₁, _, rfl, hdata₁, rfl⟩
      obtain ⟨data₂, hstore₂, hdata₂⟩ := hdata₁.store (not_le.mp hfull₁) (b * 16 + c / 4).toUInt8
      rw [if_neg hfull₁, if_neg hfull₁, hstore₂, ok_bind,
        holds_load hencoded (index + 3) h.next.next.next.getElem?, ok_bind]
      have hlength₂ : payload.length + 2
          = (payload ++ [(a * 4 + b / 16).toUInt8] ++ [(b * 16 + c / 4).toUInt8]).length := by simp
      by_cases hfourth : fourth = 0x3D
      · rw [if_pos hfourth, if_pos hfourth, hlength₂]
        by_cases hend : rest = []
        · rw [if_neg (by rw [hlast]; exact not_not.mpr hend), if_neg (not_not.mpr hend)]
          exact hnext hdata₂
        · rw [if_pos (hlast.mpr hend), if_pos hend]
          exact ⟨false, data₂, _, rfl, hdata₂, rfl⟩
      rw [if_neg hfourth, if_neg hfourth, hlength₂]
      cases base64Value fourth with
      | none => exact ⟨false, data₂, _, rfl, hdata₂, rfl⟩
      | some d =>
      dsimp only
      by_cases hfull₂ : uartSendMaxBytes
          ≤ (payload ++ [(a * 4 + b / 16).toUInt8] ++ [(b * 16 + c / 4).toUInt8]).length
      · rw [if_pos hfull₂, if_pos hfull₂]
        exact ⟨false, data₂, _, rfl, hdata₂, rfl⟩
      obtain ⟨data₃, hstore₃, hdata₃⟩ := hdata₂.store (not_le.mp hfull₂) (c * 64 + d).toUInt8
      have hlength₃ : payload.length + 3 = (payload ++ [(a * 4 + b / 16).toUInt8]
          ++ [(b * 16 + c / 4).toUInt8] ++ [(c * 64 + d).toUInt8]).length := by simp
      rw [if_neg hfull₂, if_neg hfull₂, hstore₃, ok_bind, hlength₃]
      exact hnext hdata₃

theorem decodeBase64To_spec {encoded : Buffer (base64MaxBytes + 1)} {text : List UInt8}
    (h : encoded.Holds text) {fuel : ℕ} (hfuel : base64MaxBytes < fuel) (uart : UartSendOutput) :
    Writes (decodeBase64To fuel encoded uart) (decodeBase64 text)
      fun uart => uart.data.bytes.take uart.length := by
  unfold decodeBase64To decodeBase64
  rw [h.text, ok_bind]
  split
  · exact .fail _
  rename_i hlength
  simp only [not_or, not_lt, not_not] at hlength
  obtain ⟨ok, data, payload, hgroupsTo, hdata, hgroups⟩ := base64GroupsTo_spec h (at_zero text)
    hlength.2.2 (hlength.2.1.trans_lt hfuel) uart.data.begins_nil
  rw [List.length_nil] at hgroupsTo
  rw [hgroupsTo, ok_bind, hgroups]
  cases ok with
  | false => exact .fail _
  | true =>
  simp only [Bool.not_true, Bool.false_eq_true, if_false, if_true]
  obtain ⟨rest, hbytes⟩ := hdata
  cases payload with
  | nil => exact .fail _
  | cons byte payload =>
    refine .succeed ?_
    dsimp only
    rw [hbytes, List.take_left]

theorem decodeUartSendTo_spec {buffers : FieldBuffers} {fields : RawFields} (h : buffers.Hold fields)
    {fuel : ℕ} (hfuel : base64MaxBytes < fuel) :
    Writes (decodeUartSendTo fuel buffers .zeroed) (decodeUartSend fields)
      CommandOutput.command := by
  unfold decodeUartSendTo decodeUartSend
  rw [h.present]
  split
  · exact .fail _
  obtain ⟨ok, uart, huartTo, huart⟩ :=
    decodeBase64To_spec h.dataB64 hfuel CommandOutput.zeroed.uartSend
  rw [huartTo, ok_bind, huart]
  cases ok with
  | false => exact .fail _
  | true => exact .succeed rfl

/-- The first byte of a string's buffer is zero exactly when the string is empty. -/
theorem load_zero {size : ℕ} {buffer : Buffer size} {value : List UInt8} (h : buffer.Holds value) :
    ∃ byte, buffer.load 0 = .ok byte ∧ (byte = 0 ↔ value = []) := by
  cases value with
  | nil => exact ⟨0, h.1.load rfl, by simp⟩
  | cons byte rest =>
    refine ⟨byte, holds_load h 0 rfl, ?_⟩
    have hzero := h.2
    rw [List.mem_cons, not_or] at hzero
    simp [Ne.symm hzero.1]

/-- The decoder of a command's name is selected as `decodeFields` selects it. -/
theorem decodeNamedTo_spec {buffers : FieldBuffers} {fields : RawFields} (h : buffers.Hold fields)
    {fuel : ℕ} (hfuel : base64MaxBytes < fuel) :
    (decodeNamedTo fuel buffers fields.cmd .zeroed = none
        ∧ (if fields.cmd = ascii "configure_gpio_mode" then some (decodeConfigure fields)
          else if fields.cmd = ascii "pulse_control" then some (decodePulse fields)
          else if fields.cmd = ascii "set_control_state" then some (decodeState fields)
          else if fields.cmd = ascii "uart_send" then some (decodeUartSend fields)
          else none) = none)
      ∨ ∃ inPlace answer, decodeNamedTo fuel buffers fields.cmd .zeroed = some inPlace
        ∧ (if fields.cmd = ascii "configure_gpio_mode" then some (decodeConfigure fields)
          else if fields.cmd = ascii "pulse_control" then some (decodePulse fields)
          else if fields.cmd = ascii "set_control_state" then some (decodeState fields)
          else if fields.cmd = ascii "uart_send" then some (decodeUartSend fields)
          else none) = some answer
        ∧ Writes inPlace answer CommandOutput.command := by
  unfold decodeNamedTo
  by_cases hconfigure : fields.cmd = ascii "configure_gpio_mode"
  · rw [if_pos hconfigure, if_pos hconfigure]
    exact .inr ⟨_, _, rfl, rfl, decodeConfigureTo_spec h⟩
  rw [if_neg hconfigure, if_neg hconfigure]
  by_cases hpulse : fields.cmd = ascii "pulse_control"
  · rw [if_pos hpulse, if_pos hpulse]
    exact .inr ⟨_, _, rfl, rfl, decodePulseTo_spec h⟩
  rw [if_neg hpulse, if_neg hpulse]
  by_cases hstate : fields.cmd = ascii "set_control_state"
  · rw [if_pos hstate, if_pos hstate]
    exact .inr ⟨_, _, rfl, rfl, decodeStateTo_spec h⟩
  rw [if_neg hstate, if_neg hstate]
  by_cases huart : fields.cmd = ascii "uart_send"
  · rw [if_pos huart, if_pos huart]
    exact .inr ⟨_, _, rfl, rfl, decodeUartSendTo_spec h hfuel⟩
  · rw [if_neg huart, if_neg huart]
    exact .inl ⟨rfl, rfl⟩

/-- In place, a frame is decoded as on lists, and a frame that is refused leaves a zeroed
command. -/
theorem commandDecodeTo_spec (frame : List UInt8) (command : CommandOutput) {fuel : ℕ}
    (hfuel : commandFrameMaxBodyBytes < fuel) :
    (∃ e, commandDecodeTo fuel frame command = .ok (.error e, .zeroed)
        ∧ commandDecode frame = .error e)
      ∨ ∃ output, commandDecodeTo fuel frame command = .ok (.ok (), output)
        ∧ commandDecode frame = .ok output.command := by
  have hpayload : base64MaxBytes < fuel := (by decide : _ < commandFrameMaxBodyBytes).trans hfuel
  unfold commandDecodeTo commandDecode
  dsimp only [CommandOutput.clear]
  split
  · exact .inl ⟨_, rfl, rfl⟩
  rename_i hlength
  rw [not_or, not_lt] at hlength
  rcases parseObjectAt_spec (hlength.2.trans_lt hfuel) with
    ⟨e, hinPlace, hanswer⟩ | ⟨buffers, fields, hinPlace, hanswer, h⟩
  · rw [hinPlace, ok_bind, hanswer]
    exact .inl ⟨e, rfl, rfl⟩
  rw [hinPlace, ok_bind, hanswer]
  dsimp only
  unfold decodeFields
  rw [h.present]
  by_cases hpresent : fields.present &&& FieldId.cmd.bit = 0
  · rw [if_pos hpresent, if_pos (.inl hpresent)]
    exact .inl ⟨_, rfl, rfl⟩
  obtain ⟨first, hload, hfirst⟩ := load_zero h.cmd
  rw [if_neg hpresent, hload, ok_bind]
  by_cases hname : fields.cmd = []
  · rw [if_pos (hfirst.mpr hname), if_pos (.inr hname)]
    exact .inl ⟨_, rfl, rfl⟩
  rw [if_neg (hfirst.not.mpr hname), if_neg (not_or.mpr ⟨hpresent, hname⟩), h.cmd.text, ok_bind]
  dsimp only
  rcases decodeNamedTo_spec h hpayload with
    ⟨hinPlace, hanswer⟩ | ⟨inPlace, answer, hinPlace, hanswer, ok, output, hwritten, hread⟩
  · rw [hinPlace, hanswer]
    exact .inl ⟨_, rfl, rfl⟩
  rw [hinPlace, hanswer, hread]
  dsimp only
  rw [hwritten, ok_bind]
  cases ok with
  | false => exact .inl ⟨_, rfl, rfl⟩
  | true => exact .inr ⟨output, rfl, rfl⟩

/-- Whatever the frame and the command written to, decoding ends within a step for each byte of
the longest frame without an access outside a buffer.  It succeeds with a command exactly when the
frame is short enough and one object whose members denote that command, and leaves a zeroed command
otherwise. -/
theorem commandDecodeTo_sound (frame : List UInt8) (command : CommandOutput) (spare : ℕ) :
    ∃ answer output, commandDecodeTo (commandFrameMaxBodyBytes + 1 + spare) frame command
        = .ok (answer, output)
      ∧ (∀ decoded : Command, answer = .ok () ∧ output.command = decoded
          ↔ frame.length ≤ commandFrameMaxBodyBytes
            ∧ ∃ members, Object PlainInteger frame members ∧ Denotes members decoded)
      ∧ (answer ≠ .ok () → output = .zeroed) := by
  rcases commandDecodeTo_spec frame command
    (show commandFrameMaxBodyBytes < commandFrameMaxBodyBytes + 1 + spare by omega) with
    ⟨e, hinPlace, hanswer⟩ | ⟨output, hinPlace, hanswer⟩
  · refine ⟨.error e, .zeroed, hinPlace, fun decoded => ?_, fun _ => rfl⟩
    rw [← commandDecode_eq_ok, hanswer]
    simp
  · refine ⟨.ok (), output, hinPlace, fun decoded => ?_, fun hne => absurd rfl hne⟩
    rw [← commandDecode_eq_ok, hanswer]
    simp

/-- A pulse whose length is written with an exponent. -/
def exponentFrame : List UInt8 :=
  ascii "\x7b\"cmd\":\"pulse_control\",\"channel\":\"CTRL0\",\"pulse_ms\":1e2\x7d"

theorem exponentFrame_text : Text Number exponentFrame
    [(ascii "cmd", .string (ascii "pulse_control")), (ascii "channel", .string (ascii "CTRL0")),
      (ascii "pulse_ms", .number 100)] := by
  have hnil : Blank [] := List.forall_mem_nil _
  have hone : Whole [0x31] := ⟨⟨by decide, List.forall_mem_singleton.mpr (by decide)⟩, by decide⟩
  have htwo : Digits [0x32] := ⟨by decide, List.forall_mem_singleton.mpr (by decide)⟩
  have hnumber : Number [0x31, 0x65, 0x32] 100 := by
    have hparts := Number.parts .positive hone .absent (.positive (.inl rfl) (.inl rfl) htwo)
    have hmantissa : digitsValue [0x31] = 1 := rfl
    have hexponent : digitsValue [0x32] = 2 := rfl
    have hvalue : (1 : ℚ) * (digitsValue [0x31] + 0) * 10 ^ (digitsValue [0x32] : ℤ) = 100 := by
      rw [hmantissa, hexponent]
      norm_num
    rwa [hvalue] at hparts
  have hcmd : Member Number _ (ascii "cmd", .string (ascii "pulse_control")) :=
    .compact (.plain (by decide)) (.string (.plain (by decide)))
  have hchannel : Member Number _ (ascii "channel", .string (ascii "CTRL0")) :=
    .compact (.plain (by decide)) (.string (.plain (by decide)))
  have hpulse : Member Number _ (ascii "pulse_ms", .number 100) :=
    .compact (.plain (by decide)) (.number hnumber)
  exact .parts hnil (.members (.next hcmd (.next hchannel (.last hpulse)))) hnil

/-- Not every number of JSON is taken: a length with an exponent denotes a pulse but is refused. -/
theorem commandDecodeTo_not_everyNumber :
    ¬∀ (frame : List UInt8) (command : CommandOutput) (spare : ℕ), ∃ answer output,
      commandDecodeTo (commandFrameMaxBodyBytes + 1 + spare) frame command = .ok (answer, output)
      ∧ (∀ decoded : Command, answer = .ok () ∧ output.command = decoded
          ↔ frame.length ≤ commandFrameMaxBodyBytes
            ∧ ∃ members, Text Number frame members ∧ Denotes members decoded)
      ∧ (answer ≠ .ok () → output = .zeroed) := by
  intro h
  obtain ⟨answer, output, hdecoded, hiff, -⟩ := h exponentFrame .zeroed 0
  obtain ⟨rfl, hcommand⟩ := (hiff (.pulseControl 0 100)).mpr
    ⟨by decide, _, exponentFrame_text, .pulseControl (by decide) (by decide) (by decide) (.refl _)⟩
  have hrefused : commandDecode exponentFrame = .error .invalidCommand := by decide +kernel
  rcases commandDecodeTo_spec exponentFrame .zeroed (Nat.lt_succ_self _) with
    ⟨_, hinPlace, _⟩ | ⟨_, _, haccepted⟩
  · cases hdecoded.symm.trans hinPlace
  · cases hrefused.symm.trans haccepted
