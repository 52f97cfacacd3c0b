/-
# Text and its UTF-8 bytes

The encoder gives one well-formed sequence for each character, and both decoders read it back.
A sequence never begins with a continuation byte, so the decoder that replaces is at the beginning
of a sequence wherever such a byte does not stand.  Cut at any byte, an encoded text decodes to the
characters that fit in front of the cut.
-/
import DutchMate.Utf8

namespace Utf8

/-! ## Sequences -/

/-- The well-formed sequence of bytes of a character. -/
inductive Sequence : List UInt8 → Char → Prop
  | one {b0 : UInt8} (h0 : continuationCount b0 = some 0) : Sequence [b0] (Char.ofNat b0.toNat)
  | two {b0 b1 : UInt8} (h0 : continuationCount b0 = some 1) (h1 : secondInRange b0 b1 = true) :
      Sequence [b0, b1] (scalar2 b0 b1)
  | three {b0 b1 b2 : UInt8} (h0 : continuationCount b0 = some 2)
      (h1 : secondInRange b0 b1 = true) (h2 : isContinuation b2 = true) :
      Sequence [b0, b1, b2] (scalar3 b0 b1 b2)
  | four {b0 b1 b2 b3 : UInt8} (h0 : continuationCount b0 = some 3)
      (h1 : secondInRange b0 b1 = true) (h2 : isContinuation b2 = true)
      (h3 : isContinuation b3 = true) : Sequence [b0, b1, b2, b3] (scalar4 b0 b1 b2 b3)

theorem decode_sequence {bytes : List UInt8} {c : Char} (h : Sequence bytes c)
    (rest : List UInt8) : decode (bytes ++ rest) = (decode rest).map (c :: ·) := by
  cases h with
  | one h0 => simp [decode, h0]
  | two h0 h1 => simp [decode, h0, h1]
  | three h0 h1 h2 => simp [decode, h0, h1, h2]
  | four h0 h1 h2 h3 => simp [decode, h0, h1, h2, h3]

theorem decodeReplace_sequence {bytes : List UInt8} {c : Char} (h : Sequence bytes c)
    (rest : List UInt8) : decodeReplace (bytes ++ rest) = c :: decodeReplace rest := by
  cases h with
  | one h0 => simp [decodeReplace, h0]
  | two h0 h1 => simp [decodeReplace, h0, h1]
  | three h0 h1 h2 => simp [decodeReplace, h0, h1, h2]
  | four h0 h1 h2 h3 => simp [decodeReplace, h0, h1, h2, h3]

theorem isContinuation_of_continuationCount {b : UInt8} {n : ℕ}
    (h : continuationCount b = some n) : isContinuation b = false := by
  cases hb : isContinuation b with
  | false => rfl
  | true =>
    simp only [isContinuation, Bool.and_eq_true, decide_eq_true_eq, UInt8.le_iff_toNat_le,
      UInt8.reduceToNat] at hb
    simp only [continuationCount, UInt8.lt_iff_toNat_lt, UInt8.le_iff_toNat_le, Bool.and_eq_true,
      decide_eq_true_eq, UInt8.reduceToNat] at h
    rw [if_neg (by omega), if_neg (by omega), if_neg (by omega), if_neg (by omega)] at h
    cases h

theorem secondInRange_continuation {lead b : UInt8} (h : secondInRange lead b = true) :
    isContinuation b = true := by
  simp only [isContinuation, Bool.and_eq_true, decide_eq_true_eq, UInt8.le_iff_toNat_le,
    UInt8.reduceToNat]
  unfold secondInRange at h
  split at h
  · simp only [Bool.and_eq_true, decide_eq_true_eq, UInt8.le_iff_toNat_le,
      UInt8.reduceToNat] at h
    omega
  split at h
  · simp only [Bool.and_eq_true, decide_eq_true_eq, UInt8.le_iff_toNat_le,
      UInt8.reduceToNat] at h
    omega
  split at h
  · simp only [Bool.and_eq_true, decide_eq_true_eq, UInt8.le_iff_toNat_le,
      UInt8.reduceToNat] at h
    omega
  split at h
  · simp only [Bool.and_eq_true, decide_eq_true_eq, UInt8.le_iff_toNat_le,
      UInt8.reduceToNat] at h
    omega
  · simpa only [isContinuation, Bool.and_eq_true, decide_eq_true_eq, UInt8.le_iff_toNat_le,
      UInt8.reduceToNat] using h

/-- A sequence begins with a byte that continues none. -/
theorem Sequence.exists_head {bytes : List UInt8} {c : Char} (h : Sequence bytes c) :
    ∃ b0 rest, bytes = b0 :: rest ∧ isContinuation b0 = false := by
  cases h with
  | one h0 => exact ⟨_, _, rfl, isContinuation_of_continuationCount h0⟩
  | two h0 _ => exact ⟨_, _, rfl, isContinuation_of_continuationCount h0⟩
  | three h0 _ _ => exact ⟨_, _, rfl, isContinuation_of_continuationCount h0⟩
  | four h0 _ _ _ => exact ⟨_, _, rfl, isContinuation_of_continuationCount h0⟩

/-- A sequence that is cut off is refused. -/
theorem Sequence.decode_take {bytes : List UInt8} {c : Char} (h : Sequence bytes c) {n : ℕ}
    (hpos : 0 < n) (hlt : n < bytes.length) : decode (bytes.take n) = none := by
  cases h with
  | one h0 =>
    rw [List.length_singleton] at hlt
    omega
  | two h0 h1 =>
    obtain rfl : n = 1 := by
      simp only [List.length_cons, List.length_nil] at hlt
      omega
    simp [decode, h0]
  | three h0 h1 h2 =>
    obtain rfl | rfl : n = 1 ∨ n = 2 := by
      simp only [List.length_cons, List.length_nil] at hlt
      omega
    · simp [decode, h0]
    · simp [decode, h0, h1]
  | four h0 h1 h2 h3 =>
    obtain rfl | rfl | rfl : n = 1 ∨ n = 2 ∨ n = 3 := by
      simp only [List.length_cons, List.length_nil] at hlt
      omega
    · simp [decode, h0]
    · simp [decode, h0, h1]
    · simp [decode, h0, h1, h2]

theorem toNat_valid (c : Char) : c.toNat < 0xD800 ∨ (0xDFFF < c.toNat ∧ c.toNat < 0x110000) :=
  c.valid

theorem ofNat_eq {c : Char} {n : ℕ} (h : n = c.toNat) : Char.ofNat n = c := by
  rw [h, Char.ofNat_toNat]

theorem continuationCount_ofNat {n : ℕ} (h : n < 256) :
    continuationCount (UInt8.ofNat n)
      = if n < 0x80 then some 0
        else if 0xC2 ≤ n ∧ n ≤ 0xDF then some 1
        else if 0xE0 ≤ n ∧ n ≤ 0xEF then some 2
        else if 0xF0 ≤ n ∧ n ≤ 0xF4 then some 3
        else none := by
  have hn : (UInt8.ofNat n).toNat = n := UInt8.toNat_ofNat_of_lt' h
  simp only [continuationCount, UInt8.lt_iff_toNat_lt, UInt8.le_iff_toNat_le, Bool.and_eq_true,
    decide_eq_true_eq, UInt8.reduceToNat, hn]

theorem isContinuation_ofNat (n : ℕ) : isContinuation (UInt8.ofNat (n % 64 + 128)) = true := by
  have hn : (UInt8.ofNat (n % 64 + 128)).toNat = n % 64 + 128 :=
    UInt8.toNat_ofNat_of_lt' (by rw [UInt8.size]; omega)
  simp only [isContinuation, Bool.and_eq_true, decide_eq_true_eq, UInt8.le_iff_toNat_le,
    UInt8.reduceToNat, hn]
  omega

/-- The second byte is in range when the sequence is not overlong, no surrogate and no code point
too great. -/
theorem secondInRange_ofNat {lead n : ℕ} (hlead : lead < 256) (he0 : lead = 0xE0 → 32 ≤ n % 64)
    (hed : lead = 0xED → n % 64 < 32) (hf0 : lead = 0xF0 → 16 ≤ n % 64)
    (hf4 : lead = 0xF4 → n % 64 < 16) :
    secondInRange (UInt8.ofNat lead) (UInt8.ofNat (n % 64 + 128)) = true := by
  have hl : (UInt8.ofNat lead).toNat = lead := UInt8.toNat_ofNat_of_lt' hlead
  have hn : (UInt8.ofNat (n % 64 + 128)).toNat = n % 64 + 128 :=
    UInt8.toNat_ofNat_of_lt' (by rw [UInt8.size]; omega)
  have hcontinuation := isContinuation_ofNat n
  simp only [secondInRange, ← UInt8.toNat_inj, UInt8.reduceToNat, hl]
  split
  · simp only [Bool.and_eq_true, decide_eq_true_eq, UInt8.le_iff_toNat_le, UInt8.reduceToNat, hn]
    omega
  split
  · simp only [Bool.and_eq_true, decide_eq_true_eq, UInt8.le_iff_toNat_le, UInt8.reduceToNat, hn]
    omega
  split
  · simp only [Bool.and_eq_true, decide_eq_true_eq, UInt8.le_iff_toNat_le, UInt8.reduceToNat, hn]
    omega
  split
  · simp only [Bool.and_eq_true, decide_eq_true_eq, UInt8.le_iff_toNat_le, UInt8.reduceToNat, hn]
    omega
  · exact hcontinuation

/-- The encoder writes the sequence of the character. -/
theorem sequence_utf8EncodeChar (c : Char) : Sequence (String.utf8EncodeChar c) c := by
  have hvalid := toNat_valid c
  have hval : c.val.toNat = c.toNat := rfl
  unfold String.utf8EncodeChar
  dsimp only
  rw [hval]
  generalize hv : c.toNat = v at hvalid
  have htoNat (n : ℕ) (h : n < 256) : (UInt8.ofNat n).toNat = n := UInt8.toNat_ofNat_of_lt' h
  split
  · have hc : Char.ofNat (UInt8.ofNat v).toNat = c := ofNat_eq (by rw [htoNat _ (by omega), hv])
    rw [← hc]
    refine .one ?_
    rw [continuationCount_ofNat (by omega), if_pos (by omega)]
  split
  · have hc : scalar2 (UInt8.ofNat (v / 64 % 32 + 192)) (UInt8.ofNat (v % 64 + 128)) = c := by
      refine ofNat_eq ?_
      rw [htoNat _ (by omega), htoNat _ (by omega), hv]
      omega
    rw [← hc]
    refine .two ?_ (secondInRange_ofNat (by omega) (by omega) (by omega) (by omega) (by omega))
    rw [continuationCount_ofNat (by omega), if_neg (by omega), if_pos (by omega)]
  split
  · have hc : scalar3 (UInt8.ofNat (v / 4096 % 16 + 224)) (UInt8.ofNat (v / 64 % 64 + 128))
        (UInt8.ofNat (v % 64 + 128)) = c := by
      refine ofNat_eq ?_
      rw [htoNat _ (by omega), htoNat _ (by omega), htoNat _ (by omega), hv]
      omega
    rw [← hc]
    refine .three ?_ (secondInRange_ofNat (by omega) (by omega) (by omega) (by omega) (by omega))
      (isContinuation_ofNat v)
    rw [continuationCount_ofNat (by omega), if_neg (by omega), if_neg (by omega),
      if_pos (by omega)]
  · have hc : scalar4 (UInt8.ofNat (v / 262144 % 8 + 240)) (UInt8.ofNat (v / 4096 % 64 + 128))
        (UInt8.ofNat (v / 64 % 64 + 128)) (UInt8.ofNat (v % 64 + 128)) = c := by
      refine ofNat_eq ?_
      rw [htoNat _ (by omega), htoNat _ (by omega), htoNat _ (by omega), htoNat _ (by omega), hv]
      omega
    rw [← hc]
    refine .four ?_ (secondInRange_ofNat (by omega) (by omega) (by omega) (by omega) (by omega))
      (isContinuation_ofNat _) (isContinuation_ofNat v)
    rw [continuationCount_ofNat (by omega), if_neg (by omega), if_neg (by omega),
      if_neg (by omega), if_pos (by omega)]

/-! ## Texts -/

/-- The bytes of some characters. -/
def encodeChars (cs : List Char) : List UInt8 := cs.flatMap String.utf8EncodeChar

theorem decode_encodeChars (cs : List Char) (rest : List UInt8) :
    decode (encodeChars cs ++ rest) = (decode rest).map (cs ++ ·) := by
  induction cs with
  | nil => exact (congrFun Option.map_id (decode rest)).symm
  | cons c cs ih =>
    rw [encodeChars, List.flatMap_cons, List.append_assoc,
      decode_sequence (sequence_utf8EncodeChar c), ← encodeChars, ih, Option.map_map]
    rfl

theorem decodeReplace_encodeChars (cs : List Char) (rest : List UInt8) :
    decodeReplace (encodeChars cs ++ rest) = cs ++ decodeReplace rest := by
  induction cs with
  | nil => rfl
  | cons c cs ih =>
    rw [encodeChars, List.flatMap_cons, List.append_assoc,
      decodeReplace_sequence (sequence_utf8EncodeChar c), ← encodeChars, ih]
    rfl

theorem encodeChars_append (cs ds : List Char) :
    encodeChars (cs ++ ds) = encodeChars cs ++ encodeChars ds := List.flatMap_append

theorem decode_encodeChars_self (cs : List Char) : decode (encodeChars cs) = some cs := by
  have h := decode_encodeChars cs []
  rw [List.append_nil] at h
  rw [h]
  exact congrArg some (List.append_nil cs)

theorem encodeChars_injective {cs ds : List Char} (h : encodeChars cs = encodeChars ds) :
    cs = ds := by
  have hdecode := decode_encodeChars_self cs
  rw [h, decode_encodeChars_self] at hdecode
  exact (Option.some.inj hdecode).symm

theorem encodeChars_ne_nil {cs : List Char} (h : cs ≠ []) : encodeChars cs ≠ [] := by
  rintro hnil
  exact h (encodeChars_injective (hnil.trans (rfl : [] = encodeChars [])))

theorem exists_head_encodeChars {cs : List Char} (h : cs ≠ []) :
    ∃ b0 rest, encodeChars cs = b0 :: rest ∧ isContinuation b0 = false := by
  obtain ⟨c, ds, rfl⟩ := List.exists_cons_of_ne_nil h
  obtain ⟨b0, rest, hbytes, hb0⟩ := (sequence_utf8EncodeChar c).exists_head
  refine ⟨b0, rest ++ encodeChars ds, ?_, hb0⟩
  rw [encodeChars, List.flatMap_cons, hbytes]
  rfl

/-! ## The decoder that replaces -/

/-- Whatever stands in front, decoding begins anew at a byte that continues nothing. -/
theorem decodeReplace_append {b0 : UInt8} (hb0 : isContinuation b0 = false)
    (front rest : List UInt8) :
    decodeReplace (front ++ b0 :: rest) = decodeReplace front ++ decodeReplace (b0 :: rest) := by
  have hsecond (lead : UInt8) : secondInRange lead b0 = false := by
    cases h : secondInRange lead b0 with
    | false => rfl
    | true => rw [secondInRange_continuation h] at hb0; cases hb0
  fun_induction decodeReplace front with
  | case1 => rfl
  | case2 lead front hcount ih =>
    rw [List.cons_append, decodeReplace.eq_def]
    simp [hcount, ih]
  | case3 lead front hcount ih =>
    rw [List.cons_append, decodeReplace.eq_def]
    simp [hcount, ih]
  | case4 lead need hneed hcount =>
    rw [List.cons_append, decodeReplace.eq_def]
    simp [hcount, hsecond]
  | case5 lead need hneed hcount b1 front hrange ih =>
    rw [List.cons_append] at ih
    rw [List.cons_append, List.cons_append, decodeReplace.eq_def]
    simp [hcount, hrange, ih]
  | case6 lead b1 front hrange hneed hcount ih =>
    rw [List.cons_append, List.cons_append, decodeReplace.eq_def]
    simp [hcount, hrange, ih]
  | case7 lead need hneed hcount b1 hrange hone =>
    rw [List.cons_append, List.cons_append, decodeReplace.eq_def]
    simp [hcount, hrange, hone, hb0]
  | case8 lead need hneed hcount b1 hrange hone b2 front hb2 ih =>
    rw [List.cons_append] at ih
    rw [List.cons_append, List.cons_append, List.cons_append, decodeReplace.eq_def]
    simp [hcount, hrange, hone, hb2, ih]
  | case9 lead b1 hrange b2 front hb2 hneed hcount hone ih =>
    rw [List.cons_append, List.cons_append, List.cons_append, decodeReplace.eq_def]
    simp [hcount, hrange, hb2, ih]
  | case10 lead need hneed hcount b1 hrange hone b2 hb2 htwo =>
    rw [List.cons_append, List.cons_append, List.cons_append, decodeReplace.eq_def]
    simp [hcount, hrange, hone, hb2, htwo, hb0]
  | case11 lead need hneed hcount b1 hrange hone b2 hb2 htwo b3 front hb3 ih =>
    rw [List.cons_append] at ih
    rw [List.cons_append, List.cons_append, List.cons_append, List.cons_append,
      decodeReplace.eq_def]
    simp [hcount, hrange, hone, hb2, htwo, hb3, ih]
  | case12 lead need hneed hcount b1 hrange hone b2 hb2 htwo b3 front hb3 ih =>
    rw [List.cons_append, List.cons_append, List.cons_append, List.cons_append,
      decodeReplace.eq_def]
    simp [hcount, hrange, hone, hb2, htwo, hb3, ih]

/-- A text that occurs in some bytes occurs in what they decode to. -/
theorem infix_decodeReplace {cs : List Char} {bytes : List UInt8}
    (h : encodeChars cs <:+: bytes) : cs <:+: decodeReplace bytes := by
  obtain ⟨front, rest, rfl⟩ := h
  by_cases hnil : cs = []
  · rw [hnil]
    exact List.nil_infix
  obtain ⟨b0, tail, hbytes, hb0⟩ := exists_head_encodeChars hnil
  refine ⟨decodeReplace front, decodeReplace rest, ?_⟩
  rw [List.append_assoc, List.append_assoc, hbytes, List.cons_append, decodeReplace_append hb0,
    ← List.cons_append, ← hbytes, decodeReplace_encodeChars]

/-! ## Texts that are cut -/

/-- The characters that fit in a number of bytes, from the first on. -/
def fitting : ℕ → List Char → List Char
  | _, [] => []
  | room, c :: cs => if c.utf8Size ≤ room then c :: fitting (room - c.utf8Size) cs else []

theorem length_encodeChars_cons (c : Char) (cs : List Char) :
    (encodeChars (c :: cs)).length = c.utf8Size + (encodeChars cs).length := by
  rw [encodeChars, List.flatMap_cons, List.length_append, String.length_utf8EncodeChar]
  rfl

theorem fitting_initial (room : ℕ) (cs : List Char) : fitting room cs <+: cs := by
  induction cs generalizing room with
  | nil => exact List.prefix_rfl
  | cons c cs ih =>
    rw [fitting]
    split
    · exact (List.prefix_cons_inj c).mpr (ih _)
    · exact List.nil_prefix

theorem length_fitting_le (room : ℕ) (cs : List Char) :
    (encodeChars (fitting room cs)).length ≤ room := by
  induction cs generalizing room with
  | nil => exact Nat.zero_le room
  | cons c cs ih =>
    rw [fitting]
    split
    · have hrest := ih (room - c.utf8Size)
      rw [length_encodeChars_cons]
      omega
    · exact Nat.zero_le room

/-- No longer beginning of the text fits. -/
theorem le_length_fitting {room : ℕ} {cs ds : List Char} (hinitial : ds <+: cs)
    (hfits : (encodeChars ds).length ≤ room) : ds.length ≤ (fitting room cs).length := by
  induction cs generalizing room ds with
  | nil =>
    rw [List.prefix_nil.mp hinitial]
    exact Nat.zero_le _
  | cons c cs ih =>
    cases ds with
    | nil => exact Nat.zero_le _
    | cons d ds =>
      obtain ⟨rfl, htail⟩ := List.cons_prefix_cons.mp hinitial
      rw [length_encodeChars_cons] at hfits
      rw [fitting, if_pos (by omega), List.length_cons, List.length_cons]
      exact Nat.succ_le_succ (ih htail (by omega))

theorem fitting_of_le {room : ℕ} {cs : List Char} (h : (encodeChars cs).length ≤ room) :
    fitting room cs = cs :=
  (fitting_initial room cs).eq_of_length_le (le_length_fitting List.prefix_rfl h)

/-- Drop bytes from the end until the rest is well formed. -/
def decodeLongest (bytes : List UInt8) : List Char :=
  match h : decode bytes with
  | some cs => cs
  | none => decodeLongest bytes.dropLast
termination_by bytes.length
decreasing_by
  rw [List.length_dropLast]
  have : bytes ≠ [] := by
    rintro rfl
    cases h
  have := List.length_pos_iff.mpr this
  omega

theorem decodeLongest_of_some {bytes : List UInt8} {cs : List Char} (h : decode bytes = some cs) :
    decodeLongest bytes = cs := by
  rw [decodeLongest]
  split
  · next found hfound => exact Option.some.inj (hfound.symm.trans h)
  · next hnone => rw [h] at hnone; cases hnone

theorem decodeLongest_of_none {bytes : List UInt8} (h : decode bytes = none) :
    decodeLongest bytes = decodeLongest bytes.dropLast := by
  rw [decodeLongest]
  split
  · next found hfound => rw [h] at hfound; cases hfound
  · rfl

/-- Behind the characters that fit there is the beginning of one sequence at most. -/
theorem exists_take_encodeChars (cs : List Char) (room : ℕ) :
    ∃ c k, k < (String.utf8EncodeChar c).length ∧ (encodeChars cs).take room
      = encodeChars (fitting room cs) ++ (String.utf8EncodeChar c).take k := by
  induction cs generalizing room with
  | nil => exact ⟨'a', 0, by decide, List.take_nil⟩
  | cons c cs ih =>
    rw [fitting]
    by_cases hfits : c.utf8Size ≤ room
    · obtain ⟨d, k, hk, htake⟩ := ih (room - c.utf8Size)
      refine ⟨d, k, hk, ?_⟩
      rw [if_pos hfits, encodeChars, encodeChars, List.flatMap_cons, List.flatMap_cons,
        List.take_append, List.take_of_length_le (by rwa [String.length_utf8EncodeChar]),
        String.length_utf8EncodeChar, List.append_assoc]
      exact congrArg _ htake
    · rw [← String.length_utf8EncodeChar] at hfits
      refine ⟨c, room, by omega, ?_⟩
      rw [String.length_utf8EncodeChar] at hfits
      rw [if_neg hfits, encodeChars, List.flatMap_cons,
        List.take_append_of_le_length (by rw [String.length_utf8EncodeChar]; omega)]
      rfl

theorem decodeLongest_partial (cs : List Char) (c : Char) {k : ℕ}
    (hk : k < (String.utf8EncodeChar c).length) :
    decodeLongest (encodeChars cs ++ (String.utf8EncodeChar c).take k) = cs := by
  induction k with
  | zero =>
    rw [List.take_zero, List.append_nil]
    exact decodeLongest_of_some (decode_encodeChars_self cs)
  | succ k ih =>
    have hrefused : decode ((String.utf8EncodeChar c).take (k + 1)) = none :=
      (sequence_utf8EncodeChar c).decode_take (Nat.succ_pos k) hk
    have hne : (String.utf8EncodeChar c).take (k + 1) ≠ [] := by
      intro hnil
      rw [hnil] at hrefused
      cases hrefused
    rw [decodeLongest_of_none (by rw [decode_encodeChars, hrefused]; rfl),
      List.dropLast_append_of_ne_nil hne, List.dropLast_take hk]
    exact ih (by omega)

/-- A text cut at a byte decodes to the characters that fit. -/
theorem decodeLongest_take (cs : List Char) (room : ℕ) :
    decodeLongest ((encodeChars cs).take room) = fitting room cs := by
  obtain ⟨c, k, hk, htake⟩ := exists_take_encodeChars cs room
  rw [htake, decodeLongest_partial _ c hk]

end Utf8
