/-
# Base64

The standard alphabet with padding.  `decode` accepts exactly the padded groups of four,
and `decode_encode` is the round trip.
-/
import Mathlib.Data.List.Basic
import Mathlib.Tactic.Common

namespace Base64

/-- The alphabet, by value. -/
def alphabet : List Char :=
  "ABCDEFGHIJKLMNOPQRSTUVWXYZabcdefghijklmnopqrstuvwxyz0123456789+/".toList

/-- The letter of a six-bit value. -/
def letter (n : ℕ) : Char := alphabet.getD n '='

/-- The value of a letter. -/
def value (c : Char) : Option ℕ := alphabet.findIdx? (· == c)

theorem value_letter {n : ℕ} (h : n < 64) : value (letter n) = some n := by
  have hall : ∀ n : Fin 64, value (letter n) = some n.val := by decide +kernel
  exact hall ⟨n, h⟩

theorem letter_ne_pad {n : ℕ} (h : n < 64) : letter n ≠ '=' := by
  have hall : ∀ n : Fin 64, letter n ≠ '=' := by decide +kernel
  exact hall ⟨n, h⟩

/-- The text of a byte string. -/
def encode : List UInt8 → List Char
  | [] => []
  | [a] => [letter (a.toNat / 4), letter (a.toNat % 4 * 16), '=', '=']
  | [a, b] =>
    [letter (a.toNat / 4), letter (a.toNat % 4 * 16 + b.toNat / 16), letter (b.toNat % 16 * 4),
      '=']
  | a :: b :: c :: rest =>
    letter (a.toNat / 4) :: letter (a.toNat % 4 * 16 + b.toNat / 16) ::
      letter (b.toNat % 16 * 4 + c.toNat / 64) :: letter (c.toNat % 64) :: encode rest

/-- The byte string of a text, if the text is padded base64. -/
def decode : List Char → Option (List UInt8)
  | [] => some []
  | w :: x :: y :: z :: rest => do
    let n₁ ← value w
    let n₂ ← value x
    let a := (n₁ * 4 + n₂ / 16).toUInt8
    if y = '=' then
      if z = '=' ∧ rest = [] then some [a] else none
    else do
      let n₃ ← value y
      let b := (n₂ % 16 * 16 + n₃ / 4).toUInt8
      if z = '=' then
        if rest = [] then some [a, b] else none
      else do
        let n₄ ← value z
        let c := (n₃ % 4 * 64 + n₄).toUInt8
        let tail ← decode rest
        some (a :: b :: c :: tail)
  | _ => none

theorem toUInt8_of_eq {n : ℕ} {a : UInt8} (h : n = a.toNat) : n.toUInt8 = a := by
  subst h
  exact UInt8.ofNat_toNat

/-- Decoding the text of a byte string gives the byte string back. -/
theorem decode_encode (data : List UInt8) : decode (encode data) = some data := by
  induction data using encode.induct with
  | case1 => rfl
  | case2 a =>
    have ha := a.toNat_lt
    rw [encode, decode, value_letter (by omega), value_letter (by omega)]
    simp only [Option.bind_eq_bind, Option.bind_some, if_true, and_self]
    rw [toUInt8_of_eq (show _ = a.toNat by omega)]
  | case3 a b =>
    have ha := a.toNat_lt
    have hb := b.toNat_lt
    rw [encode, decode, value_letter (by omega), value_letter (by omega),
      value_letter (by omega)]
    simp only [Option.bind_eq_bind, Option.bind_some, if_true,
      if_neg (letter_ne_pad (show b.toNat % 16 * 4 < 64 by omega))]
    rw [toUInt8_of_eq (show _ = a.toNat by omega), toUInt8_of_eq (show _ = b.toNat by omega)]
  | case4 a b c rest ih =>
    have ha := a.toNat_lt
    have hb := b.toNat_lt
    have hc := c.toNat_lt
    rw [encode, decode, value_letter (by omega), value_letter (by omega),
      value_letter (by omega), value_letter (by omega), ih]
    simp only [Option.bind_eq_bind, Option.bind_some,
      if_neg (letter_ne_pad (show b.toNat % 16 * 4 + c.toNat / 64 < 64 by omega)),
      if_neg (letter_ne_pad (show c.toNat % 64 < 64 by omega))]
    rw [toUInt8_of_eq (show _ = a.toNat by omega), toUInt8_of_eq (show _ = b.toNat by omega),
      toUInt8_of_eq (show _ = c.toNat by omega)]

/-- Four letters for every three bytes begun. -/
theorem length_encode (data : List UInt8) : (encode data).length = (data.length + 2) / 3 * 4 := by
  induction data using encode.induct with
  | case1 => rfl
  | case2 a => simp [encode]
  | case3 a b => simp [encode]
  | case4 a b c rest ih =>
    simp only [encode, List.length_cons, ih]
    omega

/-- A text that is decoded has four letters for every three bytes begun. -/
theorem length_of_decode {text : List Char} {data : List UInt8} (h : decode text = some data) :
    text.length = (data.length + 2) / 3 * 4 := by
  match text with
  | [] =>
    cases h
    rfl
  | [_] | [_, _] | [_, _, _] => cases h
  | w :: x :: y :: z :: rest =>
    simp only [decode, Option.bind_eq_bind] at h
    obtain ⟨n₁, -, h⟩ := Option.bind_eq_some_iff.mp h
    obtain ⟨n₂, -, h⟩ := Option.bind_eq_some_iff.mp h
    split at h
    · split at h
      · rename_i hend
        cases h
        simp [hend.2]
      · cases h
    obtain ⟨n₃, -, h⟩ := Option.bind_eq_some_iff.mp h
    split at h
    · split at h
      · rename_i hend
        cases h
        simp [hend]
      · cases h
    obtain ⟨n₄, -, h⟩ := Option.bind_eq_some_iff.mp h
    obtain ⟨tail, htail, h⟩ := Option.bind_eq_some_iff.mp h
    cases h
    have hrest := length_of_decode htail
    simp only [List.length_cons]
    omega
termination_by text.length

/-- The text is letters, one for every six bits begun, and padding to a multiple of four. -/
theorem encode_split (data : List UInt8) : ∃ body : List Char,
    encode data = body ++ List.replicate ((4 - body.length % 4) % 4) '=' ∧
      body.length = (data.length * 4 + 2) / 3 ∧ ∀ c ∈ body, ∃ n < 64, c = letter n := by
  induction data using encode.induct with
  | case1 => exact ⟨[], rfl, rfl, by simp⟩
  | case2 a =>
    have ha := a.toNat_lt
    refine ⟨[_, _], rfl, by simp, List.forall_mem_cons.mpr ⟨⟨_, by omega, rfl⟩,
      List.forall_mem_singleton.mpr ⟨_, by omega, rfl⟩⟩⟩
  | case3 a b =>
    have ha := a.toNat_lt
    have hb := b.toNat_lt
    refine ⟨[_, _, _], rfl, by simp, List.forall_mem_cons.mpr ⟨⟨_, by omega, rfl⟩,
      List.forall_mem_cons.mpr ⟨⟨_, by omega, rfl⟩,
        List.forall_mem_singleton.mpr ⟨_, by omega, rfl⟩⟩⟩⟩
  | case4 a b c rest ih =>
    have ha := a.toNat_lt
    have hb := b.toNat_lt
    have hc := c.toNat_lt
    obtain ⟨body, hencode, hlength, hletters⟩ := ih
    refine ⟨letter (a.toNat / 4) :: letter (a.toNat % 4 * 16 + b.toNat / 16) ::
      letter (b.toNat % 16 * 4 + c.toNat / 64) :: letter (c.toNat % 64) :: body, ?_, ?_, ?_⟩
    · rw [encode, hencode]
      simp only [List.length_cons, List.cons_append]
      congr 6
      omega
    · simp only [List.length_cons]
      omega
    · simp only [List.forall_mem_cons]
      exact ⟨⟨_, by omega, rfl⟩, ⟨_, by omega, rfl⟩, ⟨_, by omega, rfl⟩, ⟨_, by omega, rfl⟩, hletters⟩

end Base64
