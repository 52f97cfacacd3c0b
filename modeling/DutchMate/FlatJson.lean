/-
# Flat JSON objects over bytes

The texts of objects whose values are ASCII strings and numbers, with space and tab as the only
blanks.  The numbers are a parameter: `Number` are those of JSON, `PlainInteger` the unsigned
integers written in digits alone.
-/
import Mathlib.Data.List.Basic
import Mathlib.Data.Rat.Defs
import Mathlib.Algebra.Order.Field.Rat
import Mathlib.Tactic.Common

namespace FlatJson

/-- Blanks between tokens. -/
def Blank (text : List UInt8) : Prop := ∀ byte ∈ text, byte = 0x20 ∨ byte = 0x09

/-! ## Strings -/

/-- The letters of the short escapes and the bytes they stand for. -/
def escapes : List (UInt8 × UInt8) :=
  [(0x22, 0x22), (0x5C, 0x5C), (0x2F, 0x2F), (0x62, 0x08), (0x66, 0x0C), (0x6E, 0x0A), (0x72, 0x0D),
    (0x74, 0x09)]

/-- The hexadecimal digits and their values, in both cases. -/
def hexDigits : List (UInt8 × ℕ) :=
  (List.range 10).map (fun n => ((0x30 + n).toUInt8, n))
    ++ (List.range 6).map (fun n => ((0x61 + n).toUInt8, 10 + n))
    ++ (List.range 6).map fun n => ((0x41 + n).toUInt8, 10 + n)

/-- The text of a string behind its opening quote, and the bytes it denotes; they are ASCII and
none of them is zero. -/
inductive StringBody : List UInt8 → List UInt8 → Prop
  | close : StringBody [0x22] []
  | plain {byte : UInt8} {text value : List UInt8} (hlow : 0x20 ≤ byte) (hhigh : byte < 0x80)
      (hquote : byte ≠ 0x22) (hescape : byte ≠ 0x5C) (hrest : StringBody text value) :
      StringBody (byte :: text) (byte :: value)
  | escape {letter byte : UInt8} {text value : List UInt8} (hletter : (letter, byte) ∈ escapes)
      (hrest : StringBody text value) : StringBody (0x5C :: letter :: text) (byte :: value)
  | unicode {a b c d : UInt8} {i j k l : ℕ} {text value : List UInt8} (ha : (a, i) ∈ hexDigits)
      (hb : (b, j) ∈ hexDigits) (hc : (c, k) ∈ hexDigits) (hd : (d, l) ∈ hexDigits)
      (hpos : 0 < ((i * 16 + j) * 16 + k) * 16 + l)
      (hascii : ((i * 16 + j) * 16 + k) * 16 + l < 0x80) (hrest : StringBody text value) :
      StringBody (0x5C :: 0x75 :: a :: b :: c :: d :: text)
        ((((i * 16 + j) * 16 + k) * 16 + l).toUInt8 :: value)

/-- A string with its quotes. -/
inductive StringText : List UInt8 → List UInt8 → Prop
  | quoted {text value : List UInt8} (hbody : StringBody text value) :
      StringText (0x22 :: text) value

/-! ## Numbers -/

/-- One digit or more. -/
def Digits (text : List UInt8) : Prop := text ≠ [] ∧ ∀ byte ∈ text, 0x30 ≤ byte ∧ byte ≤ 0x39

def digitsValue (text : List UInt8) : ℕ :=
  text.foldl (fun value byte => value * 10 + (byte.toNat - 0x30)) 0

/-- Digits without leading zeros. -/
def Whole (text : List UInt8) : Prop := Digits text ∧ (text.head? = some 0x30 → text = [0x30])

/-- An unsigned integer in digits alone. -/
def PlainInteger (text : List UInt8) (value : ℕ) : Prop := Whole text ∧ value = digitsValue text

inductive Sign : List UInt8 → ℚ → Prop
  | positive : Sign [] 1
  | negative : Sign [0x2D] (-1)

inductive Fraction : List UInt8 → ℚ → Prop
  | absent : Fraction [] 0
  | point {digits : List UInt8} (hdigits : Digits digits) :
      Fraction (0x2E :: digits) (digitsValue digits / 10 ^ digits.length)

inductive Exponent : List UInt8 → ℤ → Prop
  | absent : Exponent [] 0
  | positive {letter : UInt8} {sign digits : List UInt8} (hletter : letter = 0x65 ∨ letter = 0x45)
      (hsign : sign = [] ∨ sign = [0x2B]) (hdigits : Digits digits) :
      Exponent (letter :: (sign ++ digits)) (digitsValue digits)
  | negative {letter : UInt8} {digits : List UInt8} (hletter : letter = 0x65 ∨ letter = 0x45)
      (hdigits : Digits digits) : Exponent (letter :: 0x2D :: digits) (-digitsValue digits)

/-- A number of JSON. -/
inductive Number : List UInt8 → ℚ → Prop
  | parts {sign whole fraction exponent : List UInt8} {s f : ℚ} {e : ℤ} (hsign : Sign sign s)
      (hwhole : Whole whole) (hfraction : Fraction fraction f) (hexponent : Exponent exponent e) :
      Number (sign ++ whole ++ fraction ++ exponent) (s * (digitsValue whole + f) * 10 ^ e)

/-! ## Objects -/

inductive Value (α : Type) where
  | string (bytes : List UInt8)
  | number (value : α)
  deriving DecidableEq, Repr

section

variable {α : Type} (Num : List UInt8 → α → Prop)

inductive ValueText : List UInt8 → Value α → Prop
  | string {text bytes : List UInt8} (h : StringText text bytes) : ValueText text (.string bytes)
  | number {text : List UInt8} {value : α} (h : Num text value) : ValueText text (.number value)

/-- A key and its value, with the blanks around them. -/
inductive Member : List UInt8 → List UInt8 × Value α → Prop
  | parts {before keyText between around valueText after key : List UInt8} {value : Value α}
      (hbefore : Blank before) (hkey : StringText keyText key) (hbetween : Blank between)
      (haround : Blank around) (hvalue : ValueText Num valueText value) (hafter : Blank after) :
      Member (before ++ (keyText ++ (between ++ 0x3A :: (around ++ (valueText ++ after)))))
        (key, value)

inductive Members : List UInt8 → List (List UInt8 × Value α) → Prop
  | last {text : List UInt8} {member : List UInt8 × Value α} (h : Member Num text member) :
      Members text [member]
  | next {text rest : List UInt8} {member : List UInt8 × Value α}
      {members : List (List UInt8 × Value α)} (h : Member Num text member)
      (hrest : Members rest members) : Members (text ++ 0x2C :: rest) (member :: members)

/-- An object from its opening to its closing brace, with its members in order. -/
inductive Object : List UInt8 → List (List UInt8 × Value α) → Prop
  | empty {text : List UInt8} (h : Blank text) : Object (0x7B :: (text ++ [0x7D])) []
  | members {text : List UInt8} {members : List (List UInt8 × Value α)}
      (h : Members Num text members) : Object (0x7B :: (text ++ [0x7D])) members

/-- An object with blanks outside its braces. -/
inductive Text : List UInt8 → List (List UInt8 × Value α) → Prop
  | parts {before text after : List UInt8} {members : List (List UInt8 × Value α)}
      (hbefore : Blank before) (hobject : Object Num text members) (hafter : Blank after) :
      Text (before ++ (text ++ after)) members

end

/-! ## Facts -/

theorem Blank.append {a b : List UInt8} (ha : Blank a) (hb : Blank b) : Blank (a ++ b) :=
  List.forall_mem_append.mpr ⟨ha, hb⟩

section

variable {α : Type} {Num : List UInt8 → α → Prop}

/-- Blanks before a member belong to it. -/
theorem Member.blanks {blanks text : List UInt8} {member : List UInt8 × Value α}
    (h : Member Num text member) (hblanks : Blank blanks) : Member Num (blanks ++ text) member := by
  obtain ⟨hbefore, hkey, hbetween, haround, hvalue, hafter⟩ := h
  rw [← List.append_assoc]
  exact .parts (hblanks.append hbefore) hkey hbetween haround hvalue hafter

theorem Members.blanks {blanks text : List UInt8} {members : List (List UInt8 × Value α)}
    (h : Members Num text members) (hblanks : Blank blanks) :
    Members Num (blanks ++ text) members := by
  cases h with
  | last h => exact .last (h.blanks hblanks)
  | next h hrest =>
    rw [← List.append_assoc]
    exact .next (h.blanks hblanks) hrest

/-- A member begins with a quote behind its blanks. -/
theorem Member.head {text : List UInt8} {member : List UInt8 × Value α}
    (h : Member Num text member) :
    ∃ blanks rest : List UInt8, Blank blanks ∧ text = blanks ++ 0x22 :: rest := by
  obtain ⟨hbefore, ⟨hbody⟩, _, _, _, _⟩ := h
  exact ⟨_, _, hbefore, by rw [List.cons_append]⟩

theorem Members.head {text : List UInt8} {members : List (List UInt8 × Value α)}
    (h : Members Num text members) :
    ∃ blanks rest : List UInt8, Blank blanks ∧ text = blanks ++ 0x22 :: rest := by
  cases h with
  | last h => exact h.head
  | next h _ =>
    obtain ⟨blanks, rest, hblanks, rfl⟩ := h.head
    exact ⟨blanks, _, hblanks, by rw [List.append_assoc, List.cons_append]⟩

end

/-- An unsigned integer in digits is a number of JSON. -/
theorem PlainInteger.number {text : List UInt8} {value : ℕ} (h : PlainInteger text value) :
    Number text value := by
  obtain ⟨hwhole, rfl⟩ := h
  have hparts := Number.parts .positive hwhole .absent .absent
  simpa using hparts

theorem digitsValue_append_digit (digits : List UInt8) (byte : UInt8) :
    digitsValue (digits ++ [byte]) = digitsValue digits * 10 + (byte.toNat - 0x30) := by
  rw [digitsValue, List.foldl_append]
  rfl

/-- ASCII that needs no escape denotes itself. -/
theorem StringText.plain {value : List UInt8}
    (h : (value.all fun byte => 0x20 ≤ byte ∧ byte < 0x80 ∧ byte ≠ 0x22 ∧ byte ≠ 0x5C) = true) :
    StringText (0x22 :: (value ++ [0x22])) value := by
  refine .quoted ?_
  induction value with
  | nil => exact .close
  | cons byte value ih =>
    rw [List.all_cons, Bool.and_eq_true, decide_eq_true_eq] at h
    obtain ⟨⟨hlow, hhigh, hquote, hescape⟩, hrest⟩ := h
    exact .plain hlow hhigh hquote hescape (ih hrest)

/-- A member without blanks. -/
theorem Member.compact {α : Type} {Num : List UInt8 → α → Prop} {keyText key valueText : List UInt8}
    {value : Value α} (hkey : StringText keyText key) (hvalue : ValueText Num valueText value) :
    Member Num (keyText ++ 0x3A :: valueText) (key, value) := by
  have hnil : Blank [] := List.forall_mem_nil _
  have hmember := Member.parts hnil hkey hnil hnil hvalue hnil
  rwa [List.append_nil] at hmember

/-- The length of a string's text bounds that of its value. -/
theorem StringBody.length_lt {text value : List UInt8} (h : StringBody text value) :
    value.length < text.length := by
  induction h with
  | close => exact Nat.zero_lt_one
  | plain _ _ _ _ _ ih | escape _ _ ih | unicode _ _ _ _ _ _ _ ih =>
    simp only [List.length_cons]
    omega

end FlatJson
