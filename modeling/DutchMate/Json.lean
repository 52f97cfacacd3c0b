/-
# Compact JSON text

JSON values and their compact rendering: no blanks, objects in the order of their
fields, strings escaped to printable ASCII.  `size` is the number of bytes rendered,
given by the equations `size_str`, `size_arr` and `size_obj`.
-/
import Mathlib.Algebra.Order.BigOperators.Group.List
import Mathlib.Data.Int.Notation
import Mathlib.Data.List.Basic
import Mathlib.Data.Nat.Digits.Defs
import Mathlib.Tactic.Common

/-- A JSON value; a float carries the text it is printed as. -/
inductive Json where
  | null
  | bool (b : Bool)
  | num (n : ℤ)
  | float (text : String)
  | str (s : String)
  | arr (items : List Json)
  | obj (fields : List (String × Json))

namespace Json

instance : Coe String Json := ⟨.str⟩
instance : Coe ℕ Json := ⟨fun n => .num n⟩
instance : Coe Bool Json := ⟨.bool⟩

/-- An optional value, `null` when absent. -/
def opt {α : Type} (f : α → Json) : Option α → Json
  | none => .null
  | some a => f a

/-! ## Rendering -/

/-- The last hexadecimal digits of a number, most significant first. -/
def hexDigits : ℕ → ℕ → List Char
  | 0, _ => []
  | width + 1, n => hexDigits width (n / 16) ++ [Nat.digitChar (n % 16)]

/-- A UTF-16 code unit as `\uXXXX`. -/
def escapeUnit (n : ℕ) : List Char := '\\' :: 'u' :: hexDigits 4 n

/-- One character of a string literal. -/
def escapeChar (c : Char) : List Char :=
  if c = '"' then ['\\', '"']
  else if c = '\\' then ['\\', '\\']
  else if c = '\n' then ['\\', 'n']
  else if c = '\r' then ['\\', 'r']
  else if c = '\t' then ['\\', 't']
  else if c = '\x08' then ['\\', 'b']
  else if c = '\x0c' then ['\\', 'f']
  else if 0x20 ≤ c.toNat ∧ c.toNat ≤ 0x7E then [c]
  else if c.toNat < 0x10000 then escapeUnit c.toNat
  else
    escapeUnit (0xD800 + (c.toNat - 0x10000) / 0x400) ++
      escapeUnit (0xDC00 + (c.toNat - 0x10000) % 0x400)

/-- A string literal. -/
def strChars (s : String) : List Char := '"' :: (s.toList.flatMap escapeChar ++ ['"'])

/-- An integer literal. -/
def intChars : ℤ → List Char
  | .ofNat n => Nat.toDigits 10 n
  | .negSucc n => '-' :: Nat.toDigits 10 (n + 1)

mutual

/-- The compact text of a value. -/
def chars : Json → List Char
  | .null => "null".toList
  | .bool true => "true".toList
  | .bool false => "false".toList
  | .num n => intChars n
  | .float text => text.toList
  | .str s => strChars s
  | .arr items => '[' :: (itemsChars items ++ [']'])
  | .obj fields => '{' :: (fieldsChars fields ++ ['}'])
termination_by structural j => j

/-- The items of an array, separated by commas. -/
def itemsChars : List Json → List Char
  | [] => []
  | j :: js => chars j ++ match js with
    | [] => []
    | _ :: _ => ',' :: itemsChars js
termination_by structural js => js

/-- The fields of an object, separated by commas. -/
def fieldsChars : List (String × Json) → List Char
  | [] => []
  | f :: fs => fieldChars f ++ match fs with
    | [] => []
    | _ :: _ => ',' :: fieldsChars fs
termination_by structural fs => fs

/-- One field of an object. -/
def fieldChars : String × Json → List Char
  | (key, value) => strChars key ++ ':' :: chars value
termination_by structural f => f

end

/-- The rendered bytes; every character is ASCII. -/
def bytes (j : Json) : List UInt8 := j.chars.map fun c => c.toNat.toUInt8

/-- The number of bytes rendered. -/
def size (j : Json) : ℕ := j.chars.length

@[simp] theorem length_bytes (j : Json) : j.bytes.length = j.size := by
  rw [bytes, List.length_map, size]

/-! ## Sizes -/

/-- The number of bytes of a string literal. -/
def strSize (s : String) : ℕ := 2 + (s.toList.map fun c => (escapeChar c).length).sum

theorem length_strChars (s : String) : (strChars s).length = strSize s := by
  simp [strChars, strSize, List.length_flatMap]
  omega

@[simp] theorem size_null : size .null = 4 := rfl

theorem size_bool_le (b : Bool) : size (.bool b) ≤ 5 := by cases b <;> decide

theorem size_str (s : String) : size (.str s) = strSize s := length_strChars s

theorem size_float (text : String) : size (.float text) = text.toList.length := rfl

theorem size_nat (n : ℕ) : size (.num n) = (Nat.toDigits 10 n).length := rfl

/-- A natural number below `10 ^ k` takes at most `k` bytes. -/
theorem size_nat_le {n k : ℕ} (hk : 0 < k) (h : n < 10 ^ k) : size (.num n) ≤ k := by
  rw [size_nat]
  exact Nat.toDigits_length 10 n k hk h

theorem length_itemsChars (js : List Json) :
    (itemsChars js).length = (js.map size).sum + (js.length - 1) := by
  induction js with
  | nil => rfl
  | cons j js ih =>
    cases js with
    | nil => simp [itemsChars, size]
    | cons j' js =>
      have hj : j.chars.length = j.size := rfl
      rw [itemsChars]
      simp only [List.length_append, List.length_cons, List.map_cons, List.sum_cons] at ih ⊢
      rw [ih, hj]
      omega

theorem length_fieldsChars (fs : List (String × Json)) :
    (fieldsChars fs).length
      = (fs.map fun f => strSize f.1 + 1 + f.2.size).sum + (fs.length - 1) := by
  induction fs with
  | nil => rfl
  | cons f fs ih =>
    have hfield : (fieldChars f).length = strSize f.1 + 1 + f.2.size := by
      rw [fieldChars, List.length_append, List.length_cons, length_strChars, size]
      omega
    cases fs with
    | nil => simp [fieldsChars, hfield]
    | cons f' fs =>
      rw [fieldsChars]
      simp only [List.length_append, List.length_cons, List.map_cons, List.sum_cons] at ih ⊢
      rw [ih, hfield]
      omega

/-- Brackets, items and the commas between them. -/
theorem size_arr (js : List Json) :
    size (.arr js) = 2 + (js.map size).sum + (js.length - 1) := by
  rw [size, chars, List.length_cons, List.length_append, length_itemsChars, List.length_singleton]
  omega

/-- Braces, fields with their colons and the commas between them. -/
theorem size_obj (fs : List (String × Json)) :
    size (.obj fs)
      = 2 + (fs.map fun f => strSize f.1 + 1 + f.2.size).sum + (fs.length - 1) := by
  rw [size, chars, List.length_cons, List.length_append, length_fieldsChars,
    List.length_singleton]
  omega

/-- A field is smaller than its object. -/
theorem size_field_lt {fs : List (String × Json)} {key : String} {value : Json}
    (h : (key, value) ∈ fs) : strSize key + 1 + value.size < (Json.obj fs).size := by
  have hmem : strSize key + 1 + value.size ∈ fs.map fun f => strSize f.1 + 1 + f.2.size :=
    List.mem_map.mpr ⟨(key, value), h, rfl⟩
  have hle := List.single_le_sum (fun _ _ => Nat.zero_le _) _ hmem
  have hobj := size_obj fs
  omega

/-- Text every character of which stands for itself. -/
theorem strSize_of_plain {cs : List Char} (h : ∀ c ∈ cs, (escapeChar c).length = 1) :
    strSize (String.ofList cs) = 2 + cs.length := by
  rw [strSize, String.toList_ofList, List.map_congr_left h, List.map_const',
    List.sum_replicate_nat, Nat.mul_one]

example : (Json.obj [("a", .arr [.null, .num (-3)]), ("b", "é\n")]).chars
    = "\x7b\"a\":[null,-3],\"b\":\"\\u00e9\\n\"\x7d".toList := by decide

end Json
