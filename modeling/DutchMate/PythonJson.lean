/-
# Reading JSON text the way Python does

`json.loads` on the code points of a `str`: blanks, literals, numbers, strings with their
escapes, arrays and objects, read by one scanner that gives the value at the front of a text
and what follows it.  A text is refused in three ways: it is no JSON, an integer in it has
more digits than the interpreter converts, or it nests deeper than the interpreter's stack.
-/
import DutchMate.Json
import DutchMate.Utf8
import Mathlib.Data.List.TakeWhile

/-- A Python string by its code points; a lone surrogate is a code point too. -/
abbrev PyStr := List ℕ

/-- The code points of a text. -/
def codePoints (text : List Char) : PyStr := text.map Char.toNat

/-- Python's `str.isspace` on a code point. -/
def isSpaceCode (c : ℕ) : Bool := c.isValidChar && isSpace (Char.ofNat c)

/-- Unicode category `Cc` on a code point. -/
def isControlCode (c : ℕ) : Bool := c.isValidChar && isControl (Char.ofNat c)

/-- What `json.loads` gives; a float carries the text it is read from. -/
inductive PyJson where
  | null
  | bool (b : Bool)
  | int (n : ℤ)
  | float (text : PyStr)
  | str (s : PyStr)
  | arr (items : List PyJson)
  | obj (fields : List (PyStr × PyJson))

/-- `JSONDecodeError`, the `ValueError` of an integer too long, and `RecursionError`. -/
inductive JsonFault where
  | malformed
  | digitLimit
  | recursion
  deriving DecidableEq, Repr

/-- The interpreter's limits: digits of an integer, and levels the stack still leaves. -/
structure JsonLimits where
  maxStrDigits : ℕ
  nesting : ℕ
  maxStrDigits_pos : 0 < maxStrDigits
  nesting_pos : 0 < nesting

/-- `sys.int_info.default_max_str_digits`. -/
def defaultMaxStrDigits : ℕ := 4300

/-- What the default recursion limit leaves. -/
def defaultNesting : ℕ := 1000

theorem defaultMaxStrDigits_pos : 0 < defaultMaxStrDigits := by decide

theorem defaultNesting_pos : 0 < defaultNesting := by decide

namespace PyJson

/-! ## Blanks and literals -/

/-- A blank, a tab, a newline or a carriage return. -/
def isBlank (c : ℕ) : Bool := c = 0x20 || c = 0x09 || c = 0x0A || c = 0x0D

def skipBlanks (text : PyStr) : PyStr := text.dropWhile isBlank

theorem length_skipBlanks (text : PyStr) : (skipBlanks text).length ≤ text.length :=
  (List.dropWhile_suffix isBlank).length_le

theorem skipBlanks_cons {c : ℕ} (h : isBlank c = false) (text : PyStr) :
    skipBlanks (c :: text) = c :: text :=
  List.dropWhile_cons_of_neg (by simp [h])

/-- What follows a word at the front of a text. -/
def afterWord : PyStr → PyStr → Option PyStr
  | [], text => some text
  | _ :: _, [] => none
  | w :: word, c :: text => if w = c then afterWord word text else none

theorem afterWord_length {word text rest : PyStr} (h : afterWord word text = some rest) :
    rest.length + word.length = text.length := by
  induction word generalizing text with
  | nil =>
    cases h
    rfl
  | cons w word ih =>
    cases text with
    | nil => exact absurd h (by simp [afterWord])
    | cons c text =>
      rw [afterWord] at h
      split at h
      · have := ih h
        simp only [List.length_cons]
        omega
      · cases h

/-! ## Strings -/

/-- The value of a hexadecimal digit. -/
def hexValue (c : ℕ) : Option ℕ :=
  if 0x30 ≤ c ∧ c ≤ 0x39 then some (c - 0x30)
  else if 0x61 ≤ c ∧ c ≤ 0x66 then some (c - 0x57)
  else if 0x41 ≤ c ∧ c ≤ 0x46 then some (c - 0x37)
  else none

/-- The code unit of four hexadecimal digits. -/
def hexUnit (a b c d : ℕ) : Option ℕ := do
  let a ← hexValue a
  let b ← hexValue b
  let c ← hexValue c
  let d ← hexValue d
  some (((a * 16 + b) * 16 + c) * 16 + d)

/-- The character of an escape other than `\u`. -/
def simpleEscape (c : ℕ) : Option ℕ :=
  if c = 0x22 ∨ c = 0x5C ∨ c = 0x2F then some c
  else if c = 0x62 then some 0x08
  else if c = 0x66 then some 0x0C
  else if c = 0x6E then some 0x0A
  else if c = 0x72 then some 0x0D
  else if c = 0x74 then some 0x09
  else none

/-- One unit of a string literal: a character, or a `\u` escape's code unit. -/
inductive StrUnit where
  | char (c : ℕ)
  | escaped (unit : ℕ)

/-- The units of a string literal, from behind its opening quote, and what follows the
closing one. -/
def scanUnits : PyStr → Option (List StrUnit × PyStr)
  | [] => none
  | c :: rest =>
    if c = 0x22 then some ([], rest)
    else if c ≠ 0x5C then
      if c ≤ 0x1F then none
      else (scanUnits rest).map fun r => (.char c :: r.1, r.2)
    else
      match rest with
      | [] => none
      | e :: rest =>
        if e ≠ 0x75 then
          match simpleEscape e with
          | none => none
          | some c => (scanUnits rest).map fun r => (.char c :: r.1, r.2)
        else
          match rest with
          | h₁ :: h₂ :: h₃ :: h₄ :: rest =>
            match hexUnit h₁ h₂ h₃ h₄ with
            | none => none
            | some unit => (scanUnits rest).map fun r => (.escaped unit :: r.1, r.2)
          | _ => none

def isHighSurrogate (c : ℕ) : Bool := 0xD800 ≤ c && c ≤ 0xDBFF

def isLowSurrogate (c : ℕ) : Bool := 0xDC00 ≤ c && c ≤ 0xDFFF

/-- The character two surrogates make together. -/
def joinSurrogates (high low : ℕ) : ℕ := 0x10000 + (high - 0xD800) * 0x400 + (low - 0xDC00)

/-- The string of the units: two escapes that make a surrogate pair are one character. -/
def joinUnits : List StrUnit → PyStr
  | [] => []
  | .char c :: units => c :: joinUnits units
  | .escaped high :: .escaped low :: units =>
    if isHighSurrogate high && isLowSurrogate low then joinSurrogates high low :: joinUnits units
    else high :: joinUnits (.escaped low :: units)
  | .escaped unit :: units => unit :: joinUnits units

/-- A step of the scanner goes on with a text that is at least a character shorter. -/
theorem scanUnits_step {scanned : Option (List StrUnit × PyStr)} {unit : StrUnit}
    {units : List StrUnit} {rest : PyStr} {n : ℕ}
    (h : (scanned.map fun r => (unit :: r.1, r.2)) = some (units, rest))
    (ih : ∀ units, scanned = some (units, rest) → rest.length < n) : rest.length < n := by
  obtain ⟨⟨units', rest'⟩, hscanned, heq⟩ := Option.map_eq_some_iff.mp h
  cases heq
  exact ih _ hscanned

theorem scanUnits_length (text : PyStr) : ∀ (units : List StrUnit) (rest : PyStr),
    scanUnits text = some (units, rest) → rest.length < text.length := by
  fun_induction scanUnits text with
  | case2 =>
    intro units rest h
    cases h
    simp
  | case4 c text hquote hescape hcontrol ih =>
    intro units rest h
    have := scanUnits_step h fun units hs => ih units rest hs
    simp only [List.length_cons]
    omega
  | case7 c hquote hescape e text hunit c' hsimple ih =>
    intro units rest h
    have := scanUnits_step h fun units hs => ih units rest hs
    simp only [List.length_cons]
    omega
  | case9 c hquote hescape e hunit h₁ h₂ h₃ h₄ text unit hhex ih =>
    intro units rest h
    have := scanUnits_step h fun units hs => ih units rest hs
    simp only [List.length_cons]
    omega
  | _ => intro units rest h; cases h

/-! ## Numbers -/

def isDigit (c : ℕ) : Bool := 0x30 ≤ c && c ≤ 0x39

/-- The number a run of digits denotes. -/
def digitsValue (digits : PyStr) : ℕ := digits.foldl (fun n d => n * 10 + (d - 0x30)) 0

/-- The fraction at the front of a text, empty where there is none, and what follows. -/
def scanFraction : PyStr → PyStr × PyStr
  | 0x2E :: d :: rest =>
    if isDigit d then (0x2E :: d :: rest.takeWhile isDigit, rest.dropWhile isDigit)
    else ([], 0x2E :: d :: rest)
  | text => ([], text)

/-- The exponent at the front of a text, empty where there is none, and what follows. -/
def scanExponent : PyStr → PyStr × PyStr
  | [] => ([], [])
  | e :: rest =>
    let sign := (rest.take 1).filter fun c => c = 0x2B || c = 0x2D
    let digits := (rest.drop sign.length).takeWhile isDigit
    if (e = 0x65 ∨ e = 0x45) ∧ digits ≠ [] then
      (e :: (sign ++ digits), (rest.drop sign.length).dropWhile isDigit)
    else ([], e :: rest)

/-- The digits of the integer part: a zero stands alone. -/
def integerDigits (c : ℕ) (rest : PyStr) : PyStr × PyStr :=
  if c = 0x30 then ([c], rest) else (c :: rest.takeWhile isDigit, rest.dropWhile isDigit)

/-- The number behind a sign: an integer unless a fraction or an exponent follows. -/
def scanUnsigned (maxStrDigits : ℕ) (negative : Bool) :
    PyStr → Except JsonFault (PyJson × PyStr)
  | [] => .error .malformed
  | c :: rest =>
    if isDigit c then
      let integer := integerDigits c rest
      let fraction := scanFraction integer.2
      let power := scanExponent fraction.2
      if fraction.1 = [] ∧ power.1 = [] then
        if maxStrDigits < integer.1.length then .error .digitLimit
        else
          let n := digitsValue integer.1
          .ok (.int (if negative then -n else n), integer.2)
      else
        let sign := if negative then [0x2D] else []
        .ok (.float (sign ++ integer.1 ++ fraction.1 ++ power.1), power.2)
    else .error .malformed

def scanNumber (maxStrDigits : ℕ) : PyStr → Except JsonFault (PyJson × PyStr)
  | 0x2D :: rest => scanUnsigned maxStrDigits true rest
  | text => scanUnsigned maxStrDigits false text

theorem scanFraction_length (text : PyStr) : (scanFraction text).2.length ≤ text.length := by
  unfold scanFraction
  split
  · split
    · have := (List.dropWhile_suffix isDigit (l := ‹PyStr›)).length_le
      simp only [List.length_cons]
      omega
    · exact le_rfl
  · exact le_rfl

theorem scanExponent_length (text : PyStr) : (scanExponent text).2.length ≤ text.length := by
  cases text with
  | nil => exact le_rfl
  | cons e rest =>
    dsimp only [scanExponent]
    split
    · refine (List.dropWhile_suffix isDigit).length_le.trans ?_
      simp only [List.length_drop, List.length_cons]
      omega
    · exact le_rfl

theorem integerDigits_length (c : ℕ) (rest : PyStr) :
    (integerDigits c rest).2.length ≤ rest.length := by
  unfold integerDigits
  split
  · exact le_rfl
  · exact (List.dropWhile_suffix isDigit).length_le

theorem scanUnsigned_length {maxStrDigits : ℕ} {negative : Bool} {text rest : PyStr}
    {value : PyJson} (h : scanUnsigned maxStrDigits negative text = .ok (value, rest)) :
    rest.length < text.length := by
  cases text with
  | nil => cases h
  | cons c text =>
    have hinteger := integerDigits_length c text
    have hfraction := scanFraction_length (integerDigits c text).2
    have hpower := scanExponent_length (scanFraction (integerDigits c text).2).2
    unfold scanUnsigned at h
    dsimp only at h
    split at h
    · split at h
      · split at h
        · cases h
        · cases h
          simp only [List.length_cons]
          omega
      · cases h
        simp only [List.length_cons]
        omega
    · cases h

theorem scanNumber_length {maxStrDigits : ℕ} {text rest : PyStr} {value : PyJson}
    (h : scanNumber maxStrDigits text = .ok (value, rest)) : rest.length < text.length := by
  unfold scanNumber at h
  split at h
  · exact (scanUnsigned_length h).trans (by simp)
  · exact scanUnsigned_length h

/-! ## Values -/

/-- A thing read at the front of a text, and the shorter text that follows it. -/
structure Scanned (α : Type) (text : PyStr) where
  value : α
  rest : PyStr
  shorter : rest.length < text.length

/-- A reader of things at the front of a text. -/
abbrev Scanner (α : Type) := (text : PyStr) → Except JsonFault (Scanned α text)

/-- A string literal, quotes included. -/
def scanString : Scanner PyStr
  | [] => .error .malformed
  | c :: text =>
    if c = 0x22 then
      match h : scanUnits text with
      | none => .error .malformed
      | some (units, rest) =>
        .ok ⟨joinUnits units, rest, (scanUnits_length text units rest h).trans (by simp)⟩
    else .error .malformed

/-- The elements of an array, from the first one on, and what follows the bracket. -/
def scanElements (scan : Scanner PyJson) (text : PyStr) :
    Except JsonFault (Scanned (List PyJson) text) :=
  match scan text with
  | .error e => .error e
  | .ok ⟨value, rest, hvalue⟩ =>
    match hrest : skipBlanks rest with
    | [] => .error .malformed
    | c :: next =>
      have hnext : next.length < text.length := by
        have := length_skipBlanks rest
        rw [hrest, List.length_cons] at this
        omega
      if c = 0x5D then .ok ⟨[value], next, hnext⟩
      else if c = 0x2C then
        match scanElements scan (skipBlanks next) with
        | .error e => .error e
        | .ok ⟨values, rest, hrest⟩ =>
          .ok ⟨value :: values, rest,
            hrest.trans ((length_skipBlanks next).trans_lt hnext)⟩
      else .error .malformed
termination_by text.length
decreasing_by exact (length_skipBlanks next).trans_lt hnext

/-- One member of an object: the key, a colon and the value. -/
def scanMember (scan : Scanner PyJson) : Scanner (PyStr × PyJson) := fun text =>
  match scanString text with
  | .error e => .error e
  | .ok ⟨key, rest, hkey⟩ =>
    match hrest : skipBlanks rest with
    | [] => .error .malformed
    | c :: next =>
      if c = 0x3A then
        match scan (skipBlanks next) with
        | .error e => .error e
        | .ok ⟨value, rest', hvalue⟩ =>
          .ok ⟨(key, value), rest', by
            have := length_skipBlanks next
            have := length_skipBlanks rest
            rw [hrest, List.length_cons] at this
            omega⟩
      else .error .malformed

/-- A field set in a dictionary: a key seen before keeps its place. -/
def setField (fields : List (PyStr × PyJson)) (key : PyStr) (value : PyJson) :
    List (PyStr × PyJson) :=
  if fields.any (·.1 = key) then
    fields.map fun field => if field.1 = key then (key, value) else field
  else fields ++ [(key, value)]

/-- The members of an object, from the first one on, and what follows the brace. -/
def scanMembers (scan : Scanner PyJson) (fields : List (PyStr × PyJson)) (text : PyStr) :
    Except JsonFault (Scanned (List (PyStr × PyJson)) text) :=
  match scanMember scan text with
  | .error e => .error e
  | .ok ⟨(key, value), rest, hmember⟩ =>
    match hrest : skipBlanks rest with
    | [] => .error .malformed
    | c :: next =>
      have hnext : next.length < text.length := by
        have := length_skipBlanks rest
        rw [hrest, List.length_cons] at this
        omega
      if c = 0x7D then .ok ⟨setField fields key value, next, hnext⟩
      else if c = 0x2C then
        match scanMembers scan (setField fields key value) (skipBlanks next) with
        | .error e => .error e
        | .ok ⟨fields, rest, hrest⟩ =>
          .ok ⟨fields, rest, hrest.trans ((length_skipBlanks next).trans_lt hnext)⟩
      else .error .malformed
termination_by text.length
decreasing_by exact (length_skipBlanks next).trans_lt hnext

/-- An array or object from behind its opening bracket: at once closed, or its contents. -/
def scanContents {α : Type} (close : ℕ) (empty : α) (scan : Scanner α) : Scanner α := fun text =>
  match hrest : skipBlanks text with
  | [] => .error .malformed
  | c :: next =>
    if c = close then
      .ok ⟨empty, next, by
        have := length_skipBlanks text
        rw [hrest, List.length_cons] at this
        omega⟩
    else
      match scan (skipBlanks text) with
      | .error e => .error e
      | .ok ⟨value, rest, h⟩ => .ok ⟨value, rest, h.trans_le (length_skipBlanks text)⟩

/-- A reader's result under another name, for the text with one more character. -/
def Scanned.wrap {α β : Type} {text : PyStr} (c : ℕ) (f : α → β) (s : Scanned α text) :
    Scanned β (c :: text) :=
  ⟨f s.value, s.rest, s.shorter.trans (by simp)⟩

/-- The words with a value of their own. -/
def words : List (PyStr × PyJson) :=
  [(codePoints "null".toList, .null), (codePoints "true".toList, .bool true),
    (codePoints "false".toList, .bool false),
    (codePoints "NaN".toList, .float (codePoints "NaN".toList)),
    (codePoints "Infinity".toList, .float (codePoints "Infinity".toList)),
    (codePoints "-Infinity".toList, .float (codePoints "-Infinity".toList))]

/-- The word at the front of a text. -/
def scanWord (text : PyStr) : Option (PyJson × PyStr) :=
  words.findSome? fun word => (afterWord word.1 text).map fun rest => (word.2, rest)

theorem scanWord_length {text rest : PyStr} {value : PyJson}
    (h : scanWord text = some (value, rest)) : rest.length < text.length := by
  obtain ⟨word, hmem, hword⟩ := List.exists_of_findSome?_eq_some h
  obtain ⟨rest', hafter, heq⟩ := Option.map_eq_some_iff.mp hword
  cases heq
  have hlength := afterWord_length hafter
  have hpos : ∀ word ∈ words, 0 < word.1.length := by decide
  have := hpos word hmem
  omega

/-- A word or a number. -/
def scanAtom (maxStrDigits : ℕ) : Scanner PyJson := fun text =>
  match hword : scanWord text with
  | some (value, rest) => .ok ⟨value, rest, scanWord_length hword⟩
  | none =>
    match hnumber : scanNumber maxStrDigits text with
    | .error e => .error e
    | .ok (value, rest) => .ok ⟨value, rest, scanNumber_length hnumber⟩

/-- A value at the front of a text.  Every array and object takes a level of the stack. -/
def scanValue (maxStrDigits : ℕ) : ℕ → Scanner PyJson
  | _, [] => .error .malformed
  | nesting, c :: text =>
    if c = 0x22 then (scanString (c :: text)).map fun s => ⟨.str s.value, s.rest, s.shorter⟩
    else if c = 0x7B then
      match nesting with
      | 0 => .error .recursion
      | nesting + 1 =>
        (scanContents 0x7D [] (scanMembers (scanValue maxStrDigits nesting) []) text).map
          (·.wrap c PyJson.obj)
    else if c = 0x5B then
      match nesting with
      | 0 => .error .recursion
      | nesting + 1 =>
        (scanContents 0x5D [] (scanElements (scanValue maxStrDigits nesting)) text).map
          (·.wrap c PyJson.arr)
    else scanAtom maxStrDigits (c :: text)

/-- `json.loads` of a `str`. -/
def loads (limits : JsonLimits) (text : PyStr) : Except JsonFault PyJson :=
  if text.head? = some 0xFEFF then .error .malformed
  else
    match scanValue limits.maxStrDigits limits.nesting (skipBlanks text) with
    | .error e => .error e
    | .ok s => if skipBlanks s.rest = [] then .ok s.value else .error .malformed

/-! ## A string and its escaped literal

`json.dumps` escapes a string to printable ASCII, a character outside the basic plane as
a surrogate pair.  Reading the literal back joins the pairs, so it gives the string unless
two lone surrogates stood where a pair could. -/

/-- The text of one code point, as `json.dumps` writes it. -/
def escapeCode (c : ℕ) : List Char :=
  if c.isValidChar then Json.escapeChar (Char.ofNat c) else Json.escapeUnit c

/-- A string literal as `json.dumps` writes it. -/
def strLiteral (s : PyStr) : List Char := '"' :: (s.flatMap escapeCode ++ ['"'])

/-- The units that the text of one code point is read as. -/
def unitsOf (c : ℕ) : List StrUnit :=
  if 0x20 ≤ c ∧ c ≤ 0x7E ∨ c = 0x0A ∨ c = 0x0D ∨ c = 0x09 ∨ c = 0x08 ∨ c = 0x0C then [.char c]
  else if c < 0x10000 then [.escaped c]
  else [.escaped (0xD800 + (c - 0x10000) / 0x400), .escaped (0xDC00 + (c - 0x10000) % 0x400)]

/-- The text has a code point after another that would be read as a pair's second half. -/
def SplitsPair : PyStr → Prop
  | a :: b :: s => isHighSurrogate a ∧ isLowSurrogate b ∨ SplitsPair (b :: s)
  | _ => False

theorem not_splitsPair_of_lt {s : PyStr} (h : ∀ c ∈ s, c < 0xD800) : ¬SplitsPair s := by
  induction s with
  | nil => exact id
  | cons a s ih =>
    cases s with
    | nil => exact id
    | cons b s =>
      rintro (⟨hhigh, -⟩ | hrest)
      · have := h a (by simp)
        simp only [isHighSurrogate, Bool.and_eq_true, decide_eq_true_eq] at hhigh
        omega
      · exact ih (fun c hc => h c (List.mem_cons_of_mem _ hc)) hrest

theorem toNat_ofNat {c : ℕ} (h : c.isValidChar) : (Char.ofNat c).toNat = c := by
  rw [Char.ofNat, dif_pos h]
  rfl

theorem toNat_lt (c : Char) : c.toNat < 0x110000 :=
  c.valid.elim (fun h => h.trans (by decide)) fun h => h.2

theorem hexValue_digitChar {d : ℕ} (h : d < 16) : hexValue (Nat.digitChar d).toNat = some d := by
  have hall : ∀ d : Fin 16, hexValue (Nat.digitChar d).toNat = some d.val := by decide
  exact hall ⟨d, h⟩

/-- A `\u` escape is read as its code unit. -/
theorem scanUnits_escapeUnit {n : ℕ} (h : n < 0x10000) (rest : PyStr) :
    scanUnits (codePoints (Json.escapeUnit n) ++ rest)
      = (scanUnits rest).map fun r => (.escaped n :: r.1, r.2) := by
  have hunit : hexUnit (Nat.digitChar (n / 16 / 16 / 16 % 16)).toNat
      (Nat.digitChar (n / 16 / 16 % 16)).toNat (Nat.digitChar (n / 16 % 16)).toNat
      (Nat.digitChar (n % 16)).toNat = some n := by
    simp only [hexUnit, hexValue_digitChar (Nat.mod_lt _ (by omega : 0 < 16)), Option.bind_eq_bind,
      Option.bind_some]
    congr 1
    omega
  have htext : codePoints (Json.escapeUnit n) ++ rest
      = 0x5C :: 0x75 :: (Nat.digitChar (n / 16 / 16 / 16 % 16)).toNat ::
        (Nat.digitChar (n / 16 / 16 % 16)).toNat :: (Nat.digitChar (n / 16 % 16)).toNat ::
        (Nat.digitChar (n % 16)).toNat :: rest := rfl
  rw [htext, scanUnits.eq_def]
  dsimp only
  rw [if_neg (by decide), if_neg (by decide), if_neg (by decide), hunit]

theorem scanUnits_char {c : ℕ} (h : 0x20 ≤ c) (hquote : c ≠ 0x22) (hescape : c ≠ 0x5C)
    (rest : PyStr) :
    scanUnits (c :: rest) = (scanUnits rest).map fun r => (.char c :: r.1, r.2) := by
  rw [scanUnits.eq_def]
  dsimp only
  rw [if_neg hquote, if_pos hescape, if_neg (by omega)]

theorem scanUnits_simpleEscape {e c : ℕ} (hsimple : simpleEscape e = some c) (rest : PyStr) :
    scanUnits (0x5C :: e :: rest) = (scanUnits rest).map fun r => (.char c :: r.1, r.2) := by
  have he : e ≠ 0x75 := by
    rintro rfl
    cases hsimple
  rw [scanUnits.eq_def]
  dsimp only
  rw [if_neg (by decide), if_neg (by decide), if_pos he, hsimple]

/-- The text of a character is read as its units. -/
theorem scanUnits_escapeChar (c : Char) (rest : PyStr) :
    scanUnits (codePoints (Json.escapeChar c) ++ rest)
      = (scanUnits rest).map fun r => (unitsOf c.toNat ++ r.1, r.2) := by
  unfold Json.escapeChar
  split
  · subst c
    exact scanUnits_simpleEscape rfl rest
  split
  · subst c
    exact scanUnits_simpleEscape rfl rest
  split
  · subst c
    exact scanUnits_simpleEscape rfl rest
  split
  · subst c
    exact scanUnits_simpleEscape rfl rest
  split
  · subst c
    exact scanUnits_simpleEscape rfl rest
  split
  · subst c
    exact scanUnits_simpleEscape rfl rest
  split
  · subst c
    exact scanUnits_simpleEscape rfl rest
  have hne : ∀ d : Char, c ≠ d → c.toNat ≠ d.toNat := fun d hd heq => hd (Char.toNat_inj.mp heq)
  have hquote : c.toNat ≠ 0x22 := hne '"' (by assumption)
  have hescape : c.toNat ≠ 0x5C := hne '\\' (by assumption)
  have hnewline : c.toNat ≠ 0x0A := hne '\n' (by assumption)
  have hreturn : c.toNat ≠ 0x0D := hne '\r' (by assumption)
  have htab : c.toNat ≠ 0x09 := hne '\t' (by assumption)
  have hback : c.toNat ≠ 0x08 := hne '\x08' (by assumption)
  have hfeed : c.toNat ≠ 0x0C := hne '\x0c' (by assumption)
  split
  · next hplain =>
    rw [unitsOf, if_pos (.inl hplain)]
    exact scanUnits_char hplain.1 hquote hescape rest
  next hplain =>
  have hother : ¬(0x20 ≤ c.toNat ∧ c.toNat ≤ 0x7E ∨ c.toNat = 0x0A ∨ c.toNat = 0x0D ∨
      c.toNat = 0x09 ∨ c.toNat = 0x08 ∨ c.toNat = 0x0C) := by tauto
  rw [unitsOf, if_neg hother]
  split
  · next hbasic => exact scanUnits_escapeUnit hbasic rest
  · next hastral =>
    have hrange : c.toNat < 0x110000 := toNat_lt c
    rw [codePoints, List.map_append, List.append_assoc]
    refine (scanUnits_escapeUnit (by omega) _).trans ?_
    refine (congrArg _ (scanUnits_escapeUnit (by omega) rest)).trans ?_
    rw [Option.map_map]
    rfl

theorem isValidChar_of_not_surrogate {c : ℕ} (h : c < 0x110000)
    (hsurrogate : ¬(0xD800 ≤ c ∧ c ≤ 0xDFFF)) : c.isValidChar := by
  unfold Nat.isValidChar
  omega

/-- The text of a code point is read as its units. -/
theorem scanUnits_escapeCode {c : ℕ} (h : c < 0x110000) (rest : PyStr) :
    scanUnits (codePoints (escapeCode c) ++ rest)
      = (scanUnits rest).map fun r => (unitsOf c ++ r.1, r.2) := by
  unfold escapeCode
  split
  · next hvalid =>
    rw [scanUnits_escapeChar, toNat_ofNat hvalid]
  · next hvalid =>
    have hsurrogate : 0xD800 ≤ c ∧ c ≤ 0xDFFF := by
      by_contra hnot
      exact hvalid (isValidChar_of_not_surrogate h hnot)
    rw [unitsOf, if_neg (by omega), if_pos (by omega)]
    exact scanUnits_escapeUnit (by omega) rest

/-- A string's literal is read as the units of its code points. -/
theorem scanUnits_flatMap {s : PyStr} (h : ∀ c ∈ s, c < 0x110000) (rest : PyStr) :
    scanUnits (codePoints (s.flatMap escapeCode) ++ 0x22 :: rest)
      = some (s.flatMap unitsOf, rest) := by
  induction s with
  | nil => rw [List.flatMap_nil, codePoints, List.map_nil, List.nil_append, scanUnits.eq_def]; rfl
  | cons c s ih =>
    rw [List.flatMap_cons, codePoints, List.map_append, List.append_assoc]
    refine (scanUnits_escapeCode (h c (by simp)) _).trans ?_
    rw [← codePoints, ih fun c hc => h c (by simp [hc])]
    rfl

/-- An escape that no low surrogate follows stands for itself. -/
theorem joinUnits_escaped {high : ℕ} {units : List StrUnit}
    (h : ∀ low rest, units = .escaped low :: rest →
      ¬(isHighSurrogate high ∧ isLowSurrogate low)) :
    joinUnits (.escaped high :: units) = high :: joinUnits units := by
  rcases units with _ | ⟨_ | low, units⟩
  · rfl
  · rfl
  · exact if_neg (by simpa [Bool.and_eq_true] using h low units rfl)

/-- The units of a string are joined to the string. -/
theorem joinUnits_flatMap {s : PyStr} (hrange : ∀ c ∈ s, c < 0x110000) (hsplit : ¬SplitsPair s) :
    joinUnits (s.flatMap unitsOf) = s := by
  induction s with
  | nil => rfl
  | cons c s ih =>
    have htail : joinUnits (s.flatMap unitsOf) = s :=
      ih (fun c hc => hrange c (by simp [hc])) (by
        cases s with
        | nil => exact id
        | cons d s => exact fun h => hsplit (.inr h))
    rw [List.flatMap_cons]
    have hc := hrange c (by simp)
    by_cases hplain : 0x20 ≤ c ∧ c ≤ 0x7E ∨ c = 0x0A ∨ c = 0x0D ∨ c = 0x09 ∨ c = 0x08 ∨ c = 0x0C
    · rw [unitsOf, if_pos hplain]
      exact congrArg (c :: ·) htail
    by_cases hbasic : c < 0x10000
    · rw [unitsOf, if_neg hplain, if_pos hbasic]
      refine (joinUnits_escaped fun low rest hnext hpair => ?_).trans (congrArg (c :: ·) htail)
      cases s with
      | nil => cases hnext
      | cons d s =>
        have hlow : low = d := by
          rw [List.flatMap_cons, unitsOf] at hnext
          split at hnext
          · cases hnext
          split at hnext
          · cases hnext
            rfl
          · cases hnext
            have := hpair.2
            simp only [isLowSurrogate, Bool.and_eq_true, decide_eq_true_eq] at this
            have := hrange d (by simp)
            omega
        exact hsplit (.inl (hlow ▸ hpair))
    · rw [unitsOf, if_neg hplain, if_neg hbasic]
      have hhigh : isHighSurrogate (0xD800 + (c - 0x10000) / 0x400) = true := by
        simp only [isHighSurrogate, Bool.and_eq_true, decide_eq_true_eq]
        omega
      have hlow : isLowSurrogate (0xDC00 + (c - 0x10000) % 0x400) = true := by
        simp only [isLowSurrogate, Bool.and_eq_true, decide_eq_true_eq]
        omega
      have hjoin : joinSurrogates (0xD800 + (c - 0x10000) / 0x400)
          (0xDC00 + (c - 0x10000) % 0x400) = c := by
        unfold joinSurrogates
        omega
      refine Eq.trans ?_ (congrArg₂ List.cons hjoin htail)
      exact if_pos (by rw [hhigh, hlow]; rfl)

/-! ## What a reader reads

`read` forgets that the text that follows is shorter, so that the texts can be rewritten. -/

/-- What was read, and what follows it. -/
def read {α : Type} {text : PyStr} (result : Except JsonFault (Scanned α text)) :
    Except JsonFault (α × PyStr) :=
  result.map fun s => (s.value, s.rest)

/-- A string's literal, with a text behind it. -/
def literalThen (s rest : PyStr) : PyStr :=
  0x22 :: (codePoints (s.flatMap escapeCode) ++ 0x22 :: rest)

theorem codePoints_strLiteral (s rest : PyStr) :
    codePoints (strLiteral s) ++ rest = literalThen s rest := by
  simp only [strLiteral, codePoints, List.map_cons, List.map_append, List.map_nil, List.cons_append,
    List.append_assoc, List.nil_append]
  rfl

theorem read_ok {α : Type} {text rest : PyStr} {result : Except JsonFault (Scanned α text)}
    {value : α} (h : read result = .ok (value, rest)) : ∃ hshorter,
      result = .ok ⟨value, rest, hshorter⟩ := by
  cases result with
  | error e => cases h
  | ok s =>
    cases h
    exact ⟨s.shorter, rfl⟩

section
variable {scan : Scanner PyJson} {s key text rest next : PyStr} {value : PyJson}

theorem read_scanString (rest : PyStr) (hrange : ∀ c ∈ s, c < 0x110000)
    (hsplit : ¬SplitsPair s) : read (scanString (literalThen s rest)) = .ok (s, rest) := by
  have hunits := scanUnits_flatMap hrange rest
  unfold literalThen scanString
  dsimp only
  rw [if_pos rfl]
  split
  · next heq => rw [hunits] at heq; cases heq
  · next units rest' heq =>
    rw [hunits] at heq
    cases heq
    simp only [read, Except.map, joinUnits_flatMap hrange hsplit]

theorem read_scanValue_str (maxStrDigits nesting : ℕ) (hrange : ∀ c ∈ s, c < 0x110000)
    (hsplit : ¬SplitsPair s) :
    read (scanValue maxStrDigits nesting (literalThen s rest)) = .ok (.str s, rest) := by
  obtain ⟨_, hscan⟩ := read_ok (read_scanString rest hrange hsplit)
  unfold literalThen at hscan ⊢
  unfold scanValue
  rw [if_pos rfl, hscan]
  rfl

/-- A member is read as its key and the value behind the colon. -/
theorem read_scanMember (hkey : read (scanString text) = .ok (key, 0x3A :: next))
    (hvalue : read (scan (skipBlanks next)) = .ok (value, rest)) :
    read (scanMember scan text) = .ok ((key, value), rest) := by
  obtain ⟨_, hkey⟩ := read_ok hkey
  obtain ⟨_, hvalue⟩ := read_ok hvalue
  unfold scanMember
  rw [hkey]
  dsimp only
  split
  · next heq => rw [skipBlanks_cons (by decide)] at heq; cases heq
  · next c next' heq =>
    rw [skipBlanks_cons (by decide)] at heq
    cases heq
    rw [if_pos rfl, hvalue]
    rfl

/-- The last member closes the object. -/
theorem read_scanMembers_last {fields : List (PyStr × PyJson)}
    (hmember : read (scanMember scan text) = .ok ((key, value), 0x7D :: rest)) :
    read (scanMembers scan fields text) = .ok (setField fields key value, rest) := by
  obtain ⟨_, hmember⟩ := read_ok hmember
  unfold scanMembers
  rw [hmember]
  dsimp only
  split
  · next heq => rw [skipBlanks_cons (by decide)] at heq; cases heq
  · next c next' heq =>
    rw [skipBlanks_cons (by decide)] at heq
    cases heq
    rw [if_pos rfl]
    rfl

/-- Behind a comma the members go on. -/
theorem read_scanMembers_next {fields : List (PyStr × PyJson)}
    (hmember : read (scanMember scan text) = .ok ((key, value), 0x2C :: next)) :
    read (scanMembers scan fields text)
      = read (scanMembers scan (setField fields key value) (skipBlanks next)) := by
  obtain ⟨_, hmember⟩ := read_ok hmember
  rw [scanMembers, hmember]
  dsimp only
  split
  · next heq => rw [skipBlanks_cons (by decide)] at heq; cases heq
  · next c next' heq =>
    rw [skipBlanks_cons (by decide)] at heq
    cases heq
    rw [if_neg (by decide), if_pos rfl]
    cases scanMembers scan (setField fields key value) (skipBlanks next) with
    | error e => rfl
    | ok s => rfl

/-- An object that is not closed at once is read as its members. -/
theorem read_scanValue_obj {maxStrDigits nesting : ℕ} {fields : List (PyStr × PyJson)}
    (hopen : (skipBlanks text).head? ≠ some 0x7D)
    (hmembers : read (scanMembers (scanValue maxStrDigits nesting) [] (skipBlanks text))
      = .ok (fields, rest)) :
    read (scanValue maxStrDigits (nesting + 1) (0x7B :: text)) = .ok (.obj fields, rest) := by
  obtain ⟨hshorter, hmembers⟩ := read_ok hmembers
  have hcontents : read (scanContents 0x7D [] (scanMembers (scanValue maxStrDigits nesting) [])
      text) = .ok (fields, rest) := by
    unfold scanContents
    split
    · next heq => rw [heq] at hshorter; exact absurd hshorter (Nat.not_lt_zero _)
    · next c next heq =>
      rw [heq, List.head?_cons] at hopen
      rw [if_neg fun hc => hopen (congrArg some hc), hmembers]
      rfl
  obtain ⟨_, hcontents⟩ := read_ok hcontents
  rw [scanValue, if_neg (by decide), if_pos rfl, hcontents]
  rfl

/-- No word begins with a digit. -/
theorem scanWord_digit {c : ℕ} (h : isDigit c) (text : PyStr) : scanWord (c :: text) = none := by
  refine List.findSome?_eq_none_iff.mpr fun word hword => ?_
  have hhead : ∀ word ∈ words, ∃ w rest, word.1 = w :: rest ∧ isDigit w = false := by
    simp only [words, List.forall_mem_cons, List.not_mem_nil, false_imp_iff, implies_true, and_true]
    exact ⟨⟨_, _, rfl, rfl⟩, ⟨_, _, rfl, rfl⟩, ⟨_, _, rfl, rfl⟩, ⟨_, _, rfl, rfl⟩, ⟨_, _, rfl, rfl⟩,
      ⟨_, _, rfl, rfl⟩⟩
  obtain ⟨w, rest, hw, hdigit⟩ := hhead word hword
  have hne : w ≠ c := fun heq => by
    rw [heq, h] at hdigit
    cases hdigit
  rw [hw, afterWord, if_neg hne]
  rfl

/-- One digit before a closing brace or a comma is a number of its own. -/
theorem read_scanValue_digit {c close maxStrDigits : ℕ} (nesting : ℕ) (hc : 0x30 ≤ c ∧ c ≤ 0x39)
    (hclose : close = 0x7D ∨ close = 0x2C) (hdigits : 0 < maxStrDigits) (rest : PyStr) :
    read (scanValue maxStrDigits nesting (c :: close :: rest))
      = .ok (.int (c - 0x30 : ℕ), close :: rest) := by
  have hdigit : isDigit c = true := by
    simp only [isDigit, Bool.and_eq_true, decide_eq_true_eq]
    exact hc
  have hother : isDigit close = false := by
    rcases hclose with rfl | rfl
    · rfl
    · rfl
  have hfraction : scanFraction (close :: rest) = ([], close :: rest) := by
    rcases hclose with rfl | rfl
    · rfl
    · rfl
  have hexponent : scanExponent (close :: rest) = ([], close :: rest) := by
    rcases hclose with rfl | rfl
    · rfl
    · rfl
  have hnumber : scanNumber maxStrDigits (c :: close :: rest)
      = .ok (.int (c - 0x30 : ℕ), close :: rest) := by
    have hinteger : integerDigits c (close :: rest) = ([c], close :: rest) := by
      unfold integerDigits
      split
      · rfl
      · rw [List.takeWhile_cons_of_neg (by rw [hother]; exact Bool.false_ne_true),
          List.dropWhile_cons_of_neg (by rw [hother]; exact Bool.false_ne_true)]
    have hunsigned : scanNumber maxStrDigits (c :: close :: rest)
        = scanUnsigned maxStrDigits false (c :: close :: rest) := by
      unfold scanNumber
      split
      · next heq =>
        cases heq
        exact absurd hc (by decide)
      · rfl
    rw [hunsigned, scanUnsigned, if_pos hdigit, hinteger]
    dsimp only
    rw [hfraction]
    dsimp only
    rw [hexponent, if_pos ⟨rfl, rfl⟩, if_neg (by rw [List.length_singleton]; omega)]
    simp [digitsValue]
  rw [scanValue.eq_def]
  dsimp only
  rw [if_neg (by omega), if_neg (by omega), if_neg (by omega)]
  unfold scanAtom
  split
  · next heq => rw [scanWord_digit hdigit] at heq; cases heq
  · split
    · next heq => rw [hnumber] at heq; cases heq
    · next heq =>
      rw [hnumber] at heq
      cases heq
      rfl

/-- A fault of the value at the front of a text is the text's. -/
theorem loads_of_error {limits : JsonLimits} {fault : JsonFault} (hmark : text.head? ≠ some 0xFEFF)
    (hvalue : scanValue limits.maxStrDigits limits.nesting (skipBlanks text) = .error fault) :
    loads limits text = .error fault := by
  unfold loads
  rw [if_neg hmark, hvalue]

/-- A run of digits that is longer than the interpreter converts. -/
theorem scanValue_digitLimit {maxStrDigits k : ℕ} (nesting : ℕ) (hk : maxStrDigits ≤ k)
    (rest : PyStr) :
    scanValue maxStrDigits nesting (List.replicate (k + 1) 0x31 ++ 0x7D :: rest)
      = .error .digitLimit := by
  have hdigits : ∀ c ∈ List.replicate k 0x31, isDigit c = true := by
    intro c hc
    rw [List.eq_of_mem_replicate hc]
    rfl
  have hinteger : integerDigits 0x31 (List.replicate k 0x31 ++ 0x7D :: rest)
      = (List.replicate (k + 1) 0x31, 0x7D :: rest) := by
    unfold integerDigits
    rw [if_neg (by decide), List.takeWhile_append_of_pos hdigits, List.dropWhile_append_of_pos hdigits,
      List.takeWhile_cons_of_neg (by decide), List.dropWhile_cons_of_neg (by decide), List.append_nil]
    rfl
  have hnumber : scanNumber maxStrDigits (0x31 :: (List.replicate k 0x31 ++ 0x7D :: rest))
      = .error .digitLimit := by
    have hunsigned : scanNumber maxStrDigits (0x31 :: (List.replicate k 0x31 ++ 0x7D :: rest))
        = scanUnsigned maxStrDigits false (0x31 :: (List.replicate k 0x31 ++ 0x7D :: rest)) := rfl
    rw [hunsigned, scanUnsigned, if_pos (by decide), hinteger]
    dsimp only
    rw [if_pos ⟨rfl, rfl⟩, if_pos (by rw [List.length_replicate]; omega)]
  rw [List.replicate_succ, List.cons_append, scanValue.eq_def]
  dsimp only
  rw [if_neg (by decide), if_neg (by decide), if_neg (by decide)]
  unfold scanAtom
  split
  · next heq => rw [scanWord_digit (by decide)] at heq; cases heq
  · split
    · next heq =>
      rw [hnumber] at heq
      cases heq
      rfl
    · next heq => rw [hnumber] at heq; cases heq

/-- A fault in the first member's value is the object's. -/
theorem scanValue_obj_error {maxStrDigits nesting : ℕ} {fault : JsonFault}
    (hrange : ∀ c ∈ key, c < 0x110000) (hsplit : ¬SplitsPair key)
    (hvalue : scanValue maxStrDigits nesting (skipBlanks next) = .error fault) :
    scanValue maxStrDigits (nesting + 1) (0x7B :: literalThen key (0x3A :: next))
      = .error fault := by
  obtain ⟨_, hkey⟩ := read_ok (read_scanString (0x3A :: next) hrange hsplit)
  have hmember : scanMember (scanValue maxStrDigits nesting) (literalThen key (0x3A :: next))
      = .error fault := by
    unfold scanMember
    rw [hkey]
    dsimp only
    split
    · next heq => rw [skipBlanks_cons (by decide)] at heq; cases heq
    · next c next' heq =>
      rw [skipBlanks_cons (by decide)] at heq
      cases heq
      rw [if_pos rfl, hvalue]
  have hblank : skipBlanks (literalThen key (0x3A :: next)) = literalThen key (0x3A :: next) :=
    skipBlanks_cons (by decide) _
  have hcontents : scanContents 0x7D [] (scanMembers (scanValue maxStrDigits nesting) [])
      (literalThen key (0x3A :: next)) = .error fault := by
    have hmembers : scanMembers (scanValue maxStrDigits nesting) []
        (skipBlanks (literalThen key (0x3A :: next))) = .error fault := by
      rw [hblank, scanMembers, hmember]
    unfold scanContents
    split
    · next heq => rw [hblank] at heq; cases heq
    · next c next' heq =>
      have hc : c = 0x22 := by
        rw [hblank] at heq
        exact (List.cons.inj heq).1.symm
      rw [if_neg (by rw [hc]; decide), hmembers]
  rw [scanValue, if_neg (by decide), if_pos rfl, hcontents]
  rfl

/-- A text that is one value and blanks is loaded as the value. -/
theorem loads_of_read {limits : JsonLimits} (hmark : text.head? ≠ some 0xFEFF)
    (hvalue : read (scanValue limits.maxStrDigits limits.nesting (skipBlanks text))
      = .ok (value, rest)) (hrest : skipBlanks rest = []) : loads limits text = .ok value := by
  obtain ⟨_, hvalue⟩ := read_ok hvalue
  unfold loads
  rw [if_neg hmark, hvalue]
  exact if_pos hrest

end

/-! ## Integers are as short as their literals -/

/-- An integer that the interpreter prints. -/
def Printable (maxStrDigits : ℕ) (n : ℤ) : Prop :=
  (Nat.toDigits 10 n.natAbs).length ≤ maxStrDigits

theorem digitsValue_lt {digits : PyStr} (h : ∀ d ∈ digits, isDigit d = true) :
    digitsValue digits < 10 ^ digits.length := by
  have hfold : ∀ (digits : PyStr) (n k : ℕ), (∀ d ∈ digits, isDigit d = true) → n < 10 ^ k →
      digits.foldl (fun n d => n * 10 + (d - 0x30)) n < 10 ^ (k + digits.length) := by
    intro digits
    induction digits with
    | nil => exact fun n k _ hn => hn
    | cons d digits ih =>
      intro n k h hn
      have hd : d ≤ 0x39 := by
        have := h d List.mem_cons_self
        simp only [isDigit, Bool.and_eq_true, decide_eq_true_eq] at this
        exact this.2
      have hstep := ih (n * 10 + (d - 0x30)) (k + 1) (fun c hc => h c (List.mem_cons_of_mem _ hc)) (by
        rw [Nat.pow_succ]
        omega)
      rw [List.foldl_cons, List.length_cons, Nat.add_comm digits.length, ← Nat.add_assoc]
      exact hstep
  have := hfold digits 0 0 h Nat.one_pos
  rwa [Nat.zero_add] at this

theorem integerDigits_isDigit {c : ℕ} (hc : isDigit c = true) (rest : PyStr) :
    ∀ d ∈ (integerDigits c rest).1, isDigit d = true := by
  unfold integerDigits
  split
  · exact List.forall_mem_singleton.mpr hc
  · exact List.forall_mem_cons.mpr ⟨hc, fun d hd => List.mem_takeWhile_imp hd⟩

/-- A number is an integer that can be printed, or a float. -/
theorem scanUnsigned_value {maxStrDigits : ℕ} {negative : Bool} {text rest : PyStr}
    {value : PyJson} (h : scanUnsigned maxStrDigits negative text = .ok (value, rest)) :
    (∃ n, value = .int n ∧ Printable maxStrDigits n) ∨ ∃ literal, value = .float literal := by
  cases text with
  | nil => cases h
  | cons c text =>
    unfold scanUnsigned at h
    dsimp only at h
    split at h
    · next hc =>
      split at h
      · split at h
        · cases h
        · next hshort =>
          have hvalue := digitsValue_lt (integerDigits_isDigit hc text)
          have hlength : 0 < (integerDigits c text).1.length := by
            unfold integerDigits
            split <;> exact Nat.succ_pos _
          have hdigits := Nat.toDigits_length 10 _ _ hlength hvalue
          refine .inl ⟨_, (Prod.mk.inj (Except.ok.inj h)).1.symm, ?_⟩
          have habs : (if negative = true then -(digitsValue (integerDigits c text).1 : ℤ)
              else digitsValue (integerDigits c text).1).natAbs
                = digitsValue (integerDigits c text).1 := by
            split
            · exact Int.natAbs_neg _
            · rfl
          rw [Printable, habs]
          omega
      · cases h
        exact .inr ⟨_, rfl⟩
    · cases h

theorem scanNumber_value {maxStrDigits : ℕ} {text rest : PyStr} {value : PyJson}
    (h : scanNumber maxStrDigits text = .ok (value, rest)) :
    (∃ n, value = .int n ∧ Printable maxStrDigits n) ∨ ∃ literal, value = .float literal := by
  unfold scanNumber at h
  split at h <;> exact scanUnsigned_value h

theorem scanWord_value {text rest : PyStr} {value : PyJson}
    (h : scanWord text = some (value, rest)) :
    (∀ n, value ≠ .int n) ∧ ∀ fields, value ≠ .obj fields := by
  have hall : ∀ word ∈ words, (∀ n, word.2 ≠ .int n) ∧ ∀ fields, word.2 ≠ .obj fields := by
    simp only [words, List.forall_mem_cons, List.not_mem_nil, false_imp_iff, implies_true, and_true]
    exact ⟨⟨nofun, nofun⟩, ⟨nofun, nofun⟩, ⟨nofun, nofun⟩, ⟨nofun, nofun⟩, ⟨nofun, nofun⟩,
      ⟨nofun, nofun⟩⟩
  obtain ⟨word, hmem, hfound⟩ := List.exists_of_findSome?_eq_some h
  obtain ⟨rest', -, heq⟩ := Option.map_eq_some_iff.mp hfound
  cases heq
  exact hall word hmem

/-- A word or a number is no object, and an integer among them can be printed. -/
theorem scanAtom_value {maxStrDigits : ℕ} {text : PyStr} {s : Scanned PyJson text}
    (h : scanAtom maxStrDigits text = .ok s) :
    (∀ n, s.value = .int n → Printable maxStrDigits n) ∧ ∀ fields, s.value ≠ .obj fields := by
  unfold scanAtom at h
  split at h
  · next hword =>
    cases h
    obtain ⟨hint, hobj⟩ := scanWord_value hword
    exact ⟨fun n hn => absurd hn (hint n), hobj⟩
  · split at h
    · cases h
    · next hnumber =>
      cases h
      rcases scanNumber_value hnumber with ⟨n, rfl, hn⟩ | ⟨literal, rfl⟩
      · exact ⟨fun m hm => by cases hm; exact hn, nofun⟩
      · exact ⟨nofun, nofun⟩

/-- An integer at the front of a text can be printed. -/
theorem scanValue_int {maxStrDigits nesting : ℕ} {text : PyStr} {s : Scanned PyJson text} {n : ℤ}
    (h : scanValue maxStrDigits nesting text = .ok s) (hn : s.value = .int n) :
    Printable maxStrDigits n := by
  have hmap : ∀ {α : Type} {text' : PyStr} {r : Except JsonFault (Scanned α text')}
      {f : Scanned α text' → Scanned PyJson text}, r.map f = .ok s → (∀ t, (f t).value ≠ .int n) →
      False := by
    intro α text' r f hr hf
    cases r with
    | error e => cases hr
    | ok t =>
      cases hr
      exact hf t hn
  cases text with
  | nil => cases nesting <;> cases h
  | cons c text =>
    rw [scanValue.eq_def] at h
    dsimp only at h
    split at h
    · exact (hmap h fun _ => nofun).elim
    split at h
    · split at h
      · cases h
      · exact (hmap h fun _ => nofun).elim
    split at h
    · split at h
      · cases h
      · exact (hmap h fun _ => nofun).elim
    exact (scanAtom_value h).1 n hn

theorem mem_setField {fields : List (PyStr × PyJson)} {key : PyStr} {value : PyJson}
    {field : PyStr × PyJson} (h : field ∈ setField fields key value) :
    field ∈ fields ∨ field = (key, value) := by
  unfold setField at h
  split at h
  · obtain ⟨field', hmem, heq⟩ := List.mem_map.mp h
    split at heq
    · exact .inr heq.symm
    · exact .inl (heq ▸ hmem)
  · exact (List.mem_append.mp h).imp id List.mem_singleton.mp

theorem scanMember_value {scan : Scanner PyJson} {text : PyStr} {s : Scanned (PyStr × PyJson) text}
    (h : scanMember scan text = .ok s) : ∃ text' s', scan text' = .ok s' ∧ s'.value = s.value.2 := by
  unfold scanMember at h
  split at h
  · cases h
  · split at h
    · cases h
    · split at h
      · split at h
        · cases h
        · next hvalue =>
          cases h
          exact ⟨_, _, hvalue, rfl⟩
      · cases h

/-- What holds of every value read holds of every field of an object. -/
theorem scanMembers_forall {scan : Scanner PyJson} (P : PyJson → Prop)
    (hscan : ∀ text s, scan text = .ok s → P s.value) {fields : List (PyStr × PyJson)}
    {text : PyStr} {s : Scanned (List (PyStr × PyJson)) text} (hfields : ∀ field ∈ fields, P field.2)
    (h : scanMembers scan fields text = .ok s) : ∀ field ∈ s.value, P field.2 := by
  induction hlength : text.length using Nat.strong_induction_on generalizing text fields with
  | _ length ih =>
    unfold scanMembers at h
    split at h
    · cases h
    · next key value rest hshorter hmember =>
      obtain ⟨text', s', hread, hvalue⟩ := scanMember_value hmember
      have hset : ∀ field ∈ setField fields key value, P field.2 := by
        intro field hfield
        rcases mem_setField hfield with hold | rfl
        · exact hfields field hold
        · exact hvalue ▸ hscan text' s' hread
      split at h
      · cases h
      · next c next hrest =>
        have hnext : (skipBlanks next).length < text.length := by
          have hblank := length_skipBlanks next
          have hskip := length_skipBlanks rest
          rw [hrest, List.length_cons] at hskip
          omega
        dsimp only at h
        split at h
        · cases h
          exact hset
        · split at h
          · split at h
            · cases h
            · next hlater =>
              cases h
              have htail := ih _ (hlength ▸ hnext) hset hlater rfl
              exact htail
          · cases h

/-- An object at the front of a text has the fields its members give. -/
theorem scanValue_obj {maxStrDigits nesting : ℕ} {text : PyStr} {s : Scanned PyJson text}
    {fields : List (PyStr × PyJson)} (h : scanValue maxStrDigits nesting text = .ok s)
    (hobj : s.value = .obj fields) : ∃ nesting' text' s',
      scanContents 0x7D [] (scanMembers (scanValue maxStrDigits nesting') []) text' = .ok s' ∧
        s'.value = fields := by
  cases text with
  | nil => cases nesting <;> cases h
  | cons c text =>
    rw [scanValue.eq_def] at h
    dsimp only at h
    split at h
    · cases hstring : scanString (c :: text) with
      | error e =>
        rw [hstring] at h
        cases h
      | ok t =>
        rw [hstring] at h
        cases h
        cases hobj
    split at h
    · split at h
      · cases h
      · next nesting =>
        cases hcontents : scanContents 0x7D [] (scanMembers (scanValue maxStrDigits nesting) [])
            text with
        | error e =>
          rw [hcontents] at h
          cases h
        | ok t =>
          rw [hcontents] at h
          cases h
          cases hobj
          exact ⟨nesting, text, t, hcontents, rfl⟩
    split at h
    · split at h
      · cases h
      · next nesting =>
        cases hcontents : scanContents 0x5D [] (scanElements (scanValue maxStrDigits nesting))
            text with
        | error e =>
          rw [hcontents] at h
          cases h
        | ok t =>
          rw [hcontents] at h
          cases h
          cases hobj
    · exact absurd hobj ((scanAtom_value h).2 fields)

/-- Every integer that is a field of an object read can be printed again. -/
theorem loads_obj_int {limits : JsonLimits} {text : PyStr} {fields : List (PyStr × PyJson)}
    (h : loads limits text = .ok (.obj fields)) :
    ∀ field ∈ fields, ∀ n, field.2 = .int n → Printable limits.maxStrDigits n := by
  unfold loads at h
  split at h
  · cases h
  split at h
  · cases h
  next s hscan =>
  split at h
  · obtain ⟨nesting, text', contents, hcontents, rfl⟩ := scanValue_obj hscan (Except.ok.inj h)
    unfold scanContents at hcontents
    split at hcontents
    · cases hcontents
    split at hcontents
    · cases hcontents
      nofun
    split at hcontents
    · cases hcontents
    · next hmembers =>
      cases hcontents
      have hvalues : ∀ text s, scanValue limits.maxStrDigits nesting text = .ok s →
          ∀ n, s.value = .int n → Printable limits.maxStrDigits n :=
        fun _ _ hvalue n hn => scanValue_int hvalue hn
      have hall := scanMembers_forall (fun value => ∀ n, value = .int n → Printable _ n) hvalues
        (List.forall_mem_nil _) hmembers
      exact hall
  · cases h

end PyJson

/-- A field of a dictionary. -/
def getField (fields : List (PyStr × PyJson)) (key : String) : Option PyJson :=
  fields.findSome? fun field => if field.1 = codePoints key.toList then some field.2 else none
