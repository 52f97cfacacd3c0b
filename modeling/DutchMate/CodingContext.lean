/-
# The source context a caller gives

`coding_context.py` checks the excerpts of a caller's context without reading a source path: a diff
must hold the hunks that it declares, and any other excerpt as many lines as its range.
-/
import DutchMate.Diagnostics
import DutchMate.LogReplay
import DutchMate.Patterns
import Mathlib.Data.List.Lex
import Mathlib.Data.List.Sort
import Mathlib.Order.Nat

open PyJson Diagnostics
open LogReplay (hasKeys isString)

namespace CodingContext

structure CodingContextLimits where
  excerptLines : ℕ := 200
  excerptBytes : ℕ := 16384
  identifierBytes : ℕ := 256
  pathBytes : ℕ := 1024

/-- A `ValueError` with its text, with the names of missing and unknown fields, or that of `int` for
a numeral of too many digits. -/
inductive ContextFault where
  | value (detail : String)
  | fields (field : String) (names : List PyStr)
  | digitLimit
  deriving DecidableEq, Repr

abbrev Validated (α : Type) := Except ContextFault α

/-- The interpreter's tables of characters and its limit on the digits of an integer. -/
structure Interpreter where
  /-- The value of a decimal digit of any script. -/
  decimal : ℕ → Option ℕ
  /-- `\w`. -/
  isWord : ℕ → Bool
  /-- `str.lower`. -/
  lower : PyStr → PyStr
  maxStrDigits : ℕ
  decimal_ascii : ∀ c < 0x80, decimal c = if PyJson.isDigit c then some (c - 0x30) else none
  lower_ascii : ∀ s : PyStr, (∀ c ∈ s, c < 0x80) →
    lower s = s.map fun c => if 0x41 ≤ c ∧ c ≤ 0x5A then c + 0x20 else c

/-! ## Secrets -/

/-- The lower case of a letter that a pattern of ASCII letters matches when case is ignored. -/
def foldCase (c : ℕ) : ℕ :=
  if 0x41 ≤ c ∧ c ≤ 0x5A then c + 0x20
  else if c = 0x130 ∨ c = 0x131 then 0x69
  else if c = 0x17F then 0x73
  else if c = 0x212A then 0x6B
  else c

def isLetter (c : ℕ) : Bool := 0x61 ≤ foldCase c && foldCase c ≤ 0x7A

def literal (word : String) : Pattern ℕ :=
  .all ((py word).map fun l => .one fun c => foldCase c = foldCase l)

def anyOf (letters : String) : ℕ → Bool := fun c => c ∈ py letters

def isQuote : ℕ → Bool := anyOf "'\""

def privateKey : Pattern ℕ :=
  .all [literal "-----BEGIN ",
    .optional (.seq (.many (fun c => isLetter c || c = 0x20) 0) (literal " ")),
    literal "PRIVATE KEY-----"]

def accessKey (isWord : ℕ → Bool) : Pattern ℕ :=
  .all [.boundary isWord, .either (literal "AKIA") (literal "ASIA"),
    .times 16 (.one fun c => isLetter c || PyJson.isDigit c), .boundary isWord]

def hostToken (isWord : ℕ → Bool) : Pattern ℕ :=
  .all [.boundary isWord,
    .oneOf (literal "ghp") [literal "gho", literal "ghu", literal "ghs", literal "ghr"],
    literal "_", .many (fun c => isLetter c || PyJson.isDigit c || c = 0x5F) 20, .boundary isWord]

def serviceKey (isWord : ℕ → Bool) : Pattern ℕ :=
  .all [.boundary isWord, literal "sk-",
    .many (fun c => isLetter c || PyJson.isDigit c || c = 0x5F || c = 0x2D) 16, .boundary isWord]

/-- Two words with a dash or an underscore between them, or nothing. -/
def joined (first second : String) : Pattern ℕ :=
  .all [literal first, .optional (.one (anyOf "_-")), literal second]

def assignment (isWord : ℕ → Bool) : Pattern ℕ :=
  .all [.boundary isWord,
    .oneOf (joined "api" "key")
      [joined "access" "token", joined "secret" "key", literal "password",
        joined "client" "secret"],
    .many isSpaceCode 0, .one (anyOf "=:"), .many isSpaceCode 0, .optional (.one isQuote),
    .many (fun c => !isSpaceCode c && !isQuote c) 8]

/-- `_SECRET`. -/
def secret (isWord : ℕ → Bool) : Pattern ℕ :=
  .oneOf privateKey
    [accessKey isWord, hostToken isWord, serviceKey isWord, assignment isWord]

/-! ## Fields -/

/-- `_mapping`; the names are those missing and those unknown, in order. -/
def mapping (value : PyJson) (field : String) (required optional : List String) :
    Validated Payload :=
  match value with
  | .obj fields =>
    let missing := (required.filter fun name => (getField fields name).isNone).map py
    let unknown := (fields.map Prod.fst).filter fun key => !isOneOf key (required ++ optional)
    if missing = [] ∧ unknown = [] then .ok fields
    else .error (.fields field ((missing ++ unknown).dedup.insertionSort (· ≤ ·)))
  | _ => .error (.value (field ++ " must be an object"))

def sequence (value : PyJson) (field : String) (maximum : ℕ) (nonempty : Bool) :
    Validated (List PyJson) :=
  let fault := ContextFault.value
    (field ++ " must be a list with " ++ (if nonempty then "1" else "0") ++ ".." ++
      toString maximum ++ " entries")
  match value with
  | .arr items => if maximum < items.length ∨ (nonempty ∧ items = []) then .error fault else .ok items
  | _ => .error fault

/-- `_text`. -/
def text (interpreter : Interpreter) (value : Option PyJson) (field : String) (maximum : ℕ) :
    Validated PyStr :=
  match value with
  | some (.str s) =>
    if s.all isSpaceCode then .error (.value (field ++ " must be nonempty text"))
    else
      match strEncode s with
      | none => .error (.value (field ++ " is not UTF-8 text"))
      | some encoded =>
        if maximum < encoded.length ∨
            s.any (fun c => (c < 0x20 && c != 0x0A && c != 0x09) || (0x7F ≤ c && c ≤ 0x9F)) then
          .error (.value (field ++ " exceeds its text limit or contains binary/control data"))
        else if (secret interpreter.isWord).found s then
          .error (.value (field ++ " contains known secret material"))
        else .ok s
  | _ => .error (.value (field ++ " must be nonempty text"))

def sensitiveNames : List String :=
  [".env", ".npmrc", ".pypirc", "credentials", "credentials.json", "kubeconfig", "id_rsa",
    "id_ed25519", "id_ecdsa", "id_dsa", "secrets.json", "secrets.yaml", "secrets.yml",
    "service-account.json"]

def sensitiveDirs : List String :=
  [".git", ".ssh", ".aws", "secrets", "credentials", "private_keys"]

def sensitiveSuffixes : List String := [".pem", ".key", ".p12", ".pfx", ".jks", ".keystore"]

def sensitiveStarts : List String := [".env.", "credentials.", "secret.", "secrets."]

/-- `_path`. -/
def path (interpreter : Interpreter) (value : Option PyJson) (field : String)
    (limits : CodingContextLimits) : Validated PyStr := do
  let path ← text interpreter value field limits.pathBytes
  let parts := path.splitOn 0x2F
  let lowered := parts.map interpreter.lower
  let name := lowered.getLastD []
  if path.head? = some 0x2F ∨ 0x5C ∈ path ∨ 0x3A ∈ path ∨
      parts.any (fun part => isOneOf part ["", ".", ".."]) ∨
      0x0A ∈ path ∨ 0x09 ∈ path ∨
      lowered.dropLast.any (fun part => isOneOf part sensitiveDirs) ∨
      isOneOf name sensitiveNames ∨
      sensitiveStarts.any (fun start => (py start).isPrefixOf name) ∨
      sensitiveSuffixes.any (fun suffix => (py suffix).isSuffixOf name) then
    .error (.value (field ++ " must be a safe repository-relative path"))
  else .ok path

def isHexDigit (c : ℕ) : Bool :=
  PyJson.isDigit c || (0x41 ≤ c && c ≤ 0x46) || (0x61 ≤ c && c ≤ 0x66)

def commit (value : Option PyJson) (field : String) : Validated PyStr :=
  match value with
  | some (.str s) =>
    if 7 ≤ s.length ∧ s.length ≤ 64 ∧ s.all isHexDigit then .ok s
    else .error (.value (field ++ " must be a Git commit identifier"))
  | _ => .error (.value (field ++ " must be a Git commit identifier"))

def positive (value : Option PyJson) (field : String) (allowZero : Bool) : Validated ℕ :=
  let fault := ContextFault.value
    (field ++ if allowZero then " must be a nonnegative integer" else " must be a positive integer")
  match value with
  | some (.int (.ofNat n)) => if n < (if allowZero then 0 else 1) then .error fault else .ok n
  | _ => .error fault

/-! ## Hunks -/

structure DiffHunk where
  oldStart : ℕ
  oldCount : ℕ
  newStart : ℕ
  newCount : ℕ
  deriving DecidableEq, Repr

def hunkFields : List String := ["old_start", "old_count", "new_start", "new_count"]

def declaredHunk (entry : PyJson) : Validated DiffHunk := do
  let item ← mapping entry "excerpts.hunks" hunkFields []
  let oldStart ← positive (getField item "old_start") "old_start" true
  let oldCount ← positive (getField item "old_count") "old_count" true
  let newStart ← positive (getField item "new_start") "new_start" true
  let newCount ← positive (getField item "new_count") "new_count" true
  .ok ⟨oldStart, oldCount, newStart, newCount⟩

/-- The line boundaries of `str.splitlines`. -/
def isLineBreak (c : ℕ) : Bool :=
  (0x0A ≤ c && c ≤ 0x0D) || (0x1C ≤ c && c ≤ 0x1E) || c = 0x85 || c = 0x2028 || c = 0x2029

/-- `str.splitlines`, with the characters of the line so far. -/
def splitlinesFrom : PyStr → PyStr → List PyStr
  | [], [] => []
  | line, [] => [line]
  | line, 0x0D :: 0x0A :: rest => line :: splitlinesFrom [] rest
  | line, c :: rest =>
    if isLineBreak c then line :: splitlinesFrom [] rest else splitlinesFrom (line ++ [c]) rest

def splitlines (text : PyStr) : List PyStr := splitlinesFrom [] text

/-- The groups of `_HUNK`. -/
structure HunkMatch where
  oldStart : PyStr
  oldCount : Option PyStr
  newStart : PyStr
  newCount : Option PyStr

/-- `\d+`, and what follows. -/
def digitsAt (interpreter : Interpreter) (line : PyStr) : Option (PyStr × PyStr) :=
  let digits := line.takeWhile fun c => (interpreter.decimal c).isSome
  if digits = [] then none else some (digits, line.drop digits.length)

/-- `(?:,(\d+))?`, and what follows. -/
def countAt (interpreter : Interpreter) (line : PyStr) : Option PyStr × PyStr :=
  match line with
  | 0x2C :: rest =>
    match digitsAt interpreter rest with
    | some (digits, rest) => (some digits, rest)
    | none => (none, line)
  | _ => (none, line)

/-- `_HUNK.fullmatch`. -/
def hunkMatch (interpreter : Interpreter) (line : PyStr) : Option HunkMatch := do
  let line ← afterWord (py "@@ -") line
  let (oldStart, line) ← digitsAt interpreter line
  let (oldCount, line) := countAt interpreter line
  let line ← afterWord (py " +") line
  let (newStart, line) ← digitsAt interpreter line
  let (newCount, line) := countAt interpreter line
  let line ← afterWord (py " @@") line
  if 0x0A ∈ line then none else some ⟨oldStart, oldCount, newStart, newCount⟩

def decimalValue (interpreter : Interpreter) (digits : PyStr) : ℕ :=
  digits.foldl (fun n c => n * 10 + (interpreter.decimal c).getD 0) 0

/-- `int` of a run of decimal digits. -/
def toInt (interpreter : Interpreter) (digits : PyStr) : Validated ℕ :=
  if interpreter.maxStrDigits < digits.length then .error .digitLimit
  else .ok (decimalValue interpreter digits)

def toCount (interpreter : Interpreter) : Option PyStr → Validated ℕ
  | none => .ok 1
  | some digits => toInt interpreter digits

def hunkOf (interpreter : Interpreter) (m : HunkMatch) : Validated DiffHunk := do
  let oldStart ← toInt interpreter m.oldStart
  let oldCount ← toCount interpreter m.oldCount
  let newStart ← toInt interpreter m.newStart
  let newCount ← toCount interpreter m.newCount
  .ok ⟨oldStart, oldCount, newStart, newCount⟩

/-- Whether a hunk is open and its body has other counts than its header. -/
def disagrees (active : Option DiffHunk) (oldLineCount newLineCount : ℕ) : Bool :=
  active.any fun hunk => (oldLineCount, newLineCount) != (hunk.oldCount, hunk.newCount)

def bodyFault : ContextFault := .value "diff hunk body disagrees with ranges"

/-- The loop over the lines of a diff. -/
def parseHunks (interpreter : Interpreter) :
    List PyStr → Option DiffHunk → ℕ → ℕ → List DiffHunk → Validated (List DiffHunk)
  | [], active, oldLineCount, newLineCount, parsed =>
    if disagrees active oldLineCount newLineCount then .error bodyFault else .ok parsed
  | line :: lines, active, oldLineCount, newLineCount, parsed =>
    if (py "@@").isPrefixOf line then
      if disagrees active oldLineCount newLineCount then .error bodyFault
      else
        match hunkMatch interpreter line with
        | none => .error (.value "diff hunk header is malformed")
        | some m => do
          let hunk ← hunkOf interpreter m
          parseHunks interpreter lines (some hunk) 0 0 (parsed ++ [hunk])
    else if active = none ∨ line.head? = some 0x5C then
      parseHunks interpreter lines active oldLineCount newLineCount parsed
    else if line.head? = some 0x20 then
      parseHunks interpreter lines active (oldLineCount + 1) (newLineCount + 1) parsed
    else if line.head? = some 0x2D then
      parseHunks interpreter lines active (oldLineCount + 1) newLineCount parsed
    else if line.head? = some 0x2B then
      parseHunks interpreter lines active oldLineCount (newLineCount + 1) parsed
    else .error (.value "diff hunk body contains an invalid line")

/-- `_diff_hunks`. -/
def diffHunks (interpreter : Interpreter) (text : PyStr) (raw : PyJson)
    (limits : CodingContextLimits) : Validated (List DiffHunk) := do
  let entries ← sequence raw "excerpts.hunks" limits.excerptLines true
  let hunks ← entries.mapM declaredHunk
  let parsed ← parseHunks interpreter (splitlines text) none 0 0 []
  if parsed ≠ hunks then .error (.value "diff hunk ranges disagree with text") else .ok hunks

/-! ## Excerpts -/

inductive ExcerptKind where
  | source
  | configuration
  | diff
  deriving DecidableEq, Repr

structure ContextExcerpt where
  kind : ExcerptKind
  path : PyStr
  text : PyStr
  commit : Option PyStr := none
  startLine : Option ℕ := none
  endLine : Option ℕ := none
  language : Option PyStr := none
  baseCommit : Option PyStr := none
  headCommit : Option PyStr := none
  hunks : List DiffHunk := []

def excerptKind (value : Option PyJson) : Validated ExcerptKind :=
  if isString value (py "source") then .ok .source
  else if isString value (py "configuration") then .ok .configuration
  else if isString value (py "diff") then .ok .diff
  else .error (.value "excerpts.kind is unsupported")

def diffFields : List String := ["kind", "path", "text", "base_commit", "head_commit", "hunks"]

def sourceFields : List String := ["kind", "path", "text", "commit", "start_line", "end_line"]

def excerptLanguage (interpreter : Interpreter) (item : Payload) (limits : CodingContextLimits) :
    Validated (Option PyStr) :=
  match getField item "language" with
  | none | some .null => .ok none
  | language => do
    let language ← text interpreter language "language" limits.identifierBytes
    .ok (some language)

/-- `_excerpt`. -/
def excerpt (interpreter : Interpreter) (value : PyJson) (limits : CodingContextLimits) :
    Validated ContextExcerpt := do
  let item ← mapping value "excerpts" ["kind", "path", "text"]
    ["commit", "start_line", "end_line", "language", "base_commit", "head_commit", "hunks"]
  let kind ← excerptKind (getField item "kind")
  let path ← path interpreter (getField item "path") "excerpts.path" limits
  let text ← text interpreter (getField item "text") "excerpts.text" limits.excerptBytes
  let lines := (splitlines text).length
  if limits.excerptLines < lines then .error (.value "excerpts.text exceeds line limit")
  else if kind = .diff then
    if !hasKeys diffFields item then
      .error (.value "diff excerpt requires base/head commit and hunk provenance")
    else do
      let baseCommit ← commit (getField item "base_commit") "base_commit"
      let headCommit ← commit (getField item "head_commit") "head_commit"
      let hunks ← diffHunks interpreter text ((getField item "hunks").getD .null) limits
      .ok { kind, path, text, baseCommit := some baseCommit, headCommit := some headCommit, hunks }
  else if !hasKeys sourceFields item && !hasKeys (sourceFields ++ ["language"]) item then
    .error (.value "source/configuration excerpt requires commit and line provenance")
  else do
    let start ← positive (getField item "start_line") "start_line" false
    let last ← positive (getField item "end_line") "end_line" false
    if last < start ∨ limits.excerptLines < last - start + 1 ∨ lines ≠ last - start + 1 then
      .error (.value "excerpts line provenance is invalid")
    else
      let commit ← commit (getField item "commit") "commit"
      let language ← excerptLanguage interpreter item limits
      .ok
        { kind, path, text, commit := some commit, startLine := some start, endLine := some last,
          language }

end CodingContext
