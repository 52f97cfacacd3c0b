/-
# Listing sessions page by page

`list_session_page` reads the session root, keeps the sessions below the cursor's boundary
and returns the newest of them with a cursor for the rest.  The cursor is the last key of
the page, `(started_at, session_id)`, as base64 of a JSON text.  The encoder takes any key;
the decoder refuses a cursor of more than 1024 bytes and an id that is no session id, so
`CursorFits` says of which keys the next call accepts the cursor.
-/
import DutchMate.Base64
import DutchMate.Keyset
import DutchMate.PythonJson
import Mathlib.Data.List.DropRight
import Mathlib.Data.List.Lex
import Mathlib.Data.Prod.Lex

open PyJson

/-- What the standard library decides for a session list: the limits of `json.loads`, which
texts `datetime.fromisoformat` reads with a UTC offset, and which float literals equal 1. -/
structure Interpreter where
  limits : JsonLimits
  fromIsoformat : PyStr → Bool
  floatIsOne : PyStr → Bool

/-- A string that `json.loads` gave: every pair of surrogates in it is joined. -/
structure JsonText where
  text : PyStr
  range : ∀ c ∈ text, c < 0x110000
  joined : ¬SplitsPair text

/-! ## Session ids and keys -/

/-- `str.strip`. -/
def strip (s : PyStr) : PyStr := (s.dropWhile isSpaceCode).rdropWhile isSpaceCode

/-- An exact path-safe session identifier. -/
def validateSessionId (id : PyStr) : Bool :=
  id ≠ [] && strip id = id && id ≠ [0x2E] && id ≠ [0x2E, 0x2E] && 0x2F ∉ id && 0x5C ∉ id

/-- Where a session stands in the list: by its start, then by its id. -/
abbrev SessionKey := PyStr ×ₗ PyStr

def SessionKey.mk (startedAt sessionId : PyStr) : SessionKey := toLex (startedAt, sessionId)

def SessionKey.startedAt (key : SessionKey) : PyStr := (ofLex key).1

def SessionKey.sessionId (key : SessionKey) : PyStr := (ofLex key).2

/-! ## Cursors -/

def cursorVersion : ℕ := 1

def maxCursorBytes : ℕ := 1024

/-- The JSON text of a cursor, its keys sorted. -/
def cursorPayload (boundary : SessionKey) : List Char :=
  '{' :: (strLiteral (codePoints "session_id".toList) ++ ':' :: (strLiteral boundary.sessionId ++
    ',' :: (strLiteral (codePoints "started_at".toList) ++ ':' ::
      (strLiteral boundary.startedAt ++
        ',' :: (strLiteral (codePoints "v".toList) ++ ':' :: (Nat.toDigits 10 cursorVersion ++
          ['}']))))))

/-- The URL-safe letter of a base64 letter. -/
def urlsafe (c : Char) : Char := if c = '+' then '-' else if c = '/' then '_' else c

/-- The base64 letter of a URL-safe one. -/
def unUrlsafe (c : Char) : Char := if c = '-' then '+' else if c = '_' then '/' else c

def encodeCursor (boundary : SessionKey) : PyStr :=
  let payload := (cursorPayload boundary).map fun c => c.toNat.toUInt8
  codePoints (((Base64.encode payload).map urlsafe).rdropWhile (· = '='))

/-- What a call for a page raises. -/
inductive PageFault where
  | input (detail : String)
  | json (fault : JsonFault)
  | query
  deriving DecidableEq, Repr

/-- Whether a value equals the cursor's version, as Python compares them. -/
def isCursorVersion (interp : Interpreter) : PyJson → Bool
  | .int n => n = cursorVersion
  | .bool b => b
  | .float text => interp.floatIsOne text
  | _ => false

/-- Whether a dictionary has exactly these keys. -/
def hasKeys (fields : List (PyStr × PyJson)) (keys : List String) : Bool :=
  (fields.all fun field => keys.any fun key => field.1 = codePoints key.toList) &&
    keys.all fun key => fields.any fun field => field.1 = codePoints key.toList

/-- The boundary in a cursor's decoded payload. -/
def cursorBoundary (interp : Interpreter) (value : PyJson) : Except PageFault SessionKey :=
  match value with
  | .obj fields =>
    if !hasKeys fields ["v", "started_at", "session_id"] then
      .error (.input "session cursor payload is invalid")
    else if !(getField fields "v").any (isCursorVersion interp) then
      .error (.input "session cursor version is unsupported")
    else
      match getField fields "started_at", getField fields "session_id" with
      | some (.str startedAt), some (.str sessionId) =>
        if interp.fromIsoformat startedAt && validateSessionId sessionId then
          .ok (.mk startedAt sessionId)
        else .error (.input "session cursor boundary is invalid")
      | _, _ => .error (.input "session cursor boundary is invalid")
  | _ => .error (.input "session cursor payload is invalid")

def decodeCursor (interp : Interpreter) : Option PyStr → Except PageFault (Option SessionKey)
  | none => .ok none
  | some cursor =>
    if cursor = [] then .error (.input "session cursor must be a non-empty string")
    else if cursor.any (0x80 ≤ ·) then
      .error (.input "session cursor must be URL-safe ASCII")
    else if maxCursorBytes < cursor.length then .error (.input "session cursor is too large")
    else
      let padding := List.replicate ((4 - cursor.length % 4) % 4) '='
      match Base64.decode (((cursor.map Char.ofNat) ++ padding).map unUrlsafe) with
      | none => .error (.input "session cursor is invalid")
      | some decoded =>
        match Utf8.decode decoded with
        | none => .error (.input "session cursor is invalid")
        | some text =>
          match PyJson.loads interp.limits (codePoints text) with
          | .error .malformed => .error (.input "session cursor is invalid")
          | .error fault => .error (.json fault)
          | .ok value => (cursorBoundary interp value).map some

/-! ## The list -/

/-- What the list reads of a session's metadata: the schema version, the two fields of the
key, and whether every other field it projects is valid. -/
structure ListedMetadata where
  schemaVersion : Option ℕ
  sessionId : Option JsonText
  startedAt : Option JsonText
  valid : Bool

/-- An entry of the session root. -/
structure SessionEntry where
  name : PyStr
  isSymlink : Bool
  isDir : Bool
  metadata : Option ListedMetadata

/-- A string field that must be there and not be empty. -/
def requiredString : Option JsonText → Option PyStr
  | none => none
  | some s => if s.text = [] then none else some s.text

/-- The item of a session, by its key; `none` when its metadata is refused. -/
def listItem (interp : Interpreter) (name : PyStr) (metadata : ListedMetadata) :
    Option SessionKey := do
  let version ← metadata.schemaVersion
  let sessionId ← requiredString metadata.sessionId
  let startedAt ← requiredString metadata.startedAt
  if version ≤ 2 ∧ sessionId = name ∧ (version = 0 → validateSessionId sessionId) ∧
      interp.fromIsoformat startedAt ∧ metadata.valid then
    some (.mk startedAt sessionId)
  else none

/-- The session root: no directory yet, or entries of distinct names. -/
structure SessionRoot where
  entries : Option (List SessionEntry)
  nodup : ∀ es ∈ entries, (es.map SessionEntry.name).Nodup

/-- The metadata of an entry that is a session. -/
def SessionEntry.session (entry : SessionEntry) : Option ListedMetadata :=
  if entry.isSymlink || !entry.isDir then none else entry.metadata

/-- The items below a boundary, in the order of the directory. -/
def collectItems (interp : Interpreter) (boundary : Option SessionKey) :
    List SessionEntry → Except PageFault (List SessionKey)
  | [] => .ok []
  | entry :: entries =>
    match entry.session with
    | none => collectItems interp boundary entries
    | some metadata =>
      match listItem interp entry.name metadata with
      | none => .error .query
      | some key =>
        match collectItems interp boundary entries with
        | .error e => .error e
        | .ok items =>
          .ok (if boundary.all (fun b => decide (key < b)) then key :: items else items)

/-- A page of the list; an item is named by its key. -/
structure SessionListPage where
  items : List SessionKey
  nextCursor : Option PyStr

def maxSessionPageLimit : ℤ := 100

/-- One newest-first page of the sessions. -/
def listSessionPage (interp : Interpreter) (root : SessionRoot) (limit : ℤ)
    (cursor : Option PyStr) : Except PageFault SessionListPage := do
  if ¬(1 ≤ limit ∧ limit ≤ maxSessionPageLimit) then
    .error (.input "session limit must be an integer from 1 to 100")
  else
    let boundary ← decodeCursor interp cursor
    match root.entries with
    | none => .ok ⟨[], none⟩
    | some entries =>
      let items ← collectItems interp boundary entries
      let items := items.mergeSort (fun a b => decide (b ≤ a))
      let pageItems := items.take limit.toNat
      let nextCursor :=
        if limit.toNat < items.length then pageItems.getLast?.map encodeCursor else none
      .ok ⟨pageItems, nextCursor⟩

/-! ## The cursor round trip -/

/-- A key that the list can show: two strings of JSON, of which `started_at` is a timestamp. -/
structure Listable (interp : Interpreter) (key : SessionKey) : Prop where
  startedAt_range : ∀ c ∈ key.startedAt, c < 0x110000
  startedAt_joined : ¬SplitsPair key.startedAt
  startedAt_ne : key.startedAt ≠ []
  sessionId_range : ∀ c ∈ key.sessionId, c < 0x110000
  sessionId_joined : ¬SplitsPair key.sessionId
  sessionId_ne : key.sessionId ≠ []
  timestamp : interp.fromIsoformat key.startedAt = true

/-- Whether the next call accepts the cursor of a key: its JSON text is short enough, and its
id is a session id. -/
def CursorFits (key : SessionKey) : Prop :=
  (cursorPayload key).length ≤ 768 ∧ validateSessionId key.sessionId = true

theorem codePoints_append (s t : List Char) : codePoints (s ++ t) = codePoints s ++ codePoints t :=
  List.map_append

/-- The text of a cursor, literal by literal. -/
theorem codePoints_cursorPayload (boundary : SessionKey) :
    codePoints (cursorPayload boundary)
      = 0x7B :: literalThen (codePoints "session_id".toList) (0x3A :: literalThen boundary.sessionId
          (0x2C :: literalThen (codePoints "started_at".toList) (0x3A ::
            literalThen boundary.startedAt (0x2C :: literalThen (codePoints "v".toList)
              (0x3A :: 0x31 :: 0x7D :: []))))) := by
  have hcons : ∀ (c : Char) (s : List Char), codePoints (c :: s) = c.toNat :: codePoints s :=
    fun _ _ => rfl
  simp only [cursorPayload, hcons, codePoints_append, codePoints_strLiteral]
  rfl

/-- The fields a cursor's payload is read as. -/
def cursorFields (boundary : SessionKey) : List (PyStr × PyJson) :=
  [(codePoints "session_id".toList, .str boundary.sessionId),
    (codePoints "started_at".toList, .str boundary.startedAt),
    (codePoints "v".toList, .int 1)]

theorem literalThen_noBlank (s rest : PyStr) : skipBlanks (literalThen s rest) = literalThen s rest :=
  skipBlanks_cons (by decide) _

section
variable {interp : Interpreter} {key : SessionKey}

theorem read_literal_member {scan : Scanner PyJson} {name s rest : PyStr} {maxStrDigits nesting : ℕ}
    (hscan : scan = scanValue maxStrDigits nesting) (hname : ∀ c ∈ name, c < 0x80)
    (hrange : ∀ c ∈ s, c < 0x110000) (hjoined : ¬SplitsPair s) :
    read (scanMember scan (literalThen name (0x3A :: literalThen s rest)))
      = .ok ((name, .str s), rest) := by
  subst hscan
  refine read_scanMember (read_scanString _ (fun c hc => (hname c hc).trans (by decide))
    (not_splitsPair_of_lt fun c hc => (hname c hc).trans (by decide))) ?_
  rw [literalThen_noBlank]
  exact read_scanValue_str _ _ hrange hjoined

/-- A cursor's payload is read as its fields. -/
theorem loads_cursorPayload (h : Listable interp key) :
    loads interp.limits (codePoints (cursorPayload key)) = .ok (.obj (cursorFields key)) := by
  obtain ⟨nesting, hnesting⟩ : ∃ n, interp.limits.nesting = n + 1 :=
    ⟨_, (Nat.succ_pred_eq_of_pos interp.limits.nesting_pos).symm⟩
  have hid : ∀ c ∈ codePoints "session_id".toList, c < 0x80 := by decide
  have hstart : ∀ c ∈ codePoints "started_at".toList, c < 0x80 := by decide
  have hv : ∀ c ∈ codePoints "v".toList, c < 0x80 := by decide
  have hversion : read (scanMember (scanValue interp.limits.maxStrDigits nesting)
      (literalThen (codePoints "v".toList) (0x3A :: 0x31 :: 0x7D :: [])))
      = .ok ((codePoints "v".toList, .int 1), 0x7D :: []) :=
    read_scanMember (read_scanString _ (fun c hc => (hv c hc).trans (by decide))
      (not_splitsPair_of_lt fun c hc => (hv c hc).trans (by decide)))
      (read_scanValue_digit nesting (by decide) (.inl rfl) interp.limits.maxStrDigits_pos _)
  have hmembers : read (scanMembers (scanValue interp.limits.maxStrDigits nesting) []
      (skipBlanks (codePoints (cursorPayload key)).tail)) = .ok (cursorFields key, []) := by
    rw [codePoints_cursorPayload, List.tail_cons, literalThen_noBlank,
      read_scanMembers_next (read_literal_member rfl hid h.sessionId_range h.sessionId_joined),
      literalThen_noBlank,
      read_scanMembers_next (read_literal_member rfl hstart h.startedAt_range h.startedAt_joined),
      literalThen_noBlank, read_scanMembers_last hversion]
    rfl
  have hvalue : read (scanValue interp.limits.maxStrDigits interp.limits.nesting
      (codePoints (cursorPayload key))) = .ok (.obj (cursorFields key), []) := by
    rw [hnesting]
    refine read_scanValue_obj ?_ hmembers
    change (skipBlanks (codePoints (cursorPayload key)).tail).head? ≠ _
    rw [codePoints_cursorPayload, List.tail_cons, literalThen_noBlank]
    exact fun heq => absurd (Option.some.inj heq) (by decide)
  have hblank : skipBlanks (codePoints (cursorPayload key)) = codePoints (cursorPayload key) :=
    skipBlanks_cons (by decide) _
  refine loads_of_read (fun heq => ?_) (hblank.symm ▸ hvalue) rfl
  exact absurd (Option.some.inj heq) (by decide)

theorem forall_ascii {s : List Char} (h : (s.all fun c => c.toNat < 0x80) = true) :
    ∀ c ∈ s, c.toNat < 0x80 := fun c hc => of_decide_eq_true (List.all_eq_true.mp h c hc)

theorem escapeUnit_ascii (n : ℕ) : ∀ c ∈ Json.escapeUnit n, c.toNat < 0x80 := by
  have hdigit : ∀ d : Fin 16, (Nat.digitChar d).toNat < 0x80 := by decide
  have hmod : ∀ m, (Nat.digitChar (m % 16)).toNat < 0x80 := fun m =>
    hdigit ⟨m % 16, Nat.mod_lt _ (by decide)⟩
  simp only [Json.escapeUnit, Json.hexDigits, List.nil_append, List.cons_append, List.forall_mem_cons,
    List.not_mem_nil, false_imp_iff, implies_true, and_true]
  exact ⟨by decide, by decide, hmod _, hmod _, hmod _, hmod _⟩

theorem escapeCode_ascii (n : ℕ) : ∀ c ∈ escapeCode n, c.toNat < 0x80 := by
  unfold escapeCode
  split
  · unfold Json.escapeChar
    split_ifs with _ _ _ _ _ _ _ hplain hbasic
    iterate 7 exact forall_ascii (by decide)
    · simp only [List.mem_singleton, forall_eq]
      omega
    · exact escapeUnit_ascii _
    · intro c hc
      exact (List.mem_append.mp hc).elim (escapeUnit_ascii _ c) (escapeUnit_ascii _ c)
  · exact escapeUnit_ascii n

theorem strLiteral_ascii (s : PyStr) : ∀ c ∈ strLiteral s, c.toNat < 0x80 := by
  intro c hc
  simp only [strLiteral, List.mem_cons, List.mem_append, List.mem_flatMap, List.not_mem_nil,
    or_false] at hc
  rcases hc with rfl | ⟨n, -, hn⟩ | rfl
  · decide
  · exact escapeCode_ascii n c hn
  · decide

/-- The payload of a cursor is ASCII. -/
theorem cursorPayload_ascii (key : SessionKey) : ∀ c ∈ cursorPayload key, c.toNat < 0x80 := by
  intro c hc
  simp only [cursorPayload, List.mem_cons, List.mem_append, List.not_mem_nil, or_false] at hc
  rcases hc with rfl | h | rfl | h | rfl | h | rfl | h | rfl | h | rfl | h | rfl
  all_goals first | decide | exact strLiteral_ascii _ c h | exact forall_ascii (by decide) c h

/-- Stripping padding from the right leaves the letters. -/
theorem rdropWhile_padding {body : List Char} (h : ∀ c ∈ body, c ≠ '=') (k : ℕ) :
    (body ++ List.replicate k '=').rdropWhile (· = '=') = body := by
  rw [List.rdropWhile, List.reverse_append, List.dropWhile_append_of_pos (by simp),
    List.dropWhile_eq_self_iff.mpr, List.reverse_reverse]
  intro hpos
  simpa using h _ (List.mem_reverse.mp (List.getElem_mem hpos))

/-- The letters of base64 are ASCII, survive the URL-safe form and are no padding. -/
theorem urlsafe_letter {n : ℕ} (h : n < 64) : urlsafe (Base64.letter n) ≠ '=' ∧
    (urlsafe (Base64.letter n)).toNat < 0x80 ∧
    unUrlsafe (urlsafe (Base64.letter n)) = Base64.letter n := by
  have hall : ∀ n : Fin 64, urlsafe (Base64.letter n) ≠ '=' ∧
      (urlsafe (Base64.letter n)).toNat < 0x80 ∧
      unUrlsafe (urlsafe (Base64.letter n)) = Base64.letter n := by decide +kernel
  exact hall ⟨n, h⟩

/-- The bytes of a cursor's payload. -/
def cursorBytes (key : SessionKey) : List UInt8 :=
  (cursorPayload key).map fun c => c.toNat.toUInt8

/-- A cursor is the letters of its payload, and its padding can be put back. -/
theorem encodeCursor_split (key : SessionKey) : ∃ letters : List Char,
    encodeCursor key = codePoints letters ∧
      letters.length = ((cursorPayload key).length * 4 + 2) / 3 ∧
      (∀ c ∈ letters, c.toNat < 0x80) ∧
      (letters ++ List.replicate ((4 - letters.length % 4) % 4) '=').map unUrlsafe
        = Base64.encode (cursorBytes key) := by
  obtain ⟨body, hencode, hlength, hletters⟩ := Base64.encode_split (cursorBytes key)
  have hbody : ∀ c ∈ body, urlsafe c ≠ '=' ∧ (urlsafe c).toNat < 0x80 ∧ unUrlsafe (urlsafe c) = c := by
    intro c hc
    obtain ⟨n, hn, rfl⟩ := hletters c hc
    exact urlsafe_letter hn
  have hpadding : urlsafe '=' = '=' ∧ unUrlsafe '=' = '=' := by decide
  refine ⟨body.map urlsafe, ?_, ?_, ?_, ?_⟩
  · unfold encodeCursor
    dsimp only
    rw [← cursorBytes, hencode, List.map_append, List.map_replicate, hpadding.1, rdropWhile_padding]
    exact List.forall_mem_map.mpr fun c hc => (hbody c hc).1
  · rw [List.length_map, hlength, cursorBytes, List.length_map]
  · exact List.forall_mem_map.mpr fun c hc => (hbody c hc).2.1
  · rw [hencode, List.map_append, List.map_map, List.map_replicate, hpadding.2, List.length_map]
    exact congrArg (· ++ _) (List.map_congr_left (fun c hc => (hbody c hc).2.2) |>.trans
      (List.map_id body))

/-- The payload's bytes are its text again. -/
theorem decode_cursorBytes (key : SessionKey) :
    Utf8.decode (cursorBytes key) = some (cursorPayload key) := by
  have htoNat : ∀ c ∈ cursorPayload key, c.toNat.toUInt8.toNat = c.toNat := fun c hc => by
    have := cursorPayload_ascii key c hc
    rw [UInt8.toNat_ofNat']
    omega
  rw [cursorBytes, Utf8.decode_ascii, List.map_map]
  · exact congrArg some (List.map_congr_left (fun c hc => by
      rw [Function.comp, htoNat c hc, Char.ofNat_toNat]; rfl) |>.trans (List.map_id _))
  · intro b hb
    obtain ⟨c, hc, rfl⟩ := List.mem_map.mp hb
    rw [UInt8.lt_iff_toNat_lt, htoNat c hc]
    exact cursorPayload_ascii key c hc

/-- The boundary of a cursor's own fields is its key, if the id is a session id. -/
theorem cursorBoundary_fields (h : Listable interp key) :
    cursorBoundary interp (.obj (cursorFields key))
      = if validateSessionId key.sessionId then .ok key
        else .error (.input "session cursor boundary is invalid") := by
  have hkeys : hasKeys (cursorFields key) ["v", "started_at", "session_id"] = true := by
    simp [hasKeys, cursorFields]
  have hversion : getField (cursorFields key) "v" = some (.int 1) := by
    simp [getField, cursorFields, codePoints]
  have hstart : getField (cursorFields key) "started_at" = some (.str key.startedAt) := by
    simp [getField, cursorFields, codePoints]
  have hid : getField (cursorFields key) "session_id" = some (.str key.sessionId) := by
    simp [getField, cursorFields, codePoints]
  unfold cursorBoundary
  simp only [hkeys, hversion, hstart, hid, h.timestamp, Bool.true_and]
  rfl

/-- The next call refuses a cursor that is too long or names no session id, and takes every
other one for its key. -/
theorem decodeCursor_encodeCursor (h : Listable interp key) :
    decodeCursor interp (some (encodeCursor key))
      = if 768 < (cursorPayload key).length then .error (.input "session cursor is too large")
        else if validateSessionId key.sessionId then .ok (some key)
        else .error (.input "session cursor boundary is invalid") := by
  obtain ⟨letters, hencode, hlength, hascii, hpadded⟩ := encodeCursor_split key
  have hne : letters ≠ [] := List.ne_nil_of_length_pos (by
    rw [hlength, cursorPayload, List.length_cons]
    omega)
  have hwide : ¬(codePoints letters).any (0x80 ≤ ·) = true := by
    intro hany
    obtain ⟨n, hn, hwide⟩ := List.any_eq_true.mp hany
    obtain ⟨c, hc, rfl⟩ := List.mem_map.mp hn
    exact absurd (of_decide_eq_true hwide) (Nat.not_le.mpr (hascii c hc))
  have hchars : (codePoints letters).map Char.ofNat = letters := by
    rw [codePoints, List.map_map]
    exact (List.map_congr_left fun c _ => Char.ofNat_toNat c).trans (List.map_id _)
  have hbound : maxCursorBytes < (codePoints letters).length ↔ 768 < (cursorPayload key).length := by
    rw [codePoints, List.length_map, hlength, maxCursorBytes]
    omega
  rw [hencode, decodeCursor]
  dsimp only
  rw [if_neg (by simpa [codePoints] using hne), if_neg hwide]
  by_cases hlong : 768 < (cursorPayload key).length
  · rw [if_pos (hbound.mpr hlong), if_pos hlong]
  · rw [if_neg (mt hbound.mp hlong), if_neg hlong, hchars]
    have hpadding : (codePoints letters).length = letters.length := List.length_map _
    rw [hpadding, hpadded, Base64.decode_encode]
    dsimp only
    rw [decode_cursorBytes]
    dsimp only
    rw [loads_cursorPayload h]
    dsimp only
    rw [cursorBoundary_fields h]
    split <;> rfl

theorem decodeCursor_of_fits (h : Listable interp key) (hfits : CursorFits key) :
    decodeCursor interp (some (encodeCursor key)) = .ok (some key) := by
  rw [decodeCursor_encodeCursor h, if_neg (Nat.not_lt.mpr hfits.1), if_pos hfits.2]

/-- The next call refuses the cursor of a key that does not fit. -/
theorem decodeCursor_of_not_fits (h : Listable interp key) (hfits : ¬CursorFits key) :
    ∃ e, decodeCursor interp (some (encodeCursor key)) = .error e := by
  rw [decodeCursor_encodeCursor h]
  split
  · exact ⟨_, rfl⟩
  · next hlong =>
    rw [if_neg fun hid => hfits ⟨Nat.not_lt.mp hlong, hid⟩]
    exact ⟨_, rfl⟩

end
