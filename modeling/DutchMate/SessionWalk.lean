/-
# Walks through the session list

A client follows `next_cursor` from page to page while sessions come and go between the
calls.  Each page of a healthy store is a page of its keys, so a walk whose cursors are all
accepted lists every session that stays exactly once and in order.  A key whose cursor does
not fit breaks the walk as soon as a page ends at it, and `walkPages_paginates_iff` says that
nothing else does.
-/
import DutchMate.SessionPages

open PyJson Keyset

variable {interp : Interpreter}

/-! ## One page -/

/-- The sessions a root holds, by their keys. -/
def SessionRoot.keys (interp : Interpreter) (root : SessionRoot) : Set SessionKey :=
  {key | ∃ es ∈ root.entries, ∃ entry ∈ es, ∃ metadata, entry.session = some metadata ∧
    listItem interp entry.name metadata = some key}

/-- A root all of whose sessions can be listed, with keys among the given ones. -/
def SessionRoot.Holds (interp : Interpreter) (possible : Set SessionKey) (root : SessionRoot) :
    Prop :=
  ∀ es ∈ root.entries, ∀ entry ∈ es, ∀ metadata, entry.session = some metadata →
    ∃ key ∈ possible, listItem interp entry.name metadata = some key

theorem requiredString_some {s : Option JsonText} {text : PyStr} (h : requiredString s = some text) :
    text ≠ [] ∧ (∀ c ∈ text, c < 0x110000) ∧ ¬SplitsPair text := by
  cases s with
  | none => cases h
  | some s =>
    unfold requiredString at h
    dsimp only at h
    split at h
    · cases h
    · next hne =>
      cases h
      exact ⟨hne, s.range, s.joined⟩

/-- An item has the entry's name as its id, and a key that the list can show. -/
theorem listItem_some {name : PyStr} {metadata : ListedMetadata} {key : SessionKey}
    (h : listItem interp name metadata = some key) : key.sessionId = name ∧ Listable interp key := by
  unfold listItem at h
  simp only [Option.bind_eq_bind, Option.bind_eq_some_iff] at h
  obtain ⟨version, -, sessionId, hid, startedAt, hstart, h⟩ := h
  obtain ⟨hid_ne, hid_range, hid_joined⟩ := requiredString_some hid
  obtain ⟨hstart_ne, hstart_range, hstart_joined⟩ := requiredString_some hstart
  split at h
  · next hok =>
    cases h
    exact ⟨hok.2.1, ⟨hstart_range, hstart_joined, hstart_ne, hid_range, hid_joined, hid_ne,
      hok.2.2.2.1⟩⟩
  · cases h

/-- What is collected from a healthy directory: the keys below the boundary, each once. -/
theorem collectItems_ok (boundary : Option SessionKey) {entries : List SessionEntry}
    (hhealthy : ∀ entry ∈ entries, ∀ metadata, entry.session = some metadata →
      ∃ key, listItem interp entry.name metadata = some key)
    (hnames : (entries.map SessionEntry.name).Nodup) : ∃ items,
      collectItems interp boundary entries = .ok items ∧ items.Nodup ∧
        (∀ key, key ∈ items ↔ (∃ entry ∈ entries, ∃ metadata, entry.session = some metadata ∧
          listItem interp entry.name metadata = some key) ∧ Below boundary key) := by
  induction entries with
  | nil => exact ⟨[], rfl, List.nodup_nil, by simp⟩
  | cons entry entries ih =>
    obtain ⟨hfresh, hnames⟩ := List.nodup_cons.mp hnames
    obtain ⟨items, hitems, hnodup, hmem⟩ := ih (fun e he => hhealthy e (List.mem_cons_of_mem _ he))
      hnames
    cases hsession : entry.session with
    | none =>
      refine ⟨items, ?_, hnodup, fun key => ?_⟩
      · rw [collectItems, hsession]
        exact hitems
      · rw [hmem key, List.exists_mem_cons_iff]
        simp [hsession]
    | some metadata =>
      obtain ⟨key, hkey⟩ := hhealthy entry List.mem_cons_self metadata hsession
      have hbelow : boundary.all (fun b => decide (key < b)) = true ↔ Below boundary key := by
        cases boundary <;> simp [Below]
      refine ⟨if boundary.all (fun b => decide (key < b)) then key :: items else items, ?_, ?_, ?_⟩
      · rw [collectItems, hsession]
        dsimp only
        rw [hkey]
        dsimp only
        rw [hitems]
      · split
        · refine List.nodup_cons.mpr ⟨fun hin => hfresh ?_, hnodup⟩
          obtain ⟨⟨other, hother, m, hm, hitem⟩, -⟩ := (hmem key).mp hin
          rw [← (listItem_some hkey).1, (listItem_some hitem).1]
          exact List.mem_map_of_mem hother
        · exact hnodup
      · intro other
        have hhere : (∃ m, entry.session = some m ∧ listItem interp entry.name m = some other) ↔
            other = key := by
          rw [hsession]
          simp only [Option.some.injEq, exists_eq_left', hkey]
          exact eq_comm
        rw [List.exists_mem_cons_iff, hhere]
        split
        · next hb =>
          rw [List.mem_cons, hmem other]
          have hkeyb := hbelow.mp hb
          constructor
          · rintro (rfl | ⟨hlater, hother⟩)
            · exact ⟨.inl rfl, hkeyb⟩
            · exact ⟨.inr hlater, hother⟩
          · rintro ⟨rfl | hlater, hother⟩
            · exact .inl rfl
            · exact .inr ⟨hlater, hother⟩
        · next hb =>
          rw [hmem other]
          constructor
          · exact fun ⟨hlater, hother⟩ => ⟨.inr hlater, hother⟩
          · rintro ⟨rfl | hlater, hother⟩
            · exact absurd (hbelow.mpr hother) hb
            · exact ⟨hlater, hother⟩

/-- A page of a healthy root is a page of its keys, and carries the cursor of its last key
when keys are left. -/
theorem listSessionPage_ok {root : SessionRoot} {possible : Set SessionKey} {limit : ℤ}
    {cursor : Option PyStr} {boundary : Option SessionKey} (hholds : root.Holds interp possible)
    (hlimit : 1 ≤ limit ∧ limit ≤ maxSessionPageLimit)
    (hcursor : decodeCursor interp cursor = .ok boundary) : ∃ items more,
      listSessionPage interp root limit cursor
          = .ok ⟨items, if more then items.getLast?.map encodeCursor else none⟩ ∧
        IsPage (root.keys interp) boundary items (more = true) ∧ items.length ≤ limit.toNat := by
  unfold listSessionPage
  rw [if_neg (not_not.mpr hlimit), hcursor]
  cases hentries : root.entries with
  | none =>
    refine ⟨[], false, rfl, ⟨List.Pairwise.nil, by simp, ?_, by simp⟩, Nat.zero_le _⟩
    rintro k ⟨es, hes, -⟩
    rw [hentries] at hes
    cases hes
  | some entries =>
    have hhealthy : ∀ entry ∈ entries, ∀ metadata, entry.session = some metadata →
        ∃ key, listItem interp entry.name metadata = some key := fun entry he metadata hm =>
      (hholds entries hentries entry he metadata hm).imp fun _ h => h.2
    obtain ⟨items, hitems, hnodup, hmem⟩ := collectItems_ok boundary hhealthy
      (root.nodup entries hentries)
    have hperm := List.mergeSort_perm items (fun a b => decide (b ≤ a))
    have hsorted : (items.mergeSort fun a b => decide (b ≤ a)).Pairwise (· > ·) := by
      have hge := List.pairwise_mergeSort' (fun a b : SessionKey => b ≤ a) items
      have hne := hperm.nodup_iff.mpr hnodup
      exact (hge.and hne).imp fun ⟨hle, hne⟩ => lt_of_le_of_ne hle (Ne.symm hne)
    refine ⟨(items.mergeSort fun a b => decide (b ≤ a)).take limit.toNat,
      decide (limit.toNat < (items.mergeSort fun a b => decide (b ≤ a)).length), ?_, ?_,
      List.length_take_le _ _⟩
    · simp only [decide_eq_true_eq]
      change (collectItems interp boundary entries >>= fun items => _) = _
      rw [hitems]
      rfl
    · rw [decide_eq_true_eq]
      refine isPage_take hsorted (fun key => ?_) (by omega)
      rw [hperm.mem_iff, hmem key]
      refine and_congr_left fun _ => ⟨fun h => ⟨entries, hentries, h⟩, fun ⟨es, hes, h⟩ => ?_⟩
      rw [hentries] at hes
      cases hes
      exact h

/-! ## A walk -/

/-- One call of a walk: the sessions there are by then, and the limit asked for. -/
structure PageCall where
  root : SessionRoot
  limit : ℤ

/-- How a walk stands after its calls: the last page came without a cursor, a call was
refused, or there is a cursor for another call. -/
inductive WalkEnd where
  | finished
  | refused (fault : PageFault)
  | pending (cursor : Option PyStr)
  deriving DecidableEq

/-- The pages of calls that follow `next_cursor`. -/
def walkPages (interp : Interpreter) : Option PyStr → List PageCall → List SessionListPage × WalkEnd
  | cursor, [] => ([], .pending cursor)
  | cursor, call :: calls =>
    match listSessionPage interp call.root call.limit cursor with
    | .error fault => ([], .refused fault)
    | .ok page =>
      match page.nextCursor with
      | none => ([page], .finished)
      | some next =>
        (page :: (walkPages interp (some next) calls).1, (walkPages interp (some next) calls).2)

/-- The sessions that pages list, in order. -/
def listedKeys (pages : List SessionListPage) : List SessionKey := pages.flatMap (·.items)

/-- What following the cursors through a walk's calls is to give. -/
structure Paginates (interp : Interpreter) (calls : List PageCall) : Prop where
  /-- Every cursor the list emits is accepted by the next call. -/
  accepted : ∀ fault, (walkPages interp none calls).2 ≠ .refused fault
  /-- The pages, put end to end, are strictly descending: no session appears twice. -/
  descending : (listedKeys (walkPages interp none calls).1).Pairwise (· > ·)
  /-- A session that is there in every call appears once by the end of the walk, and before
  that it has appeared once unless the walk has not come down to it. -/
  complete : ∀ key, (∀ call ∈ calls.take (walkPages interp none calls).1.length,
      key ∈ call.root.keys interp) →
    (listedKeys (walkPages interp none calls).1).count key = 1 ∨
      (walkPages interp none calls).2 ≠ .finished ∧
        ∀ listed ∈ listedKeys (walkPages interp none calls).1, key < listed
  /-- A page ends the walk exactly when it leaves no session below all that were listed. -/
  ends : ∀ (i : ℕ) (page : SessionListPage) (call : PageCall),
    (walkPages interp none calls).1[i]? = some page → calls[i]? = some call →
      (page.nextCursor = none ↔ ∀ key ∈ call.root.keys interp,
        ¬∀ listed ∈ listedKeys ((walkPages interp none calls).1.take (i + 1)), key < listed)

/-- The calls of a walk that goes right: valid limits, and healthy roots of possible
sessions. -/
def ValidCalls (interp : Interpreter) (possible : Set SessionKey) (calls : List PageCall) : Prop :=
  ∀ call ∈ calls, (1 ≤ call.limit ∧ call.limit ≤ maxSessionPageLimit) ∧
    call.root.Holds interp possible

/-! ## Walks whose cursors fit -/

/-- Every cursor that a page of possible sessions can end with fits: of every session that
another one can stand below. -/
def CursorsFit (interp : Interpreter) (possible : Set SessionKey) : Prop :=
  ∀ key ∈ possible, Listable interp key →
    (∃ lower ∈ possible, Listable interp lower ∧ lower < key ∧ lower.sessionId ≠ key.sessionId) →
      CursorFits key

theorem SessionRoot.keys_spec {root : SessionRoot} {possible : Set SessionKey}
    (hholds : root.Holds interp possible) {key : SessionKey} (hkey : key ∈ root.keys interp) :
    key ∈ possible ∧ Listable interp key := by
  obtain ⟨es, hes, entry, he, metadata, hm, hitem⟩ := hkey
  obtain ⟨key', hkey', hitem'⟩ := hholds es hes entry he metadata hm
  rw [hitem] at hitem'
  cases hitem'
  exact ⟨hkey', (listItem_some hitem).2⟩

/-- Two sessions of one root have different ids. -/
theorem SessionRoot.keys_sessionId {root : SessionRoot} {key other : SessionKey}
    (hkey : key ∈ root.keys interp) (hother : other ∈ root.keys interp)
    (hid : key.sessionId = other.sessionId) : key = other := by
  obtain ⟨es, hes, entry, he, metadata, hm, hitem⟩ := hkey
  obtain ⟨es', hes', entry', he', metadata', hm', hitem'⟩ := hother
  rw [hes] at hes'
  cases hes'
  have hnames : entry.name = entry'.name := by
    rw [← (listItem_some hitem).1, ← (listItem_some hitem').1, hid]
  have hentry := List.inj_on_of_nodup_map (root.nodup es hes) he he' hnames
  subst hentry
  rw [hm] at hm'
  cases hm'
  rw [hitem] at hitem'
  exact Option.some.inj hitem'

/-- The cursor of a page that leaves sessions behind is accepted as its last key. -/
theorem decodeCursor_page {root : SessionRoot} {possible : Set SessionKey}
    {boundary : Option SessionKey} {items : List SessionKey} {more : Prop}
    (hfit : CursorsFit interp possible) (hholds : root.Holds interp possible)
    (hpage : IsPage (root.keys interp) boundary items more) (hmore : more) : ∃ last,
      items.getLast? = some last ∧ decodeCursor interp (some (encodeCursor last)) = .ok (some last) := by
  obtain ⟨hne, lower, hlower, hbelow, hout⟩ := hpage.left hmore
  have hlast := List.getLast?_eq_getLast_of_ne_nil hne
  refine ⟨items.getLast hne, hlast, ?_⟩
  have hkey := (hpage.sound _ (List.getLast_mem hne)).1
  have hlt := (hpage.rest lower hlower hbelow hout).2 _ (List.getLast_mem hne)
  obtain ⟨hpossible, hlistable⟩ := SessionRoot.keys_spec hholds hkey
  obtain ⟨hlpossible, hllistable⟩ := SessionRoot.keys_spec hholds hlower
  refine decodeCursor_of_fits hlistable (hfit _ hpossible hlistable
    ⟨lower, hlpossible, hllistable, hlt, fun hid => ?_⟩)
  exact hlt.ne (SessionRoot.keys_sessionId hlower hkey hid)

/-- The pages of a walk, each with the keys there were when it was taken. -/
def visitsOf (interp : Interpreter) (calls : List PageCall) (pages : List SessionListPage) :
    List (Set SessionKey × List SessionKey) :=
  calls.zipWith (fun call page => (call.root.keys interp, page.items)) pages

/-- From an accepted cursor on, the calls take the pages of a walk through the keys. -/
theorem walkPages_walk {possible : Set SessionKey} (hfit : CursorsFit interp possible)
    {calls : List PageCall} (hcalls : ValidCalls interp possible calls) {cursor : Option PyStr}
    {boundary : Option SessionKey} (hcursor : decodeCursor interp cursor = .ok boundary) :
    Walk boundary (visitsOf interp calls (walkPages interp cursor calls).1)
        ((walkPages interp cursor calls).2 = .finished) ∧
      (∀ fault, (walkPages interp cursor calls).2 ≠ .refused fault) ∧
      (walkPages interp cursor calls).1.length ≤ calls.length := by
  induction calls generalizing cursor boundary with
  | nil =>
    refine ⟨?_, fun fault h => WalkEnd.noConfusion h, le_rfl⟩
    have hopen : (WalkEnd.pending cursor = .finished) = False := eq_false nofun
    rw [walkPages, hopen]
    exact .paused boundary
  | cons call calls ih =>
    obtain ⟨hlimit, hholds⟩ := hcalls call List.mem_cons_self
    have hlater : ValidCalls interp possible calls := fun c hc =>
      hcalls c (List.mem_cons_of_mem _ hc)
    obtain ⟨items, more, hlist, hpage, -⟩ := listSessionPage_ok hholds hlimit hcursor
    cases more with
    | false =>
      have hrun : walkPages interp cursor (call :: calls) = ([⟨items, none⟩], .finished) := by
        rw [walkPages, hlist]
        rfl
      rw [hrun]
      refine ⟨?_, nofun, Nat.succ_le_succ (Nat.zero_le _)⟩
      rw [eq_true (rfl : WalkEnd.finished = .finished)]
      simpa [visitsOf] using Walk.last (by simpa using hpage)
    | true =>
      obtain ⟨last, hlast, hdecode⟩ := decodeCursor_page hfit hholds hpage rfl
      have hrun : walkPages interp cursor (call :: calls)
          = (⟨items, some (encodeCursor last)⟩ ::
              (walkPages interp (some (encodeCursor last)) calls).1,
            (walkPages interp (some (encodeCursor last)) calls).2) := by
        rw [walkPages, hlist, if_pos rfl, hlast]
        rfl
      obtain ⟨hwalk, hrefused, hlength⟩ := ih hlater hdecode
      rw [hrun]
      refine ⟨.next (by simpa using hpage) ?_, hrefused, Nat.succ_le_succ hlength⟩
      rw [hlast]
      exact hwalk

theorem listed_visitsOf (interp : Interpreter) {calls : List PageCall} {pages : List SessionListPage}
    (h : pages.length ≤ calls.length) :
    Keyset.listed (visitsOf interp calls pages) = listedKeys pages := by
  induction pages generalizing calls with
  | nil => rw [visitsOf, List.zipWith_nil_right]; rfl
  | cons page pages ih =>
    cases calls with
    | nil => exact absurd h (Nat.not_succ_le_zero _)
    | cons call calls => exact congrArg (page.items ++ ·) (ih (Nat.le_of_succ_le_succ h))

/-- A page of a walk, with the call it answers. -/
theorem mem_visitsOf {calls : List PageCall} {pages : List SessionListPage} {key : SessionKey}
    (h : ∀ call ∈ calls.take pages.length, key ∈ call.root.keys interp) :
    ∀ visit ∈ visitsOf interp calls pages, key ∈ visit.1 := by
  induction pages generalizing calls with
  | nil =>
    rw [visitsOf, List.zipWith_nil_right]
    simp
  | cons page pages ih =>
    cases calls with
    | nil => simp [visitsOf]
    | cons call calls =>
      intro visit hvisit
      rcases List.mem_cons.mp hvisit with rfl | hlater
      · exact h call List.mem_cons_self
      · exact ih (fun c hc => h c (List.mem_cons_of_mem _ hc)) visit hlater

/-- A page comes without a cursor exactly when it leaves no key below all that are listed. -/
theorem page_ends {keys : Set SessionKey} {boundary : Option SessionKey} {items : List SessionKey}
    {more : Prop} {before : List SessionKey} (hpage : IsPage keys boundary items more)
    (hbefore : ∀ key, Below boundary key ↔ ∀ x ∈ before, key < x) :
    ¬more ↔ ∀ key ∈ keys, ¬∀ x ∈ before ++ items, key < x := by
  constructor
  · intro hmore key hkey hunder
    have hbelow := (hbefore key).mpr fun x hx => hunder x (List.mem_append_left _ hx)
    exact hmore (hpage.rest key hkey hbelow fun hin =>
      lt_irrefl key (hunder key (List.mem_append_right _ hin))).1
  · intro hnone hmore
    obtain ⟨-, key, hkey, hbelow, hout⟩ := hpage.left hmore
    refine hnone key hkey fun x hx => ?_
    rcases List.mem_append.mp hx with hx | hx
    · exact (hbefore key).mp hbelow x hx
    · exact (hpage.rest key hkey hbelow hout).2 x hx

/-- Below a page's last key is below everything listed so far. -/
theorem below_last_iff {keys : Set SessionKey} {boundary : Option SessionKey}
    {items before : List SessionKey} {more : Prop} {last : SessionKey}
    (hpage : IsPage keys boundary items more) (hmore : more) (hlast : items.getLast? = some last)
    (hbefore : ∀ key, Below boundary key ↔ ∀ x ∈ before, key < x) (key : SessionKey) :
    Below (some last) key ↔ ∀ x ∈ before ++ items, key < x := by
  rw [← hlast]
  constructor
  · intro hbelow x hx
    rcases List.mem_append.mp hx with hx | hx
    · exact (hbefore key).mp (hpage.below_of_last hmore hbelow) x hx
    · exact below_page hpage.descending (hpage.left hmore).1 hbelow x hx
  · exact fun h b hb => h b (List.mem_append_right _ (List.mem_of_getLast? hb))

/-- Every page of a walk ends it exactly when nothing is left below. -/
theorem walkPages_ends {possible : Set SessionKey} (hfit : CursorsFit interp possible)
    {calls : List PageCall} (hcalls : ValidCalls interp possible calls) {cursor : Option PyStr}
    {boundary : Option SessionKey} (hcursor : decodeCursor interp cursor = .ok boundary)
    {before : List SessionKey} (hbefore : ∀ key, Below boundary key ↔ ∀ x ∈ before, key < x)
    {i : ℕ} {page : SessionListPage} {call : PageCall}
    (hi : (walkPages interp cursor calls).1[i]? = some page) (hcall : calls[i]? = some call) :
    page.nextCursor = none ↔ ∀ key ∈ call.root.keys interp,
      ¬∀ x ∈ before ++ listedKeys ((walkPages interp cursor calls).1.take (i + 1)), key < x := by
  induction calls generalizing cursor boundary before i with
  | nil => cases hcall
  | cons first calls ih =>
    obtain ⟨hlimit, hholds⟩ := hcalls first List.mem_cons_self
    have hlater : ValidCalls interp possible calls := fun c hc =>
      hcalls c (List.mem_cons_of_mem _ hc)
    obtain ⟨items, more, hlist, hpage, -⟩ := listSessionPage_ok hholds hlimit hcursor
    cases more with
    | false =>
      have hrun : walkPages interp cursor (first :: calls) = ([⟨items, none⟩], .finished) := by
        rw [walkPages, hlist]
        rfl
      rw [hrun] at hi ⊢
      cases i with
      | zero =>
        cases hi
        cases hcall
        have hitems : listedKeys [⟨items, none⟩] = items := List.append_nil _
        rw [List.take_succ_cons, List.take_nil, hitems, ← page_ends hpage hbefore]
        simp
      | succ i => cases hi
    | true =>
      obtain ⟨last, hlast, hdecode⟩ := decodeCursor_page hfit hholds hpage rfl
      have hrun : walkPages interp cursor (first :: calls)
          = (⟨items, some (encodeCursor last)⟩ ::
              (walkPages interp (some (encodeCursor last)) calls).1,
            (walkPages interp (some (encodeCursor last)) calls).2) := by
        rw [walkPages, hlist, if_pos rfl, hlast]
        rfl
      rw [hrun] at hi ⊢
      have hsplit : ∀ pages : List SessionListPage,
          listedKeys (⟨items, some (encodeCursor last)⟩ :: pages) = items ++ listedKeys pages :=
        fun _ => rfl
      cases i with
      | zero =>
        cases hi
        cases hcall
        have hnil : listedKeys ([] : List SessionListPage) = [] := rfl
        rw [List.take_succ_cons, List.take_zero, hsplit, hnil, List.append_nil,
          ← page_ends hpage hbefore]
        simp
      | succ i =>
        rw [List.take_succ_cons, hsplit, ← List.append_assoc]
        exact ih hlater hdecode (below_last_iff hpage rfl hlast hbefore) hi hcall

/-- A walk whose cursors fit lists every session that stays, once and in order. -/
theorem paginates_of_fit {possible : Set SessionKey} (hfit : CursorsFit interp possible)
    {calls : List PageCall} (hcalls : ValidCalls interp possible calls) :
    Paginates interp calls := by
  have hfirst : decodeCursor interp none = .ok none := rfl
  obtain ⟨hwalk, hrefused, hlength⟩ := walkPages_walk hfit hcalls hfirst
  have hlisted := listed_visitsOf interp hlength
  have hdescending := hwalk.descending
  rw [hlisted] at hdescending
  refine ⟨hrefused, hdescending, fun key hstays => ?_, fun i page call hi hcall => ?_⟩
  · have hcomplete := hwalk.complete (k := key) (fun b hb => nomatch hb) (mem_visitsOf hstays)
    rw [hlisted] at hcomplete
    exact hcomplete.imp (List.count_eq_one_of_mem (hdescending.imp fun h => h.ne')) id
  · have hnothing : ∀ key : SessionKey, Below none key ↔ ∀ x ∈ ([] : List SessionKey), key < x :=
      fun key => by simp [Below]
    exact walkPages_ends hfit hcalls hfirst hnothing hi hcall

/-! ## A cursor that does not fit -/

/-- A session of the current schema with a given key. -/
def entryOf {key : SessionKey} (h : Listable interp key) : SessionEntry where
  name := key.sessionId
  isSymlink := false
  isDir := true
  metadata := some
    { schemaVersion := some 2
      sessionId := some ⟨key.sessionId, h.sessionId_range, h.sessionId_joined⟩
      startedAt := some ⟨key.startedAt, h.startedAt_range, h.startedAt_joined⟩
      valid := true }

theorem listItem_entryOf {key : SessionKey} (h : Listable interp key) :
    ∀ metadata, (entryOf h).session = some metadata →
      listItem interp (entryOf h).name metadata = some key := by
  rintro _ ⟨⟩
  have hid : requiredString (some ⟨key.sessionId, h.sessionId_range, h.sessionId_joined⟩)
      = some key.sessionId := if_neg h.sessionId_ne
  have hstart : requiredString (some ⟨key.startedAt, h.startedAt_range, h.startedAt_joined⟩)
      = some key.startedAt := if_neg h.startedAt_ne
  unfold listItem
  rw [hid, hstart]
  exact if_pos ⟨by decide, rfl, nofun, h.timestamp, rfl⟩

section
variable {key lower : SessionKey} (hkey : Listable interp key) (hlower : Listable interp lower)
  (hid : lower.sessionId ≠ key.sessionId)

/-- A root of two sessions. -/
def pairRoot : SessionRoot where
  entries := some [entryOf hkey, entryOf hlower]
  nodup := by
    rintro _ ⟨⟩
    exact List.nodup_cons.mpr ⟨by simpa [entryOf] using Ne.symm hid, List.nodup_singleton _⟩

theorem pairRoot_holds {possible : Set SessionKey} (hmem : key ∈ possible)
    (hlmem : lower ∈ possible) : (pairRoot hkey hlower hid).Holds interp possible := by
  rintro _ ⟨⟩ entry hentry metadata hm
  rcases List.mem_cons.mp hentry with rfl | hentry
  · exact ⟨key, hmem, listItem_entryOf hkey metadata hm⟩
  · rw [List.mem_singleton.mp hentry] at hm ⊢
    exact ⟨lower, hlmem, listItem_entryOf hlower metadata hm⟩

theorem pairRoot_keys : key ∈ (pairRoot hkey hlower hid).keys interp ∧
    lower ∈ (pairRoot hkey hlower hid).keys interp :=
  ⟨⟨_, rfl, entryOf hkey, by simp, _, rfl, listItem_entryOf hkey _ rfl⟩,
    ⟨_, rfl, entryOf hlower, by simp, _, rfl, listItem_entryOf hlower _ rfl⟩⟩

/-- The first page of one session ends at the higher of the two. -/
theorem listSessionPage_pairRoot (hlt : lower < key) :
    listSessionPage interp (pairRoot hkey hlower hid) 1 none
      = .ok ⟨[key], some (encodeCursor key)⟩ := by
  obtain ⟨hmem, hlmem⟩ := pairRoot_keys hkey hlower hid
  have hholds : (pairRoot hkey hlower hid).Holds interp {key, lower} :=
    pairRoot_holds hkey hlower hid (by simp) (by simp)
  have hlimit : (1 : ℤ) ≤ 1 ∧ (1 : ℤ) ≤ maxSessionPageLimit := by decide
  have hfirst : decodeCursor interp none = .ok none := rfl
  obtain ⟨items, more, hlist, hpage, hlength⟩ := listSessionPage_ok hholds hlimit hfirst
  have hall : ∀ k : SessionKey, Below none k := fun k b hb => nomatch hb
  have hin : key ∈ items := by
    by_contra hout
    obtain ⟨hmore, hunder⟩ := hpage.rest key hmem (hall key) hout
    obtain ⟨x, hx⟩ := List.exists_mem_of_ne_nil items (hpage.left hmore).1
    rcases (SessionRoot.keys_spec hholds (hpage.sound x hx).1).1 with rfl | rfl
    · exact hout hx
    · exact lt_asymm hlt (hunder _ hx)
  obtain ⟨x, rfl⟩ := List.length_eq_one_iff.mp
    (le_antisymm hlength (List.length_pos_of_mem hin))
  rw [List.mem_singleton] at hin
  subst hin
  have hmore : more = true :=
    (hpage.rest lower hlmem (hall lower) (by simpa using hlt.ne)).1
  rw [hlist, hmore]
  rfl

/-- If the cursor of a possible session does not fit, the walk through it and one session
below is refused. -/
theorem not_paginates_pairRoot (hlt : lower < key) (hfits : ¬CursorFits key) :
    ¬Paginates interp [⟨pairRoot hkey hlower hid, 1⟩, ⟨pairRoot hkey hlower hid, 1⟩] := by
  intro hpaginates
  obtain ⟨fault, hrefused⟩ := decodeCursor_of_not_fits hkey hfits
  have hsecond : listSessionPage interp (pairRoot hkey hlower hid) 1 (some (encodeCursor key))
      = .error fault := by
    unfold listSessionPage
    rw [if_neg (by decide), hrefused]
    rfl
  refine hpaginates.accepted fault ?_
  rw [walkPages, listSessionPage_pairRoot hkey hlower hid hlt]
  dsimp only
  rw [walkPages, hsecond]

theorem validCalls_pairRoot {possible : Set SessionKey} (hmem : key ∈ possible)
    (hlmem : lower ∈ possible) : ValidCalls interp possible
      [⟨pairRoot hkey hlower hid, 1⟩, ⟨pairRoot hkey hlower hid, 1⟩] := by
  have hlimit : (1 : ℤ) ≤ 1 ∧ (1 : ℤ) ≤ maxSessionPageLimit := by decide
  have hholds := pairRoot_holds hkey hlower hid hmem hlmem
  exact List.forall_mem_cons.mpr ⟨⟨hlimit, hholds⟩,
    List.forall_mem_singleton.mpr ⟨hlimit, hholds⟩⟩

end

/-- The list paginates every walk through possible sessions exactly when the cursor of every
session that another can stand below fits. -/
theorem walkPages_paginates_iff (interp : Interpreter) (possible : Set SessionKey) :
    (∀ calls, ValidCalls interp possible calls → Paginates interp calls) ↔
      CursorsFit interp possible := by
  constructor
  · rintro hall key hmem hkey ⟨lower, hlmem, hlower, hlt, hid⟩
    by_contra hfits
    refine not_paginates_pairRoot hkey hlower hid hlt hfits (hall _ ?_)
    exact validCalls_pairRoot hkey hlower hid hmem hlmem
  · exact fun hfit calls hcalls => paginates_of_fit hfit hcalls

/-- The second in which both sessions below start. -/
def newYear : PyStr := codePoints "2026-01-01T00:00:00Z".toList

/-- An interpreter with the default limits, on that timestamp. -/
def isoInterpreter : Interpreter where
  limits := ⟨4300, 1000, defaultMaxStrDigits_pos, defaultNesting_pos⟩
  fromIsoformat text := text = newYear
  floatIsOne _ := false

/-- A session whose id is 127 times the letter é. -/
def accentedKey : SessionKey := .mk newYear (List.replicate 127 0xE9)

/-- A session of the same second whose id is one letter. -/
def plainKey : SessionKey := .mk newYear (codePoints ['a'])

theorem listable_of_lt {sessionId : PyStr} (hne : sessionId ≠ []) (h : ∀ c ∈ sessionId, c < 0xD800) :
    Listable isoInterpreter (.mk newYear sessionId) := by
  have hascii : ∀ c ∈ newYear, c < 0x80 := by decide +kernel
  have hnewYear : newYear ≠ [] := by decide +kernel
  have htimestamp : isoInterpreter.fromIsoformat newYear = true := by decide +kernel
  exact ⟨fun c hc => (hascii c hc).trans (by decide),
    not_splitsPair_of_lt fun c hc => (hascii c hc).trans (by decide), hnewYear,
    fun c hc => (h c hc).trans (by decide), not_splitsPair_of_lt h, hne, htimestamp⟩

/-- The walk through these two sessions is refused: a valid id is too long for its cursor. -/
theorem not_paginates_accentedKey : ¬∀ calls, ValidCalls isoInterpreter
    {key | validateSessionId key.sessionId = true} calls → Paginates isoInterpreter calls := by
  intro hall
  have haccented : Listable isoInterpreter accentedKey :=
    listable_of_lt (by decide +kernel) (by decide +kernel)
  have hplain : Listable isoInterpreter plainKey :=
    listable_of_lt (by decide +kernel) (by decide +kernel)
  have hid : plainKey.sessionId ≠ accentedKey.sessionId := by decide +kernel
  have hlt : plainKey < accentedKey := by decide +kernel
  have hlong : 768 < (cursorPayload accentedKey).length := by decide +kernel
  refine not_paginates_pairRoot haccented hplain hid hlt (fun hfits => ?_) (hall _ ?_)
  · exact absurd hfits.1 (Nat.not_le.mpr hlong)
  · exact validCalls_pairRoot haccented hplain hid (by decide +kernel) (by decide +kernel)
