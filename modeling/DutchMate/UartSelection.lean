/-
# The selected lines

What the selector keeps of the lines that it has observed, and what it selects of them.  The window
around the first-error line is offered first, from its first line on.
-/
import DutchMate.Budget
import DutchMate.UartStream

open LogReplay

namespace DebugEvidence

/-! ## The lines kept -/

section

variable (facts : SessionFacts) (patterns : List LineReference)

def excerptAt (ordinal : ℕ) (line : RecentLogLine) : UartExcerpt :=
  excerptOf facts patterns ordinal (reference line) line.timestampUs line.lineText line.isPartial

/-- The excerpts of all the lines of a session. -/
def excerptsOf (lines : List RecentLogLine) : List UartExcerpt :=
  lines.mapIdx (excerptAt facts patterns)

/-- The place of the first-error line. -/
def errorIndex (lines : List RecentLogLine) : Option ℕ :=
  lines.findIdx? fun line => facts.firstError = some (reference line)

end

/-- The lines around one, which is not among them if there are fewer. -/
def window {α : Type} (items : List α) (index : ℕ) : List α :=
  (items.take (index + errorContextLines + 1)).drop (index - errorContextLines)

/-- What the selector has when it has observed some lines. -/
structure Observes (facts : SessionFacts) (patterns : List LineReference)
    (lines : List RecentLogLine) (s : UartSelector) : Prop where
  count : s.count = lines.length
  before : s.before = (excerptsOf facts patterns lines).drop (lines.length - errorContextLines)
  listed : ∀ excerpt ∈ s.pattern ++ (s.start ++ (s.ending ++ s.recent)),
    excerpt ∈ excerptsOf facts patterns lines
  missing : errorIndex facts lines = none →
    s.error = [] ∧ s.afterError = 0 ∧ s.firstErrorFound = false
  found : ∀ index, errorIndex facts lines = some index →
    s.error = window (excerptsOf facts patterns lines) index ∧
      s.afterError = index + errorContextLines + 1 - lines.length ∧ s.firstErrorFound = true

variable {facts : SessionFacts} {patterns : List LineReference} {lines : List RecentLogLine}
  {line : RecentLogLine} {s : UartSelector}

theorem excerptsOf_concat (lines : List RecentLogLine) (line : RecentLogLine) :
    excerptsOf facts patterns (lines ++ [line])
      = excerptsOf facts patterns lines ++ [excerptAt facts patterns lines.length line] :=
  List.mapIdx_concat

theorem length_excerptsOf (lines : List RecentLogLine) :
    (excerptsOf facts patterns lines).length = lines.length := List.length_mapIdx

theorem errorIndex_concat (lines : List RecentLogLine) (line : RecentLogLine) :
    errorIndex facts (lines ++ [line])
      = (errorIndex facts lines).or
          (if facts.firstError = some (reference line) then some lines.length else none) := by
  rw [errorIndex, List.findIdx?_append, List.findIdx?_singleton]
  by_cases herror : facts.firstError = some (reference line)
  · rw [if_pos herror, decide_eq_true herror]
    simp [errorIndex]
  · rw [if_neg herror, decide_eq_false herror]
    simp [errorIndex]

theorem errorIndex_eq_some {index : ℕ} (h : errorIndex facts lines = some index) :
    ∃ hindex : index < lines.length, facts.firstError = some (reference lines[index]) := by
  obtain ⟨hindex, hline, -⟩ := List.findIdx?_eq_some_iff_getElem.mp h
  exact ⟨hindex, of_decide_eq_true hline⟩

/-- A deque that holds the last of some items, and one more of them. -/
theorem pushBounded_drop {α : Type} (maxlen : ℕ) (items : List α) (item : α) :
    pushBounded maxlen (items.drop (items.length - maxlen)) item
      = (items ++ [item]).drop (items.length + 1 - maxlen) := by
  have hplace : items.length - maxlen + (items.length - (items.length - maxlen) + 1 - maxlen)
      = items.length + 1 - maxlen := by omega
  rw [pushBounded, List.length_drop, ← List.drop_append_of_le_length (Nat.sub_le _ _),
    List.drop_drop, hplace]

theorem window_concat_of_lt {α : Type} {items : List α} {index : ℕ} (item : α)
    (h : items.length < index + errorContextLines + 1) (hindex : index ≤ items.length) :
    window (items ++ [item]) index = window items index ++ [item] := by
  have hall : (items ++ [item]).length ≤ index + errorContextLines + 1 := by
    rw [List.length_append, List.length_singleton]
    omega
  rw [window, window, List.take_of_length_le hall, List.take_of_length_le h.le,
    List.drop_append_of_le_length ((Nat.sub_le _ _).trans hindex)]

theorem window_concat_of_le {α : Type} {items : List α} {index : ℕ} (item : α)
    (h : index + errorContextLines + 1 ≤ items.length) :
    window (items ++ [item]) index = window items index := by
  rw [window, window, List.take_append_of_le_length h]

theorem window_length {α : Type} (items : List α) (item : α) :
    window (items ++ [item]) items.length
      = items.drop (items.length - errorContextLines) ++ [item] := by
  have hall : (items ++ [item]).length ≤ items.length + errorContextLines + 1 := by
    rw [List.length_append, List.length_singleton]
    omega
  rw [window, List.take_of_length_le hall, List.drop_append_of_le_length (Nat.sub_le _ _)]

/-- A bounded list takes an item or leaves it. -/
theorem mem_pushBounded {α : Type} {maxlen : ℕ} {items : List α} {item other : α}
    (h : other ∈ pushBounded maxlen items item) : other ∈ items ∨ other = item := by
  rw [pushBounded] at h
  have hmem := List.mem_of_mem_drop h
  rw [List.mem_append, List.mem_singleton] at hmem
  exact hmem

theorem mem_ite_concat {α : Type} {p : Prop} [Decidable p] {items : List α} {item other : α}
    (h : other ∈ if p then items ++ [item] else items) : other ∈ items ∨ other = item := by
  split at h
  · rw [List.mem_append, List.mem_singleton] at h
    exact h
  · exact .inl h

theorem observes_nil : Observes facts patterns [] {} where
  count := rfl
  before := rfl
  listed := nofun
  missing _ := ⟨rfl, rfl, rfl⟩
  found := nofun

theorem mem_listed {α : Type} {p q : Prop} [Decidable p] [Decidable q] {m n : ℕ}
    {pattern start ending recent : List α} {item other : α}
    (h : other ∈ (if p then pattern ++ [item] else pattern) ++
      ((if q then start ++ [item] else start) ++
        (pushBounded m ending item ++ pushBounded n recent item))) :
    other ∈ pattern ++ (start ++ (ending ++ recent)) ∨ other = item := by
  simp only [List.mem_append] at h ⊢
  rcases h with h | h | h | h
  · exact (mem_ite_concat h).imp_left .inl
  · exact (mem_ite_concat h).imp_left fun h => .inr (.inl h)
  · exact (mem_pushBounded h).imp_left fun h => .inr (.inr (.inl h))
  · exact (mem_pushBounded h).imp_left fun h => .inr (.inr (.inr h))

variable (facts patterns) in
/-- What observing a line does besides the window. -/
theorem observeLine_lists (s : UartSelector) (line : RecentLogLine) :
    (observeLine facts patterns s line).count = s.count + 1 ∧
      (observeLine facts patterns s line).before
        = pushBounded errorContextLines s.before (excerptAt facts patterns s.count line) ∧
      ∀ other ∈ (observeLine facts patterns s line).pattern ++
          ((observeLine facts patterns s line).start ++
            ((observeLine facts patterns s line).ending ++
              (observeLine facts patterns s line).recent)),
        other ∈ s.pattern ++ (s.start ++ (s.ending ++ s.recent)) ∨
          other = excerptAt facts patterns s.count line := by
  unfold observeLine observeAt
  dsimp only
  split
  · exact ⟨rfl, rfl, fun _ => mem_listed⟩
  · split
    · exact ⟨rfl, rfl, fun _ => mem_listed⟩
    · exact ⟨rfl, rfl, fun _ => mem_listed⟩

variable (patterns) in
theorem observeLine_first (h : facts.firstError = some (reference line)) (s : UartSelector) :
    (observeLine facts patterns s line).error
        = s.error ++ s.before ++ [excerptAt facts patterns s.count line] ∧
      (observeLine facts patterns s line).afterError = errorContextLines ∧
      (observeLine facts patterns s line).firstErrorFound = true := by
  unfold observeLine observeAt
  dsimp only
  rw [if_pos h]
  exact ⟨rfl, rfl, rfl⟩

variable (patterns) in
theorem observeLine_behind (h : facts.firstError ≠ some (reference line)) (s : UartSelector) :
    (observeLine facts patterns s line).error
        = (if s.afterError = 0 then s.error
          else s.error ++ [excerptAt facts patterns s.count line]) ∧
      (observeLine facts patterns s line).afterError = s.afterError - 1 ∧
      (observeLine facts patterns s line).firstErrorFound = s.firstErrorFound := by
  unfold observeLine observeAt
  dsimp only
  rw [if_neg h]
  by_cases hafter : s.afterError = 0
  · rw [if_neg (not_not.mpr hafter), if_pos hafter, hafter]
    exact ⟨rfl, rfl, rfl⟩
  · rw [if_pos hafter, if_neg hafter]
    exact ⟨rfl, rfl, rfl⟩

/-- One more line is observed. -/
theorem Observes.observe (h : Observes facts patterns lines s)
    (hnodup : ((lines ++ [line]).map reference).Nodup) :
    Observes facts patterns (lines ++ [line]) (observeLine facts patterns s line) := by
  obtain ⟨hcount, hbefore, hlisted⟩ := observeLine_lists facts patterns s line
  rw [h.count] at hcount hbefore hlisted
  have hlength : (excerptsOf facts patterns lines).length = lines.length := length_excerptsOf lines
  refine ⟨?_, ?_, fun other hother => ?_, fun hnone => ?_, fun index hindex => ?_⟩
  · rw [hcount, List.length_append, List.length_singleton]
  · rw [hbefore, h.before, ← hlength, pushBounded_drop, hlength, excerptsOf_concat,
      List.length_append, List.length_singleton]
  · rw [excerptsOf_concat, List.mem_append, List.mem_singleton]
    exact (hlisted other hother).imp_left (h.listed other)
  · rw [errorIndex_concat, Option.or_eq_none_iff] at hnone
    have herror : facts.firstError ≠ some (reference line) := fun heq => by
      rw [if_pos heq] at hnone
      cases hnone.2
    obtain ⟨hlines, hafter, hfound⟩ := h.missing hnone.1
    obtain ⟨herror, hafter', hfound'⟩ := observeLine_behind patterns herror s
    rw [herror, if_pos hafter, hafter', hafter, hfound']
    exact ⟨hlines, rfl, hfound⟩
  · rw [errorIndex_concat] at hindex
    by_cases herror : facts.firstError = some (reference line)
    · have hnone : errorIndex facts lines = none := by
        rw [List.map_append, List.map_singleton, List.nodup_append] at hnodup
        refine List.findIdx?_eq_none_iff.mpr fun other hother => decide_eq_false fun heq => ?_
        have hsame : reference other = reference line := Option.some.inj (heq.symm.trans herror)
        exact hnodup.2.2 _ (List.mem_map_of_mem hother) _ List.mem_cons_self hsame
      rw [hnone, if_pos herror, Option.none_or] at hindex
      obtain rfl := Option.some.inj hindex
      obtain ⟨hlines, hafter, hfound⟩ := observeLine_first patterns herror s
      rw [hlines, (h.missing hnone).1, List.nil_append, h.before, h.count, hafter,
        excerptsOf_concat, ← hlength, window_length]
      refine ⟨rfl, ?_, hfound⟩
      rw [List.length_append, List.length_singleton]
      omega
    · rw [if_neg herror, Option.or_none] at hindex
      obtain ⟨hlines, hafter, hfound⟩ := h.found index hindex
      obtain ⟨hlines', hafter', hfound'⟩ := observeLine_behind patterns herror s
      obtain ⟨hlt, -⟩ := errorIndex_eq_some hindex
      rw [hlines', hafter', hfound', hlines, h.count, excerptsOf_concat]
      refine ⟨?_, ?_, hfound⟩
      · split
        · next hzero =>
          rw [window_concat_of_le _ (by omega)]
        · next hpos =>
          rw [window_concat_of_lt _ (by omega) (by omega)]
      · rw [List.length_append, List.length_singleton, hafter]
        omega

variable (facts patterns) in
theorem observes_foldl (hnodup : (lines.map reference).Nodup) :
    Observes facts patterns lines (lines.foldl (observeLine facts patterns) {}) := by
  induction lines using List.reverseRecOn with
  | nil => exact observes_nil
  | append_singleton lines line ih =>
    rw [List.foldl_concat]
    refine (ih ?_).observe hnodup
    rw [List.map_append] at hnodup
    exact hnodup.of_append_left

theorem Selects.observes (h : Selects facts patterns lines s)
    (hnodup : (lines.map reference).Nodup) : Observes facts patterns lines s := by
  obtain ⟨n, rfl⟩ := h
  obtain ⟨count, before, listed, missing, found⟩ :=
    observes_foldl facts patterns hnodup
  exact ⟨count, before, listed, missing, found⟩

/-! ## The selection -/

/-- The values of a dictionary in the order of its keys, each of them that of its value. -/
theorem sortedEntries_keyed {α κ : Type} [LinearOrder κ] {key : α → κ} {items : List α}
    {d : Dict κ α} (h : d.entries = items.map fun item => (key item, item)) :
    d.sortedEntries.map Prod.snd = Newest.sorted key items := by
  have hnodup : (items.map key).Nodup := by
    have hkeys := d.nodup
    rwa [h, List.map_map] at hkeys
  refine (Newest.sorted_eq hnodup ?_ ?_).symm
  · have hperm := (Dict.sortedEntries_perm d).map Prod.snd
    rw [h, List.map_map] at hperm
    exact hperm.trans (List.Perm.of_eq (List.map_id _))
  · have hsorted : d.sortedEntries.Pairwise (Prod.fst · ≤ Prod.fst ·) :=
      Newest.pairwise_sorted d.entries
    refine List.pairwise_map.mpr (hsorted.imp_of_mem fun {entry other} hentry hother hle => ?_)
    rw [Dict.mem_sortedEntries, h] at hentry hother
    obtain ⟨item, -, rfl⟩ := List.mem_map.mp hentry
    obtain ⟨item', -, rfl⟩ := List.mem_map.mp hother
    exact hle

/-- The excerpts selected, in the order in which they were offered. -/
def taken (excerpts : List UartExcerpt) : List UartExcerpt :=
  Budget.choose UartExcerpt.ordinal UartExcerpt.textSize uartLineLimit uartTextBytes excerpts

/-- The dictionary of `select` when some excerpts have been taken. -/
structure Holds (excerpts : List UartExcerpt) (selected : Dict ℕ UartExcerpt × ℕ) : Prop where
  entries : selected.1.entries = excerpts.map fun excerpt => (excerpt.ordinal, excerpt)
  textBytes : selected.2 = Budget.total UartExcerpt.textSize excerpts

theorem Holds.offer {excerpts : List UartExcerpt} {selected : Dict ℕ UartExcerpt × ℕ}
    (h : Holds excerpts selected) (excerpt : UartExcerpt) :
    Holds (Budget.offer UartExcerpt.ordinal UartExcerpt.textSize uartLineLimit uartTextBytes
      excerpts excerpt) (offerExcerpt selected excerpt) := by
  have hkeys : selected.1.keys = excerpts.map UartExcerpt.ordinal := by
    rw [Dict.keys, h.entries, List.map_map]
    rfl
  have hcontains : selected.1.contains excerpt.ordinal = true
      ↔ excerpt.ordinal ∈ excerpts.map UartExcerpt.ordinal := by
    rw [← hkeys, Dict.mem_keys_iff, Dict.contains, Option.isSome_iff_exists]
  have hlength : selected.1.length = excerpts.length := by
    rw [Dict.length, h.entries, List.length_map]
  unfold Budget.offer Budget.Exceeds offerExcerpt
  by_cases hmem : excerpt.ordinal ∈ excerpts.map UartExcerpt.ordinal
  · rw [if_pos (.inl hmem), if_pos (hcontains.mpr hmem)]
    exact h
  · rw [if_neg (mt hcontains.mp hmem), hlength, h.textBytes]
    by_cases hexceeds : uartLineLimit ≤ excerpts.length ∨
        uartTextBytes < Budget.total UartExcerpt.textSize excerpts + excerpt.textSize
    · rw [if_pos (.inr hexceeds), if_pos hexceeds]
      exact h
    · rw [if_neg (not_or.mpr ⟨hmem, hexceeds⟩), if_neg hexceeds]
      refine ⟨?_, ?_⟩
      · rw [Dict.entries_set_of_notMem _ _ (hkeys ▸ hmem), h.entries, List.map_append,
          List.map_singleton]
      · exact (Budget.total_concat _ _).symm

theorem holds_taken (excerpts : List UartExcerpt) :
    Holds (taken excerpts) (excerpts.foldl offerExcerpt (∅, 0)) := by
  have hstep : ∀ (items : List UartExcerpt) {selected : Dict ℕ UartExcerpt × ℕ},
      Holds items selected → Holds (Budget.offerAll UartExcerpt.ordinal UartExcerpt.textSize
        uartLineLimit uartTextBytes items excerpts) (excerpts.foldl offerExcerpt selected) := by
    induction excerpts with
    | nil => exact fun _ _ h => h
    | cons excerpt excerpts ih => exact fun items selected h => ih _ (h.offer excerpt)
  exact hstep [] ⟨rfl, rfl⟩

/-- The selected excerpts in the order of their ordinals, and the bytes of their texts. -/
theorem select_eq (s : UartSelector) :
    s.select = (Newest.sorted UartExcerpt.ordinal (taken s.offered),
      Budget.total UartExcerpt.textSize (taken s.offered)) := by
  have h := holds_taken s.offered
  unfold UartSelector.select
  generalize s.offered.foldl offerExcerpt (∅, 0) = selected at h
  exact Prod.ext (sortedEntries_keyed h.entries) h.textBytes

/-! ## What is selected -/

theorem ordinal_excerptsOf (lines : List RecentLogLine) :
    (excerptsOf facts patterns lines).map UartExcerpt.ordinal = List.range lines.length := by
  induction lines using List.reverseRecOn with
  | nil => rfl
  | append_singleton lines line ih =>
    rw [excerptsOf_concat, List.map_append, ih, List.length_append, List.length_singleton,
      List.range_succ]
    rfl

theorem pairwise_excerptsOf (lines : List RecentLogLine) :
    (excerptsOf facts patterns lines).Pairwise
      fun excerpt other => excerpt.ordinal < other.ordinal := by
  refine List.pairwise_map.mp ?_
  rw [ordinal_excerptsOf]
  exact List.pairwise_lt_range

theorem nodup_excerptsOf (lines : List RecentLogLine) :
    ((excerptsOf facts patterns lines).map UartExcerpt.ordinal).Nodup := by
  rw [ordinal_excerptsOf]
  exact List.nodup_range

/-- Every excerpt offered is one of a line observed. -/
theorem Observes.mem_offered (h : Observes facts patterns lines s) {excerpt : UartExcerpt}
    (hmem : excerpt ∈ s.offered) : excerpt ∈ excerptsOf facts patterns lines := by
  rw [UartSelector.offered, List.mem_append] at hmem
  rcases hmem with hmem | hmem
  · cases hindex : errorIndex facts lines with
    | none =>
      rw [(h.missing hindex).1] at hmem
      cases hmem
    | some index =>
      rw [(h.found index hindex).1] at hmem
      exact List.mem_of_mem_take (List.mem_of_mem_drop hmem)
  · exact h.listed excerpt hmem

/-- What is selected are excerpts of the lines, each once and in their order. -/
theorem Observes.sublist (h : Observes facts patterns lines s) :
    s.select.1.Sublist (excerptsOf facts patterns lines) := by
  rw [select_eq]
  exact Newest.sorted_sublist (Budget.within_choose _).nodup
    (fun excerpt hmem => h.mem_offered (Budget.mem_of_mem_choose hmem)) (pairwise_excerptsOf lines)

theorem mem_select (s : UartSelector) (excerpt : UartExcerpt) :
    excerpt ∈ s.select.1 ↔ excerpt ∈ taken s.offered := by
  rw [select_eq]
  exact (Newest.sorted_perm _).mem_iff

theorem sublist_window {α : Type} (items : List α) (index : ℕ) :
    (window items index).Sublist items :=
  (List.drop_sublist _ _).trans (List.take_sublist _ _)

theorem length_window {α : Type} (items : List α) (index : ℕ) :
    (window items index).length ≤ uartLineLimit := by
  rw [window, List.length_drop, List.length_take, uartLineLimit, errorContextLines]
  omega

/-- A line of the window is selected if it fits beside those taken of the lines before it. -/
theorem Observes.mem_window_iff (h : Observes facts patterns lines s) {index : ℕ}
    (hindex : errorIndex facts lines = some index) {before after : List UartExcerpt}
    {excerpt : UartExcerpt}
    (hwindow : window (excerptsOf facts patterns lines) index = before ++ excerpt :: after) :
    excerpt ∈ s.select.1
      ↔ Budget.total UartExcerpt.textSize (taken before) + excerpt.textSize ≤ uartTextBytes := by
  have hkeys : ((window (excerptsOf facts patterns lines) index).map UartExcerpt.ordinal).Nodup :=
    (nodup_excerptsOf lines).sublist ((sublist_window _ _).map _)
  have hlength := length_window (excerptsOf facts patterns lines) index
  rw [mem_select, UartSelector.offered, (h.found index hindex).1, taken,
    Budget.mem_choose_append (fun a ha b hb => List.inj_on_of_nodup_map hkeys ha hb)
      (hwindow ▸ List.mem_append_right _ List.mem_cons_self)]
  rw [hwindow] at hkeys hlength ⊢
  exact Budget.mem_choose_iff hkeys hlength

/-- The lines of the window before one that are selected. -/
def selectedBefore (excerpts around : List UartExcerpt) (excerpt : UartExcerpt) :
    List UartExcerpt :=
  excerpts.filter fun other => other ∈ around ∧ other.ordinal < excerpt.ordinal

theorem Observes.selectedBefore_perm (h : Observes facts patterns lines s) {index : ℕ}
    (hindex : errorIndex facts lines = some index) {before after : List UartExcerpt}
    {excerpt : UartExcerpt}
    (hwindow : window (excerptsOf facts patterns lines) index = before ++ excerpt :: after) :
    (selectedBefore s.select.1 (window (excerptsOf facts patterns lines) index) excerpt).Perm
      (taken before) := by
  have horder : (before ++ excerpt :: after).Pairwise fun excerpt other =>
      excerpt.ordinal < other.ordinal :=
    hwindow ▸ (pairwise_excerptsOf lines).sublist (sublist_window _ index)
  have hkeys : (before.map UartExcerpt.ordinal).Nodup :=
    List.pairwise_map.mpr ((List.pairwise_append.mp horder).1.imp ne_of_lt)
  have hbefore : ∀ other, other ∈ window (excerptsOf facts patterns lines) index ∧
      other.ordinal < excerpt.ordinal ↔ other ∈ before := by
    intro other
    rw [hwindow]
    have hsplit := List.pairwise_append.mp horder
    refine ⟨fun ⟨hmem, hlt⟩ => ?_, fun hmem => ⟨List.mem_append_left _ hmem,
      hsplit.2.2 other hmem excerpt List.mem_cons_self⟩⟩
    rcases List.mem_append.mp hmem with hmem | hmem
    · exact hmem
    · rcases List.mem_cons.mp hmem with rfl | hmem
      · exact absurd hlt (lt_irrefl _)
      · exact absurd hlt ((List.pairwise_cons.mp hsplit.2.1).1 other hmem).asymm
  have hselected : ∀ other ∈ before, (other ∈ s.select.1 ↔ other ∈ taken before) := by
    intro other hmem
    rw [mem_select, UartSelector.offered, (h.found index hindex).1, hwindow, List.append_assoc]
    exact Budget.mem_choose_append (fun a ha b hb => List.inj_on_of_nodup_map hkeys ha hb) hmem
  have hnodup : s.select.1.Nodup := (nodup_excerptsOf lines).of_map.sublist h.sublist
  refine (List.perm_ext_iff_of_nodup (hnodup.filter _)
    (Budget.within_choose _).nodup.of_map).mpr fun other => ?_
  rw [List.mem_filter, decide_eq_true_iff, hbefore, and_comm]
  refine ⟨fun ⟨hmem, hother⟩ => (hselected other hmem).mp hother, fun hother => ?_⟩
  have hmem := Budget.mem_of_mem_choose hother
  exact ⟨hmem, (hselected other hmem).mpr hother⟩

/-! ## What the selection is to be -/

/-- The bytes of a line's text. -/
def lineSize (line : RecentLogLine) : ℕ := (Utf8.encodeChars line.lineText).length

/-- A selection of lines within the limits, which passes over a line of the window only if it does
not fit beside those before it. -/
structure SelectsLines (facts : SessionFacts) (patterns : List LineReference)
    (lines : List RecentLogLine) (excerpts : List UartExcerpt) (textBytes : ℕ) : Prop where
  real : excerpts.Sublist (excerptsOf facts patterns lines)
  count : excerpts.length ≤ uartLineLimit
  total : textBytes = Budget.total UartExcerpt.textSize excerpts
  bytes : textBytes ≤ uartTextBytes
  context : ∀ index, errorIndex facts lines = some index →
    ∀ excerpt ∈ window (excerptsOf facts patterns lines) index, excerpt ∉ excerpts →
      uartTextBytes < Budget.total UartExcerpt.textSize
        (selectedBefore excerpts (window (excerptsOf facts patterns lines) index) excerpt)
          + excerpt.textSize

/-- The first-error line is selected if it fits at all. -/
def SelectsError (facts : SessionFacts) (patterns : List LineReference)
    (lines : List RecentLogLine) (excerpts : List UartExcerpt) : Prop :=
  ∀ index (h : index < lines.length), facts.firstError = some (reference lines[index]) →
    lineSize lines[index] ≤ uartTextBytes →
      excerptAt facts patterns index lines[index] ∈ excerpts

/-- The first-error line fits beside those taken of the lines before it, if it fits at all. -/
def ErrorFits (facts : SessionFacts) (lines : List RecentLogLine) : Prop :=
  ∀ index (h : index < lines.length), facts.firstError = some (reference lines[index]) →
    lineSize lines[index] ≤ uartTextBytes →
      Budget.fill uartTextBytes
          (((lines.take index).drop (index - errorContextLines)).map lineSize)
        + lineSize lines[index] ≤ uartTextBytes

theorem Observes.selectsLines (h : Observes facts patterns lines s) :
    SelectsLines facts patterns lines s.select.1 s.select.2 where
  real := h.sublist
  count := by
    rw [select_eq]
    exact (Newest.length_sorted _).trans_le (Budget.within_choose _).length
  total := by
    rw [select_eq]
    exact (((Newest.sorted_perm _).map _).sum_eq).symm
  bytes := by
    rw [select_eq]
    exact (Budget.within_choose _).total
  context index hindex excerpt hmem hnot := by
    obtain ⟨before, after, hwindow⟩ := List.append_of_mem hmem
    have htotal : Budget.total UartExcerpt.textSize
        (selectedBefore s.select.1 (window (excerptsOf facts patterns lines) index) excerpt)
          = Budget.total UartExcerpt.textSize (taken before) :=
      ((h.selectedBefore_perm hindex hwindow).map _).sum_eq
    rw [htotal, ← not_le]
    exact mt (h.mem_window_iff hindex hwindow).mpr hnot

theorem errorIndex_of_reference (hnodup : (lines.map reference).Nodup) {index : ℕ}
    (hindex : index < lines.length) (herror : facts.firstError = some (reference lines[index])) :
    errorIndex facts lines = some index := by
  refine List.findIdx?_eq_some_iff_getElem.mpr ⟨hindex, decide_eq_true herror, fun other hlt => ?_⟩
  rw [decide_eq_true_iff]
  intro heq
  have hlast : index < (lines.map reference).length := by rwa [List.length_map]
  have hfirst : other < (lines.map reference).length := hlt.trans hlast
  have hsame : (lines.map reference)[other] = (lines.map reference)[index] := by
    rw [List.getElem_map, List.getElem_map]
    exact Option.some.inj (heq.symm.trans herror)
  exact absurd ((List.Nodup.getElem_inj_iff hnodup).mp hsame) hlt.ne

theorem sizes_excerptsOf (lines : List RecentLogLine) :
    (excerptsOf facts patterns lines).map UartExcerpt.textSize = lines.map lineSize := by
  induction lines using List.reverseRecOn with
  | nil => rfl
  | append_singleton lines line ih =>
    rw [excerptsOf_concat, List.map_append, List.map_append, ih]
    rfl

theorem getElem_excerptsOf {index : ℕ} (hindex : index < lines.length)
    (hplace : index < (excerptsOf facts patterns lines).length) :
    (excerptsOf facts patterns lines)[index] = excerptAt facts patterns index lines[index] :=
  List.getElem_mapIdx ..

/-- The window begins with the lines before the one that it is around. -/
theorem window_eq {α : Type} {items : List α} {index : ℕ} (h : index < items.length) :
    ∃ after, window items index
      = (items.take index).drop (index - errorContextLines) ++ items[index] :: after := by
  have hbefore : index - errorContextLines ≤ (items.take index).length := by
    rw [List.length_take_of_le h.le]
    exact Nat.sub_le _ _
  refine ⟨(items.drop (index + 1)).take errorContextLines, ?_⟩
  rw [window, Nat.add_assoc, List.take_add, List.drop_eq_getElem_cons h, List.take_succ_cons,
    List.drop_append_of_le_length hbefore]

theorem Observes.selectsError_iff (h : Observes facts patterns lines s)
    (hnodup : (lines.map reference).Nodup) :
    SelectsError facts patterns lines s.select.1 ↔ ErrorFits facts lines := by
  refine forall_congr' fun index => forall_congr' fun hindex => forall_congr' fun herror =>
    imp_congr_right fun _ => ?_
  have hplace : index < (excerptsOf facts patterns lines).length :=
    (length_excerptsOf lines).symm ▸ hindex
  obtain ⟨after, hwindow⟩ := window_eq hplace
  rw [getElem_excerptsOf hindex hplace] at hwindow
  have hbefore := ((List.drop_sublist (index - errorContextLines) _).trans
    (List.take_sublist index (excerptsOf facts patterns lines)))
  have hlength : (((excerptsOf facts patterns lines).take index).drop
      (index - errorContextLines)).length ≤ uartLineLimit := by
    rw [List.length_drop, List.length_take, uartLineLimit, errorContextLines]
    omega
  rw [h.mem_window_iff (errorIndex_of_reference hnodup hindex herror) hwindow, taken,
    Budget.total_choose_eq_fill ((nodup_excerptsOf lines).sublist (hbefore.map _)) hlength,
    List.map_drop, List.map_take, sizes_excerptsOf, ← List.map_take, ← List.map_drop]
  rfl

/-- The line of the first error was met if it is in the stream. -/
theorem Observes.found_iff (h : Observes facts patterns lines s) :
    s.firstErrorFound = true ↔ ∃ line ∈ lines, facts.firstError = some (reference line) := by
  cases hindex : errorIndex facts lines with
  | none =>
    rw [(h.missing hindex).2.2]
    refine iff_of_false Bool.false_ne_true ?_
    rintro ⟨line, hline, herror⟩
    exact absurd herror (of_decide_eq_false (List.findIdx?_eq_none_iff.mp hindex line hline))
  | some index =>
    obtain ⟨hlt, herror⟩ := errorIndex_eq_some hindex
    exact iff_of_true (h.found index hindex).2.2 ⟨_, List.getElem_mem hlt, herror⟩

end DebugEvidence
