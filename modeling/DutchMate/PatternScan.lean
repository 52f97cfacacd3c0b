/-
# Patterns in lines of any bytes

`PatternDetector.scan_line` looks for a pattern in the decoded text of a line before it looks for
its bytes.  The text is decoded with replacement, so it may hold what the bytes do not; it holds
everything that they do.
-/
import DutchMate.UartCapture
import DutchMate.Utf8Text

namespace PatternScan

/-- A string is found exactly when it occurs. -/
theorem isSome_find_iff {α : Type*} [DecidableEq α] (pat s : List α) :
    (Bytes.find pat s).isSome ↔ pat <:+: s := by
  induction s with
  | nil =>
    rw [Bytes.find, List.infix_nil]
    split
    · next h => exact iff_of_true rfl h
    · next h => exact iff_of_false Bool.false_ne_true h
  | cons x s ih =>
    rw [Bytes.find, List.infix_cons_iff, ← ih, ← List.isPrefixOf_iff_prefix]
    split
    · next h => exact iff_of_true rfl (.inl h)
    · next h =>
      rw [Option.isSome_map]
      exact ⟨.inr, fun hor => hor.resolve_left h⟩

/-- The bytes of a pattern occur only where its characters are decoded. -/
theorem find_text_of_find_raw {pattern : String} {line : UartLine}
    (hline : line.text = Utf8.decodeReplace line.raw)
    (h : (Bytes.find (Utf8.encode pattern) line.raw).isSome) :
    (Bytes.find pattern.toList line.text).isSome := by
  rw [isSome_find_iff] at h ⊢
  rw [hline]
  exact Utf8.infix_decodeReplace h

theorem scanPattern_eq {pattern : String} {line : UartLine}
    (hline : line.text = Utf8.decodeReplace line.raw) {i : ℕ}
    (h : Bytes.find (Utf8.encode pattern) line.raw = some i) :
    ∃ m, scanPattern pattern line = some m ∧ m.pattern = pattern := by
  have htext := find_text_of_find_raw hline (by rw [h]; rfl)
  obtain ⟨j, hj⟩ := Option.isSome_iff_exists.mp htext
  unfold scanPattern
  rw [hj]
  dsimp only [bind, Option.bind]
  rw [h]
  exact ⟨_, rfl, rfl⟩

theorem span_of_scanPattern {pattern : String} {line : UartLine} {m : PatternMatch}
    (h : scanPattern pattern line = some m) :
    m.pattern = pattern ∧ ∃ i, Bytes.find (Utf8.encode pattern) line.raw = some i ∧
      m.matchStartByte = some i ∧
      m.matchEndByte = some (i + (Utf8.encode pattern).length) := by
  unfold scanPattern at h
  obtain ⟨_, -, h⟩ := Option.bind_eq_some_iff.mp h
  obtain ⟨i, hi, h⟩ := Option.bind_eq_some_iff.mp h
  rw [← Option.some.inj h]
  exact ⟨rfl, i, hi, rfl, rfl⟩

/-- A pattern is reported exactly when its bytes occur in the line, at their first occurrence. -/
theorem scanLine_iff {patterns : List String} {pattern : String} {line : UartLine}
    (hline : line.text = Utf8.decodeReplace line.raw) (hpattern : pattern ∈ patterns) :
    ((∃ m ∈ scanLine patterns line, m.pattern = pattern)
        ↔ Utf8.encode pattern <:+: line.raw) ∧
      ∀ m ∈ scanLine patterns line, m.pattern = pattern →
        ∃ i, m.matchStartByte = some i ∧
          m.matchEndByte = some (i + (Utf8.encode pattern).length) ∧
          Bytes.OccursAt (Utf8.encode pattern) line.raw i ∧
          ∀ j < i, ¬Bytes.OccursAt (Utf8.encode pattern) line.raw j := by
  have hspan : ∀ m ∈ scanLine patterns line, m.pattern = pattern →
      ∃ i, Bytes.find (Utf8.encode pattern) line.raw = some i ∧ m.matchStartByte = some i ∧
        m.matchEndByte = some (i + (Utf8.encode pattern).length) := by
    intro m hm hsame
    obtain ⟨other, -, hscan⟩ := List.mem_filterMap.mp hm
    obtain ⟨hother, i, hi, hstart, hend⟩ := span_of_scanPattern hscan
    rw [← hother, hsame] at hi hend
    exact ⟨i, hi, hstart, hend⟩
  refine ⟨⟨?_, fun hinfix => ?_⟩, fun m hm hsame => ?_⟩
  · rintro ⟨m, hm, hsame⟩
    obtain ⟨i, hi, -, -⟩ := hspan m hm hsame
    rw [← isSome_find_iff, hi]
    rfl
  · obtain ⟨i, hi⟩ := Option.isSome_iff_exists.mp ((isSome_find_iff _ _).mpr hinfix)
    obtain ⟨m, hm, hsame⟩ := scanPattern_eq hline hi
    exact ⟨m, List.mem_filterMap.mpr ⟨pattern, hpattern, hm⟩, hsame⟩
  · obtain ⟨i, hi, hstart, hend⟩ := hspan m hm hsame
    obtain ⟨hocc, hfirst⟩ := (Bytes.find_eq_some_iff _ _ i).mp hi
    exact ⟨i, hstart, hend, hocc, hfirst⟩

/-- A pattern with U+FFFD in a line whose bytes before it are not well formed: the text holds two
of them, the bytes one. -/
theorem scanLine_iff_replacement :
    ((∃ m ∈ scanLine ["\uFFFDA"]
          (lineOf (tagFrom 0 0 0 0 [0xFF, 0x41, 0xE2, 0xEF, 0xBF, 0xBD, 0x41])), m.pattern = "\uFFFDA")
        ↔ Utf8.encode "\uFFFDA" <:+: [0xFF, 0x41, 0xE2, 0xEF, 0xBF, 0xBD, 0x41]) ∧
      ∀ m ∈ scanLine ["\uFFFDA"]
          (lineOf (tagFrom 0 0 0 0 [0xFF, 0x41, 0xE2, 0xEF, 0xBF, 0xBD, 0x41])),
        m.pattern = "\uFFFDA" →
          ∃ i, m.matchStartByte = some i ∧
            m.matchEndByte = some (i + (Utf8.encode "\uFFFDA").length) ∧
            Bytes.OccursAt (Utf8.encode "\uFFFDA") [0xFF, 0x41, 0xE2, 0xEF, 0xBF, 0xBD, 0x41] i ∧
            ∀ j < i,
              ¬Bytes.OccursAt (Utf8.encode "\uFFFDA") [0xFF, 0x41, 0xE2, 0xEF, 0xBF, 0xBD, 0x41] j :=
  scanLine_iff rfl (by simp)

end PatternScan
