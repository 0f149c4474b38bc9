import ScriptShell.Proofs.Script.Chunks
/-!
Loading a script. The lines of a text are the only ones that make it up again and are cut after
newlines alone, so nothing is lost and nothing is moved. A file loads as a whole, or not at all.
-/
namespace ScriptShell

namespace Text
variable {α : Type} {isEnd : α → Bool}

theorem mem_splitAfter {as piece : List α} (h : piece ∈ splitAfter isEnd as) :
    piece ≠ [] ∧ ∀ a ∈ piece.dropLast, isEnd a = false := by
  induction as generalizing piece with
  | nil => cases h
  | cons a rest ih =>
      rw [splitAfter] at h
      by_cases hEnd : isEnd a = true
      · rw [if_pos hEnd] at h
        rcases List.mem_cons.mp h with rfl | h
        · exact ⟨List.cons_ne_nil _ _, by simp⟩
        · exact ih h
      · rw [if_neg hEnd] at h
        cases hPieces : splitAfter isEnd rest with
        | nil =>
            rw [hPieces] at h
            rw [List.mem_singleton.mp h]
            exact ⟨List.cons_ne_nil _ _, by simp⟩
        | cons first more =>
            rw [hPieces] at h ih
            rcases List.mem_cons.mp h with rfl | h
            · obtain ⟨hFirst, hInner⟩ := ih List.mem_cons_self
              refine ⟨List.cons_ne_nil _ _, ?_⟩
              rw [List.dropLast_cons_of_ne_nil hFirst, List.forall_mem_cons]
              exact ⟨by simpa using hEnd, hInner⟩
            · exact ih (List.mem_cons_of_mem _ h)

/-- A piece goes as far as the first element that ends one. -/
theorem splitAfter_append {piece : List α} {a : α} (hInner : ∀ b ∈ piece, isEnd b = false)
    (hEnd : isEnd a = true) (rest : List α) :
    splitAfter isEnd (piece ++ [a] ++ rest) = (piece ++ [a]) :: splitAfter isEnd rest := by
  induction piece with
  | nil => exact if_pos hEnd
  | cons b piece ih =>
      rw [List.forall_mem_cons] at hInner
      have hMore := ih hInner.2
      simp only [List.cons_append] at hMore ⊢
      rw [splitAfter, if_neg (by simp [hInner.1]), hMore]

theorem splitAfter_of_no_end {as : List α} (hSome : as ≠ []) (h : ∀ a ∈ as, isEnd a = false) :
    splitAfter isEnd as = [as] := by
  induction as with
  | nil => exact absurd rfl hSome
  | cons a rest ih =>
      rw [List.forall_mem_cons] at h
      rw [splitAfter, if_neg (by simp [h.1])]
      by_cases hRest : rest = []
      · rw [hRest]
        rfl
      · rw [ih hRest h.2]

end Text

/-- What the lines of a text are: none is empty, a newline is the last character of its line, and
every line but the last one has its newline. -/
structure AreLines (lines : List String) : Prop where
  nonempty : ∀ line ∈ lines, line ≠ ""
  inner : ∀ line ∈ lines, '\n' ∉ line.toList.dropLast
  ended : Ended lines

theorem join_lines (text : String) : String.join (Text.lines text) = text := by
  have hFlat := Text.flatten_splitAfter (· == '\n') text.toList
  rw [← String.toList_inj, Text.lines]
  simpa [List.flatMap_map, List.flatMap_id'] using hFlat

theorem areLines_lines (text : String) : AreLines (Text.lines text) where
  nonempty line hLine := by
    obtain ⟨piece, hPiece, rfl⟩ := List.mem_map.mp hLine
    rw [ne_eq, ← String.toList_eq_nil_iff, String.toList_ofList]
    exact (Text.mem_splitAfter hPiece).1
  inner line hLine hNewline := by
    obtain ⟨piece, hPiece, rfl⟩ := List.mem_map.mp hLine
    rw [String.toList_ofList] at hNewline
    have hNone := (Text.mem_splitAfter hPiece).2 _ hNewline
    simp at hNone
  ended := ended_lines text

section
variable {line : String}

theorem ends_none {cs : List Char} (h : '\n' ∉ cs) : ∀ c ∈ cs, (c == '\n') = false := by
  intro c hChar
  rw [beq_eq_false_iff_ne]
  rintro rfl
  exact h hChar

theorem lines_append (hInner : '\n' ∉ line.toList.dropLast)
    (hLast : line.toList.getLast? = some '\n') (text : String) :
    Text.lines (line ++ text) = line :: Text.lines text := by
  obtain ⟨init, hChars⟩ := List.getLast?_eq_some_iff.mp hLast
  have hPlain : '\n' ∉ init := by rwa [hChars, List.dropLast_concat] at hInner
  rw [Text.lines, String.toList_append, hChars, Text.splitAfter_append (ends_none hPlain) (by simp),
    List.map_cons, ← hChars, String.ofList_toList]
  rfl

theorem lines_of_line (hSome : line ≠ "") (hInner : '\n' ∉ line.toList.dropLast) :
    Text.lines line = [line] := by
  by_cases hLast : line.toList.getLast? = some '\n'
  · have hAlone := lines_append hInner hLast ""
    rwa [String.append_empty] at hAlone
  · have hChars : line.toList ≠ [] := mt String.toList_eq_nil_iff.mp hSome
    have hPlain : '\n' ∉ line.toList := by
      rw [List.getLast?_eq_some_getLast hChars] at hLast
      rw [← List.dropLast_concat_getLast hChars, List.mem_append, List.mem_singleton, not_or]
      exact ⟨hInner, fun hNewline => hLast (congrArg some hNewline.symm)⟩
    rw [Text.lines, Text.splitAfter_of_no_end hChars (ends_none hPlain), List.map_singleton,
      String.ofList_toList]

end

/-- Lines are found again in the text that they make up. -/
theorem AreLines.lines_join {lines : List String} (h : AreLines lines) :
    Text.lines (String.join lines) = lines := by
  induction lines with
  | nil => rfl
  | cons line rest ih =>
      obtain ⟨hNonempty, hInner, hLast, hEnded⟩ := h
      rw [List.forall_mem_cons] at hNonempty hInner
      rw [String.join_cons]
      by_cases hRest : rest = []
      · rw [hRest, String.join_nil, String.append_empty, lines_of_line hNonempty.1 hInner.1]
      · rw [lines_append hInner.1 (hLast hRest), ih ⟨hNonempty.2, hInner.2, hEnded⟩]

/-- The lines of a text are the only lines that make it up. -/
theorem lines_eq_iff {text : String} {lines : List String} :
    Text.lines text = lines ↔ String.join lines = text ∧ AreLines lines := by
  constructor
  · rintro rfl
    exact ⟨join_lines text, areLines_lines text⟩
  · rintro ⟨rfl, hLines⟩
    exact hLines.lines_join

/-- A carriage return ends no line, and no text has no lines. -/
example : Text.lines "a\rb\r\n\nc" = ["a\rb\r\n", "\n", "c"] ∧ Text.lines "" = [] := by decide

section
variable {files : FileTree} {path : String}

theorem scriptLines_of_error {error : FileError} (h : files.read path = .error error) :
    scriptLines files path = .error (.unreadable path error) := by
  simp only [scriptLines, h]

theorem scriptLines_of_text {text : String} (h : files.read path = .ok text.toUTF8) :
    scriptLines files path = .ok (Text.lines text) := by
  simp only [scriptLines, h, Text.Utf8.decode_eq_ok_iff.mpr rfl]

theorem exists_text_iff {bytes : ByteArray} :
    (∃ text : String, bytes = text.toUTF8) ↔ bytes.IsValidUTF8 := by
  constructor
  · rintro ⟨text, rfl⟩
    exact text.isValidUTF8
  · intro hValid
    exact ⟨⟨bytes, hValid⟩, rfl⟩

/-- A file that is not text is refused as a whole, wherever it stops being text. -/
theorem scriptLines_of_invalid {bytes : ByteArray} (h : files.read path = .ok bytes)
    (hInvalid : ¬bytes.IsValidUTF8) :
    ∃ fault, scriptLines files path = .error (.notText path fault) := by
  cases hDecode : Text.Utf8.decode bytes with
  | ok text =>
      have hText := (Text.Utf8.decode_eq_ok_iff.mp hDecode).symm
      exact absurd (exists_text_iff.mp ⟨text, hText⟩) hInvalid
  | error fault => exact ⟨fault, by simp only [scriptLines, h, hDecode]⟩

theorem scriptLines_eq_ok_iff {lines : List String} :
    scriptLines files path = .ok lines ↔
      ∃ text : String, files.read path = .ok text.toUTF8 ∧ lines = Text.lines text := by
  constructor
  · intro h
    cases hRead : files.read path with
    | error error =>
        rw [scriptLines_of_error hRead] at h
        cases h
    | ok bytes =>
        by_cases hValid : bytes.IsValidUTF8
        · obtain ⟨text, rfl⟩ := exists_text_iff.mpr hValid
          rw [scriptLines_of_text hRead] at h
          cases h
          exact ⟨text, rfl, rfl⟩
        · obtain ⟨fault, hFault⟩ := scriptLines_of_invalid hRead hValid
          rw [hFault] at h
          cases h
  · rintro ⟨text, hRead, rfl⟩
    exact scriptLines_of_text hRead

/-- What a file loads as is a list of lines that make up its bytes, and no other list. -/
theorem scriptLines_eq_ok_iff_of_read {bytes : ByteArray} {lines : List String}
    (hRead : files.read path = .ok bytes) :
    scriptLines files path = .ok lines ↔
      (String.join lines).toUTF8 = bytes ∧ AreLines lines := by
  rw [scriptLines_eq_ok_iff, hRead]
  constructor
  · rintro ⟨text, hText, hLines⟩
    obtain ⟨rfl, hAreLines⟩ := lines_eq_iff.mp hLines.symm
    cases hText
    exact ⟨rfl, hAreLines⟩
  · rintro ⟨rfl, hAreLines⟩
    exact ⟨_, rfl, (lines_eq_iff.mpr ⟨rfl, hAreLines⟩).symm⟩

theorem read_of_unreadable {error : FileError}
    (h : scriptLines files path = .error (.unreadable path error)) :
    files.read path = .error error := by
  unfold scriptLines at h
  split at h
  · next hRead =>
      cases h
      exact hRead
  · split at h <;> cases h

end

end ScriptShell
