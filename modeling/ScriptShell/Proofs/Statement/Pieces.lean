import ScriptShell.Proofs.Statement.Substitution
/-!
How the scanner takes a piece of a word. For every piece of the grammar there is one equation:
scanning on from the beginning of the piece is scanning on from its end, with what the piece gives
added to the word being read. Where a scan comes to an end without a fault, the piece that it begins
with can be read off it.
-/
namespace ScriptShell

open Grammar

namespace Scan
variable {s : Scan} {c : Char} {cs text rest : List Char} {items : List Item} {ts : List Token}

theorem ne_newline_of_unbroken (unbroken : ¬Broken ('\\' :: c :: cs)) : c ≠ '\n' := by
  rintro rfl
  exact unbroken ⟨_, cs, .newline, rfl⟩

theorem ne_newline_of_unbroken_return (unbroken : ¬Broken ('\\' :: '\r' :: c :: cs)) :
    c ≠ '\n' := by
  rintro rfl
  exact unbroken ⟨_, cs, .carriageReturn, rfl⟩

theorem run_break_quoted (br : Break text) (s : Scan) (cs : List Char) :
    (s.goto .double).run (text ++ cs) = (s.goto .double).run cs := by
  cases br with
  | newline => rfl
  | carriageReturn => rfl

/-- Outside quotes something must follow a line continuation. -/
theorem run_break (br : Break text) (s : Scan) (followed : cs ≠ []) :
    (s.goto .plain).run (text ++ cs) = (s.goto .plain).run cs := by
  have hContinued : (s.goto .plain).run (text ++ cs) = (s.goto .continued).run cs := by
    cases br with
    | newline => rfl
    | carriageReturn => rfl
  cases cs with
  | nil => exact absurd rfl followed
  | cons c cs =>
      have hStep : (s.goto .continued).step c = .ok (s.outside c) := by
        rw [← outside_goto s .continued]
        rfl
      rw [hContinued, run_cons hStep, run_plain_cons]

/-- At the very end a line continuation asks for a further line. -/
theorem run_break_nil (br : Break text) (s : Scan) :
    (s.goto .plain).run text = .error .openEscape := by
  cases br with
  | newline => rfl
  | carriageReturn => rfl

theorem exists_break (hBroken : Broken cs) (hRun : (s.goto .plain).run cs = .ok ts) :
    ∃ br more, cs = br ++ more ∧ Break br ∧ more ≠ [] ∧ (s.goto .plain).run more = .ok ts := by
  obtain ⟨br, more, broken, rfl⟩ := hBroken
  by_cases hMore : more = []
  · rw [hMore, List.append_nil, run_break_nil broken] at hRun
    cases hRun
  · rw [run_break broken s hMore] at hRun
    exact ⟨br, more, rfl, broken, hMore, hRun⟩

theorem step_escape (hNewline : c ≠ '\n') (hReturn : c ≠ '\r') (s : Scan) :
    (s.goto .escape).step c = .ok ((s.put c).goto .plain) := by
  unfold step
  dsimp only [goto]
  split
  · exact absurd rfl hNewline
  · exact absurd rfl hReturn
  · rfl

theorem step_escapeReturn (hNewline : c ≠ '\n') (s : Scan) :
    (s.goto .escapeReturn).step c = .ok ((s.put '\r').outside c) := by
  rw [← outside_goto (s.put '\r') .escapeReturn]
  unfold step
  dsimp only [goto]
  split
  · exact absurd rfl hNewline
  · rfl

theorem run_escape (unbroken : ¬Broken ('\\' :: c :: cs)) (s : Scan) :
    (s.goto .escape).run (c :: cs) = ((s.put c).goto .plain).run cs := by
  by_cases hReturn : c = '\r'
  · subst hReturn
    cases cs with
    | nil => rfl
    | cons d cs =>
        have hNext := ne_newline_of_unbroken_return unbroken
        have hStep : (s.goto .escape).step '\r' = .ok (s.goto .escapeReturn) := rfl
        rw [run_cons hStep, run_cons (step_escapeReturn hNext s), run_plain_cons]
  · rw [run_cons (step_escape (ne_newline_of_unbroken unbroken) hReturn s)]

theorem step_doubleEscape (hNewline : c ≠ '\n') (hReturn : c ≠ '\r') (s : Scan) :
    (s.goto .doubleEscape).step c =
      .ok (if isEscapable c then (s.put c).goto .double else (s.put '\\').inside c) := by
  rw [← inside_goto (s.put '\\') .doubleEscape]
  unfold step
  dsimp only [goto]
  split
  · exact absurd rfl hNewline
  · exact absurd rfl hReturn
  · rfl
  · rfl
  · rfl
  · next hQuote hBackslash hDollar =>
      have hOther : isEscapable c = false := by
        simp only [isEscapable, Bool.or_eq_false_iff, beq_eq_false_iff_ne]
        exact ⟨⟨hQuote, hBackslash⟩, hDollar⟩
      rw [if_neg (by simp [hOther])]
      rfl

theorem step_doubleEscapeReturn (hNewline : c ≠ '\n') (s : Scan) :
    (s.goto .doubleEscapeReturn).step c = .ok (((s.put '\\').put '\r').inside c) := by
  unfold step
  dsimp only [goto]
  split
  · exact absurd rfl hNewline
  · rfl

/-- A backslash stands for itself where it neither escapes a character nor continues a line. -/
theorem run_quoted_backslash (plain : ∀ c ∈ cs.head?, isEscapable c = false)
    (unbroken : ¬Broken ('\\' :: cs)) (s : Scan) :
    (s.goto .double).run ('\\' :: cs) = ((s.put '\\').goto .double).run cs := by
  have hFirst : (s.goto .double).step '\\' = .ok (s.goto .doubleEscape) := rfl
  rw [run_cons hFirst]
  cases cs with
  | nil => rfl
  | cons c cs =>
      by_cases hReturn : c = '\r'
      · subst hReturn
        cases cs with
        | nil => rfl
        | cons d cs =>
            have hNext := ne_newline_of_unbroken_return unbroken
            have hStep : (s.goto .doubleEscape).step '\r' = .ok (s.goto .doubleEscapeReturn) := rfl
            rw [run_cons hStep, run_cons (step_doubleEscapeReturn hNext s)]
            rfl
      · have hStep := step_doubleEscape (ne_newline_of_unbroken unbroken) hReturn s
        rw [if_neg (by simp [plain c rfl])] at hStep
        rw [run_cons hStep, run_double_cons]

theorem not_newline_of_isEscapable (h : isEscapable c = true) : c ≠ '\n' ∧ c ≠ '\r' := by
  constructor <;>
  · rintro rfl
    cases h

theorem run_quoted_escape (h : isEscapable c = true) (s : Scan) (cs : List Char) :
    (s.goto .double).run ('\\' :: c :: cs) = ((s.put c).goto .double).run cs := by
  obtain ⟨hNewline, hReturn⟩ := not_newline_of_isEscapable h
  have hStep := step_doubleEscape hNewline hReturn s
  rw [if_pos h] at hStep
  have hFirst : (s.goto .double).step '\\' = .ok (s.goto .doubleEscape) := rfl
  rw [run_cons hFirst, run_cons hStep]

theorem inside_ordinary (h : isEscapable c = false) (s : Scan) :
    s.inside c = (s.put c).goto .double := by
  unfold inside
  split
  · cases h
  · cases h
  · cases h
  · rfl

/-- The induction is on what is quoted. The word is open all along, so that a piece that gives
nothing leaves the scan as it is. -/
theorem run_quoted (h : Quoted text rest items) (hDraft : s.draft.isSome = true) :
    (s.goto .double).run (text ++ rest) = ((s.extend items).goto .double).run rest := by
  induction h generalizing s with
  | nil => rw [extend_nil hDraft, List.nil_append]
  | char ordinary _ ih =>
      rw [List.cons_append, run_double_cons, inside_ordinary ordinary, put_eq_extend, ih rfl,
        extend_extend, List.singleton_append]
  | escape escapable _ ih =>
      rw [List.cons_append, List.cons_append, run_quoted_escape escapable, put_eq_extend, ih rfl,
        extend_extend, List.singleton_append]
  | backslash plain unbroken _ ih =>
      rw [List.cons_append, run_quoted_backslash plain unbroken, put_eq_extend, ih rfl,
        extend_extend, List.singleton_append]
  | continued broken _ ih => rw [List.append_assoc, run_break_quoted broken, ih hDraft]
  | substitution head _ ih =>
      have hHead := run_substitution head s true
      rw [List.append_assoc]
      exact hHead.trans ((ih rfl).trans (by rw [extend_extend]))

/-- Inside double quotes the text goes on with the closing one or with something that may stand
before what is quoted. -/
theorem exists_inside (hDraft : s.draft.isSome = true) (hRun : (s.goto .double).run cs = .ok ts) :
    (∃ rest, cs = '"' :: rest) ∨ ∃ first more new, cs = first ++ more ∧ first ≠ [] ∧
      ((s.extend new).goto .double).run more = .ok ts ∧
        ∀ text follows items, more = text ++ follows → Quoted text follows items →
          Quoted (first ++ text) follows (new ++ items) := by
  cases cs with
  | nil => cases hRun
  | cons c cs =>
      by_cases hQuote : c = '"'
      · subst hQuote
        exact .inl ⟨cs, rfl⟩
      right
      by_cases hDollar : c = '$'
      · subst hDollar
        have hInside := hRun
        rw [run_double_cons] at hInside
        obtain ⟨first, more, new, rfl, head⟩ := exists_substitution hInside
        refine ⟨'$' :: first, more, new, rfl, by simp, ?_, ?_⟩
        · exact (run_substitution head s true).symm.trans hRun
        · rintro text follows items rfl quoted
          exact .substitution head quoted
      by_cases hBackslash : c = '\\'
      · subst hBackslash
        by_cases hBroken : Broken ('\\' :: cs)
        · obtain ⟨br, more, broken, hSplit⟩ := hBroken
          rw [hSplit, run_break_quoted broken] at hRun
          refine ⟨br, more, [], hSplit, broken.ne_nil, by rwa [extend_nil hDraft], ?_⟩
          intro text follows items _ quoted
          exact .continued broken quoted
        by_cases hEscape : ∃ d ∈ cs.head?, isEscapable d = true
        · obtain ⟨d, hHead, hEscapable⟩ := hEscape
          obtain ⟨more, rfl⟩ := List.head?_eq_some_iff.mp hHead
          rw [run_quoted_escape hEscapable, put_eq_extend] at hRun
          refine ⟨['\\', d], more, _, rfl, by simp, hRun, ?_⟩
          intro text follows items _ quoted
          exact .escape hEscapable quoted
        · have hPlain : ∀ d ∈ cs.head?, isEscapable d = false := fun d hHead =>
            Bool.eq_false_iff.mpr fun hEscapable => hEscape ⟨d, hHead, hEscapable⟩
          rw [run_quoted_backslash hPlain hBroken, put_eq_extend] at hRun
          refine ⟨['\\'], cs, _, rfl, by simp, hRun, ?_⟩
          rintro text follows items rfl quoted
          exact .backslash hPlain hBroken quoted
      have hOrdinary : isEscapable c = false := by
        simp [isEscapable, hQuote, hDollar, hBackslash]
      rw [run_double_cons, inside_ordinary hOrdinary, put_eq_extend] at hRun
      refine ⟨[c], cs, _, rfl, by simp, hRun, ?_⟩
      intro text follows items _ quoted
      exact .char hOrdinary quoted

theorem length_lt_append {first : List Char} (h : first ≠ []) (more : List Char) :
    more.length < (first ++ more).length := by
  have hSome := List.length_pos_iff.mpr h
  rw [List.length_append]
  omega

/-- Where double quotes are closed, what stands between them is of the grammar. -/
theorem exists_quoted (hDraft : s.draft.isSome = true)
    (hRun : (s.goto .double).run cs = .ok ts) :
    ∃ text rest items, cs = text ++ '"' :: rest ∧ Quoted text ('"' :: rest) items := by
  induction hLength : cs.length using Nat.strongRecOn generalizing cs s with
  | ind n ih =>
      subst hLength
      rcases exists_inside hDraft hRun with
        ⟨rest, rfl⟩ | ⟨first, more, new, rfl, hSome, hNext, hQuoted⟩
      · exact ⟨[], rest, [], rfl, .nil⟩
      · obtain ⟨text, rest, items, rfl, quoted⟩ :=
          ih more.length (length_lt_append hSome more) rfl hNext rfl
        exact ⟨first ++ text, rest, new ++ items, (List.append_assoc ..).symm,
          hQuoted _ _ _ rfl quoted⟩

theorem step_single (h : c ≠ '\'') (s : Scan) :
    (s.goto .single).step c = .ok ((s.put c).goto .single) := by
  unfold step
  dsimp only [goto]
  split
  · exact absurd rfl h
  · rfl

theorem run_single (verbatim : '\'' ∉ text) (hDraft : s.draft.isSome = true) :
    (s.goto .single).run (text ++ '\'' :: rest) =
      ((s.extend (text.map .char)).goto .plain).run rest := by
  induction text generalizing s with
  | nil =>
      rw [List.map_nil, extend_nil hDraft]
      rfl
  | cons c text ih =>
      rw [List.mem_cons, not_or] at verbatim
      rw [List.cons_append, run_cons (step_single (Ne.symm verbatim.1) s), put_eq_extend,
        ih verbatim.2 rfl, extend_extend, List.singleton_append, List.map_cons]

theorem run_single_open (h : '\'' ∉ cs) (s : Scan) :
    (s.goto .single).run cs = .error .openQuote := by
  induction cs generalizing s with
  | nil => rfl
  | cons c cs ih =>
      rw [List.mem_cons, not_or] at h
      rw [run_cons (step_single (Ne.symm h.1) s), ih h.2]

theorem outside_ordinary (h : isSpecial c = false) (hWord : c = '#' → s.draft.isSome = true) :
    s.outside c = (s.put c).goto .plain := by
  simp only [isSpecial, Bool.or_eq_false_iff, beq_eq_false_iff_ne] at h
  obtain ⟨⟨⟨⟨⟨hGap, hSeparator⟩, hSingle⟩, hDouble⟩, hBackslash⟩, hDollar⟩ := h
  have hComment : (c == '#' && s.draft.isNone) = false := by
    by_cases hHash : c = '#'
    · simp [hHash, hWord hHash]
    · simp [hHash]
  unfold outside
  rw [if_neg (by simp [hComment]), if_neg (by simp [hGap])]
  split
  · exact absurd rfl hSeparator
  · exact absurd rfl hSingle
  · exact absurd rfl hDouble
  · exact absurd rfl hBackslash
  · exact absurd rfl hDollar
  · rfl

theorem extend_openWord (s : Scan) (items : List Item) :
    s.openWord.extend items = s.extend items := rfl

/-- A piece adds to the word being read what it gives. Only where a word would start is a number
sign no piece: it begins a comment there. -/
theorem run_piece (h : Piece text rest items) (hWord : text = ['#'] → s.draft.isSome = true) :
    (s.goto .plain).run (text ++ rest) = ((s.extend items).goto .plain).run rest := by
  cases h with
  | @char c _ ordinary =>
      have hOutside : s.outside c = (s.put c).goto .plain :=
        outside_ordinary ordinary fun hHash => hWord (by rw [hHash])
      rw [List.singleton_append, run_plain_cons, hOutside]
      rfl
  | @escape c _ unbroken =>
      have hFirst : (s.goto .plain).run ('\\' :: c :: rest) = (s.goto .escape).run (c :: rest) :=
        run_plain_cons s '\\' _
      exact hFirst.trans (run_escape unbroken s)
  | @single text _ verbatim =>
      have hFirst : (s.goto .plain).run ('\'' :: (text ++ '\'' :: rest)) =
          (s.openWord.goto .single).run (text ++ '\'' :: rest) := run_plain_cons s '\'' _
      rw [List.cons_append, List.append_assoc, List.singleton_append, hFirst,
        run_single verbatim rfl, extend_openWord]
  | @double text _ _ quoted =>
      have hFirst : (s.goto .plain).run ('"' :: (text ++ '"' :: rest)) =
          (s.openWord.goto .double).run (text ++ '"' :: rest) := run_plain_cons s '"' _
      rw [List.cons_append, List.append_assoc, List.singleton_append, hFirst, run_quoted quoted rfl,
        extend_openWord]
      rfl
  | substitution head => exact run_substitution head s false

/-- Where the scan finds no end of the word and no line continuation, it finds a piece. The cases
are those of the characters that are not ordinary, and each looks for the end of its piece. -/
theorem exists_piece (hRun : (s.goto .plain).run cs = .ok ts) (hEnd : ¬WordEnd cs)
    (hBroken : ¬Broken cs) : ∃ text rest items, cs = text ++ rest ∧ Piece text rest items := by
  cases cs with
  | nil => exact absurd (by simp [WordEnd]) hEnd
  | cons c cs =>
      rw [run_plain_cons] at hRun
      by_cases hSingle : c = '\''
      · subst hSingle
        have hFirst : s.outside '\'' = s.openWord.goto .single := rfl
        rw [hFirst] at hRun
        by_cases hClosed : '\'' ∈ cs
        · obtain ⟨text, rest, rfl, verbatim⟩ := List.eq_append_cons_of_mem hClosed
          exact ⟨'\'' :: (text ++ ['\'']), rest, _, by simp, .single verbatim⟩
        · rw [run_single_open hClosed] at hRun
          cases hRun
      by_cases hDouble : c = '"'
      · subst hDouble
        have hFirst : s.outside '"' = s.openWord.goto .double := rfl
        rw [hFirst] at hRun
        obtain ⟨text, rest, items, rfl, quoted⟩ := exists_quoted rfl hRun
        exact ⟨'"' :: (text ++ ['"']), rest, items, by simp, .double quoted⟩
      by_cases hBackslash : c = '\\'
      · subst hBackslash
        cases cs with
        | nil => cases hRun
        | cons d cs => exact ⟨['\\', d], cs, _, rfl, .escape hBroken⟩
      by_cases hDollar : c = '$'
      · subst hDollar
        have hFirst : s.outside '$' = s.openWord.goto (.dollar false) := rfl
        rw [hFirst] at hRun
        obtain ⟨text, rest, items, rfl, head⟩ := exists_substitution hRun
        exact ⟨'$' :: text, rest, items, rfl, .substitution head⟩
      have hOther : Scan.isGap c = false ∧ c ≠ ';' := by
        simpa [WordEnd, not_or] using hEnd
      have hOrdinary : isSpecial c = false := by
        simp [isSpecial, hOther, hSingle, hDouble, hBackslash, hDollar]
      exact ⟨[c], cs, _, rfl, .char hOrdinary⟩

end Scan

end ScriptShell
