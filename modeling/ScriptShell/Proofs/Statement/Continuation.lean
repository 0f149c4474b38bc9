import ScriptShell.Proofs.Statement.Normal
import ScriptShell.Proofs.Statement.Terminators
/-!
Line continuations that are taken out of a text. What stands before a line continuation is taken as
it stands: a name or a lone dollar sign ends there, and so does a carriage return behind a
backslash. The text behind is scanned on from that place as if it came next. So a line continuation
can be taken out, unless a character comes next that joins what stands before it: then the tokens
are others.
-/
namespace ScriptShell

open Grammar

/-- Whether a character joins what the scanner has read last: it goes on with a variable name, it
begins one behind a dollar sign, or it is the newline behind a backslash and a carriage return. -/
def Mode.joins (c : Char) : Mode → Bool
  | .escapeReturn | .doubleEscapeReturn => c == '\n'
  | .dollar _ => c == '\x7b' || isNameStart c
  | .name _ _ => isNameChar c
  | .plain | .continued | .escape | .single | .double | .doubleEscape | .braced _ _ | .comment =>
    false

namespace Grammar

/-- What the pieces of a draft give, and the text that is still growing. -/
def draftItems (d : Draft) : List Item :=
  d.parts.reverse.flatMap Part.items ++ d.text.reverse.map .char

theorem flatMap_items_literalOf (text : List Char) :
    (literalOf text).flatMap Part.items = text.map .char := by
  unfold literalOf
  split
  · next h => rw [h]; rfl
  · simp [Part.items]

theorem flatMap_items_toWord (d : Draft) : d.toWord.flatMap Part.items = draftItems d := by
  rw [Draft.toWord, parts_flush, List.flatMap_append, flatMap_items_literalOf, draftItems]

theorem draftItems_addItem (d : Draft) (item : Item) :
    draftItems (addItem d item) = draftItems d ++ [item] := by
  cases item with
  | char c => simp [addItem, Draft.put, draftItems]
  | value name =>
      have hFlush : d.flush.parts.reverse.flatMap Part.items = draftItems d :=
        flatMap_items_toWord d
      simp only [addItem, Draft.putVariable, draftItems, List.reverse_cons, List.flatMap_append,
        hFlush]
      simp [Part.items]

theorem draftItems_foldl (d : Draft) (items : List Item) :
    draftItems (items.foldl addItem d) = draftItems d ++ items := by
  induction items generalizing d with
  | nil => rw [List.foldl_nil, List.append_nil]
  | cons item items ih => rw [List.foldl_cons, ih, draftItems_addItem, List.append_assoc]; rfl

theorem Piece.of_hash {text follows : List Char} {items : List Item}
    (h : Piece text follows items) (hText : text = ['#']) : items = [.char '#'] := by
  cases h with
  | char _ => rw [(List.cons.inj hText).1]
  | escape _ => cases hText
  | single _ => cases hText
  | double _ => cases hText
  | substitution head => cases head <;> cases hText

/-- Pieces that begin with no number sign make a word also where a word would start. -/
theorem Pieces.derives {text rest : List Char} {items : List Item} {ts : List Token}
    (h : Pieces text rest items) (hSome : items ≠ []) (hComment : items.head? ≠ some (.char '#'))
    (more : Derives rest ts) : Derives (text ++ rest) (.word (wordOf items) :: ts) := by
  induction h with
  | nil => exact absurd rfl hSome
  | cons head pieces _ =>
      refine .word head (fun hText => hComment ?_) pieces more
      rw [head.of_hash hText]
      rfl
  | continued broken followed _ ih =>
      rw [List.append_assoc]
      exact .continued broken followed (ih hSome hComment more)

theorem Derives.unique {text : List Char} {ts us : List Token} (h : Derives text ts)
    (other : Derives text us) : ts = us := by
  have hRun := Scan.run_derives (s := .start) h rfl
  rw [Scan.run_derives (s := .start) other rfl] at hRun
  cases hRun
  rfl

end Grammar

namespace Scan
variable {s t : Scan} {c : Char} {quoted other : Bool} {cs ds br : List Char} {ts : List Token}

/-- The scan with what it has read last taken as it stands. -/
def conclude (s : Scan) : Scan :=
  match s.mode with
  | .continued => s.goto .plain
  | .escapeReturn => (s.put '\r').goto .plain
  | .doubleEscapeReturn => ((s.put '\\').put '\r').goto .double
  | .dollar quoted => (s.put '$').goto (base quoted)
  | .name quoted read => (s.putVariable read.reverse).goto (base quoted)
  | _ => s

/-- Whether a backslash that comes next begins an escape, so that the end of the line behind it
continues the line. -/
def TakesEscape (s : Scan) : Prop :=
  ∃ t, s.step '\\' = .ok t ∧ (t.mode = .escape ∨ t.mode = .doubleEscape)

/-- Before a character that does not join it, what was read last is taken as it stands. -/
theorem run_conclude (h : s.mode.joins c = false) (cs : List Char) :
    s.run (c :: cs) = s.conclude.run (c :: cs) := by
  obtain ⟨mode, tokens, draft⟩ := s
  cases mode with
  | continued => exact (run_cons rfl cs).trans (run_plain_cons _ c cs).symm
  | escapeReturn =>
      have hStep := step_escapeReturn (c := c) (by simpa [Mode.joins] using h)
        ⟨.escapeReturn, tokens, draft⟩
      exact (run_cons hStep cs).trans (run_plain_cons _ c cs).symm
  | doubleEscapeReturn =>
      have hStep := step_doubleEscapeReturn (c := c) (by simpa [Mode.joins] using h)
        ⟨.doubleEscapeReturn, tokens, draft⟩
      exact (run_cons hStep cs).trans (run_double_cons _ c cs).symm
  | dollar quoted =>
      have hNone : c ≠ '\x7b' ∧ isNameStart c = false := by simpa [Mode.joins] using h
      have hStep := step_dollar ⟨.dollar quoted, tokens, draft⟩ quoted c
      rw [if_neg hNone.1, if_neg (by simp [hNone.2])] at hStep
      exact (run_cons hStep cs).trans (run_base_cons _ quoted c cs).symm
  | name quoted read =>
      have hNone : isNameChar c = false := h
      have hStep := step_name ⟨.name quoted read, tokens, draft⟩ quoted read c
      rw [if_neg (by simp [hNone])] at hStep
      exact (run_cons hStep cs).trans (run_base_cons _ quoted c cs).symm
  | _ => rfl

theorem exists_mode_conclude (h : s.TakesEscape) : ∃ quoted, s.conclude.mode = base quoted := by
  obtain ⟨t, hStep, hMode⟩ := h
  obtain ⟨mode, tokens, draft⟩ := s
  cases mode with
  | plain => exact ⟨false, rfl⟩
  | continued => exact ⟨false, rfl⟩
  | escapeReturn => exact ⟨false, rfl⟩
  | double => exact ⟨true, rfl⟩
  | doubleEscapeReturn => exact ⟨true, rfl⟩
  | dollar quoted => exact ⟨quoted, rfl⟩
  | name quoted read => exact ⟨quoted, rfl⟩
  | escape | single | doubleEscape | braced | comment =>
      cases hStep
      rcases hMode with hMode | hMode <;> cases hMode

/-- A line continuation vanishes, and what stands before it is taken as it stands. -/
theorem run_continuation (h : s.TakesEscape) (broken : Break br) (followed : cs ≠ []) :
    s.run (br ++ cs) = s.conclude.run cs := by
  have hBackslash : s.mode.joins '\\' = false := by
    cases s.mode <;> rfl
  have hConclude : s.run (br ++ cs) = s.conclude.run (br ++ cs) := by
    cases broken with
    | newline => exact run_conclude hBackslash _
    | carriageReturn => exact run_conclude hBackslash _
  obtain ⟨quoted, hMode⟩ := exists_mode_conclude h
  have hSame : s.conclude = s.conclude.goto (base quoted) := by
    rw [← hMode]
    rfl
  rw [hConclude, hSame]
  cases quoted with
  | false => exact run_break broken _ followed
  | true => exact run_break_quoted broken _ cs

/-- The word that is being read comes to an end with what is read on, and becomes a token. -/
theorem exists_plainWord (hDraft : s.draft.isSome = true) (hRun : (s.goto .plain).run cs = .ok ts) :
    ∃ text rest items more, cs = text ++ rest ∧ Pieces text rest items ∧ Derives rest more ∧
      ts = s.tokens.reverse ++ .word (items.foldl addItem s.word).toWord :: more := by
  obtain ⟨text, rest, items, rfl, pieces⟩ := exists_pieces hDraft hRun
  rw [run_pieces pieces hDraft, run_wordEnd pieces.wordEnd] at hRun
  obtain ⟨more, derives⟩ := exists_derives (draft_endWord _) hRun
  refine ⟨text, rest, items, more, rfl, pieces, derives, ?_⟩
  have hTokens : (s.extend items).endWord.tokens.reverse =
      s.tokens.reverse ++ [.word (items.foldl addItem s.word).toWord] := List.reverse_cons
  rw [run_derives derives (draft_endWord _), hTokens, List.append_assoc] at hRun
  cases hRun
  rfl

theorem exists_word (hDraft : s.draft.isSome = true)
    (hRun : (s.goto (base quoted)).run cs = .ok ts) : ∃ (items : List Item) (more : List Token),
      ts = s.tokens.reverse ++ .word (items.foldl addItem s.word).toWord :: more := by
  cases quoted with
  | false =>
      obtain ⟨_, _, items, more, _, _, _, hTokens⟩ := exists_plainWord hDraft hRun
      exact ⟨items, more, hTokens⟩
  | true =>
      obtain ⟨text, rest, first, rfl, hQuoted⟩ := exists_quoted hDraft hRun
      have hPlain : ((s.extend first).goto .plain).run rest = .ok ts := by
        rw [← hRun]
        exact (run_quoted hQuoted hDraft).symm
      obtain ⟨_, _, items, more, _, _, _, hTokens⟩ := exists_plainWord rfl hPlain
      refine ⟨first ++ items, more, ?_⟩
      rw [hTokens, List.foldl_append]
      rfl

/-- Two scans that go on with a word and come to the same tokens agree in what the word has. -/
theorem items_of_same (hFirst : (s.goto (base quoted)).run cs = .ok ts)
    (hSecond : (t.goto (base other)).run ds = .ok ts) (hDraft : s.draft.isSome = true)
    (hOther : t.draft.isSome = true) (hTokens : t.tokens = s.tokens) : ∃ items others,
      draftItems s.word ++ items = draftItems t.word ++ others := by
  obtain ⟨items, more, hItems⟩ := exists_word hDraft hFirst
  obtain ⟨others, rest, hOthers⟩ := exists_word hOther hSecond
  refine ⟨items, others, ?_⟩
  rw [hOthers, hTokens] at hItems
  have hWord := Token.word.inj (List.cons.inj (List.append_cancel_left hItems)).1
  rw [← draftItems_foldl, ← draftItems_foldl, ← flatMap_items_toWord, ← flatMap_items_toWord, hWord]

theorem draftItems_word_put (s : Scan) (c : Char) :
    draftItems (s.put c).word = draftItems s.word ++ [.char c] :=
  draftItems_addItem s.word (.char c)

theorem draftItems_word_putVariable (s : Scan) (name : List Char) :
    draftItems (s.putVariable name).word = draftItems s.word ++ [.value name] :=
  draftItems_addItem s.word (.value name)

/-- A name takes in all characters of a name that come next. -/
theorem run_wholeName (s : Scan) (read cs : List Char) :
    (s.goto (.name quoted read)).run cs =
      ((s.putVariable (read.reverse ++ cs.takeWhile isNameChar)).goto (base quoted)).run
        (cs.dropWhile isNameChar) := by
  have hLongest : ∀ c ∈ (cs.dropWhile isNameChar).head?, isNameChar c = false := by
    intro c hHead
    have hOther := List.head?_dropWhile_not isNameChar cs
    rwa [Option.mem_def.mp hHead] at hOther
  rw [← run_name (List.all_eq_true.mp List.all_takeWhile) hLongest s read,
    List.takeWhile_append_dropWhile]

/-- Where a dollar sign is joined, the value of a variable comes into the word. -/
theorem exists_named (h : (Mode.dollar quoted).joins c = true)
    (hRun : (s.goto (.dollar quoted)).run (c :: cs) = .ok ts) :
    ∃ name rest, ((s.putVariable name).goto (base quoted)).run rest = .ok ts := by
  have hStep := step_dollar s quoted c
  by_cases hBrace : c = '\x7b'
  · rw [if_pos hBrace] at hStep
    rw [run_cons hStep] at hRun
    by_cases hClosed : '\x7d' ∈ cs
    · obtain ⟨name, rest, rfl, hName⟩ := List.eq_append_cons_of_mem hClosed
      rw [run_braced hName] at hRun
      split at hRun
      · exact ⟨_, rest, hRun⟩
      · cases hRun
    · rw [run_braced_open hClosed] at hRun
      cases hRun
  · have hStart : isNameStart c = true := by simpa [Mode.joins, hBrace] using h
    rw [if_neg hBrace, if_pos hStart] at hStep
    rw [run_cons hStep, run_wholeName] at hRun
    exact ⟨_, _, hRun⟩

theorem run_ne_of_dollar (h : (Mode.dollar quoted).joins c = true)
    (hRun : (s.goto (.dollar quoted)).run (c :: cs) = .ok ts) :
    ((s.put '$').goto (base quoted)).run (c :: cs) ≠ .ok ts := by
  intro hSign
  obtain ⟨name, rest, hNamed⟩ := exists_named h hRun
  obtain ⟨items, others, hItems⟩ := items_of_same hNamed hSign rfl rfl rfl
  rw [draftItems_word_put, draftItems_word_putVariable, List.append_assoc,
    List.append_assoc] at hItems
  cases (List.cons.inj (List.append_cancel_left hItems)).1

theorem run_ne_of_name {read : List Char} (h : isNameChar c = true)
    (hRun : (s.goto (.name quoted read)).run (c :: cs) = .ok ts) :
    ((s.putVariable read.reverse).goto (base quoted)).run (c :: cs) ≠ .ok ts := by
  intro hEnded
  rw [run_wholeName] at hRun
  obtain ⟨items, others, hItems⟩ := items_of_same hRun hEnded rfl rfl rfl
  rw [draftItems_word_putVariable, draftItems_word_putVariable, List.append_assoc,
    List.append_assoc] at hItems
  have hName := Item.value.inj (List.cons.inj (List.append_cancel_left hItems)).1
  rw [List.takeWhile_cons_of_pos h] at hName
  exact absurd hName (by simp)

/-- A carriage return behind a backslash that a newline joins is gone. Otherwise it ends the word
before the newline. The words that follow would have to be the same with one more before them. -/
theorem run_ne_of_return (hRun : (s.goto .continued).run cs = .ok ts) :
    ((s.put '\r').goto .plain).run ('\n' :: cs) ≠ .ok ts := by
  intro hEnded
  have hPlain : (s.goto .plain).run cs = .ok ts := by
    cases cs with
    | nil => cases hRun
    | cons c cs => exact (run_conclude rfl cs).symm.trans hRun
  rw [run_plain_cons, outside_newline] at hEnded
  obtain ⟨out, derives⟩ := exists_derives (draft_endWord _) hEnded
  have hTokens : (s.put '\r').endWord.tokens.reverse =
      s.tokens.reverse ++ [.word (s.word.put '\r').toWord] := List.reverse_cons
  rw [run_derives derives (draft_endWord _), hTokens, List.append_assoc] at hEnded
  cases hDraft : s.draft with
  | none =>
      rw [run_derives derives hDraft] at hPlain
      have hOut := List.append_cancel_left (Except.ok.inj (hPlain.trans hEnded.symm))
      exact List.cons_ne_self _ _ hOut.symm
  | some d =>
      obtain ⟨text, rest, items, more, rfl, pieces, hMore, hWord⟩ :=
        exists_plainWord (by rw [hDraft]; rfl) hPlain
      rw [← Except.ok.inj hEnded] at hWord
      obtain ⟨hFirst, rfl⟩ := List.cons.inj (List.append_cancel_left hWord)
      have hItems := congrArg (List.flatMap Part.items) (Token.word.inj hFirst)
      have hReturn : draftItems (s.word.put '\r') = draftItems s.word ++ [.char '\r'] :=
        draftItems_addItem s.word (.char '\r')
      rw [flatMap_items_toWord, flatMap_items_toWord, draftItems_foldl, hReturn] at hItems
      rw [← List.append_cancel_left hItems] at pieces
      have hOut := derives.unique (pieces.derives (by simp) (by simp) hMore)
      exact List.cons_ne_self _ _ hOut.symm

/-- Inside double quotes it is lost as well, together with the backslash and the newline. -/
theorem run_ne_of_quotedReturn (hDraft : s.draft.isSome = true)
    (hRun : (s.goto .double).run cs = .ok ts) :
    (((s.put '\\').put '\r').goto .double).run ('\n' :: cs) ≠ .ok ts := by
  intro hKept
  have hNewline : ((s.put '\\').put '\r').inside '\n' =
      (((s.put '\\').put '\r').put '\n').goto .double := rfl
  rw [run_double_cons, hNewline] at hKept
  have hAhead := ((((Ahead.refl s).putAgain '\\' hDraft).putAgain '\r' hDraft).putAgain '\n'
    hDraft).goto .double
  have hAlike := (hAhead.advance cs).bind fun _ _ h => h.finish
  change Alike _ ((s.goto .double).run cs) (Scan.run _ cs) at hAlike
  rw [hRun, hKept] at hAlike
  cases hAlike with
  | ok h => exact absurd h.1 (by omega)

/-- A character that joins what was read last makes other tokens than without it. -/
theorem run_ne_of_joins (hOpened : s.Opened) (h : s.mode.joins c = true)
    (hRun : s.run (c :: cs) = .ok ts) : s.conclude.run (c :: cs) ≠ .ok ts := by
  obtain ⟨mode, tokens, draft⟩ := s
  cases mode with
  | escapeReturn =>
      have hNewline : c = '\n' := by simpa [Mode.joins] using h
      subst hNewline
      exact run_ne_of_return ((run_cons rfl cs).symm.trans hRun)
  | doubleEscapeReturn =>
      have hNewline : c = '\n' := by simpa [Mode.joins] using h
      subst hNewline
      exact run_ne_of_quotedReturn (hOpened rfl) ((run_cons rfl cs).symm.trans hRun)
  | dollar quoted => exact run_ne_of_dollar h hRun
  | name quoted read => exact run_ne_of_name h hRun
  | _ => cases h

end Scan

/-- Whether a line continuation right behind a text is taken as one: the text is scanned to its end,
and a backslash behind it begins an escape. -/
def TakesContinuation (text : String) : Prop :=
  ∃ s, scan text = .ok s ∧ s.TakesEscape

/-- Whether the first character of a text joins what another text ends in. -/
def Joins (text more : String) : Prop :=
  ∃ s c, scan text = .ok s ∧ more.toList.head? = some c ∧ s.mode.joins c = true

/-- A line continuation that something follows can be taken out of a text, exactly if what follows
does not join what stands before it, or if the text has no tokens with it and without, by the same
fault. -/
theorem tokens_continuation_iff {first br second : String} (hTakes : TakesContinuation first)
    (broken : Break br.toList) (hFollowed : second ≠ "") :
    tokens (first ++ br ++ second) = tokens (first ++ second) ↔
      (Joins first second → ∃ fault, tokens (first ++ br ++ second) = .error fault ∧
        tokens (first ++ second) = .error fault) := by
  obtain ⟨s, hScan, hEscape⟩ := hTakes
  obtain ⟨c, cs, hSecond⟩ := List.exists_cons_of_ne_nil (mt String.toList_eq_nil_iff.mp hFollowed)
  have hRun (text : String) : tokens (first ++ text) = s.run text.toList := by
    rw [tokens_eq_scan, scan_append, hScan]
    rfl
  have hJoins : Joins first second ↔ s.mode.joins c = true := by
    constructor
    · rintro ⟨t, d, hSame, hHead, h⟩
      rw [hScan] at hSame
      rw [hSecond] at hHead
      cases hSame
      cases hHead
      exact h
    · exact fun h => ⟨s, c, hScan, by rw [hSecond]; rfl, h⟩
  rw [String.append_assoc, hRun, hRun, hJoins, String.toList_append, hSecond,
    Scan.run_continuation hEscape broken (List.cons_ne_nil c cs)]
  constructor
  · intro hSame h
    cases hWhole : s.run (c :: cs) with
    | error fault => exact ⟨fault, hSame.trans hWhole, rfl⟩
    | ok ts =>
        exact absurd (hSame.trans hWhole) (Scan.run_ne_of_joins (scan_opened hScan) h hWhole)
  · intro hFault
    cases h : s.mode.joins c with
    | false => exact (Scan.run_conclude h cs).symm
    | true =>
        obtain ⟨fault, hBroken, hWhole⟩ := hFault h
        rw [hBroken, hWhole]

/-- Behind a name a slash is part of nothing that stands before it, so the name may be broken off
there. -/
theorem tokens_broken_path :
    tokens ("cd \"$HOME" ++ "\\\r\n" ++ "/src\"") = tokens ("cd \"$HOME" ++ "/src\"") := by
  have hTakes : TakesContinuation "cd \"$HOME" := ⟨_, rfl, _, rfl, .inr rfl⟩
  have hBreak : Break "\\\r\n".toList := .carriageReturn
  apply (tokens_continuation_iff hTakes hBreak (by decide)).mpr
  rintro ⟨s, c, hScan, hHead, hJoins⟩
  cases hScan
  cases hHead
  cases hJoins

/-- A dollar sign that a line continuation parts from a name stands for itself, and without the line
continuation it does not. -/
theorem tokens_broken_dollar :
    TakesContinuation "$" ∧ Break "\\\n".toList ∧
      tokens ("$" ++ "\\\n" ++ "A") = .ok [.word [.literal "$A"]] ∧
      tokens ("$" ++ "A") = .ok [.word [.substitution "A"]] :=
  ⟨⟨_, rfl, _, rfl, .inl rfl⟩, .newline, rfl, rfl⟩

end ScriptShell
