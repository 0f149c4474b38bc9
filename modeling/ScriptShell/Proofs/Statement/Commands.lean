import ScriptShell.Proofs.Statement.Uses
/-!
The commands of a statement. Tokens are a statement exactly if every separator stands behind a word.
Each run of words between separators is one command, its assignments are the words at its beginning
that are written as assignments, and the tokens can be put together again from the commands.
-/
namespace ScriptShell

open Grammar

/-- Whether every separator stands right behind a word: none comes first, and none comes right after
another one. -/
def IsStatement (ts : List Token) : Prop :=
  ts.head? ≠ some .separator ∧ ¬[.separator, .separator] <:+: ts

/-- Tokens without the separator at their end, if there is one. -/
def withoutLast (ts : List Token) : List Token :=
  if ts.getLast? = some .separator then ts.dropLast else ts

/-- Runs of words, with a separator between one and the next. -/
def separated (runs : List (List Word)) : List Token :=
  [.separator].intercalate (runs.map (·.map .word))

section
variable {ts : List Token} {run words : List Word} {runs : List (List Word)}

theorem separated_cons (h : runs ≠ []) (run : List Word) :
    separated (run :: runs) = run.map .word ++ .separator :: separated runs := by
  obtain ⟨next, more, rfl⟩ := List.exists_cons_of_ne_nil h
  simp [separated]

theorem separated_word (w : Word) (run : List Word) (runs : List (List Word)) :
    separated ((w :: run) :: runs) = .word w :: separated (run :: runs) := by
  cases runs with
  | nil => simp [separated]
  | cons next more =>
      rw [separated_cons (List.cons_ne_nil next more), separated_cons (List.cons_ne_nil next more)]
      rfl

/-- Nothing is lost when tokens are parted into runs. -/
theorem separated_wordRuns (ts : List Token) : separated (wordRuns ts) = ts := by
  induction ts with
  | nil => rfl
  | cons t ts ih =>
      cases t with
      | separator =>
          rw [wordRuns, separated_cons (wordRuns_ne_nil ts), ih]
          rfl
      | word w =>
          obtain ⟨run, runs, hRuns⟩ := List.exists_cons_of_ne_nil (wordRuns_ne_nil ts)
          rw [hRuns] at ih
          simp only [wordRuns, hRuns]
          rw [separated_word, ih]

/-- An empty last run stands for the separator at the end. -/
theorem separated_dropLastEmpty (ts : List Token) :
    separated (dropLastEmpty (wordRuns ts)) = withoutLast ts := by
  by_cases hLast : ts.getLast? = some .separator
  · obtain ⟨before, rfl⟩ := List.getLast?_eq_some_iff.mp hLast
    have hRuns : dropLastEmpty (wordRuns (before ++ [.separator])) = wordRuns before := by
      rw [wordRuns_separator, dropLastEmpty_append (wordRuns_ne_nil []), wordRuns, dropLastEmpty]
      exact List.append_nil _
    rw [hRuns, separated_wordRuns, withoutLast, if_pos hLast, List.dropLast_concat]
  · rw [withoutLast, if_neg hLast]
    by_cases hSome : ts = []
    · rw [hSome]
      rfl
    · rw [dropLastEmpty_wordRuns hSome hLast, separated_wordRuns]

theorem isStatement_word {w : Word} :
    IsStatement (.word w :: ts) ↔ ¬[.separator, .separator] <:+: ts := by
  simp [IsStatement, List.infix_cons_iff, List.prefix_cons_iff]

theorem doubled_separator :
    ¬[.separator, .separator] <:+: Token.separator :: ts ↔ IsStatement ts := by
  cases ts with
  | nil => simp [IsStatement, List.infix_cons_iff, List.prefix_cons_iff]
  | cons t ts => cases t <;> simp [IsStatement, List.infix_cons_iff, List.prefix_cons_iff]

/-- A run is empty where a separator does not stand behind a word. Behind the first run the same
goes for what comes after it; the induction needs both. -/
theorem isStatement_and_tail (ts : List Token) :
    (IsStatement ts ↔ [] ∉ dropLastEmpty (wordRuns ts)) ∧
      (¬[.separator, .separator] <:+: ts ↔ [] ∉ dropLastEmpty (wordRuns ts).tail) := by
  induction ts with
  | nil => simp [IsStatement, wordRuns, dropLastEmpty]
  | cons t ts ih =>
      obtain ⟨hWhole, hTail⟩ := ih
      cases t with
      | separator =>
          constructor
          · rw [wordRuns, dropLastEmpty_cons (wordRuns_ne_nil ts)]
            simp [IsStatement]
          · rw [doubled_separator]
            exact hWhole
      | word w =>
          obtain ⟨run, runs, hRuns⟩ := List.exists_cons_of_ne_nil (wordRuns_ne_nil ts)
          have hWord : wordRuns (.word w :: ts) = (w :: run) :: runs := by
            simp only [wordRuns, hRuns]
          rw [hRuns] at hTail
          rw [isStatement_word, hWord]
          constructor
          · rw [hTail]
            cases runs with
            | nil => simp [dropLastEmpty]
            | cons next more => simp [dropLastEmpty_cons]
          · refine Iff.trans ?_ hTail
            simp [List.infix_cons_iff, List.prefix_cons_iff]

theorem isStatement_iff : IsStatement ts ↔ [] ∉ dropLastEmpty (wordRuns ts) :=
  (isStatement_and_tail ts).1

theorem eq_nil_of_withoutLast (h : IsStatement ts) (hNone : withoutLast ts = []) : ts = [] := by
  unfold withoutLast at hNone
  split at hNone
  · next hLast =>
      obtain ⟨before, rfl⟩ := List.getLast?_eq_some_iff.mp hLast
      rw [List.dropLast_concat] at hNone
      rw [hNone] at h
      exact absurd rfl h.1
  · exact hNone

/-- No tokens are the only ones without a command. -/
theorem commands_eq_nil_iff : commands ts = .ok [] ↔ ts = [] := by
  constructor
  · intro h
    obtain ⟨hNone, hCommands⟩ := commands_eq_ok_iff.mp h
    have hRuns : dropLastEmpty (wordRuns ts) = [] := List.map_eq_nil_iff.mp hCommands.symm
    refine eq_nil_of_withoutLast (isStatement_iff.mpr hNone) ?_
    rw [← separated_dropLastEmpty, hRuns]
    rfl
  · rintro rfl
    rfl

/-- Whether a word is written as an assignment: its first piece begins with a name and an equals
sign. -/
def IsAssignment (word : Word) : Prop :=
  ∃ text rest, word = .literal text :: rest ∧ StartsAssignment text

/-- Whether a word writes an assignment. The value is what stands behind the equals sign. -/
def Assigns (word : Word) (a : Assignment) : Prop :=
  ∃ text value rest, word = .literal text :: rest ∧ isName a.name.toList = true ∧
    text.toList = a.name.toList ++ '=' :: value ∧ a.value = literalOf value ++ rest

theorem assigns_of_ofWord? {word : Word} {a : Assignment}
    (h : Assignment.ofWord? word = some a) : Assigns word a := by
  cases word with
  | nil => cases h
  | cons part rest =>
      cases part with
      | substitution name => cases h
      | literal text =>
          obtain ⟨⟨name, value⟩, hSplit, rfl⟩ := Option.map_eq_some_iff.mp h
          obtain ⟨hName, hText⟩ := splitAssignment?_eq_some_iff.mp hSplit
          refine ⟨text, value, rest, rfl, by rwa [String.toList_ofList],
            by rwa [String.toList_ofList], ?_⟩
          cases value with
          | nil => rfl
          | cons c value => rfl

theorem ofWord?_of_isAssignment {word : Word} (h : IsAssignment word) :
    ∃ a, Assignment.ofWord? word = some a := by
  obtain ⟨text, rest, rfl, name, value, hName, hText⟩ := h
  rw [Assignment.ofWord?, splitAssignment?_eq_some_iff.mpr ⟨hName, hText⟩]
  exact ⟨_, rfl⟩

/-- Whether a run of words reads as a command: its words are the assignments of the command, and
then its call, which does not begin with a word that is written as an assignment. -/
structure Command.ReadOff (run : List Word) (command : Command) : Prop where
  split : ∃ words, run = words ++ command.words ∧ List.Forall₂ Assigns words command.assignments
  call : ∀ word ∈ command.words.head?, ¬IsAssignment word

theorem readOff_ofWords (run : List Word) : (Command.ofWords run).ReadOff run := by
  induction run with
  | nil => exact ⟨⟨[], rfl, .nil⟩, by simp [Command.ofWords]⟩
  | cons word run ih =>
      rw [Command.ofWords]
      cases hAssignment : Assignment.ofWord? word with
      | none =>
          refine ⟨⟨[], rfl, .nil⟩, ?_⟩
          rintro _ ⟨⟩ hWritten
          obtain ⟨a, hSome⟩ := ofWord?_of_isAssignment hWritten
          rw [hAssignment] at hSome
          cases hSome
      | some a =>
          obtain ⟨⟨words, hRun, hWords⟩, hCall⟩ := ih
          exact ⟨⟨word :: words, congrArg (word :: ·) hRun,
            .cons (assigns_of_ofWord? hAssignment) hWords⟩, hCall⟩

/-- The word that an assignment is written as: its name and an equals sign, with the text that its
value begins with right behind them. -/
def Assignment.toWord (a : Assignment) : Word :=
  match a.value with
  | .literal text :: rest => .literal (a.name ++ "=" ++ text) :: rest
  | value => .literal (a.name ++ "=") :: value

/-- The words that a command is written as. -/
def Command.toRun (command : Command) : List Word :=
  command.assignments.map Assignment.toWord ++ command.words

/-- The tokens that commands are written as. -/
def commandTokens (cs : List Command) : List Token :=
  separated (cs.map Command.toRun)

/-- The word of an assignment is found again, if it can come from a text: then no further literal
stands behind the one that holds the name. -/
theorem toWord_of_assigns {word : Word} {a : Assignment} (h : Assigns word a)
    (hNormal : NormalWord word) : a.toWord = word := by
  obtain ⟨text, value, rest, rfl, _, hText, hValue⟩ := h
  have hWhole : text = a.name ++ "=" ++ String.ofList value := by
    rw [← String.toList_inj, hText]
    simp
  rw [Assignment.toWord, hValue, hWhole]
  cases value with
  | cons c value => rfl
  | nil =>
      have hNone := hNormal.not_literal
      cases rest with
      | nil => simp [literalOf]
      | cons part rest =>
          cases part with
          | literal more => exact absurd rfl (hNone more rest)
          | substitution name => simp [literalOf]

theorem map_toWord_of_assigns {as : List Assignment} (h : List.Forall₂ Assigns words as)
    (hNormal : ∀ word ∈ words, NormalWord word) : as.map Assignment.toWord = words := by
  induction h with
  | nil => rfl
  | cons hFirst _ ih =>
      rw [List.forall_mem_cons] at hNormal
      rw [List.map_cons, toWord_of_assigns hFirst hNormal.1, ih hNormal.2]

theorem toRun_of_readOff {command : Command} (h : command.ReadOff run)
    (hNormal : ∀ word ∈ run, NormalWord word) : command.toRun = run := by
  obtain ⟨words, rfl, hWords⟩ := h.split
  rw [List.forall_mem_append] at hNormal
  rw [Command.toRun, map_toWord_of_assigns hWords hNormal.1]

/-- Commands of runs that can come from a text are written as the tokens of these runs. -/
theorem commandTokens_ofWords (hNormal : ∀ run ∈ runs, ∀ word ∈ run, NormalWord word) :
    commandTokens (runs.map Command.ofWords) = separated runs := by
  have hRuns : (runs.map Command.ofWords).map Command.toRun = runs := by
    rw [List.map_map]
    refine (List.map_congr_left fun run hRun => ?_).trans (List.map_id runs)
    exact toRun_of_readOff (readOff_ofWords run) (hNormal run hRun)
  rw [commandTokens, hRuns]

theorem Command.ReadOff.ne_nil {command : Command} (h : command.ReadOff run) (hSome : run ≠ []) :
    command.assignments ≠ [] ∨ command.words ≠ [] := by
  obtain ⟨words, rfl, hWords⟩ := h.split
  by_cases hNone : command.assignments = []
  · rw [hNone, List.forall₂_nil_right_iff] at hWords
    exact .inr (by simpa [hWords] using hSome)
  · exact .inl hNone

theorem Command.ReadOff.isName {command : Command} (h : command.ReadOff run) {a : Assignment}
    (hMem : a ∈ command.assignments) : ScriptShell.isName a.name.toList = true := by
  obtain ⟨words, _, hWords⟩ := h.split
  obtain ⟨i, hBound, rfl⟩ := List.getElem_of_mem hMem
  obtain ⟨text, value, rest, _, hName, _⟩ := hWords.get (hWords.length_eq ▸ hBound) hBound
  exact hName

end

/-- Tokens are those of some commands exactly if every separator stands behind a word; otherwise
there is an empty command. No tokens are no commands. Without a separator at the end tokens are runs
of words with one separator between each two, and each run reads as one command, which has something
in it. The tokens of a text are those that its commands are written as. -/
theorem commands_of_statement (ts : List Token) :
    ((∃ cs, commands ts = .ok cs) ↔ IsStatement ts) ∧
      (commands ts = .error .emptyCommand ↔ ¬IsStatement ts) ∧
      (commands ts = .ok [] ↔ ts = []) ∧
      ∀ cs, commands ts = .ok cs →
        (∃ runs, withoutLast ts = separated runs ∧ [] ∉ runs ∧
          List.Forall₂ Command.ReadOff runs cs) ∧
        (∀ command ∈ cs, (command.assignments ≠ [] ∨ command.words ≠ []) ∧
          ∀ a ∈ command.assignments, isName a.name.toList = true) ∧
        ((∃ text, tokens text = .ok ts) → commandTokens cs = withoutLast ts) := by
  have hAccepted : (∃ cs, commands ts = .ok cs) ↔ IsStatement ts := by
    simp only [commands_eq_ok_iff, isStatement_iff, exists_and_left, exists_eq, and_true]
  refine ⟨hAccepted, ?_, commands_eq_nil_iff, fun cs hCommands => ?_⟩
  · rw [← hAccepted]
    cases commands ts with
    | ok cs => simp
    | error fault => cases fault; simp
  · obtain ⟨hNone, rfl⟩ := commands_eq_ok_iff.mp hCommands
    have hReadOff : ∀ run ∈ dropLastEmpty (wordRuns ts), (Command.ofWords run).ReadOff run :=
      fun run _ => readOff_ofWords run
    refine ⟨⟨_, (separated_dropLastEmpty ts).symm, hNone, ?_⟩, ?_, ?_⟩
    · rw [List.forall₂_map_right_iff, List.forall₂_same]
      exact hReadOff
    · intro command hMem
      obtain ⟨run, hRun, rfl⟩ := List.mem_map.mp hMem
      have hSome : run ≠ [] := fun hEmpty => hNone (hEmpty ▸ hRun)
      exact ⟨(hReadOff run hRun).ne_nil hSome, fun a hMem => (hReadOff run hRun).isName hMem⟩
    · rintro ⟨text, hTokens⟩
      have hNormal := normal_of_derives (derives_of_tokens hTokens)
      rw [← separated_dropLastEmpty]
      exact commandTokens_ofWords fun run hRun word hWord =>
        hNormal word (mem_of_mem_wordRuns (mem_of_mem_dropLastEmpty hRun) hWord)

/-- Values that are empty, that begin with a text and that begin with a variable are put together
again with their names, and what follows the call stays as it is. -/
theorem commandTokens_assignments :
    let ts : List Token := [.word [.literal "A=b=c"], .word [.literal "B="],
      .word [.literal "C=", .substitution "A"], .word [.literal "echo"], .word [.literal "D=x"],
      .separator, .word []]
    let cs : List Command := [⟨[⟨"A", [.literal "b=c"]⟩, ⟨"B", []⟩, ⟨"C", [.substitution "A"]⟩],
      [[.literal "echo"], [.literal "D=x"]]⟩, ⟨[], [[]]⟩]
    tokens "A=b=c B= C=$A echo D=x; ''" = .ok ts ∧ commands (ts ++ [.separator]) = .ok cs ∧
      commandTokens cs = ts := by
  intro ts cs
  have hCommands : commands (ts ++ [.separator]) = .ok cs := rfl
  have hTokens : tokens "A=b=c B= C=$A echo D=x; '';" = .ok (ts ++ [.separator]) := rfl
  exact ⟨rfl, hCommands, ((commands_of_statement _).2.2.2 cs hCommands).2.2 ⟨_, hTokens⟩⟩

end ScriptShell
