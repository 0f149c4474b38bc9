import ScriptShell.Proofs.Statement.Completion
import ScriptShell.Proofs.Statement.Names
import ScriptShell.Proofs.Statement.Quoting
import ScriptShell.Proofs.Statement.Separator
/-!
Which variables a statement can take the values of, and which it can set. Both are told by its text:
it takes the values of variables whose names stand in the text as they are, and sets variables whose
names are written there in pieces at most.
-/
namespace ScriptShell

open Grammar

/-- Whether the name of a variable stands in a text. -/
def Mentions (text name : String) : Prop :=
  isName name.toList = true ∧ name.toList <:+: text.toList

/-- Whether the name of a variable is written in a text, be it with quotes, backslashes and line
continuations among its characters. -/
def Spells (text name : String) : Prop :=
  ∃ piece, piece <:+: text.toList ∧ Pieced piece name.toList

instance (text name : String) : Decidable (Mentions text name) :=
  inferInstanceAs (Decidable (_ ∧ _))

section
variable {text more name : String}

theorem Mentions.mono (hText : text.toList <:+: more.toList) (h : Mentions text name) :
    Mentions more name :=
  ⟨h.1, h.2.trans hText⟩

theorem Spells.mono (hText : text.toList <:+: more.toList) (h : Spells text name) :
    Spells more name := by
  obtain ⟨piece, hPiece, hName⟩ := h
  exact ⟨piece, hPiece.trans hText, hName⟩

end

/-- Whether a command takes the values of such variables only, and sets only such variables. -/
structure Command.Uses (reads sets : String → Prop) (command : Command) : Prop where
  values : ∀ a ∈ command.assignments, ∀ name, .substitution name ∈ a.value → reads name
  words : ∀ word ∈ command.words, ∀ name, .substitution name ∈ word → reads name
  names : ∀ a ∈ command.assignments, sets a.name

section
variable {reads sets : String → Prop} {word : Word} {a : Assignment}

/-- The name of an assignment is at the beginning of its word, and its value is the rest of it. -/
theorem ofWord?_eq_some (h : Assignment.ofWord? word = some a) :
    (∃ text value rest, word = .literal text :: rest ∧ isName a.name.toList = true ∧
      text.toList = a.name.toList ++ '=' :: value) ∧
    ∀ name, .substitution name ∈ a.value → .substitution name ∈ word := by
  cases word with
  | nil => cases h
  | cons part rest =>
      cases part with
      | substitution name => cases h
      | literal text =>
          obtain ⟨⟨name, value⟩, hSplit, rfl⟩ := Option.map_eq_some_iff.mp h
          obtain ⟨hName, hText⟩ := splitAssignment?_eq_some_iff.mp hSplit
          refine ⟨⟨text, value, rest, rfl, ?_, ?_⟩, fun other hMem => ?_⟩
          · rwa [String.toList_ofList]
          · rwa [String.toList_ofList]
          · change _ ∈ (if value.isEmpty then rest else _) at hMem
            split at hMem
            · exact List.mem_cons_of_mem _ hMem
            · exact List.mem_cons_of_mem _ (by simpa using hMem)

theorem uses_ofWords {run : List Word}
    (hReads : ∀ word ∈ run, ∀ name, .substitution name ∈ word → reads name)
    (hSets : ∀ word ∈ run, ∀ a, Assignment.ofWord? word = some a → sets a.name) :
    (Command.ofWords run).Uses reads sets := by
  induction run with
  | nil => exact ⟨by simp [Command.ofWords], by simp [Command.ofWords], by simp [Command.ofWords]⟩
  | cons word run ih =>
      rw [List.forall_mem_cons] at hReads hSets
      have hRest := ih hReads.2 hSets.2
      rw [Command.ofWords]
      cases hAssignment : Assignment.ofWord? word with
      | none => exact ⟨by simp, List.forall_mem_cons.mpr hReads, by simp⟩
      | some a =>
          have hValue : ∀ name, .substitution name ∈ a.value → reads name :=
            fun name hMem => hReads.1 name ((ofWord?_eq_some hAssignment).2 name hMem)
          exact ⟨List.forall_mem_cons.mpr ⟨hValue, hRest.values⟩, hRest.words,
            List.forall_mem_cons.mpr ⟨hSets.1 a hAssignment, hRest.names⟩⟩

theorem mem_of_mem_wordRuns {ts : List Token} {run : List Word} (hRun : run ∈ wordRuns ts)
    (hMem : word ∈ run) : .word word ∈ ts := by
  induction ts generalizing run with
  | nil =>
      rw [List.mem_singleton.mp hRun] at hMem
      cases hMem
  | cons t ts ih =>
      cases t with
      | separator =>
          rcases List.mem_cons.mp hRun with rfl | hRun
          · cases hMem
          · exact List.mem_cons_of_mem _ (ih hRun hMem)
      | word w =>
          rw [wordRuns] at hRun
          cases hRuns : wordRuns ts with
          | nil => exact absurd hRuns (wordRuns_ne_nil ts)
          | cons first runs =>
              rw [hRuns] at hRun ih
              rcases List.mem_cons.mp hRun with rfl | hRun
              · rcases List.mem_cons.mp hMem with rfl | hMem
                · exact List.mem_cons_self
                · exact List.mem_cons_of_mem _ (ih List.mem_cons_self hMem)
              · exact List.mem_cons_of_mem _ (ih (List.mem_cons_of_mem _ hRun) hMem)

theorem mem_of_mem_dropLastEmpty {runs : List (List Word)} {run : List Word}
    (h : run ∈ dropLastEmpty runs) : run ∈ runs := by
  induction runs with
  | nil => exact h
  | cons first runs ih =>
      cases runs with
      | nil =>
          rw [dropLastEmpty] at h
          split at h
          · cases h
          · exact h
      | cons next runs =>
          rcases List.mem_cons.mp h with rfl | h
          · exact List.mem_cons_self
          · exact List.mem_cons_of_mem _ (ih h)

/-- What a word of a text takes the values of stands in the text, and what it assigns to is written
there. -/
theorem uses_of_tokens {text : String} {ts : List Token} {cs : List Command}
    (hTokens : tokens text = .ok ts) (hCommands : commandsOf ts = .ok cs) :
    ∀ command ∈ cs, command.Uses (Mentions text) (Spells text) := by
  have hOk : commands ts = .ok cs := by
    unfold commandsOf at hCommands
    cases hResult : commands ts with
    | error fault => rw [hResult] at hCommands; cases hCommands
    | ok others => rw [hResult] at hCommands; cases hCommands; rfl
  obtain ⟨_, rfl⟩ := commands_eq_ok_iff.mp hOk
  intro command hMem
  obtain ⟨run, hRun, rfl⟩ := List.mem_map.mp hMem
  have hWord : ∀ word ∈ run, ∃ part items, part <:+: text.toList ∧ Sourced part items ∧
      word = wordOf items := fun word hWord =>
    (derives_of_tokens hTokens).sourced
      (mem_of_mem_wordRuns (mem_of_mem_dropLastEmpty hRun) hWord)
  apply uses_ofWords
  · intro word hIn name hValue
    obtain ⟨part, items, hPart, hSource, rfl⟩ := hWord word hIn
    obtain ⟨hName, hInfix⟩ := hSource.values _ (mem_wordOf hValue)
    exact ⟨hName, hInfix.trans hPart⟩
  · intro word hIn a hAssigns
    obtain ⟨part, items, hPart, hSource, hItems⟩ := hWord word hIn
    obtain ⟨⟨literal, value, rest, hLiteral, hName, hText⟩, _⟩ := ofWord?_eq_some hAssigns
    obtain ⟨more, hMore⟩ := exists_of_wordOf (hItems.symm.trans hLiteral)
    rw [hText, List.map_append, List.append_assoc] at hMore
    obtain ⟨piece, hPiece, hPieced⟩ :=
      hSource.start _ _ (Scan.isNameChar_of_mem hName) hMore
    exact ⟨piece, hPiece.isInfix.trans hPart, hPieced⟩

theorem Command.Uses.mono {reads' sets' : String → Prop} {command : Command}
    (h : command.Uses reads sets) (hReads : ∀ name, reads name → reads' name)
    (hSets : ∀ name, sets name → sets' name) : command.Uses reads' sets' :=
  ⟨fun a ha name hName => hReads _ (h.values a ha name hName),
    fun word hWord name hName => hReads _ (h.words word hWord name hName),
    fun a ha => hSets _ (h.names a ha)⟩

end

theorem exists_tokens_of_readTokens {text : String} {more : List String} {ts : List Token}
    (h : (readTokens text more).result = .ok ts) :
    ∃ further unread, more = further ++ unread ∧ tokens (joinLines text further) = .ok ts := by
  induction more generalizing text with
  | nil =>
      rw [readTokens] at h
      cases hTokens : tokens text with
      | ok found => rw [hTokens] at h; cases h; exact ⟨[], [], rfl, hTokens⟩
      | error fault => rw [hTokens] at h; cases h
  | cons line more ih =>
      cases hTokens : tokens text with
      | ok found =>
          rw [readTokens_of_ok hTokens] at h
          cases h
          exact ⟨[], line :: more, rfl, hTokens⟩
      | error fault =>
          cases hIncomplete : fault.isIncomplete with
          | false => rw [readTokens_of_complete hTokens hIncomplete] at h; cases h
          | true =>
              rw [readTokens_cons_of_incomplete hTokens hIncomplete] at h
              obtain ⟨further, unread, rfl, hFound⟩ := ih h
              exact ⟨line :: further, unread, rfl, hFound⟩

/-- All that a statement uses is written in its lines. -/
theorem uses_of_readStatement {text : String} {more : List String} {cs : List Command}
    (h : (readStatement text more).result = .ok cs) :
    ∀ command ∈ cs,
      command.Uses (Mentions (joinLines text more)) (Spells (joinLines text more)) := by
  change (readTokens text more).result.bind commandsOf = .ok cs at h
  cases hRead : (readTokens text more).result with
  | error fault => rw [hRead] at h; cases h
  | ok ts =>
      rw [hRead] at h
      obtain ⟨further, unread, rfl, hTokens⟩ := exists_tokens_of_readTokens hRead
      obtain ⟨rest, hRest⟩ := exists_joinLines (joinLines text further) unread
      have hInfix : (joinLines text further).toList <:+:
          (joinLines text (further ++ unread)).toList := by
        have hJoin : joinLines text (further ++ unread) = joinLines text further ++ rest := by
          rw [← hRest]
          exact List.foldl_append
        rw [hJoin, String.toList_append]
        exact (List.prefix_append ..).isInfix
      intro command hMem
      exact (uses_of_tokens hTokens h command hMem).mono (fun _ => .mono hInfix)
        fun _ => .mono hInfix

end ScriptShell
