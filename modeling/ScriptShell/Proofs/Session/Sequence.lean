import ScriptShell.Proofs.Session.Unwinding
import ScriptShell.Proofs.Statement.Separator
/-!
Sequences of commands. A separator between two statements means: carry out the first one, and then,
unless it failed or the session was told to end, the second. Both are read before either begins, so
a second statement that cannot be read leaves the first one undone.
-/
namespace ScriptShell

namespace Outcome

theorem andThen_ok (outcome : Outcome) :
    (outcome.andThen fun status s => (.ok status, s)) = outcome := by
  rcases outcome.andThen_cases with hDone | ⟨status, s, rfl, goesOn⟩
  · exact hDone _
  · exact andThen_of_ok rfl goesOn _

theorem andThen_andThen (outcome : Outcome) (next last : Nat → Session → Outcome) :
    (outcome.andThen next).andThen last =
      outcome.andThen fun status s => (next status s).andThen last := by
  rcases outcome.andThen_cases with hDone | ⟨status, s, rfl, goesOn⟩
  · rw [hDone, hDone, hDone]
  · rw [andThen_of_ok rfl goesOn, andThen_of_ok rfl goesOn]

end Outcome

namespace Session
variable {files : FileTree} {text : String} {ts : List Token} {cs : List Command}

/-- Carrying out commands is carrying out the first ones and then, from where these have come to,
the others. The induction is on the first ones. -/
theorem carryOut_append (files : FileTree) (status : Nat) (command : Command)
    (cs ds : List Command) (s : Session) :
    carryOut files (.commands status (command :: cs ++ ds)) s =
      (carryOut files (.commands status (command :: cs)) s).andThen
        fun status after => carryOut files (.commands status ds) after := by
  induction cs generalizing status command s with
  | nil =>
      have hAlone : carryOut files (.commands status [command]) s =
          commandBy (carryOut files) command s := by
        rw [carryOut_cons]
        exact Outcome.andThen_ok _
      rw [hAlone]
      exact carryOut_cons files status command ds s
  | cons next cs ih =>
      rw [List.cons_append, carryOut_cons, carryOut_cons, Outcome.andThen_andThen]
      exact Outcome.andThen_congr fun done after _ _ => ih done next after

/-- The status before the first command tells nothing, as soon as there is one. -/
theorem carryOut_status {ds : List Command} (hSome : ds ≠ []) (status other : Nat) (s : Session) :
    carryOut files (.commands status ds) s = carryOut files (.commands other ds) s := by
  cases ds with
  | nil => exact absurd rfl hSome
  | cons command rest => rw [carryOut_cons, carryOut_cons]

theorem execute_of_commands (hTokens : tokens text = .ok ts) (hCommands : commands ts = .ok cs)
    (more : List String) (s : Session) :
    s.execute files text more = carryOut files (.commands 0 cs) s := by
  have hRead : (readStatement text more).result = .ok cs := by
    rw [readStatement, readTokens_of_ok hTokens]
    change (commands ts).mapError Fault.command = _
    rw [hCommands]
    rfl
  rw [execute, hRead]
  rfl

/-- A statement that says nothing changes nothing. -/
theorem execute_of_not_commands
    (h : ∀ ts cs, tokens text = .ok ts → commands ts ≠ .ok cs) (s : Session) :
    ∃ fault, s.execute files text [] = (.error (.fault fault), s) := by
  suffices hRead : ∃ fault, (readStatement text []).result = .error fault by
    obtain ⟨fault, hFault⟩ := hRead
    exact ⟨fault, by rw [execute, hFault]; rfl⟩
  unfold readStatement
  cases hTokens : tokens text with
  | error fault =>
      cases hIncomplete : fault.isIncomplete with
      | true => exact ⟨_, by rw [readTokens_nil_of_incomplete hTokens hIncomplete]; rfl⟩
      | false => exact ⟨_, by rw [readTokens_of_complete hTokens hIncomplete]; rfl⟩
  | ok ts =>
      rw [readTokens_of_ok hTokens]
      change ∃ fault, (commands ts).mapError Fault.command = .error fault
      cases hCommands : commands ts with
      | error fault => exact ⟨_, rfl⟩
      | ok cs => exact absurd hCommands (h ts cs hTokens)

/-- A separator is sequential composition. Two statements with a separator between them do what the
first one does, and then, if it went well and the session goes on, what the second one does. If the
second one has no tokens or no commands, none of the first one is carried out. -/
theorem execute_sequence (files : FileTree) (s : Session) {first second : String}
    {ts : List Token} {cs : List Command} (hTokens : tokens first = .ok ts)
    (hComment : ¬ReachesComment first) (hCommands : commands ts = .ok cs) (hSome : cs ≠ [])
    (hLast : ts.getLast? ≠ some .separator) :
    (∀ us ds, tokens second = .ok us → commands us = .ok ds → ds ≠ [] →
      s.execute files (first ++ ";" ++ second) [] =
        Outcome.andThen (s.execute files first [])
          fun _ after => after.execute files second []) ∧
    ((∀ us ds, tokens second = .ok us → commands us ≠ .ok ds) →
      ∃ fault, s.execute files (first ++ ";" ++ second) [] = (.error (.fault fault), s)) := by
  have hWords : ts ≠ [] := by
    rintro rfl
    cases hCommands
    exact hSome rfl
  constructor
  · intro us ds hSecond hLater hMore
    have hBoth : tokens (first ++ ";" ++ second) = .ok (ts ++ .separator :: us) :=
      (tokens_sequence_iff hTokens hComment).mpr ⟨us, hSecond, rfl⟩
    have hAll : commands (ts ++ .separator :: us) = .ok (cs ++ ds) :=
      (commands_sequence_iff hCommands hWords hLast).mpr ⟨ds, hLater, rfl⟩
    obtain ⟨command, rest, rfl⟩ := List.exists_cons_of_ne_nil hSome
    calc
      s.execute files (first ++ ";" ++ second) [] =
          carryOut files (.commands 0 (command :: rest ++ ds)) s :=
        execute_of_commands hBoth hAll [] s
      _ = (carryOut files (.commands 0 (command :: rest)) s).andThen
            fun status after => carryOut files (.commands status ds) after :=
          carryOut_append files 0 command rest ds s
      _ = Outcome.andThen (s.execute files first [])
            fun _ after => after.execute files second [] := by
          rw [execute_of_commands hTokens hCommands]
          refine Outcome.andThen_congr fun status after _ _ => ?_
          rw [execute_of_commands hSecond hLater]
          exact carryOut_status hMore status 0 after
  · intro hNone
    apply execute_of_not_commands
    intro out all hOut hAll
    obtain ⟨us, hSecond, rfl⟩ := (tokens_sequence_iff hTokens hComment).mp hOut
    obtain ⟨ds, hLater, _⟩ := (commands_sequence_iff hCommands hWords hLast).mp hAll
    exact hNone us ds hSecond hLater

/-- The second statement sees the variable that the first one sets. With an open quote in the second
one the variable is not even set. -/
theorem out_execute_sequence :
    (execute {} ("x=a" ++ ";" ++ "echo $x") [] { directory := "/" }).2.journal.out = "a\n" ∧
      ∃ fault, execute {} ("x=a" ++ ";" ++ "echo 'b") [] { directory := "/" } =
        (.error (.fault fault), { directory := "/" }) := by
  have hTokens : tokens "x=a" = .ok [.word [.literal "x=a"]] := by rfl
  have hComment : ¬ReachesComment "x=a" := by
    rintro ⟨s, hScan, hMode⟩
    cases hScan
    cases hMode
  have hCommands : commands [.word [.literal "x=a"]] =
      .ok [⟨[⟨"x", [.literal "a"]⟩], []⟩] := by rfl
  have hSequence (second : String) := @execute_sequence {} { directory := "/" } "x=a" second _ _
    hTokens hComment hCommands (by simp) (by simp)
  have hSecond : tokens "echo $x" =
      .ok [.word [.literal "echo"], .word [.substitution "x"]] := by rfl
  have hCall : commands [.word [.literal "echo"], .word [.substitution "x"]] =
      .ok [⟨[], [[.literal "echo"], [.substitution "x"]]⟩] := by rfl
  have hOpen : tokens "echo 'b" = .error .openQuote := by rfl
  constructor
  · rw [(hSequence "echo $x").1 _ _ hSecond hCall (by simp)]
    decide +kernel
  · apply (hSequence "echo 'b").2
    intro us ds hOk
    rw [hOpen] at hOk
    cases hOk

end Session

end ScriptShell
