import ScriptShell.Proofs.Session.Calls
/-!
What a call answers, and what it leaves as it was. A call that cannot be served changes nothing, one
that comes to nothing changes nothing and says so in one line, and one that goes well changes what
its command is there for and nothing else. The status of a statement is that of its last command.
-/
namespace ScriptShell

namespace Session
variable {files : FileTree} {s after : Session} {command : StandardCommand} {name : String}
  {arguments : List String} {outcome : Outcome} {status : Nat}

/-- Whether a call asks for the help of its command. -/
def AsksHelp (s : Session) (name : String) (arguments : List String) : Prop :=
  ∃ command ∈ s.vocabulary, command.name = name ∧ command.form.read arguments = .ok .help

/-- Whether a call comes to nothing: its arguments do not fit its command, or it is to change to a
directory that is not there. -/
def ComesToNothing (files : FileTree) (s : Session) (name : String) (arguments : List String) :
    Prop :=
  ∃ command ∈ s.vocabulary, command.name = name ∧
    ((∃ fault, command.form.read arguments = .error fault) ∨
      command = .cd ∧ ∃ given, command.form.read arguments = .ok (.given given) ∧
        ∀ loc, ¬s.LeadsTo files given.operands.head? loc)

/-- What a call leaves as it was that goes well and runs no script. -/
structure Spares (s : Session) (name : String) (arguments : List String) (after : Session) :
    Prop where
  vars : after.vars = s.vars
  running : after.running = s.running
  err : after.journal.err = s.journal.err
  directory : name ≠ "cd" → after.directory = s.directory
  stopping : name ≠ "exit" → after.stopping = s.stopping
  out : name ≠ "echo" → name ≠ "pwd" → ¬s.AsksHelp name arguments →
    after.journal.out = s.journal.out

/-- What can come of a call. -/
structure Answers (files : FileTree) (s : Session) (name : String) (arguments : List String)
    (outcome : Outcome) : Prop where
  kinds : outcome.1 = .ok 0 ∨ outcome.1 = .ok 1 ∨
    outcome.1 = .error (.fault (.unknownCommand name)) ∨
    name = "include" ∧ ∃ failure, outcome.1 = .error (.script failure)
  unknown : outcome.1 = .error (.fault (.unknownCommand name)) ↔
    ∀ command ∈ s.vocabulary, command.name ≠ name
  unserved : outcome.1 = .error (.fault (.unknownCommand name)) → outcome.2 = s
  nothing : outcome.1 = .ok 1 ↔ s.ComesToNothing files name arguments
  complains : outcome.1 = .ok 1 → ∃ message, s.Complains message outcome.2 ∧
    outcome.2.journal.err = s.journal.err ++ (message ++ "\n")
  spares : outcome.1 = .ok 0 → (name = "include" → s.AsksHelp name arguments) →
    s.Spares name arguments outcome.2

/-- A script goes well or fails. -/
theorem kinds_ofScript (outcome : Except ScriptFailure Unit × Session) :
    (Outcome.ofScript outcome).1 = .ok 0 ∨
      ∃ failure, (Outcome.ofScript outcome).1 = .error (.script failure) := by
  obtain ⟨result, after⟩ := outcome
  cases result with
  | ok => exact .inl rfl
  | error failure => exact .inr ⟨failure, rfl⟩

theorem ofScript_ne_one (outcome : Except ScriptFailure Unit × Session) :
    (Outcome.ofScript outcome).1 ≠ .ok 1 := by
  rcases kinds_ofScript outcome with h | ⟨failure, h⟩ <;> rw [h] <;> simp

theorem Does.kinds (h : s.Does files arguments command outcome) :
    outcome.1 = .ok 0 ∨ outcome.1 = .ok 1 ∨
      command = .inclusion ∧ ∃ failure, outcome.1 = .error (.script failure) := by
  cases h with
  | misused => exact .inr (.inl rfl)
  | cd _ moves =>
      cases moves with
      | moved => exact .inl rfl
      | refused => exact .inr (.inl rfl)
  | inclusion =>
      rcases kinds_ofScript _ with h | h
      · exact .inl h
      · exact .inr (.inr ⟨rfl, h⟩)
  | helped | pwd | echo | exit => exact .inl rfl

/-- The status one is for calls that come to nothing. -/
theorem Does.complains (h : s.Does files arguments command outcome) (hStatus : outcome.1 = .ok 1) :
    ∃ message, s.Complains message outcome.2 := by
  cases h with
  | misused _ complains => exact ⟨_, complains⟩
  | cd _ moves =>
      cases moves with
      | moved => cases hStatus
      | refused _ complains => exact ⟨_, complains⟩
  | inclusion => exact absurd hStatus (ofScript_ne_one _)
  | helped | pwd | echo | exit => cases hStatus

/-- It is for no other calls. -/
theorem Does.comesToNothing_iff (h : s.Does files arguments command outcome)
    (hKnown : command ∈ s.vocabulary) :
    outcome.1 = .ok 1 ↔ s.ComesToNothing files command.name arguments := by
  rw [ComesToNothing, StandardCommand.exists_named_iff hKnown]
  cases h with
  | misused unread => simp [unread]
  | helped asked => simp [asked]
  | cd read moves =>
      cases moves with
      | moved leads => simpa [read] using ⟨_, leads⟩
      | refused nowhere => simpa [read] using nowhere
  | inclusion read => simp [read, ofScript_ne_one]
  | pwd read | echo read | exit read => simp [read]

theorem spares_of_state {directory text : String} {stopping : Bool}
    (state : after = { s with directory, stopping, journal := after.journal })
    (prints : s.Prints text after) (hDirectory : name ≠ "cd" → directory = s.directory)
    (hStopping : name ≠ "exit" → stopping = s.stopping)
    (hText : name ≠ "echo" → name ≠ "pwd" → ¬s.AsksHelp name arguments → text = "") :
    s.Spares name arguments after where
  vars := by rw [state]
  running := by rw [state]
  err := prints.err
  directory h := (congrArg Session.directory state).trans (hDirectory h)
  stopping h := (congrArg Session.stopping state).trans (hStopping h)
  out hEcho hPwd hNoHelp := by rw [prints.out, hText hEcho hPwd hNoHelp, String.append_empty]

/-- What a call changes that goes well is what its command is there for. -/
theorem Does.spares (h : s.Does files arguments command outcome) (hKnown : command ∈ s.vocabulary)
    (hStatus : outcome.1 = .ok 0)
    (hNoScript : command.name = "include" → s.AsksHelp command.name arguments) :
    s.Spares command.name arguments outcome.2 := by
  have hHelp : s.AsksHelp command.name arguments ↔ command.form.read arguments = .ok .help :=
    StandardCommand.exists_named_iff hKnown _
  cases h with
  | misused => cases hStatus
  | helped asked state prints =>
      exact spares_of_state state prints (fun _ => rfl) (fun _ => rfl)
        fun _ _ hNoHelp => absurd (hHelp.mpr asked) hNoHelp
  | pwd read state prints =>
      exact spares_of_state state prints (fun _ => rfl) (fun _ => rfl)
        fun _ hPwd _ => absurd rfl hPwd
  | cd read moves =>
      cases moves with
      | moved leads state silent =>
          exact spares_of_state state silent (fun hCd => absurd rfl hCd) (fun _ => rfl)
            fun _ _ _ => rfl
      | refused => cases hStatus
  | echo read state prints =>
      exact spares_of_state state prints (fun _ => rfl) (fun _ => rfl)
        fun hEcho _ _ => absurd rfl hEcho
  | exit read state silent =>
      exact spares_of_state state silent (fun _ => rfl) (fun hExit => absurd rfl hExit)
        fun _ _ _ => rfl
  | inclusion read =>
      rw [hHelp.mp (hNoScript rfl)] at read
      cases read

/-- Every call is answered in one of these ways. -/
theorem answers_invoke (files : FileTree) (s : Session) (name : String)
    (arguments : List String) :
    s.Answers files name arguments (s.invoke files name arguments) := by
  by_cases hKnown : ∃ command ∈ s.vocabulary, command.name = name
  · obtain ⟨command, hCommand, rfl⟩ := hKnown
    have hDoes := does_invoke hCommand files arguments
    have hServed : (s.invoke files command.name arguments).1 ≠
        .error (.fault (.unknownCommand command.name)) := by
      intro hUnknown
      rcases hDoes.kinds with h | h | ⟨_, failure, h⟩ <;> rw [h] at hUnknown <;> cases hUnknown
    exact
      { kinds := by
          rcases hDoes.kinds with h | h | ⟨rfl, h⟩
          · exact .inl h
          · exact .inr (.inl h)
          · exact .inr (.inr (.inr ⟨rfl, h⟩))
        unknown := iff_of_false hServed fun h => h command hCommand rfl
        unserved := fun h => absurd h hServed
        nothing := hDoes.comesToNothing_iff hCommand
        complains := fun h => by
          obtain ⟨message, hComplains⟩ := hDoes.complains h
          exact ⟨message, hComplains, hComplains.err⟩
        spares := hDoes.spares hCommand }
  · have hNone : ∀ command ∈ s.vocabulary, command.name ≠ name := by simpa using hKnown
    rw [invoke_unknown hNone]
    exact
      { kinds := .inr (.inr (.inl rfl))
        unknown := iff_of_true rfl hNone
        unserved := fun _ => rfl
        nothing := iff_of_false nofun fun ⟨command, hMem, hName, _⟩ => hNone command hMem hName
        complains := nofun
        spares := nofun }

/-- Of some commands that are carried out from a session on, one is the last to be carried out, and
this is the session in which it begins. -/
inductive EndsWith (files : FileTree) : List Command → Session → Command → Session → Prop
  | last (command : Command) (s : Session) : EndsWith files [command] s command s
  | stopped {command : Command} {rest : List Command} {status : Nat} {s after : Session}
      (outcome : commandBy (carryOut files) command s = (.ok status, after))
      (stopping : after.stopping = true) : EndsWith files (command :: rest) s command s
  | later {command final : Command} {rest : List Command} {status : Nat} {s m moment : Session}
      (outcome : commandBy (carryOut files) command s = (.ok status, m))
      (goesOn : m.stopping = false) (ends : EndsWith files rest m final moment) :
      EndsWith files (command :: rest) s final moment

/-- Where the status of some commands comes from, and the session that they leave. -/
inductive StatusOf (files : FileTree) (commands : List Command) (s : Session) (status : Nat)
    (after : Session) : Prop
  | nothing (none : commands = []) (zero : status = 0) (same : after = s)
  | assignments {final : Command} {moment : Session}
      (ends : EndsWith files commands s final moment) (noCall : final.words = [])
      (zero : status = 0) (assigned : after = moment.assignAll final.assignments)
  | call {final : Command} {moment assigned : Session} {name : String} {arguments : List String}
      (ends : EndsWith files commands s final moment)
      (made : assigned = moment.assignAll final.assignments)
      (named : final.words.map assigned.expand = name :: arguments)
      (answer : assigned.invoke files name arguments = (.ok status, after))

/-- Commands that go well come to the status of the last one that is carried out. The induction is
on the commands. -/
theorem exists_endsWith {first : Nat} {commands : List Command} (hSome : commands ≠ [])
    (h : carryOut files (.commands first commands) s = (.ok status, after)) :
    ∃ final moment, EndsWith files commands s final moment ∧
      commandBy (carryOut files) final moment = (.ok status, after) := by
  induction commands generalizing first s with
  | nil => exact absurd rfl hSome
  | cons command rest ih =>
      rw [carryOut_cons] at h
      cases hCommand : commandBy (carryOut files) command s with
      | mk result m =>
          rw [hCommand] at h
          cases result with
          | error failure => cases h
          | ok done =>
              cases hStop : m.stopping with
              | true =>
                  simp only [Outcome.andThen, hStop, if_true] at h
                  cases h
                  exact ⟨command, s, .stopped hCommand hStop, hCommand⟩
              | false =>
                  simp only [Outcome.andThen, hStop] at h
                  by_cases hRest : rest = []
                  · subst hRest
                    cases h
                    exact ⟨command, s, .last command s, hCommand⟩
                  · obtain ⟨final, moment, hEnds, hFinal⟩ := ih hRest h
                    exact ⟨final, moment, .later hCommand hStop hEnds, hFinal⟩

theorem statusOf_commands {commands : List Command}
    (h : carryOut files (.commands 0 commands) s = (.ok status, after)) :
    StatusOf files commands s status after := by
  by_cases hSome : commands = []
  · subst hSome
    cases h
    exact .nothing rfl rfl rfl
  · obtain ⟨final, moment, hEnds, hFinal⟩ := exists_endsWith hSome h
    cases hWords : final.words.map (moment.assignAll final.assignments).expand with
    | nil =>
        rw [commandBy_of_nil hWords] at hFinal
        cases hFinal
        exact .assignments hEnds (List.map_eq_nil_iff.mp hWords) rfl rfl
    | cons name arguments =>
        rw [commandBy_of_cons hWords] at hFinal
        exact .call hEnds rfl hWords hFinal

theorem StatusOf.zero_or_one {commands : List Command}
    (h : StatusOf files commands s status after) : status = 0 ∨ status = 1 := by
  cases h with
  | nothing _ zero => exact .inl zero
  | assignments _ _ zero => exact .inl zero
  | @call _ _ assigned name arguments _ _ _ answer =>
      have hKinds := (answers_invoke files assigned name arguments).kinds
      rw [answer] at hKinds
      simpa using hKinds

/-- Every call comes to the status zero or one, to an unknown command or, if it is an include, to
the failure of a script. Where it comes to nothing it changes nothing, with one complaint for the
status one and none for an unknown command, and where it goes well it changes what its command is
there for. So the status of a statement that goes well is zero or one: that of its last command that
is carried out, and zero if that makes assignments only or if there is none. -/
theorem status_and_effect (files : FileTree) (s : Session) :
    (∀ name arguments, s.Answers files name arguments (s.invoke files name arguments)) ∧
    ∀ line more status after, s.execute files line more = (.ok status, after) →
      (status = 0 ∨ status = 1) ∧
        ∃ commands, (readStatement line more).result = .ok commands ∧
          StatusOf files commands s status after := by
  refine ⟨s.answers_invoke files, fun line more status after h => ?_⟩
  unfold execute at h
  cases hRead : (readStatement line more).result with
  | error fault =>
      rw [hRead] at h
      cases h
  | ok commands =>
      rw [hRead] at h
      have hStatus : StatusOf files commands s status after := statusOf_commands h
      exact ⟨hStatus.zero_or_one, commands, rfl, hStatus⟩

end Session

end ScriptShell
