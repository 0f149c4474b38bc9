import ScriptShell.Proofs.Session.Unwinding
/-!
What comes of a call, case by case: its name is unknown, its arguments do not fit, it is answered
with the help of its command, or the command does the one thing that it is there for.
-/
namespace ScriptShell

/-- The line for the error output that an event adds, if it adds one. -/
def Event.diagnostic? : Event → Option Diagnostic
  | .reported diagnostic => some diagnostic
  | _ => none

namespace Journal

/-- What was reported to the error output, one by one. -/
def diagnostics (j : Journal) : List Diagnostic :=
  j.toList.filterMap Event.diagnostic?

theorem diagnostics_record (j : Journal) (event : Event) :
    (j.record event).diagnostics = j.diagnostics ++ event.diagnostic?.toList := by
  rw [diagnostics, toList_record, List.filterMap_append]
  cases event <;> rfl

/-- The error output is made up of a line for each diagnostic. -/
theorem err_eq_diagnostics (j : Journal) :
    j.err = String.join (j.diagnostics.map fun diagnostic => diagnostic.text ++ "\n") := by
  unfold err diagnostics
  induction j.toList with
  | nil => rfl
  | cons event rest ih =>
      rw [List.map_cons, String.join_cons, ih]
      cases event <;> simp [List.filterMap_cons, Event.err, Event.diagnostic?, String.join_cons]

end Journal

namespace StandardCommand

theorem name_injective : Function.Injective name := by
  intro c d h
  cases c <;> cases d <;> revert h <;> decide

/-- A command is found by its name, and no other command is. -/
theorem find?_name_eq_some_iff {vocabulary : List StandardCommand} {name : String}
    {command : StandardCommand} :
    vocabulary.find? (·.name == name) = some command ↔
      command ∈ vocabulary ∧ command.name = name := by
  constructor
  · intro h
    exact ⟨List.mem_of_find?_eq_some h, by simpa using List.find?_some h⟩
  · rintro ⟨hMem, rfl⟩
    obtain ⟨found, hFound⟩ : ∃ found, vocabulary.find? (·.name == command.name) = some found :=
      Option.isSome_iff_exists.mp (List.find?_isSome.mpr ⟨command, hMem, by simp⟩)
    have hName : found.name = command.name := by simpa using List.find?_some hFound
    rw [hFound, name_injective hName]

/-- A command that can be called is the only one of its name. -/
theorem exists_named_iff {vocabulary : List StandardCommand} {command : StandardCommand}
    (h : command ∈ vocabulary) (p : StandardCommand → Prop) :
    (∃ other ∈ vocabulary, other.name = command.name ∧ p other) ↔ p command := by
  constructor
  · rintro ⟨other, _, hName, hOther⟩
    rwa [name_injective hName] at hOther
  · exact fun hCommand => ⟨command, h, rfl, hCommand⟩

end StandardCommand

namespace Session
variable {files : FileTree} {s after : Session} {command : StandardCommand}
  {arguments : List String} {target : Option String} {text message : String}

/-- A text was written to the output, and nothing was reported. -/
structure Prints (s : Session) (text : String) (after : Session) : Prop where
  out : after.journal.out = s.journal.out ++ text
  diagnostics : after.journal.diagnostics = s.journal.diagnostics

/-- A message was reported, and nothing else was done: it is the only one, and nothing was written
to the output. -/
structure Complains (s : Session) (message : String) (after : Session) : Prop where
  state : after = { s with journal := after.journal }
  out : after.journal.out = s.journal.out
  diagnostics : after.journal.diagnostics = s.journal.diagnostics ++ [.message message]

theorem Prints.err (h : s.Prints text after) : after.journal.err = s.journal.err := by
  rw [Journal.err_eq_diagnostics, h.diagnostics, ← Journal.err_eq_diagnostics]

theorem Complains.err (h : s.Complains message after) :
    after.journal.err = s.journal.err ++ (message ++ "\n") := by
  rw [Journal.err_eq_diagnostics, h.diagnostics, Journal.err_eq_diagnostics]
  simp [String.join_append, Diagnostic.text]

theorem prints_record (s : Session) (event : Event) (h : event.diagnostic? = none) :
    s.Prints event.out (s.record event) where
  out := s.journal.out_record event
  diagnostics := by
    rw [record, Journal.diagnostics_record, h]
    exact List.append_nil _

theorem prints_write (s : Session) (text : String) : s.Prints text (s.write text) :=
  s.prints_record (.wrote text) rfl

theorem prints_stop (s : Session) : s.Prints "" s.stop where
  out := (s.journal.out_record _).trans rfl
  diagnostics := by simp [stop, record, Journal.diagnostics_record, Event.diagnostic?]

theorem complains_report (s : Session) (message : String) :
    s.Complains message (s.report message) where
  state := rfl
  out := (s.journal.out_record _).trans String.append_empty
  diagnostics := s.journal.diagnostics_record _

section
variable {event : Event} (hSilent : event.out = "") (hQuiet : event.diagnostic? = none)
include hSilent hQuiet

theorem prints_silent (s : Session) : s.Prints "" (s.record event) :=
  hSilent ▸ s.prints_record event hQuiet

theorem Prints.of_record (h : (s.record event).Prints text after) : s.Prints text after where
  out := by rw [h.out, (s.prints_silent hSilent hQuiet).out, String.append_empty]
  diagnostics := h.diagnostics.trans (s.prints_silent hSilent hQuiet).diagnostics

theorem Complains.of_record (h : (s.record event).Complains message after) :
    s.Complains message after where
  state := h.state
  out := by rw [h.out, (s.prints_silent hSilent hQuiet).out, String.append_empty]
  diagnostics := by rw [h.diagnostics, (s.prints_silent hSilent hQuiet).diagnostics]

end

/-- The directory asked for, seen from the working directory, is at a location. -/
def LeadsTo (files : FileTree) (s : Session) (target : Option String) (loc : Location) : Prop :=
  ∃ path, s.directoryAsked target = some path ∧ files.place (s.resolve path) = .ok loc ∧
    files.isDirectory loc = true

/-- What comes of a change of the working directory: it is made, or a complaint is. -/
inductive Moves (files : FileTree) (s : Session) (target : Option String) : Nat → Session → Prop
  | moved {loc : Location} {after : Session} (leads : s.LeadsTo files target loc)
      (state : after = { s with directory := loc.text, journal := after.journal })
      (silent : s.Prints "" after) : Moves files s target 0 after
  | refused {message : String} {after : Session} (nowhere : ∀ loc, ¬s.LeadsTo files target loc)
      (complains : s.Complains message after) : Moves files s target 1 after

theorem Moves.of_record {event : Event} (hSilent : event.out = "")
    (hQuiet : event.diagnostic? = none) {status : Nat}
    (h : (s.record event).Moves files target status after) : s.Moves files target status after := by
  cases h with
  | moved leads state silent => exact .moved leads state (.of_record hSilent hQuiet silent)
  | refused nowhere complains => exact .refused nowhere (.of_record hSilent hQuiet complains)

theorem leadsTo_iff {path : String} {loc : Location}
    (hAsked : s.directoryAsked target = some path) :
    s.LeadsTo files target loc ↔
      files.place (s.resolve path) = .ok loc ∧ files.isDirectory loc = true := by
  simp [LeadsTo, hAsked]

theorem moves_changeDirectory (files : FileTree) (target : Option String) (s : Session) :
    s.Moves files target (s.changeDirectory files target).1 (s.changeDirectory files target).2 := by
  unfold changeDirectory
  cases hAsked : s.directoryAsked target with
  | none =>
      refine .refused ?_ (s.complains_report _)
      rintro loc ⟨path, hPath, _⟩
      simp [hAsked] at hPath
  | some path =>
      have hComplains (message : String) :
          s.Complains (StandardCommand.cd.name ++ ": " ++ message)
            ((s.record (.sought (s.resolve path))).complain .cd message) :=
        .of_record rfl rfl (complains_report _ _)
      simp only
      cases hPlace : files.place (s.resolve path) with
      | error error =>
          refine .refused (fun loc hLeads => ?_) (hComplains _)
          simp [leadsTo_iff hAsked, hPlace] at hLeads
      | ok loc =>
          cases hDirectory : files.isDirectory loc with
          | false =>
              simp only [hDirectory]
              refine .refused (fun other hLeads => ?_) (hComplains _)
              simp only [leadsTo_iff hAsked, hPlace, Except.ok.injEq] at hLeads
              obtain ⟨rfl, hThere⟩ := hLeads
              simp [hDirectory] at hThere
          | true =>
              have hSought : s.Prints "" (s.record (.sought (s.resolve path))) :=
                s.prints_silent rfl rfl
              simp only [hDirectory, if_true]
              exact .moved ((leadsTo_iff hAsked).mpr ⟨hPlace, hDirectory⟩) rfl
                ⟨hSought.out, hSought.diagnostics⟩

/-- What can come of a call of a command. -/
inductive Does (files : FileTree) (s : Session) (arguments : List String) :
    StandardCommand → Outcome → Prop
  | misused {command : StandardCommand} {fault : ArgumentFault} {after : Session}
      (unread : command.form.read arguments = .error fault)
      (complains : s.Complains (Text.trimEnd fault.message) after) :
      Does files s arguments command (.ok 1, after)
  | helped {command : StandardCommand} {after : Session}
      (asked : command.form.read arguments = .ok .help)
      (state : after = { s with journal := after.journal })
      (prints : s.Prints command.help after) : Does files s arguments command (.ok 0, after)
  | pwd {given : Arguments} {after : Session}
      (read : StandardCommand.pwd.form.read arguments = .ok (.given given))
      (state : after = { s with journal := after.journal })
      (prints : s.Prints (s.directory ++ "\n") after) : Does files s arguments .pwd (.ok 0, after)
  | cd {given : Arguments} {status : Nat} {after : Session}
      (read : StandardCommand.cd.form.read arguments = .ok (.given given))
      (moves : s.Moves files given.operands.head? status after) :
      Does files s arguments .cd (.ok status, after)
  | echo {given : Arguments} {after : Session}
      (read : StandardCommand.echo.form.read arguments = .ok (.given given))
      (state : after = { s with journal := after.journal })
      (prints : s.Prints (" ".intercalate given.operands ++ if given.switched then "" else "\n")
        after) : Does files s arguments .echo (.ok 0, after)
  | exit {given : Arguments} {after : Session}
      (read : StandardCommand.exit.form.read arguments = .ok (.given given))
      (state : after = { s with stopping := true, journal := after.journal })
      (silent : s.Prints "" after) : Does files s arguments .exit (.ok 0, after)
  | inclusion {given : Arguments}
      (read : StandardCommand.inclusion.form.read arguments = .ok (.given given)) :
      Does files s arguments .inclusion
        (Outcome.ofScript ((s.record (.called "include" arguments)).runScript files
          (given.operands.headD "")))

theorem invoke_unknown {name : String} (h : ∀ command ∈ s.vocabulary, command.name ≠ name)
    (files : FileTree) (arguments : List String) :
    s.invoke files name arguments = (.error (.fault (.unknownCommand name)), s) := by
  have hFind : s.vocabulary.find? (·.name == name) = none := by
    simpa [List.find?_eq_none] using h
  simp only [invoke, call, hFind]

theorem perform_inclusion (files : FileTree) (runScript : ScriptRun) (given : Arguments)
    (s : Session) :
    s.perform files runScript .inclusion given =
      Outcome.ofScript (runScript (given.operands.headD "") s) := by
  unfold perform
  generalize runScript _ s = outcome
  obtain ⟨result, after⟩ := outcome
  cases result <;> rfl

/-- Every call of a command that can be called comes to one of these. -/
theorem does_invoke (hKnown : command ∈ s.vocabulary) (files : FileTree)
    (arguments : List String) :
    s.Does files arguments command (s.invoke files command.name arguments) := by
  have hFind : s.vocabulary.find? (·.name == command.name) = some command :=
    StandardCommand.find?_name_eq_some_iff.mpr ⟨hKnown, rfl⟩
  have hPrints {text : String} {after : Session}
      (h : (s.record (.called command.name arguments)).Prints text after) : s.Prints text after :=
    h.of_record rfl rfl
  simp only [invoke, call, hFind]
  cases hRead : command.form.read arguments with
  | error fault => exact .misused hRead (.of_record rfl rfl (complains_report _ _))
  | ok request =>
      cases request with
      | help => exact .helped hRead rfl (hPrints (prints_write _ _))
      | given given =>
          cases command with
          | pwd => exact .pwd hRead rfl (hPrints (prints_write _ _))
          | cd => exact .cd hRead (.of_record rfl rfl (moves_changeDirectory ..))
          | echo =>
              refine .echo hRead rfl (hPrints ?_)
              cases hSwitched : given.switched <;> simpa [perform, hSwitched] using prints_write _ _
          | exit =>
              exact .exit hRead rfl (hPrints (prints_stop _))
          | inclusion =>
              simp only [perform_inclusion]
              exact .inclusion hRead

end Session

end ScriptShell
