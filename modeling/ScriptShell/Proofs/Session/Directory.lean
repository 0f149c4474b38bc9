import ScriptShell.Proofs.Arguments
import ScriptShell.Proofs.FileTree.Directory
import ScriptShell.Proofs.Session.Calls
/-!
The working directory. It is the canonical path of a directory at every moment of a session, since
nothing but a change of directory gives it another value, and that value is such a path.
-/
namespace ScriptShell

namespace StandardCommand
open ArgumentForm

/-- The lists of arguments for which `cd` changes the directory, with the target that is asked
for. -/
inductive IsTarget : List String → Option String → Prop
  | home : IsTarget [] none
  | homeAfterDashes : IsTarget ["--"] none
  | plain {target : String} (operand : IsOperand target) : IsTarget [target] (some target)
  | plainBeforeDashes {target : String} (operand : IsOperand target) :
      IsTarget [target, "--"] (some target)
  | afterDashes (target : String) : IsTarget ["--", target] (some target)

theorem IsTarget.read {arguments : List String} {target : Option String}
    (h : IsTarget arguments target) :
    cd.form.read arguments = .ok (.given { operands := target.toList }) := by
  cases h with
  | home => rfl
  | homeAfterDashes => rfl
  | plain operand =>
      rw [ArgumentForm.read, take_operand (.inr operand)]
      rfl
  | plainBeforeDashes operand =>
      rw [ArgumentForm.read, take_operand (.inr operand)]
      rfl
  | afterDashes target =>
      rw [ArgumentForm.read, take_dashes rfl]
      rfl

/-- Behind its target `cd` takes nothing, but for the end of its options. -/
theorem rest_of_target {p : ArgumentProgress} {rest : List String} {given : Arguments}
    (hNoHelp : p.helpAsked = false) (hFull : p.given.operands ≠ [])
    (h : (cd.form.take p rest).bind cd.form.conclude = .ok (.given given)) :
    given = p.given ∧ (rest = [] ∨ p.optionsEnded = false ∧ rest = ["--"]) := by
  have hFree : ∀ name, cd.form.operands ≠ .required name := by simp [form]
  cases rest with
  | nil =>
      rw [take, Except.bind, conclude_given hFree hNoHelp] at h
      cases h
      exact ⟨rfl, .inl rfl⟩
  | cons next more =>
      cases hEnded : p.optionsEnded with
      | true =>
          rw [take_excess rfl hFull (.inl hEnded)] at h
          cases h
      | false =>
          rcases argument_cases next with hHelp | rfl | hOption | hOperand
          · rw [take_help hEnded hHelp] at h
            exact absurd h (conclude_of_helpAsked rfl more given)
          · rw [take_dashes hEnded] at h
            cases more with
            | nil =>
                rw [take, Except.bind,
                  conclude_given (p := { p with optionsEnded := true }) hFree hNoHelp] at h
                cases h
                exact ⟨rfl, .inr ⟨rfl, rfl⟩⟩
            | cons other more =>
                rw [take_excess (p := { p with optionsEnded := true }) rfl hFull (.inl rfl)] at h
                cases h
          · rw [take_unknown hEnded hNoHelp hOption List.not_mem_nil rfl] at h
            cases h
          · rw [take_excess rfl hFull (.inr hOperand)] at h
            cases h

/-- The arguments of `cd` are carried out only where they are such a list. -/
theorem isTarget_of_read {arguments : List String} {given : Arguments}
    (h : cd.form.read arguments = .ok (.given given)) :
    IsTarget arguments given.operands.head? := by
  unfold ArgumentForm.read at h
  cases arguments with
  | nil =>
      cases h
      exact .home
  | cons first rest =>
      rcases argument_cases first with hHelp | rfl | hOption | hOperand
      · rw [take_help rfl hHelp] at h
        exact absurd h (conclude_of_helpAsked rfl rest given)
      · rw [take_dashes rfl] at h
        cases rest with
        | nil =>
            cases h
            exact .homeAfterDashes
        | cons target more =>
            rw [take_operand (.inl rfl)] at h
            obtain ⟨rfl, rfl | ⟨hEnded, _⟩⟩ := rest_of_target rfl (List.cons_ne_nil target []) h
            · exact .afterDashes target
            · cases hEnded
      · rw [take_unknown rfl rfl hOption List.not_mem_nil rfl] at h
        cases h
      · rw [take_operand (.inr hOperand)] at h
        obtain ⟨rfl, rfl | ⟨_, rfl⟩⟩ := rest_of_target rfl (List.cons_ne_nil first []) h
        · exact .plain hOperand
        · exact .plainBeforeDashes hOperand

end StandardCommand

namespace Session
variable {files : FileTree} {s m after : Session} {arguments : List String}
  {a b : Activity} {scripts : List ScriptReader}

/-- The arguments of `cd` lead from the working directory to a directory. -/
def GoesTo (files : FileTree) (s : Session) (arguments : List String) (loc : Location) : Prop :=
  ∃ target, StandardCommand.IsTarget arguments target ∧ s.LeadsTo files target loc

/-- What comes of a call of `cd`. -/
inductive ChangesDirectory (files : FileTree) (s : Session) (arguments : List String) :
    Outcome → Prop
  | moved {target : Option String} {path : String} {after : Session}
      (given : StandardCommand.IsTarget arguments target)
      (asked : s.directoryAsked target = some path)
      (canonical : files.canonical (s.resolve path) = .ok after.directory)
      (state : after = { s with directory := after.directory, journal := after.journal }) :
      ChangesDirectory files s arguments (.ok 0, after)
  | helped {after : Session} (asked : StandardCommand.cd.form.read arguments = .ok .help)
      (state : after = { s with journal := after.journal }) :
      ChangesDirectory files s arguments (.ok 0, after)
  | refused {after : Session} (nowhere : ∀ loc, ¬s.GoesTo files arguments loc)
      (state : after = { s with journal := after.journal }) :
      ChangesDirectory files s arguments (.ok 1, after)

theorem GoesTo.read {loc : Location} (h : s.GoesTo files arguments loc) :
    ∃ target, s.LeadsTo files target loc ∧ StandardCommand.cd.form.read arguments =
      .ok (.given { operands := target.toList }) := by
  obtain ⟨target, hTarget, hLeads⟩ := h
  exact ⟨target, hLeads, hTarget.read⟩

theorem LeadsTo.unique {target : Option String} {loc other : Location}
    (h : s.LeadsTo files target loc) (hOther : s.LeadsTo files target other) : loc = other := by
  obtain ⟨path, hAsked, hPlace, _⟩ := h
  rw [leadsTo_iff hAsked, hPlace] at hOther
  exact Except.ok.inj hOther.1

/-- Arguments that lead to a directory make it the working directory. -/
theorem invoke_of_goesTo {loc : Location} (hKnown : .cd ∈ s.vocabulary)
    (h : s.GoesTo files arguments loc) :
    ∃ after, s.invoke files "cd" arguments = (.ok 0, after) ∧
      after = { s with directory := loc.text, journal := after.journal } := by
  obtain ⟨target, hLeads, hRead⟩ := h.read
  have hDoes : s.Does files arguments .cd (s.invoke files "cd" arguments) :=
    does_invoke hKnown files arguments
  generalize s.invoke files "cd" arguments = outcome at hDoes ⊢
  cases hDoes with
  | misused unread => rw [hRead] at unread; cases unread
  | helped asked => rw [hRead] at asked; cases asked
  | cd read moves =>
      rw [hRead] at read
      cases read
      rw [Option.head?_toList] at moves
      cases moves with
      | moved leads state =>
          rw [leads.unique hLeads] at state
          exact ⟨_, rfl, state⟩
      | refused nowhere => exact absurd hLeads (nowhere loc)

theorem changesDirectory_invoke (hKnown : .cd ∈ s.vocabulary) (files : FileTree)
    (arguments : List String) :
    s.ChangesDirectory files arguments (s.invoke files "cd" arguments) := by
  have hDoes : s.Does files arguments .cd (s.invoke files "cd" arguments) :=
    does_invoke hKnown files arguments
  generalize s.invoke files "cd" arguments = outcome at hDoes ⊢
  cases hDoes with
  | misused unread complains =>
      refine .refused (fun loc hGoes => ?_) complains.state
      obtain ⟨target, _, hRead⟩ := hGoes.read
      rw [hRead] at unread
      cases unread
  | helped asked state => exact .helped asked state
  | @cd given status after read moves =>
      have hTarget := StandardCommand.isTarget_of_read read
      cases moves with
      | @moved loc _ leads state =>
          obtain ⟨path, hAsked, hPlace, _⟩ := leads
          have hThere : after.directory = loc.text := by rw [state]
          refine .moved hTarget hAsked ?_ (by rwa [hThere])
          rw [FileTree.canonical, hPlace, hThere]
          rfl
      | refused nowhere complains =>
          refine .refused (fun loc hGoes => ?_) complains.state
          obtain ⟨target, hLeads, hRead⟩ := hGoes.read
          rw [hRead] at read
          cases read
          rw [Option.head?_toList] at nowhere
          exact nowhere loc hLeads

/-- The session is in a directory, known by its canonical path, and can change to another one. -/
structure Placed (files : FileTree) (s : Session) : Prop where
  directory : files.IsCanonicalDirectory s.directory
  vocabulary : .cd ∈ s.vocabulary

/-- Whatever is done in a session, it stays in such a directory: only one of the steps gives it
another one, which a path was found to lead to. -/
theorem Runs.placed (h : Runs files s after) (hStart : s.Placed files) :
    after.Placed files := by
  induction h with
  | refl => exact hStart
  | trans _ _ ihFirst ihRest => exact ihRest (ihFirst hStart)
  | note | assign | stop => exact ⟨hStart.directory, hStart.vocabulary⟩
  | move s place directory =>
      exact ⟨FileTree.isCanonicalDirectory_text place directory, hStart.vocabulary⟩
  | script known started body ih =>
      obtain ⟨_, _, rfl⟩ := enter_eq_ok_iff.mp started
      have hEnd := ih ⟨hStart.directory, hStart.vocabulary⟩
      exact ⟨hEnd.directory, hEnd.vocabulary⟩

theorem runs_commandBy (command : Command) (s : Session) :
    Runs files s (commandBy (carryOut files) command s).2 := by
  cases hWords : command.words.map (s.assignAll command.assignments).expand with
  | nil =>
      rw [commandBy_of_nil hWords]
      exact runs_assignAll s command.assignments
  | cons name arguments =>
      rw [commandBy_of_cons hWords]
      have hCall := runs_carryOut files (.call name arguments) (s.assignAll command.assignments)
      exact (runs_assignAll s command.assignments).trans hCall

theorem Invokes.placed (h : Invokes files a s scripts b m) (hStart : s.Placed files) :
    m.Placed files := by
  have hSame (other : Session) (hDirectory : other.directory = s.directory)
      (hVocabulary : other.vocabulary = s.vocabulary) : other.Placed files :=
    ⟨hDirectory ▸ hStart.directory, hVocabulary ▸ hStart.vocabulary⟩
  cases h with
  | further | read | line => exact hStart
  | inclusion => exact hSame _ rfl rfl
  | call => exact (runs_assignAll s _).placed hStart
  | start known started =>
      obtain ⟨_, _, rfl⟩ := enter_eq_ok_iff.mp started
      exact hSame _ rfl rfl
  | @next _ _ command _ _ _ outcome =>
      have hRuns : Runs files s (commandBy (carryOut files) command s).2 := runs_commandBy command s
      rw [outcome] at hRuns
      exact hRuns.placed hStart
  | @goOn _ started text _ _ _ _ outcome =>
      have hRuns := runs_carryOut files (.statement text started.remaining) s
      rw [outcome] at hRuns
      exact hRuns.placed hStart

theorem Reaches.placed (h : Reaches files a s scripts b m) (hStart : s.Placed files) :
    m.Placed files := by
  induction h with
  | refl => exact hStart
  | head first _ ih => exact ih (first.placed hStart)

/-- What holds of the working directory of a session. It is the canonical path of a directory. A
change that is made leads to the canonical path of what was asked for, the same for every spelling
of the place, and one that is not made leaves everything as it was. -/
structure KeepsDirectory (files : FileTree) (s : Session) : Prop where
  canonical : files.IsCanonicalDirectory s.directory
  changes : ∀ arguments, s.ChangesDirectory files arguments (s.invoke files "cd" arguments)
  arrives : ∀ arguments loc, s.GoesTo files arguments loc →
    ∃ after, s.invoke files "cd" arguments = (.ok 0, after) ∧
      after = { s with directory := loc.text, journal := after.journal }
  dot : ∃ after, s.invoke files "cd" ["."] = (.ok 0, after) ∧
    after = { s with journal := after.journal }

theorem Placed.keepsDirectory (h : s.Placed files) : s.KeepsDirectory files where
  canonical := h.directory
  changes := changesDirectory_invoke h.vocabulary files
  arrives _ _ := invoke_of_goesTo h.vocabulary
  dot := by
    obtain ⟨loc, hText, hStraight, hDirectory⟩ := h.directory.straight
    have hPlace : files.place (s.resolve ".") = .ok loc := by
      rw [resolve, hText]
      exact hStraight.place_join_dot hDirectory
    have hOperand : ArgumentForm.IsOperand "." := ⟨by decide, by decide⟩
    obtain ⟨after, hOutcome, hState⟩ :=
      invoke_of_goesTo h.vocabulary ⟨some ".", .plain hOperand, ".", rfl, hPlace, hDirectory⟩
    rw [← hText] at hState
    exact ⟨after, hOutcome, hState⟩

/-- The session after it carried out some calls, whatever came of each of them. -/
def serveAll (files : FileTree) (calls : List Call) (s : Session) : Session :=
  calls.foldl (fun s call => s.serve files call) s

theorem placed_serveAll (h : s.Placed files) (calls : List Call) :
    (s.serveAll files calls).Placed files := by
  induction calls generalizing s with
  | nil => exact h
  | cons call rest ih => exact ih ((runs_serve files call s).placed h)

/-- In a session that begins in a directory known by its canonical path, and whose files do not
change, the working directory is such a path at every moment: after any calls, and in the middle of
any of them, at any depth of scripts. -/
theorem directory_stays_canonical {path : String} {home : Location}
    (hPlace : files.place path = .ok home) (hDirectory : files.isDirectory home = true)
    (hStart : s.directory = home.text) (hKnown : .cd ∈ s.vocabulary) (calls : List Call) :
    (s.serveAll files calls).KeepsDirectory files ∧
      ∀ a scripts b m, Reaches files a (s.serveAll files calls) scripts b m →
        m.KeepsDirectory files := by
  have hHome : s.Placed files :=
    ⟨hStart ▸ FileTree.isCanonicalDirectory_text hPlace hDirectory, hKnown⟩
  have hAfter := placed_serveAll hHome calls
  exact ⟨hAfter.keepsDirectory, fun a scripts b m h => (h.placed hAfter).keepsDirectory⟩

end Session

/-- A directory, and a link to it. -/
def FileTree.linked : FileTree :=
  ⟨[(["d"], .directory), (["l"], .link "d")]⟩

/-- A session that begins behind the link is in the directory, and a way through the link leads
back. -/
theorem Session.directory_stays_behind_link :
    FileTree.linked.place "/l" = .ok ["d"] ∧
      (serveAll .linked [.command "cd" ["../l"], .command "cd" ["x"]]
        { directory := "/d" }).directory = "/d" ∧
      (serveAll .linked [.command "cd" ["../l"], .command "cd" ["x"]]
        { directory := "/d" }).KeepsDirectory .linked := by
  have hPlace : FileTree.linked.place "/l" = .ok ["d"] := rfl
  exact ⟨hPlace, rfl, (directory_stays_canonical hPlace rfl rfl (by decide) _).1⟩

end ScriptShell
