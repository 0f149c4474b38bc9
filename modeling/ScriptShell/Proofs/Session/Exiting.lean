import ScriptShell.Proofs.Session.Course
import ScriptShell.Prompt
/-!
What becomes of a session that is told to end, by a call at any depth of scripts inside scripts. The
call is the last thing that is done. All that had asked for it ends well and does no more, up to the
prompt, which reads no further statement.
-/
namespace ScriptShell

namespace Session
variable {files : FileTree} {a b c : Activity} {s m n after : Session}
  {scripts outer inner : List ScriptReader}

/-- A session that was told to end stays so, and one that was not has no record of it. -/
theorem Runs.stopped (run : Runs files s after) :
    (s.stopping = true → after.stopping = true) ∧
      ∃ events, after.journal.toList = s.journal.toList ++ events ∧
        (Event.stopped ∈ events → after.stopping = true) := by
  induction run with
  | refl => exact ⟨id, [], by simp, by simp⟩
  | trans _ _ ihFirst ihRest =>
      obtain ⟨hFirst, events, hEvents, hStopped⟩ := ihFirst
      obtain ⟨hRest, more, hMore, hMoreStopped⟩ := ihRest
      refine ⟨hRest ∘ hFirst, events ++ more, by rw [hMore, hEvents, List.append_assoc], ?_⟩
      intro hMem
      rcases List.mem_append.mp hMem with hMem | hMem
      · exact hRest (hStopped hMem)
      · exact hMoreStopped hMem
  | note s event note =>
      refine ⟨id, [event], Journal.toList_record .., fun hMem => ?_⟩
      cases List.mem_singleton.mp hMem
      cases note
  | assign => exact ⟨id, _, Journal.toList_record .., by simp⟩
  | stop => exact ⟨fun _ => rfl, _, Journal.toList_record .., fun _ => rfl⟩
  | move => exact ⟨id, [], by simp, by simp⟩
  | @script s inner after target script _ started _ ih =>
      obtain ⟨_, _, rfl⟩ := enter_eq_ok_iff.mp started
      obtain ⟨hKeeps, events, hEvents, hStopped⟩ := ih
      refine ⟨hKeeps, .sought target :: .entered script.path :: events ++
        [.left script.path after.running.keys.head?], ?_, fun hMem => hStopped ?_⟩
      · have hRelease : (after.release script).journal.toList = after.journal.toList ++
            [.left script.path after.running.keys.head?] := Journal.toList_record ..
        rw [hRelease, hEvents]
        simp [record]
      · simpa using hMem

theorem stopping_carryOut (files : FileTree) (a : Activity) (s : Session)
    (h : s.stopping = true) : (carryOut files a s).2.stopping = true :=
  (runs_carryOut files a s).stopped.1 h

theorem stopped_without (run : Runs files s after) (h : after.stopping = false) :
    Without (· = .stopped) s after := by
  obtain ⟨_, events, hEvents, hStopped⟩ := run.stopped
  refine ⟨events, hEvents, ?_⟩
  rintro _ hMem rfl
  rw [hStopped hMem] at h
  cases h

/-- In a run from the session `s` to the session `after`, a call made with the session `m` tells the
session to end. It is the first one to do so, and nothing but ends of scripts comes after it. -/
structure Exited (s m after : Session) : Prop where
  stopping : after.stopping = true
  events : ∃ before name arguments ends, after.journal.toList =
      s.journal.toList ++ before ++ .called name arguments :: .stopped :: ends ∧
    .stopped ∉ before ∧ ∀ event ∈ ends, event.IsEnd
  vars : after.vars = m.vars
  directory : after.directory = m.directory
  out : after.journal.out = m.journal.out
  err : after.journal.err = m.journal.err
  running : after.running = s.running

theorem Invokes.stopping (asks : Invokes files a s scripts b m) (h : s.stopping = false) :
    m.stopping = false := by
  cases asks with
  | further | read | inclusion | line => exact h
  | call => exact (stopping_assignAll ..).trans h
  | next _ goesOn | goOn _ _ goesOn => exact goesOn
  | start _ started =>
      obtain ⟨_, _, rfl⟩ := enter_eq_ok_iff.mp started
      exact h

theorem Reaches.notStopped (reaches : Reaches files a s scripts b m) :
    Without (· = .stopped) s m := by
  apply Without.of_reaches Event.isSign_of_eq_stopped reaches
  intro c n status done outcome goesOn
  have hRun := runs_carryOut files c n
  rw [outcome] at hRun
  exact stopped_without hRun goesOn

/-- What an exit comes to. -/
theorem Exits.outcome (exits : Exits a s) (files : FileTree) :
    ∃ name arguments, a = .call name arguments ∧
      carryOut files a s = (.ok 0, (s.record (.called name arguments)).stop) := by
  obtain ⟨name, arguments, given, rfl, hFind, hRead⟩ := exits
  refine ⟨name, arguments, rfl, ?_⟩
  simp only [carryOut, invoke, call, hFind, hRead, perform]

/-- All that comes to an exit ends well there. -/
theorem Reaches.exits (reaches : Reaches files a s scripts b m) (exits : Exits b m) :
    (carryOut files a s).1 = .ok 0 ∧ Exited s m (carryOut files a s).2 := by
  obtain ⟨name, arguments, rfl, hExit⟩ := exits.outcome files
  have hOutcome := reaches.outcome (.inr (by rw [hExit]; exact ⟨rfl, rfl⟩))
  rw [hExit] at hOutcome
  rw [hOutcome]
  have hUnwound := unwound_unwind (m.record (.called name arguments)).stop scripts
  refine ⟨rfl, ⟨hUnwound.stopping, ?_, hUnwound.vars, hUnwound.directory, hUnwound.out.trans ?_,
    hUnwound.err.trans ?_, running_unwind reaches.running⟩⟩
  · obtain ⟨before, hBefore, hNone⟩ := reaches.notStopped
    obtain ⟨ends, hEnds, hOnly⟩ := hUnwound.events
    refine ⟨before, name, arguments, ends, ?_, fun hMem => hNone _ hMem rfl, hOnly⟩
    have hStop : (m.record (.called name arguments)).stop.journal.toList =
        m.journal.toList ++ [.called name arguments, .stopped] := by
      simp [stop, record]
    change (((m.record (.called name arguments)).stop).unwind scripts).journal.toList = _
    rw [hEnds, hStop, hBefore]
    simp
  · simp [stop, record, Journal.out_record, Event.out]
  · simp [stop, record, Journal.err_record, Event.err]

/-- A session is told to end by an exit only. -/
theorem exists_exits {a : Activity} {s : Session} (hGoing : s.stopping = false)
    (h : (carryOut files a s).2.stopping = true) :
    ∃ scripts b m, Reaches files a s scripts b m ∧ Exits b m := by
  induction a, s using carryOut_induction files with
  | step a s ih =>
      have pass : ∀ {scripts b m}, Invokes files a s scripts b m →
          (carryOut files b m).2.stopping = true →
            ∃ scripts b m, Reaches files a s scripts b m ∧ Exits b m := by
        intro scripts b m asks hStop
        obtain ⟨deeper, c, n, reaches, exits⟩ := ih _ _ _ asks (asks.stopping hGoing) hStop
        exact ⟨_, c, n, .head asks reaches, exits⟩
      cases carryOut_course files a s with
      | passes asks _ after =>
          rw [after, (unwound_unwind ..).stopping] at h
          exact pass asks h
      | @breaks own failure moment breaks =>
          rw [breaks.outcome] at h
          have hMoment : moment.stopping = true :=
            (unwound_unwind (moment.reportFailure failure) own).stopping.symm.trans h
          cases breaks with
          | refused => exact absurd hMoment (by simp [record, hGoing])
          | unloadable _ started =>
              obtain ⟨_, _, rfl⟩ := enter_eq_ok_iff.mp started
              exact absurd hMoment (by simp [record, hGoing])
          -- such a statement has no fault, but the exit in it is all that is asked for
          | fault next outcome => exact pass (.line next) (by rw [outcome]; exact hMoment)
      | ends ends =>
          rcases ends.stops h with hStop | exits
          · rw [hStop] at hGoing
            cases hGoing
          · exact ⟨[], a, s, .refl a s, exits⟩

/-- The session once the lines of a statement have been asked for. -/
def asked (s : Session) (shown : Bool) (line : String) (more : List InputLine) : Session :=
  (List.replicate (readStatement line (InputLine.readable more)).asked continuationPrompt).foldl
    (showPrompt · shown) (s.showPrompt shown s.settings.prompt)

/-- The session after the statement at the head of an input, however it went. -/
def afterTyped (files : FileTree) (s : Session) (shown : Bool) (line : String)
    (more : List InputLine) : Session :=
  (s.asked shown line more).runTyped files (readStatement line (InputLine.readable more)).result

/-- Reading an input comes to the statement that starts with `line` and may go on in `further`, to
be carried out by the session `m`. The first `skip` lines of the input are passed over. -/
inductive Prompts (files : FileTree) (shown : Bool) :
    (skip : Nat) → List InputLine → Session → String → List String → Session → Prop
  | skip {skip : Nat} {passed : InputLine} {more : List InputLine} {s m : Session} {line : String}
      {further : List String} (rest : Prompts files shown skip more s line further m) :
      Prompts files shown (skip + 1) (passed :: more) s line further m
  | first (line : String) (more : List InputLine) (s : Session) :
      Prompts files shown 0 (some line :: more) s line (InputLine.readable more)
        (s.asked shown line more)
  | later {first : String} {more : List InputLine} {s m : Session} {line : String}
      {further : List String} (goesOn : (s.afterTyped files shown first more).stopping = false)
      (rest : Prompts files shown (readStatement first (InputLine.readable more)).asked more
        (s.afterTyped files shown first more) line further m) :
      Prompts files shown 0 (some first :: more) s line further m

variable {shown : Bool} {skip : Nat} {lines : List InputLine} {line : String}
  {further : List String}

theorem runInput_some (line : String) (more : List InputLine) (s : Session) :
    runInput files shown 0 (some line :: more) s =
      if (s.afterTyped files shown line more).stopping then
        (.stopped, s.afterTyped files shown line more)
      else runInput files shown (readStatement line (InputLine.readable more)).asked more
        (s.afterTyped files shown line more) := by
  rw [runInput]
  rfl

theorem runs_showPrompt (s : Session) (shown : Bool) (prompt : String) :
    Runs files s (s.showPrompt shown prompt) := by
  cases shown with
  | false => exact .refl s
  | true => exact .note s _ trivial

theorem runs_asked (s : Session) (shown : Bool) (line : String) (more : List InputLine) :
    Runs files s (s.asked shown line more) := by
  unfold asked
  apply (runs_showPrompt s shown s.settings.prompt).trans
  generalize s.showPrompt shown s.settings.prompt = t
  induction (readStatement line (InputLine.readable more)).asked generalizing t with
  | zero => exact .refl t
  | succ n ih => exact (runs_showPrompt t shown continuationPrompt).trans (ih _)

theorem stopping_showPrompt (s : Session) (shown : Bool) (prompt : String) :
    (s.showPrompt shown prompt).stopping = s.stopping := by
  cases shown <;> rfl

theorem stopping_asked (s : Session) (shown : Bool) (line : String) (more : List InputLine) :
    (s.asked shown line more).stopping = s.stopping := by
  unfold asked
  rw [← stopping_showPrompt s shown s.settings.prompt]
  generalize s.showPrompt shown s.settings.prompt = t
  induction (readStatement line (InputLine.readable more)).asked generalizing t with
  | zero => rfl
  | succ n ih => exact (ih _).trans (stopping_showPrompt ..)

/-- The prompt carries out a statement as the session does, and at most reports its fault. -/
theorem runTyped_eq (line : String) (further : List String) (s : Session) :
    s.runTyped files (readStatement line further).result =
      match carryOut files (.statement line further) s with
      | (.error (.fault fault), after) => after.report fault.message
      | (_, after) => after := rfl

theorem runs_runTyped (line : String) (further : List String) (s : Session) :
    Runs files s (s.runTyped files (readStatement line further).result) := by
  have hRun := runs_carryOut files (.statement line further) s
  rw [runTyped_eq]
  generalize carryOut files (.statement line further) s = outcome at hRun
  obtain ⟨result, after⟩ := outcome
  cases result with
  | ok status => exact hRun
  | error failure =>
      cases failure with
      | fault fault => exact hRun.trans (.note after _ trivial)
      | script failure => exact hRun

theorem stopping_runTyped (line : String) (further : List String) (s : Session) :
    (s.runTyped files (readStatement line further).result).stopping =
      (carryOut files (.statement line further) s).2.stopping := by
  rw [runTyped_eq]
  obtain ⟨result, after⟩ := carryOut files (.statement line further) s
  cases result with
  | ok status => rfl
  | error failure => cases failure <;> rfl

theorem runTyped_of_ok {status : Nat}
    (h : (carryOut files (.statement line further) s).1 = .ok status) :
    s.runTyped files (readStatement line further).result =
      (carryOut files (.statement line further) s).2 := by
  rw [runTyped_eq]
  generalize carryOut files (.statement line further) s = outcome at h ⊢
  obtain ⟨result, after⟩ := outcome
  cases h
  rfl

theorem runs_afterTyped (files : FileTree) (shown : Bool) (line : String)
    (more : List InputLine) (s : Session) :
    Runs files s (s.afterTyped files shown line more) :=
  (runs_asked s shown line more).trans (runs_runTyped ..)

theorem Prompts.runs (prompts : Prompts files shown skip lines s line further m) :
    Runs files s m := by
  induction prompts with
  | skip _ ih => exact ih
  | first line more s => exact runs_asked s shown line more
  | later _ _ ih => exact (runs_afterTyped ..).trans ih

theorem Prompts.stopping (prompts : Prompts files shown skip lines s line further m)
    (h : s.stopping = false) : m.stopping = false := by
  induction prompts with
  | skip _ ih => exact ih h
  | first line more s => exact (stopping_asked ..).trans h
  | later goesOn _ ih => exact ih goesOn

/-- The statement that tells the session to end is the last one that is read. -/
theorem Prompts.stops (prompts : Prompts files shown skip lines s line further m)
    (hOk : (carryOut files (.statement line further) m).1 = .ok 0)
    (hStop : (carryOut files (.statement line further) m).2.stopping = true) :
    runInput files shown skip lines s =
      (.stopped, (carryOut files (.statement line further) m).2) := by
  induction prompts with
  | skip _ ih => exact ih hOk hStop
  | first line more s =>
      have hAfter : s.afterTyped files shown line more = _ := runTyped_of_ok hOk
      rw [runInput_some, hAfter, if_pos hStop]
  | later goesOn _ ih =>
      rw [runInput_some, if_neg (by simp [goesOn])]
      exact ih hOk hStop

theorem exists_prompts {skip : Nat} {lines : List InputLine} {s : Session}
    (hGoing : s.stopping = false) (h : (runInput files shown skip lines s).2.stopping = true) :
    ∃ line further m, Prompts files shown skip lines s line further m ∧
      (carryOut files (.statement line further) m).2.stopping = true := by
  induction lines generalizing skip s with
  | nil =>
      rw [runInput, stopping_showPrompt, hGoing] at h
      cases h
  | cons head more ih =>
      cases skip with
      | succ skip =>
          obtain ⟨line, further, m, prompts, hStop⟩ := ih hGoing h
          exact ⟨line, further, m, .skip prompts, hStop⟩
      | zero =>
          cases head with
          | none =>
              rw [runInput, stopping_showPrompt, hGoing] at h
              cases h
          | some first =>
              cases hStop : (s.afterTyped files shown first more).stopping with
              | true =>
                  exact ⟨first, _, _, .first first more s,
                    (stopping_runTyped ..).symm.trans hStop⟩
              | false =>
                  rw [runInput_some, if_neg (by simp [hStop])] at h
                  obtain ⟨line, further, m, prompts, hAfter⟩ := ih hStop h
                  exact ⟨line, further, m, .later hStop prompts, hAfter⟩

theorem runs_runInput (skip : Nat) (lines : List InputLine) (s : Session) :
    Runs files s (runInput files shown skip lines s).2 := by
  induction lines generalizing skip s with
  | nil => rw [runInput]; exact runs_showPrompt ..
  | cons head more ih =>
      cases skip with
      | succ skip => exact ih skip s
      | zero =>
          cases head with
          | none => rw [runInput]; exact runs_showPrompt ..
          | some first =>
              have hFirst := runs_afterTyped files shown first more s
              rw [runInput_some]
              split
              · exact hFirst
              · exact hFirst.trans (ih _ _)

theorem runs_runPrompt (files : FileTree) (shown : Bool) (lines : List InputLine) (s : Session) :
    Runs files s (s.runPrompt files shown lines).2 := by
  unfold runPrompt
  split
  · exact .refl s
  · exact runs_runInput ..

/-- Carrying out an activity comes to a call, made with the session `n`, that tells the session to
end. -/
def ExitsAt (files : FileTree) (a : Activity) (s n : Session) : Prop :=
  ∃ scripts b, Reaches files a s scripts b n ∧ Exits b n

theorem exitCode_of_carryOut {path : String} {status : Nat}
    (h : (carryOut files (.script path) s).1 = .ok status) :
    exitCode (s.runScript files path).1 = 0 := by
  change (Outcome.ofScript (s.runScript files path)).1 = _ at h
  generalize s.runScript files path = outcome at h ⊢
  obtain ⟨result, after⟩ := outcome
  cases result with
  | ok => rfl
  | error failure => cases h

/-- A session that is told to end by a statement of an input, seen from the beginning of it. -/
theorem Exited.of_prompts (prompts : Prompts files shown skip lines s line further m)
    (hGoing : s.stopping = false) (exited : Exited m n after) : Exited s n after where
  stopping := exited.stopping
  events := by
    obtain ⟨earlier, hEarlier, hNone⟩ := stopped_without prompts.runs (prompts.stopping hGoing)
    obtain ⟨before, name, arguments, ends, hEvents, hBefore, hEnds⟩ := exited.events
    refine ⟨earlier ++ before, name, arguments, ends, ?_, ?_, hEnds⟩
    · rw [hEvents, hEarlier, List.append_assoc s.journal.toList]
    · rw [List.mem_append]
      exact fun hMem => hMem.elim (fun h => hNone _ h rfl) hBefore
  vars := exited.vars
  directory := exited.directory
  out := exited.out
  err := exited.err
  running := exited.running.trans prompts.runs.logs.1

/-- An exit stops everything, and all of it ends well. Whatever is carried out or read at the
prompt, the session is told to end exactly if some call on the way says so. That call is the last
one, with nothing assigned or written after it and nothing done but to end the scripts that are
running; what is left of the statements and scripts around it and of the input is never begun. No
step takes it back. -/
theorem exit_stops (files : FileTree) {s : Session} (hGoing : s.stopping = false) :
    (∀ a, ((carryOut files a s).2.stopping = true ↔ ∃ n, ExitsAt files a s n) ∧
        ((carryOut files a s).2.stopping = false →
          Without (· = .stopped) s (carryOut files a s).2)) ∧
      (∀ a n, ExitsAt files a s n →
        (carryOut files a s).1 = .ok 0 ∧ Exited s n (carryOut files a s).2) ∧
      (∀ a outer b m n, Reaches files a s outer b m → ExitsAt files b m n →
        ExitsAt files a s n ∧ (carryOut files b m).1 = .ok 0) ∧
      (∀ path n, ExitsAt files (.script path) s n → exitCode (s.runScript files path).1 = 0) ∧
      (∀ shown lines, (s.runPrompt files shown lines).2.stopping = true ↔
        ∃ line further m n, Prompts files shown 0 lines s line further m ∧
          ExitsAt files (.statement line further) m n) ∧
      (∀ shown lines line further m n, Prompts files shown 0 lines s line further m →
        ExitsAt files (.statement line further) m n →
          (s.runPrompt files shown lines).1 = .stopped ∧
            Exited s n (s.runPrompt files shown lines).2) ∧
      ∀ t, t.stopping = true → (∀ a, (carryOut files a t).2.stopping = true) ∧
        ∀ shown lines, (t.runPrompt files shown lines).2.stopping = true := by
  have hPrompt : ∀ shown lines, s.runPrompt files shown lines = s.runInput files shown 0 lines :=
    fun shown lines => if_neg (by simp [hGoing])
  have hStops : ∀ {shown lines line further m n}, Prompts files shown 0 lines s line further m →
      ExitsAt files (.statement line further) m n → s.runPrompt files shown lines =
        (.stopped, (carryOut files (.statement line further) m).2) ∧
          Exited m n (carryOut files (.statement line further) m).2 := by
    rintro shown lines line further m n prompts ⟨scripts, b, reaches, exits⟩
    obtain ⟨hOk, exited⟩ := reaches.exits exits
    exact ⟨(hPrompt shown lines).trans (prompts.stops hOk exited.stopping), exited⟩
  refine ⟨fun a => ⟨⟨fun hStop => ?_, ?_⟩, stopped_without (runs_carryOut files a s)⟩, ?_, ?_, ?_,
    fun shown lines => ⟨fun hStop => ?_, ?_⟩, ?_, fun t hStop => ⟨?_, ?_⟩⟩
  · obtain ⟨scripts, b, n, reaches, exits⟩ := exists_exits hGoing hStop
    exact ⟨n, scripts, b, reaches, exits⟩
  · rintro ⟨n, scripts, b, reaches, exits⟩
    exact (reaches.exits exits).2.stopping
  · rintro a n ⟨scripts, b, reaches, exits⟩
    exact reaches.exits exits
  · rintro a outer b m n reaches ⟨inner, c, below, exits⟩
    exact ⟨⟨_, c, reaches.trans below, exits⟩, (below.exits exits).1⟩
  · rintro path n ⟨scripts, b, reaches, exits⟩
    exact exitCode_of_carryOut (reaches.exits exits).1
  · rw [hPrompt] at hStop
    obtain ⟨line, further, m, prompts, hAfter⟩ := exists_prompts hGoing hStop
    obtain ⟨scripts, b, n, reaches, exits⟩ := exists_exits (prompts.stopping hGoing) hAfter
    exact ⟨line, further, m, n, prompts, scripts, b, reaches, exits⟩
  · rintro ⟨line, further, m, n, prompts, exitsAt⟩
    obtain ⟨hStopped, exited⟩ := hStops prompts exitsAt
    rw [hStopped]
    exact exited.stopping
  · intro shown lines line further m n prompts exitsAt
    obtain ⟨hStopped, exited⟩ := hStops prompts exitsAt
    rw [hStopped]
    exact ⟨rfl, exited.of_prompts prompts hGoing⟩
  · exact fun a => stopping_carryOut files a t hStop
  · exact fun shown lines => (runs_runPrompt files shown lines t).stopped.1 hStop

/-- A script that ends the session inside another one, which has more to do. -/
def quitting : FileTree :=
  ⟨[(["a"], .file "x=1 include b; x=2\necho late\n".toUTF8),
    (["b"], .file "echo bye; exit; echo never\n".toUTF8)]⟩

theorem exitsAt_quitting : ∃ line further m n,
    Prompts quitting false 0 [some "include a", some "echo more"] { directory := "/" } line further
      m ∧ ExitsAt quitting (.statement line further) m n :=
  ((exit_stops quitting rfl).2.2.2.2.1 false _).mp (by decide +kernel)

end Session

end ScriptShell
