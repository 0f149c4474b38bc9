import ScriptShell.Proofs.Session.Course
/-!
What becomes of a script that fails inside other scripts. It reports its failure, and from there on
nothing is done but to end the scripts that are running: all that had asked for it, directly or by
way of others, pass its failure on as it is.
-/
namespace ScriptShell

namespace Activity

/-- The key of the script that an activity runs. -/
def key? (files : FileTree) (s : Session) : Activity → Option String
  | .script path => some (files.key (s.resolve path))
  | .rest reader => some reader.path
  | _ => none

/-- The number of the line that an activity reads next. -/
def line? : Activity → Option Nat
  | .rest reader => some reader.nextNumber
  | _ => none

end Activity

namespace Session
variable {files : FileTree} {a b : Activity} {s m moment : Session}
  {scripts own : List ScriptReader} {failure : ScriptFailure}

theorem Breaks.isFinal (h : Breaks files a s own failure moment) : (carryOut files a s).IsFinal :=
  .inl ⟨failure, by rw [h.outcome]⟩

/-- Whatever comes to a script that fails has that failure, and no more is done. -/
theorem Reaches.fails (reaches : Reaches files a s scripts b m)
    (breaks : Breaks files b m own failure moment) :
    carryOut files a s =
      (.error (.script failure), (moment.reportFailure failure).unwind (own ++ scripts)) := by
  rw [reaches.outcome breaks.isFinal, breaks.outcome, unwind_append]
  rfl

/-- Behind every failure of a script is one script that failed by itself. -/
theorem exists_breaks {a : Activity} {s : Session}
    (h : (carryOut files a s).1 = .error (.script failure)) :
    ∃ scripts b m own moment,
      Reaches files a s scripts b m ∧ Breaks files b m own failure moment := by
  induction a, s using carryOut_induction files with
  | step a s ih =>
      cases carryOut_course files a s with
      -- the script that failed is one that the other activity comes to
      | passes asks passed =>
          obtain ⟨scripts, c, n, own, moment, reaches, breaks⟩ := ih _ _ _ asks (passed _ h)
          exact ⟨_, c, n, own, moment, .head asks reaches, breaks⟩
      | @breaks own other moment breaks =>
          rw [breaks.outcome] at h
          cases h
          exact ⟨[], a, s, own, moment, .refl a s, breaks⟩
      | ends ends => exact absurd h (ends.well failure)

/-- Where no script fails, none is reported to have failed. -/
theorem without_carryOut {a : Activity} {s : Session}
    (h : ∀ failure, (carryOut files a s).1 ≠ .error (.script failure)) :
    Without Event.IsFailure s (carryOut files a s).2 := by
  induction a, s using carryOut_induction files with
  | step a s ih =>
      cases carryOut_course files a s with
      | @passes _ b m asks _ after =>
          have hBefore : Without Event.IsFailure s m := by
            apply Without.of_invokes Event.isSign_of_isFailure asks
            intro scripts c n status done below outcome _
            have hBelow := ih _ _ _ below (by simp [outcome])
            rwa [outcome] at hBelow
          have hWell : ∀ failure, (carryOut files b m).1 ≠ .error (.script failure) := by
            intro failure hFailure
            apply h failure
            rw [asks.outcome (.inl ⟨failure, hFailure⟩)]
            exact hFailure
          rw [after]
          exact (hBefore.trans (ih _ _ _ asks hWell)).trans
            (.of_unwound Event.isSign_of_isFailure (unwound_unwind ..))
      | breaks breaks => exact absurd (by rw [breaks.outcome]) (h _)
      | ends ends => exact ends.quiet

theorem without_of_outcome {result : Except Failure Nat} {after : Session}
    (outcome : carryOut files a s = (result, after))
    (well : ∀ failure, result ≠ .error (.script failure)) :
    Without Event.IsFailure s after := by
  have hWithout : Without Event.IsFailure s (carryOut files a s).2 :=
    without_carryOut (by rwa [outcome])
  rwa [outcome] at hWithout

theorem Reaches.without (reaches : Reaches files a s scripts b m) :
    Without Event.IsFailure s m := by
  apply Without.of_reaches Event.isSign_of_isFailure reaches
  intro c n status done outcome _
  exact without_of_outcome outcome (by simp)

theorem Breaks.without (breaks : Breaks files a s own failure moment) :
    Without Event.IsFailure s moment := by
  cases breaks with
  | refused => exact .record s id
  | unloadable _ started =>
      exact (Without.record s id).trans (.enter Event.isSign_of_isFailure started)
  | fault _ outcome => exact without_of_outcome outcome (by simp)

theorem path_of_enter_eq_error {key : String} (h : s.enter key = .error failure) :
    failure.path = key ∧ failure.line? = none := by
  rw [enter_eq_error_iff, RunningScripts.enter] at h
  split at h
  · cases h
    exact ⟨rfl, rfl⟩
  · split at h
    · cases h
      exact ⟨rfl, rfl⟩
    · cases h

theorem path_of_scriptLines_eq_error {path : String} (h : scriptLines files path = .error failure) :
    failure.path = path ∧ failure.line? = none := by
  unfold scriptLines at h
  split at h
  · cases h
    exact ⟨rfl, rfl⟩
  · split at h
    · cases h
      exact ⟨rfl, rfl⟩
    · cases h

/-- A failure names the script that failed, and the line that it was at. -/
theorem Breaks.place (breaks : Breaks files a s own failure moment) :
    a.key? files s = some failure.path ∧ failure.line? = a.line? := by
  cases breaks with
  | refused refused =>
      obtain ⟨hPath, hLine⟩ := path_of_enter_eq_error refused
      exact ⟨congrArg some hPath.symm, hLine⟩
  | unloadable known _ unloadable =>
      obtain ⟨hPath, hLine⟩ := path_of_scriptLines_eq_error unloadable
      subst known
      exact ⟨congrArg some hPath.symm, hLine⟩
  | fault => exact ⟨rfl, rfl⟩

/-- If an activity is the rest of a script, then that script is the innermost one. -/
def OnTop (a : Activity) (s : Session) : Prop :=
  ∀ script, a = .rest script → s.running.keys.head? = some script.path

theorem Invokes.onTop (asks : Invokes files a s scripts b m) (hTop : OnTop a s) : OnTop b m := by
  have hRunning := asks.running
  rintro script rfl
  cases asks with
  | start => rw [hRunning]; rfl
  | @goOn before started text _ _ _ next =>
      have hSame : (started.readStatement text).2.path = before.path :=
        (started.readTokens_eq text).2.1.trans (ScriptReader.next_eq_some next).2.1
      rw [hRunning, hSame]
      exact hTop before rfl

theorem Reaches.onTop (reaches : Reaches files a s scripts b m) (hTop : OnTop a s) :
    OnTop b m := by
  induction reaches with
  | refl => exact hTop
  | head first _ ih => exact ih (first.onTop hTop)

theorem Breaks.running (breaks : Breaks files a s own failure moment) :
    moment.running =
      { s.running with keys := own.map ScriptReader.path ++ s.running.keys } := by
  cases breaks with
  | refused => rfl
  | unloadable _ started =>
      obtain ⟨_, _, rfl⟩ := enter_eq_ok_iff.mp started
      rfl
  | @fault script started text _ _ _ _ outcome =>
      have hRunning := running_statement files text started.remaining s
      rw [outcome] at hRunning
      exact hRunning

/-- The script that fails is the innermost one, unless it was not let in. -/
theorem Breaks.innermost (breaks : Breaks files a s own failure moment) (hTop : OnTop a s) :
    moment.running.keys.head? = some failure.path ∨
      moment.enter failure.path = .error failure := by
  have hRunning := breaks.running
  cases breaks with
  | refused refused =>
      right
      rw [(path_of_enter_eq_error refused).1]
      exact refused
  | unloadable _ started unloadable =>
      left
      obtain ⟨_, _, rfl⟩ := enter_eq_ok_iff.mp started
      exact congrArg some (path_of_scriptLines_eq_error unloadable).1.symm
  | @fault script =>
      left
      rw [hRunning]
      exact hTop script rfl

/-- A failure in a run from the session `s` to the session `after`: it was that of the activity `a`,
begun with the session `m`, and was reported right after the session `moment`. -/
structure ReportedOnce (files : FileTree) (s : Session) (a : Activity) (m : Session)
    (failure : ScriptFailure) (moment after : Session) : Prop where
  path : a.key? files m = some failure.path
  line : failure.line? = a.line?
  innermost : moment.running.keys.head? = some failure.path ∨
    moment.enter failure.path = .error failure
  /-- What stops a script is a fault in a statement of its own, and never the failure of a script
  that the statement comes to. -/
  cause : ∀ path line cause, failure = .stopped path line cause →
    ∃ script started text, a = .rest script ∧ script.next = (some text, started) ∧
      carryOut files (.statement text started.remaining) m = (.error (.fault cause), moment) ∧
      ∀ scripts b n own other at', Reaches files (.statement text started.remaining) m scripts b n →
        ¬Breaks files b n own other at'
  /-- No failure is reported before it, and after it there is nothing but the ends of scripts. -/
  events : ∃ before ends, after.journal.toList =
      s.journal.toList ++ before ++ .reported (.failedScript failure) :: ends ∧
    (∀ event ∈ before, ¬event.IsFailure) ∧ ∀ event ∈ ends, event.IsEnd
  out : after.journal.out = moment.journal.out
  err : after.journal.err = moment.journal.err ++ ("include: " ++ failure.message ++ "\n")
  vars : after.vars = moment.vars
  directory : after.directory = moment.directory
  running : after.running = s.running

theorem Reaches.reportedOnce (reaches : Reaches files a s scripts b m) (hTop : OnTop a s)
    (breaks : Breaks files b m own failure moment) :
    ReportedOnce files s b m failure moment
      ((moment.reportFailure failure).unwind (own ++ scripts)) := by
  have hUnwound := unwound_unwind (moment.reportFailure failure) (own ++ scripts)
  have hRunning : (moment.reportFailure failure).running =
      { s.running with keys := (own ++ scripts).map ScriptReader.path ++ s.running.keys } := by
    change moment.running = _
    rw [breaks.running, reaches.running, List.map_append, List.append_assoc]
  refine ⟨breaks.place.1, breaks.place.2, breaks.innermost (reaches.onTop hTop), ?_, ?_,
    hUnwound.out.trans ?_, hUnwound.err.trans (moment.journal.err_record _), hUnwound.vars,
    hUnwound.directory, running_unwind hRunning⟩
  · rintro path line cause rfl
    cases breaks with
    | refused refused => cases (path_of_enter_eq_error refused).2
    | unloadable _ _ unloadable => cases (path_of_scriptLines_eq_error unloadable).2
    | @fault script started text _ _ _ next outcome =>
        refine ⟨script, started, text, rfl, next, outcome, ?_⟩
        intro scripts c n own other at' below breaks
        rw [below.fails breaks] at outcome
        cases outcome
  · obtain ⟨before, hBefore, hNone⟩ := reaches.without.trans breaks.without
    obtain ⟨ends, hEnds, hOnly⟩ := hUnwound.events
    refine ⟨before, ends, ?_, hNone, hOnly⟩
    have hReport : (moment.reportFailure failure).journal.toList =
        moment.journal.toList ++ [.reported (.failedScript failure)] := Journal.toList_record ..
    rw [hEnds, hReport, hBefore, List.append_assoc]
    rfl
  · exact (moment.journal.out_record _).trans String.append_empty

theorem exitCode_eq_neg_one_iff {result : Except ScriptFailure Unit} :
    exitCode result = -1 ↔ ∃ failure, result = .error failure := by
  cases result <;> simp [exitCode]

theorem exitCode_eq_zero_iff {result : Except ScriptFailure Unit} :
    exitCode result = 0 ↔ result = .ok () := by
  cases result <;> simp [exitCode]

theorem carryOut_script_of_error {path : String} {after : Session} :
    carryOut files (.script path) s = (.error (.script failure), after) ↔
      s.runScript files path = (.error failure, after) := by
  change Outcome.ofScript (s.runScript files path) = _ ↔ _
  obtain ⟨result, t⟩ := s.runScript files path
  cases result <;> simp [Outcome.ofScript]

/-- A script that does not fail reports no failure, at any depth. One that fails reports one
failure, once, as the last thing that is written, and nothing is done after that. It is the failure
of the innermost script that failed, with its path and its line, and whatever script fails on the
way, its failure is the one that comes out. -/
theorem runScript_reports (files : FileTree) (path : String) (s : Session) :
    (match s.runScript files path with
      | (.ok (), after) => Without Event.IsFailure s after
      | (.error failure, after) => ∃ scripts a m own moment,
          Reaches files (.script path) s scripts a m ∧ Breaks files a m own failure moment ∧
            after = (moment.reportFailure failure).unwind (own ++ scripts) ∧
            ReportedOnce files s a m failure moment after) ∧
      (∀ scripts a m own failure moment, Reaches files (.script path) s scripts a m →
        Breaks files a m own failure moment → s.runScript files path =
          (.error failure, (moment.reportFailure failure).unwind (own ++ scripts))) ∧
      (exitCode (s.runScript files path).1 = -1 ↔
        ∃ failure, (s.runScript files path).1 = .error failure) ∧
      (exitCode (s.runScript files path).1 = 0 ↔ (s.runScript files path).1 = .ok ()) := by
  have hTop : OnTop (.script path) s := nofun
  refine ⟨?_, fun scripts a m own failure moment reaches breaks =>
    carryOut_script_of_error.mp (reaches.fails breaks), exitCode_eq_neg_one_iff,
    exitCode_eq_zero_iff⟩
  cases hRun : s.runScript files path with
  | mk result after =>
      cases result with
      | ok =>
          have hOutcome : carryOut files (.script path) s = (.ok 0, after) := by
            change Outcome.ofScript (s.runScript files path) = _
            rw [hRun]
            rfl
          exact without_of_outcome hOutcome (by simp)
      | error failure =>
          have hOutcome := carryOut_script_of_error.mpr hRun
          obtain ⟨scripts, a, m, own, moment, reaches, breaks⟩ :=
            exists_breaks (congrArg Prod.fst hOutcome)
          have hAfter : after = (moment.reportFailure failure).unwind (own ++ scripts) := by
            have hSame := hOutcome.symm.trans (reaches.fails breaks)
            exact congrArg Prod.snd hSame
          exact ⟨scripts, a, m, own, moment, reaches, breaks, hAfter,
            hAfter ▸ reaches.reportedOnce hTop breaks⟩

/-- Two scripts are left after the inner one has failed, and only that one has reported it. -/
example :
    let files : FileTree :=
      ⟨[(["a"], .file "include b\necho done\n".toUTF8), (["b"], .file "\noops\n".toUTF8)]⟩
    ((runScript files "/a" { directory := "/" }).2.journal.toList.drop 5) =
      [.reported (.failedScript (.stopped "/b" 2 (.unknownCommand "oops"))),
        .left "/b" (some "/b"), .left "/a" (some "/a")] := by
  decide +kernel

end Session

end ScriptShell
