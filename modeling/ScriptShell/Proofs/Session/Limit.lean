import ScriptShell.Proofs.Session.Context
import ScriptShell.Proofs.Session.Course
/-!
What the limit on running scripts does to a run. It is asked for in one place, the start of a
script, and a script that is refused there ends all that is around it with that failure. So a run
that does not fail for want of room goes the same way under every greater limit, and one that does
is only cut off: what it wrote until then is written under a greater limit too.
-/
namespace ScriptShell

/-- The session with another limit on the scripts that may run one inside the other. -/
def Session.limited (s : Session) (limit : Nat) : Session :=
  { s with running := { s.running with limit } }

namespace Outcome

def limited (outcome : Outcome) (limit : Nat) : Outcome :=
  (outcome.1, outcome.2.limited limit)

/-- Whether it is the failure of a script that found no room. -/
def TooDeep (outcome : Outcome) : Prop :=
  ∃ path most, outcome.1 = .error (.script (.tooDeep path most))

def failure? (outcome : Outcome) : Option Failure :=
  match outcome.1 with
  | .error failure => some failure
  | .ok _ => none

theorem eq_error_of_failure? {outcome : Outcome} {failure : Failure}
    (h : outcome.failure? = some failure) : outcome.1 = .error failure := by
  unfold failure? at h
  split at h
  · next hFailed =>
      cases h
      exact hFailed
  · cases h

theorem limited_inScript (outcome : Outcome) (path : String) (line limit : Nat) :
    (outcome.limited limit).inScript path line = (outcome.inScript path line).limited limit := by
  obtain ⟨result, s⟩ := outcome
  cases result with
  | ok status => rfl
  | error failure => cases failure <;> rfl

theorem limited_release (outcome : Outcome) (script : ScriptReader) (limit : Nat) :
    (outcome.limited limit).release script = (outcome.release script).limited limit := rfl

theorem out_inScript (outcome : Outcome) (path : String) (line : Nat) :
    (outcome.inScript path line).2.journal.out = outcome.2.journal.out := by
  obtain ⟨result, s⟩ := outcome
  cases result with
  | ok status => rfl
  | error failure =>
      cases failure with
      | script failure => rfl
      | fault fault => exact (s.journal.out_record _).trans String.append_empty

theorem out_release (outcome : Outcome) (script : ScriptReader) :
    (outcome.release script).2.journal.out = outcome.2.journal.out :=
  (Session.Unwound.release outcome.2 script).out

end Outcome

namespace Session
variable {files : FileTree} {limit : Nat} {s inner after : Session} {key : String}

theorem assignAll_limited (s : Session) (limit : Nat) (assignments : List Assignment) :
    (s.limited limit).assignAll assignments = (s.assignAll assignments).limited limit := by
  unfold assignAll
  induction assignments generalizing s with
  | nil => rfl
  | cons a rest ih => exact ih (s.assign a.name (s.expand a.value))

/-- A call that runs no script goes the same way under any limit. -/
theorem call_limited (name : String) (arguments : List String) (s : Session) (limit : Nat) :
    (s.limited limit).call files (fun _ s => (.ok (), s)) name arguments =
      Outcome.limited (s.call files (fun _ s => (.ok (), s)) name arguments) limit := by
  obtain ⟨hVars, hRunning⟩ := within_call files s name arguments
  have hWithin := call_within files (s := s) rfl { s.running with limit } name arguments
  change (s.limited limit).call files (fun _ s => (.ok (), s)) name arguments = _ at hWithin
  rw [hWithin, Outcome.within, Outcome.limited, within, limited, ← hVars, ← hRunning]

theorem enter_limited (h : s.enter key = .ok inner) (hLimit : s.running.limit ≤ limit) :
    (s.limited limit).enter key = .ok (inner.limited limit) := by
  obtain ⟨hFresh, hRoom, rfl⟩ := enter_eq_ok_iff.mp h
  exact enter_eq_ok_iff.mpr ⟨hFresh, Nat.lt_of_lt_of_le hRoom hLimit, rfl⟩

/-- A script that is refused, but not for want of room, is refused under any limit. -/
theorem enter_limited_of_error {failure : ScriptFailure} (h : s.enter key = .error failure)
    (hRoom : ∀ path most, failure ≠ .tooDeep path most) (limit : Nat) :
    (s.limited limit).enter key = .error failure := by
  rw [enter_eq_error_iff, RunningScripts.enter] at h ⊢
  split at h
  · next hRunning =>
      cases h
      exact if_pos hRunning
  · split at h
    · cases h
      exact absurd rfl (hRoom key s.running.limit)
    · cases h

theorem ne_tooDeep_of_scriptLines {failure : ScriptFailure}
    (h : scriptLines files key = .error failure) (path : String) (most : Nat) :
    failure ≠ .tooDeep path most := by
  unfold scriptLines at h
  split at h
  · cases h
    simp
  · split at h
    · cases h
      simp
    · cases h

theorem out_of_runs (run : Runs files s after) :
    ∃ more, after.journal.out = s.journal.out ++ more := by
  obtain ⟨_, events, logs, _⟩ := run.logs
  refine ⟨String.join (events.map Event.out), ?_⟩
  rw [Journal.out, logs.journal, List.map_append, String.join_append]
  rfl

end Session

/-- What comes of a run, and of the same run under a greater limit: they come to the same, or the
first one found no room for a script, and then what it wrote begins what the second one wrote. -/
inductive CutOff (limit : Nat) (first : Outcome) : Outcome → Prop
  | same (whole : ¬first.TooDeep) : CutOff limit first (first.limited limit)
  | cut {other : Outcome} (tooDeep : first.TooDeep)
      (out : ∃ more, other.2.journal.out = first.2.journal.out ++ more) : CutOff limit first other

namespace CutOff
variable {limit : Nat} {first second : Outcome}

theorem of_eq (hSame : second = first.limited limit) (whole : ¬first.TooDeep) :
    CutOff limit first second :=
  hSame ▸ .same whole

theorem andThen {next later : Nat → Session → Outcome} (h : CutOff limit first second)
    (hNext : ∀ status s, first = (.ok status, s) → s.stopping = false →
      CutOff limit (next status s) (later status (s.limited limit)))
    (hOut : ∀ status s, ∃ more, (later status s).2.journal.out = s.journal.out ++ more) :
    CutOff limit (first.andThen next) (second.andThen later) := by
  cases h with
  | same whole =>
      obtain ⟨result, s⟩ := first
      cases result with
      | error failure => exact .same whole
      | ok status =>
          cases hStop : s.stopping with
          | true =>
              have hFirst : Outcome.andThen (.ok status, s) next = (.ok status, s) := if_pos hStop
              rw [hFirst]
              exact .of_eq (if_pos hStop) whole
          | false =>
              have hFirst : Outcome.andThen (.ok status, s) next = next status s :=
                Outcome.andThen_of_ok rfl hStop next
              have hSecond : (Outcome.limited (.ok status, s) limit).andThen later =
                  later status (s.limited limit) := if_neg (by simp [Session.limited, hStop])
              rw [hFirst, hSecond]
              exact hNext status s rfl hStop
  | cut tooDeep out =>
      have hFinal : first.andThen next = first := by
        obtain ⟨path, most, hFailed⟩ := tooDeep
        exact Outcome.IsFinal.andThen (.inl ⟨_, hFailed⟩) next
      rw [hFinal]
      refine .cut tooDeep ?_
      obtain ⟨more, hMore⟩ := out
      rcases second.andThen_cases with hDone | ⟨status, s, rfl, goesOn⟩
      · exact ⟨more, by rw [hDone, hMore]⟩
      · obtain ⟨further, hFurther⟩ := hOut status s
        refine ⟨more ++ further, ?_⟩
        rw [Outcome.andThen_of_ok rfl goesOn, hFurther, ← String.append_assoc, ← hMore]

theorem inScript (h : CutOff limit first second) (path : String) (line : Nat) :
    CutOff limit (first.inScript path line) (second.inScript path line) := by
  have hTooDeep : (first.inScript path line).TooDeep ↔ first.TooDeep := by
    obtain ⟨result, s⟩ := first
    cases result with
    | ok status => simp [Outcome.TooDeep, Outcome.inScript]
    | error failure => cases failure <;> simp [Outcome.TooDeep, Outcome.inScript]
  cases h with
  | same whole => exact .of_eq (first.limited_inScript path line limit) (mt hTooDeep.mp whole)
  | cut tooDeep out =>
      refine .cut (hTooDeep.mpr tooDeep) ?_
      rwa [Outcome.out_inScript, Outcome.out_inScript]

theorem release (h : CutOff limit first second) (script : ScriptReader) :
    CutOff limit (first.release script) (second.release script) := by
  cases h with
  | same whole => exact .of_eq (first.limited_release script limit) whole
  | cut tooDeep out =>
      refine .cut tooDeep ?_
      rwa [Outcome.out_release, Outcome.out_release]

end CutOff

namespace Session
variable {files : FileTree} {limit : Nat} {s : Session}

/-- Whether all that an activity asks for is at most cut off by the limit. -/
def AsksCutOff (files : FileTree) (limit : Nat) (a : Activity) (s : Session) : Prop :=
  ∀ scripts b m, Invokes files a s scripts b m →
    CutOff limit (carryOut files b m) (carryOut files b (m.limited limit))

theorem out_carryOut (files : FileTree) (a : Activity) (s : Session) :
    ∃ more, (carryOut files a s).2.journal.out = s.journal.out ++ more :=
  out_of_runs (runs_carryOut files a s)

theorem cutOff_statement {text : String} {more : List String}
    (ih : AsksCutOff files limit (.statement text more) s) :
    CutOff limit (carryOut files (.statement text more) s)
      (carryOut files (.statement text more) (s.limited limit)) := by
  rw [carryOut_eq, carryOut_eq files _ (s.limited limit)]
  simp only [carryOutBy]
  cases hTokens : tokens text with
  | ok ts =>
      cases hCommands : commandsOf ts with
      | error fault =>
          simp only [hCommands]
          exact .same (by simp [Outcome.TooDeep])
      | ok commands =>
          simp only [hCommands]
          exact ih _ _ _ (.read hTokens hCommands)
  | error fault =>
      cases more with
      | nil => exact .same (by simp [Outcome.TooDeep])
      | cons line more =>
          cases hIncomplete : fault.isIncomplete with
          | false =>
              simp only [hIncomplete]
              exact .same (by simp [Outcome.TooDeep])
          | true =>
              simp only [hIncomplete, if_true]
              exact ih _ _ _ (.further hTokens hIncomplete)

theorem cutOff_commandBy {status : Nat} {command : Command} {rest : List Command}
    (ih : AsksCutOff files limit (.commands status (command :: rest)) s) :
    CutOff limit (commandBy (carryOut files) command s)
      (commandBy (carryOut files) command (s.limited limit)) := by
  have hAssigned := assignAll_limited s limit command.assignments
  have hWords : command.words.map ((s.limited limit).assignAll command.assignments).expand =
      command.words.map (s.assignAll command.assignments).expand := by rw [hAssigned]; rfl
  cases hNamed : command.words.map (s.assignAll command.assignments).expand with
  | nil =>
      rw [commandBy_of_nil hNamed, commandBy_of_nil (hWords.trans hNamed), hAssigned]
      exact .same (by simp [Outcome.TooDeep])
  | cons name arguments =>
      rw [commandBy_of_cons hNamed, commandBy_of_cons (hWords.trans hNamed), hAssigned]
      exact ih _ _ _ (.call hNamed)

theorem cutOff_commands {status : Nat} {commands : List Command}
    (ih : AsksCutOff files limit (.commands status commands) s) :
    CutOff limit (carryOut files (.commands status commands) s)
      (carryOut files (.commands status commands) (s.limited limit)) := by
  cases commands with
  | nil => exact .same (by simp [Outcome.TooDeep, carryOut, runCommands])
  | cons command rest =>
      rw [carryOut_cons, carryOut_cons]
      apply (cutOff_commandBy ih).andThen
      · intro done after hDone goesOn
        exact ih _ _ _ (.next hDone goesOn)
      · exact fun done after => out_carryOut files (.commands done rest) after

theorem cutOff_call {name : String} {arguments : List String}
    (ih : AsksCutOff files limit (.call name arguments) s) :
    CutOff limit (carryOut files (.call name arguments) s)
      (carryOut files (.call name arguments) (s.limited limit)) := by
  have hAsked : (s.limited limit).inclusion? name arguments = s.inclusion? name arguments := rfl
  rw [carryOut_eq, carryOut_eq files _ (s.limited limit)]
  simp only [carryOutBy, hAsked]
  cases hScript : s.inclusion? name arguments with
  | none =>
      rw [call_limited]
      apply CutOff.same
      rintro ⟨path, most, hTooDeep⟩
      exact (endsWell_call name arguments s).well _ hTooDeep
  | some path => exact ih _ _ _ (.inclusion hScript)

/-- The start of a script is the one thing that asks for the limit. -/
theorem cutOff_script {path : String} (hLimit : s.running.limit ≤ limit)
    (ih : AsksCutOff files limit (.script path) s) :
    CutOff limit (carryOut files (.script path) s)
      (carryOut files (.script path) (s.limited limit)) := by
  cases hEnter : (s.record (.sought (s.resolve path))).enter (files.key (s.resolve path)) with
  | error failure =>
      have hFirst : carryOut files (.script path) s = _ := carryOut_of_refused hEnter
      by_cases hTooDeep : ∃ key most, failure = .tooDeep key most
      · obtain ⟨key, most, rfl⟩ := hTooDeep
        obtain ⟨more, hMore⟩ := out_carryOut files (.script path) (s.limited limit)
        refine .cut ⟨key, most, by rw [hFirst]⟩ ⟨more, ?_⟩
        rw [hFirst, hMore]
        simp [reportFailure, record, limited, Journal.out_record, Event.out]
      · have hRoom : ∀ key most, failure ≠ .tooDeep key most := by simpa using hTooDeep
        have hRefused := enter_limited_of_error hEnter hRoom limit
        rw [hFirst, carryOut_of_refused (s := s.limited limit) hRefused]
        exact .of_eq rfl (by simpa [Outcome.TooDeep] using hRoom)
  | ok inner =>
      have hSecond := enter_limited hEnter hLimit
      cases hLines : scriptLines files (files.key (s.resolve path)) with
      | error failure =>
          rw [carryOut_of_unloadable hEnter hLines,
            carryOut_of_unloadable (s := s.limited limit) hSecond hLines]
          exact .of_eq rfl (by simpa [Outcome.TooDeep] using ne_tooDeep_of_scriptLines hLines)
      | ok lines =>
          rw [carryOut_of_start hEnter hLines,
            carryOut_of_start (s := s.limited limit) hSecond hLines]
          exact (ih _ _ _ (.start rfl hEnter hLines)).release _

theorem cutOff_rest {script : ScriptReader} (ih : AsksCutOff files limit (.rest script) s) :
    CutOff limit (carryOut files (.rest script) s)
      (carryOut files (.rest script) (s.limited limit)) := by
  cases hNext : script.next with
  | mk first started =>
      cases first with
      | none =>
          rw [carryOut_eq, carryOut_eq files _ (s.limited limit)]
          simp only [carryOutBy, hNext]
          exact .same (by simp [Outcome.TooDeep])
      | some text =>
          rw [carryOut_rest_of_next files hNext, carryOut_rest_of_next files hNext]
          apply ((ih _ _ _ (.line hNext)).inScript script.path started.delivered).andThen
          · intro status after hDone goesOn
            obtain ⟨own, hOwn⟩ := Outcome.inScript_eq_ok hDone
            exact ih _ _ _ (.goOn hNext hOwn goesOn)
          · exact fun _ after => out_carryOut files (.rest (started.readStatement text).2) after

theorem cutOff_carryOut (a : Activity) {s : Session} (hLimit : s.running.limit ≤ limit) :
    CutOff limit (carryOut files a s) (carryOut files a (s.limited limit)) := by
  induction a, s using carryOut_induction files with
  | step a s ih =>
      have hAsks : AsksCutOff files limit a s := by
        intro scripts b m asks
        apply ih scripts b m asks
        rw [asks.running]
        exact hLimit
      cases a with
      | statement text more => exact cutOff_statement hAsks
      | commands status commands => exact cutOff_commands hAsks
      | call name arguments => exact cutOff_call hAsks
      | script path => exact cutOff_script hLimit hAsks
      | rest script => exact cutOff_rest hAsks

/-- A greater limit changes nothing in a run that did not fail for want of room. One that did is cut
off: whatever it wrote, it goes on from there under the greater limit. -/
theorem limit_cutsOff (files : FileTree) {s : Session} {limit : Nat}
    (hLimit : s.running.limit ≤ limit) (a : Activity) :
    ((∀ path most, (carryOut files a s).1 ≠ .error (.script (.tooDeep path most))) →
        carryOut files a (s.limited limit) =
          ((carryOut files a s).1, (carryOut files a s).2.limited limit)) ∧
      ∀ path most, (carryOut files a s).1 = .error (.script (.tooDeep path most)) →
        ∃ wrote more, (carryOut files a s).2.journal.out = s.journal.out ++ wrote ∧
          (carryOut files a (s.limited limit)).2.journal.out = s.journal.out ++ wrote ++ more := by
  obtain ⟨wrote, hWrote⟩ := out_carryOut files a s
  have hCutOff : CutOff limit (carryOut files a s) _ := cutOff_carryOut a hLimit
  generalize carryOut files a (s.limited limit) = second at hCutOff ⊢
  cases hCutOff with
  | same whole =>
      refine ⟨fun _ => rfl, ?_⟩
      intro path most hTooDeep
      exact absurd ⟨path, most, hTooDeep⟩ whole
  | cut tooDeep out =>
      refine ⟨fun hOther => ?_, fun _ _ _ => ?_⟩
      · obtain ⟨path, most, hTooDeep⟩ := tooDeep
        exact absurd hTooDeep (hOther path most)
      · obtain ⟨more, hMore⟩ := out
        exact ⟨wrote, more, hWrote, by rw [hMore, hWrote]⟩

/-- A script that runs another one, which runs a third. -/
def nested : FileTree :=
  ⟨[(["a"], .file "echo x\ninclude b\necho y\n".toUTF8), (["b"], .file "include c\n".toUTF8),
    (["c"], .file "echo z\n".toUTF8)]⟩

/-- A session in which two scripts may run one inside the other. -/
def narrow : Session :=
  { directory := "/", running := { limit := 2 } }

/-- With room for two scripts the third one is refused, and what was written until then is the
beginning of what is written with room for three. -/
theorem out_nested_limited :
    (carryOut nested (.script "a") narrow).2.journal.out = "x\n" ∧
      (∃ more, (carryOut nested (.script "a") (narrow.limited 3)).2.journal.out = "x\n" ++ more) ∧
      (carryOut nested (.script "a") (narrow.limited 3)).2.journal.out = "x\nz\ny\n" := by
  have hWrote : (carryOut nested (.script "a") narrow).2.journal.out = "x\n" := by decide +kernel
  have hRefused : (carryOut nested (.script "a") narrow).failure? =
      some (.script (.tooDeep "/c" 2)) := by decide +kernel
  have hLimit : narrow.running.limit ≤ 3 := by decide
  obtain ⟨wrote, more, hFirst, hSecond⟩ :=
    (limit_cutsOff nested hLimit (.script "a")).2 _ _ (Outcome.eq_error_of_failure? hRefused)
  have hBegins : narrow.journal.out ++ wrote = "x\n" := hFirst.symm.trans hWrote
  exact ⟨hWrote, ⟨more, hBegins ▸ hSecond⟩, by decide +kernel⟩

end Session

end ScriptShell
