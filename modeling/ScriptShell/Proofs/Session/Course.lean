import ScriptShell.Proofs.Session.Unwinding
/-!
The course that an activity can take. It passes on what comes of an activity that it asks for, or a
script in it fails, or it ends by itself. What is proved of runs by induction needs these three
cases only, and never looks into an activity again.
-/
namespace ScriptShell

namespace Event

/-- Whether an event is the report that a script failed. -/
def IsFailure : Event → Prop
  | .reported (.failedScript _) => True
  | _ => False

/-- Whether an event is a sign that a run comes to its end: a script failed, or the session was told
to end. -/
def IsSign : Event → Prop
  | .stopped => True
  | event => event.IsFailure

theorem isSign_of_isFailure (event : Event) (h : event.IsFailure) : event.IsSign := by
  cases event <;> first | exact h | exact trivial

theorem isSign_of_eq_stopped (event : Event) (h : event = .stopped) : event.IsSign := by
  subst h
  trivial

theorem IsEnd.not_isSign {event : Event} (h : event.IsEnd) : ¬event.IsSign := by
  cases event with
  | left => exact id
  | _ => cases h

end Event

namespace Session
variable {files : FileTree} {a b : Activity} {s m after : Session} {scripts : List ScriptReader}

/-- An activity that runs a script fails by itself: the script is not admitted or cannot be read, or
its next statement has a fault. Listed are the scripts that it had started, its failure, and the
session just before that is reported. -/
inductive Breaks (files : FileTree) :
    Activity → Session → List ScriptReader → ScriptFailure → Session → Prop
  | refused {path : String} {s : Session} {failure : ScriptFailure}
      (refused : (s.record (.sought (s.resolve path))).enter (files.key (s.resolve path)) =
        .error failure) :
      Breaks files (.script path) s [] failure (s.record (.sought (s.resolve path)))
  | unloadable {path : String} {script : ScriptReader} {s inner : Session} {failure : ScriptFailure}
      (known : script = .unread (files.key (s.resolve path)))
      (started : (s.record (.sought (s.resolve path))).enter script.path = .ok inner)
      (unloadable : scriptLines files script.path = .error failure) :
      Breaks files (.script path) s [script] failure inner
  | fault {script started : ScriptReader} {text : String} {s after : Session} {cause : Fault}
      (next : script.next = (some text, started))
      (outcome : carryOut files (.statement text started.remaining) s =
        (.error (.fault cause), after)) :
      Breaks files (.rest script) s [] (.stopped script.path script.nextNumber cause) after

theorem Breaks.outcome {own : List ScriptReader} {failure : ScriptFailure} {moment : Session}
    (h : Breaks files a s own failure moment) :
    carryOut files a s =
      (.error (.script failure), (moment.reportFailure failure).unwind own) := by
  cases h with
  | refused refused => exact carryOut_of_refused refused
  | unloadable known started unloadable =>
      subst known
      exact carryOut_of_unloadable started unloadable
  | fault next outcome =>
      rw [carryOut_rest_of_next files next, outcome, (ScriptReader.next_eq_some next).2.2.2]
      rfl

/-- Whether an activity is a call by which the session is told to end. -/
def Exits (a : Activity) (s : Session) : Prop :=
  ∃ name arguments given, a = .call name arguments ∧
    s.vocabulary.find? (·.name == name) = some .exit ∧
      StandardCommand.exit.form.read arguments = .ok (.given given)

/-- From the first session to the second one, no event of a kind is recorded. -/
def Without (kind : Event → Prop) (s after : Session) : Prop :=
  ∃ events, after.journal.toList = s.journal.toList ++ events ∧ ∀ event ∈ events, ¬kind event

namespace Without
variable {kind : Event → Prop}

theorem of_journal (h : after.journal = s.journal) : Without kind s after :=
  ⟨[], by simp [h], by simp⟩

theorem trans (first : Without kind s m) (rest : Without kind m after) : Without kind s after := by
  obtain ⟨events, hEvents, hFirst⟩ := first
  obtain ⟨more, hMore, hRest⟩ := rest
  exact ⟨events ++ more, by rw [hMore, hEvents, List.append_assoc],
    List.forall_mem_append.mpr ⟨hFirst, hRest⟩⟩

theorem record (s : Session) {event : Event} (hOther : ¬kind event) :
    Without kind s (s.record event) :=
  ⟨[event], Journal.toList_record .., by simpa using hOther⟩

section
variable (hKind : ∀ event, kind event → event.IsSign)
include hKind

theorem of_unwound (h : Unwound s after) : Without kind s after := by
  obtain ⟨events, hEvents, hEnds⟩ := h.events
  refine ⟨events, hEvents, fun event hMem hEvent => ?_⟩
  exact (hEnds event hMem).not_isSign (hKind event hEvent)

theorem enter {inner : Session} {key : String} (h : s.enter key = .ok inner) :
    Without kind s inner := by
  obtain ⟨_, _, rfl⟩ := enter_eq_ok_iff.mp h
  exact (of_journal rfl).trans (.record _ (hKind _))

theorem assignAll (s : Session) (assignments : List Assignment) :
    Without kind s (s.assignAll assignments) := by
  unfold Session.assignAll
  induction assignments generalizing s with
  | nil => exact .of_journal rfl
  | cons a rest ih =>
      have hAssign : Without kind s (s.assign a.name (s.expand a.value)) :=
        (of_journal rfl).trans (.record { s with vars := _ } (hKind _))
      exact hAssign.trans (ih _)

/-- Before it asks for another activity, an activity gives no sign of an end, if none is given by
those that it asked for earlier: they came to no end. -/
theorem of_invokes (asks : Invokes files a s scripts b m)
    (hDone : ∀ scripts c n status after, Invokes files a s scripts c n →
      carryOut files c n = (.ok status, after) → after.stopping = false → Without kind n after) :
    Without kind s m := by
  cases asks with
  | further | read | line => exact .of_journal rfl
  | call => exact .assignAll hKind ..
  | @next _ _ command _ _ _ outcome goesOn =>
      cases hWords : command.words.map (s.assignAll command.assignments).expand with
      | nil =>
          rw [commandBy_of_nil hWords] at outcome
          cases outcome
          exact .assignAll hKind ..
      | cons name arguments =>
          rw [commandBy_of_cons hWords] at outcome
          exact (assignAll hKind ..).trans (hDone _ _ _ _ _ (.call hWords) outcome goesOn)
  | inclusion => exact .record s (hKind _)
  | start _ started => exact (record s (hKind _)).trans (.enter hKind started)
  | goOn next outcome goesOn => exact hDone _ _ _ _ _ (.line next) outcome goesOn

theorem of_reaches (reaches : Reaches files a s scripts b m)
    (hDone : ∀ c n status after, carryOut files c n = (.ok status, after) →
      after.stopping = false → Without kind n after) : Without kind s m := by
  induction reaches with
  | refl => exact .of_journal rfl
  | head first _ ih =>
      exact (of_invokes hKind first fun _ c n status after _ => hDone c n status after).trans ih

end

end Without

/-- What an activity comes to that ends by itself: it is no failure of a script, it reports none,
and only an exit tells the session to end. -/
structure EndsWell (a : Activity) (s : Session) (outcome : Outcome) : Prop where
  well : ∀ failure, outcome.1 ≠ .error (.script failure)
  quiet : Without Event.IsFailure s outcome.2
  stops : outcome.2.stopping = true → s.stopping = true ∨ Exits a s

theorem EndsWell.of_same {result : Except Failure Nat}
    (well : ∀ failure, result ≠ .error (.script failure)) : EndsWell a s (result, s) :=
  ⟨well, .of_journal rfl, .inl⟩

theorem EndsWell.of_record {result : Except Failure Nat} {event : Event}
    (well : ∀ failure, result ≠ .error (.script failure))
    (hOther : ¬event.IsFailure) :
    EndsWell a s (result, s.record event) :=
  ⟨well, .record s hOther, .inl⟩

theorem stopping_assignAll (s : Session) (assignments : List Assignment) :
    (s.assignAll assignments).stopping = s.stopping := by
  unfold assignAll
  induction assignments generalizing s with
  | nil => rfl
  | cons a rest ih => exact ih _

theorem endsWell_changeDirectory (target : Option String) (s : Session) :
    EndsWell a s (.ok (s.changeDirectory files target).1, (s.changeDirectory files target).2) := by
  unfold changeDirectory
  cases s.directoryAsked target with
  | none => exact .of_record (by simp) id
  | some target =>
      have hAsking : Without Event.IsFailure s (s.record (.sought (s.resolve target))) :=
        .record s id
      cases hPlace : files.place (s.resolve target) with
      | error error =>
          simp only [hPlace]
          exact ⟨by simp, hAsking.trans (.record _ id), .inl⟩
      | ok loc =>
          cases hDirectory : files.isDirectory loc with
          | false =>
              simp only [hPlace, hDirectory]
              exact ⟨by simp, hAsking.trans (.record _ id), .inl⟩
          | true =>
              simp only [hPlace, hDirectory]
              exact ⟨by simp, hAsking.trans (.of_journal rfl), .inl⟩

/-- A call that runs no script ends by itself. -/
theorem endsWell_call (name : String) (arguments : List String) (s : Session) :
    EndsWell (.call name arguments) s
      (s.call files (fun _ s => (.ok (), s)) name arguments) := by
  unfold call
  cases hFind : s.vocabulary.find? (·.name == name) with
  | none => exact .of_same (by simp)
  | some command =>
      have hCalled : Without Event.IsFailure s (s.record (.called name arguments)) := .record s id
      suffices h : ∀ outcome : Outcome,
          EndsWell (.call name arguments) (s.record (.called name arguments)) outcome →
            EndsWell (.call name arguments) s outcome by
        apply h
        cases hRead : command.form.read arguments with
        | error fault =>
            simp only [hRead]
            exact .of_record (by simp) id
        | ok request =>
            cases request with
            | help =>
                simp only [hRead]
                exact .of_record (by simp) id
            | given given =>
                simp only [hRead]
                cases command with
                | pwd => exact .of_record (by simp) id
                | echo => exact .of_record (by simp) id
                | inclusion => exact .of_same (by simp)
                | cd => exact endsWell_changeDirectory ..
                | exit =>
                    have hStopped : Without Event.IsFailure (s.record (.called name arguments))
                        (s.record (.called name arguments)).stop :=
                      (Without.of_journal rfl).trans
                        (.record { s.record (.called name arguments) with stopping := true } id)
                    exact ⟨by simp [perform], hStopped,
                      fun _ => .inr ⟨name, arguments, given, rfl, hFind, hRead⟩⟩
      intro outcome ends
      exact ⟨ends.well, hCalled.trans ends.quiet, ends.stops⟩

/-- What becomes of an activity. -/
inductive Course (files : FileTree) (a : Activity) (s : Session) : Prop
  /-- It passes on what comes of an activity that it asks for. -/
  | passes {scripts : List ScriptReader} {b : Activity} {m : Session}
      (asks : Invokes files a s scripts b m)
      (failure : ∀ failure, (carryOut files a s).1 = .error (.script failure) →
        (carryOut files b m).1 = .error (.script failure))
      (after : (carryOut files a s).2 = (carryOut files b m).2.unwind scripts)
  | breaks {own : List ScriptReader} {failure : ScriptFailure} {moment : Session}
      (breaks : Breaks files a s own failure moment)
  | ends (ends : EndsWell a s (carryOut files a s))

/-- An activity that comes to the same as one that it asks for. -/
theorem Course.of_eq (asks : Invokes files a s scripts b m)
    (h : carryOut files a s = (carryOut files b m).unwind scripts) : Course files a s :=
  .passes asks (fun failure hFailure => by rw [← hFailure, h]; rfl) (by rw [h]; rfl)

theorem course_statement (text : String) (more : List String) (s : Session) :
    Course files (.statement text more) s := by
  have hEq := carryOut_eq files (.statement text more) s
  simp only [carryOutBy] at hEq
  cases hTokens : tokens text with
  | ok ts =>
      simp only [hTokens] at hEq
      cases hCommands : commandsOf ts with
      | error fault =>
          simp only [hCommands] at hEq
          exact .ends (hEq ▸ .of_same (by simp))
      | ok commands =>
          simp only [hCommands] at hEq
          exact .of_eq (.read hTokens hCommands) hEq
  | error fault =>
      simp only [hTokens] at hEq
      cases more with
      | nil => exact .ends (hEq ▸ .of_same (by simp))
      | cons line more =>
          cases hIncomplete : fault.isIncomplete with
          | false =>
              simp only [hIncomplete] at hEq
              exact .ends (hEq ▸ .of_same (by simp))
          | true =>
              simp only [hIncomplete, if_true] at hEq
              exact .of_eq (.further hTokens hIncomplete) hEq

/-- A command makes its assignments, and that is all unless it has words to call something by. -/
theorem course_commands (status : Nat) (commands : List Command) (s : Session) :
    Course files (.commands status commands) s := by
  cases commands with
  | nil => exact .ends (.of_same (by simp))
  | cons command rest =>
      have hCons := carryOut_cons files status command rest s
      rcases (commandBy (carryOut files) command s).andThen_cases with
        hDone | ⟨done, after, hOk, goesOn⟩
      · rw [hDone] at hCons
        cases hWords : command.words.map (s.assignAll command.assignments).expand with
        | nil =>
            rw [commandBy_of_nil hWords] at hCons
            exact .ends (hCons ▸ ⟨by simp, .assignAll Event.isSign_of_isFailure s _, fun hStop =>
              .inl ((stopping_assignAll s _).symm.trans hStop)⟩)
        | cons name arguments =>
            rw [commandBy_of_cons hWords] at hCons
            exact .of_eq (.call hWords) hCons
      · rw [Outcome.andThen_of_ok hOk goesOn] at hCons
        exact .of_eq (.next hOk goesOn) hCons

theorem course_call (name : String) (arguments : List String) (s : Session) :
    Course files (.call name arguments) s := by
  have hEq := carryOut_eq files (.call name arguments) s
  simp only [carryOutBy] at hEq
  cases hAsked : s.inclusion? name arguments with
  | none =>
      simp only [hAsked] at hEq
      exact .ends (hEq ▸ endsWell_call name arguments s)
  | some path =>
      simp only [hAsked] at hEq
      exact .of_eq (.inclusion hAsked) hEq

theorem course_script (path : String) (s : Session) : Course files (.script path) s := by
  have hEq := carryOut_eq files (.script path) s
  simp only [carryOutBy, ScriptReader.path_unread] at hEq
  cases hEnter : (s.record (.sought (s.resolve path))).enter (files.key (s.resolve path)) with
  | error failure => exact .breaks (.refused hEnter)
  | ok inner =>
      cases hLines : scriptLines files (files.key (s.resolve path)) with
      | error failure => exact .breaks (.unloadable rfl hEnter hLines)
      | ok lines =>
          simp only [hEnter, hLines] at hEq
          exact .of_eq (.start rfl hEnter hLines) hEq

/-- What its next statement comes to decides what the rest of a script comes to. -/
theorem course_rest (script : ScriptReader) (s : Session) : Course files (.rest script) s := by
  cases hNext : script.next with
  | mk first started =>
      cases first with
      | none =>
          have hEq := carryOut_eq files (.rest script) s
          simp only [carryOutBy, hNext] at hEq
          exact .ends (hEq ▸ .of_same (by simp))
      | some text =>
          have hRest := carryOut_rest_of_next files hNext s
          cases hLine : carryOut files (.statement text started.remaining) s with
          | mk result after =>
              cases result with
              | error failure =>
                  cases failure with
                  | fault cause => exact .breaks (.fault hNext hLine)
                  | script failure =>
                      rw [hLine] at hRest
                      exact .of_eq (.line hNext) (by rw [hRest, hLine]; rfl)
              | ok status =>
                  have hDone := Outcome.inScript_of_ok hLine script.path started.delivered
                  cases hStop : after.stopping with
                  | true =>
                      rw [hDone, Outcome.IsFinal.andThen (.inr ⟨rfl, hStop⟩)] at hRest
                      exact .passes (.line hNext) (by simp [hRest]) (by rw [hRest, hLine]; rfl)
                  | false =>
                      rw [Outcome.andThen_of_ok hDone hStop] at hRest
                      exact .of_eq (.goOn hNext hLine hStop) hRest

theorem carryOut_course (files : FileTree) (a : Activity) (s : Session) : Course files a s := by
  cases a with
  | statement text more => exact course_statement text more s
  | commands status commands => exact course_commands status commands s
  | call name arguments => exact course_call name arguments s
  | script path => exact course_script path s
  | rest script => exact course_rest script s

end Session

end ScriptShell
