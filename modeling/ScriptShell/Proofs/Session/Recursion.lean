import ScriptShell.Proofs.Session.Activity
/-!
Why every run comes to an end. An activity asks for others, which ask for others in turn; each of
them is lesser than what asked for it, by the room that there is for scripts inside scripts, or by
what there is left of one script, of one statement or of its commands.
-/
namespace ScriptShell

namespace Session
variable {files : FileTree}

/-- The first activity, begun with the first session, asks for the second one, which is then begun
with the second session. The scripts that are started on the way are listed between them. -/
inductive Invokes (files : FileTree) :
    Activity → Session → List ScriptReader → Activity → Session → Prop
  | further {text line : String} {more : List String} {fault : TokenFault} {s : Session}
      (unfinished : tokens text = .error fault) (incomplete : fault.isIncomplete = true) :
      Invokes files (.statement text (line :: more)) s [] (.statement (joinLine text line) more) s
  | read {text : String} {more : List String} {ts : List Token} {commands : List Command}
      {s : Session} (scanned : tokens text = .ok ts) (parsed : commandsOf ts = .ok commands) :
      Invokes files (.statement text more) s [] (.commands 0 commands) s
  | call {status : Nat} {command : Command} {rest : List Command} {name : String}
      {arguments : List String} {s : Session}
      (named : command.words.map (s.assignAll command.assignments).expand = name :: arguments) :
      Invokes files (.commands status (command :: rest)) s [] (.call name arguments)
        (s.assignAll command.assignments)
  | next {status done : Nat} {command : Command} {rest : List Command} {s after : Session}
      (outcome : commandBy (carryOut files) command s = (.ok done, after))
      (goesOn : after.stopping = false) :
      Invokes files (.commands status (command :: rest)) s [] (.commands done rest) after
  | inclusion {name path : String} {arguments : List String} {s : Session}
      (asked : s.inclusion? name arguments = some path) :
      Invokes files (.call name arguments) s [] (.script path) (s.record (.called name arguments))
  | start {path : String} {script : ScriptReader} {lines : List String} {s inner : Session}
      (known : script = .unread (files.key (s.resolve path)))
      (started : (s.record (.sought (s.resolve path))).enter script.path = .ok inner)
      (loaded : scriptLines files script.path = .ok lines) :
      Invokes files (.script path) s [script] (.rest (script.withLines lines)) inner
  | line {script started : ScriptReader} {text : String} {s : Session}
      (next : script.next = (some text, started)) :
      Invokes files (.rest script) s [] (.statement text started.remaining) s
  | goOn {script started : ScriptReader} {text : String} {status : Nat} {s after : Session}
      (next : script.next = (some text, started))
      (outcome : carryOut files (.statement text started.remaining) s = (.ok status, after))
      (goesOn : after.stopping = false) :
      Invokes files (.rest script) s [] (.rest (started.readStatement text).2) after

theorem running_commandBy (files : FileTree) (command : Command) (s : Session) :
    (commandBy (carryOut files) command s).2.running = s.running := by
  cases hWords : command.words.map (s.assignAll command.assignments).expand with
  | nil => rw [commandBy_of_nil hWords, running_assignAll]
  | cons name arguments => rw [commandBy_of_cons hWords, running_call, running_assignAll]

section
variable {a b : Activity} {s m : Session} {scripts : List ScriptReader}

/-- The scripts that an activity starts before it asks for another one are running then. -/
theorem Invokes.running (h : Invokes files a s scripts b m) :
    m.running = { s.running with keys := scripts.map ScriptReader.path ++ s.running.keys } := by
  cases h with
  | further | read | inclusion | line => rfl
  | call => exact running_assignAll ..
  | @next _ _ command _ _ _ outcome =>
      have hRunning := running_commandBy files command s
      rw [outcome] at hRunning
      exact hRunning
  | start _ started =>
      obtain ⟨_, _, rfl⟩ := enter_eq_ok_iff.mp started
      rfl
  | @goOn _ started text _ _ _ _ outcome =>
      have hRunning := running_statement files text started.remaining s
      rw [outcome] at hRunning
      exact hRunning

/-- The kind of an activity, and how much there is left of it. Activities of one script ask for
lesser ones only. -/
def rank : Activity → Nat × Nat
  | .rest script => (4, script.remaining.length)
  | .statement _ more => (3, more.length)
  | .commands _ commands => (2, commands.length)
  | .call _ _ => (1, 0)
  | .script _ => (0, 0)

/-- Less room for scripts, or the same room and a lesser activity. -/
def Lesser (q p : Activity × Session) : Prop :=
  Prod.Lex (· < ·) (Prod.Lex (· < ·) (· < ·)) (q.2.running.room, rank q.1)
    (p.2.running.room, rank p.1)

theorem wellFounded_lesser : WellFounded Lesser :=
  InvImage.wf (fun p : Activity × Session => (p.2.running.room, rank p.1))
    (WellFounded.prod_lex Nat.lt_wfRel.wf (WellFounded.prod_lex Nat.lt_wfRel.wf Nat.lt_wfRel.wf))

theorem lesser_of_running {p q : Activity × Session} (hRunning : q.2.running = p.2.running)
    (hRank : Prod.Lex (· < ·) (· < ·) (rank q.1) (rank p.1)) : Lesser q p := by
  unfold Lesser
  rw [hRunning]
  exact .right _ hRank

/-- What an activity asks for is lesser than itself: only the start of a script leads from a lesser
activity to a greater one, and it takes up room. -/
theorem Invokes.lesser (h : Invokes files a s scripts b m) : Lesser (b, m) (a, s) := by
  have hRunning := h.running
  cases h with
  | further => exact lesser_of_running hRunning (.right _ (Nat.lt_succ_self _))
  | read => exact lesser_of_running hRunning (.left _ _ (by decide))
  | call => exact lesser_of_running hRunning (.left _ _ (by decide))
  | next => exact lesser_of_running hRunning (.right _ (Nat.lt_succ_self _))
  | inclusion => exact lesser_of_running hRunning (.left _ _ (by decide))
  | @start path _ _ _ _ _ started =>
      have hRoom : s.running.room = m.running.room + 1 :=
        room_enter (s := s.record (.sought (s.resolve path))) started
      exact .left _ _ (by simp only [hRoom]; omega)
  | line => exact lesser_of_running hRunning (.left _ _ (by decide))
  | @goOn script started text _ _ _ next =>
      have hFewer := started.length_remaining_readStatement_le text
      refine lesser_of_running hRunning (.right _ ?_)
      rw [(ScriptReader.next_eq_some next).1, List.length_cons]
      omega

end

/-- One layer depends on nothing but the outcomes of the activities that are asked for. -/
theorem carryOutBy_congr {run : Activity → Session → Outcome} {a : Activity} {s : Session}
    (h : ∀ scripts b m, Invokes files a s scripts b m → run b m = carryOut files b m) :
    carryOutBy files run a s = carryOutBy files (carryOut files) a s := by
  cases a with
  | statement text more =>
      simp only [carryOutBy]
      cases hTokens : tokens text with
      | ok ts =>
          cases hCommands : commandsOf ts with
          | error fault => simp only [hCommands]
          | ok commands => simp only [hCommands, h _ _ _ (.read hTokens hCommands)]
      | error fault =>
          cases more with
          | nil => rfl
          | cons line more =>
              cases hIncomplete : fault.isIncomplete with
              | false => simp only [hIncomplete]; rfl
              | true => simp only [hIncomplete, if_true, h _ _ _ (.further hTokens hIncomplete)]
  | commands status commands =>
      cases commands with
      | nil => rfl
      | cons command rest =>
          have hCommand : commandBy run command s = commandBy (carryOut files) command s := by
            cases hWords : command.words.map (s.assignAll command.assignments).expand with
            | nil => rw [commandBy_of_nil hWords, commandBy_of_nil hWords]
            | cons name arguments =>
                rw [commandBy_of_cons hWords, commandBy_of_cons hWords]
                exact h _ _ _ (.call hWords)
          simp only [carryOutBy, hCommand]
          exact Outcome.andThen_congr fun done after hDone hStop => h _ _ _ (.next hDone hStop)
  | call name arguments =>
      simp only [carryOutBy]
      cases hAsked : s.inclusion? name arguments with
      | none => rfl
      | some path => exact h _ _ _ (.inclusion hAsked)
  | script path =>
      simp only [carryOutBy, ScriptReader.path_unread]
      cases hEnter : (s.record (.sought (s.resolve path))).enter (files.key (s.resolve path)) with
      | error failure => rfl
      | ok inner =>
          cases hLines : scriptLines files (files.key (s.resolve path)) with
          | error failure => rfl
          | ok lines => simp only [h _ _ _ (.start rfl hEnter hLines)]
  | rest script =>
      simp only [carryOutBy]
      cases hNext : script.next with
      | mk first started =>
          cases first with
          | none => rfl
          | some text =>
              simp only [h _ _ _ (.line hNext)]
              refine Outcome.andThen_congr fun status after hDone hStop => ?_
              obtain ⟨own, hOwn⟩ := Outcome.inScript_eq_ok hDone
              exact h _ _ _ (.goOn hNext hOwn hStop)

theorem wellFounded_invokes (files : FileTree) :
    WellFounded fun q p : Activity × Session => ∃ scripts, Invokes files p.1 p.2 scripts q.1 q.2 :=
  Subrelation.wf (fun ⟨_, h⟩ => h.lesser) wellFounded_lesser

/-- What is proved of an activity from the activities that it asks for holds of every activity. -/
theorem carryOut_induction (files : FileTree) {motive : Activity → Session → Prop}
    (step : ∀ a s, (∀ scripts b m, Invokes files a s scripts b m → motive b m) → motive a s)
    (a : Activity) (s : Session) : motive a s :=
  (wellFounded_invokes files).induction (C := fun p => motive p.1 p.2) (a, s)
    fun p ih => step p.1 p.2 fun scripts b m h => ih (b, m) ⟨scripts, h⟩

/-- Carrying out the first activity comes to the second one, to be begun with the second session,
inside of the scripts that are listed between them, innermost first. -/
inductive Reaches (files : FileTree) :
    Activity → Session → List ScriptReader → Activity → Session → Prop
  | refl (a : Activity) (s : Session) : Reaches files a s [] a s
  | head {a b c : Activity} {s m n : Session} {started scripts : List ScriptReader}
      (first : Invokes files a s started b m) (rest : Reaches files b m scripts c n) :
      Reaches files a s (scripts ++ started) c n

theorem Reaches.trans {a b c : Activity} {s m n : Session} {outer inner : List ScriptReader}
    (first : Reaches files a s outer b m) (rest : Reaches files b m inner c n) :
    Reaches files a s (inner ++ outer) c n := by
  induction first with
  | refl => rwa [List.append_nil]
  | head asks _ ih =>
      rw [← List.append_assoc]
      exact .head asks (ih rest)

theorem Reaches.running {a b : Activity} {s m : Session} {scripts : List ScriptReader}
    (h : Reaches files a s scripts b m) :
    m.running = { s.running with keys := scripts.map ScriptReader.path ++ s.running.keys } := by
  induction h with
  | refl => rfl
  | head first _ ih => rw [ih, first.running, List.map_append, List.append_assoc]

theorem runs_carryOut (files : FileTree) (a : Activity) (s : Session) :
    Runs files s (carryOut files a s).2 := by
  cases a with
  | statement text more => exact runs_runStatement (runs_runIn _) _ s
  | commands status commands => exact runs_runCommands (runs_runIn _) status commands s
  | call name arguments => exact runs_call (runs_runIn _) name arguments s
  | script path =>
      rw [carryOut, Outcome.snd_ofScript]
      exact runs_runIn s.running.room path s
  | rest script =>
      rw [carryOut, Outcome.snd_ofScript]
      exact runs_runRest (runs_runIn s.running.room) script s

theorem Invokes.room {a b : Activity} {s m : Session} {scripts : List ScriptReader}
    (h : Invokes files a s scripts b m) : s.running.room = m.running.room + scripts.length := by
  have hRunning := h.running
  cases h with
  | @start path _ _ _ _ _ started =>
      exact room_enter (s := s.record (.sought (s.resolve path))) started
  | _ => rw [hRunning]; rfl

theorem Reaches.room {a b : Activity} {s m : Session} {scripts : List ScriptReader}
    (h : Reaches files a s scripts b m) : s.running.room = m.running.room + scripts.length := by
  induction h with
  | refl => rfl
  | head first _ ih =>
      rw [first.room, ih, List.length_append]
      omega

/-- At no moment are there more running scripts than may be, or than there were to begin with. -/
theorem Orderly.length_le {limit : Nat} {keys : List String} {events : List Event}
    (h : Orderly limit keys events) :
    (runningAfter keys events).length ≤ max keys.length limit := by
  induction events generalizing keys with
  | nil => exact Nat.le_max_left ..
  | cons event events ih =>
      obtain ⟨hFits, hRest⟩ := h
      have hNext : (event.running keys).length ≤ max keys.length limit := by
        cases event with
        | entered key =>
            have hRoom := hFits.2
            simp only [Event.running, List.length_cons]
            omega
        | left key popped =>
            simp only [Event.running, List.length_tail]
            omega
        | _ => exact Nat.le_max_left ..
      have hEnd : (runningAfter keys (event :: events)).length ≤
          max (event.running keys).length limit := ih hRest
      omega

/-- Every run comes to an end. What an activity asks for, directly or by way of others, is lesser in
a well-founded order, so the recursion with no bound on its depth has one solution, and that is how
activities are carried out. Each script inside scripts takes up some of the room for them, and there
are never more of them than may be. -/
theorem carryOut_wellFounded (files : FileTree) :
    (WellFounded fun q p : Activity × Session =>
        ∃ scripts, Invokes files p.1 p.2 scripts q.1 q.2) ∧
      (∀ run : Activity → Session → Outcome,
        (∀ a s, run a s = carryOutBy files run a s) ↔ run = carryOut files) ∧
      (∀ a s scripts b m, Reaches files a s scripts b m →
        s.running.room = m.running.room + scripts.length ∧
          m.running.depth = s.running.depth + scripts.length) ∧
      ∀ a s, ∃ events, (carryOut files a s).2.journal.toList = s.journal.toList ++ events ∧
        ∀ before, before <+: events →
          (runningAfter s.running.keys before).length ≤ max s.running.depth s.running.limit := by
  refine ⟨wellFounded_invokes files, fun run => ⟨fun hRun => ?_, fun hRun => ?_⟩, ?_, fun a s => ?_⟩
  · funext a s
    induction a, s using carryOut_induction files with
    | step a s ih => rw [hRun, carryOutBy_congr ih, ← carryOut_eq]
  · subst hRun
    exact carryOut_eq files
  · intro a s scripts b m h
    refine ⟨h.room, ?_⟩
    rw [h.running]
    simp only [RunningScripts.depth, List.length_append, List.length_map]
    omega
  · obtain ⟨_, events, logs, _⟩ := (runs_carryOut files a s).logs
    refine ⟨events, logs.journal, ?_⟩
    rintro before ⟨rest, rfl⟩
    exact Orderly.length_le (orderly_append.mp logs.orderly).1

end Session

end ScriptShell
