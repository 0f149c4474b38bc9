import ScriptShell.Proofs.Session.Run
/-!
Scripts inside scripts. The journal tells when a script was started and when one was ended, so the
running scripts of every moment can be read off it. Whatever a host does, they are distinct, there
are no more of them than may be, each of them is ended as the innermost one, and between two calls
they are the scripts that the host holds itself.
-/
namespace ScriptShell

/-- The running scripts after an event, given those before it. Both are innermost first. -/
def Event.running (keys : List String) : Event → List String
  | .entered key => key :: keys
  | .left _ _ => keys.tail
  | _ => keys

/-- The running scripts after some events. -/
def runningAfter (keys : List String) (events : List Event) : List String :=
  events.foldl Event.running keys

/-- No two of the keys are spellings of one path. -/
def Distinct (keys : List String) : Prop :=
  keys.Pairwise fun key other => Path.same key other = false

/-- Whether an event may come next, given the running scripts: a script starts only if it is not
running and there is room for it, and the one that ends is the innermost one and is taken off. -/
def Event.Fits (limit : Nat) (keys : List String) : Event → Prop
  | .entered key => (∀ other ∈ keys, Path.same key other = false) ∧ keys.length < limit
  | .left key popped => keys.head? = some key ∧ popped = some key
  | _ => True

/-- Whether events may come one after another. -/
def Orderly (limit : Nat) : (keys : List String) → List Event → Prop
  | _, [] => True
  | keys, event :: events => event.Fits limit keys ∧ Orderly limit (event.running keys) events

/-- Whether every script was started under the key of the path that was sought just before. -/
def SoughtFirst (files : FileTree) (events : List Event) : Prop :=
  ∀ before key after, events = before ++ Event.entered key :: after →
    ∃ earlier target, before = earlier ++ [Event.sought target] ∧ key = files.key target

section
variable {limit : Nat} {keys : List String} {event : Event} {events more : List Event}

theorem runningAfter_append :
    runningAfter keys (events ++ more) = runningAfter (runningAfter keys events) more :=
  List.foldl_append

theorem Event.IsNote.running (note : event.IsNote) : event.running keys = keys := by
  cases event <;> first | rfl | cases note

theorem Event.IsNote.fits (note : event.IsNote) : event.Fits limit keys := by
  cases event <;> trivial

theorem orderly_append : Orderly limit keys (events ++ more) ↔
    Orderly limit keys events ∧ Orderly limit (runningAfter keys events) more := by
  induction events generalizing keys with
  | nil => simp [Orderly, runningAfter]
  | cons event events ih => simp [Orderly, runningAfter, ih, and_assoc]

theorem orderly_singleton : Orderly limit keys [event] ↔ event.Fits limit keys := by
  simp [Orderly]

/-- One event that may come next keeps the running scripts distinct and within the limit. -/
theorem Event.Fits.keeps (hFits : event.Fits limit keys) (hDistinct : Distinct keys)
    (hLimit : keys.length ≤ limit) :
    Distinct (event.running keys) ∧ (event.running keys).length ≤ limit := by
  cases event with
  | entered key =>
      obtain ⟨hFresh, hRoom⟩ := hFits
      exact ⟨List.pairwise_cons.mpr ⟨hFresh, hDistinct⟩, hRoom⟩
  | left key popped =>
      refine ⟨hDistinct.tail, ?_⟩
      simp only [Event.running, List.length_tail]
      omega
  | _ => exact ⟨hDistinct, hLimit⟩

theorem Orderly.keeps (hOrderly : Orderly limit keys events) (hDistinct : Distinct keys)
    (hLimit : keys.length ≤ limit) :
    Distinct (runningAfter keys events) ∧ (runningAfter keys events).length ≤ limit := by
  induction events generalizing keys with
  | nil => exact ⟨hDistinct, hLimit⟩
  | cons event events ih =>
      obtain ⟨hFits, hRest⟩ := hOrderly
      obtain ⟨hNext, hNextLimit⟩ := hFits.keeps hDistinct hLimit
      exact ih hRest hNext hNextLimit

/-- Whatever is taken off the running scripts is the script that ends. -/
theorem Orderly.popped_eq (hOrderly : Orderly limit keys events) {key : String}
    {popped : Option String} (hMem : Event.left key popped ∈ events) : popped = some key := by
  induction events generalizing keys with
  | nil => cases hMem
  | cons event events ih =>
      obtain ⟨hFits, hRest⟩ := hOrderly
      rcases List.mem_cons.mp hMem with rfl | hMem
      · exact hFits.2
      · exact ih hRest hMem

variable {files : FileTree}

theorem soughtFirst_of_not_mem (h : ∀ key, Event.entered key ∉ events) :
    SoughtFirst files events := by
  rintro before key after rfl
  exact absurd (List.mem_append_right _ List.mem_cons_self) (h key)

theorem soughtFirst_start (target : String) :
    SoughtFirst files [.sought target, .entered (files.key target)] := by
  intro before key after h
  match before with
  | [] => cases h
  | [first] =>
      cases h
      exact ⟨[], target, rfl, rfl⟩
  | first :: second :: rest => simp at h

theorem SoughtFirst.append (hFirst : SoughtFirst files events) (hRest : SoughtFirst files more) :
    SoughtFirst files (events ++ more) := by
  intro before key after h
  rcases List.append_eq_append_iff.mp h with ⟨between, rfl, hMore⟩ | ⟨between, hEvents, hMore⟩
  · obtain ⟨earlier, target, rfl, hKey⟩ := hRest _ _ _ hMore
    exact ⟨events ++ earlier, target, (List.append_assoc ..).symm, hKey⟩
  · cases between with
    | nil =>
        obtain ⟨earlier, target, hNil, _⟩ := hRest [] key after hMore.symm
        simp at hNil
    | cons event between =>
        cases hMore
        exact hFirst _ _ _ hEvents

end

namespace Session

/-- The events that lead from one session to another: they stand in the journal, they may come one
after another, and they account for the scripts that are running in the end. -/
structure Logs (s : Session) (events : List Event) (after : Session) : Prop where
  journal : after.journal.toList = s.journal.toList ++ events
  orderly : Orderly s.running.limit s.running.keys events
  running : runningAfter s.running.keys events = after.running.keys
  limit : after.running.limit = s.running.limit

namespace Logs

theorem refl (s : Session) : Logs s [] s :=
  ⟨by simp, trivial, rfl, rfl⟩

theorem trans {s middle after : Session} {events more : List Event}
    (first : Logs s events middle) (rest : Logs middle more after) :
    Logs s (events ++ more) after where
  journal := by rw [rest.journal, first.journal, List.append_assoc]
  orderly := orderly_append.mpr ⟨first.orderly, by
    rw [first.running, ← first.limit]
    exact rest.orderly⟩
  running := by rw [runningAfter_append, first.running, rest.running]
  limit := rest.limit.trans first.limit

theorem note (s : Session) (event : Event) (note : event.IsNote) :
    Logs s [event] (s.record event) where
  journal := Journal.toList_record ..
  orderly := orderly_singleton.mpr note.fits
  running := note.running
  limit := rfl

theorem enter {s inner : Session} {key : String} (h : s.enter key = .ok inner) :
    Logs s [.entered key] inner := by
  obtain ⟨hFresh, hRoom, rfl⟩ := enter_eq_ok_iff.mp h
  have hOthers := RunningScripts.isRunning_eq_false_iff.mp hFresh
  exact ⟨Journal.toList_record .., orderly_singleton.mpr ⟨hOthers, hRoom⟩, rfl, rfl⟩

theorem release {s : Session} {script : ScriptReader}
    (h : s.running.keys.head? = some script.path) :
    Logs s [.left script.path s.running.keys.head?] (s.release script) :=
  ⟨Journal.toList_record .., orderly_singleton.mpr ⟨h, h⟩, rfl, rfl⟩

end Logs

/-- A run leaves the running scripts as it found them, and its events account for all that happened
to them in between. The induction is on the steps of the run; it is the started script, run in
between by the induction hypothesis, that is on top when it is ended. -/
theorem Runs.logs {files : FileTree} {s after : Session} (run : Runs files s after) :
    after.running = s.running ∧ ∃ events, Logs s events after ∧ SoughtFirst files events := by
  induction run with
  | refl s => exact ⟨rfl, [], .refl s, soughtFirst_of_not_mem (by simp)⟩
  | trans _ _ ihFirst ihRest =>
      obtain ⟨hFirst, events, first, soughtFirst⟩ := ihFirst
      obtain ⟨hRest, more, rest, soughtRest⟩ := ihRest
      exact ⟨hRest.trans hFirst, events ++ more, first.trans rest, soughtFirst.append soughtRest⟩
  | note s event note =>
      refine ⟨rfl, [event], .note s event note, soughtFirst_of_not_mem fun key hMem => ?_⟩
      cases List.mem_singleton.mp hMem
      exact note
  | assign s name value =>
      exact ⟨rfl, [.assigned name value], ⟨Journal.toList_record .., ⟨trivial, trivial⟩, rfl, rfl⟩,
        soughtFirst_of_not_mem (by simp)⟩
  | stop s =>
      exact ⟨rfl, [.stopped], ⟨Journal.toList_record .., ⟨trivial, trivial⟩, rfl, rfl⟩,
        soughtFirst_of_not_mem (by simp)⟩
  | move s _ _ =>
      exact ⟨rfl, [], ⟨by simp, trivial, rfl, rfl⟩, soughtFirst_of_not_mem (by simp)⟩
  | @script s inner after target script known started _ ih =>
      obtain ⟨hBody, events, body, soughtBody⟩ := ih
      have hInner : inner.running = { s.running with keys := script.path :: s.running.keys } := by
        obtain ⟨_, _, rfl⟩ := enter_eq_ok_iff.mp started
        rfl
      have hTop : after.running.keys.head? = some script.path := by rw [hBody, hInner]; rfl
      have hLeave : (after.release script).running = s.running := by
        change after.running.leave = s.running
        rw [hBody, hInner]
        rfl
      have start : Logs s [.sought target, .entered script.path] inner :=
        (Logs.note s (.sought target) trivial).trans (.enter started)
      have soughtStart : SoughtFirst files [.sought target, .entered script.path] :=
        known ▸ soughtFirst_start target
      exact ⟨hLeave, _, (start.trans body).trans (.release hTop),
        (soughtStart.append soughtBody).append (soughtFirst_of_not_mem (by simp))⟩

theorem running_serve (files : FileTree) (call : Call) (s : Session) :
    (s.serve files call).running = s.running :=
  (runs_serve files call s).logs.1

end Session

namespace Host
open Session

/-- One action of a host: its events account for the running scripts, and these are still the ones
that it holds. -/
theorem logs_step {h : Host} (hHeld : h.session.running.keys = h.held.map ScriptReader.path)
    (action : Action) :
    (∃ events, Logs h.session events (h.step action).session) ∧
      (h.step action).session.running.keys = (h.step action).held.map ScriptReader.path := by
  cases action with
  | call call =>
      obtain ⟨hRunning, events, hLogs, _⟩ := (runs_serve h.files call h.session).logs
      exact ⟨⟨events, hLogs⟩, by simpa only [step, hRunning] using hHeld⟩
  | hold path =>
      unfold step
      cases hEnter : h.session.enter (h.files.key path) with
      | error failure =>
          simp only [ScriptReader.path_unread, hEnter]
          exact ⟨⟨[], .refl _⟩, hHeld⟩
      | ok session =>
          simp only [ScriptReader.path_unread, hEnter]
          have hLogs : Logs h.session _ session := .enter hEnter
          refine ⟨⟨_, hLogs⟩, ?_⟩
          rw [← hLogs.running, hHeld]
          rfl
  | release =>
      unfold step
      cases hFrames : h.held with
      | nil =>
          simp only [hFrames]
          exact ⟨⟨[], .refl _⟩, by rw [hHeld, hFrames]⟩
      | cons script held =>
          have hKeys : h.session.running.keys = script.path :: held.map ScriptReader.path := by
            rw [hHeld, hFrames, List.map_cons]
          have hTop : h.session.running.keys.head? = some script.path := by rw [hKeys]; rfl
          have hRest : h.session.running.keys.tail = held.map ScriptReader.path := by
            rw [hKeys, List.tail_cons]
          exact ⟨⟨_, .release hTop⟩, hRest⟩
  | ask path => exact ⟨⟨[], .refl _⟩, hHeld⟩
  | adjust vars directory stopping => exact ⟨⟨[], by simp [step], trivial, rfl, rfl⟩, hHeld⟩
  | changeFiles files => exact ⟨⟨[], .refl _⟩, hHeld⟩

theorem logs_run {h : Host} (hHeld : h.session.running.keys = h.held.map ScriptReader.path)
    (actions : List Action) :
    (∃ events, Logs h.session events (h.run actions).session) ∧
      (h.run actions).session.running.keys = (h.run actions).held.map ScriptReader.path := by
  induction actions generalizing h with
  | nil => exact ⟨⟨[], .refl _⟩, hHeld⟩
  | cons action actions ih =>
      obtain ⟨⟨events, hStep⟩, hNext⟩ := logs_step hHeld action
      obtain ⟨⟨more, hRest⟩, hEnd⟩ := ih hNext
      exact ⟨⟨events ++ more, hStep.trans hRest⟩, hEnd⟩

/-- What holds of a host at any time, if it began with the session `start` and no script was running
then. A moment in the middle of a run is a beginning of the events so far. -/
structure Balanced (start : Session) (h : Host) : Prop where
  held : h.session.running.keys = h.held.map ScriptReader.path
  limit : h.session.running.limit = start.running.limit
  moments : ∃ events, h.session.journal.toList = start.journal.toList ++ events ∧
    runningAfter [] events = h.session.running.keys ∧
    (∀ before, before <+: events → Distinct (runningAfter [] before) ∧
      (runningAfter [] before).length ≤ start.running.limit) ∧
    ∀ key popped, Event.left key popped ∈ events → popped = some key
  calls : ∀ call, (h.session.serve h.files call).running = h.session.running
  active : ∀ path, h.isRunning path = true ↔
    ∃ script ∈ h.held, Path.same (h.files.key path) script.path = true
  recursive : ∀ path, h.session.enter (h.files.key path) = .error (.recursive (h.files.key path)) ↔
    h.isRunning path = true
  tooDeep : ∀ path, h.session.enter (h.files.key path) =
      .error (.tooDeep (h.files.key path) h.session.running.limit) ↔
    h.isRunning path = false ∧ h.session.running.limit ≤ h.held.length
  admits : ∀ path, (∃ inner, h.session.enter (h.files.key path) = .ok inner) ↔
    h.isRunning path = false ∧ h.held.length < h.session.running.limit
  refusal : ∀ path failure, h.session.enter (h.files.key path) = .error failure →
    h.step (.hold path) = h

/-- Whatever a host does with a session, in any order and with any outcome, the scripts that are
running between its actions are the ones that it holds, in the order in which they were admitted. At
every moment in between they are distinct and within the limit, and whatever is ended is what is
taken off. A script is refused for being active first, and then for want of room. -/
theorem balanced_run {h : Host} (hNone : h.session.running.keys = []) (hHeld : h.held = [])
    (actions : List Action) : Balanced h.session (h.run actions) := by
  have hStart : h.session.running.keys = h.held.map ScriptReader.path := by rw [hNone, hHeld]; rfl
  obtain ⟨⟨events, hLogs⟩, hEnd⟩ := logs_run hStart actions
  have hOrderly : Orderly h.session.running.limit [] events := hNone ▸ hLogs.orderly
  have hDepth : (h.run actions).session.running.depth = (h.run actions).held.length := by
    rw [RunningScripts.depth, hEnd, List.length_map]
  refine ⟨hEnd, hLogs.limit, ⟨events, hLogs.journal, hNone ▸ hLogs.running, ?_, ?_⟩,
    fun call => running_serve _ call _, ?_, ?_, ?_, ?_, ?_⟩
  · rintro before ⟨rest, rfl⟩
    exact (orderly_append.mp hOrderly).1.keeps .nil (Nat.zero_le _)
  · intro key popped hMem
    exact hOrderly.popped_eq hMem
  · intro path
    rw [isRunning, RunningScripts.isRunning, hEnd]
    simp
  · intro path
    rw [enter_eq_error_iff, RunningScripts.enter_eq_recursive_iff]
    rfl
  · intro path
    rw [enter_eq_error_iff, RunningScripts.enter_eq_tooDeep_iff, hDepth]
    rfl
  · intro path
    simp only [enter_eq_ok_iff, hDepth]
    constructor
    · rintro ⟨_, hFresh, hRoom, _⟩
      exact ⟨hFresh, hRoom⟩
    · rintro ⟨hFresh, hRoom⟩
      exact ⟨_, hFresh, hRoom, rfl⟩
  · intro path failure hRefused
    simp only [step, ScriptReader.path_unread, hRefused]

/-- Two scripts that include each other. -/
def crossing : Host where
  files := ⟨[(["a"], .file "include b\n".toUTF8), (["b"], .file "include a\n".toUTF8)]⟩
  session := { directory := "/" }

theorem running_keys_held :
    (crossing.run [.hold "/a", .call (.script "b")]).session.running.keys = ["/a"] :=
  (balanced_run rfl rfl _).held.trans (by decide +kernel)

end Host

end ScriptShell
