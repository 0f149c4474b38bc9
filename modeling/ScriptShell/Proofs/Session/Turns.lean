import ScriptShell.Program
import ScriptShell.Proofs.Session.Exiting
import ScriptShell.Proofs.Session.Failing
/-!
What the prompt makes of a whole input. The lines are dealt out to statements, in turn: each
statement starts on the first line that is left and has just the lines that it takes, so that no
line is lost or read twice. What a statement leaves behind, failed or not, is where the next one
starts, until a statement tells the session to end or there are no more lines.
-/
namespace ScriptShell

def Reading.LacksLine {α : Type} (reading : Reading α) : Prop :=
  ∃ fault, reading.result = .error (.endOfInput fault)

theorem not_lacksLine_of_not_incomplete {text : String} (h : isIncomplete text = false)
    (more : List String) : ¬(readTokens text more).LacksLine := by
  rintro ⟨lacking, hLacks⟩
  unfold isIncomplete at h
  cases hTokens : tokens text with
  | ok ts =>
      rw [readTokens_of_ok hTokens] at hLacks
      cases hLacks
  | error fault =>
      rw [hTokens] at h
      rw [readTokens_of_complete hTokens h] at hLacks
      cases hLacks

/-- A statement takes lines off the head of those that follow it, and would read the same if there
were no others. Only where it has taken all of them can it lack a further one. -/
theorem exists_readTokens (text : String) (more : List String) :
    ∃ further unread, more = further ++ unread ∧
      readTokens text more = ⟨(readTokens text further).result, further.length⟩ ∧
      ((readTokens text more).LacksLine → unread = []) := by
  induction more generalizing text with
  | nil =>
      refine ⟨[], [], rfl, ?_, fun _ => rfl⟩
      rw [readTokens]
      cases tokens text <;> rfl
  | cons line more ih =>
      cases hText : isIncomplete text with
      | false =>
          refine ⟨[], line :: more, rfl, readTokens_of_not_incomplete hText _, fun hLacks => ?_⟩
          exact absurd hLacks (not_lacksLine_of_not_incomplete hText _)
      | true =>
          obtain ⟨fault, hFault, hIncomplete⟩ := isIncomplete_eq_true hText
          obtain ⟨further, unread, rfl, hRead, hLacks⟩ := ih (joinLine text line)
          refine ⟨line :: further, unread, rfl, ?_, ?_⟩
          · rw [readTokens_cons_of_incomplete hFault hIncomplete,
              readTokens_cons_of_incomplete hFault hIncomplete, hRead]
            rfl
          · rintro ⟨lacking, hLacking⟩
            rw [readTokens_cons_of_incomplete hFault hIncomplete] at hLacking
            exact hLacks ⟨lacking, hLacking⟩

theorem lacksLine_readStatement {text : String} {more : List String} :
    (readStatement text more).LacksLine ↔ (readTokens text more).LacksLine := by
  unfold Reading.LacksLine
  change (∃ fault, (readTokens text more).result.bind commandsOf = _) ↔ _
  cases (readTokens text more).result with
  | error fault => simp [Except.bind]
  | ok ts =>
      change (∃ fault, (commands ts).mapError Fault.command = _) ↔ _
      cases commands ts <;> simp [Except.mapError]

theorem exists_readStatement (text : String) (more : List String) :
    ∃ further unread, more = further ++ unread ∧
      readStatement text more = ⟨(readStatement text further).result, further.length⟩ ∧
      ((readStatement text more).LacksLine → unread = []) := by
  obtain ⟨further, unread, hMore, hRead, hLacks⟩ := exists_readTokens text more
  refine ⟨further, unread, hMore, ?_, fun h => hLacks (lacksLine_readStatement.mp h)⟩
  rw [readStatement, hRead]
  rfl

/-- The lines that are left once those are passed over that a statement asked for. -/
theorem drop_asked {text : String} {further unread : List String}
    (hRead : readStatement text (further ++ unread) =
      ⟨(readStatement text further).result, further.length⟩)
    (hLacks : (readStatement text (further ++ unread)).LacksLine → unread = []) :
    (further ++ unread).drop (readStatement text (further ++ unread)).asked = unread := by
  unfold Reading.asked
  split
  · next fault hFault =>
      cases hLacks ⟨fault, hFault⟩
      rw [hRead]
      simp
  · rw [hRead]
    simp

namespace InputLine

theorem readable_map_some (lines : List String) : readable (lines.map some) = lines := by
  induction lines with
  | nil => rfl
  | cons line more ih => simpa [readable] using ih

theorem exists_map_some {input : List InputLine} (h : none ∉ input) :
    ∃ lines : List String, input = lines.map some := by
  induction input with
  | nil => exact ⟨[], rfl⟩
  | cons line more ih =>
      obtain ⟨lines, rfl⟩ := ih (fun hMem => h (.tail _ hMem))
      cases line with
      | none => exact absurd (.head _) h
      | some line => exact ⟨line :: lines, rfl⟩

end InputLine

namespace Session

/-- A statement that the prompt carries out. -/
structure Turn where
  line : String
  /-- The further lines that the statement takes. -/
  further : List String
  /-- The session that carries it out. -/
  start : Session

namespace Turn

def lines (turn : Turn) : List String :=
  turn.line :: turn.further

def outcome (files : FileTree) (turn : Turn) : Outcome :=
  turn.start.execute files turn.line turn.further

/-- What the prompt leaves once it has seen to the outcome. -/
def after (files : FileTree) (turn : Turn) : Session :=
  turn.start.runTyped files (readStatement turn.line turn.further).result

end Turn

/-- The prompts that are shown for a statement and the further lines that it asks for. -/
def prompts (s : Session) (shown : Bool) (asked : Nat) : List String :=
  if shown then s.settings.prompt :: List.replicate asked continuationPrompt else []

/-- A turn of the session `s`, with the lines `unread` left after it. Its statement takes just the
further lines of the turn, and nothing but prompts comes before it. -/
structure Begins (s : Session) (shown : Bool) (turn : Turn) (unread : List String) : Prop where
  reading : readStatement turn.line (turn.further ++ unread) =
    ⟨(readStatement turn.line turn.further).result, turn.further.length⟩
  start : turn.start =
    (s.prompts shown (readStatement turn.line (turn.further ++ unread)).asked).foldl write s

/-- The session takes turns, each where the one before it has left off, as long as there are lines
and no turn tells it to end. The lines that it never reads are `unread`. -/
inductive TakesTurns (files : FileTree) (shown : Bool) (unread : List String) :
    Session → List Turn → InputEnd → Session → Prop
  | exhausted (none : unread = []) (s : Session) :
      TakesTurns files shown unread s [] .exhausted ((s.prompts shown 0).foldl write s)
  | stopped {s : Session} {turn : Turn} (begins : s.Begins shown turn unread)
      (stops : (turn.after files).stopping = true) :
      TakesTurns files shown unread s [turn] .stopped (turn.after files)
  | goesOn {s last : Session} {turn : Turn} {turns : List Turn} {ending : InputEnd}
      (begins : s.Begins shown turn (turns.flatMap Turn.lines ++ unread))
      (goesOn : (turn.after files).stopping = false)
      (rest : TakesTurns files shown unread (turn.after files) turns ending last) :
      TakesTurns files shown unread s (turn :: turns) ending last

variable {files : FileTree} {shown : Bool} {unread : List String} {s last : Session}
  {turns : List Turn} {ending : InputEnd}

theorem foldl_showPrompt (s : Session) (shown : Bool) (prompts : List String) :
    prompts.foldl (showPrompt · shown) s = (if shown then prompts else []).foldl write s := by
  cases shown with
  | true => rfl
  | false =>
      induction prompts with
      | nil => rfl
      | cons prompt prompts ih => exact ih

theorem asked_eq_foldl (s : Session) (shown : Bool) (line : String) (more : List InputLine) :
    s.asked shown line more =
      (s.prompts shown (readStatement line (InputLine.readable more)).asked).foldl write s := by
  unfold asked prompts
  rw [foldl_showPrompt]
  cases shown <;> rfl

theorem showPrompt_eq_foldl (s : Session) (shown : Bool) :
    s.showPrompt shown s.settings.prompt = (s.prompts shown 0).foldl write s := by
  cases shown <;> rfl

/-- Lines that were asked for are passed over, one by one. -/
theorem runInput_drop (skip : Nat) (lines : List InputLine) (s : Session) :
    runInput files shown skip lines s = runInput files shown 0 (lines.drop skip) s := by
  induction lines generalizing skip with
  | nil => rw [List.drop_nil, runInput, runInput]
  | cons line more ih =>
      cases skip with
      | zero => rfl
      | succ skip => rw [runInput, ih, List.drop_succ_cons]

/-- The statement on the first line of an input takes its turn. -/
theorem exists_turn (files : FileTree) (shown : Bool) (line : String) (more : List String)
    (s : Session) :
    ∃ turn unread, line :: more = turn.lines ++ unread ∧ s.Begins shown turn unread ∧
      runInput files shown 0 ((line :: more).map some) s =
        if (turn.after files).stopping then (.stopped, turn.after files)
        else runInput files shown 0 (unread.map some) (turn.after files) := by
  obtain ⟨further, unread, rfl, hRead, hLacks⟩ := exists_readStatement line more
  have hReadable := InputLine.readable_map_some (further ++ unread)
  let turn : Turn := ⟨line, further, s.asked shown line ((further ++ unread).map some)⟩
  have hAfter : s.afterTyped files shown line ((further ++ unread).map some) =
      turn.after files := by
    unfold afterTyped
    rw [hReadable, hRead]
    rfl
  refine ⟨turn, unread, rfl, ⟨hRead, ?_⟩, ?_⟩
  · have hStart := s.asked_eq_foldl shown line ((further ++ unread).map some)
    rwa [hReadable] at hStart
  · rw [List.map_cons, runInput_some, hAfter, hReadable, runInput_drop, ← List.map_drop,
      drop_asked hRead hLacks]

/-- Reading an input is taking turns. The induction is on the number of lines that are left. -/
theorem exists_takesTurns (files : FileTree) (shown : Bool) (lines : List String) (s : Session) :
    ∃ turns unread, lines = turns.flatMap Turn.lines ++ unread ∧
      TakesTurns files shown unread s turns (runInput files shown 0 (lines.map some) s).1
        (runInput files shown 0 (lines.map some) s).2 := by
  induction hLength : lines.length using Nat.strongRecOn generalizing lines s with
  | ind length ih =>
      subst hLength
      cases lines with
      | nil =>
          refine ⟨[], [], rfl, ?_⟩
          rw [List.map_nil, runInput, showPrompt_eq_foldl]
          exact .exhausted rfl s
      | cons line more =>
          obtain ⟨turn, left, hLines, begins, hRun⟩ := exists_turn files shown line more s
          rw [hRun]
          cases hStop : (turn.after files).stopping with
          | true => exact ⟨[turn], left, by simpa using hLines, .stopped begins hStop⟩
          | false =>
              have hFewer : left.length < (line :: more).length := by
                rw [hLines, List.length_append]
                exact Nat.lt_add_of_pos_left (Nat.succ_pos _)
              obtain ⟨turns, unread, rfl, rest⟩ := ih _ hFewer left (turn.after files) rfl
              refine ⟨turn :: turns, unread, ?_, .goesOn begins hStop rest⟩
              rw [hLines, List.flatMap_cons, List.append_assoc]

/-- What the prompt adds to the outcome of a turn. It reports a fault, once, and nothing else: the
failure of a script has been reported where that script failed, and there only. After neither does
the session end. -/
def Turn.Told (files : FileTree) (turn : Turn) : Prop :=
  match turn.outcome files with
  | (.ok _, s) => turn.after files = s ∧ Without Event.IsFailure turn.start s
  | (.error (.fault fault), s) =>
    turn.after files = s.report fault.message ∧ s.stopping = false ∧
      Without Event.IsFailure turn.start s
  | (.error (.script failure), s) =>
    turn.after files = s ∧ s.stopping = false ∧ ∃ scripts a m own moment,
      Reaches files (.statement turn.line turn.further) turn.start scripts a m ∧
        Breaks files a m own failure moment ∧ ReportedOnce files turn.start a m failure moment s

/-- What fails does not end the session. -/
theorem stopping_of_failed {a : Activity} {failure : Failure} {after : Session}
    (hGoing : s.stopping = false) (outcome : carryOut files a s = (.error failure, after)) :
    after.stopping = false := by
  by_contra hStop
  have hStops : (carryOut files a s).2.stopping = true := by
    rw [outcome]
    exact Bool.eq_true_of_not_eq_false hStop
  obtain ⟨scripts, b, m, reaches, exits⟩ := exists_exits hGoing hStops
  have hOk := (reaches.exits exits).1
  rw [outcome] at hOk
  cases hOk

theorem Turn.told (files : FileTree) {turn : Turn} (hGoing : turn.start.stopping = false) :
    turn.Told files := by
  have hOutcome : turn.outcome files =
      carryOut files (.statement turn.line turn.further) turn.start := rfl
  unfold Told after
  rw [runTyped_eq, hOutcome]
  generalize hCarried : carryOut files (.statement turn.line turn.further) turn.start = carried
  obtain ⟨result, after⟩ := carried
  cases result with
  | ok status => exact ⟨rfl, without_of_outcome hCarried nofun⟩
  | error failure =>
      have hGoes := stopping_of_failed hGoing hCarried
      cases failure with
      | fault fault => exact ⟨rfl, hGoes, without_of_outcome hCarried nofun⟩
      | script failure =>
          obtain ⟨scripts, a, m, own, moment, reaches, breaks⟩ :=
            exists_breaks (congrArg Prod.fst hCarried)
          have hFailed := hCarried.symm.trans (reaches.fails breaks)
          cases hFailed
          exact ⟨rfl, hGoes, scripts, a, m, own, moment, reaches, breaks,
            reaches.reportedOnce nofun breaks⟩

theorem stopping_foldl_write (prompts : List String) (s : Session) :
    (prompts.foldl write s).stopping = s.stopping := by
  induction prompts generalizing s with
  | nil => rfl
  | cons prompt prompts ih => exact ih (s.write prompt)

theorem Begins.stopping {turn : Turn} (begins : s.Begins shown turn unread)
    (hGoing : s.stopping = false) : turn.start.stopping = false := by
  rw [begins.start, stopping_foldl_write, hGoing]

namespace TakesTurns

theorem told (takes : TakesTurns files shown unread s turns ending last)
    (hGoing : s.stopping = false) : ∀ turn ∈ turns, turn.Told files := by
  induction takes with
  | exhausted => nofun
  | stopped begins =>
      intro turn hMem
      rw [List.mem_singleton.mp hMem]
      exact Turn.told files (begins.stopping hGoing)
  | goesOn begins goesOn _ ih =>
      intro turn hMem
      rcases List.mem_cons.mp hMem with rfl | hMem
      · exact Turn.told files (begins.stopping hGoing)
      · exact ih goesOn turn hMem

/-- The session ends after the first turn that tells it to, or else with the last line. -/
theorem ends (takes : TakesTurns files shown unread s turns ending last) :
    (ending = .exhausted ∧ unread = [] ∧ ∀ turn ∈ turns, (turn.after files).stopping = false) ∨
      (ending = .stopped ∧ ∃ earlier turn, turns = earlier ++ [turn] ∧
        (∀ t ∈ earlier, (t.after files).stopping = false) ∧ last = turn.after files ∧
        last.stopping = true) := by
  induction takes with
  | exhausted none => exact .inl ⟨rfl, none, nofun⟩
  | @stopped _ turn _ stops => exact .inr ⟨rfl, [], turn, rfl, nofun, rfl, stops⟩
  | @goesOn _ _ first _ _ _ goesOn _ ih =>
      rcases ih with ⟨hEnding, hUnread, hTurns⟩ | ⟨hEnding, earlier, turn, rfl, hTurns, hLast⟩
      · exact .inl ⟨hEnding, hUnread, List.forall_mem_cons.mpr ⟨goesOn, hTurns⟩⟩
      · exact .inr ⟨hEnding, first :: earlier, turn, rfl,
          List.forall_mem_cons.mpr ⟨goesOn, hTurns⟩, hLast⟩

end TakesTurns

/-- A session at the prompt, seen as a whole. An input of text is dealt out to statements, each line
once and in order: a statement starts on the first line that is left, takes just the further lines
that it needs, and starts from what the one before it left behind. The prompt reports the fault of a
statement once and a failed script not again, and goes on after both. It ends well, with the first
statement that tells the session to end, or else with the input. -/
theorem runPrompt_takesTurns (files : FileTree) {input : List InputLine} (hText : none ∉ input)
    {s : Session} (hGoing : s.stopping = false) :
    (∀ shown, ∃ turns unread,
      input = (turns.flatMap Turn.lines ++ unread).map some ∧
        TakesTurns files shown unread s turns (s.runPrompt files shown input).1
          (s.runPrompt files shown input).2 ∧
        (∀ turn ∈ turns, turn.Told files) ∧
        ((s.runPrompt files shown input).1 = .exhausted ∧ unread = [] ∧
            (∀ turn ∈ turns, (turn.after files).stopping = false) ∨
          (s.runPrompt files shown input).1 = .stopped ∧ ∃ earlier turn,
            turns = earlier ++ [turn] ∧ (∀ t ∈ earlier, (t.after files).stopping = false) ∧
            (s.runPrompt files shown input).2 = turn.after files ∧
            (s.runPrompt files shown input).2.stopping = true)) ∧
      (Program.runInput files input s).1.code = 0 := by
  obtain ⟨lines, rfl⟩ := InputLine.exists_map_some hText
  have hPrompt : ∀ shown, s.runPrompt files shown (lines.map some) =
      runInput files shown 0 (lines.map some) s := fun shown => if_neg (by simp [hGoing])
  have hTurns : ∀ shown, ∃ turns unread, lines = turns.flatMap Turn.lines ++ unread ∧
      TakesTurns files shown unread s turns (s.runPrompt files shown (lines.map some)).1
        (s.runPrompt files shown (lines.map some)).2 := by
    intro shown
    rw [hPrompt]
    exact exists_takesTurns files shown lines s
  refine ⟨fun shown => ?_, ?_⟩
  · obtain ⟨turns, unread, hLines, takes⟩ := hTurns shown
    exact ⟨turns, unread, congrArg _ hLines, takes, takes.told hGoing, takes.ends⟩
  · obtain ⟨turns, unread, _, takes⟩ := hTurns (Program.showsPrompt s.vars)
    unfold Program.runInput
    generalize s.runPrompt files (Program.showsPrompt s.vars) (lines.map some) = outcome at takes
    obtain ⟨ending, last⟩ := outcome
    rcases takes.ends with ⟨rfl, _⟩ | ⟨rfl, _⟩ <;> rfl

/-- A statement over two lines, two that fail, one that ends the session and one that is late. -/
def chat : List String :=
  ["echo 'a", "b'", "oops", "include s", "exit", "echo late"]

theorem runInput_chat :
    let files : FileTree := ⟨[(["s"], .file "oops\n".toUTF8)]⟩
    (∃ earlier turn unread, chat = (earlier ++ [turn]).flatMap Turn.lines ++ unread ∧
      (∀ t ∈ earlier ++ [turn], t.Told files) ∧ (turn.after files).stopping = true) ∧
      (Program.runInput files (chat.map some) { directory := "/" }).1 =
        { code := 0, out := "a\nb\n",
          err := "command not found: oops\ninclude: /s, line 1: command not found: oops\n" } := by
  intro files
  refine ⟨?_, by decide +kernel⟩
  have hText : none ∉ chat.map some := by decide
  obtain ⟨turns, unread, hInput, _, hTold, hEnds⟩ :=
    (runPrompt_takesTurns files hText (s := { directory := "/" }) rfl).1 false
  rcases hEnds with ⟨hEnding, _⟩ | ⟨_, earlier, turn, rfl, _, hLast, hStop⟩
  · exact absurd hEnding (by decide +kernel)
  · refine ⟨earlier, turn, unread, ?_, hTold, hLast ▸ hStop⟩
    exact (List.map_inj_right fun _ _ => Option.some.inj).mp hInput

end Session

end ScriptShell
