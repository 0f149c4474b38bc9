import ScriptShell.Proofs.Session.Nesting
import Mathlib.Data.List.Find
/-!
A script is its statements. The lines of a script can be cut into chunks, each of them the least
number of lines whose text is not incomplete, and running the script is carrying out the text of one
chunk after another, as if each had been given as a single line. Whoever pulls the lines, and
whatever is run in between, no line is lost, doubled or moved to another chunk.
-/
namespace ScriptShell

/-- Whether a text is the beginning of a statement that needs further lines. -/
def isIncomplete (text : String) : Bool :=
  match tokens text with
  | .ok _ => false
  | .error fault => fault.isIncomplete

/-- The least number of lines, at least one, whose text is not incomplete. -/
def chunkSize? (lines : List String) : Option Nat :=
  (List.range' 1 lines.length).find? fun size => !isIncomplete (String.join (lines.take size))

theorem chunkSize?_eq_some {lines : List String} {size : Nat} (h : chunkSize? lines = some size) :
    1 ≤ size ∧ size ≤ lines.length := by
  have hMem := List.mem_of_find?_eq_some h
  rw [List.mem_range'_1] at hMem
  omega

namespace Session

/-- Carries out the lines of a script chunk by chunk, from the line numbered `line` on. Each chunk
is a statement that no further line is added to. Where there is no chunk, either no lines are left
or the rest of them is incomplete. -/
def runChunks (files : FileTree) (path : String) (line : Nat) (lines : List String) (s : Session) :
    Except ScriptFailure Unit × Session :=
  match _h : chunkSize? lines with
  | some size =>
    match s.execute files (String.join (lines.take size)) [] with
    | (.error (.script failure), s) => (.error failure, s)
    | (.error (.fault fault), s) =>
      let failure := ScriptFailure.stopped path line fault
      (.error failure, s.reportFailure failure)
    | (.ok _, s) =>
      if s.stopping then (.ok (), s)
      else runChunks files path (line + size) (lines.drop size) s
  | none =>
    match tokens (String.join lines) with
    | .ok _ => (.ok (), s)
    | .error fault =>
      let failure := ScriptFailure.stopped path line (.endOfInput fault)
      (.error failure, s.reportFailure failure)
termination_by lines.length
decreasing_by
  have hSize := chunkSize?_eq_some _h
  rw [List.length_drop]
  omega

end Session

/-- Whether every line but the last one has its newline. -/
def Ended : List String → Prop
  | [] => True
  | line :: rest => (rest ≠ [] → line.toList.getLast? = some '\n') ∧ Ended rest

theorem Ended.drop {lines : List String} (h : Ended lines) (count : Nat) :
    Ended (lines.drop count) := by
  induction count generalizing lines with
  | zero => exact h
  | succ count ih =>
      cases lines with
      | nil => exact h
      | cons line rest => exact ih h.2

theorem Ended.suffix {lines fewer : List String} (h : Ended lines) (hSuffix : fewer <:+ lines) :
    Ended fewer := by
  obtain ⟨before, rfl⟩ := hSuffix
  have hDrop := h.drop before.length
  rwa [List.drop_left] at hDrop

/-- A line that is joined to another one goes on where that ends. -/
theorem Ended.join {text line : String} {rest : List String} (h : Ended (text :: line :: rest)) :
    joinLine text line = text ++ line ∧ Ended ((text ++ line) :: rest) := by
  refine ⟨if_pos (h.1 (by simp)), fun hSome => ?_, h.2.2⟩
  rw [String.toList_append, List.getLast?_append, h.2.1 hSome]
  rfl

/-- The lines of a text are cut after newlines only. -/
theorem ended_lines (text : String) : Ended (Text.lines text) := by
  unfold Text.lines
  induction text.toList with
  | nil => trivial
  | cons c rest ih =>
      rw [Text.splitAfter]
      split
      · next hEnd =>
          have hNewline : c = '\n' := beq_iff_eq.mp hEnd
          exact ⟨fun _ => by simp [hNewline], ih⟩
      · cases hPieces : Text.splitAfter (· == '\n') rest with
        | nil => exact ⟨fun hSome => absurd rfl hSome, trivial⟩
        | cons piece more =>
            rw [hPieces] at ih
            refine ⟨fun hSome => ?_, ih.2⟩
            have hLast := ih.1 hSome
            simp only [String.toList_ofList] at hLast ⊢
            rw [List.getLast?_cons, hLast]
            rfl

theorem ended_scriptLines {files : FileTree} {path : String} {lines : List String}
    (h : scriptLines files path = .ok lines) : Ended lines := by
  unfold scriptLines at h
  split at h
  · cases h
  · split at h
    · cases h
    · cases h
      exact ended_lines _

section
variable {text : String} {more : List String}

theorem isIncomplete_eq_true (h : isIncomplete text = true) :
    ∃ fault, tokens text = .error fault ∧ fault.isIncomplete = true := by
  unfold isIncomplete at h
  cases hTokens : tokens text with
  | ok ts => rw [hTokens] at h; cases h
  | error fault => rw [hTokens] at h; exact ⟨fault, rfl, h⟩

/-- What is not incomplete is read as it is, whatever lines there are. -/
theorem readTokens_of_not_incomplete (h : isIncomplete text = false) (more : List String) :
    readTokens text more = ⟨(readTokens text []).result, 0⟩ := by
  unfold isIncomplete at h
  cases hTokens : tokens text with
  | ok ts => rw [readTokens_of_ok hTokens, readTokens_of_ok hTokens]
  | error fault =>
      rw [hTokens] at h
      rw [readTokens_of_complete hTokens h, readTokens_of_complete hTokens h]

theorem chunkSize?_of_not_incomplete (h : isIncomplete text = false) (rest : List String) :
    chunkSize? (text :: rest) = some 1 := by
  rw [chunkSize?, List.length_cons, List.range'_succ, List.find?_cons_of_pos]
  simpa [String.join_cons] using h

/-- If the first of two lines is incomplete, the chunk is the one that starts with both of them put
together. -/
theorem chunkSize?_of_incomplete (h : isIncomplete text = true) (line : String)
    (rest : List String) :
    chunkSize? (text :: line :: rest) = (chunkSize? ((text ++ line) :: rest)).map (· + 1) := by
  have hShift : List.range' 2 (rest.length + 1) =
      (List.range' 1 (rest.length + 1)).map (· + 1) := by
    have hMap := List.map_add_range' (a := 1) 1 (rest.length + 1) 1
    simpa only [Nat.add_comm] using hMap.symm
  rw [chunkSize?, List.length_cons, List.length_cons, List.range'_succ,
    List.find?_cons_of_neg (by simpa [String.join_cons] using h), hShift, List.find?_map,
    chunkSize?, List.length_cons]
  refine congrArg (Option.map (· + 1)) (List.find?_congr ?_)
  intro size hSize
  obtain ⟨size, rfl⟩ : ∃ fewer, size = fewer + 1 := by
    rw [List.mem_range'_1] at hSize
    exact ⟨size - 1, by omega⟩
  simp [String.join_cons, String.append_assoc]

/-- A statement takes the lines of one chunk, and is read from the text of the chunk. Where there is
no chunk it takes all the lines and is incomplete still. The induction is on the further lines. -/
theorem readTokens_eq_chunk (hEnded : Ended (text :: more)) :
    (∃ size, chunkSize? (text :: more) = some (size + 1) ∧
      readTokens text more =
        ⟨(readTokens (String.join ((text :: more).take (size + 1))) []).result, size⟩) ∨
    (chunkSize? (text :: more) = none ∧
      ∃ fault, tokens (String.join (text :: more)) = .error fault ∧
        readTokens text more = ⟨.error (.endOfInput fault), more.length⟩) := by
  induction more generalizing text with
  | nil =>
      cases hText : isIncomplete text with
      | false =>
          refine .inl ⟨0, chunkSize?_of_not_incomplete hText [], ?_⟩
          rw [readTokens_of_not_incomplete hText]
          simp [String.join_cons]
      | true =>
          obtain ⟨fault, hFault, hIncomplete⟩ := isIncomplete_eq_true hText
          refine .inr ⟨?_, fault, ?_, ?_⟩
          · simp [chunkSize?, String.join_cons, hText]
          · simpa [String.join_cons] using hFault
          · exact readTokens_nil_of_incomplete hFault hIncomplete
  | cons line rest ih =>
      cases hText : isIncomplete text with
      | false =>
          refine .inl ⟨0, chunkSize?_of_not_incomplete hText _, ?_⟩
          rw [readTokens_of_not_incomplete hText]
          simp [String.join_cons]
      | true =>
          obtain ⟨fault, hFault, hIncomplete⟩ := isIncomplete_eq_true hText
          obtain ⟨hJoin, hNext⟩ := hEnded.join
          rw [readTokens_cons_of_incomplete hFault hIncomplete, hJoin,
            chunkSize?_of_incomplete hText]
          rcases ih hNext with ⟨size, hSize, hRead⟩ | ⟨hNone, other, hOpen, hRead⟩
          · refine .inl ⟨size + 1, by rw [hSize]; rfl, ?_⟩
            rw [hRead]
            simp [String.join_cons, String.append_assoc]
          · refine .inr ⟨by rw [hNone]; rfl, other, ?_, ?_⟩
            · simpa [String.join_cons, String.append_assoc] using hOpen
            · rw [hRead, List.length_cons]

end

/-- A statement takes its further lines off those that remain. -/
theorem ScriptReader.remaining_readStatement (started : ScriptReader) (text : String) :
    (started.readStatement text).2.remaining =
      started.remaining.drop (ScriptShell.readTokens text started.remaining).taken := by
  obtain ⟨_, _, hLines, hDelivered⟩ := started.readTokens_eq text
  change (started.readTokens text).2.lines.drop (started.readTokens text).2.delivered = _
  rw [hLines, hDelivered, ← List.drop_drop]
  rfl

/-- The next statement of a script is the next chunk of its lines, or there is none. -/
theorem ScriptReader.readStatement_eq_chunk {script started : ScriptReader} {text : String}
    (hNext : script.next = (some text, started)) (hEnded : Ended script.remaining) :
    (∃ size, chunkSize? script.remaining = some size ∧
      (started.readStatement text).1 =
        (ScriptShell.readStatement (String.join (script.remaining.take size)) []).result ∧
      (started.readStatement text).2.path = script.path ∧
      (started.readStatement text).2.nextNumber = script.nextNumber + size ∧
      (started.readStatement text).2.remaining = script.remaining.drop size) ∨
    (chunkSize? script.remaining = none ∧
      ∃ fault, tokens (String.join script.remaining) = .error fault ∧
        (started.readStatement text).1 = .error (.endOfInput fault)) := by
  obtain ⟨hMore, hStartedPath, _, hStarted⟩ := next_eq_some hNext
  obtain ⟨hResult, hPath, hLines, hDelivered⟩ := started.readTokens_eq text
  have hBind : (started.readStatement text).1 = (started.readTokens text).1.bind commandsOf := rfl
  rw [hMore] at hEnded ⊢
  rcases readTokens_eq_chunk hEnded with ⟨size, hSize, hRead⟩ | ⟨hNone, fault, hFault, hRead⟩
  · rw [hRead] at hResult hDelivered
    refine .inl ⟨size + 1, hSize, ?_, hPath.trans hStartedPath, ?_, ?_⟩
    · rw [hBind, hResult]
      rfl
    · have hTaken : (started.readTokens text).2.delivered = started.delivered + size := hDelivered
      change (started.readTokens text).2.delivered + 1 = script.delivered + 1 + (size + 1)
      omega
    · rw [remaining_readStatement, hRead, List.drop_succ_cons]
  · rw [hRead] at hResult
    refine .inr ⟨hNone, fault, hFault, ?_⟩
    rw [hBind, hResult]
    rfl

namespace Session
variable {files : FileTree}

theorem runRest_of_end {runScript : ScriptRun} {script after : ScriptReader}
    (h : script.next = (none, after)) (s : Session) :
    runRest files runScript script s = (.ok (), s) := by
  rw [runRest]
  split
  · rfl
  · next hNext => rw [h] at hNext; cases hNext

theorem runRest_of_next {runScript : ScriptRun} {script started : ScriptReader} {text : String}
    (h : script.next = (some text, started)) (s : Session) :
    runRest files runScript script s =
      match s.runStatement files runScript (started.readStatement text).1 with
      | (.error (.script failure), s) => (.error failure, s)
      | (.error (.fault fault), s) =>
        (.error (.stopped script.path started.delivered fault),
          s.reportFailure (.stopped script.path started.delivered fault))
      | (.ok _, s) =>
        if s.stopping then (.ok (), s)
        else runRest files runScript (started.readStatement text).2 s := by
  rw [runRest]
  split
  · next hNone => rw [h] at hNone; cases hNone
  · next hNext =>
      rw [h] at hNext
      cases hNext
      rfl

theorem runChunks_of_chunk {lines : List String} {size : Nat} (h : chunkSize? lines = some size)
    (path : String) (line : Nat) (s : Session) :
    runChunks files path line lines s =
      match s.execute files (String.join (lines.take size)) [] with
      | (.error (.script failure), s) => (.error failure, s)
      | (.error (.fault fault), s) =>
        (.error (.stopped path line fault), s.reportFailure (.stopped path line fault))
      | (.ok _, s) =>
        if s.stopping then (.ok (), s)
        else runChunks files path (line + size) (lines.drop size) s := by
  rw [runChunks]
  split
  · next hSize =>
      rw [h] at hSize
      cases hSize
      rfl
  · next hNone => rw [h] at hNone; cases hNone

theorem runChunks_of_none {lines : List String} (h : chunkSize? lines = none) (path : String)
    (line : Nat) (s : Session) :
    runChunks files path line lines s =
      match tokens (String.join lines) with
      | .ok _ => (.ok (), s)
      | .error fault =>
        (.error (.stopped path line (.endOfInput fault)),
          s.reportFailure (.stopped path line (.endOfInput fault))) := by
  rw [runChunks]
  split
  · next hSize => rw [h] at hSize; cases hSize
  · rfl

theorem room_execute (files : FileTree) (line : String) (more : List String) (s : Session) :
    (s.execute files line more).2.running.room = s.running.room := by
  have hRunning : (s.execute files line more).2.running = s.running :=
    running_serve files (.statement line more) s
  rw [hRunning]

/-- Carrying out the rest of a script is carrying out the chunks of the lines that remain. The
induction is on these lines; it is because a statement leaves the running scripts as they were that
the chunks that follow find the same room for further scripts. -/
theorem runRest_eq_runChunks (files : FileTree) {room : Nat} {script : ScriptReader} {s : Session}
    (hRoom : s.running.room = room) (hEnded : Ended script.remaining) :
    runRest files (runIn files room) script s =
      runChunks files script.path script.nextNumber script.remaining s := by
  induction hCount : script.remaining.length using Nat.strongRecOn generalizing script s with
  | ind count ih =>
      cases hNext : script.next with
      | mk first started =>
          cases first with
          | none =>
              rw [runRest_of_end hNext, (ScriptReader.next_eq_none hNext).1, runChunks_of_none rfl]
              rfl
          | some text =>
              have hLine : started.delivered = script.nextNumber :=
                (ScriptReader.next_eq_some hNext).2.2.2
              rw [runRest_of_next hNext, hLine]
              rcases ScriptReader.readStatement_eq_chunk hNext hEnded with
                ⟨size, hSize, hRead, hPath, hNumber, hRest⟩ | ⟨hNone, fault, hFault, hRead⟩
              · have hExecute : s.runStatement files (runIn files room)
                    (started.readStatement text).1 =
                      s.execute files (String.join (script.remaining.take size)) [] := by
                  rw [hRead, ← hRoom]
                  rfl
                have hAfter := room_execute files (String.join (script.remaining.take size)) [] s
                rw [runChunks_of_chunk hSize, hExecute]
                generalize s.execute files _ [] = outcome at hAfter ⊢
                obtain ⟨result, after⟩ := outcome
                cases result with
                | error failure => cases failure <;> rfl
                | ok status =>
                    by_cases hStop : after.stopping = true
                    · simp only [if_pos hStop]
                    · have hFewer : (started.readStatement text).2.remaining.length < count := by
                        have hBounds := chunkSize?_eq_some hSize
                        rw [hRest, ← hCount, List.length_drop]
                        omega
                      simp only [if_neg hStop]
                      rw [ih _ hFewer (hAfter.trans hRoom) (hRest ▸ hEnded.drop size) rfl, hRest,
                        hNumber, hPath]
              · rw [runChunks_of_none hNone, hRead, hFault]
                rfl

/-- A script that is admitted and can be read runs as its statements do, one after another, each
from the text of its own lines alone: with the same outcome, the same events and the same session in
the end. A failed statement is reported with the number of its first line. -/
theorem runScript_eq_runChunks {s inner : Session} {path : String} {lines : List String}
    (hEnter : (s.record (.sought (s.resolve path))).enter (files.key (s.resolve path)) = .ok inner)
    (hLines : scriptLines files (files.key (s.resolve path)) = .ok lines) :
    s.runScript files path =
      let outcome := runChunks files (files.key (s.resolve path)) 1 lines inner
      (outcome.1, outcome.2.release (.unread (files.key (s.resolve path)))) := by
  obtain ⟨_, hDepth, hInner⟩ := enter_eq_ok_iff.mp hEnter
  obtain ⟨room, hRoom⟩ : ∃ room, s.running.room = room + 1 := by
    have hLess : s.running.depth < s.running.limit := hDepth
    exact ⟨s.running.room - 1, by rw [RunningScripts.room]; omega⟩
  have hInnerRoom : inner.running.room = room := by
    have hSame : inner.running.room = s.running.room - 1 := by
      rw [hInner]
      simp only [RunningScripts.room, RunningScripts.depth, record, List.length_cons]
      omega
    rw [hSame, hRoom, Nat.add_sub_cancel]
  let script := ScriptReader.unread (files.key (s.resolve path))
  have hEnded : Ended (script.withLines lines).remaining := ended_scriptLines hLines
  have hBody := runRest_eq_runChunks files hInnerRoom hEnded
  rw [runScript, hRoom, runIn, runWith]
  simp only [ScriptReader.path_unread, hEnter, runBody, hLines]
  rw [hBody]
  rfl

end Session

/-- A script with a quote over two lines, and another one with a line continuation. -/
def FileTree.chunked : FileTree :=
  ⟨[(["a"], .file "echo 'x\ny'\ninclude b\n".toUTF8),
    (["b"], .file "echo z \\\n w\nexit\necho never\n".toUTF8)]⟩

theorem Session.out_runScript_chunked :
    (({ directory := "/" } : Session).runScript .chunked "a").2.journal.out = "x\ny\nz w\n" := by
  have hTarget : ({ directory := "/" } : Session).resolve "a" = "/a" := by decide +kernel
  have hKey : FileTree.chunked.key "/a" = "/a" := by decide +kernel
  have hLines : scriptLines .chunked "/a" = .ok ["echo 'x\n", "y'\n", "include b\n"] := by rfl
  have hEnter : (({ directory := "/" } : Session).record (.sought "/a")).enter "/a" = .ok _ :=
    enter_eq_ok_iff.mpr ⟨rfl, by decide, rfl⟩
  rw [runScript_eq_runChunks (by rw [hTarget, hKey]; exact hEnter)
    (by rw [hTarget, hKey]; exact hLines), hTarget, hKey]
  decide +kernel

end ScriptShell
