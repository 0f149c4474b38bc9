import ScriptShell.Proofs.FileTree.Shape
import ScriptShell.Proofs.Script.Loading
import ScriptShell.Proofs.Session.Agreement
import ScriptShell.Proofs.Statement.LineEnds
/-!
Scripts whose lines end with a carriage return and a newline. Where the newlines of a script do no
more than to end its lines, the script may be written in either way: each of its statements takes
the same lines and is read in the same way, so every run that comes to the script goes on as before,
with the same line numbers in its failures.
-/
namespace ScriptShell

open Text

/-- The script with a carriage return before the newline of every line. -/
def ScriptReader.withReturns (r : ScriptReader) : ScriptReader :=
  { r with
    lines := r.lines.map Text.withReturns
    delivered_le := by simpa using r.delivered_le }

namespace ScriptReader
variable {r started : ScriptReader} {text : String}

theorem remaining_withReturns (r : ScriptReader) :
    r.withReturns.remaining = r.remaining.map Text.withReturns :=
  List.map_drop.symm

theorem next_withReturns (h : r.next = (some text, started)) :
    r.withReturns.next = (some (Text.withReturns text), started.withReturns) := by
  unfold next at h
  split at h
  · next hMore =>
      cases h
      have hOther : r.withReturns.delivered < r.withReturns.lines.length := by
        simpa [withReturns] using hMore
      rw [next, dif_pos hOther]
      simp [withReturns]
  · cases h

theorem next_withReturns_of_none {after : ScriptReader} (h : r.next = (none, after)) :
    r.withReturns.next = (none, r.withReturns) := by
  have hEnd : ¬r.withReturns.delivered < r.withReturns.lines.length := by
    unfold next at h
    split at h
    · cases h
    · next hEnd => simpa [withReturns] using hEnd
  rw [next, dif_neg hEnd]

/-- A statement that keeps its lines is read in the same way, and the same lines remain after it. -/
theorem readStatement_withReturns (hEnded : Ended (text :: started.remaining))
    (h : KeepsLines (statementText text started.remaining)) :
    started.withReturns.readStatement (Text.withReturns text) =
      ((started.readStatement text).1, (started.readStatement text).2.withReturns) := by
  obtain ⟨hResult, hPath, hLines, hDelivered⟩ := started.readTokens_eq text
  obtain ⟨hOther, hOtherPath, hOtherLines, hOtherDelivered⟩ :=
    started.withReturns.readTokens_eq (Text.withReturns text)
  have hTokens := readTokens_withReturns hEnded h
  rw [remaining_withReturns, hTokens] at hOther hOtherDelivered
  have hAfter : (started.withReturns.readTokens (Text.withReturns text)).2 =
      (started.readTokens text).2.withReturns := by
    refine eq_of_fields (hOtherPath.trans hPath.symm) ?_ (hOtherDelivered.trans hDelivered.symm)
    exact hOtherLines.trans (congrArg (List.map Text.withReturns) hLines.symm)
  change ((started.withReturns.readTokens (Text.withReturns text)).1.bind commandsOf,
    (started.withReturns.readTokens (Text.withReturns text)).2) =
      ((started.readTokens text).1.bind commandsOf, (started.readTokens text).2.withReturns)
  rw [hAfter, hOther, hResult]

end ScriptReader

namespace Session

/-- From the rest of a script on, statements were carried out, and the last rest remains. -/
inductive Continues (files : FileTree) : ScriptReader → Session → ScriptReader → Session → Prop
  | refl (script : ScriptReader) (s : Session) : Continues files script s script s
  | head {script next last : ScriptReader} {s m n : Session}
      (first : Invokes files (.rest script) s [] (.rest next) m)
      (rest : Continues files next m last n) : Continues files script s last n

/-- Whether the statements that a session comes to in the rest of a script keep their lines. -/
def KeepsLinesIn (files : FileTree) (script : ScriptReader) (s : Session) : Prop :=
  ∀ last m, Continues files script s last m → NextKeepsLines last.remaining

/-- It is enough that all the statements keep their lines, be they carried out or not. -/
theorem keepsLinesIn_of_all {files : FileTree} {script : ScriptReader} {s : Session} {count : Nat}
    (hCount : script.remaining.length ≤ count)
    (h : allKeepLines count script.remaining = true) : KeepsLinesIn files script s := by
  intro last m hContinues
  generalize hScript : script.remaining = lines at hCount h
  induction hContinues generalizing count lines with
  | refl =>
      subst hScript
      exact nextKeepsLines_of_all hCount h
  | head first _ ih =>
      cases first with
      | @goOn _ started text _ _ _ next =>
          subst hScript
          rw [(ScriptReader.next_eq_some next).1] at hCount h
          cases count with
          | zero => cases hCount
          | succ count =>
              rw [allKeepLines, Bool.and_eq_true] at h
              refine @ih count _ (started.remaining_readStatement text) ?_ h.2
              rw [List.length_drop]
              exact (Nat.sub_le ..).trans (Nat.le_of_succ_le_succ hCount)

end Session

namespace FileTree

/-- Whether the statements of a text keep their lines when a session runs it as a script, whatever
session it is. -/
def RunsByLines (files : FileTree) (text : String) : Prop :=
  ∀ path s, Session.KeepsLinesIn files ((ScriptReader.unread path).withLines (lines text)) s

theorem runsByLines_of_all (files : FileTree) {text : String}
    (h : allKeepLines (lines text).length (lines text) = true) : files.RunsByLines text :=
  fun _ _ => Session.keepsLinesIn_of_all (Nat.le_refl _) h

/-- Whether the second tree is the first one with carriage returns before the newlines of some of
its files, where these do no more than to end lines. -/
def Returned (files other : FileTree) : Prop :=
  ∀ loc, other.entry? loc = files.entry? loc ∨
    ∃ text, files.RunsByLines text ∧ files.entry? loc = some (.file text.toUTF8) ∧
      other.entry? loc = some (.file (Text.withReturns text).toUTF8)

theorem Returned.sameShape {files other : FileTree} (h : Returned files other) :
    SameShape files other := by
  intro loc
  rcases h loc with hSame | ⟨text, _, hFile, hOther⟩
  · exact .inl hSame
  · exact .inr ⟨_, _, hFile, hOther⟩

/-- A script of the second tree has the lines of the first one, or the same with carriage
returns. -/
theorem Returned.scriptLines {files other : FileTree} (h : Returned files other) (path : String) :
    scriptLines other path = scriptLines files path ∨
      ∃ text, files.RunsByLines text ∧ scriptLines files path = .ok (lines text) ∧
        scriptLines other path = .ok ((lines text).map Text.withReturns) := by
  rcases h.sameShape.read path with hSame | ⟨loc, hLocate, hDiffers⟩
  · exact .inl (by rw [ScriptShell.scriptLines, hSame]; rfl)
  · rcases h loc with hSame | ⟨text, hRuns, hFile, hOther⟩
    · exact absurd hSame hDiffers
    · have hRead := read_of_file hLocate hFile
      have hOtherRead := read_of_file ((h.sameShape.locate .direct path).trans hLocate) hOther
      refine .inr ⟨text, hRuns, ?_, ?_⟩
      · exact scriptLines_of_text hRead
      · rw [scriptLines_of_text hOtherRead, lines_withReturns]

end FileTree

namespace Session
variable {files other : FileTree} {s : Session}

theorem changeDirectory_sameShape (h : files.SameShape other) (target : Option String)
    (s : Session) : s.changeDirectory other target = s.changeDirectory files target := by
  simp only [changeDirectory, h.place, h.isDirectory]

theorem call_sameShape (h : files.SameShape other) (runScript : ScriptRun) (name : String)
    (arguments : List String) (s : Session) :
    s.call other runScript name arguments = s.call files runScript name arguments := by
  have hPerform : ∀ (command : StandardCommand) (given : Arguments) (s : Session),
      s.perform other runScript command given = s.perform files runScript command given := by
    intro command given s
    cases command with
    | cd => simp only [perform, changeDirectory_sameShape h]
    | _ => rfl
  simp only [call, hPerform]

/-- What the second tree has in place of an activity: the same, or the rest of a script with
carriage returns. -/
inductive Mirrors (files : FileTree) (s : Session) : Activity → Activity → Prop
  | same (a : Activity) : Mirrors files s a a
  | returned {script : ScriptReader} (ended : Ended script.remaining)
      (keeps : KeepsLinesIn files script s) :
      Mirrors files s (.rest script) (.rest script.withReturns)

/-- Whether all that an activity asks for comes to the same with the second tree. -/
def AsksSame (files other : FileTree) (a : Activity) (s : Session) : Prop :=
  ∀ scripts b m, Invokes files a s scripts b m → ∀ c, Mirrors files m b c →
    carryOut other c m = carryOut files b m

/-- What files hold matters to no activity but a script. -/
theorem carryOutBy_sameShape (h : files.SameShape other) (run : Activity → Session → Outcome)
    {a : Activity} (hScript : ∀ path, a ≠ .script path) (s : Session) :
    carryOutBy other run a s = carryOutBy files run a s := by
  cases a with
  | statement text more => rfl
  | commands status commands => cases commands <;> rfl
  | call name arguments => simp only [carryOutBy, call_sameShape h]
  | script path => exact absurd rfl (hScript path)
  | rest script => rfl

theorem same_carryOut {a : Activity} (h : files.SameShape other)
    (hScript : ∀ path, a ≠ .script path) (ih : AsksSame files other a s) :
    carryOut other a s = carryOut files a s := by
  have hAsks : ∀ scripts b m, Invokes files a s scripts b m →
      carryOut other b m = carryOut files b m :=
    fun scripts b m asks => ih scripts b m asks b (.same b)
  rw [carryOut_eq, carryOutBy_sameShape h _ hScript, carryOutBy_congr hAsks, ← carryOut_eq]

/-- A script is known by the same spelling in both trees, and is refused by both or by none. -/
theorem same_script {path : String} (h : files.Returned other)
    (ih : AsksSame files other (.script path) s) :
    carryOut other (.script path) s = carryOut files (.script path) s := by
  have hKey := h.sameShape.key (s.resolve path)
  cases hStart : (s.record (.sought (s.resolve path))).enter (files.key (s.resolve path)) with
  | error failure =>
      have hOther := hStart
      rw [← hKey] at hOther
      rw [carryOut_of_refused hStart, carryOut_of_refused hOther]
  | ok inner =>
      have hOther := hStart
      rw [← hKey] at hOther
      rcases h.scriptLines (files.key (s.resolve path)) with
        hSame | ⟨text, hRuns, hLines, hOtherLines⟩
      · cases hLines : scriptLines files (files.key (s.resolve path)) with
        | error failure =>
            rw [hLines, ← hKey] at hSame
            rw [carryOut_of_unloadable hStart hLines, carryOut_of_unloadable hOther hSame, hKey]
        | ok lines =>
            rw [hLines, ← hKey] at hSame
            rw [carryOut_of_start hStart hLines, carryOut_of_start hOther hSame, hKey,
              ih _ _ _ (.start rfl hStart hLines) _ (.same _)]
      · rw [← hKey] at hOtherLines
        rw [carryOut_of_start hStart hLines, carryOut_of_start hOther hOtherLines, hKey]
        exact congrArg (Outcome.release _) (ih _ _ _ (.start rfl hStart hLines) _
          (.returned (ended_lines text) (hRuns _ inner)))

/-- The rest of a script with carriage returns comes to the same: its statements are the same, and
so are the numbers of the lines on which they start. -/
theorem returned_rest {script : ScriptReader} (ended : Ended script.remaining)
    (keeps : KeepsLinesIn files script s) (ih : AsksSame files other (.rest script) s) :
    carryOut other (.rest script.withReturns) s = carryOut files (.rest script) s := by
  cases hNext : script.next with
  | mk first started =>
      cases first with
      | none =>
          rw [carryOut_eq, carryOut_eq files]
          simp only [carryOutBy, hNext, ScriptReader.next_withReturns_of_none hNext]
      | some text =>
          have hMore := (ScriptReader.next_eq_some hNext).1
          have hKeeps := keeps _ _ (.refl ..)
          rw [hMore] at ended hKeeps
          have hRead := ScriptReader.readStatement_withReturns ended hKeeps
          have hStatement : carryOut other
              (.statement (Text.withReturns text) started.withReturns.remaining) s =
                carryOut files (.statement text started.remaining) s := by
            rw [← ih _ _ _ (.line hNext) _ (.same _)]
            simp only [carryOut, execute, readStatement, ScriptReader.remaining_withReturns,
              readTokens_withReturns ended hKeeps]
          rw [carryOut_rest_of_next other (ScriptReader.next_withReturns hNext),
            carryOut_rest_of_next files hNext, hStatement, hRead]
          refine Outcome.andThen_congr fun status m hDone goesOn => ?_
          obtain ⟨own, hOwn⟩ := Outcome.inScript_eq_ok hDone
          have hGoOn := Invokes.goOn hNext hOwn goesOn
          refine ih _ _ _ hGoOn _ (.returned ?_ ?_)
          · rw [started.remaining_readStatement]
            exact ended.2.drop _
          · exact fun last n hRest => keeps last n (.head hGoOn hRest)

theorem carryOut_mirrors (h : files.Returned other) {a b : Activity}
    (hMirrors : Mirrors files s a b) : carryOut other b s = carryOut files a s := by
  induction a, s using carryOut_induction files generalizing b with
  | step a s ih =>
      have hAsks : AsksSame files other a s := fun scripts b m asks c => ih scripts b m asks
      cases hMirrors with
      | same =>
          cases a with
          | script path => exact same_script h hAsks
          | _ => exact same_carryOut h.sameShape (by simp) hAsks
      | returned ended keeps => exact returned_rest ended keeps hAsks

/-- A tree and the same one with carriage returns before the newlines of some files, where these do
no more than to end lines, cannot be told apart by a session: every line, script and call comes to
the same, with the same result, the same events and the same session in the end. -/
theorem runs_by_lines (h : files.Returned other) (s : Session) :
    (∀ line more, s.execute other line more = s.execute files line more) ∧
      (∀ path, s.runScript other path = s.runScript files path) ∧
        ∀ name arguments, s.invoke other name arguments = s.invoke files name arguments :=
  ⟨fun line more => carryOut_mirrors h (.same (.statement line more)),
    fun path => Outcome.ofScript_injective (carryOut_mirrors h (.same (.script path))),
    fun name arguments => carryOut_mirrors h (.same (.call name arguments))⟩

end Session

/-- A tree of two scripts. -/
def FileTree.ofScripts (first second : String) : FileTree :=
  ⟨[(["a"], .file first.toUTF8), (["b"], .file second.toUTF8)]⟩

theorem FileTree.returned_ofScripts {first second : String}
    (hFirst : allKeepLines (lines first).length (lines first) = true)
    (hSecond : allKeepLines (lines second).length (lines second) = true) :
    (ofScripts first second).Returned
      (ofScripts (Text.withReturns first) (Text.withReturns second)) := by
  intro loc
  by_cases hLoc : loc = ["a"]
  · subst hLoc
    exact .inr ⟨first, runsByLines_of_all _ hFirst, rfl, rfl⟩
  · by_cases hOther : loc = ["b"]
    · subst hOther
      exact .inr ⟨second, runsByLines_of_all _ hSecond, rfl, rfl⟩
    · left
      have hNotFirst : (loc == ["a"]) = false := beq_eq_false_iff_ne.mpr hLoc
      have hNotSecond : (loc == ["b"]) = false := beq_eq_false_iff_ne.mpr hOther
      cases loc with
      | nil => rfl
      | cons name dir =>
          simp only [ofScripts, entry?, List.lookup_cons, hNotFirst, hNotSecond]

/-- A script with line continuations, outside and inside quotes, a comment and a lone dollar
sign. -/
def continuing : String :=
  "echo x \\\n $ # it's\nA=\"p\\\nq\"\ninclude b\n"

/-- Another one, with an empty line and a call of what there is not. -/
def failing : String :=
  "echo $A\n\nfetch\n"

/-- The scripts run as they do with carriage returns, and what cannot be carried out is reported
with the same line. -/
theorem Session.err_returned :
    (FileTree.ofScripts continuing failing).Returned
        (.ofScripts (Text.withReturns continuing) (Text.withReturns failing)) ∧
      ({ directory := "/" } : Session).runScript
          (.ofScripts (Text.withReturns continuing) (Text.withReturns failing)) "a" =
        ({ directory := "/" } : Session).runScript (.ofScripts continuing failing) "a" ∧
      (({ directory := "/" } : Session).runScript
          (.ofScripts continuing failing) "a").2.journal.out = "x $\npq\n" ∧
      (({ directory := "/" } : Session).runScript
          (.ofScripts continuing failing) "a").2.journal.err =
        "include: /b, line 3: command not found: fetch\n" := by
  have hReturned : (FileTree.ofScripts continuing failing).Returned
      (.ofScripts (Text.withReturns continuing) (Text.withReturns failing)) :=
    FileTree.returned_ofScripts (by decide +kernel) (by decide +kernel)
  exact ⟨hReturned, (runs_by_lines hReturned { directory := "/" }).2.1 "a", by decide +kernel,
    by decide +kernel⟩

end ScriptShell
