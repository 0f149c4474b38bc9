import ScriptShell.Execution
import ScriptShell.Proofs.Statement.Normal
/-!
Arbitrary text in a statement. Between single quotes every text is taken as it is, so a call whose
name and arguments are written so is that call: the statement does what calling the command directly
does, whatever characters there are in the texts.
-/
namespace ScriptShell

open Grammar

/-- The statement that calls a command with some arguments, all of them and its name in single
quotes. -/
def quotedCall (name : String) (arguments : List String) : String :=
  singleQuoted name ++ String.join (arguments.map fun argument => " " ++ singleQuoted argument)

/-- The word that a text in quotes makes. -/
def textWord (text : String) : Word :=
  literalOf text.toList

theorem normalWord_textWord (text : String) : NormalWord (textWord text) := by
  rw [textWord, ← wordOf_chars]
  exact normalWord_wordOf (by simp)

theorem written_textWord (text : String) :
    Token.written (.word (textWord text)) = singleQuoted text := by
  unfold textWord literalOf
  split
  · next hEmpty =>
      rw [String.toList_eq_nil_iff.mp hEmpty]
      rfl
  · simp [Token.written, Part.written, String.join_cons]

theorem quotedCall_eq_written (name : String) (arguments : List String) :
    quotedCall name arguments =
      written ((name :: arguments).map fun text => .word (textWord text)) := by
  rw [List.map_cons, written_cons, written_textWord, List.map_map, quotedCall]
  simp only [Function.comp_def, written_textWord]

theorem tokens_quotedCall (name : String) (arguments : List String) :
    tokens (quotedCall name arguments) =
      .ok ((name :: arguments).map fun text => .word (textWord text)) := by
  rw [quotedCall_eq_written]
  apply tokens_written
  intro word hMem
  obtain ⟨text, _, hWord⟩ := List.mem_map.mp hMem
  cases hWord
  exact normalWord_textWord text

theorem wordRuns_words (words : List Word) : wordRuns (words.map .word) = [words] := by
  induction words with
  | nil => rfl
  | cons word words ih => rw [List.map_cons, wordRuns, ih]

/-- Words without a separator make one command. -/
theorem commands_words (word : Word) (words : List Word) :
    commands ((word :: words).map .word) = .ok [Command.ofWords (word :: words)] := by
  rw [commands, wordRuns_words]
  rfl

/-- An assignment is split at its first equals sign: a name holds none. -/
theorem splitAssignment?_eq_some_iff {text name value : List Char} :
    splitAssignment? text = some (name, value) ↔
      isName name = true ∧ text = name ++ '=' :: value := by
  constructor
  · intro h
    unfold splitAssignment? at h
    have hSplit := List.takeWhile_append_dropWhile (p := (· != '=')) (l := text)
    have hHead := List.head?_dropWhile_not (· != '=') text
    cases hDrop : text.dropWhile (· != '=') with
    | nil => simp [hDrop] at h
    | cons c rest =>
        rw [hDrop] at hSplit hHead
        have hSign : c = '=' := by simpa using hHead
        subst hSign
        simp only [hDrop] at h
        split at h
        · next hName =>
            cases h
            exact ⟨hName, hSplit.symm⟩
        · cases h
  · rintro ⟨hName, rfl⟩
    have hNone : ∀ c ∈ name, (c != '=') = true := by
      intro c hMem
      have hChar := Scan.isNameChar_of_mem hName c hMem
      rw [bne_iff_ne]
      rintro rfl
      revert hChar
      decide
    have hTake : (name ++ '=' :: value).takeWhile (· != '=') = name := by
      rw [List.takeWhile_append_of_pos hNone]
      simp
    have hDrop : (name ++ '=' :: value).dropWhile (· != '=') = '=' :: value := by
      rw [List.dropWhile_append_of_pos hNone]
      simp
    simp only [splitAssignment?, hTake, hDrop, hName, if_true]

/-- Whether a text begins like an assignment: with a name and an equals sign. -/
def StartsAssignment (text : String) : Prop :=
  ∃ name value, isName name = true ∧ text.toList = name ++ '=' :: value

theorem ofWord?_textWord {text : String} (h : ¬StartsAssignment text) :
    Assignment.ofWord? (textWord text) = none := by
  have hSplit : splitAssignment? text.toList = none := by
    rw [Option.eq_none_iff_forall_ne_some]
    rintro ⟨name, value⟩ hSome
    exact h ⟨name, value, splitAssignment?_eq_some_iff.mp hSome⟩
  unfold textWord literalOf
  split
  · rfl
  · rw [Assignment.ofWord?, String.toList_ofList, hSplit]
    rfl

theorem ScriptReader.readTokens_of_ok {text : String} {ts : List Token}
    (h : ScriptShell.tokens text = .ok ts) (r : ScriptReader) :
    r.readTokens text = (.ok ts, r) := by
  rw [readTokens]
  simp only [h]

theorem readStatement_quotedCall {name : String} (hName : ¬StartsAssignment name)
    (arguments more : List String) :
    readStatement (quotedCall name arguments) more =
      ⟨.ok [⟨[], (name :: arguments).map textWord⟩], 0⟩ := by
  have hTokens := tokens_quotedCall name arguments
  have hWords : ((name :: arguments).map fun text => Token.word (textWord text)) =
      ((name :: arguments).map textWord).map .word := by
    rw [List.map_map]
    rfl
  have hCommand : Command.ofWords ((name :: arguments).map textWord) =
      ⟨[], (name :: arguments).map textWord⟩ := by
    rw [List.map_cons, Command.ofWords, ofWord?_textWord hName]
  rw [hWords] at hTokens
  rw [readStatement, readTokens_of_ok hTokens, ← hCommand]
  change Reading.mk ((commands _).mapError Fault.command) 0 = _
  rw [List.map_cons, commands_words]
  rfl

namespace Session

/-- The word of a text stands for that text. Nothing in it is expanded. -/
theorem expand_textWord (s : Session) (text : String) : s.expand (textWord text) = text := by
  unfold textWord literalOf
  split
  · next h => rw [String.toList_eq_nil_iff.mp h]; rfl
  · simp [expand, expandPart, String.join_cons]

theorem runCommand_of_words {files : FileTree} {runScript : ScriptRun} {command : Command}
    {s : Session} {name : String} {arguments : List String}
    (h : command.words.map (s.assignAll command.assignments).expand = name :: arguments) :
    s.runCommand files runScript command =
      (s.assignAll command.assignments).call files runScript name arguments := by
  simp only [runCommand, h]

theorem runCommands_singleton {files : FileTree} {runScript : ScriptRun} (status : Nat)
    (command : Command) (s : Session) :
    runCommands files runScript status [command] s = s.runCommand files runScript command := by
  rw [runCommands]
  generalize s.runCommand files runScript command = outcome
  obtain ⟨result, after⟩ := outcome
  cases result with
  | error failure => rfl
  | ok status =>
      dsimp only
      split <;> rfl

/-- A statement of quoted texts is the call of a command by the first of them with the others as its
arguments, unless the first one begins like an assignment. It takes no further line, from whatever
source. -/
theorem execute_quotedCall (files : FileTree) (s : Session) {name : String}
    (hName : ¬StartsAssignment name) (arguments more : List String) :
    s.execute files (quotedCall name arguments) more = s.invoke files name arguments ∧
      (readStatement (quotedCall name arguments) more).taken = 0 ∧
      ∀ reader : ScriptReader, reader.readStatement (quotedCall name arguments) =
        ((readStatement (quotedCall name arguments) more).result, reader) := by
  have hRead := readStatement_quotedCall hName arguments more
  have hWords : ((name :: arguments).map textWord).map s.expand = name :: arguments := by
    rw [List.map_map]
    exact (List.map_congr_left fun text _ => s.expand_textWord text).trans (List.map_id _)
  refine ⟨?_, by rw [hRead], fun reader => ?_⟩
  · calc
      s.execute files (quotedCall name arguments) more =
          runCommands files (runIn files s.running.room) 0
            [⟨[], (name :: arguments).map textWord⟩] s := by rw [execute, hRead]; rfl
      _ = s.runCommand files (runIn files s.running.room)
            ⟨[], (name :: arguments).map textWord⟩ := runCommands_singleton ..
      _ = s.invoke files name arguments := runCommand_of_words hWords
  · have hTokens := tokens_quotedCall name arguments
    rw [readStatement, readTokens_of_ok hTokens, ScriptReader.readStatement,
      ScriptReader.readTokens_of_ok hTokens]

/-- The texts of this call would each mean something else without their quotes. -/
theorem out_execute_quotedCall :
    (execute {} (quotedCall "echo" ["a'b", "", "$HOME; exit", "c\n#"]) ["echo late"]
      { directory := "/" }).2.journal.out = "a'b  $HOME; exit c\n#\n" := by
  have hName : ¬StartsAssignment "echo" := by
    rintro ⟨name, value, _, hText⟩
    have hMem : '=' ∈ "echo".toList := by simp [hText]
    revert hMem
    decide
  rw [(execute_quotedCall {} { directory := "/" } hName _ ["echo late"]).1]
  decide +kernel

end Session

end ScriptShell
