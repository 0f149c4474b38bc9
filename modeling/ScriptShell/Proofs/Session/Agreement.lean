import ScriptShell.Proofs.Session.Context
import ScriptShell.Proofs.Statement.Uses
/-!
What two runs have in common that differ in the variables they start with. Where these agree on all
the variables that are taken the values of, the runs do the same: the value of a variable is never
read as part of a statement again, so that no other name can come in by way of it. In both runs a
variable is given the same value, or keeps the one that it had.
-/
namespace ScriptShell

namespace Variables

/-- Whether the variables with certain names have the same values, or are unset both times. -/
def Agree (names : String → Prop) (vars other : Variables) : Prop :=
  ∀ name, names name → other.get? name = vars.get? name

/-- How two runs go on from their variables, `vars` and `other`, to further ones: a variable is
given the same value in both, which happens to some only, or it keeps its value in both. -/
def Parallel (sets : String → Prop) (vars other after otherAfter : Variables) : Prop :=
  ∀ name, (sets name ∧ otherAfter.get? name = after.get? name) ∨
    (after.get? name = vars.get? name ∧ otherAfter.get? name = other.get? name)

section
variable {reads sets : String → Prop} {vars other after otherAfter last otherLast : Variables}

theorem Parallel.refl (sets : String → Prop) (vars other : Variables) :
    Parallel sets vars other vars other :=
  fun _ => .inr ⟨rfl, rfl⟩

theorem Parallel.trans (first : Parallel sets vars other after otherAfter)
    (rest : Parallel sets after otherAfter last otherLast) :
    Parallel sets vars other last otherLast := by
  intro name
  rcases rest name with given | ⟨kept, otherKept⟩
  · exact .inl given
  · rw [kept, otherKept]
    exact first name

/-- Variables that agree at first agree after both runs. -/
theorem Parallel.agree (h : Parallel sets vars other after otherAfter)
    (hAgree : Agree reads vars other) : Agree reads after otherAfter := by
  intro name hName
  rcases h name with ⟨_, given⟩ | ⟨kept, otherKept⟩
  · exact given
  · rw [kept, otherKept]
    exact hAgree name hName

theorem Parallel.set {name : String} (hSets : sets name) (value : String)
    (vars other : Variables) :
    Parallel sets vars other (vars.set name value) (other.set name value) := by
  intro asked
  rw [get?_set, get?_set]
  by_cases hSame : asked = name
  · subst hSame
    exact .inl ⟨hSets, by rw [if_pos rfl, if_pos rfl]⟩
  · exact .inr ⟨if_neg hSame, if_neg hSame⟩

end

end Variables

open Variables

/-- The session with other variables. -/
def Session.withVars (s : Session) (vars : Variables) : Session :=
  { s with vars }

def Outcome.withVars (outcome : Outcome) (vars : Variables) : Outcome :=
  (outcome.1, outcome.2.withVars vars)

/-- What comes of two runs from `vars` and `other`: the same, but for the variables. -/
def Alike (sets : String → Prop) (vars other : Variables) (first second : Outcome) : Prop :=
  ∃ after, second = first.withVars after ∧ Parallel sets vars other first.2.vars after

namespace Alike
variable {sets : String → Prop} {vars other : Variables} {first second : Outcome}

theorem of_vars (hVars : first.2.vars = vars) (hSame : second = first.withVars other) :
    Alike sets vars other first second :=
  ⟨other, hSame, hVars ▸ .refl _ _ _⟩

theorem trans {after otherAfter : Variables} (h : Alike sets after otherAfter first second)
    (hFirst : Parallel sets vars other after otherAfter) : Alike sets vars other first second := by
  obtain ⟨last, hSame, hRest⟩ := h
  exact ⟨last, hSame, hFirst.trans hRest⟩

theorem andThen {next later : Nat → Session → Outcome} (h : Alike sets vars other first second)
    (hNext : ∀ status s after, first = (.ok status, s) → s.stopping = false →
      Parallel sets vars other s.vars after →
        Alike sets s.vars after (next status s) (later status (s.withVars after))) :
    Alike sets vars other (first.andThen next) (second.andThen later) := by
  obtain ⟨after, rfl, hParallel⟩ := h
  obtain ⟨result, s⟩ := first
  cases result with
  | error failure => exact ⟨after, rfl, hParallel⟩
  | ok status =>
      cases hStop : s.stopping with
      | true =>
          have hDone : Outcome.andThen (.ok status, s) next = (.ok status, s) := if_pos hStop
          have hOther : (Outcome.withVars (.ok status, s) after).andThen later =
              Outcome.withVars (.ok status, s) after := if_pos hStop
          rw [hDone, hOther]
          exact ⟨after, rfl, hParallel⟩
      | false =>
          have hDone : Outcome.andThen (.ok status, s) next = next status s :=
            Outcome.andThen_of_ok rfl hStop next
          have hOther : (Outcome.withVars (.ok status, s) after).andThen later =
              later status (s.withVars after) :=
            Outcome.andThen_of_ok (s := s.withVars after) rfl hStop later
          rw [hDone, hOther]
          exact (hNext status s after rfl hStop hParallel).trans hParallel

theorem inScript (h : Alike sets vars other first second) (path : String) (line : Nat) :
    Alike sets vars other (first.inScript path line) (second.inScript path line) := by
  obtain ⟨after, rfl, hParallel⟩ := h
  obtain ⟨result, s⟩ := first
  cases result with
  | ok status => exact ⟨after, rfl, hParallel⟩
  | error failure => cases failure <;> exact ⟨after, rfl, hParallel⟩

theorem release (h : Alike sets vars other first second) (script : ScriptReader) :
    Alike sets vars other (first.release script) (second.release script) := by
  obtain ⟨after, rfl, hParallel⟩ := h
  exact ⟨after, rfl, hParallel⟩

end Alike

/-- Whether the commands of a statement take the values of such variables only, and set only such
variables. -/
def StatementUses (reads sets : String → Prop) (text : String) (more : List String) : Prop :=
  ∀ commands, (readStatement text more).result = .ok commands →
    ∀ command ∈ commands, command.Uses reads sets

/-- Whether this holds of every statement that may start on one of the lines. -/
def LinesUse (reads sets : String → Prop) (lines : List String) : Prop :=
  ∀ text more, text :: more <:+ lines → StatementUses reads sets text more

def ActivityUses (reads sets : String → Prop) : Activity → Prop
  | .statement text more => StatementUses reads sets text more
  | .commands _ commands => ∀ command ∈ commands, command.Uses reads sets
  | .rest script => LinesUse reads sets script.remaining
  | .call _ _ | .script _ => True

section
variable {reads sets : String → Prop} {text line : String} {more lines : List String}

theorem LinesUse.suffix {fewer : List String} (h : LinesUse reads sets lines)
    (hSuffix : fewer <:+ lines) : LinesUse reads sets fewer :=
  fun text more hLine => h text more (hLine.trans hSuffix)

theorem StatementUses.further {fault : TokenFault}
    (h : StatementUses reads sets text (line :: more))
    (unfinished : tokens text = .error fault) (incomplete : fault.isIncomplete = true) :
    StatementUses reads sets (joinLine text line) more := by
  intro commands hCommands
  apply h commands
  rw [readStatement, readTokens_cons_of_incomplete unfinished incomplete]
  exact hCommands

theorem StatementUses.read {ts : List Token} {commands : List Command}
    (h : StatementUses reads sets text more) (scanned : tokens text = .ok ts)
    (parsed : commandsOf ts = .ok commands) : ∀ command ∈ commands, command.Uses reads sets := by
  apply h commands
  rw [readStatement, readTokens_of_ok scanned]
  exact parsed

/-- What an activity asks for uses no more than the activity, or it comes from a script. -/
theorem Session.Invokes.uses {files : FileTree} {a b : Activity} {s m : Session}
    {scripts : List ScriptReader} (asks : Invokes files a s scripts b m)
    (hScripts : ∀ path lines, scriptLines files path = .ok lines → LinesUse reads sets lines)
    (h : ActivityUses reads sets a) : ActivityUses reads sets b := by
  cases asks with
  | further unfinished incomplete => exact StatementUses.further h unfinished incomplete
  | read scanned parsed => exact StatementUses.read h scanned parsed
  | call | inclusion => trivial
  | next => exact (List.forall_mem_cons.mp h).2
  | start _ _ loaded => exact hScripts _ _ loaded
  | line next => exact h _ _ ((ScriptReader.next_eq_some next).1 ▸ List.suffix_rfl)
  | goOn next =>
      refine LinesUse.suffix h ?_
      rw [ScriptReader.remaining_readStatement, (ScriptReader.next_eq_some next).1]
      exact (List.drop_suffix ..).trans (List.suffix_cons ..)

end

namespace Session
variable {files : FileTree} {reads sets : String → Prop} {s : Session} {vars : Variables}

theorem expand_withVars {word : Word} (hAgree : Agree reads s.vars vars)
    (hReads : ∀ name, .substitution name ∈ word → reads name) :
    (s.withVars vars).expand word = s.expand word := by
  refine congrArg String.join (List.map_congr_left fun part hMem => ?_)
  cases part with
  | literal text => rfl
  | substitution name =>
      have hValue : vars.get? name = s.vars.get? name := hAgree name (hReads name hMem)
      exact congrArg (·.getD "") hValue

theorem assignAll_withVars {assignments : List Assignment}
    (hReads : ∀ a ∈ assignments, ∀ name, .substitution name ∈ a.value → reads name)
    (hSets : ∀ a ∈ assignments, sets a.name) (hAgree : Agree reads s.vars vars) :
    ∃ after, (s.withVars vars).assignAll assignments = (s.assignAll assignments).withVars after ∧
      Parallel sets s.vars vars (s.assignAll assignments).vars after := by
  induction assignments generalizing s vars with
  | nil => exact ⟨vars, rfl, .refl _ _ _⟩
  | cons a rest ih =>
      rw [List.forall_mem_cons] at hReads hSets
      have hFirst : Parallel sets s.vars vars (s.assign a.name (s.expand a.value)).vars
          (vars.set a.name (s.expand a.value)) := .set hSets.1 _ _ _
      obtain ⟨after, hRest, hParallel⟩ := ih hReads.2 hSets.2 (hFirst.agree hAgree)
      refine ⟨after, ?_, hFirst.trans hParallel⟩
      rw [assignAll, List.foldl_cons, expand_withVars hAgree hReads.1]
      exact hRest

theorem enter_withVars (s : Session) (vars : Variables) (key : String) :
    (s.withVars vars).enter key = (s.enter key).map (·.withVars vars) := by
  change (s.running.enter key).map _ = ((s.running.enter key).map _).map _
  cases s.running.enter key <;> rfl

/-- Whether all that an activity asks for comes out alike from variables that agree. -/
def AsksAlike (files : FileTree) (reads sets : String → Prop) (a : Activity) (s : Session) : Prop :=
  ∀ scripts b m, Invokes files a s scripts b m → ∀ vars, Agree reads m.vars vars →
    Alike sets m.vars vars (carryOut files b m) (carryOut files b (m.withVars vars))

theorem alike_statement {text : String} {more : List String} (hAgree : Agree reads s.vars vars)
    (ih : AsksAlike files reads sets (.statement text more) s) :
    Alike sets s.vars vars (carryOut files (.statement text more) s)
      (carryOut files (.statement text more) (s.withVars vars)) := by
  rw [carryOut_eq, carryOut_eq files _ (s.withVars vars)]
  simp only [carryOutBy]
  cases hTokens : tokens text with
  | ok ts =>
      cases hCommands : commandsOf ts with
      | error fault =>
          simp only [hCommands]
          exact .of_vars rfl rfl
      | ok commands =>
          simp only [hCommands]
          exact ih _ _ _ (.read hTokens hCommands) vars hAgree
  | error fault =>
      cases more with
      | nil => exact .of_vars rfl rfl
      | cons line more =>
          cases hIncomplete : fault.isIncomplete with
          | false =>
              simp only [hIncomplete]
              exact .of_vars rfl rfl
          | true =>
              simp only [hIncomplete, if_true]
              exact ih _ _ _ (.further hTokens hIncomplete) vars hAgree

theorem alike_commandBy {status : Nat} {command : Command} {rest : List Command}
    (hUses : command.Uses reads sets) (hAgree : Agree reads s.vars vars)
    (ih : AsksAlike files reads sets (.commands status (command :: rest)) s) :
    Alike sets s.vars vars (commandBy (carryOut files) command s)
      (commandBy (carryOut files) command (s.withVars vars)) := by
  obtain ⟨after, hAssigned, hParallel⟩ := assignAll_withVars hUses.values hUses.names hAgree
  have hWords : command.words.map ((s.withVars vars).assignAll command.assignments).expand =
      command.words.map (s.assignAll command.assignments).expand := by
    rw [hAssigned]
    exact List.map_congr_left fun word hWord =>
      expand_withVars (hParallel.agree hAgree) (hUses.words word hWord)
  cases hNamed : command.words.map (s.assignAll command.assignments).expand with
  | nil =>
      rw [commandBy_of_nil hNamed, commandBy_of_nil (hWords.trans hNamed), hAssigned]
      exact ⟨after, rfl, hParallel⟩
  | cons name arguments =>
      rw [commandBy_of_cons hNamed, commandBy_of_cons (hWords.trans hNamed), hAssigned]
      exact (ih _ _ _ (.call hNamed) after (hParallel.agree hAgree)).trans hParallel

theorem alike_commands {status : Nat} {commands : List Command}
    (hUses : ∀ command ∈ commands, command.Uses reads sets) (hAgree : Agree reads s.vars vars)
    (ih : AsksAlike files reads sets (.commands status commands) s) :
    Alike sets s.vars vars (carryOut files (.commands status commands) s)
      (carryOut files (.commands status commands) (s.withVars vars)) := by
  cases commands with
  | nil => exact .of_vars rfl rfl
  | cons command rest =>
      rw [carryOut_cons, carryOut_cons]
      apply (alike_commandBy (hUses command List.mem_cons_self) hAgree ih).andThen
      intro done m after hDone goesOn hParallel
      exact ih _ _ _ (.next hDone goesOn) after (hParallel.agree hAgree)

/-- A call that runs no script asks for the home directory at most. -/
theorem alike_call {name : String} {arguments : List String} (hHome : reads "HOME")
    (hAgree : Agree reads s.vars vars) (ih : AsksAlike files reads sets (.call name arguments) s) :
    Alike sets s.vars vars (carryOut files (.call name arguments) s)
      (carryOut files (.call name arguments) (s.withVars vars)) := by
  have hAsked : (s.withVars vars).inclusion? name arguments = s.inclusion? name arguments := rfl
  rw [carryOut_eq, carryOut_eq files _ (s.withVars vars)]
  simp only [carryOutBy, hAsked]
  cases hScript : s.inclusion? name arguments with
  | none =>
      obtain ⟨hVars, hRunning⟩ := within_call files s name arguments
      refine .of_vars hVars ((call_within files (hAgree _ hHome) s.running name arguments).trans ?_)
      rw [Outcome.within, Outcome.withVars, within, withVars, ← hRunning]
  | some path => exact ih _ _ _ (.inclusion hScript) vars hAgree

theorem alike_script {path : String} (hAgree : Agree reads s.vars vars)
    (ih : AsksAlike files reads sets (.script path) s) :
    Alike sets s.vars vars (carryOut files (.script path) s)
      (carryOut files (.script path) (s.withVars vars)) := by
  have hEnter := enter_withVars (s.record (.sought (s.resolve path))) vars
    (files.key (s.resolve path))
  cases hStart : (s.record (.sought (s.resolve path))).enter (files.key (s.resolve path)) with
  | error failure =>
      rw [hStart] at hEnter
      rw [carryOut_of_refused hStart, carryOut_of_refused (s := s.withVars vars) hEnter]
      exact .of_vars rfl rfl
  | ok inner =>
      have hVars : inner.vars = s.vars := by
        obtain ⟨_, _, rfl⟩ := enter_eq_ok_iff.mp hStart
        rfl
      rw [hStart] at hEnter
      cases hLines : scriptLines files (files.key (s.resolve path)) with
      | error failure =>
          rw [carryOut_of_unloadable hStart hLines,
            carryOut_of_unloadable (s := s.withVars vars) hEnter hLines]
          exact .of_vars hVars rfl
      | ok lines =>
          rw [carryOut_of_start hStart hLines,
            carryOut_of_start (s := s.withVars vars) hEnter hLines, ← hVars]
          exact (ih _ _ _ (.start rfl hStart hLines) vars (hVars ▸ hAgree)).release _

theorem alike_rest {script : ScriptReader} (hAgree : Agree reads s.vars vars)
    (ih : AsksAlike files reads sets (.rest script) s) :
    Alike sets s.vars vars (carryOut files (.rest script) s)
      (carryOut files (.rest script) (s.withVars vars)) := by
  cases hNext : script.next with
  | mk first started =>
      cases first with
      | none =>
          rw [carryOut_eq, carryOut_eq files _ (s.withVars vars)]
          simp only [carryOutBy, hNext]
          exact .of_vars rfl rfl
      | some text =>
          rw [carryOut_rest_of_next files hNext, carryOut_rest_of_next files hNext]
          apply ((ih _ _ _ (.line hNext) vars hAgree).inScript script.path
            started.delivered).andThen
          intro status m after hDone goesOn hParallel
          obtain ⟨own, hOwn⟩ := Outcome.inScript_eq_ok hDone
          exact ih _ _ _ (.goOn hNext hOwn goesOn) after (hParallel.agree hAgree)

/-- From variables that agree on all that is taken the values of, the home directory included, an
activity comes out alike. -/
theorem alike_carryOut (hHome : reads "HOME")
    (hScripts : ∀ path lines, scriptLines files path = .ok lines → LinesUse reads sets lines)
    {a : Activity} (hUses : ActivityUses reads sets a) (hAgree : Agree reads s.vars vars) :
    Alike sets s.vars vars (carryOut files a s) (carryOut files a (s.withVars vars)) := by
  induction a, s using carryOut_induction files generalizing vars with
  | step a s ih =>
      have hAsks : AsksAlike files reads sets a s :=
        fun scripts b m asks vars hAgree => ih scripts b m asks (asks.uses hScripts hUses) hAgree
      cases a with
      | statement text more => exact alike_statement hAgree hAsks
      | commands status commands => exact alike_commands hUses hAgree hAsks
      | call name arguments => exact alike_call hHome hAgree hAsks
      | script path => exact alike_script hAgree hAsks
      | rest script => exact alike_rest hAgree hAsks

end Session

end ScriptShell
