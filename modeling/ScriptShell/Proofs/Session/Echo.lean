import ScriptShell.Proofs.Arguments
import ScriptShell.Proofs.Session.Calls
/-!
What `echo` writes. Its options end at the first argument that is none of its switches: from there
on all is text, unless that argument asks for help or is an option that `echo` does not have.
-/
namespace ScriptShell

namespace StandardCommand
open ArgumentForm

/-- The switch that leaves out the newline, in either spelling. -/
def isQuiet (argument : String) : Bool :=
  argument == "-n" || argument == "--no-newline"

/-- What `echo` writes for its arguments, if they are for it to write. -/
def echoed? (arguments : List String) : Option String :=
  let ending := if (arguments.takeWhile isQuiet).isEmpty then "\n" else ""
  match arguments.dropWhile isQuiet with
  | [] => some ending
  | first :: rest =>
    if first = "--" then some (" ".intercalate rest ++ ending)
    else if first = "help" ∨ first.toList.head? = some '-' then none
    else some (" ".intercalate (first :: rest) ++ ending)

theorem mem_switches_iff {argument : String} :
    argument ∈ echo.form.switches ↔ isQuiet argument = true := by
  simp [form, isQuiet]

theorem isOption_of_isQuiet {argument : String} (h : isQuiet argument = true) :
    IsOption argument := by
  rw [isQuiet, Bool.or_eq_true, beq_iff_eq, beq_iff_eq] at h
  rcases h with rfl | rfl <;> exact ⟨by decide, by decide, by decide⟩

/-- Reading goes on after the switches as it began, but for the note that there were any. -/
theorem take_echo (arguments : List String) :
    echo.form.take {} arguments =
      echo.form.take { given := { switched := !(arguments.takeWhile isQuiet).isEmpty } }
        (arguments.dropWhile isQuiet) := by
  have hSwitches : ∀ argument ∈ arguments.takeWhile isQuiet,
      IsOption argument ∧ argument ∈ echo.form.switches := by
    intro argument hMem
    have hQuiet : isQuiet argument = true := List.all_eq_true.mp List.all_takeWhile argument hMem
    exact ⟨isOption_of_isQuiet hQuiet, mem_switches_iff.mpr hQuiet⟩
  have hTake := take_switches (p := {}) rfl rfl hSwitches (arguments.dropWhile isQuiet)
  rw [List.takeWhile_append_dropWhile] at hTake
  simpa using hTake

/-- The arguments of `echo` are carried out exactly where they are for it to write. The cases are
those of the first argument after the switches. -/
theorem echoed?_eq_some_iff {arguments : List String} {text : String} :
    echoed? arguments = some text ↔
      ∃ given, echo.form.read arguments = .ok (.given given) ∧
        " ".intercalate given.operands ++ (if given.switched then "" else "\n") = text := by
  have hGreedy : echo.form.operands = .greedy := rfl
  have hFree : ∀ name, echo.form.operands ≠ .required name := by simp [hGreedy]
  have hHead : ∀ first ∈ (arguments.dropWhile isQuiet).head?, isQuiet first = false := by
    intro first hFirst
    have hNot := List.head?_dropWhile_not isQuiet arguments
    rw [hFirst] at hNot
    simpa using hNot
  unfold echoed? ArgumentForm.read
  rw [take_echo]
  generalize arguments.dropWhile isQuiet = remaining at hHead ⊢
  generalize (arguments.takeWhile isQuiet).isEmpty = plain
  cases remaining with
  | nil => cases plain <;> simp [take, conclude_given hFree, Except.bind]
  | cons first rest =>
      have hOther : first ∉ echo.form.switches := by
        simpa [mem_switches_iff] using hHead first rfl
      rcases argument_cases first with hHelp | rfl | hOption | hOperand
      · rw [take_help rfl hHelp]
        rcases hHelp with rfl | rfl <;> simp [conclude_of_helpAsked]
      · rw [take_dashes rfl, take_ended hGreedy rfl]
        cases plain <;> simp [conclude_given hFree, Except.bind]
      · rw [take_unknown rfl rfl hOption hOther rfl]
        simp [hOption.1, hOption.2.1, Except.bind]
      · have hDashes : first ≠ "--" := hOperand.ne_of_dash (by decide)
        rw [take_operands hGreedy hOperand]
        cases plain <;>
          simp [hDashes, hOperand.1, hOperand.2, conclude_given hFree, Except.bind]

example : echoed? ["-n", "a", "-n", "--help"] = some "a -n --help" := by decide

end StandardCommand

namespace Session
variable {s : Session}

/-- What comes of a call of `echo`: its arguments are written, or they are not for it to write. Then
it writes none of them, and shows its help or complains. -/
inductive Echoes (s : Session) (arguments : List String) : Outcome → Prop
  | written {text : String} {after : Session}
      (echoed : StandardCommand.echoed? arguments = some text)
      (state : after = { s with journal := after.journal }) (prints : s.Prints text after) :
      Echoes s arguments (.ok 0, after)
  | helped {after : Session} (unheard : StandardCommand.echoed? arguments = none)
      (state : after = { s with journal := after.journal })
      (prints : s.Prints StandardCommand.echo.help after) : Echoes s arguments (.ok 0, after)
  | refused {message : String} {after : Session}
      (unheard : StandardCommand.echoed? arguments = none) (complains : s.Complains message after) :
      Echoes s arguments (.ok 1, after)

/-- For every list of arguments `echo` writes what it is to write, up to the last character, and
nothing else. -/
theorem echo_writes (hKnown : .echo ∈ s.vocabulary) (files : FileTree) (arguments : List String) :
    s.Echoes arguments (s.invoke files "echo" arguments) := by
  have hUnheard (h : ∀ given, StandardCommand.echo.form.read arguments ≠ .ok (.given given)) :
      StandardCommand.echoed? arguments = none := by
    rw [Option.eq_none_iff_forall_ne_some]
    intro text hText
    obtain ⟨given, hGiven, _⟩ := StandardCommand.echoed?_eq_some_iff.mp hText
    exact h given hGiven
  have hDoes : s.Does files arguments .echo (s.invoke files "echo" arguments) :=
    does_invoke hKnown files arguments
  generalize s.invoke files "echo" arguments = outcome at hDoes ⊢
  cases hDoes with
  | misused unread complains => exact .refused (hUnheard (by simp [unread])) complains
  | helped asked state prints => exact .helped (hUnheard (by simp [asked])) state prints
  | echo read state prints =>
      exact .written (StandardCommand.echoed?_eq_some_iff.mpr ⟨_, read, rfl⟩) state prints

theorem echo_writes_trailing_help :
    .echo ∈ StandardCommand.all ∧
      Echoes { directory := "/" } ["-n", "a", "--help"]
        (invoke ⟨[]⟩ "echo" ["-n", "a", "--help"] { directory := "/" }) :=
  ⟨by decide, echo_writes (by decide) ⟨[]⟩ ["-n", "a", "--help"]⟩

end Session

end ScriptShell
