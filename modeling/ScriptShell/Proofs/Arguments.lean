import ScriptShell.StandardCommand
/-!
How an argument list is read. An argument asks for help, ends the options, is an option or is an
operand, and each of these does one thing to what was read before it.
-/
namespace ScriptShell

namespace ArgumentForm
variable {form : ArgumentForm} {p : ArgumentProgress} {argument : String}
  {arguments rest : List String}

/-- An argument that asks for help where options are read. -/
def IsHelp (argument : String) : Prop :=
  argument = "--help" ∨ argument = "help"

/-- An argument that is taken as an option where options are read. -/
def IsOption (argument : String) : Prop :=
  argument.toList.head? = some '-' ∧ argument ≠ "--" ∧ argument ≠ "--help"

/-- An argument that is taken as an operand even where options are read. -/
def IsOperand (argument : String) : Prop :=
  argument.toList.head? ≠ some '-' ∧ argument ≠ "help"

theorem argument_cases (argument : String) :
    IsHelp argument ∨ argument = "--" ∨ IsOption argument ∨ IsOperand argument := by
  unfold IsHelp IsOption IsOperand
  grind

theorem IsOption.ne_help (h : IsOption argument) : argument ≠ "help" := by
  rintro rfl
  exact absurd h.1 (by decide)

theorem IsOperand.ne_of_dash (h : IsOperand argument) {other : String}
    (hOther : other.toList.head? = some '-') : argument ≠ other := by
  rintro rfl
  exact h.1 hOther

/-- Behind the end of the options every argument is an operand. -/
theorem take_operand (h : p.optionsEnded = true ∨ IsOperand argument) (rest : List String) :
    form.take p (argument :: rest) =
      (form.addOperand p argument).bind fun p => form.take p rest := by
  rw [take]
  rcases h with hEnded | hOperand
  · cases form.addOperand p argument <;> simp [hEnded, Except.bind]
  · have hHelp : argument ≠ "--help" := hOperand.ne_of_dash (by decide)
    have hDashes : argument ≠ "--" := hOperand.ne_of_dash (by decide)
    cases form.addOperand p argument <;>
      simp [hHelp, hDashes, hOperand.1, hOperand.2, Except.bind]

/-- Where there may be only one operand, the next one is a fault. -/
theorem take_excess (hOptional : form.operands = .optional) (hFull : p.given.operands ≠ [])
    (h : p.optionsEnded = true ∨ IsOperand argument) (rest : List String) :
    form.take p (argument :: rest) = .error (.unrecognized argument) := by
  rw [take_operand h]
  simp [addOperand, hOptional, hFull, Except.bind]

theorem take_ended (hGreedy : form.operands = .greedy) (hEnded : p.optionsEnded = true)
    (arguments : List String) :
    form.take p arguments =
      .ok { p with given := { p.given with operands := p.given.operands ++ arguments } } := by
  induction arguments generalizing p with
  | nil => simp [take]
  | cons argument rest ih =>
      rw [take_operand (.inl hEnded)]
      simp [addOperand, hGreedy, Except.bind, hEnded, ih, List.append_assoc]

/-- The first operand of any number ends the options. -/
theorem take_operands (hGreedy : form.operands = .greedy) (h : IsOperand argument)
    (rest : List String) :
    form.take p (argument :: rest) =
      .ok { p with
        optionsEnded := true
        given := { p.given with operands := p.given.operands ++ argument :: rest } } := by
  rw [take_operand (.inr h), addOperand, hGreedy]
  simp only [Except.bind]
  rw [take_ended hGreedy rfl]
  simp [List.append_assoc]

/-- Where no operand has to be there, all that was read is given. -/
theorem conclude_given (hFree : ∀ name, form.operands ≠ .required name)
    (hNoHelp : p.helpAsked = false) : form.conclude p = .ok (.given p.given) := by
  unfold conclude
  cases hOperands : form.operands with
  | required name => exact absurd hOperands (hFree name)
  | _ => simp [hNoHelp]

section
variable (hOpen : p.optionsEnded = false)
include hOpen

theorem take_help (h : IsHelp argument) (rest : List String) :
    form.take p (argument :: rest) = form.take { p with helpAsked := true } rest := by
  rw [take]
  rcases h with rfl | rfl <;> simp [hOpen]

theorem take_dashes (rest : List String) :
    form.take p ("--" :: rest) = form.take { p with optionsEnded := true } rest := by
  rw [take]
  simp [hOpen]

variable (hNoHelp : p.helpAsked = false) (hOption : IsOption argument)
include hNoHelp hOption

theorem take_switch (h : argument ∈ form.switches) (rest : List String) :
    form.take p (argument :: rest) =
      form.take { p with given := { p.given with switched := true } } rest := by
  rw [take]
  simp [hOpen, hNoHelp, hOption.ne_help, hOption.1, hOption.2, h]

theorem take_unknown (hSwitch : argument ∉ form.switches)
    (hValue : form.values.find? (·.name == argument) = none) (rest : List String) :
    form.take p (argument :: rest) = .error (.unrecognized argument) := by
  rw [take]
  simp [hOpen, hNoHelp, hOption.ne_help, hOption.1, hOption.2, hSwitch, hValue]

end

/-- Switches one after another are as good as one. -/
theorem take_switches (hOpen : p.optionsEnded = false) (hNoHelp : p.helpAsked = false)
    {switches : List String}
    (h : ∀ argument ∈ switches, IsOption argument ∧ argument ∈ form.switches)
    (rest : List String) :
    form.take p (switches ++ rest) =
      form.take { p with given :=
        { p.given with switched := p.given.switched || !switches.isEmpty } } rest := by
  induction switches generalizing p with
  | nil => simp
  | cons argument switches ih =>
      rw [List.forall_mem_cons] at h
      rw [List.cons_append, take_switch hOpen hNoHelp h.1.1 h.1.2, ih ?_ ?_ h.2]
      · simp
      · exact hOpen
      · exact hNoHelp

theorem helpAsked_of_addOperand {q : ArgumentProgress} (h : form.addOperand p argument = .ok q) :
    q.helpAsked = p.helpAsked := by
  unfold addOperand at h
  repeat' split at h
  all_goals cases h
  all_goals rfl

/-- A request for help is never taken back. -/
theorem helpAsked_of_take {q : ArgumentProgress} (hAsked : p.helpAsked = true)
    (h : form.take p arguments = .ok q) : q.helpAsked = true := by
  fun_induction take form p arguments with
  | case1 p =>
      cases h
      exact hAsked
  | case2 p argument rest _ ih => exact ih rfl h
  | case3 p argument rest _ _ ih => exact ih hAsked h
  | case5 p argument rest _ _ _ hNoHelp => exact absurd hAsked hNoHelp
  | case9 p argument _ _ _ hNoHelp => exact absurd hAsked hNoHelp
  | case10 p argument rest _ _ _ next hOperand ih =>
      exact ih ((helpAsked_of_addOperand hOperand).trans hAsked) h
  | case4 | case6 | case7 | case8 | case11 => cases h

/-- What follows a request for help is met with help or with a fault. -/
theorem conclude_of_helpAsked (hAsked : p.helpAsked = true) (arguments : List String)
    (given : Arguments) : (form.take p arguments).bind form.conclude ≠ .ok (.given given) := by
  cases hTake : form.take p arguments with
  | error fault => simp [Except.bind]
  | ok q => simp [Except.bind, conclude, helpAsked_of_take hAsked hTake]

end ArgumentForm

end ScriptShell
