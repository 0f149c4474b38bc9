import ScriptShell.Proofs.Statement.Derivation
import ScriptShell.Proofs.Statement.Terminators
/-!
Statements with a separator between them. However the first text ends, the separator ends its last
word, and the second text is scanned as if it stood alone; so the tokens and the commands of both
are those of the one and then those of the other. Only a comment would take the separator in.
-/
namespace ScriptShell

/-- Whether the scan of a text comes to a comment. Nothing that is added to the text is read
then. -/
def ReachesComment (text : String) : Prop :=
  ∃ s, scan text = .ok s ∧ s.mode = .comment

namespace Scan
variable {s : Scan} {ts : List Token}

theorem tokens_separate (s : Scan) : s.separate.tokens.reverse = s.done ++ [.separator] :=
  List.reverse_cons

/-- Where the tokens are complete, a separator comes after them. -/
theorem step_separator (hFinish : s.finish = .ok ts) (hComment : s.mode ≠ .comment) :
    ∃ t : Scan, s.step ';' = .ok (t.goto .plain) ∧ t.draft = none ∧
      t.tokens.reverse = ts ++ [.separator] := by
  have hSeparate (u : Scan) (hStep : s.step ';' = .ok (u.outside ';'))
      (hDone : s.finish = .ok u.done) : ∃ t : Scan, s.step ';' = .ok (t.goto .plain) ∧
        t.draft = none ∧ t.tokens.reverse = ts ++ [.separator] := by
    rw [hFinish] at hDone
    cases hDone
    exact ⟨u.separate, hStep, draft_endWord u, tokens_separate u⟩
  obtain ⟨mode, tokens, draft⟩ := s
  cases mode with
  | plain => exact hSeparate _ rfl rfl
  | escapeReturn => exact hSeparate _ rfl rfl
  | dollar quoted =>
      cases quoted with
      | false => exact hSeparate _ rfl rfl
      | true => cases hFinish
  | name quoted read =>
      cases quoted with
      | false => exact hSeparate _ rfl rfl
      | true => cases hFinish
  | comment => exact absurd rfl hComment
  | _ => cases hFinish

end Scan

section
variable {first second : String} {ts us : List Token}

/-- A text with a separator and another text behind it has tokens exactly if the other one has. -/
theorem tokens_sequence_iff (hTokens : tokens first = .ok ts) (hComment : ¬ReachesComment first)
    {out : List Token} : tokens (first ++ ";" ++ second) = .ok out ↔
      ∃ us, tokens second = .ok us ∧ out = ts ++ .separator :: us := by
  rw [tokens_eq_scan] at hTokens
  cases hScan : scan first with
  | error fault => rw [hScan] at hTokens; cases hTokens
  | ok s =>
      rw [hScan] at hTokens
      have hMode : s.mode ≠ .comment := fun hMode => hComment ⟨s, hScan, hMode⟩
      obtain ⟨t, hStep, hDraft, hBefore⟩ := Scan.step_separator hTokens hMode
      have hRun : tokens (first ++ ";" ++ second) = (t.goto .plain).run second.toList := by
        have hSecond : scan (first ++ ";") = .ok (t.goto .plain) := by
          rw [scan_append, hScan]
          exact (s.advance_singleton ';').trans hStep
        rw [tokens_eq_scan, scan_append, hSecond]
        rfl
      rw [hRun]
      constructor
      · intro hOut
        obtain ⟨us, derives⟩ := Scan.exists_derives hDraft hOut
        refine ⟨us, tokens_of_derives derives, ?_⟩
        rw [Scan.run_derives derives hDraft, hBefore, List.append_assoc] at hOut
        cases hOut
        rfl
      · rintro ⟨us, hSecond, rfl⟩
        have derives := derives_of_tokens hSecond
        rw [Scan.run_derives derives hDraft, hBefore, List.append_assoc]
        rfl

theorem wordRuns_ne_nil (ts : List Token) : wordRuns ts ≠ [] := by
  cases ts with
  | nil => simp [wordRuns]
  | cons t ts =>
      cases t with
      | separator => simp [wordRuns]
      | word w =>
          rw [wordRuns]
          split <;> simp

theorem wordRuns_separator (ts us : List Token) :
    wordRuns (ts ++ .separator :: us) = wordRuns ts ++ wordRuns us := by
  induction ts with
  | nil => rfl
  | cons t ts ih =>
      cases t with
      | separator => simp only [List.cons_append, wordRuns, ih]
      | word w =>
          simp only [List.cons_append, wordRuns, ih]
          cases hRuns : wordRuns ts with
          | nil => exact absurd hRuns (wordRuns_ne_nil ts)
          | cons run runs => rfl

theorem dropLastEmpty_cons {runs : List (List Word)} (h : runs ≠ []) (run : List Word) :
    dropLastEmpty (run :: runs) = run :: dropLastEmpty runs := by
  cases runs with
  | nil => exact absurd rfl h
  | cons next runs => rfl

theorem dropLastEmpty_append {more : List (List Word)} (h : more ≠ []) (runs : List (List Word)) :
    dropLastEmpty (runs ++ more) = runs ++ dropLastEmpty more := by
  induction runs with
  | nil => rfl
  | cons run runs ih =>
      rw [List.cons_append, dropLastEmpty_cons (List.append_ne_nil_of_right_ne_nil runs h), ih,
        List.cons_append]

/-- Nothing is dropped where the tokens end in a word. -/
theorem dropLastEmpty_wordRuns (hSome : ts ≠ []) (hLast : ts.getLast? ≠ some .separator) :
    dropLastEmpty (wordRuns ts) = wordRuns ts := by
  induction ts with
  | nil => exact absurd rfl hSome
  | cons t ts ih =>
      by_cases hRest : ts = []
      · subst hRest
        cases t with
        | separator => exact absurd rfl hLast
        | word w => rfl
      · have hTail := ih hRest (by rwa [List.getLast?_cons_of_ne_nil hRest] at hLast)
        cases hRuns : wordRuns ts with
        | nil => exact absurd hRuns (wordRuns_ne_nil ts)
        | cons run runs =>
            rw [hRuns] at hTail
            cases t with
            | separator => rw [wordRuns, hRuns, dropLastEmpty_cons (by simp), hTail]
            | word w =>
                simp only [wordRuns, hRuns]
                cases runs with
                | nil => rfl
                | cons next runs =>
                    rw [dropLastEmpty_cons (by simp)] at hTail ⊢
                    rw [(List.cons.inj hTail).2]

theorem commands_eq_ok_iff {cs : List Command} : commands ts = .ok cs ↔
    [] ∉ dropLastEmpty (wordRuns ts) ∧
      cs = (dropLastEmpty (wordRuns ts)).map Command.ofWords := by
  have hAny : (dropLastEmpty (wordRuns ts)).any List.isEmpty = true ↔
      [] ∈ dropLastEmpty (wordRuns ts) := by simp
  unfold commands
  by_cases hEmpty : [] ∈ dropLastEmpty (wordRuns ts)
  · simp [hAny.mpr hEmpty, hEmpty]
  · simp [mt hAny.mp hEmpty, hEmpty, eq_comm]

/-- Behind a statement that ends in a word, a separator begins a new one. -/
theorem commands_sequence_iff {cs out : List Command} (hCommands : commands ts = .ok cs)
    (hSome : ts ≠ []) (hLast : ts.getLast? ≠ some .separator) :
    commands (ts ++ .separator :: us) = .ok out ↔ ∃ ds, commands us = .ok ds ∧ out = cs ++ ds := by
  obtain ⟨hFirst, rfl⟩ := commands_eq_ok_iff.mp hCommands
  have hRuns : dropLastEmpty (wordRuns (ts ++ .separator :: us)) =
      dropLastEmpty (wordRuns ts) ++ dropLastEmpty (wordRuns us) := by
    rw [wordRuns_separator, dropLastEmpty_append (wordRuns_ne_nil us),
      dropLastEmpty_wordRuns hSome hLast]
  rw [commands_eq_ok_iff, hRuns, List.mem_append, not_or, List.map_append]
  constructor
  · rintro ⟨⟨_, hSecond⟩, rfl⟩
    exact ⟨_, commands_eq_ok_iff.mpr ⟨hSecond, rfl⟩, rfl⟩
  · rintro ⟨ds, hCommands, rfl⟩
    obtain ⟨hSecond, rfl⟩ := commands_eq_ok_iff.mp hCommands
    exact ⟨⟨hFirst, hSecond⟩, rfl⟩

end

end ScriptShell
