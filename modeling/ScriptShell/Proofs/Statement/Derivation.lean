import ScriptShell.Proofs.Statement.Newline
import ScriptShell.Proofs.Statement.Pieces
/-!
The scanner finds exactly the tokens that the grammar gives to a text: piece by piece it takes the
words that the grammar has, and a text that it takes to the end has a derivation.
-/
namespace ScriptShell

open Grammar

namespace Scan
variable {s : Scan} {c : Char} {cs text rest : List Char} {items : List Item} {ts : List Token}

theorem run_pieces (h : Pieces text rest items) (hDraft : s.draft.isSome = true) :
    (s.goto .plain).run (text ++ rest) = ((s.extend items).goto .plain).run rest := by
  induction h generalizing s with
  | nil => rw [extend_nil hDraft, List.nil_append]
  | cons head _ ih =>
      rw [List.append_assoc, run_piece head fun _ => hDraft, ih rfl, extend_extend]
  | continued broken followed _ ih => rw [List.append_assoc, run_break broken s followed, ih hDraft]

theorem exists_pieces (hDraft : s.draft.isSome = true)
    (hRun : (s.goto .plain).run cs = .ok ts) :
    ∃ text rest items, cs = text ++ rest ∧ Pieces text rest items := by
  induction hLength : cs.length using Nat.strongRecOn generalizing cs s with
  | ind n ih =>
      subst hLength
      by_cases hEnd : WordEnd cs
      · exact ⟨[], cs, [], rfl, .nil hEnd⟩
      by_cases hBroken : Broken cs
      · obtain ⟨br, more, rfl, broken, hMore, hNext⟩ := exists_break hBroken hRun
        obtain ⟨text, rest, items, rfl, pieces⟩ :=
          ih more.length (length_lt_append broken.ne_nil more) hDraft hNext rfl
        exact ⟨br ++ text, rest, items, by rw [List.append_assoc], .continued broken hMore pieces⟩
      obtain ⟨first, more, new, rfl, head⟩ := exists_piece hRun hEnd hBroken
      rw [run_piece head fun _ => hDraft] at hRun
      obtain ⟨text, rest, items, rfl, pieces⟩ :=
        ih more.length (length_lt_append head.ne_nil more) rfl hRun rfl
      exact ⟨first ++ text, rest, new ++ items, by rw [List.append_assoc], .cons head pieces⟩

theorem outside_gap (h : isGap c = true) (s : Scan) : s.outside c = s.endWord.goto .plain := by
  have hComment : c ≠ '#' := by
    rintro rfl
    cases h
  unfold outside
  rw [if_neg (by simp [hComment]), if_pos h]

theorem endWord_endWord (s : Scan) : s.endWord.endWord = s.endWord := by
  obtain ⟨mode, tokens, draft⟩ := s
  cases draft <;> rfl

theorem endWord_of_draft (h : s.draft = none) : s.endWord = s := by
  unfold endWord
  rw [h]

theorem done_goto (s : Scan) (mode : Mode) : (s.goto mode).done = s.done := by
  obtain ⟨_, tokens, draft⟩ := s
  cases draft <;> rfl

/-- At the end of a word the word that was read becomes a token. -/
theorem run_wordEnd (h : WordEnd cs) (s : Scan) :
    (s.goto .plain).run cs = (s.endWord.goto .plain).run cs := by
  cases cs with
  | nil => exact congrArg Except.ok ((done_goto s .plain).trans (done_endWord .plain).symm)
  | cons c cs =>
      rw [run_plain_cons, run_plain_cons]
      rcases h c rfl with hGap | rfl
      · rw [outside_gap hGap, outside_gap hGap, endWord_endWord]
      · have hSeparate : s.endWord.separate = s.separate := by
          unfold separate
          rw [endWord_endWord]
        exact congrArg (fun t => (t.goto .plain).run cs) hSeparate.symm

theorem run_comment (cs : List Char) (s : Scan) : (s.goto .comment).run cs = .ok s.done := by
  induction cs with
  | nil => exact congrArg Except.ok (done_goto s .comment)
  | cons c cs ih => exact ih

theorem outside_hash (hDraft : s.draft = none) : s.outside '#' = s.goto .comment := by
  unfold outside
  rw [if_pos (by simp [hDraft])]

theorem done_of_draft (hDraft : s.draft = none) : s.done = s.tokens.reverse := by
  unfold done
  rw [endWord_of_draft hDraft]

/-- The tokens that the grammar gives to a text are found. -/
theorem run_derives (h : Derives cs ts) (hDraft : s.draft = none) :
    (s.goto .plain).run cs = .ok (s.tokens.reverse ++ ts) := by
  induction h generalizing s with
  | nil =>
      rw [List.append_nil, ← done_of_draft hDraft]
      exact congrArg Except.ok (done_goto s .plain)
  | comment text =>
      rw [run_plain_cons, outside_hash hDraft, run_comment, done_of_draft hDraft, List.append_nil]
  | gap gap _ ih => rw [run_plain_cons, outside_gap gap, endWord_of_draft hDraft, ih hDraft]
  | @separator rest ts _ ih =>
      have hSeparate : s.separate = { s with tokens := .separator :: s.tokens } := by
        unfold separate
        rw [endWord_of_draft hDraft]
      have hNext := ih (s := s.separate) (by rw [hSeparate]; exact hDraft)
      refine (run_plain_cons s ';' rest).trans (hNext.trans ?_)
      simp [hSeparate]
  | continued broken followed _ ih => rw [run_break broken s followed, ih hDraft]
  | @word first text rest new items ts head noComment pieces _ ih =>
      have hPieces : (s.goto .plain).run (first ++ text ++ rest) =
          ((s.extend (new ++ items)).goto .plain).run rest := by
        rw [List.append_assoc, run_piece head fun hHash => absurd hHash noComment,
          run_pieces pieces rfl, extend_extend]
      have hWord : s.word = {} := by rw [word, hDraft]; rfl
      have hTokens : (s.extend (new ++ items)).endWord.tokens =
          .word (wordOf (new ++ items)) :: s.tokens := by
        rw [← toWord_start, ← hWord]
        rfl
      rw [hPieces, run_wordEnd pieces.wordEnd, ih (draft_endWord _), hTokens]
      simp

/-- A text in which the scanner finds tokens is of the grammar. -/
theorem exists_derives (hDraft : s.draft = none) (hRun : (s.goto .plain).run cs = .ok ts) :
    ∃ out, Derives cs out := by
  induction hLength : cs.length using Nat.strongRecOn generalizing cs s with
  | ind n ih =>
      subst hLength
      by_cases hBroken : Broken cs
      · obtain ⟨br, more, rfl, broken, hMore, hNext⟩ := exists_break hBroken hRun
        obtain ⟨out, derives⟩ :=
          ih more.length (length_lt_append broken.ne_nil more) hDraft hNext rfl
        exact ⟨out, .continued broken hMore derives⟩
      cases cs with
      | nil => exact ⟨[], .nil⟩
      | cons c cs =>
          have hShorter : cs.length < (c :: cs).length := Nat.lt_succ_self _
          by_cases hHash : c = '#'
          · subst hHash
            exact ⟨[], .comment cs⟩
          cases hGap : isGap c with
          | true =>
              rw [run_plain_cons, outside_gap hGap] at hRun
              obtain ⟨out, derives⟩ := ih _ hShorter (draft_endWord s) hRun rfl
              exact ⟨out, .gap hGap derives⟩
          | false =>
              by_cases hSeparator : c = ';'
              · subst hSeparator
                rw [run_plain_cons] at hRun
                have hNone : s.separate.draft = none := draft_endWord s
                obtain ⟨out, derives⟩ := ih _ hShorter hNone hRun rfl
                exact ⟨_, .separator derives⟩
              -- nothing else is left but a word
              have hEnd : ¬WordEnd (c :: cs) := by simp [WordEnd, hGap, hSeparator]
              obtain ⟨first, more, new, hFirst, head⟩ := exists_piece hRun hEnd hBroken
              have hComment : first ≠ ['#'] := by
                rintro rfl
                exact hHash (List.cons.inj hFirst).1
              rw [hFirst, run_piece head fun h => absurd h hComment] at hRun
              obtain ⟨text, rest, items, rfl, pieces⟩ := exists_pieces rfl hRun
              rw [run_pieces pieces rfl, run_wordEnd pieces.wordEnd] at hRun
              have hRest : rest.length < (c :: cs).length := by
                rw [hFirst]
                exact Nat.lt_of_le_of_lt (by simp) (length_lt_append head.ne_nil (text ++ rest))
              obtain ⟨out, derives⟩ := ih rest.length hRest (draft_endWord _) hRun rfl
              rw [hFirst, ← List.append_assoc]
              exact ⟨_, .word head hComment pieces derives⟩

end Scan

/-- The grammar gives a text the tokens that are found in it. -/
theorem derives_of_tokens {text : String} {ts : List Token} (h : tokens text = .ok ts) :
    Derives text.toList ts := by
  obtain ⟨out, derives⟩ := Scan.exists_derives (s := .start) rfl h
  have hOut : tokens text = .ok out := Scan.run_derives (s := .start) derives rfl
  rw [h] at hOut
  cases hOut
  exact derives

theorem tokens_of_derives {text : String} {ts : List Token} (h : Derives text.toList ts) :
    tokens text = .ok ts :=
  Scan.run_derives (s := .start) h rfl

/-- Tokens are found in a text exactly if the grammar gives it these tokens. -/
theorem tokens_eq_ok_iff (text : String) (ts : List Token) :
    tokens text = .ok ts ↔ Derives text.toList ts := by
  constructor
  · intro hRun
    exact derives_of_tokens hRun
  · intro derives
    exact tokens_of_derives derives

end ScriptShell
