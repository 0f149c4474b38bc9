import ScriptShell.Proofs.Statement.Names
import Mathlib.Data.List.Chain
/-!
Which tokens texts have. The scanner makes no empty literal and no two literals side by side, and
the variables of its words have names. All tokens of this kind can be written out, with every
literal in single quotes and every variable in braces, as a text that has just these tokens.
-/
namespace ScriptShell

open Grammar

/-- Whether a piece of a word can come from a text: literals are not empty, and variables have
names. -/
def Part.isNormal : Part → Bool
  | .literal text => text != ""
  | .substitution name => isName name.toList

def Part.isLiteral : Part → Bool
  | .literal _ => true
  | .substitution _ => false

/-- Whether a word can come from a text: its pieces can, and no two literals stand side by side. -/
def NormalWord (word : Word) : Prop :=
  (∀ part ∈ word, part.isNormal = true) ∧
    word.IsChain fun part next => ¬(part.isLiteral = true ∧ next.isLiteral = true)

/-- Whether the words of some tokens can come from a text. -/
def Normal (ts : List Token) : Prop :=
  ∀ word, .word word ∈ ts → NormalWord word

section
variable {part : Part} {word : Word}

theorem NormalWord.nil : NormalWord [] :=
  ⟨by simp, .nil⟩

theorem NormalWord.tail (h : NormalWord (part :: word)) : NormalWord word :=
  ⟨fun other hMem => h.1 other (List.mem_cons_of_mem _ hMem), h.2.tail⟩

theorem NormalWord.substitution {name : String} (named : isName name.toList = true)
    (h : NormalWord word) : NormalWord (.substitution name :: word) := by
  refine ⟨List.forall_mem_cons.mpr ⟨named, h.1⟩, h.2.cons ?_⟩
  intro next _ hBoth
  cases hBoth.1

theorem NormalWord.literal {text : String} (hText : text ≠ "")
    (hNext : ∀ more parts, word ≠ .literal more :: parts) (h : NormalWord word) :
    NormalWord (.literal text :: word) := by
  refine ⟨List.forall_mem_cons.mpr ⟨by simpa [Part.isNormal] using hText, h.1⟩, h.2.cons ?_⟩
  intro next hHead hBoth
  obtain ⟨parts, rfl⟩ := List.head?_eq_some_iff.mp hHead
  cases next with
  | literal more => exact hNext more parts rfl
  | substitution name => cases hBoth.2

theorem NormalWord.not_literal {text : String} (h : NormalWord (.literal text :: word)) :
    ∀ more parts, word ≠ .literal more :: parts := by
  rintro more parts rfl
  exact (List.isChain_cons_cons.mp h.2).1 ⟨rfl, rfl⟩

end

theorem ofList_cons_ne_empty (c : Char) (cs : List Char) : String.ofList (c :: cs) ≠ "" := by
  rw [ne_eq, ← String.toList_eq_nil_iff, String.toList_ofList]
  exact List.cons_ne_nil c cs

/-- Characters that come side by side make one literal, so a literal is never followed by another
one. -/
theorem normalWord_wordOf {items : List Item}
    (h : ∀ name, .value name ∈ items → isName name = true) : NormalWord (wordOf items) := by
  induction items with
  | nil => exact .nil
  | cons item items ih =>
      have hRest := ih fun name hMem => h name (List.mem_cons_of_mem _ hMem)
      change NormalWord (consItem item (wordOf items))
      cases item with
      | value name =>
          exact hRest.substitution (by simpa using h name List.mem_cons_self)
      | char c =>
          cases hWord : wordOf items with
          | nil => exact .literal (ofList_cons_ne_empty c []) (by simp) .nil
          | cons part parts =>
              rw [hWord] at hRest
              cases part with
              | literal text =>
                  exact .literal (ofList_cons_ne_empty c _) hRest.not_literal hRest.tail
              | substitution name => exact .literal (ofList_cons_ne_empty c []) (by simp) hRest

theorem normal_of_derives {text : List Char} {ts : List Token} (h : Derives text ts) :
    Normal ts := by
  intro word hMem
  obtain ⟨part, items, _, hSource, rfl⟩ := h.sourced hMem
  exact normalWord_wordOf fun name hName => (hSource.values name hName).1

/-- How a character is written in a text in single quotes. A single quote is written between two
quoted pieces, after a backslash. -/
def singleQuoteChar (c : Char) : List Char :=
  if c = '\'' then ['\'', '\\', '\'', '\''] else [c]

/-- A text in single quotes. -/
def singleQuoted (text : String) : String :=
  String.ofList ('\'' :: (text.toList.flatMap singleQuoteChar ++ ['\'']))

theorem wordOf_chars (text : List Char) : wordOf (text.map .char) = literalOf text := by
  rw [wordOf, foldr_consItem_chars text [] (by simp), List.append_nil]

theorem toList_singleQuoted (text : String) :
    (singleQuoted text).toList = '\'' :: (text.toList.flatMap singleQuoteChar ++ ['\'']) :=
  String.toList_ofList

namespace Scan
variable {s : Scan} {text rest : List Char}

/-- What is written between the quotes gives its text, character by character. -/
theorem run_singleQuoteChars (hDraft : s.draft.isSome = true) :
    (s.goto .single).run (text.flatMap singleQuoteChar ++ rest) =
      ((s.extend (text.map .char)).goto .single).run rest := by
  induction text generalizing s with
  | nil =>
      rw [List.map_nil, extend_nil hDraft]
      rfl
  | cons c text ih =>
      have hNext := ih (s := s.put c) rfl
      rw [put_eq_extend, extend_extend, List.singleton_append] at hNext
      rw [List.flatMap_cons, List.append_assoc, List.map_cons, ← hNext, ← put_eq_extend]
      by_cases hQuote : c = '\''
      · subst hQuote
        obtain ⟨mode, tokens, draft⟩ := s
        cases draft with
        | none => cases hDraft
        | some d => rfl
      · have hChar : singleQuoteChar c = [c] := if_neg hQuote
        rw [hChar, List.singleton_append, run_cons (step_single hQuote s)]

theorem run_singleQuoted (s : Scan) (text : String) (rest : List Char) :
    (s.goto .plain).run ((singleQuoted text).toList ++ rest) =
      ((s.extend (text.toList.map .char)).goto .plain).run rest := by
  have hOpen (cs : List Char) :
      (s.goto .plain).run ('\'' :: cs) = (s.openWord.goto .single).run cs :=
    run_plain_cons s '\'' cs
  rw [toList_singleQuoted, List.cons_append, List.append_assoc, hOpen,
    run_singleQuoteChars (s := s.openWord) rfl, extend_openWord]
  rfl

theorem done_extend (hDraft : s.draft = none) (items : List Item) :
    (s.extend items).done = s.tokens.reverse ++ [.word (wordOf items)] := by
  have hWord : s.word = {} := by rw [word, hDraft]; rfl
  have hTokens : (s.extend items).endWord.tokens = .word (wordOf items) :: s.tokens := by
    rw [← toWord_start, ← hWord]
    rfl
  rw [done, hTokens, List.reverse_cons]

end Scan

/-- How a piece of a word is written: a literal in single quotes, a variable in braces. -/
def Part.written : Part → String
  | .literal text => singleQuoted text
  | .substitution name => "$\x7b" ++ name ++ "\x7d"

/-- How a token is written. The word without pieces is written as an empty pair of quotes. -/
def Token.written : Token → String
  | .word [] => singleQuoted ""
  | .word parts => String.join (parts.map Part.written)
  | .separator => ";"

/-- How tokens are written, with a space between them. -/
def written (ts : List Token) : String :=
  " ".intercalate (ts.map Token.written)

/-- What a piece of a word gives. -/
def Part.items : Part → List Item
  | .literal text => text.toList.map .char
  | .substitution name => [.value name.toList]

/-- The pieces of a word that can come from a text are found again in what they give. -/
theorem wordOf_items {word : Word} (h : NormalWord word) :
    wordOf (word.flatMap Part.items) = word := by
  induction word with
  | nil => rfl
  | cons part word ih =>
      have hRest : (word.flatMap Part.items).foldr consItem [] = word := ih h.tail
      rw [List.flatMap_cons, wordOf, List.foldr_append, hRest]
      cases part with
      | substitution name => simp [Part.items, consItem]
      | literal text =>
          have hText : text.toList ≠ [] := by
            simpa [Part.isNormal] using h.1 (.literal text) List.mem_cons_self
          have hLiteral : literalOf text.toList = [.literal text] := by simp [literalOf, hText]
          rw [Part.items, foldr_consItem_chars _ _ h.not_literal, hLiteral, List.singleton_append]

namespace Scan
variable {s : Scan} {word : Word} {rest : List Char}

theorem run_part {part : Part} (h : part.isNormal = true) (s : Scan) (rest : List Char) :
    (s.goto .plain).run (part.written.toList ++ rest) =
      ((s.extend part.items).goto .plain).run rest := by
  cases part with
  | literal text => exact run_singleQuoted s text rest
  | substitution name =>
      have hHead : Substitution ('$' :: '\x7b' :: (name.toList ++ ['\x7d'])) rest
          [.value name.toList] := .braced h
      have hText : (Part.substitution name).written.toList =
          '$' :: '\x7b' :: (name.toList ++ ['\x7d']) := by simp [Part.written]
      rw [hText]
      exact run_substitution hHead s false

theorem run_parts (h : NormalWord word) (hDraft : word = [] → s.draft.isSome = true) :
    (s.goto .plain).run ((String.join (word.map Part.written)).toList ++ rest) =
      ((s.extend (word.flatMap Part.items)).goto .plain).run rest := by
  induction word generalizing s with
  | nil =>
      rw [List.flatMap_nil, extend_nil (hDraft rfl)]
      rfl
  | cons part word ih =>
      rw [List.map_cons, String.join_cons, String.toList_append, List.append_assoc,
        run_part (h.1 part List.mem_cons_self), ih h.tail fun _ => rfl, extend_extend,
        List.flatMap_cons]

/-- The scan after a token that was written out. -/
def take (s : Scan) : Token → Scan
  | .word parts => s.extend (parts.flatMap Part.items)
  | .separator => s.separate

theorem run_written {t : Token} (h : ∀ word, t = .word word → NormalWord word) (s : Scan)
    (rest : List Char) :
    (s.goto .plain).run (t.written.toList ++ rest) = ((s.take t).goto .plain).run rest := by
  cases t with
  | separator => exact run_plain_cons s ';' rest
  | word parts =>
      cases parts with
      | nil => exact run_singleQuoted s "" rest
      | cons part parts => exact run_parts (h _ rfl) (by simp)

theorem done_take {t : Token} (h : ∀ word, t = .word word → NormalWord word)
    (hDraft : s.draft = none) : (s.take t).done = s.done ++ [t] := by
  rw [done_of_draft hDraft]
  cases t with
  | word parts => rw [take, done_extend hDraft, wordOf_items (h _ rfl)]
  | separator =>
      have hNone : s.separate.draft = none := draft_endWord s
      rw [take, done_of_draft hNone, separate, endWord_of_draft hDraft]
      exact List.reverse_cons

/-- Each token ends the word before it. -/
theorem run_writtenTokens {ts : List Token} (h : Normal ts) (s : Scan) :
    (s.goto .plain).run (String.join (ts.map fun t => " " ++ t.written)).toList =
      .ok (s.done ++ ts) := by
  induction ts generalizing s with
  | nil =>
      rw [List.append_nil]
      exact congrArg Except.ok (done_goto s .plain)
  | cons t ts ih =>
      have hFirst : ∀ word, t = .word word → NormalWord word :=
        fun word hWord => h word (hWord ▸ List.mem_cons_self)
      have hGap (cs : List Char) :
          (s.goto .plain).run (' ' :: cs) = (s.endWord.goto .plain).run cs := by
        rw [run_plain_cons, outside_gap rfl]
      have hDone : (s.endWord.take t).done = s.done ++ [t] := by
        rw [done_take hFirst (draft_endWord s), done, endWord_endWord]
        rfl
      have hText : (String.join ((t :: ts).map fun t => " " ++ t.written)).toList =
          ' ' :: (t.written.toList ++
            (String.join (ts.map fun t => " " ++ t.written)).toList) := by
        simp [String.join_cons]
      rw [hText, hGap, run_written hFirst, ih fun word hMem => h word (List.mem_cons_of_mem _ hMem),
        hDone, List.append_assoc]
      rfl

end Scan

theorem written_cons (t : Token) (ts : List Token) :
    written (t :: ts) = t.written ++ String.join (ts.map fun t => " " ++ t.written) := by
  induction ts generalizing t with
  | nil => simp [written]
  | cons next ts ih =>
      have hNext := ih next
      rw [written, List.map_cons] at hNext ⊢
      rw [List.map_cons, String.intercalate_cons_cons, hNext, List.map_cons, String.join_cons]
      simp only [String.append_assoc]

/-- Tokens that can come from a text come from the text that they are written as. -/
theorem tokens_written {ts : List Token} (h : Normal ts) : tokens (written ts) = .ok ts := by
  cases ts with
  | nil => rfl
  | cons t ts =>
      have hFirst : ∀ word, t = .word word → NormalWord word :=
        fun word hWord => h word (hWord ▸ List.mem_cons_self)
      have hRun : tokens (written (t :: ts)) =
          (Scan.start.goto .plain).run (written (t :: ts)).toList := rfl
      rw [hRun, written_cons, String.toList_append, Scan.run_written hFirst,
        Scan.run_writtenTokens fun word hMem => h word (List.mem_cons_of_mem _ hMem),
        Scan.done_take hFirst rfl]
      rfl

example :
    written [.word [.literal "it's", .substitution "x"], .separator, .word []] =
      "'it'\\''s'$\x7bx\x7d ; ''" := by decide +kernel

/-- Tokens are those of some text exactly if their words are normal, and exactly if they are those
of the text that they are written as. -/
theorem exists_tokens_iff (ts : List Token) :
    ((∃ text, tokens text = .ok ts) ↔ Normal ts) ∧ (tokens (written ts) = .ok ts ↔ Normal ts) := by
  have hNormal (text : String) (hTokens : tokens text = .ok ts) : Normal ts :=
    normal_of_derives (derives_of_tokens hTokens)
  constructor
  · constructor
    · rintro ⟨text, hTokens⟩
      exact hNormal text hTokens
    · intro h
      exact ⟨written ts, tokens_written h⟩
  · exact ⟨hNormal (written ts), tokens_written⟩

end ScriptShell
