import ScriptShell.Proofs.Statement.Derivation
/-!
Where the names in a statement come from. A variable whose value a word takes stands in the text as
it is. The name of an assignment need not: quotes, backslashes and line continuations may stand
among its characters, since they are gone when assignments are told apart.
-/
namespace ScriptShell

namespace Grammar

/-- A name that is written with quotes, backslashes and line continuations among its characters, or
without any. -/
inductive Pieced : (text name : List Char) → Prop
  | nil : Pieced [] []
  | char (c : Char) {text name : List Char} (rest : Pieced text name) :
      Pieced (c :: text) (c :: name)
  | mark {c : Char} {text name : List Char} (mark : c = '\'' ∨ c = '"' ∨ c = '\\')
      (rest : Pieced text name) : Pieced (c :: text) name
  | continued {br text name : List Char} (broken : Break br) (rest : Pieced text name) :
      Pieced (br ++ text) name

theorem Pieced.append {text more name rest : List Char} (h : Pieced text name)
    (hMore : Pieced more rest) : Pieced (text ++ more) (name ++ rest) := by
  induction h with
  | nil => exact hMore
  | char c _ ih => exact .char c ih
  | mark mark _ ih => exact .mark mark ih
  | continued broken _ ih =>
      rw [List.append_assoc]
      exact .continued broken ih

/-- The items of a text hold names of the text: a variable's name stands in it as it is, and
characters of a name at the beginning are written at its beginning, in pieces. -/
structure Sourced (text : List Char) (items : List Item) : Prop where
  values : ∀ name, .value name ∈ items → isName name = true ∧ name <:+: text
  start : ∀ name rest, (∀ c ∈ name, isNameChar c = true) → items = name.map .char ++ rest →
    ∃ piece, piece <+: text ∧ Pieced piece name
  whole : ∀ name, (∀ c ∈ name, isNameChar c = true) → items = name.map .char → Pieced text name

namespace Sourced
variable {text more : List Char} {items new : List Item}

/-- What gives no items is written in pieces that are no characters. -/
theorem of_pieced (h : Pieced text []) : Sourced text [] where
  values := by simp
  start name rest _ hItems := by
    obtain ⟨hName, _⟩ := List.append_eq_nil_iff.mp hItems.symm
    rw [List.map_eq_nil_iff.mp hName]
    exact ⟨[], List.nil_prefix, .nil⟩
  whole name _ hItems := by
    rw [List.map_eq_nil_iff.mp hItems.symm]
    exact h

theorem char (c : Char) : Sourced [c] [.char c] where
  values := by simp
  start name rest _ hItems := by
    cases name with
    | nil => exact ⟨[], List.nil_prefix, .nil⟩
    | cons d name =>
        simp only [List.map_cons, List.cons_append, List.cons.injEq, Item.char.injEq] at hItems
        obtain ⟨rfl, hNone⟩ := hItems
        rw [List.map_eq_nil_iff.mp (List.append_eq_nil_iff.mp hNone.symm).1]
        exact ⟨[c], List.prefix_refl _, .char c .nil⟩
  whole name _ hItems := by
    obtain ⟨d, rfl, hChar⟩ := List.map_eq_singleton_iff.mp hItems.symm
    cases hChar
    exact .char c .nil

theorem value {name : List Char} (named : isName name = true) (hText : name <:+: text) :
    Sourced text [.value name] where
  values other hMem := by
    cases List.mem_singleton.mp hMem
    exact ⟨named, hText⟩
  start first rest _ hItems := by
    cases first with
    | nil => exact ⟨[], List.nil_prefix, .nil⟩
    | cons c first => simp at hItems
  whole first _ hItems := by
    obtain ⟨c, _, hChar⟩ := List.map_eq_singleton_iff.mp hItems.symm
    cases hChar

theorem append (h : Sourced text items) (hMore : Sourced more new) :
    Sourced (text ++ more) (items ++ new) where
  values name hMem := by
    rcases List.mem_append.mp hMem with hMem | hMem
    · obtain ⟨hName, hText⟩ := h.values name hMem
      exact ⟨hName, hText.trans (List.prefix_append ..).isInfix⟩
    · obtain ⟨hName, hText⟩ := hMore.values name hMem
      exact ⟨hName, hText.trans (List.suffix_append ..).isInfix⟩
  start name rest hName hItems := by
    rcases List.append_eq_append_iff.mp hItems with ⟨as, hWhole, hRest⟩ | ⟨bs, hStart, _⟩
    · -- the name goes on in the second text
      obtain ⟨first, second, rfl, rfl, rfl⟩ := List.map_eq_append_iff.mp hWhole
      rw [List.forall_mem_append] at hName
      obtain ⟨piece, ⟨after, rfl⟩, hPiece⟩ := hMore.start second rest hName.2 hRest
      refine ⟨text ++ piece, ⟨after, by rw [List.append_assoc]⟩, ?_⟩
      exact (h.whole first hName.1 rfl).append hPiece
    · obtain ⟨piece, hPrefix, hPiece⟩ := h.start name bs hName hStart
      exact ⟨piece, hPrefix.trans (List.prefix_append ..), hPiece⟩
  whole name hName hItems := by
    obtain ⟨first, second, rfl, hFirst, hSecond⟩ := List.map_eq_append_iff.mp hItems.symm
    rw [List.forall_mem_append] at hName
    exact (h.whole first hName.1 hFirst.symm).append (hMore.whole second hName.2 hSecond.symm)

theorem mark {c : Char} (mark : c = '\'' ∨ c = '"' ∨ c = '\\') : Sourced [c] [] :=
  of_pieced (.mark mark .nil)

theorem chars (text : List Char) : Sourced text (text.map .char) := by
  induction text with
  | nil => exact of_pieced .nil
  | cons c text ih => exact (char c).append ih

theorem continued {br : List Char} (broken : Break br) : Sourced br [] := by
  have h : Pieced (br ++ []) [] := .continued broken .nil
  rw [List.append_nil] at h
  exact of_pieced h

end Sourced

section
variable {text follows : List Char} {items : List Item}

theorem Substitution.sourced (h : Substitution text follows items) : Sourced text items := by
  cases h with
  | @named name _ named longest => exact .value named (List.suffix_cons '$' name).isInfix
  | @braced name _ named => exact .value named ⟨['$', '\x7b'], ['\x7d'], by simp⟩
  | lone _ => exact .char '$'

theorem Quoted.sourced (h : Quoted text follows items) : Sourced text items := by
  induction h with
  | nil => exact .of_pieced .nil
  | char _ _ ih => exact (Sourced.char _).append ih
  | escape _ _ ih => exact (Sourced.mark (.inr (.inr rfl))).append ((Sourced.char _).append ih)
  | backslash _ _ _ ih => exact (Sourced.char _).append ih
  | continued broken _ ih => exact (Sourced.continued broken).append ih
  | substitution head _ ih => exact head.sourced.append ih

theorem Piece.sourced (h : Piece text follows items) : Sourced text items := by
  cases h with
  | char _ => exact .char _
  | escape _ => exact (Sourced.mark (.inr (.inr rfl))).append (.char _)
  | @single text _ _ =>
      have hQuote : Sourced ['\''] [] := .mark (.inl rfl)
      have hText := (hQuote.append (.chars text)).append hQuote
      rwa [List.nil_append, List.append_nil] at hText
  | double quoted =>
      have hQuote : Sourced ['"'] [] := .mark (.inr (.inl rfl))
      have hText := (hQuote.append quoted.sourced).append hQuote
      rwa [List.nil_append, List.append_nil] at hText
  | substitution head => exact head.sourced

theorem Pieces.sourced (h : Pieces text follows items) : Sourced text items := by
  induction h with
  | nil _ => exact .of_pieced .nil
  | cons head _ ih => exact head.sourced.append ih
  | continued broken _ _ ih => exact (Sourced.continued broken).append ih

end

/-- Every word of a text is written in a part of it. -/
theorem Derives.sourced {text : List Char} {ts : List Token} (h : Derives text ts) {word : Word}
    (hMem : .word word ∈ ts) :
    ∃ part items, part <:+: text ∧ Sourced part items ∧ word = wordOf items := by
  induction h with
  | nil => cases hMem
  | comment => cases hMem
  | gap _ _ ih =>
      obtain ⟨part, items, hPart, hSource⟩ := ih hMem
      exact ⟨part, items, hPart.trans (List.suffix_cons ..).isInfix, hSource⟩
  | separator _ ih =>
      obtain ⟨part, items, hPart, hSource⟩ := ih (by simpa using hMem)
      exact ⟨part, items, hPart.trans (List.suffix_cons ..).isInfix, hSource⟩
  | continued _ _ _ ih =>
      obtain ⟨part, items, hPart, hSource⟩ := ih hMem
      exact ⟨part, items, hPart.trans (List.suffix_append ..).isInfix, hSource⟩
  | @word first text rest new items ts head _ pieces _ ih =>
      rcases List.mem_cons.mp hMem with hWord | hMem
      · cases hWord
        exact ⟨first ++ text, new ++ items, (List.prefix_append ..).isInfix,
          head.sourced.append pieces.sourced, rfl⟩
      · obtain ⟨part, items, hPart, hSource⟩ := ih hMem
        exact ⟨part, items, hPart.trans (List.suffix_append ..).isInfix, hSource⟩

theorem mem_wordOf {items : List Item} {name : String} (h : .substitution name ∈ wordOf items) :
    .value name.toList ∈ items := by
  induction items with
  | nil => cases h
  | cons item items ih =>
      rw [wordOf, List.foldr_cons] at h
      change _ ∈ consItem item (wordOf items) at h
      cases item with
      | value other =>
          rcases List.mem_cons.mp h with hHead | hRest
          · cases hHead
            simp
          · exact List.mem_cons_of_mem _ (ih hRest)
      | char c =>
          refine List.mem_cons_of_mem _ (ih ?_)
          cases hWord : wordOf items with
          | nil => rw [hWord] at h; simp [consItem] at h
          | cons part parts =>
              rw [hWord] at h
              cases part <;> simpa [consItem] using h

/-- A literal at the beginning of a word has its characters from the beginning of the items. -/
theorem exists_of_wordOf {items : List Item} {text : String} {parts : Word}
    (h : wordOf items = .literal text :: parts) :
    ∃ rest, items = text.toList.map .char ++ rest := by
  induction items generalizing text parts with
  | nil => cases h
  | cons item items ih =>
      rw [wordOf, List.foldr_cons] at h
      change consItem item (wordOf items) = _ at h
      cases item with
      | value other => cases h
      | char c =>
          cases hWord : wordOf items with
          | nil =>
              rw [hWord] at h
              cases h
              exact ⟨items, by simp⟩
          | cons part more =>
              rw [hWord] at h
              cases part with
              | substitution name =>
                  cases h
                  exact ⟨items, by simp⟩
              | literal old =>
                  cases h
                  obtain ⟨rest, hItems⟩ := ih hWord
                  exact ⟨rest, by simp [hItems]⟩

end Grammar

end ScriptShell
