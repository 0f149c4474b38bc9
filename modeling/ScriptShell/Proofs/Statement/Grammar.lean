import ScriptShell.Statement.Scan
/-!
The grammar of a statement, on its own: which texts have which tokens. It says what a text is made
of, piece by piece, and nothing about how the pieces are found. A piece may depend on the characters
that come after it, as a variable name is as long as it can be; these stand next to it, as what
follows.
-/
namespace ScriptShell

namespace Grammar

/-- What a piece of a word gives: a character, or the value of a variable. -/
inductive Item where
  | char (c : Char)
  | value (name : List Char)
deriving DecidableEq, Repr

/-- A word with one more item at its front. Characters side by side make one literal. -/
def consItem : Item → Word → Word
  | .char c, .literal text :: parts => .literal (String.ofList (c :: text.toList)) :: parts
  | .char c, parts => .literal (String.ofList [c]) :: parts
  | .value name, parts => .substitution (String.ofList name) :: parts

/-- The word that has these items. -/
def wordOf (items : List Item) : Word :=
  items.foldr consItem []

/-- A line continuation: a backslash and the end of the line. -/
inductive Break : List Char → Prop
  | newline : Break ['\\', '\n']
  | carriageReturn : Break ['\\', '\r', '\n']

/-- Whether a text begins with a line continuation. -/
def Broken (cs : List Char) : Prop :=
  ∃ br rest, Break br ∧ cs = br ++ rest

/-- The characters that a backslash escapes inside double quotes. -/
def isEscapable (c : Char) : Bool :=
  c == '"' || c == '\\' || c == '$'

/-- A piece that begins with a dollar sign, inside double quotes or outside. -/
inductive Substitution : (text follows : List Char) → List Item → Prop
  /-- The name is the longest possible one. -/
  | named {name follows : List Char} (named : isName name = true)
      (longest : ∀ c ∈ follows.head?, isNameChar c = false) :
      Substitution ('$' :: name) follows [.value name]
  | braced {name follows : List Char} (named : isName name = true) :
      Substitution ('$' :: '\x7b' :: (name ++ ['\x7d'])) follows [.value name]
  /-- A dollar sign that begins nothing stands for itself. -/
  | lone {follows : List Char}
      (lone : ∀ c ∈ follows.head?, c ≠ '\x7b' ∧ isNameStart c = false) :
      Substitution ['$'] follows [.char '$']

/-- What stands between double quotes, and the closing one that follows it. -/
inductive Quoted : (text follows : List Char) → List Item → Prop
  | nil {follows : List Char} : Quoted [] follows []
  | char {c : Char} {text follows : List Char} {items : List Item}
      (ordinary : isEscapable c = false) (rest : Quoted text follows items) :
      Quoted (c :: text) follows (.char c :: items)
  | escape {c : Char} {text follows : List Char} {items : List Item}
      (escapable : isEscapable c = true) (rest : Quoted text follows items) :
      Quoted ('\\' :: c :: text) follows (.char c :: items)
  /-- A backslash that neither escapes a character nor continues a line stands for itself. -/
  | backslash {text follows : List Char} {items : List Item}
      (plain : ∀ c ∈ (text ++ follows).head?, isEscapable c = false)
      (unbroken : ¬Broken ('\\' :: (text ++ follows))) (rest : Quoted text follows items) :
      Quoted ('\\' :: text) follows (.char '\\' :: items)
  | continued {br text follows : List Char} {items : List Item} (broken : Break br)
      (rest : Quoted text follows items) : Quoted (br ++ text) follows items
  | substitution {first text follows : List Char} {new items : List Item}
      (head : Substitution first (text ++ follows) new) (rest : Quoted text follows items) :
      Quoted (first ++ text) follows (new ++ items)

/-- The characters that are not ordinary outside quotes. -/
def isSpecial (c : Char) : Bool :=
  Scan.isGap c || c == ';' || c == '\'' || c == '"' || c == '\\' || c == '$'

/-- A piece of a word, outside quotes. -/
inductive Piece : (text follows : List Char) → List Item → Prop
  | char {c : Char} {follows : List Char} (ordinary : isSpecial c = false) :
      Piece [c] follows [.char c]
  | escape {c : Char} {follows : List Char} (unbroken : ¬Broken ('\\' :: c :: follows)) :
      Piece ['\\', c] follows [.char c]
  | single {text follows : List Char} (verbatim : '\'' ∉ text) :
      Piece ('\'' :: (text ++ ['\''])) follows (text.map .char)
  | double {text follows : List Char} {items : List Item}
      (quoted : Quoted text ('"' :: follows) items) :
      Piece ('"' :: (text ++ ['"'])) follows items
  | substitution {text follows : List Char} {items : List Item}
      (substitution : Substitution text follows items) : Piece text follows items

/-- Whether a word has come to its end, by what follows it: nothing, a gap or a separator. -/
def WordEnd (follows : List Char) : Prop :=
  ∀ c ∈ follows.head?, Scan.isGap c = true ∨ c = ';'

/-- The pieces of a word that come after its first one, up to the end of the word. A line
continuation neither ends the word nor adds to it, but something must follow it. -/
inductive Pieces : (text follows : List Char) → List Item → Prop
  | nil {follows : List Char} (wordEnd : WordEnd follows) : Pieces [] follows []
  | cons {first text follows : List Char} {new items : List Item}
      (head : Piece first (text ++ follows) new) (rest : Pieces text follows items) :
      Pieces (first ++ text) follows (new ++ items)
  | continued {br text follows : List Char} {items : List Item} (broken : Break br)
      (followed : text ++ follows ≠ []) (rest : Pieces text follows items) :
      Pieces (br ++ text) follows items

/-- A text has these tokens: it is made of gaps, separators and words, and at its end there may be a
comment, which begins where a word would. -/
inductive Derives : List Char → List Token → Prop
  | nil : Derives [] []
  | comment (text : List Char) : Derives ('#' :: text) []
  | gap {c : Char} {rest : List Char} {ts : List Token} (gap : Scan.isGap c = true)
      (more : Derives rest ts) : Derives (c :: rest) ts
  | separator {rest : List Char} {ts : List Token} (more : Derives rest ts) :
      Derives (';' :: rest) (.separator :: ts)
  | continued {br rest : List Char} {ts : List Token} (broken : Break br) (followed : rest ≠ [])
      (more : Derives rest ts) : Derives (br ++ rest) ts
  | word {first text rest : List Char} {new items : List Item} {ts : List Token}
      (head : Piece first (text ++ rest) new) (noComment : first ≠ ['#'])
      (pieces : Pieces text rest items) (more : Derives rest ts) :
      Derives (first ++ text ++ rest) (.word (wordOf (new ++ items)) :: ts)

theorem Break.ne_nil {br : List Char} (h : Break br) : br ≠ [] := by
  cases h <;> simp

theorem Substitution.ne_nil {text follows : List Char} {items : List Item}
    (h : Substitution text follows items) : text ≠ [] := by
  cases h <;> simp

theorem Piece.ne_nil {text follows : List Char} {items : List Item}
    (h : Piece text follows items) : text ≠ [] := by
  cases h with
  | substitution h => exact h.ne_nil
  | _ => simp

theorem Pieces.wordEnd {text follows : List Char} {items : List Item}
    (h : Pieces text follows items) : WordEnd follows := by
  induction h with
  | nil wordEnd => exact wordEnd
  | cons _ _ ih => exact ih
  | continued _ _ _ ih => exact ih

/-- The literal that has this text, if it has any. -/
def literalOf (text : List Char) : Word :=
  if text = [] then [] else [.literal (String.ofList text)]

theorem consItem_char_literalOf (c : Char) (text : List Char) {parts : Word}
    (h : ∀ more rest, parts ≠ .literal more :: rest) :
    consItem (.char c) (literalOf text ++ parts) = literalOf (c :: text) ++ parts := by
  cases text with
  | cons d text => simp [literalOf, consItem]
  | nil =>
      cases parts with
      | nil => rfl
      | cons part rest =>
          cases part with
          | literal more => exact absurd rfl (h more rest)
          | substitution name => rfl

/-- Characters before something that is no text make a literal of their own. -/
theorem foldr_consItem_chars (text : List Char) (parts : Word)
    (h : ∀ more rest, parts ≠ .literal more :: rest) :
    (text.map Item.char).foldr consItem parts = literalOf text ++ parts := by
  induction text with
  | nil => rfl
  | cons c text ih => rw [List.map_cons, List.foldr_cons, ih, consItem_char_literalOf c text h]

/-- A draft with one more item. -/
def addItem (d : Draft) : Item → Draft
  | .char c => d.put c
  | .value name => d.putVariable (String.ofList name)

theorem parts_flush (d : Draft) :
    d.flush.parts.reverse = d.parts.reverse ++ literalOf d.text.reverse := by
  obtain ⟨parts, text⟩ := d
  cases text with
  | nil => simp [Draft.flush, literalOf]
  | cons c text => simp [Draft.flush, literalOf]

/-- The word of a draft is that of its text so far and the items that are added. -/
theorem toWord_addItems (d : Draft) (items : List Item) :
    (items.foldl addItem d).toWord =
      d.parts.reverse ++ wordOf (d.text.reverse.map .char ++ items) := by
  induction items generalizing d with
  | nil =>
      rw [List.append_nil, wordOf, foldr_consItem_chars _ [] (by simp), List.append_nil]
      exact parts_flush d
  | cons item items ih =>
      rw [List.foldl_cons, ih]
      cases item with
      | char c => simp [addItem, Draft.put]
      | value name =>
          have hParts := parts_flush d
          have hText := foldr_consItem_chars d.text.reverse
            (consItem (.value name) (wordOf items)) (by simp [consItem])
          simp only [wordOf, List.foldr_append, List.foldr_cons] at hText ⊢
          rw [hText]
          simp [addItem, Draft.putVariable, hParts, consItem]

/-- What a word comes to that is read from its beginning. -/
theorem toWord_start (items : List Item) :
    (items.foldl addItem {}).toWord = wordOf items := by
  rw [toWord_addItems]
  rfl

end Grammar

end ScriptShell
