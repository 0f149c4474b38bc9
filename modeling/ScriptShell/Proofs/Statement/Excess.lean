import ScriptShell.Statement.Scan
/-!
Scans that go in step. Where two scans stand in the same mode, and both or neither of them are in
the middle of a word, the same characters take them through the same modes to the same end. So all
that can tell them apart then is the text that they have collected, and what one is ahead of the
other in text it stays ahead.
-/
namespace ScriptShell

def Part.text : Part → List Char
  | .literal text => text.toList
  | .substitution _ => []

def Token.text : Token → List Char
  | .word parts => parts.flatMap Part.text
  | .separator => []

/-- How much text the tokens hold. -/
def textSize (tokens : List Token) : Nat :=
  (tokens.flatMap Token.text).length

def Draft.size (d : Draft) : Nat :=
  (d.parts.flatMap Part.text).length + d.text.length

theorem length_flatMap_reverse {α β : Type} (f : α → List β) (as : List α) :
    (as.reverse.flatMap f).length = (as.flatMap f).length := by
  rw [List.length_flatMap, List.length_flatMap, List.map_reverse, List.sum_reverse]

namespace Draft

theorem size_flush (d : Draft) : d.flush.size = d.size := by
  obtain ⟨parts, text⟩ := d
  cases text with
  | nil => rfl
  | cons c rest =>
      simp only [flush, size, List.flatMap_cons, Part.text, String.toList_ofList,
        List.length_append, List.length_reverse, List.length_nil]
      omega

theorem text_flush (d : Draft) : d.flush.text = [] := by
  obtain ⟨parts, text⟩ := d
  cases text <;> rfl

/-- A flushed draft has all of its text in its pieces. -/
theorem length_parts_flush (d : Draft) : (d.flush.parts.flatMap Part.text).length = d.size := by
  rw [← d.size_flush, size, d.text_flush]
  rfl

theorem size_toWord (d : Draft) : (Token.word d.toWord).text.length = d.size := by
  rw [Token.text, toWord, length_flatMap_reverse, d.length_parts_flush]

theorem size_putVariable (d : Draft) (name : String) : (d.putVariable name).size = d.size :=
  d.length_parts_flush

end Draft

namespace Scan

/-- How much text a scan has collected. -/
def size (s : Scan) : Nat :=
  textSize s.tokens + s.word.size

@[simp]
theorem size_put (s : Scan) (c : Char) : (s.put c).size = s.size + 1 := rfl

@[simp]
theorem size_putVariable (s : Scan) (name : List Char) : (s.putVariable name).size = s.size := by
  change textSize s.tokens + (s.word.putVariable (String.ofList name)).size = s.size
  rw [Draft.size_putVariable]
  rfl

@[simp]
theorem size_endWord (s : Scan) : s.endWord.size = s.size := by
  obtain ⟨mode, tokens, draft⟩ := s
  cases draft with
  | none => rfl
  | some d =>
      change ((Token.word d.toWord).text ++ tokens.flatMap Token.text).length + 0 =
        textSize tokens + d.size
      rw [List.length_append, Draft.size_toWord, textSize]
      omega

theorem draft_endWord (s : Scan) : s.endWord.draft = none := by
  obtain ⟨mode, tokens, draft⟩ := s
  cases draft <;> rfl

@[simp]
theorem size_separate (s : Scan) : s.separate.size = s.size := by
  rw [← s.size_endWord]
  rfl

theorem size_done (s : Scan) : textSize s.done = s.size := by
  rw [← s.size_endWord, size, word, s.draft_endWord, done, textSize, length_flatMap_reverse]
  rfl

/-- The second scan goes in step with the first one and is ahead of it by `excess` characters of
text. Two scans that are not apart are the same. -/
structure Ahead (excess : Nat) (s t : Scan) : Prop where
  mode : t.mode = s.mode
  draft : t.draft.isSome = s.draft.isSome
  size : t.size = s.size + excess
  same : excess = 0 → t = s

namespace Ahead
variable {excess : Nat} {s t : Scan}

theorem refl (s : Scan) : Ahead 0 s s :=
  ⟨rfl, rfl, rfl, fun _ => rfl⟩

theorem goto (h : Ahead excess s t) (mode : Mode) : Ahead excess (s.goto mode) (t.goto mode) :=
  ⟨rfl, h.draft, h.size, fun hNone => by rw [h.same hNone]⟩

theorem openWord (h : Ahead excess s t) : Ahead excess s.openWord t.openWord :=
  ⟨h.mode, rfl, h.size, fun hNone => by rw [h.same hNone]⟩

theorem put (h : Ahead excess s t) (c : Char) : Ahead excess (s.put c) (t.put c) := by
  refine ⟨h.mode, rfl, ?_, fun hNone => by rw [h.same hNone]⟩
  rw [size_put, size_put, h.size]
  omega

/-- One more character puts the second scan ahead by one more. -/
theorem putAgain (h : Ahead excess s t) (c : Char) (hDraft : s.draft.isSome = true) :
    Ahead (excess + 1) s (t.put c) := by
  refine ⟨h.mode, hDraft.symm, ?_, fun hNone => by omega⟩
  rw [size_put, h.size, Nat.add_assoc]

theorem putVariable (h : Ahead excess s t) (name : List Char) :
    Ahead excess (s.putVariable name) (t.putVariable name) :=
  ⟨h.mode, rfl, by simp [h.size], fun hNone => by rw [h.same hNone]⟩

theorem endWord (h : Ahead excess s t) : Ahead excess s.endWord t.endWord := by
  refine ⟨?_, ?_, by simp [h.size], fun hNone => by rw [h.same hNone]⟩
  have hMode : ∀ s : Scan, s.endWord.mode = s.mode := by
    rintro ⟨mode, tokens, draft⟩
    cases draft <;> rfl
  · rw [hMode, hMode, h.mode]
  · rw [draft_endWord, draft_endWord]

theorem separate (h : Ahead excess s t) : Ahead excess s.separate t.separate :=
  ⟨h.endWord.mode, h.endWord.draft, by simp [h.size], fun hNone => by rw [h.same hNone]⟩

theorem outside (h : Ahead excess s t) (c : Char) : Ahead excess (s.outside c) (t.outside c) := by
  have hDraft : t.draft.isNone = s.draft.isNone := by
    rw [← Option.not_isSome, ← Option.not_isSome, h.draft]
  unfold Scan.outside
  rw [hDraft]
  split
  · exact h.goto _
  · split
    · exact h.endWord.goto _
    · split
      · exact h.separate.goto _
      · exact h.openWord.goto _
      · exact h.openWord.goto _
      · exact h.goto _
      · exact h.openWord.goto _
      · exact (h.put c).goto _

theorem inside (h : Ahead excess s t) (c : Char) : Ahead excess (s.inside c) (t.inside c) := by
  unfold Scan.inside
  split
  · exact h.goto _
  · exact h.goto _
  · exact h.goto _
  · exact (h.put c).goto _

theorem resume (h : Ahead excess s t) (quoted : Bool) (c : Char) :
    Ahead excess (s.resume quoted c) (t.resume quoted c) := by
  cases quoted with
  | false => exact h.outside c
  | true => exact h.inside c

end Ahead

/-- Two outcomes that are both a fault, and the same one, or both none, and then related. -/
inductive Alike {α : Type} (rel : α → α → Prop) :
    Except TokenFault α → Except TokenFault α → Prop
  | ok {a b : α} (h : rel a b) : Alike rel (.ok a) (.ok b)
  | error (fault : TokenFault) : Alike rel (.error fault) (.error fault)

theorem alike_iff {α : Type} {rel : α → α → Prop} {x y : Except TokenFault α} :
    Alike rel x y ↔ (∃ a b, x = .ok a ∧ y = .ok b ∧ rel a b) ∨
      ∃ fault, x = .error fault ∧ y = .error fault := by
  constructor
  · rintro (h | fault)
    · exact .inl ⟨_, _, rfl, rfl, h⟩
    · exact .inr ⟨fault, rfl, rfl⟩
  · rintro (⟨a, b, rfl, rfl, h⟩ | ⟨fault, rfl, rfl⟩)
    · exact .ok h
    · exact .error fault

theorem Alike.bind {α β : Type} {rel : α → α → Prop} {rel' : β → β → Prop}
    {x y : Except TokenFault α} {f g : α → Except TokenFault β} (h : Alike rel x y)
    (hNext : ∀ a b, rel a b → Alike rel' (f a) (g b)) : Alike rel' (x.bind f) (y.bind g) := by
  cases h with
  | ok h => exact hNext _ _ h
  | error fault => exact .error fault

namespace Ahead
variable {excess : Nat} {s t : Scan}

/-- One character keeps two scans in step, whatever their mode. -/
theorem step (h : Ahead excess s t) (c : Char) : Alike (Ahead excess) (s.step c) (t.step c) := by
  unfold Scan.step
  rw [h.mode]
  cases s.mode with
  | plain => exact .ok (h.outside c)
  | continued => exact .ok (h.outside c)
  | escape =>
      refine .ok ?_
      split
      · exact h.goto _
      · exact h.goto _
      · exact (h.put c).goto _
  | escapeReturn =>
      refine .ok ?_
      split
      · exact h.goto _
      · exact (h.put _).outside c
  | single =>
      refine .ok ?_
      split
      · exact h.goto _
      · exact h.put c
  | double => exact .ok (h.inside c)
  | doubleEscape =>
      refine .ok ?_
      split
      · exact h.goto _
      · exact h.goto _
      · exact (h.put _).goto _
      · exact (h.put _).goto _
      · exact (h.put _).goto _
      · exact (h.put _).inside c
  | doubleEscapeReturn =>
      refine .ok ?_
      split
      · exact h.goto _
      · exact ((h.put _).put _).inside c
  | dollar quoted =>
      refine .ok ?_
      split
      · exact h.goto _
      · split
        · exact h.goto _
        · exact (h.put _).resume quoted c
  | name quoted read =>
      refine .ok ?_
      split
      · exact h.goto _
      · exact (h.putVariable _).resume quoted c
  | braced quoted read =>
      dsimp only
      split
      · split
        · exact .ok ((h.putVariable _).goto _)
        · exact .error _
      · exact .ok (h.goto _)
  | comment => exact .ok h

/-- Any characters do. The induction is on the characters. -/
theorem advance (h : Ahead excess s t) (cs : List Char) :
    Alike (Ahead excess) (s.advance cs) (t.advance cs) := by
  induction cs generalizing s t with
  | nil => exact .ok h
  | cons c rest ih => exact (h.step c).bind fun s t h => ih h

theorem done (h : Ahead excess s t) :
    textSize t.done = textSize s.done + excess ∧ (excess = 0 → t.done = s.done) := by
  rw [size_done, size_done]
  exact ⟨h.size, fun hNone => by rw [h.same hNone]⟩

/-- Scans in step end alike, and where they end in tokens one is ahead as before. -/
theorem finish (h : Ahead excess s t) :
    Alike (fun ts us => textSize us = textSize ts + excess ∧ (excess = 0 → us = ts))
      s.finish t.finish := by
  unfold Scan.finish
  rw [h.mode]
  cases s.mode with
  | plain => exact .ok h.done
  | comment => exact .ok h.done
  | escapeReturn => exact .ok (h.put _).done
  | dollar quoted =>
      cases quoted with
      | false => exact .ok (h.put _).done
      | true => exact .error _
  | name quoted read =>
      cases quoted with
      | false => exact .ok (h.putVariable _).done
      | true => exact .error _
  | _ => exact .error _

end Ahead

end Scan

end ScriptShell
