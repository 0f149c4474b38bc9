import ScriptShell.Text.Basic
/-!
Which texts write a natural number of 64 bits. The number that is read is the value of all the
digits, however many there are, so no text is taken for a number that it does not write.
-/
namespace ScriptShell.Text

/-- What is taken off a text are blanks at its ends. -/
theorem exists_trim (s : String) :
    ∃ before after, s.toList = before ++ (trim s).toList ++ after ∧
      (∀ c ∈ before, isBlank c = true) ∧ ∀ c ∈ after, isBlank c = true := by
  obtain ⟨rest, hRest⟩ : ∃ rest, rest = s.toList.dropWhile isBlank := ⟨_, rfl⟩
  refine ⟨s.toList.takeWhile isBlank, (rest.reverse.takeWhile isBlank).reverse, ?_, ?_, ?_⟩
  · have hTrim : (trim s).toList ++ (rest.reverse.takeWhile isBlank).reverse = rest := by
      rw [trim, String.toList_ofList, ← hRest, ← List.reverse_append,
        List.takeWhile_append_dropWhile, List.reverse_reverse]
    rw [List.append_assoc, hTrim, hRest, List.takeWhile_append_dropWhile]
  · exact List.all_eq_true.mp List.all_takeWhile
  · intro c hMem
    exact List.all_eq_true.mp List.all_takeWhile c (List.mem_reverse.mp hMem)

theorem dropWhile_padded {α : Type} {p : α → Bool} {before middle : List α}
    (hBefore : ∀ a ∈ before, p a = true) (hFirst : middle.head?.map p = some false)
    (after : List α) : (before ++ (middle ++ after)).dropWhile p = middle ++ after := by
  rw [List.dropWhile_append_of_pos hBefore]
  cases middle with
  | nil => cases hFirst
  | cons first rest =>
      have hKept : ¬p first = true := by simpa using hFirst
      rw [List.cons_append, List.dropWhile_cons_of_neg hKept]

/-- No more than the blanks at its ends is taken off a text. -/
theorem trim_of_padded {s : String} {before middle after : List Char}
    (hText : s.toList = before ++ middle ++ after) (hBefore : ∀ c ∈ before, isBlank c = true)
    (hAfter : ∀ c ∈ after, isBlank c = true) (hFirst : middle.head?.map isBlank = some false)
    (hLast : middle.getLast?.map isBlank = some false) : (trim s).toList = middle := by
  have hEnd : ∀ c ∈ after.reverse, isBlank c = true :=
    fun c hMem => hAfter c (List.mem_reverse.mp hMem)
  have hReversed : middle.reverse.head?.map isBlank = some false := by
    rwa [List.head?_reverse]
  have hDropped := dropWhile_padded hEnd hReversed []
  rw [List.append_nil] at hDropped
  rw [trim, String.toList_ofList, hText, List.append_assoc, dropWhile_padded hBefore hFirst,
    List.reverse_append, hDropped, List.reverse_reverse]

theorem isBlank_of_isDigit {c : Char} (h : c.isDigit = true) : isBlank c = false := by
  obtain ⟨hLow, hHigh⟩ := Char.isDigit_iff_toNat.mp h
  change 48 ≤ c.toNat at hLow
  change c.toNat ≤ 57 at hHigh
  rw [Bool.eq_false_iff]
  intro hBlank
  simp only [isBlank, Bool.or_eq_true, Bool.and_eq_true, decide_eq_true_eq, beq_iff_eq] at hBlank
  omega

/-- The value of more digits is no less than that of the first ones. -/
theorem le_ofDigitChars (digits : List Char) (value : Nat) :
    value ≤ Nat.ofDigitChars 10 digits value := by
  rw [Nat.ofDigitChars_eq_ofDigitChars_zero]
  have hPower : 0 < 10 ^ digits.length := Nat.pow_pos (by decide)
  have hScaled : value ≤ 10 ^ digits.length * value := Nat.le_mul_of_pos_left value hPower
  omega

/-- Digits are read as their value, unless it is too large. The induction is on the digits: once the
value of the first ones is too large, so is that of all. -/
theorem readDigits_eq_ok_iff {digits : List Char} {value n : Nat} (hValue : value ≤ maxNatural) :
    readDigits value digits = .ok n ↔
      (∀ c ∈ digits, c.isDigit = true) ∧ n = Nat.ofDigitChars 10 digits value ∧
        n ≤ maxNatural := by
  induction digits generalizing value with
  | nil =>
      simp only [readDigits, Except.ok.injEq, Nat.ofDigitChars_nil]
      constructor
      · rintro rfl
        exact ⟨by simp, rfl, hValue⟩
      · exact fun h => h.2.1.symm
  | cons c rest ih =>
      by_cases hDigit : c.isDigit = true
      · have hNext : readDigits value (c :: rest) =
            if 10 * value + (c.toNat - '0'.toNat) ≤ maxNatural then
              readDigits (10 * value + (c.toNat - '0'.toNat)) rest
            else .error .tooLarge := by
          rw [readDigits, digit?, if_pos hDigit, Nat.mul_comm]
        rw [hNext, Nat.ofDigitChars_cons, List.forall_mem_cons]
        split
        next hFits => rw [ih hFits, and_iff_right hDigit]
        next hLarge =>
          simp only [reduceCtorEq, false_iff]
          rintro ⟨_, rfl, hFits⟩
          exact hLarge (Nat.le_trans (le_ofDigitChars rest _) hFits)
      · have hNone : readDigits value (c :: rest) = .error .invalidDigit := by
          rw [readDigits, digit?, if_neg hDigit]
        rw [hNone]
        simp only [reduceCtorEq, false_iff]
        exact fun h => hDigit (h.1 c List.mem_cons_self)

/-- The characters of a numeral: digits, at least one, with a plus sign in front of them or none. -/
structure IsNumeral (sign digits : List Char) : Prop where
  sign : sign = [] ∨ sign = ['+']
  nonempty : digits ≠ []
  decimal : ∀ c ∈ digits, c.isDigit = true

/-- A text writes a natural number in decimal, with blanks around it or none. -/
inductive Writes (s : String) : Nat → Prop
  | intro {before sign digits after : List Char}
      (text : s.toList = before ++ (sign ++ digits) ++ after)
      (numeral : IsNumeral sign digits) (blankBefore : ∀ c ∈ before, isBlank c = true)
      (blankAfter : ∀ c ∈ after, isBlank c = true) : Writes s (Nat.ofDigitChars 10 digits 0)

namespace IsNumeral
variable {sign digits : List Char}

theorem first_not_blank (h : IsNumeral sign digits) :
    (sign ++ digits).head?.map isBlank = some false := by
  rcases h.sign with rfl | rfl
  · obtain ⟨c, rest, rfl⟩ := List.exists_cons_of_ne_nil h.nonempty
    exact congrArg some (isBlank_of_isDigit (h.decimal c List.mem_cons_self))
  · rfl

theorem last_not_blank (h : IsNumeral sign digits) :
    (sign ++ digits).getLast?.map isBlank = some false := by
  rw [List.getLast?_append, List.getLast?_eq_some_getLast h.nonempty, Option.some_or]
  exact congrArg some (isBlank_of_isDigit (h.decimal _ (List.getLast_mem h.nonempty)))

theorem readNatural (h : IsNumeral sign digits) {s : String} (hText : s.toList = sign ++ digits) :
    readNatural s = readDigits 0 digits := by
  obtain ⟨c, rest, rfl⟩ := List.exists_cons_of_ne_nil h.nonempty
  unfold Text.readNatural
  rw [hText]
  rcases h.sign with rfl | rfl
  · have hPlus : c ≠ '+' := by
      rintro rfl
      exact absurd (h.decimal '+' List.mem_cons_self) (by decide)
    split <;> simp_all
  · rfl

end IsNumeral

/-- A text is read as a number exactly if it is a numeral whose value has 64 bits. -/
theorem readNatural_eq_ok_iff {s : String} {n : Nat} :
    readNatural s = .ok n ↔
      ∃ sign digits, s.toList = sign ++ digits ∧ IsNumeral sign digits ∧
        n = Nat.ofDigitChars 10 digits 0 ∧ n ≤ maxNatural := by
  have hZero : 0 ≤ maxNatural := Nat.zero_le _
  constructor
  · intro h
    suffices hParts : ∃ sign digits, s.toList = sign ++ digits ∧ (sign = [] ∨ sign = ['+']) ∧
        digits ≠ [] ∧ readDigits 0 digits = .ok n by
      obtain ⟨sign, digits, hText, hSign, hSome, hRead⟩ := hParts
      obtain ⟨hDecimal, hValue, hFits⟩ := (readDigits_eq_ok_iff hZero).mp hRead
      exact ⟨sign, digits, hText, ⟨hSign, hSome, hDecimal⟩, hValue, hFits⟩
    unfold readNatural at h
    split at h
    · cases h
    · cases h
    next rest hPlus hText => exact ⟨['+'], rest, hText, .inr rfl, by simpa using hPlus, h⟩
    next hEmpty _ _ => exact ⟨[], s.toList, rfl, .inl rfl, hEmpty, h⟩
  · rintro ⟨sign, digits, hText, hNumeral, hValue, hFits⟩
    rw [hNumeral.readNatural hText, readDigits_eq_ok_iff hZero]
    exact ⟨hNumeral.decimal, hValue, hFits⟩

/-- A text without the blanks at its ends is read as a number exactly if the text writes that
number, and the number has 64 bits. -/
theorem readNatural_trim_eq_ok_iff {s : String} {n : Nat} :
    readNatural (trim s) = .ok n ↔ Writes s n ∧ n ≤ maxNatural := by
  rw [readNatural_eq_ok_iff]
  constructor
  · rintro ⟨sign, digits, hTrim, hNumeral, rfl, hFits⟩
    obtain ⟨before, after, hText, hBefore, hAfter⟩ := exists_trim s
    rw [hTrim] at hText
    exact ⟨.intro hText hNumeral hBefore hAfter, hFits⟩
  · rintro ⟨⟨hText, hNumeral, hBefore, hAfter⟩, hFits⟩
    have hTrim := trim_of_padded hText hBefore hAfter hNumeral.first_not_blank
      hNumeral.last_not_blank
    exact ⟨_, _, hTrim, hNumeral, rfl, hFits⟩

/-- Every number is written by its own decimal text. -/
theorem writes_toString (n : Nat) : Writes (toString n) n := by
  have hText : (toString n).toList = [] ++ ([] ++ Nat.toDigits 10 n) ++ [] := by
    simp
  have hNumeral : IsNumeral [] (Nat.toDigits 10 n) :=
    ⟨.inl rfl, Nat.toDigits_ne_nil,
      fun c hMem => Nat.isDigit_of_mem_toDigits (by decide) (by decide) hMem⟩
  have hWrites := Writes.intro hText hNumeral (by simp) (by simp)
  rwa [Nat.ofDigitChars_ten_toDigits] at hWrites

end ScriptShell.Text
