import ScriptShell.Proofs.Statement.Newline
/-!
Lines with and without their terminators. A typed line comes without its newline and a line of a
script with it, and a statement that goes over several lines is put together from either. The two
texts say the same as long as no further line is empty: a newline that is missing at the end of a
text is made up for before the next line, but an empty line leaves nothing that one could be added
to.
-/
namespace ScriptShell

/-- A line with its newline. -/
def terminated (line : String) : String :=
  line ++ "\n"

/-- Whether a line holds no character of a line break. -/
def Unterminated (line : String) : Prop :=
  '\n' ∉ line.toList ∧ '\r' ∉ line.toList

instance (line : String) : Decidable (Unterminated line) :=
  inferInstanceAs (Decidable (_ ∧ _))

/-- A text with a newline at its end, if it had none. -/
def closed (text : String) : String :=
  if text.toList.getLast? = some '\n' then text else text ++ "\n"

/-- The scan of a text from its beginning. -/
def scan (text : String) : Except TokenFault Scan :=
  Scan.start.advance text.toList

theorem tokens_eq_scan (text : String) : tokens text = (scan text).bind Scan.finish := rfl

theorem scan_append (text more : String) :
    scan (text ++ more) = (scan text).bind (·.advance more.toList) := by
  rw [scan, String.toList_append, Scan.advance_append]
  rfl

theorem scan_newline (text : String) : scan (text ++ "\n") = (scan text).bind (·.step '\n') := by
  rw [scan_append]
  congr 1
  funext s
  exact s.advance_singleton _

theorem joinLine_eq_closed (text line : String) : joinLine text line = closed text ++ line := by
  unfold joinLine closed
  split <;> rfl

theorem closed_of_newline (text : String) : closed (text ++ "\n") = text ++ "\n" := by
  simp [closed]

theorem exists_closed (text : String) : ∃ start, closed text = start ++ "\n" := by
  unfold closed
  split
  · next h =>
      obtain ⟨start, hStart⟩ := List.getLast?_eq_some_iff.mp h
      refine ⟨String.ofList start, ?_⟩
      rw [← String.toList_inj, String.toList_append, hStart]
      simp
  · exact ⟨text, rfl⟩

theorem closed_append {text line : String} (hLine : Unterminated line) (hSome : line ≠ "") :
    closed (text ++ line) = text ++ line ++ "\n" := by
  have hNot : (text ++ line).toList.getLast? ≠ some '\n' := by
    rw [String.toList_append, List.getLast?_append]
    intro h
    cases hLast : line.toList.getLast? with
    | none =>
        rw [List.getLast?_eq_none_iff, String.toList_eq_nil_iff] at hLast
        exact hSome hLast
    | some c =>
        rw [hLast] at h
        cases h
        exact hLine.1 (List.mem_of_getLast? hLast)
  rw [closed, if_neg hNot]

theorem scan_settled {text line : String} {s : Scan} (hLine : Unterminated line)
    (hStart : line = "" → text = "") (h : scan (text ++ line) = .ok s) : s.Settled := by
  rw [scan_append] at h
  cases hText : scan text with
  | error fault => rw [hText] at h; cases h
  | ok middle =>
      rw [hText] at h
      refine Scan.settled_advance ?_ ?_ h
      · intro c hc
        exact ⟨fun hEq => hLine.1 (hEq ▸ hc), fun hEq => hLine.2 (hEq ▸ hc)⟩
      · intro hNil
        rw [String.toList_eq_nil_iff] at hNil
        rw [hStart hNil] at hText
        cases hText
        exact ⟨nofun, nofun⟩

/-- The newline at the end of a line makes no difference to what the statement says so far. -/
theorem tokens_newline (text : String) {line : String} (hLine : Unterminated line)
    (hStart : line = "" → text = "") : tokens (text ++ line ++ "\n") = tokens (text ++ line) := by
  rw [tokens_eq_scan, tokens_eq_scan, scan_newline]
  cases h : scan (text ++ line) with
  | error fault => rfl
  | ok s => exact Scan.finish_newline (scan_settled hLine hStart h)

theorem scan_opened {text : String} {s : Scan} (h : scan text = .ok s) : s.Opened :=
  Scan.opened_advance (fun hFinish => by cases hFinish) h

theorem afterNewline_scan {text : String} {s : Scan} (h : scan (text ++ "\n") = .ok s) :
    Scan.AfterNewline s.mode := by
  rw [scan_newline] at h
  cases hText : scan text with
  | error fault => rw [hText] at h; cases h
  | ok before =>
      rw [hText] at h
      exact Scan.afterNewline_step h

/-- A text that is incomplete is scanned to its end. -/
theorem exists_scan {text : String} {fault : TokenFault} (h : tokens text = .error fault)
    (hIncomplete : fault.isIncomplete = true) :
    ∃ s, scan text = .ok s ∧ s.finish = .error fault := by
  rw [tokens_eq_scan] at h
  cases hScan : scan text with
  | ok s =>
      rw [hScan] at h
      exact ⟨s, rfl, h⟩
  | error other =>
      rw [hScan] at h
      cases h
      rw [Scan.isIncomplete_advance hScan] at hIncomplete
      cases hIncomplete

theorem Reading.later_inj {α : Type} {a b : Reading α} :
    (⟨a.result, a.taken + 1⟩ : Reading α) = ⟨b.result, b.taken + 1⟩ ↔ a = b := by
  cases a
  cases b
  simp

theorem readTokens_ne_of_incomplete {text : String} {fault : TokenFault}
    (hFault : tokens text = .error fault) (hIncomplete : fault.isIncomplete = true)
    (more : List String) (ts : List Token) : readTokens text more ≠ ⟨.ok ts, 0⟩ := by
  cases more with
  | nil =>
      rw [readTokens_nil_of_incomplete hFault hIncomplete]
      simp
  | cons line rest =>
      rw [readTokens_cons_of_incomplete hFault hIncomplete]
      simp

/-- A statement as far as it was typed, and as far as a script was read for it. The text of the
script is complete to its last newline, and what it has in excess are empty lines inside quotes. -/
structure Trails (excess : Nat) (typed script : String) : Prop where
  ends : ∃ start, script = start ++ "\n"
  scans : Scan.Alike (Scan.Ahead excess) (scan (closed typed)) (scan script)
  same : tokens (closed typed) = tokens typed

namespace Trails
variable {excess : Nat} {typed script line : String}

theorem start (hLine : Unterminated line) : Trails 0 line (terminated line) := by
  have hNot : line.toList.getLast? ≠ some '\n' := fun h => hLine.1 (List.mem_of_getLast? h)
  have hClosed : closed line = terminated line := if_neg hNot
  refine ⟨⟨line, rfl⟩, ?_, ?_⟩
  · rw [hClosed]
    cases scan (terminated line) with
    | error fault => exact .error fault
    | ok s => exact .ok (.refl s)
  · have hTokens := tokens_newline "" hLine fun _ => rfl
    rw [String.empty_append] at hTokens
    rw [hClosed]
    exact hTokens

/-- Both texts are read alike, and if they have tokens the script has the excess of text. -/
theorem tokens_alike (h : Trails excess typed script) :
    Scan.Alike (fun ts us => textSize us = textSize ts + excess ∧ (excess = 0 → us = ts))
      (tokens typed) (tokens script) := by
  rw [← h.same]
  exact h.scans.bind fun _ _ hScans => hScans.finish

theorem joinLine_script (h : Trails excess typed script) :
    joinLine script (terminated line) = script ++ line ++ "\n" := by
  obtain ⟨start, rfl⟩ := h.ends
  rw [joinLine_eq_closed, closed_of_newline, terminated, ← String.append_assoc]

theorem append (h : Trails excess typed script) (hLine : Unterminated line) (hSome : line ≠ "") :
    Trails excess (joinLine typed line) (joinLine script (terminated line)) := by
  rw [h.joinLine_script, joinLine_eq_closed]
  refine ⟨⟨_, rfl⟩, ?_, ?_⟩
  · rw [closed_append hLine hSome, String.append_assoc, String.append_assoc, scan_append,
      scan_append script]
    exact h.scans.bind fun _ _ hScans => hScans.advance _
  · rw [closed_append hLine hSome]
    exact tokens_newline _ hLine fun hNone => absurd hNone hSome

theorem joinLine_empty (typed : String) : joinLine typed "" = closed typed := by
  rw [joinLine_eq_closed, String.append_empty]

theorem closed_closed (text : String) : closed (closed text) = closed text := by
  obtain ⟨start, hStart⟩ := exists_closed text
  rw [hStart, closed_of_newline]

/-- Where the statement goes on, both scans have come to the same place, right after a newline. -/
theorem exists_scans (h : Trails excess typed script) {fault : TokenFault}
    (hFault : tokens typed = .error fault) (hIncomplete : fault.isIncomplete = true) :
    ∃ s t, scan (closed typed) = .ok s ∧ scan script = .ok t ∧ Scan.Ahead excess s t ∧
      s.finish = .error fault ∧ t.finish = .error fault ∧ Scan.AfterNewline t.mode := by
  rw [← h.same] at hFault
  obtain ⟨s, hTyped, hFinish⟩ := exists_scan hFault hIncomplete
  obtain ⟨start, rfl⟩ := h.ends
  rcases Scan.alike_iff.mp h.scans with ⟨s', t, hSame, hScript, hAhead⟩ | ⟨other, hNone, _⟩
  · rw [hTyped] at hSame
    cases hSame
    refine ⟨s, t, hTyped, hScript, hAhead, hFinish, ?_, afterNewline_scan hScript⟩
    rcases Scan.alike_iff.mp hAhead.finish with ⟨ts, us, hOk, _⟩ | ⟨other, hOther, hScriptFinish⟩
    · rw [hFinish] at hOk
      cases hOk
    · rw [hFinish] at hOther
      cases hOther
      exact hScriptFinish
  · rw [hTyped] at hNone
    cases hNone

/-- An empty line inside quotes is in the script and is not in what was typed. -/
theorem empty_of_openQuote (h : Trails excess typed script)
    (hOpen : tokens typed = .error .openQuote) :
    Trails (excess + 1) (joinLine typed "") (joinLine script (terminated "")) := by
  obtain ⟨s, t, hTyped, hScript, hAhead, hFinish, hScriptFinish, hMode⟩ := h.exists_scans hOpen rfl
  rw [h.joinLine_script, joinLine_empty, String.append_empty]
  refine ⟨⟨_, rfl⟩, ?_, by rw [closed_closed]⟩
  rw [closed_closed, scan_newline, hTyped, hScript]
  change Scan.Alike _ _ (t.step '\n')
  rw [Scan.step_newline_of_openQuote hMode hScriptFinish]
  exact .ok (hAhead.putAgain _ (scan_opened hTyped hFinish))

/-- An empty line after a line continuation ends the statement of the script. What was typed stays
as it was. -/
theorem empty_of_openEscape (h : Trails excess typed script)
    (hOpen : tokens typed = .error .openEscape) :
    tokens (joinLine typed "") = .error .openEscape ∧
      ∃ ts, tokens (joinLine script (terminated "")) = .ok ts := by
  obtain ⟨s, t, hTyped, hScript, hAhead, hFinish, hScriptFinish, hMode⟩ := h.exists_scans hOpen rfl
  rw [h.joinLine_script, joinLine_empty, String.append_empty, h.same]
  refine ⟨hOpen, t.done, ?_⟩
  rw [tokens_eq_scan, scan_newline, hScript]
  exact Scan.finish_newline_of_openEscape hMode hScriptFinish

/-- Where both readings end, they are the same exactly if there is no excess, or no tokens. -/
theorem readTokens_iff_of_end (h : Trails excess typed script) {more : List String}
    (hEnd : ∀ fault, tokens typed = .error fault → fault.isIncomplete = true → more = []) :
    readTokens typed more = readTokens script (more.map terminated) ↔
      (0 < excess ∨ "" ∈ more.take (readTokens script (more.map terminated)).taken →
        ∃ fault, (readTokens script (more.map terminated)).result = .error fault) := by
  rcases Scan.alike_iff.mp h.tokens_alike with
    ⟨ts, us, hTyped, hScript, hSize, hSame⟩ | ⟨fault, hTyped, hScript⟩
  · rw [readTokens_of_ok hTyped, readTokens_of_ok hScript]
    constructor
    · intro hEq hLost
      cases hEq
      rcases hLost with hExcess | hMem
      · omega
      · cases hMem
    · intro hNone
      have hZero : ¬ 0 < excess := fun hExcess => by
        obtain ⟨fault, hFault⟩ := hNone (.inl hExcess)
        cases hFault
      rw [hSame (by omega)]
  · cases hIncomplete : fault.isIncomplete with
    | false =>
        rw [readTokens_of_complete hTyped hIncomplete, readTokens_of_complete hScript hIncomplete]
        exact ⟨fun _ _ => ⟨_, rfl⟩, fun _ => rfl⟩
    | true =>
        rw [hEnd fault hTyped hIncomplete, List.map_nil,
          readTokens_nil_of_incomplete hTyped hIncomplete,
          readTokens_nil_of_incomplete hScript hIncomplete]
        exact ⟨fun _ _ => ⟨_, rfl⟩, fun _ => rfl⟩

/-- From where a statement and the script stand, they are read alike exactly if no empty line has
been lost, or the reading comes to nothing. The induction is on the lines that follow. -/
theorem readTokens_iff (h : Trails excess typed script) {more : List String}
    (hMore : ∀ line ∈ more, Unterminated line) :
    readTokens typed more = readTokens script (more.map terminated) ↔
      (0 < excess ∨ "" ∈ more.take (readTokens script (more.map terminated)).taken →
        ∃ fault, (readTokens script (more.map terminated)).result = .error fault) := by
  induction more generalizing excess typed script with
  | nil => exact h.readTokens_iff_of_end fun _ _ _ => rfl
  | cons line rest ih =>
      have hRest : ∀ line ∈ rest, Unterminated line :=
        fun line hLine => hMore line (List.mem_cons_of_mem _ hLine)
      by_cases hGoesOn : ∃ fault, tokens typed = .error fault ∧ fault.isIncomplete = true
      · obtain ⟨fault, hTyped, hIncomplete⟩ := hGoesOn
        obtain ⟨s, t, _, hScan, _, _, hFinish, _⟩ := h.exists_scans hTyped hIncomplete
        have hScript : tokens script = .error fault := by
          rw [tokens_eq_scan, hScan]
          exact hFinish
        rw [List.map_cons, readTokens_cons_of_incomplete hTyped hIncomplete,
          readTokens_cons_of_incomplete hScript hIncomplete, List.take_succ_cons]
        by_cases hLine : line = ""
        · subst hLine
          cases fault with
          | openQuote =>
              rw [Reading.later_inj, ih (h.empty_of_openQuote hTyped) hRest]
              simp
          | openEscape =>
              obtain ⟨hStill, ts, hDone⟩ := h.empty_of_openEscape hTyped
              rw [Reading.later_inj, readTokens_of_ok hDone]
              simp [readTokens_ne_of_incomplete hStill rfl]
          | _ => cases hIncomplete
        · rw [Reading.later_inj, ih (h.append (hMore line List.mem_cons_self) hLine) hRest]
          simp [Ne.symm hLine]
      · exact h.readTokens_iff_of_end fun fault hFault hIncomplete =>
          absurd ⟨fault, hFault, hIncomplete⟩ hGoesOn

end Trails

/-- Exactly when lines are read alike with their terminators and without: the statement that the
script starts with must not go on in an empty line, unless nothing comes of it anyway. -/
theorem readTokens_eq_terminated_iff {line : String} {more : List String}
    (hLines : ∀ text ∈ line :: more, Unterminated text) :
    readTokens line more = readTokens (terminated line) (more.map terminated) ↔
      ("" ∈ more.take (readTokens (terminated line) (more.map terminated)).taken →
        ∃ fault, (readTokens (terminated line) (more.map terminated)).result = .error fault) := by
  have hStart := Trails.start (hLines line List.mem_cons_self)
  rw [hStart.readTokens_iff fun text hText => hLines text (List.mem_cons_of_mem _ hText)]
  simp

/-- A statement over three lines, the last of which is no longer part of the quote. -/
theorem readTokens_eq_terminated_quote :
    readTokens "echo 'a" ["b' \\", "c"] =
      readTokens (terminated "echo 'a") (["b' \\", "c"].map terminated) := by
  apply (readTokens_eq_terminated_iff (by decide)).mpr
  intro hMem
  have hNot := List.mem_of_mem_take hMem
  simp at hNot

/-- An empty line inside quotes is part of the text in a script, and is lost if it is typed. -/
theorem readTokens_ne_terminated :
    (∀ text ∈ ["echo 'a", "", "b'"], Unterminated text) ∧
      (readTokens "echo 'a" ["", "b'"]).result =
        .ok [.word [.literal "echo"], .word [.literal "a\nb"]] ∧
      (readTokens (terminated "echo 'a") (["", "b'"].map terminated)).result =
        .ok [.word [.literal "echo"], .word [.literal "a\n\nb"]] := by
  refine ⟨by decide, by rfl, by rfl⟩

end ScriptShell
