import ScriptShell.Session.Settings
import ScriptShell.Proofs.Text.Natural
/-!
The limit on scripts inside scripts, as the variables set it. A text is taken for a limit exactly if
it writes a number of 64 bits other than zero; any other text is refused, and named in the refusal
as it was given. So whatever settings there are leave room for a script.
-/
namespace ScriptShell

namespace Settings

/-- Settings that come about from variables and from limits of 64 bits, set one after another. -/
inductive Reachable : Settings → Prop
  | default : Reachable {}
  | ofVariables {vs : Variables} {settings : Settings} (set : ofVariables vs = .ok settings) :
      Reachable settings
  | withLimit {settings next : Settings} {limit : Nat} (before : Reachable settings)
      (word : limit < UInt64.size) (set : settings.withLimit limit = .ok next) : Reachable next

theorem readLimit_eq_ok_iff {raw : String} {limit : Nat} :
    readLimit raw = .ok limit ↔
      Text.Writes raw limit ∧ 1 ≤ limit ∧ limit < UInt64.size := by
  have hWord : limit < UInt64.size ↔ limit ≤ Text.maxNatural := Nat.lt_succ_iff
  rw [hWord, and_left_comm, ← Text.readNatural_trim_eq_ok_iff]
  unfold readLimit
  cases hRead : Text.readNatural (Text.trim raw) with
  | error fault => simp
  | ok n =>
      cases n with
      | zero =>
          simp only [reduceCtorEq, Except.ok.injEq, false_iff]
          omega
      | succ n =>
          simp only [Except.ok.injEq]
          omega

theorem fault_of_readLimit {raw : String} {fault : SettingFault}
    (h : readLimit raw = .error fault) : fault.key = limitVariable ∧ fault.value = raw := by
  unfold readLimit at h
  split at h <;> cases h <;> exact ⟨rfl, rfl⟩

/-- The settings that variables make. A variable for the limit has to write one. -/
theorem ofVariables_eq_ok_iff {vs : Variables} {settings : Settings} :
    ofVariables vs = .ok settings ↔
      settings.prompt = (vs.get? promptVariable).getD "🐒$ " ∧
        (vs.get? limitVariable = none ∧ settings.includeLimit = 64 ∨
          ∃ raw, vs.get? limitVariable = some raw ∧ readLimit raw = .ok settings.includeLimit) := by
  obtain ⟨limit, prompt⟩ := settings
  unfold ofVariables
  cases vs.get? limitVariable with
  | none => simp [eq_comm, and_comm]
  | some raw => cases hRead : readLimit raw <;> simp [hRead, Except.map, eq_comm, and_comm]

theorem ofVariables_eq_error_iff {vs : Variables} {fault : SettingFault} :
    ofVariables vs = .error fault ↔
      ∃ raw, vs.get? limitVariable = some raw ∧ readLimit raw = .error fault := by
  unfold ofVariables
  cases vs.get? limitVariable with
  | none => simp
  | some raw => cases hRead : readLimit raw <;> simp [hRead, Except.map]

/-- A limit is at least one, and has 64 bits. -/
theorem Reachable.limit {settings : Settings} (h : Reachable settings) :
    1 ≤ settings.includeLimit ∧ settings.includeLimit < UInt64.size := by
  induction h with
  | default => decide
  | ofVariables set =>
      rcases (ofVariables_eq_ok_iff.mp set).2 with ⟨_, hDefault⟩ | ⟨raw, _, hRead⟩
      · rw [hDefault]
        decide
      · exact (readLimit_eq_ok_iff.mp hRead).2
  | withLimit _ word set =>
      unfold Settings.withLimit at set
      split at set
      next => cases set
      next hNonzero =>
        cases set
        exact ⟨Nat.one_le_iff_ne_zero.mpr hNonzero, word⟩

/-- The limit is read exactly. It is the number that its variable writes, whatever the length of the
text, if that is from one up to what 64 bits can hold, and 64 if the variable is unset. Any other
text is refused and handed back as it was given. A limit that is written out in decimal is read
again as itself, and no settings forbid every script. -/
theorem limit_read_exactly (vs : Variables) :
    (∀ settings, ofVariables vs = .ok settings ↔
      settings.prompt = (vs.get? promptVariable).getD "🐒$ " ∧
        (vs.get? limitVariable = none ∧ settings.includeLimit = 64 ∨
          ∃ raw, vs.get? limitVariable = some raw ∧ Text.Writes raw settings.includeLimit ∧
            1 ≤ settings.includeLimit ∧ settings.includeLimit < UInt64.size)) ∧
    (∀ fault, ofVariables vs = .error fault →
      fault.key = limitVariable ∧ vs.get? limitVariable = some fault.value) ∧
    (∀ n, 1 ≤ n → n < UInt64.size → vs.get? limitVariable = some (toString n) →
      ofVariables vs = .ok ⟨n, (vs.get? promptVariable).getD "🐒$ "⟩) ∧
    ∀ settings, Reachable settings →
      1 ≤ settings.includeLimit ∧ settings.includeLimit < UInt64.size := by
  refine ⟨fun settings => ?_, fun fault hFault => ?_, fun n hPositive hWord hText => ?_,
    fun _ hReachable => hReachable.limit⟩
  · simp only [ofVariables_eq_ok_iff, readLimit_eq_ok_iff]
  · obtain ⟨raw, hRaw, hRead⟩ := ofVariables_eq_error_iff.mp hFault
    obtain ⟨hKey, rfl⟩ := fault_of_readLimit hRead
    exact ⟨hKey, hRaw⟩
  · have hRead : readLimit (toString n) = .ok n :=
      readLimit_eq_ok_iff.mpr ⟨Text.writes_toString n, hPositive, hWord⟩
    exact ofVariables_eq_ok_iff.mpr ⟨rfl, .inr ⟨_, hText, hRead⟩⟩

example : readLimit " +008\n" = .ok 8 := rfl

example : readLimit "18446744073709551616" =
    .error ⟨"SHELL_MAX_INCLUDE_DEPTH", "18446744073709551616",
      "number too large to fit in target type"⟩ := rfl

end Settings

end ScriptShell
