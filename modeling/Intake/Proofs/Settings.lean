import Intake.Except
import Intake.Settings

/-!
# Settings that are handed out

Whatever a look-up gives, the settings that are read from it keep to the bounds of an emission: a
batch has at least one record and at most as many as one call may carry, there is at least one
round, and the bus is not named by blanks.
-/

namespace Intake

namespace EmitterSettings

/-- Settings validate exactly if they keep to the bounds. -/
theorem validate_eq_ok_iff {settings : EmitterSettings} :
    settings.validate = .ok () ↔
      (1 ≤ settings.batchSize ∧ settings.batchSize ≤ 10) ∧ 1 ≤ settings.maxRounds ∧
        ∃ c ∈ settings.busName.toList, Text.isBlank c = false := by
  have hblank : Text.isBlankText settings.busName = false ↔
      ∃ c ∈ settings.busName.toList, Text.isBlank c = false := by
    simp [Text.isBlankText]
  rw [← hblank, validate, maxBatchSize]
  split
  next hsize =>
    simp only [reduceCtorEq, false_iff]
    omega
  next hsize =>
    split
    next hrounds =>
      simp only [reduceCtorEq, false_iff]
      omega
    next hrounds =>
      split
      next hname => simp [hname]
      next hname =>
        simp only [hname, true_iff, and_true]
        omega

/-- Settings are read from a look-up only if they validate. -/
theorem validate_of_ofLookup {lookup : Lookup} {settings : EmitterSettings}
    (hsettings : ofLookup lookup = .ok settings) : settings.validate = .ok () := by
  obtain ⟨batchSize, -, hsettings⟩ := bind_eq_ok_iff.1 hsettings
  obtain ⟨maxRounds, -, hsettings⟩ := bind_eq_ok_iff.1 hsettings
  obtain ⟨parallel, -, hsettings⟩ := bind_eq_ok_iff.1 hsettings
  obtain ⟨_, hvalid, hsettings⟩ := bind_eq_ok_iff.1 hsettings
  cases hsettings
  exact hvalid

end EmitterSettings

theorem Settings.validate_emitter {lookup : Lookup} {settings : Settings}
    (hsettings : ofLookup lookup = .ok settings) : settings.emitter.validate = .ok () := by
  obtain ⟨emitter, hemitter, hok⟩ := bind_eq_ok_iff.1 hsettings
  cases hok
  exact EmitterSettings.validate_of_ofLookup hemitter

end Intake
