import IntentBus.Policy
import IntentBus.Proofs.Readers

/-! The settings of a bus in data. They are read back if the multiplier of the waits is finite; any other leaves a null where a
number has to stand, and the settings are refused. -/

namespace IntentBus

open Json.Decoder

variable {depth : Nat}

namespace RegistrationMode

private theorem decoder_document (mode : RegistrationMode) : decoder depth mode.toJson.document = some mode := by
  cases mode <;> rfl

end RegistrationMode

namespace RetryPolicy

/-- A policy is read with the multiplier that its multiplier is read as. -/
theorem decoder_document (policy : RetryPolicy) : decoder (depth + 2) policy.toJson.document =
    (binary64 (depth + 1) (Json.ofBinary64 policy.multiplier).document).map fun multiplier => { policy with multiplier } := by
  rw [decoder, toJson, record_document (by decide) (by rfl)]
  simp only [List.map_cons, List.map_nil]
  refine (required_bind (uint32_document _) _).trans ((required_bind (duration_document _) _).trans
    ((required_bind (duration_document _) _).trans ((required_some_bind _ _ _).trans ?_)))
  rw [Option.map_eq_bind]
  rfl

end RetryPolicy

namespace BusConfig

/-- Settings are read with the multiplier that their multiplier is read as. -/
theorem decoder_document (config : BusConfig) : decoder (depth + 3) config.toJson.document =
    (binary64 (depth + 1) (Json.ofBinary64 config.retry.multiplier).document).map fun multiplier =>
      { config with retry := { config.retry with multiplier } } := by
  rw [decoder, toJson, record_document (by decide) (by rfl)]
  simp only [List.map_cons, List.map_nil]
  refine (required_bind rfl _).trans ((required_bind config.registrationMode.decoder_document _).trans
    ((optional_bind rfl (fun _ => duration_document _) _).trans ((required_some_bind _ _ _).trans ?_)))
  rw [RetryPolicy.decoder_document, Option.map_eq_bind, Option.map_eq_bind, Option.bind_assoc]
  rfl

/-- Whether the text of the settings is read as the same settings, but for another multiplier. -/
def IsReadBack (config : BusConfig) : Prop := ∃ multiplier,
  decoder.ofText? config.toJson.render = some { config with retry := { config.retry with multiplier } }

private theorem ofText?_render (config : BusConfig) : decoder.ofText? config.toJson.render =
    (binary64 (depthLimit - 2) (Json.ofBinary64 config.retry.multiplier).document).map fun multiplier =>
      { config with retry := { config.retry with multiplier } } :=
  (congrArg (Option.bind · _) (Json.ofText?_render _)).trans config.decoder_document

private theorem isReadBack_of_finite {config : BusConfig} (finite : config.retry.multiplier.isFinite = true) :
    config.IsReadBack := by
  cases same : config.retry.multiplier with
  | finite negative units exact =>
    obtain ⟨near, held, read⟩ := @binary64_document (depthLimit - 2) negative units exact
    refine ⟨.finite negative near held, ?_⟩
    rw [ofText?_render, same, read, Option.map_some]
  | nan | infinity =>
    rw [same] at finite
    exact absurd finite Bool.false_ne_true

private theorem refused_of_endless {config : BusConfig} (endless : config.retry.multiplier.isFinite = false) :
    decoder.ofText? config.toJson.render = none := by
  rw [ofText?_render, binary64_document_of_not_finite endless, Option.map_none]

private theorem not_isReadBack_of_refused {config : BusConfig} (refused : decoder.ofText? config.toJson.render = none) :
    ¬config.IsReadBack := by
  rintro ⟨multiplier, read⟩
  exact absurd (read.symm.trans refused) (Option.some_ne_none _)

/-- Settings are read back exactly if their multiplier is finite, whatever else they are; all others are refused. -/
theorem isReadBack_iff_finite (config : BusConfig) : (config.IsReadBack ↔ config.retry.multiplier.isFinite = true) ∧
    (decoder.ofText? config.toJson.render = none ↔ config.retry.multiplier.isFinite = false) := by
  cases ends : config.retry.multiplier.isFinite with
  | true =>
    have back := isReadBack_of_finite ends
    exact ⟨iff_of_true back rfl, iff_of_false (fun refused => not_isReadBack_of_refused refused back) Bool.false_ne_true.symm⟩
  | false =>
    have refused := refused_of_endless ends
    exact ⟨iff_of_false (not_isReadBack_of_refused refused) Bool.false_ne_true, iff_of_true refused rfl⟩

def boundless : BusConfig := { standard with retry := { RetryPolicy.single with multiplier := .nan } }

/-- Settings that have a text, but are not read from it. -/
theorem boundless_not_read_back : ¬boundless.IsReadBack := not_isReadBack_of_refused (refused_of_endless rfl)

end BusConfig

end IntentBus
