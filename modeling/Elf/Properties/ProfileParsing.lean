import Elf.IngestionProfiles.Store

/-!
This module contains how the two shapes of a stored profile are told apart. An object without any
field of the envelope is read as an empty envelope, so that its schema is dropped, and a sequence of
well-typed values is read as an envelope. What is written for a resolved profile is read back as it
was unless its temperature is not finite.
-/

namespace Elf

/-! ## Shapes -/

def envelopeKeys : List String :=
  ["schema_version", "prompt_schema", "prompt_system_template", "prompt_user_template", "model",
    "temperature", "timeout_ms"]

def promptKeys : List String :=
  ["prompt_schema", "prompt_system_template", "prompt_user_template"]

def IsI32 (v : SpelledJson) : Prop := ∃ n, v = Serde.encodeInt n ∧ -2 ^ 31 ≤ n ∧ n ≤ 2 ^ 31 - 1

def IsOptionalText (v : SpelledJson) : Prop := v = .null ∨ ∃ s, v = .str s

def IsOptionalNumber (v : SpelledJson) : Prop := v = .null ∨ ∃ n, v = .num n

def IsOptionalU64 (v : SpelledJson) : Prop :=
  v = .null ∨ ∃ n, v = Serde.encodeInt n ∧ 0 ≤ n ∧ n ≤ 2 ^ 64 - 1

/-- The fields of the envelope that the object has are of their types. Any value is a schema. -/
structure EnvelopeTyped (object : SpelledJson) : Prop where
  schemaVersion : ∀ v, object.get "schema_version" = some v → IsI32 v
  promptSystemTemplate : ∀ v, object.get "prompt_system_template" = some v → IsOptionalText v
  promptUserTemplate : ∀ v, object.get "prompt_user_template" = some v → IsOptionalText v
  model : ∀ v, object.get "model" = some v → IsOptionalText v
  temperature : ∀ v, object.get "temperature" = some v → IsOptionalNumber v
  timeoutMs : ∀ v, object.get "timeout_ms" = some v → IsOptionalU64 v

/-- The value is a sequence of well-typed values for all fields. -/
def SequenceTyped (value : SpelledJson) : Prop :=
  ∃ schemaVersion promptSchema promptSystemTemplate promptUserTemplate model temperature timeoutMs,
    value = .arr [schemaVersion, promptSchema, promptSystemTemplate, promptUserTemplate, model,
      temperature, timeoutMs]
    ∧ IsI32 schemaVersion ∧ IsOptionalText promptSystemTemplate ∧ IsOptionalText promptUserTemplate
    ∧ IsOptionalText model ∧ IsOptionalNumber temperature ∧ IsOptionalU64 timeoutMs

/-- A field that is present is read as it is given, and only one that is absent is filled in. -/
def ReadsField (object : SpelledJson) (key : String) (decode : Serde.Decoder α) (builtin a : α)
    : Prop :=
  match object.get key with
  | some v => decode v = some a
  | none => a = builtin

structure ReadAsEnvelope (extractionSchema object : SpelledJson) (merged : IngestionProfileV1)
    : Prop where
  schemaVersion : ReadsField object "schema_version" Serde.i32 1 merged.schemaVersion
  promptSchema : ReadsField object "prompt_schema" (Serde.option Serde.value) (some extractionSchema)
    merged.promptSchema
  promptSystemTemplate : ReadsField object "prompt_system_template" (Serde.option Serde.string)
    (some builtinSystemTemplate) merged.promptSystemTemplate
  promptUserTemplate : ReadsField object "prompt_user_template" (Serde.option Serde.string)
    (some builtinUserTemplate) merged.promptUserTemplate
  model : ReadsField object "model" (Serde.option Serde.string) none merged.model
  temperature : ReadsField object "temperature" (Serde.option Serde.f32) none merged.temperature
  timeoutMs : ReadsField object "timeout_ms" (Serde.option Serde.u64) none merged.timeoutMs

/-! ## Typed values are those that are read -/

theorem isI32_iff {v : SpelledJson} : IsI32 v ↔ ∃ n, Serde.i32 v = some n := by
  unfold IsI32 Serde.i32
  simp only [Serde.int_eq_some]

theorem isOptionalText_iff {v : SpelledJson}
    : IsOptionalText v ↔ ∃ a, Serde.option Serde.string v = some a := by
  rw [← Option.isSome_iff_exists, Serde.isSome_option]
  unfold IsOptionalText Serde.string
  cases v <;> simp

theorem isOptionalNumber_iff {v : SpelledJson}
    : IsOptionalNumber v ↔ ∃ a, Serde.option Serde.f32 v = some a := by
  rw [← Option.isSome_iff_exists, Serde.isSome_option]
  unfold IsOptionalNumber Serde.f32
  cases v <;> simp

theorem isOptionalU64_iff {v : SpelledJson}
    : IsOptionalU64 v ↔ ∃ a, Serde.option Serde.u64 v = some a := by
  rw [← Option.isSome_iff_exists, Serde.isSome_option, Option.isSome_iff_exists]
  unfold IsOptionalU64 Serde.u64
  simp only [Serde.int_eq_some]

theorem exists_option_value (v : SpelledJson) : ∃ a, Serde.option Serde.value v = some a := by
  rw [← Option.isSome_iff_exists, Serde.isSome_option]
  exact .inr rfl

section

variable {object : SpelledJson} {key : String} {α : Type}

theorem exists_field_iff {decode : Serde.Decoder α} {missing : α} {typed : SpelledJson → Prop}
    (h : ∀ v, typed v ↔ ∃ a, decode v = some a)
    : (∃ a, Serde.field object key decode (some missing) = some a)
      ↔ ∀ v, object.get key = some v → typed v := by
  unfold Serde.field
  cases hget : object.get key with
  | none => simp
  | some v => simp [h]

end

namespace IngestionProfileV1

/-- The profile has the fields of the object. -/
structure Reads (object : SpelledJson) (profile : IngestionProfileV1) : Prop where
  schemaVersion
    : Serde.field object "schema_version" Serde.i32 (some 1) = some profile.schemaVersion
  promptSchema
    : Serde.optionalField object "prompt_schema" Serde.value = some profile.promptSchema
  promptSystemTemplate
    : Serde.optionalField object "prompt_system_template" Serde.string
      = some profile.promptSystemTemplate
  promptUserTemplate
    : Serde.optionalField object "prompt_user_template" Serde.string
      = some profile.promptUserTemplate
  model : Serde.optionalField object "model" Serde.string = some profile.model
  temperature : Serde.optionalField object "temperature" Serde.f32 = some profile.temperature
  timeoutMs : Serde.optionalField object "timeout_ms" Serde.u64 = some profile.timeoutMs

theorem ofMap_eq_some {object : SpelledJson} {profile : IngestionProfileV1}
    : ofMap object = some profile ↔ Reads object profile := by
  unfold ofMap
  constructor
  . intro h
    rcases Option.bind_eq_some_iff.mp h with ⟨_, hversion, h⟩
    rcases Option.bind_eq_some_iff.mp h with ⟨_, hschema, h⟩
    rcases Option.bind_eq_some_iff.mp h with ⟨_, hsystem, h⟩
    rcases Option.bind_eq_some_iff.mp h with ⟨_, huser, h⟩
    rcases Option.bind_eq_some_iff.mp h with ⟨_, hmodel, h⟩
    rcases Option.bind_eq_some_iff.mp h with ⟨_, htemperature, h⟩
    rcases Option.bind_eq_some_iff.mp h with ⟨_, htimeout, h⟩
    cases h
    exact ⟨hversion, hschema, hsystem, huser, hmodel, htemperature, htimeout⟩
  . rintro ⟨hversion, hschema, hsystem, huser, hmodel, htemperature, htimeout⟩
    have hversion : Serde.field object "schema_version" Serde.i32 (some defaultSchemaVersion)
        = some profile.schemaVersion := hversion
    rw [hversion, hschema, hsystem, huser, hmodel, htemperature, htimeout]
    rfl

theorem exists_ofMap_iff {object : SpelledJson}
    : (∃ profile, ofMap object = some profile) ↔ EnvelopeTyped object := by
  simp only [ofMap_eq_some]
  constructor
  . rintro ⟨profile, h⟩
    exact {
      schemaVersion := (exists_field_iff fun _ => isI32_iff).mp ⟨_, h.schemaVersion⟩
      promptSystemTemplate :=
        (exists_field_iff fun _ => isOptionalText_iff).mp ⟨_, h.promptSystemTemplate⟩
      promptUserTemplate :=
        (exists_field_iff fun _ => isOptionalText_iff).mp ⟨_, h.promptUserTemplate⟩
      model := (exists_field_iff fun _ => isOptionalText_iff).mp ⟨_, h.model⟩
      temperature := (exists_field_iff fun _ => isOptionalNumber_iff).mp ⟨_, h.temperature⟩
      timeoutMs := (exists_field_iff fun _ => isOptionalU64_iff).mp ⟨_, h.timeoutMs⟩ }
  . intro h
    have hany (v : SpelledJson) : True ↔ ∃ a, Serde.option Serde.value v = some a :=
      iff_of_true trivial (exists_option_value v)
    rcases (exists_field_iff fun _ => isI32_iff).mpr h.schemaVersion with ⟨_, hversion⟩
    rcases (exists_field_iff hany).mpr fun v _ => trivial with ⟨_, hschema⟩
    rcases (exists_field_iff fun _ => isOptionalText_iff).mpr h.promptSystemTemplate with ⟨_, hsystem⟩
    rcases (exists_field_iff fun _ => isOptionalText_iff).mpr h.promptUserTemplate with ⟨_, huser⟩
    rcases (exists_field_iff fun _ => isOptionalText_iff).mpr h.model with ⟨_, hmodel⟩
    rcases (exists_field_iff fun _ => isOptionalNumber_iff).mpr h.temperature with ⟨_, htemperature⟩
    rcases (exists_field_iff fun _ => isOptionalU64_iff).mpr h.timeoutMs with ⟨_, htimeout⟩
    exact ⟨⟨_, _, _, _, _, _, _⟩, hversion, hschema, hsystem, huser, hmodel, htemperature, htimeout⟩

theorem exists_ofSeq_iff {items : List SpelledJson}
    : (∃ profile, ofSeq items = some profile) ↔ SequenceTyped (.arr items) := by
  unfold SequenceTyped
  constructor
  . rintro ⟨profile, h⟩
    unfold ofSeq at h
    split at h
    next schemaVersion promptSchema system user model temperature timeoutMs =>
      rcases Option.bind_eq_some_iff.mp h with ⟨_, hversion, h⟩
      rcases Option.bind_eq_some_iff.mp h with ⟨_, -, h⟩
      rcases Option.bind_eq_some_iff.mp h with ⟨_, hsystem, h⟩
      rcases Option.bind_eq_some_iff.mp h with ⟨_, huser, h⟩
      rcases Option.bind_eq_some_iff.mp h with ⟨_, hmodel, h⟩
      rcases Option.bind_eq_some_iff.mp h with ⟨_, htemperature, h⟩
      rcases Option.bind_eq_some_iff.mp h with ⟨_, htimeout, -⟩
      exact ⟨schemaVersion, promptSchema, system, user, model, temperature, timeoutMs, rfl,
        isI32_iff.mpr ⟨_, hversion⟩, isOptionalText_iff.mpr ⟨_, hsystem⟩,
        isOptionalText_iff.mpr ⟨_, huser⟩, isOptionalText_iff.mpr ⟨_, hmodel⟩,
        isOptionalNumber_iff.mpr ⟨_, htemperature⟩, isOptionalU64_iff.mpr ⟨_, htimeout⟩⟩
    next => cases h
  . rintro ⟨schemaVersion, promptSchema, system, user, model, temperature, timeoutMs, hitems,
      hversion, hsystem, huser, hmodel, htemperature, htimeout⟩
    cases hitems
    rcases isI32_iff.mp hversion with ⟨_, hversion⟩
    rcases exists_option_value promptSchema with ⟨_, hschema⟩
    rcases isOptionalText_iff.mp hsystem with ⟨_, hsystem⟩
    rcases isOptionalText_iff.mp huser with ⟨_, huser⟩
    rcases isOptionalText_iff.mp hmodel with ⟨_, hmodel⟩
    rcases isOptionalNumber_iff.mp htemperature with ⟨_, htemperature⟩
    rcases isOptionalU64_iff.mp htimeout with ⟨_, htimeout⟩
    apply Option.isSome_iff_exists.mp
    simp [ofSeq, hversion, hschema, hsystem, huser, hmodel, htemperature, htimeout]

end IngestionProfileV1

/-! ## Parsing -/

variable {extractionSchema value object : SpelledJson} {parsed : IngestionProfileV1}

theorem parseProfile_of_reads (hobject : object.isObject = true) (h : parsed.Reads object)
    : parseProfile object = .ok parsed := by
  have hread := IngestionProfileV1.ofMap_eq_some.mpr h
  cases object with
  | obj entries =>
    have hvalue : IngestionProfileV1.ofValue (.obj entries) = some parsed := hread
    unfold parseProfile
    rw [hvalue]
  | null => cases hobject
  | bool b => cases hobject
  | num n => cases hobject
  | str s => cases hobject
  | arr items => cases hobject

theorem parseProfile_of_typed (hobject : object.isObject = true) (htyped : EnvelopeTyped object)
    : ∃ parsed, parseProfile object = .ok parsed ∧ parsed.Reads object := by
  rcases IngestionProfileV1.exists_ofMap_iff.mpr htyped with ⟨parsed, hread⟩
  have hreads := IngestionProfileV1.ofMap_eq_some.mp hread
  exact ⟨parsed, parseProfile_of_reads hobject hreads, hreads⟩

theorem parseProfile_of_not_typed (hobject : object.isObject = true)
    (htyped : ¬EnvelopeTyped object) : parseProfile object = .ok (schemaProfile object) := by
  cases object with
  | obj entries =>
    have hvalue : IngestionProfileV1.ofValue (.obj entries) = none := by
      rw [← Option.not_isSome_iff_eq_none, Option.isSome_iff_exists]
      exact fun h => htyped (IngestionProfileV1.exists_ofMap_iff.mp h)
    unfold parseProfile
    rw [hvalue]
    rfl
  | null => cases hobject
  | bool b => cases hobject
  | num n => cases hobject
  | str s => cases hobject
  | arr items => cases hobject

/-- What is not an object is rejected unless it is a sequence of well-typed values. -/
theorem parseProfile_of_not_object (hobject : value.isObject = false)
    : parseProfile value = .error unsupportedProfile ↔ ¬SequenceTyped value := by
  cases value with
  | arr items =>
    rw [← IngestionProfileV1.exists_ofSeq_iff]
    have hvalue : IngestionProfileV1.ofValue (.arr items) = IngestionProfileV1.ofSeq items := rfl
    unfold parseProfile
    rw [hvalue]
    cases IngestionProfileV1.ofSeq items with
    | none => simp [SpelledJson.isObject]
    | some parsed => simp
  | null => exact iff_of_true rfl (by rintro ⟨_, _, _, _, _, _, _, h, -⟩; cases h)
  | bool b => exact iff_of_true rfl (by rintro ⟨_, _, _, _, _, _, _, h, -⟩; cases h)
  | num n => exact iff_of_true rfl (by rintro ⟨_, _, _, _, _, _, _, h, -⟩; cases h)
  | str s => exact iff_of_true rfl (by rintro ⟨_, _, _, _, _, _, _, h, -⟩; cases h)
  | obj entries => cases hobject

/-! ## Defaults -/

theorem schemaVersion_withDefaults
    : (parsed.withDefaults extractionSchema).schemaVersion
      = if parsed.schemaVersion = 0 then 1 else parsed.schemaVersion := by
  unfold IngestionProfileV1.withDefaults builtinProfile
  split <;> simp_all

/-- A field of the merged profile is as it is given unless it is null and has a default. -/
theorem readsField_or_iff {key : String} {decode : Serde.Decoder α} {a : Option α}
    (builtin : Option α) (hread : Serde.optionalField object key decode = some a)
    : ReadsField object key (Serde.option decode) builtin (a.or builtin)
      ↔ (object.get key = some .null → builtin = none) := by
  unfold Serde.optionalField at hread
  unfold ReadsField
  cases hget : object.get key with
  | none =>
    rw [Serde.field_of_missing hget] at hread
    cases hread
    simp
  | some v =>
    rw [Serde.field_of_get hget] at hread
    simp only [hread, Option.some.injEq]
    cases a with
    | none =>
      rw [Serde.option_eq_some_none] at hread
      simp [hread, eq_comm]
    | some a =>
      rw [Serde.option_eq_some_some] at hread
      simp [hread.1]

theorem readsField_schemaVersion_iff (h : parsed.Reads object)
    : ReadsField object "schema_version" Serde.i32 1
        (parsed.withDefaults extractionSchema).schemaVersion
      ↔ object.get "schema_version" ≠ some (Serde.encodeInt 0) := by
  have hread := h.schemaVersion
  rw [schemaVersion_withDefaults]
  unfold ReadsField
  cases hget : object.get "schema_version" with
  | none =>
    rw [Serde.field_of_missing hget, Option.some.injEq] at hread
    simp [← hread]
  | some v =>
    rw [Serde.field_of_get hget] at hread
    have hv := (Serde.int_eq_some.mp hread).1
    have hzero : v = Serde.encodeInt 0 ↔ parsed.schemaVersion = 0 := by
      rw [hv]
      unfold Serde.encodeInt
      rw [SpelledJson.num.injEq, JsonNumber.int.injEq]
    simp only [hread, Option.some.injEq, ne_eq, hzero]
    split <;> simp_all

theorem readAsEnvelope_iff (h : parsed.Reads object)
    : ReadAsEnvelope extractionSchema object (parsed.withDefaults extractionSchema)
      ↔ object.get "schema_version" ≠ some (Serde.encodeInt 0)
        ∧ ∀ key ∈ promptKeys, object.get key ≠ some .null := by
  have hversion
      : ReadsField object "schema_version" Serde.i32 1
          (parsed.withDefaults extractionSchema).schemaVersion
        ↔ object.get "schema_version" ≠ some (Serde.encodeInt 0) :=
    readsField_schemaVersion_iff h
  have hschema := readsField_or_iff (some extractionSchema) h.promptSchema
  have hsystem := readsField_or_iff (some builtinSystemTemplate) h.promptSystemTemplate
  have huser := readsField_or_iff (some builtinUserTemplate) h.promptUserTemplate
  have hmodel := (readsField_or_iff none h.model).mpr fun _ => rfl
  have htemperature := (readsField_or_iff none h.temperature).mpr fun _ => rfl
  have htimeout := (readsField_or_iff none h.timeoutMs).mpr fun _ => rfl
  simp only [promptKeys, List.forall_mem_cons, List.not_mem_nil, false_implies, implies_true,
    and_true]
  simp only [reduceCtorEq, imp_false] at hschema hsystem huser
  constructor
  . intro hreads
    exact ⟨hversion.mp hreads.schemaVersion, hschema.mp hreads.promptSchema,
      hsystem.mp hreads.promptSystemTemplate, huser.mp hreads.promptUserTemplate⟩
  . rintro ⟨hnonzero, hschemaNull, hsystemNull, huserNull⟩
    exact {
      schemaVersion := hversion.mpr hnonzero
      promptSchema := hschema.mpr hschemaNull
      promptSystemTemplate := hsystem.mpr hsystemNull
      promptUserTemplate := huser.mpr huserNull
      model := hmodel
      temperature := htemperature
      timeoutMs := htimeout }

/-! ## Writing -/

namespace IngestionProfileV1

/-- The numbers of a profile are of their types. -/
structure InRange (profile : IngestionProfileV1) : Prop where
  schemaVersion : -2 ^ 31 ≤ profile.schemaVersion ∧ profile.schemaVersion ≤ 2 ^ 31 - 1
  temperature : ∀ t ∈ profile.temperature, ∃ q, F32.ofRat q = t
  timeoutMs : ∀ n ∈ profile.timeoutMs, 0 ≤ n ∧ n ≤ 2 ^ 64 - 1

/-- What holds of every profile that is parsed. -/
structure Sound (profile : IngestionProfileV1) : Prop extends InRange profile where
  promptSchema : profile.promptSchema ≠ some .null

theorem optionalField_eq_some_some {key : String} {decode : Serde.Decoder α} {a : α}
    (h : Serde.optionalField object key decode = some (some a))
    : ∃ v, object.get key = some v ∧ v ≠ .null ∧ decode v = some a := by
  unfold Serde.optionalField at h
  cases hget : object.get key with
  | none =>
    rw [Serde.field_of_missing hget] at h
    cases h
  | some v =>
    rw [Serde.field_of_get hget] at h
    exact ⟨v, rfl, Serde.option_eq_some_some.mp h⟩

theorem Reads.sound (h : Reads object parsed) : parsed.Sound where
  schemaVersion := by
    have hread := h.schemaVersion
    cases hget : object.get "schema_version" with
    | none =>
      rw [Serde.field_of_missing hget, Option.some.injEq] at hread
      rw [← hread]
      norm_num
    | some v =>
      rw [Serde.field_of_get hget] at hread
      exact (Serde.int_eq_some.mp hread).2
  promptSchema := by
    intro hschema
    have hread := h.promptSchema
    rw [hschema] at hread
    rcases optionalField_eq_some_some hread with ⟨v, -, hne, hv⟩
    exact hne (Option.some.inj hv)
  temperature := by
    intro t ht
    have hread := h.temperature
    rw [ht] at hread
    rcases optionalField_eq_some_some hread with ⟨v, -, -, hv⟩
    unfold Serde.f32 at hv
    split at hv
    next n => exact ⟨n.value, Option.some.inj hv⟩
    next => cases hv
  timeoutMs := by
    intro n hn
    have hread := h.timeoutMs
    rw [hn] at hread
    rcases optionalField_eq_some_some hread with ⟨v, -, -, hv⟩
    exact (Serde.int_eq_some.mp hv).2

theorem sound_schemaProfile (hobject : object.isObject = true) : (schemaProfile object).Sound where
  schemaVersion := by simp [schemaProfile]
  promptSchema := by
    intro h
    cases Option.some.inj h
    cases hobject
  temperature := by simp [schemaProfile]
  timeoutMs := by simp [schemaProfile]

section

variable (profile : IngestionProfileV1)

theorem get_toValue_schemaVersion
    : profile.toValue.get "schema_version" = some (Serde.encodeInt profile.schemaVersion) := by
  simp [toValue, SpelledJson.get, List.lookup_cons]

theorem get_toValue_promptSchema
    : profile.toValue.get "prompt_schema" = some (Serde.encodeOption id profile.promptSchema) := by
  simp [toValue, SpelledJson.get, List.lookup_cons]

theorem get_toValue_promptSystemTemplate
    : profile.toValue.get "prompt_system_template"
      = some (Serde.encodeOption .str profile.promptSystemTemplate) := by
  simp [toValue, SpelledJson.get, List.lookup_cons]

theorem get_toValue_promptUserTemplate
    : profile.toValue.get "prompt_user_template"
      = some (Serde.encodeOption .str profile.promptUserTemplate) := by
  simp [toValue, SpelledJson.get, List.lookup_cons]

theorem get_toValue_model
    : profile.toValue.get "model" = some (Serde.encodeOption .str profile.model) := by
  simp [toValue, SpelledJson.get]

theorem get_toValue_temperature
    : profile.toValue.get "temperature"
      = some (Serde.encodeOption Serde.encodeF32 profile.temperature) := by
  simp [toValue, SpelledJson.get, List.lookup_cons]

theorem get_toValue_timeoutMs
    : profile.toValue.get "timeout_ms"
      = some (Serde.encodeOption Serde.encodeInt profile.timeoutMs) := by
  simp [toValue, SpelledJson.get, List.lookup_cons]

/-- The profile as it is read from what is written for it. -/
def reread : IngestionProfileV1 := { profile with
  promptSchema := match profile.promptSchema with
    | some .null => none
    | promptSchema => promptSchema
  temperature := profile.temperature.filter F32.isFinite }

end

theorem option_string_encodeOption (a : Option String)
    : Serde.option Serde.string (Serde.encodeOption .str a) = some a := by
  apply Serde.option_encodeOption
  intro b _
  exact ⟨by simp, rfl⟩

theorem option_value_encodeOption (a : Option SpelledJson)
    : Serde.option Serde.value (Serde.encodeOption id a)
      = some (match a with
        | some .null => none
        | a => a) := by
  cases a with
  | none => rfl
  | some v => cases v <;> rfl

theorem option_f32_encodeOption {a : Option F32} (h : ∀ t ∈ a, ∃ q, F32.ofRat q = t)
    : Serde.option Serde.f32 (Serde.encodeOption Serde.encodeF32 a)
      = some (a.filter F32.isFinite) := by
  cases a with
  | none => rfl
  | some t =>
    rcases h t rfl with ⟨q, hq⟩
    cases t with
    | fin r => exact Serde.option_eq_some_some.mpr ⟨by simp [Serde.encodeOption, Serde.encodeF32],
        Serde.f32_encodeF32 hq⟩
    | inf negative => rfl
    | nan => rfl

theorem option_u64_encodeOption {a : Option ℤ} (h : ∀ n ∈ a, 0 ≤ n ∧ n ≤ 2 ^ 64 - 1)
    : Serde.option Serde.u64 (Serde.encodeOption Serde.encodeInt a) = some a := by
  apply Serde.option_encodeOption
  intro n hn
  exact ⟨by simp [Serde.encodeInt], Serde.int_encodeInt (h n hn).1 (h n hn).2⟩

theorem InRange.reads (h : parsed.InRange) : Reads parsed.toValue parsed.reread where
  schemaVersion := by
    rw [Serde.field_of_get parsed.get_toValue_schemaVersion]
    exact Serde.int_encodeInt h.schemaVersion.1 h.schemaVersion.2
  promptSchema := by
    unfold Serde.optionalField
    rw [Serde.field_of_get parsed.get_toValue_promptSchema]
    exact option_value_encodeOption parsed.promptSchema
  promptSystemTemplate := by
    unfold Serde.optionalField
    rw [Serde.field_of_get parsed.get_toValue_promptSystemTemplate]
    exact option_string_encodeOption parsed.promptSystemTemplate
  promptUserTemplate := by
    unfold Serde.optionalField
    rw [Serde.field_of_get parsed.get_toValue_promptUserTemplate]
    exact option_string_encodeOption parsed.promptUserTemplate
  model := by
    unfold Serde.optionalField
    rw [Serde.field_of_get parsed.get_toValue_model]
    exact option_string_encodeOption parsed.model
  temperature := by
    unfold Serde.optionalField
    rw [Serde.field_of_get parsed.get_toValue_temperature]
    exact option_f32_encodeOption h.temperature
  timeoutMs := by
    unfold Serde.optionalField
    rw [Serde.field_of_get parsed.get_toValue_timeoutMs]
    exact option_u64_encodeOption h.timeoutMs

theorem InRange.withDefaults (h : parsed.InRange)
    : (parsed.withDefaults extractionSchema).InRange where
  schemaVersion := by
    have hrange := h.schemaVersion
    rw [schemaVersion_withDefaults]
    split <;> omega
  temperature := by
    simpa [IngestionProfileV1.withDefaults, builtinProfile] using h.temperature
  timeoutMs := by
    simpa [IngestionProfileV1.withDefaults, builtinProfile] using h.timeoutMs

/-- What is written for a merged profile leads to it again exactly if its temperature is finite. -/
theorem reread_withDefaults_iff (h : parsed.Sound)
    : ((parsed.withDefaults extractionSchema).reread.withDefaults extractionSchema)
        = parsed.withDefaults extractionSchema
      ↔ ∀ t ∈ parsed.temperature, t.isFinite = true := by
  have hversion : ((parsed.withDefaults extractionSchema).reread.withDefaults
      extractionSchema).schemaVersion = (parsed.withDefaults extractionSchema).schemaVersion := by
    simp only [schemaVersion_withDefaults, reread]
    split <;> simp_all
  have hschema : ((parsed.withDefaults extractionSchema).reread.withDefaults
      extractionSchema).promptSchema = (parsed.withDefaults extractionSchema).promptSchema := by
    have hnull := h.promptSchema
    simp only [IngestionProfileV1.withDefaults, reread, builtinProfile]
    cases hparsed : parsed.promptSchema with
    | none => cases extractionSchema <;> rfl
    | some v =>
      cases v with
      | null => exact absurd hparsed hnull
      | _ => rfl
  have htemperature : ((parsed.withDefaults extractionSchema).reread.withDefaults
        extractionSchema).temperature = (parsed.withDefaults extractionSchema).temperature
      ↔ ∀ t ∈ parsed.temperature, t.isFinite = true := by
    simp only [IngestionProfileV1.withDefaults, reread, builtinProfile, Option.or_none]
    cases parsed.temperature with
    | none => simp
    | some t => simp [Option.filter]
  rw [← htemperature]
  constructor
  . intro heq
    rw [heq]
  . intro heq
    ext1
    case schemaVersion => exact hversion
    case promptSchema => exact hschema
    case temperature => exact heq
    all_goals simp [IngestionProfileV1.withDefaults, reread, builtinProfile]

theorem resolve_withDefaults (profileRef : IngestionProfileRef)
    : (∃ resolved, (parsed.withDefaults extractionSchema).resolve profileRef = .ok resolved)
      ↔ (parsed.withDefaults extractionSchema).schemaVersion = 1 := by
  have hsome {α : Type} (a : Option α) (b : α) : ∃ c, a.or (some b) = some c := by
    cases a <;> simp
  rcases hsome parsed.promptSchema extractionSchema with ⟨schema, hschema⟩
  rcases hsome parsed.promptSystemTemplate builtinSystemTemplate with ⟨system, hsystem⟩
  rcases hsome parsed.promptUserTemplate builtinUserTemplate with ⟨user, huser⟩
  have hmerged : (parsed.withDefaults extractionSchema).promptSchema = some schema
      ∧ (parsed.withDefaults extractionSchema).promptSystemTemplate = some system
      ∧ (parsed.withDefaults extractionSchema).promptUserTemplate = some user :=
    ⟨hschema, hsystem, huser⟩
  unfold resolve
  rw [hmerged.1, hmerged.2.1, hmerged.2.2]
  by_cases hversion : (parsed.withDefaults extractionSchema).schemaVersion = 1
  . simp [hversion, Except.rejectIf, Except.ofOption, bind, Except.bind, pure, Except.pure]
  . simp [hversion, Except.rejectIf, bind, Except.bind]

end IngestionProfileV1

/-! ## Ambiguities -/

/--
The two shapes of a profile are told apart, what is no object is rejected, and a resolved profile is
read back from what is written for it.
-/
structure ParsesUnambiguously (extractionSchema value : SpelledJson) : Prop where
  whole : value.isObject = true → (∀ key ∈ envelopeKeys, value.get key = none) →
    parseProfile value = .ok (schemaProfile value)
  envelope : value.isObject = true → (∃ key ∈ envelopeKeys, value.get key ≠ none) →
    EnvelopeTyped value → ∃ parsed, parseProfile value = .ok parsed
      ∧ ReadAsEnvelope extractionSchema value (parsed.withDefaults extractionSchema)
  rejected : value.isObject = false → parseProfile value = .error unsupportedProfile
  roundTrip : ∀ parsed profileRef resolved, parseProfile value = .ok parsed →
    (parsed.withDefaults extractionSchema).resolve profileRef = .ok resolved →
    ∃ again, parseProfile (parsed.withDefaults extractionSchema).toValue = .ok again
      ∧ again.withDefaults extractionSchema = parsed.withDefaults extractionSchema

/--
The value is no sequence of well-typed values. If it is an object, it has a field of the envelope.
If these fields are well typed, the version is not zero, no prompt is null, and the temperature is
in the range of its type.
-/
structure ProfileShape (value : SpelledJson) : Prop where
  sequence : ¬SequenceTyped value
  keyed : value.isObject = true → ∃ key ∈ envelopeKeys, value.get key ≠ none
  version : value.isObject = true → EnvelopeTyped value →
    value.get "schema_version" ≠ some (Serde.encodeInt 0)
  prompts : value.isObject = true → EnvelopeTyped value →
    ∀ key ∈ promptKeys, value.get key ≠ some .null
  temperature : value.isObject = true → EnvelopeTyped value →
    (value.get "schema_version" = none ∨ value.get "schema_version" = some (Serde.encodeInt 1)) →
    ∀ n, value.get "temperature" = some (.num n) → (F32.ofRat n.value).isFinite = true

/-- An object without any field of the envelope is read as an empty envelope. -/
theorem parseProfile_of_missing (hobject : object.isObject = true)
    (hmissing : ∀ key ∈ envelopeKeys, object.get key = none)
    : parseProfile object ≠ .ok (schemaProfile object) := by
  have hnone {key : String} (hkey : key ∈ envelopeKeys) {v : SpelledJson}
      (hget : object.get key = some v) : False := by
    rw [hmissing key hkey] at hget
    cases hget
  have htyped : EnvelopeTyped object := {
    schemaVersion := fun v hget => (hnone (by decide) hget).elim
    promptSystemTemplate := fun v hget => (hnone (by decide) hget).elim
    promptUserTemplate := fun v hget => (hnone (by decide) hget).elim
    model := fun v hget => (hnone (by decide) hget).elim
    temperature := fun v hget => (hnone (by decide) hget).elim
    timeoutMs := fun v hget => (hnone (by decide) hget).elim }
  rcases parseProfile_of_typed hobject htyped with ⟨parsed, hparse, hreads⟩
  have hschema : parsed.promptSchema = none := by
    have hread := hreads.promptSchema
    unfold Serde.optionalField at hread
    rw [Serde.field_of_missing (hmissing "prompt_schema" (by decide))] at hread
    exact (Option.some.inj hread).symm
  intro heq
  rw [hparse] at heq
  cases heq
  cases hschema

/-- A resolved profile is read back exactly if its temperature is finite. -/
theorem roundTrip_iff (hsound : parsed.Sound)
    : (∃ again, parseProfile (parsed.withDefaults extractionSchema).toValue = .ok again
        ∧ again.withDefaults extractionSchema = parsed.withDefaults extractionSchema)
      ↔ ∀ t ∈ parsed.temperature, t.isFinite = true := by
  have hrange : (parsed.withDefaults extractionSchema).InRange := hsound.toInRange.withDefaults
  have hagain : (parsed.withDefaults extractionSchema).reread.withDefaults extractionSchema
        = parsed.withDefaults extractionSchema
      ↔ ∀ t ∈ parsed.temperature, t.isFinite = true :=
    IngestionProfileV1.reread_withDefaults_iff hsound
  rw [← hagain, parseProfile_of_reads rfl hrange.reads]
  simp only [Except.ok.injEq, exists_eq_left']

theorem temperature_isFinite_iff (h : parsed.Reads object)
    : (∀ t ∈ parsed.temperature, t.isFinite = true)
      ↔ ∀ n, object.get "temperature" = some (.num n) → (F32.ofRat n.value).isFinite = true := by
  have hread := h.temperature
  unfold Serde.optionalField at hread
  cases hget : object.get "temperature" with
  | none =>
    rw [Serde.field_of_missing hget, Option.some.injEq] at hread
    simp [← hread]
  | some v =>
    rw [Serde.field_of_get hget] at hread
    cases v with
    | num n =>
      have hvalue : some (F32.ofRat n.value) = parsed.temperature := Option.some.inj hread
      simp [← hvalue]
    | null =>
      have hvalue : none = parsed.temperature := Option.some.inj hread
      simp [← hvalue]
    | bool b => cases hread
    | str s => cases hread
    | arr items => cases hread
    | obj entries => cases hread

theorem schemaVersion_withDefaults_eq_one (h : parsed.Reads object)
    (hzero : object.get "schema_version" ≠ some (Serde.encodeInt 0))
    : (parsed.withDefaults extractionSchema).schemaVersion = 1
      ↔ object.get "schema_version" = none
        ∨ object.get "schema_version" = some (Serde.encodeInt 1) := by
  have hread : ReadsField object "schema_version" Serde.i32 1
      (parsed.withDefaults extractionSchema).schemaVersion :=
    (readsField_schemaVersion_iff h).mpr hzero
  unfold ReadsField at hread
  cases hget : object.get "schema_version" with
  | none =>
    rw [hget] at hread
    simpa using hread
  | some v =>
    rw [hget] at hread
    have hv := (Serde.int_eq_some.mp hread).1
    rw [hv]
    simp [Serde.encodeInt]

theorem parsesUnambiguously_iff (extractionSchema value : SpelledJson)
    : ParsesUnambiguously extractionSchema value ↔ ProfileShape value := by
  constructor
  . intro h
    have hkeyed (hobject : value.isObject = true) : ∃ key ∈ envelopeKeys, value.get key ≠ none := by
      by_contra hnone
      push Not at hnone
      exact parseProfile_of_missing hobject hnone (h.whole hobject hnone)
    have henvelope (hobject : value.isObject = true) (htyped : EnvelopeTyped value)
        : value.get "schema_version" ≠ some (Serde.encodeInt 0)
          ∧ ∀ key ∈ promptKeys, value.get key ≠ some .null := by
      rcases parseProfile_of_typed hobject htyped with ⟨parsed, hparse, hreads⟩
      rcases h.envelope hobject (hkeyed hobject) htyped with ⟨parsed', hparse', hread⟩
      rw [hparse] at hparse'
      cases hparse'
      exact (readAsEnvelope_iff hreads).mp hread
    constructor
    case sequence =>
      intro hsequence
      have hobject : value.isObject = false := by
        rcases hsequence with ⟨_, _, _, _, _, _, _, rfl, -⟩
        rfl
      exact (parseProfile_of_not_object hobject).mp (h.rejected hobject) hsequence
    case keyed => exact hkeyed
    case version => exact fun hobject htyped => (henvelope hobject htyped).1
    case prompts => exact fun hobject htyped => (henvelope hobject htyped).2
    case temperature =>
      intro hobject htyped hversion
      rcases parseProfile_of_typed hobject htyped with ⟨parsed, hparse, hreads⟩
      have hone : (parsed.withDefaults extractionSchema).schemaVersion = 1 :=
        (schemaVersion_withDefaults_eq_one hreads (henvelope hobject htyped).1).mpr hversion
      rcases (IngestionProfileV1.resolve_withDefaults ⟨"", 0⟩).mpr hone with ⟨resolved, hresolved⟩
      have hround := h.roundTrip parsed _ resolved hparse hresolved
      exact (temperature_isFinite_iff hreads).mp ((roundTrip_iff hreads.sound).mp hround)
  . intro h
    constructor
    case whole =>
      intro hobject hmissing
      rcases h.keyed hobject with ⟨key, hkey, hpresent⟩
      exact absurd (hmissing key hkey) hpresent
    case envelope =>
      intro hobject _ htyped
      rcases parseProfile_of_typed hobject htyped with ⟨parsed, hparse, hreads⟩
      exact ⟨parsed, hparse,
        (readAsEnvelope_iff hreads).mpr ⟨h.version hobject htyped, h.prompts hobject htyped⟩⟩
    case rejected =>
      intro hobject
      exact (parseProfile_of_not_object hobject).mpr h.sequence
    case roundTrip =>
      intro parsed profileRef resolved hparse hresolved
      cases hobject : value.isObject with
      | false =>
        rw [(parseProfile_of_not_object hobject).mpr h.sequence] at hparse
        cases hparse
      | true =>
        by_cases htyped : EnvelopeTyped value
        . rcases parseProfile_of_typed hobject htyped with ⟨parsed', hparse', hreads⟩
          rw [hparse] at hparse'
          cases hparse'
          have hone := (IngestionProfileV1.resolve_withDefaults profileRef).mp ⟨resolved, hresolved⟩
          have hversion := (schemaVersion_withDefaults_eq_one hreads
            (h.version hobject htyped)).mp hone
          rw [roundTrip_iff hreads.sound, temperature_isFinite_iff hreads]
          exact h.temperature hobject htyped hversion
        . rw [parseProfile_of_not_typed hobject htyped] at hparse
          cases hparse
          rw [roundTrip_iff (IngestionProfileV1.sound_schemaProfile hobject)]
          simp [schemaProfile]

/-! ## Ambiguous profiles -/

/-- The schema of an operator. -/
def operatorSchema : SpelledJson := .obj [("title", .str "notes"), ("type", .str "object")]

/-- The values of an envelope without their names. -/
def envelopeSequence : SpelledJson :=
  .arr [Serde.encodeInt 1, .null, .null, .null, .null, .null, .null]

/-- The schema is dropped, the sequence is accepted, and a version of zero is replaced. -/
theorem ambiguous_profiles
    : ¬ParsesUnambiguously (.obj []) operatorSchema
        ∧ ¬ParsesUnambiguously (.obj []) envelopeSequence
        ∧ ¬ParsesUnambiguously (.obj []) (.obj [("schema_version", Serde.encodeInt 0)]) := by
  refine ⟨?_, ?_, ?_⟩
  . intro h
    have hmissing : ∀ key ∈ envelopeKeys, operatorSchema.get key = none := by
      simp [envelopeKeys, operatorSchema, SpelledJson.get, List.lookup_cons]
    exact parseProfile_of_missing rfl hmissing (h.whole rfl hmissing)
  . intro h
    have htyped : SequenceTyped envelopeSequence :=
      ⟨_, _, _, _, _, _, _, rfl, ⟨1, rfl, by decide, by decide⟩, .inl rfl, .inl rfl, .inl rfl,
        .inl rfl, .inl rfl⟩
    exact (parseProfile_of_not_object rfl).mp (h.rejected rfl) htyped
  . intro h
    have htyped : EnvelopeTyped (.obj [("schema_version", Serde.encodeInt 0)]) := by
      constructor
      case schemaVersion =>
        intro v hget
        cases hget
        exact ⟨0, rfl, by decide, by decide⟩
      all_goals
        intro v hget
        cases hget
    rcases parseProfile_of_typed rfl htyped with ⟨parsed, hparse, hreads⟩
    rcases h.envelope rfl ⟨"schema_version", by decide, by simp [SpelledJson.get]⟩
      htyped with ⟨parsed', hparse', hread⟩
    rw [hparse] at hparse'
    cases hparse'
    exact ((readAsEnvelope_iff hreads).mp hread).1 rfl

end Elf
