import DeviceVerification.Proofs.Config.Origin
import DeviceVerification.Proofs.Sas.Negotiation

/-!
# Loaded configurations interoperate

Whatever files and variables a configuration is loaded from, it is usable: every layer on its own
keeps a positive timeout and a known form of the short string (`isUsable_of_load`). Two devices with
loaded configurations can differ in these forms only, so they agree if and only if they have a known
form in common, and then never on the legacy MAC (`loaded_configs_interoperate`).
-/

namespace DeviceVerification

/-- Decimals and emoji are the known forms of the short string. -/
theorem SasMethod.isKnown_iff {m : SasMethod} : m.isKnown = true ↔ m = .decimal ∨ m = .emoji := by
  obtain ⟨name⟩ := m
  simp [Identifier.isKnown, Vocabulary.known, decimal, emoji]

/-! ## Loaded configurations -/

namespace Config

variable {below c : Config} {global project file : File} {env : Environment}

theorem isUsable_default : default.IsUsable := ⟨by decide, .decimal, by decide, by decide⟩

theorem IsUsable.layer (usable : below.IsUsable) (read : below.layer file = .ok c) :
    c.IsUsable := by
  rcases layer_eq_ok_iff.1 read with ⟨-, rfl⟩ | holds
  · exact usable
  · exact holds.usable

/-- The variable of the timeout is not well-formed if it is zero. -/
theorem IsUsable.override (usable : c.IsUsable) (env : Environment) :
    (c.override env).IsUsable := by
  refine ⟨?_, usable.known⟩
  show 0 < env.requestTimeout?.getD c.verification.requestTimeout
  cases set : env.requestTimeout? with
  | none => exact usable.positive
  | some n => simpa using (Option.filter_eq_some_iff.1 set).2

theorem isUsable_of_load (loaded : load global project env = .ok c) : c.IsUsable := by
  obtain ⟨base, top, first, second, rfl⟩ := load_eq_ok_iff.1 loaded
  exact ((isUsable_default.layer first).layer second).override env

/-- A usable configuration offers decimals or emoji. -/
theorem IsUsable.offers (usable : c.IsUsable) :
    .decimal ∈ c.verification.sasMethods ∨ .emoji ∈ c.verification.sasMethods := by
  obtain ⟨m, mem, known⟩ := usable.known
  rcases SasMethod.isKnown_iff.1 known with rfl | rfl
  · exact .inl mem
  · exact .inr mem

end Config

/-! ## The settings of configurations -/

namespace Sas.Settings

variable {a b : VerificationConfig} {device : String} {n : Agreement}

theorem mem_sasMethods_ofConfig {c : VerificationConfig} {m : SasMethod} :
    m ∈ (ofConfig c).sasMethods ↔ m ∈ c.sasMethods ∧ m.isKnown = true := List.mem_filter

/-- Everybody offers the current MAC, and prefers it. -/
theorem firstCommon_macs (a b : VerificationConfig) :
    firstCommon b.macs a.macs = some .current := by
  simp [firstCommon, VerificationConfig.macs]

/-- What configurations agree on. -/
theorem chooses_ofConfig
    (chosen : (ofConfig b).Chooses ((ofConfig a).startContent device) n) :
    n.hash = .sha256 ∧ n.keyAgreement = .curve25519 ∧ n.mac = .current ∧
      ∀ m ∈ n.sasMethods, m.isKnown = true := by
  refine ⟨?_, ?_, ?_, fun m mem => ?_⟩
  · exact List.mem_singleton.1 chosen.hash.shared
  · exact List.mem_singleton.1 chosen.keyAgreement.shared
  · have preferred := firstCommon_eq_some_iff.2 chosen.mac
    exact Option.some.inj (preferred.symm.trans (firstCommon_macs a b))
  · rw [chosen.sasMethods] at mem
    exact (mem_sasMethods_ofConfig.1 (List.mem_filter.1 mem).1).2

/-- Configurations without an agreement have no known form in common. -/
theorem isApart_ofConfig_iff : (ofConfig b).IsApart ((ofConfig a).startContent device) ↔
    ∀ m, m.isKnown = true → m ∈ a.sasMethods → m ∉ b.sasMethods := by
  have hashes : ¬(ofConfig a).hashes.Disjoint (ofConfig b).hashes := by
    simp [ofConfig]
  have keyAgreements : ¬(ofConfig a).keyAgreements.Disjoint (ofConfig b).keyAgreements := by
    simp [ofConfig]
  have macs : ¬(ofConfig a).macs.Disjoint (ofConfig b).macs := by
    simp [ofConfig, VerificationConfig.macs]
  have forms : (ofConfig a).sasMethods.Disjoint (ofConfig b).sasMethods ↔
      ∀ m, m.isKnown = true → m ∈ a.sasMethods → m ∉ b.sasMethods := by
    simp only [List.disjoint_left, mem_sasMethods_ofConfig, not_and, and_imp]
    exact ⟨fun apart m known mem mem' => apart mem known mem' known,
      fun apart m mem known mem' => absurd mem' (apart m known mem)⟩
  simp only [IsApart, startContent, hashes, keyAgreements, macs, forms, false_or]

end Sas.Settings

namespace Config

/-- What a device with a configuration offers. -/
def settings (c : Config) : Sas.Settings := .ofConfig c.verification

/-- **Loaded configurations interoperate.** Every configuration that can be loaded has a positive
timeout and offers decimals or emoji. Two devices with such configurations agree if and only if they
have a known form of the short string in common; both halves of the negotiation then come to the
same algorithms, all of them known, and the MAC is the current one, whether or not either side
permits the legacy MAC. -/
theorem loaded_configs_interoperate {global₁ project₁ global₂ project₂ : File}
    {env₁ env₂ : Environment} {a b : Config} (ha : load global₁ project₁ env₁ = .ok a)
    (hb : load global₂ project₂ env₂ = .ok b) (device commitment : String) :
    (∀ c ∈ [a, b], 0 < c.verification.requestTimeout ∧
      (.decimal ∈ c.verification.sasMethods ∨ .emoji ∈ c.verification.sasMethods)) ∧
    ((∃ n, b.settings.negotiate (a.settings.startContent device) = some n) ↔
      ∃ m : SasMethod, m.isKnown = true ∧ m ∈ a.verification.sasMethods ∧
        m ∈ b.verification.sasMethods) ∧
    ∀ n, b.settings.negotiate (a.settings.startContent device) = some n →
      a.settings.accepted (a.settings.startContent device) (n.acceptContent commitment) = some n ∧
        n.hash.isKnown = true ∧ n.keyAgreement.isKnown = true ∧
        (∀ m ∈ n.sasMethods, m.isKnown = true) ∧ n.mac = .current := by
  refine ⟨?_, ?_, fun n agrees => ?_⟩
  · intro c mem
    have usable : c.IsUsable := by
      rcases List.mem_pair.1 mem with rfl | rfl
      · exact isUsable_of_load ha
      · exact isUsable_of_load hb
    exact ⟨usable.positive, usable.offers⟩
  · rw [← Option.isSome_iff_exists, Option.isSome_iff_ne_none, Ne,
      Sas.Settings.negotiate_eq_none_iff rfl, settings, settings, Sas.Settings.isApart_ofConfig_iff]
    simp
  · obtain ⟨hash, keyAgreement, mac, sasMethods⟩ :=
      Sas.Settings.chooses_ofConfig ((Sas.Settings.negotiate_eq_some_iff rfl).1 agrees)
    refine ⟨Sas.Settings.accepted_acceptContent agrees commitment, ?_, ?_, sasMethods, mac⟩
    · rw [hash]
      decide
    · rw [keyAgreement]
      decide

/-- A global file with a form of the short string that nobody knows. -/
def sampleForms : File :=
  ⟨"<global>", some (utf8
    "\x7b\"verification\":\x7b\"short_authentication_strings\":[\"qr\",\"emoji\"]\x7d\x7d")⟩

/-- A device that forbids the legacy MAC agrees with one that knows emoji only. -/
theorem loaded_configs_interoperate_sample :
    load sampleGlobal ⟨"<project>", none⟩ .empty =
        .ok ⟨⟨600, 300, [.decimal, .emoji], false⟩, .default⟩ ∧
      load sampleForms ⟨"<project>", none⟩ .empty =
        .ok ⟨⟨600, 300, [⟨"qr"⟩, .emoji], true⟩, .default⟩ ∧
      ∃ n, (settings ⟨⟨600, 300, [⟨"qr"⟩, .emoji], true⟩, .default⟩).negotiate
          ((settings ⟨⟨600, 300, [.decimal, .emoji], false⟩, .default⟩).startContent "ALICE") =
            some n ∧ n.mac = .current := by
  have ha : load sampleGlobal ⟨"<project>", none⟩ .empty =
      .ok ⟨⟨600, 300, [.decimal, .emoji], false⟩, .default⟩ := rfl
  have hb : load sampleForms ⟨"<project>", none⟩ .empty =
      .ok ⟨⟨600, 300, [⟨"qr"⟩, .emoji], true⟩, .default⟩ := rfl
  obtain ⟨-, meet, agreed⟩ := loaded_configs_interoperate ha hb "ALICE" "c"
  obtain ⟨n, agrees⟩ := meet.2 ⟨.emoji, by decide, by decide, by decide⟩
  exact ⟨ha, hb, n, agrees, (agreed n agrees).2.2.2.2⟩

end Config

end DeviceVerification
