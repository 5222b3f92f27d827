import DeviceVerification.Config

/-!
# Where the fields of a configuration come from

`Config.Field` lists the fields, each with its place in a file, its variable and its default. A
well-formed variable comes first. Of the two files only one counts, the project's if there is one,
and what it leaves out has its default (`fields_come_from_one_file`). So a field that the global
file sets is lost where a project file leaves it out (`project_file_hides_global`), and only there
the files do not complete each other field by field.
-/

namespace DeviceVerification

open Json (Draft Slot)

namespace Json.Slot

/-- What is given for a field. -/
def given? : Slot → Option Draft
  | .given d => some d
  | _ => none

/-- A field with a default has what is given for it, or else its default. -/
theorem eq_of_orDefault {α : Type} {read : Draft → Option α} {default v : α} {slot : Slot}
    (h : slot.orDefault read default = some v) : v = (slot.given?.bind read).getD default := by
  cases slot with
  | given d =>
    have read : read d = some v := h
    simp [given?, read]
  | omitted | cut => exact (Option.some.inj h).symm

end Json.Slot

namespace Config

/-- The document in a file. -/
def File.document? (file : File) : Option Draft := do
  let bytes ← file.bytes
  let text ← String.fromUTF8? ⟨bytes.toArray⟩
  Draft.read? text

/-- The sections of a file. -/
inductive Part where
  | verification
  | logging

namespace Part

/-- The key of a section. -/
def name : Part → String
  | .verification => "verification"
  | .logging => "logging"

/-- The keys of the fields in a section. -/
def keys : Part → List String
  | .verification => ["request_timeout_secs", "max_future_skew_secs",
    "short_authentication_strings", "allow_legacy_mac"]
  | .logging => ["level", "json"]

end Part

/-- The fields of a configuration by the types of their values. -/
inductive Field : Type → Type where
  | requestTimeout : Field UInt64
  | maxFutureSkew : Field UInt64
  | sasMethods : Field (List SasMethod)
  | allowLegacyMac : Field Bool
  | logLevel : Field String
  | logJson : Field Bool

namespace Field

/-- The value of a field. -/
def get : {α : Type} → Field α → Config → α
  | _, .requestTimeout, c => c.verification.requestTimeout
  | _, .maxFutureSkew, c => c.verification.maxFutureSkew
  | _, .sasMethods, c => c.verification.sasMethods
  | _, .allowLegacyMac, c => c.verification.allowLegacyMac
  | _, .logLevel, c => c.logging.level
  | _, .logJson, c => c.logging.json

/-- The section that holds a field. -/
def part : {α : Type} → Field α → Part
  | _, .requestTimeout | _, .maxFutureSkew | _, .sasMethods | _, .allowLegacyMac => .verification
  | _, .logLevel | _, .logJson => .logging

/-- The key of a field in its section. -/
def key : {α : Type} → Field α → String
  | _, .requestTimeout => "request_timeout_secs"
  | _, .maxFutureSkew => "max_future_skew_secs"
  | _, .sasMethods => "short_authentication_strings"
  | _, .allowLegacyMac => "allow_legacy_mac"
  | _, .logLevel => "level"
  | _, .logJson => "json"

/-- The value that a draft holds. -/
def read? : {α : Type} → Field α → Draft → Option α
  | _, .requestTimeout, d | _, .maxFutureSkew, d => d.word?
  | _, .sasMethods, d => Identifier.listOfDraft? d
  | _, .allowLegacyMac, d | _, .logJson, d => d.flag?
  | _, .logLevel, d => d.text?

/-- The variable that overrides a field, if there is one. -/
def envName? : {α : Type} → Field α → Option String
  | _, .requestTimeout => some "SASVERIFY_REQUEST_TIMEOUT_SECS"
  | _, .allowLegacyMac => some "SASVERIFY_ALLOW_LEGACY_MAC"
  | _, .logLevel => some "SASVERIFY_LOG_LEVEL"
  | _, .logJson => some "SASVERIFY_LOG_JSON"
  | _, .maxFutureSkew | _, .sasMethods => none

/-- The value that a well-formed variable spells. -/
def spelled? : {α : Type} → Field α → String → Option α
  | _, .requestTimeout, s => (Environment.word? s).filter (0 < ·)
  | _, .allowLegacyMac, s | _, .logJson, s => Environment.flag? s
  | _, .logLevel, s => some s
  | _, .maxFutureSkew, _ | _, .sasMethods, _ => none

variable {α : Type}

/-- The built-in default of a field. -/
def default (f : Field α) : α := f.get Config.default

/-- The override of a field by a well-formed variable. -/
def override? (f : Field α) (env : Environment) : Option α := do
  let name ← f.envName?
  let text ← env.get? name
  f.spelled? text

/-- The value that a section sets a field to. -/
def inSection? (f : Field α) (d : Draft) : Option α := do
  let fields ← d.record? f.part.keys
  let value ← (fields.field f.key).given?
  f.read? value

/-- The value that a document sets a field to. -/
def inDraft? (f : Field α) (d : Draft) : Option α := do
  let sections ← d.record? ["verification", "logging"]
  let part ← (sections.field f.part.name).given?
  f.inSection? part

/-- The value that a file sets a field to. -/
def inFile? (f : Field α) (file : File) : Option α := file.document?.bind f.inDraft?

/-! ## One document -/

/-- A field with a default has what its section sets it to, or else its default. -/
theorem eq_inSection? (f : Field α) {d : Draft} {r : Json.Record} {v : α}
    (record : d.record? f.part.keys = some r)
    (read : (r.field f.key).orDefault f.read? f.default = some v) :
    v = (f.inSection? d).getD f.default := by
  have here : f.inSection? d = (r.field f.key).given?.bind f.read? := by
    rw [inSection?, record]
    rfl
  rw [here]
  exact Slot.eq_of_orDefault read

/-- What a document gives for the section of the verification decides the fields in it. -/
theorem get_of_verification (f : Field α) {slot : Slot} {v : VerificationConfig}
    (l : LoggingConfig) (here : f.part = .verification)
    (read : slot.orDefault VerificationConfig.ofDraft? .default = some v) :
    f.get ⟨v, l⟩ = (slot.given?.bind f.inSection?).getD f.default := by
  cases slot with
  | omitted | cut =>
    obtain rfl : VerificationConfig.default = v := Option.some.inj read
    cases f with
    | requestTimeout | maxFutureSkew | sasMethods | allowLegacyMac => rfl
    | logLevel | logJson => cases here
  | given d =>
    replace read : VerificationConfig.ofDraft? d = some v := read
    simp only [VerificationConfig.ofDraft?, Option.bind_eq_bind, Option.bind_eq_some_iff,
      Option.some.injEq] at read
    obtain ⟨r, record, timeout, timeout', skew, skew', forms, forms', legacy, legacy', rfl⟩ := read
    cases f with
    | requestTimeout => exact eq_inSection? .requestTimeout record timeout'
    | maxFutureSkew => exact eq_inSection? .maxFutureSkew record skew'
    | sasMethods => exact eq_inSection? .sasMethods record forms'
    | allowLegacyMac => exact eq_inSection? .allowLegacyMac record legacy'
    | logLevel | logJson => cases here

/-- What a document gives for the section of the log decides the fields in it. -/
theorem get_of_logging (f : Field α) {slot : Slot} {l : LoggingConfig} (v : VerificationConfig)
    (here : f.part = .logging) (read : slot.orDefault LoggingConfig.ofDraft? .default = some l) :
    f.get ⟨v, l⟩ = (slot.given?.bind f.inSection?).getD f.default := by
  cases slot with
  | omitted | cut =>
    obtain rfl : LoggingConfig.default = l := Option.some.inj read
    cases f with
    | logLevel | logJson => rfl
    | requestTimeout | maxFutureSkew | sasMethods | allowLegacyMac => cases here
  | given d =>
    replace read : LoggingConfig.ofDraft? d = some l := read
    simp only [LoggingConfig.ofDraft?, Option.bind_eq_bind, Option.bind_eq_some_iff,
      Option.some.injEq] at read
    obtain ⟨r, record, level, level', json, json', rfl⟩ := read
    cases f with
    | logLevel => exact eq_inSection? .logLevel record level'
    | logJson => exact eq_inSection? .logJson record json'
    | requestTimeout | maxFutureSkew | sasMethods | allowLegacyMac => cases here

/-- A field has the value that the document sets it to, or else its default. -/
theorem get_of_ofDraft? (f : Field α) {d : Draft} {c : Config} (read : ofDraft? d = some c) :
    f.get c = (f.inDraft? d).getD f.default := by
  simp only [ofDraft?, Option.bind_eq_bind, Option.bind_eq_some_iff,
      Option.some.injEq] at read
  obtain ⟨r, record, v, verification, l, logging, rfl⟩ := read
  have here : f.inDraft? d = (r.field f.part.name).given?.bind f.inSection? := by
    rw [inDraft?, record]
    rfl
  rw [here]
  cases part : f.part with
  | verification => exact f.get_of_verification l part verification
  | logging => exact f.get_of_logging v part logging

end Field

/-! ## Files -/

/-- A configuration with a positive timeout and a known form of the short string. -/
structure IsUsable (c : Config) : Prop where
  positive : 0 < c.verification.requestTimeout
  known : ∃ m ∈ c.verification.sasMethods, m.isKnown = true

/-- A file with the document of a usable configuration. -/
structure File.Holds (file : File) (c : Config) : Prop where
  document : ∃ d, file.document? = some d ∧ ofDraft? d = some c
  usable : c.IsUsable

/-- A file that does not exist or holds a configuration. -/
def File.IsValid (file : File) : Prop := file.bytes = none ∨ ∃ c, file.Holds c

theorem check_eq_ok_iff {c c' : Config} : c.check = .ok c' ↔ c = c' ∧ c'.IsUsable := by
  have positive : ¬c.verification.requestTimeout = 0 ↔ 0 < c.verification.requestTimeout := by
    rw [← UInt64.toNat_inj, UInt64.lt_iff_toNat_lt]
    exact Nat.pos_iff_ne_zero.symm
  unfold check
  split
  · rename_i zero
    refine ⟨nofun, ?_⟩
    rintro ⟨rfl, usable⟩
    exact absurd zero (positive.2 usable.positive)
  · rename_i timeout
    split
    · rename_i known
      rw [List.any_eq_true] at known
      refine ⟨fun same => ?_, fun ⟨same, _⟩ => congrArg _ same⟩
      obtain rfl := Except.ok.inj same
      exact ⟨rfl, positive.1 timeout, known⟩
    · rename_i unknown
      refine ⟨nofun, ?_⟩
      rintro ⟨rfl, usable⟩
      exact absurd (List.any_eq_true.2 usable.known) unknown

theorem ofFile_eq_ok_iff {path : String} {bytes : Bytes} {c : Config} :
    ofFile path bytes = .ok c ↔ File.Holds ⟨path, some bytes⟩ c := by
  have document : File.document? ⟨path, some bytes⟩ =
      (String.fromUTF8? ⟨bytes.toArray⟩).bind Draft.read? := rfl
  unfold ofFile
  constructor
  · intro accepted
    split at accepted
    · cases accepted
    · rename_i text decoded
      split at accepted
      · cases accepted
      · rename_i c' parsed
        obtain ⟨rfl, usable⟩ := check_eq_ok_iff.1 accepted
        obtain ⟨d, read, parsed⟩ := Option.bind_eq_some_iff.1 parsed
        exact ⟨⟨d, by rw [document, decoded]; exact read, parsed⟩, usable⟩
  · rintro ⟨⟨d, read, parsed⟩, usable⟩
    obtain ⟨text, decoded, read⟩ := Option.bind_eq_some_iff.1 (document ▸ read)
    rw [decoded]
    simp only [read, Option.bind_some, parsed]
    exact check_eq_ok_iff.2 ⟨rfl, usable⟩

theorem not_holds_of_absent {file : File} {c : Config} (absent : file.bytes = none) :
    ¬file.Holds c := by
  rintro ⟨⟨d, read, -⟩, -⟩
  simp [File.document?, absent] at read

/-- A file that does not exist changes nothing, and one that does replaces everything. -/
theorem layer_eq_ok_iff {below c : Config} {file : File} :
    below.layer file = .ok c ↔ file.bytes = none ∧ below = c ∨ file.Holds c := by
  obtain ⟨path, bytes⟩ := file
  cases bytes with
  | none => simp [layer, not_holds_of_absent]
  | some bytes => simp [layer, ofFile_eq_ok_iff]

theorem exists_layer (below : Config) {file : File} (valid : file.IsValid) :
    ∃ c, below.layer file = .ok c := by
  rcases valid with absent | ⟨c, holds⟩
  · exact ⟨below, layer_eq_ok_iff.2 (.inl ⟨absent, rfl⟩)⟩
  · exact ⟨c, layer_eq_ok_iff.2 (.inr holds)⟩

theorem load_eq_ok_iff {global project : File} {env : Environment} {c : Config} :
    load global project env = .ok c ↔ ∃ below top, Config.default.layer global = .ok below ∧
      below.layer project = .ok top ∧ top.override env = c := by
  unfold load
  simp only [bind, Except.bind]
  cases Config.default.layer global with
  | error e => simp
  | ok below =>
    cases top : below.layer project with
    | error e => simp [top]
    | ok top => simp [top]

/-! ## The origin of a field -/

/-- The file that counts: the project's if there is one. -/
def governing (global project : File) : File :=
  if project.bytes.isSome then project else global

namespace Field

variable {α : Type}

/-- A well-formed variable overrides its field. -/
theorem get_override (f : Field α) (c : Config) (env : Environment) :
    f.get (c.override env) = (f.override? env).getD (f.get c) := by
  cases f with
  | requestTimeout =>
    have same : requestTimeout.override? env = env.requestTimeout? := by
      unfold Environment.requestTimeout?
      cases text : env.get? "SASVERIFY_REQUEST_TIMEOUT_SECS" <;>
        simp [override?, envName?, spelled?, text]
    rw [same]
    rfl
  | logLevel =>
    have same : logLevel.override? env = env.logLevel? := by
      simp [override?, envName?, spelled?, Environment.logLevel?]
    rw [same]
    rfl
  | maxFutureSkew | sasMethods | allowLegacyMac | logJson => rfl

theorem get_of_holds (f : Field α) {file : File} {c : Config} (holds : file.Holds c) :
    f.get c = (f.inFile? file).getD f.default := by
  obtain ⟨d, read, parsed⟩ := holds.document
  rw [f.get_of_ofDraft? parsed, inFile?, read, Option.bind_some]

/-- A file that does not exist sets nothing. -/
theorem inFile?_of_absent (f : Field α) {file : File} (absent : file.bytes = none) :
    f.inFile? file = none := by
  simp [inFile?, File.document?, absent]

/-- The files leave a field with what the one that counts sets it to, or else its default. -/
theorem get_of_layers (f : Field α) {global project : File} {below top : Config}
    (first : Config.default.layer global = .ok below) (second : below.layer project = .ok top) :
    f.get top = (f.inFile? (governing global project)).getD f.default := by
  rcases layer_eq_ok_iff.1 second with ⟨absent, rfl⟩ | holds
  · have counts : governing global project = global := by simp [governing, absent]
    rw [counts]
    rcases layer_eq_ok_iff.1 first with ⟨absent, rfl⟩ | holds
    · rw [f.inFile?_of_absent absent]
      rfl
    · exact f.get_of_holds holds
  · have present : project.bytes.isSome := by
      rw [Option.isSome_iff_ne_none]
      exact fun absent => not_holds_of_absent absent holds
    rw [governing, if_pos present]
    exact f.get_of_holds holds

/-- The value of a field where every layer completes the ones below it: the override, or else what
the project file sets, or else what the global file sets, or else the default. -/
def layered (f : Field α) (global project : File) (env : Environment) : α :=
  (f.override? env).getD (((f.inFile? project).or (f.inFile? global)).getD f.default)

/-- A value of the global file is lost: no variable overrides it, and there is a project file that
says nothing about the field. -/
structure IsLost (f : Field α) (global project : File) (env : Environment) : Prop where
  free : f.override? env = none
  present : project.bytes.isSome
  silent : f.inFile? project = none
  set : ∃ v, f.inFile? global = some v ∧ v ≠ f.default

/-- The layers complete each other unless a value is lost. -/
theorem layered_eq_iff (f : Field α) (global project : File) (env : Environment) :
    (f.override? env).getD ((f.inFile? (governing global project)).getD f.default) =
        f.layered global project env ↔ ¬f.IsLost global project env := by
  unfold layered
  cases free : f.override? env with
  | some v =>
    refine iff_of_true rfl fun lost => ?_
    simp [lost.free] at free
  | none =>
    by_cases present : project.bytes.isSome
    · rw [governing, if_pos present]
      cases silent : f.inFile? project with
      | some v =>
        refine iff_of_true rfl fun lost => ?_
        simp [lost.silent] at silent
      | none =>
        cases set : f.inFile? global with
        | none =>
          refine iff_of_true rfl fun ⟨_, _, _, v, set', _⟩ => ?_
          simp [set'] at set
        | some v =>
          show f.default = v ↔ _
          refine ⟨fun same lost => ?_, fun kept => ?_⟩
          · obtain ⟨_, set', other⟩ := lost.set
            exact other ((Option.some.inj (set'.symm.trans set)).trans same.symm)
          · refine Classical.byContradiction fun other => ?_
            exact kept ⟨free, present, silent, v, set, Ne.symm other⟩
    · have absent : project.bytes = none := by simpa using present
      rw [governing, if_neg present, f.inFile?_of_absent absent]
      exact iff_of_true rfl fun lost => present lost.present

end Field

/-- **A field comes from a variable, from one file or from the defaults.** For all valid files and
every environment there is a configuration. Each of its fields has the value of its variable if that
is well-formed, or else what the file that counts sets it to, or else its default. So the layers
complete each other, field by field, except where there is a project file that leaves out a field
which the global file sets and no variable overrides: the value of the global file is lost there. -/
theorem fields_come_from_one_file {global project : File} (env : Environment)
    (below : global.IsValid) (above : project.IsValid) :
    ∃ c, load global project env = .ok c ∧ ∀ (α : Type) (f : Field α),
      f.get c =
          (f.override? env).getD ((f.inFile? (governing global project)).getD f.default) ∧
        (f.get c = f.layered global project env ↔ ¬f.IsLost global project env) := by
  obtain ⟨base, first⟩ := exists_layer Config.default below
  obtain ⟨top, second⟩ := exists_layer base above
  refine ⟨top.override env, load_eq_ok_iff.2 ⟨base, top, first, second, rfl⟩, fun α f => ?_⟩
  have value : f.get (top.override env) =
      (f.override? env).getD ((f.inFile? (governing global project)).getD f.default) := by
    rw [f.get_override, f.get_of_layers first second]
  exact ⟨value, value ▸ f.layered_eq_iff global project env⟩

/-- A global file that forbids the legacy MAC. -/
def sampleGlobal : File :=
  ⟨"<global>", some (utf8 "\x7b\"verification\":\x7b\"allow_legacy_mac\":false\x7d\x7d")⟩

/-- A project file that asks for another form of the log. -/
def sampleProject : File := ⟨"<project>", some (utf8 "\x7b\"logging\":\x7b\"json\":true\x7d\x7d")⟩

/-- A variable that is well-formed and one that is not. -/
def sampleVariables : Environment :=
  .ofList [("SASVERIFY_REQUEST_TIMEOUT_SECS", "30"), ("SASVERIFY_LOG_JSON", "yes")]

theorem isValid_of_layer {c : Config} {file : File} (read : Config.default.layer file = .ok c) :
    file.IsValid := by
  rcases layer_eq_ok_iff.1 read with ⟨absent, -⟩ | holds
  · exact .inl absent
  · exact .inr ⟨c, holds⟩

theorem isValid_sampleGlobal : sampleGlobal.IsValid :=
  isValid_of_layer (c := ⟨⟨600, 300, [.decimal, .emoji], false⟩, .default⟩) rfl

theorem isValid_sampleProject : sampleProject.IsValid :=
  isValid_of_layer (c := ⟨.default, ⟨"sasverify_engine=info", true⟩⟩) rfl

/-- The timeout comes from its variable, the form of the log from the project file and the skew from
the defaults. -/
theorem fields_come_from_one_file_sample :
    sampleGlobal.IsValid ∧ sampleProject.IsValid ∧
      ∃ c, load sampleGlobal sampleProject sampleVariables = .ok c ∧
        c.verification.requestTimeout = 30 ∧ c.logging.json = true ∧
        c.verification.maxFutureSkew = 300 := by
  obtain ⟨c, loaded, fields⟩ := fields_come_from_one_file sampleVariables isValid_sampleGlobal
    isValid_sampleProject
  have timeout : c.verification.requestTimeout = 30 :=
    (fields _ .requestTimeout).1.trans (by decide +kernel)
  have json : c.logging.json = true := (fields _ .logJson).1.trans (by decide +kernel)
  have skew : c.verification.maxFutureSkew = 300 :=
    (fields _ .maxFutureSkew).1.trans (by decide +kernel)
  exact ⟨isValid_sampleGlobal, isValid_sampleProject, c, loaded, timeout, json, skew⟩

/-- The project file says nothing about the legacy MAC, which the global file forbids; the two
together permit it. -/
theorem project_file_hides_global :
    sampleGlobal.IsValid ∧ sampleProject.IsValid ∧
      Field.allowLegacyMac.override? .empty = none ∧
      Field.allowLegacyMac.inFile? sampleProject = none ∧
      Field.allowLegacyMac.inFile? sampleGlobal = some false ∧
      Field.allowLegacyMac.layered sampleGlobal sampleProject .empty = false ∧
      ∃ c, load sampleGlobal sampleProject .empty = .ok c ∧
        c.verification.allowLegacyMac = true :=
  ⟨isValid_sampleGlobal, isValid_sampleProject, rfl, by decide +kernel, by decide +kernel,
    by decide +kernel, ⟨.default, ⟨"sasverify_engine=info", true⟩⟩, rfl, rfl⟩

end Config

end DeviceVerification
