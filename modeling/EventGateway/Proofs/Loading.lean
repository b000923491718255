import EventGateway.Config.Variables
import EventGateway.Proofs.Numerals
import EventGateway.Proofs.Records
import EventGateway.Proofs.Trimming
/-!
# Loading the configuration — what it is, and what is reported if there is none

Each variable is worth what the word in it spells, or a standard value, and some of them can be wrong in themselves or
with others.  What a word spells is said without the parsers, which are shown to agree (`Parses`), and so is what the
list of the versions says (`parseList_eq_iff`).  Either nothing is wrong, and the configuration is what the variables
are worth, or the first of the offences is reported, in an order that is the same for all environments
(`first_offence_reported`).
-/
namespace EventGateway

/-! ## Offences -/

/-- A value if there are no offences, and otherwise the first of them. -/
def report {ε α : Type} (offences : List ε) (a : α) : Except ε α := offences.head?.elim (.ok a) .error

theorem report_eq_ok_iff {ε α : Type} {offences : List ε} {a b : α} :
    report offences a = .ok b ↔ offences = [] ∧ a = b := by
  cases offences <;> simp [report]

theorem report_eq_error_iff {ε α : Type} {offences : List ε} {a : α} {e : ε} :
    report offences a = .error e ↔ offences.head? = some e := by
  cases offences <;> simp [report]

/-- **What is read later offends later.** -/
theorem report_bind {ε α β : Type} {f : α → Except ε β} {offences later : List ε} {a : α} {b : β}
    (h : f a = report later b) : (report offences a >>= f) = report (offences ++ later) b := by
  cases offences with
  | nil => exact h
  | cons e rest => rfl

theorem report_bind_pure {ε α β : Type} {f : α → β} {offences : List ε} {a : α} :
    (report offences a >>= fun a => pure (f a)) = report offences (f a) := by
  cases offences <;> rfl

namespace Settings

/-- A variable that is wrong because of `p`. -/
def complaint (p : Prop) [Decidable p] (name why : String) : List ConfigError :=
  if p then [.invalidValue name why] else []

theorem head?_complaint {p : Prop} [Decidable p] {name why : String} {later : List ConfigError} :
    (complaint p name why ++ later).head? = if p then some (.invalidValue name why) else later.head? := by
  rw [complaint]
  split <;> rfl

/-- Everything that is wrong with the settings. -/
def violations (s : Settings) : List ConfigError :=
  [complaint (s.versions = []) "GATEWAY_SUPPORTED_VERSIONS" "at least one version is required",
    complaint (s.queueCapacity = 0) "GATEWAY_QUEUE_CAPACITY" "must be greater than zero",
    complaint (s.controlQueueCapacity = 0) "GATEWAY_CONTROL_QUEUE_CAPACITY" "must be greater than zero",
    complaint (s.overflowThreshold = 0) "GATEWAY_OVERFLOW_THRESHOLD" "must be greater than zero",
    complaint (s.heartbeatTimeout ≤ s.heartbeatInterval) "GATEWAY_HEARTBEAT_TIMEOUT_MS"
      "must exceed the heartbeat interval"].flatten

/-- **The check of the settings stops at the first violation.** -/
theorem validate_eq (s : Settings) : s.validate = report s.violations () := by
  have hfault : s.fault? = s.violations.head? := by
    simp only [fault?, violations, List.isEmpty_iff, List.flatten_cons, head?_complaint, List.flatten_nil,
      List.head?_nil]
  rw [validate, hfault, report]

end Settings

/-! ## What a word spells -/

/-- **The names of the policies**: the case does not matter, and a hyphen serves as well. -/
inductive OverflowPolicy.Named (s : String) : OverflowPolicy → Prop where
  | dropOldest (h : Text.lower s = "drop_oldest" ∨ Text.lower s = "drop-oldest") : Named s .dropOldest
  | disconnect (h : Text.lower s = "disconnect") : Named s .disconnect

namespace Variables

/-- A parser takes a word for what it spells, and any other word is wrong. -/
def Parses {α : Type} (parse : String → Except String α) (Means : String → α → Prop) : Prop :=
  ∀ {s : String} {a : α}, Text.IsWord s → (parse s = .ok a ↔ Means s a)

def MeansUInt16 (s : String) (n : UInt16) : Prop := Text.Decimal.Spelled false s.toList n.toNat

def MeansUInt32 (s : String) (n : UInt32) : Prop := Text.Decimal.Spelled false s.toList n.toNat

def MeansUInt64 (s : String) (n : UInt64) : Prop := Text.Decimal.Spelled false s.toList n.toNat

def MeansInt64 (s : String) (n : Int64) : Prop := Text.Decimal.Spelled true s.toList n.toInt

theorem parses_uint16 : Parses uint16 MeansUInt16 := fun _ => mapError_eq_ok_iff.trans Text.readUInt16_eq_ok_iff

theorem parses_uint32 : Parses uint32 MeansUInt32 := fun _ => mapError_eq_ok_iff.trans Text.readUInt32_eq_ok_iff

theorem parses_uint64 : Parses uint64 MeansUInt64 := fun _ => mapError_eq_ok_iff.trans Text.readUInt64_eq_ok_iff

theorem parses_int64 : Parses int64 MeansInt64 := fun _ => mapError_eq_ok_iff.trans Text.readInt64_eq_ok_iff

theorem parses_overflowPolicy : Parses OverflowPolicy.parse OverflowPolicy.Named := by
  intro s a hword
  rw [OverflowPolicy.parse, hword.trim_eq]
  constructor
  · intro h
    split at h
    · obtain rfl := Except.ok.inj h
      exact .dropOldest (.inl ‹_›)
    · obtain rfl := Except.ok.inj h
      exact .dropOldest (.inr ‹_›)
    · obtain rfl := Except.ok.inj h
      exact .disconnect ‹_›
    · cases h
  · rintro (⟨h | h⟩ | h) <;> rw [h] <;> rfl

/-- **A list is read as the words between its commas**, in their order. -/
theorem parseList_eq_iff {raw : String} {words : List String} : parseList raw = words ↔ ∃ pieces : List String,
    pieces ≠ [] ∧ (∀ piece ∈ pieces, ',' ∉ piece.toList) ∧ raw = ",".intercalate pieces ∧ Text.Words pieces words := by
  rw [parseList, Text.filter_trim_eq_iff]
  constructor
  · intro h
    obtain ⟨hne, hcommas, hraw⟩ := Text.splitOn_eq_iff.1 (rfl : Text.splitOn ',' raw = _)
    exact ⟨_, hne, hcommas, hraw, h⟩
  · rintro ⟨pieces, hne, hcommas, hraw, h⟩
    rwa [Text.splitOn_eq_iff.2 ⟨hne, hcommas, hraw⟩]

/-! ## One variable -/

/-- The text of a variable, trimmed, unless there is none or it is blank. -/
def word? (vars : Variables) (name : String) : Option String :=
  (vars.value? name).bind fun raw => if Text.isAllBlank raw then none else some (Text.trim raw)

/-- **What a variable is worth**: what the word in it spells, or a standard value if there is no word in it. -/
inductive Worth {α : Type} (vars : Variables) (name : String) (standard : α) (Means : String → α → Prop) : α → Prop where
  | unset (h : ∀ raw, vars.value? name = some raw → ∀ c ∈ raw.toList, Text.isBlank c = true) :
    Worth vars name standard Means standard
  | set {raw word : String} {a : α} (h : vars.value? name = some raw) (hpadded : Text.Padded word raw)
    (hword : Text.IsWord word) (hmeans : Means word a) : Worth vars name standard Means a

/-- **What a list is worth**: the words between its commas, or a standard list if it is not set. -/
inductive Lists (vars : Variables) (name : String) (standard : List String) : List String → Prop where
  | unset (h : vars.value? name = none) : Lists vars name standard standard
  | set {raw : String} {pieces words : List String} (h : vars.value? name = some raw) (hne : pieces ≠ [])
    (hcommas : ∀ piece ∈ pieces, ',' ∉ piece.toList) (hraw : raw = ",".intercalate pieces)
    (hwords : Text.Words pieces words) : Lists vars name standard words

section

variable {α : Type} (vars : Variables) (name : String) (standard : α) (parse : String → Except String α)

theorem word?_eq_none_iff : vars.word? name = none ↔
    ∀ raw, vars.value? name = some raw → ∀ c ∈ raw.toList, Text.isBlank c = true := by
  rw [word?, Option.bind_eq_none_iff]
  refine forall_congr' fun raw => forall_congr' fun _ => ?_
  rw [← List.all_eq_true, ← Text.isAllBlank]
  split <;> simp [*]

theorem word?_eq_some_iff {word : String} : vars.word? name = some word ↔
    ∃ raw, vars.value? name = some raw ∧ Text.Padded word raw ∧ Text.IsWord word := by
  rw [word?]
  constructor
  · intro h
    obtain ⟨raw, hraw, h⟩ := Option.bind_eq_some_iff.1 h
    split at h
    · cases h
    · next hblank =>
      obtain rfl := Option.some.inj h
      exact ⟨raw, hraw, Text.padded_trim raw, Text.isWord_trim (eq_false_of_ne_true hblank)⟩
  · rintro ⟨raw, hraw, hpadded, hword⟩
    rw [hraw, Option.bind_some, hpadded.isAllBlank_eq_false hword, (Text.trim_eq_iff hword.trim_eq).2 hpadded]
    rfl

/-- What is wrong with the text of a variable. -/
def offence : List ConfigError :=
  match (vars.word? name).map parse with
  | some (.error why) => [.invalidValue name why]
  | _ => []

/-- What a variable is worth if nothing is wrong with it. -/
def worth : α :=
  match (vars.word? name).map parse with
  | some (.ok a) => a
  | _ => standard

theorem read_eq : vars.read name standard parse = report (vars.offence name parse) (vars.worth name standard parse) := by
  rw [read, offence, worth, word?]
  cases vars.value? name with
  | none => rfl
  | some raw =>
    cases hblank : Text.isAllBlank raw with
    | true => simp only [hblank, Option.bind_some, if_true, Option.map_none, report, List.head?_nil, Option.elim_none]
    | false =>
      simp only [hblank, Option.bind_some, Bool.false_eq_true, if_false, Option.map_some]
      cases parse (Text.trim raw) <;> rfl

/-- **A variable is worth something exactly if nothing is wrong with it.** -/
theorem worth_iff {parse : String → Except String α} {Means : String → α → Prop} (hparses : Parses parse Means) {a : α} :
    vars.Worth name standard Means a ↔ vars.offence name parse = [] ∧ vars.worth name standard parse = a := by
  rw [offence, worth]
  constructor
  · intro h
    cases h with
    | unset h => simp [(vars.word?_eq_none_iff name).2 h]
    | set h hpadded hword hmeans =>
      simp [(vars.word?_eq_some_iff name).2 ⟨_, h, hpadded, hword⟩, (hparses hword).2 hmeans]
  · rintro ⟨hoffence, rfl⟩
    cases hword : vars.word? name with
    | none => exact .unset ((vars.word?_eq_none_iff name).1 hword)
    | some s =>
      obtain ⟨raw, hraw, hpadded, hisWord⟩ := (vars.word?_eq_some_iff name).1 hword
      cases hparse : parse s with
      | error why => simp [hword, hparse] at hoffence
      | ok a =>
        simp only [Option.map_some, hparse]
        exact .set hraw hpadded hisWord ((hparses hisWord).1 hparse)

theorem lists_iff {standard words : List String} :
    vars.Lists name standard words ↔ ((vars.value? name).map parseList).getD standard = words := by
  constructor
  · intro h
    cases h with
    | unset h => rw [h]; rfl
    | set h hne hcommas hraw hwords =>
      rw [h, Option.map_some, Option.getD_some, parseList_eq_iff]
      exact ⟨_, hne, hcommas, hraw, hwords⟩
  · rintro rfl
    cases hvalue : vars.value? name with
    | none => exact .unset hvalue
    | some raw =>
      obtain ⟨pieces, hne, hcommas, hraw, hwords⟩ := parseList_eq_iff.1 (rfl : parseList raw = _)
      exact .set hvalue hne hcommas hraw hwords

end

/-! ## All variables -/

/-- What is wrong with the variables of the gateway, one by one. -/
def gatewayOffences (vars : Variables) : List ConfigError :=
  [vars.offence "GATEWAY_IDENTIFY_TIMEOUT_MS" uint64, vars.offence "GATEWAY_HEARTBEAT_INTERVAL_MS" uint64,
    vars.offence "GATEWAY_HEARTBEAT_TIMEOUT_MS" uint64, vars.offence "GATEWAY_CLOSE_GRACE_MS" uint64,
    vars.offence "GATEWAY_MAX_FRAME_BYTES" uint64, vars.offence "GATEWAY_QUEUE_CAPACITY" uint64,
    vars.offence "GATEWAY_CONTROL_QUEUE_CAPACITY" uint64, vars.offence "GATEWAY_OVERFLOW_THRESHOLD" uint32,
    vars.offence "GATEWAY_OVERFLOW_WINDOW_MS" uint64,
    vars.offence "GATEWAY_OVERFLOW_POLICY" OverflowPolicy.parse].flatten

/-- The versions that are spoken. -/
def versions (vars : Variables) : List String :=
  ((vars.value? "GATEWAY_SUPPORTED_VERSIONS").map parseList).getD Settings.standard.versions

/-- **The settings that the variables spell.** -/
structure Spells (vars : Variables) (s : Settings) : Prop where
  versions : vars.Lists "GATEWAY_SUPPORTED_VERSIONS" Settings.standard.versions s.versions
  identifyTimeout :
    vars.Worth "GATEWAY_IDENTIFY_TIMEOUT_MS" Settings.standard.identifyTimeout MeansUInt64 s.identifyTimeout
  heartbeatInterval :
    vars.Worth "GATEWAY_HEARTBEAT_INTERVAL_MS" Settings.standard.heartbeatInterval MeansUInt64 s.heartbeatInterval
  heartbeatTimeout :
    vars.Worth "GATEWAY_HEARTBEAT_TIMEOUT_MS" Settings.standard.heartbeatTimeout MeansUInt64 s.heartbeatTimeout
  closeGrace : vars.Worth "GATEWAY_CLOSE_GRACE_MS" Settings.standard.closeGrace MeansUInt64 s.closeGrace
  maxFrameBytes : vars.Worth "GATEWAY_MAX_FRAME_BYTES" Settings.standard.maxFrameBytes MeansUInt64 s.maxFrameBytes
  queueCapacity : vars.Worth "GATEWAY_QUEUE_CAPACITY" Settings.standard.queueCapacity MeansUInt64 s.queueCapacity
  controlQueueCapacity : vars.Worth "GATEWAY_CONTROL_QUEUE_CAPACITY" Settings.standard.controlQueueCapacity MeansUInt64
    s.controlQueueCapacity
  overflowThreshold :
    vars.Worth "GATEWAY_OVERFLOW_THRESHOLD" Settings.standard.overflowThreshold MeansUInt32 s.overflowThreshold
  overflowWindow :
    vars.Worth "GATEWAY_OVERFLOW_WINDOW_MS" Settings.standard.overflowWindow MeansUInt64 s.overflowWindow
  overflowPolicy :
    vars.Worth "GATEWAY_OVERFLOW_POLICY" Settings.standard.overflowPolicy OverflowPolicy.Named s.overflowPolicy

/-- The settings with the standard value for every variable that something is wrong with. -/
def standing (vars : Variables) : Settings where
  versions := vars.versions
  identifyTimeout := vars.worth "GATEWAY_IDENTIFY_TIMEOUT_MS" Settings.standard.identifyTimeout uint64
  heartbeatInterval := vars.worth "GATEWAY_HEARTBEAT_INTERVAL_MS" Settings.standard.heartbeatInterval uint64
  heartbeatTimeout := vars.worth "GATEWAY_HEARTBEAT_TIMEOUT_MS" Settings.standard.heartbeatTimeout uint64
  closeGrace := vars.worth "GATEWAY_CLOSE_GRACE_MS" Settings.standard.closeGrace uint64
  maxFrameBytes := vars.worth "GATEWAY_MAX_FRAME_BYTES" Settings.standard.maxFrameBytes uint64
  queueCapacity := vars.worth "GATEWAY_QUEUE_CAPACITY" Settings.standard.queueCapacity uint64
  controlQueueCapacity :=
    vars.worth "GATEWAY_CONTROL_QUEUE_CAPACITY" Settings.standard.controlQueueCapacity uint64
  overflowThreshold := vars.worth "GATEWAY_OVERFLOW_THRESHOLD" Settings.standard.overflowThreshold uint32
  overflowWindow := vars.worth "GATEWAY_OVERFLOW_WINDOW_MS" Settings.standard.overflowWindow uint64
  overflowPolicy := vars.worth "GATEWAY_OVERFLOW_POLICY" Settings.standard.overflowPolicy OverflowPolicy.parse

theorem spells_iff {vars : Variables} {s : Settings} :
    vars.Spells s ↔ vars.gatewayOffences = [] ∧ vars.standing = s := by
  simp only [gatewayOffences, List.flatten_cons, List.flatten_nil, List.append_nil, List.append_eq_nil_iff]
  constructor
  · rintro ⟨h, h₁, h₂, h₃, h₄, h₅, h₆, h₇, h₈, h₉, h₁₀⟩
    rw [lists_iff] at h
    rw [worth_iff _ _ _ parses_uint64] at h₁ h₂ h₃ h₄ h₅ h₆ h₇ h₉
    rw [worth_iff _ _ _ parses_uint32] at h₈
    rw [worth_iff _ _ _ parses_overflowPolicy] at h₁₀
    refine ⟨⟨h₁.1, h₂.1, h₃.1, h₄.1, h₅.1, h₆.1, h₇.1, h₈.1, h₉.1, h₁₀.1⟩, ?_⟩
    rw [standing, versions, h, h₁.2, h₂.2, h₃.2, h₄.2, h₅.2, h₆.2, h₇.2, h₈.2, h₉.2, h₁₀.2]
  · rintro ⟨⟨h₁, h₂, h₃, h₄, h₅, h₆, h₇, h₈, h₉, h₁₀⟩, rfl⟩
    have huint64 := fun {name standard} (h : vars.offence name uint64 = []) =>
      (vars.worth_iff name standard parses_uint64).2 ⟨h, rfl⟩
    exact {
      versions := (vars.lists_iff _).2 rfl
      identifyTimeout := huint64 h₁
      heartbeatInterval := huint64 h₂
      heartbeatTimeout := huint64 h₃
      closeGrace := huint64 h₄
      maxFrameBytes := huint64 h₅
      queueCapacity := huint64 h₆
      controlQueueCapacity := huint64 h₇
      overflowThreshold := (vars.worth_iff _ _ parses_uint32).2 ⟨h₈, rfl⟩
      overflowWindow := huint64 h₉
      overflowPolicy := (vars.worth_iff _ _ parses_overflowPolicy).2 ⟨h₁₀, rfl⟩ }

theorem settings_eq (vars : Variables) :
    vars.settings = report (vars.gatewayOffences ++ vars.standing.violations) vars.standing := by
  have hlast : (do vars.standing.validate; return vars.standing) = report vars.standing.violations vars.standing := by
    rw [Settings.validate_eq]
    exact report_bind_pure
  simp only [gatewayOffences, List.flatten_cons, List.flatten_nil, List.append_nil, List.append_assoc]
  unfold settings
  simp only [read_eq]
  iterate 10 refine report_bind ?_
  exact hlast

/-- What is wrong with the variables that are read once the settings have been checked. -/
def laterOffences (vars : Variables) : List ConfigError :=
  [vars.offence "GATEWAY_PORT" uint16,
    if (vars.value? "JWT_SECRET").isSome then [] else [.missingVariable "JWT_SECRET"],
    vars.offence "JWT_ACCESS_TOKEN_EXPIRY" int64, vars.offence "WORKER_ID" uint16].flatten

/-- **Everything that is wrong with an environment**, in the order in which it is looked at. -/
def offences (vars : Variables) : List ConfigError :=
  vars.gatewayOffences ++ vars.standing.violations ++ vars.laterOffences

end Variables

namespace Config

/-- **The configuration that the variables spell.** -/
structure Spelled (vars : Variables) (c : Config) : Prop where
  gateway : vars.Spells c.gateway
  valid : c.gateway.validate = .ok ()
  port : vars.Worth "GATEWAY_PORT" standardPort Variables.MeansUInt16 c.port
  secret : vars.value? "JWT_SECRET" = some c.secret
  tokenExpiry : vars.Worth "JWT_ACCESS_TOKEN_EXPIRY" standardExpiry Variables.MeansInt64 c.tokenExpiry
  worker : vars.Worth "WORKER_ID" 0 Variables.MeansUInt16 c.worker
  name : c.name = (vars.value? "APP_NAME").getD standardName
  env : c.env = ((vars.value? "APP_ENV").bind Environment.parse?).getD .development
  host : c.host = (vars.value? "GATEWAY_HOST").getD standardHost

/-- The configuration if nothing is wrong with the variables. -/
def standing (vars : Variables) : Config where
  name := (vars.value? "APP_NAME").getD standardName
  env := ((vars.value? "APP_ENV").bind Environment.parse?).getD .development
  host := (vars.value? "GATEWAY_HOST").getD standardHost
  port := vars.worth "GATEWAY_PORT" standardPort Variables.uint16
  secret := (vars.value? "JWT_SECRET").getD ""
  tokenExpiry := vars.worth "JWT_ACCESS_TOKEN_EXPIRY" standardExpiry Variables.int64
  gateway := vars.standing
  worker := vars.worth "WORKER_ID" 0 Variables.uint16

theorem spelled_iff {vars : Variables} {c : Config} : Spelled vars c ↔ vars.offences = [] ∧ standing vars = c := by
  simp only [Variables.offences, Variables.laterOffences, List.flatten_cons, List.flatten_nil, List.append_nil,
    List.append_eq_nil_iff]
  constructor
  · rintro ⟨hgateway, hvalid, hport, hsecret, hexpiry, hworker, hname, henv, hhost⟩
    rw [Variables.spells_iff] at hgateway
    rw [Variables.worth_iff _ _ _ Variables.parses_uint16] at hport hworker
    rw [Variables.worth_iff _ _ _ Variables.parses_int64] at hexpiry
    rw [Settings.validate_eq, report_eq_ok_iff, ← hgateway.2] at hvalid
    refine ⟨⟨⟨hgateway.1, hvalid.1⟩, hport.1, by rw [hsecret]; rfl, hexpiry.1, hworker.1⟩, ?_⟩
    rw [standing, ← hname, ← henv, ← hhost, hport.2, hexpiry.2, hworker.2, hgateway.2, hsecret, Option.getD_some]
  · rintro ⟨⟨⟨hgateway, hvalid⟩, hport, hsecret, hexpiry, hworker⟩, rfl⟩
    cases hvalue : vars.value? "JWT_SECRET" with
    | none => simp [hvalue] at hsecret
    | some secret =>
      exact {
        gateway := Variables.spells_iff.2 ⟨hgateway, rfl⟩
        valid := by rw [Settings.validate_eq, report_eq_ok_iff]; exact ⟨hvalid, rfl⟩
        port := (vars.worth_iff _ _ Variables.parses_uint16).2 ⟨hport, rfl⟩
        secret := by rw [standing, hvalue, Option.getD_some]
        tokenExpiry := (vars.worth_iff _ _ Variables.parses_int64).2 ⟨hexpiry, rfl⟩
        worker := (vars.worth_iff _ _ Variables.parses_uint16).2 ⟨hworker, rfl⟩
        name := rfl
        env := rfl
        host := rfl }

theorem ofVariables_eq (vars : Variables) : ofVariables vars = report vars.offences (standing vars) := by
  have hsecret : (vars.value? "JWT_SECRET").elim (.error (ConfigError.missingVariable "JWT_SECRET")) .ok =
      report (if (vars.value? "JWT_SECRET").isSome then [] else [ConfigError.missingVariable "JWT_SECRET"])
        ((vars.value? "JWT_SECRET").getD "") := by
    cases vars.value? "JWT_SECRET" <;> rfl
  simp only [Variables.offences, Variables.laterOffences, List.flatten_cons, List.flatten_nil, List.append_nil]
  unfold ofVariables
  rw [Variables.settings_eq, hsecret]
  simp only [Variables.read_eq]
  iterate 4 refine report_bind ?_
  exact report_bind_pure

/-- **The configuration is what the variables spell, or the first offence is reported.**  There is a configuration
exactly if the variables spell one whose settings are valid, and then it is this one.  Otherwise the error is the first
of the variables of the gateway that do not parse, then of the constraints on the settings, then of what is left: the
port, a secret that is missing, the expiry of the tokens and the worker.  The name, the environment and the host are
never to blame. -/
theorem first_offence_reported (vars : Variables) :
    (∀ c, ofVariables vars = .ok c ↔ Spelled vars c) ∧
      (∀ err, ofVariables vars = .error err ↔ vars.offences.head? = some err) ∧
      (vars.gatewayOffences = [] → vars.Spells vars.standing) ∧
      ∀ vars' : Variables, (∀ name, name ∉ ["APP_ENV", "APP_NAME", "GATEWAY_HOST"] → vars'.value? name = vars.value? name) →
        ∀ err, ofVariables vars' = .error err ↔ ofVariables vars = .error err := by
  refine ⟨fun c => ?_, fun err => ?_, fun h => Variables.spells_iff.2 ⟨h, rfl⟩, fun vars' hsame err => ?_⟩
  · rw [ofVariables_eq, report_eq_ok_iff, spelled_iff]
  · rw [ofVariables_eq, report_eq_error_iff]
  · have hoffences : vars'.offences = vars.offences := by
      simp (disch := decide) only [Variables.offences, Variables.gatewayOffences, Variables.laterOffences,
        Variables.standing, Variables.versions, Variables.offence, Variables.worth, Variables.word?, hsame]
    rw [ofVariables_eq, ofVariables_eq, report_eq_error_iff, report_eq_error_iff, hoffences]

/-- Four variables are wrong, and only what is said of the versions comes before the rest. -/
theorem first_offence_reported_versions :
    let vars : Variables := [("GATEWAY_SUPPORTED_VERSIONS", some " , "), ("GATEWAY_QUEUE_CAPACITY", some "0"),
      ("GATEWAY_PORT", some "70000"), ("JWT_SECRET", none)]
    vars.Spells vars.standing ∧ ofVariables (("APP_ENV", some "moon") :: vars) =
      .error (.invalidValue "GATEWAY_SUPPORTED_VERSIONS" "at least one version is required") := by
  intro vars
  obtain ⟨-, herror, hspells, hsame⟩ := first_offence_reported vars
  refine ⟨hspells (by decide +kernel), (hsame _ (fun name hname => ?_) _).2 ((herror _).2 (by decide +kernel))⟩
  have hne : (name == "APP_ENV") = false := beq_eq_false_iff_ne.2 fun h => hname (h ▸ List.mem_cons_self)
  rw [Variables.value?, List.lookup_cons, hne, Variables.value?]

end Config
end EventGateway
