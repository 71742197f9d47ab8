import Peripherals.FileTree.Access
import Peripherals.Proofs.Board.Uses
import Peripherals.Proofs.Logging
/-!
Valid configurations. Main statement: a configuration is valid just if logging can be set up from it and
only the analog module is asked to work on a real-time device; a board is set up just from a valid
configuration, and it offers each module on the backing that was asked for.
-/

set_option autoImplicit false

namespace Peripherals

/-! ### What is checked -/

namespace Configuration

private theorem checkName_ok_iff {what : String} {names : List String} {word : String} :
    checkName what names word = .ok () ↔ isNamed names word = true := by
  unfold checkName
  split <;> simp_all

private theorem checkBacking_ok_iff {kind : ModuleKind} {backing : Option Backing} :
    checkBacking kind backing = .ok () ↔ backing ≠ some .tizenrt := by
  unfold checkBacking
  split <;> simp_all

private theorem validate_ok_iff {c : Configuration} : c.validate = .ok () ↔
    (isNamed levelNames c.application.logLevel = true ∧ isNamed formatNames c.application.logFormat = true) ∧
      c.gpio.backing ≠ some .tizenrt ∧ c.pwm.backing ≠ some .tizenrt := by
  have both (x y : Except String Unit) : (x >>= fun _ => y) = .ok () ↔ x = .ok () ∧ y = .ok () := by
    cases x with
    | error e => simp [bind, Except.bind]
    | ok u => simp [bind, Except.bind]
  unfold validate
  rw [both, both, both, checkName_ok_iff, checkName_ok_iff, checkBacking_ok_iff, checkBacking_ok_iff, and_assoc]

end Configuration

/-! ### What is offered -/

def Configuration.backing? (c : Configuration) : ModuleKind → Option Backing
  | .adc => c.adc.backing
  | .gpio => c.gpio.backing
  | .pwm => c.pwm.backing

/-- The name under which a module on a backing is offered. -/
def Backing.offeredAs (b : Backing) (kind : ModuleKind) : String :=
  if kind = .adc ∧ b = .sysfs then "iio" else b.name

/-- What becomes of a kind of module on a platform: it is offered on a backing, or not at all. -/
inductive Configuration.Settles (c : Configuration) (platform : Platform) (kind : ModuleKind) :
    Option Backing → Prop
  | asked {b : Backing} (asked : c.backing? kind = some b) (on : b ≠ .disabled) :
    Settles c platform kind (some b)
  | disabled (asked : c.backing? kind = some .disabled) : Settles c platform kind none
  | linux (left_open : c.backing? kind = none) (linux : platform ≠ .artik05x) :
    Settles c platform kind (some .sysfs)
  | realTimeInputs (left_open : c.backing? kind = none) (realTime : platform = .artik05x)
    (inputs : kind = .adc) : Settles c platform kind (some .tizenrt)
  | realTime (left_open : c.backing? kind = none) (realTime : platform = .artik05x)
    (other : kind ≠ .adc) : Settles c platform kind none

section Modules

variable {φ F : Type}

def Adc.Backend.backing? : Adc.Backend → Option Backing
  | .iio _ => some .sysfs
  | .rtos _ => some .tizenrt
  | .simulated _ _ => some .mock
  | .recorded _ | .quiet => none

def Gpio.Backend.backing? : Gpio.Backend → Option Backing
  | .sysfs _ => some .sysfs
  | .simulated _ => some .mock
  | .recorded _ | .quiet => none

def Pwm.Backend.backing? : Pwm.Backend → Option Backing
  | .sysfs _ => some .sysfs
  | .simulated _ => some .mock
  | .recorded _ | .quiet => none

def Rig.backing? (r : Rig φ F) (m : ModuleRef) : Option Backing :=
  match m.kind with
  | .adc => (r.adcs.get? m.serial).bind (·.backend.backing?)
  | .gpio => (r.gpios.get? m.serial).bind (·.backend.backing?)
  | .pwm => (r.pwms.get? m.serial).bind (·.backend.backing?)

/-- An offer of a kind of module on a backing: it has the name of the backing, and what it builds is of
this kind and works on the backing. -/
structure Offer.Serves (o : Offer (Rig φ F)) (kind : ModuleKind) (b : Backing) : Prop where
  named : o.backend = b.offeredAs kind
  kind : ∀ r, (o.build r).1.kind = kind
  works : ∀ r, (o.build r).2.backing? (o.build r).1 = some b

end Modules

namespace Board

variable {φ F : Type}

/-- A kind of module is offered on a backing, or it is not offered. -/
def Provides (b : Board (Rig φ F)) (kind : ModuleKind) : Option Backing → Prop
  | some backing => ∃ o, b.offers.get? kind = some o ∧ o.Serves kind backing
  | none => b.offers.get? kind = none

private theorem Provides.backend?_eq {b : Board (Rig φ F)} {kind : ModuleKind}
    {settled : Option Backing}
    (provides : b.Provides kind settled) : b.backend? kind = settled.map (·.offeredAs kind) := by
  unfold backend?
  cases settled with
  | none => exact congrArg (Option.map Offer.backend) provides
  | some backing =>
    obtain ⟨o, offered, serves⟩ := provides
    rw [offered]
    exact congrArg some serves.named

private theorem Provides.mem_available_iff {b : Board (Rig φ F)} {kind : ModuleKind}
    {settled : Option Backing}
    (provides : b.Provides kind settled) : kind ∈ b.available ↔ settled.isSome = true := by
  have offered : b.offers.contains kind = settled.isSome := by
    unfold Assoc.contains
    cases settled with
    | none => exact congrArg Option.isSome provides
    | some backing =>
      obtain ⟨o, offered, _⟩ := provides
      rw [offered]
      rfl
  rw [available, List.mem_filter, offered]
  exact and_iff_right (ModuleKind.mem_all kind)

/-- The offer of a kind of module on a backing. -/
def offerOf? (c : Configuration) : ModuleKind → Backing → Option (Offer (Rig φ F))
  | .adc => adcOffer? c
  | .gpio => gpioOffer? c
  | .pwm => pwmOffer? c

def chosen (c : Configuration) (platform : Platform) (kind : ModuleKind) : Backing :=
  (c.backing? kind).getD (usualBacking platform (if kind = .adc then .tizenrt else .disabled))

private theorem get?_offer? {τ : Type} (b : Board τ) (kind kind' : ModuleKind) (o? : Option (Offer τ)) :
    (b.offer? kind o?).offers.get? kind' =
      if kind' = kind then o?.or (b.offers.get? kind') else b.offers.get? kind' := by
  cases o? with
  | none => simp [offer?]
  | some o => simp [offer?, offer, Assoc.get?_put]

private theorem platform_offer? {τ : Type} (b : Board τ) (kind : ModuleKind) (o? : Option (Offer τ)) :
    (b.offer? kind o?).platform = b.platform := by
  cases o? <;> rfl

private theorem platform_ofPlatform (c : Configuration) (platform : Platform) :
    (ofPlatform c platform : Board (Rig φ F)).platform = platform := by
  simp only [ofPlatform, platform_offer?]

private theorem offers_eq (c : Configuration) (platform : Platform) (kind : ModuleKind) :
    (ofPlatform c platform : Board (Rig φ F)).offers.get? kind = offerOf? c kind (chosen c platform kind) := by
  have bare : (∅ : Assoc ModuleKind (Offer (Rig φ F))).get? kind = none := rfl
  cases kind with
  | adc | gpio | pwm =>
    simp only [ofPlatform, get?_offer?, bare, Option.or_none, reduceCtorEq, if_true, if_false]
    rfl

private theorem serves_adc {b : Backing} {name : String} {backend : Nat → Adc.Backend}
    (named : name = b.offeredAs .adc) (works : ∀ n, (backend n).backing? = some b) :
    (⟨name, Rig.addAdc backend⟩ : Offer (Rig φ F)).Serves .adc b where
  named := named
  kind _ := rfl
  works r := by
    simp only [Rig.addAdc, Rig.backing?, Assoc.get?_put_self]
    exact works r.nextSerial

private theorem serves_gpio {b : Backing} {name : String} {backend : Nat → Gpio.Backend}
    (named : name = b.offeredAs .gpio) (works : ∀ n, (backend n).backing? = some b) :
    (⟨name, Rig.addGpio backend⟩ : Offer (Rig φ F)).Serves .gpio b where
  named := named
  kind _ := rfl
  works r := by
    simp only [Rig.addGpio, Rig.backing?, Assoc.get?_put_self]
    exact works r.nextSerial

private theorem serves_pwm {b : Backing} {name : String} {backend : Nat → Pwm.Backend}
    (named : name = b.offeredAs .pwm) (works : ∀ n, (backend n).backing? = some b) :
    (⟨name, Rig.addPwm backend⟩ : Offer (Rig φ F)).Serves .pwm b where
  named := named
  kind _ := rfl
  works r := by
    simp only [Rig.addPwm, Rig.backing?, Assoc.get?_put_self]
    exact works r.nextSerial

private theorem offerOf?_serves (c : Configuration) {kind : ModuleKind} {b : Backing}
    (on : b ≠ .disabled)
    (fits : kind ≠ .adc → b ≠ .tizenrt) :
    ∃ o : Offer (Rig φ F), offerOf? c kind b = some o ∧ o.Serves kind b := by
  cases kind with
  | adc =>
    cases b with
    | sysfs | tizenrt | mock => exact ⟨_, rfl, serves_adc rfl fun _ => rfl⟩
    | disabled => exact absurd rfl on
  | gpio =>
    cases b with
    | sysfs | mock => exact ⟨_, rfl, serves_gpio rfl fun _ => rfl⟩
    | tizenrt => exact absurd rfl (fits (by decide))
    | disabled => exact absurd rfl on
  | pwm =>
    cases b with
    | sysfs | mock => exact ⟨_, rfl, serves_pwm rfl fun _ => rfl⟩
    | tizenrt => exact absurd rfl (fits (by decide))
    | disabled => exact absurd rfl on

private theorem offerOf?_disabled (c : Configuration) (kind : ModuleKind) :
    (offerOf? c kind .disabled : Option (Offer (Rig φ F))) = none := by
  cases kind <;> rfl

/-- Where no kind but analog inputs is asked to work on a real-time device, every kind of module is
provided as the configuration and the platform settle it. -/
private theorem ofPlatform_provides {c : Configuration} (platform : Platform) {kind : ModuleKind}
    (fits : kind ≠ .adc → c.backing? kind ≠ some .tizenrt) :
    ∃ settled, c.Settles platform kind settled ∧
      (ofPlatform c platform : Board (Rig φ F)).Provides kind settled := by
  have provided {b : Backing} (on : b ≠ .disabled) (fits : kind ≠ .adc → b ≠ .tizenrt)
      (same : chosen c platform kind = b) : (ofPlatform c platform : Board (Rig φ F)).Provides kind (some b) := by
    obtain ⟨o, offered, serves⟩ := offerOf?_serves c on fits
    exact ⟨o, (offers_eq c platform kind).trans (same ▸ offered), serves⟩
  have missing (same : chosen c platform kind = .disabled) :
      (ofPlatform c platform : Board (Rig φ F)).Provides kind none :=
    (offers_eq c platform kind).trans (same ▸ offerOf?_disabled c kind)
  cases asked : c.backing? kind with
  | some b =>
    have same : chosen c platform kind = b := by rw [chosen, asked, Option.getD_some]
    by_cases on : b = .disabled
    · subst on
      exact ⟨none, .disabled asked, missing same⟩
    · refine ⟨some b, .asked asked on, provided on (fun other => ?_) same⟩
      rintro rfl
      exact fits other asked
  | none =>
    have same : chosen c platform kind =
        usualBacking platform (if kind = .adc then .tizenrt else .disabled) := by
      rw [chosen, asked, Option.getD_none]
    by_cases realTime : platform = .artik05x
    · subst realTime
      by_cases inputs : kind = .adc
      · refine ⟨some .tizenrt, .realTimeInputs asked rfl inputs, provided (by decide) ?_ ?_⟩
        · exact fun other => absurd inputs other
        · rw [same, if_pos inputs]
          rfl
      · refine ⟨none, .realTime asked rfl inputs, missing ?_⟩
        rw [same, if_neg inputs]
        rfl
    · refine ⟨some .sysfs, .linux asked realTime, provided (by decide) (fun _ => by decide) ?_⟩
      rw [same, usualBacking, if_neg]
      simpa [Platform.isRealTime] using realTime

/-! ### Boards from configurations -/

private theorem resolve_ok {ε : Type} (fs : FileSystem φ F) (model : Option String)
    (procRoot : Path) (s : φ) :
    ∃ platform, (Platform.resolve fs model procRoot s : Outcome ε _ _).answer = .ok platform := by
  cases model with
  | some m => exact ⟨_, rfl⟩
  | none =>
    simp only [Platform.resolve, Platform.detect, Action.bind_apply, Action.attempt_apply]
    cases (Platform.readModel fs (procRoot.join "device-tree/model") s).answer <;> exact ⟨_, rfl⟩

private theorem ofConfiguration_invalid (fs : FileSystem φ F) {c : Configuration} {message : String}
    (invalid : c.validate = .error message) (s : φ) :
    ofConfiguration fs c s = ⟨.error (.configuration message), [], s⟩ := by
  simp only [ofConfiguration, Action.bind_apply, Action.ofExcept, invalid]
  rfl

private theorem ofConfiguration_valid (fs : FileSystem φ F) {c : Configuration}
    (valid : c.validate = .ok ()) (s : φ) :
    ∃ platform,
      (Platform.resolve fs c.board.model ⟨c.board.procRoot⟩ s : Outcome Fault _ _).answer = .ok platform ∧
      (ofConfiguration fs c s).answer = .ok (ofPlatform c platform) := by
  obtain ⟨platform, answer⟩ := resolve_ok (ε := Fault) fs c.board.model ⟨c.board.procRoot⟩ s
  refine ⟨platform, answer, ?_⟩
  simp only [ofConfiguration, Action.bind_apply, Action.ofExcept, valid, Except.mapError, answer]
  rfl

end Board

/-- A configuration is valid just if logging settings follow from it and neither lines nor outputs are
asked to work on a real-time device. Just then a board is set up from it, on the platform that is
named or detected. The board offers each kind of module on the backing that was asked for or, where
that was left open, on the usual one of the platform; what is disabled is not offered. And logging
starts wherever a logger is turned down only because there is one already. -/
theorem valid_configuration_obeyed {φ F : Type} (fs : FileSystem φ F) (c : Configuration) (s : φ) :
    (c.validate = .ok () ↔ (∃ settings, Logging.Settings.ofConfiguration c = .ok settings) ∧
      c.gpio.backing ≠ some .tizenrt ∧ c.pwm.backing ≠ some .tizenrt) ∧
    ((∃ board, (Board.ofConfiguration fs c s).answer = .ok board) ↔ c.validate = .ok ()) ∧
    ∀ board, (Board.ofConfiguration fs c s).answer = .ok board →
      (∀ facility : Logging.Facility, facility.Orderly → ∀ vars, ∃ lets, facility.startFor vars c = .ok lets) ∧
      (Platform.resolve fs c.board.model ⟨c.board.procRoot⟩ s : Outcome Fault _ _).answer = .ok board.platform ∧
      ∀ kind, ∃ settled, c.Settles board.platform kind settled ∧ board.Provides kind settled ∧
        board.backend? kind = settled.map (·.offeredAs kind) ∧
        (kind ∈ board.available ↔ settled.isSome = true) := by
  have valid_iff : (∃ board, (Board.ofConfiguration fs c s).answer = .ok board) ↔ c.validate = .ok () := by
    constructor
    · rintro ⟨board, made⟩
      cases checked : c.validate with
      | ok u => rfl
      | error message =>
        rw [Board.ofConfiguration_invalid fs checked] at made
        cases made
    · intro valid
      obtain ⟨platform, -, made⟩ := Board.ofConfiguration_valid fs valid s
      exact ⟨_, made⟩
  refine ⟨?_, valid_iff, fun board made => ?_⟩
  · rw [Configuration.validate_ok_iff, Logging.ofConfiguration_ok_iff]
  · have valid := valid_iff.mp ⟨board, made⟩
    obtain ⟨names, lines, outputs⟩ := Configuration.validate_ok_iff.mp valid
    obtain ⟨platform, resolved, made'⟩ := Board.ofConfiguration_valid fs valid s
    obtain rfl := Except.ok.inj (made.symm.trans made')
    refine ⟨?_, ?_, fun kind => ?_⟩
    · exact fun facility orderly vars =>
        orderly.startFor_ok_iff.mpr (Logging.ofConfiguration_ok_iff.mpr names)
    · rw [Board.platform_ofPlatform]
      exact resolved
    · have fits : kind ≠ .adc → c.backing? kind ≠ some .tizenrt := by
        intro other
        cases kind with
        | adc => exact absurd rfl other
        | gpio => exact lines
        | pwm => exact outputs
      obtain ⟨settled, settles, provides⟩ := Board.ofPlatform_provides platform fits
      rw [Board.platform_ofPlatform]
      exact ⟨settled, settles, provides, provides.backend?_eq, provides.mem_available_iff⟩

/-- On a board with a real-time system only the analog inputs need no mention, a level may be in
capitals, and logging may have been started before. -/
theorem realTime_board_obeys :
    let c : Configuration :=
      { application := { logLevel := "WARN" }, board := { model := some "ARTIK055s" }
        gpio := { backing := some .mock } }
    ∃ board, (Board.ofConfiguration FileTree.fileSystem c {}).answer = .ok board ∧
      board.backend? .adc = some "tizenrt" ∧ board.backend? .gpio = some "mock" ∧
      .pwm ∉ board.available ∧ Logging.startFor c = .ok () := by
  intro c
  obtain ⟨-, valid_iff, obeys⟩ := valid_configuration_obeyed FileTree.fileSystem c {}
  have valid : c.validate = .ok () := by decide +kernel
  have model : Platform.ofModel "ARTIK055s" = .artik05x := by decide +kernel
  obtain ⟨board, made⟩ := valid_iff.mpr valid
  obtain ⟨logs, resolved, offers⟩ := obeys board made
  have platform : board.platform = .artik05x := (Except.ok.inj resolved).symm.trans model
  refine ⟨board, made, ?_, ?_, ?_, ?_⟩
  · obtain ⟨settled, settles, -, backend, -⟩ := offers .adc
    cases settles with
    | realTimeInputs => exact backend
    | asked asked | disabled asked => cases asked
    | linux _ linux => exact absurd platform linux
    | realTime _ _ other => exact absurd rfl other
  · obtain ⟨settled, settles, -, backend, -⟩ := offers .gpio
    cases settles with
    | asked asked =>
      obtain rfl := Option.some.inj asked
      exact backend
    | disabled asked | linux asked | realTimeInputs asked | realTime asked => cases asked
  · obtain ⟨settled, settles, -, -, available⟩ := offers .pwm
    cases settles with
    | realTime => exact fun offered => Bool.false_ne_true (available.mp offered)
    | asked asked | disabled asked => cases asked
    | linux _ linux => exact absurd platform linux
    | realTimeInputs _ _ inputs => cases inputs
  · obtain ⟨lets, started⟩ := logs .occupied Logging.Facility.occupied_orderly []
    rw [Logging.startFor, started]
    rfl

end Peripherals
