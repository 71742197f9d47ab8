import Peripherals.Proofs.Desk.Faults
import Peripherals.Proofs.Desk.Owned
import Peripherals.Rig.Basic
/-!
Commands to the modules of a rig, of all three kinds. Main statement: a command enters at most one
handle at a desk, or strikes at most one, as the command and its answer tell.
-/

set_option autoImplicit false

namespace Peripherals

variable {φ F : Type}

/-! ### Commands of all kinds -/

/-- What can be asked of a module, by its kind. -/
inductive ModuleCommand where
  | adc (k : Adc.Command)
  | gpio (k : Gpio.Command)
  | pwm (k : Pwm.Command)

inductive ModuleAnswer where
  | adc (a : Adc.Answer)
  | gpio (a : Gpio.Answer)
  | pwm (a : Pwm.Answer)
  deriving DecidableEq

namespace ModuleCommand

def kind : ModuleCommand → ModuleKind
  | .adc _ => .adc
  | .gpio _ => .gpio
  | .pwm _ => .pwm

/-- The handle that a command is about; a request is about none. -/
def handle? : ModuleCommand → Option Handle
  | .adc k => k.handle?
  | .gpio k => k.handle?
  | .pwm k => k.handle?

def key? : ModuleCommand → Option UInt32
  | .adc (.request c) => some c.pin
  | .gpio (.request c) => some c.line
  | .pwm (.request c) => some c.pin
  | _ => none

def release? : ModuleCommand → Option Handle
  | .adc (.release h) | .gpio (.release h) | .pwm (.release h) => some h
  | _ => none

/-- A request for an output asks for no pulse longer than the period. -/
def Legal : ModuleCommand → Prop
  | .pwm (.request c) => c.duty ≤ c.period
  | _ => True

end ModuleCommand

def ModuleAnswer.granted? : ModuleAnswer → Option Handle
  | .adc (.granted h) | .gpio (.granted h) | .pwm (.granted h) => some h
  | _ => none

def Rig.perform (fs : FileSystem φ F) (serial : Nat) :
    ModuleCommand → Action Fault (Rig φ F) ModuleAnswer
  | .adc k => .adc <$> onAdc fs serial fun _ d => d.perform k
  | .gpio k => .gpio <$> onGpio fs serial fun _ d => d.perform k
  | .pwm k => .pwm <$> onPwm fs serial fun _ d => d.perform k

/-- A command that a module carried out, with the answer. -/
structure Use where
  module : ModuleRef
  command : ModuleCommand
  answer : Except Fault ModuleAnswer

/-- The handle that is given out, with its key, if this is a request that succeeded. -/
def Use.issue? (u : Use) : Option (Handle × UInt32) :=
  match u.command.key?, u.answer with
  | some key, .ok a => a.granted?.map fun h => (h, key)
  | _, _ => none

/-- The handle that is taken back, if this is a release that succeeded. -/
def Use.return? (u : Use) : Option Handle :=
  match u.answer with
  | .ok _ => u.command.release?
  | .error _ => none

/-- What a command does to the counter and to the handles of its module: a request that succeeds
enters the next handle, a release that succeeds strikes its own, and all else leaves every handle under
its key. -/
inductive Use.Shifts (u : Use) (counter counter' : Nat) (keys keys' : Handle → Option UInt32) : Prop
  | issued (key : UInt32) (issue : u.issue? = some (⟨counter⟩, key)) (kept : u.return? = none)
    (drawn : counter' = counter + 1)
    (entered : ∀ h, keys' h = if h = ⟨counter⟩ then some key else keys h)
  | returned (h : Handle) (key : UInt32) (unissued : u.issue? = none) (back : u.return? = some h)
    (was : keys h = some key) (undrawn : counter' = counter)
    (struck : ∀ h', keys' h' = if h' = h then none else keys h')
  | still (unissued : u.issue? = none) (kept : u.return? = none) (undrawn : counter' = counter)
    (same : ∀ h, keys' h = keys h)

namespace Use

variable {u : Use}

theorem issue?_of_error {f : Fault} (failed : u.answer = .error f) : u.issue? = none := by
  unfold issue?
  rw [failed]
  cases u.command.key? <;> rfl

theorem return?_of_error {f : Fault} (failed : u.answer = .error f) : u.return? = none := by
  unfold return?
  rw [failed]

private theorem issue?_of_ok {a : ModuleAnswer} {key : UInt32} {h : Handle} (ok : u.answer = .ok a)
    (asked : u.command.key? = some key) (given : a.granted? = some h) :
    u.issue? = some (h, key) := by
  unfold issue?
  rw [ok, asked]
  simp only [given, Option.map_some]

private theorem issue?_of_unasked (unasked : u.command.key? = none) : u.issue? = none := by
  unfold issue?
  rw [unasked]

private theorem return?_of_ok {a : ModuleAnswer} (ok : u.answer = .ok a) :
    u.return? = u.command.release? := by
  unfold return?
  rw [ok]

private theorem return?_of_kept (kept : u.command.release? = none) : u.return? = none := by
  unfold return?
  rw [kept]
  cases u.answer <;> rfl

end Use

/-! ### Managers of all kinds -/

namespace Manager

variable {W : Type}

def lift : (m : Manager W) → m.Command → ModuleCommand
  | .adc _ => .adc
  | .gpio _ => .gpio
  | .pwm _ => .pwm

def liftAnswer : (m : Manager W) → m.Answer → ModuleAnswer
  | .adc _ => .adc
  | .gpio _ => .gpio
  | .pwm _ => .pwm

def Aloof : Manager W → Prop
  | .adc d => d.Aloof
  | .gpio d => d.Aloof
  | .pwm d => d.Aloof

variable {m : Manager W}

theorem Aloof.device (aloof : m.Aloof) : m.device.Aloof := by
  cases m with
  | adc d => exact Adc.Driver.Aloof.device aloof
  | gpio d => exact Gpio.Driver.Aloof.device aloof
  | pwm d => exact Pwm.Driver.Aloof.device aloof

theorem Aloof.errand (aloof : m.Aloof) (k : m.Command) : (m.errand k).Aloof := by
  cases m with
  | adc d => exact Adc.Driver.Aloof.errand aloof k
  | gpio d => exact Gpio.Driver.Aloof.errand aloof k
  | pwm d => exact Pwm.Driver.Aloof.errand aloof k

theorem handle?_lift (k : m.Command) : (m.lift k).handle? = (m.errand k).handle? := by
  rw [m.handle?_errand]
  cases m <;> rfl

private theorem key?_lift (k : m.Command) : (m.lift k).key? = (m.errand k).key? m.device := by
  cases m with
  | adc d | gpio d | pwm d => cases k <;> rfl

private theorem release?_lift (k : m.Command) : (m.lift k).release? = (m.errand k).release? := by
  cases m with
  | adc d | gpio d | pwm d => cases k <;> rfl

private theorem granted?_liftAnswer (h : Handle) : (m.liftAnswer (m.granted h)).granted? = some h := by
  cases m <;> rfl

/-- What a request is to its manager. -/
theorem errand_of_key? {k : m.Command} {key : UInt32} (asked : (m.lift k).key? = some key) :
    ∃ check s, m.errand k = .request check s ∧ m.device.trade.key s = key ∧
      m.device.taken s = .alreadyRequested (m.lift k).kind.name key.toNat ∧
      (check = .ok () ∧ (m.lift k).Legal ∨
        (∃ message, check = .error (.invalidArgument message)) ∧ ¬ (m.lift k).Legal) := by
  cases m with
  | adc d =>
    cases k with
    | request c =>
      obtain rfl := Option.some.inj asked
      exact ⟨_, _, rfl, rfl, rfl, .inl ⟨rfl, trivial⟩⟩
    | value h | release h | config h => cases asked
  | gpio d =>
    cases k with
    | request c =>
      obtain rfl := Option.some.inj asked
      exact ⟨_, _, rfl, rfl, rfl, .inl ⟨rfl, trivial⟩⟩
    | release h | level h | drive h b | name h | direction h | line h => cases asked
  | pwm d =>
    cases k with
    | request c =>
      obtain rfl := Option.some.inj asked
      refine ⟨_, _, rfl, rfl, rfl, ?_⟩
      by_cases long : c.period < c.duty
      · refine .inr ⟨⟨_, if_pos long⟩, ?_⟩
        exact UInt32.not_le.mpr long
      · exact .inl ⟨if_neg long, UInt32.not_lt.mp long⟩
    | release h | enable h | disable h | setPeriod h n | setDuty h n | setPolarity h p | config h
      | isEnabled h => cases asked

theorem perform_shifts (m : Manager W) (ref : ModuleRef) (k : m.Command)
    (d : Desk W m.Settings m.Channel) :
    Use.Shifts ⟨ref, m.lift k, (m.perform k d).answer.map m.liftAnswer⟩ d.counter
      (m.perform k d).state.counter d.leases.keyOf? (m.perform k d).state.leases.keyOf? := by
  cases (m.course k d).shift with
  | issued key request asked ok counter keys =>
    rw [ok]
    refine .issued key (Use.issue?_of_ok rfl ?_ (granted?_liftAnswer _)) ?_ counter keys
    · exact (key?_lift k).trans asked
    · refine Use.return?_of_kept ((release?_lift k).trans ?_)
      rw [Option.eq_none_iff_forall_ne_some]
      intro h released
      rw [Errand.release?_eq_some_iff.mp released] at asked
      cases asked
  | returned h release ok was counter keys =>
    obtain ⟨key, live⟩ := was
    rw [ok]
    refine .returned h key (Use.issue?_of_unasked ?_) ?_ live counter keys
    · rw [key?_lift, release]
      rfl
    · refine (Use.return?_of_ok rfl).trans ((release?_lift k).trans ?_)
      exact Errand.release?_eq_some_iff.mpr release
  | still request release counter keys =>
    refine .still ?_ ?_ counter keys
    · cases asked : (m.lift k).key? with
      | none => exact Use.issue?_of_unasked asked
      | some key =>
        obtain ⟨f, failed⟩ := request (Errand.handle?_of_key? ((key?_lift k).symm.trans asked))
        rw [failed]
        exact Use.issue?_of_error rfl
    · cases released : (m.lift k).release? with
      | none => exact Use.return?_of_kept released
      | some h =>
        have gives := (release?_lift k).symm.trans released
        obtain ⟨f, failed⟩ := release h (Errand.release?_eq_some_iff.mp gives)
        rw [failed]
        exact Use.return?_of_error rfl

end Manager

end Peripherals
