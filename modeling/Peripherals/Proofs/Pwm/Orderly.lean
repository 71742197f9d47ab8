import Peripherals.Proofs.Pwm.Attributes
/-!
Traces in which the attributes of a channel are written in order: no pulse is longer than its period
from the time it is first cut to nothing, and the polarity is changed at rest. Main statements: writes
that are made in time keep a trace in order, and so does setting a channel up, wherever it fails.
-/

set_option autoImplicit false

namespace Peripherals.Pwm.Sysfs

open Peripherals.Action (Leads)

variable {φ F C α β : Type}

section

variable (s : Sysfs) (pin : UInt32) (content : φ → Part → List UInt8)

/-- The pulse was cut to nothing. -/
def Zeroed (trace : Trace φ) : Prop :=
  trace.Wrote (s.partPath pin .duty) (Text.bytesOf (Text.number 0))

/-- The period that was last written, and zero before there was any. -/
def lastPeriod (trace : Trace φ) : List UInt8 :=
  (trace.last? (s.partPath pin .period)).getD (Text.bytesOf (Text.number 0))

/-- The pulse is a number, and no larger than the period that was last written. -/
def Within (trace : Trace φ) (t : φ) : Prop :=
  ∃ duty period : Nat, content t .duty = Text.bytesOf (Text.number duty) ∧ duty ≤ period ∧
    s.lastPeriod pin trace = Text.bytesOf (Text.number period)

/-- The channel reads as switched off. -/
def Still (t : φ) : Prop :=
  Spells (content t .enable) "0"

/-- The attributes were written in order. -/
structure Orderly (q : φ × Trace φ) : Prop where
  /-- From the time the pulse was cut to nothing it is within the period, before and after every
  write. -/
  within : ∀ past w rest, q.2 = past ++ w :: rest →
    (s.Zeroed pin past → s.Within pin content past w.before) ∧
      (s.Zeroed pin (past ++ [w]) → s.Within pin content (past ++ [w]) w.after)
  now : s.Zeroed pin q.2 → s.Within pin content q.2 q.1
  period : ∃ period : Nat, s.lastPeriod pin q.2 = Text.bytesOf (Text.number period)
  /-- The polarity is only ever written at rest. -/
  polarity : ∀ w ∈ q.2, w.path = s.partPath pin .polarity → Still content w.before

/-- Neither the attributes nor the trace changed. -/
def Untouched (q q' : φ × Trace φ) : Prop :=
  content q'.1 = content q.1 ∧ q'.2 = q.2

/-- Between the two states nothing happened to the channel. -/
structure Idle (q q' : φ × Trace φ) : Prop where
  content_eq : content q'.1 = content q.1
  period_eq : s.lastPeriod pin q'.2 = s.lastPeriod pin q.2
  orderly : s.Orderly pin content q → s.Orderly pin content q'

/-- The action does nothing to the channel. -/
def Idles {ε : Type} (x : Action ε (φ × Trace φ) α) : Prop :=
  ∀ q, s.Idle pin content q (x q).state

end

variable {s : Sysfs} {pin : UInt32} {content : φ → Part → List UInt8}

/-! ### One write -/

variable {trace : Trace φ} {path : Path} {bytes : List UInt8} {fault? : Option IoError} {t t' : φ}

private theorem lastPeriod_concat : s.lastPeriod pin (trace ++ [⟨path, bytes, fault?, t, t'⟩]) =
    if path = s.partPath pin .period ∧ fault? = none then bytes else s.lastPeriod pin trace := by
  rw [lastPeriod, Trace.last?_concat]
  split
  · exact Option.getD_some
  · rfl

private theorem lastPeriod_own {part : Part} :
    s.lastPeriod pin (trace ++ [⟨s.partPath pin part, bytes, none, t, t'⟩]) =
      if part = .period then bytes else s.lastPeriod pin trace := by
  have own : s.partPath pin part = s.partPath pin .period ∧ (none : Option IoError) = none ↔
      part = .period := by
    constructor
    · intro at_period
      exact (s.partPath_injective at_period.1).2
    · intro period
      exact ⟨congrArg (s.partPath pin) period, rfl⟩
  rw [lastPeriod_concat]
  exact if_congr own rfl rfl

theorem Orderly.nil (t : φ) : s.Orderly pin content (t, []) where
  within past w rest split := by simp at split
  now zeroed := by
    obtain ⟨w, member, _⟩ := zeroed
    cases member
  period := ⟨0, rfl⟩
  polarity w member := nomatch member

private theorem Orderly.concat (orderly : s.Orderly pin content (t, trace))
    (within : s.Zeroed pin (trace ++ [⟨path, bytes, fault?, t, t'⟩]) →
      s.Within pin content (trace ++ [⟨path, bytes, fault?, t, t'⟩]) t')
    (period : ∃ period : Nat, s.lastPeriod pin (trace ++ [⟨path, bytes, fault?, t, t'⟩]) =
      Text.bytesOf (Text.number period))
    (still : path = s.partPath pin .polarity → Still content t) :
    s.Orderly pin content (t', trace ++ [⟨path, bytes, fault?, t, t'⟩]) where
  within past w' rest split := by
    rcases List.eq_nil_or_concat rest with rfl | ⟨rest', last, rfl⟩
    · obtain ⟨rfl, same⟩ := List.append_inj' split rfl
      obtain rfl := (List.cons.inj same).1
      exact ⟨orderly.now, within⟩
    · rw [List.concat_eq_append, ← List.cons_append, ← List.append_assoc] at split
      exact orderly.within past w' rest' (List.append_inj' split rfl).1
  now := within
  period := period
  polarity w' member at_polarity := by
    rcases List.mem_append.mp member with old | new
    · exact orderly.polarity w' old at_polarity
    · obtain rfl := List.mem_singleton.mp new
      exact still at_polarity

theorem Idle.write (same : content t' = content t)
    (undone : ∀ part, path = s.partPath pin part → fault? ≠ none)
    (still : path = s.partPath pin .polarity → Still content t) :
    s.Idle pin content (t, trace) (t', trace ++ [⟨path, bytes, fault?, t, t'⟩]) := by
  have period : s.lastPeriod pin (trace ++ [⟨path, bytes, fault?, t, t'⟩]) =
      s.lastPeriod pin trace := by
    rw [lastPeriod_concat, if_neg]
    rintro ⟨at_period, done⟩
    exact undone .period at_period done
  have within (orderly : s.Orderly pin content (t, trace))
      (zeroed : s.Zeroed pin (trace ++ [⟨path, bytes, fault?, t, t'⟩])) :
      s.Within pin content (trace ++ [⟨path, bytes, fault?, t, t'⟩]) t' := by
    rcases Trace.wrote_concat.mp zeroed with before | ⟨at_duty, _, done⟩
    · obtain ⟨n, m, duty, fits, last⟩ := orderly.now before
      refine ⟨n, m, ?_, fits, period.trans last⟩
      rw [same]
      exact duty
    · exact absurd done (undone .duty at_duty)
  refine ⟨same, period, fun orderly => orderly.concat (within orderly) ?_ still⟩
  rw [period]
  exact orderly.period

/-! ### Writes to the channel -/

/-- The value may be written to this attribute now. -/
def Timely (s : Sysfs) (pin : UInt32) (content : φ → Part → List UInt8) (q : φ × Trace φ)
    (value : String) : Part → Prop
  | .enable => True
  | .period => ∃ period : Nat, value = Text.number period ∧ (s.Zeroed pin q.2 →
      ∃ duty : Nat, content q.1 .duty = Text.bytesOf (Text.number duty) ∧ duty ≤ period)
  | .duty => ∃ duty period : Nat, value = Text.number duty ∧ duty ≤ period ∧
      s.lastPeriod pin q.2 = Text.bytesOf (Text.number period)
  | .polarity => Still content q.1

/-- What a write to an attribute leaves: all is in order, and the value is stored or nothing is. -/
structure Stored (s : Sysfs) (pin : UInt32) (content : φ → Part → List UInt8) (part : Part)
    (value : String) (q q' : φ × Trace φ) : Prop where
  orderly : s.Orderly pin content q'
  content_eq : ∀ other, content q'.1 other =
    if other = part then Text.bytesOf value else content q.1 other
  period_eq : s.lastPeriod pin q'.2 =
    if part = .period then Text.bytesOf value else s.lastPeriod pin q.2

namespace Stored

variable {part : Part} {value : String} {q q' : φ × Trace φ}

theorem here (stored : Stored s pin content part value q q') :
    content q'.1 part = Text.bytesOf value :=
  (stored.content_eq part).trans (if_pos rfl)

theorem other (stored : Stored s pin content part value q q') {other : Part} (differs : other ≠ part) :
    content q'.1 other = content q.1 other :=
  (stored.content_eq other).trans (if_neg differs)

theorem last (stored : Stored s pin content part value q q') (differs : part ≠ .period) :
    s.lastPeriod pin q'.2 = s.lastPeriod pin q.2 :=
  stored.period_eq.trans (if_neg differs)

theorem spells (stored : Stored s pin content part value q q') {other : Part}
    (differs : other ≠ part) {text : String} (spells : Spells (content q.1 other) text) :
    Spells (content q'.1 other) text := by
  rw [stored.other differs]
  exact spells

end Stored

theorem Timely.still {q : φ × Trace φ} {part : Part} {value : String}
    (timely : Timely s pin content q value part)
    (at_polarity : s.partPath pin part = s.partPath pin .polarity) : Still content q.1 := by
  obtain rfl := (s.partPath_injective at_polarity).2
  exact timely

/-- A write that is made in time and stores its value. -/
theorem Orderly.store {part : Part} {value : String} (orderly : s.Orderly pin content (t, trace))
    (timely : Timely s pin content (t, trace) value part)
    (stored : ∀ other, content t' other =
      if other = part then Text.bytesOf value else content t other) :
    Stored s pin content part value (t, trace)
      (t', trace ++ [⟨s.partPath pin part, Text.bytesOf value, none, t, t'⟩]) := by
  have still : s.partPath pin part = s.partPath pin .polarity → Still content t := timely.still
  have period_eq : s.lastPeriod pin (trace ++ [⟨s.partPath pin part, Text.bytesOf value, none, t, t'⟩]) =
      if part = .period then Text.bytesOf value else s.lastPeriod pin trace :=
    lastPeriod_own
  have period : ∃ period : Nat, s.lastPeriod pin (trace ++ [⟨s.partPath pin part, Text.bytesOf value,
      none, t, t'⟩]) = Text.bytesOf (Text.number period) := by
    rw [period_eq]
    split
    · next at_period =>
      subst at_period
      obtain ⟨m, rfl, _⟩ := timely
      exact ⟨m, rfl⟩
    · exact orderly.period
  refine ⟨orderly.concat (fun zeroed => ?_) period still, stored, period_eq⟩
  have before (other : part ≠ .duty) : s.Zeroed pin trace := by
    rcases Trace.wrote_concat.mp zeroed with before | ⟨at_duty, _⟩
    · exact before
    · exact absurd (s.partPath_injective at_duty).2 other
  rw [Within, period_eq, stored]
  cases part with
  | duty =>
    obtain ⟨n, m, rfl, fits, last⟩ := timely
    exact ⟨n, m, if_pos rfl, fits, (if_neg (by decide)).trans last⟩
  | period =>
    obtain ⟨m, rfl, longer⟩ := timely
    obtain ⟨n, duty, fits⟩ := longer (before (by decide))
    exact ⟨n, m, (if_neg (by decide)).trans duty, fits, if_pos rfl⟩
  | enable | polarity =>
    obtain ⟨n, m, duty, fits, last⟩ := orderly.now (before (by decide))
    exact ⟨n, m, (if_neg (by decide)).trans duty, fits, (if_neg (by decide)).trans last⟩

/-! ### Nothing happens to a channel -/

namespace Idle

theorem refl (q : φ × Trace φ) : s.Idle pin content q q :=
  ⟨rfl, rfl, id⟩

private theorem trans {q q' q'' : φ × Trace φ} (h : s.Idle pin content q q')
    (h' : s.Idle pin content q' q'') : s.Idle pin content q q'' :=
  ⟨h'.content_eq.trans h.content_eq, h'.period_eq.trans h.period_eq,
    fun orderly => h'.orderly (h.orderly orderly)⟩

end Idle

namespace Idles

variable {ε : Type}

theorem of_still {x : Action ε (φ × Trace φ) α}
    (still : ∀ q, Untouched content q (x q).state) : s.Idles pin content x := by
  intro q
  obtain ⟨same, trace⟩ := still q
  refine ⟨same, by rw [trace], fun orderly => ?_⟩
  obtain ⟨within, now, period, polarity⟩ := orderly
  rw [← trace] at within now period polarity
  refine ⟨within, fun zeroed => ?_, period, polarity⟩
  obtain ⟨n, m, duty, fits, last⟩ := now zeroed
  exact ⟨n, m, by rw [same]; exact duty, fits, last⟩

theorem leads {x : Action ε (φ × Trace φ) α} (h : s.Idles pin content x) {P : φ × Trace φ → Prop}
    (closed : ∀ q q', s.Idle pin content q q' → P q → P q') : Leads P x (fun _ => P) P :=
  .of_keeps fun q holds => closed _ _ (h q) holds

theorem of_leads {x : Action ε (φ × Trace φ) α}
    (h : ∀ start, Leads (s.Idle pin content start) x (fun _ => s.Idle pin content start)
      (s.Idle pin content start)) : s.Idles pin content x :=
  fun q => (h q).keeps (.refl q)

/-- What can be done to the channel with nothing done to it. -/
theorem idle {x : Action ε (φ × Trace φ) α} (h : s.Idles pin content x) (start : φ × Trace φ) :
    Leads (s.Idle pin content start) x (fun _ => s.Idle pin content start)
      (s.Idle pin content start) :=
  h.leads fun _ _ step before => before.trans step

theorem bind {x : Action ε (φ × Trace φ) α} {f : α → Action ε (φ × Trace φ) β}
    (hx : s.Idles pin content x) (hf : ∀ a, s.Idles pin content (f a)) :
    s.Idles pin content (x >>= f) :=
  of_leads fun start => (hx.idle start).bind fun a => (hf a).idle start

end Idles

end Peripherals.Pwm.Sysfs
