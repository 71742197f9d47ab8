import Peripherals.Adc.Simulated
import Peripherals.Proofs.Desk.Outside
import Peripherals.Proofs.HandleTable.Runs
/-!
Banks of simulated inputs with a desk as their only user, while someone else sets values and arms
faults. Main statements: after every run the open channels are those of the leased pins, an armed close
fault stops one release only, and the end of the desk leaves at most one channel open.
-/

set_option autoImplicit false

namespace Peripherals.Adc

namespace Bank

/-- The two faults of a bank. -/
inductive Weakness where
  | read
  | close
  deriving DecidableEq

/-- A change of a bank from outside. -/
inductive Touch where
  | preset (pin : UInt32) (value : Int32)
  | arm (w : Weakness)
  deriving DecidableEq

def Touch.change : Touch → Bank → Bank
  | .preset pin value => (·.preset pin value)
  | .arm .read => armRead
  | .arm .close => armClose

namespace Weakness

def waits : Weakness → Bank → Bool
  | .read => failRead
  | .close => failClose

end Weakness

variable (channels : UInt32)

def happen : Occurrence Command Touch → Action Fault (Desk Bank Config UInt32) (Option Answer) :=
  Occurrence.perform (driver channels).perform Touch.change

/-! ### Calls to a bank -/

theorem claim_apply (c : Config) (b : Bank) : (driver channels).claim c b =
    if channels ≤ c.pin then ⟨.error (.deviceNotFound (path c.pin)), [], b⟩
    else ⟨.ok c.pin, [], b.insertOpen c.pin⟩ := by
  by_cases outside : channels ≤ c.pin
  · simp only [driver, outside, if_true, Action.bind_apply, Action.fail_apply]
  · simp only [driver, outside, if_false, Action.bind_apply]
    rfl

theorem read_apply (b : Bank) (pin : UInt32) : (driver channels).read (b, pin) =
    if b.failRead then ⟨.error (.shortRead (path pin)), [], ({ b with failRead := false }, pin)⟩
    else ⟨.ok (b.values.getD pin 0), [], (b, pin)⟩ := by
  simp only [driver, Action.bind_apply, Action.get_apply]
  cases b.failRead <;> rfl

/-- The fault that a close has if one is armed. -/
def injected (pin : UInt32) : Fault :=
  .ofIo (path pin) (.described .other "injected close failure")

theorem close_apply (b : Bank) (pin : UInt32) : (driver channels).close (b, pin) =
    if b.failClose then ⟨.error (injected pin), [], ({ b with failClose := false }, pin)⟩
    else ⟨.ok (), [], (b.eraseOpen pin, pin)⟩ := by
  simp only [driver, Action.bind_apply, Action.get_apply]
  cases b.failClose <;> rfl

theorem mem_insertOpen (b : Bank) (pin other : UInt32) :
    other ∈ (b.insertOpen pin).opened ↔ other = pin ∨ other ∈ b.opened := by
  unfold insertOpen
  split
  · next known =>
    constructor
    · exact .inr
    · rintro (rfl | old)
      · exact known
      · exact old
  · exact List.mem_cons

private theorem nodup_insertOpen {b : Bank} (nodup : b.opened.Nodup) (pin : UInt32) :
    (b.insertOpen pin).opened.Nodup := by
  unfold insertOpen
  split
  · exact nodup
  · next fresh => exact List.nodup_cons.mpr ⟨fresh, nodup⟩

theorem mem_eraseOpen (b : Bank) (pin other : UInt32) :
    other ∈ (b.eraseOpen pin).opened ↔ other ∈ b.opened ∧ other ≠ pin := by
  simp [eraseOpen]

/-! ### Open channels and leases -/

/-- The channels that are open are those of the leased pins. -/
def Lent : KeyProperty Bank Config UInt32 := fun pin b l =>
  b.opened.Nodup ∧ (pin ∈ b.opened ↔ l.isSome = true) ∧ ∀ lease, l = some lease → lease.channel = pin

private theorem Lent.of_same {pin : UInt32} {b b' : Bank} {l : Option (Lease Config UInt32)}
    (lent : Lent pin b l) (same : b'.opened = b.opened) : Lent pin b' l := by
  unfold Lent
  rw [same]
  exact lent

private theorem windUp_apply (b : Bank) (lease : Lease Config UInt32) :
    ((driver channels).device.windUp (b, lease)).answer =
        ((driver channels).close (b, lease.channel)).answer ∧
      ((driver channels).device.windUp (b, lease)).state =
        (((driver channels).close (b, lease.channel)).state.1,
          { lease with channel := ((driver channels).close (b, lease.channel)).state.2 }) :=
  ((driver channels).device.windUp_apply (b, lease)).2 rfl

private theorem tends : (driver channels).device.Tends Lent fun _ => True where
  claim_others c b _ _ pin l differs lent := by
    change Lent pin ((driver channels).claim c b).state l
    rw [claim_apply]
    split
    · exact lent
    · obtain ⟨nodup, iff, at_pin⟩ := lent
      refine ⟨nodup_insertOpen nodup _, ?_, at_pin⟩
      exact (mem_insertOpen b c.pin pin).trans ((or_iff_right differs).trans iff)
  claim_error c b f _ lent failed := by
    change ((driver channels).claim c b).answer = _ at failed
    change Lent c.pin ((driver channels).claim c b).state none
    rw [claim_apply] at failed ⊢
    split at failed
    · next outside =>
      rw [if_pos outside]
      exact lent
    · cases failed
  claim_ok c b pin _ lent claimed := by
    change ((driver channels).claim c b).answer = _ at claimed
    change Lent c.pin ((driver channels).claim c b).state _
    rw [claim_apply] at claimed ⊢
    split at claimed
    · cases claimed
    · next inside =>
      rw [if_neg inside]
      obtain rfl := Except.ok.inj claimed
      refine ⟨nodup_insertOpen lent.1 _, ?_, fun lease same => ?_⟩
      · rw [mem_insertOpen]
        simp
      · rw [← Option.some.inj same]
  windUp_others pin p lent other l differs was := by
    obtain ⟨b, lease⟩ := p
    have at_pin : lease.channel = pin := lent.2.2 lease rfl
    rw [(windUp_apply channels b lease).2, close_apply]
    split
    · exact was.of_same rfl
    · obtain ⟨nodup, iff, at_other⟩ := was
      refine ⟨nodup.filter _, ?_, at_other⟩
      rw [mem_eraseOpen, at_pin, and_iff_left differs]
      exact iff
  windUp_error pin p f lent failed := by
    obtain ⟨b, lease⟩ := p
    obtain ⟨answer, state⟩ := windUp_apply channels b lease
    rw [answer, close_apply] at failed
    rw [state, close_apply]
    split at failed
    · next armed =>
      rw [if_pos armed]
      exact lent.of_same rfl
    · cases failed
  windUp_ok pin p lent closed := by
    obtain ⟨b, lease⟩ := p
    have at_pin : lease.channel = pin := lent.2.2 lease rfl
    obtain ⟨answer, state⟩ := windUp_apply channels b lease
    rw [answer, close_apply] at closed
    rw [state, close_apply]
    split at closed
    · cases closed
    · next unarmed =>
      rw [if_neg unarmed]
      refine ⟨lent.1.filter _, ?_, fun _ none => nomatch none⟩
      rw [mem_eraseOpen, at_pin]
      simp

private theorem keeps_read : Keeps Lent (fun _ => True)
    (Answer.sample <$> Action.zoom Lease.channelLens (driver channels).read) fun _ _ => True := by
  refine Keeps.map (Q := fun _ _ => True) ?_ _
  rintro pin ⟨b, lease⟩ lent _
  have still (other : UInt32) (l : Option (Lease Config UInt32)) (was : Lent other b l) :
      Lent other ((driver channels).read (b, lease.channel)).state.1 l := by
    rw [read_apply]
    split
    · exact was.of_same rfl
    · exact was
  have channel : ((driver channels).read (b, lease.channel)).state.2 = lease.channel := by
    rw [read_apply]
    split <;> rfl
  refine ⟨?_, fun other l _ was => still other l was, fun _ _ => trivial⟩
  change Lent pin ((driver channels).read (b, lease.channel)).state.1
    (some { lease with channel := ((driver channels).read (b, lease.channel)).state.2 })
  rw [channel]
  exact still pin (some lease) lent

theorem tended (counter : Nat) (os : List (Occurrence Command Touch)) :
    (Action.runAll (happen channels) os (Desk.vacant {} counter)).Tended Lent := by
  refine Occurrence.tended_run (fun k d t => ?_) (fun e pin b l lent => ?_) (fun pin => ?_) counter os
  · have course := ((driver channels).errand k).course (driver channels).device .granted .done d
    rw [← (driver channels).perform_eq k] at course
    refine Desk.Tended.step course (tends channels) (fun _ _ => trivial) (fun h work use => ?_) t
    cases k with
    | value h =>
      cases use
      exact keeps_read channels
    | request c | release h | config h => cases use
  · cases e with
    | preset pin value => exact lent.of_same rfl
    | arm w => cases w <;> exact lent.of_same rfl
  · exact ⟨List.nodup_nil, by simp, fun _ none => nomatch none⟩

theorem openCount_eq {d : Desk Bank Config UInt32} (t : d.Tended Lent) :
    d.device.openCount = d.activeCount := by
  have nodup : d.device.opened.Nodup := (t.holds 0).1
  have same : d.device.opened.Perm d.leases.index.keys := by
    refine (List.perm_ext_iff_of_nodup nodup t.sound.index_nodup).mpr fun pin => ?_
    rw [(t.holds pin).2.1, HandleTable.Sound.mem_index_keys_iff, Option.isSome_iff_ne_none, ne_eq,
      t.sound.on?_eq_none_iff, Bool.not_eq_false]
  exact same.length_eq.trans t.sound.length_index_keys

/-! ### Closing twice -/

private theorem happen_command (k : Command) (d : Desk Bank Config UInt32) :
    (happen channels (.command k) d).answer = ((driver channels).perform k d).answer.map some ∧
      (happen channels (.command k) d).state = ((driver channels).perform k d).state :=
  Occurrence.perform_command k d

private theorem happen_course (k : Command) (d : Desk Bank Config UInt32) :
    Course (driver channels).device .granted .done d ((driver channels).errand k)
      ((driver channels).perform k d).answer (happen channels (.command k) d).state := by
  rw [(happen_command channels k d).2, (driver channels).perform_eq]
  exact ((driver channels).errand k).course (driver channels).device .granted .done d

private theorem release_apply {d : Desk Bank Config UInt32} {h : Handle}
    {p : UInt32 × Lease Config UInt32}
    (live : d.leases.slots.get? h = some p) :
    ((happen channels (.command (.release h)) d).answer = .ok (some .done) ↔
        d.device.failClose = false) ∧
      (happen channels (.command (.release h)) d).state.device.failClose = false ∧
      (d.device.failClose = true →
        ∃ p, (happen channels (.command (.release h)) d).state.leases.slots.get? h = some p) := by
  obtain ⟨pin, lease⟩ := p
  have course := happen_course channels (.release h) d
  obtain ⟨closing, left⟩ := windUp_apply channels d.device lease
  rw [(happen_command channels (.release h) d).1]
  generalize ((driver channels).perform (.release h) d).answer = reply at course ⊢
  generalize (happen channels (.command (.release h)) d).state = after at course ⊢
  rcases course.of_release live with ⟨f, failed, rfl, rfl⟩ | ⟨closed, rfl, rfl⟩
  · rw [failed, close_apply] at closing
    simp only [Desk.after, left, close_apply]
    cases armed : d.device.failClose with
    | false => simp [armed] at closing
    | true =>
      exact ⟨by simp [Except.map], rfl,
        fun _ => ⟨(pin, _), (HandleTable.slots_set live _ h).trans (if_pos rfl)⟩⟩
  · rw [closed, close_apply] at closing
    simp only [Desk.strike, Desk.after, left, close_apply]
    cases armed : d.device.failClose with
    | true => simp [armed] at closing
    | false => exact ⟨by simp [Except.map], armed, fun armed' => absurd armed' Bool.false_ne_true⟩

/-- No command arms a fault. -/
private theorem stays_unarmed (o : Occurrence Command Touch) (other : o ≠ .outside (.arm .close))
    {d : Desk Bank Config UInt32} (unarmed : d.device.failClose = false) :
    (happen channels o d).state.device.failClose = false := by
  cases o with
  | outside e =>
    cases e with
    | preset pin value => exact unarmed
    | arm w =>
      cases w with
      | read => exact unarmed
      | close => exact absurd rfl other
  | command k =>
    refine (happen_course channels k d).device_related (R := fun b b' => b.failClose = false → b'.failClose = false)
      (fun _ still => still) (fun c b still => ?_) (fun h work use p still => ?_) (fun p still => ?_)
      unarmed
    · change ((driver channels).claim c b).state.failClose = false
      rw [claim_apply]
      split
      · exact still
      · unfold insertOpen
        split <;> exact still
    · cases k with
      | value h =>
        cases use
        rw [Action.map_apply]
        change ((driver channels).read (p.1, p.2.channel)).state.1.failClose = false
        rw [read_apply]
        split <;> exact still
      | request c | release h | config h => cases use
    · rw [(windUp_apply channels p.1 p.2).2, close_apply]
      split
      · rfl
      · exact still

private theorem stays_live (o : Occurrence Command Touch) {h : Handle}
    (other : o ≠ .command (.release h))
    {d : Desk Bank Config UInt32} (live : ∃ p, d.leases.slots.get? h = some p) :
    ∃ p, (happen channels o d).state.leases.slots.get? h = some p := by
  cases o with
  | outside e => exact live
  | command k =>
    refine (happen_course channels k d).stays_live (fun same => other ?_) live
    cases k with
    | release h' => exact congrArg (fun h => Occurrence.command (Command.release h)) (Errand.release.inj same)
    | request c | value h' | config h' => cases same

/-- The handle has a lease, and no fault is in the way of its release. -/
def Releasable (h : Handle) (d : Desk Bank Config UInt32) : Prop :=
  d.device.failClose = false ∧ ∃ p, d.leases.slots.get? h = some p

theorem one_of_two_releases {d : Desk Bank Config UInt32} {h : Handle}
    {p : UInt32 × Lease Config UInt32} (live : d.leases.slots.get? h = some p)
    (between : List (Occurrence Command Touch)) (unarmed : .outside (.arm .close) ∉ between)
    (consecutive : .command (.release h) ∉ between) :
    let first := happen channels (.command (.release h)) d
    let second := happen channels (.command (.release h))
      (Action.runAll (happen channels) between first.state)
    first.answer = .ok (some .done) ∨ second.answer = .ok (some .done) := by
  intro first second
  obtain ⟨succeeds, disarmed, stays⟩ := release_apply channels live
  cases armed : d.device.failClose with
  | false => exact .inl (succeeds.mpr armed)
  | true =>
    have still : Releasable h (Action.runAll (happen channels) between first.state) :=
      Action.runAll_keeps between (I := Releasable h) (fun o member d kept =>
        ⟨stays_unarmed channels o (fun same => unarmed (same ▸ member)) kept.1,
          stays_live channels o (fun same => consecutive (same ▸ member)) kept.2⟩)
        ⟨disarmed, stays armed⟩
    obtain ⟨disarmed', p', live'⟩ := still
    exact .inr ((release_apply channels live').1.mpr disarmed')

/-! ### The end of the desk -/

private theorem dismiss_apply (h : Handle) (pin : UInt32) (b : Bank) (lease : Lease Config UInt32) :
    ((driver channels).device.dismiss h pin (b, lease)).state.1 =
      if b.failClose then { b with failClose := false } else b.eraseOpen lease.channel := by
  rw [(driver channels).device.dismiss_state]
  change ((driver channels).close (b, lease.channel)).state.1 = _
  rw [close_apply]
  split <;> rfl

private theorem dismissAll_unarmed (order : List (Handle × UInt32 × Lease Config UInt32)) {b : Bank}
    (unarmed : b.failClose = false) (pin : UInt32) :
    pin ∈ ((driver channels).device.dismissAll order b).state.opened ↔
      pin ∈ b.opened ∧ pin ∉ order.map fun e => e.2.2.channel := by
  induction order generalizing b with
  | nil => simp [Device.dismissAll]
  | cons e rest ih =>
    obtain ⟨h, key, lease⟩ := e
    rw [Device.dismissAll_cons, dismiss_apply, unarmed]
    change pin ∈ ((driver channels).device.dismissAll rest (b.eraseOpen lease.channel)).state.opened ↔ _
    rw [ih (b := b.eraseOpen lease.channel) unarmed, mem_eraseOpen, List.map_cons, List.mem_cons,
      not_or, and_assoc]

private theorem dismissAll_armed (e : Handle × UInt32 × Lease Config UInt32)
    (rest : List (Handle × UInt32 × Lease Config UInt32)) {b : Bank} (armed : b.failClose = true)
    (pin : UInt32) :
    pin ∈ ((driver channels).device.dismissAll (e :: rest) b).state.opened ↔
      pin ∈ b.opened ∧ pin ∉ rest.map fun e => e.2.2.channel := by
  obtain ⟨h, key, lease⟩ := e
  rw [Device.dismissAll_cons, dismiss_apply, armed]
  exact dismissAll_unarmed channels rest (b := { b with failClose := false }) rfl pin

private theorem nodup_dismissAll (order : List (Handle × UInt32 × Lease Config UInt32)) {b : Bank}
    (nodup : b.opened.Nodup) :
    ((driver channels).device.dismissAll order b).state.opened.Nodup := by
  induction order generalizing b with
  | nil => exact nodup
  | cons e rest ih =>
    obtain ⟨h, key, lease⟩ := e
    rw [Device.dismissAll_cons, dismiss_apply]
    refine ih ?_
    split
    · exact nodup
    · exact nodup.filter _

section

variable {d : Desk Bank Config UInt32} {order : List (Handle × UInt32 × Lease Config UInt32)}

private theorem channels_of_order (t : d.Tended Lent) (perm : order.Perm d.leases.entries) :
    (order.map fun e => e.2.2.channel) = order.map fun e => e.2.1 := by
  refine List.map_congr_left fun e member => ?_
  exact (t.live (t.sound.slots_of_mem_entries (perm.mem_iff.mp member))).2.2 _ rfl

private theorem mem_opened_iff_mem_order (t : d.Tended Lent) (perm : order.Perm d.leases.entries)
    (pin : UInt32) : pin ∈ d.device.opened ↔ pin ∈ order.map fun e => e.2.1 := by
  rw [(t.holds pin).2.1, Option.isSome_iff_exists]
  constructor
  · rintro ⟨lease, on⟩
    obtain ⟨h, live⟩ := t.sound.on?_eq_some_iff.mp on
    exact List.mem_map.mpr ⟨(h, pin, lease), perm.mem_iff.mpr (t.sound.mem_entries_iff.mpr live), rfl⟩
  · intro member
    obtain ⟨e, entry, rfl⟩ := List.mem_map.mp member
    have slot := t.sound.slots_of_mem_entries (perm.mem_iff.mp entry)
    exact ⟨e.2.2, t.sound.on?_eq_some_iff.mpr ⟨e.1, slot⟩⟩

private theorem opened_of_unarmed_end (t : d.Tended Lent) (perm : order.Perm d.leases.entries)
    (calm : d.device.failClose = false) :
    ((driver channels).device.dismissAll order d.device).state.opened = [] := by
  refine List.eq_nil_iff_forall_not_mem.mpr fun pin member => ?_
  obtain ⟨was, not_closed⟩ := (dismissAll_unarmed channels order calm pin).mp member
  rw [channels_of_order t perm] at not_closed
  exact not_closed ((mem_opened_iff_mem_order t perm pin).mp was)

private theorem opened_of_armed_end (t : d.Tended Lent) {e : Handle × UInt32 × Lease Config UInt32}
    {rest : List (Handle × UInt32 × Lease Config UInt32)} (perm : (e :: rest).Perm d.leases.entries)
    (armed : d.device.failClose = true) :
    ((driver channels).device.dismissAll (e :: rest) d.device).state.opened = [e.2.1] := by
  have keys := (perm.map fun e => e.2.1).nodup_iff.mpr t.sound.nodup_entries_keys
  obtain ⟨fresh, _⟩ := List.nodup_cons.mp keys
  have nodup := nodup_dismissAll channels (e :: rest) (t.holds 0).1
  refine List.perm_singleton.mp
    ((List.perm_ext_iff_of_nodup nodup (List.nodup_singleton _)).mpr fun pin => ?_)
  rw [dismissAll_armed channels e rest armed, mem_opened_iff_mem_order t perm,
    (List.cons.inj (channels_of_order t perm)).2, List.mem_singleton, List.map_cons, List.mem_cons]
  constructor
  · rintro ⟨rfl | later, not_closed⟩
    · rfl
    · exact absurd later not_closed
  · rintro rfl
    exact ⟨.inl rfl, fresh⟩

/-- The end of the desk, in whatever order its leases are dismissed: all channels are closed, but for
one of a leased pin if a close fault was armed. -/
theorem opened_after_desk (t : d.Tended Lent) (perm : order.Perm d.leases.entries) :
    (d.device.failClose = false ∨ d.activeCount = 0 →
        ((driver channels).device.dismissAll order d.device).state.opened = []) ∧
      (d.device.failClose = true → 0 < d.activeCount → ∃ h pin, d.leases.keyOf? h = some pin ∧
        ((driver channels).device.dismissAll order d.device).state.opened = [pin]) := by
  have count : order.length = d.activeCount :=
    perm.length_eq.trans (HandleTable.Sound.length_entries d.leases)
  constructor
  · rintro (calm | none_left)
    · exact opened_of_unarmed_end channels t perm calm
    · obtain rfl := List.length_eq_zero_iff.mp (count.trans none_left)
      refine List.eq_nil_iff_forall_not_mem.mpr fun pin member => ?_
      simpa using (mem_opened_iff_mem_order t perm pin).mp member
  · intro armed some_left
    cases order with
    | nil => exact absurd some_left (by rw [← count]; exact Nat.lt_irrefl 0)
    | cons e rest =>
      have slot := t.sound.slots_of_mem_entries (perm.mem_iff.mp List.mem_cons_self)
      exact ⟨e.1, e.2.1, HandleTable.keyOf?_eq_some_iff.mpr ⟨e.2.2, slot⟩,
        opened_of_armed_end channels t perm armed⟩

end

end Bank

end Peripherals.Adc
