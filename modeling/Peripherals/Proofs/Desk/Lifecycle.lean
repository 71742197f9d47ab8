import Peripherals.Proofs.Desk.Accounts
import Peripherals.Proofs.Journal.Faithful
/-!
The life of leased resources. Main statement: after every run of commands at a desk of any kind, over
any driver, the leases are exactly the open channels, and the next command treats them properly.
-/

set_option autoImplicit false

namespace Peripherals

open Journal (IsOpen SilentAfterClose openings closings)

variable {σ S T V C A K : Type}

/-- The calls of an errand, all written down, and what came of them. -/
structure Desk.Proper (dev : Device (σ × Journal T V) S (Tagged C)) (granted : Handle → A)
    (d : Desk (σ × Journal T V) S (Tagged C)) (e : Errand (σ × Journal T V) S (Tagged C) A)
    (answer : Except Fault A) (d' : Desk (σ × Journal T V) S (Tagged C)) : Prop where
  /-- A channel that is opened is leased in the same errand. -/
  leased : ∃ calls, d'.device.2 = d.device.2 ++ calls ∧ ∀ c ∈ calls, c.opens = true →
    ∃ h lease, answer = .ok (granted h) ∧ d.leases.get? h = none ∧
      d'.leases.slots.get? h = some (c.tag.key, lease) ∧ lease.channel.tag = c.tag
  barred : ∀ f s, e = .request (.error f) s → answer = .error f ∧ d' = d
  /-- A request on a leased key makes no call. -/
  taken : ∀ s, e = .request (.ok ()) s → d.leases.containsKey (dev.trade.key s) = true →
    answer = .error (dev.taken s) ∧ d' = d
  /-- An errand about a handle without a lease makes no call. -/
  unknown : ∀ h, e.handle? = some h → d.leases.get? h = none →
    answer = .error (.unknownHandle h) ∧ d' = d
  /-- A request that fails leaves all leases, and the counter. -/
  request_error : ∀ check s f, e = .request check s → answer = .error f →
    d'.leases = d.leases ∧ d'.counter = d.counter
  request_ok : ∀ check s a, e = .request check s → answer = .ok a → a = granted ⟨d.counter⟩ ∧
    d'.activeCount = d.activeCount + 1 ∧ d'.leases.keyOf? ⟨d.counter⟩ = some (dev.trade.key s) ∧
      ∀ h, h ≠ ⟨d.counter⟩ → d'.leases.slots.get? h = d.leases.slots.get? h
  /-- A release that fails leaves every lease under its handle, key and channel. -/
  release_error : ∀ h f, e = .release h → answer = .error f →
    d'.counter = d.counter ∧ d'.activeCount = d.activeCount ∧
      (∀ h', d'.leases.keyOf? h' = d.leases.keyOf? h') ∧
      (∀ h', (d'.leases.get? h').map (·.channel.tag) = (d.leases.get? h').map (·.channel.tag)) ∧
      ∀ h', h' ≠ h → d'.leases.slots.get? h' = d.leases.slots.get? h'
  /-- A release that succeeds takes out its lease and no other. -/
  release_ok : ∀ h a, e = .release h → answer = .ok a →
    d'.counter = d.counter ∧ d'.activeCount + 1 = d.activeCount ∧ d'.leases.get? h = none ∧
      ∀ h', h' ≠ h → d'.leases.slots.get? h' = d.leases.slots.get? h'

/-- The leases are the open channels, and the next command is proper, whatever it is. -/
structure Desk.Lifecycle (dev : Device (σ × Journal T V) S (Tagged C)) (granted : Handle → A)
    (errand : K → Errand (σ × Journal T V) S (Tagged C) A)
    (perform : K → Action Fault (Desk (σ × Journal T V) S (Tagged C)) A)
    (d : Desk (σ × Journal T V) S (Tagged C)) : Prop where
  one_channel : ∀ tag tag', IsOpen d.device.2 tag → IsOpen d.device.2 tag' → tag.key = tag'.key →
    tag = tag'
  open_iff : ∀ tag, IsOpen d.device.2 tag ↔
    ∃ h lease, d.leases.slots.get? h = some (tag.key, lease) ∧ lease.channel.tag = tag
  one_handle : ∀ h h' lease lease', d.leases.get? h = some lease → d.leases.get? h' = some lease' →
    lease.channel.tag = lease'.channel.tag → h = h'
  count : d.activeCount + closings d.device.2 = openings d.device.2
  silent : SilentAfterClose d.device.2
  proper : ∀ k, d.Proper dev granted (errand k) (perform k d).answer (perform k d).state

namespace Course

variable {dev : Device (σ × Journal T V) S (Tagged C)} {granted : Handle → A} {done : A}
  {d d' : Desk (σ × Journal T V) S (Tagged C)} {e : Errand (σ × Journal T V) S (Tagged C) A}
  {answer : Except Fault A}

private theorem accounted (course : Course dev granted done d e answer d') (o : dev.Observed)
    (works : ∀ h work, e = .use h work → KeepsOpen work) (a : d.Accounted) : d'.Accounted := by
  cases course with
  | barred | taken | unknown | looked => exact a
  | declined free claim =>
    obtain ⟨asked, journal⟩ := o.claim _ d.device
    rw [claim] at journal
    exact a.decline journal
  | granted free claim =>
    obtain ⟨asked, journal⟩ := o.claim _ d.device
    rw [claim] at journal
    exact a.lend free journal (o.claim_tag _ _ _ claim)
  | @used h key lease work live =>
    obtain ⟨tag, calls, journal, passing⟩ := works _ _ rfl (d.device, lease)
    exact a.after live tag journal passing
  | @kept h key lease f live failed =>
    obtain ⟨tag, calls, journal, passing⟩ := o.windUp_error failed
    exact a.after live tag journal passing
  | @released h key lease live closed =>
    obtain ⟨tag, calls, journal, passing⟩ := o.windUp_ok closed
    have before := a.after live (p := (((dev.windUp (d.device, lease)).state.1.1,
      d.device.2 ++ calls), (dev.windUp (d.device, lease)).state.2)) tag rfl passing
    refine before.strike (HandleTable.slots_set live _ h |>.trans (if_pos rfl)) ?_
    rw [tag]
    exact journal

/-- A channel that is opened in an errand is leased in it. -/
private theorem leased (course : Course dev granted done d e answer d') (o : dev.Observed)
    (works : ∀ h work, e = .use h work → KeepsOpen work) (sound : d.leases.Sound d.counter) :
    ∃ calls, d'.device.2 = d.device.2 ++ calls ∧ ∀ c ∈ calls, c.opens = true →
      ∃ h lease, answer = .ok (granted h) ∧ d.leases.get? h = none ∧
        d'.leases.slots.get? h = some (c.tag.key, lease) ∧ lease.channel.tag = c.tag := by
  cases course with
  | barred | taken | unknown | looked => exact ⟨[], by simp, by simp⟩
  | declined free claim =>
    obtain ⟨asked, journal⟩ := o.claim _ d.device
    refine ⟨_, journal, fun c member opened => ?_⟩
    rw [claim] at member
    rw [List.mem_singleton.mp member] at opened
    cases opened
  | @granted s c free claim =>
    obtain ⟨asked, journal⟩ := o.claim _ d.device
    refine ⟨_, journal, fun call member _ => ?_⟩
    rw [List.mem_singleton.mp member]
    refine ⟨⟨d.counter⟩, ⟨s, c⟩, rfl, HandleTable.get?_eq_none_iff.mpr sound.fresh, ?_,
      o.claim_tag _ _ _ claim⟩
    exact (HandleTable.slots_entered _ _ _ _).trans (if_pos rfl)
  | @used h key lease work live =>
    obtain ⟨_, calls, journal, passing⟩ := works _ _ rfl (d.device, lease)
    exact ⟨calls, journal, fun c member opened => absurd opened (passing.not_opens member)⟩
  | @kept h key lease f live failed =>
    obtain ⟨_, calls, journal, passing⟩ := o.windUp_error failed
    exact ⟨calls, journal, fun c member opened => absurd opened (passing.not_opens member)⟩
  | @released h key lease live closed =>
    obtain ⟨_, calls, journal, passing⟩ := o.windUp_ok closed
    refine ⟨_, journal.trans (List.append_assoc _ _ _), fun c member opened => ?_⟩
    rcases List.mem_append.mp member with first | last
    · exact absurd opened (passing.not_opens first)
    · rw [List.mem_singleton.mp last] at opened
      cases opened

private theorem request_error {check : Except Fault Unit} {s : S} {f : Fault}
    (course : Course dev granted done d (.request check s) (.error f) d') :
    d'.leases = d.leases ∧ d'.counter = d.counter := by
  cases course with
  | barred | taken | declined | unknown => exact ⟨rfl, rfl⟩

private theorem request_ok {check : Except Fault Unit} {s : S} {a : A}
    (course : Course dev granted done d (.request check s) (.ok a) d')
    (sound : d.leases.Sound d.counter) : a = granted ⟨d.counter⟩ ∧
      d'.activeCount = d.activeCount + 1 ∧ d'.leases.keyOf? ⟨d.counter⟩ = some (dev.trade.key s) ∧
        ∀ h, h ≠ ⟨d.counter⟩ → d'.leases.slots.get? h = d.leases.slots.get? h := by
  cases course with
  | granted free claim =>
    have slots := HandleTable.slots_entered (t := d.leases) ⟨d.counter⟩ (dev.trade.key s)
    refine ⟨rfl, sound.size_entered _ _, ?_, fun h other => (slots _ h).trans (if_neg other)⟩
    exact HandleTable.keyOf?_eq_some_iff.mpr ⟨_, (slots _ _).trans (if_pos rfl)⟩

private theorem release_error {h : Handle} {f : Fault}
    (course : Course dev granted done d (.release h) (.error f) d') (o : dev.Observed)
    (sound : d.leases.Sound d.counter) :
    d'.counter = d.counter ∧ d'.activeCount = d.activeCount ∧
      (∀ h', d'.leases.keyOf? h' = d.leases.keyOf? h') ∧
      (∀ h', (d'.leases.get? h').map (·.channel.tag) = (d.leases.get? h').map (·.channel.tag)) ∧
      ∀ h', h' ≠ h → d'.leases.slots.get? h' = d.leases.slots.get? h' := by
  cases course with
  | unknown => exact ⟨rfl, rfl, fun _ => rfl, fun _ => rfl, fun _ _ => rfl⟩
  | @kept _ key lease _ live failed =>
    have tag := (o.windUp_error failed).1
    have slots := HandleTable.slots_set live (dev.windUp (d.device, lease)).state.2
    refine ⟨rfl, sound.size_set live _, Desk.keyOf?_after live _, fun h' => ?_,
      fun h' other => (slots h').trans (if_neg other)⟩
    change (((d.leases.set h _).slots.get? h').map _).map _ = _
    rw [slots]
    by_cases same : h' = h
    · subst same
      simp [HandleTable.get?, live, tag]
    · rw [if_neg same]
      rfl

private theorem release_ok {h : Handle} {a : A}
    (course : Course dev granted done d (.release h) (.ok a) d') (sound : d.leases.Sound d.counter) :
    d'.counter = d.counter ∧ d'.activeCount + 1 = d.activeCount ∧ d'.leases.get? h = none ∧
      ∀ h', h' ≠ h → d'.leases.slots.get? h' = d.leases.slots.get? h' := by
  cases course with
  | @released _ key lease live closed =>
    have size := (sound.set live (dev.windUp (d.device, lease)).state.2).size_without
      (Desk.slots_after live (dev.windUp (d.device, lease)).state)
    rw [sound.size_set live] at size
    refine ⟨rfl, size, ?_, fun h' other => ?_⟩
    · rw [HandleTable.get?_eq_none_iff]
      exact (HandleTable.slots_without _ _ _).trans (if_pos rfl)
    · refine (HandleTable.slots_without _ _ _).trans ?_
      rw [if_neg other]
      exact (HandleTable.slots_set live _ h').trans (if_neg other)

private theorem proper (course : Course dev granted done d e answer d') (o : dev.Observed)
    (works : ∀ h work, e = .use h work → KeepsOpen work) (sound : d.leases.Sound d.counter) :
    d.Proper dev granted e answer d' where
  leased := course.leased o works sound
  barred := by
    rintro f s rfl
    exact course.of_barred
  taken := by
    rintro s rfl busy
    exact course.of_taken busy
  unknown h about dead := course.of_dead about (HandleTable.get?_eq_none_iff.mp dead)
  request_error := by
    rintro check s f rfl rfl
    exact course.request_error
  request_ok := by
    rintro check s a rfl rfl
    exact course.request_ok sound
  release_error := by
    rintro h f rfl rfl
    exact course.release_error o sound
  release_ok := by
    rintro h a rfl rfl
    exact course.release_ok sound

end Course

theorem Desk.accounted_of_errands {dev : Device (σ × Journal T V) S (Tagged C)}
    {granted : Handle → A} {done : A} {errand : K → Errand (σ × Journal T V) S (Tagged C) A}
    {perform : K → Action Fault (Desk (σ × Journal T V) S (Tagged C)) A}
    (same : ∀ k, perform k = (errand k).run dev granted done) (o : dev.Observed)
    (works : ∀ k h work, errand k = .use h work → KeepsOpen work) (s : σ) (counter : Nat)
    (ks : List K) : (Action.runAll perform ks (vacant (s, []) counter)).Accounted := by
  refine Action.runAll_invariant (I := Accounted) (fun k d a => ?_) ks (accounted_vacant s counter)
  have course := (errand k).course dev granted done d
  rw [← same] at course
  exact course.accounted o (works k) a

/-- A desk whose commands are errands with passing calls has a proper life. -/
private theorem Desk.lifecycle_of_errands {dev : Device (σ × Journal T V) S (Tagged C)}
    {granted : Handle → A} {done : A} {errand : K → Errand (σ × Journal T V) S (Tagged C) A}
    {perform : K → Action Fault (Desk (σ × Journal T V) S (Tagged C)) A}
    (same : ∀ k, perform k = (errand k).run dev granted done) (o : dev.Observed)
    (works : ∀ k h work, errand k = .use h work → KeepsOpen work) (s : σ) (counter : Nat)
    (ks : List K) :
    (Action.runAll perform ks (vacant (s, []) counter)).Lifecycle dev granted errand perform := by
  have course (k : K) (d : Desk (σ × Journal T V) S (Tagged C)) :
      Course dev granted done d (errand k) (perform k d).answer (perform k d).state := by
    rw [same]
    exact (errand k).course dev granted done d
  have a := accounted_of_errands same o works s counter ks
  exact {
    one_channel := fun _ _ => a.one_channel
    open_iff := fun tag => by
      constructor
      · intro hopen
        obtain ⟨h, key, lease, live, rfl⟩ := a.handed tag hopen
        obtain ⟨rfl, _⟩ := a.held h key lease live
        exact ⟨h, lease, live, rfl⟩
      · rintro ⟨h, lease, live, rfl⟩
        exact (a.held h _ lease live).2
    one_handle := fun h h' lease lease' live live' same => by
      obtain ⟨key, live⟩ := HandleTable.get?_eq_some_iff.mp live
      obtain ⟨key', live'⟩ := HandleTable.get?_eq_some_iff.mp live'
      have keys : key = key' := by
        rw [← (a.held h key lease live).1, same, (a.held h' key' lease' live').1]
      subst keys
      exact a.sound.handle_unique live live'
    count := a.count
    silent := a.silent
    proper := fun k => (course k _).proper o (works k) a.sound }

/-! ### The three kinds of desks -/

theorem Adc.Driver.watched_observed (d : Adc.Driver σ C) : d.watched.device.Observed where
  claim c p := ⟨c, Journal.claiming_state c.pin c (d.claim c) p⟩
  claim_tag _ _ _ := Journal.claiming_tag
  rest := .of_still fun _ => ⟨rfl, rfl⟩
  close _ := ⟨rfl, rfl⟩

theorem Adc.Driver.watched_works (d : Adc.Driver σ C) (k : Adc.Command) (h : Handle)
    (work : Action Fault _ Adc.Answer) (use : d.watched.errand k = .use h work) :
    KeepsOpen work := by
  cases k with
  | value h =>
    cases use
    exact (KeepsOpen.calling _ d.read).map _
  | request c | release h | config h => cases use

theorem Gpio.Driver.watched_observed (d : Gpio.Driver σ C) : d.watched.device.Observed where
  claim c p := ⟨c, Journal.claiming_state c.line c (d.claim c) p⟩
  claim_tag _ _ _ := Journal.claiming_tag
  rest := .of_still fun _ => ⟨rfl, rfl⟩
  close _ := ⟨rfl, rfl⟩

theorem Gpio.Driver.watched_works (d : Gpio.Driver σ C) (k : Gpio.Command) (h : Handle)
    (work : Action Fault _ Gpio.Answer) (use : d.watched.errand k = .use h work) :
    KeepsOpen work := by
  cases k with
  | level h =>
    cases use
    exact (KeepsOpen.calling _ d.read).map _
  | drive h b =>
    cases use
    refine KeepsOpen.map (KeepsOpen.bind (.of_still fun _ => ⟨rfl, rfl⟩) fun p => ?_) _
    dsimp only
    split
    · exact .calling _ (d.write b)
    · exact .of_still fun _ => ⟨rfl, rfl⟩
  | request c | release h | name h | direction h | line h => cases use

namespace Pwm.Driver

variable (d : Pwm.Driver σ C)

private theorem keepsOpen_recorded :
    KeepsOpen (T := T) (V := V) (recorded (σ := σ × Journal T V) (C := Tagged C)) :=
  .of_still fun _ => ⟨rfl, rfl⟩

private theorem keepsOpen_amend (f : Pwm.Signal → Pwm.Signal) :
    KeepsOpen (T := T) (V := V) (amend (σ := σ × Journal T V) (C := Tagged C) f) :=
  .of_still fun _ => ⟨rfl, rfl⟩

private theorem keepsOpen_check (x : Except Fault Unit) :
    KeepsOpen (S := Pwm.Signal) (σ := σ) (T := T) (V := V) (C := C) (Action.ofExcept x) :=
  .of_still fun _ => ⟨rfl, rfl⟩

private theorem keepsOpen_turn (verb : Pwm.Verb) : KeepsOpen (d.watched.turn verb) := by
  unfold turn
  rw [watched_calls]
  exact (KeepsOpen.calling verb (d.calls verb)).bind fun _ => keepsOpen_amend _

private theorem keepsOpen_turnIf (running : Bool) (verb : Pwm.Verb) :
    KeepsOpen (if running then d.watched.turn verb else pure ()) := by
  split
  · exact d.keepsOpen_turn verb
  · exact .of_still fun _ => ⟨rfl, rfl⟩

private theorem keepsOpen_changePolarity (polarity : Pwm.Polarity) :
    KeepsOpen (d.watched.changePolarity polarity) := by
  rw [changePolarity_eq_turn]
  refine keepsOpen_recorded.bind fun s => ?_
  refine (d.keepsOpen_turnIf s.running (.setRunning false)).bind fun _ => ?_
  refine (d.keepsOpen_turn (.setPolarity polarity)).bind fun _ => ?_
  exact d.keepsOpen_turnIf s.running (.setRunning true)

theorem watched_observed : d.watched.device.Observed where
  claim s p := ⟨s.config, Journal.claiming_state s.config.pin s.config (d.claim s.config) p⟩
  claim_tag _ _ _ := Journal.claiming_tag
  rest := keepsOpen_recorded.bind fun s => d.keepsOpen_turnIf s.running (.setRunning false)
  close _ := ⟨rfl, rfl⟩

theorem watched_works (k : Pwm.Command) (h : Handle) (work : Action Fault _ Pwm.Answer)
    (use : d.watched.errand k = .use h work) : KeepsOpen work := by
  cases k with
  | enable h =>
    cases use
    exact (d.keepsOpen_turn (.setRunning true)).map _
  | disable h =>
    cases use
    exact (d.keepsOpen_turn (.setRunning false)).map _
  | setPeriod h period =>
    cases use
    refine KeepsOpen.map (keepsOpen_recorded.bind fun _ => ?_) _
    exact (keepsOpen_check _).bind fun _ => d.keepsOpen_turn (.setPeriod period)
  | setDuty h duty =>
    cases use
    refine KeepsOpen.map (keepsOpen_recorded.bind fun _ => ?_) _
    exact (keepsOpen_check _).bind fun _ => d.keepsOpen_turn (.setDuty duty)
  | setPolarity h polarity =>
    cases use
    exact (d.keepsOpen_changePolarity polarity).map _
  | request c | release h | config h | isEnabled h => cases use

end Pwm.Driver

private theorem Gpio.Driver.perform_drive_input (d : Gpio.Driver σ C) {desk : Desk σ Gpio.Config C}
    {h : Handle} {lease : Lease Gpio.Config C} (live : desk.leases.get? h = some lease)
    (input : lease.settings.direction = .input) (b : Bool) :
    (d.perform (.drive h b) desk).answer = .error (.invalidArgument
        ("gpio " ++ Text.number lease.settings.line.toNat ++ " is an input line")) ∧
      (d.perform (.drive h b) desk).state.device = desk.device ∧
      ∀ h', (d.perform (.drive h b) desk).state.leases.slots.get? h' = desk.leases.slots.get? h' := by
  have work : d.driveLine b (desk.device, lease) = ⟨.error (.invalidArgument
      ("gpio " ++ Text.number lease.settings.line.toNat ++ " is an input line")), [],
      (desk.device, lease)⟩ := by
    simp only [driveLine, Action.bind_apply, Action.get_apply, input]
    rfl
  rw [perform_eq]
  change (Desk.withLease h _ desk).answer = _ ∧ (Desk.withLease h _ desk).state.device = _ ∧
    ∀ h', (Desk.withLease h _ desk).state.leases.slots.get? h' = _
  simp only [Desk.withLease, live, Action.map_apply, work, true_and]
  refine ⟨rfl, fun h' => ?_⟩
  obtain ⟨key, slot⟩ := HandleTable.get?_eq_some_iff.mp live
  rw [HandleTable.slots_set slot]
  split
  · next same => rw [same, slot]
  · rfl

/-- Over every driver and after every run of commands, failed ones included, the open channels are
the leased ones, no call follows the closing of a channel, refused commands make no call, an opened
channel is leased at once, and a request or release that fails leaves the leases in place. The calls
are those of a watched driver, which changes nothing else about the run. -/
theorem lease_lifecycle :
    (∀ {σ C : Type} (d : Adc.Driver σ C) (s : σ) (counter : Nat) (ks : List Adc.Command),
      let desk := Action.runAll d.watched.perform ks (Desk.vacant (s, []) counter)
      desk.Lifecycle d.watched.device .granted d.watched.errand d.watched.perform ∧
        Action.runAll d.perform ks (Desk.vacant s counter) = desk.unwatched ∧
        ∀ k, Action.Mirrors Desk.unwatched id (d.watched.perform k) (d.perform k)) ∧
    (∀ {σ C : Type} (d : Gpio.Driver σ C) (s : σ) (counter : Nat) (ks : List Gpio.Command),
      let desk := Action.runAll d.watched.perform ks (Desk.vacant (s, []) counter)
      desk.Lifecycle d.watched.device .granted d.watched.errand d.watched.perform ∧
        (∀ h b lease, desk.leases.get? h = some lease → lease.settings.direction = .input →
          (d.watched.perform (.drive h b) desk).answer = .error (.invalidArgument
              ("gpio " ++ Text.number lease.settings.line.toNat ++ " is an input line")) ∧
            (d.watched.perform (.drive h b) desk).state.device = desk.device) ∧
        Action.runAll d.perform ks (Desk.vacant s counter) = desk.unwatched ∧
        ∀ k, Action.Mirrors Desk.unwatched id (d.watched.perform k) (d.perform k)) ∧
    (∀ {σ C : Type} (d : Pwm.Driver σ C) (s : σ) (counter : Nat) (ks : List Pwm.Command),
      let desk := Action.runAll d.watched.perform ks (Desk.vacant (s, []) counter)
      desk.Lifecycle d.watched.device .granted d.watched.errand d.watched.perform ∧
        (∀ c : Pwm.Config, c.period < c.duty →
          ((d.watched.perform (.request c) desk).answer = .error (.invalidArgument
              ("duty cycle " ++ Text.number c.duty.toNat ++ " ns exceeds period " ++
                Text.number c.period.toNat ++ " ns"))) ∧
            (d.watched.perform (.request c) desk).state = desk) ∧
        Action.runAll d.perform ks (Desk.vacant s counter) = desk.unwatched ∧
        ∀ k, Action.Mirrors Desk.unwatched id (d.watched.perform k) (d.perform k)) := by
  refine ⟨fun d s counter ks => ⟨?_, ?_, d.perform_watched⟩,
    fun d s counter ks => ⟨?_, ?_, ?_, d.perform_watched⟩,
    fun d s counter ks => ⟨?_, ?_, ?_, d.perform_watched⟩⟩
  · exact Desk.lifecycle_of_errands d.watched.perform_eq d.watched_observed d.watched_works s _ ks
  · exact Action.runAll_mirrors d.perform_watched ks (Desk.vacant (s, []) counter)
  · exact Desk.lifecycle_of_errands d.watched.perform_eq d.watched_observed d.watched_works s _ ks
  · intro h b lease live input
    obtain ⟨answer, device, _⟩ := d.watched.perform_drive_input live input b
    exact ⟨answer, device⟩
  · exact Action.runAll_mirrors d.perform_watched ks (Desk.vacant (s, []) counter)
  · exact Desk.lifecycle_of_errands d.watched.perform_eq d.watched_observed d.watched_works s _ ks
  · intro c long
    have check : c.check = .error (.invalidArgument ("duty cycle " ++ Text.number c.duty.toNat ++
        " ns exceeds period " ++ Text.number c.period.toNat ++ " ns")) := if_pos long
    rw [d.watched.perform_eq]
    exact Action.bind_error (x := Action.ofExcept c.check) _ check
  · exact Action.runAll_mirrors d.perform_watched ks (Desk.vacant (s, []) counter)

end Peripherals
