import Peripherals.Proofs.Board.Uses
import Peripherals.Proofs.Files.Shelf
import Peripherals.Proofs.Rig.Modules
/-!
Keys of modules that come and go. A board hands out its modules and takes them back while whoever once
had a module goes on using it. Main statement: a key at a module has one live handle at most, for
everyone who has the module, however often the board has taken it back.
-/

set_option autoImplicit false

namespace Peripherals

variable {φ F : Type}

/-! ### Premises -/

/-- A board, the rig in which it builds its modules, and what was asked of both, each with the
answer. -/
structure Premises (φ F : Type) where
  board : Board (Rig φ F)
  rig : Rig φ F
  demands : Board.History := []
  uses : List Use := []

/-- What happens on the premises: a demand at the board, a command to a module by anyone, or the world
changes and handles are drawn elsewhere. -/
inductive Incident (φ : Type) where
  | demand (d : Board.Demand)
  | use (serial : Nat) (k : ModuleCommand)
  | drift (f : World φ → World φ) (drawn : Nat)

namespace Premises

def start (b : Board (Rig φ F)) (world : World φ) (counter : Nat) : Premises φ F where
  board := b
  rig := { world, counter }

section Runs

variable (fs : FileSystem φ F)

def step (p : Premises φ F) : Incident φ → Premises φ F
  | .demand d =>
    let o := Board.perform d (p.board, p.rig)
    { p with board := o.state.1, rig := o.state.2, demands := p.demands ++ [(d, o.answer)] }
  | .use serial k =>
    let o := p.rig.perform fs serial k
    { p with rig := o.state, uses := p.uses ++ [⟨⟨k.kind, serial⟩, k, o.answer⟩] }
  | .drift f drawn =>
    { p with rig := { p.rig with world := f p.rig.world, counter := p.rig.counter + drawn } }

def run (p : Premises φ F) (incidents : List (Incident φ)) : Premises φ F :=
  incidents.foldl (step fs) p

end Runs

variable (p : Premises φ F)

/-- The board has given this module to someone. -/
def Handed (m : ModuleRef) : Prop :=
  ∃ d, (d, .ok (.granted m)) ∈ p.demands

/-- A request at the module gave out the handle for the key. -/
def Lent (m : ModuleRef) (h : Handle) (key : UInt32) : Prop :=
  ∃ u ∈ p.uses, u.module = m ∧ u.issue? = some (h, key)

/-- A release at the module took the handle back. -/
def Returned (m : ModuleRef) (h : Handle) : Prop :=
  ∃ u ∈ p.uses, u.module = m ∧ u.return? = some h

def Live (m : ModuleRef) (h : Handle) (key : UInt32) : Prop :=
  p.Lent m h key ∧ ¬ p.Returned m h

end Premises

/-! ### Offers that add modules -/

namespace Board

/-- The offer adds a module of its kind without leases, under the next serial number. -/
def Adds (kind : ModuleKind) (o : Offer (Rig φ F)) : Prop :=
  ∀ r, ∃ x : AnyModule F, x.kind = kind ∧ (∀ n, x.Sound n) ∧ (∀ h, x.keyOf? h = none) ∧
    o.build r = (⟨kind, r.nextSerial⟩,
      { r.seat r.nextSerial x with nextSerial := r.nextSerial + 1 })

private theorem adds_addAdc (name : String) (backend : Nat → Adc.Backend) :
    Adds .adc (⟨name, Rig.addAdc backend⟩ : Offer (Rig φ F)) := fun r =>
  ⟨.adc { backend := backend r.nextSerial }, rfl, HandleTable.sound_empty, fun _ => rfl, rfl⟩

private theorem adds_addGpio (name : String) (backend : Nat → Gpio.Backend) :
    Adds .gpio (⟨name, Rig.addGpio backend⟩ : Offer (Rig φ F)) := fun r =>
  ⟨.gpio { backend := backend r.nextSerial }, rfl, HandleTable.sound_empty, fun _ => rfl, rfl⟩

private theorem adds_addPwm (name : String) (backend : Nat → Pwm.Backend) :
    Adds .pwm (⟨name, Rig.addPwm backend⟩ : Offer (Rig φ F)) := fun r =>
  ⟨.pwm { backend := backend r.nextSerial }, rfl, HandleTable.sound_empty, fun _ => rfl, rfl⟩

theorem adds_ofPlatform (c : Configuration) (platform : Platform) (kind : ModuleKind)
    (o : Offer (Rig φ F)) (offered : (ofPlatform c platform).offers.get? kind = some o) :
    Adds kind o := by
  refine offers_ofPlatform (P := Adds) ?_ ?_ ?_ platform kind o offered
  · intro backing o offered
    cases backing with
    | disabled => cases offered
    | sysfs | tizenrt | mock =>
      obtain rfl := Option.some.inj offered
      exact adds_addAdc _ _
  · intro backing o offered
    cases backing with
    | tizenrt | disabled => cases offered
    | sysfs | mock =>
      obtain rfl := Option.some.inj offered
      exact adds_addGpio _ _
  · intro backing o offered
    cases backing with
    | tizenrt | disabled => cases offered
    | sysfs | mock =>
      obtain rfl := Option.some.inj offered
      exact adds_addPwm _ _

variable {kind : ModuleKind} {o : Offer (Rig φ F)}

/-- An offer that adds a module leaves every other module, and every handle, as it was. -/
private theorem Adds.build (adds : Adds kind o) {r : Rig φ F} (sound : r.Sound) :
    (o.build r).2.Sound ∧ (o.build r).2.counter = r.counter ∧
      ((o.build r).2.module? (o.build r).1).isSome = true ∧
      (∀ m, (r.module? m).isSome = true → ((o.build r).2.module? m).isSome = true) ∧
      ∀ m h, (o.build r).2.keyOf? m h = r.keyOf? m h := by
  obtain ⟨x, rfl, empty, keyless, built⟩ := adds r
  have found (m : ModuleRef) : (o.build r).2.module? m =
      if m = ⟨x.kind, r.nextSerial⟩ then some x else r.module? m := by
    rw [built]
    exact r.module?_seat r.nextSerial x m
  have counter : (o.build r).2.counter = r.counter := by
    rw [built]
    cases x <;> rfl
  have serials : (o.build r).2.nextSerial = r.nextSerial + 1 := by rw [built]
  have unused : r.module? ⟨x.kind, r.nextSerial⟩ = none := by
    rw [Option.eq_none_iff_forall_ne_some]
    intro y there
    exact Nat.lt_irrefl _ (sound _ y there).2
  refine ⟨fun m y there => ?_, counter, ?_, fun m there => ?_, fun m h => ?_⟩
  · rw [counter, serials]
    rw [found] at there
    split at there
    · next new =>
      obtain rfl := Option.some.inj there
      rw [new]
      exact ⟨empty _, Nat.lt_succ_self _⟩
    · obtain ⟨leases, old⟩ := sound m y there
      exact ⟨leases, Nat.lt_succ_of_lt old⟩
  · rw [found, built, if_pos rfl, Option.isSome_some]
  · rw [found]
    split
    · rfl
    · exact there
  · unfold Rig.keyOf?
    rw [found]
    split
    · next new =>
      rw [new, unused]
      exact keyless h
    · rfl

/-- Every module of the board is in the rig. -/
def Seated (s : Board (Rig φ F) × Rig φ F) : Prop :=
  ∀ kind i, s.1.installed.get? kind = some i → (s.2.module? i.module).isSome = true

private theorem Course.rig {s s' : Board (Rig φ F) × Rig φ F} {d : Demand}
    {answer : Except Fault Answer}
    (course : Course s d answer s')
    (adds : ∀ kind o, s.1.offers.get? kind = some o → Adds kind o) (sound : s.2.Sound)
    (seated : Seated s) :
    s'.2.Sound ∧ s'.2.counter = s.2.counter ∧ (∀ m h, s'.2.keyOf? m h = s.2.keyOf? m h) ∧
      Seated s' := by
  have reseated {kind : ModuleKind} {i j : Installed} (built : s.1.installed.get? kind = some i)
      (same : j.module = i.module) : Seated (s.1.seat kind j, s.2) := by
    intro kind' i' there
    rw [installed_seat] at there
    split at there
    · obtain rfl := Option.some.inj there
      rw [same]
      exact seated kind i built
    · exact seated kind' i' there
  cases course with
  | absent | refused => exact ⟨sound, rfl, fun _ _ => rfl, seated⟩
  | @first _ kind o wanted offered unbuilt =>
    obtain ⟨sound', counter, new, others, keys⟩ := (adds kind o offered).build sound
    refine ⟨sound', counter, keys, fun kind' i there => ?_⟩
    rw [installed_seat] at there
    split at there
    · obtain rfl := Option.some.inj there
      exact new
    · exact others _ (seated kind' i there)
  | again wanted offered built => exact ⟨sound, rfl, fun _ _ => rfl, reseated built rfl⟩
  | returned used => exact ⟨sound, rfl, fun _ _ => rfl, reseated used rfl⟩

end Board

namespace Premises

/-! ### What every incident keeps -/

/-- Board and rig agree, and the handles that the modules hold are those that are live by what was
asked of them. -/
structure Orderly (p : Premises φ F) : Prop where
  kinded : p.board.Kinded
  adds : ∀ kind o, p.board.offers.get? kind = some o → Board.Adds kind o
  sound : p.rig.Sound
  seated : Board.Seated (p.board, p.rig)
  handed : ∀ m, p.Handed m → ∃ uses, p.board.installed.get? m.kind = some ⟨m, uses⟩
  live_iff : ∀ m h key, p.rig.keyOf? m h = some key ↔ p.Live m h key
  drawn : ∀ m h, (∃ key, p.Lent m h key) ∨ p.Returned m h → h.number < p.rig.counter

private theorem orderly_start {b : Board (Rig φ F)} (bare : b.installed = ∅) (kinded : b.Kinded)
    (adds : ∀ kind o, b.offers.get? kind = some o → Board.Adds kind o) (world : World φ)
    (counter : Nat) : (start b world counter).Orderly := by
  have empty (m : ModuleRef) : (start b world counter).rig.module? m = none := by
    obtain ⟨kind, serial⟩ := m
    cases kind <;> rfl
  refine ⟨kinded, adds, fun m x found => ?_, fun kind i built => ?_, ?_, fun m h key => ?_, ?_⟩
  · rw [empty] at found
    cases found
  · change b.installed.get? kind = some i at built
    rw [bare] at built
    cases built
  · rintro m ⟨d, granted⟩
    cases granted
  · constructor
    · intro held
      unfold Rig.keyOf? at held
      rw [empty] at held
      cases held
    · rintro ⟨⟨u, asked, _⟩, _⟩
      cases asked
  · rintro m h (⟨key, u, asked, _⟩ | ⟨u, asked, _⟩) <;> cases asked

variable (fs : FileSystem φ F) {p : Premises φ F}

private theorem Orderly.demand (orderly : p.Orderly) (d : Board.Demand) :
    (p.step fs (.demand d)).Orderly := by
  have course := Board.course (s := (p.board, p.rig)) orderly.kinded d
  obtain ⟨sound, counter, keys, seated⟩ := course.rig orderly.adds orderly.sound orderly.seated
  refine ⟨course.kinded orderly.kinded, ?_, sound, seated, ?_, fun m h key => ?_, fun m h known => ?_⟩
  · intro kind o offered
    exact orderly.adds kind o (course.offers_eq ▸ offered)
  · rintro m ⟨d', granted⟩
    rcases List.mem_append.mp granted with before | now
    · obtain ⟨uses, built⟩ := orderly.handed m ⟨d', before⟩
      exact course.stays built
    · obtain ⟨rfl, answer⟩ := Prod.mk.inj (List.mem_singleton.mp now)
      rw [← answer] at course
      exact (course.granted orderly.kinded).2
  · exact (iff_of_eq (congrArg (· = some key) (keys m h))).trans (orderly.live_iff m h key)
  · exact Nat.lt_of_lt_of_eq (orderly.drawn m h known) counter.symm

private theorem lent_use {serial : Nat} {k : ModuleCommand} {m : ModuleRef} {h : Handle}
    {key : UInt32} :
    (p.step fs (.use serial k)).Lent m h key ↔ p.Lent m h key ∨
      (⟨k.kind, serial⟩ = m ∧
        (Use.mk ⟨k.kind, serial⟩ k (p.rig.perform fs serial k).answer).issue? = some (h, key)) := by
  simp only [Lent, step, List.mem_append, List.mem_singleton, or_and_right, exists_or,
    exists_eq_left]

private theorem returned_use {serial : Nat} {k : ModuleCommand} {m : ModuleRef} {h : Handle} :
    (p.step fs (.use serial k)).Returned m h ↔ p.Returned m h ∨
      (⟨k.kind, serial⟩ = m ∧
        (Use.mk ⟨k.kind, serial⟩ k (p.rig.perform fs serial k).answer).return? = some h) := by
  simp only [Returned, step, List.mem_append, List.mem_singleton, or_and_right, exists_or,
    exists_eq_left]

private theorem live_use_other {serial : Nat} {k : ModuleCommand} {m : ModuleRef}
    (other : m ≠ ⟨k.kind, serial⟩) (h : Handle) (key : UInt32) :
    (p.step fs (.use serial k)).Live m h key ↔ p.Live m h key := by
  simp only [Live, lent_use, returned_use, other.symm, false_and, or_false]

private theorem Orderly.fresh (orderly : p.Orderly) (m : ModuleRef) :
    (∀ key, ¬ p.Lent m ⟨p.rig.counter⟩ key) ∧ ¬ p.Returned m ⟨p.rig.counter⟩ :=
  ⟨fun key lent => Nat.lt_irrefl _ (orderly.drawn m ⟨p.rig.counter⟩ (.inl ⟨key, lent⟩)),
    fun returned => Nat.lt_irrefl _ (orderly.drawn m ⟨p.rig.counter⟩ (.inr returned))⟩

private theorem Orderly.live_use (orderly : p.Orderly) (serial : Nat) (k : ModuleCommand)
    (m : ModuleRef)
    (h : Handle) (key : UInt32) :
    (p.rig.perform fs serial k).state.keyOf? m h = some key ↔
      (p.step fs (.use serial k)).Live m h key := by
  obtain ⟨own, others⟩ := p.rig.perform_shifts fs serial k
  by_cases here : m = ⟨k.kind, serial⟩
  · subst here
    simp only [Live, lent_use, returned_use, true_and]
    cases own with
    | issued key₀ issue kept drawn entered =>
      rw [entered, issue, kept]
      by_cases next : h = ⟨p.rig.counter⟩
      · subst next
        -- A handle that was once taken back would not be live again; this one was never drawn.
        obtain ⟨unlent, unreturned⟩ := orderly.fresh ⟨k.kind, serial⟩
        simp [unlent, unreturned]
      · rw [if_neg next, orderly.live_iff]
        simp [Live, Ne.symm next]
    | returned h₀ key₀ unissued back was undrawn struck =>
      rw [struck, unissued, back]
      by_cases struck_here : h = h₀
      · simp [struck_here]
      · rw [if_neg struck_here, orderly.live_iff]
        simp [Live, Ne.symm struck_here]
    | still unissued kept undrawn same =>
      rw [same, unissued, kept, orderly.live_iff]
      simp [Live]
  · rw [others m here, orderly.live_iff, live_use_other fs here]

private theorem Orderly.drawn_use (orderly : p.Orderly) (serial : Nat) (k : ModuleCommand)
    (m : ModuleRef)
    (h : Handle) (known : (∃ key, (p.step fs (.use serial k)).Lent m h key) ∨
      (p.step fs (.use serial k)).Returned m h) :
    h.number < (p.rig.perform fs serial k).state.counter := by
  obtain ⟨own, _⟩ := p.rig.perform_shifts fs serial k
  simp only [lent_use, returned_use, exists_or] at known
  have before (known : (∃ key, p.Lent m h key) ∨ p.Returned m h) : h.number < p.rig.counter :=
    orderly.drawn m h known
  cases own with
  | issued key₀ issue kept drawn entered =>
    rw [drawn]
    rw [issue, kept] at known
    rcases known with (lent | ⟨key, _, now⟩) | returned | ⟨_, now⟩
    · exact Nat.lt_succ_of_lt (before (.inl lent))
    · obtain ⟨rfl, _⟩ := Prod.mk.inj (Option.some.inj now)
      exact Nat.lt_succ_self _
    · exact Nat.lt_succ_of_lt (before (.inr returned))
    · cases now
  | returned h₀ key₀ unissued back was undrawn struck =>
    rw [undrawn]
    rw [unissued, back] at known
    rcases known with (lent | ⟨key, _, now⟩) | returned | ⟨here, now⟩
    · exact before (.inl lent)
    · cases now
    · exact before (.inr returned)
    · -- What is taken back was live, and so it was given out before.
      obtain rfl := Option.some.inj now
      rw [here] at was
      exact before (.inl ⟨key₀, ((orderly.live_iff m _ key₀).mp was).1⟩)
  | still unissued kept undrawn same =>
    rw [undrawn]
    rw [unissued, kept] at known
    rcases known with (lent | ⟨key, _, now⟩) | returned | ⟨_, now⟩
    · exact before (.inl lent)
    · cases now
    · exact before (.inr returned)
    · cases now

private theorem Orderly.use (orderly : p.Orderly) (serial : Nat) (k : ModuleCommand) :
    (p.step fs (.use serial k)).Orderly where
  kinded := orderly.kinded
  adds := orderly.adds
  sound := orderly.sound.perform fs serial k
  seated kind i built := by
    change ((p.rig.perform fs serial k).state.module? i.module).isSome = true
    rw [Rig.module?_perform]
    exact orderly.seated kind i built
  handed := orderly.handed
  live_iff := orderly.live_use fs serial k
  drawn := orderly.drawn_use fs serial k

private theorem Orderly.drift (orderly : p.Orderly) (f : World φ → World φ) (drawn : Nat) :
    (p.step fs (.drift f drawn)).Orderly where
  kinded := orderly.kinded
  adds := orderly.adds
  sound m x found := by
    obtain ⟨leases, old⟩ := orderly.sound m x found
    exact ⟨leases.mono (Nat.le_add_right _ _), old⟩
  seated := orderly.seated
  handed := orderly.handed
  live_iff := orderly.live_iff
  drawn m h known := Nat.lt_add_right _ (orderly.drawn m h known)

private theorem Orderly.step (orderly : p.Orderly) (i : Incident φ) : (p.step fs i).Orderly := by
  cases i with
  | demand d => exact orderly.demand fs d
  | use serial k => exact orderly.use fs serial k
  | drift f drawn => exact orderly.drift fs f drawn

private theorem Orderly.run (orderly : p.Orderly) (incidents : List (Incident φ)) :
    (p.run fs incidents).Orderly := by
  induction incidents generalizing p with
  | nil => exact orderly
  | cons i incidents ih => exact ih (orderly.step fs i)

/-! ### Exclusive keys -/

/-- The keys of the modules are exclusive, for everyone to whom the board ever gave a module. -/
structure Exclusive (fs : FileSystem φ F) (p : Premises φ F) : Prop where
  /-- Whoever has a module of a kind has the one that the board has, even if it is not in use. -/
  one_module : ∀ m m', p.Handed m → p.Handed m' → m.kind = m'.kind →
    m = m' ∧ ∃ uses, p.board.installed.get? m.kind = some ⟨m, uses⟩
  there : ∀ m, p.Handed m → (p.rig.module? m).isSome = true
  one_handle : ∀ m h h' key, p.Live m h key → p.Live m h' key → h = h'
  one_key : ∀ m h key key', p.Live m h key → p.Live m h key' → key = key'
  /-- A handle is good for everyone who has the module until it is taken back. -/
  known : ∀ m m' h k, p.Handed m → p.Handed m' → m.kind = m'.kind → k.kind = m.kind →
    k.handle? = some h → ((p.rig.perform fs m'.serial k).answer = .error (.unknownHandle h) ↔
      ¬ ∃ key, p.Live m h key)
  /-- A key that has a live handle is refused, whoever asks, and no other is. -/
  busy_iff : ∀ m m' k key, p.Handed m → p.Handed m' → m.kind = m'.kind → k.kind = m.kind →
    k.key? = some key →
      ((∃ module n, (p.rig.perform fs m'.serial k).answer = .error (.alreadyRequested module n)) ↔
        k.Legal ∧ ∃ h, p.Live m h key)
  busy : ∀ m k h key, p.Handed m → k.kind = m.kind → k.key? = some key → k.Legal →
    p.Live m h key →
      (p.rig.perform fs m.serial k).answer = .error (.alreadyRequested m.kind.name key.toNat) ∧
        (p.rig.perform fs m.serial k).state.world = p.rig.world
  /-- A pulse longer than its period is refused first. -/
  illegal : ∀ m k key, p.Handed m → k.kind = m.kind → k.key? = some key → ¬ k.Legal →
    (∃ message, (p.rig.perform fs m.serial k).answer = .error (.invalidArgument message)) ∧
      (p.rig.perform fs m.serial k).state.world = p.rig.world

private theorem Orderly.exclusive (orderly : p.Orderly) : Exclusive fs p := by
  have seat (m : ModuleRef) (handed : p.Handed m) : ∃ x, p.rig.module? m = some x := by
    obtain ⟨uses, built⟩ := orderly.handed m handed
    exact Option.isSome_iff_exists.mp (orderly.seated _ _ built)
  have same (m m' : ModuleRef) (handed : p.Handed m) (handed' : p.Handed m')
      (kinds : m.kind = m'.kind) : m = m' := by
    obtain ⟨uses, built⟩ := orderly.handed m handed
    obtain ⟨uses', built'⟩ := orderly.handed m' handed'
    rw [kinds, built'] at built
    exact (Installed.mk.inj (Option.some.inj built)).1.symm
  have held (m : ModuleRef) (key : UInt32) :
      (∃ h, p.rig.keyOf? m h = some key) ↔ ∃ h, p.Live m h key :=
    exists_congr fun h => orderly.live_iff m h key
  constructor
  · intro m m' handed handed' kinds
    exact ⟨same m m' handed handed' kinds, orderly.handed m handed⟩
  · intro m handed
    exact Option.isSome_iff_exists.mpr (seat m handed)
  · intro m h h' key live live'
    exact orderly.sound.handle_unique ((orderly.live_iff m h key).mpr live)
      ((orderly.live_iff m h' key).mpr live')
  · intro m h key key' live live'
    have held := (orderly.live_iff m h key).mpr live
    have held' := (orderly.live_iff m h key').mpr live'
    exact Option.some.inj (held.symm.trans held')
  · intro m m' h k handed handed' kinds own about
    obtain rfl := same m m' handed handed' kinds
    obtain ⟨x, present⟩ := seat m handed
    rw [Rig.unknown_iff fs present own about, Option.eq_none_iff_forall_ne_some, not_exists]
    exact forall_congr' fun key => not_congr (orderly.live_iff m h key)
  · intro m m' k key handed handed' kinds own asked
    obtain rfl := same m m' handed handed' kinds
    obtain ⟨x, present⟩ := seat m handed
    rw [(Rig.request_verdict fs orderly.sound present own asked).1, held]
  · intro m k h key handed own asked legal live
    obtain ⟨x, present⟩ := seat m handed
    exact (Rig.request_verdict fs orderly.sound present own asked).2.1 legal
      ((held m key).mpr ⟨h, live⟩)
  · intro m k key handed own asked illegal
    obtain ⟨x, present⟩ := seat m handed
    exact (Rig.request_verdict fs orderly.sound present own asked).2.2 illegal

end Premises

/-- From the board of any configuration on, in any world and from any first handle, through demands at
the board, commands to any module by anyone who has it, and changes of the world, the keys of modules
stay exclusive, also while the board counts no use of the module. -/
theorem keys_exclusive_across_uses {φ F : Type} (fs : FileSystem φ F) (c : Configuration) (s : φ)
    (b : Board (Rig φ F)) (described : (Board.ofConfiguration fs c s).answer = .ok b)
    (world : World φ) (counter : Nat) (incidents : List (Incident φ)) :
    Premises.Exclusive fs ((Premises.start b world counter).run fs incidents) := by
  have unused := Board.unused_ofConfiguration described
  obtain ⟨platform, rfl⟩ := Board.eq_ofPlatform described
  have start := Premises.orderly_start unused.bare unused.kinded (Board.adds_ofPlatform c platform)
    world counter
  exact (start.run fs incidents).exclusive fs

/-- An output outlives the last use of its module: its key stays busy for the old and the new holders
of the module, and becomes free when anyone gives its handle back. -/
theorem output_outlives_last_use :
    let fs := Shelf.fileSystem
    let c : Configuration :=
      { board := { model := some "ARTIK 530" }, pwm := { backing := some .mock } }
    let b : Board (Rig Shelf (Path × Nat)) := Board.ofPlatform c .artik530
    let m : ModuleRef := ⟨.pwm, 0⟩
    let fan : Pwm.Config := ⟨3, "fan", 1000, 400, .normal⟩
    let overlong : Pwm.Config := ⟨3, "fan", 400, 1000, .normal⟩
    let incidents : List (Incident Shelf) :=
      [.demand (.request "pwm"), .use 0 (.pwm (.request fan)), .demand (.release m),
        .use 0 (.pwm (.request fan)), .use 0 (.pwm (.request overlong)),
        .demand (.requestKind .pwm), .use 0 (.pwm (.request fan)), .use 0 (.pwm (.release ⟨1⟩)),
        .use 0 (.pwm (.request fan))]
    let p := (Premises.start b { files := {} } 1).run fs incidents
    let busy : Except Fault ModuleAnswer := .error (.alreadyRequested "pwm" 3)
    (Board.ofConfiguration fs c {}).answer = .ok b ∧ Premises.Exclusive fs p ∧
      p.demands.map Prod.snd = [.ok (.granted m), .ok .returned, .ok (.granted m)] ∧
      p.uses.map Use.answer = [.ok (.pwm (.granted ⟨1⟩)), busy,
        .error (.invalidArgument "duty cycle 1000 ns exceeds period 400 ns"), busy,
        .ok (.pwm .done), .ok (.pwm (.granted ⟨2⟩))] := by
  intro fs c b m fan overlong incidents p busy
  have described : (Board.ofConfiguration fs c {}).answer = .ok b := by
    have valid : c.validate = .ok () := by decide +kernel
    have model : Platform.ofModel "ARTIK 530" = .artik530 := by decide +kernel
    simp only [Board.ofConfiguration, Action.bind_apply, Action.ofExcept, valid, Platform.resolve,
      Action.pure_apply, c, model]
    rfl
  refine ⟨described, keys_exclusive_across_uses fs c {} b described _ _ incidents, ?_, ?_⟩
  · decide +kernel
  · decide +kernel

end Peripherals
