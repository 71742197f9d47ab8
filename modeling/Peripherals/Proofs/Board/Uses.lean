import Peripherals.Board.Configured
import Peripherals.Proofs.Board.Watched
/-!
The uses of modules, through runs of demands at a board while the state in which modules are built
moves on. Main statement: the uses of a kind are its granted requests less its returned modules, every
module is built once, and a demand that is refused changes nothing.
-/

set_option autoImplicit false

namespace Peripherals.Board

variable {τ : Type}

/-! ### Runs -/

/-- What happens at a board: a demand, or the state in which modules are built moves on. -/
inductive Move (τ : Type) where
  | demand (d : Demand)
  | drift (f : τ → τ)

def Move.watched : Move τ → Move (τ × Builds)
  | .demand d => .demand d
  | .drift f => .drift fun p => (f p.1, p.2)

/-- The demands of a run, each with its answer, the oldest first. -/
abbrev History := List (Demand × Except Fault Answer)

def play (s : Board τ × τ) : List (Move τ) → History × (Board τ × τ)
  | [] => ([], s)
  | .demand d :: moves =>
    let r := perform d s
    let (history, last) := play r.state moves
    ((d, r.answer) :: history, last)
  | .drift f :: moves => play (s.1, f s.2) moves

def History.grants (history : History) (kind : ModuleKind) : Nat :=
  history.countP fun e => e.1.wanted? = some kind ∧ e.2.isOk = true

def History.returns (history : History) (kind : ModuleKind) : Nat :=
  history.countP fun e => e.1.given? = some kind ∧ e.2.isOk = true

private theorem play_kinded {s : Board τ × τ} (kinded : s.1.Kinded) (moves : List (Move τ)) :
    (play s moves).2.1.Kinded := by
  induction moves generalizing s with
  | nil => exact kinded
  | cons move moves ih =>
    cases move with
    | demand d => exact ih ((course kinded d).kinded kinded)
    | drift f => exact ih (s := (s.1, f s.2)) kinded

private theorem play_offers {s : Board τ × τ} (kinded : s.1.Kinded) (moves : List (Move τ)) :
    (play s moves).2.1.offers = s.1.offers := by
  induction moves generalizing s with
  | nil => rfl
  | cons move moves ih =>
    cases move with
    | demand d =>
      have step := course kinded d
      exact (ih (step.kinded kinded)).trans step.offers_eq
    | drift f => exact ih (s := (s.1, f s.2)) kinded

private theorem play_useCount {s : Board τ × τ} (kinded : s.1.Kinded) (moves : List (Move τ))
    (kind : ModuleKind) : (play s moves).2.1.useCount kind + (play s moves).1.returns kind =
      s.1.useCount kind + (play s moves).1.grants kind := by
  induction moves generalizing s with
  | nil => rfl
  | cons move moves ih =>
    cases move with
    | demand d =>
      have step := course kinded d
      have counts := step.useCount kind
      have rest := ih (step.kinded kinded)
      simp only [play, History.returns, History.grants, List.countP_cons,
        decide_eq_true_eq] at rest ⊢
      omega
    | drift f => exact ih (s := (s.1, f s.2)) kinded

private theorem play_stays {s : Board τ × τ} (kinded : s.1.Kinded) (moves : List (Move τ))
    {kind : ModuleKind} {m : ModuleRef} {uses : Nat}
    (built : s.1.installed.get? kind = some ⟨m, uses⟩) :
    ∃ uses', (play s moves).2.1.installed.get? kind = some ⟨m, uses'⟩ := by
  induction moves generalizing s uses with
  | nil => exact ⟨uses, built⟩
  | cons move moves ih =>
    cases move with
    | demand d =>
      have step := course kinded d
      obtain ⟨uses', built'⟩ := step.stays built
      exact ih (step.kinded kinded) built'
    | drift f => exact ih (s := (s.1, f s.2)) kinded built

private theorem play_granted {s : Board τ × τ} (kinded : s.1.Kinded) (moves : List (Move τ))
    {d : Demand} {m : ModuleRef} (granted : (d, .ok (.granted m)) ∈ (play s moves).1) :
    d.wanted? = some m.kind ∧
      ∃ uses, (play s moves).2.1.installed.get? m.kind = some ⟨m, uses⟩ := by
  induction moves generalizing s with
  | nil => cases granted
  | cons move moves ih =>
    cases move with
    | demand d' =>
      have step := course kinded d'
      rcases List.mem_cons.mp granted with now | later
      · obtain ⟨rfl, answer⟩ := Prod.mk.inj now
        rw [← answer] at step
        obtain ⟨wanted, uses, built⟩ := step.granted kinded
        exact ⟨wanted, play_stays (step.kinded kinded) moves built⟩
      · exact ih (step.kinded kinded) later
    | drift f => exact ih (s := (s.1, f s.2)) kinded granted

private theorem play_one_instance {s : Board τ × τ} (kinded : s.1.Kinded) (moves : List (Move τ))
    {d d' : Demand} {m m' : ModuleRef} (granted : (d, .ok (.granted m)) ∈ (play s moves).1)
    (granted' : (d', .ok (.granted m')) ∈ (play s moves).1) (wanted : d.wanted? = d'.wanted?) :
    m = m' := by
  obtain ⟨asked, uses, found⟩ := play_granted kinded moves granted
  obtain ⟨asked', uses', found'⟩ := play_granted kinded moves granted'
  have kinds : m.kind = m'.kind := by
    rw [asked, asked'] at wanted
    exact Option.some.inj wanted
  rw [kinds, found'] at found
  exact (Installed.mk.inj (Option.some.inj found)).1.symm

private theorem useCount_of_bare {b : Board τ} (bare : b.installed = ∅) (kind : ModuleKind) :
    b.useCount kind = 0 := by
  rw [useCount, bare]
  rfl

/-! ### Runs of watched boards -/

private theorem play_watched (b : Board τ) (t : τ) (log : Builds) (moves : List (Move τ)) :
    ∃ log', play (b.watched, (t, log)) (moves.map Move.watched) =
      ((play (b, t) moves).1,
        ((play (b, t) moves).2.1.watched, ((play (b, t) moves).2.2, log'))) := by
  induction moves generalizing b t log with
  | nil => exact ⟨log, rfl⟩
  | cons move moves ih =>
    cases move with
    | demand d =>
      obtain ⟨log', step⟩ := follows_perform d b t log
      obtain ⟨log'', rest⟩ := ih (perform d (b, t)).state.1 (perform d (b, t)).state.2 log'
      refine ⟨log'', ?_⟩
      simp only [List.map_cons, Move.watched, play, step, rest]
    | drift f => exact ih b (f t) log

private theorem Kinded.watched {b : Board τ} (kinded : b.Kinded) : b.watched.Kinded where
  offers kind o offered p := by
    rw [offers_watched] at offered
    obtain ⟨o', offered', rfl⟩ := Option.map_eq_some_iff.mp offered
    exact kinded.offers kind o' offered' p.1
  installed := kinded.installed

/-- Every build is written down, and for every kind just the module that is there is. -/
structure Filed (s : Board (τ × Builds) × (τ × Builds)) : Prop where
  logs : ∀ kind o, s.1.offers.get? kind = some o →
    ∀ p, (o.build p).2.2 = p.2 ++ [(kind, (o.build p).1)]
  files : ∀ kind, s.2.2.filter (fun e => e.1 = kind) =
    ((s.1.installed.get? kind).map fun i => (kind, i.module)).toList

private theorem Filed.step {s s' : Board (τ × Builds) × (τ × Builds)} {d : Demand}
    {answer : Except Fault Answer} (filed : Filed s) (course : Course s d answer s') :
    Filed s' := by
  refine ⟨fun kind o offered => filed.logs kind o (course.offers_eq ▸ offered), fun kind => ?_⟩
  -- Only a first request builds; all else leaves every module in its place.
  have reseated {kind' : ModuleKind} {i j : Installed}
      (built : s.1.installed.get? kind' = some i) (same : j.module = i.module) :
      s.2.2.filter (fun e => e.1 = kind) =
        (((s.1.seat kind' j).installed.get? kind).map fun i => (kind, i.module)).toList := by
    rw [filed.files kind, installed_seat]
    split
    · next here => rw [here, built, Option.map_some, Option.map_some, same]
    · rfl
  cases course with
  | absent | refused => exact filed.files kind
  | @first _ kind' o wanted offered unbuilt =>
    have before := filed.files kind
    change ((o.build s.2).2.2.filter fun e => e.1 = kind) = _
    rw [filed.logs kind' o offered, List.filter_append, before, installed_seat]
    by_cases same : kind = kind'
    · subst same
      simp [unbuilt]
    · simp [same, Ne.symm same]
  | again wanted offered built => exact reseated built rfl
  | returned used => exact reseated used rfl

private theorem Filed.play {s : Board (τ × Builds) × (τ × Builds)} (filed : Filed s)
    (kinded : s.1.Kinded) (moves : List (Move τ)) :
    Filed (Board.play s (moves.map Move.watched)).2 := by
  induction moves generalizing s with
  | nil => exact filed
  | cons move moves ih =>
    cases move with
    | demand d =>
      have step := course kinded d
      exact ih (filed.step step) (step.kinded kinded)
    | drift f =>
      have drifted : Filed (s.1, (f s.2.1, s.2.2)) := ⟨filed.logs, filed.files⟩
      exact ih drifted kinded

private theorem filed_watched {b : Board τ} (bare : b.installed = ∅) (t : τ) :
    Filed (b.watched, (t, [])) where
  logs kind o offered p := by
    have offered' : b.watched.offers.get? kind = some o := offered
    rw [offers_watched] at offered'
    obtain ⟨o', _, rfl⟩ := Option.map_eq_some_iff.mp offered'
    rfl
  files kind := by
    have nothing : b.watched.installed.get? kind = none := by
      change b.installed.get? kind = none
      rw [bare]
      rfl
    change [] = ((b.watched.installed.get? kind).map _).toList
    rw [nothing]
    rfl

private theorem Filed.mem_iff {s : Board (τ × Builds) × (τ × Builds)} (filed : Filed s)
    {kind : ModuleKind} {m : ModuleRef} :
    (kind, m) ∈ s.2.2 ↔ ∃ uses, s.1.installed.get? kind = some ⟨m, uses⟩ := by
  have listed : (kind, m) ∈ s.2.2 ↔ (kind, m) ∈ s.2.2.filter fun e => e.1 = kind := by
    simp [List.mem_filter]
  rw [listed, filed.files kind, Option.mem_toList, Option.map_eq_some_iff]
  constructor
  · rintro ⟨⟨_, uses⟩, found, pair⟩
    obtain ⟨_, rfl⟩ := Prod.mk.inj pair
    exact ⟨uses, found⟩
  · rintro ⟨uses, found⟩
    exact ⟨⟨m, uses⟩, found, rfl⟩

private theorem Filed.length_le_one {s : Board (τ × Builds) × (τ × Builds)} (filed : Filed s)
    (kind : ModuleKind) : (s.2.2.filter fun e => e.1 = kind).length ≤ 1 := by
  rw [filed.files kind]
  cases (s.1.installed.get? kind).map fun i => (kind, i.module) <;> simp

/-! ### Boards from a configuration -/

section Configured

variable {φ F : Type}

/-- The offer builds modules of one kind, each under a serial number that was not used before. -/
def Draws (kind : ModuleKind) (o : Offer (Rig φ F)) : Prop :=
  ∀ r, (o.build r).1 = ⟨kind, r.nextSerial⟩ ∧ (o.build r).2.nextSerial = r.nextSerial + 1

private theorem draws_adcOffer? {c : Configuration} {backing : Backing} {o : Offer (Rig φ F)}
    (offered : adcOffer? c backing = some o) : Draws .adc o := by
  cases backing with
  | disabled => cases offered
  | sysfs | tizenrt | mock =>
    obtain rfl := Option.some.inj offered
    exact fun _ => ⟨rfl, rfl⟩

private theorem draws_gpioOffer? {c : Configuration} {backing : Backing} {o : Offer (Rig φ F)}
    (offered : gpioOffer? c backing = some o) : Draws .gpio o := by
  cases backing with
  | tizenrt | disabled => cases offered
  | sysfs | mock =>
    obtain rfl := Option.some.inj offered
    exact fun _ => ⟨rfl, rfl⟩

private theorem draws_pwmOffer? {c : Configuration} {backing : Backing} {o : Offer (Rig φ F)}
    (offered : pwmOffer? c backing = some o) : Draws .pwm o := by
  cases backing with
  | tizenrt | disabled => cases offered
  | sysfs | mock =>
    obtain rfl := Option.some.inj offered
    exact fun _ => ⟨rfl, rfl⟩

private theorem offers_offer? {τ : Type} {b : Board τ} {P : ModuleKind → Offer τ → Prop}
    (all : ∀ kind o, b.offers.get? kind = some o → P kind o) {kind : ModuleKind}
    {o? : Option (Offer τ)} (new : ∀ o, o? = some o → P kind o) {kind' : ModuleKind} {o : Offer τ}
    (offered : (b.offer? kind o?).offers.get? kind' = some o) : P kind' o := by
  cases o? with
  | none => exact all kind' o offered
  | some o' =>
    change (b.offers.put kind o').get? kind' = some o at offered
    rw [Assoc.get?_put] at offered
    by_cases same : kind' = kind
    · rw [if_pos same] at offered
      rw [same, ← Option.some.inj offered]
      exact new o' rfl
    · rw [if_neg same] at offered
      exact all kind' o offered

theorem offers_ofPlatform {c : Configuration} {P : ModuleKind → Offer (Rig φ F) → Prop}
    (adc : ∀ {backing o}, adcOffer? c backing = some o → P .adc o)
    (gpio : ∀ {backing o}, gpioOffer? c backing = some o → P .gpio o)
    (pwm : ∀ {backing o}, pwmOffer? c backing = some o → P .pwm o) (platform : Platform) :
    ∀ kind o, (ofPlatform c platform).offers.get? kind = some o → P kind o := by
  have bare (kind : ModuleKind) (o : Offer (Rig φ F))
      (offered : ({ platform } : Board (Rig φ F)).offers.get? kind = some o) : P kind o :=
    nomatch (offered : (none : Option (Offer (Rig φ F))) = some o)
  intro kind o offered
  exact offers_offer? (fun _ _ => offers_offer? (fun _ _ => offers_offer? bare fun _ => adc)
    fun _ => gpio) (fun _ => pwm) offered

private theorem installed_offer? {τ : Type} (b : Board τ) (kind : ModuleKind) (o? : Option (Offer τ)) :
    (b.offer? kind o?).installed = b.installed := by
  cases o? <;> rfl

/-- Nothing was built yet, and every offer draws. -/
structure Unused (b : Board (Rig φ F)) : Prop where
  bare : b.installed = ∅
  draws : ∀ kind o, b.offers.get? kind = some o → Draws kind o

theorem unused_ofPlatform (c : Configuration) (platform : Platform) :
    (ofPlatform c platform : Board (Rig φ F)).Unused where
  bare := by
    unfold ofPlatform
    simp only [installed_offer?]
  draws := offers_ofPlatform draws_adcOffer? draws_gpioOffer? draws_pwmOffer? platform

theorem eq_ofPlatform {fs : FileSystem φ F} {c : Configuration} {s : φ} {b : Board (Rig φ F)}
    (answer : (ofConfiguration fs c s).answer = .ok b) : ∃ platform, b = ofPlatform c platform := by
  simp only [ofConfiguration, Action.bind_apply] at answer
  split at answer
  · cases answer
  · split at answer
    · cases answer
    · obtain rfl := Except.ok.inj answer
      exact ⟨_, rfl⟩

theorem unused_ofConfiguration {fs : FileSystem φ F} {c : Configuration} {s : φ}
    {b : Board (Rig φ F)} (answer : (ofConfiguration fs c s).answer = .ok b) : b.Unused := by
  obtain ⟨platform, rfl⟩ := eq_ofPlatform answer
  exact unused_ofPlatform c platform

theorem Unused.kinded {b : Board (Rig φ F)} (unused : b.Unused) : b.Kinded where
  offers kind o offered r := by rw [(unused.draws kind o offered r).1]
  installed kind i found := by
    rw [unused.bare] at found
    cases found

end Configured

/-! ### The uses of modules -/

/-- The uses of all modules are exact after a run with this history, in which these modules were
built. -/
structure Exact (s : Board τ × τ) (history : History) (builds : Builds) : Prop where
  /-- Every granted request is a use until a module of its kind is given back. -/
  count : ∀ kind, s.1.useCount kind + history.returns kind = history.grants kind
  built_once : ∀ kind, (builds.filter fun e => e.1 = kind).length ≤ 1
  granted : ∀ d m, (d, .ok (.granted m)) ∈ history →
    d.wanted? = some m.kind ∧ (m.kind, m) ∈ builds
  one_instance : ∀ d d' m m', (d, .ok (.granted m)) ∈ history →
    (d', .ok (.granted m')) ∈ history → d.wanted? = d'.wanted? → m = m'
  request_iff : ∀ name,
    ((perform (.request name) s).answer.isOk = true ↔ s.1.isAvailable name = true) ∧
      (s.1.isAvailable name = true ↔ ∃ kind ∈ s.1.available, kind.name = name)
  requestKind_iff : ∀ kind,
    (perform (.requestKind kind) s).answer.isOk = true ↔ kind ∈ s.1.available
  /-- Just a module in use that the board itself built is taken back. -/
  release_iff : ∀ m, (perform (.release m) s).answer.isOk = true ↔
    0 < s.1.useCount m.kind ∧ (m.kind, m) ∈ builds
  release_ok : ∀ m, (perform (.release m) s).answer.isOk = true → ∀ kind,
    (perform (.release m) s).state.1.useCount kind + (if kind = m.kind then 1 else 0) =
      s.1.useCount kind
  refused : ∀ d f, (perform d s).answer = .error f → (perform d s).state = s

/-- A board whose offers build modules of their kinds, from the time when nothing is built yet, counts
the uses of every kind exactly, through requests by any name or kind, returns of any module and changes
of the state in which modules are built. What it offers stays the same. Boards from a configuration
are such boards, and no module that one builds was built before. The builds are those of a watched
board, which differs in nothing else. -/
theorem module_uses_exact :
    (∀ {τ : Type} (b : Board τ) (t : τ), b.installed = ∅ → b.Kinded → ∀ moves : List (Move τ),
      let run := play (b, t) moves
      let watched := play (b.watched, (t, [])) (moves.map Move.watched)
      Exact run.2 run.1 watched.2.2.2 ∧ run.2.1.available = b.available ∧
        watched = (run.1, (run.2.1.watched, (run.2.2, watched.2.2.2)))) ∧
    ∀ {φ F : Type} (fs : FileSystem φ F) (c : Configuration) (s : φ) (b : Board (Rig φ F)),
      (ofConfiguration fs c s).answer = .ok b → b.installed = ∅ ∧ b.Kinded ∧
        ∀ kind o, b.offers.get? kind = some o → ∀ r, (o.build r).1 = ⟨kind, r.nextSerial⟩ ∧
          (o.build r).2.nextSerial = r.nextSerial + 1 := by
  refine ⟨fun b t bare kinds moves => ?_, fun fs c s b answer => ?_⟩
  · intro run watched
    have same : watched = (run.1, (run.2.1.watched, (run.2.2, watched.2.2.2))) := by
      obtain ⟨log, play_eq⟩ := play_watched b t [] moves
      exact play_eq.trans (by rw [show watched = _ from play_eq])
    have kinded : run.2.1.Kinded := play_kinded kinds moves
    have filed : Filed watched.2 := (filed_watched bare t).play kinds.watched moves
    have built_iff {kind : ModuleKind} {m : ModuleRef} : (kind, m) ∈ watched.2.2.2 ↔
        ∃ uses, run.2.1.installed.get? kind = some ⟨m, uses⟩ := by
      have board : watched.2.1 = run.2.1.watched := congrArg (fun w => w.2.1) same
      have listed : (kind, m) ∈ watched.2.2.2 ↔ _ := filed.mem_iff
      rw [board] at listed
      exact listed
    have offers : run.2.1.offers = b.offers := play_offers (s := (b, t)) kinds moves
    have exact : Exact run.2 run.1 watched.2.2.2 := {
      count := fun kind => by
        have counts := play_useCount (s := (b, t)) kinds moves kind
        rw [useCount_of_bare bare kind, Nat.zero_add] at counts
        exact counts
      built_once := filed.length_le_one
      granted := fun d m member => by
        obtain ⟨wanted, built⟩ := play_granted kinds moves member
        exact ⟨wanted, built_iff.mpr built⟩
      one_instance := fun d d' m m' member member' wanted =>
        play_one_instance kinds moves member member' wanted
      request_iff := fun name =>
        ⟨request_isOk_iff kinded name, isAvailable_iff_name run.2.1 name⟩
      requestKind_iff := requestKind_isOk_iff kinded
      release_iff := fun m => by
        rw [built_iff]
        exact release_isOk_iff kinded m
      release_ok := fun m ok kind => useCount_release kinded ok kind
      refused := fun d f failed => by
        have step := course kinded d
        rw [failed] at step
        exact step.of_error }
    refine ⟨exact, ?_, same⟩
    simp only [available, offers]
  · have unused := unused_ofConfiguration answer
    exact ⟨unused.bare, unused.kinded, unused.draws⟩

/-- A simulated board hands out the same module again after all its uses were given back, and refuses
the module of another board and one return too many. -/
theorem uses_of_simulated_lines :
    let b : Board (Rig Unit Unit) := ofPlatform { gpio := { backing := some .mock } } .generic
    let rig : Rig Unit Unit := { world := { files := () } }
    let own : ModuleRef := ⟨.gpio, 0⟩
    let foreign : ModuleRef := ⟨.gpio, 1⟩
    let moves : List (Move (Rig Unit Unit)) :=
      [.demand (.request "gpio"), .drift fun r => (r.addGpio fun serial => .simulated serial).2,
        .demand (.release foreign), .demand (.requestKind .gpio), .demand (.release own),
        .demand (.release own), .demand (.release own), .demand (.request "gpio")]
    let run := play (b, rig) moves
    let watched := play (b.watched, (rig, [])) (moves.map Move.watched)
    (b.installed = ∅ ∧ b.Kinded) ∧ Exact run.2 run.1 watched.2.2.2 ∧
      run.1.map Prod.snd = [.ok (.granted own), .error (.moduleNotRequested "gpio"),
        .ok (.granted own), .ok .returned, .ok .returned, .error (.moduleNotRequested "gpio"),
        .ok (.granted own)] ∧
      watched.2.2.2 = [(.gpio, own)] := by
  intro b rig own foreign moves
  have unused : b.Unused := unused_ofPlatform _ _
  have uses := module_uses_exact.1 b rig unused.bare unused.kinded moves
  refine ⟨⟨unused.bare, unused.kinded⟩, uses.1, ?_, ?_⟩
  · decide +kernel
  · decide +kernel

end Peripherals.Board
