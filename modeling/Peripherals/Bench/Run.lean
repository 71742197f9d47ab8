import Peripherals.Bench.Step
/-!
Running scripts: what each step does to a bench.
-/

set_option autoImplicit false

namespace Peripherals.Bench

open FileTree (fileSystem)

def readDocument {α : Type} (read : Json → Json.Read α) (v : Json) : Work α :=
  Action.ofExcept ((read v).mapError .misread)

def Order.adcConfig : Order → Work Adc.Config
  | .document v => readDocument (Adc.Config.read Json.format) v
  | .adc c => return c
  | _ => Action.fail .misfit

def readEdge (v : Json) : Work Gpio.Edge :=
  readDocument (Gpio.Edge.read Json.format) v

def readPolarity (v : Json) : Work Pwm.Polarity :=
  readDocument (Pwm.Polarity.read Json.format) v

def readKind (v : Json) : Work ModuleKind :=
  readDocument (Json.format.oneOf "module" ModuleKind.all ModuleKind.name .adc) v

def readPlatform (v : Json) : Work Platform :=
  readDocument (Json.format.oneOf "platform" Platform.all Platform.identifier .generic) v

def Order.gpioConfig : Order → Work Gpio.Config
  | .document v => readDocument (Gpio.Config.read Json.format) v
  | .gpio c none => return c
  | .gpio c (some v) => c.withEdge <$> readEdge v
  | _ => Action.fail .misfit

def Order.pwmConfig : Order → Work Pwm.Config
  | .document v => readDocument (Pwm.Config.read Json.format) v
  | .pwm c none => return c
  | .pwm c (some v) => c.withPolarity <$> readPolarity v
  | _ => Action.fail .misfit

section Modules

def requestFrom (m : ModuleRef) (o : Order) : Work Handle :=
  match m.kind with
  | .adc => do
    let c ← o.adcConfig
    onRig (Rig.onAdc fileSystem m.serial fun _ d => d.request c)
  | .gpio => do
    let c ← o.gpioConfig
    onRig (Rig.onGpio fileSystem m.serial fun _ d => d.request c)
  | .pwm => do
    let c ← o.pwmConfig
    onRig (Rig.onPwm fileSystem m.serial fun _ d => d.request c)

def tellAdc (serial : Nat) (c : Adc.Command) : Work Answer := do
  match ← onRig (Rig.onAdc fileSystem serial fun _ d => d.perform c) with
  | .granted h => return .granted h
  | .sample n => return .number n.toInt
  | .config c => return .document c.toJson
  | .done => return .done

def tellGpio (serial : Nat) (c : Gpio.Command) : Work Answer := do
  match ← onRig (Rig.onGpio fileSystem serial fun _ d => d.perform c) with
  | .granted h => return .granted h
  | .level b => return .flag b
  | .name s => return .text s
  | .direction d => return .text d.name
  | .line n => return .number n.toNat
  | .done => return .done

def tellPwm (serial : Nat) (c : Pwm.Command) : Work Answer := do
  match ← onRig (Rig.onPwm fileSystem serial fun _ d => d.perform c) with
  | .granted h => return .granted h
  | .config c => return .document c.toJson
  | .enabled b => return .flag b
  | .done => return .done

def callPwm (serial : Nat) (h : Handle) : Call → Work Answer
  | .enable => tellPwm serial (.enable h)
  | .disable => tellPwm serial (.disable h)
  | .setPeriod n => tellPwm serial (.setPeriod h n)
  | .setDuty n => tellPwm serial (.setDuty h n)
  | .setPolarity v => do
    let p ← readPolarity v
    tellPwm serial (.setPolarity h p)
  | .config => tellPwm serial (.config h)
  | .isEnabled => tellPwm serial (.isEnabled h)
  | .release => tellPwm serial (.release h)
  | _ => Action.fail .misfit

def callModule (m : ModuleRef) (h : Handle) (c : Call) : Work Answer :=
  match m.kind, c with
  | .adc, .value => tellAdc m.serial (.value h)
  | .adc, .release => tellAdc m.serial (.release h)
  | .adc, .config => tellAdc m.serial (.config h)
  | .gpio, .release => tellGpio m.serial (.release h)
  | .gpio, .level => tellGpio m.serial (.level h)
  | .gpio, .drive b => tellGpio m.serial (.drive h b)
  | .gpio, .name => tellGpio m.serial (.name h)
  | .gpio, .direction => tellGpio m.serial (.direction h)
  | .gpio, .number => tellGpio m.serial (.line h)
  | .pwm, c => callPwm m.serial h c
  | _, _ => Action.fail .misfit

/-- Builds a module and a way to look into its backend. -/
def build (p : Plan) : Rig FileTree FileTree.OpenFile →
    (ModuleRef × Probe) × Rig FileTree FileTree.OpenFile := fun r =>
  match p with
  | .adc backend =>
    let probe := match backend r.nextSerial with
      | .simulated n _ => Probe.bank n
      | .recorded n => .recorder n
      | _ => .quiet
    let (m, r) := r.addAdc backend
    ((m, probe), r)
  | .gpio backend =>
    let probe := match backend r.nextSerial with
      | .simulated n => Probe.lines n
      | .recorded n => .recorder n
      | _ => .quiet
    let (m, r) := r.addGpio backend
    ((m, probe), r)
  | .pwm backend =>
    let probe := match backend r.nextSerial with
      | .simulated n => Probe.outputs n
      | .recorded n => .recorder n
      | _ => .quiet
    let (m, r) := r.addPwm backend
    ((m, probe), r)

end Modules

section Pins

/-- Requests a resource and keeps it as an owned pin. -/
def ownFrom (m : ModuleRef) (store : String) (o : Order) : Work Answer := do
  match m.kind with
  | .adc =>
    let c ← o.adcConfig
    let h ← requestFrom m (.adc c)
    putPin store (.adc m.serial ⟨h, c, false⟩)
    Action.modify fun b => { b with handles := b.handles.put store h }
  | .gpio =>
    let c ← o.gpioConfig
    let h ← requestFrom m (.gpio c none)
    putPin store (.gpio m.serial ⟨h, c, false⟩)
  | .pwm =>
    let c ← o.pwmConfig
    let h ← requestFrom m (.pwm c none)
    putPin store (.pwm m.serial ⟨h, ⟨c, false⟩, false⟩)
  return .done

def releasePin (name : String) (x : Pin) : Work Answer := do
  let x ← match x with
    | .adc n x => .adc n <$> onRig (Rig.onAdc fileSystem n fun _ d => x.release d.device)
    | .gpio n x => .gpio n <$> onRig (Rig.onGpio fileSystem n fun _ d => x.release d.device)
    | .pwm n x => .pwm n <$> onRig (Rig.onPwm fileSystem n fun _ d => x.release d.device)
  Action.modify fun b => { b with pins := b.pins.put name x }
  return .done

def callPin (name : String) (x : Pin) (c : Call) : Work Answer :=
  match x, c with
  | x, .release => releasePin name x
  | .adc n x, .value => tellAdc n (.value x.handle)
  | .adc _ x, .number => return .number x.settings.pin.toNat
  | .adc _ x, .name => return .text x.settings.name
  | .adc _ x, .handle => return .granted x.handle
  | .adc _ x, .label => return .text (Adc.pinLabel x)
  | .gpio n x, .level => tellGpio n (.level x.handle)
  | .gpio n x, .drive b => tellGpio n (.drive x.handle b)
  | .gpio _ x, .number => return .number x.settings.line.toNat
  | .gpio _ x, .name => return .text x.settings.name
  | .gpio _ x, .direction => return .text x.settings.direction.name
  | .gpio _ x, .label => return .text (Gpio.pinLabel x)
  | .pwm _ x, .number => return .number x.settings.config.pin.toNat
  | .pwm _ x, .label => return .text (Pwm.pinLabel x)
  | .pwm n x, c => callPwm n x.handle c
  | _, _ => Action.fail .misfit

def adapt (name : String) (scale : Option Float) : Work Answer := do
  let x ← find (·.pins) name
  Action.modify fun b => { b with pins := b.pins.erase name }
  putAdapter name <| match x with
    | .adc n x => .scaled n ⟨x, scale.getD 1.0⟩
    | .gpio n x => .switch n ⟨x⟩
    | .pwm n x => .parameters n ⟨x⟩
  return .done

def asAdc {α : Type} (serial : Nat)
    (work : (C : Type) → Adc.Driver (World FileTree) C →
      Action Refusal (Desk (World FileTree) Adc.Config C) α) : Work α := do
  answerOf (← onRig (Rig.onAdc fileSystem serial fun C d => Action.attempt (work C d)))

def asGpio {α : Type} (serial : Nat)
    (work : (C : Type) → Gpio.Driver (World FileTree) C →
      Action Refusal (Desk (World FileTree) Gpio.Config C) α) : Work α := do
  answerOf (← onRig (Rig.onGpio fileSystem serial fun C d => Action.attempt (work C d)))

def asPwm {α : Type} (serial : Nat)
    (work : (C : Type) → Pwm.Driver (World FileTree) C →
      Action Refusal (Desk (World FileTree) Pwm.Signal C) α) : Work α := do
  answerOf (← onRig (Rig.onPwm fileSystem serial fun C d => Action.attempt (work C d)))

def useFeature (x : Adapter) (f : Feature) : Work Answer :=
  match x, f with
  | .scaled n x, .read => .real <$> asAdc n fun _ d => x.read d
  | .scaled _ x, .pin => return .number x.pin.settings.pin.toNat
  | .scaled _ x, .label => return .text x.label
  | .switch n x, .turn name on => do
    asGpio n fun _ d => x.turn d name on
    return .done
  | .switch n x, .isOn name => .flag <$> asGpio n fun _ d => x.isOn d name
  | .switch _ x, .pin => return .number x.pin.settings.line.toNat
  | .switch _ x, .label => return .text x.label
  | .parameters n x, .setValue name v => do
    asPwm n fun _ d => x.setValue d name v
    return .done
  | .parameters n x, .getValue name => .document <$> asPwm n fun _ _ => x.getValue name
  | .parameters _ x, .pin => return .number x.pin.settings.config.pin.toNat
  | .parameters _ x, .label => return .text x.label
  | _, _ => Action.fail .misfit

end Pins

section Probes

def amend {τ : Type} (l : Lens (World FileTree) τ) (f : τ → τ) : Work Answer := do
  onRig (Action.zoom (Rig.worldLens.comp l) (Action.modify f))
  return .done

def glance {τ : Type} (l : Lens (World FileTree) τ) (view : τ → Answer) : Work Answer := do
  return view (l.get (← Action.get).rig.world)

def lookAt (p : Probe) (l : Look) : Work Answer :=
  match p, l with
  | .bank n, .preset pin value => amend (World.bankLens n) (·.preset pin value)
  | .bank n, .failRead => amend (World.bankLens n) (·.armRead)
  | .bank n, .failClose => amend (World.bankLens n) (·.armClose)
  | .bank n, .openCount => glance (World.bankLens n) fun b => .number b.openCount
  | .lines n, .drive line level => amend (World.linesLens n) (·.drive line level)
  | .lines n, .level line => glance (World.linesLens n) fun s => .flag (s.level line)
  | .lines n, .openCount => glance (World.linesLens n) fun s => .number s.openCount
  | .outputs n, .output pin => glance (World.outputsLens n) fun o => .output (o.output? pin)
  | .outputs n, .openCount => glance (World.outputsLens n) fun o => .number o.openCount
  | .recorder n, .fail what skip => amend (World.recorderLens n) (·.plan what skip)
  | .recorder n, .calls sorted => do
    let calls ← onRig (Action.zoom (Rig.worldLens.comp (World.recorderLens n)) fun r =>
      let (calls, r) := r.collect
      ⟨.ok calls, [], r⟩)
    return .texts (if sorted then calls.mergeSort (· ≤ ·) else calls)
  | _, _ => Action.fail .misfit

end Probes

section Boards

def describeBoard {τ : Type} (b : Board τ) : Answer :=
  .board b.platform (ModuleKind.all.map fun k => (k, b.backend? k)) b.label

def simulatedOffer (backend : String) (kind : ModuleKind) :
    Offer (Rig FileTree FileTree.OpenFile) where
  backend := backend
  build := match kind with
    | .adc => Rig.addAdc fun n => .simulated n Adc.Bank.usualSize
    | .gpio => Rig.addGpio fun n => .simulated n
    | .pwm => Rig.addPwm fun n => .simulated n

def atBoard {α : Type} (name : String)
    (x : Action Fault (Board (Rig FileTree FileTree.OpenFile) × Rig FileTree FileTree.OpenFile) α) :
    Work α := do
  let board ← find (·.boards) name
  fun b =>
    let o := Action.mapError (Trouble.refused ∘ Refusal.fault) x (board, b.rig)
    ⟨o.answer, o.events, { b with boards := b.boards.put name o.state.1, rig := o.state.2 }⟩

def keepModule (store : String) (m : ModuleRef) : Work Answer := do
  Action.modify fun b => { b with modules := b.modules.put store m }
  return .text m.label

def callBoard (name : String) : BoardCall → Work Answer
  | .request module store => do keepModule store (← atBoard name (Board.request module))
  | .requestKind kind store => do keepModule store (← atBoard name (Board.requestKind kind))
  | .release module => do
    let _ ← find (·.boards) name
    let m ← find (·.modules) module
    atBoard name (Board.release m)
    return .done
  | .useCount kind => do
    let board ← find (·.boards) name
    return .number (board.useCount (← readKind kind))
  | .backend kind => do
    let board ← find (·.boards) name
    return .maybeText (board.backend? (← readKind kind))
  | .available => do return .texts ((← find (·.boards) name).available.map (·.name))
  | .isAvailable module => do return .flag ((← find (·.boards) name).isAvailable module)
  | .platform => do return .platform (← find (·.boards) name).platform
  | .label => do return .text (← find (·.boards) name).label

end Boards

section Channels

def openOn (p : Plan) (o : Order) (serial : Nat) : Work Channel :=
  match p with
  | .adc backend => do
    let c ← o.adcConfig
    let b := backend serial
    .adc b <$> onRig (Action.zoom Rig.worldLens ((b.driver fileSystem).claim c))
  | .gpio backend => do
    let c ← o.gpioConfig
    let b := backend serial
    .gpio b <$> onRig (Action.zoom Rig.worldLens ((b.driver fileSystem).claim c))
  | .pwm backend => do
    let c ← o.pwmConfig
    let b := backend serial
    .pwm b <$> onRig (Action.zoom Rig.worldLens ((b.driver fileSystem).claim c))

/-- Works on a channel and keeps what it has become. -/
def onChannel {C α : Type} (name : String) (channel : C) (rebuild : C → Channel)
    (x : Action Fault (World FileTree × C) α) : Work α := do
  let (answer, channel) ← onRig (Action.zoom Rig.worldLens (Action.beside channel x))
  Action.modify fun b => { b with channels := b.channels.put name (rebuild channel) }
  answerOf (answer.mapError .fault)

def channelInfo (w : World FileTree) : Channel → Option ChannelInfo
  | .adc (.iio _) c => some (.adc "iio" c.pin c.raw.path)
  | .adc (.rtos _) c => some (.adc "tizenrt" c.pin c.path)
  | .gpio (.sysfs _) c => some (.gpio "sysfs" c.line c.exported)
  | .pwm (.sysfs _) c => some (.pwm "sysfs" c.pin c.exported)
  | .pwm (.simulated n) c => some (.simulated "mock" c ((World.outputsLens n).get w).openCount)
  | _ => none

def callChannel (name : String) (x : Channel) (call : Call) : Work Answer :=
  match x, call with
  | x, .info => do
    match channelInfo (← Action.get).rig.world x with
    | some i => return .channel i
    | none => Action.fail .misfit
  | .adc b c, .value => do
    let n ← onChannel name c (.adc b) (b.driver fileSystem).read
    return .number n.toInt
  | .adc b c, .close => do
    onChannel name c (.adc b) (b.driver fileSystem).close
    return .done
  | .gpio b c, .value => .flag <$> onChannel name c (.gpio b) (b.driver fileSystem).read
  | .gpio b c, .drive level => do
    onChannel name c (.gpio b) ((b.driver fileSystem).write level)
    return .done
  | .gpio b c, .close => do
    onChannel name c (.gpio b) (b.driver fileSystem).close
    return .done
  | .pwm b c, .setRunning on => do
    onChannel name c (.pwm b) ((b.driver fileSystem).setRunning on)
    return .done
  | .pwm b c, .setPeriod n => do
    onChannel name c (.pwm b) ((b.driver fileSystem).setPeriod n)
    return .done
  | .pwm b c, .setDuty n => do
    onChannel name c (.pwm b) ((b.driver fileSystem).setDuty n)
    return .done
  | .pwm b c, .setPolarity v => do
    let p ← readPolarity v
    onChannel name c (.pwm b) ((b.driver fileSystem).setPolarity p)
    return .done
  | .pwm b c, .close => do
    onChannel name c (.pwm b) (b.driver fileSystem).close
    return .done
  | _, _ => Action.fail .misfit

end Channels

def onFiles (f : FileTree → FileTree) : Work Answer :=
  amend World.filesLens f

def perform : Step → Work Answer
  | .put e => onFiles (·.create e)
  | .remove p => onFiles (·.remove p)
  | .show p => glance World.filesLens fun t => .shown (t.show? p)
  | .tree => glance World.filesLens fun t => .tree t.listing
  | .build name p => do
    let (m, probe) ← Action.zoom rigLens fun r =>
      let (x, r) := build p r
      ⟨.ok x, [], r⟩
    Action.modify fun b =>
      { b with modules := b.modules.put name m, probes := b.probes.put name probe }
    return .done
  | .request module store o => do
    let m ← find (·.modules) module
    let h ← requestFrom m o
    Action.modify fun b => { b with handles := b.handles.put store h }
    return .granted h
  | .call module handle c => do
    let m ← find (·.modules) module
    let h ← find (·.handles) handle
    callModule m h c
  | .count module => do
    let m ← find (·.modules) module
    return .number ((← Action.get).rig.activeCount m)
  | .describe module => do return .module (← find (·.modules) module)
  | .same a b => do
    let m ← find (·.modules) a
    let n ← find (·.modules) b
    return .flag (m == n)
  | .drop module => do
    let _ ← find (·.modules) module
    Action.modify fun b => { b with modules := b.modules.erase module }
    return .done
  | .look module l => do lookAt (← find (·.probes) module) l
  | .own module store o => do ownFrom (← find (·.modules) module) store o
  | .pinCall pin c => do callPin pin (← find (·.pins) pin) c
  | .dropPin pin => do
    let x ← find (·.pins) pin
    Action.modify fun b => { b with pins := b.pins.erase pin }
    Bench.dropPin x
    return .done
  | .adapt pin scale => adapt pin scale
  | .feature adapter f => do useFeature (← find (·.adapters) adapter) f
  | .dropAdapter adapter => do
    let x ← find (·.adapters) adapter
    Action.modify fun b => { b with adapters := b.adapters.erase adapter }
    Bench.dropPin x.pin
    return .done
  | .board name v => do
    let c ← readDocument (Configuration.read Json.format) v
    let board ← onRig (Action.zoom (Rig.worldLens.comp World.filesLens)
      (Board.ofConfiguration fileSystem c))
    Action.modify fun b => { b with boards := b.boards.put name board }
    return describeBoard board
  | .customBoard name platform offers => do
    let bare : Board (Rig FileTree FileTree.OpenFile) := { platform := ← readPlatform platform }
    let board ← offers.foldlM (fun b (kind, backend, of) => do
      return b.offer (← readKind kind) (simulatedOffer backend (← readKind of))) bare
    Action.modify fun b => { b with boards := b.boards.put name board }
    return describeBoard board
  | .boardCall board c => callBoard board c
  | .dropBoard board => do
    let _ ← find (·.boards) board
    Action.modify fun b => { b with boards := b.boards.erase board }
    return .done
  | .openChannel name p o => do
    let serial := (← Action.get).rig.nextSerial
    Action.modify fun b => { b with rig := { b.rig with nextSerial := serial + 1 } }
    let channel ← openOn p o serial
    Action.modify fun b => { b with channels := b.channels.put name channel }
    return .done
  | .channelCall channel c => do callChannel channel (← find (·.channels) channel) c

/-- Carries out a step and ends the modules that nothing holds after it. -/
def step (s : Step) : Work Answer := do
  let answer ← Action.attempt (perform s)
  sweep
  Action.ofExcept answer

/-- Carries out a script; each step leaves its answer and its events. -/
def run (b : Bench) : List Step → List (Except Trouble Answer × List Event)
  | [] => []
  | s :: steps =>
    let o := step s b
    (o.answer, o.events) :: run o.state steps

end Peripherals.Bench
