import Peripherals.Action
import Peripherals.Fault
import Peripherals.HandleTable
import Peripherals.ModuleKind
/-!
Desks: a desk hands out the resources of one device and takes them back. A resource is claimed from
the device when it is requested, answers to its handle while it is leased, and is closed when it is
released. At most one lease exists for each key.
-/

set_option autoImplicit false

namespace Peripherals

/-- One resource that is handed out: what was asked for, and the device's channel for it. -/
structure Lease (S C : Type) where
  settings : S
  channel : C

def Lease.channelLens {σ S C : Type} : Lens (σ × Lease S C) (σ × C) where
  get p := (p.1, p.2.channel)
  set q p := (q.1, { p.2 with channel := q.2 })

/-- The words of one trade, for keys and events. -/
structure Trade (S : Type) where
  module : ModuleKind
  noun : String
  keyName : String
  /-- The verb for giving a resource back to the device. -/
  closing : String
  key : S → UInt32
  /-- What a request reports beside backend, key and handle. -/
  details : S → List (String × String)

/-- What a desk needs of a device with state `σ`, settings `S` and channels `C`. -/
structure Device (σ S C : Type) where
  trade : Trade S
  backend : String
  claim : S → Action Fault σ C
  /-- Brings a resource to rest before it is closed. -/
  rest : Action Fault (σ × Lease S C) Unit
  close : Action Fault (σ × Lease S C) Unit

/-- A device and the leases on it. The counter for handles is shared with other desks. -/
structure Desk (σ S C : Type) where
  device : σ
  counter : Nat
  leases : HandleTable UInt32 (Lease S C) := ∅

namespace Desk

variable {σ S C α : Type}

def deviceLens : Lens (Desk σ S C) σ where
  get d := d.device
  set s d := { d with device := s }

def activeCount (d : Desk σ S C) : Nat :=
  d.leases.size

/-- Works on the resource under a handle. What the device and the lease have become is kept even if
the work fails half-way. -/
def withLease (h : Handle) (work : Action Fault (σ × Lease S C) α) :
    Action Fault (Desk σ S C) α := fun d =>
  match d.leases.get? h with
  | none => ⟨.error (.unknownHandle h), [], d⟩
  | some lease =>
    let r := work (d.device, lease)
    ⟨r.answer, r.events, { d with device := r.state.1, leases := d.leases.set h r.state.2 }⟩

def inspect (h : Handle) (view : S → α) : Action Fault (Desk σ S C) α := fun d =>
  match d.leases.get? h with
  | none => ⟨.error (.unknownHandle h), [], d⟩
  | some lease => ⟨.ok (view lease.settings), [], d⟩

end Desk

namespace Device

variable {σ S C : Type} (dev : Device σ S C)

def taken (s : S) : Fault :=
  .alreadyRequested dev.trade.module.name (dev.trade.key s).toNat

def keyDetail (key : UInt32) : String × String :=
  (dev.trade.keyName, Text.number key.toNat)

def enroll (s : S) (channel : C) : Action Fault (Desk σ S C) Handle := fun d =>
  match d.leases.insert? d.counter (dev.trade.key s) ⟨s, channel⟩ with
  | none => ⟨.error (dev.taken s), [], d⟩
  | some (h, leases, counter) => ⟨.ok h, [], { d with leases, counter }⟩

/-- Hands out the resource that the settings ask for, unless its key is leased. -/
def request (s : S) : Action Fault (Desk σ S C) Handle := do
  if (← Action.get).leases.containsKey (dev.trade.key s) then
    Action.fail (dev.taken s)
  else
    let channel ← Action.zoom Desk.deviceLens (dev.claim s)
    let h ← dev.enroll s channel
    Action.note ⟨.debug, "Requested " ++ dev.trade.noun,
      ("backend", dev.backend) :: dev.keyDetail (dev.trade.key s) :: ("handle", h.text) ::
        dev.trade.details s⟩
    return h

def strike (h : Handle) : Action Fault (Desk σ S C) Unit := fun d =>
  match d.leases.remove? h with
  | none => ⟨.ok (), [], d⟩
  | some ((key, _), leases) =>
    ⟨.ok (), [⟨.debug, "Released " ++ dev.trade.noun,
      [("backend", dev.backend), dev.keyDetail key, ("handle", h.text)]⟩], { d with leases }⟩

/-- Takes a resource back. If it cannot be brought to rest or closed, the lease stays. -/
def release (h : Handle) : Action Fault (Desk σ S C) Unit := do
  Desk.withLease h do
    dev.rest
    dev.close
  dev.strike h

/-- Tries a step at the end of a desk's life and reports a failure. -/
def tryLast (verb : String) (key : UInt32) (step : Action Fault (σ × Lease S C) Unit) :
    Action Fault (σ × Lease S C) Unit := do
  match ← Action.attempt step with
  | .ok () => pure ()
  | .error e => Action.note ⟨.warn, "Failed to " ++ verb ++ " " ++ dev.trade.noun,
      [dev.keyDetail key, ("error", e.message)]⟩

/-- Closes a resource that is still leased when its desk goes away. Nothing stops this. -/
def dismiss (h : Handle) (key : UInt32) : Action Fault (σ × Lease S C) Unit := do
  Action.note ⟨.warn, dev.trade.noun ++ " still requested at module teardown",
    [dev.keyDetail key, ("handle", h.text)]⟩
  dev.tryLast "disable" key dev.rest
  dev.tryLast dev.trade.closing key dev.close

def dismissAll : List (Handle × UInt32 × Lease S C) → Action Fault σ Unit
  | [] => pure ()
  | (h, key, lease) :: rest => do
    let _ ← Action.beside lease (dev.dismiss h key)
    dismissAll rest

/-- Ends a desk: every resource that is still leased is closed. -/
def teardown : Action Fault (Desk σ S C) Unit := fun d =>
  let (leftover, leases) := d.leases.drain
  Action.zoom Desk.deviceLens (dev.dismissAll leftover) { d with leases }

end Device

end Peripherals
