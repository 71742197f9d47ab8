import Peripherals.Proofs.Desk.Lasting
import Peripherals.Proofs.Files.Values
/-!
Inputs whose attribute is open on a file of a tree. Main statements: an input is opened on the file at its
path, stays open on it for as long as it is leased, and is read from what the file holds then.
-/

set_option autoImplicit false

namespace Peripherals.Adc.Iio

open FileTree (OpenFile fileSystem)

variable {i : Iio} {c : Config} {path : Path} {n : Nat}

/-- The attribute of the input is open under a path on a file. -/
def OpenOn (path : Path) (n : Nat) (lease : Lease Config (Channel OpenFile)) : Prop :=
  ∃ position, lease.channel.raw = ⟨path, .file n position⟩

def verdict (path : Path) (content : List UInt8) : Except Fault Int32 :=
  Attribute.valueOf path content >>= countOf path

private theorem value_open {t : FileTree} {lease : Lease Config (Channel OpenFile)}
    (opened : OpenOn path n lease) :
    let x := Action.zoom Lease.channelLens (driver fileSystem i).read (t, lease)
    x.answer = verdict path (t.bytes n) ∧ x.state.1 = t ∧ OpenOn path n x.state.2 := by
  obtain ⟨position, raw⟩ := opened
  have reads := Attribute.parse_file countOf t path n position
  rw [← raw] at reads
  refine ⟨congrArg Outcome.answer reads, congrArg (fun x => x.state.1) reads, (t.bytes n).length, ?_⟩
  exact congrArg (fun x => x.state.2) reads

private theorem spares (k : Command) : (driver fileSystem i).device.Spares (OpenOn path n)
    ((driver fileSystem i).errand k) where
  works h work use t lease opened := by
    cases k with
    | request | release | config => cases use
    | value h =>
      cases use
      rw [Action.map_apply]
      exact (value_open opened).2.2
  closes t lease opened := opened

section Desks

variable {d : Desk FileTree Config (Channel OpenFile)} {h : Handle} {key : UInt32}

theorem lasting_perform (k : Command) (lasting : d.Lasting h key (OpenOn path n)) :
    ((driver fileSystem i).perform k d).state.Lasting h key (OpenOn path n) :=
  lasting.perform (driver fileSystem i).perform_eq k (spares k)

theorem perform_value {lease : Lease Config (Channel OpenFile)}
    (live : d.leases.slots.get? h = some (key, lease)) (opened : OpenOn path n lease) :
    ((driver fileSystem i).perform (.value h) d).answer =
        (verdict path (d.device.bytes n)).map .sample ∧
      ((driver fileSystem i).perform (.value h) d).state.device = d.device := by
  obtain ⟨answer, device, -⟩ := value_open (i := i) (t := d.device) opened
  have work : (driver fileSystem i).perform (.value h) d = _ :=
    Desk.map_withLease_live live _ Answer.sample
  rw [work, answer]
  exact ⟨rfl, device⟩

private theorem claim_file {t : FileTree} (stands : t.fileAt? (i.channelPath c.pin) = some n) :
    ((driver fileSystem i).claim c t).answer =
        .ok ⟨c.pin, i.channelPath c.pin, .file n 0⟩ ∧
      ((driver fileSystem i).claim c t).state = t := by
  simp only [driver, Action.bind_apply, Attribute.openRead_file stands]
  exact ⟨rfl, rfl⟩

/-- A free input whose attribute is a regular file is opened on it. -/
theorem request_file (stands : d.device.fileAt? (i.channelPath c.pin) = some n)
    (free : d.leases.containsKey c.pin = false) :
    ((driver fileSystem i).perform (.request c) d).answer = .ok (.granted ⟨d.counter⟩) ∧
      ((driver fileSystem i).perform (.request c) d).state =
        d.lend c.pin d.device ⟨c, c.pin, i.channelPath c.pin, .file n 0⟩ := by
  obtain ⟨claims, still⟩ := claim_file stands
  exact (driver fileSystem i).device.map_request_ok Answer.granted (s := c) free claims still

theorem lasting_of_request (stands : d.device.fileAt? (i.channelPath c.pin) = some n)
    (free : d.leases.containsKey c.pin = false) :
    ((driver fileSystem i).perform (.request c) d).state.Lasting ⟨d.counter⟩ c.pin
      (OpenOn (i.channelPath c.pin) n) := by
  rw [(request_file stands free).2]
  exact Desk.lasting_lend d _ ⟨0, rfl⟩

end Desks

/-- A tree with the input 3 of the converter 0 and nothing else. -/
def oneInput (content : List UInt8) : FileTree where
  nodes := ⟨[(["bus"], .directory), (["bus", "iio"], .directory), (["bus", "iio", "devices"], .directory),
    (["bus", "iio", "devices", "iio:device0"], .directory),
    (["bus", "iio", "devices", "iio:device0", "in_voltage3_raw"], .file 0)]⟩
  contents := ⟨[(0, content)]⟩
  nextNumber := 1

theorem oneInput_file (content : List UInt8) :
    (oneInput content).fileAt? (channelPath ⟨⟨""⟩, 0⟩ 3) = some 0 := by
  let t := oneInput content
  let place := ["bus", "iio", "devices", "iio:device0"]
  have bus : t.Grounded ["bus"] := t.grounded_nil.concat rfl
  have devices : t.Grounded ["bus", "iio", "devices"] :=
    (bus.concat rfl : t.Grounded ["bus", "iio"]).concat rfl
  have grounded : t.Grounded place := devices.concat rfl
  have names : FileTree.namesOf (channelPath ⟨⟨""⟩, 0⟩ 3).text = place ++ ["in_voltage3_raw"] := by
    rw [FileTree.namesOf_eq]
    decide +kernel
  exact FileTree.fileAt?_of_straight ⟨by decide +kernel, by decide +kernel, by decide +kernel⟩
    (by decide +kernel) names (by decide +kernel) grounded rfl

end Peripherals.Adc.Iio
