import VirtioBoot.Virtio.Queue

/-!
# The driver, the device and their interleavings

The block device is not part of the repository; it is the party the driver
talks to through guest memory and MMIO registers. This module fixes that
party and the way its steps interleave with the driver's.

**The device.** After a `QUEUE_NOTIFY` write the device may take a step at
any time (`deviceStep`). A step consumes the next unconsumed available-ring
entry, reads that entry's descriptor chain and the request header from
guest memory as they are at that moment, and then either writes the
requested sector of the backing store into the chain's second (writable)
buffer followed by status byte `0`, or writes status byte `1` and no data.
It then stores `(head, written length)` at `used.ring[used.idx % Q]`,
increments `used.idx` modulo `2 ^ 16` and sets bit 0 of the ISR register.

**Interleavings.** Every driver access to shared state (a store into the
request header, a descriptor write, the ring publication, the notify, an
ISR or used-ring read, the copy out of the data buffer) is preceded by the
device steps a `Schedule` assigns to that access. Device steps between two
driver actions that touch no shared state are indistinguishable from steps
at the next shared access, so quantifying over schedules covers every
interleaving at the granularity of the driver's statements.

`Sys` also carries proof-only fields: the number of publications and of
device completions since the queue was set up, and a log of publications
and attempt results. No driver or device decision reads them.
-/

namespace VirtioBoot.Virtio.Device

open VirtioBoot.Machine.Bytes
open VirtioBoot.Virtio.Queue
open VirtioBoot.Virtio.Queue.Virtqueue

/-! ## The environment -/

/-- The backing store: 512 bytes for every sector. -/
structure Disk where
  sector : Nat → List UInt8
  sector_length : ∀ s, (sector s).length = 512

/-- How the device completes one request. -/
inductive Completion where
  | ok
  | ioError
  deriving DecidableEq, Repr

/-- The device's part of an interleaving: before the driver's `t`-th access
to shared state, the device takes the steps `sched t`. -/
def Schedule := Nat → List Completion

/-- The device: its backing store, its schedule, the value each MMIO
register holds after the driver writes a value to it (`keep offset value`),
and what the ring memory holds at boot. -/
structure Env where
  disk : Disk
  sched : Schedule
  keep : Nat → Nat → Nat
  bootRings : Rings

/-- An entry of the proof-only log of a run. -/
inductive Event where
  /-- `add_to_avail` of `read_block_real`, with `avail.idx` and
  `last_used_idx` just before it. -/
  | publish (availIdx lastUsedIdx : Nat)
  /-- A `read_block_real` attempt returned `Timeout`. -/
  | timeout
  /-- A `read_block_real` attempt returned `Ok`. -/
  | done
  deriving DecidableEq, Repr

/-! ## State -/

/-- `VirtioBlk`: the MMIO base, the init flag, the negotiated capacity
(`config.capacity`), the virtqueue handle and the driver's flags. -/
structure VirtioBlk where
  baseAddr : Nat
  initialized : Bool
  capacity : Nat
  virtqueue : Option Virtqueue
  queueReady : Bool
  useRealIo : Bool
  currentQueueSel : Nat

/-- The whole system: the driver's handle, guest RAM, the device's MMIO
registers, its cursor into the available ring, the ISR register and
whether a notify has been written; `tick` counts the driver's shared
accesses, and `published`, `completed` and `log` are proof-only. -/
structure Sys where
  blk : VirtioBlk
  ram : Mem
  regs : Nat → Nat
  devAvail : Nat
  isr : Nat
  notified : Bool
  tick : Nat
  published : Nat
  completed : Nat
  log : List Event

/-! ## The device -/

/-- The sector field of the request header at `addr`: bytes `8 .. 16`. -/
def headerSector (ram : Mem) (addr : Nat) : Nat := leNat (ram.read (addr + 8) 8)

/-- The used ring after the device stores `elem` at `used.idx % Q` and
increments `used.idx`. -/
def pushUsed (vq : Virtqueue) (elem : UsedElem) : Virtqueue :=
  { vq with
    used := { vq.used with
      ring := fun j => if j = vq.used.idx % vq.queueSize then elem else vq.used.ring j
      idx := (vq.used.idx + 1) % 2 ^ 16 } }

/-- RAM after the device completes a request whose writable buffer is at
`buf`: the sector and status `0`, or status `1` alone; and the written
length. -/
def completeInto (disk : Disk) (ram : Mem) (sector buf : Nat) : Completion → Mem × Nat
  | .ok =>
    ((storeBytes ram buf (fun i => (disk.sector sector).getD i 0) 512).writeByte (buf + 512) 0,
      513)
  | .ioError => (ram.writeByte (buf + 512) 1, 1)

/-- One device step, enabled once a notify has been written and while an
available entry is unconsumed. -/
def deviceStep (disk : Disk) (s : Sys) (c : Completion) : Sys :=
  match s.blk.virtqueue with
  | none => s
  | some vq =>
    if s.notified ∧ s.devAvail ≠ vq.avail.idx then
      let head := vq.avail.ring (s.devAvail % vq.queueSize)
      let d0 := vq.desc head
      let sector := headerSector s.ram d0.addr
      let done := completeInto disk s.ram sector (vq.desc d0.next).addr c
      { s with
        blk := { s.blk with virtqueue := some (pushUsed vq ⟨head, done.2⟩) }
        ram := done.1
        devAvail := (s.devAvail + 1) % 2 ^ 16
        isr := 1
        completed := s.completed + 1 }
    else s

@[simp] theorem pushUsed_avail (vq : Virtqueue) (e : UsedElem) : (pushUsed vq e).avail = vq.avail :=
  rfl

@[simp] theorem pushUsed_used_idx (vq : Virtqueue) (e : UsedElem) :
    (pushUsed vq e).used.idx = (vq.used.idx + 1) % 2 ^ 16 := rfl

/-- What one device step can do: nothing, or complete the entry at its
cursor, which must differ from `avail.idx`. -/
theorem deviceStep_cases (disk : Disk) (s : Sys) (c : Completion) :
    deviceStep disk s c = s ∨
      ∃ vq e, s.blk.virtqueue = some vq ∧ s.notified = true ∧ s.devAvail ≠ vq.avail.idx ∧
        (deviceStep disk s c).blk = { s.blk with virtqueue := some (pushUsed vq e) } ∧
        (deviceStep disk s c).devAvail = (s.devAvail + 1) % 2 ^ 16 ∧
        (deviceStep disk s c).completed = s.completed + 1 ∧
        (deviceStep disk s c).published = s.published ∧ (deviceStep disk s c).log = s.log := by
  unfold deviceStep
  split
  · exact .inl rfl
  · split_ifs with hen
    · exact .inr ⟨_, _, ‹_›, hen.1, hen.2, rfl, rfl, rfl, rfl, rfl⟩
    · exact .inl rfl

/-- The device's scheduled steps before the driver's next access, and the
access's tick. -/
def Sys.interleave (env : Env) (s : Sys) : Sys :=
  { (env.sched s.tick).foldl (deviceStep env.disk) s with tick := s.tick + 1 }

/-! ## Driver accesses -/

/-- A queue operation on the handle, if there is one. -/
def Sys.onVq {α : Type} (s : Sys) (f : Virtqueue → Virtqueue × α) (dflt : α) : Sys × α :=
  match s.blk.virtqueue with
  | some vq => ({ s with blk := { s.blk with virtqueue := some (f vq).1 } }, (f vq).2)
  | none => (s, dflt)

/-- A queue operation that only reads the handle leaves the state as it is. -/
theorem Sys.onVq_read {α : Type} (s : Sys) {vq : Virtqueue} (hvq : s.blk.virtqueue = some vq)
    (g : Virtqueue → α) (dflt : α) : s.onVq (fun vq => (vq, g vq)) dflt = (s, g vq) := by
  simp only [Sys.onVq, hvq]
  rw [← hvq]

/-- One driver access to the queue, after the device's scheduled steps. -/
def Sys.access {α : Type} (env : Env) (s : Sys) (f : Virtqueue → Virtqueue × α) (dflt : α) :
    Sys × α :=
  (s.interleave env).onVq f dflt

/-- A volatile little-endian store of a `w`-byte value into RAM. -/
def Sys.storeRam (env : Env) (s : Sys) (addr w v : Nat) : Sys :=
  let s := s.interleave env
  { s with ram := storeBytes s.ram addr (fun i => (leBytes w v).getD i 0) w }

/-- `read_reg(0x60)`: the ISR register, which the read clears. -/
def Sys.readIsr (env : Env) (s : Sys) : Sys × Nat :=
  let s := s.interleave env
  ({ s with isr := 0 }, s.isr)

/-- `write_reg(VIRTIO_QUEUE_NOTIFY, _)`. -/
def Sys.notify (env : Env) (s : Sys) : Sys :=
  { s.interleave env with notified := true }

/-- `copy_nonoverlapping(src, buffer, n)`: the `n` bytes at `src`. -/
def Sys.copyOut (env : Env) (s : Sys) (src n : Nat) : Sys × List UInt8 :=
  let s := s.interleave env
  (s, s.ram.read src n)

/-- `write_reg(offset, value)`: a volatile 32-bit store to an MMIO register. -/
def Sys.writeReg (env : Env) (s : Sys) (off v : Nat) : Sys :=
  let s := s.interleave env
  { s with regs := fun o => if o = off then env.keep off v else s.regs o }

/-- `read_reg(offset)`: a volatile 32-bit load from an MMIO register. -/
def Sys.readReg (env : Env) (s : Sys) (off : Nat) : Sys × Nat :=
  let s := s.interleave env
  (s, s.regs off % 2 ^ 32)

/-- `vq.last_used_idx = v` (driver-private: no device step). -/
def Sys.setLastUsed (s : Sys) (v : Nat) : Sys :=
  (s.onVq (fun vq => ({ vq with lastUsedIdx := v }, ())) ()).1

/-- `add_to_avail(head)`, logged with the indices it saw. -/
def Sys.publish (env : Env) (s : Sys) (head : Nat) : Sys :=
  let s := s.interleave env
  match s.blk.virtqueue with
  | some vq =>
    { s with
      blk := { s.blk with virtqueue := some (vq.addToAvail head).1 }
      published := s.published + 1
      log := s.log ++ [.publish vq.avail.idx vq.lastUsedIdx] }
  | none => s

end VirtioBoot.Virtio.Device
