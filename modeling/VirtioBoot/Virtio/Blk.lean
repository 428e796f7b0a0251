import VirtioBoot.Virtio.Device

/-!
# The virtio-blk driver (`virtio/blk/device.rs`)

The driver's code over the system of `VirtioBoot.Virtio.Device`: the
initialisation handshake (`initialize`, here `initializeDevice`, with `feature_negotiation_legacy`,
`read_configuration_simple` and `initialize_virtqueue_legacy`), and the
read path (`read_block` with its retry loop, `read_block_real` with its
polling loops).

Every loop of the source is bounded, and each is a structurally recursive
function whose fuel is the loop's bound: 100 attempts in `read_block`, 5000
polls in `read_block_real`, 10 used-index reads per interrupt, and one
iteration per new used entry in the used-ring scan. Delays, fences and
console output have no effect in the model.

The scan's `current_used_idx - last_used_idx` and `last_used_idx + i` are
plain `u16` operations; the model computes them with wrap-around, as a
release build does. A debug build panics on the subtraction once `used.idx`
has wrapped below `last_used_idx`; `VirtioBoot.Virtio.Ring` models the scan
in both builds.
-/

namespace VirtioBoot.Virtio.Blk

open VirtioBoot.Machine.Bytes
open VirtioBoot.Virtio.Queue
open VirtioBoot.Virtio.Queue.Virtqueue
open VirtioBoot.Virtio.Device

/-! ## Registers and constants (`virtio/blk/config.rs`) -/

/-- `VIRTIO_DRIVER_FEATURES`. -/
def VIRTIO_DRIVER_FEATURES : Nat := 0x020
/-- `VIRTIO_GUEST_PAGE_SIZE`. -/
def VIRTIO_GUEST_PAGE_SIZE : Nat := 0x028
/-- `VIRTIO_QUEUE_SEL`. -/
def VIRTIO_QUEUE_SEL : Nat := 0x030
/-- `VIRTIO_QUEUE_NUM`. -/
def VIRTIO_QUEUE_NUM : Nat := 0x038
/-- `VIRTIO_QUEUE_PFN`. -/
def VIRTIO_QUEUE_PFN : Nat := 0x040
/-- `VIRTIO_STATUS`. -/
def VIRTIO_STATUS : Nat := 0x070
/-- `VIRTIO_STATUS_ACKNOWLEDGE`. -/
def VIRTIO_STATUS_ACKNOWLEDGE : Nat := 1
/-- `VIRTIO_STATUS_DRIVER`. -/
def VIRTIO_STATUS_DRIVER : Nat := 2
/-- `VIRTIO_STATUS_DRIVER_OK`. -/
def VIRTIO_STATUS_DRIVER_OK : Nat := 4
/-- `VIRTIO_STATUS_FEATURES_OK`. -/
def VIRTIO_STATUS_FEATURES_OK : Nat := 8
/-- `VIRTIO_BLK_T_IN`: a read request. -/
def VIRTIO_BLK_T_IN : Nat := 0

/-- The request header `read_block_real` fills (`dma_base + 0x40`). -/
def REQ_ADDR : Nat := 0x80070040
/-- The data buffer (512 bytes) and status byte of every request. -/
def BUFFER_ADDR : Nat := 0x80070050

/-! ## Initialisation -/

/-- `select_queue(queue_index)`. -/
def selectQueue (env : Env) (s : Sys) (queueIndex : Nat) : Sys :=
  { s with blk := { s.blk with currentQueueSel := queueIndex } }.writeReg env VIRTIO_QUEUE_SEL
    queueIndex

/-- `feature_negotiation_legacy`: accept no feature, then try to set
`FEATURES_OK`; a device that clears it is tolerated. -/
def featureNegotiationLegacy (env : Env) (s : Sys) : Sys :=
  let s := s.writeReg env VIRTIO_DRIVER_FEATURES 0
  let (s, currentStatus) := s.readReg env VIRTIO_STATUS
  let s := s.writeReg env VIRTIO_STATUS (currentStatus ||| VIRTIO_STATUS_FEATURES_OK)
  (s.readReg env VIRTIO_STATUS).1

/-- `read_configuration_simple`: capacity from the config space, `2048`
when it reads `0` or is not below `10000000`. -/
def readConfigurationSimple (env : Env) (s : Sys) : Sys :=
  let (s, capacityLow) := s.readReg env 0x100
  let (s, capacityHigh) := s.readReg env 0x104
  let capacity := capacityHigh * 2 ^ 32 + capacityLow
  let capacity := if capacity = 0 then 2048
    else if capacity > 0 ∧ capacity < 10000000 then capacity else 2048
  { s with blk := { s.blk with capacity } }

/-- `allocate_queue_memory(queue_size)`: the fixed QEMU legacy layout. -/
def allocateQueueMemory (queueSize : Nat) : Except VirtioError (Nat × Nat × Nat) :=
  let descAddr := 0x80070000
  let availAddr := descAddr + queueSize * 16
  let usedAddr := 0x80071000
  if descAddr % 16 ≠ 0 then .error .DmaError
  else if availAddr % 2 ≠ 0 then .error .DmaError
  else if usedAddr % 4 ≠ 0 then .error .DmaError
  else if descAddr + queueSize * 16 > usedAddr then .error .DmaError
  else if availAddr + 6 + queueSize * 2 > usedAddr then .error .DmaError
  else .ok (descAddr, availAddr, usedAddr)

/-- The ring memory `Virtqueue::new` is placed on: the current handle's
regions, or what memory held at boot. -/
def ringsOf (env : Env) (s : Sys) : Rings :=
  match s.blk.virtqueue with
  | some vq => ⟨vq.desc, vq.avail, vq.used⟩
  | none => env.bootRings

/-- `initialize_virtqueue_legacy`: queue 0 with two entries at the fixed
layout; the PFN read-backs only print. -/
def initializeVirtqueueLegacy (env : Env) (s : Sys) : Sys × Except VirtioError Unit :=
  let s := selectQueue env s 0
  let queueSize := 2
  let s := s.writeReg env VIRTIO_QUEUE_NUM queueSize
  match allocateQueueMemory queueSize with
  | .error e => (s, .error e)
  | .ok (descAddr, availAddr, usedAddr) =>
    let pfn := 0x80070
    let s := s.writeReg env VIRTIO_QUEUE_SEL 0
    let s := s.writeReg env VIRTIO_QUEUE_PFN pfn
    let s := selectQueue env s 0
    let s := (s.readReg env VIRTIO_QUEUE_PFN).1
    let s := s.writeReg env VIRTIO_QUEUE_SEL 0
    let s := (s.readReg env VIRTIO_QUEUE_PFN).1
    match new descAddr availAddr usedAddr queueSize (ringsOf env s) with
    | .ok vq => ({ s with blk := { s.blk with virtqueue := some vq, queueReady := true } }, .ok ())
    | .error e => (s, .error e)

/-- `initialize`: the status handshake, feature negotiation, page size,
configuration, queue set-up and `DRIVER_OK`. -/
def initializeDevice (env : Env) (s : Sys) : Sys × Except VirtioError Unit :=
  if s.blk.initialized then (s, .ok ())
  else
    let s := s.writeReg env VIRTIO_STATUS 0
    let s := s.writeReg env VIRTIO_STATUS VIRTIO_STATUS_ACKNOWLEDGE
    let s := s.writeReg env VIRTIO_STATUS (VIRTIO_STATUS_ACKNOWLEDGE ||| VIRTIO_STATUS_DRIVER)
    let (s, afterDriver) := s.readReg env VIRTIO_STATUS
    if afterDriver &&& (VIRTIO_STATUS_ACKNOWLEDGE ||| VIRTIO_STATUS_DRIVER)
        ≠ (VIRTIO_STATUS_ACKNOWLEDGE ||| VIRTIO_STATUS_DRIVER) then (s, .error .InitFailed)
    else
      let s := featureNegotiationLegacy env s
      let s := s.writeReg env VIRTIO_GUEST_PAGE_SIZE 4096
      let s := readConfigurationSimple env s
      let s := s.writeReg env VIRTIO_QUEUE_SEL 0
      match initializeVirtqueueLegacy env s with
      | (s, .error e) => (s, .error e)
      | (s, .ok ()) =>
        let s := s.writeReg env VIRTIO_STATUS VIRTIO_STATUS_DRIVER_OK
        let (s, finalStatus) := s.readReg env VIRTIO_STATUS
        if finalStatus &&& VIRTIO_STATUS_DRIVER_OK = 0 then (s, .error .InitFailed)
        else ({ s with blk := { s.blk with initialized := true } }, .ok ())

/-! ## Reading a block -/

/-- The used-ring scan `for i in 0..(current_used_idx - last_used_idx)`,
at index `i` with `k` entries left: on the first element whose id is the
head, copy the data buffer out and set `last_used_idx`. -/
def scan (env : Env) (head current last : Nat) : Nat → Nat → Sys → Sys × Option (List UInt8)
  | 0, _, s => (s, none)
  | k + 1, i, s =>
    let (s, usedElem) :=
      s.access env (fun vq => (vq, vq.used.ring ((last + i) % 2 ^ 16 % vq.queueSize))) ⟨0, 0⟩
    if usedElem.id = head then
      let (s, buffer) := s.copyOut env BUFFER_ADDR 512
      (s.setLastUsed current, some buffer)
    else scan env head current last k (i + 1) s

/-- The `while ring_retry_count < MAX_RING_RETRIES` loop (10 reads of
`used.idx`): scan the new entries as soon as there are some, then set
`last_used_idx` to the index read even if none was ours. -/
def ringRetry (env : Env) (head : Nat) : Nat → Sys → Sys × Option (List UInt8)
  | 0, s => (s, none)
  | fuel + 1, s =>
    let (s, currentUsedIdx) := s.access env (fun vq => (vq, vq.used.idx)) 0
    let lastUsedIdx := (s.blk.virtqueue.map (·.lastUsedIdx)).getD 0
    if currentUsedIdx ≠ lastUsedIdx then
      match scan env head currentUsedIdx lastUsedIdx
          ((currentUsedIdx + 2 ^ 16 - lastUsedIdx) % 2 ^ 16) 0 s with
      | (s, some buffer) => (s, some buffer)
      | (s, none) => (s.setLastUsed currentUsedIdx, none)
    else ringRetry env head fuel s

/-- The `for attempt in 0..max_attempts` polling loop, with `fuel` attempts
left: read the ISR; on bit 0, read it again and run the used-ring retries. -/
def pollLoop (env : Env) (head : Nat) :
    Nat → Nat → Nat → Sys → Sys × Except VirtioError (List UInt8)
  | 0, _, _, s => (s, .error .Timeout)
  | fuel + 1, attempt, validAttempts, s =>
    let (s, isrStatus) := s.readIsr env
    if isrStatus % 2 ≠ 0 then
      let (s, _) := s.readIsr env
      match ringRetry env head 10 s with
      | (s, some buffer) => (s, .ok buffer)
      | (s, none) =>
        if validAttempts + 1 ≥ 1000 then (s, .error .Timeout)
        else if attempt > 2000 ∧ validAttempts + 1 = 0 then (s, .error .Timeout)
        else pollLoop env head fuel (attempt + 1) (validAttempts + 1) s
    else if attempt > 2000 ∧ validAttempts = 0 then (s, .error .Timeout)
    else pollLoop env head fuel (attempt + 1) validAttempts s

/-- The body of `read_block_real`: fill the request header, set the fixed
descriptors `0` (header, 16 bytes, `NEXT` → 1) and `1` (data and status,
513 bytes, `WRITE`), publish head `0`, notify queue `current_queue_sel`, and
poll for the completion. -/
def readBlockRealBody (env : Env) (blockId : Nat) (s : Sys) :
    Sys × Except VirtioError (List UInt8) :=
  match s.blk.virtqueue with
  | none => (s, .error .DmaError)
  | some _ =>
    let head := 0
    let s := s.storeRam env REQ_ADDR 4 VIRTIO_BLK_T_IN
    let s := s.storeRam env (REQ_ADDR + 4) 4 0
    let s := s.storeRam env (REQ_ADDR + 8) 8 blockId
    let (s, r0) := s.access env
      (·.setDescriptor head REQ_ADDR 16 VIRTQ_DESC_F_NEXT (head + 1)) (.ok ())
    match r0 with
    | .error e => (s, .error e)
    | .ok () =>
      let (s, r1) := s.access env
        (·.setDescriptor (head + 1) BUFFER_ADDR 513 VIRTQ_DESC_F_WRITE 0) (.ok ())
      match r1 with
      | .error e => (s, .error e)
      | .ok () =>
        let s := s.publish env head
        let s := s.notify env
        pollLoop env head 5000 0 0 s

/-- The proof-only record of an attempt's result. -/
def resultEvent : Except VirtioError (List UInt8) → List Event
  | .ok _ => [.done]
  | .error .Timeout => [.timeout]
  | .error _ => []

/-- `read_block_real(block_id, buffer)`: the bytes copied into `buffer` on
success; `buffer` is not written on failure. -/
def readBlockReal (env : Env) (blockId : Nat) (s : Sys) : Sys × Except VirtioError (List UInt8) :=
  let (s, r) := readBlockRealBody env blockId s
  ({ s with log := s.log ++ resultEvent r }, r)

/-- The retry loop of `read_block`: attempt `read_block_real` until it
succeeds or `MAX_RETRIES = 100` attempts have failed. -/
def retryLoop (env : Env) (blockId : Nat) :
    Nat → Nat → Sys → Sys × Except VirtioError (List UInt8)
  | 0, _, s => (s, .error .Timeout)
  | fuel + 1, retryCount, s =>
    match readBlockReal env blockId s with
    | (s, .ok buffer) => ({ s with blk := { s.blk with useRealIo := true } }, .ok buffer)
    | (s, .error e) =>
      if retryCount + 1 ≥ 100 then (s, .error e)
      else retryLoop env blockId fuel (retryCount + 1) s

/-- A failed attempt that is not the last is followed by the next one. -/
theorem retryLoop_of_error (env : Env) (blockId fuel retryCount : Nat) {s : Sys} {e : VirtioError}
    (h : (readBlockReal env blockId s).2 = .error e) (hr : retryCount + 1 < 100) :
    retryLoop env blockId (fuel + 1) retryCount s =
      retryLoop env blockId fuel (retryCount + 1) (readBlockReal env blockId s).1 := by
  rw [retryLoop]
  rcases hrr : readBlockReal env blockId s with ⟨s', r⟩
  rw [hrr] at h
  subst h
  simp only [if_neg (Nat.not_le.2 hr)]

/-- `read_block(block_id, buffer)` with a buffer of `bufLen` bytes. -/
def readBlock (env : Env) (blockId bufLen : Nat) (s : Sys) : Sys × Except VirtioError (List UInt8) :=
  let (s, r) := if ¬ s.blk.initialized then initializeDevice env s else (s, .ok ())
  match r with
  | .error e => (s, .error e)
  | .ok () =>
    if bufLen ≠ 512 then (s, .error .DmaError)
    else if blockId ≥ s.blk.capacity then (s, .error .IoError)
    else retryLoop env blockId 100 0 s

/-! ## A completion with status `1` is taken for data

`read_block_real` never reads the status byte the device writes after the
data, and every request uses head `0`, so any used element with id `0` ends
the wait and the data buffer is copied out as it is.
-/

/-- A disk whose every byte is `0x7F`. -/
def diskOf7F : Disk := ⟨fun _ => List.replicate 512 0x7F, fun _ => List.length_replicate _ _⟩

/-- A device over `diskOf7F` that completes every request with status `1`
(I/O error) as soon as it can, and keeps register writes as written. -/
def ioErrorDevice : Env :=
  ⟨diskOf7F, fun _ => [.ioError], fun _ v => v, zeroRings⟩

/-- Power-on: zeroed RAM, no queue handle, capacity register `2048`. -/
def powerOnSys : Sys :=
  ⟨⟨0x10001000, false, 0, none, false, false, 0⟩, fun _ => 0,
    fun o => if o = 0x100 then 2048 else 0, 0, 0, false, 0, 0, 0, []⟩

set_option maxRecDepth 10000 in
/-- After `initialize` (as `probe_all_devices` runs it), the loader's first
request `read_block(0, buffer)` returns `Ok` against a device that answers
with status `1` and writes no data: the buffer holds the zeroed RAM, not
sector `0` (whose bytes are `0x7F`). -/
theorem readBlock_ok_on_io_error :
    (initializeDevice ioErrorDevice powerOnSys).2 = .ok () ∧
      ∃ buffer, (readBlock ioErrorDevice 0 512 (initializeDevice ioErrorDevice powerOnSys).1).2 =
        .ok buffer ∧ buffer.head? = some 0 ∧ (diskOf7F.sector 0).head? = some 0x7F :=
  ⟨rfl, _, rfl, by decide, rfl⟩

end VirtioBoot.Virtio.Blk
