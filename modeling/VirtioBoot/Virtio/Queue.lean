import VirtioBoot.Machine.Bytes

/-!
# The split virtqueue (`virtio/queue.rs`)

A legacy split virtqueue is three regions of guest memory: the descriptor
table, the available ring (written by the driver) and the used ring
(written by the device). `Virtqueue` models the driver's handle: the three
regions' contents as typed views, their addresses, and the driver-private
counters `queue_size`, `free_head`, `num_free` and `last_used_idx`.

Integers are `Nat`. Where the source wraps (`wrapping_add`) the model
reduces modulo `2 ^ 16`; the `u16` addition `num_free += count` is taken
with the same wrap-around.

The handle carries `0 < queueSize ≤ 256` as fields: `Virtqueue::new`
refuses every other size, so every `% self.queue_size` is defined and every
ring index lies inside the `[_; 256]` ring arrays.

## Main results

* `new_ok_iff` — `Virtqueue::new` accepts exactly the fixed QEMU layout
  (`0x80070000`, `0x80070000 + 16·size`, `0x80071000`) with
  `1 ≤ size ≤ 227`.
* `allocDescChain_eq` — the allocator links `free_head, free_head + 1, …`
  by index arithmetic, and succeeds exactly when that run of indices stays
  below the queue size; a refused request changes nothing.
* `allocDescChain_ok_iff` — it returns `Ok(free_head)` exactly when the
  request fits *contiguously* above `free_head`.
* `freeWalk_add` — more iterations do not change a free walk that has
  ended, so the fuel given to `free_desc_chain` only decides whether it ends.
-/

namespace VirtioBoot.Virtio.Queue

/-! ## Errors (`virtio/error.rs`) -/

/-- `VirtioError`, the driver's closed error taxonomy. -/
inductive VirtioError where
  | DeviceNotFound | InvalidMagic | UnsupportedVersion | UnsupportedDevice | DeviceError
  | InitFailed | FeaturesNegotiationFailed | QueueSetupFailed | ConfigAccessFailed
  | DmaError | IoError | BufferTooSmall | InvalidParam
  | QueueFull | QueueEmpty | DescriptorChainTooLong | InvalidDescriptor
  | Timeout | NotReady | AlreadyInitialized
  | FileSystemError | CryptoError | NetworkError | BlockError
  | OutOfMemory | MemoryNotAligned
  | InternalError | UnsupportedOperation
  deriving DecidableEq, Repr

/-! ## Ring layout -/

/-- A descriptor-table entry: guest address (`u64`), length (`u32`),
flags (`u16`) and the index of the next descriptor (`u16`). -/
structure Descriptor where
  addr : Nat
  len : Nat
  flags : Nat
  next : Nat
  deriving DecidableEq, Repr

/-- `VIRTQ_DESC_F_NEXT`. -/
def VIRTQ_DESC_F_NEXT : Nat := 0x1
/-- `VIRTQ_DESC_F_WRITE`: the device writes this buffer. -/
def VIRTQ_DESC_F_WRITE : Nat := 0x2

/-- The available ring: flags, producer index and `[u16; 256]` heads. -/
structure AvailableRing where
  flags : Nat
  idx : Nat
  ring : Nat → Nat

/-- A used-ring element: descriptor id and written length. -/
structure UsedElem where
  id : Nat
  len : Nat
  deriving DecidableEq, Repr

/-- The used ring: flags, producer index and `[UsedElem; 256]`. -/
structure UsedRing where
  flags : Nat
  idx : Nat
  ring : Nat → UsedElem

/-- What the three regions hold before `Virtqueue::new` initialises them. -/
structure Rings where
  desc : Nat → Descriptor
  avail : AvailableRing
  used : UsedRing

/-- Ring memory that holds zeros. -/
def zeroRings : Rings := ⟨fun _ => ⟨0, 0, 0, 0⟩, ⟨0, 0, fun _ => 0⟩, ⟨0, 0, fun _ => ⟨0, 0⟩⟩⟩

/-- The driver's virtqueue handle. -/
structure Virtqueue where
  descAddr : Nat
  availAddr : Nat
  usedAddr : Nat
  desc : Nat → Descriptor
  avail : AvailableRing
  used : UsedRing
  queueSize : Nat
  freeHead : Nat
  numFree : Nat
  lastUsedIdx : Nat
  descSize : Nat
  queueSize_pos : 0 < queueSize
  queueSize_le : queueSize ≤ 256
  table_mapped : ∀ i < queueSize, (descAddr + i * 16) % 2 ^ 64 ≠ 0

/-! ## `Virtqueue::new` -/

/-- `validate_memory_layout`: the QEMU legacy layout, alignment and
non-overlap checks, each failing with `MemoryNotAligned`. -/
def validateMemoryLayout (descAddr availAddr usedAddr queueSize : Nat) :
    Except VirtioError Unit :=
  let expectedDescAddr := 0x80070000
  let expectedAvailAddr := expectedDescAddr + 16 * queueSize
  let expectedUsedAddr := 0x80071000
  if descAddr ≠ expectedDescAddr then .error .MemoryNotAligned
  else if availAddr ≠ expectedAvailAddr then .error .MemoryNotAligned
  else if usedAddr ≠ expectedUsedAddr then .error .MemoryNotAligned
  else if descAddr % 16 ≠ 0 then .error .MemoryNotAligned
  else if availAddr % 2 ≠ 0 then .error .MemoryNotAligned
  else if usedAddr % 4 ≠ 0 then .error .MemoryNotAligned
  else if descAddr + 16 * queueSize > availAddr then .error .MemoryNotAligned
  else if availAddr + 6 + 2 * queueSize > usedAddr then .error .MemoryNotAligned
  else .ok ()

/-- The accepted layout, in one formula. -/
theorem validateMemoryLayout_ok_iff (d a u s : Nat) :
    validateMemoryLayout d a u s = .ok () ↔
      d = 0x80070000 ∧ a = 0x80070000 + 16 * s ∧ u = 0x80071000 ∧ s ≤ 227 := by
  simp only [validateMemoryLayout, ite_eq_iff, reduceCtorEq, and_false, false_or, and_true]
  omega

/-- The initial descriptor table: `i → i + 1`, the last entry `→ 0`. -/
def initialDesc (size : Nat) (old : Nat → Descriptor) (i : Nat) : Descriptor :=
  if i < size then
    { addr := 0, len := 0, flags := 0, next := if i = size - 1 then 0 else i + 1 }
  else old i

/-- `Virtqueue::new(desc_addr, avail_addr, used_addr, size)`; `old` is the
memory the rings are placed on (the ring arrays are not cleared). -/
def new (descAddr availAddr usedAddr size : Nat) (old : Rings) : Except VirtioError Virtqueue :=
  if hsize : size = 0 ∨ size > 1024 then .error .InvalidParam
  else if descAddr % 16 ≠ 0 then .error .MemoryNotAligned
  else if availAddr % 2 ≠ 0 then .error .MemoryNotAligned
  else if usedAddr % 4 ≠ 0 then .error .MemoryNotAligned
  else match hv : validateMemoryLayout descAddr availAddr usedAddr size with
    | .error e => .error e
    | .ok () =>
      .ok { descAddr, availAddr, usedAddr
            desc := initialDesc size old.desc
            avail := { old.avail with flags := 0, idx := 0 }
            used := { old.used with flags := 0, idx := 0 }
            queueSize := size, freeHead := 0, numFree := size, lastUsedIdx := 0
            descSize := 16
            queueSize_pos := by omega
            queueSize_le := by
              have := ((validateMemoryLayout_ok_iff _ _ _ _).1 hv).2.2.2
              omega
            table_mapped := by
              have := (validateMemoryLayout_ok_iff _ _ _ _).1 hv
              intro i hi
              omega }

/-- What an accepted call was given. -/
theorem new_layout {d a u s : Nat} {old : Rings} {vq : Virtqueue} (h : new d a u s old = .ok vq) :
    1 ≤ s ∧ s ≤ 227 ∧ d = 0x80070000 ∧ a = 0x80070000 + 16 * s ∧ u = 0x80071000 := by
  unfold new at h
  split at h
  · cases h
  obtain ⟨-, -, -, h⟩ := by simpa only [ite_eq_iff, reduceCtorEq, and_false, false_or] using h
  split at h
  · cases h
  · have := (validateMemoryLayout_ok_iff _ _ _ _).1 ‹_›
    omega

/-- **`Virtqueue::new` accepts exactly the fixed layout** with
`1 ≤ size ≤ 227`. -/
theorem new_ok_iff (d a u s : Nat) (old : Rings) :
    (∃ vq, new d a u s old = .ok vq) ↔
      1 ≤ s ∧ s ≤ 227 ∧ d = 0x80070000 ∧ a = 0x80070000 + 16 * s ∧ u = 0x80071000 := by
  refine ⟨fun ⟨_, h⟩ => new_layout h, ?_⟩
  rintro ⟨h1, h2, rfl, rfl, rfl⟩
  have hv : validateMemoryLayout 0x80070000 (0x80070000 + 16 * s) 0x80071000 s = .ok () :=
    (validateMemoryLayout_ok_iff _ _ _ _).2 ⟨rfl, rfl, rfl, h2⟩
  unfold new
  rw [dif_neg (by omega), if_neg (by decide), if_neg (by omega), if_neg (by decide)]
  split
  · rename_i e he; rw [hv] at he; cases he
  · exact ⟨_, rfl⟩

/-- The handle `new` returns: the free list `0 → 1 → … → size - 1` and all
indices at zero. -/
theorem new_eq {d a u s : Nat} {old : Rings} {vq : Virtqueue} (h : new d a u s old = .ok vq) :
    vq.queueSize = s ∧ vq.freeHead = 0 ∧ vq.numFree = s ∧ vq.lastUsedIdx = 0 ∧
      vq.avail.idx = 0 ∧ vq.used.idx = 0 ∧ vq.desc = initialDesc s old.desc ∧
      vq.descAddr = d := by
  unfold new at h
  split at h
  · cases h
  obtain ⟨-, -, -, h⟩ := by simpa only [ite_eq_iff, reduceCtorEq, and_false, false_or] using h
  split at h
  · cases h
  · cases h; exact ⟨rfl, rfl, rfl, rfl, rfl, rfl, rfl, rfl⟩

/-! ## Descriptor access -/

namespace Virtqueue

/-- `get_descriptor_ptr`: the address of descriptor `index`, refused past
the queue size; the null check cannot fire on a mapped table. -/
def getDescriptorPtr (vq : Virtqueue) (index : Nat) : Except VirtioError Nat :=
  if index ≥ vq.queueSize then .error .InvalidParam
  else if (vq.descAddr + index * 16) % 2 ^ 64 = 0 then .error .DmaError
  else .ok (vq.descAddr + index * 16)

theorem getDescriptorPtr_ok (vq : Virtqueue) {i : Nat} (hi : i < vq.queueSize) :
    vq.getDescriptorPtr i = .ok (vq.descAddr + i * 16) := by
  unfold getDescriptorPtr
  rw [if_neg (Nat.not_le.2 hi), if_neg (vq.table_mapped i hi)]

theorem getDescriptorPtr_error (vq : Virtqueue) {i : Nat} (hi : vq.queueSize ≤ i) :
    vq.getDescriptorPtr i = .error .InvalidParam := by
  simp [getDescriptorPtr, hi]

/-- The table with `v` stored into the `next` field of descriptor `i`. -/
def setNextIn (t : Nat → Descriptor) (i v : Nat) : Nat → Descriptor :=
  fun j => if j = i then { t j with next := v } else t j

/-! ## `alloc_desc_chain` -/

/-- The table after linking `c, c + 1, …, c + k - 1` (those below `q`), the
last of them terminated with `next = 0`. -/
def linkTable (t : Nat → Descriptor) (q c k : Nat) (j : Nat) : Descriptor :=
  if c ≤ j ∧ j < c + k ∧ j < q then { t j with next := if j = c + k - 1 then 0 else j + 1 }
  else t j

/-- The `for i in 0..num` loop of `alloc_desc_chain` on the table `t`, with
`k` iterations left, at iteration `i`, on descriptor `current`. The loop
reads only `queue_size` and the table's address from the handle. -/
def allocLoop (vq : Virtqueue) (num : Nat) :
    Nat → (Nat → Descriptor) → Nat → Nat → (Nat → Descriptor) × Except VirtioError Nat
  | 0, t, _, current => (t, .ok current)
  | k + 1, t, i, current =>
    match vq.getDescriptorPtr current with
    | .error _ => (t, .error .DmaError)
    | .ok _ =>
      if i = num - 1 then allocLoop vq num k (setNextIn t current 0) (i + 1) current
      else allocLoop vq num k (setNextIn t current (current + 1)) (i + 1) (current + 1)

/-- `alloc_desc_chain(num)`: the chain starts at `free_head` and takes the
following indices by arithmetic, then `free_head = (current + 1) % queue_size`. -/
def allocDescChain (vq : Virtqueue) (num : Nat) : Virtqueue × Except VirtioError Nat :=
  if num = 0 ∨ num > vq.queueSize ∨ vq.numFree < num then (vq, .error .InvalidParam)
  else
    let head := vq.freeHead
    match allocLoop vq num num vq.desc 0 head with
    | (t, .ok current) =>
      ({ vq with
          desc := t
          freeHead := (current + 1) % vq.queueSize
          numFree := vq.numFree - num }, .ok head)
    | (t, .error e) => ({ vq with desc := t }, .error e)

private theorem linkTable_of_le (t : Nat → Descriptor) {q c : Nat} (k : Nat) (h : q ≤ c) :
    linkTable t q c k = t := by
  funext j; simp only [linkTable]; rw [if_neg (by omega)]

private theorem linkTable_one (t : Nat → Descriptor) {q c : Nat} (h : c < q) :
    setNextIn t c 0 = linkTable t q c 1 := by
  funext j; simp only [linkTable, setNextIn]
  by_cases hj : j = c
  · simp [hj, h]
  · rw [if_neg hj, if_neg (by omega)]

private theorem linkTable_succ (t : Nat → Descriptor) {q c k : Nat} (h : c < q) (hk : 0 < k) :
    linkTable (setNextIn t c (c + 1)) q (c + 1) k = linkTable t q c (k + 1) := by
  funext j; simp only [linkTable, setNextIn]
  by_cases hj : j = c
  · subst hj
    rw [if_neg (by omega), if_pos rfl, if_pos (by omega), if_neg (by omega)]
  · rw [if_neg hj, show c + 1 + k = c + (k + 1) by omega]
    by_cases hr : c ≤ j ∧ j < c + (k + 1) ∧ j < q
    · rw [if_pos (by omega), if_pos hr]
    · rw [if_neg (by omega), if_neg hr]

/-- **The allocation loop.** From descriptor `c` with `k ≥ 1` iterations
left it links `c, …, c + k - 1`; it fails with `DmaError` when that range
runs past the queue, keeping the links it has already written. -/
theorem allocLoop_eq (vq : Virtqueue) (num : Nat) :
    ∀ k t i c, i + k = num → 0 < k →
      allocLoop vq num k t i c =
        (linkTable t vq.queueSize c k,
          if c + k ≤ vq.queueSize then .ok (c + k - 1) else .error .DmaError) := by
  intro k
  induction k with
  | zero => intro _ _ _ _ h; omega
  | succ k ih =>
      intro t i c hik _
      by_cases hc : c < vq.queueSize
      · simp only [allocLoop, vq.getDescriptorPtr_ok hc]
        by_cases hi : i = num - 1
        · obtain rfl : k = 0 := by omega
          simp [hi, allocLoop, linkTable_one t hc, Nat.succ_le_of_lt hc]
        · rw [if_neg hi, ih _ (i + 1) (c + 1) (by omega) (by omega), linkTable_succ t hc (by omega),
            show c + 1 + k = c + (k + 1) by omega]
      · simp only [allocLoop, vq.getDescriptorPtr_error (Nat.not_lt.1 hc),
          linkTable_of_le _ _ (Nat.not_lt.1 hc),
          if_neg (show ¬ c + (k + 1) ≤ vq.queueSize by omega)]

/-- **`alloc_desc_chain`, completely.** A request outside
`1 ≤ num ≤ min queue_size num_free` is refused and changes nothing;
otherwise the descriptors `free_head, …, free_head + num - 1` below the
queue size are linked in order, and the call succeeds exactly when all
of them are below it. -/
theorem allocDescChain_eq (vq : Virtqueue) (num : Nat) :
    vq.allocDescChain num =
      if num = 0 ∨ num > vq.queueSize ∨ vq.numFree < num then (vq, .error .InvalidParam)
      else if vq.freeHead + num ≤ vq.queueSize then
        ({ vq with
            desc := linkTable vq.desc vq.queueSize vq.freeHead num
            freeHead := (vq.freeHead + num) % vq.queueSize
            numFree := vq.numFree - num }, .ok vq.freeHead)
      else ({ vq with desc := linkTable vq.desc vq.queueSize vq.freeHead num }, .error .DmaError) := by
  unfold allocDescChain
  dsimp only
  split_ifs with hp hfit
  · rfl
  · rw [allocLoop_eq vq num num vq.desc 0 vq.freeHead (by omega) (by omega), if_pos hfit]
    simp only [show vq.freeHead + num - 1 + 1 = vq.freeHead + num by omega]
  · rw [allocLoop_eq vq num num vq.desc 0 vq.freeHead (by omega) (by omega), if_neg hfit]

/-- A refused request leaves the handle as it was. -/
theorem allocDescChain_invalidParam (vq : Virtqueue) {num : Nat}
    (h : num = 0 ∨ num > vq.queueSize ∨ vq.numFree < num) :
    vq.allocDescChain num = (vq, .error .InvalidParam) := by
  rw [allocDescChain_eq, if_pos h]

/-- `alloc_desc_chain` succeeds exactly when the chain fits contiguously
above `free_head`. -/
theorem allocDescChain_ok_iff (vq : Virtqueue) (num head : Nat) :
    (vq.allocDescChain num).2 = .ok head ↔
      0 < num ∧ num ≤ vq.numFree ∧ vq.freeHead + num ≤ vq.queueSize ∧ head = vq.freeHead := by
  rw [allocDescChain_eq]
  split_ifs with hp hfit <;> simp only [Except.ok.injEq, reduceCtorEq, false_iff] <;> omega

/-! ## `free_desc_chain` -/

/-- The walk of `free_desc_chain`'s `loop`, with `fuel` iterations allowed:
from `current`, count the descriptor and stop on an invalid index or on
`next = 0`; `none` if the loop has not ended within `fuel` iterations. -/
def freeWalk (vq : Virtqueue) : Nat → Nat → Nat → Option (Nat × Nat)
  | 0, _, _ => none
  | fuel + 1, current, count =>
    match vq.getDescriptorPtr current with
    | .ok _ =>
      if (vq.desc current).next = 0 then some (current, count + 1)
      else freeWalk vq fuel (vq.desc current).next (count + 1)
    | .error _ => some (current, count + 1)

/-- `free_desc_chain(head)`, given `fuel` iterations of its loop: link the
tail found by the walk to `free_head`, make `head` the new `free_head` and
add the walk's count to `num_free`. -/
def freeDescChain (fuel : Nat) (vq : Virtqueue) (head : Nat) : Option Virtqueue :=
  match freeWalk vq fuel head 0 with
  | none => none
  | some (current, count) =>
    let desc := match vq.getDescriptorPtr current with
      | .ok _ => setNextIn vq.desc current vq.freeHead
      | .error _ => vq.desc
    some { vq with desc, freeHead := head, numFree := (vq.numFree + count) % 2 ^ 16 }

/-- More fuel does not change a walk that has ended. -/
theorem freeWalk_add (vq : Virtqueue) {fuel c n : Nat} {r : Nat × Nat}
    (h : freeWalk vq fuel c n = some r) (m : Nat) : freeWalk vq (fuel + m) c n = some r := by
  induction fuel generalizing c n with
  | zero => simp [freeWalk] at h
  | succ fuel ih =>
      rw [show fuel + 1 + m = fuel + m + 1 by omega]
      simp only [freeWalk] at h ⊢
      split at h
      · split_ifs at h ⊢ with hn
        · exact h
        · exact ih h
      · exact h

/-! ## Descriptors and rings -/

/-- `set_descriptor(index, addr, len, flags, next)`. -/
def setDescriptor (vq : Virtqueue) (index addr len flags next : Nat) :
    Virtqueue × Except VirtioError Unit :=
  match vq.getDescriptorPtr index with
  | .ok _ =>
    ({ vq with desc := fun j => if j = index then ⟨addr, len, flags, next⟩ else vq.desc j }, .ok ())
  | .error _ => (vq, .error .InvalidParam)

/-- `set_descriptor` on an index inside the table. -/
theorem setDescriptor_of_lt (vq : Virtqueue) {index : Nat} (addr len flags next : Nat)
    (hi : index < vq.queueSize) :
    vq.setDescriptor index addr len flags next =
      ({ vq with desc := fun j => if j = index then ⟨addr, len, flags, next⟩ else vq.desc j }, .ok ()) := by
  simp only [setDescriptor, vq.getDescriptorPtr_ok hi]

/-- `set_descriptor` writes the table only. -/
theorem setDescriptor_rings (vq : Virtqueue) (index addr len flags next : Nat) :
    (vq.setDescriptor index addr len flags next).1.avail = vq.avail ∧
      (vq.setDescriptor index addr len flags next).1.used = vq.used ∧
      (vq.setDescriptor index addr len flags next).1.lastUsedIdx = vq.lastUsedIdx := by
  unfold setDescriptor
  split <;> exact ⟨rfl, rfl, rfl⟩

/-- The available-ring slot the next `add_to_avail` writes. -/
def availSlot (vq : Virtqueue) : Nat := vq.avail.idx % vq.queueSize

/-- `add_to_avail(desc_index)`: store the head at `avail.idx % queue_size`,
then advance `avail.idx` with `wrapping_add`. -/
def addToAvail (vq : Virtqueue) (descIndex : Nat) : Virtqueue × Except VirtioError Unit :=
  let currentIdx := vq.avail.idx
  let ringIndex := currentIdx % vq.queueSize
  ({ vq with
      avail := { vq.avail with
        ring := fun j => if j = ringIndex then descIndex else vq.avail.ring j
        idx := (currentIdx + 1) % 2 ^ 16 } }, .ok ())

/-- `has_used`: the device has published past `last_used_idx`. -/
def hasUsed (vq : Virtqueue) : Bool := vq.used.idx != vq.lastUsedIdx

/-- The used-ring slot the next `get_used_elem` reads. -/
def usedSlot (vq : Virtqueue) : Nat := vq.lastUsedIdx % vq.queueSize

/-- `get_used_elem`: the element at `last_used_idx % queue_size`, then
`last_used_idx` advanced with `wrapping_add`; `None` when nothing is new. -/
def getUsedElem (vq : Virtqueue) : Virtqueue × Option UsedElem :=
  if vq.used.idx = vq.lastUsedIdx then (vq, none)
  else
    let usedIdx := vq.lastUsedIdx % vq.queueSize
    if usedIdx ≥ vq.queueSize then (vq, none)
    else ({ vq with lastUsedIdx := (vq.lastUsedIdx + 1) % 2 ^ 16 }, some (vq.used.ring usedIdx))

theorem availSlot_lt (vq : Virtqueue) : vq.availSlot < vq.queueSize :=
  Nat.mod_lt _ vq.queueSize_pos

theorem usedSlot_lt (vq : Virtqueue) : vq.usedSlot < vq.queueSize :=
  Nat.mod_lt _ vq.queueSize_pos

@[simp] theorem addToAvail_idx (vq : Virtqueue) (d : Nat) :
    (vq.addToAvail d).1.avail.idx = (vq.avail.idx + 1) % 2 ^ 16 := rfl

@[simp] theorem addToAvail_ring (vq : Virtqueue) (d j : Nat) :
    (vq.addToAvail d).1.avail.ring j = if j = vq.availSlot then d else vq.avail.ring j := rfl

@[simp] theorem addToAvail_queueSize (vq : Virtqueue) (d : Nat) :
    (vq.addToAvail d).1.queueSize = vq.queueSize := rfl

/-- `get_used_elem` returns the element at `usedSlot` exactly when the
device is ahead, and then advances `last_used_idx` by one modulo `2 ^ 16`. -/
theorem getUsedElem_eq (vq : Virtqueue) :
    vq.getUsedElem =
      if vq.used.idx = vq.lastUsedIdx then (vq, none)
      else ({ vq with lastUsedIdx := (vq.lastUsedIdx + 1) % 2 ^ 16 },
        some (vq.used.ring vq.usedSlot)) := by
  unfold getUsedElem
  by_cases h1 : vq.used.idx = vq.lastUsedIdx
  · simp [h1]
  · simp only [h1, if_false]
    exact if_neg (Nat.not_le.2 vq.usedSlot_lt)

end Virtqueue
end VirtioBoot.Virtio.Queue
