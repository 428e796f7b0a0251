import VirtioBoot.Kernel.Elf
import VirtioBoot.Virtio.Blk

/-!
# Staging the kernel image (`kernel/loader.rs`)

`KernelLoader::load_kernel_raw` looks for the sector where the ELF image
starts: sector `0` if it begins with the magic, otherwise the first of the
sectors `1 .. 99` that does, otherwise sector `1`. It then copies that sector
and every later one up to sector `1967` into the staging buffer at
`0x81000000`, sector after sector, 512 bytes each, and records how many bytes
it staged. `get_elf_data_with_offset` hands those bytes to the ELF parser.

The loader uses two calls of the block device, `initialize` (here
`initializeDevice`, as in `VirtioBoot.Virtio.Blk`) and `read_block`. It is
written against them (`BlockDevice`), and `virtioBlk` is the driver of
`VirtioBoot.Virtio.Blk` seen through them. The progress bar, the delays, the
console output and the final signature check only print, and they have no
effect in the model.

## Main results

* `loadKernelRaw_safe` — whatever the device returns, `load_kernel_raw`
  writes only inside the staging buffer, never reports `BufferTooSmall`,
  and returns `Ok` only with every sector from the detected start on staged.
* `detectElfStartSector_eq` — when every read succeeds, detection finds
  `expectedStartSector`.
* `readLoop_spec` — the bulk-read loop stages each sector at its offset and
  writes nothing else.
* `loadKernelRaw_stages` — with a device whose reads return the stored
  sectors, `load_kernel_raw` stages sectors `s* .. 1967` and
  `get_elf_data_with_offset` returns exactly them.
-/

namespace VirtioBoot.Kernel.Loader

open VirtioBoot.Machine.Bytes
open VirtioBoot.Virtio.Queue
open VirtioBoot.Virtio.Device
open VirtioBoot.Kernel.Elf

/-! ## The loader -/

/-- `SAFE_BUFFER_BASE`: the staging buffer. -/
def SAFE_BUFFER_BASE : Nat := 0x81000000

/-- `BUFFER_SIZE`: one MiB. -/
def BUFFER_SIZE : Nat := 0x100000

/-- The variants of `KernelError` that the loader and `create_kernel_loader`
return. -/
inductive KernelError where
  | DeviceNotFound
  | InitFailed
  | IoError
  | BufferTooSmall
  deriving DecidableEq, Repr

/-- The two calls the loader makes on its block device, on the device's
state `σ`. `readBlock` reads one sector into a 512-byte buffer and returns
the buffer. -/
structure BlockDevice (σ : Type) where
  initializeDevice : σ → σ × Except VirtioError Unit
  readBlock : Nat → σ → σ × Except VirtioError (List UInt8)

/-- The virtio-blk driver as a `BlockDevice`. -/
def virtioBlk (env : Env) : BlockDevice Sys :=
  ⟨Virtio.Blk.initializeDevice env, fun blockId s => Virtio.Blk.readBlock env blockId 512 s⟩

/-- `KernelLoader`. -/
structure KernelLoader (σ : Type) where
  blkDevice : σ
  deviceInitialized : Bool
  elfStartSector : Option Nat
  bytesLoaded : Nat

/-- `KernelLoader::new`. -/
def KernelLoader.new {σ : Type} (blkDevice : σ) : KernelLoader σ := ⟨blkDevice, false, none, 0⟩

/-- `is_elf_signature`: `data.len() >= 4` and the first four bytes are
`7F 'E' 'L' 'F'`. -/
def isElfSignature (data : List UInt8) : Bool := decide (data.take 4 = ELF_MAGIC)

section Loader

variable {σ : Type} (dev : BlockDevice σ)

/-- `for sector in 1..100` of `detect_elf_start_sector`, from `sector` on
with `n` sectors left. A failed read is skipped. -/
def detectLoop : Nat → Nat → σ → σ × Nat
  | 0, _, d => (d, 1)
  | n + 1, sector, d =>
    match dev.readBlock sector d with
    | (d, .ok sectorData) =>
      if isElfSignature sectorData then (d, sector) else detectLoop n (sector + 1) d
    | (d, .error _) => detectLoop n (sector + 1) d

/-- `detect_elf_start_sector`. It never returns `Err`, so the model returns
the sector. -/
def detectElfStartSector (d : σ) : σ × Nat :=
  match dev.readBlock 0 d with
  | (d, .ok sectorData) => if isElfSignature sectorData then (d, 0) else detectLoop dev 99 1 d
  | (d, .error _) => detectLoop dev 99 1 d

/-- The bulk-read loop of `load_kernel_raw`, from `sector_offset` on with `n`
sectors left. Each sector goes to `SAFE_BUFFER_BASE + sector_offset * 512`
by `copy_nonoverlapping`. -/
def readLoop (startSector : Nat) :
    Nat → Nat → KernelLoader σ × Mem → (KernelLoader σ × Mem) × Except KernelError Unit
  | 0, _, st => (st, .ok ())
  | n + 1, sectorOffset, (l, m) =>
    match dev.readBlock (startSector + sectorOffset) l.blkDevice with
    | (d, .error _) => (({ l with blkDevice := d }, m), .error .IoError)
    | (d, .ok sectorData) =>
      let offsetInBuffer := sectorOffset * 512
      if offsetInBuffer + 512 > BUFFER_SIZE then
        (({ l with blkDevice := d }, m), .error .BufferTooSmall)
      else
        readLoop startSector n (sectorOffset + 1)
          ({ l with blkDevice := d, bytesLoaded := offsetInBuffer + 512 },
            storeBytes m (SAFE_BUFFER_BASE + offsetInBuffer) (fun i => sectorData.getD i 0) 512)

/-- `load_kernel_raw`. -/
def KernelLoader.loadKernelRaw (l : KernelLoader σ) (m : Mem) :
    (KernelLoader σ × Mem) × Except KernelError Unit :=
  let init : KernelLoader σ × Except KernelError Unit :=
    if ¬ l.deviceInitialized then
      match dev.initializeDevice l.blkDevice with
      | (d, .error _) => ({ l with blkDevice := d }, .error .InitFailed)
      | (d, .ok ()) => ({ l with blkDevice := d, deviceInitialized := true }, .ok ())
    else (l, .ok ())
  match init with
  | (l, .error e) => ((l, m), .error e)
  | (l, .ok ()) =>
    let (d, startSector) := detectElfStartSector dev l.blkDevice
    let l := { l with blkDevice := d, elfStartSector := some startSector }
    let sectorsToRead := 1968 - startSector
    if sectorsToRead = 0 then ((l, m), .error .IoError)
    else readLoop dev startSector sectorsToRead 0 ({ l with bytesLoaded := 0 }, m)

/-- `find_and_load_kernel`. -/
def KernelLoader.findAndLoadKernel (l : KernelLoader σ) (m : Mem) :
    (KernelLoader σ × Mem) × Except KernelError Unit :=
  l.loadKernelRaw dev m

end Loader

/-- `get_elf_data_with_offset`: the `bytes_loaded` bytes at
`SAFE_BUFFER_BASE`, and offset `0`. -/
def KernelLoader.getElfDataWithOffset {σ : Type} (l : KernelLoader σ) (m : Mem) : List UInt8 × Nat :=
  (m.read SAFE_BUFFER_BASE l.bytesLoaded, 0)

/-! ## Any device -/

section AnyDevice

variable {σ : Type} (dev : BlockDevice σ)

/-- The scan returns one of the sectors it reads, or `1`. -/
theorem detectLoop_lt : ∀ (n sector : Nat) (d : σ), (detectLoop dev n sector d).2 < max 2 (sector + n)
  | 0, _, _ => by simp [detectLoop]
  | n + 1, sector, d => by
    have ih := detectLoop_lt n (sector + 1)
    simp only [detectLoop]
    split
    · split_ifs
      · omega
      · have := ih ‹_›; omega
    · have := ih ‹_›; omega

/-- The detected start sector is at most `99`. -/
theorem detectElfStartSector_le (d : σ) : (detectElfStartSector dev d).2 ≤ 99 := by
  have := detectLoop_lt dev 99 1
  unfold detectElfStartSector
  split
  · split_ifs
    · exact Nat.zero_le _
    · have := this ‹_›; omega
  · have := this ‹_›; omega

/-- Whatever the device returns, the bulk-read loop writes only inside the
buffer and never reports `BufferTooSmall`, and an `Ok` comes after every
sector was read. -/
theorem readLoop_any (start : Nat) : ∀ (n k : Nat) (st : KernelLoader σ × Mem), k + n ≤ 1968 →
    (∀ a, ¬ (SAFE_BUFFER_BASE ≤ a ∧ a < SAFE_BUFFER_BASE + BUFFER_SIZE) →
        (readLoop dev start n k st).1.2 a = st.2 a) ∧
      (readLoop dev start n k st).2 ≠ .error .BufferTooSmall ∧
      ((readLoop dev start n k st).2 = .ok () → 0 < n →
        (readLoop dev start n k st).1.1.bytesLoaded = (k + n) * 512 ∧
          (readLoop dev start n k st).1.1.elfStartSector = st.1.elfStartSector)
  | 0, _, _, _ => ⟨fun _ _ => rfl, by simp [readLoop], fun _ h => absurd h (Nat.lt_irrefl 0)⟩
  | n + 1, k, (l, m), hk => by
    rw [readLoop]
    rcases dev.readBlock (start + k) l.blkDevice with ⟨d, _ | sectorData⟩
    · exact ⟨fun _ _ => rfl, by simp, by simp⟩
    dsimp only
    rw [if_neg (by unfold BUFFER_SIZE; omega)]
    obtain ⟨h1, h2, h3⟩ := readLoop_any start n (k + 1) _ (by omega)
    refine ⟨fun a ha => ?_, h2, fun hok _ => ?_⟩
    · rw [h1 a ha]
      dsimp only
      rw [storeBytes_apply_of_le _ _ _ (by unfold SAFE_BUFFER_BASE addrSpace; omega),
        if_neg (by unfold BUFFER_SIZE at ha; omega)]
    · rcases Nat.eq_zero_or_pos n with rfl | hn
      · exact ⟨by simp only [readLoop]; ring, rfl⟩
      · obtain ⟨h4, h5⟩ := h3 hok hn
        exact ⟨by rw [h4]; ring, h5⟩

/-- **Whatever the device returns**, `load_kernel_raw` writes no byte
outside `[SAFE_BUFFER_BASE, SAFE_BUFFER_BASE + BUFFER_SIZE)` and never
reports `BufferTooSmall`. When it returns `Ok`, the start sector `s` it
recorded is at most `99` and `bytes_loaded` is `(1968 - s) * 512`: no
sector is missing from the staged bytes. `m` is the memory the loader
writes; the driver's own stores (the request header at `0x80070040`, the
descriptors and rings at `0x80070000`, the data buffer at `0x80070050`) are
part of the device state `σ`, as in `VirtioBoot.Virtio.Blk`. -/
theorem loadKernelRaw_safe (l : KernelLoader σ) (m : Mem) :
    (∀ a, ¬ (SAFE_BUFFER_BASE ≤ a ∧ a < SAFE_BUFFER_BASE + BUFFER_SIZE) →
        (l.loadKernelRaw dev m).1.2 a = m a) ∧
      (l.loadKernelRaw dev m).2 ≠ .error .BufferTooSmall ∧
      ((l.loadKernelRaw dev m).2 = .ok () → ∃ s ≤ 99,
        (l.loadKernelRaw dev m).1.1.elfStartSector = some s ∧
          (l.loadKernelRaw dev m).1.1.bytesLoaded = (1968 - s) * 512) := by
  unfold KernelLoader.loadKernelRaw
  dsimp only
  split
  · rename_i l' e h
    refine ⟨fun _ _ => rfl, fun he => ?_, by simp⟩
    cases he
    split_ifs at h <;> (try split at h) <;> cases h
  · rename_i l' _
    have hs := detectElfStartSector_le dev l'.blkDevice
    generalize detectElfStartSector dev l'.blkDevice = ds at hs ⊢
    obtain ⟨d, s⟩ := ds
    dsimp only at hs ⊢
    rw [if_neg (by omega)]
    obtain ⟨h1, h2, h3⟩ := readLoop_any dev s (1968 - s) 0
      ({ l' with blkDevice := d, elfStartSector := some s, bytesLoaded := 0 }, m) (by omega)
    refine ⟨h1, h2, fun hok => ?_⟩
    obtain ⟨h4, h5⟩ := h3 hok (by omega)
    exact ⟨s, hs, h5, by rw [h4, Nat.zero_add]⟩

end AnyDevice

/-! ## What the loader stages -/

/-- The sector where the image starts, as the loader's documentation puts
it: sector `0` if it begins with the magic, otherwise the least of `1 .. 99`
that does, otherwise `1`. -/
def expectedStartSector (disk : Disk) : Nat :=
  if (disk.sector 0).take 4 = ELF_MAGIC then 0
  else ((List.range' 1 99).find? fun s => decide ((disk.sector s).take 4 = ELF_MAGIC)).getD 1

/-- Memory after sectors `start + k, …, start + k + n - 1` are copied to the
staging buffer at offsets `k * 512, …`. -/
def stageSectors (disk : Disk) (start k n : Nat) (m : Mem) : Mem := fun a =>
  if SAFE_BUFFER_BASE + k * 512 ≤ a ∧ a < SAFE_BUFFER_BASE + (k + n) * 512 then
    (disk.sector (start + (a - SAFE_BUFFER_BASE) / 512)).getD ((a - SAFE_BUFFER_BASE) % 512) 0
  else m a

/-- Copying sector `start + k` to offset `k * 512` extends the staged range
by one sector. -/
theorem stageSectors_succ (disk : Disk) (start k n : Nat) (m : Mem) (hk : k * 512 + 512 ≤ 2 ^ 63) :
    stageSectors disk start (k + 1) n
        (storeBytes m (SAFE_BUFFER_BASE + k * 512) (fun i => (disk.sector (start + k)).getD i 0) 512) =
      stageSectors disk start k (n + 1) m := by
  funext a
  simp only [stageSectors, storeBytes_apply_of_le m _ _ (show SAFE_BUFFER_BASE + k * 512 + 512 ≤
    addrSpace by unfold SAFE_BUFFER_BASE addrSpace; omega)]
  unfold SAFE_BUFFER_BASE
  by_cases hlo : 0x81000000 + k * 512 ≤ a ∧ a < 0x81000000 + k * 512 + 512
  · have hdiv : (a - 0x81000000) / 512 = k := by omega
    have hmod : (a - 0x81000000) % 512 = a - (0x81000000 + k * 512) := by omega
    simp only [hlo, and_self, if_true, hdiv, hmod,
      show ¬ (0x81000000 + (k + 1) * 512 ≤ a) by omega, false_and, if_false,
      show 0x81000000 + k * 512 ≤ a ∧ a < 0x81000000 + (k + (n + 1)) * 512 by omega]
  · simp only [hlo, if_false]
    split_ifs <;> first | rfl | omega

/-- The detected sector is at most `99`. -/
theorem expectedStartSector_le (disk : Disk) : expectedStartSector disk ≤ 99 := by
  unfold expectedStartSector
  split_ifs
  · omega
  · cases h : (List.range' 1 99).find? fun s => decide ((disk.sector s).take 4 = ELF_MAGIC) with
    | none => simp
    | some s =>
      have := List.mem_range'_1.1 (List.mem_of_find?_eq_some h)
      simp only [Option.getD_some]
      omega

/-- The bytes of sectors `start, start + 1, …` laid end to end: byte `j`
is byte `j mod 512` of sector `start + j / 512`. -/
def sectorBytes (disk : Disk) (start len : Nat) : List UInt8 :=
  (List.range len).map fun j => (disk.sector (start + j / 512)).getD (j % 512) 0

/-- Byte `j` of the staged range. -/
theorem stageSectors_base_add (disk : Disk) (start n : Nat) (m : Mem) {j : Nat} (hj : j < n * 512) :
    stageSectors disk start 0 n m (SAFE_BUFFER_BASE + j) =
      (disk.sector (start + j / 512)).getD (j % 512) 0 := by
  simp [stageSectors, hj]

/-- Outside the staged range nothing changes. -/
theorem stageSectors_of_not_mem (disk : Disk) (start n : Nat) (m : Mem) {a : Nat}
    (ha : ¬ (SAFE_BUFFER_BASE ≤ a ∧ a < SAFE_BUFFER_BASE + n * 512)) :
    stageSectors disk start 0 n m a = m a := by
  simp only [stageSectors, Nat.zero_mul, Nat.add_zero, Nat.zero_add]
  exact if_neg ha

/-- Reading the staged range back gives the sectors laid end to end. -/
theorem read_stageSectors (disk : Disk) (start n : Nat) (m : Mem) :
    (stageSectors disk start 0 n m).read SAFE_BUFFER_BASE (n * 512) = sectorBytes disk start (n * 512) :=
  List.map_congr_left fun _ hj => stageSectors_base_add disk start n m (List.mem_range.1 hj)

/-- The first sector of the staged bytes is sector `start`. -/
theorem sectorBytes_take (disk : Disk) (start : Nat) {len : Nat} (h : 512 ≤ len) :
    (sectorBytes disk start len).take 512 = disk.sector start := by
  apply List.ext_getElem (by simp [sectorBytes, disk.sector_length, h])
  intro j _ h2
  have hj : j < 512 := disk.sector_length start ▸ h2
  simp [sectorBytes, Nat.div_eq_of_lt hj, Nat.mod_eq_of_lt hj, List.getElem?_eq_getElem h2]

@[simp] theorem sectorBytes_length (disk : Disk) (start len : Nat) :
    (sectorBytes disk start len).length = len := by
  simp [sectorBytes]

/-- A device whose `initialize` succeeds and whose reads all return the
stored sector. -/
def storedDevice (disk : Disk) : BlockDevice Unit :=
  ⟨fun d => (d, .ok ()), fun b d => (d, .ok (disk.sector b))⟩

section Spec

variable {σ : Type} (dev : BlockDevice σ) (disk : Disk) {capacity : Nat}
  (hread : ∀ b < capacity, ∀ d, (dev.readBlock b d).2 = .ok (disk.sector b))

include hread

/-- A read below the capacity returns the stored sector. -/
theorem readBlock_eq {b : Nat} (hb : b < capacity) (d : σ) :
    dev.readBlock b d = ((dev.readBlock b d).1, .ok (disk.sector b)) := by
  rw [← hread b hb d]

theorem detectLoop_eq : ∀ (n sector : Nat) (d : σ), sector + n ≤ capacity →
    (detectLoop dev n sector d).2 =
      ((List.range' sector n).find? fun s => isElfSignature (disk.sector s)).getD 1
  | 0, _, _, _ => rfl
  | n + 1, sector, d, h => by
    rw [detectLoop, readBlock_eq dev disk hread (by omega), List.range'_succ, List.find?_cons]
    dsimp only
    cases isElfSignature (disk.sector sector)
    · exact detectLoop_eq n (sector + 1) _ (by omega)
    · rfl

/-- **Detection.** When every read succeeds, `detect_elf_start_sector` finds
the sector `expectedStartSector` describes. -/
theorem detectElfStartSector_eq (hcap : 100 ≤ capacity) (d : σ) :
    (detectElfStartSector dev d).2 = expectedStartSector disk := by
  rw [detectElfStartSector, readBlock_eq dev disk hread (by omega)]
  dsimp only
  by_cases h0 : (disk.sector 0).take 4 = ELF_MAGIC
  · simp [expectedStartSector, isElfSignature, h0]
  · simp only [expectedStartSector, isElfSignature, h0, decide_False, if_false, Bool.false_eq_true]
    exact detectLoop_eq dev disk hread 99 1 _ (by omega)

/-- **The bulk-read loop.** When every read succeeds, the loop from sector
offset `k` with `n` sectors left returns `Ok`, records `(k + n) · 512`
bytes, and stages sectors `start + k, …` at their offsets. It writes no
other address. -/
theorem readLoop_spec (start : Nat) : ∀ (n k : Nat) (l : KernelLoader σ) (m : Mem),
    0 < n → start + k + n ≤ capacity → k + n ≤ 2048 →
    (readLoop dev start n k (l, m)).2 = .ok () ∧
      (readLoop dev start n k (l, m)).1.1.elfStartSector = l.elfStartSector ∧
      (readLoop dev start n k (l, m)).1.1.bytesLoaded = (k + n) * 512 ∧
      (readLoop dev start n k (l, m)).1.2 = stageSectors disk start k n m
  | 0, _, _, _, h0, _, _ => absurd h0 (Nat.lt_irrefl 0)
  | n + 1, k, l, m, _, hcap, hbuf => by
    rw [readLoop, readBlock_eq dev disk hread (by omega)]
    dsimp only
    rw [if_neg (by unfold BUFFER_SIZE; omega)]
    rcases Nat.eq_zero_or_pos n with rfl | hn
    · refine ⟨rfl, rfl, by simp only [readLoop]; ring, ?_⟩
      rw [← stageSectors_succ disk start k 0 m (by omega)]
      funext a
      simp only [readLoop, stageSectors, Nat.add_zero]
      exact (if_neg fun h => absurd (h.1.trans_lt h.2) (Nat.lt_irrefl _)).symm
    · obtain ⟨h1, h2, h3, h4⟩ := readLoop_spec start n (k + 1) _ _ hn (by omega) (by omega)
      refine ⟨h1, h2, by rw [h3]; ring, ?_⟩
      rw [h4, stageSectors_succ disk start k n m (by omega)]

/-- `load_kernel_raw` on a fresh loader whose device initialises, when
every read succeeds: detection, then the bulk-read loop over sectors
`s* .. 1967`. -/
theorem loadKernelRaw_eq (hcap : 1968 ≤ capacity) {d₀ : σ}
    (hinit : (dev.initializeDevice d₀).2 = .ok ()) (m : Mem) :
    (KernelLoader.new d₀).loadKernelRaw dev m =
      readLoop dev (expectedStartSector disk) (1968 - expectedStartSector disk) 0
        (⟨(detectElfStartSector dev (dev.initializeDevice d₀).1).1, true,
          some (expectedStartSector disk), 0⟩, m) := by
  have hi : dev.initializeDevice d₀ = ((dev.initializeDevice d₀).1, .ok ()) := by rw [← hinit]
  have hd : detectElfStartSector dev (dev.initializeDevice d₀).1 =
      ((detectElfStartSector dev (dev.initializeDevice d₀).1).1, expectedStartSector disk) :=
    Prod.ext rfl (detectElfStartSector_eq dev disk hread (by omega) _)
  have hle := expectedStartSector_le disk
  simp only [KernelLoader.loadKernelRaw, KernelLoader.new, Bool.false_eq_true, not_false_eq_true,
    if_true]
  rw [hi]
  dsimp only
  rw [hd, if_neg (by omega)]

end Spec

/-- **Staging.** Take a fresh loader whose device initialises (as every
device of `create_kernel_loader` does) and whose reads below a capacity of
at least `1968` return the stored sectors. Then `load_kernel_raw` returns
`Ok` and sets `elf_start_sector` to the expected sector `s*`. It stages
`(1968 - s*) · 512` bytes, where byte `j` is byte `j mod 512` of sector
`s* + j / 512`, and it writes no other address of `m`: the driver's own
stores (the request header at `0x80070040`, the descriptors and rings, the
data buffer) are part of the device state `σ`. `get_elf_data_with_offset`
returns exactly those bytes, at offset `0`. -/
theorem loadKernelRaw_stages {σ : Type} (dev : BlockDevice σ) (disk : Disk) {capacity : Nat}
    (hcap : 1968 ≤ capacity) (hread : ∀ b < capacity, ∀ d, (dev.readBlock b d).2 = .ok (disk.sector b))
    (d₀ : σ) (hinit : (dev.initializeDevice d₀).2 = .ok ()) (m : Mem) :
    let r := (KernelLoader.new d₀).loadKernelRaw dev m
    let s := expectedStartSector disk
    r.2 = .ok () ∧ r.1.1.elfStartSector = some s ∧ r.1.1.bytesLoaded = (1968 - s) * 512 ∧
      (∀ j < r.1.1.bytesLoaded,
        r.1.2 (SAFE_BUFFER_BASE + j) = (disk.sector (s + j / 512)).getD (j % 512) 0) ∧
      (∀ a, ¬ (SAFE_BUFFER_BASE ≤ a ∧ a < SAFE_BUFFER_BASE + r.1.1.bytesLoaded) → r.1.2 a = m a) ∧
      r.1.1.getElfDataWithOffset r.1.2 =
        ((List.range r.1.1.bytesLoaded).map fun j => (disk.sector (s + j / 512)).getD (j % 512) 0, 0) := by
  intro r s
  have hle := expectedStartSector_le disk
  obtain ⟨h1, h2, h3, h4⟩ := readLoop_spec dev disk hread s (1968 - s) 0
    ⟨(detectElfStartSector dev (dev.initializeDevice d₀).1).1, true, some s, 0⟩ m
    (by omega) (by omega) (by omega)
  have hr : r = _ := loadKernelRaw_eq dev disk hread hcap hinit m
  unfold KernelLoader.getElfDataWithOffset
  rw [hr, h3, h4, Nat.zero_add]
  exact ⟨h1, h2, rfl, fun j hj => stageSectors_base_add disk s _ m hj,
    fun a ha => stageSectors_of_not_mem disk s _ m ha,
    congrArg (·, 0) (read_stageSectors disk s _ m)⟩

/-- The disk whose sectors are all zero. -/
def zeroDisk : Disk := ⟨fun _ => List.replicate 512 0, fun _ => List.length_replicate _ _⟩

theorem loadKernelRaw_stages_zeroDisk :
    1968 ≤ 1968 ∧ (∀ b < 1968, ∀ d, ((storedDevice zeroDisk).readBlock b d).2 = .ok (zeroDisk.sector b)) ∧
      ((storedDevice zeroDisk).initializeDevice ()).2 = .ok () ∧
      let r := (KernelLoader.new ()).loadKernelRaw (storedDevice zeroDisk) (fun _ => 0)
      let s := expectedStartSector zeroDisk
      r.2 = .ok () ∧ r.1.1.elfStartSector = some s ∧ r.1.1.bytesLoaded = (1968 - s) * 512 ∧
        (∀ j < r.1.1.bytesLoaded,
          r.1.2 (SAFE_BUFFER_BASE + j) = (zeroDisk.sector (s + j / 512)).getD (j % 512) 0) ∧
        (∀ a, ¬ (SAFE_BUFFER_BASE ≤ a ∧ a < SAFE_BUFFER_BASE + r.1.1.bytesLoaded) → r.1.2 a = 0) ∧
        r.1.1.getElfDataWithOffset r.1.2 =
          ((List.range r.1.1.bytesLoaded).map fun j =>
            (zeroDisk.sector (s + j / 512)).getD (j % 512) 0, 0) :=
  ⟨le_rfl, fun _ _ _ => rfl, rfl,
    loadKernelRaw_stages (storedDevice zeroDisk) zeroDisk le_rfl (fun _ _ _ => rfl) () rfl _⟩

end VirtioBoot.Kernel.Loader
