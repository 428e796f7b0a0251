import VirtioBoot.Kernel.Segment

/-!
# The boot flow (`examples/minimal_boot.rs`)

`main` creates the kernel loader and stages the image. It then checks the
signature of the staged bytes and parses them. When the entry point lies
in `[0x80000000, 0x90000000)`, it loads every `PT_LOAD` entry and enters
`boot_kernel` at the entry point. Each stage halts the boot when it fails:
`safe_shutdown` when no device is found or staging fails, and
`panic_with_message` when the signature or the parser rejects the bytes.

Two things do not halt the boot. An `Err` from `load_segments` is only
printed as a warning, and `main` still enters `boot_kernel` at the entry
point. An entry point outside the window sends `main` to `boot_kernel` at
`0x80400000` at once, before any segment is loaded. A call of the callback
can halt the boot in `copy_to_address`'s loop, or, in a debug build, in a
panic (`Segment`).

The device is the loader's `BlockDevice`, and `probe` is what
`probe_all_devices` returned, so a run covers every outcome of the device
operations. The hardware delay, `clear_bss` (the bootloader's own `.bss`)
and the console output have no effect in the model.

## Main results

* `main_of_stored` — with a working device, `main` boots from the staged
  sectors.
* `main_gated` — every run ends as `Gated` says. `boot_kernel` is entered
  only after staging and parsing succeed, always with hart `0` and the
  device tree at `0x87000000`. With an entry point in
  `[0x80000000, 0x90000000)` it is entered at that point, after
  `load_segments` has returned `Ok` or `Err` and every callback has
  returned; with any other entry point, at `0x80400000`. Every other run
  halts at the stage that failed.
* `main_boots_loaded` — when staging, parsing and loading succeed, no
  segment with file bytes targets the first page and, in a debug build, no
  segment reaches address `0`, `main` enters `boot_kernel` at the entry
  point over the staged bytes with every segment laid down in order.
* `main_skips_loading`, `main_boots_unloaded` — `main` enters
  `boot_kernel` after `load_segments` returns `Err`, and, on another image,
  at `0x80400000` with no segment loaded.
-/

namespace VirtioBoot.Boot.MinimalBoot

open VirtioBoot.Machine.Bytes
open VirtioBoot.Virtio.Device
open VirtioBoot.Kernel.Elf
open VirtioBoot.Kernel.Loader
open VirtioBoot.Kernel.Segment

/-! ## `main` -/

/-- How a run of `main` ends. `main` never returns, and every end but
`bootKernel` and `undefinedRead` is a loop that never exits. -/
inductive BootOutcome where
  /-- `boot_env::boot_kernel(entry, hartid, dtb)` is entered. -/
  | bootKernel (entry hartid dtb : Nat)
  /-- `safe_shutdown`. -/
  | safeShutdown
  /-- `panic_with_message(msg)`. -/
  | panicWithMessage (msg : String)
  /-- A panic, in `load_segments` or in a debug build's check in the
  callback: the panic handler's loop. -/
  | panicked
  /-- `copy_to_address` stops in its loop. -/
  | hung
  /-- `load_segments` reads a program header outside the staged bytes. The
  model does not follow the run further. -/
  | undefinedRead
  deriving DecidableEq, Repr

/-- `is_valid_entry_point`. -/
def isValidEntryPoint (entryPoint : Nat) : Bool :=
  decide (entryPoint ≥ 0x80000000 ∧ entryPoint < 0x90000000)

/-- The window of `is_valid_entry_point`, as numbers. -/
theorem isValidEntryPoint_iff {entryPoint : Nat} :
    isValidEntryPoint entryPoint = true ↔ 0x80000000 ≤ entryPoint ∧ entryPoint < 0x90000000 := by
  simp [isValidEntryPoint]

/-- `find_elf_signature`: `Some(0)` when the slice starts with the magic. -/
def findElfSignature (data : List UInt8) : Option Nat :=
  if data.length < 4 then none
  else if data.take 4 = ELF_MAGIC then some 0
  else none

/-- `jump_to_kernel`: `boot_kernel(entry_point, 0, 0x87000000)`. -/
def jumpToKernel (entryPoint : Nat) : BootOutcome := .bootKernel entryPoint 0 0x87000000

/-- `kernel::create_kernel_loader`, given what `probe_all_devices` returned. -/
def createKernelLoader {σ : Type} (probe : Option σ) : Except KernelError (KernelLoader σ) :=
  match probe with
  | none => .error .DeviceNotFound
  | some blkDevice => .ok (KernelLoader.new blkDevice)

/-- Lines 58–70 of `main`: `load_segments` with the callback, then the jump.
The callback runs at each call, so a call that does not return ends the run
before anything `load_segments` does after that call. -/
def loadAndJump (mode : Overflow) (parser : ElfParser) (m : Mem) : BootOutcome × Mem :=
  match runCalls mode (parser.loadSegments mode).1 m with
  | (m, .hung) => (.hung, m)
  | (m, .panicked) => (.panicked, m)
  | (m, .returned) =>
    match (parser.loadSegments mode).2 with
    | .error .panic => (.panicked, m)
    | .error .outOfBounds => (.undefinedRead, m)
    | _ => (jumpToKernel parser.entryPoint, m)

/-- Lines 36–78 of `main`: from the staged bytes on. -/
def bootFromBuffer (mode : Overflow) (bufferSlice : List UInt8) (m : Mem) : BootOutcome × Mem :=
  match findElfSignature bufferSlice with
  | none => (.panicWithMessage "没有有效的内核文件", m)
  | some offset =>
    match ElfParser.new (bufferSlice.drop offset) with
    | .error _ => (.panicWithMessage "ELF解析失败", m)
    | .ok parser =>
      if ¬ isValidEntryPoint parser.entryPoint then (jumpToKernel 0x80400000, m)
      else loadAndJump mode parser m

/-- `main`. -/
def main {σ : Type} (mode : Overflow) (dev : BlockDevice σ) (probe : Option σ) (m : Mem) :
    BootOutcome × Mem :=
  match createKernelLoader probe with
  | .error _ => (.safeShutdown, m)
  | .ok loader =>
    match loader.findAndLoadKernel dev m with
    | ((_, m), .error _) => (.safeShutdown, m)
    | ((loader, m), .ok ()) => bootFromBuffer mode (loader.getElfDataWithOffset m).1 m

/-! ## What each stage needs -/

/-- The signature check passes whenever the parser would accept. -/
theorem findElfSignature_of_new {data : List UInt8} {p : ElfParser} (h : ElfParser.new data = .ok p) :
    findElfSignature data = some 0 := by
  rw [ElfParser.new_eq] at h
  split_ifs at h with hlen hm
  simp only [findElfSignature, hm, if_true]
  rw [if_neg (by omega)]

/-- A run that the parser accepts: the jump, or the loading. -/
theorem bootFromBuffer_of_new (mode : Overflow) {data : List UInt8} {p : ElfParser}
    (h : ElfParser.new data = .ok p) (m : Mem) :
    bootFromBuffer mode data m =
      if isValidEntryPoint p.entryPoint then loadAndJump mode p m
      else (jumpToKernel 0x80400000, m) := by
  rw [bootFromBuffer, findElfSignature_of_new h]
  dsimp only
  rw [List.drop_zero, h]
  dsimp only
  cases isValidEntryPoint p.entryPoint <;> rfl

/-- **Booting from a working device.** With a probed device whose
`initialize` succeeds and whose reads return the stored sectors, `main`
boots from sectors `s* .. 1967` laid end to end, over memory that holds the
staged bytes. -/
theorem main_of_stored {σ : Type} (mode : Overflow) (dev : BlockDevice σ) (disk : Disk)
    {capacity : Nat} (hcap : 1968 ≤ capacity)
    (hread : ∀ b < capacity, ∀ d, (dev.readBlock b d).2 = .ok (disk.sector b))
    {d₀ : σ} (hinit : (dev.initializeDevice d₀).2 = .ok ()) (m : Mem) :
    main mode dev (some d₀) m =
      bootFromBuffer mode
        (sectorBytes disk (expectedStartSector disk) ((1968 - expectedStartSector disk) * 512))
        (stageSectors disk (expectedStartSector disk) 0 (1968 - expectedStartSector disk) m) := by
  have hle := expectedStartSector_le disk
  obtain ⟨h1, -, h3, h4⟩ := readLoop_spec dev disk hread (expectedStartSector disk)
    (1968 - expectedStartSector disk) 0
    ⟨(detectElfStartSector dev (dev.initializeDevice d₀).1).1, true,
      some (expectedStartSector disk), 0⟩ m (by omega) (by omega) (by omega)
  simp only [main, createKernelLoader, KernelLoader.findAndLoadKernel,
    loadKernelRaw_eq dev disk hread hcap hinit m]
  generalize readLoop dev _ _ 0 _ = r at h1 h3 h4
  obtain ⟨⟨l, m₁⟩, r₂⟩ := r
  cases h1
  dsimp only at h3 h4 ⊢
  rw [KernelLoader.getElfDataWithOffset, h3, h4, Nat.zero_add, read_stageSectors]

/-! ## The contract -/

section Contract

variable {σ : Type} (mode : Overflow) (dev : BlockDevice σ) (probe : Option σ) (m : Mem)

/-- Staging succeeded: the device was found, `find_and_load_kernel`
returned `Ok`, and `data` are the staged bytes over memory `m₁`. -/
def Staged (data : List UInt8) (m₁ : Mem) : Prop :=
  ∃ d₀ l, probe = some d₀ ∧ (KernelLoader.new d₀).findAndLoadKernel dev m = ((l, m₁), .ok ()) ∧
    (l.getElfDataWithOffset m₁).1 = data

/-- `load_segments` returned, `Ok` or `Err`, and every callback it made
returned. -/
def Loaded (p : ElfParser) (m₁ : Mem) : Prop :=
  (runCalls mode (p.loadSegments mode).1 m₁).2 = .returned ∧
    ((p.loadSegments mode).2 = .ok () ∨ ∃ msg, (p.loadSegments mode).2 = .error (.err msg))

/-- How a run of `main` may end. `boot_kernel` is entered only after
staging and parsing succeed, with hart `0` and the device tree at
`0x87000000`: at the entry point after the segments are loaded when the
entry point lies in `[0x80000000, 0x90000000)`, and at `0x80400000`
otherwise. Every other end is a halt at the stage that failed; only a
release build reads a header outside the staged bytes. -/
def Gated : BootOutcome → Prop
  | .bootKernel entry hartid dtb =>
    hartid = 0 ∧ dtb = 0x87000000 ∧
      ∃ data m₁ p, Staged dev probe m data m₁ ∧ ElfParser.new data = .ok p ∧
        if 0x80000000 ≤ p.entryPoint ∧ p.entryPoint < 0x90000000 then
          entry = p.entryPoint ∧ Loaded mode p m₁
        else entry = 0x80400000
  | .safeShutdown =>
    probe = none ∨ ∃ d₀, probe = some d₀ ∧ ((KernelLoader.new d₀).findAndLoadKernel dev m).2 ≠ .ok ()
  | .panicWithMessage _ => ∃ data m₁, Staged dev probe m data m₁ ∧ ∀ p, ElfParser.new data ≠ .ok p
  | .hung =>
    ∃ data m₁ p, Staged dev probe m data m₁ ∧ ElfParser.new data = .ok p ∧
      (0x80000000 ≤ p.entryPoint ∧ p.entryPoint < 0x90000000) ∧
      (runCalls mode (p.loadSegments mode).1 m₁).2 = .hung
  | .panicked =>
    ∃ data m₁ p, Staged dev probe m data m₁ ∧ ElfParser.new data = .ok p ∧
      (0x80000000 ≤ p.entryPoint ∧ p.entryPoint < 0x90000000) ∧
      ((runCalls mode (p.loadSegments mode).1 m₁).2 = .panicked ∨
        (runCalls mode (p.loadSegments mode).1 m₁).2 = .returned ∧
          (p.loadSegments mode).2 = .error .panic)
  | .undefinedRead =>
    ∃ data m₁ p, Staged dev probe m data m₁ ∧ ElfParser.new data = .ok p ∧
      (0x80000000 ≤ p.entryPoint ∧ p.entryPoint < 0x90000000) ∧ mode = .wraps ∧
      (runCalls mode (p.loadSegments mode).1 m₁).2 = .returned ∧
      (p.loadSegments mode).2 = .error .outOfBounds

/-- The loading stage ends as `Gated` says. -/
theorem loadAndJump_gated {data : List UInt8} {m₁ : Mem} (hs : Staged dev probe m data m₁)
    {p : ElfParser} (hp : ElfParser.new data = .ok p)
    (hv : 0x80000000 ≤ p.entryPoint ∧ p.entryPoint < 0x90000000) :
    Gated mode dev probe m (loadAndJump mode p m₁).1 := by
  unfold loadAndJump
  rcases hr : runCalls mode (p.loadSegments mode).1 m₁ with ⟨m₂, _ | _ | _⟩
  · -- every call returned: how `load_segments` ended decides
    rcases hres : (p.loadSegments mode).2 with (msg | _ | _) | ⟨⟩
    · exact ⟨rfl, rfl, data, m₁, p, hs, hp, by rw [if_pos hv]; exact ⟨rfl, by rw [hr], .inr ⟨msg, hres⟩⟩⟩
    · exact ⟨data, m₁, p, hs, hp, hv, .inr ⟨by rw [hr], hres⟩⟩
    · have hw : mode = .wraps := by
        cases mode
        · exact absurd hres (loadSegments_debug_ne_outOfBounds p)
        · rfl
      exact ⟨data, m₁, p, hs, hp, hv, hw, by rw [hr], hres⟩
    · exact ⟨rfl, rfl, data, m₁, p, hs, hp, by rw [if_pos hv]; exact ⟨rfl, by rw [hr], .inl hres⟩⟩
  · exact ⟨data, m₁, p, hs, hp, hv, by rw [hr]⟩
  · exact ⟨data, m₁, p, hs, hp, hv, .inl (by rw [hr])⟩

/-- Everything after staging ends as `Gated` says. -/
theorem bootFromBuffer_gated {data : List UInt8} {m₁ : Mem} (hs : Staged dev probe m data m₁) :
    Gated mode dev probe m (bootFromBuffer mode data m₁).1 := by
  rcases hp : ElfParser.new data with _ | p
  · have hno : ∀ p, ElfParser.new data ≠ .ok p := fun p h => by simp [hp] at h
    unfold bootFromBuffer
    split
    · exact ⟨data, m₁, hs, hno⟩
    · rename_i offset hsig
      have h0 : offset = 0 := by
        unfold findElfSignature at hsig
        split_ifs at hsig
        exact (Option.some_injective _ hsig).symm
      subst h0
      simp only [List.drop_zero, hp]
      exact ⟨data, m₁, hs, hno⟩
  · rw [bootFromBuffer_of_new mode hp]
    by_cases hv : 0x80000000 ≤ p.entryPoint ∧ p.entryPoint < 0x90000000
    · rw [if_pos (isValidEntryPoint_iff.2 hv)]
      exact loadAndJump_gated mode dev probe m hs hp hv
    · rw [if_neg (mt isValidEntryPoint_iff.1 hv)]
      exact ⟨rfl, rfl, data, m₁, p, hs, hp, by rw [if_neg hv]⟩

end Contract

/-- **Boot gating.** Every run of `main`, in either build, for every disk
image and every outcome of the device operations, ends as `Gated` says. -/
theorem main_gated {σ : Type} (mode : Overflow) (dev : BlockDevice σ) (probe : Option σ) (m : Mem) :
    Gated mode dev probe m (main mode dev probe m).1 := by
  rcases probe with _ | d₀
  · exact .inl rfl
  · unfold main
    simp only [createKernelLoader]
    rcases h : (KernelLoader.new d₀).findAndLoadKernel dev m with ⟨⟨l, m₁⟩, _ | ⟨⟩⟩
    · exact .inr ⟨d₀, rfl, by rw [h]; simp⟩
    · exact bootFromBuffer_gated mode dev _ m ⟨d₀, l, rfl, h, rfl⟩

/-! ## A run that boots with its segments loaded -/

/-- A call with no file bytes in the first page, and, in a debug build,
clear of address `0` and of the top of the address space, returns. -/
theorem callEnd_returned (mode : Overflow) {l : Load} (hv : l.vaddr < 2 ^ 64)
    (hlow : 0 < l.src.length → 0x1000 ≤ l.vaddr)
    (hwrap : mode = .panics → 0 < l.vaddr ∧ l.vaddr + max l.src.length l.memsz ≤ 2 ^ 64) :
    callEnd mode l = .returned := by
  have hhung : ¬ (0 < l.src.length ∧ l.vaddr < 0x1000) := fun h => by have := hlow h.1; omega
  have hnull : ¬ (mode = .panics ∧ (offsetFrom l.vaddr 0 < l.src.length ∨
      l.src.length < l.memsz ∧ offsetFrom l.vaddr 0 = l.src.length)) := by
    rintro ⟨hm, h⟩
    obtain ⟨h0, htop⟩ := hwrap hm
    have := le_max_left l.src.length l.memsz
    have := le_max_right l.src.length l.memsz
    unfold offsetFrom addrSpace at h
    omega
  rw [callEnd, if_neg hhung, if_neg hnull]

/-- **A boot that loads its image.** With a working device, suppose the
staged bytes parse, the entry point is valid, `load_segments` returns `Ok`
or an `Err` with a message, and no call with file bytes targets an address
below `0x1000`. In a debug build suppose also that no call reaches address
`0` or past the top of the address space, where the checks of
`write_volatile` and `ptr::write_bytes` would panic. Then `main` enters
`boot_kernel` at the entry point, with hart `0` and the device tree at
`0x87000000`. Memory then holds the staged bytes with every segment laid
over them in the order of the calls. -/
theorem main_boots_loaded {σ : Type} (mode : Overflow) (dev : BlockDevice σ) (disk : Disk)
    {capacity : Nat} (hcap : 1968 ≤ capacity)
    (hread : ∀ b < capacity, ∀ d, (dev.readBlock b d).2 = .ok (disk.sector b))
    {d₀ : σ} (hinit : (dev.initializeDevice d₀).2 = .ok ()) (m : Mem) {p : ElfParser}
    (hp : ElfParser.new (sectorBytes disk (expectedStartSector disk)
      ((1968 - expectedStartSector disk) * 512)) = .ok p)
    (hv : isValidEntryPoint p.entryPoint = true)
    (hres : (p.loadSegments mode).2 = .ok () ∨ ∃ msg, (p.loadSegments mode).2 = .error (.err msg))
    (hlow : ∀ l ∈ (p.loadSegments mode).1, 0 < l.src.length → 0x1000 ≤ l.vaddr)
    (hwrap : mode = .panics → ∀ l ∈ (p.loadSegments mode).1,
      0 < l.vaddr ∧ l.vaddr + max l.src.length l.memsz ≤ 2 ^ 64) :
    main mode dev (some d₀) m =
      (.bootKernel p.entryPoint 0 0x87000000,
        (p.loadSegments mode).1.foldl (fun m l => segmentImage l.vaddr l.src l.memsz m)
          (stageSectors disk (expectedStartSector disk) 0 (1968 - expectedStartSector disk) m)) := by
  have hret : ∀ l ∈ (p.loadSegments mode).1, callEnd mode l = .returned := fun l hl =>
    callEnd_returned mode (loadSegments_calls mode p hl).1 (hlow l hl) fun hm => hwrap hm l hl
  obtain ⟨hend, himg⟩ := runCalls_eq mode (p.loadSegments mode).1
    (stageSectors disk (expectedStartSector disk) 0 (1968 - expectedStartSector disk) m)
    fun l hl => ⟨(loadSegments_calls mode p hl).2.2.1, (loadSegments_calls mode p hl).2.1⟩
  have hr : (runCalls mode (p.loadSegments mode).1
      (stageSectors disk (expectedStartSector disk) 0 (1968 - expectedStartSector disk) m)).2 =
        .returned := by
    rw [hend, List.find?_eq_none.2 fun e he => ?_]
    · rfl
    obtain ⟨l, hl, rfl⟩ := List.mem_map.1 he
    simp [hret l hl]
  rw [main_of_stored mode dev disk hcap hread hinit m, bootFromBuffer_of_new mode hp, if_pos hv,
    loadAndJump, show runCalls mode _ _ = (_, .returned) from Prod.ext (himg hr) hr]
  rcases hres with h | ⟨msg, h⟩ <;> simp only [h] <;> rfl

/-- A disk whose sector `0` holds `sampleParser`'s image. -/
def sampleDisk : Disk :=
  ⟨fun s => if s = 0 then sampleParser.data ++ List.replicate 388 0 else List.replicate 512 0,
    fun s => by
      dsimp only
      split <;> simp only [sampleParser, ehdrBytes, phdrBytes, List.length_append, leBytes_length,
        List.length_replicate, ELF_MAGIC, List.length_cons, List.length_nil]⟩

/-- `sampleDisk` boots in a debug build, with its one segment loaded over
the staged bytes. -/
theorem main_boots_sampleDisk :
    ∃ p, ElfParser.new (sectorBytes sampleDisk (expectedStartSector sampleDisk)
        ((1968 - expectedStartSector sampleDisk) * 512)) = .ok p ∧
      isValidEntryPoint p.entryPoint = true ∧ (p.loadSegments .panics).2 = .ok () ∧
      (∀ l ∈ (p.loadSegments .panics).1, 0 < l.src.length → 0x1000 ≤ l.vaddr) ∧
      (Overflow.panics = .panics → ∀ l ∈ (p.loadSegments .panics).1,
        0 < l.vaddr ∧ l.vaddr + max l.src.length l.memsz ≤ 2 ^ 64) ∧
      main .panics (storedDevice sampleDisk) (some ()) (fun _ => 0) =
        (.bootKernel p.entryPoint 0 0x87000000,
          (p.loadSegments .panics).1.foldl (fun m l => segmentImage l.vaddr l.src l.memsz m)
            (stageSectors sampleDisk (expectedStartSector sampleDisk) 0
              (1968 - expectedStartSector sampleDisk) (fun _ => 0))) := by
  have hs : expectedStartSector sampleDisk = 0 := by decide
  have h512 : 512 ≤ (1968 - expectedStartSector sampleDisk) * 512 := by rw [hs]; norm_num
  have hL := sectorBytes_length sampleDisk (expectedStartSector sampleDisk)
    ((1968 - expectedStartSector sampleDisk) * 512)
  have htake : (sectorBytes sampleDisk (expectedStartSector sampleDisk)
      ((1968 - expectedStartSector sampleDisk) * 512)).take 124 = sampleParser.data := by
    rw [← Nat.min_eq_left (show 124 ≤ 512 by norm_num), ← List.take_take,
      sectorBytes_take sampleDisk _ h512, hs]
    rfl
  have hm : (sectorBytes sampleDisk (expectedStartSector sampleDisk)
      ((1968 - expectedStartSector sampleDisk) * 512)).take 4 = ELF_MAGIC := by
    rw [← sampleParser.magic, ← htake, List.take_take]
    rfl
  have hlen : 64 ≤ (sectorBytes sampleDisk (expectedStartSector sampleDisk)
      ((1968 - expectedStartSector sampleDisk) * 512)).length := by omega
  have hload := loadSegments_of_sample_prefix .panics ⟨_, hlen, hm⟩ (by dsimp only; omega)
    (by dsimp only; exact htake)
  have hv : isValidEntryPoint (ElfParser.entryPoint ⟨_, hlen, hm⟩) = true := by
    rw [ElfParser.entryPoint, ← ehdrOf_take _ (show 64 ≤ 124 by norm_num)]
    dsimp only
    rw [htake]
    decide
  have hok : (ElfParser.loadSegments .panics ⟨_, hlen, hm⟩).2 = .ok () := by rw [hload]
  have hlow : ∀ l ∈ (ElfParser.loadSegments .panics ⟨_, hlen, hm⟩).1,
      0 < l.src.length → 0x1000 ≤ l.vaddr := by
    rw [hload]
    simp
  have hwrap : Overflow.panics = .panics → ∀ l ∈ (ElfParser.loadSegments .panics ⟨_, hlen, hm⟩).1,
      0 < l.vaddr ∧ l.vaddr + max l.src.length l.memsz ≤ 2 ^ 64 := fun _ => by
    rw [hload]
    decide
  exact ⟨_, ElfParser.new_ok hlen hm, hv, hok, hlow, hwrap,
    main_boots_loaded .panics (storedDevice sampleDisk) sampleDisk le_rfl (fun _ _ _ => rfl) rfl _
      (ElfParser.new_ok hlen hm) hv (.inl hok) hlow hwrap⟩

/-! ## Two runs that enter `boot_kernel` with segments not loaded -/

/-- The header of bytes staged from sector `0` is that of sector `0`. -/
theorem ehdrOf_sectorBytes (disk : Disk) {len : Nat} (h : 512 ≤ len) :
    ehdrOf (sectorBytes disk 0 len) = ehdrOf (disk.sector 0) := by
  rw [← ehdrOf_take _ (show 64 ≤ 512 by norm_num), sectorBytes_take disk 0 h]

/-- The magic of bytes staged from sector `0` is that of sector `0`. -/
theorem sectorBytes_take_four (disk : Disk) {len : Nat} (h : 512 ≤ len) :
    (sectorBytes disk 0 len).take 4 = (disk.sector 0).take 4 := by
  rw [← sectorBytes_take disk 0 h, List.take_take]
  rfl

/-- Sector `0` holds an ELF header with the entry point `0x80200000` and a
program-header table at `2 ^ 32`, far past the staged bytes. -/
def tableErrorDisk : Disk :=
  ⟨fun s => if s = 0 then ehdrBytes 0x80200000 (2 ^ 32) 56 1 ++ List.replicate 448 0
    else List.replicate 512 0, fun s => by
      dsimp only
      split <;> simp only [ehdrBytes, phdrBytes, List.length_append, leBytes_length,
        List.length_replicate, ELF_MAGIC, List.length_cons, List.length_nil]⟩

/-- Sector `0` holds an image with one `PT_LOAD` entry and the entry point
`0x100`, outside the window. -/
def lowEntryDisk : Disk :=
  ⟨fun s => if s = 0 then
      ehdrBytes 0x100 64 56 1 ++ phdrBytes 1 120 0x80200000 4 8 ++ [1, 2, 3, 4] ++ List.replicate 388 0
    else List.replicate 512 0, fun s => by
      dsimp only
      split <;> simp only [ehdrBytes, phdrBytes, List.length_append, leBytes_length,
        List.length_replicate, ELF_MAGIC, List.length_cons, List.length_nil]⟩

set_option maxRecDepth 10000 in
/-- Two runs from a working device. On `tableErrorDisk` `load_segments`
returns `Err`, and `main` still enters `boot_kernel` at the entry point. On
`lowEntryDisk` `main` enters `boot_kernel` at `0x80400000` over the staged
bytes alone, although the image has a `PT_LOAD` entry: no segment is
loaded. -/
theorem main_skips_loading (mode : Overflow) (m : Mem) :
    ((main mode (storedDevice tableErrorDisk) (some ()) m).1 = .bootKernel 0x80200000 0 0x87000000 ∧
      ∃ p, ElfParser.new (sectorBytes tableErrorDisk 0 (1968 * 512)) = .ok p ∧
        (p.loadSegments mode).2 = .error (.err "程序头表超出文件范围")) ∧
    (main mode (storedDevice lowEntryDisk) (some ()) m =
        (.bootKernel 0x80400000 0 0x87000000, stageSectors lowEntryDisk 0 0 1968 m) ∧
      (ehdrOf (lowEntryDisk.sector 0)).ePhnum = 1 ∧ (phdrAt (lowEntryDisk.sector 0) 64).pType = PT_LOAD) := by
  have h512 : 512 ≤ 1968 * 512 := by norm_num
  have hlen : ∀ disk, 64 ≤ (sectorBytes disk 0 (1968 * 512)).length := fun _ => by
    rw [sectorBytes_length]; norm_num
  have hm₁ : (sectorBytes tableErrorDisk 0 (1968 * 512)).take 4 = ELF_MAGIC := by
    rw [sectorBytes_take_four _ h512]; rfl
  have hm₂ : (sectorBytes lowEntryDisk 0 (1968 * 512)).take 4 = ELF_MAGIC := by
    rw [sectorBytes_take_four _ h512]; rfl
  have hs₁ : expectedStartSector tableErrorDisk = 0 := by decide
  have hs₂ : expectedStartSector lowEntryDisk = 0 := by decide
  have hE₁ : ehdrOf (tableErrorDisk.sector 0) = ⟨0x80200000, 2 ^ 32, 56, 1⟩ := rfl
  have hE₂ : ehdrOf (lowEntryDisk.sector 0) = ⟨0x100, 64, 56, 1⟩ := rfl
  have hload : (ElfParser.loadSegments mode ⟨_, hlen tableErrorDisk, hm₁⟩) =
      ([], .error (.err "程序头表超出文件范围")) := by
    unfold ElfParser.loadSegments
    dsimp only
    rw [ehdrOf_sectorBytes _ h512, hE₁]
    dsimp only
    rw [mode.add_of_lt (by norm_num)]
    dsimp only
    rw [if_pos (by rw [sectorBytes_length]; norm_num)]
  refine ⟨⟨?_, _, ElfParser.new_ok (hlen _) hm₁, by rw [hload]⟩, ?_, by rw [hE₂], rfl⟩
  · rw [main_of_stored mode _ tableErrorDisk le_rfl (fun _ _ _ => rfl) rfl, hs₁,
      bootFromBuffer_of_new mode (ElfParser.new_ok (hlen _) hm₁)]
    have he : ElfParser.entryPoint ⟨_, hlen tableErrorDisk, hm₁⟩ = 0x80200000 := by
      rw [ElfParser.entryPoint, ehdrOf_sectorBytes _ h512, hE₁]
    rw [he, if_pos (by decide), loadAndJump, hload, he]
    rfl
  · rw [main_of_stored mode _ lowEntryDisk le_rfl (fun _ _ _ => rfl) rfl, hs₂,
      bootFromBuffer_of_new mode (ElfParser.new_ok (hlen _) hm₂)]
    have he : ElfParser.entryPoint ⟨_, hlen lowEntryDisk, hm₂⟩ = 0x100 := by
      rw [ElfParser.entryPoint, ehdrOf_sectorBytes _ h512, hE₂]
    rw [he, if_neg (by decide)]
    rfl

/-- The two runs of `main_skips_loading` in a debug and in a release build,
from zeroed memory. -/
theorem main_boots_unloaded :
    (∀ mode ∈ [Overflow.panics, .wraps],
      (main mode (storedDevice tableErrorDisk) (some ()) (fun _ => 0)).1 =
          .bootKernel 0x80200000 0 0x87000000 ∧
        ∃ p, ElfParser.new (sectorBytes tableErrorDisk 0 (1968 * 512)) = .ok p ∧
          (p.loadSegments mode).2 = .error (.err "程序头表超出文件范围")) ∧
    (∀ mode ∈ [Overflow.panics, .wraps],
      main mode (storedDevice lowEntryDisk) (some ()) (fun _ => 0) =
        (.bootKernel 0x80400000 0 0x87000000, stageSectors lowEntryDisk 0 0 1968 (fun _ => 0))) ∧
    (ehdrOf (lowEntryDisk.sector 0)).ePhnum = 1 ∧ (phdrAt (lowEntryDisk.sector 0) 64).pType = PT_LOAD :=
  ⟨fun mode _ => (main_skips_loading mode _).1, fun mode _ => (main_skips_loading mode _).2.1,
    (main_skips_loading .panics (fun _ => 0)).2.2⟩

end VirtioBoot.Boot.MinimalBoot
