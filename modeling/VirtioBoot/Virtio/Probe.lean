import VirtioBoot.Virtio.InFlight

/-!
# Device discovery (`VirtioBlk::probe_all_devices`, `virtio/blk/device.rs`)

`probe_all_devices` looks at eight MMIO windows, `0x10001000` to
`0x10008000`. It runs in three loops. The first reads the magic register and
the device-id register of every window, and records each window that holds
a virtio device with id `0x02` (block) or `0x00` (generic) in the array
`found_devices`, guarded by `found_count < 8`. The second loop tries
`initialize` on each recorded block device and returns the first that
succeeds. The third does the same for the generic devices.

The platform (`Bus`) gives the value of each 32-bit register at boot and,
for each base, what `initialize` does to a fresh handle there, as a step on
the platform state `σ`. The identification registers are read-only and are
all read before the first `initialize`, so they are a function of the
address. A run covers every outcome of every initialisation.

## Main results

* `probeAllDevices_eq` — the three loops refine one: try `initialize` on
  every block device in address order, then on every generic device in
  address order, and take the first that succeeds (`firstInit` over
  `candidates`). The guard `found_count < 8` never drops a device.
* `probeAllDevices_congr` — the result depends on `initialize` only at the
  candidate bases: `probe_all_devices` never initialises a window whose
  magic is not `"virt"` or whose device id is neither `0x02` nor `0x00`.
* `probeAllDevices_blk` — on a platform of windows driven by the model of
  `Blk`, from power-on, the probe either finds nothing and leaves a
  power-on state, or returns a candidate base with an initialised handle,
  with a virtqueue, at that base; every run of `read_block` calls on it then keeps the bound of
  `InFlight` on outstanding requests.
-/

namespace VirtioBoot.Virtio.Probe

open VirtioBoot.Virtio.Queue

/-! ## The platform -/

/-- The eight MMIO windows, in the order `probe_all_devices` reads them. -/
def possibleBases : List Nat :=
  [0x10001000, 0x10002000, 0x10003000, 0x10004000, 0x10005000, 0x10006000, 0x10007000,
    0x10008000]

/-- `0x74726976`, `"virt"` read as a little-endian `u32`. -/
def VIRTIO_MAGIC : Nat := 0x74726976

/-- `VIRTIO_DEVICE_ID`. -/
def VIRTIO_DEVICE_ID : Nat := 0x008

/-- The platform `probe_all_devices` runs on: the 32-bit register at each
address, and `initialize` of a fresh `VirtioBlk` at each base. -/
structure Bus (σ : Type) where
  reg : Nat → Nat
  initializeDevice : Nat → σ → σ × Except VirtioError Unit

variable {σ : Type}

/-- `ptr::read_volatile(addr as *const u32)`. -/
def Bus.read32 (bus : Bus σ) (addr : Nat) : Nat := bus.reg addr % 2 ^ 32

/-! ## `probe_all_devices` -/

/-- The first loop, over the windows `bases` still to read, with
`found_devices[0 .. found_count]` as `found`. -/
def recordLoop (bus : Bus σ) : List Nat → List (Nat × Nat) → List (Nat × Nat)
  | [], found => found
  | baseAddr :: bases, found =>
    let magic := bus.read32 baseAddr
    let deviceId := bus.read32 (baseAddr + VIRTIO_DEVICE_ID)
    if magic = VIRTIO_MAGIC then
      match deviceId with
      | 0x02 =>
        recordLoop bus bases (if found.length < 8 then found ++ [(baseAddr, deviceId)] else found)
      | 0x00 =>
        recordLoop bus bases (if found.length < 8 then found ++ [(baseAddr, deviceId)] else found)
      | _ => recordLoop bus bases found
    else recordLoop bus bases found

/-- One of the loops `for i in 0..found_count`: `initialize` on each recorded
device with id `wanted`, until one succeeds. The base of that device, and
the platform state after the last `initialize`. -/
def tryPass (bus : Bus σ) (wanted : Nat) : List (Nat × Nat) → σ → σ × Option Nat
  | [], s => (s, none)
  | (baseAddr, deviceId) :: found, s =>
    if deviceId = wanted then
      match bus.initializeDevice baseAddr s with
      | (s, .ok ()) => (s, some baseAddr)
      | (s, .error _) => tryPass bus wanted found s
    else tryPass bus wanted found s

/-- `probe_all_devices`: block devices first, then generic ones. -/
def probeAllDevices (bus : Bus σ) (s : σ) : σ × Option Nat :=
  let found := recordLoop bus possibleBases []
  match tryPass bus 0x02 found s with
  | (s, some baseAddr) => (s, some baseAddr)
  | (s, none) => tryPass bus 0x00 found s

/-- `with_probe`. -/
def withProbe (bus : Bus σ) (s : σ) : σ × Except VirtioError Nat :=
  match probeAllDevices bus s with
  | (s, some baseAddr) => (s, .ok baseAddr)
  | (s, none) => (s, .error .DeviceNotFound)

/-! ## The abstract search -/

/-- Whether the window at `b` holds a virtio device with device id `id`. -/
def holds (bus : Bus σ) (id b : Nat) : Bool :=
  bus.read32 b = VIRTIO_MAGIC ∧ bus.read32 (b + VIRTIO_DEVICE_ID) = id

/-- The order of a driver that prefers block devices: every block device
by address, then every generic device by address. -/
def candidates (bus : Bus σ) : List Nat :=
  possibleBases.filter (holds bus 0x02) ++ possibleBases.filter (holds bus 0x00)

/-- Try `initialize` at each base in turn and stop at the first success. -/
def firstInit (bus : Bus σ) : List Nat → σ → σ × Option Nat
  | [], s => (s, none)
  | b :: bs, s =>
    match bus.initializeDevice b s with
    | (s, .ok ()) => (s, some b)
    | (s, .error _) => firstInit bus bs s

/-- A search over two lists is the search over the first, then, when it
finds nothing, the search over the second. -/
theorem firstInit_append (bus : Bus σ) (l₁ l₂ : List Nat) (s : σ) :
    firstInit bus (l₁ ++ l₂) s =
      match firstInit bus l₁ s with
      | (s, some b) => (s, some b)
      | (s, none) => firstInit bus l₂ s := by
  induction l₁ generalizing s with
  | nil => rfl
  | cons b bs ih =>
      simp only [List.cons_append, firstInit]
      rcases bus.initializeDevice b s with ⟨s', _ | ⟨⟩⟩
      · exact ih s'
      · rfl

/-- The search reads `initialize` only at the bases it is given. -/
theorem firstInit_congr {bus bus' : Bus σ} {l : List Nat}
    (h : ∀ b ∈ l, bus.initializeDevice b = bus'.initializeDevice b) (s : σ) :
    firstInit bus l s = firstInit bus' l s := by
  induction l generalizing s with
  | nil => rfl
  | cons b bs ih =>
      simp only [firstInit, h b (List.mem_cons_self _ _)]
      rcases bus'.initializeDevice b s with ⟨s', _ | ⟨⟩⟩
      · exact ih (fun b' hb' => h b' (List.mem_cons_of_mem _ hb')) s'
      · rfl

/-! ## The loops refine the search -/

/-- Whether the window at `b` holds a block or a generic virtio device. -/
def recorded (bus : Bus σ) (b : Nat) : Bool := holds bus 0x02 b || holds bus 0x00 b

/-- **The recording loop.** While there is room for every remaining window,
it appends each window that holds a block or a generic device, with its
device id. -/
theorem recordLoop_eq (bus : Bus σ) :
    ∀ (bases : List Nat) (found : List (Nat × Nat)), found.length + bases.length ≤ 8 →
      recordLoop bus bases found =
        found ++ (bases.filter (recorded bus)).map fun b => (b, bus.read32 (b + VIRTIO_DEVICE_ID))
  | [], found, _ => by simp [recordLoop]
  | b :: bases, found, hlen => by
    have hlen' : found.length + 1 + bases.length ≤ 8 := by
      simp only [List.length_cons] at hlen
      omega
    have hroom : found.length < 8 := by omega
    have hnext := recordLoop_eq bus bases (found ++ [(b, bus.read32 (b + VIRTIO_DEVICE_ID))])
      (by simpa using hlen')
    have hskip := recordLoop_eq bus bases found (by omega)
    simp only [recordLoop]
    by_cases hm : bus.read32 b = VIRTIO_MAGIC
    · rw [if_pos hm]
      split
      · rename_i hid
        rw [if_pos hroom, hid, ← hid, hnext]
        simp [List.filter_cons, recorded, holds, hm, hid]
      · rename_i hid
        rw [if_pos hroom, hid, ← hid, hnext]
        simp [List.filter_cons, recorded, holds, hm, hid]
      · rename_i hid2 hid0
        rw [hskip, List.filter_cons_of_neg (by
          simpa [recorded, holds] using ⟨fun _ => hid2, fun _ => hid0⟩)]
    · rw [if_neg hm, hskip]
      simp [List.filter_cons, recorded, holds, hm]

/-- **A pass.** It is the search over the recorded devices with the wanted
id, in the order they were recorded. -/
theorem tryPass_eq (bus : Bus σ) (wanted : Nat) (found : List (Nat × Nat)) (s : σ) :
    tryPass bus wanted found s =
      firstInit bus ((found.filter fun e => e.2 = wanted).map Prod.fst) s := by
  induction found generalizing s with
  | nil => rfl
  | cons e found ih =>
      obtain ⟨b, id⟩ := e
      by_cases hid : id = wanted
      · simp only [tryPass, hid, if_true, List.filter_cons, decide_True, List.map_cons,
          firstInit]
        rcases bus.initializeDevice b s with ⟨s', _ | ⟨⟩⟩
        · exact ih s'
        · rfl
      · simp only [tryPass, hid, if_false, List.filter_cons, decide_False]
        exact ih s

/-- The recorded devices with id `wanted` (`0x02` or `0x00`) are the
windows that hold a device with that id. -/
theorem recorded_filter (bus : Bus σ) {wanted : Nat} (hw : wanted = 0x02 ∨ wanted = 0x00) :
    (((possibleBases.filter (recorded bus)).map fun b => (b, bus.read32 (b + VIRTIO_DEVICE_ID))).filter
        fun e => e.2 = wanted).map Prod.fst = possibleBases.filter (holds bus wanted) := by
  rw [List.filter_map, List.map_map, List.filter_filter]
  simp only [Function.comp_def, List.map_id']
  congr 1
  funext b
  rcases hw with rfl | rfl <;> by_cases h2 : bus.read32 (b + VIRTIO_DEVICE_ID) = 0x02 <;>
    by_cases h0 : bus.read32 (b + VIRTIO_DEVICE_ID) = 0x00 <;> simp [recorded, holds, h2, h0]

/-- **`probe_all_devices` is the preference search.** It tries `initialize`
on every block device by address and then on every generic device by
address, and returns the first that succeeds, with the platform state
after the last `initialize`. -/
theorem probeAllDevices_eq (bus : Bus σ) (s : σ) :
    probeAllDevices bus s = firstInit bus (candidates bus) s := by
  rw [probeAllDevices, candidates, firstInit_append, recordLoop_eq bus possibleBases [] (by decide),
    List.nil_append]
  simp only [tryPass_eq, recorded_filter bus (.inl rfl), recorded_filter bus (.inr rfl)]

/-- **`probe_all_devices` touches only virtio windows.** Two platforms with
the same registers, whose `initialize` agree at every candidate base, give
the same result and the same final state. So no `initialize` runs at a
window whose magic is not `"virt"` or whose device id is neither `0x02` nor
`0x00`. -/
theorem probeAllDevices_congr {bus bus' : Bus σ} (hreg : bus.reg = bus'.reg)
    (hinit : ∀ b ∈ candidates bus, bus.initializeDevice b = bus'.initializeDevice b) (s : σ) :
    probeAllDevices bus s = probeAllDevices bus' s := by
  have hread : bus.read32 = bus'.read32 := funext fun a => by simp only [Bus.read32, hreg]
  have hholds : holds bus = holds bus' := by funext id b; simp only [holds, hread]
  have h2 := firstInit_congr fun b hb => hinit b (List.mem_append_left _ hb)
  have h0 := firstInit_congr fun b hb => hinit b (List.mem_append_right _ hb)
  simp only [probeAllDevices, recordLoop_eq _ possibleBases [] (by decide), List.nil_append,
    tryPass_eq, recorded_filter _ (.inl rfl), recorded_filter _ (.inr rfl), h2, h0]
  rw [hholds]

/-- A platform with a generic device at `0x10001000`, a block device at
`0x10003000` whose initialisation fails and one at `0x10005000` that
initialises. The state counts the calls of `initialize`. -/
def samplePlatform : Bus Nat where
  reg a := if a = 0x10001000 ∨ a = 0x10003000 ∨ a = 0x10005000 then VIRTIO_MAGIC
    else if a = 0x10003008 ∨ a = 0x10005008 then 2 else 0
  initializeDevice b n := (n + 1, if b = 0x10005000 ∨ b = 0x10001000 then .ok () else .error .InitFailed)

/-- `samplePlatform` with a window at `0x10002000` that holds no virtio
device but would accept an `initialize`. -/
def samplePlatform' : Bus Nat :=
  { samplePlatform with
    initializeDevice := fun b n =>
      if b = 0x10002000 then (n, .ok ()) else samplePlatform.initializeDevice b n }

theorem probeAllDevices_congr_sample :
    samplePlatform.reg = samplePlatform'.reg ∧
      (∀ b ∈ candidates samplePlatform,
        samplePlatform.initializeDevice b = samplePlatform'.initializeDevice b) ∧
      probeAllDevices samplePlatform 0 = probeAllDevices samplePlatform' 0 := by
  have hc : candidates samplePlatform = [0x10003000, 0x10005000, 0x10001000] := by decide
  have hinit : ∀ b ∈ candidates samplePlatform,
      samplePlatform.initializeDevice b = samplePlatform'.initializeDevice b := by
    intro b hb
    rw [hc] at hb
    have hb' : b ≠ 0x10002000 := by
      simp only [List.mem_cons, List.mem_nil_iff, or_false] at hb
      rcases hb with rfl | rfl | rfl <;> decide
    funext n
    exact (if_neg hb').symm
  exact ⟨rfl, hinit, @probeAllDevices_congr _ samplePlatform samplePlatform' rfl hinit 0⟩

/-- A window recorded with a device id holds a virtio device with that id. -/
theorem mem_recordLoop (bus : Bus σ) {b id : Nat} (h : (b, id) ∈ recordLoop bus possibleBases []) :
    b ∈ possibleBases.filter (holds bus id) := by
  rw [recordLoop_eq bus possibleBases [] (by decide), List.nil_append, List.mem_map] at h
  obtain ⟨b', hb', hpair⟩ := h
  simp only [Prod.mk.injEq] at hpair
  obtain ⟨rfl, rfl⟩ := hpair
  simp only [List.mem_filter, recorded, holds, Bool.or_eq_true, decide_eq_true_eq] at hb' ⊢
  tauto

/-! ## Invariants of the probe -/

section Invariant

variable (bus : Bus σ) (I : σ → Prop) (J : Nat → σ → Prop)
  (hinit : ∀ b s, I s →
    ((bus.initializeDevice b s).2 = .ok () → J b (bus.initializeDevice b s).1) ∧
      ((bus.initializeDevice b s).2 ≠ .ok () → I (bus.initializeDevice b s).1))
include hinit

/-- A pass keeps an invariant `I` of the platform state that every failed
`initialize` keeps; a success at `b` establishes `J b`. -/
theorem tryPass_inv (wanted : Nat) : ∀ (found : List (Nat × Nat)) (s : σ), I s →
    ((tryPass bus wanted found s).2 = none → I (tryPass bus wanted found s).1) ∧
      ∀ b, (tryPass bus wanted found s).2 = some b →
        (b, wanted) ∈ found ∧ J b (tryPass bus wanted found s).1
  | [], _, hs => ⟨fun _ => hs, fun _ h => by cases h⟩
  | (b, id) :: found, s, hs => by
    have hrest : ∀ s', I s' →
        ((tryPass bus wanted found s').2 = none → I (tryPass bus wanted found s').1) ∧
          ∀ b', (tryPass bus wanted found s').2 = some b' →
            (b', wanted) ∈ (b, id) :: found ∧ J b' (tryPass bus wanted found s').1 :=
      fun s' hs' =>
        let ⟨h₁, h₂⟩ := tryPass_inv wanted found s' hs'
        ⟨h₁, fun b' h => ⟨List.mem_cons_of_mem _ (h₂ b' h).1, (h₂ b' h).2⟩⟩
    obtain ⟨hok, herr⟩ := hinit b s hs
    unfold tryPass
    split_ifs with hid
    · rcases hb : bus.initializeDevice b s with ⟨s', _ | ⟨⟩⟩ <;> rw [hb] at hok herr
      · exact hrest s' (herr fun h => by cases h)
      · subst hid
        refine ⟨(fun h => by cases h), fun b' h => ?_⟩
        cases h
        exact ⟨List.mem_cons_self _ _, hok rfl⟩
    · exact hrest s hs

/-- The probe keeps `I`, and a device it returns is a candidate at which
`J` holds. -/
theorem probeAllDevices_inv (s : σ) (hs : I s) :
    ((probeAllDevices bus s).2 = none → I (probeAllDevices bus s).1) ∧
      ∀ b, (probeAllDevices bus s).2 = some b → b ∈ candidates bus ∧ J b (probeAllDevices bus s).1 := by
  obtain ⟨n₂, s₂⟩ := tryPass_inv bus I J hinit 0x02 (recordLoop bus possibleBases []) s hs
  unfold probeAllDevices
  dsimp only
  rcases ht : tryPass bus 0x02 (recordLoop bus possibleBases []) s with ⟨s', _ | b⟩ <;>
    rw [ht] at n₂ s₂
  · obtain ⟨n₀, s₀⟩ := tryPass_inv bus I J hinit 0x00 (recordLoop bus possibleBases []) s' (n₂ rfl)
    exact ⟨n₀, fun b h => ⟨List.mem_append_right _ (mem_recordLoop bus (s₀ b h).1), (s₀ b h).2⟩⟩
  · refine ⟨(fun h => by cases h), fun b' h => ?_⟩
    cases h
    exact ⟨List.mem_append_left _ (mem_recordLoop bus (s₂ b rfl).1), (s₂ b rfl).2⟩

end Invariant

/-! ## On the virtio-blk model -/

section Blk

open VirtioBoot.Virtio.Device
open VirtioBoot.Virtio.InFlight

/-- The handle `probe_all_devices` builds for the window at `baseAddr`: not
initialised, the default configuration, no queue. -/
def freshBlk (baseAddr : Nat) : VirtioBlk := ⟨baseAddr, false, 0, none, false, false, 0⟩

/-- Windows driven by the model of `Blk`: the boot-time registers of the
window at each base (`window base offset`), and `initialize` of a fresh
handle at `b` on that window's registers. RAM, the device steps and the ISR
are shared by the windows. -/
def blkBus (env : Env) (window : Nat → Nat → Nat) : Bus Sys where
  reg addr := window (addr / 0x1000 * 0x1000) (addr % 0x1000)
  initializeDevice b s := Blk.initializeDevice env { s with blk := freshBlk b, regs := window b }

/-- An `initialize` at a fresh handle from a power-on state succeeds with
the counting invariant at that base, or fails back to power-on. -/
theorem blkBus_initializeDevice (env : Env) (window : Nat → Nat → Nat) (b : Nat) {s : Sys}
    (hs : PowerOn s) :
    (((blkBus env window).initializeDevice b s).2 = .ok () →
        Counts 0 ((blkBus env window).initializeDevice b s).1 ∧
          ((blkBus env window).initializeDevice b s).1.blk.baseAddr = b) ∧
      (((blkBus env window).initializeDevice b s).2 ≠ .ok () →
        PowerOn ((blkBus env window).initializeDevice b s).1) := by
  have hc := hs.calm
  have h₀ : PowerOn { s with blk := freshBlk b, regs := window b } :=
    ⟨⟨hc.1, hc.2, hc.3, hc.4, hc.5, fun _ h => by cases h⟩, rfl⟩
  obtain ⟨hcalm, hbase, hok, hfail⟩ := h₀.initializeDevice_calm env
  exact ⟨fun hr => ⟨hcalm.counts (hok hr).1 (hok hr).2, hbase⟩, fun hr => ⟨hcalm, hfail hr⟩⟩

/-- **Probing, then reading.** From power-on, `probe_all_devices` on the
virtio-blk model either finds nothing and leaves a power-on state, or
returns a candidate base with a handle at that base that is initialised
and has a virtqueue. Every run of `read_block` calls on that handle then keeps, at each
publication, the outstanding requests at most the earlier timeouts. -/
theorem probeAllDevices_blk (env : Env) (window : Nat → Nat → Nat) {s : Sys} (h : PowerOn s) :
    ((probeAllDevices (blkBus env window) s).2 = none →
        PowerOn (probeAllDevices (blkBus env window) s).1) ∧
      ∀ b, (probeAllDevices (blkBus env window) s).2 = some b →
        b ∈ candidates (blkBus env window) ∧
          (probeAllDevices (blkBus env window) s).1.blk.baseAddr = b ∧
          (probeAllDevices (blkBus env window) s).1.blk.initialized = true ∧
          (∃ vq, (probeAllDevices (blkBus env window) s).1.blk.virtqueue = some vq) ∧
          ∀ reqs, PublishBound (readBlocks env reqs (probeAllDevices (blkBus env window) s).1).log := by
  obtain ⟨hnone, hsome⟩ := probeAllDevices_inv (blkBus env window) PowerOn
    (fun b s => Counts 0 s ∧ s.blk.baseAddr = b)
    (fun b _ hs => blkBus_initializeDevice env window b hs) s h
  refine ⟨hnone, fun b hb => ?_⟩
  obtain ⟨hmem, hcounts, hbase⟩ := hsome b hb
  obtain ⟨vq, hvq, -⟩ := hcounts.queue
  exact ⟨hmem, hbase, hcounts.initialized, ⟨vq, hvq⟩,
    fun reqs => (readBlocks_ready env reqs _ (.inl hcounts)).publishBound⟩

/-- One block device at `0x10001000`, with capacity `2048`; the other
windows hold nothing. -/
def sampleWindows (b o : Nat) : Nat :=
  if b = 0x10001000 ∧ o = 0 then VIRTIO_MAGIC
  else if b = 0x10001000 ∧ o = VIRTIO_DEVICE_ID then 0x02
  else if o = 0x100 then 2048 else 0

set_option maxRecDepth 10000 in
theorem probeAllDevices_blk_powerOn :
    PowerOn Blk.powerOnSys ∧
      (probeAllDevices (blkBus Blk.ioErrorDevice sampleWindows) Blk.powerOnSys).2 = some 0x10001000 ∧
      ((probeAllDevices (blkBus Blk.ioErrorDevice sampleWindows) Blk.powerOnSys).2 = none →
          PowerOn (probeAllDevices (blkBus Blk.ioErrorDevice sampleWindows) Blk.powerOnSys).1) ∧
        ∀ b, (probeAllDevices (blkBus Blk.ioErrorDevice sampleWindows) Blk.powerOnSys).2 = some b →
          b ∈ candidates (blkBus Blk.ioErrorDevice sampleWindows) ∧
            (probeAllDevices (blkBus Blk.ioErrorDevice sampleWindows) Blk.powerOnSys).1.blk.baseAddr =
              b ∧
            (probeAllDevices (blkBus Blk.ioErrorDevice sampleWindows) Blk.powerOnSys).1.blk.initialized =
              true ∧
            (∃ vq, (probeAllDevices (blkBus Blk.ioErrorDevice sampleWindows)
              Blk.powerOnSys).1.blk.virtqueue = some vq) ∧
            ∀ reqs, PublishBound (readBlocks Blk.ioErrorDevice reqs
              (probeAllDevices (blkBus Blk.ioErrorDevice sampleWindows) Blk.powerOnSys).1).log :=
  ⟨powerOnSys_powerOn, rfl,
    probeAllDevices_blk Blk.ioErrorDevice sampleWindows powerOnSys_powerOn⟩

end Blk

end VirtioBoot.Virtio.Probe
