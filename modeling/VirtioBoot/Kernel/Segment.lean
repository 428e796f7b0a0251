import VirtioBoot.Kernel.Loader

/-!
# Materialising a segment (`elf_parser.rs`, `mod memory`)

`minimal_boot` passes `load_segments` the callback
`memory::load_segment(p_vaddr as *mut u8, data, p_memsz as usize)`. With
`r = data.len()`, `load_segment` copies the `r` file bytes to `p_vaddr` with
`copy_to_address` when `r > 0`. When `p_memsz > r` it then zeroes the
`p_memsz - r` bytes after them with `zero_memory`. `copy_to_address` stops
in a `loop {}` when the destination or the source address is below
`0x1000`. Nothing else is checked by the code: the end of the range is not
checked against `2 ^ 64`, and the range is not compared with the virtqueue
or the staging buffer.

A debug build adds the checks of the standard library: `write_volatile`
and `ptr::write_bytes` panic on a null pointer. So a debug build panics when
address `0` is one of the `r` copied addresses, or is the first address to
zero. A toolchain that also checks `ptr::add` for overflow panics on the
same calls, at the same point: the first offset whose address reaches
`2 ^ 64` is the one whose address is `0`.

Addresses are pointer values: `dst.add(i)` is `(dst + i) mod 2 ^ 64`, as in
`storeBytes`. The slice `data` lies in the staged bytes at
`SAFE_BUFFER_BASE`, so its address is `SAFE_BUFFER_BASE + srcOffset`.

## Main results

* `copyLoop_eq` — the copy loop writes its bytes in order, and a debug
  build stops it at the index whose address is `0`.
* `loadSegment_eq` — `load_segment` halts exactly when `r > 0` and one of
  the two addresses is below `0x1000`. Otherwise a debug build panics
  exactly when it would write address `0`, and every other call leaves
  memory as `segmentImage` describes.
* `bootCallback_eq` — the same for every call that `load_segments` makes
  with minimal_boot's callback.
* `runCalls_eq` — a run of calls ends as its first call that does not
  return, and the calls before it lay their segments down one after
  another.
* `bootCallback_unguarded` — an entry inside the staging buffer is written
  in both builds, and an entry at address `0` with no file bytes is zeroed
  by a release build.
-/

namespace VirtioBoot.Kernel.Segment

open VirtioBoot.Machine.Bytes
open VirtioBoot.Kernel.Elf
open VirtioBoot.Kernel.Loader

/-! ## The callback -/

/-- How a call of the callback ends. -/
inductive CallEnd where
  /-- It returns. -/
  | returned
  /-- It stops in one of `copy_to_address`'s `loop {}`. -/
  | hung
  /-- A debug build's null-pointer check panics, and the panic handler
  loops. -/
  | panicked
  deriving DecidableEq, Repr

/-- The loop of `copy_to_address`: `write_volatile(dst.add(i), src[i])` for
`i < n`, with how it ends. A debug build checks that `write_volatile` gets a
non-null pointer, so it panics at the first `i` whose address is `0`, after
the writes before it. -/
def copyLoop (mode : Overflow) (m : Mem) (dst : Nat) (src : List UInt8) : Nat → Mem × CallEnd
  | 0 => (m, .returned)
  | i + 1 =>
    match copyLoop mode m dst src i with
    | (m, .returned) =>
      if mode = .panics ∧ (dst + i) % addrSpace = 0 then (m, .panicked)
      else (m.writeByte (dst + i) (src.getD i 0), .returned)
    | stopped => stopped

/-- `copy_to_address(dst, src)`, with `srcPtr` the address of `src`. -/
def copyToAddress (mode : Overflow) (dst srcPtr : Nat) (src : List UInt8) (m : Mem) :
    Mem × CallEnd :=
  if dst < 0x1000 then (m, .hung)
  else if srcPtr < 0x1000 then (m, .hung)
  else copyLoop mode m dst src src.length

/-- `zero_memory(addr, size)`: `ptr::write_bytes(addr, 0, size)`. A debug
build first checks that `addr` is not null. -/
def zeroMemory (mode : Overflow) (addr size : Nat) (m : Mem) : Mem × CallEnd :=
  if mode = .panics ∧ addr % addrSpace = 0 then (m, .panicked)
  else (storeBytes m addr (fun _ => 0) size, .returned)

/-- `load_segment(dst, src, memsz)`, with `srcPtr` the address of `src`. -/
def loadSegment (mode : Overflow) (dst srcPtr : Nat) (src : List UInt8) (memsz : Nat) (m : Mem) :
    Mem × CallEnd :=
  let filesz := src.length
  match if filesz > 0 then copyToAddress mode dst srcPtr src m else (m, .returned) with
  | (m, .returned) =>
    if memsz > filesz then zeroMemory mode (dst + filesz) (memsz - filesz) m else (m, .returned)
  | stopped => stopped

/-- minimal_boot's callback of `load_segments`. -/
def bootCallback (mode : Overflow) (l : Load) (m : Mem) : Mem × CallEnd :=
  loadSegment mode l.vaddr (SAFE_BUFFER_BASE + l.srcOffset) l.src l.memsz m

/-- The callback over the calls of a run, in order: memory when the run
stops, and how it stops. -/
def runCalls (mode : Overflow) : List Load → Mem → Mem × CallEnd
  | [], m => (m, .returned)
  | l :: ls, m =>
    match bootCallback mode l m with
    | (m, .returned) => runCalls mode ls m
    | stopped => stopped

/-! ## What a segment writes -/

/-- Memory with a segment in place. The byte at `vaddr + j` (modulo
`2 ^ 64`) is `src[j]` for `j < src.len()`, and `0` for
`src.len() ≤ j < memsz`. Every other byte is as in `m`. -/
def segmentImage (vaddr : Nat) (src : List UInt8) (memsz : Nat) (m : Mem) : Mem := fun a =>
  if a < addrSpace ∧ offsetFrom vaddr a < src.length then src.getD (offsetFrom vaddr a) 0
  else if a < addrSpace ∧ offsetFrom vaddr a < memsz then 0 else m a

/-- How minimal_boot's callback ends on a call: in `copy_to_address`'s loop
when the call has file bytes and its address is below `0x1000`; otherwise,
in a debug build, with a panic when address `0` is one of the `r` copied
addresses or is the first address to zero. -/
def callEnd (mode : Overflow) (l : Load) : CallEnd :=
  if 0 < l.src.length ∧ l.vaddr < 0x1000 then .hung
  else if mode = .panics ∧ (offsetFrom l.vaddr 0 < l.src.length ∨
      l.src.length < l.memsz ∧ offsetFrom l.vaddr 0 = l.src.length) then .panicked
  else .returned

/-- **The copy loop.** It writes `src[i]` at `dst + i` in order. A debug
build stops it with a panic at the index whose address is `0`, which is
`offsetFrom dst 0`. -/
theorem copyLoop_eq (mode : Overflow) (m : Mem) (dst : Nat) (src : List UInt8) (n : Nat) :
    copyLoop mode m dst src n =
      if mode = .panics ∧ offsetFrom dst 0 < n then
        (storeBytes m dst (fun i => src.getD i 0) (offsetFrom dst 0), .panicked)
      else (storeBytes m dst (fun i => src.getD i 0) n, .returned) := by
  induction n with
  | zero => simp [copyLoop, storeBytes]
  | succ n ih =>
    rw [copyLoop, ih]
    by_cases h : mode = .panics ∧ offsetFrom dst 0 < n
    · rw [if_pos h, if_pos ⟨h.1, by omega⟩]
    rw [if_neg h]
    dsimp only
    cases mode
    · -- a debug build reaches index `n`, and stops there exactly when `dst + n` is `0`
      have hn : n ≤ offsetFrom dst 0 := Nat.le_of_not_lt fun hn => h ⟨rfl, hn⟩
      have hlt : offsetFrom dst 0 < addrSpace := Nat.mod_lt _ (by decide)
      have key : (dst + n) % addrSpace = 0 ↔ offsetFrom dst 0 = n :=
        offsetFrom_eq_iff (by decide) (by omega)
      by_cases h0 : offsetFrom dst 0 = n
      · rw [if_pos ⟨rfl, key.2 h0⟩, if_pos ⟨rfl, by omega⟩, h0]
      · rw [if_neg fun h' => h0 (key.1 h'.2), if_neg fun h' => h0 (by omega)]
        rfl
    · simp only [reduceCtorEq, false_and, if_false]
      rfl

/-- The segment's bytes stored with `storeBytes`, the file bytes and then
the zeros, are `segmentImage`. -/
theorem storeSegment_eq (dst : Nat) (src : List UInt8) (memsz : Nat) (m : Mem)
    (hlen : src.length < addrSpace) (hmem : memsz < addrSpace) :
    (if memsz > src.length then
        storeBytes (storeBytes m dst (fun i => src.getD i 0) src.length) (dst + src.length)
          (fun _ => 0) (memsz - src.length)
      else storeBytes m dst (fun i => src.getD i 0) src.length) =
      segmentImage dst src memsz m := by
  funext a
  simp only [segmentImage]
  by_cases hz : memsz > src.length
  · rw [if_pos hz, storeBytes_apply _ _ _ (by omega), storeBytes_apply _ _ _ hlen.le]
    by_cases ha : a < addrSpace
    · have hiff : offsetFrom (dst + src.length) a < memsz - src.length ↔
          src.length ≤ offsetFrom dst a ∧ offsetFrom dst a < memsz := by
        unfold offsetFrom addrSpace at *
        omega
      by_cases hc : offsetFrom dst a < src.length
      · simp [ha, hc, show ¬ offsetFrom (dst + src.length) a < memsz - src.length by omega]
      · by_cases hzr : offsetFrom dst a < memsz
        · simp [ha, hc, hzr, show offsetFrom (dst + src.length) a < memsz - src.length by omega]
        · simp [ha, hc, hzr, show ¬ offsetFrom (dst + src.length) a < memsz - src.length by omega]
    · simp [ha]
  · rw [if_neg hz, storeBytes_apply _ _ _ hlen.le]
    split_ifs <;> first | rfl | omega

/-- **`load_segment`.** It halts exactly when there are file bytes and one
of the two addresses is below `0x1000`. Otherwise a debug build panics
exactly when address `0` is one of the copied addresses or the first
address to zero, after copying the bytes before it. Every other call leaves
memory as `segmentImage` describes. -/
theorem loadSegment_eq (mode : Overflow) (dst srcPtr : Nat) (src : List UInt8) (memsz : Nat)
    (m : Mem) (hlen : src.length < addrSpace) (hmem : memsz < addrSpace) :
    loadSegment mode dst srcPtr src memsz m =
      if 0 < src.length ∧ (dst < 0x1000 ∨ srcPtr < 0x1000) then (m, .hung)
      else if mode = .panics ∧ (offsetFrom dst 0 < src.length ∨
          src.length < memsz ∧ offsetFrom dst 0 = src.length) then
        (storeBytes m dst (fun i => src.getD i 0) (min (offsetFrom dst 0) src.length), .panicked)
      else (segmentImage dst src memsz m, .returned) := by
  have hcopy : (if src.length > 0 then copyToAddress mode dst srcPtr src m else (m, .returned)) =
      if 0 < src.length ∧ (dst < 0x1000 ∨ srcPtr < 0x1000) then (m, .hung)
      else copyLoop mode m dst src src.length := by
    unfold copyToAddress
    by_cases h0 : 0 < src.length
    · by_cases hd : dst < 0x1000 <;> by_cases hs : srcPtr < 0x1000 <;> simp [h0, hd, hs]
    · simp [h0, Nat.eq_zero_of_not_pos h0, copyLoop]
  unfold loadSegment
  dsimp only
  rw [hcopy]
  by_cases hh : 0 < src.length ∧ (dst < 0x1000 ∨ srcPtr < 0x1000)
  · rw [if_pos hh, if_pos hh]
  rw [if_neg hh, if_neg hh, copyLoop_eq]
  by_cases hp : mode = .panics ∧ offsetFrom dst 0 < src.length
  · -- a debug build panics in the copy
    rw [if_pos hp, if_pos ⟨hp.1, .inl hp.2⟩, Nat.min_eq_left hp.2.le]
  rw [if_neg hp]
  dsimp only
  rw [← storeSegment_eq dst src memsz m hlen hmem]
  by_cases hz : memsz > src.length
  · rw [if_pos hz, zeroMemory, if_pos hz]
    by_cases hz0 : mode = .panics ∧ (dst + src.length) % addrSpace = 0
    · -- a debug build panics on the first address to zero
      have h0 : offsetFrom dst 0 = src.length := (offsetFrom_eq_iff (by decide) hlen).1 hz0.2
      rw [if_pos hz0, if_pos ⟨hz0.1, .inr ⟨hz, h0⟩⟩, h0, Nat.min_self]
    · have hne : ¬ (mode = .panics ∧ (offsetFrom dst 0 < src.length ∨
          src.length < memsz ∧ offsetFrom dst 0 = src.length)) := by
        rintro ⟨hm, h | ⟨-, h⟩⟩
        · exact hp ⟨hm, h⟩
        · exact hz0 ⟨hm, (offsetFrom_eq_iff (by decide) hlen).2 h⟩
      rw [if_neg hz0, if_neg hne]
  · have hne : ¬ (mode = .panics ∧ (offsetFrom dst 0 < src.length ∨
        src.length < memsz ∧ offsetFrom dst 0 = src.length)) := by
      rintro ⟨hm, h | ⟨h, -⟩⟩
      · exact hp ⟨hm, h⟩
      · exact hz h
    rw [if_neg hz, if_neg hz, if_neg hne]

/-- The address of a slice of the staged bytes is at least `0x1000`. -/
theorem srcPtr_ge (l : Load) : ¬ SAFE_BUFFER_BASE + l.srcOffset < 0x1000 := by
  unfold SAFE_BUFFER_BASE
  omega

/-- minimal_boot's callback on a call of fewer than `2 ^ 64` bytes ends as
`callEnd` says, and when it returns, memory is `segmentImage`. -/
theorem bootCallback_callEnd (mode : Overflow) {l : Load} (hlen : l.src.length < addrSpace)
    (hmem : l.memsz < addrSpace) (m : Mem) :
    (bootCallback mode l m).2 = callEnd mode l ∧
      (callEnd mode l = .returned →
        (bootCallback mode l m).1 = segmentImage l.vaddr l.src l.memsz m) := by
  rw [bootCallback, loadSegment_eq _ _ _ _ _ _ hlen hmem, callEnd]
  simp only [srcPtr_ge, or_false]
  split_ifs <;> simp

/-- **minimal_boot's callback.** For every call that `load_segments` makes,
in either build, the callback halts before writing exactly when the call
has file bytes and `p_vaddr < 0x1000`. Otherwise a debug build panics
exactly when address `0` is one of the `r` copied addresses or the first
address to zero, after copying the bytes before it. Otherwise the callback
sets the byte at `p_vaddr + j` (modulo `2 ^ 64`) to `src[j]` for `j < r` and
to `0` for `r ≤ j < p_memsz`, and it writes no other address. -/
theorem bootCallback_eq (mode : Overflow) (p : ElfParser) {l : Load}
    (hl : l ∈ (p.loadSegments mode).1) (m : Mem) :
    bootCallback mode l m =
      if 0 < l.src.length ∧ l.vaddr < 0x1000 then (m, .hung)
      else if mode = .panics ∧ (offsetFrom l.vaddr 0 < l.src.length ∨
          l.src.length < l.memsz ∧ offsetFrom l.vaddr 0 = l.src.length) then
        (storeBytes m l.vaddr (fun i => l.src.getD i 0) (min (offsetFrom l.vaddr 0) l.src.length),
          .panicked)
      else (segmentImage l.vaddr l.src l.memsz m, .returned) := by
  obtain ⟨-, hmem, hlen, -⟩ := loadSegments_calls mode p hl
  rw [bootCallback, loadSegment_eq _ _ _ _ _ _ hlen hmem]
  simp only [srcPtr_ge, or_false]

set_option maxRecDepth 10000 in
theorem bootCallback_sample :
    (⟨0x80200000, 120, [1, 2, 3, 4], 8⟩ : Load) ∈ (sampleParser.loadSegments .panics).1 ∧
      bootCallback .panics ⟨0x80200000, 120, [1, 2, 3, 4], 8⟩ (fun _ => 0) =
        (segmentImage 0x80200000 [1, 2, 3, 4] 8 (fun _ => 0), .returned) := by
  have hl : (⟨0x80200000, 120, [1, 2, 3, 4], 8⟩ : Load) ∈ (sampleParser.loadSegments .panics).1 := by
    decide
  refine ⟨hl, (bootCallback_eq .panics sampleParser hl _).trans ?_⟩
  rw [if_neg (by decide), if_neg (by decide)]

/-- **A run of calls.** It ends as the first call that does not return, and
when every call returns, the calls lay their segments down one after
another. -/
theorem runCalls_eq (mode : Overflow) : ∀ (ls : List Load) (m : Mem),
    (∀ l ∈ ls, l.src.length < addrSpace ∧ l.memsz < addrSpace) →
    (runCalls mode ls m).2 = ((ls.map (callEnd mode)).find? (· != .returned)).getD .returned ∧
      ((runCalls mode ls m).2 = .returned →
        (runCalls mode ls m).1 = ls.foldl (fun m l => segmentImage l.vaddr l.src l.memsz m) m)
  | [], _, _ => ⟨rfl, fun _ => rfl⟩
  | l :: ls, m, h => by
    obtain ⟨hlen, hmem⟩ := h l (List.mem_cons_self _ _)
    obtain ⟨hend, himg⟩ := bootCallback_callEnd mode hlen hmem m
    have ih := runCalls_eq mode ls (segmentImage l.vaddr l.src l.memsz m)
      fun l' hl' => h l' (List.mem_cons_of_mem _ hl')
    rw [runCalls]
    rcases hc : callEnd mode l with _ | _ | _
    · -- the call returns and the run goes on
      rw [show bootCallback mode l m = (segmentImage l.vaddr l.src l.memsz m, .returned) from
        Prod.ext (himg hc) (hend.trans hc)]
      simpa [hc] using ih
    all_goals
      rw [show bootCallback mode l m = ((bootCallback mode l m).1, callEnd mode l) from
        Prod.ext rfl hend, hc]
      simp [hc]

/-! ## Two entries that are written without a halt -/

/-- Two `PT_LOAD` entries sharing four file bytes at offset `176`. The first
is at `SAFE_BUFFER_BASE`, inside the staging buffer, with the four bytes.
The second is at address `0` with no file bytes and sixteen memory
bytes. -/
def unguardedImage : List UInt8 :=
  ehdrBytes 0x80200000 64 56 2 ++ phdrBytes 1 176 0x81000000 4 4 ++ phdrBytes 1 176 0 0 16 ++
    [1, 2, 3, 4]

set_option maxRecDepth 10000 in
/-- In both builds `load_segments` calls the callback for the two entries of
`unguardedImage`. The callback copies the four bytes over the start of the
staging buffer and returns. On the entry at address `0`, a release build
zeroes addresses `0 .. 15` and returns; a debug build panics before it
writes. -/
theorem bootCallback_unguarded :
    ∃ p, ElfParser.new unguardedImage = .ok p ∧
      (∀ mode, (p.loadSegments mode).1 =
        [⟨0x81000000, 176, [1, 2, 3, 4], 4⟩, ⟨0, 176, [], 16⟩]) ∧
      (∀ mode, bootCallback mode ⟨0x81000000, 176, [1, 2, 3, 4], 4⟩ (fun _ => 0) =
        (storeBytes (fun _ => 0) 0x81000000 (fun i => [1, 2, 3, 4].getD i 0) 4, .returned)) ∧
      bootCallback .wraps ⟨0, 176, [], 16⟩ (fun _ => 0) =
        (storeBytes (fun _ => 0) 0 (fun _ => 0) 16, .returned) ∧
      bootCallback .panics ⟨0, 176, [], 16⟩ (fun _ => 0) = ((fun _ => 0), .panicked) :=
  ⟨_, rfl, fun mode => by cases mode <;> rfl, fun mode => by cases mode <;> rfl, rfl, rfl⟩

end VirtioBoot.Kernel.Segment
