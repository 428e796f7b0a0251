import VirtioBoot.Virtio.Queue

/-!
# Runs of the descriptor allocator

`alloc_desc_chain` and `free_desc_chain` are meant to share a free list
threaded through the descriptors' `next` fields: `Virtqueue::new` builds it
(`0 → 1 → … → Q - 1`) and `free_desc_chain` pushes a freed chain on its
front. `alloc_desc_chain`, however, does not follow that list: it takes
`free_head, free_head + 1, …` by index arithmetic and then sets
`free_head = (last + 1) % Q`.

A run starts from `Virtqueue::new` and applies any sequence of allocations
and of frees of heads that are still allocated (`Reachable`). This module
proves what every run keeps (`Reachable.inv`: `free_head` and every live
head stay below `Q`) and exhibits, by evaluating concrete runs, the states
in which the free-list discipline breaks:

* `alloc_overlaps_live_chain` — an allocation returns a chain that contains
  a descriptor of a chain still allocated (`Q = 4`);
* `alloc_fails_with_free_descriptors` — an allocation of `2 ≤ num_free`
  descriptors fails, after writing to the table (`Q = 2`);
* `free_walk_never_ends` — a free of a live head walks a cycle that avoids
  descriptor `0` and never ends (`Q = 3`).
-/

namespace VirtioBoot.Virtio.Allocator

open VirtioBoot.Virtio.Queue
open VirtioBoot.Virtio.Queue.Virtqueue

/-- A state of an allocator run: the handle, and the heads of the chains
still allocated, most recent first. -/
structure AllocState where
  vq : Virtqueue
  live : List Nat

/-- The heads an allocation adds to the live list: its head, on success. -/
def liveAfter (live : List Nat) : Except VirtioError Nat → List Nat
  | .ok head => head :: live
  | .error _ => live

/-- The states of every run from `Virtqueue::new`: any allocation (its
refusals included), and any free of a live head whose loop ends. -/
inductive Reachable : AllocState → Prop
  | init {d a u size : Nat} {old : Rings} {vq : Virtqueue} (h : new d a u size old = .ok vq) :
      Reachable ⟨vq, []⟩
  | alloc {s : AllocState} (hs : Reachable s) (num : Nat) :
      Reachable ⟨(s.vq.allocDescChain num).1, liveAfter s.live (s.vq.allocDescChain num).2⟩
  | free {s : AllocState} {head fuel : Nat} {vq' : Virtqueue} (hs : Reachable s)
      (hlive : head ∈ s.live) (hfree : freeDescChain fuel s.vq head = some vq') :
      Reachable ⟨vq', s.live.erase head⟩

/-! ## What every run keeps -/

/-- The allocator's bookkeeping indices stay inside the table. -/
structure Inv (s : AllocState) : Prop where
  freeHead_lt : s.vq.freeHead < s.vq.queueSize
  live_lt : ∀ h ∈ s.live, h < s.vq.queueSize

theorem inv_alloc {s : AllocState} (hs : Inv s) (num : Nat) :
    Inv ⟨(s.vq.allocDescChain num).1, liveAfter s.live (s.vq.allocDescChain num).2⟩ := by
  have hQ := s.vq.queueSize_pos
  rw [allocDescChain_eq]
  split_ifs
  · exact hs
  · refine ⟨Nat.mod_lt _ hQ, ?_⟩
    simp only [liveAfter, List.mem_cons]
    rintro h (rfl | hh)
    · exact hs.freeHead_lt
    · exact hs.live_lt h hh
  · exact ⟨hs.freeHead_lt, hs.live_lt⟩

theorem inv_free {s : AllocState} (hs : Inv s) {head fuel : Nat} {vq' : Virtqueue}
    (hlive : head ∈ s.live) (hfree : freeDescChain fuel s.vq head = some vq') :
    Inv ⟨vq', s.live.erase head⟩ := by
  unfold freeDescChain at hfree
  split at hfree
  · cases hfree
  · cases hfree
    exact ⟨hs.live_lt head hlive, fun h hh => hs.live_lt h (List.mem_of_mem_erase hh)⟩

/-- **Every reachable state keeps `free_head` and the live heads below `Q`.** -/
theorem Reachable.inv {s : AllocState} (h : Reachable s) : Inv s := by
  induction h with
  | @init _ _ _ _ _ vq h => exact ⟨by rw [(new_eq h).2.1]; exact vq.queueSize_pos, by simp⟩
  | alloc _ num ih => exact inv_alloc ih num
  | free _ hlive hfree ih => exact inv_free ih hlive hfree

/-! ## Concrete runs -/

/-- One call of the allocator's API in a run. -/
inductive AllocOp where
  | alloc (num : Nat)
  | free (head : Nat)

/-- One call, evaluated; a free is run with `Q + 1` iterations of its loop
and is only taken on a live head. -/
def AllocState.step (s : AllocState) : AllocOp → Option AllocState
  | .alloc num => some ⟨(s.vq.allocDescChain num).1, liveAfter s.live (s.vq.allocDescChain num).2⟩
  | .free head =>
    if head ∈ s.live then
      (freeDescChain (s.vq.queueSize + 1) s.vq head).map fun vq' => ⟨vq', s.live.erase head⟩
    else none

/-- A run of calls from `s`; `none` if a free is refused or does not end. -/
def AllocState.run (s : AllocState) : List AllocOp → Option AllocState
  | [] => some s
  | op :: ops => (s.step op).bind fun s' => s'.run ops

/-- A run from `Virtqueue::new` at the driver's fixed layout with queue
size `q`, over zeroed ring memory. -/
def runFrom (q : Nat) (ops : List AllocOp) : Option AllocState :=
  match new 0x80070000 (0x80070000 + 16 * q) 0x80071000 q zeroRings with
  | .ok vq => (⟨vq, []⟩ : AllocState).run ops
  | .error _ => none

theorem AllocState.run_reachable {s : AllocState} (hs : Reachable s) :
    ∀ {ops : List AllocOp} {s' : AllocState}, s.run ops = some s' → Reachable s' := by
  intro ops
  induction ops generalizing s with
  | nil => intro s' h; cases h; exact hs
  | cons op ops ih =>
      intro s' h
      simp only [AllocState.run, Option.bind_eq_some] at h
      obtain ⟨s₁, h₁, h₂⟩ := h
      refine ih ?_ h₂
      cases op with
      | alloc num => cases h₁; exact hs.alloc num
      | free head =>
          simp only [AllocState.step] at h₁
          split_ifs at h₁ with hlive
          obtain ⟨vq', hfree, rfl⟩ := Option.map_eq_some'.1 h₁
          exact hs.free hlive hfree

theorem runFrom_reachable {q : Nat} {ops : List AllocOp} {s : AllocState}
    (h : runFrom q ops = some s) : Reachable s := by
  unfold runFrom at h
  split at h
  · exact AllocState.run_reachable (.init ‹_›) h
  · cases h

/-- A run of four calls at `Q = 4` is a run of `Reachable`, so it keeps the
invariant. -/
theorem inv_after_four_calls :
    ∃ s, runFrom 4 [.alloc 1, .alloc 2, .free 0, .alloc 1] = some s ∧ Inv s := by
  obtain ⟨s, hs⟩ : ∃ s, runFrom 4 [.alloc 1, .alloc 2, .free 0, .alloc 1] = some s := ⟨_, rfl⟩
  exact ⟨s, hs, Reachable.inv (runFrom_reachable hs)⟩

/-- The descriptors of the chain at `head`: the walk along `next` up to the
descriptor whose `next` is `0`, for at most `fuel` steps. -/
def chain (vq : Virtqueue) : Nat → Nat → List Nat
  | 0, _ => []
  | fuel + 1, head =>
    if (vq.desc head).next = 0 then [head] else head :: chain vq fuel (vq.desc head).next

/-! ## Where the free-list discipline breaks -/

/-- `Q = 4`: free the first of two single-descriptor chains and allocate two
descriptors. The allocation starts at the freed head `0` and takes `1` as
well, which is the head of a chain still allocated. -/
theorem alloc_overlaps_live_chain :
    ∃ s, runFrom 4 [.alloc 1, .alloc 1, .free 0, .alloc 2] = some s ∧
      s.live = [0, 1] ∧ chain s.vq 4 0 = [0, 1] ∧ chain s.vq 4 1 = [1] :=
  ⟨_, rfl, by decide, by decide, by decide⟩

/-- `Q = 2`: after both single-descriptor chains are freed, `free_head` is
`1` and `num_free` is `2`; allocating two descriptors runs past the table,
fails with `DmaError` and leaves descriptor `1` pointing at the invalid
index `2`. -/
theorem alloc_fails_with_free_descriptors :
    ∃ s, runFrom 2 [.alloc 1, .alloc 1, .free 0, .free 1] = some s ∧ s.vq.numFree = 2 ∧
      (s.vq.allocDescChain 2).2 = .error .DmaError ∧
      ((s.vq.allocDescChain 2).1.desc 1).next ≠ (s.vq.desc 1).next :=
  ⟨_, rfl, by decide, rfl, by decide⟩

/-- A walk that reaches two nonzero descriptors pointing at each other
never ends. -/
theorem freeWalk_cycle (vq : Virtqueue) {a b : Nat} (ha : a < vq.queueSize)
    (hb : b < vq.queueSize) (hab : (vq.desc a).next = b) (hba : (vq.desc b).next = a)
    (ha0 : a ≠ 0) (hb0 : b ≠ 0) : ∀ fuel n, freeWalk vq fuel a n = none ∧ freeWalk vq fuel b n = none := by
  intro fuel
  induction fuel with
  | zero => simp [freeWalk]
  | succ fuel ih =>
      intro n
      simp only [freeWalk, vq.getDescriptorPtr_ok ha, vq.getDescriptorPtr_ok hb, hab, hba,
        if_neg hb0, if_neg ha0]
      exact ⟨(ih _).2, (ih _).1⟩

/-- `Q = 3`: after nine calls, head `1` is live while descriptors `1` and
`2` point at each other, so `free_desc_chain(1)` never ends. -/
theorem free_walk_never_ends :
    ∃ s, runFrom 3 [.alloc 1, .alloc 1, .alloc 1, .free 0, .alloc 1, .free 2, .free 0,
        .alloc 2, .free 0] = some s ∧
      1 ∈ s.live ∧ ∀ fuel, freeDescChain fuel s.vq 1 = none := by
  obtain ⟨s, hrun, hlive, h12, h21, hQ⟩ : ∃ s, runFrom 3 [.alloc 1, .alloc 1, .alloc 1, .free 0,
      .alloc 1, .free 2, .free 0, .alloc 2, .free 0] = some s ∧ 1 ∈ s.live ∧
      (s.vq.desc 1).next = 2 ∧ (s.vq.desc 2).next = 1 ∧ s.vq.queueSize = 3 :=
    ⟨_, rfl, by decide, by decide, by decide, by decide⟩
  refine ⟨s, hrun, hlive, fun fuel => ?_⟩
  have hwalk := ((freeWalk_cycle s.vq (by omega) (by omega) h12 h21 one_ne_zero two_ne_zero)
    fuel 0).1
  simp only [freeDescChain, hwalk]

end VirtioBoot.Virtio.Allocator
