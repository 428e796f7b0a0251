import Mathlib

/-!
# Bytes, little-endian fields and physical memory

The bootloader runs on RV64, a little-endian machine with 64-bit
addresses. Everything it shares with the block device and with the kernel
image lives in physical RAM and is read or written either one byte at a
time or as a little-endian field of a `repr(C)` structure.

This module is the bottom of the development. It fixes three things the
other modules take for granted:

* `leNat` / `leBytes`: the value of a little-endian byte string and the
  byte string of a value, with the round trip `leNat_leBytes`;
* `readLE`: a field of width `n` at offset `off` of a byte slice, as
  `ptr::read` of a `u16`/`u32`/`u64` field computes it;
* `Mem`: physical memory as a function from addresses to bytes, and
  `storeBytes`, the loop `for i in 0..n { write_volatile(dst.add(i), f(i)) }`
  with pointer arithmetic modulo `2 ^ 64`.

## Main results

* `leNat_leBytes` — decoding an encoded value gives it back, truncated to
  the width.
* `storeBytes_apply` — a store loop of `n ≤ 2 ^ 64` bytes sets exactly the
  addresses at distance `< n` above `dst` (modulo `2 ^ 64`) and no other.
* `storeBytes_apply_of_le` — the same without wrap-around, when
  `dst + n ≤ 2 ^ 64`.
-/

namespace VirtioBoot.Machine.Bytes

/-! ## Little-endian values -/

/-- The value of a little-endian byte string: `b₀ + 256·b₁ + …`. -/
def leNat : List UInt8 → Nat
  | [] => 0
  | b :: bs => b.toNat + 256 * leNat bs

/-- The `w` low bytes of `n`, least significant first: what a store of a
`w`-byte integer puts in memory on a little-endian machine. -/
def leBytes : Nat → Nat → List UInt8
  | 0, _ => []
  | w + 1, n => UInt8.ofNat (n % 256) :: leBytes w (n / 256)

@[simp] theorem leNat_nil : leNat [] = 0 := rfl

@[simp] theorem leNat_cons (b : UInt8) (bs : List UInt8) :
    leNat (b :: bs) = b.toNat + 256 * leNat bs := rfl

@[simp] theorem leBytes_length (w n : Nat) : (leBytes w n).length = w := by
  induction w generalizing n with
  | zero => rfl
  | succ w ih => simp [leBytes, ih]

/-- A little-endian string of `w` bytes denotes a value below `256 ^ w`. -/
theorem leNat_lt (bs : List UInt8) : leNat bs < 256 ^ bs.length := by
  induction bs with
  | nil => simp
  | cons b bs ih =>
      have hb : b.toNat < 256 := b.toNat_lt_size
      simp only [leNat_cons, List.length_cons, Nat.pow_succ]
      omega

/-- Encoding and then decoding keeps the value modulo the width. -/
theorem leNat_leBytes (w n : Nat) : leNat (leBytes w n) = n % 256 ^ w := by
  induction w generalizing n with
  | zero => simp [leBytes, Nat.mod_one]
  | succ w ih =>
      have hlow : (UInt8.ofNat (n % 256)).toNat = n % 256 :=
        UInt8.toNat_ofNat_of_lt (Nat.mod_lt _ (by decide))
      rw [leBytes, leNat_cons, hlow, ih, Nat.pow_succ, Nat.mul_comm (256 ^ w) 256,
        Nat.mod_mul]

/-- A value that fits its width decodes to itself. -/
theorem leNat_leBytes_of_lt {w n : Nat} (h : n < 256 ^ w) : leNat (leBytes w n) = n := by
  rw [leNat_leBytes, Nat.mod_eq_of_lt h]

/-- The `n`-byte little-endian field at offset `off` of a byte slice. -/
def readLE (data : List UInt8) (off n : Nat) : Nat :=
  leNat ((data.drop off).take n)

/-- A field of width `n` is below `256 ^ n`. -/
theorem readLE_lt (data : List UInt8) (off n : Nat) : readLE data off n < 256 ^ n :=
  (leNat_lt _).trans_le (Nat.pow_le_pow_right (by decide) (List.length_take_le _ _))

/-- A field inside the first `n` bytes reads the same from their prefix. -/
theorem readLE_take (data : List UInt8) {off k n : Nat} (h : off + k ≤ n) :
    readLE (data.take n) off k = readLE data off k := by
  unfold readLE
  rw [List.drop_take, List.take_take, Nat.min_eq_left (by omega)]

/-! ## Physical memory -/

/-- Physical memory: the byte at each address. Addresses are taken modulo
`2 ^ 64` when written, as the RV64 address adder computes them. -/
def Mem := Nat → UInt8

/-- The 64-bit address space. -/
def addrSpace : Nat := 2 ^ 64

/-- One `write_volatile` of a byte at address `addr` (reduced modulo `2 ^ 64`). -/
def Mem.writeByte (m : Mem) (addr : Nat) (v : UInt8) : Mem :=
  fun a => if a = addr % addrSpace then v else m a

/-- `for i in 0..n { write_volatile(dst.add(i), f(i)) }`: the loop behind
`copy_to_address`, `ptr::write_bytes` and `copy_nonoverlapping`. -/
def storeBytes (m : Mem) (dst : Nat) (f : Nat → UInt8) : Nat → Mem
  | 0 => m
  | n + 1 => (storeBytes m dst f n).writeByte (dst + n) (f n)

/-- The `n` bytes at `addr`, `addr + 1`, …: a `copy_nonoverlapping` read. -/
def Mem.read (m : Mem) (addr n : Nat) : List UInt8 :=
  (List.range n).map fun i => m (addr + i)

@[simp] theorem Mem.read_length (m : Mem) (addr n : Nat) : (m.read addr n).length = n := by
  simp [Mem.read]

theorem Mem.getElem_read (m : Mem) (addr n i : Nat) (h : i < (m.read addr n).length) :
    (m.read addr n)[i] = m (addr + i) := by
  simp [Mem.read]

/-- Distance from `dst` up to `a`, modulo `2 ^ 64`: the loop index that writes `a`. -/
def offsetFrom (dst a : Nat) : Nat := (a + addrSpace - dst % addrSpace) % addrSpace

/-- The loop index that writes `a` is `j` exactly when `dst + j` is `a`
modulo `2 ^ 64`. -/
theorem offsetFrom_eq_iff {dst a j : Nat} (ha : a < addrSpace) (hj : j < addrSpace) :
    (dst + j) % addrSpace = a ↔ offsetFrom dst a = j := by
  unfold offsetFrom addrSpace at *
  omega

/-- **The store loop, pointwise.** For `n ≤ 2 ^ 64` the loop writes
exactly the addresses whose distance from `dst` is below `n`, each with the
byte of its own index. -/
theorem storeBytes_apply (m : Mem) (dst : Nat) (f : Nat → UInt8) {n : Nat}
    (hn : n ≤ addrSpace) (a : Nat) :
    storeBytes m dst f n a =
      if a < addrSpace ∧ offsetFrom dst a < n then f (offsetFrom dst a) else m a := by
  induction n with
  | zero => simp [storeBytes]
  | succ n ih =>
      simp only [storeBytes, Mem.writeByte, ih (by omega)]
      by_cases hw : a = (dst + n) % addrSpace
      · have ha : a < addrSpace := hw ▸ Nat.mod_lt _ (by decide)
        have hoff : offsetFrom dst a = n := (offsetFrom_eq_iff ha (by omega)).1 hw.symm
        simp [hw.symm, ha, hoff]
      · have hne : ¬ (a < addrSpace ∧ offsetFrom dst a = n) := fun ⟨ha, hoff⟩ =>
          hw ((offsetFrom_eq_iff ha (by omega)).2 hoff).symm
        simp only [hw, if_false]
        by_cases ha : a < addrSpace
        · by_cases hlt : offsetFrom dst a < n
          · simp [ha, hlt, Nat.lt_succ_of_lt hlt]
          · have : ¬ offsetFrom dst a < n + 1 := by
              have : offsetFrom dst a ≠ n := fun h => hne ⟨ha, h⟩
              omega
            simp [ha, hlt, this]
        · simp [ha]

/-- The store loop when the range does not wrap: bytes `[dst, dst + n)`. -/
theorem storeBytes_apply_of_le (m : Mem) (dst : Nat) (f : Nat → UInt8) {n : Nat}
    (hn : dst + n ≤ addrSpace) (a : Nat) :
    storeBytes m dst f n a =
      if dst ≤ a ∧ a < dst + n then f (a - dst) else m a := by
  rw [storeBytes_apply m dst f (by omega)]
  unfold offsetFrom
  by_cases h : dst ≤ a ∧ a < dst + n
  · have hoff : (a + addrSpace - dst % addrSpace) % addrSpace = a - dst := by
      unfold addrSpace at *; omega
    simp [h, hoff, show a < addrSpace by omega, show a - dst < n by omega]
  · have : ¬ (a < addrSpace ∧ (a + addrSpace - dst % addrSpace) % addrSpace < n) := by
      unfold addrSpace at *; omega
    simp [h, this]

/-- Reading back a non-wrapping store loop gives the stored bytes. -/
theorem read_storeBytes (m : Mem) (dst : Nat) (f : Nat → UInt8) {n : Nat}
    (hn : dst + n ≤ addrSpace) :
    (storeBytes m dst f n).read dst n = (List.range n).map f := by
  apply List.ext_getElem (by simp)
  intro i h1 h2
  simp only [Mem.getElem_read, storeBytes_apply_of_le m dst f hn, List.getElem_map,
    List.getElem_range]
  simp at h1
  simp [h1]

end VirtioBoot.Machine.Bytes
