import VirtioBoot.Machine.Bytes

/-!
# Console output (`kernel/util.rs`, `kernel/boot_env.rs`)

The bootloader's only output device is the UART at `0x10000000`. Every
printer writes one byte at a time to its transmit register, after waiting
for bit 5 (`THRE`) of the line-status register at `0x10000005`. The model
records the bytes written, in order, and assumes that each wait ends.

`print_char` sends the UTF-8 encoding of a `char`, which is
`String.utf8EncodeChar`. The number printers come in two families:

* the hex printers `print_hex32`, `print_hex64`, `print_hex16`, `print_ptr`
  and `print_hex` of `util.rs`, and `print_hex` of `boot_env.rs`. Each one
  writes a fixed number of nibbles, most significant first, from a table or
  by arithmetic, in upper or lower case (`hexNibbles`);
* the decimal printers `print_uint` (`u32`, a 10-byte buffer) and
  `print_decimal` (`usize`, a 20-byte buffer). Each stores the digits least
  significant first and writes them back to front (`digitsLoop`). A
  `buffer[i]` past the end would panic, so the model returns `none` there.

## Main results

* `readHex_hexNibbles` — the nibbles read back as the value modulo
  `16 ^ width`.
* `digitsOut_eq` — when the value has at most as many decimal digits as
  the buffer has bytes, the loop does not panic and prints `Nat.digits`,
  most significant first.
* `printers_read_back` — every hex printer, on every value of its
  argument's type, prints digits that read back as the value; the decimal
  printers never overrun their buffer and print the standard decimal
  representation.
-/

namespace VirtioBoot.Machine.Console

/-! ## Characters and strings -/

/-- `print_char(c)`: the UTF-8 encoding of `c`. -/
def printChar (c : Char) : List UInt8 := String.utf8EncodeChar c

set_option maxRecDepth 8000 in
/-- `print_char` of a byte: the byte itself below `0x80`, and the two-byte
UTF-8 encoding of the code point above. -/
theorem printChar_byte : ∀ b < 256, printChar (Char.ofNat b) =
    if b < 0x80 then [b.toUInt8] else [(0xC0 + b / 64).toUInt8, (0x80 + b % 64).toUInt8] := by
  decide

/-- `print(s)`: `print_char` for each `char` of `s`. -/
def printStr (s : String) : List UInt8 := s.toList.flatMap printChar

/-! ## Reading hex digits back -/

/-- The value of an ASCII hex digit, in either case. -/
def hexValue (b : UInt8) : Option Nat :=
  if 48 ≤ b.toNat ∧ b.toNat ≤ 57 then some (b.toNat - 48)
  else if 65 ≤ b.toNat ∧ b.toNat ≤ 70 then some (b.toNat - 55)
  else if 97 ≤ b.toNat ∧ b.toNat ≤ 102 then some (b.toNat - 87)
  else none

/-- Read hex digits, most significant first, onto the value `acc`. -/
def readHexAcc (acc : Nat) : List UInt8 → Option Nat
  | [] => some acc
  | b :: bs => (hexValue b).bind fun d => readHexAcc (16 * acc + d) bs

/-- Read a string of hex digits, most significant first. -/
def readHex (bs : List UInt8) : Option Nat := readHexAcc 0 bs

/-! ## The hex printers -/

/-- The bytes written for the `width` nibbles of `value`, most significant
first; `emit n` are the bytes written for the nibble `n`, and
`(value >> (4 * i)) & 0xF` is `value / 16 ^ i % 16`. -/
def hexNibbles (emit : Nat → List UInt8) (width value : Nat) : List UInt8 :=
  (List.range width).reverse.flatMap fun i => emit (value / 16 ^ i % 16)

theorem hexNibbles_succ (emit : Nat → List UInt8) (width value : Nat) :
    hexNibbles emit (width + 1) value =
      emit (value / 16 ^ width % 16) ++ hexNibbles emit width value := by
  simp [hexNibbles, List.range_succ]

/-- An emitter of hex digits: one byte for each nibble, which reads back as
the nibble. -/
def HexEmit (emit : Nat → List UInt8) : Prop := ∀ n < 16, (emit n).map hexValue = [some n]

instance (emit : Nat → List UInt8) : Decidable (HexEmit emit) :=
  inferInstanceAs (Decidable (∀ n < 16, _))

theorem readHexAcc_emit {emit : Nat → List UInt8} (he : HexEmit emit) {n : Nat} (hn : n < 16)
    (acc : Nat) (rest : List UInt8) :
    readHexAcc acc (emit n ++ rest) = readHexAcc (16 * acc + n) rest := by
  have h := he n hn
  rcases hb : emit n with _ | ⟨b, _ | ⟨b', bs⟩⟩ <;> rw [hb] at h <;> simp at h
  simp [readHexAcc, h]

/-- **The hex loop reads back.** For an emitter of hex digits, the nibbles
of `value` read back as `value` modulo `16 ^ width`. -/
theorem readHex_hexNibbles {emit : Nat → List UInt8} (he : HexEmit emit) :
    ∀ (width value acc : Nat),
      readHexAcc acc (hexNibbles emit width value) = some (acc * 16 ^ width + value % 16 ^ width)
  | 0, value, acc => by simp [hexNibbles, readHexAcc, Nat.mod_one]
  | width + 1, value, acc => by
    rw [hexNibbles_succ, readHexAcc_emit he (Nat.mod_lt _ (by decide)),
      readHex_hexNibbles he width value, Nat.mod_pow_succ]
    congr 1
    ring

/-- `b"0123456789ABCDEF"`. -/
def NIBBLES : List UInt8 := [48, 49, 50, 51, 52, 53, 54, 55, 56, 57, 65, 66, 67, 68, 69, 70]

/-- The character of a nibble computed by arithmetic: `b'0' + nibble`
below ten, `letter + nibble - 10` above (`letter` is `b'a'` or `b'A'`). -/
def digitChar (letter n : Nat) : Char :=
  if n < 10 then Char.ofNat (48 + n) else Char.ofNat (letter + n - 10)

/-- `print_hex32(value)`: eight nibbles from `NIBBLES`. -/
def printHex32 (value : Nat) : List UInt8 := hexNibbles (fun n => [NIBBLES.getD n 0]) 8 value

/-- `print_hex64(value)`: sixteen lower-case nibbles through `print_char`. -/
def printHex64 (value : Nat) : List UInt8 := hexNibbles (fun n => printChar (digitChar 97 n)) 16 value

/-- `print_hex16(value)`: four upper-case nibbles through `print_char`. -/
def printHex16 (value : Nat) : List UInt8 := hexNibbles (fun n => printChar (digitChar 65 n)) 4 value

/-- `print_ptr(ptr)`: sixteen lower-case nibbles through `print_char`. -/
def printPtr (ptr : Nat) : List UInt8 := hexNibbles (fun n => printChar (digitChar 97 n)) 16 ptr

/-- `print_hex(byte)`: the high and the low nibble from `NIBBLES`. -/
def printHex (byte : Nat) : List UInt8 := [NIBBLES.getD (byte / 16) 0, NIBBLES.getD (byte % 16) 0]

/-- `b"0123456789abcdef"` of `boot_env.rs`. -/
def HEX_CHARS : List UInt8 := [48, 49, 50, 51, 52, 53, 54, 55, 56, 57, 97, 98, 99, 100, 101, 102]

/-- `print_hex(num)` of `boot_env.rs`: `0x`, then sixteen nibbles from
`HEX_CHARS`. -/
def bootPrintHex (num : Nat) : List UInt8 :=
  [48, 120] ++ hexNibbles (fun n => [HEX_CHARS.getD n 0]) 16 num

theorem nibbles_hexEmit : HexEmit fun n => [NIBBLES.getD n 0] := by decide

theorem hexChars_hexEmit : HexEmit fun n => [HEX_CHARS.getD n 0] := by decide

theorem digitChar_hexEmit (letter : Nat) (hl : letter = 97 ∨ letter = 65) :
    HexEmit fun n => printChar (digitChar letter n) := by
  rcases hl with rfl | rfl <;> decide

/-- A width-`w` printer reads back every value below `16 ^ w`. -/
theorem readHex_hexNibbles_of_lt {emit : Nat → List UInt8} (he : HexEmit emit) {width value : Nat}
    (hv : value < 16 ^ width) : readHex (hexNibbles emit width value) = some value := by
  rw [readHex, readHex_hexNibbles he, Nat.zero_mul, Nat.zero_add, Nat.mod_eq_of_lt hv]

/-- A printer of hex digits writes exactly `width` bytes. -/
theorem hexNibbles_length {emit : Nat → List UInt8} (he : HexEmit emit) :
    ∀ width value, (hexNibbles emit width value).length = width
  | 0, _ => rfl
  | width + 1, value => by
    have h := he _ (Nat.mod_lt (value / 16 ^ width) (by decide))
    rw [hexNibbles_succ, List.length_append, hexNibbles_length he width value,
      ← List.length_map _ hexValue, h, List.length_singleton, Nat.add_comm]

/-- `print_hex` on a byte is the two-nibble loop. -/
theorem printHex_eq {byte : Nat} (h : byte < 2 ^ 8) :
    printHex byte = hexNibbles (fun n => [NIBBLES.getD n 0]) 2 byte := by
  rw [printHex, hexNibbles_succ, hexNibbles_succ, Nat.mod_eq_of_lt (show byte / 16 ^ 1 < 16 by omega)]
  simp [hexNibbles]

/-! ## The decimal printers -/

/-- The loop `while num > 0 { buffer[i] = b'0' + (num % 10) as u8; num /= 10;
i += 1; }`, with `fuel` iterations: the buffer and `i` once `num` is `0`,
or `none` when `buffer[i]` is past the end (a panic) or the fuel runs out. -/
def digitsLoop : Nat → Nat → Nat → List UInt8 → Option (List UInt8 × Nat)
  | 0, _, _, _ => none
  | fuel + 1, num, i, buffer =>
    if num > 0 then
      if i < buffer.length then
        digitsLoop fuel (num / 10) (i + 1) (buffer.set i (48 + (num % 10).toUInt8))
      else none
    else some (buffer, i)

/-- The digits of a nonzero `num` from a zeroed buffer of `bufferLen`
bytes, written by `for j in (0..i).rev()`. `none` for a panic. The loop
panics at the latest in its iteration `bufferLen + 1`, so that many
iterations decide it. -/
def digitsOut (bufferLen num : Nat) : Option (List UInt8) :=
  match digitsLoop (bufferLen + 1) num 0 (List.replicate bufferLen 0) with
  | some (buffer, i) => some ((List.range i).reverse.map fun j => buffer.getD j 0)
  | none => none

/-- `print_uint(num)`: `print("0")` for zero, else the digits from a
10-byte buffer. -/
def printUint (num : Nat) : Option (List UInt8) :=
  if num = 0 then some (printStr "0") else digitsOut 10 num

/-- `print_decimal(num)` of `boot_env.rs`: `print_char(b'0')` for zero, else
the digits from a 20-byte buffer. -/
def printDecimal (num : Nat) : Option (List UInt8) :=
  if num = 0 then some [48] else digitsOut 20 num

/-- The decimal representation: `Nat.digits` most significant first, in
ASCII, and `0` for zero. -/
def decimalBytes (num : Nat) : List UInt8 :=
  if num = 0 then [48] else (Nat.digits 10 num).reverse.map fun d => 48 + d.toUInt8

/-- **The digit loop.** From slot `i`, when the remaining digits fit, the
loop stores them least significant first after the slots already used and
stops after them. -/
theorem digitsLoop_eq : ∀ (fuel num i : Nat) (buffer : List UInt8),
    (Nat.digits 10 num).length < fuel → i + (Nat.digits 10 num).length ≤ buffer.length →
      ∃ buffer', digitsLoop fuel num i buffer = some (buffer', i + (Nat.digits 10 num).length) ∧
        buffer'.length = buffer.length ∧
        ∀ j < i + (Nat.digits 10 num).length,
          buffer'.getD j 0 = if j < i then buffer.getD j 0
            else 48 + ((Nat.digits 10 num).getD (j - i) 0).toUInt8
  | 0, _, _, _, h, _ => absurd h (Nat.not_lt_zero _)
  | fuel + 1, num, i, buffer, hfuel, hfit => by
    rcases Nat.eq_zero_or_pos num with rfl | hpos
    · refine ⟨buffer, by simp [digitsLoop], rfl, fun j hj => ?_⟩
      simp only [Nat.digits_zero, List.length_nil, Nat.add_zero] at hj
      rw [if_pos hj]
    have hd : Nat.digits 10 num = num % 10 :: Nat.digits 10 (num / 10) :=
      Nat.digits_def' (by decide) hpos
    rw [hd, List.length_cons] at hfuel hfit
    obtain ⟨buffer', hrun, hlen, hget⟩ := digitsLoop_eq fuel (num / 10) (i + 1)
      (buffer.set i (48 + (num % 10).toUInt8)) (by omega) (by simp; omega)
    refine ⟨buffer', ?_, by simpa using hlen, fun j hj => ?_⟩
    · rw [digitsLoop, if_pos hpos, if_pos (by omega), hrun, hd, List.length_cons]
      congr 2
      omega
    · rw [hd, List.length_cons] at hj
      rw [hget j (by omega), hd]
      by_cases hji : j < i
      · rw [if_pos (by omega), if_pos hji, List.getD_eq_getElem?_getD, List.getElem?_set_ne (by omega),
          ← List.getD_eq_getElem?_getD]
      · rw [if_neg hji]
        by_cases hj' : j = i
        · subst hj'
          rw [if_pos (Nat.lt_succ_self j), List.getD_eq_getElem?_getD,
            List.getElem?_set_self (by omega), Nat.sub_self]
          rfl
        · rw [if_neg (by omega), show j - i = (j - (i + 1)) + 1 by omega]
          rfl

/-- **The decimal printers.** When the digits fit the buffer, the loop does
not panic and the bytes written are the decimal representation. -/
theorem digitsOut_eq {bufferLen num : Nat} (hpos : 0 < num)
    (hfit : (Nat.digits 10 num).length ≤ bufferLen) :
    digitsOut bufferLen num = some (decimalBytes num) := by
  obtain ⟨buffer, hrun, -, hget⟩ := digitsLoop_eq (bufferLen + 1) num 0
    (List.replicate bufferLen 0) (by omega) (by simpa using hfit)
  rw [digitsOut, hrun, decimalBytes, if_neg (by omega), Nat.zero_add]
  dsimp only
  congr 1
  apply List.ext_getElem (by simp)
  intro j h1 h2
  simp only [List.length_map, List.length_reverse, List.length_range] at h1
  simp only [List.getElem_map, List.getElem_reverse, List.getElem_range, List.length_range]
  rw [hget _ (by omega), if_neg (by omega), Nat.sub_zero, List.getD_eq_getElem?_getD,
    List.getElem?_eq_getElem (by omega), Option.getD_some]

/-- A value below `10 ^ L` has at most `L` decimal digits. -/
theorem digits_length_le {num L : Nat} (h : num < 10 ^ L) : (Nat.digits 10 num).length ≤ L := by
  rcases Nat.eq_zero_or_pos num with rfl | hpos
  · simp
  have hle := Nat.base_pow_length_digits_le 10 num (by decide) (by omega)
  have : 10 ^ (Nat.digits 10 num).length < 10 ^ (L + 1) := by rw [pow_succ]; omega
  have := (Nat.pow_lt_pow_iff_right (by decide : 1 < 10)).1 this
  omega

/-- **What the console shows.** Every hex printer, on every value of its
argument's type, writes its fixed number of digits, which read back as the
value (`boot_env`'s `print_hex` after its `0x`). `print_uint` on every
`u32` and `print_decimal` on every `usize` never overrun their buffer, and
they write the decimal representation. -/
theorem printers_read_back :
    (∀ v < 2 ^ 32, (printHex32 v).length = 8 ∧ readHex (printHex32 v) = some v) ∧
      (∀ v < 2 ^ 64, (printHex64 v).length = 16 ∧ readHex (printHex64 v) = some v) ∧
      (∀ v < 2 ^ 16, (printHex16 v).length = 4 ∧ readHex (printHex16 v) = some v) ∧
      (∀ v < 2 ^ 64, (printPtr v).length = 16 ∧ readHex (printPtr v) = some v) ∧
      (∀ v < 2 ^ 8, (printHex v).length = 2 ∧ readHex (printHex v) = some v) ∧
      (∀ v < 2 ^ 64, ∃ digits, bootPrintHex v = [48, 120] ++ digits ∧ digits.length = 16 ∧
        readHex digits = some v) ∧
      (∀ num < 2 ^ 32, printUint num = some (decimalBytes num)) ∧
      (∀ num < 2 ^ 64, printDecimal num = some (decimalBytes num)) := by
  have hex {emit : Nat → List UInt8} (he : HexEmit emit) (width : Nat) {v : Nat}
      (hv : v < 16 ^ width) :
      (hexNibbles emit width v).length = width ∧ readHex (hexNibbles emit width v) = some v :=
    ⟨hexNibbles_length he width v, readHex_hexNibbles_of_lt he hv⟩
  have lower := digitChar_hexEmit 97 (.inl rfl)
  have upper := digitChar_hexEmit 65 (.inr rfl)
  refine ⟨fun v hv => hex nibbles_hexEmit 8 (by omega), fun v hv => hex lower 16 (by omega),
    fun v hv => hex upper 4 (by omega), fun v hv => hex lower 16 (by omega),
    fun v hv => printHex_eq hv ▸ hex nibbles_hexEmit 2 (by omega),
    fun v hv => ⟨_, rfl, hex hexChars_hexEmit 16 (by omega)⟩, fun num hn => ?_, fun num hn => ?_⟩
  · rcases Nat.eq_zero_or_pos num with rfl | hpos
    · rfl
    · rw [printUint, if_neg (by omega), digitsOut_eq hpos (digits_length_le (by omega))]
  · rcases Nat.eq_zero_or_pos num with rfl | hpos
    · rfl
    · rw [printDecimal, if_neg (by omega), digitsOut_eq hpos (digits_length_le (by omega))]

end VirtioBoot.Machine.Console
