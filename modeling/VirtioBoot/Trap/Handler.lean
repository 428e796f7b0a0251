import VirtioBoot.Machine.Console
import VirtioBoot.Kernel.Elf

/-!
# The trap handler (`trap/handler.rs`)

`trap_handler` is the Rust half of a machine-mode trap entry. It reads
`mcause`, `mepc` and the argument registers, dispatches on
`mcause & 0x7FFF_FFFF`, and returns the address to resume at:

* `0x9`, an environment call from S-mode, is an SBI call
  (`handle_sbi_call_direct`): `a7` names the extension, `a6` the function
  and `a0` the argument. The base extension (`0x00`), a console extension
  (`0x01`: put a character, get a character), `TIME` and the vendor
  extension `BIND` answer with an `(error, value)` pair for `a0`/`a1`;
  `SRST` shuts the machine down. The call resumes after the `ecall`;
* `0xb`, an environment call from M-mode, is skipped;
* any other cause is reported; an instruction access fault (`0x1`) is
  skipped, and every other cause shuts the machine down.

"Skipped" means resuming at `mepc + 4`, a `u64` sum: a debug build panics
where a release build wraps (`Overflow`). `shutdown` writes `0x5555` to
QEMU's test finisher at `0x100000` and waits for interrupts forever.

The model records the bytes the handler writes to the UART, through the
printers of `Console`, and how the trap ends (`Outcome`). `mtval`,
`mstatus` and `a1` are read but nothing uses them, so they are left out.
Nothing under `src/` installs `trap_handler` as a trap vector, so the model
ends at the handler's return value and the pair it places in `a0`/`a1`.

## Main results

* `trapHandler_outcome` — which traps shut the machine down, which panic,
  and that every other trap resumes at `mepc + 4` (modulo `2 ^ 64`), with an
  SBI answer exactly for the S-mode environment calls.
* `sbiCall_result` — an SBI call answers `error = 0` exactly for the six
  functions it implements, and `(-1, 0)` for every other call.
* `consolePutchar_bytes` — putting a character writes the UTF-8 encoding of
  the code point `a0 & 0xFF`: the byte itself below `0x80`, two bytes above.
* `trapHandler_interrupt_bit` — the mask clears bit 63 of `mcause`, the
  interrupt bit of RV64: an interrupt is handled as the exception with the
  same code, so an S-mode external interrupt is taken for an SBI call and
  resumes past the interrupted instruction.
-/

namespace VirtioBoot.Trap.Handler

open VirtioBoot.Machine.Console
open VirtioBoot.Kernel.Elf

/-! ## The handler -/

/-- The registers `trap_handler` reads on entry and uses. -/
structure TrapFrame where
  mcause : UInt64
  mepc : UInt64
  a0 : UInt64
  a6 : UInt64
  a7 : UInt64
  deriving DecidableEq, Repr

/-- How a trap ends. -/
inductive Outcome where
  /-- `trap_handler` returns `ret`, the address to resume at; `sbiRet` is the
  `(error, value)` pair an SBI call places in `a0`/`a1`. -/
  | resume (ret : Nat) (sbiRet : Option (Nat × Nat))
  /-- `shutdown`: `0x5555` to `0x100000`, then `wfi` forever. -/
  | shutdown
  /-- A debug build's overflow panic on `mepc + 4`. -/
  | panic
  deriving DecidableEq, Repr

/-- `handle_base_extension(function_id, ..)`: the SBI specification
version, the implementation id `"RSSB"` and the implementation version. -/
def handleBaseExtension (functionId : Nat) : Nat × Nat :=
  match functionId with
  | 0x00 => (0, 0x00000002)
  | 0x01 => (0, 0x52535342)
  | 0x02 => (0, 0x00000001)
  | _ => (0xFFFFFFFFFFFFFFFF, 0)

/-- `handle_console_extension(function_id, arg0, _)`: write the character
`(arg0 & 0xFF) as u8 as char`, or report that no input is waiting. -/
def handleConsoleExtension (functionId arg0 : Nat) : List UInt8 × Nat × Nat :=
  match functionId with
  | 0x00 => (printChar (Char.ofNat (arg0 &&& 0xFF)), 0, 0)
  | 0x01 => ([], 0, 0xFFFFFFFFFFFFFFFF)
  | _ => ([], 0xFFFFFFFFFFFFFFFF, 0)

/-- `handle_timer_extension(function_id, ..)`: a request to set the timer
is acknowledged and printed, and the timer is left alone. -/
def handleTimerExtension (functionId : Nat) : List UInt8 × Nat × Nat :=
  match functionId with
  | 0x00 => (printStr "⏰ Timer set requested\r\n", 0, 0)
  | _ => ([], 0xFFFFFFFFFFFFFFFF, 0)

/-- `handle_vendor_extension(..)`. -/
def handleVendorExtension : Nat × Nat := (0xFFFFFFFFFFFFFFFF, 0)

/-- What `shutdown` prints before it stops the machine. -/
def shutdownMessage : List UInt8 := printStr "🛑 安全关机...\r\n"

/-- The `match extension_id` of `handle_sbi_call_direct`: the bytes printed
and the `(error, value)` pair, or `none` for `SRST`, which never returns. -/
def sbiDispatch (extensionId functionId arg0 : Nat) : List UInt8 × Option (Nat × Nat) :=
  match extensionId with
  | 0x00 => ([], some (handleBaseExtension functionId))
  | 0x01 =>
    let (out, r) := handleConsoleExtension functionId arg0
    (out, some r)
  | 0x53525354 => (printStr "\r\n🔌 收到关机请求\r\n" ++ shutdownMessage, none)
  | 0x54494D45 =>
    let (out, r) := handleTimerExtension functionId
    (out, some r)
  | 0x444E4942 => ([], some handleVendorExtension)
  | _ =>
    (printStr "⚠️ Unknown SBI extension: 0x" ++ printHex64 extensionId ++ printStr "\r\n",
      some (0xFFFFFFFFFFFFFFFF, 0))

/-- `mepc + 4`: resume after the trapping instruction. -/
def resumeAfter (mode : Overflow) (mepc : Nat) (sbiRet : Option (Nat × Nat)) : Outcome :=
  match mode.add mepc 4 with
  | .ok ret => .resume ret sbiRet
  | .error _ => .panic

/-- `handle_sbi_call_direct(extension_id, function_id, arg0, _, mepc)`. -/
def handleSbiCallDirect (mode : Overflow) (extensionId functionId arg0 mepc : Nat) :
    List UInt8 × Outcome :=
  match sbiDispatch extensionId functionId arg0 with
  | (out, none) => (out, .shutdown)
  | (out, some r) => (out, resumeAfter mode mepc (some r))

/-- `handle_mmode_ecall_direct(mepc)`. -/
def handleMmodeEcallDirect (mode : Overflow) (mepc : Nat) : List UInt8 × Outcome :=
  (printStr "⚠️ M-mode ecall detected\r\n", resumeAfter mode mepc none)

/-- `handle_unknown_trap_direct(mcause, mepc)`. -/
def handleUnknownTrapDirect (mode : Overflow) (mcause mepc : Nat) : List UInt8 × Outcome :=
  let out := printStr "❌ Unknown trap detected: mcause=0x" ++ printHex64 mcause ++ printStr "\r\n"
  if mcause &&& 0x7FFFFFFF = 0x1 then
    (out ++ printStr "🚨 Instruction access fault - attempting recovery\r\n",
      resumeAfter mode mepc none)
  else (out ++ shutdownMessage, .shutdown)

/-- `trap_handler()`. -/
def trapHandler (mode : Overflow) (f : TrapFrame) : List UInt8 × Outcome :=
  match f.mcause.toNat &&& 0x7FFFFFFF with
  | 0x9 => handleSbiCallDirect mode f.a7.toNat f.a6.toNat f.a0.toNat f.mepc.toNat
  | 0xb => handleMmodeEcallDirect mode f.mepc.toNat
  | _ => handleUnknownTrapDirect mode f.mcause.toNat f.mepc.toNat

/-! ## What a trap does -/

/-- The cause code the handler dispatches on. -/
def causeCode (f : TrapFrame) : Nat := f.mcause.toNat % 2 ^ 31

/-- The traps that stop the machine: an SBI call to `SRST`, and every cause
other than the two environment calls and an instruction access fault. -/
def Halts (f : TrapFrame) : Prop :=
  (causeCode f = 0x9 ∧ f.a7.toNat = 0x53525354) ∨
    (causeCode f ≠ 0x9 ∧ causeCode f ≠ 0xb ∧ causeCode f ≠ 0x1)

instance (f : TrapFrame) : Decidable (Halts f) := inferInstanceAs (Decidable (_ ∨ _))

/-- The SBI functions the handler implements: the three base functions, the
two console functions and setting the timer. -/
def Implemented (extensionId functionId : Nat) : Prop :=
  (extensionId = 0x00 ∧ functionId ≤ 0x02) ∨ (extensionId = 0x01 ∧ functionId ≤ 0x01) ∨
    (extensionId = 0x54494D45 ∧ functionId = 0x00)

instance (extensionId functionId : Nat) : Decidable (Implemented extensionId functionId) :=
  inferInstanceAs (Decidable (_ ∨ _))

/-- The handler's convention for the answer `(error, value)` to a call
that is implemented exactly when `implemented`: `error = 0` for those, and
`(-1, 0)` for every other call. -/
def Convention (implemented : Prop) (answer : Nat × Nat) : Prop :=
  (answer.1 = 0 ↔ implemented) ∧ (answer.1 ≠ 0 → answer = (2 ^ 64 - 1, 0))

theorem Convention.of_iff {p q : Prop} {answer : Nat × Nat} (h : Convention p answer)
    (hpq : p ↔ q) : Convention q answer :=
  ⟨h.1.trans hpq, h.2⟩

theorem mask_eq_mod (n : Nat) : n &&& 0x7FFFFFFF = n % 2 ^ 31 :=
  Nat.and_pow_two_sub_one_eq_mod n 31

theorem handleBaseExtension_convention (functionId : Nat) :
    Convention (functionId ≤ 0x02) (handleBaseExtension functionId) := by
  unfold handleBaseExtension Convention
  split <;> simp_all
  omega

theorem handleConsoleExtension_convention (functionId arg0 : Nat) :
    Convention (functionId ≤ 0x01) (handleConsoleExtension functionId arg0).2 := by
  unfold handleConsoleExtension Convention
  split <;> simp_all
  omega

theorem handleTimerExtension_convention (functionId : Nat) :
    Convention (functionId = 0x00) (handleTimerExtension functionId).2 := by
  unfold handleTimerExtension Convention
  split <;> simp_all

/-- Only `SRST` stops an SBI call. -/
theorem sbiDispatch_eq_none (extensionId functionId arg0 : Nat) :
    (sbiDispatch extensionId functionId arg0).2 = none ↔ extensionId = 0x53525354 := by
  unfold sbiDispatch
  split <;> simp_all

/-- **The SBI answer.** Every answer of the dispatch follows the convention
for the implemented functions. -/
theorem sbiDispatch_convention {extensionId functionId arg0 : Nat} {answer : Nat × Nat}
    (h : (sbiDispatch extensionId functionId arg0).2 = some answer) :
    Convention (Implemented extensionId functionId) answer := by
  unfold sbiDispatch at h
  split at h
  · cases h
    exact (handleBaseExtension_convention functionId).of_iff (by simp [Implemented])
  · have hc := handleConsoleExtension_convention functionId arg0
    rcases handleConsoleExtension functionId arg0 with ⟨out, r⟩
    cases h
    exact hc.of_iff (by simp [Implemented])
  · cases h
  · have hc := handleTimerExtension_convention functionId
    rcases handleTimerExtension functionId with ⟨out, r⟩
    cases h
    exact hc.of_iff (by simp [Implemented])
  · cases h
    simp [Convention, Implemented, handleVendorExtension]
  · cases h
    simp_all [Convention, Implemented]

theorem resumeAfter_ne_shutdown (mode : Overflow) (mepc : Nat) (r : Option (Nat × Nat)) :
    resumeAfter mode mepc r ≠ .shutdown := by
  unfold resumeAfter
  split <;> simp

theorem resumeAfter_eq_panic (mode : Overflow) (mepc : Nat) (r : Option (Nat × Nat)) :
    resumeAfter mode mepc r = .panic ↔ mode = .panics ∧ 2 ^ 64 ≤ mepc + 4 := by
  cases mode
  · by_cases h : mepc + 4 < 2 ^ 64
    · simp only [resumeAfter, Overflow.add, if_pos h, reduceCtorEq, true_and, false_iff]
      omega
    · simp only [resumeAfter, Overflow.add, if_neg h, true_and, true_iff]
      omega
  · simp [resumeAfter, Overflow.add]

theorem resumeAfter_eq_resume {mode : Overflow} {mepc ret : Nat} {r r' : Option (Nat × Nat)}
    (h : resumeAfter mode mepc r = .resume ret r') : ret = (mepc + 4) % 2 ^ 64 ∧ r' = r := by
  cases mode
  · by_cases hlt : mepc + 4 < 2 ^ 64
    · simp only [resumeAfter, Overflow.add, if_pos hlt, Outcome.resume.injEq] at h
      exact ⟨by rw [← h.1, Nat.mod_eq_of_lt hlt], h.2.symm⟩
    · simp only [resumeAfter, Overflow.add, if_neg hlt, reduceCtorEq] at h
  · simp only [resumeAfter, Overflow.add, Outcome.resume.injEq] at h
    exact ⟨h.1.symm, h.2.symm⟩

/-- **One spec for every trap.** A trap halts, or resumes after the
trapping instruction; an S-mode environment call carries the dispatch's
answer. -/
theorem trapHandler_outcome_eq (mode : Overflow) (f : TrapFrame) :
    (trapHandler mode f).2 =
      if Halts f then .shutdown
      else resumeAfter mode f.mepc.toNat
        (if causeCode f = 0x9 then (sbiDispatch f.a7.toNat f.a6.toNat f.a0.toNat).2 else none) := by
  unfold trapHandler Halts causeCode
  rw [mask_eq_mod]
  split
  · rename_i hc
    have hn := sbiDispatch_eq_none f.a7.toNat f.a6.toNat f.a0.toNat
    unfold handleSbiCallDirect
    split <;> rename_i hd <;> rw [hd] at hn
    · rw [if_pos (.inl ⟨hc, hn.1 rfl⟩)]
    · have hs : f.a7.toNat ≠ 0x53525354 := fun hs => nomatch hn.2 hs
      rw [if_neg fun h => h.elim (fun h => hs h.2) (fun h => h.1 hc), if_pos hc, hd]
  · rename_i hc
    rw [if_neg fun h => h.elim (fun h => by omega) (fun h => h.2.1 hc), if_neg (by omega)]
    rfl
  · rename_i h9 hb
    unfold handleUnknownTrapDirect
    rw [mask_eq_mod]
    by_cases h1 : f.mcause.toNat % 2 ^ 31 = 0x1
    · rw [if_pos h1, if_neg fun h => h.elim (fun h => h9 h.1) (fun h => h.2.2 h1), if_neg h9]
    · rw [if_neg h1, if_pos (.inr ⟨h9, hb, h1⟩)]

/-- **Every trap.** It shuts the machine down exactly when `Halts`, panics
exactly in a debug build when `mepc + 4` overflows, and otherwise resumes at
`mepc + 4` modulo `2 ^ 64`, with an SBI answer exactly for an S-mode
environment call. -/
theorem trapHandler_outcome (mode : Overflow) (f : TrapFrame) :
    ((trapHandler mode f).2 = .shutdown ↔ Halts f) ∧
      ((trapHandler mode f).2 = .panic ↔
        mode = .panics ∧ ¬ Halts f ∧ 2 ^ 64 ≤ f.mepc.toNat + 4) ∧
      ∀ ret sbiRet, (trapHandler mode f).2 = .resume ret sbiRet →
        ret = (f.mepc.toNat + 4) % 2 ^ 64 ∧ (sbiRet.isSome ↔ causeCode f = 0x9) := by
  rw [trapHandler_outcome_eq]
  by_cases hh : Halts f
  · simp [hh]
  · rw [if_neg hh]
    refine ⟨iff_of_false (resumeAfter_ne_shutdown _ _ _) hh, ?_, fun ret sbiRet h => ?_⟩
    · rw [resumeAfter_eq_panic]
      simp only [hh, not_false_eq_true, true_and]
    · obtain ⟨hret, rfl⟩ := resumeAfter_eq_resume h
      refine ⟨hret, ?_⟩
      by_cases h9 : causeCode f = 0x9
      · have hs : f.a7.toNat ≠ 0x53525354 := fun hs => hh (.inl ⟨h9, hs⟩)
        rw [if_pos h9, Option.isSome_iff_ne_none, Ne, sbiDispatch_eq_none]
        exact iff_of_true hs h9
      · rw [if_neg h9]
        exact iff_of_false (by simp) h9

/-- **SBI error codes.** Every answer an SBI call returns follows the
convention: `error = 0` exactly for the implemented functions, and `(-1, 0)`
for every other call. -/
theorem sbiCall_result {mode : Overflow} {f : TrapFrame} {ret : Nat} {answer : Nat × Nat}
    (h : (trapHandler mode f).2 = .resume ret (some answer)) :
    Convention (Implemented f.a7.toNat f.a6.toNat) answer := by
  rw [trapHandler_outcome_eq] at h
  split at h
  · cases h
  · obtain ⟨-, hr⟩ := resumeAfter_eq_resume h
    split at hr
    · exact sbiDispatch_convention hr.symm
    · cases hr

theorem sbiCall_result_base :
    (trapHandler .wraps ⟨9, 0x80200000, 0, 0, 0⟩).2 = .resume 0x80200004 (some (0, 2)) ∧
      Convention (Implemented 0 0) (0, 2) :=
  ⟨by decide, @sbiCall_result .wraps ⟨9, 0x80200000, 0, 0, 0⟩ 0x80200004 (0, 2) (by decide)⟩

/-! ## The console -/

/-- An SBI call prints what its dispatch prints. -/
theorem trapHandler_sbi_bytes (mode : Overflow) (f : TrapFrame) (hcall : causeCode f = 0x9) :
    (trapHandler mode f).1 = (sbiDispatch f.a7.toNat f.a6.toNat f.a0.toNat).1 := by
  unfold trapHandler handleSbiCallDirect
  rw [mask_eq_mod, show f.mcause.toNat % 2 ^ 31 = 0x9 from hcall]
  rcases sbiDispatch f.a7.toNat f.a6.toNat f.a0.toNat with ⟨out, _ | r⟩ <;> rfl

/-- **Putting a character.** The console's put-character call writes the
byte `a0 & 0xFF` as the UTF-8 encoding of that code point, so a byte from
`0x80` up reaches the UART as two bytes. -/
theorem consolePutchar_bytes (mode : Overflow) (f : TrapFrame) (hcall : causeCode f = 0x9)
    (hext : f.a7.toNat = 0x01) (hfun : f.a6.toNat = 0x00) :
    (trapHandler mode f).1 =
      if f.a0.toNat % 256 < 0x80 then [(f.a0.toNat % 256).toUInt8]
      else [(0xC0 + f.a0.toNat % 256 / 64).toUInt8, (0x80 + f.a0.toNat % 256 % 64).toUInt8] := by
  rw [trapHandler_sbi_bytes mode f hcall, hext, hfun,
    ← printChar_byte _ (Nat.mod_lt _ (by decide)), ← Nat.and_pow_two_sub_one_eq_mod _ 8]
  rfl

/-! ## Interrupts -/

theorem toNat_or_interrupt_mod (x : UInt64) :
    (x ||| 0x8000000000000000).toNat % 2 ^ 31 = x.toNat % 2 ^ 31 := by
  have hor : (x ||| 0x8000000000000000).toNat = x.toNat ||| 2 ^ 63 := by
    simp only [UInt64.toNat]
    rfl
  rw [hor]
  apply Nat.eq_of_testBit_eq
  intro i
  simp only [Nat.testBit_mod_two_pow, Nat.testBit_or, Nat.testBit_two_pow]
  by_cases hi : i < 31
  · simp [hi, show 63 ≠ i by omega]
  · simp [hi]

/-- **The interrupt bit is ignored.** Setting bit 63 of `mcause` changes
nothing in how a trap ends: an interrupt is handled as the exception with the
same code. -/
theorem trapHandler_interrupt_bit (mode : Overflow) (f : TrapFrame) :
    (trapHandler mode { f with mcause := f.mcause ||| 0x8000000000000000 }).2 =
      (trapHandler mode f).2 := by
  have hc : causeCode { f with mcause := f.mcause ||| 0x8000000000000000 } = causeCode f :=
    toNat_or_interrupt_mod f.mcause
  simp only [trapHandler_outcome_eq, Halts, hc]

/-- A supervisor external interrupt (`mcause = 2 ^ 63 + 9`) with `a7 = 0`
resumes past the interrupted instruction, with a base-extension answer. -/
example : trapHandler .wraps ⟨0x8000000000000009, 0x80200000, 0, 0, 0⟩ =
    ([], .resume 0x80200004 (some (0, 2))) := by
  decide

end VirtioBoot.Trap.Handler
