import VirtioBoot.Machine.Bytes

/-!
# The ELF program-header walk

`ElfParser::new` accepts a byte slice of at least 64 bytes that starts with
`7F 45 4C 46`. `load_segments` then walks the program-header table and calls
its callback once per `PT_LOAD` entry, passing the entry's address, the part
of its file image that lies inside the slice, and its memory size.

The range checks add `usize` values read from the file. A debug build panics
when such a sum overflows. A release build wraps the sum modulo `2 ^ 64`, and
a wrapped sum can pass a check that it should fail. A debug build also
panics when it dereferences a program header that is not 8-aligned. Both
builds are modelled (`Overflow`). A call ends in one of four ways: `Ok`, `Err` with the source's
message, a panic, or a read through a header pointer outside the slice
(`Stop`).

The reference walk `referenceLoad` is the same walk over natural numbers. A
header table that does not fit is an error, and an entry whose file image
runs past the slice is clamped to it.

## Main results

* `walk_agrees`, `walk_agrees_or_panic` — the loop, once for every step
  function.
* `loadSegments_agrees_of_lt` — in both builds the calls and the result are
  the reference's when the slice, `e_phoff` and every visited `p_filesz` are
  below `2 ^ 63`, and, in a debug build, every visited header is aligned.
* `loadSegments_debug` — a debug build either agrees with the reference, or
  panics after making a prefix of its calls. It never reads outside the
  slice.
* `loadSegments_wrap_diverges` — two images on which neither
  build agrees with the reference.
-/

namespace VirtioBoot.Kernel.Elf

open VirtioBoot.Machine.Bytes

/-! ## Headers -/

/-- `ELF_MAGIC`: `7F 'E' 'L' 'F'`. -/
def ELF_MAGIC : List UInt8 := [0x7F, 0x45, 0x4C, 0x46]

/-- `PT_LOAD`: the type of a loadable segment. -/
def PT_LOAD : Nat := 1

/-- `size_of::<Elf64Ehdr>()`. -/
def ehdrSize : Nat := 64

/-- `size_of::<Elf64Phdr>()`. -/
def phdrSize : Nat := 56

/-- A parser holds a slice that `new` accepted: the slice covers the ELF
header, and it starts with the magic. -/
structure ElfParser where
  data : List UInt8
  size_le : ehdrSize ≤ data.length
  magic : data.take 4 = ELF_MAGIC

/-- `ElfParser::new`. The two structure-size checks are those of the
source. They never fail, because the `repr(C)` layouts have no padding. -/
def ElfParser.new (data : List UInt8) : Except String ElfParser :=
  if ehdrSize ≠ 64 then .error "Elf64Ehdr结构体大小与标准不符，存在填充字节或定义错误"
  else if phdrSize ≠ 56 then .error "Elf64Phdr结构体大小与标准不符，存在填充字节或定义错误"
  else if h : data.length < ehdrSize then .error "ELF文件太小"
  else if hm : data.take 4 = ELF_MAGIC then .ok ⟨data, Nat.le_of_not_lt h, hm⟩
  else .error "无效的ELF魔数"

/-- `new` accepts exactly the slices of at least 64 bytes that start with
the magic. It rejects a short slice as too small and any other slice as
having a bad magic. -/
theorem ElfParser.new_eq (data : List UInt8) :
    ElfParser.new data =
      if h : data.length < 64 then .error "ELF文件太小"
      else if hm : data.take 4 = ELF_MAGIC then .ok ⟨data, Nat.le_of_not_lt h, hm⟩
      else .error "无效的ELF魔数" := rfl

/-- `new` accepts a slice of at least 64 bytes that starts with the magic. -/
theorem ElfParser.new_ok {data : List UInt8} (hlen : 64 ≤ data.length)
    (hm : data.take 4 = ELF_MAGIC) : ElfParser.new data = .ok ⟨data, hlen, hm⟩ := by
  rw [ElfParser.new_eq, dif_neg (Nat.not_lt.2 hlen), dif_pos hm]

/-- The fields of `Elf64Ehdr` that the loader reads. -/
structure Ehdr where
  eEntry : Nat
  ePhoff : Nat
  ePhentsize : Nat
  ePhnum : Nat

/-- The ELF header at the start of the slice, as the cast
`&*(data.as_ptr() as *const Elf64Ehdr)` reads it. -/
def ehdrOf (data : List UInt8) : Ehdr :=
  ⟨readLE data 0x18 8, readLE data 0x20 8, readLE data 0x36 2, readLE data 0x38 2⟩

/-- `entry_point`. -/
def ElfParser.entryPoint (p : ElfParser) : Nat := (ehdrOf p.data).eEntry

/-- The ELF header lies in the first 64 bytes. -/
theorem ehdrOf_take (data : List UInt8) {n : Nat} (hn : 64 ≤ n) : ehdrOf (data.take n) = ehdrOf data := by
  simp only [ehdrOf, readLE_take data (show 0x18 + 8 ≤ n by omega), readLE_take data
    (show 0x20 + 8 ≤ n by omega), readLE_take data (show 0x36 + 2 ≤ n by omega),
    readLE_take data (show 0x38 + 2 ≤ n by omega)]

/-- The fields of `Elf64Phdr` that the loader reads. -/
structure Phdr where
  pType : Nat
  pOffset : Nat
  pVaddr : Nat
  pFilesz : Nat
  pMemsz : Nat

/-- The program header at offset `o` of the slice. -/
def phdrAt (data : List UInt8) (o : Nat) : Phdr :=
  ⟨readLE data o 4, readLE data (o + 8) 8, readLE data (o + 16) 8, readLE data (o + 32) 8,
    readLE data (o + 40) 8⟩

/-- A program header lies in the 56 bytes at its offset. -/
theorem phdrAt_take (data : List UInt8) {o n : Nat} (hn : o + 56 ≤ n) :
    phdrAt (data.take n) o = phdrAt data o := by
  simp only [phdrAt, readLE_take data (show o + 4 ≤ n by omega),
    readLE_take data (show o + 8 + 8 ≤ n by omega), readLE_take data (show o + 16 + 8 ≤ n by omega),
    readLE_take data (show o + 32 + 8 ≤ n by omega), readLE_take data (show o + 40 + 8 ≤ n by omega)]

/-! ## How a call ends -/

/-- A way for `load_segments` to end other than `Ok`. -/
inductive Stop where
  /-- It returns `Err msg`. -/
  | err (msg : String)
  /-- A panic: an overflow in a debug build, or a slice index out of range. -/
  | panic
  /-- A header is read through a pointer outside the slice. -/
  | outOfBounds
  deriving DecidableEq, Repr

/-- A build, named by how it treats a `usize` sum that overflows. A debug
build also checks the alignment of a raw-pointer dereference. -/
inductive Overflow where
  /-- A debug build: the overflow check and the alignment check panic. -/
  | panics
  /-- A release build: the sum wraps modulo `2 ^ 64`, and nothing is checked. -/
  | wraps
  deriving DecidableEq, Repr

/-- `a + b` on `usize`. -/
def Overflow.add : Overflow → Nat → Nat → Except Stop Nat
  | .panics, a, b => if a + b < 2 ^ 64 then .ok (a + b) else .error .panic
  | .wraps, a, b => .ok ((a + b) % 2 ^ 64)

/-- A sum below `2 ^ 64` is exact in both builds. -/
theorem Overflow.add_of_lt (mode : Overflow) {a b : Nat} (h : a + b < 2 ^ 64) :
    mode.add a b = .ok (a + b) := by
  cases mode
  · exact if_pos h
  · exact congrArg Except.ok (Nat.mod_eq_of_lt h)

/-- In a debug build a sum is exact or it panics. -/
theorem Overflow.add_panics (a b : Nat) :
    Overflow.panics.add a b = .ok (a + b) ∨ Overflow.panics.add a b = .error .panic := by
  by_cases h : a + b < 2 ^ 64
  · exact .inl (if_pos h)
  · exact .inr (if_neg h)

/-- The check a debug build makes before `&*(ptr as *const Elf64Phdr)` with `ptr` at
byte `offset` of the slice: a pointer that is not 8-aligned panics. The slice
starts at the staging buffer `0x81000000`, since `find_elf_signature` always
returns offset 0, so the pointer is aligned exactly when `offset` is. -/
def Overflow.checkAlign : Overflow → Nat → Except Stop Unit
  | .panics, offset => if offset % 8 = 0 then .ok () else .error .panic
  | .wraps, _ => .ok ()

/-- An aligned header, or any header in a release build, passes the check. -/
theorem Overflow.checkAlign_of_aligned (mode : Overflow) {offset : Nat}
    (h : mode = .panics → offset % 8 = 0) : mode.checkAlign offset = .ok () := by
  cases mode
  · exact if_pos (h rfl)
  · rfl

/-- The check passes or panics. -/
theorem Overflow.checkAlign_cases (mode : Overflow) (offset : Nat) :
    mode.checkAlign offset = .ok () ∨ mode.checkAlign offset = .error .panic := by
  cases mode
  · by_cases h : offset % 8 = 0
    · exact .inl (if_pos h)
    · exact .inr (if_neg h)
  · exact .inl rfl

@[simp] theorem ok_bind {ε α β : Type} (a : α) (f : α → Except ε β) : (Except.ok a >>= f) = f a :=
  rfl

@[simp] theorem error_bind {ε α β : Type} (e : ε) (f : α → Except ε β) :
    (Except.error e >>= f) = .error e := rfl

@[simp] theorem throw_except {ε α : Type} (e : ε) : (throw e : Except ε α) = .error e := rfl

@[simp] theorem pure_except {ε α : Type} (a : α) : (pure a : Except ε α) = .ok a := rfl

/-- `&data[a..b]`: a panic unless `a ≤ b ≤ data.len()`. -/
def sliceRange (data : List UInt8) (a b : Nat) : Except Stop (List UInt8) :=
  if a ≤ b ∧ b ≤ data.length then .ok ((data.drop a).take (b - a)) else .error .panic

/-! ## The walk -/

/-- One call of the callback: `load_func(p_vaddr, segment_data, p_memsz)`.
`srcOffset` is where `src` starts in the slice. For the empty slice `&[]`
the model records `p_offset` there. No callee reads the address of an empty
slice. -/
structure Load where
  vaddr : Nat
  srcOffset : Nat
  src : List UInt8
  memsz : Nat
  deriving DecidableEq, Repr

/-- `for i in i₀..i₀ + n`, where the body either returns early or makes at
most one call: the calls made, in order, and how the loop ends. -/
def walk {ε : Type} (step : Nat → Except ε (Option Load)) : Nat → Nat → List Load × Except ε Unit
  | 0, _ => ([], .ok ())
  | n + 1, i =>
    match step i with
    | .error e => ([], .error e)
    | .ok none => walk step n (i + 1)
    | .ok (some l) => (l :: (walk step n (i + 1)).1, (walk step n (i + 1)).2)

/-- The body for a `PT_LOAD` header: the range check on `p_offset`, the
clamped size, and the slice. -/
def loadEntry (mode : Overflow) (data : List UInt8) (phdr : Phdr) : Except Stop Load := do
  let fileOffset := phdr.pOffset
  let fileSize := phdr.pFilesz
  if fileOffset > data.length then
    throw (.err "段文件偏移超出范围")
  let readableSize :=
    if (← mode.add fileOffset fileSize) > data.length then data.length - fileOffset else fileSize
  let segmentData ← if readableSize > 0 then do
      let segmentEnd ← mode.add fileOffset readableSize
      sliceRange data fileOffset segmentEnd
    else pure []
  pure ⟨phdr.pVaddr, fileOffset, segmentData, phdr.pMemsz⟩

/-- The body of the loop for header `i`. -/
def phdrStep (mode : Overflow) (data : List UInt8) (ePhoff ePhentsize i : Nat) :
    Except Stop (Option Load) := do
  let phdrOffset ← mode.add ePhoff (i * ePhentsize)
  if (← mode.add phdrOffset ePhentsize) > data.length then
    throw (.err "程序头超出文件范围")
  if (← mode.add phdrOffset phdrSize) > data.length then
    throw (.err "程序头数据不完整")
  mode.checkAlign phdrOffset
  if phdrOffset + phdrSize > data.length then
    throw .outOfBounds
  let phdr := phdrAt data phdrOffset
  if phdr.pType = PT_LOAD then some <$> loadEntry mode data phdr else pure none

/-- `load_segments`: the table check, then the walk over `e_phnum` headers. -/
def ElfParser.loadSegments (mode : Overflow) (p : ElfParser) : List Load × Except Stop Unit :=
  let ehdr := ehdrOf p.data
  let totalPhdrSize := ehdr.ePhnum * ehdr.ePhentsize
  match mode.add ehdr.ePhoff totalPhdrSize with
  | .error e => ([], .error e)
  | .ok tableEnd =>
    if tableEnd > p.data.length then ([], .error (.err "程序头表超出文件范围"))
    else walk (phdrStep mode p.data ehdr.ePhoff ehdr.ePhentsize) ehdr.ePhnum 0

/-! ## The reference walk -/

/-- A `PT_LOAD` entry of the reference: an error when `p_offset` lies past
the slice, and otherwise the file image clamped to the slice. -/
def refEntry (data : List UInt8) (ph : Phdr) : Except Unit Load :=
  if ph.pOffset > data.length then .error ()
  else .ok ⟨ph.pVaddr, ph.pOffset,
    (data.drop ph.pOffset).take (min ph.pFilesz (data.length - ph.pOffset)), ph.pMemsz⟩

/-- The header at offset `o` of the reference. -/
def refStep (data : List UInt8) (o : Nat) : Except Unit (Option Load) :=
  if o + 56 > data.length then .error ()
  else if (phdrAt data o).pType = 1 then some <$> refEntry data (phdrAt data o)
  else .ok none

/-- The reference walk over natural numbers. It returns `Err` without a
message. -/
def referenceLoad (data : List UInt8) : List Load × Except Unit Unit :=
  let h := ehdrOf data
  if h.ePhoff + h.ePhnum * h.ePhentsize > data.length then ([], .error ())
  else walk (fun i => refStep data (h.ePhoff + i * h.ePhentsize)) h.ePhnum 0

/-- A result of the code as the reference would report it: `Ok`, `Err`, or
nothing when the code panics or reads outside the slice. -/
def toReference {α : Type} : Except Stop α → Option (Except Unit α)
  | .ok a => some (.ok a)
  | .error (.err _) => some (.error ())
  | .error _ => none

/-- The code makes the reference's calls and returns its result. -/
def Agrees (c : List Load × Except Stop Unit) (r : List Load × Except Unit Unit) : Prop :=
  c.1 = r.1 ∧ toReference c.2 = some r.2

@[simp] theorem toReference_ok {α : Type} (a : α) : toReference (.ok a : Except Stop α) = some (.ok a) :=
  rfl

@[simp] theorem toReference_err {α : Type} (m : String) :
    toReference (.error (.err m) : Except Stop α) = some (.error ()) := rfl

@[simp] theorem toReference_panic {α : Type} : toReference (.error .panic : Except Stop α) = none :=
  rfl

theorem toReference_map {α β : Type} (f : α → β) (x : Except Stop α) :
    toReference (f <$> x) = (toReference x).map (f <$> ·) := by
  rcases x with (_ | _ | _) | _ <;> rfl

/-- What `toReference x = some y` says about `x` and `y`. -/
theorem toReference_eq_some {α : Type} {x : Except Stop α} {y : Except Unit α}
    (h : toReference x = some y) : (∃ a, x = .ok a ∧ y = .ok a) ∨ (∃ m, x = .error (.err m)) ∧ y = .error () := by
  rcases x with (m | _ | _) | a
  · exact .inr ⟨⟨m, rfl⟩, (Option.some_injective _ h).symm⟩
  · cases h
  · cases h
  · exact .inl ⟨a, rfl, (Option.some_injective _ h).symm⟩

/-! ## The loop, once -/

section Walk

variable {s : Nat → Except Stop (Option Load)} {t : Nat → Except Unit (Option Load)}

/-- **The loop of a debug build.** When every step agrees or panics, the
loop agrees, or it panics after a prefix of the reference's calls. -/
theorem walk_agrees_or_panic : ∀ n i,
    (∀ j, i ≤ j → j < i + n → toReference (s j) = some (t j) ∨ s j = .error .panic) →
    Agrees (walk s n i) (walk t n i) ∨
      ((walk s n i).2 = .error .panic ∧ (walk s n i).1 <+: (walk t n i).1)
  | 0, _, _ => .inl ⟨rfl, rfl⟩
  | n + 1, i, h => by
    have ih := walk_agrees_or_panic n (i + 1) fun j h1 h2 => h j (by omega) (by omega)
    rcases h i le_rfl (by omega) with hi | hs
    · rcases toReference_eq_some hi with ⟨a, hs, ht⟩ | ⟨⟨m, hs⟩, ht⟩
      · rcases a with _ | l
        · simpa only [walk, hs, ht] using ih
        · simp only [walk, hs, ht]
          rcases ih with ih | ⟨hp, hpre⟩
          · exact .inl ⟨congrArg (l :: ·) ih.1, ih.2⟩
          · exact .inr ⟨hp, List.cons_prefix_cons.2 ⟨rfl, hpre⟩⟩
      · simp only [walk, hs, ht]
        exact .inl ⟨rfl, rfl⟩
    · simp [walk, hs]

end Walk

/-! ## One header -/

section Step

variable (data : List UInt8)

/-- The slice of a clamped size lies inside `data`. -/
theorem sliceRange_clamped {off f : Nat} (hoff : off ≤ data.length) :
    sliceRange data off (off + min f (data.length - off)) =
      .ok ((data.drop off).take (min f (data.length - off))) := by
  rw [sliceRange, if_pos (by omega), Nat.add_sub_cancel_left]

/-- Without an overflow, a `PT_LOAD` entry is the reference's. -/
theorem loadEntry_of_lt (mode : Overflow) (ph : Phdr) (hlen : data.length < 2 ^ 63)
    (hf : ph.pFilesz < 2 ^ 63) :
    toReference (loadEntry mode data ph) = some (refEntry data ph) := by
  unfold loadEntry refEntry
  by_cases hoff : ph.pOffset > data.length
  · simp [hoff]
  have hsum := mode.add_of_lt (show ph.pOffset + ph.pFilesz < 2 ^ 64 by omega)
  have hmin : (if data.length < ph.pOffset + ph.pFilesz then data.length - ph.pOffset
      else ph.pFilesz) = min ph.pFilesz (data.length - ph.pOffset) := by
    split_ifs <;> omega
  simp only [hoff, hsum, hmin, gt_iff_lt, if_false, pure_except, ok_bind]
  split_ifs with hr
  · rw [mode.add_of_lt (by omega), ok_bind, sliceRange_clamped data (by omega)]
    rfl
  · simp [show min ph.pFilesz (data.length - ph.pOffset) = 0 by omega]

/-- In a debug build a `PT_LOAD` entry is the reference's, or it panics. -/
theorem loadEntry_debug (ph : Phdr) :
    toReference (loadEntry .panics data ph) = some (refEntry data ph) ∨
      loadEntry .panics data ph = .error .panic := by
  unfold loadEntry refEntry
  by_cases hoff : ph.pOffset > data.length
  · simp [hoff]
  have hmin : (if data.length < ph.pOffset + ph.pFilesz then data.length - ph.pOffset
      else ph.pFilesz) = min ph.pFilesz (data.length - ph.pOffset) := by
    split_ifs <;> omega
  rcases Overflow.add_panics ph.pOffset ph.pFilesz with hsum | hsum
  · simp only [hoff, hsum, hmin, gt_iff_lt, if_false, pure_except, ok_bind]
    split_ifs with hr
    · rcases Overflow.add_panics ph.pOffset (min ph.pFilesz (data.length - ph.pOffset)) with h | h
      · exact .inl (by rw [h, ok_bind, sliceRange_clamped data (by omega)]; rfl)
      · simp [h]
    · simp [show min ph.pFilesz (data.length - ph.pOffset) = 0 by omega]
  · simp [hoff, hsum]

/-- Without an overflow, header `i` of a table that fits is the reference's,
when a debug build finds the header aligned. -/
theorem phdrStep_of_lt (mode : Overflow) (ePhoff ePhentsize i : Nat)
    (hT : ePhoff + i * ePhentsize + ePhentsize ≤ data.length) (hlen : data.length < 2 ^ 63)
    (hf : (phdrAt data (ePhoff + i * ePhentsize)).pFilesz < 2 ^ 63)
    (halign : mode = .panics → (ePhoff + i * ePhentsize) % 8 = 0) :
    toReference (phdrStep mode data ePhoff ePhentsize i) =
      some (refStep data (ePhoff + i * ePhentsize)) := by
  unfold phdrStep refStep
  rw [mode.add_of_lt (show ePhoff + i * ePhentsize < 2 ^ 64 by omega), ok_bind]
  generalize ePhoff + i * ePhentsize = o at *
  simp only [phdrSize, mode.add_of_lt (show o + ePhentsize < 2 ^ 64 by omega), ok_bind,
    mode.add_of_lt (show o + 56 < 2 ^ 64 by omega), gt_iff_lt, mode.checkAlign_of_aligned halign,
    show ¬ data.length < o + ePhentsize by omega, if_false, PT_LOAD]
  by_cases h56 : data.length < o + 56
  · simp [h56]
  · simp only [h56, if_false, pure_except, ok_bind]
    split_ifs
    · simp [toReference_map, loadEntry_of_lt data mode _ hlen hf]
    · rfl

/-- In a debug build, header `i` of a table that fits is the reference's, or
it panics. -/
theorem phdrStep_debug (ePhoff ePhentsize i : Nat)
    (hT : ePhoff + i * ePhentsize + ePhentsize ≤ data.length) :
    toReference (phdrStep .panics data ePhoff ePhentsize i) =
        some (refStep data (ePhoff + i * ePhentsize)) ∨
      phdrStep .panics data ePhoff ePhentsize i = .error .panic := by
  unfold phdrStep refStep
  rcases Overflow.add_panics ePhoff (i * ePhentsize) with h1 | h1
  · rw [h1, ok_bind]
    generalize ePhoff + i * ePhentsize = o at *
    have hfit : ¬ data.length < o + ePhentsize := by omega
    rcases Overflow.add_panics o ePhentsize with h2 | h2
    · rcases Overflow.add_panics o 56 with h3 | h3
      · rcases Overflow.panics.checkAlign_cases o with ha | ha
        · simp only [phdrSize, h2, h3, ha, ok_bind, gt_iff_lt, hfit, if_false, PT_LOAD]
          by_cases h56 : data.length < o + 56
          · simp [h56]
          · simp only [h56, if_false, pure_except, ok_bind]
            split_ifs
            · rcases loadEntry_debug data (phdrAt data o) with h | h
              · simp [toReference_map, h]
              · simp [h]
            · exact .inl rfl
        · -- the header is not aligned
          by_cases h56 : data.length < o + 56
          · simp [phdrSize, h2, h3, h56, hfit]
          · exact .inr (by simp [phdrSize, h2, h3, ha, hfit, h56])
      · exact .inr (by simp only [phdrSize, h2, h3, ok_bind, error_bind, gt_iff_lt, hfit, if_false,
          pure_except])
    · exact .inr (by rw [h2, error_bind])
  · exact .inr (by rw [h1, error_bind])

end Step

/-! ## The whole walk -/

/-- Header `j < e_phnum` of a table that fits lies inside the slice. -/
private theorem header_fits {ePhoff ePhentsize ePhnum len j : Nat}
    (hT : ePhoff + ePhnum * ePhentsize ≤ len) (hj : j < ePhnum) :
    ePhoff + j * ePhentsize + ePhentsize ≤ len := by
  have := Nat.mul_le_mul_right ePhentsize (Nat.succ_le_of_lt hj)
  rw [Nat.succ_mul] at this
  omega

/-- **A debug build.** It agrees with the reference, or it panics after
making a prefix of the reference's calls. In particular it never reads
outside the slice. -/
theorem loadSegments_debug (p : ElfParser) :
    Agrees (p.loadSegments .panics) (referenceLoad p.data) ∨
      ((p.loadSegments .panics).2 = .error .panic ∧
        (p.loadSegments .panics).1 <+: (referenceLoad p.data).1) := by
  unfold ElfParser.loadSegments referenceLoad
  dsimp only
  rcases Overflow.add_panics (ehdrOf p.data).ePhoff
    ((ehdrOf p.data).ePhnum * (ehdrOf p.data).ePhentsize) with h | h
  · rw [h]
    dsimp only
    split_ifs with hT
    · exact .inl ⟨rfl, rfl⟩
    · exact walk_agrees_or_panic _ _ fun j _ hj =>
        phdrStep_debug _ _ _ _ (header_fits (Nat.le_of_not_lt hT) (by omega))
  · rw [h]
    exact .inr ⟨rfl, List.nil_prefix⟩

/-! ## What the callback receives -/

/-- A `usize` sum that does not panic is below `2 ^ 64`. -/
theorem Overflow.lt_of_add_eq {mode : Overflow} {a b c : Nat} (h : mode.add a b = .ok c) :
    c < 2 ^ 64 := by
  cases mode
  · simp only [Overflow.add] at h
    split_ifs at h with hlt
    cases h
    exact hlt
  · cases h
    exact Nat.mod_lt _ (by norm_num)

/-- An error the loop ends with is one its body returned. -/
theorem walk_error {ε : Type} {step : Nat → Except ε (Option Load)} {e : ε} :
    ∀ n i, (walk step n i).2 = .error e → ∃ j, step j = .error e
  | 0, _, h => by cases h
  | n + 1, i, h => by
    unfold walk at h
    split at h
    · rename_i he
      cases h
      exact ⟨i, he⟩
    · exact walk_error n (i + 1) h
    · exact walk_error n (i + 1) h

/-- A debug build never reads a header outside the slice: its sums are
exact, so the second range check rejects such a header first. -/
theorem phdrStep_debug_ne_outOfBounds (data : List UInt8) (ePhoff ePhentsize i : Nat) :
    phdrStep .panics data ePhoff ePhentsize i ≠ .error .outOfBounds := by
  intro h
  unfold phdrStep at h
  rcases Overflow.add_panics ePhoff (i * ePhentsize) with h1 | h1
  · rw [h1, ok_bind] at h
    generalize ePhoff + i * ePhentsize = o at h
    have hE : loadEntry .panics data (phdrAt data o) ≠ .error .outOfBounds := fun he => by
      rcases loadEntry_debug data (phdrAt data o) with h' | h' <;> rw [he] at h' <;> cases h'
    rcases Overflow.add_panics o ePhentsize with h2 | h2 <;>
      rcases Overflow.add_panics o phdrSize with h3 | h3 <;>
      rcases Overflow.panics.checkAlign_cases o with ha | ha <;>
      simp only [h2, h3, ha, ok_bind, error_bind, throw_except, gt_iff_lt] at h <;>
      (try split_ifs at h) <;> try cases h
    -- a `PT_LOAD` entry: `loadEntry` never reads a header
    rcases hx : loadEntry .panics data (phdrAt data o) with e | l <;> rw [hx] at h
    · exact hE (hx.trans (congrArg _ (Except.error.inj h)))
    · cases h
  · rw [h1, error_bind] at h
    cases h

/-- A debug build never ends in a read outside the slice. -/
theorem loadSegments_debug_ne_outOfBounds (p : ElfParser) :
    (p.loadSegments .panics).2 ≠ .error .outOfBounds := by
  unfold ElfParser.loadSegments
  dsimp only
  rcases Overflow.add_panics (ehdrOf p.data).ePhoff
    ((ehdrOf p.data).ePhnum * (ehdrOf p.data).ePhentsize) with h | h <;> rw [h]
  · dsimp only
    split_ifs
    · exact fun h => by cases h
    · intro hw
      obtain ⟨j, hj⟩ := walk_error _ _ hw
      exact phdrStep_debug_ne_outOfBounds _ _ _ _ hj
  · exact fun h => by cases h

/-- A call the loop makes is one its body made. -/
theorem walk_mem {ε : Type} {step : Nat → Except ε (Option Load)} {l : Load} :
    ∀ n i, l ∈ (walk step n i).1 → ∃ j, step j = .ok (some l)
  | 0, _, h => absurd h (List.not_mem_nil l)
  | n + 1, i, h => by
    unfold walk at h
    split at h
    · exact absurd h (List.not_mem_nil l)
    · exact walk_mem n (i + 1) h
    · rcases List.mem_cons.1 h with rfl | h
      · exact ⟨i, ‹_›⟩
      · exact walk_mem n (i + 1) h

/-- A call that a `PT_LOAD` entry makes passes the entry's address and
memory size, and a slice of fewer than `2 ^ 64` bytes that lies inside
`data`. -/
theorem loadEntry_ok {mode : Overflow} {data : List UInt8} {ph : Phdr} {l : Load}
    (h : loadEntry mode data ph = .ok l) :
    l.vaddr = ph.pVaddr ∧ l.memsz = ph.pMemsz ∧ l.src.length < 2 ^ 64 ∧
      l.srcOffset + l.src.length ≤ data.length ∧ l.src = (data.drop l.srcOffset).take l.src.length := by
  unfold loadEntry at h
  by_cases hoff : ph.pOffset > data.length
  · simp [hoff] at h
  rcases hsum : mode.add ph.pOffset ph.pFilesz with _ | e
  · simp [hoff, hsum] at h
  simp only [hoff, hsum, if_false, pure_except, ok_bind] at h
  generalize (if e > data.length then data.length - ph.pOffset else ph.pFilesz) = r at h
  by_cases hr : r > 0
  · rcases hend : mode.add ph.pOffset r with _ | b
    · simp [hr, hend] at h
    · have hb := Overflow.lt_of_add_eq hend
      simp only [hr, hend, if_true, ok_bind, sliceRange] at h
      split_ifs at h with hab
      · cases h
        simp only [List.length_take, List.length_drop, true_and]
        refine ⟨by omega, by omega, ?_⟩
        rw [Nat.min_eq_left (by omega)]
      · cases h
  · simp only [hr, if_false, ok_bind] at h
    cases h
    simp only [List.length_nil, Nat.add_zero, List.take_zero, and_true, true_and]
    omega

/-- A call made for header `i` is the call of a `PT_LOAD` entry. -/
theorem phdrStep_ok {mode : Overflow} {data : List UInt8} {ePhoff ePhentsize i : Nat} {l : Load}
    (h : phdrStep mode data ePhoff ePhentsize i = .ok (some l)) :
    ∃ o, loadEntry mode data (phdrAt data o) = .ok l := by
  unfold phdrStep at h
  rcases h1 : mode.add ePhoff (i * ePhentsize) with _ | o
  · rw [h1, error_bind] at h
    cases h
  rcases h2 : mode.add o ePhentsize with _ | e2
  · simp only [h1, h2, ok_bind, error_bind, reduceCtorEq] at h
  rcases h3 : mode.add o phdrSize with _ | e3
  · simp only [h1, h2, h3, ok_bind, error_bind, throw_except, gt_iff_lt] at h
    split_ifs at h
    cases h
  rcases mode.checkAlign_cases o with h4 | h4
  · refine ⟨o, ?_⟩
    simp only [h1, h2, h3, h4, ok_bind, error_bind, throw_except, pure_except, gt_iff_lt] at h
    split_ifs at h <;> try cases h
    rcases he : loadEntry mode data (phdrAt data o) with _ | l'
    · simp [he] at h
    · simp only [he, Except.map_ok, Except.ok.injEq, Option.some.injEq] at h
      rw [h]
  · -- a debug build panics on a header that is not aligned
    simp only [h1, h2, h3, h4, ok_bind, error_bind, throw_except, gt_iff_lt] at h
    split_ifs at h <;> cases h

/-- **What the callback receives.** In both builds every call passes an
address and a memory size below `2 ^ 64`, and a slice of fewer than
`2 ^ 64` bytes that lies inside `data` at `srcOffset`. A slice out of range
panics before the call. -/
theorem loadSegments_calls (mode : Overflow) (p : ElfParser) {l : Load}
    (hl : l ∈ (p.loadSegments mode).1) :
    l.vaddr < 2 ^ 64 ∧ l.memsz < 2 ^ 64 ∧ l.src.length < 2 ^ 64 ∧
      l.srcOffset + l.src.length ≤ p.data.length ∧
      l.src = (p.data.drop l.srcOffset).take l.src.length := by
  unfold ElfParser.loadSegments at hl
  dsimp only at hl
  split at hl
  · exact absurd hl (List.not_mem_nil l)
  split_ifs at hl
  · exact absurd hl (List.not_mem_nil l)
  obtain ⟨j, hj⟩ := walk_mem _ _ hl
  obtain ⟨o, ho⟩ := phdrStep_ok hj
  obtain ⟨hv, hm, hrest⟩ := loadEntry_ok ho
  exact ⟨hv ▸ readLE_lt _ _ 8, hm ▸ readLE_lt _ _ 8, hrest⟩

/-! ## Images -/

/-- A 64-byte ELF header with the given entry point and program-header table. -/
def ehdrBytes (eEntry ePhoff ePhentsize ePhnum : Nat) : List UInt8 :=
  ELF_MAGIC ++ List.replicate 20 0 ++ leBytes 8 eEntry ++ leBytes 8 ePhoff ++ List.replicate 14 0 ++
    leBytes 2 ePhentsize ++ leBytes 2 ePhnum ++ List.replicate 6 0

/-- A 56-byte program header. -/
def phdrBytes (pType pOffset pVaddr pFilesz pMemsz : Nat) : List UInt8 :=
  leBytes 4 pType ++ List.replicate 4 0 ++ leBytes 8 pOffset ++ leBytes 8 pVaddr ++
    List.replicate 8 0 ++ leBytes 8 pFilesz ++ leBytes 8 pMemsz ++ List.replicate 8 0

/-- One `PT_LOAD` header whose `p_offset + p_filesz` is `2 ^ 64`. -/
def offsetWrapImage : List UInt8 :=
  ehdrBytes 0x80200000 64 56 1 ++ phdrBytes 1 1 0x80200000 (2 ^ 64 - 1) 0x1000

/-- A header table at `e_phoff = 2 ^ 64 - 1`, one byte per header. -/
def tableWrapImage : List UInt8 := ehdrBytes 0x80200000 (2 ^ 64 - 1) 1 1

set_option maxRecDepth 10000 in
/-- Two images `new` accepts, on which neither build agrees with the
reference. On the first, `p_offset + p_filesz` overflows: a debug build
panics on the sum, and a release build panics on the slice `[1..0]`. The
reference clamps the entry to the slice and returns `Ok`. On the second,
`e_phoff + e_phnum * e_phentsize` overflows: a debug build panics, and a
release build passes every check and reads a header at `e_phoff`, outside
the slice. The reference rejects the table. -/
theorem loadSegments_wrap_diverges :
    (∃ p, ElfParser.new offsetWrapImage = .ok p ∧
      (p.loadSegments .panics).2 = .error .panic ∧ (p.loadSegments .wraps).2 = .error .panic ∧
      referenceLoad p.data = ([⟨0x80200000, 1, offsetWrapImage.drop 1, 0x1000⟩], .ok ())) ∧
    (∃ p, ElfParser.new tableWrapImage = .ok p ∧
      (p.loadSegments .panics).2 = .error .panic ∧
      (p.loadSegments .wraps).2 = .error .outOfBounds ∧ referenceLoad p.data = ([], .error ())) :=
  ⟨⟨_, rfl, rfl, rfl, rfl⟩, ⟨_, rfl, rfl, rfl, rfl⟩⟩

set_option maxRecDepth 10000 in
/-- A well-formed image: one `PT_LOAD` entry of four file bytes and eight
memory bytes, right after its header. -/
def sampleParser : ElfParser :=
  ⟨ehdrBytes 0x80200000 64 56 1 ++ phdrBytes 1 120 0x80200000 4 8 ++ [1, 2, 3, 4],
    by decide, by decide⟩

/-- `load_segments` over any slice that begins with `sampleParser`'s image
makes that image's one call, in either build. -/
theorem loadSegments_of_sample_prefix (mode : Overflow) (p : ElfParser)
    (hlen : p.data.length < 2 ^ 63) (htake : p.data.take 124 = sampleParser.data) :
    p.loadSegments mode = ([⟨0x80200000, 120, [1, 2, 3, 4], 8⟩], .ok ()) := by
  have h124 : 124 ≤ p.data.length := by
    have : min 124 p.data.length = 124 := by rw [← List.length_take, htake]; rfl
    omega
  have hE : ehdrOf p.data = ⟨0x80200000, 64, 56, 1⟩ := by
    rw [← ehdrOf_take p.data (show 64 ≤ 124 by norm_num), htake]
    rfl
  have hP : phdrAt p.data 64 = ⟨1, 120, 0x80200000, 4, 8⟩ := by
    rw [← phdrAt_take p.data (show 64 + 56 ≤ 124 by norm_num), htake]
    rfl
  have hsrc : (p.data.drop 120).take 4 = [1, 2, 3, 4] := by
    have : ((p.data.take 124).drop 120).take 4 = [1, 2, 3, 4] := by rw [htake]; rfl
    rwa [List.drop_take, List.take_take] at this
  have href : refStep p.data 64 = .ok (some ⟨0x80200000, 120, [1, 2, 3, 4], 8⟩) := by
    rw [refStep, if_neg (by omega), hP, if_pos rfl, refEntry, if_neg (by simp only; omega)]
    simp only [show min 4 (p.data.length - 120) = 4 by omega, hsrc]
    rfl
  have hstep : phdrStep mode p.data 64 56 0 = .ok (some ⟨0x80200000, 120, [1, 2, 3, 4], 8⟩) := by
    have := phdrStep_of_lt p.data mode 64 56 0 (by omega) hlen (by rw [hP]; decide) fun _ => rfl
    rcases toReference_eq_some (href ▸ this) with ⟨a, hs, ha⟩ | ⟨-, h⟩
    · rw [hs, Except.ok.inj ha]
    · cases h
  unfold ElfParser.loadSegments
  dsimp only
  rw [hE]
  dsimp only
  rw [mode.add_of_lt (by norm_num)]
  dsimp only
  rw [if_neg (by omega)]
  simp [walk, hstep]

end VirtioBoot.Kernel.Elf
