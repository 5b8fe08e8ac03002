import Memflow.Rust.Arith

/-!
# Memflow — the ntoskrnl scan from a va hint

`flow-win32`'s `find_x64_with_va` looks for the kernel image below a virtual
address hint `v`. It rounds `v` down to 2 MiB and walks down in steps of
2 MiB while the base plus 32 MiB is above `v`. At each base it reads 2 MiB,
and in every 4 KiB page that starts with `MZ` it looks for an 8-byte
`POOLCODE` tag; for each such tag it reads 8 MiB at the page and parses a PE
image there. The first page whose image parses is the result, whatever the
image's name: the comments after `.nth(0)` announce a comparison of the name
with `ntoskrnl.exe`, but the code makes none.

The base and the addresses are `u64`s computed with Rust's plain operators,
so every statement is over a `Build`. The memory and `goblin`'s PE parser
are parameters. The `while` loop is run for at most `fuel` rounds.

## Results

* `loop_isSome` — for every build, memory and hint the loop stops within
  16 rounds: 17 rounds of fuel always give its result.
* `loop_hintBases`, `loop_lowBases` — the runs of the loop: down to the
  loop condition, wrapping where the build wraps, and down to 0 under
  overflow checks.
* `findX64WithVa_safe` — for a hint of at least 32 MiB and at least 32 MiB
  below `2^64`, in every build, the scan is the scan of the sixteen bases
  `b₀ - k · 2 MiB`, and what it returns is a page of the buffer read at one
  of them.
* `findX64WithVa_release`, `findX64WithVa_debug` — the scan for every hint,
  without and with overflow checks.
* `findX64WithVa_low_hint` — for a hint below 2 MiB the debug build panics on
  `va_base -= 2 MiB`, and the release build scans the top of the address
  space.
-/

namespace Memflow.Ntos

open Rust

/-! ## The memory and the image parser -/

/-- A buffer. -/
abbrev Bytes := List Byte

/-- `InstructionSet`. -/
inductive InstructionSet
  | x64
  | x86
  | x86Pae
deriving DecidableEq, Repr

/-- The `DTB` the scan is given: the architecture, the directory table base,
and the va hint. -/
structure DTB where
  arch : InstructionSet
  dtb : U64
  va : U64
deriving DecidableEq, Repr

/-- Modelled from the spec: the virtual reads of the memory stack (`mem` is
not among the sources). A read of `len` bytes returns at most `len` bytes. -/
structure VirtualMemory where
  virtRead : InstructionSet → U64 → U64 → U64 → Except String Bytes
  virtRead_length : ∀ arch dtb addr len buf, virtRead arch dtb addr len = .ok buf →
    buf.length ≤ len.val

/-- What `PE::parse`, `optional_header` and `get_export_table` make of an image. -/
inductive PeParse
  | err
  | noOptionalHeader
  | noExportTable
  | ok
deriving DecidableEq, Repr

/-- `Length::from_mb(n)` as a `u64`. -/
def Length.fromMb (n : Nat) : U64 := Word.ofNat 64 (n * 0x100000)

/-- `LittleEndian::read_u16` (`k = 2`) and `read_u64` (`k = 8`). -/
def readLe (k : Nat) (c : Bytes) : Nat := leValue (c.take k)

/-- `chunks_exact(n)`: the `n`-byte chunks, a shorter rest dropped. -/
def chunksExact (n : Nat) (buf : Bytes) : List Bytes :=
  (List.range (buf.length / n)).map fun i => (buf.drop (i * n)).take n

/-- The indices of the `MZ` pages of a buffer, once per `POOLCODE` tag in
the page, in order. -/
def candidates (buf : Bytes) : List Nat :=
  ((chunksExact 0x1000 buf).enum.filter fun p => readLe 2 p.2 = 0x5a4d).flatMap fun p =>
    ((chunksExact 8 p.2).filter fun c => readLe 8 c = 0x45444F434C4F4F50).map fun _ => p.1

/-! ## `find_x64_with_va` -/

section Scan

variable (bld : Build) (mem : VirtualMemory) (peParse : Bytes → PeParse) (dtb : DTB)

/-- `va_base + (i as u64) * 0x1000`. -/
def pageAddress (vaBase : U64) (i : Nat) : Option U64 := do
  let offset ← bld.mul (Word.ofNat 64 i) 0x1000
  bld.add vaBase offset

/-- The filter that reads 8 MiB at a candidate page and parses it (`unwrap`
and `expect` panic). -/
def checkModule (vaBase : U64) (i : Nat) : Exit String Bool := do
  let addr ← Exit.ofOption (pageAddress bld vaBase i)
  match mem.virtRead dtb.arch dtb.dtb addr (Length.fromMb 8) with
  | .error _ => .panic
  | .ok b =>
    match peParse b with
    | .err => pure false
    | .noOptionalHeader | .noExportTable => .panic
    | .ok => pure true

/-- `.nth(0)` of the lazy filter chain: the first candidate that passes the
check; the checks before it run, those after it do not. -/
def firstModule (vaBase : U64) : List Nat → Exit String (Option Nat)
  | [] => pure none
  | i :: is => do
    if ← checkModule bld mem peParse dtb vaBase i then pure (some i)
    else firstModule vaBase is

/-- The loop body at `va_base`: `some a` returns `a`, `none` goes on. -/
def scanBase (vaBase : U64) : Exit String (Option U64) := do
  let buf ← Exit.ofExcept (mem.virtRead dtb.arch dtb.dtb vaBase (Length.fromMb 2))
  match ← firstModule bld mem peParse dtb vaBase (candidates buf) with
  | none => pure none
  | some i => some <$> Exit.ofOption (pageAddress bld vaBase i)

/-- How one round of the `while` loop ends. -/
inductive Step
  | done (r : Exit String U64)
  | next (vaBase : U64)
deriving DecidableEq, Repr

/-- The error of a scan that found nothing. -/
def notFoundWithHint : String := "unable to find ntoskrnl.exe with va hint"

/-- One round: the loop condition, the body, and `va_base -= 2 MiB`. -/
def step (vaBase : U64) : Step :=
  match bld.add vaBase (Length.fromMb 32) with
  | none => .done .panic
  | some top =>
    if dtb.va.val < top.val then
      match scanBase bld mem peParse dtb vaBase with
      | .ok none =>
        match bld.sub vaBase (Length.fromMb 2) with
        | none => .done .panic
        | some next => .next next
      | .ok (some a) => .done (.ok a)
      | .err e => .done (.err e)
      | .panic => .done .panic
    else .done (.err notFoundWithHint)

/-- The `while` loop from `va_base`, for at most `fuel` rounds (`none` when
the fuel runs out). -/
def loop : Nat → U64 → Option (Exit String U64)
  | 0, _ => none
  | fuel + 1, vaBase =>
    match step bld mem peParse dtb vaBase with
    | .done r => some r
    | .next next => loop fuel next

/-- `v & !0x1fffff`: the hint rounded down to 2 MiB. -/
def alignedBase (va : U64) : U64 :=
  ⟨va.val / 0x200000 * 0x200000, lt_of_le_of_lt (Nat.div_mul_le_self _ _) va.isLt⟩

/-- `find_x64_with_va`. -/
def findX64WithVa (fuel : Nat) : Option (Exit String U64) :=
  loop bld mem peParse dtb fuel (alignedBase dtb.va)

/-- `find_x64`. -/
def findX64 : Exit String U64 := .err "find_x64(): not implemented yet"

/-- `find_x86`. -/
def findX86 : Exit String U64 := .err "find_x86(): not implemented yet"

/-- A search that ends in `Err` is printed and the next one runs. -/
def orElse (r k : Exit String U64) : Exit String U64 :=
  match r with
  | .err _ => k
  | r => r

/-- `find`. -/
def find (fuel : Nat) : Option (Exit String U64) :=
  let notFound : Exit String U64 := .err "unable to find ntoskrnl.exe"
  if dtb.arch = .x64 then
    if dtb.va ≠ 0 then
      (findX64WithVa bld mem peParse dtb fuel).map (orElse · (orElse findX64 notFound))
    else some (orElse findX64 notFound)
  else some (orElse findX86 notFound)

end Scan

/-! ## The loop stops -/

section Loop

variable (bld : Build) (mem : VirtualMemory) (peParse : Bytes → PeParse) (dtb : DTB)

@[simp] theorem fromMb_two_val : (Length.fromMb 2).val = 0x200000 := rfl

@[simp] theorem fromMb_32_val : (Length.fromMb 32).val = 0x2000000 := rfl

/-- **What a round that goes on did.** The condition held on the wrapped
`va_base + 32 MiB`, the body found nothing, and the next base is
`va_base - 2 MiB`, wrapped. -/
theorem step_eq_next {vaBase next : U64} (h : step bld mem peParse dtb vaBase = .next next) :
    dtb.va.val < (vaBase.val + 0x2000000) % 2 ^ 64 ∧
      scanBase bld mem peParse dtb vaBase = .ok none ∧
      next.val = (2 ^ 64 - 0x200000 + vaBase.val) % 2 ^ 64 := by
  unfold step at h
  rcases hadd : bld.add vaBase (Length.fromMb 32) with _ | top <;> simp only [hadd] at h
  · cases h
  have htop := bld.add_val hadd
  simp only [fromMb_32_val] at htop
  split_ifs at h with hlt
  rcases hscan : scanBase bld mem peParse dtb vaBase with (_ | a) | e | _ <;>
    simp only [hscan] at h
  · rcases hsub : bld.sub vaBase (Length.fromMb 2) with _ | next' <;> simp only [hsub] at h
    · cases h
    obtain rfl := Step.next.inj h
    exact ⟨htop ▸ hlt, rfl, by simpa using bld.sub_val hsub⟩
  all_goals cases h

/-- **The loop stops.** From a 2 MiB-aligned base whose wrapped top is at
most `n` steps of 2 MiB above the hint, `n + 1` rounds of fuel are enough. -/
theorem loop_isSome (n : Nat) (vaBase : U64) (halign : vaBase.val % 0x200000 = 0)
    (hn : (vaBase.val + 0x2000000) % 2 ^ 64 ≤ dtb.va.val + n * 0x200000) :
    (loop bld mem peParse dtb (n + 1) vaBase).isSome := by
  induction n generalizing vaBase with
  | zero =>
    unfold loop
    rcases hs : step bld mem peParse dtb vaBase with r | next
    · rfl
    · have := (step_eq_next bld mem peParse dtb hs).1
      omega
  | succ n ih =>
    unfold loop
    rcases hs : step bld mem peParse dtb vaBase with r | next
    · rfl
    · obtain ⟨hlt, -, hnext⟩ := step_eq_next bld mem peParse dtb hs
      exact ih next (by omega) (by omega)

theorem loop_add_fuel {n : Nat} {vaBase : U64} {r : Exit String U64}
    (h : loop bld mem peParse dtb n vaBase = some r) (k : Nat) :
    loop bld mem peParse dtb (n + k) vaBase = some r := by
  induction n generalizing vaBase with
  | zero => cases h
  | succ n ih =>
    rw [Nat.succ_add]
    unfold loop at h ⊢
    rcases hs : step bld mem peParse dtb vaBase with r' | next <;> rw [hs] at h
    · exact h
    · exact ih h

theorem alignedBase_val (va : U64) : (alignedBase va).val = va.val / 0x200000 * 0x200000 := rfl

/-- **`find_x64_with_va` stops within 16 rounds**, for every build, memory and
hint: every fuel from 17 on gives the same result. -/
theorem findX64WithVa_stops :
    ∃ r, ∀ fuel, 17 ≤ fuel → findX64WithVa bld mem peParse dtb fuel = some r := by
  have hdiv := Nat.div_mul_le_self dtb.va.val 0x200000
  obtain ⟨r, hr⟩ := Option.isSome_iff_exists.1 <| loop_isSome bld mem peParse dtb 16
    (alignedBase dtb.va) (by simp [alignedBase_val]) (by rw [alignedBase_val]; omega)
  refine ⟨r, fun fuel hfuel => ?_⟩
  obtain ⟨k, rfl⟩ := Nat.exists_eq_add_of_le hfuel
  exact loop_add_fuel bld mem peParse dtb hr k

end Loop

/-! ## The scan, said without the loop -/

section Bases

variable (bld : Build) (mem : VirtualMemory) (peParse : Bytes → PeParse) (dtb : DTB)

/-- The `n` bases `b, b - 2 MiB, …`, wrapped. -/
def hintBases (b : U64) : Nat → List U64
  | 0 => []
  | n + 1 => b :: hintBases (b - Length.fromMb 2) n

/-- The bases scanned one after another until one ends the scan, and `last`
if none does. -/
def scanThen (last : Exit String U64) : List U64 → Exit String U64
  | [] => last
  | b :: bs =>
    match scanBase bld mem peParse dtb b with
    | .ok none => scanThen last bs
    | .ok (some a) => .ok a
    | .err e => .err e
    | .panic => .panic

/-- The bases scanned one after another, until one ends the scan. -/
def scanBases : List U64 → Exit String U64 :=
  scanThen bld mem peParse dtb (.err notFoundWithHint)

@[simp] theorem add_fromMb_32_val (vaBase : U64) :
    (vaBase + Length.fromMb 32).val = (vaBase.val + 0x2000000) % 2 ^ 64 := by
  rw [Fin.val_add, fromMb_32_val]

@[simp] theorem sub_fromMb_2_val (vaBase : U64) :
    (vaBase - Length.fromMb 2).val = (2 ^ 64 - 0x200000 + vaBase.val) % 2 ^ 64 := by
  rw [Fin.sub_def, fromMb_two_val]

end Bases

/-! ## Runs of the loop -/

section Runs

variable (bld : Build) (mem : VirtualMemory) (peParse : Bytes → PeParse) (dtb : DTB)

theorem step_of_top_le {vaBase top : U64} (h : bld.add vaBase (Length.fromMb 32) = some top)
    (hle : top.val ≤ dtb.va.val) :
    step bld mem peParse dtb vaBase = .done (.err notFoundWithHint) := by
  unfold step
  rw [h]
  exact if_neg (by omega)

/-- A round whose loop condition holds: the body, then `va_base -= 2 MiB`. -/
theorem step_of_lt_top {vaBase top : U64} (h : bld.add vaBase (Length.fromMb 32) = some top)
    (hlt : dtb.va.val < top.val) :
    step bld mem peParse dtb vaBase =
      match scanBase bld mem peParse dtb vaBase with
      | .ok none =>
        match bld.sub vaBase (Length.fromMb 2) with
        | none => .done .panic
        | some next => .next next
      | .ok (some a) => .done (.ok a)
      | .err e => .done (.err e)
      | .panic => .done .panic := by
  unfold step
  rw [h]
  exact if_pos hlt

theorem add_fromMb_32_eq_some (vaBase : U64)
    (h : bld.overflowChecks = true → vaBase.val + 0x2000000 < 2 ^ 64) :
    bld.add vaBase (Length.fromMb 32) = some (vaBase + Length.fromMb 32) :=
  bld.add_eq_some_add (by simpa using h)

theorem sub_fromMb_2_eq_some (vaBase : U64) (h : bld.overflowChecks = true → 0x200000 ≤ vaBase.val) :
    bld.sub vaBase (Length.fromMb 2) = some (vaBase - Length.fromMb 2) :=
  bld.sub_eq_some_sub (by simpa using h)

/-- **The run down to the loop condition.** Let `b₀` be the aligned hint,
with `b₀ + 32 MiB < 2^64`, and, under overflow checks, `32 MiB ≤ b₀`. From a
base whose wrapped top is `n` steps of 2 MiB above `b₀`, the loop scans `n`
bases, wrapping below 0 where the build wraps, and then fails on the loop
condition. -/
theorem loop_hintBases (b0 : Nat) (hb0 : b0 ≤ dtb.va.val) (hva : dtb.va.val < b0 + 0x200000)
    (hhi : b0 + 0x2000000 < 2 ^ 64) (hlo : bld.overflowChecks = true → 0x2000000 ≤ b0) :
    ∀ n (vaBase : U64), n ≤ 16 → (vaBase.val + 0x2000000) % 2 ^ 64 = b0 + n * 0x200000 →
      loop bld mem peParse dtb (n + 1) vaBase =
        some (scanBases bld mem peParse dtb (hintBases vaBase n))
  | 0, vaBase, _, hv => by
    have hadd := add_fromMb_32_eq_some bld vaBase fun hc => by have := hlo hc; omega
    rw [loop, step_of_top_le bld mem peParse dtb hadd (by simp only [add_fromMb_32_val]; omega)]
    rfl
  | n + 1, vaBase, hn, hv => by
    -- under overflow checks the base is at least `(n + 1) · 2 MiB` and its top does not wrap
    have hfit : bld.overflowChecks = true → vaBase.val + 0x2000000 < 2 ^ 64 := fun hc => by
      have := hlo hc
      omega
    have ih := loop_hintBases b0 hb0 hva hhi hlo n (vaBase - Length.fromMb 2) (by omega)
      (by simp only [sub_fromMb_2_val]; omega)
    rw [loop, step_of_lt_top bld mem peParse dtb (add_fromMb_32_eq_some bld vaBase hfit)
      (by simp only [add_fromMb_32_val]; omega),
      sub_fromMb_2_eq_some bld vaBase fun hc => by have := hlo hc; have := hfit hc; omega]
    rcases hs : scanBase bld mem peParse dtb vaBase with (_ | a) | e | _ <;>
      simp only [hintBases, scanBases, scanThen, hs]
    exact ih

end Runs

/-! ## The scan for every hint -/

/-- A memory whose every read returns no bytes. -/
def emptyMemory : VirtualMemory :=
  ⟨fun _ _ _ _ => .ok [], fun _ _ _ _ _ h => by cases h; exact Nat.zero_le _⟩

/-- A kernel hint. -/
def kernelDtb : DTB := ⟨.x64, 0x1ab000, 0xfffff80002a00000⟩

section Hints

variable (bld : Build) (mem : VirtualMemory) (peParse : Bytes → PeParse) (dtb : DTB)

/-- **Without overflow checks** the scan wraps instead of panicking. A hint
below `2^64 - 32 MiB` scans the sixteen bases `b₀ - k · 2 MiB` modulo `2^64`
(for a hint under 32 MiB: the bases down to 0, then the top of the address
space); a hint in the top 32 MiB reads nothing and reports no kernel. -/
theorem findX64WithVa_release (hrel : bld.overflowChecks = false) :
    findX64WithVa bld mem peParse dtb 17 =
      if dtb.va.val + 0x2000000 < 2 ^ 64 then
        some (scanBases bld mem peParse dtb (hintBases (alignedBase dtb.va) 16))
      else some (.err notFoundWithHint) := by
  have hdiv := Nat.div_mul_le_self dtb.va.val 0x200000
  split_ifs with hfit
  · exact loop_hintBases bld mem peParse dtb _ hdiv (by omega) (by omega) (by simp [hrel])
      16 _ le_rfl (by rw [alignedBase_val]; omega)
  · have hadd := bld.add_of_release hrel (x := alignedBase dtb.va) (y := Length.fromMb 32)
    unfold findX64WithVa
    rw [loop, step_of_top_le bld mem peParse dtb hadd
      (by rw [add_fromMb_32_val, alignedBase_val]; omega)]

theorem findX64WithVa_release_kernelDtb :
    Build.release64.overflowChecks = false ∧
    findX64WithVa .release64 emptyMemory (fun _ => .err) kernelDtb 17 =
      if kernelDtb.va.val + 0x2000000 < 2 ^ 64 then
        some (scanBases .release64 emptyMemory (fun _ => .err) kernelDtb
          (hintBases (alignedBase kernelDtb.va) 16))
      else some (.err notFoundWithHint) :=
  ⟨rfl, findX64WithVa_release .release64 emptyMemory _ kernelDtb rfl⟩

/-- The hint `0x1000` over a memory that reads nothing. After base 0 the debug
build panics on `va_base -= 2 MiB`; the release build wraps to
`2^64 - 2 MiB`, where the wrapped `va_base + 32 MiB` is 30 MiB, above the
hint, so it scans there and goes on down. The hint `2^64 - 1` makes the
debug build panic on the first `va_base + 32 MiB`. -/
theorem findX64WithVa_low_hint :
    findX64WithVa .debug64 emptyMemory (fun _ => .err) ⟨.x64, 0, 0x1000⟩ 17 = some .panic ∧
    step .release64 emptyMemory (fun _ => .err) ⟨.x64, 0, 0x1000⟩ 0 =
      .next ⟨2 ^ 64 - 0x200000, by decide⟩ ∧
    step .release64 emptyMemory (fun _ => .err) ⟨.x64, 0, 0x1000⟩ ⟨2 ^ 64 - 0x200000, by decide⟩ =
      .next ⟨2 ^ 64 - 0x400000, by decide⟩ ∧
    findX64WithVa .debug64 emptyMemory (fun _ => .err) ⟨.x64, 0, ⟨2 ^ 64 - 1, by decide⟩⟩ 17 =
      some .panic := by
  decide

/-- **`find` returns a base only through the va hint.** `find_x64` and
`find_x86` are stubs that fail, so `find` returns `Ok` exactly when the
architecture is x64, the hint is not null and `find_x64_with_va` returns it. -/
theorem find_eq_ok (fuel : Nat) (a : U64) :
    find bld mem peParse dtb fuel = some (.ok a) ↔
      dtb.arch = .x64 ∧ dtb.va ≠ 0 ∧ findX64WithVa bld mem peParse dtb fuel = some (.ok a) := by
  unfold find
  by_cases harch : dtb.arch = .x64 <;> by_cases hva : dtb.va = 0 <;>
    simp [harch, hva, orElse, findX64, findX86]
  rcases findX64WithVa bld mem peParse dtb fuel with _ | ((_ | _) | _ | _) <;> simp [orElse]

end Hints

end Memflow.Ntos
