import Memflow.Rust.Str

/-!
# Memflow — `Pointer64` and its arithmetic

`Pointer64<T>` (memflow `types/pointer64.rs`) is a `u64` address tagged with
the type it points to. The tag is a phantom: it carries no data, equality and
order read the address only, and the one thing it contributes is the element
size `size_of::<T>()` used by the arithmetic.

`at(i)`, `+ i` and `- i` all compute `self.address ± (i * size_of::<T>()) as u64`
with Rust's plain operators: the product in `usize`, the cast to `u64`, and the
sum or difference in `u64`. Which of these can overflow, and what happens then,
is what this module settles, for every host width and both build profiles:

* `pointer_arith_exact` — when the `usize` product fits and the `u64` result is
  in range, every operation gives the exact address;
* `pointer_arith_rule` — in general the operations follow Rust's rule: a
  `release` build wraps the product modulo `2^w` and the address modulo
  `2^64`, a `debug` build panics exactly when either overflows.

The product is taken in `usize` before the cast, so on a 32-bit host an index
can overflow even where the 64-bit address would not.

The four formatting impls print the address in hexadecimal with no `0x`;
`fromStrRadix_formatters` says that `u64::from_str_radix(_, 16)` reads any of
them back to the address.
-/

namespace Memflow.Types

open Rust

/-- `Pointer64<T>`: a `u64` address; `T` is a phantom tag. -/
structure Pointer64 (T : Type) where
  address : U64
deriving DecidableEq, Repr

namespace Pointer64

variable {T : Type}

/-- `Pointer64::NULL`. -/
def null : Pointer64 T := ⟨0⟩

/-- `is_null`. -/
def isNull (p : Pointer64 T) : Bool := p.address = 0

/-- `non_null`: `None` for the null pointer. -/
def nonNull (p : Pointer64 T) : Option (Pointer64 T) := if p.isNull then none else some p

/-- `as_u32`: the address `as u32`, which wraps. -/
def asU32 (p : Pointer64 T) : Word 32 := Word.ofNat 32 p.address.val

/-- `as_usize`: the address `as usize`, which wraps on a 32-bit host. -/
def asUsize (bld : Build) (p : Pointer64 T) : bld.Usize := Word.ofNat bld.usizeBits p.address.val

/-- `Pointer64::from(address: u32)`. -/
def fromU32 (address : Word 32) : Pointer64 T := ⟨Fin.castLE (by decide) address⟩

/-- `u32::try_from(ptr)`: `Error::Bounds` above `u32::max_value()`. -/
def tryIntoU32 (p : Pointer64 T) : Except Unit (Word 32) :=
  if p.address.val ≤ 2 ^ 32 - 1 then .ok (Word.ofNat 32 p.address.val) else .error ()

/-- `decay`: the first element of an array pointer. -/
def decay (p : Pointer64 (Array T)) : Pointer64 T := ⟨p.address⟩

/-- `Pointer64::<[T]>::at(i)`: `self.address + (i * size_of::<T>()) as u64`,
for an element size `size`. `none` is a panic. -/
def «at» (bld : Build) (size : bld.Usize) (p : Pointer64 (Array T)) (i : bld.Usize) :
    Option (Pointer64 T) := do
  let offset ← bld.mul i size
  let address ← bld.add p.address (bld.asU64 offset)
  pure ⟨address⟩

/-- `impl Add<usize>`: `self.address + (other * size_of::<T>()) as u64`. -/
def add (bld : Build) (size : bld.Usize) (p : Pointer64 T) (other : bld.Usize) :
    Option (Pointer64 T) := do
  let offset ← bld.mul other size
  let address ← bld.add p.address (bld.asU64 offset)
  pure ⟨address⟩

/-- `impl Sub<usize>`: `self.address - (other * size_of::<T>()) as u64`. -/
def sub (bld : Build) (size : bld.Usize) (p : Pointer64 T) (other : bld.Usize) :
    Option (Pointer64 T) := do
  let offset ← bld.mul other size
  let address ← bld.sub p.address (bld.asU64 offset)
  pure ⟨address⟩

theorem isNull_iff (p : Pointer64 T) : p.isNull ↔ p.address = 0 := by simp [isNull]

theorem tryIntoU32_ok (p : Pointer64 T) (v : Word 32) :
    p.tryIntoU32 = .ok v ↔ p.address.val < 2 ^ 32 ∧ p.asU32 = v := by
  unfold tryIntoU32 asU32
  split <;> simp_all <;> omega

/-- **The `u32` conversions round-trip.** `u32::try_from` succeeds exactly on
the pointers made from a `u32`, and gives that `u32` back. -/
theorem tryIntoU32_eq_ok_iff (p : Pointer64 T) (v : Word 32) :
    p.tryIntoU32 = .ok v ↔ p = fromU32 v := by
  rw [tryIntoU32_ok]
  obtain ⟨⟨a, ha⟩⟩ := p
  constructor
  · rintro ⟨hlt, rfl⟩
    simp only at hlt
    simp only [fromU32, asU32, Word.ofNat, Fin.castLE_mk, mk.injEq, Fin.mk.injEq]
    omega
  · intro h
    cases h
    exact ⟨v.isLt, Fin.ext (by simp [asU32, Word.ofNat])⟩

/-- `at` on an array pointer is `+` on the pointer it decays to. -/
theorem at_eq_add_decay (bld : Build) (size : bld.Usize) (p : Pointer64 (Array T))
    (i : bld.Usize) : p.at bld size i = p.decay.add bld size i := rfl

/-! ## Formatting -/

/-- The formatting impls all `write!(f, spec, self.address)` with a fixed
spec. `write!` formats with that spec alone, so the caller's flags (`{:#x}`,
a width) do not reach the output. -/
def fmtAddress (spec : Nat → Str) (p : Pointer64 T) : Str := spec p.address.val

/-- `impl fmt::Debug`: `"{:x}"`. -/
def fmtDebug : Pointer64 T → Str := fmtAddress Str.lowerHex

/-- `impl fmt::UpperHex`: `"{:X}"`. -/
def fmtUpperHex : Pointer64 T → Str := fmtAddress Str.upperHex

/-- `impl fmt::LowerHex`: `"{:x}"`. -/
def fmtLowerHex : Pointer64 T → Str := fmtAddress Str.lowerHex

/-- `impl fmt::Display`: `"{:x}"`. -/
def fmtDisplay : Pointer64 T → Str := fmtAddress Str.lowerHex

/-- The formatting impls, in the source's order. -/
def formatters : List (Pointer64 T → Str) := [fmtDebug, fmtUpperHex, fmtLowerHex, fmtDisplay]

/-- Whichever impl printed a pointer, `u64::from_str_radix(_, 16)` reads its
address back. -/
theorem fromStrRadix_formatters (p : Pointer64 T) :
    ∀ fmt ∈ (formatters : List (Pointer64 T → Str)), Str.fromStrRadix 16 64 (fmt p) = some p.address := by
  simp only [formatters, List.mem_cons, List.mem_singleton, List.not_mem_nil, or_false]
  rintro fmt (rfl | rfl | rfl | rfl)
  exacts [Str.fromStrRadix_lowerHex p.address, Str.fromStrRadix_upperHex p.address,
    Str.fromStrRadix_lowerHex p.address, Str.fromStrRadix_lowerHex p.address]

/-! ## The address the operations compute -/

section Arith

variable (bld : Build) (size i : bld.Usize) (p : Pointer64 T)

theorem add_of_fits (hmul : i.val * size.val < 2 ^ bld.usizeBits)
    (hadd : p.address.val + i.val * size.val < 2 ^ 64) :
    (p.add bld size i).map (·.address.val) = some (p.address.val + i.val * size.val) := by
  simp [add, bld.mul_of_lt hmul, bld.add_of_lt (x := p.address) (y := bld.asU64 ⟨_, hmul⟩) hadd]

theorem sub_of_fits (hmul : i.val * size.val < 2 ^ bld.usizeBits)
    (hle : i.val * size.val ≤ p.address.val) :
    (p.sub bld size i).map (·.address.val) = some (p.address.val - i.val * size.val) := by
  simp [sub, bld.mul_of_lt hmul, bld.sub_of_le (x := p.address) (y := bld.asU64 ⟨_, hmul⟩) hle]

theorem add_of_release (h : bld.overflowChecks = false) :
    (p.add bld size i).map (·.address.val) =
      some ((p.address.val + i.val * size.val % 2 ^ bld.usizeBits) % 2 ^ 64) := by
  simp [add, bld.mul_of_release h, bld.add_of_release h, Fin.val_add, Fin.val_mul]

theorem sub_of_release (h : bld.overflowChecks = false) :
    (p.sub bld size i).map (·.address.val) =
      some ((2 ^ 64 - i.val * size.val % 2 ^ bld.usizeBits + p.address.val) % 2 ^ 64) := by
  simp [sub, bld.mul_of_release h, bld.sub_of_release h, Fin.sub_def, Fin.val_mul]

theorem add_eq_none_iff :
    p.add bld size i = none ↔ bld.overflowChecks ∧
      (2 ^ bld.usizeBits ≤ i.val * size.val ∨ 2 ^ 64 ≤ p.address.val + i.val * size.val) := by
  cases hc : bld.overflowChecks
  · simp [add, bld.mul_of_release hc, bld.add_of_release hc]
  by_cases hmul : i.val * size.val < 2 ^ bld.usizeBits
  · by_cases hadd : p.address.val + i.val * size.val < 2 ^ 64
    · simp [add, bld.mul_of_lt hmul, bld.add_of_lt (x := p.address) (y := bld.asU64 ⟨_, hmul⟩) hadd]
      omega
    · simp [add, bld.mul_of_lt hmul, (bld.add_eq_none (x := p.address) (y := bld.asU64 ⟨_, hmul⟩)).2
        ⟨by simpa using Nat.not_lt.1 hadd, hc⟩]
      omega
  · simp [add, (bld.mul_eq_none).2 ⟨Nat.not_lt.1 hmul, hc⟩, Nat.not_lt.1 hmul]

theorem sub_eq_none_iff :
    p.sub bld size i = none ↔ bld.overflowChecks ∧
      (2 ^ bld.usizeBits ≤ i.val * size.val ∨ p.address.val < i.val * size.val) := by
  cases hc : bld.overflowChecks
  · simp [sub, bld.mul_of_release hc, bld.sub_of_release hc]
  by_cases hmul : i.val * size.val < 2 ^ bld.usizeBits
  · by_cases hle : i.val * size.val ≤ p.address.val
    · simp [sub, bld.mul_of_lt hmul, bld.sub_of_le (x := p.address) (y := bld.asU64 ⟨_, hmul⟩) hle]
      omega
    · simp [sub, bld.mul_of_lt hmul, (bld.sub_eq_none (x := p.address) (y := bld.asU64 ⟨_, hmul⟩)).2
        ⟨by simpa using Nat.not_le.1 hle, hc⟩]
      omega
  · simp [sub, (bld.mul_eq_none).2 ⟨Nat.not_lt.1 hmul, hc⟩, Nat.not_lt.1 hmul]

end Arith

/-- **Exact arithmetic where nothing overflows.** On every host and in both
profiles: when the `usize` product `i · size` fits, `at(i)` and `+ i` give the
address `a + i · size` whenever it is a `u64`, and `- i` gives `a - i · size`
whenever `i · size ≤ a`. -/
theorem pointer_arith_exact (bld : Build) (size i : bld.Usize) (a : U64)
    (hmul : i.val * size.val < 2 ^ bld.usizeBits) :
    (a.val + i.val * size.val < 2 ^ 64 →
      ((⟨a⟩ : Pointer64 (Array T)).at bld size i).map (·.address.val) =
        some (a.val + i.val * size.val) ∧
      ((⟨a⟩ : Pointer64 T).add bld size i).map (·.address.val) = some (a.val + i.val * size.val)) ∧
    (i.val * size.val ≤ a.val →
      ((⟨a⟩ : Pointer64 T).sub bld size i).map (·.address.val) = some (a.val - i.val * size.val)) :=
  ⟨fun h => ⟨add_of_fits bld size i _ hmul h, add_of_fits bld size i _ hmul h⟩,
    sub_of_fits bld size i _ hmul⟩

theorem pointer_arith_exact_small :
    ((⟨0x1000⟩ : Pointer64 (Array UInt64)).at .debug32 8 3).map (·.address.val) = some 0x1018 ∧
    ((⟨0x1000⟩ : Pointer64 UInt64).add .debug32 8 3).map (·.address.val) = some 0x1018 :=
  (pointer_arith_exact .debug32 8 3 0x1000 (by decide)).1 (by decide)

/-- On a 32-bit host, `at(0x20000000)` on an array of 8-byte elements at
address 0: the address `2^32` is a `u64`, but the `usize` product overflows.
The debug build panics and the release build returns address 0. -/
theorem at_usize_product_overflow :
    (⟨0⟩ : Pointer64 (Array UInt64)).at .debug32 8 0x20000000 = none ∧
    ((⟨0⟩ : Pointer64 (Array UInt64)).at .release32 8 0x20000000).map (·.address.val) = some 0 := by
  decide

/-- **The rule every build follows.** The three operations use Rust's plain
operators. Without overflow checks they never panic and wrap: the product
modulo `2^w`, the address modulo `2^64`. With overflow checks, `at` and `+`
panic exactly when the product is no `usize` or the sum no `u64`, and `-`
exactly when the product is no `usize` or exceeds the address. -/
theorem pointer_arith_rule (bld : Build) (size i : bld.Usize) (a : U64) :
    ((⟨a⟩ : Pointer64 (Array T)).at bld size i = none ↔ bld.overflowChecks ∧
        (2 ^ bld.usizeBits ≤ i.val * size.val ∨ 2 ^ 64 ≤ a.val + i.val * size.val)) ∧
    ((⟨a⟩ : Pointer64 T).add bld size i = none ↔ bld.overflowChecks ∧
        (2 ^ bld.usizeBits ≤ i.val * size.val ∨ 2 ^ 64 ≤ a.val + i.val * size.val)) ∧
    ((⟨a⟩ : Pointer64 T).sub bld size i = none ↔ bld.overflowChecks ∧
        (2 ^ bld.usizeBits ≤ i.val * size.val ∨ a.val < i.val * size.val)) ∧
    (bld.overflowChecks = false →
      ((⟨a⟩ : Pointer64 (Array T)).at bld size i).map (·.address.val) =
        some ((a.val + i.val * size.val % 2 ^ bld.usizeBits) % 2 ^ 64) ∧
      ((⟨a⟩ : Pointer64 T).add bld size i).map (·.address.val) =
        some ((a.val + i.val * size.val % 2 ^ bld.usizeBits) % 2 ^ 64) ∧
      ((⟨a⟩ : Pointer64 T).sub bld size i).map (·.address.val) =
        some ((2 ^ 64 - i.val * size.val % 2 ^ bld.usizeBits + a.val) % 2 ^ 64)) :=
  ⟨add_eq_none_iff bld size i _, add_eq_none_iff bld size i _, sub_eq_none_iff bld size i _,
    fun h => ⟨add_of_release bld size i _ h, add_of_release bld size i _ h,
      sub_of_release bld size i _ h⟩⟩

/-- Pointers read from target memory may hold any `u64`: at the top of the
address space `+ 1` panics in a debug build, and so does `- 1` at address 0. -/
theorem pointer_arith_panics :
    (⟨⟨2 ^ 64 - 1, by decide⟩⟩ : Pointer64 UInt8).add .debug64 1 1 = none ∧
    (⟨⟨2 ^ 64 - 1, by decide⟩⟩ : Pointer64 (Array UInt8)).at .debug64 1 1 = none ∧
    (⟨0⟩ : Pointer64 UInt8).sub .debug64 1 1 = none := by
  decide

end Pointer64

end Memflow.Types
