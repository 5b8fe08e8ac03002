import Mathlib

/-!
# Memflow — Rust machine integers and how a call ends

The sources compute with `u64` and `usize` through Rust's plain operators
`+`, `-` and `*`. What such an operator does on overflow is decided by the
build, not by the code: with overflow checks on (the `debug` profile) it
panics, with them off (`release`) it wraps. `usize` is as wide as the host's
pointers. `Build` fixes both choices, so that every statement about the
arithmetic quantifies over them.

A machine integer of `bits` bits is a `Fin (2 ^ bits)`, whose own `+`, `-`
and `*` are the wrapping ones; `Build.add`, `Build.sub` and `Build.mul` return
that wrapped value unless the exact result left the range under overflow
checks, where they return `none` (the panic).

`Exit` is how a call ends: `Ok`, `Err`, or a panic. It is the result type of
every fallible function of the model.
-/

namespace Memflow.Rust

/-- An unsigned machine integer of `bits` bits. -/
abbrev Word (bits : Nat) := Fin (2 ^ bits)

/-- `u64`. -/
abbrev U64 := Word 64

/-- Rust's `v as uN`: the value modulo `2 ^ bits`. -/
def Word.ofNat (bits v : Nat) : Word bits :=
  ⟨v % 2 ^ bits, Nat.mod_lt _ (Nat.two_pow_pos bits)⟩

@[simp] theorem Word.ofNat_val_of_lt {bits v : Nat} (h : v < 2 ^ bits) :
    (Word.ofNat bits v).val = v :=
  Nat.mod_eq_of_lt h

/-- A byte. -/
abbrev Byte := Word 8

/-- The value of little-endian bytes (`from_le_bytes`). -/
def leValue (bs : List Byte) : Nat := bs.foldr (fun b acc => b.val + 0x100 * acc) 0

/-- The `n` little-endian bytes of `v` (`to_le_bytes`). -/
def leBytes : Nat → Nat → List Byte
  | 0, _ => []
  | n + 1, v => Word.ofNat 8 v :: leBytes n (v / 0x100)

theorem length_leBytes : ∀ n v, (leBytes n v).length = n
  | 0, _ => rfl
  | n + 1, v => by rw [leBytes, List.length_cons, length_leBytes n]

theorem leValue_leBytes : ∀ n v, leValue (leBytes n v) = v % 0x100 ^ n
  | 0, v => by simp [leValue, leBytes, Nat.mod_one]
  | n + 1, v => by
    show (Word.ofNat 8 v).val + 0x100 * leValue (leBytes n (v / 0x100)) = v % 0x100 ^ (n + 1)
    rw [leValue_leBytes n, pow_succ' (0x100 : Nat) n, Nat.mod_mul]
    rfl

/-- The compilation the code runs under: the width of the host's `usize`, and
whether arithmetic overflow is checked (`debug`) or wraps (`release`). -/
structure Build where
  usizeBits : Nat
  usizeBits_cases : usizeBits = 32 ∨ usizeBits = 64
  overflowChecks : Bool

namespace Build

/-- A 64-bit host, `debug` profile. -/
def debug64 : Build := ⟨64, .inr rfl, true⟩

/-- A 64-bit host, `release` profile. -/
def release64 : Build := ⟨64, .inr rfl, false⟩

/-- A 32-bit host, `debug` profile. -/
def debug32 : Build := ⟨32, .inl rfl, true⟩

/-- A 32-bit host, `release` profile. -/
def release32 : Build := ⟨32, .inl rfl, false⟩

/-- The host's `usize`. -/
abbrev Usize (bld : Build) := Word bld.usizeBits

theorem usizeBits_le (bld : Build) : bld.usizeBits ≤ 64 := by
  rcases bld.usizeBits_cases with h | h <;> omega

theorem usize_size_le (bld : Build) : 2 ^ bld.usizeBits ≤ 2 ^ 64 :=
  Nat.pow_le_pow_of_le_right (by decide) bld.usizeBits_le

theorem usize_size_ge (bld : Build) : 2 ^ 32 ≤ 2 ^ bld.usizeBits :=
  Nat.pow_le_pow_of_le_right (by decide) (by rcases bld.usizeBits_cases with h | h <;> omega)

/-- `x as u64` for a `usize` `x`: zero extension. -/
def asU64 (bld : Build) (x : bld.Usize) : U64 :=
  Fin.castLE bld.usize_size_le x

@[simp] theorem asU64_val (bld : Build) (x : bld.Usize) : (bld.asU64 x).val = x.val := rfl

/-- An operator whose wrapped result is `wrapped`: it panics (`none`) exactly
when the exact result overflowed and overflow checks are on. -/
def checked (bld : Build) (overflow : Bool) (wrapped : α) : Option α :=
  if bld.overflowChecks && overflow then none else some wrapped

/-- Rust's `x + y`. -/
def add (bld : Build) (x y : Word n) : Option (Word n) :=
  bld.checked (decide (2 ^ n ≤ x.val + y.val)) (x + y)

/-- Rust's `x - y`. -/
def sub (bld : Build) (x y : Word n) : Option (Word n) :=
  bld.checked (decide (x.val < y.val)) (x - y)

/-- Rust's `x * y`. -/
def mul (bld : Build) (x y : Word n) : Option (Word n) :=
  bld.checked (decide (2 ^ n ≤ x.val * y.val)) (x * y)

variable (bld : Build) {n : Nat} {x y : Word n}

theorem checked_eq_none {o : Bool} {r : α} :
    bld.checked o r = none ↔ o = true ∧ bld.overflowChecks = true := by
  unfold checked; cases o <;> cases bld.overflowChecks <;> simp

theorem checked_eq_some {o : Bool} {r r' : α} :
    bld.checked o r = some r' ↔ r = r' ∧ (o = false ∨ bld.overflowChecks = false) := by
  unfold checked; cases o <;> cases bld.overflowChecks <;> simp

theorem add_of_lt (h : x.val + y.val < 2 ^ n) : bld.add x y = some ⟨x.val + y.val, h⟩ := by
  simp only [add, checked_eq_some, Fin.ext_iff, Fin.val_add]
  exact ⟨Nat.mod_eq_of_lt h, .inl (by simpa using h)⟩

theorem sub_of_le (h : y.val ≤ x.val) :
    bld.sub x y = some ⟨x.val - y.val, by omega⟩ := by
  simp [sub, checked_eq_some, Fin.ext_iff, Fin.sub_val_of_le (Fin.le_def.2 h), Nat.not_lt.2 h]

theorem mul_of_lt (h : x.val * y.val < 2 ^ n) : bld.mul x y = some ⟨x.val * y.val, h⟩ := by
  simp only [mul, checked_eq_some, Fin.ext_iff, Fin.val_mul]
  exact ⟨Nat.mod_eq_of_lt h, .inl (by simpa using h)⟩

theorem add_eq_none : bld.add x y = none ↔ 2 ^ n ≤ x.val + y.val ∧ bld.overflowChecks = true := by
  simp [add, checked_eq_none]

theorem sub_eq_none : bld.sub x y = none ↔ x.val < y.val ∧ bld.overflowChecks = true := by
  simp [sub, checked_eq_none]

theorem mul_eq_none : bld.mul x y = none ↔ 2 ^ n ≤ x.val * y.val ∧ bld.overflowChecks = true := by
  simp [mul, checked_eq_none]

/-- `x + y` returns its wrapped sum when it cannot overflow or is not checked. -/
theorem add_eq_some_add (h : bld.overflowChecks = true → x.val + y.val < 2 ^ n) :
    bld.add x y = some (x + y) :=
  bld.checked_eq_some.2 ⟨rfl, by cases hc : bld.overflowChecks <;> simp_all⟩

theorem sub_eq_some_sub (h : bld.overflowChecks = true → y.val ≤ x.val) :
    bld.sub x y = some (x - y) :=
  bld.checked_eq_some.2 ⟨rfl, by cases hc : bld.overflowChecks <;> simp_all⟩

theorem add_val {r : Word n} (h : bld.add x y = some r) : r.val = (x.val + y.val) % 2 ^ n := by
  rw [← ((bld.checked_eq_some).1 h).1, Fin.val_add]

theorem sub_val {r : Word n} (h : bld.sub x y = some r) :
    r.val = (2 ^ n - y.val + x.val) % 2 ^ n := by
  rw [← ((bld.checked_eq_some).1 h).1, Fin.sub_def]

/-- Without overflow checks every operator returns its wrapped result. -/
theorem checked_of_release (h : bld.overflowChecks = false) {o : Bool} {r : α} :
    bld.checked o r = some r := by
  simp [checked, h]

theorem add_of_release (h : bld.overflowChecks = false) : bld.add x y = some (x + y) :=
  bld.checked_of_release h

theorem sub_of_release (h : bld.overflowChecks = false) : bld.sub x y = some (x - y) :=
  bld.checked_of_release h

theorem mul_of_release (h : bld.overflowChecks = false) : bld.mul x y = some (x * y) :=
  bld.checked_of_release h

end Build

/-! ## How a call ends -/

/-- The end of a call: it returns `Ok a`, returns `Err e`, or panics. -/
inductive Exit (ε α : Type) where
  | ok (a : α)
  | err (e : ε)
  | panic
deriving DecidableEq, Repr

namespace Exit

variable {ε α β : Type}

/-- `?`: an `Err` or a panic ends the caller the same way. -/
def bind : Exit ε α → (α → Exit ε β) → Exit ε β
  | ok a, f => f a
  | err e, _ => err e
  | panic, _ => panic

instance : Monad (Exit ε) where
  pure := ok
  bind := bind

instance : LawfulMonad (Exit ε) :=
  LawfulMonad.mk' (Exit ε) (fun x => by cases x <;> rfl) (fun _ _ => rfl)
    (fun x _ _ => by cases x <;> rfl)

@[simp] theorem pure_eq (a : α) : (pure a : Exit ε α) = ok a := rfl
@[simp] theorem ok_bind (a : α) (f : α → Exit ε β) : (ok a >>= f) = f a := rfl
@[simp] theorem err_bind (e : ε) (f : α → Exit ε β) : (err e >>= f) = err e := rfl
@[simp] theorem panic_bind (f : α → Exit ε β) : ((panic : Exit ε α) >>= f) = panic := rfl
@[simp] theorem map_ok (f : α → β) (a : α) : (f <$> ok a : Exit ε β) = ok (f a) := rfl

/-- A computation that may only panic (`none`), as a call's end. -/
def ofOption : Option α → Exit ε α
  | some a => ok a
  | none => panic

/-- A `Result`, as a call's end. -/
def ofExcept : Except ε α → Exit ε α
  | .ok a => ok a
  | .error e => err e

/-- `o.ok_or_else(|| e)?`. -/
def okOrElse : Option α → ε → Exit ε α
  | some a, _ => ok a
  | none, e => err e

@[simp] theorem ofOption_some (a : α) : (ofOption (some a) : Exit ε α) = ok a := rfl
@[simp] theorem ofOption_none : (ofOption none : Exit ε α) = panic := rfl
@[simp] theorem ofExcept_error (e : ε) : (ofExcept (.error e) : Exit ε α) = err e := rfl
@[simp] theorem okOrElse_some (a : α) (e : ε) : okOrElse (some a) e = ok a := rfl
@[simp] theorem okOrElse_none (e : ε) : (okOrElse none e : Exit ε α) = err e := rfl

/-- The call ended by returning `Err`. -/
def isErr : Exit ε α → Bool
  | err _ => true
  | _ => false

/-- Every `Err` the call can return satisfies `P`. -/
def ErrorsSatisfy (P : ε → Prop) (x : Exit ε α) : Prop := ∀ e, x = err e → P e

namespace ErrorsSatisfy

variable {P : ε → Prop}

theorem ok (a : α) : (ok a : Exit ε α).ErrorsSatisfy P := by simp [ErrorsSatisfy]

theorem panic : (panic : Exit ε α).ErrorsSatisfy P := by simp [ErrorsSatisfy]

theorem okOrElse (o : Option α) {e : ε} (h : P e) : (Exit.okOrElse o e).ErrorsSatisfy P := by
  cases o <;> simp_all [ErrorsSatisfy]

theorem ofOption (o : Option α) : (Exit.ofOption o : Exit ε α).ErrorsSatisfy P := by
  cases o <;> simp [ErrorsSatisfy]

theorem bind {x : Exit ε α} {f : α → Exit ε β} (hx : x.ErrorsSatisfy P)
    (hf : ∀ a, (f a).ErrorsSatisfy P) : (x >>= f).ErrorsSatisfy P := by
  cases x <;> simp_all [ErrorsSatisfy]
  exact hf _

end ErrorsSatisfy

theorem bind_eq_ok {x : Exit ε α} {f : α → Exit ε β} {b : β} :
    (x >>= f) = ok b ↔ ∃ a, x = ok a ∧ f a = ok b := by
  cases x <;> simp

end Exit

end Memflow.Rust
