import Memflow.Rust.Arith

/-!
# Memflow — the memory map

A `MemoryMap` remaps the addresses a physical-memory provider is asked for
before they reach the device. Each of its mappings sends the range
`[base, base + size)` onto `[real_base, real_base + size)`, and the mappings
are kept ordered by base and pairwise disjoint. `push_remap` puts a mapping
in its place if it overlaps none of them and rejects it otherwise; `resolve`
splits a request at the mappings' boundaries into real ranges, and fails
with `OutOfBounds` if any byte of the request is unmapped.

`mem_map.rs` is not among the sources: the map is modelled from the spec.
The order is a field of `MemoryMap`, so that no map that breaks it can be
built.

## Results

* `insertMapping_ordered` — a mapping that overlaps none keeps the order.
* `mem_pushRemap` — `push_remap` adds the mapping exactly when it overlaps
  none of the map's, and otherwise leaves the map as it was.
* `translate_pushRemap` — an accepted mapping translates its own range, and
  every other address translates as before.
* `resolve_expand` — splitting a request at the mappings' boundaries gives
  the real addresses of translating it byte by byte, and fails exactly when
  one byte is unmapped.
-/

namespace Memflow.Mem

open Rust

/-- Modelled from the spec: a `MemoryMapping` (`PhysicalMemoryMapping` at the
C boundary): `[base, base + size)` is mapped onto `[realBase, realBase + size)`. -/
structure PhysicalMemoryMapping where
  base : U64
  size : Nat
  realBase : U64
deriving DecidableEq, Repr

namespace PhysicalMemoryMapping

/-- One past the last mapped address. -/
def limit (m : PhysicalMemoryMapping) : Nat := m.base.val + m.size

/-- `m` maps the address `a`. -/
def Contains (m : PhysicalMemoryMapping) (a : Nat) : Prop := m.base.val ≤ a ∧ a < m.limit

/-- The ranges of `m` and `m'` share an address. -/
def Overlaps (m m' : PhysicalMemoryMapping) : Prop :=
  m.base.val < m'.limit ∧ m'.base.val < m.limit

/-- `m` ends at or below the start of `m'`. -/
def Before (m m' : PhysicalMemoryMapping) : Prop := m.limit ≤ m'.base.val

instance (m : PhysicalMemoryMapping) (a : Nat) : Decidable (m.Contains a) :=
  inferInstanceAs (Decidable (_ ∧ _))

instance (m m' : PhysicalMemoryMapping) : Decidable (m.Overlaps m') :=
  inferInstanceAs (Decidable (_ ∧ _))

/-- Where `m` sends the address `a`. -/
def translate (m : PhysicalMemoryMapping) (a : Nat) : Nat := m.realBase.val + (a - m.base.val)

theorem overlaps_comm {m m' : PhysicalMemoryMapping} : m.Overlaps m' ↔ m'.Overlaps m :=
  And.comm

/-- Of two disjoint mappings, the one starting below the other's end lies
wholly below it. -/
theorem before_of_not_overlaps {m m' : PhysicalMemoryMapping} (h : ¬ m.Overlaps m')
    (hlt : m'.base.val < m.limit) : m'.Before m := by
  unfold Overlaps at h
  unfold Before
  omega

/-- Two mappings that map one address overlap. -/
theorem overlaps_of_contains {m m' : PhysicalMemoryMapping} {a : Nat} (h : m.Contains a)
    (h' : m'.Contains a) : m.Overlaps m' := by
  unfold Contains at h h'
  unfold Overlaps
  omega

end PhysicalMemoryMapping

open PhysicalMemoryMapping

/-! ## Inserting a mapping -/

/-- `m` put in its place among mappings ordered by base. -/
def insertMapping (m : PhysicalMemoryMapping) :
    List PhysicalMemoryMapping → List PhysicalMemoryMapping
  | [] => [m]
  | m' :: ms => if m.limit ≤ m'.base.val then m :: m' :: ms else m' :: insertMapping m ms

theorem mem_insertMapping {m x : PhysicalMemoryMapping} :
    ∀ {ms : List PhysicalMemoryMapping}, x ∈ insertMapping m ms ↔ x = m ∨ x ∈ ms
  | [] => by simp [insertMapping]
  | m' :: ms => by
    unfold insertMapping
    split_ifs <;> simp [mem_insertMapping, or_left_comm]

/-- **Inserting keeps the order.** A mapping that overlaps none of an ordered
list goes in without breaking the order. -/
theorem insertMapping_ordered {m : PhysicalMemoryMapping} : ∀ {ms : List PhysicalMemoryMapping},
    ms.Pairwise Before → (∀ m' ∈ ms, ¬ m.Overlaps m') → (insertMapping m ms).Pairwise Before
  | [], _, _ => List.pairwise_singleton _ _
  | m' :: ms, h, hno => by
    rw [List.pairwise_cons] at h
    unfold insertMapping
    split_ifs with hle
    · refine .cons (fun x hx => ?_) (.cons h.1 h.2)
      rcases List.mem_cons.1 hx with rfl | hx
      · exact hle
      · have := h.1 x hx
        unfold Before limit at *
        omega
    · refine .cons (fun x hx => ?_)
        (insertMapping_ordered h.2 fun x hx => hno x (List.mem_cons_of_mem m' hx))
      rcases mem_insertMapping.1 hx with rfl | hx
      · exact before_of_not_overlaps (hno m' (List.mem_cons_self m' ms)) (by omega)
      · exact h.1 x hx

/-! ## The map -/

/-- Modelled from the spec: a `MemoryMap`, its mappings ordered by base and
pairwise disjoint. -/
structure MemoryMap where
  mappings : List PhysicalMemoryMapping
  ordered : mappings.Pairwise Before

namespace MemoryMap

/-- `MemoryMap::new()`. -/
def new : MemoryMap := ⟨[], .nil⟩

/-- Modelled from the spec: `push_remap(base, size, real_base)` puts the
mapping in its place, unless it overlaps one the map holds, and then the map
is left as it was. -/
def pushRemap (map : MemoryMap) (base : U64) (size : Nat) (realBase : U64) : MemoryMap :=
  if h : ∃ m' ∈ map.mappings, Overlaps ⟨base, size, realBase⟩ m' then map
  else ⟨insertMapping ⟨base, size, realBase⟩ map.mappings,
    insertMapping_ordered map.ordered fun m' hm' ho => h ⟨m', hm', ho⟩⟩

/-- **What `push_remap` does.** It keeps every mapping, and adds the new one
exactly when it overlaps none of them. -/
theorem mem_pushRemap {map : MemoryMap} {base : U64} {size : Nat} {realBase : U64}
    {x : PhysicalMemoryMapping} :
    x ∈ (map.pushRemap base size realBase).mappings ↔
      x ∈ map.mappings ∨ (x = ⟨base, size, realBase⟩ ∧ ∀ m' ∈ map.mappings, ¬ x.Overlaps m') := by
  unfold pushRemap
  split_ifs with h
  · -- rejected: the new mapping overlaps one the map holds
    refine ⟨.inl, fun hx => hx.resolve_right ?_⟩
    rintro ⟨rfl, hno⟩
    obtain ⟨m', hm', ho⟩ := h
    exact hno m' hm' ho
  · have hno : ∀ m' ∈ map.mappings, ¬ Overlaps ⟨base, size, realBase⟩ m' :=
      fun m' hm' ho => h ⟨m', hm', ho⟩
    rw [mem_insertMapping, or_comm]
    exact or_congr_right ⟨fun hx => ⟨hx, hx ▸ hno⟩, And.left⟩

/-! ## Resolving a request -/

/-- The real address of the byte at `a`, through the first mapping that
holds it. -/
def translateIn (ms : List PhysicalMemoryMapping) (a : Nat) : Option Nat :=
  (ms.find? fun m => decide (m.Contains a)).map fun m => m.translate a

/-- Modelled from the spec: `resolve(addr, len)` over mappings ordered by
base: the real ranges `(address, length)` of the request, split at the
mappings' boundaries, or `none` (`OutOfBounds`) if a byte is unmapped. -/
def resolveIn : List PhysicalMemoryMapping → Nat → Nat → Option (List (Nat × Nat))
  | _, _, 0 => some []
  | [], _, _ + 1 => none
  | m :: ms, addr, len + 1 =>
    if m.limit ≤ addr then resolveIn ms addr (len + 1)
    else if addr < m.base.val then none
    else
      let n := min (len + 1) (m.limit - addr)
      ((m.translate addr, n) :: ·) <$> resolveIn ms (addr + n) (len + 1 - n)

/-- The real address of the byte at `a`. -/
def translate (map : MemoryMap) (a : Nat) : Option Nat := translateIn map.mappings a

/-- `resolve(addr, len)`. -/
def resolve (map : MemoryMap) (addr len : Nat) : Option (List (Nat × Nat)) :=
  resolveIn map.mappings addr len

/-- The addresses of the bytes of some ranges, in order. -/
def expand (ranges : List (Nat × Nat)) : List Nat :=
  ranges.flatMap fun r => (List.range r.2).map (r.1 + ·)

theorem translateIn_cons_of_not_contains {m : PhysicalMemoryMapping} {ms : List PhysicalMemoryMapping}
    {a : Nat} (h : ¬ m.Contains a) : translateIn (m :: ms) a = translateIn ms a := by
  simp [translateIn, List.find?_cons, h]

theorem translateIn_cons_of_contains {m : PhysicalMemoryMapping} {ms : List PhysicalMemoryMapping}
    {a : Nat} (h : m.Contains a) : translateIn (m :: ms) a = some (m.translate a) := by
  simp [translateIn, List.find?_cons, h]

theorem translateIn_cons {m : PhysicalMemoryMapping} {ms : List PhysicalMemoryMapping} {a : Nat} :
    translateIn (m :: ms) a = if m.Contains a then some (m.translate a) else translateIn ms a := by
  split_ifs with h
  · exact translateIn_cons_of_contains h
  · exact translateIn_cons_of_not_contains h

theorem translateIn_eq_none {ms : List PhysicalMemoryMapping} {a : Nat}
    (h : ∀ m ∈ ms, ¬ m.Contains a) : translateIn ms a = none := by
  simp only [translateIn, Option.map_eq_none', List.find?_eq_none, decide_eq_true_eq]
  exact h

/-- Inserting a mapping that overlaps none changes the translation on its
own range only. -/
theorem translateIn_insertMapping {m : PhysicalMemoryMapping} {a : Nat} :
    ∀ {ms : List PhysicalMemoryMapping}, (∀ m' ∈ ms, ¬ m.Overlaps m') →
      translateIn (insertMapping m ms) a =
        if m.Contains a then some (m.translate a) else translateIn ms a
  | [], _ => translateIn_cons
  | m' :: ms, hno => by
    unfold insertMapping
    by_cases hle : m.limit ≤ m'.base.val
    · rw [if_pos hle]
      exact translateIn_cons
    · rw [if_neg hle, translateIn_cons,
        translateIn_insertMapping fun x hx => hno x (List.mem_cons_of_mem m' hx), translateIn_cons]
      by_cases hm : m.Contains a
      · have hm' : ¬ m'.Contains a := fun hm' =>
          hno m' (List.mem_cons_self m' ms) (overlaps_of_contains hm hm')
        simp [hm, hm']
      · simp [hm]

/-- **What `push_remap` does to the translation.** An accepted mapping
translates its own range; every other address translates as before. -/
theorem translate_pushRemap (map : MemoryMap) (base : U64) (size : Nat) (realBase : U64) (a : Nat) :
    (map.pushRemap base size realBase).translate a =
      if (∀ m' ∈ map.mappings, ¬ Overlaps ⟨base, size, realBase⟩ m') ∧
          Contains ⟨base, size, realBase⟩ a
      then some (PhysicalMemoryMapping.translate ⟨base, size, realBase⟩ a) else map.translate a := by
  unfold pushRemap translate
  split_ifs with h hc hc
  · obtain ⟨m', hm', ho⟩ := h
    exact absurd ho (hc.1 m' hm')
  · rfl
  · exact translateIn_insertMapping hc.1 ▸ if_pos hc.2
  · rw [translateIn_insertMapping fun m' hm' ho => h ⟨m', hm', ho⟩]
    exact if_neg fun hc' => hc ⟨fun m' hm' ho => h ⟨m', hm', ho⟩, hc'⟩

/-- Below the first mapping of an ordered list nothing is mapped. -/
theorem translateIn_of_lt_base {m : PhysicalMemoryMapping} {ms : List PhysicalMemoryMapping}
    {a : Nat} (hord : (m :: ms).Pairwise Before) (ha : a < m.base.val) :
    translateIn (m :: ms) a = none := by
  simp only [translateIn, Option.map_eq_none', List.find?_eq_none, decide_eq_true_eq]
  intro x hx
  rcases List.mem_cons.1 hx with rfl | hx
  · unfold Contains
    omega
  · have := (List.pairwise_cons.1 hord).1 x hx
    unfold Before limit at this
    unfold Contains
    omega

theorem mapM_congr_option {α β : Type} {f g : α → Option β} :
    ∀ {l : List α}, (∀ x ∈ l, f x = g x) → l.mapM f = l.mapM g
  | [], _ => rfl
  | a :: l, h => by
    simp only [List.mapM_cons, h a (List.mem_cons_self a l),
      mapM_congr_option fun x hx => h x (List.mem_cons_of_mem a hx)]

theorem mapM_eq_some_map {α β : Type} {f : α → Option β} {g : α → β} :
    ∀ {l : List α}, (∀ x ∈ l, f x = some (g x)) → l.mapM f = some (l.map g)
  | [], _ => rfl
  | a :: l, h => by
    simp only [List.mapM_cons, h a (List.mem_cons_self a l), List.map_cons, Option.bind_eq_bind,
      Option.some_bind, mapM_eq_some_map fun x hx => h x (List.mem_cons_of_mem a hx)]
    rfl

theorem mapM_map_option {α β γ : Type} (f : β → Option γ) (g : α → β) :
    ∀ l : List α, (l.map g).mapM f = l.mapM (f ∘ g)
  | [] => rfl
  | a :: l => by simp only [List.map_cons, List.mapM_cons, Function.comp_apply, mapM_map_option f g l]

/-- **Resolving refines translating byte by byte.** Over mappings ordered by
base, the ranges `resolve` splits a request into hold, in order, the real
addresses of its bytes one by one, and it fails exactly when one of them is
unmapped. -/
theorem resolveIn_expand : ∀ (ms : List PhysicalMemoryMapping), ms.Pairwise Before →
    ∀ addr len, (resolveIn ms addr len).map expand =
      (List.range len).mapM fun i => translateIn ms (addr + i)
  | _, _, _, 0 => by
    simp only [resolveIn, List.range_zero, List.mapM_nil]
    rfl
  | [], _, addr, len + 1 => by
    simp only [resolveIn, List.range_succ_eq_map, List.mapM_cons, translateIn, List.find?_nil,
      Option.map_none', Option.bind_eq_bind, Option.none_bind]
  | m :: ms, hord, addr, len + 1 => by
    have hms := (List.pairwise_cons.1 hord).2
    unfold resolveIn
    split_ifs with hlim hlt
    · rw [resolveIn_expand ms hms addr (len + 1)]
      exact mapM_congr_option fun i _ =>
        (translateIn_cons_of_not_contains (by unfold Contains; omega)).symm
    · simp only [List.range_succ_eq_map, List.mapM_cons, Nat.add_zero, translateIn_of_lt_base hord hlt,
        Option.map_none', Option.bind_eq_bind, Option.none_bind]
    · -- the first `n` bytes lie in `m`, the rest from its end on
      dsimp only
      generalize hn : min (len + 1) (m.limit - addr) = n
      obtain ⟨k, hk⟩ : ∃ k, len + 1 = n + k := ⟨len + 1 - n, by omega⟩
      have hhead : (List.range n).mapM (fun i => translateIn (m :: ms) (addr + i)) =
          some ((List.range n).map (m.translate addr + ·)) :=
        mapM_eq_some_map fun i hi => by
          rw [List.mem_range] at hi
          rw [translateIn_cons_of_contains (by unfold Contains; omega)]
          unfold PhysicalMemoryMapping.translate
          congr 1
          omega
      have htail : ((List.range k).map (n + ·)).mapM (fun i => translateIn (m :: ms) (addr + i)) =
          (List.range k).mapM fun j => translateIn ms (addr + n + j) := by
        rw [mapM_map_option]
        exact mapM_congr_option fun j hj => by
          rw [List.mem_range] at hj
          simp only [Function.comp, ← Nat.add_assoc]
          exact translateIn_cons_of_not_contains (by unfold Contains; omega)
      rw [hk, List.range_add, List.mapM_append, hhead, htail, ← resolveIn_expand ms hms (addr + n) k,
        Nat.add_sub_cancel_left]
      cases resolveIn ms (addr + n) k <;> simp [expand]

/-- **Resolving refines translating byte by byte**, for every map. -/
theorem resolve_expand (map : MemoryMap) (addr len : Nat) :
    (map.resolve addr len).map expand =
      (List.range len).mapM fun i => map.translate (addr + i) :=
  resolveIn_expand map.mappings map.ordered addr len

/-- The map of the spec's example, `0..0x1000 → 0x10000`. -/
def exampleMap : MemoryMap := MemoryMap.new.pushRemap 0 0x1000 0x10000

example : exampleMap.resolve 0x800 0x400 = some [(0x10800, 0x400)] := by decide

example : exampleMap.resolve 0xF00 0x200 = none := by decide

end MemoryMap

end Memflow.Mem
