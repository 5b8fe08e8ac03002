import Memflow.Mem.MemoryMap

/-!
# Memflow — the physical-memory functions of the C interface

`memflow-ffi` exports a physical-memory provider to C. `phys_set_mem_map`
builds a `MemoryMap` from a C array of mappings, one `push_remap` per entry
in order, and installs it in the provider. The read and write functions
forward one request to the provider and return `0` or a negative code;
`phys_read_u32` and `phys_read_u64` return the value read, or 0 when the
read fails.

The provider is not among the sources: it is modelled from the spec, as the
bytes of a device that reads and writes go to through the installed map. A
request with a byte that is unmapped or past the device's end fails with
`OutOfBounds` and writes nothing; `none` stands for that error. A batch
(`phys_read_raw_list`, `phys_write_raw_list`) handles its entries one by one
in order and goes on past a failed one, failing as a whole when one did.

## Results

* `physSetMemMap_mappings` — the installed map holds only mappings of the
  array, and every mapping of the array it leaves out overlaps one it holds;
  for an array of disjoint mappings it holds exactly the array's.
* `physSetMemMap_translate` — for an array of disjoint mappings, the
  installed map translates every address as the array does.
* `physReadRawInto_setMemMap`, `physReadRawInto_physSetMemMap` — under a
  map, a read returns the device byte at the translation of each byte, and
  fails exactly when one byte is unmapped or off the device.
* `physReadRaw_code_iff` — `phys_read_raw` returns 0 exactly when every
  byte of the request is mapped onto the device, and a negative code
  otherwise; `physReadWord_of_unmapped` — `phys_read_u32` and
  `phys_read_u64` report a failed read as 0.
* `physReadWord_physWriteWord` — a `u32` or `u64` written through the map
  reads back.
* `physWriteRawList_perm` — `phys_write_raw_list` gives the same provider
  and code for every order of a batch whose entries reach pairwise disjoint
  device addresses.
* `physReadRawList_physWriteRawList` — such a batch, written, is read back
  by `phys_read_raw_list` entry by entry.
* `physWriteRawList_eq_filter` — a failed entry does not stop the batch: the
  provider ends as after the writable entries alone, and the code is 0
  exactly when every entry could be written.
-/

namespace Memflow.Ffi

open Rust Mem

/-- Modelled from the spec: `PhysicalMemoryMetadata`, the provider's static
properties. -/
structure PhysicalMemoryMetadata where
  size : Nat
  readonly : Bool
deriving DecidableEq, Repr

/-- Modelled from the spec: a physical-memory provider: the bytes of its
device, its metadata, and the map `set_mem_map` installed, if any. -/
structure PhysicalMemoryInstance where
  bytes : List Byte
  metadata : PhysicalMemoryMetadata
  memMap : Option MemoryMap

/-- Modelled from the spec: `PhysicalReadData`, an address and the buffer a
read fills. -/
structure PhysicalReadData where
  addr : U64
  buf : List Byte
deriving DecidableEq, Repr

/-- Modelled from the spec: `PhysicalWriteData`, an address and the bytes
written there. -/
structure PhysicalWriteData where
  addr : U64
  buf : List Byte
deriving DecidableEq, Repr

namespace PhysicalMemoryInstance

/-- The device addresses of `len` bytes from `addr`: through the map, or the
addresses themselves when no map is installed. -/
def realAddresses (mem : PhysicalMemoryInstance) (addr len : Nat) : Option (List Nat) :=
  match mem.memMap with
  | none => some ((List.range len).map (addr + ·))
  | some map => (map.resolve addr len).map MemoryMap.expand

/-- Modelled from the spec: `phys_read_raw_into`, the bytes read. -/
def physReadRawInto (mem : PhysicalMemoryInstance) (addr : U64) (len : Nat) :
    Option (List Byte) := do
  let as ← mem.realAddresses addr.val len
  as.mapM fun a => mem.bytes[a]?

/-- Modelled from the spec: `phys_write_raw`, the provider after the write. -/
def physWriteRaw (mem : PhysicalMemoryInstance) (addr : U64) (data : List Byte) :
    Option PhysicalMemoryInstance := do
  let as ← mem.realAddresses addr.val data.length
  if as.all (· < mem.bytes.length) then
    pure { mem with bytes := (as.zip data).foldl (fun bs p => bs.set p.1 p.2) mem.bytes }
  else none

/-- Modelled from the spec: `set_mem_map`, which replaces the installed map. -/
def setMemMap (mem : PhysicalMemoryInstance) (memMap : MemoryMap) : PhysicalMemoryInstance :=
  { mem with memMap := some memMap }

/-- Modelled from the spec: one entry of `phys_read_raw_list`, read on its
own; a failed read leaves the buffer as it was. -/
def readEntry (mem : PhysicalMemoryInstance) (d : PhysicalReadData) : PhysicalReadData :=
  ⟨d.addr, (mem.physReadRawInto d.addr d.buf.length).getD d.buf⟩

/-- Modelled from the spec: `phys_read_raw_list`. Every entry is read and its
result stays at its place; the call fails when an entry did. -/
def physReadRawList (mem : PhysicalMemoryInstance) (data : List PhysicalReadData) :
    List PhysicalReadData × Option Unit :=
  (data.map mem.readEntry,
    if data.all fun d => (mem.physReadRawInto d.addr d.buf.length).isSome then some () else none)

/-- Modelled from the spec: one entry of `phys_write_raw_list`, written on
its own; a failed write changes nothing and is recorded. -/
def writeEntry (s : PhysicalMemoryInstance × Option Unit) (d : PhysicalWriteData) :
    PhysicalMemoryInstance × Option Unit :=
  match s.1.physWriteRaw d.addr d.buf with
  | some mem => (mem, s.2)
  | none => (s.1, none)

/-- Modelled from the spec: `phys_write_raw_list`. The entries are written in
order and the batch goes on past a failed one; the call fails when an entry
did. -/
def physWriteRawList (mem : PhysicalMemoryInstance) (data : List PhysicalWriteData) :
    PhysicalMemoryInstance × Option Unit :=
  data.foldl writeEntry (mem, some ())

/-- The device addresses a write of `d` reaches; none when a byte of it is
unmapped. -/
def targets (mem : PhysicalMemoryInstance) (d : PhysicalWriteData) : List Nat :=
  (mem.realAddresses d.addr.val d.buf.length).getD []

/-- A write of `d` succeeds: each of its bytes is mapped to an address on
the device. -/
def Writable (mem : PhysicalMemoryInstance) (d : PhysicalWriteData) : Prop :=
  (mem.realAddresses d.addr.val d.buf.length).isSome ∧ ∀ a ∈ mem.targets d, a < mem.bytes.length

instance (mem : PhysicalMemoryInstance) (d : PhysicalWriteData) : Decidable (mem.Writable d) :=
  inferInstanceAs (Decidable (_ ∧ _))

/-- The device bytes after a successful write of `d`. -/
def written (mem : PhysicalMemoryInstance) (d : PhysicalWriteData) : List Byte :=
  ((mem.targets d).zip d.buf).foldl (fun bs p => bs.set p.1 p.2) mem.bytes

end PhysicalMemoryInstance

/-! ## The exported functions -/

/-- Modelled from the spec: `into_int_result`, `0` for `Ok` and a negative
code for an error (here always `OutOfBounds`). -/
def intoIntResult {α : Type} : Option α → Int
  | some _ => 0
  | none => -1

/-- `phys_read_raw_list`: the entries after the call, and what it returns. -/
def physReadRawList (mem : PhysicalMemoryInstance) (data : List PhysicalReadData) :
    List PhysicalReadData × Int :=
  let r := mem.physReadRawList data
  (r.1, intoIntResult r.2)

/-- `phys_write_raw_list`: the provider after the call, and what it returns. -/
def physWriteRawList (mem : PhysicalMemoryInstance) (data : List PhysicalWriteData) :
    PhysicalMemoryInstance × Int :=
  let r := mem.physWriteRawList data
  (r.1, intoIntResult r.2)

/-- `phys_set_mem_map`: one `push_remap` per entry of the array, in order,
into a new map, which is then installed. -/
def physSetMemMap (mem : PhysicalMemoryInstance) (maps : List PhysicalMemoryMapping) :
    PhysicalMemoryInstance :=
  let memMap := maps.foldl (fun memMap m => memMap.pushRemap m.base m.size m.realBase) MemoryMap.new
  mem.setMemMap memMap

/-- `phys_metadata`. -/
def physMetadata (mem : PhysicalMemoryInstance) : PhysicalMemoryMetadata := mem.metadata

/-- `phys_read_raw`: what it reads into `out`, and what it returns. -/
def physReadRaw (mem : PhysicalMemoryInstance) (addr : U64) (len : Nat) : Option (List Byte) × Int :=
  let r := mem.physReadRawInto addr len
  (r, intoIntResult r)

/-- `phys_read::<T>(addr).unwrap_or_default()` for an unsigned `T` of `n`
bytes (a `Pod` read on a little-endian host). -/
def physReadWord (n : Nat) (mem : PhysicalMemoryInstance) (addr : U64) : Word (8 * n) :=
  ((mem.physReadRawInto addr n).map fun bs => Word.ofNat (8 * n) (leValue bs)).getD 0

/-- `phys_read_u32`. -/
def physReadU32 (mem : PhysicalMemoryInstance) (addr : U64) : Word 32 := physReadWord 4 mem addr

/-- `phys_read_u64`. -/
def physReadU64 (mem : PhysicalMemoryInstance) (addr : U64) : U64 := physReadWord 8 mem addr

/-- `phys_write_raw`: the provider after the call, and what it returns. -/
def physWriteRaw (mem : PhysicalMemoryInstance) (addr : U64) (input : List Byte) :
    PhysicalMemoryInstance × Int :=
  let r := mem.physWriteRaw addr input
  (r.getD mem, intoIntResult r)

/-- `phys_write(addr, &val)` for an unsigned `val` of `n` bytes: its
little-endian bytes. -/
def physWriteWord (n : Nat) (mem : PhysicalMemoryInstance) (addr : U64) (val : Word (8 * n)) :
    PhysicalMemoryInstance × Int :=
  physWriteRaw mem addr (leBytes n val.val)

/-- `phys_write_u32`. -/
def physWriteU32 (mem : PhysicalMemoryInstance) (addr : U64) (val : Word 32) :
    PhysicalMemoryInstance × Int :=
  physWriteWord 4 mem addr val

/-- `phys_write_u64`. -/
def physWriteU64 (mem : PhysicalMemoryInstance) (addr : U64) (val : U64) :
    PhysicalMemoryInstance × Int :=
  physWriteWord 8 mem addr val

/-! ## Installing a map -/

/-- What a run of `push_remap`s from `map` holds: the mappings it held, and
mappings of the array, and every mapping of the array it leaves out
overlaps one it holds. -/
theorem foldl_pushRemap : ∀ (maps : List PhysicalMemoryMapping) (map : MemoryMap),
    let map' := maps.foldl (fun memMap m => memMap.pushRemap m.base m.size m.realBase) map
    (∀ x ∈ map.mappings, x ∈ map'.mappings) ∧
    (∀ x ∈ map'.mappings, x ∈ map.mappings ∨ x ∈ maps) ∧
    ∀ x ∈ maps, x ∈ map'.mappings ∨ ∃ y ∈ map'.mappings, x.Overlaps y
  | [], _ => ⟨fun _ hx => hx, fun _ hx => .inl hx, fun _ hx => by cases hx⟩
  | m :: ms, map => by
    obtain ⟨hkeep, hfrom, hcover⟩ := foldl_pushRemap ms (map.pushRemap m.base m.size m.realBase)
    refine ⟨fun x hx => hkeep x (MemoryMap.mem_pushRemap.2 (.inl hx)), fun x hx => ?_,
      fun x hx => ?_⟩
    · rcases hfrom x hx with hx | hx
      · rcases MemoryMap.mem_pushRemap.1 hx with hx | ⟨rfl, -⟩
        · exact .inl hx
        · exact .inr (List.mem_cons_self _ _)
      · exact .inr (List.mem_cons_of_mem m hx)
    · rcases List.mem_cons.1 hx with rfl | hx
      · by_cases hno : ∀ m' ∈ map.mappings, ¬ x.Overlaps m'
        · exact .inl (hkeep x (MemoryMap.mem_pushRemap.2 (.inr ⟨rfl, hno⟩)))
        · push_neg at hno
          obtain ⟨y, hy, ho⟩ := hno
          exact .inr ⟨y, hkeep y (MemoryMap.mem_pushRemap.2 (.inl hy)), ho⟩
      · exact hcover x hx

/-- **What `phys_set_mem_map` installs.** The new map holds only mappings of
the array, and every mapping of the array it leaves out overlaps one it
holds; when the array's mappings are pairwise disjoint, it holds exactly
them. -/
theorem physSetMemMap_mappings (mem : PhysicalMemoryInstance) (maps : List PhysicalMemoryMapping) :
    ∃ memMap : MemoryMap, physSetMemMap mem maps = mem.setMemMap memMap ∧
      (∀ x ∈ memMap.mappings, x ∈ maps) ∧
      (∀ x ∈ maps, x ∈ memMap.mappings ∨ ∃ y ∈ memMap.mappings, x.Overlaps y) ∧
      (maps.Pairwise (fun m m' => ¬ m.Overlaps m') → ∀ x, x ∈ memMap.mappings ↔ x ∈ maps) := by
  obtain ⟨-, hfrom, hcover⟩ := foldl_pushRemap maps MemoryMap.new
  have hfrom' : ∀ x ∈ _, x ∈ maps := fun x hx => (hfrom x hx).resolve_left (by simp [MemoryMap.new])
  refine ⟨_, rfl, hfrom', hcover, fun hdis x => ⟨hfrom' x, fun hx => ?_⟩⟩
  rcases hcover x hx with hin | ⟨y, hy, ho⟩
  · exact hin
  · by_cases hxy : x = y
    · exact hxy ▸ hy
    · have hsymm : Symmetric fun m m' : PhysicalMemoryMapping => ¬ m.Overlaps m' :=
        fun _ _ h h' => h (PhysicalMemoryMapping.overlaps_comm.1 h')
      exact absurd ho (hdis.forall hsymm hx (hfrom' y hy) hxy)

/-- **A run of `push_remap`s of disjoint mappings**, each disjoint from the
map's, translates an address as the mapping of the array that holds it, and
as the map did where none does. -/
theorem translate_foldl_pushRemap : ∀ (maps : List PhysicalMemoryMapping) (map : MemoryMap),
    maps.Pairwise (fun m m' => ¬ m.Overlaps m') →
    (∀ x ∈ maps, ∀ m' ∈ map.mappings, ¬ x.Overlaps m') → ∀ a,
      (maps.foldl (fun memMap m => memMap.pushRemap m.base m.size m.realBase) map).translate a =
        (MemoryMap.translateIn maps a).or (map.translate a)
  | [], _, _, _, _ => rfl
  | m :: ms, map, hdis, hsep, a => by
    rw [List.pairwise_cons] at hdis
    have hno : ∀ m' ∈ map.mappings, ¬ m.Overlaps m' := hsep m (List.mem_cons_self m ms)
    have hsep' : ∀ x ∈ ms, ∀ m' ∈ (map.pushRemap m.base m.size m.realBase).mappings,
        ¬ x.Overlaps m' := fun x hx m' hm' => by
      rcases MemoryMap.mem_pushRemap.1 hm' with hm' | ⟨rfl, -⟩
      · exact hsep x (List.mem_cons_of_mem m hx) m' hm'
      · exact fun ho => hdis.1 x hx (PhysicalMemoryMapping.overlaps_comm.1 ho)
    rw [List.foldl_cons, translate_foldl_pushRemap ms _ hdis.2 hsep' a,
      MemoryMap.translate_pushRemap, MemoryMap.translateIn_cons]
    by_cases hc : m.Contains a
    · -- no other mapping of the array holds `a`
      have hms : MemoryMap.translateIn ms a = none := MemoryMap.translateIn_eq_none fun x hx hx' =>
        hdis.1 x hx (PhysicalMemoryMapping.overlaps_of_contains hc hx')
      rw [if_pos ⟨hno, hc⟩, if_pos hc, hms]
      rfl
    · rw [if_neg fun h => hc h.2, if_neg hc]

/-- **The translation `phys_set_mem_map` installs**: for an array of pairwise
disjoint mappings, an address translates as the mapping of the array that
holds it, and is unmapped where none does. -/
theorem physSetMemMap_translate (mem : PhysicalMemoryInstance) (maps : List PhysicalMemoryMapping)
    (hdis : maps.Pairwise fun m m' => ¬ m.Overlaps m') :
    ∃ memMap : MemoryMap, physSetMemMap mem maps = mem.setMemMap memMap ∧
      ∀ a, memMap.translate a = MemoryMap.translateIn maps a :=
  ⟨_, rfl, fun a => by
    rw [translate_foldl_pushRemap maps MemoryMap.new hdis (fun _ _ _ h => by cases h) a]
    exact Option.or_none⟩

/-! ## Reading and writing through the map -/

theorem mapM_bind_mapM {α β γ : Type} (f : α → Option β) (g : β → Option γ) :
    ∀ l : List α, (l.mapM f >>= fun bs => bs.mapM g) = l.mapM fun x => f x >>= g
  | [] => rfl
  | a :: l => by
    rw [List.mapM_cons, List.mapM_cons, ← mapM_bind_mapM f g l]
    rcases f a with _ | b
    · rfl
    rcases l.mapM f with _ | bs <;> rcases hg : g b with _ | c <;>
      simp only [Option.bind_eq_bind, Option.some_bind, Option.none_bind, Option.pure_def,
        Option.bind_none, List.mapM_cons, hg]

/-- **A read under a map** returns the device byte at the translation of each
byte of the request, and fails exactly when one of them is unmapped or past
the device's end. -/
theorem physReadRawInto_setMemMap (mem : PhysicalMemoryInstance) (memMap : MemoryMap)
    (addr : U64) (len : Nat) :
    (mem.setMemMap memMap).physReadRawInto addr len =
      (List.range len).mapM fun i => memMap.translate (addr.val + i) >>= fun a => mem.bytes[a]? := by
  unfold PhysicalMemoryInstance.physReadRawInto PhysicalMemoryInstance.realAddresses
    PhysicalMemoryInstance.setMemMap
  dsimp only
  rw [MemoryMap.resolve_expand, mapM_bind_mapM]

/-- **Reading after `phys_set_mem_map`.** For an array of pairwise disjoint
mappings, a read returns the device byte at the array's translation of each
byte of the request, and fails exactly when one of them is outside every
mapping or past the device's end. -/
theorem physReadRawInto_physSetMemMap (mem : PhysicalMemoryInstance)
    (maps : List PhysicalMemoryMapping) (hdis : maps.Pairwise fun m m' => ¬ m.Overlaps m')
    (addr : U64) (len : Nat) :
    (physSetMemMap mem maps).physReadRawInto addr len =
      (List.range len).mapM fun i =>
        MemoryMap.translateIn maps (addr.val + i) >>= fun a => mem.bytes[a]? := by
  obtain ⟨memMap, hset, htr⟩ := physSetMemMap_translate mem maps hdis
  rw [hset, physReadRawInto_setMemMap]
  simp only [htr]

/-- A device of `0x30` bytes, each holding its own address. -/
def exampleDevice : PhysicalMemoryInstance :=
  ⟨(List.range 0x30).map (Word.ofNat 8), ⟨0x30, false⟩, none⟩

/-- Two disjoint mappings, `0..0x10 → 0x20` and `0x10..0x20 → 0`: a read
across their border takes its first bytes from the first and the rest from
the second. -/
theorem physReadRawInto_physSetMemMap_swapped :
    ([⟨0, 0x10, 0x20⟩, ⟨0x10, 0x10, 0⟩] : List PhysicalMemoryMapping).Pairwise
      (fun m m' => ¬ m.Overlaps m') ∧
    (physSetMemMap exampleDevice [⟨0, 0x10, 0x20⟩, ⟨0x10, 0x10, 0⟩]).physReadRawInto 0x0e 4 =
      some [0x2e, 0x2f, 0x00, 0x01] :=
  have hdis : ([⟨0, 0x10, 0x20⟩, ⟨0x10, 0x10, 0⟩] : List PhysicalMemoryMapping).Pairwise
      (fun m m' => ¬ m.Overlaps m') := by decide
  ⟨hdis, (physReadRawInto_physSetMemMap exampleDevice _ hdis 0x0e 4).trans (by decide)⟩

theorem mapM_eq_none {α β : Type} {f : α → Option β} :
    ∀ {l : List α}, l.mapM f = none ↔ ∃ x ∈ l, f x = none
  | [] => by
    simp only [List.mapM_nil]
    simp
  | a :: l => by
    rw [List.mapM_cons, List.exists_mem_cons_iff, ← mapM_eq_none]
    rcases f a with _ | b <;> rcases l.mapM f with _ | bs <;> simp

theorem intoIntResult_eq_zero {α : Type} {r : Option α} : intoIntResult r = 0 ↔ r ≠ none := by
  cases r <;> simp [intoIntResult]

theorem intoIntResult_neg {α : Type} {r : Option α} : intoIntResult r < 0 ↔ r = none := by
  cases r <;> simp [intoIntResult]

/-- A read under a map succeeds exactly when every byte of the request is
mapped to an address on the device. -/
theorem physReadRawInto_setMemMap_ne_none (mem : PhysicalMemoryInstance) (memMap : MemoryMap)
    (addr : U64) (len : Nat) :
    (mem.setMemMap memMap).physReadRawInto addr len ≠ none ↔
      ∀ i < len, ∃ a, memMap.translate (addr.val + i) = some a ∧ a < mem.bytes.length := by
  rw [physReadRawInto_setMemMap, Ne, mapM_eq_none]
  simp only [List.mem_range, not_exists, not_and]
  refine forall₂_congr fun i _ => ?_
  rcases memMap.translate (addr.val + i) with _ | a <;> simp [List.getElem?_eq_none_iff]

/-- **What `phys_read_raw` returns**: 0 exactly when every byte of the
request is mapped to an address on the device, and a negative code
otherwise. -/
theorem physReadRaw_code_iff (mem : PhysicalMemoryInstance) (memMap : MemoryMap)
    (addr : U64) (len : Nat) :
    ((physReadRaw (mem.setMemMap memMap) addr len).2 = 0 ↔
      ∀ i < len, ∃ a, memMap.translate (addr.val + i) = some a ∧ a < mem.bytes.length) ∧
    ((physReadRaw (mem.setMemMap memMap) addr len).2 < 0 ↔
      ¬ ∀ i < len, ∃ a, memMap.translate (addr.val + i) = some a ∧ a < mem.bytes.length) :=
  have key := physReadRawInto_setMemMap_ne_none mem memMap addr len
  ⟨intoIntResult_eq_zero.trans key, intoIntResult_neg.trans (not_not.symm.trans (not_congr key))⟩

/-- **`phys_read_u32` and `phys_read_u64` report a failed read as 0**: a
value read from an address with an unmapped byte cannot be told from a
mapped 0. -/
theorem physReadWord_of_unmapped (n : Nat) (mem : PhysicalMemoryInstance) (memMap : MemoryMap)
    (addr : U64) (h : ∃ i < n, memMap.translate (addr.val + i) = none) :
    physReadWord n (mem.setMemMap memMap) addr = 0 := by
  obtain ⟨i, hi, hnone⟩ := h
  have : (mem.setMemMap memMap).physReadRawInto addr n = none := by
    rw [physReadRawInto_setMemMap, mapM_eq_none]
    exact ⟨i, List.mem_range.2 hi, by rw [hnone]; rfl⟩
  simp [physReadWord, this]

theorem length_foldl_set : ∀ {ps : List (Nat × Byte)} {bs : List Byte},
    (ps.foldl (fun bs p => bs.set p.1 p.2) bs).length = bs.length
  | [], _ => rfl
  | p :: ps, bs => by rw [List.foldl_cons, length_foldl_set, List.length_set]

theorem getElem?_foldl_set_of_not_mem {a : Nat} :
    ∀ {as : List Nat} {data bs : List Byte}, a ∉ as →
      ((as.zip data).foldl (fun bs p => bs.set p.1 p.2) bs)[a]? = bs[a]?
  | [], _, _, _ => rfl
  | _ :: _, [], _, _ => rfl
  | b :: as, d :: data, bs, h => by
    rw [List.zip_cons_cons, List.foldl_cons,
      getElem?_foldl_set_of_not_mem (List.not_mem_of_not_mem_cons h),
      List.getElem?_set_ne (Ne.symm (List.ne_of_not_mem_cons h))]

/-- Writing bytes to distinct device addresses and reading them back gives
the bytes written. -/
theorem mapM_foldl_set : ∀ {as : List Nat} {data bs : List Byte}, as.Nodup →
    as.length = data.length → (∀ a ∈ as, a < bs.length) →
      as.mapM (fun a => ((as.zip data).foldl (fun bs p => bs.set p.1 p.2) bs)[a]?) = some data
  | [], [], _, _, _, _ => rfl
  | a :: as, d :: data, bs, hnd, hlen, hlt => by
    rw [List.nodup_cons] at hnd
    have hrest := @mapM_foldl_set as data (bs.set a d) hnd.2 (by simpa using hlen)
      fun x hx => by rw [List.length_set]; exact hlt x (List.mem_cons_of_mem a hx)
    simp only [List.zip_cons_cons, List.foldl_cons, List.mapM_cons,
      getElem?_foldl_set_of_not_mem hnd.1, List.getElem?_set_self (hlt a (List.mem_cons_self a as)),
      hrest, Option.bind_eq_bind, Option.some_bind, Option.pure_def]

theorem length_of_mapM_eq_some {α β : Type} {f : α → Option β} :
    ∀ {l : List α} {bs : List β}, l.mapM f = some bs → bs.length = l.length
  | [], _, h => by cases h; rfl
  | a :: l, bs, h => by
    simp only [List.mapM_cons, Option.bind_eq_bind, Option.bind_eq_some, Option.pure_def,
      Option.some.injEq] at h
    obtain ⟨_, -, bs', hl, rfl⟩ := h
    rw [List.length_cons, length_of_mapM_eq_some hl, List.length_cons]

theorem length_realAddresses {mem : PhysicalMemoryInstance} {addr len : Nat} {as : List Nat}
    (h : mem.realAddresses addr len = some as) : as.length = len := by
  unfold PhysicalMemoryInstance.realAddresses at h
  split at h
  · cases h
    simp
  · rw [MemoryMap.resolve_expand] at h
    simpa using length_of_mapM_eq_some h

/-- **A `u32` or `u64` written through the map reads back.** If the `n`
bytes at `addr` go to distinct addresses on the device, the write returns 0
and a following read of `n` bytes returns the value written. -/
theorem physReadWord_physWriteWord (n : Nat) (mem : PhysicalMemoryInstance) (addr : U64)
    (val : Word (8 * n)) (as : List Nat) (has : mem.realAddresses addr.val n = some as)
    (hdev : ∀ a ∈ as, a < mem.bytes.length) (hnd : as.Nodup) :
    (physWriteWord n mem addr val).2 = 0 ∧
      physReadWord n (physWriteWord n mem addr val).1 addr = val := by
  have hdata : (leBytes n val.val).length = n := length_leBytes n _
  let mem' : PhysicalMemoryInstance :=
    { mem with bytes := (as.zip (leBytes n val.val)).foldl (fun bs p => bs.set p.1 p.2) mem.bytes }
  have hwrite : mem.physWriteRaw addr (leBytes n val.val) = some mem' := by
    unfold PhysicalMemoryInstance.physWriteRaw
    rw [hdata, has]
    exact if_pos (List.all_eq_true.2 fun a ha => decide_eq_true (hdev a ha))
  have hread : mem'.physReadRawInto addr n = some (leBytes n val.val) := by
    unfold PhysicalMemoryInstance.physReadRawInto
    rw [show mem'.realAddresses addr.val n = some as from has]
    exact mapM_foldl_set hnd ((length_realAddresses has).trans hdata.symm) hdev
  have hval : val.val % 0x100 ^ n = val.val := by
    rw [show (0x100 : Nat) ^ n = 2 ^ (8 * n) by rw [pow_mul]; rfl]
    exact Nat.mod_eq_of_lt val.isLt
  unfold physWriteWord physWriteRaw
  rw [hwrite]
  refine ⟨rfl, ?_⟩
  simp only [Option.getD_some, physReadWord, hread, Option.map_some', leValue_leBytes, hval]
  exact Fin.ext (Word.ofNat_val_of_lt val.isLt)

/-- A provider of 16 bytes under the identity map on them. -/
def exampleInstance : PhysicalMemoryInstance :=
  (⟨List.replicate 16 0, ⟨16, false⟩, none⟩ : PhysicalMemoryInstance).setMemMap
    (MemoryMap.new.pushRemap 0 16 0)

theorem physReadWord_physWriteWord_exampleInstance :
    exampleInstance.realAddresses (4 : U64).val 4 = some [4, 5, 6, 7] ∧
    (∀ a ∈ [4, 5, 6, 7], a < exampleInstance.bytes.length) ∧ [4, 5, 6, 7].Nodup ∧
    (physWriteU32 exampleInstance 4 0xdeadbeef).2 = 0 ∧
    physReadU32 (physWriteU32 exampleInstance 4 0xdeadbeef).1 4 = 0xdeadbeef :=
  have has : exampleInstance.realAddresses (4 : U64).val 4 = some [4, 5, 6, 7] := by decide
  have hdev : ∀ a ∈ [4, 5, 6, 7], a < exampleInstance.bytes.length := by decide
  have hnd : [4, 5, 6, 7].Nodup := by decide
  ⟨has, hdev, hnd, physReadWord_physWriteWord 4 exampleInstance 4 0xdeadbeef _ has hdev hnd⟩

/-! ## Batches -/

instance decidableDisjoint {α : Type} [DecidableEq α] (l₁ l₂ : List α) : Decidable (l₁.Disjoint l₂) :=
  decidable_of_iff (∀ a ∈ l₁, a ∉ l₂) ⟨fun h _ ha hb => h _ ha hb, fun h _ ha hb => h ha hb⟩

namespace PhysicalMemoryInstance

@[simp] theorem realAddresses_setBytes (mem : PhysicalMemoryInstance) (bs : List Byte) :
    ({ mem with bytes := bs } : PhysicalMemoryInstance).realAddresses = mem.realAddresses := rfl

@[simp] theorem targets_setBytes (mem : PhysicalMemoryInstance) (bs : List Byte) :
    ({ mem with bytes := bs } : PhysicalMemoryInstance).targets = mem.targets := rfl

theorem writable_setBytes {mem : PhysicalMemoryInstance} {bs : List Byte}
    (h : bs.length = mem.bytes.length) (d : PhysicalWriteData) :
    ({ mem with bytes := bs } : PhysicalMemoryInstance).Writable d ↔ mem.Writable d := by
  simp only [Writable, h]
  rfl

@[simp] theorem length_written (mem : PhysicalMemoryInstance) (d : PhysicalWriteData) :
    (mem.written d).length = mem.bytes.length := length_foldl_set

/-- A write succeeds when it can, and then sets each of its target addresses
to its byte. -/
theorem physWriteRaw_eq (mem : PhysicalMemoryInstance) (d : PhysicalWriteData) :
    mem.physWriteRaw d.addr d.buf =
      if mem.Writable d then some { mem with bytes := mem.written d } else none := by
  unfold physWriteRaw
  rcases hra : mem.realAddresses d.addr.val d.buf.length with _ | as
  · rw [if_neg fun h => by simp [Writable, hra] at h]
    rfl
  · have hw : mem.Writable d ↔ ∀ a ∈ as, a < mem.bytes.length := by simp [Writable, targets, hra]
    by_cases hlt : ∀ a ∈ as, a < mem.bytes.length
    · simpa [hw.2 hlt, written, targets, hra, List.all_eq_true] using hlt
    · simp [mt hw.1 hlt, List.all_eq_true, hlt]

/-- One entry of a batch: written when it can be, and otherwise a failure. -/
theorem writeEntry_eq (mem : PhysicalMemoryInstance) (r : Option Unit) (d : PhysicalWriteData) :
    writeEntry (mem, r) d = if mem.Writable d then ({ mem with bytes := mem.written d }, r) else (mem, none) := by
  simp only [writeEntry, physWriteRaw_eq]
  split_ifs <;> rfl

end PhysicalMemoryInstance

open PhysicalMemoryInstance

theorem foldl_set_set {α : Type} {a : Nat} (v : α) :
    ∀ {qs : List (Nat × α)} (bs : List α), (∀ q ∈ qs, a ≠ q.1) →
      qs.foldl (fun bs q => bs.set q.1 q.2) (bs.set a v) = (qs.foldl (fun bs q => bs.set q.1 q.2) bs).set a v
  | [], _, _ => rfl
  | q :: qs, bs, h => by
    rw [List.foldl_cons, List.set_comm _ _ _ (h q (List.mem_cons_self q qs)), foldl_set_set v _
      fun q' hq' => h q' (List.mem_cons_of_mem q hq'), List.foldl_cons]

/-- Writes to disjoint addresses commute. -/
theorem foldl_set_comm {α : Type} {qs : List (Nat × α)} :
    ∀ {ps : List (Nat × α)} (bs : List α), (∀ p ∈ ps, ∀ q ∈ qs, p.1 ≠ q.1) →
      qs.foldl (fun bs q => bs.set q.1 q.2) (ps.foldl (fun bs p => bs.set p.1 p.2) bs) =
        ps.foldl (fun bs p => bs.set p.1 p.2) (qs.foldl (fun bs q => bs.set q.1 q.2) bs)
  | [], _, _ => rfl
  | p :: ps, bs, h => by
    rw [List.foldl_cons, List.foldl_cons, foldl_set_comm _ fun p' hp' => h p' (List.mem_cons_of_mem p hp'),
      foldl_set_set _ _ (h p (List.mem_cons_self p ps))]

/-- Two entries reaching disjoint device addresses can be written in either order. -/
theorem writeEntry_comm (mem : PhysicalMemoryInstance) (r : Option Unit) {d e : PhysicalWriteData}
    (h : (mem.targets d).Disjoint (mem.targets e)) :
    writeEntry (writeEntry (mem, r) d) e = writeEntry (writeEntry (mem, r) e) d := by
  by_cases hd : mem.Writable d <;> by_cases he : mem.Writable e <;>
    simp only [writeEntry_eq, hd, he, if_true, if_false, writable_setBytes (length_written _ _),
      targets_setBytes]
  congr 2
  exact foldl_set_comm _ fun p hp q hq heq => h (List.of_mem_zip hp).1 (heq ▸ (List.of_mem_zip hq).1)

theorem targets_writeEntry (s : PhysicalMemoryInstance × Option Unit) (d : PhysicalWriteData) :
    (writeEntry s d).1.targets = s.1.targets := by
  rw [← Prod.mk.eta (p := s), writeEntry_eq]
  split_ifs <;> rfl

theorem fst_foldl_writeEntry (r r' : Option Unit) :
    ∀ (data : List PhysicalWriteData) (mem : PhysicalMemoryInstance),
      (data.foldl writeEntry (mem, r)).1 = (data.foldl writeEntry (mem, r')).1
  | [], _ => rfl
  | d :: data, mem => by
    rw [List.foldl_cons, List.foldl_cons, writeEntry_eq, writeEntry_eq]
    split_ifs
    · exact fst_foldl_writeEntry r r' data _
    · rfl

/-- A batch goes on past an entry that cannot be written: the provider ends
as after the batch of the writable entries, and the result is kept only
when every entry could be written. -/
theorem foldl_writeEntry_filter :
    ∀ (data : List PhysicalWriteData) (mem : PhysicalMemoryInstance) (r : Option Unit),
      data.foldl writeEntry (mem, r) =
        (((data.filter fun d => mem.Writable d).foldl writeEntry (mem, r)).1,
          if ∀ d ∈ data, mem.Writable d then r else none)
  | [], _, _ => by simp
  | d :: data, mem, r => by
    by_cases hd : mem.Writable d
    · have hw : ∀ e, ({ mem with bytes := mem.written d } : PhysicalMemoryInstance).Writable e ↔
          mem.Writable e := writable_setBytes (length_written _ _)
      rw [List.foldl_cons, writeEntry_eq, if_pos hd, foldl_writeEntry_filter data]
      simp only [hw, List.filter_cons, hd, decide_True, if_true, List.foldl_cons, writeEntry_eq,
        List.forall_mem_cons, true_and]
    · rw [List.foldl_cons, writeEntry_eq, if_neg hd, foldl_writeEntry_filter data]
      simp only [List.filter_cons, hd, decide_False, Bool.false_eq_true, if_false,
        fst_foldl_writeEntry none r, ite_self, List.forall_mem_cons, false_and]

/-- **A batch goes on past a failed entry.** `phys_write_raw_list` leaves the
provider as the batch of its writable entries alone would, and returns 0
exactly when every entry could be written. -/
theorem physWriteRawList_eq_filter (mem : PhysicalMemoryInstance) (data : List PhysicalWriteData) :
    physWriteRawList mem data =
      ((physWriteRawList mem (data.filter fun d => mem.Writable d)).1,
        if ∀ d ∈ data, mem.Writable d then 0 else -1) := by
  unfold physWriteRawList PhysicalMemoryInstance.physWriteRawList
  rw [foldl_writeEntry_filter]
  split_ifs <;> rfl

/-- A batch whose entries reach pairwise disjoint device addresses leaves the
same provider and result in every order. -/
theorem foldl_writeEntry_perm {data data' : List PhysicalWriteData} (hp : data.Perm data') :
    ∀ s : PhysicalMemoryInstance × Option Unit,
      data.Pairwise (fun d e => (s.1.targets d).Disjoint (s.1.targets e)) →
        data.foldl writeEntry s = data'.foldl writeEntry s := by
  induction hp with
  | nil => exact fun _ _ => rfl
  | cons d _ ih =>
    intro s hd
    rw [List.foldl_cons, List.foldl_cons,
      ih _ (by rw [targets_writeEntry]; exact (List.pairwise_cons.1 hd).2)]
  | swap d e l =>
    rintro ⟨mem, r⟩ hd
    rw [List.foldl_cons, List.foldl_cons, List.foldl_cons, List.foldl_cons,
      writeEntry_comm mem r ((List.pairwise_cons.1 hd).1 d (List.mem_cons_self d l))]
  | trans hp₁ _ ih₁ ih₂ =>
    exact fun s hd => (ih₁ s hd).trans (ih₂ s (hp₁.pairwise hd List.Disjoint.symm))

/-- **`phys_write_raw_list` does not depend on the order of its batch** when
the entries reach pairwise disjoint device addresses: every order leaves the
same provider and returns the same code. -/
theorem physWriteRawList_perm (mem : PhysicalMemoryInstance) {data data' : List PhysicalWriteData}
    (hp : data.Perm data') (hd : data.Pairwise fun d e => (mem.targets d).Disjoint (mem.targets e)) :
    physWriteRawList mem data = physWriteRawList mem data' := by
  unfold physWriteRawList PhysicalMemoryInstance.physWriteRawList
  rw [foldl_writeEntry_perm hp _ hd]

theorem physWriteRawList_perm_exampleInstance :
    ([⟨0, [1, 2]⟩, ⟨4, [3]⟩] : List PhysicalWriteData).Perm [⟨4, [3]⟩, ⟨0, [1, 2]⟩] ∧
    ([⟨0, [1, 2]⟩, ⟨4, [3]⟩] : List PhysicalWriteData).Pairwise
      (fun d e => (exampleInstance.targets d).Disjoint (exampleInstance.targets e)) ∧
    physWriteRawList exampleInstance [⟨0, [1, 2]⟩, ⟨4, [3]⟩] =
      physWriteRawList exampleInstance [⟨4, [3]⟩, ⟨0, [1, 2]⟩] :=
  have hp : ([⟨0, [1, 2]⟩, ⟨4, [3]⟩] : List PhysicalWriteData).Perm [⟨4, [3]⟩, ⟨0, [1, 2]⟩] := by decide
  have hd : ([⟨0, [1, 2]⟩, ⟨4, [3]⟩] : List PhysicalWriteData).Pairwise
      (fun d e => (exampleInstance.targets d).Disjoint (exampleInstance.targets e)) := by decide
  ⟨hp, hd, physWriteRawList_perm exampleInstance hp hd⟩

/-- A batch of entries that can all be written writes each in turn. -/
theorem foldl_writeEntry_of_writable (r : Option Unit) :
    ∀ (data : List PhysicalWriteData) (mem : PhysicalMemoryInstance), (∀ d ∈ data, mem.Writable d) →
      data.foldl writeEntry (mem, r) =
        ({ mem with bytes := data.foldl (fun bs d =>
          ((mem.targets d).zip d.buf).foldl (fun bs p => bs.set p.1 p.2) bs) mem.bytes }, r)
  | [], _, _ => rfl
  | d :: data, mem, hw => by
    rw [List.foldl_cons, writeEntry_eq, if_pos (hw d (List.mem_cons_self d data)),
      foldl_writeEntry_of_writable r data _ fun e he =>
        (writable_setBytes (length_written _ _) e).2 (hw e (List.mem_cons_of_mem d he))]
    rfl

theorem length_foldl_writes (mem : PhysicalMemoryInstance) :
    ∀ (data : List PhysicalWriteData) (bs : List Byte),
      (data.foldl (fun bs d => ((mem.targets d).zip d.buf).foldl (fun bs p => bs.set p.1 p.2) bs) bs).length =
        bs.length
  | [], _ => rfl
  | _ :: data, bs => by rw [List.foldl_cons, length_foldl_writes mem data, length_foldl_set]

/-- Writes of entries that do not reach `a` leave the byte at `a`. -/
theorem getElem?_foldl_writes (mem : PhysicalMemoryInstance) {a : Nat} :
    ∀ (data : List PhysicalWriteData) (bs : List Byte), (∀ e ∈ data, a ∉ mem.targets e) →
      (data.foldl (fun bs d => ((mem.targets d).zip d.buf).foldl (fun bs p => bs.set p.1 p.2) bs) bs)[a]? =
        bs[a]?
  | [], _, _ => rfl
  | e :: data, bs, h => by
    rw [List.foldl_cons, getElem?_foldl_writes mem data _ fun e' he' => h e' (List.mem_cons_of_mem e he'),
      getElem?_foldl_set_of_not_mem (h e (List.mem_cons_self e data))]

/-- After a batch of writable entries reaching pairwise disjoint device
addresses, each distinct within its entry, every entry reads back. -/
theorem physReadRawInto_foldl_writes (mem : PhysicalMemoryInstance) {data : List PhysicalWriteData}
    (hw : ∀ d ∈ data, mem.Writable d ∧ (mem.targets d).Nodup)
    (hdis : data.Pairwise fun d e => (mem.targets d).Disjoint (mem.targets e))
    {d : PhysicalWriteData} (hd : d ∈ data) :
    ({ mem with bytes := data.foldl (fun bs d =>
      ((mem.targets d).zip d.buf).foldl (fun bs p => bs.set p.1 p.2) bs) mem.bytes }
        : PhysicalMemoryInstance).physReadRawInto d.addr d.buf.length = some d.buf := by
  obtain ⟨⟨hmapped, hdev⟩, hnd⟩ := hw d hd
  obtain ⟨as, has⟩ := Option.isSome_iff_exists.1 hmapped
  have htargets : mem.targets d = as := by rw [targets, has]; rfl
  obtain ⟨pre, post, rfl⟩ := List.append_of_mem hd
  have hpost : ∀ e ∈ post, (mem.targets d).Disjoint (mem.targets e) :=
    (List.pairwise_cons.1 (List.pairwise_append.1 hdis).2.1).1
  unfold physReadRawInto
  simp only [realAddresses_setBytes, has, Option.bind_eq_bind, Option.some_bind, List.foldl_append,
    List.foldl_cons]
  rw [← htargets]
  rw [MemoryMap.mapM_congr_option fun a ha => getElem?_foldl_writes mem post _ fun e he hae => hpost e he ha hae]
  exact mapM_foldl_set hnd (htargets ▸ length_realAddresses has)
    fun a ha => length_foldl_writes mem pre mem.bytes ▸ hdev a ha

/-- A read batch whose entries all read back the bytes of a write batch's
entries, place by place, returns them and succeeds. -/
theorem physReadRawList_of_reads (mem : PhysicalMemoryInstance) :
    ∀ {reads : List PhysicalReadData} {data : List PhysicalWriteData},
      reads.map (fun r => (r.addr, r.buf.length)) = data.map (fun d => (d.addr, d.buf.length)) →
      (∀ d ∈ data, mem.physReadRawInto d.addr d.buf.length = some d.buf) →
        mem.physReadRawList reads = (data.map fun d => ⟨d.addr, d.buf⟩, some ())
  | [], [], _, _ => rfl
  | [], _ :: _, h, _ | _ :: _, [], h, _ => by cases h
  | r :: reads, d :: data, h, hread => by
    simp only [List.map_cons, List.cons.injEq, Prod.mk.injEq] at h
    obtain ⟨⟨haddr, hlen⟩, h⟩ := h
    have hrest := physReadRawList_of_reads mem h fun e he => hread e (List.mem_cons_of_mem d he)
    have hr : mem.physReadRawInto r.addr r.buf.length = some d.buf := by
      rw [haddr, hlen]; exact hread d (List.mem_cons_self d data)
    simp only [PhysicalMemoryInstance.physReadRawList, Prod.mk.injEq, List.map_cons, List.all_cons,
      List.cons.injEq, hr, Option.isSome_some, Bool.true_and] at hrest ⊢
    exact ⟨⟨by rw [readEntry, hr, haddr]; rfl, hrest.1⟩, hrest.2⟩

/-- **A batch written is read back.** When every entry of a batch can be
written, each to distinct device addresses and no two entries to a common
one, `phys_write_raw_list` returns 0, and `phys_read_raw_list` of entries
with the same addresses and lengths, in the same order, returns 0 with each
buffer holding the bytes its entry wrote. -/
theorem physReadRawList_physWriteRawList (mem : PhysicalMemoryInstance)
    (data : List PhysicalWriteData) (reads : List PhysicalReadData)
    (hw : ∀ d ∈ data, mem.Writable d ∧ (mem.targets d).Nodup)
    (hdis : data.Pairwise fun d e => (mem.targets d).Disjoint (mem.targets e))
    (hreads : reads.map (fun r => (r.addr, r.buf.length)) = data.map fun d => (d.addr, d.buf.length)) :
    (physWriteRawList mem data).2 = 0 ∧
      physReadRawList (physWriteRawList mem data).1 reads = (data.map fun d => ⟨d.addr, d.buf⟩, 0) := by
  have hrun := foldl_writeEntry_of_writable (some ()) data mem fun d hd => (hw d hd).1
  simp only [physWriteRawList, PhysicalMemoryInstance.physWriteRawList, hrun, physReadRawList,
    physReadRawList_of_reads _ hreads fun d hd => physReadRawInto_foldl_writes mem hw hdis hd]
  exact ⟨rfl, rfl⟩

theorem physReadRawList_physWriteRawList_exampleInstance :
    (∀ d ∈ ([⟨0, [1, 2]⟩, ⟨4, [3, 4, 5]⟩] : List PhysicalWriteData),
      exampleInstance.Writable d ∧ (exampleInstance.targets d).Nodup) ∧
    ([⟨0, [1, 2]⟩, ⟨4, [3, 4, 5]⟩] : List PhysicalWriteData).Pairwise
      (fun d e => (exampleInstance.targets d).Disjoint (exampleInstance.targets e)) ∧
    ([⟨0, [0, 0]⟩, ⟨4, [9, 9, 9]⟩] : List PhysicalReadData).map (fun r => (r.addr, r.buf.length)) =
      ([⟨0, [1, 2]⟩, ⟨4, [3, 4, 5]⟩] : List PhysicalWriteData).map (fun d => (d.addr, d.buf.length)) ∧
    (physWriteRawList exampleInstance [⟨0, [1, 2]⟩, ⟨4, [3, 4, 5]⟩]).2 = 0 ∧
    physReadRawList (physWriteRawList exampleInstance [⟨0, [1, 2]⟩, ⟨4, [3, 4, 5]⟩]).1
        [⟨0, [0, 0]⟩, ⟨4, [9, 9, 9]⟩] = ([⟨0, [1, 2]⟩, ⟨4, [3, 4, 5]⟩], 0) :=
  have hw : ∀ d ∈ ([⟨0, [1, 2]⟩, ⟨4, [3, 4, 5]⟩] : List PhysicalWriteData),
      exampleInstance.Writable d ∧ (exampleInstance.targets d).Nodup := by decide
  have hdis : ([⟨0, [1, 2]⟩, ⟨4, [3, 4, 5]⟩] : List PhysicalWriteData).Pairwise
      (fun d e => (exampleInstance.targets d).Disjoint (exampleInstance.targets e)) := by decide
  have hreads : ([⟨0, [0, 0]⟩, ⟨4, [9, 9, 9]⟩] : List PhysicalReadData).map (fun r => (r.addr, r.buf.length)) =
      ([⟨0, [1, 2]⟩, ⟨4, [3, 4, 5]⟩] : List PhysicalWriteData).map (fun d => (d.addr, d.buf.length)) := rfl
  ⟨hw, hdis, hreads, physReadRawList_physWriteRawList exampleInstance _ _ hw hdis hreads⟩

end Memflow.Ffi
