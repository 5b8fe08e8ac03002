import Memflow.Win32.Plugins

/-!
# Memflow — the memcache DSL and the configuration it reaches

The `memcache` value of the win32 plugin's `Args` is `default`, `none`, or an
`&`-joined list of segments

  `page:<size><unit>;<ms>` and `vat:<entries>;<ms>`,

sizes and entries in hex, times in decimal, `<unit>` one of `kb k mb m gb g`.
This module states that language on its own (`Segment`, `Memcache`, with the
caches each value denotes) and proves that the chain of `build_dtb` parses
every well-formed value to exactly those caches (`cacheSetting_memcache`).

The parse works because the DSL's separators never occur inside the pieces
they separate: a segment holds no `&`, a page segment no `v` and a VAT
segment no `p` (so each is found by the substring search of the other's
parser only when it is its own kind), the text before `;` holds no `;`, and a
hex size never ends with a unit suffix (so the unit search picks the unit
that was written, and `trim_end_matches` removes exactly it).

## Results

* `unitSearch_append` — the unit search on `<size><unit>` returns the size
  and the unit's multiplier.
* `pageCacheConfig_segments`, `vatCacheConfig_segments` — the two parsers on
  a joined list of segments return the first segment of their kind.
* `cacheSetting_memcache` — the memcache parse of every well-formed value.
* `buildDtb_configures` — the configuration `build_dtb` reaches for every
  well-formed `memcache`, `dtb` and `arch`.
-/

namespace Memflow.Win32

open Rust Str

/-! ## The DSL -/

/-- The digits of a lowercase hex numeral. -/
def hexDigits : Str := "0123456789abcdef".toList

/-- The digits of a decimal numeral. -/
def decDigits : Str := "0123456789".toList

/-- A lowercase hex numeral. -/
def IsHexNumeral (s : Str) : Prop := s ≠ [] ∧ ∀ c ∈ s, c ∈ hexDigits

/-- A decimal numeral. -/
def IsDecNumeral (s : Str) : Prop := s ≠ [] ∧ ∀ c ∈ s, c ∈ decDigits

/-- A size unit of the page segment. -/
inductive SizeUnit
  | kb
  | k
  | mb
  | m
  | gb
  | g
deriving DecidableEq, Repr

/-- How the unit is written. -/
def SizeUnit.suffix : SizeUnit → Str
  | .kb => "kb".toList
  | .k => "k".toList
  | .mb => "mb".toList
  | .m => "m".toList
  | .gb => "gb".toList
  | .g => "g".toList

/-- The bytes one unit stands for. -/
def SizeUnit.mult : SizeUnit → Nat
  | .kb | .k => Win32.kb 1
  | .mb | .m => Win32.mb 1
  | .gb | .g => Win32.gb 1

/-- A segment of a memcache value. -/
inductive Segment
  | page (size : Str) (unit : SizeUnit) (validMs : Str)
  | vat (entries : Str) (validMs : Str)
deriving DecidableEq, Repr

namespace Segment

/-- The text after the segment's `:`. -/
def body : Segment → Str
  | page size unit validMs => size ++ unit.suffix ++ ';' :: validMs
  | vat entries validMs => entries ++ ';' :: validMs

/-- The name before the segment's `:`. -/
def name : Segment → Str
  | page .. => "page".toList
  | vat .. => "vat".toList

/-- How the segment is written. -/
def render (s : Segment) : Str := s.name ++ ':' :: s.body

/-- Whether this is a page segment. -/
def isPage : Segment → Bool
  | page .. => true
  | vat .. => false

/-- Whether this is a VAT segment. -/
def isVat : Segment → Bool
  | page .. => false
  | vat .. => true

/-- The cache the segment asks for. -/
def cache : Segment → CacheConfig
  | page size unit validMs => .timed (numeralValue 16 size * unit.mult) (numeralValue 10 validMs)
  | vat entries validMs => .timed (numeralValue 16 entries) (numeralValue 10 validMs)

/-- A well-formed segment for a host with a `w`-bit `usize`: hex sizes whose
byte count (or entry count) is a `usize`, and decimal times that are `u64`s. -/
def WellFormed (w : Nat) : Segment → Prop
  | page size unit validMs => IsHexNumeral size ∧ numeralValue 16 size * unit.mult < 2 ^ w ∧
      IsDecNumeral validMs ∧ numeralValue 10 validMs < 2 ^ 64
  | vat entries validMs => IsHexNumeral entries ∧ numeralValue 16 entries < 2 ^ w ∧
      IsDecNumeral validMs ∧ numeralValue 10 validMs < 2 ^ 64

end Segment

/-- A `memcache` value: the key absent, `default`, `none`, or `&`-joined segments. -/
inductive Memcache
  | absent
  | default
  | none
  | segments (segs : List Segment)

namespace Memcache

/-- What `args.get("memcache")` returns. -/
def arg : Memcache → Option Str
  | absent => Option.none
  | default => some "default".toList
  | none => some "none".toList
  | segments segs => some (['&'].intercalate (segs.map Segment.render))

/-- Every segment is well formed. -/
def WellFormed (w : Nat) : Memcache → Prop
  | segments segs => ∀ s ∈ segs, s.WellFormed w
  | _ => True

/-- The VAT and page caches the value asks for: `none` for no cache. A list of
segments asks for the first of each kind. -/
def caches : Memcache → Option CacheConfig × Option CacheConfig
  | absent | default => (some .defaults, some .defaults)
  | none => (Option.none, Option.none)
  | segments segs =>
    ((segs.find? Segment.isVat).map Segment.cache, (segs.find? Segment.isPage).map Segment.cache)

end Memcache

instance : DecidablePred IsHexNumeral := fun _ => inferInstanceAs (Decidable (_ ∧ _))

instance : DecidablePred IsDecNumeral := fun _ => inferInstanceAs (Decidable (_ ∧ _))

instance (w : Nat) : DecidablePred (Segment.WellFormed w)
  | .page .. => inferInstanceAs (Decidable (_ ∧ _))
  | .vat .. => inferInstanceAs (Decidable (_ ∧ _))

instance (w : Nat) : DecidablePred (Memcache.WellFormed w)
  | .segments segs => inferInstanceAs (Decidable (∀ s ∈ segs, _))
  | .absent | .default | .none => isTrue trivial

/-! ## Characters that do not occur -/

theorem not_mem_of_digits {D s : Str} {x : Char} (hs : ∀ c ∈ s, c ∈ D) (hx : x ∉ D) : x ∉ s :=
  fun h => hx (hs x h)

theorem hexDigits_toDigit : ∀ c ∈ hexDigits, (toDigit 16 c).isSome := by decide

theorem decDigits_toDigit : ∀ c ∈ decDigits, (toDigit 10 c).isSome := by decide

theorem IsHexNumeral.isNumeral {s : Str} (h : IsHexNumeral s) : IsNumeral 16 s :=
  ⟨h.1, fun c hc => hexDigits_toDigit c (h.2 c hc)⟩

theorem IsDecNumeral.isNumeral {s : Str} (h : IsDecNumeral s) : IsNumeral 10 s :=
  ⟨h.1, fun c hc => decDigits_toDigit c (h.2 c hc)⟩

/-- The characters a well-formed segment's body is written with. -/
def bodyChars : Str := ";kmgb".toList ++ hexDigits

theorem Segment.WellFormed.body_chars {w : Nat} {s : Segment} (h : s.WellFormed w) :
    ∀ c ∈ s.body, c ∈ bodyChars := by
  have hdec : ∀ c ∈ decDigits, c ∈ bodyChars := by decide
  cases s with
  | page size unit validMs =>
    have hunit : ∀ c ∈ unit.suffix, c ∈ bodyChars := by cases unit <;> decide
    simp only [Segment.body, List.mem_append, List.mem_cons]
    rintro c ((hc | hc) | rfl | hc)
    · exact List.mem_append_right _ (h.1.2 c hc)
    · exact hunit c hc
    · decide
    · exact hdec c (h.2.2.1.2 c hc)
  | vat entries validMs =>
    simp only [Segment.body, List.mem_append, List.mem_cons]
    rintro c (hc | rfl | hc)
    · exact List.mem_append_right _ (h.1.2 c hc)
    · decide
    · exact hdec c (h.2.2.1.2 c hc)

section Segment
variable {w : Nat} {s : Segment} (h : s.WellFormed w)
include h

theorem Segment.WellFormed.amp_not_mem : '&' ∉ s.render := by
  have := not_mem_of_digits h.body_chars (x := '&') (by decide)
  cases s <;> simpa [Segment.render, Segment.name] using this

theorem Segment.WellFormed.contains_page : contains s.render "page".toList = s.isPage := by
  have := not_mem_of_digits h.body_chars (x := 'p') (by decide)
  cases s with
  | page => simpa [contains, Segment.render, Segment.name, Segment.isPage] using
      (List.prefix_append "page".toList _).isInfix
  | vat => exact contains_eq_false (x := 'p') (by decide) (by simpa [Segment.render, Segment.name])

theorem Segment.WellFormed.contains_vat : contains s.render "vat".toList = s.isVat := by
  have := not_mem_of_digits h.body_chars (x := 'v') (by decide)
  cases s with
  | page => exact contains_eq_false (x := 'v') (by decide) (by simpa [Segment.render, Segment.name])
  | vat => simpa [contains, Segment.render, Segment.name, Segment.isVat] using
      (List.prefix_append "vat".toList _).isInfix

theorem Segment.WellFormed.split_colon : (split ':' s.render)[1]? = some s.body := by
  have := not_mem_of_digits h.body_chars (x := ':') (by decide)
  have hname : ':' ∉ s.name := by cases s <;> simp only [Segment.name] <;> decide
  simp [Segment.render, split_append_cons hname, split_of_not_mem this]

end Segment

/-! ## The segment parsers -/

/-- **The unit search reads back the written unit.** On a hex size followed by
a unit suffix, the search over `mul_arr` stops at that unit (no earlier suffix
ends the lowercased text) and `trim_end_matches` leaves the size. -/
theorem unitSearch_append (u : SizeUnit) {s : Str} (hs : ∀ c ∈ s, c ∈ hexDigits) :
    unitSearch (s ++ u.suffix) = some (s, u.mult) := by
  have hnot : ¬ u.suffix <:+ s := fun h => by
    cases u <;> exact absurd (hs _ (h.subset (List.mem_cons_self _ _))) (by decide)
  have htrim := trimEndMatches_append (by cases u <;> decide) hnot
  have hlower : toLowercase u.suffix = u.suffix := by cases u <;> decide
  rw [unitSearch, toLowercase_append, hlower]
  cases u <;> simp [mulArr, endsWith, List.isSuffixOf, SizeUnit.suffix, SizeUnit.mult] at htrim ⊢ <;>
    exact htrim

/-- The unit is found on the lowercased size but trimmed from the size as
written, and `trim_end_matches` trims every trailing copy: `1000MB` is
rejected while `1000mb` is 4 GiB, and `1kbkb` is read as 1 KiB. -/
theorem buildKernel_unit_suffix :
    buildKernel .debug64 (.ofList [("memcache".toList, "page:1000MB;500".toList)]) (some ()) =
      .err (configError "Failed to parse Page Cache size") ∧
    buildKernel .debug64 (.ofList [("memcache".toList, "page:1000mb;500".toList)]) (some ()) =
      .ok (Win32Kernel.builder.buildPageCache (.timed (0x1000 * mb 1) 500)) ∧
    buildKernel .debug64 (.ofList [("memcache".toList, "page:1kbkb;500".toList)]) (some ()) =
      .ok (Win32Kernel.builder.buildPageCache (.timed (kb 1) 500)) := by
  decide

theorem SizeUnit.mult_pos (u : SizeUnit) : 0 < u.mult := by cases u <;> decide

theorem SizeUnit.mult_lt (u : SizeUnit) : u.mult < 2 ^ 32 := by cases u <;> decide

variable (bld : Build)

/-- **The page size product is not checked.** For a page segment whose size is
a hex `usize` and whose time is a decimal `u64`, `build_page_cache` configures
the exact byte count when it fits a `usize`; otherwise it panics under
overflow checks and configures the wrapped count without them. -/
theorem pageCacheArgs_size {size validMs : Str} {u : SizeUnit} (hsize : IsHexNumeral size)
    (hv : numeralValue 16 size < 2 ^ bld.usizeBits) (hms : IsDecNumeral validMs)
    (hmsv : numeralValue 10 validMs < 2 ^ 64) :
    pageCacheArgs bld (Segment.page size u validMs).body =
      if numeralValue 16 size * u.mult < 2 ^ bld.usizeBits then
        .ok (.timed (numeralValue 16 size * u.mult) (numeralValue 10 validMs))
      else if bld.overflowChecks then .panic
      else .ok (.timed (numeralValue 16 size * u.mult % 2 ^ bld.usizeBits) (numeralValue 10 validMs)) := by
  have hsemi : ';' ∉ size ++ u.suffix := by
    simp only [List.mem_append, not_or]
    exact ⟨not_mem_of_digits hsize.2 (by decide), by cases u <;> decide⟩
  have hmul : (Word.ofNat bld.usizeBits u.mult).val = u.mult :=
    Word.ofNat_val_of_lt (lt_of_lt_of_le u.mult_lt bld.usize_size_ge)
  simp only [pageCacheArgs, Segment.body, ← List.append_assoc, splitn_two_append_cons hsemi,
    List.getElem?_cons_zero, List.getElem?_cons_succ, Exit.okOrElse_some, Exit.ok_bind]
  rw [unitSearch_append u hsize.2]
  simp only [Exit.okOrElse_some, Exit.ok_bind, fromStrRadix_numeral hsize.isNumeral hv, parseU64,
    fromStrRadix_numeral hms.isNumeral hmsv, Build.mul, Build.checked, hmul]
  by_cases hfit : numeralValue 16 size * u.mult < 2 ^ bld.usizeBits
  · simp [hfit, Nat.not_le.2 hfit, Fin.val_mul, hmul, Nat.mod_eq_of_lt hfit]
  · cases bld.overflowChecks <;> simp [hfit, Nat.not_lt.1 hfit, Fin.val_mul, hmul]

/-- `page:400000000gb;500` on a 64-bit host: `0x400000000 · 2^30 = 2^64` is no
`usize`. The debug build panics, the release build configures a page cache of
zero bytes; neither returns the `Configuration` error of a bad size. -/
theorem buildKernel_page_size_overflow :
    buildKernel .debug64 (.ofList [("memcache".toList, "page:400000000gb;500".toList)]) (some ()) =
      .panic ∧
    buildKernel .release64 (.ofList [("memcache".toList, "page:400000000gb;500".toList)]) (some ()) =
      .ok (Win32Kernel.builder.buildPageCache (.timed 0 500)) := by
  decide

theorem pageCacheArgs_page {size validMs : Str} {u : SizeUnit}
    (h : (Segment.page size u validMs).WellFormed bld.usizeBits) :
    pageCacheArgs bld (Segment.page size u validMs).body = .ok (Segment.page size u validMs).cache := by
  obtain ⟨hsize, hfit, hms, hmsv⟩ := h
  rw [pageCacheArgs_size bld hsize (lt_of_le_of_lt (Nat.le_mul_of_pos_right _ u.mult_pos) hfit)
    hms hmsv, if_pos hfit]
  rfl

theorem vatCacheArgs_vat {entries validMs : Str}
    (h : (Segment.vat entries validMs).WellFormed bld.usizeBits) :
    vatCacheArgs bld (Segment.vat entries validMs).body = .ok (Segment.vat entries validMs).cache := by
  obtain ⟨hent, hv, hms, hmsv⟩ := h
  simp [vatCacheArgs, Segment.body, Segment.cache,
    splitn_two_append_cons (not_mem_of_digits hent.2 (x := ';') (by decide)),
    fromStrRadix_numeral hent.isNumeral hv, parseU64, fromStrRadix_numeral hms.isNumeral hmsv]

/-! ## Joined segments -/

/-- Searching the images of a list finds the image of what a search of the
list finds, when the two tests agree on its members. -/
theorem find?_map_of_agree {α β : Type} {f : α → β} {p : β → Bool} {q : α → Bool} :
    ∀ {l : List α}, (∀ x ∈ l, p (f x) = q x) → (l.map f).find? p = (l.find? q).map f
  | [], _ => rfl
  | x :: xs, h => by
    have ih := find?_map_of_agree fun y hy => h y (List.mem_cons_of_mem x hy)
    cases hx : q x <;> simp [List.find?_cons, h x (List.mem_cons_self x xs), hx, ih]

/-- A joined list of segments begins as its first segment does. -/
theorem head?_intercalate (s : Segment) (rest : List Segment) :
    (['&'].intercalate ((s :: rest).map Segment.render)).head? = s.name.head? := by
  cases rest <;> cases s <;> simp [List.intercalate, List.intersperse, Segment.render, Segment.name]

section Segments
variable {segs : List Segment} (h : ∀ s ∈ segs, s.WellFormed bld.usizeBits)
include h

theorem split_amp_segments (hne : segs ≠ []) :
    split '&' (['&'].intercalate (segs.map Segment.render)) = segs.map Segment.render :=
  split_intercalate (by simpa using fun s hs => (h s hs).amp_not_mem) (by simpa using hne)

/-- `build_page_cache` on joined segments configures the first page segment's
cache, and none when there is no page segment. -/
theorem pageCacheConfig_segments :
    pageCacheConfig bld (['&'].intercalate (segs.map Segment.render)) =
      .ok ((segs.find? Segment.isPage).map Segment.cache) := by
  rcases eq_or_ne segs [] with rfl | hne
  · rfl
  rw [pageCacheConfig, split_amp_segments bld h hne,
    find?_map_of_agree fun s hs => (h s hs).contains_page]
  rcases hfind : segs.find? Segment.isPage with _ | seg
  · rfl
  have hwf := h seg (List.mem_of_find?_eq_some hfind)
  cases seg with
  | page size u validMs => simp [hwf.split_colon, pageCacheArgs_page bld hwf]
  | vat => simpa [Segment.isPage] using List.find?_some hfind

/-- `build_vat` on joined segments configures the first VAT segment's cache,
and none when there is no VAT segment. -/
theorem vatCacheConfig_segments :
    vatCacheConfig bld (['&'].intercalate (segs.map Segment.render)) =
      .ok ((segs.find? Segment.isVat).map Segment.cache) := by
  rcases eq_or_ne segs [] with rfl | hne
  · rfl
  rw [vatCacheConfig, split_amp_segments bld h hne,
    find?_map_of_agree fun s hs => (h s hs).contains_vat]
  rcases hfind : segs.find? Segment.isVat with _ | seg
  · rfl
  have hwf := h seg (List.mem_of_find?_eq_some hfind)
  cases seg with
  | page => simpa [Segment.isVat] using List.find?_some hfind
  | vat entries validMs => simp [hwf.split_colon, vatCacheArgs_vat bld hwf]

end Segments

/-- **The memcache parse of every well-formed value.** `build_caches`,
`build_vat` and `build_page_cache` together configure exactly the caches the
value asks for. -/
theorem cacheSetting_memcache (mc : Memcache) (h : mc.WellFormed bld.usizeBits) :
    cacheSetting bld mc.arg = .ok mc.caches := by
  cases mc with
  | absent | default | none => rfl
  | segments segs =>
    have hd : ['&'].intercalate (segs.map Segment.render) ≠ "default".toList ∧
        ['&'].intercalate (segs.map Segment.render) ≠ "none".toList := by
      rcases segs with _ | ⟨s, rest⟩
      · decide
      · have := head?_intercalate s rest
        constructor <;> intro he <;> rw [he] at this <;> cases s <;> simp [Segment.name] at this
    simp only [cacheSetting, Memcache.arg, Option.getD_some, if_neg hd.1, if_neg hd.2]
    simp [Memcache.caches, vatCacheConfig_segments bld h, pageCacheConfig_segments bld h]

/-! ## The configuration the chain reaches -/

theorem archNames_toLowercase : ∀ a ∈ archNames.map Prod.fst, toLowercase a = a := by decide

/-- **The configuration `build_dtb` reaches.** For every `Args` whose
`memcache` is absent or a well-formed value of the DSL, whose `dtb` is absent
or a hex numeral of a `u64`, and whose `arch` is absent or one of the names
`build_arch` matches, the chain reaches `build_final` with that dtb, that
architecture, and exactly the caches the memcache value asks for; a setting
that is absent leaves the builder's own. -/
theorem buildDtb_configures (b : Win32KernelBuilder) (args : Args) (mc : Memcache)
    (hmc : args.get "memcache".toList = mc.arg) (hwf : mc.WellFormed bld.usizeBits)
    (hdtb : ∀ d ∈ args.get "dtb".toList, IsNumeral 16 d ∧ numeralValue 16 d < 2 ^ 64)
    (harch : ∀ a ∈ args.get "arch".toList, a ∈ archNames.map Prod.fst) :
    ∃ b', buildDtb bld b args = .ok b' ∧
      b'.dtb.map Fin.val = ((args.get "dtb".toList).map (numeralValue 16)).or (b.dtb.map Fin.val) ∧
      b'.arch = ((args.get "arch".toList).bind archNames.lookup).or b.arch ∧
      b'.vatCache = mc.caches.1.or b.vatCache ∧
      b'.pageCache = mc.caches.2.or b.pageCache := by
  refine ⟨configure args mc.caches b, ?_, ?_, ?_, rfl, rfl⟩
  · rw [buildDtb_eq, hmc, cacheSetting_memcache bld mc hwf]; rfl
  · rw [configure_dtb, dtbSetting]
    rcases hd : args.get "dtb".toList with _ | d
    · cases b.dtb <;> rfl
    · obtain ⟨hnum, hv⟩ := hdtb d hd
      simp [fromStrRadix_numeral hnum hv]
  · rw [configure_arch, archSetting]
    rcases ha : args.get "arch".toList with _ | a
    · rfl
    · simp [archNames_toLowercase a (harch a ha)]

/-- The arguments of the specification's scenario 6, with a `dtb` and an `arch`. -/
def scenarioArgs : Args :=
  .ofList [("memcache".toList, "page:1000mb;500&vat:100;500".toList),
    ("dtb".toList, "1ab000".toList), ("arch".toList, "x64".toList)]

theorem buildDtb_configures_scenario :
    ∃ b', buildDtb .debug64 Win32Kernel.builder scenarioArgs = .ok b' ∧
      b'.dtb.map Fin.val = some 0x1ab000 ∧ b'.arch = some (.x86 64 false) ∧
      b'.vatCache = some (.timed 0x100 500) ∧ b'.pageCache = some (.timed (0x1000 * mb 1) 500) := by
  obtain ⟨b', h, hd, ha, hv, hp⟩ := buildDtb_configures .debug64 Win32Kernel.builder scenarioArgs
    (.segments [.page "1000".toList .mb "500".toList, .vat "100".toList "500".toList])
    (by decide) (by decide) (by decide) (by decide)
  exact ⟨b', h, by rw [hd]; decide, by rw [ha]; decide, by rw [hv]; decide, by rw [hp]; decide⟩

/-- On a 32-bit host a page cache of `0x100000` MiB is a `u64` byte count but
no `usize` one: the debug build panics before `build_final`. -/
theorem buildDtb_page_size_usize :
    buildDtb .debug32 Win32Kernel.builder
      (.ofList [("memcache".toList, "page:100000mb;500".toList)]) = .panic := by
  decide

end Memflow.Win32
