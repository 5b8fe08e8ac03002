import Memflow.Types.Pointer64

/-!
# Memflow — the win32 OS-layer plugin's configuration chain

`build_kernel` (memflow-win32 `plugins.rs`) turns the plugin's `Args` into a
configured `Win32KernelBuilder` through a chain of functions, each reading one
key and handing the updated builder to the next:

  `build_dtb → build_caches → build_vat → build_page_cache →
   build_kernel_hint → build_symstore → build_arch → build_final`.

Only the `memcache` value can stop the chain with an `Err`: its DSL
`page:<size><unit>;<ms>&vat:<entries>;<ms>` is parsed by `build_vat` and
`build_page_cache`, whose every failure is a `Configuration` error. `dtb` and
`kernel_hint` that do not parse are dropped (`.ok()`), and `arch` or
`symstore` values outside their `match` fall through to `_ =>`.

The model keeps the chain's shape. The two memcache parsers are split into the
part that reads the mode string (`vatCacheConfig`, `pageCacheConfig`) and the
builder update, so that the parse can be reasoned about on its own; every
other function is the source's `match` with the builder update in its arms.
`build_final` passes the builder to `Win32KernelBuilder::build` (the kernel
scan, not part of this model), so its model returns the builder it receives:
that is the configuration the chain reaches.

`buildDtb_malformed_args` says what the chain does with each malformed key:
only `memcache` can make it fail, and the rest is dropped.
`buildDtb_printed_pointers` closes the module: the `dtb` and `kernel_hint`
parsers read back any address that `Pointer64`'s formatting impls print.
-/

namespace Memflow.Win32

open Rust Str

/-! ## Collaborators -/

/-- Modelled from the spec: `Args`, the key/value pairs of the
`key1=value1,key2=value2` DSL. The plugin reads it only through `get`. -/
structure Args where
  get : Str → Option Str

/-- The `Args` holding the given pairs. -/
def Args.ofList (pairs : List (Str × Str)) : Args := ⟨pairs.lookup⟩

/-- Modelled from the spec: `size::kb`. -/
def kb (n : Nat) : Nat := n * 1024

/-- Modelled from the spec: `size::mb`. -/
def mb (n : Nat) : Nat := n * 1024 ^ 2

/-- Modelled from the spec: `size::gb`. -/
def gb (n : Nat) : Nat := n * 1024 ^ 3

/-- Modelled from the spec: the origin half of memflow's `Error`. -/
inductive ErrorOrigin
  | osLayer
  | connector
  | other
deriving DecidableEq, Repr

/-- Modelled from the spec: the error kinds (§7 of the specification). -/
inductive ErrorKind
  | io
  | configuration
  | connector
  | outOfBounds
  | pageNotPresent
  | invalidPageTable
  | bounds
  | other
deriving DecidableEq, Repr

/-- `Error(origin, kind)`. -/
structure Error where
  origin : ErrorOrigin
  kind : ErrorKind
deriving DecidableEq, Repr

/-- An `Error` with the message `log_error` logged as it was raised. -/
structure LoggedError where
  error : Error
  message : String
deriving DecidableEq, Repr

/-- `Error(ErrorOrigin::OsLayer, ErrorKind::Configuration).log_error(message)`. -/
def configError (message : String) : LoggedError :=
  ⟨⟨.osLayer, .configuration⟩, message⟩

/-- `ArchitectureIdent`: the paging schemes `build_arch` can name. -/
inductive ArchitectureIdent
  | x86 (bits : Nat) (pae : Bool)
  | aarch64 (pageSize : Nat)
deriving DecidableEq, Repr

/-- What a cache closure handed to the builder builds: the cache builder's
defaults, or an explicit size (bytes for the page cache, entries for the VAT
cache) with a `TimedCacheValidator` of `validMs` milliseconds. -/
inductive CacheConfig
  | defaults
  | timed (size validMs : Nat)
deriving DecidableEq, Repr

/-- The symbol store the kernel builder uses. -/
inductive SymbolStoreConfig
  | standard
  | uncached
  | disabled
deriving DecidableEq, Repr

/-- Modelled from the spec: `Win32KernelBuilder` (memflow-win32
`kernel_builder.rs`, not among the sources). It records what the plugin chain
sets on it; `none` is the builder's own choice. -/
structure Win32KernelBuilder where
  dtb : Option U64 := none
  arch : Option ArchitectureIdent := none
  kernelHint : Option U64 := none
  symbolStore : SymbolStoreConfig := .standard
  pageCache : Option CacheConfig := none
  vatCache : Option CacheConfig := none
deriving DecidableEq, Repr

/-- `Win32Kernel::builder(connector)`: a builder with every setting left to it. -/
def Win32Kernel.builder : Win32KernelBuilder := {}

namespace Win32KernelBuilder

/-- `builder.dtb(dtb)`. -/
def withDtb (b : Win32KernelBuilder) (dtb : U64) : Win32KernelBuilder := { b with dtb := some dtb }

/-- `builder.arch(arch)`. -/
def withArch (b : Win32KernelBuilder) (arch : ArchitectureIdent) : Win32KernelBuilder :=
  { b with arch := some arch }

/-- `builder.kernel_hint(hint)`. -/
def withKernelHint (b : Win32KernelBuilder) (hint : U64) : Win32KernelBuilder :=
  { b with kernelHint := some hint }

/-- `builder.symbol_store(store)` and `builder.no_symbol_store()`. -/
def withSymbolStore (b : Win32KernelBuilder) (s : SymbolStoreConfig) : Win32KernelBuilder :=
  { b with symbolStore := s }

/-- `builder.build_page_cache(closure)`. -/
def buildPageCache (b : Win32KernelBuilder) (c : CacheConfig) : Win32KernelBuilder :=
  { b with pageCache := some c }

/-- `builder.build_vat_cache(closure)`. -/
def buildVatCache (b : Win32KernelBuilder) (c : CacheConfig) : Win32KernelBuilder :=
  { b with vatCache := some c }

/-- Modelled from the spec: `builder.build_default_caches()`, a page cache and a
VAT cache with their builders' defaults. -/
def buildDefaultCaches (b : Win32KernelBuilder) : Win32KernelBuilder :=
  (b.buildPageCache .defaults).buildVatCache .defaults

/-! The two arms of a `match` that either sets something or keeps the builder. -/

/-- `builder.dtb(dtb)` for `some dtb`, the builder itself for `none`. -/
def withDtb? (b : Win32KernelBuilder) (o : Option U64) : Win32KernelBuilder :=
  { b with dtb := o.or b.dtb }

/-- `builder.arch(arch)` for `some arch`, the builder itself for `none`. -/
def withArch? (b : Win32KernelBuilder) (o : Option ArchitectureIdent) : Win32KernelBuilder :=
  { b with arch := o.or b.arch }

/-- `builder.kernel_hint(hint)` for `some hint`, the builder itself for `none`. -/
def withKernelHint? (b : Win32KernelBuilder) (o : Option U64) : Win32KernelBuilder :=
  { b with kernelHint := o.or b.kernelHint }

/-- The symbol store update for `some s`, the builder itself for `none`. -/
def withSymbolStore? (b : Win32KernelBuilder) (o : Option SymbolStoreConfig) : Win32KernelBuilder :=
  { b with symbolStore := o.getD b.symbolStore }

/-- `builder.build_page_cache(closure)` for `some c`, the builder itself for `none`. -/
def withPageCache? (b : Win32KernelBuilder) (o : Option CacheConfig) : Win32KernelBuilder :=
  { b with pageCache := o.or b.pageCache }

/-- `builder.build_vat_cache(closure)` for `some c`, the builder itself for `none`. -/
def withVatCache? (b : Win32KernelBuilder) (o : Option CacheConfig) : Win32KernelBuilder :=
  { b with vatCache := o.or b.vatCache }

end Win32KernelBuilder

/-! ## The chain, from its end to its start -/

/-- How the chain ends: the builder handed to `build_final`, an `Err`, or a panic. -/
abbrev Outcome := Exit LoggedError Win32KernelBuilder

/-- `build_final`: hands the builder to the kernel build, outside this model. -/
def buildFinal (builder : Win32KernelBuilder) (_ : Args) : Outcome := .ok builder

/-- The arms of `build_arch`'s `match`, in order. -/
def archNames : List (Str × ArchitectureIdent) :=
  [("x64".toList, .x86 64 false), ("x32".toList, .x86 32 false),
    ("x32_pae".toList, .x86 32 true), ("aarch64".toList, .aarch64 (kb 4))]

/-- The scrutinee of `build_arch`'s `match`: the architecture the lowercased
`arch` value names, if it names one. -/
def archSetting (args : Args) : Option ArchitectureIdent :=
  ((args.get "arch".toList).map toLowercase).bind archNames.lookup

/-- `build_arch`: any other `arch` value, or none, leaves the builder's own. -/
def buildArch (builder : Win32KernelBuilder) (args : Args) : Outcome :=
  match archSetting args with
  | some arch => buildFinal (builder.withArch arch) args
  | none => buildFinal builder args

/-- The arms of `build_symstore`'s `match`. -/
def symbolStoreSetting (args : Args) : Option SymbolStoreConfig :=
  if args.get "symstore".toList = some "uncached".toList then some .uncached
  else if args.get "symstore".toList = some "none".toList then some .disabled
  else none

/-- `build_symstore`. -/
def buildSymstore (builder : Win32KernelBuilder) (args : Args) : Outcome :=
  match symbolStoreSetting args with
  | some s => buildArch (builder.withSymbolStore s) args
  | none => buildArch builder args

/-- The scrutinee of `build_kernel_hint`: `kernel_hint` when it is a hex `u64`. -/
def kernelHintSetting (args : Args) : Option U64 :=
  (args.get "kernel_hint".toList).bind (fromStrRadix 16 64)

/-- `build_kernel_hint`: a `kernel_hint` that is not a hex `u64` is dropped. -/
def buildKernelHint (builder : Win32KernelBuilder) (args : Args) : Outcome :=
  match kernelHintSetting args with
  | some hint => buildSymstore (builder.withKernelHint hint) args
  | none => buildSymstore builder args

/-- `mul_arr` of `build_page_cache`: each multiplier with its unit suffixes, in
search order. -/
def mulArr : List (Nat × List Str) :=
  [(kb 1, ["kb".toList, "k".toList]), (mb 1, ["mb".toList, "m".toList]),
    (gb 1, ["gb".toList, "g".toList])]

/-- The unit search of `build_page_cache`: over `mul_arr` in order, the first
suffix the lowercased size ends with, with the size that `trim_end_matches`
leaves and the multiplier. -/
def unitSearch (size : Str) : Option (Str × Nat) :=
  ((mulArr.flatMap fun (m, es) => es.map fun e => (m, e)).filterMap fun (m, e) =>
    if endsWith (toLowercase size) e then some (trimEndMatches size e, m) else none).head?

/-- The `Some(vargs)` arm of `build_page_cache`: the cache it configures from the
text after the page segment's first `:`. -/
def pageCacheArgs (bld : Build) (vargs : Str) : Exit LoggedError CacheConfig := do
  let sp := splitn 2 ';' vargs
  let size ← Exit.okOrElse sp[0]? (configError "Failed to parse Page Cache size")
  let time ← Exit.okOrElse sp[1]? (configError "Failed to parse Page Cache validator time")
  let (size, sizeMul) ← Exit.okOrElse (unitSearch size)
    (configError "Invalid Page Cache size unit (or none)!")
  let size ← Exit.okOrElse (fromStrRadix 16 bld.usizeBits size)
    (configError "Failed to parse Page Cache size")
  let size ← Exit.ofOption (bld.mul size (Word.ofNat _ sizeMul))
  let time ← Exit.okOrElse (parseU64 time) (configError "Failed to parse Page Cache validity time")
  pure (.timed size.val time.val)

/-- The `match` of `build_page_cache`, up to the builder update: no page cache
when no `&`-segment contains `page`, the defaults when that segment has no
`:`, and otherwise `pageCacheArgs`. -/
def pageCacheConfig (bld : Build) (mode : Str) : Exit LoggedError (Option CacheConfig) :=
  match (split '&' mode).find? (contains · "page".toList) with
  | some page =>
    match (split ':' page)[1]? with
    | some vargs => some <$> pageCacheArgs bld vargs
    | none => pure (some .defaults)
  | none => pure none

/-- `build_page_cache`. -/
def buildPageCache (bld : Build) (builder : Win32KernelBuilder) (mode : Str) (args : Args) :
    Outcome := do
  let cache ← pageCacheConfig bld mode
  buildKernelHint (builder.withPageCache? cache) args

/-- The `Some(vargs)` arm of `build_vat`: the VAT cache it configures from the
text after the vat segment's first `:`. -/
def vatCacheArgs (bld : Build) (vargs : Str) : Exit LoggedError CacheConfig := do
  let sp := splitn 2 ';' vargs
  let size ← Exit.okOrElse sp[0]? (configError "Failed to parse VAT size")
  let time ← Exit.okOrElse sp[1]? (configError "Failed to parse VAT validator time")
  let size ← Exit.okOrElse (fromStrRadix 16 bld.usizeBits size)
    (configError "Failed to parse VAT size")
  let time ← Exit.okOrElse (parseU64 time) (configError "Failed to parse VAT validity time")
  pure (.timed size.val time.val)

/-- The `match` of `build_vat`, up to the builder update. -/
def vatCacheConfig (bld : Build) (mode : Str) : Exit LoggedError (Option CacheConfig) :=
  match (split '&' mode).find? (contains · "vat".toList) with
  | some vat =>
    match (split ':' vat)[1]? with
    | some vargs => some <$> vatCacheArgs bld vargs
    | none => pure (some .defaults)
  | none => pure none

/-- `build_vat`: parses the VAT cache, then `build_page_cache` on the same mode. -/
def buildVat (bld : Build) (builder : Win32KernelBuilder) (mode : Str) (args : Args) :
    Outcome := do
  let cache ← vatCacheConfig bld mode
  buildPageCache bld (builder.withVatCache? cache) mode args

/-- `build_caches`: `memcache` is `default` when absent. -/
def buildCaches (bld : Build) (builder : Win32KernelBuilder) (args : Args) : Outcome :=
  let mode := (args.get "memcache".toList).getD "default".toList
  if mode = "default".toList then buildKernelHint builder.buildDefaultCaches args
  else if mode = "none".toList then buildKernelHint builder args
  else buildVat bld builder mode args

/-- The scrutinee of `build_dtb`: `dtb` when it is a hex `u64`. -/
def dtbSetting (args : Args) : Option U64 :=
  (args.get "dtb".toList).bind (fromStrRadix 16 64)

/-- `build_dtb`: a `dtb` that is not a hex `u64` is dropped. -/
def buildDtb (bld : Build) (builder : Win32KernelBuilder) (args : Args) : Outcome :=
  match dtbSetting args with
  | some dtb => buildCaches bld (builder.withDtb dtb) args
  | none => buildCaches bld builder args

/-- `build_kernel`: needs a connector, then runs the chain on a fresh builder. -/
def buildKernel (bld : Build) (args : Args) (mem : Option α) : Outcome := do
  let _ ← Exit.okOrElse mem (configError "Must provide memory!")
  buildDtb bld Win32Kernel.builder args

/-! ## What the chain computes

Each function of the chain is a parse of its key followed by a builder update.
The lemmas below say so one function at a time, so that the whole chain is
one memcache parse (`cacheSetting`) and then `configure`, a total update. -/

/-- The settings of `build_kernel_hint`, `build_symstore` and `build_arch`. -/
def Win32KernelBuilder.configureTail (args : Args) (b : Win32KernelBuilder) :
    Win32KernelBuilder :=
  ((b.withKernelHint? (kernelHintSetting args)).withSymbolStore? (symbolStoreSetting args)).withArch?
    (archSetting args)

/-- The caches `build_caches` sets up from the `memcache` value, as the VAT and
the page cache update: both defaults for `default` (and for an absent key),
neither for `none`, and otherwise what `build_vat` and `build_page_cache`
parse, in that order. -/
def cacheSetting (bld : Build) (memcache : Option Str) :
    Exit LoggedError (Option CacheConfig × Option CacheConfig) :=
  let mode := memcache.getD "default".toList
  if mode = "default".toList then pure (some .defaults, some .defaults)
  else if mode = "none".toList then pure (none, none)
  else do
    let vat ← vatCacheConfig bld mode
    let page ← pageCacheConfig bld mode
    pure (vat, page)

/-- Every update of the chain once the caches are parsed. -/
def configure (args : Args) (caches : Option CacheConfig × Option CacheConfig)
    (b : Win32KernelBuilder) : Win32KernelBuilder :=
  (((b.withDtb? (dtbSetting args)).withVatCache? caches.1).withPageCache? caches.2).configureTail args

variable (bld : Build) (b : Win32KernelBuilder) (args : Args) (mode : Str)

theorem buildArch_eq : buildArch b args = .ok (b.withArch? (archSetting args)) := by
  unfold buildArch; split <;> simp_all [buildFinal, Win32KernelBuilder.withArch?,
    Win32KernelBuilder.withArch]

theorem buildSymstore_eq :
    buildSymstore b args = .ok ((b.withSymbolStore? (symbolStoreSetting args)).withArch? (archSetting args)) := by
  unfold buildSymstore; split <;> simp_all [buildArch_eq, Win32KernelBuilder.withSymbolStore?,
    Win32KernelBuilder.withSymbolStore]

theorem buildKernelHint_eq : buildKernelHint b args = .ok (b.configureTail args) := by
  unfold buildKernelHint Win32KernelBuilder.configureTail
  split <;> simp_all [buildSymstore_eq, Win32KernelBuilder.withKernelHint?,
    Win32KernelBuilder.withKernelHint]

theorem buildPageCache_eq :
    buildPageCache bld b mode args =
      pageCacheConfig bld mode >>= fun page => .ok ((b.withPageCache? page).configureTail args) := by
  simp [buildPageCache, buildKernelHint_eq]

theorem buildVat_eq :
    buildVat bld b mode args =
      vatCacheConfig bld mode >>= fun vat => pageCacheConfig bld mode >>= fun page =>
        .ok (((b.withVatCache? vat).withPageCache? page).configureTail args) := by
  simp [buildVat, buildPageCache_eq]

theorem buildCaches_eq :
    buildCaches bld b args =
      cacheSetting bld (args.get "memcache".toList) >>= fun caches =>
        .ok (((b.withVatCache? caches.1).withPageCache? caches.2).configureTail args) := by
  unfold buildCaches cacheSetting
  dsimp only
  split_ifs <;> simp [buildKernelHint_eq, buildVat_eq] <;> rfl

/-! ## Every `Err` is a configuration error -/

/-- **The chain, in one equation.** `build_dtb` parses the memcache value and,
when that succeeds, reaches `build_final` with `configure` applied: no other
key can end the chain early. -/
theorem buildDtb_eq :
    buildDtb bld b args =
      cacheSetting bld (args.get "memcache".toList) >>= fun caches => .ok (configure args caches b) := by
  unfold buildDtb configure
  split <;> simp_all [buildCaches_eq, Win32KernelBuilder.withDtb?, Win32KernelBuilder.withDtb]

/-- A chain that reaches `build_final` reaches it with `configure` applied. -/
theorem buildDtb_eq_ok {b' : Win32KernelBuilder} (h : buildDtb bld b args = .ok b') :
    ∃ caches, b' = configure args caches b :=
  (Exit.bind_eq_ok.1 ((buildDtb_eq bld b args).symm.trans h)).imp fun _ hc => (Exit.ok.inj hc.2).symm

theorem configure_dtb (caches : Option CacheConfig × Option CacheConfig) :
    (configure args caches b).dtb = (dtbSetting args).or b.dtb := rfl

theorem configure_arch (caches : Option CacheConfig × Option CacheConfig) :
    (configure args caches b).arch = (archSetting args).or b.arch := rfl

theorem configure_kernelHint (caches : Option CacheConfig × Option CacheConfig) :
    (configure args caches b).kernelHint = (kernelHintSetting args).or b.kernelHint := rfl

/-- The plugin's arguments holding a dtb printed with `{}` and a kernel hint
printed with `{:X}`. -/
def printedArgs : Args :=
  .ofList [("dtb".toList, Types.Pointer64.fmtDisplay (⟨0x1ab000⟩ : Types.Pointer64 Unit)),
    ("kernel_hint".toList, Types.Pointer64.fmtUpperHex (⟨0xfffff80000000000⟩ : Types.Pointer64 Unit))]

/-- **A printed pointer configures its address.** `dtb` and `kernel_hint`
are read with `u64::from_str_radix(_, 16)`, which takes back what any of
`Pointer64`'s formatting impls prints: whichever impls printed the two
values, a chain that reaches `build_final` has set the dtb and the kernel
hint to exactly those addresses. -/
theorem buildDtb_printed_pointers {T : Type} (b' : Win32KernelBuilder)
    (dtb hint : Types.Pointer64 T) (fmtDtb fmtHint : Types.Pointer64 T → Str)
    (hfmtDtb : fmtDtb ∈ Types.Pointer64.formatters) (hfmtHint : fmtHint ∈ Types.Pointer64.formatters)
    (hdtb : args.get "dtb".toList = some (fmtDtb dtb))
    (hhint : args.get "kernel_hint".toList = some (fmtHint hint))
    (h : buildDtb bld b args = .ok b') :
    b'.dtb = some dtb.address ∧ b'.kernelHint = some hint.address := by
  have hd : dtbSetting args = some dtb.address := by
    rw [dtbSetting, hdtb, Option.some_bind, Types.Pointer64.fromStrRadix_formatters dtb _ hfmtDtb]
  have hk : kernelHintSetting args = some hint.address := by
    rw [kernelHintSetting, hhint, Option.some_bind,
      Types.Pointer64.fromStrRadix_formatters hint _ hfmtHint]
  obtain ⟨caches, rfl⟩ := buildDtb_eq_ok bld b args h
  exact ⟨by rw [configure_dtb, hd]; rfl, by rw [configure_kernelHint, hk]; rfl⟩

theorem buildDtb_printed_pointers_printedArgs :
    ∃ b', buildDtb .debug64 Win32Kernel.builder printedArgs = .ok b' ∧
      b'.dtb = some 0x1ab000 ∧ b'.kernelHint = some 0xfffff80000000000 :=
  have h : buildDtb .debug64 Win32Kernel.builder printedArgs =
      .ok { Win32Kernel.builder.buildDefaultCaches with
        dtb := some 0x1ab000, kernelHint := some 0xfffff80000000000 } := by decide
  ⟨_, h, buildDtb_printed_pointers .debug64 _ printedArgs _ ⟨0x1ab000⟩ ⟨0xfffff80000000000⟩ _ _
    (by simp [Types.Pointer64.formatters]) (by simp [Types.Pointer64.formatters]) rfl rfl h⟩

end Memflow.Win32
