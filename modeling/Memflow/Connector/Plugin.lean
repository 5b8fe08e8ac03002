import Memflow.Rust.Arith

/-!
# Memflow — the connector plugin inventory

`memflow_core`'s `ConnectorInventory` scans directories for shared libraries,
keeps those that export a `MEMFLOW_CONNECTOR` descriptor of the current
version, and creates connector instances by name through the descriptor's
factory.

The host the inventory runs on is a parameter (`Host`): which paths are
directories, what a directory lists (the listing, and each entry, may fail
to be read), which files load as libraries and what each library exports,
and the `PATH` variable. A factory is a function of the connector arguments
and of the state of the world (`σ`) it runs in, so that calling it, and how
often, is visible in the state a call leaves behind.

## Results

* `addDir_connectors`, `addDir_ok_iff` — what one `add_dir` adds to the
  inventory, and that it fails exactly when the directory cannot be read.
* `addDirs_connectors` — after any sequence of `add_dir` calls over readable
  listings the inventory holds, in load order, exactly the connectors of
  the files for which `Connector::try_with` succeeds.
* `createConnector_not_found`, `createConnector_first` — `create_connector`
  calls no factory when no connector has the name, and otherwise the first
  such connector's factory exactly once, never passing its error on.
* `inventory_contract` — the above over a whole run: building the inventory,
  then creating one connector.
* `tryWith_connectorLibrary` — which libraries built with `#[connector]`
  `try_with` accepts.
* `state_lock_balance` — the QEMU bridge's `state` returns only with QEMU's
  iothread lock released.
-/

namespace Memflow.Plugin

/-! ## The host -/

/-- A path, as its components. -/
abbrev Path := List String

/-- `path.push(p)` for a relative `p`. -/
def Path.push (path p : Path) : Path := path ++ p

/-- Modelled from the spec: the `Error` of `memflow_core` (its `error.rs` is
not among the sources), with the variants the inventory builds. -/
inductive Error
  | io (msg : String)
  | connector (msg : String)
  | other (msg : String)
deriving DecidableEq, Repr

/-- Modelled from the spec: `ConnectorArgs`, a bag of key-value pairs. -/
abbrev ConnectorArgs := List (String × String)

/-- `MEMFLOW_CONNECTOR_VERSION`. -/
def memflowConnectorVersion : Int := 1

/-- The record a plugin exports as `MEMFLOW_CONNECTOR`, with a factory of
providers `P` that runs in a world of state `σ`. -/
structure ConnectorDescriptor (σ P : Type) where
  connectorVersion : Int
  name : String
  factory : ConnectorArgs → σ → Except Error P × σ

/-- A loaded shared library: the descriptors its symbols hold. -/
structure Library (σ P : Type) where
  get : String → Option (ConnectorDescriptor σ P)

/-- The host: its directories, their listings (`none` where a listing or an
entry cannot be read), the libraries its files load as, and `PATH` as
`split_paths` returns it. -/
structure Host (σ P : Type) where
  isDir : Path → Bool
  readDir : Path → Option (List (Option Path))
  libraryNew : Path → Option (Library σ P)
  pathVar : Option (List Path)

variable {σ P : Type}

/-! ## Connectors -/

/-- A connector plugin library, as `Connector` stores it. -/
structure Connector (σ P : Type) where
  library : Library σ P
  name : String
  factory : ConnectorArgs → σ → Except Error P × σ

/-- A provider bundled with the library it came from. -/
structure ConnectorInstance (σ P : Type) where
  connector : P
  library : Library σ P

namespace Connector

/-- `Connector::try_with`: load the file, read its descriptor, check its version. -/
def tryWith (h : Host σ P) (path : Path) : Except Error (Connector σ P) := do
  let some library := h.libraryNew path | throw (.connector "unable to load library")
  let some desc := library.get "MEMFLOW_CONNECTOR" | throw (.connector "connector descriptor not found")
  if desc.connectorVersion ≠ memflowConnectorVersion then
    throw (.connector "connector version mismatch")
  pure ⟨library, desc.name, desc.factory⟩

/-- `Connector::create`: call the factory once; its error is replaced by a
fixed one, which holds no data of the library. -/
def create (c : Connector σ P) (args : ConnectorArgs) (s : σ) :
    Except Error (ConnectorInstance σ P) × σ :=
  match c.factory args s with
  | (.error _, s') => (.error (.connector "Failed to create a connector"), s')
  | (.ok connector, s') => (.ok ⟨connector, c.library⟩, s')

/-- `try_with` succeeds exactly on a file that loads as a library exporting
`MEMFLOW_CONNECTOR` with the current version, and keeps its name and factory. -/
theorem tryWith_eq_ok {h : Host σ P} {path : Path} {c : Connector σ P} :
    tryWith h path = .ok c ↔ ∃ library desc, h.libraryNew path = some library ∧
      library.get "MEMFLOW_CONNECTOR" = some desc ∧
      desc.connectorVersion = memflowConnectorVersion ∧ c = ⟨library, desc.name, desc.factory⟩ := by
  unfold tryWith
  rcases hl : h.libraryNew path with _ | library
  · simp [throw, throwThe, MonadExceptOf.throw]
  rcases hd : library.get "MEMFLOW_CONNECTOR" with _ | desc
  · simp [hd, throw, throwThe, MonadExceptOf.throw]
  by_cases hv : desc.connectorVersion = memflowConnectorVersion
  · simpa [hd, hv, pure, Except.pure, bind, Except.bind] using eq_comm
  · simp [hd, hv, throw, throwThe, MonadExceptOf.throw]

end Connector

/-! ## The plugin side -/

/-- `connector_factory`, as `#[connector]` generates it: the plugin
function's connector, boxed, or its error. -/
def connectorFactory {Q : Type} (box : Q → P) (func : ConnectorArgs → σ → Except Error Q × σ) :
    ConnectorArgs → σ → Except Error P × σ :=
  fun args s =>
    match func args s with
    | (.ok connector, s') => (.ok (box connector), s')
    | (.error e, s') => (.error e, s')

/-- A library built with `#[connector(name = ...)]`, with the crate's
`plugin` feature on or off, against a `memflow_core` whose
`MEMFLOW_CONNECTOR_VERSION` is `version`: with the feature it exports
`MEMFLOW_CONNECTOR` holding that version, the name and `connector_factory`;
without it, no symbol at all. -/
def connectorLibrary {Q : Type} (plugin : Bool) (version : Int) (name : String) (box : Q → P)
    (func : ConnectorArgs → σ → Except Error Q × σ) : Library σ P :=
  ⟨fun sym => if plugin ∧ sym = "MEMFLOW_CONNECTOR" then
    some ⟨version, name, connectorFactory box func⟩ else none⟩

/-- **Which `#[connector]` plugins `try_with` accepts.** A library built
without the `plugin` feature exports no descriptor, and one built against
another connector version is rejected; any other is loaded under the macro's
name with `connector_factory` as its factory. -/
theorem tryWith_connectorLibrary {Q : Type} {h : Host σ P} {path : Path} {plugin : Bool}
    {version : Int} {name : String} {box : Q → P} {func : ConnectorArgs → σ → Except Error Q × σ}
    (hlib : h.libraryNew path = some (connectorLibrary plugin version name box func)) :
    Connector.tryWith h path =
      if !plugin then .error (.connector "connector descriptor not found")
      else if version ≠ memflowConnectorVersion then .error (.connector "connector version mismatch")
      else .ok ⟨connectorLibrary plugin version name box func, name, connectorFactory box func⟩ := by
  rw [Connector.tryWith, hlib]
  cases plugin
  · rfl
  · by_cases hv : version = memflowConnectorVersion <;>
      simp [connectorLibrary, hv, throw, throwThe, MonadExceptOf.throw, pure, Except.pure,
        bind, Except.bind]

/-! ## The inventory -/

/-- `ConnectorInventory`. -/
structure ConnectorInventory (σ P : Type) where
  connectors : List (Connector σ P)

namespace ConnectorInventory

/-- The loop of `add_dir` over a listing: push the connector of every entry
that loads; stop at the first entry that cannot be read, keeping what was
pushed before it. -/
def addEntries (h : Host σ P) : ConnectorInventory σ P → List (Option Path) →
    ConnectorInventory σ P × Except Error Unit
  | inv, [] => (inv, .ok ())
  | inv, none :: _ => (inv, .error (.io "unable to read directory entry"))
  | inv, some path :: entries =>
    match Connector.tryWith h path with
    | .ok connector => addEntries h ⟨inv.connectors ++ [connector]⟩ entries
    | .error _ => addEntries h inv entries

/-- `add_dir`: the inventory after the call, and what the call returns. -/
def addDir (h : Host σ P) (inv : ConnectorInventory σ P) (dir : Path) :
    ConnectorInventory σ P × Except Error Unit :=
  if !h.isDir dir then (inv, .error (.io "invalid path argument"))
  else match h.readDir dir with
    | none => (inv, .error (.io "unable to read directory"))
    | some entries => addEntries h inv entries

/-- `add_dir` over each directory in turn, its errors dropped (`.ok()`). -/
def addDirs (h : Host σ P) (inv : ConnectorInventory σ P) (dirs : List Path) :
    ConnectorInventory σ P :=
  dirs.foldl (fun inv dir => (inv.addDir h dir).1) inv

/-- `ConnectorInventory::with_path`. -/
def withPath (h : Host σ P) (path : Path) : Except Error (ConnectorInventory σ P) :=
  match (ConnectorInventory.mk []).addDir h (Path.push [] path) with
  | (_, .error e) => .error e
  | (ret, .ok ()) => .ok ret

/-- The directory `try_new` scans under each `PATH` entry. -/
def memflowDir : Path := ["memflow"]

/-- `ConnectorInventory::try_new`. -/
def tryNew (h : Host σ P) : Except Error (ConnectorInventory σ P) :=
  match h.pathVar with
  | some paths => .ok (addDirs h ⟨[]⟩ (paths.map (·.push memflowDir)))
  | none => .error (.other "PATH is not set")

/-- `create_connector`: the first connector of that name creates the instance. -/
def createConnector (inv : ConnectorInventory σ P) (name : String) (args : ConnectorArgs)
    (s : σ) : Except Error (ConnectorInstance σ P) × σ :=
  match inv.connectors.find? (·.name == name) with
  | none => (.error (.connector "connector not found"), s)
  | some connector => connector.create args s

/-- `create_connector_default`. -/
def createConnectorDefault (inv : ConnectorInventory σ P) (name : String) (s : σ) :
    Except Error (ConnectorInstance σ P) × σ :=
  inv.createConnector name [] s

end ConnectorInventory

/-! ## What a scan loads -/

/-- The connectors of the files whose `try_with` succeeds, in order. -/
def loaded (h : Host σ P) (paths : List Path) : List (Connector σ P) :=
  paths.filterMap fun path => (Connector.tryWith h path).toOption

@[simp] theorem loaded_append (h : Host σ P) (ps qs : List Path) :
    loaded h (ps ++ qs) = loaded h ps ++ loaded h qs :=
  List.filterMap_append ..

/-- The files `add_dir` reads in `dir`: the entries of its listing up to the
first one that cannot be read (all of them when every entry is read), and
none when `dir` is no directory or cannot be listed. -/
def Host.scanned (h : Host σ P) (dir : Path) : List Path :=
  if h.isDir dir then (((h.readDir dir).getD []).takeWhile (·.isSome)).filterMap id else []

/-- A listing of `dir` that `add_dir` reads to its end. -/
def Host.Readable (h : Host σ P) (dir : Path) : Prop :=
  h.isDir dir ∧ ∃ entries, h.readDir dir = some entries ∧ none ∉ entries

/-- A connector is loaded from a list of files only as the connector of one
of them whose `try_with` succeeds. -/
theorem mem_loaded {h : Host σ P} {paths : List Path} {c : Connector σ P} :
    c ∈ loaded h paths ↔ ∃ path ∈ paths, Connector.tryWith h path = .ok c := by
  simp only [loaded, List.mem_filterMap]
  refine exists_congr fun path => and_congr_right fun _ => ?_
  cases Connector.tryWith h path <;> simp [Except.toOption]

/-- A directory listed to its end is scanned whole. -/
theorem scanned_of_readable {h : Host σ P} {dir : Path} {entries : List (Option Path)}
    (hdir : h.isDir dir) (hread : h.readDir dir = some entries) (hn : none ∉ entries) :
    h.scanned dir = entries.filterMap id := by
  have hall : ∀ e ∈ entries, e.isSome := fun e he => by
    cases e with
    | none => exact absurd he hn
    | some _ => rfl
  simp [Host.scanned, hdir, hread, List.takeWhile_eq_self_iff.2 hall]

namespace ConnectorInventory

variable (h : Host σ P)

theorem addEntries_eq (inv : ConnectorInventory σ P) (entries : List (Option Path)) :
    addEntries h inv entries =
      (⟨inv.connectors ++ loaded h ((entries.takeWhile (·.isSome)).filterMap id)⟩,
        if none ∈ entries then .error (.io "unable to read directory entry") else .ok ()) := by
  induction entries generalizing inv with
  | nil => simp [addEntries, loaded]
  | cons e entries ih =>
    cases e with
    | none => simp [addEntries, loaded]
    | some path =>
      cases hc : Connector.tryWith h path <;> simp [addEntries, hc, ih, loaded, Except.toOption]

/-- **One `add_dir`.** It appends the connectors of the files it reads, in
listing order; a file that fails to load adds nothing. -/
theorem addDir_connectors (inv : ConnectorInventory σ P) (dir : Path) :
    (inv.addDir h dir).1.connectors = inv.connectors ++ loaded h (h.scanned dir) := by
  unfold addDir Host.scanned
  cases h.isDir dir
  · simp [loaded]
  · rcases h.readDir dir with _ | entries <;> simp [addEntries_eq, loaded]

/-- `add_dir` returns `Ok` exactly on a directory whose listing it reads to
the end: no file that fails to load makes it fail. -/
theorem addDir_ok_iff (inv : ConnectorInventory σ P) (dir : Path) :
    (inv.addDir h dir).2 = .ok () ↔ h.Readable dir := by
  unfold addDir Host.Readable
  cases h.isDir dir
  · simp
  · rcases h.readDir dir with _ | entries
    · simp
    · by_cases hn : none ∈ entries <;> simp [addEntries_eq, hn]

/-- **Every sequence of `add_dir` calls.** -/
theorem addDirs_connectors (inv : ConnectorInventory σ P) (dirs : List Path) :
    (addDirs h inv dirs).connectors = inv.connectors ++ loaded h (dirs.flatMap h.scanned) := by
  induction dirs generalizing inv with
  | nil => simp [addDirs, loaded]
  | cons dir dirs ih =>
    have := ih (inv.addDir h dir).1
    simp only [addDirs, List.foldl_cons] at this ⊢
    simp [this, addDir_connectors]

theorem withPath_connectors {path : Path} {inv : ConnectorInventory σ P}
    (hw : withPath h path = .ok inv) : inv.connectors = loaded h (h.scanned path) := by
  unfold withPath at hw
  rcases hres : (ConnectorInventory.mk []).addDir h (Path.push [] path) with ⟨ret, _ | ⟨⟩⟩ <;>
    rw [hres] at hw <;> cases hw
  simpa [Path.push] using congrArg (·.1.connectors) hres ▸ addDir_connectors h ⟨[]⟩ path

theorem tryNew_connectors {inv : ConnectorInventory σ P} (ht : tryNew h = .ok inv) :
    inv.connectors = loaded h (((h.pathVar.getD []).map (·.push memflowDir)).flatMap h.scanned) := by
  unfold tryNew at ht
  rcases hp : h.pathVar with _ | paths <;> rw [hp] at ht <;> cases ht
  simp [addDirs_connectors]

/-- `with_path` returns `Ok` exactly on a directory it reads to the end. -/
theorem withPath_ok_iff (path : Path) : (∃ inv, withPath h path = .ok inv) ↔ h.Readable path := by
  rw [← addDir_ok_iff h ⟨[]⟩ path, withPath, Path.push, List.nil_append]
  rcases (ConnectorInventory.mk []).addDir h path with ⟨ret, _ | ⟨⟩⟩ <;> simp

/-- `try_new` returns `Ok` exactly when `PATH` is set: unreadable `memflow`
directories under it are skipped. -/
theorem tryNew_ok_iff : (∃ inv, tryNew h = .ok inv) ↔ h.pathVar.isSome := by
  unfold tryNew
  cases h.pathVar <;> simp

/-! ## Creating a connector -/

theorem create_eq (c : Connector σ P) (args : ConnectorArgs) (s : σ) :
    c.create args s =
      (((c.factory args s).1.mapError fun _ => .connector "Failed to create a connector").map
        (⟨·, c.library⟩), (c.factory args s).2) := by
  unfold Connector.create
  rcases c.factory args s with ⟨_ | _, s'⟩ <;> rfl

/-- With no connector of that name no factory runs: the world is unchanged. -/
theorem createConnector_not_found (inv : ConnectorInventory σ P) (name : String)
    (args : ConnectorArgs) (s : σ) (hname : ∀ c ∈ inv.connectors, c.name ≠ name) :
    inv.createConnector name args s = (.error (.connector "connector not found"), s) := by
  rw [createConnector, List.find?_eq_none.2 (by simpa using hname)]

/-- The first connector of that name creates the instance. -/
theorem createConnector_first {inv : ConnectorInventory σ P} {pre post : List (Connector σ P)}
    {c : Connector σ P} (hinv : inv.connectors = pre ++ c :: post)
    (hpre : ∀ c' ∈ pre, c'.name ≠ c.name) (args : ConnectorArgs) (s : σ) :
    inv.createConnector c.name args s = c.create args s := by
  rw [createConnector, hinv, List.find?_append, List.find?_eq_none.2 (by simpa using hpre)]
  simp

end ConnectorInventory

/-! ## Runs -/

/-- How an inventory is made. -/
inductive Creation
  | withPath (path : Path)
  | tryNew

/-- The inventory a creation returns. -/
def Creation.create (h : Host σ P) : Creation → Except Error (ConnectorInventory σ P)
  | withPath path => ConnectorInventory.withPath h path
  | tryNew => ConnectorInventory.tryNew h

/-- The directories a creation scans. -/
def Creation.dirs (h : Host σ P) : Creation → List Path
  | withPath path => [path]
  | tryNew => (h.pathVar.getD []).map (·.push ConnectorInventory.memflowDir)

/-- A run: the inventory is made, then `add_dir` is called on each of `dirs`. -/
def run (h : Host σ P) (c : Creation) (dirs : List Path) : Except Error (ConnectorInventory σ P) :=
  (c.create h).map (ConnectorInventory.addDirs h · dirs)

theorem run_connectors (h : Host σ P) {c : Creation} {dirs : List Path}
    {inv : ConnectorInventory σ P} (hrun : run h c dirs = .ok inv) :
    inv.connectors = loaded h ((c.dirs h ++ dirs).flatMap h.scanned) := by
  unfold run at hrun
  rcases hc : c.create h with _ | inv0 <;> rw [hc] at hrun <;> cases hrun
  have h0 : inv0.connectors = loaded h ((c.dirs h).flatMap h.scanned) := by
    cases c with
    | withPath path => simpa [Creation.dirs] using ConnectorInventory.withPath_connectors h hc
    | tryNew => exact ConnectorInventory.tryNew_connectors h hc
  simp [ConnectorInventory.addDirs_connectors, h0]

/-- **The inventory contract.** `try_with` accepts exactly the files that load
as a library exporting a descriptor of the current version; `with_path`
succeeds on a directory it reads to the end and `try_new` when `PATH` is
set. After every run the inventory holds, in load order, exactly the
connectors of the scanned files that `try_with` accepts; `add_dir` fails
only on a directory it cannot read to the end; and `create_connector` runs
no factory for a name no connector has, and otherwise runs the first such
connector's factory once and replaces any error it returns by a fixed one. -/
theorem inventory_contract (h : Host σ P) (c : Creation) (dirs : List Path) :
    (∀ path conn, Connector.tryWith h path = .ok conn ↔ ∃ library desc,
      h.libraryNew path = some library ∧ library.get "MEMFLOW_CONNECTOR" = some desc ∧
      desc.connectorVersion = memflowConnectorVersion ∧ conn = ⟨library, desc.name, desc.factory⟩) ∧
    (∀ path, (∃ inv, ConnectorInventory.withPath h path = .ok inv) ↔ h.Readable path) ∧
    ((∃ inv, ConnectorInventory.tryNew h = .ok inv) ↔ h.pathVar.isSome) ∧
    ∀ inv : ConnectorInventory σ P, run h c dirs = .ok inv →
    inv.connectors = loaded h ((c.dirs h ++ dirs).flatMap h.scanned) ∧
    (∀ dir, (inv.addDir h dir).2 = .ok () ↔ h.Readable dir) ∧
    (∀ name args s, (∀ c ∈ inv.connectors, c.name ≠ name) →
      inv.createConnector name args s = (.error (.connector "connector not found"), s)) ∧
    (∀ pre c post args s, inv.connectors = pre ++ c :: post → (∀ c' ∈ pre, c'.name ≠ c.name) →
      (inv.createConnector c.name args s).2 = (c.factory args s).2 ∧
      (∀ p, (c.factory args s).1 = .ok p →
        (inv.createConnector c.name args s).1 = .ok ⟨p, c.library⟩) ∧
      (∀ e, (c.factory args s).1 = .error e →
        (inv.createConnector c.name args s).1 = .error (.connector "Failed to create a connector"))) := by
  refine ⟨fun _ _ => Connector.tryWith_eq_ok, ConnectorInventory.withPath_ok_iff h,
    ConnectorInventory.tryNew_ok_iff h, fun inv hrun => ⟨run_connectors h hrun,
      fun dir => inv.addDir_ok_iff h dir, fun name args s => inv.createConnector_not_found name args s,
      ?_⟩⟩
  intro pre c post args s hinv hpre
  rw [ConnectorInventory.createConnector_first hinv hpre, ConnectorInventory.create_eq]
  exact ⟨rfl, fun p hp => by rw [hp]; rfl, fun e he => by rw [he]; rfl⟩

/-- A factory that counts its calls. -/
def demoFactory : ConnectorArgs → Nat → Except Error Unit × Nat := fun _ n => (.ok (), n + 1)

/-- A library built with `#[connector(name = "dummy")]` and the `plugin`
feature against the current `memflow_core`. -/
def demoLibrary : Library Nat Unit := connectorLibrary true memflowConnectorVersion "dummy" id demoFactory

/-- The same plugin built against connector version 0. -/
def oldLibrary : Library Nat Unit := connectorLibrary true 0 "old" id demoFactory

/-- A directory `plugins` with both libraries and a file that is no library. -/
def demoHost : Host Nat Unit where
  isDir dir := dir == ["plugins"]
  readDir dir :=
    if dir = ["plugins"] then
      some [some ["plugins", "dummy.so"], some ["plugins", "old.so"], some ["plugins", "notes.txt"]]
    else none
  libraryNew path :=
    if path = ["plugins", "dummy.so"] then some demoLibrary
    else if path = ["plugins", "old.so"] then some oldLibrary else none
  pathVar := none

/-- The inventory of `plugins`: the plugin of the current version only. -/
def demoInventory : ConnectorInventory Nat Unit :=
  ⟨[⟨demoLibrary, "dummy", connectorFactory id demoFactory⟩]⟩

theorem inventory_contract_demo :
    run demoHost (.withPath ["plugins"]) [] = .ok demoInventory ∧
    demoInventory.connectors =
      loaded demoHost (((Creation.withPath ["plugins"]).dirs demoHost ++ []).flatMap demoHost.scanned) :=
  have hrun : run demoHost (.withPath ["plugins"]) [] = .ok demoInventory := rfl
  ⟨hrun, ((inventory_contract demoHost (.withPath ["plugins"]) []).2.2.2 demoInventory hrun).1⟩

theorem tryWith_connectorLibrary_oldLibrary :
    demoHost.libraryNew ["plugins", "old.so"] = some (connectorLibrary true 0 "old" id demoFactory) ∧
    Connector.tryWith demoHost ["plugins", "old.so"] = .error (.connector "connector version mismatch") :=
  have hlib : demoHost.libraryNew ["plugins", "old.so"] =
      some (connectorLibrary true 0 "old" id demoFactory) := rfl
  ⟨hlib, (tryWith_connectorLibrary hlib).trans rfl⟩

end Memflow.Plugin

/-! ## A connector plugin: the QEMU bridge's `state`

`flow-qemu-bridge`'s `cpu.rs` holds one function, `state`, still a stub: it
prints `read_registers()`, takes QEMU's iothread lock through the hook
`QEMU_MUTEX_LOCK_IOTHREAD_IMPL`, and releases it through
`QEMU_MUTEX_UNLOCK_IOTHREAD`. The hooks are `Option`s that the bridge fills
when it resolves QEMU's symbols, and `state` `unwrap`s both. It is modelled
by what it does to the outside, in order, and the lock by how many times it
is held after those effects. -/

namespace Memflow.Qemu

open Rust

/-- `crate::native`'s hooks that `state` calls (not among the sources): each
one resolved or not. -/
structure Natives where
  qemuMutexLockIothreadImpl : Bool
  qemuMutexUnlockIothread : Bool
deriving DecidableEq, Repr

/-- What `state` does to the outside. -/
inductive Effect
  | eprintln (text : String)
  | lockIothread (file : String) (line : Nat)
  | unlockIothread
deriving DecidableEq, Repr

/-- `state()`: its result and its effects. `CString::new("cpu.rs")` has no
NUL byte, so that `unwrap` does not fail; an unresolved hook's does. -/
def state (natives : Natives) : Exit Unit Unit × List Effect :=
  let printed := [Effect.eprintln "read_registers()"]
  if natives.qemuMutexLockIothreadImpl then
    let locked := printed ++ [.lockIothread "cpu.rs" 15]
    if natives.qemuMutexUnlockIothread then (.ok (), locked ++ [.unlockIothread])
    else (.panic, locked)
  else (.panic, printed)

/-- How many times the iothread lock is held after `effects`, when it was
held `held` times before. -/
def heldAfter : Nat → List Effect → Nat
  | held, [] => held
  | held, .lockIothread _ _ :: effects => heldAfter (held + 1) effects
  | held, .unlockIothread :: effects => heldAfter (held - 1) effects
  | held, .eprintln _ :: effects => heldAfter held effects

/-- **`state` returns only with the lock released.** It returns `Ok` exactly
when both hooks are resolved, and whatever the lock's state before, it
leaves it unchanged except when it panics at an unresolved unlock hook,
with the lock taken. -/
theorem state_lock_balance (natives : Natives) (held : Nat) :
    ((state natives).1 = .ok () ↔
        natives.qemuMutexLockIothreadImpl ∧ natives.qemuMutexUnlockIothread) ∧
      heldAfter held (state natives).2 =
        if natives.qemuMutexLockIothreadImpl && !natives.qemuMutexUnlockIothread then held + 1
        else held := by
  obtain ⟨_ | _, _ | _⟩ := natives <;> simp [state, heldAfter]

end Memflow.Qemu
