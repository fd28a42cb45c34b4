/-
  Xlxd.Server.Api10 — the daemon's `GET /1.0` and `PUT /1.0` handlers, `api10Get` and
  `api10Put`.

  `api10Get` answers every caller with `api_compat` and whether it is trusted. To a
  trusted caller it adds the environment (the kernel's `uname` strings, listen addresses,
  CPU and memory counts, the storage driver) and a copy of the server config, in which
  `core.trust_password` is replaced by `true`. Each failing read ends the handler with
  `InternalError`.

  `api10Put` walks `req.Config` in the order the range visits it. A key that
  `ConfigKeyIsValid` rejects ends the handler with `BadRequest`. A failing daemon call
  ends it with `InternalError`, and a value that is not a string panics at `value.(string)`.
  Every other key is handed to its setter: the password, the LVM volume group (then
  storage set up again), the LVM thin pool, the ZFS pool (then storage set up again), the
  HTTPS address (listener moved, then stored), or `ConfigValueSet` (and a prune signal for
  `images.remote_cache_expiry`). Nothing undoes the keys already applied when a later one
  fails.

  The daemon's calls are not in this repository's sources: `Backend` takes them as they
  are, each a state change that may fail. `shared.ReadToJSON`'s result is the handler's
  input. A handler returns a `Response` (lxd's response.go: `SyncResponse`, and
  `BadRequest` / `InternalError` with their HTTP codes) or panics (`Outcome.panic`).
-/

import Xlxd.Go.Map

namespace Xlxd.Server

open Go

/-! ## Responses -/

/-- A JSON value as `encoding/json` decodes it into `interface{}`; only a string's text is
ever read. -/
inductive JVal where
  | null
  | bool (b : Bool)
  | num (literal : String)
  | str (s : String)
  | arr
  | obj
  deriving DecidableEq, Repr

/-- The dynamic type Go names in a failed type assertion. -/
def JVal.goType : JVal → String
  | .null => "nil"
  | .bool _ => "bool"
  | .num _ => "float64"
  | .str _ => "string"
  | .arr => "[]interface \x7b\x7d"
  | .obj => "map[string]interface \x7b\x7d"

inductive Response (β : Type) where
  | sync (success : Bool) (metadata : Option β)
  | error (code : Nat) (err : String)
  deriving DecidableEq, Repr

def emptySyncResponse {β : Type} : Response β := .sync true none

def badRequest {β : Type} (err : String) : Response β := .error 400 err

def internalError {β : Type} (err : String) : Response β := .error 500 err

/-- How a handler ends: the response it returns, or a run-time panic. -/
inductive Outcome (β : Type) where
  | ret (r : Response β)
  | panic (msg : String)
  deriving DecidableEq, Repr

/-! ## `api10Get` -/

/-- `syscall.Utsname`, the fields `api10Get` reads (each `[65]int8`). -/
structure Utsname where
  sysname : List Int8
  release : List Int8
  machine : List Int8

/-- The loop turning a `Utsname` field into a string: each element before the first zero
appended as `string(byte(c))`, the character whose code is that byte. -/
def utsLoop (acc : String) : List Int8 → String
  | [] => acc
  | c :: cs => if c = 0 then acc else utsLoop (acc ++ String.singleton (Char.ofNat c.toUInt8.toNat)) cs

/-- `int(x)` of a `uint64`: two's complement in 64 bits. -/
def goInt (x : UInt64) : Int := if x.toNat < UInt64.size / 2 then x.toNat else (x.toNat : Int) - UInt64.size

/-- What `api10Get` reads outside the daemon: `uname`, `/proc/cpuinfo` (physical CPUs and
cores), `/proc/meminfo` (`MemTotal`), the pid, liblxc's version, and the build's
`shared.APICompat` and `shared.Version`. -/
structure Host where
  uname : Except String Utsname
  cpuinfo : Except String (Int × Int)
  meminfo : Except String UInt64
  pid : Nat
  lxcVersion : String
  apiCompat : Nat
  version : String

/-- What the daemon holds for `api10Get`: its `architectures`, its storage driver's name and
version, `ListenAddresses()` and `ConfigValuesGet()` (the server config, as the copy loop
visits it). -/
structure Daemon where
  architectures : List Int
  storageTypeName : String
  storageTypeVersion : String
  listenAddresses : Except String (List String)
  configValues : Except String (Jmap String)

/-- A request as the handlers read it: whether the trust collaborator (`d.isTrustedClient`)
trusts its caller. -/
structure Request where
  trusted : Bool

/-- The `environment` map, its keys as fields. -/
structure Environment where
  addresses : List String
  architectures : List Int
  driver : String
  driverVersion : String
  kernel : String
  kernelArchitecture : String
  kernelVersion : String
  storage : String
  storageVersion : String
  server : String
  serverPid : Nat
  serverVersion : String
  processors : String
  cores : String
  memory : String
  deriving DecidableEq

/-- The response body, its keys as fields; `environment` and `config` only for a trusted
caller. -/
structure Api10Body where
  apiCompat : Nat
  auth : String
  environment : Option Environment
  config : Option (Jmap JVal)
  deriving DecidableEq

/-- One iteration of the server config copy loop. -/
def copyConfigValue (config : Jmap JVal) (e : String × String) : Jmap JVal :=
  if e.1 = "core.trust_password" then config.set e.1 (.bool true) else config.set e.1 (.str e.2)

/-- The reads of `api10Get`'s trusted branch before the server config, its first failing
read as the error. -/
def api10Environment (h : Host) (d : Daemon) : Except String Environment := do
  let uname ← h.uname
  let kernel := utsLoop "" uname.sysname
  let kernelVersion := utsLoop "" uname.release
  let kernelArchitecture := utsLoop "" uname.machine
  let addresses ← d.listenAddresses
  let cpuinfo ← h.cpuinfo
  let meminfo ← h.meminfo
  let env : Environment :=
    { addresses, architectures := d.architectures, driver := "lxc", driverVersion := h.lxcVersion,
      kernel, kernelArchitecture, kernelVersion, storage := d.storageTypeName,
      storageVersion := d.storageTypeVersion, server := "lxd", serverPid := h.pid,
      serverVersion := h.version, processors := toString cpuinfo.1, cores := toString cpuinfo.2,
      memory := toString (goInt meminfo) }
  pure env

/-- The trusted branch of `api10Get`. -/
def api10GetTrusted (h : Host) (d : Daemon) : Except String Api10Body := do
  let env ← api10Environment h d
  let serverConfig ← d.configValues
  let config := serverConfig.entries.foldl copyConfigValue Jmap.empty
  pure ⟨h.apiCompat, "trusted", some env, some config⟩

def api10Get (h : Host) (d : Daemon) (r : Request) : Response Api10Body :=
  if r.trusted then
    match api10GetTrusted h d with
    | .ok body => .sync true (some body)
    | .error err => internalError err
  else .sync true (some ⟨h.apiCompat, "untrusted", none, none⟩)

/-! ## `api10Put` -/

/-- `apiPut`: the decoded request body. -/
structure ApiPut where
  config : Jmap JVal

/-- The daemon calls `api10Put` makes, over the daemon's state `σ`; each leaves a state and
may fail with an error. `prune` is the send on `d.pruneChan`. -/
structure Backend (σ : Type) where
  configKeyIsValid : String → Bool
  passwordSet : String → ExceptT String (StateM σ) Unit
  storageLVMSetVolumeGroupNameConfig : String → ExceptT String (StateM σ) Unit
  storageLVMSetThinPoolNameConfig : String → ExceptT String (StateM σ) Unit
  storageZFSSetPoolNameConfig : String → ExceptT String (StateM σ) Unit
  setupStorageDriver : ExceptT String (StateM σ) Unit
  configValueGet : String → ExceptT String (StateM σ) String
  updateHTTPsPort : String → String → ExceptT String (StateM σ) Unit
  configValueSet : String → String → ExceptT String (StateM σ) Unit
  prune : StateM σ Unit

/-- A handler run: an early `return` is a thrown `Outcome`. -/
abbrev Handler (σ : Type) := ExceptT (Outcome JVal) (StateM σ)

variable {σ : Type}

/-- `if err != nil { return InternalError(err) }` after a daemon call. -/
def orInternalError {α : Type} (call : ExceptT String (StateM σ) α) : Handler σ α :=
  ExceptT.adapt (fun err => .ret (internalError err)) call

/-- `value.(string)`. -/
def asString (value : JVal) : Handler σ String :=
  match value with
  | .str s => pure s
  | v => throw (.panic ("interface conversion: interface \x7b\x7d is " ++ v.goType ++ ", not string"))

/-- One iteration of `api10Put`'s loop over `req.Config`. -/
def putKey (b : Backend σ) (key : String) (value : JVal) : Handler σ Unit := do
  if !b.configKeyIsValid key then
    throw (.ret (badRequest ("Bad server config key: \x27" ++ key ++ "\x27")))
  if key = "core.trust_password" then
    orInternalError (b.passwordSet (← asString value))
  else if key = "storage.lvm_vg_name" then
    orInternalError (b.storageLVMSetVolumeGroupNameConfig (← asString value))
    orInternalError b.setupStorageDriver
  else if key = "storage.lvm_thinpool_name" then
    orInternalError (b.storageLVMSetThinPoolNameConfig (← asString value))
  else if key = "storage.zfs_pool_name" then
    orInternalError (b.storageZFSSetPoolNameConfig (← asString value))
    orInternalError b.setupStorageDriver
  else if key = "core.https_address" then
    let oldAddress ← orInternalError (b.configValueGet "core.https_address")
    orInternalError (b.updateHTTPsPort oldAddress (← asString value))
    orInternalError (b.configValueSet key (← asString value))
  else
    orInternalError (b.configValueSet key (← asString value))
    if key = "images.remote_cache_expiry" then
      (b.prune : StateM σ Unit)

/-- The loop over `req.Config`, in visiting order. -/
def putKeys (b : Backend σ) (entries : List (String × JVal)) : Handler σ Unit :=
  entries.forM fun e => putKey b e.1 e.2

/-- `api10Put`, given what `shared.ReadToJSON` made of the body. -/
def api10Put (b : Backend σ) (req : Except String ApiPut) : StateM σ (Outcome JVal) :=
  match req with
  | .error err => pure (.ret (badRequest err))
  | .ok req => do
    match ← (putKeys b req.config.entries).run with
    | .ok () => pure (.ret emptySyncResponse)
    | .error out => pure out

end Xlxd.Server
