/-
  Xlxd.Xlxc.List — `lxc list` (xlxc/list.go): `ByName`, `dotPrefixMatch`, `shouldShow`,
  `listContainers` and `listCmd.run`.

  A container is shown when it passes every filter. A filter without '=' must be a
  substring of the container's name. A filter `key=value` (split at its first '=') is
  judged by the loop over the container's config: the first config key, in the order that
  loop visits them, which `key` dot-prefix-matches decides, by whether its value is
  `value`; with no such key the filter fails. `configMatch` is that loop, written with
  `find?`: the early `return false` and the `break` both stop at the first match. Go
  draws a fresh visiting order for every range over a config, one per filter and per
  call; the model reads every range over one config in the one order its `Jmap` holds.

  `listCmd.run` reads its first argument as `remote:container` when it holds ':', else
  as a container name prefix when it holds no '=', else as a filter; it lists the
  remote's containers whose name has the prefix and hands them to `listContainers`, with
  snapshots asked for when exactly one container has the prefix.

  `i18n.G` is the identity (the untranslated strings); `strings.ToUpper` is `String.toUpper`
  (statuses are ASCII); the table writer is the header and the rows it is given, in order.
  `shared.ContainerState` keeps only the fields these functions read.
-/

import Xlxd.Go.Strings
import Xlxd.Go.Map
import Xlxd.Go.Sort

namespace Xlxd.Xlxc

open Go

/-! ## Rows and `ByName` -/

/-- A table row with at least one column: `ByName.Less` reads every row's first column. -/
structure Row where
  cols : List String
  ne : cols ≠ []
  deriving DecidableEq

def Row.name (r : Row) : String := r.cols.head r.ne

/-- `ByName.Less`: a row with an empty name is never less; one with a name is less than one
without, and otherwise names compare as strings. -/
def ByName.less (a b : Row) : Bool :=
  if a.name = "" then false else if b.name = "" then true else Go.lt a.name b.name

/-! ## Containers -/

/-- `shared.StatusCode`, by name: `listContainers` only tells `Running` and `Frozen` apart. -/
inductive StatusCode where
  | running
  | frozen
  | other (code : Nat)
  deriving DecidableEq, Repr

structure Ip where
  interface : String
  protocol : String
  address : String
  deriving DecidableEq, Repr

structure ContainerStatus where
  status : String
  statusCode : StatusCode
  ips : List Ip
  deriving DecidableEq, Repr

structure ContainerState where
  name : String
  status : ContainerStatus
  config : Jmap String
  ephemeral : Bool
  deriving DecidableEq

structure ContainerInfo where
  state : ContainerState
  snaps : List String
  deriving DecidableEq

/-! ## Filters -/

/-- `dotPrefixMatch(short, full)`: as many dot-separated members, each of `full`'s starting
with the matching one of `short`'s. -/
def dotPrefixMatch (short full : String) : Bool :=
  let fullMembs := split full '.'
  let shortMembs := split short '.'
  fullMembs.length == shortMembs.length && (fullMembs.zip shortMembs).all fun m => hasPrefix m.1 m.2

/-- The loop over `state.Config` for the filter `key=value`: the first config key in
visiting order that `key` dot-prefix-matches decides, by its value. Go draws a fresh order
for every range, one per filter and per call; here every range over one config visits it in
the one order its `Jmap` holds. A result that depends on the order is therefore stated for a
single filter, whose check is a single range, or shown for every order of each range. -/
def configMatch (key value : String) (config : Jmap String) : Bool :=
  match config.entries.find? fun e => dotPrefixMatch key e.1 with
  | some (_, configValue) => value == configValue
  | none => false

/-- One iteration of `shouldShow`'s loop over the filters. -/
def filterMatches (state : ContainerState) (filter : String) : Bool :=
  if contains filter "=" then
    let membs := splitN filter '=' 2
    let key := membs.getD 0 ""
    let value := if membs.length < 2 then "" else membs.getD 1 ""
    configMatch key value state.config
  else contains state.name filter

def shouldShow (filters : List String) (state : ContainerState) : Bool :=
  filters.all (filterMatches state)

/-! ## `listContainers` -/

/-- The IPV4 and IPV6 columns: every address but the loopback's, as `address (interface)`,
one per line. -/
def ipColumns (ips : List Ip) : String × String :=
  let shown := ips.filter (·.interface != "lo")
  let fmt (ip : Ip) := ip.address ++ " (" ++ ip.interface ++ ")"
  ("\n".intercalate ((shown.filter (·.protocol != "IPV6")).map fmt),
   "\n".intercalate ((shown.filter (·.protocol == "IPV6")).map fmt))

/-- The row the loop of `listContainers` appends for a container it shows. -/
def containerRow (cinfo : ContainerInfo) : Row :=
  let cstate := cinfo.state
  let ips := if cstate.status.statusCode = .running ∨ cstate.status.statusCode = .frozen then
      ipColumns cstate.status.ips else ("", "")
  ⟨[cstate.name, cstate.status.status.toUpper, ips.1, ips.2,
    if cstate.ephemeral then "YES" else "NO", toString cinfo.snaps.length], by simp⟩

def listHeader : List String := ["NAME", "STATE", "IPV4", "IPV6", "EPHEMERAL", "SNAPSHOTS"]

structure Table where
  header : List String
  rows : List Row
  deriving DecidableEq

/-- What `listContainers` prints: the table, then the snapshot lines under it. -/
structure Listing where
  table : Table
  snapshots : List String

/-- The snapshot loop: `Snapshots:` before the first name, each name indented. -/
def snapshotLines : List String → List String
  | [] => []
  | snaps => "Snapshots:" :: snaps.map ("  " ++ ·)

def listContainers (srt : Sorter Row) (cinfos : List ContainerInfo) (filters : List String)
    (listsnaps : Bool) : Listing where
  table := ⟨listHeader, srt.sort ByName.less ((cinfos.filter fun c => shouldShow filters c.state).map containerRow)⟩
  snapshots :=
    match listsnaps, cinfos with
    | true, [c] => snapshotLines c.snaps
    | _, _ => []

/-! ## `listCmd.run` -/

/-- A remote as the client sees it: `d.ListContainers()`. -/
structure Client where
  listContainers : Except String (List ContainerInfo)

/-- `lxd.Config` as `lxc list` uses it, with `lxd.NewClient(config, remote)`. -/
structure Config where
  defaultRemote : String
  parseRemoteAndContainer : String → String × String
  newClient : String → Except String Client

/-- How `listCmd.run` reads its arguments: the remote, the container name, the filters. -/
def listArgs (config : Config) : List String → String × String × List String
  | [] => ("", "", [])
  | arg :: rest =>
    if contains arg ":" then
      ((config.parseRemoteAndContainer arg).1, (config.parseRemoteAndContainer arg).2, rest)
    else if !contains arg "=" then (config.defaultRemote, arg, arg :: rest)
    else ("", "", arg :: rest)

/-- The containers of `ctslist` whose name starts with `name`, all of them for `""`. -/
def withPrefix (name : String) (ctslist : List ContainerInfo) : List ContainerInfo :=
  if name = "" then ctslist else ctslist.filter fun c => hasPrefix c.state.name name

def listCmd.run (srt : Sorter Row) (config : Config) (args : List String) : Except String Listing := do
  let (remote, name, filters) := listArgs config args
  let d ← config.newClient (if remote = "" then config.defaultRemote else remote)
  let ctslist ← d.listContainers
  let cts := withPrefix name ctslist
  pure (listContainers srt cts filters (cts.length == 1))

/-! ## Lemmas -/

@[simp] theorem containerRow_name (c : ContainerInfo) : (containerRow c).name = c.state.name := rfl

theorem shouldShow_iff {filters : List String} {state : ContainerState} :
    shouldShow filters state = true ↔ ∀ f ∈ filters, filterMatches state f = true := by
  simp [shouldShow]

theorem filterMatches_of_not_mem {state : ContainerState} {f : String} (h : '=' ∉ f.toList) :
    filterMatches state f = contains state.name f := by
  have : contains f "=" = false := by rw [Bool.eq_false_iff]; simpa using h
  simp [filterMatches, this]

/-- A filter `key=value`, with no '=' in `key`, is judged by the config loop for `key` and `value`. -/
theorem filterMatches_kv {state : ContainerState} {key value : String} (h : '=' ∉ key.toList) :
    filterMatches state (key ++ "=" ++ value) = configMatch key value state.config := by
  have hc : contains (key ++ "=" ++ value) "=" = true := by simp
  have hs : splitN (key ++ "=" ++ value) '=' 2 = [key, value] := splitN_two_append h
  simp [filterMatches, hc, hs]

/-- A filter holding '=' is `key=value` for the part before its first '='. -/
theorem eq_kv_of_mem {f : String} (h : '=' ∈ f.toList) :
    ∃ key value : String, '=' ∉ key.toList ∧ f = key ++ "=" ++ value := by
  obtain ⟨key, value, hk, hf, -⟩ := splitN_two_of_mem h
  exact ⟨key, value, hk, hf⟩

/-- The split at the first '=' is unique. -/
theorem kv_inj {k v k' v' : String} (hk : '=' ∉ k.toList) (hk' : '=' ∉ k'.toList)
    (h : k ++ "=" ++ v = k' ++ "=" ++ v') : k = k' ∧ v = v' := by
  have := splitN_two_append (b := v) hk
  rw [show String.singleton '=' = "=" from rfl, h, show "=" = String.singleton '=' from rfl,
    splitN_two_append hk'] at this
  simp only [List.cons.injEq, and_true] at this
  exact ⟨this.1.symm, this.2.symm⟩

/-- `listCmd.run` once the remote answers: `listContainers` over its containers with the
name prefix, asking for snapshots when there is one. -/
theorem listCmd.run_of_remote (srt : Sorter Row) (config : Config) (args : List String) (d : Client)
    (ctslist : List ContainerInfo)
    (hd : config.newClient (if (listArgs config args).1 = "" then config.defaultRemote else (listArgs config args).1) = .ok d)
    (hl : d.listContainers = .ok ctslist) :
    listCmd.run srt config args = .ok (listContainers srt (withPrefix (listArgs config args).2.1 ctslist)
      (listArgs config args).2.2 ((withPrefix (listArgs config args).2.1 ctslist).length == 1)) := by
  rcases h : listArgs config args with ⟨remote, name, filters⟩
  rw [h] at hd
  simp only [listCmd.run, h, hd, bind, Except.bind, hl, pure, Except.pure]

end Xlxd.Xlxc
