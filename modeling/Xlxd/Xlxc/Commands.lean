/-
  Xlxd.Xlxc.Commands — the two small commands: `lxc version` (`versionCmd.run`) and
  `lxc snapshot` (`snapshotCmd.run`).

  `lxc version` takes no arguments and prints `shared.Version`. `lxc snapshot
  [remote:]<source> [<snapshot name>]` makes the remote's client, refuses a snapshot name
  that `shared.IsSnapshot` flags (one holding the delimiter '/'), and asks the daemon for
  the snapshot; with no name given it sends `""`, and arguments after the second are not
  read. What the daemon answers, and `WaitForSuccess`, are the daemon's.
-/

import Xlxd.Xlxc.Image

namespace Xlxd.Xlxc

open Go

/-- `lxc version`: what it prints. -/
def versionCmd.run (version : String) (args : List String) : Except CmdError String :=
  if args.length > 0 then .error .errArgs else .ok version

/-- `lxd.Config` as `lxc snapshot` uses it, with `lxd.NewClient(config, remote)`. -/
structure SnapshotConfig where
  parseRemoteAndContainer : String → String × String
  newClient : String → Except String Unit

/-- The call `d.Snapshot(name, snapname, stateful)` on the client of `remote`. -/
structure SnapshotRequest where
  remote : String
  name : String
  snapname : String
  stateful : Bool
  deriving DecidableEq, Repr

/-- `shared.IsSnapshot`: the name holds the snapshot delimiter. -/
def isSnapshot (name : String) : Bool := contains name "/"

def snapshotCmd.run (config : SnapshotConfig) (stateful : Bool) (args : List String) :
    Except CmdError SnapshotRequest :=
  if args.length < 1 then .error .errArgs
  else
    let snapname := if args.length < 2 then "" else args.getD 1 ""
    let (remote, name) := config.parseRemoteAndContainer (args.getD 0 "")
    match config.newClient remote with
    | .error e => .error (.msg e)
    | .ok () =>
      if isSnapshot snapname then .error (.msg "\x27/\x27 not allowed in snapshot name")
      else .ok ⟨remote, name, snapname, stateful⟩

end Xlxd.Xlxc
