/-
  Xlxd.Xlxc.Image — the client's `lxc image` command: `imageCmd.run` with `doImageAlias` and
  `dereferenceAlias`, the `import` loop, `shortestAlias`, `findDescription`, `showImages` and
  `showAliases`.

  `import` reads `args[1:]` in one loop. An argument with no '=' (or one naming an existing
  path) is a remote when it ends in ':', else the image file when none is set yet, else
  the rootfs file; any other argument is a property. As written, the loop sets the image
  file to `args[1]`, not to the argument at hand (`importStep`). The file then goes to
  `PostImageURL` when it starts with `https://`, is refused when it starts with
  `http://`, and goes to `PostImage` otherwise.

  `showImages` builds one row per image (the shortest alias, the fingerprint's first 12
  bytes, public, description, architecture, size, upload date) and sorts them `ByName`.
  `shared.ArchitectureName`, the `%.2fMB` size and the date layout are library formatting,
  taken as `ImageFormats`; `shared.InterfaceToBool` of the public flag is the `Bool`
  `public`. The `[0:12]` slices of the fingerprint and of an alias name take the first 12
  bytes (`Go.sliceTo`) and panic below 12 bytes (`Except.error`).

  Every other subcommand ends in one call on a remote's client (`ImageRequest`). `delete`,
  `info`, `edit`, `export` and `show` share one start (`imageTarget`): `args[1]` read as
  `[remote:]image`, an empty image refused with `errArgs`, then the client, and the image
  resolved by `dereferenceAlias`. `edit` then falls back to the name as given when the
  resolved image is empty. What `list`, `alias list`, `info` and `show` print of the
  answer is `showImages`, `showAliases` and library formatting; what `edit` then does,
  `doImageEdit`, is `Xlxd.Xlxc.ImageEdit`.
-/

import Xlxd.Xlxc.List

namespace Xlxd.Xlxc

open Go

/-! ## `image import` -/

/-- The `import` loop's variables. -/
structure ImportArgs where
  imageFile : String
  rootfsFile : String
  properties : List String
  remote : String
  deriving DecidableEq, Repr

/-- `lxd.Config` as `image import` uses it, with `lxd.NewClient(config, remote)`. -/
structure ImageConfig where
  defaultRemote : String
  parseRemote : String → String
  newClient : String → Except String Unit

/-- The `--public` and `--alias` flags. -/
structure ImageFlags where
  publicImage : Bool
  addAliases : List String
  deriving DecidableEq, Repr

/-- The call `image import` ends in. -/
inductive ImportCall where
  | postImageURL (remote imageFile : String) (publicImage : Bool) (addAliases : List String)
  | postImage (remote imageFile rootfsFile : String) (properties : List String) (publicImage : Bool)
      (addAliases : List String)
  deriving DecidableEq, Repr

/-- How a subcommand fails: `errArgs`, or an error with its text. -/
inductive CmdError where
  | errArgs
  | msg (text : String)
  deriving DecidableEq, Repr

/-- Whether the `import` loop takes `arg` as a file or a remote rather than a property. -/
def isPlain (pathExists : String → Bool) (arg : String) : Bool :=
  (split arg '=').length == 1 || pathExists arg

/-- One iteration of the `import` loop over `args[1:]`; `first` is `args[1]`. -/
def importStep (parseRemote : String → String) (pathExists : String → Bool) (first : String)
    (st : ImportArgs) (arg : String) : ImportArgs :=
  if isPlain pathExists arg then
    if hasSuffix arg ":" then { st with remote := parseRemote arg }
    else if st.imageFile = "" then { st with imageFile := first }
    else { st with rootfsFile := arg }
  else { st with properties := st.properties ++ [arg] }

/-- The `import` case of `imageCmd.run`, `args[0]` being `import`. -/
def imageImport (config : ImageConfig) (pathExists : String → Bool) (flags : ImageFlags)
    (args : List String) : Except CmdError ImportCall :=
  match args with
  | _ :: first :: rest =>
    let st := (first :: rest).foldl (importStep config.parseRemote pathExists first) ⟨"", "", [], ""⟩
    let remote := if st.remote = "" then config.defaultRemote else st.remote
    if st.imageFile = "" then .error .errArgs
    else
      match config.newClient remote with
      | .error e => .error (.msg e)
      | .ok () =>
        if hasPrefix st.imageFile "https://" then .ok (.postImageURL remote st.imageFile flags.publicImage flags.addAliases)
        else if hasPrefix st.imageFile "http://" then .error (.msg "Only https:// is supported for remote image import.")
        else .ok (.postImage remote st.imageFile st.rootfsFile st.properties flags.publicImage flags.addAliases)
  | _ => .error .errArgs

/-! ## The other subcommands -/

/-- A remote as the other subcommands use it: `d.GetAlias`. -/
structure ImageClient where
  getAlias : String → String

/-- `lxd.Config` as `lxc image` uses it, with `lxd.NewClient(config, remote)`. -/
structure ImageCmdConfig where
  defaultRemote : String
  parseRemote : String → String
  parseRemoteAndContainer : String → String × String
  newClient : String → Except String ImageClient

/-- The same config as `import` reads it. -/
def ImageCmdConfig.toImageConfig (config : ImageCmdConfig) : ImageConfig :=
  ⟨config.defaultRemote, config.parseRemote, fun remote => (config.newClient remote).map fun _ => ()⟩

/-- `lxd.NewClient(config, remote)`, its error returned as it is. -/
def ImageCmdConfig.client (config : ImageCmdConfig) (remote : String) : Except CmdError ImageClient :=
  (config.newClient remote).mapError .msg

/-- The flags of `lxc image`, `--copy-aliases` with the others. -/
structure ImageCmdFlags extends ImageFlags where
  copyAliases : Bool

/-- The call a subcommand ends in, on the client of `remote`. -/
inductive ImageRequest where
  | listAliases (remote : String)
  | postAlias (remote aliasName description target : String)
  | deleteAlias (remote aliasName : String)
  | copyImage (remote image destRemote : String) (copyAliases : Bool) (addAliases : List String)
      (publicImage : Bool)
  | deleteImage (remote image : String)
  | getImageInfo (remote image : String)
  | importImage (call : ImportCall)
  | listImages (remote : String)
  | editImage (remote image : String)
  | exportImage (remote image target : String)
  | showImage (remote image : String)
  deriving DecidableEq, Repr

/-- The alias's target when the remote has the alias, else the name as given. -/
def dereferenceAlias (d : ImageClient) (inName : String) : String :=
  if d.getAlias inName = "" then inName else d.getAlias inName

/-- `image alias`, `args[1]` naming the alias subcommand (`imageCmd.run` has checked that
there is one). -/
def doImageAlias (config : ImageCmdConfig) (args : List String) : Except CmdError ImageRequest :=
  if args.getD 1 "" = "list" then do
    let remote := (config.parseRemoteAndContainer (args.getD 2 "")).1
    let _ ← config.client remote
    pure (.listAliases remote)
  else if args.getD 1 "" = "create" then
    if args.length < 4 then .error .errArgs
    else do
      let (remote, aliasName) := config.parseRemoteAndContainer (args.getD 2 "")
      let _ ← config.client remote
      pure (.postAlias remote aliasName aliasName (args.getD 3 ""))
  else if args.getD 1 "" = "delete" then
    if args.length < 3 then .error .errArgs
    else do
      let (remote, aliasName) := config.parseRemoteAndContainer (args.getD 2 "")
      let _ ← config.client remote
      pure (.deleteAlias remote aliasName)
  else .error .errArgs

/-- The start `delete`, `info`, `edit`, `export` and `show` share: the remote, its client and
the image name as given. -/
def imageTarget (config : ImageCmdConfig) (args : List String) :
    Except CmdError (String × ImageClient × String) :=
  if args.length < 2 then .error .errArgs
  else
    let (remote, inName) := config.parseRemoteAndContainer (args.getD 1 "")
    if inName = "" then .error .errArgs
    else do
      let d ← config.client remote
      pure (remote, d, inName)

/-- `copy [remote:]image remote:`: both clients made, the image resolved on the first. -/
def imageCopy (config : ImageCmdConfig) (flags : ImageCmdFlags) (args : List String) :
    Except CmdError ImageRequest :=
  let (remote, inName) := config.parseRemoteAndContainer (args.getD 1 "")
  if inName = "" then .error .errArgs
  else
    let (destRemote, outName) := config.parseRemoteAndContainer (args.getD 2 "")
    if outName ≠ "" then .error .errArgs
    else do
      let d ← config.client remote
      let _ ← config.client destRemote
      pure (.copyImage remote (dereferenceAlias d inName) destRemote flags.copyAliases
        flags.addAliases flags.publicImage)

/-- `image list [remote:]`. -/
def imageList (config : ImageCmdConfig) (args : List String) : Except CmdError ImageRequest := do
  let remote := (config.parseRemoteAndContainer (args.getD 1 "")).1
  let _ ← config.client remote
  pure (.listImages remote)

/-- The case labels of `imageCmd.run`'s `switch args[0]`. -/
inductive ImageSub where
  | aliasCase
  | copyCase
  | deleteCase
  | infoCase
  | importCase
  | listCase
  | editCase
  | exportCase
  | showCase
  deriving DecidableEq, Repr

/-- The case `args[0]` selects, `none` for `default`. -/
def ImageSub.ofString (s : String) : Option ImageSub :=
  [("alias", aliasCase), ("copy", copyCase), ("delete", deleteCase), ("info", infoCase), ("import", importCase),
    ("list", listCase), ("edit", editCase), ("export", exportCase), ("show", showCase)].lookup s

def imageCmd.run (config : ImageCmdConfig) (pathExists : String → Bool) (flags : ImageCmdFlags)
    (args : List String) : Except CmdError ImageRequest :=
  match args with
  | [] => .error .errArgs
  | sub :: _ =>
    match ImageSub.ofString sub with
    | some .aliasCase => if args.length < 2 then .error .errArgs else doImageAlias config args
    | some .copyCase => if args.length ≠ 3 then .error .errArgs else imageCopy config flags args
    | some .deleteCase =>
      (imageTarget config args).map fun (remote, d, inName) => .deleteImage remote (dereferenceAlias d inName)
    | some .infoCase =>
      (imageTarget config args).map fun (remote, d, inName) => .getImageInfo remote (dereferenceAlias d inName)
    | some .importCase => (imageImport config.toImageConfig pathExists flags.toImageFlags args).map .importImage
    | some .listCase => imageList config args
    | some .editCase =>
      (imageTarget config args).map fun (remote, d, inName) =>
        let image := dereferenceAlias d inName
        .editImage remote (if image = "" then inName else image)
    | some .exportCase =>
      (imageTarget config args).map fun (remote, d, inName) =>
        .exportImage remote (dereferenceAlias d inName) (args.getD 2 ".")
    | some .showCase =>
      (imageTarget config args).map fun (remote, d, inName) => .showImage remote (dereferenceAlias d inName)
    | none => .error .errArgs

/-! ## `image list` -/

/-- `shared.ImageAlias`. -/
structure ImageAlias where
  name : String
  description : String
  deriving DecidableEq, Repr

/-- One iteration of `shortestAlias`'s loop. -/
def shortestStep (shortest : String) (l : ImageAlias) : String :=
  if shortest = "" then l.name
  else if len l.name ≠ 0 ∧ len l.name < len shortest then l.name
  else shortest

def shortestAlias (list : List ImageAlias) : String := list.foldl shortestStep ""

/-- The loop of `findDescription`: the value under the first key `description` it visits. -/
def findDescription (props : Jmap String) : String :=
  match props.entries.find? (·.1 == "description") with
  | some (_, v) => v
  | none => ""

structure ImageInfo where
  aliases : List ImageAlias
  fingerprint : String
  public : Bool
  properties : Jmap String
  architecture : Nat
  size : Int
  uploadDate : Int
  deriving DecidableEq

structure ImageFormats where
  architectureName : Nat → String
  size : Int → String
  uploaded : Int → String

/-- `image.Fingerprint[0:12]` (and `alias.Name[0:12]`): the first 12 bytes, a panic below 12
bytes. -/
def fingerprintPrefix (fp : String) : Except String String :=
  if 12 ≤ len fp then .ok (sliceTo fp 12) else .error "slice bounds out of range"

/-- The row `showImages` builds for one image. -/
def imageRow (fmts : ImageFormats) (image : ImageInfo) : Except String Row := do
  let shortest := shortestAlias image.aliases
  let shortest := if image.aliases.length > 1 then
      shortest ++ " (" ++ toString (image.aliases.length - 1) ++ " more)" else shortest
  let fp ← fingerprintPrefix image.fingerprint
  pure ⟨[shortest, fp, if image.public then "yes" else "no", findDescription image.properties,
    fmts.architectureName image.architecture, fmts.size image.size, fmts.uploaded image.uploadDate], by simp⟩

def imagesHeader : List String := ["ALIAS", "FINGERPRINT", "PUBLIC", "DESCRIPTION", "ARCH", "SIZE", "UPLOAD DATE"]

def showImages (srt : Sorter Row) (fmts : ImageFormats) (images : List ImageInfo) : Except String Table := do
  let data ← images.mapM (imageRow fmts)
  pure ⟨imagesHeader, srt.sort ByName.less data⟩

/-- `showAliases`: per alias, in the order given, its description and `alias.Name[0:12]`
(the same slice, panicking below 12 bytes). -/
def showAliases (aliases : List ImageAlias) : Except String Table := do
  let data ← aliases.mapM fun a => do
    let fp ← fingerprintPrefix a.name
    pure (⟨[a.description, fp], by simp⟩ : Row)
  pure ⟨["ALIAS", "FINGERPRINT"], data⟩

/-! ## Lemmas -/

theorem showImages_ok {srt : Sorter Row} {fmts : ImageFormats} {images : List ImageInfo} {t : Table}
    (h : showImages srt fmts images = .ok t) :
    ∃ data, images.mapM (imageRow fmts) = .ok data ∧ t = ⟨imagesHeader, srt.sort ByName.less data⟩ := by
  unfold showImages at h
  cases hm : images.mapM (imageRow fmts) with
  | error e => rw [hm] at h; cases h
  | ok data => rw [hm] at h; exact ⟨data, rfl, (Except.ok.inj h).symm⟩

end Xlxd.Xlxc
