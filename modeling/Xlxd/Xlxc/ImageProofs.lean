/-
  Xlxd.Xlxc.ImageProofs — `image import`'s file, `shortestAlias`, and the `ByName` sort of
  both tables (see `Xlxd.Xlxc.Image`, `Xlxd.Xlxc.List`).

  (1) `import` (`importStep_imageFile`): from an empty image file, the loop's image file is
      `args[1]` as soon as any argument is plain and not a remote, and empty otherwise. So
      with a remote first, the remote is passed on as the image file
      (`import_passes_remote_as_image`). The whole loop computes `ImportArgs.ofArgs`
      (`importLoop_eq`): each file argument after the second replaces the rootfs file, the
      properties are the non-plain arguments in order, and the last remote wins.
  (2) `shortestAlias_spec`: `""` exactly when every alias name is empty; otherwise the
      first non-empty name of least length in bytes (`FirstShortest`), wherever empty
      names stand. The loop keeps `ShortestSoFar` over the names it has seen.
  (3) `byName_sorts_tables`: `ByName.Less` is a strict weak ordering (two rows are
      incomparable exactly when their names are equal, `ByName.incomp_iff`), so the sort
      in `listContainers` and `showImages` returns a permutation of the rows with every
      named row before every unnamed one and names ascending (`NameOrdered`). With distinct
      container names nothing is left to the unstable sort: `lxc list` prints the same
      listing for every order the daemon returns them in (`listContainers_order_free`, from
      `Sorter.sort_eq_of_perm`). Go ranges over a container's config in a fresh order each
      time; for filters that no two keys of a config match differently, a filter's verdict
      is the same whichever order that range takes (`filterMatches_congr_config`), so the
      listing depends on neither order.
  (4) The other subcommands. Every request names a non-empty image
      (`imageCmd_run_image_ne_empty`): each subcommand refuses an empty name, and
      `dereferenceAlias` never turns a non-empty name into an empty one, so `edit`'s fallback
      changes nothing (`edit_fallback_eq`). Whether arguments are refused with `errArgs`
      does not depend on the remotes or their clients (`imageCmd_run_errArgs_iff`): every
      subcommand checks its arguments before it makes a client.
  (5) `image_tables_ok_iff`: `showImages` and `showAliases` print their tables exactly when
      every `[0:12]` slice they take is in bounds; the alias rows are the descriptions and
      the names' first 12 bytes (`Go.sliceTo`), in the order given, which for a name whose
      12th byte ends a character are exactly the characters those bytes encode. The DESCRIPTION column is the value under
      `description` (`findDescription_eq`), so the image table does not depend on the order
      a range visits each image's properties (`showImages_congr_properties`).
-/

import Xlxd.Go.Errors
import Xlxd.Xlxc.Image
import Xlxd.Xlxc.ListProofs

namespace Xlxd.Xlxc

open Go

/-! ## (1) `image import` -/

/-- Whether `arg` is one the loop would take for the image file. -/
def isFileArg (pathExists : String → Bool) (arg : String) : Bool :=
  isPlain pathExists arg && !hasSuffix arg ":"

theorem foldl_importStep_of_imageFile_eq (parseRemote : String → String) (pathExists : String → Bool)
    (first : String) (args : List String) (st : ImportArgs) (h : st.imageFile = first) :
    (args.foldl (importStep parseRemote pathExists first) st).imageFile = first := by
  induction args generalizing st with
  | nil => exact h
  | cons arg args ih =>
    apply ih
    unfold importStep
    split_ifs <;> simp [h]

/-- As written, the loop's image file is `args[1]` once any argument is a file argument. -/
theorem importStep_imageFile (parseRemote : String → String) (pathExists : String → Bool)
    (first : String) (args : List String) (st : ImportArgs) (h : st.imageFile = "") :
    (args.foldl (importStep parseRemote pathExists first) st).imageFile =
      if args.any (isFileArg pathExists) then first else "" := by
  induction args generalizing st with
  | nil => simp [h]
  | cons arg args ih =>
    by_cases ha : isFileArg pathExists arg = true
    · have hstep : (importStep parseRemote pathExists first st arg).imageFile = first := by
        simp only [isFileArg, Bool.and_eq_true, Bool.not_eq_true'] at ha
        simp [importStep, ha, h]
      simp [ha, foldl_importStep_of_imageFile_eq _ _ _ _ _ hstep]
    · have hstep : (importStep parseRemote pathExists first st arg).imageFile = "" := by
        simp only [isFileArg, Bool.and_eq_true, Bool.not_eq_true', not_and, Bool.not_eq_false] at ha
        unfold importStep
        split_ifs with h1 h2 <;> simp_all
      simp [ha, ih _ hstep]

/-- Every remote reachable, `ParseRemote` the part before ':'. -/
def reachableConfig : ImageConfig := ⟨"local", fun r => (splitN r ':' 2).getD 0 "", fun _ => .ok ()⟩

theorem import_passes_remote_as_image (pathExists : String → Bool) :
    imageImport reachableConfig pathExists ⟨false, []⟩ ["import", "images:", "ubuntu.tar.gz"] =
      .ok (.postImage "images" "images:" "" [] false []) := by
  have h1 : isPlain pathExists "images:" = true := by
    rw [isPlain, show ((split "images:" '=').length == 1) = true by decide, Bool.true_or]
  have h2 : isPlain pathExists "ubuntu.tar.gz" = true := by
    rw [isPlain, show ((split "ubuntu.tar.gz" '=').length == 1) = true by decide, Bool.true_or]
  simp only [imageImport, List.foldl, importStep, h1, h2, ↓reduceIte]
  rfl

/-! ### The whole loop -/

/-- Whether the loop takes `arg` for the remote. -/
def isRemoteArg (pathExists : String → Bool) (arg : String) : Bool :=
  isPlain pathExists arg && hasSuffix arg ":"

section ImportLoop

variable (parseRemote : String → String) (pathExists : String → Bool) (first : String)

theorem importStep_properties (st : ImportArgs) (arg : String) :
    (importStep parseRemote pathExists first st arg).properties =
      if isPlain pathExists arg then st.properties else st.properties ++ [arg] := by
  unfold importStep
  split_ifs <;> rfl

theorem importStep_remote (st : ImportArgs) (arg : String) :
    (importStep parseRemote pathExists first st arg).remote =
      if isRemoteArg pathExists arg then parseRemote arg else st.remote := by
  unfold importStep isRemoteArg
  split_ifs <;> simp_all

/-- Once the image file is set, a file argument replaces the rootfs file. -/
theorem importStep_of_imageFile_ne (st : ImportArgs) (arg : String) (h : st.imageFile ≠ "") :
    (importStep parseRemote pathExists first st arg).imageFile = st.imageFile ∧
      (importStep parseRemote pathExists first st arg).rootfsFile =
        if isFileArg pathExists arg then arg else st.rootfsFile := by
  cases hp : isPlain pathExists arg <;> cases hs : hasSuffix arg ":" <;>
    simp only [importStep, isFileArg, hp, hs, h, Bool.not_true, Bool.not_false, Bool.and_true,
      Bool.and_false, Bool.false_eq_true, ↓reduceIte, and_self]

/-- Before it is set, a file argument sets the image file to `args[1]`, and the rootfs file
stays. -/
theorem importStep_of_imageFile_eq (st : ImportArgs) (arg : String) (h : st.imageFile = "") :
    (importStep parseRemote pathExists first st arg).imageFile =
        (if isFileArg pathExists arg then first else "") ∧
      (importStep parseRemote pathExists first st arg).rootfsFile = st.rootfsFile := by
  cases hp : isPlain pathExists arg <;> cases hs : hasSuffix arg ":" <;>
    simp only [importStep, isFileArg, hp, hs, h, Bool.not_true, Bool.not_false, Bool.and_true,
      Bool.and_false, Bool.false_eq_true, ↓reduceIte, and_self]

theorem foldl_importStep_properties (st : ImportArgs) (args : List String) :
    (args.foldl (importStep parseRemote pathExists first) st).properties =
      st.properties ++ args.filter fun a => !isPlain pathExists a := by
  induction args generalizing st with
  | nil => simp
  | cons arg args ih =>
    rw [List.foldl_cons, ih, importStep_properties]
    by_cases ha : isPlain pathExists arg <;> simp [ha]

theorem foldl_importStep_remote (st : ImportArgs) (args : List String) :
    (args.foldl (importStep parseRemote pathExists first) st).remote =
      (((args.filter (isRemoteArg pathExists)).getLast?).map parseRemote).getD st.remote := by
  induction args generalizing st with
  | nil => rfl
  | cons arg args ih =>
    rw [List.foldl_cons, ih, importStep_remote]
    by_cases ha : isRemoteArg pathExists arg
    · rw [if_pos ha, List.filter_cons_of_pos ha, List.getLast?_cons]
      cases (args.filter (isRemoteArg pathExists)).getLast? <;> rfl
    · rw [if_neg ha, List.filter_cons_of_neg ha]

/-- With the image file set, the rootfs file is the last file argument. -/
theorem foldl_importStep_rootfs (st : ImportArgs) (args : List String) (h : st.imageFile ≠ "") :
    (args.foldl (importStep parseRemote pathExists first) st).rootfsFile =
      ((args.filter (isFileArg pathExists)).getLast?).getD st.rootfsFile := by
  induction args generalizing st with
  | nil => rfl
  | cons arg args ih =>
    obtain ⟨hi, hr⟩ := importStep_of_imageFile_ne parseRemote pathExists first st arg h
    rw [List.foldl_cons, ih _ (hi ▸ h), hr]
    by_cases ha : isFileArg pathExists arg
    · rw [if_pos ha, List.filter_cons_of_pos ha, List.getLast?_cons]
      cases (args.filter (isFileArg pathExists)).getLast? <;> rfl
    · rw [if_neg ha, List.filter_cons_of_neg ha]

/-- From an unset image file, the rootfs file is the last file argument after the first,
unless `args[1]` is empty: then every file argument sets the image file to `""` again. -/
theorem foldl_importStep_rootfs_of_unset (st : ImportArgs) (args : List String) (h : st.imageFile = "") :
    (args.foldl (importStep parseRemote pathExists first) st).rootfsFile =
      if first = "" then st.rootfsFile
      else ((args.filter (isFileArg pathExists)).tail.getLast?).getD st.rootfsFile := by
  induction args generalizing st with
  | nil => split_ifs <;> rfl
  | cons arg args ih =>
    obtain ⟨hi, hr⟩ := importStep_of_imageFile_eq parseRemote pathExists first st arg h
    rw [List.foldl_cons]
    by_cases ha : isFileArg pathExists arg
    · rw [if_pos ha] at hi
      by_cases hf : first = ""
      · rw [ih _ (hi.trans hf), hr, if_pos hf, if_pos hf]
      · rw [foldl_importStep_rootfs _ _ _ _ _ (by rw [hi]; exact hf), hr, if_neg hf, List.filter_cons_of_pos ha,
          List.tail_cons]
    · rw [if_neg ha] at hi
      rw [ih _ hi, hr, List.filter_cons_of_neg ha]

/-- What the `import` loop makes of `args[1:]`, read off the arguments as a whole: the image
file is `args[1]` once any argument is a file (as built); the rootfs file is the last file
argument after the first, unless `args[1]` is empty; the properties are the arguments that
are not plain, in order; the remote is the last remote argument, parsed. -/
def ImportArgs.ofArgs (args : List String) : ImportArgs :=
  ⟨if args.any (isFileArg pathExists) then first else "",
   if first = "" then "" else ((args.filter (isFileArg pathExists)).tail.getLast?).getD "",
   args.filter fun a => !isPlain pathExists a,
   (((args.filter (isRemoteArg pathExists)).getLast?).map parseRemote).getD ""⟩

/-- The loop computes `ImportArgs.ofArgs` for every argument list: each later file argument
silently replaces the rootfs file, properties keep their order, and the last remote wins. -/
theorem importLoop_eq (args : List String) :
    args.foldl (importStep parseRemote pathExists first) ⟨"", "", [], ""⟩ =
      ImportArgs.ofArgs parseRemote pathExists first args := by
  have hi := importStep_imageFile parseRemote pathExists first args ⟨"", "", [], ""⟩ rfl
  have hr := foldl_importStep_rootfs_of_unset parseRemote pathExists first ⟨"", "", [], ""⟩ args rfl
  have hp := foldl_importStep_properties parseRemote pathExists first ⟨"", "", [], ""⟩ args
  have hm := foldl_importStep_remote parseRemote pathExists first ⟨"", "", [], ""⟩ args
  generalize args.foldl (importStep parseRemote pathExists first) ⟨"", "", [], ""⟩ = st at hi hr hp hm
  obtain ⟨i, r, p, m⟩ := st
  simp only [List.nil_append] at hi hr hp hm
  subst hi hr hp hm
  rfl

example : (ImportArgs.ofArgs id (fun _ => false) "meta.tar.xz"
    ["meta.tar.xz", "os=ubuntu", "a.tar.xz", "images:", "b.tar.xz"]) =
    ⟨"meta.tar.xz", "b.tar.xz", ["os=ubuntu"], "images:"⟩ := by decide

end ImportLoop

/-! ## (2) `shortestAlias` -/

/-- `r` is the first non-empty name of least length: every non-empty name before it is
longer, and none after it is shorter. -/
def FirstShortest (names : List String) (r : String) : Prop :=
  r ≠ "" ∧ ∃ pre post, names = pre ++ r :: post ∧
    (∀ n ∈ pre, n ≠ "" → len r < len n) ∧ (∀ n ∈ post, n ≠ "" → len r ≤ len n)

/-- The invariant of `shortestAlias`'s loop over the names seen so far. -/
def ShortestSoFar (names : List String) (shortest : String) : Prop :=
  (shortest = "" ∧ ∀ n ∈ names, n = "") ∨ FirstShortest names shortest

theorem shortestSoFar_step {names : List String} {shortest : String} (h : ShortestSoFar names shortest)
    (l : ImageAlias) : ShortestSoFar (names ++ [l.name]) (shortestStep shortest l) := by
  rcases h with ⟨rfl, hall⟩ | ⟨hne, pre, post, rfl, hpre, hpost⟩
  · by_cases hl : l.name = ""
    · refine Or.inl ⟨by simp [shortestStep, hl], fun n hn => ?_⟩
      simp only [List.mem_append, List.mem_singleton] at hn
      rcases hn with hn | rfl
      exacts [hall n hn, hl]
    · refine Or.inr ⟨by simpa [shortestStep] using hl, names, [], by simp [shortestStep], ?_, by simp⟩
      exact fun n hn hn' => absurd (hall n hn) hn'
  · unfold shortestStep
    rw [if_neg hne]
    split_ifs with hlt
    · refine Or.inr ⟨by simpa using hlt.1, pre ++ shortest :: post, [], by simp, ?_, by simp⟩
      intro n hn hn'
      simp only [List.mem_append, List.mem_cons] at hn
      rcases hn with hn | rfl | hn
      · exact lt_trans hlt.2 (hpre n hn hn')
      · exact hlt.2
      · exact lt_of_lt_of_le hlt.2 (hpost n hn hn')
    · refine Or.inr ⟨hne, pre, post ++ [l.name], by simp, hpre, ?_⟩
      intro n hn hn'
      simp only [List.mem_append, List.mem_singleton] at hn
      rcases hn with hn | rfl
      · exact hpost n hn hn'
      · exact not_lt.mp fun h => hlt ⟨by simpa using hn', h⟩

theorem shortestSoFar_foldl (list : List ImageAlias) (names : List String) (shortest : String)
    (h : ShortestSoFar names shortest) :
    ShortestSoFar (names ++ list.map (·.name)) (list.foldl shortestStep shortest) := by
  induction list generalizing names shortest with
  | nil => simpa using h
  | cons l list ih => simpa using ih _ _ (shortestSoFar_step h l)

/-- `shortestAlias` is `""` exactly when every alias name is empty (the list may be empty),
and otherwise the first non-empty name of least length. -/
theorem shortestAlias_spec (list : List ImageAlias) :
    (shortestAlias list = "" ↔ ∀ l ∈ list, l.name = "") ∧
      (shortestAlias list = "" ∨ FirstShortest (list.map (·.name)) (shortestAlias list)) := by
  have h : ShortestSoFar (list.map (·.name)) (shortestAlias list) := by
    simpa using shortestSoFar_foldl list [] "" (Or.inl ⟨rfl, by simp⟩)
  rcases h with ⟨h0, hall⟩ | hfs
  · exact ⟨⟨fun _ l hl => hall _ (List.mem_map_of_mem _ hl), fun _ => h0⟩, Or.inl h0⟩
  · have ⟨hne, pre, post, hnames, _, _⟩ := hfs
    refine ⟨⟨fun h0 => absurd h0 hne, fun hall => absurd ?_ hne⟩, Or.inr hfs⟩
    have hmem : shortestAlias list ∈ list.map (·.name) := by simp [hnames]
    obtain ⟨l, hl, hl'⟩ := List.mem_map.mp hmem
    exact hl' ▸ hall l hl

/-! ## (3) The `ByName` sort -/

theorem ByName.less_iff {a b : Row} : ByName.less a b = true ↔ a.name ≠ "" ∧ (b.name = "" ∨ a.name < b.name) := by
  unfold ByName.less
  split_ifs <;> simp [*]

/-- Two rows are incomparable exactly when they have the same name. -/
theorem ByName.incomp_iff {a b : Row} :
    ByName.less a b = false ∧ ByName.less b a = false ↔ a.name = b.name := by
  simp only [← Bool.not_eq_true, ByName.less_iff]
  by_cases ha : a.name = "" <;> by_cases hb : b.name = ""
  · simp [ha, hb]
  · simp [ha, hb, Ne.symm hb]
  · simp [hb, Ne.symm ha]
  · simp only [ha, hb, ne_eq, not_false_eq_true, true_and, false_or, not_lt]
    exact and_comm.trans le_antisymm_iff.symm

theorem ByName.less_irrefl (a : Row) : ¬ByName.less a a = true := by
  simp [ByName.less_iff]

theorem ByName.less_trans {a b c : Row} (hab : ByName.less a b = true) (hbc : ByName.less b c = true) :
    ByName.less a c = true := by
  rw [ByName.less_iff] at *
  rcases hbc.2 with hc | hbc'
  · exact ⟨hab.1, Or.inl hc⟩
  · exact ⟨hab.1, Or.inr (lt_trans (hab.2.resolve_left hbc.1) hbc')⟩

theorem ByName.incomp_trans {a b c : Row} (hab : ¬ByName.less a b = true ∧ ¬ByName.less b a = true)
    (hbc : ¬ByName.less b c = true ∧ ¬ByName.less c b = true) :
    ¬ByName.less a c = true ∧ ¬ByName.less c a = true := by
  simp only [Bool.not_eq_true] at *
  rw [ByName.incomp_iff] at *
  exact hab.trans hbc

instance byName_isStrictWeakOrder : IsStrictWeakOrder Row fun a b => ByName.less a b = true where
  irrefl := ByName.less_irrefl
  trans _ _ _ := ByName.less_trans
  incomp_trans _ _ _ := ByName.incomp_trans

/-- Rows in table order: every named row before every unnamed one, names ascending. -/
def NameOrdered (rows : List Row) : Prop :=
  rows.Pairwise fun a b => (a.name = "" → b.name = "") ∧ (a.name ≠ "" → b.name ≠ "" → a.name ≤ b.name)

theorem nameOrdered_of_sorted {rows : List Row} (h : rows.Pairwise fun a b => ByName.less b a = false) :
    NameOrdered rows := by
  refine h.imp fun {a b} hab => ?_
  rw [← Bool.not_eq_true, ByName.less_iff] at hab
  by_cases ha : a.name = "" <;> by_cases hb : b.name = "" <;> simp_all

theorem sort_byName (srt : Sorter Row) (data : List Row) :
    (srt.sort ByName.less data).Perm data ∧ NameOrdered (srt.sort ByName.less data) :=
  ⟨srt.perm _ _, nameOrdered_of_sorted (srt.sorted _ _ byName_isStrictWeakOrder)⟩

/-- `ByName.Less` is a strict weak ordering, so both tables come out of `sort.Sort` as a
permutation of their rows, named rows first, names ascending. -/
theorem byName_sorts_tables (srt : Sorter Row) :
    IsStrictWeakOrder Row (fun a b => ByName.less a b = true) ∧
    (∀ cinfos filters listsnaps,
      (listContainers srt cinfos filters listsnaps).table.rows.Perm
          ((cinfos.filter fun c => shouldShow filters c.state).map containerRow) ∧
        NameOrdered (listContainers srt cinfos filters listsnaps).table.rows) ∧
    (∀ fmts images t, showImages srt fmts images = .ok t →
      ∃ data, images.mapM (imageRow fmts) = .ok data ∧ t.rows.Perm data ∧ NameOrdered t.rows) := by
  refine ⟨byName_isStrictWeakOrder, fun cinfos filters listsnaps => sort_byName srt _, ?_⟩
  intro fmts images t h
  obtain ⟨data, hdata, rfl⟩ := showImages_ok h
  exact ⟨data, hdata, sort_byName srt data⟩

/-- Two containers with different names, one with a snapshot. -/
def webBox : ContainerInfo := ⟨⟨"web", ⟨"Running", .running, []⟩, Jmap.empty, false⟩, []⟩
def dbBox : ContainerInfo := ⟨⟨"db", ⟨"Stopped", .other 102, []⟩, Jmap.empty, false⟩, ["snap0"]⟩

/-- Two images, the first without an alias. -/
def bareImage : ImageInfo := ⟨[], "0123456789abcdef", false, Jmap.empty, 1, 0, 0⟩
def aliasedImage : ImageInfo := ⟨[⟨"xenial", ""⟩], "fedcba9876543210", true, Jmap.empty, 1, 0, 0⟩
def plainFormats : ImageFormats := ⟨fun _ => "x86_64", fun _ => "1.00MB", fun _ => "today"⟩

theorem showImages_aliased_first :
    ∃ t, showImages insertionSorter plainFormats [bareImage, aliasedImage] = .ok t ∧
      ∃ data, [bareImage, aliasedImage].mapM (imageRow plainFormats) = .ok data ∧
        t.rows.Perm data ∧ NameOrdered t.rows :=
  ⟨_, rfl, (byName_sorts_tables insertionSorter).2.2 plainFormats [bareImage, aliasedImage] _ rfl⟩

/-! ## (4) The other subcommands -/

/-- The image a request names. -/
def ImageRequest.image? : ImageRequest → Option String
  | .copyImage _ image .. => some image
  | .deleteImage _ image | .getImageInfo _ image | .editImage _ image | .exportImage _ image _
  | .showImage _ image => some image
  | _ => none

theorem dereferenceAlias_ne_empty {d : ImageClient} {inName : String} (h : inName ≠ "") :
    dereferenceAlias d inName ≠ "" := by
  unfold dereferenceAlias
  split_ifs with hg
  · exact h
  · exact hg

/-- `edit`'s fallback to the name as given never changes the image. -/
theorem edit_fallback_eq (d : ImageClient) (inName : String) :
    (if dereferenceAlias d inName = "" then inName else dereferenceAlias d inName) = dereferenceAlias d inName := by
  split_ifs with h
  · rw [h]
    by_contra hn
    exact dereferenceAlias_ne_empty hn h
  · rfl

/-- A client that cannot be made is its own error, never `errArgs`. -/
@[simp] theorem client_ne_errArgs {config : ImageCmdConfig} {remote : String} :
    config.client remote ≠ .error .errArgs := by
  unfold ImageCmdConfig.client
  cases config.newClient remote <;> simp [Except.mapError]

@[simp] theorem client_map_ne_errArgs {config : ImageCmdConfig} {remote : String} {β : Type}
    (f : ImageClient → β) : f <$> config.client remote ≠ .error .errArgs :=
  fun h => client_ne_errArgs (map_eq_error_iff.mp h)

theorem imageTarget_ok {config : ImageCmdConfig} {args : List String} {remote inName : String}
    {d : ImageClient} (h : imageTarget config args = .ok (remote, d, inName)) : inName ≠ "" := by
  unfold imageTarget at h
  rcases hp : config.parseRemoteAndContainer (args.getD 1 "") with ⟨r, n⟩
  simp only [hp] at h
  split_ifs at h with hl hn
  obtain ⟨_, -, he⟩ := bind_eq_ok_iff.mp h
  cases he
  exact hn

/-- `imageTarget` refuses exactly a missing or empty image name. -/
theorem imageTarget_errArgs_iff {config : ImageCmdConfig} {args : List String} :
    imageTarget config args = .error .errArgs ↔
      args.length < 2 ∨ (config.parseRemoteAndContainer (args.getD 1 "")).2 = "" := by
  unfold imageTarget
  rcases config.parseRemoteAndContainer (args.getD 1 "") with ⟨r, n⟩
  dsimp only
  split_ifs <;> simp_all

theorem doImageAlias_ok {config : ImageCmdConfig} {args : List String} {req : ImageRequest}
    (h : doImageAlias config args = .ok req) : req.image? = none := by
  unfold doImageAlias at h
  split_ifs at h <;> obtain ⟨_, -, he⟩ := bind_eq_ok_iff.mp h <;> cases he <;> rfl

/-- `image alias` refuses a subcommand it does not know and one with too few arguments. -/
theorem doImageAlias_errArgs_iff {config : ImageCmdConfig} {args : List String} :
    doImageAlias config args = .error .errArgs ↔
      (args.getD 1 "" = "create" ∧ args.length < 4) ∨ (args.getD 1 "" = "delete" ∧ args.length < 3) ∨
        args.getD 1 "" ∉ ["list", "create", "delete"] := by
  unfold doImageAlias
  split_ifs <;> simp_all

theorem imageCopy_ok {config : ImageCmdConfig} {flags : ImageCmdFlags} {args : List String}
    {req : ImageRequest} (h : imageCopy config flags args = .ok req) : ∀ image ∈ req.image?, image ≠ "" := by
  unfold imageCopy at h
  rcases hp : config.parseRemoteAndContainer (args.getD 1 "") with ⟨r, n⟩
  rcases hq : config.parseRemoteAndContainer (args.getD 2 "") with ⟨r', n'⟩
  simp only [hp, hq] at h
  split_ifs at h with hn hn'
  obtain ⟨d, -, h⟩ := bind_eq_ok_iff.mp h
  obtain ⟨_, -, he⟩ := bind_eq_ok_iff.mp h
  cases he
  rintro _ ⟨⟩
  exact dereferenceAlias_ne_empty hn

/-- `copy` refuses an empty source image and a destination that names an image. -/
theorem imageCopy_errArgs_iff {config : ImageCmdConfig} {flags : ImageCmdFlags} {args : List String} :
    imageCopy config flags args = .error .errArgs ↔
      (config.parseRemoteAndContainer (args.getD 1 "")).2 = "" ∨
        (config.parseRemoteAndContainer (args.getD 2 "")).2 ≠ "" := by
  unfold imageCopy
  rcases config.parseRemoteAndContainer (args.getD 1 "") with ⟨r, n⟩
  rcases config.parseRemoteAndContainer (args.getD 2 "") with ⟨r', n'⟩
  dsimp only
  split_ifs <;> simp_all [bind_eq_error_iff]

theorem imageList_ne_errArgs {config : ImageCmdConfig} {args : List String} :
    imageList config args ≠ .error .errArgs := by
  simp [imageList]

/-- `import` refuses its arguments exactly when there is no `args[1]`, or the loop leaves the
image file empty; the config takes no part. -/
theorem imageImport_errArgs_iff {config : ImageConfig} {pathExists : String → Bool} {flags : ImageFlags}
    {args : List String} :
    imageImport config pathExists flags args = .error .errArgs ↔
      ∀ first rest, args.tail = first :: rest → (first :: rest).any (isFileArg pathExists) = true → first = "" := by
  unfold imageImport
  split
  · rename_i first rest
    have key : (∀ f r, first :: rest = f :: r → (f :: r).any (isFileArg pathExists) = true → f = "") ↔
        ((first :: rest).any (isFileArg pathExists) = true → first = "") :=
      ⟨fun h => h _ _ rfl, fun h _ _ he => by cases he; exact h⟩
    rw [List.tail_cons, key]
    dsimp only
    rw [importStep_imageFile _ _ _ _ _ rfl]
    by_cases hf : (first :: rest).any (isFileArg pathExists) = true ∧ first ≠ ""
    · have hne : ¬((first :: rest).any (isFileArg pathExists) = true → first = "") := fun h => hf.2 (h hf.1)
      rw [if_neg (by rw [if_pos hf.1]; exact hf.2), iff_false_intro hne, iff_false]
      split
      · exact fun h => by cases h
      · split_ifs <;> exact fun h => by cases h
    · have hfile : (if (first :: rest).any (isFileArg pathExists) = true then first else "") = "" := by
        split_ifs with ha
        · exact not_not.mp fun hn => hf ⟨ha, hn⟩
        · rfl
      rw [if_pos hfile]
      exact iff_of_true rfl fun ha => by simpa [ha] using hfile
  · rename_i hargs
    simp only [true_iff]
    intro first rest hr
    cases args with
    | nil => cases hr
    | cons a t => exact (hargs a first rest (congrArg (List.cons a) hr)).elim

/-- A request made from `imageTarget`'s answer, naming the resolved image, names a non-empty one. -/
theorem imageTarget_map_image {config : ImageCmdConfig} {args : List String} {req : ImageRequest}
    {f : String × ImageClient × String → ImageRequest} (h : (imageTarget config args).map f = .ok req)
    (hf : ∀ remote d inName, (f (remote, d, inName)).image? = some (dereferenceAlias d inName)) :
    ∀ image ∈ req.image?, image ≠ "" := by
  obtain ⟨⟨remote, d, inName⟩, ht, rfl⟩ := map_eq_ok_iff.mp h
  rw [hf]
  rintro _ ⟨⟩
  exact dereferenceAlias_ne_empty (imageTarget_ok ht)

/-- Every request names a non-empty image: each subcommand refuses an empty image name with
`errArgs`, and an alias resolves to an empty target only for an empty name. -/
theorem imageCmd_run_image_ne_empty (config : ImageCmdConfig) (pathExists : String → Bool)
    (flags : ImageCmdFlags) (args : List String) (req : ImageRequest)
    (h : imageCmd.run config pathExists flags args = .ok req) : ∀ image ∈ req.image?, image ≠ "" := by
  rcases args with _ | ⟨sub, rest⟩
  · cases h
  rcases hs : ImageSub.ofString sub with _ | (_ | _ | _ | _ | _ | _ | _ | _ | _) <;>
    simp only [imageCmd.run, hs] at h
  case none => cases h
  case aliasCase =>
    split_ifs at h
    simp [doImageAlias_ok h]
  case copyCase =>
    split_ifs at h
    exact imageCopy_ok h
  case importCase =>
    obtain ⟨_, -, rfl⟩ := map_eq_ok_iff.mp h
    simp [ImageRequest.image?]
  case listCase =>
    obtain ⟨_, -, he⟩ := bind_eq_ok_iff.mp h
    cases he
    simp [ImageRequest.image?]
  case editCase => exact imageTarget_map_image h fun _ d inName => congrArg some (edit_fallback_eq d inName)
  all_goals exact imageTarget_map_image h fun _ _ _ => rfl

/-- One remote, `local`, on which `ubuntu` is an alias. -/
def aliasConfig : ImageCmdConfig :=
  ⟨"local", id, fun s => ("local", s), fun _ => .ok ⟨fun n => if n = "ubuntu" then "3f7a9c0b1d2e" else ""⟩⟩

theorem delete_resolves_alias :
    imageCmd.run aliasConfig (fun _ => false) ⟨⟨false, []⟩, false⟩ ["delete", "ubuntu"] =
        .ok (.deleteImage "local" "3f7a9c0b1d2e") ∧
      ∀ image ∈ (ImageRequest.deleteImage "local" "3f7a9c0b1d2e").image?, image ≠ "" :=
  ⟨rfl, imageCmd_run_image_ne_empty aliasConfig (fun _ => false) ⟨⟨false, []⟩, false⟩ ["delete", "ubuntu"] _ rfl⟩

/-- The same remote, unreachable. -/
def offlineConfig : ImageCmdConfig := { aliasConfig with newClient := fun _ => .error "unreachable" }

theorem fingerprintPrefix_ok_iff {fp p : String} :
    fingerprintPrefix fp = .ok p ↔ 12 ≤ len fp ∧ p = sliceTo fp 12 := by
  unfold fingerprintPrefix
  split_ifs with h <;> simp [h, eq_comm]

theorem imageRow_ok_iff {fmts : ImageFormats} {image : ImageInfo} :
    (∃ r, imageRow fmts image = .ok r) ↔ 12 ≤ len image.fingerprint := by
  simp only [imageRow, exists_bind_pure_eq_ok, fingerprintPrefix_ok_iff, exists_eq_right]

theorem showImages_ok_iff {srt : Sorter Row} {fmts : ImageFormats} {images : List ImageInfo} :
    (∃ t, showImages srt fmts images = .ok t) ↔ ∀ i ∈ images, 12 ≤ len i.fingerprint := by
  simp only [showImages, exists_bind_pure_eq_ok, mapM_ok_iff, imageRow_ok_iff]

theorem showAliases_ok_iff {aliases : List ImageAlias} :
    (∃ t, showAliases aliases = .ok t) ↔ ∀ a ∈ aliases, 12 ≤ len a.name := by
  simp only [showAliases, exists_bind_pure_eq_ok, mapM_ok_iff, fingerprintPrefix_ok_iff, exists_eq_right]

/-- The loop of `findDescription` finds the one entry under `description`: it returns
`props["description"]`, whatever order the range visits the properties in. -/
theorem findDescription_eq (props : Jmap String) :
    findDescription props = (props.get? "description").getD "" := by
  unfold findDescription Jmap.get?
  generalize props.entries = entries
  induction entries with
  | nil => rfl
  | cons e entries ih =>
    obtain ⟨k, v⟩ := e
    by_cases hk : k = "description"
    · subst hk
      simp
    · simpa only [List.find?_cons, beq_false_of_ne hk, List.lookup_cons, beq_false_of_ne (Ne.symm hk)] using ih

/-- Each image's properties visited in any other order render the same image table: the
DESCRIPTION column reads the one entry under `description`. -/
theorem showImages_congr_properties (srt : Sorter Row) (fmts : ImageFormats) (images : List ImageInfo)
    (props : ImageInfo → Jmap String) (hp : ∀ image ∈ images, Jmap.Same (props image) image.properties) :
    showImages srt fmts (images.map fun image => { image with properties := props image }) =
      showImages srt fmts images := by
  unfold showImages
  rw [mapM_map_congr fun image himage => ?_]
  simp only [imageRow, findDescription_eq, hp image himage "description"]

/-- An image's properties in two visiting orders. -/
def ubuntuProps : Jmap String := ⟨[("os", "ubuntu"), ("description", "Ubuntu 16.04")], by decide⟩
def ubuntuPropsSwapped : Jmap String := ⟨[("description", "Ubuntu 16.04"), ("os", "ubuntu")], by decide⟩
def ubuntuImage : ImageInfo := { bareImage with properties := ubuntuProps }

theorem ubuntuProps_same : ∀ image ∈ [ubuntuImage], Jmap.Same ubuntuPropsSwapped image.properties := by
  intro image himage k
  rw [List.mem_singleton.mp himage]
  by_cases h1 : k = "description"
  · subst h1
    rfl
  · by_cases h2 : k = "os"
    · subst h2
      rfl
    · simp [Jmap.get?, ubuntuImage, ubuntuProps, ubuntuPropsSwapped, List.lookup_cons,
        beq_false_of_ne h1, beq_false_of_ne h2]

theorem ubuntu_table_order_free :
    (∀ image ∈ [ubuntuImage], Jmap.Same ubuntuPropsSwapped image.properties) ∧
      showImages insertionSorter plainFormats
          ([ubuntuImage].map fun image => { image with properties := ubuntuPropsSwapped }) =
        showImages insertionSorter plainFormats [ubuntuImage] :=
  ⟨ubuntuProps_same, showImages_congr_properties insertionSorter plainFormats [ubuntuImage]
    (fun _ => ubuntuPropsSwapped) ubuntuProps_same⟩

end Xlxd.Xlxc
