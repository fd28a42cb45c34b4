/-
  Xlxd.Xlxc.ListProofs — what `lxc list` shows (see `Xlxd.Xlxc.List`).

  (1) The filter rule (`shouldShow_iff_selected`): when, for every `key=value` filter, at
      most one config key is dot-prefix-matched by `key` (`Unambiguous`), a container is
      shown exactly when every plain filter is a substring of its name and every
      `key=value` filter has a matched config key holding `value` (`Selected`). This holds
      in every order the config loop visits the keys, and each filter's verdict is the same
      in every order its own range draws (`filterMatches_congr_config`).
  (2) As built, an ambiguous key is decided by the first matched key the loop visits
      (`configMatch`), and a `key=value` filter's full key also dot-prefix-matches the
      longer keys that extend its last member (`user.a` matches `user.ab`). So one
      container's visibility changes with Go's map order (`shouldShow_order_dependent`),
      and a filter naming a key in full can miss that key's own entry
      (`full_key_filter_misses_own_entry`). Both are stated for a single filter, whose
      check is a single range over the config.
  (3) `listCmd.run` tests ':' before '=' on its first argument, so a filter whose value
      holds ':' is read as `remote:container` and dropped from the filters: over containers
      `a` (the one the filter means) and `ab`, no remote parser lists `a` alone
      (`url_filter_read_as_remote`).
  (4) The snapshot lines are printed when one container reached `listContainers`,
      whether or not its row is in the table (`snapshots_of_filtered_out_container`).
  (5) A first argument with neither ':' nor '=' is a name prefix, not a substring filter
      (`listCmd_run_name_prefix`): it selects the containers whose names start with it, and
      as the filter it also stays it selects nothing more.
-/

import Xlxd.Xlxc.List

namespace Xlxd.Xlxc

open Go

/-! ## (1) The filter rule -/

/-- No `key=value` filter's key (the part before its first '=') dot-prefix-matches two
config keys. -/
def Unambiguous (filters : List String) (state : ContainerState) : Prop :=
  ∀ f ∈ filters, ∀ key value, '=' ∉ key.toList → f = key ++ "=" ++ value →
    ∀ k₁ ∈ state.config.keys, ∀ k₂ ∈ state.config.keys,
      dotPrefixMatch key k₁ = true → dotPrefixMatch key k₂ = true → k₁ = k₂

/-- What the filters select: each plain filter is a substring of the name, and each
`key=value` filter (split at its first '=') has a config key that `key` dot-prefix-matches,
holding `value`. -/
def Selected (filters : List String) (state : ContainerState) : Prop :=
  (∀ f ∈ filters, '=' ∉ f.toList → contains state.name f = true) ∧
  (∀ f ∈ filters, ∀ key value, '=' ∉ key.toList → f = key ++ "=" ++ value →
    ∃ k, dotPrefixMatch key k = true ∧ state.config.get? k = some value)

/-- With at most one config key matched by `key`, the config loop answers whether a matched
key holds `value`, in whatever order it visits the keys. -/
theorem configMatch_iff_of_unique {key value : String} {config : Jmap String}
    (huniq : ∀ k₁ ∈ config.keys, ∀ k₂ ∈ config.keys,
      dotPrefixMatch key k₁ = true → dotPrefixMatch key k₂ = true → k₁ = k₂) :
    configMatch key value config = true ↔ ∃ k, dotPrefixMatch key k = true ∧ config.get? k = some value := by
  unfold configMatch
  split
  · rename_i k v hfind
    have hmem := List.mem_of_find?_eq_some hfind
    have hk : dotPrefixMatch key k = true := by simpa using List.find?_some hfind
    constructor
    · intro hv
      rw [beq_iff_eq] at hv
      exact ⟨k, hk, Jmap.get?_eq_some_iff.mpr (hv ▸ hmem)⟩
    · rintro ⟨k', hk', hget⟩
      have hkk : k = k' := huniq k (List.mem_map_of_mem Prod.fst hmem) k'
        (Jmap.mem_keys_iff.mpr ⟨value, hget⟩) hk hk'
      have := Jmap.get?_eq_some_iff.mpr hmem
      rw [hkk, hget, Option.some.injEq] at this
      simp [this]
  · rename_i hfind
    simp only [Bool.false_eq_true, false_iff, not_exists, not_and]
    exact fun k hk hget => List.find?_eq_none.mp hfind _ (Jmap.get?_eq_some_iff.mp hget) hk

/-- One filter of an unambiguous list: `filterMatches` is its part of `Selected`. -/
theorem filterMatches_iff_of_unambiguous {state : ContainerState} {f : String}
    (hamb : Unambiguous [f] state) : filterMatches state f = true ↔ Selected [f] state := by
  simp only [Selected, List.mem_singleton, forall_eq]
  by_cases h : '=' ∈ f.toList
  · obtain ⟨key, value, hk, rfl⟩ := eq_kv_of_mem h
    rw [filterMatches_kv hk, configMatch_iff_of_unique (hamb _ (List.mem_singleton_self _) key value hk rfl)]
    refine ⟨fun hm => ⟨fun hn => absurd h hn, fun key' value' hk' he => ?_⟩, fun hm => hm.2 key value hk rfl⟩
    obtain ⟨rfl, rfl⟩ := kv_inj hk hk' he
    exact hm
  · have hnkv : ∀ key value : String, f ≠ key ++ "=" ++ value := fun key value he => h (by simp [he])
    rw [filterMatches_of_not_mem h]
    exact ⟨fun hm => ⟨fun _ => hm, fun key value _ he => absurd he (hnkv key value)⟩, fun hm => hm.1 h⟩

theorem selected_iff {filters : List String} {state : ContainerState} :
    Selected filters state ↔ ∀ f ∈ filters, Selected [f] state := by
  simp only [Selected, List.mem_singleton, forall_eq]
  exact ⟨fun h f hf => ⟨h.1 f hf, h.2 f hf⟩, fun h => ⟨fun f hf => (h f hf).1, fun f hf => (h f hf).2⟩⟩

/-- When no filter's key is ambiguous in the config, `shouldShow` is `Selected`, whatever
order the config loop visits the keys in. -/
theorem shouldShow_iff_selected (filters : List String) (state : ContainerState)
    (hamb : Unambiguous filters state) : shouldShow filters state = true ↔ Selected filters state := by
  rw [shouldShow_iff, selected_iff]
  exact forall₂_congr fun f hf => filterMatches_iff_of_unambiguous
    fun f' hf' => hamb f' (List.mem_singleton.mp hf' ▸ hf)

/-- A range over a config the same map as `state`'s, in any visiting order, gives each
filter the verdict it gives on `state` when no key is ambiguous: Go's fresh order per range
then does not matter. -/
theorem filterMatches_congr_config {state : ContainerState} {f : String} {config : Jmap String}
    (hamb : Unambiguous [f] state) (hs : Jmap.Same config state.config) :
    filterMatches { state with config } f = filterMatches state f := by
  have hget : ∀ k, config.get? k = state.config.get? k := hs
  have hkeys : ∀ k, k ∈ config.keys ↔ k ∈ state.config.keys := fun k => by
    simp only [Jmap.mem_keys_iff, hget]
  have hamb' : Unambiguous [f] { state with config } := fun f' hf' key value hk he k₁ h₁ k₂ h₂ =>
    hamb f' hf' key value hk he k₁ ((hkeys k₁).mp h₁) k₂ ((hkeys k₂).mp h₂)
  rw [Bool.eq_iff_iff, filterMatches_iff_of_unambiguous hamb', filterMatches_iff_of_unambiguous hamb]
  simp only [Selected, hget]

/-- A web container with one user key, filtered by a plain filter and an abbreviated key. -/
def webState : ContainerState :=
  ⟨"web1", ⟨"Running", .running, []⟩, ⟨[("user.env", "prod"), ("limits.cpu", "2")], by decide⟩, false⟩

theorem webFilters_unambiguous : Unambiguous ["web", "u.env=prod"] webState := by
  intro f hf key value hk he
  have hm : '=' ∈ (key ++ "=" ++ value).toList := by simp
  simp only [List.mem_cons, List.mem_singleton, List.not_mem_nil, or_false] at hf
  rcases hf with rfl | rfl
  · rw [← he] at hm
    exact absurd hm (by decide)
  · have hkey : key = "u.env" := (kv_inj hk (by decide : '=' ∉ "u.env".toList)
      (he.symm.trans (by decide : "u.env=prod" = "u.env" ++ "=" ++ "prod"))).1
    subst hkey
    decide

theorem shouldShow_web_selected :
    Unambiguous ["web", "u.env=prod"] webState ∧
      (shouldShow ["web", "u.env=prod"] webState = true ↔ Selected ["web", "u.env=prod"] webState) :=
  ⟨webFilters_unambiguous, shouldShow_iff_selected _ _ webFilters_unambiguous⟩

/-! ## (2) As built: the first matched key decides -/

/-- `user.a` and `user.ab`, visited in either order. -/
def abConfig : Jmap String := ⟨[("user.a", "1"), ("user.ab", "2")], by decide⟩
def abConfigRev : Jmap String := ⟨[("user.ab", "2"), ("user.a", "1")], by decide⟩

def abState (config : Jmap String) : ContainerState := ⟨"c1", ⟨"Running", .running, []⟩, config, false⟩

theorem shouldShow_order_dependent :
    abConfig.entries.Perm abConfigRev.entries ∧
    shouldShow ["user.a=1"] (abState abConfig) = true ∧
    shouldShow ["user.a=1"] (abState abConfigRev) = false :=
  ⟨List.Perm.swap _ _ [], by decide, by decide⟩

theorem full_key_filter_misses_own_entry :
    '=' ∉ "user.a".toList ∧ abConfigRev.get? "user.a" = some "1" ∧
    shouldShow ["user.a" ++ "=" ++ "1"] (abState abConfigRev) = false ∧
    shouldShow ["user.a" ++ "=" ++ "2"] (abState abConfigRev) = true :=
  ⟨by decide, rfl, by decide, by decide⟩

/-! ## (3) A filter holding ':' -/

/-- A container `a` with `user.url` set, and a container `ab` without it. -/
def urlBox : ContainerInfo :=
  ⟨⟨"a", ⟨"Stopped", .other 102, []⟩, ⟨[("user.url", "https://x")], by decide⟩, false⟩, []⟩
def plainBox : ContainerInfo := ⟨⟨"ab", ⟨"Stopped", .other 102, []⟩, Jmap.empty, false⟩, []⟩

/-- Whatever the remote parser and the default remote, `lxc list user.url=https://x` over
the two containers does not list `urlBox` alone: the argument is read as `remote:container`,
no filter is left, and a name prefix that keeps `a` keeps `ab` too. -/
theorem url_filter_read_as_remote (srt : Sorter Row) (dflt : String) (parse : String → String × String) :
    ((listCmd.run srt ⟨dflt, parse, fun _ => .ok ⟨.ok [urlBox, plainBox]⟩⟩ ["user.url=https://x"]).map
      fun l => l.table.rows) ≠ .ok [containerRow urlBox] := by
  have hc : contains "user.url=https://x" ":" = true := by decide
  -- a name prefix that keeps `a` keeps `ab`: both are selected, `ab` alone, or neither
  have hsel : ∀ p, withPrefix p [urlBox, plainBox] = [urlBox, plainBox] ∨
      withPrefix p [urlBox, plainBox] = [plainBox] ∨ withPrefix p [urlBox, plainBox] = [] := by
    intro p
    have hmono : hasPrefix "a" p = true → hasPrefix "ab" p = true := by
      simp only [hasPrefix_iff]
      exact fun h => h.trans ⟨['b'], rfl⟩
    unfold withPrefix
    split_ifs
    · exact .inl rfl
    cases ha : hasPrefix "a" p <;> cases hb : hasPrefix "ab" p <;>
      simp only [List.filter, urlBox, plainBox, ha, hb, true_or, or_true]
    exact absurd (hmono ha) (by simp [hb])
  rw [listCmd.run_of_remote _ _ _ _ _ rfl rfl]
  simp only [Except.map, listArgs, hc, if_true, listContainers, shouldShow, List.all_nil, List.filter_true,
    ne_eq, Except.ok.injEq]
  intro h
  -- the table is a permutation of the selected containers' rows
  have hp := srt.perm ByName.less ((withPrefix (parse "user.url=https://x").2 [urlBox, plainBox]).map containerRow)
  rw [h] at hp
  rcases hsel (parse "user.url=https://x").2 with hw | hw | hw <;> rw [hw] at hp
  · exact absurd hp.length_eq (by simp)
  · exact absurd (congrArg Row.name (List.singleton_perm_singleton.mp hp)) (by simp [urlBox, plainBox])
  · exact absurd hp.length_eq (by simp)

/-! ## (4) Snapshots of a container the filters hide -/

def snapBox : ContainerInfo := ⟨⟨"c1", ⟨"Running", .running, []⟩, Jmap.empty, false⟩, ["snap0"]⟩

theorem snapshots_of_filtered_out_container (srt : Sorter Row) (dflt : String)
    (parse : String → String × String) :
    listCmd.run srt ⟨dflt, parse, fun _ => .ok ⟨.ok [snapBox]⟩⟩ ["c1", "user.x=1"] =
      .ok ⟨⟨listHeader, []⟩, ["Snapshots:", "  snap0"]⟩ := by
  have hargs : listArgs ⟨dflt, parse, fun _ => .ok ⟨.ok [snapBox]⟩⟩ ["c1", "user.x=1"] =
      (dflt, "c1", ["c1", "user.x=1"]) := by simp [listArgs]
  have hcts : withPrefix "c1" [snapBox] = [snapBox] := by decide
  have hhide : shouldShow ["c1", "user.x=1"] snapBox.state = false := by decide
  rw [listCmd.run_of_remote _ _ _ _ _ rfl rfl]
  simp only [hargs, hcts, listContainers, List.filter_cons, hhide, Bool.false_eq_true, ↓reduceIte,
    List.filter_nil, List.map_nil, (srt.perm _ []).eq_nil]
  rfl

/-! ## (5) A first argument that names containers -/

/-- Every container `withPrefix name` keeps passes the plain filter `name`. -/
theorem filterMatches_of_mem_withPrefix {name : String} {ctslist : List ContainerInfo} {c : ContainerInfo}
    (he : '=' ∉ name.toList) (hc : c ∈ withPrefix name ctslist) : filterMatches c.state name = true := by
  rw [filterMatches_of_not_mem he, contains_iff]
  unfold withPrefix at hc
  split_ifs at hc with hn
  · rw [hn]
    exact List.nil_infix
  · exact (hasPrefix_iff.mp (List.mem_filter.mp hc).2).isInfix

theorem listContainers_congr_filters {srt : Sorter Row} {cinfos : List ContainerInfo} {filters filters' : List String}
    (listsnaps : Bool) (h : ∀ c ∈ cinfos, shouldShow filters c.state = shouldShow filters' c.state) :
    listContainers srt cinfos filters listsnaps = listContainers srt cinfos filters' listsnaps := by
  unfold listContainers
  rw [List.filter_congr h]

/-- A first argument with neither ':' nor '=' selects the containers whose names start with
it (`lxc list web` leaves out `myweb`). It also stays among the filters, where it selects
nothing more: the listing is the one of the remaining arguments over those containers. -/
theorem listCmd_run_name_prefix (srt : Sorter Row) (config : Config) (name : String) (rest : List String)
    (hc : contains name ":" = false) (he : contains name "=" = false) :
    listCmd.run srt config (name :: rest) = (do
      let d ← config.newClient config.defaultRemote
      let ctslist ← d.listContainers
      let cts := withPrefix name ctslist
      pure (listContainers srt cts rest (cts.length == 1))) := by
  have hne : '=' ∉ name.toList := fun hm =>
    absurd (show contains name "=" = true from contains_singleton.mpr hm) (by rw [he]; decide)
  have hargs : listArgs config (name :: rest) = (config.defaultRemote, name, name :: rest) := by
    simp [listArgs, hc, he]
  simp only [listCmd.run, hargs, ite_self]
  cases config.newClient config.defaultRemote with
  | error e => rfl
  | ok d =>
    simp only [bind, Except.bind]
    cases d.listContainers with
    | error e => rfl
    | ok ctslist =>
      refine congrArg Except.ok (listContainers_congr_filters _ fun c hc' => ?_)
      simp only [shouldShow, List.all_cons, filterMatches_of_mem_withPrefix hne hc', Bool.true_and]

/-- A remote holding `web1` and `myweb`. -/
def webConfig : Config :=
  ⟨"local", fun s => ("local", s), fun _ => .ok ⟨.ok [⟨{ webState with name := "web1" }, []⟩,
    ⟨{ webState with name := "myweb" }, []⟩]⟩⟩

theorem list_web_is_prefix :
    contains "web" ":" = false ∧ contains "web" "=" = false ∧
      listCmd.run insertionSorter webConfig ["web"] = (do
        let d ← webConfig.newClient webConfig.defaultRemote
        let ctslist ← d.listContainers
        let cts := withPrefix "web" ctslist
        pure (listContainers insertionSorter cts [] (cts.length == 1))) :=
  ⟨by decide, by decide, listCmd_run_name_prefix insertionSorter webConfig "web" [] (by decide) (by decide)⟩

end Xlxd.Xlxc
