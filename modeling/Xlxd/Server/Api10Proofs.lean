/-
  Xlxd.Server.Api10Proofs — what `GET /1.0` reveals, and what `PUT /1.0` applies (see
  `Xlxd.Server.Api10`).

  (1) Noninterference (`api10Get_hides_trust_password`): two daemons whose server configs
      differ only in the value stored under `core.trust_password` (the key in both or in
      neither) give every request, trusted or not, the same response. The config copy
      stores `true` under that key (`get?_copyConfig`), and nothing else in the body reads
      the config (`api10GetTrusted_ok`). Responses are compared as Go values: maps by
      their contents (`Jmap.Same`), whatever order the copy loop visited. An untrusted
      caller sees only `api_compat`. A trusted one is answered `InternalError` with the
      error of the first of its reads that failed (`trustedReadErrors`: `uname`, the listen
      addresses, cpuinfo, meminfo, the server config), and otherwise sees every other key of
      the server config with its stored value (`api10Get_trusted_config`).
  (2) `PUT /1.0` is not atomic (`api10Put_stops_at_first_failure`). The handler runs the
      keys in visiting order. It answers `EmptySyncResponse` only after running every key,
      each one `ConfigKeyIsValid` accepts with a string value; otherwise it stops at the
      first key that fails, with that key's failure (`KeyFailure`): `BadRequest` naming a
      rejected key, before any call; `InternalError` carrying the error of a daemon call
      (`Backend.CallError`); or the panic of `value.(string)` on a value that is not a
      string. The keys before it stay applied, and so do its own calls up to the failing
      one; no later key runs. On an in-memory daemon, a
      valid key followed by an unknown one answers `BadRequest` with the valid key stored,
      and a number where a string is expected panics
      (`api10Put_keeps_earlier_keys_and_panics`). Which rejected key the answer names is
      left to the map's visiting order: each is named, with nothing applied, in an order
      that visits it first (`api10Put_names_any_rejected_key`).
  (3) `api10Put_ok_wellformed`: an `EmptySyncResponse` means every key was one
      `ConfigKeyIsValid` accepts and every value a string, and a request whose loop reaches
      a rejected key is answered `BadRequest` naming it, with the state the earlier keys
      left. Conversely, on a daemon whose
      calls all succeed (`Backend.Reliable`), such a request is answered `EmptySyncResponse`
      (`api10Put_ok_of_wellformed`).
  (4) The kernel strings. Each is its `uname` field up to the first zero, each element taken
      as the character whose code is its byte (`api10Environment_uname`, `bytes_utsLoop`).
      Go's `string(byte(c))` is the UTF-8 of that code point, so byte for byte
      (`api10Get_kernel_bytes`, `UtsString`) a string is the field's raw bytes exactly when
      they are all below 0x80; a byte from 0x80 on becomes two. A release holding "é" in
      UTF-8 reaches the body as "Ã©" (`kernel_version_bytes_reencoded`).
  (5) Which daemon calls a key reaches, said as frames: a backend changed only where a
      request cannot reach answers it the same, with the same state (`api10Put_congr`).
      The trust password goes to `PasswordSet` alone, never to `ConfigValueSet`
      (`api10Put_never_configValueSet_trust_password`). `SetupStorageDriver` runs only for
      `storage.lvm_vg_name` and `storage.zfs_pool_name`, not for `storage.lvm_thinpool_name`
      (`api10Put_setup_only_for_pool_keys`).
-/

import Xlxd.Go.Errors
import Xlxd.Go.Strings
import Xlxd.Server.Api10

namespace Xlxd.Server

open Go

/-! ## (1) Noninterference -/

/-- Two responses are the same Go value, bodies compared by `R`. -/
def Response.Rel {β : Type} (R : β → β → Prop) : Response β → Response β → Prop
  | .sync s m, .sync s' m' => s = s' ∧ Option.Rel R m m'
  | .error c e, .error c' e' => c = c' ∧ e = e'
  | _, _ => False

/-- Two bodies are the same Go value: equal fields, the config maps the same map. -/
def Api10Body.Same (b b' : Api10Body) : Prop :=
  b.apiCompat = b'.apiCompat ∧ b.auth = b'.auth ∧ b.environment = b'.environment ∧
    Option.Rel Jmap.Same b.config b'.config

/-- The value the copy loop stores under `k`. -/
def hideTrust (k v : String) : JVal := if k = "core.trust_password" then .bool true else .str v

/-- The config copy is the server config with `hideTrust` applied to each value. -/
theorem get?_copyConfig (m : Jmap String) (k : String) :
    (m.entries.foldl copyConfigValue Jmap.empty).get? k = (m.get? k).map (hideTrust k) := by
  have hstep : copyConfigValue = fun c e => c.set e.1 (hideTrust e.1 e.2) := by
    funext c e
    unfold copyConfigValue hideTrust
    split_ifs <;> rfl
  rw [hstep, Jmap.get?, Jmap.foldl_set_empty, ← Jmap.get?, Jmap.get?_map]

theorem copyConfig_same {m₁ m₂ : Jmap String}
    (hother : ∀ k, k ≠ "core.trust_password" → m₁.get? k = m₂.get? k)
    (hkey : (m₁.get? "core.trust_password").isSome = (m₂.get? "core.trust_password").isSome) :
    Jmap.Same (m₁.entries.foldl copyConfigValue Jmap.empty) (m₂.entries.foldl copyConfigValue Jmap.empty) := by
  intro k
  rw [get?_copyConfig, get?_copyConfig]
  by_cases hk : k = "core.trust_password"
  · subst hk
    cases h₁ : m₁.get? "core.trust_password" <;> cases h₂ : m₂.get? "core.trust_password" <;>
      simp_all [hideTrust]
  · rw [hother k hk]

/-- The trusted branch reads the config last and only for the `config` field. -/
theorem api10GetTrusted_ok (h : Host) (d : Daemon) (m : Jmap String) :
    api10GetTrusted h { d with configValues := .ok m } =
      (api10Environment h d).map fun env =>
        ⟨h.apiCompat, "trusted", some env, some (m.entries.foldl copyConfigValue Jmap.empty)⟩ := by
  have henv : api10Environment h { d with configValues := .ok m } = api10Environment h d := rfl
  unfold api10GetTrusted
  rw [henv]
  cases api10Environment h d <;> rfl

/-- Whatever value `core.trust_password` holds, `GET /1.0` answers the same: the value
never reaches the body, whose config holds `true` under that key. -/
theorem api10Get_hides_trust_password (h : Host) (d : Daemon) (m₁ m₂ : Jmap String) (r : Request)
    (hother : ∀ k, k ≠ "core.trust_password" → m₁.get? k = m₂.get? k)
    (hkey : (m₁.get? "core.trust_password").isSome = (m₂.get? "core.trust_password").isSome) :
    Response.Rel Api10Body.Same (api10Get h { d with configValues := .ok m₁ } r)
        (api10Get h { d with configValues := .ok m₂ } r) ∧
      ∀ body m, api10Get h { d with configValues := .ok m₁ } r = .sync true (some body) →
        body.config = some m →
        m.get? "core.trust_password" = (m₁.get? "core.trust_password").map fun _ => .bool true := by
  unfold api10Get
  by_cases hr : r.trusted = true
  · simp only [hr, if_true, api10GetTrusted_ok]
    cases api10Environment h d with
    | error err => exact ⟨⟨rfl, rfl⟩, fun body m hb => by cases hb⟩
    | ok env =>
      refine ⟨⟨rfl, .some ⟨rfl, rfl, rfl, .some (copyConfig_same hother hkey)⟩⟩, fun body m hb hm => ?_⟩
      cases hb
      cases hm
      rw [get?_copyConfig]
      rfl
  · simp only [hr, Bool.false_eq_true, if_false]
    exact ⟨⟨rfl, .some ⟨rfl, rfl, rfl, .none⟩⟩, fun body m hb hm => by cases hb; cases hm⟩

/-- Two stored password hashes under the same other key. -/
def hashConfigA : Jmap String := ⟨[("core.trust_password", "hashA"), ("images.remote_cache_expiry", "10")], by decide⟩
def hashConfigB : Jmap String := ⟨[("core.trust_password", "hashB"), ("images.remote_cache_expiry", "10")], by decide⟩

def sampleHost : Host := ⟨.ok ⟨[], [], []⟩, .ok (1, 2), .ok 2048, 42, "1.0.0", 1, "0.20"⟩
def sampleDaemon : Daemon := ⟨[2], "dir", "", .ok ["10.0.0.1:8443"], .ok Jmap.empty⟩

theorem hashConfigs_agree_off_password :
    ∀ k, k ≠ "core.trust_password" → hashConfigA.get? k = hashConfigB.get? k := by
  intro k hk
  have hb : (k == "core.trust_password") = false := by simpa using hk
  simp [hashConfigA, hashConfigB, Jmap.get?, List.lookup_cons, hb]

theorem api10Get_hides_sample_hash :
    Response.Rel Api10Body.Same (api10Get sampleHost { sampleDaemon with configValues := .ok hashConfigA } ⟨true⟩)
        (api10Get sampleHost { sampleDaemon with configValues := .ok hashConfigB } ⟨true⟩) ∧
      ∀ body m, api10Get sampleHost { sampleDaemon with configValues := .ok hashConfigA } ⟨true⟩ =
          .sync true (some body) → body.config = some m →
        m.get? "core.trust_password" = (hashConfigA.get? "core.trust_password").map fun _ => .bool true :=
  api10Get_hides_trust_password sampleHost sampleDaemon hashConfigA hashConfigB ⟨true⟩
    hashConfigs_agree_off_password rfl

/-- The error a read failed with, `none` when it succeeded. -/
def readError {α : Type} : Except String α → Option String
  | .error err => some err
  | .ok _ => none

/-- The reads a trusted `GET /1.0` makes, in the order it makes them: `uname`, the listen
addresses, `/proc/cpuinfo`, `/proc/meminfo` and the server config, each as its error if it
failed. -/
def trustedReadErrors (h : Host) (d : Daemon) : List (Option String) :=
  [readError h.uname, readError d.listenAddresses, readError h.cpuinfo, readError h.meminfo,
    readError d.configValues]

/-- A trusted caller is answered `InternalError` with the error of the first read that
failed; when none failed, the environment and a copy of the server config holding every key
of it and no other, each with its stored string, but `core.trust_password` reported as
`true`. -/
theorem api10Get_trusted_config (h : Host) (d : Daemon) (r : Request) (hr : r.trusted = true) :
    (∀ err, (trustedReadErrors h d).findSome? id = some err → api10Get h d r = internalError err) ∧
    ((trustedReadErrors h d).findSome? id = none →
      ∃ env m config, api10Environment h d = .ok env ∧ d.configValues = .ok m ∧
        api10Get h d r = .sync true (some ⟨h.apiCompat, "trusted", some env, some config⟩) ∧
        ∀ k, config.get? k = (m.get? k).map (hideTrust k)) := by
  obtain ⟨uname, cpuinfo, meminfo, pid, lxc, api, ver⟩ := h
  obtain ⟨arch, stn, stv, addresses, config⟩ := d
  simp only [api10Get, hr, if_true, api10GetTrusted, api10Environment, trustedReadErrors]
  -- the reads in the order the handler makes them: the first that failed ends it
  rcases uname with e | u
  · simp [readError, bind, Except.bind]
  rcases addresses with e | a
  · simp [readError, bind, Except.bind]
  rcases cpuinfo with e | c
  · simp [readError, bind, Except.bind]
  rcases meminfo with e | mem
  · simp [readError, bind, Except.bind]
  rcases config with e | m
  · simp [readError, bind, Except.bind, pure, Except.pure]
  simp [readError, bind, Except.bind, pure, Except.pure, get?_copyConfig]

/-- The sample daemon storing the first hash. -/
def hashDaemonA : Daemon := { sampleDaemon with configValues := .ok hashConfigA }

theorem api10Get_trusted_sample :
    (⟨true⟩ : Request).trusted = true ∧
      (∀ err, (trustedReadErrors sampleHost hashDaemonA).findSome? id = some err →
          api10Get sampleHost hashDaemonA ⟨true⟩ = internalError err) ∧
      ((trustedReadErrors sampleHost hashDaemonA).findSome? id = none →
        ∃ env m config, api10Environment sampleHost hashDaemonA = .ok env ∧ hashDaemonA.configValues = .ok m ∧
          api10Get sampleHost hashDaemonA ⟨true⟩ =
            .sync true (some ⟨sampleHost.apiCompat, "trusted", some env, some config⟩) ∧
          ∀ k, config.get? k = (m.get? k).map (hideTrust k)) :=
  ⟨rfl, api10Get_trusted_config sampleHost hashDaemonA ⟨true⟩ rfl⟩

/-! ## (2) `PUT /1.0` stops at the first failing key -/

variable {σ : Type}

theorem Handler.run_bind {α β : Type} (x : Handler σ α) (f : α → Handler σ β) (s : σ) :
    (x >>= f).run.run s = match x.run.run s with
      | (.ok a, t) => (f a).run.run t
      | (.error e, t) => (.error e, t) := by
  simp only [ExceptT.run_bind, StateT.run_bind]
  rcases x.run.run s with ⟨_ | a, t⟩ <;> rfl

/-- A bind ends in what its first step throws, or runs its second step from where the first
left off. -/
theorem Handler.run_bind_cases {α β : Type} {x : Handler σ α} {f : α → Handler σ β} {s t : σ}
    {r : Except (Outcome JVal) β} (h : (x >>= f).run.run s = (r, t)) :
    (∃ e, r = .error e ∧ x.run.run s = (.error e, t)) ∨ ∃ a u, x.run.run s = (.ok a, u) ∧ (f a).run.run u = (r, t) := by
  rw [Handler.run_bind] at h
  rcases hxs : x.run.run s with ⟨(_ | a), u⟩ <;> rw [hxs] at h
  · cases h
    exact .inl ⟨_, rfl, rfl⟩
  · exact .inr ⟨a, u, rfl, h⟩

/-- A `forM` loop of handlers runs every element, or stops at the first that throws, after
running the ones before it. -/
theorem Handler.forM_run {α : Type} (f : α → Handler σ PUnit) (l : List α) (s : σ) :
    (∃ t, (l.forM f).run.run s = (.ok (), t)) ∨
    ∃ done a rest t e u, l = done ++ a :: rest ∧ (done.forM f).run.run s = (.ok (), t) ∧
      (f a).run.run t = (.error e, u) ∧ (l.forM f).run.run s = (.error e, u) := by
  induction l generalizing s with
  | nil => exact .inl ⟨s, rfl⟩
  | cons a l ih =>
    simp only [List.forM, Handler.run_bind]
    rcases hfa : (f a).run.run s with ⟨(_ | ⟨⟩), t⟩
    · exact .inr ⟨[], a, l, s, _, t, rfl, rfl, hfa, rfl⟩
    · rcases ih t with ⟨u, hu⟩ | ⟨done, a', rest, t', e, u, rfl, hdone, ha', hl⟩
      · exact .inl ⟨u, hu⟩
      · refine .inr ⟨a :: done, a', rest, t', e, u, rfl, ?_, ha', hl⟩
        simp only [List.forM, Handler.run_bind, hfa, hdone]

/-- The daemon calls `api10Put` makes, each failing with `err` from some state. -/
inductive Backend.CallError (b : Backend σ) (err : String) : Prop
  | passwordSet {v : String} {s t : σ} : (b.passwordSet v).run.run s = (.error err, t) → b.CallError err
  | storageLVMSetVolumeGroupNameConfig {v : String} {s t : σ} :
      (b.storageLVMSetVolumeGroupNameConfig v).run.run s = (.error err, t) → b.CallError err
  | storageLVMSetThinPoolNameConfig {v : String} {s t : σ} :
      (b.storageLVMSetThinPoolNameConfig v).run.run s = (.error err, t) → b.CallError err
  | storageZFSSetPoolNameConfig {v : String} {s t : σ} :
      (b.storageZFSSetPoolNameConfig v).run.run s = (.error err, t) → b.CallError err
  | setupStorageDriver {s t : σ} : b.setupStorageDriver.run.run s = (.error err, t) → b.CallError err
  | configValueGet {k : String} {s t : σ} : (b.configValueGet k).run.run s = (.error err, t) → b.CallError err
  | updateHTTPsPort {old new : String} {s t : σ} :
      (b.updateHTTPsPort old new).run.run s = (.error err, t) → b.CallError err
  | configValueSet {k v : String} {s t : σ} :
      (b.configValueSet k v).run.run s = (.error err, t) → b.CallError err

/-- How a key `ConfigKeyIsValid` accepts fails: `InternalError` carrying the error of a
daemon call, or the panic of `value.(string)` on a value that is not a string. -/
def PutError (b : Backend σ) (value : JVal) (e : Outcome JVal) : Prop :=
  (∃ err, e = .ret (internalError err) ∧ b.CallError err) ∨
    ((∀ str, value ≠ .str str) ∧
      e = .panic ("interface conversion: interface \x7b\x7d is " ++ value.goType ++ ", not string"))

/-- How the run of key `key` from state `t` fails with `e` and leaves `u`: a key
`ConfigKeyIsValid` rejects with `BadRequest` naming it, before any call; any other key with a
`PutError`. -/
def KeyFailure (b : Backend σ) (key : String) (value : JVal) (e : Outcome JVal) (t u : σ) : Prop :=
  (b.configKeyIsValid key = false ∧ e = .ret (badRequest ("Bad server config key: \x27" ++ key ++ "\x27")) ∧
      u = t) ∨
    (b.configKeyIsValid key = true ∧ PutError b value e)

/-- Every error `x` throws is a `PutError` for `value`. -/
def ThrowsPutError {α : Type} (b : Backend σ) (value : JVal) (x : Handler σ α) : Prop :=
  ∀ s e t, x.run.run s = (.error e, t) → PutError b value e

theorem Handler.run_throw {α : Type} (e : Outcome JVal) (s : σ) :
    (throw e : Handler σ α).run.run s = (.error e, s) := rfl

theorem Handler.run_pure {α : Type} (a : α) (s : σ) : (pure a : Handler σ α).run.run s = (.ok a, s) := rfl

theorem Handler.run_lift (x : StateM σ Unit) (s : σ) : (x : Handler σ Unit).run.run s = (.ok (), (x.run s).2) := rfl

theorem run_orInternalError {α : Type} (call : ExceptT String (StateM σ) α) (s : σ) :
    (orInternalError call).run.run s =
      ((call.run.run s).1.mapError fun err => .ret (internalError err), (call.run.run s).2) := rfl

theorem run_asString (v : JVal) (s : σ) : (asString v : Handler σ String).run.run s =
    ((match v with
      | .str x => .ok x
      | v => .error (.panic ("interface conversion: interface \x7b\x7d is " ++ v.goType ++ ", not string"))), s) := by
  cases v <;> rfl

section ThrowsPutError

variable {b : Backend σ} {value : JVal}

theorem ThrowsPutError.pure {α : Type} (a : α) : ThrowsPutError b value (pure a : Handler σ α) :=
  fun _ _ _ h => by cases h

theorem ThrowsPutError.bind {α β : Type} {x : Handler σ α} {f : α → Handler σ β}
    (hx : ThrowsPutError b value x) (hf : ∀ a, ThrowsPutError b value (f a)) :
    ThrowsPutError b value (x >>= f) := by
  intro s e t h
  rcases Handler.run_bind_cases h with ⟨_, he, hxs⟩ | ⟨a, u, -, hfa⟩
  · cases he
    exact hx s _ _ hxs
  · exact hf a u e t hfa

/-- A daemon call under `InternalError` throws `InternalError` with the call's error. -/
theorem ThrowsPutError.orInternalError {α : Type} {call : ExceptT String (StateM σ) α}
    (hcall : ∀ s err t, call.run.run s = (.error err, t) → b.CallError err) :
    ThrowsPutError b value (orInternalError call) := by
  intro s e t h
  rw [run_orInternalError] at h
  rcases hc : call.run.run s with ⟨_ | a, u⟩ <;> rw [hc] at h
  · exact .inl ⟨_, (Except.error.inj (Prod.mk.inj h).1).symm, hcall s _ u hc⟩
  · cases h

theorem ThrowsPutError.asString : ThrowsPutError b value (asString value : Handler σ String) := by
  intro s e t h
  rw [run_asString] at h
  cases value
  case str x => cases h
  all_goals exact .inr ⟨(fun _ h => by cases h), (Except.error.inj (Prod.mk.inj h).1).symm⟩

theorem ThrowsPutError.lift (x : StateM σ Unit) : ThrowsPutError b value (x : Handler σ Unit) :=
  fun _ _ _ h => by cases h

theorem ThrowsPutError.ite {α : Type} {c : Prop} [Decidable c] {x y : Handler σ α}
    (hx : ThrowsPutError b value x) (hy : ThrowsPutError b value y) :
    ThrowsPutError b value (if c then x else y) :=
  iteInduction (fun _ => hx) (fun _ => hy)

end ThrowsPutError

/-- A key `ConfigKeyIsValid` accepts fails only with a `PutError`: past the key check, every
branch is daemon calls under `InternalError` and `value.(string)`. -/
theorem putKey_throwsPutError (b : Backend σ) (key : String) (value : JVal)
    (hk : b.configKeyIsValid key = true) : ThrowsPutError b value (putKey b key value) := by
  unfold putKey
  simp only [hk, Bool.not_true, Bool.false_eq_true, ↓reduceIte]
  repeat' (first
    | apply ThrowsPutError.ite
    | apply ThrowsPutError.bind <;> intros
    | exact .asString
    | exact .lift _
    | exact .pure _
    | (apply ThrowsPutError.orInternalError
       intro _ _ _ h
       first
        | exact .passwordSet h | exact .storageLVMSetVolumeGroupNameConfig h
        | exact .storageLVMSetThinPoolNameConfig h | exact .storageZFSSetPoolNameConfig h
        | exact .setupStorageDriver h | exact .configValueGet h | exact .updateHTTPsPort h
        | exact .configValueSet h))

/-- A key `ConfigKeyIsValid` rejects is answered at once, naming the key, with the state as
it was. -/
theorem putKey_invalid (b : Backend σ) (key : String) (value : JVal) (s : σ)
    (hk : b.configKeyIsValid key = false) :
    (putKey b key value).run.run s = (.error (.ret (badRequest ("Bad server config key: \x27" ++ key ++ "\x27"))), s) := by
  simp [putKey, hk]

/-- Every way a key's run fails is a `KeyFailure`. -/
theorem putKey_keyFailure {b : Backend σ} {key : String} {value : JVal} {e : Outcome JVal} {t u : σ}
    (h : (putKey b key value).run.run t = (.error e, u)) : KeyFailure b key value e t u := by
  cases hk : b.configKeyIsValid key
  · rw [putKey_invalid b key value t hk] at h
    cases h
    exact .inl ⟨hk, rfl, rfl⟩
  · exact .inr ⟨hk, putKey_throwsPutError b key value hk t e u h⟩

theorem KeyFailure.ne_emptySyncResponse {b : Backend σ} {key : String} {value : JVal} {e : Outcome JVal}
    {t u : σ} (h : KeyFailure b key value e t u) : e ≠ .ret emptySyncResponse := by
  rintro rfl
  rcases h with ⟨-, h, -⟩ | ⟨-, ⟨_, h, -⟩ | ⟨-, h⟩⟩ <;> cases h

/-- Every key a run of the loop returned from normally was run to the end from some state. -/
theorem Handler.forM_ok {α : Type} {f : α → Handler σ PUnit} {l : List α} {s t : σ}
    (h : (l.forM f).run.run s = (.ok (), t)) : ∀ a ∈ l, ∃ u u', (f a).run.run u = (.ok (), u') := by
  induction l generalizing s with
  | nil => exact fun _ ha => absurd ha (List.not_mem_nil _)
  | cons a l ih =>
    rcases Handler.run_bind_cases h with ⟨_, he, -⟩ | ⟨⟨⟩, u, hfa, hl⟩
    · cases he
    · rintro x (_ | ⟨_, hx⟩)
      · exact ⟨s, u, hfa⟩
      · exact ih hl x hx

/-- Whenever `x` returns normally, `P` holds. -/
def OkImplies {α : Type} (P : Prop) (x : Handler σ α) : Prop :=
  ∀ s a t, x.run.run s = (.ok a, t) → P

theorem OkImplies.throw {α : Type} {P : Prop} (e : Outcome JVal) : OkImplies P (throw e : Handler σ α) :=
  fun _ _ _ h => by cases h

theorem OkImplies.bind_left {α β : Type} {P : Prop} {x : Handler σ α} {f : α → Handler σ β}
    (hx : OkImplies P x) : OkImplies P (x >>= f) := by
  intro s b t h
  rcases Handler.run_bind_cases h with ⟨_, he, -⟩ | ⟨a, u, hxs, -⟩
  · cases he
  · exact hx s a u hxs

theorem OkImplies.bind_right {α β : Type} {P : Prop} {x : Handler σ α} {f : α → Handler σ β}
    (hf : ∀ a, OkImplies P (f a)) : OkImplies P (x >>= f) := by
  intro s b t h
  rcases Handler.run_bind_cases h with ⟨_, he, -⟩ | ⟨a, u, -, hfa⟩
  · cases he
  · exact hf a u b t hfa

theorem OkImplies.ite {α : Type} {P c : Prop} [Decidable c] {x y : Handler σ α}
    (hx : OkImplies P x) (hy : OkImplies P y) : OkImplies P (if c then x else y) :=
  iteInduction (fun _ => hx) (fun _ => hy)

theorem OkImplies.asString (v : JVal) : OkImplies (∃ str, v = .str str) (asString v : Handler σ String) := by
  intro s a t h
  rw [run_asString] at h
  cases v
  case str x => exact ⟨x, rfl⟩
  all_goals cases h

/-- A key's run returns normally only for a string value: every branch reads `value.(string)`. -/
theorem putKey_ok_str (b : Backend σ) (key : String) (value : JVal) :
    OkImplies (∃ str, value = .str str) (putKey b key value) := by
  unfold putKey
  dsimp only
  repeat' (first
    | apply OkImplies.ite
    | (apply OkImplies.bind_left; exact .asString value)
    | (apply OkImplies.bind_left; exact .throw _)
    | (apply OkImplies.bind_right; intro _))

/-- A loop that ran every key was sent only keys `ConfigKeyIsValid` accepts, each with a
string value. -/
theorem putKeys_ok_wellformed {b : Backend σ} {entries : List (String × JVal)} {s t : σ}
    (h : (putKeys b entries).run.run s = (.ok (), t)) :
    ∀ k v, (k, v) ∈ entries → b.configKeyIsValid k = true ∧ ∃ str, v = .str str := by
  intro k v hmem
  obtain ⟨u, u', hu⟩ := Handler.forM_ok h _ hmem
  refine ⟨?_, putKey_ok_str b k v u () u' hu⟩
  cases hk : b.configKeyIsValid k
  · rw [putKey_invalid b k v u hk] at hu
    cases hu
  · rfl

/-- `api10Put` answers what the loop over the keys ended in. -/
theorem api10Put_run_eq (b : Backend σ) (req : ApiPut) (s : σ) {out : Except (Outcome JVal) Unit} {u : σ}
    (h : (putKeys b req.config.entries).run.run s = (out, u)) :
    (api10Put b (.ok req)).run s = (match out with | .ok () => .ret emptySyncResponse | .error e => e, u) := by
  simp only [api10Put, StateT.run_bind, h]
  cases out <;> rfl

/-- An in-memory daemon for traces: its config table. The keys `api10Put` names and
`core.proxy_http` are valid, and every call succeeds, each setter storing its key. -/
def memBackend : Backend (Jmap String) where
  configKeyIsValid k := k ∈ ["core.https_address", "core.trust_password", "core.proxy_http",
    "images.remote_cache_expiry", "storage.lvm_vg_name", "storage.lvm_thinpool_name", "storage.zfs_pool_name"]
  passwordSet v := modify (·.set "core.trust_password" v)
  storageLVMSetVolumeGroupNameConfig v := modify (·.set "storage.lvm_vg_name" v)
  storageLVMSetThinPoolNameConfig v := modify (·.set "storage.lvm_thinpool_name" v)
  storageZFSSetPoolNameConfig v := modify (·.set "storage.zfs_pool_name" v)
  setupStorageDriver := pure ()
  configValueGet k := do return ((← get).get? k).getD ""
  updateHTTPsPort _ _ := pure ()
  configValueSet k v := modify (·.set k v)
  prune := pure ()

/-- A valid key, then one `ConfigKeyIsValid` rejects. -/
def proxyThenBogus : ApiPut :=
  ⟨⟨[("core.proxy_http", .str "http://proxy:3128"), ("core.bogus", .str "1")], by decide⟩⟩

/-- A valid key whose value JSON decodes as a number. -/
def numericExpiry : ApiPut := ⟨⟨[("images.remote_cache_expiry", .num "10")], by decide⟩⟩

/-- Go visits a map in a fresh order on every range, so any key `ConfigKeyIsValid` rejects
may be the one a `PUT /1.0` names: in an order that visits it first, the request is
answered `BadRequest` naming that key, and nothing is applied. -/
theorem api10Put_names_any_rejected_key (b : Backend σ) (req : ApiPut) (s : σ) {k : String} {v : JVal}
    (hmem : (k, v) ∈ req.config.entries) (hk : b.configKeyIsValid k = false) :
    ∃ order : ApiPut, order.config.entries.Perm req.config.entries ∧
      (api10Put b (.ok order)).run s = (.ret (badRequest ("Bad server config key: \x27" ++ k ++ "\x27")), s) := by
  obtain ⟨m, hperm, rest, hm⟩ := Jmap.exists_visit_first hmem
  have hfirst : (putKeys b m.entries).run.run s =
      (.error (.ret (badRequest ("Bad server config key: \x27" ++ k ++ "\x27"))), s) := by
    simp only [putKeys, hm, List.forM, Handler.run_bind, putKey_invalid b k v s hk]
  exact ⟨⟨m⟩, hperm, api10Put_run_eq b ⟨m⟩ s hfirst⟩

/-- Two keys `ConfigKeyIsValid` rejects. -/
def twoTypos : ApiPut := ⟨⟨[("core.bogus", .str "1"), ("core.typo", .str "2")], by decide⟩⟩

theorem typo_named_in_another_order :
    (api10Put memBackend (.ok twoTypos)).run Jmap.empty =
      (.ret (badRequest "Bad server config key: \x27core.bogus\x27"), Jmap.empty) ∧
    ("core.typo", JVal.str "2") ∈ twoTypos.config.entries ∧ memBackend.configKeyIsValid "core.typo" = false ∧
    ∃ order : ApiPut, order.config.entries.Perm twoTypos.config.entries ∧
      (api10Put memBackend (.ok order)).run Jmap.empty =
        (.ret (badRequest ("Bad server config key: \x27" ++ "core.typo" ++ "\x27")), Jmap.empty) :=
  ⟨rfl, by decide, by decide,
    api10Put_names_any_rejected_key memBackend twoTypos Jmap.empty (.tail _ (.head _)) (by decide)⟩

/-! ## (3) What a successful `PUT /1.0` was sent, and when it succeeds -/

/-- A `PUT /1.0` answered `EmptySyncResponse` was sent only keys `ConfigKeyIsValid` accepts,
each with a string value. Once the loop reaches a key it rejects, the answer is `BadRequest`
naming that key, with the state the earlier keys left: no call is made for it or any later
key. -/
theorem api10Put_ok_wellformed (b : Backend σ) (req : ApiPut) (s : σ) :
    (((api10Put b (.ok req)).run s).1 = .ret emptySyncResponse →
      ∀ k v, (k, v) ∈ req.config.entries → b.configKeyIsValid k = true ∧ ∃ str, v = .str str) ∧
    ∀ done k v rest t, req.config.entries = done ++ (k, v) :: rest → b.configKeyIsValid k = false →
      (putKeys b done).run.run s = (.ok (), t) →
      (api10Put b (.ok req)).run s = (.ret (badRequest ("Bad server config key: \x27" ++ k ++ "\x27")), t) := by
  refine ⟨fun h => ?_, fun done k v rest t hl hk hdone => ?_⟩
  · rcases Handler.forM_run (fun e => putKey b e.1 e.2) req.config.entries s with
      ⟨t, ht⟩ | ⟨done, ⟨k, v⟩, rest, t, e, u, -, -, hkv, hall⟩
    · exact putKeys_ok_wellformed ht
    · rw [api10Put_run_eq b req s hall] at h
      exact absurd h (putKey_keyFailure hkv).ne_emptySyncResponse
  · have hrun : (putKeys b req.config.entries).run.run s =
        (.error (.ret (badRequest ("Bad server config key: \x27" ++ k ++ "\x27"))), t) := by
      simp only [putKeys] at hdone ⊢
      rw [hl, List.forM_append, Handler.run_bind, hdone]
      simp only [List.forM, Handler.run_bind, putKey_invalid b k v t hk]
    exact api10Put_run_eq b req s hrun

/-- One valid key with a string value. -/
def proxyOnly : ApiPut := ⟨⟨[("core.proxy_http", .str "http://proxy:3128")], by decide⟩⟩

theorem proxy_put_wellformed :
    ((api10Put memBackend (.ok proxyOnly)).run Jmap.empty).1 = .ret emptySyncResponse ∧
      (∀ k v, (k, v) ∈ proxyOnly.config.entries → memBackend.configKeyIsValid k = true ∧ ∃ str, v = .str str) ∧
      (api10Put memBackend (.ok proxyThenBogus)).run Jmap.empty =
        (.ret (badRequest ("Bad server config key: \x27" ++ "core.bogus" ++ "\x27")),
          Jmap.empty.set "core.proxy_http" "http://proxy:3128") :=
  ⟨rfl, (api10Put_ok_wellformed memBackend proxyOnly Jmap.empty).1 rfl,
    (api10Put_ok_wellformed memBackend proxyThenBogus Jmap.empty).2 [("core.proxy_http", .str "http://proxy:3128")]
      "core.bogus" (.str "1") [] _ rfl (by decide) rfl⟩

/-- `call` succeeds from every state. -/
def Succeeds {α : Type} (call : ExceptT String (StateM σ) α) : Prop :=
  ∀ s, ∃ a, (call.run.run s).1 = .ok a

/-- A daemon whose calls all succeed, from every state. -/
structure Backend.Reliable (b : Backend σ) : Prop where
  passwordSet : ∀ v, Succeeds (b.passwordSet v)
  storageLVMSetVolumeGroupNameConfig : ∀ v, Succeeds (b.storageLVMSetVolumeGroupNameConfig v)
  storageLVMSetThinPoolNameConfig : ∀ v, Succeeds (b.storageLVMSetThinPoolNameConfig v)
  storageZFSSetPoolNameConfig : ∀ v, Succeeds (b.storageZFSSetPoolNameConfig v)
  setupStorageDriver : Succeeds b.setupStorageDriver
  configValueGet : ∀ k, Succeeds (b.configValueGet k)
  updateHTTPsPort : ∀ old new, Succeeds (b.updateHTTPsPort old new)
  configValueSet : ∀ k v, Succeeds (b.configValueSet k v)

/-- `x` returns normally from every state. -/
def NeverThrows {α : Type} (x : Handler σ α) : Prop :=
  ∀ s, ∃ a t, x.run.run s = (.ok a, t)

theorem NeverThrows.pure {α : Type} (a : α) : NeverThrows (pure a : Handler σ α) :=
  fun s => ⟨a, s, rfl⟩

theorem NeverThrows.bind {α β : Type} {x : Handler σ α} {f : α → Handler σ β}
    (hx : NeverThrows x) (hf : ∀ a, NeverThrows (f a)) : NeverThrows (x >>= f) := by
  intro s
  obtain ⟨a, t, hxs⟩ := hx s
  rw [Handler.run_bind, hxs]
  exact hf a t

theorem NeverThrows.ite {α : Type} {c : Prop} [Decidable c] {x y : Handler σ α}
    (hx : NeverThrows x) (hy : NeverThrows y) : NeverThrows (if c then x else y) :=
  iteInduction (fun _ => hx) (fun _ => hy)

theorem NeverThrows.lift (x : StateM σ Unit) : NeverThrows (x : Handler σ Unit) :=
  fun s => ⟨(), _, Handler.run_lift x s⟩

theorem NeverThrows.orInternalError {α : Type} {call : ExceptT String (StateM σ) α}
    (h : Succeeds call) : NeverThrows (orInternalError call) := by
  intro s
  obtain ⟨a, ha⟩ := h s
  rw [run_orInternalError, ha]
  exact ⟨a, _, rfl⟩

theorem NeverThrows.asString_str (str : String) : NeverThrows (asString (.str str) : Handler σ String) :=
  NeverThrows.pure str

theorem NeverThrows.forM {α : Type} {f : α → Handler σ PUnit} {l : List α}
    (h : ∀ a ∈ l, NeverThrows (f a)) : NeverThrows (l.forM f) := by
  induction l with
  | nil => exact .pure _
  | cons a l ih =>
    exact .bind (h a (List.mem_cons_self a l)) fun _ => ih fun x hx => h x (List.mem_cons_of_mem a hx)

/-- On a daemon whose calls all succeed, a key `ConfigKeyIsValid` accepts, with a string
value, returns normally: every branch past the key check is daemon calls and
`value.(string)`. -/
theorem putKey_neverThrows (b : Backend σ) (hb : b.Reliable) (key str : String)
    (hk : b.configKeyIsValid key = true) : NeverThrows (putKey b key (.str str)) := by
  unfold putKey
  simp only [hk, Bool.not_true, Bool.false_eq_true, ↓reduceIte]
  cases hb
  repeat' (first
    | apply NeverThrows.ite
    | apply NeverThrows.bind <;> intros
    | exact .asString_str _
    | exact .lift _
    | exact .pure _
    | (apply NeverThrows.orInternalError; apply_assumption))

/-- On a daemon whose calls all succeed, a `PUT /1.0` of keys `ConfigKeyIsValid` accepts,
each with a string value, is answered `EmptySyncResponse`. -/
theorem api10Put_ok_of_wellformed (b : Backend σ) (hb : b.Reliable) (req : ApiPut) (s : σ)
    (h : ∀ k v, (k, v) ∈ req.config.entries → b.configKeyIsValid k = true ∧ ∃ str, v = .str str) :
    ((api10Put b (.ok req)).run s).1 = .ret emptySyncResponse := by
  have hall : NeverThrows (putKeys b req.config.entries) := by
    refine NeverThrows.forM fun ⟨k, v⟩ hmem => ?_
    obtain ⟨hk, str, rfl⟩ := h k v hmem
    exact putKey_neverThrows b hb k str hk
  obtain ⟨⟨⟩, t, ht⟩ := hall s
  rw [api10Put_run_eq b req s ht]

theorem memBackend_reliable : memBackend.Reliable where
  passwordSet _ _ := ⟨(), rfl⟩
  storageLVMSetVolumeGroupNameConfig _ _ := ⟨(), rfl⟩
  storageLVMSetThinPoolNameConfig _ _ := ⟨(), rfl⟩
  storageZFSSetPoolNameConfig _ _ := ⟨(), rfl⟩
  setupStorageDriver _ := ⟨(), rfl⟩
  configValueGet _ _ := ⟨_, rfl⟩
  updateHTTPsPort _ _ _ := ⟨(), rfl⟩
  configValueSet _ _ _ := ⟨(), rfl⟩

/-- A new HTTPS address and a new trust password. -/
def moveAndRekey : ApiPut :=
  ⟨⟨[("core.https_address", .str "[::]:8443"), ("core.trust_password", .str "sekret")], by decide⟩⟩

theorem move_and_rekey_applied :
    memBackend.Reliable ∧
      (∀ k v, (k, v) ∈ moveAndRekey.config.entries → memBackend.configKeyIsValid k = true ∧ ∃ str, v = .str str) ∧
      ((api10Put memBackend (.ok moveAndRekey)).run Jmap.empty).1 = .ret emptySyncResponse := by
  have hw : ∀ k v, (k, v) ∈ moveAndRekey.config.entries →
      memBackend.configKeyIsValid k = true ∧ ∃ str, v = .str str := by
    rintro k v (_ | ⟨_, _ | ⟨_, ⟨⟩⟩⟩) <;> exact ⟨by decide, _, rfl⟩
  exact ⟨memBackend_reliable, hw, api10Put_ok_of_wellformed memBackend memBackend_reliable moveAndRekey Jmap.empty hw⟩

/-! ## (4) The kernel strings -/

/-- The environment's kernel fields are the loop run over the `uname` fields. -/
theorem api10Environment_uname (h : Host) (d : Daemon) (env : Environment)
    (he : api10Environment h d = .ok env) :
    ∃ u, h.uname = .ok u ∧ env.kernel = utsLoop "" u.sysname ∧
      env.kernelVersion = utsLoop "" u.release ∧ env.kernelArchitecture = utsLoop "" u.machine := by
  unfold api10Environment at he
  obtain ⟨u, hu, he⟩ := bind_eq_ok_iff.mp he
  dsimp only at he
  obtain ⟨_, -, he⟩ := bind_eq_ok_iff.mp he
  obtain ⟨_, -, he⟩ := bind_eq_ok_iff.mp he
  obtain ⟨_, -, he⟩ := bind_eq_ok_iff.mp he
  cases he
  exact ⟨u, hu, rfl, rfl, rfl⟩

/-- An environment in a `GET /1.0` answer is the one `api10Environment` built. -/
theorem api10Get_environment {h : Host} {d : Daemon} {r : Request} {body : Api10Body} {env : Environment}
    (hb : api10Get h d r = .sync true (some body)) (he : body.environment = some env) :
    api10Environment h d = .ok env := by
  unfold api10Get at hb
  split_ifs at hb
  · split at hb
    · rename_i hbody
      cases hb
      obtain ⟨env', henv, hbody⟩ := bind_eq_ok_iff.mp hbody
      obtain ⟨_, -, hbody⟩ := bind_eq_ok_iff.mp hbody
      cases hbody
      cases he
      exact henv
    · cases hb
  · cases hb
    cases he

/-- The raw bytes of a `uname` field up to its first zero, or the whole field when it has
none: the string C reads there. -/
def utsBytes (field : List Int8) : List UInt8 := (field.takeWhile (· != 0)).map Int8.toUInt8

theorem bytes_utsLoop (acc : String) (cs : List Int8) :
    bytes (utsLoop acc cs) = bytes acc ++ (utsBytes cs).flatMap runeBytes := by
  induction cs generalizing acc with
  | nil => simp [utsLoop, utsBytes]
  | cons c cs ih =>
    unfold utsLoop
    split_ifs with hc
    · simp [utsBytes, hc]
    · rw [ih, bytes_append, bytes_singleton_ofNat]
      simp [utsBytes, hc]

/-- What the loop makes of a `uname` field, byte for byte: the field's raw bytes up to its
first zero, each re-encoded by `string(byte(c))` as the code point it is; so the raw bytes
exactly when all of them are below 0x80. -/
structure UtsString (s : String) (field : List Int8) : Prop where
  bytes_eq : bytes s = (utsBytes field).flatMap runeBytes
  raw_iff : bytes s = utsBytes field ↔ ∀ b ∈ utsBytes field, b < 0x80

theorem utsString_utsLoop (field : List Int8) : UtsString (utsLoop "" field) field := by
  have h : bytes (utsLoop "" field) = (utsBytes field).flatMap runeBytes := bytes_utsLoop "" field
  exact ⟨h, h ▸ flatMap_runeBytes_eq_self_iff _⟩

/-- Every kernel string a `GET /1.0` answer carries is what the loop makes of its `uname`
field: the raw bytes up to the first zero when they are all below 0x80, and otherwise each
byte from 0x80 on turned into two. -/
theorem api10Get_kernel_bytes (h : Host) (d : Daemon) (r : Request) (body : Api10Body) (env : Environment)
    (hb : api10Get h d r = .sync true (some body)) (he : body.environment = some env) :
    ∃ u, h.uname = .ok u ∧ UtsString env.kernel u.sysname ∧ UtsString env.kernelVersion u.release ∧
      UtsString env.kernelArchitecture u.machine := by
  obtain ⟨u, hu, h₁, h₂, h₃⟩ := api10Environment_uname h d env (api10Get_environment hb he)
  exact ⟨u, hu, h₁ ▸ utsString_utsLoop _, h₂ ▸ utsString_utsLoop _, h₃ ▸ utsString_utsLoop _⟩

/-- A `uname` whose release holds "é" in UTF-8 (0xC3 0xA9), each field zero-padded to its 65
bytes. -/
def accentedUname : Utsname :=
  ⟨[76, 105, 110, 117, 120] ++ List.replicate 60 0,
   [52, 46, 52, 46, 48, 45, -61, -87] ++ List.replicate 57 0,
   [120, 56, 54, 95, 54, 52] ++ List.replicate 59 0⟩

def accentedHost : Host := { sampleHost with uname := .ok accentedUname }

theorem accented_kernel_bytes :
    ∃ body env, api10Get accentedHost sampleDaemon ⟨true⟩ = .sync true (some body) ∧
      body.environment = some env ∧
      ∃ u, accentedHost.uname = .ok u ∧ UtsString env.kernel u.sysname ∧
        UtsString env.kernelVersion u.release ∧ UtsString env.kernelArchitecture u.machine :=
  ⟨_, _, rfl, rfl, api10Get_kernel_bytes accentedHost sampleDaemon ⟨true⟩ _ _ rfl rfl⟩

/-- The release "4.4.0-é" reaches the body as "4.4.0-Ã©": its two bytes from 0x80 on are
each re-encoded, so the string is not the raw bytes. -/
theorem kernel_version_bytes_reencoded :
    accentedUname.release.length = 65 ∧
      utsBytes accentedUname.release = [0x34, 0x2E, 0x34, 0x2E, 0x30, 0x2D, 0xC3, 0xA9] ∧
      ∃ env config, api10Get accentedHost sampleDaemon ⟨true⟩ =
          .sync true (some ⟨1, "trusted", some env, some config⟩) ∧
        env.kernelVersion = "4.4.0-Ã©" ∧
        bytes env.kernelVersion = [0x34, 0x2E, 0x34, 0x2E, 0x30, 0x2D, 0xC3, 0x83, 0xC2, 0xA9] ∧
        bytes env.kernelVersion ≠ utsBytes accentedUname.release :=
  ⟨rfl, by decide, _, _, rfl, rfl, by decide, by decide⟩

/-! ## (5) Which daemon calls a key reaches -/

/-- Backends that run every key of the request alike answer it alike, with the same state. -/
theorem putKeys_congr {b b' : Backend σ} {entries : List (String × JVal)}
    (h : ∀ e ∈ entries, putKey b e.1 e.2 = putKey b' e.1 e.2) : putKeys b entries = putKeys b' entries := by
  induction entries with
  | nil => rfl
  | cons e l ih =>
    have hrest := ih fun x hx => h x (List.mem_cons_of_mem _ hx)
    simp only [putKeys] at hrest ⊢
    simp only [List.forM, h e (List.mem_cons_self _ _), hrest]

theorem api10Put_congr {b b' : Backend σ} {req : ApiPut}
    (h : ∀ e ∈ req.config.entries, putKey b e.1 e.2 = putKey b' e.1 e.2) :
    api10Put b (.ok req) = api10Put b' (.ok req) := by
  simp only [api10Put, putKeys_congr h]

/-- `core.trust_password` goes to `PasswordSet` alone: whatever `ConfigValueSet` would do
with that key, a `PUT /1.0` is answered the same, with the same state, so the handler never
stores the password through `ConfigValueSet`. -/
theorem api10Put_never_configValueSet_trust_password (b : Backend σ) (req : ApiPut)
    (f : String → ExceptT String (StateM σ) Unit) :
    api10Put { b with configValueSet := fun k v => if k = "core.trust_password" then f v else b.configValueSet k v }
      (.ok req) = api10Put b (.ok req) := by
  refine api10Put_congr fun ⟨key, value⟩ _ => ?_
  by_cases hk : key = "core.trust_password" <;> simp [putKey, hk]

/-- Only `storage.lvm_vg_name` and `storage.zfs_pool_name` set the storage driver up again;
`storage.lvm_thinpool_name`, set by the same kind of call, does not. A request holding neither
key is answered the same, with the same state, whatever `SetupStorageDriver` does. -/
theorem api10Put_setup_only_for_pool_keys (b : Backend σ) (req : ApiPut) (setup : ExceptT String (StateM σ) Unit)
    (hvg : "storage.lvm_vg_name" ∉ req.config.keys) (hzfs : "storage.zfs_pool_name" ∉ req.config.keys) :
    api10Put { b with setupStorageDriver := setup } (.ok req) = api10Put b (.ok req) := by
  refine api10Put_congr fun ⟨key, value⟩ hmem => ?_
  have hkey : key ∈ req.config.keys := List.mem_map_of_mem Prod.fst hmem
  have hvg' : key ≠ "storage.lvm_vg_name" := fun he => hvg (he ▸ hkey)
  have hzfs' : key ≠ "storage.zfs_pool_name" := fun he => hzfs (he ▸ hkey)
  simp [putKey, hvg', hzfs']

/-- A new LVM thin pool, with a storage driver setup that would fail. -/
def thinpoolOnly : ApiPut := ⟨⟨[("storage.lvm_thinpool_name", .str "pool")], by decide⟩⟩

theorem thinpool_put_skips_setup :
    "storage.lvm_vg_name" ∉ thinpoolOnly.config.keys ∧ "storage.zfs_pool_name" ∉ thinpoolOnly.config.keys ∧
      api10Put { memBackend with setupStorageDriver := throw "no volume group" } (.ok thinpoolOnly) =
        api10Put memBackend (.ok thinpoolOnly) :=
  ⟨by decide, by decide, api10Put_setup_only_for_pool_keys memBackend thinpoolOnly _ (by decide) (by decide)⟩

end Xlxd.Server
