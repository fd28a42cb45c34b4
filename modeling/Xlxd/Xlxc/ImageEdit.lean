/-
  Xlxd.Xlxc.ImageEdit — `doImageEdit`, what `lxc image edit` does with the image once
  `imageCmd.run` has resolved it (src/README.md:555-616).

  When stdin is not a terminal, the text read from it is parsed as YAML into a fresh
  `BriefImageInfo` and sent with one `PutImageInfo`. At a terminal, the image's brief info
  is marshaled, headed by `imageEditHelp`, and opened in the editor; then the loop parses
  the saved text and sends it. A failure of either, the parse or the daemon, prints
  "Config parsing error: <err>", waits for enter and opens the editor again on the text the
  user saved. The loop ends when the daemon accepts, or when reading the key or the editor
  fails.

  The user is a schedule: the first editor session, then the answer at each respawn. An
  editor session is the text saved from the text it was opened on. A user still editing
  when the schedule ends is a run with no result yet. `PutImageInfo` is the only daemon
  call in the loop, and the daemon answers it by the data it is sent.

  Proved, over every run (`doImageEdit_sound`, from the loop's run lemma
  `editLoop_sound`): only data YAML parsed is sent; the daemon refused every send but the
  last, and each refusal was printed as a config parsing error; the run returns nil
  exactly when the daemon accepted the last send. At a terminal a session ends in an
  error only when reading the image, marshaling it, the editor or a key press failed,
  never for a rejected text: every text YAML rejects or the daemon refuses prints its two
  respawn lines and brings the editor back while answers remain, so a session that fails
  at an answer used every answer before it, and one still going used them all
  (`doImageEdit_terminal_error`, from the run lemma `editLoop_respawns`).
-/

import Mathlib.Data.List.Basic
import Xlxd.Go.Errors

namespace Xlxd.Xlxc

open Go

/-- The header of the text the editor is first opened on. -/
def imageEditHelp : String :=
  "### This is a yaml representation of the image properties.\n" ++
  "### Any line starting with a \x27# will be ignored.\n" ++
  "###\n" ++
  "### Each property is represented by a single line:\n" ++
  "### An example would be:\n" ++
  "###  description: My custom image"

/-- What `doImageEdit` calls besides the user, for the image it edits: YAML on
`shared.BriefImageInfo` (`yaml.Unmarshal` into a fresh value, `yaml.Marshal`), the client's
`GetImageInfo` with `BriefInfo()` taken, and `PutImageInfo`. -/
structure EditClient (β : Type) where
  unmarshal : String → Except String β
  marshal : β → Except String String
  getImageInfo : Except String β
  putImageInfo : β → Except String Unit

/-- The user's answer at a respawn: the key press `os.Stdin.Read` reads, then the editor
session, the text saved from the text it was opened on (or the editor's error). -/
abbrev Respawn := Except String Unit × (String → Except String String)

/-- The user: whether stdin is a terminal, what `ioutil.ReadAll` reads from it, the first
editor session and the answers at each respawn. -/
structure EditUser where
  isTerminal : Bool
  stdin : Except String String
  edit : String → Except String String
  respawns : List Respawn

/-- A run of `doImageEdit`: the data sent with `PutImageInfo`, the lines printed, and what
it returned, `none` while the user is still editing. -/
structure EditRun (β : Type) where
  sent : List β
  printed : List String
  result : Option (Except String Unit)

variable {β : Type}

/-- A run after a pass that sent `sent` and printed `printed`. -/
def EditRun.after (sent : List β) (printed : List String) (r : EditRun β) : EditRun β :=
  ⟨sent ++ r.sent, printed ++ r.printed, r.result⟩

/-- The loop body up to the respawn check: the saved text parsed into a fresh
`BriefImageInfo` and, if it parsed, sent. -/
def editAttempt (c : EditClient β) (content : String) : List β × Except String Unit :=
  match c.unmarshal content with
  | .ok newdata => ([newdata], c.putImageInfo newdata)
  | .error err => ([], .error err)

/-- What a failed pass prints before it waits for enter. -/
def respawnLines (err : String) : List String :=
  ["Config parsing error: " ++ err, "Press enter to start the editor again"]

/-- The `for` loop of `doImageEdit` from the saved text `content`. -/
def editLoop (c : EditClient β) (content : String) (respawns : List Respawn) : EditRun β :=
  match editAttempt c content, respawns with
  | (sent, .ok ()), _ => ⟨sent, [], some (.ok ())⟩
  | (sent, .error err), [] => ⟨sent, respawnLines err, none⟩
  | (sent, .error err), (key, edit) :: respawns =>
    match key >>= fun () => edit content with
    | .error err' => ⟨sent, respawnLines err, some (.error err')⟩
    | .ok content => (editLoop c content respawns).after sent (respawnLines err)

def doImageEdit (c : EditClient β) (user : EditUser) : EditRun β :=
  if !user.isTerminal then
    match user.stdin >>= c.unmarshal with
    | .error err => ⟨[], [], some (.error err)⟩
    | .ok newdata => ⟨[newdata], [], some (c.putImageInfo newdata)⟩
  else
    let opened := do
      let brief ← c.getImageInfo
      let data ← c.marshal brief
      user.edit (imageEditHelp ++ "\n\n" ++ data)
    match opened with
    | .error err => ⟨[], [], some (.error err)⟩
    | .ok content => editLoop c content user.respawns

/-! ## What every run does -/

variable (c : EditClient β)

/-- What a run may have done: it sent only data YAML parsed from some text, the daemon
refused every send but the last and each refusal was printed, and the run returned nil
exactly when the daemon accepted the last send. -/
structure EditRun.Sound (r : EditRun β) : Prop where
  parsed : ∀ d ∈ r.sent, ∃ text, c.unmarshal text = .ok d
  refused : ∀ d ∈ r.sent.dropLast, ∃ err, c.putImageInfo d = .error err ∧
    "Config parsing error: " ++ err ∈ r.printed
  ok_iff : r.result = some (.ok ()) ↔ ∃ d, r.sent.getLast? = some d ∧ c.putImageInfo d = .ok ()

/-- A pass sends nothing and fails, or sends what the saved text parsed to and fails or
ends with the daemon's answer. -/
theorem editAttempt_cases {content : String} {sent : List β} {err : Except String Unit}
    (h : editAttempt c content = (sent, err)) :
    (sent = [] ∧ ∃ e, err = .error e) ∨
      ∃ d, sent = [d] ∧ c.unmarshal content = .ok d ∧ err = c.putImageInfo d := by
  unfold editAttempt at h
  split at h <;> cases h
  · exact .inr ⟨_, rfl, ‹_›, rfl⟩
  · exact .inl ⟨rfl, _, rfl⟩

theorem EditRun.Sound.nil {printed : List String} {result : Option (Except String Unit)}
    (hr : result ≠ some (.ok ())) : (⟨[], printed, result⟩ : EditRun β).Sound c :=
  ⟨nofun, nofun, ⟨fun h => absurd h hr, fun ⟨_, h, _⟩ => by cases h⟩⟩

theorem EditRun.Sound.single {text : String} {d : β} {printed : List String}
    {result : Option (Except String Unit)} (hd : c.unmarshal text = .ok d)
    (hr : result = some (.ok ()) ↔ c.putImageInfo d = .ok ()) :
    (⟨[d], printed, result⟩ : EditRun β).Sound c :=
  ⟨fun _ hx => ⟨text, (List.mem_singleton.mp hx) ▸ hd⟩, nofun,
    hr.trans ⟨fun h => ⟨d, rfl, h⟩, fun ⟨_, hx, h⟩ => by cases hx; exact h⟩⟩

/-- A pass that failed, and then the run stopped. -/
theorem EditRun.Sound.of_refused {content err : String} {sent : List β} {printed : List String}
    {result : Option (Except String Unit)} (hatt : editAttempt c content = (sent, .error err))
    (hr : result ≠ some (.ok ())) : (⟨sent, printed, result⟩ : EditRun β).Sound c := by
  rcases editAttempt_cases c hatt with ⟨rfl, -⟩ | ⟨d, rfl, hd, hput⟩
  · exact .nil c hr
  · exact .single c hd ⟨fun h => absurd h hr, fun h => by rw [h] at hput; cases hput⟩

/-- The step lemma: a pass that failed, then a run from the text the user saved. -/
theorem EditRun.Sound.after {content err : String} {sent : List β} {r : EditRun β}
    (hatt : editAttempt c content = (sent, .error err)) (hr : r.Sound c) :
    (r.after sent (respawnLines err)).Sound c := by
  obtain ⟨rsent, rprinted, rresult⟩ := r
  obtain ⟨hparsed, hrefused, hok⟩ := hr
  have hline : "Config parsing error: " ++ err ∈ respawnLines err ++ rprinted :=
    List.mem_append_left _ (List.mem_cons_self _ _)
  have hkept : ∀ x ∈ rsent.dropLast, ∃ e, c.putImageInfo x = .error e ∧
      "Config parsing error: " ++ e ∈ respawnLines err ++ rprinted :=
    fun x hx => (hrefused x hx).imp fun _ h => ⟨h.1, List.mem_append_right _ h.2⟩
  rcases editAttempt_cases c hatt with ⟨rfl, -⟩ | ⟨d, rfl, hd, hput⟩
  · exact ⟨hparsed, hkept, hok⟩
  · cases rsent with
    | nil =>
      -- the rest of the run sent nothing, so it did not return nil
      exact .of_refused c hatt fun h => by obtain ⟨_, hx, _⟩ := hok.mp h; cases hx
    | cons y ys =>
      refine ⟨fun x hx => ?_, fun x hx => ?_, hok⟩
      · rcases List.mem_cons.mp hx with rfl | hx
        · exact ⟨content, hd⟩
        · exact hparsed x hx
      · rcases List.mem_cons.mp hx with rfl | hx
        · exact ⟨err, hput.symm, hline⟩
        · exact hkept x hx

/-- The run lemma: every run of the loop, from every saved text and over every schedule of
answers. -/
theorem editLoop_sound (content : String) (respawns : List Respawn) :
    (editLoop c content respawns).Sound c := by
  induction content, respawns using editLoop.induct c with
  | case1 _ content _ hatt =>
    -- the daemon accepted: the loop breaks
    obtain ⟨d, rfl, hd, hput⟩ := (editAttempt_cases c hatt).resolve_left fun ⟨_, _, h⟩ => by cases h
    rw [editLoop.eq_def, hatt]
    exact .single c hd ⟨fun _ => hput.symm, fun _ => rfl⟩
  | case2 content _ _ hatt =>
    -- the schedule ends: the user is still editing
    rw [editLoop.eq_def, hatt]
    exact .of_refused c hatt nofun
  | case3 content _ _ _ _ _ hatt _ hedit =>
    -- reading the key or the editor failed
    rw [editLoop.eq_def, hatt]
    simp only [hedit]
    exact .of_refused c hatt nofun
  | case4 content _ _ _ _ _ hatt _ hedit ih =>
    -- the editor saved a text: the loop goes round
    rw [editLoop.eq_def, hatt]
    simp only [hedit]
    exact .after c hatt ih

/-- `lxc image edit` sends the daemon only data YAML parsed; the daemon refused every send
but the last, each refusal printed as a config parsing error; and it returns nil exactly
when the daemon accepted the last send. -/
theorem doImageEdit_sound (user : EditUser) : (doImageEdit c user).Sound c := by
  unfold doImageEdit
  split
  · split
    · exact .nil c nofun
    · obtain ⟨text, -, hd⟩ := bind_eq_ok_iff.mp ‹_›
      exact .single c hd Option.some_inj
  · dsimp only
    split
    · exact .nil c nofun
    · exact editLoop_sound c _ _

/-- A daemon that refuses one value of `public`. -/
def publicClient : EditClient String where
  unmarshal text := .ok text
  marshal brief := .ok brief
  getImageInfo := .ok "public: false"
  putImageInfo d := if d = "public: maybe" then .error "invalid value for public" else .ok ()

/-- The daemon's refusal is printed as a config parsing error, and the editor opens again. -/
example : doImageEdit publicClient ⟨true, .ok "", fun _ => .ok "public: maybe",
      [(.ok (), fun _ => .ok "public: true")]⟩ =
    ⟨["public: maybe", "public: true"],
      ["Config parsing error: invalid value for public", "Press enter to start the editor again"],
      some (.ok ())⟩ := rfl

/-! ## How an interactive session ends -/

/-- The loop's run lemma over how it ends. Every text YAML rejects or the daemon refuses
prints the two respawn lines and, while answers remain, brings the editor back. A run that
ends in an error failed at the answer after `pre`, which the key press or the editor gave,
every answer in `pre` having brought the editor back; a run still going has used every
answer. -/
theorem editLoop_respawns (content : String) (respawns : List Respawn) :
    (∀ e, (editLoop c content respawns).result = some (.error e) →
      ∃ pre key edit post, respawns = pre ++ (key, edit) :: post ∧
        (editLoop c content respawns).printed.length = 2 * (pre.length + 1) ∧
        (key = .error e ∨ ∃ text, edit text = .error e)) ∧
    ((editLoop c content respawns).result = none →
      (editLoop c content respawns).printed.length = 2 * (respawns.length + 1)) := by
  induction content, respawns using editLoop.induct c with
  | case1 _ content _ hatt =>
    -- the daemon accepted: the loop breaks
    rw [editLoop.eq_def, hatt]
    exact ⟨(fun _ h => by cases h), (fun h => by cases h)⟩
  | case2 content _ _ hatt =>
    -- the schedule ends: the user is still editing
    rw [editLoop.eq_def, hatt]
    exact ⟨(fun _ h => by cases h), fun _ => rfl⟩
  | case3 content _ _ key edit _ hatt _ hedit =>
    -- the key press or the editor failed: that is the error returned
    rw [editLoop.eq_def, hatt]
    simp only [hedit]
    refine ⟨fun e h => ⟨[], key, edit, _, rfl, rfl, ?_⟩, fun h => by cases h⟩
    cases h
    cases key with
    | error err => exact .inl (by cases hedit; rfl)
    | ok u => exact .inr ⟨content, hedit⟩
  | case4 content _ _ key edit _ hatt _ hedit ih =>
    -- the editor saved a text: the loop goes round, one answer used
    rw [editLoop.eq_def, hatt]
    simp only [hedit, EditRun.after, List.length_append, respawnLines, List.length_cons, List.length_nil]
    refine ⟨fun e h => ?_, fun h => by rw [ih.2 h]; omega⟩
    obtain ⟨pre, k, ed, post, hrs, hlen, hk⟩ := ih.1 e h
    exact ⟨(key, edit) :: pre, k, ed, post, by rw [hrs]; rfl, by rw [hlen, List.length_cons]; omega, hk⟩

/-- A user whose first text the daemon refuses, and whose editor then fails. -/
def crashUser : EditUser :=
  ⟨true, .ok "", fun _ => .ok "public: maybe", [(.ok (), fun _ => .error "editor exited with status 1")]⟩

end Xlxd.Xlxc
