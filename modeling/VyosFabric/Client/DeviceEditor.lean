import VyosFabric.Client.InterfaceForms
import VyosFabric.Polling.Edits

/-!
# The settings of a device, edited

`EditDeviceModal` opens on a router as the page has it, shows its columns as texts, and sends all of
them back when it is saved. The secrets are never answered, so their fields open empty. The window
may stay open for long, and meanwhile others edit the router.

Saving then undoes what they edited, but for the secrets (`deviceEditor_saved`). What comes back of
the columns that the window opened on is `RouterSettings.resaved`: most come back as they were, but
trimming may change a text, an empty description is cleared, a version that is none of the three in
the list is replaced, and a timeout or a port of 0 becomes the default (`resaved_eq_self_iff`).
-/

namespace VyosFabric

open Interaction

/-! ### Numbers -/

/-- `parseInt(s, 10)`, before it is rounded: a sign, and as many digits as there are. -/
def parseInt (s : String) : Option Int :=
  let (sign, rest) := match s.toList.dropWhile isJsWhitespace with
    | '-' :: cs => (-1, cs)
    | '+' :: cs => (1, cs)
    | cs => ((1 : Int), cs)
  let digits := rest.takeWhile Char.isDigit
  if digits = [] then none else some (sign * Nat.ofDigitChars 10 digits 0)

/-- A number of a request body: what is not finite is sent as `null`, and the backend reads a number
only if it is an `i32`. -/
def sentI32 (n : Int) : Except SubmitError (Option Int) :=
  if -2 ^ 31 ≤ n ∧ n < 2 ^ 31 then .ok (some n)
  else if |toDouble n| < 2 ^ 1024 then .error .unprocessable
  else .ok none

/-- `s ? parseInt(s, 10) : null`. -/
def portField (s : String) : Except SubmitError (Option Int) :=
  match parseInt s with
  | some n => if s = "" then .ok none else sentI32 n
  | none => .ok none

/-- `parseInt(s, 10) || other`. -/
def parseIntOr (s : String) (other : Int) : Int :=
  match parseInt s with
  | some n => if n = 0 then other else n
  | none => other

/-! ### The window -/

/-- The versions in the list. -/
def vyosVersions : List String := ["1.3", "1.4", "1.5"]

def normalizeVersion (v : String) : String :=
  (vyosVersions.find? fun ver ↦ ver.toList.isPrefixOf v.toList).getD "1.4"

/-- The fields of the window. -/
structure DeviceEditor where
  hostname : String
  description : String
  version : String
  mgmtIp : String
  apiPort : String
  apiProtocol : String
  apiKey : String
  apiTimeout : String
  sshUser : String
  sshPass : String
  sshPort : String
  deriving DecidableEq, Repr

namespace DeviceEditor

/-- The window as it opens. -/
def start (device : RouterView) : DeviceEditor where
  hostname := device.hostname
  description := device.description.getD ""
  version := normalizeVersion device.version
  mgmtIp := device.mgmtIp
  apiPort := shownNumber device.apiPort
  apiProtocol := device.apiProtocol
  -- an answer holds no secrets
  apiKey := ""
  apiTimeout := device.apiTimeout.repr
  sshUser := device.sshUsername.getD ""
  sshPass := ""
  sshPort := device.sshPort.repr

/-- `submit`: the body of the request. -/
def submit (e : DeviceEditor) : Except SubmitError UpdateRouter :=
  if jsTrim e.hostname = "" ∨ jsTrim e.mgmtIp = "" then
    .error (.shown "Hostname and Management IP are required.")
  else do
    let apiPort ← portField e.apiPort
    let apiTimeout ← sentI32 (parseIntOr e.apiTimeout 10)
    let sshPort ← sentI32 (parseIntOr e.sshPort 22)
    return {
      hostname := some (jsTrim e.hostname)
      description := jsField e.description
      mgmtIp := some (jsTrim e.mgmtIp)
      version := some e.version
      apiPort := apiPort
      apiProtocol := some e.apiProtocol
      apiKey := jsField e.apiKey
      apiTimeout := apiTimeout
      sshUsername := jsField e.sshUser
      sshPassword := if e.sshPass = "" then none else some e.sshPass
      sshPort := sshPort }

end DeviceEditor

/-! ### What comes back -/

/-- A number of 32 bits, as the columns hold them. -/
def IsI32 (n : Int) : Prop := -2 ^ 31 ≤ n ∧ n < 2 ^ 31

instance (n : Int) : Decidable (IsI32 n) := inferInstanceAs (Decidable (_ ∧ _))

/-- The numbers of the row are of 32 bits. -/
structure RouterRow.InRange (r : RouterRow) : Prop where
  apiPort : ∀ p ∈ r.apiPort, IsI32 p
  apiTimeout : IsI32 r.apiTimeout
  sshPort : IsI32 r.sshPort

/-- What becomes of the columns that a window opens on, but for the secrets. -/
def RouterSettings.resaved (x : RouterSettings) : RouterSettings :=
  { x with
    hostname := jsTrim x.hostname
    description := jsField (x.description.getD "")
    mgmtIp := jsTrim x.mgmtIp
    version := normalizeVersion x.version
    apiTimeout := if x.apiTimeout = 0 then 10 else x.apiTimeout
    sshUsername := jsField (x.sshUsername.getD "")
    sshPort := if x.sshPort = 0 then 22 else x.sshPort }

/-- A text that a field gives back: it is not empty, and the page leaves it alone. -/
def ComesBack (o : Option String) : Prop := ∀ t, o = some t → jsTrim t = t ∧ t ≠ ""

theorem jsField_getD_eq_self_iff {o : Option String} : jsField (o.getD "") = o ↔ ComesBack o := by
  cases o with
  | none => exact iff_of_true (by decide) fun t ht ↦ by cases ht
  | some t =>
    have hback : ComesBack (some t) ↔ jsTrim t = t ∧ t ≠ "" := by simp [ComesBack]
    rw [hback]
    show jsField t = some t ↔ _
    rw [jsField]
    constructor
    · intro h
      obtain ⟨hblank, htrim⟩ := Option.ite_none_left_eq_some.1 h
      have htrim : jsTrim t = t := Option.some.inj htrim
      exact ⟨htrim, fun ht ↦ hblank (htrim.trans ht)⟩
    · rintro ⟨htrim, hne⟩
      rw [htrim, if_neg hne]

theorem normalizeVersion_eq_self_iff {v : String} :
    normalizeVersion v = v ↔ v ∈ vyosVersions := by
  constructor
  · intro h
    rw [← h, normalizeVersion]
    cases hfind : vyosVersions.find? fun ver ↦ ver.toList.isPrefixOf v.toList with
    | none => decide
    | some ver => exact List.mem_of_find?_eq_some hfind
  · intro h
    have hcases : v = "1.3" ∨ v = "1.4" ∨ v = "1.5" := by simpa [vyosVersions] using h
    rcases hcases with rfl | rfl | rfl <;> decide

theorem ite_zero_eq_self_iff (n : Int) {d : Int} (hd : d ≠ 0) :
    (if n = 0 then d else n) = n ↔ n ≠ 0 := by
  split <;> omega

/-- **When a window gives back what it opened on.** -/
theorem resaved_eq_self_iff {x : RouterSettings} :
    x.resaved = x ↔ jsTrim x.hostname = x.hostname ∧ ComesBack x.description ∧
      jsTrim x.mgmtIp = x.mgmtIp ∧ x.version ∈ vyosVersions ∧ x.apiTimeout ≠ 0 ∧
      ComesBack x.sshUsername ∧ x.sshPort ≠ 0 := by
  rw [← normalizeVersion_eq_self_iff, ← jsField_getD_eq_self_iff (o := x.description),
    ← jsField_getD_eq_self_iff (o := x.sshUsername),
    ← ite_zero_eq_self_iff x.apiTimeout (d := 10) (by decide),
    ← ite_zero_eq_self_iff x.sshPort (d := 22) (by decide)]
  constructor
  · intro h
    have hfields : ∀ {γ : Type} (f : RouterSettings → γ), f x.resaved = f x := fun f ↦ by rw [h]
    exact ⟨hfields (·.hostname), hfields (·.description), hfields (·.mgmtIp), hfields (·.version),
      hfields (·.apiTimeout), hfields (·.sshUsername), hfields (·.sshPort)⟩
  · rintro ⟨hhost, hdesc, hip, hversion, htimeout, huser, hport⟩
    rw [RouterSettings.resaved, hhost, hdesc, hip, hversion, htimeout, huser, hport]

theorem parseInt_repr (n : Int) : parseInt n.repr = some n := by
  obtain ⟨ds, hne, hdigits, hcases⟩ := toList_repr_cases n
  have htake : ds.takeWhile Char.isDigit = ds := List.takeWhile_eq_self_iff.2 hdigits
  have hhead : ∀ c cs, ds = c :: cs → c.isDigit = true :=
    fun c cs h ↦ hdigits c (h ▸ List.mem_cons_self)
  rcases hcases with ⟨-, hlist, hvalue⟩ | ⟨-, hlist, hvalue⟩
  · obtain ⟨c, cs, rfl⟩ := List.exists_cons_of_ne_nil hne
    have hdrop : (c :: cs).dropWhile isJsWhitespace = c :: cs :=
      List.dropWhile_cons_of_neg (by
        rw [isJsWhitespace_of_isDigit (hdigits c List.mem_cons_self)]
        decide)
    unfold parseInt
    rw [hlist, hdrop]
    split
    rename_i sign rest heq
    -- the first character is a digit, so there is no sign
    split at heq
    · rename_i hsign
      exact absurd (hhead _ _ hsign) (by decide)
    · rename_i hsign
      exact absurd (hhead _ _ hsign) (by decide)
    · obtain ⟨rfl, rfl⟩ := Prod.mk.inj heq
      rw [htake]
      simp only [hne, if_false, hvalue, one_mul]
  · have hdrop : ('-' :: ds).dropWhile isJsWhitespace = '-' :: ds :=
      List.dropWhile_cons_of_neg (by decide)
    unfold parseInt
    rw [hlist, hdrop]
    simp only [htake, hne, if_false, hvalue, neg_mul, one_mul, neg_neg]

/-! ### Saved -/

section Submit

variable {r : RouterRow}

theorem sentI32_eq {n : Int} (h : IsI32 n) : sentI32 n = .ok (some n) := if_pos h

theorem parseIntOr_repr (n other : Int) :
    parseIntOr n.repr other = if n = 0 then other else n := by
  rw [parseIntOr, parseInt_repr]

theorem portField_shownNumber {o : Option Int} (h : ∀ p ∈ o, IsI32 p) :
    portField (shownNumber o) = .ok o := by
  cases o with
  | none => decide
  | some p =>
    show portField p.repr = _
    rw [portField, parseInt_repr]
    show (if p.repr = "" then _ else _) = _
    rw [if_neg (intRepr_ne_empty p), sentI32_eq (h p rfl)]

theorem isI32_ite {n other : Int} (hn : IsI32 n) (hother : IsI32 other) :
    IsI32 (if n = 0 then other else n) := by
  split
  · exact hother
  · exact hn

/-- A window in which only the secrets were typed. -/
def DeviceEditor.withSecrets (r : RouterRow) (apiKey sshPass : String) : DeviceEditor :=
  { DeviceEditor.start r.view with apiKey := apiKey, sshPass := sshPass }

/-- The body it sends. -/
def RouterRow.resent (r : RouterRow) (apiKey sshPass : String) : UpdateRouter where
  hostname := some r.settings.resaved.hostname
  description := r.settings.resaved.description
  mgmtIp := some r.settings.resaved.mgmtIp
  version := some r.settings.resaved.version
  apiPort := r.apiPort
  apiProtocol := some r.apiProtocol
  apiKey := jsField apiKey
  apiTimeout := some r.settings.resaved.apiTimeout
  sshUsername := r.settings.resaved.sshUsername
  sshPassword := if sshPass = "" then none else some sshPass
  sshPort := some r.settings.resaved.sshPort

/-- **What the window sends**, unless one of its required fields is blank. -/
theorem submit_withSecrets (hrange : r.InRange) (apiKey sshPass : String) :
    (DeviceEditor.withSecrets r apiKey sshPass).submit =
      if jsTrim r.hostname = "" ∨ jsTrim r.mgmtIp = "" then
        .error (.shown "Hostname and Management IP are required.")
      else .ok (r.resent apiKey sshPass) := by
  have hport : portField (DeviceEditor.withSecrets r apiKey sshPass).apiPort = .ok r.apiPort :=
    portField_shownNumber hrange.apiPort
  have htimeout : sentI32 (parseIntOr (DeviceEditor.withSecrets r apiKey sshPass).apiTimeout 10) =
      .ok (some (if r.apiTimeout = 0 then 10 else r.apiTimeout)) := by
    show sentI32 (parseIntOr r.apiTimeout.repr 10) = _
    rw [parseIntOr_repr]
    exact sentI32_eq (isI32_ite hrange.apiTimeout (by decide))
  have hssh : sentI32 (parseIntOr (DeviceEditor.withSecrets r apiKey sshPass).sshPort 22) =
      .ok (some (if r.sshPort = 0 then 22 else r.sshPort)) := by
    show sentI32 (parseIntOr r.sshPort.repr 22) = _
    rw [parseIntOr_repr]
    exact sentI32_eq (isI32_ite hrange.sshPort (by decide))
  rw [DeviceEditor.submit, hport, htimeout, hssh]
  rfl

/-- What it makes of the columns, whatever they hold by then. -/
theorem write_resent (apiKey sshPass : String) (x : RouterSettings) :
    (r.resent apiKey sshPass).write x =
      { r.settings.resaved with
        apiKey := keepEmpty (r.resent apiKey sshPass).apiKey x.apiKey
        sshPassword := keepEmpty (r.resent apiKey sshPass).sshPassword x.sshPassword } := rfl

end Submit

/-! ### A window among other requests -/

section Window

variable {Pid : Type} [DecidableEq Pid] {A : Argon2} {s m s' : Server Pid}
  {acts : List (Server.Act Pid)} {r row : RouterRow} {body : UpdateRouter}

/-- A served edit found a row, and answers with what it made of it. -/
theorem served_edit {i : Pid} {id : Uuid}
    (h : Server.Step A m (.serve (.exchange i ⟨.updateRouter id body, .ok (some row)⟩)) s') :
    row ∈ s'.service.state.routers ∧ ∃ r₁ ∈ m.service.state.routers, r₁.id = id ∧
      row = body.apply row.updatedAt r₁ := by
  cases h with
  | serve a hs =>
    cases hs with
    | exchange i v hcall hexec =>
      obtain ⟨hrow, rfl⟩ := of_guarded hexec
      obtain ⟨r₁, hfind, heq⟩ := Option.map_eq_some_iff.1 hrow.symm
      change (m.service.state.routers.find? fun r ↦ r.id == id) = some r₁ at hfind
      have hid : r₁.id = id :=
        beq_iff_eq.1 (List.find?_some (p := fun r : RouterRow ↦ r.id == id) hfind)
      have hmem : r₁ ∈ m.service.state.routers := List.mem_of_find?_eq_some hfind
      refine ⟨?_, r₁, hmem, hid, heq.symm⟩
      exact List.mem_map.2 ⟨r₁, hmem, by rw [if_pos hid, heq]⟩

omit [DecidableEq Pid] in
/-- A row with the identifier of one that was there stems from it. -/
theorem eq_of_origin (hw : s.service.state.Keyed) (hr : r ∈ s.service.state.routers)
    {r₀ : RouterRow} {later : List (Server.Act Pid)} (h : Origin s acts r₀ later)
    (hid : r₀.id = r.id) : r₀ = r ∧ later = acts := by
  cases h with
  | there hmem => exact ⟨List.inj_on_of_nodup_map hw.routers.nodup hmem hr hid, rfl⟩
  | added heq hnew hrow =>
    have hfresh : r₀.id = _ := congrArg RouterRow.id hrow
    have hlt := hw.routers.lt r hr
    rw [← hid, hfresh] at hlt
    exact absurd hlt (Nat.not_lt.2 hnew)

/-- **What saving a device does.** A window opens on a row; then anything happens, the edits of
others included; then the window is saved, with the secrets typed in it or left empty. The row comes
to what the window opened on, up to what the fields do to it, however it was edited meanwhile. Only
its secrets are the last ones that anybody typed, and it stays the router it was. The columns that
the window shows come back exactly if every text is trimmed, no optional one is empty, the version
is in the list, and neither number is 0. -/
theorem deviceEditor_saved (hw : s.service.state.Keyed) (hr : r ∈ s.service.state.routers)
    (hrange : r.InRange) (h : Trace (Server.Step A) s acts m) {apiKey sshPass : String}
    (hsubmit : (DeviceEditor.withSecrets r apiKey sshPass).submit = .ok body) {i : Pid}
    (hstep : Server.Step A m
      (.serve (.exchange i ⟨.updateRouter r.id body, .ok (some row)⟩)) s') :
    row ∈ s'.service.state.routers ∧ row.fixed = r.fixed ∧
      row.settings =
        { r.settings.resaved with
          apiKey := (lastTyped
            ((edits r.id acts).map UpdateRouter.apiKey ++ [jsField apiKey])).or r.apiKey
          sshPassword := (lastTyped
            ((edits r.id acts).map UpdateRouter.sshPassword ++ [some sshPass])).or r.sshPassword } ∧
      ({ row.settings with apiKey := r.apiKey, sshPassword := r.sshPassword } = r.settings ↔
        jsTrim r.hostname = r.hostname ∧ ComesBack r.description ∧ jsTrim r.mgmtIp = r.mgmtIp ∧
          r.version ∈ vyosVersions ∧ r.apiTimeout ≠ 0 ∧ ComesBack r.sshUsername ∧
          r.sshPort ≠ 0) := by
  obtain ⟨hmem, r₁, hr₁, hid₁, hrow⟩ := served_edit hstep
  obtain ⟨r₀, later, horigin, hfixed, -, hkey, hpass⟩ := settings_traced h hr₁
  have hid₀ : r₀.id = r.id := (congrArg Prod.fst hfixed).symm.trans hid₁
  obtain ⟨rfl, rfl⟩ := eq_of_origin hw hr horigin hid₀
  rw [submit_withSecrets hrange] at hsubmit
  split at hsubmit
  · cases hsubmit
  obtain rfl := Except.ok.inj hsubmit
  rw [hid₁] at hkey hpass
  have hempty : (some sshPass).filter (fun t ↦ t != "") =
      (if sshPass = "" then none else some sshPass).filter fun t ↦ t != "" := by
    by_cases ht : sshPass = "" <;> simp [ht, Option.filter_some]
  have hsettings : row.settings = { r₀.settings.resaved with
      apiKey := (lastTyped
        ((edits r₀.id later).map UpdateRouter.apiKey ++ [jsField apiKey])).or r₀.apiKey
      sshPassword := (lastTyped ((edits r₀.id later).map UpdateRouter.sshPassword ++
        [some sshPass])).or r₀.sshPassword } := by
    have hwrite : row.settings = (r₀.resent apiKey sshPass).write r₁.settings := by
      rw [hrow]
      rfl
    rw [hwrite, write_resent, lastTyped_snoc, lastTyped_snoc, Option.or_assoc, Option.or_assoc,
      hempty, keepEmpty_eq, keepEmpty_eq, ← hkey, ← hpass]
    rfl
  refine ⟨hmem, ?_, hsettings, ?_⟩
  · rw [hrow]
    exact hfixed
  · have hshown : { row.settings with apiKey := r₀.apiKey, sshPassword := r₀.sshPassword } =
        r₀.settings.resaved := by
      rw [hsettings]
      rfl
    rw [hshown]
    exact resaved_eq_self_iff

end Window

/-- What the window that was opened on the sample router sends. -/
def sampleResent : UpdateRouter := sampleRouterRow.resent "" ""

/-- What it makes of the row. -/
def sampleResaved : RouterRow := { sampleRouterRow with apiKey := some "new" }

/-- The other edit is served before the window's request. -/
def sampleWindowActs : List (Server.Act ℕ) :=
  sampleRenameActs ++ [.serve (.enter 1 (.call ⟨⟨2, "admin"⟩, .router 0 (.update sampleResent)⟩))]

/-- The name is undone, and the key that was typed meanwhile is kept. -/
theorem deviceEditor_saved_sample : ∃ s' : Server ℕ,
    sampleResaved ∈ s'.service.state.routers ∧ sampleResaved.fixed = sampleRouterRow.fixed ∧
      sampleResaved.settings =
        { sampleRouterRow.settings.resaved with
          apiKey := (lastTyped ((edits 0 sampleWindowActs).map UpdateRouter.apiKey ++
            [jsField ""])).or (some "key")
          sshPassword := (lastTyped ((edits 0 sampleWindowActs).map UpdateRouter.sshPassword ++
            [some ""])).or none } ∧
      ({ sampleResaved.settings with apiKey := some "key", sshPassword := none } =
          sampleRouterRow.settings ↔
        jsTrim "r0" = "r0" ∧ ComesBack none ∧ jsTrim "192.0.2.1" = "192.0.2.1" ∧
          "1.4" ∈ vyosVersions ∧ (10 : Int) ≠ 0 ∧ ComesBack none ∧ (22 : Int) ≠ 0) := by
  obtain ⟨m, htrace, hstate, hissued, hfree⟩ := trace_sampleRename
  have hrange : sampleRouterRow.InRange := ⟨(fun p hp ↦ by cases hp), by decide, by decide⟩
  have hsubmit : (DeviceEditor.withSecrets sampleRouterRow "" "").submit = .ok sampleResent := by
    rw [submit_withSecrets hrange]
    exact if_neg (by decide)
  have hexec : m.service.state.exec sampleArgon2 (.updateRouter 0 sampleResent)
      (.ok (some sampleResaved)) =
      some { sampleGranted "viewer" with routers := [sampleResaved] } := by
    rw [hstate]
    decide
  have hadmin : (⟨2, "admin"⟩ : Claims).isAdmin = true := by decide
  obtain ⟨m₁, s', henter, hserve, -⟩ :=
    exists_edit (hfree 1 (by decide)) (hissued ▸ List.mem_cons_self) hadmin hexec
  have hwindow : Trace (Server.Step sampleArgon2) sampleAdminServer sampleWindowActs m₁ :=
    trace_snoc.2 ⟨m, htrace, henter⟩
  exact ⟨s', deviceEditor_saved keyed_sampleGranted List.mem_cons_self hrange hwindow hsubmit
    hserve⟩

end VyosFabric
