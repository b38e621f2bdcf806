import VyosFabric.Client.InterfaceForms
import VyosFabric.Diff.GlobalSettings
import VyosFabric.Diff.InterfaceSettings
import VyosFabric.Diff.SystemSettings

/-!
# Saving a page unchanged

The system page and the global-options page load what the backend reads and save it as an update,
and the ethernet form does the same with a row. `pages_unchanged_iff` says when an update that
nobody touched has an empty diff. What gets in the way is by design: a log level does not apply
while logging is off, a fixed `auto` is the same as no speed, and the texts of a list are trimmed.

The system page shows `UTC` where no time zone is set, and saves it.
-/

namespace VyosFabric

/-! ### The system page -/

/-- `DeviceSystemConfig`, without what the page only shows: the clock, and the two columns of a
server that the backend does not fill in. -/
structure DeviceSystemConfig where
  hostname : Option String
  domainName : Option String
  timeZone : Option String
  ntpEnabled : Bool
  ntpServers : List String
  deriving DecidableEq, Repr

/-- What `get_system` answers of a snapshot. -/
def LiveSystem.answer (live : LiveSystem) : DeviceSystemConfig where
  hostname := live.hostname
  domainName := live.domainName
  timeZone := live.timeZone
  ntpEnabled := live.ntpEnabled
  ntpServers := live.ntpServers

/-- The state of the system page. -/
structure SystemPage where
  hostname : String
  domain : String
  timezone : String
  ntpEnabled : Bool
  ntpServers : List String
  deriving DecidableEq, Repr

/-- `load` of the system page. -/
def SystemPage.load (cfg : DeviceSystemConfig) : SystemPage where
  hostname := cfg.hostname.getD ""
  domain := cfg.domainName.getD ""
  timezone := cfg.timeZone.getD "UTC"
  ntpEnabled := cfg.ntpEnabled
  ntpServers := cfg.ntpServers

/-- `save` of the system page. -/
def SystemPage.save (page : SystemPage) : SystemConfigUpdate where
  hostname := some page.hostname
  domainName := some page.domain
  timeZone := some page.timezone
  ntpEnabled := some page.ntpEnabled
  ntpServers := some (sentList page.ntpServers)

/-! ### The global-options page -/

/-- The keys of the options with a single value. -/
inductive SingleKey where
  | allPing | broadcastPing | directedBroadcast | ipSrcRoute | ipv6SrcRoute | ipv6ReceiveRedirects
  | receiveRedirects | sendRedirects | logMartians | synCookies | twaHazardsProtection
  | applyToBridge | sourceValidation | ipv6SourceValidation
  deriving DecidableEq, Repr

/-- `cfg[k]`. -/
def GlobalOptions.single (cfg : GlobalOptions) : SingleKey → Option String
  | .allPing => cfg.allPing
  | .broadcastPing => cfg.broadcastPing
  | .directedBroadcast => cfg.directedBroadcast
  | .ipSrcRoute => cfg.ipSrcRoute
  | .ipv6SrcRoute => cfg.ipv6SrcRoute
  | .ipv6ReceiveRedirects => cfg.ipv6ReceiveRedirects
  | .receiveRedirects => cfg.receiveRedirects
  | .sendRedirects => cfg.sendRedirects
  | .logMartians => cfg.logMartians
  | .synCookies => cfg.synCookies
  | .twaHazardsProtection => cfg.twaHazardsProtection
  | .applyToBridge => cfg.applyToBridge
  | .sourceValidation => cfg.sourceValidation
  | .ipv6SourceValidation => cfg.ipv6SourceValidation

structure StatePolicyForm where
  action : String
  log : Bool
  logLevel : String
  deriving DecidableEq, Repr

/-- The state of the global-options page. -/
structure FormState where
  options : SingleKey → String
  resolverCache : Bool
  resolverInterval : String
  established : StatePolicyForm
  related : StatePolicyForm
  invalid : StatePolicyForm

def spFrom (e : StatePolicyEntry) : StatePolicyForm where
  action := e.action.getD ""
  log := e.log
  logLevel := e.logLevel.getD ""

def fromConfig (cfg : GlobalOptions) : FormState where
  options := fun k ↦ (cfg.single k).getD ""
  resolverCache := cfg.resolverCache
  resolverInterval := cfg.resolverInterval.getD ""
  established := spFrom cfg.statePolicy.established
  related := spFrom cfg.statePolicy.related
  invalid := spFrom cfg.statePolicy.invalid

/-- `s || null`. -/
def orNull (s : String) : Option String := if s = "" then none else some s

def spTo (sp : StatePolicyForm) : StatePolicyEntryUpdate where
  action := orNull sp.action
  log := sp.log
  -- a level only applies while logging is on
  logLevel := if sp.log then orNull sp.logLevel else none

def toUpdate (f : FormState) : GlobalOptions where
  allPing := some (f.options .allPing)
  broadcastPing := some (f.options .broadcastPing)
  directedBroadcast := some (f.options .directedBroadcast)
  ipSrcRoute := some (f.options .ipSrcRoute)
  ipv6SrcRoute := some (f.options .ipv6SrcRoute)
  ipv6ReceiveRedirects := some (f.options .ipv6ReceiveRedirects)
  receiveRedirects := some (f.options .receiveRedirects)
  sendRedirects := some (f.options .sendRedirects)
  logMartians := some (f.options .logMartians)
  synCookies := some (f.options .synCookies)
  twaHazardsProtection := some (f.options .twaHazardsProtection)
  applyToBridge := some (f.options .applyToBridge)
  sourceValidation := some (f.options .sourceValidation)
  ipv6SourceValidation := some (f.options .ipv6SourceValidation)
  resolverCache := f.resolverCache
  resolverInterval := some f.resolverInterval
  statePolicy := ⟨spTo f.established, spTo f.related, spTo f.invalid⟩

/-! ### Lists that come back -/

/-- A form sends the texts of the list back as they are. -/
def Kept (l : List String) : Prop := ∀ a ∈ l, Clean a ∧ a ≠ ""

instance (l : List String) : Decidable (Kept l) := inferInstanceAs (Decidable (∀ a ∈ l, _ ∧ _))

theorem mem_trimmedList_sentList {l : List String} {a : String} :
    a ∈ trimmedList (sentList l) ↔ a ≠ "" ∧ ∃ b ∈ l, jsTrim b ≠ "" ∧ trim (jsTrim b) = a := by
  simp only [trimmedList, sentList, List.mem_filter, List.mem_map, decide_eq_true_eq]
  constructor
  · rintro ⟨⟨_, ⟨⟨b, hb, rfl⟩, hne⟩, rfl⟩, ha⟩
    exact ⟨ha, b, hb, hne, rfl⟩
  · rintro ⟨ha, b, hb, hne, rfl⟩
    exact ⟨⟨_, ⟨⟨b, hb, rfl⟩, hne⟩, rfl⟩, ha⟩

/-- Both trimmings together make a text shorter, or leave it alone. -/
theorem clean_or_length_lt (a : String) :
    Clean a ∨ (trim (jsTrim a)).toList.length < a.toList.length := by
  have hjs : (jsTrim a).toList.Sublist a.toList := by
    rw [jsTrim_eq, String.toList_ofList]
    exact strip_sublist _ _
  have htrim : (trim (jsTrim a)).toList.Sublist (jsTrim a).toList := by
    rw [trim_eq, String.toList_ofList]
    exact strip_sublist _ _
  rcases Nat.lt_or_ge (trim (jsTrim a)).toList.length a.toList.length with hlt | hge
  · exact Or.inr hlt
  · have hsame : jsTrim a = a :=
      String.toList_inj.1 (hjs.eq_of_length_le (hge.trans htrim.length_le))
    rw [hsame] at htrim hge
    exact Or.inl ⟨hsame, String.toList_inj.1 (htrim.eq_of_length_le hge)⟩

/-- **A list comes back as the same set** exactly if every text of it comes back as it was: a
longest text that does not would have to come from a longer one. -/
theorem same_iff_kept {l : List String} :
    (∀ a, a ∈ l ↔ a ∈ trimmedList (sentList l)) ↔ Kept l := by
  constructor
  · intro hsame
    have hclean : ∀ a ∈ l, Clean a := by
      by_contra hnot
      obtain ⟨a₀, ha₀, hunclean⟩ : ∃ a ∈ l, ¬Clean a := by simpa using hnot
      obtain ⟨a, ha, hmax⟩ := (l.toFinset.filter fun a ↦ ¬Clean a).exists_max_image
        (fun a ↦ a.toList.length)
        ⟨a₀, Finset.mem_filter.2 ⟨List.mem_toFinset.2 ha₀, hunclean⟩⟩
      obtain ⟨hmem, hdirty⟩ := Finset.mem_filter.1 ha
      obtain ⟨-, b, hb, -, rfl⟩ :=
        mem_trimmedList_sentList.1 ((hsame a).1 (List.mem_toFinset.1 hmem))
      rcases clean_or_length_lt b with hbclean | hlt
      · rw [hbclean.1, hbclean.2] at hdirty
        exact hdirty hbclean
      · have hbdirty : ¬Clean b := fun hbclean ↦ by
          rw [hbclean.1, hbclean.2] at hlt
          exact lt_irrefl _ hlt
        have hle := hmax b (Finset.mem_filter.2 ⟨List.mem_toFinset.2 hb, hbdirty⟩)
        exact absurd hlt (not_lt_of_ge hle)
    exact fun a ha ↦ ⟨hclean a ha, (mem_trimmedList_sentList.1 ((hsame a).1 ha)).1⟩
  · intro hkept a
    rw [trimmedList_sentList hkept]

/-! ### Values that come back -/

/-- A shown text that is sent back untrimmed. -/
theorem trimmed_getD {o : Option String} (ho : trimmed o = o) : trimmed (some (o.getD "")) = o := by
  cases o with
  | none => decide
  | some t => exact ho

theorem trimmed_orNull {o : Option String} (ho : trimmed o = o) :
    trimmed (orNull (o.getD "")) = o := by
  cases o with
  | none => rfl
  | some t =>
    obtain ⟨-, hne⟩ := trim_eq_of_trimmed ho rfl
    rw [Option.getD_some, orNull, if_neg hne, ho]

/-- A fixed `auto` is not told from no value. -/
theorem trimmed_unlessAuto_iff {o : Option String} (ho : trimmed o = o) :
    o = trimmed (unlessAuto (o.getD "auto")) ↔ o ≠ some "auto" := by
  cases o with
  | none => simp [unlessAuto, trimmed]
  | some t =>
    by_cases hauto : t = "auto"
    · subst hauto
      simp [unlessAuto, trimmed]
    · simp [unlessAuto, hauto, ho]

/-! ### The system page -/

/-- **The system page saved unchanged**, where a time zone is set. -/
theorem systemPage_unchanged_iff {data ntpValue : Json} {base : Path} (author : Uuid)
    (hzone : (readSystem data ntpValue base).timeZone ≠ none) :
    diffSystem (readSystem data ntpValue base)
        (SystemPage.load (readSystem data ntpValue base).answer).save author = [] ↔
      Kept (readSystem data ntpValue base).ntpServers := by
  set live := readSystem data ntpValue base with hlive
  set u := (SystemPage.load live.answer).save with hu
  have hkept : ∀ o : Option String, trimmed o = o → (trimmed (some (o.getD "")) <|> o) = o := by
    intro o ho
    rw [trimmed_getD ho]
    cases o <;> rfl
  have hhostname : (trimmed u.hostname <|> live.hostname) = live.hostname :=
    hkept _ (trimmed_childStr data "host-name")
  have hdomain : u.desiredDomain live = live.domainName :=
    trimmed_getD (trimmed_childStr data "domain-name")
  have htimeZone : (trimmed u.timeZone <|> live.timeZone) = live.timeZone := by
    obtain ⟨tz, htz⟩ := Option.ne_none_iff_exists'.1 hzone
    have hshown : u.timeZone = some (live.timeZone.getD "") := by
      show some (live.timeZone.getD "UTC") = _
      rw [htz]
      rfl
    rw [hshown]
    exact hkept _ (trimmed_childStr data "time-zone")
  have hntp : diffNtp (systemChange author) live u = [] ↔ Kept live.ntpServers := by
    cases henabled : live.ntpEnabled with
    | false =>
      have hservers : live.ntpServers = [] := by
        have hnull : ntpValue.isNull = true := by simpa [hlive, readSystem] using henabled
        cases ntpValue with
        | null => rfl
        | _ => cases hnull
      rw [diffNtp_of_disabled (congrArg some henabled), henabled, hservers]
      simp [Kept]
    | true =>
      have hon : u.ntpEnabled ≠ some false := by
        show some live.ntpEnabled ≠ some false
        rw [henabled]
        decide
      rw [diffNtp_eq_nil_iff hon rfl]
      exact same_iff_kept
  simp only [diffSystem_eq, systemParts, List.flatMap_cons, List.flatMap_nil,
    List.append_eq_nil_iff, leafDiff_eq_nil_iff, hhostname, hdomain, htimeZone, hntp, true_and,
    and_true]

/-! ### The global-options page -/

/-- A log level is set for the policy of the state, though logging is off. -/
def StatePolicyEntry.IdleLevel (e : StatePolicyEntry) : Prop :=
  e.action ≠ none ∧ e.log = false ∧ e.logLevel ≠ none

instance (e : StatePolicyEntry) : Decidable e.IdleLevel := inferInstanceAs (Decidable (_ ∧ _ ∧ _))

/-- The texts of the entry are trimmed. -/
def StatePolicyEntry.Trimmed (e : StatePolicyEntry) : Prop :=
  trimmed e.action = e.action ∧ trimmed e.logLevel = e.logLevel

theorem trimmed_readStateEntry (sp : Json) (state : String) :
    (readStateEntry sp state).Trimmed := by
  refine ⟨trimmed_nestedStr sp state "action", ?_⟩
  show trimmed (((sp.get state).bind fun e ↦ e.get "log-options").bind _) = _
  cases hoptions : (sp.get state).bind fun e ↦ e.get "log-options" with
  | none => simp [readStateEntry, hoptions, trimmed]
  | some options => simp [readStateEntry, hoptions, trimmed_childStr]

theorem trimmed_statePolicy (data : Json) :
    (readGlobalOptions data).statePolicy.established.Trimmed ∧
      (readGlobalOptions data).statePolicy.related.Trimmed ∧
        (readGlobalOptions data).statePolicy.invalid.Trimmed := by
  rw [readGlobalOptions]
  cases data.get "state-policy" with
  | none => exact ⟨⟨rfl, rfl⟩, ⟨rfl, rfl⟩, ⟨rfl, rfl⟩⟩
  | some sp =>
    exact ⟨trimmed_readStateEntry sp _, trimmed_readStateEntry sp _, trimmed_readStateEntry sp _⟩

theorem stateParts_unchanged_iff {state : String} {e : StatePolicyEntry} (author : Uuid)
    (haction : trimmed e.action = e.action) (hlevel : trimmed e.logLevel = e.logLevel) :
    (stateParts state e (spTo (spFrom e)) author).flatMap Prod.snd = [] ↔ ¬e.IdleLevel := by
  have hlogged : (spTo (spFrom e)).logLevel = if e.log then orNull (e.logLevel.getD "") else none :=
    rfl
  rw [stateParts, StatePolicyEntry.IdleLevel]
  cases hset : e.action with
  | none =>
    have hnone : trimmed (spTo (spFrom e)).action = none := by
      show trimmed (orNull (e.action.getD "")) = none
      rw [trimmed_orNull haction, hset]
    simp [hnone]
  | some action =>
    have hsome : trimmed (spTo (spFrom e)).action = some action := by
      show trimmed (orNull (e.action.getD "")) = some action
      rw [trimmed_orNull haction, hset]
    have hlog : (spTo (spFrom e)).log = e.log := rfl
    rw [hsome]
    simp only [List.flatMap_cons, List.flatMap_nil, List.append_eq_nil_iff, leafDiff_eq_nil_iff,
      flagDiff_eq_nil_iff, hlog, hlogged]
    cases e.log with
    | false => simp [trimmed, eq_comm]
    | true => simp [trimmed_orNull hlevel]

/-- **The global-options page saved unchanged.** -/
theorem globalOptionsPage_unchanged_iff {data : Json} (author : Uuid) :
    diffGlobalOptions (readGlobalOptions data) (toUpdate (fromConfig (readGlobalOptions data)))
        author = [] ↔
      ¬(readGlobalOptions data).statePolicy.established.IdleLevel ∧
        ¬(readGlobalOptions data).statePolicy.related.IdleLevel ∧
          ¬(readGlobalOptions data).statePolicy.invalid.IdleLevel := by
  set live := readGlobalOptions data with hlive
  have htrimmed : ∀ o ∈ live.singles, trimmed o = o := by
    have hread : live.singles = singleKeys.map data.childStr := rfl
    rw [hread]
    rintro _ ho
    obtain ⟨key, -, rfl⟩ := List.mem_map.1 ho
    exact trimmed_childStr data key
  have hoptions : ∀ x ∈ singleKeys.zip (live.singles.zip (toUpdate (fromConfig live)).singles),
      optionDiff author x.1 x.2.1 x.2.2 = [] := by
    have hsent : (toUpdate (fromConfig live)).singles =
        live.singles.map fun o ↦ some (o.getD "") := rfl
    rintro ⟨key, old, new⟩ hx
    have hpair := (List.of_mem_zip hx).2
    rw [hsent, ← List.map_id live.singles, List.map_map, List.zip_map'] at hpair
    obtain ⟨o, ho, heq⟩ := List.mem_map.1 hpair
    obtain ⟨rfl, rfl⟩ := Prod.mk.inj heq
    exact leafDiff_eq_nil_iff.2 (trimmed_getD (htrimmed o ho))
  have hinterval : trimmed (toUpdate (fromConfig live)).resolverInterval = live.resolverInterval :=
    trimmed_getD (trimmed_childStr data "resolver-interval")
  have hcache : (toUpdate (fromConfig live)).resolverCache = live.resolverCache := rfl
  obtain ⟨hestablished, hrelated, hinvalid⟩ := trimmed_statePolicy data
  rw [diffGlobalOptions_eq, globalParts, List.flatMap_append, List.flatMap_map,
    List.append_eq_nil_iff, List.flatMap_eq_nil_iff, and_iff_right hoptions]
  simp only [List.flatMap_append, List.flatMap_cons, List.flatMap_nil, List.append_eq_nil_iff,
    flagDiff_eq_nil_iff, optionDiff, leafDiff_eq_nil_iff, hinterval, hcache, true_and]
  exact and_congr (stateParts_unchanged_iff author hestablished.1 hestablished.2)
    (and_congr (stateParts_unchanged_iff author hrelated.1 hrelated.2)
      (stateParts_unchanged_iff author hinvalid.1 hinvalid.2))

/-! ### The ethernet form -/

/-- An accepted ethernet form. -/
theorem EthernetForm.of_submit {f : EthernetForm} {u : EthernetConfigUpdate}
    (h : f.submit = .ok u) : mtuField f.mtu = .ok u.mtu ∧ u = f.body u.mtu := by
  rw [EthernetForm.submit] at h
  split at h
  · cases h
  · split at h
    · cases h
    · split at h
      · cases h
      · cases hmtu : mtuField f.mtu with
        | error e =>
          rw [hmtu] at h
          cases h
        | ok mtu =>
          rw [hmtu] at h
          obtain rfl := Except.ok.inj h
          exact ⟨rfl, rfl⟩

/-- **A NIC submitted unchanged.** -/
theorem ethernetForm_unchanged_iff {data : Json} {r : EthernetInterface} {freeNames : List String}
    {u : EthernetConfigUpdate} (author : Uuid) (hr : r ∈ listEthernet data)
    (hsubmit : (EthernetForm.initially ⟨some r, freeNames⟩).submit = .ok u) :
    diffEthernet data u author = [] ↔
      Unmarked r.description ∧ Kept r.addresses ∧ r.speed ≠ some "auto" ∧
        r.duplex ≠ some "auto" := by
  obtain ⟨cfg, hcfg, hrow⟩ := mem_listEthernet_iff.1 hr
  have hform : EthernetForm.initially ⟨some r, freeNames⟩ = ⟨r.name, r.description.getD "",
      r.addresses, shownNumber r.mtu, r.speed.getD "auto", r.duplex.getD "auto", r.enabled⟩ := rfl
  obtain ⟨hsent, hbody⟩ := EthernetForm.of_submit hsubmit
  have hmtu : u.mtu = asMtu cfg := by
    have hread : r.mtu = asMtu cfg := by rw [hrow]; rfl
    rw [hform, mtuField_shown (hread ▸ asMtu_range)] at hsent
    rw [← hread, Except.ok.inj hsent]
  have hname : u.name = r.name := by rw [hbody, hform]; rfl
  have hparts : diffEthernet data u author = [] ↔ u.Holds cfg := by
    rw [diffEthernet_eq, hname, hcfg, ← ethernetParts_eq_nil_iff, withCreate, Option.isNone_some,
      Bool.false_and, if_neg Bool.false_ne_true]
  have hdescription : trimmed u.description = retyped r.description := by
    rw [hbody, hform, EthernetForm.body, retyped]
  have haddresses : u.addresses = sentList r.addresses := by rw [hbody, hform]; rfl
  have hspeed : u.speed = unlessAuto (r.speed.getD "auto") := by rw [hbody, hform]; rfl
  have hduplex : u.duplex = unlessAuto (r.duplex.getD "auto") := by rw [hbody, hform]; rfl
  have henabled : cfg.isEnabled = u.enabled := by rw [hbody, hform, hrow]; rfl
  have hrowDescription : cfg.childStr "description" = r.description := by rw [hrow]; rfl
  have hrowAddresses : asAddresses cfg = r.addresses := by rw [hrow]; rfl
  have hrowSpeed : cfg.childStr "speed" = r.speed := by rw [hrow]; rfl
  have hrowDuplex : cfg.childStr "duplex" = r.duplex := by rw [hrow]; rfl
  rw [hparts, EthernetConfigUpdate.holds_iff, hdescription, haddresses, hspeed, hduplex, hmtu,
    ← henabled, hrowDescription, hrowAddresses, hrowSpeed, hrowDuplex, same_iff_kept,
    trimmed_unlessAuto_iff (hrowSpeed ▸ trimmed_childStr cfg "speed"),
    trimmed_unlessAuto_iff (hrowDuplex ▸ trimmed_childStr cfg "duplex"), eq_comm,
    retyped_eq_self_iff (hrowDescription ▸ trimmed_childStr cfg "description")]
  simp only [true_and, and_true]

/-! ### All pages -/

/-- **Saving a page unchanged stages nothing**, exactly if the page sends back all it was given: the
system page, where a time zone is set, if its servers are clean; the global-options page if no log
level is set where logging is off; the ethernet form if the description and the addresses are clean
and neither the speed nor the duplex mode is a fixed `auto`. -/
theorem pages_unchanged_iff :
    (∀ (data ntpValue : Json) (base : Path) (author : Uuid),
      (readSystem data ntpValue base).timeZone ≠ none →
        (diffSystem (readSystem data ntpValue base)
            (SystemPage.load (readSystem data ntpValue base).answer).save author = [] ↔
          Kept (readSystem data ntpValue base).ntpServers)) ∧
      (∀ (data : Json) (author : Uuid),
        diffGlobalOptions (readGlobalOptions data) (toUpdate (fromConfig (readGlobalOptions data)))
            author = [] ↔
          ¬(readGlobalOptions data).statePolicy.established.IdleLevel ∧
            ¬(readGlobalOptions data).statePolicy.related.IdleLevel ∧
              ¬(readGlobalOptions data).statePolicy.invalid.IdleLevel) ∧
        ∀ (data : Json) (r : EthernetInterface) (freeNames : List String)
          (u : EthernetConfigUpdate) (author : Uuid), r ∈ listEthernet data →
          (EthernetForm.initially ⟨some r, freeNames⟩).submit = .ok u →
          (diffEthernet data u author = [] ↔
            Unmarked r.description ∧ Kept r.addresses ∧ r.speed ≠ some "auto" ∧
              r.duplex ≠ some "auto") :=
  ⟨fun _ _ _ author hzone ↦ systemPage_unchanged_iff author hzone,
    fun _ author ↦ globalOptionsPage_unchanged_iff author,
    fun _ _ _ _ author hr hsubmit ↦ ethernetForm_unchanged_iff author hr hsubmit⟩

/-- The `system` node of a device in the zone. -/
def zonedSystem (zone : String) : Json :=
  .obj [("host-name", .str "edge"), ("time-zone", .str zone)]

/-- An NTP node with a server. -/
def oneServer : Json := .obj [("server", .obj [("pool.example", .obj [])])]

/-- A NIC. -/
def nic (leaves : List (String × Json)) : Json := .obj [("eth0", .obj leaves)]

/-- A NIC with a speed and a duplex mode. -/
def fixedNic : Json :=
  nic [("address", .arr [.str "10.0.0.1/24", .str "dhcp"]), ("description", .str " uplink "),
    ("duplex", .str "full"), ("speed", .str "1000")]

/-- A NIC with a fixed `auto`. -/
def autoNic : Json := nic [("duplex", .str "auto"), ("speed", .str "auto")]

/-- A state with a log level and no log. -/
def levelOnly : Json :=
  .obj [("state-policy", .obj [("invalid", .obj [("action", .str "drop"),
    ("log-options", .obj [("level", .str "info")])])])]

/-- The update of the NIC, as its form submits it unchanged. -/
def fixedUpdate : EthernetConfigUpdate :=
  ⟨"eth0", some "uplink", ["10.0.0.1/24", "dhcp"], none, some "1000", some "full", true⟩

/-- A system with a zone, and a NIC with a fixed speed. -/
theorem pages_unchanged_fixed :
    diffSystem (readSystem (zonedSystem "Europe/Berlin") oneServer ["service", "ntp"])
      (SystemPage.load (readSystem (zonedSystem "Europe/Berlin") oneServer
        ["service", "ntp"]).answer).save 1 = [] ∧
      diffEthernet fixedNic fixedUpdate 1 = [] := by
  obtain ⟨hsystem, -, hethernet⟩ := pages_unchanged_iff
  constructor
  · exact (hsystem _ _ _ 1 (by decide)).2 (by decide)
  · exact (hethernet fixedNic (ethernetRow "eth0" ((fixedNic.get "eth0").getD .null)) [] _ 1
      (mem_listEthernet_iff.2 ⟨_, rfl, rfl⟩) (by decide)).2 (by decide)

/-- What saving a page unchanged stages: the delete of a level that does not apply, and the deletes
of a fixed `auto`. -/
theorem not_pages_unchanged :
    diffGlobalOptions (readGlobalOptions levelOnly)
        (toUpdate (fromConfig (readGlobalOptions levelOnly))) 1 ≠ [] ∧
      ∃ (r : EthernetInterface) (u : EthernetConfigUpdate), r ∈ listEthernet autoNic ∧
        (EthernetForm.initially ⟨some r, []⟩).submit = .ok u ∧ diffEthernet autoNic u 1 ≠ [] := by
  refine ⟨by decide,
    ethernetRow "eth0" ((autoNic.get "eth0").getD .null),
    ⟨"eth0", none, [], none, none, none, true⟩, mem_listEthernet_iff.2 ⟨_, rfl, rfl⟩,
    by decide, by decide⟩

end VyosFabric
