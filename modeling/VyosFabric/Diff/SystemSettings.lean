import VyosFabric.Diff.Checks
import VyosFabric.Diff.Readback

/-!
# What the system diff comes to

A batch that executes the diff gives a config that reads as the update asks
(`SystemConfigUpdate.Holds`), but for one case: NTP is to be enabled, is not, and no server is
given. The node of NTP is created by its servers only, so it stays away (`system_settles_iff`).
-/

namespace VyosFabric

open PathTree

/-- A change of the system page. -/
abbrev systemChange : Uuid → Op → Path → String → NewConfigChange := changeOf .system

/-- The system config of a live config, of a version with NTP at `base`. -/
def LiveConfig.system (L : LiveConfig) (base : Path) : LiveSystem :=
  readSystem (L.shown ["system"]) (L.shown base) base

@[simp] theorem ntpBase_system (L : LiveConfig) (base : Path) :
    (L.system base).ntpBase = base := rfl

/-- The domain name asked for: the live one where it is omitted. -/
def SystemConfigUpdate.desiredDomain (u : SystemConfigUpdate) (live : LiveSystem) : Option String :=
  match u.domainName with
  | none => live.domainName
  | some domain => trimmed (some domain)

/-- The servers to add. -/
def SystemConfigUpdate.addedServers (u : SystemConfigUpdate) (live : LiveSystem) : List String :=
  (trimmedList (u.ntpServers.getD [])).filter fun srv ↦ srv ∉ live.ntpServers

/-- The servers to remove: none where no list is given. -/
def SystemConfigUpdate.removedServers (u : SystemConfigUpdate) (live : LiveSystem) : List String :=
  match u.ntpServers with
  | none => []
  | some servers => live.ntpServers.filter fun srv ↦ srv ∉ trimmedList servers

/-! ### The diff in parts -/

/-- The settings of the system page, each below its path, with the diff of each. -/
def systemParts (live : LiveSystem) (u : SystemConfigUpdate) (author : Uuid) :
    List (Path × List NewConfigChange) :=
  let mk := systemChange author
  [ (["system", "host-name"], leafDiff mk ["system", "host-name"] live.hostname
      (trimmed u.hostname <|> live.hostname) (fun hostname ↦ s!"Hostname → {hostname}") ""),
    (["system", "domain-name"], leafDiff mk ["system", "domain-name"] live.domainName
      (u.desiredDomain live) (fun domain ↦ s!"Domain name → {domain}") "Remove domain name"),
    (["system", "time-zone"], leafDiff mk ["system", "time-zone"] live.timeZone
      (trimmed u.timeZone <|> live.timeZone) (fun tz ↦ s!"Time zone → {tz}") ""),
    (live.ntpBase, diffNtp mk live u)]

/-- A leaf that a blank text leaves alone. -/
theorem leafDiff_orElse (mk : Op → Path → String → NewConfigChange) (path : Path)
    (live update : Option String) (setText : String → String) (unsetText : String) :
    leafDiff mk path live (trimmed update <|> live) setText unsetText =
      match update.map trim with
      | none => []
      | some v => if v ≠ "" ∧ some v ≠ live then [mk .set (path ++ [v]) (setText v)] else [] := by
  cases update with
  | none => exact if_pos rfl
  | some t =>
    rw [trimmed_some]
    by_cases hblank : trim t = ""
    · rw [if_pos hblank]
      simp [leafDiff, hblank]
    · rw [if_neg hblank]
      by_cases hsame : some (trim t) = live
      · subst hsame
        simp [leafDiff]
      · simp [leafDiff, hsame, hblank]

/-- **A system diff is its parts.** -/
theorem diffSystem_eq (live : LiveSystem) (u : SystemConfigUpdate) (author : Uuid) :
    diffSystem live u author = (systemParts live u author).flatMap Prod.snd := by
  have hdomain : leafDiff (systemChange author) ["system", "domain-name"] live.domainName
      (u.desiredDomain live) (fun domain ↦ s!"Domain name → {domain}") "Remove domain name" =
      match u.domainName.map trim with
      | none => []
      | some domain =>
        if domain = "" then
          if live.domainName.isSome then
            [systemChange author .delete ["system", "domain-name"] "Remove domain name"]
          else []
        else if some domain ≠ live.domainName then
          [systemChange author .set ["system", "domain-name", domain] s!"Domain name → {domain}"]
        else [] := by
    cases hupdate : u.domainName with
    | none => simp [SystemConfigUpdate.desiredDomain, hupdate, leafDiff]
    | some domain =>
      simp only [SystemConfigUpdate.desiredDomain, hupdate, trimmed_some, leafDiff, Option.map_some]
      by_cases hblank : trim domain = ""
      · rw [if_pos hblank, if_pos hblank]
        cases live.domainName <;> rfl
      · rw [if_neg hblank, if_neg hblank, ite_not]
        rfl
  simp only [systemParts, List.flatMap_cons, List.flatMap_nil, List.append_nil, leafDiff_orElse,
    hdomain, ← List.append_assoc]
  rfl

/-! ### The part of NTP -/

section Settle

variable {schema : Schema} {L L' : LiveConfig} {base : Path} {live : LiveSystem}
  {u : SystemConfigUpdate} {author : Uuid}

theorem diffNtp_of_disabled (hoff : u.ntpEnabled = some false) :
    diffNtp (systemChange author) live u =
      if live.ntpEnabled then [systemChange author .delete live.ntpBase "Disable NTP"] else [] := by
  rw [diffNtp, if_pos hoff]

theorem diffNtp_eq_nil_iff {servers : List String} (hon : u.ntpEnabled ≠ some false)
    (hservers : u.ntpServers = some servers) : diffNtp (systemChange author) live u = [] ↔
      ∀ srv, srv ∈ live.ntpServers ↔ srv ∈ trimmedList servers := by
  rw [diffNtp, if_neg hon, hservers]
  dsimp only
  rw [List.append_eq_nil_iff, List.map_eq_nil_iff, List.map_eq_nil_iff, filters_eq_nil_iff]

/-- The edits of the servers. -/
theorem map_edit_diffNtp (hon : u.ntpEnabled ≠ some false) :
    (diffNtp (systemChange author) live u).map NewConfigChange.edit =
      ((u.addedServers live).map fun srv ↦ .put ((live.ntpBase ++ ["server"]) ++ [srv])) ++
        (u.removedServers live).map fun srv ↦ .cut ((live.ntpBase ++ ["server"]) ++ [srv]) := by
  rw [diffNtp, if_neg hon, SystemConfigUpdate.addedServers, SystemConfigUpdate.removedServers]
  cases u.ntpServers with
  | none => rfl
  | some servers =>
    simp only [List.map_append, List.map_map, Function.comp_def, edit_changeOf_set,
      edit_changeOf_delete, List.append_assoc, List.cons_append, List.nil_append, Option.getD_some]

theorem diffNtp_below : ∀ c ∈ diffNtp (systemChange author) live u,
    c.edit.Below schema.single live.ntpBase := by
  intro c hc
  by_cases hoff : u.ntpEnabled = some false
  · rw [diffNtp_of_disabled hoff] at hc
    split at hc
    · obtain rfl := List.mem_singleton.1 hc
      exact ⟨List.prefix_refl _, fun heq ↦ by cases heq⟩
    · cases hc
  · have hedit : c.edit ∈ (diffNtp (systemChange author) live u).map NewConfigChange.edit :=
      List.mem_map_of_mem hc
    rw [map_edit_diffNtp hoff] at hedit
    rcases List.mem_append.1 hedit with hedit | hedit
    · obtain ⟨srv, -, heq⟩ := List.mem_map.1 hedit
      rw [← heq, List.append_assoc]
      exact ⟨List.prefix_append _ _, fun heq ↦ by simp at heq⟩
    · obtain ⟨srv, -, heq⟩ := List.mem_map.1 hedit
      rw [← heq, List.append_assoc]
      exact ⟨List.prefix_append _ _, fun heq ↦ by cases heq⟩

theorem ntpEnabled_system_iff (hL : L.Fits) (hbase : IsNtpBase base) :
    (L.system base).ntpEnabled = true ↔ base ∈ L.nodes := by
  have hmem : base ∈ L.nodes ↔ (L.tree.subtree base).isSome = true := by
    rcases hbase with rfl | rfl
    · exact LiveConfig.mem_nodes_branch (p := ["system"]) (hL _ _ .system)
    · exact LiveConfig.mem_nodes_branch (p := ["service"]) (hL _ _ .service)
  rw [hmem]
  show (!(L.shown base).isNull) = true ↔ _
  rw [LiveConfig.shown]
  cases hsub : L.tree.subtree base with
  | none => decide
  | some v =>
    obtain ⟨m, rfl, -⟩ := hL _ _ (.ntp hbase) v hsub
    exact ⟨fun _ ↦ rfl, fun _ ↦ rfl⟩

theorem mem_ntpServers_system_iff (hL : L.Fits) (hbase : IsNtpBase base) {srv : String} :
    srv ∈ (L.system base).ntpServers ↔ (base ++ ["server"]) ++ [srv] ∈ L.nodes := by
  have hshape : L.HasShape (base ++ ["server"]) .branch := hL _ _ (.ntpServers hbase)
  rw [LiveConfig.mem_nodes_branch hshape, Json.subtree_append_eq]
  show srv ∈ (((((L.shown base).idx "server").asObject.getD []).map Prod.fst).insertionSort
    (· ≤ ·)) ↔ _
  rw [List.mem_insertionSort, Json.idx, get_shown]
  cases hsub : L.tree.subtree (base ++ ["server"]) with
  | none => simp [Json.asObject]
  | some v =>
    obtain ⟨m, rfl, -⟩ := hshape v hsub
    rw [Option.bind_some, Json.subtree_singleton]
    show srv ∈ m.map Prod.fst ↔ (m.lookup srv).isSome = true
    rw [List.lookup_isSome_iff, List.mem_map]
    simp only [beq_iff_eq, eq_comm (a := srv)]

/-- Without NTP there are no servers. -/
theorem ntpServers_of_disabled (hL : L.Fits) (hbase : IsNtpBase base)
    (hoff : (L.system base).ntpEnabled = false) {srv : String} :
    srv ∉ (L.system base).ntpServers := by
  rw [mem_ntpServers_system_iff hL hbase, List.append_assoc]
  intro hmem
  rw [(ntpEnabled_system_iff hL hbase).2 (LiveConfig.mem_nodes_of_append hmem)] at hoff
  cases hoff

/-- **NTP that is disabled** is gone. -/
theorem Evolves.ntp_disabled (hL : L.Fits) (hL' : L'.Fits) (hbase : IsNtpBase base)
    (hoff : u.ntpEnabled = some false)
    (hev : Evolves schema base (diffNtp (systemChange author) (L.system base) u) L L') :
    (L'.system base).ntpEnabled = false := by
  rw [diffNtp_of_disabled hoff] at hev
  have hbase' := hev.nodes base (List.prefix_refl base)
  rw [← Bool.not_eq_true, ntpEnabled_system_iff hL' hbase, hbase']
  split
  · exact fun hmem ↦ (hmem.resolve_left id).2 (List.prefix_refl base)
  · rename_i hlive
    rwa [ntpEnabled_system_iff hL hbase] at hlive

/-- **NTP that is not disabled** is there if it was, or a server is added. -/
theorem Evolves.ntp_enabled_iff (hschema : schema.Knows) (hL : L.Fits) (hL' : L'.Fits)
    (hbase : IsNtpBase base) (hon : u.ntpEnabled ≠ some false)
    (hev : Evolves schema base (diffNtp (systemChange author) (L.system base) u) L L') :
    (L'.system base).ntpEnabled = true ↔
      (L.system base).ntpEnabled = true ∨ u.addedServers (L.system base) ≠ [] := by
  have hmany : schema.single (base ++ ["server"]) = false := hschema _ _ (.ntpServers hbase)
  have hlonger : ∀ srv : String, ¬(base ++ ["server"]) ++ [srv] <+: base := by
    intro srv hle
    have hlen := hle.length_le
    simp at hlen
  rw [ntpEnabled_system_iff hL' hbase, ntpEnabled_system_iff hL hbase,
    hev.nodes base (List.prefix_refl base), map_edit_diffNtp hon, mem_applyAll_of_not_drops]
  · refine or_congr_right ⟨?_, fun hadded ↦ ?_⟩
    · rintro ⟨c, hc, hadds⟩
      rcases List.mem_append.1 hc with hc | hc
      · exact fun hnil ↦ by simp [hnil] at hc
      · obtain ⟨srv, -, rfl⟩ := List.mem_map.1 hc
        exact absurd hadds id
    · obtain ⟨srv, hsrv⟩ := List.exists_mem_of_ne_nil _ hadded
      refine ⟨_, List.mem_append_left _ (List.mem_map_of_mem hsrv), ?_⟩
      exact (List.prefix_append base ["server"]).trans (List.prefix_append _ [srv])
  · intro c hc
    rcases List.mem_append.1 hc with hc | hc
    · obtain ⟨srv, -, rfl⟩ := List.mem_map.1 hc
      exact not_replaces (by rwa [List.dropLast_concat])
    · obtain ⟨srv, -, rfl⟩ := List.mem_map.1 hc
      exact hlonger srv

/-- **The servers are those of the list.** -/
theorem Evolves.ntp_servers (hschema : schema.Knows) (hL : L.Fits) (hL' : L'.Fits)
    (hbase : IsNtpBase base) (hon : u.ntpEnabled ≠ some false) {servers : List String}
    (hservers : u.ntpServers = some servers)
    (hev : Evolves schema base (diffNtp (systemChange author) (L.system base) u) L L')
    (srv : String) : srv ∈ (L'.system base).ntpServers ↔ srv ∈ trimmedList servers := by
  have hmany : schema.single (base ++ ["server"]) = false := hschema _ _ (.ntpServers hbase)
  have hbelow : base <+: (base ++ ["server"]) ++ [srv] := by
    rw [List.append_assoc]
    exact List.prefix_append base _
  rw [mem_ntpServers_system_iff hL' hbase, hev.nodes _ hbelow, map_edit_diffNtp hon,
    ntpBase_system, mem_applyAll_values hmany, ← mem_ntpServers_system_iff hL hbase,
    SystemConfigUpdate.addedServers, SystemConfigUpdate.removedServers, hservers]
  simp only [List.mem_filter, decide_eq_true_eq, Option.getD_some]
  tauto

/-! ### What it comes to -/

theorem systemParts_layout (hschema : schema.Knows) (hbase : IsNtpBase live.ntpBase) :
    Layout schema [] (systemParts live u author) := by
  have hleaf : ∀ key, schema.single ((["system", key] : Path).dropLast) = false := fun _ ↦
    hschema _ _ .system
  have hpaths : (systemParts live u author).map Prod.fst =
      [["system", "host-name"], ["system", "domain-name"], ["system", "time-zone"],
        live.ntpBase] := rfl
  constructor
  · simp only [systemParts, List.forall_mem_cons, List.not_mem_nil, false_implies, implies_true,
      and_true]
    exact ⟨leafDiff_below (hleaf _) _ _, leafDiff_below (hleaf _) _ _, leafDiff_below (hleaf _) _ _,
      diffNtp_below⟩
  · rw [← List.pairwise_map, hpaths]
    rcases hbase with h | h <;> rw [h] <;> decide
  · rw [← List.forall_mem_map (P := (· ≠ [])), hpaths]
    rcases hbase with h | h <;> rw [h] <;> decide

theorem trimmed_orElse {update live : Option String} (hlive : trimmed live = live) :
    trimmed (trimmed update <|> live) = (trimmed update <|> live) := by
  cases hupdate : trimmed update with
  | none => exact hlive
  | some t =>
    have htwice := trimmed_trimmed update
    rw [hupdate] at htwice
    exact htwice

theorem trimmed_desiredDomain (hlive : trimmed live.domainName = live.domainName) :
    trimmed (u.desiredDomain live) = u.desiredDomain live := by
  rw [SystemConfigUpdate.desiredDomain]
  cases u.domainName with
  | none => exact hlive
  | some domain => exact trimmed_trimmed (some domain)

/-- What an update leaves a system with. -/
structure SystemConfigUpdate.Holds (u : SystemConfigUpdate) (live live' : LiveSystem) : Prop where
  hostname : live'.hostname = (trimmed u.hostname <|> live.hostname)
  domainName : live'.domainName = u.desiredDomain live
  timeZone : live'.timeZone = (trimmed u.timeZone <|> live.timeZone)
  enabled : ∀ on, u.ntpEnabled = some on → live'.ntpEnabled = on
  omitted : u.ntpEnabled = none →
    (live'.ntpEnabled = true ↔ live.ntpEnabled = true ∨ u.addedServers live ≠ [])
  servers : u.ntpEnabled ≠ some false → ∀ servers, u.ntpServers = some servers →
    ∀ srv, srv ∈ live'.ntpServers ↔ srv ∈ trimmedList servers

/-- The nodes an update changes: all of NTP where it is disabled, and otherwise single servers. -/
def systemSettings (live : LiveSystem) (u : SystemConfigUpdate) : List Path :=
  [["system", "host-name"], ["system", "domain-name"], ["system", "time-zone"]] ++
    if u.ntpEnabled = some false then [live.ntpBase]
    else
      (u.addedServers live ++ u.removedServers live).map fun srv ↦ live.ntpBase ++ ["server", srv]

/-- Every change of the diff is below one of them. -/
theorem diffSystem_below (hschema : schema.Knows) (hbase : IsNtpBase live.ntpBase) :
    ∀ c ∈ diffSystem live u author, ∃ s ∈ systemSettings live u, c.edit.Below schema.single s := by
  have hleaf : ∀ key, schema.single ((["system", key] : Path).dropLast) = false := fun _ ↦
    hschema _ _ .system
  intro c hc
  rw [diffSystem_eq] at hc
  simp only [systemParts, List.flatMap_cons, List.flatMap_nil, List.append_nil,
    List.mem_append] at hc
  rcases hc with hc | hc | hc | hc
  · exact ⟨_, List.mem_append_left _ (by simp), leafDiff_below (hleaf _) _ _ c hc⟩
  · exact ⟨_, List.mem_append_left _ (by simp), leafDiff_below (hleaf _) _ _ c hc⟩
  · exact ⟨_, List.mem_append_left _ (by simp), leafDiff_below (hleaf _) _ _ c hc⟩
  · rw [systemSettings]
    by_cases hoff : u.ntpEnabled = some false
    · rw [if_pos hoff]
      exact ⟨_, List.mem_append_right _ List.mem_cons_self, diffNtp_below c hc⟩
    · rw [if_neg hoff]
      have hedit : c.edit ∈ (diffNtp (systemChange author) live u).map NewConfigChange.edit :=
        List.mem_map_of_mem hc
      have hmany : schema.single (live.ntpBase ++ ["server"]) = false :=
        hschema _ _ (.ntpServers hbase)
      rw [map_edit_diffNtp hoff] at hedit
      rcases List.mem_append.1 hedit with hedit | hedit
      · obtain ⟨srv, hsrv, heq⟩ := List.mem_map.1 hedit
        rw [← heq, List.append_assoc]
        refine ⟨_, List.mem_append_right _ (List.mem_map_of_mem (List.mem_append_left _ hsrv)),
          List.prefix_refl _, fun _ ↦ ?_⟩
        have hsteps : live.ntpBase ++ ["server", srv] = (live.ntpBase ++ ["server"]) ++ [srv] := by
          rw [List.append_assoc]
          rfl
        rwa [hsteps, List.dropLast_concat]
      · obtain ⟨srv, hsrv, heq⟩ := List.mem_map.1 hedit
        rw [← heq, List.append_assoc]
        exact ⟨_, List.mem_append_right _ (List.mem_map_of_mem (List.mem_append_right _ hsrv)),
          List.prefix_refl _, fun h ↦ by cases h⟩

theorem systemSettings_framed (hschema : schema.Knows) (hbase : IsNtpBase live.ntpBase)
    (hexec : schema.Executes ((diffSystem live u author).map NewConfigChange.command) L L') :
    Framed [] (systemSettings live u) L L' := by
  refine ⟨fun p hp ↦ absurd List.nil_prefix hp.1, fun r _ hr ↦ ?_⟩
  refine hexec.untouched _ fun q hq _ hd ↦ ?_
  obtain ⟨c, hc, rfl⟩ := List.mem_map.1 hd
  obtain ⟨s, hs, hbelow⟩ := diffSystem_below hschema hbase c hc
  exact hbelow.not_touches ((hr s hs).mono (List.prefix_refl s) hq)

/-- **A system that is as asked** leaves the diff nothing to say. -/
theorem SystemConfigUpdate.Holds.diff_eq_nil {live' : LiveSystem} (h : u.Holds live live') :
    diffSystem live' u author = [] := by
  have hdomain : u.desiredDomain live' = live'.domainName := by
    have hread := h.domainName
    rw [SystemConfigUpdate.desiredDomain] at hread ⊢
    cases hupdate : u.domainName with
    | none => rfl
    | some domain =>
      rw [hupdate] at hread
      exact hread.symm
  have horElse : ∀ a b c : Option String, a = (b <|> c) → (b <|> a) = a := by
    rintro a b c rfl
    cases b <;> rfl
  have hntp : diffNtp (systemChange author) live' u = [] := by
    by_cases hoff : u.ntpEnabled = some false
    · rw [diffNtp_of_disabled hoff, h.enabled false hoff]
      rfl
    · cases hupdate : u.ntpServers with
      | none => rw [diffNtp, if_neg hoff, hupdate]
      | some servers => exact (diffNtp_eq_nil_iff hoff hupdate).2 (h.servers hoff servers hupdate)
  simp only [diffSystem_eq, systemParts, List.flatMap_cons, List.flatMap_nil,
    List.append_eq_nil_iff, leafDiff_eq_nil_iff, hdomain, horElse _ _ _ h.hostname,
    horElse _ _ _ h.timeZone, hntp, and_self]

/-- **The system turns into what the update asks for**, and nothing else changes, exactly if NTP is
not to be enabled without a server. -/
theorem system_settles_iff (hschema : schema.Knows) (hL : L.Fits) (hL' : L'.Fits)
    (hbase : IsNtpBase base) (hexec : schema.Executes
      ((diffSystem (L.system base) u author).map NewConfigChange.command) L L') :
    (u.Holds (L.system base) (L'.system base) ∧
      Framed [] (systemSettings (L.system base) u) L L' ∧
      diffSystem (L'.system base) u author = []) ↔
      (u.ntpEnabled = some true → (L.system base).ntpEnabled = true ∨
        trimmedList (u.ntpServers.getD []) ≠ []) := by
  have hlayout : Layout schema [] (systemParts (L.system base) u author) :=
    systemParts_layout hschema hbase
  -- the page creates no node of its own
  obtain ⟨create, hcreate⟩ : ∃ c : NewConfigChange, c.edit = .put [] :=
    ⟨systemChange author .set [] "", rfl⟩
  have hframed := systemSettings_framed hschema hbase hexec
  have hdiff : diffSystem (L.system base) u author =
      withCreate false ((systemParts (L.system base) u author).flatMap Prod.snd) create :=
    diffSystem_eq _ _ _
  rw [hdiff] at hexec
  have hev : ∀ x ∈ systemParts (L.system base) u author, Evolves schema ([] ++ x.1) x.2 L L' :=
    fun x hx ↦ hlayout.evolves_alone hcreate (hschema _ _ .root) hexec hx
  simp only [systemParts, List.forall_mem_cons, List.nil_append] at hev
  obtain ⟨hhost, hdomain, hzone, hntp, -⟩ := hev
  rw [ntpBase_system] at hntp
  have hadded : (L.system base).ntpEnabled = true ∨ u.addedServers (L.system base) ≠ [] ↔
      (L.system base).ntpEnabled = true ∨ trimmedList (u.ntpServers.getD []) ≠ [] := by
    cases henabled : (L.system base).ntpEnabled with
    | true => simp
    | false =>
      have hall : u.addedServers (L.system base) = trimmedList (u.ntpServers.getD []) :=
        List.filter_eq_self.2 fun srv _ ↦ by
          simpa using ntpServers_of_disabled hL hbase henabled
      rw [hall]
  constructor
  · rintro ⟨hholds, -, -⟩ hon
    have henabled := hholds.enabled true hon
    rw [hntp.ntp_enabled_iff hschema hL hL' hbase (by simp [hon]), hadded] at henabled
    exact henabled
  · intro hcondition
    have hholds : u.Holds (L.system base) (L'.system base) := by
      constructor
      case hostname =>
        exact childStr_shown.trans (hhost.text childStr_shown (hL' _ _ (.systemLeaf (by decide)))
          (trimmed_orElse (trimmed_childStr _ _)))
      case domainName =>
        exact childStr_shown.trans (hdomain.text childStr_shown (hL' _ _ (.systemLeaf (by decide)))
          (trimmed_desiredDomain (trimmed_childStr _ _)))
      case timeZone =>
        exact childStr_shown.trans (hzone.text childStr_shown (hL' _ _ (.systemLeaf (by decide)))
          (trimmed_orElse (trimmed_childStr _ _)))
      case enabled =>
        intro on hon
        cases on with
        | false => exact hntp.ntp_disabled hL hL' hbase hon
        | true =>
          rw [hntp.ntp_enabled_iff hschema hL hL' hbase (by simp [hon]), hadded]
          exact hcondition hon
      case omitted =>
        exact fun hnone ↦ hntp.ntp_enabled_iff hschema hL hL' hbase (by simp [hnone])
      case servers =>
        exact fun hon servers hservers ↦ hntp.ntp_servers hschema hL hL' hbase hon hservers
    exact ⟨hholds, hframed, hholds.diff_eq_nil⟩

end Settle

/-- A router with NTP servers, or without NTP. -/
def withNtp (host : String) (ntp : List (String × Json)) : LiveConfig :=
  .ofTree (.obj [("system", .obj [("host-name", .str host), ("domain-name", .str "lab.example")]),
    ("service", .obj (("ssh", .obj []) :: ntp))])

def noNtp : LiveConfig := withNtp "vyos" []

def oneNtp : LiveConfig :=
  withNtp "edge" [("ntp", .obj [("server", .obj [("pool.example", .obj [])])])]

/-- NTP that is enabled with a server. -/
theorem system_settles_ntp : (oneNtp.system ["service", "ntp"]).ntpEnabled = true ∧
    (oneNtp.system ["service", "ntp"]).hostname = some "edge" := by
  have hno : noNtp.Fits := LiveConfig.fits_of_check (by decide)
  have hone : oneNtp.Fits := LiveConfig.fits_of_check (by decide)
  have hiff := @system_settles_iff deviceSchema noNtp oneNtp ["service", "ntp"]
    ⟨some " edge", none, some " ", some true, some [" pool.example ", ""]⟩ 1 deviceSchema_knows hno
    hone (Or.inr rfl) (Schema.executes_of_check (by decide))
  obtain ⟨hholds, -⟩ := hiff.2 fun _ ↦ Or.inr (by decide)
  exact ⟨hholds.enabled true rfl, hholds.hostname⟩

/-- NTP that is enabled without one stays away. -/
theorem not_system_settles : ¬∀ (schema : Schema) (L L' : LiveConfig) (base : Path)
    (u : SystemConfigUpdate) (author : Uuid), schema.Knows → L.Fits → L'.Fits → IsNtpBase base →
    schema.Executes ((diffSystem (L.system base) u author).map NewConfigChange.command) L L' →
    u.Holds (L.system base) (L'.system base) ∧ Framed [] (systemSettings (L.system base) u) L L' ∧
      diffSystem (L'.system base) u author = [] := by
  intro h
  have hno : noNtp.Fits := LiveConfig.fits_of_check (by decide)
  obtain ⟨hholds, -⟩ := h deviceSchema noNtp noNtp ["service", "ntp"]
    ⟨none, none, none, some true, some []⟩ 1 deviceSchema_knows hno hno (Or.inr rfl)
    (Schema.executes_of_check (by decide))
  exact absurd (hholds.enabled true rfl) (by decide)

end VyosFabric
