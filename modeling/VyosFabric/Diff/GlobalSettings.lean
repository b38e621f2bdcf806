import VyosFabric.Diff.Checks
import VyosFabric.Diff.Readback

/-!
# What the global-options diff comes to

A batch that executes the diff gives a config that reads as the update asks
(`GlobalOptions.normal`), but for one case: a state whose action is cleared while it has a log flag
or a log level and no action keeps them, for the diff looks only at the live action
(`globalOptions_settle_iff`).
-/

namespace VyosFabric

open PathTree

/-- A change of the firewall page. -/
abbrev firewallChange : Uuid → Op → Path → String → NewConfigChange := changeOf .firewall

/-- The global options of a live config. -/
def LiveConfig.globalOptions (L : LiveConfig) : GlobalOptions :=
  readGlobalOptions (L.shown globalOptionsBase)

/-- What is asked of a state: nothing at all without an action. -/
def StatePolicyEntry.normal (e : StatePolicyEntry) : StatePolicyEntry :=
  match trimmed e.action with
  | none => ⟨none, false, none⟩
  | some action => ⟨some action, e.log, trimmed e.logLevel⟩

/-- What an update asks for, without blanks. -/
def GlobalOptions.normal (g : GlobalOptions) : GlobalOptions where
  allPing := trimmed g.allPing
  broadcastPing := trimmed g.broadcastPing
  directedBroadcast := trimmed g.directedBroadcast
  ipSrcRoute := trimmed g.ipSrcRoute
  ipv6SrcRoute := trimmed g.ipv6SrcRoute
  ipv6ReceiveRedirects := trimmed g.ipv6ReceiveRedirects
  receiveRedirects := trimmed g.receiveRedirects
  sendRedirects := trimmed g.sendRedirects
  logMartians := trimmed g.logMartians
  synCookies := trimmed g.synCookies
  twaHazardsProtection := trimmed g.twaHazardsProtection
  applyToBridge := trimmed g.applyToBridge
  sourceValidation := trimmed g.sourceValidation
  ipv6SourceValidation := trimmed g.ipv6SourceValidation
  resolverCache := g.resolverCache
  resolverInterval := trimmed g.resolverInterval
  statePolicy := ⟨g.statePolicy.established.normal, g.statePolicy.related.normal,
    g.statePolicy.invalid.normal⟩

/-! ### The diff in parts -/

/-- The parts of a state: the whole node where its action is cleared, and otherwise its leaves. -/
def stateParts (state : String) (live : StatePolicyEntry) (desired : StatePolicyEntryUpdate)
    (author : Uuid) : List (Path × List NewConfigChange) :=
  let node := stateBase state
  let mk := firewallChange author
  match trimmed desired.action with
  | none => [(["state-policy", state],
      if live.action.isSome then [mk .delete node s!"Unset {state} state-policy"] else [])]
  | some action =>
    [ (["state-policy", state, "action"], leafDiff mk (node ++ ["action"]) live.action (some action)
        (fun a ↦ s!"{state} state-policy → {a}") ""),
      (["state-policy", state, "log"], flagDiff mk (node ++ ["log"]) live.log desired.log
        s!"Enable {state} state-policy log" s!"Disable {state} state-policy log"),
      (["state-policy", state, "log-options", "level"], leafDiff mk
        (node ++ ["log-options", "level"]) live.logLevel (trimmed desired.logLevel)
        (fun level ↦ s!"{state} state-policy log level → {level}")
        s!"Unset {state} state-policy log level")]

/-- **The diff of a state is its parts.** -/
theorem diffStateEntry_eq (state : String) (live : StatePolicyEntry)
    (desired : StatePolicyEntryUpdate) (author : Uuid) :
    diffStateEntry (firewallChange author) state live desired =
      (stateParts state live desired author).flatMap Prod.snd := by
  rw [diffStateEntry, stateParts]
  cases trimmed desired.action with
  | none =>
    simp only [List.flatMap_cons, List.flatMap_nil, List.append_nil]
    rfl
  | some action =>
    have haction : (if some action ≠ live.action then [firewallChange author .set
          (globalOptionsBase ++ ["state-policy", state] ++ ["action", action])
          s!"{state} state-policy → {action}"] else []) =
        leafDiff (firewallChange author) (stateBase state ++ ["action"]) live.action (some action)
          (fun a ↦ s!"{state} state-policy → {a}") "" := by
      rw [leafDiff, ite_not, List.append_assoc (stateBase state)]
      rfl
    simp only [List.flatMap_cons, List.flatMap_nil, List.append_nil, haction, ← List.append_assoc]
    rfl

/-- The diff of one single-value option. -/
def optionDiff (author : Uuid) (key : String) (live desired : Option String) :
    List NewConfigChange :=
  leafDiff (firewallChange author) (globalOptionsBase ++ [key]) live (trimmed desired)
    (fun v ↦ s!"{key} → {v}") s!"Unset {key}"

/-- The settings of the global options, each below its path, with the diff of each. -/
def globalParts (live update : GlobalOptions) (author : Uuid) :
    List (Path × List NewConfigChange) :=
  (singleKeys.zip (live.singles.zip update.singles)).map
      (fun x ↦ ([x.1], optionDiff author x.1 x.2.1 x.2.2)) ++
    ([ (["resolver-cache"], flagDiff (firewallChange author)
          (globalOptionsBase ++ ["resolver-cache"]) live.resolverCache update.resolverCache
          "Enable resolver-cache" "Disable resolver-cache"),
        (["resolver-interval"],
          optionDiff author "resolver-interval" live.resolverInterval update.resolverInterval)] ++
      (stateParts "established" live.statePolicy.established
          update.statePolicy.established author ++
        (stateParts "related" live.statePolicy.related update.statePolicy.related author ++
          stateParts "invalid" live.statePolicy.invalid update.statePolicy.invalid author)))

/-- **A global-options diff is its parts.** -/
theorem diffGlobalOptions_eq (live update : GlobalOptions) (author : Uuid) :
    diffGlobalOptions live update author =
      (globalParts live update author).flatMap Prod.snd := by
  simp only [globalParts, List.flatMap_append, ← diffStateEntry_eq, List.flatMap_cons,
    List.flatMap_nil, List.append_nil, List.flatMap_map, ← List.append_assoc]
  rfl

/-! ### The layout of the diff -/

/-- The paths of the parts of a state. -/
def stateSettings (state : String) (desired : StatePolicyEntryUpdate) : List Path :=
  if (trimmed desired.action).isNone then [["state-policy", state]]
  else [["state-policy", state, "action"], ["state-policy", state, "log"],
    ["state-policy", state, "log-options", "level"]]

/-- The settings an update of the global options is about. -/
def globalSettings (update : GlobalOptions) : List Path :=
  (singleKeys ++ ["resolver-cache", "resolver-interval"]).map (fun key ↦ [key]) ++
    (stateSettings "established" update.statePolicy.established ++
      (stateSettings "related" update.statePolicy.related ++
        stateSettings "invalid" update.statePolicy.invalid))

theorem map_fst_stateParts (state : String) (live : StatePolicyEntry)
    (desired : StatePolicyEntryUpdate) (author : Uuid) :
    (stateParts state live desired author).map Prod.fst = stateSettings state desired := by
  rw [stateParts, stateSettings]
  cases trimmed desired.action <;> rfl

theorem map_fst_globalParts (live update : GlobalOptions) (author : Uuid) :
    (globalParts live update author).map Prod.fst = globalSettings update := by
  rw [globalParts, globalSettings]
  simp only [List.map_append, map_fst_stateParts]
  rfl

theorem globalSettings_apart (update : GlobalOptions) :
    (globalSettings update).Pairwise Apart := by
  unfold globalSettings stateSettings
  cases (trimmed update.statePolicy.established.action).isNone <;>
    cases (trimmed update.statePolicy.related.action).isNone <;>
    cases (trimmed update.statePolicy.invalid.action).isNone <;> decide

theorem globalSettings_inner (update : GlobalOptions) : ∀ p ∈ globalSettings update, p ≠ [] := by
  unfold globalSettings stateSettings
  cases (trimmed update.statePolicy.established.action).isNone <;>
    cases (trimmed update.statePolicy.related.action).isNone <;>
    cases (trimmed update.statePolicy.invalid.action).isNone <;> decide

section Settle

variable {schema : Schema} {L L' : LiveConfig} {author : Uuid}

theorem stateParts_below (hschema : schema.Knows) {state : String} (hstate : state ∈ stateKeys)
    (live : StatePolicyEntry) (desired : StatePolicyEntryUpdate) :
    ∀ x ∈ stateParts state live desired author, ∀ c ∈ x.2,
      c.edit.Below schema.single (globalOptionsBase ++ x.1) := by
  have hpolicy : schema.single (stateBase state).dropLast = false := hschema _ _ .statePolicy
  have hnode : ∀ k, schema.single ((stateBase state ++ [k]).dropLast) = false := fun k ↦ by
    rw [List.dropLast_concat]
    exact hschema _ _ (.state hstate)
  have hlevel : schema.single ((stateBase state ++ ["log-options", "level"]).dropLast) = false :=
    hschema _ _ (.stateLogOptions hstate)
  rw [stateParts]
  split
  · simp only [List.forall_mem_cons, List.not_mem_nil, false_implies, implies_true, and_true]
    intro c hc
    split at hc
    · obtain rfl := List.mem_singleton.1 hc
      exact ⟨List.prefix_refl _, fun heq ↦ by cases heq⟩
    · cases hc
  · simp only [List.forall_mem_cons, List.not_mem_nil, false_implies, implies_true, and_true]
    exact ⟨leafDiff_below (hnode _) _ _, flagDiff_below (hnode _) _ _, leafDiff_below hlevel _ _⟩

theorem globalParts_layout (hschema : schema.Knows) (live update : GlobalOptions) :
    Layout schema globalOptionsBase (globalParts live update author) := by
  have hkey : ∀ k, schema.single ((globalOptionsBase ++ [k]).dropLast) = false := fun k ↦ by
    rw [List.dropLast_concat]
    exact hschema _ _ .globalOptions
  constructor
  · simp only [globalParts, List.forall_mem_append, List.forall_mem_cons, List.forall_mem_map,
      List.not_mem_nil, false_implies, implies_true, and_true]
    exact ⟨fun x _ ↦ leafDiff_below (hkey _) _ _,
      ⟨flagDiff_below (hkey _) _ _, leafDiff_below (hkey _) _ _⟩,
      stateParts_below hschema (by decide) _ _, stateParts_below hschema (by decide) _ _,
      stateParts_below hschema (by decide) _ _⟩
  · rw [← List.pairwise_map, map_fst_globalParts]
    exact globalSettings_apart update
  · rw [← List.forall_mem_map (P := (· ≠ [])), map_fst_globalParts]
    exact globalSettings_inner update

/-! ### What the global options read as -/

/-- The state policy of a live config. -/
def LiveConfig.stateEntry (L : LiveConfig) (state : String) : StatePolicyEntry :=
  readStateEntry (L.shown (globalOptionsBase ++ ["state-policy"])) state

theorem statePolicy_globalOptions : L.globalOptions.statePolicy =
    ⟨L.stateEntry "established", L.stateEntry "related", L.stateEntry "invalid"⟩ := by
  have hshown : L.shown (globalOptionsBase ++ ["state-policy"]) =
      ((L.shown globalOptionsBase).get "state-policy").getD .null := by
    rw [get_shown, LiveConfig.shown]
  rw [LiveConfig.globalOptions, readGlobalOptions]
  simp only [LiveConfig.stateEntry, hshown]
  cases (L.shown globalOptionsBase).get "state-policy" <;> rfl

theorem singles_globalOptions :
    L.globalOptions.singles = singleKeys.map fun key ↦ L.text (globalOptionsBase ++ [key]) := by
  have hsingles : L.globalOptions.singles =
      singleKeys.map fun key ↦ (L.shown globalOptionsBase).childStr key := rfl
  simp only [hsingles, childStr_shown]

theorem resolverInterval_globalOptions :
    L.globalOptions.resolverInterval = L.text (globalOptionsBase ++ ["resolver-interval"]) :=
  childStr_shown

theorem resolverCache_globalOptions_iff (hL : L.Fits) : L.globalOptions.resolverCache = true ↔
    globalOptionsBase ++ ["resolver-cache"] ∈ L.nodes := by
  rw [LiveConfig.mem_nodes_branch (hL _ _ .globalOptions), ← get_shown]
  exact Iff.rfl

theorem get_state (state key : String) :
    (((L.shown (globalOptionsBase ++ ["state-policy"])).get state).bind fun e ↦ e.get key) =
      L.tree.subtree (stateBase state ++ [key]) := by
  have hsteps : stateBase state = (globalOptionsBase ++ ["state-policy"]) ++ [state] := rfl
  rw [get_shown, Json.subtree_append_eq (stateBase state), hsteps]
  simp only [Json.subtree_singleton]

theorem action_stateEntry {state : String} :
    (L.stateEntry state).action = L.text (stateBase state ++ ["action"]) := nestedStr_shown

theorem log_stateEntry_iff (hL : L.Fits) {state : String} (hstate : state ∈ stateKeys) :
    (L.stateEntry state).log = true ↔ stateBase state ++ ["log"] ∈ L.nodes := by
  rw [LiveConfig.mem_nodes_branch (hL _ _ (.state hstate)), ← get_state]
  exact Iff.rfl

theorem logLevel_stateEntry {state : String} :
    (L.stateEntry state).logLevel = L.text (stateBase state ++ ["log-options", "level"]) := by
  have hsteps : stateBase state ++ ["log-options", "level"] =
      (stateBase state ++ ["log-options"]) ++ ["level"] := rfl
  have hlevel : (L.stateEntry state).logLevel =
      (((L.shown (globalOptionsBase ++ ["state-policy"])).get state).bind fun e ↦
        e.get "log-options").bind fun lo ↦ lo.childStr "level" := rfl
  rw [hlevel, get_state, childStr_eq_text, hsteps]

/-- An entry is read off the node of its state. -/
theorem stateEntry_congr {state : String}
    (h : L'.tree.subtree (stateBase state) = L.tree.subtree (stateBase state)) :
    L'.stateEntry state = L.stateEntry state := by
  have hget : (L'.shown (globalOptionsBase ++ ["state-policy"])).get state =
      (L.shown (globalOptionsBase ++ ["state-policy"])).get state := by
    rw [get_shown, get_shown]
    exact h
  simp only [LiveConfig.stateEntry, readStateEntry, Json.nestedStr, hget]

theorem stateEntry_of_not_mem {state : String} (h : stateBase state ∉ L.nodes) :
    L.stateEntry state = ⟨none, false, none⟩ := by
  have hget : (L.shown (globalOptionsBase ++ ["state-policy"])).get state = none := by
    rw [get_shown]
    exact LiveConfig.subtree_eq_none h
  simp only [LiveConfig.stateEntry, readStateEntry, Json.nestedStr, hget]
  rfl

/-- A state's parts, executed: the entry is as asked, or the state has no action to clear and is as
it was. -/
theorem stateEntry_of_evolves (hL : L.Fits) (hL' : L'.Fits) {state : String}
    (hstate : state ∈ stateKeys) {desired : StatePolicyEntryUpdate}
    (hev : ∀ x ∈ stateParts state (L.stateEntry state) desired author,
      Evolves schema (globalOptionsBase ++ x.1) x.2 L L') :
    L'.stateEntry state = if trimmed desired.action = none ∧ (L.stateEntry state).action = none
      then L.stateEntry state else desired.normal := by
  unfold stateParts at hev
  cases haction : trimmed desired.action with
  | none =>
    rw [haction] at hev
    have hnode := hev _ List.mem_cons_self
    have hnormal : desired.normal = ⟨none, false, none⟩ := by
      rw [StatePolicyEntry.normal, haction]
    cases hlive : (L.stateEntry state).action with
    | none =>
      rw [hlive] at hnode
      rw [if_pos ⟨rfl, rfl⟩]
      exact stateEntry_congr (hnode.same rfl)
    | some a =>
      rw [hlive] at hnode
      rw [if_neg (by simp), hnormal]
      refine stateEntry_of_not_mem fun hmem ↦ ?_
      exact ((hnode.nodes _ (List.prefix_refl _)).1 hmem).elim id fun h ↦ h.2 (List.prefix_refl _)
  | some action =>
    rw [haction] at hev
    simp only [List.forall_mem_cons] at hev
    obtain ⟨hact, hlog, hlevel, -⟩ := hev
    have haction' : L'.text (stateBase state ++ ["action"]) = some action :=
      hact.text action_stateEntry (hL' _ _ (.stateAction hstate)) (haction ▸ trimmed_trimmed _)
    have hlog' : stateBase state ++ ["log"] ∈ L'.nodes ↔ desired.log = true :=
      hlog.flag (log_stateEntry_iff hL hstate)
    have hlevel' : L'.text (stateBase state ++ ["log-options", "level"]) =
        trimmed desired.logLevel :=
      hlevel.text logLevel_stateEntry (hL' _ _ (.stateLogLevel hstate)) (trimmed_trimmed _)
    rw [← action_stateEntry] at haction'
    rw [← log_stateEntry_iff hL' hstate, ← Bool.eq_iff_iff] at hlog'
    rw [← logLevel_stateEntry] at hlevel'
    have hnormal : desired.normal = ⟨some action, desired.log, trimmed desired.logLevel⟩ := by
      rw [StatePolicyEntry.normal, haction]
    rw [if_neg (by simp), hnormal, ← haction', ← hlog', ← hlevel']

/-- **What the update asks of a state holds** after its parts, unless its action is cleared and it
has none, but something else. -/
theorem stateEntry_eq_normal_iff (hL : L.Fits) (hL' : L'.Fits) {state : String}
    (hstate : state ∈ stateKeys) {desired : StatePolicyEntryUpdate}
    (hev : ∀ x ∈ stateParts state (L.stateEntry state) desired author,
      Evolves schema (globalOptionsBase ++ x.1) x.2 L L') :
    L'.stateEntry state = desired.normal ↔ (trimmed desired.action = none →
      (L.stateEntry state).action = none → L.stateEntry state = ⟨none, false, none⟩) := by
  rw [stateEntry_of_evolves hL hL' hstate hev]
  by_cases hcleared : trimmed desired.action = none
  · have hnormal : desired.normal = ⟨none, false, none⟩ := by
      rw [StatePolicyEntry.normal, hcleared]
    by_cases hlive : (L.stateEntry state).action = none
    · rw [if_pos ⟨hcleared, hlive⟩, hnormal]
      exact ⟨fun h _ _ ↦ h, fun h ↦ h hcleared hlive⟩
    · rw [if_neg fun h ↦ hlive h.2]
      exact ⟨fun _ _ h ↦ absurd h hlive, fun _ ↦ rfl⟩
  · rw [if_neg fun h ↦ hcleared h.1]
    exact ⟨fun _ h ↦ absurd h hcleared, fun _ ↦ rfl⟩

/-! ### What they come to -/

theorem GlobalOptions.ext_singles {g g' : GlobalOptions} (hsingles : g.singles = g'.singles)
    (hcache : g.resolverCache = g'.resolverCache)
    (hinterval : g.resolverInterval = g'.resolverInterval)
    (hpolicy : g.statePolicy = g'.statePolicy) : g = g' := by
  cases g
  cases g'
  simp_all [GlobalOptions.singles]

theorem singles_normal (u : GlobalOptions) : u.normal.singles = u.singles.map trimmed := rfl

/-- The live value beside a key is the one at the key. -/
theorem live_of_zip {keys : List String} {desired : List (Option String)}
    {before : String → Option String} {x : String × Option String × Option String}
    (hx : x ∈ keys.zip ((keys.map before).zip desired)) : x.2.1 = before x.1 := by
  obtain ⟨i, hi, rfl⟩ := List.mem_iff_getElem.1 hx
  rw [List.getElem_zip, List.getElem_zip, List.getElem_map]

/-- Values by key are the desired ones, if they are key by key. -/
theorem map_eq_of_zip {keys : List String} {desired : List (Option String)}
    {after : String → Option String} (before : String → Option String)
    (hlength : keys.length = desired.length)
    (h : ∀ x ∈ keys.zip ((keys.map before).zip desired), after x.1 = trimmed x.2.2) :
    keys.map after = desired.map trimmed := by
  induction keys generalizing desired with
  | nil =>
    obtain rfl := List.length_eq_zero_iff.1 hlength.symm
    rfl
  | cons key keys ih =>
    cases desired with
    | nil => cases hlength
    | cons d desired =>
      rw [List.map_cons, List.map_cons, h (key, before key, d) List.mem_cons_self,
        ih (Nat.succ.inj hlength) fun x hx ↦ h x (List.mem_cons_of_mem _ hx)]

/-- The parts of a state that is as asked say nothing. -/
theorem stateParts_normal (state : String) (desired : StatePolicyEntryUpdate) (author : Uuid) :
    (stateParts state desired.normal desired author).flatMap Prod.snd = [] := by
  rw [stateParts, StatePolicyEntry.normal]
  cases trimmed desired.action with
  | none => rfl
  | some action =>
    simp only [List.flatMap_cons, List.flatMap_nil, List.append_eq_nil_iff, leafDiff_eq_nil_iff,
      flagDiff_eq_nil_iff, and_true]

/-- **A config that is as asked** leaves the diff nothing to say. -/
theorem diffGlobalOptions_normal (u : GlobalOptions) (author : Uuid) :
    diffGlobalOptions u.normal u author = [] := by
  have hoptions : ∀ x ∈ singleKeys.zip (u.normal.singles.zip u.singles),
      optionDiff author x.1 x.2.1 x.2.2 = [] := by
    rintro ⟨key, live, desired⟩ hx
    have hpair := (List.of_mem_zip hx).2
    rw [singles_normal, ← List.map_id u.singles, List.map_map, List.zip_map'] at hpair
    obtain ⟨d, -, hd⟩ := List.mem_map.1 hpair
    obtain ⟨rfl, rfl⟩ := Prod.mk.inj hd
    exact leafDiff_eq_nil_iff.2 rfl
  rw [diffGlobalOptions_eq, globalParts, List.flatMap_append, List.flatMap_map,
    List.append_eq_nil_iff]
  refine ⟨List.flatMap_eq_nil_iff.2 hoptions, ?_⟩
  simp only [List.flatMap_append, List.flatMap_cons, List.flatMap_nil, List.append_eq_nil_iff,
    flagDiff_eq_nil_iff, optionDiff, leafDiff_eq_nil_iff]
  refine ⟨⟨rfl, rfl, trivial⟩, stateParts_normal _ _ _, stateParts_normal _ _ _,
    stateParts_normal _ _ _⟩

/-- The state has something of a policy to clear, but no action. -/
def StatePolicyEntry.Leftover (live : StatePolicyEntry) (desired : StatePolicyEntryUpdate) : Prop :=
  trimmed desired.action = none ∧ live.action = none ∧ (live.log = true ∨ live.logLevel ≠ none)

instance (live : StatePolicyEntry) (desired : StatePolicyEntryUpdate) :
    Decidable (live.Leftover desired) :=
  inferInstanceAs (Decidable (_ ∧ _ ∧ (_ ∨ _)))

theorem not_leftover_iff {live : StatePolicyEntry} {desired : StatePolicyEntryUpdate} :
    ¬live.Leftover desired ↔
      (trimmed desired.action = none → live.action = none → live = ⟨none, false, none⟩) := by
  obtain ⟨action, log, logLevel⟩ := live
  rw [StatePolicyEntry.Leftover]
  simp only [StatePolicyEntry.mk.injEq, not_and, not_or, Bool.not_eq_true, not_not]
  tauto

/-- **The global options turn into what the update asks for**, and nothing else changes, exactly if
no state without an action has a log setting to clear. -/
theorem globalOptions_settle_iff (hschema : schema.Knows) (hL : L.Fits) (hL' : L'.Fits)
    {u : GlobalOptions} (hexec : schema.Executes
      ((diffGlobalOptions L.globalOptions u author).map NewConfigChange.command) L L') :
    (L'.globalOptions = u.normal ∧ Framed globalOptionsBase (globalSettings u) L L' ∧
      diffGlobalOptions L'.globalOptions u author = []) ↔
      ¬L.globalOptions.statePolicy.established.Leftover u.statePolicy.established ∧
        ¬L.globalOptions.statePolicy.related.Leftover u.statePolicy.related ∧
          ¬L.globalOptions.statePolicy.invalid.Leftover u.statePolicy.invalid := by
  have hlayout : Layout schema globalOptionsBase (globalParts L.globalOptions u author) :=
    globalParts_layout hschema L.globalOptions u
  -- the page creates no node of its own
  obtain ⟨create, hcreate⟩ : ∃ c : NewConfigChange, c.edit = .put globalOptionsBase :=
    ⟨firewallChange author .set globalOptionsBase "", rfl⟩
  have halone : schema.single globalOptionsBase.dropLast = false := hschema _ _ .firewall
  have hdiff : diffGlobalOptions L.globalOptions u author =
      withCreate false ((globalParts L.globalOptions u author).flatMap Prod.snd) create :=
    diffGlobalOptions_eq _ _ _
  rw [hdiff] at hexec
  have hev : ∀ x ∈ globalParts L.globalOptions u author,
      Evolves schema (globalOptionsBase ++ x.1) x.2 L L' :=
    fun x hx ↦ hlayout.evolves_alone hcreate halone hexec hx
  have hframed := hlayout.framed hcreate halone hexec
  rw [map_fst_globalParts] at hframed
  simp only [globalParts, List.forall_mem_append, List.forall_mem_cons, List.forall_mem_map] at hev
  obtain ⟨hoptions, ⟨hcache, hinterval, -⟩, hestablished, hrelated, hinvalid⟩ := hev
  rw [singles_globalOptions] at hoptions
  have hsingles : L'.globalOptions.singles = u.normal.singles := by
    rw [singles_globalOptions, singles_normal]
    refine map_eq_of_zip (fun key ↦ L.text (globalOptionsBase ++ [key])) rfl fun x hx ↦ ?_
    have hkey : x.1 ∈ singleKeys := (List.of_mem_zip hx).1
    exact (hoptions x hx).text (live_of_zip hx)
      (hL' _ _ (.option (List.mem_cons_of_mem _ hkey))) (trimmed_trimmed _)
  have hcache' : L'.globalOptions.resolverCache = u.normal.resolverCache := by
    rw [Bool.eq_iff_iff, resolverCache_globalOptions_iff hL']
    exact hcache.flag (resolverCache_globalOptions_iff hL)
  have hinterval' : L'.globalOptions.resolverInterval = u.normal.resolverInterval := by
    rw [resolverInterval_globalOptions]
    exact hinterval.text resolverInterval_globalOptions (hL' _ _ (.option (by decide)))
      (trimmed_trimmed _)
  have hread : L'.globalOptions = u.normal ↔ L'.globalOptions.statePolicy = u.normal.statePolicy :=
    ⟨congrArg _, GlobalOptions.ext_singles hsingles hcache' hinterval'⟩
  rw [statePolicy_globalOptions] at hestablished hrelated hinvalid hread
  have hstates := and_congr (stateEntry_eq_normal_iff hL hL' (by decide) hestablished)
    (and_congr (stateEntry_eq_normal_iff hL hL' (by decide) hrelated)
      (stateEntry_eq_normal_iff hL hL' (by decide) hinvalid))
  rw [statePolicy_globalOptions, not_leftover_iff, not_leftover_iff, not_leftover_iff, ← hstates]
  constructor
  · rintro ⟨hnormal, -, -⟩
    simpa [GlobalOptions.normal] using hread.1 hnormal
  · intro hentries
    have hnormal : L'.globalOptions = u.normal :=
      hread.2 (by simpa [GlobalOptions.normal] using hentries)
    exact ⟨hnormal, hframed, hnormal ▸ diffGlobalOptions_normal u author⟩

end Settle

/-- A firewall with one state and nothing else. -/
def withInvalid (entry : List (String × Json)) : LiveConfig :=
  .ofTree (.obj [("firewall", .obj [("global-options", .obj [("all-ping", .str "enable"),
    ("state-policy", .obj [("invalid", .obj entry)])])])])

def droppedInvalid : LiveConfig :=
  withInvalid [("action", .str "drop"), ("log", .obj []),
    ("log-options", .obj [("level", .str "info")])]

def acceptedInvalid : LiveConfig :=
  withInvalid [("action", .str "accept"), ("log-options", .obj [])]

def loggedInvalid : LiveConfig := withInvalid [("log", .obj [])]

/-- Ping allowed, and what is asked of the invalid state. -/
def askInvalid (entry : StatePolicyEntryUpdate) : GlobalOptions :=
  ⟨some " enable ", none, none, none, none, none, none, none, none, none, none, none, none, none,
    false, some "", ⟨⟨none, true, none⟩, ⟨some " ", false, none⟩, entry⟩⟩

/-- A state that accepts and no longer logs. -/
theorem globalOptions_settle_accepted :
    acceptedInvalid.globalOptions = (askInvalid ⟨some "accept", false, none⟩).normal := by
  have hdropped : droppedInvalid.Fits := LiveConfig.fits_of_check (by decide)
  have haccepted : acceptedInvalid.Fits := LiveConfig.fits_of_check (by decide)
  have hiff := @globalOptions_settle_iff deviceSchema droppedInvalid acceptedInvalid 1
    deviceSchema_knows hdropped haccepted (askInvalid ⟨some "accept", false, none⟩)
    (Schema.executes_of_check (by decide))
  exact (hiff.2 ⟨by decide, by decide, by decide⟩).1

/-- A log flag without an action stays, though nothing is asked of its state. -/
theorem not_globalOptions_settle : ¬∀ (schema : Schema) (L L' : LiveConfig) (u : GlobalOptions)
    (author : Uuid), schema.Knows → L.Fits → L'.Fits →
    schema.Executes ((diffGlobalOptions L.globalOptions u author).map
      NewConfigChange.command) L L' →
    L'.globalOptions = u.normal ∧ Framed globalOptionsBase (globalSettings u) L L' ∧
      diffGlobalOptions L'.globalOptions u author = [] := by
  intro h
  have hlogged : loggedInvalid.Fits := LiveConfig.fits_of_check (by decide)
  obtain ⟨hread, -⟩ := h deviceSchema loggedInvalid loggedInvalid (askInvalid ⟨none, false, none⟩) 1
    deviceSchema_knows hlogged hlogged (Schema.executes_of_check (by decide))
  revert hread
  decide

end VyosFabric
