import VyosFabric.Diff.Bases

/-!
# Entities and whose commands are whose

The things a staging page edits: the system page, the global options, a NIC without its VLANs, a
VLAN, a NAT rule. Each has a filter, by which its pending rows are found again, and a region of the
config tree.

`Owns e c` says that the change `c` is about `e`. Every change of a diff is about the entity that is
diffed (`diffSystem_owned` and the others), and the filter of an entity matches exactly its own
changes, however the pages are mixed (`filter_matches_iff`). A diff against nothing sets something
(`exists_set_of_new`), so an entity that is staged anew comes into being.
-/

namespace VyosFabric

/-- What a staging page edits. -/
inductive Entity where
  | system
  | globalOptions
  | nic (name : String)
  | vlan (parent : String) (vlanId : Int)
  | rule (sect : String) (rule : ℕ)
  deriving DecidableEq, Repr

namespace Entity

/-- The filter of its pending rows. -/
def filter : Entity → Filter
  | system => .sect .system
  | globalOptions => .sect .firewall
  | nic name => .nic (ethBase name)
  | vlan parent vlanId => .vif (vifBase parent vlanId)
  | rule sect n => .rule (ruleBase sect n)

/-- The change is about the entity. -/
def Owns : Entity → NewConfigChange → Prop
  | system, c => c.sect = .system ∧
      ((∃ r, r ≠ [] ∧ c.path = "system" :: r) ∨
        ∃ r, c.path = "service" :: "ntp" :: r ∧ (c.op = .set → r ≠ []))
  | globalOptions, c => c.sect = .firewall ∧ ∃ r, r ≠ [] ∧ c.path = globalOptionsBase ++ r
  | nic name, c => c.sect = .interfaces ∧
      ∃ r, c.path = ethBase name ++ r ∧ r.head? ≠ some "vif" ∧ (c.op = .delete → r ≠ [])
  | vlan parent vlanId, c => c.sect = .interfaces ∧ ∃ r, c.path = vifBase parent vlanId ++ r
  | rule sect n, c => c.sect = .nat ∧ ∃ r, c.path = ruleBase sect n ++ r

end Entity

/-- **A filter finds the changes of its entity and no others.** -/
theorem filter_matches_iff {e f : Entity} {c : ConfigChange} {n : NewConfigChange}
    (howns : e.Owns n) (hsect : c.sect = n.sect) (hpath : c.path = n.path) :
    f.filter.matches c = true ↔ e = f := by
  cases e with
  | system =>
    obtain ⟨hs, ⟨r, -, hp⟩ | ⟨r, hp, -⟩⟩ := howns
    · cases f <;>
        simp [Entity.filter, Filter.matches, hsect, hs, hpath, hp, ethBase, vifBase, ruleBase]
    · cases f <;>
        simp [Entity.filter, Filter.matches, hsect, hs, hpath, hp, ethBase, vifBase, ruleBase]
  | globalOptions =>
    obtain ⟨hs, r, -, hp⟩ := howns
    cases f <;>
      simp [Entity.filter, Filter.matches, hsect, hs, hpath, hp, globalOptionsBase, ethBase,
        vifBase, ruleBase]
  | nic name =>
    obtain ⟨hs, r, hp, hvif, -⟩ := howns
    rw [List.head?_eq_getElem?] at hvif
    cases f with
    -- a NIC's filter takes no VLAN's change and a VLAN's filter no NIC's, though their paths nest
    | nic name' =>
      have htake : c.path.take 3 = ethBase name := by rw [hpath, hp]; rfl
      have hfourth : c.path[3]? = r[0]? := by rw [hpath, hp]; rfl
      simp [Entity.filter, Filter.matches, htake, hfourth, hvif, ethBase_inj]
    | vlan parent vid =>
      cases r <;> simp_all [Entity.filter, Filter.matches, ethBase, vifBase]
    | system | globalOptions | rule =>
      simp [Entity.filter, Filter.matches, hsect, hs, hpath, hp, ethBase, ruleBase]
  | vlan parent vid =>
    obtain ⟨hs, r, hp⟩ := howns
    cases f with
    | vlan parent' vid' =>
      have htake : c.path.take 5 = vifBase parent vid := by rw [hpath, hp]; rfl
      simp [Entity.filter, Filter.matches, htake, vifBase_inj]
    | system | globalOptions | nic | rule =>
      simp [Entity.filter, Filter.matches, hsect, hs, hpath, hp, ethBase, vifBase, ruleBase]
  | rule sect k =>
    obtain ⟨hs, r, hp⟩ := howns
    cases f with
    | rule sect' k' =>
      have htake : c.path.take 4 = ruleBase sect k := by rw [hpath, hp]; rfl
      simp [Entity.filter, Filter.matches, htake, ruleBase_inj]
    | system | globalOptions | nic | vlan =>
      simp [Entity.filter, Filter.matches, hsect, hs, hpath, hp, ethBase, vifBase, ruleBase]

/-! ### Whose the changes of a diff are -/

section Parts

variable {mk : Op → Path → String → NewConfigChange} {path : Path} {P : NewConfigChange → Prop}

theorem forall_mem_leafDiff (h : ∀ op r t, P (mk op (path ++ r) t)) (live desired : Option String)
    (setText : String → String) (unsetText : String) :
    ∀ c ∈ leafDiff mk path live desired setText unsetText, P c := by
  intro c hc
  unfold leafDiff at hc
  split at hc
  · cases hc
  · cases desired with
    | some v =>
      obtain rfl := List.mem_singleton.1 hc
      exact h .set [v] _
    | none =>
      obtain rfl := List.mem_singleton.1 hc
      have hnil := h .delete [] unsetText
      rwa [List.append_nil] at hnil

theorem forall_mem_flagDiff (h : ∀ op t, P (mk op path t)) (live desired : Bool)
    (setText unsetText : String) :
    ∀ c ∈ flagDiff mk path live desired setText unsetText, P c := by
  intro c hc
  rw [flagDiff] at hc
  split at hc
  · cases hc
  · split at hc
    · obtain rfl := List.mem_singleton.1 hc
      exact h .set _
    · obtain rfl := List.mem_singleton.1 hc
      exact h .delete _

theorem forall_mem_addressDiff (h : ∀ op a t, P (mk op (path ++ ["address", a]) t)) (name : String)
    (live desired : List String) : ∀ c ∈ addressDiff mk path name live desired, P c := by
  intro c hc
  rcases List.mem_append.1 hc with hc | hc
  · obtain ⟨a, -, rfl⟩ := List.mem_map.1 hc
    exact h .set a _
  · obtain ⟨a, -, rfl⟩ := List.mem_map.1 hc
    exact h .delete a _

theorem forall_mem_mtuDiff (h : ∀ op r t, P (mk op (path ++ "mtu" :: r) t)) (name : String)
    (live desired : Option Int) : ∀ c ∈ mtuDiff mk path name live desired, P c := by
  intro c hc
  unfold mtuDiff at hc
  split at hc
  · cases hc
  · cases desired with
    | some m =>
      obtain rfl := List.mem_singleton.1 hc
      exact h .set [m.repr] _
    | none =>
      obtain rfl := List.mem_singleton.1 hc
      exact h .delete [] _

theorem forall_mem_enabledDiff (h : ∀ op t, P (mk op (path ++ ["disable"]) t)) (name : String)
    (live desired : Bool) : ∀ c ∈ enabledDiff mk path name live desired, P c := by
  intro c hc
  rw [enabledDiff] at hc
  split at hc
  · cases hc
  · split at hc
    · obtain rfl := List.mem_singleton.1 hc
      exact h .delete _
    · obtain rfl := List.mem_singleton.1 hc
      exact h .set _

theorem forall_mem_interfaceDiff (h : ∀ op r t, P (mk op (path ++ r) t)) (name ifaceKey : String)
    (live desired : Option String × Bool) :
    ∀ c ∈ interfaceDiff mk path name ifaceKey live desired, P c := by
  intro c hc
  rw [interfaceDiff] at hc
  split at hc
  · cases hc
  · rcases List.mem_append.1 hc with hc | hc
    · split at hc
      · obtain rfl := List.mem_singleton.1 hc
        exact h .delete _ _
      · cases hc
    · split at hc
      · cases hc
      · obtain rfl := List.mem_singleton.1 hc
        exact h .set _ _

theorem forall_mem_diffStateEntry
    (h : ∀ op r t, P (mk op (globalOptionsBase ++ "state-policy" :: r) t)) (state : String)
    (live : StatePolicyEntry) (desired : StatePolicyEntryUpdate) :
    ∀ c ∈ diffStateEntry mk state live desired, P c := by
  intro c hc
  rw [diffStateEntry] at hc
  split at hc
  · split at hc
    · obtain rfl := List.mem_singleton.1 hc
      exact h .delete [state] _
    · cases hc
  · rename_i action _
    rcases List.mem_append.1 hc with hc | hc
    · rcases List.mem_append.1 hc with hc | hc
      · split at hc
        · obtain rfl := List.mem_singleton.1 hc
          exact h .set [state, "action", action] _
        · cases hc
      · exact forall_mem_flagDiff (fun op t ↦ h op [state, "log"] t) _ _ _ _ c hc
    · exact forall_mem_leafDiff
        (fun op r t ↦ h op (state :: "log-options" :: "level" :: r) t) _ _ _ _
        c hc

end Parts

/-- The NTP subtree is where one of the two versions has it. -/
def LiveSystem.NtpPlaced (live : LiveSystem) : Prop :=
  live.ntpBase = ["system", "ntp"] ∨ live.ntpBase = ["service", "ntp"]

theorem diffNtp_owned {live : LiveSystem} (hplaced : live.NtpPlaced) (update : SystemConfigUpdate)
    (author : Uuid) :
    ∀ c ∈ diffNtp (fun op path t ↦ ⟨op, path, t, .system, some author⟩) live update,
      Entity.system.Owns c := by
  have hserver : ∀ op srv t,
      Entity.system.Owns ⟨op, live.ntpBase ++ ["server", srv], t, .system, some author⟩ := by
    intro op srv t
    rcases hplaced with h | h
    · exact ⟨rfl, Or.inl ⟨["ntp", "server", srv], by simp, by rw [h]; rfl⟩⟩
    · exact ⟨rfl, Or.inr ⟨["server", srv], by rw [h]; rfl, by simp⟩⟩
  have hwhole : ∀ t, Entity.system.Owns ⟨.delete, live.ntpBase, t, .system, some author⟩ := by
    intro t
    rcases hplaced with h | h
    · exact ⟨rfl, Or.inl ⟨["ntp"], by simp, h⟩⟩
    · exact ⟨rfl, Or.inr ⟨[], h, by simp⟩⟩
  intro c hc
  unfold diffNtp at hc
  split at hc
  · split at hc
    · obtain rfl := List.mem_singleton.1 hc
      exact hwhole _
    · cases hc
  · cases hservers : update.ntpServers with
    | none => simp [hservers] at hc
    | some servers =>
      rw [hservers] at hc
      rcases List.mem_append.1 hc with hc | hc
      · obtain ⟨srv, -, rfl⟩ := List.mem_map.1 hc
        exact hserver _ srv _
      · obtain ⟨srv, -, rfl⟩ := List.mem_map.1 hc
        exact hserver _ srv _

theorem diffSystem_owned {live : LiveSystem} (hplaced : live.NtpPlaced)
    (update : SystemConfigUpdate)
    (author : Uuid) : ∀ c ∈ diffSystem live update author, Entity.system.Owns c := by
  have hown : ∀ op r t, r ≠ [] →
      Entity.system.Owns ⟨op, "system" :: r, t, .system, some author⟩ :=
    fun op r t hr ↦ ⟨rfl, Or.inl ⟨r, hr, rfl⟩⟩
  intro c hc
  unfold diffSystem at hc
  simp only [List.mem_append] at hc
  rcases hc with ((hc | hc) | hc) | hc
  · split at hc
    · cases hc
    · split at hc
      · obtain rfl := List.mem_singleton.1 hc
        exact hown _ _ _ (by simp)
      · cases hc
  · split at hc
    · cases hc
    · split at hc
      · split at hc
        · obtain rfl := List.mem_singleton.1 hc
          exact hown _ _ _ (by simp)
        · cases hc
      · split at hc
        · obtain rfl := List.mem_singleton.1 hc
          exact hown _ _ _ (by simp)
        · cases hc
  · split at hc
    · cases hc
    · split at hc
      · obtain rfl := List.mem_singleton.1 hc
        exact hown _ _ _ (by simp)
      · cases hc
  · exact diffNtp_owned hplaced update author c hc

theorem diffGlobalOptions_owned (live update : GlobalOptions) (author : Uuid) :
    ∀ c ∈ diffGlobalOptions live update author, Entity.globalOptions.Owns c := by
  have hown : ∀ op r t, r ≠ [] →
      Entity.globalOptions.Owns ⟨op, globalOptionsBase ++ r, t, .firewall, some author⟩ :=
    fun op r t hr ↦ ⟨rfl, r, hr, rfl⟩
  have hentry : ∀ state live desired, ∀ c ∈ diffStateEntry
      (fun op path t ↦ ⟨op, path, t, .firewall, some author⟩) state live desired,
        Entity.globalOptions.Owns c := by
    intro state live desired
    exact forall_mem_diffStateEntry (fun op r t ↦ hown op _ t (by simp)) _ _ _
  have hleaf : ∀ key live desired setText unsetText, ∀ c ∈ leafDiff
      (fun op path t ↦ ⟨op, path, t, .firewall, some author⟩) (globalOptionsBase ++ [key]) live
        desired setText unsetText, Entity.globalOptions.Owns c := by
    intro key live desired setText unsetText
    refine forall_mem_leafDiff (fun op r t ↦ ?_) _ _ _ _
    rw [List.append_assoc]
    exact hown op _ t (by simp)
  intro c hc
  unfold diffGlobalOptions at hc
  simp only [List.mem_append] at hc
  rcases hc with ((((hc | hc) | hc) | hc) | hc) | hc
  · obtain ⟨x, -, hc⟩ := List.mem_flatMap.1 hc
    exact hleaf _ _ _ _ _ c hc
  · exact forall_mem_flagDiff (fun op t ↦ hown op _ t (by simp)) _ _ _ _ c hc
  · exact hleaf _ _ _ _ _ c hc
  · exact hentry _ _ _ c hc
  · exact hentry _ _ _ c hc
  · exact hentry _ _ _ c hc

/-- The last step of a diff: the node itself, where nothing else creates it. -/
theorem mem_create {b : Bool} {out : List NewConfigChange} {c d : NewConfigChange}
    (hc : c ∈ if b = true then out ++ [d] else out) : c ∈ out ∨ c = d := by
  split at hc
  · rcases List.mem_append.1 hc with hc | hc
    · exact Or.inl hc
    · exact Or.inr (List.mem_singleton.1 hc)
  · exact Or.inl hc

theorem diffEthernet_owned (eth : Json) (u : EthernetConfigUpdate) (author : Uuid) :
    ∀ c ∈ diffEthernet eth u author, (Entity.nic u.name).Owns c := by
  have hown : ∀ op key r t, key ≠ "vif" → (Entity.nic u.name).Owns
      ⟨op, ethBase u.name ++ key :: r, t, .interfaces, some author⟩ :=
    fun op key r t hkey ↦ ⟨rfl, key :: r, rfl, by simpa using hkey, by simp⟩
  have hleaf : ∀ key live desired setText unsetText, key ≠ "vif" → ∀ c ∈ leafDiff
      (fun op path t ↦ ⟨op, path, t, .interfaces, some author⟩) (ethBase u.name ++ [key]) live
        desired setText unsetText, (Entity.nic u.name).Owns c := by
    intro key live desired setText unsetText hkey
    refine forall_mem_leafDiff (fun op r t ↦ ?_) _ _ _ _
    rw [List.append_assoc]
    exact hown op key r t hkey
  intro c hc
  rcases mem_create hc with hc | rfl
  · simp only [List.mem_append] at hc
    rcases hc with ((((hc | hc) | hc) | hc) | hc) | hc
    · exact hleaf _ _ _ _ _ (by decide) c hc
    · exact forall_mem_addressDiff (fun op a t ↦ hown op _ _ t (by decide)) _ _ _ c hc
    · exact forall_mem_mtuDiff (fun op r t ↦ hown op _ _ t (by decide)) _ _ _ c hc
    · exact hleaf _ _ _ _ _ (by decide) c hc
    · exact hleaf _ _ _ _ _ (by decide) c hc
    · exact forall_mem_enabledDiff (fun op t ↦ hown op _ _ t (by decide)) _ _ _ c hc
  · exact ⟨rfl, [], (List.append_nil _).symm, by simp, by simp⟩

/-- The changes of a VLAN diff are about the VLAN and, on a move, about the one it was. -/
theorem diffVlan_owned (eth : Json) (u : VlanConfigUpdate) (author : Uuid) :
    ∀ c ∈ diffVlan eth u author, (Entity.vlan u.parent u.vlanId).Owns c ∨
      ∃ o, u.movedFrom = some o ∧ c.op = .delete ∧ (Entity.vlan o.1 o.2).Owns c := by
  have hown : ∀ op r t, (Entity.vlan u.parent u.vlanId).Owns
      ⟨op, vifBase u.parent u.vlanId ++ r, t, .interfaces, some author⟩ :=
    fun op r t ↦ ⟨rfl, r, rfl⟩
  intro c hc
  rcases List.mem_append.1 hc with hc | hc
  · cases hmoved : u.movedFrom with
    | none => simp [hmoved] at hc
    | some o =>
      rw [hmoved] at hc
      obtain rfl := List.mem_singleton.1 hc
      exact Or.inr ⟨o, rfl, rfl, rfl, [], (List.append_nil _).symm⟩
  · refine Or.inl ?_
    rcases mem_create hc with hc | rfl
    · simp only [List.mem_append] at hc
      rcases hc with ((hc | hc) | hc) | hc
      · refine forall_mem_leafDiff (fun op r t ↦ ?_) _ _ _ _ c hc
        rw [List.append_assoc]
        exact hown op _ t
      · exact forall_mem_addressDiff (fun op a t ↦ hown op _ t) _ _ _ c hc
      · exact forall_mem_mtuDiff (fun op r t ↦ hown op _ t) _ _ _ c hc
      · exact forall_mem_enabledDiff (fun op t ↦ hown op _ t) _ _ _ c hc
    · exact ⟨rfl, [], (List.append_nil _).symm⟩

/-- The changes of a rule diff are about the rule and, on a renumber, about the one it was. -/
theorem diffNat44_owned (node : Json) (body : Nat44RuleUpdate) (author : Uuid) :
    ∀ c ∈ diffNat44 node body author, (Entity.rule body.sect body.rule).Owns c ∨
      ∃ o, renumberedFrom body.rule body.originalRule = some o ∧ c.op = .delete ∧
        (Entity.rule body.sect o).Owns c := by
  have hown : ∀ op r t, (Entity.rule body.sect body.rule).Owns
      ⟨op, ruleBase body.sect body.rule ++ r, t, .nat, some author⟩ :=
    fun op r t ↦ ⟨rfl, r, rfl⟩
  have hleaf : ∀ sub live desired setText unsetText, ∀ c ∈ leafDiff
      (fun op path t ↦ ⟨op, path, t, .nat, some author⟩) (ruleBase body.sect body.rule ++ sub) live
        desired setText unsetText, (Entity.rule body.sect body.rule).Owns c := by
    intro sub live desired setText unsetText
    refine forall_mem_leafDiff (fun op r t ↦ ?_) _ _ _ _
    rw [List.append_assoc]
    exact hown op _ t
  intro c hc
  rcases List.mem_append.1 hc with hc | hc
  · cases hmoved : renumberedFrom body.rule body.originalRule with
    | none => simp [hmoved] at hc
    | some o =>
      rw [hmoved] at hc
      obtain rfl := List.mem_singleton.1 hc
      exact Or.inr ⟨o, rfl, rfl, rfl, [], (List.append_nil _).symm⟩
  · refine Or.inl ?_
    rcases mem_create hc with hc | rfl
    · simp only [List.mem_append] at hc
      rcases hc with ((((((((((hc | hc) | hc) | hc) | hc) | hc) | hc) | hc) | hc) | hc) | hc) | hc
      · exact hleaf _ _ _ _ _ c hc
      · exact hleaf _ _ _ _ _ c hc
      · exact hleaf _ _ _ _ _ c hc
      · exact hleaf _ _ _ _ _ c hc
      · exact hleaf _ _ _ _ _ c hc
      · exact hleaf _ _ _ _ _ c hc
      · exact hleaf _ _ _ _ _ c hc
      · exact hleaf _ _ _ _ _ c hc
      · exact forall_mem_interfaceDiff hown _ _ _ _ c hc
      · exact forall_mem_flagDiff (fun op t ↦ hown op _ t) _ _ _ _ c hc
      · exact forall_mem_flagDiff (fun op t ↦ hown op _ t) _ _ _ _ c hc
      · exact forall_mem_enabledDiff (fun op t ↦ hown op _ t) _ _ _ c hc
    · exact ⟨rfl, [], (List.append_nil _).symm⟩

/-! ### What comes into being -/

/-- A diff against nothing ends with something set. -/
theorem exists_set_create {new : Bool} (hnew : new = true) {out : List NewConfigChange}
    {d : NewConfigChange} (hd : d.op = .set) (drop : List NewConfigChange) :
    ∃ c ∈ drop ++ if (new && !emitsSet out) = true then out ++ [d] else out, c.op = .set := by
  subst hnew
  cases hemits : emitsSet out with
  | true =>
    obtain ⟨c, hc, hop⟩ := List.any_eq_true.1 hemits
    exact ⟨c, by simp [hc], by simpa using hop⟩
  | false => exact ⟨d, by simp, hd⟩

/-- A NIC the device does not have is created. -/
theorem exists_set_of_mem_diffEthernet {eth : Json} {u : EthernetConfigUpdate}
    (hnew : eth.get u.name = none) (author : Uuid) :
    ∃ c ∈ diffEthernet eth u author, c.op = .set := by
  unfold diffEthernet
  exact exists_set_create (by rw [hnew]; rfl) rfl []

/-- If all that is not owned is deleted, what is set is owned. -/
theorem exists_owned_of_set {α : Type} {changes : List NewConfigChange} {x : Entity}
    {p : α → Prop} {q : α → NewConfigChange → Prop}
    (howned : ∀ c ∈ changes, x.Owns c ∨ ∃ o, p o ∧ c.op = .delete ∧ q o c)
    (hset : ∃ c ∈ changes, c.op = .set) : ∃ c ∈ changes, x.Owns c := by
  obtain ⟨c, hc, hop⟩ := hset
  rcases howned c hc with howns | ⟨o, -, hdelete, -⟩
  · exact ⟨c, hc, howns⟩
  · rw [hop] at hdelete
    cases hdelete

/-- The target of a move is created. -/
theorem exists_owned_of_mem_diffVlan {u : VlanConfigUpdate} (hmoved : u.movedFrom.isSome = true)
    (eth : Json) (author : Uuid) :
    ∃ c ∈ diffVlan eth u author, (Entity.vlan u.parent u.vlanId).Owns c := by
  refine exists_owned_of_set (diffVlan_owned eth u author) ?_
  unfold diffVlan
  exact exists_set_create (by rw [hmoved]; rfl) rfl _

/-- So is the target of a renumber. -/
theorem exists_owned_of_mem_diffNat44 {body : Nat44RuleUpdate}
    (hmoved : (renumberedFrom body.rule body.originalRule).isSome = true) (node : Json)
    (author : Uuid) :
    ∃ c ∈ diffNat44 node body author, (Entity.rule body.sect body.rule).Owns c := by
  refine exists_owned_of_set (diffNat44_owned node body author) ?_
  unfold diffNat44
  exact exists_set_create (by rw [hmoved]; rfl) rfl _

end VyosFabric
