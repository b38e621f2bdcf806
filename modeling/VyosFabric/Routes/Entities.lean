import VyosFabric.Diff.Entities
import VyosFabric.Interaction.Answers
import VyosFabric.Routes.Requests

/-!
# The entities of an edit

An edit is about the entities it targets (`Edit.entities`), and it starts from the live ones it
replaces (`Edit.origins`); the two differ on a move and on a renumber. It clears the pending rows of
both (`Edit.clears_iff`), every change of its diff is about one of them (`Edit.diff_owned`), and a
move stages something for each entity it targets (`Edit.exists_owned_of_moved`). The last two hold
whatever the statements of the diff are answered.
-/

namespace VyosFabric

open Interaction

/-- The entities an edit is about. -/
def Edit.entities : Edit → List Entity
  | .stageSystem _ => [.system]
  | .stageGlobalOptions _ => [.globalOptions]
  | .stageEthernet body => [.nic body.name]
  | .stageVlan body => [.vlan body.parent body.vlanId]
  | .deleteVlan body => [.vlan body.parent body.vlanId]
  | .stageNat44 body => [.rule body.sect body.rule]
  | .deleteNat44 body => [.rule body.sect body.rule]
  | .stageStatic body => [.rule "source" body.rule, .rule "destination" body.rule]
  | .deleteStatic body => [.rule "source" body.rule, .rule "destination" body.rule]

/-- The live entities an edit starts from: those it names as its originals, and otherwise its
own. -/
def Edit.origins : Edit → List Entity
  | .stageVlan body =>
    match body.movedFrom with
    | some (op, ovid) => [.vlan op ovid]
    | none => [.vlan body.parent body.vlanId]
  | .stageNat44 body =>
    [.rule body.sect ((renumberedFrom body.rule body.originalRule).getD body.rule)]
  | .stageStatic body =>
    let o := (renumberedFrom body.rule body.originalRule).getD body.rule
    [.rule "source" o, .rule "destination" o]
  | e => e.entities

theorem Edit.entities_ne_nil (e : Edit) : e.entities ≠ [] := by
  cases e <;> exact List.cons_ne_nil _ _

theorem mem_ruleTargets {sects : List String} {rule : ℕ} {originalRule : Option ℕ} {base : Path} :
    base ∈ ruleTargets sects rule originalRule ↔ ∃ s ∈ sects,
      base = ruleBase s rule ∨
        base = ruleBase s ((renumberedFrom rule originalRule).getD rule) := by
  rw [ruleTargets]
  cases renumberedFrom rule originalRule with
  | none => simp [eq_comm]
  | some o =>
    simp only [List.mem_append, List.mem_map, Option.getD_some, eq_comm, ← exists_or, ← and_or_left]

/-- **An edit clears** the rows of its own entities and of those it starts from. -/
theorem Edit.mem_filters_iff {e : Edit} {f : Filter} :
    f ∈ e.filters ↔ ∃ x, (x ∈ e.entities ∨ x ∈ e.origins) ∧ x.filter = f := by
  cases e with
  | stageSystem | stageGlobalOptions | stageEthernet | deleteVlan | deleteNat44 | deleteStatic =>
    simp [Edit.filters, Edit.origins, Edit.entities, Entity.filter, eq_comm]
  | stageVlan body =>
    cases hmoved : body.movedFrom with
    | none =>
      simp [Edit.filters, Edit.origins, Edit.entities, vifTargets, hmoved, Entity.filter, eq_comm]
    | some o =>
      simp [Edit.filters, Edit.origins, Edit.entities, vifTargets, hmoved, Entity.filter, eq_comm]
  | stageNat44 body =>
    simp [Edit.filters, Edit.origins, Edit.entities, mem_ruleTargets, Entity.filter, eq_comm]
  | stageStatic body =>
    simp only [Edit.filters, Edit.origins, Edit.entities, List.mem_map, mem_ruleTargets,
      List.mem_pair, or_and_right, exists_or, exists_eq_left, Entity.filter]
    tauto

/-- The rows an edit clears, by whose they are. -/
theorem Edit.clears_iff {e : Edit} {x : Entity} {c : ConfigChange} {n : NewConfigChange}
    (howns : x.Owns n) (hsect : c.sect = n.sect) (hpath : c.path = n.path) :
    (e.filters.any fun f ↦ f.matches c) = true ↔ x ∈ e.entities ∨ x ∈ e.origins := by
  rw [List.any_eq_true]
  constructor
  · rintro ⟨f, hf, hmatch⟩
    obtain ⟨y, hy, rfl⟩ := Edit.mem_filters_iff.1 hf
    obtain rfl := (filter_matches_iff howns hsect hpath).1 hmatch
    exact hy
  · intro hx
    exact ⟨x.filter, Edit.mem_filters_iff.2 ⟨x, hx, rfl⟩,
      (filter_matches_iff howns hsect hpath).2 rfl⟩

/-- An edit is about one entity, or about the two rules of a mapping; so is what it starts from. -/
theorem Edit.entities_cases (e : Edit) :
    (∃ x y, e.entities = [x] ∧ e.origins = [y]) ∨
      ∃ n o, e.entities = [.rule "source" n, .rule "destination" n] ∧
        e.origins = [.rule "source" o, .rule "destination" o] := by
  cases e with
  | stageSystem | stageGlobalOptions | stageEthernet | deleteVlan | stageNat44 | deleteNat44 =>
    exact Or.inl ⟨_, _, rfl, rfl⟩
  | stageVlan body =>
    cases hmoved : body.movedFrom with
    | none => exact Or.inl ⟨_, _, rfl, by rw [Edit.origins, hmoved]⟩
    | some o => exact Or.inl ⟨_, _, rfl, by rw [Edit.origins, hmoved]⟩
  | stageStatic | deleteStatic => exact Or.inr ⟨_, _, rfl, rfl⟩

/-- Of two edits that start alike, a move whose entities the other covers has the same entities. -/
theorem Edit.entities_eq_of_covered {e₁ e₂ : Edit} (horigins : e₁.origins = e₂.origins)
    (hmoved : e₁.entities ≠ e₁.origins)
    (hcovered : ∀ x ∈ e₁.entities, x ∈ e₂.entities ∨ x ∈ e₂.origins) :
    e₁.entities = e₂.entities := by
  rcases e₁.entities_cases with ⟨x, y, hx, hy⟩ | ⟨n, o, hx, hy⟩ <;>
    rcases e₂.entities_cases with ⟨x', y', hx', hy'⟩ | ⟨n', o', hx', hy'⟩ <;>
      simp_all

/-! ### Whose the changes of an edit are -/

section Diff

variable {answer : (s : Statement) → s.Reply} {claims : Claims} {id : Uuid} {e : Edit}
  {changes : List NewConfigChange}

/-- The NTP subtree of a gathered snapshot is where one of the two versions has it. -/
theorem gather_ntpPlaced (client : VyosClient) : (gather client).Returns LiveSystem.NtpPlaced := by
  have hbase : ntpBase client = ["system", "ntp"] ∨ ntpBase client = ["service", "ntp"] := by
    rw [ntpBase]
    split
    · exact Or.inl rfl
    · exact Or.inr rfl
  refine Prog.Returns.bind (Prog.returns_true _) fun resp _ ↦ ?_
  show Prog.Returns _ (if _ then _ else _)
  split
  · show Prog.Returns _ (if _ then _ else _)
    split
    · exact hbase
    · exact Prog.Returns.bind (Prog.returns_true _) fun _ _ ↦ hbase
  · trivial

/-- A move stages a drop of its origin. -/
theorem origins_of_movedFrom {body : VlanConfigUpdate} {o : String × Int}
    (hmoved : body.movedFrom = some o) : (Edit.stageVlan body).origins = [.vlan o.1 o.2] := by
  rw [Edit.origins, hmoved]

/-- The changes of a rule diff, by the number they are about. -/
theorem exists_rule_of_mem_diffNat44 {node : Json} {body : Nat44RuleUpdate} {author : Uuid}
    {c : NewConfigChange} (hc : c ∈ diffNat44 node body author) :
    ∃ n, (n = body.rule ∨ n = (renumberedFrom body.rule body.originalRule).getD body.rule) ∧
      (Entity.rule body.sect n).Owns c := by
  rcases diffNat44_owned node body author c hc with howns | ⟨o, hmoved, -, howns⟩
  · exact ⟨body.rule, Or.inl rfl, howns⟩
  · exact ⟨o, Or.inr (by rw [hmoved]; rfl), howns⟩

/-- Where a number that is kept would give the same entities, it is not kept. -/
theorem isSome_of_getD_ne {o : Option ℕ} {n : ℕ} {l : ℕ → List Entity} (h : l n ≠ l (o.getD n)) :
    o.isSome = true := by
  cases o with
  | none => exact absurd rfl h
  | some m => rfl

/-- Every change of the list is about an entity of the edit, or about one it starts from. -/
def Edit.Owns (e : Edit) (changes : List NewConfigChange) : Prop :=
  ∀ c ∈ changes, ∃ x, (x ∈ e.entities ∨ x ∈ e.origins) ∧ x.Owns c

theorem owns_rule_diff {node : Json} {body : Nat44RuleUpdate} {author : Uuid}
    (hentity : .rule body.sect body.rule ∈ e.entities)
    (horigin : .rule body.sect ((renumberedFrom body.rule body.originalRule).getD body.rule) ∈
      e.origins) : e.Owns (diffNat44 node body author) := by
  intro c hc
  obtain ⟨n, rfl | rfl, howns⟩ := exists_rule_of_mem_diffNat44 hc
  · exact ⟨_, Or.inl hentity, howns⟩
  · exact ⟨_, Or.inr horigin, howns⟩

/-- **Every change of an edit is about one of its entities**, or about one it starts from, whatever
its statements are answered. -/
theorem Edit.diff_returns (claims : Claims) (id : Uuid) (e : Edit) :
    (e.diff claims id).Returns e.Owns := by
  cases e with
  | stageSystem body =>
    refine Prog.Returns.bind (Prog.returns_true _) fun client _ ↦ ?_
    refine Prog.Returns.bind (gather_ntpPlaced client) fun live hlive c hc ↦ ?_
    exact ⟨_, Or.inl (List.mem_singleton_self _), diffSystem_owned hlive body _ c hc⟩
  | stageGlobalOptions body =>
    refine Prog.Returns.bind (Prog.returns_true _) fun client _ ↦ ?_
    refine Prog.Returns.bind (Prog.returns_true _) fun live _ c hc ↦ ?_
    exact ⟨_, Or.inl (List.mem_singleton_self _), diffGlobalOptions_owned live body _ c hc⟩
  | stageEthernet body =>
    rw [Edit.diff]
    split
    · trivial
    · refine Prog.Returns.bind (Prog.returns_true _) fun eth _ c hc ↦ ?_
      exact ⟨_, Or.inl (List.mem_singleton_self _), diffEthernet_owned eth body _ c hc⟩
  | stageVlan body =>
    rw [Edit.diff]
    split
    · trivial
    · refine Prog.Returns.bind (Prog.returns_true _) fun eth _ c hc ↦ ?_
      rcases diffVlan_owned eth body _ c hc with howns | ⟨o, hmoved, -, howns⟩
      · exact ⟨_, Or.inl (List.mem_singleton_self _), howns⟩
      · refine ⟨_, Or.inr ?_, howns⟩
        rw [origins_of_movedFrom hmoved]
        exact List.mem_singleton_self _
  | deleteVlan body =>
    -- the one change is the delete of the entity itself
    refine Prog.Returns.bind (Prog.returns_true _) fun _ _ c hc ↦ ?_
    obtain rfl := List.mem_singleton.1 hc
    exact ⟨_, Or.inl (List.mem_singleton_self _), rfl, [], (List.append_nil _).symm⟩
  | stageNat44 body =>
    rw [Edit.diff]
    split
    · trivial
    · split
      · trivial
      · refine Prog.Returns.bind (Prog.returns_true _) fun client _ ↦ ?_
        refine Prog.Returns.bind (Prog.returns_true _) fun data _ ↦ ?_
        exact owns_rule_diff (List.mem_singleton_self _) (List.mem_singleton_self _)
  | deleteNat44 body =>
    rw [Edit.diff]
    split
    · trivial
    · refine Prog.Returns.bind (Prog.returns_true _) fun _ _ c hc ↦ ?_
      obtain rfl := List.mem_singleton.1 hc
      exact ⟨_, Or.inl (List.mem_singleton_self _), rfl, [], (List.append_nil _).symm⟩
  | stageStatic body =>
    rw [Edit.diff]
    split
    · trivial
    · -- the source rule's diff, then the destination rule's
      refine Prog.Returns.bind (Prog.returns_true _) fun client _ ↦ ?_
      refine Prog.Returns.bind (Prog.returns_true _) fun data _ c hc ↦ ?_
      rcases List.mem_append.1 hc with hc | hc
      · exact owns_rule_diff List.mem_cons_self List.mem_cons_self c hc
      · exact owns_rule_diff (List.mem_cons_of_mem _ List.mem_cons_self)
          (List.mem_cons_of_mem _ List.mem_cons_self) c hc
  | deleteStatic body =>
    refine Prog.Returns.bind (Prog.returns_true _) fun _ _ c hc ↦ ?_
    rcases List.mem_pair.1 hc with rfl | rfl
    · exact ⟨_, Or.inl List.mem_cons_self, rfl, [], (List.append_nil _).symm⟩
    · exact ⟨_, Or.inl (List.mem_cons_of_mem _ List.mem_cons_self), rfl, [],
        (List.append_nil _).symm⟩

/-- What an edit stages once its checks have passed, from what it reads. -/
inductive Edit.Stages (answer : (s : Statement) → s.Reply) (claims : Claims) (id : Uuid) :
    Edit → List NewConfigChange → Prop
  | stageSystem {body : SystemConfigUpdate} {client : VyosClient} {live : LiveSystem} :
      (gather client).eval answer = .ok live →
      Edit.Stages answer claims id (.stageSystem body) (diffSystem live body claims.sub)
  | stageGlobalOptions {body live : GlobalOptions} {client : VyosClient} :
      (gatherGlobalOptions client).eval answer = .ok live →
      Edit.Stages answer claims id (.stageGlobalOptions body)
        (diffGlobalOptions live body claims.sub)
  | stageEthernet {body : EthernetConfigUpdate} {eth : Json} :
      trim body.name ≠ "" → (interfaceConfig claims id "ethernet").eval answer = .ok eth →
      Edit.Stages answer claims id (.stageEthernet body) (diffEthernet eth body claims.sub)
  | stageVlan {body : VlanConfigUpdate} {eth : Json} :
      1 ≤ body.vlanId ∧ body.vlanId ≤ 4094 →
      (interfaceConfig claims id "ethernet").eval answer = .ok eth →
      Edit.Stages answer claims id (.stageVlan body) (diffVlan eth body claims.sub)
  | deleteVlan (body : VlanDelete) :
      Edit.Stages answer claims id (.deleteVlan body)
        [⟨.delete, vifBase body.parent body.vlanId,
          s!"Delete VLAN {body.parent}.{body.vlanId.repr}", .interfaces, some claims.sub⟩]
  | stageNat44 {body : Nat44RuleUpdate} {client : VyosClient} {data : Json} :
      validSection body.sect = true → validRule body.rule = true →
      (fetchNode client ["nat"]).eval answer = .ok data →
      Edit.Stages answer claims id (.stageNat44 body) (diffNat44 data body claims.sub)
  | deleteNat44 {body : Nat44RuleDelete} :
      validSection body.sect = true →
      Edit.Stages answer claims id (.deleteNat44 body)
        [⟨.delete, ruleBase body.sect body.rule,
          s!"Delete {prettySection body.sect} NAT rule {body.rule.repr}", .nat, some claims.sub⟩]
  | stageStatic {body : StaticNatUpdate} {client : VyosClient} {data : Json} :
      validRule body.rule = true → (fetchNode client ["nat"]).eval answer = .ok data →
      Edit.Stages answer claims id (.stageStatic body)
        (diffNat44 data (staticPair body).1 claims.sub ++
          diffNat44 data (staticPair body).2 claims.sub)
  | deleteStatic (body : StaticNatDelete) :
      Edit.Stages answer claims id (.deleteStatic body)
        [⟨.delete, ruleBase "source" body.rule,
            s!"Delete 1-to-1 NAT rule {body.rule.repr} (source)", .nat, some claims.sub⟩,
          ⟨.delete, ruleBase "destination" body.rule,
            s!"Delete 1-to-1 NAT rule {body.rule.repr} (destination)", .nat, some claims.sub⟩]

/-- **An edit that is not refused** stages its diff. -/
theorem Edit.stages_of_diff (h : (e.diff claims id).eval answer = .ok changes) :
    e.Stages answer claims id changes := by
  cases e with
  | stageSystem body =>
    obtain ⟨client, -, h⟩ := Prog.eval_bind_eq_ok.1 h
    obtain ⟨live, hlive, h⟩ := Prog.eval_bind_eq_ok.1 h
    obtain rfl := Except.ok.inj h
    exact .stageSystem hlive
  | stageGlobalOptions body =>
    obtain ⟨client, -, h⟩ := Prog.eval_bind_eq_ok.1 h
    obtain ⟨live, hlive, h⟩ := Prog.eval_bind_eq_ok.1 h
    obtain rfl := Except.ok.inj h
    exact .stageGlobalOptions hlive
  | stageEthernet body =>
    obtain ⟨hname, h⟩ := Prog.eval_guard_eq_ok.1 h
    obtain ⟨eth, heth, h⟩ := Prog.eval_bind_eq_ok.1 h
    obtain rfl := Except.ok.inj h
    exact .stageEthernet hname heth
  | stageVlan body =>
    obtain ⟨hrange, h⟩ := Prog.eval_guard_eq_ok.1 h
    obtain ⟨eth, heth, h⟩ := Prog.eval_bind_eq_ok.1 h
    obtain rfl := Except.ok.inj h
    exact .stageVlan (not_not.1 hrange) heth
  | deleteVlan body =>
    obtain ⟨_, -, h⟩ := Prog.eval_bind_eq_ok.1 h
    obtain rfl := Except.ok.inj h
    exact .deleteVlan body
  | stageNat44 body =>
    obtain ⟨hsect, h⟩ := Prog.eval_guard_eq_ok.1 h
    obtain ⟨hrule, h⟩ := Prog.eval_guard_eq_ok.1 h
    obtain ⟨client, -, h⟩ := Prog.eval_bind_eq_ok.1 h
    obtain ⟨data, hdata, h⟩ := Prog.eval_bind_eq_ok.1 h
    obtain rfl := Except.ok.inj h
    exact .stageNat44 (not_not.1 hsect) (not_not.1 hrule) hdata
  | deleteNat44 body =>
    obtain ⟨hsect, h⟩ := Prog.eval_guard_eq_ok.1 h
    obtain ⟨_, -, h⟩ := Prog.eval_bind_eq_ok.1 h
    obtain rfl := Except.ok.inj h
    exact .deleteNat44 (not_not.1 hsect)
  | stageStatic body =>
    obtain ⟨hrule, h⟩ := Prog.eval_guard_eq_ok.1 h
    obtain ⟨client, -, h⟩ := Prog.eval_bind_eq_ok.1 h
    obtain ⟨data, hdata, h⟩ := Prog.eval_bind_eq_ok.1 h
    obtain rfl := Except.ok.inj h
    exact .stageStatic (not_not.1 hrule) hdata
  | deleteStatic body =>
    obtain ⟨_, -, h⟩ := Prog.eval_bind_eq_ok.1 h
    obtain rfl := Except.ok.inj h
    exact .deleteStatic body

/-- So it is for fixed answers. -/
theorem Edit.diff_owned (h : (e.diff claims id).eval answer = .ok changes) {c : NewConfigChange}
    (hc : c ∈ changes) : ∃ x, (x ∈ e.entities ∨ x ∈ e.origins) ∧ x.Owns c :=
  (e.diff_returns claims id).of_eval h c hc

/-- **A move stages something** for each entity it targets. -/
theorem Edit.exists_owned_of_moved (hmoved : e.entities ≠ e.origins)
    (h : (e.diff claims id).eval answer = .ok changes) {x : Entity} (hx : x ∈ e.entities) :
    ∃ c ∈ changes, x.Owns c := by
  cases Edit.stages_of_diff h with
  -- the edits that never move
  | stageSystem | stageGlobalOptions | stageEthernet | deleteVlan | deleteNat44 | deleteStatic =>
    exact absurd rfl hmoved
  | @stageVlan body eth =>
    have hsome : body.movedFrom.isSome = true := by
      cases hfrom : body.movedFrom with
      | none => exact absurd (by rw [Edit.origins, hfrom]; rfl) hmoved
      | some o => rfl
    obtain rfl := List.mem_singleton.1 hx
    exact exists_owned_of_mem_diffVlan hsome eth _
  | @stageNat44 body client data =>
    have hsome : (renumberedFrom body.rule body.originalRule).isSome = true :=
      isSome_of_getD_ne (l := fun n ↦ [.rule body.sect n]) hmoved
    obtain rfl := List.mem_singleton.1 hx
    exact exists_owned_of_mem_diffNat44 hsome data _
  | @stageStatic body client data =>
    have hsome : (renumberedFrom body.rule body.originalRule).isSome = true :=
      isSome_of_getD_ne (l := fun n ↦ [.rule "source" n, .rule "destination" n]) hmoved
    rcases List.mem_pair.1 hx with rfl | rfl
    · obtain ⟨c, hc, howns⟩ :=
        @exists_owned_of_mem_diffNat44 (staticPair body).1 hsome data claims.sub
      exact ⟨c, List.mem_append_left _ hc, howns⟩
    · obtain ⟨c, hc, howns⟩ :=
        @exists_owned_of_mem_diffNat44 (staticPair body).2 hsome data claims.sub
      exact ⟨c, List.mem_append_right _ hc, howns⟩

end Diff

end VyosFabric
