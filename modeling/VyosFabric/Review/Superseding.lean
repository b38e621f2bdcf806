import VyosFabric.Review.Sequences

/-!
# A later edit supersedes an earlier one

Two edits that start from the same live entity, one after the other. The second clears the rows of
the entities it names: its own and those it starts from. What is left of the first are its rows
about an entity the second does not name, and there are such rows exactly if the first is a move and
the second goes elsewhere (`supersedes_iff`).
-/

namespace VyosFabric

open Interaction

section Pair

variable {L : LiveConfig} {c₁ c₂ : Claims} {id : Uuid} {e₁ e₂ : Edit} {db m m' a : Database}
  {h₁ h₂ h : List Event} {r₁ : Except AppError Response} {b b₂ : Response}

/-- **Which edits cover which.** Of two edits that start alike, the later one clears all rows of the
earlier one exactly if the earlier one is no move, or both have the same target. -/
theorem clears_all_iff (horigins : e₁.origins = e₂.origins) {changes : List NewConfigChange}
    (hstaged : e₁.staged db L c₁ id = .ok changes) {rows : List ConfigChange}
    (hrows : rows.map ConfigChange.toNew = changes) :
    (∀ c ∈ rows, (e₂.filters.any fun f ↦ f.matches c) = true) ↔
      e₁.entities = e₁.origins ∨ e₁.entities = e₂.entities := by
  constructor
  · intro hall
    by_contra hne
    obtain ⟨hmoved, htarget⟩ := not_or.1 hne
    refine htarget (Edit.entities_eq_of_covered horigins hmoved fun x hx ↦ ?_)
    -- the move staged something for its target, and the later edit cleared it
    obtain ⟨n, hn, howns⟩ := Edit.exists_owned_of_moved hmoved hstaged hx
    rw [← hrows] at hn
    obtain ⟨c, hc, rfl⟩ := List.mem_map.1 hn
    exact (Edit.clears_iff howns rfl rfl).1 (hall c hc)
  · intro hcases c hc
    have hn : c.toNew ∈ changes := by
      rw [← hrows]
      exact List.mem_map_of_mem hc
    obtain ⟨x, hx, howns⟩ := Edit.diff_owned hstaged hn
    refine (Edit.clears_iff howns rfl rfl).2 ?_
    rcases hcases with hplain | htarget
    · rw [hplain, or_self, horigins] at hx
      exact Or.inr hx
    · rwa [← htarget, ← horigins]

/-- **When a later edit supersedes an earlier one.** A refused edit leaves nothing behind. An
accepted one leaves nothing behind exactly if it is no move, or the later one has the same
target. -/
theorem supersedes_iff (hempty : db.pending id = []) (horigins : e₁.origins = e₂.origins)
    (hrun₁ : Completes exec (e₁.handle c₁ id) db h₁ r₁ m) (hcalm₁ : Calm L h₁)
    (hrun₂ : Completes exec (e₂.handle c₂ id) m h₂ (.ok b₂) m') (hcalm₂ : Calm L h₂)
    (halone : Completes exec (e₂.handle c₂ id) db h (.ok b) a) (hcalm : Calm L h) :
    (∀ err, r₁ = .error err → m'.commands id = a.commands id) ∧
      ∀ b₁, r₁ = .ok b₁ → (m'.commands id = a.commands id ↔
        e₁.entities = e₁.origins ∨ e₁.entities = e₂.entities) := by
  obtain ⟨changes₂, hstaged₂, inserted₂, hinserted₂, hm'⟩ := restages_of_ok hrun₂ hcalm₂
  obtain ⟨changes, hstaged, hrestages⟩ := restages_of_ok halone hcalm
  -- the later edit computes the same diff in both runs
  obtain rfl : changes₂ = changes := by
    rw [Edit.staged, lookup_eq_of_completes hrun₁] at hstaged₂
    exact Except.ok.inj (hstaged₂.symm.trans hstaged)
  rw [hempty] at hrestages
  -- so the two trays differ by what is left of the earlier one
  have hm'cmd : m'.commands id = ((m.pending id).filter fun c ↦
      !e₂.filters.any fun f ↦ f.matches c).map ConfigChange.command ++ a.commands id := by
    have ha : a.commands id = changes₂.map NewConfigChange.command :=
      map_command_eq hrestages.of_nil
    rw [Database.commands, hm', List.map_append, map_command_eq hinserted₂, ha]
  rcases Edit.restages hrun₁ hcalm₁ with
    ⟨err, -, rfl, rfl⟩ | ⟨changes₁, b₁, hstaged₁, rfl, hrestages₁⟩
  · refine ⟨fun _ _ ↦ ?_, fun b₁ hb ↦ nomatch hb⟩
    rw [hm'cmd, hempty]
    rfl
  · refine ⟨fun err herr ↦ (nomatch herr), fun _ _ ↦ ?_⟩
    rw [hempty] at hrestages₁
    rw [← clears_all_iff horigins hstaged₁ hrestages₁.of_nil, hm'cmd, List.append_left_eq_self,
      List.map_eq_nil_iff, List.filter_eq_nil_iff]
    simp only [Bool.not_eq_true', Bool.not_eq_false]

end Pair

/-! ### A VLAN that is moved twice -/

/-- VLAN 5 of `eth1`, live. -/
def sampleLive : LiveConfig :=
  .ofTree (.obj [("interfaces",
    .obj [("ethernet", .obj [("eth1", .obj [("vif", .obj [("5", .obj [])])])])])])

/-- Move it to the given number. -/
def moveVlan (vlanId : ℕ) : Edit :=
  .stageVlan
    { parent := "eth1"
      vlanId := vlanId
      description := none
      addresses := []
      mtu := none
      enabled := true
      originalParent := some "eth1"
      originalVlanId := some 5 }

/-- The change that brings the new VLAN into being. -/
def createdVlan (vlanId : ℕ) : NewConfigChange :=
  ⟨.set, vifBase "eth1" vlanId, s!"Create VLAN eth1.{(vlanId : Int).repr}", .interfaces, some 1⟩

/-- The pending row of a change, inserted at the time `id`. -/
def rowOf (id : ℕ) (c : NewConfigChange) : ConfigChange :=
  { sampleDatabase [] with nextChange := id }.newChange 0 id c

/-- The steps of a move that finds `n` rows of the target and `o` of the original, when the next
identifier is `next`. -/
def moveEvents (vlanId n o next : ℕ) : List Event :=
  [⟨.selectRouter 0, .ok (some sampleRouter)⟩,
    ⟨.showConfig sampleClient ["interfaces"], .ok (sampleLive.reply ["interfaces"])⟩,
    ⟨.deletePending 0 (.vif (vifBase "eth1" vlanId)), .ok n⟩,
    ⟨.deletePending 0 (.vif (vifBase "eth1" 5)), .ok o⟩,
    ⟨.insertChange 0 (sampleChange 5), .ok (rowOf next (sampleChange 5))⟩,
    ⟨.insertChange 0 (createdVlan vlanId), .ok (rowOf (next + 1) (createdVlan vlanId))⟩]

theorem moveEvents_calm (vlanId n o next : ℕ) : Calm sampleLive (moveEvents vlanId n o next) :=
  .cons nofun <| .shown <| .cons nofun <| .cons nofun <| .cons nofun <| .cons nofun .nil

/-- Moving it to 6 and then to 6 again is moving it to 6. -/
theorem superseded_same_target : ∃ m m' a b₁ b₂ b,
    Completes exec ((moveVlan 6).handle sampleAdmin 0) (sampleDatabase []) (moveEvents 6 0 0 0)
      (.ok b₁) m ∧
    Completes exec ((moveVlan 6).handle sampleAdmin 0) m (moveEvents 6 1 1 2) (.ok b₂) m' ∧
    Completes exec ((moveVlan 6).handle sampleAdmin 0) (sampleDatabase []) (moveEvents 6 0 0 0)
      (.ok b) a ∧
    m'.commands 0 = a.commands 0 := by
  have hfirst : ∃ b m, Completes exec ((moveVlan 6).handle sampleAdmin 0) (sampleDatabase [])
      (moveEvents 6 0 0 0) (.ok b) m ∧
      ∃ b' m',
        Completes exec ((moveVlan 6).handle sampleAdmin 0) m (moveEvents 6 1 1 2) (.ok b') m' :=
    ⟨_, _, ⟨⟨_, .call _ (.call _ (.call _ (.call _ (.call _ (.call _ (.nil _)))))), rfl⟩, rfl⟩,
      _, _, ⟨⟨_, .call _ (.call _ (.call _ (.call _ (.call _ (.call _ (.nil _)))))), rfl⟩, rfl⟩⟩
  obtain ⟨b, m, hrun, b', m', hrun'⟩ := hfirst
  refine ⟨m, m', m, b, b', b, hrun, hrun', hrun, ?_⟩
  have hiff := supersedes_iff (L := sampleLive) rfl rfl hrun (moveEvents_calm 6 0 0 0) hrun'
    (moveEvents_calm 6 1 1 2) hrun (moveEvents_calm 6 0 0 0)
  exact (hiff.2 b rfl).2 (Or.inr rfl)

/-- **A VLAN that is moved twice.** Moved to 6 and then to 7, the VLAN is also created as 6. -/
theorem not_superseded_moved : ∃ m m' a b₁ b₂ b,
    (sampleDatabase []).pending 0 = [] ∧ (moveVlan 6).origins = (moveVlan 7).origins ∧
    Completes exec ((moveVlan 6).handle sampleAdmin 0) (sampleDatabase []) (moveEvents 6 0 0 0)
      (.ok b₁) m ∧ Calm sampleLive (moveEvents 6 0 0 0) ∧
    Completes exec ((moveVlan 7).handle sampleAdmin 0) m (moveEvents 7 0 1 2) (.ok b₂) m' ∧
      Calm sampleLive (moveEvents 7 0 1 2) ∧
    Completes exec ((moveVlan 7).handle sampleAdmin 0) (sampleDatabase []) (moveEvents 7 0 0 0)
      (.ok b) a ∧ Calm sampleLive (moveEvents 7 0 0 0) ∧
    m'.commands 0 = ⟨.set, vifBase "eth1" 6⟩ :: a.commands 0 ∧ m'.commands 0 ≠ a.commands 0 :=
  ⟨_, _, _, _, _, _, rfl, rfl,
    ⟨⟨_, .call _ (.call _ (.call _ (.call _ (.call _ (.call _ (.nil _)))))), rfl⟩, rfl⟩,
    moveEvents_calm 6 0 0 0,
    ⟨⟨_, .call _ (.call _ (.call _ (.call _ (.call _ (.call _ (.nil _)))))), rfl⟩, rfl⟩,
    moveEvents_calm 7 0 1 2,
    ⟨⟨_, .call _ (.call _ (.call _ (.call _ (.call _ (.call _ (.nil _)))))), rfl⟩, rfl⟩,
    moveEvents_calm 7 0 0 0, rfl, by decide⟩

end VyosFabric
