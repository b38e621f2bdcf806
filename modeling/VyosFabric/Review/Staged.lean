import VyosFabric.Diff.GlobalSettings
import VyosFabric.Diff.InterfaceSettings
import VyosFabric.Diff.StaticSettings
import VyosFabric.Diff.SystemSettings
import VyosFabric.Review.Sequences

/-!
# What an accepted edit stages

A device that answers shows what it holds (`LiveConfig.Answers`). What an accepted edit stages is
then the diff against what the config shows (`Edit.shownDiff`), and the edit has passed its checks
(`Edit.Checked`).
-/

namespace VyosFabric

open Interaction

/-- The device reports success for everything it holds. -/
def LiveConfig.Answers (L : LiveConfig) : Prop :=
  ∀ path, (L.tree.subtree path).isSome = true → (L.reply path).succeeded = true

theorem answers_ofTree (tree : Json) : (LiveConfig.ofTree tree).Answers := by
  intro path h
  obtain ⟨v, hv⟩ := Option.isSome_iff_exists.1 h
  have hv' : tree.subtree path = some v := hv
  have hreply : (LiveConfig.ofTree tree).reply path =
      .obj [("success", .bool true), ("data", v)] := by
    simp only [LiveConfig.ofTree, hv']
  rw [hreply]
  rfl

/-- What an edit asks for has passed the checks of its route. -/
def Edit.Checked : Edit → Prop
  | .stageEthernet body => trim body.name ≠ ""
  | .stageVlan body => 1 ≤ body.vlanId ∧ body.vlanId ≤ 4094
  | .stageNat44 body => validSection body.sect = true ∧ validRule body.rule = true
  | .deleteNat44 body => validSection body.sect = true
  | .stageStatic body => validRule body.rule = true
  | _ => True

/-- The diff of an edit against what a config shows, NTP being at `base`. -/
def Edit.shownDiff (L : LiveConfig) (base : Path) (author : Uuid) : Edit → List NewConfigChange
  | .stageSystem body => diffSystem (L.system base) body author
  | .stageGlobalOptions body => diffGlobalOptions L.globalOptions body author
  | .stageEthernet body => diffEthernet (L.shown ["interfaces", "ethernet"]) body author
  | .stageVlan body => diffVlan (L.shown ["interfaces", "ethernet"]) body author
  | .deleteVlan body => [interfaceChange author .delete (vifBase body.parent body.vlanId)
      s!"Delete VLAN {body.parent}.{body.vlanId.repr}"]
  | .stageNat44 body => diffNat44 (L.shown ["nat"]) body author
  | .deleteNat44 body => [natChange author .delete (ruleBase body.sect body.rule)
      s!"Delete {prettySection body.sect} NAT rule {body.rule.repr}"]
  | .stageStatic body => staticChanges (L.shown ["nat"]) body author
  | .deleteStatic body =>
    [ natChange author .delete (ruleBase "source" body.rule)
        s!"Delete 1-to-1 NAT rule {body.rule.repr} (source)",
      natChange author .delete (ruleBase "destination" body.rule)
        s!"Delete 1-to-1 NAT rule {body.rule.repr} (destination)"]

section Shown

variable {db : Database} {L : LiveConfig} {claims : Claims} {id : Uuid}

/-- What a reply shows of a path. -/
theorem shown_of_reply {path : Path} (h : (L.reply path).succeeded = true) :
    (L.reply path).idx "data" = L.shown path := by
  rw [LiveConfig.shown, L.honest path h]
  rfl

/-- What is not shown is not there. -/
theorem shown_of_not_reply (hanswers : L.Answers) {path : Path}
    (h : ¬(L.reply path).succeeded = true) : L.shown path = .null := by
  rw [LiveConfig.shown]
  cases hsub : L.tree.subtree path with
  | none => rfl
  | some v => exact absurd (hanswers path (by rw [hsub]; rfl)) h

theorem ethernet_shown (hanswers : L.Answers) {eth : Json}
    (h : (interfaceConfig claims id "ethernet").eval (db.lookup L) = .ok eth) :
    eth = L.shown ["interfaces", "ethernet"] := by
  have hidx : (L.shown ["interfaces"]).idx "ethernet" = L.shown ["interfaces", "ethernet"] := by
    rw [Json.idx, get_shown]
    rfl
  rcases of_eval_interfaceConfig h with ⟨hsucceeded, rfl⟩ | ⟨hfailed, rfl⟩
  · rw [shown_of_reply hsucceeded, hidx]
  · rw [← hidx, shown_of_not_reply hanswers hfailed]
    rfl

theorem nat_shown (hanswers : L.Answers) {client : VyosClient} {data : Json}
    (h : (fetchNode client ["nat"]).eval (db.lookup L) = .ok data) : data = L.shown ["nat"] := by
  obtain ⟨resp, hresp, h⟩ := Prog.eval_bind_eq_ok.1 h
  obtain rfl : L.reply ["nat"] = resp := Except.ok.inj hresp
  change Prog.eval _ (if _ then _ else _) = _ at h
  split at h
  · rename_i hsucceeded
    obtain rfl := Except.ok.inj h
    exact shown_of_reply hsucceeded
  · rename_i hfailed
    change Prog.eval _ (if _ then _ else _) = _ at h
    split at h
    · obtain rfl := Except.ok.inj h
      exact (shown_of_not_reply hanswers hfailed).symm
    · change Prog.eval _ (if _ then _ else _) = _ at h
      split at h <;> cases h

theorem globalOptions_shown {client : VyosClient} {live : GlobalOptions}
    (h : (gatherGlobalOptions client).eval (db.lookup L) = .ok live) : live = L.globalOptions := by
  obtain ⟨resp, hresp, h⟩ := Prog.eval_bind_eq_ok.1 h
  obtain rfl : L.reply globalOptionsBase = resp := Except.ok.inj hresp
  change Prog.eval _ (if _ then _ else _) = _ at h
  split at h
  · rename_i hsucceeded
    obtain rfl := Except.ok.inj h
    rw [shown_of_reply hsucceeded, LiveConfig.globalOptions]
  · cases h

theorem system_shown (hanswers : L.Answers) {client : VyosClient} {live : LiveSystem}
    (h : (gather client).eval (db.lookup L) = .ok live) :
    ∃ base, IsNtpBase base ∧ live = L.system base := by
  obtain ⟨resp, hresp, h⟩ := Prog.eval_bind_eq_ok.1 h
  obtain rfl : L.reply ["system"] = resp := Except.ok.inj hresp
  change Prog.eval _ (if _ then _ else _) = _ at h
  split at h
  · rename_i hsucceeded
    rw [shown_of_reply hsucceeded] at h
    change Prog.eval _ (if _ then _ else _) = _ at h
    split at h
    · -- on 1.3 the NTP subtree is part of the system subtree
      rename_i hversion
      have hbase : ntpBase client = ["system", "ntp"] := by rw [ntpBase, hversion]
      obtain rfl := Except.ok.inj h
      refine ⟨["system", "ntp"], Or.inl rfl, ?_⟩
      rw [hbase, LiveConfig.system, get_shown]
      rfl
    · rename_i hversion
      have hbase : ntpBase client = ["service", "ntp"] := by
        rw [ntpBase]
        split
        · rename_i hv
          exact absurd hv hversion
        · rfl
      rw [hbase] at h
      obtain ⟨r, hr, h⟩ := Prog.eval_bind_eq_ok.1 h
      obtain rfl : L.reply ["service", "ntp"] = r := Except.ok.inj hr
      obtain rfl := Except.ok.inj h
      refine ⟨["service", "ntp"], Or.inr rfl, ?_⟩
      split
      · rename_i hntp
        rw [shown_of_reply hntp, LiveConfig.system]
      · rename_i hntp
        rw [← shown_of_not_reply hanswers hntp, LiveConfig.system]
  · cases h

end Shown

/-- **What an accepted edit stages** is its diff against what the config shows. -/
theorem Edit.staged_eq {db : Database} {L : LiveConfig} {claims : Claims} {id : Uuid} {e : Edit}
    {changes : List NewConfigChange} (hanswers : L.Answers)
    (h : e.staged db L claims id = .ok changes) :
    e.Checked ∧ ∃ base, IsNtpBase base ∧ changes = e.shownDiff L base claims.sub := by
  have hsome : ∃ base, IsNtpBase base := ⟨["service", "ntp"], Or.inr rfl⟩
  obtain ⟨base, hbase⟩ := hsome
  cases Edit.stages_of_diff h with
  | stageSystem hlive =>
    obtain ⟨base, hbase, rfl⟩ := system_shown hanswers hlive
    exact ⟨trivial, base, hbase, rfl⟩
  | stageGlobalOptions hlive =>
    obtain rfl := globalOptions_shown hlive
    exact ⟨trivial, base, hbase, rfl⟩
  | stageEthernet hname heth =>
    obtain rfl := ethernet_shown hanswers heth
    exact ⟨hname, base, hbase, rfl⟩
  | stageVlan hrange heth =>
    obtain rfl := ethernet_shown hanswers heth
    exact ⟨hrange, base, hbase, rfl⟩
  | deleteVlan => exact ⟨trivial, base, hbase, rfl⟩
  | stageNat44 hsect hrule hdata =>
    obtain rfl := nat_shown hanswers hdata
    exact ⟨⟨hsect, hrule⟩, base, hbase, rfl⟩
  | deleteNat44 hsect => exact ⟨hsect, base, hbase, rfl⟩
  | stageStatic hrule hdata =>
    obtain rfl := nat_shown hanswers hdata
    exact ⟨hrule, base, hbase, rfl⟩
  | deleteStatic => exact ⟨trivial, base, hbase, rfl⟩

/-! ### Static mappings -/

/-- **A staged static mapping comes back** as that mapping. -/
theorem stageStatic_comes_back {schema : Schema} {db : Database} {L L' : LiveConfig}
    {claims : Claims} {id : Uuid} {body : StaticNatUpdate} {changes : List NewConfigChange}
    (hschema : schema.Knows) (hL : L.Fits) (hL' : L'.Fits) (hanswers : L.Answers)
    (hstays : renumberedFrom body.rule body.originalRule = none)
    (hinternal : trimmed body.internalAddress ≠ none)
    (hexternal : trimmed body.externalAddress ≠ none)
    (hstaged : (Edit.stageStatic body).staged db L claims id = .ok changes)
    (hexec : schema.Executes (changes.map NewConfigChange.command) L L') :
    (splitStatic (L'.shown ["nat"])).staticNat.filter (fun m ↦ m.rule = body.rule.repr) =
        [body.mapping] ∧
      (∀ r ∈ (splitStatic (L'.shown ["nat"])).source, r.rule ≠ body.rule.repr) ∧
      (∀ r ∈ (splitStatic (L'.shown ["nat"])).destination, r.rule ≠ body.rule.repr) ∧
      ∀ key, key ≠ body.rule.repr → SameAt (L.shown ["nat"]) (L'.shown ["nat"]) key := by
  obtain ⟨-, base, -, rfl⟩ := Edit.staged_eq hanswers hstaged
  exact static_comes_back hschema hL hL' hstays hinternal hexternal hexec

/-- A config with the two given rules at number 7. -/
def withRules (source destination : List (String × Json)) : LiveConfig :=
  .ofTree (.obj [("nat",
    .obj [("source", .obj [("rule", .obj [("7", .obj source)])]),
      ("destination", .obj [("rule", .obj [("7", .obj destination), ("8", .obj [])])])])])

/-- A source rule that names its interface bare, and a destination rule that holds nothing. -/
def unpairedRules : LiveConfig :=
  withRules [("outbound-interface", .str "eth0"), ("source", .obj [("address", .str "10.0.0.7")]),
    ("disable", .obj [])] []

def pairedRules : LiveConfig :=
  withRules
    [("outbound-interface", .obj [("name", .str "eth1")]),
      ("source", .obj [("address", .str "10.0.0.7")]),
      ("translation", .obj [("address", .str "203.0.113.7")])]
    [("inbound-interface", .obj [("name", .str "eth1")]),
      ("destination", .obj [("address", .str "203.0.113.7")]),
      ("translation", .obj [("address", .str "10.0.0.7")])]

def pairUpdate : StaticNatUpdate :=
  ⟨7, none, some "eth1 ", some "10.0.0.7", some " 203.0.113.7", true, none⟩

/-- Two rules become a mapping. -/
theorem stageStatic_comes_back_pair :
    (splitStatic (pairedRules.shown ["nat"])).staticNat.filter (fun m ↦ m.rule = "7") =
      [⟨"7", none, some "eth1", some "10.0.0.7", some "203.0.113.7", true⟩] := by
  have hunpaired : unpairedRules.Fits := LiveConfig.fits_of_check (by decide)
  have hpaired : pairedRules.Fits := LiveConfig.fits_of_check (by decide)
  have hstaged :
      (Edit.stageStatic pairUpdate).staged (sampleDatabase []) unpairedRules sampleAdmin 0 =
        .ok (staticChanges (unpairedRules.shown ["nat"]) pairUpdate 1) := rfl
  exact (stageStatic_comes_back deviceSchema_knows hunpaired hpaired (answers_ofTree _) rfl
    (by decide) (by decide) hstaged (Schema.executes_of_check (by decide))).1

end VyosFabric
