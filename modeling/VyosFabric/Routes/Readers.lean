import VyosFabric.Routes.Staging

/-!
# What the config readers make of a reply

Seven places of the backend read a config subtree: the system page, which makes a call of its own
for NTP, the global options, the interface pages, the NAT page, the service pages and the list of
interface groups. A `showConfig` reply is one of three things (`classify`): the data, the device
saying that nothing is configured, or a failure.

Three readers tell the three apart. The system page and the global options take an absent subtree
for a failure; the NTP call and the interface groups take a failure for an absent subtree
(`classifies_iff`).
-/

namespace VyosFabric

open Interaction

/-! ### The readers of the service pages and of the interface groups -/

/-- Fetches one config subtree of a service: the parent is queried and the named child read. -/
def configNode (client : VyosClient) (parent : Path) (child : String) : Handler Json := do
  let resp ← device (.showConfig client parent)
  if resp.succeeded then return (resp.idx "data").idx child
  else
    let err := errorText resp ""
    if saysEmpty err then return .null
    else if err = "" then .fail (.gateway "device returned an error reading services")
    else .fail (.gateway err)

/-- The names of the groups, from the subtree directly or nested under the requested leaf. -/
def groupNames (data : Json) : List String :=
  let node := (data.get "interface-group").getD data
  (node.entries.map Prod.fst).insertionSort (· ≤ ·)

/-- Names of all `firewall group interface-group` definitions, sorted. -/
def getInterfaceGroups (claims : Claims) (id : Uuid) : Handler (List String) := do
  let client ← fetchClient claims id
  let resp ← device (.showConfig client ["firewall", "group", "interface-group"])
  if resp.succeeded then return groupNames (resp.idx "data")
  else return []

/-! ### Replies -/

/-- What a `showConfig` reply says. -/
inductive Reading where
  | data (v : Json)
  | absent
  | failed

/-- Success carries the data, an error text with `empty` in it says that the subtree is absent, and
anything else is a failure. -/
def classify (resp : Json) : Reading :=
  if resp.succeeded then .data (resp.idx "data")
  else if saysEmpty (errorText resp "") then .absent
  else .failed

/-- A place of the backend that reads a config subtree. -/
inductive Reader where
  | interfaces (claims : Claims) (id : Uuid) (kind : String)
  | nat (client : VyosClient) (path : Path)
  | services (client : VyosClient) (parent : Path) (child : String)
  | system (client : VyosClient)
  | ntp (client : VyosClient)
  | globalOptions (client : VyosClient)
  | interfaceGroups (claims : Claims) (id : Uuid)

/-- The rest of `gather` once it has the `system` subtree. -/
def gatherNtp (client : VyosClient) (data : Json) : Handler LiveSystem :=
  let base := ntpBase client
  if client.version = .v1_3 then
    return readSystem data ((data.get "ntp").getD .null) base
  else do
    let r ← device (.showConfig client base)
    return readSystem data (if r.succeeded then r.idx "data" else .null) base

namespace Reader

/-- What the reader answers with. -/
abbrev Result : Reader → Type
  | interfaces .. | nat .. | services .. => Json
  | system _ | ntp _ => LiveSystem
  | globalOptions _ => GlobalOptions
  | interfaceGroups .. => List String

/-- The function of the backend the reader is in. -/
def handler : (reader : Reader) → Handler reader.Result
  | interfaces claims id kind => interfaceConfig claims id kind
  | nat client path => fetchNode client path
  | services client parent child => configNode client parent child
  | system client => gather client
  | ntp client => gather client
  | globalOptions client => gatherGlobalOptions client
  | interfaceGroups claims id => getInterfaceGroups claims id

/-- The subtree it asks for. -/
def path (client : VyosClient) : Reader → Path
  | interfaces .. => ["interfaces"]
  | nat _ path => path
  | services _ parent _ => parent
  | system _ => ["system"]
  | ntp _ => ntpBase client
  | globalOptions _ => globalOptionsBase
  | interfaceGroups .. => ["firewall", "group", "interface-group"]

/-- The rest `q` of the function is what the reader makes of the subtree `v`. -/
def Presents (client : VyosClient) (v : Json) : (reader : Reader) → Handler reader.Result → Prop
  | interfaces _ _ kind, q => q = .ret (v.idx kind)
  | nat .., q => q = .ret v
  | services _ _ child, q => q = .ret (v.idx child)
  | system _, q => q = gatherNtp client v
  | ntp _, q => ∃ data, q = .ret (readSystem data v (ntpBase client))
  | globalOptions _, q => q = .ret (readGlobalOptions v)
  | interfaceGroups .., q => q = .ret (groupNames v)

/-- The rest `q` of the function after the reply is as the reply says: the data is presented, an
absent subtree is presented as nothing, and a failure is returned as a gateway error. -/
def Classifies (reader : Reader) (client : VyosClient) (resp : Json)
    (q : Handler reader.Result) : Prop :=
  match classify resp with
  | .data v => reader.Presents client v q
  | .absent => reader.Presents client .null q
  | .failed => ∃ text, q = .fail (.gateway text)

/-- The reader has a branch for what the reply says. -/
def Heeds : Reader → Reading → Prop
  | system _, .absent | globalOptions _, .absent => False
  | ntp _, .failed | interfaceGroups .., .failed => False
  | _, _ => True

end Reader

/-! ### One read -/

section Reads

variable {α : Type} {client client' : VyosClient} {path path' : Path} {resp : Json}
  {f : Json → Handler α} {h : List Event} {q : Handler α}

/-- A program that has ended follows nothing. -/
theorem follows_ended {p : Handler α} (hdone : p.outcome ≠ none) (hf : Prog.Follows p h q) :
    h = [] ∧ q = p := by
  cases p with
  | ret a => exact Prog.follows_ret.1 hf
  | fail e => exact Prog.follows_fail.1 hf
  | call e k => exact absurd rfl hdone

/-- **A read whose rest has ended** comes to its rest. -/
theorem follows_read (hdone : ∀ v, (f v).outcome ≠ none)
    (hf : Prog.Follows ((device (.showConfig client' path')).bind f)
      (h ++ [⟨.showConfig client path, .ok resp⟩]) q) :
    client' = client ∧ path' = path ∧ q = f resp := by
  rcases follows_device_bind hf with ⟨hnil, -⟩ | ⟨e, hlast, -⟩ | ⟨v, h', hcons, hrest⟩
  · exact absurd hnil (by simp)
  · obtain ⟨-, hx⟩ := List.append_eq_singleton_iff.1 hlast |>.resolve_right (by simp)
    cases List.singleton_inj.1 hx
  · obtain ⟨rfl, rfl⟩ := follows_ended (hdone v) hrest
    obtain ⟨-, hx⟩ := List.append_eq_singleton_iff.1 hcons |>.resolve_right (by simp)
    cases List.singleton_inj.1 hx
    exact ⟨rfl, rfl, rfl⟩

/-- The client is fetched without a look at the device. -/
theorem fetchClient_reads_nothing (claims : Claims) (id : Uuid) :
    (fetchClient claims id).Issues fun s ↦ ∀ client path, s ≠ .showConfig client path := by
  refine Prog.Issues.bind ?_ fun _ ↦ Prog.Issues.bind (sql_issues fun _ _ ↦ by simp) fun row ↦ ?_
  · rw [authorizeRouter]
    split
    · trivial
    · refine Prog.Issues.bind (sql_issues fun _ _ ↦ by simp) fun row ↦ ?_
      cases row <;> trivial
  · cases row with
    | none => trivial
    | some router =>
      dsimp only
      split <;> trivial

theorem follows_fetchClient_bind {claims : Claims} {id : Uuid} {f : VyosClient → Handler α}
    (hf : Prog.Follows ((fetchClient claims id).bind f)
      (h ++ [⟨.showConfig client path, .ok resp⟩]) q) :
    ∃ client' h', Prog.Follows (f client') (h' ++ [⟨.showConfig client path, .ok resp⟩]) q := by
  have hsilent := fetchClient_reads_nothing claims id
  rcases Prog.follows_bind hf with ⟨p', hp, -⟩ | ⟨h₁, h₂, client', heq, hp, hq⟩
  · exact absurd rfl ((hsilent.of_follows hp).1 _ (List.mem_append_right h List.mem_cons_self) _ _)
  · rcases List.eq_nil_or_concat h₂ with rfl | ⟨h', x, rfl⟩
    · rw [List.append_nil] at heq
      subst heq
      exact absurd rfl
        ((hsilent.of_follows hp).1 _ (List.mem_append_right h List.mem_cons_self) _ _)
    · rw [List.concat_eq_append, ← List.append_assoc] at heq
      obtain ⟨-, hx⟩ := List.append_inj' heq rfl
      obtain rfl := List.singleton_inj.1 hx
      exact ⟨client', h', by rwa [List.concat_eq_append] at hq⟩

theorem ntpBase_ne (client : VyosClient) : ntpBase client ≠ ["system"] := by
  rw [ntpBase]
  split <;> decide

theorem follows_gatherNtp {data : Json} {q : Handler LiveSystem}
    (hf : Prog.Follows (gatherNtp client' data) (h ++ [⟨.showConfig client path, .ok resp⟩]) q) :
    client' = client ∧ path = ntpBase client ∧
      q = .ret (readSystem data (if resp.succeeded then resp.idx "data" else .null)
        (ntpBase client)) := by
  rw [gatherNtp] at hf
  split at hf
  · exact absurd (Prog.follows_ret.1 hf).1 (by simp)
  · obtain ⟨rfl, rfl, rfl⟩ := follows_read (fun v ↦ by simp) hf
    exact ⟨rfl, rfl, rfl⟩

/-- `gather` is at its first read or at its second. -/
theorem follows_gather {q : Handler LiveSystem}
    (hf : Prog.Follows (gather client') (h ++ [⟨.showConfig client path, .ok resp⟩]) q) :
    client' = client ∧
      (path = ["system"] ∧ q = (if resp.succeeded then gatherNtp client (resp.idx "data")
          else .fail (.gateway (errorText resp "device returned an error reading system config"))) ∨
        path = ntpBase client ∧ ∃ data, q = .ret (readSystem data
          (if resp.succeeded then resp.idx "data" else .null) (ntpBase client))) := by
  rcases follows_device_bind hf with ⟨hnil, -⟩ | ⟨e, hlast, -⟩ | ⟨v, h', hcons, hrest⟩
  · exact absurd hnil (by simp)
  · obtain ⟨-, hx⟩ := List.append_eq_singleton_iff.1 hlast |>.resolve_right (by simp)
    cases List.singleton_inj.1 hx
  · rcases List.eq_nil_or_concat h' with rfl | ⟨h', x, rfl⟩
    · obtain ⟨-, hx⟩ := List.append_eq_singleton_iff.1 hcons |>.resolve_right (by simp)
      cases List.singleton_inj.1 hx
      obtain rfl := Prog.follows_nil.1 hrest
      exact ⟨rfl, Or.inl ⟨rfl, rfl⟩⟩
    · -- the exchange is the last of the rest, which reads NTP if it reads anything
      rw [List.concat_eq_append] at hcons hrest
      obtain ⟨-, hx⟩ := List.append_inj' (hcons.trans (List.cons_append ..).symm) rfl
      obtain rfl := List.singleton_inj.1 hx
      change Prog.Follows (if v.succeeded then gatherNtp client' (v.idx "data") else _) _ _ at hrest
      split at hrest
      · obtain ⟨rfl, rfl, rfl⟩ := follows_gatherNtp hrest
        exact ⟨rfl, Or.inr ⟨rfl, _, rfl⟩⟩
      · exact absurd (Prog.follows_fail.1 hrest).1 (by simp)

end Reads

/-! ### Which readers tell the three apart -/

theorem classify_cases (resp : Json) :
    resp.succeeded = true ∧ classify resp = .data (resp.idx "data") ∨
      resp.succeeded = false ∧ saysEmpty (errorText resp "") = true ∧ classify resp = .absent ∨
      resp.succeeded = false ∧ saysEmpty (errorText resp "") = false ∧ classify resp = .failed := by
  rw [classify]
  cases resp.succeeded with
  | true => exact Or.inl ⟨rfl, rfl⟩
  | false =>
    cases saysEmpty (errorText resp "") with
    | true => exact Or.inr (Or.inl ⟨rfl, rfl, rfl⟩)
    | false => exact Or.inr (Or.inr ⟨rfl, rfl, rfl⟩)

/-- The failure branch that three readers share. -/
theorem fail_eq_gateway {α : Type} (err msg : String) : ∃ text,
    (if err = "" then .fail (.gateway msg) else .fail (.gateway err) : Handler α) =
      .fail (.gateway text) := by
  split
  · exact ⟨msg, rfl⟩
  · exact ⟨err, rfl⟩

/-- **A reader treats a reply as it should** exactly if it has a branch for it. -/
theorem classifies_iff {reader : Reader} {client : VyosClient} {resp : Json} {h : List Event}
    {q : Handler reader.Result}
    (hf : Prog.Follows reader.handler
      (h ++ [⟨.showConfig client (reader.path client), .ok resp⟩]) q) :
    reader.Classifies client resp q ↔ reader.Heeds (classify resp) := by
  rw [Reader.Classifies]
  cases reader with
  | interfaces claims id kind =>
    obtain ⟨client', h', hf⟩ := follows_fetchClient_bind hf
    obtain ⟨-, -, rfl⟩ := follows_read (fun v ↦ by dsimp only; split <;> [skip; split] <;> simp) hf
    rcases classify_cases resp with ⟨hs, hc⟩ | ⟨hs, he, hc⟩ | ⟨hs, he, hc⟩
    · simp [hc, hs, Reader.Presents, Reader.Heeds]
    · simp [hc, hs, he, Reader.Presents, Reader.Heeds, Json.idx, Json.get]
    · simp [hc, hs, he, Reader.Heeds]
  | nat client' path =>
    obtain ⟨-, -, rfl⟩ := follows_read
      (fun v ↦ by dsimp only; split <;> [skip; split <;> [skip; split]] <;> simp) hf
    rcases classify_cases resp with ⟨hs, hc⟩ | ⟨hs, he, hc⟩ | ⟨hs, he, hc⟩
    · simp [hc, hs, Reader.Presents, Reader.Heeds]
    · simp [hc, hs, he, Reader.Presents, Reader.Heeds]
    · simp [hc, hs, he, Reader.Heeds, fail_eq_gateway]
  | services client' parent child =>
    obtain ⟨-, -, rfl⟩ := follows_read
      (fun v ↦ by dsimp only; split <;> [skip; split <;> [skip; split]] <;> simp) hf
    rcases classify_cases resp with ⟨hs, hc⟩ | ⟨hs, he, hc⟩ | ⟨hs, he, hc⟩
    · simp [hc, hs, Reader.Presents, Reader.Heeds]
    · simp [hc, hs, he, Reader.Presents, Reader.Heeds, Json.idx, Json.get]
    · simp [hc, hs, he, Reader.Heeds, fail_eq_gateway]
  | system client' =>
    obtain ⟨rfl, ⟨-, rfl⟩ | ⟨hpath, -⟩⟩ := follows_gather hf
    · rcases classify_cases resp with ⟨hs, hc⟩ | ⟨hs, he, hc⟩ | ⟨hs, he, hc⟩
      · simp [hc, hs, Reader.Presents, Reader.Heeds]
      · -- the device says that nothing is configured, and the page fails
        have hne : ∀ err, (.fail err : Handler LiveSystem) ≠ gatherNtp client' .null := by
          intro err
          rw [gatherNtp]
          split
          · simp
          · exact fun heq ↦ by cases heq
        simp [hc, hs, Reader.Presents, Reader.Heeds, hne]
      · simp [hc, hs, Reader.Heeds]
    · exact absurd hpath.symm (ntpBase_ne client')
  | ntp client' =>
    obtain ⟨rfl, ⟨hpath, -⟩ | ⟨-, data, rfl⟩⟩ := follows_gather hf
    · exact absurd hpath (ntpBase_ne client')
    · rcases classify_cases resp with ⟨hs, hc⟩ | ⟨hs, he, hc⟩ | ⟨hs, he, hc⟩
      · simp only [hc, hs, Reader.Presents, Reader.Heeds, iff_true]
        exact ⟨data, rfl⟩
      · simp only [hc, hs, Reader.Presents, Reader.Heeds, iff_true]
        exact ⟨data, rfl⟩
      · simp [hc, Reader.Heeds]
  | globalOptions client' =>
    obtain ⟨-, -, rfl⟩ := follows_read (fun v ↦ by split <;> simp) hf
    rcases classify_cases resp with ⟨hs, hc⟩ | ⟨hs, he, hc⟩ | ⟨hs, he, hc⟩
    · simp [hc, hs, Reader.Presents, Reader.Heeds]
    · simp [hc, hs, Reader.Presents, Reader.Heeds]
    · simp [hc, hs, Reader.Heeds]
  | interfaceGroups claims id =>
    obtain ⟨client', h', hf⟩ := follows_fetchClient_bind hf
    obtain ⟨-, -, rfl⟩ := follows_read (fun v ↦ by split <;> simp) hf
    rcases classify_cases resp with ⟨hs, hc⟩ | ⟨hs, he, hc⟩ | ⟨hs, he, hc⟩
    · simp [hc, hs, Reader.Presents, Reader.Heeds]
    · simp [hc, hs, Reader.Presents, Reader.Heeds, groupNames, Json.get, Json.entries]
    · simp [hc, hs, Reader.Heeds]

/-- A device of version 1.4. -/
def readerClient : VyosClient := VyosClient.new "https" "192.0.2.1" none "key" "1.4"

/-- What a device says where nothing is configured. -/
def emptyReply : Json :=
  .obj [("success", .bool false), ("error", .str "Configuration under specified path is empty")]

/-- What a device says when it fails. -/
def crashReply : Json :=
  .obj [("success", .bool false), ("error", .str "An internal error occurred")]

def systemReply : Json :=
  .obj [("success", .bool true), ("data", .obj [("host-name", .str "r1")])]

/-- The exchanges of a system page whose NTP call is answered with `resp`. -/
def ntpExchanges (resp : Json) : List Event :=
  [⟨.showConfig readerClient ["system"], .ok systemReply⟩] ++
    [⟨.showConfig readerClient ["service", "ntp"], .ok resp⟩]

/-- An empty NTP subtree is read as no NTP. -/
theorem classifies_ntp_empty :
    (Reader.ntp readerClient).Classifies readerClient emptyReply
      (.ret (readSystem (systemReply.idx "data") .null ["service", "ntp"])) := by
  have hf : Prog.Follows (Reader.ntp readerClient).handler (ntpExchanges emptyReply)
      (.ret (readSystem (systemReply.idx "data") .null ["service", "ntp"])) :=
    .call _ (.call _ (.nil _))
  exact (classifies_iff hf).2 trivial

/-- The global options of a device without a firewall are an error, and a failed NTP call is read as
no NTP. -/
theorem not_classifies :
    (∃ q, Prog.Follows (Reader.globalOptions readerClient).handler
        [⟨.showConfig readerClient globalOptionsBase, .ok emptyReply⟩] q ∧
      classify emptyReply = .absent ∧
      ¬(Reader.globalOptions readerClient).Classifies readerClient emptyReply q) ∧
    ∃ q, Prog.Follows (Reader.ntp readerClient).handler (ntpExchanges crashReply) q ∧
      classify crashReply = .failed ∧
      ¬(Reader.ntp readerClient).Classifies readerClient crashReply q := by
  refine ⟨⟨_, .call _ (.nil _), by rfl, fun h ↦ ?_⟩, _, .call _ (.call _ (.nil _)), by rfl,
    fun h ↦ ?_⟩
  · have habsent : classify emptyReply = .absent := by rfl
    rw [Reader.Classifies, habsent] at h
    cases h
  · have hfailed : classify crashReply = .failed := by rfl
    rw [Reader.Classifies, hfailed] at h
    obtain ⟨text, h⟩ := h
    cases h

end VyosFabric
