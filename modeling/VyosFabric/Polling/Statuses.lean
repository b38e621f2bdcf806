import VyosFabric.Access.Isolation
import VyosFabric.Polling.Poller

/-!
# Where the status of a router comes from

A run of the server is its trace. A task follows its own exchanges in it (`task_of_trace`), so each
status that is written was found by a probe of the same round (`write_traced`); a row that is left
alone keeps its status and its address (`row_of_trace`). Together they say what the status of a
router means, whatever the requests did meanwhile (`status_traced`), and what a whole round comes to
(`round_complete`).
-/

namespace VyosFabric

open Interaction

variable {Pid : Type} [DecidableEq Pid] {A : Argon2} {s s' : Server Pid}
  {acts : List (Server.Act Pid)}

/-! ### The exchanges of one task -/

/-- The exchange of task `j` that an act is. -/
def Server.Act.ofTask (j : ℕ) : Server.Act Pid → Option PollEvent
  | .task i x => if i = j then some x else none
  | _ => none

/-- The exchanges of task `j`. -/
def exchanges (j : ℕ) (acts : List (Server.Act Pid)) : List PollEvent :=
  acts.filterMap (Server.Act.ofTask j)

omit [DecidableEq Pid] in
theorem mem_exchanges {j : ℕ} {x : PollEvent} : x ∈ exchanges j acts ↔ .task j x ∈ acts := by
  rw [exchanges, List.mem_filterMap]
  constructor
  · rintro ⟨a, ha, hx⟩
    cases a with
    | serve | tick => cases hx
    | task i y =>
      obtain ⟨rfl, hxy⟩ := (Option.ite_none_right_eq_some).1 hx
      obtain rfl := Option.some.inj hxy
      exact ha
  · exact fun h ↦ ⟨_, h, if_pos rfl⟩

/-- No round begins. -/
def WithinRound (acts : List (Server.Act Pid)) : Prop := ∀ v, .tick v ∉ acts

omit [DecidableEq Pid] in
theorem withinRound_append {acts' : List (Server.Act Pid)} :
    WithinRound (acts ++ acts') ↔ WithinRound acts ∧ WithinRound acts' := by
  simp only [WithinRound, List.mem_append, not_or, forall_and]

/-- **A task follows its exchanges.** -/
theorem task_of_trace (h : Trace (Server.Step A) s acts s') (hround : WithinRound acts) {j : ℕ}
    {p : PollTask Unit} (hp : s.round[j]? = some p) :
    ∃ q, s'.round[j]? = some q ∧ Prog.Follows p (exchanges j acts) q := by
  induction h generalizing p with
  | nil s => exact ⟨p, hp, Prog.Follows.nil p⟩
  | @cons s m s' a acts ha _ ih =>
    have hrest : WithinRound acts := fun v hv ↦ hround v (List.mem_cons_of_mem _ hv)
    cases ha with
    | serve a _ => exact ih hrest hp
    | tick v => exact absurd List.mem_cons_self (hround v)
    | @task i e k v w hi _ =>
      by_cases hij : i = j
      · -- the task that moved follows one exchange more
        subst hij
        obtain rfl : p = .call e k := Option.some.inj (hp.symm.trans hi)
        obtain ⟨hlt, -⟩ := List.getElem?_eq_some_iff.1 hi
        obtain ⟨q, hq, hf⟩ := ih hrest (List.getElem?_set_self hlt)
        refine ⟨q, hq, ?_⟩
        rw [exchanges, List.filterMap_cons, Server.Act.ofTask, if_pos rfl]
        exact hf.call v
      · obtain ⟨q, hq, hf⟩ := ih hrest ((List.getElem?_set_ne hij).trans hp)
        refine ⟨q, hq, ?_⟩
        rw [exchanges, List.filterMap_cons, Server.Act.ofTask, if_neg hij]
        exact hf

/-- A task there was at the beginning. -/
theorem origin_of_task (h : Trace (Server.Step A) s acts s') (hround : WithinRound acts) {j : ℕ}
    {q : PollTask Unit} (hq : s'.round[j]? = some q) :
    ∃ p, s.round[j]? = some p ∧ Prog.Follows p (exchanges j acts) q := by
  have hlength : s'.round.length = s.round.length := by
    refine h.from_end (P := fun acts m ↦ WithinRound acts → m.round.length = s.round.length)
      (fun _ ↦ rfl) (fun tr m a m' _ ha ih hwithin ↦ ?_) hround
    obtain ⟨htr, hlast⟩ := withinRound_append.1 hwithin
    cases ha with
    | serve => exact ih htr
    | tick v => exact absurd List.mem_cons_self (hlast v)
    | task => exact (List.length_set ..).trans (ih htr)
  obtain ⟨hlt, -⟩ := List.getElem?_eq_some_iff.1 hq
  have hp := List.getElem?_eq_getElem (hlength ▸ hlt)
  obtain ⟨q', hq', hf⟩ := task_of_trace h hround hp
  obtain rfl : q' = q := Option.some.inj (hq'.symm.trans hq)
  exact ⟨_, hp, hf⟩

/-! ### The last round -/

/-- Where something occurs, it occurs last somewhere. -/
theorem last_cases {α : Type} (p : α → Prop) (l : List α) :
    (∀ a ∈ l, ¬p a) ∨ ∃ l₁ a l₂, l = l₁ ++ a :: l₂ ∧ p a ∧ ∀ b ∈ l₂, ¬p b := by
  induction l with
  | nil => exact Or.inl fun a ha ↦ by cases ha
  | cons x l ih =>
    rcases ih with hnone | ⟨l₁, a, l₂, rfl, ha, hrest⟩
    · by_cases hx : p x
      · exact Or.inr ⟨[], x, l, rfl, hx, hnone⟩
      · exact Or.inl (List.forall_mem_cons.2 ⟨hx, hnone⟩)
    · exact Or.inr ⟨x :: l₁, a, l₂, rfl, ha, hrest⟩

/-- **The tasks of a round** are those of the devices its query answered with. -/
theorem exists_device_of_task {w : Fabric} (h : Trace (Server.Step A) (.start w) acts s) {j : ℕ}
    {q : PollTask Unit} (hq : s.round[j]? = some q) :
    ∃ a devices b m device, acts = a ++ .tick (.ok devices) :: b ∧ WithinRound b ∧
      Trace (Server.Step A) (.start w) a m ∧
      Trace (Server.Step A) m (.tick (.ok devices) :: b) s ∧
      m.service.state.poll .selectDevices (.ok devices) = some m.service.state ∧
      devices[j]? = some device ∧ Prog.Follows (pollDevice device) (exchanges j b) q := by
  rcases last_cases (fun a ↦ ∃ v, a = .tick v) acts with hnone | ⟨a, _, b, rfl, ⟨v, rfl⟩, hlast⟩
  · obtain ⟨p, hp, -⟩ := origin_of_task h (fun v hv ↦ hnone _ hv ⟨v, rfl⟩) hq
    cases hp
  · have hround : WithinRound b := fun v hv ↦ hlast _ hv ⟨v, rfl⟩
    obtain ⟨m, hm, hrest⟩ := trace_append.1 h
    obtain ⟨m', htick, hb⟩ := trace_cons.1 hrest
    obtain ⟨p, hp, hf⟩ := origin_of_task hb hround hq
    cases htick with
    | @tick v w' hended hpoll =>
      cases v with
      | error e => cases hp
      | ok devices =>
        change (devices.map pollDevice)[j]? = some p at hp
        rw [List.getElem?_map] at hp
        obtain ⟨device, hdevice, rfl⟩ := Option.map_eq_some_iff.1 hp
        obtain ⟨hrows, rfl⟩ := of_guarded hpoll
        exact ⟨a, devices, b, m, device, rfl, hround, hm, hrest, if_pos hrows, hdevice, hf⟩

/-! ### Rows that are left alone -/

/-- The status of the router is not written. -/
def Unwritten (id : Uuid) (acts : List (Server.Act Pid)) : Prop :=
  ∀ j status now, .task j ⟨.setStatus status id, .ok now⟩ ∉ acts

/-- The router is not edited. -/
def Unedited (id : Uuid) (acts : List (Server.Act Pid)) : Prop :=
  ∀ i body row, .serve (.exchange i ⟨.updateRouter id body, .ok (some row)⟩) ∉ acts

omit [DecidableEq Pid] in
theorem unwritten_append {id : Uuid} {acts' : List (Server.Act Pid)} :
    Unwritten id (acts ++ acts') ↔ Unwritten id acts ∧ Unwritten id acts' := by
  simp only [Unwritten, List.mem_append, not_or, forall_and]

omit [DecidableEq Pid] in
theorem unedited_append {id : Uuid} {acts' : List (Server.Act Pid)} :
    Unedited id (acts ++ acts') ↔ Unedited id acts ∧ Unedited id acts' := by
  simp only [Unedited, List.mem_append, not_or, forall_and]

/-- The row was there, with its status and its address as far as they were kept, or is new. -/
def Stems (w : Fabric) (statusKept addressKept : Prop) (r' : RouterRow) : Prop :=
  (∃ r ∈ w.routers, r.id = r'.id ∧ (statusKept → r'.status = r.status) ∧
      (addressKept → r'.pollRow = r.pollRow)) ∨
    w.nextId ≤ r'.id ∧ (statusKept → r'.status = .off)

section Stems

variable {w w' : Fabric} {r' : RouterRow} {p p' q q' : Prop}

theorem Stems.mono (hp : p' → p) (hq : q' → q) (h : Stems w p q r') : Stems w p' q' r' := by
  rcases h with ⟨r, hmem, hid, hstatus, hrow⟩ | ⟨hnew, hstatus⟩
  · exact Or.inl ⟨r, hmem, hid, hstatus ∘ hp, hrow ∘ hq⟩
  · exact Or.inr ⟨hnew, hstatus ∘ hp⟩

theorem stems_of_mem (h : r' ∈ w.routers) : Stems w p q r' :=
  Or.inl ⟨r', h, rfl, fun _ ↦ rfl, fun _ ↦ rfl⟩

/-- A statement of a request leaves the status of a router, and its address unless it updates it. -/
theorem stems_of_exec {e : FabricStatement} {v : e.Reply} (h : w.exec A e v = some w')
    (hr : r' ∈ w'.routers) :
    Stems w True
      (∀ body row, (⟨e, v⟩ : FabricEvent) ≠ ⟨.updateRouter r'.id body, .ok (some row)⟩) r' := by
  rw [(exec_around h).2.2.1] at hr
  cases v with
  | error err => cases e <;> exact stems_of_mem hr
  | ok x =>
    cases e with
    | insertRouter body =>
      rcases List.mem_append.1 hr with hr | hr
      · exact stems_of_mem hr
      · obtain rfl := List.mem_singleton.1 hr
        obtain ⟨⟨hrow, -⟩, -⟩ := of_guarded h
        exact Or.inr ⟨(congrArg RouterRow.id hrow).ge, fun _ ↦ congrArg RouterRow.status hrow⟩
    | updateRouter id body =>
      cases x with
      | none => exact stems_of_mem hr
      | some row =>
        obtain ⟨r, hmem, rfl⟩ := List.mem_map.1 hr
        by_cases hid : r.id = id
        · subst hid
          rw [if_pos rfl]
          exact Or.inl ⟨r, hmem, rfl, fun _ ↦ rfl, fun hne ↦ absurd rfl (hne body row)⟩
        · rw [if_neg hid]
          exact stems_of_mem hmem
    | deleteRouter | deleteSite => exact stems_of_mem (List.mem_of_mem_filter hr)
    | _ => exact stems_of_mem hr

/-- A statement of the poller leaves the address of a router, and its status unless it writes it. -/
theorem stems_of_poll {e : PollStatement} {v : e.Reply} (h : w.poll e v = some w')
    (hr : r' ∈ w'.routers) :
    Stems w (∀ status now, (⟨e, v⟩ : PollEvent) ≠ ⟨.setStatus status r'.id, .ok now⟩) True r' := by
  cases v with
  | error err =>
    obtain rfl : w = w' := by cases e <;> exact Option.some.inj h
    exact stems_of_mem hr
  | ok x =>
    cases e with
    | selectDevices =>
      obtain ⟨-, rfl⟩ := of_guarded h
      exact stems_of_mem hr
    | showConfig =>
      obtain rfl := Option.some.inj h
      exact stems_of_mem hr
    | setStatus status id =>
      obtain rfl := Option.some.inj h
      obtain ⟨r, hmem, rfl⟩ := List.mem_map.1 hr
      by_cases hid : r.id = id
      · subst hid
        rw [if_pos rfl]
        exact Or.inl ⟨r, hmem, rfl, fun hne ↦ absurd rfl (hne status x), fun _ ↦ rfl⟩
      · rw [if_neg hid]
        exact stems_of_mem hmem

/-- The poller draws no identifiers. -/
theorem nextId_of_poll {e : PollStatement} {v : e.Reply} (h : w.poll e v = some w') :
    w'.nextId = w.nextId := by
  cases v with
  | error err =>
    obtain rfl : w = w' := by cases e <;> exact Option.some.inj h
    rfl
  | ok x =>
    cases e with
    | selectDevices =>
      obtain ⟨-, rfl⟩ := of_guarded h
      rfl
    | showConfig | setStatus =>
      obtain rfl := Option.some.inj h
      rfl

theorem nextId_le_of_exec {e : FabricStatement} {v : e.Reply} (h : w.exec A e v = some w') :
    w.nextId ≤ w'.nextId := by
  rw [(exec_around h).2.2.2]
  cases v with
  | error err => cases e <;> exact le_rfl
  | ok x =>
    cases e with
    | insertUser | insertSite | insertRouter => exact Nat.le_succ _
    | _ => exact le_rfl

end Stems

/-- The supply of identifiers only grows. -/
theorem nextId_le_of_trace (h : Trace (Server.Step A) s acts s') :
    s.service.state.nextId ≤ s'.service.state.nextId := by
  refine h.invariant (P := fun m ↦ s.service.state.nextId ≤ m.service.state.nextId)
    (fun a _ m m' ha hm ↦ hm.trans ?_) le_rfl
  cases ha with
  | serve a hs =>
    cases hs with
    | enter | finish => exact le_rfl
    | exchange i v hcall hexec => exact nextId_le_of_exec hexec
  | tick v hended hpoll => exact (nextId_of_poll hpoll).ge
  | task j v hcall hpoll => exact (nextId_of_poll hpoll).ge

/-- **What one act says of a row.** -/
theorem stems_of_step {a : Server.Act Pid} (h : Server.Step A s a s') {r' : RouterRow}
    (hr : r' ∈ s'.service.state.routers) :
    Stems s.service.state (Unwritten r'.id [a]) (Unedited r'.id [a]) r' := by
  cases h with
  | serve a hs =>
    cases hs with
    | enter | finish => exact stems_of_mem hr
    | exchange i v hcall hexec =>
      refine (stems_of_exec hexec hr).mono (fun _ ↦ trivial) fun hun body row heq ↦ ?_
      exact hun i body row (List.mem_singleton.2 (by rw [heq]))
  | tick v hended hpoll =>
    refine (stems_of_poll hpoll hr).mono (fun _ status now heq ↦ ?_) fun _ ↦ trivial
    cases heq
  | task j v hcall hpoll =>
    refine (stems_of_poll hpoll hr).mono (fun hun status now heq ↦ ?_) fun _ ↦ trivial
    exact hun j status now (List.mem_singleton.2 (by rw [heq]))

/-- **What a trace says of a row.** -/
theorem stems_of_trace (h : Trace (Server.Step A) s acts s') {r' : RouterRow}
    (hr : r' ∈ s'.service.state.routers) :
    Stems s.service.state (Unwritten r'.id acts) (Unedited r'.id acts) r' := by
  refine h.from_end (P := fun acts (m : Server Pid) ↦ ∀ r' ∈ m.service.state.routers,
      Stems s.service.state (Unwritten r'.id acts) (Unedited r'.id acts) r')
    (fun r' hr ↦ stems_of_mem hr) (fun tr m a m' htr ha ih r' hr ↦ ?_) r' hr
  rcases stems_of_step ha hr with ⟨r, hmem, hid, hstatus, hrow⟩ | ⟨hnew, hstatus⟩
  · rw [← hid]
    rcases ih r hmem with ⟨r₀, hmem₀, hid₀, hstatus₀, hrow₀⟩ | ⟨hnew₀, hstatus₀⟩
    · refine Or.inl ⟨r₀, hmem₀, hid₀.trans hid, fun hun ↦ ?_, fun hun ↦ ?_⟩
      · obtain ⟨hfirst, hlast⟩ := unwritten_append.1 hun
        rw [hstatus (hid ▸ hlast), hstatus₀ hfirst]
      · obtain ⟨hfirst, hlast⟩ := unedited_append.1 hun
        rw [hrow (hid ▸ hlast), hrow₀ hfirst]
    · refine Or.inr ⟨hid ▸ hnew₀, fun hun ↦ ?_⟩
      obtain ⟨hfirst, hlast⟩ := unwritten_append.1 hun
      rw [hstatus (hid ▸ hlast), hstatus₀ hfirst]
  · exact Or.inr ⟨(nextId_le_of_trace htr).trans hnew,
      fun hun ↦ hstatus (unwritten_append.1 hun).2⟩

/-! ### Where a status comes from -/

/-- Keys stay keys. -/
theorem keyed_of_poll {e : PollStatement} {v : e.Reply} {w w' : Fabric} (h : w.poll e v = some w')
    (hw : w.Keyed) : w'.Keyed := by
  cases v with
  | error err =>
    obtain rfl : w = w' := by cases e <;> exact Option.some.inj h
    exact hw
  | ok x =>
    cases e with
    | selectDevices =>
      obtain ⟨-, rfl⟩ := of_guarded h
      exact hw
    | showConfig =>
      obtain rfl := Option.some.inj h
      exact hw
    | setStatus status id =>
      obtain rfl := Option.some.inj h
      exact { hw with routers := hw.routers.map (ite_key fun _ ↦ rfl) }

theorem keyed_of_server_trace (h : Trace (Server.Step A) s acts s')
    (hs : s.service.state.Keyed) : s'.service.state.Keyed := by
  refine h.invariant (P := fun m ↦ m.service.state.Keyed) (fun a _ m m' ha hm ↦ ?_) hs
  cases ha with
  | serve a hs =>
    cases hs with
    | enter | finish => exact hm
    | exchange i v hcall hexec => exact exec_keyed hexec hm
  | tick v hended hpoll => exact keyed_of_poll hpoll hm
  | task j v hcall hpoll => exact keyed_of_poll hpoll hm

/-- **A status is written by a task that found it**: a round read the router, its task probed the
client of what was read, and this is the verdict. -/
theorem write_traced {w : Fabric} (h : Trace (Server.Step A) (.start w) acts s) {j : ℕ}
    {status : RouterStatus} {id : Uuid}
    {k : (PollStatement.setStatus status id).Reply → PollTask Unit}
    (hcall : s.round[j]? = some (.call (.setStatus status id) k)) :
    ∃ a devices b client v c m r,
      acts = a ++ .tick (.ok devices) :: (b ++ .task j ⟨.showConfig client probePath, v⟩ :: c) ∧
        WithinRound (b ++ c) ∧ status = verdict v ∧ Trace (Server.Step A) (.start w) a m ∧
        Trace (Server.Step A) m
          (.tick (.ok devices) :: (b ++ .task j ⟨.showConfig client probePath, v⟩ :: c)) s ∧
        r ∈ m.service.state.routers ∧ r.id = id ∧ r.pollRow.client = some client := by
  obtain ⟨a, devices, b, m, device, rfl, hround, hm, hrest, hpoll, hdevice, hf⟩ :=
    exists_device_of_task h hcall
  -- the device is a row of the table
  have hmem := (of_guarded hpoll).1.mem_iff.1 (List.mem_of_getElem? hdevice)
  obtain ⟨r, hr, rfl⟩ := List.mem_map.1 hmem
  obtain ⟨hr, hpolled⟩ := List.mem_filter.1 hr
  obtain ⟨key, -, hclient⟩ := client_of_isPolled hpolled
  rcases follows_pollDevice hclient hf with hnil | ⟨v, ⟨hx, hq⟩ | ⟨u, -, hq⟩⟩
  · -- it has not been probed
    rw [hnil, Prog.follows_nil, pollDevice, checkDevice, hclient] at hf
    cases hf
  · have hv : Server.Act.task j ⟨.showConfig _ probePath, v⟩ ∈ b :=
      mem_exchanges.1 (hx ▸ List.mem_singleton_self _)
    obtain ⟨b₁, b₂, rfl⟩ := List.append_of_mem hv
    obtain ⟨hfirst, hlast⟩ := withinRound_append.1 hround
    obtain ⟨hstatus, hid⟩ := PollStatement.setStatus.inj (Prog.call.inj hq).1
    exact ⟨a, devices, b₁, _, v, b₂, m, r, rfl,
      withinRound_append.2 ⟨hfirst, fun v hv ↦ hlast v (List.mem_cons_of_mem _ hv)⟩, hstatus, hm,
      hrest, hr, hid.symm, hclient⟩
  · cases hq

/-- **The last status written** is the one a router has from then on. -/
theorem status_of_write {j : ℕ} {status : RouterStatus} {id : Uuid} {now : Timestamp}
    (h : Trace (Server.Step A) s (.task j ⟨.setStatus status id, .ok now⟩ :: acts) s')
    (hun : Unwritten id acts) {r : RouterRow} (hr : r ∈ s'.service.state.routers) (hid : r.id = id)
    (hold : r.id < s.service.state.nextId) : r.status = status := by
  obtain ⟨m, hwrite, hrest⟩ := trace_cons.1 h
  subst hid
  have hnext := nextId_le_of_trace (Trace.cons hwrite (Trace.nil m))
  cases hwrite with
  | task _ _ hcall hpoll =>
    rcases stems_of_trace hrest hr with ⟨r₂, hmem, hid, hstatus, -⟩ | ⟨hnew, -⟩
    · rw [hstatus hun]
      obtain rfl := Option.some.inj hpoll
      obtain ⟨r₁, -, rfl⟩ := List.mem_map.1 hmem
      by_cases hr₁ : r₁.id = r.id
      · rw [if_pos hr₁]
        rfl
      · rw [if_neg hr₁] at hid
        exact absurd hid hr₁
    · exact absurd (hnext.trans hnew) hold.not_ge

/-- **What the status of a router means.** Take any run of the server from tables with proper keys,
and any router at its end. Either no status of it was written: then it is `off` if the run created
the router, whose id is one the tables had not drawn yet, and else the one the run began with. Or
the last status written of it is the verdict of a probe of the same round, sent to the address and
with the key that the router had when the round began, and with those it still has if it was not
edited since. -/
theorem status_traced {w : Fabric} (hw : w.Keyed) (h : Trace (Server.Step A) (.start w) acts s)
    {r : RouterRow} (hr : r ∈ s.service.state.routers) :
    (Unwritten r.id acts ∧ (w.nextId ≤ r.id ∧ r.status = .off ∨
        ∃ r₀ ∈ w.routers, r₀.id = r.id ∧ r.status = r₀.status)) ∨
      ∃ a devices b j client v c now t,
        acts = a ++ .tick (.ok devices) :: (b ++ .task j ⟨.showConfig client probePath, v⟩ ::
          (c ++ .task j ⟨.setStatus (verdict v) r.id, .ok now⟩ :: t)) ∧
        WithinRound (b ++ c) ∧ Unwritten r.id t ∧ r.status = verdict v ∧
        (∃ m r₀, Trace (Server.Step A) (.start w) a m ∧ r₀ ∈ m.service.state.routers ∧
          r₀.id = r.id ∧ r₀.pollRow.client = some client) ∧
        (Unedited r.id (b ++ c ++ t) → r.pollRow.client = some client) := by
  rcases last_cases
      (fun a ↦ ∃ j status now, a = .task j ⟨.setStatus status r.id, .ok now⟩) acts with
    hnone | ⟨x, _, t, rfl, ⟨j, status, now, rfl⟩, hlast⟩
  · -- never written
    have hun : Unwritten r.id acts := fun j status now hmem ↦ hnone _ hmem ⟨j, status, now, rfl⟩
    refine Or.inl ⟨hun, ?_⟩
    rcases stems_of_trace h hr with ⟨r₀, hmem, hid, hstatus, -⟩ | ⟨hnew, hstatus⟩
    · exact Or.inr ⟨r₀, hmem, hid, hstatus hun⟩
    · exact Or.inl ⟨hnew, hstatus hun⟩
  · have hun : Unwritten r.id t := fun j status now hmem ↦ hlast _ hmem ⟨j, status, now, rfl⟩
    obtain ⟨m₁, hm₁, hrest⟩ := trace_append.1 h
    obtain ⟨m₂, hwrite, -⟩ := trace_cons.1 hrest
    cases hwrite with
    | task _ _ hcall hpoll =>
      obtain ⟨a, devices, b, client, v, c, m, r₀, rfl, hround, rfl, hm, hfrom, hr₀, hid₀,
        hclient⟩ := write_traced hm₁ hcall
      -- the row that was read is still there
      have hkeyed : m.service.state.Keyed := keyed_of_server_trace hm hw
      have hold : r.id < m.service.state.nextId := hid₀ ▸ hkeyed.routers.lt r₀ hr₀
      refine Or.inr ⟨a, devices, b, j, client, v, c, now, t, by simp, hround, hun,
        status_of_write hrest hun hr rfl (hold.trans_le (nextId_le_of_trace hfrom)),
        ⟨m, r₀, hm, hr₀, hid₀, hclient⟩, fun hun' ↦ ?_⟩
      rcases stems_of_trace (trace_append.2 ⟨m₁, hfrom, hrest⟩) hr with
        ⟨r₁, hmem, hid, -, hrow⟩ | ⟨hnew, -⟩
      · obtain rfl : r₁ = r₀ :=
          List.inj_on_of_nodup_map hkeyed.routers.nodup hmem hr₀ (hid.trans hid₀.symm)
        rw [hrow fun i body row hmem ↦ hun' i body row (by simpa using hmem)]
        exact hclient
      · exact absurd hnew hold.not_ge

/-! ### A whole round -/

/-- A task that does something was there at the beginning. -/
theorem exists_task (h : Trace (Server.Step A) s acts s') (hround : WithinRound acts) {j : ℕ}
    {x : PollEvent} (hx : .task j x ∈ acts) : ∃ p, s.round[j]? = some p := by
  obtain ⟨a, b, rfl⟩ := List.append_of_mem hx
  obtain ⟨m, hm, hrest⟩ := trace_append.1 h
  obtain ⟨m', hstep, -⟩ := trace_cons.1 hrest
  cases hstep with
  | task _ v hcall _ =>
    obtain ⟨p, hp, -⟩ := origin_of_task hm (withinRound_append.1 hround).1 hcall
    exact ⟨p, hp⟩

section Round

variable {devices : List DevicePollRow}

/-- The devices of a round are the polled routers. -/
theorem perm_of_tick (h : Trace (Server.Step A) s (.tick (.ok devices) :: acts) s') :
    devices.Perm ((s.service.state.routers.filter RouterRow.isPolled).map RouterRow.pollRow) := by
  obtain ⟨m, htick, -⟩ := trace_cons.1 h
  cases htick with
  | tick v hended hpoll => exact (of_guarded hpoll).1

/-- **Every device of a round** has its task. -/
theorem task_of_device (h : Trace (Server.Step A) s (.tick (.ok devices) :: acts) s')
    (hround : WithinRound acts) {j : ℕ} {device : DevicePollRow}
    (hdevice : devices[j]? = some device) :
    ∃ q, s'.round[j]? = some q ∧ Prog.Follows (pollDevice device) (exchanges j acts) q := by
  obtain ⟨m, htick, hrest⟩ := trace_cons.1 h
  cases htick with
  | tick v hended hpoll =>
    refine task_of_trace hrest hround ?_
    show (devices.map pollDevice)[j]? = _
    rw [List.getElem?_map, hdevice]
    rfl

/-- **Every task of a round** is that of a router the round read. -/
theorem exists_row_of_task (h : Trace (Server.Step A) s (.tick (.ok devices) :: acts) s')
    (hround : WithinRound acts) {j : ℕ} {x : PollEvent} (hx : .task j x ∈ acts) :
    ∃ r ∈ s.service.state.routers, r.isPolled = true ∧ devices[j]? = some r.pollRow := by
  have hperm := perm_of_tick h
  obtain ⟨m, htick, hrest⟩ := trace_cons.1 h
  obtain ⟨p, hp⟩ := exists_task hrest hround hx
  cases htick with
  | tick v hended hpoll =>
    change (devices.map pollDevice)[j]? = some p at hp
    rw [List.getElem?_map] at hp
    obtain ⟨device, hdevice, -⟩ := Option.map_eq_some_iff.1 hp
    obtain ⟨r, hr, rfl⟩ := List.mem_map.1 (hperm.mem_iff.1 (List.mem_of_getElem? hdevice))
    obtain ⟨hr, hpolled⟩ := List.mem_filter.1 hr
    exact ⟨r, hr, hpolled, hdevice⟩

/-- No two tasks of a round are for one router. -/
theorem task_unique (h : Trace (Server.Step A) s (.tick (.ok devices) :: acts) s')
    (hs : s.service.state.Keyed) {i j : ℕ} {d₁ d₂ : DevicePollRow} (hi : devices[i]? = some d₁)
    (hj : devices[j]? = some d₂) (hid : d₁.id = d₂.id) : i = j := by
  have hnodup : (devices.map DevicePollRow.id).Nodup := by
    refine ((perm_of_tick h).map DevicePollRow.id).nodup_iff.2 ?_
    rw [List.map_map]
    exact (hs.routers.filter _).nodup
  obtain ⟨hlti, rfl⟩ := List.getElem?_eq_some_iff.1 hi
  obtain ⟨hltj, rfl⟩ := List.getElem?_eq_some_iff.1 hj
  have hlti' : i < (devices.map DevicePollRow.id).length := by simpa using hlti
  refine (List.getElem?_inj hlti' hnodup).1 ?_
  rw [List.getElem?_map, List.getElem?_map, hi, hj, Option.map_some, Option.map_some, hid]

/-- What a write in the round tells: its router was read, and its task did no more than probe. -/
theorem exists_row_of_write (h : Trace (Server.Step A) s (.tick (.ok devices) :: acts) s')
    (hround : WithinRound acts) {j : ℕ} {status : RouterStatus} {id : Uuid}
    {u : Except Fault Timestamp} (hu : .task j ⟨.setStatus status id, u⟩ ∈ acts) :
    ∃ r ∈ s.service.state.routers, r.isPolled = true ∧ r.id = id ∧
      devices[j]? = some r.pollRow ∧ ∃ client v, r.pollRow.client = some client ∧
        status = verdict v ∧
        exchanges j acts = [⟨.showConfig client probePath, v⟩, ⟨.setStatus status id, u⟩] := by
  obtain ⟨r, hr, hpolled, hdevice⟩ := exists_row_of_task h hround hu
  obtain ⟨q, -, hf⟩ := task_of_device h hround hdevice
  obtain ⟨key, -, hclient⟩ := client_of_isPolled hpolled
  have hmem := mem_exchanges.2 hu
  rcases follows_pollDevice hclient hf with hnil | ⟨v, ⟨hx, -⟩ | ⟨u', hx, -⟩⟩
  · rw [hnil] at hmem
    cases hmem
  · rw [hx] at hmem
    cases List.mem_singleton.1 hmem
  · rw [hx] at hmem
    rcases List.mem_pair.1 hmem with heq | heq
    · cases heq
    · cases heq
      exact ⟨r, hr, hpolled, rfl, hdevice, _, v, hclient, rfl, hx⟩

section OneRouter

variable {r₀ : RouterRow} {j : ℕ}

/-- A write for a router of the round is made by its task. -/
theorem exchanges_of_write (h : Trace (Server.Step A) s (.tick (.ok devices) :: acts) s')
    (hround : WithinRound acts) (hs : s.service.state.Keyed)
    (hdevice : devices[j]? = some r₀.pollRow) {i : ℕ} {status : RouterStatus}
    {u : Except Fault Timestamp} (hu : .task i ⟨.setStatus status r₀.id, u⟩ ∈ acts) :
    ∃ client v, status = verdict v ∧
      exchanges j acts = [⟨.showConfig client probePath, v⟩, ⟨.setStatus status r₀.id, u⟩] := by
  obtain ⟨r₁, -, -, hid, hdevice₁, client, v, -, hstatus, hx⟩ := exists_row_of_write h hround hu
  obtain rfl := task_unique h hs hdevice₁ hdevice hid
  exact ⟨client, v, hstatus, hx⟩

/-- **A polled router has its task**, which has probed and written when it has ended. -/
theorem exists_task_of_isPolled (h : Trace (Server.Step A) s (.tick (.ok devices) :: acts) s')
    (hround : WithinRound acts) (hended : ∀ p ∈ s'.round, p.outcome ≠ none)
    (hr : r₀ ∈ s.service.state.routers) (hpolled : r₀.isPolled = true) :
    ∃ j client v u, devices[j]? = some r₀.pollRow ∧ r₀.pollRow.client = some client ∧
      exchanges j acts =
        [⟨.showConfig client probePath, v⟩, ⟨.setStatus (verdict v) r₀.id, u⟩] := by
  obtain ⟨key, -, hclient⟩ := client_of_isPolled hpolled
  have hmem : r₀.pollRow ∈ devices := (perm_of_tick h).mem_iff.2
    (List.mem_map_of_mem (List.mem_filter.2 ⟨hr, hpolled⟩))
  obtain ⟨j, hdevice⟩ := List.mem_iff_getElem?.1 hmem
  obtain ⟨q, hq, hf⟩ := task_of_device h hround hdevice
  have hq := hended q (List.mem_of_getElem? hq)
  rcases follows_pollDevice hclient hf with hnil | ⟨v, ⟨-, rfl⟩ | ⟨u, hx, -⟩⟩
  · rw [hnil, Prog.follows_nil, pollDevice, checkDevice, hclient] at hf
    exact absurd (congrArg Prog.outcome hf) hq
  · exact absurd rfl hq
  · exact ⟨j, _, v, u, hdevice, hclient, hx⟩

/-- A written verdict is the last one: the task probed once. -/
theorem status_of_task (h : Trace (Server.Step A) s (.tick (.ok devices) :: acts) s')
    (hround : WithinRound acts) (hs : s.service.state.Keyed) (hr₀ : r₀ ∈ s.service.state.routers)
    (hdevice : devices[j]? = some r₀.pollRow) {client : VyosClient} {v : Except Fault Json}
    {now : Timestamp} (hx : exchanges j acts =
      [⟨.showConfig client probePath, v⟩, ⟨.setStatus (verdict v) r₀.id, .ok now⟩])
    {r : RouterRow} (hr : r ∈ s'.service.state.routers) (hid : r.id = r₀.id) :
    r.status = verdict v := by
  have hwrite : .task j ⟨.setStatus (verdict v) r₀.id, .ok now⟩ ∈ acts :=
    mem_exchanges.1 (hx ▸ List.mem_cons_of_mem _ List.mem_cons_self)
  rcases last_cases
      (fun a ↦ ∃ i status now, a = .task i ⟨.setStatus status r₀.id, .ok now⟩) acts with
    hnone | ⟨x, _, t, rfl, ⟨i, status, now', rfl⟩, hlast⟩
  · exact absurd ⟨j, verdict v, now, rfl⟩ (hnone _ hwrite)
  · obtain ⟨client', v', rfl, hx'⟩ := exchanges_of_write h hround hs hdevice
      (List.mem_append_right x List.mem_cons_self)
    obtain ⟨m, hm, hrest⟩ := trace_append.1 (List.cons_append ▸ h)
    have hold : r.id < s.service.state.nextId := hid ▸ hs.routers.lt r₀ hr₀
    rw [status_of_write hrest (fun i status now hmem ↦ hlast _ hmem ⟨i, status, now, rfl⟩)
      hr hid (hold.trans_le (nextId_le_of_trace hm))]
    cases (List.cons.inj (hx.symm.trans hx')).1
    rfl

end OneRouter

/-- **What a round comes to**, however the requests interleave with it. When its tasks have ended,
every router that was not created since has the verdict of the probe sent to its address at the
beginning of the round, unless the update of it failed; a router without an API key, like one whose
update failed, has the status it had. -/
theorem round_complete (hs : s.service.state.Keyed)
    (h : Trace (Server.Step A) s (.tick (.ok devices) :: acts) s') (hround : WithinRound acts)
    (hended : ∀ p ∈ s'.round, p.outcome ≠ none) {r : RouterRow}
    (hr : r ∈ s'.service.state.routers) :
    s.service.state.nextId ≤ r.id ∧ r.status = .off ∨
      ∃ r₀ ∈ s.service.state.routers, r₀.id = r.id ∧
        (r₀.isPolled = false ∧ r.status = r₀.status ∨
          r₀.isPolled = true ∧ ∃ j client v, r₀.pollRow.client = some client ∧
            .task j ⟨.showConfig client probePath, v⟩ ∈ acts ∧
            ((∃ now, .task j ⟨.setStatus (verdict v) r.id, .ok now⟩ ∈ acts) ∧
                r.status = verdict v ∨
              (∃ e, .task j ⟨.setStatus (verdict v) r.id, .error e⟩ ∈ acts) ∧
                r.status = r₀.status)) := by
  have hkept : Unwritten r.id acts → Unwritten r.id (.tick (.ok devices) :: acts) :=
    fun hun j status now hmem ↦ hun j status now (by simpa using hmem)
  rcases stems_of_trace h hr with ⟨r₀, hr₀, hid, hstatus, -⟩ | ⟨hnew, hstatus⟩
  · refine Or.inr ⟨r₀, hr₀, hid, ?_⟩
    cases hpolled : r₀.isPolled with
    | false =>
      refine Or.inl ⟨rfl, hstatus (hkept fun j status now hmem ↦ ?_)⟩
      obtain ⟨r₁, hr₁, hpolled₁, hid₁, -⟩ := exists_row_of_write h hround hmem
      obtain rfl : r₁ = r₀ :=
        List.inj_on_of_nodup_map hs.routers.nodup hr₁ hr₀ (hid₁.trans hid.symm)
      rw [hpolled] at hpolled₁
      cases hpolled₁
    | true =>
      obtain ⟨j, client, v, u, hdevice, hclient, hx⟩ :=
        exists_task_of_isPolled h hround hended hr₀ hpolled
      have hprobe : .task j ⟨.showConfig client probePath, v⟩ ∈ acts :=
        mem_exchanges.1 (hx ▸ List.mem_cons_self)
      have hwrite : .task j ⟨.setStatus (verdict v) r.id, u⟩ ∈ acts :=
        hid ▸ mem_exchanges.1 (hx ▸ List.mem_cons_of_mem _ List.mem_cons_self)
      refine Or.inr ⟨rfl, j, client, v, hclient, hprobe, ?_⟩
      cases u with
      | ok now =>
        exact Or.inl ⟨⟨now, hwrite⟩, status_of_task h hround hs hr₀ hdevice hx hr hid.symm⟩
      | error e =>
        refine Or.inr ⟨⟨e, hwrite⟩, hstatus (hkept fun i status now hmem ↦ ?_)⟩
        rw [← hid] at hmem
        obtain ⟨client', v', -, hx'⟩ := exchanges_of_write h hround hs hdevice hmem
        simp [hx] at hx'
  · refine Or.inl ⟨hnew, hstatus (hkept fun j status now hmem ↦ ?_)⟩
    obtain ⟨r₁, hr₁, -, hid₁, -⟩ := exists_row_of_write h hround hmem
    exact absurd (hid₁ ▸ hnew) (hs.routers.lt r₁ hr₁).not_ge

end Round

/-! ### A device that does not answer -/

def sampleTick : Server.Act Unit := .tick (.ok [sampleRouterRow.pollRow])

/-- The probe gets no answer, and the status is written. -/
def sampleTasks : List (Server.Act Unit) :=
  [.task 0 ⟨.showConfig (VyosClient.new "https" "192.0.2.1" none "key" "1.4") probePath,
      .error ⟨"timed out", .unsent⟩⟩,
    .task 0 ⟨.setStatus .off 0, .ok 7⟩]

theorem trace_sampleTasks : ∃ s : Server Unit,
    Trace (Server.Step sampleArgon2) (.start (sampleGranted "viewer"))
        (sampleTick :: sampleTasks) s ∧
      s.service.state.routers = [sampleRouterRow.setStatus .off 7] ∧ s.round = [.ret ()] := by
  have hpoll : (sampleGranted "viewer").poll .selectDevices (.ok [sampleRouterRow.pollRow]) =
      some (sampleGranted "viewer") := by rfl
  exact ⟨_, .cons (.tick _ (fun p hp ↦ by cases hp) hpoll) <| .cons (.task 0 _ rfl rfl) <|
    .cons (.task 0 _ rfl rfl) <| .nil _, rfl, rfl⟩

/-- The router is off because its probe failed. -/
theorem status_traced_off : ∃ j client v, Server.Act.task j ⟨.showConfig client probePath, v⟩ ∈
      sampleTasks ∧ verdict v = .off := by
  obtain ⟨s, htrace, hrouters, -⟩ := trace_sampleTasks
  rcases status_traced keyed_sampleGranted htrace (r := sampleRouterRow.setStatus .off 7)
      (by rw [hrouters]; exact List.mem_singleton_self _) with
    ⟨hun, -⟩ | ⟨a, devices, b, j, client, v, c, now, t, hacts, -, -, hstatus, -⟩
  · exact absurd (List.mem_cons_of_mem _ (List.mem_cons_of_mem _ (List.mem_singleton_self _)))
      (hun 0 .off 7)
  · have hmem : Server.Act.task j ⟨.showConfig client probePath, v⟩ ∈
        sampleTick :: sampleTasks := by
      rw [hacts]
      simp
    exact ⟨j, client, v, (List.mem_cons.1 hmem).resolve_left (fun h ↦ by cases h), hstatus.symm⟩

/-- A round that has ended left the router with the verdict of its probe. -/
theorem round_complete_off : ∃ j client v, sampleRouterRow.pollRow.client = some client ∧
    Server.Act.task j ⟨.showConfig client probePath, v⟩ ∈ sampleTasks ∧ verdict v = .off := by
  obtain ⟨s, htrace, hrouters, hround⟩ := trace_sampleTasks
  rcases round_complete keyed_sampleGranted htrace (by simp [WithinRound, sampleTasks])
      (by simp [hround]) (r := sampleRouterRow.setStatus .off 7)
      (by rw [hrouters]; exact List.mem_singleton_self _) with
    ⟨hnew, -⟩ | ⟨r₀, hr₀, -, ⟨hpolled, -⟩ | ⟨-, j, client, v, hclient, hprobe, hstatus⟩⟩
  · exact absurd hnew (by decide)
  · obtain rfl := List.mem_singleton.1 hr₀
    exact absurd hpolled (by decide)
  · obtain rfl := List.mem_singleton.1 hr₀
    refine ⟨j, client, v, hclient, hprobe, ?_⟩
    rcases hstatus with ⟨-, hstatus⟩ | ⟨⟨e, he⟩, -⟩
    · exact hstatus.symm
    · simp [sampleTasks] at he

end VyosFabric
