import VyosFabric.Review.Operators

/-!
# The tray of one operator

An operator who works alone on a device still has several requests in flight: each staging or
discard ends with a fetch of its own, and the reply to a fetch replaces the tray whenever it comes.
Once nothing is in flight the tray is what the server would list exactly if the reply that arrived
last says what the server said last (`upToDate_iff`).
-/

namespace VyosFabric

open Interaction

/-! ### Steps that change the tray -/

/-- The exchange changed rows of `config_changes`. -/
def alters : Event → Bool
  | ⟨.deletePending _ _, .ok (n : ℕ)⟩ => n != 0
  | ⟨.insertChange _ _, .ok _⟩ => true
  | ⟨.updateCommitted _ _, .ok (rows : List ConfigChange)⟩ => !rows.isEmpty
  | _ => false

theorem writes_of_alters {x : Event} (h : alters x = true) : x.1.writes = true := by
  obtain ⟨s, v⟩ := x
  cases s <;> first | rfl | (cases v <;> cases h)

theorem configChanges_of_not_alters {x : Event} {m m' : Database} (hx : alters x = false)
    (hstep : exec x.1 x.2 m = some m') : m'.configChanges = m.configChanges := by
  obtain ⟨s, v⟩ := x
  cases exec_effect hstep with
  | look => rfl
  | record => rfl
  | delete r f =>
    have hnone : m.configChanges.filter (f.hits r) = [] :=
      List.eq_nil_of_length_eq_zero (by simpa [alters] using hx)
    refine List.filter_eq_self.2 fun c hc ↦ ?_
    simpa using List.filter_eq_nil_iff.1 hnone c hc
  | insert r now c => cases hx
  | update k r rows hrows hk =>
    have hnil : rows = [] := by simpa [alters] using hx
    subst hnil
    have hpending : m.pending r = [] := by simpa using hrows
    refine (List.map_congr_left fun c hc ↦ ?_).trans (List.map_id _)
    exact if_neg fun hp ↦ List.filter_eq_nil_iff.1 hpending c hc hp

/-- Steps that change nothing leave the tray as it is. -/
theorem pending_of_not_alters {Pid : Type} {tr : List (Pid × Event)} {m m' : Database} {r : Uuid}
    (htr : TablesAt m tr m') (hquiet : ∀ x ∈ tr, alters x.2 = false) :
    m'.pending r = m.pending r := by
  have hrows : m'.configChanges = m.configChanges := by
    refine execAll_invariant (P := fun n ↦ n.configChanges = m.configChanges) ?_ htr rfl
    intro y hy n n' hstep hn
    obtain ⟨x, hx, rfl⟩ := List.mem_map.1 hy
    exact (configChanges_of_not_alters (hquiet x hx) hstep).trans hn
  rw [Database.pending, Database.pending, hrows]

/-- The request changes nothing itself. -/
theorem not_alters_of_request {Pid : Type} [DecidableEq Pid] {db : Database} {calls : Pid → Call}
    {tr : List (Pid × Event)} {s : Pool Statement Statement.Reply AppError Response Database Pid}
    {i : Pid} {x : Event} (hrun : ReviewRun db calls tr s)
    (hreads : (calls i).request = .listChanges ∨ (calls i).request = .listCommits)
    (hx : (i, x) ∈ tr) : alters x = false := by
  have hissues : (calls i).handle.Issues fun s ↦ s.writes = false := by
    have hlooks : ∀ s : Statement, s.touches = false → s.writes = false := by
      intro s hs
      cases s <;> first | rfl | cases hs
    rw [Call.handle]
    rcases hreads with hrequest | hrequest
    · rw [hrequest]
      exact Prog.Issues.bind ((authorizeRouter_inspects _ _).silent.mono hlooks) fun _ ↦
        Prog.Issues.bind (sql_issues rfl) fun _ ↦ trivial
    · rw [hrequest]
      exact (listCommits_silent _ _).mono hlooks
  have hwrites : x.1.writes = false := (hissues.of_follows (hrun.follows i)).1 x (mem_proj.2 hx)
  by_contra h
  rw [writes_of_alters (Bool.eq_true_of_not_eq_false h)] at hwrites
  cases hwrites

/-! ### What becomes of a request -/

section Desk

variable {Operator Pid : Type} [DecidableEq Operator] [DecidableEq Pid]
  {office : Office Operator Pid} {db : Database} {d d' : Desk Operator Pid} {acts : List (Act Pid)}
  {i : Pid}

omit [DecidableEq Pid] in
/-- A step of the server in its trace is an act. -/
theorem exists_split_of_served {tr tr' : List (Pid × Event)} {x : Event}
    (h : served acts = tr ++ (i, x) :: tr') :
    ∃ acts₁ acts₂, acts = acts₁ ++ .serve i x :: acts₂ ∧ served acts₁ = tr ∧
      served acts₂ = tr' := by
  obtain ⟨acts₁, rest, rfl, rfl, hrest⟩ := List.filterMap_eq_append_iff.1 h
  obtain ⟨pre, a, acts₂, rfl, hpre, ha, rfl⟩ := List.filterMap_eq_cons_iff.1 hrest
  have hact : a = .serve i x := by
    cases a with
    | serve j y => simpa using ha
    | press j => cases ha
    | deliver j r => cases ha
    | refresh j r k => cases ha
  refine ⟨acts₁ ++ pre, acts₂, by rw [hact, List.append_assoc], ?_, rfl⟩
  rw [served_append, show served pre = [] from List.filterMap_eq_nil_iff.2 hpre, List.append_nil]
  rfl

/-- The act brings the page the reply `r` to the request `i`. -/
def Replies (i : Pid) (r : Except AppError Response) (a : Act Pid) : Prop :=
  a = .deliver i r ∨ ∃ k, a = .refresh i r k

/-- A request in flight stays so until its reply comes. -/
theorem waiting_of_step {a : Act Pid} (ha : office.Step d a d') (hi : d.wire i = .waiting) :
    d'.wire i = .waiting ∨ ∃ r, Replies i r a := by
  cases ha with
  | press j hj =>
    have hij : i ≠ j := by
      rintro rfl
      rw [hi] at hj
      cases hj
    exact Or.inl (by simp [hij, hi])
  | serve => exact Or.inl hi
  | deliver j r =>
    by_cases hij : i = j
    · subst hij
      exact Or.inr ⟨r, Or.inl rfl⟩
    · exact Or.inl (by simp [hij, hi])
  | refresh j r k =>
    by_cases hij : i = j
    · subst hij
      exact Or.inr ⟨r, Or.inr ⟨k, rfl⟩⟩
    · by_cases hik : i = k
      · exact Or.inl (by simp [hik])
      · exact Or.inl (by simp [hij, hik, hi])

/-- The reply of a request in flight comes, if the request is not in flight in the end. -/
theorem exists_reply_of_waiting (h : Trace office.Step d acts d') (hi : d.wire i = .waiting)
    (hend : d'.wire i ≠ .waiting) : ∃ acts₁ a acts₂ m m' r, acts = acts₁ ++ a :: acts₂ ∧
      Trace office.Step d acts₁ m ∧ office.Step m a m' ∧ Trace office.Step m' acts₂ d' ∧
      Replies i r a := by
  induction h with
  | nil => exact absurd hi hend
  | @cons d m d' a acts ha hrest ih =>
    rcases waiting_of_step ha hi with hm | ⟨r, hr⟩
    · obtain ⟨acts₁, b, acts₂, n, n', r, rfl, hn, hb, hafter, hr⟩ := ih hm hend
      exact ⟨a :: acts₁, b, acts₂, n, n', r, rfl, Trace.cons ha hn, hb, hafter, hr⟩
    · exact ⟨[], a, acts, d, m, r, rfl, Trace.nil d, ha, hrest, hr⟩

/-- The reply that a step brings is the outcome of its request. -/
theorem outcome_of_replies {a : Act Pid} {r : Except AppError Response} (ha : office.Step d a d')
    (hr : Replies i r a) : (d.server.prog i).outcome = some r := by
  rcases hr with rfl | ⟨k, rfl⟩
  · cases ha with
    | deliver _ _ _ hout _ => exact hout
  · cases ha with
    | refresh _ _ _ _ hout _ _ _ _ => exact hout

end Desk

/-! ### The last read and the last reply -/

section Alone

variable {Pid : Type} [DecidableEq Pid] {office : Office Unit Pid} {db : Database}
  {d : Desk Unit Pid} {acts : List (Act Pid)}

/-- The server answers a fetch with `T`. -/
def Office.Reads (office : Office Unit Pid) (T : List ConfigChange) (x : Pid × Event) : Prop :=
  office.request x.1 = .listChanges ∧ x.2 = ⟨.selectPending (office.page ()).deviceId, .ok T⟩

/-- The server answered the last fetch with `T`, and has done `post` since. -/
structure LastRead (office : Office Unit Pid) (acts : List (Act Pid)) (T : List ConfigChange)
    (post : List (Pid × Event)) : Prop where
  read : ∃ pre x, served acts = pre ++ x :: post ∧ office.Reads T x
  after : ∀ x ∈ post, ∀ T', ¬office.Reads T' x

/-- No request is in flight. -/
def Desk.Quiet (d : Desk Unit Pid) : Prop := ∀ i, d.wire i ≠ .waiting

/-- Every fetch whose reply came succeeded. -/
def FetchesSucceed (office : Office Unit Pid) (acts : List (Act Pid)) : Prop :=
  ∀ i r, .deliver i r ∈ acts → office.request i = .listChanges → ∃ T, r = .ok (.changes T)

/-- No request that reported an error changed the tray after the last fetch was answered. -/
def FailuresShown (office : Office Unit Pid) (acts : List (Act Pid)) : Prop :=
  ∀ T post, LastRead office acts T post → ∀ i x, (i, x) ∈ post → alters x = true →
    ∀ e, .deliver i (.error e) ∉ acts

/-- The reply that arrived last says what the server said last. -/
def ArrivedLast (office : Office Unit Pid) (acts : List (Act Pid)) : Prop :=
  ∃ j T T' post, LastShown office acts () j T ∧ LastRead office acts T' post ∧ T.Perm T'

/-- The tray is what the server would list now. -/
def Desk.UpToDate (office : Office Unit Pid) (d : Desk Unit Pid) : Prop :=
  exec (.selectPending (office.page ()).deviceId) (.ok (d.pendingChanges ())) d.server.state =
    some d.server.state

/-- The last entry of a kind. -/
theorem exists_last_split {α : Type} {p : α → Prop} {l : List α} (h : ∃ a ∈ l, p a) :
    ∃ l₁ a l₂, l = l₁ ++ a :: l₂ ∧ p a ∧ ∀ b ∈ l₂, ¬p b := by
  induction l with
  | nil => simp at h
  | cons a l ih =>
    by_cases hl : ∃ b ∈ l, p b
    · obtain ⟨l₁, b, l₂, rfl, hb, hafter⟩ := ih hl
      exact ⟨a :: l₁, b, l₂, rfl, hb, hafter⟩
    · obtain ⟨b, hb, hpb⟩ := h
      rcases List.mem_cons.1 hb with rfl | hb
      · exact ⟨[], b, l, rfl, hpb, fun c hc hpc ↦ hl ⟨c, hc, hpc⟩⟩
      · exact absurd ⟨b, hb, hpb⟩ hl

/-- A reply that is not refreshed after reports an error, or changed nothing. -/
theorem reads_of_not_refreshesAfter {request : Request} {resp : Response}
    (h : refreshesAfter request (.ok resp) = false) :
    request = .listChanges ∨ request = .listCommits := by
  cases request <;> simp_all [refreshesAfter]

/-- A fetch that is sent by a refresh is answered after it. -/
theorem reads_of_refresh {acts₁ acts₂ : List (Act Pid)} {m m' : Desk Unit Pid} {i k : Pid}
    {r : Except AppError Response} (hm : Trace office.Step (office.start db) acts₁ m)
    (hstep : office.Step m (.refresh i r k) m') (hrest : Trace office.Step m' acts₂ d)
    (hquiet : d.Quiet) (hfetches : FetchesSucceed office acts₂) :
    ∃ T, ∃ x ∈ served acts₂, office.Reads T x := by
  obtain ⟨hunsent, hlist, hwaiting⟩ : m.wire k = .unsent ∧ office.request k = .listChanges ∧
      m'.wire k = .waiting := by
    cases hstep with
    | refresh _ _ _ _ _ _ hunsent _ hlist => exact ⟨hunsent, hlist, by simp⟩
  obtain ⟨acts₃, a, acts₄, n, n', r', rfl, hn, ha, -, hr⟩ :=
    exists_reply_of_waiting hrest hwaiting (hquiet k)
  have hdeliver : a = .deliver k r' := by
    rcases hr with rfl | ⟨k', rfl⟩
    · rfl
    · cases ha with
      | refresh _ _ _ _ _ hrefreshes _ _ _ =>
        rw [hlist] at hrefreshes
        cases hrefreshes
  obtain ⟨T, rfl⟩ := hfetches k r' (List.mem_append_right _ (hdeliver ▸ List.mem_cons_self)) hlist
  have hread := read_of_outcome (trace_append.2 ⟨m, hm, Trace.cons hstep hn⟩) hlist
    (outcome_of_replies ha hr)
  rw [served_append] at hread
  have hlater : (k, (⟨.selectPending (office.page ()).deviceId, .ok T⟩ : Event)) ∈
      served acts₃ := by
    rcases List.mem_append.1 hread with hread | hread
    · exact absurd hread (not_mem_served_of_unsent hm hunsent _)
    · exact hread
  rw [served_append]
  exact ⟨T, _, List.mem_append_left _ hlater, hlist, rfl⟩

/-- **Once all is quiet nothing changed since the last read.** A request that succeeded in changing
the tray has had its own fetch, which read later. -/
theorem not_alters_of_lastRead (h : Trace office.Step (office.start db) acts d) (hquiet : d.Quiet)
    (hfetches : FetchesSucceed office acts) (hfailures : FailuresShown office acts)
    {T : List ConfigChange} {post : List (Pid × Event)} (hread : LastRead office acts T post) :
    ∀ x ∈ post, alters x.2 = false := by
  rintro ⟨i, x⟩ hx
  by_contra hne
  have halters : alters x = true := Bool.eq_true_of_not_eq_false hne
  obtain ⟨post₁, post₂, rfl⟩ := List.append_of_mem hx
  obtain ⟨pre, y, hserved, -⟩ := hread.read
  rw [← List.cons_append, ← List.append_assoc] at hserved
  obtain ⟨acts₁, acts₂, rfl, hbefore, rfl⟩ := exists_split_of_served hserved
  obtain ⟨m, hm, hrest⟩ := trace_append.1 h
  obtain ⟨m', hserve, hrest⟩ := trace_cons.1 hrest
  have hwaiting : m'.wire i = .waiting := by
    cases hserve with
    | serve _ _ hwaiting _ _ => exact hwaiting
  obtain ⟨acts₃, a, acts₄, n, n', r, rfl, hn, ha, hafter, hr⟩ :=
    exists_reply_of_waiting hrest hwaiting (hquiet i)
  rcases hr with rfl | ⟨k, rfl⟩
  · have hmem : .deliver i r ∈ acts₁ ++ .serve i x :: (acts₃ ++ .deliver i r :: acts₄) := by simp
    cases r with
    | error e => exact hfailures T _ hread i x hx halters e hmem
    | ok resp =>
      have hrun : ReviewRun db office.call _ d.server := run_of_trace h
      have hkept : refreshesAfter (office.request i) (.ok resp) = false := by
        cases ha with
        | deliver _ _ _ _ hrefreshes => exact hrefreshes
      have hlooks : alters x = false :=
        not_alters_of_request hrun (reads_of_not_refreshesAfter hkept) (mem_served.2 (by simp))
      rw [halters] at hlooks
      cases hlooks
  · have hsofar : Trace office.Step (office.start db) (acts₁ ++ .serve i x :: acts₃) n :=
      trace_append.2 ⟨m, hm, Trace.cons hserve hn⟩
    obtain ⟨T', y, hy, hreads⟩ := reads_of_refresh hsofar ha hafter hquiet fun j r hj ↦
      hfetches j r (by simp [hj])
    refine hread.after y ?_ T' hreads
    rw [served_append]
    exact List.mem_append_right _ (List.mem_cons_of_mem _ (List.mem_append_right _ hy))

omit [DecidableEq Pid] in
/-- Some reply arrived last. -/
theorem exists_lastShown_of_opened (hfetches : FetchesSucceed office acts)
    (hopened : ∃ j r, .deliver j r ∈ acts ∧ office.request j = .listChanges) :
    ∃ j T, LastShown office acts () j T := by
  obtain ⟨j, r, hmem, hlist⟩ := hopened
  obtain ⟨T, rfl⟩ := hfetches j r hmem hlist
  have hshows : ∃ a ∈ acts, office.shows () a = true :=
    ⟨_, hmem, by rw [Office.shows, shownBy_eq_some.2 ⟨hlist, rfl⟩]; rfl⟩
  obtain ⟨acts₁, a, acts₂, rfl, ha, hafter⟩ := exists_last_split hshows
  cases a with
  | press => cases ha
  | serve => cases ha
  | refresh => cases ha
  | deliver k r =>
    rw [Office.shows, Bool.and_eq_true] at ha
    obtain ⟨l, hl⟩ := Option.isSome_iff_exists.1 ha.2
    obtain ⟨hrequest, rfl⟩ := shownBy_eq_some.1 hl
    exact ⟨k, l, rfl, hrequest, acts₁, acts₂, rfl, fun b hb ↦ Bool.eq_false_iff.2 (hafter b hb)⟩

/-- So the server answered a fetch last. -/
theorem LastShown.exists_lastRead {j : Pid} {T : List ConfigChange}
    (hshown : LastShown office acts () j T) (h : Trace office.Step (office.start db) acts d) :
    ∃ T' post, LastRead office acts T' post := by
  have hreads : ∃ x ∈ served acts, ∃ T', office.Reads T' x :=
    ⟨_, hshown.read h, T, hshown.request, rfl⟩
  obtain ⟨pre, x, post, hsplit, ⟨T', hx⟩, hafter⟩ := exists_last_split hreads
  exact ⟨T', post, ⟨pre, x, hsplit, hx⟩, fun y hy T'' hy' ↦ hafter y hy ⟨T'', hy'⟩⟩

/-- A tray that is shown is in the order of the server's list. -/
theorem LastShown.upToDate_iff_perm {j : Pid} {T : List ConfigChange}
    (hshown : LastShown office acts () j T) (h : Trace office.Step (office.start db) acts d) :
    d.UpToDate office ↔ T.Perm (d.server.state.pending (office.page ()).deviceId) := by
  obtain ⟨tr, tr', hsplit⟩ := List.append_of_mem (hshown.read h)
  have htables : TablesAt db (served acts) d.server.state := (run_of_trace h).execs
  rw [hsplit] at htables
  obtain ⟨m, -, hrest⟩ := tablesAt_append.1 htables
  obtain ⟨m', hstep, -⟩ := tablesAt_cons.1 hrest
  obtain ⟨⟨-, hsorted⟩, -⟩ := of_guarded hstep
  rw [Desk.UpToDate, hshown.pendingChanges_eq h]
  exact ⟨fun hlist ↦ (exec_selectPending hlist).1, fun hperm ↦ if_pos ⟨hperm, hsorted⟩⟩

/-- What the server said last it would still say. -/
theorem LastRead.perm_pending {T : List ConfigChange} {post : List (Pid × Event)}
    (hread : LastRead office acts T post) (h : Trace office.Step (office.start db) acts d)
    (hpost : ∀ x ∈ post, alters x.2 = false) :
    T.Perm (d.server.state.pending (office.page ()).deviceId) := by
  obtain ⟨pre, ⟨k, x⟩, hsplit, -, rfl⟩ := hread.read
  have htables : TablesAt db (served acts) d.server.state := (run_of_trace h).execs
  rw [hsplit] at htables
  obtain ⟨m, -, hrest⟩ := tablesAt_append.1 htables
  obtain ⟨m', hstep, hlast⟩ := tablesAt_cons.1 hrest
  obtain ⟨hperm, rfl⟩ := exec_selectPending hstep
  rwa [pending_of_not_alters hlast hpost]

/-- **The tray of an operator alone.** Once nothing is in flight and all fetches succeeded, the tray
is what the server would list exactly if the reply that arrived last says what the server said
last. -/
theorem upToDate_iff (h : Trace office.Step (office.start db) acts d) (hquiet : d.Quiet)
    (hfetches : FetchesSucceed office acts)
    (hopened : ∃ j r, .deliver j r ∈ acts ∧ office.request j = .listChanges)
    (hfailures : FailuresShown office acts) :
    d.UpToDate office ↔ ArrivedLast office acts := by
  have hcurrent : ∀ {T post}, LastRead office acts T post →
      T.Perm (d.server.state.pending (office.page ()).deviceId) := fun hread ↦
    hread.perm_pending h (not_alters_of_lastRead h hquiet hfetches hfailures hread)
  constructor
  · intro hcurrent'
    obtain ⟨j, T, hshown⟩ := exists_lastShown_of_opened hfetches hopened
    obtain ⟨T', post, hread⟩ := hshown.exists_lastRead h
    have hperm := (hshown.upToDate_iff_perm h).1 hcurrent'
    exact ⟨j, T, T', post, hshown, hread, hperm.trans (hcurrent hread).symm⟩
  · rintro ⟨j, T, T', post, hshown, hread, hperm⟩
    exact (hshown.upToDate_iff_perm h).2 (hperm.trans (hcurrent hread))

end Alone

/-! ### A discard that overtakes a fetch -/

/-- One operator, who opens the page and discards the one change of the tray. -/
def aloneOffice : Office Unit ℕ where
  page := fun _ ↦ ⟨sampleAdmin, 0⟩
  operator := fun _ ↦ ()
  request := fun i ↦ match i with
    | 1 => .discardOne 0
    | _ => .listChanges

/-- The page opens, and the server answers its fetch. -/
def openPage : List (Act ℕ) := [.press 0, .serve 0 ⟨.selectPending 0, .ok [sampleRow 0]⟩]

/-- The reply to the first fetch arrives. -/
def pageOpens : Act ℕ := .deliver 0 (.ok (.changes [sampleRow 0]))

/-- The change is discarded, and the fetch after that comes back with an empty tray. -/
def discardRow : List (Act ℕ) :=
  [.press 1, .serve 1 ⟨.deletePending 0 (.change 0), .ok (1 : ℕ)⟩,
    .refresh 1 (.ok (.discarded 0)) 2, .serve 2 ⟨.selectPending 0, .ok []⟩,
    .deliver 2 (.ok (.changes []))]

/-- The replies arrive in the order of the requests. -/
def inOrder : List (Act ℕ) := openPage ++ pageOpens :: discardRow

theorem lastShown_inOrder : LastShown aloneOffice inOrder () 2 [] where
  operator := rfl
  request := rfl
  delivered := ⟨openPage ++ pageOpens :: discardRow.take 4, [], rfl,
    fun _ ha ↦ (List.not_mem_nil ha).elim⟩

theorem lastRead_inOrder : LastRead aloneOffice inOrder [] [] where
  read := ⟨[(0, ⟨.selectPending 0, .ok [sampleRow 0]⟩),
    (1, ⟨.deletePending 0 (.change 0), .ok (1 : ℕ)⟩)], (2, ⟨.selectPending 0, .ok []⟩), rfl, rfl,
    rfl⟩
  after _ hx := (List.not_mem_nil hx).elim

theorem mem_deliver_inOrder {i : ℕ} {r : Except AppError Response}
    (h : .deliver i r ∈ inOrder) : ∃ T, r = .ok (.changes T) := by
  simp [inOrder, openPage, pageOpens, discardRow] at h
  rcases h with ⟨rfl, rfl⟩ | ⟨rfl, rfl⟩
  · exact ⟨_, rfl⟩
  · exact ⟨_, rfl⟩

theorem upToDate_inOrder : ∃ d : Desk Unit ℕ,
    Trace aloneOffice.Step (aloneOffice.start (sampleDatabase [sampleRow 0])) inOrder d ∧
      d.Quiet ∧ d.UpToDate aloneOffice := by
  obtain ⟨d, h, hquiet⟩ : ∃ d : Desk Unit ℕ,
      Trace aloneOffice.Step (aloneOffice.start (sampleDatabase [sampleRow 0])) inOrder d ∧
        d.Quiet :=
    ⟨_, Trace.cons (.press 0 rfl nofun) <| Trace.cons (.serve 0 _ rfl rfl rfl) <|
      Trace.cons (.deliver 0 _ rfl rfl rfl) <| Trace.cons (.press 1 rfl nofun) <|
      Trace.cons (.serve 1 _ rfl rfl rfl) <| Trace.cons (.refresh 1 _ 2 rfl rfl rfl rfl rfl rfl) <|
      Trace.cons (.serve 2 _ rfl rfl rfl) <| Trace.cons (.deliver 2 _ rfl rfl rfl) <| Trace.nil _,
      fun i hi ↦ by rcases i with _ | _ | _ | i <;> cases hi⟩
  have hopened : .deliver 0 (.ok (.changes [sampleRow 0])) ∈ inOrder :=
    List.mem_append_right _ List.mem_cons_self
  have hfailures : FailuresShown aloneOffice inOrder := fun _ _ _ _ _ _ _ _ he ↦ by
    obtain ⟨T, hT⟩ := mem_deliver_inOrder he
    cases hT
  exact ⟨d, h, hquiet, (upToDate_iff h hquiet (fun _ _ hr _ ↦ mem_deliver_inOrder hr)
    ⟨0, _, hopened, rfl⟩ hfailures).2
      ⟨2, [], [], [], lastShown_inOrder, lastRead_inOrder, List.Perm.nil⟩⟩

/-- **A discarded change is shown as pending.** The reply to the first fetch arrives last. -/
theorem not_upToDate_overtaken : ∃ d : Desk Unit ℕ,
    Trace aloneOffice.Step (aloneOffice.start (sampleDatabase [sampleRow 0]))
      (openPage ++ discardRow ++ [pageOpens]) d ∧ d.Quiet ∧
      FetchesSucceed aloneOffice (openPage ++ discardRow ++ [pageOpens]) ∧
      ¬d.UpToDate aloneOffice := by
  refine ⟨_, Trace.cons (.press 0 rfl nofun) <| Trace.cons (.serve 0 _ rfl rfl rfl) <|
      Trace.cons (.press 1 rfl nofun) <| Trace.cons (.serve 1 _ rfl rfl rfl) <|
      Trace.cons (.refresh 1 _ 2 rfl rfl rfl rfl rfl rfl) <|
      Trace.cons (.serve 2 _ rfl rfl rfl) <| Trace.cons (.deliver 2 _ rfl rfl rfl) <|
      Trace.cons (.deliver 0 _ rfl rfl rfl) <| Trace.nil _,
    ?_, ?_, fun hlist ↦ ?_⟩
  · intro i hi
    rcases i with _ | _ | _ | i <;> cases hi
  · intro i r hr hlist
    simp [openPage, pageOpens, discardRow] at hr
    rcases hr with ⟨rfl, rfl⟩ | ⟨rfl, rfl⟩
    · exact ⟨_, rfl⟩
    · exact ⟨_, rfl⟩
  · -- the tray shows the row, and the table has none
    exact absurd (exec_selectPending hlist).1.length_eq (by decide)

end VyosFabric
