import VyosFabric.Routes.Requests

/-!
# What a request goes through

Each request reduced to the statements that touch the review tables or the device's config. A
restage is straight: its `DELETE`s, then its `INSERT`s, up to the first fault (`restage_straight`).
`commit` is not, since its `save` is conditional and matched; `CommitPath` lists everything it can
have gone through, with what it came to, and `follows_commit` is its inversion lemma. Nothing below
this module unfolds a handler.
-/

namespace VyosFabric

open Interaction

/-! ### Restaging -/

/-- The statements of a restage. -/
def restageStatements (id : Uuid) (filters : List Filter) (changes : List NewConfigChange) :
    List Statement :=
  filters.map (.deletePending id) ++ changes.map (.insertChange id)

theorem deleteEach_straight (id : Uuid) (filters : List Filter) :
    IsStraight (deleteEach id filters) (filters.map (.deletePending id)) := by
  induction filters with
  | nil => exact isStraight_ret ()
  | cons f fs ih => exact (isStraight_sql (.deletePending id f)).bind fun _ ↦ ih

theorem insertChanges_straight (id : Uuid) (changes : List NewConfigChange) :
    IsStraight (insertChanges id changes) (changes.map (.insertChange id)) := by
  induction changes with
  | nil => exact isStraight_ret []
  | cons c cs ih =>
    refine (isStraight_sql (.insertChange id c)).bind fun row ↦ ?_
    have hret := ih.bind fun inserted ↦ isStraight_ret (row :: inserted)
    rwa [List.append_nil] at hret

/-- **A restage is its deletes followed by its inserts.** -/
theorem restage_straight (id : Uuid) (filters : List Filter) (changes : List NewConfigChange) :
    IsStraight (restage id filters changes) (restageStatements id filters changes) := by
  refine (deleteEach_straight id filters).bind fun _ ↦ ?_
  have hret := (insertChanges_straight id changes).bind fun inserted ↦
    isStraight_ret (Response.changes inserted)
  rwa [List.append_nil] at hret

/-- **What an edit goes through**: nothing that touches the tables, or a restage with the diff it
computed. -/
theorem follows_edit {claims : Claims} {id : Uuid} {e : Edit} {h : List Event}
    {q : Handler Response} (hf : Prog.Follows (e.handle claims id) h q) :
    (Prog.visible Statement.touches h = [] ∧ ∀ b, q ≠ .ret b) ∨
      ∃ reads writes changes, h = reads ++ writes ∧
        Prog.Follows (e.diff claims id) reads (.ret changes) ∧
        Prog.visible Statement.touches h = Prog.visible Statement.touches writes ∧
        Straight (restageStatements id e.filters changes) writes (ending q) := by
  rw [e.handle_eq] at hf
  rcases Prog.follows_silent_bind (e.diff_inspects claims id).silent hf with
    ⟨hnil, hne⟩ | ⟨reads, writes, changes, rfl, hreads, hvis, hwrites⟩
  · exact Or.inl ⟨hnil, hne⟩
  · exact Or.inr ⟨reads, writes, changes, rfl, hreads, hvis,
      restage_straight id e.filters changes writes q hwrites⟩

/-- A straight run makes exchanges of its own statements only. -/
theorem Straight.mem {l : List Statement} {h : List Event} {o : Option (Except AppError Unit)}
    (hs : Straight l h o) : ∀ x ∈ h, x.1 ∈ l := by
  induction hs with
  | done => simp
  | waiting => simp
  | failed s l e => simp
  | next x _ ih =>
    intro y hy
    rcases List.mem_cons.1 hy with rfl | hy
    · exact List.mem_cons_self
    · exact List.mem_cons_of_mem _ (ih y hy)

/-- All statements of a straight run that came to its end were answered with values. -/
theorem Straight.statements_eq {l : List Statement} {h : List Event}
    (hs : Straight l h (some (.ok ()))) : h.map Sigma.fst = l := by
  generalize hr : some (Except.ok ()) = r at hs
  induction hs with
  | done => rfl
  | waiting => cases hr
  | failed => cases hr
  | next x _ ih => rw [List.map_cons, ih hr]

theorem mem_restageStatements {id : Uuid} {filters : List Filter} {changes : List NewConfigChange}
    {s : Statement} :
    s ∈ restageStatements id filters changes ↔
      (∃ f ∈ filters, s = .deletePending id f) ∨ ∃ c ∈ changes, s = .insertChange id c := by
  simp only [restageStatements, List.mem_append, List.mem_map, eq_comm]

/-- Every statement of a restage touches the tables. -/
theorem visible_of_straight {id : Uuid} {filters : List Filter} {changes : List NewConfigChange}
    {h : List Event} {o : Option (Except AppError Unit)}
    (hs : Straight (restageStatements id filters changes) h o) :
    Prog.visible Statement.touches h = h := by
  refine List.filter_eq_self.2 fun x hx ↦ ?_
  rcases mem_restageStatements.1 (hs.mem x hx) with ⟨f, -, hfst⟩ | ⟨c, -, hfst⟩
  · rw [hfst]
    rfl
  · rw [hfst]
    rfl

/-! ### Committing -/

/-- `SavePath client resp saves saved`: after the device answered `resp`, the save step made the
exchanges `saves` and hands on `saved`. -/
inductive SavePath (client : VyosClient) (resp : Json) : List Event → Bool × Json → Prop
  | skipped : resp.succeeded = false → SavePath client resp [] (false, resp)
  | answered (saveResp : Json) : resp.succeeded = true →
      SavePath client resp [⟨.save client none, .ok saveResp⟩]
        (saveResp.succeeded, .obj [("configure", resp), ("save", saveResp)])
  | lost (e : Fault) : resp.succeeded = true →
      SavePath client resp [⟨.save client none, .error e⟩]
        (false, .obj [("configure", resp), ("save_error", .str e.text)])

/-- The exchanges of a commit up to the answer of the device. -/
def sentEvents (id : Uuid) (rows : List ConfigChange) (client : VyosClient)
    (v : Except Fault Json) : List Event :=
  [⟨.selectPending id, .ok rows⟩, ⟨.configure client rows, v⟩]

/-- `CommitPath claims id h o`: a commit made the exchanges `h`, among those that touch the tables
or the device, and came to `o`. -/
inductive CommitPath (claims : Claims) (id : Uuid) :
    List Event → Option (Except AppError Response) → Prop
  | idle {o : Option (Except AppError Response)} (ho : ∀ x, o ≠ some (.ok x)) :
      CommitPath claims id [] o
  | read (v : Except Fault (List ConfigChange)) {o : Option (Except AppError Response)}
      (ho : ∀ x, o ≠ some (.ok x)) : CommitPath claims id [⟨.selectPending id, v⟩] o
  | lost {rows : List ConfigChange} (client : VyosClient) (e : Fault) (hrows : rows ≠ []) :
      CommitPath claims id (sentEvents id rows client (.error e)) (some (.error (.gateway e.text)))
  | sent {rows : List ConfigChange} (client : VyosClient) (resp : Json) (hrows : rows ≠ []) :
      CommitPath claims id (sentEvents id rows client (.ok resp)) none
  | saved {rows : List ConfigChange} {client : VyosClient} {resp : Json} {saves : List Event}
      {saved : Bool × Json} (hrows : rows ≠ []) (hsave : SavePath client resp saves saved) :
      CommitPath claims id (sentEvents id rows client (.ok resp) ++ saves) none
  | unrecorded {rows : List ConfigChange} {client : VyosClient} {resp : Json} {saves : List Event}
      {saved : Bool × Json} (hrows : rows ≠ []) (hsave : SavePath client resp saves saved)
      (e : Fault) :
      CommitPath claims id (sentEvents id rows client (.ok resp) ++ saves ++
          [⟨.insertCommit (commitRecord claims id rows resp saved), .error e⟩])
        (some (.error (.database e.text)))
  | rejected {rows : List ConfigChange} {client : VyosClient} {resp : Json} {saves : List Event}
      {saved : Bool × Json} (hrows : rows ≠ []) (hsave : SavePath client resp saves saved)
      (hresp : resp.succeeded = false) (row : ConfigCommit) :
      CommitPath claims id (sentEvents id rows client (.ok resp) ++ saves ++
          [⟨.insertCommit (commitRecord claims id rows resp saved), .ok row⟩])
        (some (.ok (.committed row rows)))
  | recorded {rows : List ConfigChange} {client : VyosClient} {resp : Json} {saves : List Event}
      {saved : Bool × Json} (hrows : rows ≠ []) (hsave : SavePath client resp saves saved)
      (hresp : resp.succeeded = true) (row : ConfigCommit) :
      CommitPath claims id (sentEvents id rows client (.ok resp) ++ saves ++
          [⟨.insertCommit (commitRecord claims id rows resp saved), .ok row⟩]) none
  | unmarked {rows : List ConfigChange} {client : VyosClient} {resp : Json} {saves : List Event}
      {saved : Bool × Json} (hrows : rows ≠ []) (hsave : SavePath client resp saves saved)
      (hresp : resp.succeeded = true) (row : ConfigCommit) (e : Fault) :
      CommitPath claims id (sentEvents id rows client (.ok resp) ++ saves ++
          [⟨.insertCommit (commitRecord claims id rows resp saved), .ok row⟩,
            ⟨.updateCommitted row.id id, .error e⟩])
        (some (.error (.database e.text)))
  | marked {rows : List ConfigChange} {client : VyosClient} {resp : Json} {saves : List Event}
      {saved : Bool × Json} (hrows : rows ≠ []) (hsave : SavePath client resp saves saved)
      (hresp : resp.succeeded = true) (row : ConfigCommit) (changes : List ConfigChange) :
      CommitPath claims id (sentEvents id rows client (.ok resp) ++ saves ++
          [⟨.insertCommit (commitRecord claims id rows resp saved), .ok row⟩,
            ⟨.updateCommitted row.id id, .ok changes⟩])
        (some (.ok (.committed row changes)))

/-- The save step: still waiting for the device, or done with its exchanges. -/
theorem follows_saveIfApplied_bind {client : VyosClient} {resp : Json}
    {f : Bool × Json → Handler Response} {h : List Event} {q : Handler Response}
    (hf : Prog.Follows ((saveIfApplied client resp).bind f) h q) :
    (h = [] ∧ q.outcome = none) ∨ ∃ saves h' saved, h = saves ++ h' ∧
      SavePath client resp saves saved ∧ Prog.Follows (f saved) h' q := by
  rw [saveIfApplied] at hf
  cases hresp : resp.succeeded with
  | false =>
    rw [hresp, if_neg (by simp)] at hf
    exact Or.inr ⟨[], h, _, rfl, SavePath.skipped hresp, hf⟩
  | true =>
    rw [hresp, if_pos rfl] at hf
    rcases Prog.follows_call.1 hf with ⟨rfl, rfl⟩ | ⟨v, h', rfl, hf'⟩
    · exact Or.inl ⟨rfl, rfl⟩
    · cases v with
      | ok saveResp => exact Or.inr ⟨_, h', _, rfl, SavePath.answered saveResp hresp, hf'⟩
      | error e => exact Or.inr ⟨_, h', _, rfl, SavePath.lost e hresp, hf'⟩

/-- The end of a commit, from its record on. -/
theorem follows_record {claims : Claims} {id : Uuid} {rows : List ConfigChange}
    {client : VyosClient}
    {resp : Json} {saves : List Event} {saved : Bool × Json} (hrows : rows ≠ [])
    (hsave : SavePath client resp saves saved) {h : List Event} {q : Handler Response}
    (hf : Prog.Follows
      ((sql (.insertCommit (commitRecord claims id rows resp saved))).bind fun row ↦
        if resp.succeeded then
          (sql (.updateCommitted row.id id)).bind fun changes ↦ .ret (.committed row changes)
        else .ret (.committed row rows)) h q) :
    CommitPath claims id
      (sentEvents id rows client (.ok resp) ++ saves ++ Prog.visible Statement.touches h)
      q.outcome := by
  rcases follows_sql_bind hf with ⟨rfl, hq⟩ | ⟨e, rfl, rfl⟩ | ⟨row, h', rfl, hf'⟩
  · rw [hq, Prog.visible_nil, List.append_nil]
    exact CommitPath.saved hrows hsave
  · exact CommitPath.unrecorded hrows hsave e
  · cases hresp : resp.succeeded with
    | false =>
      rw [hresp, if_neg (by simp)] at hf'
      obtain ⟨rfl, rfl⟩ := Prog.follows_ret.1 hf'
      exact CommitPath.rejected hrows hsave hresp row
    | true =>
      rw [hresp, if_pos rfl] at hf'
      rcases follows_sql_bind hf' with ⟨rfl, hq⟩ | ⟨e, rfl, rfl⟩ | ⟨changes, h'', rfl, hf''⟩
      · rw [hq]
        exact CommitPath.recorded hrows hsave hresp row
      · exact CommitPath.unmarked hrows hsave hresp row e
      · obtain ⟨rfl, rfl⟩ := Prog.follows_ret.1 hf''
        exact CommitPath.marked hrows hsave hresp row changes

theorem SavePath.visible {client : VyosClient} {resp : Json} {saves : List Event}
    {saved : Bool × Json} (hsave : SavePath client resp saves saved) :
    Prog.visible Statement.touches saves = saves := by
  cases hsave <;> rfl

/-- The save step issues only a save. -/
theorem SavePath.eq_save {client : VyosClient} {resp : Json} {saves : List Event}
    {saved : Bool × Json} (hsave : SavePath client resp saves saved) {x : Event} (hx : x ∈ saves) :
    ∃ v, x = ⟨.save client none, v⟩ := by
  cases hsave with
  | skipped => cases hx
  | answered saveResp => exact ⟨_, List.mem_singleton.1 hx⟩
  | lost e => exact ⟨_, List.mem_singleton.1 hx⟩

/-- **What a commit goes through.** -/
theorem follows_commit {claims : Claims} {id : Uuid} {h : List Event} {q : Handler Response}
    (hf : Prog.Follows (commit claims id) h q) :
    CommitPath claims id (Prog.visible Statement.touches h) q.outcome := by
  have hnot : ∀ {q : Handler Response}, (∀ b, q ≠ .ret b) → ∀ x, q.outcome ≠ some (.ok x) := by
    intro q hq x
    cases q with
    | ret b => exact absurd rfl (hq b)
    | fail e => simp
    | call e k => simp
  rcases Prog.follows_silent_bind (authorizeRouter_inspects claims id).silent hf with
    ⟨hnil, hne⟩ | ⟨s, h', a, rfl, -, hvis, hf'⟩
  · rw [hnil]
    exact CommitPath.idle (hnot hne)
  · rw [hvis]
    rcases follows_sql_bind hf' with ⟨rfl, hq⟩ | ⟨e, rfl, rfl⟩ | ⟨rows, h₁, rfl, hf₁⟩
    · exact CommitPath.idle (by simp [hq])
    · exact CommitPath.read (.error e) (by simp)
    · cases rows with
      | nil =>
        obtain ⟨rfl, rfl⟩ := Prog.follows_fail.1 hf₁
        exact CommitPath.read (.ok []) (by simp)
      | cons c cs =>
        rcases Prog.follows_silent_bind (fetchClient_inspects claims id).silent hf₁ with
          ⟨hnil, hne⟩ | ⟨s', h₂, client, rfl, -, hvis', hf₂⟩
        · rw [Prog.visible_cons_of_pos rfl, hnil]
          exact CommitPath.read (.ok (c :: cs)) (hnot hne)
        · rw [Prog.visible_cons_of_pos rfl, hvis']
          rcases follows_device_bind hf₂ with ⟨rfl, hq⟩ | ⟨e, rfl, rfl⟩ | ⟨resp, h₃, rfl, hf₃⟩
          · exact CommitPath.read (.ok (c :: cs)) (by simp [hq])
          · exact CommitPath.lost client e (by simp)
          · rcases follows_saveIfApplied_bind hf₃ with
              ⟨rfl, hq⟩ | ⟨saves, h₄, saved, rfl, hsave, hf₄⟩
            · rw [hq]
              exact CommitPath.sent client resp (by simp)
            · rw [Prog.visible_cons_of_pos rfl, Prog.visible_append, hsave.visible]
              exact follows_record (by simp) hsave hf₄

end VyosFabric
