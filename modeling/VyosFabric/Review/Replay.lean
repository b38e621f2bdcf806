import VyosFabric.Interaction.Contracts
import VyosFabric.Interaction.Ledger
import VyosFabric.Model.LiveConfig
import VyosFabric.Review.Emission
import VyosFabric.Review.ErrorPaths

/-!
# The history replays the device

The commits of a router, with the changes linked to them, tell what its device was made to take, and
which of it was saved for the next boot. After requests that ran one after the other, the history
has one more entry for every batch that the device accepted, with the same commands in the same
order and saved if the device was, exactly if each such batch was accounted for: the answers to it
and to the save came back, and the two writes after them succeeded (`history_iff`). Then the commits
that `list_commits` shows, replayed from the oldest on, lead to the device as it is
(`history_replays`).
-/

namespace VyosFabric

open Interaction Sorting

/-! ### The device and the history -/

/-- The nodes of the config that a device runs, and of the one that it boots with. -/
structure DeviceConfig where
  running : Set Path
  boot : Set Path

/-- A batch that a device accepted, and whether it saved its config then. -/
structure Applied where
  batch : List Command
  saved : Bool
  deriving DecidableEq

/-- The batch that a device accepted in an exchange. -/
def acceptedBatch : Event → Option (List Command)
  | ⟨.configure _ rows, v⟩ => if accepted v then some (rows.map ConfigChange.command) else none
  | _ => none

/-- The device saved its config in an exchange. -/
def savesConfig : Event → Bool
  | ⟨.save _ _, v⟩ => accepted v
  | _ => false

/-- What a device accepted in the exchanges of a request. -/
def appliedIn (h : List Event) : List Applied :=
  (h.filterMap acceptedBatch).map fun batch ↦ ⟨batch, h.any savesConfig⟩

/-- What the device of router `id` accepted from a request. -/
def appliedOf (id : Uuid) (x : Served Statement.Reply AppError Response Call) : List Applied :=
  if x.request.id = id then appliedIn x.events else []

namespace Schema

variable (schema : Schema)

/-- What an exchange does to the device. -/
def take (D : DeviceConfig) : Event → DeviceConfig
  | ⟨.configure _ rows, v⟩ =>
    if accepted v then { D with running := schema.run (rows.map ConfigChange.command) D.running }
    else D
  | ⟨.save _ _, v⟩ => if accepted v then { D with boot := D.running } else D
  | _ => D

/-- What the requests on router `id` made of its device. -/
def deviceAfter (id : Uuid) (tr : List (Served Statement.Reply AppError Response Call))
    (D : DeviceConfig) : DeviceConfig :=
  ((tr.filter fun x ↦ x.request.id = id).flatMap Served.events).foldl schema.take D

/-- A device with a batch applied. -/
def apply (D : DeviceConfig) (a : Applied) : DeviceConfig :=
  let running := schema.run a.batch D.running
  ⟨running, if a.saved then running else D.boot⟩

/-- A device with batches applied, one after the other. -/
def replay (l : List Applied) (D : DeviceConfig) : DeviceConfig := l.foldl schema.apply D

end Schema

/-- What the tables tell of the batches that the device of router `id` accepted, oldest first: for
each commit with success the commands of the changes linked to it. -/
def Database.history (db : Database) (id : Uuid) : List Applied :=
  (db.configCommits.filter fun C ↦ C.routerId == id && C.status == .success).map fun C ↦
    ⟨(db.linked C.id).map ConfigChange.command, C.saved⟩

/-- What an answer of `list_commits`, newest first, tells of them. -/
def replayed (out : List (ConfigCommit × List ConfigChange)) : List Applied :=
  ((out.filter fun p ↦ p.1.status == .success).map fun p ↦
    ⟨p.2.map ConfigChange.command, p.1.saved⟩).reverse

/-- What the device did was accounted for: no answer of it was lost on the way back, every success
was recorded, and its rows were marked. -/
structure AccountedFor (h : List Event) : Prop where
  answered : ∀ client rows f, (⟨.configure client rows, .error f⟩ : Event) ∈ h →
    f.delivery ≠ .applied
  saved : ∀ client file f, (⟨.save client file, .error f⟩ : Event) ∈ h → f.delivery ≠ .applied
  recorded : ∀ n f, n.status = .success → (⟨.insertCommit n, .error f⟩ : Event) ∉ h
  marked : ∀ k r f, (⟨.updateCommitted k r, .error f⟩ : Event) ∉ h

/-- A statement that makes the device do something. -/
def Statement.operates : Statement → Bool
  | configure _ _ => true
  | save _ _ => true
  | _ => false

/-- Without an accepted batch there is no save. -/
theorem SavePath.eq_nil {client : VyosClient} {resp : Json} {saves : List Event}
    {saved : Bool × Json} (hsave : SavePath client resp saves saved)
    (hresp : resp.succeeded = false) : saves = [] := by
  cases hsave with
  | skipped => rfl
  | answered saveResp h | lost e h =>
    rw [hresp] at h
    cases h

section Exchanges

variable {schema : Schema} {r : Uuid} {h t saves : List Event} {rows : List ConfigChange}
  {client : VyosClient} {v : Except Fault Json} {resp : Json} {saved : Bool × Json}
  {D : DeviceConfig}

theorem acceptedBatch_eq_none {x : Event} (hx : x.1.sends = false) : acceptedBatch x = none := by
  obtain ⟨s, v⟩ := x
  cases s <;> first | rfl | cases hx

theorem savesConfig_eq_false {x : Event} (hx : x.1.operates = false) : savesConfig x = false := by
  obtain ⟨s, v⟩ := x
  cases s <;> first | rfl | cases hx

theorem take_eq_self {x : Event} (hx : x.1.operates = false) : schema.take D x = D := by
  obtain ⟨s, v⟩ := x
  cases s <;> first | rfl | cases hx

theorem sends_of_operates {s : Statement} (hs : s.operates = false) : s.sends = false := by
  cases s <;> first | rfl | cases hs

theorem operates_of_touches {s : Statement} (hs : s.touches = false) : s.operates = false := by
  cases s <;> first | rfl | cases hs

theorem foldl_take_eq_self (ht : ∀ x ∈ t, x.1.operates = false) : t.foldl schema.take D = D := by
  induction t with
  | nil => rfl
  | cons x t ih =>
    rw [List.foldl_cons, take_eq_self (ht x List.mem_cons_self)]
    exact ih fun y hy ↦ ht y (List.mem_cons_of_mem x hy)

theorem filterMap_acceptedBatch_eq_nil (ht : ∀ x ∈ t, x.1.sends = false) :
    t.filterMap acceptedBatch = [] :=
  List.filterMap_eq_nil_iff.2 fun x hx ↦ acceptedBatch_eq_none (ht x hx)

theorem appliedIn_eq_nil (ht : ∀ x ∈ t, x.1.sends = false) : appliedIn t = [] := by
  rw [appliedIn, filterMap_acceptedBatch_eq_nil ht, List.map_nil]

theorem any_savesConfig_eq_false (ht : ∀ x ∈ t, x.1.operates = false) :
    t.any savesConfig = false :=
  List.any_eq_false.2 fun x hx ↦ by rw [savesConfig_eq_false (ht x hx)]; decide

/-- What is accepted on a path that sends one batch. -/
theorem appliedIn_sent (ht : ∀ x ∈ t, x.1.sends = false) :
    appliedIn (sentEvents r rows client v ++ t) =
      if accepted v then [⟨rows.map ConfigChange.command, t.any savesConfig⟩] else [] := by
  have hbatches : (sentEvents r rows client v ++ t).filterMap acceptedBatch =
      if accepted v then [rows.map ConfigChange.command] else [] := by
    rw [List.filterMap_append, filterMap_acceptedBatch_eq_nil ht, List.append_nil, sentEvents]
    show ((if accepted v then some _ else none : Option _).toList : List (List Command)) = _
    split <;> rfl
  rw [appliedIn, hbatches]
  split <;> rfl

theorem appliedIn_visible (h : List Event) :
    appliedIn (Prog.visible Statement.touches h) = appliedIn h := by
  have hbatches : (Prog.visible Statement.touches h).filterMap acceptedBatch =
      h.filterMap acceptedBatch := by
    rw [Prog.visible, List.filterMap_filter]
    refine List.filterMap_congr fun x _ ↦ ?_
    split
    · rfl
    · rename_i hx
      exact (acceptedBatch_eq_none
        (sends_of_operates (operates_of_touches (Bool.eq_false_iff.2 hx)))).symm
  have hsaves : (Prog.visible Statement.touches h).any savesConfig = h.any savesConfig := by
    rw [Prog.visible, List.any_filter]
    refine congrArg h.any (funext fun x ↦ ?_)
    cases hx : x.1.touches with
    | true => rfl
    | false => rw [savesConfig_eq_false (operates_of_touches hx), Bool.and_false]
  rw [appliedIn, appliedIn, hbatches, hsaves]

theorem foldl_take_visible (h : List Event) :
    (Prog.visible Statement.touches h).foldl schema.take D = h.foldl schema.take D := by
  induction h generalizing D with
  | nil => rfl
  | cons x h ih =>
    rw [Prog.visible_cons, List.foldl_cons]
    split
    · rw [List.foldl_cons, ih]
    · rename_i hx
      rw [ih, take_eq_self (operates_of_touches (Bool.eq_false_iff.2 hx))]

/-- A path that sends one batch and then saves: the device does what is told of it. -/
theorem foldl_take_sent (hsave : SavePath client resp saves saved)
    (ht : ∀ x ∈ t, x.1.operates = false) :
    (sentEvents r rows client (.ok resp) ++ saves ++ t).foldl schema.take D =
      schema.replay (appliedIn (sentEvents r rows client (.ok resp) ++ saves ++ t)) D := by
  have hno : ∀ x ∈ saves ++ t, x.1.sends = false :=
    no_sends_after_saves hsave fun x hx ↦ sends_of_operates (ht x hx)
  have hsent : (sentEvents r rows client (.ok resp)).foldl schema.take D =
      if resp.succeeded then
        { D with running := schema.run (rows.map ConfigChange.command) D.running }
      else D := rfl
  rw [List.foldl_append, foldl_take_eq_self ht, List.append_assoc, appliedIn_sent hno,
    List.any_append, any_savesConfig_eq_false ht, Bool.or_false, List.foldl_append, hsent]
  cases hsave with
  | skipped hresp =>
    rw [show accepted (.ok resp) = false from hresp, hresp]
    rfl
  | answered saveResp hresp =>
    rw [show accepted (.ok resp) = true from hresp, hresp]
    cases hkept : saveResp.succeeded <;>
      simp [Schema.take, Schema.replay, Schema.apply, savesConfig, accepted, hkept]
  | lost e hresp =>
    rw [show accepted (.ok resp) = true from hresp, hresp]
    cases hkept : e.delivery == .applied <;>
      simp [Schema.take, Schema.replay, Schema.apply, savesConfig, accepted, hkept]

/-- **The device does what is told of it**, on any path of a commit. -/
theorem CommitPath.foldl_take {claims : Claims} {o : Option (Except AppError Response)}
    (hpath : CommitPath claims r h o) : h.foldl schema.take D = schema.replay (appliedIn h) D := by
  cases hpath with
  | idle => rfl
  | read v => rfl
  | @lost rows client e hrows =>
    rw [← List.append_nil (sentEvents r rows client (.error e)), appliedIn_sent (by simp)]
    show (if accepted _ then _ else D) = _
    split <;> rfl
  | sent client resp hrows =>
    rw [← List.append_nil (sentEvents _ _ _ _), appliedIn_sent (by simp)]
    show (if accepted _ then _ else D) = _
    split <;> rfl
  | saved hrows hsave =>
    rw [← List.append_nil (sentEvents _ _ _ _ ++ _)]
    exact foldl_take_sent hsave (by simp)
  | unrecorded hrows hsave | rejected hrows hsave | recorded hrows hsave
  | unmarked hrows hsave | marked hrows hsave =>
    exact foldl_take_sent hsave (by simp [Statement.operates])

/-- A commit saves only after the device has accepted its batch. -/
theorem CommitPath.sends_of_save {claims : Claims} {o : Option (Except AppError Response)}
    (hpath : CommitPath claims r h o) {file : Option String} {w : Except Fault Json}
    (hmem : (⟨.save client file, w⟩ : Event) ∈ h) : ∃ x ∈ h, x.1.sends = true := by
  cases hpath with
  | idle => cases hmem
  | read v => cases List.mem_singleton.1 hmem
  | lost client e | sent client resp =>
    exact ⟨_, List.mem_cons_of_mem _ List.mem_cons_self, rfl⟩
  | saved | unrecorded | rejected | recorded | unmarked | marked =>
    exact ⟨_, List.mem_cons_of_mem _ List.mem_cons_self, rfl⟩

end Exchanges

/-! ### The history and the writes of a commit -/

section Tables

variable {db db' : Database} {id r : Uuid} {s : Statement} {v : s.Reply}

/-- A new commit row has no linked changes yet. -/
theorem history_record (hwf : db.WellFormed) (id : Uuid) (now : Timestamp) (n : NewConfigCommit) :
    (db.record (db.newCommit now n)).history id =
      db.history id ++ if n.routerId = id ∧ n.status = .success then [⟨[], n.saved⟩] else [] := by
  have hlinked : (db.record (db.newCommit now n)).linked (db.newCommit now n).id = [] :=
    hwf.linked_nextCommit
  show (List.filter _ (db.configCommits ++ [_])).map _ = _
  rw [List.filter_append, List.map_append]
  refine congrArg (db.history id ++ ·) ?_
  by_cases hn : n.routerId = id ∧ n.status = .success
  · rw [if_pos hn, List.filter_cons_of_pos, List.filter_nil, List.map_singleton, hlinked]
    · rfl
    · simpa [Database.newCommit] using hn
  · rw [if_neg hn, List.filter_cons_of_neg, List.filter_nil, List.map_nil]
    simpa [Database.newCommit] using hn

/-- **A marked commit** tells the tray it marks, and no other commit tells anything else. -/
theorem history_recordAndMark (hwf : db.WellFormed) (hdone : ∀ k, db.LinkedDone k) (id r : Uuid)
    (now : Timestamp) (n : NewConfigCommit) :
    (db.recordAndMark (db.newCommit now n) r).history id =
      db.history id ++ if n.routerId = id ∧ n.status = .success then
        [⟨(db.pending r).map ConfigChange.command, n.saved⟩] else [] := by
  have hmark := exec_recordAndMark db r now n
  have hnew : (db.recordAndMark (db.newCommit now n) r).linked (db.newCommit now n).id =
      (db.pending r).map fun c ↦ c.mark db.nextCommit :=
    linked_markCommitted hwf.linked_nextCommit
  have hold : ∀ C ∈ db.configCommits,
      (db.recordAndMark (db.newCommit now n) r).linked C.id = db.linked C.id := by
    intro C hC
    refine exec_linked hmark (hdone C.id) fun r' rows heq ↦ (hwf.commitId_lt C hC).ne ?_
    exact (Statement.updateCommitted.inj (congrArg Sigma.fst heq)).1.symm
  show (List.filter _ (db.configCommits ++ [_])).map _ = _
  rw [List.filter_append, List.map_append]
  refine congrArg₂ (· ++ ·) (List.map_congr_left fun C hC ↦ ?_) ?_
  · rw [hold C (List.mem_filter.1 hC).1]
  · by_cases hn : n.routerId = id ∧ n.status = .success
    · rw [if_pos hn, List.filter_cons_of_pos, List.filter_nil, List.map_singleton, hnew,
        List.map_map]
      · rfl
      · simpa [Database.newCommit] using hn
    · rw [if_neg hn, List.filter_cons_of_neg, List.filter_nil, List.map_nil]
      simpa [Database.newCommit] using hn

/-- No other statement changes what the tables tell. -/
theorem history_of_exec (h : exec s v db = some db') (hdone : ∀ k, db.LinkedDone k)
    (hins : ∀ n, s ≠ .insertCommit n) (hupd : ∀ k r, s ≠ .updateCommitted k r) :
    db'.history id = db.history id := by
  have hlinked : ∀ k, db'.linked k = db.linked k := fun k ↦
    exec_linked h (hdone k) fun r rows heq ↦ hupd k r (congrArg Sigma.fst heq)
  have hcommits : db'.configCommits = db.configCommits := by
    cases exec_effect h with
    | look | delete | insert => rfl
    | record now c => exact absurd rfl (hins c)
    | update k r => exact absurd rfl (hupd k r)
  simp only [Database.history, hlinked, hcommits]

/-- Rows keep the time they were inserted at. -/
theorem createdAt_sublist_of_exec {x : Event} (hstep : exec x.1 x.2 db = some db') :
    (db'.configChanges.map ConfigChange.createdAt).Sublist
      ((db.configChanges ++ (insertedRow x).toList).map ConfigChange.createdAt) := by
  cases hmarks : x.1.marks with
  | false =>
    rw [configChanges_of_exec hstep hmarks]
    exact (List.filter_sublist.append_right _).map _
  | true =>
    obtain ⟨s, v⟩ := x
    cases exec_effect hstep with
    | update k r rows =>
      have hmap : (db.markCommitted k r).map ConfigChange.createdAt =
          db.configChanges.map ConfigChange.createdAt := by
        rw [Database.markCommitted, List.map_map]
        refine List.map_congr_left fun c _ ↦ ?_
        show (if c.isPending r then c.mark k else c).createdAt = c.createdAt
        split <;> rfl
      show ((db.markCommitted k r).map _).Sublist _
      rw [hmap]
      exact (List.sublist_append_left _ _).map _
    | look => exact (List.sublist_append_left _ _).map _
    | _ => cases hmarks

theorem createdAt_sublist {h : List Event} (hexec : execAll exec h db = some db') :
    (db'.configChanges.map ConfigChange.createdAt).Sublist
      ((db.configChanges ++ insertsOf h).map ConfigChange.createdAt) := by
  induction h generalizing db with
  | nil =>
    obtain rfl := Option.some.inj hexec
    rw [insertsOf_nil, List.append_nil]
  | cons x h ih =>
    obtain ⟨n, hstep, hrest⟩ := execAll_cons_eq_some.1 hexec
    have hone := createdAt_sublist_of_exec hstep
    rw [insertsOf_cons, ← List.append_assoc, List.map_append]
    refine (ih hrest).trans ?_
    rw [List.map_append]
    exact hone.append_right _

end Tables

/-! ### What a request enters -/

section Entries

variable {m m' : Database} {claims : Claims} {id r : Uuid} {h t saves : List Event}
  {rows : List ConfigChange} {client : VyosClient} {v : Except Fault Json} {resp : Json}
  {saved : Bool × Json}

theorem accountedFor_visible_iff :
    AccountedFor (Prog.visible Statement.touches h) ↔ AccountedFor h := by
  have hmem : ∀ {x : Event}, x.1.touches = true →
      (x ∈ Prog.visible Statement.touches h ↔ x ∈ h) := fun hx ↦
    Prog.mem_visible.trans (and_iff_left hx)
  constructor
  · intro hall
    exact
      { answered := fun client rows f hx ↦ hall.answered client rows f ((hmem rfl).2 hx)
        saved := fun client file f hx ↦ hall.saved client file f ((hmem rfl).2 hx)
        recorded := fun n f hn hx ↦ hall.recorded n f hn ((hmem rfl).2 hx)
        marked := fun k r f hx ↦ hall.marked k r f ((hmem rfl).2 hx) }
  · intro hall
    exact
      { answered := fun client rows f hx ↦ hall.answered client rows f ((hmem rfl).1 hx)
        saved := fun client file f hx ↦ hall.saved client file f ((hmem rfl).1 hx)
        recorded := fun n f hn hx ↦ hall.recorded n f hn ((hmem rfl).1 hx)
        marked := fun k r f hx ↦ hall.marked k r f ((hmem rfl).1 hx) }

/-- Exchanges that neither reach the device nor write have nothing to account for. -/
theorem accountedFor_of_quiet (hno : ∀ x ∈ h, x.1.operates = false)
    (hins : ∀ x ∈ h, ∀ n, x.1 ≠ .insertCommit n)
    (hupd : ∀ x ∈ h, ∀ k r, x.1 ≠ .updateCommitted k r) : AccountedFor h where
  answered client rows f hx := by cases hno _ hx
  saved client file f hx := by cases hno _ hx
  recorded n f _ hx := hins _ hx n rfl
  marked k r f hx := hupd _ hx k r rfl

/-- Whether the one batch of a path was accounted for. -/
theorem accountedFor_sent_iff (hno : ∀ x ∈ t, x.1.sends = false) :
    AccountedFor (sentEvents r rows client v ++ t) ↔
      (∀ f, v = .error f → f.delivery ≠ .applied) ∧
        (∀ client' file f, (⟨.save client' file, .error f⟩ : Event) ∈ t → f.delivery ≠ .applied) ∧
        (∀ n f, n.status = .success → (⟨.insertCommit n, .error f⟩ : Event) ∉ t) ∧
        ∀ k r f, (⟨.updateCommitted k r, .error f⟩ : Event) ∉ t := by
  have hmem : ∀ {x : Event}, x ∉ sentEvents r rows client v →
      (x ∈ sentEvents r rows client v ++ t ↔ x ∈ t) := fun hx ↦
    ⟨fun hmem ↦ (List.mem_append.1 hmem).resolve_left hx, List.mem_append_right _⟩
  have hanswer : (∀ client' rows' v', (⟨.configure client' rows', v'⟩ : Event) ∈
      sentEvents r rows client v ++ t → ∀ f, v' = .error f → f.delivery ≠ .applied) ↔
        ∀ f, v = .error f → f.delivery ≠ .applied :=
    forall_configure_iff (P := fun _ _ v ↦ ∀ f, v = .error f → f.delivery ≠ .applied) hno
  constructor
  · intro hall
    refine ⟨hanswer.1 fun client' rows' v' hx f hf ↦ ?_, fun client' file f hx ↦ ?_,
      fun n f hn hx ↦ ?_, fun k r f hx ↦ ?_⟩
    · rw [hf] at hx
      exact hall.answered client' rows' f hx
    · exact hall.saved client' file f (List.mem_append_right _ hx)
    · exact hall.recorded n f hn (List.mem_append_right _ hx)
    · exact hall.marked k r f (List.mem_append_right _ hx)
  · rintro ⟨hok, hsaved, hrecorded, hmarked⟩
    exact
      { answered := fun client' rows' f hx ↦ hanswer.2 hok client' rows' (.error f) hx f rfl
        saved := fun client' file f hx ↦ hsaved client' file f ((hmem (by simp [sentEvents])).1 hx)
        recorded := fun n f hn hx ↦ hrecorded n f hn ((hmem (by simp [sentEvents])).1 hx)
        marked := fun k r f hx ↦ hmarked k r f ((hmem (by simp [sentEvents])).1 hx) }

/-- After an accepted batch, the save is accounted for just if what is told of it is right. -/
theorem saved_iff (hsave : SavePath client resp saves saved) (hresp : resp.succeeded = true)
    (ht : ∀ x ∈ t, x.1.operates = false) :
    (saves ++ t).any savesConfig = saved.1 ↔
      ∀ client' file f, (⟨.save client' file, .error f⟩ : Event) ∈ saves ++ t →
        f.delivery ≠ .applied := by
  have hmem : ∀ {client' file f}, (⟨.save client' file, .error f⟩ : Event) ∈ saves ++ t ↔
      (⟨.save client' file, .error f⟩ : Event) ∈ saves := fun {client' file f} ↦ by
    refine ⟨fun hx ↦ (List.mem_append.1 hx).resolve_right fun hx ↦ ?_, List.mem_append_left _⟩
    cases ht _ hx
  simp only [hmem, List.any_append, any_savesConfig_eq_false ht, Bool.or_false]
  cases hsave with
  | skipped hresp' => rw [hresp] at hresp'; cases hresp'
  | answered saveResp => simp [savesConfig, accepted]
  | lost e =>
    simp only [List.any_cons, List.any_nil, savesConfig, accepted, Bool.or_false,
      beq_eq_false_iff_ne, List.mem_singleton]
    constructor
    · intro he client' file f heq
      cases heq
      exact he
    · intro hall
      exact hall client none e rfl

/-- **What a finished commit enters**, the tray it found being sorted: the batch that the device
accepted, if it was accounted for; an empty batch, if its rows were not marked. -/
theorem CommitEnd.entered (hwf : m.WellFormed) (hdone : ∀ k, m.LinkedDone k)
    (hend : CommitEnd claims r m h m')
    (hsent : ∀ client rows v, (⟨.configure client rows, v⟩ : Event) ∈ h → rows = m.pending r)
    (hsaves : ∀ client file v, (⟨.save client file, v⟩ : Event) ∈ h → ∃ x ∈ h, x.1.sends = true) :
    ∃ told, m'.history r = m.history r ++ told ∧ Entered (appliedIn h) told (AccountedFor h) := by
  cases hend with
  | unsent hno hwrites =>
    refine ⟨[], (List.append_nil _).symm, ?_⟩
    rw [appliedIn_eq_nil hno]
    refine .nothing (accountedFor_of_quiet (fun x hx ↦ ?_) (fun x hx n hn ↦ ?_)
      fun x hx k r hkr ↦ ?_)
    · obtain ⟨s, v⟩ := x
      cases s with
      | configure => cases hno _ hx
      | save client file =>
        obtain ⟨y, hy, hsends⟩ := hsaves client file v hx
        rw [hno y hy] at hsends
        cases hsends
      | _ => rfl
    · cases hn ▸ hwrites x hx
    · cases hkr ▸ hwrites x hx
  | @lost rows client e hperm =>
    have hno : ∀ x ∈ ([] : List Event), x.1.sends = false := by simp
    refine ⟨[], (List.append_nil _).symm, ?_⟩
    rw [← List.append_nil (sentEvents r rows client (.error e)), appliedIn_sent hno]
    by_cases hacc : accepted (.error e) = true
    · rw [if_pos hacc]
      refine .missed (List.cons_ne_nil _ _) fun hall ↦ ?_
      exact ((accountedFor_sent_iff hno).1 hall).1 e rfl (beq_iff_eq.1 hacc)
    · rw [if_neg hacc]
      refine .nothing ((accountedFor_sent_iff hno).2
        ⟨fun f hf happlied ↦ ?_, by simp, by simp, by simp⟩)
      cases hf
      exact hacc (beq_iff_eq.2 happlied)
  | @unrecorded rows client resp saves saved hperm hsave e =>
    have hno : ∀ x ∈ saves ++ [⟨.insertCommit (commitRecord claims r rows resp saved), .error e⟩],
        x.1.sends = false :=
      no_sends_after_saves hsave (by simp [Statement.sends])
    refine ⟨[], (List.append_nil _).symm, ?_⟩
    rw [List.append_assoc, appliedIn_sent hno]
    cases hresp : resp.succeeded with
    | true =>
      rw [show accepted (.ok resp) = true from hresp, if_pos rfl]
      refine .missed (List.cons_ne_nil _ _) fun hall ↦ ?_
      exact ((accountedFor_sent_iff hno).1 hall).2.2.1 _ e (commitRecord_status_of_succeeded hresp)
        (List.mem_append_right _ List.mem_cons_self)
    | false =>
      rw [show accepted (.ok resp) = false from hresp, if_neg (by decide)]
      obtain rfl := hsave.eq_nil hresp
      refine .nothing ((accountedFor_sent_iff hno).2
        ⟨(fun f hf ↦ by cases hf), by simp, fun n f hn hmem ↦ ?_, by simp⟩)
      cases List.mem_singleton.1 hmem
      rw [commitRecord_status_of_rejected hresp] at hn
      cases hn
  | @rejected rows client resp saves saved hperm hsave hresp now =>
    obtain rfl := hsave.eq_nil hresp
    have hstatus : (commitRecord claims r rows resp saved).status = .failed :=
      commitRecord_status_of_rejected hresp
    refine ⟨[], ?_, ?_⟩
    · rw [history_record hwf, if_neg fun hn ↦ by rw [hstatus] at hn; cases hn.2]
    · have hno : ∀ x ∈ [(⟨.insertCommit (commitRecord claims r rows resp saved),
          .ok (m.newCommit now (commitRecord claims r rows resp saved))⟩ : Event)],
          x.1.sends = false := by
        simp [Statement.sends]
      rw [recordedEvents, List.append_nil, appliedIn_sent hno,
        show accepted (.ok resp) = false from hresp, if_neg (by decide)]
      exact .nothing ((accountedFor_sent_iff hno).2
        ⟨(fun f hf ↦ by cases hf), by simp, by simp, by simp⟩)
  | @unmarked rows client resp saves saved hrows hperm hsave hresp now e =>
    have hno : ∀ x ∈ saves ++ [(⟨.insertCommit (commitRecord claims r rows resp saved),
        .ok (m.newCommit now (commitRecord claims r rows resp saved))⟩ : Event),
        ⟨.updateCommitted m.nextCommit r, .error e⟩], x.1.sends = false :=
      no_sends_after_saves hsave (by simp [Statement.sends])
    refine ⟨[⟨[], saved.1⟩], ?_, ?_⟩
    · rw [history_record hwf, if_pos ⟨rfl, commitRecord_status_of_succeeded hresp⟩]
      rfl
    · rw [recordedEvents, List.append_assoc, List.append_assoc, List.singleton_append,
        appliedIn_sent hno, show accepted (.ok resp) = true from hresp, if_pos rfl]
      refine ⟨Nat.le_refl _, iff_of_false (fun heq ↦ ?_) fun hall ↦ ?_⟩
      · have hbatch := congrArg Applied.batch (List.cons.inj heq).1
        exact hrows (List.map_eq_nil_iff.1 hbatch.symm)
      · exact ((accountedFor_sent_iff hno).1 hall).2.2.2 _ _ e
          (List.mem_append_right _ (List.mem_cons_of_mem _ List.mem_cons_self))
  | @marked rows client resp saves saved hrows hperm hsave hresp now changes =>
    have hlast : ∀ x ∈ [(⟨.insertCommit (commitRecord claims r rows resp saved),
        .ok (m.newCommit now (commitRecord claims r rows resp saved))⟩ : Event),
        ⟨.updateCommitted m.nextCommit r, .ok changes⟩], x.1.operates = false := by
      simp [Statement.operates]
    have hno := no_sends_after_saves hsave fun x hx ↦ sends_of_operates (hlast x hx)
    have hbatch : rows = m.pending r :=
      hsent client rows (.ok resp)
        (List.mem_append_left _ (configure_mem_recordedEvents resp saves saved _))
    refine ⟨[⟨rows.map ConfigChange.command, saved.1⟩], ?_, ?_⟩
    · rw [history_recordAndMark hwf hdone, if_pos ⟨rfl, commitRecord_status_of_succeeded hresp⟩,
        ← hbatch]
      rfl
    · rw [recordedEvents, List.append_assoc, List.append_assoc, List.singleton_append,
        appliedIn_sent hno, show accepted (.ok resp) = true from hresp, if_pos rfl]
      refine ⟨Nat.le_refl _, ?_⟩
      have hsaved := saved_iff hsave hresp hlast
      rw [accountedFor_sent_iff hno, ← hsaved, List.cons.injEq, Applied.mk.injEq]
      refine ⟨fun heq ↦ ⟨(fun f hf ↦ by cases hf), heq.1.2.symm, fun n f _ hmem ↦ ?_,
        fun k r' f hmem ↦ ?_⟩, fun hall ↦ ⟨⟨rfl, hall.2.1.symm⟩, rfl⟩⟩
      · rcases List.mem_pair.1 (mem_of_mem_saves_append hsave rfl hmem) with heq | heq <;> cases heq
      · rcases List.mem_pair.1 (mem_of_mem_saves_append hsave rfl hmem) with heq | heq <;> cases heq

/-- A commit on another router tells nothing of this one. -/
theorem CommitEnd.history_eq (hwf : m.WellFormed) (hdone : ∀ k, m.LinkedDone k)
    (hend : CommitEnd claims r m h m') (hr : r ≠ id) : m'.history id = m.history id := by
  cases hend with
  | unsent | lost | unrecorded => rfl
  | rejected | unmarked =>
    rw [history_record hwf, if_neg fun hn ↦ hr hn.1, List.append_nil]
  | marked =>
    rw [history_recordAndMark hwf hdone, if_neg fun hn ↦ hr hn.1, List.append_nil]

end Entries

section Runs

variable {db db' m m' : Database} {id : Uuid} {h : List Event} {claims : Claims}
  {x : Served Statement.Reply AppError Response Call}
  {tr : List (Served Statement.Reply AppError Response Call)}
  {out : List (ConfigCommit × List ConfigChange)} {commits : List ConfigCommit}

/-- A request that is no commit neither reaches the device nor records nor marks. -/
theorem quiet_of_completes (hx : Completes exec x.request.handle m x.events x.answer m')
    (hc : x.request.request ≠ .commit) :
    (∀ y ∈ x.events, y.1.operates = false) ∧ (∀ y ∈ x.events, ∀ n, y.1 ≠ .insertCommit n) ∧
      ∀ y ∈ x.events, ∀ k r, y.1 ≠ .updateCommitted k r := by
  have hissue := mayIssue_of_completes hx
  refine ⟨fun y hy ↦ ?_, fun y hy n hn ↦ ?_, fun y hy k r hkr ↦ ?_⟩
  · have hmay := hissue y hy
    cases hs : y.1 <;> first | rfl | exact absurd (by simpa [hs, Call.mayIssue] using hmay) hc
  · have hmay := hissue y hy
    rw [hn, Call.mayIssue, Bool.and_eq_true, beq_iff_eq, beq_iff_eq] at hmay
    exact hc hmay.2
  · have hmay := hissue y hy
    rw [hkr, Call.mayIssue, Bool.and_eq_true, beq_iff_eq, beq_iff_eq] at hmay
    exact hc hmay.2

/-- **What a request that ran alone enters.** -/
theorem entered_of_completes (hwf : m.WellFormed) (hdone : ∀ k, m.LinkedDone k)
    (hcreated : m.configChanges.Pairwise fun c d ↦ c.createdAt < d.createdAt) (id : Uuid)
    (hx : Completes exec x.request.handle m x.events x.answer m') :
    ∃ told, m'.history id = m.history id ++ told ∧
      Entered (appliedOf id x) told (x.request.id = id → AccountedFor x.events) := by
  by_cases hc : x.request.request = .commit
  · have hrun : Completes exec (commit x.request.claims x.request.id) m x.events x.answer m' := by
      rw [Call.handle, hc] at hx
      exact hx
    have hend := commitEnd_of_completes hrun
    by_cases hid : x.request.id = id
    · obtain ⟨q, hf, -⟩ := hrun.ends
      obtain ⟨told, hlog, hentered⟩ := hend.entered hwf hdone
        (fun client rows v hmem ↦ (orderedBy_of_sent hrun (Prog.mem_visible.1 hmem).1).eq_table
          (hcreated.sublist List.filter_sublist))
        fun client file v hmem ↦ (follows_commit hf).sends_of_save hmem
      rw [appliedIn_visible, accountedFor_visible_iff] at hentered
      rw [hid] at hlog
      refine ⟨told, hlog, ?_⟩
      rw [appliedOf, if_pos hid]
      exact ⟨hentered.length_le, hentered.eq_iff.trans ⟨fun hall _ ↦ hall, fun hall ↦ hall hid⟩⟩
    · refine ⟨[], (hend.history_eq hwf hdone hid).trans (List.append_nil _).symm, ?_⟩
      rw [appliedOf, if_neg hid]
      exact .nothing fun heq ↦ absurd heq hid
  · obtain ⟨hno, hins, hupd⟩ := quiet_of_completes hx hc
    have hsame : (∀ k, m'.LinkedDone k) ∧ m'.history id = m.history id :=
      execAll_invariant (P := fun d ↦ (∀ k, d.LinkedDone k) ∧ d.history id = m.history id)
        (fun y hy _ _ hstep hd ↦ ⟨fun k ↦ exec_linkedDone hstep (hd.1 k),
          (history_of_exec hstep hd.1 (hins y hy) (hupd y hy)).trans hd.2⟩)
        hx.execs ⟨hdone, rfl⟩
    refine ⟨[], hsame.2.trans (List.append_nil _).symm, ?_⟩
    rw [appliedOf, appliedIn_eq_nil fun y hy ↦ sends_of_operates (hno y hy), ite_self]
    exact .nothing fun _ ↦ accountedFor_of_quiet hno hins hupd

/-- **The device does what is told of it**, request after request. -/
theorem deviceAfter_eq {schema : Schema} {D : DeviceConfig}
    (hrun : Serial exec Call.handle db tr db') :
    schema.deviceAfter id tr D = schema.replay (tr.flatMap (appliedOf id)) D := by
  induction hrun generalizing D with
  | nil => rfl
  | @cons s m s' x tr hx _ ih =>
    rw [Schema.deviceAfter, List.flatMap_cons, Schema.replay, List.foldl_append, appliedOf,
      List.filter_cons]
    by_cases hid : x.request.id = id
    · have hone : x.events.foldl schema.take D = schema.replay (appliedIn x.events) D := by
        by_cases hc : x.request.request = .commit
        · rw [Call.handle, hc] at hx
          obtain ⟨q, hf, -⟩ := hx.ends
          rw [← foldl_take_visible, ← appliedIn_visible]
          exact (follows_commit hf).foldl_take
        · have hno := (quiet_of_completes hx hc).1
          rw [foldl_take_eq_self hno, appliedIn_eq_nil fun y hy ↦ sends_of_operates (hno y hy)]
          rfl
      rw [if_pos (decide_eq_true hid), if_pos hid, List.flatMap_cons, List.foldl_append, hone]
      exact ih
    · rw [if_neg (mt of_decide_eq_true hid), if_neg hid]
      exact ih

/-- **The history of a run** has an entry for each batch that the device accepted, with its commands
and whether it was saved, exactly if all of them were accounted for. -/
theorem history_iff (id : Uuid) (hdb : db.Consistent) (hrun : Serial exec Call.handle db tr db')
    (hcreated : (db.configChanges ++ insertsOf (tr.flatMap Served.events)).Pairwise fun c d ↦
      c.createdAt < d.createdAt) :
    db'.history id = db.history id ++ tr.flatMap (appliedOf id) ↔
      ∀ x ∈ tr, x.request.id = id → AccountedFor x.events := by
  refine hrun.ledger_iff (fun d : Database ↦ d.history id)
    fun pre x post m m' hsplit hpre hx ↦ ?_
  have hexec := execAll_of_serial hpre
  have hdone : ∀ k, m.LinkedDone k := fun k ↦
    execAll_invariant (fun _ _ _ _ hstep ↦ exec_linkedDone hstep) hexec (hdb.linkedDone k)
  refine entered_of_completes (execAll_wellFormed hexec hdb.wellFormed) hdone ?_ id hx
  have hinserts : (insertsOf (pre.flatMap Served.events)).Sublist
      (insertsOf (tr.flatMap Served.events)) := by
    rw [hsplit, List.flatMap_append, insertsOf_append]
    exact List.sublist_append_left _ _
  have htimes := (hcreated.sublist (hinserts.append_left _)).map ConfigChange.createdAt
    fun _ _ hlt ↦ hlt
  exact List.pairwise_map.1 (htimes.sublist (createdAt_sublist hexec))

/-! ### What is listed -/

/-- A request that only looks is answered from the tables it finds. -/
theorem exec_of_silent (hsilent : ∀ y ∈ h, y.1.touches = false)
    (hexec : execAll exec h m = some m') : ∀ y ∈ h, exec y.1 y.2 m = some m := by
  induction h with
  | nil => simp
  | cons x h ih =>
    obtain ⟨n, hstep, hrest⟩ := execAll_cons_eq_some.1 hexec
    obtain rfl := exec_eq_of_silent (hsilent x List.mem_cons_self) hstep
    intro y hy
    rcases List.mem_cons.1 hy with rfl | hy
    · exact hstep
    · exact ih (fun z hz ↦ hsilent z (List.mem_cons_of_mem x hz)) hrest y hy

/-- The program is answered from the tables `m`, and returns what `Q` says. -/
abbrev Looks (m : Database) {α : Type} (Q : α → Prop) (p : Handler α) : Prop :=
  p.Meets (fun s v ↦ exec s v m = some m) (fun _ ↦ True) Q

theorem sql_looks {s : Statement} {Q : s.Value → Prop} (hQ : ∀ v, exec s (.ok v) m = some m → Q v) :
    Looks m Q (sql s) := by
  refine ⟨trivial, fun v hv ↦ ?_⟩
  cases v with
  | error e => trivial
  | ok v => exact hQ v hv

/-- If the rows were inserted one after the other, the changes of a commit are listed as they stand
in the table. -/
theorem linkedChanges_looks
    (hcreated : m.configChanges.Pairwise fun c d ↦ c.createdAt < d.createdAt)
    (commits : List ConfigCommit) :
    Looks m (fun out ↦ out = commits.map fun C ↦ (C, m.linked C.id)) (linkedChanges commits) := by
  induction commits with
  | nil => rfl
  | cons C commits ih =>
    refine Prog.Meets.bind (Q := fun changes ↦ changes = m.linked C.id)
      (sql_looks fun changes hchanges ↦ ?_) fun changes hchanges ↦ ?_
    · obtain ⟨⟨hperm, hsorted⟩, -⟩ := of_guarded hchanges
      exact OrderedBy.eq_table ⟨hperm, hsorted⟩ (hcreated.sublist List.filter_sublist)
    · refine Prog.Meets.bind ih fun rest hrest ↦ ?_
      show (C, changes) :: rest = _
      rw [hchanges, hrest]
      rfl

/-- The answer of `list_commits`. -/
theorem listCommits_looks
    (hcreated : m.configChanges.Pairwise fun c d ↦ c.createdAt < d.createdAt) (claims : Claims)
    (id : Uuid) :
    Looks m (fun b ↦ ∃ commits,
      latest (m.configCommits.filter fun C ↦ C.routerId == id) commits = true ∧
        b = .commits (commits.map fun C ↦ (C, m.linked C.id))) (listCommits claims id) := by
  refine Prog.Meets.bind (Q := fun _ ↦ True)
    (Prog.Issues.meets ((authorizeRouter_inspects claims id).mono fun _ _ ↦ trivial)) fun _ _ ↦ ?_
  refine Prog.Meets.bind (Q := fun commits : List ConfigCommit ↦
    latest (m.configCommits.filter fun C ↦ C.routerId == id) commits = true)
    (sql_looks fun commits hcommits ↦ (of_guarded hcommits).1) fun commits hcommits ↦ ?_
  refine Prog.Meets.bind (linkedChanges_looks hcreated commits) fun out hout ↦ ?_
  exact ⟨commits, hcommits, congrArg Response.commits hout⟩

/-- The latest commits, newest first, tell the end of the history; all of it, if there are 50 at
most. -/
theorem replayed_of_latest
    (hcommitted : (m.configCommits.filter fun C ↦ C.routerId == id).Pairwise fun C D ↦
      C.committedAt < D.committedAt)
    (hlatest : latest (m.configCommits.filter fun C ↦ C.routerId == id) commits = true) :
    replayed (commits.map fun C ↦ (C, m.linked C.id)) <:+ m.history id ∧
      ((m.configCommits.filter fun C ↦ C.routerId == id).length ≤ 50 →
        replayed (commits.map fun C ↦ (C, m.linked C.id)) = m.history id) := by
  let told : List ConfigCommit → List Applied := fun l ↦
    (l.filter fun C ↦ C.status == .success).map fun C ↦
      ⟨(m.linked C.id).map ConfigChange.command, C.saved⟩
  have hhistory : m.history id = told (m.configCommits.filter fun C ↦ C.routerId == id) := by
    show _ = ((m.configCommits.filter _).filter _).map _
    rw [List.filter_filter, Database.history]
    refine congrArg (List.map _) (List.filter_congr fun C _ ↦ ?_)
    exact Bool.and_comm _ _
  have hreplayed : replayed (commits.map fun C ↦ (C, m.linked C.id)) = told commits.reverse := by
    rw [replayed, List.filter_map, List.map_map, ← List.map_reverse, ← List.filter_reverse]
    rfl
  rw [hhistory, hreplayed]
  simp only [latest, Bool.and_eq_true, List.all_eq_true, decide_eq_true_iff, Bool.or_eq_true,
    List.contains_iff_mem] at hlatest
  obtain ⟨⟨⟨⟨hmem, hnodup⟩, hlen⟩, hsorted⟩, hupper⟩ := hlatest
  have hsuffix : commits.reverse <:+ m.configCommits.filter fun C ↦ C.routerId == id := by
    refine isSuffix_of_latest hcommitted (List.nodup_reverse.2 hnodup)
      (List.pairwise_reverse.2 hsorted) (fun C hC ↦ hmem C (List.mem_reverse.1 hC)) fun C hC ↦ ?_
    exact (hupper C hC).imp List.mem_reverse.2 fun h D hD ↦ h D (List.mem_reverse.1 hD)
  refine ⟨(hsuffix.filter _).map _, fun hfew ↦ ?_⟩
  rw [hsuffix.eq_of_length (by rw [List.length_reverse, hlen, min_eq_right hfew])]

/-- **The history replays the device.** Requests ran one after the other, from consistent tables, on
a clock that shows no time twice. The history of a router has gained exactly what its device
accepted in that time, batch by batch and saved or not, just if all of it was accounted for. And
`list_commits`, read from the oldest on, shows the end of the history: on a router that began
without one, if all was accounted for and there are 50 commits at most, the commits listed lead from
the device as it was, the config it runs and the one it boots with, to the device as it is. -/
theorem history_replays (hdb : db.Consistent) (hrun : Serial exec Call.handle db tr db')
    (hcreated : (db.configChanges ++ insertsOf (tr.flatMap Served.events)).Pairwise fun c d ↦
      c.createdAt < d.createdAt)
    (hcommitted : (db'.configCommits.filter fun C ↦ C.routerId == id).Pairwise fun C D ↦
      C.committedAt < D.committedAt) :
    (db'.history id = db.history id ++ tr.flatMap (appliedOf id) ↔
        ∀ x ∈ tr, x.request.id = id → AccountedFor x.events) ∧
      ∀ claims h out m, Completes exec (listCommits claims id) db' h (.ok (.commits out)) m →
        replayed out <:+ db'.history id ∧
          ((∀ x ∈ tr, x.request.id = id → AccountedFor x.events) → db.history id = [] →
            (db'.configCommits.filter fun C ↦ C.routerId == id).length ≤ 50 →
            ∀ (schema : Schema) D,
              schema.replay (replayed out) D = schema.deviceAfter id tr D) := by
  have hiff := history_iff id hdb hrun hcreated
  refine ⟨hiff, fun claims h out m hlist ↦ ?_⟩
  have htimes : db'.configChanges.Pairwise fun c d ↦ c.createdAt < d.createdAt :=
    List.pairwise_map.1 ((hcreated.map ConfigChange.createdAt fun _ _ hlt ↦ hlt).sublist
      (createdAt_sublist (execAll_of_serial hrun)))
  obtain ⟨q, hf, hq⟩ := hlist.ends
  obtain rfl := Prog.outcome_eq_ok.1 hq
  have hsilent := ((listCommits_silent claims id).of_follows hf).1
  obtain ⟨commits, hlatest, heq⟩ := (listCommits_looks htimes claims id).of_returned hf
    (exec_of_silent hsilent hlist.execs)
  obtain rfl := Response.commits.inj heq
  obtain ⟨hsuffix, hall⟩ := replayed_of_latest hcommitted hlatest
  refine ⟨hsuffix, fun haccounted hnone hfew schema D ↦ ?_⟩
  rw [deviceAfter_eq hrun, hall hfew, hiff.2 haccounted, hnone, List.nil_append]

end Runs

/-- Deleting a VLAN, and the commit of that. -/
def sampleServed : List (Served Statement.Reply AppError Response Call) :=
  [servedDelete 0, servedCommit [sampleRow 0]]

/-- The tables after that. -/
def sampleListed : Database :=
  (sampleDatabase [sampleRow 0]).recordAndMark (sampleCommit [sampleRow 0]) 0

/-- The exchanges of listing that commit. -/
def sampleListing : List Event :=
  [⟨.selectCommits 0, .ok [sampleCommit [sampleRow 0]]⟩,
    ⟨.selectLinked 0, .ok [(sampleRow 0).mark 0]⟩]

theorem accountedFor_sampleServed : ∀ x ∈ sampleServed, x.request.id = 0 →
    AccountedFor x.events := by
  intro x hx _
  rcases List.mem_pair.1 hx with rfl | rfl
  · exact ⟨by simp [servedDelete], by simp [servedDelete], by simp [servedDelete],
      by simp [servedDelete]⟩
  · exact ⟨by simp [servedCommit], by simp [servedCommit], by simp [servedCommit],
      by simp [servedCommit]⟩

/-- The commit that is listed leads to the device, which has saved what it was sent. -/
theorem history_replays_deleted :
    Serial exec Call.handle (sampleDatabase []) sampleServed sampleListed ∧
    Completes exec (listCommits sampleAdmin 0) sampleListed sampleListing
      (.ok (.commits [(sampleCommit [sampleRow 0], [(sampleRow 0).mark 0])])) sampleListed ∧
    sampleListed.history 0 = [⟨[(sampleChange 0).command], true⟩] ∧
    ∀ (schema : Schema) D,
      schema.apply D ⟨[(sampleChange 0).command], true⟩ =
        schema.deviceAfter 0 sampleServed D := by
  have hrun : Serial exec Call.handle (sampleDatabase []) sampleServed sampleListed :=
    Trace.cons (completes_servedDelete 0)
      (Trace.cons (completes_servedCommit (pending_sampleRows 1) (pairwise_sampleRows 1))
        (Trace.nil _))
  have hlist : Completes exec (listCommits sampleAdmin 0) sampleListed sampleListing
      (.ok (.commits [(sampleCommit [sampleRow 0], [(sampleRow 0).mark 0])])) sampleListed :=
    ⟨⟨_, .call _ (.call _ (.nil _)), rfl⟩, by decide⟩
  obtain ⟨hiff, hlisted⟩ := @history_replays _ _ 0 _ emptyDatabase_consistent hrun (by decide)
    (by decide)
  have hreplays := (hlisted sampleAdmin sampleListing _ _ hlist).2 accountedFor_sampleServed rfl
    (by decide)
  exact ⟨hrun, hlist, hiff.2 accountedFor_sampleServed, hreplays⟩

end VyosFabric
