import VyosFabric.Model.LiveConfig
import VyosFabric.Review.Restaging
import VyosFabric.Routes.Entities

/-!
# Edits one after the other

What an edit does to the tray when nothing goes wrong and the device shows one config throughout
(`Calm`). Its diff is then a function of that config and of who may do what (`Edit.staged`), and no
request changes either, so the diff does not depend on what ran before. An edit is refused and
changes nothing, or it takes the rows of its entities out of the tray and puts its diff at the end
(`Edit.restages`).
-/

namespace VyosFabric

open Interaction

/-- No statement failed, and the device showed the config `L`. -/
structure Calm (L : LiveConfig) (h : List Event) : Prop where
  answered : ∀ s f, (⟨s, .error f⟩ : Event) ∉ h
  shows : ∀ client path v, (⟨.showConfig client path, .ok v⟩ : Event) ∈ h → v = L.reply path

theorem Calm.left {L : LiveConfig} {h₁ h₂ : List Event} (hcalm : Calm L (h₁ ++ h₂)) :
    Calm L h₁ where
  answered s f hmem := hcalm.answered s f (List.mem_append_left h₂ hmem)
  shows client path v hmem := hcalm.shows client path v (List.mem_append_left h₂ hmem)

theorem Calm.tail {L : LiveConfig} {x : Event} {h : List Event} (hcalm : Calm L (x :: h)) :
    Calm L h where
  answered s f hmem := hcalm.answered s f (List.mem_cons_of_mem x hmem)
  shows client path v hmem := hcalm.shows client path v (List.mem_cons_of_mem x hmem)

theorem Calm.nil {L : LiveConfig} : Calm L [] where
  answered _ _ hmem := nomatch hmem
  shows _ _ _ hmem := nomatch hmem

/-- A statement that does not show the config. -/
theorem Calm.cons {L : LiveConfig} {s : Statement} {v : s.Value} {h : List Event}
    (hs : ∀ client path, s ≠ .showConfig client path) (hcalm : Calm L h) :
    Calm L (⟨s, .ok v⟩ :: h) where
  answered s' f hmem := by
    rcases List.mem_cons.1 hmem with heq | hmem
    · obtain ⟨rfl, heq⟩ := Sigma.mk.inj heq
      cases heq
    · exact hcalm.answered s' f hmem
  shows client path w hmem := by
    rcases List.mem_cons.1 hmem with heq | hmem
    · exact absurd (Sigma.mk.inj heq).1.symm (hs client path)
    · exact hcalm.shows client path w hmem

/-- A statement that does. -/
theorem Calm.shown {L : LiveConfig} {client : VyosClient} {path : Path} {h : List Event}
    (hcalm : Calm L h) : Calm L (⟨.showConfig client path, .ok (L.reply path)⟩ :: h) where
  answered s f hmem := by
    rcases List.mem_cons.1 hmem with heq | hmem
    · obtain ⟨rfl, heq⟩ := Sigma.mk.inj heq
      cases heq
    · exact hcalm.answered s f hmem
  shows client' path' w hmem := by
    rcases List.mem_cons.1 hmem with heq | hmem
    · obtain ⟨hs, heq⟩ := Sigma.mk.inj heq
      obtain ⟨rfl, rfl⟩ := Statement.showConfig.inj hs
      exact Except.ok.inj (eq_of_heq heq)
    · exact hcalm.shows client' path' w hmem

/-! ### What a look is answered -/

/-- What the tables and the config `L` answer to a statement that only looks. -/
def Database.lookup (db : Database) (L : LiveConfig) : (s : Statement) → s.Reply
  | .authorizeRouter r u => .ok (db.grantedRouter r u)
  | .selectRouter r => .ok (db.routers.find? fun x ↦ x.id == r)
  | .showConfig _ path => .ok (L.reply path)
  | _ => .error ⟨"", .unsent⟩

/-- The interface map that is read: the one shown, or an empty one. -/
theorem of_eval_interfaceConfig {L : LiveConfig} {db : Database} {claims : Claims} {id : Uuid}
    {kind : String} {v : Json}
    (h : (interfaceConfig claims id kind).eval (db.lookup L) = .ok v) :
    (L.reply ["interfaces"]).succeeded = true ∧
        v = ((L.reply ["interfaces"]).idx "data").idx kind ∨
      ¬(L.reply ["interfaces"]).succeeded = true ∧ v = .null := by
  obtain ⟨client, -, h⟩ := Prog.eval_bind_eq_ok.1 h
  obtain ⟨resp, hresp, h⟩ := Prog.eval_bind_eq_ok.1 h
  obtain rfl : L.reply ["interfaces"] = resp := Except.ok.inj hresp
  change Prog.eval _ (if _ then _ else _) = _ at h
  split at h
  · next hsucceeded => exact .inl ⟨hsucceeded, (Except.ok.inj h).symm⟩
  · next hfailed =>
    change Prog.eval _ (if _ then _ else _) = _ at h
    split at h
    · exact .inr ⟨hfailed, (Except.ok.inj h).symm⟩
    · cases h

/-- A statement that only looks has one answer. -/
theorem eq_lookup_of_exec {L : LiveConfig} {x : Event} {h : List Event} {db m : Database}
    (hinspects : x.1.inspects = true) (hcalm : Calm L (x :: h)) (hstep : exec x.1 x.2 db = some m) :
    m = db ∧ x.2 = db.lookup L x.1 := by
  obtain ⟨s, v⟩ := x
  cases v with
  | error f => exact absurd List.mem_cons_self (hcalm.answered s f)
  | ok v =>
    cases s with
    | authorizeRouter r u =>
      obtain ⟨rfl, rfl⟩ := of_guarded hstep
      exact ⟨rfl, rfl⟩
    | selectRouter r =>
      obtain ⟨rfl, rfl⟩ := of_guarded hstep
      exact ⟨rfl, rfl⟩
    | showConfig client path =>
      obtain rfl := Option.some.inj hstep
      exact ⟨rfl, congrArg Except.ok (hcalm.shows client path v List.mem_cons_self)⟩
    | _ => cases hinspects

/-- So have many. -/
theorem eq_lookup_of_execAll {L : LiveConfig} {h : List Event} {db m : Database}
    (hinspects : ∀ x ∈ h, x.1.inspects = true) (hcalm : Calm L h)
    (hexec : execAll exec h db = some m) : m = db ∧ ∀ x ∈ h, x.2 = db.lookup L x.1 := by
  induction h generalizing db with
  | nil =>
    obtain rfl := Option.some.inj hexec
    exact ⟨rfl, fun x hx ↦ nomatch hx⟩
  | cons x h ih =>
    obtain ⟨n, hstep, hrest⟩ := execAll_cons_eq_some.1 hexec
    obtain ⟨rfl, hx⟩ := eq_lookup_of_exec (hinspects x List.mem_cons_self) hcalm hstep
    obtain ⟨rfl, hall⟩ := ih (fun y hy ↦ hinspects y (List.mem_cons_of_mem x hy)) hcalm.tail hrest
    exact ⟨rfl, List.forall_mem_cons.2 ⟨hx, hall⟩⟩

/-- What an edit stages, the tables being `db` and the config `L`. -/
def Edit.staged (db : Database) (L : LiveConfig) (claims : Claims) (id : Uuid) (e : Edit) :
    Except AppError (List NewConfigChange) :=
  (e.diff claims id).eval (db.lookup L)

/-- A look does not see the review tables. -/
theorem lookup_eq_of_exec {L : LiveConfig} {s : Statement} {v : s.Reply} {db m : Database}
    (hstep : exec s v db = some m) : m.lookup L = db.lookup L := by
  cases exec_effect hstep <;> rfl

/-! ### What an edit does to the tray -/

/-- The tray `rows` becomes `rows'`: the rows of the edit's entities go, and `changes` come at the
end. -/
def Edit.Restages (e : Edit) (changes : List NewConfigChange) (rows rows' : List ConfigChange) :
    Prop :=
  ∃ inserted, inserted.map ConfigChange.toNew = changes ∧
    rows' = (rows.filter fun c ↦ !e.filters.any fun f ↦ f.matches c) ++ inserted

/-- A `DELETE` filters the tray. -/
theorem pending_of_delete {id : Uuid} {f : Filter} {n : ℕ} {db m : Database}
    (hstep : exec (.deletePending id f) (.ok n) db = some m) :
    m.pending id = (db.pending id).filter fun c ↦ !f.matches c := by
  obtain ⟨-, rfl⟩ := of_guarded hstep
  rw [Database.pending, Database.pending, List.filter_filter, List.filter_filter]
  refine List.filter_congr fun c _ ↦ ?_
  rw [Filter.hits]
  cases c.isPending id <;> simp

/-- An `INSERT` appends to it. -/
theorem pending_of_insert {id : Uuid} {c : NewConfigChange} {row : ConfigChange} {db m : Database}
    (hstep : exec (.insertChange id c) (.ok row) db = some m) :
    row.toNew = c ∧ m.pending id = db.pending id ++ [row] := by
  obtain ⟨hrow, htable, -⟩ := insertedRow_eq hstep
  have hpending : row.isPending id = true := by
    rw [hrow]
    simp [ConfigChange.isPending, Database.newChange]
  refine ⟨by rw [hrow]; rfl, ?_⟩
  rw [Database.pending, htable, List.filter_append, List.filter_singleton, hpending]
  rfl

/-- The inserts of an edit. -/
theorem pending_of_inserts {id : Uuid} {changes : List NewConfigChange} {h : List Event}
    {db m : Database} (hs : Straight (restageStatements id [] changes) h (some (.ok ())))
    (hexec : execAll exec h db = some m) :
    ∃ inserted, inserted.map ConfigChange.toNew = changes ∧
      m.pending id = db.pending id ++ inserted := by
  induction changes generalizing h db with
  | nil =>
    cases hs
    obtain rfl := Option.some.inj hexec
    exact ⟨[], rfl, (List.append_nil _).symm⟩
  | cons c cs ih =>
    cases hs with
    | next row hs =>
      obtain ⟨n, hstep, hrest⟩ := execAll_cons_eq_some.1 hexec
      obtain ⟨hrow, hn⟩ := pending_of_insert hstep
      obtain ⟨inserted, hchanges, hm⟩ := ih hs hrest
      refine ⟨row :: inserted, by rw [List.map_cons, hrow, hchanges], ?_⟩
      rw [hm, hn, List.append_assoc]
      rfl

/-- The deletes of an edit, and then its inserts. -/
theorem pending_of_restage {id : Uuid} {filters : List Filter} {changes : List NewConfigChange}
    {h : List Event} {db m : Database}
    (hs : Straight (restageStatements id filters changes) h (some (.ok ())))
    (hexec : execAll exec h db = some m) :
    ∃ inserted, inserted.map ConfigChange.toNew = changes ∧
      m.pending id = ((db.pending id).filter fun c ↦ !filters.any fun f ↦ f.matches c) ++
        inserted := by
  induction filters generalizing h db with
  | nil =>
    obtain ⟨inserted, hchanges, hm⟩ := pending_of_inserts hs hexec
    have hkeep : ((db.pending id).filter fun c ↦ !([] : List Filter).any fun f ↦ f.matches c) =
        db.pending id := List.filter_eq_self.2 fun c _ ↦ rfl
    exact ⟨inserted, hchanges, by rw [hm, hkeep]⟩
  | cons f fs ih =>
    cases hs with
    | next n hs =>
      obtain ⟨n', hstep, hrest⟩ := execAll_cons_eq_some.1 hexec
      obtain ⟨inserted, hchanges, hm⟩ := ih hs hrest
      refine ⟨inserted, hchanges, ?_⟩
      rw [hm, pending_of_delete hstep, List.filter_filter]
      congr 1
      refine List.filter_congr fun c _ ↦ ?_
      rw [List.any_cons, Bool.not_or, Bool.and_comm]

/-- **What an edit does when nothing goes wrong.** It is refused and leaves the tables alone, or it
restages what `Edit.staged` says. -/
theorem Edit.restages {L : LiveConfig} {claims : Claims} {id : Uuid} {e : Edit} {db m : Database}
    {h : List Event} {r : Except AppError Response}
    (hrun : Completes exec (e.handle claims id) db h r m) (hcalm : Calm L h) :
    (∃ err, e.staged db L claims id = .error err ∧ r = .error err ∧ m = db) ∨
      ∃ changes b, e.staged db L claims id = .ok changes ∧ r = .ok b ∧
        e.Restages changes (db.pending id) (m.pending id) := by
  obtain ⟨q, hf, hq⟩ := hrun.ends
  rw [e.handle_eq] at hf
  rcases Prog.follows_bind hf with
    ⟨p, hp, rfl, hne⟩ | ⟨reads, writes, changes, rfl, hreads, hwrites⟩
  · -- the diff did not return, so it failed
    have hinspects := ((e.diff_inspects claims id).of_follows hp).1
    obtain ⟨rfl, hans⟩ := eq_lookup_of_execAll hinspects hcalm hrun.execs
    cases p with
    | ret a => exact absurd rfl (hne a)
    | fail err =>
      refine Or.inl ⟨err, (hp.eval_eq hans).symm, ?_, rfl⟩
      exact (Option.some.inj hq).symm
    | call s k => cases hq
  · obtain ⟨n, hread, hwrite⟩ := execAll_append_eq_some.1 hrun.execs
    have hinspects := ((e.diff_inspects claims id).of_follows hreads).1
    obtain ⟨rfl, hans⟩ := eq_lookup_of_execAll hinspects hcalm.left hread
    have hs := restage_straight id e.filters changes writes q hwrites
    have hend : ending q = some (.ok ()) := by
      refine hs.eq_ok_of_answered
        (fun s f hmem ↦ hcalm.answered s f (List.mem_append_right _ hmem)) ?_
      rw [ending, hq]
      exact Option.some_ne_none _
    rw [hend] at hs
    obtain ⟨b, rfl⟩ : ∃ b, r = .ok b := by
      rw [ending, hq] at hend
      cases r with
      | ok b => exact ⟨b, rfl⟩
      | error err => cases hend
    exact Or.inr ⟨changes, b, (hreads.eval_eq hans).symm, rfl, pending_of_restage hs hwrite⟩

/-! ### Several edits -/

section Several

variable {L : LiveConfig} {claims : Claims} {id : Uuid} {e : Edit} {db m : Database}
  {h : List Event} {b : Response} {rows : List ConfigChange} {changes : List NewConfigChange}

/-- A request leaves what a look is answered as it is. -/
theorem lookup_eq_of_completes {p : Handler Response} {r : Except AppError Response}
    (hrun : Completes exec p db h r m) : m.lookup L = db.lookup L :=
  execAll_invariant (P := fun d ↦ d.lookup L = db.lookup L)
    (fun _ _ _ _ hstep hd ↦ (lookup_eq_of_exec hstep).trans hd) hrun.execs rfl

/-- An accepted edit, and what it did to the tray. -/
theorem restages_of_ok (hrun : Completes exec (e.handle claims id) db h (.ok b) m)
    (hcalm : Calm L h) :
    ∃ changes, e.staged db L claims id = .ok changes ∧
      e.Restages changes (db.pending id) (m.pending id) := by
  rcases Edit.restages hrun hcalm with ⟨err, -, hr, -⟩ | ⟨changes, b', hstaged, -, hrestages⟩
  · cases hr
  · exact ⟨changes, hstaged, hrestages⟩

/-- On an empty tray an edit leaves its diff. -/
theorem Edit.Restages.of_nil (h : e.Restages changes [] rows) :
    rows.map ConfigChange.toNew = changes := by
  obtain ⟨inserted, hinserted, rfl⟩ := h
  exact hinserted

/-- The commands in the tray, in table order. -/
def Database.commands (db : Database) (id : Uuid) : List Command :=
  (db.pending id).map ConfigChange.command

/-- The commands of a tray are those of the changes its rows were inserted for. -/
theorem map_command_eq (h : rows.map ConfigChange.toNew = changes) :
    rows.map ConfigChange.command = changes.map NewConfigChange.command := by
  rw [← h, List.map_map]
  rfl

end Several
end VyosFabric
