import VyosFabric.Interaction.Trace

/-!
# A ledger beside a run

A run makes entries, and a ledger in its state is told of them, one action after the other.
`Entered made told kept` says how one list of entries was taken down: never more of them than were
made, and all of them exactly if the ledger was kept. Lists taken down one after the other are taken
down together (`Entered.append`), so if every action of a run is entered, the whole run is
(`Trace.entered`): the ledger is right at the end just if it was kept at every action
(`Trace.ledger_iff`).
-/

namespace Interaction

variable {σ A β : Type}

/-- The ledger was told `told` of the entries `made`: not more of them than were made, and these
exactly if it was kept. -/
structure Entered (made told : List β) (kept : Prop) : Prop where
  length_le : told.length ≤ made.length
  eq_iff : told = made ↔ kept

namespace Entered

variable {made made' told told' : List β} {kept kept' : Prop}

/-- What is not made need not be entered. -/
theorem nothing (h : kept) : Entered ([] : List β) [] kept :=
  ⟨Nat.le_refl _, iff_of_true rfl h⟩

/-- Entries that were made, and none of which was told. -/
theorem missed (hmade : made ≠ []) (h : ¬kept) : Entered made [] kept :=
  ⟨Nat.zero_le _, iff_of_false (fun hnil ↦ hmade hnil.symm) h⟩

theorem full (h : kept) : Entered made made kept :=
  ⟨Nat.le_refl _, iff_of_true rfl h⟩

/-- **Entries taken down one after the other** are taken down together. No list is longer than what
was made, so none can make up for what another misses. -/
theorem append (h : Entered made told kept) (h' : Entered made' told' kept') :
    Entered (made ++ made') (told ++ told') (kept ∧ kept') where
  length_le := by
    rw [List.length_append, List.length_append]
    exact Nat.add_le_add h.length_le h'.length_le
  eq_iff := by
    rw [← h.eq_iff, ← h'.eq_iff]
    constructor
    · intro heq
      have hlen : told.length + told'.length = made.length + made'.length := by
        rw [← List.length_append, heq, List.length_append]
      have hle := h.length_le
      have hle' := h'.length_le
      exact List.append_inj heq (by omega)
    · rintro ⟨rfl, rfl⟩
      rfl

end Entered

variable {step : σ → A → σ → Prop} {s s' : σ} {acts : List A} (log : σ → List β)
  {made : A → List β} {kept : A → Prop}

/-- **If every action of a run is entered, the run is.** -/
theorem Trace.entered (h : Trace step s acts s')
    (hstep : ∀ pre a post m m', acts = pre ++ a :: post → Trace step s pre m → step m a m' →
      ∃ told, log m' = log m ++ told ∧ Entered (made a) told (kept a)) :
    ∃ told, log s' = log s ++ told ∧ Entered (acts.flatMap made) told (∀ a ∈ acts, kept a) := by
  refine h.from_end (P := fun pre m ↦ (∃ post, acts = pre ++ post) →
    ∃ told, log m = log s ++ told ∧ Entered (pre.flatMap made) told (∀ a ∈ pre, kept a))
    (fun _ ↦ ⟨[], (List.append_nil _).symm, .nothing (by simp)⟩) ?_ ⟨[], (List.append_nil _).symm⟩
  rintro pre m a m' hpre ha ih ⟨post, rfl⟩
  have hsplit : pre ++ [a] ++ post = pre ++ a :: post := by simp
  obtain ⟨told, hlog, htold⟩ := ih ⟨a :: post, hsplit⟩
  obtain ⟨told', hlog', htold'⟩ := hstep pre a post m m' hsplit hpre ha
  refine ⟨told ++ told', by rw [hlog', hlog, List.append_assoc], ?_⟩
  have hboth := htold.append htold'
  rw [List.flatMap_append, List.flatMap_singleton]
  refine ⟨hboth.length_le, hboth.eq_iff.trans ?_⟩
  simp [or_imp, forall_and]

/-- **The ledger is right** just if it was kept at every action. -/
theorem Trace.ledger_iff (h : Trace step s acts s')
    (hstep : ∀ pre a post m m', acts = pre ++ a :: post → Trace step s pre m → step m a m' →
      ∃ told, log m' = log m ++ told ∧ Entered (made a) told (kept a)) :
    log s' = log s ++ acts.flatMap made ↔ ∀ a ∈ acts, kept a := by
  obtain ⟨told, hlog, htold⟩ := h.entered log hstep
  rw [hlog, List.append_right_inj, htold.eq_iff]

end Interaction
