import Mathlib.Data.List.Pairwise
import Mathlib.Data.List.Sort

/-!
# Answers sorted by a key

A query sorted by a key may place rows with equal keys in any order: `OrderedBy key table rows` says
that `rows` is one of its answers.

A part of the table that is itself sorted keeps its order in all answers just if its rows with equal
keys do not differ in what is looked at (`map_filter_eq_iff`). If they do, any of them may come
first (`exists_orderedBy_of_mem`).
-/

namespace Sorting

variable {α κ β : Type} [LinearOrder κ] {key : α → κ} {f : α → β} {p : α → Bool}
  {table rows rows' : List α} {c d : α}

/-- The rows of the table, sorted by the key. -/
structure OrderedBy (key : α → κ) (table rows : List α) : Prop where
  perm : rows.Perm table
  sorted : rows.Pairwise fun c d ↦ key c ≤ key d

theorem OrderedBy.filter (h : OrderedBy key table rows) (p : α → Bool) :
    OrderedBy key (table.filter p) (rows.filter p) :=
  ⟨h.perm.filter p, h.sorted.filter p⟩

/-- **Two answers agree** in all that rows with equal keys have in common. -/
theorem OrderedBy.map_eq (h : OrderedBy key table rows) (h' : OrderedBy key table rows')
    (hties : ∀ c ∈ table, ∀ d ∈ table, key c = key d → f c = f d) : rows.map f = rows'.map f := by
  have hperm : (rows.map fun c ↦ (key c, f c)).Perm (rows'.map fun c ↦ (key c, f c)) :=
    (h.perm.trans h'.perm.symm).map _
  have hsorted {l : List α} (hl : l.Pairwise fun c d ↦ key c ≤ key d) :
      (l.map fun c ↦ (key c, f c)).Pairwise fun x y ↦ x.1 ≤ y.1 :=
    List.pairwise_map.2 hl
  have heq : (rows.map fun c ↦ (key c, f c)) = rows'.map fun c ↦ (key c, f c) := by
    refine hperm.eq_of_pairwise (fun x y hx hy hle hge ↦ ?_) (hsorted h.sorted) (hsorted h'.sorted)
    obtain ⟨c, hc, rfl⟩ := List.mem_map.1 hx
    obtain ⟨d, hd, rfl⟩ := List.mem_map.1 hy
    have hkey : key c = key d := le_antisymm hle hge
    have hf : f c = f d := hties c (h.perm.mem_iff.1 hc) d (h'.perm.mem_iff.1 hd) hkey
    rw [hkey, hf]
  simpa [Function.comp_def] using congrArg (List.map Prod.snd) heq

/-- The rows whose keys are below that of `c`, sorted. -/
def below (key : α → κ) (table : List α) (c : α) : List α :=
  (table.filter fun d ↦ decide (key d < key c)).insertionSort fun d e ↦ key d ≤ key e

theorem below_congr (h : key c = key d) : below key table c = below key table d := by
  rw [below, below, h]

theorem pairwise_insertionSort (l : List α) :
    (l.insertionSort fun c d ↦ key c ≤ key d).Pairwise fun c d ↦ key c ≤ key d := by
  have : Std.Total fun c d : α ↦ key c ≤ key d := ⟨fun c d ↦ le_total (key c) (key d)⟩
  have : IsTrans α fun c d ↦ key c ≤ key d := ⟨fun _ _ _ ↦ le_trans⟩
  exact List.pairwise_insertionSort _ l

/-- **Any row may come first** among those with its key. -/
theorem exists_orderedBy_of_mem [DecidableEq α] (key : α → κ) (hc : c ∈ table) :
    ∃ rest, OrderedBy key table (below key table c ++ c :: rest) := by
  have hperm (l : List α) := List.perm_insertionSort (fun d e ↦ key d ≤ key e) l
  have hlow {d : α} : d ∈ below key table c ↔ d ∈ table ∧ key d < key c := by
    rw [below, (hperm _).mem_iff, List.mem_filter, decide_eq_true_iff]
  refine ⟨((table.erase c).filter fun d ↦ !decide (key d < key c)).insertionSort fun d e ↦
    key d ≤ key e, ?_, ?_⟩
  · have hbelow : (table.filter fun d ↦ decide (key d < key c)).Perm
        ((table.erase c).filter fun d ↦ decide (key d < key c)) := by
      have h := (List.perm_cons_erase hc).filter fun d ↦ decide (key d < key c)
      rwa [List.filter_cons_of_neg (by simp)] at h
    have hrest := (((hperm _).trans hbelow).append (hperm _)).trans (List.filter_append_perm _ _)
    exact (List.perm_middle.trans (hrest.cons c)).trans (List.perm_cons_erase hc).symm
  · refine List.pairwise_append.2 ⟨pairwise_insertionSort _, ?_, ?_⟩
    · refine List.pairwise_cons.2 ⟨fun d hd ↦ ?_, pairwise_insertionSort _⟩
      have hd := (List.mem_filter.1 ((hperm _).mem_iff.1 hd)).2
      simpa using hd
    · intro d hd e he
      have hdc := (hlow.1 hd).2
      rcases List.mem_cons.1 he with rfl | he
      · exact hdc.le
      · have he := (List.mem_filter.1 ((hperm _).mem_iff.1 he)).2
        exact hdc.le.trans (by simpa using he)

/-- **A sorted part of a table keeps its order** in every answer just if rows of it with equal keys
do not differ. -/
theorem map_filter_eq_iff [DecidableEq α]
    (hsorted : (table.filter p).Pairwise fun c d ↦ key c ≤ key d) :
    (∀ rows, OrderedBy key table rows → (rows.filter p).map f = (table.filter p).map f) ↔
      ∀ c ∈ table.filter p, ∀ d ∈ table.filter p, key c = key d → f c = f d := by
  constructor
  · intro h c hc d hd hkey
    obtain ⟨hmemc, hpc⟩ := List.mem_filter.1 hc
    obtain ⟨hmemd, hpd⟩ := List.mem_filter.1 hd
    obtain ⟨restc, hrowsc⟩ := exists_orderedBy_of_mem key hmemc
    obtain ⟨restd, hrowsd⟩ := exists_orderedBy_of_mem key hmemd
    have heq := (h _ hrowsc).trans (h _ hrowsd).symm
    rw [below_congr hkey, List.filter_append, List.filter_append, List.filter_cons_of_pos hpc,
      List.filter_cons_of_pos hpd, List.map_append, List.map_append, List.append_cancel_left_eq,
      List.map_cons, List.map_cons] at heq
    exact (List.cons.inj heq).1
  · intro hties rows hrows
    exact (hrows.filter p).map_eq ⟨.refl _, hsorted⟩ hties

/-! ### Tables without ties -/

/-- **A table whose keys increase** is its only sorted answer. -/
theorem OrderedBy.eq_table (h : OrderedBy key table rows)
    (hkeys : table.Pairwise fun c d ↦ key c < key d) : rows = table := by
  refine h.perm.eq_of_pairwise (fun c d hc hd hle hge ↦ ?_) h.sorted (hkeys.imp le_of_lt)
  have hne : table.Pairwise fun c d ↦ key c ≠ key d := hkeys.imp ne_of_lt
  have hsymm : Std.Symm fun c d : α ↦ key c ≠ key d := ⟨fun _ _ h ↦ h.symm⟩
  by_contra hcd
  exact hne.forall (h.perm.mem_iff.1 hc) hd hcd (le_antisymm hle hge)

/-- **The latest rows** of a table whose keys increase are its end. -/
theorem isSuffix_of_latest (hkeys : table.Pairwise fun c d ↦ key c < key d) (hnodup : rows.Nodup)
    (hsorted : rows.Pairwise fun c d ↦ key c ≤ key d) (hrows : ∀ c ∈ rows, c ∈ table)
    (hlatest : ∀ c ∈ table, c ∈ rows ∨ ∀ d ∈ rows, key c ≤ key d) : rows <:+ table := by
  induction table with
  | nil =>
    obtain rfl := List.eq_nil_iff_forall_not_mem.2 fun c hc ↦ List.not_mem_nil (hrows c hc)
    exact List.suffix_rfl
  | cons t table ih =>
    obtain ⟨hlt, hrest⟩ := List.pairwise_cons.1 hkeys
    by_cases ht : t ∈ rows
    · -- all rows of the table are later than the first, which is in the answer
      have hall : ∀ c ∈ t :: table, c ∈ rows := by
        intro c hc
        refine (hlatest c hc).elim id fun hle ↦ ?_
        rcases List.mem_cons.1 hc with rfl | hc
        · exact ht
        · exact absurd (hle t ht) (not_le.2 (hlt c hc))
      have htable : (t :: table).Nodup :=
        List.Pairwise.imp (fun {c d} hcd heq ↦ absurd (congrArg key heq) hcd.ne) hkeys
      have hperm : rows.Perm (t :: table) :=
        (List.perm_ext_iff_of_nodup hnodup htable).2 fun c ↦ ⟨hrows c, hall c⟩
      exact OrderedBy.eq_table ⟨hperm, hsorted⟩ hkeys ▸ List.suffix_rfl
    · refine (ih hrest (fun c hc ↦ ?_) fun c hc ↦ hlatest c (List.mem_cons_of_mem t hc)).trans
        (List.suffix_cons t table)
      refine (List.mem_cons.1 (hrows c hc)).resolve_left ?_
      rintro rfl
      exact ht hc

/-! ### Parts of a log -/

variable [DecidableEq α]

/-- What is left of a log is determined by its members, if nothing is in the log twice. -/
theorem filter_mem_eq_of_sublist {log left : List α} (hnodup : log.Nodup)
    (hsub : left.Sublist log) :
    (log.filter fun c ↦ decide (c ∈ left)) = left := by
  have hleft : left.Sublist (log.filter fun c ↦ decide (c ∈ left)) := by
    have h := hsub.filter fun c ↦ decide (c ∈ left)
    rwa [List.filter_eq_self.2 fun c hc ↦ decide_eq_true hc] at h
  refine (hleft.eq_of_length ?_).symm
  refine List.Perm.length_eq ?_
  refine (List.perm_ext_iff_of_nodup (hnodup.sublist hsub) (hnodup.filter _)).2 fun c ↦ ?_
  rw [List.mem_filter, decide_eq_true_iff]
  exact ⟨fun hc ↦ ⟨hsub.subset hc, hc⟩, And.right⟩

/-- **What is left of a part** of the log stands as in the part. -/
theorem filter_part_eq {log left part : List α} (hnodup : log.Nodup) (hleft : left.Sublist log)
    (hpart : part.Sublist log) :
    (left.filter fun c ↦ decide (c ∈ part)) = part.filter fun c ↦ decide (c ∈ left) := by
  have hl := filter_mem_eq_of_sublist hnodup hleft
  have hp := filter_mem_eq_of_sublist hnodup hpart
  calc (left.filter fun c ↦ decide (c ∈ part))
      = (log.filter fun c ↦ decide (c ∈ left)).filter fun c ↦ decide (c ∈ part) := by rw [hl]
    _ = (log.filter fun c ↦ decide (c ∈ part)).filter fun c ↦ decide (c ∈ left) :=
      List.filter_comm _ _ _
    _ = part.filter fun c ↦ decide (c ∈ left) := by rw [hp]

end Sorting
