import Mathlib.Data.List.Pairwise
import VyosFabric.PathTree.Effective

/-!
# Moves in a tree of paths

A move cuts a node and puts the leaves of another one (`Move.edits`). It rebuilds the target fresh
if afterwards the original is gone, the target holds its leaves and nothing else, and no other path
has changed (`Fresh`).

A put replaces what else is below a single-valued parent, and leaves everything else alone. So what
the target held before is still there, unless the move puts it again or replaces it: a batch of
moves rebuilds its targets fresh exactly if nothing there survives (`fresh_iff`).
-/

namespace PathTree

variable {κ : Type} {single : List κ → Bool} {T : Set (List κ)} {p q : List κ}

/-! ### Batches of puts -/

/-- **After puts** that do not replace each other, a path is a node if one of them adds it, or if it
was one and none replaces it. -/
theorem mem_applyAll_puts {l : List (List κ)}
    (h : ∀ p ∈ l, ∀ r ∈ l, p ≠ r → single r.dropLast = true → ¬r.dropLast <+: p) :
    q ∈ applyAll single (l.map Edit.put) T ↔
      (∃ p ∈ l, q <+: p) ∨ q ∈ T ∧ ∀ p ∈ l, ¬Replaces single p q := by
  induction l generalizing T with
  | nil => simp
  | cons p l ih =>
    rw [List.map_cons, applyAll_cons,
      ih fun p' hp' r hr ↦ h p' (List.mem_cons_of_mem p hp') r (List.mem_cons_of_mem p hr),
      mem_apply_iff, List.forall_mem_cons]
    constructor
    · rintro (⟨r, hr, hq⟩ | ⟨hadds | ⟨hq, hhead⟩, htail⟩)
      · exact Or.inl ⟨r, List.mem_cons_of_mem p hr, hq⟩
      · exact Or.inl ⟨p, List.mem_cons_self, hadds⟩
      · exact Or.inr ⟨hq, hhead, htail⟩
    · rintro (⟨r, hr, hq⟩ | ⟨hq, hhead, htail⟩)
      · rcases List.mem_cons.1 hr with rfl | hr
        · -- a later put that replaces what the first one added would add it again
          by_cases hagain : ∃ p ∈ l, q <+: p
          · exact Or.inl hagain
          · refine Or.inr ⟨Or.inl hq, fun r' hr' hreplaces ↦ ?_⟩
            have hne : r ≠ r' := by
              rintro rfl
              exact hagain ⟨r, hr', hq⟩
            exact h r List.mem_cons_self r' (List.mem_cons_of_mem r hr') hne hreplaces.1
              (hreplaces.parent_prefix.trans hq)
        · exact Or.inl ⟨r, hr, hq⟩
      · exact Or.inr ⟨Or.inr ⟨hq, hhead⟩, htail⟩

/-! ### One move -/

/-- A move: a node goes, and another one is rebuilt from its leaves. -/
structure Move (κ : Type) where
  original : List κ
  target : List κ
  /-- Paths below the target. -/
  leaves : List (List κ)

namespace Move

variable {m m' : Move κ}

/-- What the move puts: the target itself where it has no leaves. -/
def puts (m : Move κ) : List (List κ) :=
  if m.leaves.isEmpty then [m.target] else m.leaves.map fun a ↦ m.target ++ a

/-- The edits of the move. -/
def edits (m : Move κ) : List (Edit κ) := .cut m.original :: m.puts.map .put

/-- The path is the target, or on the way to one of its leaves. -/
def Describes (m : Move κ) (q : List κ) : Prop :=
  q = m.target ∨ ∃ a ∈ m.leaves, q <+: m.target ++ a

/-- A leaf of the move replaces the path. -/
def Overwrites (single : List κ → Bool) (m : Move κ) (q : List κ) : Prop :=
  ∃ a ∈ m.leaves, Replaces single (m.target ++ a) q

instance [DecidableEq κ] (m : Move κ) (q : List κ) : Decidable (m.Describes q) :=
  inferInstanceAs (Decidable (_ ∨ ∃ a ∈ m.leaves, _))

instance [DecidableEq κ] (single : List κ → Bool) (m : Move κ) (q : List κ) :
    Decidable (m.Overwrites single q) :=
  inferInstanceAs (Decidable (∃ a ∈ m.leaves, _))

/-- The move goes elsewhere, and its leaves neither replace nor contain each other. -/
structure Sound (single : List κ → Bool) (m : Move κ) : Prop where
  apart : Apart m.original m.target
  alone : single m.target.dropLast = false
  quiet : ∀ a ∈ m.leaves, ∀ b ∈ m.leaves, a ≠ b → single (m.target ++ b).dropLast = true →
    ¬b.dropLast <+: a
  flat : ∀ a ∈ m.leaves, ∀ b ∈ m.leaves, a <+: b → a = b

/-- Neither end of one move is above an end of the other. -/
structure Away (m m' : Move κ) : Prop where
  originals : Apart m.original m'.original
  targets : Apart m.target m'.target
  there : Apart m.original m'.target
  back : Apart m.target m'.original

theorem Away.symm (h : m.Away m') : m'.Away m :=
  ⟨h.originals.symm, h.targets.symm, h.back.symm, h.there.symm⟩

theorem below_of_mem_puts (hp : p ∈ m.puts) : m.target <+: p := by
  rw [puts] at hp
  split at hp
  · exact List.mem_singleton.1 hp ▸ List.prefix_refl _
  · obtain ⟨a, -, rfl⟩ := List.mem_map.1 hp
    exact List.prefix_append _ _

/-- The edits touch nothing beside the original and the target. -/
theorem Sound.not_touches (h : m.Sound single) (horiginal : ¬m.original <+: q)
    (htarget : ¬m.target <+: q) (habove : ¬q <+: m.target) :
    ∀ c ∈ m.edits, ¬c.touches single q := by
  intro c hc
  rcases List.mem_cons.1 hc with rfl | hc
  · rintro (hadds | hdrops)
    · exact hadds
    · exact horiginal hdrops
  · obtain ⟨p, hp, rfl⟩ := List.mem_map.1 hc
    have hbelow : (Edit.put p).Below single m.target := by
      refine ⟨below_of_mem_puts hp, fun heq ↦ ?_⟩
      exact h.alone
    exact hbelow.not_touches ⟨htarget, habove⟩

theorem Sound.puts_quiet (h : m.Sound single) :
    ∀ p ∈ m.puts, ∀ r ∈ m.puts, p ≠ r → single r.dropLast = true → ¬r.dropLast <+: p := by
  intro p hp r hr hne hsingle
  rw [puts] at hp hr
  split at hp
  · rw [List.mem_singleton.1 hp] at hne
    rw [if_pos ‹_›] at hr
    rw [List.mem_singleton.1 hr] at hne
    exact absurd rfl hne
  · rw [if_neg ‹_›] at hr
    obtain ⟨a, ha, rfl⟩ := List.mem_map.1 hp
    obtain ⟨b, hb, rfl⟩ := List.mem_map.1 hr
    have hab : a ≠ b := fun hab ↦ hne (by rw [hab])
    intro hprefix
    rcases List.eq_nil_or_concat b with rfl | ⟨b, k, rfl⟩
    · rw [List.append_nil, h.alone] at hsingle
      cases hsingle
    · have hdrop : (m.target ++ b.concat k).dropLast = m.target ++ b := by
        rw [List.concat_eq_append, ← List.append_assoc, List.dropLast_concat]
      rw [hdrop, List.prefix_append_right_inj] at hprefix
      refine h.quiet a ha (b.concat k) hb hab hsingle ?_
      rwa [List.concat_eq_append, List.dropLast_concat]

/-- **Below the target**, a path is a node afterwards if the move describes it, or if it
survives. -/
theorem Sound.mem_iff (h : m.Sound single) (hq : m.target <+: q) :
    q ∈ applyAll single m.edits T ↔ m.Describes q ∨ q ∈ T ∧ ¬m.Overwrites single q := by
  have hcut : q ∈ (Edit.cut m.original).apply single T ↔ q ∈ T := by
    refine mem_apply_of_untouched ?_
    rintro (hadds | hdrops)
    · exact hadds
    · exact (List.prefix_or_prefix_of_prefix hdrops hq).elim h.apart.1 h.apart.2
  rw [edits, applyAll_cons, mem_applyAll_puts h.puts_quiet, hcut, puts, Describes, Overwrites]
  split
  · rename_i hempty
    rw [List.isEmpty_iff.1 hempty]
    have hreplaces : ¬Replaces single m.target q := not_replaces h.alone
    have hself : q <+: m.target ↔ q = m.target :=
      ⟨fun hle ↦ hle.eq_of_length_le hq.length_le, fun heq ↦ heq ▸ List.prefix_refl _⟩
    simp [hself, hreplaces]
  · rename_i hleaves
    obtain ⟨a, ha⟩ := List.exists_mem_of_ne_nil _ fun hnil ↦ hleaves (List.isEmpty_iff.2 hnil)
    have hadds : (∃ p ∈ m.leaves.map fun a ↦ m.target ++ a, q <+: p) ↔
        q = m.target ∨ ∃ a ∈ m.leaves, q <+: m.target ++ a := by
      constructor
      · rintro ⟨p, hp, hle⟩
        obtain ⟨b, hb, rfl⟩ := List.mem_map.1 hp
        exact Or.inr ⟨b, hb, hle⟩
      · rintro (rfl | ⟨b, hb, hle⟩)
        · exact ⟨_, List.mem_map_of_mem ha, List.prefix_append _ _⟩
        · exact ⟨_, List.mem_map_of_mem hb, hle⟩
    rw [hadds, List.forall_mem_map]
    simp only [not_exists, not_and]

/-- The original and what was below it are gone. -/
theorem Sound.not_mem (h : m.Sound single) (hq : m.original <+: q) :
    q ∉ applyAll single m.edits T := by
  have hputs : ∀ c ∈ m.puts.map Edit.put, ¬c.touches single q := by
    intro c hc
    obtain ⟨p, hp, rfl⟩ := List.mem_map.1 hc
    have hbelow : (Edit.put p).Below single m.target := ⟨below_of_mem_puts hp, fun _ ↦ h.alone⟩
    exact hbelow.not_touches (h.apart.symm.mono (List.prefix_refl _) hq)
  rw [edits, applyAll_cons, mem_applyAll_of_untouched hputs]
  rintro (hadds | ⟨-, hkept⟩)
  · exact hadds
  · exact hkept hq

/-- What the move drops is below the original, or strictly below the target. -/
theorem Sound.ends_of_drops (h : m.Sound single) {c : Edit κ} (hc : c ∈ m.edits)
    (hdrops : c.drops single q) : m.original <+: q ∨ m.target <+: q ∧ q ≠ m.target := by
  rcases List.mem_cons.1 hc with rfl | hc
  · exact Or.inl hdrops
  · obtain ⟨p, hp, rfl⟩ := List.mem_map.1 hc
    have hbelow : (Edit.put p).Below single m.target := ⟨below_of_mem_puts hp, fun _ ↦ h.alone⟩
    refine Or.inr ⟨hbelow.prefix_of_drops hdrops, ?_⟩
    rintro rfl
    obtain ⟨hsingle, hparent, hne⟩ := hdrops
    -- the parent of a leaf is not above the target
    obtain ⟨t, rfl⟩ := hbelow.target
    change (m.target ++ t).dropLast <+: m.target at hparent
    change m.target ≠ (m.target ++ t).dropLast at hne
    change single (m.target ++ t).dropLast = true at hsingle
    rcases List.eq_nil_or_concat t with rfl | ⟨t, k, rfl⟩
    · rw [List.append_nil, h.alone] at hsingle
      cases hsingle
    · rw [List.concat_eq_append, ← List.append_assoc, List.dropLast_concat] at hparent hne
      exact hne ((List.prefix_append _ _).eq_of_length_le hparent.length_le)

/-- The original is there, and nothing that the move puts; no leaf is put twice. -/
structure Lands (m : Move κ) (T : Set (List κ)) : Prop where
  original : m.original ∈ T
  nodup : m.leaves.Nodup
  vacant : ∀ p ∈ m.puts, p ∉ T

theorem nodup_puts : m.puts.Nodup ↔ m.leaves.Nodup := by
  rw [puts]
  split
  · rename_i hempty
    rw [List.isEmpty_iff.1 hempty]
    simp
  · exact List.nodup_map_iff fun a b hab ↦ List.append_cancel_left hab

/-- **A move takes effect** exactly if it lands. -/
theorem Sound.allEffective_iff (h : m.Sound single) :
    AllEffective single m.edits T ↔ m.Lands T := by
  have happly : ∀ c ∈ m.puts.map Edit.put,
      (c.target ∈ (Edit.cut m.original).apply single T ↔ c.target ∈ T) := by
    intro c hc
    obtain ⟨p, hp, rfl⟩ := List.mem_map.1 hc
    refine mem_apply_of_untouched ?_
    rintro (hadds | hdrops)
    · exact hadds
    · exact (h.apart.mono (List.prefix_refl _) (below_of_mem_puts hp)).1 hdrops
  have hquiet : ∀ p ∈ m.puts, ∀ q ∈ m.puts, p ≠ q → ¬(Edit.put p).touches single q := by
    intro p hp q hq hne
    rintro (hadds | hreplaces)
    · refine hne ?_
      rw [puts] at hp hq
      split at hp
      · rw [if_pos ‹_›] at hq
        rw [List.mem_singleton.1 hp, List.mem_singleton.1 hq]
      · rw [if_neg ‹_›] at hq
        obtain ⟨a, ha, rfl⟩ := List.mem_map.1 hp
        obtain ⟨b, hb, rfl⟩ := List.mem_map.1 hq
        rw [h.flat b hb a ha ((List.prefix_append_right_inj _).1 hadds)]
    · exact h.puts_quiet q hq p hp hne.symm hreplaces.1 hreplaces.parent_prefix
  rw [edits, allEffective_cons, allEffective_congr happly, allEffective_puts hquiet, nodup_puts]
  exact ⟨fun ⟨ho, hn, hv⟩ ↦ ⟨ho, hn, hv⟩, fun ⟨ho, hn, hv⟩ ↦ ⟨ho, hn, hv⟩⟩

/-- What the edits name is an end of the move, or below the target. -/
theorem target_of_mem_edits {c : Edit κ} (hc : c ∈ m.edits) :
    m.original <+: c.target ∨ m.target <+: c.target := by
  rcases List.mem_cons.1 hc with rfl | hc
  · exact Or.inl (List.prefix_refl _)
  · obtain ⟨p, hp, rfl⟩ := List.mem_map.1 hc
    exact Or.inr (below_of_mem_puts hp)

/-- A move touches nothing of a move away from it. -/
theorem Sound.not_touches_away (h : m.Sound single) (haway : m.Away m')
    (hq : m'.original <+: q ∨ m'.target <+: q) : ∀ c ∈ m.edits, ¬c.touches single q := by
  rcases hq with hq | hq
  · exact h.not_touches (haway.originals.mono (List.prefix_refl _) hq).1
      (haway.back.mono (List.prefix_refl _) hq).1 (haway.back.mono (List.prefix_refl _) hq).2
  · exact h.not_touches (haway.there.mono (List.prefix_refl _) hq).1
      (haway.targets.mono (List.prefix_refl _) hq).1 (haway.targets.mono (List.prefix_refl _) hq).2

end Move

/-! ### Batches of moves -/

/-- The originals are gone, the targets are there and as described, and nothing else has changed. -/
structure Fresh (moves : List (Move κ)) (T T' : Set (List κ)) : Prop where
  gone : ∀ m ∈ moves, ∀ q, m.original <+: q → q ∉ T'
  rebuilt : ∀ m ∈ moves, ∀ q, m.target <+: q → (q ∈ T' ↔ m.Describes q)
  above : ∀ m ∈ moves, ∀ q, q <+: m.target → q ∈ T'
  elsewhere : ∀ q, (∀ m ∈ moves, ¬m.original <+: q ∧ ¬m.target <+: q ∧ ¬q <+: m.target) →
    (q ∈ T' ↔ q ∈ T)

section Batches

variable {moves : List (Move κ)} {m : Move κ}

/-- At the ends of a move, the move alone has a say. -/
theorem mem_applyAll_moves (hsound : ∀ m ∈ moves, m.Sound single)
    (haway : moves.Pairwise Move.Away) (hm : m ∈ moves)
    (hq : m.original <+: q ∨ m.target <+: q) :
    q ∈ applyAll single (moves.flatMap Move.edits) T ↔ q ∈ applyAll single m.edits T := by
  have hnodup : moves.Nodup :=
    haway.imp fun haway heq ↦ (heq ▸ haway.originals).1 (List.prefix_refl _)
  refine mem_applyAll_flatMap_of_only hnodup hm fun m' hm' hne ↦ ?_
  have hsymm : Std.Symm (Move.Away (κ := κ)) := ⟨fun _ _ h ↦ h.symm⟩
  exact (hsound m' hm').not_touches_away (haway.forall hm' hm hne) hq

/-- The way to a target is there. -/
theorem mem_of_prefix_target (hsound : ∀ m ∈ moves, m.Sound single)
    (haway : moves.Pairwise Move.Away) (hm : m ∈ moves) (hq : q <+: m.target) :
    q ∈ applyAll single (moves.flatMap Move.edits) T := by
  have hkept : ∀ c ∈ moves.flatMap Move.edits, ¬c.drops single q := by
    intro c hc hdrops
    obtain ⟨m', hm', hc⟩ := List.mem_flatMap.1 hc
    have hends := (hsound m' hm').ends_of_drops hc hdrops
    by_cases hsame : m' = m
    · subst hsame
      rcases hends with horiginal | ⟨htarget, hne⟩
      · exact (hsound m' hm').apart.1 (horiginal.trans hq)
      · exact hne (hq.eq_of_length_le htarget.length_le)
    · have hsymm : Std.Symm (Move.Away (κ := κ)) := ⟨fun _ _ h ↦ h.symm⟩
      have haway' : m'.Away m := haway.forall hm' hm hsame
      rcases hends with horiginal | ⟨htarget, -⟩
      · exact haway'.there.1 (horiginal.trans hq)
      · exact haway'.targets.1 (htarget.trans hq)
  obtain ⟨p, hp⟩ : ∃ p, p ∈ m.puts := by
    rw [Move.puts]
    split
    · exact ⟨_, List.mem_singleton_self _⟩
    · rename_i hleaves
      obtain ⟨a, ha⟩ := List.exists_mem_of_ne_nil _ fun hnil ↦ hleaves (List.isEmpty_iff.2 hnil)
      exact ⟨_, List.mem_map_of_mem ha⟩
  rw [mem_applyAll_of_not_drops hkept]
  refine Or.inr ⟨.put p, List.mem_flatMap.2 ⟨m, hm, ?_⟩, hq.trans (Move.below_of_mem_puts hp)⟩
  exact List.mem_cons_of_mem _ (List.mem_map_of_mem hp)

/-- **Moves rebuild their targets fresh** exactly if nothing that stood there survives. -/
theorem fresh_iff (hsound : ∀ m ∈ moves, m.Sound single) (haway : moves.Pairwise Move.Away) :
    Fresh moves T (applyAll single (moves.flatMap Move.edits) T) ↔
      ∀ m ∈ moves, ∀ q ∈ T, m.target <+: q → m.Describes q ∨ m.Overwrites single q := by
  constructor
  · intro h m hm q hq hbelow
    by_contra hsurvives
    rw [not_or] at hsurvives
    refine hsurvives.1 ((h.rebuilt m hm q hbelow).1 ?_)
    rw [mem_applyAll_moves hsound haway hm (Or.inr hbelow), (hsound m hm).mem_iff hbelow]
    exact Or.inr ⟨hq, hsurvives.2⟩
  · intro h
    constructor
    · intro m hm q hq
      rw [mem_applyAll_moves hsound haway hm (Or.inl hq)]
      exact (hsound m hm).not_mem hq
    · intro m hm q hq
      rw [mem_applyAll_moves hsound haway hm (Or.inr hq), (hsound m hm).mem_iff hq]
      refine ⟨fun hmem ↦ hmem.elim id fun ⟨hT, hkept⟩ ↦ ?_, Or.inl⟩
      exact (h m hm q hT hq).resolve_right hkept
    · exact fun m hm q hq ↦ mem_of_prefix_target hsound haway hm hq
    · intro q hq
      refine mem_applyAll_of_untouched fun c hc ↦ ?_
      obtain ⟨m, hm, hc⟩ := List.mem_flatMap.1 hc
      obtain ⟨horiginal, htarget, habove⟩ := hq m hm
      exact (hsound m hm).not_touches horiginal htarget habove c hc

/-- **Moves take effect** exactly if each of them lands. -/
theorem allEffective_moves (hsound : ∀ m ∈ moves, m.Sound single)
    (haway : moves.Pairwise Move.Away) :
    AllEffective single (moves.flatMap Move.edits) T ↔ ∀ m ∈ moves, m.Lands T := by
  induction moves with
  | nil => simp
  | cons m moves ih =>
    obtain ⟨hm, haway⟩ := List.pairwise_cons.1 haway
    have hhead := hsound m List.mem_cons_self
    rw [List.flatMap_cons, allEffective_append_of_untouched, hhead.allEffective_iff,
      ih (fun m' hm' ↦ hsound m' (List.mem_cons_of_mem m hm')) haway, List.forall_mem_cons]
    intro c hc d hd
    obtain ⟨m', hm', hd⟩ := List.mem_flatMap.1 hd
    exact hhead.not_touches_away (hm m' hm') (Move.target_of_mem_edits hd) c hc

end Batches

end PathTree
