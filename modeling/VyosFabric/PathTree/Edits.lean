import Mathlib.Data.List.Nodup
import Mathlib.Data.Set.Basic

/-!
# Edits of a tree of paths

A tree is the set of its nodes, each a path from the root. An edit puts a path with its ancestors,
or cuts a path with everything below it. Below a node that `single` selects only one child may
stand, so a put there replaces what else is below that node.

## What an edit does to one path

`adds` and `drops` say it completely (`mem_apply_iff`). A batch is read at one path at a time: edits
that do not touch the path can be left out (`mem_applyAll_of_untouched`), and where nothing drops
it, the order of the batch does not matter (`mem_applyAll_of_not_drops`).

## Independent parts

A batch of parts `f x` is independent if at every path nothing is dropped, or one part alone has a
say (`Independent`). The parts of such a batch may stand in any order (`applyAll_flatMap_perm`).
-/

namespace PathTree

variable {κ : Type}

/-- An edit of a tree. -/
inductive Edit (κ : Type) where
  /-- Add a path and its ancestors. -/
  | put (p : List κ)
  /-- Remove a path and everything below it. -/
  | cut (p : List κ)

/-- A put at `p` replaces `q`: the parent of `p` holds one child, and `q` is below it. -/
def Replaces (single : List κ → Bool) (p q : List κ) : Prop :=
  single p.dropLast = true ∧ p.dropLast <+: q ∧ q ≠ p.dropLast

namespace Edit

/-- The edit makes `q` a node. -/
def adds : Edit κ → List κ → Prop
  | put p, q => q <+: p
  | cut _, _ => False

/-- The edit removes `q`, unless it adds it. -/
def drops (single : List κ → Bool) : Edit κ → List κ → Prop
  | put p, q => Replaces single p q
  | cut p, q => p <+: q

/-- The tree after an edit. -/
def apply (single : List κ → Bool) (c : Edit κ) (T : Set (List κ)) : Set (List κ) :=
  {q | c.adds q ∨ q ∈ T ∧ ¬c.drops single q}

/-- The edit can change whether `q` is a node. -/
def touches (single : List κ → Bool) (c : Edit κ) (q : List κ) : Prop :=
  c.adds q ∨ c.drops single q

end Edit

/-- The tree after a batch of edits, first to last. -/
def applyAll (single : List κ → Bool) : List (Edit κ) → Set (List κ) → Set (List κ)
  | [], T => T
  | c :: cs, T => applyAll single cs (c.apply single T)

variable {single : List κ → Bool} {c : Edit κ} {cs cs₁ cs₂ : List (Edit κ)} {T T' : Set (List κ)}
  {p q : List κ}

@[simp] theorem mem_apply_iff :
    q ∈ c.apply single T ↔ c.adds q ∨ q ∈ T ∧ ¬c.drops single q := Iff.rfl

@[simp] theorem applyAll_nil : applyAll single [] T = T := rfl

@[simp] theorem applyAll_cons :
    applyAll single (c :: cs) T = applyAll single cs (c.apply single T) := rfl

theorem applyAll_append :
    applyAll single (cs₁ ++ cs₂) T = applyAll single cs₂ (applyAll single cs₁ T) := by
  induction cs₁ generalizing T with
  | nil => rfl
  | cons c cs₁ ih => exact ih

/-- A batch reads the tree at one path only. -/
theorem mem_applyAll_congr (h : q ∈ T ↔ q ∈ T') :
    q ∈ applyAll single cs T ↔ q ∈ applyAll single cs T' := by
  induction cs generalizing T T' with
  | nil => exact h
  | cons c cs ih => exact ih (or_congr_right (and_congr_left' h))

/-- **Edits that do not touch a path** leave it as it is. -/
theorem mem_applyAll_of_untouched (h : ∀ c ∈ cs, ¬c.touches single q) :
    q ∈ applyAll single cs T ↔ q ∈ T := by
  induction cs generalizing T with
  | nil => exact Iff.rfl
  | cons c cs ih =>
    have hc := not_or.1 (h c List.mem_cons_self)
    rw [applyAll_cons, ih fun d hd ↦ h d (List.mem_cons_of_mem c hd), mem_apply_iff]
    constructor
    · rintro (hadd | ⟨hq, -⟩)
      · exact absurd hadd hc.1
      · exact hq
    · exact fun hq ↦ Or.inr ⟨hq, hc.2⟩

/-- Around a part of a batch, edits that do not touch a path can be left out. -/
theorem mem_applyAll_middle (h₁ : ∀ c ∈ cs₁, ¬c.touches single q)
    (h₂ : ∀ c ∈ cs₂, ¬c.touches single q) :
    q ∈ applyAll single (cs₁ ++ (cs ++ cs₂)) T ↔ q ∈ applyAll single cs T := by
  rw [applyAll_append, applyAll_append, mem_applyAll_of_untouched h₂]
  exact mem_applyAll_congr (mem_applyAll_of_untouched h₁)

/-- **Where nothing drops a path**, it is a node after the batch if it was one, or some edit adds
it. -/
theorem mem_applyAll_of_not_drops (h : ∀ c ∈ cs, ¬c.drops single q) :
    q ∈ applyAll single cs T ↔ q ∈ T ∨ ∃ c ∈ cs, c.adds q := by
  induction cs generalizing T with
  | nil => simp
  | cons c cs ih =>
    have hc := h c List.mem_cons_self
    rw [applyAll_cons, ih fun d hd ↦ h d (List.mem_cons_of_mem c hd), mem_apply_iff]
    constructor
    · rintro ((hadd | ⟨hq, -⟩) | ⟨d, hd, hadd⟩)
      · exact Or.inr ⟨c, List.mem_cons_self, hadd⟩
      · exact Or.inl hq
      · exact Or.inr ⟨d, List.mem_cons_of_mem c hd, hadd⟩
    · rintro (hq | ⟨d, hd, hadd⟩)
      · exact Or.inl (Or.inr ⟨hq, hc⟩)
      · rcases List.mem_cons.1 hd with rfl | hd
        · exact Or.inl (Or.inl hadd)
        · exact Or.inr ⟨d, hd, hadd⟩

/-- After cuts, what is left is what is not below a path that was cut. -/
theorem mem_applyAll_cuts {l : List (List κ)} :
    q ∈ applyAll single (l.map Edit.cut) T ↔ q ∈ T ∧ ∀ p ∈ l, ¬p <+: q := by
  induction l generalizing T with
  | nil => simp
  | cons p l ih =>
    rw [List.map_cons, applyAll_cons, ih, mem_apply_iff, List.forall_mem_cons]
    constructor
    · rintro ⟨hadds | ⟨hq, hp⟩, hl⟩
      · exact False.elim hadds
      · exact ⟨hq, hp, hl⟩
    · rintro ⟨hq, hp, hl⟩
      exact ⟨Or.inr ⟨hq, hp⟩, hl⟩

/-- A put drops nothing where its parent may hold several children. -/
theorem not_replaces (h : single p.dropLast = false) : ¬Replaces single p q := by
  rintro ⟨hsingle, -, -⟩
  rw [h] at hsingle
  cases hsingle

/-- What a put replaces is below its parent. -/
theorem Replaces.parent_prefix (h : Replaces single p q) : p.dropLast <+: q := h.2.1

/-! ### Independent parts -/

section Parts

variable {ι : Type} {f : ι → List (Edit κ)} {l l' : List ι} {x : ι}

/-- **Where one part alone has a say**, the others can be left out. -/
theorem mem_applyAll_flatMap_of_only (hnodup : l.Nodup) (hx : x ∈ l)
    (honly : ∀ y ∈ l, y ≠ x → ∀ c ∈ f y, ¬c.touches single q) :
    q ∈ applyAll single (l.flatMap f) T ↔ q ∈ applyAll single (f x) T := by
  obtain ⟨l₁, l₂, rfl⟩ := List.append_of_mem hx
  obtain ⟨hnot, -⟩ := List.nodup_cons.1 (List.nodup_middle.1 hnodup)
  have huntouched : ∀ y ∈ l₁ ++ l₂, ∀ c ∈ f y, ¬c.touches single q := by
    intro y hy
    refine honly y ?_ ?_
    · rcases List.mem_append.1 hy with hy | hy
      · exact List.mem_append_left _ hy
      · exact List.mem_append_right _ (List.mem_cons_of_mem x hy)
    · rintro rfl
      exact hnot hy
  rw [List.flatMap_append, List.flatMap_cons]
  refine mem_applyAll_middle (fun c hc ↦ ?_) fun c hc ↦ ?_
  · obtain ⟨y, hy, hc⟩ := List.mem_flatMap.1 hc
    exact huntouched y (List.mem_append_left l₂ hy) c hc
  · obtain ⟨y, hy, hc⟩ := List.mem_flatMap.1 hc
    exact huntouched y (List.mem_append_right l₁ hy) c hc

/-- **Where nothing is dropped**, the parts only add. -/
theorem mem_applyAll_flatMap_of_not_drops (h : ∀ x ∈ l, ∀ c ∈ f x, ¬c.drops single q) :
    q ∈ applyAll single (l.flatMap f) T ↔ q ∈ T ∨ ∃ x ∈ l, ∃ c ∈ f x, c.adds q := by
  have hbatch : ∀ c ∈ l.flatMap f, ¬c.drops single q := by
    intro c hc
    obtain ⟨x, hx, hc⟩ := List.mem_flatMap.1 hc
    exact h x hx c hc
  rw [mem_applyAll_of_not_drops hbatch]
  refine or_congr_right ⟨?_, ?_⟩
  · rintro ⟨c, hc, hadds⟩
    obtain ⟨x, hx, hc⟩ := List.mem_flatMap.1 hc
    exact ⟨x, hx, c, hc, hadds⟩
  · rintro ⟨x, hx, c, hc, hadds⟩
    exact ⟨c, List.mem_flatMap.2 ⟨x, hx, hc⟩, hadds⟩

/-- At every path nothing is dropped, or one part alone has a say. -/
def Independent (single : List κ → Bool) (f : ι → List (Edit κ)) (l : List ι) : Prop :=
  ∀ q, (∀ x ∈ l, ∀ c ∈ f x, ¬c.drops single q) ∨
    ∃ x ∈ l, ∀ y ∈ l, y ≠ x → ∀ c ∈ f y, ¬c.touches single q

/-- **Independent parts may stand in any order.** -/
theorem applyAll_flatMap_perm (hperm : l.Perm l') (hnodup : l.Nodup)
    (hind : Independent single f l) :
    applyAll single (l.flatMap f) T = applyAll single (l'.flatMap f) T := by
  ext q
  rcases hind q with hkeep | ⟨x, hx, honly⟩
  · rw [mem_applyAll_flatMap_of_not_drops hkeep,
      mem_applyAll_flatMap_of_not_drops fun y hy ↦ hkeep y (hperm.mem_iff.2 hy)]
    simp only [hperm.mem_iff]
  · rw [mem_applyAll_flatMap_of_only hnodup hx honly,
      mem_applyAll_flatMap_of_only (hperm.nodup_iff.1 hnodup) (hperm.mem_iff.1 hx)
        fun y hy ↦ honly y (hperm.mem_iff.2 hy)]

end Parts

/-! ### Decisions -/

section Decisions

variable [DecidableEq κ]

instance (single : List κ → Bool) (p q : List κ) : Decidable (Replaces single p q) :=
  inferInstanceAs (Decidable (_ ∧ _ ∧ _))

instance (c : Edit κ) (q : List κ) : Decidable (c.adds q) :=
  match c with
  | .put p => inferInstanceAs (Decidable (q <+: p))
  | .cut _ => isFalse id

instance (single : List κ → Bool) (c : Edit κ) (q : List κ) : Decidable (c.drops single q) :=
  match c with
  | .put p => inferInstanceAs (Decidable (Replaces single p q))
  | .cut p => inferInstanceAs (Decidable (p <+: q))

end Decisions

end PathTree
