import VyosFabric.PathTree.Edits

/-!
# Edits that take effect

An edit takes effect on a tree if it puts a path that is not a node, or cuts one that is. A batch
takes effect if each of its edits does when its turn comes (`AllEffective`).

Whether an edit takes effect depends on its own target only, so edits that do not touch a target can
be left out before it (`allEffective_append_of_untouched`). A batch of parts that stay below paths
apart from each other takes effect if each part does on the tree as it was (`allEffective_parts`).
-/

namespace PathTree

variable {κ : Type}

namespace Edit

/-- The path an edit names. -/
def target : Edit κ → List κ
  | put p => p
  | cut p => p

/-- The edit puts what is not there, or cuts what is. -/
def Effective : Edit κ → Set (List κ) → Prop
  | put p, T => p ∉ T
  | cut p, T => p ∈ T

end Edit

/-- Every edit of the batch takes effect, first to last. -/
def AllEffective (single : List κ → Bool) : List (Edit κ) → Set (List κ) → Prop
  | [], _ => True
  | c :: cs, T => c.Effective T ∧ AllEffective single cs (c.apply single T)

variable {single : List κ → Bool} {c d : Edit κ} {cs cs₁ cs₂ : List (Edit κ)}
  {T T' : Set (List κ)} {p q : List κ} {l : List (List κ)}

@[simp] theorem allEffective_nil : AllEffective single [] T := trivial

@[simp] theorem allEffective_cons : AllEffective single (c :: cs) T ↔
    c.Effective T ∧ AllEffective single cs (c.apply single T) := Iff.rfl

theorem allEffective_append : AllEffective single (cs₁ ++ cs₂) T ↔
    AllEffective single cs₁ T ∧ AllEffective single cs₂ (applyAll single cs₁ T) := by
  induction cs₁ generalizing T with
  | nil => simp
  | cons c cs₁ ih => rw [List.cons_append, allEffective_cons, ih, allEffective_cons, and_assoc,
      applyAll_cons]

theorem Edit.effective_congr (h : c.target ∈ T ↔ c.target ∈ T') :
    c.Effective T ↔ c.Effective T' := by
  cases c with
  | put p => exact not_congr h
  | cut p => exact h

/-- Only the targets matter. -/
theorem allEffective_congr (h : ∀ c ∈ cs, (c.target ∈ T ↔ c.target ∈ T')) :
    AllEffective single cs T ↔ AllEffective single cs T' := by
  induction cs generalizing T T' with
  | nil => exact Iff.rfl
  | cons c cs ih =>
    refine and_congr (Edit.effective_congr (h c List.mem_cons_self)) (ih fun d hd ↦ ?_)
    exact @mem_applyAll_congr _ single [c] _ _ _ (h d (List.mem_cons_of_mem c hd))

/-- **Edits that do not touch a later target** can be left out before it. -/
theorem allEffective_append_of_untouched
    (h : ∀ c ∈ cs₁, ∀ d ∈ cs₂, ¬c.touches single d.target) :
    AllEffective single (cs₁ ++ cs₂) T ↔ AllEffective single cs₁ T ∧ AllEffective single cs₂ T := by
  rw [allEffective_append]
  refine and_congr_right fun _ ↦ allEffective_congr fun d hd ↦ ?_
  exact mem_applyAll_of_untouched fun c hc ↦ h c hc d hd

/-! ### Edits of one kind -/

/-- A put makes its path a node. -/
theorem mem_apply_put : p ∈ (Edit.put p).apply single T := Or.inl (List.prefix_refl p)

/-- What an edit does not touch is as before. -/
theorem mem_apply_of_untouched (h : ¬c.touches single q) : q ∈ c.apply single T ↔ q ∈ T := by
  obtain ⟨hadds, hdrops⟩ := not_or.1 h
  rw [mem_apply_iff]
  exact ⟨fun hq ↦ hq.elim (fun hadd ↦ absurd hadd hadds) And.left, fun hq ↦ Or.inr ⟨hq, hdrops⟩⟩

/-- **Puts** take effect if no path is put twice and none is there. -/
theorem allEffective_puts
    (h : ∀ p ∈ l, ∀ q ∈ l, p ≠ q → ¬(Edit.put p).touches single q) :
    AllEffective single (l.map Edit.put) T ↔ l.Nodup ∧ ∀ p ∈ l, p ∉ T := by
  induction l generalizing T with
  | nil => simp
  | cons p l ih =>
    rw [List.map_cons, allEffective_cons,
      ih fun q hq r hr ↦ h q (List.mem_cons_of_mem p hq) r (List.mem_cons_of_mem p hr),
      List.nodup_cons, List.forall_mem_cons]
    have hrest : ∀ q ∈ l, p ≠ q → (q ∈ (Edit.put p).apply single T ↔ q ∈ T) := fun q hq hne ↦
      mem_apply_of_untouched (h p List.mem_cons_self q (List.mem_cons_of_mem p hq) hne)
    constructor
    · rintro ⟨hp, hnodup, hnew⟩
      have hnot : p ∉ l := fun hmem ↦ hnew p hmem mem_apply_put
      refine ⟨⟨hnot, hnodup⟩, hp, fun q hq hT ↦ hnew q hq ?_⟩
      exact (hrest q hq fun heq ↦ hnot (heq ▸ hq)).2 hT
    · rintro ⟨⟨hnot, hnodup⟩, hp, hnew⟩
      refine ⟨hp, hnodup, fun q hq hT ↦ hnew q hq ?_⟩
      exact (hrest q hq fun heq ↦ hnot (heq ▸ hq)).1 hT

/-- **Cuts** of paths none of which is below another take effect if all are there. -/
theorem allEffective_cuts (hnodup : l.Nodup) (h : ∀ p ∈ l, ∀ q ∈ l, p ≠ q → ¬p <+: q) :
    AllEffective single (l.map Edit.cut) T ↔ ∀ p ∈ l, p ∈ T := by
  induction l generalizing T with
  | nil => simp
  | cons p l ih =>
    obtain ⟨hnot, hnodup⟩ := List.nodup_cons.1 hnodup
    rw [List.map_cons, allEffective_cons,
      ih hnodup fun q hq r hr ↦ h q (List.mem_cons_of_mem p hq) r (List.mem_cons_of_mem p hr),
      List.forall_mem_cons]
    refine and_congr Iff.rfl (forall₂_congr fun q hq ↦ mem_apply_of_untouched ?_)
    rintro (hadds | hbelow)
    · exact hadds
    · exact h p List.mem_cons_self q (List.mem_cons_of_mem p hq) (fun heq ↦ hnot (heq ▸ hq)) hbelow

/-! ### The values of a node -/

section Values

variable {added removed live : List κ}

/-- Values of one node that holds many do not touch each other. -/
theorem not_touches_value (hmany : single p = false) {a b : κ} (hne : a ≠ b) :
    ¬(Edit.put (p ++ [a])).touches single (p ++ [b]) := by
  rintro (hadds | hreplaces)
  · have heq := List.IsPrefix.eq_of_length hadds (by simp)
    exact hne (by simpa using heq.symm)
  · refine not_replaces ?_ hreplaces
    rwa [List.dropLast_concat]

/-- **A change of the values of a node** that holds many. -/
theorem allEffective_values (hmany : single p = false) (hlive : ∀ a, p ++ [a] ∈ T ↔ a ∈ live)
    (hadded : ∀ a ∈ added, a ∉ live) (hremoved : ∀ a ∈ removed, a ∈ live)
    (hnodup : removed.Nodup) :
    AllEffective single ((added.map fun a ↦ .put (p ++ [a])) ++ removed.map fun a ↦ .cut (p ++ [a]))
      T ↔ added.Nodup := by
  have hinj : Function.Injective fun a : κ ↦ p ++ [a] := fun a b hab ↦ by simpa using hab
  have happart : ∀ a b : κ, p ++ [a] <+: p ++ [b] → a = b := fun a b hab ↦ by
    simpa using List.IsPrefix.eq_of_length hab (by simp)
  rw [allEffective_append_of_untouched]
  · have hputs : (added.map fun a ↦ Edit.put (p ++ [a])) =
        (added.map fun a ↦ p ++ [a]).map Edit.put := by rw [List.map_map]; rfl
    have hcuts : (removed.map fun a ↦ Edit.cut (p ++ [a])) =
        (removed.map fun a ↦ p ++ [a]).map Edit.cut := by rw [List.map_map]; rfl
    rw [hputs, hcuts, allEffective_puts, allEffective_cuts (hnodup.map hinj)]
    · constructor
      · exact fun h ↦ h.1.1.of_map _
      · intro h
        refine ⟨⟨h.map hinj, ?_⟩, ?_⟩
        · rintro _ hq
          obtain ⟨a, ha, rfl⟩ := List.mem_map.1 hq
          exact fun hT ↦ hadded a ha ((hlive a).1 hT)
        · rintro _ hq
          obtain ⟨a, ha, rfl⟩ := List.mem_map.1 hq
          exact (hlive a).2 (hremoved a ha)
    · rintro _ hq _ hr hne hbelow
      obtain ⟨a, -, rfl⟩ := List.mem_map.1 hq
      obtain ⟨b, -, rfl⟩ := List.mem_map.1 hr
      exact hne (by rw [happart a b hbelow])
    · rintro _ hq _ hr hne
      obtain ⟨a, -, rfl⟩ := List.mem_map.1 hq
      obtain ⟨b, -, rfl⟩ := List.mem_map.1 hr
      exact not_touches_value hmany fun heq ↦ hne (by rw [heq])
  · -- what is added was not there, and what is removed was
    rintro _ hc _ hd
    obtain ⟨a, ha, rfl⟩ := List.mem_map.1 hc
    obtain ⟨b, hb, rfl⟩ := List.mem_map.1 hd
    exact not_touches_value hmany fun heq ↦ hadded a ha (heq ▸ hremoved b hb)

/-- **The values after such a change** are those that were added, and those that were there and not
removed. -/
theorem mem_applyAll_values (hmany : single p = false) {a : κ} :
    p ++ [a] ∈ applyAll single
        ((added.map fun a ↦ .put (p ++ [a])) ++ removed.map fun a ↦ .cut (p ++ [a])) T ↔
      (p ++ [a] ∈ T ∨ a ∈ added) ∧ a ∉ removed := by
  have heq : ∀ b : κ, p ++ [a] <+: p ++ [b] ↔ a = b := by
    intro b
    rw [List.prefix_append_right_inj]
    simp
  have hcuts : (removed.map fun a ↦ Edit.cut (p ++ [a])) =
      (removed.map fun a ↦ p ++ [a]).map Edit.cut := by rw [List.map_map]; rfl
  rw [applyAll_append, hcuts, mem_applyAll_cuts, mem_applyAll_of_not_drops]
  · refine and_congr (or_congr_right ⟨?_, fun ha ↦ ?_⟩) ⟨fun h ha ↦ ?_, fun ha r hr hbelow ↦ ?_⟩
    · rintro ⟨c, hc, hadds⟩
      obtain ⟨b, hb, rfl⟩ := List.mem_map.1 hc
      obtain rfl := (heq b).1 hadds
      exact hb
    · exact ⟨.put (p ++ [a]), List.mem_map_of_mem ha, List.prefix_refl _⟩
    · exact h (p ++ [a]) (List.mem_map_of_mem ha) (List.prefix_refl _)
    · obtain ⟨b, hb, rfl⟩ := List.mem_map.1 hr
      have hab : b = a := by simpa using hbelow
      exact ha (hab ▸ hb)
  · intro c hc
    obtain ⟨b, -, rfl⟩ := List.mem_map.1 hc
    exact not_replaces (by rwa [List.dropLast_concat])

end Values

/-! ### Parts -/

/-- Neither path is above the other. -/
def Apart (p q : List κ) : Prop := ¬p <+: q ∧ ¬q <+: p

instance [DecidableEq κ] (p q : List κ) : Decidable (Apart p q) :=
  inferInstanceAs (Decidable (_ ∧ _))

theorem Apart.append_left (base : List κ) (h : Apart p q) : Apart (base ++ p) (base ++ q) :=
  ⟨fun hpq ↦ h.1 ((List.prefix_append_right_inj base).1 hpq),
    fun hqp ↦ h.2 ((List.prefix_append_right_inj base).1 hqp)⟩

/-- What is below paths apart is apart. -/
theorem Apart.mono {p' q' : List κ} (h : Apart p q) (hp : p <+: p') (hq : q <+: q') :
    Apart p' q' := by
  constructor
  · intro hpq
    exact (List.prefix_or_prefix_of_prefix (hp.trans hpq) hq).elim h.1 h.2
  · intro hqp
    exact (List.prefix_or_prefix_of_prefix hp (hq.trans hqp)).elim h.1 h.2

theorem Apart.symm (h : Apart p q) : Apart q p := ⟨h.2, h.1⟩

/-- The edit is at the path or below it, and replaces nothing beside it. -/
structure Edit.Below (single : List κ → Bool) (p : List κ) (c : Edit κ) : Prop where
  target : p <+: c.target
  alone : c = .put p → single p.dropLast = false

/-- An edit below a path drops nothing that is not below it. -/
theorem Edit.Below.prefix_of_drops (h : c.Below single p) (hdrops : c.drops single q) :
    p <+: q := by
  obtain ⟨hbelow, halone⟩ := h
  cases c with
  | cut r => exact hbelow.trans hdrops
  | put r =>
    obtain ⟨t, rfl⟩ := hbelow
    change Replaces single (p ++ t) q at hdrops
    rcases List.eq_nil_or_concat t with rfl | ⟨t, k, rfl⟩
    · rw [List.append_nil] at hdrops halone
      exact absurd hdrops (not_replaces (halone rfl))
    · have hparent := hdrops.parent_prefix
      rw [List.concat_eq_append, ← List.append_assoc, List.dropLast_concat] at hparent
      exact (List.prefix_append p t).trans hparent

/-- It touches nothing apart from the path. -/
theorem Edit.Below.not_touches (h : c.Below single p) (hpq : Apart p q) : ¬c.touches single q := by
  rintro (hadds | hdrops)
  · cases c with
    | cut r => exact hadds
    | put r => exact (List.prefix_or_prefix_of_prefix h.target hadds).elim hpq.1 hpq.2
  · exact hpq.1 (h.prefix_of_drops hdrops)

section Parts

variable {parts : List (List κ × List (Edit κ))}

/-- **In a batch of parts apart from each other**, each part alone has a say below its path. -/
theorem mem_applyAll_parts (hbelow : ∀ x ∈ parts, ∀ c ∈ x.2, c.Below single x.1)
    (hapart : parts.Pairwise fun x y ↦ Apart x.1 y.1) {x : List κ × List (Edit κ)}
    (hx : x ∈ parts) (hq : x.1 <+: q) :
    q ∈ applyAll single (parts.flatMap Prod.snd) T ↔ q ∈ applyAll single x.2 T := by
  obtain ⟨l₁, l₂, rfl⟩ := List.append_of_mem hx
  obtain ⟨-, htail, hhead⟩ := List.pairwise_append.1 hapart
  have huntouched : ∀ y ∈ l₁ ++ x :: l₂, Apart y.1 x.1 → ∀ c ∈ y.2, ¬c.touches single q :=
    fun y hy hyx c hc ↦ (hbelow y hy c hc).not_touches (hyx.mono (List.prefix_refl _) hq)
  rw [List.flatMap_append, List.flatMap_cons]
  refine mem_applyAll_middle (fun c hc ↦ ?_) fun c hc ↦ ?_
  · obtain ⟨y, hy, hc⟩ := List.mem_flatMap.1 hc
    exact huntouched y (List.mem_append_left _ hy) (hhead y hy x List.mem_cons_self) c hc
  · obtain ⟨y, hy, hc⟩ := List.mem_flatMap.1 hc
    have hxy := (List.pairwise_cons.1 htail).1 y hy
    exact huntouched y (List.mem_append_right _ (List.mem_cons_of_mem x hy)) hxy.symm c hc

/-- **A batch of parts apart from each other** takes effect if each part does on the tree as it
was. -/
theorem allEffective_parts (hbelow : ∀ x ∈ parts, ∀ c ∈ x.2, c.Below single x.1)
    (hapart : parts.Pairwise fun x y ↦ Apart x.1 y.1) :
    AllEffective single (parts.flatMap Prod.snd) T ↔ ∀ x ∈ parts, AllEffective single x.2 T := by
  induction parts with
  | nil => simp
  | cons x parts ih =>
    obtain ⟨hx, hapart⟩ := List.pairwise_cons.1 hapart
    rw [List.flatMap_cons, allEffective_append_of_untouched,
      ih (fun y hy ↦ hbelow y (List.mem_cons_of_mem x hy)) hapart, List.forall_mem_cons]
    intro c hc d hd
    obtain ⟨y, hy, hd⟩ := List.mem_flatMap.1 hd
    refine (hbelow x List.mem_cons_self c hc).not_touches ?_
    exact (hx y hy).mono (List.prefix_refl _) (hbelow y (List.mem_cons_of_mem x hy) d hd).target

end Parts

end PathTree
