import Mathlib.Data.List.Induction
import Mathlib.Logic.Function.Basic

/-!
# What a sequence of writes comes to

A write gives one key a value. After a sequence of writes a key has the value of the last write to
it (`written`), so two sequences that agree on the writes to a key agree on its value
(`written_congr`), in whatever order they write the others.

Items of which each says something of one thing at most are such a sequence: what they come to is
what the last item that speaks of a thing says of it (`lastSays_iff`).
-/

namespace Interaction

variable {κ β : Type} [DecidableEq κ]

/-- The values after the writes, first to last. -/
def written (init : κ → β) (writes : List (κ × β)) : κ → β :=
  writes.foldl (fun m w ↦ Function.update m w.1 w.2) init

@[simp] theorem written_nil (init : κ → β) : written init [] = init := rfl

theorem written_append (init : κ → β) (l₁ l₂ : List (κ × β)) :
    written init (l₁ ++ l₂) = written (written init l₁) l₂ :=
  List.foldl_append

theorem written_snoc (init : κ → β) (l : List (κ × β)) (w : κ × β) :
    written init (l ++ [w]) = Function.update (written init l) w.1 w.2 :=
  written_append init l [w]

/-- **The writes to a key decide its value.** -/
theorem written_filter (init : κ → β) (l : List (κ × β)) (k : κ) :
    written init (l.filter fun w ↦ w.1 = k) k = written init l k := by
  induction l using List.reverseRecOn with
  | nil => rfl
  | append_singleton l w ih =>
    rw [List.filter_append, written_snoc]
    by_cases hk : w.1 = k
    · have hone : ([w].filter fun w ↦ w.1 = k) = [w] := List.filter_cons_of_pos (by simpa using hk)
      rw [hone, written_snoc, hk, Function.update_self, Function.update_self]
    · have hnone : ([w].filter fun w ↦ w.1 = k) = [] := List.filter_cons_of_neg (by simpa using hk)
      rw [hnone, List.append_nil, Function.update_of_ne fun h ↦ hk h.symm]
      exact ih

theorem written_congr {init : κ → β} {l₁ l₂ : List (κ × β)} {k : κ}
    (h : (l₁.filter fun w ↦ w.1 = k) = l₂.filter fun w ↦ w.1 = k) :
    written init l₁ k = written init l₂ k := by
  rw [← written_filter init l₁, h, written_filter]

/-! ### What is said last -/

section Said

variable {α : Type} {speaks : α → κ → β → Prop} {about : α → Option (κ × β)}

/-- The last item that speaks of `k` says this of it, or no item does. -/
def LastSays (speaks : α → κ → β → Prop) (l : List α) (k : κ) : Option β → Prop
  | some b => ∃ pre a post, l = pre ++ a :: post ∧ speaks a k b ∧ ∀ c ∈ post, ∀ b', ¬speaks c k b'
  | none => ∀ a ∈ l, ∀ b, ¬speaks a k b

/-- What is said of each thing, first item to last. -/
def lastSaid (about : α → Option (κ × β)) (l : List α) : κ → Option β :=
  written (fun _ ↦ none) ((l.filterMap about).map fun w ↦ (w.1, some w.2))

theorem lastSaid_snoc (about : α → Option (κ × β)) (l : List α) (a : α) :
    lastSaid about (l ++ [a]) =
      match about a with
      | none => lastSaid about l
      | some (k, b) => Function.update (lastSaid about l) k (some b) := by
  rw [lastSaid, List.filterMap_append, List.map_append]
  cases h : about a with
  | none => simp [h, lastSaid]
  | some w => simp [h, lastSaid, written_snoc]

omit [DecidableEq κ] in
/-- The last item, or else one before it. -/
theorem lastSays_snoc {l : List α} {a : α} {k : κ} {o : Option β} :
    LastSays speaks (l ++ [a]) k o ↔
      (∃ b, speaks a k b ∧ o = some b) ∨ (∀ b, ¬speaks a k b) ∧ LastSays speaks l k o := by
  cases o with
  | none =>
    simp only [LastSays, List.forall_mem_append, List.forall_mem_singleton, reduceCtorEq,
      and_false, exists_false, false_or]
    exact and_comm
  | some b =>
    constructor
    · rintro ⟨pre, c, post, hl, hc, hpost⟩
      cases post using List.reverseRecOn with
      | nil =>
        obtain ⟨rfl, hac⟩ := List.append_inj' hl rfl
        obtain rfl := List.singleton_inj.1 hac
        exact Or.inl ⟨b, hc, rfl⟩
      | append_singleton post d =>
        rw [← List.cons_append, ← List.append_assoc] at hl
        obtain ⟨rfl, had⟩ := List.append_inj' hl rfl
        obtain rfl := List.singleton_inj.1 had
        obtain ⟨hpost, hd⟩ := List.forall_mem_append.1 hpost
        exact Or.inr ⟨hd a List.mem_cons_self, pre, c, post, rfl, hc, hpost⟩
    · rintro (⟨b', hb, heq⟩ | ⟨hnone, pre, c, post, rfl, hc, hpost⟩)
      · obtain rfl := Option.some.inj heq
        exact ⟨l, a, [], rfl, hb, fun c hc ↦ absurd hc List.not_mem_nil⟩
      · refine ⟨pre, c, post ++ [a], by simp, hc, List.forall_mem_append.2 ⟨hpost, ?_⟩⟩
        exact List.forall_mem_singleton.2 hnone

/-- **What is said last** is what the writes come to. -/
theorem lastSays_iff (habout : ∀ a k b, about a = some (k, b) ↔ speaks a k b) {l : List α} {k : κ}
    {o : Option β} : LastSays speaks l k o ↔ o = lastSaid about l k := by
  induction l using List.reverseRecOn generalizing o with
  | nil => cases o <;> simp [LastSays, lastSaid]
  | append_singleton l a ih =>
    rw [lastSays_snoc, lastSaid_snoc, ih]
    cases ha : about a with
    | none =>
      have hnone : ∀ b, ¬speaks a k b := fun b hb ↦ by simp [(habout a k b).2 hb] at ha
      exact ⟨fun h ↦ h.elim (fun ⟨b, hb, _⟩ ↦ absurd hb (hnone b)) And.right,
        fun h ↦ Or.inr ⟨hnone, h⟩⟩
    | some w =>
      obtain ⟨k', b'⟩ := w
      have hspeaks : ∀ b, speaks a k b ↔ k' = k ∧ b' = b := fun b ↦ by
        rw [← habout, ha, Option.some_inj, Prod.mk.injEq]
      by_cases hk : k' = k
      · subst hk
        dsimp only
        rw [Function.update_self]
        simp [hspeaks]
      · dsimp only
        rw [Function.update_of_ne (Ne.symm hk)]
        simp [hspeaks, hk]

end Said

end Interaction
