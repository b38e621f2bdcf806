import Mathlib.Algebra.Order.Ring.Rat
import Mathlib.Data.List.DropRight
import Mathlib.Data.List.Forall2
import Mathlib.Tactic.Linarith
import Mathlib.Tactic.Positivity
import VyosFabric.Show.Interfaces

/-!
# The speed of an interface

The tile draws how fast the counters of a chosen interface grow. It keeps the last sample of them
with the time at which it was taken, and divides what they have grown by the time gone since.

A sample is taken when a snapshot arrives, but also when an interface is chosen: then the counters
are those of the snapshot that is already there, and the time is that of the choice. A speed is
right just if the sample it starts from was taken when its snapshot arrived, or if nothing grew
(`speeds_right_iff`). It never mixes two interfaces.
-/

namespace VyosFabric

structure Sample where
  t : ℚ
  rx : ℕ
  tx : ℕ
  deriving DecidableEq, Repr

/-- What the tile keeps. Times are in milliseconds. -/
structure NetworkSpeedTile where
  stats : Option (List InterfaceStat)
  selected : Option String
  rx : List ℚ
  tx : List ℚ
  prev : Option Sample
  deriving DecidableEq, Repr

/-- `MAX_POINTS`. -/
def maxPoints : ℕ := 61

/-- The bytes that the chosen interface has received and sent. The empty name counts as none. -/
def countersIn (selected : Option String) (stats : List InterfaceStat) : Option (ℕ × ℕ) := do
  let name ← selected.filter fun n ↦ n != ""
  let s ← stats.find? fun x ↦ x.name == name
  return (← s.rxBytes, ← s.txBytes)

namespace NetworkSpeedTile

/-- What happens to the tile: counters arrive, or the user picks a name. -/
inductive TileEvent where
  | snapshot (now : ℚ) (data : List InterfaceStat)
  | select (now : ℚ) (name : String)
  deriving DecidableEq, Repr

/-- The tile as it is first shown. -/
def fresh : NetworkSpeedTile := ⟨none, none, [], [], none⟩

variable (s : NetworkSpeedTile)

def names : List String := (s.stats.getD []).map InterfaceStat.name

def counters : Option (ℕ × ℕ) := s.stats.bind (countersIn s.selected)

/-- What the first effect chooses, if it does: the first ethernet interface, or the first one. -/
def defaultName : Option String :=
  if (s.selected.filter fun n ↦ n != "").isSome then none
  else (s.names.find? fun n ↦ "eth".toList.isPrefixOf n.toList) <|> s.names.head?

/-- The second effect: the chart is reset. -/
def reset : NetworkSpeedTile := { s with prev := none, rx := [], tx := [] }

/-- `[...a, v].slice(-MAX_POINTS)`. -/
def extend {α : Type} (a : List α) (v : α) : List α := (a ++ [v]).rtake maxPoints

/-- The third effect: a sample is taken, and a speed appended if there was one before. -/
def addSample (now : ℚ) : NetworkSpeedTile :=
  match s.counters with
  | none => s
  | some (rx, tx) =>
    let kept := { s with prev := some ⟨now, rx, tx⟩ }
    match s.prev with
    | none => kept
    | some p =>
      let dt := (now - p.t) / 1000
      if dt ≤ 0 then kept
      else
        { kept with
          rx := extend s.rx (max 0 (((rx : ℚ) - p.rx) / dt))
          tx := extend s.tx (max 0 (((tx : ℚ) - p.tx) / dt)) }

theorem addSample_selected (now : ℚ) : (s.addSample now).selected = s.selected := by
  rw [addSample]
  split
  · rfl
  · split
    · rfl
    · dsimp only
      split
      · rfl
      · rfl

/-- `setSelected`: the effects run if the name is another one. -/
def setSelected (now : ℚ) (name : String) : NetworkSpeedTile :=
  if s.selected = some name then s
  else ({ s with selected := some name } : NetworkSpeedTile).reset.addSample now

/-- What the first effect has scheduled, once the others have run. -/
def settle (now : ℚ) : NetworkSpeedTile :=
  match s.defaultName with
  | some name => s.setSelected now name
  | none => s

/-- What an event does. The names that can be picked are those of the last snapshot. -/
def step : TileEvent → NetworkSpeedTile
  | .snapshot now data =>
    (({ s with stats := some data } : NetworkSpeedTile).addSample now).settle now
  | .select now name => if name ∈ s.names then (s.setSelected now name).settle now else s

def run (events : List TileEvent) : NetworkSpeedTile := events.foldl step s

end NetworkSpeedTile

/-! ### The snapshots behind the speeds -/

/-- Counters that arrived, and when. -/
structure Snapshot where
  time : ℚ
  stats : List InterfaceStat
  deriving DecidableEq, Repr

/-- The tile, with the snapshots that arrived, newest first; the one of the last sample; and the two
whose counters each speed subtracts. -/
structure SpeedTrack where
  tile : NetworkSpeedTile
  arrived : List Snapshot
  sampled : Option Snapshot
  points : List (Snapshot × Snapshot)
  deriving DecidableEq, Repr

namespace SpeedTrack

open NetworkSpeedTile (TileEvent extend)

variable (t : SpeedTrack)

def fresh : SpeedTrack := ⟨.fresh, [], none, []⟩

/-- A speed is appended. -/
def appends (now : ℚ) : Bool :=
  t.tile.counters.isSome && t.tile.prev.any fun p ↦ decide (0 < (now - p.t) / 1000)

def addSample (now : ℚ) : SpeedTrack :=
  { t with
    tile := t.tile.addSample now
    sampled := if t.tile.counters.isSome then t.arrived.head? else t.sampled
    points :=
      if t.appends now then
        match t.sampled, t.arrived.head? with
        | some a, some b => extend t.points (a, b)
        | _, _ => t.points
      else t.points }

def choose (name : String) : SpeedTrack :=
  { t with
    tile := ({ t.tile with selected := some name } : NetworkSpeedTile).reset
    sampled := none
    points := [] }

def receive (now : ℚ) (data : List InterfaceStat) : SpeedTrack :=
  { t with tile := { t.tile with stats := some data }, arrived := ⟨now, data⟩ :: t.arrived }

def setSelected (now : ℚ) (name : String) : SpeedTrack :=
  if t.tile.selected = some name then t else (t.choose name).addSample now

def settle (now : ℚ) : SpeedTrack :=
  match t.tile.defaultName with
  | some name => t.setSelected now name
  | none => t

def step : TileEvent → SpeedTrack
  | .snapshot now data => ((t.receive now data).addSample now).settle now
  | .select now name => if name ∈ t.tile.names then (t.setSelected now name).settle now else t

def run (events : List TileEvent) : SpeedTrack := events.foldl step t

/-- The value is what one counter has grown from the first snapshot to the second, in some time. -/
def IsSpeed (selected : Option String) (counter : ℕ × ℕ → ℕ) (x : Snapshot × Snapshot) (dt v : ℚ) :
    Prop :=
  ∃ c d, countersIn selected x.1.stats = some c ∧ countersIn selected x.2.stats = some d ∧
    v = max 0 ((counter d : ℚ) - counter c) / dt

/-- The series consist of speeds between the snapshots of the points, in intervals as given. -/
structure Series (interval : Snapshot × Snapshot → ℚ → Prop) : Prop where
  rx : List.Forall₂ (fun x v ↦ ∃ dt, interval x dt ∧ IsSpeed t.tile.selected Prod.fst x dt v)
    t.points t.tile.rx
  tx : List.Forall₂ (fun x v ↦ ∃ dt, interval x dt ∧ IsSpeed t.tile.selected Prod.snd x dt v)
    t.points t.tile.tx

/-- The interval is the time, in seconds, between the arrivals. -/
def arrivalInterval (x : Snapshot × Snapshot) (dt : ℚ) : Prop := dt = (x.2.time - x.1.time) / 1000

/-- The points are pairs of snapshots that have arrived one after the other, and there are not too
many of them. -/
structure Ordered : Prop where
  arrived : ∀ x ∈ t.points, x.1 ∈ t.arrived ∧ x.2 ∈ t.arrived ∧ x.1.time < x.2.time
  length_le : t.points.length ≤ maxPoints

/-- The speed that an event appends starts from a sample that was taken when its snapshot arrived,
or neither counter has grown since. -/
def Timely : TileEvent → Prop
  | .snapshot now data =>
    ∀ p a c, t.tile.prev = some p → t.sampled = some a →
      countersIn t.tile.selected data = some c → p.t < now →
      p.t = a.time ∨ (c.1 ≤ p.rx ∧ c.2 ≤ p.tx)
  | .select _ _ => True

/-- Every speed that a run appends is timely. -/
def Punctual : SpeedTrack → List TileEvent → Prop
  | _, [] => True
  | t, e :: events => t.Timely e ∧ Punctual (t.step e) events

/-- When the snapshots of a run arrive. -/
def arrivals (events : List TileEvent) : List ℚ :=
  events.filterMap fun
    | .snapshot now _ => some now
    | .select _ _ => none

/-! ### The tile is the one of the code -/

@[simp] theorem addSample_tile (now : ℚ) : (t.addSample now).tile = t.tile.addSample now := rfl

@[simp] theorem choose_tile (name : String) :
    (t.choose name).tile = ({ t.tile with selected := some name } : NetworkSpeedTile).reset := rfl

@[simp] theorem receive_tile (now : ℚ) (data : List InterfaceStat) :
    (t.receive now data).tile = { t.tile with stats := some data } := rfl

theorem setSelected_tile (now : ℚ) (name : String) :
    (t.setSelected now name).tile = t.tile.setSelected now name := by
  rw [setSelected, NetworkSpeedTile.setSelected]
  split
  · rfl
  · rfl

theorem settle_tile (now : ℚ) : (t.settle now).tile = t.tile.settle now := by
  rw [settle, NetworkSpeedTile.settle]
  split
  · exact t.setSelected_tile now _
  · rfl

theorem step_tile (e : TileEvent) : (t.step e).tile = t.tile.step e := by
  cases e with
  | snapshot now data => exact settle_tile _ now
  | select now name =>
    simp only [step, NetworkSpeedTile.step]
    split
    · rw [settle_tile, setSelected_tile]
    · rfl

/-- **What is followed** is the tile. -/
theorem run_tile (events : List TileEvent) : (t.run events).tile = t.tile.run events := by
  induction events generalizing t with
  | nil => rfl
  | cons e events ih =>
    have h := ih (t.step e)
    rwa [step_tile] at h

/-! ### Series -/

section Series

variable {t} {now : ℚ} {interval : Snapshot × Snapshot → ℚ → Prop}

section Choice

variable {P : SpeedTrack → Prop} (hchoose : ∀ t name, P t → P ((t.choose name).addSample now))
include hchoose

theorem setSelected_induction (h : P t) (name : String) : P (t.setSelected now name) := by
  rw [SpeedTrack.setSelected]
  split
  · exact h
  · exact hchoose t name h

/-- **What every choice keeps** is kept by the one that the first effect makes, or does not. -/
theorem settle_induction (h : P t) : P (t.settle now) := by
  rw [SpeedTrack.settle]
  split
  · exact setSelected_induction hchoose h _
  · exact h

theorem select_induction (h : P t) (name : String) : P (t.step (.select now name)) := by
  simp only [SpeedTrack.step]
  split
  · exact settle_induction hchoose (setSelected_induction hchoose h name)
  · exact h

end Choice

theorem length_extend_le {α : Type} (a : List α) (v : α) : (extend a v).length ≤ maxPoints := by
  rw [extend, List.rtake, List.length_drop]
  omega

theorem mem_extend {α : Type} {a : List α} {v x : α} (h : x ∈ extend a v) : x ∈ a ∨ x = v := by
  have := List.mem_of_mem_drop h
  simpa using this

/-- Two series that agree agree on what is appended to both, if that does. -/
theorem forall₂_extend {α β : Type} {R : α → β → Prop} {a : List α} {b : List β} {x : α} {v : β}
    (h : List.Forall₂ R a b) : List.Forall₂ R (extend a x) (extend b v) ↔ R x v := by
  have hlength := h.length_eq
  rw [extend, extend, maxPoints, List.rtake_concat_succ, List.rtake_concat_succ,
    ← List.forall₂_reverse_iff, List.reverse_concat, List.reverse_concat, List.forall₂_cons,
    List.forall₂_reverse_iff, and_iff_left_iff_imp]
  intro _
  rw [List.rtake, List.rtake, hlength]
  exact List.forall₂_drop _ h

theorem max_zero_div {x d : ℚ} (hd : 0 < d) : max 0 (x / d) = max 0 x / d := by
  rw [← max_div_div_right hd.le, zero_div]

/-- A growth in two intervals is the same speed, if they are the same or nothing has grown. -/
theorem max_zero_div_eq_iff {x d d' : ℚ} (hd : 0 < d) :
    max 0 (x / d) = max 0 x / d' ↔ d = d' ∨ x ≤ 0 := by
  rw [max_zero_div hd]
  rcases le_or_gt x 0 with hx | hx
  · rw [max_eq_left hx, zero_div, zero_div]
    exact iff_of_true rfl (Or.inr hx)
  · rw [max_eq_right hx.le, div_eq_mul_inv, div_eq_mul_inv, mul_right_inj' hx.ne', inv_inj,
      or_iff_left (not_le.2 hx)]

/-- What a sample does to the tile: nothing without counters; else it is kept, and a speed is
appended if time has passed since the one before. -/
theorem addSample_cases (now : ℚ)
    (hsampled : ∀ p, t.tile.prev = some p → ∃ a, t.sampled = some a)
    (hhead : t.tile.stats = t.arrived.head?.map Snapshot.stats) :
    (t.tile.counters = none ∧ t.addSample now = t) ∨
    (∃ c, t.tile.counters = some c ∧ (∀ p, t.tile.prev = some p → now ≤ p.t) ∧
      t.addSample now =
        { t with
          tile := { t.tile with prev := some ⟨now, c.1, c.2⟩ }
          sampled := t.arrived.head? }) ∨
    ∃ c p a b, t.tile.counters = some c ∧ t.tile.prev = some p ∧ t.sampled = some a ∧
      t.arrived.head? = some b ∧ p.t < now ∧
      t.addSample now =
        { t with
          tile :=
            { t.tile with
              prev := some ⟨now, c.1, c.2⟩
              rx := extend t.tile.rx (max 0 (((c.1 : ℚ) - p.rx) / ((now - p.t) / 1000)))
              tx := extend t.tile.tx (max 0 (((c.2 : ℚ) - p.tx) / ((now - p.t) / 1000))) }
          sampled := t.arrived.head?
          points := extend t.points (a, b) } := by
  cases hc : t.tile.counters with
  | none =>
    have happends : t.appends now = false := by rw [appends, hc]; rfl
    have htile : t.tile.addSample now = t.tile := by rw [NetworkSpeedTile.addSample, hc]
    refine Or.inl ⟨rfl, ?_⟩
    simp only [addSample, happends, htile, hc, Option.isSome_none, Bool.false_eq_true, if_false]
  | some c =>
    have hb : ∃ b, t.arrived.head? = some b := by
      cases hhead' : t.arrived.head? with
      | none => simp [NetworkSpeedTile.counters, hhead, hhead'] at hc
      | some b => exact ⟨b, rfl⟩
    obtain ⟨b, hb⟩ := hb
    cases hp : t.tile.prev with
    | none =>
      have happends : t.appends now = false := by rw [appends, hc, hp]; rfl
      have htile : t.tile.addSample now = { t.tile with prev := some ⟨now, c.1, c.2⟩ } := by
        rw [NetworkSpeedTile.addSample, hc, hp]
      refine Or.inr (Or.inl ⟨c, rfl, fun p h ↦ (by cases h), ?_⟩)
      simp only [addSample, happends, htile, hc, Option.isSome_some, Bool.false_eq_true, if_true,
        if_false]
    | some p =>
      obtain ⟨a, ha⟩ := hsampled p hp
      have hdt : 0 < (now - p.t) / 1000 ↔ p.t < now := by
        rw [div_pos_iff_of_pos_right (by norm_num), sub_pos]
      by_cases hlt : p.t < now
      · have happends : t.appends now = true := by simp [appends, hc, hp, hlt]
        have hpos := not_le.2 (hdt.2 hlt)
        refine Or.inr (Or.inr ⟨c, p, a, b, rfl, rfl, ha, hb, hlt, ?_⟩)
        simp only [addSample, happends, NetworkSpeedTile.addSample, hc, hp, ha, hb, if_neg hpos,
          if_true, Option.isSome_some]
      · have happends : t.appends now = false := by simp [appends, hc, hp, hlt]
        have hneg := not_lt.1 (mt hdt.1 hlt)
        refine Or.inr (Or.inl ⟨c, rfl, ?_, ?_⟩)
        · intro p' hp'
          cases hp'
          exact not_lt.1 hlt
        · simp only [addSample, happends, NetworkSpeedTile.addSample, hc, hp, if_pos hneg,
            Option.isSome_some, if_true, Bool.false_eq_true, if_false]

/-- What holds in every state: the tile has the last snapshot, and the sample is the one of a
snapshot that arrived, of the interface that is chosen. -/
structure Keeps (t : SpeedTrack) : Prop where
  stats : t.tile.stats = t.arrived.head?.map Snapshot.stats
  sampled : ∀ p, t.tile.prev = some p → ∃ a ∈ t.arrived, t.sampled = some a ∧
    countersIn t.tile.selected a.stats = some (p.rx, p.tx)
  ordered : t.Ordered

theorem keeps_fresh : Keeps fresh := by
  refine ⟨rfl, ?_, ⟨?_, Nat.zero_le _⟩⟩
  · intro p hp
    cases hp
  · intro x hx
    cases hx

theorem Keeps.exists_sampled (h : Keeps t) {p : Sample} (hp : t.tile.prev = some p) :
    ∃ a, t.sampled = some a :=
  let ⟨a, _, ha, _⟩ := h.sampled p hp
  ⟨a, ha⟩

theorem Keeps.choose (h : Keeps t) (name : String) : Keeps (t.choose name) := by
  refine ⟨h.stats, ?_, ⟨?_, Nat.zero_le _⟩⟩
  · intro p hp
    cases hp
  · intro x hx
    cases hx

theorem Keeps.receive (h : Keeps t) (now : ℚ) (data : List InterfaceStat) :
    Keeps (t.receive now data) := by
  refine ⟨rfl, ?_, ⟨?_, h.ordered.length_le⟩⟩
  · intro p hp
    obtain ⟨a, hmem, ha, hcounters⟩ := h.sampled p hp
    exact ⟨a, List.mem_cons_of_mem _ hmem, ha, hcounters⟩
  · intro x hx
    obtain ⟨hfirst, hsecond, hlt⟩ := h.ordered.arrived x hx
    exact ⟨List.mem_cons_of_mem _ hfirst, List.mem_cons_of_mem _ hsecond, hlt⟩

/-- Counters are those of the last snapshot. -/
theorem Keeps.counters_eq (h : Keeps t) {b : Snapshot} (hb : t.arrived.head? = some b) :
    t.tile.counters = countersIn t.tile.selected b.stats := by
  rw [NetworkSpeedTile.counters, h.stats, hb]
  rfl

theorem Keeps.addSample (h : Keeps t)
    (hlt : ∀ p a b, t.tile.prev = some p → t.sampled = some a → t.arrived.head? = some b →
      a.time < b.time) : Keeps (t.addSample now) := by
  have hsampled (c : ℕ × ℕ) (hc : t.tile.counters = some c) :
      ∃ a ∈ t.arrived, t.arrived.head? = some a ∧ countersIn t.tile.selected a.stats = some c := by
    cases hb : t.arrived.head? with
    | none => simp [NetworkSpeedTile.counters, h.stats, hb] at hc
    | some b => exact ⟨b, List.mem_of_mem_head? hb, rfl, h.counters_eq hb ▸ hc⟩
  rcases addSample_cases now (fun p hp ↦ h.exists_sampled hp) h.stats with
    ⟨-, heq⟩ | ⟨c, hc, -, heq⟩ | ⟨c, p, a, b, hc, hp, ha, hb, -, heq⟩
  · rw [heq]
    exact h
  · rw [heq]
    refine ⟨h.stats, ?_, ⟨h.ordered.arrived, h.ordered.length_le⟩⟩
    rintro p ⟨⟩
    exact hsampled c hc
  · rw [heq]
    refine ⟨h.stats, ?_, ⟨?_, length_extend_le _ _⟩⟩
    · rintro p ⟨⟩
      exact hsampled c hc
    · intro x hx
      rcases mem_extend hx with hx | rfl
      · exact h.ordered.arrived x hx
      · obtain ⟨a', hmem, ha', -⟩ := h.sampled p hp
        obtain rfl : a = a' := Option.some.inj (ha.symm.trans ha')
        exact ⟨hmem, List.mem_of_mem_head? hb, hlt p a b hp ha hb⟩

/-- The first sample after a choice. -/
theorem keeps_choose_addSample (t : SpeedTrack) (name : String) (h : Keeps t) :
    Keeps ((t.choose name).addSample now) := by
  refine (h.choose name).addSample fun p _ _ hp ↦ ?_
  cases hp

/-- The speeds before a sample and after it: they stay as they are, and the one that is appended is
what the counters have grown since the last sample, in the time gone since. -/
theorem series_addSample_iff (h : Keeps t) (hseries : t.Series interval) :
    (t.addSample now).Series interval ↔
      ∀ p a b c, t.tile.prev = some p → t.sampled = some a → t.arrived.head? = some b →
        t.tile.counters = some c → p.t < now →
        (∃ dt, interval (a, b) dt ∧
          max 0 (((c.1 : ℚ) - p.rx) / ((now - p.t) / 1000)) = max 0 ((c.1 : ℚ) - p.rx) / dt) ∧
        ∃ dt, interval (a, b) dt ∧
          max 0 (((c.2 : ℚ) - p.tx) / ((now - p.t) / 1000)) = max 0 ((c.2 : ℚ) - p.tx) / dt := by
  rcases addSample_cases now (fun p hp ↦ h.exists_sampled hp) h.stats with
    ⟨hnone, heq⟩ | ⟨c, hc, hge, heq⟩ | ⟨c, p, a, b, hc, hp, ha, hb, hlt, heq⟩
  · rw [heq]
    refine iff_of_true hseries fun p a b c _ _ _ hc ↦ ?_
    cases hnone.symm.trans hc
  · rw [heq]
    refine iff_of_true ⟨hseries.rx, hseries.tx⟩ fun p a b c hp _ _ _ hlt ↦ ?_
    exact absurd (hge p hp) (not_le.2 hlt)
  · obtain ⟨a', -, ha', hcounters⟩ := h.sampled p hp
    obtain rfl : a = a' := Option.some.inj (ha.symm.trans ha')
    have hc' : countersIn t.tile.selected b.stats = some c := h.counters_eq hb ▸ hc
    have hspeed (counter : ℕ × ℕ → ℕ) (dt v : ℚ) :
        IsSpeed t.tile.selected counter (a, b) dt v ↔
          v = max 0 ((counter c : ℚ) - counter (p.rx, p.tx)) / dt := by
      simp only [IsSpeed, hcounters, hc', Option.some.injEq, exists_and_left, exists_eq_left']
    rw [heq]
    constructor
    · intro h' p' a' b' c' hp' ha' hb' hc' _
      obtain rfl : p = p' := Option.some.inj (hp.symm.trans hp')
      obtain rfl : a = a' := Option.some.inj (ha.symm.trans ha')
      obtain rfl : b = b' := Option.some.inj (hb.symm.trans hb')
      obtain rfl : c = c' := Option.some.inj (hc.symm.trans hc')
      have hrx := (forall₂_extend hseries.rx).1 h'.rx
      have htx := (forall₂_extend hseries.tx).1 h'.tx
      simp only [hspeed] at hrx htx
      exact ⟨hrx, htx⟩
    · intro h'
      obtain ⟨hrx, htx⟩ := h' p a b c hp ha hb hc hlt
      refine ⟨(forall₂_extend hseries.rx).2 ?_, (forall₂_extend hseries.tx).2 ?_⟩
      · simpa only [hspeed] using hrx
      · simpa only [hspeed] using htx

theorem series_choose (name : String) : (t.choose name).Series interval :=
  ⟨List.Forall₂.nil, List.Forall₂.nil⟩

/-- **A choice keeps the series**: there are none after it. -/
theorem series_choose_addSample (t : SpeedTrack) (name : String)
    (h : Keeps t ∧ t.Series interval) :
    Keeps ((t.choose name).addSample now) ∧ ((t.choose name).addSample now).Series interval := by
  refine ⟨keeps_choose_addSample t name h.1, ?_⟩
  refine (series_addSample_iff (h.1.choose name) (series_choose name)).2 ?_
  intro p _ _ _ hp
  cases hp

theorem Series.receive (hseries : t.Series interval) (now : ℚ) (data : List InterfaceStat) :
    (t.receive now data).Series interval :=
  ⟨hseries.rx, hseries.tx⟩

/-- Where counters are read, nothing is chosen by the first effect. -/
theorem settle_of_counters {c : ℕ × ℕ} {stats : List InterfaceStat}
    (hc : countersIn t.tile.selected stats = some c) : t.settle now = t := by
  have hchosen : (t.tile.selected.filter fun n ↦ n != "").isSome := by
    cases hname : t.tile.selected.filter fun n ↦ n != "" with
    | none => simp [countersIn, hname] at hc
    | some name => rfl
  rw [SpeedTrack.settle, NetworkSpeedTile.defaultName, if_pos hchosen]

/-! ### Steps -/

/-- The snapshots that have arrived, and those to come, arrive one after the other. -/
def Clock (t : SpeedTrack) (events : List TileEvent) : Prop :=
  ((t.arrived.reverse.map Snapshot.time) ++ arrivals events).Pairwise (· < ·)

theorem choose_addSample_arrived {l : List Snapshot} (t : SpeedTrack) (name : String)
    (h : t.arrived = l) : ((t.choose name).addSample now).arrived = l := h

variable {e : TileEvent} {events : List TileEvent}

theorem Clock.step (h : Clock t (e :: events)) : Clock (t.step e) events := by
  cases e with
  | snapshot now data =>
    have harrived : (t.step (.snapshot now data)).arrived = ⟨now, data⟩ :: t.arrived :=
      settle_induction choose_addSample_arrived rfl
    rw [Clock, harrived]
    simpa [Clock, arrivals] using h
  | select now name =>
    have harrived : (t.step (.select now name)).arrived = t.arrived :=
      select_induction choose_addSample_arrived rfl name
    rw [Clock, harrived]
    exact h

theorem Clock.time_lt {now : ℚ} {data : List InterfaceStat}
    (h : Clock t (.snapshot now data :: events)) : ∀ a ∈ t.arrived, a.time < now := by
  intro a ha
  refine (List.pairwise_append.1 h).2.2 a.time ?_ now List.mem_cons_self
  exact List.mem_map_of_mem (List.mem_reverse.2 ha)

theorem Keeps.received (h : Keeps t) {data : List InterfaceStat}
    (hclock : Clock t (.snapshot now data :: events)) :
    Keeps ((t.receive now data).addSample now) := by
  refine (h.receive now data).addSample ?_
  rintro p a b hp ha ⟨⟩
  obtain ⟨a', hmem, ha', -⟩ := h.sampled p hp
  obtain rfl : a = a' := Option.some.inj (ha.symm.trans ha')
  exact hclock.time_lt a hmem

/-- **A step keeps** the invariant. -/
theorem Keeps.step (h : Keeps t) (hclock : Clock t (e :: events)) : Keeps (t.step e) := by
  cases e with
  | snapshot now data => exact settle_induction keeps_choose_addSample (h.received hclock)
  | select now name => exact select_induction keeps_choose_addSample h name

/-- The speed that a snapshot appends is right, or it is none. -/
def Appended (t : SpeedTrack) (interval : Snapshot × Snapshot → ℚ → Prop) : TileEvent → Prop
  | .snapshot now data => ((t.receive now data).addSample now).Series interval
  | .select _ _ => True

/-- **A step keeps the series** just if the speed it appends is as they are. -/
theorem series_step_iff (h : Keeps t) (hclock : Clock t (e :: events))
    (hseries : t.Series interval) :
    (t.step e).Series interval ↔ t.Appended interval e := by
  cases e with
  | snapshot now data =>
    constructor
    · intro hstep
      cases hc : countersIn t.tile.selected data with
      | none =>
        refine (series_addSample_iff (h.receive now data) (hseries.receive now data)).2 ?_
        intro p a b c hp ha hb hc'
        cases hc.symm.trans hc'
      | some c =>
        have hsettle : (((t.receive now data).addSample now).settle now) =
            (t.receive now data).addSample now := by
          have hcounters : countersIn ((t.receive now data).addSample now).tile.selected data =
              some c := by
            rw [addSample_tile, NetworkSpeedTile.addSample_selected]
            exact hc
          exact settle_of_counters hcounters
        rw [SpeedTrack.step, hsettle] at hstep
        exact hstep
    · intro happended
      exact (settle_induction series_choose_addSample ⟨h.received hclock, happended⟩).2
  | select now name =>
    exact iff_of_true (select_induction series_choose_addSample ⟨h, hseries⟩ name).2 trivial

/-- A speed is what the counters have grown in some time. -/
theorem appended_pos (h : Keeps t) (hseries : t.Series fun _ dt ↦ 0 < dt) :
    t.Appended (fun _ dt ↦ 0 < dt) e := by
  cases e with
  | snapshot now data =>
    refine (series_addSample_iff (h.receive now data) (hseries.receive now data)).2 ?_
    intro p a b c hp ha hb hc hlt
    have hdt : 0 < (now - p.t) / 1000 := div_pos (sub_pos.2 hlt) (by norm_num)
    exact ⟨⟨_, hdt, max_zero_div hdt⟩, ⟨_, hdt, max_zero_div hdt⟩⟩
  | select now name => trivial

/-- It is **the right one** just if the last sample is timely. -/
theorem appended_arrivalInterval_iff (h : Keeps t) (hseries : t.Series arrivalInterval) :
    t.Appended arrivalInterval e ↔ t.Timely e := by
  cases e with
  | snapshot now data =>
    have hiff {p : Sample} (a : Snapshot) (hlt : p.t < now) (r q : ℕ) :
        (∃ dt, arrivalInterval (a, ⟨now, data⟩) dt ∧
          max 0 (((r : ℚ) - q) / ((now - p.t) / 1000)) = max 0 ((r : ℚ) - q) / dt) ↔
            p.t = a.time ∨ r ≤ q := by
      have hdt : 0 < (now - p.t) / 1000 := div_pos (sub_pos.2 hlt) (by norm_num)
      simp only [arrivalInterval, exists_eq_left]
      rw [max_zero_div_eq_iff hdt, div_left_inj' (by norm_num), sub_right_inj, sub_nonpos,
        Nat.cast_le]
    rw [Appended, series_addSample_iff (h.receive now data) (hseries.receive now data)]
    constructor
    · intro hspeeds p a c hp ha hc hlt
      obtain ⟨hrx, htx⟩ := hspeeds p a ⟨now, data⟩ c hp ha rfl hc hlt
      exact or_and_left.2 ⟨(hiff a hlt _ _).1 hrx, (hiff a hlt _ _).1 htx⟩
    · rintro htimely p a b c hp ha ⟨⟩ hc hlt
      obtain ⟨hrx, htx⟩ := or_and_left.1 (htimely p a c hp ha hc hlt)
      exact ⟨(hiff a hlt _ _).2 hrx, (hiff a hlt _ _).2 htx⟩
  | select now name => exact Iff.rfl

/-! ### Runs -/

theorem Keeps.run (h : Keeps t) (hclock : Clock t events) {es : List TileEvent}
    (hes : es <+: events) :
    Keeps (t.run es) := by
  induction es generalizing t events with
  | nil => exact h
  | cons e es ih =>
    obtain ⟨rest, rfl⟩ := hes
    exact ih (h.step hclock) hclock.step (List.prefix_append es rest)

/-- Whatever the intervals: the speeds of a run are those of two snapshots. -/
theorem series_run_pos (h : Keeps t) (hclock : Clock t events) {es : List TileEvent}
    (hes : es <+: events)
    (hseries : t.Series fun _ dt ↦ 0 < dt) : (t.run es).Series fun _ dt ↦ 0 < dt := by
  induction es generalizing t events with
  | nil => exact hseries
  | cons e es ih =>
    obtain ⟨rest, rfl⟩ := hes
    refine ih (h.step hclock) hclock.step (List.prefix_append es rest) ?_
    exact (series_step_iff h hclock hseries).2 (appended_pos h hseries)

/-- The intervals are the right ones, over a run, just if the samples are timely. -/
theorem series_run_iff (h : Keeps t) (hclock : Clock t events)
    (hseries : t.Series arrivalInterval) :
    (∀ es, es <+: events → (t.run es).Series arrivalInterval) ↔ t.Punctual events := by
  induction events generalizing t with
  | nil =>
    refine iff_of_true (fun es hes ↦ ?_) trivial
    rw [List.prefix_nil.1 hes]
    exact hseries
  | cons e events ih =>
    have hstep := (series_step_iff h hclock hseries).trans
      (appended_arrivalInterval_iff h hseries)
    constructor
    · intro hruns
      have hnext := hruns [e] (List.prefix_append [e] events)
      refine ⟨hstep.1 hnext, (ih (h.step hclock) hclock.step hnext).1 fun es hes ↦ ?_⟩
      exact hruns (e :: es) ((List.prefix_cons_inj e).2 hes)
    · rintro ⟨htimely, hpunctual⟩ es hes
      cases es with
      | nil => exact hseries
      | cons e' es =>
        obtain ⟨rfl, hrest⟩ := List.cons_prefix_cons.1 hes
        have hnext := hstep.2 htimely
        exact (ih (h.step hclock) hclock.step hnext).2 hpunctual es hrest

theorem series_fresh : fresh.Series interval := ⟨List.Forall₂.nil, List.Forall₂.nil⟩

end Series

end SpeedTrack

open SpeedTrack in
/-- **Every speed is the growth of a counter in the time between two snapshots**, over a run, just
if each sample a speed starts from was taken when its snapshot arrived, or nothing has grown. In any
run, a speed comes from one interface, and the two series are of equal length, of no more than 61.
-/
theorem speeds_right_iff (events : List NetworkSpeedTile.TileEvent)
    (hclock : (arrivals events).Pairwise (· < ·)) :
    ((∀ es, es <+: events → (fresh.run es).Series arrivalInterval) ↔ fresh.Punctual events) ∧
      ∀ es, es <+: events →
        ((fresh.run es).Series fun _ dt ↦ 0 < dt) ∧ (fresh.run es).Ordered ∧
          (fresh.run es).tile = NetworkSpeedTile.fresh.run es ∧
          (NetworkSpeedTile.fresh.run es).rx.length = (NetworkSpeedTile.fresh.run es).tx.length ∧
          (NetworkSpeedTile.fresh.run es).rx.length ≤ 61 := by
  refine ⟨series_run_iff keeps_fresh hclock series_fresh, fun es hes ↦ ?_⟩
  have hseries := series_run_pos keeps_fresh hclock hes series_fresh
  have hordered := (keeps_fresh.run hclock hes).ordered
  have htile := fresh.run_tile es
  have hrx := hseries.rx.length_eq
  have htx := hseries.tx.length_eq
  rw [htile] at hrx htx
  exact ⟨hseries, hordered, htile, hrx.symm.trans htx, hrx ▸ hordered.length_le⟩

/-- What an interface has received, and what another one has. -/
def twoInterfaces (m n : ℕ) : List InterfaceStat :=
  [⟨"eth0", some m, some 0, some 0, some 0⟩, ⟨"eth1", some n, some 0, some 0, some 0⟩]

open SpeedTrack in
/-- The first interface, two seconds apart. -/
theorem speeds_right_twoSnapshots :
    (fresh.run [.snapshot 0 (twoInterfaces 0 0), .snapshot 2000 (twoInterfaces 4000 0)]).Series
      arrivalInterval := by
  have hpunctual : fresh.Punctual
      [.snapshot 0 (twoInterfaces 0 0), .snapshot 2000 (twoInterfaces 4000 0)] := by
    refine ⟨?_, ?_, trivial⟩
    · intro p a c hp
      cases hp
    · intro p a c hp ha _ _
      have hprev : (fresh.step (.snapshot 0 (twoInterfaces 0 0))).tile.prev = some ⟨0, 0, 0⟩ := by
        decide
      have hsampled : (fresh.step (.snapshot 0 (twoInterfaces 0 0))).sampled =
          some ⟨0, twoInterfaces 0 0⟩ := by decide
      obtain rfl := Option.some.inj (hprev.symm.trans hp)
      obtain rfl := Option.some.inj (hsampled.symm.trans ha)
      exact Or.inl rfl
  exact (speeds_right_iff _ (by decide)).1.2 hpunctual _ (List.prefix_refl _)

open SpeedTrack in
/-- The other interface is chosen a second after a snapshot, and another second before the next. It
has received 4000 bytes in two seconds, and the tile shows 4000 bytes a second. -/
theorem not_speeds_right :
    ¬∀ events : List NetworkSpeedTile.TileEvent, (arrivals events).Pairwise (· < ·) →
      ∀ v ∈ (NetworkSpeedTile.fresh.run events).rx, ∃ a ∈ (fresh.run events).arrived,
        ∃ b ∈ (fresh.run events).arrived, a.time < b.time ∧
          IsSpeed (fresh.run events).tile.selected Prod.fst (a, b)
            ((b.time - a.time) / 1000) v := by
  intro h
  obtain ⟨a, ha, b, hb, hlt, c, d, hc, hd, hv⟩ := h
    [.snapshot 0 (twoInterfaces 0 0), .select 1000 "eth1", .snapshot 2000 (twoInterfaces 0 4000)]
    (by decide) 4000 (by decide +kernel)
  have harrived : (fresh.run [.snapshot 0 (twoInterfaces 0 0), .select 1000 "eth1",
      .snapshot 2000 (twoInterfaces 0 4000)]).arrived =
        [⟨2000, twoInterfaces 0 4000⟩, ⟨0, twoInterfaces 0 0⟩] := by decide +kernel
  have hselected : (fresh.run [.snapshot 0 (twoInterfaces 0 0), .select 1000 "eth1",
      .snapshot 2000 (twoInterfaces 0 4000)]).tile.selected = some "eth1" := by decide +kernel
  rw [harrived, List.mem_cons, List.mem_singleton] at ha hb
  rw [hselected] at hc hd
  rcases ha with rfl | rfl <;> rcases hb with rfl | rfl
  · exact absurd hlt (by decide)
  · exact absurd hlt (by decide)
  · -- the only two snapshots of which one is before the other
    obtain rfl : (0, 0) = c := Option.some.inj hc
    obtain rfl : (4000, 0) = d := Option.some.inj hd
    exact absurd hv (by norm_num)
  · exact absurd hlt (by decide)

end VyosFabric
