import Captioning.Proofs.Segment.Clipping
import Mathlib.Order.Interval.Set.Basic
import Mathlib.Order.Lattice.Nat
import Mathlib.Order.WithBot

/-!
# Clipping is intersection

An interval and a segment are read as sets of instants: the times from the start on that lie before
the stop, or the one time at which an interval without length stands.  Clipping answers whether the
two sets meet, and what it leaves of the interval holds just the instants that they share.

The boundary tests come down to one instant.  If the two sets meet at all, they share the later of
the two starts (`max_mem_of_intersects`), and clipping refuses an interval exactly when they do not
share that instant (`clip_eq_ite`).
-/

namespace Captioning.Segment

/-- The end of an interval.  An unknown stop lies past all times. -/
def horizon : Option ClockTime → WithTop ClockTime
  | none => ⊤
  | some stop => WithTop.some stop

/-- The instants from `start` on that lie before `stop`.  An interval without length is the single
instant at which it stands. -/
def instants (start : ClockTime) : Option ClockTime → Set ClockTime
  | none => Set.Ici start
  | some stop => if start = stop then {start} else Set.Ico start stop

/-- An interval and a segment have an instant in common. -/
def Intersects (s : Segment) (start : ClockTime) (stop : Option ClockTime) : Prop :=
  (instants start stop ∩ instants s.start s.stop).Nonempty

section Instants

variable {start t : ClockTime} {stop : Option ClockTime}

theorem mem_instants : t ∈ instants start stop ↔
    start ≤ t ∧ ∀ last, stop = some last → t < last ∨ (t = start ∧ start = last) := by
  cases stop with
  | none => simp [instants]
  | some last =>
      by_cases hpoint : start = last
      · simp only [instants, hpoint, if_true, Set.mem_singleton_iff, Option.some.injEq]
        constructor
        · intro ht
          refine ⟨Nat.le_of_eq ht.symm, ?_⟩
          intro last' hlast'
          exact .inr ⟨ht, hlast'⟩
        · intro ht
          rcases ht.2 last rfl with hlt | heq
          · lia
          · exact heq.1
      · simp only [instants, hpoint, if_false, Set.mem_Ico, Option.some.injEq, forall_eq',
          and_false, or_false]

/-- What begins in an interval does not begin after its end. -/
theorem coe_le_horizon_of_mem (h : t ∈ instants start stop) :
    WithTop.some t ≤ horizon stop := by
  cases stop with
  | none => exact le_top
  | some last =>
      refine WithTop.coe_le_coe.mpr ?_
      rcases (mem_instants.mp h).2 last rfl with hlt | ⟨rfl, rfl⟩
      · exact Nat.le_of_lt hlt
      · exact Nat.le_refl _

theorem horizon_earlierStop (a b : Option ClockTime) :
    horizon (earlierStop a b) = min (horizon a) (horizon b) := by
  cases a with
  | none => exact (min_eq_right le_top).symm
  | some a =>
      cases b with
      | none => exact (min_eq_left le_top).symm
      | some b => exact WithTop.coe_min a b

end Instants

variable {s : Segment} {start : ClockTime} {stop : Option ClockTime}

/-! ## The later start -/

/-- Two intervals that have an instant in common share the later of their starts. -/
theorem max_mem_of_intersects (h : s.Intersects start stop) :
    max start s.start ∈ instants start stop ∩ instants s.start s.stop := by
  obtain ⟨t, ht, hs⟩ := h
  rw [mem_instants] at ht hs
  constructor
  · refine mem_instants.mpr ⟨Nat.le_max_left _ _, ?_⟩
    intro last hlast
    have hbefore := ht.2 last hlast
    lia
  · refine mem_instants.mpr ⟨Nat.le_max_right _ _, ?_⟩
    intro last hlast
    have hbefore := hs.2 last hlast
    lia

theorem intersects_iff : s.Intersects start stop ↔
    max start s.start ∈ instants start stop ∧ max start s.start ∈ instants s.start s.stop := by
  constructor
  · exact max_mem_of_intersects
  · intro h
    exact ⟨_, h⟩

/-- If two intervals meet, the instants that they share are those between the later start and the
earlier stop. -/
theorem instants_inter (h : s.Intersects start stop) :
    instants (max start s.start) (earlierStop stop s.stop) =
      instants start stop ∩ instants s.start s.stop := by
  obtain ⟨hstart, hsegment⟩ := max_mem_of_intersects h
  rw [mem_instants] at hstart hsegment
  ext t
  rw [Set.mem_inter_iff, mem_instants, mem_instants, mem_instants]
  cases stop with
  | none =>
      cases hstop : s.stop with
      | none => simp [earlierStop]
      | some last =>
          have hlast := hsegment.2 last hstop
          simp only [earlierStop, Option.some.injEq, forall_eq', reduceCtorEq, false_implies,
            implies_true, and_true]
          lia
  | some stop =>
      have hend := hstart.2 stop rfl
      cases hstop : s.stop with
      | none =>
          simp only [earlierStop, Option.some.injEq, forall_eq', reduceCtorEq, false_implies,
            implies_true, and_true]
          lia
      | some last =>
          have hlast := hsegment.2 last hstop
          simp only [earlierStop, Option.some.injEq, forall_eq']
          lia

/-! ## Clipping -/

theorem endsBefore_iff : s.endsBefore start = true ↔
    ∃ last, s.stop = some last ∧ (last < start ∨ (s.start ≠ last ∧ start = last)) := by
  cases hstop : s.stop <;> simp [endsBefore, hstop]

theorem startsAfter_iff {last : ClockTime} : s.startsAfter (some start) last = true ↔
    last < s.start ∨ (start ≠ last ∧ last = s.start) := by
  simp [startsAfter]

theorem clip_of_not_isTime (h : s.isTime = false) (first last : Option ClockTime) :
    s.clip first last = none := by
  simp [clip, h]

open Classical in
/-- The boundary tests of clipping refuse an interval exactly when it has no instant in common with
the segment. -/
theorem clip_eq_ite (htime : s.isTime = true) (hordered : s.IsOrdered)
    (hinterval : ∀ last, stop = some last → start ≤ last) :
    s.clip (some start) stop =
      if s.Intersects start stop then
        some (some (max start s.start), earlierStop stop s.stop)
      else none := by
  have houtside : (s.endsBefore start = true ∨ stop.any (s.startsAfter (some start)) = true) ↔
      ¬s.Intersects start stop := by
    rw [intersects_iff, mem_instants, mem_instants, endsBefore_iff, Option.any_eq_true]
    simp only [startsAfter_iff]
    cases stop with
    | none =>
        cases hstop : s.stop with
        | none => simp
        | some bound =>
            have hbound := hordered bound hstop
            simp only [Option.some.injEq, exists_eq_left', forall_eq', reduceCtorEq, false_and,
              exists_const, or_false, false_implies, implies_true, and_true]
            lia
    | some last =>
        have hlast := hinterval last rfl
        cases hstop : s.stop with
        | none =>
            simp only [Option.some.injEq, exists_eq_left', forall_eq', reduceCtorEq, false_and,
              exists_const, false_or, false_implies, implies_true, and_true]
            lia
        | some bound =>
            have hbound := hordered bound hstop
            simp only [Option.some.injEq, exists_eq_left', forall_eq']
            lia
  unfold clip
  by_cases hshared : s.Intersects start stop
  · have hinside := mt houtside.mp (not_not_intro hshared)
    rw [not_or, Bool.not_eq_true, Bool.not_eq_true] at hinside
    simp [htime, hinside.1, hinside.2, hshared]
  · rcases houtside.mpr hshared with hafter | hbefore
    · simp [hafter, hshared]
    · simp [hbefore, hshared]

/-- What is left by clipping is not clipped any more. -/
theorem clip_clip (htime : s.isTime = true) (hordered : s.IsOrdered) (h : s.Intersects start stop) :
    s.clip (some (max start s.start)) (earlierStop stop s.stop) =
      some (some (max start s.start), earlierStop stop s.stop) := by
  have hmem := max_mem_of_intersects h
  have hrest : max start s.start ∈ instants (max start s.start) (earlierStop stop s.stop) := by
    rw [instants_inter h]
    exact hmem
  have hshared : s.Intersects (max start s.start) (earlierStop stop s.stop) := ⟨_, hrest, hmem.2⟩
  have hinterval : ∀ last, earlierStop stop s.stop = some last → max start s.start ≤ last := by
    intro last hlast
    have hle := coe_le_horizon_of_mem hrest
    rw [hlast] at hle
    exact WithTop.coe_le_coe.mp hle
  have hstop : earlierStop (earlierStop stop s.stop) s.stop = earlierStop stop s.stop := by
    cases stop <;> cases s.stop <;> simp [earlierStop]
  rw [clip_eq_ite htime hordered hinterval, if_pos hshared, hstop,
    Nat.max_eq_left (Nat.le_max_right _ _)]

/-- The part of an interval that lies in a segment. -/
structure IsIntersection (s : Segment) (start : ClockTime) (stop : Option ClockTime)
    (ends : Option ClockTime × Option ClockTime) : Prop where
  first : ends.1 = some (max start s.start)
  last : horizon ends.2 = min (horizon stop) (horizon s.stop)
  ordered : WithTop.some (max start s.start) ≤ horizon ends.2
  /-- It holds the instants that the interval and the segment have in common. -/
  instants_eq : instants (max start s.start) ends.2 = instants start stop ∩ instants s.start s.stop
  /-- It has no length only if one of the two has none. -/
  single : ends.2 = ends.1 → stop = some start ∨ s.stop = some s.start
  again : s.clip ends.1 ends.2 = some ends

theorem isIntersection_of_intersects (htime : s.isTime = true) (hordered : s.IsOrdered)
    (h : s.Intersects start stop) :
    s.IsIntersection start stop (some (max start s.start), earlierStop stop s.stop) where
  first := rfl
  last := horizon_earlierStop stop s.stop
  ordered := by
    apply coe_le_horizon_of_mem
    rw [instants_inter h]
    exact max_mem_of_intersects h
  instants_eq := instants_inter h
  single hlength := by
    obtain ⟨hstart, hsegment⟩ := max_mem_of_intersects h
    rw [mem_instants] at hstart hsegment
    -- the earlier stop is at the later start, where one of the two would already be over
    cases stop with
    | none =>
        have hlast := hsegment.2 _ hlength
        exact .inr (hlength.trans (by rw [Option.some.injEq]; lia))
    | some stop =>
        have hend := hstart.2 stop rfl
        cases hstop : s.stop with
        | none =>
            rw [hstop] at hlength
            have hsame : stop = max start s.start := Option.some.inj hlength
            exact .inl (by rw [Option.some.injEq]; lia)
        | some last =>
            rw [hstop] at hlength
            have hsame : min stop last = max start s.start := Option.some.inj hlength
            have hlast := hsegment.2 last hstop
            simp only [Option.some.injEq]
            lia
  again := clip_clip htime hordered h

/-- **Clipping is intersection.**  An interval that is clipped to a segment leaves something exactly
if the two have an instant in common, and what it leaves is the part that lies in the segment.
Without clock times for bounds nothing is left of any interval. -/
theorem clip_is_intersection (s : Segment) :
    (s.isTime = false → ∀ first last, s.clip first last = none) ∧
    (s.isTime = true → s.IsOrdered →
      ∀ start stop, (∀ last, stop = some last → start ≤ last) →
        ((s.clip (some start) stop).isSome = true ↔
          (instants start stop ∩ instants s.start s.stop).Nonempty) ∧
        ∀ ends, s.clip (some start) stop = some ends → s.IsIntersection start stop ends) := by
  refine ⟨clip_of_not_isTime, ?_⟩
  intro htime hordered start stop hinterval
  rw [clip_eq_ite htime hordered hinterval]
  by_cases hshared : s.Intersects start stop
  · rw [if_pos hshared]
    constructor
    · exact iff_of_true rfl hshared
    · intro ends hends
      obtain rfl := Option.some.inj hends
      exact isIntersection_of_intersects htime hordered hshared
  · rw [if_neg hshared]
    constructor
    · exact iff_of_false Bool.false_ne_true hshared
    · intro ends hends
      cases hends

/-- The rest of an interval that goes on past the end of a segment. -/
theorem clip_is_intersection_past_end :
    let s := between 1000 (some 5000)
    s.isTime = true ∧ s.IsOrdered ∧ s.clip (some 4500) (some 6000) = some (some 4500, some 5000) ∧
      instants 4500 (some 5000) = instants 4500 (some 6000) ∩ instants 1000 (some 5000) := by
  intro s
  have hordered : s.IsOrdered := by
    intro stop hstop
    obtain rfl : 5000 = stop := Option.some.inj hstop
    decide
  have hinterval : ∀ last, some 6000 = some last → 4500 ≤ last := by
    intro last hlast
    obtain rfl := Option.some.inj hlast
    decide
  obtain ⟨-, hclipped⟩ := (clip_is_intersection s).2 rfl hordered 4500 (some 6000) hinterval
  exact ⟨rfl, hordered, rfl, (hclipped _ rfl).instants_eq⟩

end Captioning.Segment
