import Captioning.Segment.Basic

/-!
# What is clipped to a segment

A segment covers the times between its bounds.  If these are in order, whatever part of an
interval is left by clipping begins and ends at times that the segment covers.
-/

namespace Captioning.Segment

variable {s : Segment} {start : ClockTime}

/-- The bounds are in order. -/
def IsOrdered (s : Segment) : Prop :=
  ∀ stop, s.stop = some stop → s.start ≤ stop

theorem isOrdered_of_isUsable (h : s.isUsable = true) : s.IsOrdered := by
  intro stop hstop
  simp only [isUsable, isValid, Bool.and_eq_true, hstop, Option.all_some, decide_eq_true_eq] at h
  exact h.2.1.2

theorem covers_eq_true_iff {t : ClockTime} : s.covers t = true ↔
    s.isTime = true ∧ s.start ≤ t ∧ ∀ stop, s.stop = some stop → t ≤ stop := by
  cases hstop : s.stop <;> simp [covers, hstop, and_assoc]

theorem covers_of_clip {last : Option ClockTime}
    {ends : Option ClockTime × Option ClockTime} (hordered : s.IsOrdered)
    (h : s.clip (some start) last = some ends) :
    ends.1 = some (max start s.start) ∧ s.covers (max start s.start) = true ∧
      ∀ stop, ends.2 = some stop → s.covers (max (max start s.start) stop) = true := by
  unfold clip at h
  split at h
  · cases h
  next hinside =>
    obtain rfl := Option.some.inj h
    simp only [Bool.or_eq_true, Bool.not_eq_true', Option.any_some, not_or,
      Bool.not_eq_false] at hinside
    obtain ⟨⟨htime, hbefore⟩, -⟩ := hinside
    -- what begins in the segment begins before its end
    have hfirst : ∀ bound, s.stop = some bound → max start s.start ≤ bound := by
      intro bound hbound
      refine Nat.max_le.mpr ⟨?_, hordered bound hbound⟩
      rcases Nat.lt_or_ge bound start with hpast | hle
      · simp [endsBefore, hbound, hpast] at hbefore
      · exact hle
    refine ⟨rfl, covers_eq_true_iff.mpr ⟨htime, Nat.le_max_right _ _, hfirst⟩, ?_⟩
    intro stop hstop
    refine covers_eq_true_iff.mpr
      ⟨htime, Nat.le_trans (Nat.le_max_right _ _) (Nat.le_max_left _ _), ?_⟩
    intro bound hbound
    refine Nat.max_le.mpr ⟨hfirst bound hbound, ?_⟩
    rw [hbound] at hstop
    cases last with
    | none => exact Nat.le_of_eq (Option.some.inj hstop).symm
    | some last =>
        obtain rfl : min last bound = stop := Option.some.inj hstop
        exact Nat.min_le_right last bound

end Captioning.Segment
