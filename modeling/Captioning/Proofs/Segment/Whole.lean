import Captioning.Overlay.Pairing

/-!
# The whole stream

The position of a segment says how far a stream has come; what the segment holds, and the
running time of what it holds, do not depend on it.  In the segment of a new input, which holds
the whole stream, timestamps are their own running time and nothing is cut.
-/

namespace Captioning.Segment

variable (s : Segment) (position t : ClockTime)

/-! ## Positions -/

@[simp] theorem clip_moveTo (start stop : Option ClockTime) :
    (s.moveTo position).clip start stop = s.clip start stop := rfl

@[simp] theorem span?_moveTo {α : Type} (item : StreamItem α) :
    (s.moveTo position).span? item = s.span? item := rfl

theorem advance_moveTo (p q : ClockTime) : (s.moveTo p).advance q = s.moveTo (max p q) := rfl

theorem moveTo_moveTo (p q : ClockTime) : (s.moveTo p).moveTo q = s.moveTo q := rfl

/-! ## The segment of a new input -/

private theorem played_whole (offset : Nat) : whole.played offset = offset := by
  have hspeed : (whole.rate.abs == 1.0) = true := by decide +kernel
  simp only [played, hspeed, if_true]

private theorem offset?_whole : whole.offset? t = some t := by
  have hforward : whole.rate > 0.0 := by decide +kernel
  simp only [offset?, hforward, if_true]
  rfl

/-- In the whole stream a timestamp is its own running time, if it is a clock time. -/
theorem runningTime_whole : whole.runningTime t = ClockTime.ofNat? t := by
  have hcovers : whole.covers t = true := by simp [covers, whole, isTime]
  rw [runningTime, if_pos hcovers, offset?_whole, Option.bind_some, played_whole]
  rfl

theorem runningTime_whole_eq {t r : ClockTime} (h : whole.runningTime t = some r) : r = t := by
  rw [runningTime_whole] at h
  unfold ClockTime.ofNat? at h
  split at h
  · exact (Option.some.inj h).symm
  · cases h

/-- Nothing that ends after its beginning is cut by the whole stream. -/
theorem clip_whole {start : ClockTime} {stop : Option ClockTime} (h : ∀ t ∈ stop, start ≤ t) :
    whole.clip (some start) stop = some (some start, stop) := by
  have hends : whole.endsBefore start = false := rfl
  have hstarts : stop.any (whole.startsAfter (some start)) = false := by
    cases stop with
    | none => rfl
    | some stop =>
        have hle : start ≤ stop := h stop rfl
        simp only [Option.any_some, startsAfter, whole, Nat.not_lt_zero, decide_false,
          Bool.false_or, Bool.and_eq_false_iff, bne_eq_false_iff_eq, Option.some.injEq,
          decide_eq_false_iff_not]
        by_cases hzero : stop = 0
        · refine .inl (Nat.le_antisymm hle ?_)
          rw [hzero]
          exact Nat.zero_le start
        · exact .inr hzero
  have htime : whole.isTime = true := rfl
  simp only [clip, htime, Option.any_some, hends, hstarts, Bool.not_true, Bool.or_self,
    Bool.false_eq_true, if_false, Option.map_some]
  cases stop <;> simp [earlierStop, whole]

end Captioning.Segment
