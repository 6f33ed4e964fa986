import Captioning.Proofs.Segment.Whole

/-!
# Running time

What the running time of timestamps depends on.  At normal speed it is the distance from the
start of the segment plus the running time that has passed before, so it never goes back along
the stream.  In a valid segment it is known for whatever the segment covers, unless that sum is
past the last clock time.  And it is a matter of distances alone: a stream that is delayed as a
whole, together with its segment, is clipped in the same places and has the same running times.
-/

namespace Captioning.Segment

/-! ## Normal speed -/

section NormalSpeed

variable {s : Segment} {a b r t : ClockTime}

theorem runningTime_of_normal (hrate : s.rate = 1.0) (t : ClockTime) :
    s.runningTime t = if s.covers t then ClockTime.add? (t - s.start) s.base else none := by
  have hspeed : (s.rate.abs == 1.0) = true := by
    rw [hrate]
    decide +kernel
  have hforward : s.rate > 0.0 := by
    rw [hrate]
    decide +kernel
  simp only [runningTime, offset?, played, hspeed, hforward, if_true, Option.bind_some]

theorem runningTime_eq_some_iff (hrate : s.rate = 1.0) : s.runningTime t = some r ↔
    s.covers t = true ∧ t - s.start + s.base < ClockTime.limit ∧ r = t - s.start + s.base := by
  rw [runningTime_of_normal hrate]
  split
  next hcovers => simp [hcovers, ClockTime.add?_eq_some_iff]
  next hcovers => simp [hcovers]

/-- Running time never goes back along a stream. -/
theorem runningTime_mono (hrate : s.rate = 1.0) {ra rb : ClockTime} (hle : a ≤ b)
    (ha : s.runningTime a = some ra) (hb : s.runningTime b = some rb) : ra ≤ rb := by
  obtain ⟨-, -, rfl⟩ := (runningTime_eq_some_iff hrate).mp ha
  obtain ⟨-, -, rfl⟩ := (runningTime_eq_some_iff hrate).mp hb
  exact Nat.add_le_add_right (Nat.sub_le_sub_right hle _) _

/-- A position that is not before the start has a running time, unless it lies past the stop or
its running time would be past the last clock time. -/
theorem positionRunningTime_eq_none_iff (hrate : s.rate = 1.0) (htime : s.isTime = true)
    (hstart : s.start ≤ s.position) : s.positionRunningTime = none ↔
      (∃ stop, s.stop = some stop ∧ stop < s.position) ∨
        ClockTime.limit ≤ s.position - s.start + s.base := by
  have hcovers : s.covers s.position = s.stop.all (s.position ≤ ·) := by
    simp [covers, htime, hstart]
  rw [positionRunningTime, runningTime_of_normal hrate, hcovers, ClockTime.add?, ClockTime.ofNat?]
  cases s.stop with
  | none => simp
  | some stop =>
      by_cases hstop : s.position ≤ stop
      · simp [hstop, Nat.not_lt.mpr hstop]
      · simp [hstop, Nat.not_le.mp hstop]

end NormalSpeed

/-! ## Valid segments -/

section Valid

variable {s : Segment} {t : ClockTime}

/-- The running time that has passed before the segment, added to that which passes until `t`,
leads past the last clock time. -/
def Overflows (s : Segment) (t : ClockTime) : Prop :=
  ∃ offset, s.offset? t = some offset ∧ ClockTime.limit ≤ s.played offset + s.base

/-- In a valid segment each timestamp has a distance from the end that is played first, since a
segment that is played backwards has a stop. -/
theorem exists_offset (hvalid : s.isValid = true) (t : ClockTime) :
    ∃ offset, s.offset? t = some offset := by
  simp only [isValid, Bool.and_eq_true, Bool.or_eq_true, decide_eq_true_eq] at hvalid
  unfold offset?
  split
  · exact ⟨_, rfl⟩
  next hbackwards =>
    obtain ⟨stop, hstop⟩ := Option.isSome_iff_exists.mp (hvalid.2.resolve_left hbackwards)
    exact ⟨stop - t, by rw [hstop, Option.map_some]⟩

/-- In a valid segment the times between the bounds have a running time unless it overflows. -/
theorem runningTime_eq_none_iff (hvalid : s.isValid = true) (hcovers : s.covers t = true) :
    s.runningTime t = none ↔ s.Overflows t := by
  obtain ⟨offset, hoffset⟩ := exists_offset hvalid t
  simp only [runningTime, hcovers, if_true, hoffset, Option.bind_some, ClockTime.add?,
    ClockTime.ofNat?, Overflows, Option.some.injEq, exists_eq_left']
  split
  next hlt => simpa using hlt
  next hge => simpa using Nat.not_lt.mp hge

end Valid

/-! ## Delays -/

/-- The segment of a stream that comes later by `d`. -/
def delayed (s : Segment) (d : ClockTime) : Segment :=
  { s with start := s.start + d, stop := s.stop.map (· + d), position := s.position + d }

section Delays

variable (s : Segment) (d : ClockTime)

private theorem endsBefore_delayed (start : ClockTime) :
    (s.delayed d).endsBefore (start + d) = s.endsBefore start := by
  cases hstop : s.stop with
  | none => simp [endsBefore, delayed, hstop]
  | some stop => simp [endsBefore, delayed, hstop, bne, BEq.beq]

private theorem startsAfter_delayed (start : Option ClockTime) (stop : ClockTime) :
    (s.delayed d).startsAfter (start.map (· + d)) (stop + d) = s.startsAfter start stop := by
  have hsame : (start.map (· + d) != some (stop + d)) = (start != some stop) := by
    rw [Bool.eq_iff_iff]
    cases start <;> simp
  have hleft : (s.delayed d).start = s.start + d := rfl
  simp [startsAfter, hsame, hleft]

/-- A delayed interval is clipped in the same places. -/
theorem clip_delayed (start stop : Option ClockTime) :
    (s.delayed d).clip (start.map (· + d)) (stop.map (· + d)) =
      (s.clip start stop).map fun ends => (ends.1.map (· + d), ends.2.map (· + d)) := by
  have htime : (s.delayed d).isTime = s.isTime := rfl
  have hends : (start.map (· + d)).any (s.delayed d).endsBefore = start.any s.endsBefore := by
    cases start with
    | none => rfl
    | some start => exact endsBefore_delayed s d start
  have hstarts : (stop.map (· + d)).any ((s.delayed d).startsAfter (start.map (· + d))) =
      stop.any (s.startsAfter start) := by
    cases stop with
    | none => rfl
    | some stop => exact startsAfter_delayed s d start stop
  have hstop : earlierStop (stop.map (· + d)) (s.delayed d).stop =
      (earlierStop stop s.stop).map (· + d) := by
    cases stop <;> cases hlast : s.stop <;>
      simp [earlierStop, delayed, hlast, Nat.add_min_add_right]
  have hstart : (start.map (· + d)).map (max · (s.delayed d).start) =
      (start.map (max · s.start)).map (· + d) := by
    cases start with
    | none => rfl
    | some start => simp [delayed, Nat.add_max_add_right]
  simp only [clip, htime, hends, hstarts, hstop, hstart]
  split
  · rfl
  · rfl

theorem covers_delayed (t : ClockTime) : (s.delayed d).covers (t + d) = s.covers t := by
  cases hstop : s.stop <;> simp [covers, delayed, isTime, hstop]

theorem offset?_delayed (t : ClockTime) : (s.delayed d).offset? (t + d) = s.offset? t := by
  cases hstop : s.stop <;> simp [offset?, delayed, hstop, Nat.add_sub_add_right]

theorem runningTime_delayed (t : ClockTime) :
    (s.delayed d).runningTime (t + d) = s.runningTime t := by
  have hplayed : (s.delayed d).played = s.played := rfl
  have hbase : (s.delayed d).base = s.base := rfl
  simp only [runningTime, covers_delayed, offset?_delayed, hplayed, hbase]

theorem startRunningTime_delayed : (s.delayed d).startRunningTime = s.startRunningTime :=
  runningTime_delayed s d s.start

theorem positionRunningTime_delayed :
    (s.delayed d).positionRunningTime = s.positionRunningTime :=
  runningTime_delayed s d s.position

theorem advance_delayed (p : ClockTime) :
    (s.delayed d).advance (p + d) = (s.advance p).delayed d := by
  simp only [advance, delayed, Nat.add_max_add_right]

/-- An open segment that begins at `d` is the whole stream, delayed. -/
theorem between_eq_delayed : between d none = whole.delayed d := by
  simp [between, delayed, whole]

theorem isUsable_between : (between d none).isUsable = true := by
  have hfinite : whole.rate.isFinite = true := by decide +kernel
  have hnonzero : (whole.rate != 0.0) = true := by decide +kernel
  have hforward : whole.rate > 0.0 := by decide +kernel
  have hrate : (between d none).rate = whole.rate := rfl
  have htime : (between d none).isTime = true := rfl
  have hstop : (between d none).stop = none := rfl
  simp [isUsable, isValid, hrate, htime, hstop, hfinite, hnonzero, hforward]

end Delays

end Captioning.Segment
