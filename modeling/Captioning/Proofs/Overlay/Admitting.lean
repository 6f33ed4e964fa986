import Captioning.Overlay.Scheduling
import Captioning.Proofs.Segment.Clipping
import Captioning.Proofs.Segment.Ends
import Captioning.Proofs.Segment.Running

/-!
# How frames are admitted

A frame that arrives is turned away, or its part in the video segment is taken in.
`Overlay.Admits` lists the ways; what an admission leaves as it was is read off that list.  The
part of a frame that is taken in lies in the video segment, and what it covers of running time is
known unless that overflows.  A new video input takes frames in whole.
-/

namespace Captioning

/-- The part of a frame that is taken in. -/
def Admission.part? : Admission → Option VideoItem
  | .unclocked part _ => some part
  | .admitted call => some call.item
  | _ => none

/-- Nothing is cut off an item by the whole stream. -/
theorem StreamItem.clip_whole {α : Type} {item : StreamItem α} {start : ClockTime}
    (hpts : item.pts = some start) :
    Segment.whole.clip (some start) item.stop = some (some start, item.stop) :=
  Segment.clip_whole fun _ hstop => start_le_stop hpts hstop

namespace Overlay

variable {o : Overlay} {item part : VideoItem}

/-- How a frame can be admitted or turned away. -/
inductive Admits (o : Overlay) (item : VideoItem) : Admission → Prop
  | untimed (pts : item.pts = none) : Admits o item .dropped
  | refused {pts : ClockTime} {error : CaptionError} (timed : item.pts = some pts)
      (fault : o.flow.videoFault? = some error) : Admits o item (.refused error)
  | outside {pts : ClockTime} (timed : item.pts = some pts) (fault : o.flow.videoFault? = none)
      (clip : clipFrame? o.videoSegment item pts = none) : Admits o item .dropped
  | unclocked {pts start : ClockTime} {part : VideoItem} (timed : item.pts = some pts)
      (fault : o.flow.videoFault? = none)
      (clip : clipFrame? o.videoSegment item pts = some (part, start))
      (span : frameSpan? o.videoSegment part start = none) :
      Admits o item (.unclocked part start)
  | admitted {pts start : ClockTime} {part : VideoItem} {span : TimeSpan}
      (timed : item.pts = some pts) (fault : o.flow.videoFault? = none)
      (clip : clipFrame? o.videoSegment item pts = some (part, start))
      (clocked : frameSpan? o.videoSegment part start = some span) :
      Admits o item (.admitted ⟨part, start, span, o.config⟩)

theorem admitFrame_admits (o : Overlay) (item : VideoItem) : o.Admits item (o.admitFrame item) := by
  unfold admitFrame
  split
  next hpts => exact .untimed hpts
  next pts hpts =>
    split
    next error hfault => exact .refused hpts hfault
    next hfault =>
      split
      next hclip => exact .outside hpts hfault hclip
      next part start hclip =>
        split
        next hspan => exact .unclocked hpts hfault hclip hspan
        next span hspan => exact .admitted hpts hfault hclip hspan

theorem payload_of_clipFrame? {segment : Segment} {pts start : ClockTime}
    (h : clipFrame? segment item pts = some (part, start)) : part.payload = item.payload := by
  unfold clipFrame? at h
  split at h
  · cases h
  · obtain ⟨ends, -, hends⟩ := Option.map_eq_some_iff.mp h
    obtain ⟨rfl, -⟩ := Prod.mk.inj hends
    rfl

/-- A frame has no end exactly if its end is not known and what is estimated is no clock time. -/
theorem frameStop?_eq_none_iff {segment : Segment} {info : VideoInfo} {start : ClockTime} :
    frameStop? segment info part start = none ↔
      part.stop = none ∧ ClockTime.limit ≤ start + info.frameDuration.getD 1 := by
  unfold frameStop? ClockTime.add? ClockTime.ofNat?
  cases part.stop with
  | some stop => cases segment.stop <;> simp
  | none => cases segment.stop <;> simp

/-- A frame ends at its own end or its estimated one, and no later than the segment does. -/
theorem exists_of_frameStop? {segment : Segment} {info : VideoInfo} {start stop : ClockTime}
    (h : frameStop? segment info part start = some stop) :
    ∃ last, (part.stop = some last ∨
        part.stop = none ∧ ClockTime.add? start (info.frameDuration.getD 1) = some last) ∧
      (segment.stop = none ∧ stop = last ∨
        ∃ bound, segment.stop = some bound ∧ stop = min last bound) := by
  simp only [frameStop?] at h
  cases hbound : segment.stop with
  | none => cases hpart : part.stop <;> simp_all
  | some bound =>
      rw [hbound] at h
      obtain ⟨last, hlast, rfl⟩ := Option.map_eq_some_iff.mp h
      cases hpart : part.stop <;> simp_all

/-- The part of a frame in the video segment begins there, and if it has an end it ends there, in
this order. -/
theorem covers_of_clipFrame? {segment : Segment} {pts start : ClockTime}
    (hordered : segment.IsOrdered) (h : clipFrame? segment item pts = some (part, start)) :
    segment.covers start = true ∧ ∀ info stop, frameStop? segment info part start = some stop →
      segment.covers stop = true ∧ start ≤ stop := by
  unfold clipFrame? at h
  split at h
  · cases h
  · obtain ⟨⟨first, last⟩, hends, hcut⟩ := Option.map_eq_some_iff.mp h
    obtain ⟨rfl, hfirst, -⟩ := Segment.covers_of_clip hordered hends
    obtain ⟨rfl, rfl⟩ := Prod.mk.inj hcut
    rw [Option.getD_some]
    generalize hpart : cutFrame item (max pts segment.start) last = part
    have hpts : part.pts = some (max pts segment.start) := by
      rw [← hpart]
      rfl
    obtain ⟨htime, hstart, hlast⟩ := Segment.covers_eq_true_iff.mp hfirst
    refine ⟨hfirst, fun info stop hstop => ?_⟩
    obtain ⟨ending, hending, hbound⟩ := exists_of_frameStop? hstop
    -- whether the end is known or estimated, it is not before the start
    have hend : max pts segment.start ≤ ending := by
      rcases hending with hknown | ⟨-, hestimate⟩
      · exact StreamItem.start_le_stop hpts hknown
      · obtain ⟨-, rfl⟩ := ClockTime.add?_eq_some_iff.mp hestimate
        exact Nat.le_add_right _ _
    rcases hbound with ⟨hopen, rfl⟩ | ⟨bound, hbound, rfl⟩
    · have hbounded : ∀ bound, segment.stop = some bound → stop ≤ bound := by
        intro bound hbound
        rw [hopen] at hbound
        cases hbound
      exact ⟨Segment.covers_eq_true_iff.mpr ⟨htime, Nat.le_trans hstart hend, hbounded⟩, hend⟩
    · have hle : max pts segment.start ≤ min ending bound :=
        Nat.le_min.mpr ⟨hend, hlast bound hbound⟩
      have hbounded : ∀ bound', segment.stop = some bound' → min ending bound ≤ bound' := by
        intro bound' hbound'
        obtain rfl := Option.some.inj (hbound.symm.trans hbound')
        exact Nat.min_le_right _ _
      exact ⟨Segment.covers_eq_true_iff.mpr ⟨htime, Nat.le_trans hstart hle, hbounded⟩, hle⟩

/-- A frame without an end covers no known span of running time. -/
theorem frameSpan?_of_endless {segment : Segment} {start : ClockTime}
    (h : frameStop? segment part.payload.info part start = none) :
    frameSpan? segment part start = none := by
  unfold frameSpan? spanOf?
  rw [h]
  cases segment.runningTime start <;> rfl

/-- A frame in a valid segment covers a known span of running time unless an end overflows. -/
theorem frameSpan?_eq_none_iff {segment : Segment} {start stop : ClockTime}
    (hvalid : segment.isValid = true) (hstart : segment.covers start = true)
    (hends : frameStop? segment part.payload.info part start = some stop)
    (hstop : segment.covers stop = true) :
    frameSpan? segment part start = none ↔ segment.Overflows start ∨ segment.Overflows stop := by
  rw [← Segment.runningTime_eq_none_iff hvalid hstart,
    ← Segment.runningTime_eq_none_iff hvalid hstop]
  unfold frameSpan? spanOf?
  rw [hends]
  cases segment.runningTime start with
  | none => simp
  | some first => cases hlast : segment.runningTime stop <;> simp [hlast]

/-- A frame is cut, but its picture stays. -/
theorem payload_of_admitFrame (h : (o.admitFrame item).part? = some part) :
    part.payload = item.payload := by
  have hadmits := o.admitFrame_admits item
  generalize o.admitFrame item = admission at h hadmits
  cases hadmits with
  | untimed pts => cases h
  | refused timed fault => cases h
  | outside timed fault clip => cases h
  | unclocked timed fault clip span =>
      obtain rfl := Option.some.inj h
      exact payload_of_clipFrame? clip
  | admitted timed fault clip clocked =>
      obtain rfl := Option.some.inj h
      exact payload_of_clipFrame? clip

/-- A frame is admitted under the configuration of that moment. -/
theorem config_of_admitFrame {call : FrameCall} (h : o.admitFrame item = .admitted call) :
    call.config = o.config := by
  have hadmits := o.admitFrame_admits item
  rw [h] at hadmits
  cases hadmits with
  | admitted timed fault clip clocked => rfl

theorem videoFault?_of_admitFrame {error : CaptionError} (h : o.admitFrame item = .refused error) :
    o.flow.videoFault? = some error := by
  have hadmits := o.admitFrame_admits item
  rw [h] at hadmits
  cases hadmits with
  | refused timed fault => exact fault

/-! ## The whole stream -/

/-- A frame that is cut at its own ends stays as it is. -/
theorem cutFrame_self {start : ClockTime} (hpts : item.pts = some start) :
    cutFrame item start item.stop = item := by
  cases hstop : item.stop with
  | none =>
      obtain ⟨pts, duration, payload⟩ := item
      obtain rfl : pts = some start := hpts
      cases duration <;> rfl
  | some stop =>
      obtain ⟨first, duration, hsame, hduration, -, rfl⟩ := StreamItem.stop_eq_some_iff.mp hstop
      obtain rfl := Option.some.inj (hpts.symm.trans hsame)
      obtain ⟨pts, _, payload⟩ := item
      obtain rfl : pts = some start := hpts
      simp only at hduration
      simp [cutFrame, hduration]

theorem clipFrame?_whole {start : ClockTime} (hpts : item.pts = some start)
    (position : ClockTime) :
    clipFrame? (Segment.whole.moveTo position) item start = some (item, start) := by
  have hstart : (Segment.whole.moveTo position).start ≤ start := Nat.zero_le _
  simp [clipFrame?, hstart, StreamItem.clip_whole hpts, cutFrame_self hpts]

/-- A frame comes whole into a new video input. -/
theorem admitFrame_whole {start position : ClockTime} {span : TimeSpan}
    (hpts : item.pts = some start) (hfault : o.flow.videoFault? = none)
    (hsegment : o.videoSegment = Segment.whole.moveTo position)
    (hspan : frameSpan? .whole item start = some span) :
    o.admitFrame item = .admitted ⟨item, start, span, o.config⟩ := by
  have hclocked : frameSpan? (Segment.whole.moveTo position) item start = some span := hspan
  simp only [admitFrame, hpts, hfault, hsegment, clipFrame?_whole hpts, hclocked]

/-- In the whole stream a frame covers the time from its timestamp to its end.  One of unknown
duration lasts as long as the frame rate says, or one nanosecond. -/
theorem frameSpan?_whole {start : ClockTime} (hpts : item.pts = some start)
    (hlimit : start + item.duration.getD (item.payload.info.frameDuration.getD 1) <
      ClockTime.limit) :
    frameSpan? .whole item start =
      some ⟨start, start + item.duration.getD (item.payload.info.frameDuration.getD 1)⟩ := by
  have hstart : start < ClockTime.limit := Nat.lt_of_le_of_lt (Nat.le_add_right _ _) hlimit
  have hstop : frameStop? .whole item.payload.info item start =
      some (start + item.duration.getD (item.payload.info.frameDuration.getD 1)) := by
    unfold frameStop?
    cases hduration : item.duration with
    | none =>
        rw [hduration, Option.getD_none] at hlimit
        simp [StreamItem.stop, hduration, Segment.whole, ClockTime.add?, ClockTime.ofNat?, hlimit]
    | some duration =>
        rw [hduration] at hlimit
        have hsum : item.stop = some (start + duration) :=
          StreamItem.stop_eq_some_iff.mpr ⟨start, duration, hpts, hduration, hlimit, rfl⟩
        simp [hsum, Segment.whole]
  simp [frameSpan?, spanOf?, hstop, Segment.runningTime_whole, ClockTime.ofNat?, hstart, hlimit,
    TimeSpan.ofEnds]

end Overlay

end Captioning
