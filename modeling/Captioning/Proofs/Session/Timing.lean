import Captioning.Proofs.Segment.Clipping
import Captioning.Proofs.Segment.Ends
import Captioning.Proofs.Segment.Running
import Captioning.Proofs.Session.Captions
import Captioning.Proofs.Session.Reconfiguring
import Captioning.Proofs.Session.Segments

/-!
# Captions in their time

A caption whose times are known is cut to the text segment when it is delivered, and compared with
frames when they look.  In between another segment may have been announced.  A caption that lies
in the segment in force is shown on frames that it meets only; one of which an end has no running
time any more counts as a caption without times, and is shown on the next frame that looks.

## Strategy

What a frame shows is read off its turn (`Overlay.Turn.meets`).  That captions lie in the segment
in force is no property of captions but of their admission, and lasts as long as the segment does:
`Session.Timely` is kept by every stage except the announcement of a segment, and by that one as
long as there is no caption in the session.
-/

namespace Captioning

namespace Segment

variable {α : Type} {s new : Segment} {item : StreamItem α} {start stop : ClockTime}

/-- The running time of an item begins before that of a frame ends, and ends after it begins. -/
def Meets (s : Segment) (item : StreamItem α) (frame : TimeSpan) : Prop :=
  ∃ text, s.span? item = some text ∧ text.start < frame.stop ∧ frame.start < text.stop

/-- An item whose ends are known lies between the bounds of a segment. -/
def Contains (s : Segment) (item : StreamItem α) : Prop :=
  ∀ start stop, item.pts = some start → item.stop = some stop →
    s.covers start = true ∧ s.covers stop = true

/-- Whatever lies between the bounds has a running time: none is past the last clock time. -/
def IsClocked (s : Segment) : Prop :=
  ∀ t, t < ClockTime.limit → s.covers t = true → (s.runningTime t).isSome = true

theorem span?_isSome_iff (hpts : item.pts = some start) (hstop : item.stop = some stop) :
    (s.span? item).isSome = true ↔
      (s.runningTime start).isSome = true ∧ (s.runningTime stop).isSome = true := by
  cases hfirst : s.runningTime start <;> cases hlast : s.runningTime stop <;>
    simp [span?, hpts, hstop, hfirst, hlast]

theorem isClocked_whole : whole.IsClocked := by
  intro t hlimit hcovers
  rw [runningTime_whole, ClockTime.ofNat?, if_pos hlimit]
  rfl

theorem contains_whole (item : StreamItem α) : whole.Contains item := by
  intro start stop hpts hstop
  simp [covers, whole, isTime]

/-! ## Admission -/

/-- What is admitted of a caption lies in the text segment. -/
theorem contains_of_admitText {o : Overlay} {item part : TextItem}
    (hordered : o.textSegment.IsOrdered) (h : o.admitText item = .ok (some part)) :
    o.textSegment.Contains part := by
  intro start stop hstart hstop
  unfold Overlay.admitText at h
  split at h
  · cases h
  · split at h
    next hpts =>
      obtain rfl := Option.some.inj (Except.ok.inj h)
      rw [hpts] at hstart
      cases hstart
    next pts hpts =>
      obtain ⟨⟨first, last⟩, hends, rfl⟩ := Option.map_eq_some_iff.mp (Except.ok.inj h)
      obtain ⟨rfl, hfirst, hlast⟩ := covers_of_clip hordered hends
      obtain rfl : max pts o.textSegment.start = start := Option.some.inj hstart
      refine ⟨hfirst, ?_⟩
      obtain ⟨start, duration, hsame, hduration, -, rfl⟩ := StreamItem.stop_eq_some_iff.mp hstop
      obtain rfl : max pts o.textSegment.start = start := Option.some.inj hsame
      -- the end of the part is that of the caption or that of the segment
      cases hlength : item.duration with
      | none => simp [Overlay.cutText, hlength] at hduration
      | some length =>
          cases last with
          | none => simp [Overlay.cutText, hlength] at hduration
          | some last =>
              obtain rfl : last - max pts o.textSegment.start = duration := by
                simpa [Overlay.cutText, hlength] using hduration
              rw [Nat.add_comm, Nat.sub_add_eq_max, Nat.max_comm]
              exact hlast last rfl

end Segment

/-! ## Frames that show a caption -/

namespace Overlay

variable {o o' : Overlay} {rasterizer : Rasterizer} {call : FrameCall} {signal : Signal}

theorem meets_of_current {s : Segment} {item : TextItem} {frame : TimeSpan} {consumed : Bool}
    (h : classify (s.span? item) frame = .current consumed) : s.Meets item frame := by
  cases hspan : s.span? item with
  | none =>
      rw [hspan] at h
      cases h
  | some text =>
      rw [hspan] at h
      obtain ⟨hbegun, hrunning, -⟩ := classify_eq_current_iff.mp h
      exact ⟨text, hspan, hrunning, hbegun⟩

/-- A frame that carries text meets the pending caption, or the caption has no running time and
leaves. -/
theorem Turn.meets {frame : ScheduledFrame}
    (h : o.Turn rasterizer call o' signal (some (.ok (some frame))))
    (hoverlaid : frame.isOverlaid = true) (item : TextItem) (hslot : o.slot = some item) :
    o.textSegment.Meets item call.span ∨ o.textSegment.span? item = none ∧ o'.slot = none := by
  cases h with
  | passed fault cleared past => simp [ScheduledFrame.isOverlaid] at hoverlaid
  | future fault slot overlap => simp [ScheduledFrame.isOverlaid] at hoverlaid
  | @shown other consume fault slot overlap =>
      obtain rfl := Option.some.inj (slot.symm.trans hslot)
      rcases overlap with ⟨huntimed, rfl⟩ | hcurrent
      · refine .inr ⟨?_, finish_overlay_slot o _ true⟩
        cases hspan : o.textSegment.span? other with
        | none => rfl
        | some text =>
            rw [hspan] at huntimed
            exact absurd huntimed classify_ne_untimed
      · exact .inl (meets_of_current hcurrent)

end Overlay

/-! ## Captions in the segment in force -/

namespace Session

variable {s s' : Session} {rasterizer : Rasterizer} {step : Step} {signal : Signal}
  {report : Report}

/-- The captions in a session lie in the text segment, if there is one, and what lies in the
segment has a running time. -/
structure Timely (s : Session) : Prop where
  connected : s.overlay.flow.textConnected = true → s.overlay.textSegment.isTime = true
  ordered : s.overlay.textSegment.IsOrdered
  clocked : s.overlay.textSegment.IsClocked
  contained : s.overlay.textSegment.isTime = true →
    ∀ item ∈ s.captions, s.overlay.textSegment.Contains item

/-- A segment is announced that gives a running time to whatever it holds, while there is no
caption in the session. -/
def AnnouncesFreely (s : Session) (step : Step) : Prop :=
  ∀ new, step = .textEvent (.segment new) → new.isUsable = true →
    new.IsClocked ∧ s.captions = []

/-- As long as the bounds of the segment stay, its captions do. -/
private theorem Timely.of_onward (hs : s.Timely)
    (hconnected : s'.overlay.flow.textConnected = true →
      s.overlay.textSegment.isTime = true)
    (honward : s.overlay.textSegment.Onward s'.overlay.textSegment)
    (hcaptions : ∀ item ∈ s'.captions,
      item ∈ s.captions ∨ s.overlay.textSegment.Contains item) : s'.Timely := by
  obtain ⟨p, -, hmoved⟩ := honward
  refine ⟨?_, ?_, ?_, ?_⟩
  all_goals rw [hmoved]
  · exact hconnected
  · exact hs.ordered
  · exact hs.clocked
  · intro htime item hitem
    exact (hcaptions item hitem).elim (hs.contained htime item) id

private theorem timely_of_whole (h : s.overlay.textSegment = .whole) : s.Timely := by
  refine ⟨?_, ?_, ?_, ?_⟩
  all_goals rw [h]
  · exact fun _ => rfl
  · exact nofun
  · exact Segment.isClocked_whole
  · exact fun _ item _ => Segment.contains_whole item

private theorem timely_of_detached (h : s.overlay.textSegment = .detached)
    (hconnected : s.overlay.flow.textConnected = false) : s.Timely := by
  refine ⟨?_, ?_, ?_, ?_⟩
  all_goals rw [h]
  · exact fun htrue => nomatch hconnected.symm.trans htrue
  · exact nofun
  · exact fun _ _ hcovers => nomatch hcovers
  · exact fun htime => nomatch htime

private theorem timely_of_usable {new : Segment} (h : s.overlay.textSegment = new)
    (husable : new.isUsable = true) (hclocked : new.IsClocked) (hnone : s.captions = []) :
    s.Timely := by
  refine ⟨?_, ?_, ?_, ?_⟩
  all_goals rw [h]
  · exact fun _ => (Bool.and_eq_true_iff.mp husable).1
  · exact Segment.isOrdered_of_isUsable husable
  · exact hclocked
  · intro _ item hitem
    rw [hnone] at hitem
    cases hitem

/-- An announced segment is in force if it can be used; otherwise the old one stays. -/
private theorem Timely.announce {new : Segment} (hs : s.Timely)
    (hsegment : s'.overlay.textSegment = if new.isUsable then new else s.overlay.textSegment)
    (hflow : s'.overlay.flow.textConnected = s.overlay.flow.textConnected)
    (hcaptions : s'.captions = s.captions)
    (hfree : new.isUsable = true → new.IsClocked ∧ s.captions = []) : s'.Timely := by
  cases husable : new.isUsable with
  | false =>
      rw [husable] at hsegment
      exact hs.of_onward (hflow ▸ hs.connected) (Segment.onward_of_eq hsegment)
        fun item hitem => .inl (hcaptions ▸ hitem)
  | true =>
      rw [husable] at hsegment
      obtain ⟨hclocked, hnone⟩ := hfree husable
      exact timely_of_usable hsegment husable hclocked (hcaptions.trans hnone)

/-- A connected input has a segment in time: that of before, or the whole stream. -/
private theorem Timely.connect (hs : s.Timely)
    (hsegment : s'.overlay.textSegment = Overlay.connectedSegment s.overlay.textSegment)
    (hcaptions : s'.captions = s.captions) : s'.Timely := by
  unfold Overlay.connectedSegment at hsegment
  split at hsegment
  next htime =>
    exact hs.of_onward (fun _ => htime) (Segment.onward_of_eq hsegment)
      fun item hitem => .inl (hcaptions ▸ hitem)
  next => exact timely_of_whole hsegment

/-- Whoever sets the segment brings no caption. -/
private theorem Entry.timely_of_sets (h : s.Entry rasterizer step s' signal report)
    (hs : s.Timely) (hfree : s.AnnouncesFreely step) (hsets : step.setsTextSegment = true) :
    s'.Timely := by
  cases h with
  | control control =>
      cases control with
      | textEvent event =>
          cases event with
          | segment new => exact hs.announce rfl rfl rfl (hfree new rfl)
          | flushStop => exact timely_of_whole rfl
          | _ => cases hsets
      | transit transition =>
          cases transition with
          | start => exact timely_of_whole rfl
          | halt => cases hsets
      | connect on =>
          cases on with
          | false => exact timely_of_detached rfl rfl
          | true => exact hs.connect rfl rfl
      | videoEvent event => cases event <;> cases hsets
      | _ => cases hsets
  | _ => cases hsets

theorem Entry.timely (h : s.Entry rasterizer step s' signal report) (hs : s.Timely)
    (hfree : s.AnnouncesFreely step) : s'.Timely := by
  cases hsets : step.setsTextSegment with
  | true => exact h.timely_of_sets hs hfree hsets
  | false =>
      refine hs.of_onward (h.connected hsets ▸ hs.connected) (h.onward hsets) ?_
      intro item hitem
      refine (h.mem_captions hitem).imp_right ?_
      rintro ⟨raw, -, hadmit⟩
      exact Segment.contains_of_admitText hs.ordered hadmit

theorem TextWake.timely {result : Option TextResult} (h : s.TextWake s' result)
    (hs : s.Timely) : s'.Timely :=
  hs.of_onward (h.flow ▸ hs.connected) h.onward
    fun _ hitem => .inl (h.mem_captions hitem)

theorem FrameWake.timely {result : Option FrameResult} (h : s.FrameWake rasterizer s' result)
    (hs : s.Timely) : s'.Timely :=
  hs.of_onward (h.flow ▸ hs.connected) (Segment.onward_of_eq h.textSegment)
    fun _ hitem => .inl (h.mem_captions hitem)

end Session

namespace Stage

variable {stage : Stage} {rasterizer : Rasterizer} {frame : ScheduledFrame}

theorem Sound.timely (h : stage.Sound rasterizer) (hbefore : stage.before.Timely)
    (hfree : ∀ step, stage.phase = .entry step → stage.before.AnnouncesFreely step) :
    stage.after.Timely := by
  cases h with
  | entry entry => exact entry.timely hbefore (hfree _ rfl)
  | textLook wake => exact wake.timely hbefore
  | frameLook wake => exact wake.timely hbefore

/-- The frame shows the pending caption, and meets it if its ends are known. -/
def InTime (stage : Stage) (rasterizer : Rasterizer) (frame : ScheduledFrame) : Prop :=
  ∃ item call, stage.before.overlay.slot = some item ∧ stage.Looks call ∧
    stage.Shows rasterizer item frame ∧
    (item.isTimed = true → stage.before.overlay.textSegment.Meets item call.span)

/-- Both ends of the pending caption have a running time, if they are known. -/
def Clocks (stage : Stage) : Prop :=
  ∀ item start stop, stage.before.overlay.slot = some item → item.pts = some start →
    item.stop = some stop → (stage.before.overlay.textSegment.runningTime start).isSome = true ∧
      (stage.before.overlay.textSegment.runningTime stop).isSome = true

theorem clocks_of_timely (h : stage.before.Timely)
    (hconnected : stage.before.overlay.flow.textConnected = true) : stage.Clocks := by
  intro item start stop hslot hstart hstop
  have hmem : item ∈ stage.before.captions := Session.mem_captions.mpr (.inl hslot)
  have hlimit : stop < ClockTime.limit := StreamItem.stop_lt_limit hstop
  obtain ⟨hfirst, hlast⟩ :=
    h.contained (h.connected hconnected) item hmem start stop hstart hstop
  exact ⟨h.clocked start (Nat.lt_of_le_of_lt (StreamItem.start_le_stop hstart hstop) hlimit) hfirst,
    h.clocked stop hlimit hlast⟩

section Showing

variable (h : stage.Sound rasterizer)
  (hfaithful : stage.before.overlay.cache.Faithful rasterizer)
  (hvideo : stage.video = some (.ok (some frame))) (hoverlaid : frame.isOverlaid = true)
  (hconnected : stage.before.overlay.flow.textConnected = true)
include h hfaithful hvideo hoverlaid hconnected

private theorem Sound.shows_meeting : ∃ item call, stage.before.overlay.slot = some item ∧
    stage.Looks call ∧ stage.Shows rasterizer item frame ∧
      (stage.before.overlay.textSegment.Meets item call.span ∨
        stage.before.overlay.textSegment.span? item = none ∧
          stage.after.overlay.slot = none) := by
  obtain ⟨item, hslot, hshows⟩ := h.shows hfaithful hvideo hoverlaid hconnected
  obtain ⟨call, signal, hlooks, hturn⟩ := h.turn_of_overlaid hvideo hoverlaid hconnected
  exact ⟨item, call, hslot, hlooks, hshows, hturn.meets hoverlaid item hslot⟩

/-- A frame shows the pending caption in its time exactly if that has one. -/
theorem Sound.inTime_iff : stage.InTime rasterizer frame ↔ stage.Clocks := by
  constructor
  · rintro ⟨item, call, hslot, -, -, hmeets⟩ other start stop hother hstart hstop
    obtain rfl := Option.some.inj (hslot.symm.trans hother)
    obtain ⟨text, hspan, -⟩ := hmeets (Option.isSome_of_eq_some hstop)
    exact (Segment.span?_isSome_iff hstart hstop).mp (Option.isSome_of_eq_some hspan)
  · intro hclocks
    obtain ⟨item, call, hslot, hlooks, hshows, hmeeting⟩ :=
      h.shows_meeting hfaithful hvideo hoverlaid hconnected
    refine ⟨item, call, hslot, hlooks, hshows, fun htimed => ?_⟩
    obtain ⟨stop, hstop⟩ := Option.isSome_iff_exists.mp htimed
    obtain ⟨start, duration, hstart, -⟩ := StreamItem.stop_eq_some_iff.mp hstop
    rcases hmeeting with hmeets | ⟨hnone, -⟩
    · exact hmeets
    · -- without a running time the caption would have counted as one without times
      have hspan := (Segment.span?_isSome_iff hstart hstop).mpr
        (hclocks item start stop hslot hstart hstop)
      rw [hnone] at hspan
      cases hspan

/-- A caption that is shown although an end of it has no running time leaves at once. -/
theorem Sound.clocks_or_leaves : stage.Clocks ∨ stage.after.overlay.slot = none := by
  obtain ⟨item, call, hslot, -, -, hmeeting⟩ :=
    h.shows_meeting hfaithful hvideo hoverlaid hconnected
  rcases hmeeting with ⟨text, hspan, -⟩ | ⟨-, hnone⟩
  · refine .inl fun other start stop hother hstart hstop => ?_
    obtain rfl := Option.some.inj (hslot.symm.trans hother)
    exact (Segment.span?_isSome_iff hstart hstop).mp (Option.isSome_of_eq_some hspan)
  · exact .inr hnone

end Showing

end Stage

namespace Session

/-- **Captions are shown in their time.**  In every stage of a session, a frame that carries text
while the text input is connected shows the pending caption, and covers some running time
together with it if the ends of the caption are known, exactly when both ends have a running time
in the text segment that is in force then.  This is always so when segments are announced only
while there is no caption in the session, and give a running time to whatever they hold.  A
caption that an end of has no running time is shown on one frame, and leaves. -/
theorem shown_in_time_iff (rasterizer : Rasterizer) (steps : List Step) :
    let trace := initial.stages rasterizer steps
    (∀ stage ∈ trace, ∀ frame, stage.video = some (.ok (some frame)) → frame.isOverlaid = true →
        stage.before.overlay.flow.textConnected = true →
          (stage.InTime rasterizer frame ↔ stage.Clocks) ∧
          (stage.Clocks ∨ stage.after.overlay.slot = none)) ∧
      ((∀ stage ∈ trace, ∀ step, stage.phase = .entry step →
          stage.before.AnnouncesFreely step) →
        ∀ stage ∈ trace, ∀ frame, stage.video = some (.ok (some frame)) →
          frame.isOverlaid = true → stage.before.overlay.flow.textConnected = true →
            stage.InTime rasterizer frame) := by
  intro trace
  have hleads : Leads initial trace (initial.run rasterizer steps).1 :=
    initial.stages_leads rasterizer steps
  have hsound : ∀ stage ∈ trace, stage.Sound rasterizer := initial.stages_sound rasterizer steps
  have hfaithful : ∀ stage ∈ trace, stage.before.overlay.cache.Faithful rasterizer :=
    hleads.invariant (fun s => s.overlay.cache.Faithful rasterizer)
      (fun stage hmem => (hsound stage hmem).faithful) (RenderCache.empty_faithful rasterizer)
  constructor
  · intro stage hmem frame hvideo hoverlaid hconnected
    have hstage := hsound stage hmem
    exact ⟨hstage.inTime_iff (hfaithful stage hmem) hvideo hoverlaid hconnected,
      hstage.clocks_or_leaves (hfaithful stage hmem) hvideo hoverlaid hconnected⟩
  · intro hfree stage hmem frame hvideo hoverlaid hconnected
    have htimely : stage.before.Timely :=
      hleads.invariant Timely (fun stage hmem hbefore =>
        (hsound stage hmem).timely hbefore (hfree stage hmem)) (timely_of_whole rfl) stage hmem
    exact ((hsound stage hmem).inTime_iff (hfaithful stage hmem) hvideo hoverlaid
      hconnected).mpr (Stage.clocks_of_timely htimely hconnected)

/-- The frame with both of its pixels white. -/
def whitened : ScheduledFrame :=
  ⟨{ grayFrame with payload := { grayFrame.payload with
      data := #[235, 235, 0, 0]
      size_le := by decide } }, .blended⟩

/-- A caption up to 40 is pending when a segment is announced that begins at 100, and is shown on
the next frame. -/
theorem caption_outside_segment_shown :
    let s := (initial.run Rasterizer.white
      [.connect true, .text grayCaption, .textEvent (.segment (.between 100 none))]).1
    s.overlay.flow.textConnected = true ∧ s.overlay.slot = some grayCaption ∧
      grayCaption.stop = some 40 ∧
      s.overlay.textSegment.clip grayCaption.pts grayCaption.stop = none ∧
      (s.step Rasterizer.white (.frame grayFrame)).2.video = some (.ok (some whitened)) ∧
      whitened.isOverlaid = true := by
  decide +kernel

end Session

end Captioning
