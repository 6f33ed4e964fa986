import Captioning.Proofs.Overlay.Admitting
import Captioning.Proofs.Render.Depiction
import Captioning.Proofs.Session.Segments

/-!
# Gaps in the text

A gap tells that no caption comes before its end, and moves the position of the text segment
there.  A frame that ends no later need not wait.  But the position is compared in running time,
and a position that has left the segment has none: from then on the gap is forgotten.  This file
proves that this is the only way in which a gap fails to release the frames that it covers.

## Strategy

The position of the text segment goes onward (`Session.run_onward`).  As long as it is in the
segment its running time is at least that of the end of the gap (`Segment.le_of_onward`), and who
waits ends later than the position (`Session.Ahead`): this holds after every look of a frame, and
steps without a signal leave it as it is, unless they set the segment.
-/

namespace Captioning

/-! ## Positions -/

namespace Segment

variable {s s' : Segment} {p q last t : ClockTime}

/-- The last timestamp up to `p` that does not lie past the end of the segment. -/
def lastBy (s : Segment) (p : ClockTime) : ClockTime :=
  match s.stop with
  | some stop => min p stop
  | none => p

theorem lastBy_of_covers (h : s.covers q = true) (hle : p ≤ q) : s.lastBy p = p := by
  unfold lastBy
  split
  next stop hstop =>
    have hq : q ≤ stop := by simpa [hstop] using (Bool.and_eq_true_iff.mp h).2
    exact Nat.min_eq_left (Nat.le_trans hle hq)
  next hstop => rfl

/-- A position that has come past `p` and has a running time has come past the running time that
the segment gives to what lies up to `p`. -/
theorem le_of_onward (hrate : s.rate = 1.0) (h : s.Onward s') (hp : p ≤ s'.position)
    (hlast : s.runningTime (s.lastBy p) = some last) (ht : s'.positionRunningTime = some t) :
    last ≤ t := by
  obtain ⟨q, -, rfl⟩ := h
  have hq : s.runningTime q = some t := ht
  obtain ⟨hcovers, -, -⟩ := (runningTime_eq_some_iff hrate).mp hq
  rw [lastBy_of_covers hcovers hp] at hlast
  exact runningTime_mono hrate hp hlast hq

end Segment

/-- A position without a running time neither lets a frame go nor holds one back. -/
theorem Overlay.isTextPast_eq_false_iff_of_lost {o : Overlay} {stop : ClockTime}
    (hconnected : o.flow.textConnected = true)
    (hnone : o.textSegment.positionRunningTime = none) :
    o.isTextPast stop = false ↔ o.flow.textEnded = false ∧ o.config.waitText = true ∧
      ∀ t, o.textSegment.startRunningTime = some t → t < stop := by
  rw [isTextPast_eq_false_iff]
  simp [hconnected, hnone]

namespace Session

variable {s s' : Session} {rasterizer : Rasterizer} {step : Step} {signal : Signal}
  {report : Report}

/-! ## Frames that wait for the position -/

/-- A waiting frame ends later than the running time of the position of the text. -/
def Ahead (s : Session) : Prop :=
  ∀ call, s.frame = some call →
    ∀ t, s.overlay.textSegment.positionRunningTime = some t → t < call.span.stop

theorem FrameWake.isAhead {result : Option FrameResult} (h : s.FrameWake rasterizer s' result) :
    s'.Ahead := by
  intro call hcall
  obtain ⟨-, -, -, -, hposition⟩ := Overlay.isTextPast_eq_false_iff.mp (h.ahead call hcall)
  exact hposition

private theorem Control.textSegment_of_quiet {o o' : Overlay} (h : o.Control step o' .quiet)
    (hstep : step.setsTextSegment = false) : o'.textSegment = o.textSegment := by
  generalize hsignal : Signal.quiet = signal at h
  cases h with
  | videoEvent event => cases event <;> rfl
  | textEvent event => cases event <;> cases hsignal
  | transit transition =>
      cases transition with
      | start => cases hstep
      | halt => cases hsignal
  | connect on => cases hsignal
  | attach on => rfl
  | configure config => exact Overlay.configure_textSegment config
  | provide provider => rfl

private theorem Entry.isAhead (h : s.Entry rasterizer step s' .quiet report) (hs : s.Ahead)
    (hstep : step.setsTextSegment = false) : s'.Ahead := by
  generalize hsignal : Signal.quiet = signal at h
  cases h with
  | frame free arrival =>
      intro call hcall
      have hnone : s.frame = some call := hcall
      rw [free] at hnone
      cases hnone
  | @blockedFrame item o signal call free arrival =>
      intro other hother
      obtain rfl : call = other := Option.some.inj hother
      cases arrival with
      | waits admission silent connected turn =>
          obtain ⟨-, -, -, -, hposition⟩ := Overlay.isTextPast_eq_false_iff.mp turn.ahead
          exact hposition
  | storedText free admission slot => cases hsignal
  | control control =>
      subst hsignal
      intro call hcall
      have hsame := Control.textSegment_of_quiet control hstep
      simp only [hsame]
      exact hs call hcall
  | _ => exact hs

theorem step_ahead (hs : s.Ahead) (hstep : step.setsTextSegment = false) :
    (s.step rasterizer step).1.Ahead := by
  obtain ⟨s', signal, report, henter, hentry⟩ := s.exists_entry rasterizer step
  cases signal with
  | quiet =>
      rw [step_of_quiet henter]
      exact hentry.isAhead hs hstep
  | wake =>
      rw [step_of_wake henter]
      exact (s'.wakeText.1.wakeFrame_wake rasterizer).isAhead

theorem run_ahead (hs : s.Ahead) (steps : List Step)
    (hsteps : ∀ step ∈ steps, step.setsTextSegment = false) :
    (s.run rasterizer steps).1.Ahead := by
  induction steps generalizing s with
  | nil => exact hs
  | cons step steps ih =>
      obtain ⟨hstep, hrest⟩ := List.forall_mem_cons.mp hsteps
      exact ih (step_ahead hs hstep) hrest

/-! ## Frames that arrive -/

section Arriving

variable {item : VideoItem} {call : FrameCall} (hfree : s.frame = none)
  (hadmission : s.overlay.admitFrame item = .admitted call)
include hfree hadmission

/-- A frame that waits after its arrival has found nothing to go on with. -/
theorem ahead_of_step_frame (hwaits : (s.step rasterizer (.frame item)).1.frame.isSome = true) :
    call.config.silent = false ∧ s.overlay.isTextPast call.span.stop = false := by
  obtain ⟨s', signal, report, henter, hentry⟩ := s.exists_entry rasterizer (.frame item)
  -- a frame that has its result does not come back
  have hwaiting : s'.frame.isSome = true := by
    cases signal with
    | quiet =>
        rw [step_of_quiet henter] at hwaits
        exact hwaits
    | wake =>
        rw [step_of_wake henter] at hwaits
        cases hframe : s'.frame with
        | some call => rfl
        | none =>
            have hnone : s'.wakeText.1.frame = none := s'.wakeText_wake.frame.trans hframe
            rw [wakeFrame_of_none hnone, hnone] at hwaits
            cases hwaits
  cases hentry with
  | busyFrame frame =>
      rw [hfree] at frame
      cases frame
  | frame free arrival =>
      rw [hfree] at hwaiting
      cases hwaiting
  | blockedFrame free arrival =>
      cases arrival with
      | waits admission silent connected turn =>
          obtain rfl := Admission.admitted.inj (hadmission.symm.trans admission)
          refine ⟨silent, ?_⟩
          cases turn with
          | waits fault cleared ahead => cases cleared <;> exact ahead
  | control control => cases control

/-- With no caption pending, a frame waits exactly if it finds nothing to go on with. -/
theorem step_frame_eq_some_iff (hslot : s.overlay.slot = none) :
    (s.step rasterizer (.frame item)).1.frame = some call ↔
      call.config.silent = false ∧ s.overlay.isTextPast call.span.stop = false := by
  constructor
  · intro hframe
    exact ahead_of_step_frame hfree hadmission (Option.isSome_of_eq_some hframe)
  · rintro ⟨hsilent, hahead⟩
    obtain ⟨-, hconnected, -⟩ := Overlay.isTextPast_eq_false_iff.mp hahead
    have hadmits := s.overlay.admitFrame_admits item
    rw [hadmission] at hadmits
    have hfault : s.overlay.flow.videoFault? = none := by
      cases hadmits with
      | admitted timed fault clip clocked => exact fault
    have hproceed : s.overlay.proceed rasterizer call = (s.overlay, .quiet, none) :=
      Overlay.proceed_of_empty hfault hslot hahead
    have halone : s.overlay.decisionAlone? call = none := by
      simp [Overlay.decisionAlone?, Overlay.providedDecision?, hsilent, hconnected]
    simp [Session.step, enter, hfree, Overlay.schedule, hadmission, halone, hproceed, conclude]

end Arriving

/-! ## The main statement -/

/-- A gap moves the position of the text segment to its end, and from there it goes onward. -/
theorem onward_after_gap (s : Session) (rasterizer : Rasterizer) (start : ClockTime)
    (duration : Option ClockTime) (during : List Step)
    (hduring : ∀ step ∈ during, step.setsTextSegment = false) :
    let s' := (s.run rasterizer (.textEvent (.gap start duration) :: during)).1
    s.overlay.textSegment.Onward s'.overlay.textSegment ∧
      StreamEvent.gapStop start duration ≤ s'.overlay.textSegment.position := by
  intro s'
  have hrest : (s.step rasterizer (.textEvent (.gap start duration))).1.overlay.textSegment.Onward
      s'.overlay.textSegment := run_onward _ rasterizer during hduring
  -- right after the event, before those who wait look
  have hlook : (s.overlay.textSegment.advance (StreamEvent.gapStop start duration)).Onward
      (s.step rasterizer (.textEvent (.gap start duration))).1.overlay.textSegment := by
    have hstored := (wakeText_wake
      { s with overlay := (s.overlay.textEvent (.gap start duration)).1 }).onward
    rw [step_of_wake rfl, (wakeFrame_wake _ rasterizer).textSegment]
    exact hstored
  have hadvanced := hlook.trans hrest
  exact ⟨(s.overlay.textSegment.onward_advance _).trans hadvanced,
    Nat.le_trans (Nat.le_max_right _ _) hadvanced.position_le⟩

/-- **Gaps release the frames that they cover, until the position has left the segment.**  A gap
ends in or after the text segment of a connected session, which is played at normal speed, and no
segment is set afterwards.  A frame that ends no later than the gap, within the segment, waits
then only if the position of the text has no running time any more, which means that it has come
past the end of the segment or past the last clock time; and if it has, such a frame waits like
any other. -/
theorem gap_forgotten_iff {start last : ClockTime} {duration : Option ClockTime}
    {during : List Step} (hconnected : s.overlay.flow.textConnected = true)
    (hrate : s.overlay.textSegment.rate = 1.0)
    (hstart : s.overlay.textSegment.start ≤ StreamEvent.gapStop start duration)
    (hlast : s.overlay.textSegment.runningTime
      (s.overlay.textSegment.lastBy (StreamEvent.gapStop start duration)) = some last)
    (hduring : ∀ step ∈ during, step.setsTextSegment = false) :
    let segment := s.overlay.textSegment
    let s' := (s.run rasterizer (.textEvent (.gap start duration) :: during)).1
    let o := s'.overlay
    (o.textSegment.positionRunningTime = none ↔
        (∃ stop, segment.stop = some stop ∧ stop < o.textSegment.position) ∨
          ClockTime.limit ≤ o.textSegment.position - segment.start + segment.base) ∧
      (∀ call, s'.frame = some call → call.span.stop ≤ last →
        o.textSegment.positionRunningTime = none) ∧
      ∀ item call, s'.frame = none → o.admitFrame item = .admitted call →
        call.span.stop ≤ last →
          ((s'.step rasterizer (.frame item)).1.frame.isSome = true →
            o.textSegment.positionRunningTime = none) ∧
          (o.slot = none → o.textSegment.positionRunningTime = none →
            ((s'.step rasterizer (.frame item)).1.frame = some call ↔
              call.config.silent = false ∧ o.flow.textEnded = false ∧
                o.config.waitText = true ∧
                ∀ t, segment.startRunningTime = some t → t < call.span.stop)) := by
  intro segment s' o
  obtain ⟨honward, hpassed⟩ := s.onward_after_gap rasterizer start duration during hduring
  have hbounds : o.textSegment = segment.moveTo o.textSegment.position := by
    obtain ⟨q, -, hq⟩ := honward
    exact hq.trans (congrArg (segment.moveTo ·.position) hq).symm
  -- a position with a running time has passed all that the gap covers
  have hpast : ∀ t, o.textSegment.positionRunningTime = some t → last ≤ t :=
    fun t => Segment.le_of_onward hrate honward hpassed hlast
  have hahead : s'.Ahead := by
    have hgap : (s.step rasterizer (.textEvent (.gap start duration))).1.Ahead := by
      rw [step_of_wake rfl]
      exact (wakeFrame_wake _ rasterizer).isAhead
    exact run_ahead hgap during hduring
  have hlost : ∀ stop, stop ≤ last →
      (∀ t, o.textSegment.positionRunningTime = some t → t < stop) →
      o.textSegment.positionRunningTime = none := by
    intro stop hstop hbefore
    refine Option.eq_none_iff_forall_ne_some.mpr fun t ht => ?_
    exact Nat.lt_irrefl last (Nat.lt_of_le_of_lt (hpast t ht)
      (Nat.lt_of_lt_of_le (hbefore t ht) hstop))
  have hstartTime : o.textSegment.startRunningTime = segment.startRunningTime :=
    (congrArg Segment.startRunningTime hbounds).trans rfl
  refine ⟨?_, ?_, ?_⟩
  · have htime : segment.isTime = true := by
      obtain ⟨hcovers, -, -⟩ := (Segment.runningTime_eq_some_iff hrate).mp hlast
      exact (Bool.and_eq_true_iff.mp (Bool.and_eq_true_iff.mp hcovers).1).1
    rw [congrArg Segment.positionRunningTime hbounds]
    exact Segment.positionRunningTime_eq_none_iff hrate htime (Nat.le_trans hstart hpassed)
  · intro call hcall hstop
    exact hlost _ hstop (hahead call hcall)
  · intro item call hfree hadmission hstop
    refine ⟨fun hwaits => ?_, fun hslot hnone => ?_⟩
    · obtain ⟨-, hwaiting⟩ := ahead_of_step_frame hfree hadmission hwaits
      obtain ⟨-, -, -, -, hposition⟩ := Overlay.isTextPast_eq_false_iff.mp hwaiting
      exact hlost _ hstop hposition
    · have hkept : o.flow.textConnected = true := by
        refine (run_connected s rasterizer _ ?_).trans hconnected
        exact List.forall_mem_cons.mpr ⟨rfl, hduring⟩
      rw [step_frame_eq_some_iff hfree hadmission hslot,
        Overlay.isTextPast_eq_false_iff_of_lost hkept hnone, hstartTime]

/-- A frame from `start` to `stop`. -/
def shot (start stop : ClockTime) : VideoItem :=
  ⟨some start, some (stop - start), .black ⟨.gray8, 2, 1, 0, 1, Nat.zero_lt_two, Nat.zero_lt_one⟩⟩

/-- A session with a text segment up to 100 in which a frame waits that ends at 40. -/
def expecting : Session :=
  (initial.run Rasterizer.white
    [.connect true, .textEvent (.segment (.between 0 (some 100))), .frame (shot 0 40)]).1

/-- After a gap up to 60 a second one reaches past the end of the segment, and the next frame
waits although it ends at 60. -/
theorem second_gap_forgets :
    let s' := (expecting.run Rasterizer.white
      [.textEvent (.gap 0 (some 60)), .textEvent (.gap 60 (some 90)), .frame (shot 40 60)]).1
    expecting.overlay.flow.textConnected = true ∧
      expecting.overlay.textSegment.rate = 1.0 ∧
      expecting.overlay.textSegment.start ≤ StreamEvent.gapStop 0 (some 60) ∧
      expecting.overlay.textSegment.runningTime
        (expecting.overlay.textSegment.lastBy (StreamEvent.gapStop 0 (some 60))) = some 60 ∧
      ∃ call, s'.frame = some call ∧ call.span.stop ≤ 60 ∧
        s'.overlay.textSegment.positionRunningTime = none :=
  have hsteps : ∀ step ∈ [Step.textEvent (.gap 60 (some 90)), .frame (shot 40 60)],
      step.setsTextSegment = false :=
    List.forall_mem_cons.mpr ⟨rfl, List.forall_mem_singleton.mpr rfl⟩
  ⟨rfl, rfl, by decide, rfl, _, rfl, by decide,
    (gap_forgotten_iff rfl rfl (by decide) rfl hsteps).2.1 _ rfl (by decide)⟩

/-- A frame that ends at 40 goes on waiting after a gap up to 200, since that leads out of the
segment. -/
theorem frame_outwaits_gap :
    expecting.overlay.flow.textConnected = true ∧
      expecting.overlay.textSegment.rate = 1.0 ∧
      expecting.overlay.textSegment.start ≤ StreamEvent.gapStop 0 (some 200) ∧
      expecting.overlay.textSegment.runningTime
        (expecting.overlay.textSegment.lastBy (StreamEvent.gapStop 0 (some 200))) = some 100 ∧
      ∃ call, (expecting.step Rasterizer.white (.textEvent (.gap 0 (some 200)))).1.frame =
          some call ∧ call.span.stop ≤ 100 :=
  ⟨rfl, rfl, by decide, rfl, _, rfl, by decide⟩

end Session

end Captioning
