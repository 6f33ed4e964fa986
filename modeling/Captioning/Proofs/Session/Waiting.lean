import Captioning.Proofs.Segment.Whole
import Captioning.Proofs.Session.Stepping

/-!
# Nobody waits in vain

Those who wait look again only after a signal.  This file proves that no signal is missing: in
every state that a session can reach, a waiting caption finds the slot taken, and a waiting frame
finds nothing that would let it go on.

## Strategy

`Session.Settled` is kept by every step.  A step with a signal ends with both looks, and a look
that ends in waiting has just checked the condition of the wait (`settle_settled`).  A step
without a signal changes nothing that a wait depends on (`Control.starved`,
`Turn.slot_of_quiet`), with one exception: a start replaces both segments.  The new text segment
begins at running time zero, which is why the last two conditions are about frames that end
later than that.
-/

namespace Captioning

/-- Nothing that a frame waits for which ends at `stop` has happened. -/
structure Overlay.Starved (o : Overlay) (stop : ClockTime) : Prop where
  slot : o.slot = none
  connected : o.flow.textConnected = true
  videoFlushing : o.flow.videoFlushing = false
  videoEnded : o.flow.videoEnded = false
  textEnded : o.flow.textEnded = false
  start : 0 < stop → ∀ t, o.textSegment.startRunningTime = some t → t < stop
  position : 0 < stop → ∀ t, o.textSegment.positionRunningTime = some t → t < stop

namespace Overlay

variable {o o' : Overlay} {rasterizer : Rasterizer} {call : FrameCall} {signal : Signal}
  {stop : ClockTime}

/-! ## Frames that wait -/

theorem videoFault?_eq_none_iff (f : Flow) :
    f.videoFault? = none ↔ f.videoFlushing = false ∧ f.videoEnded = false := by
  cases hflushing : f.videoFlushing <;> cases hended : f.videoEnded <;>
    simp [Flow.videoFault?, hflushing, hended]

theorem isTextPast_eq_false_iff : o.isTextPast stop = false ↔
    o.flow.textEnded = false ∧ o.flow.textConnected = true ∧ o.config.waitText = true ∧
      (∀ t, o.textSegment.startRunningTime = some t → t < stop) ∧
      (∀ t, o.textSegment.positionRunningTime = some t → t < stop) := by
  simp only [isTextPast, Bool.or_eq_false_iff, Bool.not_eq_false', Option.any_eq_false,
    decide_eq_false_iff_not, Nat.not_le, and_assoc]

/-- A frame that has to wait has nothing to go on with. -/
theorem Turn.starved (h : o.Turn rasterizer call o' signal none) :
    o'.Starved call.span.stop := by
  cases h with
  | waits fault cleared ahead =>
      obtain ⟨hended, hconnected, -, hstart, hposition⟩ := isTextPast_eq_false_iff.mp ahead
      rw [← cleared.flow, videoFault?_eq_none_iff] at fault
      exact ⟨cleared.slot, hconnected, fault.1, fault.2, hended, fun _ => hstart,
        fun _ => hposition⟩

theorem Turn.ahead (h : o.Turn rasterizer call o' signal none) :
    o'.isTextPast call.span.stop = false := by
  cases h with
  | waits fault cleared ahead => exact ahead

/-- Control without a signal gives a waiting frame nothing to go on with. -/
theorem Control.starved {step : Step} (h : o.Control step o' .quiet) (hstarved : o.Starved stop) :
    o'.Starved stop := by
  obtain ⟨slot, connected, videoFlushing, videoEnded, textEnded, start, position⟩ := hstarved
  generalize hsignal : Signal.quiet = signal at h
  cases h with
  | videoEvent event =>
      cases event with
      | segment new =>
          exact ⟨slot, connected, videoFlushing, videoEnded, textEnded, start, position⟩
      | gap first duration =>
          exact ⟨slot, connected, videoFlushing, videoEnded, textEnded, start, position⟩
      | flushStart => cases hsignal
      | flushStop => cases hsignal
      | eos => cases hsignal
  | textEvent event => cases event <;> cases hsignal
  | transit transition =>
      cases transition with
      | halt => cases hsignal
      | start =>
          -- both positions of the new segment have running time zero
          refine ⟨slot, connected, rfl, rfl, rfl, ?_, ?_⟩
          · intro hstop t ht
            rw [Segment.runningTime_whole_eq ht]
            exact hstop
          · intro hstop t ht
            rw [Segment.runningTime_whole_eq ht]
            exact hstop
  | connect on => cases hsignal
  | attach on => exact ⟨slot, connected, videoFlushing, videoEnded, textEnded, start, position⟩
  | configure config =>
      refine ⟨?_, ?_, ?_, ?_, ?_, ?_, ?_⟩
      all_goals simpa
  | provide provider =>
      exact ⟨slot, connected, videoFlushing, videoEnded, textEnded, start, position⟩

theorem Control.slot_of_quiet {step : Step} (h : o.Control step o' .quiet) :
    o'.slot = o.slot := by
  generalize hsignal : Signal.quiet = signal at h
  cases h with
  | videoEvent event => cases event <;> first | rfl | cases hsignal
  | textEvent event => cases event <;> cases hsignal
  | transit transition => cases transition <;> first | rfl | cases hsignal
  | connect on => cases hsignal
  | attach on => rfl
  | configure config => simp
  | provide provider => rfl

theorem Control.textFlushing_of_quiet {step : Step} (h : o.Control step o' .quiet)
    (hopen : o.flow.textFlushing = false) : o'.flow.textFlushing = false := by
  generalize hsignal : Signal.quiet = signal at h
  cases h with
  | videoEvent event => cases event <;> exact hopen
  | textEvent event => cases event <;> cases hsignal
  | transit transition => cases transition <;> first | rfl | cases hsignal
  | connect on => cases hsignal
  | attach on => exact hopen
  | configure config => simpa
  | provide provider => exact hopen

theorem Arrival.flow {item : VideoItem} {progress : Progress}
    (h : o.Arrival rasterizer item o' signal progress) : o'.flow = o.flow := by
  cases h with
  | dropped admission => rfl
  | refused admission => rfl
  | unclocked admission => rfl
  | silent admission silent => rfl
  | provided admission silent connected d keeps => simp
  | decided admission silent connected turn => exact turn.flow
  | waits admission silent connected turn => exact turn.flow

theorem Arrival.slot_of_quiet {item : VideoItem} {progress : Progress}
    (h : o.Arrival rasterizer item o' .quiet progress) : o'.slot = o.slot := by
  generalize hsignal : Signal.quiet = signal at h
  cases h with
  | dropped admission => rfl
  | refused admission => rfl
  | unclocked admission => rfl
  | silent admission silent => rfl
  | provided admission silent connected d keeps =>
      cases d with
      | passthrough => rfl
      | overlay text consume =>
          rw [finish_overlay_slot, keeps text consume rfl]
          rfl
  | decided admission silent connected turn =>
      subst hsignal
      exact turn.slot_of_quiet
  | waits admission silent connected turn =>
      subst hsignal
      exact turn.slot_of_quiet

end Overlay

namespace Session

variable {s s' : Session} {rasterizer : Rasterizer} {step : Step} {signal : Signal}
  {report : Report}

/-! ## Settled sessions -/

/-- At most one call waits, and it has reason to. -/
structure Settled (s : Session) : Prop where
  apart : s.frame = none ∨ s.text = none
  text : ∀ item, s.text = some item →
    s.overlay.slot.isSome = true ∧ s.overlay.flow.textFlushing = false
  frame : ∀ call, s.frame = some call → s.overlay.Starved call.span.stop

theorem initial_settled : initial.Settled where
  apart := .inl rfl
  text := by simp [initial]
  frame := by simp [initial]

private theorem TextWake.waits {result : Option TextResult} (hwake : s.TextWake s' result)
    (h : s.frame = none ∨ s.text = none ∨ s.overlay.slot = none) :
    (s'.frame = none ∨ s'.text = none) ∧ ∀ item, s'.text = some item →
      s'.overlay.slot.isSome = true ∧ s'.overlay.flow.textFlushing = false := by
  cases hwake with
  | idle text =>
      refine ⟨.inr text, ?_⟩
      intro item hitem
      simp [text] at hitem
  | flushed text flushing => exact ⟨.inr rfl, by simp⟩
  | blocked text flushing slot =>
      refine ⟨.inl ?_, fun item _ => ⟨slot, flushing⟩⟩
      rcases h with hframe | htext | hslot
      · exact hframe
      · simp [text] at htext
      · simp [hslot] at slot
  | stored text flushing slot => exact ⟨.inr rfl, by simp⟩

private theorem FrameWake.settled {result : Option FrameResult}
    (hwake : s.FrameWake rasterizer s' result) (hapart : s.frame = none ∨ s.text = none)
    (htext : ∀ item, s.text = some item →
      s.overlay.slot.isSome = true ∧ s.overlay.flow.textFlushing = false) : s'.Settled := by
  cases hwake with
  | idle frame =>
      refine ⟨hapart, htext, ?_⟩
      intro call hcall
      simp [frame] at hcall
  | done frame turn =>
      have hnone : s.text = none := by simpa [frame] using hapart
      refine ⟨.inl rfl, ?_, by simp⟩
      intro item hitem
      simp [hnone] at hitem
  | @waits call o signal frame turn =>
      have hnone : s.text = none := by simpa [frame] using hapart
      refine ⟨.inr hnone, ?_, ?_⟩
      · intro item hitem
        simp [hnone] at hitem
      · intro other hother
        have hsame : call = other := Option.some.inj (frame.symm.trans hother)
        rw [← hsame]
        exact turn.starved

/-- After both looks a session is settled, unless a frame and a caption wait although a caption
is pending. -/
theorem settle_settled (s : Session) (rasterizer : Rasterizer)
    (h : s.frame = none ∨ s.text = none ∨ s.overlay.slot = none) :
    (s.wakeText.1.wakeFrame rasterizer).1.Settled := by
  obtain ⟨hapart, htext⟩ := s.wakeText_wake.waits h
  exact (s.wakeText.1.wakeFrame_wake rasterizer).settled hapart htext

theorem FrameWake.ahead {result : Option FrameResult}
    (hwake : s.FrameWake rasterizer s' result) (call : FrameCall) (hcall : s'.frame = some call) :
    s'.overlay.isTextPast call.span.stop = false := by
  cases hwake with
  | idle frame => simp [frame] at hcall
  | done frame turn => simp at hcall
  | waits frame turn =>
      obtain rfl := Option.some.inj (frame.symm.trans hcall)
      exact turn.ahead

/-- The entry of a step leaves no frame and caption that wait although a caption is pending. -/
private theorem Entry.apart (h : s.Entry rasterizer step s' signal report) (hs : s.Settled)
    (hsignal : signal = .wake) :
    s'.frame = none ∨ s'.text = none ∨ s'.overlay.slot = none := by
  cases h with
  | busyFrame frame => cases hsignal
  | frame free arrival => exact .inl free
  | blockedFrame free arrival =>
      cases arrival with
      | waits admission silent connected turn => exact .inr (.inr turn.starved.slot)
  | busyText text => cases hsignal
  | refusedText free admission => cases hsignal
  | discardedText free admission => cases hsignal
  | blockedText free admission slot => cases hsignal
  | storedText free admission slot => exact .inr (.inl free)
  | control control =>
      rcases hs.apart with hframe | htext
      · exact .inl hframe
      · exact .inr (.inl htext)

/-- Without a signal the entry of a step keeps a session settled. -/
private theorem Entry.settled (h : s.Entry rasterizer step s' signal report) (hs : s.Settled)
    (hsignal : signal = .quiet) : s'.Settled := by
  cases h with
  | busyFrame frame => exact hs
  | frame free arrival =>
      subst hsignal
      refine ⟨.inl free, ?_, fun call hcall => by simp [free] at hcall⟩
      intro item hitem
      rw [arrival.slot_of_quiet, arrival.flow]
      exact hs.text item hitem
  | blockedFrame free arrival =>
      subst hsignal
      cases harrival : arrival with
      | waits admission silent connected turn =>
          -- a waiting caption would have to be waiting for an empty slot
          have hslot : s.overlay.slot = none := turn.slot_of_quiet ▸ turn.starved.slot
          have htext : s.text = none := by
            cases htext : s.text with
            | none => rfl
            | some item =>
                have := (hs.text item htext).1
                simp [hslot] at this
          refine ⟨.inr htext, fun item hitem => by simp [htext] at hitem, ?_⟩
          intro call hcall
          obtain rfl := Option.some.inj hcall
          exact turn.starved
  | busyText text => exact hs
  | refusedText free admission => exact hs
  | discardedText free admission => exact hs
  | blockedText free admission slot =>
      have hopen : s.overlay.flow.textFlushing = false := by
        cases hflushing : s.overlay.flow.textFlushing with
        | false => rfl
        | true => simp [Overlay.admitText, Flow.textFault?, hflushing] at admission
      have hframe : s.frame = none := by
        cases hframe : s.frame with
        | none => rfl
        | some call => simp [(hs.frame call hframe).slot] at slot
      exact ⟨.inl hframe, fun item _ => ⟨slot, hopen⟩, fun call hcall => by
        simp [hframe] at hcall⟩
  | storedText free admission slot => cases hsignal
  | control control =>
      subst hsignal
      refine ⟨hs.apart, ?_, fun call hcall => control.starved (hs.frame call hcall)⟩
      intro item hitem
      rw [control.slot_of_quiet]
      exact ⟨(hs.text item hitem).1, control.textFlushing_of_quiet (hs.text item hitem).2⟩

theorem step_settled (hs : s.Settled) (step : Step) : (s.step rasterizer step).1.Settled := by
  obtain ⟨s', signal, report, henter, hentry⟩ := s.exists_entry rasterizer step
  cases signal with
  | quiet =>
      rw [step_of_quiet henter]
      exact hentry.settled hs rfl
  | wake =>
      rw [step_of_wake henter]
      exact settle_settled s' rasterizer (hentry.apart hs rfl)

theorem run_settled (rasterizer : Rasterizer) (steps : List Step) :
    (initial.run rasterizer steps).1.Settled :=
  run_invariant Settled (fun _ step hs => step_settled hs step) steps initial_settled

/-! ## The main statement -/

/-- **Nobody waits in vain.**  After every step of every session a frame and a caption do not
wait both.  A waiting caption finds the slot taken and no flush of the text input.  A waiting
frame that does not end at running time zero finds the slot empty, the text input connected,
neither a flush nor an end that would turn it away or let it pass, and the text not past it. -/
theorem waiting_has_reason (rasterizer : Rasterizer) (steps : List Step) :
    let s := (initial.run rasterizer steps).1
    ¬ (s.frame.isSome ∧ s.text.isSome) ∧
      (s.text.isSome → s.overlay.slot.isSome ∧ s.overlay.flow.textFlushing = false) ∧
      ∀ call, s.frame = some call → 0 < call.span.stop →
        s.overlay.slot = none ∧ s.overlay.flow.textConnected = true ∧
          s.overlay.flow.videoFlushing = false ∧ s.overlay.flow.videoEnded = false ∧
          s.overlay.flow.textEnded = false ∧
          (∀ t, s.overlay.textSegment.startRunningTime = some t → ¬ call.span.stop ≤ t) ∧
          (∀ t, s.overlay.textSegment.positionRunningTime = some t → ¬ call.span.stop ≤ t) := by
  intro s
  have hs : s.Settled := run_settled rasterizer steps
  refine ⟨?_, ?_, ?_⟩
  · rintro ⟨hframe, htext⟩
    rcases hs.apart with hnone | hnone
    · simp [hnone] at hframe
    · simp [hnone] at htext
  · intro htext
    obtain ⟨item, hitem⟩ := Option.isSome_iff_exists.mp htext
    exact hs.text item hitem
  · intro call hcall hstop
    have hstarved := hs.frame call hcall
    refine ⟨hstarved.slot, hstarved.connected, hstarved.videoFlushing, hstarved.videoEnded,
      hstarved.textEnded, ?_, ?_⟩
    · intro t ht
      exact Nat.not_le.mpr (hstarved.start hstop t ht)
    · intro t ht
      exact Nat.not_le.mpr (hstarved.position hstop t ht)

end Session

end Captioning
