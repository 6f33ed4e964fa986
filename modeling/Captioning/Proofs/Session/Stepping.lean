import Captioning.Overlay.Session
import Captioning.Proofs.Overlay.Looking

/-!
# The parts of a step

A step of a session first does what it is asked to do, and then, if there is a signal, those who
wait look again: the caption, which may become pending, and after it the frame.
-/

namespace Captioning

/-! ## Control -/

/-- The steps that bring no data, with the overlay and the signal that each of them leaves. -/
inductive Overlay.Control (o : Overlay) : Step → Overlay → Signal → Prop
  | videoEvent (event : StreamEvent) :
      Control o (.videoEvent event) (o.videoEvent event).1 (o.videoEvent event).2
  | textEvent (event : StreamEvent) :
      Control o (.textEvent event) (o.textEvent event).1 (o.textEvent event).2
  | transit (transition : Transition) :
      Control o (.transit transition) (o.transit transition).1 (o.transit transition).2
  | connect (on : Bool) : Control o (.connect on) (o.connect on).1 .wake
  | attach (on : Bool) : Control o (.attach on) (o.setAttach on) .quiet
  | configure (config : Config) : Control o (.configure config) (o.configure config).1 .quiet
  | provide (provider : TextProvider) : Control o (.provide provider) (o.provide provider) .quiet

namespace Overlay

variable {o : Overlay}

@[simp] theorem configure_slot (config : Config) : (o.configure config).1.slot = o.slot := by
  unfold configure
  split
  · split <;> rfl
  · rfl

@[simp] theorem configure_flow (config : Config) : (o.configure config).1.flow = o.flow := by
  unfold configure
  split
  · split <;> rfl
  · rfl

@[simp] theorem configure_textSegment (config : Config) :
    (o.configure config).1.textSegment = o.textSegment := by
  unfold configure
  split
  · split <;> rfl
  · rfl

end Overlay

namespace Session

variable {s s' : Session} {rasterizer : Rasterizer} {step : Step} {signal : Signal}
  {report : Report}

/-! ## The entry of a step -/

theorem step_of_quiet (h : s.enter rasterizer step = (s', .quiet, report)) :
    s.step rasterizer step = (s', report) := by
  simp only [Session.step, h, conclude]

theorem step_of_wake (h : s.enter rasterizer step = (s', .wake, report)) :
    s.step rasterizer step = ((s'.wakeText.1.wakeFrame rasterizer).1,
      ⟨report.reply, report.video.or (s'.wakeText.1.wakeFrame rasterizer).2,
        report.text.or s'.wakeText.2⟩) := by
  simp only [Session.step, h, conclude, settle]

/-- A frame that comes to its end when no other one is on its way changes nothing but the
overlay. -/
theorem enter_frame_of_schedule {item : VideoItem} {o : Overlay} {result : FrameResult}
    (hfree : s.frame = none) (h : s.overlay.schedule rasterizer item = (o, signal, .done result)) :
    s.enter rasterizer (.frame item) =
      ({ s with overlay := o }, signal, ⟨.done, some result, none⟩) := by
  have hbusy : s.frame.isSome = false := by rw [hfree]; rfl
  simp only [enter, hbusy, Bool.false_eq_true, if_false, h]

theorem step_frame_of_schedule {item : VideoItem} {o : Overlay} {result : FrameResult}
    (hfree : s.frame = none)
    (h : s.overlay.schedule rasterizer item = (o, .quiet, .done result)) :
    s.step rasterizer (.frame item) = ({ s with overlay := o }, ⟨.done, some result, none⟩) :=
  step_of_quiet (enter_frame_of_schedule hfree h)

/-- What the entry of a step can do. -/
inductive Entry (s : Session) (rasterizer : Rasterizer) :
    Step → Session → Signal → Report → Prop
  | busyFrame {item : VideoItem} (frame : s.frame.isSome = true) :
      Entry s rasterizer (.frame item) s .quiet ⟨.busy, none, none⟩
  | frame {item : VideoItem} {o : Overlay} {signal : Signal} {result : FrameResult}
      (free : s.frame = none)
      (arrival : s.overlay.Arrival rasterizer item o signal (.done result)) :
      Entry s rasterizer (.frame item) { s with overlay := o } signal ⟨.done, some result, none⟩
  | blockedFrame {item : VideoItem} {o : Overlay} {signal : Signal} {call : FrameCall}
      (free : s.frame = none) (arrival : s.overlay.Arrival rasterizer item o signal (.waits call)) :
      Entry s rasterizer (.frame item) { s with overlay := o, frame := some call } signal
        ⟨.done, none, none⟩
  | busyText {item : TextItem} (text : s.text.isSome = true) :
      Entry s rasterizer (.text item) s .quiet ⟨.busy, none, none⟩
  | refusedText {item : TextItem} {error : CaptionError} (free : s.text = none)
      (admission : s.overlay.admitText item = .error error) :
      Entry s rasterizer (.text item) s .quiet ⟨.done, none, some (.error error)⟩
  | discardedText {item : TextItem} (free : s.text = none)
      (admission : s.overlay.admitText item = .ok none) :
      Entry s rasterizer (.text item) s .quiet ⟨.done, none, some (.ok ())⟩
  | blockedText {item part : TextItem} (free : s.text = none)
      (admission : s.overlay.admitText item = .ok (some part))
      (slot : s.overlay.slot.isSome = true) :
      Entry s rasterizer (.text item) { s with text := some part } .quiet ⟨.done, none, none⟩
  | storedText {item part : TextItem} (free : s.text = none)
      (admission : s.overlay.admitText item = .ok (some part)) (slot : s.overlay.slot = none) :
      Entry s rasterizer (.text item) { s with overlay := s.overlay.store part } .wake
        ⟨.done, none, some (.ok ())⟩
  | control {step : Step} {o : Overlay} {signal : Signal} {reply : Reply}
      (control : s.overlay.Control step o signal) :
      Entry s rasterizer step { s with overlay := o } signal ⟨reply, none, none⟩

theorem enter_entry (s : Session) (rasterizer : Rasterizer) (step : Step) :
    s.Entry rasterizer step (s.enter rasterizer step).1 (s.enter rasterizer step).2.1
      (s.enter rasterizer step).2.2 := by
  cases step with
  | frame item =>
      simp only [enter]
      split
      next hframe => exact .busyFrame hframe
      next hframe =>
        have hfree : s.frame = none := by simpa using hframe
        have harrival := s.overlay.schedule_arrival rasterizer item
        revert harrival
        obtain ⟨o, signal, progress⟩ := s.overlay.schedule rasterizer item
        cases progress with
        | done result => exact fun harrival => .frame hfree harrival
        | waits call => exact fun harrival => .blockedFrame hfree harrival
  | text item =>
      simp only [enter]
      split
      next htext => exact .busyText htext
      next htext =>
        have hfree : s.text = none := by simpa using htext
        split
        next error hadmission => exact .refusedText hfree hadmission
        next hadmission => exact .discardedText hfree hadmission
        next part hadmission =>
          split
          next hslot => exact .blockedText hfree hadmission hslot
          next hslot => exact .storedText hfree hadmission (by simpa using hslot)
  | videoEvent event => exact .control (.videoEvent event)
  | textEvent event => exact .control (.textEvent event)
  | transit transition => exact .control (.transit transition)
  | connect on => exact .control (.connect on)
  | attach on => exact .control (.attach on)
  | configure config => exact .control (.configure config)
  | provide provider => exact .control (.provide provider)

theorem exists_entry (s : Session) (rasterizer : Rasterizer) (step : Step) :
    ∃ s' signal report, s.enter rasterizer step = (s', signal, report) ∧
      s.Entry rasterizer step s' signal report :=
  ⟨_, _, _, rfl, s.enter_entry rasterizer step⟩

/-! ## Looking again -/

/-- What a waiting caption can do when it looks again. -/
inductive TextWake (s : Session) : Session → Option TextResult → Prop
  | idle (text : s.text = none) : TextWake s s none
  | flushed {item : TextItem} (text : s.text = some item)
      (flushing : s.overlay.flow.textFlushing = true) :
      TextWake s { s with text := none } (some (.error .flushing))
  | blocked {item : TextItem} (text : s.text = some item)
      (flushing : s.overlay.flow.textFlushing = false) (slot : s.overlay.slot.isSome = true) :
      TextWake s s none
  | stored {item : TextItem} (text : s.text = some item)
      (flushing : s.overlay.flow.textFlushing = false) (slot : s.overlay.slot = none) :
      TextWake s { s with overlay := s.overlay.store item, text := none } (some (.ok ()))

/-- What a waiting frame can do when it looks again. -/
inductive FrameWake (s : Session) (rasterizer : Rasterizer) :
    Session → Option FrameResult → Prop
  | idle (frame : s.frame = none) : FrameWake s rasterizer s none
  | done {call : FrameCall} {o : Overlay} {signal : Signal} {result : FrameResult}
      (frame : s.frame = some call)
      (turn : s.overlay.Turn rasterizer call o signal (some result)) :
      FrameWake s rasterizer { s with overlay := o, frame := none } (some result)
  | waits {call : FrameCall} {o : Overlay} {signal : Signal} (frame : s.frame = some call)
      (turn : s.overlay.Turn rasterizer call o signal none) :
      FrameWake s rasterizer { s with overlay := o } none

theorem wakeText_of_none (h : s.text = none) : s.wakeText = (s, none) := by
  simp only [wakeText, h]

theorem wakeFrame_of_none (h : s.frame = none) : s.wakeFrame rasterizer = (s, none) := by
  simp only [wakeFrame, h]

theorem wakeText_wake (s : Session) : s.TextWake s.wakeText.1 s.wakeText.2 := by
  unfold wakeText
  split
  next htext => exact .idle htext
  next item htext =>
    split
    next hflushing => exact .flushed htext hflushing
    next hflushing =>
      have hopen : s.overlay.flow.textFlushing = false := by simpa using hflushing
      split
      next hslot => exact .blocked htext hopen hslot
      next hslot => exact .stored htext hopen (by simpa using hslot)

theorem wakeFrame_wake (s : Session) (rasterizer : Rasterizer) :
    s.FrameWake rasterizer (s.wakeFrame rasterizer).1 (s.wakeFrame rasterizer).2 := by
  unfold wakeFrame
  split
  next hframe => exact .idle hframe
  next call hframe =>
    have hturn := s.overlay.proceed_turn rasterizer call
    revert hturn
    obtain ⟨o, signal, result⟩ := s.overlay.proceed rasterizer call
    cases result with
    | some result => exact fun hturn => .done hframe hturn
    | none => exact fun hturn => .waits hframe hturn

theorem TextWake.frame {result : Option TextResult} (h : s.TextWake s' result) :
    s'.frame = s.frame := by
  cases h <;> rfl

theorem FrameWake.text {result : Option FrameResult} (h : s.FrameWake rasterizer s' result) :
    s'.text = s.text := by
  cases h <;> rfl

theorem TextWake.flow {result : Option TextResult} (h : s.TextWake s' result) :
    s'.overlay.flow = s.overlay.flow := by
  cases h <;> rfl

theorem FrameWake.flow {result : Option FrameResult} (h : s.FrameWake rasterizer s' result) :
    s'.overlay.flow = s.overlay.flow := by
  cases h with
  | idle frame => rfl
  | done frame turn => exact turn.flow
  | waits frame turn => exact turn.flow

/-! ## Runs -/

theorem run_append (s : Session) (rasterizer : Rasterizer) (first second : List Step) :
    s.run rasterizer (first ++ second) =
      (((s.run rasterizer first).1.run rasterizer second).1,
        (s.run rasterizer first).2 ++ ((s.run rasterizer first).1.run rasterizer second).2) := by
  induction first generalizing s with
  | nil => rfl
  | cons step first ih => simp only [List.cons_append, run, ih]

theorem run_snoc (s : Session) (rasterizer : Rasterizer) (steps : List Step) (step : Step) :
    (s.run rasterizer (steps ++ [step])).1 =
      ((s.run rasterizer steps).1.step rasterizer step).1 := by
  rw [run_append]
  rfl

theorem run_invariant (keeps : Session → Prop)
    (hstep : ∀ s step, keeps s → keeps (s.step rasterizer step).1) (steps : List Step)
    (h : keeps s) : keeps (s.run rasterizer steps).1 := by
  induction steps generalizing s with
  | nil => exact h
  | cons step steps ih => exact ih (hstep s step h)

end Session

end Captioning
