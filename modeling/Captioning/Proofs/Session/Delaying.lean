import Captioning.Proofs.Overlay.Delaying
import Captioning.Proofs.Session.Captions
import Captioning.Proofs.Session.Overflowing
import Captioning.Proofs.Session.Segments

/-!
# Sessions with streams that come later

Each of the two inputs may count its timestamps from anywhere, as long as its segment says so.
This file compares a session in which both inputs count from zero with one in which each of them
begins with an open segment at some other timestamp and has all its timestamps later by as much.
After every step the second session is the first one, later, and it answers the same, with the
frames later.  It overflows where the first one does.

## Strategy

The two sessions are related by a function, `Session.delayed`, so that the simulation is one
equation for the entry of a step, one for each of the two looks, and one for the step.  They need
that no end of an item leads past the last clock time, for the items of the steps and for those
that are in the session; the latter were admitted before (`Session.Entry.mem_captions`), so this
holds along a run.
-/

namespace Captioning

/-- The event of a stream that comes later by `d`. -/
def StreamEvent.delayed (event : StreamEvent) (d : ClockTime) : StreamEvent :=
  match event with
  | .segment s => .segment (s.delayed d)
  | .gap start duration => .gap (start + d) duration
  | event => event

/-- The step when both streams come later. -/
def Step.delayed (step : Step) (d : Delay) : Step :=
  match step with
  | .frame item => .frame (item.delayed d.video)
  | .text item => .text (item.delayed d.text)
  | .videoEvent event => .videoEvent (event.delayed d.video)
  | .textEvent event => .textEvent (event.delayed d.text)
  | step => step

/-- No end that the step names or makes the overlay estimate leads past the last clock time when
both streams come later. -/
def Step.Bears (step : Step) (d : Delay) : Prop :=
  match step with
  | .frame item => FrameBears item d.video
  | .text item => item.Bears d.text
  | .textEvent (.gap start duration) =>
      ∀ length ∈ duration, start + length + d.text < ClockTime.limit
  | _ => True

/-- The report when both streams come later: frames leave later. -/
def Report.delayed (report : Report) (d : Delay) : Report :=
  { report with video := report.video.map (FrameResult.delayed · d.video) }

namespace Overlay

variable {o : Overlay} {d : Delay}

theorem textEvent_delayed {event : StreamEvent}
    (hsets : (Step.textEvent event).setsTextSegment = false)
    (hbears : (Step.textEvent event).Bears d) :
    (o.delayed d).textEvent (event.delayed d.text) =
      ((o.textEvent event).1.delayed d, (o.textEvent event).2) := by
  cases event with
  | segment new => cases hsets
  | gap start duration =>
      have hstop : StreamEvent.gapStop (start + d.text) duration =
          StreamEvent.gapStop start duration + d.text := by
        cases duration with
        | none => rfl
        | some length =>
            have hlimit : start + length + d.text < ClockTime.limit := hbears length rfl
            have hsum : start + d.text + length = start + length + d.text :=
              Nat.add_right_comm start d.text length
            -- no end is moved to the last clock time
            have hsaturates {n : Nat} (h : n < ClockTime.limit) : min n (ClockTime.limit - 1) = n :=
              Nat.min_eq_left (Nat.le_sub_one_of_lt h)
            simp only [StreamEvent.gapStop, ClockTime.addSaturating, hsum]
            rw [hsaturates hlimit,
              hsaturates (Nat.lt_of_le_of_lt (Nat.le_add_right _ d.text) hlimit)]
      have hadvance := o.textSegment.advance_delayed d.text (StreamEvent.gapStop start duration)
      simp only [textEvent, StreamEvent.delayed, delayed, hstop, hadvance]
  | flushStart => rfl
  | flushStop => cases hsets
  | eos => rfl

theorem videoEvent_delayed {event : StreamEvent}
    (hsets : (Step.videoEvent event).setsVideoSegment = false) :
    (o.delayed d).videoEvent (event.delayed d.video) =
      ((o.videoEvent event).1.delayed d, (o.videoEvent event).2) := by
  cases event with
  | segment new => cases hsets
  | flushStop => cases hsets
  | gap start duration => rfl
  | flushStart => rfl
  | eos => rfl

theorem transit_delayed {transition : Transition}
    (hsets : (Step.transit transition).setsTextSegment = false) :
    (o.delayed d).transit transition =
      ((o.transit transition).1.delayed d, (o.transit transition).2) := by
  cases transition with
  | start => cases hsets
  | halt => rfl

theorem configure_delayed (config : Config) : (o.delayed d).configure config =
    ((o.configure config).1.delayed d, (o.configure config).2) := by
  have hconfig : (o.delayed d).config = o.config := rfl
  unfold configure
  rw [hconfig]
  cases config.check with
  | error error => rfl
  | ok valid =>
      dsimp only
      split <;> rfl

end Overlay

namespace Session

variable {s s' : Session} {rasterizer : Rasterizer} {step : Step} {steps : List Step} {d : Delay}

/-- The session when both streams come later. -/
def delayed (s : Session) (d : Delay) : Session where
  overlay := s.overlay.delayed d
  frame := s.frame.map (·.delayed d.video)
  text := s.text.map (·.delayed d.text)

theorem delayed_overlay (s : Session) (d : Delay) :
    (s.delayed d).overlay = s.overlay.delayed d := rfl

/-- A session with open segments in which no end leads past the last clock time when both streams
come later.  The video segment begins at zero, so that a frame of unknown end is not cut. -/
structure Bears (s : Session) (d : Delay) : Prop where
  connected : s.overlay.flow.textConnected = true
  videoStart : s.overlay.videoSegment.start = 0
  videoOpen : s.overlay.videoSegment.stop = none
  textOpen : s.overlay.textSegment.stop = none
  captions : ∀ item ∈ s.captions, item.Bears d.text

theorem Bears.pending (h : s.Bears d) : ∀ item ∈ s.overlay.slot, item.Bears d.text :=
  fun item hitem => h.captions item (mem_captions.mpr (.inl hitem))

/-! ## The parts of a step -/

theorem enter_delayed (rasterizer : Rasterizer) (hs : s.Bears d)
    (hvideo : step.setsVideoSegment = false) (htext : step.setsTextSegment = false)
    (hstep : step.Bears d) :
    (s.delayed d).enter rasterizer (step.delayed d) =
      ((s.enter rasterizer step).1.delayed d, (s.enter rasterizer step).2.1,
        (s.enter rasterizer step).2.2.delayed d) := by
  have hframe : (s.delayed d).frame.isSome = s.frame.isSome := Option.isSome_map
  have hwaiting : (s.delayed d).text.isSome = s.text.isSome := Option.isSome_map
  have hslot : (s.delayed d).overlay.slot.isSome = s.overlay.slot.isSome := Option.isSome_map
  cases step with
  | frame item =>
      have hschedule := Overlay.schedule_delayed rasterizer d hs.videoOpen hs.videoStart
        hs.connected hs.pending hstep
      simp only [enter, Step.delayed, hframe]
      split
      · rfl
      · simp only [delayed_overlay, hschedule]
        obtain ⟨o, signal, progress⟩ := s.overlay.schedule rasterizer item
        cases progress <;> rfl
  | text item =>
      have hadmission := Overlay.admitText_delayed (o := s.overlay) d hstep
      simp only [enter, Step.delayed, hwaiting, hslot]
      split
      · rfl
      · simp only [delayed_overlay, hadmission]
        rcases s.overlay.admitText item with error | part?
        · rfl
        · cases part? with
          | none => rfl
          | some part =>
              simp only [Except.map, Option.map_some, Overlay.store_delayed]
              split <;> rfl
  | videoEvent event =>
      simp only [enter, Step.delayed]
      rw [delayed_overlay, Overlay.videoEvent_delayed hvideo]
      rfl
  | textEvent event =>
      simp only [enter, Step.delayed]
      rw [delayed_overlay, Overlay.textEvent_delayed htext hstep]
      rfl
  | transit transition =>
      simp only [enter, Step.delayed]
      rw [delayed_overlay, Overlay.transit_delayed htext]
      rfl
  | connect on => cases htext
  | attach on => rfl
  | configure config =>
      simp only [enter, Step.delayed]
      rw [delayed_overlay, Overlay.configure_delayed]
      rfl
  | provide provider => rfl

theorem wakeText_delayed (s : Session) (d : Delay) :
    (s.delayed d).wakeText = (s.wakeText.1.delayed d, s.wakeText.2) := by
  obtain ⟨o, frame, text⟩ := s
  cases text with
  | none => rfl
  | some item =>
      have hflow : (o.delayed d).flow = o.flow := rfl
      have hslot : (o.delayed d).slot.isSome = o.slot.isSome := Option.isSome_map
      simp only [wakeText, delayed, Option.map_some, hflow, hslot, Overlay.store_delayed]
      split
      · rfl
      · split <;> rfl

theorem wakeFrame_delayed (hslot : ∀ item ∈ s.overlay.slot, item.Bears d.text) :
    (s.delayed d).wakeFrame rasterizer = ((s.wakeFrame rasterizer).1.delayed d,
      (s.wakeFrame rasterizer).2.map (FrameResult.delayed · d.video)) := by
  obtain ⟨o, frame, text⟩ := s
  cases frame with
  | none => rfl
  | some call =>
      have hproceed := Overlay.proceed_delayed rasterizer call d hslot
      simp only [wakeFrame, delayed, Option.map_some, hproceed]
      obtain ⟨seen, signal, result⟩ := o.proceed rasterizer call
      cases result <;> rfl

/-! ## Sessions that bear a delay -/

theorem Entry.bears {signal : Signal} {report : Report}
    (h : s.Entry rasterizer step s' signal report) (hs : s.Bears d)
    (hvideo : step.setsVideoSegment = false) (htext : step.setsTextSegment = false)
    (hstep : step.Bears d) : s'.Bears d := by
  obtain ⟨p, hmoved⟩ := h.videoSegment hvideo
  obtain ⟨q, -, honward⟩ := h.onward htext
  refine ⟨(h.connected htext).trans hs.connected, ?_, ?_, ?_, ?_⟩
  · rw [hmoved]
    exact hs.videoStart
  · rw [hmoved]
    exact hs.videoOpen
  · rw [honward]
    exact hs.textOpen
  · intro part hpart
    rcases h.mem_captions hpart with hbefore | ⟨item, rfl, hadmission⟩
    · exact hs.captions part hbefore
    · exact Overlay.bears_of_admitText hs.textOpen hstep hadmission

theorem TextWake.bears {result : Option TextResult} (h : s.TextWake s' result)
    (hs : s.Bears d) : s'.Bears d := by
  obtain ⟨q, -, honward⟩ := h.onward
  refine ⟨?_, h.videoSegment ▸ hs.videoStart, h.videoSegment ▸ hs.videoOpen, ?_, fun part hpart =>
    hs.captions part (h.mem_captions hpart)⟩
  · rw [h.flow]
    exact hs.connected
  · rw [honward]
    exact hs.textOpen

theorem FrameWake.bears {result : Option FrameResult} (h : s.FrameWake rasterizer s' result)
    (hs : s.Bears d) : s'.Bears d := by
  obtain ⟨p, hmoved⟩ := h.videoSegment
  refine ⟨?_, ?_, ?_, h.textSegment ▸ hs.textOpen, fun part hpart =>
    hs.captions part (h.mem_captions hpart)⟩
  · rw [h.flow]
    exact hs.connected
  · rw [hmoved]
    exact hs.videoStart
  · rw [hmoved]
    exact hs.videoOpen

theorem step_bears (rasterizer : Rasterizer) (hs : s.Bears d)
    (hvideo : step.setsVideoSegment = false) (htext : step.setsTextSegment = false)
    (hstep : step.Bears d) : (s.step rasterizer step).1.Bears d := by
  obtain ⟨s', signal, report, henter, hentry⟩ := s.exists_entry rasterizer step
  have hentered := hentry.bears hs hvideo htext hstep
  cases signal with
  | quiet =>
      rw [step_of_quiet henter]
      exact hentered
  | wake =>
      rw [step_of_wake henter]
      exact (s'.wakeText.1.wakeFrame_wake rasterizer).bears (s'.wakeText_wake.bears hentered)

/-! ## Steps and runs -/

theorem step_delayed (hs : s.Bears d) (hvideo : step.setsVideoSegment = false)
    (htext : step.setsTextSegment = false) (hstep : step.Bears d) :
    (s.delayed d).step rasterizer (step.delayed d) =
      ((s.step rasterizer step).1.delayed d, (s.step rasterizer step).2.delayed d) := by
  have hlate := enter_delayed rasterizer hs hvideo htext hstep
  obtain ⟨s', signal, report, henter, hentry⟩ := s.exists_entry rasterizer step
  rw [henter] at hlate
  cases signal with
  | quiet => rw [step_of_quiet hlate, step_of_quiet henter]
  | wake =>
      -- the captions that the frame may find were there before, or came with the step
      have hstored := s'.wakeText_wake.bears (hentry.bears hs hvideo htext hstep)
      rw [step_of_wake hlate, step_of_wake henter, wakeText_delayed,
        wakeFrame_delayed hstored.pending]
      have hor (a b : Option FrameResult) :
          (a.map (FrameResult.delayed · d.video)).or (b.map (FrameResult.delayed · d.video)) =
            (a.or b).map (FrameResult.delayed · d.video) := by
        cases a <;> rfl
      simp only [Report.delayed, hor]

private theorem entryOverflow?_delayed (rasterizer : Rasterizer) (hs : s.Bears d)
    (hstep : step.Bears d) :
    (s.delayed d).entryOverflow? rasterizer (step.delayed d) =
      s.entryOverflow? rasterizer step := by
  cases step with
  | frame item =>
      have hframe : (s.delayed d).frame.isSome = s.frame.isSome := Option.isSome_map
      have harrival := Overlay.arrivalOverflow?_delayed rasterizer d hs.videoOpen hs.videoStart
        hs.connected hs.pending hstep
      simp only [entryOverflow?, Step.delayed, arrivalOverflow?, hframe]
      rw [← harrival]
      rfl
  | _ => rfl

private theorem wakeOverflow?_delayed (hslot : ∀ item ∈ s.overlay.slot, item.Bears d.text) :
    (s.delayed d).wakeOverflow? rasterizer = s.wakeOverflow? rasterizer := by
  obtain ⟨o, frame, text⟩ := s
  cases frame with
  | none => rfl
  | some call =>
      exact Overlay.lookOverflow?_delayed rasterizer call.item.payload.info call.config d hslot
        call.span

/-- A step overflows in both sessions or in none. -/
theorem overflow?_delayed (hs : s.Bears d) (hvideo : step.setsVideoSegment = false)
    (htext : step.setsTextSegment = false) (hstep : step.Bears d) :
    (s.delayed d).overflow? rasterizer (step.delayed d) = s.overflow? rasterizer step := by
  have hlate := enter_delayed rasterizer hs hvideo htext hstep
  obtain ⟨s', signal, report, henter, hentry⟩ := s.exists_entry rasterizer step
  rw [henter] at hlate
  have hbegins := entryOverflow?_delayed rasterizer hs hstep
  cases signal with
  | quiet => rw [overflow?_of_quiet hlate, overflow?_of_quiet henter, hbegins]
  | wake =>
      have hstored := s'.wakeText_wake.bears (hentry.bears hs hvideo htext hstep)
      rw [overflow?_of_wake hlate, overflow?_of_wake henter, hbegins, wakeText_delayed,
        wakeOverflow?_delayed hstored.pending]

theorem attempts_delayed (rasterizer : Rasterizer) (hs : s.Bears d)
    (hsteps : ∀ step ∈ steps, step.setsVideoSegment = false ∧ step.setsTextSegment = false ∧
      step.Bears d) :
    (s.delayed d).attempts rasterizer (steps.map (·.delayed d)) =
      (s.attempts rasterizer steps).map fun (last, reports) =>
        (last.delayed d, reports.map (·.delayed d)) := by
  induction steps generalizing s with
  | nil => rfl
  | cons step steps ih =>
      obtain ⟨⟨hvideo, htext, hstep⟩, hrest⟩ := List.forall_mem_cons.mp hsteps
      have hafter := ih (step_bears rasterizer hs hvideo htext hstep) hrest
      simp only [List.map_cons, attempts_cons, overflow?_delayed hs hvideo htext hstep,
        step_delayed hs hvideo htext hstep, hafter]
      cases s.overflow? rasterizer step with
      | some overflow => rfl
      | none => cases (s.step rasterizer step).1.attempts rasterizer steps <;> rfl

/-! ## The main statement -/

/-- A session in which nothing has come yet, with a text input that is open. -/
structure Untouched (s : Session) : Prop where
  connected : s.overlay.flow.textConnected = true
  textOpen : s.overlay.flow.textEnded = false
  videoSegment : s.overlay.videoSegment = .whole
  textSegment : s.overlay.textSegment = .whole
  slot : s.overlay.slot = none
  frame : s.frame = none
  text : s.text = none

/-- The steps that open both segments at other timestamps. -/
def opening (d : Delay) : List Step :=
  [.textEvent (.segment (.between d.text none)), .videoEvent (.segment (.between d.video none))]

theorem Untouched.bears (h : s.Untouched) (d : Delay) : s.Bears d where
  connected := h.connected
  videoStart := by rw [h.videoSegment]; rfl
  videoOpen := by rw [h.videoSegment]; rfl
  textOpen := by rw [h.textSegment]; rfl
  captions := by simp [captions, h.slot, h.text]

/-- Opening both segments at other timestamps delays a session in which nothing has come yet. -/
theorem Untouched.attempts_opening (h : s.Untouched) (rasterizer : Rasterizer) (d : Delay) :
    s.attempts rasterizer (opening d) =
      .ok (s.delayed d, [⟨.done, none, none⟩, ⟨.done, none, none⟩]) := by
  obtain ⟨⟨⟨_, _, _, textEnded, _⟩, videoSegment, textSegment, slot, _, _, _, _, _⟩,
    frame, text⟩ := s
  obtain ⟨_, rfl, rfl, rfl, rfl, rfl, rfl⟩ := h
  have hadopt (start : ClockTime) : Segment.whole.adopt (.between start none) =
      Segment.whole.delayed start := by
    rw [Segment.adopt, Segment.isUsable_between, if_pos rfl, Segment.between_eq_delayed]
  -- nobody waits, so both events only set their segment
  simp only [opening, attempts_cons, overflow?, entryOverflow?, wakeOverflow?, step, enter,
    conclude, settle, wakeText, wakeFrame, Overlay.textEvent, Overlay.videoEvent, hadopt, delayed,
    Overlay.delayed, Option.map_none, Option.bind_none, attempts_nil, Except.map, Option.or_none]

/-- **Invariance under delays.**  In a session in which nothing has come yet the text segment is
opened at one timestamp and the video segment at another.  Whatever is done then, as long as no
segment is set, all timestamps of a stream may come later by as much as its segment begins, if no
end that is named or estimated leads past the last clock time.  The same overflows in both sessions,
if anything does.  Otherwise after every step both inputs have the same flags, the same calls wait,
and a caption is pending in both sessions or in none, in the same place of the stream; the same
images have been made; and all answers are the same, with the frames later. -/
theorem delay_invariance {s : Session} (hs : s.Untouched) (rasterizer : Rasterizer) (d : Delay)
    (steps : List Step) (hsteps : ∀ step ∈ steps, step.setsVideoSegment = false ∧
      step.setsTextSegment = false ∧ step.Bears d) :
    ∃ opened answers, s.attempts rasterizer (opening d) = .ok (opened, answers) ∧
      (∀ overflow, opened.attempts rasterizer (steps.map (·.delayed d)) = .error overflow ↔
        s.attempts rasterizer steps = .error overflow) ∧
      ∀ base reports, s.attempts rasterizer steps = .ok (base, reports) →
        ∃ late, opened.attempts rasterizer (steps.map (·.delayed d)) =
            .ok (late, reports.map (·.delayed d)) ∧
          late.overlay.flow = base.overlay.flow ∧
          late.overlay.slot = base.overlay.slot.map (·.delayed d.text) ∧
          late.frame.isSome = base.frame.isSome ∧
          late.text.isSome = base.text.isSome ∧
          late.overlay.cache = base.overlay.cache ∧
          late.overlay.config = base.overlay.config ∧
          late.overlay.state = base.overlay.state := by
  have hlate := attempts_delayed rasterizer (hs.bears d) hsteps
  refine ⟨s.delayed d, _, hs.attempts_opening rasterizer d, ?_, ?_⟩
  · intro overflow
    rw [hlate]
    cases s.attempts rasterizer steps <;> simp [Except.map]
  · intro base reports hbase
    rw [hbase] at hlate
    exact ⟨base.delayed d, hlate, rfl, rfl, Option.isSome_map, Option.isSome_map, rfl, rfl, rfl⟩

/-- Captions count from ten seconds on, frames from one hundred nanoseconds on.  A frame that does
not say how long it lasts waits for its caption, another one for the end of a gap. -/
theorem delayed_frames_wait :
    let s := (initial.run Rasterizer.white [.connect true]).1
    let d : Delay := ⟨10 * ClockTime.second, 100⟩
    let picture : VideoFrame := .black ⟨.gray8, 2, 1, 0, 1, by decide, by decide⟩
    let steps : List Step := [.frame ⟨some 0, none, picture⟩,
      .text ⟨some 0, some 40, .ofString "a" .plain⟩, .frame ⟨some 40, some 40, picture⟩,
      .textEvent (.gap 40 (some 40)), .textEvent .eos]
    s.Untouched ∧ (∀ step ∈ steps, step.setsVideoSegment = false ∧
        step.setsTextSegment = false ∧ step.Bears d) ∧
      ∃ (base opened late : Session) (reports : List Report),
        s.attempts Rasterizer.white steps = .ok (base, reports) ∧
        opened.attempts Rasterizer.white (steps.map (·.delayed d)) =
          .ok (late, reports.map (·.delayed d)) := by
  intro s d picture steps
  have hs : s.Untouched := ⟨rfl, rfl, rfl, rfl, rfl, rfl, rfl⟩
  have hsteps : ∀ step ∈ steps, step.setsVideoSegment = false ∧
      step.setsTextSegment = false ∧ step.Bears d := by
    simp only [steps, List.forall_mem_cons, Step.Bears, StreamItem.Bears]
    refine ⟨⟨rfl, rfl, ?_, ?_⟩, ⟨rfl, rfl, ?_⟩, ⟨rfl, rfl, ?_, ?_⟩, ⟨rfl, rfl, ?_⟩,
      ⟨rfl, rfl, trivial⟩, List.forall_mem_nil _⟩
    · intro stop hstop
      cases hstop
    · intro pts hpts _
      obtain rfl := Option.some.inj hpts
      decide
    · intro stop hstop
      obtain ⟨-, rfl⟩ := ClockTime.add?_eq_some_iff.mp hstop
      decide
    · intro stop hstop
      obtain ⟨-, rfl⟩ := ClockTime.add?_eq_some_iff.mp hstop
      decide
    · intro pts hpts hstop
      cases hstop
    · intro length hlength
      obtain rfl : 40 = length := Option.some.inj hlength
      decide
  have hbase : s.attempts Rasterizer.white steps = .ok (s.run Rasterizer.white steps) :=
    attempts_eq_run (by decide +kernel)
  obtain ⟨opened, answers, -, -, hlate⟩ := delay_invariance hs Rasterizer.white d steps hsteps
  obtain ⟨late, hlate, -⟩ := hlate _ _ hbase
  exact ⟨hs, hsteps, _, opened, late, _, hbase, hlate⟩

end Session

end Captioning
