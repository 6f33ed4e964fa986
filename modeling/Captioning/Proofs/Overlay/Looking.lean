import Captioning.Overlay.Scheduling

/-!
# What a frame can meet

A frame that looks at the pending caption comes to one of five results: the video input takes no
data, no caption is pending and the text is past the frame, no caption is pending and the frame
waits, the caption comes later, or the caption is shown.  A caption that has ended leaves first,
and then none is pending.  `Overlay.Turn` lists these results together with the overlay that they
leave behind, and `Overlay.Arrival` lists what can become of a frame at its arrival.

Everything that is kept by all frames is proved from these two lists, so that the definitions of
`lookAt`, `finish`, `proceed` and `schedule` are opened only here.
-/

namespace Captioning

/-! ## How captions lie to frames -/

section Classify

variable {text frame : TimeSpan}

theorem classify_eq_stale_iff :
    classify (some text) frame = .stale ↔ text.stop ≤ frame.start := by
  by_cases hstale : text.stop ≤ frame.start
  · simp [classify, hstale]
  · by_cases hfuture : frame.stop ≤ text.start <;> simp [classify, hstale, hfuture]

theorem classify_eq_future_iff :
    classify (some text) frame = .future ↔ frame.start < text.stop ∧ frame.stop ≤ text.start := by
  by_cases hstale : text.stop ≤ frame.start
  · simp [classify, hstale, Nat.not_lt.mpr hstale]
  · by_cases hfuture : frame.stop ≤ text.start <;>
      simp [classify, hstale, hfuture, Nat.not_le.mp hstale]

theorem classify_eq_current_iff {consumed : Bool} :
    classify (some text) frame = .current consumed ↔
      frame.start < text.stop ∧ text.start < frame.stop ∧
        decide (text.stop ≤ frame.stop) = consumed := by
  by_cases hstale : text.stop ≤ frame.start
  · simp [classify, hstale, Nat.not_lt.mpr hstale]
  · by_cases hfuture : frame.stop ≤ text.start
    · simp [classify, hstale, hfuture, Nat.not_lt.mpr hfuture]
    · simp [classify, hstale, hfuture, Nat.not_le.mp hstale, Nat.not_le.mp hfuture]

theorem classify_ne_untimed : classify (some text) frame ≠ .untimed := by
  by_cases hstale : text.stop ≤ frame.start
  · simp [classify, hstale]
  · by_cases hfuture : frame.stop ≤ text.start <;> simp [classify, hstale, hfuture]

end Classify

/-- The decision of a verdict. -/
def Verdict.decision? : Verdict → Option Decision
  | .decided d => some d
  | _ => none

namespace Overlay

variable {o o' : Overlay} {rasterizer : Rasterizer} {call : FrameCall} {signal : Signal}

/-! ## What stays the same -/

section Frame

variable (o) (text : List Char) (item : TextItem) (info : VideoInfo) (start : ClockTime)
  (d : Decision)

@[simp] theorem reach_cache : (o.reach start).cache = o.cache := rfl

@[simp] theorem store_slot : (o.store item).slot = some item := rfl

@[simp] theorem finish_flow : (o.finish rasterizer call d).1.flow = o.flow := by
  cases d with
  | passthrough => rfl
  | overlay text consume => cases consume <;> rfl

theorem finish_overlay_slot (consume : Bool) :
    (o.finish rasterizer call (.overlay text consume)).1.slot =
      if consume then none else o.slot := by
  cases consume <;> rfl

theorem finish_overlay_cache (consume : Bool) :
    (o.finish rasterizer call (.overlay text consume)).1.cache =
      (o.cache.render rasterizer text (o.config.textStyle call.item.payload.info.width
        call.item.payload.info.height true)).1 := by
  cases consume <;> rfl

/-- A text that is shown leaves the overlay with its image, and without the pending caption if
that is consumed. -/
theorem finish_overlay_fst (consume : Bool) :
    (o.finish rasterizer call (.overlay text consume)).1 =
      (if consume then (o.composeText rasterizer text call.item.payload.info).1.release
        else (o.composeText rasterizer text call.item.payload.info).1).reach call.start := by
  cases consume <;> rfl

theorem finish_overlay_frame (consume : Bool) :
    (o.finish rasterizer call (.overlay text consume)).2.2 =
      compose call o.attach (o.composeText rasterizer text call.item.payload.info).2 := rfl

/-- An image that can be made is placed on the frame. -/
theorem composeText_of_ok {image : RenderedImage}
    (h : (o.cache.render rasterizer text
      (o.config.textStyle info.width info.height true)).2 = .ok image) :
    (o.composeText rasterizer text info).2 =
      some ⟨image,
        (o.config.layout.place image.raster.width image.raster.height image.raster.baseline
          info.width info.height).1,
        (o.config.layout.place image.raster.width image.raster.height image.raster.baseline
          info.width info.height).2⟩ := by
  simp only [composeText, h]

theorem composeText_of_error {error : CaptionError}
    (h : (o.cache.render rasterizer text
      (o.config.textStyle info.width info.height true)).2 = .error error) :
    (o.composeText rasterizer text info).2 = none := by
  simp only [composeText, h]

theorem finish_overlay_signal (consume : Bool) :
    (o.finish rasterizer call (.overlay text consume)).2.1 =
      if consume then .wake else .quiet := rfl

end Frame

/-! ## Looking at the pending caption -/

/-- No caption is pending any more: none was, or the one that was has ended. -/
inductive Cleared (o : Overlay) (span : TimeSpan) : Overlay → Signal → Prop
  | empty (slot : o.slot = none) : Cleared o span o .quiet
  | stale {item : TextItem} (slot : o.slot = some item)
      (overlap : classify (o.textSegment.span? item) span = .stale) :
      Cleared o span o.release .wake

/-- What a frame can come to when it looks at the pending caption. -/
inductive Turn (o : Overlay) (rasterizer : Rasterizer) (call : FrameCall) :
    Overlay → Signal → Option FrameResult → Prop
  | refused {error : CaptionError} (fault : o.flow.videoFault? = some error) :
      Turn o rasterizer call o .quiet (some (.error error))
  | passed {o' : Overlay} {signal : Signal} (fault : o.flow.videoFault? = none)
      (cleared : o.Cleared call.span o' signal) (past : o'.isTextPast call.span.stop = true) :
      Turn o rasterizer call (o'.reach call.start) signal
        (some (.ok (some ⟨call.item, .passthrough⟩)))
  | waits {o' : Overlay} {signal : Signal} (fault : o.flow.videoFault? = none)
      (cleared : o.Cleared call.span o' signal) (ahead : o'.isTextPast call.span.stop = false) :
      Turn o rasterizer call o' signal none
  | future {item : TextItem} (fault : o.flow.videoFault? = none) (slot : o.slot = some item)
      (overlap : classify (o.textSegment.span? item) call.span = .future) :
      Turn o rasterizer call (o.reach call.start) .quiet
        (some (.ok (some ⟨call.item, .passthrough⟩)))
  | shown {item : TextItem} {consume : Bool} (fault : o.flow.videoFault? = none)
      (slot : o.slot = some item)
      (overlap : classify (o.textSegment.span? item) call.span = .untimed ∧ consume = true ∨
        classify (o.textSegment.span? item) call.span = .current consume) :
      Turn o rasterizer call
        (o.finish rasterizer call (.overlay item.payload.prepare consume)).1
        (o.finish rasterizer call (.overlay item.payload.prepare consume)).2.1
        (some (.ok (some
          (o.finish rasterizer call (.overlay item.payload.prepare consume)).2.2)))

theorem Cleared.slot {span : TimeSpan} (h : o.Cleared span o' signal) : o'.slot = none := by
  cases h with
  | empty slot => exact slot
  | stale slot overlap => rfl

theorem Cleared.flow {span : TimeSpan} (h : o.Cleared span o' signal) : o'.flow = o.flow := by
  cases h <;> rfl

theorem Cleared.cache {span : TimeSpan} (h : o.Cleared span o' signal) : o'.cache = o.cache := by
  cases h <;> rfl

private theorem cleared_turn (hfault : o.flow.videoFault? = none)
    (hcleared : o.Cleared call.span o' signal)
    (hlook : o.lookAt call.span = (o', signal, o'.verdictAlone call.span.stop)) :
    o.Turn rasterizer call (o.proceed rasterizer call).1 (o.proceed rasterizer call).2.1
      (o.proceed rasterizer call).2.2 := by
  unfold proceed
  rw [hlook]
  cases hpast : o'.isTextPast call.span.stop with
  | true =>
      have hsignal : Signal.both signal .quiet = signal := by cases signal <;> rfl
      simp only [verdictAlone, hpast, if_true, finish, hsignal]
      exact .passed hfault hcleared hpast
  | false =>
      simp only [verdictAlone, hpast]
      exact .waits hfault hcleared hpast

/-- A frame that looks at the pending caption comes to one of the listed results. -/
theorem proceed_turn (o : Overlay) (rasterizer : Rasterizer) (call : FrameCall) :
    o.Turn rasterizer call (o.proceed rasterizer call).1 (o.proceed rasterizer call).2.1
      (o.proceed rasterizer call).2.2 := by
  -- in the order of the looks: the fault, the pending caption, and how it lies to the frame
  cases hfault : o.flow.videoFault? with
  | some error =>
      simp only [proceed, lookAt, hfault]
      exact .refused hfault
  | none =>
      cases hslot : o.slot with
      | none =>
          exact cleared_turn hfault (.empty hslot) (by simp only [lookAt, hfault, hslot])
      | some item =>
          cases hoverlap : classify (o.textSegment.span? item) call.span with
          | stale =>
              exact cleared_turn hfault (.stale hslot hoverlap)
                (by simp only [lookAt, hfault, hslot, hoverlap])
          | future =>
              simp only [proceed, lookAt, hfault, hslot, hoverlap, finish, Signal.both]
              exact .future hfault hslot hoverlap
          | untimed =>
              simp only [proceed, lookAt, hfault, hslot, hoverlap, Signal.both]
              exact .shown hfault hslot (.inl ⟨hoverlap, rfl⟩)
          | current consumed =>
              simp only [proceed, lookAt, hfault, hslot, hoverlap, Signal.both]
              exact .shown hfault hslot (.inr hoverlap)

/-- A frame that finds nothing changes nothing. -/
theorem proceed_of_empty (hfault : o.flow.videoFault? = none) (hslot : o.slot = none)
    (hahead : o.isTextPast call.span.stop = false) :
    o.proceed rasterizer call = (o, .quiet, none) := by
  simp [proceed, lookAt, hfault, hslot, verdictAlone, hahead]

namespace Turn

variable {result : Option FrameResult}

theorem flow (h : o.Turn rasterizer call o' signal result) : o'.flow = o.flow := by
  cases h with
  | refused fault => rfl
  | passed fault cleared past => exact cleared.flow
  | waits fault cleared ahead => exact cleared.flow
  | future fault slot overlap => rfl
  | shown fault slot overlap => simp

theorem slot_of_quiet (h : o.Turn rasterizer call o' .quiet result) : o'.slot = o.slot := by
  generalize hsignal : Signal.quiet = signal at h
  cases h with
  | refused fault => rfl
  | passed fault cleared past =>
      cases cleared with
      | empty slot => rfl
      | stale slot overlap => cases hsignal
  | waits fault cleared ahead =>
      cases cleared with
      | empty slot => rfl
      | stale slot overlap => cases hsignal
  | future fault slot overlap => rfl
  | @shown item consume fault slot overlap =>
      rw [finish_overlay_signal] at hsignal
      cases consume with
      | true => cases hsignal
      | false => exact finish_overlay_slot o _ false

end Turn

/-! ## Arrivals -/

/-- What can become of a frame at its arrival. -/
inductive Arrival (o : Overlay) (rasterizer : Rasterizer) (item : VideoItem) :
    Overlay → Signal → Progress → Prop
  | dropped (admission : o.admitFrame item = .dropped) :
      Arrival o rasterizer item o .quiet (.done (.ok none))
  | refused {error : CaptionError} (admission : o.admitFrame item = .refused error) :
      Arrival o rasterizer item o .quiet (.done (.error error))
  | unclocked {part : VideoItem} {start : ClockTime}
      (admission : o.admitFrame item = .unclocked part start) :
      Arrival o rasterizer item (o.reach start) .quiet
        (.done (.ok (some ⟨part, .passthrough⟩)))
  | silent {call : FrameCall} (admission : o.admitFrame item = .admitted call)
      (silent : call.config.silent = true) :
      Arrival o rasterizer item (o.reach call.start) .quiet
        (.done (.ok (some ⟨call.item, .passthrough⟩)))
  | provided {call : FrameCall} (admission : o.admitFrame item = .admitted call)
      (silent : call.config.silent = false) (connected : o.flow.textConnected = false)
      (d : Decision) (keeps : ∀ text consume, d = .overlay text consume → consume = false)
      (alone : o.decisionAlone? call = some d) :
      Arrival o rasterizer item (o.finish rasterizer call d).1 .quiet
        (.done (.ok (some (o.finish rasterizer call d).2.2)))
  | decided {call : FrameCall} {o' : Overlay} {signal : Signal} {result : FrameResult}
      (admission : o.admitFrame item = .admitted call) (silent : call.config.silent = false)
      (connected : o.flow.textConnected = true)
      (turn : o.Turn rasterizer call o' signal (some result)) :
      Arrival o rasterizer item o' signal (.done result)
  | waits {call : FrameCall} {o' : Overlay} {signal : Signal}
      (admission : o.admitFrame item = .admitted call) (silent : call.config.silent = false)
      (connected : o.flow.textConnected = true)
      (turn : o.Turn rasterizer call o' signal none) :
      Arrival o rasterizer item o' signal (.waits call)

private theorem finish_signal_of_keeps {d : Decision}
    (keeps : ∀ text consume, d = .overlay text consume → consume = false) :
    (o.finish rasterizer call d).2.1 = .quiet := by
  cases d with
  | passthrough => rfl
  | overlay text consume =>
      rw [finish_overlay_signal, keeps text consume rfl]
      rfl

/-- An arriving frame meets one of the listed ends. -/
theorem schedule_arrival (o : Overlay) (rasterizer : Rasterizer) (item : VideoItem) :
    o.Arrival rasterizer item (o.schedule rasterizer item).1
      (o.schedule rasterizer item).2.1 (o.schedule rasterizer item).2.2 := by
  cases hadmission : o.admitFrame item with
  | dropped =>
      simp only [schedule, hadmission]
      exact .dropped hadmission
  | refused error =>
      simp only [schedule, hadmission]
      exact .refused hadmission
  | unclocked part start =>
      simp only [schedule, hadmission]
      exact .unclocked hadmission
  | admitted call =>
      cases hsilent : call.config.silent with
      | true =>
          simp only [schedule, hadmission, decisionAlone?, providedDecision?, hsilent, if_true,
            finish]
          exact .silent hadmission hsilent
      | false =>
          cases hconnected : o.flow.textConnected with
          | false =>
              -- a text that is no pending caption cannot be consumed
              have keeps : ∀ text consume,
                  (if (o.provider.text call.start (some call.span.start) call.config).isEmpty
                    then Decision.passthrough
                    else .overlay (o.provider.text call.start (some call.span.start)
                      call.config) false) = .overlay text consume → consume = false := by
                intro text consume h
                split at h
                · cases h
                · cases h; rfl
              simp only [schedule, hadmission, decisionAlone?, providedDecision?, hsilent,
                hconnected, Bool.false_eq_true, if_false, finish_signal_of_keeps keeps]
              refine .provided hadmission hsilent hconnected _ keeps ?_
              simp [decisionAlone?, providedDecision?, hsilent, hconnected]
          | true =>
              have hturn := o.proceed_turn rasterizer call
              simp only [schedule, hadmission, decisionAlone?, providedDecision?, hsilent,
                hconnected, Bool.false_eq_true, if_false, if_true]
              revert hturn
              obtain ⟨seen, signal, result⟩ := o.proceed rasterizer call
              cases result with
              | none => exact fun hturn => .waits hadmission hsilent hconnected hturn
              | some result => exact fun hturn => .decided hadmission hsilent hconnected hturn

/-! ## Decisions -/

/-- What is decided upon a frame when it arrives, if something is. -/
def decision? (o : Overlay) (item : VideoItem) : Option (FrameCall × Decision) :=
  match o.admitFrame item with
  | .admitted call =>
      ((o.decisionAlone? call).or (o.lookAt call.span).2.2.decision?).map fun d => (call, d)
  | _ => none

/-- A look changes nothing but the pending caption. -/
theorem lookAt_fst (o : Overlay) (span : TimeSpan) :
    ∃ slot, (o.lookAt span).1 = { o with slot := slot } := by
  unfold lookAt
  split
  · exact ⟨o.slot, rfl⟩
  · split
    · exact ⟨o.slot, rfl⟩
    · split
      · exact ⟨none, rfl⟩
      all_goals exact ⟨o.slot, rfl⟩

theorem decisionAlone?_eq_none_iff :
    o.decisionAlone? call = none ↔
      call.config.silent = false ∧ o.flow.textConnected = true := by
  unfold decisionAlone? providedDecision?
  cases hsilent : call.config.silent <;> cases hconnected : o.flow.textConnected <;> simp

theorem admitted_of_decision? {item : VideoItem} {d : Decision}
    (h : o.decision? item = some (call, d)) : o.admitFrame item = .admitted call := by
  unfold decision? at h
  split at h
  next call' hadmission =>
    obtain ⟨d', -, hcall⟩ := Option.map_eq_some_iff.mp h
    obtain ⟨rfl, -⟩ := Prod.mk.inj hcall
    exact hadmission
  next _ => cases h

end Overlay

end Captioning
