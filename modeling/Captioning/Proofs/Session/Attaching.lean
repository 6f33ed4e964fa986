import Captioning.Proofs.Overlay.Overflowing
import Captioning.Proofs.Render.Depiction
import Captioning.Proofs.Session.Calls
import Captioning.Proofs.Session.Overflowing

/-!
# Attaching images and drawing them

Whether images stay beside the frames or are drawn into them is a setting of its own.  This file
compares a session in which all images are attached with one in which the same is done and all
images are drawn.  They stay in the same state up to that setting, and whoever draws the images of
the first one into its frames gets the bytes of the second one.

## Strategy

`Overlay.Counterpart` relates two overlays that differ in the setting.  Each function of a session
keeps it, and the results for frames compare as `Tallies` says; one lemma for each function leads
to `Session.Counterpart.step` and `Session.Counterpart.run`.

Whether the box behind a text is darkened is not part of what is attached.  It comes from the
configuration that the frame was admitted under, which may have been replaced since, and so the
result is traced back to the delivery of its frame (`Session.exists_serves`).

What overflows is compared along the same functions.  An image is made before it is attached or
drawn, so a session that draws overflows where one that attaches does (`Exceeds`).  Besides that it
overflows at one place, which is known from the frame that carries the image: the box behind it
(`Clashes`).
-/

namespace Captioning

/-- The step, except that the choice between attaching and drawing is made by `on`. -/
def Step.attaching (on : Bool) : Step → Step
  | .attach _ => .attach on
  | step => step

/-- How two results compare for a frame with the bytes of `picture`, delivered under the
configuration `said`, when images are attached in the first one and drawn in the second one. -/
inductive Tallies (picture : VideoFrame) (said : Config) : FrameResult → FrameResult → Prop
  | error (error : CaptionError) : Tallies picture said (.error error) (.error error)
  | dropped : Tallies picture said (.ok none) (.ok none)
  | passed {frame : ScheduledFrame} (outcome : frame.outcome = .passthrough)
      (unchanged : frame.item.payload = picture) :
      Tallies picture said (.ok (some frame)) (.ok (some frame))
  | shown {frame frame' : ScheduledFrame} {c : Composition} (attached : frame.outcome = .attached)
      (blended : frame'.outcome = .blended)
      (times : { frame'.item with payload := frame.item.payload } = frame.item)
      (carries : frame.item.payload = { picture with composition := some c })
      (drawn : frame'.item.payload.data =
        (frame.item.payload.composite c false (Overlay.shading said)).1.data) :
      Tallies picture said (.ok (some frame)) (.ok (some frame'))

/-- How two frames compare that have come as far as each other. -/
inductive Progress.Tallies (picture : VideoFrame) (said : Config) : Progress → Progress → Prop
  | done {result result' : FrameResult} (results : Captioning.Tallies picture said result result') :
      Tallies picture said (.done result) (.done result')
  | waits (call : FrameCall) : Tallies picture said (.waits call) (.waits call)

/-- A frame with the bytes of `picture`, delivered under the configuration `said`, carries an image
that could not be drawn into it: its box is to be darkened, and a side of the frame leaves no room
for that. -/
def Clashes (picture : VideoFrame) (said : Config) (result : FrameResult) : Prop :=
  ∃ frame, result = .ok (some frame) ∧ frame.outcome = .attached ∧ said.shadedBackground = true ∧
    picture.info.sideOverflow? = some .frameSide

/-- Where images are drawn, there overflows what overflows where they are attached, and besides
only what clashes. -/
structure Exceeds (attached drawn : Option Overflow) (clash : Prop) : Prop where
  kept : ∀ overflow, attached = some overflow → drawn = some overflow
  added : attached = none → ∀ overflow, drawn = some overflow ↔ overflow = .frameSide ∧ clash

namespace Exceeds

variable {attached drawn : Option Overflow} {clash clash' : Prop}

theorem same (hclash : ¬ clash) : Exceeds attached attached clash where
  kept _ h := h
  added h overflow := by simp [h, hclash]

theorem of_some (overflow : Overflow) : Exceeds (some overflow) (some overflow) clash where
  kept _ h := h
  added h := by cases h

theorem congr (h : Exceeds attached drawn clash) (hclash : clash ↔ clash') :
    Exceeds attached drawn clash' where
  kept := h.kept
  added hnone overflow := by rw [← hclash, h.added hnone]

theorem eq_of_not (h : Exceeds attached drawn clash) (hclash : ¬ clash) : drawn = attached := by
  cases hattached : attached with
  | some overflow => exact h.kept overflow hattached
  | none =>
      cases hdrawn : drawn with
      | none => rfl
      | some overflow => exact absurd ((h.added hattached overflow).mp hdrawn).2 hclash

end Exceeds

namespace Overlay

/-- Two overlays that are the same, but that images are attached in the first one and drawn in the
second one. -/
structure Counterpart (o o' : Overlay) : Prop where
  attach : o.attach = true
  same : o' = o.setAttach false

/-- What is drawn into a frame does not depend on what the frame carries. -/
theorem data_drawn_carrying (picture : VideoFrame) (carried : Option Composition) (c : Composition)
    (shading : Option UInt8) :
    (({ picture with composition := carried } : VideoFrame).drawn c shading).data =
      (picture.drawn c shading).data := by
  cases shading <;> rfl

theorem compose_tallies (call : FrameCall) (c? : Option Composition) :
    Tallies call.item.payload call.config (.ok (some (compose call true c?)))
      (.ok (some (compose call false c?))) := by
  cases c? with
  | none => exact .passed rfl rfl
  | some c =>
      cases hempty : c.image.raster.isEmpty with
      | true =>
          have hpass (attach : Bool) :
              compose call attach (some c) = ⟨call.item, .passthrough⟩ := by
            simp only [compose, VideoFrame.composite, hempty, if_true]
          rw [hpass true, hpass false]
          exact .passed rfl rfl
      | false =>
          have hdrawn (frame : VideoFrame) (shading : Option UInt8) :
              frame.composite c false shading = (frame.drawn c shading, .blended) := by
            simp [VideoFrame.composite, hempty]
          have hattached : compose call true (some c) = ⟨{ call.item with
              payload := { call.item.payload with composition := some c } }, .attached⟩ := by
            simp [compose, VideoFrame.composite, hempty]
          have hblended : compose call false (some c) = ⟨{ call.item with
              payload := call.item.payload.drawn c (shading call.config) }, .blended⟩ := by
            simp only [compose, hdrawn]
          rw [hattached, hblended]
          refine .shown (c := c) rfl rfl rfl rfl ?_
          rw [hdrawn]
          exact (data_drawn_carrying call.item.payload (some c) c _).symm

/-- What is attached to a frame overflows nowhere, and what would be drawn into it overflows where
it clashes. -/
theorem exceeds_of_composed (call : FrameCall) (c? : Option Composition) :
    Exceeds
      (c?.bind fun c => call.item.payload.info.compositeOverflow? c.image.raster true
        (shading call.config))
      (c?.bind fun c => call.item.payload.info.compositeOverflow? c.image.raster false
        (shading call.config))
      (Clashes call.item.payload call.config (.ok (some (compose call true c?)))) := by
  cases c? with
  | none => exact .same (by simp [Clashes, compose])
  | some c =>
      have hattached : (compose call true (some c)).outcome = .attached ↔
          c.image.raster.isEmpty = false := by
        cases hempty : c.image.raster.isEmpty <;> simp [compose, VideoFrame.composite, hempty]
      refine ⟨fun overflow hsome => ?_, fun _ overflow => ?_⟩
      · obtain ⟨-, -, hdrawn, -, -⟩ := compositeOverflow?_eq_some_iff.mp hsome
        cases hdrawn
      · rw [Option.bind_some, compositeOverflow?_eq_some_iff]
        refine and_congr_right fun _ => ⟨?_, ?_⟩
        · rintro ⟨hvisible, -, hdarkened, hwide⟩
          exact ⟨_, rfl, hattached.mpr hvisible, hdarkened,
            VideoInfo.sideOverflow?_eq_some_iff.mpr ⟨rfl, hwide⟩⟩
        · rintro ⟨frame, hframe, hcarries, hdarkened, hside⟩
          obtain rfl := Option.some.inj (Except.ok.inj hframe)
          exact ⟨hattached.mp hcarries, rfl, hdarkened,
            (VideoInfo.sideOverflow?_eq_some_iff.mp hside).2⟩

namespace Counterpart

variable {o o' : Overlay} (h : o.Counterpart o') (rasterizer : Rasterizer)
include h

theorem flow : o'.flow = o.flow := by
  rw [h.same]
  rfl

theorem slot : o'.slot = o.slot := by
  rw [h.same]
  rfl

theorem admitText (item : TextItem) : o'.admitText item = o.admitText item := by
  rw [h.same]
  rfl

/-- A change that has nothing to do with the setting leaves counterparts. -/
theorem map (f : Overlay → Overlay) (hkeeps : (f o).attach = o.attach)
    (hcommutes : f (o.setAttach false) = (f o).setAttach false) : (f o).Counterpart (f o') where
  attach := hkeeps.trans h.attach
  same := by rw [h.same, hcommutes]

theorem configure (config : Config) :
    (o.configure config).1.Counterpart (o'.configure config).1 ∧
      (o'.configure config).2 = (o.configure config).2 := by
  unfold Overlay.configure
  cases config.check with
  | error error => exact ⟨h, rfl⟩
  | ok valid =>
      have hconfig : o'.config = o.config := by
        rw [h.same]
        rfl
      refine ⟨?_, rfl⟩
      simp only [hconfig]
      split
      · exact h
      · exact h.map (fun o => { o with config := config }.invalidate) rfl rfl

theorem lookAt (span : TimeSpan) : (o.lookAt span).1.Counterpart (o'.lookAt span).1 ∧
    (o'.lookAt span).2 = (o.lookAt span).2 := by
  obtain ⟨hattach, rfl⟩ := h
  obtain ⟨flow, videoSegment, textSegment, slot, cache, config, provider, attach, state⟩ := o
  simp only [Overlay.lookAt, setAttach]
  cases flow.videoFault? with
  | some error => exact ⟨⟨hattach, rfl⟩, rfl⟩
  | none =>
      cases slot with
      | none => exact ⟨⟨hattach, rfl⟩, rfl⟩
      | some item =>
          dsimp only
          cases classify (textSegment.span? item) span <;> exact ⟨⟨hattach, rfl⟩, rfl⟩

theorem finish (call : FrameCall) (d : Decision) :
    (o.finish rasterizer call d).1.Counterpart (o'.finish rasterizer call d).1 ∧
      (o'.finish rasterizer call d).2.1 = (o.finish rasterizer call d).2.1 ∧
      Tallies call.item.payload call.config (.ok (some (o.finish rasterizer call d).2.2))
        (.ok (some (o'.finish rasterizer call d).2.2)) := by
  obtain ⟨hattach, rfl⟩ := h
  cases d with
  | passthrough => exact ⟨⟨hattach, rfl⟩, rfl, .passed rfl rfl⟩
  | overlay text consume =>
      rw [finish_overlay_frame, finish_overlay_frame, hattach]
      refine ⟨?_, rfl, compose_tallies call _⟩
      cases consume <;> exact ⟨hattach, rfl⟩

theorem finishOverflow? (call : FrameCall) (d : Decision) :
    Exceeds (o.finishOverflow? rasterizer call.item.payload.info call.config d)
      (o'.finishOverflow? rasterizer call.item.payload.info call.config d)
      (Clashes call.item.payload call.config
        (.ok (some (o.finish rasterizer call d).2.2))) := by
  obtain ⟨hattach, rfl⟩ := h
  cases d with
  | passthrough => exact .same (by simp [Clashes, Overlay.finish])
  | overlay text consume =>
      have hcomposed := exceeds_of_composed call
        (o.composeText rasterizer text call.item.payload.info).2
      rw [finish_overlay_frame, hattach]
      have himage : ((o.setAttach false).composeText rasterizer text call.item.payload.info).2 =
          (o.composeText rasterizer text call.item.payload.info).2 := rfl
      have hcache : (o.setAttach false).cache = o.cache := rfl
      have hconfig : (o.setAttach false).config = o.config := rfl
      have hset : (o.setAttach false).attach = false := rfl
      simp only [Overlay.finishOverflow?, showingOverflow?, hattach, himage, hcache, hconfig, hset]
      cases o.cache.overflow? rasterizer text (o.config.textStyle call.item.payload.info.width
          call.item.payload.info.height true) with
      | some overflow => exact .of_some overflow
      | none => exact hcomposed

theorem lookOverflow? (call : FrameCall) :
    Exceeds
      (o.lookOverflow? rasterizer call.item.payload.info call.config call.span)
      (o'.lookOverflow? rasterizer call.item.payload.info call.config call.span)
      (∃ result, (o.proceed rasterizer call).2.2 = some result ∧
        Clashes call.item.payload call.config result) := by
  obtain ⟨hseen, hfound⟩ := h.lookAt call.span
  unfold Overlay.lookOverflow? Overlay.proceed
  revert hseen hfound
  obtain ⟨seen, signal, verdict⟩ := o.lookAt call.span
  obtain ⟨seen', signal', verdict'⟩ := o'.lookAt call.span
  intro hseen hfound
  obtain ⟨rfl, rfl⟩ := Prod.mk.inj hfound
  cases verdict' with
  | refused error => exact .same (by simp [Clashes])
  | waiting => exact .same (by simp)
  | decided d => exact (hseen.finishOverflow? rasterizer call d).congr (by simp)

theorem proceed (call : FrameCall) :
    (o.proceed rasterizer call).1.Counterpart (o'.proceed rasterizer call).1 ∧
      (o'.proceed rasterizer call).2.1 = (o.proceed rasterizer call).2.1 ∧
      Option.Rel (Tallies call.item.payload call.config) (o.proceed rasterizer call).2.2
        (o'.proceed rasterizer call).2.2 := by
  obtain ⟨hseen, hfound⟩ := h.lookAt call.span
  unfold Overlay.proceed
  revert hseen hfound
  obtain ⟨seen, signal, verdict⟩ := o.lookAt call.span
  obtain ⟨seen', signal', verdict'⟩ := o'.lookAt call.span
  intro hseen hfound
  obtain ⟨rfl, rfl⟩ := Prod.mk.inj hfound
  cases verdict' with
  | refused error => exact ⟨hseen, rfl, .some (.error error)⟩
  | waiting => exact ⟨hseen, rfl, .none⟩
  | decided d =>
      obtain ⟨hdone, hsignal, hframe⟩ := hseen.finish rasterizer call d
      exact ⟨hdone, congrArg (Signal.both signal') hsignal, .some hframe⟩

theorem admitFrame (item : VideoItem) : o'.admitFrame item = o.admitFrame item := by
  rw [h.same]
  rfl

theorem decisionAlone? (call : FrameCall) : o'.decisionAlone? call = o.decisionAlone? call := by
  rw [h.same]
  rfl

theorem arrivalOverflow? (item : VideoItem) :
    Exceeds (o.arrivalOverflow? rasterizer (item.map VideoFrame.info))
      (o'.arrivalOverflow? rasterizer (item.map VideoFrame.info))
      (∃ result, (o.schedule rasterizer item).2.2 = .done result ∧
        Clashes item.payload o.config result) := by
  have hsegment : o'.videoSegment = o.videoSegment := by
    rw [h.same]
    rfl
  rw [arrivalOverflow?_eq, arrivalOverflow?_eq, h.admitFrame]
  unfold Overlay.schedule
  cases hadmission : o.admitFrame item with
  | dropped => exact .same (by simp [Clashes])
  | refused error => exact .same (by simp [Clashes])
  | unclocked part start =>
      simp only [hsegment]
      exact .same (by simp [Clashes])
  | admitted call =>
      have hpicture : call.item.payload = item.payload :=
        payload_of_admitFrame (congrArg Admission.part? hadmission)
      rw [← hpicture, ← config_of_admitFrame hadmission]
      dsimp only
      rw [h.decisionAlone?]
      cases o.decisionAlone? call with
      | some d => exact (h.finishOverflow? rasterizer call d).congr (by simp)
      | none =>
          have hlook := h.lookOverflow? rasterizer call
          simp only [lookOverflow?_eq] at hlook
          simp only [Option.none_or]
          refine hlook.congr ?_
          obtain ⟨seen, signal, result⟩ := o.proceed rasterizer call
          cases result <;> simp

theorem schedule (item : VideoItem) :
    (o.schedule rasterizer item).1.Counterpart (o'.schedule rasterizer item).1 ∧
      (o'.schedule rasterizer item).2.1 = (o.schedule rasterizer item).2.1 ∧
      (o.schedule rasterizer item).2.2.Tallies item.payload o.config
        (o'.schedule rasterizer item).2.2 := by
  have hreach (start : ClockTime) : (o.reach start).Counterpart (o'.reach start) :=
    h.map (·.reach start) rfl rfl
  unfold Overlay.schedule
  rw [h.admitFrame]
  cases hadmission : o.admitFrame item with
  | dropped => exact ⟨h, rfl, .done .dropped⟩
  | refused error => exact ⟨h, rfl, .done (.error error)⟩
  | unclocked part start =>
      have hpicture : part.payload = item.payload :=
        payload_of_admitFrame (congrArg Admission.part? hadmission)
      exact ⟨hreach start, rfl, .done (.passed rfl hpicture)⟩
  | admitted call =>
      have hpicture : call.item.payload = item.payload :=
        payload_of_admitFrame (congrArg Admission.part? hadmission)
      rw [← hpicture, ← config_of_admitFrame hadmission]
      dsimp only
      rw [h.decisionAlone?]
      cases o.decisionAlone? call with
      | some d =>
          obtain ⟨hdone, hsignal, hframe⟩ := h.finish rasterizer call d
          exact ⟨hdone, hsignal, .done hframe⟩
      | none =>
          have hproceed := h.proceed rasterizer call
          revert hproceed
          obtain ⟨seen, signal, result⟩ := o.proceed rasterizer call
          obtain ⟨seen', signal', result'⟩ := o'.proceed rasterizer call
          rintro ⟨hseen, hsignal, hresult⟩
          cases hresult with
          | none => exact ⟨hseen, hsignal, .waits call⟩
          | some hresult => exact ⟨hseen, hsignal, .done hresult⟩

end Counterpart

end Overlay

/-! ## Sessions -/

theorem rel_or {α β : Type} {r : α → β → Prop} {a b : Option α} {a' b' : Option β}
    (ha : Option.Rel r a a') (hb : Option.Rel r b b') : Option.Rel r (a.or b) (a'.or b') := by
  cases ha with
  | none => simpa using hb
  | some hr => exact .some hr

theorem rel_mono {α β : Type} {r r' : α → β → Prop} {a : Option α} {b : Option β}
    (h : Option.Rel r a b) (hr : ∀ x y, a = some x → r x y → r' x y) : Option.Rel r' a b := by
  cases h with
  | none => exact .none
  | some hxy => exact .some (hr _ _ rfl hxy)

namespace Session

variable {s s' : Session}

/-- Two sessions that are the same, but that images are attached in the first one and drawn in the
second one. -/
structure Counterpart (s s' : Session) : Prop where
  overlay : s.overlay.Counterpart s'.overlay
  frame : s'.frame = s.frame
  text : s'.text = s.text

/-- Something holds of the frame that a step gives a result for, and of the configuration that it
was delivered under: of the frame that is delivered in this step, or of the one that has waited. -/
inductive Concerns (s : Session) (step : Step) (p : VideoFrame → Config → Prop) : Prop
  | arrives {item : VideoItem} (free : s.frame = none) (delivery : step = .frame item)
      (holds : p item.payload s.overlay.config)
  | waited {call : FrameCall} (frame : s.frame = some call)
      (holds : p call.item.payload call.config)

/-- A frame that looks again at the end of a step has been on its way, or it arrives. -/
theorem concerns_iff_of_wake {t : Session} {signal : Signal} {report : Report} {step : Step}
    {rasterizer : Rasterizer} {call : FrameCall} {p : VideoFrame → Config → Prop}
    (hentry : s.Entry rasterizer step t signal report) (hframe : t.frame = some call) :
    s.Concerns step p ↔ p call.item.payload call.config := by
  have hcarries := hentry.carries
  rw [hframe] at hcarries
  generalize report.video = video at hcarries
  cases hcarries with
  | @begins item _ free arrives admission =>
      rw [Overlay.payload_of_admitFrame (congrArg Admission.part? admission),
        Overlay.config_of_admitFrame admission]
      refine ⟨fun h => ?_, .arrives free arrives⟩
      cases h with
      | arrives _ delivery holds =>
          obtain rfl := Step.frame.inj (arrives.symm.trans delivery)
          exact holds
      | waited frame holds => cases free.symm.trans frame
  | waits frame =>
      refine ⟨fun h => ?_, .waited frame⟩
      cases h with
      | arrives free delivery holds => cases free.symm.trans frame
      | waited frame' holds =>
          obtain rfl := Option.some.inj (frame.symm.trans frame')
          exact holds

/-- How two results compare that a step gives. -/
abbrev Compares (s : Session) (step : Step) (result result' : FrameResult) : Prop :=
  s.Concerns step fun picture said => Tallies picture said result result'

/-- Two entries of a step go on in the same way, but that images are attached in the first one and
drawn in the second one. -/
structure Matches (s : Session) (step : Step) (entered entered' : Session × Signal × Report) :
    Prop where
  session : entered.1.Counterpart entered'.1
  signal : entered'.2.1 = entered.2.1
  reply : entered'.2.2.reply = entered.2.2.reply
  video : Option.Rel (s.Compares step) entered.2.2.video entered'.2.2.video
  text : entered'.2.2.text = entered.2.2.text

namespace Counterpart

theorem wakeText (h : s.Counterpart s') :
    s.wakeText.1.Counterpart s'.wakeText.1 ∧ s'.wakeText.2 = s.wakeText.2 := by
  simp only [Session.wakeText, h.text, h.overlay.flow, h.overlay.slot]
  split
  next htext => exact ⟨h, rfl⟩
  next item htext =>
    split
    · exact ⟨⟨h.overlay, h.frame, rfl⟩, rfl⟩
    · split
      · exact ⟨h, rfl⟩
      · exact ⟨⟨h.overlay.map (·.store item) rfl rfl, h.frame, rfl⟩, rfl⟩

theorem wakeFrame (h : s.Counterpart s') (rasterizer : Rasterizer) :
    (s.wakeFrame rasterizer).1.Counterpart (s'.wakeFrame rasterizer).1 ∧
      Option.Rel (fun result result' => ∃ call, s.frame = some call ∧
          Tallies call.item.payload call.config result result')
        (s.wakeFrame rasterizer).2 (s'.wakeFrame rasterizer).2 := by
  simp only [Session.wakeFrame, h.frame]
  cases hframe : s.frame with
  | none => exact ⟨h, .none⟩
  | some call =>
      have hproceed := h.overlay.proceed rasterizer call
      dsimp only
      revert hproceed
      obtain ⟨seen, signal, result⟩ := s.overlay.proceed rasterizer call
      obtain ⟨seen', signal', result'⟩ := s'.overlay.proceed rasterizer call
      rintro ⟨hseen, -, hresult⟩
      cases hresult with
      | none => exact ⟨⟨hseen, rfl, h.text⟩, .none⟩
      | some hresult => exact ⟨⟨hseen, rfl, h.text⟩, .some ⟨call, rfl, hresult⟩⟩

theorem enter (h : s.Counterpart s') (rasterizer : Rasterizer) (step : Step) :
    s.Matches (step.attaching true) (s.enter rasterizer (step.attaching true))
      (s'.enter rasterizer (step.attaching false)) := by
  cases step with
  | frame item =>
      simp only [Step.attaching, Session.enter, h.frame]
      split
      next hframe => exact ⟨h, rfl, rfl, .none, rfl⟩
      next hframe =>
        have hfree : s.frame = none := by simpa using hframe
        have hschedule := h.overlay.schedule rasterizer item
        revert hschedule
        obtain ⟨left, signal, progress⟩ := s.overlay.schedule rasterizer item
        obtain ⟨left', signal', progress'⟩ := s'.overlay.schedule rasterizer item
        rintro ⟨hleft, hsignal, hprogress⟩
        cases hprogress with
        | done results =>
            exact ⟨⟨hleft, rfl, h.text⟩, hsignal, rfl, .some (.arrives hfree rfl results), rfl⟩
        | waits call => exact ⟨⟨hleft, rfl, h.text⟩, hsignal, rfl, .none, rfl⟩
  | text item =>
      simp only [Step.attaching, Session.enter, h.text, h.overlay.admitText, h.overlay.slot]
      split
      · exact ⟨h, rfl, rfl, .none, rfl⟩
      · split
        · exact ⟨h, rfl, rfl, .none, rfl⟩
        · exact ⟨h, rfl, rfl, .none, rfl⟩
        next part hadmission =>
          split
          · exact ⟨⟨h.overlay, h.frame, rfl⟩, rfl, rfl, .none, rfl⟩
          · exact ⟨⟨h.overlay.map (·.store part) rfl rfl, h.frame, rfl⟩, rfl, rfl, .none, rfl⟩
  | attach on =>
      have hset : (s.overlay.setAttach true).Counterpart (s'.overlay.setAttach false) := by
        rw [h.overlay.same]
        exact ⟨rfl, rfl⟩
      exact ⟨⟨hset, h.frame, h.text⟩, rfl, rfl, .none, rfl⟩
  | videoEvent event =>
      have hleft : (s.overlay.videoEvent event).1.Counterpart (s'.overlay.videoEvent event).1 := by
        cases event <;> exact h.overlay.map (fun o => (o.videoEvent _).1) rfl rfl
      have hsignal : (s'.overlay.videoEvent event).2 = (s.overlay.videoEvent event).2 := by
        cases event <;> rfl
      exact ⟨⟨hleft, h.frame, h.text⟩, hsignal, rfl, .none, rfl⟩
  | textEvent event =>
      have hleft : (s.overlay.textEvent event).1.Counterpart (s'.overlay.textEvent event).1 := by
        cases event <;> exact h.overlay.map (fun o => (o.textEvent _).1) rfl rfl
      have hsignal : (s'.overlay.textEvent event).2 = (s.overlay.textEvent event).2 := by
        cases event <;> rfl
      exact ⟨⟨hleft, h.frame, h.text⟩, hsignal, rfl, .none, rfl⟩
  | transit transition =>
      have hleft : (s.overlay.transit transition).1.Counterpart
          (s'.overlay.transit transition).1 := by
        cases transition <;> exact h.overlay.map (fun o => (o.transit _).1) rfl rfl
      have hsignal : (s'.overlay.transit transition).2 = (s.overlay.transit transition).2 := by
        cases transition <;> rfl
      exact ⟨⟨hleft, h.frame, h.text⟩, hsignal, rfl, .none, rfl⟩
  | connect on =>
      have hleft : (s.overlay.connect on).1.Counterpart (s'.overlay.connect on).1 :=
        h.overlay.map (fun o => (o.connect on).1) rfl rfl
      exact ⟨⟨hleft, h.frame, h.text⟩, rfl, rfl, .none, rfl⟩
  | configure config =>
      obtain ⟨hleft, hresult⟩ := h.overlay.configure config
      exact ⟨⟨hleft, h.frame, h.text⟩, rfl, congrArg Reply.configured hresult, .none, rfl⟩
  | provide provider =>
      have hleft : (s.overlay.provide provider).Counterpart (s'.overlay.provide provider) :=
        h.overlay.map (·.provide provider) rfl rfl
      exact ⟨⟨hleft, h.frame, h.text⟩, rfl, rfl, .none, rfl⟩

/-- A step leaves counterparts, it answers both alike, and its results for a frame compare. -/
theorem step (h : s.Counterpart s') (rasterizer : Rasterizer) (step : Step) :
    (s.step rasterizer (step.attaching true)).1.Counterpart
        (s'.step rasterizer (step.attaching false)).1 ∧
      (s'.step rasterizer (step.attaching false)).2.reply =
        (s.step rasterizer (step.attaching true)).2.reply ∧
      (s'.step rasterizer (step.attaching false)).2.text =
        (s.step rasterizer (step.attaching true)).2.text ∧
      Option.Rel (s.Compares (step.attaching true))
        (s.step rasterizer (step.attaching true)).2.video
        (s'.step rasterizer (step.attaching false)).2.video := by
  obtain ⟨hsession, hsignal, hreply, hvideo, htext⟩ := h.enter rasterizer step
  have hentry := s.enter_entry rasterizer (step.attaching true)
  revert hsession hsignal hreply hvideo htext hentry
  rcases henter : s.enter rasterizer (step.attaching true) with ⟨t, signal, report⟩
  rcases henter' : s'.enter rasterizer (step.attaching false) with ⟨t', signal', report'⟩
  intro hsession hsignal hreply hvideo htext hentry
  obtain rfl : signal' = signal := hsignal
  cases signal' with
  | quiet =>
      rw [step_of_quiet henter, step_of_quiet henter']
      exact ⟨hsession, hreply, htext, hvideo⟩
  | wake =>
      rw [step_of_wake henter, step_of_wake henter']
      obtain ⟨hstored, hcaption⟩ := hsession.wakeText
      obtain ⟨hlooked, hresults⟩ := hstored.wakeFrame rasterizer
      refine ⟨hlooked, hreply, ?_, rel_or hvideo ?_⟩
      · rw [hcaption]
        exact congrArg (Option.or · _) htext
      · rw [t.wakeText_wake.frame] at hresults
        refine rel_mono hresults ?_
        rintro result result' - ⟨call, hframe, htallies⟩
        exact (concerns_iff_of_wake hentry hframe).mpr htallies

theorem entryOverflow? (h : s.Counterpart s') (rasterizer : Rasterizer) (step : Step) :
    Exceeds (s.entryOverflow? rasterizer (step.attaching true))
      (s'.entryOverflow? rasterizer (step.attaching false))
      (∃ result, (s.enter rasterizer (step.attaching true)).2.2.video = some result ∧
        s.Concerns (step.attaching true) fun picture said => Clashes picture said result) := by
  cases step with
  | frame item =>
      have harrival := h.overlay.arrivalOverflow? rasterizer item
      simp only [Step.attaching, Session.entryOverflow?, Session.arrivalOverflow?, h.frame,
        Session.enter]
      cases hframe : s.frame with
      | some call => exact .same (by simp)
      | none =>
          refine harrival.congr ?_
          have hconcerns {result : FrameResult} : (s.Concerns (.frame item) fun picture said =>
              Clashes picture said result) ↔ Clashes item.payload s.overlay.config result := by
            refine ⟨fun hconcerns => ?_, fun hclash => .arrives hframe rfl hclash⟩
            cases hconcerns with
            | arrives free delivery holds =>
                obtain rfl := Step.frame.inj delivery
                exact holds
            | waited frame holds => cases hframe.symm.trans frame
          simp only [Option.isSome_none, Bool.false_eq_true, if_false, hconcerns]
          obtain ⟨left, signal, progress⟩ := s.overlay.schedule rasterizer item
          cases progress <;> simp
  | text item =>
      refine .same ?_
      have hentry := s.enter_entry rasterizer (.text item)
      simp only [Step.attaching]
      generalize s.enter rasterizer (.text item) = entered at hentry
      obtain ⟨t, signal, report⟩ := entered
      cases hentry with
      | control control => cases control
      | _ => simp
  | _ => exact .same (by simp [Step.attaching, Session.enter])

theorem wakeOverflow? (h : s.Counterpart s') (rasterizer : Rasterizer) :
    Exceeds (s.wakeOverflow? rasterizer) (s'.wakeOverflow? rasterizer)
      (∃ call result, s.frame = some call ∧ (s.wakeFrame rasterizer).2 = some result ∧
        Clashes call.item.payload call.config result) := by
  simp only [Session.wakeOverflow?, Session.wakeFrame, h.frame]
  cases hframe : s.frame with
  | none => exact .same (by simp)
  | some call =>
      refine (h.overlay.lookOverflow? rasterizer call).congr ?_
      dsimp only
      obtain ⟨left, signal, result⟩ := s.overlay.proceed rasterizer call
      cases result <;> simp

/-- What overflows in a step of both sessions. -/
theorem overflow? (h : s.Counterpart s') (rasterizer : Rasterizer) (step : Step) :
    Exceeds (s.overflow? rasterizer (step.attaching true))
      (s'.overflow? rasterizer (step.attaching false))
      (∃ result, (s.step rasterizer (step.attaching true)).2.video = some result ∧
        s.Concerns (step.attaching true) fun picture said => Clashes picture said result) := by
  have hbegins := h.entryOverflow? rasterizer step
  obtain ⟨hsession, hsignal, -, -, -⟩ := h.enter rasterizer step
  have hentry := s.enter_entry rasterizer (step.attaching true)
  revert hbegins hsession hsignal hentry
  rcases henter : s.enter rasterizer (step.attaching true) with ⟨t, signal, report⟩
  rcases henter' : s'.enter rasterizer (step.attaching false) with ⟨t', signal', report'⟩
  intro hbegins hsession hsignal hentry
  obtain rfl : signal' = signal := hsignal
  cases signal' with
  | quiet =>
      rw [overflow?_of_quiet henter, overflow?_of_quiet henter', step_of_quiet henter]
      exact hbegins
  | wake =>
      obtain ⟨hstored, -⟩ := hsession.wakeText
      have hlook := hstored.wakeOverflow? rasterizer
      have hcarried := t.wakeText_wake.frame
      rw [overflow?_of_wake henter, overflow?_of_wake henter', step_of_wake henter]
      cases hframe : t.frame with
      | none =>
          rw [hframe] at hcarried
          rw [wakeOverflow?_of_none hcarried, wakeOverflow?_of_none (hstored.frame.trans hcarried),
            Option.or_none, Option.or_none, wakeFrame_of_none hcarried]
          simpa using hbegins
      | some call =>
          rw [hframe] at hcarried
          have hreport : report.video = none := by
            have hcarries := hentry.carries
            rw [hframe] at hcarries
            generalize report.video = video at hcarries ⊢
            cases hcarries <;> rfl
          rw [hbegins.eq_of_not (by simp [hreport]), hreport, Option.none_or]
          cases s.entryOverflow? rasterizer (step.attaching true) with
          | some overflow => exact .of_some overflow
          | none =>
              refine hlook.congr ?_
              simp [hcarried, concerns_iff_of_wake hentry hframe]

theorem run (h : s.Counterpart s') (rasterizer : Rasterizer) (steps : List Step) :
    (s.run rasterizer (steps.map (Step.attaching true))).1.Counterpart
      (s'.run rasterizer (steps.map (Step.attaching false))).1 := by
  induction steps generalizing s s' with
  | nil => exact h
  | cons step steps ih => exact ih (h.step rasterizer step).1

end Counterpart

/-- What holds of the frame of a result holds of the frame as it was delivered, and of what was in
force then. -/
theorem Concerns.at_delivery {rasterizer : Rasterizer} {before first : List Step} {step : Step}
    {item : VideoItem} {p : VideoFrame → Config → Prop}
    (h : (initial.run rasterizer before).1.Concerns step p)
    (hcomes : Comes rasterizer before step first item) :
    p item.payload (initial.run rasterizer first).1.overlay.config := by
  cases h with
  | arrives free delivery holds =>
      cases hcomes with
      | arrives _ now delivery' =>
          obtain rfl := Step.frame.inj (delivery.symm.trans delivery')
          rwa [now]
      | waited frame admission => cases free.symm.trans frame
  | waited frame holds =>
      cases hcomes with
      | arrives free now delivery => cases free.symm.trans frame
      | waited frame' admission =>
          obtain rfl := Option.some.inj (frame.symm.trans frame')
          rwa [Overlay.payload_of_admitFrame (congrArg Admission.part? admission),
            Overlay.config_of_admitFrame admission] at holds

/-- Two sessions that differ in the setting from their first step on. -/
theorem counterpart_of_attempts {rasterizer : Rasterizer} {before : List Step}
    {answers answers' : List Report}
    (hs : initial.attempts rasterizer (.attach true :: before.map (Step.attaching true)) =
      .ok (s, answers))
    (hs' : initial.attempts rasterizer (.attach false :: before.map (Step.attaching false)) =
      .ok (s', answers')) : s.Counterpart s' := by
  have hbegins : (initial.step rasterizer (.attach true)).1.Counterpart
      (initial.step rasterizer (.attach false)).1 := ⟨⟨rfl, rfl⟩, rfl, rfl⟩
  have hreached := hbegins.run rasterizer before
  have hfirst : ((initial.step rasterizer (.attach true)).1.run rasterizer
      (before.map (Step.attaching true))).1 = s := congrArg Prod.fst (run_of_attempts hs)
  have hsecond : ((initial.step rasterizer (.attach false)).1.run rasterizer
      (before.map (Step.attaching false))).1 = s' := congrArg Prod.fst (run_of_attempts hs')
  rwa [hfirst, hsecond] at hreached

/-- Where only the second session overflows, an image is attached in the first one. -/
theorem Counterpart.exists_attached (h : s.Counterpart s') {rasterizer : Rasterizer} (step : Step)
    {overflow : Overflow} (hnone : s.overflow? rasterizer (step.attaching true) = none)
    (hsome : s'.overflow? rasterizer (step.attaching false) = some overflow) :
    ∃ after report frame, s.attempt rasterizer (step.attaching true) = .ok (after, report) ∧
      report.video = some (.ok (some frame)) ∧ frame.outcome = .attached := by
  obtain ⟨-, result, hvideo, hconcerns⟩ :=
    ((h.overflow? rasterizer step).added hnone overflow).mp hsome
  obtain ⟨frame, rfl, hattached⟩ : ∃ frame, result = .ok (some frame) ∧
      frame.outcome = .attached := by
    cases hconcerns with
    | arrives free delivery holds => exact holds.imp fun _ h => ⟨h.1, h.2.1⟩
    | waited waiting holds => exact holds.imp fun _ h => ⟨h.1, h.2.1⟩
  exact ⟨_, _, frame, attempt_of_none hnone, hvideo, hattached⟩

/-- **Attaching and drawing agree.**  The same is done in two sessions, with one rasterizer, but
images are attached throughout in the first one and drawn throughout in the second one.  As long as
nothing overflows, after every step both are in the same state (flow, segments, the pending caption
and those who wait, the cache with its count of images) up to that setting, and the step has the
same reply and the same result for a caption.

It has a result for a frame in both or in neither one, and the two results compare.  They belong to
a frame that was delivered before.  Either they are the same error, or the frame is dropped in both,
or it passes in both as it was delivered.  Otherwise it leaves at the same times in both, in the
first one with its own bytes and an image.  Its bytes in the second one are those which come of
drawing this image, with the shading that was in force when the frame was delivered.

What overflows in the first session overflows in the second one.  The second one overflows alone
exactly where an image is attached that cannot be drawn, as its box is to be darkened and the frame
has a side that leaves no room for that. -/
theorem attaching_agrees (rasterizer : Rasterizer) (before : List Step) (step : Step)
    {s s' : Session} {answers answers' : List Report}
    (hs : initial.attempts rasterizer (.attach true :: before.map (Step.attaching true)) =
      .ok (s, answers))
    (hs' : initial.attempts rasterizer (.attach false :: before.map (Step.attaching false)) =
      .ok (s', answers')) :
    let attempt := s.attempt rasterizer (step.attaching true)
    let attempt' := s'.attempt rasterizer (step.attaching false)
    (∀ after report after' report', attempt = .ok (after, report) →
      attempt' = .ok (after', report') →
      after.Counterpart after' ∧ report'.reply = report.reply ∧ report'.text = report.text ∧
        Option.Rel (fun result result' => ∃ first item during,
            .attach true :: before.map (Step.attaching true) ++ [step.attaching true] =
              first ++ .frame item :: during ∧
            (initial.run rasterizer first).1.Serves rasterizer item during result ∧
            Tallies item.payload (initial.run rasterizer first).1.overlay.config result result')
          report.video report'.video) ∧
      (∀ overflow, attempt = .error overflow → attempt' = .error overflow) ∧
      ∀ after report, attempt = .ok (after, report) → ∀ overflow,
        attempt' = .error overflow ↔ overflow = .frameSide ∧
          ∃ result, report.video = some result ∧ s.Concerns (step.attaching true)
            fun picture said => Clashes picture said result := by
  intro attempt attempt'
  have hrun := run_of_attempts hs
  have hsame := counterpart_of_attempts hs hs'
  obtain ⟨hkept, hadded⟩ := hsame.overflow? rasterizer step
  refine ⟨?_, ?_, ?_⟩
  · intro after report after' report' hattempt hattempt'
    obtain ⟨-, hstep⟩ := attempt_eq_ok_iff.mp hattempt
    obtain ⟨-, hstep'⟩ := attempt_eq_ok_iff.mp hattempt'
    obtain ⟨hafter, hreply, htext, hvideo⟩ := hsame.step rasterizer step
    rw [hstep, hstep'] at hafter hreply htext hvideo
    refine ⟨hafter, hreply, htext, rel_mono hvideo ?_⟩
    intro result result' hresult hcompares
    have hfirst : (initial.run rasterizer
        (.attach true :: before.map (Step.attaching true))).1 = s := congrArg Prod.fst hrun
    have hleaves : (s.step rasterizer (step.attaching true)).2.video = some result :=
      (congrArg (·.2.video) hstep).trans hresult
    rw [← hfirst] at hleaves
    obtain ⟨first, item, during, hsteps, hserves, hcomes⟩ :=
      exists_serves rasterizer _ (step.attaching true) hleaves
    rw [← hfirst] at hcompares
    exact ⟨first, item, during, hsteps, hserves, hcompares.at_delivery hcomes⟩
  · intro overflow hattempt
    exact attempt_eq_error_iff.mpr (hkept overflow (attempt_eq_error_iff.mp hattempt))
  · intro after report hattempt overflow
    obtain ⟨hnone, hstep⟩ := attempt_eq_ok_iff.mp hattempt
    have hclash := hadded hnone overflow
    rw [hstep] at hclash
    exact attempt_eq_error_iff.trans hclash

/-- What is done before a frame comes to an overlay that shows a text and has no text input. -/
def captionedSetup (config : Config) : List Step :=
  [.configure { config with text := "a", autoResize := false }, .transit .start]

/-- A small frame is shown with a text in both sessions. -/
theorem small_frame_agrees :
    let setup := captionedSetup .initial
    let item : VideoItem :=
      ⟨some 0, some 40, .black ⟨.gray8, 2, 1, 0, 1, Nat.zero_lt_two, Nat.zero_lt_one⟩⟩
    ∃ s s' answers answers' after after' report report',
      initial.attempts Rasterizer.white (.attach true :: setup.map (Step.attaching true)) =
        .ok (s, answers) ∧
      initial.attempts Rasterizer.white (.attach false :: setup.map (Step.attaching false)) =
        .ok (s', answers') ∧
      s.attempt Rasterizer.white (.frame item) = .ok (after, report) ∧
      s'.attempt Rasterizer.white (.frame item) = .ok (after', report') ∧
      after.Counterpart after' := by
  intro setup item
  have hs : initial.attempts Rasterizer.white (.attach true :: setup.map (Step.attaching true)) =
      .ok (initial.run Rasterizer.white _) := attempts_eq_run (by decide +kernel)
  have hs' : initial.attempts Rasterizer.white (.attach false :: setup.map (Step.attaching false)) =
      .ok (initial.run Rasterizer.white _) := attempts_eq_run (by decide +kernel)
  have hattempt := attempt_of_none (by decide +kernel : (initial.run Rasterizer.white
    (.attach true :: setup.map (Step.attaching true))).1.overflow? Rasterizer.white (.frame item) =
      none)
  have hattempt' := attempt_of_none (by decide +kernel : (initial.run Rasterizer.white
    (.attach false :: setup.map (Step.attaching false))).1.overflow? Rasterizer.white
      (.frame item) = none)
  obtain ⟨hagree, -, -⟩ := attaching_agrees Rasterizer.white setup (.frame item) hs hs'
  obtain ⟨hafter, -, -, -⟩ := hagree _ _ _ _ hattempt hattempt'
  exact ⟨_, _, _, _, _, _, _, _, hs, hs', hattempt, hattempt', hafter⟩

/-- A frame whose size leaves no room for a darkened box comes to an overlay that shows a text on
one.  Where images are attached the frame carries an image, and where they are drawn it
overflows. -/
theorem wide_frame_clashes :
    let setup := captionedSetup { Config.initial with shadedBackground := true }
    ∃ s s' answers answers' after report frame,
      initial.attempts Rasterizer.white (.attach true :: setup.map (Step.attaching true)) =
        .ok (s, answers) ∧
      initial.attempts Rasterizer.white (.attach false :: setup.map (Step.attaching false)) =
        .ok (s', answers') ∧
      s.attempt Rasterizer.white (.frame wideFrame) = .ok (after, report) ∧
      report.video = some (.ok (some frame)) ∧ frame.outcome = .attached ∧
      s'.attempt Rasterizer.white (.frame wideFrame) = .error .frameSide := by
  intro setup
  have hs : initial.attempts Rasterizer.white (.attach true :: setup.map (Step.attaching true)) =
      .ok (initial.run Rasterizer.white _) := attempts_eq_run (by decide +kernel)
  have hs' : initial.attempts Rasterizer.white (.attach false :: setup.map (Step.attaching false)) =
      .ok (initial.run Rasterizer.white _) := attempts_eq_run (by decide +kernel)
  have hnone : (initial.run Rasterizer.white
      (.attach true :: setup.map (Step.attaching true))).1.overflow? Rasterizer.white
        (.frame wideFrame) = none := by
    decide +kernel
  have hside : (initial.run Rasterizer.white
      (.attach false :: setup.map (Step.attaching false))).1.overflow? Rasterizer.white
        (.frame wideFrame) = some .frameSide :=
    overflow?_of_entry (by decide +kernel)
  obtain ⟨after, report, frame, hattempt, hvideo, hattached⟩ :=
    (counterpart_of_attempts hs hs').exists_attached (.frame wideFrame) hnone hside
  exact ⟨_, _, _, _, after, report, frame, hs, hs', hattempt, hvideo, hattached,
    attempt_eq_error_iff.mpr hside⟩

end Session

end Captioning
