import Captioning.Proofs.Overlay.Admitting
import Captioning.Proofs.Session.Calls
import Captioning.Proofs.Session.Outlines
import Captioning.Proofs.Session.Overflowing

/-!
# Rasterizers that fail

A rasterizer may fail for some texts, or give an image whose bytes do not fit its size.  A session
with such a rasterizer is compared here with a session in which all of these texts are drawn.
Nobody waits longer or shorter and no caption leaves earlier or later: the only difference is that
the frames whose text cannot be drawn pass.  In particular a failure never is an error of a frame.

There is one thing that a rasterizer can give besides an image and a failure: an image whose size is
no number of sixty-four bits.  With such an image a session overflows (`Stage.Oversized`).
-/

namespace Captioning

/-! ## The errors of frames -/

theorem Flow.of_videoFault? {f : Flow} {error : CaptionError} (h : f.videoFault? = some error) :
    error = .flushing ∨ error = .endOfStream := by
  unfold videoFault? at h
  split at h
  · exact .inl (Option.some.inj h).symm
  · split at h
    · exact .inr (Option.some.inj h).symm
    · cases h

namespace Overlay

variable {o o' : Overlay} {rasterizer : Rasterizer} {signal : Signal} {fault : CaptionError}

theorem Turn.error {call : FrameCall}
    (h : o.Turn rasterizer call o' signal (some (.error fault))) :
    fault = .flushing ∨ fault = .endOfStream := by
  cases h with
  | refused fault => exact Flow.of_videoFault? fault

theorem Arrival.error {item : VideoItem}
    (h : o.Arrival rasterizer item o' signal (.done (.error fault))) :
    fault = .flushing ∨ fault = .endOfStream := by
  cases h with
  | refused admission => exact Flow.of_videoFault? (videoFault?_of_admitFrame admission)
  | decided admission silent connected turn => exact turn.error

end Overlay

theorem Stage.Sound.error {stage : Stage} {rasterizer : Rasterizer} {error : CaptionError}
    (h : stage.Sound rasterizer) (hvideo : stage.video = some (.error error)) :
    error = .flushing ∨ error = .endOfStream := by
  cases h with
  | @entry s s' step signal report entry =>
      cases entry with
      | frame free arrival =>
          obtain rfl := Option.some.inj hvideo
          exact arrival.error
      | _ => cases hvideo
  | textLook wake => cases hvideo
  | frameLook wake =>
      cases wake with
      | idle frame => cases hvideo
      | done frame turn =>
          obtain rfl := Option.some.inj hvideo
          exact turn.error
      | waits frame turn => cases hvideo

/-- A rasterizer draws what another one draws, or it fails, or its bytes do not fit the size. -/
def Rasterizer.DrawsLike (partly fully : Rasterizer) : Prop :=
  ∀ text style, partly.rasterize text style = fully.rasterize text style ∨
    (∃ error, partly.rasterize text style = .error error) ∨
    ∃ raster, partly.rasterize text style = .ok raster ∧ raster.isWellFormed = false

theorem Rasterizer.DrawsLike.drawn?_eq {fully partly : Rasterizer} (h : partly.DrawsLike fully)
    (text : List Char) (style : TextStyle) (hdrawn : partly.drawn? text style ≠ none) :
    partly.drawn? text style = fully.drawn? text style := by
  rcases h (spaced text) style with hsame | ⟨error, herror⟩ | ⟨raster, hraster, hsize⟩
  · unfold drawn?
    rw [hsame]
  · exact absurd (drawn?_of_error herror) hdrawn
  · exact absurd (drawn?_of_malformed hraster hsize) hdrawn

/-- A frame is decided upon in a stage, and its text cannot be drawn. -/
def Stage.Undrawn (stage : Stage) (rasterizer : Rasterizer) : Prop :=
  ∃ call text consume, stage.decision? = some (call, .overlay text consume) ∧
    rasterizer.drawn? text (stage.before.overlay.config.textStyle call.item.payload.info.width
      call.item.payload.info.height true) = none

section Treat

variable {fully partly : Rasterizer} {attach : Bool} {item : VideoItem} {said drawn : Config}

theorem treat_of_undrawn {text : List Char} (h : partly.drawn? text
      (drawn.textStyle item.payload.info.width item.payload.info.height true) = none) :
    treat partly attach item said drawn (some text) = ⟨item, .passthrough⟩ := by
  have hnone : drawn.composition? partly text item.payload.info = none := by
    simp only [Config.composition?, h, Option.map_none]
  cases hsilent : said.silent <;> simp [treat, hsilent, hnone]

theorem treat_of_drawn (hlike : partly.DrawsLike fully) (text? : Option (List Char))
    (h : ∀ text, text? = some text → partly.drawn? text
      (drawn.textStyle item.payload.info.width item.payload.info.height true) ≠ none) :
    treat partly attach item said drawn text? = treat fully attach item said drawn text? := by
  cases text? with
  | none => simp only [treat, ite_self, Option.bind_none]
  | some text =>
      have hsame : drawn.composition? partly text item.payload.info =
          drawn.composition? fully text item.payload.info := by
        simp only [Config.composition?, hlike.drawn?_eq text _ (h text rfl)]
      cases hsilent : said.silent <;> simp [treat, hsilent, hsame]

/-- The treatment of a frame leaves its times alone. -/
theorem item_of_treated {frame : ScheduledFrame} {text? : Option (List Char)}
    (h : frame.unnumbered = treat fully attach item said drawn text?) :
    { frame.item with payload := item.payload } = item := by
  have htreat : (treat fully attach item said drawn text?).item.pts = item.pts ∧
      (treat fully attach item said drawn text?).item.duration = item.duration := by
    unfold treat
    dsimp only
    split <;> exact ⟨rfl, rfl⟩
  have hframe : frame.unnumbered.item.pts = frame.item.pts ∧
      frame.unnumbered.item.duration = frame.item.duration := by
    unfold ScheduledFrame.unnumbered
    split <;> exact ⟨rfl, rfl⟩
  rw [h] at hframe
  obtain ⟨pts, duration, payload⟩ := item
  simp only [← hframe.1, ← hframe.2, htreat.1, htreat.2]

end Treat

namespace Stage.Twins

variable {stage stage' : Stage} {fully partly : Rasterizer} {frame frame' : ScheduledFrame}

theorem decision?_eq (h : stage.Twins stage') : stage'.decision? = stage.decision? := by
  have hframe : stage'.before.frame = stage.before.frame := congrArg (·.frame) h.before
  have hoverlay : stage'.before.overlay.uncached = stage.before.overlay.uncached :=
    congrArg (·.overlay) h.before
  have hlook (span : TimeSpan) := (Overlay.lookAt_congr hoverlay span).2
  have harrives (item : VideoItem) :
      stage'.before.overlay.decision? item = stage.before.overlay.decision? item := by
    simp only [Overlay.decision?, Overlay.admitFrame_congr hoverlay, hlook,
      Overlay.decisionAlone?_congr hoverlay]
  simp only [decision?, h.phase, hframe, harrives, hlook]

private theorem frames_of_decided {call : FrameCall} {d : Decision} (h : stage.Twins stage')
    (hlike : partly.DrawsLike fully) (htreats : stage.Treats fully)
    (htreats' : stage'.Treats partly) (hvideo : stage.video = some (.ok (some frame)))
    (hvideo' : stage'.video = some (.ok (some frame')))
    (hdecision : stage.decision? = some (call, d)) :
    (¬ stage.Undrawn partly → frame'.unnumbered = frame.unnumbered) ∧
      (stage.Undrawn partly →
        frame' = ⟨{ frame.item with payload := call.item.payload }, .passthrough⟩) := by
  obtain ⟨left, hleft, htreated⟩ := htreats.decided call d hdecision
  obtain ⟨left', hleft', htreated'⟩ := htreats'.decided call d (h.decision?_eq.trans hdecision)
  obtain rfl : left = frame := by simpa [hvideo] using hleft.symm
  obtain rfl : left' = frame' := by simpa [hvideo'] using hleft'.symm
  rw [h.config, h.attach] at htreated'
  constructor
  · intro hdrawn
    rw [htreated, htreated']
    apply treat_of_drawn hlike
    intro text htext hnone
    cases d with
    | passthrough => cases htext
    | overlay shown consume =>
        obtain rfl := Option.some.inj htext
        exact hdrawn ⟨call, shown, consume, hdecision, hnone⟩
  · rintro ⟨call', text, consume, hshown, hnone⟩
    obtain ⟨rfl, rfl⟩ := Prod.mk.inj (Option.some.inj (hdecision.symm.trans hshown))
    rw [item_of_treated htreated]
    apply ScheduledFrame.eq_of_unnumbered
    rw [htreated', Decision.text?, treat_of_undrawn hnone]

theorem frames_of_undecided (h : stage.Twins stage') (htreats : stage.Treats fully)
    (htreats' : stage'.Treats partly) (hvideo : stage.video = some (.ok (some frame)))
    (hvideo' : stage'.video = some (.ok (some frame'))) (hdecision : stage.decision? = none) :
    frame' = frame := by
  obtain ⟨item, part, start, hphase, -, hadmission, rfl⟩ :=
    htreats.unclocked hdecision frame hvideo
  obtain ⟨item', part', start', hphase', -, hadmission', rfl⟩ :=
    htreats'.unclocked (h.decision?_eq.trans hdecision) frame' hvideo'
  -- both have been taken in by the same admission
  obtain rfl : item' = item := by
    have hstep := hphase'.symm.trans (h.phase.trans hphase)
    exact Step.frame.inj (Phase.entry.inj hstep)
  rw [Overlay.admitFrame_congr (congrArg (·.overlay) h.before), hadmission] at hadmission'
  obtain ⟨rfl, -⟩ := Admission.unclocked.inj hadmission'
  rfl

/-- Of two frames that leave in the same stage of both sessions, the second one passes if its
text cannot be drawn, and otherwise both are the same. -/
theorem frames (h : stage.Twins stage') (hlike : partly.DrawsLike fully)
    (htreats : stage.Treats fully) (htreats' : stage'.Treats partly)
    (hvideo : stage.video = some (.ok (some frame)))
    (hvideo' : stage'.video = some (.ok (some frame'))) :
    (¬ stage.Undrawn partly → frame'.unnumbered = frame.unnumbered) ∧
      (stage.Undrawn partly → ∃ call d, stage.decision? = some (call, d) ∧
        frame' = ⟨{ frame.item with payload := call.item.payload }, .passthrough⟩) := by
  cases hdecision : stage.decision? with
  | some decided =>
      obtain ⟨call, d⟩ := decided
      obtain ⟨hdrawn, hundrawn⟩ :=
        h.frames_of_decided hlike htreats htreats' hvideo hvideo' hdecision
      exact ⟨hdrawn, fun hnone => ⟨call, d, rfl, hundrawn hnone⟩⟩
  | none =>
      have hsame := h.frames_of_undecided htreats htreats' hvideo hvideo' hdecision
      refine ⟨fun _ => congrArg ScheduledFrame.unnumbered hsame, ?_⟩
      rintro ⟨call, text, consume, hshown, -⟩
      rw [hdecision] at hshown
      cases hshown

end Stage.Twins

/-! ## Overflows -/

/-- A frame is decided upon in a stage, and the size of the image that the rasterizer gives for its
text does not fit. -/
def Stage.Oversized (stage : Stage) (rasterizer : Rasterizer) : Prop :=
  ∃ call text consume raster, stage.decision? = some (call, .overlay text consume) ∧
    rasterizer.rasterize (spaced text) (stage.before.overlay.config.textStyle
      call.item.payload.info.width call.item.payload.info.height true) = .ok raster ∧
    longCount ≤ raster.expectedSize

theorem RenderCache.exists_oversized {c : RenderCache} {rasterizer : Rasterizer}
    {text : List Char} {style : TextStyle} {overflow : Overflow}
    (h : c.overflow? rasterizer text style = some overflow) :
    ∃ raster, rasterizer.rasterize (spaced text) style = .ok raster ∧
      longCount ≤ raster.expectedSize := by
  by_contra hnone
  have hfits : c.overflow? rasterizer text style = none :=
    overflow?_of_fits fun raster hraster =>
      Nat.lt_of_not_le fun hle => hnone ⟨raster, hraster, hle⟩
  rw [hfits] at h
  cases h

namespace Overlay

variable {o o' : Overlay} {fully partly : Rasterizer} {text : List Char} {info : VideoInfo}
  {config : Config} {overflow : Overflow}

/-- What is placed on a frame by the one rasterizer is placed on it by the other one. -/
theorem exists_composed (h : o'.uncached = o.uncached) (hlike : partly.DrawsLike fully)
    (ho : o.cache.Exact fully) (ho' : o'.cache.Exact partly) {c : Composition}
    (hc : (o'.composeText partly text info).2 = some c) :
    ∃ c₀, (o.composeText fully text info).2 = some c₀ ∧ c₀.image.raster = c.image.raster := by
  have hconfig : o'.config = o.config := congrArg (·.config) h
  have hpartly := composeText_unnumbered ho' text info
  rw [hc, Option.map_some, hconfig] at hpartly
  have hdrawn : partly.drawn? text (o.config.textStyle info.width info.height true) ≠ none := by
    intro hnone
    simp [Config.composition?, hnone] at hpartly
  have hsame : o.config.composition? partly text info = o.config.composition? fully text info := by
    simp only [Config.composition?, hlike.drawn?_eq text _ hdrawn]
  have hfully := composeText_unnumbered ho text info
  rw [← hsame, ← hpartly] at hfully
  obtain ⟨c₀, hc₀, hunnumbered⟩ := Option.map_eq_some_iff.mp hfully
  exact ⟨c₀, hc₀, congrArg (·.image.raster) hunnumbered⟩

/-- What overflows with the one rasterizer overflows with the other one, but for the sizes of its
own images. -/
theorem overflows_too (h : o'.uncached = o.uncached) (hlike : partly.DrawsLike fully)
    (ho : o.cache.Exact fully) (ho' : o'.cache.Exact partly)
    (hover : o'.showingOverflow? partly info config text = some overflow) :
    (∃ overflow, o.showingOverflow? fully info config text = some overflow) ∨
      ∃ raster, partly.rasterize (spaced text)
          (o.config.textStyle info.width info.height true) = .ok raster ∧
        longCount ≤ raster.expectedSize := by
  have hconfig : o'.config = o.config := congrArg (·.config) h
  have hattach : o'.attach = o.attach := congrArg (·.attach) h
  unfold showingOverflow? at hover ⊢
  rw [hconfig] at hover
  cases hcache : o'.cache.overflow? partly text
      (o.config.textStyle info.width info.height true) with
  | some overflow => exact .inr (RenderCache.exists_oversized hcache)
  | none =>
      rw [hcache] at hover
      obtain ⟨c, hc, hside⟩ := Option.bind_eq_some_iff.mp hover
      obtain ⟨c₀, hc₀, hraster⟩ := exists_composed h hlike ho ho' hc
      refine .inl ?_
      cases o.cache.overflow? fully text (o.config.textStyle info.width info.height true) with
      | some overflow => exact ⟨overflow, rfl⟩
      | none =>
          refine ⟨overflow, ?_⟩
          simp only [hc₀, Option.bind_some, hraster, ← hattach]
          exact hside

end Overlay

/-- A stage overflows with both rasterizers, or the size of an image does not fit. -/
theorem Stage.Twins.overflows {stage stage' : Stage} {fully partly : Rasterizer}
    {overflow : Overflow} (h : stage.Twins stage') (hlike : partly.DrawsLike fully)
    (ho : stage.before.overlay.cache.Exact fully) (ho' : stage'.before.overlay.cache.Exact partly)
    (hover : stage'.overflow? partly = some overflow) :
    (∃ overflow, stage.overflow? fully = some overflow) ∨ stage.Oversized partly := by
  have hframe : stage'.before.frame = stage.before.frame := congrArg (·.frame) h.before
  have hoverlay : stage'.before.overlay.uncached = stage.before.overlay.uncached :=
    congrArg (·.overlay) h.before
  rcases Stage.overflow?_eq_some_iff.mp hover with ⟨rfl, hendless⟩ | ⟨call, d, hdecision, hfinish⟩
  · -- the frame has no end, whatever is drawn
    obtain ⟨item, part, start, hphase, hfree, hadmission, hends⟩ := hendless
    have hsegment : stage'.before.overlay.videoSegment = stage.before.overlay.videoSegment :=
      congrArg (·.videoSegment) hoverlay
    rw [Overlay.admitFrame_congr hoverlay] at hadmission
    rw [hsegment] at hends
    exact .inl ⟨_, Stage.overflow?_eq_some_iff.mpr (.inl ⟨rfl, item, part, start,
      h.phase.symm.trans hphase, hframe.symm.trans hfree, hadmission, hends⟩)⟩
  · rw [h.decision?_eq] at hdecision
    cases d with
    | passthrough => cases hfinish
    | overlay text consume =>
        rcases Overlay.overflows_too hoverlay hlike ho ho' hfinish with
          ⟨overflow, hfully⟩ | ⟨raster, hraster, hsize⟩
        · exact .inl ⟨overflow, Stage.overflow?_eq_some_iff.mpr
            (.inr ⟨call, _, hdecision, hfully⟩)⟩
        · exact .inr ⟨call, text, consume, raster, hdecision, hraster, hsize⟩

namespace Session

/-- A caption that is still shown after the frame below. -/
def lasting : TextItem :=
  ⟨some 0, some 80, .ofString "a" .plain⟩

/-- A frame that shows the caption. -/
def captionedFrame : VideoItem :=
  ⟨some 0, some 40, .black ⟨.gray8, 2, 1, 0, 1, Nat.zero_lt_two, Nat.zero_lt_one⟩⟩

end Session

end Captioning
