import Captioning.Overlay.Overflow
import Captioning.Proofs.Overlay.Admitting
import Captioning.Proofs.Overlay.Looking

/-!
# What overflows when a frame is decided upon

A frame overflows because its end is no clock time, or because of what is decided upon it.  The
first is told from its times, and then nothing is decided.  The second is told from the text that
it shows, the settings of the overlay and the image that the cache hands out; whether a caption is
pending does not matter.

So all that can overflow at an arrival is read off the admission of the frame
(`Overlay.arrivalOverflow?_eq`), although an arrival is asked for it without the bytes.
-/

namespace Captioning

/-! ## Numbers that fit -/

theorem VideoInfo.sizeOverflow?_eq_none_iff {info : VideoInfo} :
    info.sizeOverflow? = none ↔ info.size < longCount := by
  unfold sizeOverflow?
  split <;> simp [*]

theorem VideoInfo.sideOverflow?_eq_some_iff {info : VideoInfo} {overflow : Overflow} :
    info.sideOverflow? = some overflow ↔ overflow = .frameSide ∧
      (signedWordCount ≤ info.width ∨ signedWordCount ≤ info.height) := by
  unfold sideOverflow?
  split
  next hfits => simp [hfits]
  next hwide =>
    rw [Decidable.not_and_iff_or_not, Nat.not_lt, Nat.not_lt] at hwide
    simp [hwide, eq_comm]

/-- A frame that is one pixel too wide for a darkened box. -/
def wideFrame : VideoItem :=
  ⟨some 0, some 40000000,
    .black ⟨.gray8, 2147483648, 1, 25, 1, by decide +kernel, Nat.zero_lt_one⟩⟩

/-- Images are drawn on darkened boxes, and frames of a size have a side that leaves no room for
such a box. -/
structure Config.Overshadows (config : Config) (attach : Bool) (width height : Nat) : Prop where
  drawn : attach = false
  darkened : config.shadedBackground = true
  wide : signedWordCount ≤ width ∨ signedWordCount ≤ height

theorem Raster.sizeOverflow?_eq_none_iff {r : Raster} :
    r.sizeOverflow? = none ↔ r.expectedSize < longCount := by
  unfold sizeOverflow?
  split <;> simp [*]

/-- A cache overflows only with an image that the rasterizer gives. -/
theorem RenderCache.overflow?_of_fits {c : RenderCache} {rasterizer : Rasterizer}
    {text : List Char} {style : TextStyle}
    (hfits : ∀ raster, rasterizer.rasterize (spaced text) style = .ok raster →
      raster.expectedSize < longCount) :
    c.overflow? rasterizer text style = none := by
  unfold overflow?
  split
  · rfl
  · split
    next => rfl
    next raster hraster => exact Raster.sizeOverflow?_eq_none_iff.mpr (hfits raster hraster)

namespace Overlay

variable {o : Overlay} {rasterizer : Rasterizer} {info : VideoInfo} {config : Config}

/-! ## Decisions -/

/-- An image on a frame overflows only if it has pixels and is drawn on a darkened box. -/
theorem compositeOverflow?_eq_some_iff {image : Raster} {attach : Bool} {overflow : Overflow} :
    info.compositeOverflow? image attach (shading config) = some overflow ↔
      overflow = .frameSide ∧ image.isEmpty = false ∧
        config.Overshadows attach info.width info.height := by
  have hshading : (shading config).isNone = !config.shadedBackground := by
    unfold shading
    split <;> simp [*]
  unfold VideoInfo.compositeOverflow?
  split
  next hspared =>
    simp only [hshading, Bool.or_eq_true, Bool.not_eq_true'] at hspared
    constructor
    · exact nofun
    · rintro ⟨-, hvisible, hdrawn, hdarkened, -⟩
      simp [hvisible, hdrawn, hdarkened] at hspared
  next hdrawn =>
    simp only [hshading, Bool.or_eq_true, Bool.not_eq_true', not_or, Bool.not_eq_true,
      Bool.not_eq_false] at hdrawn
    obtain ⟨⟨hvisible, hattach⟩, hdarkened⟩ := hdrawn
    rw [VideoInfo.sideOverflow?_eq_some_iff]
    exact and_congr_right fun _ =>
      ⟨fun hwide => ⟨hvisible, hattach, hdarkened, hwide⟩, fun h => h.2.wide⟩

/-- A text whose image does not overflow overflows as this image does on the frame. -/
theorem showingOverflow?_of_composed {text : List Char} {c : Composition}
    (hfits : o.cache.overflow? rasterizer text
      (o.config.textStyle info.width info.height true) = none)
    (hc : (o.composeText rasterizer text info).2 = some c) :
    o.showingOverflow? rasterizer info config text =
      info.compositeOverflow? c.image.raster o.attach (shading config) := by
  simp only [showingOverflow?, hfits, hc, Option.bind_some]

/-- A text whose image fits overflows only if the box behind it is to be darkened. -/
theorem overshadows_of_showingOverflow? {text : List Char} {overflow : Overflow}
    (hfits : ∀ raster, rasterizer.rasterize (spaced text)
      (o.config.textStyle info.width info.height true) = .ok raster →
        raster.expectedSize < longCount)
    (h : o.showingOverflow? rasterizer info config text = some overflow) :
    overflow = .frameSide ∧ config.Overshadows o.attach info.width info.height := by
  simp only [showingOverflow?, RenderCache.overflow?_of_fits hfits] at h
  obtain ⟨c, -, hside⟩ := Option.bind_eq_some_iff.mp h
  obtain ⟨hoverflow, -, hdark⟩ := compositeOverflow?_eq_some_iff.mp hside
  exact ⟨hoverflow, hdark⟩

/-- Whether a caption is pending does not matter for what overflows. -/
theorem finishOverflow?_withSlot (o : Overlay) (slot : Option TextItem) (d : Decision) :
    ({ o with slot := slot } : Overlay).finishOverflow? rasterizer info config d =
      o.finishOverflow? rasterizer info config d := by
  cases d <;> rfl

/-- A look overflows as its decision does. -/
theorem lookOverflow?_eq (o : Overlay) (rasterizer : Rasterizer) (info : VideoInfo)
    (config : Config) (span : TimeSpan) :
    o.lookOverflow? rasterizer info config span =
      (o.lookAt span).2.2.decision?.bind (o.finishOverflow? rasterizer info config) := by
  obtain ⟨slot, hseen⟩ := o.lookAt_fst span
  unfold lookOverflow?
  generalize o.lookAt span = look at hseen
  obtain ⟨seen, signal, verdict⟩ := look
  obtain rfl : seen = { o with slot := slot } := hseen
  cases verdict with
  | refused error => rfl
  | waiting => rfl
  | decided d => exact finishOverflow?_withSlot o slot d

/-! ## Arrivals -/

section Sketches

variable {α β : Type} (f : α → β) (segment : Segment) (item : StreamItem α) (start : ClockTime)

theorem clipFrame?_map (pts : ClockTime) :
    clipFrame? segment (item.map f) pts =
      (clipFrame? segment item pts).map fun (part, start) => (part.map f, start) := by
  have hduration : (item.map f).duration = item.duration := rfl
  have hstop : (item.map f).stop = item.stop := rfl
  simp only [clipFrame?, hduration, hstop]
  split
  · rfl
  · rw [Option.map_map]
    rfl

theorem spanOf?_map (info : VideoInfo) :
    spanOf? segment info (item.map f) start = spanOf? segment info item start := rfl

end Sketches

/-- What overflows at an arrival is the end of a frame that has none, or what is decided upon the
frame. -/
theorem arrivalOverflow?_eq (o : Overlay) (rasterizer : Rasterizer) (item : VideoItem) :
    o.arrivalOverflow? rasterizer (item.map VideoFrame.info) =
      match o.admitFrame item with
      | .unclocked part start =>
          match frameStop? o.videoSegment part.payload.info part start with
          | none => some .frameStop
          | some _ => none
      | .admitted call =>
          ((o.decisionAlone? call).or (o.lookAt call.span).2.2.decision?).bind
            (o.finishOverflow? rasterizer call.item.payload.info call.config)
      | _ => none := by
  have hpts : (item.map VideoFrame.info).pts = item.pts := rfl
  unfold arrivalOverflow? admitFrame
  rw [hpts]
  cases item.pts with
  | none => cases o.flow.videoFault? <;> rfl
  | some pts =>
      cases o.flow.videoFault? with
      | some error => rfl
      | none =>
          simp only [Option.bind_some, clipFrame?_map]
          cases clipFrame? o.videoSegment item pts with
          | none => rfl
          | some cut =>
              obtain ⟨part, start⟩ := cut
              have hinfo : (part.map VideoFrame.info).payload = part.payload.info := rfl
              have hstop (info : VideoInfo) :
                  frameStop? o.videoSegment info (part.map VideoFrame.info) start =
                    frameStop? o.videoSegment info part start := rfl
              simp only [Option.map_some, hinfo, hstop, spanOf?_map]
              cases hspan : frameSpan? o.videoSegment part start with
              | none =>
                  rw [frameSpan?] at hspan
                  rw [hspan]
                  rfl
              | some span =>
                  rw [frameSpan?] at hspan
                  obtain ⟨stop, hknown⟩ : ∃ stop,
                      frameStop? o.videoSegment part.payload.info part start = some stop := by
                    cases hends : frameStop? o.videoSegment part.payload.info part start with
                    | some stop => exact ⟨stop, rfl⟩
                    | none => cases (frameSpan?_of_endless hends).symm.trans hspan
                  simp only [hspan, hknown, Option.bind_some, decisionAlone?, lookOverflow?_eq]
                  cases o.providedDecision? o.config start span.start <;> rfl

end Overlay

end Captioning
