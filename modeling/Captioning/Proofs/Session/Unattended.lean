import Captioning.Proofs.Overlay.Overflowing
import Captioning.Proofs.Render.Transparency
import Captioning.Proofs.Session.Billing
import Captioning.Proofs.Session.Overflowing
import Captioning.Proofs.Text.Clock
import Mathlib.Data.List.Destutter

/-!
# Overlays without a text input

A new overlay whose text input is never connected shows on each frame what its provider says.  No
frame waits, since there is nothing to wait for, and an image is made only when the text is another
one than that of the frame before.

## Strategy

After some frames the cache keeps the image of the last text that was shown, and it has asked for
one image wherever the text changed (`RenderCache.Traces`).  One rendering keeps this up
(`RenderCache.Traces.render`), a frame without a text does not touch the cache, and nothing else
makes the image stale.  The rest of the overlay stays as it was set up (`Session.Unattended`), so
each frame meets the same conditions as the first one (`Session.Unattended.step`).  For the same
reason it is known in advance which frames overflow: those with a text that is to be drawn on a
darkened box for which their size leaves no room (`Session.Unattended.overflow?_eq_some_iff`).
-/

namespace Captioning

/-! ## Changes in a list -/

private theorem destutter'_concat_ne {α : Type} [DecidableEq α] (a b : α) (l : List α) :
    (l ++ [b]).destutter' (· ≠ ·) a =
      l.destutter' (· ≠ ·) a ++ if (a :: l).getLast? = some b then [] else [b] := by
  induction l generalizing a with
  | nil => by_cases h : a = b <;> simp [h]
  | cons c l ih =>
      rw [List.getLast?_cons_cons, List.cons_append]
      by_cases h : a = c
      · subst h
        rw [List.destutter'_cons_neg _ (by simp), List.destutter'_cons_neg _ (by simp), ih]
      · rw [List.destutter'_cons_pos _ h, List.destutter'_cons_pos _ h, ih, List.cons_append]

/-- One more entry is a change unless it is the same as the last one. -/
theorem destutter_concat_ne {α : Type} [DecidableEq α] (l : List α) (b : α) :
    (l ++ [b]).destutter (· ≠ ·) =
      l.destutter (· ≠ ·) ++ if l.getLast? = some b then [] else [b] := by
  cases l with
  | nil => rfl
  | cons a l => exact destutter'_concat_ne a b l

/-! ## The cache -/

/-- The rasterizer gives an image for every text, and each image has pixels. -/
structure Rasterizer.Paints (rasterizer : Rasterizer) : Prop where
  draws : rasterizer.Draws
  visible : ∀ text style raster, rasterizer.rasterize text style = .ok raster →
    raster.isEmpty = false

theorem Rasterizer.white_paints : Rasterizer.white.Paints where
  draws text _ := ⟨_, rfl, Raster.isWellFormed_ofFn _ _ _ _⟩
  visible := by
    intro text style raster hdrawn
    obtain rfl := Except.ok.inj hdrawn
    simp [Raster.whiteRow, Raster.isEmpty, Raster.ofFn]

namespace RenderCache

variable {c c' : RenderCache} {rasterizer : Rasterizer} {text : List Char} {style : TextStyle}
  {texts : List (List Char)}

/-- A cache that was asked for the images of some texts in one style.  It has asked the rasterizer
wherever the text changed, and keeps the image of the last text. -/
structure Traces (c : RenderCache) (rasterizer : Rasterizer) (style : TextStyle)
    (texts : List (List Char)) : Prop where
  faithful : c.Faithful rasterizer
  requests : c.requests.reverse =
    (texts.destutter (· ≠ ·)).map fun text => ⟨spaced text, style⟩
  kept : ∀ text, (c.kept? (style.sourceKey text)).isSome = true ↔ texts.getLast? = some text

theorem traces_nil (rasterizer : Rasterizer) (style : TextStyle) (himage : c.image = none)
    (hrequests : c.requests = []) : c.Traces rasterizer style [] where
  faithful := by
    intro image hsome
    rw [himage] at hsome
    cases hsome
  requests := by
    rw [hrequests]
    rfl
  kept text := by simp [kept?, himage]

/-- A rendering hands out the image that the cache keeps from then on. -/
theorem Traces.render (h : c.Traces rasterizer style texts) (hdraws : rasterizer.Draws)
    (text : List Char) :
    ∃ image, (c.render rasterizer text style).2 = .ok image ∧
      (c.render rasterizer text style).1.image = some image ∧
      image.Depicts rasterizer text style ∧
      (c.render rasterizer text style).1.Traces rasterizer style (texts ++ [text]) := by
  have hrendering := c.render_rendering rasterizer text style
  obtain ⟨raster, hraster, hsize⟩ := hdraws (spaced text) style
  generalize (c.render rasterizer text style).1 = c' at hrendering ⊢
  generalize (c.render rasterizer text style).2 = result at hrendering ⊢
  have hfaithful := hrendering.faithful h.faithful
  cases hrendering with
  | failed stale drawn => cases hraster.symm.trans drawn
  | malformed stale drawn size =>
      obtain rfl := Except.ok.inj (hraster.symm.trans drawn)
      cases hsize.symm.trans size
  | @kept image clean current source =>
      have hkept := (kept?_eq_some_iff clean current).mpr ⟨rfl, source⟩
      have hlast : texts.getLast? = some text := (h.kept text).mp (by rw [hkept]; rfl)
      refine ⟨image, rfl, current, Rendering.depicts (.kept clean current source) h.faithful,
        hfaithful, ?_, ?_⟩
      · rw [destutter_concat_ne, if_pos hlast, List.append_nil]
        exact h.requests
      · intro text'
        rw [h.kept, hlast, List.getLast?_concat]
  | @drawn raster stale drawn size =>
      have hlast : ¬ texts.getLast? = some text := by
        rw [← h.kept, stale]
        simp
      refine ⟨_, rfl, rfl, ⟨rfl, drawn⟩, hfaithful, ?_, ?_⟩
      · rw [destutter_concat_ne, if_neg hlast, List.map_append, ← h.requests]
        exact List.reverse_cons
      · intro text'
        rw [List.getLast?_concat, Option.isSome_iff_exists]
        constructor
        · rintro ⟨image, himage⟩
          obtain ⟨rfl, hsource⟩ := (kept?_eq_some_iff rfl rfl).mp himage
          rw [(TextStyle.sourceKey_inj hsource).2]
        · intro htext
          obtain rfl := Option.some.inj htext
          exact ⟨_, (kept?_eq_some_iff rfl rfl).mpr ⟨rfl, rfl⟩⟩

end RenderCache

/-! ## One frame -/

/-- A frame of the given size whose end is a clock time.  A frame of unknown duration lasts as long
as the frame rate says, or one nanosecond. -/
structure IsShot (width height : ℕ) (item : VideoItem) : Prop where
  width : item.payload.info.width = width
  height : item.payload.info.height = height
  timed : ∃ pts, item.pts = some pts ∧
    pts + item.duration.getD (item.payload.info.frameDuration.getD 1) < ClockTime.limit

namespace Overlay

variable {o : Overlay} {rasterizer : Rasterizer} {item : VideoItem} {width height : ℕ}

/-- What the provider says for a frame of the whole stream, where timestamps are their own running
time. -/
def said (o : Overlay) (item : VideoItem) : List Char :=
  o.provider.text (item.pts.getD 0) item.pts o.config

/-- What the provider says for some frames, where it says something. -/
def spoken (o : Overlay) (items : List VideoItem) : List (List Char) :=
  (items.map o.said).filter (· ≠ [])

theorem said_ne_nil_of_clock (h : o.provider = .clock) : o.said item ≠ [] := by
  rw [said, h]
  simp only [TextProvider.clock, ClockTime.toList_renderMillis, ClockTime.Rows.chars]
  split <;> simp

/-- The configured text may be empty, the running time is not. -/
theorem said_eq_nil_iff (h : o.provider = .configured ∨ o.provider = .clock) :
    o.said item = [] ↔ o.provider = .configured ∧ o.config.text = "" := by
  constructor
  · intro hsaid
    rcases h with hprovider | hprovider
    · rw [said, hprovider] at hsaid
      exact ⟨hprovider, String.toList_eq_nil_iff.mp hsaid⟩
    · exact absurd hsaid (said_ne_nil_of_clock hprovider)
  · rintro ⟨hprovider, htext⟩
    simp [said, hprovider, TextProvider.configured, htext]

/-- The running time is said up to the millisecond. -/
theorem millisecond_of_said {item' : VideoItem} {pts pts' : ClockTime}
    (hprovider : o.provider = .clock) (hpts : item.pts = some pts) (hpts' : item'.pts = some pts')
    (h : o.said item = o.said item') :
    pts / ClockTime.millisecond = pts' / ClockTime.millisecond := by
  simp only [said, hprovider, hpts, hpts', TextProvider.clock, Option.getD_some] at h
  refine ClockTime.renderMillis_eq_iff.mp (String.toList_inj.mp ?_)
  split at h
  · exact h
  · exact (List.cons.inj (List.append_cancel_left h)).2

/-- A frame with an image at the place that the configuration demands. -/
def withImage (o : Overlay) (item : VideoItem) (image : RenderedImage) : ScheduledFrame :=
  let (x, y) := o.config.layout.place image.raster.width image.raster.height image.raster.baseline
    item.payload.info.width item.payload.info.height
  let (picture, outcome) := item.payload.composite ⟨image, x, y⟩ o.attach (shading o.config)
  ⟨{ item with payload := picture }, outcome⟩

/-- How a frame leaves with a text: as it came if the text is empty, otherwise with the image that
the cache keeps from then on, which is what the rasterizer draws for the text. -/
inductive Shows (o : Overlay) (rasterizer : Rasterizer) (item : VideoItem) (text : List Char)
    (cache : RenderCache) : ScheduledFrame → Prop
  | passed (silence : text = []) : Shows o rasterizer item text cache ⟨item, .passthrough⟩
  | overlaid {image : RenderedImage} (speech : text ≠ []) (kept : cache.image = some image)
      (depicts : image.Depicts rasterizer text
        (o.config.textStyle item.payload.info.width item.payload.info.height true)) :
      Shows o rasterizer item text cache (o.withImage item image)

theorem outcome_withImage (o : Overlay) (item : VideoItem) {image : RenderedImage}
    (hvisible : image.raster.isEmpty = false) :
    (o.withImage item image).outcome = if o.attach then .attached else .blended := by
  simp only [withImage, VideoFrame.composite, hvisible, Bool.false_eq_true, if_false]
  split <;> rfl

theorem Shows.outcome_iff {text : List Char} {cache : RenderCache} {frame : ScheduledFrame}
    (h : o.Shows rasterizer item text cache frame) (hpaints : rasterizer.Paints) :
    frame.outcome = .passthrough ↔ text = [] := by
  cases h with
  | passed silence => exact iff_of_true rfl silence
  | overlaid speech kept depicts =>
      refine iff_of_false ?_ speech
      rw [outcome_withImage o item (hpaints.visible _ _ _ depicts.drawn)]
      split <;> simp

theorem Shows.depicts {text : List Char} {cache : RenderCache} {frame : ScheduledFrame}
    {image : RenderedImage} (h : o.Shows rasterizer item text cache frame) (hspeech : text ≠ [])
    (himage : cache.image = some image) :
    image.Depicts rasterizer text
      (o.config.textStyle item.payload.info.width item.payload.info.height true) := by
  cases h with
  | passed silence => exact absurd silence hspeech
  | overlaid speech kept depicts =>
      obtain rfl := Option.some.inj (himage.symm.trans kept)
      exact depicts

/-- An overlay without text input that takes frames of the whole stream and is not silent. -/
structure Alone (o : Overlay) : Prop where
  flow : o.flow = .initial
  video : ∃ position, o.videoSegment = Segment.whole.moveTo position
  speaks : o.config.silent = false

/-- A frame is admitted whole, and the provider alone decides upon it. -/
private theorem Alone.decides (ho : o.Alone) (hshot : IsShot width height item) :
    ∃ call, o.admitFrame item = .admitted call ∧ call.item = item ∧ call.config = o.config ∧
      o.decisionAlone? call =
        some (if (o.said item).isEmpty then .passthrough else .overlay (o.said item) false) := by
  obtain ⟨pts, hpts, hlimit⟩ := hshot.timed
  obtain ⟨position, hvideo⟩ := ho.video
  have hfault : o.flow.videoFault? = none := by rw [ho.flow]; rfl
  refine ⟨_, admitFrame_whole hpts hfault hvideo (frameSpan?_whole hpts hlimit), rfl, rfl, ?_⟩
  simp [decisionAlone?, providedDecision?, ho.speaks, ho.flow, Flow.initial, said, hpts]

/-- A frame for which the provider says nothing passes. -/
theorem Alone.schedule_of_silence (ho : o.Alone) (rasterizer : Rasterizer)
    (hshot : IsShot width height item) (hsaid : o.said item = []) :
    ∃ position, o.schedule rasterizer item =
      (o.reach position, .quiet, .done (.ok (some ⟨item, .passthrough⟩))) := by
  obtain ⟨call, hadmission, hitem, -, halone⟩ := ho.decides hshot
  rw [hsaid] at halone
  refine ⟨call.start, ?_⟩
  simp only [schedule, hadmission, halone, List.isEmpty_nil, if_true, finish, hitem]

/-- A frame for which the provider says something leaves with the image of that text. -/
theorem Alone.schedule_of_speech (ho : o.Alone) (hshot : IsShot width height item)
    (hsaid : o.said item ≠ []) {image : RenderedImage}
    (hrender : (o.cache.render rasterizer (o.said item)
      (o.config.textStyle width height true)).2 = .ok image) :
    ∃ position, o.schedule rasterizer item =
      (({ o with cache := (o.cache.render rasterizer (o.said item)
          (o.config.textStyle width height true)).1 }).reach position,
        .quiet, .done (.ok (some (o.withImage item image)))) := by
  obtain ⟨call, hadmission, hitem, hconfig, halone⟩ := ho.decides hshot
  obtain ⟨rfl, rfl, -⟩ := hshot
  obtain ⟨item', start, span, config⟩ := call
  obtain rfl : item' = item := hitem
  obtain rfl : config = o.config := hconfig
  have hspeech : (o.said item').isEmpty = false := by simpa using hsaid
  refine ⟨start, ?_⟩
  simp only [schedule, hadmission, halone, hspeech, Bool.false_eq_true, if_false, finish,
    composeText, hrender]
  rfl

/-- Only what is shown on a frame overflows. -/
theorem Alone.arrivalOverflow?_eq (ho : o.Alone) (rasterizer : Rasterizer)
    (hshot : IsShot width height item) :
    o.arrivalOverflow? rasterizer (item.map VideoFrame.info) =
      if o.said item = [] then none
      else o.showingOverflow? rasterizer item.payload.info o.config (o.said item) := by
  obtain ⟨call, hadmission, hitem, hconfig, halone⟩ := ho.decides hshot
  rw [Overlay.arrivalOverflow?_eq, hadmission]
  simp only [halone, hitem, hconfig, Option.some_or, Option.bind_some]
  by_cases hsaid : o.said item = []
  · simp [hsaid, finishOverflow?]
  · simp [hsaid, finishOverflow?]

end Overlay

/-! ## Before the frames -/

/-- What is done to a new overlay before frames come.  Its text input is not connected. -/
inductive Step.Prepares : Step → Prop
  | attach (on : Bool) : Prepares (.attach on)
  | configure (config : Config) : Prepares (.configure config)
  | provide (provider : TextProvider) : Prepares (.provide provider)
  | start : Prepares (.transit .start)

namespace Session

variable {start s : Session} {rasterizer : Rasterizer} {item : VideoItem} {items : List VideoItem}
  {width height : ℕ} {texts : List (List Char)}

/-- A session in which nothing has come yet. -/
structure Fresh (s : Session) : Prop where
  frame : s.frame = none
  flow : s.overlay.flow = .initial
  video : s.overlay.videoSegment = .whole
  image : s.overlay.cache.image = none
  requests : s.overlay.cache.requests = []

theorem initial_fresh : initial.Fresh :=
  ⟨rfl, rfl, rfl, rfl, rfl⟩

theorem Fresh.step (h : s.Fresh) {step : Step} (hstep : step.Prepares) :
    (s.step rasterizer step).1.Fresh := by
  obtain ⟨hframe, hflow, hvideo, himage, hrequests⟩ := h
  cases hstep with
  | attach on => exact ⟨hframe, hflow, hvideo, himage, hrequests⟩
  | provide provider => exact ⟨hframe, hflow, hvideo, himage, hrequests⟩
  | start =>
      refine ⟨hframe, ?_, rfl, himage, hrequests⟩
      have hconnected : s.overlay.flow.textConnected = false := by rw [hflow]; rfl
      exact congrArg (fun on => { Flow.initial with textConnected := on }) hconnected
  | configure config =>
      simp only [Session.step, enter, conclude, Overlay.configure]
      split
      · split <;> exact ⟨hframe, hflow, hvideo, himage, hrequests⟩
      · exact ⟨hframe, hflow, hvideo, himage, hrequests⟩

theorem Fresh.run (h : s.Fresh) {setup : List Step} (hsetup : ∀ step ∈ setup, step.Prepares) :
    (s.run rasterizer setup).1.Fresh := by
  induction setup generalizing s with
  | nil => exact h
  | cons step setup ih =>
      obtain ⟨hstep, hrest⟩ := List.forall_mem_cons.mp hsetup
      exact ih (h.step hstep) hrest

/-! ## Frames one after the other -/

/-- A session in which some texts were shown on frames of one size since a first session: the
overlay is set up as before, and the cache traces the texts. -/
structure Unattended (rasterizer : Rasterizer) (width height : ℕ) (start : Session)
    (texts : List (List Char)) (s : Session) : Prop where
  frame : s.frame = none
  flow : s.overlay.flow = .initial
  video : ∃ position, s.overlay.videoSegment = Segment.whole.moveTo position
  config : s.overlay.config = start.overlay.config
  provider : s.overlay.provider = start.overlay.provider
  attach : s.overlay.attach = start.overlay.attach
  traces : s.overlay.cache.Traces rasterizer
    (start.overlay.config.textStyle width height true) texts

theorem Fresh.unattended (h : start.Fresh) (rasterizer : Rasterizer) (width height : ℕ) :
    Unattended rasterizer width height start [] start where
  frame := h.frame
  flow := h.flow
  video := ⟨0, h.video⟩
  config := rfl
  provider := rfl
  attach := rfl
  traces := RenderCache.traces_nil rasterizer _ h.image h.requests

/-- A frame moves the position of the video segment, and may have changed the cache. -/
private theorem Unattended.reach {texts' : List (List Char)} {cache : RenderCache}
    (h : Unattended rasterizer width height start texts s) (position : ClockTime)
    (htraces : cache.Traces rasterizer (start.overlay.config.textStyle width height true) texts') :
    Unattended rasterizer width height start texts'
      { s with overlay := { s.overlay with cache := cache }.reach position } where
  frame := h.frame
  flow := h.flow
  video := by
    obtain ⟨before, hvideo⟩ := h.video
    have hmoved := congrArg (Segment.moveTo · position) hvideo
    exact ⟨position, hmoved⟩
  config := h.config
  provider := h.provider
  attach := h.attach
  traces := htraces

/-- A frame leaves at once with the text that the provider has for it. -/
theorem Unattended.step (h : Unattended rasterizer width height start texts s)
    (hdraws : rasterizer.Draws) (hspeaks : start.overlay.config.silent = false)
    (hshot : IsShot width height item) :
    ∃ frame, (s.step rasterizer (.frame item)).2 = ⟨.done, some (.ok (some frame)), none⟩ ∧
      start.overlay.Shows rasterizer item (start.overlay.said item)
        (s.step rasterizer (.frame item)).1.overlay.cache frame ∧
      Unattended rasterizer width height start (texts ++ start.overlay.spoken [item])
        (s.step rasterizer (.frame item)).1 := by
  have halone : s.overlay.Alone := ⟨h.flow, h.video, h.config ▸ hspeaks⟩
  have hsaid : s.overlay.said item = start.overlay.said item := by
    simp only [Overlay.said, h.provider, h.config]
  by_cases hsilence : start.overlay.said item = []
  · obtain ⟨position, hschedule⟩ :=
      halone.schedule_of_silence rasterizer hshot (hsaid.trans hsilence)
    have hspoken : texts ++ start.overlay.spoken [item] = texts := by
      simp [Overlay.spoken, hsilence]
    rw [step_frame_of_schedule h.frame hschedule, hspoken]
    exact ⟨_, rfl, .passed hsilence, h.reach position h.traces⟩
  · obtain ⟨image, hrender, hkept, hdepicts, htraces⟩ :=
      h.traces.render hdraws (start.overlay.said item)
    -- the overlay asks with its own configuration and provider, which are those of the start
    rw [← h.config, ← hsaid] at hrender hkept
    obtain ⟨position, hschedule⟩ :=
      halone.schedule_of_speech hshot (hsaid.trans_ne hsilence) hrender
    have hspoken : texts ++ start.overlay.spoken [item] = texts ++ [start.overlay.said item] := by
      simp [Overlay.spoken, hsilence]
    have hwith : s.overlay.withImage item image = start.overlay.withImage item image := by
      simp only [Overlay.withImage, h.attach, h.config]
    rw [step_frame_of_schedule h.frame hschedule, hspoken, hwith]
    refine ⟨_, rfl, .overlaid hsilence hkept ?_, h.reach position ?_⟩
    · rw [hshot.width, hshot.height]
      exact hdepicts
    · rw [hsaid, h.config]
      exact htraces

/-- What was shown by some frames one after the other. -/
theorem Unattended.run (h : Unattended rasterizer width height start [] start)
    (hdraws : rasterizer.Draws) (hspeaks : start.overlay.config.silent = false)
    (hshots : ∀ item ∈ items, IsShot width height item) :
    Unattended rasterizer width height start (start.overlay.spoken items)
      (start.run rasterizer (items.map .frame)).1 := by
  induction items using List.reverseRecOn with
  | nil => exact h
  | append_singleton items item ih =>
      obtain ⟨hbefore, hlast⟩ := List.forall_mem_append.mp hshots
      obtain ⟨-, -, -, hnext⟩ :=
        (ih hbefore).step hdraws hspeaks (List.forall_mem_singleton.mp hlast)
      rw [List.map_append, List.map_singleton, run_snoc]
      have hspoken : start.overlay.spoken (items ++ [item]) =
          start.overlay.spoken items ++ start.overlay.spoken [item] := by
        simp [Overlay.spoken]
      rw [hspoken]
      exact hnext

/-- A frame overflows exactly if a text is to be drawn on it and its size leaves no room for the
darkened box. -/
theorem Unattended.overflow?_eq_some_iff (h : Unattended rasterizer width height start texts s)
    (hpaints : rasterizer.Paints) (hspeaks : start.overlay.config.silent = false)
    (hshot : IsShot width height item)
    (hfits : ∀ raster, rasterizer.rasterize (spaced (start.overlay.said item))
      (start.overlay.config.textStyle width height true) = .ok raster →
        raster.expectedSize < longCount) {overflow : Overflow} :
    s.overflow? rasterizer (.frame item) = some overflow ↔
      overflow = .frameSide ∧ start.overlay.config.Overshadows start.overlay.attach width height ∧
        start.overlay.said item ≠ [] := by
  have halone : s.overlay.Alone := ⟨h.flow, h.video, h.config ▸ hspeaks⟩
  have hsaid : s.overlay.said item = start.overlay.said item := by
    simp only [Overlay.said, h.provider, h.config]
  have harrival := halone.arrivalOverflow?_eq rasterizer hshot
  by_cases hsilence : start.overlay.said item = []
  · obtain ⟨position, hschedule⟩ :=
      halone.schedule_of_silence rasterizer hshot (hsaid.trans hsilence)
    rw [overflow?_of_schedule h.frame hschedule, harrival, hsaid, if_pos hsilence]
    simp [hsilence]
  · obtain ⟨image, hrender, -, hdepicts, -⟩ :=
      h.traces.render hpaints.draws (start.overlay.said item)
    have hvisible := hpaints.visible _ _ _ hdepicts.drawn
    rw [← h.config, ← hsaid] at hrender hfits
    obtain ⟨position, hschedule⟩ :=
      halone.schedule_of_speech hshot (hsaid.trans_ne hsilence) hrender
    rw [overflow?_of_schedule h.frame hschedule, harrival, hsaid, if_neg hsilence, ← hsaid]
    obtain ⟨rfl, rfl, -⟩ := hshot
    rw [Overlay.showingOverflow?_of_composed (RenderCache.overflow?_of_fits hfits)
      (Overlay.composeText_of_ok _ _ _ hrender), Overlay.compositeOverflow?_eq_some_iff, h.attach,
      h.config]
    constructor
    · rintro ⟨rfl, -, hdark⟩
      exact ⟨rfl, hdark, hsaid ▸ hsilence⟩
    · rintro ⟨rfl, hdark, -⟩
      exact ⟨rfl, hvisible, hdark⟩

theorem Fresh.attempts (h : s.Fresh) {setup : List Step} (hsetup : ∀ step ∈ setup, step.Prepares) :
    s.attempts rasterizer setup = .ok (s.run rasterizer setup) := by
  induction setup generalizing s with
  | nil => rfl
  | cons step setup ih =>
      obtain ⟨hstep, hrest⟩ := List.forall_mem_cons.mp hsetup
      have hidle : s.overflow? rasterizer step = none :=
        overflow?_of_idle h.frame fun item hframe => by
          rw [hframe] at hstep
          cases hstep
      exact attempts_cons_eq_ok_iff.mpr ⟨hidle, _, ih (h.step hstep) hrest, rfl⟩

/-- **Without a text input frames never wait, and a text is drawn only when it changes.**  A new
overlay is set up, but its text input is not connected; its provider says the configured text or the
running time, and it is not silent.  The rasterizer draws every text, the images of the texts that
are said fit, and frames of one size are delivered one after the other.

* A frame overflows exactly if a text is to be drawn on it, on a darkened box, and its size leaves
  no room for such a box.
* Each other frame leaves at once: as it came if the configured text is all there is to say and it
  is empty, and otherwise with what the rasterizer draws for the text that the provider says for it.
* The rasterizer was asked for the texts that were said, one after the other, but not again for a
  text that is the same as that of the last frame with one.
* If the running time is said, two frames carry the same image only if they begin in the same
  millisecond. -/
theorem frames_show_provided_text (rasterizer : Rasterizer) (hpaints : rasterizer.Paints)
    (setup : List Step) (hsetup : ∀ step ∈ setup, step.Prepares) (width height : ℕ)
    (items : List VideoItem) (hshots : ∀ item ∈ items, IsShot width height item) :
    let start := (initial.run rasterizer setup).1
    let o := start.overlay
    let style := o.config.textStyle width height true
    initial.attempts rasterizer setup = .ok (initial.run rasterizer setup) ∧
    ((o.provider = .configured ∨ o.provider = .clock) → o.config.silent = false →
      (∀ item ∈ items, ∀ raster,
        rasterizer.rasterize (spaced (o.said item)) style = .ok raster →
          raster.expectedSize < longCount) →
      (∀ before item later s reports, items = before ++ item :: later →
        start.attempts rasterizer (before.map .frame) = .ok (s, reports) →
        (∀ overflow, s.attempt rasterizer (.frame item) = .error overflow ↔
          overflow = .frameSide ∧ o.config.Overshadows o.attach width height ∧ o.said item ≠ []) ∧
        ∀ s' report, s.attempt rasterizer (.frame item) = .ok (s', report) →
          ∃ frame, report = ⟨.done, some (.ok (some frame)), none⟩ ∧ s'.frame = none ∧
            o.Shows rasterizer item (o.said item) s'.overlay.cache frame ∧
            (frame.outcome = .passthrough ↔ o.provider = .configured ∧ o.config.text = "")) ∧
      (∀ s reports, start.attempts rasterizer (items.map .frame) = .ok (s, reports) →
        s.overlay.cache.requests.reverse =
          ((o.spoken items).destutter (· ≠ ·)).map fun text => ⟨spaced text, style⟩) ∧
      (o.provider = .clock → ∀ before item later before' item' later' s s' reports reports'
          pts pts' image,
        items = before ++ item :: later → items = before' ++ item' :: later' →
        start.attempts rasterizer ((before ++ [item]).map .frame) = .ok (s, reports) →
        start.attempts rasterizer ((before' ++ [item']).map .frame) = .ok (s', reports') →
        item.pts = some pts → item'.pts = some pts' →
        s.overlay.cache.image = some image → s'.overlay.cache.image = some image →
        pts / ClockTime.millisecond = pts' / ClockTime.millisecond)) := by
  intro start o style
  refine ⟨initial_fresh.attempts hsetup, ?_⟩
  intro hprovider hspeaks hfits
  have hstart : Unattended rasterizer width height start [] start :=
    (initial_fresh.run hsetup).unattended rasterizer width height
  clear_value start
  have hbefore : ∀ before item later s reports, items = before ++ item :: later →
      start.attempts rasterizer (before.map .frame) = .ok (s, reports) →
      Unattended rasterizer width height start (o.spoken before) s ∧
        IsShot width height item := by
    intro before item later s reports hitems hrun
    rw [hitems, List.forall_mem_append] at hshots
    have hreached := hstart.run hpaints.draws hspeaks hshots.1
    rw [run_of_attempts hrun] at hreached
    exact ⟨hreached, hshots.2 item List.mem_cons_self⟩
  refine ⟨?_, ?_, ?_⟩
  · intro before item later s reports hitems hrun
    obtain ⟨hreached, hitem⟩ := hbefore before item later s reports hitems hrun
    refine ⟨fun overflow => ?_, fun s' report hstep => ?_⟩
    · rw [attempt_eq_error_iff]
      exact hreached.overflow?_eq_some_iff hpaints hspeaks hitem (hfits item (by simp [hitems]))
    · obtain ⟨-, hstep⟩ := attempt_eq_ok_iff.mp hstep
      obtain ⟨frame, hreport, hframe, hnext⟩ := hreached.step hpaints.draws hspeaks hitem
      rw [hstep] at hreport hframe hnext
      refine ⟨frame, hreport, hnext.frame, hframe, ?_⟩
      rw [hframe.outcome_iff hpaints, Overlay.said_eq_nil_iff hprovider]
  · intro s reports hrun
    have hreached := hstart.run hpaints.draws hspeaks hshots
    rw [run_of_attempts hrun] at hreached
    exact hreached.traces.requests
  · intro hclock before item later before' item' later' s s' reports reports' pts pts' image hitems
      hitems' hrun hrun' hpts hpts' himage himage'
    have hdepicts : ∀ before item later s reports, items = before ++ item :: later →
        start.attempts rasterizer ((before ++ [item]).map .frame) = .ok (s, reports) →
        s.overlay.cache.image = some image → image.Depicts rasterizer (o.said item)
          (o.config.textStyle item.payload.info.width item.payload.info.height true) := by
      intro before item later s reports hitems hrun himage
      rw [List.map_append, List.map_singleton] at hrun
      obtain ⟨s₁, reports₁, hfirst⟩ := attempts_of_append hrun
      obtain ⟨hreached, hitem⟩ := hbefore before item later s₁ reports₁ hitems hfirst
      obtain ⟨frame, -, hframe, -⟩ := hreached.step hpaints.draws hspeaks hitem
      have hlast : s = (s₁.step rasterizer (.frame item)).1 := by
        have hsnoc := start.run_snoc rasterizer (before.map .frame) (.frame item)
        rwa [run_of_attempts hrun, run_of_attempts hfirst] at hsnoc
      rw [← hlast] at hframe
      exact hframe.depicts (Overlay.said_ne_nil_of_clock hclock) himage
    have hsource := (hdepicts before item later s reports hitems hrun himage).source
    have hsource' := (hdepicts before' item' later' s' reports' hitems' hrun' himage').source
    obtain ⟨-, hsame⟩ := TextStyle.sourceKey_inj (hsource.symm.trans hsource')
    exact Overlay.millisecond_of_said hclock hpts hpts' hsame

/-- Two frames that begin in the same millisecond, and one that begins in the next. -/
def ticks : List VideoItem :=
  let picture : VideoFrame := .black ⟨.gray8, 2, 1, 0, 1, Nat.zero_lt_two, Nat.zero_lt_one⟩
  [⟨some 0, some 400000, picture⟩, ⟨some 400000, some 800000, picture⟩,
    ⟨some 1200000, none, picture⟩]

/-- A running overlay that shows the running time. -/
def clocked : Session :=
  (initial.run Rasterizer.white [.provide .clock, .transit .start]).1

/-- The running time is drawn once for the first two frames and once for the last one. -/
theorem ticks_drawn_twice :
    Rasterizer.white.Paints ∧ (∀ item ∈ ticks, IsShot 2 1 item) ∧
      clocked.overlay.provider = .clock ∧ clocked.overlay.config.silent = false ∧
      ∃ s reports, clocked.attempts Rasterizer.white (ticks.map .frame) = .ok (s, reports) ∧
        s.overlay.cache.requests.length = 2 := by
  have hpaints := Rasterizer.white_paints
  have hsetup : ∀ step ∈ [Step.provide .clock, .transit .start], step.Prepares :=
    List.forall_mem_cons.mpr ⟨.provide _, List.forall_mem_singleton.mpr .start⟩
  have hshots : ∀ item ∈ ticks, IsShot 2 1 item := by
    simp only [ticks, List.forall_mem_cons, List.not_mem_nil, false_implies, implies_true, and_true]
    exact ⟨⟨rfl, rfl, _, rfl, by decide +kernel⟩, ⟨rfl, rfl, _, rfl, by decide +kernel⟩,
      ⟨rfl, rfl, _, rfl, by decide +kernel⟩⟩
  have hfits : ∀ item ∈ ticks, ∀ raster, Rasterizer.white.rasterize
      (spaced (clocked.overlay.said item)) (clocked.overlay.config.textStyle 2 1 true) =
        .ok raster → raster.expectedSize < longCount := by
    have hshort : ∀ item ∈ ticks,
        (Raster.whiteRow (spaced (clocked.overlay.said item))).expectedSize < longCount := by
      decide +kernel
    intro item hitem raster hraster
    obtain rfl := Except.ok.inj hraster
    exact hshort item hitem
  have hchanges : ((clocked.overlay.spoken ticks).destutter (· ≠ ·)).length = 2 := by
    decide +kernel
  have hrun : clocked.attempts Rasterizer.white (ticks.map .frame) =
      .ok (clocked.run Rasterizer.white (ticks.map .frame)) := attempts_eq_run (by decide +kernel)
  obtain ⟨-, hshows⟩ :=
    frames_show_provided_text Rasterizer.white hpaints _ hsetup 2 1 ticks hshots
  obtain ⟨-, hrequests, -⟩ := hshows (.inr rfl) rfl hfits
  have hcount := congrArg List.length (hrequests _ _ hrun)
  rw [List.length_reverse, List.length_map] at hcount
  exact ⟨hpaints, hshots, rfl, rfl, _, _, hrun, hcount.trans hchanges⟩

/-- A new overlay without a text input is to show a text on darkened boxes.  Nothing about the first
frame is out of the ordinary but its width, and it does not come to a result. -/
theorem wide_frame_overflows :
    let config : Config :=
      { Config.initial with shadedBackground := true, autoResize := false, text := "a" }
    let setup : List Step := [.configure config, .transit .start]
    Rasterizer.white.Paints ∧ (∀ step ∈ setup, step.Prepares) ∧
      IsShot 2147483648 1 wideFrame ∧
      (initial.run Rasterizer.white setup).1.overlay.said wideFrame = ['a'] ∧
      (initial.run Rasterizer.white setup).1.attempt Rasterizer.white (.frame wideFrame) =
        .error .frameSide := by
  intro config setup
  refine ⟨Rasterizer.white_paints, ?_, ⟨rfl, rfl, 0, rfl, by decide +kernel⟩, ?_, ?_⟩
  · exact List.forall_mem_cons.mpr ⟨.configure _, List.forall_mem_singleton.mpr .start⟩
  · decide +kernel
  · exact attempt_eq_error_iff.mpr (overflow?_of_entry (by decide +kernel))

end Session

end Captioning
