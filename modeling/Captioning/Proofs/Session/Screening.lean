import Captioning.Proofs.Overlay.Admitting
import Captioning.Proofs.Session.Stepping
import Mathlib.Data.Finset.Card
import Mathlib.Data.Finset.Lattice.Lemmas

/-!
# Screenings

A screening is what a new overlay with a text input is made for: captions whose times are known
come on one side, frames one after the other on the other side, and the configuration stays as
it is.  This file says which caption belongs to which frame, without a word about the order in
which both sides get to act.
-/

namespace Captioning

/-! ## Captions and frames whose times are known -/

/-- A caption whose ends are known. -/
structure TimedText where
  item : TextItem
  start : ClockTime
  stop : ClockTime
  pts : item.pts = some start
  ends : item.stop = some stop

/-- A frame that covers some running time in the whole stream. -/
structure TimedFrame where
  item : VideoItem
  start : ClockTime
  span : TimeSpan
  pts : item.pts = some start
  clocked : Overlay.frameSpan? .whole item start = some span
  nonempty : span.start < span.stop

namespace StreamItem

variable {α : Type} {item : StreamItem α} {start stop : ClockTime}

theorem duration_of_stop (hpts : item.pts = some start) (hstop : item.stop = some stop) :
    stop < ClockTime.limit ∧ ∃ duration, item.duration = some duration ∧
      stop = start + duration := by
  obtain ⟨pts, duration, hsame, hduration, hlimit, rfl⟩ := stop_eq_some_iff.mp hstop
  obtain rfl := Option.some.inj (hpts.symm.trans hsame)
  exact ⟨hlimit, duration, hduration, rfl⟩

end StreamItem

namespace TimedText

variable (cue : TimedText)

theorem start_le_stop : cue.start ≤ cue.stop :=
  StreamItem.start_le_stop cue.pts cue.ends

theorem span?_whole : Segment.whole.span? cue.item = some ⟨cue.start, cue.stop⟩ := by
  obtain ⟨hstop, -⟩ := StreamItem.duration_of_stop cue.pts cue.ends
  have hstart : cue.start < ClockTime.limit := Nat.lt_of_le_of_lt cue.start_le_stop hstop
  simp [Segment.span?, cue.pts, cue.ends, Segment.runningTime_whole, ClockTime.ofNat?, hstart,
    hstop, TimeSpan.ofEnds, cue.start_le_stop]

private theorem cutText_self : Overlay.cutText cue.item cue.start cue.item.stop = cue.item := by
  obtain ⟨-, duration, hduration, hstop⟩ := StreamItem.duration_of_stop cue.pts cue.ends
  have hpts := cue.pts
  rw [cue.ends, hstop]
  obtain ⟨⟨pts, _, payload⟩, start, stop⟩ := cue
  obtain rfl : pts = some start := hpts
  simp only at hduration
  simp [Overlay.cutText, hduration]

/-- A caption comes whole into a new text input. -/
theorem admitText {o : Overlay} {p : ClockTime} (hfault : o.flow.textFault? = none)
    (hsegment : o.textSegment = Segment.whole.moveTo p) :
    o.admitText cue.item = .ok (some cue.item) := by
  simp only [Overlay.admitText, hfault, cue.pts, hsegment, Segment.clip_moveTo,
    StreamItem.clip_whole cue.pts, Option.map_some, Option.getD_some, cutText_self]

end TimedText

namespace TimedFrame

variable (shot : TimedFrame)

/-- A frame whose ends are known covers the time between them. -/
def ofStop (item : VideoItem) (start stop : ClockTime) (pts : item.pts = some start)
    (ends : item.stop = some stop) (nonempty : start < stop) : TimedFrame where
  item := item
  start := start
  span := ⟨start, stop⟩
  pts := pts
  clocked := by
    obtain ⟨hlimit, duration, hduration, rfl⟩ := StreamItem.duration_of_stop pts ends
    have hspan := Overlay.frameSpan?_whole pts (by rw [hduration]; exact hlimit)
    rwa [hduration] at hspan
  nonempty := nonempty

/-- A frame comes whole into a new video input. -/
theorem admitFrame {o : Overlay} {p : ClockTime} (hfault : o.flow.videoFault? = none)
    (hsegment : o.videoSegment = Segment.whole.moveTo p) :
    o.admitFrame shot.item = .admitted ⟨shot.item, shot.start, shot.span, o.config⟩ :=
  Overlay.admitFrame_whole shot.pts hfault hsegment shot.clocked

end TimedFrame

/-! ## Screenings -/

/-- The captions and the frames of a screening, in the order in which they come, and how they are
drawn.  The frames do not overlap and have the same size, frames wait for their captions and are
not silent, and every text has an image with pixels. -/
structure Screening where
  cues : List TimedText
  shots : List TimedFrame
  config : Config
  attach : Bool
  width : Nat
  height : Nat
  draw : List Char → TextStyle → Raster
  ordered : shots.IsChain fun shot next => shot.span.stop ≤ next.span.start
  sized : ∀ shot ∈ shots, shot.item.payload.info.width = width ∧
    shot.item.payload.info.height = height
  waits : config.waitText = true
  speaks : config.silent = false
  wellFormed : ∀ text style, (draw text style).isWellFormed = true
  visible : ∀ text style, (draw text style).isEmpty = false

namespace Screening

variable (S : Screening)

/-- The rasterizer of a screening. -/
def rasterizer : Rasterizer :=
  ⟨fun text style => .ok (S.draw text style)⟩

/-- The caption of a frame: the first one that ends after the beginning of the frame, if it
begins before the end of the frame. -/
def cueFor? (shot : TimedFrame) : Option TimedText :=
  (S.cues.find? fun cue => shot.span.start < cue.stop).filter fun cue =>
    cue.start < shot.span.stop

/-- The place of the caption of a frame among all captions. -/
def placeFor? (shot : TimedFrame) : Option Nat :=
  (S.cueFor? shot).bind fun _ => S.cues.findIdx? fun cue => shot.span.start < cue.stop

/-- The places of the captions that are shown on some frames. -/
def shown (shots : List TimedFrame) : Finset Nat :=
  (shots.filterMap S.placeFor?).toFinset

/-- The style of all texts. -/
def style : TextStyle :=
  S.config.textStyle S.width S.height true

/-- The image of a caption that is the last one of so many images. -/
def image (cue : TimedText) (serial : Nat) : RenderedImage :=
  ⟨S.draw (spaced cue.item.payload.prepare) S.style, S.style.sourceKey cue.item.payload.prepare,
    serial⟩

/-- An image at its place on the frames. -/
def placed (image : RenderedImage) : Composition :=
  ⟨image,
    (S.config.layout.place image.raster.width image.raster.height image.raster.baseline
      S.width S.height).1,
    (S.config.layout.place image.raster.width image.raster.height image.raster.baseline
      S.width S.height).2⟩

/-- A frame on its way to a decision. -/
def call (shot : TimedFrame) : FrameCall :=
  ⟨shot.item, shot.start, shot.span, S.config⟩

/-- A frame as it leaves the screening when others were before it: with the image of the prepared
text of its caption, or as it came if it has none.  One image is made for each caption that is
shown. -/
def outcome (before : List TimedFrame) (shot : TimedFrame) : ScheduledFrame :=
  match S.cueFor? shot with
  | none => ⟨shot.item, .passthrough⟩
  | some cue =>
      Overlay.compose (S.call shot) S.attach
        (some (S.placed (S.image cue (S.shown (before ++ [shot])).card)))

/-- The results for the frames of a screening. -/
def results : List FrameResult :=
  S.shots.mapIdx fun k shot => .ok (some (S.outcome (S.shots.take k) shot))

theorem isOverlaid_outcome (before : List TimedFrame) (shot : TimedFrame) :
    (S.outcome before shot).isOverlaid = (S.cueFor? shot).isSome := by
  unfold outcome
  cases hcue : S.cueFor? shot with
  | none => rfl
  | some cue =>
      have hvisible : ∀ serial, (S.placed (S.image cue serial)).image.raster.isEmpty = false :=
        fun _ => S.visible _ _
      simp only [Overlay.compose, VideoFrame.composite, hvisible, Bool.false_eq_true, if_false,
        ScheduledFrame.isOverlaid, Option.isSome_some]
      cases S.attach <;> rfl

/-! ## The caption of a frame -/

theorem cueFor?_of_gone {shot : TimedFrame} (hgone : ∀ cue ∈ S.cues, cue.stop ≤ shot.span.start) :
    S.cueFor? shot = none := by
  have hfind : S.cues.find? (fun cue => shot.span.start < cue.stop) = none := by
    rw [List.find?_eq_none]
    intro cue hcue
    simpa using hgone cue hcue
  rw [cueFor?, hfind]
  rfl

variable {S} {gone coming : List TimedText} {cue : TimedText} {shot : TimedFrame}

private theorem find?_of_gone (hcues : S.cues = gone ++ cue :: coming)
    (hgone : ∀ other ∈ gone, other.stop ≤ shot.span.start)
    (hcue : shot.span.start < cue.stop) :
    S.cues.find? (fun cue => shot.span.start < cue.stop) = some cue := by
  have hnone : gone.find? (fun cue => shot.span.start < cue.stop) = none := by
    rw [List.find?_eq_none]
    intro other hother
    simpa using hgone other hother
  rw [hcues, List.find?_append, hnone]
  simp [hcue]

private theorem findIdx?_of_gone (hcues : S.cues = gone ++ cue :: coming)
    (hgone : ∀ other ∈ gone, other.stop ≤ shot.span.start)
    (hcue : shot.span.start < cue.stop) :
    S.cues.findIdx? (fun cue => shot.span.start < cue.stop) = some gone.length := by
  have hnone : gone.findIdx? (fun cue => shot.span.start < cue.stop) = none := by
    rw [List.findIdx?_eq_none_iff]
    intro other hother
    simpa using hgone other hother
  rw [hcues, List.findIdx?_append, hnone]
  simp [List.findIdx?_cons, hcue]

theorem cueFor?_of_late (hcues : S.cues = gone ++ cue :: coming)
    (hgone : ∀ other ∈ gone, other.stop ≤ shot.span.start) (hcue : shot.span.start < cue.stop)
    (hlate : shot.span.stop ≤ cue.start) : S.cueFor? shot = none := by
  rw [cueFor?, find?_of_gone hcues hgone hcue]
  simpa using hlate

/-- The caption of a frame is the first one that could be it if that begins in time. -/
theorem cueFor?_of_early (hcues : S.cues = gone ++ cue :: coming)
    (hgone : ∀ other ∈ gone, other.stop ≤ shot.span.start) (hcue : shot.span.start < cue.stop)
    (hearly : cue.start < shot.span.stop) : S.cueFor? shot = some cue := by
  rw [cueFor?, find?_of_gone hcues hgone hcue]
  simpa using hearly

theorem placeFor?_of_early (hcues : S.cues = gone ++ cue :: coming)
    (hgone : ∀ other ∈ gone, other.stop ≤ shot.span.start) (hcue : shot.span.start < cue.stop)
    (hearly : cue.start < shot.span.stop) : S.placeFor? shot = some gone.length := by
  rw [placeFor?, cueFor?_of_early hcues hgone hcue hearly]
  exact findIdx?_of_gone hcues hgone hcue

theorem shown_concat_of_none {before : List TimedFrame} (h : S.cueFor? shot = none) :
    S.shown (before ++ [shot]) = S.shown before := by
  have hplace : S.placeFor? shot = none := by rw [placeFor?, h]; rfl
  simp [shown, hplace]

theorem shown_concat_of_some {before : List TimedFrame} {place : Nat}
    (h : S.placeFor? shot = some place) :
    S.shown (before ++ [shot]) = insert place (S.shown before) := by
  simp [shown, h]

/-- The frames after a frame begin when it has ended, or later. -/
theorem stop_le_start {before after : List TimedFrame}
    (hshots : S.shots = before ++ shot :: after) :
    ∀ later ∈ after, shot.span.stop ≤ later.span.start := by
  -- since no frame is empty, this is a transitive relation
  let follows (shot next : TimedFrame) : Prop := shot.span.stop ≤ next.span.start
  have htrans : IsTrans TimedFrame follows := by
    refine ⟨fun a b c hab hbc => ?_⟩
    calc a.span.stop ≤ b.span.start := hab
      _ ≤ b.span.stop := Nat.le_of_lt b.nonempty
      _ ≤ c.span.start := hbc
  have hpairwise : S.shots.Pairwise follows := List.isChain_iff_pairwise.mp S.ordered
  rw [hshots, List.pairwise_append, List.pairwise_cons] at hpairwise
  exact hpairwise.2.1.1

/-! ## Sessions in which a screening is held -/

/-- A session in which a screening can begin: a new overlay with a text input. -/
structure Begins (S : Screening) (s : Session) : Prop where
  frame : s.frame = none
  text : s.text = none
  flow : s.overlay.flow = { Flow.initial with textConnected := true }
  videoSegment : s.overlay.videoSegment = .whole
  textSegment : s.overlay.textSegment = .whole
  slot : s.overlay.slot = none
  config : s.overlay.config = S.config
  attach : s.overlay.attach = S.attach
  cache : s.overlay.cache = .empty

/-- The steps that prepare a new overlay for a screening; it may be running or not. -/
def setup (S : Screening) (running : Bool) : List Step :=
  [.configure S.config, .attach S.attach, .connect true] ++
    if running then [.transit .start] else []

/-- A screening can begin in a new overlay that has been prepared and has taken the
configuration. -/
theorem begins_setup (S : Screening) (running : Bool)
    (htaken : (Overlay.initial.configure S.config).1.config = S.config) :
    S.Begins (Session.initial.run S.rasterizer (S.setup running)).1 := by
  have hconfigure : (Overlay.initial.configure S.config).1 =
      { Overlay.initial with config := S.config } := by
    revert htaken
    unfold Overlay.configure
    split
    · split
      · intro htaken
        rw [← htaken]
      · exact fun _ => rfl
    · intro htaken
      rw [← htaken]
  have hsession : (Session.initial.run S.rasterizer [.configure S.config]).1 =
      ⟨{ Overlay.initial with config := S.config }, none, none⟩ := by
    rw [← hconfigure]
    rfl
  rw [setup, List.cons_append, ← List.singleton_append, Session.run_append, hsession]
  cases running <;> exact ⟨rfl, rfl, rfl, rfl, rfl, rfl, rfl, rfl, rfl⟩

/-- The steps of a session that still has to bring some captions and frames to an overlay, each
kind in its order.  A call begins when the one of its kind before it has come to its end.  The
text input may be ended, once, when its last caption has come to its end.  Apart from that, who
acts next is left open. -/
inductive Interleaves (S : Screening) :
    Session → List TimedText → List TimedFrame → Bool → List Step → Prop
  | stop {s : Session} {cues : List TimedText} {shots : List TimedFrame} {ended : Bool} :
      Interleaves S s cues shots ended []
  | text {s : Session} {cue : TimedText} {cues : List TimedText} {shots : List TimedFrame}
      {steps : List Step} (free : s.text = none)
      (rest : Interleaves S (s.step S.rasterizer (.text cue.item)).1 cues shots false steps) :
      Interleaves S s (cue :: cues) shots false (.text cue.item :: steps)
  | frame {s : Session} {cues : List TimedText} {shot : TimedFrame} {shots : List TimedFrame}
      {ended : Bool} {steps : List Step} (free : s.frame = none)
      (rest : Interleaves S (s.step S.rasterizer (.frame shot.item)).1 cues shots ended steps) :
      Interleaves S s cues (shot :: shots) ended (.frame shot.item :: steps)
  | eos {s : Session} {shots : List TimedFrame} {steps : List Step} (free : s.text = none)
      (rest : Interleaves S (s.step S.rasterizer (.textEvent .eos)).1 [] shots true steps) :
      Interleaves S s [] shots false (.textEvent .eos :: steps)

end Screening

end Captioning
