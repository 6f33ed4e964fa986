import Captioning.Proofs.Render.Depiction
import Captioning.Proofs.Session.Screening
import Captioning.Proofs.Session.Waiting

/-!
# How far a screening has come

`Screening.OnTrack` relates an overlay to how far a screening has come: the captions are those
that have left, the pending one and those to come, the frames are those that are done and those
that are left.

The captions that have left ended before each frame that is left, so the pending caption is the
first one that can belong to the next frame.  For the same reason the text, which has come to the
beginning of a caption that is not to come any more, is past no frame that is left, unless the
text input has ended; so a frame without a pending caption waits for one that is to come.  The
image in the cache is the one of the pending caption, if that was shown already.
-/

namespace Captioning

namespace Screening

/-- How far a screening has come in an overlay. -/
structure OnTrack (S : Screening) (o : Overlay) (gone : List TimedText) (pending : Option TimedText)
    (coming : List TimedText) (done left : List TimedFrame) (ended : Bool) : Prop where
  cues : S.cues = gone ++ (pending.toList ++ coming)
  shots : S.shots = done ++ left
  past : ∀ cue ∈ gone, ∀ shot ∈ left, cue.stop ≤ shot.span.start
  complete : ended = true → coming = []
  flow : o.flow = { Flow.initial with textConnected := true, textEnded := ended }
  video : ∃ p, o.videoSegment = Segment.whole.moveTo p
  /-- The text has come to the beginning of a caption that is not to come any more. -/
  text : ∃ p, o.textSegment = Segment.whole.moveTo p ∧
    ∀ t, 0 < t → (∀ cue ∈ gone ++ pending.toList, cue.start < t) → p < t
  config : o.config = S.config
  attach : o.attach = S.attach
  slot : o.slot = pending.map TimedText.item
  seen : ∀ place ∈ S.shown done, place < (gone ++ pending.toList).length
  renders : o.cache.renders = (S.shown done).card
  /-- The image of the pending caption is kept from its first frame on. -/
  cache : ∀ cue, pending = some cue →
    gone.length ∈ S.shown done ∧ o.cache.dirty = false ∧
        o.cache.image = some (S.image cue (S.shown done).card) ∨
      gone.length ∉ S.shown done ∧ o.cache.dirty = true

/-- Where a screening has come to after a turn of its next frame. -/
inductive Turned (S : Screening) (o : Overlay) (coming : List TimedText) (done : List TimedFrame)
    (shot : TimedFrame) (left : List TimedFrame) (ended : Bool) : Option FrameResult → Prop
  | waits {gone : List TimedText} {pending : Option TimedText}
      (onTrack : S.OnTrack o gone pending coming done (shot :: left) ended) :
      Turned S o coming done shot left ended none
  | done {gone : List TimedText} {pending : Option TimedText}
      (onTrack : S.OnTrack o gone pending coming (done ++ [shot]) left ended) :
      Turned S o coming done shot left ended (some (.ok (some (S.outcome done shot))))

namespace OnTrack

variable {S : Screening} {o o' : Overlay} {gone coming : List TimedText}
  {pending : Option TimedText} {cue : TimedText} {done left : List TimedFrame} {shot : TimedFrame}
  {ended : Bool}

/-! ## What is kept -/

theorem store (h : S.OnTrack o gone none (cue :: coming) done left ended) :
    S.OnTrack (o.store cue.item) gone (some cue) coming done left ended where
  cues := h.cues
  shots := h.shots
  past := h.past
  complete := fun hended => absurd (h.complete hended) (List.cons_ne_nil cue coming)
  flow := h.flow
  video := h.video
  text := by
    obtain ⟨p, hsegment, hp⟩ := h.text
    refine ⟨max p cue.start, ?_, ?_⟩
    · simp only [Overlay.store, cue.pts, hsegment, Segment.advance_moveTo]
    · intro t ht hcues
      have hlast : cue.start < t := hcues cue (by simp)
      have hfirst : p < t := hp t ht fun other hother => hcues other (by simp_all)
      exact Nat.max_lt.mpr ⟨hfirst, hlast⟩
  config := h.config
  attach := h.attach
  slot := rfl
  seen := by
    intro place hplace
    have hbefore : place < gone.length := by simpa using h.seen place hplace
    rw [List.length_append, Option.toList_some, List.length_singleton]
    omega
  renders := h.renders
  cache := by
    -- its place comes after the places of all captions that were shown
    intro _ _
    refine .inr ⟨?_, rfl⟩
    intro hshown
    have := h.seen _ hshown
    simp at this

/-- The pending caption leaves when it has ended before every frame that is left. -/
theorem release (h : S.OnTrack o gone (some cue) coming done left ended)
    (hstop : ∀ shot ∈ left, cue.stop ≤ shot.span.start) :
    S.OnTrack o.release (gone ++ [cue]) none coming done left ended where
  cues := by
    rw [h.cues]
    simp
  shots := h.shots
  past := by
    intro other hother shot hshot
    rcases List.mem_append.mp hother with hother | hother
    · exact h.past other hother shot hshot
    · rw [List.mem_singleton.mp hother]
      exact hstop shot hshot
  complete := h.complete
  flow := h.flow
  video := h.video
  text := by
    simpa [Overlay.release] using h.text
  config := h.config
  attach := h.attach
  slot := rfl
  seen := by
    simpa using h.seen
  renders := h.renders
  cache := by simp

theorem reach (h : S.OnTrack o gone pending coming done left ended) (start : ClockTime) :
    S.OnTrack (o.reach start) gone pending coming done left ended where
  __ := h
  video := by
    obtain ⟨p, hsegment⟩ := h.video
    exact ⟨start, by simp only [Overlay.reach, hsegment, Segment.moveTo_moveTo]⟩

theorem pass (h : S.OnTrack o gone pending coming done (shot :: left) ended)
    (hcue : S.cueFor? shot = none) :
    S.OnTrack o gone pending coming (done ++ [shot]) left ended where
  __ := h
  shots := by
    rw [h.shots]
    simp
  past := fun cue hcue shot hshot => h.past cue hcue shot (List.mem_cons_of_mem _ hshot)
  seen := by
    rw [shown_concat_of_none hcue]
    exact h.seen
  renders := by
    rw [shown_concat_of_none hcue]
    exact h.renders
  cache := by
    rw [shown_concat_of_none hcue]
    exact h.cache

/-- A frame that shows the pending caption is done, if then the cache holds the image and counts
it. -/
private theorem shown_next (h : S.OnTrack o gone (some cue) coming done (shot :: left) ended)
    (hshown : S.shown (done ++ [shot]) = insert gone.length (S.shown done)) {cache : RenderCache}
    (hrenders : cache.renders = (S.shown (done ++ [shot])).card) (hclean : cache.dirty = false)
    (himage : cache.image = some (S.image cue (S.shown (done ++ [shot])).card)) :
    S.OnTrack { o with cache := cache } gone (some cue) coming (done ++ [shot]) left ended where
  __ := h
  shots := by
    rw [h.shots]
    simp
  past := fun cue hcue shot hshot => h.past cue hcue shot (List.mem_cons_of_mem _ hshot)
  seen := by
    intro place hmem
    rw [hshown, Finset.mem_insert] at hmem
    rcases hmem with rfl | hmem
    · simp
    · exact h.seen place hmem
  renders := hrenders
  cache := by
    intro other hother
    obtain rfl := Option.some.inj hother
    refine .inl ⟨?_, hclean, himage⟩
    rw [hshown]
    exact Finset.mem_insert_self _ _

/-- The image of a caption is made for the first frame that shows it, and kept for the others. -/
theorem rendered (h : S.OnTrack o gone (some cue) coming done (shot :: left) ended)
    (hstart : shot.span.start < cue.stop) (hstop : cue.start < shot.span.stop) :
    (o.cache.render S.rasterizer cue.item.payload.prepare S.style).2 =
        .ok (S.image cue (S.shown (done ++ [shot])).card) ∧
      S.OnTrack
        { o with cache := (o.cache.render S.rasterizer cue.item.payload.prepare S.style).1 }
        gone (some cue) coming (done ++ [shot]) left ended := by
  have hplace : S.placeFor? shot = some gone.length :=
    placeFor?_of_early h.cues (fun other hother => h.past other hother shot (by simp)) hstart hstop
  have hshown : S.shown (done ++ [shot]) = insert gone.length (S.shown done) :=
    shown_concat_of_some hplace
  rcases h.cache cue rfl with ⟨hseen, hclean, himage⟩ | ⟨hunseen, hdirty⟩
  · -- shown before: no further image is made
    have hsame : S.shown (done ++ [shot]) = S.shown done := by
      rw [hshown, Finset.insert_eq_of_mem hseen]
    rw [← hsame] at himage
    rw [RenderCache.render_of_clean hclean himage rfl]
    refine ⟨rfl, h.shown_next hshown ?_ hclean himage⟩
    rw [hsame, h.renders]
  · -- shown for the first time: the image that is made is the next one
    have hcard : o.cache.renders + 1 = (S.shown (done ++ [shot])).card := by
      rw [hshown, Finset.card_insert_of_notMem hunseen, h.renders]
    rw [RenderCache.render_of_dirty hdirty rfl (S.wellFormed _ _), hcard]
    exact ⟨rfl, h.shown_next hshown hcard rfl rfl⟩

/-! ## A turn of the next frame -/

private theorem span? (h : S.OnTrack o gone pending coming done left ended) (cue : TimedText) :
    o.textSegment.span? cue.item = some ⟨cue.start, cue.stop⟩ := by
  obtain ⟨p, hsegment, -⟩ := h.text
  rw [hsegment, Segment.span?_moveTo, cue.span?_whole]

private theorem pending_of_slot (h : S.OnTrack o gone pending coming done left ended)
    {item : TextItem} (hslot : o.slot = some item) :
    ∃ cue, pending = some cue ∧ cue.item = item :=
  Option.map_eq_some_iff.mp (h.slot.symm.trans hslot)

private theorem cleared {signal : Signal}
    (h : S.OnTrack o gone pending coming done (shot :: left) ended)
    (hcleared : o.Cleared shot.span o' signal) :
    ∃ gone', S.OnTrack o' gone' none coming done (shot :: left) ended := by
  cases hcleared with
  | empty slot =>
      have hpending : pending = none := Option.map_eq_none_iff.mp (h.slot.symm.trans slot)
      subst hpending
      exact ⟨gone, h⟩
  | stale slot overlap =>
      obtain ⟨cue, rfl, rfl⟩ := h.pending_of_slot slot
      rw [h.span?, classify_eq_stale_iff] at overlap
      -- it has ended before the next frame, and so before all later ones
      refine ⟨gone ++ [cue], h.release ?_⟩
      intro later hlater
      rcases List.mem_cons.mp hlater with rfl | hlater
      · exact overlap
      · calc cue.stop ≤ shot.span.start := overlap
          _ ≤ shot.span.stop := Nat.le_of_lt shot.nonempty
          _ ≤ later.span.start := stop_le_start h.shots later hlater

/-- The text is not past the next frame as long as captions can come. -/
private theorem ahead (h : S.OnTrack o gone none coming done (shot :: left) false) :
    o.isTextPast shot.span.stop = false := by
  obtain ⟨p, hsegment, hp⟩ := h.text
  have hstop : 0 < shot.span.stop := Nat.zero_lt_of_lt shot.nonempty
  have hposition : p < shot.span.stop := by
    -- every caption that has come begins before the frame ends
    refine hp _ hstop ?_
    intro cue hcue
    calc cue.start ≤ cue.stop := cue.start_le_stop
      _ ≤ shot.span.start := h.past cue (by simpa using hcue) shot (by simp)
      _ < shot.span.stop := shot.nonempty
  rw [Overlay.isTextPast_eq_false_iff, h.flow, h.config, hsegment]
  refine ⟨rfl, rfl, S.waits, ?_, ?_⟩
  · intro t ht
    rw [Segment.runningTime_whole_eq ht]
    exact hstop
  · intro t ht
    rw [Segment.runningTime_whole_eq ht]
    exact hposition

private theorem leaves_alone (h : S.OnTrack o gone pending coming done (shot :: left) ended)
    (hcue : S.cueFor? shot = none) :
    S.Turned (o.reach shot.start) coming done shot left ended
      (some (.ok (some ⟨shot.item, .passthrough⟩))) := by
  have houtcome : S.outcome done shot = ⟨shot.item, .passthrough⟩ := by
    simp only [outcome, hcue]
  rw [← houtcome]
  exact .done ((h.pass hcue).reach shot.start)

private theorem leaves_overlaid
    (h : S.OnTrack o gone (some cue) coming done (shot :: left) ended)
    (hstart : shot.span.start < cue.stop) (hstop : cue.start < shot.span.stop) {consume : Bool}
    (hconsume : consume = true → cue.stop ≤ shot.span.stop) :
    S.Turned
      (o.finish S.rasterizer (S.call shot) (.overlay cue.item.payload.prepare consume)).1
      coming done shot left ended
      (some (.ok (some (o.finish S.rasterizer (S.call shot)
        (.overlay cue.item.payload.prepare consume)).2.2))) := by
  obtain ⟨hwidth, hheight⟩ := S.sized shot (by rw [h.shots]; simp)
  -- all frames have the same size, so all texts have the same style
  have hstyle : o.config.textStyle shot.item.payload.info.width
      shot.item.payload.info.height true = S.style := by
    rw [h.config, hwidth, hheight]
    rfl
  obtain ⟨himage, honTrack⟩ := h.rendered hstart hstop
  rw [← hstyle] at himage honTrack
  have hcue : S.cueFor? shot = some cue :=
    cueFor?_of_early h.cues (fun other hother => h.past other hother shot (by simp)) hstart hstop
  have houtcome : (o.finish S.rasterizer (S.call shot)
      (.overlay cue.item.payload.prepare consume)).2.2 = S.outcome done shot := by
    show Overlay.compose (S.call shot) o.attach (o.composeText S.rasterizer
      cue.item.payload.prepare shot.item.payload.info).2 = S.outcome done shot
    rw [Overlay.composeText_of_ok o _ _ himage, h.attach, h.config]
    simp only [outcome, hcue, placed, hwidth, hheight]
  rw [houtcome, Overlay.finish_overlay_fst]
  cases consume with
  | false => exact .done (honTrack.reach shot.start)
  | true =>
      refine .done ((honTrack.release ?_).reach shot.start)
      intro later hlater
      calc cue.stop ≤ shot.span.stop := hconsume rfl
        _ ≤ later.span.start := stop_le_start h.shots later hlater

/-- The next frame leaves with its caption, or waits for it. -/
theorem turn {signal : Signal} {result : Option FrameResult}
    (h : S.OnTrack o gone pending coming done (shot :: left) ended)
    (hturn : o.Turn S.rasterizer (S.call shot) o' signal result) :
    S.Turned o' coming done shot left ended result := by
  -- so the pending caption is the first one that can belong to the frame
  have hgone : ∀ cue ∈ gone, cue.stop ≤ shot.span.start := fun cue hcue =>
    h.past cue hcue shot (by simp)
  cases hturn with
  | refused fault =>
      rw [h.flow] at fault
      simp [Flow.videoFault?, Flow.initial] at fault
  | passed fault cleared past =>
      obtain ⟨gone', h'⟩ := h.cleared cleared
      cases ended with
      | false =>
          have hahead := h'.ahead
          rw [show shot.span.stop = (S.call shot).span.stop from rfl, past] at hahead
          cases hahead
      | true =>
          -- no caption is to come any more, and the others are past
          refine h'.leaves_alone (S.cueFor?_of_gone ?_)
          intro cue hcue
          rw [h'.cues, h'.complete rfl] at hcue
          exact h'.past cue (by simpa using hcue) shot (by simp)
  | waits fault cleared ahead =>
      obtain ⟨gone', h'⟩ := h.cleared cleared
      exact .waits h'
  | future fault slot overlap =>
      obtain ⟨cue, rfl, rfl⟩ := h.pending_of_slot slot
      rw [h.span?, classify_eq_future_iff] at overlap
      exact h.leaves_alone (cueFor?_of_late h.cues hgone overlap.1 overlap.2)
  | @shown item consume fault slot overlap =>
      obtain ⟨cue, rfl, rfl⟩ := h.pending_of_slot slot
      rw [h.span?] at overlap
      rcases overlap with ⟨huntimed, -⟩ | hcurrent
      · exact absurd huntimed classify_ne_untimed
      · obtain ⟨hstart, hstop, hconsume⟩ := classify_eq_current_iff.mp hcurrent
        refine h.leaves_overlaid hstart hstop ?_
        intro hconsumed
        rw [hconsumed] at hconsume
        exact of_decide_eq_true hconsume

end OnTrack

end Screening

end Captioning
