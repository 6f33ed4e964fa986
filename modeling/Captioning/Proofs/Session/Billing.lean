import Captioning.Proofs.Overlay.Admitting
import Captioning.Proofs.Render.Depiction
import Captioning.Proofs.Session.Segments
import Captioning.Proofs.Session.Stages
import Captioning.Render.BlockGlyphs

/-!
# One image for each caption

A caption may be shown on many frames, but its image is made once, as long as all frames have the
same description and the configuration stays as it is.  This file bounds the number of images by
the number of captions that were taken.

## Strategy

The bill of an overlay is the number of images that have been made, and one more if the pending
caption has none yet.  No look of a frame raises it: whoever makes an image has found the pending
caption without one.  Only a caption that becomes pending does, by one.  So each stage raises the
bill by at most the number of captions that were taken in it (`Stage.Sound.bill_le`), and so does
every step.
-/

namespace Captioning

/-- The rasterizer gives an image for every text, with as many bytes as its size demands. -/
def Rasterizer.Draws (rasterizer : Rasterizer) : Prop :=
  ∀ text style, ∃ raster, rasterizer.rasterize text style = .ok raster ∧
    raster.isWellFormed = true

theorem draws_blockGlyphs : blockGlyphs.Draws := fun text style =>
  ⟨drawBlocks (Metrics.ofStyle style) text style, rfl, isWellFormed_drawBlocks _ text style⟩

namespace RenderCache

variable {rasterizer : Rasterizer}

/-- After a text was rendered its image is kept, and one more has been made if it was not kept
before. -/
theorem render_of_draws (hdraws : rasterizer.Draws) (c : RenderCache) (text : List Char)
    (style : TextStyle) :
    ((c.render rasterizer text style).1.kept? (style.sourceKey text)).isSome = true ∧
      (c.render rasterizer text style).1.renders =
        c.renders + if (c.kept? (style.sourceKey text)).isSome then 0 else 1 := by
  have hrendering := c.render_rendering rasterizer text style
  obtain ⟨raster, hraster, hsize⟩ := hdraws (spaced text) style
  generalize (c.render rasterizer text style).1 = c' at hrendering
  generalize (c.render rasterizer text style).2 = result at hrendering
  cases hrendering with
  | kept clean current source => simp [kept?, clean, current, source]
  | failed stale drawn =>
      rw [hraster] at drawn
      cases drawn
  | malformed stale drawn size =>
      rw [hraster] at drawn
      obtain rfl := Except.ok.inj drawn
      rw [hsize] at size
      cases size
  | drawn stale drawn size =>
      rw [stale]
      exact ⟨by simp [kept?, keep], rfl⟩

end RenderCache

/-! ## The bill of an overlay -/

namespace Overlay

variable {o o' : Overlay} {rasterizer : Rasterizer} {call : FrameCall} {signal : Signal}
  {info : VideoInfo}

/-- What the image of a caption shows on frames of the given description. -/
def keyOf (o : Overlay) (info : VideoInfo) (item : TextItem) : SourceKey :=
  (o.config.textStyle info.width info.height true).sourceKey item.payload.prepare

/-- One if the pending caption has no image yet. -/
def unpaid (o : Overlay) (info : VideoInfo) : Nat :=
  match o.slot with
  | some item => if (o.cache.kept? (o.keyOf info item)).isSome then 0 else 1
  | none => 0

/-- The number of images that have been made, and the one that the pending caption needs. -/
def bill (o : Overlay) (info : VideoInfo) : Nat :=
  o.cache.renders + o.unpaid info

theorem renders_le_bill (o : Overlay) (info : VideoInfo) : o.cache.renders ≤ o.bill info :=
  Nat.le_add_right _ _

theorem unpaid_le_one : o.unpaid info ≤ 1 := by
  unfold unpaid
  split
  · split <;> decide
  · decide

theorem bill_of_empty (hslot : o.slot = none) : o.bill info = o.cache.renders := by
  simp [bill, unpaid, hslot]

/-- A frame that shows the pending caption leaves the bill as it is, or less if the caption
leaves. -/
private theorem finish_bill_le {item : TextItem} (hdraws : rasterizer.Draws)
    (hinfo : call.item.payload.info = info) (hslot : o.slot = some item) (consume : Bool) :
    (o.finish rasterizer call (.overlay item.payload.prepare consume)).1.bill info ≤
      o.bill info := by
  obtain ⟨hkept, hrenders⟩ := RenderCache.render_of_draws hdraws o.cache
    item.payload.prepare (o.config.textStyle info.width info.height true)
  have hcache : (o.finish rasterizer call (.overlay item.payload.prepare consume)).1.cache =
      (o.cache.render rasterizer item.payload.prepare
        (o.config.textStyle info.width info.height true)).1 := by
    rw [finish_overlay_cache, hinfo]
  have hbill : (o.cache.render rasterizer item.payload.prepare
      (o.config.textStyle info.width info.height true)).1.renders = o.bill info := by
    rw [hrenders, bill, unpaid, hslot]
    rfl
  cases consume with
  | true =>
      refine Nat.le_of_eq ?_
      rw [bill_of_empty (finish_overlay_slot o _ true), hcache, hbill]
  | false =>
      have hpaid : (o.finish rasterizer call (.overlay item.payload.prepare false)).1.unpaid
          info = 0 := by
        have hsame : (o.finish rasterizer call (.overlay item.payload.prepare false)).1.keyOf
            info item = o.keyOf info item := rfl
        have hpending : (o.finish rasterizer call (.overlay item.payload.prepare false)).1.slot =
            some item := (finish_overlay_slot o _ false).trans hslot
        simp only [unpaid, hpending, hsame, hcache]
        exact if_pos hkept
      refine Nat.le_of_eq ?_
      rw [bill, hpaid, hcache, hbill, Nat.add_zero]

private theorem Cleared.bill_le {span : TimeSpan} (h : o.Cleared span o' signal) :
    o'.bill info ≤ o.bill info := by
  cases h with
  | empty slot => exact Nat.le_refl _
  | stale slot overlap =>
      rw [bill_of_empty (o := o.release) rfl]
      exact o.renders_le_bill info

theorem Turn.bill_le {result : Option FrameResult}
    (h : o.Turn rasterizer call o' signal result) (hdraws : rasterizer.Draws)
    (hinfo : call.item.payload.info = info) : o'.bill info ≤ o.bill info := by
  cases h with
  | refused fault => exact Nat.le_refl _
  | passed fault cleared past => exact cleared.bill_le
  | waits fault cleared ahead => exact cleared.bill_le
  | future fault slot overlap => exact Nat.le_refl _
  | shown fault slot overlap => exact finish_bill_le hdraws hinfo slot _

theorem Arrival.bill_le {item : VideoItem} {progress : Progress}
    (h : o.Arrival rasterizer item o' signal progress) (hdraws : rasterizer.Draws)
    (hinfo : item.payload.info = info) (hconnected : o.flow.textConnected = true) :
    o'.bill info ≤ o.bill info := by
  have hpicture {call : FrameCall} (admission : o.admitFrame item = .admitted call) :
      call.item.payload.info = info := by
    rw [payload_of_admitFrame (congrArg Admission.part? admission)]
    exact hinfo
  cases h with
  | provided admission silent connected d =>
      rw [hconnected] at connected
      cases connected
  | decided admission silent connected turn => exact turn.bill_le hdraws (hpicture admission)
  | waits admission silent connected turn => exact turn.bill_le hdraws (hpicture admission)
  | _ => exact Nat.le_refl _

theorem store_bill_le (o : Overlay) (item : TextItem) :
    (o.store item).bill info ≤ o.bill info + 1 :=
  Nat.add_le_add (o.renders_le_bill info) unpaid_le_one

end Overlay

/-! ## The bill of a session -/

/-- The steps of a screening whose frames have the given description: frames and captions, the
ends of both inputs, and the halt. -/
inductive Step.Plays (info : VideoInfo) : Step → Prop
  | frame {item : VideoItem} (picture : item.payload.info = info) : Plays info (.frame item)
  | text (item : TextItem) : Plays info (.text item)
  | textEnd : Plays info (.textEvent .eos)
  | videoEnd : Plays info (.videoEvent .eos)
  | halt : Plays info (.transit .halt)

/-- The text input is connected, and the frame on its way has the given description. -/
structure Session.Bills (s : Session) (info : VideoInfo) : Prop where
  connected : s.overlay.flow.textConnected = true
  frame : ∀ call, s.frame = some call → call.item.payload.info = info

/-- The number of captions that were taken, of those whose calls came to their end. -/
def taken (results : List TextResult) : Nat :=
  results.countP (·.isOk)

theorem taken_append (first second : List TextResult) :
    taken (first ++ second) = taken first + taken second :=
  List.countP_append

namespace Session

variable {s s' : Session} {rasterizer : Rasterizer} {step : Step} {signal : Signal}
  {report : Report} {info : VideoInfo}

private theorem Entry.bills (h : s.Entry rasterizer step s' signal report)
    (hplays : step.Plays info) (hs : s.Bills info) : s'.Bills info := by
  refine ⟨?_, ?_⟩
  · have hstep : step.setsTextSegment = false := by cases hplays <;> rfl
    exact (h.connected hstep).trans hs.connected
  · cases h with
    | @blockedFrame item o signal call free arrival =>
        intro other hother
        obtain rfl : call = other := Option.some.inj hother
        cases arrival with
        | waits admission silent connected turn =>
            rw [Overlay.payload_of_admitFrame (congrArg Admission.part? admission)]
            cases hplays with
            | frame picture => exact picture
    | _ => exact hs.frame

/-- The control of a screening makes no image and throws no image away. -/
private theorem Control.bill_le {o o' : Overlay} (h : o.Control step o' signal)
    (hplays : step.Plays info) : o'.bill info ≤ o.bill info := by
  cases hplays with
  | frame picture => cases h
  | text item => cases h
  | textEnd =>
      cases h with
      | textEvent event => exact Nat.le_refl _
  | videoEnd =>
      cases h with
      | videoEvent event => exact Nat.le_refl _
  | halt =>
      cases h with
      | transit transition =>
          rw [Overlay.bill_of_empty (o := (o.transit .halt).1) rfl]
          exact o.renders_le_bill info

private theorem Entry.bill_le (h : s.Entry rasterizer step s' signal report)
    (hdraws : rasterizer.Draws) (hplays : step.Plays info) (hs : s.Bills info) :
    s'.overlay.bill info ≤ s.overlay.bill info + taken report.text.toList := by
  cases h with
  | frame free arrival =>
      cases hplays with
      | frame picture => exact arrival.bill_le hdraws picture hs.connected
  | blockedFrame free arrival =>
      cases hplays with
      | frame picture => exact arrival.bill_le hdraws picture hs.connected
  | storedText free admission slot => exact s.overlay.store_bill_le _
  | control control => exact Control.bill_le control hplays
  | _ => exact Nat.le_add_right _ _

private theorem TextWake.bill_le {result : Option TextResult} (h : s.TextWake s' result) :
    s'.overlay.bill info ≤ s.overlay.bill info + taken result.toList := by
  cases h with
  | stored text flushing slot => exact s.overlay.store_bill_le _
  | _ => exact Nat.le_add_right _ _

private theorem FrameWake.bill_le {result : Option FrameResult}
    (h : s.FrameWake rasterizer s' result) (hdraws : rasterizer.Draws) (hs : s.Bills info) :
    s'.overlay.bill info ≤ s.overlay.bill info := by
  cases h with
  | idle frame => exact Nat.le_refl _
  | done frame turn => exact turn.bill_le hdraws (hs.frame _ frame)
  | waits frame turn => exact turn.bill_le hdraws (hs.frame _ frame)

private theorem TextWake.bills {result : Option TextResult} (h : s.TextWake s' result)
    (hs : s.Bills info) : s'.Bills info := by
  refine ⟨?_, ?_⟩
  · rw [h.flow]
    exact hs.connected
  · rw [h.frame]
    exact hs.frame

private theorem FrameWake.bills {result : Option FrameResult}
    (h : s.FrameWake rasterizer s' result) (hs : s.Bills info) : s'.Bills info := by
  refine ⟨?_, ?_⟩
  · rw [h.flow]
    exact hs.connected
  · cases h with
    | done frame turn =>
        intro call hcall
        simp at hcall
    | _ => exact hs.frame

end Session

variable {s s' : Session} {rasterizer : Rasterizer} {info : VideoInfo}

/-- A stage raises the bill by the captions that are taken in it. -/
theorem Stage.Sound.bill_le {stage : Stage} (h : stage.Sound rasterizer)
    (hdraws : rasterizer.Draws) (hplays : ∀ step, stage.phase = .entry step → step.Plays info)
    (hs : stage.before.Bills info) : stage.after.Bills info ∧
      stage.after.overlay.bill info ≤
        stage.before.overlay.bill info + taken stage.text.toList := by
  cases h with
  | entry entry =>
      exact ⟨entry.bills (hplays _ rfl) hs, entry.bill_le hdraws (hplays _ rfl) hs⟩
  | textLook wake => exact ⟨wake.bills hs, wake.bill_le⟩
  | frameLook wake => exact ⟨wake.bills hs, wake.bill_le hdraws hs⟩

theorem Leads.bill_le {trace : List Stage} (h : Leads s trace s')
    (hsound : ∀ stage ∈ trace, stage.Sound rasterizer) (hdraws : rasterizer.Draws)
    (hplays : ∀ stage ∈ trace, ∀ step, stage.phase = .entry step → step.Plays info)
    (hs : s.Bills info) : s'.Bills info ∧
      s'.overlay.bill info ≤ s.overlay.bill info + taken (trace.filterMap (·.text)) := by
  induction h with
  | nil => exact ⟨hs, Nat.le_add_right _ _⟩
  | @cons s s' stage trace begins rest ih =>
      subst begins
      obtain ⟨hstage, hrest⟩ := List.forall_mem_cons.mp hsound
      obtain ⟨hphase, hphases⟩ := List.forall_mem_cons.mp hplays
      obtain ⟨hafter, hbill⟩ := hstage.bill_le hdraws hphase hs
      obtain ⟨hlast, hbills⟩ := ih hrest hphases hafter
      refine ⟨hlast, ?_⟩
      have hsum : taken ((stage :: trace).filterMap (·.text)) =
          taken stage.text.toList + taken (trace.filterMap (·.text)) := by
        rw [filterMap_cons_toList, taken_append]
      rw [hsum]
      omega

/-- A step raises the bill by one if a caption is taken in it. -/
theorem Session.step_bill_le {step : Step} (hdraws : rasterizer.Draws)
    (hplays : step.Plays info) (hs : s.Bills info) :
    (s.step rasterizer step).1.Bills info ∧
      (s.step rasterizer step).1.overlay.bill info ≤
        s.overlay.bill info + taken (s.step rasterizer step).2.text.toList := by
  have hphases : ∀ stage ∈ s.stagesOf rasterizer step, ∀ step', stage.phase = .entry step' →
      step'.Plays info := by
    intro stage hmem step' hphase
    obtain ⟨rfl, -⟩ := stagesOf_entry hmem hphase
    exact hplays
  have hbill := (s.stagesOf_leads rasterizer step).bill_le (s.stagesOf_sound rasterizer step)
    hdraws hphases hs
  rwa [stagesOf_text] at hbill

end Captioning
