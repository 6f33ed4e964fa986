import Captioning.Proofs.Render.Drawing
import Captioning.Proofs.Session.Stages

/-!
# What happens to the cache in a session

A session does two things to its cache: it makes the image stale, and it asks for the image of a
text.  What both of them keep is kept by every stage.
-/

namespace Captioning

variable {rasterizer : Rasterizer} {P : RenderCache → Prop}

namespace Overlay

variable {o o' : Overlay} {call : FrameCall} {signal : Signal}

theorem finish_keeps (hkeeps : RenderCache.Invariant rasterizer P) (h : P o.cache)
    (d : Decision) : P (o.finish rasterizer call d).1.cache := by
  cases d with
  | passthrough => exact h
  | overlay text consume =>
      rw [finish_overlay_cache]
      exact hkeeps.render _ _ _ h

theorem Turn.keeps {result : Option FrameResult} (h : o.Turn rasterizer call o' signal result)
    (hkeeps : RenderCache.Invariant rasterizer P) (ho : P o.cache) : P o'.cache := by
  cases h with
  | refused fault => exact ho
  | passed fault cleared past =>
      rw [reach_cache, cleared.cache]
      exact ho
  | waits fault cleared ahead =>
      rw [cleared.cache]
      exact ho
  | future fault slot overlap => exact ho
  | shown fault slot overlap => exact finish_keeps hkeeps ho _

theorem Arrival.keeps {item : VideoItem} {progress : Progress}
    (h : o.Arrival rasterizer item o' signal progress)
    (hkeeps : RenderCache.Invariant rasterizer P) (ho : P o.cache) : P o'.cache := by
  cases h with
  | provided admission silent connected d => exact finish_keeps hkeeps ho d
  | decided admission silent connected turn => exact turn.keeps hkeeps ho
  | waits admission silent connected turn => exact turn.keeps hkeeps ho
  | _ => exact ho

theorem Control.keeps {step : Step} (h : o.Control step o' signal)
    (hkeeps : RenderCache.Invariant rasterizer P) (ho : P o.cache) : P o'.cache := by
  cases h with
  | videoEvent event => cases event <;> exact ho
  | textEvent event => cases event <;> exact ho
  | transit transition => cases transition <;> exact ho
  | connect on => exact hkeeps.invalidate _ ho
  | attach on => exact ho
  | configure config =>
      unfold Overlay.configure
      split
      · split
        · exact ho
        · exact hkeeps.invalidate _ ho
      · exact ho
  | provide provider => exact hkeeps.invalidate _ ho

end Overlay

theorem Stage.Sound.keeps {stage : Stage} (h : stage.Sound rasterizer)
    (hkeeps : RenderCache.Invariant rasterizer P) (hbefore : P stage.before.overlay.cache) :
    P stage.after.overlay.cache := by
  cases h with
  | @entry s s' step signal report entry =>
      cases entry with
      | frame free arrival => exact arrival.keeps hkeeps hbefore
      | blockedFrame free arrival => exact arrival.keeps hkeeps hbefore
      | storedText free admission slot => exact hkeeps.invalidate _ hbefore
      | control control => exact control.keeps hkeeps hbefore
      | _ => exact hbefore
  | textLook wake =>
      cases wake with
      | stored text flushing slot => exact hkeeps.invalidate _ hbefore
      | _ => exact hbefore
  | frameLook wake =>
      cases wake with
      | idle frame => exact hbefore
      | done frame turn => exact turn.keeps hkeeps hbefore
      | waits frame turn => exact turn.keeps hkeeps hbefore

/-- Before each stage of a session the image that is kept was drawn for its text. -/
theorem Session.stages_exact (rasterizer : Rasterizer) (steps : List Step) :
    ∀ stage ∈ initial.stages rasterizer steps, stage.before.overlay.cache.Exact rasterizer :=
  (initial.stages_leads rasterizer steps).invariant (fun s => s.overlay.cache.Exact rasterizer)
    (fun stage hmem hbefore => (initial.stages_sound rasterizer steps stage hmem).keeps
      (RenderCache.exact_invariant rasterizer) hbefore)
    (RenderCache.empty_exact rasterizer)

end Captioning
