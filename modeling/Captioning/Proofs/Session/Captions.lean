import Captioning.Proofs.Session.Custody

/-!
# The captions in a session

A session has room for two captions: the pending one and the one that waits.  Both got there as
the admitted part of a caption that was delivered.  What is true of every admitted part, at the
moment of its admission, and is not made false later, is therefore true of every caption in a
session.
-/

namespace Captioning

/-- The captions in a session: the pending one, and the one that waits. -/
def Session.captions (s : Session) : List TextItem :=
  s.overlay.slot.toList ++ s.text.toList

theorem Session.mem_captions {s : Session} {item : TextItem} :
    item ∈ s.captions ↔ s.overlay.slot = some item ∨ s.text = some item := by
  simp [captions]

/-- A caption is delivered of which `part` is admitted. -/
def Stage.Admits (stage : Stage) (part : TextItem) : Prop :=
  ∃ item, stage.phase = .entry (.text item) ∧
    stage.before.overlay.admitText item = .ok (some part)

namespace Overlay

variable {o o' : Overlay} {rasterizer : Rasterizer} {signal : Signal} {caption : TextItem}

private theorem Turn.slot_of_some {call : FrameCall} {result : Option FrameResult}
    (h : o.Turn rasterizer call o' signal result) (hslot : o'.slot = some caption) :
    o.slot = some caption := by
  rcases h.leaves with hsame | ⟨hnone, -⟩
  · exact hsame ▸ hslot
  · rw [hnone] at hslot
    cases hslot

private theorem Arrival.slot_of_some {item : VideoItem} {progress : Progress}
    (h : o.Arrival rasterizer item o' signal progress) (hslot : o'.slot = some caption) :
    o.slot = some caption := by
  rcases h.slot with hsame | ⟨call, result, -, turn, -⟩
  · exact hsame ▸ hslot
  · exact turn.slot_of_some hslot

private theorem Control.slot_of_some {step : Step} (h : o.Control step o' signal)
    (hslot : o'.slot = some caption) : o.slot = some caption := by
  rcases h.slot with hsame | ⟨hnone, -⟩
  · exact hsame ▸ hslot
  · rw [hnone] at hslot
    cases hslot

end Overlay

namespace Session

variable {s s' : Session} {rasterizer : Rasterizer} {step : Step} {caption : TextItem}

theorem Entry.mem_captions {signal : Signal} {report : Report}
    (h : s.Entry rasterizer step s' signal report) (hmem : caption ∈ s'.captions) :
    caption ∈ s.captions ∨
      ∃ item, step = .text item ∧ s.overlay.admitText item = .ok (some caption) := by
  rw [Session.mem_captions] at hmem ⊢
  cases h with
  | frame free arrival => exact .inl (hmem.imp_left arrival.slot_of_some)
  | blockedFrame free arrival => exact .inl (hmem.imp_left arrival.slot_of_some)
  | blockedText free admission slot =>
      rcases hmem with hslot | htext
      · exact .inl (.inl hslot)
      · obtain rfl := Option.some.inj htext
        exact .inr ⟨_, rfl, admission⟩
  | storedText free admission slot =>
      rcases hmem with hslot | htext
      · obtain rfl := Option.some.inj hslot
        exact .inr ⟨_, rfl, admission⟩
      · exact .inl (.inr htext)
  | control control => exact .inl (hmem.imp_left control.slot_of_some)
  | _ => exact .inl hmem

theorem TextWake.mem_captions {result : Option TextResult} (h : s.TextWake s' result)
    (hmem : caption ∈ s'.captions) : caption ∈ s.captions := by
  rw [Session.mem_captions] at hmem ⊢
  cases h with
  | idle text => exact hmem
  | flushed text flushing => exact hmem.imp_right nofun
  | blocked text flushing slot => exact hmem
  | stored text flushing slot =>
      rcases hmem with hslot | hnone
      · obtain rfl := Option.some.inj hslot
        exact .inr text
      · cases hnone

theorem FrameWake.mem_captions {result : Option FrameResult}
    (h : s.FrameWake rasterizer s' result) (hmem : caption ∈ s'.captions) :
    caption ∈ s.captions := by
  rw [Session.mem_captions] at hmem ⊢
  cases h with
  | idle frame => exact hmem
  | done frame turn => exact hmem.imp_left turn.slot_of_some
  | waits frame turn => exact hmem.imp_left turn.slot_of_some

end Session

/-- The captions after a stage were there before, or the stage delivers one of them. -/
theorem Stage.Sound.mem_captions {stage : Stage} {rasterizer : Rasterizer} {caption : TextItem}
    (h : stage.Sound rasterizer) (hmem : caption ∈ stage.after.captions) :
    caption ∈ stage.before.captions ∨ stage.Admits caption := by
  cases h with
  | entry entry =>
      refine (entry.mem_captions hmem).imp_right ?_
      rintro ⟨item, rfl, hadmit⟩
      exact ⟨item, rfl, hadmit⟩
  | textLook wake => exact .inl (wake.mem_captions hmem)
  | frameLook wake => exact .inl (wake.mem_captions hmem)

end Captioning
