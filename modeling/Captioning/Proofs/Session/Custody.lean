import Captioning.Proofs.Session.Caching

/-!
# The way of a caption

A caption that is delivered becomes pending, is shown on frames, and leaves.  This file proves
that no caption gets lost, is replaced, is taken twice, or overtakes another one.

## Strategy

What happens to the pending caption in a stage is read off the sessions before and after it
(`Stage.stored?`, `Stage.left?`), and the calls that deliver captions off the stages in which
they begin (`Stage.call?`).  Each sound stage keeps two accounts: the captions that became pending
are those that left and the one that is pending now (`Leads.slot_account`), and they are the
captions of the calls that ended well (`Stage.Sound.call_account`).  Why a caption leaves and what
a frame shows is read off the turn of the frame.
-/

namespace Captioning

namespace Stage

/-! ## What is seen in a stage -/

/-- The caption that becomes pending in a stage. -/
def stored? (stage : Stage) : Option TextItem :=
  if stage.after.overlay.slot = stage.before.overlay.slot then none
  else stage.after.overlay.slot

/-- The caption that is pending before a stage and not after it. -/
def left? (stage : Stage) : Option TextItem :=
  if stage.after.overlay.slot = stage.before.overlay.slot then none
  else stage.before.overlay.slot

/-- The call of a caption that begins in a stage: the part of the caption that is to be stored,
or `none` if it is refused or lies outside of the text segment. -/
def call? (stage : Stage) : Option (Option TextItem) :=
  match stage.phase with
  | .entry (.text item) =>
      if stage.before.text.isSome then none
      else some (stage.before.overlay.admitText item).toOption.join
  | _ => none

/-- The frame that may look at the pending caption in a stage. -/
inductive Looks (stage : Stage) (call : FrameCall) : Prop
  | arrives {item : VideoItem} (phase : stage.phase = .entry (.frame item))
      (free : stage.before.frame = none)
      (admission : stage.before.overlay.admitFrame item = .admitted call)
  | waits (phase : stage.phase = .frameLook) (frame : stage.before.frame = some call)

/-- Why the pending caption leaves in a stage. -/
inductive Departs (stage : Stage) (rasterizer : Rasterizer) (item : TextItem) : Prop
  | consumed {call : FrameCall} (looks : stage.Looks call)
      (overlap : classify (stage.before.overlay.textSegment.span? item) call.span = .untimed ∨
        classify (stage.before.overlay.textSegment.span? item) call.span = .current true)
      (frame : stage.video = some (.ok (some (stage.before.overlay.finish rasterizer call
        (.overlay item.payload.prepare true)).2.2)))
  | stale {call : FrameCall} (looks : stage.Looks call)
      (overlap : classify (stage.before.overlay.textSegment.span? item) call.span = .stale)
  | videoFlush (phase : stage.phase = .entry (.videoEvent .flushStop))
  | textFlush (phase : stage.phase = .entry (.textEvent .flushStop))
  | halt (phase : stage.phase = .entry (.transit .halt))

/-- Whether a caption is on its way in a stage. -/
def delivers (stage : Stage) : Bool :=
  match stage.phase with
  | .entry (.text _) => true
  | .textLook => true
  | _ => false

/-- What can happen to the pending caption in a stage. -/
inductive Change (stage : Stage) (rasterizer : Rasterizer) : Prop
  | same (slot : stage.after.overlay.slot = stage.before.overlay.slot)
  | stored {item : TextItem} (delivers : stage.delivers = true)
      (before : stage.before.overlay.slot = none) (after : stage.after.overlay.slot = some item)
  | left {item : TextItem} (before : stage.before.overlay.slot = some item)
      (after : stage.after.overlay.slot = none) (departs : stage.Departs rasterizer item)

/-- A frame that looks in a stage carries an image of the prepared text of a caption. -/
inductive Shows (stage : Stage) (rasterizer : Rasterizer) (item : TextItem) :
    ScheduledFrame → Prop
  | intro {call : FrameCall} {image : RenderedImage} {x y : Int} (looks : stage.Looks call)
      (depicts : image.Depicts rasterizer item.payload.prepare
        (stage.before.overlay.config.textStyle call.item.payload.info.width
          call.item.payload.info.height true)) :
      Shows stage rasterizer item
        (Overlay.compose call stage.before.overlay.attach (some ⟨image, x, y⟩))

end Stage

/-- The captions of the calls that ended well, with the results in the order of the calls. -/
def accepted (calls : List (Option TextItem)) (results : List TextResult) : List TextItem :=
  (calls.zip results).filterMap fun (part, result) => if result.isOk then part else none

@[simp] theorem accepted_nil_left (results : List TextResult) : accepted [] results = [] := rfl

@[simp] theorem accepted_nil_right (calls : List (Option TextItem)) : accepted calls [] = [] := by
  simp [accepted]

@[simp] theorem accepted_cons_error (part : Option TextItem) (calls : List (Option TextItem))
    (error : CaptionError) (results : List TextResult) :
    accepted (part :: calls) (.error error :: results) = accepted calls results := rfl

@[simp] theorem accepted_cons_ok (part : Option TextItem) (calls : List (Option TextItem))
    (results : List TextResult) :
    accepted (part :: calls) (.ok () :: results) = part.toList ++ accepted calls results := by
  cases part <;> rfl

namespace Overlay

variable {o o' : Overlay} {rasterizer : Rasterizer} {call : FrameCall} {signal : Signal}

/-! ## The pending caption -/

private theorem Cleared.leaves {span : TimeSpan} (h : o.Cleared span o' signal) :
    o'.slot = o.slot ∨ o'.slot = none ∧ ∃ item, o.slot = some item ∧
      classify (o.textSegment.span? item) span = .stale := by
  cases h with
  | empty slot => exact .inl rfl
  | stale slot overlap => exact .inr ⟨rfl, _, slot, overlap⟩

/-- A frame that looks at the pending caption leaves it alone or lets it go, if it has ended or
is shown for the last time. -/
theorem Turn.leaves {result : Option FrameResult} (h : o.Turn rasterizer call o' signal result) :
    o'.slot = o.slot ∨ o'.slot = none ∧ ∃ item, o.slot = some item ∧
      (classify (o.textSegment.span? item) call.span = .stale ∨
        (classify (o.textSegment.span? item) call.span = .untimed ∨
          classify (o.textSegment.span? item) call.span = .current true) ∧
        result = some (.ok (some
          (o.finish rasterizer call (.overlay item.payload.prepare true)).2.2))) := by
  cases h with
  | refused fault => exact .inl rfl
  | passed fault cleared past =>
      rcases cleared.leaves with hsame | ⟨hnone, item, hslot, hstale⟩
      · exact .inl hsame
      · exact .inr ⟨hnone, item, hslot, .inl hstale⟩
  | waits fault cleared ahead =>
      rcases cleared.leaves with hsame | ⟨hnone, item, hslot, hstale⟩
      · exact .inl hsame
      · exact .inr ⟨hnone, item, hslot, .inl hstale⟩
  | future fault slot overlap => exact .inl rfl
  | @shown item consume fault slot overlap =>
      cases consume with
      | false => exact .inl (finish_overlay_slot o _ false)
      | true =>
          refine .inr ⟨finish_overlay_slot o _ true, item, slot, .inr ⟨?_, rfl⟩⟩
          rcases overlap with ⟨huntimed, -⟩ | hcurrent
          · exact .inl huntimed
          · exact .inr hcurrent

theorem Arrival.slot {item : VideoItem} {progress : Progress}
    (h : o.Arrival rasterizer item o' signal progress) :
    o'.slot = o.slot ∨ ∃ call result, o.admitFrame item = .admitted call ∧
      o.Turn rasterizer call o' signal result ∧
      ∀ frame, result = some frame → progress = .done frame := by
  cases h with
  | dropped admission => exact .inl rfl
  | refused admission => exact .inl rfl
  | unclocked admission => exact .inl rfl
  | silent admission silent => exact .inl rfl
  | provided admission silent connected d keeps =>
      cases d with
      | passthrough => exact .inl rfl
      | overlay text consume =>
          rw [keeps text consume rfl]
          exact .inl (finish_overlay_slot o text false)
  | decided admission silent connected turn =>
      exact .inr ⟨_, _, admission, turn, fun frame hframe => by rw [Option.some.inj hframe]⟩
  | waits admission silent connected turn =>
      exact .inr ⟨_, _, admission, turn, by simp⟩

/-- Control leaves the pending caption alone or throws it away, at the end of a flush and at a
halt. -/
theorem Control.slot {step : Step} (h : o.Control step o' signal) :
    o'.slot = o.slot ∨ o'.slot = none ∧ (step = .videoEvent .flushStop ∨
      step = .textEvent .flushStop ∨ step = .transit .halt) := by
  cases h with
  | videoEvent event =>
      cases event with
      | flushStop => exact .inr ⟨rfl, .inl rfl⟩
      | _ => exact .inl rfl
  | textEvent event =>
      cases event with
      | flushStop => exact .inr ⟨rfl, .inr (.inl rfl)⟩
      | _ => exact .inl rfl
  | transit transition =>
      cases transition with
      | start => exact .inl rfl
      | halt => exact .inr ⟨rfl, .inr (.inr rfl)⟩
  | connect on => exact .inl rfl
  | attach on => exact .inl rfl
  | configure config => exact .inl (configure_slot config)
  | provide provider => exact .inl rfl

/-! ## The text that is shown -/

theorem Turn.shows {frame : ScheduledFrame}
    (h : o.Turn rasterizer call o' signal (some (.ok (some frame))))
    (ho : o.cache.Faithful rasterizer) (hoverlaid : frame.isOverlaid = true) :
    ∃ item image x y, o.slot = some item ∧
      image.Depicts rasterizer item.payload.prepare (o.config.textStyle
        call.item.payload.info.width call.item.payload.info.height true) ∧
      frame = compose call o.attach (some ⟨image, x, y⟩) := by
  cases h with
  | passed fault cleared past => simp [ScheduledFrame.isOverlaid] at hoverlaid
  | future fault slot overlap => simp [ScheduledFrame.isOverlaid] at hoverlaid
  | @shown item consume fault slot overlap =>
      have hrendering := o.cache.render_rendering rasterizer item.payload.prepare
        (o.config.textStyle call.item.payload.info.width call.item.payload.info.height true)
      rw [finish_overlay_frame] at hoverlaid ⊢
      cases hresult : (o.cache.render rasterizer item.payload.prepare (o.config.textStyle
          call.item.payload.info.width call.item.payload.info.height true)).2 with
      | error error =>
          rw [composeText_of_error o _ _ hresult] at hoverlaid
          simp [compose, ScheduledFrame.isOverlaid] at hoverlaid
      | ok image =>
          rw [hresult] at hrendering
          rw [composeText_of_ok o _ _ hresult]
          exact ⟨item, image, _, _, slot, hrendering.depicts ho, rfl⟩

end Overlay

namespace Stage

variable {stage : Stage} {rasterizer : Rasterizer}

private theorem change_of_turn {call : FrameCall} {o' : Overlay} {signal : Signal}
    {result : Option FrameResult}
    (turn : stage.before.overlay.Turn rasterizer call o' signal result)
    (looks : stage.Looks call) (hafter : stage.after.overlay = o')
    (hvideo : ∀ frame, result = some frame → stage.video = some frame) :
    stage.Change rasterizer := by
  subst hafter
  rcases turn.leaves with hsame | ⟨hnone, item, hslot, hwhy⟩
  · exact .same hsame
  · refine .left hslot hnone ?_
    rcases hwhy with hstale | ⟨hoverlap, hresult⟩
    · exact .stale looks hstale
    · exact .consumed looks hoverlap (hvideo _ hresult)

/-- In a sound stage at most one thing happens to the pending caption. -/
theorem Sound.change (h : stage.Sound rasterizer) : stage.Change rasterizer := by
  cases h with
  | @entry s s' step signal report entry =>
      cases entry with
      | busyFrame frame => exact .same rfl
      | frame free arrival =>
          rcases arrival.slot with hsame | ⟨call, result, hadmission, turn, hdone⟩
          · exact .same hsame
          · refine change_of_turn turn (.arrives rfl free hadmission) rfl ?_
            intro frame hframe
            cases hdone frame hframe
            rfl
      | blockedFrame free arrival =>
          rcases arrival.slot with hsame | ⟨call, result, hadmission, turn, hdone⟩
          · exact .same hsame
          · refine change_of_turn turn (.arrives rfl free hadmission) rfl ?_
            intro frame hframe
            cases hdone frame hframe
      | busyText text => exact .same rfl
      | refusedText free admission => exact .same rfl
      | discardedText free admission => exact .same rfl
      | blockedText free admission slot => exact .same rfl
      | storedText free admission slot => exact .stored rfl slot rfl
      | control control =>
          rcases control.slot with hsame | ⟨hnone, hstep⟩
          · exact .same hsame
          · cases hslot : s.overlay.slot with
            -- there was nothing to be thrown away
            | none => exact .same (hnone.trans hslot.symm)
            | some item =>
                refine .left hslot hnone ?_
                rcases hstep with rfl | rfl | rfl
                · exact .videoFlush rfl
                · exact .textFlush rfl
                · exact .halt rfl
  | textLook wake =>
      cases wake with
      | stored text flushing slot => exact .stored rfl slot rfl
      | _ => exact .same rfl
  | frameLook wake =>
      cases wake with
      | idle frame => exact .same rfl
      | done frame turn =>
          refine change_of_turn turn (.waits rfl frame) rfl ?_
          intro result hresult
          exact hresult
      | waits frame turn =>
          refine change_of_turn turn (.waits rfl frame) rfl ?_
          intro result hresult
          cases hresult

/-! ## The accounts of a stage -/

theorem stored?_of_same (h : stage.after.overlay.slot = stage.before.overlay.slot) :
    stage.stored? = none := by
  simp [stored?, h]

theorem stored?_of_none (h : stage.after.overlay.slot = none) : stage.stored? = none := by
  simp [stored?, h]

theorem Change.before_of_stored {item : TextItem} (h : stage.Change rasterizer)
    (hstored : stage.stored? = some item) : stage.before.overlay.slot = none := by
  cases h with
  | same slot => simp [stored?_of_same slot] at hstored
  | stored delivers before after => exact before
  | left before after departs => simp [stored?_of_none after] at hstored

theorem Change.departs_of_left {item : TextItem} (h : stage.Change rasterizer)
    (hleft : stage.left? = some item) : stage.Departs rasterizer item := by
  cases h with
  | same slot => simp [left?, slot] at hleft
  | stored delivers before after => simp [left?, before] at hleft
  | left before after departs =>
      have hitem : stage.left? = stage.before.overlay.slot := by simp [left?, before, after]
      rw [hitem, before] at hleft
      rw [← Option.some.inj hleft]
      exact departs

/-- What was pending and what becomes pending is what leaves and what is pending then. -/
theorem slot_account (stage : Stage) :
    stage.before.overlay.slot.toList ++ stage.stored?.toList =
      stage.left?.toList ++ stage.after.overlay.slot.toList := by
  unfold stored? left?
  split
  next hsame => simp [hsame]
  next _ => rfl

theorem Change.stored?_eq_none (h : stage.Change rasterizer) (hidle : stage.delivers = false) :
    stage.stored? = none := by
  cases h with
  | same slot => exact stored?_of_same slot
  | stored delivers before after => simp [hidle] at delivers
  | left before after departs => exact stored?_of_none after

/-- The caption that waits and the one that is delivered either go on waiting or come to their
end, and then the caption becomes pending if the end is a good one. -/
theorem Sound.call_account (h : stage.Sound rasterizer) (calls : List (Option TextItem))
    (results : List TextResult) :
    accepted (stage.before.text.toList.map some ++ (stage.call?.toList ++ calls))
        (stage.text.toList ++ results) =
      stage.stored?.toList ++
        accepted (stage.after.text.toList.map some ++ calls) results := by
  -- where no caption is on its way, neither side of the account changes
  have hidle : stage.delivers = false → stage.stored? = none := h.change.stored?_eq_none
  cases h with
  | @entry s s' step signal report entry =>
      cases entry with
      | busyFrame frame => simp [call?, hidle rfl]
      | frame free arrival => simp [call?, hidle rfl]
      | blockedFrame free arrival => simp [call?, hidle rfl]
      | busyText text => simp [call?, stored?, text]
      | refusedText free admission => simp [call?, stored?, free, admission]
      | discardedText free admission =>
          simp [call?, stored?, free, admission, Except.toOption]
      | blockedText free admission slot =>
          simp [call?, stored?, free, admission, Except.toOption]
      | storedText free admission slot =>
          simp [call?, stored?, free, admission, slot, Except.toOption]
      | control control => cases control <;> simp [call?, hidle rfl]
  | textLook wake =>
      cases wake with
      | idle text => simp [call?, stored?]
      | flushed text flushing => simp [call?, stored?, text]
      | blocked text flushing slot => simp [call?, stored?]
      | stored text flushing slot => simp [call?, stored?, text, slot]
  | frameLook wake =>
      have htext := wake.text
      simp [call?, hidle rfl, htext]

/-- Of the calls of captions at most one goes on waiting. -/
theorem Sound.call_count (h : stage.Sound rasterizer) :
    stage.before.text.toList.length + stage.call?.toList.length =
      stage.text.toList.length + stage.after.text.toList.length := by
  cases h with
  | @entry s s' step signal report entry =>
      cases entry with
      | control control => cases control <;> simp [call?]
      | busyText text => simp [call?, text]
      | refusedText free admission => simp [call?, free]
      | discardedText free admission => simp [call?, free]
      | blockedText free admission slot => simp [call?, free]
      | storedText free admission slot => simp [call?, free]
      | _ => simp [call?]
  | textLook wake =>
      cases wake with
      | idle text => simp [call?]
      | flushed text flushing => simp [call?, text]
      | blocked text flushing slot => simp [call?]
      | stored text flushing slot => simp [call?, text]
  | frameLook wake => simp [call?, wake.text]

/-! ## The frames of a stage -/

theorem Sound.faithful (h : stage.Sound rasterizer)
    (hbefore : stage.before.overlay.cache.Faithful rasterizer) :
    stage.after.overlay.cache.Faithful rasterizer :=
  h.keeps (RenderCache.faithful_invariant rasterizer) hbefore

/-- A frame that carries text while the text input is connected has looked in this stage. -/
theorem Sound.turn_of_overlaid {frame : ScheduledFrame} (h : stage.Sound rasterizer)
    (hvideo : stage.video = some (.ok (some frame))) (hoverlaid : frame.isOverlaid = true)
    (hconnected : stage.before.overlay.flow.textConnected = true) :
    ∃ call signal, stage.Looks call ∧ stage.before.overlay.Turn rasterizer call
      stage.after.overlay signal (some (.ok (some frame))) := by
  -- the frame may have arrived in this stage or have waited before it
  cases h with
  | @entry s s' step signal report entry =>
      cases entry with
      | frame free arrival =>
          obtain rfl := Option.some.inj hvideo
          cases arrival with
          | unclocked admission => simp [ScheduledFrame.isOverlaid] at hoverlaid
          | silent admission silent => simp [ScheduledFrame.isOverlaid] at hoverlaid
          | provided admission silent connected d keeps =>
              rw [connected] at hconnected
              cases hconnected
          | decided admission silent connected turn =>
              exact ⟨_, _, .arrives rfl free admission, turn⟩
      | _ => simp at hvideo
  | textLook wake => simp at hvideo
  | frameLook wake =>
      cases wake with
      | done frame turn =>
          obtain rfl := Option.some.inj hvideo
          exact ⟨_, _, .waits rfl frame, turn⟩
      | _ => simp at hvideo

theorem Sound.shows {frame : ScheduledFrame} (h : stage.Sound rasterizer)
    (hbefore : stage.before.overlay.cache.Faithful rasterizer)
    (hvideo : stage.video = some (.ok (some frame))) (hoverlaid : frame.isOverlaid = true)
    (hconnected : stage.before.overlay.flow.textConnected = true) :
    ∃ item, stage.before.overlay.slot = some item ∧ stage.Shows rasterizer item frame := by
  obtain ⟨call, signal, hlooks, hturn⟩ := h.turn_of_overlaid hvideo hoverlaid hconnected
  obtain ⟨item, image, x, y, hslot, hdepicts, rfl⟩ := hturn.shows hbefore hoverlaid
  exact ⟨item, hslot, .intro hlooks hdepicts⟩

end Stage

namespace Leads

variable {s s' : Session} {rasterizer : Rasterizer} {trace : List Stage}

/-! ## The accounts of a session -/

/-- What was pending and what became pending is what left and what is pending in the end. -/
theorem slot_account (h : Leads s trace s') :
    s.overlay.slot.toList ++ trace.filterMap Stage.stored? =
      trace.filterMap Stage.left? ++ s'.overlay.slot.toList := by
  induction h with
  | nil => simp
  | @cons s s' stage trace begins rest ih =>
      subst begins
      rw [filterMap_cons_toList, filterMap_cons_toList, List.append_assoc, ← ih,
        ← List.append_assoc, ← List.append_assoc, stage.slot_account]

/-- What becomes pending are the captions of the calls that ended well. -/
theorem call_account (h : Leads s trace s') (hsound : ∀ stage ∈ trace, stage.Sound rasterizer) :
    accepted (s.text.toList.map some ++ trace.filterMap Stage.call?) (trace.filterMap (·.text)) =
      trace.filterMap Stage.stored? := by
  induction h with
  | nil => simp
  | @cons s s' stage trace begins rest ih =>
      subst begins
      obtain ⟨hstage, hrest⟩ := List.forall_mem_cons.mp hsound
      rw [filterMap_cons_toList, filterMap_cons_toList, filterMap_cons_toList,
        hstage.call_account, ih hrest]

/-- Every call of a caption but a waiting one has a result. -/
theorem call_count (h : Leads s trace s') (hsound : ∀ stage ∈ trace, stage.Sound rasterizer) :
    s.text.toList.length + (trace.filterMap Stage.call?).length =
      (trace.filterMap (·.text)).length + s'.text.toList.length := by
  induction h with
  | nil => simp
  | @cons s s' stage trace begins rest ih =>
      subst begins
      obtain ⟨hstage, hrest⟩ := List.forall_mem_cons.mp hsound
      have hcount := hstage.call_count
      have hrest := ih hrest
      rw [filterMap_cons_toList, filterMap_cons_toList, List.length_append, List.length_append]
      omega

end Leads

namespace Session

/-- **The way of a caption.**  Along every session, stage by stage:

* the captions that become pending are, in this order, those of the calls that ended well and
  were not discarded, and each becomes pending when no other one is;
* the captions that become pending are, in this order, those that leave and the one that is
  pending in the end, and each leaves because a frame consumed it or found that it has ended,
  because a flush of an input ended, or because of a halt;
* a frame that carries text while the text input is connected shows the caption that is pending
  at that moment. -/
theorem caption_custody (rasterizer : Rasterizer) (steps : List Step) :
    let last := (initial.run rasterizer steps).1
    let reports := (initial.run rasterizer steps).2
    let trace := initial.stages rasterizer steps
    let calls := trace.filterMap Stage.call?
    let results := reports.filterMap (·.text)
    (Leads initial trace last ∧ trace.filterMap (·.video) = reports.filterMap (·.video) ∧
        trace.filterMap (·.text) = results) ∧
      calls.length = results.length + last.text.toList.length ∧
      trace.filterMap Stage.stored? = accepted calls results ∧
      trace.filterMap Stage.stored? =
        trace.filterMap Stage.left? ++ last.overlay.slot.toList ∧
      ∀ stage ∈ trace,
        (∀ item, stage.stored? = some item → stage.before.overlay.slot = none) ∧
        (∀ item, stage.left? = some item → stage.Departs rasterizer item) ∧
        ∀ frame, stage.video = some (.ok (some frame)) → frame.isOverlaid = true →
          stage.before.overlay.flow.textConnected = true →
          ∃ item, stage.before.overlay.slot = some item ∧ stage.Shows rasterizer item frame := by
  intro last reports trace calls results
  have hleads : Leads initial trace last := initial.stages_leads rasterizer steps
  have hsound : ∀ stage ∈ trace, stage.Sound rasterizer := initial.stages_sound rasterizer steps
  have htext : trace.filterMap (·.text) = results := initial.stages_text rasterizer steps
  -- the image that a frame gets may be an old one, so it matters what the cache holds
  have hfaithful : ∀ stage ∈ trace, stage.before.overlay.cache.Faithful rasterizer :=
    hleads.invariant (fun s => s.overlay.cache.Faithful rasterizer)
      (fun stage hmem => (hsound stage hmem).faithful) (RenderCache.empty_faithful rasterizer)
  refine ⟨⟨hleads, initial.stages_video rasterizer steps, htext⟩, ?_, ?_, ?_, ?_⟩
  · have hcount := hleads.call_count hsound
    rw [htext] at hcount
    simpa [initial] using hcount
  · have haccount := hleads.call_account hsound
    rw [htext] at haccount
    exact haccount.symm
  · exact hleads.slot_account
  · intro stage hmem
    have hchange := (hsound stage hmem).change
    refine ⟨fun item => hchange.before_of_stored, fun item => hchange.departs_of_left, ?_⟩
    intro frame
    exact (hsound stage hmem).shows (hfaithful stage hmem)

end Session

end Captioning
