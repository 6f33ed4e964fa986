import Captioning.Proofs.Overlay.Looking
import Mathlib.Logic.Function.Iterate

/-!
# The loop of a frame

A frame that looks at the pending caption goes through a loop.  It asks whether the video input
takes data, and then inspects the slot.  A caption that has ended is let go, and the loop begins
anew; everything else ends the loop with a verdict.  A frame that waits begins the loop anew when
it is woken.

## Strategy

`Deliberation.next` is one turn of the loop.  A turn that does not end the loop lowers
`Deliberation.measure`, and a caption can be let go only if there is one, so the loop ends after at
most four turns (`exists_ended`) and lets go at most one caption (`removals_le_one`).  How it ends
is read off turn by turn (`ends_of_fault` and the lemmas after it), which gives one rule for each
case in `Overlay.Decides`.
-/

namespace Captioning

/-- Where a frame stands in its loop. -/
inductive Stance where
  | checkFlow
  | inspect
  | ended (verdict : Verdict)

/-- A frame in its loop: what it has made of the overlay, where it stands, and how many captions
it has let go. -/
structure Deliberation where
  overlay : Overlay
  stance : Stance
  removals : Nat

namespace Deliberation

variable {span : TimeSpan} {o o' : Overlay} {d : Deliberation} {verdict : Verdict}

/-- A frame at the beginning of its loop. -/
def start (o : Overlay) : Deliberation :=
  ⟨o, .checkFlow, 0⟩

/-- One turn of the loop. -/
def next (span : TimeSpan) (d : Deliberation) : Deliberation :=
  match d.stance with
  | .checkFlow =>
      match d.overlay.flow.videoFault? with
      | some error => { d with stance := .ended (.refused error) }
      | none => { d with stance := .inspect }
  | .inspect =>
      match d.overlay.slot with
      | none =>
          if d.overlay.isTextPast span.stop then
            { d with stance := .ended (.decided .passthrough) }
          else { d with stance := .ended .waiting }
      | some item =>
          match classify (d.overlay.textSegment.span? item) span with
          | .stale => ⟨d.overlay.release, .checkFlow, d.removals + 1⟩
          | .future => { d with stance := .ended (.decided .passthrough) }
          | .untimed =>
              { d with stance := .ended (.decided (.overlay item.payload.prepare true)) }
          | .current consumed =>
              { d with stance := .ended (.decided (.overlay item.payload.prepare consumed)) }
  | .ended _ => d

/-! ## Turns -/

section Turns

variable {n : Nat} {item : TextItem}

theorem next_fault {error : CaptionError} (hfault : o.flow.videoFault? = some error) :
    next span ⟨o, .checkFlow, n⟩ = ⟨o, .ended (.refused error), n⟩ := by
  simp only [next, hfault]

theorem next_open (hfault : o.flow.videoFault? = none) :
    next span ⟨o, .checkFlow, n⟩ = ⟨o, .inspect, n⟩ := by
  simp only [next, hfault]

theorem next_empty (hslot : o.slot = none) :
    next span ⟨o, .inspect, n⟩ = ⟨o, .ended (o.verdictAlone span.stop), n⟩ := by
  simp only [next, hslot, Overlay.verdictAlone]
  split <;> rfl

theorem next_stale (hslot : o.slot = some item)
    (hoverlap : classify (o.textSegment.span? item) span = .stale) :
    next span ⟨o, .inspect, n⟩ = ⟨o.release, .checkFlow, n + 1⟩ := by
  simp only [next, hslot, hoverlap]

theorem next_future (hslot : o.slot = some item)
    (hoverlap : classify (o.textSegment.span? item) span = .future) :
    next span ⟨o, .inspect, n⟩ = ⟨o, .ended (.decided .passthrough), n⟩ := by
  simp only [next, hslot, hoverlap]

theorem next_untimed (hslot : o.slot = some item)
    (hoverlap : classify (o.textSegment.span? item) span = .untimed) :
    next span ⟨o, .inspect, n⟩ =
      ⟨o, .ended (.decided (.overlay item.payload.prepare true)), n⟩ := by
  simp only [next, hslot, hoverlap]

theorem next_current {consumed : Bool} (hslot : o.slot = some item)
    (hoverlap : classify (o.textSegment.span? item) span = .current consumed) :
    next span ⟨o, .inspect, n⟩ =
      ⟨o, .ended (.decided (.overlay item.payload.prepare consumed)), n⟩ := by
  simp only [next, hslot, hoverlap]

end Turns

/-- What a turn can do: ask about the flow, let a caption go, or end the loop.  An ended loop
stands still. -/
inductive Turned : Deliberation → Deliberation → Prop
  | asked {o : Overlay} {n : Nat} : Turned ⟨o, .checkFlow, n⟩ ⟨o, .inspect, n⟩
  | letGo {o : Overlay} {item : TextItem} {n : Nat} (slot : o.slot = some item) :
      Turned ⟨o, .inspect, n⟩ ⟨o.release, .checkFlow, n + 1⟩
  | ended {o : Overlay} {stance : Stance} {verdict : Verdict} {n : Nat} :
      Turned ⟨o, stance, n⟩ ⟨o, .ended verdict, n⟩

theorem next_turned (span : TimeSpan) (d : Deliberation) : d.Turned (d.next span) := by
  obtain ⟨o, stance, n⟩ := d
  cases stance with
  | checkFlow =>
      cases hfault : o.flow.videoFault? with
      | some error =>
          rw [next_fault hfault]
          exact .ended
      | none =>
          rw [next_open hfault]
          exact .asked
  | inspect =>
      cases hslot : o.slot with
      | none =>
          rw [next_empty hslot]
          exact .ended
      | some item =>
          cases hoverlap : classify (o.textSegment.span? item) span with
          | stale =>
              rw [next_stale hslot hoverlap]
              exact .letGo hslot
          | future =>
              rw [next_future hslot hoverlap]
              exact .ended
          | untimed =>
              rw [next_untimed hslot hoverlap]
              exact .ended
          | current consumed =>
              rw [next_current hslot hoverlap]
              exact .ended
  | ended verdict => exact .ended

/-! ## The loop ends -/

/-- How many turns the loop can still take: one more for each stance before the end, and two for
a caption that may have to be let go. -/
def measure (d : Deliberation) : Nat :=
  match d.stance with
  | .checkFlow => 2 * d.overlay.slot.toList.length + 2
  | .inspect => 2 * d.overlay.slot.toList.length + 1
  | .ended _ => 0

theorem measure_start_le (o : Overlay) : (start o).measure ≤ 4 := by
  show 2 * o.slot.toList.length + 2 ≤ 4
  cases o.slot <;> simp

theorem ended_of_measure (h : d.measure = 0) : ∃ verdict, d.stance = .ended verdict := by
  unfold measure at h
  split at h
  · omega
  · omega
  next verdict hstance => exact ⟨verdict, hstance⟩

theorem measure_next (span : TimeSpan) (h : d.measure ≠ 0) :
    (d.next span).measure < d.measure := by
  have hturned := next_turned span d
  revert hturned
  generalize d.next span = d'
  intro hturned
  cases hturned with
  | asked => exact Nat.lt_succ_self _
  | @letGo o item n slot =>
      show 2 * 0 + 2 < 2 * o.slot.toList.length + 1
      rw [slot]
      simp
  | ended =>
      show 0 < measure _
      omega

theorem measure_iterate (span : TimeSpan) (n : Nat) (d : Deliberation) :
    ((next span)^[n] d).measure ≤ d.measure - n := by
  induction n generalizing d with
  | zero => exact Nat.le_refl _
  | succ n ih =>
      rw [Function.iterate_succ_apply]
      by_cases hd : d.measure = 0
      · -- an ended loop stands still
        have hnext : (d.next span).measure = 0 := by
          obtain ⟨verdict, hstance⟩ := ended_of_measure hd
          have hstill : d.next span = d := by simp only [next, hstance]
          rw [hstill, hd]
        have := ih (d.next span)
        omega
      · have hless := measure_next span hd
        have := ih (d.next span)
        omega

/-- The loop ends after at most four turns. -/
theorem exists_ended (span : TimeSpan) (o : Overlay) :
    ∃ verdict, ((next span)^[4] (start o)).stance = .ended verdict := by
  apply ended_of_measure
  have hle := measure_iterate span 4 (start o)
  have hstart := measure_start_le o
  omega

/-- What was let go and what may still be let go is no more than one caption. -/
theorem removals_next (h : d.removals + d.overlay.slot.toList.length ≤ 1) :
    (d.next span).removals + (d.next span).overlay.slot.toList.length ≤ 1 := by
  have hturned := next_turned span d
  revert hturned
  generalize d.next span = d'
  intro hturned
  cases hturned with
  | asked => exact h
  | @letGo o item n slot =>
      show n + 1 + 0 ≤ 1
      change n + o.slot.toList.length ≤ 1 at h
      rw [slot] at h
      exact h
  | ended => exact h

/-- However long the loop goes on, it lets at most one caption go. -/
theorem removals_le_one (span : TimeSpan) (o : Overlay) (n : Nat) :
    ((next span)^[n] (start o)).removals ≤ 1 := by
  have hkept : ((next span)^[n] (start o)).removals +
      ((next span)^[n] (start o)).overlay.slot.toList.length ≤ 1 := by
    induction n with
    | zero =>
        show 0 + o.slot.toList.length ≤ 1
        cases o.slot <;> simp
    | succ n ih =>
        rw [Function.iterate_succ_apply']
        exact removals_next ih
  omega

/-! ## How the loop ends -/

/-- The loop ends with a verdict, and leaves an overlay behind. -/
def Ends (span : TimeSpan) (d : Deliberation) (o' : Overlay) (verdict : Verdict) : Prop :=
  ∃ n removals, (next span)^[n] d = ⟨o', .ended verdict, removals⟩

theorem ends_ended (span : TimeSpan) (o : Overlay) (verdict : Verdict) (n : Nat) :
    Ends span ⟨o, .ended verdict, n⟩ o verdict :=
  ⟨0, n, rfl⟩

theorem Ends.of_next {d' : Deliberation} (hnext : d.next span = d')
    (h : Ends span d' o' verdict) : Ends span d o' verdict := by
  obtain ⟨n, removals, hends⟩ := h
  refine ⟨n + 1, removals, ?_⟩
  rw [Function.iterate_succ_apply, hnext, hends]

theorem iterate_ended (span : TimeSpan) (n : Nat) (o : Overlay) (verdict : Verdict)
    (removals : Nat) :
    (next span)^[n] ⟨o, .ended verdict, removals⟩ = ⟨o, .ended verdict, removals⟩ :=
  Function.iterate_fixed rfl n

/-- A loop ends in one way only. -/
theorem Ends.unique {first second : Overlay} {u v : Verdict} (hfirst : Ends span d first u)
    (hsecond : Ends span d second v) : first = second ∧ u = v := by
  obtain ⟨m, removals, hm⟩ := hfirst
  obtain ⟨n, removals', hn⟩ := hsecond
  -- both ends stand still until the other one is reached
  have hfirst : (next span)^[n + m] d = ⟨first, .ended u, removals⟩ := by
    rw [Function.iterate_add_apply, hm, iterate_ended]
  have hsecond : (next span)^[n + m] d = ⟨second, .ended v, removals'⟩ := by
    rw [Nat.add_comm, Function.iterate_add_apply, hn, iterate_ended]
  have hsame := hfirst.symm.trans hsecond
  simp only [mk.injEq, Stance.ended.injEq] at hsame
  exact ⟨hsame.1, hsame.2.1⟩

/-- However a loop ends, it has ended after four turns. -/
theorem Ends.after_four (h : Ends span (start o) o' verdict) :
    ∃ removals, (next span)^[4] (start o) = ⟨o', .ended verdict, removals⟩ := by
  obtain ⟨last, hlast⟩ := exists_ended span o
  generalize hd : (next span)^[4] (start o) = d at hlast
  obtain ⟨left, stance, removals⟩ := d
  obtain rfl : stance = .ended last := hlast
  have hends : Ends span (start o) left last := ⟨4, removals, hd⟩
  obtain ⟨rfl, rfl⟩ := hends.unique h
  exact ⟨removals, rfl⟩

section Cases

variable {item : TextItem} {n : Nat}

theorem ends_of_fault {error : CaptionError} (hfault : o.flow.videoFault? = some error) :
    Ends span (start o) o (.refused error) :=
  .of_next (next_fault hfault) (ends_ended span o _ 0)

theorem ends_of_empty (hfault : o.flow.videoFault? = none) (hslot : o.slot = none) :
    Ends span ⟨o, .checkFlow, n⟩ o (o.verdictAlone span.stop) :=
  .of_next (next_open hfault) (.of_next (next_empty hslot) (ends_ended span o _ n))

/-- When a caption has ended, the loop goes on as if none had been pending. -/
theorem ends_of_stale (hfault : o.flow.videoFault? = none) (hslot : o.slot = some item)
    (hoverlap : classify (o.textSegment.span? item) span = .stale) :
    Ends span (start o) o.release (o.release.verdictAlone span.stop) := by
  have hrest : Ends span ⟨o.release, .checkFlow, 1⟩ o.release
      (o.release.verdictAlone span.stop) := ends_of_empty hfault rfl
  exact .of_next (next_open hfault) (.of_next (next_stale hslot hoverlap) hrest)

theorem ends_of_future (hfault : o.flow.videoFault? = none) (hslot : o.slot = some item)
    (hoverlap : classify (o.textSegment.span? item) span = .future) :
    Ends span (start o) o (.decided .passthrough) :=
  .of_next (next_open hfault) (.of_next (next_future hslot hoverlap) (ends_ended span o _ 0))

theorem ends_of_untimed (hfault : o.flow.videoFault? = none) (hslot : o.slot = some item)
    (hoverlap : classify (o.textSegment.span? item) span = .untimed) :
    Ends span (start o) o (.decided (.overlay item.payload.prepare true)) :=
  .of_next (next_open hfault) (.of_next (next_untimed hslot hoverlap) (ends_ended span o _ 0))

theorem ends_of_current {consumed : Bool} (hfault : o.flow.videoFault? = none)
    (hslot : o.slot = some item)
    (hoverlap : classify (o.textSegment.span? item) span = .current consumed) :
    Ends span (start o) o (.decided (.overlay item.payload.prepare consumed)) :=
  .of_next (next_open hfault) (.of_next (next_current hslot hoverlap) (ends_ended span o _ 0))

end Cases

end Deliberation

namespace Overlay

variable {o o' : Overlay} {span : TimeSpan} {verdict : Verdict}

open Deliberation

/-- Looking at the pending caption is the loop. -/
theorem ends_lookAt (o : Overlay) (span : TimeSpan) :
    Ends span (start o) (o.lookAt span).1 (o.lookAt span).2.2 := by
  unfold lookAt
  split
  next error hfault => exact ends_of_fault hfault
  next hfault =>
    split
    next hslot => exact ends_of_empty hfault hslot
    next item hslot =>
      split
      next hoverlap => exact ends_of_stale hfault hslot hoverlap
      next hoverlap => exact ends_of_future hfault hslot hoverlap
      next hoverlap => exact ends_of_untimed hfault hslot hoverlap
      next consumed hoverlap => exact ends_of_current hfault hslot hoverlap

/-! ## The rules -/

/-- The list of rules for a frame that looks at the pending caption while a text input is
connected: the overlay that it leaves behind, and its verdict. -/
structure Decides (o : Overlay) (span : TimeSpan) (o' : Overlay) (verdict : Verdict) : Prop where
  flushing : o.flow.videoFlushing = true → o' = o ∧ verdict = .refused .flushing
  ended : o.flow.videoFlushing = false → o.flow.videoEnded = true →
    o' = o ∧ verdict = .refused .endOfStream
  untimed : o.flow.videoFlushing = false → o.flow.videoEnded = false →
    ∀ item, o.slot = some item → o.textSegment.span? item = none →
      o' = o ∧ verdict = .decided (.overlay item.payload.prepare true)
  /-- The caption has ended: the frame goes on as if none had been pending. -/
  stale : o.flow.videoFlushing = false → o.flow.videoEnded = false →
    ∀ item text, o.slot = some item → o.textSegment.span? item = some text →
      text.stop ≤ span.start → o' = o.release ∧ Ends span (start o.release) o' verdict
  future : o.flow.videoFlushing = false → o.flow.videoEnded = false →
    ∀ item text, o.slot = some item → o.textSegment.span? item = some text →
      span.start < text.stop → span.stop ≤ text.start →
        o' = o ∧ verdict = .decided .passthrough
  /-- The caption is shown, and consumed if it ends no later than the frame. -/
  current : o.flow.videoFlushing = false → o.flow.videoEnded = false →
    ∀ item text, o.slot = some item → o.textSegment.span? item = some text →
      span.start < text.stop → text.start < span.stop →
        o' = o ∧ ∃ consume, verdict = .decided (.overlay item.payload.prepare consume) ∧
          (consume = true ↔ text.stop ≤ span.stop)
  /-- No caption is pending: the frame passes if none is waited for, and otherwise waits. -/
  empty : o.flow.videoFlushing = false → o.flow.videoEnded = false → o.slot = none →
    o' = o ∧
      (verdict = .decided .passthrough ↔
        o.flow.textEnded = true ∨ o.config.waitText = false ∨
          (∃ t, o.textSegment.startRunningTime = some t ∧ span.stop ≤ t) ∨
          (∃ t, o.textSegment.positionRunningTime = some t ∧ span.stop ≤ t)) ∧
      (verdict ≠ .decided .passthrough → verdict = .waiting)

theorem videoFault?_of_open (hflushing : o.flow.videoFlushing = false)
    (hended : o.flow.videoEnded = false) : o.flow.videoFault? = none := by
  simp [Flow.videoFault?, hflushing, hended]

theorem verdictAlone_eq_passthrough_iff {stop : ClockTime} :
    o.verdictAlone stop = .decided .passthrough ↔ o.isTextPast stop = true := by
  unfold verdictAlone
  split <;> simp_all

theorem verdictAlone_of_ne {stop : ClockTime} (h : o.verdictAlone stop ≠ .decided .passthrough) :
    o.verdictAlone stop = .waiting := by
  unfold verdictAlone at h ⊢
  split <;> simp_all

theorem isTextPast_iff {stop : ClockTime} (hconnected : o.flow.textConnected = true) :
    o.isTextPast stop = true ↔
      o.flow.textEnded = true ∨ o.config.waitText = false ∨
        (∃ t, o.textSegment.startRunningTime = some t ∧ stop ≤ t) ∨
        (∃ t, o.textSegment.positionRunningTime = some t ∧ stop ≤ t) := by
  simp only [isTextPast, hconnected, Bool.or_eq_true, Bool.not_true, Bool.false_eq_true, or_false,
    Bool.not_eq_true', Option.any_eq_true, decide_eq_true_eq, or_assoc]

end Overlay

/-- The loop follows the rules. -/
theorem Deliberation.Ends.decides {o o' : Overlay} {span : TimeSpan} {verdict : Verdict}
    (h : Ends span (start o) o' verdict) (hconnected : o.flow.textConnected = true) :
    o.Decides span o' verdict := by
  refine ⟨?_, ?_, ?_, ?_, ?_, ?_, ?_⟩
  · intro hflushing
    exact h.unique (ends_of_fault (by simp [Flow.videoFault?, hflushing]))
  · intro hflushing hended
    exact h.unique (ends_of_fault (by simp [Flow.videoFault?, hflushing, hended]))
  · intro hflushing hended item hslot hspan
    have hfault := Overlay.videoFault?_of_open hflushing hended
    have hoverlap : classify (o.textSegment.span? item) span = .untimed := by rw [hspan]; rfl
    exact h.unique (ends_of_untimed hfault hslot hoverlap)
  · intro hflushing hended item text hslot hspan hstale
    have hfault := Overlay.videoFault?_of_open hflushing hended
    have hoverlap : classify (o.textSegment.span? item) span = .stale := by
      rw [hspan]
      exact classify_eq_stale_iff.mpr hstale
    obtain ⟨rfl, rfl⟩ := h.unique (ends_of_stale hfault hslot hoverlap)
    exact ⟨rfl, ends_of_empty hfault rfl⟩
  · intro hflushing hended item text hslot hspan hbegun hlate
    have hfault := Overlay.videoFault?_of_open hflushing hended
    have hoverlap : classify (o.textSegment.span? item) span = .future := by
      rw [hspan]
      exact classify_eq_future_iff.mpr ⟨hbegun, hlate⟩
    exact h.unique (ends_of_future hfault hslot hoverlap)
  · intro hflushing hended item text hslot hspan hbegun hearly
    have hfault := Overlay.videoFault?_of_open hflushing hended
    have hoverlap : classify (o.textSegment.span? item) span =
        .current (decide (text.stop ≤ span.stop)) := by
      rw [hspan]
      exact classify_eq_current_iff.mpr ⟨hbegun, hearly, rfl⟩
    obtain ⟨hsame, hverdict⟩ := h.unique (ends_of_current hfault hslot hoverlap)
    exact ⟨hsame, _, hverdict, decide_eq_true_iff⟩
  · intro hflushing hended hslot
    have hfault := Overlay.videoFault?_of_open hflushing hended
    obtain ⟨rfl, rfl⟩ := h.unique (ends_of_empty hfault hslot)
    refine ⟨rfl, ?_, Overlay.verdictAlone_of_ne⟩
    rw [Overlay.verdictAlone_eq_passthrough_iff, Overlay.isTextPast_iff hconnected]

end Captioning
