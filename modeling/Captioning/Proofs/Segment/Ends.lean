import Captioning.Stream

/-!
# The ends of items

The end of an item is known if its timestamp and its duration are and their sum is a clock time.
-/

namespace Captioning.StreamItem

variable {α : Type} {item : StreamItem α} {start stop : ClockTime}

theorem stop_eq_some_iff : item.stop = some stop ↔ ∃ pts duration, item.pts = some pts ∧
    item.duration = some duration ∧ pts + duration < ClockTime.limit ∧ stop = pts + duration := by
  cases hpts : item.pts <;> cases hduration : item.duration <;>
    simp [StreamItem.stop, hpts, hduration, ClockTime.add?_eq_some_iff]

theorem start_le_stop (hpts : item.pts = some start) (hstop : item.stop = some stop) :
    start ≤ stop := by
  obtain ⟨pts, duration, hsame, -, -, rfl⟩ := stop_eq_some_iff.mp hstop
  obtain rfl := Option.some.inj (hpts.symm.trans hsame)
  exact Nat.le_add_right start duration

theorem stop_lt_limit (hstop : item.stop = some stop) : stop < ClockTime.limit := by
  obtain ⟨pts, duration, -, -, hlimit, rfl⟩ := stop_eq_some_iff.mp hstop
  exact hlimit

end Captioning.StreamItem
