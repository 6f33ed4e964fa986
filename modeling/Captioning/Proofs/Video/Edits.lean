import Captioning.Video.Frame
import Mathlib.Data.List.Nodup

/-!
# Changes of single bytes

Whatever is done to the samples of a frame is done byte by byte.  If no byte is changed twice, the
order of the changes does not matter: each byte becomes what its own change makes of it, and a
byte without a change stays.
-/

namespace Captioning

/-- A change of one byte. -/
structure Edit where
  address : Nat
  change : UInt8 → UInt8

namespace Edit

variable {edits : List Edit} {e : Edit} {i : Nat}

/-- The bytes after some changes, one after the other. -/
def applyAll (edits : List Edit) (data : Array UInt8) : Array UInt8 :=
  edits.foldl (fun d e => d.modify e.address e.change) data

@[simp] theorem applyAll_nil (data : Array UInt8) : applyAll [] data = data :=
  rfl

theorem applyAll_cons (e : Edit) (edits : List Edit) (data : Array UInt8) :
    applyAll (e :: edits) data = applyAll edits (data.modify e.address e.change) :=
  rfl

theorem applyAll_append (first second : List Edit) (data : Array UInt8) :
    applyAll (first ++ second) data = applyAll second (applyAll first data) :=
  List.foldl_append

theorem applyAll_flatMap {α : Type} (xs : List α) (f : α → List Edit) (data : Array UInt8) :
    applyAll (xs.flatMap f) data = xs.foldl (fun d x => applyAll (f x) d) data := by
  induction xs generalizing data with
  | nil => rfl
  | cons x xs ih => rw [List.flatMap_cons, applyAll_append, ih, List.foldl_cons]

theorem size_applyAll (edits : List Edit) (data : Array UInt8) :
    (applyAll edits data).size = data.size := by
  induction edits generalizing data with
  | nil => rfl
  | cons e edits ih => rw [applyAll_cons, ih, Array.size_modify]

/-- A byte without a change stays. -/
theorem getElem?_applyAll_of_forall_ne (h : ∀ e ∈ edits, e.address ≠ i) (data : Array UInt8) :
    (applyAll edits data)[i]? = data[i]? := by
  induction edits generalizing data with
  | nil => rfl
  | cons e edits ih =>
      rw [applyAll_cons, ih fun e' he' => h e' (List.mem_cons_of_mem _ he'),
        Array.getElem?_modify, if_neg (h e List.mem_cons_self)]

/-- If no byte is changed twice, a byte becomes what its change makes of it. -/
theorem getElem?_applyAll_of_mem (hnodup : (edits.map address).Nodup) (he : e ∈ edits)
    (data : Array UInt8) :
    (applyAll edits data)[e.address]? = data[e.address]?.map e.change := by
  induction edits generalizing data with
  | nil => cases he
  | cons e' edits ih =>
      rw [List.map_cons, List.nodup_cons] at hnodup
      rw [applyAll_cons]
      rcases List.mem_cons.mp he with rfl | hlater
      · -- no later change comes back to the byte
        have hlast : ∀ other ∈ edits, other.address ≠ e.address := by
          intro other hother heq
          exact hnodup.1 (List.mem_map.mpr ⟨other, hother, heq⟩)
        rw [getElem?_applyAll_of_forall_ne hlast, Array.getElem?_modify, if_pos rfl]
      · have hother : e'.address ≠ e.address := by
          intro heq
          exact hnodup.1 (List.mem_map.mpr ⟨e, hlater, heq.symm⟩)
        rw [ih hnodup.2 hlater, Array.getElem?_modify, if_neg hother]

/-- Changes that change nothing may be left out. -/
theorem applyAll_filter {α : Type} (sites : List α) (p : α → Bool) {f g : α → Edit}
    (hkept : ∀ site, p site = true → f site = g site)
    (hdropped : ∀ site, p site = false → (g site).change = id) (data : Array UInt8) :
    applyAll ((sites.filter p).map f) data = applyAll (sites.map g) data := by
  induction sites generalizing data with
  | nil => rfl
  | cons site sites ih =>
      cases hp : p site with
      | true =>
          rw [List.filter_cons_of_pos hp, List.map_cons, List.map_cons, applyAll_cons,
            applyAll_cons, ih, hkept site hp]
      | false =>
          have hsame : data.modify (g site).address (g site).change = data := by
            rw [hdropped site hp]
            apply Array.ext_getElem?
            intro i
            rw [Array.getElem?_modify, Option.map_id_fun, id_eq, ite_self]
          rw [List.filter_cons_of_neg (by simp [hp]), List.map_cons, applyAll_cons, hsame, ih]

end Edit

end Captioning
