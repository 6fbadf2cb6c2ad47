import CronSchedule.Message.Template
import Mathlib.Logic.Function.Basic

/-!
Templates that are filled in by the names of their placeholders (`Template.fillNamed_named`).
-/

namespace CronSchedule

theorem Placeholder.name_injective : Function.Injective name := by
  intro p q h
  cases p <;> cases q <;> first | rfl | exact absurd h (by decide)

namespace Template

variable {t : Template} {b b' : Bindings}

theorem lookup_named (b : Bindings) (p : Placeholder) : b.named.lookup p.name = b.lookup p := by
  induction b with
  | nil => rfl
  | cons w b ih =>
    have hnamed : Bindings.named (w :: b) = (w.1.name, w.2) :: Bindings.named b := rfl
    rw [hnamed, List.lookup_cons, List.lookup_cons, ih]
    have hkey : (p.name == w.1.name) = (p == w.1) := by
      rw [Bool.eq_iff_iff, beq_iff_eq, beq_iff_eq, Placeholder.name_injective.eq_iff]
    rw [hkey]

theorem fill_congr (h : ∀ p, .hole p ∈ t → b.lookup p = b'.lookup p) : t.fill b = t.fill b' := by
  induction t with
  | nil => rfl
  | cons piece t ih =>
    rw [fill_cons, fill_cons, ih fun p hp => h p (List.mem_cons_of_mem piece hp)]
    cases piece with
    | text s => rfl
    | hole p => rw [Piece.fill, Piece.fill, h p List.mem_cons_self]

theorem missing?_eq_none_iff :
    t.missing? b = none ↔ ∀ p, .hole p ∈ t → ∃ s, b.lookup p = some s := by
  rw [missing?, List.findSome?_eq_none_iff]
  constructor
  · intro h p hp
    have hmissing := h _ hp
    rw [Piece.missing?] at hmissing
    split at hmissing
    · next hs => exact Option.isSome_iff_exists.mp hs
    · cases hmissing
  · intro h piece hp
    cases piece with
    | text s => rfl
    | hole p => exact if_pos (Option.isSome_iff_exists.mpr (h p hp))

/-- What a piece is bound to by name. -/
def bound? (params : List (String × String)) : Piece → Option (Placeholder × String)
  | .text _ => none
  | .hole p => (params.lookup p.name).map fun s => (p, s)

theorem lookup_filterMap_bound? (params : List (String × String)) (p : Placeholder) :
    (t.filterMap (bound? params)).lookup p =
      if .hole p ∈ t then params.lookup p.name else none := by
  induction t with
  | nil => rfl
  | cons piece t ih =>
    cases piece with
    | text s =>
      rw [List.filterMap_cons_none rfl, ih]
      simp
    | hole q =>
      cases hq : params.lookup q.name with
      | none =>
        have hnone : bound? params (.hole q) = none := by rw [bound?, hq, Option.map_none]
        rw [List.filterMap_cons_none hnone, ih]
        by_cases hp : p = q
        · subst hp
          simp [hq]
        · simp [hp]
      | some s =>
        have hsome : bound? params (.hole q) = some (q, s) := by rw [bound?, hq, Option.map_some]
        rw [List.filterMap_cons_some hsome, List.lookup_cons, ih]
        by_cases hp : p = q
        · subst hp
          simp [hq]
        · have hkey : (p == q) = false := beq_false_of_ne hp
          simp [hp, hkey]

/-- With a binding for each placeholder a template is filled in by name as it is without names. -/
theorem fillNamed_named (h : t.missing? b = none) : t.fillNamed b.named = .ok (t.fill b) := by
  have hbound : ∀ p, .hole p ∈ t → (t.filterMap (bound? b.named)).lookup p = b.lookup p := by
    intro p hp
    rw [lookup_filterMap_bound?, if_pos hp, lookup_named]
  have hmissing : t.missing? (t.filterMap (bound? b.named)) = none := by
    rw [missing?_eq_none_iff] at h ⊢
    intro p hp
    rw [hbound p hp]
    exact h p hp
  rw [fillNamed]
  split
  · next hempty =>
    have hb : b = [] := List.map_eq_nil_iff.mp (List.isEmpty_iff.mp hempty)
    rw [hb]
  · split
    · next hp => cases hmissing.symm.trans hp
    · exact congrArg Except.ok (fill_congr hbound)

end Template

end CronSchedule
