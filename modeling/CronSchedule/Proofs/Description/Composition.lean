import CronSchedule.Proofs.Description.Clauses

/-!
The English sentence of a valid expression, clause by clause. Main statements: the sentence is the clauses
of its fields written out (`Expression.composed_en`), and clauses of plain words are read back from what is
written (`Clause.written_inj`).
-/

namespace CronSchedule

namespace Clause

/-- A word holds neither of the two marks. -/
def IsPlainWord (w : String) : Prop :=
  ' ' ∉ w.toList ∧ ',' ∉ w.toList

instance (w : String) : Decidable (IsPlainWord w) :=
  inferInstanceAs (Decidable (_ ∧ _))

def IsPlain (c : Clause) : Prop :=
  c ≠ [] ∧ ∀ w ∈ c, IsPlainWord w

instance (c : Clause) : Decidable (IsPlain c) :=
  inferInstanceAs (Decidable (_ ∧ _))

/-- The clauses and words of a text. -/
def read (s : List Char) : List (List (List Char)) :=
  (Text.pieces ',' s).map (Text.pieces ' ')

theorem read_written {cs : List Clause} (hne : cs ≠ []) (h : ∀ c ∈ cs, IsPlain c) :
    read (written cs).toList = cs.map (·.map String.toList) := by
  have hcomma : ",".toList = [','] := rfl
  have hspace : " ".toList = [' '] := rfl
  have hcommas : ∀ x ∈ cs.map (" ".intercalate ·), ',' ∉ x.toList :=
    List.forall_mem_map.mpr fun c hc =>
      Text.notMem_intercalate hspace (by decide) fun w hw => ((h c hc).2 w hw).2
  have hclauses := Text.pieces_intercalate hcomma (mt List.map_eq_nil_iff.mp hne) hcommas
  rw [read, written, hclauses, List.map_map, List.map_map]
  refine List.map_congr_left fun c hc => ?_
  exact Text.pieces_intercalate hspace (h c hc).1 fun w hw => ((h c hc).2 w hw).1

theorem written_inj {cs ds : List Clause} (hcs : cs ≠ []) (hds : ds ≠ []) (hc : ∀ c ∈ cs, IsPlain c)
    (hd : ∀ c ∈ ds, IsPlain c) (h : written cs = written ds) : cs = ds := by
  have hread : cs.map (·.map String.toList) = ds.map (·.map String.toList) := by
    rw [← read_written hcs hc, h, read_written hds hd]
  have hinj : Function.Injective (List.map String.toList) :=
    List.map_injective_iff.mpr fun _ _ => String.toList_inj.mp
  exact hinj.list_map hread

end Clause

namespace Field

variable {f : Field} {slot : Slot} {es : List Element}

theorem Lists.clauses_eq (h : f.Lists slot es) : f.clauses = f.clausesOf es := by
  obtain ⟨vs, hr⟩ := h.reading
  rw [clauses, hr]

theorem clauses_of_isUnrestricted (h : f.isUnrestricted = true) : f.clauses = [] := by
  rw [clauses, of_decide_eq_true h]

theorem clausesOf_ne_nil (hne : es ≠ []) : f.clausesOf es ≠ [] := by
  intro hnil
  have hwritten := f.written_clausesOf hne
  rw [hnil, ← String.toList_inj] at hwritten
  simp [Clause.written] at hwritten

end Field

namespace Expression

variable {source : String} {mode : Mode} {e : Expression} {slot : Slot}

theorem clausesAt_of_not_restricts (hr : ¬ e.Restricts slot) : e.clausesAt slot = [] := by
  rw [clausesAt]
  cases hf : e.field? slot with
  | none => rfl
  | some f => exact Field.clauses_of_isUnrestricted (isUnrestricted_of_not_restricts hr hf)

/-- A slot adds nothing to the sentence, or it adds its clauses. -/
theorem fragmentAt?_en (h : parse source mode = .ok (.expression e)) (hv : e.isValid = true)
    (slot : Slot) :
    (e.fragmentAt? .en slot = none ∧ e.clausesAt slot = []) ∨
      ∃ p, e.fragmentAt? .en slot = some p ∧ e.clausesAt slot ≠ [] ∧
        Clause.written (e.clausesAt slot) = " " ++ p := by
  by_cases hr : e.Restricts slot
  · obtain ⟨f, es, hf, hes⟩ := hr.exists_lists h hv
    have hclauses : e.clausesAt slot = f.clausesOf es := by
      rw [clausesAt, hf]
      exact hes.clauses_eq
    refine .inr ⟨f.phrase .en es, ?_, ?_, ?_⟩
    · rw [fragmentAt?, hf]
      exact hes.fragment? .en
    · rw [hclauses]
      exact Field.clausesOf_ne_nil hes.ne_nil
    · rw [hclauses, Field.written_clausesOf hes.ne_nil]
  · exact .inl ⟨fragmentAt?_of_not_restricts hr .en, clausesAt_of_not_restricts hr⟩

theorem written_flatMap (h : parse source mode = .ok (.expression e)) (hv : e.isValid = true)
    (slots : List Slot) :
    (slots.filterMap (e.fragmentAt? .en) = [] ∧ slots.flatMap e.clausesAt = []) ∨
      slots.filterMap (e.fragmentAt? .en) ≠ [] ∧ slots.flatMap e.clausesAt ≠ [] ∧
        Clause.written (slots.flatMap e.clausesAt) =
          " " ++ ", ".intercalate (slots.filterMap (e.fragmentAt? .en)) := by
  -- an open slot is left out on both sides, so the two lists are empty together
  induction slots with
  | nil => exact .inl ⟨rfl, rfl⟩
  | cons slot slots ih =>
    rw [List.flatMap_cons]
    rcases fragmentAt?_en h hv slot with ⟨hp, hcs⟩ | ⟨p, hp, hcs, hwritten⟩
    · rwa [List.filterMap_cons_none hp, hcs, List.nil_append]
    · rw [List.filterMap_cons_some hp]
      refine .inr ⟨List.cons_ne_nil _ _, List.append_ne_nil_of_left_ne_nil hcs _, ?_⟩
      rcases ih with ⟨hnil, hnil'⟩ | ⟨hps, hds, hrest⟩
      · rw [hnil, hnil', List.append_nil, hwritten, String.intercalate_singleton]
      · rw [Clause.written_append hcs hds, hwritten, hrest, String.intercalate_cons_of_ne_nil hps,
          ← String.toList_inj]
        simp

theorem composed_en (h : parse source mode = .ok (.expression e)) (hv : e.isValid = true) :
    e.composed .en = "Executes" ++ Clause.written e.clauses := by
  have hsay (body : String) : Message.sentence.say .en [(.body, body)] = "Executes" ++ (" " ++ body) := by
    change "Executes " ++ (body ++ "") = _
    rw [← String.toList_inj]
    simp
  have hconnector : Message.connector.say .en [] = ", " := rfl
  rw [composed, hsay, hconnector, fragments_eq_filterMap, clauses, slotClauses]
  rcases written_flatMap h hv e.mode.slots with ⟨hps, hcs⟩ | ⟨hps, hcs, hwritten⟩
  · rw [hps, if_pos hcs, everyUnit]
    cases e.mode <;> rfl
  · obtain ⟨p, ps, hp⟩ := List.exists_cons_of_ne_nil hps
    rw [if_neg hcs, hwritten, hp]

end Expression

end CronSchedule
