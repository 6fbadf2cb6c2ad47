import CronSchedule.Association
import Mathlib.Data.List.Nodup

/-!
What association lists say of a key: of entries given one after the other, the last for the key.
-/

namespace CronSchedule.Association

variable {κ ν : Type} [DecidableEq κ]

/-- What the entries say of a key last. -/
def last? (key : κ) (entries : List (κ × ν)) : Option ν :=
  (entries.filter (·.1 = key)).getLast?.map (·.2)

theorem last?_append (key : κ) (es fs : List (κ × ν)) :
    last? key (es ++ fs) = (last? key fs).or (last? key es) := by
  rw [last?, List.filter_append, List.getLast?_append, Option.map_or]
  rfl

theorem last?_cons (key : κ) (e : κ × ν) (es : List (κ × ν)) :
    last? key (e :: es) = (last? key es).or (if e.1 = key then some e.2 else none) := by
  rw [← List.singleton_append, last?_append]
  congr 1
  by_cases h : e.1 = key <;> simp [last?, h]

theorem lookup_set (key other : κ) (v : ν) (entries : List (κ × ν)) :
    (set key v entries).lookup other =
      (if key = other then some v else none).or (entries.lookup other) := by
  by_cases h : key = other
  · rw [if_pos h, ← h, lookup_set_self, Option.some_or]
  · rw [if_neg h, lookup_set_of_ne (Ne.symm h), Option.none_or]

theorem lookup_foldl_set (key : κ) (es acc : List (κ × ν)) :
    (es.foldl (fun acc e => set e.1 e.2 acc) acc).lookup key =
      (last? key es).or (acc.lookup key) := by
  induction es generalizing acc with
  | nil => rfl
  | cons e es ih => rw [List.foldl_cons, ih, last?_cons, Option.or_assoc, lookup_set]

theorem lookup_ofList (key : κ) (es : List (κ × ν)) : (ofList es).lookup key = last? key es := by
  rw [ofList, lookup_foldl_set, List.lookup_nil, Option.or_none]

theorem last?_eq_none_iff {key : κ} {es : List (κ × ν)} :
    last? key es = none ↔ key ∉ es.map (·.1) := by
  rw [last?, Option.map_eq_none_iff, List.getLast?_eq_none_iff, List.filter_eq_nil_iff, List.mem_map]
  constructor
  · rintro h ⟨e, he, hkey⟩
    exact h e he (decide_eq_true hkey)
  · intro h e he hkey
    exact h ⟨e, he, of_decide_eq_true hkey⟩

theorem last?_eq_none {key : κ} {es : List (κ × ν)} (h : key ∉ es.map (·.1)) :
    last? key es = none :=
  last?_eq_none_iff.mpr h

theorem last?_eq_some {key : κ} {v : ν} {es : List (κ × ν)} :
    last? key es = some v ↔
      ∃ before after, es = before ++ (key, v) :: after ∧ ∀ e ∈ after, e.1 ≠ key := by
  constructor
  · intro h
    obtain ⟨e, he, rfl⟩ := Option.map_eq_some_iff.mp h
    obtain ⟨fs, hfs⟩ := List.getLast?_eq_some_iff.mp he
    obtain ⟨before, rest, rfl, -, hrest⟩ := List.filter_eq_append_iff.mp hfs
    obtain ⟨skipped, after, rfl, -, hkey, hafter⟩ := List.filter_eq_cons_iff.mp hrest
    refine ⟨before ++ skipped, after, ?_, fun f hf hfkey => ?_⟩
    · rw [← of_decide_eq_true hkey, List.append_assoc]
    · exact List.filter_eq_nil_iff.mp hafter f hf (decide_eq_true hfkey)
  · rintro ⟨before, after, rfl, hafter⟩
    have hnone : last? key after = none := by
      apply last?_eq_none
      intro hmem
      obtain ⟨e, he, hkey⟩ := List.mem_map.mp hmem
      exact hafter e he hkey
    rw [last?_append, last?_cons, hnone, if_pos rfl, Option.none_or, Option.some_or]

/-- Of entries with different keys the last for a key is also the first. -/
theorem last?_of_nodup {key : κ} {es : List (κ × ν)} (h : (es.map (·.1)).Nodup) :
    last? key es = es.lookup key := by
  induction es with
  | nil => rfl
  | cons e es ih =>
    obtain ⟨he, hes⟩ := List.nodup_cons.mp h
    rw [last?_cons, List.lookup_cons]
    by_cases hkey : e.1 = key
    · rw [last?_eq_none (hkey ▸ he), if_pos hkey, hkey, beq_self_eq_true]
      rfl
    · rw [ih hes, if_neg hkey, Option.or_none, beq_false_of_ne (Ne.symm hkey)]

theorem mem_of_lookup {key : κ} {v : ν} {es : List (κ × ν)} (h : es.lookup key = some v) :
    (key, v) ∈ es := by
  obtain ⟨before, after, rfl, -⟩ := List.lookup_eq_some_iff.mp h
  exact List.mem_append_right _ List.mem_cons_self

theorem lookup_of_mem {e : κ × ν} {es : List (κ × ν)} (h : (es.map (·.1)).Nodup) (he : e ∈ es) :
    es.lookup e.1 = some e.2 := by
  induction es with
  | nil => cases he
  | cons f es ih =>
    obtain ⟨hf, hes⟩ := List.nodup_cons.mp h
    rcases List.mem_cons.mp he with rfl | he
    · exact List.lookup_cons_self
    · have hne : e.1 ≠ f.1 := by
        intro hkey
        exact hf (List.mem_map.mpr ⟨e, he, hkey⟩)
      rw [List.lookup_cons, beq_false_of_ne hne]
      exact ih hes he

theorem mem_keys_set {key other : κ} {v : ν} {es : List (κ × ν)}
    (h : other ∈ (set key v es).map (·.1)) : other = key ∨ other ∈ es.map (·.1) := by
  induction es with
  | nil => exact .inl (List.mem_singleton.mp h)
  | cons e es ih =>
    simp only [set] at h
    split at h
    · rcases List.mem_cons.mp h with h | h
      · exact .inl h
      · exact .inr (List.mem_cons_of_mem _ h)
    · rcases List.mem_cons.mp h with h | h
      · exact .inr (h ▸ List.mem_cons_self)
      · exact (ih h).imp_right (List.mem_cons_of_mem _)

theorem nodup_keys_set {key : κ} {v : ν} {es : List (κ × ν)} (h : (es.map (·.1)).Nodup) :
    ((set key v es).map (·.1)).Nodup := by
  induction es with
  | nil => exact List.nodup_singleton key
  | cons e es ih =>
    obtain ⟨he, hes⟩ := List.nodup_cons.mp h
    simp only [set]
    split
    · next hkey => exact List.nodup_cons.mpr ⟨hkey ▸ he, hes⟩
    · next hkey =>
      refine List.nodup_cons.mpr ⟨fun hmem => ?_, ih hes⟩
      rcases mem_keys_set hmem with h | h
      · exact hkey h
      · exact he h

theorem nodup_keys_ofList (es : List (κ × ν)) : ((ofList es).map (·.1)).Nodup := by
  suffices ∀ acc : List (κ × ν), (acc.map (·.1)).Nodup →
      ((es.foldl (fun acc e => set e.1 e.2 acc) acc).map (·.1)).Nodup from this [] List.nodup_nil
  induction es with
  | nil => exact fun acc h => h
  | cons e es ih => exact fun acc h => ih _ (nodup_keys_set h)

theorem last?_ofList (key : κ) (es : List (κ × ν)) : last? key (ofList es) = last? key es := by
  rw [last?_of_nodup (nodup_keys_ofList es), lookup_ofList]

theorem set_of_notMem {key : κ} {v : ν} {es : List (κ × ν)} (h : key ∉ es.map (·.1)) :
    set key v es = es ++ [(key, v)] := by
  induction es with
  | nil => rfl
  | cons e es ih =>
    obtain ⟨hne, hes⟩ := not_or.mp (mt List.mem_cons.mpr h)
    rw [set, if_neg (Ne.symm hne), ih hes, List.cons_append]

/-- Entries with different keys are kept as they are given. -/
theorem ofList_of_nodup {es : List (κ × ν)} (h : (es.map (·.1)).Nodup) : ofList es = es := by
  suffices ∀ acc : List (κ × ν), ((acc ++ es).map (·.1)).Nodup →
      es.foldl (fun acc e => set e.1 e.2 acc) acc = acc ++ es from this [] h
  clear h
  intro acc hacc
  induction es generalizing acc with
  | nil => exact (List.append_nil acc).symm
  | cons e es ih =>
    have hmid : acc ++ e :: es = (acc ++ [e]) ++ es := by rw [List.append_assoc, List.singleton_append]
    have he : e.1 ∉ acc.map (·.1) := by
      rw [List.map_append, List.map_cons] at hacc
      exact fun hmem => List.disjoint_of_nodup_append hacc hmem List.mem_cons_self
    rw [List.foldl_cons, set_of_notMem he, hmid]
    exact ih _ (hmid ▸ hacc)

end CronSchedule.Association
