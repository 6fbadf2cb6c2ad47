import CronSchedule.Proofs.Draft.Slots
import Mathlib.Data.List.Induction

/-!
What a row of calls leaves in the slots of a draft. Main statement: each slot has the text that was
written there last, and no call touches a slot that is not its own (`Draft.calls_frame`).
-/

namespace CronSchedule

namespace Setter

/-- The slots that a setter is for. -/
def targets : Setter → List Slot
  | withSeconds => []
  | atSecond _ | everySeconds _ => [.second]
  | atMinute _ | everyMinutes _ | hourlyAt _ => [.minute]
  | atHour _ | everyHours _ | betweenHours _ _ => [.hour]
  | onDay _ => [.dayOfMonth]
  | inMonth _ => [.month]
  | onWeekday _ | onWorkingDays | onWeekends => [.dayOfWeek]
  | everyDay => [.dayOfMonth, .dayOfWeek]
  | inYear _ => [.year]
  | dailyAt _ _ => [.minute, .hour]
  | field slot _ => [slot]

/-- The setters after which the seconds are written out. -/
def IsForSeconds : Setter → Prop
  | withSeconds | atSecond _ | everySeconds _ => True
  | field slot _ => slot = .second
  | _ => False

variable {s : Setter} {slot : Slot} {text : String}

theorem usesSeconds_iff : s.usesSeconds = true ↔ s.IsForSeconds := by
  cases s <;> simp [usesSeconds, writes, IsForSeconds]

theorem map_writes (s : Setter) : s.writes.map (·.1) = s.targets := by
  cases s <;> rfl

theorem written_of_completes (h : s.completes = true) : s.written = s.writes := by
  rw [written, List.takeWhile_eq_self_iff.mpr, List.map_fst_zip (Nat.le_of_eq s.length_numbers.symm)]
  intro w hw
  exact List.all_eq_true.mp h _ (List.of_mem_zip hw).2

theorem mem_targets_of_mem_written (h : (slot, text) ∈ s.written) : slot ∈ s.targets := by
  rw [← map_writes]
  exact List.mem_map.mpr ⟨_, s.written_prefix.subset h, rfl⟩

end Setter

namespace Draft

variable {d d' : Draft} {s t : Setter} {ss : List Setter} {slot : Slot}

theorem eq_of_token_eq (ht : ∀ slot, d.token slot = d'.token slot) (hm : d.mode = d'.mode) : d = d' := by
  obtain ⟨token, mode⟩ := d
  obtain rfl : token = d'.token := funext ht
  obtain rfl : mode = d'.mode := hm
  rfl

theorem token_set (d : Draft) (s : Setter) (slot : Slot) :
    (d.set s).token slot = (lastText? s.writes slot).getD (d.token slot) := by
  rw [← token_foldl_write, set]
  split <;> rfl

theorem mode_set (d : Draft) (s : Setter) :
    (d.set s).mode = if s.usesSeconds then .seconds else d.mode := by
  rw [← mode_foldl_write s.writes d, set]
  split <;> rfl

/-- A call that is not stopped makes the change that the setter stands for. -/
theorem call_of_completes (h : s.completes = true) (d : Draft) : d.call s = d.set s := by
  refine eq_of_token_eq (fun slot => ?_) ?_
  · rw [token_call, token_set, Setter.written_of_completes h]
  · rw [mode_call, mode_set]

theorem token_call_of_notMem_written (h : ∀ text, (slot, text) ∉ s.written) (d : Draft) :
    (d.call s).token slot = d.token slot := by
  rw [token_call]
  cases ht : lastText? s.written slot with
  | none => rfl
  | some text => exact absurd (mem_of_lastText? ht) (h text)

theorem token_call_of_mem_written {text : String} (h : (slot, text) ∈ s.written) (d : Draft) :
    (slot, (d.call s).token slot) ∈ s.written := by
  rw [token_call]
  cases ht : lastText? s.written slot with
  | some text => exact mem_of_lastText? ht
  | none =>
    exact absurd (List.mem_map.mpr ⟨_, h, rfl⟩) (Association.last?_eq_none_iff.mp ht)

/-- A call leaves all slots alone that are not its own. -/
theorem token_call_of_notMem (h : slot ∉ s.targets) (d : Draft) :
    (d.call s).token slot = d.token slot :=
  token_call_of_notMem_written (fun _ hw => h (Setter.mem_targets_of_mem_written hw)) d

/-- After a row of calls a slot has what the last of those that wrote it has written there. -/
theorem token_calls (d : Draft) (ss : List Setter) (slot : Slot) :
    (∃ before s after, ss = before ++ s :: after ∧
        (slot, (ss.foldl call d).token slot) ∈ s.written ∧
        ∀ t ∈ after, ∀ text, (slot, text) ∉ t.written) ∨
      (ss.foldl call d).token slot = d.token slot ∧ ∀ t ∈ ss, ∀ text, (slot, text) ∉ t.written := by
  induction ss using List.reverseRecOn with
  | nil => exact .inr ⟨rfl, nofun⟩
  | append_singleton ss s ih =>
    rw [List.foldl_append, List.foldl_cons, List.foldl_nil]
    by_cases hs : ∃ text, (slot, text) ∈ s.written
    · obtain ⟨text, hs⟩ := hs
      exact .inl ⟨ss, s, [], rfl, token_call_of_mem_written hs _, nofun⟩
    · have hs : ∀ text, (slot, text) ∉ s.written := not_exists.mp hs
      rw [token_call_of_notMem_written hs]
      rcases ih with ⟨before, s', after, rfl, htext, hafter⟩ | ⟨htext, hss⟩
      · refine .inl ⟨before, s', after ++ [s], by simp, htext, ?_⟩
        exact List.forall_mem_append.mpr ⟨hafter, List.forall_mem_singleton.mpr hs⟩
      · exact .inr ⟨htext, List.forall_mem_append.mpr ⟨hss, List.forall_mem_singleton.mpr hs⟩⟩

theorem mode_calls (d : Draft) (ss : List Setter) :
    (ss.foldl call d).mode = .seconds ↔ d.mode = .seconds ∨ ∃ s ∈ ss, s.IsForSeconds := by
  induction ss generalizing d with
  | nil => simp
  | cons s ss ih =>
    rw [List.foldl_cons, ih, mode_call, List.exists_mem_cons_iff, ← Setter.usesSeconds_iff]
    cases s.usesSeconds <;> simp

/-- Two calls for different slots can be made in either order. -/
theorem call_comm (h : s.targets.Disjoint t.targets) (d : Draft) :
    (d.call s).call t = (d.call t).call s := by
  refine eq_of_token_eq (fun slot => ?_) ?_
  · by_cases hs : slot ∈ s.targets
    · rw [token_call_of_notMem (h hs), token_call d, token_call (d.call t),
        token_call_of_notMem (h hs)]
    · rw [token_call_of_notMem hs, token_call (d.call s), token_call_of_notMem hs, token_call d t]
  · simp only [mode_call]
    cases s.usesSeconds <;> cases t.usesSeconds <;> rfl

theorem text_eq (d : Draft) :
    d.text = " ".intercalate ((if d.mode = .seconds then [d.token .second] else []) ++
      [d.token .minute, d.token .hour, d.token .dayOfMonth, d.token .month, d.token .dayOfWeek] ++
      if d.token .year = "" then [] else [d.token .year]) := by
  rw [text]
  cases hm : d.mode <;> by_cases hy : d.token .year = "" <;>
    simp [writtenSlots, Slot.all, hm, hy]

/-- After a row of calls each slot has the text that was last written there, or still its first one. The
seconds are written out if they were before or some setter is for them, and the year if there is a text
for it. A call that is not stopped writes all slots of its setter; none touches another slot, so that calls
for different slots can be made in either order. -/
theorem calls_frame (d : Draft) (ss : List Setter) :
    (∀ slot,
      (∃ before s after, ss = before ++ s :: after ∧
          (slot, (ss.foldl call d).token slot) ∈ s.written ∧
          ∀ t ∈ after, ∀ text, (slot, text) ∉ t.written) ∨
        (ss.foldl call d).token slot = d.token slot ∧
          ∀ t ∈ ss, ∀ text, (slot, text) ∉ t.written) ∧
    (∀ s : Setter, s.completes = true →
      s.written = s.writes ∧ (∀ slot, slot ∈ s.targets ↔ ∃ text, (slot, text) ∈ s.written) ∧
        ∀ d : Draft, d.call s = d.set s) ∧
    ((ss.foldl call d).mode = .seconds ↔ d.mode = .seconds ∨ ∃ s ∈ ss, s.IsForSeconds) ∧
    (∀ d : Draft, d.text = " ".intercalate ((if d.mode = .seconds then [d.token .second] else []) ++
      [d.token .minute, d.token .hour, d.token .dayOfMonth, d.token .month, d.token .dayOfWeek] ++
      if d.token .year = "" then [] else [d.token .year])) ∧
    (∀ (s : Setter) slot, slot ∉ s.targets → (d.call s).token slot = d.token slot) ∧
    ∀ s t : Setter, s.targets.Disjoint t.targets → (d.call s).call t = (d.call t).call s := by
  refine ⟨d.token_calls ss, fun s hs => ⟨Setter.written_of_completes hs, fun slot => ?_,
    call_of_completes hs⟩, d.mode_calls ss, text_eq, fun s slot h => token_call_of_notMem h d,
    fun s t h => call_comm h d⟩
  rw [Setter.written_of_completes hs, ← s.map_writes]
  simp

/-- The weekdays and the year stay as they were written, and the seconds come first. -/
theorem calls_frame_evenings :
    ∃ d : Draft, d = ofSource "0 9 * * 1-5 2030" .minutes ∧
      (Setter.dailyAt 18 30).completes = true ∧
      (Setter.dailyAt 18 30).written = [(.minute, "30"), (.hour, "18")] ∧
      .dayOfWeek ∉ (Setter.dailyAt 18 30).targets ∧
      (d.call (.dailyAt 18 30)).token .dayOfWeek = "1-5" ∧
      (Setter.dailyAt 18 30).targets.Disjoint (Setter.everySeconds 10).targets ∧
      (d.call (.dailyAt 18 30)).call (.everySeconds 10) =
        (d.call (.everySeconds 10)).call (.dailyAt 18 30) ∧
      ((d.call (.dailyAt 18 30)).call (.everySeconds 10)).text = "*/10 30 18 * * 1-5 2030" := by
  obtain ⟨-, hcompletes, -, -, hkeeps, hcomm⟩ :=
    calls_frame (ofSource "0 9 * * 1-5 2030" .minutes) [.dailyAt 18 30, .everySeconds 10]
  have hshort : (Setter.dailyAt 18 30).completes = true := by decide
  have hweekday : .dayOfWeek ∉ (Setter.dailyAt 18 30).targets := by decide
  have hdisjoint : (Setter.dailyAt 18 30).targets.Disjoint (Setter.everySeconds 10).targets := by
    simp [Setter.targets]
  exact ⟨_, rfl, hshort, (hcompletes _ hshort).1, hweekday, hkeeps _ _ hweekday, hdisjoint,
    hcomm _ _ hdisjoint, by decide⟩

end Draft

end CronSchedule
