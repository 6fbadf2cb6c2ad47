import CronSchedule.Occurrence.Search
import CronSchedule.Proofs.Calendar.TimeLine

/-!
The steps of a search, as the list of the moments that they lead to. Main statements: a search that
cannot give up finds the firings among them in their order (`Search.collect_moments`), and runs off
the time line exactly if it does not find enough of them before (`Search.collect_ending`).
-/

namespace CronSchedule

namespace Moment

/-- The end of the time line, which all moments are before. -/
def limit : Nat :=
  daysBeforeYear 10000 * microsecondsPerDay

/-- The moments that up to `n` steps lead to, as far as the time line goes. -/
def ahead (unit : Nat) : Nat → Moment → List Moment
  | 0, _ => []
  | n + 1, m =>
    match m.shift? unit with
    | none => []
    | some next => next :: ahead unit n next

theorem shift?_natCast_eq_some_iff {m next : Moment} {unit : Nat} :
    m.shift? unit = some next ↔ next.ticks = m.ticks + unit := by
  rw [shift?_eq_some_iff]
  omega

theorem shift?_natCast_eq_none_iff {m : Moment} {unit : Nat} :
    m.shift? unit = none ↔ limit ≤ m.ticks + unit := by
  rw [shift?_eq_none_iff, OnTimeLine, limit]
  omega

variable {unit n : Nat} {m : Moment}

theorem lt_length_ahead {i : Nat} :
    i < (ahead unit n m).length ↔ i < n ∧ m.ticks + (i + 1) * unit < limit := by
  induction n generalizing m i with
  | zero => simp [ahead]
  | succ n ih =>
    have hstep : unit ≤ (i + 1) * unit := Nat.le_mul_of_pos_left unit (Nat.succ_pos i)
    simp only [ahead]
    split
    · next h =>
      rw [shift?_natCast_eq_none_iff] at h
      refine iff_of_false (by simp) fun hi => ?_
      omega
    · next next h =>
      have hnext := next.ticks_lt
      rw [shift?_natCast_eq_some_iff] at h
      cases i with
      | zero =>
        refine iff_of_true (by simp) ⟨Nat.succ_pos n, ?_⟩
        rw [limit, Nat.zero_add, Nat.one_mul, ← h]
        exact hnext
      | succ i =>
        have hmul : (i + 1 + 1) * unit = (i + 1) * unit + unit := Nat.succ_mul (i + 1) unit
        rw [List.length_cons, Nat.succ_lt_succ_iff, Nat.succ_lt_succ_iff, ih, h, hmul,
          Nat.add_assoc, Nat.add_comm unit]

theorem ticks_getElem_ahead {i : Nat} (hi : i < (ahead unit n m).length) :
    (ahead unit n m)[i].ticks = m.ticks + (i + 1) * unit := by
  induction n generalizing m i with
  | zero => simp [ahead] at hi
  | succ n ih =>
    cases h : m.shift? unit with
    | none => simp [ahead, h] at hi
    | some next =>
      have hnext := shift?_natCast_eq_some_iff.mp h
      cases i with
      | zero => simp [ahead, h, hnext]
      | succ i =>
        simp only [ahead, h, List.length_cons, Nat.succ_lt_succ_iff] at hi
        simp only [ahead, h, List.getElem_cons_succ, ih hi, hnext, Nat.succ_mul (i + 1) unit]
        omega

theorem getElem?_ahead_eq_some {i : Nat} {t : Moment} :
    (ahead unit n m)[i]? = some t ↔ i < n ∧ t.ticks = m.ticks + (i + 1) * unit := by
  rw [List.getElem?_eq_some_iff]
  constructor
  · intro h
    obtain ⟨hi, rfl⟩ := h
    exact ⟨(lt_length_ahead.mp hi).1, ticks_getElem_ahead hi⟩
  · intro h
    obtain ⟨hi, ht⟩ := h
    have hlen : i < (ahead unit n m).length := lt_length_ahead.mpr ⟨hi, ht ▸ t.ticks_lt⟩
    exact ⟨hlen, ext_ticks ((ticks_getElem_ahead hlen).trans ht.symm)⟩

theorem mem_ahead_iff {t : Moment} :
    t ∈ ahead unit n m ↔ ∃ i < n, t.ticks = m.ticks + (i + 1) * unit := by
  simp only [List.mem_iff_getElem?, getElem?_ahead_eq_some]

theorem pairwise_ahead (h : 0 < unit) : (ahead unit n m).Pairwise (·.ticks < ·.ticks) := by
  rw [List.pairwise_iff_getElem]
  intro i j hi hj hij
  rw [ticks_getElem_ahead hi, ticks_getElem_ahead hj]
  exact Nat.add_lt_add_left (Nat.mul_lt_mul_of_pos_right (by omega) h) m.ticks

theorem take_ahead {k : Nat} (h : k ≤ n) : (ahead unit n m).take k = ahead unit k m := by
  induction k generalizing n m with
  | zero => rfl
  | succ k ih =>
    obtain ⟨n, rfl⟩ : ∃ n', n = n' + 1 := ⟨n - 1, by omega⟩
    simp only [ahead]
    split
    · rfl
    · rw [List.take_succ_cons, ih (Nat.le_of_succ_le_succ h)]

end Moment

namespace Search

/-- The moments that the steps still left to a walk lead to. -/
def ahead (s : Search) (w : Walk) : List Moment :=
  Moment.ahead s.unit w.left w.cursor

/-- A walk does not give up without a window, or once it has found something. -/
def IsSteady (s : Search) (found : Nat) : Prop :=
  s.window = none ∨ 0 < found

/-- What an outcome tells of the moments ahead of a walk that does not give up. -/
def Tells (s : Search) (w : Walk) : Pull → Prop
  | .hit m rest =>
    rest.found = w.found + 1 ∧ s.fires m = true ∧
      ∃ missed, s.ahead w = missed ++ m :: s.ahead rest ∧ (∀ t ∈ missed, s.fires t = false) ∧
        w.left = missed.length + 1 + rest.left
  | .finished why =>
    why = .budgetSpent w.found ∧ (s.ahead w).length = w.left ∧ ∀ t ∈ s.ahead w, s.fires t = false
  | .offCalendar => (s.ahead w).length < w.left ∧ ∀ t ∈ s.ahead w, s.fires t = false

variable {s : Search} {w : Walk}

theorem not_givesUpAt {found : Nat} (h : s.IsSteady found) (m : Moment) :
    ¬ (found = 0 ∧ s.givesUpAt m = true) := by
  intro hx
  obtain ⟨rfl, hm⟩ := hx
  rcases h with h | h
  · simp [givesUpAt, h] at hm
  · exact Nat.lt_irrefl 0 h

/-- Passing a moment without a firing only lengthens what was missed. -/
theorem Tells.step {next : Moment} {pull : Pull} (hn : w.cursor.shift? s.unit = some next)
    (hf : s.fires next = false) (h : s.Tells ⟨next, w.left, w.found⟩ pull) :
    s.Tells ⟨w.cursor, w.left + 1, w.found⟩ pull := by
  have ha : s.ahead ⟨w.cursor, w.left + 1, w.found⟩ =
      next :: s.ahead ⟨next, w.left, w.found⟩ := by
    simp only [ahead, Moment.ahead, hn]
  have hnone (hall : ∀ t ∈ s.ahead ⟨next, w.left, w.found⟩, s.fires t = false) :
      ∀ t ∈ s.ahead ⟨w.cursor, w.left + 1, w.found⟩, s.fires t = false := by
    rw [ha, List.forall_mem_cons]
    exact ⟨hf, hall⟩
  cases pull with
  | hit m rest =>
    obtain ⟨hfound, hm, missed, hmissed, hall, hleft⟩ := h
    refine ⟨hfound, hm, next :: missed, ?_, List.forall_mem_cons.mpr ⟨hf, hall⟩, ?_⟩
    · rw [ha, hmissed, List.cons_append]
    · simp only [List.length_cons] at hleft ⊢
      omega
  | finished why =>
    obtain ⟨hwhy, hlen, hall⟩ := h
    exact ⟨hwhy, by rw [ha, List.length_cons, hlen], hnone hall⟩
  | offCalendar =>
    obtain ⟨hlen, hall⟩ := h
    exact ⟨by rw [ha, List.length_cons]; exact Nat.succ_lt_succ hlen, hnone hall⟩

theorem pull_tells (h : s.IsSteady w.found) : s.Tells w (s.pull w) := by
  obtain ⟨cursor, left, found⟩ := w
  simp only [pull]
  induction left generalizing cursor with
  | zero => exact ⟨rfl, rfl, nofun⟩
  | succ left ih =>
    simp only [advance]
    split
    · next hn =>
      have ha : s.ahead ⟨cursor, left + 1, found⟩ = [] := by simp only [ahead, Moment.ahead, hn]
      exact ⟨by rw [ha]; exact Nat.succ_pos left, by rw [ha]; nofun⟩
    · next next hn =>
      split
      · next hf =>
        refine ⟨rfl, hf, [], ?_, nofun, ?_⟩
        · simp only [ahead, Moment.ahead, hn, List.nil_append]
        · simp only [List.length_nil]
          omega
      · next hf =>
        rw [if_neg (not_givesUpAt h next)]
        exact Tells.step (w := ⟨cursor, left, found⟩) hn (Bool.eq_false_iff.mpr hf) (ih next h)

/-- A walk that does not give up finds the firings among the moments ahead of it, in order. -/
theorem collect_moments (n : Nat) (h : s.IsSteady w.found) :
    (s.collect n w).moments = ((s.ahead w).filter s.fires).take n := by
  induction n generalizing w with
  | zero => rfl
  | succ n ih =>
    have htells := pull_tells h
    simp only [collect]
    split
    · next m rest hp =>
      rw [hp] at htells
      obtain ⟨hfound, hm, missed, hmissed, hall, -⟩ := htells
      -- What is left after a firing cannot give up, whether or not there is a window.
      have hrest : s.IsSteady rest.found := .inr (hfound ▸ Nat.succ_pos w.found)
      have hnone : missed.filter s.fires = [] := List.filter_eq_nil_iff.mpr (by simpa using hall)
      rw [hmissed, List.filter_append, hnone, List.nil_append, List.filter_cons_of_pos hm,
        List.take_succ_cons, ih hrest]
    · next why hp =>
      rw [hp] at htells
      rw [List.filter_eq_nil_iff.mpr (by simpa using htells.2.2), List.take_nil]
    · next hp =>
      rw [hp] at htells
      rw [List.filter_eq_nil_iff.mpr (by simpa using htells.2), List.take_nil]

theorem length_collect_moments_le (n : Nat) : (s.collect n w).moments.length ≤ n := by
  induction n generalizing w with
  | zero => exact Nat.le_refl 0
  | succ n ih =>
    simp only [collect]
    split
    · exact Nat.succ_le_succ ih
    · exact Nat.zero_le _
    · exact Nat.zero_le _

/-- It runs off the time line exactly if it has steps left there and has not found enough. -/
theorem collect_ending (n : Nat) (h : s.IsSteady w.found) :
    (s.collect n w).ending = .offCalendar ↔
      (s.ahead w).length < w.left ∧ ((s.ahead w).filter s.fires).length < n := by
  induction n generalizing w with
  | zero => exact iff_of_false nofun fun h => Nat.not_lt_zero _ h.2
  | succ n ih =>
    have htells := pull_tells h
    simp only [collect]
    split
    · next m rest hp =>
      rw [hp] at htells
      obtain ⟨hfound, hm, missed, hmissed, hall, hleft⟩ := htells
      have hrest : s.IsSteady rest.found := .inr (hfound ▸ Nat.succ_pos w.found)
      have hnone : missed.filter s.fires = [] := List.filter_eq_nil_iff.mpr (by simpa using hall)
      rw [ih hrest, hmissed, List.filter_append, hnone, List.nil_append,
        List.filter_cons_of_pos hm, List.length_append, List.length_cons, List.length_cons,
        Nat.succ_lt_succ_iff]
      omega
    · next why hp =>
      rw [hp] at htells
      exact iff_of_false nofun fun h => Nat.ne_of_lt h.1 htells.2.1
    · next hp =>
      rw [hp] at htells
      refine iff_of_true rfl ⟨htells.1, ?_⟩
      rw [List.filter_eq_nil_iff.mpr (by simpa using htells.2)]
      exact Nat.succ_pos n

end Search

end CronSchedule
