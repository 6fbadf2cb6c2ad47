import CronSchedule.Proofs.Occurrence.Resume
import Mathlib.Data.List.SplitLengths

/-!
Firings taken a few at a time. Main statement: the takes answer with the consecutive pieces of what one
search for all of them answers, and where that one leaves the time line exactly one take fails
(`Occurrences.answers_of_occurrences`).
-/

namespace CronSchedule

namespace Search

variable {s : Search} {w rest : Walk} {m : Nat}

theorem length_collect_of_more (h : (s.collect m w).ending = .more rest) :
    (s.collect m w).moments.length = m := by
  induction m generalizing w with
  | zero => rfl
  | succ m ih =>
    simp only [collect] at h ⊢
    split at h
    · rw [List.length_cons, ih h]
    · cases h
    · cases h

/-- A walk that has not come to its end goes on from where it stood. -/
theorem collect_add_of_more (n : Nat) (h : (s.collect m w).ending = .more rest) :
    s.collect (m + n) w =
      ⟨(s.collect m w).moments ++ (s.collect n rest).moments, (s.collect n rest).ending⟩ := by
  induction m generalizing w with
  | zero =>
    cases h
    rw [Nat.zero_add]
    rfl
  | succ m ih =>
    rw [Nat.succ_add]
    simp only [collect] at h ⊢
    split at h
    · simp only [ih h, List.cons_append]
    · cases h
    · cases h

theorem collect_add_of_ended (n : Nat) (h : ∀ rest, (s.collect m w).ending ≠ .more rest) :
    s.collect (m + n) w = s.collect m w := by
  induction m generalizing w with
  | zero => exact absurd rfl (h w)
  | succ m ih =>
    rw [Nat.succ_add]
    simp only [collect] at h ⊢
    split at h
    · simp only [ih h]
    · rfl
    · rfl

end Search

namespace Occurrences

/-- What one take after another answers. -/
def answers : List Nat → Occurrences → List (Except SearchError (List Moment))
  | [], _ => []
  | n :: ns, o => (o.take n).1 :: answers ns (o.take n).2

/-- One of the takes fails, and those after it have nothing left. -/
def FailsOnce (err : SearchError) (as : List (Except SearchError (List Moment))) : Prop :=
  ∃ (taken : List (List Moment)) (after : Nat),
    as = taken.map .ok ++ .error err :: List.replicate after (.ok [])

/-- How a harvest is shared among takes of these sizes. -/
structure Shares (h : Harvest) (ns : List Nat) (as : List (Except SearchError (List Moment))) :
    Prop where
  listed : h.ending ≠ .offCalendar → as = (ns.splitLengths h.moments).map .ok
  failed : h.ending = .offCalendar → FailsOnce .offCalendar as

variable {s : Search} {w : Walk} {n : Nat} {ns : List Nat}

theorem FailsOnce.cons {err : SearchError} {as : List (Except SearchError (List Moment))}
    (h : FailsOnce err as) (ts : List Moment) : FailsOnce err (.ok ts :: as) := by
  obtain ⟨taken, after, rfl⟩ := h
  exact ⟨ts :: taken, after, rfl⟩

theorem answers_done (ns : List Nat) : answers ns done = List.replicate ns.length (.ok []) := by
  induction ns with
  | nil => rfl
  | cons n ns ih => exact congrArg (_ :: ·) ih

theorem splitLengths_empty (ns : List Nat) :
    ns.splitLengths ([] : List Moment) = List.replicate ns.length [] := by
  induction ns with
  | nil => rfl
  | cons n ns ih => rw [List.splitLengths_cons, List.take_nil, List.drop_nil, ih]; rfl

theorem takeFrom_of_more {rest : Walk} (h : (s.collect n w).ending = .more rest) :
    takeFrom s n w = (.ok (s.collect n w).moments, walking s rest) := by
  simp only [takeFrom, h]

theorem takeFrom_of_finished {why : Finish} (h : (s.collect n w).ending = .finished why) :
    takeFrom s n w = (.ok (s.collect n w).moments, done) := by
  simp only [takeFrom, h]

theorem takeFrom_of_offCalendar (h : (s.collect n w).ending = .offCalendar) :
    takeFrom s n w = (.error .offCalendar, done) := by
  simp only [takeFrom, h]

/-- A take that leaves the walk unfinished takes its share and leaves the others theirs. -/
theorem Shares.cons_of_more {rest : Walk} {as : List (Except SearchError (List Moment))}
    (h : (s.collect n w).ending = .more rest) (hrest : Shares (s.collect ns.sum rest) ns as) :
    Shares (s.collect (n + ns.sum) w) (n :: ns) (.ok (s.collect n w).moments :: as) := by
  have hlen := Search.length_collect_of_more h
  rw [Search.collect_add_of_more ns.sum h]
  refine ⟨fun he => ?_, fun he => (hrest.failed he).cons _⟩
  rw [hrest.listed he, List.splitLengths_cons, List.take_left' hlen, List.drop_left' hlen]
  rfl

theorem shares_of_finished {why : Finish} (h : (s.collect n w).ending = .finished why) :
    Shares (s.collect (n + ns.sum) w) (n :: ns)
      (.ok (s.collect n w).moments :: List.replicate ns.length (.ok [])) := by
  have hlen : (s.collect n w).moments.length ≤ n := Search.length_collect_moments_le n
  rw [Search.collect_add_of_ended ns.sum (by rw [h]; exact nofun)]
  refine ⟨fun _ => ?_, fun he => by rw [h] at he; cases he⟩
  rw [List.splitLengths_cons, List.take_of_length_le hlen, List.drop_of_length_le hlen,
    splitLengths_empty, List.map_cons, List.map_replicate]

theorem shares_walking (ns : List Nat) (w : Walk) :
    Shares (s.collect ns.sum w) ns (answers ns (walking s w)) := by
  -- the first take is the start of the walk for all of them, and the others go on where it stands
  induction ns generalizing w with
  | nil => exact ⟨fun _ => rfl, nofun⟩
  | cons n ns ih =>
    rw [List.sum_cons, answers, take]
    cases h : (s.collect n w).ending with
    | more rest =>
      rw [takeFrom_of_more h]
      exact Shares.cons_of_more h (ih rest)
    | finished why =>
      rw [takeFrom_of_finished h, answers_done]
      exact shares_of_finished h
    | offCalendar =>
      rw [takeFrom_of_offCalendar h, answers_done, Search.collect_add_of_ended _ (by rw [h]; nofun)]
      exact ⟨fun he => absurd h he, fun _ => ⟨[], _, rfl⟩⟩

/-- A take of nothing leaves the search unlooked at, which tells no difference later. -/
theorem answers_fresh (hv : s.expression.isValid = true) (ns : List Nat) :
    answers ns (fresh s) = answers ns (walking s s.start) := by
  have hr : s.expression.requireValid = .ok s.expression := if_pos hv
  induction ns with
  | nil => rfl
  | cons n ns ih =>
    cases n with
    | zero => exact congrArg (_ :: ·) ih
    | succ n => simp only [answers, take, Nat.succ_ne_zero, if_false, hr]

/-- The takes answer with the consecutive pieces of what one search for all of them answers, and where
it leaves the time line one take fails. More firings than can be counted are refused to the one search
only. -/
theorem answers_of_occurrences (hv : s.expression.isValid = true) (ns : List Nat) :
    (∀ ts, s.occurrences ns.sum = .ok ts →
        answers ns (fresh s) = (ns.splitLengths ts).map .ok) ∧
      (∀ err, s.occurrences ns.sum = .error err → (ns.sum : Int) ≤ Search.maxCount →
        FailsOnce err (answers ns (fresh s))) ∧
      (Search.maxCount < ns.sum → s.occurrences ns.sum = .error .countTooLarge ∧
        (s.StaysOnCalendar ns.sum →
          answers ns (fresh s) = (ns.splitLengths (s.collect ns.sum s.start).moments).map .ok) ∧
        (¬ s.StaysOnCalendar ns.sum → FailsOnce .offCalendar (answers ns (fresh s)))) := by
  have hshares : Shares (s.collect (ns.sum : Int).toNat s.start) ns (answers ns (fresh s)) := by
    rw [answers_fresh hv, Int.toNat_natCast]
    exact shares_walking ns s.start
  refine ⟨fun ts h => ?_, fun err h hc => ?_, fun hc => ⟨?_, fun hs => ?_, fun hs => ?_⟩⟩
  · have he : (s.collect (ns.sum : Int).toNat s.start).ending ≠ .offCalendar := fun he =>
      Search.collect_ending_start.mp he (Search.staysOnCalendar_of_occurrences hv h)
    rw [Search.occurrences_of_ending hv (Search.le_maxCount_of_occurrences h) he] at h
    rw [hshares.listed he, Except.ok.inj h]
  · by_cases he : (s.collect (ns.sum : Int).toNat s.start).ending = .offCalendar
    · rw [Search.occurrences_of_offCalendar hv hc he] at h
      rw [← Except.error.inj h]
      exact hshares.failed he
    · rw [Search.occurrences_of_ending hv hc he] at h
      cases h
  · exact Search.occurrences_of_maxCount_lt hc
  · exact hshares.listed fun he => Search.collect_ending_start.mp he hs
  · exact hshares.failed (Search.collect_ending_start.mpr hs)

/-- Takes from the last minutes of the time line, up to its end and across it. -/
theorem answers_of_occurrences_last_minutes :
    ∃ (s : Search) (short long : List Nat), short = [1, 0, 2] ∧ long = [2, 3, 1] ∧
      parse "* * * * *" .minutes = .ok (.expression s.expression) ∧
      s.reference.clock.civil = ⟨⟨9999, 12, 31⟩, 23, 56, 0, 0⟩ ∧ s.budget = 10 ∧ s.window = none ∧
      s.expression.isValid = true ∧
      (∃ ts, s.occurrences short.sum = .ok ts ∧
        answers short (fresh s) = (short.splitLengths ts).map .ok) ∧
      s.occurrences long.sum = .error .offCalendar ∧
      FailsOnce .offCalendar (answers long (fresh s)) := by
  refine ⟨⟨_, ⟨⟨315537897360000000, by decide⟩, none⟩, 10, none⟩, [1, 0, 2], [2, 3, 1], rfl, rfl, rfl,
    by decide, rfl, rfl, by decide, ⟨[⟨315537897420000000, by decide⟩, ⟨315537897480000000, by decide⟩,
      ⟨315537897540000000, by decide⟩], by decide, ?_⟩, by decide, ?_⟩
  · exact (answers_of_occurrences (by decide) [1, 0, 2]).1 _ (by decide)
  · exact (answers_of_occurrences (by decide) [2, 3, 1]).2.1 _ (by decide) (by decide)

/-- Two takes of a schedule that fires every minute that answer where one search for both does not. -/
theorem answers_every_minute_of_countTooLarge :
    ∃ (s : Search) (ns : List Nat), ns = [9223372036854775807, 1] ∧
      parse "* * * * *" .minutes = .ok (.expression s.expression) ∧ s.expression.isValid = true ∧
      s.reference.clock = .epoch ∧ s.budget = 1 ∧ s.window = none ∧
      s.occurrences ns.sum = .error .countTooLarge ∧
      answers ns (fresh s) = [.ok [⟨62135596860000000, by decide⟩], .ok []] :=
  ⟨⟨_, ⟨.epoch, none⟩, 1, none⟩, [9223372036854775807, 1], rfl, rfl, by decide, rfl, rfl, rfl,
    Search.occurrences_of_maxCount_lt (by decide), rfl⟩

end Occurrences

end CronSchedule
