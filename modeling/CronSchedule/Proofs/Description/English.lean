import CronSchedule.Proofs.Description.Idioms
import CronSchedule.Proofs.Description.Topics

/-!
English descriptions tell schedules apart. Main statement: valid expressions of one mode with one token for
the day of the week and one English description fire alike (`matches?_of_describe_en`).
-/

namespace CronSchedule

namespace Clause

variable {rest : Clause}

theorem listing_ne_singleton (x y z : Clause) (xs : List Clause) (c : Clause) :
    listing rest (x :: y :: z :: xs) ≠ [c] := by
  obtain ⟨r, cs, hcs⟩ := listing_cons rest y (z :: xs)
  rw [listing_cons_cons_cons, hcs]
  simp

theorem modifyHead_append_inj {cs ds : List Clause} {lead lead' : Clause}
    (hlen : lead.length = lead'.length)
    (h : cs.modifyHead (lead ++ ·) = ds.modifyHead (lead' ++ ·)) : cs = ds := by
  cases cs with
  | nil =>
    cases ds with
    | nil => rfl
    | cons d ds => cases h
  | cons c cs =>
    cases ds with
    | nil => cases h
    | cons d ds =>
      obtain ⟨hhead, htail⟩ := List.cons.inj h
      rw [(List.append_inj hhead hlen).2, htail]

/-- A list in words tells its items, if none of them holds the word that stands before the last. -/
theorem listing_inj {xs ys : List Clause} (hx : xs ≠ []) (hy : ys ≠ []) (hr : "and" ∉ rest)
    (hxs : ∀ x ∈ xs, "and" ∉ x) (hys : ∀ y ∈ ys, "and" ∉ y) (h : listing rest xs = listing rest ys) :
    xs = ys := by
  have hlast {x : Clause} (hx : "and" ∉ x) : "and" ∉ x ++ rest :=
    fun hmem => (List.mem_append.mp hmem).elim hx hr
  have hone {x y y' : Clause} (hx : "and" ∉ x) : listing rest [x] ≠ listing rest [y, y'] :=
    fun h => hlast hx ((List.cons.inj h).1 ▸ by simp)
  -- the last two items share a clause, and any item before them has one to itself
  match xs, ys, hx, hy with
  | [x], [y], _, _ => rw [List.append_cancel_right (List.cons.inj h).1]
  | [x], [y, y'], _, _ => exact absurd h (hone (hxs x List.mem_cons_self))
  | [x, x'], [y], _, _ => exact absurd h.symm (hone (hys y List.mem_cons_self))
  | [x, x'], [y, y'], _, _ =>
    have hx' := hlast (hxs x' (by simp))
    obtain ⟨rfl, -, heq⟩ :=
      (List.append_cons_inj_of_notMem (hxs x List.mem_cons_self) hx').mp (List.cons.inj h).1
    rw [List.append_cancel_right heq]
  | [x], y :: y' :: y'' :: ys, _, _ => exact absurd h.symm (listing_ne_singleton y y' y'' ys _)
  | [x, x'], y :: y' :: y'' :: ys, _, _ => exact absurd h.symm (listing_ne_singleton y y' y'' ys _)
  | x :: x' :: x'' :: xs, [y], _, _ => exact absurd h (listing_ne_singleton x x' x'' xs _)
  | x :: x' :: x'' :: xs, [y, y'], _, _ => exact absurd h (listing_ne_singleton x x' x'' xs _)
  | x :: x' :: x'' :: xs, y :: y' :: y'' :: ys, _, _ =>
    rw [listing_cons_cons_cons, listing_cons_cons_cons] at h
    obtain ⟨rfl, hrest⟩ := List.cons.inj h
    have hspace : [""].length = [""].length := rfl
    have htail := modifyHead_append_inj hspace hrest
    rw [listing_inj (List.cons_ne_nil _ _) (List.cons_ne_nil _ _) hr (List.forall_mem_cons.mp hxs).2
      (List.forall_mem_cons.mp hys).2 htail]

end Clause

theorem Slot.length_leadWords (slot : Slot) (one one' : Bool) :
    (slot.leadWords one).length = (slot.leadWords one').length := by
  cases slot <;> rfl

/-- The words before the values are none that a step starts with. -/
theorem Slot.leadWords_ne_step (slot : Slot) (one : Bool) (c r : Clause) :
    slot.leadWords one ++ c ≠ "" :: "every" :: r := by
  cases slot <;> simp [leadWords]

namespace Field

variable {f g : Field} {slot : Slot} {es es' : List Element} {v : Int}

theorem not_isWorkingDays (hs : f.slot = slot) (hw : slot ≠ .dayOfWeek) : ¬ f.isWorkingDays = true :=
  fun h => hw (hs ▸ slot_of_isWorkingDays h)

theorem list_ne_step {one : Bool} (hne : es ≠ []) (r : Clause) :
    (Clause.listing slot.tailWords (es.map (·.words slot))).modifyHead (slot.leadWords one ++ ·) ≠
      ["" :: "every" :: r] := by
  obtain ⟨e, es, rfl⟩ := List.exists_cons_of_ne_nil hne
  obtain ⟨s, cs, hcs⟩ := Clause.listing_cons slot.tailWords (e.words slot) (es.map (·.words slot))
  rw [List.map_cons, hcs, List.modifyHead_cons]
  intro h
  exact slot.leadWords_ne_step one _ r (List.cons.inj h).1

theorem map_words_inj (hf : f.slot = slot) (hg : g.slot = slot) (hfd : ¬ f.isWorkingDays = true)
    (hgd : ¬ g.isWorkingDays = true) (hne : es ≠ []) (hne' : es' ≠ [])
    (h : f.clausesOf es = g.clausesOf es') :
    es.map (·.words slot) = es'.map (·.words slot) := by
  have hfc := f.clausesOf_cases es
  have hgc := g.clausesOf_cases es'
  rw [hf] at hfc
  rw [hg, ← h] at hgc
  rcases hfc with ⟨base, step, rfl, hclauses⟩ | ⟨hdays, -⟩ | ⟨hclauses, -⟩
  · rcases hgc with ⟨base', step', rfl, hclauses'⟩ | ⟨hdays', -⟩ | ⟨hclauses', -⟩
    · rw [hclauses] at hclauses'
      simpa using hclauses'
    · exact absurd hdays' hgd
    · exact absurd (hclauses'.symm.trans hclauses) (list_ne_step hne' _)
  · exact absurd hdays hfd
  · rcases hgc with ⟨base', step', rfl, hclauses'⟩ | ⟨hdays', -⟩ | ⟨hclauses', -⟩
    · exact absurd (hclauses.symm.trans hclauses') (list_ne_step hne _)
    · exact absurd hdays' hgd
    · have hlists := Clause.modifyHead_append_inj (slot.length_leadWords _ _)
        (hclauses.symm.trans hclauses')
      have hand (es : List Element) : ∀ x ∈ es.map (·.words slot), "and" ∉ x :=
        List.forall_mem_map.mpr fun e _ => e.and_notMem_words slot
      have htail : "and" ∉ slot.tailWords := by cases slot <;> decide
      exact Clause.listing_inj (mt List.map_eq_nil_iff.mp hne) (mt List.map_eq_nil_iff.mp hne') htail
        (hand es) (hand es') hlists

theorem exists_selects_of_map_words (hw : slot ≠ .dayOfWeek) (hf : ∀ e ∈ es, e.Fits slot.bounds)
    (hg : ∀ e ∈ es', e.Fits slot.bounds) (h : es.map (·.words slot) = es'.map (·.words slot))
    (hv : ∃ e ∈ es, e.Selects slot.bounds v) : ∃ e ∈ es', e.Selects slot.bounds v := by
  obtain ⟨e, he, hs⟩ := hv
  obtain ⟨e', he', hwords⟩ := List.mem_map.mp (h ▸ List.mem_map_of_mem he)
  exact ⟨e', he', (Element.selects_congr hw (hg e' he') (hf e he) hwords).mpr hs⟩

end Field

namespace Expression

variable {a b e : Expression} {slot : Slot} {mode : Mode} {source text : String}

theorem clausesAt_ne_nil (h : parse source mode = .ok (.expression e)) (hv : e.isValid = true)
    (hr : e.Restricts slot) : e.clausesAt slot ≠ [] := by
  obtain ⟨f, es, hf, hes⟩ := hr.exists_lists h hv
  rw [clausesAt, hf, Option.elim_some, hes.clauses_eq]
  exact Field.clausesOf_ne_nil hes.ne_nil

/-- The clauses of a slot tell the numbers it is restricted to. -/
theorem agreeAt_of_clausesAt (ha : parse source mode = .ok (.expression a))
    (hb : parse text mode = .ok (.expression b)) (hva : a.isValid = true) (hvb : b.isValid = true)
    (hw : slot ≠ .dayOfWeek) (h : a.clausesAt slot = b.clausesAt slot) : AgreeAt a b slot := by
  by_cases hra : a.Restricts slot
  · have hrb : b.Restricts slot := by
      by_contra hn
      exact clausesAt_ne_nil ha hva hra (h.trans (clausesAt_of_not_restricts hn))
    obtain ⟨f, es, hf, hes⟩ := hra.exists_lists ha hva
    obtain ⟨g, es', hg, hes'⟩ := hrb.exists_lists hb hvb
    rw [clausesAt, clausesAt, hf, hg, Option.elim_some, Option.elim_some, hes.clauses_eq,
      hes'.clauses_eq] at h
    have hwords := Field.map_words_inj hes.slot_eq hes'.slot_eq (Field.not_isWorkingDays hes.slot_eq hw)
      (Field.not_isWorkingDays hes'.slot_eq hw) hes.ne_nil hes'.ne_nil h
    refine ⟨iff_of_true hra hrb, fun f' g' hf' hg' v => ?_⟩
    cases hf.symm.trans hf'
    cases hg.symm.trans hg'
    obtain ⟨hread, hacc⟩ := read_of_isValid ha hva hf
    obtain ⟨hread', hacc'⟩ := read_of_isValid hb hvb hg
    have hfits := Slot.accepted_of_ne hw ▸ hes.fits
    have hfits' := Slot.accepted_of_ne hw ▸ hes'.fits
    rw [Bool.eq_iff_iff, Field.selects_iff, Field.selects_iff, hes.mem_values_iff hread hacc,
      hes'.mem_values_iff hread' hacc', Slot.accepted_of_ne hw]
    refine exists_congr fun n => and_congr_left fun _ => ?_
    exact ⟨Field.exists_selects_of_map_words hw hfits hfits' hwords,
      Field.exists_selects_of_map_words hw hfits' hfits hwords.symm⟩
  · have hrb : ¬ b.Restricts slot := by
      intro hrb
      exact clausesAt_ne_nil hb hvb hrb (h.symm.trans (clausesAt_of_not_restricts hra))
    exact agreeAt_of_not_restricts ha hb hra hrb

theorem clausesAt_cases (h : parse source mode = .ok (.expression e)) (hv : e.isValid = true)
    (slot : Slot) :
    Clause.AreAbout slot (e.clausesAt slot) ∧ ∀ c ∈ e.clausesAt slot, Clause.IsPlain c := by
  by_cases hr : e.Restricts slot
  · obtain ⟨f, es, hf, hes⟩ := hr.exists_lists h hv
    have hclauses : e.clausesAt slot = f.clausesOf es := by
      rw [clausesAt, hf]
      exact hes.clauses_eq
    rw [hclauses, ← hes.slot_eq]
    exact ⟨Field.areAbout_clausesOf hes.ne_nil, Field.isPlain_clausesOf hes.ne_nil⟩
  · rw [clausesAt_of_not_restricts hr]
    exact ⟨Clause.areAbout_nil slot, List.forall_mem_nil _⟩

theorem clauses_ne_nil (e : Expression) : e.clauses ≠ [] := by
  rw [clauses]
  split
  · exact List.cons_ne_nil _ _
  · next hne => exact hne

theorem isPlain_clauses (h : parse source mode = .ok (.expression e)) (hv : e.isValid = true) :
    ∀ c ∈ e.clauses, Clause.IsPlain c := by
  rw [clauses]
  split
  · refine List.forall_mem_singleton.mpr ?_
    cases e.mode <;> decide
  · intro c hc
    obtain ⟨slot, -, hc⟩ := List.mem_flatMap.mp hc
    exact (clausesAt_cases h hv slot).2 c hc

/-- A sentence that starts with a clause about no slot is about none. -/
theorem slotClauses_inj (ha : parse source mode = .ok (.expression a))
    (hb : parse text mode = .ok (.expression b)) (hva : a.isValid = true) (hvb : b.isValid = true)
    (h : a.clauses = b.clauses) : a.slotClauses = b.slotClauses := by
  have hunit {a b : Expression} {text : String} (hb : parse text mode = .ok (.expression b))
      (hvb : b.isValid = true) (hne : b.slotClauses ≠ []) :
      [a.mode.unitClause] ≠ b.slotClauses := by
    intro heq
    have hhead : a.mode.unitClause ∈ (b.mode.slots.flatMap b.clausesAt).head? :=
      (congrArg List.head? heq).symm
    obtain ⟨slot, -, ht⟩ := Clause.exists_topic_of_mem_head? (fun s _ => (clausesAt_cases hb hvb s).1)
      hhead
    cases hm : a.mode <;> simp [hm, Mode.unitClause, Clause.topic, Clause.counted] at ht
  rw [clauses, clauses] at h
  split at h
  · next hna =>
    split at h
    · next hnb => rw [hna, hnb]
    · next hnb => exact absurd h (hunit hb hvb hnb)
  · next hna =>
    split at h
    · exact absurd h.symm (hunit ha hva hna)
    · exact h

theorem clausesAt_eq_of_composed (ha : parse source mode = .ok (.expression a))
    (hb : parse text mode = .ok (.expression b)) (hva : a.isValid = true) (hvb : b.isValid = true)
    (h : a.composed .en = b.composed .en) : ∀ slot ∈ mode.slots, a.clausesAt slot = b.clausesAt slot := by
  have hmodea : a.mode = mode := mode_of_parse ha
  have hmodeb : b.mode = mode := mode_of_parse hb
  rw [composed_en ha hva, composed_en hb hvb, String.append_right_inj] at h
  have hclauses := Clause.written_inj a.clauses_ne_nil b.clauses_ne_nil (isPlain_clauses ha hva)
    (isPlain_clauses hb hvb) h
  have hslots := slotClauses_inj ha hb hva hvb hclauses
  rw [slotClauses, slotClauses, hmodea, hmodeb] at hslots
  have hnodup : mode.slots.Nodup := by cases mode <;> decide
  exact Clause.flatMap_inj hnodup (fun s _ => (clausesAt_cases ha hva s).1)
    (fun s _ => (clausesAt_cases hb hvb s).1) hslots

end Expression

open Expression

theorem Idiom.english_inj : ∀ i ∈ all, ∀ j ∈ all, i.english = j.english → i = j := by
  decide +kernel

theorem Idiom.english_ne_sentence {i : Idiom} (h : i ∈ all) (s : String) :
    i.english ≠ "Executes" ++ s := by
  have hall : ∀ i ∈ all, ¬ "Executes".toList <+: i.english.toList := by decide +kernel
  intro heq
  apply hall i h
  rw [heq, String.toList_append]
  exact List.prefix_append _ _

variable {a b e : Expression} {mode : Mode} {source text : String}

/-- No idiom is said as a sentence that is put together. -/
theorem sentence_en_cases (ha : parse source mode = .ok (.expression a))
    (hb : parse text mode = .ok (.expression b)) (hva : a.isValid = true) (hvb : b.isValid = true)
    (h : a.sentence .en = b.sentence .en) :
    a.composed .en = b.composed .en ∨ ∃ i, a.idiom? = some i ∧ b.idiom? = some i := by
  have hmixed {a b : Expression} {text : String} {i : Idiom}
      (hb : parse text mode = .ok (.expression b)) (hvb : b.isValid = true) (hi : a.idiom? = some i) :
      i.english ≠ b.composed .en := by
    rw [composed_en hb hvb]
    exact Idiom.english_ne_sentence (idiom?_eq_some hi).1 _
  rw [sentence, sentence, canned?, canned?] at h
  cases hia : a.idiom? with
  | none =>
    cases hib : b.idiom? with
    | none =>
      rw [hia, hib] at h
      exact .inl h
    | some j =>
      rw [hia, hib] at h
      exact absurd h.symm (hmixed ha hva hib)
  | some i =>
    cases hib : b.idiom? with
    | none =>
      rw [hia, hib] at h
      exact absurd h (hmixed hb hvb hia)
    | some j =>
      rw [hia, hib] at h
      cases Idiom.english_inj i (idiom?_eq_some hia).1 j (idiom?_eq_some hib).1 h
      exact .inr ⟨i, rfl, rfl⟩

/-- Days of the week apart, the sentence of a valid expression tells what it is restricted to. -/
theorem agreeAt_of_sentence_en (ha : parse source mode = .ok (.expression a))
    (hb : parse text mode = .ok (.expression b)) (hva : a.isValid = true) (hvb : b.isValid = true)
    (hw : a.dayOfWeek.token = b.dayOfWeek.token) (h : a.sentence .en = b.sentence .en) :
    ∀ slot ∈ mode.slots, AgreeAt a b slot := by
  rcases sentence_en_cases ha hb hva hvb h with h | ⟨i, hia, hib⟩
  · intro slot hs
    by_cases hslot : slot = .dayOfWeek
    · subst hslot
      exact agreeAt_of_token_eq ha hb rfl rfl hw
    · exact agreeAt_of_clausesAt ha hb hva hvb hslot (clausesAt_eq_of_composed ha hb hva hvb h slot hs)
  · exact agreeAt_of_idiom? ha hb hva hvb hia hib

/-- One English sentence is never said of two schedules, given the days of the week, of which 0 and 7 are
both the Sunday. -/
theorem matches?_of_describe_en (ha : parse source mode = .ok (.expression a))
    (hb : parse text mode = .ok (.expression b)) (hva : a.isValid = true) (hvb : b.isValid = true)
    (hw : a.dayOfWeek.token = b.dayOfWeek.token) (h : a.describe .en = b.describe .en) :
    ∀ c, ∃ r, a.matches? c = .ok r ∧ b.matches? c = .ok r := by
  have hmodea : a.mode = mode := mode_of_parse ha
  have hmodeb : b.mode = mode := mode_of_parse hb
  rw [describe_of_isValid hva, describe_of_isValid hvb] at h
  have hagree := agreeAt_of_sentence_en ha hb hva hvb hw (Except.ok.inj h)
  intro c
  refine ⟨a.selects c, matches?_of_isValid hva c, ?_⟩
  rw [matches?_of_isValid hvb, selects_congr (hmodea.trans hmodeb.symm) (hmodea ▸ hagree)]

/-- Two texts with one description: the open elements are worded as the ranges that they stand for. -/
theorem matches?_of_describe_en_ranges :
    ∃ a b, parse "0,*,*/7 09-17/2 ? 1-12,3 1-5 2030" .minutes = .ok (.expression a) ∧
      parse "00,0-59,*/7 9-17/2 * *,3 1-5 2030" .minutes = .ok (.expression b) ∧
      a.describe .en = b.describe .en ∧ ∀ c, ∃ r, a.matches? c = .ok r ∧ b.matches? c = .ok r := by
  have hparse : parse "0,*,*/7 09-17/2 ? 1-12,3 1-5 2030" .minutes = .ok (.expression _) := rfl
  have hparse' : parse "00,0-59,*/7 9-17/2 * *,3 1-5 2030" .minutes = .ok (.expression _) := rfl
  exact ⟨_, _, hparse, hparse', by decide +kernel, matches?_of_describe_en hparse hparse' (by decide)
    (by decide) rfl (by decide +kernel)⟩

end CronSchedule
