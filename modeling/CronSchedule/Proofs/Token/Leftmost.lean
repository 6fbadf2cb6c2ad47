import CronSchedule.Proofs.Message.Pattern
import CronSchedule.Proofs.Token.Blame
import CronSchedule.Proofs.Token.Expansion
import CronSchedule.Token.Answer
import Mathlib.Data.Nat.Digits.Lemmas

/-!
Which fault is reported for a token. Main statement: it is that of the leftmost faulty element, as if that
stood alone, and it is told again from its message and parameters in every language
(`Answer.ofToken_leftmost`).
-/

namespace CronSchedule

open Text (IsShort)

variable {b : Bounds} {f : Fault} {x : Answer} {token text part : List Char}

/-! ## Telling a fault -/

theorem ofDigitValues_eq_ofDigits (ds : List Nat) : ofDigitValues ds = Nat.ofDigits 10 ds.reverse := by
  rw [Nat.ofDigits_eq_foldr, List.foldr_reverse, ofDigitValues]
  simp only [Nat.cast_id, Nat.add_comm]

/-- A numeral has no more figures without the zeros in front of it. -/
theorem Numeral.isShort_value (n : Numeral) : IsShort n.value := by
  have hdigits : ∀ d ∈ (n.digits.map fun c => c.toNat - '0'.toNat).reverse, d < 10 := by
    intro d hd
    obtain ⟨c, hc, rfl⟩ := List.mem_map.mp (List.mem_reverse.mp hd)
    obtain ⟨-, hlast⟩ := Char.isDigit_iff_toNat.mp (List.all_eq_true.mp n.all_isDigit c hc)
    have hrange : '0'.toNat = 48 ∧ '9'.toNat = 57 := ⟨rfl, rfl⟩
    omega
  have hlt : n.value < 10 ^ n.digits.length := by
    rw [value, ofDigitValues_eq_ofDigits]
    simpa using Nat.ofDigits_lt_base_pow_length (by decide) hdigits
  have hpos : 0 < n.digits.length := List.length_pos_iff.mpr n.digits_ne_nil
  exact Nat.le_trans (Nat.toDigits_length 10 n.value n.digits.length hpos hlt) n.length_le

namespace Fault

theorem write_params (h : ∀ w ∈ f.numbers, IsShort w.2) : f.params.write = .ok f.bindings := by
  rw [Params.write, mapM_eq_ok]
  refine .cons rfl ?_
  rw [List.forall₂_map_left_iff, List.forall₂_map_right_iff, List.forall₂_same]
  intro w hw
  rw [Filling.write, if_pos (h w hw)]
  rfl

theorem isShort_of_write_params {bs : Bindings} (h : f.params.write = .ok bs) :
    ∀ w ∈ f.numbers, IsShort w.2 := by
  intro w hw
  have hmem : (w.1, Filling.number w.2) ∈ f.params :=
    List.mem_cons_of_mem _ (List.mem_map_of_mem hw)
  obtain ⟨_, hwrite⟩ := exists_mapM_eq_ok_iff.mp ⟨bs, h⟩ _ hmem
  obtain ⟨_, hwrite, -⟩ := map_eq_ok.mp hwrite
  by_contra hn
  rw [Filling.write, if_neg hn] at hwrite
  cases hwrite

/-- A fault without a long number is told in every language. -/
theorem tell_eq (h : ∀ w ∈ f.numbers, IsShort w.2) (tag : Option String) :
    f.message.tell tag f.params = .ok (f.say (Locale.ofTag tag)) := by
  rw [Message.tell, write_params h]
  change ((Locale.ofTag tag).format f.message f.bindings).mapError TellError.pattern = _
  rw [Locale.format_eq (f.missing?_bindings _)]
  rfl

end Fault

theorem Answer.ofFault_eq_ok_iff :
    ofFault f = .ok x ↔
      (∀ w ∈ f.numbers, IsShort w.2) ∧ x = ⟨[], f.say .en, f.message, f.params⟩ := by
  rw [ofFault, bind_eq_ok]
  constructor
  · intro h
    obtain ⟨error, htell, h⟩ := h
    obtain ⟨bs, hwrite, -⟩ := bind_eq_ok.mp htell
    have hshort : ∀ w ∈ f.numbers, IsShort w.2 := by
      cases hparams : f.params.write with
      | error e =>
        rw [hparams] at hwrite
        cases hwrite
      | ok bs => exact Fault.isShort_of_write_params hparams
    rw [Fault.tell_eq hshort none] at htell
    cases htell
    exact ⟨hshort, (Except.ok.inj h).symm⟩
  · intro h
    obtain ⟨hshort, rfl⟩ := h
    exact ⟨_, Fault.tell_eq hshort none, rfl⟩

/-! ## The fault of one element -/

theorem Fault.IsPlain.isShort (h : f.IsPlain b part) (hlow : IsShort b.low) (hhigh : IsShort b.high) :
    ∀ w ∈ f.numbers, IsShort w.2 := by
  cases h with
  | malformed ht => exact nofun
  | badStep ht => exact nofun
  | notNumber ht => exact nofun
  | outOfRange ht n =>
    exact List.forall_mem_cons.mpr ⟨n.isShort_value,
      List.forall_mem_cons.mpr ⟨hlow, List.forall_mem_singleton.mpr hhigh⟩⟩
  | reversedRange ht => exact nofun

theorem Fault.IsPlain.message_ne (h : f.IsPlain b part) :
    f.message ≠ .repeatedList ∧ f.message ≠ .selectsNothing := by
  cases h <;> exact ⟨nofun, nofun⟩

/-- The text is a range within the bounds with a step that is not 0. -/
def Element.IsSteppedSpan (b : Bounds) (part : List Char) : Prop :=
  ∃ first last step, (stepped (.span first last) step).text = part ∧ (Base.span first last).Fits b ∧
    0 < step.value

/-- Of elements with a step only a range can select nothing. -/
theorem Element.MeetsNothing.isSteppedSpan (h : MeetsNothing b part) (hb : b.low ≤ b.high) :
    IsSteppedSpan b part := by
  obtain ⟨base, step, htext, hbase, hstep, hnone⟩ := h
  have hmisfit : ¬ (stepped base step).Fits b := by
    intro hfits
    obtain ⟨v, hv⟩ := hfits.exists_selects hb
    exact hnone v hv
  cases base with
  | every => exact absurd ⟨hbase, hstep⟩ hmisfit
  | single n => exact absurd ⟨hbase, hstep⟩ hmisfit
  | span first last => exact ⟨first, last, step, htext, hbase, hstep⟩

namespace Token

theorem listedElements_of_notMem (hc : ',' ∉ part) (hne : part ≠ []) :
    listedElements b part = (fun e => [e]) <$> Element.readListed b part := by
  rw [listedElements_eq_mapM, Text.pieces_of_notMem hc, List.mapM_cons, List.mapM_nil, readListed,
    if_neg hne]
  cases Element.readListed b part <;> rfl

theorem expand_part_eq_error_iff (hc : ',' ∉ part) (hne : part ≠ []) {e : ExpansionError} :
    expand b (String.ofList part) = .error e ↔ Element.readListed b part = .error e := by
  rw [expand, map_eq_error, String.toList_ofList, listedElements_of_notMem hc hne, map_eq_error]

theorem exists_expand_of_readListed (hc : ',' ∉ part) {el : Element}
    (h : readListed b token part = .ok el) : ∃ vs, expand b (String.ofList part) = .ok vs := by
  rw [readListed] at h
  split at h
  · cases h
  · next hne =>
    refine ⟨selection b [el], ?_⟩
    rw [expand, String.toList_ofList, listedElements_of_notMem hc hne, h]
    rfl

end Token

/-- The part of a token that a fault is about: the pieces before it are accepted if each stands alone, and it is
empty or has the same fault if it stands alone. -/
structure Fault.IsLeftmost (b : Bounds) (token : String) (part : List Char) (f : Fault) : Prop where
  pieces : ∃ before after, Text.pieces ',' token.toList = before ++ part :: after ∧
    ∀ p ∈ before, ∃ vs, Token.expand b (String.ofList p) = .ok vs
  empty : part = [] → f = .emptyElement token
  alone : part ≠ [] → Token.expand b (String.ofList part) = .error (.fault f)
  kinds : f = .emptyElement token ∨ f.IsPlain b part ∨
    f = .selectsNothing (String.ofList part) b.low b.high ∧ Element.IsSteppedSpan b part

theorem Fault.exists_isLeftmost (hb : b.low ≤ b.high) {token : String}
    (h : Token.expand b token = .error (.fault f)) : ∃ part, f.IsLeftmost b token part := by
  obtain ⟨before, part, after, hp, hbefore, hpart⟩ := Token.exists_part_of_listed_fault (map_eq_error.mp h)
  have hc : ∀ p ∈ before ++ part :: after, ',' ∉ p := fun p hmem =>
    Text.notMem_of_mem_pieces (hp ▸ hmem)
  have hcpart : ',' ∉ part := hc part (by simp)
  refine ⟨part, ⟨before, after, hp, fun p hmem => ?_⟩, fun hnil => ?_, fun hne => ?_, ?_⟩
  · obtain ⟨el, hel⟩ := hbefore p hmem
    exact Token.exists_expand_of_readListed (hc p (List.mem_append_left _ hmem)) hel
  · obtain ⟨-, rfl⟩ := hpart.resolve_right fun hread => hread.1 hnil
    rw [String.ofList_toList]
  · obtain ⟨-, hread⟩ := hpart.resolve_left fun hempty => hne hempty.1
    exact (Token.expand_part_eq_error_iff hcpart hne).mpr hread
  · rcases hpart with ⟨-, rfl⟩ | ⟨-, hread⟩
    · exact .inl (by rw [String.ofList_toList])
    · rcases Element.fault_of_read hcpart (Element.read_of_readListed_fault hread) with hplain | ⟨hf, hnothing⟩
      · exact .inr (.inl hplain)
      · exact .inr (.inr ⟨hf, hnothing.isSteppedSpan hb⟩)

theorem Fault.IsLeftmost.isShort {token : String} (h : f.IsLeftmost b token part) (hlow : IsShort b.low)
    (hhigh : IsShort b.high) : ∀ w ∈ f.numbers, IsShort w.2 := by
  rcases h.kinds with rfl | hplain | ⟨rfl, -⟩
  · exact nofun
  · exact hplain.isShort hlow hhigh
  · exact List.forall_mem_cons.mpr ⟨hlow, List.forall_mem_singleton.mpr hhigh⟩

/-- No element is a list, so none repeats the whole list. -/
theorem Fault.IsLeftmost.message_ne_repeatedList {token : String} (h : f.IsLeftmost b token part) :
    f.message ≠ .repeatedList := by
  rcases h.kinds with rfl | hplain | ⟨rfl, -⟩
  · exact nofun
  · exact hplain.message_ne.1
  · exact nofun

theorem Fault.IsLeftmost.isSteppedSpan {token : String} (h : f.IsLeftmost b token part)
    (hm : f.message = .selectsNothing) : Element.IsSteppedSpan b part := by
  rcases h.kinds with rfl | hplain | ⟨-, hstepped⟩
  · cases hm
  · exact absurd hm hplain.message_ne.2
  · exact hstepped

namespace Answer

variable {token : String}

theorem ofToken_eq_ok_iff :
    ofToken b token = .ok x ↔
      (∃ vs, Token.expand b token = .ok vs ∧ x = ⟨vs, none, none, []⟩) ∨
        ∃ f, Token.expand b token = .error (.fault f) ∧ ofFault f = .ok x := by
  rw [ofToken]
  cases h : Token.expand b token with
  | ok vs => simp [eq_comm]
  | error e =>
    cases e with
    | overlong o => simp
    | unlistable => simp
    | fault f => cases hf : ofFault f <;> simp [Except.mapError, hf]

theorem isOk_of_expand {vs : List Int} (h : Token.expand b token = .ok vs) :
    ∃ y, ofToken b token = .ok y ∧ y.isOk = true :=
  ⟨_, ofToken_eq_ok_iff.mpr (.inl ⟨vs, h, rfl⟩), rfl⟩

theorem isOk_of_ofFault (h : ofFault f = .ok x) : x.isOk = false := by
  obtain ⟨-, rfl⟩ := ofFault_eq_ok_iff.mp h
  rfl

theorem exists_fault_of_not_isOk (h : ofToken b token = .ok x) (hx : x.isOk = false) :
    ∃ f, Token.expand b token = .error (.fault f) ∧ ofFault f = .ok x := by
  rcases ofToken_eq_ok_iff.mp h with ⟨vs, -, rfl⟩ | hfault
  · cases hx
  · exact hfault

theorem isOk_iff_accepts (hb : b.low ≤ b.high) (hs : ¬ HasLongNumber token.toList)
    (h : ofToken b token = .ok x) : x.isOk = true ↔ Token.Accepts b token.toList := by
  rcases ofToken_eq_ok_iff.mp h with ⟨vs, hvs, rfl⟩ | ⟨f, hf, hfault⟩
  · exact iff_of_true rfl (Token.expand_eq_ok hb hvs).1
  · rw [isOk_of_ofFault hfault]
    exact iff_of_false nofun ((Token.exists_fault_iff hb hs).mp ⟨f, hf⟩).1

theorem ofToken_eq_unlistable_iff (hb : b.low ≤ b.high) :
    ofToken b token = .error .unlistable ↔ Token.Overflows b token.toList := by
  rw [← Token.expand_eq_unlistable_iff hb, ofToken]
  cases h : Token.expand b token with
  | ok vs => simp
  | error e =>
    cases e with
    | overlong o => simp
    | unlistable => simp
    | fault f => simp [mapError_eq_error]

/-- There is an answer for a token unless it has too long a number in it or overflows, or the bounds are too long
to be told of. -/
theorem exists_ofToken (hb : b.low ≤ b.high) (hs : ¬ HasLongNumber token.toList)
    (hlow : IsShort b.low) (hhigh : IsShort b.high) (hover : ¬ Token.Overflows b token.toList) :
    ∃ x, ofToken b token = .ok x := by
  cases h : Token.expand b token with
  | ok vs =>
    obtain ⟨y, hy, -⟩ := isOk_of_expand h
    exact ⟨y, hy⟩
  | error e =>
    cases e with
    | overlong o => exact absurd h (Token.expand_ne_overlong hs o)
    | unlistable => exact absurd ((Token.expand_eq_unlistable_iff hb).mp h) hover
    | fault f =>
      obtain ⟨part, hleftmost⟩ := Fault.exists_isLeftmost hb h
      have hshort := hleftmost.isShort hlow hhigh
      exact ⟨_, ofToken_eq_ok_iff.mpr (.inr ⟨f, h, ofFault_eq_ok_iff.mpr ⟨hshort, rfl⟩⟩)⟩

/-- The piece is the leftmost of the token that is faulty: the answer is about it, and the one that it gets if it
stands alone, unless it is empty. -/
structure BlamesLeftmost (b : Bounds) (token : String) (part : List Char) (x : Answer) : Prop where
  pieces : ∃ before after, Text.pieces ',' token.toList = before ++ part :: after ∧
    ∀ p ∈ before, ∃ y, ofToken b (String.ofList p) = .ok y ∧ y.isOk = true
  empty : part = [] → x.message? = some .emptyElement ∧ x.params = [(.token, .text token)]
  alone : part ≠ [] → ofToken b (String.ofList part) = .ok x
  selectsNothing : x.message? = some .selectsNothing → Element.IsSteppedSpan b part

theorem blamesLeftmost_of_isLeftmost (h : f.IsLeftmost b token part) (hx : ofFault f = .ok x) :
    BlamesLeftmost b token part x := by
  obtain ⟨before, after, hp, hbefore⟩ := h.pieces
  obtain ⟨-, rfl⟩ := ofFault_eq_ok_iff.mp hx
  refine ⟨⟨before, after, hp, fun p hmem => ?_⟩, fun hnil => ?_, fun hne => ?_, fun hm => ?_⟩
  · obtain ⟨vs, hvs⟩ := hbefore p hmem
    exact isOk_of_expand hvs
  · rw [h.empty hnil]
    exact ⟨rfl, rfl⟩
  · exact ofToken_eq_ok_iff.mpr (.inr ⟨f, h.alone hne, hx⟩)
  · exact h.isSteppedSpan (Option.some.inj hm)

/-- There is an answer for a token unless it overflows, and it reports a fault unless the token is accepted. Then
it has no values, and blames the leftmost element that is faulty. Its message is told again in every language, in
English as it was told at first. A token overflows only within bounds of more numbers than a list holds; then
there is no answer, even if an element after that is faulty. -/
theorem ofToken_leftmost (hb : b.low ≤ b.high) (hs : ¬ HasLongNumber token.toList) :
    (IsShort b.low → IsShort b.high → ¬ Token.Overflows b token.toList →
      ∃ x, ofToken b token = .ok x) ∧
      (ofToken b token = .error .unlistable ↔ Token.Overflows b token.toList) ∧
      (b.high - b.low < maxListed → ¬ Token.Overflows b token.toList) ∧
      ∀ x, ofToken b token = .ok x →
        (x.isOk = true ↔ Token.Accepts b token.toList) ∧
        (x.isOk = false →
          x.values = [] ∧ (∃ part, BlamesLeftmost b token part x) ∧
            ∃ m error, x.message? = some m ∧ x.error? = some error ∧ m ≠ .repeatedList ∧
              ∀ tag, ∃ text, m.tell tag x.params = .ok text ∧
                (Locale.ofTag tag = .en → text = error)) := by
  refine ⟨exists_ofToken hb hs, ofToken_eq_unlistable_iff hb, Token.not_overflows,
    fun x h => ⟨isOk_iff_accepts hb hs h, fun hx => ?_⟩⟩
  obtain ⟨f, hf, hfault⟩ := exists_fault_of_not_isOk h hx
  obtain ⟨part, hleftmost⟩ := Fault.exists_isLeftmost hb hf
  have hblames := blamesLeftmost_of_isLeftmost hleftmost hfault
  obtain ⟨hshort, rfl⟩ := ofFault_eq_ok_iff.mp hfault
  refine ⟨rfl, ⟨part, hblames⟩, f.message, f.say .en, rfl, rfl, hleftmost.message_ne_repeatedList,
    fun tag => ?_⟩
  exact ⟨_, Fault.tell_eq hshort tag, fun hen => by rw [hen]⟩

/-- A step that meets nothing of its range, before an element that is empty and one that is no number. -/
theorem ofToken_leftmost_step :
    (0 : Int) ≤ 59 ∧ ¬ HasLongNumber "5,10-15/20,,x".toList ∧ ∃ x, ofToken ⟨0, 59⟩ "5,10-15/20,,x" = .ok x ∧
      x.isOk = false ∧ x.error? = some "'10-15/20' selects no values in 0-59" ∧
      x.params = [(.token, .text "10-15/20"), (.low, .number 0), (.high, .number 59)] ∧
      (∃ part, BlamesLeftmost ⟨0, 59⟩ "5,10-15/20,,x" part x) ∧
      ∀ tag, ∃ text, Message.selectsNothing.tell tag x.params = .ok text := by
  have hb : (⟨0, 59⟩ : Bounds).low ≤ (⟨0, 59⟩ : Bounds).high := by decide
  have hs : ¬ HasLongNumber "5,10-15/20,,x".toList := not_hasLongNumber (by decide)
  have hanswer : ofToken ⟨0, 59⟩ "5,10-15/20,,x" =
      .ok ⟨[], "'10-15/20' selects no values in 0-59", some .selectsNothing,
        [(.token, .text "10-15/20"), (.low, .number 0), (.high, .number 59)]⟩ := by
    decide +kernel
  obtain ⟨-, -, -, hleftmost⟩ := ofToken_leftmost hb hs
  obtain ⟨-, hblames, m, error, hm, -, -, htell⟩ := (hleftmost _ hanswer).2 rfl
  cases hm
  refine ⟨hb, hs, _, hanswer, rfl, rfl, rfl, hblames, fun tag => ?_⟩
  obtain ⟨text, htext, -⟩ := htell tag
  exact ⟨text, htext⟩

/-- The second element is the leftmost that is faulty, and is refused if it stands alone. After a star that
stands for more numbers than a list holds it is not even looked at. -/
theorem ofToken_too_wide :
    (0 : Int) ≤ 2 ^ 63 ∧ ¬ HasLongNumber "*,x".toList ∧
      ofToken ⟨0, 2 ^ 63⟩ "x" =
        .ok ⟨[], "'x' is not a number", some .notNumber, [(.token, .text "x")]⟩ ∧
      ofToken ⟨0, 2 ^ 63⟩ "*,x" = .error .unlistable :=
  ⟨by decide, not_hasLongNumber (by decide), by decide +kernel, by decide +kernel⟩

end Answer

end CronSchedule
