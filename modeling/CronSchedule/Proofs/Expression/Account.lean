import CronSchedule.Expression.Account
import CronSchedule.Proofs.Expression.Tokens
import CronSchedule.Proofs.Message.Pattern

/-!
Accounts in all languages tell of the same things. Main statement: a text that can be read is read alike
for any two languages, and each message quotes the token and the reason as they are
(`Account.ofSource_alike`).
-/

namespace CronSchedule

def Issue.notice (l : Locale) (i : Issue) : Notice :=
  ⟨i.kind, i.slot?, i.token, i.say l⟩

def Warning.caution (l : Locale) (w : Warning) : Caution :=
  ⟨w.kind, w.say l⟩

def Parsed.account (l : Locale) (p : Parsed) : Account :=
  ⟨p.expression?.map (·.fields), p.report.issues.map (·.notice l), p.report.warnings.map (·.caution l)⟩

theorem Fault.explain_eq (f : Fault) (l : Locale) : f.explain l = .ok (f.say l) := by
  rw [explain, Locale.format_eq (f.missing?_bindings .en)]
  exact Locale.format_eq (f.missing?_bindings l)

theorem FieldFault.explain_eq (fault : FieldFault) (l : Locale) :
    fault.explain l = .ok (fault.say l) := by
  cases fault with
  | questionNotAllowed => exact Locale.format_eq (by cases l <;> rfl)
  | token f => exact f.explain_eq l

theorem Locale.labelOf_name (l : Locale) (slot : Slot) : l.labelOf slot.name = l.label slot := by
  rw [labelOf, Slot.ofName?_name]

theorem FieldFault.notice_eq (fault : FieldFault) (l : Locale) (slot : Slot) (token : String) :
    fault.notice l slot token = .ok ((Issue.field slot token fault).notice l) := by
  have hmessage : l.format .invalidField
      [(.label, l.label slot), (.token, token), (.reason, fault.say l)] = .ok _ :=
    Locale.format_eq (by cases l <;> rfl)
  rw [notice, explain_eq, Locale.labelOf_name]
  simp only [bind, Except.bind, hmessage]
  rfl

def Field.issue? (f : Field) : Option Issue :=
  f.fault?.map (Issue.field f.slot f.token)

theorem Field.readIn_eq (l : Locale) (slot : Slot) (token : String) :
    Field.readIn l slot token =
      ((fun f => (f, f.issue?.map (·.notice l))) <$> Field.read slot token).mapError .overlong := by
  rw [readIn]
  cases hf : Field.read slot token with
  | error o => rfl
  | ok f =>
    obtain rfl := slot_of_read hf
    obtain rfl := token_of_read hf
    have hissue : (f, f.issue?.map (·.notice l)) =
        (f, f.fault?.map fun fault => (Issue.field f.slot f.token fault).notice l) := by
      rw [issue?, Option.map_map]
      rfl
    change _ = Except.ok (f, f.issue?.map (·.notice l))
    rw [hissue]
    simp only [Except.mapError, bind, Except.bind]
    cases f.fault? with
    | none => rfl
    | some fault =>
      simp only [fault.notice_eq]
      rfl

/-- What a notice is about, in any language. -/
def Notice.about (n : Notice) : String × Option Slot × String :=
  (n.kind, n.slot?, n.token)

/-- The message is the pattern for a field at fault with the label of the slot, the token and the reason
in their places, each as it is. -/
def Notice.Quotes (l : Locale) (slot : Slot) (reason : String) (n : Notice) : Prop :=
  ∃ x y, Message.invalidField.pattern l =
      "\x7blabel\x7d" ++ x ++ "\x7btoken\x7d" ++ y ++ "\x7breason\x7d" ∧
    n.message = l.label slot ++ x ++ n.token ++ y ++ reason

theorem Issue.quotes_notice (l : Locale) (slot : Slot) (token : String) (fault : FieldFault) :
    ((field slot token fault).notice l).Quotes l slot (fault.say l) := by
  cases l with
  | en =>
    have hsay : (field slot token fault).say .en = Locale.en.label slot ++ (" field '" ++
        (token ++ ("' is invalid: " ++ (fault.say .en ++ "")))) := rfl
    refine ⟨" field '", "' is invalid: ", rfl, ?_⟩
    simp only [notice, hsay, Issue.token, String.append_assoc, String.append_empty]
  | zh =>
    have hsay : (field slot token fault).say .zh = Locale.zh.label slot ++ ("字段\"" ++
        (token ++ ("\"无效：" ++ (fault.say .zh ++ "")))) := rfl
    refine ⟨"字段\"", "\"无效：", rfl, ?_⟩
    simp only [notice, hsay, Issue.token, String.append_assoc, String.append_empty]

namespace Account

theorem tellCautions_eq (l : Locale) (e : Expression) :
    tellCautions l e.fields = .ok (e.warnings.map (·.caution l)) := by
  have hday : e.fields[3]? = some e.dayOfMonth := rfl
  have hweekday : e.fields[5]? = some e.dayOfWeek := rfl
  rw [tellCautions, Expression.warnings, hday, hweekday, Option.any_some, Option.any_some]
  cases e.dayOfMonth.isUnrestricted <;> cases e.dayOfWeek.isUnrestricted <;> rfl

theorem tellCount_eq (l : Locale) (source : String) (expected actual : Nat) :
    tellCount l source expected actual =
      .ok ((Issue.wrongCount expected actual (String.ofList (Text.trim source.toList))).notice l) := by
  have hmessage : l.format .wrongCount
      [(.expected, Text.ofNat expected), (.actual, Text.ofNat actual)] = .ok _ :=
    Locale.format_eq (by cases l <;> rfl)
  rw [tellCount, hmessage]
  rfl

theorem ofSlots_eq {ws : List (Slot × String)} {x : Except OverlongNumber Expression}
    (h : Expression.fields <$> x = ws.mapM fun w => Field.read w.1 w.2) (l : Locale) :
    ofSlots l ws = ((fun e => (Parsed.expression e).account l) <$> x).mapError .overlong := by
  simp only [ofSlots, Field.readIn_eq]
  rw [mapM_map_mapError (fun w : Slot × String => Field.read w.1 w.2), ← h]
  cases x with
  | error o => rfl
  | ok e =>
    have hfields : (e.fields.map fun f => (f, f.issue?.map (·.notice l))).map Prod.fst = e.fields := by
      rw [List.map_map]
      exact List.map_id _
    have hnotices : (e.fields.map fun f => (f, f.issue?.map (·.notice l))).filterMap Prod.snd =
        e.issues.map (·.notice l) := by
      rw [List.filterMap_map, Expression.issues, List.map_filterMap]
      rfl
    simp only [Functor.map, Except.map, Except.mapError, bind, Except.bind]
    rw [hfields, hnotices, tellCautions_eq]
    rfl

theorem ofSource_eq (tag : Option String) (source : String) (mode : Mode) :
    ofSource tag source mode =
      ((·.account (Locale.ofTag tag)) <$> parse source mode).mapError .overlong := by
  by_cases hn : mode.Takes (Expression.tokens source).length
  · obtain ⟨x, hp, hx, -⟩ := parse_of_takes hn
    have hslots := ofSlots_eq hx (Locale.ofTag tag)
    rw [ofSource, if_pos (by exact hn), hp, Functor.map_map]
    exact hslots
  · rw [ofSource, if_neg (by exact hn), parse_of_not_takes hn, tellCount_eq]
    rfl

/-- The two tell the same, if perhaps in other words. -/
structure Alike (a b : Account) : Prop where
  fields? : a.fields? = b.fields?
  isValid : a.isValid = b.isValid
  notices : a.notices.map Notice.about = b.notices.map Notice.about
  cautions : a.cautions.map (·.kind) = b.cautions.map (·.kind)

theorem alike_account (p : Parsed) (l l' : Locale) : (p.account l).Alike (p.account l') where
  fields? := rfl
  isValid := by
    simp only [isValid, Parsed.account, List.isEmpty_map]
  notices := by
    simp only [Parsed.account, List.map_map]
    rfl
  cautions := by
    simp only [Parsed.account, List.map_map]
    rfl

/-- A text is read alike for any two tags: with the same fields, the same verdict, and issues and warnings
of the same kinds about the same slots and tokens. The message for a field is the one of the language with
the label, the token and the reason put in as they are, and the reason is told without fail. -/
theorem ofSource_alike (source : String) (mode : Mode) (h : ¬ HasLongNumber source.toList) :
    ∃ p, parse source mode = .ok p ∧ ∀ tag tag', ∃ a b,
      ofSource tag source mode = .ok a ∧ ofSource tag' source mode = .ok b ∧ a.Alike b ∧
        a = p.account (Locale.ofTag tag) ∧
        ∀ n ∈ a.notices, ∀ slot, n.slot? = some slot →
          ∃ fault, .field slot n.token fault ∈ p.report.issues ∧
            fault.explain (Locale.ofTag tag) = .ok (fault.say (Locale.ofTag tag)) ∧
            n.Quotes (Locale.ofTag tag) slot (fault.say (Locale.ofTag tag)) := by
  cases hp : parse source mode with
  | error o => exact absurd (hasLongNumber_of_parse hp) h
  | ok p =>
    have hread (tag) : ofSource tag source mode = .ok (p.account (Locale.ofTag tag)) := by
      rw [ofSource_eq, hp]
      rfl
    refine ⟨p, rfl, fun tag tag' => ⟨_, _, hread tag, hread tag', alike_account p _ _, rfl, ?_⟩⟩
    intro n hn slot hslot
    obtain ⟨i, hi, rfl⟩ := List.mem_map.mp hn
    cases i with
    | wrongCount expected actual text => cases hslot
    | field s token fault =>
      cases hslot
      exact ⟨fault, hi, fault.explain_eq _, Issue.quotes_notice _ slot token fault⟩

/-- Tokens that look like placeholders. -/
theorem ofSource_alike_braces :
    ¬ HasLongNumber "\x7btoken\x7d \x7b\x7d-9 * ? \x7breason".toList ∧ ∃ a b,
      ofSource (some "zh-Hans") "\x7btoken\x7d \x7b\x7d-9 * ? \x7breason" .minutes = .ok a ∧
      ofSource none "\x7btoken\x7d \x7b\x7d-9 * ? \x7breason" .minutes = .ok b ∧ a.Alike b ∧
      a.notices.map (·.message) =
        ["分钟字段\"\x7btoken\x7d\"无效：\"\x7btoken\x7d\"不是数字",
          "小时字段\"\x7b\x7d-9\"无效：\"\x7b\x7d\"不是数字",
          "月份字段\"?\"无效：\"?\"只能用于日期或星期字段",
          "星期字段\"\x7breason\"无效：\"\x7breason\"不是数字"] := by
  have hshort : ¬ HasLongNumber "\x7btoken\x7d \x7b\x7d-9 * ? \x7breason".toList :=
    not_hasLongNumber (by decide)
  obtain ⟨p, -, hread⟩ := ofSource_alike "\x7btoken\x7d \x7b\x7d-9 * ? \x7breason" .minutes hshort
  obtain ⟨a, b, ha, hb, halike, -⟩ := hread (some "zh-Hans") none
  have hmessages : (ofSource (some "zh-Hans") "\x7btoken\x7d \x7b\x7d-9 * ? \x7breason"
      .minutes).toOption.map (·.notices.map (·.message)) =
        some ["分钟字段\"\x7btoken\x7d\"无效：\"\x7btoken\x7d\"不是数字",
          "小时字段\"\x7b\x7d-9\"无效：\"\x7b\x7d\"不是数字",
          "月份字段\"?\"无效：\"?\"只能用于日期或星期字段",
          "星期字段\"\x7breason\"无效：\"\x7breason\"不是数字"] := by
    decide +kernel
  rw [ha] at hmessages
  exact ⟨hshort, a, b, ha, hb, halike, Option.some.inj hmessages⟩

end Account

end CronSchedule
