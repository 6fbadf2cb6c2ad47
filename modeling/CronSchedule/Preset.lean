import CronSchedule.Expression.Rejection
import CronSchedule.Text.LowerCase

/-!
Schedules that go by a name.
-/

namespace CronSchedule

/-- The groups that presets are listed under. -/
inductive Category where
  | common
  | businessHours
  | maintenance
  | monitoring
  | special
deriving DecidableEq

namespace Category

def all : List Category :=
  [common, businessHours, maintenance, monitoring, special]

def name : Category → String
  | common => "common"
  | businessHours => "business_hours"
  | maintenance => "maintenance"
  | monitoring => "monitoring"
  | special => "special"

def ofName? (name : String) : Option Category :=
  all.find? (·.name = name)

end Category

structure Preset where
  key : String
  name : String
  source : String
  description : String
  category : Category
  mode : Mode

namespace Preset

def common : List Preset :=
  [⟨"every_minute", "Every minute", "* * * * *", "Runs once a minute", .common, .minutes⟩,
    ⟨"every_second", "Every second", "* * * * * *", "Runs once a second", .common, .seconds⟩,
    ⟨"every_5_min", "Every 5 minutes", "*/5 * * * *", "Runs every 5 minutes", .common, .minutes⟩,
    ⟨"every_15_min", "Every 15 minutes", "*/15 * * * *", "Runs every 15 minutes", .common,
      .minutes⟩,
    ⟨"every_30_min", "Every 30 minutes", "*/30 * * * *", "Runs every 30 minutes", .common,
      .minutes⟩,
    ⟨"hourly", "Hourly", "0 * * * *", "Minute 0 of every hour", .common, .minutes⟩,
    ⟨"daily", "Daily", "0 0 * * *", "Every day at midnight", .common, .minutes⟩,
    ⟨"weekly", "Weekly", "0 0 * * 0", "Sundays at midnight", .common, .minutes⟩,
    ⟨"monthly", "Monthly", "0 0 1 * *", "Midnight on the 1st", .common, .minutes⟩,
    ⟨"yearly", "Yearly", "0 0 1 1 *", "Midnight on January 1st", .common, .minutes⟩]

def businessHours : List Preset :=
  [⟨"weekdays_9am", "Weekdays 9 AM", "0 9 * * 1-5", "Monday to Friday at 9 AM", .businessHours,
      .minutes⟩,
    ⟨"weekdays_6pm", "Weekdays 6 PM", "0 18 * * 1-5", "Monday to Friday at 6 PM", .businessHours,
      .minutes⟩,
    ⟨"business_hours_hourly", "Hourly during business hours", "0 9-17 * * 1-5",
      "Every hour from 9 AM to 5 PM on weekdays", .businessHours, .minutes⟩,
    ⟨"lunch_break", "Lunch break", "0 12 * * 1-5", "Weekdays at noon", .businessHours, .minutes⟩]

def maintenance : List Preset :=
  [⟨"nightly_backup", "Daily backup", "0 2 * * *", "Every day at 2 AM", .maintenance, .minutes⟩,
    ⟨"weekly_backup", "Weekly backup", "0 3 * * 0", "Sundays at 3 AM", .maintenance, .minutes⟩,
    ⟨"monthly_backup", "Monthly backup", "0 4 1 * *", "4 AM on the 1st", .maintenance, .minutes⟩,
    ⟨"log_cleanup", "Log cleanup", "0 1 * * *", "Every day at 1 AM", .maintenance, .minutes⟩,
    ⟨"saturday_maintenance", "System maintenance", "0 5 * * 6", "Saturdays at 5 AM", .maintenance,
      .minutes⟩]

def monitoring : List Preset :=
  [⟨"health_check", "Health check", "*/10 * * * *", "Every 10 minutes", .monitoring, .minutes⟩,
    ⟨"daily_report", "Daily report", "0 8 * * 1-5", "Weekdays at 8 AM", .monitoring, .minutes⟩,
    ⟨"weekly_report", "Weekly report", "0 9 * * 1", "Mondays at 9 AM", .monitoring, .minutes⟩,
    ⟨"monthly_report", "Monthly report", "0 10 1 * *", "10 AM on the 1st", .monitoring, .minutes⟩]

def special : List Preset :=
  [⟨"weekends_10am", "Weekend task", "0 10 * * 6,0", "Saturdays and Sundays at 10 AM", .special,
      .minutes⟩,
    ⟨"month_end", "Month end", "0 23 28-31 * *", "11 PM on the 28th to the 31st", .special,
      .minutes⟩,
    ⟨"quarterly", "Quarterly", "0 0 1 1,4,7,10 *", "Midnight on the first day of each quarter",
      .special, .minutes⟩]

/-- The whole catalog in order. -/
def all : List Preset :=
  common ++ businessHours ++ maintenance ++ monitoring ++ special

/-- The key that a name stands for: case does not count, nor which of the two dashes is used. -/
def keyOf (name : String) : String :=
  String.ofList ((Text.lower name).toList.map fun c => if c = '-' then '_' else c)

def ofName? (name : String) : Option Preset :=
  all.find? (·.key = keyOf name)

/-- The presets of one category, or all of them. -/
def listed : Option Category → List Preset
  | none => all
  | some c => all.filter (·.category = c)

def expression (p : Preset) : Except ExpressionError Expression :=
  Expression.ofSource p.source p.mode

end Preset

end CronSchedule
