import Mathlib
import Portal.Scripts.Agent
/-! The colouring log formatter. Formatting puts the coloured form of the level name into the
record itself, before the plain formatting runs and whatever becomes of it, so a record is left
changed: exactly when its level name is one of the five the formatter colours. The coloured form
is none of those five, so a second formatting changes the record no further and gives the first
outcome less the banners of an error or a warning, which the formatter keys on the name it reads.
Main statement: `formatTwice`. -/
namespace Portal.ColouredLevels
open Scripts

theorem colouredLevels {n c : String} (h : levelColour n = some c) :
    n = "DEBUG" ∨ n = "INFO" ∨ n = "WARNING" ∨ n = "ERROR" ∨ n = "CRITICAL" := by
  unfold levelColour at h
  split at h <;> simp_all

theorem colourOfColoured (n : String) : levelColour (colouredName n) = none := by
  cases known : levelColour n with
  | none => rw [colouredName, known]; exact known
  | some c =>
    rcases colouredLevels known with rfl | rfl | rfl | rfl | rfl <;> decide

@[simp] theorem colouredNameTwice (n : String) : colouredName (colouredName n) = colouredName n := by
  rw [colouredName.eq_def (colouredName n), colourOfColoured]

theorem colouredNameSame (n : String) : colouredName n = n ↔ levelColour n = none := by
  cases known : levelColour n with
  | none => simp [colouredName, known]
  | some c =>
    simp only [reduceCtorEq, iff_false]
    rcases colouredLevels known with rfl | rfl | rfl | rfl | rfl <;> decide

theorem colouredNotBannered (n : String) : bannered (colouredName n) = false := by
  cases known : levelColour n with
  | none =>
    rw [colouredName, known]
    dsimp only
    unfold bannered
    have notError : n ≠ "ERROR" := by rintro rfl; cases known
    have notWarning : n ≠ "WARNING" := by rintro rfl; cases known
    simp [notError, notWarning]
  | some c => rcases colouredLevels known with rfl | rfl | rfl | rfl | rfl <;> decide

@[simp] theorem formatRecordAfter (f : ColouredFormatter) (r : LogRecord) :
    (f.format r).2 = { r with levelname := colouredName r.levelname } := rfl

theorem formatOutcome (f : ColouredFormatter) (r : LogRecord) :
    (f.format r).1 = (formatPlain f.fmt { r with levelname := colouredName r.levelname }).map
      fun t => if bannered r.levelname then banner t else t := rfl

theorem formatColoured (f : ColouredFormatter) (r : LogRecord) :
    f.format { r with levelname := colouredName r.levelname } =
      (formatPlain f.fmt { r with levelname := colouredName r.levelname },
        { r with levelname := colouredName r.levelname }) := by
  have plain := colouredNotBannered r.levelname
  simp only [ColouredFormatter.format, colouredNameTwice, plain, Bool.false_eq_true, if_false]
  rw [show (fun text : String => text) = id from rfl, Except.map_id]
  rfl

theorem formatTwice (f : ColouredFormatter) (r : LogRecord) :
    (f.format r).2 = { r with levelname := colouredName r.levelname } ∧
    ((f.format r).2.levelname = r.levelname ↔ levelColour r.levelname = none) ∧
    (f.format (f.format r).2).2 = (f.format r).2 ∧
    (f.format r).1 = (f.format (f.format r).2).1.map fun t => if bannered r.levelname then banner t else t := by
  have again := formatColoured f r
  rw [formatRecordAfter]
  refine ⟨rfl, colouredNameSame r.levelname, by rw [again], ?_⟩
  rw [again, formatOutcome]

theorem errorRecordRecoloured :
    let f : ColouredFormatter := ⟨"%(levelname)s %(message)s", by decide⟩
    let r := LogRecord.make (.str "ERROR") (.str "m") []
    (f.format r).2.levelname ≠ r.levelname ∧ (f.format (f.format r).2).1 ≠ (f.format r).1 := by
  intro f r
  have first : (f.format r).1 = .ok (banner "\x1b[31m\x1b[1mERROR\x1b[0m m") := by
    simp only [f, r]
    rfl
  have second : (f.format (f.format r).2).1 = .ok "\x1b[31m\x1b[1mERROR\x1b[0m m" := by
    rw [formatRecordAfter, formatColoured]
    simp only [f, r]
    rfl
  refine ⟨by decide, fun same => ?_⟩
  rw [first, second] at same
  exact absurd (Except.ok.inj same) (by decide)

end Portal.ColouredLevels
