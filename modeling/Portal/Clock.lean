/-! Instants and calendar text. An instant is a count of microseconds since
1970-01-01T00:00:00 UTC; a `Moment` is an instant seen at a fixed UTC offset.
Text follows ISO 8601 with a `+HH:MM` offset and microseconds only when non-zero. -/
namespace Portal

abbrev Instant := Int

namespace Instant

def second : Int := 1000000
def day : Int := 86400 * second

def start : Instant := 1735689600 * second

def ofSeconds (s : Int) : Instant := s * second

def toSeconds (t : Instant) : Int := t.fdiv second

end Instant

structure Moment where
  instant : Instant
  offset : Int := 0
  deriving DecidableEq, Repr, Inhabited

namespace Civil

def ofDays (z : Int) : Int × Nat × Nat :=
  let z := z + 719468
  let era := z.fdiv 146097
  let doe := z - era * 146097
  let yoe := (doe - doe / 1460 + doe / 36524 - doe / 146096) / 365
  let y := yoe + era * 400
  let doy := doe - (365 * yoe + yoe / 4 - yoe / 100)
  let mp := (5 * doy + 2) / 153
  let d := doy - (153 * mp + 2) / 5 + 1
  let m := if mp < 10 then mp + 3 else mp - 9
  ((if m ≤ 2 then y + 1 else y), m.toNat, d.toNat)

def toDays (y : Int) (m d : Nat) : Int :=
  let y := if m ≤ 2 then y - 1 else y
  let era := y.fdiv 400
  let yoe := y - era * 400
  let mi : Int := m
  let doy := (153 * (if mi > 2 then mi - 3 else mi + 9) + 2) / 5 + d - 1
  let doe := yoe * 365 + yoe / 4 - yoe / 100 + doy
  era * 146097 + doe - 719468

def isLeap (y : Int) : Bool := (y % 4 = 0 ∧ y % 100 ≠ 0) ∨ y % 400 = 0

def monthDays (y : Int) (m : Nat) : Nat :=
  match m with
  | 2 => if isLeap y then 29 else 28
  | 4 | 6 | 9 | 11 => 30
  | _ => 31

def weekday (days : Int) : Nat := ((days + 3) % 7).toNat

end Civil

namespace Text

def pad (width : Nat) (n : Nat) : String :=
  let s := toString n
  String.ofList (List.replicate (width - s.length) '0') ++ s

end Text

structure Fields where
  year : Int
  month : Nat
  day : Nat
  hour : Nat
  minute : Nat
  second : Nat
  micro : Nat
  deriving Repr

namespace Moment

def utc (t : Instant) : Moment := ⟨t, 0⟩

def fields (m : Moment) : Fields :=
  let wall := m.instant + m.offset * Instant.second
  let days := wall.fdiv Instant.day
  let rest := (wall - days * Instant.day).toNat
  let (y, mo, d) := Civil.ofDays days
  let secs := rest / 1000000
  { year := y, month := mo, day := d, hour := secs / 3600, minute := secs / 60 % 60,
    second := secs % 60, micro := rest % 1000000 }

def offsetText (offset : Int) : String :=
  let sign := if offset < 0 then "-" else "+"
  let a := offset.natAbs
  let base := sign ++ Text.pad 2 (a / 3600) ++ ":" ++ Text.pad 2 (a / 60 % 60)
  if a % 60 = 0 then base else base ++ ":" ++ Text.pad 2 (a % 60)

def dateText (f : Fields) : String :=
  let y := if f.year < 0 then "-" ++ Text.pad 4 f.year.natAbs else Text.pad 4 f.year.toNat
  y ++ "-" ++ Text.pad 2 f.month ++ "-" ++ Text.pad 2 f.day

def timeText (f : Fields) : String :=
  Text.pad 2 f.hour ++ ":" ++ Text.pad 2 f.minute ++ ":" ++ Text.pad 2 f.second ++
    (if f.micro = 0 then "" else "." ++ Text.pad 6 f.micro)

def iso (m : Moment) : String :=
  let f := m.fields
  dateText f ++ "T" ++ timeText f ++ offsetText m.offset

def stored (m : Moment) : String :=
  let f := (utc m.instant).fields
  dateText f ++ " " ++ timeText f

def toUtc (m : Moment) : Moment := utc m.instant

def clockText (m : Moment) : String :=
  let f := m.fields
  Text.pad 2 f.hour ++ ":" ++ Text.pad 2 f.minute ++ ":" ++ Text.pad 2 f.second

def secondsText (m : Moment) : String := dateText m.fields ++ " " ++ m.clockText

end Moment

namespace Iso

def digitsVal (cs : List Char) : Option Nat :=
  if cs.isEmpty ∨ ¬cs.all Char.isDigit then none
  else some (cs.foldl (fun n c => n * 10 + (c.toNat - 48)) 0)

def timeOf (cs : List Char) : Option (Nat × Nat × Nat × Nat) := do
  let (hms, frac) := match cs.splitOn ',' with
    | [a, b] => (a, some b)
    | _ => match cs.splitOn '.' with
      | [a, b] => (a, some b)
      | _ => (cs, none)
  let parts := if hms.contains ':' then hms.splitOn ':' else
    if hms.length = 6 then [hms.take 2, (hms.drop 2).take 2, hms.drop 4]
    else if hms.length = 4 then [hms.take 2, hms.drop 2] else [hms]
  let nums ← parts.mapM fun p => if p.length = 2 then digitsVal p else none
  let (h, mi, s) ← match nums with
    | [h] => some (h, 0, 0)
    | [h, m] => some (h, m, 0)
    | [h, m, s] => some (h, m, s)
    | _ => none
  let micro ← match frac with
    | none => some 0
    | some f =>
      if f.isEmpty ∨ ¬f.all Char.isDigit then none
      else
        let f6 := (f.take 6) ++ List.replicate (6 - min 6 f.length) '0'
        digitsVal f6
  if h > 23 ∨ mi > 59 ∨ s > 59 then none else some (h, mi, s, micro)

def offsetOf (cs : List Char) : Option Int :=
  match cs with
  | ['Z'] => some 0
  | sign :: rest =>
    if sign ≠ '+' ∧ sign ≠ '-' then none else do
    let (h, m, s, _) ← timeOf rest
    let v : Int := h * 3600 + m * 60 + s
    if v ≥ 86400 then none else some (if sign = '-' then -v else v)
  | [] => none

def dateOf (cs : List Char) : Option (Int × Nat × Nat) := do
  let (y, m, d) ← if cs.length = 10 ∧ cs[4]? = some '-' ∧ cs[7]? = some '-' then
      some (cs.take 4, (cs.drop 5).take 2, cs.drop 8)
    else if cs.length = 8 then some (cs.take 4, (cs.drop 4).take 2, cs.drop 6) else none
  let y ← digitsVal y
  let m ← digitsVal m
  let d ← digitsVal d
  if y = 0 ∨ m = 0 ∨ m > 12 ∨ d = 0 ∨ d > Civil.monthDays y m then none else some (y, m, d)

def parse (s : String) : Option (Moment × Bool) := do
  let cs := s.toList
  let dateLen := if cs.length ≥ 10 ∧ cs[4]? = some '-' then 10 else 8
  let (y, mo, d) ← dateOf (cs.take dateLen)
  let rest := cs.drop dateLen
  let days := Civil.toDays y mo d
  match rest with
  | [] => some (⟨days * Instant.day, 0⟩, false)
  | sep :: tm =>
    if sep ≠ 'T' ∧ sep ≠ ' ' then none else
    let cut := tm.findIdx (fun c => c = '+' ∨ c = '-' ∨ c = 'Z')
    let (timePart, offPart) := (tm.take cut, tm.drop cut)
    let (h, mi, sec, micro) ← timeOf timePart
    let wall : Int := days * Instant.day + ((h * 3600 + mi * 60 + sec) * 1000000 + micro : Nat)
    if offPart.isEmpty then some (⟨wall, 0⟩, false) else do
      let off ← offsetOf offPart
      some (⟨wall - off * Instant.second, off⟩, true)

end Iso
end Portal
