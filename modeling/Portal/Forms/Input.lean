import Portal.Clock
import Portal.Text.Numeral
/-! Reading typed values from submitted text: stripping blanks, whole numbers, and
date-times. A whole number may carry a sign, blanks around it, `_` between digits and a
trailing `.000`. A date-time is tried first as ISO 8601 (with one- or two-digit month, day,
hour and minute allowed), then against the accepted layouts: year-month-day or
month/day/year, optionally followed by a time, and dates with month names. -/
namespace Portal
namespace Text

def isSpace (c : Char) : Bool :=
  let n := c.toNat
  n = 0x20 || (0x09 ≤ n && n ≤ 0x0d) || (0x1c ≤ n && n ≤ 0x1f) || n = 0x85 || n = 0xa0 ||
    n = 0x1680 || (0x2000 ≤ n && n ≤ 0x200a) || n = 0x2028 || n = 0x2029 || n = 0x202f ||
    n = 0x205f || n = 0x3000

def strip (s : String) : String :=
  String.ofList ((s.toList.dropWhile isSpace).reverse.dropWhile isSpace).reverse

end Text

namespace Forms

def dropZeroFraction (s : String) : String :=
  let cs := s.toList.reverse
  let cs' := cs.dropWhile Text.isSpace
  let cs'' := cs'.dropWhile (· == '0')
  match cs'' with
  | '.' :: rest => String.ofList rest.reverse
  | _ => s

def intOf? (s : String) : Option Int := Text.readInteger? s

def wholeNumber? (s : String) : Option Int := intOf? (dropZeroFraction s)

inductive Piece where
  | lit (c : Char)
  | blank
  | year4 | year2 | month | day | hour | minute | second | fraction
  | monthAbbr | monthName
  deriving BEq

def monthNames : List String :=
  ["january", "february", "march", "april", "may", "june", "july", "august", "september",
    "october", "november", "december"]

def lower (cs : List Char) : List Char := cs.map Char.toLower

def numberOf (cs : List Char) : Nat := cs.foldl (fun n c => n * 10 + (c.toNat - 48)) 0

def candidates (p : Piece) (cs : List Char) : List (Nat × List Char) :=
  let d (k : Nat) : Option (List Char) :=
    if (cs.take k).length = k && (cs.take k).all Char.isDigit then some (cs.take k) else none
  let two (ok : List Char → Bool) : List (Nat × List Char) :=
    match d 2 with
    | some ds => if ok ds then [(numberOf ds, cs.drop 2)] else []
    | none => []
  let one : List (Nat × List Char) :=
    match d 1 with
    | some ds => [(numberOf ds, cs.drop 1)]
    | none => []
  match p with
  | .year4 => match d 4 with | some ds => [(numberOf ds, cs.drop 4)] | none => []
  | .year2 => two fun _ => true
  | .month =>
    two (fun ds => ds.head? == some '1' && numberOf ds ≤ 12) ++
    two (fun ds => ds.head? == some '0' && numberOf ds ≥ 1) ++
    (one.filter (·.1 ≥ 1))
  | .day =>
    two (fun ds => ds.head? == some '3' && numberOf ds ≤ 31) ++
    two (fun ds => ds.head? == some '1' || ds.head? == some '2') ++
    two (fun ds => ds.head? == some '0' && numberOf ds ≥ 1) ++
    (one.filter (·.1 ≥ 1)) ++
    (match cs with
     | ' ' :: c :: rest => if c.isDigit && c != '0' then [(c.toNat - 48, rest)] else []
     | _ => [])
  | .hour =>
    two (fun ds => ds.head? == some '2' && numberOf ds ≤ 23) ++
    two (fun ds => ds.head? == some '0' || ds.head? == some '1') ++ one
  | .minute => two (fun ds => numberOf ds ≤ 59) ++ one
  | .second => two (fun ds => ds.head? == some '6' && numberOf ds ≤ 61) ++
      two (fun ds => numberOf ds ≤ 59) ++ one
  | .fraction =>
    let n := min 6 (cs.takeWhile Char.isDigit).length
    (List.range n).reverse.map fun i =>
      let ds := cs.take (i + 1)
      (numberOf (ds ++ List.replicate (5 - i) '0'), cs.drop (i + 1))
  | .monthAbbr =>
    ((List.range 12).filter fun i => lower (cs.take 3) == (monthNames.getD i "").toList.take 3).map
      fun i => (i + 1, cs.drop 3)
  | .monthName =>
    let byLength := (List.range 12).mergeSort fun i j =>
      (monthNames.getD i "").length ≥ (monthNames.getD j "").length
    (byLength.filter fun i =>
      let n := (monthNames.getD i "").toList
      lower (cs.take n.length) == n).map fun i => (i + 1, cs.drop (monthNames.getD i "").length)
  | .blank =>
    let n := (cs.takeWhile Text.isSpace).length
    if n = 0 then [] else [(0, cs.drop n)]
  | .lit c => match cs with
    | x :: rest => if x == c then [(0, rest)] else []
    | [] => []

def readLayout : List Piece → List Char → Option (List (Piece × Nat) × List Char)
  | [], cs => some ([], cs)
  | p :: ps, cs =>
    (candidates p cs).findSome? fun (v, rest) =>
      (readLayout ps rest).map fun (vs, left) => ((p, v) :: vs, left)

def layoutOf (s : String) : List Piece :=
  let rec go : List Char → List Piece
    | '%' :: c :: rest =>
      let p := match c with
        | 'Y' => Piece.year4 | 'y' => .year2 | 'm' => .month | 'd' => .day | 'H' => .hour
        | 'M' => .minute | 'S' => .second | 'f' => .fraction | 'b' => .monthAbbr
        | 'B' => .monthName | other => .lit other
      p :: go rest
    | ' ' :: rest => .blank :: go rest
    | c :: rest => .lit c :: go rest
    | [] => []
  go s.toList

def dateTimeLayouts : List String :=
  ["%Y-%m-%d %H:%M:%S", "%Y-%m-%d %H:%M:%S.%f", "%Y-%m-%d %H:%M", "%m/%d/%Y %H:%M:%S",
    "%m/%d/%Y %H:%M:%S.%f", "%m/%d/%Y %H:%M", "%m/%d/%y %H:%M:%S", "%m/%d/%y %H:%M:%S.%f",
    "%m/%d/%y %H:%M", "%Y-%m-%d", "%m/%d/%Y", "%m/%d/%y", "%b %d %Y", "%b %d, %Y",
    "%d %b %Y", "%d %b, %Y", "%B %d %Y", "%B %d, %Y", "%d %B %Y", "%d %B, %Y"]

def byLayout (layout : String) (s : String) : Option Moment := do
  let (vals, left) ← readLayout (layoutOf layout) s.toList
  if !left.isEmpty then none else
  let get (p : Piece) : Option Nat := (vals.find? (·.1 == p)).map (·.2)
  let year : Int := match get .year4, get .year2 with
    | some y, _ => y
    | none, some y => if y < 69 then 2000 + y else 1900 + y
    | none, none => 1900
  let month := ((get .month).orElse fun _ => (get .monthAbbr).orElse fun _ => get .monthName).getD 1
  let day := (get .day).getD 1
  if day > Civil.monthDays year month then none else
  let hour := (get .hour).getD 0
  let minute := (get .minute).getD 0
  let second := (get .second).getD 0
  if second > 59 then none else
  let micro := (get .fraction).getD 0
  let t : Int := Civil.toDays year month day * Instant.day +
    (((hour * 3600 + minute * 60 + second) * 1000000 + micro : Nat) : Int)
  some (Moment.utc t)

def looseIso (s : String) : Except Unit (Option Moment) :=
  let cs := s.toList
  let num (xs : List Char) (lo hi : Nat) : Option Nat :=
    if lo ≤ xs.length && xs.length ≤ hi && xs.all Char.isDigit then some (numberOf xs) else none
  let (datePart, rest) := (cs.takeWhile (fun c => c != ' ' && c != 'T'), cs.dropWhile (fun c => c != ' ' && c != 'T'))
  match datePart.splitOn '-', rest with
  | [y, m, d], _ :: timeAll =>
    match num y 4 4, num m 1 2, num d 1 2 with
    | some y, some m, some d =>
      let cut := timeAll.findIdx fun c => c == 'Z' || c == '+' || c == '-' || Text.isSpace c
      let (tm, tail) := (timeAll.take cut, (timeAll.drop cut).dropWhile Text.isSpace)
      let (hmPart, frac) := match tm.splitOn '.' with
        | [a, b] => (a, some b)
        | _ => match tm.splitOn ',' with
          | [a, b] => (a, some b)
          | _ => (tm, none)
      let fields := hmPart.splitOn ':'
      let parsed : Option (Nat × Nat × Nat) := match fields with
        | [h, mi] => do pure (← num h 1 2, ← num mi 1 2, 0)
        | [h, mi, sec] => do pure (← num h 1 2, ← num mi 1 2, ← num sec 1 2)
        | _ => none
      let fracOk := match frac, fields with
        | none, _ => true
        | some f, [_, _, _] => 1 ≤ f.length && f.length ≤ 12 && f.all Char.isDigit
        | some _, _ => false
      let offset : Option (Option Int) := match tail with
        | [] => some none
        | ['Z'] => some (some 0)
        | sign :: digits =>
          if sign != '+' && sign != '-' then none else
          let v := match digits with
            | [a, b] => (num [a, b] 2 2).map (· * 60)
            | [a, b, ':', c, e] => do pure ((← num [a, b] 2 2) * 60 + (← num [c, e] 2 2))
            | [a, b, c, e] => do pure ((← num [a, b] 2 2) * 60 + (← num [c, e] 2 2))
            | _ => none
          v.map fun mins => some (if sign == '-' then -(mins : Int) else mins)
      match parsed, offset, fracOk with
      | some (h, mi, sec), some off, true =>
        if m = 0 || m > 12 || d = 0 || d > Civil.monthDays y m || h > 23 || mi > 59 || sec > 59 then
          .error ()
        else
          let micro := match frac with
            | some f => numberOf ((f.take 6) ++ List.replicate (6 - min 6 f.length) '0')
            | none => 0
          let wall : Int := Civil.toDays y m d * Instant.day +
            (((h * 3600 + mi * 60 + sec) * 1000000 + micro : Nat) : Int)
          match off with
          | none => .ok (some (Moment.utc wall))
          | some o => .ok (some ⟨wall - o * 60 * Instant.second, o * 60⟩)
      | _, _, _ => .ok none
    | _, _, _ => .ok none
  | _, _ => .ok none

def readMoment (s : String) : Except Unit Moment := do
  let s := Text.strip s
  match Iso.parse s with
  | some (m, _) => return m
  | none =>
    match ← looseIso s with
    | some m => return m
    | none =>
      match dateTimeLayouts.findSome? (byLayout · s) with
      | some m => return m
      | none => throw ()

end Forms
end Portal
