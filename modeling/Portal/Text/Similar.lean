/-! How alike two texts are, for suggesting a name close to a mistyped one. The matching
characters are found block by block: the longest common block (the earliest in the first
text, then in the second, among equally long ones), then the same on each side of it.
The likeness is twice the matched characters over both lengths; names at least 0.6 alike
are close, the likest first, and among equally alike ones the greater name first.

When the second text has 200 characters or more, a character occurring in it more than
one time in a hundred, plus one, is not used to start or extend a block. -/
namespace Portal
namespace Text

def longestBlock (a b : Array Char) (usable : Char → Bool) (alo ahi blo bhi : Nat) : Nat × Nat × Nat :=
  let positions (c : Char) : List Nat :=
    if usable c then (List.range b.size).filter fun j => b.getD j ' ' == c else []
  let (_, best) := (List.range (ahi - alo)).foldl (fun (acc : List (Nat × Nat) × (Nat × Nat × Nat)) d =>
    let (runs, best) := acc
    let i := alo + d
    let js := (positions (a.getD i ' ')).filter fun j => blo ≤ j && j < bhi
    js.foldl (fun (acc : List (Nat × Nat) × (Nat × Nat × Nat)) j =>
      let (next, best) := acc
      let k := (((runs.find? (·.1 + 1 == j)).map (·.2)).getD 0) + 1
      let best := if k > best.2.2 then (i + 1 - k, j + 1 - k, k) else best
      (next ++ [(j, k)], best)) ([], best)
      |> fun (next, best) => (next, best)) ([], (alo, blo, 0))
  best

def matchedCount (a b : Array Char) (usable : Char → Bool) : Nat → Nat → Nat → Nat → Nat → Nat
  | 0, _, _, _, _ => 0
  | fuel + 1, alo, ahi, blo, bhi =>
    let (i, j, k) := longestBlock a b usable alo ahi blo bhi
    if k == 0 then 0
    else
      k + (if alo < i && blo < j then matchedCount a b usable fuel alo i blo j else 0) +
        (if i + k < ahi && j + k < bhi then matchedCount a b usable fuel (i + k) ahi (j + k) bhi else 0)

def likeness (s t : String) : Nat × Nat :=
  let a := s.toList.toArray
  let b := t.toList.toArray
  let n := b.size
  let usable (c : Char) : Bool := n < 200 || (b.toList.filter (· == c)).length ≤ n / 100 + 1
  (matchedCount a b usable (a.size + b.size + 1) 0 a.size 0 b.size, a.size + b.size)

def closeMatches (word : String) (names : List String) : List String :=
  let scored := names.filterMap fun x =>
    let (m, total) := likeness x word
    if total > 0 && 10 * (2 * m) ≥ 6 * total then some (x, 2 * m, total) else none
  let sorted := scored.mergeSort fun (x, m, t) (y, m', t') =>
    m * t' > m' * t || (m * t' == m' * t && decide (y ≤ x))
  (sorted.take 3).map (·.1)

end Text
end Portal
