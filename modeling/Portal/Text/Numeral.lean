/-! Whole numbers written as text, read as the language's integer conversion reads them:
blanks around the number, an optional sign, then decimal digits with single `_` between
them. A digit may be a decimal digit of any script, so `٣` reads as three. The blanks are
the six ASCII ones and the Unicode spaces beyond ASCII; the ASCII separators `\x1c` to `\x1f`
are not blanks here. -/
namespace Portal
namespace Text

def decimalZeros : List Nat :=
  [0x30, 0x660, 0x6F0, 0x7C0, 0x966, 0x9E6, 0xA66, 0xAE6, 0xB66, 0xBE6, 0xC66, 0xCE6, 0xD66,
    0xDE6, 0xE50, 0xED0, 0xF20, 0x1040, 0x1090, 0x17E0, 0x1810, 0x1946, 0x19D0, 0x1A80, 0x1A90,
    0x1B50, 0x1BB0, 0x1C40, 0x1C50, 0xA620, 0xA8D0, 0xA900, 0xA9D0, 0xA9F0, 0xAA50, 0xABF0,
    0xFF10, 0x104A0, 0x10D30, 0x11066, 0x110F0, 0x11136, 0x111D0, 0x112F0, 0x11450, 0x114D0,
    0x11650, 0x116C0, 0x11730, 0x118E0, 0x11950, 0x11C50, 0x11D50, 0x11DA0, 0x16A60, 0x16AC0,
    0x16B50, 0x1D7CE, 0x1D7D8, 0x1D7E2, 0x1D7EC, 0x1D7F6, 0x1E140, 0x1E2F0, 0x1E950, 0x1FBF0]

def digitValue? (c : Char) : Option Nat :=
  let n := c.toNat
  (decimalZeros.find? fun z => z ≤ n && n < z + 10).map (n - ·)

def isNumberBlank (c : Char) : Bool :=
  let n := c.toNat
  n = 0x20 || (0x09 ≤ n && n ≤ 0x0d) || n = 0x85 || n = 0xa0 || n = 0x1680 ||
    (0x2000 ≤ n && n ≤ 0x200a) || n = 0x2028 || n = 0x2029 || n = 0x202f || n = 0x205f ||
    n = 0x3000

def digitRun? (cs : List Char) : Option Nat :=
  let ok := !cs.isEmpty && cs.head? != some '_' && cs.getLast? != some '_' &&
    cs.all (fun c => c == '_' || (digitValue? c).isSome) &&
    !((cs.zip (cs.drop 1)).any fun (a, b) => a == '_' && b == '_')
  if ok then some (cs.foldl (fun n c => ((digitValue? c).map (n * 10 + ·)).getD n) 0) else none

def readInteger? (s : String) : Option Int :=
  match ((s.toList.dropWhile isNumberBlank).reverse.dropWhile isNumberBlank).reverse with
  | '-' :: rest => (digitRun? rest).map fun n => -(n : Int)
  | '+' :: rest => (digitRun? rest).map fun n => (n : Int)
  | rest => (digitRun? rest).map fun n => (n : Int)

end Text
end Portal
