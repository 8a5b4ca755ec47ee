import Portal.Digest.Sha256
/-! MD5 (RFC 1321) over byte lists. The message is padded with one `0x80` byte, zeros, and
its bit length as eight little-endian bytes, to a multiple of 64 bytes; each block is read
as sixteen little-endian words and runs four rounds of sixteen steps, each step adding a
sine constant and a word chosen by the round, then rotating by the step's amount. -/
namespace Portal
namespace Digest

def sineConstants : Array UInt32 := #[
  0xd76aa478, 0xe8c7b756, 0x242070db, 0xc1bdceee, 0xf57c0faf, 0x4787c62a, 0xa8304613, 0xfd469501,
  0x698098d8, 0x8b44f7af, 0xffff5bb1, 0x895cd7be, 0x6b901122, 0xfd987193, 0xa679438e, 0x49b40821,
  0xf61e2562, 0xc040b340, 0x265e5a51, 0xe9b6c7aa, 0xd62f105d, 0x02441453, 0xd8a1e681, 0xe7d3fbc8,
  0x21e1cde6, 0xc33707d6, 0xf4d50d87, 0x455a14ed, 0xa9e3e905, 0xfcefa3f8, 0x676f02d9, 0x8d2a4c8a,
  0xfffa3942, 0x8771f681, 0x6d9d6122, 0xfde5380c, 0xa4beea44, 0x4bdecfa9, 0xf6bb4b60, 0xbebfbc70,
  0x289b7ec6, 0xeaa127fa, 0xd4ef3085, 0x04881d05, 0xd9d4d039, 0xe6db99e5, 0x1fa27cf8, 0xc4ac5665,
  0xf4292244, 0x432aff97, 0xab9423a7, 0xfc93a039, 0x655b59c3, 0x8f0ccc92, 0xffeff47d, 0x85845dd1,
  0x6fa87e4f, 0xfe2ce6e0, 0xa3014314, 0x4e0811a1, 0xf7537e82, 0xbd3af235, 0x2ad7d2bb, 0xeb86d391]

def rotations (i : Nat) : UInt32 :=
  let table : List UInt32 := match i / 16 with
    | 0 => [7, 12, 17, 22]
    | 1 => [5, 9, 14, 20]
    | 2 => [4, 11, 16, 23]
    | _ => [6, 10, 15, 21]
  table.getD (i % 4) 0

def rotl (x : UInt32) (n : UInt32) : UInt32 := (x <<< n) ||| (x >>> (32 - n))

def paddedLittle (msg : List UInt8) : List UInt8 :=
  let len := msg.length
  let zeros := (119 - len % 64) % 64
  msg ++ [0x80] ++ List.replicate zeros 0 ++
    (List.range 8).map fun i => ((len * 8) / Nat.pow 2 (8 * i) % 256).toUInt8

def littleWordAt (bytes : Array UInt8) (i : Nat) : UInt32 :=
  (List.range 4).reverse.foldl (fun acc k => (acc <<< 8) ||| (bytes.getD (i + k) 0).toUInt32) 0

structure Quad where
  a : UInt32
  b : UInt32
  c : UInt32
  d : UInt32

def md5Step (m : Array UInt32) (s : Quad) (i : Nat) : Quad :=
  let (f, g) := match i / 16 with
    | 0 => ((s.b &&& s.c) ||| (~~~s.b &&& s.d), i)
    | 1 => ((s.d &&& s.b) ||| (~~~s.d &&& s.c), (5 * i + 1) % 16)
    | 2 => (s.b ^^^ s.c ^^^ s.d, (3 * i + 5) % 16)
    | _ => (s.c ^^^ (s.b ||| ~~~s.d), (7 * i) % 16)
  let f := f + s.a + sineConstants.getD i 0 + m.getD g 0
  { a := s.d, b := s.b + rotl f (rotations i), c := s.b, d := s.c }

def md5Block (bytes : Array UInt8) (st : Quad) (base : Nat) : Quad :=
  let m := ((List.range 16).map fun t => littleWordAt bytes (base + 4 * t)).toArray
  let r := (List.range 64).foldl (md5Step m) st
  { a := st.a + r.a, b := st.b + r.b, c := st.c + r.c, d := st.d + r.d }

def littleBytes (x : UInt32) : List UInt8 :=
  [x.toUInt8, (x >>> 8).toUInt8, (x >>> 16).toUInt8, (x >>> 24).toUInt8]

def md5 (msg : List UInt8) : List UInt8 :=
  let bytes := (paddedLittle msg).toArray
  let blocks := bytes.size / 64
  let start : Quad := ⟨0x67452301, 0xefcdab89, 0x98badcfe, 0x10325476⟩
  let r := (List.range blocks).foldl (fun st k => md5Block bytes st (64 * k)) start
  littleBytes r.a ++ littleBytes r.b ++ littleBytes r.c ++ littleBytes r.d

end Digest
end Portal
