import Portal.Json.Write
/-! SHA-256 (FIPS 180-4) over byte lists, and the keyed hash HMAC-SHA256 (RFC 2104) built on
it. The message is padded with one `0x80` byte, zeros, and its bit length as eight
big-endian bytes, to a multiple of 64 bytes; each 64-byte block extends a 64-word schedule
and runs the 64 compression rounds. -/
namespace Portal
namespace Digest

def roundConstants : Array UInt32 := #[
  0x428a2f98, 0x71374491, 0xb5c0fbcf, 0xe9b5dba5, 0x3956c25b, 0x59f111f1, 0x923f82a4, 0xab1c5ed5,
  0xd807aa98, 0x12835b01, 0x243185be, 0x550c7dc3, 0x72be5d74, 0x80deb1fe, 0x9bdc06a7, 0xc19bf174,
  0xe49b69c1, 0xefbe4786, 0x0fc19dc6, 0x240ca1cc, 0x2de92c6f, 0x4a7484aa, 0x5cb0a9dc, 0x76f988da,
  0x983e5152, 0xa831c66d, 0xb00327c8, 0xbf597fc7, 0xc6e00bf3, 0xd5a79147, 0x06ca6351, 0x14292967,
  0x27b70a85, 0x2e1b2138, 0x4d2c6dfc, 0x53380d13, 0x650a7354, 0x766a0abb, 0x81c2c92e, 0x92722c85,
  0xa2bfe8a1, 0xa81a664b, 0xc24b8b70, 0xc76c51a3, 0xd192e819, 0xd6990624, 0xf40e3585, 0x106aa070,
  0x19a4c116, 0x1e376c08, 0x2748774c, 0x34b0bcb5, 0x391c0cb3, 0x4ed8aa4a, 0x5b9cca4f, 0x682e6ff3,
  0x748f82ee, 0x78a5636f, 0x84c87814, 0x8cc70208, 0x90befffa, 0xa4506ceb, 0xbef9a3f7, 0xc67178f2]

def initialState : Array UInt32 :=
  #[0x6a09e667, 0xbb67ae85, 0x3c6ef372, 0xa54ff53a, 0x510e527f, 0x9b05688c, 0x1f83d9ab, 0x5be0cd19]

def rotr (x : UInt32) (n : UInt32) : UInt32 := (x >>> n) ||| (x <<< (32 - n))

def padded (msg : List UInt8) : List UInt8 :=
  let len := msg.length
  let zeros := (119 - len % 64) % 64
  msg ++ [0x80] ++ List.replicate zeros 0 ++
    (List.range 8).reverse.map fun i => ((len * 8) / Nat.pow 2 (8 * i) % 256).toUInt8

def wordAt (bytes : Array UInt8) (i : Nat) : UInt32 :=
  (List.range 4).foldl (fun acc k => (acc <<< 8) ||| (bytes.getD (i + k) 0).toUInt32) 0

def schedule (bytes : Array UInt8) (base : Nat) : Array UInt32 :=
  let first := ((List.range 16).map fun t => wordAt bytes (base + 4 * t)).toArray
  (List.range 48).foldl (fun w t =>
    let i := t + 16
    let x := w.getD (i - 15) 0
    let y := w.getD (i - 2) 0
    let s0 := rotr x 7 ^^^ rotr x 18 ^^^ (x >>> 3)
    let s1 := rotr y 17 ^^^ rotr y 19 ^^^ (y >>> 10)
    w.push (w.getD (i - 16) 0 + s0 + w.getD (i - 7) 0 + s1)) first

structure Working where
  a : UInt32
  b : UInt32
  c : UInt32
  d : UInt32
  e : UInt32
  f : UInt32
  g : UInt32
  h : UInt32

def round (w : Array UInt32) (s : Working) (t : Nat) : Working :=
  let s1 := rotr s.e 6 ^^^ rotr s.e 11 ^^^ rotr s.e 25
  let ch := (s.e &&& s.f) ^^^ (~~~s.e &&& s.g)
  let t1 := s.h + s1 + ch + roundConstants.getD t 0 + w.getD t 0
  let s0 := rotr s.a 2 ^^^ rotr s.a 13 ^^^ rotr s.a 22
  let maj := (s.a &&& s.b) ^^^ (s.a &&& s.c) ^^^ (s.b &&& s.c)
  let t2 := s0 + maj
  { a := t1 + t2, b := s.a, c := s.b, d := s.c, e := s.d + t1, f := s.e, g := s.f, h := s.g }

def compress (state : Array UInt32) (w : Array UInt32) : Array UInt32 :=
  let v (i : Nat) := state.getD i 0
  let start : Working := ⟨v 0, v 1, v 2, v 3, v 4, v 5, v 6, v 7⟩
  let r := (List.range 64).foldl (round w) start
  #[v 0 + r.a, v 1 + r.b, v 2 + r.c, v 3 + r.d, v 4 + r.e, v 5 + r.f, v 6 + r.g, v 7 + r.h]

def wordBytes (x : UInt32) : List UInt8 :=
  [(x >>> 24).toUInt8, (x >>> 16).toUInt8, (x >>> 8).toUInt8, x.toUInt8]

def sha256 (msg : List UInt8) : List UInt8 :=
  let bytes := (padded msg).toArray
  let blocks := bytes.size / 64
  let final := (List.range blocks).foldl (fun st k => compress st (schedule bytes (64 * k))) initialState
  (final.toList.map wordBytes).flatten

def hmacSha256 (key msg : List UInt8) : List UInt8 :=
  let k := if key.length > 64 then sha256 key else key
  let k := k ++ List.replicate (64 - k.length) 0
  let inner := sha256 (k.map (· ^^^ 0x36) ++ msg)
  sha256 (k.map (· ^^^ 0x5c) ++ inner)

def hex (bytes : List UInt8) : String := String.join (bytes.map fun b => Text.hexPad 2 b.toNat)

def utf8 (s : String) : List UInt8 := s.toUTF8.toList

end Digest
end Portal
