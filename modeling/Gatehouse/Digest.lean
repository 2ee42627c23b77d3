/-!
# Digests

A fingerprint of bytes with a hundred and sixty bits. The bytes are filled up to whole blocks of
sixteen words, with their size at the end; each block stirs five words in eighty rounds, and the
stirred words are added to those before the block.
-/

namespace Gatehouse.Digest

structure Words where
  a : UInt32
  b : UInt32
  c : UInt32
  d : UInt32
  e : UInt32
  deriving DecidableEq

namespace Words

def start : Words :=
  { a := 0x67452301, b := 0xefcdab89, c := 0x98badcfe, d := 0x10325476, e := 0xc3d2e1f0 }

def add (left right : Words) : Words :=
  { a := left.a + right.a, b := left.b + right.b, c := left.c + right.c, d := left.d + right.d
    e := left.e + right.e }

end Words

def turn (count : UInt32) (word : UInt32) : UInt32 :=
  (word <<< count) ||| (word >>> (32 - count))

def mix (round : Nat) (words : Words) : UInt32 × UInt32 :=
  if round < 20 then ((words.b &&& words.c) ||| (~~~words.b &&& words.d), 0x5a827999)
  else if round < 40 then (words.b ^^^ words.c ^^^ words.d, 0x6ed9eba1)
  else if round < 60 then
    ((words.b &&& words.c) ||| (words.b &&& words.d) ||| (words.c &&& words.d), 0x8f1bbcdc)
  else (words.b ^^^ words.c ^^^ words.d, 0xca62c1d6)

def stir (round : Nat) (word : UInt32) (words : Words) : Words :=
  let (mixed, constant) := mix round words
  { a := turn 5 words.a + mixed + words.e + constant + word
    b := words.a, c := turn 30 words.b, d := words.c, e := words.d }

def nextWord (window : List UInt32) : UInt32 :=
  turn 1 (window.getD 13 0 ^^^ window.getD 8 0 ^^^ window.getD 2 0 ^^^ window.getD 0 0)

def stirAll : Nat → List UInt32 → Words → Words
  | 0, _, words => words
  | left + 1, window, words =>
      stirAll left (window.drop 1 ++ [nextWord window])
        (stir (80 - (left + 1)) (window.getD 0 0) words)

def block (words : Words) (window : List UInt32) : Words :=
  words.add (stirAll 80 window words)

def bytesOf : Nat → Nat → List UInt8
  | 0, _ => []
  | width + 1, value => bytesOf width (value / 256) ++ [UInt8.ofNat (value % 256)]

def fill (bytes : List UInt8) : List UInt8 :=
  let size := bytes.length
  bytes ++ 0x80 :: List.replicate ((119 - size % 64) % 64) 0 ++ bytesOf 8 (size * 8)

def wordsOf : List UInt8 → List UInt32
  | first :: second :: third :: fourth :: rest =>
      ((first.toUInt32 <<< 24) ||| (second.toUInt32 <<< 16) ||| (third.toUInt32 <<< 8) |||
        fourth.toUInt32) :: wordsOf rest
  | _ => []

def blocks : Nat → Words → List UInt32 → Words
  | 0, words, _ => words
  | count + 1, words, content => blocks count (block words (content.take 16)) (content.drop 16)

def ofBytes (bytes : List UInt8) : List UInt8 :=
  let content := wordsOf (fill bytes)
  let words := blocks (content.length / 16) .start content
  [words.a, words.b, words.c, words.d, words.e].flatMap fun word => bytesOf 4 word.toNat

theorem length_fill (bytes : List UInt8) : (fill bytes).length % 64 = 0 := by
  have size : ∀ value, (bytesOf 8 value).length = 8 := by intro value; simp [bytesOf]
  simp only [fill, List.length_append, List.length_cons, List.length_replicate, size]
  omega

example : ofBytes [] = bytesOf 20 0xda39a3ee5e6b4b0d3255bfef95601890afd80709 := by decide +kernel
example : ofBytes [0x61, 0x62, 0x63] =
    bytesOf 20 0xa9993e364706816aba3e25717850c26c9cd0d89d := by decide +kernel

end Gatehouse.Digest
