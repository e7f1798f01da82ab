/-
# Marks, writing direction and joining of characters

Three properties that the rules for labels look at: whether a character is a
combining mark, the direction in which it is written, and how a cursive letter
joins its neighbours.
-/

import ServiceReadiness.Text.PackedTable

namespace ServiceReadiness
namespace Domain

/-- The direction classes that the rules for labels tell apart. -/
inductive Direction where
  | leftToRight
  | rightToLeft
  | arabicNumber
  | europeanNumber
  /-- Separators, terminators and other neutral characters. -/
  | neutral
  | mark
  | other
  deriving DecidableEq, Repr

/-- How a cursive letter joins its neighbours. -/
inductive Joining where
  | none
  | left
  | both
  | right
  | transparent
  deriving DecidableEq, Repr

/-- Combining marks: gap and length of each run. -/
def markRows : List String :=
  ["300 6f 114 6 108 2c 2 0 2 1 2 1 2 0 49 a 31 14 11 0 66 6 3 5 3 1 2 3 24 0 1f 1a 5c a 3b 8 a",
   "0 19 3 2 8 2 2 2 4 2c 2 3c 8 2b 17 2 20 37 2 2 11 2 6 b 1 1e 2 39 0 2 6 3 1 3 2 a 0 b 1 1b 0",
   "3 2 39 0 2 4 5 1 3 2 4 0 1f 1 4 0 c 2 39 0 2 7 2 2 2 2 15 1 17 5 2 2 39 0 2 6 3 1 3 2 8 2 b",
   "1 1f 0 3c 4 4 2 2 3 a 0 29 4 38 0 2 6 2 2 2 3 8 1 c 1 1e 2 39 0 2 6 2 2 2 3 8 1 c 1 10 0 d 3",
   "38 1 2 6 2 2 2 3 a 0 b 1 1e 2 47 0 5 5 2 0 2 7 13 1 3e 0 3 6 d 7 63 0 3 8 c 6 4a 1 1c 0 2 0",
   "2 0 5 1 32 13 2 1 6 a 2 23 a 0 65 13 18 3 5 2 2 2 3 6 4 3 e b 2 0 b 3 2c0 2 3b3 3 1d 2 1e 1",
   "1f 1 41 1f a 0 2e 2 2 0 76 1 23 0 77 b 5 b dc 4 3a 9 2 1c 3 0 31 2d 3 b 15 4 30 10 27 8 d 2",
   "1f c 39 d 31 13 99 2 2 14 5 0 7 0 3 2 c7 3f 2d1 20 bff 2 8e 0 61 1f 22b 5 6a 1 75d5 3 2 9 21",
   "1 51 1 111 0 4 0 5 0 18 4 5 0 54 1 33 11 1b 11 e 0 27 7 1a c 2d 3 30 d 25 0 44 d d 0 9 1 2e",
   "2 33 0 2 2 3 1 6 1 2 0 2a 4 6 1 ed 7 2 1 4f31 0 2e2 f 11 f 3ce 0 e3 0 96 4 687 2 2 1 6 3 29",
   "2 5 0 a6 1 23e 3 42 4 13e 1 4e 5 47 a 32 3 7b 2 36 e 2a 0 3 1 b 3 2e a 8 0 3e 2 25 d 11 1 2d",
   "0 d 2 31 d 9 3 2 1 5d b 7 0 3 0 9e b 16 3 38 1 2 6 3 1 3 2 a 0 b 1 3 6 4 4 44 8 2 0 3 0 2 3",
   "2 4 2 0 f 1 53 11 18 0 52 13 ec 6 3 8 1c 1 53 10 6b c 66 e 101 e f6 5 2 1 3 3 2 0 2 1 8e 6 3",
   "6 4 0 1d 9 29 6 2 3 9 0 a a 2f f c7 7 c8 7 2 7 53 15 2 d 7b 5 4 0 2 1 2 6 2 0 43 4 2 1 2 4",
   "15c 3 a 1 2 0 31 6 4 4 18 0 14e6 0 7 e 2cc9 11 9c1 4 3c 6 419 0 2 36 8 3 52 0 c 1 4cac 1",
   "1262 2d 3 16 21f 4 4 5 9 7 3 6 1f 3 95 2 7bc 36 5 31 9 0 f 0 17 4 2 e 551 6 2 10 3 6 2 1 2 4",
   "65 0 a1 6 178 0 3e 3 1fd 3 ff 1 f4 0 3 0 8 1 6 0 1db 6 6e 6 c17b6 ef"]

/-- Directions other than left to right: gap, length and class of each run. -/
def directionRows : List String :=
  ["0 8 4 1 4 6 1 d 4 1 4 6 1 e 4 1 9 3 1 6 4 1b 5 4 1b 9 4 1 0 6 1 23 4 2 6 4 1 1 3 1 0 4 2 2 4",
   "1 0 3 2 4 4 18 0 4 20 0 4 1c2 1 4 8 d 4 3 d 4 6 8 4 2 10 4 1 6f 5 5 1 4 9 0 4 6 1 4 2 0 4 6f",
   "0 4 8d 6 5 101 0 4 3 2 4 2 2c 5 1 0 1 1 0 5 1 0 1 1 1 5 1 0 1 1 1 5 1 0 1 1 0 5 9 1a 1 5 5 1",
   "c 5 2 1 1 4 1 0 1 1 1 4 1 0 1 1 0 4 1 0 1 1 1 4 1 a 5 1 2f 1 1 14 5 1 9 2 1 0 4 1 1 2 1 2 1",
   "1 0 5 1 64 1 1 6 5 1 0 2 1 0 4 1 5 5 1 1 1 1 1 5 1 0 4 1 3 5 1 1 1 1 9 3 1 13 1 2 1 1 1 0 5",
   "1 1d 1 1 1a 5 3 58 1 1 a 5 1 0 1 f 2a 1 1 8 5 1 1 1 1 3 4 1 0 1 3 0 5 1 17 1 1 3 5 1 0 1 1 8",
   "5 1 0 1 1 2 5 1 0 1 1 4 5 3 e 1 2 18 1 1 2 5 3 0 1 2 a 1 6 1e 1 2 1 2 7 7 5 1 29 1 1 17 5 1",
   "0 2 1 1f 5 38 0 5 2 0 5 5 7 5 5 0 5 4 6 5 b 1 5 1e 0 5 3b 0 5 5 3 5 9 0 5 15 1 5 f 1 4 8 0 4",
   "3 0 5 3 1 5 3a 0 5 5 1 5 5 1 5 3 2 5 4 0 5 1f 1 5 4 0 5 c 1 5 3a 0 5 5 4 5 2 1 5 5 0 5 15 1",
   "5 e 0 4 9 5 5 2 0 5 3b 0 5 3 0 5 2 3 5 9 0 5 8 1 5 c 1 5 1f 0 5 3e 0 5 d 0 5 26 7 4 6 0 5 4",
   "0 5 38 0 5 2 2 5 6 2 5 2 3 5 8 1 5 c 1 5 15 6 4 3 0 5 3b 0 5 10 1 5 15 1 5 1d 1 5 3a 1 5 5 3",
   "5 9 0 5 15 1 5 1e 0 5 49 0 5 8 2 5 2 0 5 5b 0 5 3 6 5 5 0 4 8 7 5 63 0 5 3 8 5 c 5 5 4b 1 5",
   "1c 0 5 2 0 5 2 0 5 1 3 4 34 d 5 2 4 5 2 1 5 6 a 5 2 23 5 a 0 5 67 3 5 2 5 5 2 1 5 3 1 5 1a 1",
   "5 5 2 5 11 3 5 e 0 5 3 1 5 7 0 5 10 0 5 2c0 2 5 31 9 4 67 0 4 280 0 6 1b 1 4 76 2 5 1e 1 5",
   "1f 1 5 1f 1 5 41 1 5 2 6 5 9 0 5 3 a 5 8 0 4 2 0 5 13 9 4 7 a 4 1 2 5 1 0 4 1 0 5 76 1 5 23",
   "0 5 77 2 5 5 1 5 a 0 5 7 2 5 5 0 4 4 1 4 99 21 4 18 1 5 3 0 5 3b 0 5 2 6 5 2 0 5 2 0 5 3 7 5",
   "7 9 5 3 0 5 31 1e 5 32 3 5 31 0 5 2 4 5 2 0 5 6 0 5 29 8 5 d 1 5 21 3 5 3 1 5 2 2 5 39 0 5 2",
   "1 5 4 0 5 2 2 5 3b 7 5 3 1 5 99 2 5 2 c 5 2 6 5 5 0 5 7 0 5 4 1 5 c7 3f 5 1be 0 4 2 2 4 c 2",
   "4 e 2 4 e 2 4 e 1 4 2 a 6 1 2 4 2 0 1 1 17 4 1 6 6 1 2f 4 1 0 6 1 4 4 2 3 6 1 5 4 1 0 3 4 5",
   "3 1 4 4 2 9 3 1 4 4 12 20 4 10 20 5 10 1 4 2 3 4 2 1 4 b 0 4 2 2 4 6 5 4 2 0 4 2 0 4 2 0 4 5",
   "0 4 c 1 4 5 4 4 6 3 4 3 f 4 2a 2 4 5 1a5 4 46 19 4 2 90 4 1a a 4 16 27 4 1 13 3 4f 1c1 4 2",
   "152 4 101 273 4 3 1f 4 2 68 4 e6 5 4 5 2 5 8 6 4 80 0 5 61 1f 5 1 5d 4 23 19 4 2 58 4 d d5 4",
   "1b b 4 5 0 6 1 3 4 4 18 4 a 3 5 3 0 4 6 1 4 6 2 4 5a 1 5 1 1 4 4 0 4 5b 0 4 c5 23 4 3a 1 4",
   "32 f 4 1d 2 4 33 e 4 d 3 4 a8 3 4 64 1 4 20 0 4 19c1 3f 4 5691 36 4 147 2 4 60 3 5 1 0 4 1 9",
   "5 1 1 4 1f 1 5 51 1 5 f 21 4 67 0 4 7a 0 5 4 0 5 5 0 5 1a 1 5 2 3 4 1 0 5 c 1 4 3b 3 4 4d 1",
   "5 1b 11 5 e 0 5 27 7 5 1a a 5 2f 2 5 31 0 5 3 3 5 3 1 5 28 0 5 44 5 5 3 1 5 3 1 5 d 0 5 9 0",
   "5 30 0 5 34 0 5 2 2 5 3 1 5 6 1 5 2 0 5 2b 1 5 9 0 5 74 1 4 7a 0 5 3 0 5 5 0 5 4f30 0 1 1 0",
   "5 1 9 1 1 0 4 1 c 1 2 4 1 2 0 1 2 1 1 2 1 1 2 7c 1 11 16a 1 1 11 4 1 3f 1 3 35 1 8 0 4 21 c",
   "1 1 2 4 1 f 5 1 9 4 7 f 5 1 22 4 2 12 4 2 3 4 5 4 1 2 86 1 3 0 4 2 e 4 1 9 3 1 6 4 1b 5 4 1b",
   "a 4 7b 6 4 2 6 4 b 4 4 104 0 4 3f 4c 4 4 c 4 4 0 4 5d 0 5 e3 0 5 1 1a 3 7b 4 5 486 5 1 3 0 1",
   "2 2b 1 2 1 1 4 0 1 3 16 1 2 47 1 9 8 1 31 12 1 2 1 1 6 20 1 4 0 4 1 19 1 6 0 1 41 37 1 5 13",
   "1 3 2e 1 1 2 5 2 1 5 6 3 5 1 3 1 2 2 1 2 1c 1 3 2 5 5 0 5 1 8 1 8 8 1 8 3f 1 21 24 1 1 1 5 5",
   "b 1 a 35 1 4 6 4 1 15 1 3 1a 1 6 19 1 8 3 1 d 6 1 51 48 1 38 32 1 e 32 1 8 29 1 1 3 5 9 9 2",
   "127 1e 2 2 29 1 2 1 5 1 0 1 3 1 1 4f 27 1 9 15 1 1 a 5 1 8 1 17 11 1 1 3 5 1 3 1 27 1b 1 15",
   "16 1 b 0 5 37 e 5 c 13 4 b 0 5 3 1 5 b 2 5 32 3 5 3 1 5 8 0 5 3e 2 5 25 4 5 2 7 5 3f 0 5 d 1",
   "5 35 8 5 b 3 5 3 0 5 60 2 5 3 0 5 2 1 5 7 0 5 a1 0 5 4 7 5 16 1 5 3a 1 5 4 0 5 26 6 5 4 4 5",
   "c4 7 5 3 2 5 2 0 5 18 0 5 55 5 5 2 0 5 5 1 5 2 1 5 ef 3 5 7 1 5 2 1 5 1c 1 5 56 7 5 3 0 5 2",
   "1 5 20 c 4 3f 0 5 2 0 5 3 5 5 2 0 5 66 2 5 3 3 5 2 4 5 104 8 5 2 1 5 101 1 5 2 0 5 5 0 5 91",
   "3 5 3 1 5 5 0 5 21 5 5 3 1 5 29 5 5 3 3 5 9 0 5 a 5 5 3 2 5 2f c 5 2 1 5 197 6 5 2 5 5 55 15",
   "5 3 6 5 2 1 5 2 1 5 7b 5 5 4 0 5 2 1 5 2 6 5 2 0 5 49 1 5 4 0 5 2 0 5 15c 1 5 e1 1c 4 4aff 4",
   "5 3c 6 5 419 0 5 40 3 5 50 0 4 2 0 5 4cb9 1 5 2 3 4 125d 2d 5 3 16 5 221 2 5 a 7 4 1 7 5 3 6",
   "5 1f 3 5 3c 1 4 16 41 4 1 2 5 1 0 4 bb 56 4 385 0 4 3a 0 4 3a 0 4 3a 0 4 3a 0 4 b 31 3 201",
   "36 5 5 31 5 9 0 5 f 0 5 17 4 5 2 e 5 551 6 5 2 10 5 3 6 5 2 1 5 2 4 5 106 6 5 178 0 5 3e 3 5",
   "10 0 4 501 c4 1 3 8 1 1 6 5 2a 43 1 1 6 5 1 0 1 5 9 1 5 1 1 312 43 1 4d 3c 1 c3 3 1 2 1a 1 2",
   "1 1 2 0 1 3 0 1 2 9 1 2 3 1 2 0 1 2 0 1 7 0 1 5 0 1 2 0 1 2 0 1 2 2 1 2 1 1 2 0 1 3 0 1 2 0",
   "1 2 0 1 2 0 1 2 0 1 2 1 1 2 0 1 3 3 1 2 6 1 2 3 1 2 3 1 2 0 1 2 9 1 2 10 1 6 2 1 2 4 1 2 10",
   "1 35 1 4 10f 2b 4 5 63 4 d e 4 3 e 4 2 e 4 2 24 4 b a 3 1 4 4 20 0 4 3b 5 4 3e 0 4 b3 5 4 9b",
   "3d7 4 6 f 4 4 c 4 4 73 4 d 58 4 8 b 4 5 0 4 10 b 4 5 37 4 9 9 4 7 27 4 9 1d 4 3 1 4 4f 153 4",
   "d d 4 3 4 4 4 4 4 4 6 4 a 1c 4 4 a 4 6 5 4 b 9 4 7 7 4 9 6 4 a 92 4 2 36 4 26 9 3 c0408 0 4",
   "1f 5f 4 81 ef 5"]

/-- Joining types: gap, length and type of each run. -/
def joiningRows : List String :=
  ["ad 0 4 253 6f 4 114 6 4 108 2c 4 2 0 4 2 1 4 2 1 4 2 0 4 49 a 4 2 0 4 4 0 2 2 3 3 1 0 2 1 0",
   "3 1 0 2 1 0 3 1 4 2 1 3 3 1 c 2 2 6 2 1 0 3 1 1 2 1 14 4 f 1 2 1 0 4 1 2 3 2 2 3 1 f 2 1 11",
   "3 1 25 2 1 0 3 1 1 2 1 8 3 1 0 2 1 0 3 1 0 2 1 0 3 1 1 2 1 1 3 2 0 3 1 6 4 3 5 4 3 1 4 2 3 4",
   "1 1 3 b 2 2 3 0 2 10 0 4 1 0 3 1 0 4 1 2 2 1 4 3 1 3 2 1 0 3 1 8 2 1 0 3 1 0 2 1 0 3 1 0 2 1",
   "0 3 1 1 2 1 0 3 1 1a 4 3 0 3 1 a 2 1 2 3 1 e 2 1 1 3 1 3 2 1 0 3 1 0 2 1 1 3 1 2 2 1 1 3 1 5",
   "2 27 a 4 1a 20 2 1 8 4 a 0 4 19 3 4 2 8 4 2 2 4 2 4 4 13 0 3 1 4 2 1 1 3 1 0 2 1 0 3 1 9 2 1",
   "0 3 1 0 2 1 2 3 1 2 4 5 0 2 2 3 2 2 0 3 1 0 2 1 1 3 6 12 3 4 0 2 3 4 2 1 0 3 1 0 2 8 8 4 1 9",
   "2 1 2 3 2 0 3 1 1 2 1 1 3 1 5 2 1 0 3 1 e 2 2 17 4 2 1f 4 38 0 4 2 0 4 5 7 4 5 0 4 4 6 4 b 1",
   "4 1e 0 4 3b 0 4 5 3 4 9 0 4 15 1 4 1b 0 4 3 1 4 3a 0 4 5 1 4 5 1 4 3 2 4 4 0 4 1f 1 4 4 0 4",
   "c 1 4 3a 0 4 5 4 4 2 1 4 5 0 4 15 1 4 17 5 4 2 0 4 3b 0 4 3 0 4 2 3 4 9 0 4 8 1 4 c 1 4 1f 0",
   "4 3e 0 4 d 0 4 33 0 4 4 0 4 38 0 4 2 2 4 6 2 4 2 3 4 8 1 4 c 1 4 1e 0 4 3b 0 4 3 0 4 7 0 4 6",
   "1 4 15 1 4 1d 1 4 3a 1 4 5 3 4 9 0 4 15 1 4 1e 0 4 49 0 4 8 2 4 2 0 4 5b 0 4 3 6 4 d 7 4 63",
   "0 4 3 8 4 c 6 4 4a 1 4 1c 0 4 2 0 4 2 0 4 38 d 4 2 4 4 2 1 4 6 a 4 2 23 4 a 0 4 67 3 4 2 5 4",
   "2 1 4 3 1 4 1a 1 4 5 2 4 11 3 4 e 0 4 3 1 4 7 0 4 10 0 4 2c0 2 4 3b3 2 4 1e 1 4 1f 1 4 1f 1",
   "4 41 1 4 2 6 4 9 0 4 3 a 4 a 0 4 2a 0 2 4 2 4 2 0 4 11 58 2 d 1 4 1 21 2 1 0 4 1 0 2 76 2 4",
   "5 1 4 a 0 4 7 2 4 dc 1 4 3 0 4 3b 0 4 2 6 4 2 0 4 2 0 4 3 7 4 7 9 4 3 0 4 31 2d 4 3 b 4 15 3",
   "4 31 0 4 2 4 4 2 0 4 6 0 4 29 8 4 d 1 4 21 3 4 3 1 4 2 2 4 39 0 4 2 1 4 4 0 4 2 2 4 3b 7 4 3",
   "1 4 99 2 4 2 c 4 2 6 4 5 0 4 7 0 4 4 1 4 c7 3f 4 20c 0 4 3 1 4 1b 4 4 32 4 4 6 5 4 61 20 4",
   "bff 2 4 8e 0 4 61 1f 4 22b 3 4 6c 1 4 75d5 3 4 2 9 4 21 1 4 51 1 4 111 0 4 4 0 4 5 0 4 1a 1",
   "4 6 0 4 14 31 2 1 0 1 52 1 4 1b 11 4 e 0 4 27 7 4 1a a 4 2f 2 4 31 0 4 3 3 4 3 1 4 28 0 4 44",
   "5 4 3 1 4 3 1 4 d 0 4 9 0 4 30 0 4 34 0 4 2 2 4 3 1 4 6 1 4 2 0 4 2b 1 4 9 0 4 ef 0 4 3 0 4",
   "5 0 4 4f31 0 4 2e2 f 4 11 f 4 d0 0 4 fa 2 4 202 0 4 e3 0 4 96 4 4 687 2 4 2 1 4 6 3 4 29 2 4",
   "5 0 4 81 4 2 1 0 3 2 0 3 2 1 3 3 0 1 1 4 3 1 3 2 1 0 1 1 4 2 1 0 3 1 2 2 1 0 3 3 0 3 1 1 4 5",
   "3 2 1 0 3 91 0 2 1 0 3 1 0 2 1 2 3 1 2 2 1 0 3 1 1 2 1 0 3 1 0 2 1 1 3 1 0 2 1 0 3 18 3 3 1",
   "1 2 152 0 1 1 20 2 1 0 3 1 0 2 1 3 4 42 4 4 13e 1 4 16 0 3 1 1 2 2 1 2 33 5 4 31 2 2 1 0 3 1",
   "10 2 2 a 4 1 2 2 1 0 3 1c 3 2 1 1 3 1 b 2 1 3 4 2b 0 2 2 1 2 1 2 3 2 0 2 1 1 3 1 1 2 1 0 3 1",
   "1 2 2 0 2 1 1 3 1 0 2 5 0 3 1 0 2 1 0 1 36 0 4 37 e 4 2a 0 4 3 1 4 b 2 4 32 3 4 3 1 4 8 0 4",
   "3e 2 4 25 4 4 2 7 4 3f 0 4 d 1 4 35 8 4 b 3 4 3 0 4 60 2 4 3 0 4 2 1 4 7 0 4 3 0 4 9e 0 4 4",
   "7 4 16 1 4 3a 1 4 4 0 4 26 6 4 4 4 4 47 5 4 e 0 4 2 0 4 2 0 4 f 1 4 56 7 4 3 2 4 2 0 4 18 0",
   "4 55 5 4 2 0 4 5 1 4 2 1 4 ef 3 4 7 1 4 2 1 4 1c 1 4 56 7 4 3 0 4 2 1 4 6b 0 4 2 0 4 3 5 4 2",
   "0 4 66 0 4 2 0 4 3 3 4 2 4 4 104 8 4 2 1 4 101 1 4 2 0 4 5 0 4 91 3 4 3 1 4 5 0 4 21 9 4 29",
   "5 4 3 3 4 9 0 4 a 5 4 3 2 4 2f c 4 2 1 4 c7 0 4 2 2 4 2 0 4 ca 6 4 2 5 4 2 0 4 53 15 4 3 6 4",
   "2 1 4 2 1 4 7b 5 4 4 0 4 2 1 4 2 6 4 2 0 4 49 1 4 4 0 4 2 0 4 15c 1 4 c 1 4 35 4 4 6 0 4 2 0",
   "4 18 0 4 14d6 10 4 7 e 4 2cc9 b 4 4 2 4 9c1 4 4 3c 6 4 419 0 4 40 3 4 52 0 4 4cb9 1 4 2 3 4",
   "125d 2d 4 3 16 4 221 2 4 a f 4 3 6 4 1f 3 4 95 2 4 7bc 36 4 5 31 4 9 0 4 f 0 4 17 4 4 2 e 4",
   "551 6 4 2 10 4 3 6 4 2 1 4 2 4 4 65 0 4 a1 6 4 178 0 4 3e 3 4 1fd 3 4 ff 1 4 f4 0 4 3 0 4 8",
   "1 4 6 0 4 1db 6 4 2a 43 2 1 7 4 c16b6 0 4 1f 5f 4 81 ef 4"]

/-- The runs of combining marks. -/
def marks : Array (Nat × Nat) := (PackedTable.ranges 0 (PackedTable.unpack markRows)).toArray

/-- The runs of characters that are not written from left to right. -/
def directions : Array PackedTable.Valued :=
  (PackedTable.valued 0 (PackedTable.unpack directionRows)).toArray

/-- The runs of characters that join their neighbours. -/
def joinings : Array PackedTable.Valued :=
  (PackedTable.valued 0 (PackedTable.unpack joiningRows)).toArray

/-- A combining mark. -/
def isMark (c : Char) : Bool := 0x300 ≤ c.toNat && PackedTable.inRanges marks c.toNat

/-- The direction of a character. -/
def direction (c : Char) : Direction :=
  match PackedTable.valueIn directions c.toNat with
  | 0 => .leftToRight
  | 1 => .rightToLeft
  | 2 => .arabicNumber
  | 3 => .europeanNumber
  | 4 => .neutral
  | 5 => .mark
  | _ => .other

/-- The joining type of a character. -/
def joining (c : Char) : Joining :=
  match PackedTable.valueIn joinings c.toNat with
  | 1 => .left
  | 2 => .both
  | 3 => .right
  | 4 => .transparent
  | _ => .none

end Domain
end ServiceReadiness
