/-
# The mapping of domain characters

Before a domain name is looked at, each character of it is kept, dropped,
replaced or refused.  ASCII letters become lower case and the rest of ASCII is
kept; the tables here are for all other characters.  A character in none of them
is refused.  The rows are packed; the functions at the end unpack them.
-/

import ServiceReadiness.Text.PackedTable

namespace ServiceReadiness
namespace Domain
namespace Mapping

/-- Characters that are kept: gap and length of each run. -/
def keptRows : List String :=
  ["a1 6 2 0 2 1 2 0 2 1 5 1 4 0 4 0 18 0 8 20 2 0 2 0 2 0 2 0 2 0 2 0 2 0 2 0 2 0 2 0 2 0 2 0 2",
   "0 2 0 2 0 2 0 2 0 2 0 2 0 2 0 2 0 2 0 2 0 2 0 2 0 4 0 2 1 2 0 2 0 2 0 4 0 2 0 2 0 2 0 3 0 2",
   "0 2 0 2 0 2 0 2 0 2 0 2 0 2 0 2 0 2 0 2 0 2 0 2 0 2 0 2 0 2 0 2 0 2 0 2 0 2 0 2 0 2 0 3 0 2",
   "0 2 0 2 0 3 0 2 0 3 0 4 1 5 0 3 0 4 2 3 0 3 0 2 0 2 0 3 0 2 1 2 0 3 0 4 0 2 0 3 2 2 6 b 0 2",
   "0 2 0 2 0 2 0 2 0 2 0 2 1 2 0 2 0 2 0 2 0 2 0 2 0 2 0 2 0 2 1 5 0 4 0 2 0 2 0 2 0 2 0 2 0 2",
   "0 2 0 2 0 2 0 2 0 2 0 2 0 2 0 2 0 2 0 2 0 2 0 2 0 2 0 2 0 2 0 2 0 2 0 2 0 2 0 2 0 2 0 2 0 2",
   "6 3 0 3 1 2 0 5 0 2 0 2 0 2 0 2 60 a 1e 7 1 6 5a 3 0 4 8 2 1f 2 0 2 0 2 0 2 0 4 2 13 0 1c 22",
   "9 0 2 0 2 0 2 0 2 0 2 0 2 0 2 0 2 0 2 0 2 0 2 0 2 0 4 0 3 0 2 0 3 1 34 2f 2 0 2 0 2 0 2 0 2",
   "0 2 0 2 0 2 0 2 0 2 0 2 0 2 0 2 0 2 0 2 0 2 0 2 8 2 0 2 0 2 0 2 0 2 0 2 0 2 0 2 0 2 0 2 0 2",
   "0 2 0 2 0 2 0 2 0 2 0 2 0 2 0 2 0 2 0 2 0 2 0 2 0 2 0 2 0 2 0 2 0 3 0 2 0 2 0 2 0 2 0 2 0 2",
   "1 2 0 2 0 2 0 2 0 2 0 2 0 2 0 2 0 2 0 2 0 2 0 2 0 2 0 2 0 2 0 2 0 2 0 2 0 2 0 2 0 2 0 2 0 2",
   "0 2 0 2 0 2 0 2 0 2 0 2 0 2 0 2 0 2 0 2 0 2 0 2 0 2 0 2 0 2 0 2 0 2 0 2 0 2 0 2 0 2 0 2 0 2",
   "0 2 0 2 0 2a 2d 2 2 3 2 2 36 9 1a 5 5 12 15 2 57 5 63 2 2f 3 3a 3 64 f 3a 3 30 3 e 2 1b 3 0",
   "2 a 6 1f 8 4a 2 74 9 23 2 7 3 1 3 15 2 6 2 0 4 3 3 8 3 1 3 3 9 0 9 3 3 18 3 2 2 5 5 1 3 15 2",
   "6 2 0 3 0 3 1 3 0 2 4 5 1 3 2 4 0 b 0 a 10 b 2 2 8 2 2 2 15 2 6 2 1 2 4 3 9 2 2 2 2 3 0 10 3",
   "3 b 8 6 2 2 2 7 3 1 3 15 2 6 2 1 2 4 3 8 3 1 3 2 8 2 8 4 3 11 b 1 2 5 4 2 2 3 4 1 2 0 2 1 4",
   "1 4 2 4 b 5 4 4 2 2 3 3 0 7 0 f 14 6 c 2 2 2 16 2 f 3 8 2 2 2 3 8 1 2 2 2 1 3 3 3 9 8 15 2 2",
   "2 16 2 9 2 4 3 8 2 2 2 3 8 1 6 2 2 3 3 9 2 2 d c 2 2 2 32 2 2 2 5 5 f 3 19 2 2 2 11 4 17 2 8",
   "2 0 3 6 4 0 5 5 2 0 2 7 7 9 3 2 d 31 2 6 5 1c 26 1 2 0 2 4 2 17 2 0 2 b 2 9 3 4 2 0 2 6 2 9",
   "5 1 21 b 2 35 2 3 2 3 2 3 2 3 2 3 2 b 2 2 5 1 2 0 6 6 2 10 2 3 2 3 2 3 2 3 2 3 2 b 2 2 2 e 2",
   "c 26 9f 31 2b 2 61 3 e7 2 3 3 6 2 0 2 3 3 28 2 3 3 20 2 3 3 6 2 0 2 3 3 e 2 38 2 3 3 42 3 1f",
   "4 19 7 55 b 27f 2 1b 4 58 8 15 a 17 a 13 d c 2 2 2 1 d 33 3 27 3 9 7 9 7 a 6 9 7 58 8 2a 6",
   "45 b 1e 2 b 5 b 5 0 4 29 3 4 c 2b 5 19 7 a 4 3d 3 40 2 1c 3 a 7 9 7 d 3 2d 3 b 15 4c 2 a5 9",
   "3b 4 e 4 32 b 0 36 7 9 2a 6 2b 4 0 c 0 13 0 1d c 2 21 26 3f 2 0 2 0 2 0 2 0 2 0 2 0 2 0 2 0",
   "2 0 2 0 2 0 2 0 2 0 2 0 2 0 2 0 2 0 2 0 2 0 2 0 2 0 2 0 2 0 2 0 2 0 2 0 2 0 2 0 2 0 2 0 2 0",
   "2 0 2 0 2 0 2 0 2 0 2 0 2 0 2 0 2 0 2 0 2 0 2 0 2 0 2 0 2 0 2 0 2 0 2 0 2 0 2 0 2 0 2 0 2 0",
   "2 0 2 0 2 0 2 0 2 0 2 0 2 0 2 0 2 0 2 0 2 0 2 0 2 0 2 0 2 0 2 0 2 0 2 0 2 0 2 0 2 4 3 1 2 0",
   "2 0 2 0 2 0 2 0 2 0 2 0 2 0 2 0 2 0 2 0 2 0 2 0 2 0 2 0 2 0 2 0 2 0 2 0 2 0 2 0 2 0 2 0 2 0",
   "2 0 2 0 2 0 2 0 2 0 2 0 2 0 2 0 2 0 2 0 2 0 2 0 2 0 2 0 2 0 2 0 2 0 2 0 2 0 2 0 2 0 2 0 2 0",
   "2 0 2 8 9 5 b 7 9 7 9 5 b 7 9 7 9 0 2 0 2 0 2 0 2 0 2 0 2 0 34 1 5 0 10 0 a 2 4 1 9 2 2 3 f",
   "0 16 1 3 0 2 4 2 b 4 0 9 2 3 0 3 3 2 0 2 7 4 c 2 6 42 7 2 18 f 20 14 0 4 0 c 0 3 1 6 1 4 0 2",
   "0 2 0 2 0 5 0 c 0 7 3 6 5 31 2 2 4 2 1 5 9b 3 0 3 f7 3 fe 17 a a1 520 2 66 4 64 2 96 3 89 31",
   "2f 2 0 4 1 2 0 2 0 2 0 5 0 2 1 2 5 6 0 2 0 2 0 2 0 2 0 2 0 2 0 2 0 2 0 2 0 2 0 2 0 2 0 2 0 2",
   "0 2 0 2 0 2 0 2 0 2 0 2 0 2 0 2 0 2 0 2 0 2 0 2 0 2 0 2 0 2 0 2 0 2 0 2 0 2 0 2 0 2 0 2 0 2",
   "0 2 0 2 0 2 0 2 0 2 0 2 0 2 0 2 0 2 0 2 0 2 0 2 7 2 0 2 3 2 0 6 2c 2 0 6 0 3 37 9 0 f 17 a 6",
   "2 6 2 6 2 6 2 6 2 6 2 6 2 6 2 7d 23 19 2 3 2 52 10f 0 2 32 2 0 4 4 2 55 3 1 3 1 2 5e 7 2a 61",
   "1 f 45 b f 49 7 30 0 181 708c 4 36 a 15b 16 0 2 0 2 0 2 0 2 0 2 0 2 0 2 0 2 0 2 0 2 0 2 0 2",
   "0 2 0 2 0 2 0 2 0 2 0 2 0 2 0 2 0 2 0 2 12 2 0 2 0 2 0 2 0 2 0 2 0 2 0 2 0 2 0 2 0 2 0 2 0 2",
   "0 2 0 3 59 9 21 2 0 2 0 2 0 2 0 2 0 2 0 2 2 2 0 2 0 2 0 2 0 2 0 2 0 2 0 2 0 2 0 2 0 2 0 2 0",
   "2 0 2 0 2 0 2 0 2 0 2 0 2 0 2 0 2 0 2 0 2 0 2 0 2 0 2 0 2 0 2 0 2 0 2 0 2 0 2 7 2 0 2 0 3 0",
   "2 0 2 0 2 0 2 3 2 0 2 1 2 0 2 2 2 0 2 0 2 0 2 0 2 0 2 0 2 0 2 0 2 0 2 0 6 0 6 0 2 0 2 0 2 0",
   "2 0 2 0 2 0 2 0 5 0 2 0 3 0 2 0 2 0 2 0 2 0 2 0 2 0 2 0 1b 1 3 32 4 9 7 37 9 45 9 b 7 73 c",
   "1d 4 4d 2 a 5 20 2 36 a d 3 9 3 66 19 1b b 5 3 5 3 5 a 6 2 6 2 2b 5 8 2 1 55 2d 3 9 7 2ba3 d",
   "16 5 30 2213 1 2 0 2 1 b 0 2 0 2 1 3 2 f5 0 94 20 16c 11 41 1 37 7 2e 2 21 f 16 1 2d 0 18d b",
   "2 19 2 12 2 1 2 e 3 d 23 7a 6 2 5 2c 4 57 2 c 4 0 30 2d 83 1c 4 30 10 1b 5 23 a 1d 6 2a 6 1d",
   "2 24 5 d 53 75 3 9 2f 23 5 27 9 33 c 0 28 a 2 e 2 6 2 1 4 33 d 136 a 15 b 7 19 0 80 5 3 0 2",
   "2b 2 1 4 0 3 16 2 47 9 8 31 12 2 1 6 20 4 1a 6 1a 27 37 5 13 3 31 2 1 6 7 2 2 2 1c 3 2 5 9 8",
   "8 8 3f 21 26 5 b a 35 4 1c 3 1a 6 19 8 3 d 6 51 48 78 32 8 2d 9 9 7 f 1a 1c 9 1 d1 1e 2 29 2",
   "2 3 1 11 5 9 8 22 2d 9 29 17 19 27 1b 15 16 a 4d 5 23 a 3d 2 4 e 18 8 9 7 34 2 11 9 26 a 5f",
   "2 13 c 11 2 2e 3f 6 2 0 2 3 2 e 2 a 7 3a 6 9 7 3 2 7 3 1 3 15 2 6 2 1 2 4 2 9 3 1 3 2 3 0 7",
   "0 6 6 3 6 4 4 c 9 2 0 3 0 2 25 2 9 2 0 3 0 2 3 2 9 2 1 9 1 1e 5b 2 4 1f 47 9 9 a7 35 3 25 23",
   "44 c 9 7 c 14 39 7 9 7 13 1d 1a 3 e 5 16 ba 3b 85 32 d 7 3 0 3 7 2 1 2 1d 2 1 3 b a 9 47 7 3",
   "2d 3 a 1c 47 9 52 e 48 8 9 57 7 59 21 f 9 7 8 2 2c 2 d b 1c 4 1f 3 15 2 d 4a 6 2 1 2 2b 4 0",
   "2 1 2 8 9 9 7 5 2 1 2 24 2 1 2 5 8 9 7 2b 5 9 f7 18 8 10 2 28 4 1c 56 0 10 31 e 39a 67 6e 2",
   "4 c c3 a4d 62 e 42f 11 15 b f9a 6 246 1aba 39 6c7 238 8 1e 2 9 5 50 2 9 7 1d 3 5 b 45 b 9 2",
   "6 2 14 6 12 1b1 39 e7 3a 21 18 2d 4a 5 38 8 10 41 4 c 6 a 1cd5 2a 1f 62 72 21fe 3 2 6 2 1 2",
   "122 10 0 1e 2 3 0 f 3 9 18b 905 6a 6 c 4 8 8 9 3 3 f61 d5 25 2 4 1b3 7 16 10 10 10 2d 3 16 a",
   "73 3d f5 b 26 3 34 8 d 9 3f 7 29 16 45 7b 13 d 13 d 56 a 18 488 28b 10 4 2 e 451 1e 7 5 d6 6",
   "2 10 3 6 2 1 2 4 65 0 71 2c 4 d 3 9 5 1 141 1e 12 39 6 0 1d1 29 d7 2a 5 0 c1 1e 2 15 9 1 e1",
   "6 2 3 2 1 2 e 2 c4 3 f 4c 29 5 9 5 1 312 43 4d 3c 1b3 1 10f 2b 5 63 d e 3 e 2 e 2 24 16 4 20",
   "0 21 19 4 22 2 1c 39 19 61 5 9b 3d8 4 10 4 c 4 d9 7 b 5 0 10 b 5 37 9 9 7 27 9 1d 3 b 5 1 f",
   "8 28 157 9 d 3 c 4 a 4 38 2 0 5 f 3 b 5 9 8 92 2 5b b 0 406 a6df 21 111d 3 168d 3 1d30 10",
   "26d 11a3 134a 6 2129"]

/-- Characters that are dropped: gap and length of each run. -/
def droppedRows : List String :=
  ["ad 0 2a2 0 e10 1 654 1 56 4 7fc 0 55 4 6 5 10f5 0 cc9c f f0 0 a1 0 bd00 3 14d0 7 c2f86 ef"]

/-- Characters that are replaced by one character: gap, length, step and shift of
each run.  Step zero stands for a run with one common replacement. -/
def replacedRows : List String :=
  ["a0 0 1 ff a 0 1 91 8 1 1 ff 2 0 1 60e 4 0 1 10f 1 0 1 95 6 16 1 40 2 6 1 40 22 2e 2 2 6 2 2",
   "2 3 4 2 2 4 6 2 2 3 2c 2 2 2 0 1 f1 1 4 2 2 2 0 1 217 2 0 1 1a4 1 2 2 2 2 0 1 19c 1 0 1 2 2",
   "1 1 19a 1 0 1 2 3 0 1 9e 1 0 1 194 1 0 1 196 1 0 1 2 2 0 1 19a 1 0 1 19e 2 0 1 1a6 1 0 1 1a2",
   "1 0 1 2 4 0 1 1a6 1 0 1 1aa 2 0 1 1ac 1 4 2 2 2 0 1 1b4 1 0 1 2 2 0 1 1b4 3 0 1 2 2 0 1 1b4",
   "1 0 1 2 2 1 1 1b2 1 2 2 2 2 0 1 1b6 1 0 1 2 4 0 1 2 11 e 2 2 3 10 2 2 6 0 1 2 2 0 1 c1 1 0 1",
   "6f 1 26 2 2 2 0 1 103 2 10 2 2 8 0 1 5456 1 0 1 2 2 0 1 145 1 0 1 5450 3 0 1 2 2 0 1 185 1 0",
   "1 8a 1 0 1 8e 1 8 2 2 62 0 1 48f 1 0 1 95 1 0 1 48f 1 0 1 481 1 0 1 75 1 0 1 73 1 0 1 69 1 0",
   "1 47f 1 0 1 47d 28 0 1 f9 1 0 1 4e9 1 0 1 4dd 1 0 1 4d5 1 0 1 9d 5c 1 1 7f 2 0 1 5f 2 0 1 e8",
   "2b 2 2 2 2 0 1 175 2 0 1 2 8 0 1 685 1 0 1 e8 7 0 1 4c 1 0 1 59f 1 2 1 4a 2 0 1 80 2 1 1 7e",
   "2 10 1 40 2 8 1 40 24 0 1 10 1 0 1 3b 1 0 1 31 1 0 1 19 1 0 1 b 1 0 1 11 1 0 1 1d 1 0 1 2b 2",
   "16 2 2 2 0 1 6b 1 0 1 5f 1 0 1 5d 2 0 1 77 1 0 1 7f 2 0 1 2 2 0 1 6b 1 0 1 2 3 2 1 103 1 f 1",
   "a0 1 1f 1 40 31 20 2 2 a 34 2 2 2 0 1 1e 1 c 2 2 3 5e 2 2 3 25 1 60 9b6 0 1 1 194 25 1 38c0",
   "2 0 1 38c0 6 0 1 38c0 2f 0 1 3f 2fc 5 1 f 883 0 1 309b 1 0 1 3099 1 0 1 3087 1 1 1 3083 1 0",
   "1 3085 1 0 1 3077 1 0 1 3047 1 0 1 11386 1 0 1 2 7 2a 1 177f 3 2 1 177f 6d 0 1 3995 1 0 1",
   "388d 1 2 2 3997 1 0 1 3997 1 0 1 36a9 1 7 1 3997 2 0 1 3999 1 0 1 3633 1 0 1 399b 1 0 1 3999",
   "1 1 1 3997 1 0 1 3995 1 0 1 39c3 1 1 1 35e7 1 0 1 87 1 0 1 39c9 1 1 1 39c7 1 0 1 35e1 1 1 1",
   "35df 1 0 1 39cb 2 0 1 39c7 1 0 1 39c5 1 0 1 380b 1 0 1 39c5 1 0 1 35fd 1 1 1 7b 1 0 1 39cb 1",
   "1 1 39c5 1 0 1 77 1 0 1 35d5 1 0 1 39c9 1 0 1 6d 1 2 1 3355 1 1 1 3333 1 0 1 39f1 1 0 1 39e1",
   "1 1 1 39dd 1 1 1 3367 1 0 1 334d 1 1 1 3345 e 0 1 3275 23 0 1 3691 1 0 1 3a71 1 0 1 368f 1 0",
   "1 395b 1 0 1 3685 1 0 1 3a73 1 0 1 3683 1 0 1 3681 1 0 1 367b 1 2 1 3677 1 0 1 57 1 0 1 3615",
   "1 0 1 3677 1 0 1 49 1 0 1 3617 1 0 1 3675 1 0 1 3679 1 3 1 3677 1 0 1 3673 1 1 1 3661 1 0 1",
   "3813 1 1 1 3659 1 0 1 137 1 1 1 365b 1 0 1 3a81 1 2 1 3657 1 0 1 340d 41 94 2 2 7 0 1 73 3 0",
   "1 3b7d 2 5e 2 2 a 7 1 f 9 5 1 f b 7 1 f 9 7 1 f 9 5 1 f c 6 2 f 9 7 1 f 2 0 1 3789 2 0 1",
   "378b 2 0 1 378d 2 0 1 378f 2 0 1 3759 2 0 1 375b 2 0 1 375d 3b 1 1 f 1 0 1 93 1 0 1 381d 3 0",
   "1 3809 a 0 1 ab 1 0 1 3837 1 0 1 ab 1 0 1 3839 8 0 1 3885 5 1 1 f 1 0 1 c7 1 0 1 3857 8 0 1",
   "3865 5 1 1 f 1 0 1 df 1 0 1 383b 1 0 1 d 3 0 1 3f1d 9 0 1 ff 1 0 1 3859 1 0 1 fb 1 0 1 3859",
   "5 a 0 3fbf 7 0 1 1 1e 0 1 401d 30 0 1 407d 11 0 1 407f 1 0 1 400f 3 5 1 407f 1 0 1 409d 1 0",
   "1 32e 1 0 1 407d 1 1 1 40a9 1 0 1 4021 1 9 1 409f 1 0 1 40bd 1 0 1 30e 1 0 1 409d 1 1 1 40c9",
   "2 0 1 405d 1 0 1 4057 1 0 1 4045 1 0 1 4035 1 0 1 3c75 1 0 1 4059 1 3 1 4055 1 0 1 4053 1 1",
   "1 404f 66 0 1 413d 5 0 1 3d57 3 1 1 4145 1 2 0 4147 1 0 1 3fcf 1 1 0 414d 1 1 0 414b 2 0 1",
   "414d 4 2 1 4151 1 1 0 4153 7 0 1 4153 2 0 1 3ab9 2 0 1 415b 2 0 1 417d 1 0 1 408b 1 1 1 4193",
   "2 1 0 4193 1 0 1 4195 1 0 1 38 1 0 1 418b 1 0 1 4189 1 3 1 36c9 1 0 1 419f 3 0 1 3af7 1 1 0",
   "3b13 1 0 1 3afd 1 0 1 1a2 5 1 0 41c1 1 0 1 41c3 1 1 1 41bd 17 0 1 41ed 4 0 1 41db 5 0 1 41e1",
   "3 0 1 41ff 1 1 1 4213 1 0 1 4203 1 0 1 420d 4 0 1 41fb 5 0 1 4201 3 0 1 421f 1 1 1 4233 1 0",
   "1 4223 4 0 1 2 1a6 1 1 19be 136 8 1 485d 4e 19 1 48a9 1 19 1 48dd 1 0 1 4973 716 2f 1 60 31",
   "0 1 2 2 0 1 53ed 1 0 1 1dcb 1 0 1 53cd 3 4 2 2 2 0 1 5437 1 0 1 53f9 1 0 1 543d 1 0 1 543b 2",
   "0 1 2 3 0 1 2 7 0 1 5823 1 0 1 580d 1 1 1 547d 1 62 2 2 9 2 2 2 5 0 1 2 7d 0 1 1b 130 0 1",
   "7a5c 54 0 1 e158 d 0 1 3e00 1 0 1 3e4e 1 0 1 3e68 1 0 1 3e78 1 0 1 3eaa 1 0 1 3f00 1 0 1",
   "3f0c 1 0 1 3f32 1 0 1 3f64 1 0 1 446c 1 0 1 44b6 1 0 1 44c0 1 0 1 44ec 1 0 1 4512 1 0 1 453a",
   "1 0 1 45a2 1 0 1 45ca 1 0 1 45de 1 0 1 4712 1 0 1 47cc 1 0 1 4802 1 0 1 480a 1 0 1 4844 1 0",
   "1 4854 1 0 1 4888 1 0 1 48a0 1 0 1 48d0 1 0 1 4936 1 0 1 4958 1 0 1 498c 1 0 1 4f72 1 0 1",
   "5000 1 0 1 5396 1 0 1 53c2 1 0 1 53d0 1 0 1 53e4 1 0 1 5406 1 0 1 549c 1 0 1 5854 1 0 1 58b2",
   "1 0 1 59a0 1 0 1 59cc 1 0 1 59f0 1 0 1 5a1a 1 0 1 5a84 1 0 1 5a88 1 0 1 5d5a 1 0 1 5d6c 1 0",
   "1 5d82 1 0 1 5d9a 1 0 1 5e80 1 0 1 5e8e 1 0 1 5e96 1 0 1 5f7e 1 0 1 5f90 1 0 1 5fa8 1 0 1",
   "5fb6 1 0 1 602e 1 0 1 604e 1 0 1 6070 1 0 1 610e 1 0 1 6596 1 0 1 65f0 1 0 1 6618 1 0 1 6bde",
   "1 0 1 6be6 1 0 1 6c8a 1 0 1 6ca8 1 0 1 6cc0 1 0 1 6ce8 1 0 1 6d34 1 0 1 6d3c 1 0 1 6f50 1 0",
   "1 6f7e 1 0 1 6fbc 1 0 1 77aa 1 0 1 782c 1 0 1 7858 1 0 1 78ca 1 0 1 78f8 1 0 1 7908 1 0 1",
   "7914 1 0 1 797a 1 0 1 7982 1 0 1 79c0 1 0 1 822c 1 0 1 85a8 1 0 1 85be 1 0 1 85c6 1 0 1 85cc",
   "1 0 1 85da 1 0 1 85fc 1 0 1 85fe 1 0 1 869e 1 0 1 884c 1 0 1 8854 1 0 1 8af8 1 0 1 8b0a 1 0",
   "1 8b6c 1 0 1 8b78 1 0 1 8b88 1 0 1 8b96 1 0 1 8c4a 1 0 1 8c56 1 0 1 8e1c 1 0 1 8e28 1 0 1",
   "8e88 1 0 1 8ea8 1 0 1 8f04 1 0 1 90dc 1 0 1 90e8 1 0 1 9108 1 0 1 9394 1 0 1 948e 1 0 1 9498",
   "1 0 1 9602 1 0 1 96ae 1 0 1 9708 1 0 1 99fa 1 0 1 9b02 1 0 1 9f7c 1 0 1 9fb0 1 0 1 a020 1 0",
   "1 a084 1 0 1 a10a 1 0 1 a11e 1 0 1 a128 1 0 1 a168 1 0 1 a1fe 1 0 1 a210 1 0 1 a4c2 1 0 1",
   "a4ce 1 0 1 a4de 1 0 1 a4ee 1 0 1 a50c 1 0 1 a528 1 0 1 a52e 1 0 1 a5ca 1 0 1 a5d0 1 0 1 a5da",
   "1 0 1 ad82 1 0 1 adbc 1 0 1 b164 1 0 1 b17a 1 0 1 b1a6 1 0 1 b3da 1 0 1 b3f2 1 0 1 b47e 1 0",
   "1 b4d8 1 0 1 b944 1 0 1 b960 1 0 1 b97c 1 0 1 b9c0 1 0 1 ba08 1 0 1 bb94 1 0 1 bbaa 1 0 1",
   "bc2e 1 0 1 be1c 1 0 1 be58 1 0 1 bff8 1 0 1 c020 1 0 1 c028 1 0 1 c1de 1 0 1 c34c 1 0 1 c444",
   "1 0 1 c44e 1 0 1 c456 1 0 1 cba0 1 0 1 cbb0 1 0 1 cce6 1 0 1 ce18 1 0 1 ce1c 1 0 1 ce78 1 0",
   "1 cf48 1 0 1 cf60 1 0 1 cf66 1 0 1 cf72 1 0 1 d034 1 0 1 d076 1 0 1 d080 1 0 1 d09a 1 0 1",
   "d1e6 1 0 1 d24a 1 0 1 d250 1 0 1 d3bc 1 0 1 d3c0 1 0 1 d3e4 1 0 1 d5da 1 0 1 d638 1 0 1 d644",
   "1 0 1 d6ce 1 0 1 d6e0 1 0 1 d6e4 1 0 1 d6f6 1 0 1 d730 1 0 1 da44 1 0 1 dd62 1 0 1 dd74 1 0",
   "1 ddbe 1 0 1 dde8 1 0 1 ddf6 1 0 1 de08 1 0 1 de0e 1 0 1 de5c 1 0 1 de62 1 0 1 de82 1 0 1",
   "de8a 1 0 1 dea2 1 0 1 ded6 1 0 1 def2 1 0 1 df00 1 0 1 df74 1 0 1 df90 1 0 1 df96 2b 0 1",
   "5fbf 2 0 1 5fa7 34 0 1 47 2 0 1 4612 1 1 1 4616 f7 1 1 4061 1 0 1 3f11 1 0 1 4063 1 1 1 3f11",
   "1 2 1 4067 1 5 1 3f13 1 0 1 404b 1 2 1 4075 1 0 1 4045 1 9 1 4077 1 14 1 3fdb 2 1 1 40a1 1 1",
   "1 3f3f 1 0 1 3f39 1 0 1 3f37 1 0 1 3f2f 1 0 1 3f29 1 0 1 3f27 1 0 1 40a3 1 0 1 3f23 1 0 1",
   "3f21 1 1 1 40a7 1 0 1 40a5 1 1 1 40a3 1 0 1 409d 1 0 1 409b 1 4 1 4099 1 0 1 4095 1 0 1 408f",
   "1 0 1 407d 1 0 1 4071 1 0 1 4069 1 1 1 3f21 1 2 1 4059 1 1 1 4005 1 0 1 4001 1 1 1 3ff1 1 0",
   "1 3fef 1 0 1 3fdd 1 0 1 3fd9 4 0 1 38dc 1 0 1 39f2 1 0 1 38ea 1 0 1 4a8c 1 0 1 38e8 1 0 1",
   "392c 1 0 1 38e6 1 0 1 8732 1 0 1 397e 1 0 1 38fc 1 0 1 38ca 1 0 1 4f18 1 0 1 4b24 1 0 1 3a36",
   "a5 0 1 4616 1 0 1 586e 1 0 1 6682 1 0 1 9290 19 0 1 42bf 1 1 1 42bd 1 2 1 42bb 1 0 1 42b9 1",
   "1 1 42b7 1 4 1 42b5 1 0 1 f324 1 0 1 fc52 1 0 1 100e8 1 0 1 10a16 1 0 1 10eac 1 0 1 11342 1",
   "0 1 11c70 1 0 1 1259e 1 0 1 12a34 1 0 1 13362 1 0 1 137f8 1 0 1 13c8e 1 0 1 14124 1 0 1",
   "145ba 3 0 1 12864 2 0 1 3700 1 0 1 3816 1 0 1 370e 1 0 1 48b0 1 0 1 3820 1 0 1 3dd0 1 0 1",
   "36fa 1 0 1 3dc8 1 0 1 37aa 1 0 1 4170 1 0 1 68fc 1 0 1 7bc0 1 0 1 7350 1 0 1 6936 1 0 1 be86",
   "1 0 1 4920 1 0 1 66aa 1 0 1 6b32 1 0 1 68ee 1 0 1 8d56 1 0 1 42f2 1 0 1 7fc8 1 0 1 b416 1 0",
   "1 8d8c 1 0 1 4038 1 0 1 8e7e 1 0 1 853a 1 0 1 4db0 1 0 1 bb9a 1 0 1 3d1a 1 0 1 41a4 1 0 1",
   "7492 1 0 1 caca 1 0 1 38e0 1 0 1 3dee 1 0 1 7180 1 0 1 36cc 1 0 1 3710 1 0 1 36ca 1 0 1 567e",
   "1 0 1 4296 1 0 1 4124 1 0 1 51da 1 0 1 5176 1 0 1 886e 1 0 1 38a8 1 0 1 b432 1 0 1 414a 1 0",
   "1 4cd8 20 0 1 45b 1 0 1 459 1 0 1 457 1 0 1 455 1 1 1 453 1 0 1 451 1 0 1 44f 1 0 1 44d 1 0",
   "1 44b 1 0 1 449 1 0 1 447 1 0 1 445 1 0 1 443 1 0 1 441 1 0 1 43f 1 0 1 43d 1 0 1 439 1 0 1",
   "437 1 0 1 435 1 5 1 433 1 0 1 42f 1 0 1 42b 1 0 1 427 1 0 1 423 1 4 1 41f 1 0 1 41d 1 0 1",
   "41b 1 5 1 419 1 3 1 417 7342 2c 2 2 14 1a 2 2 2 0 1 144a3 1 0 1 144a1 85 c 2 2 4 3c 2 2 2 0",
   "1 1 9 2 2 2 2 0 1 11407 1 8 2 2 5 0 1 2 2 0 1 14a4f 3 2 2 2 4 12 2 2 2 0 1 14a87 1 0 1 14a9d",
   "1 0 1 14a95 1 0 1 14a81 1 0 1 14a87 2 0 1 14a23 1 0 1 14a53 1 0 1 14a29 1 0 1 740 1 e 2 2 2",
   "0 1 5f 1 0 1 14a85 1 0 1 1146f 1 2 2 2 2 0 1 14acd 1 e 2 2 2 0 1 14c81 15 0 1 14efb 1 0 1",
   "14f1d 1 0 1 14f19 1 0 1 14f05 1 0 1 2 3 0 1 14da1 1 0 1 14d4b 363 0 1 869 1 0 1 4b 1 0 1",
   "151e5 1 0 1 19 a 0 1 151b7 7 4f 1 12f9f 4d41 0 1 d96f 1 0 1 12419 1 0 1 d46f 1 0 1 d875 1 0",
   "1 11465 1 0 1 155a5 1 0 1 14a41 1 1 0 b2d5 1 0 1 13f6f 1 0 1 ce71 1 0 1 14707 1 0 1 13f87 1",
   "0 1 12e2d 1 0 1 10549 1 0 1 f313 1 0 1 e5a1 1 0 1 e2ad 1 0 1 e033 1 0 1 d107 1 0 1 11e23 1 0",
   "1 117f3 1 0 1 11079 1 0 1 10a71 1 0 1 e9b5 1 0 1 cf5d 1 0 1 be51 1 0 1 15531 1 0 1 14b4d 1 0",
   "1 11c31 1 0 1 10e05 1 0 1 e5e3 1 0 1 b603 1 0 1 137a1 1 0 1 1126d 1 0 1 e6ab 1 0 1 df7f 1 0",
   "1 12cb7 1 0 1 ee9b 1 0 1 e20f 1 0 1 134bb 1 0 1 12423 1 0 1 1177f 1 0 1 10c5d 1 0 1 d0bb 1 0",
   "1 1534d 1 0 1 14eed 1 0 1 14ca1 1 0 1 128d7 1 0 1 11cbb 1 0 1 10e43 1 0 1 10497 1 0 1 f265 1",
   "0 1 e65d 1 0 1 e5b3 1 0 1 d68f 1 0 1 c40b 1 0 1 bb93 1 0 1 b67f 1 0 1 1015d 1 0 1 ff79 1 0 1",
   "f739 1 0 1 eae9 1 0 1 cc75 1 0 1 b581 1 0 1 dcd5 1 0 1 140c5 1 0 1 1347d 1 0 1 f9c7 1 0 1",
   "f18d 1 0 1 10dc7 1 0 1 100f9 1 0 1 d90b 1 0 1 c4a3 1 0 1 140e3 1 0 1 139d1 1 0 1 11e71 1 0 1",
   "116e5 1 0 1 1147d 1 0 1 f83f 1 0 1 f631 1 0 1 c60b 1 0 1 14cff 1 0 1 f18f 1 0 1 14eef 1 0 1",
   "14f11 1 0 1 fe73 1 0 1 f731 1 0 1 eacd 1 0 1 c5c7 1 0 1 dbb3 1 0 1 12d17 1 0 1 11eb3 1 0 1",
   "dcbd 1 0 1 15649 1 0 1 13aef 1 0 1 1329b 1 0 1 10bb3 1 0 1 107e3 1 0 1 14c97 1 0 1 100d1 1 0",
   "1 1534b 1 0 1 13379 1 0 1 156b3 1 0 1 11937 1 0 1 127e1 1 0 1 f88f 1 0 1 14b4f 1 0 1 1421b 1",
   "0 1 104d7 1 0 1 ea49 1 0 1 dd89 1 0 1 11b6b 1 0 1 d381 1 0 1 119d3 1 0 1 12ce9 1 0 1 ed1d 1",
   "0 1 12ba9 1 0 1 10821 1 0 1 15591 1 0 1 1501d 1 0 1 14f5f 1 0 1 121f1 1 0 1 f927 1 0 1 ee19",
   "1 0 1 dd55 1 0 1 cf5d 1 0 1 14d13 1 0 1 14a7b 1 0 1 1401b 1 0 1 1352b 1 0 1 1277b 1 0 1",
   "1130b 1 0 1 100b5 1 0 1 c7b1 1 0 1 be39 1 0 1 b5e1 1 0 1 b575 1 0 1 14ddd 1 0 1 12589 1 0 1",
   "11c29 1 0 1 d455 1 0 1 13633 1 0 1 12ffd 1 0 1 12f1f 1 0 1 129ed 1 0 1 114dd 1 0 1 11093 1 0",
   "1 10a15 1 0 1 ff95 1 0 1 f743 1 0 1 f24f 1 0 1 d4e3 1 0 1 e955 1 0 1 d2ed 1 0 1 cca1 1 0 1",
   "14f09 1 0 1 14df3 1 0 1 149c1 1 0 1 111ad 1 0 1 e1bb 1 0 1 dded 1 0 1 135b1 1 0 1 1335b 1 0",
   "1 12c51 1 0 1 11bed 1 0 1 facf 1 0 1 10c63 1 0 1 15587 1 0 1 1455f 1 0 1 13b85 1 0 1 137e1 1",
   "0 1 1331f 1 0 1 10bf5 1 0 1 10a89 1 0 1 f429 1 0 1 f2d3 1 0 1 cef9 1 0 1 c577 1 0 1 c4d5 1 0",
   "1 c337 1 0 1 15453 1 0 1 1000f 1 0 1 d005 1 0 1 c5ff 1 0 1 131af 1 0 1 15667 1 0 1 151c1 1 0",
   "1 13b9b 1 0 1 13afb 1 0 1 12849 1 0 1 11f79 1 0 1 10fe3 1 0 1 106fd 1 0 1 e98b 1 0 1 d28d 1",
   "0 1 b46d 1 0 1 12679 1 0 1 c72f 1 0 1 14e7b 1 0 1 12499 1 0 1 123ab 1 0 1 11911 1 0 1 1165d",
   "1 0 1 10b85 1 0 1 108e7 1 0 1 102c5 1 0 1 f97d 1 0 1 c2e3 1 0 1 150c7 1 0 1 12f47 1 0 1 c6b5",
   "1 0 1 15351 1 0 1 13977 1 0 1 117d7 1 0 1 d559 1 0 1 13499 1 0 1 13129 1 0 1 12385 1 0 1",
   "10ca7 1 0 1 c6ab 1 0 1 14f67 1 0 1 14b9d 1 0 1 13af3 1 0 1 12799 1 0 1 12525 1 0 1 12273 1 0",
   "1 119fb 1 0 1 10bbb 1 0 1 10805 1 0 1 f4d9 1 0 1 e22f 1 0 1 e20d 1 0 1 d039 1 0 1 c60f 1 0 1",
   "14d57 1 0 1 11663 1 0 1 14b9f 1 0 1 1103b 1 0 1 10aad 1 0 1 e7eb 1 0 1 c69b 1 0 1 bb35 1 0 1",
   "b6a7 1 0 1 124b9 1 0 1 11853 1 0 1 f01b 1 0 1 fe57 1 0 1 fdaf 1 0 1 facd 1 0 1 10e73 1 0 1",
   "112c3 1 0 1 dd47 1 0 1 15679 1 0 1 ed8f 1 0 1 14f89 1 0 1 14ff1 1 0 1 136b5 1 0 1 12e5d 1 0",
   "1 fa59 1 0 1 13cfd 1 0 1 119cd 1 0 1 126a3 1 0 1 d597 1 0 1 e377 1 0 1 c777 1 0 1 e0fd 1 0 1",
   "1366f 1 0 1 15197 1 0 1 14899 3 0 1 1436b 2 0 1 1273b 3 0 1 1506d 1 0 1 10dd7 1 0 1 10699 1",
   "0 1 101b7 1 0 1 10175 1 0 1 10169 1 0 1 10117 1 0 1 c58b 1 0 1 fabd 1 0 1 f4c1 2 0 1 e81b 2",
   "0 1 de53 3 0 1 d3d9 1 0 1 d251 4 0 1 c275 1 0 1 c25d 1 0 1 c207 1 0 1 b8f1 1 0 1 d29f 1 0 1",
   "c6ef 1 0 1 15503 1 0 1 15293 1 0 1 151c9 1 0 1 14ed3 1 0 1 14e9f 1 0 1 14dc7 1 0 1 14931 1 0",
   "1 14861 1 0 1 1479f 1 0 1 143f1 1 0 1 14323 1 0 1 13bad 1 0 1 13b9b 1 0 1 13351 1 0 1 131ab",
   "1 0 1 13161 1 0 1 1309b 1 0 1 129e3 1 0 1 128bf 1 0 1 12763 1 0 1 1237d 1 0 1 1199b 1 0 1",
   "11857 1 0 1 11649 1 0 1 111b3 1 0 1 1103b 1 0 1 10c4f 1 0 1 10373 1 0 1 1021b 1 0 1 10207 1",
   "0 1 1020b 1 0 1 101fd 1 0 1 101f3 1 0 1 101e7 1 1 1 10189 1 0 1 10027 1 0 1 ffa7 1 0 1 fd2b",
   "1 0 1 f8c5 1 0 1 f89d 1 0 1 f82f 1 0 1 f5cf 1 0 1 f4ab 1 0 1 f0dd 1 1 0 efc7 1 0 1 ec0f 1 0",
   "1 e29f 1 0 1 e195 1 0 1 dec1 1 0 1 de53 1 0 1 db21 1 0 1 dab9 1 0 1 d55f 1 0 1 d45d 1 0 1",
   "c709 1 0 1 c4d3 1 0 1 c45d 1 0 1 133eb 1 0 1 29104 1 0 1 f0a9 3 0 1 15893 1 0 1 15177 1 0 1",
   "15213 1 0 1 155e5 1 0 1 1525d 1 0 1 151e9 1 0 1 14f5d 1 0 1 14ef9 1 0 1 149b5 1 0 1 14a47 1",
   "0 1 149c1 1 0 1 14931 1 0 1 14443 1 0 1 14393 1 0 1 14273 1 0 1 14255 1 0 1 1403b 1 0 1",
   "13eb1 1 0 1 1375f 1 0 1 13753 1 0 1 13635 1 0 1 135af 1 0 1 1335b 1 0 1 13271 1 0 1 132ff 1",
   "0 1 131f5 1 0 1 13253 1 0 1 13131 1 0 1 130af 1 0 1 12d91 1 0 1 12ce3 1 0 1 12c79 1 0 1",
   "12a73 1 0 1 12839 1 0 1 126f5 1 0 1 126ef 1 0 1 1267b 1 0 1 11e37 1 0 1 11db7 1 0 1 11aab 1",
   "0 1 11779 1 0 1 1179b 1 0 1 116ef 1 0 1 114f9 1 0 1 1125b 1 0 1 105eb 1 0 1 110d1 1 0 1",
   "10fdf 1 0 1 10eeb 1 0 1 10c5f 1 0 1 10b37 1 0 1 10acf 1 0 1 1090d 1 0 1 1090b 1 0 1 107b7 1",
   "0 1 10797 1 0 1 10767 1 0 1 106bd 1 0 1 106d3 1 0 1 103bd 1 0 1 fff5 1 0 1 fdd9 1 0 1 fc65 1",
   "0 1 faa7 1 0 1 f977 1 0 1 f6e5 1 0 1 f559 1 0 1 eec1 1 0 1 ed89 1 0 1 e677 1 0 1 e2e9 1 0 1",
   "e261 1 0 1 e243 1 0 1 dff3 1 0 1 df83 1 0 1 dfdf 1 0 1 df75 1 0 1 df7d 1 0 1 dfa1 1 0 1 df0b",
   "1 0 1 de6b 1 0 1 db71 1 0 1 d713 1 0 1 d4a1 1 0 1 d255 1 0 1 d09d 1 0 1 c893 1 0 1 c7c7 1 0",
   "1 c6e3 1 0 1 c5db 1 0 1 c595 1 0 1 c57f 1 0 1 c521 1 0 1 bf75 1 0 1 b663 1 0 1 25af6 1 0 1",
   "25ae8 1 0 1 27208 1 0 1 17e69 1 0 1 17575 1 0 1 17535 1 0 1 2aee8 1 0 1 2c3f4 1 0 1 307f8 1",
   "0 1 b729 1 0 1 b695 47 0 1 1ea7b 1 0 1 1eaa1 1 1 1 1ea9d 1 2 1 1ea91 1 0 1 1ea7d 1 0 1 1ea7b",
   "1 0 1 1f5fb 27 1 0 1e9bd 1 3 0 1e9ad 1 3 0 1e9af 1 3 0 1e9b3 1 3 0 1e9c7 1 3 0 1e9c5 1 3 0",
   "1e9d9 1 3 0 1e98b 1 3 0 1e98f 1 3 0 1e9db 1 3 0 1e9e5 1 3 0 1e9e7 1 3 0 1e9ed 1 1 0 1e9e9 1",
   "1 0 1e9ef 1 1 0 1e9ef 1 1 0 1e9ff 1 1 0 1e9e3 1 1 0 1e9f5 1 3 0 1e9c9 1 3 0 1e9c5 1 3 0",
   "1e9c5 1 3 0 1e9d1 1 1 0 1e9c7 1 3 0 1e9c9 1 1 0 1e9c7 1 3 0 1e9c9 1 3 0 1e9d7 1 1 0 1e9b7 1",
   "1 0 1e9b9 22 3 0 1ea4b 1 1 0 1ea1f 1 1 0 1ea25 1 1 0 1ea25 2 1 0 1ea25 1 1 0 1ea35 1 1 0",
   "1ea31 1 3 0 1ea27 1 1 0 1eb3d 13 3 0 1ea5f 211 0 1 1fbc7 1 0 1 19c1f 2 1 1 1fbb1 1 0 1 1fbe7",
   "1 0 1 1fbad 1 1 1 19c01 19 0 1 1bc39 1 0 1 1bc3d 1 1 0 1fba7 1 1 1 1fc19 1 0 1 1fb77 1 0 1",
   "1fb75 1 1 1 19c49 1 1 1 19c55 1 1 1 19c65 1 1 1 19c6d 1 3 1 19c69 3 0 1 1fbd7 1 0 1 1fbd5 5",
   "2 0 1fbdb 1 0 1 1fc47 1 0 1 19c9f 3 0 1 1fc31 1 0 1 1fc35 1 0 1 1fc2d 1 0 1 1fc6b 1 0 1",
   "1bc87 1 1 1 1fc61 1 0 1 1fbbf 1 0 1 1fbbd 1 1 1 19c91 1 0 1 1fc77 1 0 1 1fc73 1 1 1 1fc6d 1",
   "0 1 1fc6b 1 0 1 1fc4f 1 0 1 1fc4d 1 0 1 1fc51 2 0 1 1fc17 1 1 1 1fc89 1 0 1 1fc55 15 1 1",
   "1f0bd 1 1 1 1f0bf 1 1 1 1f0c1 1 1 1 1f0c3 1 1 1 1f0c5 1 2 0 1f0c7 1 1 0 1f0cb 1 3 0 1f0cd 1",
   "1 0 1f0d3 1 3 0 1f0d5 1 3 0 1f0db 1 3 0 1f0e1 1 3 0 1f0e7 1 3 0 1f0ed 1 1 0 1f0f3 1 1 0",
   "1f0f5 1 1 0 1f0f7 1 1 0 1f0f9 1 3 0 1f0fb 1 3 0 1f101 1 3 0 1f107 1 3 0 1f10d 1 3 0 1f113 1",
   "3 0 1f119 1 3 0 1f11f 1 3 0 1f125 1 3 0 1f11f 1 3 0 1f125 1 3 0 1f12b 1 3 0 1f131 1 3 0",
   "1f137 1 3 0 1f13d 1 3 0 1f143 1 1 0 1f149 1 1 0 1f14b 1 3 0 1f14d d 1f 1 1fdbf 1 19 1 1fd7f",
   "1 23 1 1fdbf 1 1 1 1abb3 1 0 1 1fe65 1 1 1 19eab 1 0 1 19ec5 1 0 1 19cd3 1 0 1 19ce7 1 0 1",
   "19d8b 1 0 1 19d89 1 0 1 19d87 1 0 1 19d85 1 0 1 19d83 1 0 1 19d11 1 0 1 19d0f 1 0 1 19d0d 1",
   "0 1 19d57 1 0 1 19ce7 1 0 1 19d9d 1 0 1 19d9b 1 0 1 19d99 1 0 1 19d97 1 1 1 19d95 1 0 1",
   "19d93 1 0 1 19d91 1 0 1 19d8f 1 0 1 19d8d 1 0 1 19d8b 1 0 1 19d89 1 0 1 19d87 1 0 1 19d85 1",
   "0 1 19d83 1 0 1 19d81 1 0 1 19d7f 1 0 1 19d7b 1 0 1 19d79 1 0 1 19d77 1 5 1 19d75 1 0 1",
   "19d71 1 0 1 19d6d 1 0 1 19d69 1 0 1 19d65 1 4 1 19d61 1 0 1 19d5f 1 0 1 19d5d 1 5 1 19d5b 1",
   "0 1 19d59 1 0 1 19d53 1 1 1 19e09 2 1 1 1dd41 1 0 1 1dbf1 1 0 1 1dd43 1 1 1 1dbf1 1 2 1",
   "1dd47 1 5 1 1dbf3 1 0 1 1dd2b 1 2 1 1dd55 1 0 1 1dd25 1 9 1 1dd57 4 5 1 1dcc1 3 5 1 1dcc5 3",
   "5 1 1dcc9 3 2 1 1dccd 4 1 1 1fe7b 1 0 1 1fe6b 2 0 1 1fe7b 1 0 1 1fe7f 1 0 1 1be79 2 0 1",
   "1b5cb 1 3 1 1bcb1 1 0 1 1b499 1 0 1 1b445 412 27 1 50 89 23 1 50 9d a 1 4e 2 e 1 4e 2 6 1 4e",
   "2 1 1 4e 1ec 1 1 20961 1 0 1 20d39 1 0 1 209d5 1 0 1 20a63 2 0 1 209c7 1 0 1 b843 1 0 1",
   "209c7 1 0 1 209cb 1 1 1 20a69 1 0 1 1d3f7 1 0 1 20a6b 1 0 1 20a61 1 0 1 209cd 1 0 1 20a59 1",
   "0 1 20a5f 1 0 1 20a65 1 0 1 209f1 1 0 1 20cdb 1 0 1 209f3 1 0 1 20a5f 1 0 1 20a27 1 1 1",
   "209dd 1 0 1 20a5d 1 0 1 1aed0 1 0 1 c01d 1 0 1 20a5f 1 0 1 1aecc 1 0 1 20a23 1 0 1 1aeca 1 0",
   "1 20d53 1 1 1 20a59 1 0 1 20e67 1 0 1 20a57 1 0 1 1aec2 1 1 1 20a55 1 0 1 20a53 1 0 1 20a05",
   "1 0 1 20a0b 1 0 1 b88b 1 0 1 20a0d 1 0 1 20a4d 1 0 1 1b67d 2 0 1 20a45 1 1 1 20a23 1 0 1",
   "20a39 1 2 1 20beb 1 0 1 1aea2 1 0 1 1aec8 4c6 32 1 80 9e 15 1 40 b3b 1f 1 40 5581 1f 1 40 41",
   "18 1 36 5e1e 19 1 398e9 1 9 1 3997f 707 19 1 3a73d 1 19 1 3a771 1 19 1 3a7a5 1 6 1 3a7d9 2",
   "11 1 3a7d9 1 19 1 3a80d 1 19 1 3a841 1 2 2 3a875 1 0 1 3a875 3 0 1 3a875 3 1 1 3a875 3 3 1",
   "3a875 2 7 1 3a875 1 3 1 3a8a9 2 2 2 3a8a9 1 5 1 3a8a9 2 a 1 3a8a9 1 19 1 3a8dd 1 19 1 3a911",
   "1 1 1 3a945 2 3 1 3a945 3 7 1 3a945 2 6 1 3a945 2 19 1 3a979 1 1 1 3a9ad 2 3 1 3a9ad 2 4 1",
   "3a9ad 2 0 1 3a9ad 4 6 1 3a9ad 2 19 1 3a9e1 1 19 1 3aa15 1 19 1 3aa49 1 19 1 3aa7d 1 19 1",
   "3aab1 1 19 1 3aae5 1 19 1 3ab19 1 19 1 3ab4d 1 19 1 3ab81 1 19 1 3abb5 1 19 1 3abe9 1 19 1",
   "3ac1d 1 19 1 3ac51 1 0 1 3aae5 1 0 1 3a8db 3 10 1 3a5ed 1 0 1 3a601 1 6 1 3a5ed 1 0 1 36973",
   "1 10 1 3a621 1 1 0 3a61f 1 5 1 3a621 1 0 1 369b1 1 0 1 3a64d 1 0 1 3a649 1 0 1 3a647 1 0 1",
   "3a631 1 0 1 3a63d 1 0 1 3a641 1 10 1 3a661 1 0 1 3a675 1 6 1 3a661 1 0 1 369e7 1 10 1 3a695",
   "1 1 0 3a693 1 5 1 3a695 1 0 1 36a25 1 0 1 3a6c1 1 0 1 3a6bd 1 0 1 3a6bb 1 0 1 3a6a5 1 0 1",
   "3a6b1 1 0 1 3a6b5 1 10 1 3a6d5 1 0 1 3a6e9 1 6 1 3a6d5 1 0 1 36a5b 1 10 1 3a709 1 1 0 3a707",
   "1 5 1 3a709 1 0 1 36a99 1 0 1 3a735 1 0 1 3a731 1 0 1 3a72f 1 0 1 3a719 1 0 1 3a725 1 0 1",
   "3a729 1 10 1 3a749 1 0 1 3a75d 1 6 1 3a749 1 0 1 36acf 1 10 1 3a77d 1 1 0 3a77b 1 5 1 3a77d",
   "1 0 1 36b0d 1 0 1 3a7a9 1 0 1 3a7a5 1 0 1 3a7a3 1 0 1 3a78d 1 0 1 3a799 1 0 1 3a79d 1 10 1",
   "3a7bd 1 0 1 3a7d1 1 6 1 3a7bd 1 0 1 36b43 1 10 1 3a7f1 1 1 0 3a7ef 1 5 1 3a7f1 1 0 1 36b81 1",
   "0 1 3a81d 1 0 1 3a819 1 0 1 3a817 1 0 1 3a801 1 0 1 3a80d 1 0 1 3a811 1 1 0 3a7d9 3 9 1",
   "3af3b 1 9 1 3af4f 1 9 1 3af63 1 9 1 3af77 1 9 1 3af8b 831 8 1 3b7ff 1 2 1 3b7fd 1 a 1 3b7fb",
   "1 0 1 3b7f7 1 1 1 3b7f5 1 0 1 27381 1 0 1 3b6e3 1 0 1 3b7eb 1 0 1 3b7e9 1 0 1 3b6c9 1 0 1",
   "3b73f 1 0 1 3b701 1 8 1 3b841 1 1 1 3b83f 1 1 1 3b83b 1 0 1 3b839 1 5 1 3b837 1 1 1 3b835 1",
   "0 1 3b7ab 1 0 1 3b823 1 0 1 3b827 1 0 1 3b815 1 0 1 3b77f 1 0 1 27435 1 0 1 3b777 893 21 1",
   "44 4df 1 1 3cfb1 1 0 1 3cfab 1 0 1 3cfa7 2 0 1 3cf79 1 0 1 3cfa7 1 0 1 3cfb3 1 0 1 3cfa1 1 0",
   "1 3cf7d 1 3 1 3cf8d 1 0 1 3cfb5 1 0 1 3cfab 1 0 1 3cf9d 1 0 1 3cfb7 1 0 1 3cf9f 1 0 1 3cfc3",
   "1 0 1 3cfbf 1 1 1 3cfd5 1 0 1 3cfd1 1 0 1 3cfcf 1 0 1 3cfc5 1 0 1 3cfc3 1 0 1 3cfc1 1 0 1",
   "3cf5b 1 0 1 3cec5 1 0 1 3cef9 1 0 1 3cf5f 2 0 1 3cff1 1 0 1 3cfeb 2 0 1 3cfb9 3 0 1 3cff3 2",
   "0 1 3cfbd 1 3 1 3cfcd 1 0 1 3cff5 1 0 1 3cfeb 1 0 1 3cfdd 1 0 1 3cff7 1 0 1 3cfdf 2 0 1",
   "3cfff 1 1 1 3d015 1 0 1 3d011 2 0 1 3d005 2 0 1 3d001 7 0 1 3d02b 5 0 1 3d033 2 0 1 3cffd 2",
   "2 2 3d00d 1 0 1 3d035 1 0 1 3d02b 2 0 1 3d037 1 0 1 3d01f 2 0 1 3d03f 3 0 1 3d051 2 0 1",
   "3d045 2 0 1 3d041 2 0 1 3cf45 2 0 1 3cfdf 2 0 1 3d071 1 0 1 3d06b 2 0 1 3d039 3 0 1 3d073 1",
   "0 1 3d061 1 0 1 3d03d 1 2 2 3d04d 1 0 1 3d04d 1 0 1 3d075 1 0 1 3d06b 1 0 1 3d05d 1 0 1",
   "3d077 1 0 1 3d05f 2 0 1 3d07f 1 1 1 3d095 1 0 1 3d091 2 0 1 3d085 1 0 1 3d083 1 0 1 3d081 1",
   "0 1 3d01b 2 0 1 3cfb9 2 1 1 3d0b1 1 0 1 3d0ab 1 0 1 3d0a7 1 1 1 3d079 1 0 1 3d0a7 1 0 1",
   "3d0b3 1 0 1 3d0a1 1 0 1 3d07d 2 2 1 3d08d 1 0 1 3d0b5 1 0 1 3d0ab 1 0 1 3d09d 1 0 1 3d0b7 1",
   "0 1 3d09f 1 0 1 3d0c3 1 0 1 3d0bf 1 1 1 3d0d5 1 0 1 3d0d1 1 0 1 3d0cf 1 0 1 3d0c5 1 0 1",
   "3d0c3 1 0 1 3d0c1 6 0 1 3d0f1 1 0 1 3d0eb 1 0 1 3d0e7 2 0 1 3d0b9 1 0 1 3d0e7 1 0 1 3d0f3 1",
   "0 1 3d0e1 1 0 1 3d0bd 2 2 1 3d0cd 1 0 1 3d0f5 1 0 1 3d0eb 1 0 1 3d0dd 1 0 1 3d0f7 1 0 1",
   "3d0df 1 0 1 3d103 1 0 1 3d0ff 1 1 1 3d115 1 0 1 3d111 1 0 1 3d10f 1 0 1 3d105 1 0 1 3d103 1",
   "0 1 3d101 270 0 1 3e18f 1 0 1 3e173 4 19 1 3e19d b9 0 1 38299 e 0 1 31f89 1 0 1 32d73 1 0 1",
   "33c8b 1 0 1 38297 1 0 1 3470f 1 0 1 331f5 1 0 1 2d065 1 0 1 331db 1 0 1 346e7 1 0 1 317f1 1",
   "0 1 301f1 1 0 1 31903 1 0 1 33f9d 1 0 1 32521 1 0 1 34121 1 0 1 318dd 1 0 1 34005 1 0 1",
   "2e9bd 1 0 1 2fa05 1 0 1 2caf3 1 0 1 33267 1 0 1 33bd7 1 0 1 30623 1 0 1 31f23 1 0 1 31da5 1",
   "0 1 34851 1 0 1 34841 1 0 1 2c3c1 1 0 1 3288b 1 0 1 347ff 1 0 1 33c75 1 0 1 31e4f 1 0 1",
   "2c97f 1 0 1 31fbb 1 0 1 2f161 1 0 1 2ef71 1 0 1 33c57 1 0 1 30769 1 0 1 31659 1 0 1 3165d 1",
   "0 1 2fa09 1 0 1 33f8d 1 0 1 33907 1 0 1 2c1db 15 0 1 32571 1 0 1 33cc3 99f 9 1 3f77f fc07 0",
   "1 55385 1 0 1 55391 1 0 1 55381 1 0 1 1edc1 1 0 1 55147 1 0 1 550ad 1 0 1 55095 1 0 1 55009",
   "1 0 1 54f1b 1 0 1 54edf 1 0 1 54e45 1 0 1 54e77 1 0 1 586db 1 0 1 1e3a5 1 0 1 54d81 1 0 1",
   "54d75 1 0 1 54d57 1 0 1 54d33 1 0 1 1e5eb 1 0 1 586b3 1 0 1 54d59 1 0 1 54d0f 1 0 1 1e595 1",
   "0 1 54cff 1 0 1 54ce7 1 0 1 55299 1 0 1 54cdb 1 0 1 54ccb 1 0 1 cc79 1 0 1 54c4f 1 0 1 54c35",
   "1 0 1 5867f 1 0 1 54bc9 1 0 1 54bb5 1 0 1 54b5f 1 0 1 54b57 1 0 1 5861d 1 0 1 54abb 1 0 1",
   "54ab9 1 0 1 54a85 1 0 1 54a5b 1 1 1 54a47 1 0 1 54a27 1 0 1 549c5 1 0 1 549b7 1 0 1 549a7 1",
   "0 1 54977 1 0 1 54965 1 2 0 54963 1 0 1 1dc0f 1 0 1 50f89 1 0 1 548d7 1 0 1 548af 1 0 1",
   "1d9a9 1 0 1 5489b 1 0 1 54891 1 0 1 54869 1 0 1 5473b 1 0 1 54809 1 0 1 547eb 1 0 1 547ad 1",
   "0 1 5473b 1 0 1 54695 1 0 1 54663 1 0 1 545df 1 0 1 545c1 1 1 0 54581 1 0 1 5455b 1 0 1",
   "54539 1 0 1 5452b 1 0 1 5450f 1 0 1 54269 1 0 1 5448b 1 0 1 5426b 1 0 1 543f9 1 0 1 543b5 1",
   "0 1 54c91 1 0 1 53ec5 1 0 1 54107 1 0 1 540bd 1 0 1 5408d 1 0 1 54193 1 0 1 54047 1 0 1",
   "5404b 1 0 1 53f57 1 0 1 1c6e9 1 0 1 53ecf 1 0 1 53ec7 1 0 1 53eab 1 0 1 53e85 1 0 1 53e77 1",
   "0 1 53df9 1 0 1 1c36f 1 0 1 1c2ed 1 0 1 53ceb 1 0 1 53c8f 1 0 1 53c79 1 0 1 53d19 1 0 1",
   "53bff 1 0 1 582f1 1 0 1 582d7 1 0 1 53ac1 1 1 0 53a57 1 0 1 1bd47 1 0 1 53953 1 0 1 5392b 1",
   "0 1 5390f 1 0 1 538f9 1 0 1 1bab1 1 0 1 538e5 1 0 1 538d9 1 0 1 53241 1 0 1 538a5 1 0 1",
   "581e9 1 0 1 5382d 1 0 1 53813 1 0 1 53771 1 0 1 537d9 1 0 1 1b52d 1 0 1 53671 1 0 1 1b52d 1",
   "0 1 5361f 1 0 1 53627 1 0 1 53607 1 1 1 5353f 1 0 1 580a7 1 0 1 5350d 1 0 1 534b9 1 0 1",
   "53491 1 0 1 5343b 1 0 1 5804b 1 0 1 1ae0b 1 0 1 5801b 1 0 1 533b5 1 0 1 533b1 1 0 1 533ad 1",
   "0 1 53387 1 0 1 a9f9 1 0 1 53323 1 1 0 1aabf 1 0 1 4ed23 1 1 0 532e3 1 0 1 57f9d 1 0 1 18bbd",
   "1 0 1 12d7b 1 0 1 5326d 1 0 1 5325d 1 0 1 57f6f 1 0 1 53203 1 0 1 5319f 1 0 1 5318d 1 0 1",
   "5314b 1 0 1 5303d 1 0 1 57ecd 1 0 1 57f0b 1 0 1 5301d 1 0 1 1a39f 1 0 1 52fbb 1 0 1 52ebb 1",
   "0 1 52eb5 1 0 1 52eb3 1 0 1 52eb9 1 0 1 52e5f 1 0 1 52e39 1 0 1 52df3 1 0 1 52e11 1 0 1",
   "52dfd 1 0 1 52da1 1 0 1 52d7b 1 0 1 52d75 1 0 1 52d43 1 0 1 52d2f 1 0 1 52cad 1 0 1 52c07 1",
   "0 1 52bc3 1 0 1 52acd 1 0 1 19b57 1 0 1 52af7 1 0 1 52b7b 1 0 1 52aa5 1 0 1 52a71 1 0 1",
   "529b1 1 0 1 19999 1 0 1 52939 1 0 1 529f5 1 0 1 52a2f 1 0 1 57d27 1 0 1 528b3 1 0 1 5288b 1",
   "0 1 5284f 1 0 1 5289d 1 0 1 57cb5 1 0 1 526f1 1 0 1 526b9 1 0 1 1917f 1 0 1 525cf 1 0 1",
   "523a7 1 0 1 52507 1 0 1 57b69 1 0 1 5247b 1 0 1 57b8f 1 0 1 57bd9 1 0 1 54e7f 1 0 1 54e7b 1",
   "0 1 523a7 1 0 1 52471 1 0 1 4f051 1 0 1 569fb 1 0 1 52381 1 0 1 5237b 1 0 1 52371 1 0 1",
   "522f9 1 0 1 52311 1 0 1 18a33 1 0 1 57b29 1 0 1 521c9 1 0 1 522b5 1 0 1 5211d 1 0 1 520b9 1",
   "0 1 188eb 1 0 1 520ab 1 0 1 5218b 1 0 1 51fa3 1 0 1 57a93 1 0 1 51f4b 1 0 1 51e8b 1 0 1",
   "51dff 1 0 1 51c85 1 0 1 18491 1 0 1 51c23 1 0 1 579ab 1 0 1 51b9b 1 0 1 18091 1 0 1 51b39 1",
   "0 1 57947 1 0 1 51b01 1 0 1 51aa9 1 1 1 51a75 1 0 1 17cd3 1 0 1 1b7d9 1 0 1 17bfd 1 0 1",
   "51957 1 0 1 1787d 1 0 1 51879 1 0 1 5185f 1 0 1 5192d 1 0 1 517d1 1 0 1 51783 1 0 1 51713 1",
   "0 1 51781 1 0 1 51733 1 0 1 51717 1 0 1 516ff 1 0 1 177cf 1 0 1 517a5 1 0 1 515b1 1 0 1",
   "51535 1 0 1 577ad 1 0 1 5147f 1 0 1 51489 1 0 1 17477 1 0 1 51629 1 0 1 51341 1 0 1 17363 1",
   "0 1 17305 1 0 1 51297 1 0 1 511b3 1 0 1 511eb 1 0 1 511f3 1 0 1 576ff 1 0 1 51199 1 0 1",
   "51135 1 0 1 51143 1 0 1 510d9 1 0 1 1e7eb 1 0 1 50fad 1 0 1 16d73 1 0 1 50f03 1 0 1 16ae7 1",
   "0 1 50def 1 0 1 50dd7 1 0 1 50da3 1 0 1 16635 1 0 1 50d47 1 0 1 50d1f 1 0 1 163e1 1 0 1",
   "16225 1 0 1 50b5b 1 0 1 50b3b 1 0 1 574fb 1 0 1 50b0b 1 1 0 574e7 1 0 1 509cd 1 0 1 509a5 1",
   "0 1 5097d 1 0 1 50957 1 0 1 508cf 1 0 1 5742f 1 0 1 5081f 1 0 1 159fd 1 0 1 507ef 1 0 1",
   "15949 1 0 1 5078f 1 0 1 1af33 1 0 1 50653 1 0 1 15333 1 0 1 15307 1 0 1 151f1 1 0 1 57283 1",
   "0 1 5726d 1 0 1 50497 1 0 1 1509b 1 0 1 1509f 1 0 1 15053 1 0 1 15021 1 1 1 5044d 1 0 1",
   "5044f 1 0 1 503fb 1 0 1 5721f 1 0 1 5037d 1 0 1 57209 1 0 1 5716b 1 0 1 14a5f 1 0 1 501ff 1",
   "0 1 50185 1 0 1 50107 1 0 1 570db 1 0 1 14657 1 0 1 4fff9 1 0 1 14573 1 0 1 1451f 1 0 1",
   "4ff8d 1 0 1 4fed7 1 0 1 57051 1 0 1 4fe31 1 0 1 4fe1f 1 0 1 4fe17 1 0 1 13fbf 1 1 0 13d6b 1",
   "0 1 4fce1 1 0 1 56ebb 1 0 1 13b6b 1 0 1 4fb37 1 0 1 4fb33 1 0 1 56e79 1 0 1 139c9 1 0 1",
   "4f927 1 0 1 56d8d 1 0 1 4f8ff 1 0 1 4f90b 1 0 1 4f8d3 1 0 1 133c9 1 0 1 4f811 1 0 1 56cd7 1",
   "0 1 4f74d 1 0 1 4f6d9 1 0 1 4f655 1 0 1 56c79 1 0 1 12e93 1 0 1 12e57 1 0 1 56c35 1 0 1",
   "12d37 1 0 1 4f3f7 1 0 1 12c71 1 0 1 4f3c5 1 0 1 4f2fd 1 0 1 4f2e9 1 0 1 12941 1 0 1 128b1 1",
   "0 1 4f239 1 0 1 127ab 1 0 1 4f21d 1 0 1 18c41 1 0 1 56b57 1 0 1 4f19f 1 0 1 4f0ff 1 0 1",
   "56af1 1 0 1 4f08d 1 0 1 53da1 1 0 1 123bf 1 0 1 123a5 1 0 1 18beb 1 0 1 18bdb 1 0 1 4ef13 1",
   "0 1 4ef0f 1 0 1 4d3dd 1 0 1 56a45 1 0 1 4edfb 1 0 1 4ee09 1 0 1 4ede7 1 0 1 54dbd 1 0 1",
   "4edc3 1 0 1 4edc1 1 0 1 4edaf 1 0 1 4ed5f 1 0 1 11cb5 1 0 1 4ed65 1 0 1 4ecf7 1 0 1 4ec6d 1",
   "0 1 4ebdb 1 0 1 4ecf1 1 0 1 4ebbf 1 0 1 4eb6d 1 0 1 4ea8f 1 0 1 4ec99 1 0 1 4ebad 1 0 1",
   "4ebab 1 0 1 4eb8d 1 0 1 11adb 1 0 1 11873 1 0 1 119a1 1 0 1 568f7 1 0 1 4e96d 1 0 1 4e96b 1",
   "0 1 4e927 1 0 1 10bc1 1 0 1 4e88f 1 0 1 11501 1 0 1 568a1 1 0 1 5689b 1 0 1 113fd 1 0 1",
   "111bd 1 0 1 5688d 1 0 1 4e6c5 1 0 1 4e6af 1 0 1 4e69b 1 0 1 4e699 1 0 1 4e61b 1 0 1 4e65f 1",
   "0 1 4e555 1 0 1 4e5af 1 0 1 4e483 1 0 1 4e527 1 0 1 4e4a3 1 0 1 4e46f 1 0 1 567cf 1 0 1",
   "4e3bd 1 0 1 4e37f 1 0 1 56791 1 0 1 4e2c5 1 0 1 4e2c1 1 0 1 106bb 1 0 1 4e1dd 1 0 1 4e1d1 1",
   "0 1 56725 1 0 1 4e19d 1 0 1 58a1d 1 0 1 10239 1 0 1 100cb 1 0 1 5661d 1 0 1 5660d 1 0 1",
   "4de5d 1 0 1 4ddc5 1 0 1 4dc8d 1 0 1 4daf9 1 0 1 fa55 1 0 1 4da51 1 0 1 4da27 1 0 1 4d975 1 0",
   "1 4d8bf 1 0 1 f551 1 0 1 1e3a9 1 0 1 4d81d 1 0 1 4d83d 1 0 1 4d7d7 1 0 1 1e1fd 1 0 1 4d613 1",
   "0 1 4d54d 1 0 1 e81b 1 0 1 e7e7 1 0 1 4d29b 1 0 1 4d1e3 1 0 1 4d1a5 1 0 1 e56d 1 0 1 4d195 1",
   "0 1 4cf5d 1 1 1 4ce21 1 0 1 4cedb 1 0 1 4cbe3 1 0 1 4cbad 1 0 1 dbe5 1 0 1 4c8c5 1 0 1 560b3",
   "1 0 1 4c871 1 0 1 d8f3 1 0 1 56017 1 0 1 4c65f 1 0 1 53883 1 0 1 4c5a3 1 0 1 d161 1 0 1 cfb9",
   "1 0 1 55f13 1 0 1 55f05 1 0 1 4c433 1 0 1 cbe1 1 0 1 55e93 1 0 1 cacd 1 1 0 4c3e5 1 0 1",
   "4c3ad 1 0 1 c895 1 0 1 4c23f 1 0 1 55d9f 1 0 1 4c1b5 1 0 1 4c0bb 1 0 1 4c087 1 0 1 4c011 1 0",
   "1 55c73 1 0 1 bdb1 1 0 1 4bdef 1 0 1 4bb95 1 0 1 4ba1d 1 0 1 55a7d 1 0 1 55a41 1 0 1 4b94f 1",
   "0 1 b283 1 0 1 55a31 1 0 1 b219 1 0 1 b009 1 0 1 af05 1 0 1 4b6b3 1 0 1 5597f 1 0 1 4b63b 1",
   "0 1 4b633 1 0 1 4b627 1 0 1 4b615 1 0 1 4b609 1 0 1 4b5c1 1 0 1 a839"]

/-- Characters that are replaced by several: gap, count and replacement of each. -/
def expandedRows : List String :=
  ["a8 2 20 308 7 2 20 304 5 2 20 301 4 2 20 327 4 3 31 2044 34 1 3 31 2044 32 1 3 33 2044 34 72",
   "2 69 307 2 2 69 6a 1 2 69 6a c 2 6c b7 1 2 6c b7 9 2 2bc 6e 7b 2 64 17e 1 2 64 17e 1 2 64",
   "17e 1 2 6c 6a 1 2 6c 6a 1 2 6c 6a 1 2 6e 6a 1 2 6e 6a 1 2 6e 6a 25 2 64 7a 1 2 64 7a 1 2 64",
   "7a e5 2 20 306 1 2 20 307 1 2 20 30a 1 2 20 328 1 2 20 303 1 2 20 30b 67 2 308 301 36 2 20",
   "3b9 a 2 20 301 1 3 20 308 301 202 2 565 582 ee 2 627 674 1 2 648 674 1 2 6c7 674 1 2 64a 674",
   "2e0 2 915 93c 1 2 916 93c 1 2 917 93c 1 2 91c 93c 1 2 921 93c 1 2 922 93c 1 2 92b 93c 1 2",
   "92f 93c 7d 2 9a1 9bc 1 2 9a2 9bc 2 2 9af 9bc 54 2 a32 a3c 3 2 a38 a3c 23 2 a16 a3c 1 2 a17",
   "a3c 1 2 a1c a3c 3 2 a2b a3c fe 2 b21 b3c 1 2 b22 b3c 2d6 2 e4d e32 80 2 ecd eb2 29 2 eab e99",
   "1 2 eab ea1 66 2 f42 fb7 a 2 f4c fb7 5 2 f51 fb7 5 2 f56 fb7 5 2 f5b fb7 d 2 f40 fb5 a 2 f71",
   "f72 2 2 f71 f74 1 2 fb2 f80 1 3 fb2 f71 f80 1 2 fb3 f80 1 3 fb3 f71 f80 8 2 f71 f80 12 2 f92",
   "fb7 a 2 f9c fb7 5 2 fa1 fb7 5 2 fa6 fb7 5 2 fab fb7 d 2 f90 fb5 ee1 2 61 2be e6 2 1f00 3b9 1",
   "2 1f01 3b9 1 2 1f02 3b9 1 2 1f03 3b9 1 2 1f04 3b9 1 2 1f05 3b9 1 2 1f06 3b9 1 2 1f07 3b9 1 2",
   "1f00 3b9 1 2 1f01 3b9 1 2 1f02 3b9 1 2 1f03 3b9 1 2 1f04 3b9 1 2 1f05 3b9 1 2 1f06 3b9 1 2",
   "1f07 3b9 1 2 1f20 3b9 1 2 1f21 3b9 1 2 1f22 3b9 1 2 1f23 3b9 1 2 1f24 3b9 1 2 1f25 3b9 1 2",
   "1f26 3b9 1 2 1f27 3b9 1 2 1f20 3b9 1 2 1f21 3b9 1 2 1f22 3b9 1 2 1f23 3b9 1 2 1f24 3b9 1 2",
   "1f25 3b9 1 2 1f26 3b9 1 2 1f27 3b9 1 2 1f60 3b9 1 2 1f61 3b9 1 2 1f62 3b9 1 2 1f63 3b9 1 2",
   "1f64 3b9 1 2 1f65 3b9 1 2 1f66 3b9 1 2 1f67 3b9 1 2 1f60 3b9 1 2 1f61 3b9 1 2 1f62 3b9 1 2",
   "1f63 3b9 1 2 1f64 3b9 1 2 1f65 3b9 1 2 1f66 3b9 1 2 1f67 3b9 3 2 1f70 3b9 1 2 3b1 3b9 1 2",
   "3ac 3b9 3 2 1fb6 3b9 5 2 3b1 3b9 1 2 20 313 2 2 20 313 1 2 20 342 1 3 20 308 342 1 2 1f74",
   "3b9 1 2 3b7 3b9 1 2 3ae 3b9 3 2 1fc6 3b9 5 2 3b7 3b9 1 3 20 313 300 1 3 20 313 301 1 3 20",
   "313 342 e 3 20 314 300 1 3 20 314 301 1 3 20 314 342 e 3 20 308 300 1 3 20 308 301 4 2 1f7c",
   "3b9 1 2 3c9 3b9 1 2 3ce 3b9 3 2 1ff6 3b9 5 2 3c9 3b9 1 2 20 301 1 2 20 314 19 2 20 333 1c 2",
   "2032 2032 1 3 2032 2032 2032 2 2 2035 2035 1 3 2035 2035 2035 5 2 21 21 2 2 20 305 9 2 3f 3f",
   "1 2 3f 21 1 2 21 3f e 4 2032 2032 2032 2032 51 2 72 73 58 3 61 2f 63 1 3 61 2f 73 2 2 b0 63",
   "2 3 63 2f 6f 1 3 63 2f 75 3 2 b0 66 d 2 6e 6f a 2 73 6d 1 3 74 65 6c 1 2 74 6d 19 3 66 61 78",
   "15 3 31 2044 37 1 3 31 2044 39 1 4 31 2044 31 30 1 3 31 2044 33 1 3 32 2044 33 1 3 31 2044",
   "35 1 3 32 2044 35 1 3 33 2044 35 1 3 34 2044 35 1 3 31 2044 36 1 3 35 2044 36 1 3 31 2044 38",
   "1 3 33 2044 38 1 3 35 2044 38 1 3 37 2044 38 1 2 31 2044 2 2 69 69 1 3 69 69 69 1 2 69 76 2",
   "2 76 69 1 3 76 69 69 1 4 76 69 69 69 1 2 69 78 2 2 78 69 1 3 78 69 69 6 2 69 69 1 3 69 69 69",
   "1 2 69 76 2 2 76 69 1 3 76 69 69 1 4 76 69 69 69 1 2 69 78 2 2 78 69 1 3 78 69 69 e 3 30",
   "2044 33 a3 2 222b 222b 1 3 222b 222b 222b 2 2 222e 222e 1 3 222e 222e 222e 239 2 31 30 1 2",
   "31 31 1 2 31 32 1 2 31 33 1 2 31 34 1 2 31 35 1 2 31 36 1 2 31 37 1 2 31 38 1 2 31 39 1 2 32",
   "30 1 3 28 31 29 1 3 28 32 29 1 3 28 33 29 1 3 28 34 29 1 3 28 35 29 1 3 28 36 29 1 3 28 37",
   "29 1 3 28 38 29 1 3 28 39 29 1 4 28 31 30 29 1 4 28 31 31 29 1 4 28 31 32 29 1 4 28 31 33 29",
   "1 4 28 31 34 29 1 4 28 31 35 29 1 4 28 31 36 29 1 4 28 31 37 29 1 4 28 31 38 29 1 4 28 31 39",
   "29 1 4 28 32 30 29 15 3 28 61 29 1 3 28 62 29 1 3 28 63 29 1 3 28 64 29 1 3 28 65 29 1 3 28",
   "66 29 1 3 28 67 29 1 3 28 68 29 1 3 28 69 29 1 3 28 6a 29 1 3 28 6b 29 1 3 28 6c 29 1 3 28",
   "6d 29 1 3 28 6e 29 1 3 28 6f 29 1 3 28 70 29 1 3 28 71 29 1 3 28 72 29 1 3 28 73 29 1 3 28",
   "74 29 1 3 28 75 29 1 3 28 76 29 1 3 28 77 29 1 3 28 78 29 1 3 28 79 29 1 3 28 7a 29 557 4",
   "222b 222b 222b 222b 68 3 3a 3a 3d 1 2 3d 3d 1 3 3d 3d 3d 66 2 2add 338 5bf 2 20 3099 1 2 20",
   "309a 3 2 3088 308a 60 2 30b3 30c8 101 3 28 1100 29 1 3 28 1102 29 1 3 28 1103 29 1 3 28 1105",
   "29 1 3 28 1106 29 1 3 28 1107 29 1 3 28 1109 29 1 3 28 110b 29 1 3 28 110c 29 1 3 28 110e 29",
   "1 3 28 110f 29 1 3 28 1110 29 1 3 28 1111 29 1 3 28 1112 29 1 3 28 ac00 29 1 3 28 b098 29 1",
   "3 28 b2e4 29 1 3 28 b77c 29 1 3 28 b9c8 29 1 3 28 bc14 29 1 3 28 c0ac 29 1 3 28 c544 29 1 3",
   "28 c790 29 1 3 28 cc28 29 1 3 28 ce74 29 1 3 28 d0c0 29 1 3 28 d30c 29 1 3 28 d558 29 1 3 28",
   "c8fc 29 1 4 28 c624 c804 29 1 4 28 c624 d6c4 29 2 3 28 4e00 29 1 3 28 4e8c 29 1 3 28 4e09 29",
   "1 3 28 56db 29 1 3 28 4e94 29 1 3 28 516d 29 1 3 28 4e03 29 1 3 28 516b 29 1 3 28 4e5d 29 1",
   "3 28 5341 29 1 3 28 6708 29 1 3 28 706b 29 1 3 28 6c34 29 1 3 28 6728 29 1 3 28 91d1 29 1 3",
   "28 571f 29 1 3 28 65e5 29 1 3 28 682a 29 1 3 28 6709 29 1 3 28 793e 29 1 3 28 540d 29 1 3 28",
   "7279 29 1 3 28 8ca1 29 1 3 28 795d 29 1 3 28 52b4 29 1 3 28 4ee3 29 1 3 28 547c 29 1 3 28",
   "5b66 29 1 3 28 76e3 29 1 3 28 4f01 29 1 3 28 8cc7 29 1 3 28 5354 29 1 3 28 796d 29 1 3 28",
   "4f11 29 1 3 28 81ea 29 1 3 28 81f3 29 d 3 70 74 65 1 2 32 31 1 2 32 32 1 2 32 33 1 2 32 34 1",
   "2 32 35 1 2 32 36 1 2 32 37 1 2 32 38 1 2 32 39 1 2 33 30 1 2 33 31 1 2 33 32 1 2 33 33 1 2",
   "33 34 1 2 33 35 1d 2 cc38 ace0 1 2 c8fc c758 34 2 33 36 1 2 33 37 1 2 33 38 1 2 33 39 1 2 34",
   "30 1 2 34 31 1 2 34 32 1 2 34 33 1 2 34 34 1 2 34 35 1 2 34 36 1 2 34 37 1 2 34 38 1 2 34 39",
   "1 2 35 30 1 2 31 6708 1 2 32 6708 1 2 33 6708 1 2 34 6708 1 2 35 6708 1 2 36 6708 1 2 37",
   "6708 1 2 38 6708 1 2 39 6708 1 3 31 30 6708 1 3 31 31 6708 1 3 31 32 6708 1 2 68 67 1 3 65",
   "72 67 1 2 65 76 1 3 6c 74 64 30 2 4ee4 548c 1 4 30a2 30d1 30fc 30c8 1 4 30a2 30eb 30d5 30a1",
   "1 4 30a2 30f3 30da 30a2 1 3 30a2 30fc 30eb 1 4 30a4 30cb 30f3 30b0 1 3 30a4 30f3 30c1 1 3",
   "30a6 30a9 30f3 1 5 30a8 30b9 30af 30fc 30c9 1 4 30a8 30fc 30ab 30fc 1 3 30aa 30f3 30b9 1 3",
   "30aa 30fc 30e0 1 3 30ab 30a4 30ea 1 4 30ab 30e9 30c3 30c8 1 4 30ab 30ed 30ea 30fc 1 3 30ac",
   "30ed 30f3 1 3 30ac 30f3 30de 1 2 30ae 30ac 1 3 30ae 30cb 30fc 1 4 30ad 30e5 30ea 30fc 1 4",
   "30ae 30eb 30c0 30fc 1 2 30ad 30ed 1 5 30ad 30ed 30b0 30e9 30e0 1 6 30ad 30ed 30e1 30fc 30c8",
   "30eb 1 5 30ad 30ed 30ef 30c3 30c8 1 3 30b0 30e9 30e0 1 5 30b0 30e9 30e0 30c8 30f3 1 5 30af",
   "30eb 30bc 30a4 30ed 1 4 30af 30ed 30fc 30cd 1 3 30b1 30fc 30b9 1 3 30b3 30eb 30ca 1 3 30b3",
   "30fc 30dd 1 4 30b5 30a4 30af 30eb 1 5 30b5 30f3 30c1 30fc 30e0 1 4 30b7 30ea 30f3 30b0 1 3",
   "30bb 30f3 30c1 1 3 30bb 30f3 30c8 1 3 30c0 30fc 30b9 1 2 30c7 30b7 1 2 30c9 30eb 1 2 30c8",
   "30f3 1 2 30ca 30ce 1 3 30ce 30c3 30c8 1 3 30cf 30a4 30c4 1 5 30d1 30fc 30bb 30f3 30c8 1 3",
   "30d1 30fc 30c4 1 4 30d0 30fc 30ec 30eb 1 5 30d4 30a2 30b9 30c8 30eb 1 3 30d4 30af 30eb 1 2",
   "30d4 30b3 1 2 30d3 30eb 1 5 30d5 30a1 30e9 30c3 30c9 1 4 30d5 30a3 30fc 30c8 1 5 30d6 30c3",
   "30b7 30a7 30eb 1 3 30d5 30e9 30f3 1 5 30d8 30af 30bf 30fc 30eb 1 2 30da 30bd 1 3 30da 30cb",
   "30d2 1 3 30d8 30eb 30c4 1 3 30da 30f3 30b9 1 3 30da 30fc 30b8 1 3 30d9 30fc 30bf 1 4 30dd",
   "30a4 30f3 30c8 1 3 30dc 30eb 30c8 1 2 30db 30f3 1 3 30dd 30f3 30c9 1 3 30db 30fc 30eb 1 3",
   "30db 30fc 30f3 1 4 30de 30a4 30af 30ed 1 3 30de 30a4 30eb 1 3 30de 30c3 30cf 1 3 30de 30eb",
   "30af 1 5 30de 30f3 30b7 30e7 30f3 1 4 30df 30af 30ed 30f3 1 2 30df 30ea 1 5 30df 30ea 30d0",
   "30fc 30eb 1 2 30e1 30ac 1 4 30e1 30ac 30c8 30f3 1 4 30e1 30fc 30c8 30eb 1 3 30e4 30fc 30c9 1",
   "3 30e4 30fc 30eb 1 3 30e6 30a2 30f3 1 4 30ea 30c3 30c8 30eb 1 2 30ea 30e9 1 3 30eb 30d4 30fc",
   "1 4 30eb 30fc 30d6 30eb 1 2 30ec 30e0 1 5 30ec 30f3 30c8 30b2 30f3 1 3 30ef 30c3 30c8 1 2 30",
   "70b9 1 2 31 70b9 1 2 32 70b9 1 2 33 70b9 1 2 34 70b9 1 2 35 70b9 1 2 36 70b9 1 2 37 70b9 1 2",
   "38 70b9 1 2 39 70b9 1 3 31 30 70b9 1 3 31 31 70b9 1 3 31 32 70b9 1 3 31 33 70b9 1 3 31 34",
   "70b9 1 3 31 35 70b9 1 3 31 36 70b9 1 3 31 37 70b9 1 3 31 38 70b9 1 3 31 39 70b9 1 3 32 30",
   "70b9 1 3 32 31 70b9 1 3 32 32 70b9 1 3 32 33 70b9 1 3 32 34 70b9 1 3 68 70 61 1 2 64 61 1 2",
   "61 75 1 3 62 61 72 1 2 6f 76 1 2 70 63 1 2 64 6d 1 3 64 6d 32 1 3 64 6d 33 1 2 69 75 1 2",
   "5e73 6210 1 2 662d 548c 1 2 5927 6b63 1 2 660e 6cbb 1 4 682a 5f0f 4f1a 793e 1 2 70 61 1 2 6e",
   "61 1 2 3bc 61 1 2 6d 61 1 2 6b 61 1 2 6b 62 1 2 6d 62 1 2 67 62 1 3 63 61 6c 1 4 6b 63 61 6c",
   "1 2 70 66 1 2 6e 66 1 2 3bc 66 1 2 3bc 67 1 2 6d 67 1 2 6b 67 1 2 68 7a 1 3 6b 68 7a 1 3 6d",
   "68 7a 1 3 67 68 7a 1 3 74 68 7a 1 2 3bc 6c 1 2 6d 6c 1 2 64 6c 1 2 6b 6c 1 2 66 6d 1 2 6e 6d",
   "1 2 3bc 6d 1 2 6d 6d 1 2 63 6d 1 2 6b 6d 1 3 6d 6d 32 1 3 63 6d 32 1 2 6d 32 1 3 6b 6d 32 1",
   "3 6d 6d 33 1 3 63 6d 33 1 2 6d 33 1 3 6b 6d 33 1 3 6d 2215 73 1 4 6d 2215 73 32 1 2 70 61 1",
   "3 6b 70 61 1 3 6d 70 61 1 3 67 70 61 1 3 72 61 64 1 5 72 61 64 2215 73 1 6 72 61 64 2215 73",
   "32 1 2 70 73 1 2 6e 73 1 2 3bc 73 1 2 6d 73 1 2 70 76 1 2 6e 76 1 2 3bc 76 1 2 6d 76 1 2 6b",
   "76 1 2 6d 76 1 2 70 77 1 2 6e 77 1 2 3bc 77 1 2 6d 77 1 2 6b 77 1 2 6d 77 1 2 6b 3c9 1 2 6d",
   "3c9 2 2 62 71 1 2 63 63 1 2 63 64 1 4 63 2215 6b 67 2 2 64 62 1 2 67 79 1 2 68 61 1 2 68 70",
   "1 2 69 6e 1 2 6b 6b 1 2 6b 6d 1 2 6b 74 1 2 6c 6d 1 2 6c 6e 1 3 6c 6f 67 1 2 6c 78 1 2 6d 62",
   "1 3 6d 69 6c 1 3 6d 6f 6c 1 2 70 68 2 3 70 70 6d 1 2 70 72 1 2 73 72 1 2 73 76 1 2 77 62 1 3",
   "76 2215 6d 1 3 61 2215 6d 1 2 31 65e5 1 2 32 65e5 1 2 33 65e5 1 2 34 65e5 1 2 35 65e5 1 2 36",
   "65e5 1 2 37 65e5 1 2 38 65e5 1 2 39 65e5 1 3 31 30 65e5 1 3 31 31 65e5 1 3 31 32 65e5 1 3 31",
   "33 65e5 1 3 31 34 65e5 1 3 31 35 65e5 1 3 31 36 65e5 1 3 31 37 65e5 1 3 31 38 65e5 1 3 31 39",
   "65e5 1 3 32 30 65e5 1 3 32 31 65e5 1 3 32 32 65e5 1 3 32 33 65e5 1 3 32 34 65e5 1 3 32 35",
   "65e5 1 3 32 36 65e5 1 3 32 37 65e5 1 3 32 38 65e5 1 3 32 39 65e5 1 3 33 30 65e5 1 3 33 31",
   "65e5 1 3 67 61 6c c701 2 66 66 1 2 66 69 1 2 66 6c 1 3 66 66 69 1 3 66 66 6c 1 2 73 74 1 2",
   "73 74 d 2 574 576 1 2 574 565 1 2 574 56b 1 2 57e 576 1 2 574 56d 6 2 5d9 5b4 2 2 5f2 5b7 b",
   "2 5e9 5c1 1 2 5e9 5c2 1 3 5e9 5bc 5c1 1 3 5e9 5bc 5c2 1 2 5d0 5b7 1 2 5d0 5b8 1 2 5d0 5bc 1",
   "2 5d1 5bc 1 2 5d2 5bc 1 2 5d3 5bc 1 2 5d4 5bc 1 2 5d5 5bc 1 2 5d6 5bc 2 2 5d8 5bc 1 2 5d9",
   "5bc 1 2 5da 5bc 1 2 5db 5bc 1 2 5dc 5bc 2 2 5de 5bc 2 2 5e0 5bc 1 2 5e1 5bc 2 2 5e3 5bc 1 2",
   "5e4 5bc 2 2 5e6 5bc 1 2 5e7 5bc 1 2 5e8 5bc 1 2 5e9 5bc 1 2 5ea 5bc 1 2 5d5 5b9 1 2 5d1 5bf",
   "1 2 5db 5bf 1 2 5e4 5bf 1 2 5d0 5dc 8e 2 6c7 674 d 2 626 627 1 2 626 627 1 2 626 6d5 1 2 626",
   "6d5 1 2 626 648 1 2 626 648 1 2 626 6c7 1 2 626 6c7 1 2 626 6c6 1 2 626 6c6 1 2 626 6c8 1 2",
   "626 6c8 1 2 626 6d0 1 2 626 6d0 1 2 626 6d0 1 2 626 649 1 2 626 649 1 2 626 649 5 2 626 62c",
   "1 2 626 62d 1 2 626 645 1 2 626 649 1 2 626 64a 1 2 628 62c 1 2 628 62d 1 2 628 62e 1 2 628",
   "645 1 2 628 649 1 2 628 64a 1 2 62a 62c 1 2 62a 62d 1 2 62a 62e 1 2 62a 645 1 2 62a 649 1 2",
   "62a 64a 1 2 62b 62c 1 2 62b 645 1 2 62b 649 1 2 62b 64a 1 2 62c 62d 1 2 62c 645 1 2 62d 62c",
   "1 2 62d 645 1 2 62e 62c 1 2 62e 62d 1 2 62e 645 1 2 633 62c 1 2 633 62d 1 2 633 62e 1 2 633",
   "645 1 2 635 62d 1 2 635 645 1 2 636 62c 1 2 636 62d 1 2 636 62e 1 2 636 645 1 2 637 62d 1 2",
   "637 645 1 2 638 645 1 2 639 62c 1 2 639 645 1 2 63a 62c 1 2 63a 645 1 2 641 62c 1 2 641 62d",
   "1 2 641 62e 1 2 641 645 1 2 641 649 1 2 641 64a 1 2 642 62d 1 2 642 645 1 2 642 649 1 2 642",
   "64a 1 2 643 627 1 2 643 62c 1 2 643 62d 1 2 643 62e 1 2 643 644 1 2 643 645 1 2 643 649 1 2",
   "643 64a 1 2 644 62c 1 2 644 62d 1 2 644 62e 1 2 644 645 1 2 644 649 1 2 644 64a 1 2 645 62c",
   "1 2 645 62d 1 2 645 62e 1 2 645 645 1 2 645 649 1 2 645 64a 1 2 646 62c 1 2 646 62d 1 2 646",
   "62e 1 2 646 645 1 2 646 649 1 2 646 64a 1 2 647 62c 1 2 647 645 1 2 647 649 1 2 647 64a 1 2",
   "64a 62c 1 2 64a 62d 1 2 64a 62e 1 2 64a 645 1 2 64a 649 1 2 64a 64a 1 2 630 670 1 2 631 670",
   "1 2 649 670 1 3 20 64c 651 1 3 20 64d 651 1 3 20 64e 651 1 3 20 64f 651 1 3 20 650 651 1 3",
   "20 651 670 1 2 626 631 1 2 626 632 1 2 626 645 1 2 626 646 1 2 626 649 1 2 626 64a 1 2 628",
   "631 1 2 628 632 1 2 628 645 1 2 628 646 1 2 628 649 1 2 628 64a 1 2 62a 631 1 2 62a 632 1 2",
   "62a 645 1 2 62a 646 1 2 62a 649 1 2 62a 64a 1 2 62b 631 1 2 62b 632 1 2 62b 645 1 2 62b 646",
   "1 2 62b 649 1 2 62b 64a 1 2 641 649 1 2 641 64a 1 2 642 649 1 2 642 64a 1 2 643 627 1 2 643",
   "644 1 2 643 645 1 2 643 649 1 2 643 64a 1 2 644 645 1 2 644 649 1 2 644 64a 1 2 645 627 1 2",
   "645 645 1 2 646 631 1 2 646 632 1 2 646 645 1 2 646 646 1 2 646 649 1 2 646 64a 1 2 649 670",
   "1 2 64a 631 1 2 64a 632 1 2 64a 645 1 2 64a 646 1 2 64a 649 1 2 64a 64a 1 2 626 62c 1 2 626",
   "62d 1 2 626 62e 1 2 626 645 1 2 626 647 1 2 628 62c 1 2 628 62d 1 2 628 62e 1 2 628 645 1 2",
   "628 647 1 2 62a 62c 1 2 62a 62d 1 2 62a 62e 1 2 62a 645 1 2 62a 647 1 2 62b 645 1 2 62c 62d",
   "1 2 62c 645 1 2 62d 62c 1 2 62d 645 1 2 62e 62c 1 2 62e 645 1 2 633 62c 1 2 633 62d 1 2 633",
   "62e 1 2 633 645 1 2 635 62d 1 2 635 62e 1 2 635 645 1 2 636 62c 1 2 636 62d 1 2 636 62e 1 2",
   "636 645 1 2 637 62d 1 2 638 645 1 2 639 62c 1 2 639 645 1 2 63a 62c 1 2 63a 645 1 2 641 62c",
   "1 2 641 62d 1 2 641 62e 1 2 641 645 1 2 642 62d 1 2 642 645 1 2 643 62c 1 2 643 62d 1 2 643",
   "62e 1 2 643 644 1 2 643 645 1 2 644 62c 1 2 644 62d 1 2 644 62e 1 2 644 645 1 2 644 647 1 2",
   "645 62c 1 2 645 62d 1 2 645 62e 1 2 645 645 1 2 646 62c 1 2 646 62d 1 2 646 62e 1 2 646 645",
   "1 2 646 647 1 2 647 62c 1 2 647 645 1 2 647 670 1 2 64a 62c 1 2 64a 62d 1 2 64a 62e 1 2 64a",
   "645 1 2 64a 647 1 2 626 645 1 2 626 647 1 2 628 645 1 2 628 647 1 2 62a 645 1 2 62a 647 1 2",
   "62b 645 1 2 62b 647 1 2 633 645 1 2 633 647 1 2 634 645 1 2 634 647 1 2 643 644 1 2 643 645",
   "1 2 644 645 1 2 646 645 1 2 646 647 1 2 64a 645 1 2 64a 647 1 3 640 64e 651 1 3 640 64f 651",
   "1 3 640 650 651 1 2 637 649 1 2 637 64a 1 2 639 649 1 2 639 64a 1 2 63a 649 1 2 63a 64a 1 2",
   "633 649 1 2 633 64a 1 2 634 649 1 2 634 64a 1 2 62d 649 1 2 62d 64a 1 2 62c 649 1 2 62c 64a",
   "1 2 62e 649 1 2 62e 64a 1 2 635 649 1 2 635 64a 1 2 636 649 1 2 636 64a 1 2 634 62c 1 2 634",
   "62d 1 2 634 62e 1 2 634 645 1 2 634 631 1 2 633 631 1 2 635 631 1 2 636 631 1 2 637 649 1 2",
   "637 64a 1 2 639 649 1 2 639 64a 1 2 63a 649 1 2 63a 64a 1 2 633 649 1 2 633 64a 1 2 634 649",
   "1 2 634 64a 1 2 62d 649 1 2 62d 64a 1 2 62c 649 1 2 62c 64a 1 2 62e 649 1 2 62e 64a 1 2 635",
   "649 1 2 635 64a 1 2 636 649 1 2 636 64a 1 2 634 62c 1 2 634 62d 1 2 634 62e 1 2 634 645 1 2",
   "634 631 1 2 633 631 1 2 635 631 1 2 636 631 1 2 634 62c 1 2 634 62d 1 2 634 62e 1 2 634 645",
   "1 2 633 647 1 2 634 647 1 2 637 645 1 2 633 62c 1 2 633 62d 1 2 633 62e 1 2 634 62c 1 2 634",
   "62d 1 2 634 62e 1 2 637 645 1 2 638 645 1 2 627 64b 1 2 627 64b 13 3 62a 62c 645 1 3 62a 62d",
   "62c 1 3 62a 62d 62c 1 3 62a 62d 645 1 3 62a 62e 645 1 3 62a 645 62c 1 3 62a 645 62d 1 3 62a",
   "645 62e 1 3 62c 645 62d 1 3 62c 645 62d 1 3 62d 645 64a 1 3 62d 645 649 1 3 633 62d 62c 1 3",
   "633 62c 62d 1 3 633 62c 649 1 3 633 645 62d 1 3 633 645 62d 1 3 633 645 62c 1 3 633 645 645",
   "1 3 633 645 645 1 3 635 62d 62d 1 3 635 62d 62d 1 3 635 645 645 1 3 634 62d 645 1 3 634 62d",
   "645 1 3 634 62c 64a 1 3 634 645 62e 1 3 634 645 62e 1 3 634 645 645 1 3 634 645 645 1 3 636",
   "62d 649 1 3 636 62e 645 1 3 636 62e 645 1 3 637 645 62d 1 3 637 645 62d 1 3 637 645 645 1 3",
   "637 645 64a 1 3 639 62c 645 1 3 639 645 645 1 3 639 645 645 1 3 639 645 649 1 3 63a 645 645",
   "1 3 63a 645 64a 1 3 63a 645 649 1 3 641 62e 645 1 3 641 62e 645 1 3 642 645 62d 1 3 642 645",
   "645 1 3 644 62d 645 1 3 644 62d 64a 1 3 644 62d 649 1 3 644 62c 62c 1 3 644 62c 62c 1 3 644",
   "62e 645 1 3 644 62e 645 1 3 644 645 62d 1 3 644 645 62d 1 3 645 62d 62c 1 3 645 62d 645 1 3",
   "645 62d 64a 1 3 645 62c 62d 1 3 645 62c 645 1 3 645 62e 62c 1 3 645 62e 645 3 3 645 62c 62e",
   "1 3 647 645 62c 1 3 647 645 645 1 3 646 62d 645 1 3 646 62d 649 1 3 646 62c 645 1 3 646 62c",
   "645 1 3 646 62c 649 1 3 646 645 64a 1 3 646 645 649 1 3 64a 645 645 1 3 64a 645 645 1 3 628",
   "62e 64a 1 3 62a 62c 64a 1 3 62a 62c 649 1 3 62a 62e 64a 1 3 62a 62e 649 1 3 62a 645 64a 1 3",
   "62a 645 649 1 3 62c 645 64a 1 3 62c 62d 649 1 3 62c 645 649 1 3 633 62e 649 1 3 635 62d 64a",
   "1 3 634 62d 64a 1 3 636 62d 64a 1 3 644 62c 64a 1 3 644 645 64a 1 3 64a 62d 64a 1 3 64a 62c",
   "64a 1 3 64a 645 64a 1 3 645 645 64a 1 3 642 645 64a 1 3 646 62d 64a 1 3 642 645 62d 1 3 644",
   "62d 645 1 3 639 645 64a 1 3 643 645 64a 1 3 646 62c 62d 1 3 645 62e 64a 1 3 644 62c 645 1 3",
   "643 645 645 1 3 644 62c 645 1 3 646 62c 62d 1 3 62c 62d 64a 1 3 62d 62c 64a 1 3 645 62c 64a",
   "1 3 641 645 64a 1 3 628 62d 64a 1 3 643 645 645 1 3 639 62c 645 1 3 635 645 645 1 3 633 62e",
   "64a 1 3 646 62c 64a 29 3 635 644 6d2 1 3 642 644 6d2 1 4 627 644 644 647 1 4 627 643 628 631",
   "1 4 645 62d 645 62f 1 4 635 644 639 645 1 4 631 633 648 644 1 4 639 644 64a 647 1 4 648 633",
   "644 645 1 3 635 644 649 1 12 635 644 649 20 627 644 644 647 20 639 644 64a 647 20 648 633",
   "644 645 1 8 62c 644 20 62c 644 627 644 647 1 4 631 6cc 627 644 4d 2 20 305 1 2 20 305 1 2 20",
   "305 1 2 20 305 24 2 20 64b 1 2 640 64b 1 2 20 64c 2 2 20 64d 2 2 20 64e 1 2 640 64e 1 2 20",
   "64f 1 2 640 64f 1 2 20 650 1 2 640 650 1 2 20 651 1 2 640 651 1 2 20 652 1 2 640 652 76 2",
   "644 622 1 2 644 622 1 2 644 623 1 2 644 623 1 2 644 625 1 2 644 625 1 2 644 627 1 2 644 627",
   "e7 2 20 304 d17b 2 1d157 1d165 1 2 1d158 1d165 1 3 1d158 1d165 1d16e 1 3 1d158 1d165 1d16f 1",
   "3 1d158 1d165 1d170 1 3 1d158 1d165 1d171 1 3 1d158 1d165 1d172 57 2 1d1b9 1d165 1 2 1d1ba",
   "1d165 1 3 1d1b9 1d165 1d16e 1 3 1d1ba 1d165 1d16e 1 3 1d1b9 1d165 1d16f 1 3 1d1ba 1d165",
   "1d16f 1f41 2 30 2c 1 2 31 2c 1 2 32 2c 1 2 33 2c 1 2 34 2c 1 2 35 2c 1 2 36 2c 1 2 37 2c 1 2",
   "38 2c 1 2 39 2c 6 3 28 61 29 1 3 28 62 29 1 3 28 63 29 1 3 28 64 29 1 3 28 65 29 1 3 28 66",
   "29 1 3 28 67 29 1 3 28 68 29 1 3 28 69 29 1 3 28 6a 29 1 3 28 6b 29 1 3 28 6c 29 1 3 28 6d",
   "29 1 3 28 6e 29 1 3 28 6f 29 1 3 28 70 29 1 3 28 71 29 1 3 28 72 29 1 3 28 73 29 1 3 28 74",
   "29 1 3 28 75 29 1 3 28 76 29 1 3 28 77 29 1 3 28 78 29 1 3 28 79 29 1 3 28 7a 29 1 3 3014 73",
   "3015 3 2 63 64 1 2 77 7a 1c 2 68 76 1 2 6d 76 1 2 73 64 1 2 73 73 1 3 70 70 76 1 2 77 63 1b",
   "2 6d 63 1 2 6d 64 1 2 6d 72 24 2 64 6a 70 2 307b 304b 1 2 30b3 30b3 3f 3 3014 672c 3015 1 3",
   "3014 4e09 3015 1 3 3014 4e8c 3015 1 3 3014 5b89 3015 1 3 3014 70b9 3015 1 3 3014 6253 3015 1",
   "3 3014 76d7 3015 1 3 3014 52dd 3015 1 3 3014 6557 3015"]

/-- The runs of characters that are kept. -/
def kept : Array (Nat × Nat) := (PackedTable.ranges 0 (PackedTable.unpack keptRows)).toArray

/-- The runs of characters that are dropped. -/
def dropped : Array (Nat × Nat) := (PackedTable.ranges 0 (PackedTable.unpack droppedRows)).toArray

/-- The runs of characters that are replaced by one character. -/
def replaced : Array PackedTable.Shifted :=
  (PackedTable.shifted 0 (PackedTable.unpack replacedRows)).toArray

/-- The characters that are replaced by several. -/
def expanded : Array (Nat × List Nat) :=
  (PackedTable.expansions 0 (PackedTable.unpack expandedRows)).toArray

/-- What a character becomes, `none` when it is refused. -/
def beyondAscii (c : Char) : Option (List Char) :=
  let n := c.toNat
  if PackedTable.inRanges kept n then some [c]
  else if PackedTable.inRanges dropped n then some []
  else
    match replaced.find? (·.holds n) with
    | some r => some [Char.ofNat (r.image n)]
    | none => (expanded.find? (·.1 == n)).map fun e => e.2.map Char.ofNat

/-- What a character of a domain name becomes, `none` when it is refused. -/
def map (c : Char) : Option (List Char) :=
  if c.toNat < 128 then some [c.toLower] else beyondAscii c

/-- A character is kept as it is. -/
def isKept (c : Char) : Bool :=
  if c.toNat < 128 then c.toLower == c else PackedTable.inRanges kept c.toNat

end Mapping
end Domain
end ServiceReadiness
