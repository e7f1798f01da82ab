/-
# Canonical forms of characters

Many characters stand for a base with marks: `é` is `e` and an acute accent.
The tables give the full canonical decomposition of each such character, the
pairs that are put together again, and the combining classes by which marks are
ordered.  The syllables of Hangul follow a rule and are in no table.
-/

import ServiceReadiness.Text.PackedTable

namespace ServiceReadiness
namespace Normalization

/-- Full canonical decompositions: gap, count and parts of each character. -/
def decompositionRows : List String :=
  ["c0 2 41 300 1 2 41 301 1 2 41 302 1 2 41 303 1 2 41 308 1 2 41 30a 2 2 43 327 1 2 45 300 1 2",
   "45 301 1 2 45 302 1 2 45 308 1 2 49 300 1 2 49 301 1 2 49 302 1 2 49 308 2 2 4e 303 1 2 4f",
   "300 1 2 4f 301 1 2 4f 302 1 2 4f 303 1 2 4f 308 3 2 55 300 1 2 55 301 1 2 55 302 1 2 55 308",
   "1 2 59 301 3 2 61 300 1 2 61 301 1 2 61 302 1 2 61 303 1 2 61 308 1 2 61 30a 2 2 63 327 1 2",
   "65 300 1 2 65 301 1 2 65 302 1 2 65 308 1 2 69 300 1 2 69 301 1 2 69 302 1 2 69 308 2 2 6e",
   "303 1 2 6f 300 1 2 6f 301 1 2 6f 302 1 2 6f 303 1 2 6f 308 3 2 75 300 1 2 75 301 1 2 75 302",
   "1 2 75 308 1 2 79 301 2 2 79 308 1 2 41 304 1 2 61 304 1 2 41 306 1 2 61 306 1 2 41 328 1 2",
   "61 328 1 2 43 301 1 2 63 301 1 2 43 302 1 2 63 302 1 2 43 307 1 2 63 307 1 2 43 30c 1 2 63",
   "30c 1 2 44 30c 1 2 64 30c 3 2 45 304 1 2 65 304 1 2 45 306 1 2 65 306 1 2 45 307 1 2 65 307",
   "1 2 45 328 1 2 65 328 1 2 45 30c 1 2 65 30c 1 2 47 302 1 2 67 302 1 2 47 306 1 2 67 306 1 2",
   "47 307 1 2 67 307 1 2 47 327 1 2 67 327 1 2 48 302 1 2 68 302 3 2 49 303 1 2 69 303 1 2 49",
   "304 1 2 69 304 1 2 49 306 1 2 69 306 1 2 49 328 1 2 69 328 1 2 49 307 4 2 4a 302 1 2 6a 302",
   "1 2 4b 327 1 2 6b 327 2 2 4c 301 1 2 6c 301 1 2 4c 327 1 2 6c 327 1 2 4c 30c 1 2 6c 30c 5 2",
   "4e 301 1 2 6e 301 1 2 4e 327 1 2 6e 327 1 2 4e 30c 1 2 6e 30c 4 2 4f 304 1 2 6f 304 1 2 4f",
   "306 1 2 6f 306 1 2 4f 30b 1 2 6f 30b 3 2 52 301 1 2 72 301 1 2 52 327 1 2 72 327 1 2 52 30c",
   "1 2 72 30c 1 2 53 301 1 2 73 301 1 2 53 302 1 2 73 302 1 2 53 327 1 2 73 327 1 2 53 30c 1 2",
   "73 30c 1 2 54 327 1 2 74 327 1 2 54 30c 1 2 74 30c 3 2 55 303 1 2 75 303 1 2 55 304 1 2 75",
   "304 1 2 55 306 1 2 75 306 1 2 55 30a 1 2 75 30a 1 2 55 30b 1 2 75 30b 1 2 55 328 1 2 75 328",
   "1 2 57 302 1 2 77 302 1 2 59 302 1 2 79 302 1 2 59 308 1 2 5a 301 1 2 7a 301 1 2 5a 307 1 2",
   "7a 307 1 2 5a 30c 1 2 7a 30c 22 2 4f 31b 1 2 6f 31b e 2 55 31b 1 2 75 31b 1d 2 41 30c 1 2 61",
   "30c 1 2 49 30c 1 2 69 30c 1 2 4f 30c 1 2 6f 30c 1 2 55 30c 1 2 75 30c 1 3 55 308 304 1 3 75",
   "308 304 1 3 55 308 301 1 3 75 308 301 1 3 55 308 30c 1 3 75 308 30c 1 3 55 308 300 1 3 75",
   "308 300 2 3 41 308 304 1 3 61 308 304 1 3 41 307 304 1 3 61 307 304 1 2 c6 304 1 2 e6 304 3",
   "2 47 30c 1 2 67 30c 1 2 4b 30c 1 2 6b 30c 1 2 4f 328 1 2 6f 328 1 3 4f 328 304 1 3 6f 328",
   "304 1 2 1b7 30c 1 2 292 30c 1 2 6a 30c 4 2 47 301 1 2 67 301 3 2 4e 300 1 2 6e 300 1 3 41",
   "30a 301 1 3 61 30a 301 1 2 c6 301 1 2 e6 301 1 2 d8 301 1 2 f8 301 1 2 41 30f 1 2 61 30f 1 2",
   "41 311 1 2 61 311 1 2 45 30f 1 2 65 30f 1 2 45 311 1 2 65 311 1 2 49 30f 1 2 69 30f 1 2 49",
   "311 1 2 69 311 1 2 4f 30f 1 2 6f 30f 1 2 4f 311 1 2 6f 311 1 2 52 30f 1 2 72 30f 1 2 52 311",
   "1 2 72 311 1 2 55 30f 1 2 75 30f 1 2 55 311 1 2 75 311 1 2 53 326 1 2 73 326 1 2 54 326 1 2",
   "74 326 3 2 48 30c 1 2 68 30c 7 2 41 307 1 2 61 307 1 2 45 327 1 2 65 327 1 3 4f 308 304 1 3",
   "6f 308 304 1 3 4f 303 304 1 3 6f 303 304 1 2 4f 307 1 2 6f 307 1 3 4f 307 304 1 3 6f 307 304",
   "1 2 59 304 1 2 79 304 10d 1 300 1 1 301 2 1 313 1 2 308 301 30 1 2b9 a 1 3b 7 2 a8 301 1 2",
   "391 301 1 1 b7 1 2 395 301 1 2 397 301 1 2 399 301 2 2 39f 301 2 2 3a5 301 1 2 3a9 301 1 3",
   "3b9 308 301 1a 2 399 308 1 2 3a5 308 1 2 3b1 301 1 2 3b5 301 1 2 3b7 301 1 2 3b9 301 1 3 3c5",
   "308 301 1a 2 3b9 308 1 2 3c5 308 1 2 3bf 301 1 2 3c5 301 1 2 3c9 301 5 2 3d2 301 1 2 3d2 308",
   "2c 2 415 300 1 2 415 308 2 2 413 301 4 2 406 308 5 2 41a 301 1 2 418 300 1 2 423 306 b 2 418",
   "306 20 2 438 306 17 2 435 300 1 2 435 308 2 2 433 301 4 2 456 308 5 2 43a 301 1 2 438 300 1",
   "2 443 306 18 2 474 30f 1 2 475 30f 4a 2 416 306 1 2 436 306 e 2 410 306 1 2 430 306 1 2 410",
   "308 1 2 430 308 3 2 415 306 1 2 435 306 3 2 4d8 308 1 2 4d9 308 1 2 416 308 1 2 436 308 1 2",
   "417 308 1 2 437 308 3 2 418 304 1 2 438 304 1 2 418 308 1 2 438 308 1 2 41e 308 1 2 43e 308",
   "3 2 4e8 308 1 2 4e9 308 1 2 42d 308 1 2 44d 308 1 2 423 304 1 2 443 304 1 2 423 308 1 2 443",
   "308 1 2 423 30b 1 2 443 30b 1 2 427 308 1 2 447 308 3 2 42b 308 1 2 44b 308 129 2 627 653 1",
   "2 627 654 1 2 648 654 1 2 627 655 1 2 64a 654 9a 2 6d5 654 2 2 6c1 654 11 2 6d2 654 256 2",
   "928 93c 8 2 930 93c 3 2 933 93c 24 2 915 93c 1 2 916 93c 1 2 917 93c 1 2 91c 93c 1 2 921 93c",
   "1 2 922 93c 1 2 92b 93c 1 2 92f 93c 6c 2 9c7 9be 1 2 9c7 9d7 10 2 9a1 9bc 1 2 9a2 9bc 2 2",
   "9af 9bc 54 2 a32 a3c 3 2 a38 a3c 23 2 a16 a3c 1 2 a17 a3c 1 2 a1c a3c 3 2 a2b a3c ea 2 b47",
   "b56 3 2 b47 b3e 1 2 b47 b57 10 2 b21 b3c 1 2 b22 b3c 37 2 b92 bd7 36 2 bc6 bbe 1 2 bc7 bbe 1",
   "2 bc6 bd7 7c 2 c46 c56 78 2 cbf cd5 7 2 cc6 cd5 1 2 cc6 cd6 2 2 cc6 cc2 1 3 cc6 cc2 cd5 7f 2",
   "d46 d3e 1 2 d47 d3e 1 2 d46 d57 8e 2 dd9 dca 2 2 dd9 dcf 1 3 dd9 dcf dca 1 2 dd9 ddf 165 2",
   "f42 fb7 a 2 f4c fb7 5 2 f51 fb7 5 2 f56 fb7 5 2 f5b fb7 d 2 f40 fb5 a 2 f71 f72 2 2 f71 f74",
   "1 2 fb2 f80 2 2 fb3 f80 9 2 f71 f80 12 2 f92 fb7 a 2 f9c fb7 5 2 fa1 fb7 5 2 fa6 fb7 5 2 fab",
   "fb7 d 2 f90 fb5 6d 2 1025 102e ae0 2 1b05 1b35 2 2 1b07 1b35 2 2 1b09 1b35 2 2 1b0b 1b35 2 2",
   "1b0d 1b35 4 2 1b11 1b35 29 2 1b3a 1b35 2 2 1b3c 1b35 3 2 1b3e 1b35 1 2 1b3f 1b35 2 2 1b42",
   "1b35 2bd 2 41 325 1 2 61 325 1 2 42 307 1 2 62 307 1 2 42 323 1 2 62 323 1 2 42 331 1 2 62",
   "331 1 3 43 327 301 1 3 63 327 301 1 2 44 307 1 2 64 307 1 2 44 323 1 2 64 323 1 2 44 331 1 2",
   "64 331 1 2 44 327 1 2 64 327 1 2 44 32d 1 2 64 32d 1 3 45 304 300 1 3 65 304 300 1 3 45 304",
   "301 1 3 65 304 301 1 2 45 32d 1 2 65 32d 1 2 45 330 1 2 65 330 1 3 45 327 306 1 3 65 327 306",
   "1 2 46 307 1 2 66 307 1 2 47 304 1 2 67 304 1 2 48 307 1 2 68 307 1 2 48 323 1 2 68 323 1 2",
   "48 308 1 2 68 308 1 2 48 327 1 2 68 327 1 2 48 32e 1 2 68 32e 1 2 49 330 1 2 69 330 1 3 49",
   "308 301 1 3 69 308 301 1 2 4b 301 1 2 6b 301 1 2 4b 323 1 2 6b 323 1 2 4b 331 1 2 6b 331 1 2",
   "4c 323 1 2 6c 323 1 3 4c 323 304 1 3 6c 323 304 1 2 4c 331 1 2 6c 331 1 2 4c 32d 1 2 6c 32d",
   "1 2 4d 301 1 2 6d 301 1 2 4d 307 1 2 6d 307 1 2 4d 323 1 2 6d 323 1 2 4e 307 1 2 6e 307 1 2",
   "4e 323 1 2 6e 323 1 2 4e 331 1 2 6e 331 1 2 4e 32d 1 2 6e 32d 1 3 4f 303 301 1 3 6f 303 301",
   "1 3 4f 303 308 1 3 6f 303 308 1 3 4f 304 300 1 3 6f 304 300 1 3 4f 304 301 1 3 6f 304 301 1",
   "2 50 301 1 2 70 301 1 2 50 307 1 2 70 307 1 2 52 307 1 2 72 307 1 2 52 323 1 2 72 323 1 3 52",
   "323 304 1 3 72 323 304 1 2 52 331 1 2 72 331 1 2 53 307 1 2 73 307 1 2 53 323 1 2 73 323 1 3",
   "53 301 307 1 3 73 301 307 1 3 53 30c 307 1 3 73 30c 307 1 3 53 323 307 1 3 73 323 307 1 2 54",
   "307 1 2 74 307 1 2 54 323 1 2 74 323 1 2 54 331 1 2 74 331 1 2 54 32d 1 2 74 32d 1 2 55 324",
   "1 2 75 324 1 2 55 330 1 2 75 330 1 2 55 32d 1 2 75 32d 1 3 55 303 301 1 3 75 303 301 1 3 55",
   "304 308 1 3 75 304 308 1 2 56 303 1 2 76 303 1 2 56 323 1 2 76 323 1 2 57 300 1 2 77 300 1 2",
   "57 301 1 2 77 301 1 2 57 308 1 2 77 308 1 2 57 307 1 2 77 307 1 2 57 323 1 2 77 323 1 2 58",
   "307 1 2 78 307 1 2 58 308 1 2 78 308 1 2 59 307 1 2 79 307 1 2 5a 302 1 2 7a 302 1 2 5a 323",
   "1 2 7a 323 1 2 5a 331 1 2 7a 331 1 2 68 331 1 2 74 308 1 2 77 30a 1 2 79 30a 2 2 17f 307 5 2",
   "41 323 1 2 61 323 1 2 41 309 1 2 61 309 1 3 41 302 301 1 3 61 302 301 1 3 41 302 300 1 3 61",
   "302 300 1 3 41 302 309 1 3 61 302 309 1 3 41 302 303 1 3 61 302 303 1 3 41 323 302 1 3 61",
   "323 302 1 3 41 306 301 1 3 61 306 301 1 3 41 306 300 1 3 61 306 300 1 3 41 306 309 1 3 61",
   "306 309 1 3 41 306 303 1 3 61 306 303 1 3 41 323 306 1 3 61 323 306 1 2 45 323 1 2 65 323 1",
   "2 45 309 1 2 65 309 1 2 45 303 1 2 65 303 1 3 45 302 301 1 3 65 302 301 1 3 45 302 300 1 3",
   "65 302 300 1 3 45 302 309 1 3 65 302 309 1 3 45 302 303 1 3 65 302 303 1 3 45 323 302 1 3 65",
   "323 302 1 2 49 309 1 2 69 309 1 2 49 323 1 2 69 323 1 2 4f 323 1 2 6f 323 1 2 4f 309 1 2 6f",
   "309 1 3 4f 302 301 1 3 6f 302 301 1 3 4f 302 300 1 3 6f 302 300 1 3 4f 302 309 1 3 6f 302",
   "309 1 3 4f 302 303 1 3 6f 302 303 1 3 4f 323 302 1 3 6f 323 302 1 3 4f 31b 301 1 3 6f 31b",
   "301 1 3 4f 31b 300 1 3 6f 31b 300 1 3 4f 31b 309 1 3 6f 31b 309 1 3 4f 31b 303 1 3 6f 31b",
   "303 1 3 4f 31b 323 1 3 6f 31b 323 1 2 55 323 1 2 75 323 1 2 55 309 1 2 75 309 1 3 55 31b 301",
   "1 3 75 31b 301 1 3 55 31b 300 1 3 75 31b 300 1 3 55 31b 309 1 3 75 31b 309 1 3 55 31b 303 1",
   "3 75 31b 303 1 3 55 31b 323 1 3 75 31b 323 1 2 59 300 1 2 79 300 1 2 59 323 1 2 79 323 1 2",
   "59 309 1 2 79 309 1 2 59 303 1 2 79 303 7 2 3b1 313 1 2 3b1 314 1 3 3b1 313 300 1 3 3b1 314",
   "300 1 3 3b1 313 301 1 3 3b1 314 301 1 3 3b1 313 342 1 3 3b1 314 342 1 2 391 313 1 2 391 314",
   "1 3 391 313 300 1 3 391 314 300 1 3 391 313 301 1 3 391 314 301 1 3 391 313 342 1 3 391 314",
   "342 1 2 3b5 313 1 2 3b5 314 1 3 3b5 313 300 1 3 3b5 314 300 1 3 3b5 313 301 1 3 3b5 314 301",
   "3 2 395 313 1 2 395 314 1 3 395 313 300 1 3 395 314 300 1 3 395 313 301 1 3 395 314 301 3 2",
   "3b7 313 1 2 3b7 314 1 3 3b7 313 300 1 3 3b7 314 300 1 3 3b7 313 301 1 3 3b7 314 301 1 3 3b7",
   "313 342 1 3 3b7 314 342 1 2 397 313 1 2 397 314 1 3 397 313 300 1 3 397 314 300 1 3 397 313",
   "301 1 3 397 314 301 1 3 397 313 342 1 3 397 314 342 1 2 3b9 313 1 2 3b9 314 1 3 3b9 313 300",
   "1 3 3b9 314 300 1 3 3b9 313 301 1 3 3b9 314 301 1 3 3b9 313 342 1 3 3b9 314 342 1 2 399 313",
   "1 2 399 314 1 3 399 313 300 1 3 399 314 300 1 3 399 313 301 1 3 399 314 301 1 3 399 313 342",
   "1 3 399 314 342 1 2 3bf 313 1 2 3bf 314 1 3 3bf 313 300 1 3 3bf 314 300 1 3 3bf 313 301 1 3",
   "3bf 314 301 3 2 39f 313 1 2 39f 314 1 3 39f 313 300 1 3 39f 314 300 1 3 39f 313 301 1 3 39f",
   "314 301 3 2 3c5 313 1 2 3c5 314 1 3 3c5 313 300 1 3 3c5 314 300 1 3 3c5 313 301 1 3 3c5 314",
   "301 1 3 3c5 313 342 1 3 3c5 314 342 2 2 3a5 314 2 3 3a5 314 300 2 3 3a5 314 301 2 3 3a5 314",
   "342 1 2 3c9 313 1 2 3c9 314 1 3 3c9 313 300 1 3 3c9 314 300 1 3 3c9 313 301 1 3 3c9 314 301",
   "1 3 3c9 313 342 1 3 3c9 314 342 1 2 3a9 313 1 2 3a9 314 1 3 3a9 313 300 1 3 3a9 314 300 1 3",
   "3a9 313 301 1 3 3a9 314 301 1 3 3a9 313 342 1 3 3a9 314 342 1 2 3b1 300 1 2 3b1 301 1 2 3b5",
   "300 1 2 3b5 301 1 2 3b7 300 1 2 3b7 301 1 2 3b9 300 1 2 3b9 301 1 2 3bf 300 1 2 3bf 301 1 2",
   "3c5 300 1 2 3c5 301 1 2 3c9 300 1 2 3c9 301 3 3 3b1 313 345 1 3 3b1 314 345 1 4 3b1 313 300",
   "345 1 4 3b1 314 300 345 1 4 3b1 313 301 345 1 4 3b1 314 301 345 1 4 3b1 313 342 345 1 4 3b1",
   "314 342 345 1 3 391 313 345 1 3 391 314 345 1 4 391 313 300 345 1 4 391 314 300 345 1 4 391",
   "313 301 345 1 4 391 314 301 345 1 4 391 313 342 345 1 4 391 314 342 345 1 3 3b7 313 345 1 3",
   "3b7 314 345 1 4 3b7 313 300 345 1 4 3b7 314 300 345 1 4 3b7 313 301 345 1 4 3b7 314 301 345",
   "1 4 3b7 313 342 345 1 4 3b7 314 342 345 1 3 397 313 345 1 3 397 314 345 1 4 397 313 300 345",
   "1 4 397 314 300 345 1 4 397 313 301 345 1 4 397 314 301 345 1 4 397 313 342 345 1 4 397 314",
   "342 345 1 3 3c9 313 345 1 3 3c9 314 345 1 4 3c9 313 300 345 1 4 3c9 314 300 345 1 4 3c9 313",
   "301 345 1 4 3c9 314 301 345 1 4 3c9 313 342 345 1 4 3c9 314 342 345 1 3 3a9 313 345 1 3 3a9",
   "314 345 1 4 3a9 313 300 345 1 4 3a9 314 300 345 1 4 3a9 313 301 345 1 4 3a9 314 301 345 1 4",
   "3a9 313 342 345 1 4 3a9 314 342 345 1 2 3b1 306 1 2 3b1 304 1 3 3b1 300 345 1 2 3b1 345 1 3",
   "3b1 301 345 2 2 3b1 342 1 3 3b1 342 345 1 2 391 306 1 2 391 304 1 2 391 300 1 2 391 301 1 2",
   "391 345 2 1 3b9 3 2 a8 342 1 3 3b7 300 345 1 2 3b7 345 1 3 3b7 301 345 2 2 3b7 342 1 3 3b7",
   "342 345 1 2 395 300 1 2 395 301 1 2 397 300 1 2 397 301 1 2 397 345 1 2 1fbf 300 1 2 1fbf",
   "301 1 2 1fbf 342 1 2 3b9 306 1 2 3b9 304 1 3 3b9 308 300 1 3 3b9 308 301 3 2 3b9 342 1 3 3b9",
   "308 342 1 2 399 306 1 2 399 304 1 2 399 300 1 2 399 301 2 2 1ffe 300 1 2 1ffe 301 1 2 1ffe",
   "342 1 2 3c5 306 1 2 3c5 304 1 3 3c5 308 300 1 3 3c5 308 301 1 2 3c1 313 1 2 3c1 314 1 2 3c5",
   "342 1 3 3c5 308 342 1 2 3a5 306 1 2 3a5 304 1 2 3a5 300 1 2 3a5 301 1 2 3a1 314 1 2 a8 300 1",
   "2 a8 301 1 1 60 3 3 3c9 300 345 1 2 3c9 345 1 3 3c9 301 345 2 2 3c9 342 1 3 3c9 342 345 1 2",
   "39f 300 1 2 39f 301 1 2 3a9 300 1 2 3a9 301 1 2 3a9 345 1 1 b4 3 1 2002 1 1 2003 125 1 3a9 4",
   "1 4b 1 2 41 30a 6f 2 2190 338 1 2 2192 338 13 2 2194 338 1f 2 21d0 338 1 2 21d4 338 1 2 21d2",
   "338 35 2 2203 338 5 2 2208 338 3 2 220b 338 18 2 2223 338 2 2 2225 338 1b 2 223c 338 3 2",
   "2243 338 3 2 2245 338 2 2 2248 338 17 2 3d 338 2 2 2261 338 b 2 224d 338 1 2 3c 338 1 2 3e",
   "338 1 2 2264 338 1 2 2265 338 3 2 2272 338 1 2 2273 338 3 2 2276 338 1 2 2277 338 7 2 227a",
   "338 1 2 227b 338 3 2 2282 338 1 2 2283 338 3 2 2286 338 1 2 2287 338 23 2 22a2 338 1 2 22a8",
   "338 1 2 22a9 338 1 2 22ab 338 31 2 227c 338 1 2 227d 338 1 2 2291 338 1 2 2292 338 7 2 22b2",
   "338 1 2 22b3 338 1 2 22b4 338 1 2 22b5 338 3c 1 3008 1 1 3009 7b2 2 2add 338 570 2 304b 3099",
   "2 2 304d 3099 2 2 304f 3099 2 2 3051 3099 2 2 3053 3099 2 2 3055 3099 2 2 3057 3099 2 2 3059",
   "3099 2 2 305b 3099 2 2 305d 3099 2 2 305f 3099 2 2 3061 3099 3 2 3064 3099 2 2 3066 3099 2 2",
   "3068 3099 7 2 306f 3099 1 2 306f 309a 2 2 3072 3099 1 2 3072 309a 2 2 3075 3099 1 2 3075",
   "309a 2 2 3078 3099 1 2 3078 309a 2 2 307b 3099 1 2 307b 309a 17 2 3046 3099 a 2 309d 3099 e",
   "2 30ab 3099 2 2 30ad 3099 2 2 30af 3099 2 2 30b1 3099 2 2 30b3 3099 2 2 30b5 3099 2 2 30b7",
   "3099 2 2 30b9 3099 2 2 30bb 3099 2 2 30bd 3099 2 2 30bf 3099 2 2 30c1 3099 3 2 30c4 3099 2 2",
   "30c6 3099 2 2 30c8 3099 7 2 30cf 3099 1 2 30cf 309a 2 2 30d2 3099 1 2 30d2 309a 2 2 30d5",
   "3099 1 2 30d5 309a 2 2 30d8 3099 1 2 30d8 309a 2 2 30db 3099 1 2 30db 309a 17 2 30a6 3099 3",
   "2 30ef 3099 1 2 30f0 3099 1 2 30f1 3099 1 2 30f2 3099 4 2 30fd 3099 c802 1 8c48 1 1 66f4 1 1",
   "8eca 1 1 8cc8 1 1 6ed1 1 1 4e32 1 1 53e5 1 1 9f9c 1 1 9f9c 1 1 5951 1 1 91d1 1 1 5587 1 1",
   "5948 1 1 61f6 1 1 7669 1 1 7f85 1 1 863f 1 1 87ba 1 1 88f8 1 1 908f 1 1 6a02 1 1 6d1b 1 1",
   "70d9 1 1 73de 1 1 843d 1 1 916a 1 1 99f1 1 1 4e82 1 1 5375 1 1 6b04 1 1 721b 1 1 862d 1 1",
   "9e1e 1 1 5d50 1 1 6feb 1 1 85cd 1 1 8964 1 1 62c9 1 1 81d8 1 1 881f 1 1 5eca 1 1 6717 1 1",
   "6d6a 1 1 72fc 1 1 90ce 1 1 4f86 1 1 51b7 1 1 52de 1 1 64c4 1 1 6ad3 1 1 7210 1 1 76e7 1 1",
   "8001 1 1 8606 1 1 865c 1 1 8def 1 1 9732 1 1 9b6f 1 1 9dfa 1 1 788c 1 1 797f 1 1 7da0 1 1",
   "83c9 1 1 9304 1 1 9e7f 1 1 8ad6 1 1 58df 1 1 5f04 1 1 7c60 1 1 807e 1 1 7262 1 1 78ca 1 1",
   "8cc2 1 1 96f7 1 1 58d8 1 1 5c62 1 1 6a13 1 1 6dda 1 1 6f0f 1 1 7d2f 1 1 7e37 1 1 964b 1 1",
   "52d2 1 1 808b 1 1 51dc 1 1 51cc 1 1 7a1c 1 1 7dbe 1 1 83f1 1 1 9675 1 1 8b80 1 1 62cf 1 1",
   "6a02 1 1 8afe 1 1 4e39 1 1 5be7 1 1 6012 1 1 7387 1 1 7570 1 1 5317 1 1 78fb 1 1 4fbf 1 1",
   "5fa9 1 1 4e0d 1 1 6ccc 1 1 6578 1 1 7d22 1 1 53c3 1 1 585e 1 1 7701 1 1 8449 1 1 8aaa 1 1",
   "6bba 1 1 8fb0 1 1 6c88 1 1 62fe 1 1 82e5 1 1 63a0 1 1 7565 1 1 4eae 1 1 5169 1 1 51c9 1 1",
   "6881 1 1 7ce7 1 1 826f 1 1 8ad2 1 1 91cf 1 1 52f5 1 1 5442 1 1 5973 1 1 5eec 1 1 65c5 1 1",
   "6ffe 1 1 792a 1 1 95ad 1 1 9a6a 1 1 9e97 1 1 9ece 1 1 529b 1 1 66c6 1 1 6b77 1 1 8f62 1 1",
   "5e74 1 1 6190 1 1 6200 1 1 649a 1 1 6f23 1 1 7149 1 1 7489 1 1 79ca 1 1 7df4 1 1 806f 1 1",
   "8f26 1 1 84ee 1 1 9023 1 1 934a 1 1 5217 1 1 52a3 1 1 54bd 1 1 70c8 1 1 88c2 1 1 8aaa 1 1",
   "5ec9 1 1 5ff5 1 1 637b 1 1 6bae 1 1 7c3e 1 1 7375 1 1 4ee4 1 1 56f9 1 1 5be7 1 1 5dba 1 1",
   "601c 1 1 73b2 1 1 7469 1 1 7f9a 1 1 8046 1 1 9234 1 1 96f6 1 1 9748 1 1 9818 1 1 4f8b 1 1",
   "79ae 1 1 91b4 1 1 96b8 1 1 60e1 1 1 4e86 1 1 50da 1 1 5bee 1 1 5c3f 1 1 6599 1 1 6a02 1 1",
   "71ce 1 1 7642 1 1 84fc 1 1 907c 1 1 9f8d 1 1 6688 1 1 962e 1 1 5289 1 1 677b 1 1 67f3 1 1",
   "6d41 1 1 6e9c 1 1 7409 1 1 7559 1 1 786b 1 1 7d10 1 1 985e 1 1 516d 1 1 622e 1 1 9678 1 1",
   "502b 1 1 5d19 1 1 6dea 1 1 8f2a 1 1 5f8b 1 1 6144 1 1 6817 1 1 7387 1 1 9686 1 1 5229 1 1",
   "540f 1 1 5c65 1 1 6613 1 1 674e 1 1 68a8 1 1 6ce5 1 1 7406 1 1 75e2 1 1 7f79 1 1 88cf 1 1",
   "88e1 1 1 91cc 1 1 96e2 1 1 533f 1 1 6eba 1 1 541d 1 1 71d0 1 1 7498 1 1 85fa 1 1 96a3 1 1",
   "9c57 1 1 9e9f 1 1 6797 1 1 6dcb 1 1 81e8 1 1 7acb 1 1 7b20 1 1 7c92 1 1 72c0 1 1 7099 1 1",
   "8b58 1 1 4ec0 1 1 8336 1 1 523a 1 1 5207 1 1 5ea6 1 1 62d3 1 1 7cd6 1 1 5b85 1 1 6d1e 1 1",
   "66b4 1 1 8f3b 1 1 884c 1 1 964d 1 1 898b 1 1 5ed3 1 1 5140 1 1 55c0 3 1 585a 2 1 6674 3 1",
   "51de 1 1 732a 1 1 76ca 1 1 793c 1 1 795e 1 1 7965 1 1 798f 1 1 9756 1 1 7cbe 1 1 7fbd 2 1",
   "8612 2 1 8af8 3 1 9038 1 1 90fd 4 1 98ef 1 1 98fc 1 1 9928 1 1 9db4 1 1 90de 1 1 96b7 1 1",
   "4fae 1 1 50e7 1 1 514d 1 1 52c9 1 1 52e4 1 1 5351 1 1 559d 1 1 5606 1 1 5668 1 1 5840 1 1",
   "58a8 1 1 5c64 1 1 5c6e 1 1 6094 1 1 6168 1 1 618e 1 1 61f2 1 1 654f 1 1 65e2 1 1 6691 1 1",
   "6885 1 1 6d77 1 1 6e1a 1 1 6f22 1 1 716e 1 1 722b 1 1 7422 1 1 7891 1 1 793e 1 1 7949 1 1",
   "7948 1 1 7950 1 1 7956 1 1 795d 1 1 798d 1 1 798e 1 1 7a40 1 1 7a81 1 1 7bc0 1 1 7df4 1 1",
   "7e09 1 1 7e41 1 1 7f72 1 1 8005 1 1 81ed 1 1 8279 1 1 8279 1 1 8457 1 1 8910 1 1 8996 1 1",
   "8b01 1 1 8b39 1 1 8cd3 1 1 8d08 1 1 8fb6 1 1 9038 1 1 96e3 1 1 97ff 1 1 983b 1 1 6075 1 1",
   "242ee 1 1 8218 3 1 4e26 1 1 51b5 1 1 5168 1 1 4f80 1 1 5145 1 1 5180 1 1 52c7 1 1 52fa 1 1",
   "559d 1 1 5555 1 1 5599 1 1 55e2 1 1 585a 1 1 58b3 1 1 5944 1 1 5954 1 1 5a62 1 1 5b28 1 1",
   "5ed2 1 1 5ed9 1 1 5f69 1 1 5fad 1 1 60d8 1 1 614e 1 1 6108 1 1 618e 1 1 6160 1 1 61f2 1 1",
   "6234 1 1 63c4 1 1 641c 1 1 6452 1 1 6556 1 1 6674 1 1 6717 1 1 671b 1 1 6756 1 1 6b79 1 1",
   "6bba 1 1 6d41 1 1 6edb 1 1 6ecb 1 1 6f22 1 1 701e 1 1 716e 1 1 77a7 1 1 7235 1 1 72af 1 1",
   "732a 1 1 7471 1 1 7506 1 1 753b 1 1 761d 1 1 761f 1 1 76ca 1 1 76db 1 1 76f4 1 1 774a 1 1",
   "7740 1 1 78cc 1 1 7ab1 1 1 7bc0 1 1 7c7b 1 1 7d5b 1 1 7df4 1 1 7f3e 1 1 8005 1 1 8352 1 1",
   "83ef 1 1 8779 1 1 8941 1 1 8986 1 1 8996 1 1 8abf 1 1 8af8 1 1 8acb 1 1 8b01 1 1 8afe 1 1",
   "8aed 1 1 8b39 1 1 8b8a 1 1 8d08 1 1 8f38 1 1 9072 1 1 9199 1 1 9276 1 1 967c 1 1 96e3 1 1",
   "9756 1 1 97db 1 1 97ff 1 1 980b 1 1 983b 1 1 9b12 1 1 9f9c 1 1 2284a 1 1 22844 1 1 233d5 1 1",
   "3b9d 1 1 4018 1 1 4039 1 1 25249 1 1 25cd0 1 1 27ed3 1 1 9f43 1 1 9f8e 44 2 5d9 5b4 2 2 5f2",
   "5b7 b 2 5e9 5c1 1 2 5e9 5c2 1 3 5e9 5bc 5c1 1 3 5e9 5bc 5c2 1 2 5d0 5b7 1 2 5d0 5b8 1 2 5d0",
   "5bc 1 2 5d1 5bc 1 2 5d2 5bc 1 2 5d3 5bc 1 2 5d4 5bc 1 2 5d5 5bc 1 2 5d6 5bc 2 2 5d8 5bc 1 2",
   "5d9 5bc 1 2 5da 5bc 1 2 5db 5bc 1 2 5dc 5bc 2 2 5de 5bc 2 2 5e0 5bc 1 2 5e1 5bc 2 2 5e3 5bc",
   "1 2 5e4 5bc 2 2 5e6 5bc 1 2 5e7 5bc 1 2 5e8 5bc 1 2 5e9 5bc 1 2 5ea 5bc 1 2 5d5 5b9 1 2 5d1",
   "5bf 1 2 5db 5bf 1 2 5e4 5bf a7b 2 105d2 307 1b 2 105da 307 ab6 2 11099 110ba 2 2 1109b 110ba",
   "f 2 110a5 110ba 83 2 11131 11127 1 2 11132 11127 21c 2 11347 1133e 1 2 11347 11357 37 2",
   "11382 113c9 2 2 11384 113bb 9 2 1138b 113c2 3 2 11390 113c9 34 2 113c2 113c2 2 2 113c2 113b8",
   "1 2 113c2 113c9 f3 2 114b9 114ba 1 2 114b9 114b0 2 2 114b9 114bd fc 2 115b8 115af 1 2 115b9",
   "115af 37d 2 11935 11930 47e9 2 1611e 1611e 1 2 1611e 16129 1 2 1611e 1611f 1 2 16129 1611f 1",
   "2 1611e 16120 1 3 1611e 1611e 1611f 1 3 1611e 16129 1611f 1 3 1611e 1611e 16120 c40 2 16d67",
   "16d67 1 2 16d63 16d67 1 3 16d63 16d67 16d67 63f4 2 1d157 1d165 1 2 1d158 1d165 1 3 1d158",
   "1d165 1d16e 1 3 1d158 1d165 1d16f 1 3 1d158 1d165 1d170 1 3 1d158 1d165 1d171 1 3 1d158",
   "1d165 1d172 57 2 1d1b9 1d165 1 2 1d1ba 1d165 1 3 1d1b9 1d165 1d16e 1 3 1d1ba 1d165 1d16e 1 3",
   "1d1b9 1d165 1d16f 1 3 1d1ba 1d165 1d16f 12640 1 4e3d 1 1 4e38 1 1 4e41 1 1 20122 1 1 4f60 1",
   "1 4fae 1 1 4fbb 1 1 5002 1 1 507a 1 1 5099 1 1 50e7 1 1 50cf 1 1 349e 1 1 2063a 1 1 514d 1 1",
   "5154 1 1 5164 1 1 5177 1 1 2051c 1 1 34b9 1 1 5167 1 1 518d 1 1 2054b 1 1 5197 1 1 51a4 1 1",
   "4ecc 1 1 51ac 1 1 51b5 1 1 291df 1 1 51f5 1 1 5203 1 1 34df 1 1 523b 1 1 5246 1 1 5272 1 1",
   "5277 1 1 3515 1 1 52c7 1 1 52c9 1 1 52e4 1 1 52fa 1 1 5305 1 1 5306 1 1 5317 1 1 5349 1 1",
   "5351 1 1 535a 1 1 5373 1 1 537d 1 1 537f 1 1 537f 1 1 537f 1 1 20a2c 1 1 7070 1 1 53ca 1 1",
   "53df 1 1 20b63 1 1 53eb 1 1 53f1 1 1 5406 1 1 549e 1 1 5438 1 1 5448 1 1 5468 1 1 54a2 1 1",
   "54f6 1 1 5510 1 1 5553 1 1 5563 1 1 5584 1 1 5584 1 1 5599 1 1 55ab 1 1 55b3 1 1 55c2 1 1",
   "5716 1 1 5606 1 1 5717 1 1 5651 1 1 5674 1 1 5207 1 1 58ee 1 1 57ce 1 1 57f4 1 1 580d 1 1",
   "578b 1 1 5832 1 1 5831 1 1 58ac 1 1 214e4 1 1 58f2 1 1 58f7 1 1 5906 1 1 591a 1 1 5922 1 1",
   "5962 1 1 216a8 1 1 216ea 1 1 59ec 1 1 5a1b 1 1 5a27 1 1 59d8 1 1 5a66 1 1 36ee 1 1 36fc 1 1",
   "5b08 1 1 5b3e 1 1 5b3e 1 1 219c8 1 1 5bc3 1 1 5bd8 1 1 5be7 1 1 5bf3 1 1 21b18 1 1 5bff 1 1",
   "5c06 1 1 5f53 1 1 5c22 1 1 3781 1 1 5c60 1 1 5c6e 1 1 5cc0 1 1 5c8d 1 1 21de4 1 1 5d43 1 1",
   "21de6 1 1 5d6e 1 1 5d6b 1 1 5d7c 1 1 5de1 1 1 5de2 1 1 382f 1 1 5dfd 1 1 5e28 1 1 5e3d 1 1",
   "5e69 1 1 3862 1 1 22183 1 1 387c 1 1 5eb0 1 1 5eb3 1 1 5eb6 1 1 5eca 1 1 2a392 1 1 5efe 1 1",
   "22331 1 1 22331 1 1 8201 1 1 5f22 1 1 5f22 1 1 38c7 1 1 232b8 1 1 261da 1 1 5f62 1 1 5f6b 1",
   "1 38e3 1 1 5f9a 1 1 5fcd 1 1 5fd7 1 1 5ff9 1 1 6081 1 1 393a 1 1 391c 1 1 6094 1 1 226d4 1 1",
   "60c7 1 1 6148 1 1 614c 1 1 614e 1 1 614c 1 1 617a 1 1 618e 1 1 61b2 1 1 61a4 1 1 61af 1 1",
   "61de 1 1 61f2 1 1 61f6 1 1 6210 1 1 621b 1 1 625d 1 1 62b1 1 1 62d4 1 1 6350 1 1 22b0c 1 1",
   "633d 1 1 62fc 1 1 6368 1 1 6383 1 1 63e4 1 1 22bf1 1 1 6422 1 1 63c5 1 1 63a9 1 1 3a2e 1 1",
   "6469 1 1 647e 1 1 649d 1 1 6477 1 1 3a6c 1 1 654f 1 1 656c 1 1 2300a 1 1 65e3 1 1 66f8 1 1",
   "6649 1 1 3b19 1 1 6691 1 1 3b08 1 1 3ae4 1 1 5192 1 1 5195 1 1 6700 1 1 669c 1 1 80ad 1 1",
   "43d9 1 1 6717 1 1 671b 1 1 6721 1 1 675e 1 1 6753 1 1 233c3 1 1 3b49 1 1 67fa 1 1 6785 1 1",
   "6852 1 1 6885 1 1 2346d 1 1 688e 1 1 681f 1 1 6914 1 1 3b9d 1 1 6942 1 1 69a3 1 1 69ea 1 1",
   "6aa8 1 1 236a3 1 1 6adb 1 1 3c18 1 1 6b21 1 1 238a7 1 1 6b54 1 1 3c4e 1 1 6b72 1 1 6b9f 1 1",
   "6bba 1 1 6bbb 1 1 23a8d 1 1 21d0b 1 1 23afa 1 1 6c4e 1 1 23cbc 1 1 6cbf 1 1 6ccd 1 1 6c67 1",
   "1 6d16 1 1 6d3e 1 1 6d77 1 1 6d41 1 1 6d69 1 1 6d78 1 1 6d85 1 1 23d1e 1 1 6d34 1 1 6e2f 1 1",
   "6e6e 1 1 3d33 1 1 6ecb 1 1 6ec7 1 1 23ed1 1 1 6df9 1 1 6f6e 1 1 23f5e 1 1 23f8e 1 1 6fc6 1 1",
   "7039 1 1 701e 1 1 701b 1 1 3d96 1 1 704a 1 1 707d 1 1 7077 1 1 70ad 1 1 20525 1 1 7145 1 1",
   "24263 1 1 719c 1 1 243ab 1 1 7228 1 1 7235 1 1 7250 1 1 24608 1 1 7280 1 1 7295 1 1 24735 1",
   "1 24814 1 1 737a 1 1 738b 1 1 3eac 1 1 73a5 1 1 3eb8 1 1 3eb8 1 1 7447 1 1 745c 1 1 7471 1 1",
   "7485 1 1 74ca 1 1 3f1b 1 1 7524 1 1 24c36 1 1 753e 1 1 24c92 1 1 7570 1 1 2219f 1 1 7610 1 1",
   "24fa1 1 1 24fb8 1 1 25044 1 1 3ffc 1 1 4008 1 1 76f4 1 1 250f3 1 1 250f2 1 1 25119 1 1 25133",
   "1 1 771e 1 1 771f 1 1 771f 1 1 774a 1 1 4039 1 1 778b 1 1 4046 1 1 4096 1 1 2541d 1 1 784e 1",
   "1 788c 1 1 78cc 1 1 40e3 1 1 25626 1 1 7956 1 1 2569a 1 1 256c5 1 1 798f 1 1 79eb 1 1 412f 1",
   "1 7a40 1 1 7a4a 1 1 7a4f 1 1 2597c 1 1 25aa7 1 1 25aa7 1 1 7aee 1 1 4202 1 1 25bab 1 1 7bc6",
   "1 1 7bc9 1 1 4227 1 1 25c80 1 1 7cd2 1 1 42a0 1 1 7ce8 1 1 7ce3 1 1 7d00 1 1 25f86 1 1 7d63",
   "1 1 4301 1 1 7dc7 1 1 7e02 1 1 7e45 1 1 4334 1 1 26228 1 1 26247 1 1 4359 1 1 262d9 1 1 7f7a",
   "1 1 2633e 1 1 7f95 1 1 7ffa 1 1 8005 1 1 264da 1 1 26523 1 1 8060 1 1 265a8 1 1 8070 1 1",
   "2335f 1 1 43d5 1 1 80b2 1 1 8103 1 1 440b 1 1 813e 1 1 5ab5 1 1 267a7 1 1 267b5 1 1 23393 1",
   "1 2339c 1 1 8201 1 1 8204 1 1 8f9e 1 1 446b 1 1 8291 1 1 828b 1 1 829d 1 1 52b3 1 1 82b1 1 1",
   "82b3 1 1 82bd 1 1 82e6 1 1 26b3c 1 1 82e5 1 1 831d 1 1 8363 1 1 83ad 1 1 8323 1 1 83bd 1 1",
   "83e7 1 1 8457 1 1 8353 1 1 83ca 1 1 83cc 1 1 83dc 1 1 26c36 1 1 26d6b 1 1 26cd5 1 1 452b 1 1",
   "84f1 1 1 84f3 1 1 8516 1 1 273ca 1 1 8564 1 1 26f2c 1 1 455d 1 1 4561 1 1 26fb1 1 1 270d2 1",
   "1 456b 1 1 8650 1 1 865c 1 1 8667 1 1 8669 1 1 86a9 1 1 8688 1 1 870e 1 1 86e2 1 1 8779 1 1",
   "8728 1 1 876b 1 1 8786 1 1 45d7 1 1 87e1 1 1 8801 1 1 45f9 1 1 8860 1 1 8863 1 1 27667 1 1",
   "88d7 1 1 88de 1 1 4635 1 1 88fa 1 1 34bb 1 1 278ae 1 1 27966 1 1 46be 1 1 46c7 1 1 8aa0 1 1",
   "8aed 1 1 8b8a 1 1 8c55 1 1 27ca8 1 1 8cab 1 1 8cc1 1 1 8d1b 1 1 8d77 1 1 27f2f 1 1 20804 1 1",
   "8dcb 1 1 8dbc 1 1 8df0 1 1 208de 1 1 8ed4 1 1 8f38 1 1 285d2 1 1 285ed 1 1 9094 1 1 90f1 1 1",
   "9111 1 1 2872e 1 1 911b 1 1 9238 1 1 92d7 1 1 92d8 1 1 927c 1 1 93f9 1 1 9415 1 1 28bfa 1 1",
   "958b 1 1 4995 1 1 95b7 1 1 28d77 1 1 49e6 1 1 96c3 1 1 5db2 1 1 9723 1 1 29145 1 1 2921a 1 1",
   "4a6e 1 1 4a76 1 1 97e0 1 1 2940a 1 1 4ab2 1 1 29496 1 1 980b 1 1 980b 1 1 9829 1 1 295b6 1 1",
   "98e2 1 1 4b33 1 1 9929 1 1 99a7 1 1 99c2 1 1 99fe 1 1 4bce 1 1 29b30 1 1 9b12 1 1 9c40 1 1",
   "9cfd 1 1 4cce 1 1 4ced 1 1 9d67 1 1 2a0ce 1 1 4cf8 1 1 2a105 1 1 2a20e 1 1 2a291 1 1 9ebb 1",
   "1 4d56 1 1 9ef9 1 1 9efe 1 1 9f05 1 1 9f0f 1 1 9f16 1 1 9f3b 1 1 2a600"]

/-- Pairs that compose: gap of the composite, and its two parts. -/
def compositionRows : List String :=
  ["c0 41 300 1 41 301 1 41 302 1 41 303 1 41 308 1 41 30a 2 43 327 1 45 300 1 45 301 1 45 302 1",
   "45 308 1 49 300 1 49 301 1 49 302 1 49 308 2 4e 303 1 4f 300 1 4f 301 1 4f 302 1 4f 303 1 4f",
   "308 3 55 300 1 55 301 1 55 302 1 55 308 1 59 301 3 61 300 1 61 301 1 61 302 1 61 303 1 61",
   "308 1 61 30a 2 63 327 1 65 300 1 65 301 1 65 302 1 65 308 1 69 300 1 69 301 1 69 302 1 69",
   "308 2 6e 303 1 6f 300 1 6f 301 1 6f 302 1 6f 303 1 6f 308 3 75 300 1 75 301 1 75 302 1 75",
   "308 1 79 301 2 79 308 1 41 304 1 61 304 1 41 306 1 61 306 1 41 328 1 61 328 1 43 301 1 63",
   "301 1 43 302 1 63 302 1 43 307 1 63 307 1 43 30c 1 63 30c 1 44 30c 1 64 30c 3 45 304 1 65",
   "304 1 45 306 1 65 306 1 45 307 1 65 307 1 45 328 1 65 328 1 45 30c 1 65 30c 1 47 302 1 67",
   "302 1 47 306 1 67 306 1 47 307 1 67 307 1 47 327 1 67 327 1 48 302 1 68 302 3 49 303 1 69",
   "303 1 49 304 1 69 304 1 49 306 1 69 306 1 49 328 1 69 328 1 49 307 4 4a 302 1 6a 302 1 4b",
   "327 1 6b 327 2 4c 301 1 6c 301 1 4c 327 1 6c 327 1 4c 30c 1 6c 30c 5 4e 301 1 6e 301 1 4e",
   "327 1 6e 327 1 4e 30c 1 6e 30c 4 4f 304 1 6f 304 1 4f 306 1 6f 306 1 4f 30b 1 6f 30b 3 52",
   "301 1 72 301 1 52 327 1 72 327 1 52 30c 1 72 30c 1 53 301 1 73 301 1 53 302 1 73 302 1 53",
   "327 1 73 327 1 53 30c 1 73 30c 1 54 327 1 74 327 1 54 30c 1 74 30c 3 55 303 1 75 303 1 55",
   "304 1 75 304 1 55 306 1 75 306 1 55 30a 1 75 30a 1 55 30b 1 75 30b 1 55 328 1 75 328 1 57",
   "302 1 77 302 1 59 302 1 79 302 1 59 308 1 5a 301 1 7a 301 1 5a 307 1 7a 307 1 5a 30c 1 7a",
   "30c 22 4f 31b 1 6f 31b e 55 31b 1 75 31b 1d 41 30c 1 61 30c 1 49 30c 1 69 30c 1 4f 30c 1 6f",
   "30c 1 55 30c 1 75 30c 1 dc 304 1 fc 304 1 dc 301 1 fc 301 1 dc 30c 1 fc 30c 1 dc 300 1 fc",
   "300 2 c4 304 1 e4 304 1 226 304 1 227 304 1 c6 304 1 e6 304 3 47 30c 1 67 30c 1 4b 30c 1 6b",
   "30c 1 4f 328 1 6f 328 1 1ea 304 1 1eb 304 1 1b7 30c 1 292 30c 1 6a 30c 4 47 301 1 67 301 3",
   "4e 300 1 6e 300 1 c5 301 1 e5 301 1 c6 301 1 e6 301 1 d8 301 1 f8 301 1 41 30f 1 61 30f 1 41",
   "311 1 61 311 1 45 30f 1 65 30f 1 45 311 1 65 311 1 49 30f 1 69 30f 1 49 311 1 69 311 1 4f",
   "30f 1 6f 30f 1 4f 311 1 6f 311 1 52 30f 1 72 30f 1 52 311 1 72 311 1 55 30f 1 75 30f 1 55",
   "311 1 75 311 1 53 326 1 73 326 1 54 326 1 74 326 3 48 30c 1 68 30c 7 41 307 1 61 307 1 45",
   "327 1 65 327 1 d6 304 1 f6 304 1 d5 304 1 f5 304 1 4f 307 1 6f 307 1 22e 304 1 22f 304 1 59",
   "304 1 79 304 152 a8 301 1 391 301 2 395 301 1 397 301 1 399 301 2 39f 301 2 3a5 301 1 3a9",
   "301 1 3ca 301 1a 399 308 1 3a5 308 1 3b1 301 1 3b5 301 1 3b7 301 1 3b9 301 1 3cb 301 1a 3b9",
   "308 1 3c5 308 1 3bf 301 1 3c5 301 1 3c9 301 5 3d2 301 1 3d2 308 2c 415 300 1 415 308 2 413",
   "301 4 406 308 5 41a 301 1 418 300 1 423 306 b 418 306 20 438 306 17 435 300 1 435 308 2 433",
   "301 4 456 308 5 43a 301 1 438 300 1 443 306 18 474 30f 1 475 30f 4a 416 306 1 436 306 e 410",
   "306 1 430 306 1 410 308 1 430 308 3 415 306 1 435 306 3 4d8 308 1 4d9 308 1 416 308 1 436",
   "308 1 417 308 1 437 308 3 418 304 1 438 304 1 418 308 1 438 308 1 41e 308 1 43e 308 3 4e8",
   "308 1 4e9 308 1 42d 308 1 44d 308 1 423 304 1 443 304 1 423 308 1 443 308 1 423 30b 1 443",
   "30b 1 427 308 1 447 308 3 42b 308 1 44b 308 129 627 653 1 627 654 1 648 654 1 627 655 1 64a",
   "654 9a 6d5 654 2 6c1 654 11 6d2 654 256 928 93c 8 930 93c 3 933 93c 97 9c7 9be 1 9c7 9d7 17c",
   "b47 b56 3 b47 b3e 1 b47 b57 48 b92 bd7 36 bc6 bbe 1 bc7 bbe 1 bc6 bd7 7c c46 c56 78 cbf cd5",
   "7 cc6 cd5 1 cc6 cd6 2 cc6 cc2 1 cca cd5 7f d46 d3e 1 d47 d3e 1 d46 d57 8e dd9 dca 2 dd9 dcf",
   "1 ddc dca 1 dd9 ddf 248 1025 102e ae0 1b05 1b35 2 1b07 1b35 2 1b09 1b35 2 1b0b 1b35 2 1b0d",
   "1b35 4 1b11 1b35 29 1b3a 1b35 2 1b3c 1b35 3 1b3e 1b35 1 1b3f 1b35 2 1b42 1b35 2bd 41 325 1",
   "61 325 1 42 307 1 62 307 1 42 323 1 62 323 1 42 331 1 62 331 1 c7 301 1 e7 301 1 44 307 1 64",
   "307 1 44 323 1 64 323 1 44 331 1 64 331 1 44 327 1 64 327 1 44 32d 1 64 32d 1 112 300 1 113",
   "300 1 112 301 1 113 301 1 45 32d 1 65 32d 1 45 330 1 65 330 1 228 306 1 229 306 1 46 307 1",
   "66 307 1 47 304 1 67 304 1 48 307 1 68 307 1 48 323 1 68 323 1 48 308 1 68 308 1 48 327 1 68",
   "327 1 48 32e 1 68 32e 1 49 330 1 69 330 1 cf 301 1 ef 301 1 4b 301 1 6b 301 1 4b 323 1 6b",
   "323 1 4b 331 1 6b 331 1 4c 323 1 6c 323 1 1e36 304 1 1e37 304 1 4c 331 1 6c 331 1 4c 32d 1",
   "6c 32d 1 4d 301 1 6d 301 1 4d 307 1 6d 307 1 4d 323 1 6d 323 1 4e 307 1 6e 307 1 4e 323 1 6e",
   "323 1 4e 331 1 6e 331 1 4e 32d 1 6e 32d 1 d5 301 1 f5 301 1 d5 308 1 f5 308 1 14c 300 1 14d",
   "300 1 14c 301 1 14d 301 1 50 301 1 70 301 1 50 307 1 70 307 1 52 307 1 72 307 1 52 323 1 72",
   "323 1 1e5a 304 1 1e5b 304 1 52 331 1 72 331 1 53 307 1 73 307 1 53 323 1 73 323 1 15a 307 1",
   "15b 307 1 160 307 1 161 307 1 1e62 307 1 1e63 307 1 54 307 1 74 307 1 54 323 1 74 323 1 54",
   "331 1 74 331 1 54 32d 1 74 32d 1 55 324 1 75 324 1 55 330 1 75 330 1 55 32d 1 75 32d 1 168",
   "301 1 169 301 1 16a 308 1 16b 308 1 56 303 1 76 303 1 56 323 1 76 323 1 57 300 1 77 300 1 57",
   "301 1 77 301 1 57 308 1 77 308 1 57 307 1 77 307 1 57 323 1 77 323 1 58 307 1 78 307 1 58",
   "308 1 78 308 1 59 307 1 79 307 1 5a 302 1 7a 302 1 5a 323 1 7a 323 1 5a 331 1 7a 331 1 68",
   "331 1 74 308 1 77 30a 1 79 30a 2 17f 307 5 41 323 1 61 323 1 41 309 1 61 309 1 c2 301 1 e2",
   "301 1 c2 300 1 e2 300 1 c2 309 1 e2 309 1 c2 303 1 e2 303 1 1ea0 302 1 1ea1 302 1 102 301 1",
   "103 301 1 102 300 1 103 300 1 102 309 1 103 309 1 102 303 1 103 303 1 1ea0 306 1 1ea1 306 1",
   "45 323 1 65 323 1 45 309 1 65 309 1 45 303 1 65 303 1 ca 301 1 ea 301 1 ca 300 1 ea 300 1 ca",
   "309 1 ea 309 1 ca 303 1 ea 303 1 1eb8 302 1 1eb9 302 1 49 309 1 69 309 1 49 323 1 69 323 1",
   "4f 323 1 6f 323 1 4f 309 1 6f 309 1 d4 301 1 f4 301 1 d4 300 1 f4 300 1 d4 309 1 f4 309 1 d4",
   "303 1 f4 303 1 1ecc 302 1 1ecd 302 1 1a0 301 1 1a1 301 1 1a0 300 1 1a1 300 1 1a0 309 1 1a1",
   "309 1 1a0 303 1 1a1 303 1 1a0 323 1 1a1 323 1 55 323 1 75 323 1 55 309 1 75 309 1 1af 301 1",
   "1b0 301 1 1af 300 1 1b0 300 1 1af 309 1 1b0 309 1 1af 303 1 1b0 303 1 1af 323 1 1b0 323 1 59",
   "300 1 79 300 1 59 323 1 79 323 1 59 309 1 79 309 1 59 303 1 79 303 7 3b1 313 1 3b1 314 1",
   "1f00 300 1 1f01 300 1 1f00 301 1 1f01 301 1 1f00 342 1 1f01 342 1 391 313 1 391 314 1 1f08",
   "300 1 1f09 300 1 1f08 301 1 1f09 301 1 1f08 342 1 1f09 342 1 3b5 313 1 3b5 314 1 1f10 300 1",
   "1f11 300 1 1f10 301 1 1f11 301 3 395 313 1 395 314 1 1f18 300 1 1f19 300 1 1f18 301 1 1f19",
   "301 3 3b7 313 1 3b7 314 1 1f20 300 1 1f21 300 1 1f20 301 1 1f21 301 1 1f20 342 1 1f21 342 1",
   "397 313 1 397 314 1 1f28 300 1 1f29 300 1 1f28 301 1 1f29 301 1 1f28 342 1 1f29 342 1 3b9",
   "313 1 3b9 314 1 1f30 300 1 1f31 300 1 1f30 301 1 1f31 301 1 1f30 342 1 1f31 342 1 399 313 1",
   "399 314 1 1f38 300 1 1f39 300 1 1f38 301 1 1f39 301 1 1f38 342 1 1f39 342 1 3bf 313 1 3bf",
   "314 1 1f40 300 1 1f41 300 1 1f40 301 1 1f41 301 3 39f 313 1 39f 314 1 1f48 300 1 1f49 300 1",
   "1f48 301 1 1f49 301 3 3c5 313 1 3c5 314 1 1f50 300 1 1f51 300 1 1f50 301 1 1f51 301 1 1f50",
   "342 1 1f51 342 2 3a5 314 2 1f59 300 2 1f59 301 2 1f59 342 1 3c9 313 1 3c9 314 1 1f60 300 1",
   "1f61 300 1 1f60 301 1 1f61 301 1 1f60 342 1 1f61 342 1 3a9 313 1 3a9 314 1 1f68 300 1 1f69",
   "300 1 1f68 301 1 1f69 301 1 1f68 342 1 1f69 342 1 3b1 300 2 3b5 300 2 3b7 300 2 3b9 300 2",
   "3bf 300 2 3c5 300 2 3c9 300 4 1f00 345 1 1f01 345 1 1f02 345 1 1f03 345 1 1f04 345 1 1f05",
   "345 1 1f06 345 1 1f07 345 1 1f08 345 1 1f09 345 1 1f0a 345 1 1f0b 345 1 1f0c 345 1 1f0d 345",
   "1 1f0e 345 1 1f0f 345 1 1f20 345 1 1f21 345 1 1f22 345 1 1f23 345 1 1f24 345 1 1f25 345 1",
   "1f26 345 1 1f27 345 1 1f28 345 1 1f29 345 1 1f2a 345 1 1f2b 345 1 1f2c 345 1 1f2d 345 1 1f2e",
   "345 1 1f2f 345 1 1f60 345 1 1f61 345 1 1f62 345 1 1f63 345 1 1f64 345 1 1f65 345 1 1f66 345",
   "1 1f67 345 1 1f68 345 1 1f69 345 1 1f6a 345 1 1f6b 345 1 1f6c 345 1 1f6d 345 1 1f6e 345 1",
   "1f6f 345 1 3b1 306 1 3b1 304 1 1f70 345 1 3b1 345 1 3ac 345 2 3b1 342 1 1fb6 345 1 391 306 1",
   "391 304 1 391 300 2 391 345 5 a8 342 1 1f74 345 1 3b7 345 1 3ae 345 2 3b7 342 1 1fc6 345 1",
   "395 300 2 397 300 2 397 345 1 1fbf 300 1 1fbf 301 1 1fbf 342 1 3b9 306 1 3b9 304 1 3ca 300 4",
   "3b9 342 1 3ca 342 1 399 306 1 399 304 1 399 300 3 1ffe 300 1 1ffe 301 1 1ffe 342 1 3c5 306 1",
   "3c5 304 1 3cb 300 2 3c1 313 1 3c1 314 1 3c5 342 1 3cb 342 1 3a5 306 1 3a5 304 1 3a5 300 2",
   "3a1 314 1 a8 300 5 1f7c 345 1 3c9 345 1 3ce 345 2 3c9 342 1 1ff6 345 1 39f 300 2 3a9 300 2",
   "3a9 345 19e 2190 338 1 2192 338 13 2194 338 1f 21d0 338 1 21d4 338 1 21d2 338 35 2203 338 5",
   "2208 338 3 220b 338 18 2223 338 2 2225 338 1b 223c 338 3 2243 338 3 2245 338 2 2248 338 17",
   "3d 338 2 2261 338 b 224d 338 1 3c 338 1 3e 338 1 2264 338 1 2265 338 3 2272 338 1 2273 338 3",
   "2276 338 1 2277 338 7 227a 338 1 227b 338 3 2282 338 1 2283 338 3 2286 338 1 2287 338 23",
   "22a2 338 1 22a8 338 1 22a9 338 1 22ab 338 31 227c 338 1 227d 338 1 2291 338 1 2292 338 7",
   "22b2 338 1 22b3 338 1 22b4 338 1 22b5 338 d5f 304b 3099 2 304d 3099 2 304f 3099 2 3051 3099",
   "2 3053 3099 2 3055 3099 2 3057 3099 2 3059 3099 2 305b 3099 2 305d 3099 2 305f 3099 2 3061",
   "3099 3 3064 3099 2 3066 3099 2 3068 3099 7 306f 3099 1 306f 309a 2 3072 3099 1 3072 309a 2",
   "3075 3099 1 3075 309a 2 3078 3099 1 3078 309a 2 307b 3099 1 307b 309a 17 3046 3099 a 309d",
   "3099 e 30ab 3099 2 30ad 3099 2 30af 3099 2 30b1 3099 2 30b3 3099 2 30b5 3099 2 30b7 3099 2",
   "30b9 3099 2 30bb 3099 2 30bd 3099 2 30bf 3099 2 30c1 3099 3 30c4 3099 2 30c6 3099 2 30c8",
   "3099 7 30cf 3099 1 30cf 309a 2 30d2 3099 1 30d2 309a 2 30d5 3099 1 30d5 309a 2 30d8 3099 1",
   "30d8 309a 2 30db 3099 1 30db 309a 17 30a6 3099 3 30ef 3099 1 30f0 3099 1 30f1 3099 1 30f2",
   "3099 4 30fd 3099 d4cb 105d2 307 1b 105da 307 ab6 11099 110ba 2 1109b 110ba f 110a5 110ba 83",
   "11131 11127 1 11132 11127 21c 11347 1133e 1 11347 11357 37 11382 113c9 2 11384 113bb 9 1138b",
   "113c2 3 11390 113c9 34 113c2 113c2 2 113c2 113b8 1 113c2 113c9 f3 114b9 114ba 1 114b9 114b0",
   "2 114b9 114bd fc 115b8 115af 1 115b9 115af 37d 11935 11930 47e9 1611e 1611e 1 1611e 16129 1",
   "1611e 1611f 1 16129 1611f 1 1611e 16120 1 16121 1611f 1 16122 1611f 1 16121 16120 c40 16d67",
   "16d67 1 16d63 16d67 1 16d69 16d67"]

/-- Combining classes other than zero: gap, length and class of each run. -/
def classRows : List String :=
  ["300 14 e6 1 0 e8 1 3 dc 1 0 e8 1 0 d8 1 4 dc 1 1 ca 1 3 dc 1 1 ca 1 a dc 1 4 1 1 3 dc 1 7 e6",
   "1 0 f0 1 0 e6 1 2 dc 1 2 e6 1 1 dc 2 2 e6 1 3 dc 1 0 e6 1 0 e8 1 1 dc 1 0 e6 1 0 e9 1 1 ea 1",
   "0 e9 1 1 ea 1 0 e9 1 c e6 114 4 e6 10a 0 dc 1 3 e6 1 0 dc 1 2 e6 1 0 de 1 0 dc 1 5 e6 1 5 dc",
   "1 1 e6 1 0 dc 1 1 e6 1 0 de 1 0 e4 1 0 e6 1 0 a 1 0 b 1 0 c 1 0 d 1 0 e 1 0 f 1 0 10 1 0 11",
   "1 0 12 1 1 13 1 0 14 1 0 15 1 0 16 2 0 17 2 0 18 1 0 19 2 0 e6 1 0 dc 2 0 12 49 7 e6 1 0 1e",
   "1 0 1f 1 0 20 31 0 1b 1 0 1c 1 0 1d 1 0 1e 1 0 1f 1 0 20 1 0 21 1 0 22 1 1 e6 1 1 dc 1 4 e6",
   "1 0 dc 1 1 e6 1 0 dc 11 0 23 66 6 e6 3 3 e6 1 0 dc 1 0 e6 3 1 e6 2 0 dc 1 1 e6 1 0 dc 24 0",
   "24 1f 0 e6 1 0 dc 1 1 e6 1 0 dc 1 1 e6 1 2 dc 1 0 e6 1 1 dc 1 0 e6 1 0 dc 1 2 e6 1 0 dc 1 0",
   "e6 1 0 dc 1 0 e6 1 0 dc 1 0 e6 1 0 dc 1 1 e6 a1 6 e6 1 0 dc 1 0 e6 a 0 dc 19 3 e6 2 8 e6 2 2",
   "e6 2 4 e6 2c 2 dc 3d 0 e6 1 2 dc 1 3 e6 2b 4 e6 1 4 dc 1 d e6 2 0 dc 1 1 e6 1 0 dc 1 1 e6 1",
   "0 dc 1 2 e6 1 2 dc 1 0 1b 1 0 1c 1 0 1d 1 2 e6 1 0 dc 1 1 e6 1 1 dc 1 4 e6 3d 0 7 11 0 9 4 0",
   "e6 1 0 dc 1 1 e6 68 0 7 11 0 9 31 0 e6 3e 0 7 11 0 9 6f 0 7 11 0 9 6f 0 7 11 0 9 80 0 9 6f 0",
   "7 11 0 9 8 0 54 1 0 5b 66 0 7 11 0 9 6e 1 9 11 0 9 7d 0 9 6e 1 67 1 0 9 e 3 6b 6d 1 76 1 0 9",
   "e 3 7a 4d 1 dc 1c 0 dc 2 0 dc 2 0 d8 38 0 81 1 0 82 2 0 84 6 3 82 3 0 82 2 1 e6 1 0 9 2 1 e6",
   "3f 0 dc 71 0 7 2 1 9 53 0 dc 2d0 2 e6 3b5 1 9 1f 0 9 9e 0 9 b 0 e6 cc 0 e4 90 0 de 1 0 e6 1",
   "0 dc dc 0 e6 1 0 dc 48 0 9 15 7 e6 3 0 dc 31 4 e6 1 5 dc 1 1 e6 1 0 dc 2 1 dc 1 1 e6 1 1 dc",
   "1 4 e6 1 0 dc 1 3 e6 66 0 7 10 0 9 27 0 e6 1 0 dc 1 6 e6 37 1 9 3b 0 7 c 1 9 44 0 7 99 2 e6",
   "2 0 1 1 4 dc 1 1 e6 1 3 dc 1 0 e6 2 6 1 5 0 dc 7 0 e6 4 1 e6 c7 1 e6 1 0 dc 1 6 e6 1 0 dc 1",
   "1 e6 1 0 ea 1 0 d6 1 0 dc 1 0 ca 1 24 e6 1 0 e8 1 1 e4 1 0 dc 1 0 da 1 0 e6 1 0 e9 1 0 dc 1",
   "0 e6 1 0 dc 2d1 1 e6 1 1 1 1 3 e6 1 2 1 1 1 e6 5 0 e6 4 1 1 1 0 e6 1 0 dc 1 0 e6 1 1 1 1 3",
   "dc 1 0 e6 bff 2 e6 8e 0 9 61 1f e6 22b 0 da 1 0 e4 1 0 e8 1 0 de 1 1 e0 6a 1 8 75d5 0 e6 5 9",
   "e6 21 1 e6 51 1 e6 115 0 9 26 0 9 98 0 9 1c 11 e6 3a 2 dc 26 0 9 60 0 7 d 0 9 f0 0 e6 2 1 e6",
   "1 0 dc 3 1 e6 6 1 e6 2 0 e6 35 0 9 f7 0 9 4f31 0 1a 302 6 e6 1 6 dc 1 1 e6 3ce 0 dc e3 0 dc",
   "96 4 e6 693 0 dc 2 0 e6 29 0 e6 1 0 1 1 0 dc 5 0 9 a6 0 e6 1 0 dc 23e 3 e6 184 1 e6 9a 1 dc",
   "1 2 e6 1 0 dc 1 0 e6 1 3 dc 32 0 e6 1 0 dc 1 0 e6 1 0 dc c1 0 9 2a 0 9 f 0 9 3a 0 9 1 0 7 46",
   "2 e6 31 1 9 3f 0 7 4d 0 9 a 0 7 6b 0 9 1 0 7 b3 0 7 1 0 9 51 1 7 11 0 9 19 6 e6 4 4 e6 ce 0",
   "9 4 0 7 18 0 e6 64 0 9 1 0 7 fc 0 9 1 0 7 7f 0 9 77 0 9 1 0 7 74 0 9 10e 0 9 1 0 7 103 1 9 5",
   "0 7 9d 0 9 54 0 9 13 0 9 52 0 9 1a6 0 9 103 0 7 2 1 9 52 0 9 4d59 4 1 3c 6 e6 4ba 1 6 4cad 0",
   "1 14c7 1 d8 1 2 1 4 0 e2 1 4 d8 9 7 dc 3 4 e6 1 1 dc 1f 3 e6 95 2 e6 dbc 6 e6 2 10 e6 3 6 e6",
   "2 1 e6 2 4 e6 106 6 e6 178 0 e6 3e 3 e6 5e1 6 dc 6e 5 e6 1 0 7"]

/-- The characters with a canonical decomposition, and their parts. -/
def decompositions : Array (Nat × List Nat) :=
  (PackedTable.expansions 0 (PackedTable.unpack decompositionRows)).toArray

/-- The pairs that compose, and their composites. -/
def compositions : Array (Nat × Nat × Nat) :=
  (PackedTable.pairs 0 (PackedTable.unpack compositionRows)).toArray

/-- The runs of characters with a combining class other than zero. -/
def classes : Array PackedTable.Valued :=
  (PackedTable.valued 0 (PackedTable.unpack classRows)).toArray

/-- The combining class of a character. -/
def combiningClass (c : Char) : Nat :=
  if c.toNat < 0x300 then 0 else PackedTable.valueIn classes c.toNat

end Normalization
end ServiceReadiness
