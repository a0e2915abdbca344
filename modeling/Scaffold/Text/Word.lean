import Scaffold.Text.Ranges

/-!
Word characters, digits and letters after the Unicode Character Database: a word character is
alphabetic, a mark, a decimal digit, a connector punctuation or a join control. Names are held to a
later edition of the database, which knows more letters.
-/
namespace Scaffold.Text

def wordRanges : Ranges := .ofTable
  "aa 0 a 0 4 0 5 16 1 1e 1 1c9 4 b e 4 7 0 1 0 11 74 1 1 2 3 1 0 6 0 1 2 1 0 1 13 1 52 1 8a 1
   ac 1 25 2 0 6 28 8 2c 1 0 1 1 1 1 1 0 8 1a 4 3 1d a 5 49 4 65 1 7 2 9 1 12 2 0 10 3a 2 64 e
   35 4 0 2 0 2 2d 12 1b 4 a 5 17 1 5 8 4a 1 80 2 9 1 12 1 7 2 1 2 15 1 6 1 0 3 3 2 8 2 1 2 3 8
   0 4 1 1 4 2 b a 0 1 0 2 2 1 5 4 1 2 15 1 6 1 1 1 1 1 1 2 0 1 4 4 1 2 2 3 0 7 3 1 0 7 f b 2 1
   8 1 2 1 15 1 6 1 1 1 4 2 9 1 2 1 2 2 0 f 3 2 9 9 6 1 2 1 7 2 1 2 15 1 6 1 1 1 4 2 8 2 1 2 2 7
   2 4 1 1 4 2 9 1 0 10 1 1 5 3 2 1 3 3 1 1 0 1 1 3 1 3 2 3 b 4 4 3 2 1 3 2 0 6 0 e 9 10 c 1 2 1
   16 1 f 2 8 1 2 1 3 7 1 1 2 2 0 2 3 2 9 10 3 1 7 1 2 1 16 1 9 1 4 2 8 1 2 1 3 7 1 6 1 1 3 2 9
   1 2 c c 1 2 1 32 1 2 1 4 5 3 7 4 2 9 a 5 1 2 1 11 3 17 1 8 1 0 2 6 3 0 4 5 1 0 1 7 6 9 2 1 d
   39 5 e 1 9 27 1 1 0 1 4 1 17 1 0 1 16 2 4 1 0 1 6 1 9 2 3 20 0 17 1 6 9 b 0 1 0 1 0 4 9 1 23
   4 13 1 11 1 23 9 0 39 49 6 4d 2 25 1 0 5 0 2 2a 1 14c 1 3 2 6 1 0 1 3 2 28 1 3 2 20 1 3 2 6 1
   0 1 3 2 e 1 38 1 3 2 42 2 2 20 f 10 55 2 5 3 26b 2 10 1 19 5 4a 3 a 7 15 9 15 b 13 c c 1 2 1
   1 c 53 3 0 4 1 2 9 21 2 1 a 6 58 7 2a 5 45 a 1e 1 b 4 b a 27 2 4 b 2b 4 19 6 9 26 1b 4 3e 1
   1c 2 a 6 9 d 0 8 1e 31 4c 3 9 11 8 c 73 c 37 8 9 3 30 2 a 5 2a 2 2 10 2 1 26 5 215 2 5 2 25 2
   5 2 7 1 0 1 0 1 0 1 1e 2 34 1 6 1 0 3 2 1 6 3 3 2 5 4 c 5 2 1 6 f 1 31 1 13 0 1c 0 d 0 10 c
   33 20 11 0 4 0 2 9 1 0 3 4 6 0 1 0 1 0 1 3 1 a 2 3 5 4 4 0 11 28 32d 33 716 e4 6 8 c 25 1 0 5
   0 2 37 7 0 f 17 9 6 1 6 1 6 1 6 1 6 1 6 1 6 1 6 1 1f 2f 0 1d5 2 19 e 1 4 2 4 4 55 2 1 2 2 1
   59 1 3 5 2a 1 5d 11 1f 30 f 200 19bf 40 568c 43 2d 2 10c 3 1b 14 32 1 9 1 72 25 8 2 66 2 42 2
   1 1 0 1 7 15 35 4 0 13 33 c 45 a 9 6 17 3 0 1 30 2 23 c 1c 3 40 e a 6 1e 1 36 9 d 2 9 6 16 3
   48 18 2 2 f 2 4 a 5 2 5 2 5 9 6 1 6 1 2a 1 d 6 7a 1 1 2 9 6 2ba3 c 16 4 30 2104 16d 2 69 26 6
   c 4 5 b 1 c 1 4 1 0 1 1 1 1 1 6b 21 16a 12 3f 2 35 28 b 4 f 10 f 3 1 18 2 20 4 1 86 13 9 7 19
   4 0 1 19 b 58 3 5 2 5 2 5 2 2 23 b 1 19 1 12 1 1 1 e 2 d 22 7a 45 34 88 0 82 1c 3 30 f 0 1f
   1f d 1d 5 2a 5 1d 2 23 4 7 1 4 2a 9d 2 9 6 23 4 23 4 27 8 33 c a 1 e 1 6 1 1 1 a 1 e 1 6 1 1
   3 33 c 136 9 15 a 7 18 5 1 29 1 8 45 5 2 0 1 2b 1 1 3 0 2 16 a 16 9 1e 41 12 1 1 a 15 a 19 46
   37 6 1 40 3 1 1 5 7 1 2 1 1c 2 2 4 0 20 1c 3 1c 23 7 1 1d 19 35 a 15 a 12 d 11 6e 48 37 32 d
   32 d 27 8 9 6 25 3 4 1 16 fa 29 1 1 3 1 10 2 37 20 a 0 8 20 1f 15 2a 14 1b 16 9 46 1f f 9 3b
   7 0 d 18 7 9 6 34 1 9 4 3 8 23 2 0 9 44 4 3 1 c 1 0 23 11 1 24 6 3 3e 6 1 0 1 3 1 e 1 9 7 3a
   5 9 6 3 1 7 2 1 2 15 1 6 1 1 1 4 1 9 2 1 2 2 2 0 6 0 5 6 2 6 3 4 b 9 1 0 2 0 1 25 1 9 1 0 2 0
   1 3 1 7 d 1 1d 4a 5 9 4 3 1e 45 1 0 8 9 a6 35 2 8 17 5 22 40 3 0 b 9 26 38 7 9 6 13 1c 1a 2 e
   4 9 6 6 b9 3a 65 49 15 7 2 0 2 7 1 1 1 1d 1 1 2 8 c 9 46 7 2 2d 2 7 1 1 1b 3e 8 0 8 49 3 0 12
   48 c7 20 f 9 6 8 1 2c 1 8 f 9 18 1d 2 15 1 d 49 6 1 1 1 2b 3 0 1 1 1 8 8 9 6 5 1 1 1 24 1 1 1
   5 7 9 136 16 9 10 1 28 3 4 d a 55 0 4f 399 66 6e 11 c3 a4c 60 f 42f 10 15 a f9a 5 246 1ab9 39
   6c6 238 7 1e 1 9 6 4e 1 9 6 1d 2 4 b 36 9 3 c 9 9 14 5 12 1b0 2c 3 9 c6 3f 80 4a 4 38 7 10 40
   1 1 1 b 1 e 17f7 8 4d5 29 9 22e7 3 1 6 1 1 1 122 f 0 1d 2 2 0 e 3 8 18b 904 6a 5 c 3 8 7 9 3
   1 1051 9 206 2d 2 16 21e 4 3 5 8 7 2 6 1e 3 94 2 1bb 54 1 46 1 1 2 0 2 1 2 3 1 b 1 0 1 6 1 40
   1 3 2 7 1 6 1 1b 1 3 1 4 1 0 3 6 1 153 2 18 1 18 1 1e 1 18 1 1e 1 18 1 1e 1 18 1 1e 1 18 1 7
   2 31 200 36 4 31 8 0 e 0 16 4 1 e 450 1e 6 5 d5 6 1 10 2 6 1 1 1 4 5 3d 21 0 70 2c 3 d 2 9 4
   0 141 1e 11 39 1d6 29 d6 2a 1e5 6 1 3 1 1 1 e 1 c4 b 6 29 4b 4 9 4a6 3 1 1a 1 1 1 0 2 0 1 9 1
   3 1 0 1 0 6 0 4 0 1 0 1 0 1 2 1 1 1 0 2 0 1 0 1 0 1 0 1 0 1 1 1 0 2 3 1 6 1 3 1 3 1 0 1 9 1
   10 5 2 1 4 1 10 274 19 6 19 6 19 a66 9 406 a6df 20 1039 6 dd 2 1681 e 1d30 f 26d 9a2 21d 5e2
   134a 5 105f add50 ef"

/-- Decimal digits beyond ASCII (general category Nd). -/
def digitRanges : Ranges := .ofTable
  "660 9 86 9 c6 9 19c 9 76 9 76 9 76 9 76 9 76 9 76 9 76 9 76 9 76 9 60 9 76 9 46 9 116 9 46 9
   746 9 26 9 12c 9 80 9 a6 9 6 9 b6 9 56 9 86 9 6 9 89c6 9 2a6 9 26 9 c6 9 16 9 56 9 196 9 5316
   9 586 9 886 9 6 9 31c 9 80 9 3c 9 90 9 116 9 156 9 76 9 176 9 66 9 6 13 4c 9 1a6 9 66 9 296 9
   56 9 f6 9 46 9 1a6 9 41d6 9 926 9 56 9 86 9 216 9 5f76 9 ad4 31 940 9 1a6 9 1f6 9 f7 9 355 9
   1296 9"

def alphabeticRanges : Ranges := .ofTable
  "aa 0 a 0 4 0 5 16 1 1e 1 1c9 4 b e 4 7 0 1 0 56 0 1d 11 1 1 2 3 1 0 6 0 1 2 1 0 1 13 1 52 1
   8a 8 a5 1 25 2 0 6 28 27 d 1 0 1 1 1 1 1 0 8 1a 4 3 1d a 5 37 1 6 e 65 1 7 4 7 4 2 a 2 2 0 10
   2f d 64 18 20 9 1 4 0 5 17 2 12 13 18 7 a 5 17 1 6 7 0 8 29 a b 3 6 6 4b 1 f 1 2 4 e d 12 1 7
   2 1 2 15 1 6 1 0 3 3 3 7 2 1 2 1 1 0 8 0 4 1 1 4 c 1 a 0 4 2 1 5 4 1 2 15 1 6 1 1 1 1 1 1 4 4
   4 1 2 1 4 0 7 3 1 0 11 5 b 2 1 8 1 2 1 15 1 6 1 1 1 4 3 8 1 2 1 1 3 0 f 3 15 3 4 2 1 7 2 1 2
   15 1 6 1 1 1 4 3 7 2 1 2 1 9 1 4 1 1 4 d 0 10 1 1 5 3 2 1 3 3 1 1 0 1 1 3 1 3 2 3 b 4 4 3 2 1
   2 3 0 6 0 28 c 1 2 1 16 1 f 3 7 1 2 1 2 8 1 1 2 1 1 2 3 1c 3 1 7 1 2 1 16 1 9 1 4 3 7 1 2 1 2
   8 1 5 2 1 3 d 2 c c 1 2 1 28 2 7 1 2 1 2 1 0 5 3 7 4 16 5 1 2 1 11 3 17 1 8 1 0 2 6 8 5 1 0 1
   7 12 1 d 39 5 6 6 0 33 1 1 0 1 4 1 17 1 0 1 12 1 2 2 4 1 0 6 0 e 3 20 0 3f 7 1 23 4 12 4 f 1
   23 43 36 1 0 2 4 10 3f a 3 2 25 1 0 5 0 2 2a 1 14c 1 3 2 6 1 0 1 3 2 28 1 3 2 20 1 3 2 6 1 0
   1 3 2 e 1 38 1 3 2 42 25 f 10 55 2 5 3 26b 2 10 1 19 5 4a 3 a 7 13 b 14 c 13 c c 1 2 1 1 c 33
   2 12 e 0 4 0 43 58 7 2a 5 45 a 1e 1 b 4 8 17 1d 2 4 b 2b 4 19 36 1b 4 3e 2 13 32 0 17 1 b 2
   31 33 1 e 1 7 33 29 2 3 a 2b 1 a e 36 16 2 a 23 2 a 5 2a 2 2 29 3 1 5 1 1 3 0 5 bf 13 21 b
   115 2 5 2 25 2 5 2 7 1 0 1 0 1 0 1 1e 2 34 1 6 1 0 3 2 1 6 3 3 2 5 4 c 5 2 1 6 74 0 d 0 10 c
   65 0 4 0 2 9 1 0 3 4 6 0 1 0 1 0 1 3 1 a 2 3 5 4 4 0 11 28 32d 33 716 e4 6 3 3 1 c 25 1 0 5 0
   2 37 7 0 10 16 9 6 1 6 1 6 1 6 1 6 1 6 1 6 1 6 1 1f 2f 0 1d5 2 19 8 7 4 2 4 4 55 6 2 1 59 1 3
   5 2a 1 5d 11 1f 30 f 200 19bf 40 568c 43 2d 2 10c 3 f a 1 14 2e 5 7 3 70 27 8 2 66 2 51 14 14
   1 20 18 33 c 43 1 0 2c 5 3 0 1 2 a 20 5 22 d 1c 3 32 1 b f 0 10 f a 4 1 36 9 d 12 16 3 44 1 0
   1 0 18 2 2 f 2 3 b 5 2 5 2 5 9 6 1 6 1 2a 1 d 6 7a 15 2ba3 c 16 4 30 2104 16d 2 69 26 6 c 4 5
   b 1 c 1 4 1 0 1 1 1 1 1 6b 21 16a 12 3f 2 35 28 b 74 4 1 86 24 19 6 19 b 58 3 5 2 5 2 5 2 2
   23 b 1 19 1 12 1 1 1 e 2 d 22 7a 45 34 10b 1c 3 30 2f 1f d 1d 5 2a 5 1d 2 23 4 7 1 4 2a 9d 12
   23 4 23 4 27 8 33 c a 1 e 1 6 1 1 1 a 1 e 1 6 1 1 3 33 c 136 9 15 a 7 18 5 1 29 1 8 45 5 2 0
   1 2b 1 1 3 0 2 16 a 16 9 1e 41 12 1 1 a 15 a 19 6 19 26 37 6 1 40 3 1 1 5 7 1 2 1 1c 2a 1c 3
   1c 23 7 1 1b 1b 35 a 15 a 12 d 11 6e 48 37 32 d 32 d 27 22 1b 3 0 5 16 fa 29 1 1 3 1 10 5 32
   2 3 1c a 0 8 15 2a 11 2e 14 1b 16 9 45 2b 4 a 38 9 0 d 18 17 32 11 3 8 22 3 0 9 3f 1 3 9 1 a
   0 1 0 23 11 1 21 2 0 6 3 3e 6 1 0 1 3 1 e 1 9 7 38 17 3 1 7 2 1 2 15 1 6 1 1 1 4 3 7 2 1 2 1
   3 0 6 0 5 6 1c 9 1 0 2 0 1 25 1 9 1 0 2 0 1 3 1 1 3 0 1 0 2c 41 1 2 1 3 14 2 1e 41 2 1 1 0 b8
   35 2 6 19 5 22 3e 1 0 3 0 3b 35 2 0 47 1a 2 d 15 6 b9 38 67 3f 1f 7 2 0 2 7 1 1 1 1d 1 1 2 1
   2 3 5d 7 2 2d 2 5 1 0 1 1 1b 32 2 9 11 47 5 0 12 48 67 7 58 20 1f 8 1 2c 1 6 1 0 31 1d 2 15 1
   d 49 6 1 1 1 2b 3 0 1 1 1 2 1 0 2 1 18 5 1 1 1 24 1 1 1 3 1 0 17 2b 104 16 9 10 1 28 3 2 6f 0
   4f 399 66 6e 11 c3 a4c 60 f 42f 11 5 19 f9a 5 246 1ab9 2e 6d1 238 7 1e 11 4e 11 1d 12 2f 10 3
   1f 14 5 12 1b0 2c d3 3f 20 18 2 18 2c 4a 4 38 7 10 40 1 1 0 c 6 9 1cd5 29 1f 61 72 21fd 3 1 6
   1 1 1 122 f 0 1d 2 2 0 e 3 8 18b 904 6a 5 c 3 8 7 9 4 0 1761 54 1 46 1 1 2 0 2 1 2 3 1 b 1 0
   1 6 1 40 1 3 2 7 1 6 1 1b 1 3 1 4 1 0 3 6 1 153 2 18 1 18 1 1e 1 18 1 1e 1 18 1 1e 1 18 1 1e
   1 18 1 7 734 1e 6 5 d5 6 1 10 2 6 1 1 1 4 5 3d 21 0 70 2c a 6 10 0 141 1d 12 2b 1e4 1b e4 1d
   2 0 cf 1e 1 15 8 1 e0 6 1 3 1 1 1 e 1 c4 3b 43 3 0 3 0 4b4 3 1 1a 1 1 1 0 2 0 1 9 1 3 1 0 1 0
   6 0 4 0 1 0 1 0 1 2 1 1 1 0 2 0 1 0 1 0 1 0 1 0 1 1 1 0 2 3 1 6 1 3 1 3 1 0 1 9 1 10 5 2 1 4
   1 10 274 19 6 19 6 19 e76 a6df 20 111d 2 168d 2 1d30 f 26d 9a2 21d 5e2 134a 5 2129"

/-- Characters of names beyond ASCII in the number categories (Nd, Nl and No). -/
def numericRanges : Ranges := .ofTable
  "b2 1 5 0 2 2 5a1 9 86 9 c6 9 19c 9 76 9 4 5 6c 9 76 9 76 9 2 5 6e c 73 9 8 6 67 9 68 6 7 12
   6d 9 60 9 76 9 46 13 10c 9 46 9 2cf 13 371 2 ef 9 6 9 16 9 12c 9 80 a a5 9 6 9 b6 9 56 9 86 9
   6 9 416 0 3 5 6 9 c6 32 2 4 2d6 3b 4e 15 276 1d 569 0 309 0 19 8 e 2 157 3 8a 9 1e 7 1 e 20 9
   27 e 7360 9 bc 9 140 5 9a 9 26 9 c6 9 16 9 56 9 196 9 5316 9 1ed 2c c 38 11 1 155 1a 24 3 1d
   0 8 0 86 4 ca 9 3ae 7 19 6 27 8 4b 4 16 5 a0 1 2 f 2 2d 40 8 34 1 1e 2 4b 4 68 7 18 7 29 6
   14a 5 30 9 6 9 116 1e 9e 9 2a 3 70 6 86 1d 80 9 3c 9 90 9 7 13 fb 9 156 9 76 9 176 9 66 9 6
   13 4c b 1a4 12 5d 9 296 9 56 1c e3 9 46 9 36 9 166 9 66 14 42b 6e 3cc1 9 926 9 56 9 86 9 1 6
   20e 9 106 16 15d 2 5cf9 9 5c6 13 c 13 6c 18 455 31 940 9 1a6 9 1f6 9 f7 9 2cc 8 80 9 317 3a 1
   2 1 3 4c 2c 1 e 3c2 c ae3 9"

def isWord (c : Char) : Bool :=
  if c.toNat < 128 then c.isAlphanum || c == '_' else wordRanges.contains c.toNat

def isDigit (c : Char) : Bool :=
  if c.toNat < 128 then c.isDigit else digitRanges.contains c.toNat

def isAlphabetic (c : Char) : Bool :=
  if c.toNat < 128 then c.isAlpha else alphabeticRanges.contains c.toNat

def isAlphanumeric (c : Char) : Bool :=
  isAlphabetic c || if c.toNat < 128 then c.isDigit else numericRanges.contains c.toNat

end Scaffold.Text
