import Scaffold.Text.Ranges

/-!
Lower case of a text after the Unicode Character Database. One character changes its length
(capital i with a dot above) and one depends on its surroundings (sigma at the end of a word).
-/
namespace Scaffold.Text

/-- Runs of capitals beyond ASCII with a common distance to their small letters. -/
structure CaseRun where
  first : Nat
  count : Nat
  stride : Nat
  /-- The distance, where a value above the code space stands for a negative one. -/
  shift : Nat

def CaseRun.ofNumbers : List Nat → List CaseRun
  | first :: count :: stride :: shift :: rest => ⟨first, count, stride, shift⟩ :: ofNumbers rest
  | _ => []

def CaseRun.holds (r : CaseRun) (n : Nat) : Bool :=
  r.first ≤ n && n ≤ r.first + (r.count - 1) * r.stride && (n - r.first) % r.stride == 0

def CaseRun.apply (r : CaseRun) (n : Nat) : Nat :=
  if r.shift < 0x110000 then n + r.shift else n - (r.shift - 0x110000)

def capitalRuns : List CaseRun := CaseRun.ofNumbers <| Ranges.numbers
  "c0 17 1 20 d8 7 1 20 100 18 2 1 132 3 2 1 139 8 2 1 14a 17 2 1 178 1 1 110079 179 3 2 1 181 1
   1 d2 182 2 2 1 186 1 1 ce 187 1 1 1 189 2 1 cd 18b 1 1 1 18e 1 1 4f 18f 1 1 ca 190 1 1 cb 191
   1 1 1 193 1 1 cd 194 1 1 cf 196 1 1 d3 197 1 1 d1 198 1 1 1 19c 1 1 d3 19d 1 1 d5 19f 1 1 d6
   1a0 3 2 1 1a6 1 1 da 1a7 1 1 1 1a9 1 1 da 1ac 1 1 1 1ae 1 1 da 1af 1 1 1 1b1 2 1 d9 1b3 2 2 1
   1b7 1 1 db 1b8 1 1 1 1bc 1 1 1 1c4 1 1 2 1c5 1 1 1 1c7 1 1 2 1c8 1 1 1 1ca 1 1 2 1cb 9 2 1
   1de 9 2 1 1f1 1 1 2 1f2 2 2 1 1f6 1 1 110061 1f7 1 1 110038 1f8 14 2 1 220 1 1 110082 222 9 2
   1 23a 1 1 2a2b 23b 1 1 1 23d 1 1 1100a3 23e 1 1 2a28 241 1 1 1 243 1 1 1100c3 244 1 1 45 245
   1 1 47 246 5 2 1 370 2 2 1 376 1 1 1 37f 1 1 74 386 1 1 26 388 3 1 25 38c 1 1 40 38e 2 1 3f
   391 11 1 20 3a3 9 1 20 3cf 1 1 8 3d8 c 2 1 3f4 1 1 11003c 3f7 1 1 1 3f9 1 1 110007 3fa 1 1 1
   3fd 3 1 110082 400 10 1 50 410 20 1 20 460 11 2 1 48a 1b 2 1 4c0 1 1 f 4c1 7 2 1 4d0 30 2 1
   531 26 1 30 10a0 26 1 1c60 10c7 1 1 1c60 10cd 1 1 1c60 13a0 50 1 97d0 13f0 6 1 8 1c89 1 1 1
   1c90 2b 1 110bc0 1cbd 3 1 110bc0 1e00 4b 2 1 1e9e 1 1 111dbf 1ea0 30 2 1 1f08 8 1 110008 1f18
   6 1 110008 1f28 8 1 110008 1f38 8 1 110008 1f48 6 1 110008 1f59 4 2 110008 1f68 8 1 110008
   1f88 8 1 110008 1f98 8 1 110008 1fa8 8 1 110008 1fb8 2 1 110008 1fba 2 1 11004a 1fbc 1 1
   110009 1fc8 4 1 110056 1fcc 1 1 110009 1fd8 2 1 110008 1fda 2 1 110064 1fe8 2 1 110008 1fea 2
   1 110070 1fec 1 1 110007 1ff8 2 1 110080 1ffa 2 1 11007e 1ffc 1 1 110009 2126 1 1 111d5d 212a
   1 1 1120bf 212b 1 1 112046 2132 1 1 1c 2160 10 1 10 2183 1 1 1 24b6 1a 1 1a 2c00 30 1 30 2c60
   1 1 1 2c62 1 1 1129f7 2c63 1 1 110ee6 2c64 1 1 1129e7 2c67 3 2 1 2c6d 1 1 112a1c 2c6e 1 1
   1129fd 2c6f 1 1 112a1f 2c70 1 1 112a1e 2c72 1 1 1 2c75 1 1 1 2c7e 2 1 112a3f 2c80 32 2 1 2ceb
   2 2 1 2cf2 1 1 1 a640 17 2 1 a680 e 2 1 a722 7 2 1 a732 1f 2 1 a779 2 2 1 a77d 1 1 118a04
   a77e 5 2 1 a78b 1 1 1 a78d 1 1 11a528 a790 2 2 1 a796 a 2 1 a7aa 1 1 11a544 a7ab 1 1 11a54f
   a7ac 1 1 11a54b a7ad 1 1 11a541 a7ae 1 1 11a544 a7b0 1 1 11a512 a7b1 1 1 11a52a a7b2 1 1
   11a515 a7b3 1 1 3a0 a7b4 8 2 1 a7c4 1 1 110030 a7c5 1 1 11a543 a7c6 1 1 118a38 a7c7 2 2 1
   a7cb 1 1 11a567 a7cc 8 2 1 a7dc 1 1 11a641 a7f5 1 1 1 ff21 1a 1 20 10400 28 1 28 104b0 24 1
   28 10570 b 1 27 1057c f 1 27 1058c 7 1 27 10594 2 1 27 10c80 33 1 40 10d50 16 1 20 118a0 20 1
   20 16e40 20 1 20 16ea0 19 1 1b 1e900 22 1 22"

def casedRanges : Ranges := .ofTable
  "aa 0 a 0 4 0 5 16 1 1e 1 c2 1 3 4 cf 2 22 7 1 1e 4 60 0 2a 3 2 1 2 3 1 0 6 0 1 2 1 0 1 13 1
   52 1 8a 8 a5 1 25 9 28 b17 25 1 0 5 0 2 2a 1 3 2a0 55 2 5 882 a 5 2a 2 2 40 bf 40 115 2 5 2
   25 2 5 2 7 1 0 1 0 1 0 1 1e 2 34 1 6 1 0 3 2 1 6 3 3 2 5 4 c 5 2 1 6 74 0 d 0 10 c 65 0 4 0 2
   9 1 0 3 4 6 0 1 0 1 0 1 3 1 5 4 0 2 3 5 4 4 0 11 1f 3 1 331 33 716 e4 6 3 3 1 c 25 1 0 5 0
   7912 2d 12 1d 84 65 3 3 1 4c 14 5 1 2 335 2a 1 d 6 4f 4f40 6 c 4 409 19 6 19 4a5 4f 60 23 4
   23 74 a 1 e 1 6 1 1 1 a 1 e 1 6 1 1 1c3 0 2 2 1 29 1 8 4c5 32 d 32 5d 15 a 15 b1a 3f 5560 3f
   20 18 2 18 652c 54 1 46 1 1 2 0 2 1 2 3 1 b 1 0 1 6 1 40 1 3 2 7 1 6 1 1b 1 3 1 4 1 0 3 6 1
   153 2 18 1 18 1 1e 1 18 1 1e 1 18 1 1e 1 18 1 1e 1 18 1 7 734 9 1 13 6 5 105 3d 892 43 7ec 19
   6 19 6 19"

def caseIgnorableRanges : Ranges := .ofTable
  "a8 0 4 0 1 0 4 0 2 1 1f7 bf 4 1 4 0 9 1 1 0 fb 6 cf 0 5 0 31 2c 1 0 1 1 1 1 1 0 2c 0 b 5 a a
   1 0 23 0 a 14 10 0 65 7 1 9 1 3 21 0 1 0 1e 1a 5b a 3a a 4 0 2 0 18 17 2b 2 2c 0 7 1 5 8 29
   39 37 0 1 0 4 7 4 0 3 6 a 1 d 0 f 0 3a 0 4 3 8 0 14 1 1a 0 2 1 39 0 4 1 4 1 2 2 3 0 1e 1 3 0
   b 1 39 0 4 4 1 1 4 0 14 1 16 5 1 0 3a 0 2 0 1 3 8 0 7 1 b 1 1e 0 3d 0 c 0 32 0 3 0 37 0 1 2 5
   2 1 3 7 1 b 1 1d 0 3a 0 2 0 6 0 5 1 14 1 1c 1 39 1 4 3 8 0 14 1 1d 0 48 0 7 2 1 0 5a 0 2 6 b
   8 62 0 2 8 9 0 1 6 49 1 1b 0 1 0 1 0 37 d 1 4 1 1 5 a 1 23 9 0 66 3 1 5 1 1 2 1 19 1 4 2 10 3
   d 0 2 1 6 0 f 0 5e 0 260 2 3b2 2 1d 1 1e 1 1e 1 40 1 1 6 8 0 2 a 3 0 5 0 2d 4 33 0 41 1 22 0
   76 2 4 1 9 0 6 2 db 1 2 0 3a 0 1 6 1 0 1 0 2 7 6 9 2 0 27 0 8 2d 2 b 14 3 30 0 1 4 1 0 5 0 28
   8 c 1 20 3 2 1 1 2 38 0 1 1 3 0 1 2 3a 7 2 1 40 5 52 2 1 c 1 6 4 0 6 0 3 1 32 3e d 0 22 64
   1bd 0 1 2 b 2 d 2 d 2 d 1 c 4 8 1 a 0 2 0 2 4 31 4 1 9 1 0 d 0 10 c 33 20 b8b 1 71 2 7d 0 f 0
   60 1f 2f 0 1d5 0 24 3 3 4 5 0 5d 5 5d 2 6f16 0 4e2 5 10e 0 62 3 1 9 1 0 1c 3 50 1 e 21 4e 0
   17 2 66 3 3 1 8 0 3 0 4 0 19 1 5 0 97 1 1a 11 d 0 26 7 19 a 2e 2 30 0 2 3 2 1 11 0 15 1 42 5
   2 1 2 1 c 0 8 0 23 0 b 0 33 0 1 2 2 1 5 1 1 0 1b 0 e 1 5 1 1 0 64 4 9 2 79 0 2 0 4 0 4f30 0
   93 10 23d f 3 0 c f 22 0 2 0 a9 0 7 0 6 0 b 0 23 0 1 0 2f 0 2d 1 43 0 15 2 201 0 e2 0 95 4
   405 5 1 29 1 8 246 2 1 1 5 3 28 2 4 0 a5 1 23d 3 26 0 1a 4 1 0 13b 1 18 0 34 5 46 a 31 3 7b 0
   36 e 29 0 2 1 a 2 31 3 2 1 2 0 4 0 a 0 32 2 24 4 1 7 3e 0 c 1 34 8 a 3 2 0 5f 2 2 0 1 1 6 0 2
   0 9d 0 3 7 15 1 39 1 3 0 25 6 3 4 46 5 d 0 1 0 1 0 e 1 55 7 2 2 1 0 17 0 54 5 1 0 4 1 1 1 ee
   3 6 1 1 1 1b 1 55 7 2 0 1 1 6a 0 1 0 2 5 1 0 65 0 1 0 2 3 1 4 103 8 1 1 100 1 1 0 4 0 90 3 2
   1 4 0 20 9 28 5 2 3 8 0 9 5 2 2 2e c 1 1 c6 0 1 2 1 0 c9 6 1 5 1 0 52 15 2 6 1 1 1 1 7a 5 3 0
   1 1 1 6 1 0 48 1 3 0 1 0 41 0 119 1 b 1 34 4 5 0 1 0 17 0 14d5 10 6 e 2cc8 b 3 2 9c0 4 3b 6 9
   3 1fc 2 28 1 1e2 0 3f 10 40 1 1 1 d 1 3ffc 3 1 6 1 1 c9e 1 1 3 125c 2d 2 16 220 2 9 f 2 6 1e
   3 94 2 7bb 36 4 31 8 0 e 0 16 4 1 e 550 6 1 10 2 6 1 1 1 4 5 3d 21 0 a0 d 170 0 3d 3 1fb 4 fe
   1 f3 0 2 0 7 1 5 0 9 0 1d0 6 6d 7 aaf 4 c0c01 0 1e 5f 80 ef"

def isCased (c : Char) : Bool :=
  if c.toNat < 128 then c.isAlpha else casedRanges.contains c.toNat

def isCaseIgnorable (c : Char) : Bool :=
  if c.toNat < 128 then c == '\'' || c == '.' || c == ':' || c == '^' || c == '\x60'
  else caseIgnorableRanges.contains c.toNat

def lowerChar (c : Char) : Char :=
  if c.toNat < 128 then c.toLower
  else match capitalRuns.find? (·.holds c.toNat) with
    | some run => Char.ofNat (run.apply c.toNat)
    | none => c

/-- Whether the nearest character that the rule for sigma does not look through is cased. -/
def meetsCased (cs : List Char) : Bool :=
  match cs.dropWhile isCaseIgnorable with
  | c :: _ => isCased c
  | [] => false

/-- Lower case, where `before` is what has been passed, nearest first. -/
def lowerFrom (before : List Char) : List Char → List Char
  | [] => []
  | c :: rest =>
    let small :=
      if c == '\u03A3' then [if meetsCased before && !meetsCased rest then '\u03C2' else '\u03C3']
      else if c == '\u0130' then ['i', '\u0307']
      else [lowerChar c]
    small ++ lowerFrom (c :: before) rest

def lowercase (s : String) : String :=
  String.ofList (lowerFrom [] s.toList)

end Scaffold.Text
