import Accounts.Text.Table

/-!
# Upper and lower case

The full case mappings of Unicode. Runs of characters that map by one distance are one entry of a
table; the characters whose upper case is several characters are listed. A capital sigma at the end
of a word becomes the final small sigma.
-/

namespace Accounts.Text

/-- A run of `count` characters, `step` apart from `start` on, each of which maps `shift`
further. -/
structure CaseRun where
  start : Nat
  count : Nat
  step : Nat
  shift : Int

namespace CaseRun

/-- Reads entries "distance count step shift", the distance being from the start of the entry
before. -/
def ofWords : Nat → List (List Char) → List CaseRun
  | previous, distance :: count :: step :: shift :: rest =>
    let start := previous + numeral36 distance
    ⟨start, numeral36 count, numeral36 step, signed36 shift⟩ :: ofWords start rest
  | _, _ => []

def ofText (text : String) : List CaseRun := ofWords 0 (tableWords text)

def covers (run : CaseRun) (code : Nat) : Bool :=
  run.start ≤ code && code ≤ run.start + (run.count - 1) * run.step &&
    (code - run.start) % run.step == 0

/-- The image of a code point under a table of runs; itself if no run covers it. -/
def map (runs : List CaseRun) (code : Nat) : Nat :=
  match runs.find? (covers · code) with
  | some run => ((code : Int) + run.shift).toNat
  | none => code

end CaseRun

def lowerRuns : List CaseRun := CaseRun.ofText
  "1t q 1 w 3j n 1 w o 7 1 w 14 o 2 1 1e 3 2 1 7 8 2 1 h n 2 1 1a 1 1 -3d 1 3 2 1 8 1 1 5u 1 2
  2 1 4 1 1 5q 1 1 1 1 2 2 1 5p 2 1 1 1 3 1 1 27 1 1 1 5m 1 1 1 5n 1 1 1 1 2 1 1 5p 1 1 1 5r
  2 1 1 5v 1 1 1 5t 1 1 1 1 4 1 1 5v 1 1 1 5x 2 1 1 5y 1 3 2 1 6 1 1 62 1 1 1 1 2 1 1 62 3 1
  1 1 2 1 1 62 1 1 1 1 2 2 1 61 2 2 2 1 4 1 1 63 1 1 1 1 4 1 1 1 8 1 1 2 1 1 1 1 2 1 1 2 1 1
  1 1 2 1 1 2 1 9 2 1 j 9 2 1 j 1 1 2 1 2 2 1 4 1 1 -2p 1 1 1 -1k 1 k 2 1 14 1 1 -3m 2 9 2 1
  o 1 1 8bv 1 1 1 1 2 1 1 -4j 1 1 1 8bs 3 1 1 1 2 1 1 -5f 1 1 1 1x 1 1 1 1z 1 5 2 1 8a 2 2 1
  6 1 1 1 9 1 1 38 7 1 1 12 2 3 1 11 4 1 1 1s 2 2 1 1r 3 h 1 w i 9 1 w 18 1 1 8 9 c 2 1 s 1 1
  -1o 3 1 1 1 2 1 1 -7 1 1 1 1 3 3 1 -3m 3 g 1 28 g w 1 w 28 h 2 1 16 r 2 1 1i 1 1 f 1 7 2 1
  f 1c 2 1 2p 12 1 1c 29b 12 1 5ls 13 1 1 5ls 6 1 1 5ls k3 28 1 tzk 28 6 1 8 1pc 17 1 -2bk 19
  3 1 -2bk 8z 23 2 1 4e 1 1 -5vj 2 1c 2 1 2w 8 1 -8 g 6 1 -8 g 8 1 -8 g 8 1 -8 g 6 1 -8 h 4 2
  -8 f 8 1 -8 w 8 1 -8 g 8 1 -8 g 8 1 -8 g 2 1 -8 2 2 1 -22 2 1 1 -9 c 4 1 -2e 4 1 1 -9 c 2 1
  -8 2 2 1 -2s e 2 1 -8 2 2 1 -34 2 1 1 -7 c 2 1 -3k 2 2 1 -3i 2 1 1 -9 8a 1 1 -5st 4 1 1
  -6gv 1 1 1 -6di 7 1 1 s 1a g 1 g z 1 1 1 mr q 1 q 1fu 1c 1 1c 2o 1 1 1 2 1 1 -8af 1 1 1
  -2xy 1 1 1 -89z 3 3 2 1 6 1 1 -8bg 1 1 1 -8al 1 1 1 -8bj 1 1 1 -8bi 2 1 1 1 3 1 1 1 9 2 1
  -8cf 2 1e 2 1 2z 2 2 1 7 1 1 1 nym n 2 1 1s e 2 1 4i 7 2 1 g v 2 1 1z 2 2 1 4 1 1 -r9g 1 5
  2 1 d 1 1 1 2 1 1 -wmg 3 2 2 1 6 a 2 1 k 1 1 -wn8 1 1 1 -wnj 1 1 1 -wnf 1 1 1 -wn5 1 1 1
  -wn8 2 1 1 -wlu 1 1 1 -wmi 1 1 1 -wlx 1 1 1 ps 1 8 2 1 g 1 1 -1c 1 1 1 -wn7 1 1 1 -raw 1 2
  2 1 9 1 1 1 6 2 2 1 v 1 1 1 h7w q 1 w yn 14 1 14 4w 10 1 14 5c b 1 13 c f 1 13 g 7 1 13 8 2
  1 13 1d8 1f 1 1s 2e8 w 1 w gww w 1 w o8w y 1 y"

def upperRuns : List CaseRun := CaseRun.ofText
  "2p q 1 -w 2c 1 1 kn 17 n 1 -w o 7 1 -w 7 1 1 3d 2 o 2 -1 1c 1 1 -6g 2 3 2 -1 7 8 2 -1 h n 2
  -1 1b 3 2 -1 5 1 1 -8c 1 1 1 5f 3 2 2 -1 5 1 1 -1 4 1 1 -1 6 1 1 -1 3 1 1 2p 4 1 1 -1 1 1 1
  4j 4 1 1 3m 3 3 2 -1 7 1 1 -1 5 1 1 -1 3 1 1 -1 4 2 2 -1 5 1 1 -1 4 1 1 -1 2 1 1 1k 6 1 1
  -1 1 1 1 -2 2 1 1 -1 1 1 1 -2 2 1 1 -1 1 1 1 -2 2 8 2 -1 f 1 1 -27 2 9 2 -1 j 1 1 -1 1 1 1
  -2 2 1 1 -1 4 k 2 -1 16 9 2 -1 p 1 1 -1 3 2 1 8cf 3 1 1 -1 5 5 2 -1 9 1 1 8bj 1 1 1 8bg 1 1
  1 8bi 1 1 1 -5u 1 1 1 -5q 2 2 1 -5p 3 1 1 -5m 2 1 1 -5n 1 1 1 wnj 4 1 1 -5p 1 1 1 wnf 2 1 1
  -5r 2 1 1 wmg 1 1 1 wn8 2 1 1 -5t 1 1 1 -5v 1 1 1 wn8 1 1 1 8af 1 1 1 wn5 3 1 1 -5v 2 1 1
  8al 1 1 1 -5x 3 1 1 -5y 8 1 1 89z 3 1 1 -62 2 1 1 wn7 1 1 1 -62 4 1 1 wmi 1 1 1 -62 1 1 1
  -1x 1 2 1 -61 2 1 1 -1z 6 1 1 -63 b 1 1 wlx 1 1 1 wlu 4n 1 1 2c 18 2 2 -1 6 1 1 -1 4 3 1 3m
  1d 1 1 -12 1 3 1 -11 4 h 1 -w h 1 1 -v 1 9 1 -w 9 1 1 -1s 1 2 1 -1r 3 1 1 -1q 1 1 1 -1l 4 1
  1 -1b 1 1 1 -1i 1 1 1 -8 2 c 2 -1 n 1 1 -2e 1 1 1 -28 1 1 1 7 1 1 1 -38 2 1 1 -2o 3 1 1 -1
  3 1 1 -1 1h w 1 -w w g 1 -28 h h 2 -1 16 r 2 -1 1j 7 2 -1 d 1 1 -f 2 1c 2 -1 40 12 1 -1c
  29b 17 1 2bk 19 3 1 2bk l7 6 1 -8 1oo 1 1 -4tq 1 1 1 -4tp 1 1 1 -4tg 1 2 1 -4te 2 1 1 -4tf
  1 1 1 -4t8 1 1 1 -4rp 1 1 1 r7m 6p 1 1 r9g 4 1 1 2xy h 1 1 raw 37 23 2 -1 4a 1 1 -1n 6 1c 2
  -1 2n 8 1 8 g 6 1 8 g 8 1 8 g 8 1 8 g 6 1 8 h 4 2 8 f 8 1 8 g 2 1 22 2 4 1 2e 4 2 1 2s 2 2
  1 3k 2 2 1 34 2 2 1 3i 1g 2 1 8 e 1 1 -5k5 i 2 1 8 g 2 1 8 5 1 1 7 a1 1 1 -s y g 1 -g k 1 1
  -1 ng q 1 -q 1gg 1c 1 -1c 1d 1 1 -1 4 1 1 -8bv 1 1 1 -8bs 2 3 2 -1 b 1 1 -1 3 1 1 -1 b 1e 2
  -1 2z 2 2 -1 7 1 1 -1 d 12 1 -5ls 13 1 1 -5ls 6 1 1 -5ls nx0 n 2 -1 1s e 2 -1 4i 7 2 -1 g v
  2 -1 1z 2 2 -1 5 5 2 -1 d 1 1 -1 5 2 2 -1 3 1 1 1c 3 a 2 -1 u 8 2 -1 j 2 2 -1 9 1 1 -1 6 2
  2 -1 v 1 1 -1 nx 1 1 -ps t 28 1 -tzk gk1 q 1 -w yv 14 1 -14 4w 10 1 -14 5b b 1 -13 c f 1
  -13 g 7 1 -13 8 2 1 -13 1dx 1f 1 -1s 2dc w 1 -w gww w 1 -w o8y y 1 -y"

/-- The characters whose upper case has several characters, with it. -/
def upperSpecials : List (Nat × List Nat) := (tableWords
  "67:2b,2b 95:jg,26 ds:22,lo pc:pl,lk,ld q8:px,lk,ld 13b:111,11u 61i:20,mp 61j:2c,lk
  61k:2f,lm 61l:2h,lm 61m:1t,ji 66o:px,lv 66q:px,lv,lc 66s:px,lv,ld 66u:px,lv,n6 680:64o,pl
  681:64p,pl 682:64q,pl 683:64r,pl 684:64s,pl 685:64t,pl 686:64u,pl 687:64v,pl 688:64o,pl
  689:64p,pl 68a:64q,pl 68b:64r,pl 68c:64s,pl 68d:64t,pl 68e:64u,pl 68f:64v,pl 68g:65k,pl
  68h:65l,pl 68i:65m,pl 68j:65n,pl 68k:65o,pl 68l:65p,pl 68m:65q,pl 68n:65r,pl 68o:65k,pl
  68p:65l,pl 68q:65m,pl 68r:65n,pl 68s:65o,pl 68t:65p,pl 68u:65q,pl 68v:65r,pl 68w:67c,pl
  68x:67d,pl 68y:67e,pl 68z:67f,pl 690:67g,pl 691:67h,pl 692:67i,pl 693:67j,pl 694:67c,pl
  695:67d,pl 696:67e,pl 697:67f,pl 698:67g,pl 699:67h,pl 69a:67i,pl 69b:67j,pl 69e:69m,pl
  69f:pd,pl 69g:p2,pl 69i:pd,n6 69j:pd,n6,pl 69o:pd,pl 69u:6a2,pl 69v:pj,pl 69w:p5,pl
  69y:pj,n6 69z:pj,n6,pl 6a4:pj,pl 6aa:pl,lk,lc 6ab:pl,lk,ld 6ae:pl,n6 6af:pl,lk,n6
  6aq:px,lk,lc 6ar:px,lk,ld 6as:pt,lv 6au:px,n6 6av:px,lk,n6 6b6:6be,pl 6b7:q1,pl 6b8:pb,pl
  6ba:q1,n6 6bb:q1,n6,pl 6bg:q1,pl 1dkw:1y,1y 1dkx:1y,21 1dky:1y,24 1dkz:1y,1y,21
  1dl0:1y,1y,24 1dl1:2b,2c 1dl2:2b,2c 1dlf:11g,11i 1dlg:11g,111 1dlh:11g,117 1dli:11q,11i
  1dlj:11g,119").map fun entry =>
    match splitOn ':' entry with
    | [code, image] => (numeral36 code, (splitOn ',' image).map numeral36)
    | _ => (0, [])

/-- Cased letters. -/
def casedRanges : Ranges := Ranges.ofText
  "1t p 6 p 1b 0 a 0 4 0 5 m 1 u 1 5e 1 3 4 5r 1 q 5c 3 2 1 3 2 1 0 6 0 1 2 1 0 1 j 1 2a 1 3u
  8 4l 1 11 9 14 26v 11 1 0 5 0 2 16 2 2 io 2d 2 5 1oi 8 7 16 2 2 1s 17 1r c 1 x 2t 7p 2 5 2
  11 2 5 2 7 1 0 1 0 1 0 1 u 2 1g 1 6 1 0 3 2 1 6 3 3 2 5 4 c 5 2 1 6 79 0 4 0 2 9 1 0 3 4 6
  0 1 0 1 0 1 3 1 5 4 0 2 3 5 4 4 0 h v 3 1 mp 1f 1ee 3f 2 2u 6 3 3 1 c 11 1 0 5 0 nwy 19 i r
  3q 25 1 m 3 3 1 1m 5 1 1 0 1 4 r 1 3 0 mt 16 5 8 7 27 fnk 6 c 4 sp p 6 p x1 27 2o z 4 z 38
  a 1 e 1 6 1 1 1 a 1 e 1 6 1 1 1c3 1e d 1e 2b1 1r gv4 1r k1s 2c 1 1y 1 1 2 0 2 1 2 3 1 b 1 0
  1 6 1 1s 1 3 2 7 1 6 1 r 1 3 1 4 1 0 3 6 1 9f 2 o 1 o 1 u 1 o 1 u 1 o 1 u 1 o 1 u 1 o 1 7
  1f8 9 1 j 1y9 1v 1kc p 6 p 6 p"

/-- Characters that are passed over when the neighbourhood of a sigma is looked at. -/
def ignorableRanges : Ranges := Ranges.ofText
  "13 0 6 0 b 0 z 0 1 0 1z 0 4 0 1 0 4 0 2 1 dz 5b 4 1 4 0 9 1 1 0 6z 6 5r 0 5 0 1d 18 1 0 1 1
  1 1 1 0 18 0 b 5 a a 1 0 z 0 a k g 0 2t 7 1 9 1 3 x 0 1 0 u q 2j a 1m a 4 0 2 0 o n 17 2 18
  0 7 1 6 7 15 1l 1j 0 1 0 4 7 4 0 3 6 a 1 d 0 f 0 1m 0 4 3 8 0 k 1 q 0 2 1 1l 0 4 1 4 1 2 2
  3 0 u 1 3 0 b 1 1l 0 4 4 1 1 4 0 k 1 m 5 1 0 1m 0 2 0 1 3 8 0 7 1 b 1 u 0 1p 0 c 0 1e 0 3 0
  1j 0 1 2 5 2 1 3 7 1 b 1 t 0 1m 0 2 0 6 0 5 1 k 1 s 1 1l 1 4 3 8 0 k 1 t 0 20 0 7 2 1 0 2i
  0 2 6 b 8 2q 0 2 8 9 0 1 5 22 1 r 0 1 0 1 0 1j d 1 4 1 1 5 a 1 z 9 0 2u 3 1 5 1 1 2 1 p 1 4
  2 g 3 d 0 2 1 6 0 f 0 2m 0 gw 2 qa 2 t 1 u 1 u 1 1s 1 1 6 8 0 2 a 3 0 5 0 19 4 1f 0 1t 1 y
  0 3a 2 4 1 9 0 6 2 63 1 2 0 1m 0 1 6 1 0 1 0 2 7 6 9 2 0 13 0 8 u 1d 3 1c 0 1 4 1 0 5 0 14
  8 c 1 w 3 2 1 1 2 1k 0 1 1 3 0 1 2 1m 7 2 1 1s 5 2a 2 1 c 1 6 4 0 6 0 3 1 1e 1q d 0 y 2s cd
  0 1 2 b 2 d 2 d 2 d 1 c 4 8 1 a 0 2 0 2 4 1d 4 1 9 1 0 d 0 g c 1f w 2a3 1 35 2 3h 0 f 0 2o
  v 1b 0 d1 0 10 3 3 4 5 0 2l 5 2l 2 lxy 0 yq 5 7i 0 2q 3 1 9 1 0 s 3 28 1 e x 26 0 n 2 2v 2
  3 1 8 0 3 0 4 0 p 1 5 0 47 1 q h d 0 12 7 p a 1a 2 1c 0 2 3 2 1 h 0 l 1 1u 5 2 1 2 1 c 0 8
  0 z 0 b 0 1f 0 1 2 2 1 5 1 1 0 r 0 e 1 5 1 1 0 2s 4 9 2 3d 0 2 0 4 0 fn4 0 43 g fx f 3 0 c
  f y 0 2 0 4p 0 7 0 6 0 b 0 z 0 1 0 1b 0 19 1 1v 0 l 2 e9 0 6a 0 45 4 sl 5 1 15 1 8 g6 2 1 1
  5 3 14 2 4 0 4l 1 fx 3 ar 1 49 a 1d 3 3f 0 1i e 15 0 2 1 a 2 1d 3 2 1 2 0 4 0 a 0 1e 2 10 4
  1 7 1q 0 c 1 1g 8 a 3 2 0 2n 2 2 0 1 1 6 0 4g 0 3 7 l 1 1l 1 3 0 11 6 3 4 5f 7 2 2 1 0 n 0
  2c 5 1 0 4 1 1 1 6m 3 6 1 1 1 r 1 2d 7 2 0 1 1 2y 0 1 0 2 5 1 0 2t 2 2 3 1 4 77 8 1 1 74 1
  1 0 4 0 40 3 2 1 4 0 w 9 14 5 2 3 8 0 9 5 2 2 1a c 1 1 ba 6 1 5 1 0 2a l 2 6 1 1 1 1 3e 5 3
  0 1 1 1 6 1 0 20 1 3 0 1 0 9n 1 46z 8 at3 4 1n 6 9 3 sr 0 1r g 1s 1 1 1 cnf 3 1 6 1 1 2hq 1
  1 3 3mk 19 2 m f4 2 9 f 2 6 u 3 44 2 1iz 1i 4 1d 8 0 e 0 m 4 1 e 11s 6 1 g 2 6 1 1 1 4 79 d
  a8 0 1p 3 15s 6 31 7 23z 4 gx6p 0 u 2n 3k 6n"

/-- The characters `before` a place, nearest first, show a cased letter there. -/
def nextToCased (neighbours : List Char) : Bool :=
  match neighbours.dropWhile fun c => ignorableRanges.contains c.toNat with
  | c :: _ => casedRanges.contains c.toNat
  | [] => false

/-- The lower case of one character between the characters `before` it (nearest first) and those
`after` it. -/
def lowerChar (before : List Char) (c : Char) (after : List Char) : List Char :=
  if c.toNat < 128 then [c.toLower]
  else if c.toNat = 0x3A3 then
    if nextToCased before && !nextToCased after then [Char.ofNat 0x3C2] else [Char.ofNat 0x3C3]
  else if c.toNat = 0x130 then ['i', Char.ofNat 0x307]
  else [Char.ofNat (CaseRun.map lowerRuns c.toNat)]

def lowerFrom (before : List Char) : List Char → List Char
  | [] => []
  | c :: after => lowerChar before c after ++ lowerFrom (c :: before) after

def lower (text : List Char) : List Char := lowerFrom [] text

def upperChar (c : Char) : List Char :=
  if c.toNat < 128 then [c.toUpper]
  else match upperSpecials.find? (·.1 == c.toNat) with
    | some (_, image) => image.map Char.ofNat
    | none => [Char.ofNat (CaseRun.map upperRuns c.toNat)]

def upper (text : List Char) : List Char := text.flatMap upperChar

end Accounts.Text
