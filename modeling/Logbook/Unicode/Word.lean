import Logbook.Unicode.Category

/-!
# Word characters

What `\w` and `\b` of a pattern mean by a word: letters and marks, decimal digits, connectors such as the
underscore, and the two joiners.
-/

namespace Logbook.Word

/-- The word characters below 128 that are no digits. -/
def ascii : CharSet := ⟨[(65, 90), (95, 95), (97, 122)]⟩

/-- The word characters from 128 upwards that are no digits. -/
def beyondAscii : CharSet := .decode [
    "4q 0 a 0 4 0 5 m 1 u 1 cp 4 b e 4 7 0 1 0 h 38 1 1 2 3 1 0 6 0 1 2 1 0 1 j 1 2a 1 3u 1 4s 1",
    "11 2 0 6 14 8 18 1 0 1 1 1 1 1 0 8 q 4 3 t a 5 1r e 2t 1 7 2 9 1 5 a 2 2 0 g 1m 2 2s o 17 4",
    "0 2 0 2 19 i r 4 a 5 n 1 5 8 22 1 3k d i 1 7 2 1 2 l 1 6 1 0 3 3 2 8 2 1 2 3 8 0 4 1 1 4 c 1",
    "a 0 1 0 2 2 1 5 4 1 2 l 1 6 1 1 1 1 1 1 2 0 1 4 4 1 2 2 3 0 7 3 1 0 h 5 b 2 1 8 1 2 1 l 1 6",
    "1 1 1 4 2 9 1 2 1 2 2 0 f 3 l 6 1 2 1 7 2 1 2 l 1 6 1 1 1 4 2 8 2 1 2 2 7 2 4 1 1 4 d 0 g 1",
    "1 5 3 2 1 3 3 1 1 0 1 1 3 1 3 2 3 b 4 4 3 2 1 3 2 0 6 0 14 c 1 2 1 m 1 f 2 8 1 2 1 3 7 1 1 2",
    "2 0 2 3 s 3 1 7 1 2 1 m 1 9 1 4 2 8 1 2 1 3 7 1 6 1 1 3 d 2 c c 1 2 1 1e 1 2 1 4 5 3 7 4 m 5",
    "1 2 1 h 3 n 1 8 1 0 2 6 3 0 4 5 1 0 1 7 i 1 d 1l 5 e 1e 1 1 0 1 4 1 n 1 0 1 m 2 4 1 0 1 6 d",
    "3 w 0 n 1 r 0 1 0 1 0 4 9 1 z 4 j 1 h 1 z 9 0 1l 1r g 1r a 3 2 11 1 0 5 0 2 16 1 98 1 3 2 6",
    "1 0 1 3 2 14 1 3 2 w 1 3 2 6 1 0 1 3 2 e 1 1k 1 3 2 1u 2 2 w f g 2d 2 5 3 h7 2 g 1 p 5 22 3",
    "a 7 l 9 l b j c c 1 2 1 1 c 2b 3 0 4 1 19 2 1 0 g 2g 7 16 5 1x a u 1 b 4 b k t 2 4 b 17 4 p",
    "1i r 4 1q 1 s 2 0 13 0 8 u 1d 24 u 8 c 1b a 1l c 1j l 2 a z 2 a 5 16 2 2 g 2 1 12 5 et 2 5 2",
    "11 2 5 2 7 1 0 1 0 1 0 1 u 2 1g 1 6 1 0 3 2 1 6 3 3 2 5 4 c 5 2 1 6 f 1 1d 1 j 0 s 0 d 0 g c",
    "1f w h 0 4 0 2 9 1 0 3 4 6 0 1 0 1 0 1 3 1 a 2 3 5 4 4 0 h 14 ml 1f 1ee 6c 6 8 c 11 1 0 5 0",
    "2 1j 7 0 f n 9 6 1 6 1 6 1 6 1 6 1 6 1 6 1 6 1 v 1b 0 d1 2 p e 1 4 2 4 4 2d 2 1 2 2 1 2h 1 3",
    "5 16 1 2l h v 1c f e8 533 1s h3g 1v 19 2 7g 3 f a 1 k 1e 1 9 1 36 11 8 2 2u 2 1u 2 1 1 0 1 7",
    "l 1h 4 0 j 1f c 1x q n 3 0 1 2 a z 2 z c s 3 1s e 0 g f a 4 1 1i 9 d i m 3 20 o 2 2 f 2 4 a",
    "5 2 5 2 5 9 6 1 6 1 16 1 d 6 3e 1 1 i 8mb c m 4 1c 6is a5 2 2x 12 6 c 4 5 b 1 c 1 4 1 0 1 1",
    "1 1 1 2z x a2 i 1r 2 1h 14 b 4 f g f 3 1 o 2 w 4 1 3q 10 p 4 0 1 p b 2g 3 5 2 5 2 5 2 2 z b",
    "1 p 1 i 1 1 1 e 2 d y 3e 1x 1g 3s 0 3m s 3 1c f 0 v v d t 5 16 5 t 2 z 4 7 1 4 16 4d i z 4 z",
    "4 13 8 1f c a 1 e 1 6 1 1 1 a 1 e 1 6 1 1 3 1f c 8m 9 l a 7 o 5 1 15 1 8 1x 5 2 0 1 17 1 1 3",
    "0 2 m a m 9 u 1t i 1 1 a l a p 1y 1j 6 1 1s 3 1 1 5 7 1 2 1 s 2 2 4 0 w s 3 s z 7 1 t p 1h a",
    "l a i d h 32 20 1j 1e d 1e d 13 y r 3 4 1 m 6y 15 1 1 3 1 g 2 1j w a 0 8 w v l 16 k r m 9 1y",
    "15 5 9 1n 7 0 d o n 1g f 3 8 z 2 0 9 1w 4 3 1 1 a 0 1 0 z h 1 10 6 3 1q 6 1 0 1 3 1 e 1 9 7",
    "1m l 3 1 7 2 1 2 l 1 6 1 1 1 4 1 9 2 1 2 2 2 0 6 0 5 6 2 6 3 4 b 9 1 0 2 0 1 11 1 9 1 0 2 0",
    "1 3 1 7 d 1 t 22 j 3 u 1x 1 0 54 1h 2 8 n 5 y 1s 3 0 1n 1k 1z q 2 e k 6 55 1m 2t 1r v 7 2 0",
    "2 7 1 1 1 t 1 1 2 8 2k 7 2 19 2 7 1 1 r 1q 8 0 8 21 3 0 i 20 5j w v 8 1 18 1 8 1d t 2 l 1 d",
    "21 6 1 1 1 17 3 0 1 1 1 8 o 5 1 1 1 10 1 1 1 5 93 m 9 g 1 14 3 4 n 0 2d 0 27 pl 2u 32 h 5f",
    "218 2o f tr g l a 32y 5 g6 5a1 1b 1cg fs 7 u h 26 h t 2 4 b 1i 9 3 v k 5 i c0 18 5v 1r 3k 22",
    "4 1k 7 g 1s 1 1 1 b 1 e 4qf 8 yd 15 9 6w7 3 1 6 1 1 1 82 f 0 t 2 2 0 e 3 8 az 1s4 2y 5 c 3 8",
    "7 9 3 1 3mp 19 2 m f2 4 3 5 8 7 2 6 u 3 44 2 cb 2c 1 1y 1 1 2 0 2 1 2 3 1 b 1 0 1 6 1 1s 1 3",
    "2 7 1 6 1 r 1 3 1 4 1 0 3 6 1 9f 2 o 1 o 1 u 1 o 1 u 1 o 1 u 1 o 1 u 1 o 1 7 fo 1i 4 1d 8 0",
    "e 0 m 4 1 e uo u 6 5 5x 6 1 g 2 6 1 1 1 4 5 1p x 0 34 18 3 d g 0 8x u h 1b dc v 68 w dr 6 1",
    "3 1 1 1 e 1 5g b 6 15 23 xg 3 1 q 1 1 1 0 2 0 1 9 1 3 1 0 1 0 6 0 4 0 1 0 1 0 1 2 1 1 1 0 2",
    "0 1 0 1 0 1 0 1 0 1 1 1 0 2 3 1 6 1 3 1 3 1 0 1 9 1 g 5 2 1 4 1 g hg p 6 p 6 p 2uu wyn w 37d",
    "6 65 2 4g1 e 5rk f h9 1wi f1 15u 3t6 5 38f f9e8 6n"]

/-- The characters of words. -/
def set : CharSet := ⟨ascii.ranges ++ Category.digit.ranges ++ beyondAscii.ranges⟩

end Logbook.Word
