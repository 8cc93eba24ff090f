import ApiWiring.Text.Spelling.Stretch

/-!
# Spellings of signs

Punctuation, currency, arrows, mathematical signs and alphabets, numbers in circles, and pictures
that have no name of their own. A sign is spelled by the ASCII signs or letters that look like it.
-/
namespace ApiWiring.Text.Spelling

/-- Part 1 of 2 of `symbols`. -/
def symbolsPartA : List Stretch := [
  (0x2010, "- - - - - - || _ ' ' , ' \" \" \" \" + ++ * > . .. ... ."),
  (0x2030, "%0 %00 ' '' ''' ` `` ``` ^ < > * !! ?! -   / *** - / [ ] ?? ?! !? & P < > * ;"),
  (0x2051, "** % ~  * : '''' :: :: : :: + : :"),
  (0x2070, "0 i   4 5 6 7 8 9 + - = ( ) n 0 1 2 3 4 5 6 7 8 9 + - = ( )  a e o x e h k l m"),
  (0x2099, "n p s t    ECU CRC Cr F GBP m NGN Pts Rs W ILS VND EUR LAK MNT Dr Pf PHP PYG A"),
  (0x20B4, "UAH GHS lt Sm KZT INR TRY M AZN RUB GEL BTC"),
  (0x2100, "a/c a/s C C CL c/o c/u E e F g H x H h h I I L l lb N No (P) P P Q R R R Rx R"),
  (0x2120, "SM TEL TM V Z oz O O Z i K A B C e e E F F M o ' b g d i  FAX p g G P S G L L"),
  (0x2144, "Y D d e i j PL &  A/S f S 1/7 1/9 1/10 1/3 2/3 1/5 2/5 3/5 4/5 1/6 5/6 1/8 3/8"),
  (0x215D, "5/8 7/8 1/ I II III IV V VI VII VIII IX X XI XII L C D M i ii iii iv v vi vii"),
  (0x2177, "viii ix x xi xii l c d m M D 10000  c 6 50 50000 100000 0/3"),
  (0x2190, "<- ^ -> v <-> ^v ^ ^ v v <- -> <- -> <- ^ -> v <- -> <- ^ -> v -> <- -> <- ->"),
  (0x21AD, "<-> <-> v <- ^ <- v v <- -> -> ^ <-> -> -> <- <- ^ <- ^ v v <- <-> <- <-> <- ^"),
  (0x21C9, "-> v <-> <-> <= <=> => <= ^ => v <=> -> ^ ^ v v <- -> <- -> ^ v <- ^ -> v <-"),
  (0x21E5, "-> <- ^ -> v ^ ^ ^ ^ ^ ^ -> ^ v -> -> <- -> <- -> <-> <- -> <-> <- -> <-> A  d"),
  (0x2203, "E E 0 D V E !E  E E   P P S - -+  / \\ * o . v    oo  <   | | || || ^ v n U S"),
  (0x222C, "SS SSS S SS SSS    :. :. : ::     ~     ~  ~  ~   ~~ ~~    ~   ="),
  (0x225C, "= =  ?= != == ==  <= >= <= >=   << >>   < > <= >="), (0x227A, "< >"),
  (0x2282, "C C C C C C C C      < >     + - x / . o *   + - x . |- -| T _|_   |="),
  (0x22C0, "^ v n U * . *"), (0x22EF, "..."), (0x2308, "[ ] [ ]"), (0x2329, "< >"),
  (0x2460, "1 2 3 4 5 6 7 8 9 10 11 12 13 14 15 16 17 18 19 20 (1) (2) (3) (4) (5) (6) (7)"),
  (0x247B, "(8) (9) (10) (11) (12) (13) (14) (15) (16) (17) (18) (19) (20) 1. 2. 3. 4. 5."),
  (0x248D, "6. 7. 8. 9. 10. 11. 12. 13. 14. 15. 16. 17. 18. 19. 20. (a) (b) (c) (d) (e)"),
  (0x24A1, "(f) (g) (h) (i) (j) (k) (l) (m) (n) (o) (p) (q) (r) (s) (t) (u) (v) (w) (x)"),
  (0x24B4, "(y) (z) A B C D E F G H I J K L M N O P Q R S T U V W X Y Z a b c d e f g h i"),
  (0x24D9, "j k l m n o p q r s t u v w x y z 0 11 12 13 14 15 16 17 18 19 20 1 2 3 4 5 6"),
  (0x24FB, "7 8 9 10 0 - - | | - - | | - - | | + + + + + + + + + + + + + + + + + + + + + +"),
  (0x2522, "+ + + + + + + + + + - + + - - + + - - + + - - + + - + + + + - - + + + + + - -"),
  (0x2549, "+ + + - - | | - | + + + + + + + + + + + + + + + + + + - - - - - - + + + + + +"),
  (0x2570, "+ + + + + + + + + + + + + + + + # # # # # # # # # # # # # # # # # # # # # # #"),
  (0x2597, "# # # # # # # # # # # # # # # # # # # # # - - # # - - ^ ^ ^ ^ > > > > > > v v"),
  (0x25BE, "v v < < < < < < * * * * * * * * * *"), (0x25E6, "*"), (0x25EF, "*"), (0x2605, "* *"),
  (0x2610, "[] [v] [x] X"), (0x2669, "* * * * b = # + +"), (0x2680, "1 2 3 4 5 6"), (0x26CC, "X"),
  (0x2713, "v v x x x x"),
  (0x2768, "( ) ( ) < > < > < > [ ] \x7b \x7d 1 2 3 4 5 6 7 8 9 10 1 2 3 4 5 6 7 8 9 10 1"),
  (0x278B, "2 3 4 5 6 7 8 9 10 ->    v -> ^ -> -> -> -> -> ->  -> -> -> v ^ -> -> -> -> ->"),
  (0x27AC, "-> -> -> ->  -> -> -> v -> ^ v -> ^ -> -> -> -> ->"), (0x27E6, "[ ] < > << >>"),
  (0x27F5, "<- -> <-> <= => <=>")]

/-- Part 2 of 2 of `symbols`. -/
def symbolsPartB : List Stretch := [
  (0x2801, "a 1 b ' k 2 l @ c i f / m s p \" e 3 h 9 o 6 r ^ d j g > n t q , * 5 < - u 8 v"),
  (0x2828, ". % [ $ + x ! & ; : 4 \\ 0 z 7 ( _ ? w ] # y ) ="), (0x2983, "\x7b \x7d"),
  (0x2A0C, "SSSS"), (0x2A74, "::= == ==="), (0x2B00, "^ ^ v v <->    ^ ^ v v <-> -> v ^ <- <-"),
  (0x2B30, "-> <- -> <- <- <- <- <- <- <- <- <- <- <- <- -> <- <- <- -> -> <- -> -> -> <-"),
  (0x2B4A, "<- <- -> v ^ v"), (0xFE10, ", , . : ; ! ? [ ] ..."),
  (0xFE30, ".. - - _ _ ( ) \x7b \x7d [ ] [ ] << >> < > \" \" \" \"   [ ]     _ _ _ , , ."),
  (0xFE54, "; : ? ! - ( ) \x7b \x7d [ ] # & * + - < > =  \\ $ % @"), (0xFFFD, "?"),
  (0x1D400, "A B C D E F G H I J K L M N O P Q R S T U V W X Y Z a b c d e f g h i j k l m"),
  (0x1D427, "n o p q r s t u v w x y z A B C D E F G H I J K L M N O P Q R S T U V W X Y Z"),
  (0x1D44E, "a b c d e f g  i j k l m n o p q r s t u v w x y z A B C D E F G H I J K L M N"),
  (0x1D476, "O P Q R S T U V W X Y Z a b c d e f g h i j k l m n o p q r s t u v w x y z A"),
  (0x1D49E, "C D   G   J K   N O P Q  S T U V W X Y Z a b c d  f  h i j k l m n  p q r s t"),
  (0x1D4CA, "u v w x y z A B C D E F G H I J K L M N O P Q R S T U V W X Y Z a b c d e f g"),
  (0x1D4F1, "h i j k l m n o p q r s t u v w x y z A B  D E F G   J K L M N O P Q  S T U V"),
  (0x1D51A, "W X Y  a b c d e f g h i j k l m n o p q r s t u v w x y z A B  D E F G  I J K"),
  (0x1D543, "L M  O    S T U V W X Y  a b c d e f g h i j k l m n o p q r s t u v w x y z A"),
  (0x1D56D, "B C D E F G H I J K L M N O P Q R S T U V W X Y Z a b c d e f g h i j k l m n"),
  (0x1D594, "o p q r s t u v w x y z A B C D E F G H I J K L M N O P Q R S T U V W X Y Z a"),
  (0x1D5BB, "b c d e f g h i j k l m n o p q r s t u v w x y z A B C D E F G H I J K L M N"),
  (0x1D5E2, "O P Q R S T U V W X Y Z a b c d e f g h i j k l m n o p q r s t u v w x y z A"),
  (0x1D609, "B C D E F G H I J K L M N O P Q R S T U V W X Y Z a b c d e f g h i j k l m n"),
  (0x1D630, "o p q r s t u v w x y z A B C D E F G H I J K L M N O P Q R S T U V W X Y Z a"),
  (0x1D657, "b c d e f g h i j k l m n o p q r s t u v w x y z A B C D E F G H I J K L M N"),
  (0x1D67E, "O P Q R S T U V W X Y Z a b c d e f g h i j k l m n o p q r s t u v w x y z i"),
  (0x1D6A5, "j   A V G D E Z I Th I K L M N X O P R Th S T Y F Ch Ps O V a v g d e z i th i"),
  (0x1D6CB, "k l m n x o p r s s t y f ch ps o d e th k f r p A V G D E Z I Th I K L M N X"),
  (0x1D6F0, "O P R Th S T Y F Ch Ps O V a v g d e z i th i k l m n x o p r s s t y f ch ps"),
  (0x1D714, "o d e th k f r p A V G D E Z I Th I K L M N X O P R Th S T Y F Ch Ps O V a v g"),
  (0x1D739, "d e z i th i k l m n x o p r s s t y f ch ps o d e th k f r p A V G D E Z I Th"),
  (0x1D75E, "I K L M N X O P R Th S T Y F Ch Ps O V a v g d e z i th i k l m n x o p r s s"),
  (0x1D783, "t y f ch ps o d e th k f r p A V G D E Z I Th I K L M N X O P R Th S T Y F Ch"),
  (0x1D7A7, "Ps O V a v g d e z i th i k l m n x o p r s s t y f ch ps o d e th k f r p W w"),
  (0x1D7CE, "0 1 2 3 4 5 6 7 8 9 0 1 2 3 4 5 6 7 8 9 0 1 2 3 4 5 6 7 8 9 0 1 2 3 4 5 6 7 8"),
  (0x1D7F5, "9 0 1 2 3 4 5 6 7 8 9"),
  (0x1F100, "0. 0, 1, 2, 3, 4, 5, 6, 7, 8, 9,      (A) (B) (C) (D) (E) (F) (G) (H) (I) (J)"),
  (0x1F11A, "(K) (L) (M) (N) (O) (P) (Q) (R) (S) (T) (U) (V) (W) (X) (Y) (Z) [S] C R CD WZ"),
  (0x1F130, "A B C D E F G H I J K L M N O P Q R S T U V W X Y Z HV MV SD SS PPV WC A B C D"),
  (0x1F154, "E F G H I J K L M N O P Q R S T U V W X Y Z MC MD MR    A B C D E F G H I J K"),
  (0x1F17B, "L M N O P Q R S T U V W X Y Z"), (0x1F190, "DJ"),
  (0x1F1E6, "A B C D E F G H I J K L M N O P Q R S T U V W X Y Z"),
  (0x1F3FB, ":tone1: :tone2: :tone3: :tone4: :tone5:"), (0x1FBF0, "0 1 2 3 4 5 6 7 8 9")]

/-- Punctuation, currency, arrows and mathematical signs. -/
def symbols : List Stretch :=
  symbolsPartA ++ symbolsPartB

end ApiWiring.Text.Spelling
