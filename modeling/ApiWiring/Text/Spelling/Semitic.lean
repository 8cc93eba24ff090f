import ApiWiring.Text.Spelling.Stretch

/-!
# Spellings of consonantal scripts

Hebrew, Arabic, Syriac, Thaana and related letters. The consonants are spelled; a vowel is spelled
where it is written.
-/
namespace ApiWiring.Text.Spelling

/-- Hebrew, Arabic and related letters. -/
def semitic : List Stretch := [
  (0x5B0, "e e a o i e e a o o o u   -  |   :    o"),
  (0x5D0, "' v g d h v z h t y kh kh l m m n n s ' f f ts ts k r s t      vv vy yy ' \""),
  (0x60C, ","),
  (0x61B, ";    ?  ' a ' ' ' '  b h t th j h kh d dh r z s sh s d t z ' gh k k y y y  f q"),
  (0x643, "k l m n h w y y an un in a u i"),
  (0x660, "0 1 2 3 4 5 6 7 8 9 % . , * b q a      w u y t t  t t p  bh h h ny j h ch ch d"),
  (0x689, "d d d dh d d d d r r r r r r r zh r s s s s s t ng f f f v f ph q q k k k g ng"),
  (0x6AE, "g g g ng g g g l l l l n n  n n h ch h h h t o o o u u y w v y y y w e y y y ."),
  (0x6D5, "h"), (0x6EE, "d r 0 1 2 3 4 5 6 7 8 9 sh d gh   h"),
  (0x70A, "contraction      '  b g g d d h w z h t t y yh k l m n s s ' p p s q r sh t bh"),
  (0x72E, "gh dh"),
  (0x750, "b b b b b b b h h d d r s ' ' ' f f k k k m m n n n l r r s h h s r h   y y y"),
  (0x778, "w w y y h s s k h sh n r b lh k ' v m f dh th l g gn s d z t y p j ch"),
  (0x7A6, "a aa i ee u oo e ey o oa"),
  (0x7C0, "0 1 2 3 4 5 6 7 8 9 a e i e u o o  n b p t j ch d r r s gb f k l n m ny n h w"),
  (0x7E6, "y n j ch r"),
  (0x7F8, "comma  lajanyalan      alaf bit gaman dalat iy b zen it tit yut kaaf labat mim"),
  (0x80D, "nun singaat in fi tsaadiy quf rish shan taaf"), (0x81D, "e   a   a    u   i o"),
  (0x840, "halqa ab ag ad ah ushenna az it att aksa ak al am an as in ap asz aq ar ash at"),
  (0x856, "dushenna kad ain      punctuation"), (0x889, "n h t t k"),
  (0x8A0, "b b j t f q l m y y r w   d s g  z ' k q b p t r y    p t t ch k gh  j j l"),
  (0xFB1D, "yi  yya ' ' d h kh l m r t + s s s s 'a 'o ' v g d h v z  t y kh kh l  m  n s"),
  (0xFB43, "f f  ts k r s t vo v kh f 'l"),
  (0xFB56, "p p p p bh bh bh bh t t t t     t t t t v v v v ph ph ph ph j j j j ny ny ny"),
  (0xFB79, "ny ch ch ch ch ch ch ch ch d d dh dh d d d d zh zh r r k k k k g g g g g g g g"),
  (0xFB9A, "ng ng ng ng n n     h h h h h h h h h h y y y y"),
  (0xFBD3, "ng ng ng ng u u o o u u u v v o o y y e e e e y y y y yh yh yw yw yu yu yo yo"),
  (0xFBF4, "yu yu ye ye ye yy yy yy y y y y yj yh ym yy yy bj bh bkh bm by by tj th tkh tm"),
  (0xFC0F, "ty ty thj thm thy thy jh jm hj hm khj khh khm sj sh skh sm sh sm dj dh dkh dm"),
  (0xFC26, "th tm zm 'j 'm ghj ghm fj fh fkh fm fy fy qh qm qy qy k kj kh kkh kl km ky ky"),
  (0xFC3F, "lj lh lkh lm ly ly mj mh mkh mm my my nj nh nkh nm ny ny hj hm hy hy yj yh ykh"),
  (0xFC58, "ym yy yy dha ra ya un in a u i a yr yz ym yn yy yy br bz bm bn by by tr tz tm"),
  (0xFC73, "tn ty ty thr thz thm thn thy thy fy fy qy qy k kl km ky ky lm ly ly m mm nr nz"),
  (0xFC8C, "nm nn ny ny ya yr yz ym yn yy yy yj yh ykh ym yh bj bh bkh bm bh tj th tkh tm"),
  (0xFCA5, "th thm jh jm hj hm khj khm sj sh skh sm sh skh sm dj dh dkh dm th zm 'j 'm ghj"),
  (0xFCBD, "ghm fj fh fkh fm qh qm kj kh kkh kl km lj lh lkh lm lh mj mh mkh mm nj nh nkh"),
  (0xFCD5, "nm nh hj hm ha yj yh ykh ym yh ym yh bm bh tm th thm thh sm sh shm shh kl km"),
  (0xFCED, "lm nm nh ym yh a u i ty ty 'y 'y ghy ghy sy sy shy shy hy hy jy jy khy khy sy"),
  (0xFD06, "sy dy dy shj shh shkh shm shr sr sr dr ty ty 'y 'y ghy ghy sy sy shy shy hy hy"),
  (0xFD1D, "jy jy khy khy sy sy dy dy shj shh shkh shm shr sr sr dr shj shh shkh shm sh"),
  (0xFD32, "shh tm sj sh skh shj shh shkh tm zm an an"),
  (0xFD50, "tjm thj thj thm tkhm tmj tmh tmkh jmh jmh hmy hmy shj sjh sjy smh smh smj smm"),
  (0xFD63, "smm shh shh smm shhm shhm shjy shmkh shmkh shmm shmm dhy dkhm dkhm tmh tmh tmm"),
  (0xFD74, "tmy 'jm 'mm 'mm 'my ghmm ghmy ghmy fkhm fkhm qmh qmm lhm lhy lhy ljj ljj lkhm"),
  (0xFD86, "lkhm lmh lmh mhj mhm mhy mjh mjm mkhj mkhm   mjkh hmj hmm nhm nhy njm njm njy"),
  (0xFD9A, "nmy nmy ymm ymm bkhy tjy tjy tkhy tkhy tmy tmy jmy jhy jmy skhy shy shhy dhy"),
  (0xFDAC, "ljy lmy yhy yjy ymy mmy qmy nhy qmh lhm 'my kmy njh mkhy ljm kmm ljm njh jhy"),
  (0xFDBF, "hjy mjy fmy bhy kmm 'jm smm skhy njy"),
  (0xFDF0, "sly qly llh kbr mhmd sl'm rswl 'lyh wslm sly   ryl"),
  (0xFE70, "an an un  in  a a u u i i     '     w w   y y y y   b b b b h h t t t t th th"),
  (0xFE9B, "th th j j j j h h h h kh kh kh kh d d dh dh r r z z s s s s sh sh sh sh s s s"),
  (0xFEBC, "s d d d d t t t t z z z z ' ' ' ' gh gh gh gh f f f f q q q q k k k k l l l l"),
  (0xFEE1, "m m m m n n n n h h h h w w y y y y y y l l l l l l l l"),
  (0x1EE01, "b j d  w z h t y k l m n s ' f s q r sh t th kh dh d z gh  n f   b j  h   h  y"),
  (0x1EE2A, "k l m n s ' f s q  sh t th kh  d  gh"),
  (0x1EE42, "j     h  y  l  n s '  s q  sh   kh  d  gh  n    b j  h   h t y k  m n s ' f s"),
  (0x1EE72, "q  sh t th kh  d z gh   f   b j d h w z h t y  l m n s ' f s q r sh t th kh dh"),
  (0x1EE99, "d z gh      b j d  w z h t y  l m n s ' f s q r sh t th kh dh d z gh")]

end ApiWiring.Text.Spelling
