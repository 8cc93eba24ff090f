import ApiWiring.Text.Spelling.Stretch

/-!
# Spellings of inland and southeast Asian letters

Thai, Lao, Tibetan, Burmese, Khmer, Mongolian and related letters, each by the sound it stands
for.
-/
namespace ApiWiring.Text.Spelling

/-- Thai, Tibetan, Khmer, Mongolian and related letters. -/
def inland : List Stretch := [
  (0xE01, "k kh kh kh kh kh ng ch ch ch s ch y d t th th th n d t th th th n b p ph f ph"),
  (0xE1F, "f ph m y r rue l lue w s s s h l o h  a a a am i i ue ue u u      THB e ae o"),
  (0xE43, "ai ai"), (0xE50, "0 1 2 3 4 5 6 7 8 9"), (0xE81, "k kh  kh   ng ch  x   y"),
  (0xE94, "d t th th  n b p ph f ph f  m y r  l  v   s h  o h  a a a am i i u u u u  o"),
  (0xEBD, "ia   e e o ai ai"), (0xED0, "0 1 2 3 4 5 6 7 8 9   n m"), (0xF20, "0 1 2 3 4 5 6 7 8 9"),
  (0xF40, "k kh g gh n c ch j  n t th d dh n t th d dh n p ph b bh m ts tsh dz dzh v zh z"),
  (0xF60, "' y r l s s s h a ks r kk r     a i i u u r ra l la e e o o    a"),
  (0xF90, "k kh g gh n c ch j  n t th d dh n t th d dh n p ph b bh m ts tsh dz dzh v zh z"),
  (0xFB0, "' y r l s s s h a ks w y r"),
  (0x1000, "k kh g gh ng s hs z zh ny ny t th d dh n t th d dh n p hp b bh m y r l w th h"),
  (0x1020, "l a  i i u u e  o au a a i i u u e ai    m     y r w h  0 1 2 3 4 5 6 7 8 9"),
  (0x1052, "r r l l"), (0x1090, "0 1 2 3 4 5 6 7 8 9"),
  (0x1700, "a i u k g ng t d n p b m y r l w s h i u"),
  (0x171F, "r a i u k g ng t d n p b m y r l w s h i u"),
  (0x1740, "a i u k g ng t d n p b m y r l w s h i u"),
  (0x1760, "a i u k g ng t d n p b m y  l w s  i u"),
  (0x1780, "k kh k kh ng ch chh ch chh nh d th d th n t th t th n b ph p ph m y r l v sh s"),
  (0x179F, "s h l ' a a i i u u u u rue rue lue lue e ai ao ao au   a i i oe oe u u ua aeu"),
  (0x17BF, "oea ie e ae ai ao au m"), (0x17E0, "0 1 2 3 4 5 6 7 8 9"),
  (0x1800, "birga ellipsis comma  colon      nirugu      0 1 2 3 4 5 6 7 8 9"),
  (0x1820, "a e i o u o u e n ng b p h g m l s x t d q j y r w f k k c z h r lh zh ch"),
  (0x1901, "k kh g gh ng c ch j jh yan t th d dh n p ph b bh m y r l w sh s s h gyan tr  a"),
  (0x1921, "i u e ai o au e o y r w"),
  (0x1946, "0 1 2 3 4 5 6 7 8 9 k x ng ts s y t th l p ph m f v h q kh tsh n a i e eh u o"),
  (0x1969, "o ue e aue ai"),
  (0x1980, "q q k x ng k x ng ts s y ts s y t th n t th n p ph m p ph m f v l f v l h d b"),
  (0x19A3, "h d b kv xv kv xv"), (0x19B1, "a i u u e ae o  ue"), (0x19C1, "v ng n m k d b"),
  (0x19D0, "0 1 2 3 4 5 6 7 8 9"),
  (0x1A00, "k g ng ngk p b m mp t d n nr c j ny nyc y r l v s a h i u e o ae   pallawa  k"),
  (0x1A21, "kh kx k kx kh ng c ch c s ch ny   d   t th t th n b p ph f p f ph m y y r  l"),
  (0x1A45, "w sh s s h l a h i i u u e o  s"), (0x1A61, "a  a  i i ue  u u o   e ae o ai"),
  (0x1A80, "0 1 2 3 4 5 6 7 8 9"), (0x1A90, "0 1 2 3 4 5 6 7 8 9"),
  (0x1B02, "ng r h akara akara ikara ikara ukara ukara     ekara aikara okara okara k  g"),
  (0x1B17, "ng c  j  ny      t  d  n p  b  m y r l w   s h  a i i u u     e ai o au e o"),
  (0x1B4C, "jny    0 1 2 3 4 5 6 7 8 9 panti pamada windu    pameneng"),
  (0x1B80, "ng r h a i u ae o e eu k q g ng c j z ny t d n p f v b m y r l w s x h    i u"),
  (0x1BA6, "e o e eu     kh sy 0 1 2 3 4 5 6 7 8 9 avagraha reu leu bh k m a  h h h b b p"),
  (0x1BC8, "p n n w w w g g j d r r m m t t s s s y y ng l l ny c nd mb i u  e  e i  o  u"),
  (0x1C00, "k kl kh g gl ng c ch j ny t th d n p pl ph f fl b bl m ml ts tsh dz y r l h hl"),
  (0x1C1F, "v s sh w a y r a i o o u u e"),
  (0x1C40, "0 1 2 3 4 5 6 7 8 9    t th d 0 1 2 3 4 5 6 7 8 9 o t g ng l a k j m w i s h"),
  (0x1C67, "ny r u c d n y e p d n r o t b w h    relaa phaarkaa ahad"),
  (0xA800, "a i  u e o  k kh g gh m c ch j jh t th d dh t th d dh n p ph b bh m r l r s h"),
  (0xA823, "a i u e o"),
  (0xA840, "k kh g ng c ch j ny t th d n p ph b m ts tsh dz w zh z a y r l sh s h a i u e"),
  (0xA861, "o q x f g e w y t th d n y sh h f r  m"),
  (0xA880, "m h a a i i u u r r l l e e ai o o au k kh g gh ng c ch j jh ny t th d dh n t"),
  (0xA8A2, "th d dh n p ph b bh m y r l v sh s s h l  a i i u u r r l l e e ai o o au  m"),
  (0xA8CE, "danda  0 1 2 3 4 5 6 7 8 9"), (0xA8F2, "m m m m m m"),
  (0xA900, "0 1 2 3 4 5 6 7 8 9 k kh g ng s sh z ny t ht n p ph m d b r y l w th h v c a"),
  (0xA923, "oe i o"),
  (0xA930, "k g ng t d n p b m c j ny s r l y w h mb ngg nd nyj a i u e ai o au eu"),
  (0xA980, "m ng r h a  i i u p ng ng e ai o k k k g g ng c c j ny j ny t t d d n t t d d"),
  (0xA9A4, "n p p b b m y r r l w s s s h  a o i i u u e ai e"),
  (0xA9CF, "pangrangkep 0 1 2 3 4 5 6 7 8 9"), (0xA9F0, "0 1 2 3 4 5 6 7 8 9"),
  (0xAA00, "a i u e ai o k kh g gh ngue ng ch ch j jh nhue nh nhj t th d dh nue n d p p ph"),
  (0xAA1D, "b bh mue m b y r l v s s h a i i  u oe o ai au ue"),
  (0xAA40, "k g ng  ch t n p y r l s     0 1 2 3 4 5 6 7 8 9"),
  (0xAA80, "k k kh kh kh kh g g ng ng c c ch ch s s ny ny d d t t th th n n b b p p ph ph"),
  (0xAAA0, "f f m m y y r r l l v v h h"),
  (0xAAE0, "e o ch ny t th d dh n sh s i u  au  cheikhan  anji")]

end ApiWiring.Text.Spelling
