import ApiWiring.Text.Spelling.Stretch

/-!
# Spellings of ancient and rare scripts

Letters and digits of scripts beyond the first 65536 code points.
-/
namespace ApiWiring.Text.Spelling

/-- Part 1 of 2 of `ancient`. -/
def ancientPartA : List Stretch := [
  (0x10000, "a e i o u da de di do du ja je  jo ju ka ke ki ko ku ma me mi mo mu na ne ni"),
  (0x1001C, "no nu pa pe pi po pu qa qe qi qo  ra re ri ro ru sa se si so su ta te ti to tu"),
  (0x10037, "wa we wi wo  za ze  zo a a au dwe dwo nwa pu pte ra ra ro ta twe two"),
  (0x10300, "a b c d e v z h th i k l m n s o p s q r s t u ks ph kh f r c i u"),
  (0x10330, "a b g d e q z h th i k l m n j u p 90 r s t w f x hw o 900"),
  (0x10380, "' b g kh d h w z h t y k sh l m dh n z s ' p s q r th gh t i u s .  a i u ka"),
  (0x103A4, "ku ga gu xa ca ja ji ta tu da di du tha pa ba fa na nu ma mi mu ya va vi ra ru"),
  (0x103BE, "la sa za sha ssa ha     auramazdaa auramazdaa-2 auramazdaaha xshaayathiya"),
  (0x103CC, "dahyaaush dahyaaush-2 baga buumish"),
  (0x10400, "I E A A O U I E A O U U Ay Ow W Y H P B T D Ch J K G F V Th Dh S Z Sh Zh R L M"),
  (0x10424, "N Ng Oi Yu i e a a o u i e a o u u ay ow w y h p b t d ch j k g f v th dh s z"),
  (0x10447, "sh zh r l m n ng oi yu"),
  (0x10480, "' b t j kh kh d r s sh dh ' g f q k l m n w h y a e i o u a e o   0 1 2 3 4 5"),
  (0x104A6, "6 7 8 9"),
  (0x104B0, "A Ai Ain Ah Bra Cha Ehcha E Ein Ha Hya I Ka Ehka Kya La Ma Na O Oin Pa Ehpa Sa"),
  (0x104C7, "Sha Ta Ehta Tsa Ehtsa Tsha Dha U Wa Kha Gha Za Zha     a ai ain ah bra cha"),
  (0x104DE, "ehcha e ein ha hya i ka ehka kya la ma na o oin pa ehpa sa sha ta ehta tsa"),
  (0x104F3, "ehtsa tsha dha u wa kha gha za zha"),
  (0x10570, "A Bbe Be Ce Che De Dhe Ei E Fe Ga  Ha Hha I Ije Je Ka La Lla Me Ne Nje O Pe Qa"),
  (0x1058A, "Re  Se She Te The U Ve Xe  Y Ze  a bbe be ce che de dhe ei e fe ga  ha hha i"),
  (0x105A6, "ije je ka la lla me ne nje o pe qa re  se she te the u ve xe  y ze"),
  (0x10840, "' b g d h w z h t y k l m n s ' p s q r sh t"),
  (0x10900, "' b g d h w z h t y k l m n s ' p s q r sh t"), (0x10A00, "a i u r  e o"),
  (0x10A0E, "m h k kh g gh  c ch j  ny t th d dh n t th d dh n p ph b bh m y r l v sh s s z"),
  (0x10A31, "h k th t vh"),
  (0x10A60, "h l h m q w s r b t s k n kh s s f ' ' d g d gh t z dh y th z"),
  (0x10B00, "a a ao ao an an ae ae e e o o i i u u k x xy xv g g gh c j t th d dh t p f b"),
  (0x10B21, "bh ng ngy ngv n ny n m hm y y v r l s z sh zh shy sh h"),
  (0x10C80, "A Aa Eb Amb Ec Enc Ecs Ed And E  Ee Ef Eg Egy Eh I Ii Ej Ek Ak Unk El Ely Em"),
  (0x10C99, "En Eny O Oo   Oee Ep Emp Er  Es Esz Et Ent Ety Ech U Uu   Ev Ez Ezs  Us"),
  (0x10CC0, "a aa eb amb ec enc ecs ed and e  ee ef eg egy eh i ii ej ek ak unk el ely em"),
  (0x10CD9, "en eny o oo   oee ep emp er  es esz et ent ety ech u uu   ev ez ezs  us"),
  (0x10D00, "a b p t t j c h kh f d d r r z s sh k g l m n w w y y ng ny v"),
  (0x10D30, "0 1 2 3 4 5 6 7 8 9"),
  (0x11000, "m m h   a a i i u u r r l l e ai o au k kh g gh ng c ch j jh ny t th d dh n t"),
  (0x11023, "th d dh n p ph b bh m y r l v sh s s h l l r n a  i i u u r r l l e ai o au"),
  (0x11066, "0 1 2 3 4 5 6 7 8 9      l"),
  (0x11080, "m m h a a i i u u e ai o au k kh g gh ng c ch j jh ny t th d dh dh rh n t th d"),
  (0x110A1, "dh n p ph b bh m y r l v sh s s h a i i u u e ai o au"), (0x110C2, "r"),
  (0x110F0, "0 1 2 3 4 5 6 7 8 9"),
  (0x11100, "m m h a i u e k kh g gh ng c ch j jh ny t th d dh n t th d dh n p ph b bh m y"),
  (0x11121, "y r l w s h a i i u u e ai o au oi      0 1 2 3 4 5 6 7 8 9     lh a  v"),
  (0x11150, "a i u e o k kh g gh c ch j jh ny t th d dh n t th d dh n p ph b bh m r l v s h"),
  (0x11172, "r"),
  (0x11180, "m m h a a i i u u r r l l e ai o au k kh g gh ng c ch j jh ny t th d dh n t th"),
  (0x111A2, "d dh n p ph b bh m y r l l v sh s s h a i i u u r r l l e ai o au"),
  (0x111CF, "m 0 1 2 3 4 5 6 7 8 9"),
  (0x11200, "a a i u e ai o au k kh g g gh ng c ch j j  ny t th d dh n t th d d dh n p ph b"),
  (0x11222, "b bh m y r l v s h l a i i u e ai o au m"), (0x1123F, "q  r"),
  (0x11280, "a i u e k kh g  gh  c ch j j  ny t th d d dh n t th d dh n p ph b  bh m y r l"),
  (0x112A4, "v s h r rh"),
  (0x112B0, "a a i i u u e ai o au k kh g g gh ng c ch j j jh ny t th d d r dh n t th d dh"),
  (0x112D1, "n p ph b b bh m y r l v sh s h m a i i u u e ai o au"),
  (0x112F0, "0 1 2 3 4 5 6 7 8 9"),
  (0x11300, "m m m h  a a i i u u r l   e ai   o au k kh g gh ng c ch j jh ny t th d dh n t"),
  (0x11325, "th d dh n  p ph b bh m y r  l l  v sh s s h     a i i u u r r   e ai   o au"),
  (0x1135E, "m m r l l l"),
  (0x11400, "a a i i u u r r l l e ai o au k kh g gh ng ngh c ch j jh ny nyh t th d dh n t")]

/-- Part 2 of 2 of `ancient`. -/
def ancientPartB : List Stretch := [
  (0x11420, "th d dh n nh p ph b bh m mh y r rh l lh w sh s s h a i i u u r r l l e ai o au"),
  (0x11443, "m m h   m"), (0x11450, "0 1 2 3 4 5 6 7 8 9      m"),
  (0x11481, "a a i i u u r r l l e ai o au k kh g gh ng c ch j jh ny t th d dh n t th d dh"),
  (0x114A2, "n p ph b bh m y r l v sh s s h a i i u u r r l l e  ai o  au m m h"),
  (0x114D0, "0 1 2 3 4 5 6 7 8 9"),
  (0x11580, "a a i i u u r r l l e ai o au k kh g gh ng c ch j jh ny t th d dh n t th d dh"),
  (0x115A1, "n p ph b bh m y r l v sh s s h a i i u u r r   e ai o au m m h"),
  (0x11600, "a a i i u u r r l l e ai o au k kh g gh ng c ch j jh ny t th d dh n t th d dh"),
  (0x11621, "n p ph b bh m y r l v sh s s h l a i i u u r r l l e ai o au m h"),
  (0x11650, "0 1 2 3 4 5 6 7 8 9"),
  (0x11680, "a a i i u u e ai o au k kh g gh ng c ch j jh ny t th d dh n t th d dh n p ph b"),
  (0x116A1, "bh m y r l v sh s h r m h a i i u u e ai o au   kh"), (0x116C0, "0 1 2 3 4 5 6 7 8 9"),
  (0x11700, "k kh ng n t t p ph b m j ch th r l s ny h a d dh g g gh bh jh b      a a i i u"),
  (0x11725, "u e  o ai"), (0x11730, "0 1 2 3 4 5 6 7 8 9"), (0x11740, "c t th d dh n l"),
  (0x11800, "a a i i u u e ai o au k kh g gh ng c ch j jh ny t th d dh n t th d dh n p ph b"),
  (0x11821, "bh m y r l v sh s s h r a i i u u r r e ai o au m h"),
  (0x118A0, "Ngaa A Wi Yu Ya Yo Ii Uu E O Ang Ga Ko Eny Yuj Uc Enn Odd Tte Nung Da At Am Bu"),
  (0x118B8, "Pu Hiyo Holo Horr Har Ssuu Sii Viyo ngaa a wi yu ya yo ii uu e o ang ga ko eny"),
  (0x118CE, "yuj uc enn odd tte nung da at am bu pu hiyo holo horr har ssuu sii viyo 0 1 2"),
  (0x118E3, "3 4 5 6 7 8 9"), (0x118FF, "om"), (0x11950, "0 1 2 3 4 5 6 7 8 9"),
  (0x119A0, "a a i i u u r r   e ai o au k kh g gh ng c ch j jh ny t th d dh n t th d dh n"),
  (0x119C2, "p ph b bh m y r l v sh s s h l r a i i u u r r   e ai o au m h"),
  (0x11ABC, "spe spi spo spa"),
  (0x11C00, "a a i i u u r r l  e ai o au k kh g gh ng c ch j jh ny t th d dh n t th d dh n"),
  (0x11C22, "p ph b bh m y r l v sh s s h a i i u u r r l  e ai o au m m h"),
  (0x11C50, "0 1 2 3 4 5 6 7 8 9"),
  (0x11C72, "k kh g ng c ch j ny t th d n p ph b m ts tsh dz w zh z  y r l sh s h a   k kh"),
  (0x11C94, "g ng c ch j ny t th d n p ph b m ts tsh dz w zh z  y r l sh s h a a i u e o m"),
  (0x11CB6, "m"),
  (0x11D00, "a a i i u u e  ai o  au k kh g gh ng c ch j jh ny t th d dh n t th d dh n p ph"),
  (0x11D22, "b bh m y r l v sh s s h l ks jny tr a i i u u r    e  ai o  au m h"),
  (0x11D50, "0 1 2 3 4 5 6 7 8 9"),
  (0x11D60, "a a i i u u  e ai  o au y v b bh m k kh t th l g gh d dh n c ch t th l j jh d"),
  (0x11D83, "dh ng p ph h r s a i i u u  e ai  o au m h"), (0x11DA0, "0 1 2 3 4 5 6 7 8 9"),
  (0x11EE0, "k g ng p b m t d n c j ny y r l v s a  i u e o"),
  (0x11F00, "m m  h a a i i u u r r l l e ai o  k kh g gh ng c ch j jh ny t th d dh n t th"),
  (0x11F23, "d dh n p ph b bh m y r l w sh s s h jny a  i i u u r    e ai eu"),
  (0x11F50, "0 1 2 3 4 5 6 7 8 9"), (0x11FB0, "yh"), (0x16A60, "0 1 2 3 4 5 6 7 8 9"),
  (0x16AC0, "0 1 2 3 4 5 6 7 8 9"), (0x16B50, "0 1 2 3 4 5 6 7 8 9"),
  (0x16E40, "M S V W Atiu Z Kp P T G F I K A J E B C U Yu L Q Hp Ny X D Oe N R O Ai Y m s v"),
  (0x16E63, "w atiu z kp p t g f i k a j e b c u yu l q hp ny x d oe n r o ai y"),
  (0x16E97, "comma"), (0x1E140, "0 1 2 3 4 5 6 7 8 9"), (0x1E2F0, "0 1 2 3 4 5 6 7 8 9"),
  (0x1E4F0, "0 1 2 3 4 5 6 7 8 9"),
  (0x1E900, "Alif Daali Laam Miim Ba Sinnyiiyhe Pe Bhe Ra E Fa I O Dha Yhe Waw Nun Kaf Ya U"),
  (0x1E914, "Jiim Chi Ha Qaaf Ga Nya Tu Nha Va Kha Gbe Zal Kpo Sha alif daali laam miim ba"),
  (0x1E927, "sinnyiiyhe pe bhe ra e fa i o dha yhe waw nun kaf ya u jiim chi ha qaaf ga nya"),
  (0x1E93C, "tu nha va kha gbe zal kpo sha"), (0x1E950, "0 1 2 3 4 5 6 7 8 9")]

/-- Letters and digits of ancient and rare scripts. -/
def ancient : List Stretch :=
  ancientPartA ++ ancientPartB

end ApiWiring.Text.Spelling
