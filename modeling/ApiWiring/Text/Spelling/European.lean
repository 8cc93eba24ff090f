import ApiWiring.Text.Spelling.Stretch

/-!
# Spellings of European letters

Greek, Cyrillic, Armenian, Georgian, Coptic, Glagolitic, Runic and Ogham letters, each by the
sound it stands for.
-/
namespace ApiWiring.Text.Spelling

/-- Greek, Cyrillic and other European letters. -/
def european : List Stretch := [
  (0x370, "H h S s ' , I i    s s s ; J      \" A . E I I  O  Y O i A V G D E Z I Th I K"),
  (0x39B, "L M N X O P R  S T Y F Ch Ps O I Y a e i i y a v g d e z i th i k l m n x o p"),
  (0x3C1, "r s s t y f ch ps o i y o y o  v th Y Y Y f p & Q q St st W w Q q S s Sh sh F"),
  (0x3E5, "f Kh kh H h J j C c Ti ti k r s j Th e e Sh sh S S s     E E Dj G Ye Dz I Yi J"),
  (0x409, "Lj Nj C K I U Dz A B V G D E Zh Z I Y K L M N O P R S T U F Kh Ts Ch Sh Shch '"),
  (0x42B, "Y ' E Yu Ya a b v g d e zh z i y k l m n o p r s t u f kh ts ch sh shch ' y '"),
  (0x44D, "e yu ya e e dj g ye dz i yi j lj nj c k i u dz O o E e Ye ye E e Ye ye O o Yo"),
  (0x46D, "yo X x Ps ps F f I i I i U u O o O o Ot ot Q q"),
  (0x48A, "Y y ' ' R r G g Gh gh Gh gh Zh zh Z z Q q K k K k Q q Ng ng Ng ng P p O o S s"),
  (0x4AC, "T t U u U u H h Ts ts Ch ch Ch ch H h Ch ch Ch ch ' Zh zh K k L l N n N n Ch"),
  (0x4CC, "ch M m ' A a A a Ae ae E e A a A a Zh zh Z z Dz dz I i I i O o O o O o E e U u"),
  (0x4F0, "U u U u Ch ch G g Y y Gh gh Kh kh Kh kh D d Dj dj Dz dz Dz dz Lj lj Nj nj S s"),
  (0x50E, "T t E e H h Lkh lkh R r Ya ya Q q W w K k L l N n P p H h N n Dz dz Dch dch L"),
  (0x52F, "l  A B G D E Z E Y T' Zh I L Kh Ts K H Dz Gh Ch M Y N Sh O Ch' P J R S V T R"),
  (0x551, "Ts' W P' K' O F    ' ' ! , ? .  a b g d e z e y t' zh i l kh ts k h dz gh ch m"),
  (0x575, "y n sh o ch' p j r s v t r ts' w p' k' o f ev  . -"),
  (0x10A0, "A B G D E V Z T I K' L M N O P' Zh R S T' U P K Gh Q' Sh Ch Ts Dz Ts' Ch' Kh J"),
  (0x10C0, "H"),
  (0x10D0, "a b g d e v z t i k' l m n o p' zh r s t' u p k gh q' sh ch ts dz ts' ch' kh j"),
  (0x10F0, "h ey y wi q' o f      n"),
  (0x1681, "b l f s n h d t c q m g ng z r a o u e i ea oi ui ia ae p > <    f v u yr y w"),
  (0x16A6, "th d a o a a o o o oe on r k c k g e g g w h h h h n n n i e j g ae a e p e s"),
  (0x16CB, "s s c z t t d b b p p e m m m l l ng ng d o e i c c c s yr yr yr q x . : +"),
  (0x16F1, "k sh oo"),
  (0x1C90, "A B G D E V Z T I K' L M N O P' Zh R S T' U P K Gh Q' Sh Ch Ts Dz Ts' Ch' Kh J"),
  (0x1CB0, "H"),
  (0x1F00, "a a a a a a a a A A A A A A A A e e e e e e   E E E E E E   i i i i i i i i I"),
  (0x1F29, "I I I I I I I i i i i i i i i I I I I I I I I o o o o o o   O O O O O O   y y"),
  (0x1F52, "y y y y y y  Y  Y  Y  Y o o o o o o o o O O O O O O O O a a e e i i i i o o y"),
  (0x1F7B, "y o o   a a a a a a a a A A A A A A A A i i i i i i i i I I I I I I I I o o o"),
  (0x1FA3, "o o o o o O O O O O O O O a a a a a  a a A A A A A  i   \" i i i  i i E E I I"),
  (0x1FCC, "I    i i i i   i i I I I I     y y y y r r y y Y Y Y Y R \" \" `   o o o  o o"),
  (0x1FF8, "O O O O O '"),
  (0x2C00, "A B V G D E Zh Dz Z I I I Dj K L M N O P R S T U F H O P Sht C Ch Sh ' ' ' E H"),
  (0x2C24, "Yu E E Ye O O Yo F I Sht H A a b v g d e zh dz z i i i dj k l m n o p r s t u"),
  (0x2C47, "f h o p sht c ch sh ' ' ' e h yu e e ye o o yo f i sht h a"),
  (0x2C80, "A a B b G g D d E e S s Z z E e Th th I i K k L l M m N n Ks ks O o P p R r S"),
  (0x2CA5, "s T t U u Ph ph Kh kh Ps ps O o ' ' ' ' E e K k N n N n O o Ss ss Sh sh Sh sh"),
  (0x2CC6, "Sh sh Kh kh H h H h H h H h H h H h J j D d C c C c N n N n W w"),
  (0x2D00, "a b g d e v z t i k' l m n o p' zh r s t' u p k gh q' sh ch ts dz ts' ch' kh j"),
  (0x2D20, "h"), (0xA640, "Zemlya zemlya Dzelo dzelo   Iota iota Djerv djerv"), (0xA65E, "Yn yn"),
  (0xA67E, "kavyka payerok Dwe dwe Dzwe dzwe Zhwe zhwe Cche cche Dzze dzze   Twe twe Tswe"),
  (0xA68F, "tswe Tsse tsse Tche tche Hwe hwe Shwe shwe     ' '"), (0xFB13, "mn me mi vn mkh"),
  (0x1E030, "a b v g d e zh z i k l m o p r s t u f kh ts ch sh y e yu dzze a i j o u ' a b"),
  (0x1E053, "v g d e zh z i k l o p s u f kh ts ch sh ' y g i dz dz s  u")]

end ApiWiring.Text.Spelling
