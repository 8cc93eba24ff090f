import ApiWiring.Text.Spelling.Stretch

/-!
# Spellings of Latin letters

The letters of the Latin script with their marks, its ligatures and modifiers, and the signs that
stand among them. A letter with a mark is spelled as the letter.
-/
namespace ApiWiring.Text.Spelling

/-- Latin letters and the signs among them. -/
def latin : List Stretch := [
  (0xA1, "! c GBP $ Y | S \" (C) a << !  (R) - deg +- 2 3 ' u P . , 1 o >> 1/4 1/2 3/4 ?"),
  (0xC0, "A A A A A A Ae C E E E E I I I I D N O O O O O * O U U U U Y Th ss a a a a a a"),
  (0xE6, "ae c e e e e i i i i d n o o o o o / o u u u u y th y A a A a A a C c C c C c"),
  (0x10C, "C c D d D d E e E e E e E e E e G g G g G g G g H h H h I i I i I i I i I i IJ"),
  (0x133, "ij J j K k k L l L l L l L l L l N n N n N n 'n Ng ng O o O o O o Oe oe R r R"),
  (0x157, "r R r S s S s S s S s T t T t T t U u U u U u U u U u U u W w Y y Y Z z Z z Z"),
  (0x17E, "z s b B B b 6 6 O C c D D D d z E E E F f G G hv I I K k l  W N n O O o Oi oi"),
  (0x1A4, "P p yr S s Sh lsh t T t T U u U V Y y Z z Zh Zh zh zh 2 5 5  w | || |= ! DZ Dz"),
  (0x1C6, "dz LJ Lj lj NJ Nj nj A a I i O o U u U u U u U u U u e A a A a Ae ae G g G g K"),
  (0x1E9, "k O o O o Zh zh j DZ Dz dz G g Hv W N n A a Ae ae O o A a A a E e E e I i I i"),
  (0x20C, "O o O o R r R r U u U u S s T t Y y H h N d Ou ou Z z A a E e O o O o O o O o"),
  (0x232, "Y y l n t j db qp A C c L T s z ' ' B U V E e J j Q q R r Y y a a a b o c d d"),
  (0x258, "e e er e e er e j g g G g o y h h i i I l l l lz w w m n n N o Oe o f r r r r"),
  (0x27D, "r r r R r s sh j r sh t t u u v v w l Y z z zh zh ' ' ' c p B e G H j k L q '"),
  (0x2A2, "' dz dzh dz ts tsh tc fng ls lz ww dd h h h h j r r r r w y ' \" ' ' ' ' ' ' '"),
  (0x2C2, "< > ^ v ^ v ' - ' ` , - ` , : : ' ' ^ v + - ' . o , ~ \"   g l s x '"),
  (0x1D00, "A Ae ae B C D D E e i J K L M n O o o o o oe ou o o P r r T U u u m V W Z"),
  (0x1D2C, "A Ae B  D E E G H I J K L M N  O Ou P R T U W a a a ae b d e e e e g  k m ng o"),
  (0x1D53, "o o o p t u u w v  v g d f ch i r u v v g r f ch ue b d f m n p r r s t z g n"),
  (0x1D79, "g th I  p U  b d f g k l m n p r s  v x z a  d e e e  i o  u  a c c d e f j g"),
  (0x1DA3, "y i i I I j l l L m w n n N o f s sh t u u U v v z z z zh th"),
  (0x1E00, "A a B b B b B b C c D d D d D d D d D d E e E e E e E e E e F f G g H h H h H"),
  (0x1E27, "h H h H h I i I i K k K k K k L l L l L l L l M m M m M m N n N n N n N n O o"),
  (0x1E4E, "O o O o O o P p P p R r R r R r R r S s S s S s S s S s T t T t T t T t U u U"),
  (0x1E75, "u U u U u U u V v V v W w W w W w W w W w X x X x Y y Z z Z z Z z h t w y a s"),
  (0x1E9C, "s s Ss  A a A a A a A a A a A a A a A a A a A a A a A a E e E e E e E e E e E"),
  (0x1EC3, "e E e E e I i I i O o O o O o O o O o O o O o O o O o O o O o O o U u U u U u"),
  (0x1EEA, "U u U u U u U u Y y Y y Y y Y y Ll ll V v Y y"),
  (0x2C60, "L l L P R a t H h K k Z z  M A  v W w v H h  e r o e j V S Z"), (0xA728, "Tz tz"),
  (0xA730, "F S Aa aa Ao ao Au au Av av Av av Ay ay C c K k K k K k L l L l O o O o Oo oo"),
  (0xA750, "P p P p P p Q q Q q     V v Vy vy Z z Th th Th th   Et et Is is    d l m n r R"),
  (0xA777, "t um D d F f G G g L l R r S s T t      H l  N n C c c h B b F f Ae ae Oe oe"),
  (0xA79E, "Ue ue G g K k N n R r S s H E G L I q K T J      U u A a I i U u O o W w C S Z"),
  (0xA7C7, "D d S s      G g     S s S s"), (0xA7F2, "C F Q H h  H oe m"),
  (0xAB32, "e e e f g s l l m n  o o o oe oe oe   r r r r r r r r  u  ui ui u    x x x x y"),
  (0xAB5D, "s l u  e oe uo     r w"), (0xFB00, "ff fi fl ffi ffl st st"),
  (0xFF01, "! \" # $ % & ' ( ) * + , - . / 0 1 2 3 4 5 6 7 8 9 : ; < = > ? @ A B C D E F G"),
  (0xFF28, "H I J K L M N O P Q R S T U V W X Y Z [ \\ ] ^ _ ` a b c d e f g h i j k l m n"),
  (0xFF4F, "o p q r s t u v w x y z \x7b | \x7d ~"),
  (0x10781, ": : ae B b  dz  dz dzh d d d e e fng o G g G h H h j ls lz l l l lz  l y o Oe"),
  (0x107A4, "o q r r r r R tc ts  tsh t v  Y ' ' p     s"),
  (0x1DF01, "g g k l  y  r t    t  c k l  l  r r    i o  c s"), (0x1DF25, "d l n r s t")]

end ApiWiring.Text.Spelling
