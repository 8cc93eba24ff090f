import ApiWiring.Text.Spelling.Stretch

/-!
# Spellings of Indic letters

The letters of the scripts of India and Ceylon. A consonant is spelled without the vowel it carries
when no other is written.
-/
namespace ApiWiring.Text.Spelling

/-- Letters of the scripts of India and Ceylon. -/
def indic : List Stretch := [
  (0x900, "m m m h a a a i i u u r l e e e ai o o o au k kh g gh n c ch j jh n t th d dh"),
  (0x923, "n t th d dh n n p ph b bh m y r r l l l v s s s h     a i i u u r r e e e ai o"),
  (0x94A, "o o au"), (0x958, "q kh g z r rh f y r l l l | || 0 1 2 3 4 5 6 7 8 9   a"),
  (0x981, "m m h  a a i i u u r l   e ai   o au k kh g gh n c ch j jh n t th d dh n t th"),
  (0x9A6, "d dh n  p ph b bh m y r  l    s s s h     a i i u u r r   e ai   o au"),
  (0x9DC, "r rh  y r l l l   0 1 2 3 4 5 6 7 8 9"),
  (0xA01, "m m h  a a i i u u     e ai   o au k kh g gh n c ch j jh n t th d dh n t th d"),
  (0xA27, "dh n  p ph b bh m y r  l l  v s  s h     a i i u u     e ai   o au"),
  (0xA59, "kh g z r  f"), (0xA66, "0 1 2 3 4 5 6 7 8 9 m"),
  (0xA81, "m m h  a a i i u u r l   e ai   o au k kh g gh n c ch j jh n t th d dh n t th"),
  (0xAA6, "d dh n  p ph b bh m y r  l l  v s s s h     a i i u u r r e  e ai o  o au"),
  (0xAE0, "r l l l   0 1 2 3 4 5 6 7 8 9"),
  (0xB01, "m m h  a a i i u u r l   e ai   o au k kh g gh n c ch j jh n t th d dh n t th"),
  (0xB26, "d dh n  p ph b bh m y r  l l  v s s s h     a i i u u r r   e ai   o au"),
  (0xB5C, "r rh  y r l l l   0 1 2 3 4 5 6 7 8 9  v"),
  (0xB82, "m h  a a i i u u    e e ai  o o au k    n c  j  n t    n t    n n p    m y r r"),
  (0xBB2, "l l l v s s s h     a i i u u    e e ai  o o au"), (0xBE6, "0 1 2 3 4 5 6 7 8 9"),
  (0xC00, "m m m h  a a i i u u r l  e e ai  o o au k kh g gh n c ch j jh n t th d dh n t"),
  (0xC25, "th d dh n  p ph b bh m y r r l l l v s s s h     a i i u u r r  e e ai  o o au"),
  (0xC60, "r l l l   0 1 2 3 4 5 6 7 8 9"),
  (0xC80, "m m m h  a a i i u u r l  e e ai  o o au k kh g gh n c ch j jh n t th d dh n t"),
  (0xCA5, "th d dh n  p ph b bh m y r r l l  v s s s h     a i i u u r r  e e ai  o o au"),
  (0xCDE, "f  r l l l   0 1 2 3 4 5 6 7 8 9"),
  (0xD01, "m m h  a a i i u u r l  e e ai  o o au k kh g gh n c ch j jh n t th d dh n t"),
  (0xD25, "th d dh n n p ph b bh m y r r l l l v s s s h     a i i u u r r  e e ai  o o"),
  (0xD4C, "au"), (0xD54, "m y l"), (0xD60, "r l l l   0 1 2 3 4 5 6 7 8 9"),
  (0xD7A, "n n r l l k   m h  a a ae ae i i u u r r   e e ai o o au    k kh g gh n ng c"),
  (0xDA1, "ch j jh n jn nj t th d dh n nd t th d dh n  nd p ph b bh m mb y r  l   v s s s"),
  (0xDC4, "h l f"), (0xDCF, "a ae ae i i u  u  r e e ai o o au"), (0xDE6, "0 1 2 3 4 5 6 7 8 9")]

end ApiWiring.Text.Spelling
