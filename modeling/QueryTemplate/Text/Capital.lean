import QueryTemplate.Text.Basic

/-!
Capital letters. The capital form of a few characters beyond ASCII holds ASCII letters; every other
character beyond ASCII stays as it is, since no word of ASCII letters has its capital form in it.
-/

namespace QueryTemplate.Text

/-- The characters beyond ASCII whose capital form holds an ASCII letter, with that form. -/
def capitals : List (Char × Text) :=
  [('\u00df', ['S', 'S']), ('\u0131', ['I']), ('\u0149', ['\u02bc', 'N']), ('\u017f', ['S']),
   ('\u01f0', ['J', '\u030c']), ('\u1e96', ['H', '\u0331']), ('\u1e97', ['T', '\u0308']),
   ('\u1e98', ['W', '\u030a']), ('\u1e99', ['Y', '\u030a']), ('\u1e9a', ['A', '\u02be']),
   ('\ufb00', ['F', 'F']), ('\ufb01', ['F', 'I']), ('\ufb02', ['F', 'L']),
   ('\ufb03', ['F', 'F', 'I']), ('\ufb04', ['F', 'F', 'L']), ('\ufb05', ['S', 'T']),
   ('\ufb06', ['S', 'T'])]

def capital (c : Char) : Text := (capitals.lookup c).getD [c.toUpper]

def toUpper (s : Text) : Text := s.flatMap capital

end QueryTemplate.Text
