import CurveSketch.Text.Character

/-!
# Expressions as they are shown

* `superscript` — digits and minus signs as raised characters.
* `raiseExponents` — every power with a whole exponent shown by raised characters.
* `prettify` — the shown form of an expression, with the sign of the root and of products too.
-/

namespace CurveSketch.Display

open Text

/-- The raised form of a character, the character itself if it has none.  Only the digits of the
basic Latin block and the minus sign have one. -/
def raiseChar : Char → Char
  | '0' => '⁰'
  | '1' => '¹'
  | '2' => '²'
  | '3' => '³'
  | '4' => '⁴'
  | '5' => '⁵'
  | '6' => '⁶'
  | '7' => '⁷'
  | '8' => '⁸'
  | '9' => '⁹'
  | '-' => '⁻'
  | c => c

/-- A text with its characters raised. -/
def superscript (cs : List Char) : List Char := cs.map raiseChar

/-- A minus sign in front of an exponent, if there is one, and the rest. -/
def splitMinus : List Char → List Char × List Char
  | '-' :: rest => (['-'], rest)
  | cs => ([], cs)

/-- What follows a sign is no longer than the text. -/
theorem length_splitMinus_snd (cs : List Char) : (splitMinus cs).2.length ≤ cs.length := by
  unfold splitMinus
  split
  · exact Nat.le_succ _
  · exact Nat.le_refl _

/-- The whole exponent at the front of a text, a minus sign included, with what follows.  All digits
belong to it, there is at least one, and no point follows them. -/
def exponent? (cs : List Char) : Option (List Char × List Char) :=
  let rest := (splitMinus cs).2
  if (rest.takeWhile isDigit).isEmpty || (rest.dropWhile isDigit).head? == some '.' then none
  else some ((splitMinus cs).1 ++ rest.takeWhile isDigit, rest.dropWhile isDigit)

/-- What follows an exponent is no longer than the text it begins. -/
theorem length_of_exponent? {cs exponent after : List Char}
    (h : exponent? cs = some (exponent, after)) : after.length ≤ cs.length := by
  unfold exponent? at h
  dsimp only at h
  split at h
  · exact absurd h (by simp)
  · simp only [Option.some.injEq, Prod.mk.injEq] at h
    rw [← h.2]
    exact Nat.le_trans (List.dropWhile_suffix isDigit).length_le (length_splitMinus_snd cs)

/-- Powers with a whole exponent written with the exponent raised. -/
def raiseExponents (cs : List Char) : List Char :=
  match cs with
  | [] => []
  | '*' :: '*' :: rest =>
    match _h : exponent? rest with
    | some (exponent, after) => superscript exponent ++ raiseExponents after
    | none => '*' :: raiseExponents ('*' :: rest)
  | c :: rest => c :: raiseExponents rest
termination_by cs.length
decreasing_by
  · have := length_of_exponent? ‹_›
    simp only [List.length_cons]
    omega
  · simp
  · simp

/-- The name of the square root and its parenthesis written with the root sign. -/
def showRoots : List Char → List Char
  | 's' :: 'q' :: 'r' :: 't' :: '(' :: rest => '√' :: '(' :: showRoots rest
  | c :: rest => c :: showRoots rest
  | [] => []

/-- The star written as the sign of multiplication. -/
def showProducts (cs : List Char) : List Char := cs.map fun c => if c = '*' then '×' else c

/-- The shown form of an expression. -/
def prettify (cs : List Char) : List Char := showProducts (showRoots (raiseExponents cs))

end CurveSketch.Display
