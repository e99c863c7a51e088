import CurveSketch.Number.Reading

/-!
# Templates

A template is a text with places that data are put in.  A percent sign begins a place and a letter
ends it; between them may stand a name in parentheses, flags, a width, and a point with a precision.
Two percent signs stand for one.

The pieces of a template, in the order in which they are written:

* **A plain character** — `Piece.plain`.
* **A place** — `Place`, with the `Source` of its datum, its `Flags`, and for its width and its
  precision an `Extent`, which is written out or is itself taken from the data.

`Template.pieces` reads them.  It never fails: a name without an end and a place without a letter
are part of what is read, since data may be found wanting before they are.
-/

namespace CurveSketch.Template

open Number

/-- Where the datum of a place comes from. -/
inductive Source where
  /-- It is the next one. -/
  | next
  /-- It is the member with a name. -/
  | named (name : List Char)
  /-- The parenthesis before its name is not closed. -/
  | unclosed
  deriving DecidableEq, Repr

/-- A width or a precision. -/
inductive Extent where
  /-- It is written out. -/
  | given (n : Nat)
  /-- It is the next datum. -/
  | taken
  deriving DecidableEq, Repr

/-- The flags of a place. -/
structure Flags where
  /-- Whether the datum stands at the left of its place. -/
  left : Bool := false
  /-- Whether a number is filled up with zeros. -/
  zeros : Bool := false
  /-- Whether a number that is not negative has a sign. -/
  plus : Bool := false
  /-- Whether a number that is not negative has a blank in place of a sign. -/
  blank : Bool := false
  /-- Whether the base of a number, or all of its digits, are shown. -/
  full : Bool := false
  deriving DecidableEq, Repr

/-- A place for a datum. -/
structure Place where
  source : Source
  flags : Flags
  width : Option Extent
  precision : Option Extent
  /-- The letter that tells how the datum is written, and its position in the template; `none` if
  the template ends before it. -/
  letter : Option (Char × Nat)
  deriving DecidableEq, Repr

/-- A piece of a template. -/
inductive Piece where
  | plain (c : Char)
  | place (p : Place)
  deriving DecidableEq, Repr

/-! ## The parts of a place

Each part is read off the front of a text, and what is left is a suffix of the text. -/

/-- The text up to the parenthesis that closes the first one and `depth` more, and what follows. -/
def splitName? : (depth : Nat) → List Char → Option (List Char × List Char)
  | _, [] => none
  | 0, ')' :: rest => some ([], rest)
  | depth + 1, ')' :: rest => (splitName? depth rest).map fun s => (')' :: s.1, s.2)
  | depth, '(' :: rest => (splitName? (depth + 1) rest).map fun s => ('(' :: s.1, s.2)
  | depth, c :: rest => (splitName? depth rest).map fun s => (c :: s.1, s.2)

/-- The source at the front of a place. -/
def readSource : List Char → Source × List Char
  | '(' :: rest =>
    match splitName? 0 rest with
    | some (name, rest) => (.named name, rest)
    | none => (.unclosed, [])
  | cs => (.next, cs)

/-- Flags, in any order and after those already found. -/
def readFlags (flags : Flags) : List Char → Flags × List Char
  | '-' :: rest => readFlags { flags with left := true } rest
  | '0' :: rest => readFlags { flags with zeros := true } rest
  | '+' :: rest => readFlags { flags with plus := true } rest
  | ' ' :: rest => readFlags { flags with blank := true } rest
  | '#' :: rest => readFlags { flags with full := true } rest
  | cs => (flags, cs)

/-- An extent, if there is one: a star, or digits. -/
def readExtent : List Char → Option Extent × List Char
  | '*' :: rest => (some .taken, rest)
  | cs =>
    let digits := cs.takeWhile Char.isDigit
    (if digits.isEmpty then none else some (.given (digitsValue digits)),
      cs.dropWhile Char.isDigit)

/-- A precision after its point, if there is one.  A point alone gives the precision zero. -/
def readPrecision : List Char → Option Extent × List Char
  | '.' :: rest => (some ((readExtent rest).1.getD (.given 0)), (readExtent rest).2)
  | cs => (none, cs)

/-- A text without one letter that tells the size of a datum; data have none. -/
def dropSize : List Char → List Char
  | 'h' :: rest => rest
  | 'l' :: rest => rest
  | 'L' :: rest => rest
  | cs => cs

/-- A place after its percent sign, in a template of some length. -/
def readPlace (length : Nat) (cs : List Char) : Place × List Char :=
  let source := readSource cs
  let flags := readFlags {} source.2
  let width := readExtent flags.2
  let precision := readPrecision width.2
  let letter := dropSize precision.2
  ({ source := source.1
     flags := flags.1
     width := width.1
     precision := precision.1
     letter := letter.head?.map fun c => (c, length - letter.length) },
    letter.tail)

/-- A name ends inside the text. -/
theorem splitName?_suffix {depth : Nat} {cs name rest : List Char}
    (h : splitName? depth cs = some (name, rest)) : rest <:+ cs := by
  fun_induction splitName? depth cs generalizing name rest with
  | case1 => simp at h
  | case2 => simp at h; exact h.2 ▸ List.suffix_cons _ _
  | case3 _ _ ih | case4 _ _ ih | case5 _ _ _ _ _ _ ih =>
    obtain ⟨s, hs, e⟩ := Option.map_eq_some_iff.1 h
    simp only [Prod.mk.injEq] at e
    exact e.2 ▸ (ih hs).trans (List.suffix_cons _ _)

/-- What is left after a source is a suffix. -/
theorem readSource_suffix (cs : List Char) : (readSource cs).2 <:+ cs := by
  unfold readSource
  split
  · split
    · next h => exact (splitName?_suffix h).trans (List.suffix_cons _ _)
    · exact List.nil_suffix
  · exact List.suffix_rfl

/-- What is left after flags is a suffix. -/
theorem readFlags_suffix (flags : Flags) (cs : List Char) : (readFlags flags cs).2 <:+ cs := by
  fun_induction readFlags flags cs with
  | case6 => exact List.suffix_rfl
  | _ => exact List.IsSuffix.trans ‹_› (List.suffix_cons _ _)

/-- What is left after an extent is a suffix. -/
theorem readExtent_suffix (cs : List Char) : (readExtent cs).2 <:+ cs := by
  unfold readExtent
  split
  · exact List.suffix_cons _ _
  · exact List.dropWhile_suffix _

/-- What is left after a precision is a suffix. -/
theorem readPrecision_suffix (cs : List Char) : (readPrecision cs).2 <:+ cs := by
  unfold readPrecision
  split
  · exact (readExtent_suffix _).trans (List.suffix_cons _ _)
  · exact List.suffix_rfl

/-- What is left without a size is a suffix. -/
theorem dropSize_suffix (cs : List Char) : dropSize cs <:+ cs := by
  unfold dropSize
  split
  · exact List.suffix_cons _ _
  · exact List.suffix_cons _ _
  · exact List.suffix_cons _ _
  · exact List.suffix_rfl

/-- What is left after a place is a suffix. -/
theorem readPlace_suffix (length : Nat) (cs : List Char) : (readPlace length cs).2 <:+ cs :=
  (List.tail_suffix _).trans <| (dropSize_suffix _).trans <| (readPrecision_suffix _).trans <|
    (readExtent_suffix _).trans <| (readFlags_suffix _ _).trans <| readSource_suffix _

/-! ## The pieces -/

/-- The pieces of the end of a template of some length. -/
def piecesOf (length : Nat) (cs : List Char) : List Piece :=
  match cs with
  | [] => []
  | '%' :: '%' :: rest => .plain '%' :: piecesOf length rest
  | '%' :: rest =>
    .place (readPlace length rest).1 :: piecesOf length (readPlace length rest).2
  | c :: rest => .plain c :: piecesOf length rest
termination_by cs.length
decreasing_by
  · simp only [List.length_cons]; omega
  · exact Nat.lt_succ_of_le (readPlace_suffix length rest).length_le
  · simp

/-- The pieces of a template. -/
def pieces (template : List Char) : List Piece := piecesOf template.length template

end CurveSketch.Template
