import CurveSketch.Number.Decimal
import CurveSketch.Number.Reading
import CurveSketch.Text.Quoted

/-!
# Data of any sort

Values and precisions may be given as anything that can be written down; what is no number is told
apart only when it is used as one.

* `Datum` — nothing, a truth value, an integer, a text, a list or a record.
* `Datum.toFloat?`, `Datum.toInt?` — the number a datum is, or is the text of.
* `Datum.words`, `Datum.quoted`, `Datum.plainQuoted` — a datum in words.
* `Datum.sort` — what sort of datum it is, in a word.
* `Datum.shown` — a number to some significant digits; what is no number stays as it is.
-/

namespace CurveSketch

open Number Text

/-- A datum of any sort. -/
inductive Datum where
  | nothing
  | truth (b : Bool)
  | whole (n : Int)
  | text (s : String)
  | list (items : List Datum)
  /-- Data by name. -/
  | record (members : List (String × Datum))
  deriving Repr, Inhabited

namespace Datum

/-- The integer a datum is.  A truth value counts as one or zero. -/
def integer? : Datum → Option Int
  | truth b => some (if b then 1 else 0)
  | whole n => some n
  | _ => none

/-- The integer a datum is, or is the text of. -/
def toInt? : Datum → Option Int
  | text s => (readInteger s.toList).toOption
  | d => d.integer?

/-- The number a datum is, or is the text of.  Integers beyond the range of binary64 are none. -/
def toFloat? : Datum → Option Float
  | truth b => some (if b then 1.0 else 0.0)
  | whole n => if (ofInt n).isFinite then some (ofInt n) else none
  | text s => readReal? s.toList
  | _ => none

/-- What stands between two data or members. -/
def separator : List Char := [',', ' ']

mutual

/-- A datum in words, with every text quoted. -/
def quotedWith (quoteText : List Char → List Char) : Datum → List Char
  | nothing => "None".toList
  | truth b => (if b then "True" else "False").toList
  | whole n => (toString n).toList
  | text s => quoteText s.toList
  | list items => '[' :: (separator.intercalate (itemsQuotedWith quoteText items) ++ [']'])
  | record members =>
    '\x7b' :: (separator.intercalate (membersQuotedWith quoteText members) ++ ['\x7d'])

/-- The data of a list in words. -/
def itemsQuotedWith (quoteText : List Char → List Char) : List Datum → List (List Char)
  | [] => []
  | d :: rest => quotedWith quoteText d :: itemsQuotedWith quoteText rest

/-- The members of a record in words, each with its name in front. -/
def membersQuotedWith (quoteText : List Char → List Char) :
    List (String × Datum) → List (List Char)
  | [] => []
  | (name, d) :: rest =>
    (quoteText name.toList ++ ':' :: ' ' :: quotedWith quoteText d) ::
      membersQuotedWith quoteText rest

end

/-- A datum in words, with texts quoted. -/
def quoted (d : Datum) : List Char := d.quotedWith quote

/-- A datum in words of the basic Latin block, with texts quoted. -/
def plainQuoted (d : Datum) : List Char := d.quotedWith quotePlain

/-- A datum in words.  A text stands for itself; texts within lists and records are quoted. -/
def words : Datum → String
  | text s => s
  | d => String.ofList d.quoted

/-- The sort of a datum, in a word. -/
def sort : Datum → String
  | nothing => "NoneType"
  | truth _ => "bool"
  | whole _ => "int"
  | text _ => "str"
  | list _ => "list"
  | record _ => "dict"

/-- The usual number of significant digits. -/
def usualPrecision : Int := 6

/-- The greatest number of significant digits that may be asked for. -/
def greatestPrecision : Int := 2147483647

/-- A number to some significant digits, without the sign of a zero.  What is no number stays as it
is, and so does a number when the count of digits is none. -/
def shown (d : Datum) (precision : Datum) : String :=
  match d.toFloat?, precision.toInt? with
  | some x, some p =>
    if 0 ≤ p ∧ p ≤ greatestPrecision then String.ofList (significant p.toNat (x + 0.0))
    else d.words
  | _, _ => d.words

end Datum

end CurveSketch
