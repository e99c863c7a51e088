import CurveSketch.Datum
import CurveSketch.Number.Error

/-!
# Levels and names of journals

* `Level` — how important an entry is, with a rank for each level.
* `Level.nameOf` — the name of a rank, also of one between the levels.
* `Level.threshold` — the rank that a name stands for, with `LevelError` for the names of other
  things.
* `journalName` — the name of the journal of a part.
-/

namespace CurveSketch

open Text

/-- How important an entry is. -/
inductive Level where
  | notset
  | debug
  | info
  | warning
  | error
  | critical
  deriving DecidableEq, Repr

namespace Level

/-- All levels, the least important first. -/
def all : List Level := [notset, debug, info, warning, error, critical]

/-- The name of a level. -/
def name : Level → String
  | notset => "NOTSET"
  | debug => "DEBUG"
  | info => "INFO"
  | warning => "WARNING"
  | error => "ERROR"
  | critical => "CRITICAL"

/-- The rank of a level. -/
def rank : Level → Int
  | notset => 0
  | debug => 10
  | info => 20
  | warning => 30
  | error => 40
  | critical => 50

/-- The name of a rank.  A rank between the levels is called by its number. -/
def nameOf (rank : Int) : String :=
  match all.find? (·.rank = rank) with
  | some level => level.name
  | none => s!"Level {rank}"

/-- The capital form of a letter of a name.  Two letters outside the basic Latin block have a
capital inside it, and two ligatures have two. -/
def capital (c : Char) : List Char :=
  if c = '\u0131' then ['I']
  else if c = '\u017F' then ['S']
  else if c = '\uFB05' ∨ c = '\uFB06' then ['S', 'T']
  else [c.toUpper]

/-- A name in capitals. -/
def inCapitals (name : String) : String := String.ofList (name.toList.flatMap capital)

/-- The level with a name in capitals, or with one of two short names. -/
def ofName? (name : String) : Option Level :=
  if name = "WARN" then some warning
  else if name = "FATAL" then some critical
  else all.find? (·.name = name)

end Level

/-- Why a datum does not name a level. -/
inductive LevelError where
  /-- It is not a text. -/
  | notText (sort : String)
  /-- It names the usual layout of lines, which is a text. -/
  | layout
  /-- It names the table of layouts. -/
  | layouts
  deriving DecidableEq, Repr

namespace LevelError

/-- The family of a cause. -/
def kind : LevelError → FailureKind
  | notText _ => .operation
  | layout => .value
  | layouts => .sort

/-- The usual layout of a line. -/
def usualLayout : String := "%(levelname)s:%(name)s:%(message)s"

/-- The table of layouts: the usual layout in three ways of marking a place, each with the sort that
fills it in. -/
def layoutTable : String :=
  "\x7b'%': (<class 'logging.PercentStyle'>, '" ++ usualLayout ++ "'), " ++
    "'\x7b': (<class 'logging.StrFormatStyle'>, " ++
    "'\x7blevelname\x7d:\x7bname\x7d:\x7bmessage\x7d'), " ++
    "'$': (<class 'logging.StringTemplateStyle'>, " ++
    "'$\x7blevelname\x7d:$\x7bname\x7d:$\x7bmessage\x7d')\x7d"

/-- The wording of a cause. -/
def message : LevelError → String
  | notText sort => "'" ++ sort ++ "' object has no attribute 'upper'"
  | layout => "Unknown level: " ++ quoteString usualLayout
  | layouts => "Level not an integer or a valid string: " ++ layoutTable

end LevelError

/-- The rank from which on entries are kept, by the name of a level in letters of any case; that of
`info` if nothing has the name. -/
def Level.threshold : Datum → Except LevelError Int
  | .text name =>
    let name := inCapitals name
    if name = "BASIC_FORMAT" then .error .layout
    else if name = "_STYLES" then .error .layouts
    else .ok ((ofName? name).getD info).rank
  | d => .error (.notText d.sort)

/-- The name of the journal of the whole. -/
def rootJournal : String := "grafik"

/-- The name of the journal of a part. -/
def journalName (part : String := rootJournal) : String := rootJournal ++ "." ++ part

/-- Where entries go. -/
inductive Sink where
  | screen
  | file
  deriving DecidableEq, Repr

/-- Where entries go: to the screen, and to a file if there is one. -/
def sinks (toFile : Bool) : List Sink := if toFile then [.screen, .file] else [.screen]

end CurveSketch
