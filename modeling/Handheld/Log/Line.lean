import Handheld.Log.Filter
import Handheld.Text.Hex

/-!
# Log lines

A log line shows the time, the count of ticks, the level, the spans it was written in, where it
comes from, and then its message and fields. What a cartridge writes to its console is marked
by a prompt in place of the place it comes from.

Styles are the terminal's escape sequences and can be left out. The time is handed in, so that
a line is a function of its parts.
-/

namespace Handheld.Log

/-- A named value of a line. Its text is already in the form in which it is shown. -/
structure Field where
  name : String
  text : String
  deriving Repr, DecidableEq

/-- A span that a line is written in. -/
structure Span where
  name : String
  fields : List Field := []
  deriving Repr, DecidableEq

/-- Everything that a log line tells. -/
structure Event where
  level : Level
  /-- Where the line comes from. -/
  target : String
  message : String
  fields : List Field := []
  deriving Repr, DecidableEq

/-- The target of what a cartridge writes to its console. -/
def guestTarget : String := "guest"

def escape : String := String.singleton (Char.ofNat 27)

/-- A terminal style, by its code. -/
structure Style where
  code : Nat
  deriving Repr, DecidableEq

namespace Style

def opening (s : Style) : String := escape ++ "[" ++ Nat.repr s.code ++ "m"

def bold : Style := ⟨1⟩

/-- Dimmed text. -/
def dim : Style := ⟨2⟩

def slanted : Style := ⟨3⟩

def ofLevel : Level → Style
  | .trace => ⟨35⟩
  | .debug => ⟨34⟩
  | .info => ⟨32⟩
  | .warn => ⟨33⟩
  | .error => ⟨31⟩

end Style

/-- A text in a style, or as it is if styles are left out. -/
def styled (styles : Bool) (s : Style) (text : String) : String :=
  if styles then s.opening ++ text ++ escape ++ "[0m" else text

/-- A control character that a terminal would act on; blanks and line ends are none. -/
def isUnsafeControl (c : Char) : Bool :=
  [7, 8, 12, 27, 127].contains c.toNat || (128 ≤ c.toNat && c.toNat < 160)

/-- The text of a character of a message. -/
def messageChar (c : Char) : List Char :=
  if !isUnsafeControl c then [c]
  else if c.toNat < 128 then
    ['\\', 'x', Text.hexDigit (c.toNat / 16), Text.hexDigit (c.toNat % 16)]
  else
    ['\\', 'u', Char.ofNat 123, Text.hexDigit (c.toNat / 16), Text.hexDigit (c.toNat % 16),
      Char.ofNat 125]

/-- A message without anything that a terminal would act on. -/
def messageText (s : String) : String :=
  String.ofList (s.toList.flatMap messageChar)

/-- A field as it is shown; a field named as the message is shown like one. -/
def fieldText (styles : Bool) (f : Field) : String :=
  if f.name = "message" then messageText f.text
  else styled styles .slanted f.name ++ styled styles .dim "=" ++ f.text

def fieldsText (styles : Bool) (fs : List Field) : String :=
  " ".intercalate (fs.map (fieldText styles))

/-- A span as it is shown, with its fields in braces if it has any. -/
def spanText (styles : Bool) (s : Span) : String :=
  let fields :=
    if s.fields.isEmpty then ""
    else
      styled styles .bold ("\x7b" ++ fieldsText styles s.fields ++ "\x7d")
  styled styles .bold s.name ++ fields ++ styled styles .dim ":"

/-- A number with at least four digits of base sixteen. -/
def tickText (ticks : Nat) : String :=
  let n := ticks % 65536
  String.ofList
    ([n / 4096, n / 256 % 16, n / 16 % 16, n % 16].map fun d => (Text.hexDigit d).toUpper)

/-- The name of a level, five characters wide. -/
def levelText (l : Level) : String :=
  if l.name.length < 5 then " " ++ l.name else l.name

/-- Where a line comes from. -/
def targetText (styles : Bool) (target : String) : String :=
  if target = guestTarget then styled styles .bold "guest> "
  else styled styles .dim (target ++ ": ")

def spansText (styles : Bool) (spans : List Span) : String :=
  if spans.isEmpty then "" else String.join (spans.map (spanText styles)) ++ " "

def Event.line (e : Event) (styles : Bool) (time : String) (ticks : Nat) (spans : List Span) :
    String :=
  styled styles .dim time
    ++ styled styles .dim (" f0x" ++ tickText ticks ++ " ")
    ++ styled styles (.ofLevel e.level) (levelText e.level)
    ++ " "
    ++ spansText styles spans
    ++ targetText styles e.target
    ++ " ".intercalate
      (messageText e.message :: e.fields.map (fieldText styles))

end Handheld.Log
