import AvbEntity.Text.Hex

/-!
# Quoted texts of TOML

A quoted text stands between double quotes, where a backslash begins an escape, or between single
quotes, where it does not; and on one line between single ones of them, or on several lines
between three in a row. The machine takes one character at a time. Where three quotes end a text,
up to two more before them belong to it, so that the end is known only from the character behind.

## Main definitions

* `Style`, `Phase`, `Quoted`: the state of the machine
* `Outcome`, `Quoted.step`: one character
-/

namespace AvbEntity.Document.Toml

/-- The two kinds of quotes. -/
inductive Style where
  /-- Double quotes, with escapes. -/
  | basic
  /-- Single quotes. -/
  | literal
  deriving DecidableEq

/-- The quote of a style. -/
def Style.quote : Style → Char
  | .basic => '"'
  | .literal => '\''

/-- Where the machine stands in the text. -/
inductive Phase where
  /-- Behind one opening quote. -/
  | opened
  /-- Behind two quotes: the empty text, or the beginning of three. -/
  | openedTwice
  /-- Behind three opening quotes, where a line break is left out. -/
  | start
  | plain
  /-- Behind a backslash. -/
  | escape
  /-- With hexadecimal digits still to come. -/
  | unicode (left value : Nat)
  /-- Behind a backslash at the end of a line, before the line break or behind it. -/
  | skip (broken : Bool)
  /-- Behind quotes that may end a text of several lines. -/
  | closing (quotes : Nat)
  deriving DecidableEq

/-- A quoted text that is read. -/
structure Quoted where
  style : Style
  /-- The text may extend over several lines. -/
  mayBreak : Bool
  /-- The text stands between three quotes. -/
  multiline : Bool := false
  phase : Phase := .opened
  /-- The characters so far, in reverse. -/
  done : List Char := []

/-- What becomes of a quoted text at a character. -/
inductive Outcome where
  | more (q : Quoted)
  /-- The character is the last of the text. -/
  | ended (s : String)
  /-- The text ended before the character. -/
  | before (s : String)

/-- A blank within a line. -/
def isBlank (c : Char) : Bool :=
  c == ' ' || c == '\t'

/-- A character that may stand in a text or comment: no control character other than the tab. -/
def isPrintable (c : Char) : Bool :=
  c == '\t' || (0x20 ≤ c.toNat && c.toNat != 0x7F)

namespace Quoted

/-- The text so far. -/
def text (q : Quoted) : String :=
  .ofList q.done.reverse

/-- One more character of the text. -/
def push (q : Quoted) (c : Char) : Quoted :=
  { q with phase := .plain, done := c :: q.done }

/-- Some quotes that are part of the text. -/
def pushQuotes (q : Quoted) (count : Nat) : Quoted :=
  { q with phase := .plain, done := .replicate count q.style.quote ++ q.done }

/-- A character where no other rule holds. -/
def plainStep (q : Quoted) (c : Char) : Option Outcome :=
  if c == q.style.quote then
    if q.multiline then some (.more { q with phase := .closing 1 }) else some (.ended q.text)
  else if c == '\\' && q.style == .basic then some (.more { q with phase := .escape })
  else if isPrintable c || (c == '\n' && q.multiline) then some (.more (q.push c))
  else none

/-- The character of a short escape. -/
def shortEscape? : Char → Option Char
  | 'b' => some '\x08'
  | 't' => some '\t'
  | 'n' => some '\n'
  | 'f' => some '\x0c'
  | 'r' => some '\r'
  | '"' => some '"'
  | '\\' => some '\\'
  | _ => none

/-- A character behind a backslash. -/
def escapeStep (q : Quoted) (c : Char) : Option Outcome :=
  match shortEscape? c with
  | some c => some (.more (q.push c))
  | none =>
    if c == 'u' then some (.more { q with phase := .unicode 4 0 })
    else if c == 'U' then some (.more { q with phase := .unicode 8 0 })
    else if q.multiline && (isBlank c || c == '\n') then
      some (.more { q with phase := .skip (c == '\n') })
    else none

/-- A digit of a code point. -/
def unicodeStep (q : Quoted) (left value : Nat) (c : Char) : Option Outcome := do
  let value := value * 16 + (← Text.Hex.digitValue? c)
  if 1 < left then return .more { q with phase := .unicode (left - 1) value }
  else if value.isValidChar then return .more (q.push (.ofNat value))
  else none

/-- One character. -/
def step (q : Quoted) (c : Char) : Option Outcome :=
  match q.phase with
  | .opened =>
    if c == q.style.quote then
      if q.mayBreak then some (.more { q with phase := .openedTwice }) else some (.ended "")
    else plainStep q c
  | .openedTwice =>
    if c == q.style.quote then some (.more { q with multiline := true, phase := .start })
    else some (.before "")
  | .start => if c == '\n' then some (.more { q with phase := .plain }) else plainStep q c
  | .plain => plainStep q c
  | .escape => escapeStep q c
  | .unicode left value => unicodeStep q left value c
  | .skip broken =>
    if isBlank c then some (.more q)
    else if c == '\n' then some (.more { q with phase := .skip true })
    else if broken then plainStep q c
    else none
  | .closing quotes =>
    if c == q.style.quote then
      if quotes < 4 then some (.more { q with phase := .closing (quotes + 1) })
      -- the fifth in a row: two of them belong to the text, and three end it
      else some (.ended (q.pushQuotes 2).text)
    else if quotes < 3 then plainStep (q.pushQuotes quotes) c
    else some (.before (q.pushQuotes (quotes - 3)).text)

end Quoted

end AvbEntity.Document.Toml
