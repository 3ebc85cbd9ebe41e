import AvbEntity.Document.Magnitude
import AvbEntity.Document.Value

/-!
# JSON tokens

The characters of a JSON text are grouped into tokens by a machine that takes one character at a
time. A number or a word ends where a character cannot go on with it, and is judged as a whole.

## Main definitions

* `Token`: the tokens
* `joinUnits`: the characters of UTF-16 code units
* `number?`, `word?`: the values of numbers and words
* `Lexer`, `Lexer.step`, `tokens?`: the machine, and the tokens of a text
-/

namespace AvbEntity.Document.Json

/-- The tokens of a JSON text. -/
inductive Token where
  | openList
  | closeList
  | openRecord
  | closeRecord
  | comma
  | colon
  /-- A text; there is none when it has half a surrogate pair. -/
  | text (s : Option String)
  /-- A number, or one of the words. -/
  | scalar (v : Value)

/-- The first unit of a surrogate pair. -/
def isHigh (n : Nat) : Bool :=
  0xD800 ≤ n && n < 0xDC00

/-- The second unit of a surrogate pair. -/
def isLow (n : Nat) : Bool :=
  0xDC00 ≤ n && n < 0xE000

/-- The characters of code units and code points; a unit of a pair does not stand alone. -/
def joinUnits : List Nat → Option (List Char)
  | [] => some []
  | n :: rest =>
    if isHigh n then
      match rest with
      | [] => none
      | m :: rest =>
        if isLow m then
          (joinUnits rest).map (.ofNat (0x10000 + (n - 0xD800) * 0x400 + (m - 0xDC00)) :: ·)
        else none
    else if isLow n then none
    else (joinUnits rest).map (.ofNat n :: ·)

/-- The exponent behind `e`: an optional sign and at least one digit. -/
def exponent? (cs : List Char) : Option Int :=
  let (negative, digits) := match cs with
    | '-' :: rest => (true, rest)
    | '+' :: rest => (false, rest)
    | _ => (false, cs)
  if digits.isEmpty || !digits.all Magnitude.isDigit then none
  else some (if negative then -Magnitude.ofDigits digits else Magnitude.ofDigits digits)

/-- The value of a number that is not written as an integer. -/
def real (whole fraction : List Char) (exponent : Int) : Value :=
  if Magnitude.exceedsDouble (Magnitude.ofDigits (whole ++ fraction))
      (exponent - fraction.length) then .unreadable
  else .real

/-- The value of a number, by its sign, its integer digits and what follows them. -/
def numberOf? (negative : Bool) (whole : List Char) : List Char → Option Value
  | [] =>
    let n := Magnitude.ofDigits whole
    if negative && n == 0 then some .real
    else if Magnitude.exceedsDouble n 0 then some .unreadable
    else some (.integer (if negative then -n else n))
  | '.' :: rest =>
    let fraction := rest.takeWhile Magnitude.isDigit
    if fraction.isEmpty then none
    else
      match rest.dropWhile Magnitude.isDigit with
      | [] => some (real whole fraction 0)
      | e :: rest =>
        if e == 'e' || e == 'E' then (exponent? rest).map (real whole fraction) else none
  | e :: rest => if e == 'e' || e == 'E' then (exponent? rest).map (real whole []) else none

/-- The value of a number. Its integer digits have no leading zero. -/
def number? (cs : List Char) : Option Value :=
  let (negative, rest) := match cs with
    | '-' :: rest => (true, rest)
    | _ => (false, cs)
  let whole := rest.takeWhile Magnitude.isDigit
  if whole.isEmpty || (whole.head? == some '0' && whole.length != 1) then none
  else numberOf? negative whole (rest.dropWhile Magnitude.isDigit)

/-- The value of a word. -/
def word? (cs : List Char) : Option Value :=
  match String.ofList cs with
  | "null" => some .null
  | "true" => some (.bool true)
  | "false" => some (.bool false)
  | _ => none

/-- Where the machine stands between two characters. What it has read is kept in reverse. -/
inductive Lexer where
  | between
  | word (cs : List Char)
  | number (cs : List Char)
  /-- In a text, of which the code units so far are kept. -/
  | text (units : List Nat)
  /-- In a text, behind a backslash. -/
  | escape (units : List Nat)
  /-- In a text, with hexadecimal digits still to come. -/
  | hex (left value : Nat) (units : List Nat)

namespace Lexer

/-- White space between tokens. -/
def isBlank (c : Char) : Bool :=
  c == ' ' || c == '\t' || c == '\n' || c == '\r'

/-- A letter of a word. -/
def isLetter (c : Char) : Bool :=
  'a' ≤ c && c ≤ 'z'

/-- A character that a number can go on with. -/
def isNumeric (c : Char) : Bool :=
  Magnitude.isDigit c || c == '.' || c == 'e' || c == 'E' || c == '+' || c == '-'

/-- A character that begins a token or stands between tokens. -/
def begin (c : Char) : Option (Lexer × List Token) :=
  if isBlank c then some (between, [])
  else if isLetter c then some (word [c], [])
  else if Magnitude.isDigit c || c == '-' then some (number [c], [])
  else
    match c with
    | '"' => some (text [], [])
    | '[' => some (between, [.openList])
    | ']' => some (between, [.closeList])
    | '\x7b' => some (between, [.openRecord])
    | '\x7d' => some (between, [.closeRecord])
    | ',' => some (between, [.comma])
    | ':' => some (between, [.colon])
    | _ => none

/-- The character of a short escape. -/
def shortEscape? : Char → Option Char
  | '"' => some '"'
  | '\\' => some '\\'
  | '/' => some '/'
  | 'b' => some '\x08'
  | 'f' => some '\x0c'
  | 'n' => some '\n'
  | 'r' => some '\r'
  | 't' => some '\t'
  | _ => none

/-- A token ended by a character that begins another. -/
def finish (v : Option Value) (c : Char) : Option (Lexer × List Token) := do
  let v ← v
  let (next, more) ← begin c
  return (next, .scalar v :: more)

/-- One character: where the machine stands after it, and the tokens that it ends. -/
def step (l : Lexer) (c : Char) : Option (Lexer × List Token) :=
  match l with
  | between => begin c
  | word cs => if isLetter c then some (word (c :: cs), []) else finish (word? cs.reverse) c
  | number cs => if isNumeric c then some (number (c :: cs), []) else finish (number? cs.reverse) c
  | text units =>
    if c == '"' then some (between, [.text ((joinUnits units.reverse).map .ofList)])
    else if c == '\\' then some (escape units, [])
    else if c.toNat < 0x20 then none
    else some (text (c.toNat :: units), [])
  | escape units =>
    if c == 'u' then some (hex 4 0 units, [])
    else (shortEscape? c).map fun c => (text (c.toNat :: units), [])
  | hex left value units => do
    let value := value * 16 + (← Text.Hex.digitValue? c)
    return (if left ≤ 1 then text (value :: units) else hex (left - 1) value units, [])

end Lexer

/-- One character read after others, with the tokens so far in reverse. -/
def Lexer.read (state : Lexer × List Token) (c : Char) : Option (Lexer × List Token) := do
  let (l, more) ← state.1.step c
  return (l, more.reverse ++ state.2)

/-- The tokens of a text; a blank behind the text ends the last of them. -/
def tokens? (cs : List Char) : Option (List Token) := do
  match ← (cs ++ [' ']).foldlM Lexer.read (.between, []) with
  | (.between, done) => return done.reverse
  | _ => none

end AvbEntity.Document.Json
