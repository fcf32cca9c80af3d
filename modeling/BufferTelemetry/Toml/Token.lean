import BufferTelemetry.Text.Numeral

/-!
# TOML tokens

The lexical level of a TOML document, as a machine that takes one character at a
time. Words are not told apart here: whether a run of word characters is a key,
a number or a date depends on where it stands. Blanks and line ends are tokens,
because some of the grammar depends on them; comments are dropped.
-/

namespace BufferTelemetry.Toml

open Text

/-- A token of a TOML document. -/
inductive Token where
  /-- A run of spaces and tabs; whether it is a single space. -/
  | blank (single : Bool)
  /-- The end of a line. -/
  | newline
  /-- A run of characters that can stand in keys, numbers and dates. -/
  | word (text : List Char)
  /-- A string; whether it was written in a form that may span lines. -/
  | text (value : String) (multiline : Bool)
  | arrOpen
  | arrClose
  | tableOpen
  | tableClose
  | comma
  | equals

/-- Which of the four forms of strings is being read. -/
structure Form where
  /-- The character that ends it. -/
  quote : Char
  /-- Whether it ends with three of them and may span lines. -/
  multiline : Bool

namespace Form

/-- Whether a backslash starts an escape. -/
def escapes (f : Form) : Bool := f.quote = '"'

end Form

/-- Where the machine stands. The characters of an unfinished token are kept with the
last one first. -/
inductive Place where
  | between
  /-- Behind a carriage return, before its line feed. -/
  | lineEnd
  | comment
  | commentEnd
  | blank (single : Bool)
  | word (taken : List Char)
  /-- Behind the first quote. -/
  | oneQuote (quote : Char)
  /-- Behind the second quote. -/
  | twoQuotes (quote : Char)
  /-- Inside a string. -/
  | text (form : Form) (taken : List Char)
  /-- Right behind the opening of a string that spans lines. -/
  | textStart (form : Form)
  /-- There, behind a carriage return. -/
  | textStartEnd (form : Form)
  /-- Inside a string that spans lines, behind so many quotes. -/
  | quotes (form : Form) (taken : List Char) (count : Nat)
  /-- Inside a string that spans lines, behind a carriage return. -/
  | textEnd (form : Form) (taken : List Char)
  /-- Behind a backslash. -/
  | escape (form : Form) (taken : List Char)
  /-- Inside the digits of an escaped code point, of which some are still to come. -/
  | digits (form : Form) (taken : List Char) (missing value : Nat)
  /-- Behind a backslash and blanks, before the end of the line. -/
  | foldBlank (form : Form) (taken : List Char)
  /-- There, behind a carriage return. -/
  | foldEnd (form : Form) (taken : List Char)
  /-- Behind a backslash that ended a line, where white space is skipped. -/
  | folding (form : Form) (taken : List Char)

/-- The state of the machine. -/
structure Scan where
  /-- The tokens that are complete, the last one first. -/
  done : List Token
  place : Place

namespace Scan

/-- Whether the character can stand in a word. -/
def isWordChar (c : Char) : Bool :=
  c.isAlphanum || c = '_' || c = '-' || c = '+' || c = '.' || c = ':'

/-- Whether the character is a control character that may stand nowhere. -/
def isControl (c : Char) : Bool :=
  (c.toNat < 0x20 && c ≠ '\t') || c.toNat = 0x7F

/-- Takes a character that does not continue a token. -/
def begin (tokens : List Token) (c : Char) : Option Scan :=
  if c = ' ' then some ⟨tokens, .blank true⟩
  else if c = '\t' then some ⟨tokens, .blank false⟩
  else if c = '\n' then some ⟨.newline :: tokens, .between⟩
  else if c = '\r' then some ⟨tokens, .lineEnd⟩
  else if c = '#' then some ⟨tokens, .comment⟩
  else if c = '[' then some ⟨.arrOpen :: tokens, .between⟩
  else if c = ']' then some ⟨.arrClose :: tokens, .between⟩
  else if c = '\x7b' then some ⟨.tableOpen :: tokens, .between⟩
  else if c = '\x7d' then some ⟨.tableClose :: tokens, .between⟩
  else if c = ',' then some ⟨.comma :: tokens, .between⟩
  else if c = '=' then some ⟨.equals :: tokens, .between⟩
  else if c = '"' ∨ c = '\'' then some ⟨tokens, .oneQuote c⟩
  else if isWordChar c then some ⟨tokens, .word [c]⟩
  else none

/-- The token of a string. -/
def textToken (form : Form) (taken : List Char) : Token :=
  .text (String.ofList taken.reverse) form.multiline

/-- Takes a character inside a string. -/
def stepText (tokens : List Token) (form : Form) (taken : List Char) (c : Char) : Option Scan :=
  if c = form.quote then
    if form.multiline then some ⟨tokens, .quotes form taken 1⟩
    else some ⟨textToken form taken :: tokens, .between⟩
  else if c = '\\' ∧ form.escapes then some ⟨tokens, .escape form taken⟩
  else if c = '\n' ∧ form.multiline then some ⟨tokens, .text form (c :: taken)⟩
  else if c = '\r' ∧ form.multiline then some ⟨tokens, .textEnd form taken⟩
  else if isControl c then none
  else some ⟨tokens, .text form (c :: taken)⟩

/-- Takes the character behind a backslash. -/
def stepEscape (tokens : List Token) (form : Form) (taken : List Char) (c : Char) :
    Option Scan :=
  let put (n : Nat) : Option Scan := some ⟨tokens, .text form (Char.ofNat n :: taken)⟩
  if c = 'b' then put 0x08
  else if c = 't' then put 0x09
  else if c = 'n' then put 0x0A
  else if c = 'f' then put 0x0C
  else if c = 'r' then put 0x0D
  else if c = 'e' then put 0x1B
  else if c = '"' ∨ c = '\\' then put c.toNat
  else if c = 'x' then some ⟨tokens, .digits form taken 2 0⟩
  else if c = 'u' then some ⟨tokens, .digits form taken 4 0⟩
  else if c = 'U' then some ⟨tokens, .digits form taken 8 0⟩
  else if !form.multiline then none
  else if c = ' ' ∨ c = '\t' then some ⟨tokens, .foldBlank form taken⟩
  else if c = '\n' then some ⟨tokens, .folding form taken⟩
  else if c = '\r' then some ⟨tokens, .foldEnd form taken⟩
  else none

/-- The character with the given code point, if there is one. -/
def charOf? (n : Nat) : Option Char :=
  if n < 0xD800 ∨ (0xDFFF < n ∧ n < 0x110000) then some (Char.ofNat n) else none

/-- Adds quotes to the characters taken. -/
def addQuotes (form : Form) (count : Nat) (taken : List Char) : List Char :=
  List.replicate count form.quote ++ taken

/-- Takes one character. -/
def step (s : Scan) (c : Char) : Option Scan :=
  match s.place with
  | .between => begin s.done c
  | .lineEnd => if c = '\n' then some ⟨.newline :: s.done, .between⟩ else none
  | .comment =>
    if c = '\n' then some ⟨.newline :: s.done, .between⟩
    else if c = '\r' then some ⟨s.done, .commentEnd⟩
    else if isControl c then none
    else some s
  | .commentEnd => if c = '\n' then some ⟨.newline :: s.done, .between⟩ else none
  | .blank single =>
    if c = ' ' ∨ c = '\t' then some ⟨s.done, .blank false⟩
    else begin (.blank single :: s.done) c
  | .word taken =>
    if isWordChar c then some ⟨s.done, .word (c :: taken)⟩
    else begin (.word taken.reverse :: s.done) c
  | .oneQuote quote =>
    if c = quote then some ⟨s.done, .twoQuotes quote⟩
    else stepText s.done ⟨quote, false⟩ [] c
  | .twoQuotes quote =>
    if c = quote then some ⟨s.done, .textStart ⟨quote, true⟩⟩
    else begin (.text "" false :: s.done) c
  | .text form taken => stepText s.done form taken c
  | .textStart form =>
    if c = '\n' then some ⟨s.done, .text form []⟩
    else if c = '\r' then some ⟨s.done, .textStartEnd form⟩
    else stepText s.done form [] c
  | .textStartEnd form => if c = '\n' then some ⟨s.done, .text form []⟩ else none
  | .quotes form taken count =>
    if c = form.quote then
      if count = 4 then
        some ⟨textToken form (addQuotes form 2 taken) :: s.done, .between⟩
      else some ⟨s.done, .quotes form taken (count + 1)⟩
    else if 3 ≤ count then
      begin (textToken form (addQuotes form (count - 3) taken) :: s.done) c
    else stepText s.done form (addQuotes form count taken) c
  | .textEnd form taken =>
    if c = '\n' then some ⟨s.done, .text form ('\n' :: '\r' :: taken)⟩ else none
  | .escape form taken => stepEscape s.done form taken c
  | .digits form taken missing value => do
    let value := value * 16 + (← Numeral.digit? 16 c)
    if missing ≤ 1 then
      return ⟨s.done, .text form ((← charOf? value) :: taken)⟩
    else
      return ⟨s.done, .digits form taken (missing - 1) value⟩
  | .foldBlank form taken =>
    if c = ' ' ∨ c = '\t' then some s
    else if c = '\n' then some ⟨s.done, .folding form taken⟩
    else if c = '\r' then some ⟨s.done, .foldEnd form taken⟩
    else none
  | .foldEnd form taken => if c = '\n' then some ⟨s.done, .folding form taken⟩ else none
  | .folding form taken =>
    if c = ' ' ∨ c = '\t' ∨ c = '\n' then some s
    else if c = '\r' then some ⟨s.done, .foldEnd form taken⟩
    else stepText s.done form taken c

/-- The tokens of a document that ends where the machine stands. -/
def finish? (s : Scan) : Option (List Token) :=
  match s.place with
  | .between => some s.done.reverse
  | .comment => some s.done.reverse
  | .blank single => some (.blank single :: s.done).reverse
  | .word taken => some (.word taken.reverse :: s.done).reverse
  | .twoQuotes _ => some (.text "" false :: s.done).reverse
  | .quotes form taken count =>
    if 3 ≤ count then some (textToken form (addQuotes form (count - 3) taken) :: s.done).reverse
    else none
  | _ => none

end Scan

/-- The mark that may stand before the first character of a document. -/
def byteOrderMark : Char := Char.ofNat 0xFEFF

/-- The characters of a document without the mark. -/
def withoutMark : List Char → List Char
  | c :: rest => if c = byteOrderMark then rest else c :: rest
  | [] => []

/-- The tokens of a document. -/
def tokens? (text : String) : Option (List Token) := do
  (← (withoutMark text.toList).foldlM Scan.step ⟨[], .between⟩).finish?

end BufferTelemetry.Toml
