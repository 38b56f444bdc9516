import NetInventory.Json.Number
import NetInventory.Text.Hex
import NetInventory.Text.Utf8

/-! The words of a JSON text. A word can be well formed and yet name nothing that can be kept: a
number beyond the range of doubles, a string with a stray byte or half of a surrogate pair. Such
words stay in the sequence, because a reader that skips over them has nothing against them.
-/

namespace NetInventory.Json

open NetInventory.Utf8 (Symbol)

/-- A word of a JSON text. -/
inductive Token where
  | openArray
  | closeArray
  | openObject
  | closeObject
  | comma
  | colon
  | null
  | bool (value : Bool)
  /-- A number, unless it lies beyond the range of doubles. -/
  | number (value : Option Number)
  /-- A string, unless it holds a stray byte or half of a surrogate pair. -/
  | string (value : Option String)
  /-- No word of the language begins or goes on here. -/
  | bad
deriving DecidableEq

/-- A string literal up to some place in it. -/
structure Content where
  /-- The characters so far, last first; nothing once the string cannot be kept. -/
  chars : Option (List Char)
  /-- The first half of a surrogate pair whose second half has to follow. -/
  half : Option Nat

namespace Content

/-- The content of a string literal at its opening quote. -/
def start : Content :=
  ⟨some [], none⟩

/-- The content of a string literal that cannot be kept. -/
def spoilt : Content :=
  ⟨none, none⟩

/-- Adds a character, which may not separate the halves of a surrogate pair. -/
def push (content : Content) (c : Char) : Content :=
  if content.half.isSome then spoilt else ⟨content.chars.map (c :: ·), none⟩

/-- Adds what a numeric escape names: a character, or half of a surrogate pair. -/
def pushUnit (content : Content) (unit : Nat) : Content :=
  let high := 0xD800 ≤ unit && unit < 0xDC00
  let low := 0xDC00 ≤ unit && unit < 0xE000
  match content.half with
  | some first =>
    if low then
      let c := Char.ofNat (0x10000 + (first - 0xD800) * 0x400 + (unit - 0xDC00))
      ⟨content.chars.map (c :: ·), none⟩
    else
      spoilt
  | none =>
    if high then ⟨content.chars, some unit⟩
    else if low then spoilt
    else content.push (.ofNat unit)

/-- The string at its closing quote. -/
def value (content : Content) : Option String :=
  if content.half.isSome then none
  else content.chars.map (fun chars => .ofList chars.reverse)

end Content

/-- The place in the text at which the next symbol is looked at. -/
inductive Place where
  /-- Between words. -/
  | between
  /-- Inside a fixed word, in front of the given characters of it. -/
  | word (next : Char) (rest : List Char) (token : Token)
  /-- Behind the given characters of a number, last first. -/
  | number (chars : List Char)
  /-- Inside a string. -/
  | string (content : Content)
  /-- Behind a backslash in a string. -/
  | escape (content : Content)
  /-- Inside a numeric escape, of which some digits are to come. -/
  | unit (content : Content) (left value : Nat)

/-- The character that an escape of one letter names. -/
def shortEscape? : Char → Option Char
  | '\x22' => some '\x22'
  | '\x5c' => some '\x5c'
  | '/' => some '/'
  | 'b' => some '\x08'
  | 'f' => some '\x0c'
  | 'n' => some '\x0a'
  | 'r' => some '\x0d'
  | 't' => some '\x09'
  | _ => none

/-- Whether a character can stand in a number. -/
def isNumberChar (c : Char) : Bool :=
  c.isDigit || c = '+' || c = '-' || c = '.' || c = 'e' || c = 'E'

/-- The words that a run of number characters makes up: a number if the run is one throughout,
and otherwise the number in front of it, if there is one, and a break.
-/
def numberTokens (chars : List Char) : List Token :=
  match Literal.read? chars with
  | some (literal, []) => [.number literal.number?]
  | some (literal, _ :: _) => [.number literal.number?, .bad]
  | none => [.bad]

/-- The words that a symbol between two words completes, and where the next symbol stands. -/
def begin (symbol : Symbol) : List Token × Place :=
  match symbol with
  | some ' ' | some '\x09' | some '\x0a' | some '\x0d' => ([], .between)
  | some '[' => ([.openArray], .between)
  | some ']' => ([.closeArray], .between)
  | some '\x7b' => ([.openObject], .between)
  | some '\x7d' => ([.closeObject], .between)
  | some ',' => ([.comma], .between)
  | some ':' => ([.colon], .between)
  | some '\x22' => ([], .string .start)
  | some 'n' => ([], .word 'u' ['l', 'l'] .null)
  | some 't' => ([], .word 'r' ['u', 'e'] (.bool true))
  | some 'f' => ([], .word 'a' ['l', 's', 'e'] (.bool false))
  | some c => if c.isDigit || c = '-' then ([], .number [c]) else ([.bad], .between)
  | none => ([.bad], .between)

/-- The words that a symbol completes at a place, and where the next symbol stands. -/
def step (place : Place) (symbol : Symbol) : List Token × Place :=
  match place with
  | .between => begin symbol
  | .word c rest token =>
    if symbol = some c then
      match rest with
      | [] => ([token], .between)
      | following :: rest => ([], .word following rest token)
    else
      ([.bad], .between)
  | .number chars =>
    match symbol with
    | some c =>
      if isNumberChar c then ([], .number (c :: chars))
      else
        let (tokens, next) := begin symbol
        (numberTokens chars.reverse ++ tokens, next)
    | none => (numberTokens chars.reverse ++ [.bad], .between)
  | .string content =>
    match symbol with
    | none => ([], .string .spoilt)
    | some '\x22' => ([.string content.value], .between)
    | some '\x5c' => ([], .escape content)
    | some c => if c.toNat < 0x20 then ([.bad], .between) else ([], .string (content.push c))
  | .escape content =>
    match symbol with
    | some 'u' => ([], .unit content 4 0)
    | some c =>
      match shortEscape? c with
      | some named => ([], .string (content.push named))
      | none => ([.bad], .between)
    | none => ([.bad], .between)
  | .unit content left value =>
    match symbol.bind Text.hexValue? with
    | some digit =>
      if left ≤ 1 then ([], .string (content.pushUnit (value * 16 + digit)))
      else ([], .unit content (left - 1) (value * 16 + digit))
    | none => ([.bad], .between)

/-- The words that the end of the text completes. -/
def finish : Place → List Token
  | .between => []
  | .number chars => numberTokens chars.reverse
  | .word _ _ _ | .string _ | .escape _ | .unit _ _ _ => [.bad]

/-- The words of a text from a place in it on. -/
def tokensFrom (place : Place) : List Symbol → List Token
  | [] => finish place
  | symbol :: rest =>
    let (tokens, next) := step place symbol
    tokens ++ tokensFrom next rest

/-- The words of a text. What follows a break is not to be relied on. -/
def tokens (bytes : ByteArray) : List Token :=
  tokensFrom .between (Utf8.symbols bytes)

end NetInventory.Json
