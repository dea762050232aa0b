import AsmNavigator.Text.Printable
import AsmNavigator.Text.Surrogate

/-!
# Quoted texts

Messages show a text between quotes. Single quotes are used unless the text holds one
and no double quote; the quote itself, the backslash and everything that is not
printable is escaped, by the shortest escape that fits its code point. Bytes are shown in
the same way behind a letter, everything beyond ASCII by its value.
-/

namespace AsmNavigator.Text

def hexDigit (n : Nat) : Char :=
  if n < 10 then Char.ofNat (48 + n) else Char.ofNat (87 + n)

/-- The `width` last hexadecimal digits of a number. -/
def hexDigits : Nat → Nat → List Char
  | 0, _ => []
  | width + 1, n => hexDigits width (n / 16) ++ [hexDigit (n % 16)]

def escapeCode (code : Nat) : List Char :=
  if code < 0x100 then '\\' :: 'x' :: hexDigits 2 code
  else if code < 0x10000 then '\\' :: 'u' :: hexDigits 4 code
  else '\\' :: 'U' :: hexDigits 8 code

def escapeChar (quote c : Char) : List Char :=
  if c == quote || c == '\\' then ['\\', c]
  else if c == '\n' then ['\\', 'n']
  else if c == '\r' then ['\\', 'r']
  else if c == '\t' then ['\\', 't']
  else if isPrintable c then [c]
  else escapeCode c.toNat

def shownCode (quote : Char) (code : Nat) : List Char :=
  if isSurrogate code then escapeCode code else escapeChar quote (Char.ofNat code)

def apostrophe : Char := Char.ofNat 39

/-- The quote that a text is written with. -/
def quoteFor (cs : List Char) : Char :=
  if cs.contains apostrophe && !cs.contains '"' then '"' else apostrophe

def quoted (s : String) : String :=
  let quote := quoteFor s.toList
  String.ofList (quote :: (codePoints s.toList).flatMap (shownCode quote) ++ [quote])

def SurrogateRun.message (run : SurrogateRun) : String :=
  let place := match run.units with
    | [unit] => "character '" ++ String.ofList (escapeCode unit) ++ s!"' in position {run.position}"
    | units => s!"characters in position {run.position}-{run.position + units.length - 1}"
  "'utf-8' codec can't encode " ++ place ++ ": surrogates not allowed"

def quotedBytes (bytes : List UInt8) : String :=
  let cs := bytes.map fun b => Char.ofNat b.toNat
  let quote := quoteFor cs
  let escape (c : Char) : List Char :=
    if c.toNat < 0x7F then escapeChar quote c else escapeCode c.toNat
  String.ofList ('b' :: quote :: cs.flatMap escape ++ [quote])

end AsmNavigator.Text
