import AsmNavigator.Data.Yaml.Fault
import AsmNavigator.Text.Lines

/-!
# Documents as they are read from disk

A file is read block by block while its document is scanned, so a fault of the file may
lie behind a fault of the document. Bytes are decoded in chunks; a position in a fault
counts from the beginning of the chunk, or of the character that the chunk before it
left unfinished. A block with a character that no document may hold is refused as a whole.
-/

namespace AsmNavigator.Yaml

/-- The text that can be read, and the fault that lies behind it. -/
structure Stream where
  text : List Char
  fault? : Option Fault := none

namespace Stream

def isAllowed (c : Char) : Bool :=
  let n := c.toNat
  n == 0x9 || n == 0xA || n == 0xD || (0x20 ≤ n && n ≤ 0x7E) || n == 0x85 ||
    (0xA0 ≤ n && n ≤ 0xFFFD) || 0x10000 ≤ n

def chunkSize : Nat := 8192

/-- The number of characters in a block; the first one is twice as long. -/
def blockSize : Nat := 4096

def blockStart (index : Nat) : Nat :=
  if index < 2 * blockSize then 0 else index / blockSize * blockSize

/-- Where the character begins that covers a byte, given the bytes in front of it in
reverse. -/
def characterStart (position : Nat) (reversed : List UInt8) (byte? : Option UInt8) : Nat :=
  let isInner (b : UInt8) : Bool := 0x80 ≤ b && b ≤ 0xBF
  if byte?.any isInner then position - 1 - (reversed.takeWhile isInner).length else position

/-- Where the piece begins that a broken run is met in. -/
def pieceStart (bytes : List UInt8) (run : Text.Utf8.BrokenRun) : Nat :=
  if run.reason = "unexpected end of data" then run.position
  else
    let last := run.position + (if run.reason = "invalid start byte" then 0 else run.bytes.length)
    let chunk := last / chunkSize * chunkSize
    min run.position
      (characterStart chunk (bytes.take chunk).reverse (bytes.drop chunk).head?)

/-- A text with the block that holds a forbidden character cut off. -/
def ofText (text : List Char) (fault? : Option Fault) : Stream :=
  let allowed := text.takeWhile isAllowed
  if allowed.length = text.length then ⟨text, fault?⟩
  else ⟨text.take (blockStart allowed.length), some .malformed⟩

/-- What can be read of a file, line ends as line feeds. -/
def ofBytes (bytes : ByteArray) : Stream :=
  match String.fromUTF8? bytes with
  | some s => ofText (Text.foldLineEnds s.toList) none
  | none =>
      match Text.Utf8.firstBroken? 0 bytes.toList with
      | none => ⟨[], some .malformed⟩
      | some run =>
          let start := pieceStart bytes.toList run
          let text := Text.foldLineEnds (Text.Utf8.decodeList (bytes.toList.take start))
          ofText (text.take (blockStart text.length))
            (some (.notText { run with position := run.position - start }))

end Stream

end AsmNavigator.Yaml
