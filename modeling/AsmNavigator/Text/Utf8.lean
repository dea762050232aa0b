/-!
# Reading UTF-8

Bytes that form no character become the replacement character, one for each maximal
run that begins a character and cannot be continued. Strict reading reports the first
such run instead.
-/

namespace AsmNavigator.Text.Utf8

/-- How many bytes continue a lead byte, and the range of the first of them. -/
def continuation? (lead : UInt8) : Option (Nat × UInt8 × UInt8) :=
  if 0xC2 ≤ lead && lead ≤ 0xDF then some (1, 0x80, 0xBF)
  else if lead == 0xE0 then some (2, 0xA0, 0xBF)
  else if lead == 0xED then some (2, 0x80, 0x9F)
  else if 0xE1 ≤ lead && lead ≤ 0xEF then some (2, 0x80, 0xBF)
  else if lead == 0xF0 then some (3, 0x90, 0xBF)
  else if 0xF1 ≤ lead && lead ≤ 0xF3 then some (3, 0x80, 0xBF)
  else if lead == 0xF4 then some (3, 0x80, 0x8F)
  else none

/-- Takes up to `count` continuation bytes: the code point so far, the number of bytes
that are missing, and the bytes that follow. -/
def takeTail : Nat → UInt8 → UInt8 → Nat → List UInt8 → Nat × Nat × List UInt8
  | 0, _, _, code, bytes => (code, 0, bytes)
  | count + 1, _, _, code, [] => (code, count + 1, [])
  | count + 1, low, high, code, b :: bytes =>
      if low ≤ b && b ≤ high then
        takeTail count 0x80 0xBF (64 * code + (b.toNat - 0x80)) bytes
      else (code, count + 1, b :: bytes)

theorem takeTail_length_le (count : Nat) (low high : UInt8) (code : Nat) (bytes : List UInt8) :
    (takeTail count low high code bytes).2.2.length ≤ bytes.length := by
  induction count generalizing low high code bytes with
  | zero => simp [takeTail]
  | succ count ih =>
      cases bytes with
      | nil => simp [takeTail]
      | cons b bytes =>
          unfold takeTail
          split
          · exact Nat.le_succ_of_le (ih ..)
          · simp

def leadBits (lead : UInt8) (count : Nat) : Nat :=
  lead.toNat % Nat.pow 2 (6 - count)

/-- One step: the character that the bytes begin with, or the length of the run that is
none and whether it ends with the text, and the bytes that follow. -/
inductive Step where
  | char (c : Char) (rest : List UInt8)
  | broken (length : Nat) (reason : String) (rest : List UInt8)

def Step.rest : Step → List UInt8
  | .char _ rest => rest
  | .broken _ _ rest => rest

def step (lead : UInt8) (bytes : List UInt8) : Step :=
  if lead < 0x80 then .char (Char.ofNat lead.toNat) bytes
  else
    match continuation? lead with
    | none => .broken 1 "invalid start byte" bytes
    | some (count, low, high) =>
        match takeTail count low high (leadBits lead count) bytes with
        | (code, 0, rest) => .char (Char.ofNat code) rest
        | (_, missing, []) => .broken (1 + count - missing) "unexpected end of data" []
        | (_, missing, rest) => .broken (1 + count - missing) "invalid continuation byte" rest

theorem step_rest_length_le (lead : UInt8) (bytes : List UInt8) :
    (step lead bytes).rest.length ≤ bytes.length := by
  unfold step
  split
  · simp [Step.rest]
  · split
    · simp [Step.rest]
    · rename_i count low high _
      have h := takeTail_length_le count low high (leadBits lead count) bytes
      split <;> simp_all [Step.rest]

/-- The characters of a byte sequence, each broken run as one replacement character. -/
def decodeList : List UInt8 → List Char
  | [] => []
  | lead :: bytes =>
      let character := match step lead bytes with
        | .char c _ => c
        | .broken .. => '\uFFFD'
      character :: decodeList (step lead bytes).rest
termination_by bytes => bytes.length
decreasing_by
  have := step_rest_length_le lead bytes
  simp only [List.length_cons]
  omega

def decode (bytes : ByteArray) : String :=
  match String.fromUTF8? bytes with
  | some s => s
  | none => String.ofList (decodeList bytes.toList)

/-- A run of bytes that is no character. -/
structure BrokenRun where
  position : Nat
  bytes : List UInt8
  reason : String
  deriving DecidableEq

def firstBroken? (position : Nat) : List UInt8 → Option BrokenRun
  | [] => none
  | lead :: bytes =>
      match h : step lead bytes with
      | .char _ rest => firstBroken? (position + 1 + (bytes.length - rest.length)) rest
      | .broken length reason _ => some ⟨position, (lead :: bytes).take length, reason⟩
termination_by bytes => bytes.length
decreasing_by
  have := step_rest_length_le lead bytes
  simp only [h, Step.rest] at this
  simp only [List.length_cons]
  omega

end AsmNavigator.Text.Utf8
