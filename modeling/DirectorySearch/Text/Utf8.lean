/-!
# UTF-8

Requests and replies are bytes, everything else in the library is characters.

* `utf8Bytes` — the bytes of a text.
* `decodeStep` — the first character of some bytes, or how many of them to skip where none begins.
* **`decodeLossy`** — a text from any bytes: what is no character becomes `�`.
* `decodeStrict?` — a text from bytes that are one.

Where a sequence breaks off, the bytes that could still have begun a character are skipped together and
the byte that broke it is read anew.
-/

namespace DirectorySearch

/-- The bytes of a text. -/
def utf8Bytes (text : List Char) : List UInt8 := text.flatMap String.utf8EncodeChar

/-- What stands at the front of some bytes. -/
inductive DecodeStep where
  /-- A character that takes so many bytes. -/
  | char (c : Char) (size : Nat)
  /-- So many bytes that are no character. -/
  | invalid (size : Nat)
deriving DecidableEq, Repr

namespace DecodeStep

/-- How many bytes are used. -/
def size : DecodeStep → Nat
  | .char _ n => n
  | .invalid n => n

end DecodeStep

/-- The bytes that may follow a leading byte, as a range, and how many more come after it. -/
def continuation? (lead : Nat) : Option (Nat × Nat × Nat) :=
  if 0xc2 ≤ lead ∧ lead ≤ 0xdf then some (0x80, 0xbf, 0)
  else if lead = 0xe0 then some (0xa0, 0xbf, 1)
  else if lead = 0xed then some (0x80, 0x9f, 1)
  else if 0xe1 ≤ lead ∧ lead ≤ 0xef then some (0x80, 0xbf, 1)
  else if lead = 0xf0 then some (0x90, 0xbf, 2)
  else if 0xf1 ≤ lead ∧ lead ≤ 0xf3 then some (0x80, 0xbf, 2)
  else if lead = 0xf4 then some (0x80, 0x8f, 2)
  else none

/-- Reads so many further bytes of a character, `size` of which have been read. -/
def decodeTail (value size : Nat) : Nat → List UInt8 → DecodeStep
  | 0, _ => .char (Char.ofNat value) size
  | _ + 1, [] => .invalid size
  | n + 1, b :: rest =>
    if 0x80 ≤ b.toNat ∧ b.toNat ≤ 0xbf then
      decodeTail (value * 64 + (b.toNat - 0x80)) (size + 1) n rest
    else .invalid size

/-- What stands at the front of a leading byte and the bytes after it. -/
def decodeStep (lead : UInt8) (rest : List UInt8) : DecodeStep :=
  if lead.toNat < 0x80 then .char (Char.ofNat lead.toNat) 1
  else
    match continuation? lead.toNat, rest with
    | none, _ => .invalid 1
    | some _, [] => .invalid 1
    | some (low, high, more), b :: rest =>
      if low ≤ b.toNat ∧ b.toNat ≤ high then
        let bits := if more = 0 then lead.toNat - 0xc0
          else if more = 1 then lead.toNat - 0xe0 else lead.toNat - 0xf0
        decodeTail (bits * 64 + (b.toNat - 0x80)) 2 more rest
      else .invalid 1

/-- The steps through some bytes. -/
def decodeSteps : List UInt8 → List DecodeStep
  | [] => []
  | lead :: rest =>
    let step := decodeStep lead rest
    step :: decodeSteps (rest.drop (step.size - 1))
termination_by bytes => bytes.length
decreasing_by simp only [List.length_drop, List.length_cons]; omega

/-- **A text from any bytes.** -/
def decodeLossy (bytes : List UInt8) : List Char :=
  (decodeSteps bytes).map fun
    | .char c _ => c
    | .invalid _ => '\ufffd'

/-- A text from bytes that are one. -/
def decodeStrict? (bytes : List UInt8) : Option (List Char) :=
  (decodeSteps bytes).mapM fun
    | .char c _ => some c
    | .invalid _ => none

end DirectorySearch
