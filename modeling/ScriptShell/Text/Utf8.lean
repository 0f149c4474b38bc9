/-!
Bytes read as UTF-8 text. A sequence that is not text is refused as a whole, with the place where
it breaks: the length of its longest valid beginning, and how many of the following bytes belong
together to the broken character.
-/
namespace ScriptShell.Text

/-- Where a byte sequence stops being text. -/
structure Utf8Fault where
  /-- The number of bytes before the fault, all of them text. -/
  index : Nat
  /-- The number of bytes that cannot be a character; none when the bytes end inside one. -/
  width : Option Nat
deriving DecidableEq, Repr

def Utf8Fault.message (f : Utf8Fault) : String :=
  match f.width with
  | some n => s!"invalid utf-8 sequence of {n} bytes from index {f.index}"
  | none => s!"incomplete utf-8 byte sequence from index {f.index}"

namespace Utf8

/-- What a first byte promises: how many bytes follow it, and the least and greatest value of the
first of them. The bounds keep out longer spellings, surrogates and values past the last code
point. -/
def trailers? (b : UInt8) : Option (Nat × UInt8 × UInt8) :=
  if b ≤ 0x7F then some (0, 0x80, 0xBF)
  else if b < 0xC2 then none
  else if b ≤ 0xDF then some (1, 0x80, 0xBF)
  else if b = 0xE0 then some (2, 0xA0, 0xBF)
  else if b = 0xED then some (2, 0x80, 0x9F)
  else if b ≤ 0xEF then some (2, 0x80, 0xBF)
  else if b = 0xF0 then some (3, 0x90, 0xBF)
  else if b ≤ 0xF3 then some (3, 0x80, 0xBF)
  else if b = 0xF4 then some (3, 0x80, 0x8F)
  else none

/-- What stands at the head of a byte sequence. -/
inductive Head where
  /-- A character of so many bytes. -/
  | character (width : Nat)
  /-- So many bytes that begin no character. -/
  | broken (width : Nat)
  /-- The beginning of a character, and then the end. -/
  | unfinished
deriving DecidableEq, Repr

/-- Reads the bytes still owed to a character of which `seen` bytes were read; the next one lies
between `lo` and `hi`, the later ones in the range of all trailing bytes. -/
def headAfter (seen : Nat) : Nat → UInt8 → UInt8 → List UInt8 → Head
  | 0, _, _, _ => .character seen
  | _ + 1, _, _, [] => .unfinished
  | owed + 1, lo, hi, b :: rest =>
    if lo ≤ b ∧ b ≤ hi then headAfter (seen + 1) owed 0x80 0xBF rest else .broken seen

/-- The head of a sequence that starts with the byte `b`. -/
def head (b : UInt8) (rest : List UInt8) : Head :=
  match trailers? b with
  | none => .broken 1
  | some (owed, lo, hi) => headAfter 1 owed lo hi rest

/-- The first fault, looked for from `index` on, after passing over `skip` bytes that belong to a
character already read. A sequence without a fault is one that ends before its next character. -/
def faultFrom : (skip index : Nat) → List UInt8 → Utf8Fault
  | _, index, [] => ⟨index, none⟩
  | skip + 1, index, _ :: rest => faultFrom skip (index + 1) rest
  | 0, index, b :: rest =>
    match head b rest with
    | .character width => faultFrom (width - 1) (index + 1) rest
    | .broken width => ⟨index, some width⟩
    | .unfinished => ⟨index, none⟩

/-- The text that the bytes encode, or where they stop being text. -/
def decode (bytes : ByteArray) : Except Utf8Fault String :=
  match String.fromUTF8? bytes with
  | some text => .ok text
  | none => .error (faultFrom 0 0 bytes.toList)

/-- Decoding accepts exactly the encodings, each as the text it encodes. -/
theorem decode_eq_ok_iff {bytes : ByteArray} {text : String} :
    decode bytes = .ok text ↔ text.toUTF8 = bytes := by
  unfold decode String.fromUTF8?
  constructor
  · intro h
    split at h
    · rename_i t ht
      split at ht
      · cases ht; cases h; rfl
      · cases ht
    · cases h
  · rintro rfl
    have h : text.toUTF8.IsValidUTF8 := text.isValidUTF8
    simp only [h, dite_true]
    rfl

end Utf8

end ScriptShell.Text
