/-!
What is read off a text character by character: white space in the sense of the Unicode property
`White_Space`, physical lines, and natural numbers of 64 bits. A set of characters is given by
ranges of code points, as the properties of Unicode are.
-/
namespace ScriptShell.Text

/-- Ranges of code points, both ends included. -/
abbrev CodePoints := List (Nat × Nat)

/-- Whether a character is in one of the ranges. -/
def CodePoints.has (ranges : CodePoints) (c : Char) : Bool :=
  ranges.any fun (first, last) => first ≤ c.toNat && c.toNat ≤ last

/-- The 25 characters of the property `White_Space`. -/
def isBlank (c : Char) : Bool :=
  let n := c.toNat
  (0x09 ≤ n && n ≤ 0x0D) || n == 0x20 || n == 0x85 || n == 0xA0 || n == 0x1680 ||
    (0x2000 ≤ n && n ≤ 0x200A) || n == 0x2028 || n == 0x2029 || n == 0x202F || n == 0x205F ||
    n == 0x3000

def trimEnd (s : String) : String :=
  String.ofList (s.toList.reverse.dropWhile isBlank).reverse

/-- A text without the blanks at either end. -/
def trim (s : String) : String :=
  String.ofList (((s.toList.dropWhile isBlank).reverse.dropWhile isBlank).reverse)

/-- Cuts a sequence after each element that ends a piece. Only the last piece may lack such an
element at its end. -/
def splitAfter {α : Type} (isEnd : α → Bool) : List α → List (List α)
  | [] => []
  | a :: rest =>
    if isEnd a then [a] :: splitAfter isEnd rest
    else match splitAfter isEnd rest with
      | [] => [[a]]
      | piece :: more => (a :: piece) :: more

/-- Nothing is lost: the pieces make up the sequence again. -/
theorem flatten_splitAfter {α : Type} (isEnd : α → Bool) (as : List α) :
    (splitAfter isEnd as).flatten = as := by
  induction as with
  | nil => rfl
  | cons a rest ih =>
    rw [splitAfter]
    split
    · simp [ih]
    · split <;> simp_all

/-- The lines of a text, each with its newline. A carriage return alone ends nothing. -/
def lines (s : String) : List String :=
  (splitAfter (· == '\n') s.toList).map String.ofList

/-- Why a text is not a 64-bit natural number. -/
inductive NaturalFault where
  | empty
  /-- A character that is no digit, or a sign with nothing after it. -/
  | invalidDigit
  | tooLarge
deriving DecidableEq, Repr

def NaturalFault.message : NaturalFault → String
  | .empty => "cannot parse integer from empty string"
  | .invalidDigit => "invalid digit found in string"
  | .tooLarge => "number too large to fit in target type"

/-- The greatest 64-bit natural number. -/
def maxNatural : Nat := 18446744073709551615

def digit? (c : Char) : Option Nat :=
  if c.isDigit then some (c.toNat - '0'.toNat) else none

/-- Appends digits to the value read so far. At each character a wrong digit is noticed before the
value is found too large. -/
def readDigits (value : Nat) : List Char → Except NaturalFault Nat
  | [] => .ok value
  | c :: rest =>
    match digit? c with
    | none => .error .invalidDigit
    | some d =>
      if value * 10 + d ≤ maxNatural then readDigits (value * 10 + d) rest
      else .error .tooLarge

/-- The 64-bit natural number that a text writes: digits only, perhaps with a plus sign before
them. -/
def readNatural (s : String) : Except NaturalFault Nat :=
  match s.toList with
  | [] => .error .empty
  | ['+'] => .error .invalidDigit
  | '+' :: rest => readDigits 0 rest
  | cs => readDigits 0 cs

end ScriptShell.Text
