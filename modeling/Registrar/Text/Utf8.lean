/-!
# UTF-8

The length of a text in bytes, its bytes, and the texts that bytes stand for. Only the shortest
form of a code point is read, and no surrogate.
-/
namespace Registrar.Text

/-- The number of bytes of the text. -/
def utf8Length (s : List Char) : Nat := (s.map Char.utf8Size).foldr (· + ·) 0

@[simp] theorem utf8Length_nil : utf8Length [] = 0 := rfl

@[simp] theorem utf8Length_cons (c : Char) (s : List Char) :
    utf8Length (c :: s) = c.utf8Size + utf8Length s := by simp [utf8Length]

theorem utf8Length_append (s t : List Char) :
    utf8Length (s ++ t) = utf8Length s + utf8Length t := by
  induction s with
  | nil => simp
  | cons c rest ih => simp [ih, Nat.add_assoc]

/-- The bytes of one character. -/
def encodeChar (c : Char) : List Nat :=
  let n := c.toNat
  if n < 0x80 then [n]
  else if n < 0x800 then [0xC0 + n / 0x40, 0x80 + n % 0x40]
  else if n < 0x10000 then [0xE0 + n / 0x1000, 0x80 + n / 0x40 % 0x40, 0x80 + n % 0x40]
  else [0xF0 + n / 0x40000, 0x80 + n / 0x1000 % 0x40, 0x80 + n / 0x40 % 0x40, 0x80 + n % 0x40]

/-- The bytes of the text. -/
def encodeUtf8 (s : List Char) : List Nat := s.flatMap encodeChar

/-- Whether a byte continues a character. -/
def isTail (b : Nat) : Bool := 0x80 ≤ b && b ≤ 0xBF

/-- The character at the start of some bytes, and the bytes after it. -/
def decodeChar? : List Nat → Option (Char × List Nat)
  | [] => none
  | a :: rest =>
    if a < 0x80 then some (Char.ofNat a, rest)
    else match rest with
      | b :: rest =>
        if !isTail b then none
        else if 0xC2 ≤ a ∧ a ≤ 0xDF then
          some (Char.ofNat ((a - 0xC0) * 0x40 + (b - 0x80)), rest)
        else match rest with
          | c :: rest =>
            if !isTail c then none
            else if 0xE0 ≤ a ∧ a ≤ 0xEF then
              let n := (a - 0xE0) * 0x1000 + (b - 0x80) * 0x40 + (c - 0x80)
              if n < 0x800 ∨ (0xD800 ≤ n ∧ n ≤ 0xDFFF) then none else some (Char.ofNat n, rest)
            else match rest with
              | d :: rest =>
                let n := (a - 0xF0) * 0x40000 + (b - 0x80) * 0x1000 + (c - 0x80) * 0x40 + (d - 0x80)
                if !isTail d ∨ a < 0xF0 ∨ 0xF4 < a ∨ n < 0x10000 ∨ 0x10FFFF < n then none
                else some (Char.ofNat n, rest)
              | [] => none
          | [] => none
      | [] => none

/-- The text that some bytes stand for; `fuel` bounds the number of characters. -/
def decodeFrom? : Nat → List Nat → Option (List Char)
  | _, [] => some []
  | 0, _ :: _ => none
  | fuel + 1, bytes => do
    let (c, rest) ← decodeChar? bytes
    return c :: (← decodeFrom? fuel rest)

/-- The text that some bytes stand for. -/
def decodeUtf8? (bytes : List Nat) : Option (List Char) := decodeFrom? bytes.length bytes

end Registrar.Text
