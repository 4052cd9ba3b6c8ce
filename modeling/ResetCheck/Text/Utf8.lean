/-!
# Reading UTF-8

`decode` splits bytes into characters, `none` standing for a piece that is no character: the
longest beginning of a character that does not go on, or one byte that cannot begin any.
`decodeLossy` shows each such piece as U+FFFD, `decode?` refuses a text with one.
-/

namespace ResetCheck.Text

def tailBits (b : UInt8) : Nat :=
  b.toNat % 0x40

def isTail (b : UInt8) : Bool :=
  0x80 ≤ b.toNat && b.toNat ≤ 0xBF

/-- Whether `b` may follow the first byte `a` of a character of three bytes. -/
def isSecondOfThree (a b : UInt8) : Bool :=
  (if a.toNat == 0xE0 then 0xA0 else 0x80) ≤ b.toNat
    && b.toNat ≤ (if a.toNat == 0xED then 0x9F else 0xBF)

/-- Whether `b` may follow the first byte `a` of a character of four bytes. -/
def isSecondOfFour (a b : UInt8) : Bool :=
  (if a.toNat == 0xF0 then 0x90 else 0x80) ≤ b.toNat
    && b.toNat ≤ (if a.toNat == 0xF4 then 0x8F else 0xBF)

def decode : List UInt8 → List (Option Char)
  | [] => []
  | a :: rest =>
    if a.toNat < 0x80 then some (Char.ofNat a.toNat) :: decode rest
    else if 0xC2 ≤ a.toNat && a.toNat ≤ 0xDF then
      match rest with
      | b :: rest₁ =>
        if isTail b then some (Char.ofNat (a.toNat % 0x20 * 0x40 + tailBits b)) :: decode rest₁
        else none :: decode (b :: rest₁)
      | [] => [none]
    else if 0xE0 ≤ a.toNat && a.toNat ≤ 0xEF then
      match rest with
      | b :: rest₁ =>
        if isSecondOfThree a b then
          match rest₁ with
          | c :: rest₂ =>
            if isTail c then
              some (Char.ofNat (a.toNat % 0x10 * 0x1000 + tailBits b * 0x40 + tailBits c))
                :: decode rest₂
            else none :: decode (c :: rest₂)
          | [] => [none]
        else none :: decode (b :: rest₁)
      | [] => [none]
    else if 0xF0 ≤ a.toNat && a.toNat ≤ 0xF4 then
      match rest with
      | b :: rest₁ =>
        if isSecondOfFour a b then
          match rest₁ with
          | c :: rest₂ =>
            if isTail c then
              match rest₂ with
              | d :: rest₃ =>
                if isTail d then
                  some (Char.ofNat (a.toNat % 0x8 * 0x40000 + tailBits b * 0x1000
                    + tailBits c * 0x40 + tailBits d)) :: decode rest₃
                else none :: decode (d :: rest₃)
              | [] => [none]
            else none :: decode (c :: rest₂)
          | [] => [none]
        else none :: decode (b :: rest₁)
      | [] => [none]
    else none :: decode rest

/-- The text of bytes, with U+FFFD for each piece that is no character. -/
def decodeLossy (bytes : List UInt8) : String :=
  String.ofList ((decode bytes).map (·.getD (Char.ofNat 0xFFFD)))

/-- The text of bytes that hold nothing but characters. -/
def decode? (bytes : List UInt8) : Option String :=
  ((decode bytes).mapM id).map String.ofList

end ResetCheck.Text
