/-! Lossy UTF-8 decoding: each well-formed sequence gives its character and each byte that starts
none gives U+FFFD, so valid UTF-8 reads back unchanged. -/
namespace Acquisition.Text

def replacement : Char := '�'

def isContinuation (b : UInt8) : Bool := b &&& 0xC0 == 0x80

def payload (b : UInt8) : Nat := (b &&& 0x3F).toNat

/-- The character a well-formed sequence at the front encodes, with the bytes it takes. -/
def leadingChar : List UInt8 → Option (Char × Nat)
  | b :: rest =>
    if b < 0x80 then some (Char.ofNat b.toNat, 1)
    else if b < 0xC2 then none
    else if b < 0xE0 then
      match rest with
      | c :: _ => if isContinuation c then some (Char.ofNat ((b &&& 0x1F).toNat * 64 + payload c), 2) else none
      | _ => none
    else if b < 0xF0 then
      match rest with
      | c :: d :: _ =>
        let lo : UInt8 := if b == 0xE0 then 0xA0 else 0x80
        let hi : UInt8 := if b == 0xED then 0x9F else 0xBF
        if lo ≤ c && c ≤ hi && isContinuation d then
          some (Char.ofNat ((b &&& 0x0F).toNat * 4096 + payload c * 64 + payload d), 3)
        else none
      | _ => none
    else if b < 0xF5 then
      match rest with
      | c :: d :: e :: _ =>
        let lo : UInt8 := if b == 0xF0 then 0x90 else 0x80
        let hi : UInt8 := if b == 0xF4 then 0x8F else 0xBF
        if lo ≤ c && c ≤ hi && isContinuation d && isContinuation e then
          some (Char.ofNat ((b &&& 0x07).toNat * 262144 + payload c * 4096 + payload d * 64 +
            payload e), 4)
        else none
      | _ => none
    else none
  | [] => none

/-- A piece of a byte sequence: a character that a well-formed sequence
encodes, or a byte that starts none. -/
inductive Piece where
  | char (c : Char)
  | stray (b : UInt8)
  deriving BEq, Inhabited

/-- The pieces of a byte sequence, in order. -/
def pieces (bs : List UInt8) : List Piece :=
  match bs with
  | [] => []
  | b :: rest =>
    match leadingChar (b :: rest) with
    | some (c, n) => .char c :: pieces ((b :: rest).drop (max n 1))
    | none => .stray b :: pieces rest
termination_by bs.length
decreasing_by
  all_goals simp only [List.length_drop, List.length_cons]
  all_goals omega

def Piece.toChar : Piece → Char
  | .char c => c
  | .stray _ => replacement

def decodeChars (bs : List UInt8) : List Char := (pieces bs).map Piece.toChar

def decodeLossy (bs : List UInt8) : String := String.ofList (decodeChars bs)

end Acquisition.Text
