/-! Decoding padded base64 text of the standard alphabet, four characters to three bytes, with line
breaks passed over and the bits left in a cut group dropped. -/
namespace Acquisition.Text.Base64

/-- The value of a character of the alphabet. -/
def digit? (c : Char) : Option Nat :=
  if 'A' ≤ c && c ≤ 'Z' then some (c.toNat - 65)
  else if 'a' ≤ c && c ≤ 'z' then some (c.toNat - 71)
  else if '0' ≤ c && c ≤ '9' then some (c.toNat + 4)
  else if c == '+' then some 62
  else if c == '/' then some 63
  else none

def groupBytes (values : List Nat) (count : Nat) : List UInt8 :=
  let v := (values ++ [0, 0, 0, 0]).take 4 |>.foldl (fun acc d => acc * 64 + d) 0
  [(v / 65536 % 256).toUInt8, (v / 256 % 256).toUInt8, (v % 256).toUInt8].take (count - 1)

def isLineBreak (c : Char) : Bool := c == '\n' || c == '\r'

/-- Decodes the characters `cs` after the groups already read into `out`;
`group` holds the values of the group begun. -/
def decodeFrom (out : Array UInt8) (group : List Nat) : List Char → Option (Array UInt8)
  | [] => if group.isEmpty then some out else none
  | c :: rest =>
    if isLineBreak c then decodeFrom out group rest
    else match digit? c with
      | some d =>
        let group := group ++ [d]
        if group.length == 4 then decodeFrom (out ++ (groupBytes group 4).toArray) [] rest
        else decodeFrom out group rest
      | none =>
        if c != '=' then none
        else
          let after := rest.dropWhile isLineBreak
          match group.length with
          | 2 =>
            match after with
            | '=' :: more =>
              if more.all isLineBreak then some (out ++ (groupBytes group 2).toArray) else none
            | _ => none
          | 3 => if after.all isLineBreak then some (out ++ (groupBytes group 3).toArray) else none
          | _ => none

def decode? (text : String) : Option (List UInt8) := (decodeFrom #[] [] text.toList).map Array.toList

end Acquisition.Text.Base64
