import Acquisition.Tool.App
import Acquisition.Tool.Station
import Acquisition.Config.File
import Acquisition.Text.Blank
/-! What every command of the tool starts from: its command line and the configuration it names, or
the defaults. -/
namespace Acquisition.Tool

abbrev Invocation := Cli.Context Verb

/-- The configuration named by `--config`, over the defaults. -/
def Invocation.config (inv : Invocation) : Act Config := do
  let path := inv.string "config"
  if path.isEmpty then return {}
  match Config.load (← get).files path with
  | .ok c => pure c
  | .error f => Act.exit ("could not load config: " ++ f.message)

def deviceLock (c : Config) : PidFile := PidFile.new c.lockDirectory c.device

def bridgeMissing : Fault := .of .notFound "MCP2221 device not found"

def hexWithPrefix (n : Nat) (width : Nat := 1) : String := "0x" ++ Text.hexPadded width n

def upperHexWithPrefix (n : Nat) : String := "0X" ++ (Text.hexPadded 1 n).toUpper

/-- Bytes written as hexadecimal text, two digits each, or the first offending
byte, or the odd length. -/
def decodeHex (s : String) : Except String ByteArray :=
  let bytes := s.toUTF8.toList
  let value (b : UInt8) : Option Nat :=
    if 48 ≤ b && b ≤ 57 then some (b.toNat - 48)
    else if 97 ≤ b && b ≤ 102 then some (b.toNat - 87)
    else if 65 ≤ b && b ≤ 70 then some (b.toNat - 55) else none
  let invalid (b : UInt8) : String :=
    let c := Char.ofNat b.toNat
    "encoding/hex: invalid byte: U+" ++ (Text.hexPadded 4 b.toNat).toUpper ++
      (if Text.isGraphic c then " '" ++ c.toString ++ "'" else "")
  let rec go : List UInt8 → Except String (List UInt8)
    | a :: b :: rest =>
      match value a, value b with
      | some x, some y => do pure ((x * 16 + y).toUInt8 :: (← go rest))
      | none, _ => .error (invalid a)
      | _, none => .error (invalid b)
    | [a] => if (value a).isNone then .error (invalid a) else .error "encoding/hex: odd length hex string"
    | [] => .ok []
  (go bytes).map fun bs => ⟨bs.toArray⟩

end Acquisition.Tool
