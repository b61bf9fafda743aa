import Acquisition.Tool.Invocation
import Acquisition.Text.Columns
/-! The USB to I2C bridge from the command line; no USB HID device is attached here, so the lists
are empty and opening fails. -/
namespace Acquisition.Tool

def listing (text : String) : String := Text.Columns.format ⟨24, 1⟩ text

def bridgeList (inv : Invocation) : Act Unit :=
  if inv.bool "all" then Act.print (listing "PATH\tSERIAL\tVENDOR\tPRODUCT ID\tMANUFACTURER\tPRODUCT\n")
  else Act.print (listing "INDEX\tPATH\tSERIAL\tPRODUCT\n")

def bridgeAccess (_inv : Invocation) : Act Unit :=
  Act.exit ("could not open adapter: " ++ bridgeMissing.message)

end Acquisition.Tool
