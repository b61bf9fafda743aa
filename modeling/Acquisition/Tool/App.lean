import Acquisition.Cli.Dispatch
/-! The command tree of the acquisition board's command-line tool: recording, board settings, the
identification memory, the strain-gauge register, the port expander and the USB to I2C bridge. -/
namespace Acquisition.Tool

open Cli

/-- What a command of the tool does. -/
inductive Verb where
  | record
  | settingsGet
  | settingsSet
  | settingsShell
  | memoryHeader
  | memoryRead
  | memoryWrite
  | registerSet
  | registerGet
  | expanderStatus
  | expanderRead
  | expanderPull
  | bridgeList
  | bridgeStatus
  | bridgeRelease
  deriving DecidableEq, Repr

def boolFlag (name usage : String) (aliases : List String := []) : Flag :=
  { names := name :: aliases, usage, default := .bool false }

def stringFlag (name usage : String) (value : String := "") : Flag :=
  { names := [name], usage, default := .string value }

def intFlag (name usage : String) (value : Int := 0) : Flag :=
  { names := [name], usage, default := .int value }

def uintFlag (name usage : String) (value : Nat := 0) : Flag :=
  { names := [name], usage, default := .uint value }

def recordCommand : Command Verb :=
  { name := "record", usage := "acquire samples and route bursts to the configured sinks",
    flags := [
      intFlag "rate" "delivered sample rate (1..48000)",
      intFlag "burst" "samples per channel per delivery" (-1),
      stringFlag "mode" "primary, norm or digital",
      { names := ["duration"], usage := "stop after this long (0 runs until interrupted)", default := .duration 0 },
      stringFlag "wav" "also record into this wav file",
      boolFlag "quiet" "disable the console sink" ["q"],
      stringFlag "metrics" "serve prometheus metrics on this address"],
    action := some .record }

def settingsCommand : Command Verb :=
  { name := "settings", usage := "read and write board settings",
    subcommands := [
      { name := "get", usage := "read settings named by the object keys, e.g. '\x7b\"Mode\":null\x7d'",
        argsUsage := "<request>", action := some .settingsGet },
      { name := "set", usage := "write settings, e.g. '\x7b\"Mode\":1\x7d'",
        argsUsage := "<request>", action := some .settingsSet },
      { name := "shell", usage := "interactive settings session ('get <request>', 'set <request>', 'exit')",
        action := some .settingsShell }] }

/-- Where the identification memory is reached. -/
def sourceFlags : List Flag := [
  stringFlag "source" "i2c, mcp2221 or spi" "i2c",
  stringFlag "bus" "periph i2c bus name (i2c source)" "1",
  uintFlag "address" "i2c address of the memory" 0x50,
  intFlag "adapter" "mcp2221 index; -1 picks the only one" (-1),
  stringFlag "platform" "gobot platform for the spi source: raspi or nanopi" "raspi",
  intFlag "spi-bus" "spi bus number",
  intFlag "spi-chip" "spi chip select" 1]

def memoryCommand : Command Verb :=
  { name := "eeprom", aliases := ["mem"], usage := "board identification memory",
    subcommands := [
      { name := "header", usage := "read and verify the HAT eeprom header", flags := sourceFlags,
        action := some .memoryHeader },
      { name := "read", usage := "dump eeprom memory",
        flags := [uintFlag "at" "memory address to read", intFlag "length" "number of bytes to read" 64] ++
          sourceFlags,
        action := some .memoryRead },
      { name := "write", usage := "write bytes into the 25AA1024 spi eeprom",
        flags := [{ uintFlag "at" "memory address to write" with required := true },
          { stringFlag "data" "hex bytes to write (e.g. '01FF23')" with required := true },
          boolFlag "yes" "do not ask for confirmation" ["y"]] ++ sourceFlags,
        action := some .memoryWrite }] }

/-- The lines that drive the shift register. -/
def lineFlags : List Flag := [
  stringFlag "lines" "host or expander" "host",
  stringFlag "data" "host data line" "GPIO5",
  stringFlag "clock" "host clock line" "GPIO6",
  stringFlag "strobe" "host strobe line" "GPIO13",
  stringFlag "expander-bus" "i2c bus name, or 'mcp2221'" "1",
  uintFlag "expander-address" "" 0x21]

def registerCommand : Command Verb :=
  { name := "shiftreg", usage := "drive the DMS control shift register",
    subcommands := [
      { name := "set", usage := "set register outputs, e.g. 'iepe1=1 dac=0'", argsUsage := "<name>=<0|1>...",
        flags := boolFlag "reset" "start from all outputs low instead of the last written value" :: lineFlags,
        action := some .registerSet },
      { name := "get", usage := "show the last value written to the register", action := some .registerGet }] }

def expanderCommand : Command Verb :=
  { name := "expander", usage := "MCP23017 expander carrying the shift register lines",
    flags := [stringFlag "bus" "i2c bus name, or 'mcp2221'" "1", uintFlag "address" "" 0x21],
    subcommands := [
      { name := "status", usage := "show the IOCON register", action := some .expanderStatus },
      { name := "read", usage := "read both ports as inputs", action := some .expanderRead },
      { name := "pull", usage := "set pull-ups of a bank", argsUsage := "<A|B> <hex mask>",
        action := some .expanderPull }] }

def bridgeCommand : Command Verb :=
  { name := "adapter", usage := "MCP2221 USB to I2C bridge utilities",
    flags := [intFlag "index" "bridge index from 'adapter ls'; -1 picks the only one" (-1)],
    subcommands := [
      { name := "ls", usage := "list attached bridges", flags := [boolFlag "all" "list every HID device"],
        action := some .bridgeList },
      { name := "status", usage := "show the bridge status", action := some .bridgeStatus },
      { name := "release", usage := "cancel a stuck I2C transfer", action := some .bridgeRelease }] }

/-- The tool's command line. -/
def app : App Verb :=
  { name := "timeswipe", usage := "TimeSwipe acquisition board cli", version := "dev--",
    flags := [
      boolFlag "verbose" "enable verbose logging and wire dumps",
      { names := ["config", "c"], usage := "yaml configuration file", default := .string "",
        envVar := some "TIMESWIPE_CONFIG" },
      boolFlag "simulate" "use the built-in signal generator and an in-memory board"],
    commands := [recordCommand, settingsCommand, memoryCommand, registerCommand, expanderCommand,
      bridgeCommand] }

end Acquisition.Tool
