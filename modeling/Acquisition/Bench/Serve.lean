import Acquisition.Bench.Buffers
import Acquisition.Bench.Reading
import Acquisition.Bench.Resampling
import Acquisition.Bench.Registers
import Acquisition.Bench.Memories
import Acquisition.Bench.Expanders
import Acquisition.Bench.Bridges
import Acquisition.Bench.Boards
import Acquisition.Bench.Samplers
import Acquisition.Bench.Sessions
import Acquisition.Bench.Telemetry
import Acquisition.Bench.Sinks
import Acquisition.Bench.Configs
import Acquisition.Bench.Drivers
import Acquisition.Bench.Hosts
import Acquisition.Bench.Terminal
import Acquisition.Bench.Workshop
import Acquisition.Text.Json.Reader
/-! The bench's entry: one request line in, one answer line out, dispatched on the member `op`. -/
namespace Acquisition.Bench

def respond (label : Cause → String) (request : Json) : Run Json := do
  match ← string request "op" with
  | "queue" => ring request
  | "mode_parse" => modeParse label request
  | "mode_string" => modeString request
  | "batch_concat" => batchConcat request
  | "batch_ops" => batchOps request
  | "reader" => reader label request
  | "resample" => resampling label request
  | "shiftreg" => registers label request
  | "dms_parse" => dmsParse label request
  | "dms_name" => dmsName request
  | "eeprom_parse" => eepromParse label request
  | "eeprom_i2c" => eepromI2c label request
  | "eeprom_spi" => eepromSpi label request
  | "mcp23017" => expander label request
  | "mcp2221" => bridge label request
  | "adapter_open" => adapterOpen label request
  | "board_events" => boardEvents label request
  | "board_memory" => boardMemory label request
  | "board_link" => boardLink label request
  | "spi_sampler" => streamSampler label request
  | "simulator" => sineSource label request
  | "registry" => registry label request
  | "pidfile" => lockFiles label request
  | "metrics" => telemetry label request
  | "summarize" => summarize request
  | "console" => console request
  | "wav" => wave label request
  | "fanout" => fanout label request
  | "mqtt" => mqtt label request
  | "config" => config label request
  | "driver" => drivers label request
  | "host_pin" => hostPin label request
  | "host_open" => hostOpen label request
  | "i2c_generic" => i2cGeneric label request
  | "board_spi" => boardSpi label request
  | "cli" => terminal request
  | "dev" => workshop request
  | other => refuse ("unknown op " ++ Text.quote other)

def serve (label : Cause → String) (line : String) : String :=
  let answer := match Json.read line with
    | .ok request => render (respond label request)
    | .error e => render (refuse ("invalid request: " ++ e.message))
  answer.write false

end Acquisition.Bench
