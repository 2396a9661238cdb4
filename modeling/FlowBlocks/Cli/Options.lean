import FlowBlocks.Decimal.Integer
import FlowBlocks.Text.Quoted
/-!
The options of a command line, the flags that set them, and the commands with the flags each of them takes.
-/
namespace FlowBlocks.Cli

/-- What flags have set. An option that overrides a setting is absent unless its flag was given. -/
structure Options where
  config : Bytes := []
  color : Option Bytes := none
  quiet : Bool := false
  timings : Bool := false
  trace : Option Bytes := none
  traceLevel : Option Bytes := none
  traceMode : Option Bytes := none
  traceFormat : Bytes := bytes "auto"
  ringSize : Option Int := none
  cpuProfile : Bytes := []
  memProfile : Bytes := []
  runtimeTrace : Bytes := []
  graph : Option Bytes := none
  leaders : Option Bytes := none
  jobs : Option Int := none
  cache : Option Bool := none
  noUnits : Bool := false
  width : Int := 0
  summary : Bool := false
  output : Option Bytes := none
  hash : Bool := false
  date : Bool := false
  full : Bool := false
  format : Bytes := bytes "pretty"
  help : Bool := false
  release : Bool := false
deriving DecidableEq, Repr

/-- A flag. `implied` is the value of a flag that is given without one; a flag that has none must be given
a value. Setting it fails with the reason why a value is no good. -/
structure Flag where
  name : String
  short : Option Char := none
  implied : Option String := none
  set : Options → Bytes → Except Bytes Options

namespace Flag

def text (name : String) (put : Options → Bytes → Options) : Flag :=
  { name, set := fun o v => .ok (put o v) }

def truths : List (String × Bool) :=
  [("1", true), ("t", true), ("T", true), ("true", true), ("TRUE", true), ("True", true),
    ("0", false), ("f", false), ("F", false), ("false", false), ("FALSE", false), ("False", false)]

/-- A flag that is on when given without a value. -/
def switch (name : String) (put : Options → Bool → Options) : Flag :=
  { name, implied := some "true"
    set := fun o v => match truths.find? fun (t, _) => bytes t == v with
      | some (_, b) => .ok (put o b)
      | none => .error (bytes "strconv.ParseBool: parsing " ++ quoted v ++ bytes ": invalid syntax") }

def int (name : String) (put : Options → Int → Options) : Flag :=
  { name
    set := fun o v =>
      let because := fun (why : String) =>
        .error (bytes "strconv.ParseInt: parsing " ++ quoted v ++ bytes ": " ++ bytes why)
      match Decimal.readInteger v with
      | .ok n => .ok (put o n)
      | .error .form => because "invalid syntax"
      | .error .range => because "value out of range" }

def withShort (f : Flag) (c : Char) : Flag := { f with short := some c }

def common : List Flag :=
  [text "config" fun o v => { o with config := v },
    text "color" fun o v => { o with color := some v },
    switch "quiet" fun o b => { o with quiet := b },
    switch "timings" fun o b => { o with timings := b },
    text "trace" fun o v => { o with trace := some v },
    text "trace-level" fun o v => { o with traceLevel := some v },
    text "trace-mode" fun o v => { o with traceMode := some v },
    text "trace-format" fun o v => { o with traceFormat := v },
    int "trace-ring-size" fun o n => { o with ringSize := some n },
    text "cpu-profile" fun o v => { o with cpuProfile := v },
    text "mem-profile" fun o v => { o with memProfile := v },
    text "runtime-trace" fun o v => { o with runtimeTrace := v }]

def help : Flag := (switch "help" fun o b => { o with help := b }).withShort 'h'

/-- The flag that asks for the version where no command is given. -/
def release : Flag := (switch "version" fun o b => { o with release := b }).withShort 'v'

/-- Flags of the commands that build graphs. -/
def build : List Flag :=
  [text "graph" fun o v => { o with graph := some v },
    text "leaders" fun o v => { o with leaders := some v },
    (int "jobs" fun o n => { o with jobs := some n }).withShort 'j']

def cache : Flag := switch "cache" fun o b => { o with cache := some b }

end Flag

inductive Command
  | blocks | check | export_ | version
deriving DecidableEq, Repr

namespace Command

def name : Command → String
  | .blocks => "blocks"
  | .check => "check"
  | .export_ => "export"
  | .version => "version"

def purpose : Command → String
  | .blocks => "Print the big blocks of every body in the given listings"
  | .check => "Construct and verify the block graphs of the given listings"
  | .export_ => "Write the block-graph snapshots of a listing as msgpack"
  | .version => "Show bbg build information"

def all : List Command := [.blocks, .check, .export_, .version]

def ofName? (word : Bytes) : Option Command := all.find? fun c => bytes c.name == word

def ownFlags : Command → List Flag
  | .blocks =>
    Flag.build ++ [Flag.cache, Flag.switch "no-units" fun o b => { o with noUnits := b },
      Flag.int "width" fun o n => { o with width := n },
      Flag.switch "summary" fun o b => { o with summary := b }]
  | .check => Flag.build
  | .export_ =>
    Flag.build ++
      [Flag.cache, (Flag.text "output" fun o v => { o with output := some v }).withShort 'o']
  | .version =>
    [Flag.switch "hash" fun o b => { o with hash := b },
      Flag.switch "date" fun o b => { o with date := b },
      Flag.switch "full" fun o b => { o with full := b },
      Flag.text "format" fun o v => { o with format := v }]

def flags (c : Command) : List Flag := Flag.common ++ c.ownFlags ++ [Flag.help]

end Command

end FlowBlocks.Cli
