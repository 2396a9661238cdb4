import FlowBlocks.Cli.Session
import FlowBlocks.Cli.Tally
import FlowBlocks.Release
/-!
The commands, and a whole run of the program: from its arguments to what it prints, what it leaves on the
disk, and whether it fails.
-/
namespace FlowBlocks.Cli

/-- Fails if any body failed. -/
def settle (failed total : Nat) : Act Unit :=
  if failed > 0 then throw (.failures failed total) else pure ()

def printSummary (s : Session) (rows : List Row) : Act Unit :=
  Act.print (Table.print { colored := s.color } rows {}).2.text

/-- Prints the blocks of every body. The output is taken for no terminal, whose width would otherwise be the
limit of unit texts where none is given. -/
def blocks (o : Options) (files : List Bytes) (s : Session) : Act Unit := do
  let results ← s.build false files
  Act.phase (bytes "render")
  let tally := Tally.ofFiles ⟨s.color, !o.noUnits, o.width⟩ s.quiet results
  Act.print tally.out
  Act.complain tally.err
  if o.summary then printSummary s (summaryRows results)
  settle tally.failed tally.total

/-- Builds and verifies every body, and prints a row for each. A quiet check prints only failures. The width
of a terminal, half of which would limit the status column, is not known here: statuses are printed whole. -/
def check (files : List Bytes) (s : Session) : Act Unit := do
  let results ← s.build true files
  Act.phase (bytes "render")
  let rows := summaryRows results
  let failed := (rows.filter Row.failed).length
  if !s.quiet || failed > 0 then printSummary s rows
  settle failed rows.length

/-- Writes a file by way of a temporary one beside it. Where that fails the temporary one goes again. -/
def replaceFile (path content : Bytes) : Act Unit := do
  let (temp, d) ← Act.ofExcept .temporary
    ((← Act.disk).writeTemp (Path.directory path) (bytes ".bbg-export-") content)
  match d.rename temp path with
  | .ok d => Act.setDisk d
  | .error e =>
    Act.setDisk (d.removeFile temp)
    throw (.output e)

def writeRecord (out : Bytes) (s : Session) (r : FileResult) : Act Unit := do
  let now := Int64.ofInt (← get).recorder.host.now.sec
  let content := ((Batch.record s.options r).stamped now).encode
  if out = bytes "-" then Act.print content else replaceFile out content

/-- Writes the outlines of one listing as a record. -/
def export_ (o : Options) (files : List Bytes) (s : Session) : Act Unit := do
  let out := o.output.getD []
  match ← s.build false files with
  | [] => return
  | r :: _ =>
    match r.failure with
    | some e => throw (.listing e)
    | none =>
      Act.phase (bytes "export")
      writeRecord out s r
      let tally := Tally.ofFailures r
      Act.complain tally.err
      settle tally.failed tally.total
      if !s.quiet && out != bytes "-" then
        Act.complain (bytes "wrote " ++ decimal r.bodies.length ++ bytes " bodies to " ++ out ++ [10])

def version (release : Release) (o : Options) : Act Unit :=
  let commit := o.hash || o.full
  let date := o.date || o.full
  if isNamed "json" o.format then Act.print (release.json commit date)
  else if isNamed "pretty" o.format then
    Act.print (release.text (Session.colored (o.color.getD (bytes "auto"))) commit date)
  else throw (.format o.format)

def usage : Bytes :=
  let lines :=
    ["bbg partitions instruction listings into big blocks: maximal runs of",
      "instructions that may contain internal branches, entered only at the top.", "", "Usage:",
      "  bbg COMMAND [FLAG...] [FILE...]", "", "Commands:"] ++
    Command.all.map fun c => "  " ++ c.name ++ "".pushn ' ' (9 - c.name.length) ++ c.purpose
  lines.flatMap fun l => bytes l ++ [10]

def serve (release : Release) (env : Environment) : Request → Act Unit
  | .help => Act.print usage
  | .release => Act.print (bytes "bbg version " ++ release.version ++ [10])
  | .run .blocks o files => Session.within env o (blocks o files)
  | .run .check o files => Session.within env o (check files)
  | .run .export_ o files => Session.within env o (export_ o files)
  | .run .version o _ => version release o

def errorText (e : CommandError) : Bytes :=
  bytes "Error: " ++ e.message ++ [10] ++
    match e with
    | .usage (.unknownCommand _ _) => bytes "Run 'bbg --help' for usage.\n"
    | _ => []

/-- What came of a run: the two texts it printed, the host afterwards, and the error it ended with. -/
structure Outcome where
  out : Bytes
  err : Bytes
  host : Trace.Host
  error : Option CommandError

def run (release : Release) (env : Environment) (args : List Bytes) (host : Trace.Host) : Outcome :=
  let act : Act Unit := do
    serve release env (← Act.ofExcept .usage (request (!release.version.isEmpty) args))
  let (r, c) := act.run.run { recorder := { host } }
  match r with
  | .ok () => ⟨c.out, c.err, c.recorder.host, none⟩
  | .error e => ⟨c.out, c.err ++ errorText e, c.recorder.host, some e⟩

end FlowBlocks.Cli
