import ChangeLog.Cli.Parser
import ChangeLog.Journal.Basic
/-
  The command line of the change log tool: global options for the data directory, the
  verbosity and the output format, and one subcommand for each thing the tool does. A
  command line that reads is turned into an invocation, with every default filled in.
-/

namespace ChangeLog.Cli

/-! ## The grammar -/

/-- The flag asking for help. -/
def helpArg : Arg := { id := "help", short := some 'h', long := some "help", help := "Print help", shape := .help }

/-- The flag asking for the version. -/
def versionArg : Arg :=
  { id := "version", short := some 'V', long := some "version", help := "Print version", shape := .version }

/-- The options every subcommand takes. -/
def globalArgs : List Arg :=
  [{ id := "data_dir", short := some 'd', long := some "data-dir",
     help := "Directory holding events.wal and progress.wal", shape := .option "DATA_DIR" .path,
     default := some "clog-data" },
   { id := "verbose", short := some 'v', long := some "verbose", shape := .flag },
   { id := "format", long := some "format", shape := .option "FORMAT" (.choice ["text", "json"]),
     default := some "text" }]

/-- The option choosing how a journal syncs. -/
def syncArg : Arg := { id := "sync", long := some "sync", shape := .option "SYNC" (.choice ["every-write", "os-default"]) }

/-- A subcommand: its name, what it does, and its own arguments. -/
structure Subcommand where
  name : String
  about : String
  args : List Arg

/-- The subcommands of the tool. -/
def subcommands : List Subcommand :=
  [⟨"append", "Append one event",
    [{ id := "event_type", shape := .positional "EVENT_TYPE" .text true },
     { id := "before", long := some "before", shape := .option "BEFORE" .text, default := some "" },
     { id := "after", long := some "after", shape := .option "AFTER" .text, default := some "" },
     { id := "source", long := some "source", shape := .option "SOURCE" .text, default := some "clog-cli" },
     { id := "hex", long := some "hex", help := "Treat --before and --after as hex instead of UTF-8 text",
       shape := .flag },
     syncArg]⟩,
   ⟨"get", "Show the event at an offset", [{ id := "offset", shape := .positional "OFFSET" .count true }]⟩,
   ⟨"replay", "Print an inclusive range of events",
    [{ id := "from", long := some "from", shape := .option "FROM" .count, default := some "0" },
     { id := "to", long := some "to", help := "Last offset to include; defaults to the end of the log",
       shape := .option "TO" .count }]⟩,
   ⟨"consume", "Read a consumer's unprocessed events, optionally acknowledging them",
    [{ id := "consumer", shape := .positional "CONSUMER" .text true },
     { id := "max", short := some 'n', long := some "max", shape := .option "MAX" .count, default := some "100" },
     { id := "ack", long := some "ack", help := "Acknowledge the last event printed", shape := .flag }]⟩,
   ⟨"ack", "Acknowledge a consumer's progress",
    [{ id := "consumer", shape := .positional "CONSUMER" .text true },
     { id := "offset", shape := .positional "OFFSET" .count true }]⟩,
   ⟨"progress", "Show acknowledged progress for one or all consumers",
    [{ id := "consumer", shape := .positional "CONSUMER" .text false }]⟩,
   ⟨"inspect", "Summarize the data directory", []⟩,
   ⟨"serve", "Start the HTTP server",
    [{ id := "config", short := some 'c', long := some "config",
       help := "TOML configuration file; flags override its values", shape := .option "CONFIG" .path },
     { id := "bind", long := some "bind", shape := .option "BIND" .address },
     { id := "memory", long := some "memory", help := "Keep everything in memory instead of using --data-dir",
       shape := .flag },
     syncArg,
     { id := "max_read_batch", long := some "max-read-batch", shape := .option "MAX_READ_BATCH" .count }]⟩]

/-- What the help subcommand does. -/
def helpAbout : String := "Print this message or the help of the given subcommand(s)"

/-- The level of the tool itself. -/
def topLevel : Level :=
  { name := "clog", about := "Ordered, resumable change log", args := globalArgs ++ [helpArg, versionArg],
    commands := subcommands.map (fun s => (s.name, s.about)) ++ [("help", helpAbout)],
    group := globalArgs.map (·.id) }

/-- The level of a subcommand. -/
def Subcommand.level (s : Subcommand) : Level :=
  { name := "clog " ++ s.name, about := s.about, args := s.args ++ globalArgs ++ [helpArg] }

/-- The level of the help subcommand, which only its own help shows. -/
def helpLevel : Level :=
  { name := "clog help", about := helpAbout,
    args := [{ id := "subcommand", help := "Print help for the subcommand(s)", shape := .rest "COMMAND" }] }

/-- The tool: its top level, each subcommand's level, and its version line. -/
def tool : Tool :=
  { top := topLevel,
    levels := subcommands.map (fun s => (s.name, s.level)) ++ [("help", helpLevel)],
    version := "clog 0.1.0\n" }

/-! ## Invocations -/

/-- How results are printed. -/
inductive Format where
  | text
  | json
  deriving DecidableEq, Repr

/-- What the tool is asked to do. -/
inductive Command where
  | append (eventType before after source : String) (hex : Bool) (sync : Option SyncMode)
  | get (offset : Nat)
  | replay (fromOffset : Nat) (upTo : Option Nat)
  | consume (consumer : String) (max : Nat) (ack : Bool)
  | ack (consumer : String) (offset : Nat)
  | progress (consumer : Option String)
  | inspect
  | serve (config : Option String) (bind : Option SocketAddr) (memory : Bool) (sync : Option SyncMode)
      (maxReadBatch : Option Nat)

/-- A command with the global options. -/
structure Invocation where
  dataDir : String
  verbose : Bool
  format : Format
  command : Command

namespace Parsed

/-- A text value, empty when absent. -/
def text (p : Parsed) (id : String) : String := (p.value tool id).getD ""

/-- A number value, when present. -/
def count? (p : Parsed) (id : String) : Option Nat := (p.value tool id).bind fun s => (readUnsigned s).toOption

/-- A number value, zero when absent. -/
def count (p : Parsed) (id : String) : Nat := (p.count? id).getD 0

/-- A sync mode, when given. -/
def sync (p : Parsed) : Option SyncMode := (p.value tool "sync").bind SyncMode.ofName?

/-- The command a reading names. -/
def request (p : Parsed) : Command :=
  match p.command with
  | "append" => .append (p.text "event_type") (p.text "before") (p.text "after") (p.text "source")
      (p.flag "hex") p.sync
  | "get" => .get (p.count "offset")
  | "replay" => .replay (p.count "from") (p.count? "to")
  | "consume" => .consume (p.text "consumer") (p.count "max") (p.flag "ack")
  | "ack" => .ack (p.text "consumer") (p.count "offset")
  | "progress" => .progress (p.value tool "consumer")
  | "serve" => .serve (p.value tool "config") ((p.value tool "bind").bind SocketAddr.parse?)
      (p.flag "memory") p.sync (p.count? "max_read_batch")
  | _ => .inspect

/-- The invocation a reading names. -/
def invocation (p : Parsed) : Invocation :=
  { dataDir := p.text "data_dir", verbose := p.flag "verbose",
    format := if p.text "format" = "json" then .json else .text, command := p.request }

end Parsed

/-- Reads a command line into an invocation, or the reason the tool stops. -/
def read (words : List String) : Except Stop Invocation := (tool.parse words).map Parsed.invocation

end ChangeLog.Cli
