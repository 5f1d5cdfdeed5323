import ChangeLog.Script.Ids
import ChangeLog.Script.Journal
import ChangeLog.Script.Http
import ChangeLog.Script.Cli
/-
  The command interpreter: one JSON object in, one JSON answer out. The field op names the
  command; the other fields are its arguments.
-/

namespace ChangeLog.Script

open Json

/-- The answer to one command. -/
def answer (v : Value) : Value :=
  let f : Fields := ⟨v⟩
  match f.get? "op" with
  | some (.str "consumer_id") => consumerIdAnswer f
  | some (.str "consumer_id_json") => consumerIdJsonAnswer f
  | some (.str "event_id_hex") => eventIdAnswer f
  | some (.str "cursor_id") => cursorIdAnswer f
  | some (.str "cursor_id_new") => cursorIdNewAnswer
  | some (.str "compute_id") => computeIdAnswer f
  | some (.str "stamp") => stampAnswer f
  | some (.str "wal") => journalAnswer f
  | some (.str "stream") => streamAnswer f
  | some (.str "core") => storesAnswer f
  | some (.str "progress_store") => progressAnswer f
  | some (.str "acks") => acksAnswer f
  | some (.str "append_request") => appendRequestAnswer f
  | some (.str "config_toml") => configTomlAnswer f
  | some (.str "config_toml_file") => configFileAnswer f
  | some (.str "http") => httpAnswer f
  | some (.str "serve_immediate") => serveImmediateAnswer f
  | some (.str "cli") => cliAnswer f
  | some (.str op) => badInput ("unknown op " ++ op)
  | _ => badInput "field `op` must be a string"

/-- The answer to one line of JSON text, as one line of JSON text. -/
def answerLine (line : String) : String :=
  match Json.parse line with
  | .ok v => (answer v).compact
  | .error m => (badInput ("invalid JSON: " ++ m)).compact

end ChangeLog.Script
