import SocksRouter.Log.Notice
import SocksRouter.Text.Lines

/-!
# Log sinks

Where log records go: always to the console, and to a file if one is configured. The console shows
records from the info level on, or from the debug level on when debugging; the file takes them from
the debug level on. Both write a record in the same form, whose time is left to the clock.
-/

namespace SocksRouter

open Text

/-- A log record: its level, where it comes from, and its text. -/
structure LogRecord where
  /-- How important it is. -/
  level : Level
  /-- The module, function and line it comes from. -/
  source : String
  /-- Its text. -/
  text : String
  deriving DecidableEq, Repr

/-- How logging is configured. -/
structure LogConfig where
  /-- Whether the console shows debug records. -/
  debug : Bool := false
  /-- Whether a log file is written. -/
  toFile : Bool := true
  deriving DecidableEq, Repr

namespace LogConfig

/-- The least level that the console shows. -/
def consoleLevel (config : LogConfig) : Level :=
  if config.debug then .debug else .info

/-- The least level that the file takes. -/
def fileLevel : Level := .debug

end LogConfig

namespace LogRecord

/-- The word of a level, filled up to eight characters. -/
def paddedLevel (level : Level) : String :=
  level.token ++ String.ofList (List.replicate (8 - level.token.length) ' ')

/-- The record as it is written at a time. -/
def render (time : String) (record : LogRecord) : String :=
  s!"{time} | {paddedLevel record.level} | {record.source} - {record.text}"

/-- The lines that records of at least the given level take in a log. -/
def linesAt (least : Level) (time : String) (records : List LogRecord) : List String :=
  let shown := records.filter fun record ↦ least.rank ≤ record.level.rank
  let text := shown.flatMap fun record ↦ (record.render time).toList ++ ['\n']
  (lines text).map String.ofList

end LogRecord

end SocksRouter
