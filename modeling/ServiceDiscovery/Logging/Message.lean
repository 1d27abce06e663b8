import ServiceDiscovery.Notice
import ServiceDiscovery.Text.Blank
import ServiceDiscovery.Text.Lowercase
import ServiceDiscovery.Value

/-!
Log messages and the lines that they are written as.
-/
namespace ServiceDiscovery.Logging

def levelWords : List (String × Level) :=
  [("debug", .debug), ("info", .info), ("warn", .warning), ("warning", .warning), ("error", .error),
   ("crit", .critical), ("critical", .critical)]

/-- The severity that a value names, in any case and with blanks around it; `default` if it names
none. -/
def readLevel (v : Value) (default : Int) : Int :=
  let word := if v.isEmpty then "" else Text.lower (Text.trim v.plain)
  ((levelWords.lookup word).map Level.number).getD default

def levelTags : List (Int × String) :=
  [(10, "[debug]"), (20, "[info]"), (30, "[warn]"), (40, "[error]"), (50, "[crit]")]

def levelTag (level : Int) : String := (levelTags.lookup level).getD s!"[lvl{level}]"

structure Message where
  logger : String
  level : Int
  text : String
  deriving DecidableEq, Repr

def Message.ofNotice (fd : Int → String) (n : Notice) : Message :=
  ⟨n.logger.name, n.level.number, n.message fd⟩

/-- The line for the system log, which adds the time itself. -/
def Message.syslogLine (program : String) (m : Message) : String :=
  s!"{program}: {levelTag m.level} {m.logger}: {m.text}"

def Message.line (time : String) (m : Message) : String :=
  s!"{time} {levelTag m.level} {m.logger}: {m.text}"

end ServiceDiscovery.Logging
