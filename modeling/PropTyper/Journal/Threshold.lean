import PropTyper.Journal.Event
import PropTyper.Settings.Keys
import PropTyper.Text.Quoted

/-! # The threshold of the journal -/

namespace PropTyper.Journal

/-- The words that are known to the journal: those that stand for a rank, for a text and for something
that is neither. -/
structure Vocabulary where
  ranks : List (String × Nat)
  texts : List (String × String)
  reserved : List String
deriving Repr, Inhabited

def standardRanks : List (String × Nat) :=
  [("CRITICAL", 50), ("FATAL", 50), ("ERROR", 40), ("WARNING", 30), ("WARN", 30), ("INFO", 20),
    ("DEBUG", 10), ("NOTSET", 0), ("raiseExceptions", 1), ("logThreads", 1),
    ("logMultiprocessing", 1), ("logProcesses", 1)]

def standardTexts : List (String × String) :=
  [("BASIC_FORMAT", "%(levelname)s:%(name)s:%(message)s"), ("__name__", "logging"),
    ("__package__", "logging"), ("__status__", "production"), ("__version__", "0.5.1.2")]

def standardReserved : List String :=
  ["BufferingFormatter", "FileHandler", "Filter", "Filterer", "Formatter", "GenericAlias",
    "Handler", "LogRecord", "Logger", "LoggerAdapter", "Manager", "NullHandler", "PercentStyle",
    "PlaceHolder", "RootLogger", "StrFormatStyle", "StreamHandler", "StringTemplateStyle",
    "Template", "_STYLES", "_StderrHandler", "__all__", "__annotations__", "__builtins__",
    "__class__", "__delattr__", "__dict__", "__dir__", "__eq__", "__format__", "__ge__",
    "__getattribute__", "__getstate__", "__gt__", "__hash__", "__init__", "__init_subclass__",
    "__le__", "__loader__", "__lt__", "__ne__", "__new__", "__path__", "__reduce__",
    "__reduce_ex__", "__repr__", "__setattr__", "__sizeof__", "__spec__", "__str__",
    "__subclasshook__", "_acquireLock", "_addHandlerRef", "_after_at_fork_child_reinit_locks",
    "_at_fork_reinit_lock_weakset", "_checkLevel", "_defaultFormatter", "_defaultLastResort",
    "_handlerList", "_handlers", "_is_internal_frame", "_levelToName", "_lock",
    "_logRecordFactory", "_loggerClass", "_nameToLevel", "_register_at_fork_reinit_lock",
    "_releaseLock", "_removeHandlerRef", "_showwarning", "_startTime", "_str_formatter",
    "addLevelName", "atexit", "basicConfig", "captureWarnings", "collections", "critical",
    "currentframe", "debug", "disable", "error", "exception", "fatal", "getLevelName",
    "getLevelNamesMapping", "getLogRecordFactory", "getLogger", "getLoggerClass", "info", "io",
    "lastResort", "log", "makeLogRecord", "os", "re", "root", "setLogRecordFactory",
    "setLoggerClass", "shutdown", "sys", "threading", "time", "traceback", "warn", "warning",
    "warnings", "weakref"]

/-- The usual words, without those that describe the journal itself. -/
def Vocabulary.standard : Vocabulary :=
  { ranks := standardRanks, texts := standardTexts, reserved := standardReserved }

inductive ThresholdFault where
  | pattern (text : String)
  | reserved (word : String)
deriving DecidableEq, Repr, Inhabited

def ThresholdFault.message : ThresholdFault → String
  | pattern text => "Unknown level: " ++ Text.shown (LooseText.ofString text)
  | reserved word => "Level not an integer or a valid string: " ++ word

/-- The rank that a word sets; a word that says nothing sets that of warnings. -/
def Vocabulary.threshold (words : Vocabulary) (word : String) : Except ThresholdFault Nat :=
  match words.ranks.lookup word with
  | some rank => .ok rank
  | none =>
    match words.texts.lookup word with
    | some text => .error (.pattern text)
    | none =>
      if words.reserved.contains word then .error (.reserved word) else .ok Level.warning.rank

def Level.passes (level : Level) (threshold : Nat) : Bool :=
  threshold ≤ level.rank

def levelVariable : String := "PROPTYPES_LOG_LEVEL"

/-- The word of the environment, in upper case. -/
def environmentWord (env : Environment) : String :=
  Text.upper ((env.get? levelVariable).getD "WARNING")

def Vocabulary.thresholdOf (words : Vocabulary) (env : Environment) (asked : Option String) :
    Except ThresholdFault Nat :=
  words.threshold (asked.getD (environmentWord env))

end PropTyper.Journal
