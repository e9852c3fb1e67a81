import EngineClient.Fault
import EngineClient.Text.Upper

/-!
# Log levels

Events have one of five levels, and are logged with a verb that is the name of their
level or a second word for it. A threshold is a number, or one of the words for it.
-/

namespace EngineClient
namespace Log

inductive Level where
  | debug
  | info
  | warning
  | error
  | critical
  deriving DecidableEq, Repr

namespace Level

def name : Level → String
  | .debug => "debug"
  | .info => "info"
  | .warning => "warning"
  | .error => "error"
  | .critical => "critical"

def number : Level → Int
  | .debug => 10
  | .info => 20
  | .warning => 30
  | .error => 40
  | .critical => 50

def all : List Level := [.debug, .info, .warning, .error, .critical]

def ofName? (s : String) : Option Level :=
  all.find? (·.name == s)

end Level

/-! ## Verbs -/

/-- What logs an event: the name of the call that the verb stands for, and its level. -/
structure Verb where
  call : String
  level : Level
  deriving DecidableEq, Repr

namespace Verb

def ofLevel (l : Level) : Verb := ⟨l.name, l⟩

def others : List (String × Verb) :=
  [("warn", ofLevel .warning), ("fatal", ofLevel .critical), ("exception", ⟨"exception", .error⟩)]

def ofName? (s : String) : Option Verb :=
  ((Level.ofName? s).map ofLevel).or (others.lookup s)

end Verb

/-! ## Thresholds -/

def thresholdWords : List (String × Int) :=
  [("NOTSET", 0), ("DEBUG", 10), ("INFO", 20), ("WARNING", 30), ("WARN", 30), ("ERROR", 40),
    ("CRITICAL", 50), ("FATAL", 50)]

/-- The words that name something else about the log, and why each is no threshold. -/
def otherWords : List (String × LogError) :=
  [("BASIC_FORMAT", .unknownLevel "%(levelname)s:%(name)s:%(message)s"),
    ("_STYLES",
      .noLevel
        (String.join
          ["\x7b'%': (<class 'logging.PercentStyle'>, '%(levelname)s:%(name)s:%(message)s'), ",
            "'\x7b': (<class 'logging.StrFormatStyle'>, ",
            "'\x7blevelname\x7d:\x7bname\x7d:\x7bmessage\x7d'), ",
            "'$': (<class 'logging.StringTemplateStyle'>, ",
            "'$\x7blevelname\x7d:$\x7bname\x7d:$\x7bmessage\x7d')\x7d"]))]

def refusedWord (word : String) : LogError :=
  (otherWords.lookup word).getD (.unknownWord word)

def thresholdOfWord (word : String) : Except Fault Int :=
  match thresholdWords.lookup (Text.upper word) with
  | some n => .ok n
  | none => .error (.log (refusedWord (Text.upper word)))

def standingThreshold : Int := Level.warning.number

def threshold : Value → Except Fault Int
  | .int n => .ok n
  | .bool b => .ok (if b then 1 else 0)
  | .null => .ok standingThreshold
  | .text word => thresholdOfWord word
  | v => .error (.log (.noLevel v.display))

end Log
end EngineClient
