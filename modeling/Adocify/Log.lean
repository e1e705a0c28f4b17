import Adocify.Text.Basic

/-! Log records, in the order in which they arise. -/

namespace Adocify

inductive LogLevel where
  | debug
  | info
  | warning
  | error
  | critical
  deriving Repr, DecidableEq

namespace LogLevel

def all : List LogLevel := [.debug, .info, .warning, .error, .critical]

def name : LogLevel → Text
  | .debug => "DEBUG".toList
  | .info => "INFO".toList
  | .warning => "WARNING".toList
  | .error => "ERROR".toList
  | .critical => "CRITICAL".toList

def rank : LogLevel → Nat
  | .debug => 10
  | .info => 20
  | .warning => 30
  | .error => 40
  | .critical => 50

def ofName? (text : Text) : Option LogLevel := all.find? (·.name == text)

end LogLevel

structure LogRecord where
  level : LogLevel
  message : Text
  deriving Repr, DecidableEq

/-- The records that a threshold lets through. -/
def loggedFrom (threshold : LogLevel) (records : List LogRecord) : List LogRecord :=
  records.filter fun entry => threshold.rank ≤ entry.level.rank

end Adocify
