import Adocify.Failure
import Adocify.Log

/-! Computations that may fail and that keep a log. What has been logged before a failure stays. -/

namespace Adocify

abbrev Logged := ExceptT Failure (StateM (List LogRecord))

namespace Logged

def report (records : List LogRecord) : Logged Unit := modify (· ++ records)

def debug (message : Text) : Logged Unit := report [⟨.debug, message⟩]

end Logged

end Adocify
