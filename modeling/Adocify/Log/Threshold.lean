import Adocify.Failure
import Adocify.Log
import Adocify.Text.Blank

/-! The threshold below which records are not logged, as callers give it. -/

namespace Adocify

/-- A number stands for itself. Anything else is read as the name of a level, in letters of either
case and with blanks around it. -/
def logThreshold (given : Value) : Except Failure Whole :=
  match Whole.ofValue? given with
  | some number => .ok number
  | none =>
    match LogLevel.ofName? (Text.upper (Text.strip given.display)) with
    | some level => .ok (.number level.rank)
    | none =>
      .error <| .validation
        ("Unknown log level: ".toList ++ given.inner ++ " (expected one of ".toList ++
          Text.join ", ".toList (LogLevel.all.map (·.name)) ++ [')'])
        (some "log_level".toList)

end Adocify
