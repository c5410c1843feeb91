/-
Module: NodeGauge.Query.Failure
Purpose: The two ways in which the query for the node listing fails.
Main exports: Query.Failure, Query.Failure.message
-/
import NodeGauge.Query.OsError

namespace NodeGauge.Query

/-- Why there is no node listing. -/
inductive Failure where
  /-- The command could not be started. -/
  | notStarted (command cause : Text)
  /-- The command did not end well: its exit code, unless a signal ended it, and what it wrote
  to its error output. -/
  | badEnding (command : Text) (code : Option Int) (complaint : Text)
deriving Repr, DecidableEq

/-- The message that reports a failure. -/
def Failure.message : Failure → Text
  | notStarted command cause => "failed to run ".toList ++ command ++ ": ".toList ++ cause
  | badEnding command code complaint =>
      let ending := match code with
        | some n => "status ".toList ++ OsError.integerText n
        | none => "signal".toList
      command ++ " exited with ".toList ++ ending ++ ": ".toList ++ complaint

end NodeGauge.Query
