import Pagewalk.Error

/-!
# Limits of scripts

How much a script may be and do. A limit on a script's size or on what it may do while it runs has to be above
zero; no timer need be allowed.
-/

namespace Pagewalk

/-- The limits that a script may meet while it runs. -/
structure RuntimeLimits where
  recursionLimit : Nat := 512
  stackLimit : Nat := 10240
  loopLimit : Nat := 1000000
  deriving DecidableEq, Repr, Inhabited

/-- The limits under which scripts are evaluated. -/
structure ScriptConfig extends RuntimeLimits where
  maxBytes : Nat := 2097152
  maxTimerRuns : Nat := 1024
  deriving DecidableEq, Repr, Inhabited

namespace ScriptConfig

/-- The configuration, if its limits are allowed. -/
def checked (c : ScriptConfig) : Except Error ScriptConfig :=
  if c.maxBytes = 0 then .error (.limit .scriptZero)
  else if c.recursionLimit = 0 ∨ c.stackLimit = 0 ∨ c.loopLimit = 0 then .error (.limit .runtimeZero)
  else .ok c

/-- How deep calls may stand in one another, built-in functions included; what scripts may use is met first. -/
def levels (c : ScriptConfig) : Nat := 16 * (min c.recursionLimit 4096) + 256

/-- The limits with their names. -/
def described (c : ScriptConfig) : String :=
  "ScriptConfig \x7b max_script_bytes: " ++ toString c.maxBytes ++ ", recursion_limit: " ++ toString c.recursionLimit ++
    ", stack_size_limit: " ++ toString c.stackLimit ++ ", loop_iteration_limit: " ++ toString c.loopLimit ++
    ", max_timer_runs: " ++ toString c.maxTimerRuns ++ " \x7d"

end ScriptConfig

end Pagewalk
