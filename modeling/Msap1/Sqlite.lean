import Mathlib.Tactic

/-! What the stores share of the SQLite wrapper: the exceptions that reach a caller and the
binding of unsigned columns. -/

namespace Msap1

/-- The exception classes, with their texts. -/
inductive Failure where
  | invalidArgument (text : String)
  | conflict (text : String)
  | unavailable (text : String)
  | overflowError (text : String)
  | runtimeError (text : String)
  | logicError (text : String)
  deriving DecidableEq, Repr

def int64Max : UInt64 := 9223372036854775807

def bindUnsigned (value : UInt64) : Except Failure Int64 :=
  if value > int64Max then
    .error (.overflowError "SQLite integer exceeds signed 64-bit range")
  else .ok value.toInt64

theorem bindUnsigned_ok {value : UInt64} {column : Int64}
    (bound : bindUnsigned value = .ok column) :
    column = value.toInt64 ∧ value ≤ int64Max := by
  unfold bindUnsigned at bound
  split at bound
  · cases bound
  · next small =>
      exact ⟨(Except.ok.inj bound).symm, UInt64.not_lt.mp small⟩

end Msap1
