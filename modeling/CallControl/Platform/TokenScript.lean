import CallControl.Failure

/-! # Scripted token providers

A simulated provider of bearer tokens gives the answers of a script: one for each
call, the last one again and again, and a fixed token when the script is empty.
-/

namespace CallControl

/-- A scripted answer of a token provider. -/
inductive TokenAnswer where
  | token (text : String)
  /-- A failure with what was added on the way, innermost first. -/
  | failure (cause : String) (contexts : List String)
  /-- The fault that a simulation injects. -/
  | fault
  /-- The provider breaks off. -/
  | crash
  deriving Repr, DecidableEq

/-- The outcome of an answer. -/
def TokenAnswer.outcome : TokenAnswer → Except Failure String
  | .token text => .ok text
  | .failure cause contexts => .error (.described (contexts.reverse ++ [cause]))
  | .fault => .error (.injected .tokenFetch)
  | .crash => .error .crashed

/-- A provider that gives its answers in order, the last one again and again, and
a fixed token when it has none. -/
structure TokenScript where
  answers : List TokenAnswer
  calls : Nat
  deriving Repr

namespace TokenScript

/-- A script before its first call. -/
def ofAnswers (answers : List TokenAnswer) : TokenScript := ⟨answers, 0⟩

/-- The outcome of the next call. -/
def outcome (script : TokenScript) : Except Failure String :=
  match script.answers[script.calls]? with
  | some answer => answer.outcome
  | none =>
      match script.answers.getLast? with
      | some answer => answer.outcome
      | none => .ok "token"

/-- The script after a call. -/
def advance (script : TokenScript) : TokenScript :=
  { script with calls := script.calls + 1 }

/-- One call. -/
def fetch (script : TokenScript) : Except Failure String × TokenScript :=
  (script.outcome, script.advance)

end TokenScript

end CallControl
