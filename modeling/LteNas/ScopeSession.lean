import LteNas.Decode

namespace LteNas

/-!
# Sessions of scopes

A decoding run enters a scope for each message inside another one and leaves it
when that message ends.  What is reported stays with the scope that it was
reported in until it is taken.
-/

/-- A step of a session. -/
inductive ScopeOperation where
  /-- Go into a message inside the current one. -/
  | enter
  /-- Go back to the message around the current one, if there is any. -/
  | leave
  | report (diagnostic : Diagnostic)
  /-- Take everything that was reported. -/
  | take
  | setPartiallyCiphered (isPartial : Bool)
  | setContainerType (code : UInt8)
  deriving Repr, DecidableEq

/-- What a step answers. -/
inductive ScopeAnswer where
  | nothing
  /-- The message would be nested too deep. -/
  | refused
  | diagnostics (diagnostics : List Diagnostic)
  deriving Repr, DecidableEq

/-- A scope and what was reported in it. -/
structure ScopeFrame where
  scope : Scope
  reported : List Diagnostic

/-- The current scope and those around it, innermost first. -/
structure ScopeSession where
  top : ScopeFrame
  outer : List ScopeFrame

namespace ScopeSession

def ofScope (scope : Scope) : ScopeSession :=
  ⟨⟨scope, []⟩, []⟩

/-- The session with another current scope. -/
def withScope (session : ScopeSession) (scope : Scope) : ScopeSession :=
  { session with top := { session.top with scope } }

def step (session : ScopeSession) : ScopeOperation → ScopeAnswer × ScopeSession
  | .enter =>
      match session.top.scope.enter? with
      | some scope => (.nothing, ⟨⟨scope, []⟩, session.top :: session.outer⟩)
      | none => (.refused, session)
  | .leave =>
      match session.outer with
      | frame :: outer => (.nothing, ⟨frame, outer⟩)
      | [] => (.nothing, session)
  | .report diagnostic =>
      let top :=
        { session.top with reported := session.top.reported ++ [diagnostic] }
      (.nothing, { session with top })
  | .take =>
      (.diagnostics session.top.reported,
        { session with top := { session.top with reported := [] } })
  | .setPartiallyCiphered isPartial =>
      (.nothing,
        session.withScope { session.top.scope with partiallyCiphered := isPartial })
  | .setContainerType code =>
      (.nothing,
        session.withScope { session.top.scope with containerType := some code })

/-- The answer of each step and the session after it. -/
def run (session : ScopeSession) : List ScopeOperation → List (ScopeAnswer × ScopeSession)
  | [] =>
      []
  | operation :: operations =>
      let (answer, session) := session.step operation
      (answer, session) :: session.run operations

end ScopeSession

end LteNas
