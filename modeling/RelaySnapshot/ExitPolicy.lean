import RelaySnapshot.Text.Quoted

namespace RelaySnapshot

inductive ExitAction where
  | accept
  | reject
  deriving DecidableEq, Repr

structure UnknownExitAction where
  word : String
  deriving DecidableEq, Repr

def UnknownExitAction.message (e : UnknownExitAction) : String :=
  s!"unknown exit policy action: {Text.quoted e.word}"

def ExitAction.keyword : ExitAction → String
  | .accept => "accept"
  | .reject => "reject"

def ExitAction.ofKeyword (word : String) : Except UnknownExitAction ExitAction :=
  if word = ExitAction.accept.keyword then .ok .accept
  else if word = ExitAction.reject.keyword then .ok .reject
  else .error ⟨word⟩

structure ExitRule where
  action : ExitAction
  pattern : String
  deriving DecidableEq, Repr

abbrev ExitPolicy := List ExitRule

namespace ExitPolicy

def linesOf (policy : ExitPolicy) (action : ExitAction) : Text :=
  (policy.filter (·.action == action)).flatMap fun rule =>
    action.keyword.toList ++ ' ' :: rule.pattern.toList ++ ['\n']

/-- The form in which a policy is stored: all that it accepts, then all that it rejects. -/
def lines (policy : ExitPolicy) : String :=
  String.ofList (policy.linesOf .accept ++ policy.linesOf .reject)

end ExitPolicy

end RelaySnapshot
