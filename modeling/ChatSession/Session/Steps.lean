/-!
Refresh steps and the order they may run in.

A refresh runs named steps one after another. A step may require steps whose
results it reads; they must come strictly earlier. A step that runs while
logged out may not require one that runs only when logged in, since that one
is skipped then. `checkSteps` finds the first step, in sequence order, that
breaks a rule: a repeated name is found before the requirements of the same
step, and requirements are looked at in order.
-/

namespace ChatSession

/-- A step of a refresh, as far as ordering is concerned. -/
structure StepSpec where
  name : String
  requires : List String := []
  authenticated : Bool := true
deriving Repr, DecidableEq, Inhabited

/-- Why a sequence of steps cannot run. -/
inductive StepError where
  | duplicate (step : String)
  | notEarlier (step dependency : String)
  | needsLogin (step dependency : String)
deriving Repr, DecidableEq, Inhabited

def StepError.message : StepError → String
  | .duplicate s => "Duplicate refresh step '" ++ s ++ "'"
  | .notEarlier s d => "Refresh step '" ++ s ++ "' requires '" ++ d ++ "' to run first"
  | .needsLogin s d =>
    "Refresh step '" ++ s ++ "' runs logged out but requires '" ++ d ++
      "', which only runs logged in"

/-- The first requirement of `step` that the steps seen so far do not meet. -/
def StepSpec.unmet (seen : List StepSpec) (step : StepSpec) : List String → Option StepError
  | [] => none
  | d :: ds =>
    match seen.find? (·.name == d) with
    | none => some (.notEarlier step.name d)
    | some earlier =>
      if earlier.authenticated && !step.authenticated then some (.needsLogin step.name d)
      else StepSpec.unmet seen step ds

/-- Check steps in order against the steps before them. -/
def checkStepsFrom (seen : List StepSpec) : List StepSpec → Except StepError Unit
  | [] => .ok ()
  | s :: rest =>
    if seen.any (·.name == s.name) then .error (.duplicate s.name)
    else match s.unmet seen s.requires with
      | some e => .error e
      | none => checkStepsFrom (seen ++ [s]) rest

/-- The first rule a sequence of steps breaks, if any. -/
def checkSteps (steps : List StepSpec) : Except StepError Unit := checkStepsFrom [] steps

/-- The steps of a refresh, in the order they run. -/
inductive RefreshStep where
  | teams
  | teamMembers
  | channels
  | users
  | unread
  | servers
  | currentServer
deriving Repr, DecidableEq, Inhabited

namespace RefreshStep

/-- Every step, in running order. -/
def all : List RefreshStep :=
  [.teams, .teamMembers, .channels, .users, .unread, .servers, .currentServer]

/-- The step's name, requirements and whether it needs a login. -/
def spec : RefreshStep → StepSpec
  | .teams => ⟨"teams", [], true⟩
  | .teamMembers => ⟨"team_members", [], true⟩
  | .channels => ⟨"channels", [], true⟩
  | .users => ⟨"users", [], true⟩
  | .unread => ⟨"unread", ["channels", "users"], true⟩
  | .servers => ⟨"servers", [], false⟩
  | .currentServer => ⟨"current_server", ["servers"], false⟩

/-- The step runs only when a user is logged in. -/
def authenticated (s : RefreshStep) : Bool := s.spec.authenticated

end RefreshStep

/-- The refresh's own steps are in a valid order. -/
example : (checkSteps (RefreshStep.all.map RefreshStep.spec)).toBool = true := by decide

end ChatSession
