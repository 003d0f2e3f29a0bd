/-!
Outcomes of backend commands: a success value or a typed error, and the
combinators commands are handled with. An outcome is an `Except`; nothing here
fails, the error being the only failure channel. Handling an outcome runs
exactly one of two handlers (`fold`), so a handler with effects records them
for one side only.
-/

namespace ChatSession

namespace Result

variable {ε α β γ : Type}

def isOk : Except ε α → Bool
  | .ok _ => true
  | .error _ => false

def isErr : Except ε α → Bool
  | .ok _ => false
  | .error _ => true

/-- Run the error handler on an error and the success handler on a value. -/
def fold (onError : ε → β) (onSuccess : α → β) : Except ε α → β
  | .ok a => onSuccess a
  | .error e => onError e

/-- The value of a success, `dflt` for an error. -/
def unwrapOr (dflt : α) : Except ε α → α
  | .ok a => a
  | .error _ => dflt

theorem isErr_eq_not_isOk (r : Except ε α) : isErr r = !isOk r := by
  cases r with
  | ok a => rfl
  | error e => rfl

/-- Mapping a success changes what the success handler sees, and nothing else. -/
theorem fold_map (onError : ε → γ) (onSuccess : β → γ) (f : α → β) (r : Except ε α) :
    fold onError onSuccess (r.map f) = fold onError (onSuccess ∘ f) r := by
  cases r with
  | ok a => rfl
  | error e => rfl

theorem unwrapOr_eq_fold (dflt : α) (r : Except ε α) :
    unwrapOr dflt r = fold (fun _ => dflt) id r := by
  cases r with
  | ok a => rfl
  | error e => rfl

end Result

end ChatSession
