/-!
# Cancellation tokens

A token is cancelled once and for all. One that depends on another is cancelled with it, but not the
other way around, which is why a token knows its parent (`CancellationToken.child`) and a parent
knows nothing of its children.
-/

namespace StartOrder

/-- A token, with those that it depends on. Each knows whether it was cancelled itself. -/
inductive CancellationToken where
  | root (cancelled : Bool)
  | child (parent : CancellationToken) (cancelled : Bool)
  deriving DecidableEq, Repr

namespace CancellationToken

/-- A token that depends on nothing. -/
def fresh : CancellationToken := .root false

/-- A token that depends on another one. -/
def childToken (token : CancellationToken) : CancellationToken := .child token false

/-- Cancel a token, and with it all that depends on it. -/
def cancel : CancellationToken → CancellationToken
  | .root _ => .root true
  | .child parent _ => .child parent true

/-- Whether a token is cancelled, itself or with one that it depends on. -/
def isCancelled : CancellationToken → Bool
  | .root cancelled => cancelled
  | .child parent cancelled => cancelled || parent.isCancelled

/-- What a token depends on. One that depends on nothing stands for itself. -/
def parent : CancellationToken → CancellationToken
  | .root cancelled => .root cancelled
  | .child parent _ => parent

@[simp]
theorem isCancelled_cancel (token : CancellationToken) : token.cancel.isCancelled = true := by
  cases token <;> simp [cancel, isCancelled]

@[simp]
theorem isCancelled_childToken (token : CancellationToken) :
    token.childToken.isCancelled = token.isCancelled := by
  simp [childToken, isCancelled]

/-- What depends on a token is cancelled without it. -/
@[simp]
theorem parent_cancel_childToken (token : CancellationToken) :
    token.childToken.cancel.parent = token := rfl

end CancellationToken

end StartOrder
