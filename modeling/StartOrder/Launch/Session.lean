import StartOrder.Launch.Run
import StartOrder.Launch.Token
import StartOrder.Source.Loader

/-!
# Sessions

A driver serves for any number of launches, one after another, and can be cancelled between them.
All that it remembers from one step to the next is its token: once that is cancelled, whether by the
session or by a start within a launch, the driver launches nothing any more.

`LaunchStep.run` says what a single step comes to by a driver with a token, and which token it
leaves; `runSession` hands the token on from step to step. A child of the token can be cancelled
alone, which is of no consequence to the driver.
-/

namespace StartOrder

/-- A thing that is done with a driver. -/
inductive LaunchStep where
  | launch (launcher : Launcher) (environment : Environment) (network : String)
  /-- Read a recipe on behalf of the current subject, and launch it. -/
  | launchRecipe (launcher : Launcher) (loader : Loader) (web : Web) (current : Option Subject)
    (descriptor : Descriptor) (network : String)
  | cancel
  /-- Cancel something that depends on the driver. -/
  | cancelChild

/-- What a step comes to. -/
structure LaunchAnswer where
  calls : List Call := []
  requests : List Url := []
  /-- The result of a launch; other steps have none. -/
  result : Option (Except Failure (List Instance)) := none
  /-- The token of the driver behind the step. -/
  token : CancellationToken

/-- Whether the driver is cancelled behind a step. -/
def LaunchAnswer.cancelled (answer : LaunchAnswer) : Bool := answer.token.isCancelled

/-- Whether something new that depends on the driver is cancelled behind a step. -/
def LaunchAnswer.childCancelled (answer : LaunchAnswer) : Bool :=
  answer.token.childToken.isCancelled

namespace LaunchStep

/-- What a launch by a driver comes to. The driver is cancelled if the launch is. -/
def runLaunch (mode : LaunchMode) (token : CancellationToken) (launcher : Launcher)
    (environment : Environment) (network : String) : LaunchAnswer :=
  let p := StartOrder.launch mode launcher token.isCancelled environment network
  { calls := p.calls, result := some p.result
    token := if p.cancelled then token.cancel else token }

/-- What a step comes to, by a driver with a token. -/
def run (mode : LaunchMode) (token : CancellationToken) : LaunchStep → LaunchAnswer
  | .launch launcher environment network => runLaunch mode token launcher environment network
  | .launchRecipe launcher loader web current descriptor network =>
    if token.isCancelled then { result := some (.error (.cancelled "recipe download")), token }
    else
      let read := loader.read web current descriptor
      match read.result with
      | .error f => { requests := read.requests, result := some (.error f), token }
      | .ok environment =>
        { runLaunch mode token launcher environment network with requests := read.requests }
  | .cancel => { token := token.cancel }
  | .cancelChild => { token := token.childToken.cancel.parent }

end LaunchStep

/-- What the steps of a session come to, by a driver with a token. -/
def runSession (mode : LaunchMode) (token : CancellationToken) : List LaunchStep → List LaunchAnswer
  | [] => []
  | step :: rest =>
    let answer := step.run mode token
    answer :: runSession mode answer.token rest

end StartOrder
