import Switchboard.Sample.Handlers
import Switchboard.Service.Handling

/-!
# The sample host

Where the sample services run: a gate with two known callers, one who may do everything and one who
may read what no policy protects.
-/

namespace Switchboard
namespace Sample

open Service (Decision Host)

/-- The name that a caller carries. -/
def bearer? (headers : Http.Headers) : Option String :=
  (headers.visible? "authorization").bind fun value =>
    let mark := "Bearer ".toList
    if mark.isPrefixOf value.toList then some (String.ofList (value.toList.drop mark.length))
    else none

/-- The gate of the sample world. -/
def gate (headers : Http.Headers) (policy : Option String) : Decision :=
  match bearer? headers, policy with
  | some "admin", _ => .allow
  | some "reader", none => .allow
  | some _, some policy => .deny ("missing policy " ++ policy)
  | _, _ => .deny "Missing authorization token"

def host : Host State := ⟨gate, State.newToken⟩

abbrev SampleEndpoint := Service.Endpoint State Contents Component

abbrev SampleService := Service State (Dispatch.Scope State Component) Contents Component

abbrev SampleMediator := Dispatch.Mediator State (Dispatch.Scope State Component) Contents Component

end Sample
end Switchboard
