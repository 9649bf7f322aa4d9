import Overlay.Json
import Overlay.Loading
import Overlay.Yaml.Printer

namespace Overlay

/-- The texts that arguments can be written as and read back from. -/
inductive TextForm where
  | yaml
  | json (layout : Json.Layout)

def TextForm.print (form : TextForm) (value : Value) : String :=
  match form with
  | .yaml => Yaml.print value
  | .json layout => Json.print layout value

/-- Variables and arguments that are changed step by step. -/
structure Session where
  bindings : Entries String
  arguments : Arguments

inductive Step where
  | setVariable (name value : String)
  | unsetVariable (name : String)
  | insert (key : String) (value : Value)
  | insertScalar (key text : String)
  | remove (key : String)
  | substitute (text : String)
  | replace (yaml : String)
  | merge (yaml : String) (ignoreUnknown : Bool)
  | roundTrip (form : TextForm)

inductive Answer where
  | text (text : Option String)
  | value (value : Option Value)
  | size (count : Nat)
  | roundTrip (same : Bool)

namespace Session

def environment (session : Session) : Environment := session.bindings.get?

def withArguments (session : Session) (arguments : Arguments) : Session := { session with arguments }

def printed (session : Session) (form : TextForm) : String := form.print (.mapping session.arguments)

/-- The session behind a step and the answer; a step that fails has neither. -/
def step (session : Session) : Step → Run (Session × Answer)
  | .setVariable name value =>
    pure ({ session with bindings := session.bindings.insert name value }, .text (session.bindings.get? name))
  | .unsetVariable name =>
    pure ({ session with bindings := session.bindings.erase name }, .text (session.bindings.get? name))
  | .insert key value =>
    pure (session.withArguments (session.arguments.insert key value), .value (session.arguments.get? key))
  | .insertScalar key text =>
    pure (session.withArguments (session.arguments.insert key (Conversion.scalar text)),
      .value (session.arguments.get? key))
  | .remove key =>
    pure (session.withArguments (session.arguments.erase key), .value (session.arguments.get? key))
  | .substitute text => do
    let text ← Placeholder.substitute session.environment text
    return (session, .text (some text))
  | .replace yaml => do
    let arguments ← parseArguments session.environment yaml
    return (session.withArguments arguments, .size arguments.length)
  | .merge yaml ignoreUnknown => do
    let file ← parseArguments session.environment yaml
    let arguments ← Overlay.merge file session.arguments ignoreUnknown
    return (session.withArguments arguments, .size arguments.length)
  | .roundTrip form => do
    let arguments ← parseArguments session.environment (session.printed form)
    let same := (Value.mapping arguments).equal (.mapping session.arguments)
    return (session.withArguments arguments, .roundTrip same)

/-- The session behind a step; a step that fails changes nothing. -/
def next (session : Session) (step : Step) : Session :=
  match (session.step step).outcome with
  | .ok (next, _) => next
  | .error _ => session

end Session

end Overlay
