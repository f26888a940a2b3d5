import DomainModel.Live.StandardClass
import DomainModel.Text.PrivateName

/-!
# Parameters

The parameters of functions, and how the arguments of a call are given to them. A function spells
private names as the class does in whose body it stands.
-/

namespace DomainModel.Live

def IdentifierTask.parameters : IdentifierTask → List String
  | .initialise => ["self", "hex", "bytes", "bytes_le", "fields", "int", "version"]
  | .setState => ["self", "state"]
  | .equality | .compare _ => ["self", "other"]
  | .assign => ["self", "name", "value"]
  | .getState | .hash | .number | .repr | .text | .part _ => ["self"]

def StandardTask.parameters : StandardTask → List String
  | .register | .subclassCheck => ["cls", "subclass"]
  | .instanceCheck => ["cls", "instance"]
  | .parameterize => ["cls", "params"]
  | .noteParameters => ["cls"]
  | .copy => ["x"]
  | .deepCopy => ["x", "memo", "_nil"]
  | .optionalRelease | .mandatoryRelease => ["self"]

namespace Body

def parameters : Body → List String
  | .store _ | .errorInit => ["self", "value"]
  | .sumInit _ _ | .variantInit _ => ["self", "payload"]
  | .payloadEquality | .fieldEquality _ _ => ["self", "other"]
  | .tryFrom field _ => ["cls", field]
  | .requiredRule | .rule _ => ["cls", "value"]
  | .required parameters => parameters
  | .identifier task => task.parameters
  | .standard task => task.parameters
  | .recordInit _ | .recordRepr _ _ | .stored _ | .count _ | .sumRepr | .payloadHash
  | .fieldHash _ | .fieldText _ | .clone _ | .dispatch _ _ _ | .nextVersion => ["self"]

def namedParameters : Body → List String
  | .recordInit fields => fields
  | .identifier .initialise => ["is_safe"]
  | _ => []

/-- The parameters that need not be given, and what they are then. -/
def optional : Body → List (String × Value)
  | .identifier .initialise =>
    ((IdentifierTask.parameters .initialise).drop 1).map (·, .nothing)
      ++ [("is_safe", Standard.unknownSafety)]
  | .standard .deepCopy => [("memo", .nothing), ("_nil", .nothing)]
  | _ => []

end Body

namespace Function

def qualname (f : Function) : String := if f.owner = "" then f.name else f.owner ++ "." ++ f.name

def spell (f : Function) (name : String) : String := PrivateName.spell f.owner name

/-- The values of the parameters; every one that is not optional has to be given once, and nothing
else. -/
def arguments? (f : Function) (given : List Value) (named : List (String × Value)) :
    Option (List Value) :=
  let rest := (f.body.parameters.drop given.length ++ f.body.namedParameters).map f.spell
  if given.length ≤ f.body.parameters.length ∧ (named.all fun e => e.1 ∈ rest) then
    (rest.mapM fun name => (named.lookup name).or (f.body.optional.lookup name)).map (given ++ ·)
  else none

end Function

end DomainModel.Live
