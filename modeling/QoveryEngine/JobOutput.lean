import QoveryEngine.Json

/-!
# `serialize_job_output` and the upper-cased output keys

The job writes a JSON object on the shared volume; `serialize_job_output` reads it into a map
from keys to `JobOutputVariable`s, dropping the entries whose value is not an object, and
`run_job` upper-cases the keys before handing the map to the reporter.
-/

namespace QoveryEngine

open Json

/-- `JobOutputVariable`. -/
structure JobOutputVariable where
  /-- `value`: the variable's value as text. -/
  value : String
  /-- `sensitive`: whether the value is a secret, to be hidden from logs. -/
  sensitive : Bool
  /-- `description`: what the variable is for, as the job states it. -/
  description : String
  deriving DecidableEq, Repr

/-- The body of `serialize_job_output`'s loop for an entry whose value is the object
`jobOutputVariableHashmap`: a string `value` is taken as is and any other value as its JSON text
(`null` when absent); `description` is a string or empty; `sensitive` a boolean or false. -/
def jobOutputVariable (jobOutputVariableHashmap : List (String × Value)) : JobOutputVariable :=
  let value := (lookup jobOutputVariableHashmap "value").getD .null
  { value := match value.asStr with
      | some s => s
      | none => value.text
    sensitive := ((lookup jobOutputVariableHashmap "sensitive").getD .null).asBool.getD false
    description := ((lookup jobOutputVariableHashmap "description").getD .null).asStr.getD "" }

/-- `serialize_job_output`: the entries of the top-level object whose value is an object, each
read by `jobOutputVariable`, inserted into a `HashMap`. -/
def serializeJobOutput (json : String) : Except ErrorCode (List (String × JobOutputVariable)) :=
  (fromStrBorrowedMap json).map fun serdeHashMap =>
    serdeHashMap.foldl (fun jobOutputVariables kv =>
      match kv.2.asObject with
      | none => jobOutputVariables
      | some m => hashInsert jobOutputVariables (kv.1, jobOutputVariable m)) []

/-- `str::to_uppercase` on ASCII text, where it upper-cases the letters `a` to `z` one by one
(beyond ASCII the standard library follows Unicode; the runner takes that mapping as given). -/
def toUppercase (s : String) : String := ⟨s.data.map Char.toUpper⟩

/-- The `collect` at line 302: the entries, in the order the iteration of the `HashMap` visits
them, inserted into a new `HashMap` under their keys' images by `upper`. -/
def upperCaseKeys (upper : String → String) (visit : List (String × JobOutputVariable)) :
    List (String × JobOutputVariable) :=
  visit.foldl (fun m kv => hashInsert m (upper kv.1, kv.2)) []

end QoveryEngine
