import InlineCompletion.Connection
import InlineCompletion.Text.Quoted

/-!
# Credentials without their secrets

Credentials turn up in logs.  Their description names the kind of credential
and the identifier of a key, and puts a fixed mark in the place of everything
that would let a reader act as the user.
-/

namespace InlineCompletion

/-- The mark in the place of a secret. -/
def redactedMark : String := "<redacted>"

/-- Keys without their secrets. -/
def AccessKeys.describe (k : AccessKeys) : String :=
  let session := match k.sessionToken with
    | some _ => "Some(" ++ Text.quoted redactedMark ++ ")"
    | none => "None"
  "AwsCredentials \x7b access_key_id: " ++ Text.quoted k.accessKeyId ++
    ", secret_access_key: " ++ Text.quoted redactedMark ++
    ", session_token: " ++ session ++ " \x7d"

/-- A credential without its secrets. -/
def Credential.describe : Credential → String
  | bearerToken _ => "BearerToken(" ++ redactedMark ++ ")"
  | keys k => "Keys(" ++ k.describe ++ ")"

end InlineCompletion
