import BadgeRights.Codec
import BadgeRights.Settings

set_option autoImplicit false

namespace BadgeRights.Codec

instance : Codec UnhandledPolicy where
  encode p := .text p.name
  decode := nameOf .strict UnhandledPolicy.ofName?

def timeKey : String := "evaluation_time"

def policyKey : String := "unhandled_regions"

instance : Codec Settings where
  encode s := .object [
    (timeKey, encode s.evaluationTime), (policyKey, encode s.unhandled)]
  decode := record [timeKey, policyKey] fun f => do
    let evaluationTime ← f.getD timeKey
    let unhandled ← f.getD policyKey
    return { evaluationTime, unhandled }

end BadgeRights.Codec
