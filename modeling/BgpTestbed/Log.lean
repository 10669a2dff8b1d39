/-!
# Log records
-/

namespace BgpTestbed

inductive Level where
  | trace
  | debug
  | info
  | warning
  deriving DecidableEq, Repr

/-- What is worth telling while configurations and topologies are made. -/
inductive Event where
  | configuring (router : String)
  | unknownPolicyList (routeMap router policy : String)
  | synthesized (router : String) (id : UInt32)
  | topologyGenerated (routers hosts : Nat)
  deriving DecidableEq, Repr

namespace Event

def level : Event → Level
  | configuring _ => .trace
  | unknownPolicyList _ _ _ => .warning
  | synthesized _ _ => .debug
  | topologyGenerated _ _ => .info

def message : Event → String
  | configuring router => "generate the configuration of " ++ router
  | unknownPolicyList routeMap router policy =>
      "route-map " ++ routeMap ++ " of " ++ router ++
        " references an unknown policy list " ++ policy
  | synthesized router id =>
      "synthesize external router " ++ router ++ " with id " ++
        toString id.toNat
  | topologyGenerated routers hosts =>
      "Generated topology with " ++ toString routers ++ " routers and " ++
        toString hosts ++ " hosts"

end Event

end BgpTestbed
