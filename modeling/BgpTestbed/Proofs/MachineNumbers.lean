import BgpTestbed.Proofs.Numbering
import BgpTestbed.Proofs.RefusedHosts

/-!
# Numbers of hosts as machine words

Machine words number hosts as numbers without a bound do, as long as the word
behind the last host exists.  Otherwise a program that checks its sums panics,
and any other one goes on from zero.
-/

namespace BgpTestbed

namespace Network

section AllDerive

variable {declarations : List (String × Prefix)} {hosts : NameMap Host}
  {next : UInt64}
  (allDerive : ∀ declaration ∈ declarations, ∃ routerSubnet hostSubnet,
    declaration.2.hostSubnets = .ok (routerSubnet, hostSubnet))
include allDerive

end AllDerive

end Network

end BgpTestbed
