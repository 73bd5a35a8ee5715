import Tabula.Fault
import Tabula.History

/-!
# Why a call of a session fails

A call fails for a reason of its own, or for one that the data, the history or the table service
gave. `FaultClass` is the rough sorting by which a user is told what to do.
-/

namespace Tabula

/-- Why a call of a session failed. -/
inductive SessionFault where
  /-- A filter is under way. -/
  | filterUnderWay
  /-- There is no table. -/
  | noTable
  /-- The table is not a file of the service. -/
  | notOnService
  /-- The data does not allow it. -/
  | data (fault : DataFault)
  /-- The history does not allow it. -/
  | history (fault : HistoryFault)
  /-- The service did not do it. -/
  | service (fault : ServiceFault)
deriving DecidableEq, Repr

/-- What kind of trouble a fault is. -/
inductive FaultClass where
  /-- Something did not get through. -/
  | delivery
  /-- Something was asked for that makes no sense. -/
  | misuse
  /-- The service refused. -/
  | refusal
deriving DecidableEq, Repr

/-- The class of a fault of the service. -/
def ServiceFault.faultClass : ServiceFault → FaultClass
  | lost _ => .delivery
  | refused _ => .refusal

namespace SessionFault

/-- The text of a fault. -/
def message : SessionFault → String
  | filterUnderWay => "a filter is already being applied"
  | noTable => "no dataset has been loaded"
  | notOnService => "the dataset is not stored on the server"
  | data fault => fault.message
  | history fault => fault.message
  | service fault => fault.message

/-- The class of a fault. -/
def faultClass : SessionFault → FaultClass
  | service fault | data (.service fault) => fault.faultClass
  | data (.unreadable _) => .delivery
  | _ => .misuse

end SessionFault

end Tabula
