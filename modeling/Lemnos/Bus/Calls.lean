import Lemnos.Bus.Session
import Lemnos.Library.Frames

namespace Lemnos.Bus

open Library.Frames

def runCallOn {S α : Type} (setMetadata : (SessionMetadata → SessionMetadata) → S → S)
    (call : Effect S BusError α) : Effect S BusError α := do
  modify (setMetadata .beginCall)
  let result ← call.attempt
  modify (setMetadata (·.finishCall result))
  MonadExcept.ofExcept result

theorem exec_runCallOn {S α : Type} (setMetadata : (SessionMetadata → SessionMetadata) → S → S)
    (call : Effect S BusError α) (s : S) :
    (runCallOn setMetadata call).exec s =
      let after := call.exec (setMetadata .beginCall s)
      (after.1, setMetadata (·.finishCall after.1) after.2) := by
  rw [runCallOn, exec_bind_of_ok (exec_modify _ s), exec_bind_of_ok (exec_attempt _ _),
    exec_bind_of_ok (exec_modify _ _), exec_ofExcept]

end Lemnos.Bus
