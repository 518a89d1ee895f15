import DiskQuota.Fsrm.Service
import DiskQuota.Recording
import DiskQuota.Script
import DiskQuota.Scripted

/-!
The services that scripts run on, each with the commands that it alone understands.
-/
namespace DiskQuota

/-- The recording service and its controls. -/
def Recording.bench : Bench State Call Control Control.Reply where
  service := service
  control k past s :=
    let (reply, s) := k.run past s
    ⟨reply, [], s⟩

/-- The scripted service, which has no commands of its own. -/
def Scripted.bench : Bench State Call Empty Empty where
  service := service
  control k := nomatch k

/-- The service of the file server resource manager, and what can be done beside the manager. -/
def Fsrm.bench : Bench Machine Call Control Control.Reply where
  service := service
  control k _ := k.run

end DiskQuota
