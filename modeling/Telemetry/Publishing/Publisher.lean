import Telemetry.Duration
import Telemetry.Error
/-!
Publishers: a backend that readings are sent to, and the time from one sending to the next, which is
never zero.
-/
namespace Telemetry

/-- A backend and the time between two publications (`PushRegistry`). -/
structure Publisher where
  backend : Backend
  step : Duration
  step_pos : 0 < step.nanoseconds
deriving DecidableEq

namespace Publisher

/-- The failure of a publisher that would publish without pause. -/
def zeroStep (backend : Backend) : Error :=
  .invalidSetting (backend.name ++ ".step") "step must be greater than zero"

/-- The publisher of a backend and a step (`PushRegistry::new`). -/
def new (backend : Backend) (step : Duration) : Except Error Publisher :=
  if positive : 0 < step.nanoseconds then .ok ⟨backend, step, positive⟩
  else .error (zeroStep backend)

end Publisher
end Telemetry
