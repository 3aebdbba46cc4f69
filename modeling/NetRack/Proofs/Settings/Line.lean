import NetRack.Proofs.Command.Bounds
import NetRack.Proofs.Devices
import NetRack.Proofs.Settings.Command

/-!
# What becomes of settings

A line that is given to a device makes a step from its settings or leaves them as they are, and whatever else is
done to a lab leaves the settings of all devices.  So an invariant of settings that holds of new devices and that
no step of a command within its bounds breaks holds of every device that a lab comes to have.
-/

namespace NetRack

open Outcome

namespace Console

variable {d : Device} {line : String} {c : Command}

/-- What a line asks for is within its bounds. -/
theorem Asks.bounded (asks : Asks d line c) : c.Bounded d := (request?_bounds d line d.mode 0).value asks c rfl

end Console

open Console

namespace Topology

/-- What holds of the settings of new devices, and holds of all that steps make of settings that it holds of,
holds of the settings of every device that a lab comes to have. -/
theorem reached_settings {P : Settings → Prop} (new : ∀ type hostname id, P (Device.factory type hostname id).settings)
    (step : ∀ (d : Device) (c : Command) (s : Settings), d.Sound → c.Admissible d → c.Bounded d → P d.settings →
      d.settings.Step c s → P s)
    (cs : List Change) {key : String} {d : Device} (hd : (reached cs).devices.get? key = some d) : P d.settings := by
  refine reached_devices (P := fun d => P d.settings) new (fun d d' same h => ?_) (fun d _ h => h)
    (fun t key d line c o ordered hd asks done h => ?_) cs hd
  · rwa [Device.settings_of_frame same]
  · have sound := ordered.sound.devices key d hd
    exact step d c _ sound asks.admissible asks.bounded h ((command_settings sound t c).value done)

end Topology

end NetRack
