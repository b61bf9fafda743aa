import Acquisition.Board.Events
import Acquisition.Effect
/-! The board's firmware as the driver sees it: a settings channel and a source of events. -/
namespace Acquisition

structure Board (σ : Type) where
  getSettings : String → Op σ String
  setSettings : String → Op σ String
  /-- The events reported since the previous call. -/
  readEvents : Op σ (List Event)

end Acquisition
