import DemoBoard.ExchangeSort
import DemoBoard.Messages
import Mathlib.Data.List.FinRange
import Mathlib.Data.List.Rotate
import Mathlib.Data.List.Sort

namespace DemoBoard

open ExchangeSort

/-!
# Battery monitor

Model of the measurements of `power_manager/BatteryMonitor.c`.  The last four
voltages are kept in a ring; each of them is followed by a sort of a copy and
by a new battery level.
-/

/-- `HISTORY_DEPTH` -/
def historyDepth : Nat := 4

/-- `BATTERY_THRESHOLD_NO_RESTRICTION` -/
def thresholdNoRestriction : UInt32 := 2750

/-- `BATTERY_THRESHOLD_RESTRICTED_OPERATION` -/
def thresholdRestrictedOperation : UInt32 := 2500

/-- The C comparison of `uint32_t` values is a linear order. -/
instance uint32LinearOrder : LinearOrder UInt32 where
  le_refl := UInt32.le_refl
  le_trans := fun _ _ _ => UInt32.le_trans
  le_antisymm := fun _ _ => UInt32.le_antisymm
  le_total := UInt32.le_total
  lt_iff_le_not_ge := fun a b => by
    rw [UInt32.lt_iff_toNat_lt, UInt32.le_iff_toNat_le,
      UInt32.le_iff_toNat_le]
    exact lt_iff_le_not_ge
  toDecidableLE := inferInstance

/-- `BatteryMonitor_t` with the measurement buffers of the module. -/
structure BatteryMonitor where
  batteryLevelMV : UInt32
  remainingCapacity : UInt8
  actualApplicationState : UInt8
  batteryVoltageMeasurements : Fin historyDepth → UInt32
  bufferIndex : Fin historyDepth
  historyComplete : Bool
  batteryVoltageMeasurementsSorted : Fin historyDepth → UInt32

namespace BatteryMonitor

/-- `VbatToApplicationState` -/
def vbatToApplicationState (vbatMv : UInt32) : UInt8 :=
  if vbatMv > thresholdNoRestriction then
    BatteryState.noRestriction
  else if vbatMv > thresholdRestrictedOperation then
    BatteryState.reducedOperation
  else
    BatteryState.criticalBatteryLevel

/-- `ComputeRemainingCapacity` -/
def computeRemainingCapacity
    (monitor : BatteryMonitor) (batteryLevelMv : UInt32) : UInt8 :=
  let level := batteryLevelMv.toFloat32
  if monitor.actualApplicationState = BatteryState.noRestriction then
    (min 100 (level * 0.3 + (-800)).round).toUInt8
  else
    (max 0 (min 25 (level * 0.08 + (-190)).round)).toUInt8

/-- `CopyAndSortMeasurements` -/
def copyAndSortMeasurements (monitor : BatteryMonitor) : BatteryMonitor :=
  { monitor with
    batteryVoltageMeasurementsSorted :=
      exchangeSort monitor.batteryVoltageMeasurements }

/-- `GetMeasuredVoltagesMedianMv` -/
def getMeasuredVoltagesMedianMv
    (monitor : BatteryMonitor) : BatteryMonitor × UInt32 :=
  let monitor := monitor.copyAndSortMeasurements
  let index1 : Fin historyDepth := ⟨historyDepth / 2, by decide⟩
  let index2 : Fin historyDepth :=
    if historyDepth % 2 = 0 then
      ⟨historyDepth / 2 + 1, by decide⟩
    else
      index1
  (monitor,
    (monitor.batteryVoltageMeasurementsSorted index1 +
      monitor.batteryVoltageMeasurementsSorted index2) / 2)

/-- `BATTERY_MONITOR_MESSAGE_ID_STATE_CHANGE` with both states. -/
def stateChangeMessage (currentState previousState : UInt8) : Message where
  id := batteryStateChange
  parameter1 := 0
  category := Category.batteryEvent
  parameter2 := currentState.toUInt32 ||| (previousState.toUInt32 <<< 8)

/-- `BATTERY_MONITOR_MESSAGE_ID_CAPACITY_CHANGE` with the capacity. -/
def capacityChangeMessage (remainingCapacity : UInt8) : Message where
  id := batteryCapacityChange
  parameter1 := 0
  category := Category.batteryEvent
  parameter2 := remainingCapacity.toUInt32 <<< 16

/-- Store a measurement at the insert index. -/
def storeMeasurement
    (monitor : BatteryMonitor) (vbatMv : UInt32) : BatteryMonitor :=
  { monitor with
    batteryVoltageMeasurements :=
      Function.update monitor.batteryVoltageMeasurements
        monitor.bufferIndex vbatMv }

/-- `InitializeVbatCb` -/
def initializeVbatCb
    (monitor : BatteryMonitor) (vbatMv : UInt32) : BatteryMonitor :=
  { ({ monitor with
        bufferIndex := ⟨0, by decide⟩
        historyComplete := false } : BatteryMonitor).storeMeasurement
      vbatMv with
    bufferIndex := ⟨1, by decide⟩ }

/-- Advance the insert index; the history is complete after its end. -/
def advanceIndex (monitor : BatteryMonitor) : BatteryMonitor :=
  if more : monitor.bufferIndex + 1 < historyDepth then
    { monitor with bufferIndex := ⟨monitor.bufferIndex + 1, more⟩ }
  else
    { monitor with
      bufferIndex := ⟨0, by decide⟩
      historyComplete := true }

/-- Replace the battery level by the median of the measurements. -/
def updateLevel (monitor : BatteryMonitor) : BatteryMonitor :=
  let median := monitor.getMeasuredVoltagesMedianMv
  { median.1 with batteryLevelMV := median.2 }

/-- Derive the application state from the level; publish a change. -/
def updateState (monitor : BatteryMonitor) : BatteryMonitor × List Message :=
  let state := monitor.actualApplicationState
  let monitor :=
    { monitor with
      actualApplicationState :=
        vbatToApplicationState monitor.batteryLevelMV }
  if state ≠ monitor.actualApplicationState then
    (monitor, [stateChangeMessage monitor.actualApplicationState state])
  else
    (monitor, [])

/-- Record a remaining capacity; publish a change. -/
def updateCapacity
    (monitor : BatteryMonitor) (remainingCapacity : UInt8) :
    BatteryMonitor × List Message :=
  if remainingCapacity ≠ monitor.remainingCapacity then
    ({ monitor with remainingCapacity := remainingCapacity },
      [capacityChangeMessage remainingCapacity])
  else
    (monitor, [])

/-- `UpdateVbatCb`, with the application messages it publishes. -/
def updateVbatCb
    (monitor : BatteryMonitor) (vbatMv : UInt32) :
    BatteryMonitor × List Message :=
  let monitor := (monitor.storeMeasurement vbatMv).advanceIndex
  if monitor.historyComplete = false then
    -- no level before the history is complete
    (monitor, [])
  else
    let state := monitor.updateLevel.updateState
    let capacity :=
      state.1.updateCapacity
        (state.1.computeRemainingCapacity state.1.batteryLevelMV)
    (capacity.1, state.2 ++ capacity.2)

/-- The monitor after a first and some further measurements. -/
def measured
    (monitor : BatteryMonitor) (first : UInt32) (others : List UInt32) :
    BatteryMonitor :=
  others.foldl (fun monitor vbatMv => (monitor.updateVbatCb vbatMv).1)
    (monitor.initializeVbatCb first)

end BatteryMonitor

end DemoBoard
