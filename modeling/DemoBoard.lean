import DemoBoard.ByteMemory
import DemoBoard.Flash
import DemoBoard.FlashOperations
import DemoBoard.ItemStorePage
import DemoBoard.ItemStore
import DemoBoard.ItemStoreAdd
import DemoBoard.ItemStoreEnumeration
import DemoBoard.ItemStoreSuffix
import DemoBoard.BleContext
import DemoBoard.BleGap
import DemoBoard.BleSubsystem
import DemoBoard.ChunkedReadout
import DemoBoard.CriticalBattery
import DemoBoard.DownloadFreshness
import DemoBoard.ItemCounters
import DemoBoard.ItemStoreFullPage
import DemoBoard.ItemStorePowerLoss
import DemoBoard.MessageBrokerRuns
import DemoBoard.PairingConfirmation
import DemoBoard.SampleDownload
import DemoBoard.SettingsController
import DemoBoard.SettingsPowerLoss
import DemoBoard.TimerList
import DemoBoard.TimerServerRuns
import DemoBoard.ControllerAgreement
import DemoBoard.DeletedStores
import DemoBoard.EnumerationAnswers
import DemoBoard.EnumerationSnapshot
import DemoBoard.WriteSafety
import DemoBoard.AdvertisingStatus
import DemoBoard.FlashFaults
import DemoBoard.ItemStoreBoot
import DemoBoard.LinkedList
import DemoBoard.LoggingDrift
import DemoBoard.PairingCode
import DemoBoard.SamplePairs
import DemoBoard.SensorTransfers
import DemoBoard.SettingsAnnouncement
import DemoBoard.SavedSettings
import DemoBoard.WriteFailures
import DemoBoard.TimerClock
import DemoBoard.TimerDeadlines
import DemoBoard.InterruptedDeleteLoss
import DemoBoard.CyclicBufferRuns
import DemoBoard.TimerDeletes
import DemoBoard.SensorLabels
import DemoBoard.FlashRoundTrip
import DemoBoard.FlashEraseRuns
import DemoBoard.BatteryMedian
import DemoBoard.FourDigits
import DemoBoard.ItemStoreNewest
import DemoBoard.ItemStoreCounting
import DemoBoard.ButtonSessions
import DemoBoard.SequencerFairness
import DemoBoard.HciCommandRuns
import DemoBoard.ScheduledBrokers
import DemoBoard.AdvertisementRuns
import DemoBoard.EventMailboxRuns
import DemoBoard.SensorReadout
import DemoBoard.LowPowerRuns
import DemoBoard.GattDispatch
