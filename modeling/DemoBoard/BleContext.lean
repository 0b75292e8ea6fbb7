import DemoBoard.MeasurementItemController

namespace DemoBoard

open ByteMemory

/-!
# BLE context

Model of the sample download in `app/BleContext.c` and of the frames
`DataLoggerService.c` builds.
`DataLoggerService_UpdateSampleDataCharacteristic` hands a frame to the BLE
stack; whether the stack accepts it is an input.  The pointers in a response
are dereferenced when the response is handled.
-/

/-- `TX_FRAME_SIZE` -/
def txFrameSize : Nat := 20

/-- `SHT4x_SAMPLE_TYPE` -/
def sht4xSampleType : Nat := 5

/-- Memory image of the metadata. -/
def SamplesMetaData.toBytes (metadata : SamplesMetaData) : List Byte :=
  leBytes 4 metadata.loggingIntervalMs.toNat ++
    (leBytes 4 metadata.ageOfLatestSample.toNat ++
      leBytes 2 metadata.numberOfSamples)

/-- `DataLoggerService_BuildHeaderFrame` -/
def buildHeaderFrame (metadata : SamplesMetaData) : List Byte :=
  (leBytes 4 0 ++ (leBytes 2 sht4xSampleType ++ metadata.toBytes)).rightpad
    txFrameSize 0

/-- `DataLoggerService_BuildDataFrame` -/
def buildDataFrame (frameIndex : Nat) (data : List Byte) : List Byte :=
  (leBytes 2 frameIndex ++ data).rightpad txFrameSize 0

/--
`SampleDataNotificationState_t`; the data pointer of `sampleData` is the cache
of the sample request.
-/
structure SampleNotification where
  nrOfSamplesToTransmit : Nat
  samplesTransmitted : Nat
  currentFrameIndex : Nat
  currentDataIndex : Nat
  dataLength : Nat
  txFrameBuffer : List Byte
  deriving Repr, DecidableEq

/-- A frame handed to the BLE stack. -/
inductive Handed where
  | header (frame : List Byte) (accepted : Bool)
  /-- A data frame and the range of the cache it was made from. -/
  | data (frame : List Byte) (offset length : Nat) (accepted : Bool)
  deriving Repr, DecidableEq

/-- The frame of a hand-over that the stack accepted. -/
def Handed.accepted? : Handed → Option (List Byte)
  | .header frame true => some frame
  | .data frame _ _ true => some frame
  | _ => none

/-- A hand-over that the stack refused. -/
def Handed.isRefused : Handed → Bool
  | .header _ accepted => !accepted
  | .data _ _ _ accepted => !accepted

/-- What a handler of the BLE context leaves behind. -/
structure SendResult where
  notification : SampleNotification
  handed : List Handed
  /-- `SERVICE_REQUEST_MESSAGE_ID_GET_NEXT_SAMPLES` is published. -/
  requestsNext : Bool
  deriving Repr, DecidableEq

namespace SampleNotification

/-- The initial value of `_sampleNotification`. -/
def static : SampleNotification where
  nrOfSamplesToTransmit := 0
  samplesTransmitted := 0
  currentFrameIndex := 0
  currentDataIndex := 0
  dataLength := 0
  txFrameBuffer := List.replicate txFrameSize 0

/-- `TrySendFirstFrame` -/
def trySendFirstFrame (notification : SampleNotification) (accepted : Bool) :
    SendResult :=
  let handed := [.header notification.txFrameBuffer accepted]
  if accepted then
    { notification :=
        { notification with
          currentFrameIndex := (notification.currentFrameIndex + 1) % 65536 }
      handed := handed
      requestsNext := true }
  else
    { notification := notification, handed := handed, requestsNext := false }

/-- `StopSendSamples` -/
def stopSendSamples (notification : SampleNotification) :
    SampleNotification :=
  -- don't clear a pending request if the download is not yet started
  if notification.samplesTransmitted > 0 ∧
      notification.nrOfSamplesToTransmit > 0 then
    { notification with dataLength := 0, nrOfSamplesToTransmit := 0 }
  else
    notification

/-- The length of the next data frame. -/
def frameLength (notification : SampleNotification) : Nat :=
  min 16
    (4 * (notification.nrOfSamplesToTransmit -
      notification.samplesTransmitted))

/-- The next data frame. -/
def nextFrame (cache : Memory) (notification : SampleNotification) :
    List Byte :=
  buildDataFrame notification.currentFrameIndex
    (readBytes cache notification.currentDataIndex notification.frameLength)

/-- The state after a data frame is accepted. -/
def frameSent (cache : Memory) (notification : SampleNotification) :
    SampleNotification :=
  let length := notification.frameLength
  { notification with
    txFrameBuffer := notification.nextFrame cache
    currentDataIndex := (notification.currentDataIndex + length) % 65536
    currentFrameIndex := (notification.currentFrameIndex + 1) % 65536
    samplesTransmitted :=
      (notification.samplesTransmitted + length / 4) % 65536 }

/-- The loop condition of `TrySendSampleFrames`. -/
def hasFrame (notification : SampleNotification) : Bool :=
  notification.currentDataIndex < notification.dataLength ∧
    notification.nrOfSamplesToTransmit > notification.samplesTransmitted

/--
The while loop of `TrySendSampleFrames`.  The stack refuses a frame when the
outcomes are used up.  The last component is `false` where the function
returns from within the loop.
-/
def sendLoop (cache : Memory) :
    List Bool → SampleNotification →
      SampleNotification × List Handed × Bool
  | outcomes, notification =>
      if notification.hasFrame then
        let handed := Handed.data (notification.nextFrame cache)
          notification.currentDataIndex notification.frameLength
        match outcomes with
        | true :: rest =>
            let sent := sendLoop cache rest (notification.frameSent cache)
            (sent.1, handed true :: sent.2.1, sent.2.2)
        | _ =>
            ({ notification with
              txFrameBuffer := notification.nextFrame cache },
              [handed false], false)
      else
        (notification, [], true)

/-- `TrySendSampleFrames` -/
def trySendSampleFrames
    (cache : Memory) (outcomes : List Bool)
    (notification : SampleNotification) : SendResult :=
  let sent := sendLoop cache outcomes notification
  if ¬ sent.2.2 then
    { notification := sent.1, handed := sent.2.1, requestsNext := false }
  else if sent.1.nrOfSamplesToTransmit > sent.1.samplesTransmitted then
    -- we are not yet done
    { notification := sent.1, handed := sent.2.1, requestsNext := true }
  else
    { notification := stopSendSamples sent.1
      handed := sent.2.1
      requestsNext := false }

/-- The responses that concern the sample download. -/
inductive Response where
  | setRequestedSamples
  | getNextSamples
  | txPoolAvailable
  deriving Repr, DecidableEq

/-- `HandleServiceRequestResponse`; the messages point into the request. -/
def handleServiceRequestResponse
    (request : SampleRequestData) (outcomes : List Bool)
    (notification : SampleNotification) : Response → SendResult
  | .setRequestedSamples =>
      trySendFirstFrame
        { notification with
          currentFrameIndex := 0
          samplesTransmitted := 0
          nrOfSamplesToTransmit := request.metadata.numberOfSamples
          txFrameBuffer := buildHeaderFrame request.metadata }
        (outcomes.headD false)
  | .getNextSamples =>
      trySendSampleFrames request.samplesCache outcomes
        { notification with
          dataLength := request.dataLength
          currentDataIndex := 0 }
  | .txPoolAvailable =>
      trySendSampleFrames request.samplesCache outcomes notification

end SampleNotification

end DemoBoard
