import DemoBoard.BleContext

namespace DemoBoard.DownloadFreshness

open ByteMemory SampleNotification MeasurementItemController

/-!
# Whose data a download sends

Subscriptions start downloads one after the other while requests, responses
and pool events of an older download are still queued.  Every byte of the
cache remembers the download in which it was fetched, and every data frame the
download of the last header frame before it.
-/

/-- The messages in the application queue. -/
inductive AppMessage where
  | setRequestedSamples (parameter : Nat)
  | getNextSamples
  /-- `ITEM_STORE_MESSAGE_BEGIN_ENUMERATE` for the measurement store. -/
  | beginEnumerate
  deriving Repr, DecidableEq

/-- What the item store and the controller contribute to an enumeration. -/
structure Enumerated where
  controller : MeasurementItemController
  ready : Bool
  count : Nat
  items : List (List Byte)
  sized : ∀ data ∈ items, data.length = measurementSampleSize

/-- A response in the BLE queue and the download it was published in. -/
structure Queued where
  response : Response
  download : Nat
  deriving Repr, DecidableEq

/-- A data frame handed to the BLE stack. -/
structure SentData where
  /-- The download of the last header frame. -/
  header : Nat
  /-- The downloads in which its bytes were fetched. -/
  origins : List Nat
  deriving Repr, DecidableEq

/-- The two parties and their queues. -/
structure SessionState where
  notification : SampleNotification
  request : SampleRequestData
  callback : EnumeratorCallback
  appQueue : List AppMessage
  bleQueue : List Queued
  /-- The number of handled `SET_REQUESTED_SAMPLES` requests. -/
  downloads : Nat
  /-- The download in which a byte of the cache was fetched. -/
  origin : Nat → Nat
  /-- The download of the last header frame. -/
  header : Nat
  sent : List SentData

/-- The state after a reset. -/
def start : SessionState where
  notification := .static
  request := .static
  callback := .none
  appQueue := []
  bleQueue := []
  downloads := 0
  origin := fun _ => 0
  header := 0
  sent := []

/-- What can happen next. -/
inductive Event where
  | subscribe (requestedSamples : Nat)
  | unsubscribe
  /-- `ACI_GATT_TX_POOL_AVAILABLE_VSEVT_CODE` -/
  | poolAvailable
  /--
  The application dispatches a message; an enumeration request is not accepted
  while the item store is busy.
  -/
  | application (enumerated : Option Enumerated)
  /-- The BLE context handles a response; the stack accepts these frames. -/
  | bleContext (outcomes : List Bool)

/-- `ItemStore_BeginEnumerate` of the measurement store. -/
def requestEnumeration
    (state : SessionState) (callback : EnumeratorCallback) :
    SessionState :=
  { state with
    callback := callback
    appQueue := state.appQueue ++ [.beginEnumerate] }

/-- Publish a response to the BLE context. -/
def publish (state : SessionState) (response : Response) : SessionState :=
  { state with
    bleQueue :=
      state.bleQueue ++
        [{ response := response, download := state.downloads }] }

/-- The callback that is registered when the enumeration begins. -/
def enumerationBegun
    (state : SessionState) (enumerated : Enumerated) : SessionState :=
  match state.callback with
  | .beginReadSamples =>
      publish
        { state with
          request :=
            beginReadSamples enumerated.controller state.request
              enumerated.ready enumerated.count }
        .setRequestedSamples
  | .readMoreSamples =>
      if enumerated.ready then
        let request :=
          (readMoreSamples listOps enumerated.items state.request).2
        publish
          { state with
            request := request
            origin := fun address =>
              if address < request.dataLength then
                state.downloads
              else
                state.origin address }
          .getNextSamples
      else
        state
  | _ => state

/-- The data frames among the frames handed over. -/
def sentData
    (header : Nat) (origin : Nat → Nat) (handed : List Handed) :
    List SentData :=
  handed.filterMap fun
    | .header _ _ => none
    | .data _ offset length _ =>
        some
          { header := header
            origins :=
              (List.range length).map fun index => origin (offset + index) }

/-- A step of the system; an event that cannot happen changes nothing. -/
def step (state : SessionState) : Event → SessionState
  | .subscribe requestedSamples =>
      { state with
        appQueue :=
          state.appQueue ++ [.setRequestedSamples requestedSamples] }
  | .unsubscribe =>
      { state with notification := stopSendSamples state.notification }
  | .poolAvailable => publish state .txPoolAvailable
  | .application enumerated =>
      match state.appQueue with
      | [] => state
      | message :: appQueue =>
          let state := { state with appQueue := appQueue }
          match message with
          | .setRequestedSamples parameter =>
              requestEnumeration
                { state with
                  request := setRequestedSamples state.request parameter
                  downloads := state.downloads + 1 }
                .beginReadSamples
          | .getNextSamples => requestEnumeration state .readMoreSamples
          | .beginEnumerate =>
              match enumerated with
              | none => state
              | some enumerated => enumerationBegun state enumerated
  | .bleContext outcomes =>
      match state.bleQueue with
      | [] => state
      | queued :: bleQueue =>
          let result := handleServiceRequestResponse state.request outcomes
            state.notification queued.response
          let header :=
            if queued.response = .setRequestedSamples then
              queued.download
            else
              state.header
          { state with
            notification := result.notification
            appQueue :=
              if result.requestsNext then
                state.appQueue ++ [.getNextSamples]
              else
                state.appQueue
            bleQueue := bleQueue
            header := header
            sent := state.sent ++
              sentData header state.origin result.handed }

/-- The frames of a chunk do not read beyond its end. -/
def FramesWithin (notification : SampleNotification) : Prop :=
  notification.currentDataIndex < notification.dataLength →
    (notification.dataLength - notification.currentDataIndex) % 16 = 0 ∨
      4 * (notification.nrOfSamplesToTransmit -
          notification.samplesTransmitted) ≤
        notification.dataLength - notification.currentDataIndex

/--
A header frame is built when no data of an older chunk is left, and a chunk
that is not the last one of its download consists of full frames.
-/
def Proper (state : SessionState) : Event → Prop
  | .bleContext _ =>
      match state.bleQueue with
      | [] => True
      | queued :: _ =>
          match queued.response with
          | .setRequestedSamples =>
              state.notification.dataLength ≤
                state.notification.currentDataIndex
          | .getNextSamples =>
              FramesWithin
                { state.notification with
                  dataLength := state.request.dataLength
                  currentDataIndex := 0 }
          | .txPoolAvailable => FramesWithin state.notification
  | _ => True

/-- A run all of whose steps are proper. -/
inductive ProperRun : SessionState → List Event → SessionState → Prop
  | nil (state : SessionState) : ProperRun state [] state
  | cons {state final : SessionState} {event : Event}
      {events : List Event} :
      Proper state event → ProperRun (step state event) events final →
        ProperRun state (event :: events) final

/-- Every data frame carries bytes fetched in the download of its header. -/
def SendsOwnData (state : SessionState) : Prop :=
  ∀ data ∈ state.sent, ∀ origin ∈ data.origins, data.header ≤ origin

section Frames

variable {notification : SampleNotification}

/-- An accepted frame keeps the others within the chunk. -/
theorem framesWithin_frameSent
    (cache : Memory)
    (small : notification.dataLength ≤ 4080)
    (samples_lt : notification.nrOfSamplesToTransmit < 65536)
    (within : FramesWithin notification)
    (more : notification.hasFrame = true) :
    FramesWithin (notification.frameSent cache) ∧
      notification.currentDataIndex + notification.frameLength ≤
        notification.dataLength := by
  simp only [hasFrame, decide_eq_true_eq] at more
  have chunk := within more.1
  simp only [FramesWithin, frameSent, frameLength]
  omega

/-- Without data the loop does nothing. -/
theorem sendLoop_noFrame
    (cache : Memory)
    (outcomes : List Bool)
    (noFrame : notification.hasFrame = false) :
    sendLoop cache outcomes notification = (notification, [], true) := by
  cases outcomes <;> simp [sendLoop, noFrame]

/-- The data frames among frames handed over lie within a chunk. -/
def Within (dataLength : Nat) (handed : List Handed) : Prop :=
  ∀ frame offset length accepted,
    .data frame offset length accepted ∈ handed →
      offset + length ≤ dataLength

/-- The frames of the loop lie within the chunk. -/
theorem sendLoop_within
    (cache : Memory)
    (outcomes : List Bool)
    (small : notification.dataLength ≤ 4080)
    (samples_lt : notification.nrOfSamplesToTransmit < 65536)
    (within : FramesWithin notification) :
    (sendLoop cache outcomes notification).1.dataLength =
        notification.dataLength ∧
      (sendLoop cache outcomes notification).1.nrOfSamplesToTransmit =
        notification.nrOfSamplesToTransmit ∧
      Within notification.dataLength
        (sendLoop cache outcomes notification).2.1 := by
  induction outcomes generalizing notification with
  | nil =>
      rw [sendLoop]
      cases more : notification.hasFrame with
      | false => simp [Within]
      | true =>
          have next := framesWithin_frameSent cache small samples_lt within
            more
          refine ⟨rfl, rfl, ?_⟩
          intro frame offset length accepted member
          cases List.mem_singleton.mp member
          exact next.2
  | cons outcome rest inductionHypothesis =>
      rw [sendLoop]
      cases more : notification.hasFrame with
      | false => simp [Within]
      | true =>
          have next := framesWithin_frameSent cache small samples_lt within
            more
          cases outcome with
          | false =>
              refine ⟨rfl, rfl, ?_⟩
              intro frame offset length accepted member
              cases List.mem_singleton.mp member
              exact next.2
          | true =>
              have later := @inductionHypothesis
                (notification.frameSent cache) small samples_lt next.1
              refine ⟨later.1, later.2.1, ?_⟩
              intro frame offset length accepted member
              rcases List.mem_cons.mp member with first | others
              · cases first
                exact next.2
              · exact later.2.2 frame offset length accepted others

/-- Cancelling keeps the bounds of the fields. -/
theorem stopSendSamples_le (notification : SampleNotification) :
    (stopSendSamples notification).nrOfSamplesToTransmit ≤
        notification.nrOfSamplesToTransmit ∧
      (stopSendSamples notification).dataLength ≤
        notification.dataLength ∧
      (stopSendSamples notification).currentDataIndex =
        notification.currentDataIndex := by
  rw [stopSendSamples]
  split
  · exact ⟨Nat.zero_le _, Nat.zero_le _, rfl⟩
  · exact ⟨Nat.le_refl _, Nat.le_refl _, rfl⟩

/-- What `TrySendSampleFrames` does with a chunk. -/
theorem trySendSampleFrames_within
    (cache : Memory)
    (outcomes : List Bool)
    (small : notification.dataLength ≤ 4080)
    (samples_lt : notification.nrOfSamplesToTransmit < 65536)
    (within : FramesWithin notification) :
    let result := trySendSampleFrames cache outcomes notification
    result.notification.nrOfSamplesToTransmit ≤
        notification.nrOfSamplesToTransmit ∧
      result.notification.dataLength ≤ notification.dataLength ∧
      Within notification.dataLength result.handed := by
  have loop := sendLoop_within cache outcomes small samples_lt within
  simp only [trySendSampleFrames]
  split
  · exact ⟨Nat.le_of_eq loop.2.1, Nat.le_of_eq loop.1, loop.2.2⟩
  · split
    · exact ⟨Nat.le_of_eq loop.2.1, Nat.le_of_eq loop.1, loop.2.2⟩
    · have stopped := stopSendSamples_le
        (sendLoop cache outcomes notification).1
      exact ⟨stopped.1.trans (Nat.le_of_eq loop.2.1),
        stopped.2.1.trans (Nat.le_of_eq loop.1), loop.2.2⟩

/-- Without data `TrySendSampleFrames` sends nothing. -/
theorem trySendSampleFrames_noData
    (cache : Memory)
    (outcomes : List Bool)
    (noData :
      notification.dataLength ≤ notification.currentDataIndex) :
    let result := trySendSampleFrames cache outcomes notification
    result.notification.dataLength ≤
        result.notification.currentDataIndex ∧
      result.handed = [] := by
  have noFrame : notification.hasFrame = false := by
    simp only [hasFrame, decide_eq_false_iff_not]
    omega
  simp only [trySendSampleFrames,
    sendLoop_noFrame cache outcomes noFrame, not_true_eq_false, if_false]
  split
  · exact ⟨noData, rfl⟩
  · have stopped := stopSendSamples_le notification
    refine ⟨?_, rfl⟩
    rw [stopped.2.2]
    exact stopped.2.1.trans noData

end Frames

/-- What holds in every state of a proper run. -/
structure Invariant (state : SessionState) : Prop where
  request_small : state.request.dataLength ≤ 4080
  small : state.notification.dataLength ≤ 4080
  numberOfSamples_lt : state.request.metadata.numberOfSamples < 65536
  samples_lt : state.notification.nrOfSamplesToTransmit < 65536
  origin_le : ∀ address, state.origin address ≤ state.downloads
  header_le : state.header ≤ state.downloads
  queued_le : ∀ queued ∈ state.bleQueue,
    state.header ≤ queued.download ∧ queued.download ≤ state.downloads
  ordered :
    state.bleQueue.Pairwise fun first second =>
      first.download ≤ second.download
  fetched : ∀ queued ∈ state.bleQueue,
    queued.response = .getNextSamples →
      ∀ address, address < state.request.dataLength →
        queued.download ≤ state.origin address
  current :
    state.notification.currentDataIndex < state.notification.dataLength →
      ∀ address, address < state.notification.dataLength →
        state.header ≤ state.origin address
  own : SendsOwnData state

section Steps

variable {state : SessionState}

theorem invariant_start : Invariant start where
  request_small := by decide
  small := by decide
  numberOfSamples_lt := by decide
  samples_lt := by decide
  origin_le := fun _ => Nat.le_refl _
  header_le := Nat.le_refl _
  queued_le := by simp [start]
  ordered := List.Pairwise.nil
  fetched := by simp [start]
  current := fun _ _ _ => Nat.le_refl _
  own := by simp [SendsOwnData, start]

/-- Publishing a response. -/
theorem Invariant.publish
    (invariant : Invariant state)
    {response : Response}
    (fetched : response = .getNextSamples →
      ∀ address, address < state.request.dataLength →
        state.downloads ≤ state.origin address) :
    Invariant (publish state response) :=
  { invariant with
    queued_le := by
      intro queued member
      rcases List.mem_append.mp member with earlier | last
      · exact invariant.queued_le queued earlier
      · rw [List.mem_singleton.mp last]
        exact ⟨invariant.header_le, Nat.le_refl _⟩
    ordered := by
      refine List.pairwise_append.mpr ⟨invariant.ordered,
        List.pairwise_singleton _ _, ?_⟩
      intro first earlier second last
      rw [List.mem_singleton.mp last]
      exact (invariant.queued_le first earlier).2
    fetched := by
      intro queued member isNext
      rcases List.mem_append.mp member with earlier | last
      · exact invariant.fetched queued earlier isNext
      · rw [List.mem_singleton.mp last] at isNext ⊢
        exact fetched isNext }

/-- A fetch changes the addresses of its chunk and no others. -/
theorem readMoreSamples_fetched
    (request : SampleRequestData)
    {items : List (List Byte)}
    (sized : ∀ data ∈ items, data.length = measurementSampleSize) :
    let fetched := (readMoreSamples listOps items request).2
    readBytes fetched.samplesCache 0 fetched.dataLength =
        (items.take (fetched.dataLength / measurementSampleSize)).flatten ∧
      ∀ address, fetched.dataLength ≤ address →
        fetched.samplesCache address = request.samplesCache address := by
  have fetched := readMoreSamples_listOps sized request rfl
  generalize count_eq : min items.length (min samplesCacheSize
    (unreadSamples request)) = count at fetched
  have length : (items.take count).flatten.length =
      count * measurementSampleSize := by
    rw [length_flatten (fun data member =>
      sized data (List.mem_of_mem_take member)), List.length_take,
      Nat.min_eq_left (by omega)]
  refine ⟨?_, ?_⟩
  · rw [fetched.2, fetched.1, Nat.mul_div_cancel _ (by decide)]
  · intro address beyond
    rw [fetched.1] at beyond ⊢
    exact writeBytes_agreeOn request.samplesCache
      (Or.inr (by rw [length, Nat.zero_add]; exact beyond)) address
      (Nat.le_refl _) (Nat.lt_succ_self _)

/-- The chunk `ReadMoreSamples` fetches fits into the cache. -/
theorem readMoreSamples_small
    (request : SampleRequestData)
    {items : List (List Byte)}
    (sized : ∀ data ∈ items, data.length = measurementSampleSize) :
    (readMoreSamples listOps items request).2.dataLength ≤ 4080 ∧
      (readMoreSamples listOps items request).2.metadata =
        request.metadata := by
  rw [(readMoreSamples_listOps sized request rfl).1]
  have size : measurementSampleSize = 8 := rfl
  have room : samplesCacheSize = 510 := rfl
  refine ⟨?_, rfl⟩
  simp only [size, room]
  omega

/-- The begin of an enumeration. -/
theorem Invariant.enumerationBegun
    (invariant : Invariant state)
    (enumerated : Enumerated) :
    Invariant (enumerationBegun state enumerated) := by
  rw [DownloadFreshness.enumerationBegun]
  split
  · have changed : Invariant
        { state with
          request :=
            beginReadSamples enumerated.controller state.request
              enumerated.ready enumerated.count } :=
      { invariant with
        request_small := invariant.request_small
        numberOfSamples_lt := by
          simp only [beginReadSamples]
          split <;> omega
        fetched := invariant.fetched }
    exact changed.publish (by intro contradiction; cases contradiction)
  · split
    · have small := readMoreSamples_small state.request enumerated.sized
      have changed : Invariant
          { state with
            request :=
              (readMoreSamples listOps enumerated.items state.request).2
            origin := fun address =>
              if address <
                  (readMoreSamples listOps enumerated.items
                    state.request).2.dataLength then
                state.downloads
              else
                state.origin address } :=
        { invariant with
          request_small := small.1
          numberOfSamples_lt := by
            rw [small.2]
            exact invariant.numberOfSamples_lt
          origin_le := by
            intro address
            simp only
            split
            · exact Nat.le_refl _
            · exact invariant.origin_le address
          fetched := by
            intro queued member _ address inside
            simp only [if_pos inside]
            exact (invariant.queued_le queued member).2
          current := by
            intro more address inside
            simp only
            split
            · exact invariant.header_le
            · exact invariant.current more address inside }
      refine changed.publish ?_
      intro _ address inside
      simp only [if_pos inside, Nat.le_refl]
    · exact invariant
  · exact invariant

/-- Sending data frames from a chunk of the download of the last header. -/
theorem Invariant.send
    (invariant : Invariant state)
    {queued : Queued}
    {bleQueue : List Queued}
    (popped : state.bleQueue = queued :: bleQueue)
    {notification : SampleNotification}
    {outcomes : List Bool}
    {appQueue : List AppMessage}
    (small : notification.dataLength ≤ 4080)
    (samples_lt : notification.nrOfSamplesToTransmit < 65536)
    (within : FramesWithin notification)
    (current :
      notification.currentDataIndex < notification.dataLength →
        ∀ address, address < notification.dataLength →
          state.header ≤ state.origin address) :
    let result := trySendSampleFrames state.request.samplesCache outcomes
      notification
    Invariant
      { state with
        notification := result.notification
        appQueue := appQueue
        bleQueue := bleQueue
        sent := state.sent ++
          sentData state.header state.origin result.handed } := by
  have sends := trySendSampleFrames_within state.request.samplesCache
    outcomes small samples_lt within
  have silent := @trySendSampleFrames_noData notification
    state.request.samplesCache outcomes
  have ordered := invariant.ordered
  have queuedLe := invariant.queued_le
  have fetched := invariant.fetched
  rw [popped] at ordered queuedLe fetched
  exact
    { invariant with
      small := sends.2.1.trans small
      samples_lt := Nat.lt_of_le_of_lt sends.1 samples_lt
      queued_le := fun other member =>
        queuedLe other (List.mem_cons_of_mem _ member)
      ordered := (List.pairwise_cons.mp ordered).2
      fetched := fun other member =>
        fetched other (List.mem_cons_of_mem _ member)
      current := by
        intro more address inside
        by_cases data :
            notification.currentDataIndex < notification.dataLength
        · exact current data address (Nat.lt_of_lt_of_le inside sends.2.1)
        · have nothing := (silent (by omega)).1
          simp only at more
          omega
      own := by
        intro frame member origin isOrigin
        rcases List.mem_append.mp member with earlier | last
        · exact invariant.own frame earlier origin isOrigin
        · obtain ⟨handed, isHanded, isData⟩ := List.mem_filterMap.mp last
          cases handed with
          | header _ _ => cases isData
          | data bytes offset length accepted =>
              cases isData
              obtain ⟨index, inFrame, rfl⟩ := List.mem_map.mp isOrigin
              have inside := sends.2.2 bytes offset length accepted isHanded
              have bound := List.mem_range.mp inFrame
              by_cases data :
                  notification.currentDataIndex < notification.dataLength
              · exact current data _ (by omega)
              · rw [(silent (by omega)).2] at isHanded
                cases isHanded }

/-- A header frame leaves the chunk alone. -/
theorem trySendFirstFrame_kept
    (notification : SampleNotification)
    (accepted : Bool)
    (header : Nat)
    (origin : Nat → Nat) :
    let result := trySendFirstFrame notification accepted
    result.notification.nrOfSamplesToTransmit =
        notification.nrOfSamplesToTransmit ∧
      result.notification.dataLength = notification.dataLength ∧
      result.notification.currentDataIndex =
        notification.currentDataIndex ∧
      sentData header origin result.handed = [] := by
  cases accepted <;> exact ⟨rfl, rfl, rfl, rfl⟩

/-- The handling of a response. -/
theorem Invariant.bleContext
    (invariant : Invariant state)
    {outcomes : List Bool}
    (proper : Proper state (.bleContext outcomes)) :
    Invariant (step state (.bleContext outcomes)) := by
  rw [step]
  cases popped : state.bleQueue with
  | nil => exact invariant
  | cons queued bleQueue =>
      rw [Proper, popped] at proper
      have first := invariant.queued_le queued
        (by rw [popped]; exact List.mem_cons_self ..)
      cases response : queued.response with
      | setRequestedSamples =>
          simp only [response] at proper
          have ordered := invariant.ordered
          have fetched := invariant.fetched
          have queuedLe := invariant.queued_le
          rw [popped] at ordered fetched queuedLe
          have later := (List.pairwise_cons.mp ordered).1
          have kept := trySendFirstFrame_kept
            { state.notification with
              currentFrameIndex := 0
              samplesTransmitted := 0
              nrOfSamplesToTransmit :=
                state.request.metadata.numberOfSamples
              txFrameBuffer := buildHeaderFrame state.request.metadata }
            (outcomes.headD false) queued.download state.origin
          simp only [response, if_true, handleServiceRequestResponse]
          exact
            { invariant with
              small := by
                rw [kept.2.1]
                exact invariant.small
              samples_lt := by
                rw [kept.1]
                exact invariant.numberOfSamples_lt
              header_le := first.2
              queued_le := fun other member =>
                ⟨later other member,
                  (queuedLe other (List.mem_cons_of_mem _ member)).2⟩
              ordered := (List.pairwise_cons.mp ordered).2
              fetched := fun other member =>
                fetched other (List.mem_cons_of_mem _ member)
              current := by
                intro more
                rw [kept.2.1, kept.2.2.1] at more
                exact absurd more (Nat.not_lt.mpr proper)
              own := by
                rw [kept.2.2.2, List.append_nil]
                exact invariant.own }
      | getNextSamples =>
          simp only [response] at proper
          have fetched := invariant.fetched queued
            (by rw [popped]; exact List.mem_cons_self ..) response
          simp only [response, handleServiceRequestResponse]
          exact invariant.send popped invariant.request_small
            invariant.samples_lt proper
            (fun _ address inside =>
              first.1.trans (fetched address inside))
      | txPoolAvailable =>
          simp only [response] at proper
          simp only [response, handleServiceRequestResponse]
          exact invariant.send popped invariant.small invariant.samples_lt
            proper invariant.current

/-- One proper step. -/
theorem Invariant.step
    (invariant : Invariant state)
    {event : Event}
    (proper : Proper state event) :
    Invariant (step state event) := by
  cases event with
  | subscribe requestedSamples => exact { invariant with }
  | unsubscribe =>
      have stopped := stopSendSamples_le state.notification
      have small := invariant.small
      have samples := invariant.samples_lt
      exact
        { invariant with
          small := by
            simp only [DownloadFreshness.step]
            omega
          samples_lt := by
            simp only [DownloadFreshness.step]
            omega
          current := by
            intro more address inside
            simp only [DownloadFreshness.step] at more inside
            exact invariant.current (by omega) address (by omega) }
  | poolAvailable =>
      exact invariant.publish (by intro contradiction; cases contradiction)
  | application enumerated =>
      rw [DownloadFreshness.step]
      cases state.appQueue with
      | nil => exact invariant
      | cons message appQueue =>
          cases message with
          | setRequestedSamples parameter =>
              exact
                { invariant with
                  origin_le := fun address =>
                    Nat.le_succ_of_le (invariant.origin_le address)
                  header_le := Nat.le_succ_of_le invariant.header_le
                  queued_le := fun queued member =>
                    ⟨(invariant.queued_le queued member).1,
                      Nat.le_succ_of_le
                        (invariant.queued_le queued member).2⟩ }
          | getNextSamples => exact { invariant with }
          | beginEnumerate =>
              have popped : Invariant { state with appQueue := appQueue } :=
                { invariant with }
              cases enumerated with
              | none => exact popped
              | some enumerated => exact popped.enumerationBegun enumerated
  | bleContext outcomes => exact invariant.bleContext proper

/-- A whole proper run. -/
theorem Invariant.run
    {final : SessionState}
    {events : List Event}
    (invariant : Invariant state)
    (run : ProperRun state events final) :
    Invariant final := by
  induction run with
  | nil => exact invariant
  | cons proper _ inductionHypothesis =>
      exact inductionHypothesis (invariant.step proper)

end Steps

/--
In every run in which no data of an older chunk is left when a header frame is
built and chunks consist of full frames, a data frame never carries bytes that
were fetched before the download it belongs to.
-/
theorem proper_session_sends_own_data
    (events : List Event)
    (final : SessionState)
    (run : ProperRun start events final) :
    SendsOwnData final :=
  (invariant_start.run run).own

/-- An enumeration of one item. -/
def oneItem : Enumerated where
  controller := .static
  ready := true
  count := 1
  items := [List.replicate 8 7]
  sized := by decide

/-- A download of one sample. -/
def oneDownload : List Event :=
  [.subscribe 1, .application none, .application (some oneItem),
    .bleContext [true], .application none, .application (some oneItem)]

/--
The data frame of the first download is refused once; the client then
unsubscribes and downloads both samples of an item.
-/
def twoDownloads : List Event :=
  oneDownload ++
    [.bleContext [false], .poolAvailable, .bleContext [true], .unsubscribe,
      .subscribe 2, .application none, .application (some oneItem),
      .bleContext [true], .application none, .application (some oneItem),
      .bleContext [true]]

/-- The second download sends its own data. -/
theorem proper_session_sends_own_data_twice :
    ∃ final,
      ProperRun start twoDownloads final ∧
      final.sent =
        [{ header := 1, origins := [1, 1, 1, 1] },
          { header := 1, origins := [1, 1, 1, 1] },
          { header := 2, origins := [2, 2, 2, 2, 2, 2, 2, 2] }] ∧
      SendsOwnData final := by
  have run :
      ∃ final,
        ProperRun start twoDownloads final ∧
        final.sent =
          [{ header := 1, origins := [1, 1, 1, 1] },
            { header := 1, origins := [1, 1, 1, 1] },
            { header := 2, origins := [2, 2, 2, 2, 2, 2, 2, 2] }] := by
    refine ⟨_, .cons trivial (.cons trivial (.cons trivial
      (.cons (Nat.le_refl 0) (.cons trivial (.cons trivial
        (.cons (fun _ => Or.inr ?_) (.cons trivial
          (.cons (fun _ => Or.inr ?_) (.cons trivial (.cons trivial
            (.cons trivial (.cons trivial (.cons (Nat.zero_le 4)
              (.cons trivial (.cons trivial
                (.cons (fun _ => Or.inr ?_)
                  (.nil _))))))))))))))))), rfl⟩
    all_goals decide
  obtain ⟨final, run, sent⟩ := run
  exact ⟨final, run, sent, proper_session_sends_own_data _ final run⟩

/--
The data frame of the first download is refused and the client cancels; after
the header of its second download free buffers are announced first.
-/
def cancelledDownload : List Event :=
  oneDownload ++
    [.bleContext [false], .unsubscribe, .subscribe 1, .application none,
      .application (some oneItem), .bleContext [true], .poolAvailable,
      .bleContext [true]]

/-- The second download sends data of the first one. -/
theorem session_sends_older_data :
    ¬ SendsOwnData (cancelledDownload.foldl step start) := by
  intro own
  have older := own { header := 2, origins := [1, 1, 1, 1] }
    (by decide) 1 (by decide)
  exact absurd older (by decide)

end DemoBoard.DownloadFreshness
