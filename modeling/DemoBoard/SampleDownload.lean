import DemoBoard.BleContext
import Mathlib.Data.List.Infix

namespace DemoBoard.SampleDownload

open ByteMemory SampleNotification MeasurementItemController

/-!
# Sample download

One download as a system of two parties and two FIFO queues.  The application
answers every `GET_NEXT_SAMPLES` request with the next chunk of the requested
items, which overwrites the shared cache; the BLE context sends the frames.
Every order of the two parties, every pattern of refused frames and every
`TX_POOL_AVAILABLE` event is a run.
-/

/-- The two parties, their queues and the frames handed over so far. -/
structure DownloadState where
  notification : SampleNotification
  request : SampleRequestData
  /-- Requested items that are not read yet. -/
  unread : List (List Byte)
  /-- `GET_NEXT_SAMPLES` requests in the application queue. -/
  requests : Nat
  /-- Responses in the BLE queue. -/
  responses : List Response
  handed : List Handed
  /-- The stack has refused a frame and not yet announced free buffers. -/
  poolOwed : Bool

/-- What can happen next. -/
inductive Event where
  /-- The application handles a `GET_NEXT_SAMPLES` request. -/
  | answer
  /-- The BLE context handles a response; the stack accepts these frames. -/
  | respond (outcomes : List Bool)
  /-- `ACI_GATT_TX_POOL_AVAILABLE_VSEVT_CODE` -/
  | poolAvailable
  deriving Repr, DecidableEq

/-- The request after it is answered with the next chunk. -/
def answerRequest
    (request : SampleRequestData) (unread : List (List Byte)) :
    SampleRequestData :=
  let chunk := unread.take samplesCacheSize
  { request with
    samplesCache := writeBytes request.samplesCache 0 chunk.flatten
    enumeratorStartIndex :=
      (request.enumeratorStartIndex + chunk.length) % 65536
    alreadyReadSamples :=
      (request.alreadyReadSamples + chunk.length) % 65536
    dataLength := chunk.length * measurementSampleSize }

/-- `ReadMoreSamples` answers so where the enumeration has these items. -/
theorem readMoreSamples_eq_answerRequest
    (request : SampleRequestData)
    {unread : List (List Byte)}
    (sized : ∀ data ∈ unread, data.length = measurementSampleSize)
    (within : unread.length ≤ unreadSamples request) :
    readMoreSamples listOps unread request =
      (unread.drop samplesCacheSize, answerRequest request unread) := by
  have size :
      (unread.take samplesCacheSize).length =
        min unread.length (min samplesCacheSize
          (unreadSamples request - 0)) := by
    rw [List.length_take]
    omega
  have taken :
      unread.take (unread.take samplesCacheSize).length =
        unread.take samplesCacheSize := by
    rw [List.length_take]
    exact List.take_eq_take_min.symm
  have dropped :
      unread.drop (unread.take samplesCacheSize).length =
        unread.drop samplesCacheSize := by
    rw [List.length_take]
    exact List.drop_eq_drop_min.symm
  rw [readMoreSamples,
    readLoop_listOps unread sized _ _ _ _ size, taken, dropped]
  simp only [answerRequest, Nat.zero_mul, Nat.zero_add]

/-- A step of the system, or `none` where the event cannot happen. -/
def step (state : DownloadState) : Event → Option DownloadState
  | .answer =>
      match state.requests with
      | 0 => none
      | requests + 1 =>
          some
            { state with
              requests := requests
              request := answerRequest state.request state.unread
              unread := state.unread.drop samplesCacheSize
              responses := state.responses ++ [.getNextSamples] }
  | .respond outcomes =>
      match state.responses with
      | [] => none
      | response :: responses =>
          let sent := handleServiceRequestResponse state.request outcomes
            state.notification response
          some
            { state with
              notification := sent.notification
              requests :=
                if sent.requestsNext then
                  state.requests + 1
                else
                  state.requests
              responses := responses
              handed := state.handed ++ sent.handed
              poolOwed :=
                state.poolOwed || sent.handed.any Handed.isRefused }
  | .poolAvailable =>
      some
        { state with
          responses := state.responses ++ [.txPoolAvailable]
          poolOwed := false }

/-- The frames the BLE stack has accepted. -/
def accepted (handed : List Handed) : List (List Byte) :=
  handed.filterMap Handed.accepted?

/-- Nothing is queued and the stack owes no event. -/
def Quiescent (state : DownloadState) : Prop :=
  state.requests = 0 ∧ state.responses = [] ∧ state.poolOwed = false

/-- A chunk is requested or delivered and not yet handled. -/
def Outstanding (state : DownloadState) : Prop :=
  0 < state.requests ∨ .getNextSamples ∈ state.responses

/--
The header frame is accepted at its first attempt, and free buffers are
announced only while no chunk is outstanding or all samples are sent.
-/
def Proper (state : DownloadState) : Event → Prop
  | .respond outcomes =>
      match state.responses with
      | .setRequestedSamples :: _ => outcomes.headD false = true
      | .txPoolAvailable :: _ =>
          ¬ Outstanding state ∨
            state.notification.nrOfSamplesToTransmit ≤
              state.notification.samplesTransmitted
      | _ => True
  | _ => True

/-- A run all of whose steps are proper. -/
inductive ProperRun : DownloadState → List Event → DownloadState → Prop
  | nil (state : DownloadState) : ProperRun state [] state
  | cons {state next final : DownloadState} {event : Event}
      {events : List Event} :
      Proper state event → step state event = some next →
        ProperRun next events final →
          ProperRun state (event :: events) final

/-- A requested download. -/
structure Download where
  metadata : SamplesMetaData
  items : List (List Byte)
  numberOfSamples_lt : metadata.numberOfSamples < 65536
  length_eq : items.length = (metadata.numberOfSamples + 1) / 2
  sized : ∀ data ∈ items, data.length = measurementSampleSize

namespace Download

variable (download : Download)

/-- The number of samples to deliver. -/
def count : Nat := download.metadata.numberOfSamples

/-- The bytes of the requested items. -/
def bytes : List Byte := download.items.flatten

/-- The data frame with some number of full frames before it. -/
def dataFrame (index : Nat) : List Byte :=
  buildDataFrame (index + 1)
    (((download.bytes.take (4 * download.count)).drop (16 * index)).take 16)

/-- The first frames of the download. -/
def firstFrames (frames : Nat) : List (List Byte) :=
  buildHeaderFrame download.metadata ::
    (List.range frames).map download.dataFrame

/-- All frames of the download. -/
def allFrames : List (List Byte) :=
  download.firstFrames ((download.count + 3) / 4)

/-- The download before the header frame is built. -/
def start
    (notification : SampleNotification) (request : SampleRequestData)
    (pools : Nat) : DownloadState where
  notification := notification
  request := { request with metadata := download.metadata }
  unread := download.items
  requests := 0
  responses :=
    List.replicate pools .txPoolAvailable ++ [.setRequestedSamples]
  handed := []
  poolOwed := false

/-- One more frame. -/
theorem firstFrames_succ (frames : Nat) :
    download.firstFrames (frames + 1) =
      download.firstFrames frames ++ [download.dataFrame frames] := by
  simp [firstFrames, List.range_succ]

/-- Fewer frames are a prefix. -/
theorem firstFrames_prefix
    {few many : Nat}
    (fewer : few ≤ many) :
    download.firstFrames few <+: download.firstFrames many := by
  obtain ⟨more, rfl⟩ := Nat.exists_eq_add_of_le fewer
  induction more with
  | zero => exact List.prefix_refl _
  | succ more inductionHypothesis =>
      rw [← Nat.add_assoc, firstFrames_succ]
      exact (inductionHypothesis (by omega)).trans
        (List.prefix_append _ _)

end Download

/-- The cache holds the chunk that ends with the items read so far. -/
structure ChunkAt
    (download : Download) (request : SampleRequestData)
    (base read : Nat) : Prop where
  cache_eq :
    readBytes request.samplesCache 0 request.dataLength =
      (download.bytes.drop base).take request.dataLength
  small : request.dataLength ≤ 4080
  aligned : base % 16 = 0
  end_eq : base + request.dataLength = 8 * read
  whole : request.dataLength % 16 = 0 ∨ 4 * download.count ≤ 8 * read

/-- The BLE context has sent some samples of the download. -/
structure Progress
    (download : Download) (sent : Nat)
    (notification : SampleNotification) : Prop where
  total_eq : notification.nrOfSamplesToTransmit = download.count
  sent_eq : notification.samplesTransmitted = sent
  sent_le : sent ≤ download.count
  wholeFrames : sent < download.count → sent % 4 = 0
  frame_eq : notification.currentFrameIndex = (sent + 3) / 4 + 1

/-- The BLE context works on a chunk of the download. -/
structure Sending
    (download : Download) (dataLength base sent : Nat)
    (notification : SampleNotification) : Prop
    extends Progress download sent notification where
  length_eq : notification.dataLength = dataLength
  position : 4 * sent = base + notification.currentDataIndex
  index_le : notification.currentDataIndex ≤ dataLength

section Loop

variable {download : Download}
variable {request : SampleRequestData}
variable {base read sent : Nat}
variable {notification : SampleNotification}

/-- Part of a range that was read. -/
theorem readBytes_sub
    (memory : Memory)
    {offset count total : Nat}
    (within : offset + count ≤ total) :
    readBytes memory offset count =
      ((readBytes memory 0 total).drop offset).take count := by
  obtain ⟨rest, rfl⟩ := Nat.exists_eq_add_of_le within
  rw [readBytes_add, readBytes_add, List.append_assoc,
    List.drop_left' (by simp), List.take_left' (by simp), Nat.zero_add]

/-- The next frame lies in the chunk. -/
theorem Sending.frame_within
    (chunk : ChunkAt download request base read)
    (sending :
      Sending download request.dataLength base sent notification)
    (more : notification.hasFrame = true) :
    sent < download.count ∧
      notification.frameLength = min 16 (4 * (download.count - sent)) ∧
      notification.currentDataIndex + notification.frameLength ≤
        request.dataLength := by
  simp only [hasFrame, decide_eq_true_eq] at more
  have position := sending.position
  have aligned := chunk.aligned
  have finish := chunk.end_eq
  rw [sending.length_eq, sending.total_eq, sending.sent_eq] at more
  have wholeFrames := sending.wholeFrames more.2
  have length :
      notification.frameLength = min 16 (4 * (download.count - sent)) := by
    rw [frameLength, sending.total_eq, sending.sent_eq]
  refine ⟨more.2, length, ?_⟩
  rw [length]
  rcases chunk.whole with whole | last <;> omega

/-- The next frame is the one the download prescribes. -/
theorem Sending.nextFrame_eq
    (chunk : ChunkAt download request base read)
    (sending :
      Sending download request.dataLength base sent notification)
    (more : notification.hasFrame = true) :
    notification.nextFrame request.samplesCache =
      download.dataFrame ((sent + 3) / 4) := by
  obtain ⟨unsent, length, within⟩ := sending.frame_within chunk more
  have wholeFrames := sending.wholeFrames unsent
  have position := sending.position
  have index : 16 * ((sent + 3) / 4) = 4 * sent := by omega
  have data :
      readBytes request.samplesCache notification.currentDataIndex
          notification.frameLength =
        (download.bytes.drop (4 * sent)).take notification.frameLength := by
    rw [readBytes_sub _ within, chunk.cache_eq, List.drop_take,
      List.take_take, List.drop_drop, ← position,
      Nat.min_eq_left (by omega)]
  rw [nextFrame, Download.dataFrame, sending.frame_eq, index, data,
    List.drop_take, List.take_take, length, ← Nat.mul_sub]

/-- An accepted frame. -/
theorem Sending.frameSent
    (numberOfSamples_lt : download.count < 65536)
    (chunk : ChunkAt download request base read)
    (sending :
      Sending download request.dataLength base sent notification)
    (more : notification.hasFrame = true) :
    Sending download request.dataLength base
      (min download.count (sent + 4))
      (notification.frameSent request.samplesCache) := by
  obtain ⟨unsent, length, within⟩ := sending.frame_within chunk more
  have wholeFrames := sending.wholeFrames unsent
  have position := sending.position
  have small := chunk.small
  have frame := sending.frame_eq
  have sentEq := sending.sent_eq
  exact
    { total_eq := sending.total_eq
      sent_eq := by
        simp only [SampleNotification.frameSent, sentEq, length]
        omega
      sent_le := Nat.min_le_left _ _
      wholeFrames := by omega
      frame_eq := by
        simp only [SampleNotification.frameSent, frame]
        omega
      length_eq := sending.length_eq
      position := by
        simp only [SampleNotification.frameSent, length]
        omega
      index_le := by
        simp only [SampleNotification.frameSent, length]
        omega }

theorem accepted_cons_accepted
    {frame : List Byte}
    {offset length : Nat}
    (handed : List Handed) :
    accepted (.data frame offset length true :: handed) =
      frame :: accepted handed :=
  rfl

theorem accepted_append (first second : List Handed) :
    accepted (first ++ second) = accepted first ++ accepted second :=
  List.filterMap_append

/-- A refused frame only fills the frame buffer. -/
theorem Sending.refused
    (sending :
      Sending download request.dataLength base sent notification)
    (frame : List Byte) :
    Sending download request.dataLength base sent
      { notification with txFrameBuffer := frame } :=
  { sending with }

/-- The frames the loop sends continue the download. -/
theorem Sending.sendLoop
    (numberOfSamples_lt : download.count < 65536)
    (chunk : ChunkAt download request base read)
    (sending :
      Sending download request.dataLength base sent notification)
    (outcomes : List Bool) :
    ∃ total, ∃ after handed finished,
      SampleNotification.sendLoop request.samplesCache outcomes
        notification = (after, handed, finished) ∧
      Sending download request.dataLength base total after ∧
      download.firstFrames ((sent + 3) / 4) ++ accepted handed =
        download.firstFrames ((total + 3) / 4) ∧
      (finished = true ∧ after.hasFrame = false ∨
        finished = false ∧ after.hasFrame = true ∧
          handed.any Handed.isRefused = true) := by
  induction outcomes generalizing sent notification with
  | nil =>
      rw [SampleNotification.sendLoop]
      cases more : notification.hasFrame with
      | false =>
          refine ⟨sent, _, _, _, rfl, sending, ?_, Or.inl ⟨rfl, more⟩⟩
          exact List.append_nil _
      | true =>
          refine ⟨sent, _, _, _, rfl, sending.refused _, ?_,
            Or.inr ⟨rfl, more, rfl⟩⟩
          exact List.append_nil _
  | cons outcome rest inductionHypothesis =>
      rw [SampleNotification.sendLoop]
      cases more : notification.hasFrame with
      | false =>
          refine ⟨sent, _, _, _, rfl, sending, ?_, Or.inl ⟨rfl, more⟩⟩
          exact List.append_nil _
      | true =>
          cases outcome with
          | false =>
              refine ⟨sent, _, _, _, rfl, sending.refused _, ?_,
                Or.inr ⟨rfl, more, rfl⟩⟩
              exact List.append_nil _
          | true =>
              have unsent := (sending.frame_within chunk more).1
              have wholeFrames := sending.wholeFrames unsent
              obtain ⟨total, after, handed, finished, run, afterSending,
                  frames, outcome⟩ :=
                inductionHypothesis
                  (sending.frameSent numberOfSamples_lt chunk more)
              refine ⟨total, after,
                .data (notification.nextFrame request.samplesCache)
                  notification.currentDataIndex notification.frameLength
                  true :: handed,
                finished, ?_, afterSending, ?_, ?_⟩
              · simp only [if_true, run]
              · rw [accepted_cons_accepted,
                  sending.nextFrame_eq chunk more, ← frames]
                have next : (min download.count (sent + 4) + 3) / 4 =
                    (sent + 3) / 4 + 1 := by
                  omega
                rw [next, Download.firstFrames_succ, List.append_assoc]
                rfl
              · rcases outcome with done | ⟨notFinished, hasMore, refused⟩
                · exact Or.inl done
                · refine Or.inr ⟨notFinished, hasMore, ?_⟩
                  rw [List.any_cons, refused, Bool.or_true]

/-- What `TrySendSampleFrames` leaves behind on a chunk of the download. -/
theorem Sending.trySendSampleFrames
    (numberOfSamples_lt : download.count < 65536)
    (chunk : ChunkAt download request base read)
    (sending :
      Sending download request.dataLength base sent notification)
    (outcomes : List Bool) :
    ∃ total, ∃ after handed requestsNext,
      SampleNotification.trySendSampleFrames request.samplesCache outcomes
        notification = ⟨after, handed, requestsNext⟩ ∧
      download.firstFrames ((sent + 3) / 4) ++ accepted handed =
        download.firstFrames ((total + 3) / 4) ∧
      (requestsNext = false ∧
          Sending download request.dataLength base total after ∧
          after.hasFrame = true ∧ handed.any Handed.isRefused = true ∨
        requestsNext = true ∧ Progress download total after ∧
          after.dataLength ≤ after.currentDataIndex ∧
          4 * total = 8 * read ∧ total < download.count ∨
        requestsNext = false ∧ total = download.count ∧
          after.nrOfSamplesToTransmit ≤ after.samplesTransmitted) := by
  obtain ⟨total, after, handed, finished, run, afterSending, frames,
      outcome⟩ :=
    sending.sendLoop numberOfSamples_lt chunk outcomes
  rw [SampleNotification.trySendSampleFrames, run]
  rcases outcome with ⟨rfl, noFrame⟩ | ⟨rfl, more, refused⟩
  · simp only [not_true_eq_false, if_false, afterSending.total_eq,
      afterSending.sent_eq]
    by_cases unsent : total < download.count
    · rw [if_pos unsent]
      have exhausted : request.dataLength ≤ after.currentDataIndex := by
        simpa [hasFrame, afterSending.total_eq, afterSending.sent_eq,
          unsent, afterSending.length_eq] using noFrame
      have position := afterSending.position
      have within := afterSending.index_le
      have finish := chunk.end_eq
      refine ⟨total, after, handed, true, rfl, frames,
        Or.inr (Or.inl ⟨rfl, afterSending.toProgress, ?_, by omega,
          unsent⟩)⟩
      rw [afterSending.length_eq]
      exact exhausted
    · rw [if_neg unsent]
      have all : total = download.count := by
        have bound := afterSending.sent_le
        omega
      refine ⟨total, _, handed, false, rfl, frames,
        Or.inr (Or.inr ⟨rfl, all, ?_⟩)⟩
      rw [stopSendSamples]
      split
      · exact Nat.zero_le _
      · rw [afterSending.total_eq, afterSending.sent_eq, all]
  · exact ⟨total, after, handed, false, rfl, frames,
      Or.inl ⟨rfl, afterSending, more, refused⟩⟩

end Loop

/-- The stages of a download after its header frame. -/
inductive Phase
    (download : Download) (state : DownloadState) (read sent : Nat) : Prop
  | requested :
      Progress download sent state.notification →
      state.requests = 1 →
      .getNextSamples ∉ state.responses →
      state.notification.dataLength ≤
        state.notification.currentDataIndex →
      4 * sent = 8 * read →
      (sent < download.count ∨ download.count = 0) → Phase _ _ _ _
  | answered (base : Nat) :
      Progress download sent state.notification →
      state.requests = 0 →
      state.responses.count .getNextSamples = 1 →
      ChunkAt download state.request base read →
      4 * sent = base →
      (sent < download.count ∨ download.count = 0) → Phase _ _ _ _
  | sending (base : Nat) :
      Sending download state.request.dataLength base sent
        state.notification →
      state.requests = 0 →
      .getNextSamples ∉ state.responses →
      ChunkAt download state.request base read →
      state.notification.hasFrame = true →
      (state.poolOwed = true ∨ .txPoolAvailable ∈ state.responses) →
        Phase _ _ _ _
  | finished :
      sent = download.count →
      state.requests = 0 →
      .getNextSamples ∉ state.responses →
      state.notification.nrOfSamplesToTransmit ≤
        state.notification.samplesTransmitted → Phase _ _ _ _

/-- A download after its header frame. -/
structure Delivering
    (download : Download) (state : DownloadState) (read sent : Nat) :
    Prop where
  noHeader : .setRequestedSamples ∉ state.responses
  sent_le : sent ≤ download.count
  unread_eq : state.unread = download.items.drop read
  accepted_eq :
    accepted state.handed = download.firstFrames ((sent + 3) / 4)
  phase : Phase download state read sent

/-- A download before its header frame. -/
structure Announced
    (download : Download) (state : DownloadState) : Prop where
  responses_eq : ∃ before after,
    state.responses =
      List.replicate before .txPoolAvailable ++
        .setRequestedSamples :: List.replicate after .txPoolAvailable
  requests_eq : state.requests = 0
  metadata_eq : state.request.metadata = download.metadata
  unread_eq : state.unread = download.items
  handed_eq : state.handed = []
  nothingToSend :
    state.notification.nrOfSamplesToTransmit ≤
      state.notification.samplesTransmitted
  nothingLeft :
    state.notification.dataLength ≤ state.notification.currentDataIndex

section Steps

variable {download : Download}
variable {state next : DownloadState}
variable {read sent : Nat}

/-- With no samples to send `TrySendSampleFrames` only clears its fields. -/
theorem trySendSampleFrames_nothing
    {notification : SampleNotification}
    (cache : Memory)
    (outcomes : List Bool)
    (nothing :
      notification.nrOfSamplesToTransmit ≤
        notification.samplesTransmitted) :
    trySendSampleFrames cache outcomes notification =
      ⟨stopSendSamples notification, [], false⟩ := by
  have noFrame : notification.hasFrame = false := by
    simp only [hasFrame, decide_eq_false_iff_not]
    omega
  have loop : sendLoop cache outcomes notification =
      (notification, [], true) := by
    cases outcomes <;> simp [sendLoop, noFrame]
  rw [trySendSampleFrames, loop]
  simp only [not_true_eq_false, if_false]
  rw [if_neg (by omega)]

/-- The chunk that answers a request. -/
theorem chunkAt_answerRequest
    (request : SampleRequestData)
    (aligned : 8 * read % 16 = 0) :
    ChunkAt download
      (answerRequest request (download.items.drop read)) (8 * read)
      (read + ((download.items.drop read).take samplesCacheSize).length) := by
  have sized : ∀ data ∈ download.items.drop read,
      data.length = measurementSampleSize :=
    fun data member => download.sized data (List.mem_of_mem_drop member)
  have taken := flatten_take sized samplesCacheSize
  have dropped := flatten_drop download.sized read
  have size : measurementSampleSize = 8 := rfl
  have room : samplesCacheSize = 510 := rfl
  have length :
      ((download.items.drop read).take samplesCacheSize).flatten.length =
        ((download.items.drop read).take samplesCacheSize).length * 8 :=
    length_flatten (fun data member =>
      sized data (List.mem_of_mem_take member))
  have total := download.length_eq
  have bound :
      ((download.items.drop read).take samplesCacheSize).length =
        min 510 (download.items.length - read) := by
    rw [List.length_take, List.length_drop, room]
  exact
    { cache_eq := by
        simp only [answerRequest, size]
        rw [← length, readBytes_writeBytes_same]
        rw [taken, dropped, List.length_take]
        exact List.take_eq_take_min
      small := by
        simp only [answerRequest, size, bound]
        omega
      aligned := aligned
      end_eq := by
        simp only [answerRequest, size]
        omega
      whole := by
        simp only [answerRequest, size, bound, Download.count]
        omega }

/-- The header frame of a download. -/
theorem trySendFirstFrame_accepted
    {notification : SampleNotification}
    (total_eq : notification.nrOfSamplesToTransmit = download.count)
    (sent_eq : notification.samplesTransmitted = 0)
    (frame_eq : notification.currentFrameIndex = 0) :
    ∃ after,
      trySendFirstFrame notification true =
        ⟨after, [.header notification.txFrameBuffer true], true⟩ ∧
      Progress download 0 after ∧
      after.dataLength = notification.dataLength ∧
      after.currentDataIndex = notification.currentDataIndex := by
  refine ⟨_, rfl, ?_, rfl, rfl⟩
  exact
    { total_eq := total_eq
      sent_eq := sent_eq
      sent_le := Nat.zero_le _
      wholeFrames := fun _ => rfl
      frame_eq := by simp [frame_eq] }

/-- A proper step before the header frame. -/
theorem Announced.step
    (announced : Announced download state)
    {event : Event}
    (proper : Proper state event)
    (stepped : step state event = some next) :
    Announced download next ∨ Delivering download next 0 0 := by
  obtain ⟨before, after, responses⟩ := announced.responses_eq
  cases event with
  | answer =>
      rw [SampleDownload.step, announced.requests_eq] at stepped
      cases stepped
  | poolAvailable =>
      cases stepped
      left
      refine { announced with responses_eq := ⟨before, after + 1, ?_⟩ }
      simp only [responses, List.append_assoc, List.cons_append]
      rw [List.replicate_succ']
  | respond outcomes =>
      rw [SampleDownload.step, responses] at stepped
      rw [Proper, responses] at proper
      cases before with
      | zero =>
          simp only [List.replicate_zero, List.nil_append,
            Option.some.injEq] at stepped proper
          subst stepped
          right
          obtain ⟨sent, run, progress, length, index⟩ :=
            @trySendFirstFrame_accepted download
              { state.notification with
                currentFrameIndex := 0
                samplesTransmitted := 0
                nrOfSamplesToTransmit :=
                  state.request.metadata.numberOfSamples
                txFrameBuffer := buildHeaderFrame state.request.metadata }
              (by simp only [announced.metadata_eq]; rfl) rfl rfl
          simp only [handleServiceRequestResponse, proper, run]
          exact
            { noHeader := by simp [List.mem_replicate]
              sent_le := Nat.zero_le _
              unread_eq := announced.unread_eq
              accepted_eq := by
                rw [announced.handed_eq, announced.metadata_eq]
                rfl
              phase := by
                refine .requested progress ?_ ?_ ?_ rfl (by omega)
                · rw [announced.requests_eq]
                  rfl
                · simp [List.mem_replicate]
                · rw [length, index]
                  exact announced.nothingLeft }
      | succ before =>
          simp only [List.replicate_succ, List.cons_append,
            Option.some.injEq] at stepped
          subst stepped
          left
          simp only [handleServiceRequestResponse,
            trySendSampleFrames_nothing _ _ announced.nothingToSend]
          have stopped :
              (stopSendSamples state.notification).nrOfSamplesToTransmit ≤
                  (stopSendSamples state.notification).samplesTransmitted ∧
                (stopSendSamples state.notification).dataLength ≤
                  (stopSendSamples state.notification).currentDataIndex := by
            rw [stopSendSamples]
            split
            · exact ⟨Nat.zero_le _, Nat.zero_le _⟩
            · exact ⟨announced.nothingToSend, announced.nothingLeft⟩
          exact
            { responses_eq := ⟨before, after, rfl⟩
              requests_eq := announced.requests_eq
              metadata_eq := announced.metadata_eq
              unread_eq := announced.unread_eq
              handed_eq := by simp [announced.handed_eq]
              nothingToSend := stopped.1
              nothingLeft := stopped.2 }

/-- Nothing is outstanding while no request and no chunk is queued. -/
theorem not_outstanding
    (requests : state.requests = 0)
    (noChunk : .getNextSamples ∉ state.responses) :
    ¬ Outstanding state := by
  rintro (some | chunk)
  · omega
  · exact noChunk chunk

/-- The application answers a request. -/
theorem Delivering.answer
    (delivering : Delivering download state read sent)
    (stepped : step state .answer = some next) :
    ∃ later, Delivering download next later sent := by
  have requested : state.requests ≠ 0 := by
    intro none
    rw [SampleDownload.step, none] at stepped
    cases stepped
  cases delivering.phase with
  | answered _ _ requests => exact (requested requests).elim
  | sending _ _ requests => exact (requested requests).elim
  | finished _ requests => exact (requested requests).elim
  | requested progress requests noChunk _ position unsent =>
      rw [SampleDownload.step, requests] at stepped
      cases stepped
      have aligned : 8 * read % 16 = 0 := by
        have whole := progress.wholeFrames
        have bound := progress.sent_le
        rw [← position]
        rcases unsent with unsent | none
        · have fourth := whole unsent
          omega
        · omega
      refine ⟨read +
          ((download.items.drop read).take samplesCacheSize).length,
        { noHeader := by simp [delivering.noHeader]
          sent_le := delivering.sent_le
          unread_eq := ?_
          accepted_eq := delivering.accepted_eq
          phase := ?_ }⟩
      · simp only [delivering.unread_eq]
        rw [← List.drop_drop, List.length_take]
        exact List.drop_eq_drop_min
      · refine .answered (8 * read) progress rfl ?_ ?_ position unsent
        · rw [List.count_append, List.count_eq_zero.mpr noChunk]
          rfl
        · simp only [delivering.unread_eq]
          exact chunkAt_answerRequest state.request aligned

/-- The BLE context sends frames of a chunk. -/
theorem Delivering.send
    (delivering : Delivering download state read sent)
    {base : Nat}
    {notification : SampleNotification}
    {responses : List Response}
    (outcomes : List Bool)
    (chunk : ChunkAt download state.request base read)
    (sending :
      Sending download state.request.dataLength base sent notification)
    (requests : state.requests = 0)
    (noHeader : .setRequestedSamples ∉ responses)
    (noChunk : .getNextSamples ∉ responses)
    (stepped :
      let result := trySendSampleFrames state.request.samplesCache outcomes
        notification
      some
        { state with
          notification := result.notification
          requests :=
            if result.requestsNext then
              state.requests + 1
            else
              state.requests
          responses := responses
          handed := state.handed ++ result.handed
          poolOwed :=
            state.poolOwed || result.handed.any Handed.isRefused } =
        some next) :
    ∃ total, Delivering download next read total := by
  obtain ⟨total, after, handed, requestsNext, run, frames, outcome⟩ :=
    sending.trySendSampleFrames download.numberOfSamples_lt chunk outcomes
  simp only [run] at stepped
  cases stepped
  have sentFrames :
      accepted (state.handed ++ handed) =
        download.firstFrames ((total + 3) / 4) := by
    rw [accepted_append, delivering.accepted_eq, frames]
  rcases outcome with ⟨rfl, afterSending, more, refused⟩ |
      ⟨rfl, progress, exhausted, position, unsent⟩ | ⟨rfl, all, nothing⟩
  · exact ⟨total,
      { noHeader := noHeader
        sent_le := afterSending.sent_le
        unread_eq := delivering.unread_eq
        accepted_eq := sentFrames
        phase := .sending base afterSending requests noChunk chunk more
          (Or.inl (by rw [refused, Bool.or_true])) }⟩
  · exact ⟨total,
      { noHeader := noHeader
        sent_le := progress.sent_le
        unread_eq := delivering.unread_eq
        accepted_eq := sentFrames
        phase := .requested progress (by rw [requests]; rfl) noChunk
          exhausted position (Or.inl unsent) }⟩
  · exact ⟨total,
      { noHeader := noHeader
        sent_le := Nat.le_of_eq all
        unread_eq := delivering.unread_eq
        accepted_eq := sentFrames
        phase := .finished all requests noChunk nothing }⟩

/-- Free buffers are announced while there is nothing to send. -/
theorem Delivering.idle
    (delivering : Delivering download state read sent)
    {responses : List Response}
    (outcomes : List Bool)
    (popped : state.responses = .txPoolAvailable :: responses)
    (nothing :
      state.notification.nrOfSamplesToTransmit ≤
        state.notification.samplesTransmitted)
    (stepped : step state (.respond outcomes) = some next) :
    Delivering download next read sent := by
  rw [SampleDownload.step, popped] at stepped
  simp only [handleServiceRequestResponse,
    trySendSampleFrames_nothing _ _ nothing, Bool.false_eq_true, if_false,
    List.append_nil, List.any_nil, Bool.or_false] at stepped
  cases stepped
  have noHeader := delivering.noHeader
  rw [popped, List.mem_cons, not_or] at noHeader
  have unchanged : ∀ {samples}, Progress download samples
      state.notification → (samples < download.count ∨
        download.count = 0) →
      stopSendSamples state.notification = state.notification := by
    intro samples progress unsent
    rw [progress.total_eq, progress.sent_eq] at nothing
    rw [stopSendSamples, if_neg]
    rw [progress.sent_eq, progress.total_eq]
    omega
  refine
    { noHeader := noHeader.2
      sent_le := delivering.sent_le
      unread_eq := delivering.unread_eq
      accepted_eq := delivering.accepted_eq
      phase := ?_ }
  cases delivering.phase with
  | requested progress requests noChunk exhausted position unsent =>
      rw [popped, List.mem_cons, not_or] at noChunk
      rw [unchanged progress unsent]
      exact .requested progress requests noChunk.2 exhausted position unsent
  | answered base progress requests one chunk position unsent =>
      rw [popped, List.count_cons_of_ne (by decide)] at one
      rw [unchanged progress unsent]
      exact .answered base progress requests one chunk position unsent
  | sending base sending requests noChunk chunk more _ =>
      simp only [hasFrame, decide_eq_true_eq] at more
      omega
  | finished all requests noChunk _ =>
      rw [popped, List.mem_cons, not_or] at noChunk
      refine .finished all requests noChunk.2 ?_
      rw [stopSendSamples]
      split
      · exact Nat.zero_le _
      · exact nothing

/-- A proper step after the header frame. -/
theorem Delivering.step
    (delivering : Delivering download state read sent)
    {event : Event}
    (proper : Proper state event)
    (stepped : step state event = some next) :
    ∃ later total, Delivering download next later total := by
  cases event with
  | answer =>
      obtain ⟨later, after⟩ := delivering.answer stepped
      exact ⟨later, sent, after⟩
  | poolAvailable =>
      cases stepped
      refine ⟨read, sent,
        { noHeader := by simp [delivering.noHeader]
          sent_le := delivering.sent_le
          unread_eq := delivering.unread_eq
          accepted_eq := delivering.accepted_eq
          phase := ?_ }⟩
      cases delivering.phase with
      | requested progress requests noChunk exhausted position unsent =>
          exact .requested progress requests (by simp [noChunk]) exhausted
            position unsent
      | answered base progress requests one chunk position unsent =>
          exact .answered base progress requests
            (by rw [List.count_append, one]; rfl) chunk position unsent
      | sending base sending requests noChunk chunk more _ =>
          exact .sending base sending requests (by simp [noChunk]) chunk
            more (Or.inr (by simp))
      | finished all requests noChunk nothing =>
          exact .finished all requests (by simp [noChunk]) nothing
  | respond outcomes =>
      rw [SampleDownload.step] at stepped
      cases responses : state.responses with
      | nil =>
          rw [responses] at stepped
          cases stepped
      | cons response rest =>
          rw [responses] at stepped
          simp only at stepped
          have noHeader := delivering.noHeader
          rw [responses, List.mem_cons, not_or] at noHeader
          rw [Proper, responses] at proper
          cases response with
          | setRequestedSamples => exact (noHeader.1 rfl).elim
          | getNextSamples =>
              cases delivering.phase with
              | requested _ _ noChunk =>
                  rw [responses] at noChunk
                  exact (noChunk (List.mem_cons_self ..)).elim
              | sending _ _ _ noChunk =>
                  rw [responses] at noChunk
                  exact (noChunk (List.mem_cons_self ..)).elim
              | finished _ _ noChunk =>
                  rw [responses] at noChunk
                  exact (noChunk (List.mem_cons_self ..)).elim
              | answered base progress requests one chunk position _ =>
                  rw [responses, List.count_cons_self] at one
                  have noChunk : .getNextSamples ∉ rest :=
                    List.count_eq_zero.mp (by omega)
                  have sending :
                      Sending download state.request.dataLength base sent
                        { state.notification with
                          dataLength := state.request.dataLength
                          currentDataIndex := 0 } :=
                    { toProgress := { progress with }
                      length_eq := rfl
                      position := position
                      index_le := Nat.zero_le _ }
                  obtain ⟨total, after⟩ := delivering.send outcomes chunk
                    sending requests noHeader.2 noChunk stepped
                  exact ⟨read, total, after⟩
          | txPoolAvailable =>
              simp only at proper
              cases delivering.phase with
              | sending base sending requests noChunk chunk _ _ =>
                  rw [responses, List.mem_cons, not_or] at noChunk
                  obtain ⟨total, after⟩ := delivering.send outcomes chunk
                    sending requests noHeader.2 noChunk.2 stepped
                  exact ⟨read, total, after⟩
              | requested progress requests =>
                  rcases proper with notOutstanding | nothing
                  · exact (notOutstanding (Or.inl (by omega))).elim
                  · exact ⟨read, sent, delivering.idle outcomes responses
                      nothing (by rw [SampleDownload.step, responses];
                                  exact stepped)⟩
              | answered base progress requests one =>
                  rcases proper with notOutstanding | nothing
                  · have chunkQueued : .getNextSamples ∈ state.responses :=
                      List.count_pos_iff.mp (by omega)
                    exact (notOutstanding (Or.inr chunkQueued)).elim
                  · exact ⟨read, sent, delivering.idle outcomes responses
                      nothing (by rw [SampleDownload.step, responses];
                                  exact stepped)⟩
              | finished all requests noChunk nothing =>
                  exact ⟨read, sent, delivering.idle outcomes responses
                    nothing (by rw [SampleDownload.step, responses];
                                exact stepped)⟩

end Steps

/-- Where a proper run of a download can be. -/
def Invariant (download : Download) (state : DownloadState) : Prop :=
  Announced download state ∨
    ∃ read sent, Delivering download state read sent

/-- One proper step. -/
theorem Invariant.step
    {download : Download}
    {state next : DownloadState}
    (invariant : Invariant download state)
    {event : Event}
    (proper : Proper state event)
    (stepped : step state event = some next) :
    Invariant download next := by
  rcases invariant with announced | ⟨read, sent, delivering⟩
  · rcases announced.step proper stepped with still | started
    · exact Or.inl still
    · exact Or.inr ⟨0, 0, started⟩
  · exact Or.inr (delivering.step proper stepped)

/-- A whole proper run. -/
theorem Invariant.run
    {download : Download}
    {state final : DownloadState}
    {events : List Event}
    (invariant : Invariant download state)
    (run : ProperRun state events final) :
    Invariant download final := by
  induction run with
  | nil => exact invariant
  | cons proper stepped _ inductionHypothesis =>
      exact inductionHypothesis (invariant.step proper stepped)

/-- Frames sent so far. -/
theorem Invariant.frames
    {download : Download}
    {state : DownloadState}
    (invariant : Invariant download state) :
    accepted state.handed <+: download.allFrames ∧
      (Quiescent state → accepted state.handed = download.allFrames) := by
  rcases invariant with announced | ⟨read, sent, delivering⟩
  · rw [announced.handed_eq]
    refine ⟨List.nil_prefix, ?_⟩
    rintro ⟨_, responses, _⟩
    obtain ⟨before, after, shape⟩ := announced.responses_eq
    rw [responses] at shape
    simp at shape
  · rw [delivering.accepted_eq]
    have bound := delivering.sent_le
    refine ⟨download.firstFrames_prefix (by omega), ?_⟩
    rintro ⟨requests, responses, owed⟩
    cases delivering.phase with
    | requested _ one => omega
    | answered _ _ _ one =>
        rw [responses] at one
        cases one
    | sending _ _ _ _ _ _ pending =>
        rw [owed, responses] at pending
        rcases pending with contradiction | contradiction <;>
          cases contradiction
    | finished all => rw [all, Download.allFrames]

/--
In every run in which the header frame is accepted at its first attempt and
free buffers are announced only while no chunk is outstanding, the frames
accepted by the BLE stack are a prefix of the frames of the download, and all
of them once nothing is queued any more.
-/
theorem proper_download_delivers
    (download : Download)
    (notification : SampleNotification)
    (request : SampleRequestData)
    (pools : Nat)
    (nothingToSend :
      notification.nrOfSamplesToTransmit ≤ notification.samplesTransmitted)
    (nothingLeft :
      notification.dataLength ≤ notification.currentDataIndex)
    (events : List Event)
    (final : DownloadState)
    (run :
      ProperRun (download.start notification request pools) events final) :
    accepted final.handed <+: download.allFrames ∧
      (Quiescent final → accepted final.handed = download.allFrames) := by
  have announced :
      Announced download (download.start notification request pools) :=
    { responses_eq := ⟨pools, 0, rfl⟩
      requests_eq := rfl
      metadata_eq := rfl
      unread_eq := rfl
      handed_eq := rfl
      nothingToSend := nothingToSend
      nothingLeft := nothingLeft }
  have invariant : Invariant download final :=
    Invariant.run (Or.inl announced) run
  exact invariant.frames

theorem one_lt_maxSamples : 1 < 65536 := by
  decide

theorem oneItem_sized :
    ∀ data ∈ [List.replicate 8 (7 : Byte)],
      data.length = measurementSampleSize := by
  decide

/-- A download of one sample. -/
def oneSample : Download where
  metadata :=
    { loggingIntervalMs := 60000, ageOfLatestSample := 0
      numberOfSamples := 1 }
  items := [List.replicate 8 7]
  numberOfSamples_lt := one_lt_maxSamples
  length_eq := rfl
  sized := oneItem_sized

/-- A download of one sample whose data frame is refused once. -/
theorem proper_download_delivers_oneSample :
    ∃ final,
      ProperRun (oneSample.start .static .static 0)
        [.respond [true], .answer, .respond [], .poolAvailable,
          .respond [true]] final ∧
      Quiescent final ∧
      accepted final.handed = oneSample.allFrames := by
  have run :
      ∃ final,
        ProperRun (oneSample.start .static .static 0)
          [.respond [true], .answer, .respond [], .poolAvailable,
            .respond [true]] final ∧
        Quiescent final := by
    refine ⟨_, .cons rfl rfl (.cons trivial rfl (.cons trivial rfl
      (.cons trivial rfl (.cons (Or.inl ?_) rfl (.nil _))))),
      rfl, rfl, rfl⟩
    exact not_outstanding rfl (by decide)
  obtain ⟨final, run, quiescent⟩ := run
  have delivers := proper_download_delivers oneSample .static .static 0
    (Nat.le_refl _) (Nat.le_refl _) _ final run
  exact ⟨final, run, quiescent, delivers.2 quiescent⟩

/--
The stack refuses the header frame: when buffers are free again the first
frame it accepts is a data frame.
-/
theorem download_delivers_not_header :
    ∃ final,
      [Event.respond [false], .poolAvailable, .respond [], .answer,
          .respond [true]].foldlM step
        (oneSample.start .static .static 0) = some final ∧
      ¬ accepted final.handed <+: oneSample.allFrames := by
  refine ⟨_, rfl, ?_⟩
  decide

end DemoBoard.SampleDownload
