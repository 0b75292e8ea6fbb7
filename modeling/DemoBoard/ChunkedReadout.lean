import DemoBoard.ItemStoreSuffix
import DemoBoard.MeasurementItemController
import Mathlib.Data.List.Infix

namespace DemoBoard.ChunkedReadout

open ByteMemory MeasurementItemController

/-!
# Reading requested samples chunk by chunk

The read position of a download is an index relative to the oldest item, kept
from one `GET_NEXT_SAMPLES` request to the next, while samples are added and
full rings drop their oldest page.  Here the store delivers exactly its items
from a start index on and announces their exact number.
-/

/-- The controller, its enumerator and the samples it reads. -/
structure ReadoutState where
  controller : MeasurementItemController
  /-- The samples added since the store was erased. -/
  added : List MeasurementSample
  /-- `_sampleEnumerator.startIndex` -/
  startIndex : Nat
  request : SampleRequestData
  /-- The chunks published since the last `SET_REQUESTED_SAMPLES`. -/
  chunks : List (List Byte)
  /-- The `GET_NEXT_SAMPLES` requests handled since then. -/
  requests : Nat
  /-- An `ERROR_CODE_ITEM_STORE` was reported since then. -/
  failed : Bool

namespace ReadoutState

/-- The number of samples that are erased with the oldest pages. -/
def dropped (state : ReadoutState) : Nat :=
  state.added.length -
    ItemStore.retainedCount (geometry .measurementSample)
      state.added.length

/-- The items on flash. -/
def items (state : ReadoutState) : List (List Byte) :=
  ItemStore.keptItems .measurementSample
    (state.added.map MeasurementSample.toBytes)

/-- The enumerator becomes ready. -/
def isReady (state : ReadoutState) : Bool :=
  state.startIndex < state.items.length

end ReadoutState

/-- The state after a reset with an erased store. -/
def start : ReadoutState where
  controller := .static
  added := []
  startIndex := 0
  request := .static
  chunks := []
  requests := 0
  failed := false

/-- A request is handled when the enumeration it asks for begins. -/
inductive Event where
  /-- A completed `AddItem`. -/
  | add (samples : MeasurementSample)
  /-- A completed `ItemStore_DeleteAllItems`. -/
  | deleteAllItems
  | getAvailableSamples
  /-- Its parameter is `DataLoggerService_GetNumberOfRequestedSamples`. -/
  | setRequestedSamples (parameter : UInt16)
  | getNextSamples
  deriving Repr, DecidableEq

/-- A step of the controller and its store. -/
def step (state : ReadoutState) : Event → ReadoutState
  | .add samples => { state with added := state.added ++ [samples] }
  | .deleteAllItems => { state with added := [] }
  | .getAvailableSamples => { state with startIndex := 0 }
  | .setRequestedSamples parameter =>
      -- the start index is the one of the last enumeration
      { state with
        request :=
          beginReadSamples state.controller
            (setRequestedSamples state.request parameter.toNat)
            state.isReady state.items.length
        chunks := []
        requests := 0
        failed := false }
  | .getNextSamples =>
      let state :=
        { state with
          startIndex := state.request.enumeratorStartIndex
          requests := state.requests + 1 }
      if state.isReady then
        let request :=
          (readMoreSamples listOps (state.items.drop state.startIndex)
            state.request).2
        { state with
          request := request
          chunks :=
            state.chunks ++
              [readBytes request.samplesCache 0 request.dataLength] }
      else
        { state with failed := true }

/-- The number of samples a request is entitled to. -/
def requestedSamples (state : ReadoutState) (parameter : UInt16) : Nat :=
  min (2 * state.items.length) parameter.toNat

/-- The items that hold these samples. -/
def requestedItems (state : ReadoutState) (parameter : UInt16) :
    List (List Byte) :=
  let count := requestedSamples state parameter
  state.items.drop (state.items.length - (count + count % 2) / 2)

/--
What the chunks of a download that began in `state` hold: the requested
samples, up to the last item that as many full chunks can hold.
-/
def DeliversRequested
    (state : ReadoutState) (parameter : UInt16)
    (current : ReadoutState) : Prop :=
  current.chunks.flatten.take (4 * requestedSamples state parameter) =
    ((requestedItems state parameter).take
      (samplesCacheSize * current.requests)).flatten.take
        (4 * requestedSamples state parameter)

instance (state : ReadoutState) (parameter : UInt16)
    (current : ReadoutState) :
    Decidable (DeliversRequested state parameter current) :=
  inferInstanceAs (Decidable (_ = _))

/--
A download during which samples are added.  While requested items are left, a
chunk is read only if no page was erased since the request or the error is
reported.
-/
inductive ProperReadout
    (state : ReadoutState) (parameter : UInt16) : ReadoutState → Prop
  | begun :
      ProperReadout state parameter
        (step state (.setRequestedSamples parameter))
  | add {current : ReadoutState} (samples : MeasurementSample) :
      ProperReadout state parameter current →
        ProperReadout state parameter (step current (.add samples))
  | getNextSamples {current : ReadoutState} :
      ProperReadout state parameter current →
        (requestedItems state parameter).length ≤
            samplesCacheSize * current.requests ∨
          current.dropped = state.dropped ∨
          current.items.length ≤ current.request.enumeratorStartIndex →
          ProperReadout state parameter (step current .getNextSamples)

/-- A store keeps fewer items than its pages have slots. -/
theorem retainedCount_lt (geometry : StoreGeometry) (count : Nat) :
    ItemStore.retainedCount geometry count <
      geometry.nrOfPages * geometry.capacity := by
  rw [ItemStore.retainedCount]
  split
  · next few => exact few
  · have several := geometry.severalPages
    have used := Nat.mod_lt count geometry.capacity_pos
    calc (geometry.nrOfPages - 1) * geometry.capacity +
          count % geometry.capacity
        < (geometry.nrOfPages - 1) * geometry.capacity +
          geometry.capacity := by omega
      _ = geometry.nrOfPages * geometry.capacity := by
          rw [← Nat.succ_mul, Nat.succ_eq_add_one,
            Nat.sub_add_cancel (by omega)]

section Items

variable (state : ReadoutState)

/-- The items are the added samples without the dropped ones. -/
theorem items_eq :
    state.items =
      (state.added.map MeasurementSample.toBytes).drop state.dropped := by
  rw [ReadoutState.items, ItemStore.keptItems, List.length_map]
  rfl

/-- Twice the number of items is a 16-bit number. -/
theorem length_items_lt : 2 * state.items.length < 65536 := by
  have kept := retainedCount_lt (geometry .measurementSample)
    state.added.length
  rw [show (geometry .measurementSample).nrOfPages *
    (geometry .measurementSample).capacity = 16320 from by decide] at kept
  rw [items_eq, List.length_drop, List.length_map, ReadoutState.dropped]
  omega

theorem items_sized :
    ∀ data ∈ state.items, data.length = measurementSampleSize := by
  intro data member
  rw [items_eq] at member
  obtain ⟨samples, _, rfl⟩ :=
    List.mem_map.mp (List.mem_of_mem_drop member)
  exact samples.length_toBytes

/-- Added samples follow the items, of which an erase drops the first. -/
theorem items_of_added
    {current : ReadoutState}
    {samples : List MeasurementSample}
    {erased : Nat}
    (grown : current.added = state.added ++ samples)
    (dropped : current.dropped = state.dropped + erased) :
    current.items =
      (state.items ++ samples.map MeasurementSample.toBytes).drop
        erased := by
  rw [items_eq, items_eq, dropped, grown, List.map_append,
    ← List.drop_append_of_le_length, List.drop_drop]
  rw [List.length_map, ReadoutState.dropped]
  omega

end Items

section Readout

variable {state current : ReadoutState}
variable {parameter : UInt16}

/-- A download whose requested items are not all read. -/
structure Reading
    (state : ReadoutState) (parameter : UInt16)
    (current : ReadoutState) : Prop where
  more :
    samplesCacheSize * current.requests <
      (requestedItems state parameter).length
  numberOfSamples :
    current.request.metadata.numberOfSamples =
      requestedSamples state parameter
  extraSample :
    current.request.extraSample = requestedSamples state parameter % 2
  alreadyRead :
    current.request.alreadyReadSamples =
      samplesCacheSize * current.requests
  position :
    current.request.enumeratorStartIndex =
      state.items.length - (requestedItems state parameter).length +
        samplesCacheSize * current.requests
  chunks_eq :
    current.chunks.flatten =
      ((requestedItems state parameter).take
        (samplesCacheSize * current.requests)).flatten

/-- A download whose requested items are all read. -/
structure Finished
    (state : ReadoutState) (parameter : UInt16)
    (current : ReadoutState) : Prop where
  all_read :
    (requestedItems state parameter).length ≤
      samplesCacheSize * current.requests
  chunks_prefix :
    (requestedItems state parameter).flatten <+: current.chunks.flatten

/-- What holds in every state of a proper download. -/
structure Invariant
    (state : ReadoutState) (parameter : UInt16)
    (current : ReadoutState) : Prop where
  grown : ∃ samples, current.added = state.added ++ samples
  small : ∀ chunk ∈ current.chunks,
    chunk.length ≤ samplesCacheSize * measurementSampleSize
  progress :
    current.failed = true ∨ Reading state parameter current ∨
      Finished state parameter current

/-- The requested items are as many as hold the requested samples. -/
theorem length_requestedItems (state : ReadoutState) (parameter : UInt16) :
    2 * (requestedItems state parameter).length =
      requestedSamples state parameter +
        requestedSamples state parameter % 2 := by
  have bound : requestedSamples state parameter ≤
      2 * state.items.length := Nat.min_le_left _ _
  simp only [requestedItems, List.length_drop]
  omega

theorem requestedItems_eq (state : ReadoutState) (parameter : UInt16) :
    requestedItems state parameter =
      state.items.drop (state.items.length -
        (requestedItems state parameter).length) := by
  have length := length_requestedItems state parameter
  have size : (requestedItems state parameter).length =
      (requestedSamples state parameter +
        requestedSamples state parameter % 2) / 2 := by omega
  rw [size, requestedItems]

/-- The request with which a download begins. -/
theorem invariant_begun
    (notBeyond :
      state.startIndex < state.items.length ∨
        requestedSamples state parameter = 0) :
    Invariant state parameter
      (step state (.setRequestedSamples parameter)) where
  grown := ⟨[], (List.append_nil _).symm⟩
  small := by simp [step]
  progress := by
    have length := length_requestedItems state parameter
    by_cases nothing : requestedSamples state parameter = 0
    · have none : requestedItems state parameter = [] :=
        List.eq_nil_of_length_eq_zero (by omega)
      refine Or.inr (Or.inr ⟨?_, ?_⟩)
      · rw [none]
        exact Nat.zero_le _
      · rw [none]
        exact List.nil_prefix
    · have ready : state.isReady = true :=
        decide_eq_true (notBeyond.resolve_right nothing)
      have few := length_items_lt state
      have bound := parameter.toNat_lt
      have available : state.items.length * 2 % 65536 =
          2 * state.items.length := by omega
      have parameterEq : parameter.toNat % 65536 = parameter.toNat := by
        omega
      refine Or.inr (Or.inl ⟨?_, ?_, ?_, rfl, ?_, ?_⟩)
      · simp only [step]
        omega
      · simp only [step, beginReadSamples, ready, if_true, available,
          setRequestedSamples, parameterEq, requestedSamples]
      · simp only [step, beginReadSamples, ready, if_true, available,
          setRequestedSamples, parameterEq, requestedSamples]
      · have count : requestedSamples state parameter =
            min (2 * state.items.length) parameter.toNat := rfl
        simp only [step, beginReadSamples, ready, if_true, available,
          setRequestedSamples, parameterEq, ← count]
        split <;> omega
      · simp [step]

/-- What is read of the requested items. -/
theorem Reading.delivers
    (reading : Reading state parameter current) :
    DeliversRequested state parameter current := by
  rw [DeliversRequested, reading.chunks_eq]

theorem Finished.delivers
    (finished : Finished state parameter current) :
    DeliversRequested state parameter current := by
  have length := length_requestedItems state parameter
  have bytes : (requestedItems state parameter).flatten.length =
      (requestedItems state parameter).length * 8 :=
    length_flatten (fun data member =>
      items_sized state data (List.mem_of_mem_drop member))
  obtain ⟨others, chunks⟩ := finished.chunks_prefix
  rw [DeliversRequested, List.take_of_length_le finished.all_read, ← chunks,
    List.take_append_of_le_length (by omega)]

/-- A chunk that is read. -/
structure ReadsChunk (current next : ReadoutState) (size : Nat) :
    Prop where
  added_eq : next.added = current.added
  failed_eq : next.failed = current.failed
  requests_eq : next.requests = current.requests + 1
  metadata_eq : next.request.metadata = current.request.metadata
  extraSample_eq : next.request.extraSample = current.request.extraSample
  alreadyRead_eq :
    next.request.alreadyReadSamples =
      (current.request.alreadyReadSamples + size) % 65536
  position_eq :
    next.request.enumeratorStartIndex =
      (current.request.enumeratorStartIndex + size) % 65536
  chunks_eq :
    next.chunks = current.chunks ++
      [((current.items.drop current.request.enumeratorStartIndex).take
        size).flatten]

/-- A request that finds items reads a chunk of them. -/
theorem getNextSamples_ready
    (current : ReadoutState)
    (ready :
      current.request.enumeratorStartIndex < current.items.length) :
    ReadsChunk current (step current .getNextSamples)
      (min (current.items.length - current.request.enumeratorStartIndex)
        (min samplesCacheSize (unreadSamples current.request))) := by
  have fetched := readMoreSamples_listOps
    (fun data member =>
      items_sized current data (List.mem_of_mem_drop member))
    current.request
    (show min (current.items.length - current.request.enumeratorStartIndex)
        (min samplesCacheSize (unreadSamples current.request)) = _ by
      rw [← List.length_drop])
  have begun : step current .getNextSamples =
      { current with
        startIndex := current.request.enumeratorStartIndex
        requests := current.requests + 1
        request :=
          (readMoreSamples listOps
            (current.items.drop current.request.enumeratorStartIndex)
            current.request).2
        chunks := current.chunks ++
          [readBytes
            (readMoreSamples listOps
              (current.items.drop current.request.enumeratorStartIndex)
              current.request).2.samplesCache 0
            (readMoreSamples listOps
              (current.items.drop current.request.enumeratorStartIndex)
              current.request).2.dataLength] } :=
    if_pos (decide_eq_true ready)
  rw [begun, fetched.2, fetched.1]
  exact ⟨rfl, rfl, rfl, rfl, rfl, rfl, rfl, rfl⟩

/-- A request beyond the items reports an error. -/
theorem getNextSamples_notReady
    (current : ReadoutState)
    (beyond :
      current.items.length ≤ current.request.enumeratorStartIndex) :
    step current .getNextSamples =
      { current with
        startIndex := current.request.enumeratorStartIndex
        requests := current.requests + 1
        failed := true } :=
  if_neg (by
    rw [ReadoutState.isReady, decide_eq_true_eq]
    exact Nat.not_lt.mpr beyond)

/-- A chunk holds a few items. -/
theorem ReadsChunk.small
    {next : ReadoutState}
    {size : Nat}
    (chunk : ReadsChunk current next size)
    (sizeLe : size ≤ samplesCacheSize)
    (small : ∀ chunk ∈ current.chunks,
      chunk.length ≤ samplesCacheSize * measurementSampleSize) :
    ∀ chunk ∈ next.chunks,
      chunk.length ≤ samplesCacheSize * measurementSampleSize := by
  intro bytes member
  rw [chunk.chunks_eq] at member
  rcases List.mem_append.mp member with earlier | last
  · exact small bytes earlier
  · rw [List.mem_singleton.mp last, length_flatten (fun data member =>
      items_sized current data
        (List.mem_of_mem_drop (List.mem_of_mem_take member)))]
    apply Nat.mul_le_mul_right
    exact (List.length_take_le ..).trans sizeLe

/--
The next items to read: the requested items that are left, but an erase since
the request skips as many of them as it drops.
-/
theorem Reading.drop_items
    (reading : Reading state parameter current)
    {samples : List MeasurementSample}
    {erased : Nat}
    (grown : current.added = state.added ++ samples)
    (dropped : current.dropped = state.dropped + erased) :
    current.items.drop current.request.enumeratorStartIndex =
      (requestedItems state parameter ++
        samples.map MeasurementSample.toBytes).drop
          (samplesCacheSize * current.requests + erased) := by
  have part : state.items.length -
      (requestedItems state parameter).length ≤ state.items.length :=
    Nat.sub_le _ _
  rw [items_of_added state grown dropped, reading.position, List.drop_drop,
    requestedItems_eq, ← List.drop_append_of_le_length part,
    List.drop_drop, ← requestedItems_eq]
  congr 1
  omega

/-- The samples that `ReadMoreSamples` finds unread. -/
theorem Reading.unreadSamples_eq
    (reading : Reading state parameter current) :
    unreadSamples current.request =
      2 * ((requestedItems state parameter).length -
        samplesCacheSize * current.requests) := by
  have length := length_requestedItems state parameter
  have few := length_items_lt state
  have bound : requestedSamples state parameter ≤
      2 * state.items.length := Nat.min_le_left _ _
  have more := reading.more
  rw [unreadSamples, reading.extraSample, reading.numberOfSamples,
    reading.alreadyRead]
  omega

/-- The chunk of a request while requested items are left. -/
theorem Reading.getNextSamples
    (reading : Reading state parameter current)
    {samples : List MeasurementSample}
    (grown : current.added = state.added ++ samples)
    (same : current.dropped = state.dropped) :
    Reading state parameter (step current .getNextSamples) ∨
      Finished state parameter (step current .getNextSamples) := by
  have more := reading.more
  have left := @Reading.drop_items _ _ _ reading _ 0 grown same
  rw [Nat.add_zero, List.drop_append_of_le_length (Nat.le_of_lt more)]
    at left
  have few := length_items_lt state
  have part : (requestedItems state parameter).length ≤
      state.items.length := by
    simp only [requestedItems, List.length_drop]
    omega
  have unread := congrArg List.length left
  rw [List.length_drop, List.length_append, List.length_drop,
    List.length_map] at unread
  have chunk := getNextSamples_ready current (by omega)
  rw [unread, reading.unreadSamples_eq] at chunk
  generalize size_eq :
    min ((requestedItems state parameter).length -
        samplesCacheSize * current.requests + samples.length)
      (min samplesCacheSize
        (2 * ((requestedItems state parameter).length -
          samplesCacheSize * current.requests))) = size at chunk
  have next : samplesCacheSize * (current.requests + 1) =
      samplesCacheSize * current.requests + samplesCacheSize := by
    rw [Nat.mul_succ]
  have chunks : (step current .getNextSamples).chunks.flatten =
      ((requestedItems state parameter).take
          (samplesCacheSize * current.requests)).flatten ++
        (((requestedItems state parameter).drop
          (samplesCacheSize * current.requests) ++
            samples.map MeasurementSample.toBytes).take size).flatten := by
    rw [chunk.chunks_eq, left, List.flatten_append, reading.chunks_eq,
      List.flatten_singleton]
  by_cases whole :
      samplesCacheSize * (current.requests + 1) <
        (requestedItems state parameter).length
  · have full : size = samplesCacheSize := by omega
    refine Or.inl ⟨?_, ?_, ?_, ?_, ?_, ?_⟩
    · rw [chunk.requests_eq]
      exact whole
    · rw [chunk.metadata_eq, reading.numberOfSamples]
    · rw [chunk.extraSample_eq, reading.extraSample]
    · rw [chunk.alreadyRead_eq, chunk.requests_eq, reading.alreadyRead]
      omega
    · rw [chunk.position_eq, chunk.requests_eq, reading.position]
      omega
    · rw [chunks, chunk.requests_eq, full, next, List.take_add,
        List.flatten_append,
        List.take_append_of_le_length (by rw [List.length_drop]; omega)]
  · have rest : (requestedItems state parameter).length -
        samplesCacheSize * current.requests ≤ size := by omega
    refine Or.inr ⟨?_, ?_⟩
    · rw [chunk.requests_eq]
      omega
    · have last :
          ((requestedItems state parameter).drop
              (samplesCacheSize * current.requests)).take size =
            (requestedItems state parameter).drop
              (samplesCacheSize * current.requests) :=
        List.take_of_length_le (by rw [List.length_drop]; exact rest)
      rw [chunks, List.take_append, last, List.flatten_append,
        ← List.append_assoc, ← List.flatten_append, List.take_append_drop]
      exact List.prefix_append _ _

/-- After an erase the next chunk does not start where the last one ended. -/
theorem Reading.skips_erased
    (reading : Reading state parameter current)
    {samples : List MeasurementSample}
    {erased : Nat}
    (grown : current.added = state.added ++ samples)
    (dropped : current.dropped = state.dropped + erased)
    (ready :
      current.request.enumeratorStartIndex < current.items.length) :
    ∃ size,
      (step current .getNextSamples).chunks =
        current.chunks ++
          [(((requestedItems state parameter ++
            samples.map MeasurementSample.toBytes).drop
              (samplesCacheSize * current.requests + erased)).take
                size).flatten] ∧
      (step current .getNextSamples).failed = current.failed := by
  have chunk := getNextSamples_ready current ready
  have skipped := chunk.chunks_eq
  rw [reading.drop_items grown dropped] at skipped
  exact ⟨_, skipped, chunk.failed_eq⟩

/-- One request of a proper download. -/
theorem Invariant.getNextSamples
    (invariant : Invariant state parameter current)
    (proper :
      (requestedItems state parameter).length ≤
          samplesCacheSize * current.requests ∨
        current.dropped = state.dropped ∨
        current.items.length ≤ current.request.enumeratorStartIndex) :
    Invariant state parameter (step current .getNextSamples) := by
  obtain ⟨samples, grown⟩ := invariant.grown
  by_cases ready :
      current.request.enumeratorStartIndex < current.items.length
  · have chunk := getNextSamples_ready current ready
    refine ⟨⟨samples, chunk.added_eq.trans grown⟩,
      chunk.small (by omega) invariant.small, ?_⟩
    rcases invariant.progress with failed | reading | finished
    · exact Or.inl (chunk.failed_eq.trans failed)
    · rcases proper with allRead | same | beyond
      · exact absurd reading.more (Nat.not_lt.mpr allRead)
      · exact Or.inr (reading.getNextSamples grown same)
      · exact absurd ready (Nat.not_lt.mpr beyond)
    · refine Or.inr (Or.inr ⟨?_, ?_⟩)
      · rw [chunk.requests_eq, Nat.mul_succ]
        exact finished.all_read.trans (Nat.le_add_right _ _)
      · rw [chunk.chunks_eq, List.flatten_append]
        exact finished.chunks_prefix.trans (List.prefix_append _ _)
  · rw [getNextSamples_notReady current (Nat.not_lt.mp ready)]
    exact ⟨⟨samples, grown⟩, invariant.small, Or.inl rfl⟩

/-- A whole proper download. -/
theorem ProperReadout.invariant
    (notBeyond :
      state.startIndex < state.items.length ∨
        requestedSamples state parameter = 0)
    (readout : ProperReadout state parameter current) :
    Invariant state parameter current := by
  induction readout with
  | begun => exact invariant_begun notBeyond
  | add samples _ invariant =>
      obtain ⟨earlier, grown⟩ := invariant.grown
      refine ⟨⟨earlier ++ [samples], ?_⟩, invariant.small,
        invariant.progress.imp_right (Or.imp ?_ ?_)⟩
      · rw [step, grown, List.append_assoc]
      · exact fun reading => { reading with }
      · exact fun finished => { finished with }
  | getNextSamples _ proper invariant =>
      exact invariant.getNextSamples proper

end Readout

/--
When the left-over start index lies within the store and no page is erased
while requested items are left, a download delivers the requested samples chunk
by chunk whatever is added, or reports an error.
-/
theorem proper_readout_delivers
    (state : ReadoutState)
    (parameter : UInt16)
    (notBeyond :
      state.startIndex < state.items.length ∨
        requestedSamples state parameter = 0)
    (final : ReadoutState)
    (readout : ProperReadout state parameter final) :
    (final.failed = true ∨ DeliversRequested state parameter final) ∧
      ∀ chunk ∈ final.chunks,
        chunk.length ≤ samplesCacheSize * measurementSampleSize := by
  have invariant := readout.invariant notBeyond
  refine ⟨invariant.progress.imp_right ?_, invariant.small⟩
  rintro (reading | finished)
  · exact reading.delivers
  · exact finished.delivers

/-- Two samples with these ticks. -/
def samplesOf (ticks : UInt16) : MeasurementSample where
  first := { temperatureTicks := ticks, humidityTicks := ticks }
  second := { temperatureTicks := ticks, humidityTicks := ticks }

/-- Two items are stored. -/
def twoItems : ReadoutState :=
  [.add (samplesOf 1), .add (samplesOf 2)].foldl step start

/-- A third item is added before three samples of the others are read. -/
theorem proper_readout_delivers_three :
    ∃ final,
      ProperReadout twoItems 3 final ∧
      final.chunks =
        [[1, 0, 1, 0, 1, 0, 1, 0, 2, 0, 2, 0, 2, 0, 2, 0,
          3, 0, 3, 0, 3, 0, 3, 0]] ∧
      (final.failed = true ∨ DeliversRequested twoItems 3 final) := by
  have readout : ProperReadout twoItems 3
      (step (step (step twoItems (.setRequestedSamples 3))
        (.add (samplesOf 3))) .getNextSamples) :=
    .getNextSamples (.add _ .begun) (Or.inr (Or.inl (by decide)))
  exact ⟨_, readout, by decide,
    (proper_readout_delivers twoItems 3 (Or.inl (by decide)) _ readout).1⟩

/--
One sample of two items is read, then the store is erased and gets one item.
-/
def leftOverStartIndex : List Event :=
  [.add (samplesOf 1), .add (samplesOf 2), .setRequestedSamples 1,
    .getNextSamples, .deleteAllItems, .add (samplesOf 3)]

/-- The stored item is requested, nothing arrives, no error is reported. -/
theorem readout_delivers_nothing :
    ¬ ∀ (events : List Event) (parameter : UInt16) (final : ReadoutState),
      ProperReadout (events.foldl step start) parameter final →
        final.failed = true ∨
          DeliversRequested (events.foldl step start) parameter final := by
  intro claimed
  have readout := claimed leftOverStartIndex 2 _
    (.getNextSamples .begun (Or.inr (Or.inl (by decide))))
  exact absurd readout (by decide)

end DemoBoard.ChunkedReadout
