import DemoBoard.ItemStorePlaced

namespace DemoBoard.ItemStore

open ByteMemory

/-!
# Adds to stores in any condition

`AddItem` may find a page whose items the counters have forgotten.  Where no
assertion fails, it writes to the page that takes the next item only, keeps the
links between the pages, and starts at most the erase of the next page.
-/

section Write

variable {item : ItemDef}
variable {state after : ItemStoreState}
variable {ok : Bool}

/-- A write that passes the assertions. -/
theorem flashWrite_ok
    {address count : Nat}
    {bytes : List Byte}
    (idle : state.flash.Idle)
    (aligned : address % 8 = 0)
    (wrote :
      flashWrite state address bytes (8 * (count + 1)) =
        .ok (after, ok)) :
    (∃ words ≤ count + 1, after = written state address bytes words) ∧
      (ok = true →
        ConstantOn state.flash.memory erasedByte address
          (address + 8 * (count + 1))) := by
  unfold flashWrite at wrote
  cases result :
      state.flash.write address (bufferOf bytes) (8 * (count + 1)) with
  | error failure =>
      rw [result] at wrote
      cases wrote
  | ok outcome =>
      obtain ⟨⟨words, bound, same⟩, erased⟩ :=
        Flash.write_ok idle aligned result
      rw [result] at wrote
      cases wrote
      exact ⟨⟨words, bound, by rw [same]; rfl⟩, erased⟩

theorem modifyInfo_id (state : ItemStoreState) (item : ItemDef) :
    modifyInfo state item id = state := by
  simp [modifyInfo]

/-- A change of the metadata of a store. -/
theorem extends_modifyInfo
    (item : ItemDef)
    (state : ItemStoreState)
    {change : ItemStoreInfo → ItemStoreInfo}
    (keepsState : ∀ info, (change info).currentState = info.currentState)
    (keepsStatus :
      ∀ info, (change info).enumeratorStatus = info.enumeratorStatus)
    (keepsCallback :
      ∀ info, (change info).enumeratorStatusCb = info.enumeratorStatusCb) :
    Extends item [] state (modifyInfo state item change) where
  history := by simp
  memory := rfl
  inside := by simp
  others := fun other different => modifyInfo_other state change different
  currentState := by simp [keepsState]
  enumeratorStatus := by simp [keepsStatus]
  enumeratorStatusCb := by simp [keepsCallback]
  recoverableErrors := rfl
  eraseReminder := rfl

/-- A write behind the header of a page keeps all headers. -/
theorem headerBytes_written
    (state : ItemStoreState)
    (bytes : List Byte)
    {page address words : Nat}
    (lower : pageAddr page + pageHeaderSize ≤ address)
    (upper : address + 8 * words ≤ pageAddr page + flashPageSize)
    (other : Nat) :
    headerBytes (written state address bytes words).flash.memory other =
      headerBytes state.flash.memory other := by
  rw [written_memory, applyEffects_programEffects]
  by_cases same : other = page
  · rw [same]
    exact readBytes_congr (writeBytes_agreeOn _ (by omega))
  · have agree := @writeBytes_agreeOn_page state.flash.memory page other
      address (readBytes (bufferOf bytes) 0 (8 * words)) same
      (Nat.le_trans (Nat.le_add_right _ _) lower)
      (by rw [length_readBytes]; exact upper)
    exact readBytes_congr (agree.mono (Nat.le_refl _)
      (by simp [pageHeaderSize, flashPageSize]))

/-- The place for the next item of a store can be programmed. -/
def NextSlotErased (state : ItemStoreState) (item : ItemDef) : Prop :=
  let address :=
    slotAddress (geometry item).itemSize (writePage state item)
      (state.itemStore item).currentPageNrOfItems
  ConstantOn state.flash.memory erasedByte address
    (address + (geometry item).itemSize)

/-- What `WriteItem` does to a store with room for an item. -/
structure ItemWritten
    (item : ItemDef) (before : ItemStoreState) (ok : Bool)
    (after : ItemStoreState) : Prop where
  extended : ∃ effects, Extends item effects before after
  located : Located item after
  rest : AtRest after
  writes :
    (after.itemStore item).nextWritePageInfo =
      (before.itemStore item).nextWritePageInfo
  count_eq :
    (after.itemStore item).currentPageNrOfItems =
      (before.itemStore item).currentPageNrOfItems + if ok then 1 else 0
  headers : ∀ page,
    headerBytes after.flash.memory page =
      headerBytes before.flash.memory page
  erased : ok = true → NextSlotErased before item

/-- `WriteItem` of a store with room, where no assertion fails. -/
theorem writeItem_ok
    (located : Located item state)
    (rest : AtRest state)
    (room :
      (state.itemStore item).currentPageNrOfItems <
        (geometry item).capacity)
    {data : List Byte}
    (wrote : writeItem state item data = .ok (after, ok)) :
    ItemWritten item state ok after := by
  have capacity := (geometry item).capacity_le
  have page := located.inStore
  have fits :=
    (geometry item).slotAddress_fits (writePage state item)
      (Nat.succ_le_of_lt room)
  rw [slotAddress_succ] at fits
  have lower := slotAddress_ge (geometry item).itemSize
    (writePage state item) (state.itemStore item).currentPageNrOfItems
  have aligned := (geometry item).slotAddress_aligned
    (writePage state item) (state.itemStore item).currentPageNrOfItems
  have lastPage := located.static.lastPage_eq
  have firstPage := located.static.firstPage_eq
  obtain ⟨fewer, words_eq⟩ := Nat.exists_eq_succ_of_ne_zero
    (show (geometry item).itemWords ≠ 0 from
      Nat.ne_of_gt (geometry item).someWords)
  have size : (geometry item).itemSize = 8 * (fewer + 1) := by
    rw [StoreGeometry.itemSize, words_eq]
  have place :
      pageAddr (state.itemStore item).nextWritePageInfo.pageId.toNat +
          pageHeaderSize +
          (state.itemStore item).currentPageNrOfItems *
            (state.itemStore item).itemSize =
        slotAddress (geometry item).itemSize (writePage state item)
          (state.itemStore item).currentPageNrOfItems := by
    rw [located.static.itemSize_eq, slotAddress, writePage]
  unfold writeItem at wrote
  simp only [bind, Except.bind, place] at wrote
  rw [if_neg (by unfold InStore writePage at page; omega),
    located.static.itemSize_eq] at wrote
  have slot : ∀ address,
      address = slotAddress (geometry item).itemSize (writePage state item)
        (state.itemStore item).currentPageNrOfItems →
      ConstantOn state.flash.memory erasedByte address
        (address + 8 * (fewer + 1)) →
      NextSlotErased state item := by
    intro address same erased
    rw [NextSlotErased, ← same, size]
    exact erased
  generalize found : slotAddress (geometry item).itemSize
    (writePage state item) (state.itemStore item).currentPageNrOfItems =
      address at fits lower aligned wrote
  rw [size] at wrote fits
  cases result : flashWrite state address data (8 * (fewer + 1)) with
  | error failure =>
      rw [result] at wrote
      cases wrote
  | ok outcome =>
      rcases outcome with ⟨middle, success⟩
      rw [result] at wrote
      obtain ⟨⟨words, bound, rfl⟩, erased⟩ :=
        flashWrite_ok rest.flashIdle aligned result
      have headers := headerBytes_written state data lower
        (show address + 8 * words ≤
            pageAddr (writePage state item) + flashPageSize by omega)
      have extended (change : ItemStoreInfo → ItemStoreInfo) :=
        @extends_written item state data address words
          (writePage state item - (geometry item).firstPage)
          (by
            rw [page.pageOf]
            exact Nat.le_trans (Nat.le_add_right _ _) lower)
          (by rw [page.pageOf]; omega) change
      have idle : AtRest (written state address data words) :=
        ⟨rest.listenerIdle, rest.flashIdle.written _ _ _⟩
      cases success with
      | false =>
          have unchanged := extended id (fun _ => rfl) (fun _ => rfl)
            (fun _ => rfl)
          rw [modifyInfo_id] at unchanged
          cases wrote
          exact
            { extended := ⟨_, unchanged⟩
              located := located.congr located.static rfl rfl
                located.count_le (fun other _ => headers other)
                (fun other _ doomed =>
                  (rest.notCondemned other doomed).elim)
              rest := idle
              writes := rfl
              count_eq := rfl
              headers := headers
              erased := fun failed =>
                absurd failed Bool.false_ne_true }
      | true =>
          have counted :
              ((state.itemStore item).currentPageNrOfItems + 1) % 65536 =
                (state.itemStore item).currentPageNrOfItems + 1 :=
            Nat.mod_eq_of_lt (by omega)
          cases wrote
          exact
            { extended := ⟨_, extended _ (fun _ => rfl) (fun _ => rfl)
                (fun _ => rfl)⟩
              located := by
                refine located.congr ?_ ?_ ?_ ?_
                  (fun other _ => headers other)
                  (fun other _ doomed =>
                    (rest.notCondemned other doomed).elim)
                · rw [modifyInfo_same]
                  exact { located.static with }
                · rw [modifyInfo_same]
                  rfl
                · rw [modifyInfo_same]
                  rfl
                · rw [modifyInfo_same]
                  simp only [written_itemStore, counted]
                  omega
              rest := ⟨idle.listenerIdle, idle.flashIdle⟩
              writes := by
                rw [modifyInfo_same]
                rfl
              count_eq := by
                rw [modifyInfo_same]
                simp only [written_itemStore, counted, if_true]
              headers := headers
              erased := fun _ => slot address found.symm (erased rfl) }

/-- A page gets a tag: the one that took the last item. -/
theorem Located.programmed
    (located : Located item state)
    (rest : AtRest state)
    (static : StaticInfo item (after.itemStore item))
    (tag : ∃ blockId,
      (after.itemStore item).nextWritePageInfo =
        tagFor item (writePage after item) blockId)
    (inStore : InStore item (writePage after item))
    (oldest :
      (after.itemStore item).oldestPageInfo =
        (state.itemStore item).oldestPageInfo)
    (count_le :
      (after.itemStore item).currentPageNrOfItems ≤
        (geometry item).capacity)
    (headers : ∀ page, page ≠ writePage state item →
      headerBytes after.flash.memory page =
        headerBytes state.flash.memory page)
    (inUse : PageInUse item after (writePage state item)) :
    Located item after where
  static := static
  tag := tag
  inStore := inStore
  oldest := by
    rw [oldest]
    exact located.oldest
  count_le := count_le
  pages := by
    intro page pageInStore
    by_cases same : page = writePage state item
    · rw [same]
      exact .inr inUse
    have header := headers page same
    rcases located.pages page pageInStore with blank | wasInUse
    · exact .inl (by rw [Blank, header]; exact blank)
    obtain ⟨blockId, begun⟩ := inUse.begun
    refine .inr
      { begun := ?_
        closed := ?_
        nextPage := ?_
        linked := ?_ }
    · rw [headerAt_congr header]
      exact wasInUse.begun
    · intro _
      rw [Complete, headerAt_congr header]
      exact wasInUse.closed same
    · rw [Complete, headerAt_congr header]
      exact wasInUse.nextPage
    · intro complete
      rw [Complete, headerAt_congr header] at complete
      by_cases next : nextPageOf item page = writePage state item
      · rw [next]
        exact .inr (.inl (not_blank_of_begun begun))
      · rcases wasInUse.linked complete with last | programmed | doomed
        · exact (next last).elim
        · rw [Blank, headers _ next]
          exact .inr (.inl programmed)
        · exact (rest.notCondemned page doomed).elim

/-- The state in which the erase of the next page has been started. -/
def erasingNext
    (item : ItemDef) (completeTag : PageCompleteTag)
    (oldest : PageBeginTag) (state : ItemStoreState) : ItemStoreState :=
  { modifyInfo state item fun info =>
      { pointTo completeTag info with
        oldestPageInfo := oldest
        nrOfFullPages := (info.nrOfFullPages + 255) % 256 } with
    eraseParameters :=
      { itemStore := (state.itemStore item).currentPageInfo.itemId
        nrOfPages := 1
        reinit := false
        pageNumber := completeTag.nextPage.toNat }
    listenerState := .erasing
    flash := state.flash.eraseRequested completeTag.nextPage.toNat 1 }

/-- `AdjustNextWritePage`, where no assertion fails. -/
theorem adjustNextWritePage_cases
    (rest : AtRest state)
    {completeTag : PageCompleteTag}
    (adjusted :
      adjustNextWritePage state item completeTag = .ok (after, ok)) :
    let page := completeTag.nextPage.toNat
    let header := headerAt state.flash.memory page
    let oldest :=
      headerAt state.flash.memory header.completeTag.nextPage.toNat
    Blank state.flash.memory page ∧
        after = modifyInfo state item (pointTo completeTag) ∨
      ¬ Blank state.flash.memory page ∧
        after = erasingNext item completeTag oldest.beginTag state := by
  intro page header oldest
  unfold adjustNextWritePage at adjusted
  rw [readHeader_headerAt] at adjusted
  simp only [toBytes_headerAt] at adjusted
  split at adjusted
  · rename_i blank
    cases adjusted
    exact .inl ⟨blank, rfl⟩
  rename_i programmed
  rw [readHeader_headerAt] at adjusted
  simp only [bind, Except.bind] at adjusted
  split at adjusted
  · cases adjusted
  split at adjusted
  · cases adjusted
  split at adjusted
  · cases adjusted
  simp only [modifyInfo_modifyInfo, modifyInfo_same, flashErase,
    modifyInfo_flash] at adjusted
  cases result : state.flash.erase completeTag.nextPage.toNat 1 with
  | error failure =>
      rw [result] at adjusted
      cases adjusted
  | ok flash =>
      obtain ⟨lower, upper⟩ := Flash.erase_ok result
      rw [Flash.erase_idle rest.flashIdle lower upper] at adjusted
      cases adjusted
      exact .inr ⟨programmed, rfl⟩

/-- The oldest page is erased to make room for the next one. -/
structure WrapStarted
    (item : ItemDef) (state : ItemStoreState) : Prop where
  erasing : state.listenerState = .erasing
  keep : state.eraseParameters.reinit = false
  single : state.eraseParameters.nrOfPages = 1
  page : state.eraseParameters.pageNumber = writePage state item
  flash : state.flash.Erasing (writePage state item) 1

/-- What an add or the end of a page leads to. -/
structure Settled
    (item : ItemDef) (before after : ItemStoreState) : Prop where
  extended : ∃ effects, Extends item effects before after
  placed : Placed item after
  phase : AtRest after ∨ WrapStarted item after

theorem settled_erasingNext
    (located : Located item state)
    (rest : AtRest state)
    {completeTag : PageCompleteTag}
    (nextPage :
      (state.itemStore item).nextWritePageInfo.pageId =
        completeTag.nextPage)
    (programmed : ¬ Blank state.flash.memory (writePage state item))
    (used : Complete state.flash.memory (writePage state item)) :
    let header := headerAt state.flash.memory (writePage state item)
    let oldest :=
      headerAt state.flash.memory header.completeTag.nextPage.toNat
    Settled item state
      (erasingNext item completeTag oldest.beginTag state) := by
  intro header oldest
  have inStore := located.inStore
  have following := nextPageOf_inStore inStore
  have inUse := (located.pages _ inStore).resolve_left programmed
  have follows := inUse.nextPage used
  have followed : ¬ Blank state.flash.memory
      (nextPageOf item (writePage state item)) := by
    rcases inUse.linked used with same | next | doomed
    · exact (nextPageOf_ne inStore same).elim
    · exact next
    · exact (rest.notCondemned _ doomed).elim
  obtain ⟨oldestBlock, oldestTag⟩ :=
    ((located.pages _ following).resolve_left followed).begun
  obtain ⟨blockId, tag⟩ := located.tag
  have samePage :
      writePage (erasingNext item completeTag oldest.beginTag state) item =
        writePage state item := by
    simp only [writePage, erasingNext, modifyInfo_same, pointTo, nextPage]
  have doomed : Condemned
      (erasingNext item completeTag oldest.beginTag state)
      (writePage state item) := by
    simp only [Condemned, erasingNext, ← nextPage, writePage]
    exact ⟨trivial, Nat.le_refl _, Nat.lt_succ_self _⟩
  refine ⟨⟨[], ?_⟩, ⟨?_, ?_⟩, .inr ?_⟩
  · exact
      { history := by simp [erasingNext, Flash.eraseRequested]
        memory := rfl
        inside := by simp
        others := by
          intro other different
          simp [erasingNext, modifyInfo_other, different]
        currentState := by simp [erasingNext, pointTo]
        enumeratorStatus := by simp [erasingNext, pointTo]
        enumeratorStatusCb := by simp [erasingNext, pointTo]
        recoverableErrors := rfl
        eraseReminder := rfl }
  · exact
      { static := by
          simp only [erasingNext, modifyInfo_same]
          exact { located.static with }
        tag := by
          rw [samePage]
          refine ⟨completeTag.nextPageId, ?_⟩
          simp only [erasingNext, modifyInfo_same, pointTo]
          rw [tag, ← nextPage, tag]
          rfl
        inStore := by
          rw [samePage]
          exact inStore
        oldest := by
          simp only [erasingNext, modifyInfo_same, oldest, header, follows,
            oldestTag, tagFor]
          rw [following.byte]
          exact following
        count_le := by
          simp only [erasingNext, modifyInfo_same]
          exact located.count_le
        pages := by
          intro page pageInStore
          rcases located.pages page pageInStore with blank | pageInUse
          · exact .inl blank
          · exact .inr (pageInUse.congr samePage rfl id
              (fun was => (rest.notCondemned page was).elim)) }
  · exact .inr (.inr (.inr (by rw [samePage]; exact doomed)))
  · exact
      { erasing := rfl
        keep := rfl
        single := rfl
        page := by
          rw [samePage]
          simp only [erasingNext, ← nextPage, writePage]
        flash := by
          rw [samePage]
          simp only [erasingNext, ← nextPage, writePage]
          exact rest.flashIdle.eraseRequested _ _ }

/-- `AdjustNextWritePage` points to the next page, and may erase it. -/
theorem adjustNextWritePage_settled
    (located : Located item state)
    (rest : AtRest state)
    {completeTag : PageCompleteTag}
    (nextPage :
      (state.itemStore item).nextWritePageInfo.pageId =
        completeTag.nextPage)
    (used : ¬ Blank state.flash.memory (writePage state item) →
      Complete state.flash.memory (writePage state item))
    (adjusted :
      adjustNextWritePage state item completeTag = .ok (after, ok)) :
    Settled item state after ∧
      (AtRest after ∨ ¬ Blank state.flash.memory (writePage state item)) := by
  have cases := adjustNextWritePage_cases rest adjusted
  simp only [← nextPage] at cases
  rcases cases with ⟨blank, rfl⟩ | ⟨programmed, rfl⟩
  · have pointed : writePage
        (modifyInfo state item (pointTo completeTag)) item =
          writePage state item := by
      simp only [writePage, modifyInfo_same, pointTo, nextPage]
    have idle : AtRest (modifyInfo state item (pointTo completeTag)) :=
      ⟨rest.listenerIdle, rest.flashIdle⟩
    obtain ⟨blockId, tag⟩ := located.tag
    refine ⟨⟨⟨[], ?_⟩, ⟨?_, .inr (.inl ?_)⟩, .inl idle⟩, .inl idle⟩
    · exact extends_modifyInfo item state (fun _ => rfl) (fun _ => rfl)
        (fun _ => rfl)
    · exact
        { static := by
            rw [modifyInfo_same]
            exact { located.static with }
          tag := by
            rw [pointed]
            refine ⟨completeTag.nextPageId, ?_⟩
            rw [modifyInfo_same, pointTo, tag, ← nextPage, tag]
            rfl
          inStore := by
            rw [pointed]
            exact located.inStore
          oldest := by
            rw [modifyInfo_same]
            exact located.oldest
          count_le := by
            rw [modifyInfo_same]
            exact located.count_le
          pages := by
            intro page inStore
            rcases located.pages page inStore with blank | inUse
            · exact .inl blank
            · exact .inr (inUse.congr pointed rfl id id) }
    · rw [pointed]
      exact blank
  · exact ⟨settled_erasingNext located rest nextPage programmed
      (used programmed), .inr programmed⟩

/-- The tag at the end of a page header. -/
theorem completeTag_of_bytes
    {memory : Memory}
    {page : Nat}
    {tag : PageCompleteTag}
    (bytes : readBytes memory (pageAddr page + 8) 8 = tag.toBytes) :
    (headerAt memory page).completeTag = tag := by
  rw [← PageCompleteTag.ofBytes_toBytes (headerAt memory page).completeTag,
    (tagBytes_headerAt memory page).2, bytes,
    PageCompleteTag.ofBytes_toBytes]

/-- The tag at the start of a page header. -/
theorem beginTag_of_bytes
    {memory : Memory}
    {page : Nat}
    {tag : PageBeginTag}
    (bytes : readBytes memory (pageAddr page) 8 = tag.toBytes) :
    (headerAt memory page).beginTag = tag := by
  have same := PageBeginTag.ofBytes_toBytes
    (headerAt memory page).beginTag []
  have given := PageBeginTag.ofBytes_toBytes tag []
  rw [(tagBytes_headerAt memory page).1, bytes, given] at same
  exact same.symm

/-- A write to a page changes the header of this page only. -/
theorem headerBytes_elsewhere
    (state : ItemStoreState)
    (bytes : List Byte)
    {page other : Nat}
    {offset words : Nat}
    (fits : offset + 8 * words ≤ flashPageSize)
    (different : other ≠ page) :
    headerBytes
        (written state (pageAddr page + offset) bytes words).flash.memory
        other =
      headerBytes state.flash.memory other := by
  rw [written_memory, applyEffects_programEffects]
  have agree := @writeBytes_agreeOn_page state.flash.memory page other
    (pageAddr page + offset) (readBytes (bufferOf bytes) 0 (8 * words))
    different (Nat.le_add_right _ _)
    (by rw [length_readBytes]; omega)
  exact readBytes_congr (agree.mono (Nat.le_refl _)
    (by simp [pageHeaderSize, flashPageSize]))

/-- Reading a tag back. -/
theorem readBytes_written_tag
    (state : ItemStoreState)
    {bytes : List Byte}
    (address : Nat)
    (length : bytes.length = 8) :
    readBytes (written state address bytes 1).flash.memory address 8 =
      bytes := by
  have stored : readBytes (bufferOf bytes) 0 (8 * 1) = bytes := by
    rw [readBytes_bufferOf (by omega), List.take_of_length_le (by omega)]
  rw [written_memory, applyEffects_programEffects, stored, ← length]
  exact readBytes_writeBytes_same state.flash.memory address bytes

/-- The complete tag of a page is written and the next page is set. -/
theorem Located.closePage
    (located : Located item state)
    (rest : AtRest state)
    (programmed : ¬ Blank state.flash.memory (writePage state item))
    (closed : ItemStoreState)
    (closed_eq :
      closed =
        modifyInfo
          (written state (pageAddr (writePage state item) + 8)
            (closingTag (state.itemStore item)).toBytes 1)
          item (pageClosed (closingTag (state.itemStore item)))) :
    Located item closed ∧
      (¬ Blank closed.flash.memory (writePage closed item) →
        Complete closed.flash.memory (writePage closed item)) := by
  have inStore := located.inStore
  have following := nextPageOf_inStore inStore
  have apart := nextPageOf_ne inStore
  have inUse := (located.pages _ inStore).resolve_left programmed
  obtain ⟨blockId, tag⟩ := located.tag
  have nextPage : (closingTag (state.itemStore item)).nextPage =
      UInt8.ofNat (nextPageOf item (writePage state item)) := by
    rw [closingTag, nextPageNr_eq located.static, writePage]
  have samePage :
      writePage closed item = nextPageOf item (writePage state item) := by
    rw [closed_eq, writePage, modifyInfo_same, pageClosed, nextPage]
    exact following.byte
  have complete :
      (headerAt closed.flash.memory (writePage state item)).completeTag =
        closingTag (state.itemStore item) := by
    apply completeTag_of_bytes
    rw [closed_eq]
    exact readBytes_written_tag state _
      (by simp [PageCompleteTag.toBytes])
  have headers : ∀ page, page ≠ writePage state item →
      headerBytes closed.flash.memory page =
        headerBytes state.flash.memory page := by
    intro page different
    rw [closed_eq]
    exact headerBytes_elsewhere state _ (by decide) different
  refine ⟨located.programmed rest ?_ ?_ ?_ ?_ ?_ headers ?_, ?_⟩
  · rw [closed_eq, modifyInfo_same]
    exact { located.static with }
  · rw [samePage]
    refine ⟨(closingTag (state.itemStore item)).nextPageId, ?_⟩
    rw [closed_eq, modifyInfo_same, pageClosed, nextPage,
      written_itemStore, tag]
    rfl
  · rw [samePage]
    exact following
  · rw [closed_eq, modifyInfo_same]
    rfl
  · rw [closed_eq, modifyInfo_same]
    exact located.count_le
  · refine
      { begun := ?_
        closed := ?_
        nextPage := ?_
        linked := ?_ }
    · obtain ⟨number, begun⟩ := inUse.begun
      refine ⟨number, beginTag_of_bytes ?_⟩
      rw [← begun, (tagBytes_headerAt _ _).1, closed_eq, modifyInfo_flash,
        written_memory, applyEffects_programEffects]
      exact readBytes_congr (writeBytes_agreeOn _ (by omega))
    · intro _
      rw [Complete, complete]
      exact PageCompleteTag.hasNoData_toBytes rfl
    · intro _
      rw [complete, nextPage]
      exact following.byte
    · intro _
      exact .inl samePage.symm
  · intro used
    have header := headers _ apart
    rw [samePage] at used ⊢
    rw [Blank, header] at used
    rw [Complete, headerAt_congr header]
    exact ((located.pages _ following).resolve_left used).closed apart

/-- `ClosePageIfFull`, where no assertion fails. -/
theorem closePageIfFull_settled
    (located : Located item state)
    (rest : AtRest state)
    (programmed : ¬ Blank state.flash.memory (writePage state item))
    (notClosed : ¬ Complete state.flash.memory (writePage state item))
    (closing : closePageIfFull state item = .ok (after, ok)) :
    Settled item state after ∧
      (AtRest after ∨
        (state.itemStore item).currentPageNrOfItems =
            (geometry item).capacity ∧
          ¬ Blank state.flash.memory
            (nextPageOf item (writePage state item))) := by
  have inStore := located.inStore
  by_cases room :
      (state.itemStore item).currentPageNrOfItems < (geometry item).capacity
  · rw [closePageIfFull_room located.static room] at closing
    cases closing
    exact ⟨⟨⟨[], Extends.refl item state⟩, ⟨located, .inl room⟩, .inl rest⟩,
      .inl rest⟩
  have full := Nat.le_antisymm located.count_le (Nat.le_of_not_lt room)
  have exceeds := ((geometry item).slotAddress_exceeds_iff
    (writePage state item) (geometry item).capacity).mpr (Nat.le_refl _)
  rw [slotAddress, ← located.static.itemSize_eq, ← full, writePage]
    at exceeds
  have blankTag : hasNoData
      (readBytes state.flash.memory
        (pageAddr (writePage state item) + 8) 8) = true := by
    rw [Complete, (tagBytes_headerAt _ _).2] at notClosed
    simpa using notClosed
  have aligned := pageAddr_aligned (writePage state item)
  have success := @flashWrite_erased state rest.flashIdle item
    (writePage state item - (geometry item).firstPage)
    (pageAddr (writePage state item) + 8) 1
    (closingTag (state.itemStore item)).toBytes Nat.one_pos (by omega)
    (by rw [inStore.pageOf]; exact Nat.le_add_right _ _)
    (by rw [inStore.pageOf]; simp [flashPageSize])
    (constantOn_of_hasNoData blankTag)
  have extended := @extends_written item state
    (closingTag (state.itemStore item)).toBytes
    (pageAddr (writePage state item) + 8) 1
    (writePage state item - (geometry item).firstPage)
    (by rw [inStore.pageOf]; exact Nat.le_add_right _ _)
    (by rw [inStore.pageOf]; simp [flashPageSize])
    (pageClosed (closingTag (state.itemStore item)))
    (fun _ => rfl) (fun _ => rfl) (fun _ => rfl)
  unfold closePageIfFull at closing
  simp only [bind, Except.bind] at closing
  rw [if_pos exceeds] at closing
  rw [show flashWrite state
    (pageAddr (state.itemStore item).nextWritePageInfo.pageId.toNat +
      pageBeginTagSize)
    (closingTag (state.itemStore item)).toBytes 8 = _ from success]
    at closing
  simp only [Bool.true_eq_false, if_false] at closing
  change adjustNextWritePage
    (modifyInfo _ item (pageClosed (closingTag (state.itemStore item))))
    item (closingTag (state.itemStore item)) = _ at closing
  generalize closed_eq :
    modifyInfo
      (written state (pageAddr (writePage state item) + 8)
        (closingTag (state.itemStore item)).toBytes 1)
      item (pageClosed (closingTag (state.itemStore item))) = closed
    at extended closing
  obtain ⟨closedLocated, used⟩ :=
    located.closePage rest programmed closed closed_eq.symm
  have pointed : (closed.itemStore item).nextWritePageInfo.pageId =
      (closingTag (state.itemStore item)).nextPage := by
    rw [← closed_eq, modifyInfo_same, pageClosed]
  have idle : AtRest closed := by
    rw [← closed_eq]
    exact ⟨rest.listenerIdle, rest.flashIdle.written _ _ _⟩
  obtain ⟨settled, ends⟩ := adjustNextWritePage_settled closedLocated idle
    pointed used closing
  obtain ⟨effects, adjusted⟩ := settled.extended
  refine ⟨⟨⟨_, extended.trans adjusted⟩, settled.placed, settled.phase⟩, ?_⟩
  rcases ends with still | followed
  · exact .inl still
  · have nextPage : writePage closed item =
        nextPageOf item (writePage state item) := by
      rw [writePage, pointed, closingTag, nextPageNr_eq located.static]
      exact (nextPageOf_inStore inStore).byte
    refine .inr ⟨full, ?_⟩
    rw [nextPage, ← closed_eq, Blank, modifyInfo_flash,
      headerBytes_elsewhere state _ (by decide) (nextPageOf_ne inStore)]
      at followed
    exact followed

/-- The next item fills its page, and the page behind it is in use. -/
structure StartsWrap (item : ItemDef) (state : ItemStoreState) : Prop where
  begun : ¬ Blank state.flash.memory (writePage state item)
  notClosed : ¬ Complete state.flash.memory (writePage state item)
  last :
    (state.itemStore item).currentPageNrOfItems + 1 =
      (geometry item).capacity
  erased : NextSlotErased state item
  followed :
    ¬ Blank state.flash.memory (nextPageOf item (writePage state item))

/-- The begin tag of a page is written. -/
theorem Located.openPage
    (located : Located item state)
    (rest : AtRest state)
    (blank : Blank state.flash.memory (writePage state item))
    (opened : ItemStoreState)
    (opened_eq :
      opened =
        modifyInfo
          (written state (pageAddr (writePage state item))
            (state.itemStore item).nextWritePageInfo.toBytes 1)
          item fun info => { info with currentPageNrOfItems := 0 }) :
    Located item opened := by
  obtain ⟨blockId, tag⟩ := located.tag
  have samePage : writePage opened item = writePage state item := by
    rw [opened_eq, writePage, modifyInfo_same]
    rfl
  have headers : ∀ page, page ≠ writePage state item →
      headerBytes opened.flash.memory page =
        headerBytes state.flash.memory page := by
    intro page different
    rw [opened_eq]
    exact @headerBytes_elsewhere state
      (state.itemStore item).nextWritePageInfo.toBytes _ page 0 1
      (by decide) different
  have notComplete :
      ¬ Complete opened.flash.memory (writePage state item) := by
    have notBefore := (blank_iff.mp blank).2
    rw [Complete, (tagBytes_headerAt _ _).2] at notBefore ⊢
    rw [opened_eq, modifyInfo_flash, written_memory,
      applyEffects_programEffects]
    rw [readBytes_congr (writeBytes_agreeOn _ (by simp))]
    exact notBefore
  refine located.programmed rest ?_ ?_ ?_ ?_ ?_ headers ?_
  · rw [opened_eq, modifyInfo_same]
    exact { located.static with }
  · rw [samePage]
    refine ⟨blockId, ?_⟩
    rw [opened_eq, modifyInfo_same]
    exact tag
  · rw [samePage]
    exact located.inStore
  · rw [opened_eq, modifyInfo_same]
    rfl
  · rw [opened_eq, modifyInfo_same]
    exact Nat.zero_le _
  · exact
      { begun := by
          refine ⟨blockId, beginTag_of_bytes ?_⟩
          rw [opened_eq, ← tag]
          exact readBytes_written_tag state _
            (by simp [PageBeginTag.toBytes])
        closed := fun different => (different samePage.symm).elim
        nextPage := fun complete => (notComplete complete).elim
        linked := fun complete => (notComplete complete).elim }

/-- `AddItem`, where no assertion fails. -/
theorem addItem_settled
    (placed : Placed item state)
    (rest : AtRest state)
    {data : List Byte}
    (added : addItem state item data = .ok (after, ok)) :
    Settled item state after ∧ (AtRest after ∨ StartsWrap item state) := by
  have inStore := placed.inStore
  obtain ⟨blockId, tag⟩ := placed.tag
  unfold addItem at added
  simp only [show (state.itemStore item).nextWritePageInfo.pageId.toNat =
    writePage state item from rfl, readHeader_headerAt, toBytes_headerAt,
    bind, Except.bind] at added
  split at added
  · rename_i blank
    have room := (geometry item).capacity_pos
    have free := constantOn_of_hasNoData (blank_iff.mp blank).1
    have aligned := pageAddr_aligned (writePage state item)
    have success := @flashWrite_erased state rest.flashIdle item
      (writePage state item - (geometry item).firstPage)
      (pageAddr (writePage state item)) 1
      (state.itemStore item).nextWritePageInfo.toBytes Nat.one_pos aligned
      (by rw [inStore.pageOf])
      (by rw [inStore.pageOf]; simp [flashPageSize]) free
    have extended := @extends_written item state
      (state.itemStore item).nextWritePageInfo.toBytes
      (pageAddr (writePage state item)) 1
      (writePage state item - (geometry item).firstPage)
      (by rw [inStore.pageOf])
      (by rw [inStore.pageOf]; simp [flashPageSize])
      (fun info => { info with currentPageNrOfItems := 0 })
      (fun _ => rfl) (fun _ => rfl) (fun _ => rfl)
    rw [show flashWrite state (pageAddr (writePage state item))
      (state.itemStore item).nextWritePageInfo.toBytes pageBeginTagSize =
        _ from success] at added
    simp only [Bool.true_eq_false, if_false] at added
    generalize opened_eq :
      modifyInfo
        (written state (pageAddr (writePage state item))
          (state.itemStore item).nextWritePageInfo.toBytes 1) item
        (fun info => { info with currentPageNrOfItems := 0 }) = opened
      at extended added
    have located := placed.toLocated.openPage rest blank opened
      opened_eq.symm
    have idle : AtRest opened := by
      rw [← opened_eq]
      exact ⟨rest.listenerIdle, rest.flashIdle.written _ _ _⟩
    have counted :
        (opened.itemStore item).currentPageNrOfItems = 0 := by
      rw [← opened_eq, modifyInfo_same]
    have wrote := writeItem_ok located idle (by omega) added
    obtain ⟨effects, more⟩ := wrote.extended
    have large := (geometry item).capacity_ge
    have count := wrote.count_eq
    refine ⟨⟨⟨_, extended.trans more⟩, ⟨wrote.located, .inl ?_⟩,
      .inl wrote.rest⟩, .inl wrote.rest⟩
    rw [count, counted]
    split <;> omega
  · rename_i begun
    split at added
    · rename_i notClosed
      have open' : ¬ Complete state.flash.memory (writePage state item) := by
        rw [Complete, notClosed]
        simp
      have room :
          (state.itemStore item).currentPageNrOfItems <
            (geometry item).capacity := by
        rcases placed.room with room | blank | complete | doomed
        · exact room
        · exact (begun blank).elim
        · exact (open' complete).elim
        · exact (rest.notCondemned _ doomed).elim
      cases result : writeItem state item data with
      | error failure =>
          rw [result] at added
          cases added
      | ok outcome =>
          rcases outcome with ⟨middle, success⟩
          rw [result] at added
          have wrote := writeItem_ok placed.toLocated rest room result
          obtain ⟨effects, extended⟩ := wrote.extended
          have samePage :
              writePage middle item = writePage state item := by
            rw [writePage, wrote.writes, writePage]
          cases success with
          | false =>
              cases added
              have count := wrote.count_eq
              refine ⟨⟨⟨_, extended⟩, ⟨wrote.located, .inl ?_⟩,
                .inl wrote.rest⟩, .inl wrote.rest⟩
              rw [count]
              simpa using room
          | true =>
              simp only [Bool.true_eq_false, if_false] at added
              obtain ⟨settled, ends⟩ := closePageIfFull_settled
                wrote.located wrote.rest
                (by rw [samePage, Blank, wrote.headers]; exact begun)
                (by
                  rw [samePage, Complete, headerAt_congr (wrote.headers _)]
                  exact open')
                added
              obtain ⟨closing, closed⟩ := settled.extended
              refine ⟨⟨⟨_, extended.trans closed⟩, settled.placed,
                settled.phase⟩, ?_⟩
              rcases ends with still | ⟨full, followed⟩
              · exact .inl still
              · have count := wrote.count_eq
                rw [samePage, Blank, wrote.headers] at followed
                exact .inr
                  { begun := begun
                    notClosed := open'
                    last := by rw [← full, count, if_pos rfl]
                    erased := wrote.erased rfl
                    followed := followed }
    · cases added
      exact ⟨⟨⟨[], Extends.refl item _⟩, placed, .inl rest⟩, .inl rest⟩

/-- The tags `InitItemStore` gives to a store without pages. -/
def reinitialised (item : ItemDef) (state : ItemStoreState) :
    ItemStoreState :=
  modifyInfo state item fun info =>
    { info with
      currentPageInfo := initialTag info item
      nextWritePageInfo := initialTag info item
      oldestPageInfo := initialTag info item }

/-- The scan of `InitItemStore` passes blank pages. -/
theorem scan_blank
    (static : StaticInfo item (state.itemStore item))
    (blank : ∀ page, InStore item page → Blank state.flash.memory page)
    {places : List Nat}
    (inside : ∀ place ∈ places, place < (geometry item).nrOfPages)
    (header : PageHeader) :
    ∃ last,
      places.foldlM (scanPage item) (state, header) =
        .ok (state, last) := by
  induction places generalizing header with
  | nil => exact ⟨header, rfl⟩
  | cons place rest inductionHypothesis =>
      have near := inside place (List.mem_cons_self ..)
      have small : (place + (geometry item).firstPage) % 256 =
          (geometry item).firstPage + place := by
        have last := (geometry item).lastWritable
        simp only [lastWritableFlashPage, firstWritableFlashPage] at last
        omega
      have passed :
          scanPage item (state, header) place =
            .ok (state, headerAt state.flash.memory
              ((geometry item).firstPage + place)) := by
        have none := blank ((geometry item).firstPage + place)
          ⟨by omega, by omega⟩
        rw [Blank, ← toBytes_headerAt] at none
        rw [scanPage]
        simp only [static.firstPage_eq, small, readHeader_headerAt,
          Option.getD_some, none, if_true]
      rw [List.foldlM_cons, passed]
      exact inductionHypothesis
        (fun other member => inside other (List.mem_cons_of_mem _ member)) _

/-- `InitItemStore` of a store without pages. -/
theorem initItemStore_blank
    (static : StaticInfo item (state.itemStore item))
    (blank : ∀ page, InStore item page → Blank state.flash.memory page) :
    initItemStore state item = .ok (reinitialised item state) := by
  have positive := (geometry item).nrOfPages_pos
  have keeps : StaticInfo item
      ((reinitialised item state).itemStore item) := by
    rw [reinitialised, modifyInfo_same]
    exact { static with }
  obtain ⟨last, scanned⟩ := @scan_blank item (reinitialised item state)
    keeps blank (List.range (geometry item).nrOfPages)
    (fun place member => List.mem_range.mp member) zeroHeader
  have first : ((reinitialised item state).itemStore
      item).nextWritePageInfo.pageId.toNat = (geometry item).firstPage := by
    rw [reinitialised, modifyInfo_same]
    simp only [initialTag, static.firstPage_eq]
    exact InStore.byte ⟨Nat.le_refl _, by omega⟩
  have notClosed :
      (headerAt state.flash.memory
        (geometry item).firstPage).completeTag.magic ≠ pageMagic := by
    have none := (blank_iff.mp (blank (geometry item).firstPage
      ⟨Nat.le_refl _, by omega⟩)).2
    intro magic
    exact none (PageCompleteTag.hasNoData_toBytes magic)
  rw [initItemStore]
  change (List.range
    ((reinitialised item state).itemStore item).nrOfPages).foldlM
      (scanPage item) (reinitialised item state, zeroHeader) >>= _ = _
  rw [keeps.nrOfPages_eq, scanned]
  simp only [bind, Except.bind, first, readHeader_headerAt,
    Option.getD_some]
  exact if_neg notClosed

/-- A store without pages after `InitItemStore`. -/
theorem placed_reinitialised
    (static : StaticInfo item (state.itemStore item))
    (count_le :
      (state.itemStore item).currentPageNrOfItems ≤
        (geometry item).capacity)
    (blank : ∀ page, InStore item page → Blank state.flash.memory page) :
    Placed item (reinitialised item state) := by
  have positive := (geometry item).nrOfPages_pos
  have inStore : InStore item (geometry item).firstPage :=
    ⟨Nat.le_refl _, by omega⟩
  have first : writePage (reinitialised item state) item =
      (geometry item).firstPage := by
    rw [writePage, reinitialised, modifyInfo_same]
    simp only [initialTag, static.firstPage_eq]
    exact inStore.byte
  refine ⟨?_, .inr (.inl ?_)⟩
  · exact
      { static := by
          rw [reinitialised, modifyInfo_same]
          exact { static with }
        tag := by
          refine ⟨0, ?_⟩
          rw [first, reinitialised, modifyInfo_same, initialTag, tagFor,
            static.firstPage_eq, static.itemSize_eq]
        inStore := by
          rw [first]
          exact inStore
        oldest := by
          rw [reinitialised, modifyInfo_same]
          simp only [initialTag, static.firstPage_eq]
          rw [inStore.byte]
          exact inStore
        count_le := by
          rw [reinitialised, modifyInfo_same]
          exact count_le
        pages := fun page member => .inl (blank page member) }
  · rw [first]
    exact blank _ inStore

end Write

end DemoBoard.ItemStore
