import LocHal.Core.SystemStatus
import LocHal.Core.SystemStatusOsObserver

/-!
# Notification of changed data items (`gps/core/SystemStatusOsObserver.cpp`)

`notify` hands a list of data items to the observer.  The message it queues asks `updateCache` of
each whether it has changed, finds the clients to be told through `mDataItemToClients`, and for each
of them the items to tell it of through `mClientToDataItems`.

`notify_exact` says that with the two maps inverse to each other a client is told exactly of the
changed items it subscribes to, once.  Data items are created and copied by a library that is loaded
at run time (`DataItemLibrary`); nothing is assumed of it, as what is sent is read from the cache.
-/

namespace LocHal
namespace SystemStatusOsObserver

/-- What is loaded with the data items: `createNewDataItem` of `DataItemsFactoryProxy`, `copy`, with
what it stores in `*dataItemCopied`, and `setPeerData`. -/
structure DataItemLibrary (RilData : Type) where
  createNewDataItem : SystemStatus.DataItemId → Option (SystemStatus.DataItem RilData)
  copy : SystemStatus.DataItem RilData → SystemStatus.DataItem RilData →
    SystemStatus.DataItem RilData × Bool
  setPeerData : Option RilData → Option RilData

/-- The observer and the cache of the `SystemStatus` it belongs to. -/
structure Notified (Client Double Rest RilData : Type) where
  observer : SystemStatusOsObserver Client SystemStatus.DataItemId (SystemStatus.DataItem RilData)
  mSystemStatus : SystemStatus.Cache Double Rest RilData

variable {Client Double Rest RilData : Type}

/-- The message that `notify` queues: `mDiVec`, which begins with as many null pointers as the list
has items. -/
def notify (lib : DataItemLibrary RilData) (dlist : List (SystemStatus.DataItem RilData)) :
    Option (List (Option (SystemStatus.DataItem RilData))) :=
  if dlist.isEmpty then none
  else
    let created := dlist.filterMap fun each =>
      (lib.createNewDataItem each.getId).map fun di => (lib.copy di each).1
    some (List.replicate dlist.length none ++ created.map some)

/-- `mDataItemCache` with the item under its id. -/
def Notified.cached (o : Notified Client Double Rest RilData) (id : SystemStatus.DataItemId)
    (dataitem : SystemStatus.DataItem RilData) : Notified Client Double Rest RilData :=
  { o with observer := { o.observer with
      mDataItemCache := o.observer.mDataItemCache.insert id dataitem } }

section UpdateCache

variable [BEq Double]

/-- `updateCache`: what is returned, and the item as `eventDataItemNotify` leaves it. -/
def updateCache (lib : DataItemLibrary RilData) (now : ℕ)
    (o : Notified Client Double Rest RilData) : Option (SystemStatus.DataItem RilData) →
      Notified Client Double Rest RilData × Option (SystemStatus.DataItem RilData) × Bool
  | none => (o, none, false)
  | some d =>
    let event := SystemStatus.eventDataItemNotify lib.setPeerData now d o.mSystemStatus
    let o := { o with mSystemStatus := event.1 }
    let d := event.2.2
    if event.2.1 then
      match o.observer.mDataItemCache.lookup d.getId with
      | none =>
        match lib.createNewDataItem d.getId with
        | none => (o, some d, false)
        | some dataitem => (o.cached d.getId (lib.copy dataitem d).1, some d, true)
      | some dataitem =>
        let copied := lib.copy dataitem d
        (o.cached d.getId copied.1, some d, copied.2)
    else (o, some d, false)

/-- The first loop of `HandleNotify::proc`, with the items and what `updateCache` returns of each.
The clock is read for each, when so many others are left. -/
def updateEach (lib : DataItemLibrary RilData) (clock : ℕ → ℕ) :
    Notified Client Double Rest RilData → List (Option (SystemStatus.DataItem RilData)) →
      Notified Client Double Rest RilData × List (Option (SystemStatus.DataItem RilData) × Bool)
  | o, [] => (o, [])
  | o, item :: rest =>
    let updated := updateCache lib (clock rest.length) o item
    let later := updateEach lib clock updated.1 rest
    (later.1, updated.2 :: later.2)

/-- `dataItemIdsToBeSent`. -/
def dataItemIdsToBeSent (updates : List (Option (SystemStatus.DataItem RilData) × Bool)) :
    UnorderedSet SystemStatus.DataItemId :=
  (∅ : UnorderedSet SystemStatus.DataItemId).insertAll
    (updates.filterMap fun update => if update.2 then update.1.map (·.getId) else none)

variable [DecidableEq Client]

/-- `clientSet`. -/
def clientSet (mDataItemToClients : LocUnorderedSetMap SystemStatus.DataItemId Client)
    (toBeSent : UnorderedSet SystemStatus.DataItemId) : UnorderedSet Client :=
  toBeSent.elems.foldl
    (fun set each =>
      match mDataItemToClients.getValSetPtr each with
      | none => set
      | some clients => set.insertAll clients.elems) ∅

/-- `dataItemIdsForThisClient` after the loop that erases what is not to be sent. -/
def dataItemIdsForThisClient (s toBeSent : UnorderedSet SystemStatus.DataItemId) :
    UnorderedSet SystemStatus.DataItemId :=
  s.elems.foldl (fun s itr => if itr ∈ toBeSent then s else s.erase itr) s

/-- `HandleNotify::proc`. -/
def procNotify (lib : DataItemLibrary RilData) (clock : ℕ → ℕ)
    (o : Notified Client Double Rest RilData)
    (mDiVec : List (Option (SystemStatus.DataItem RilData))) :
    Notified Client Double Rest RilData ×
      List (Output Client SystemStatus.DataItemId (SystemStatus.DataItem RilData)) :=
  let updated := updateEach lib clock o mDiVec
  let o := updated.1
  let toBeSent := dataItemIdsToBeSent updated.2
  (o, (clientSet o.observer.mDataItemToClients toBeSent).elems.flatMap fun client =>
    o.observer.sendCachedDataItems
      (dataItemIdsForThisClient (o.observer.mClientToDataItems.getValSet client) toBeSent) client)

/-- `notify`, and the processing of the message it queues. -/
def notifyAndProc (lib : DataItemLibrary RilData) (clock : ℕ → ℕ)
    (o : Notified Client Double Rest RilData) (dlist : List (SystemStatus.DataItem RilData)) :
    Notified Client Double Rest RilData ×
      List (Output Client SystemStatus.DataItemId (SystemStatus.DataItem RilData)) :=
  match notify lib dlist with
  | none => (o, [])
  | some mDiVec => procNotify lib clock o mDiVec

/-- The items of a list that `updateCache` returns true of, by their ids. -/
def Changed (lib : DataItemLibrary RilData) (clock : ℕ → ℕ)
    (o : Notified Client Double Rest RilData) (dlist : List (SystemStatus.DataItem RilData))
    (id : SystemStatus.DataItemId) : Prop :=
  ∃ mDiVec, notify lib dlist = some mDiVec ∧
    ∃ d, (some d, true) ∈ (updateEach lib clock o mDiVec).2 ∧ d.getId = id

end UpdateCache

/-! ## The cache after the updates -/

section Updates

variable {lib : DataItemLibrary RilData} {o : Notified Client Double Rest RilData}
  {id : SystemStatus.DataItemId}

/-- The id has an item in the cache. -/
def Notified.HasCached (o : Notified Client Double Rest RilData) (id : SystemStatus.DataItemId) :
    Prop :=
  (o.observer.mDataItemCache.lookup id).isSome = true

lemma hasCached_cached {id' : SystemStatus.DataItemId} {dataitem : SystemStatus.DataItem RilData} :
    (o.cached id dataitem).HasCached id' ↔ id' = id ∨ o.HasCached id' := by
  simp only [Notified.HasCached, Notified.cached, AList.lookup_isSome, AList.mem_insert]

variable [BEq Double] {clock : ℕ → ℕ} {now : ℕ}

/-- What `updateCache` does to the observer: it leaves it alone, and then returns false, or it puts
an item under the id of the one it is given. -/
lemma updateCache_cases (lib : DataItemLibrary RilData) (now : ℕ)
    (o : Notified Client Double Rest RilData) (item : Option (SystemStatus.DataItem RilData)) :
    ((updateCache lib now o item).1.observer = o.observer ∧
        (updateCache lib now o item).2.2 = false) ∨
      ∃ d dataitem, (updateCache lib now o item).2.1 = some d ∧
        (updateCache lib now o item).1.observer = (o.cached d.getId dataitem).observer := by
  cases item with
  | none => exact .inl ⟨rfl, rfl⟩
  | some d =>
    simp only [updateCache]
    split_ifs with hrecorded
    · split
      · split
        · exact .inl ⟨rfl, rfl⟩
        · exact .inr ⟨_, _, rfl, rfl⟩
      · exact .inr ⟨_, _, rfl, rfl⟩
    · exact .inl ⟨rfl, rfl⟩

lemma updateCache_maps (lib : DataItemLibrary RilData) (now : ℕ)
    (o : Notified Client Double Rest RilData) (item : Option (SystemStatus.DataItem RilData)) :
    (updateCache lib now o item).1.observer.mClientToDataItems = o.observer.mClientToDataItems ∧
      (updateCache lib now o item).1.observer.mDataItemToClients =
        o.observer.mDataItemToClients := by
  obtain ⟨hsame, -⟩ | ⟨d, dataitem, -, hcached⟩ := updateCache_cases lib now o item
  · rw [hsame]
    exact ⟨rfl, rfl⟩
  · rw [hcached]
    exact ⟨rfl, rfl⟩

lemma Notified.HasCached.updateCache (h : o.HasCached id)
    (item : Option (SystemStatus.DataItem RilData)) :
    (updateCache lib now o item).1.HasCached id := by
  obtain ⟨hsame, -⟩ | ⟨d, dataitem, -, hcached⟩ := updateCache_cases lib now o item
  · rwa [Notified.HasCached, hsame]
  · rw [Notified.HasCached, hcached]
    exact hasCached_cached.mpr (.inr h)

/-- An item of which `updateCache` returns true is in the cache. -/
lemma hasCached_of_updated {item : Option (SystemStatus.DataItem RilData)}
    {d : SystemStatus.DataItem RilData} (h : (updateCache lib now o item).2 = (some d, true)) :
    (updateCache lib now o item).1.HasCached d.getId := by
  obtain ⟨-, hfalse⟩ | ⟨d', dataitem, hitem, hcached⟩ := updateCache_cases lib now o item
  · rw [h] at hfalse
    cases hfalse
  · rw [h] at hitem
    cases hitem
    rw [Notified.HasCached, hcached]
    exact hasCached_cached.mpr (.inl rfl)

lemma updateEach_maps (mDiVec : List (Option (SystemStatus.DataItem RilData))) :
    (updateEach lib clock o mDiVec).1.observer.mClientToDataItems =
        o.observer.mClientToDataItems ∧
      (updateEach lib clock o mDiVec).1.observer.mDataItemToClients =
        o.observer.mDataItemToClients := by
  induction mDiVec generalizing o with
  | nil => exact ⟨rfl, rfl⟩
  | cons item rest ih =>
    obtain ⟨hclients, hitems⟩ := updateCache_maps lib (clock rest.length) o item
    exact ⟨ih.1.trans hclients, ih.2.trans hitems⟩

lemma Notified.HasCached.updateEach (h : o.HasCached id)
    (mDiVec : List (Option (SystemStatus.DataItem RilData))) :
    (updateEach lib clock o mDiVec).1.HasCached id := by
  induction mDiVec generalizing o with
  | nil => exact h
  | cons item rest ih => exact ih (h.updateCache item)

/-- What has changed is in the cache when all items are processed. -/
lemma hasCached_of_mem_updates {mDiVec : List (Option (SystemStatus.DataItem RilData))}
    {d : SystemStatus.DataItem RilData} (h : (some d, true) ∈ (updateEach lib clock o mDiVec).2) :
    (updateEach lib clock o mDiVec).1.HasCached d.getId := by
  induction mDiVec generalizing o with
  | nil => cases h
  | cons item rest ih =>
    rcases List.mem_cons.mp h with hupdated | hlater
    · exact (hasCached_of_updated hupdated.symm).updateEach rest
    · exact ih hlater

lemma mem_dataItemIdsToBeSent {updates : List (Option (SystemStatus.DataItem RilData) × Bool)} :
    id ∈ dataItemIdsToBeSent updates ↔ ∃ d, (some d, true) ∈ updates ∧ d.getId = id := by
  rw [dataItemIdsToBeSent, UnorderedSet.mem_insertAll, List.mem_filterMap]
  constructor
  · rintro (hempty | ⟨⟨item, updated⟩, hmem, hid⟩)
    · exact absurd hempty (UnorderedSet.notMem_empty id)
    · cases updated with
      | false => cases hid
      | true =>
        obtain ⟨d, rfl, hd⟩ := Option.map_eq_some_iff.mp hid
        exact ⟨d, hmem, hd⟩
  · rintro ⟨d, hmem, hid⟩
    exact .inr ⟨(some d, true), hmem, by simp [hid]⟩

end Updates

/-! ## Who is told of what -/

section Recipients

variable [DecidableEq Client] {o : Notified Client Double Rest RilData}
  {id : SystemStatus.DataItemId} {client : Client}
  {s toBeSent : UnorderedSet SystemStatus.DataItemId}

lemma mem_clientSet {m : LocUnorderedSetMap SystemStatus.DataItemId Client} :
    client ∈ clientSet m toBeSent ↔ ∃ id ∈ toBeSent, m.Holds id client := by
  have h : ∀ (l : List SystemStatus.DataItemId) (set : UnorderedSet Client),
      client ∈ l.foldl (fun set each =>
        match m.getValSetPtr each with
        | none => set
        | some clients => set.insertAll clients.elems) set ↔
        client ∈ set ∨ ∃ id ∈ l, m.Holds id client := by
    intro l
    induction l with
    | nil => simp
    | cons each l ih =>
      intro set
      rw [List.foldl_cons, ih]
      simp only [List.mem_cons, exists_eq_or_imp]
      cases hptr : m.getValSetPtr each with
      | none =>
        have hnone := LocUnorderedSetMap.not_holds_of_ptr_none hptr client
        tauto
      | some clients =>
        rw [UnorderedSet.mem_insertAll, LocUnorderedSetMap.holds_of_ptr hptr client, or_assoc]
        exact Iff.rfl
  exact (h toBeSent.elems ∅).trans (or_iff_right (UnorderedSet.notMem_empty client))

lemma mem_dataItemIdsForThisClient :
    id ∈ dataItemIdsForThisClient s toBeSent ↔ id ∈ s ∧ id ∈ toBeSent := by
  have h : ∀ (l : List SystemStatus.DataItemId) (s : UnorderedSet SystemStatus.DataItemId),
      id ∈ l.foldl (fun s itr => if itr ∈ toBeSent then s else s.erase itr) s ↔
        id ∈ s ∧ (id ∈ l → id ∈ toBeSent) := by
    intro l
    induction l with
    | nil => simp
    | cons itr l ih =>
      intro s
      rw [List.foldl_cons, ih, List.mem_cons]
      split_ifs with hsent
      · constructor
        · rintro ⟨hs, hl⟩
          exact ⟨hs, by rintro (rfl | hid); exacts [hsent, hl hid]⟩
        · exact fun ⟨hs, hl⟩ => ⟨hs, fun hid => hl (.inr hid)⟩
      · rw [UnorderedSet.mem_erase]
        constructor
        · rintro ⟨⟨hne, hs⟩, hl⟩
          exact ⟨hs, by rintro (rfl | hid); exacts [absurd rfl hne, hl hid]⟩
        · rintro ⟨hs, hl⟩
          exact ⟨⟨fun hid => hsent (hid ▸ hl (.inl hid)), hs⟩, fun hid => hl (.inr hid)⟩
  refine (h s.elems s).trans (and_congr_right fun hs => ?_)
  exact ⟨fun hl => hl hs, fun hsent _ => hsent⟩

/-- The lists that a client is notified of. -/
def notificationsOf (client : Client)
    (outs : List (Output Client SystemStatus.DataItemId (SystemStatus.DataItem RilData))) :
    List (List (SystemStatus.DataItem RilData)) :=
  outs.filterMap fun
    | .notify c dlist => if c = client then some dlist else none
    | _ => none

omit [DecidableEq Client] in
/-- The list that `sendCachedDataItems` makes. -/
lemma sendCachedDataItems_of_cached (client : Client) (hcached : ∀ id ∈ s, o.HasCached id)
    (hs : ∃ id, id ∈ s) :
    ∃ dlist, o.observer.sendCachedDataItems s client = [.notify client dlist] ∧
      dlist.map some = s.elems.reverse.map o.observer.mDataItemCache.lookup := by
  have hall : (s.elems.filterMap fun each => o.observer.mDataItemCache.lookup each).map some =
      s.elems.map o.observer.mDataItemCache.lookup := by
    rw [List.map_filterMap_some_eq_filter_map_isSome, List.filter_eq_self]
    intro item hitem
    obtain ⟨id, hid, rfl⟩ := List.mem_map.mp hitem
    exact hcached id hid
  refine ⟨(s.elems.filterMap fun each => o.observer.mDataItemCache.lookup each).reverse, ?_, ?_⟩
  · obtain ⟨id, hid⟩ := hs
    have hne :
        (s.elems.filterMap fun each => o.observer.mDataItemCache.lookup each).reverse ≠ [] := by
      intro hnil
      rw [List.reverse_eq_nil_iff.mp hnil] at hall
      have hmem := List.mem_map_of_mem (f := o.observer.mDataItemCache.lookup) hid
      rw [← hall] at hmem
      cases hmem
    simp only [sendCachedDataItems]
    exact if_neg fun hempty => hne (List.isEmpty_iff.mp hempty)
  · rw [List.map_reverse, hall, List.map_reverse]

lemma notificationsOf_sendCachedDataItems_of_ne {c : Client} (hne : c ≠ client) :
    notificationsOf client (o.observer.sendCachedDataItems s c) = [] := by
  simp only [sendCachedDataItems]
  split_ifs
  · rfl
  · simp [notificationsOf, hne]

/-- A client gets what is sent in its own round of the loop. -/
lemma notificationsOf_flatMap {clients : List Client} (hnodup : clients.Nodup)
    (setOf : Client → UnorderedSet SystemStatus.DataItemId) :
    notificationsOf client (clients.flatMap fun c => o.observer.sendCachedDataItems (setOf c) c) =
      if client ∈ clients then
        notificationsOf client (o.observer.sendCachedDataItems (setOf client) client)
      else [] := by
  induction clients with
  | nil => rfl
  | cons c clients ih =>
    obtain ⟨hc, hclients⟩ := List.nodup_cons.mp hnodup
    rw [List.flatMap_cons, notificationsOf, List.filterMap_append, ← notificationsOf,
      ← notificationsOf, ih hclients]
    by_cases hclient : c = client
    · subst hclient
      rw [if_neg hc, if_pos List.mem_cons_self, List.append_nil]
    · rw [notificationsOf_sendCachedDataItems_of_ne hclient, List.nil_append]
      have hmem : client ∈ c :: clients ↔ client ∈ clients := by
        rw [List.mem_cons, or_iff_right (Ne.symm hclient)]
      simp only [hmem]

end Recipients

section Exact

variable [BEq Double] [DecidableEq Client] {lib : DataItemLibrary RilData} {clock : ℕ → ℕ}
  {o : Notified Client Double Rest RilData}

/-- The maps that the message is processed with are those of the observer it comes to, so that the
items for a client are the changed ones that it subscribes to. -/
lemma mem_dataItemIds_iff {mDiVec : List (Option (SystemStatus.DataItem RilData))} {client : Client}
    {id : SystemStatus.DataItemId} :
    id ∈ dataItemIdsForThisClient
        ((updateEach lib clock o mDiVec).1.observer.mClientToDataItems.getValSet client)
        (dataItemIdsToBeSent (updateEach lib clock o mDiVec).2) ↔
      (∃ d, (some d, true) ∈ (updateEach lib clock o mDiVec).2 ∧ d.getId = id) ∧
        o.observer.mClientToDataItems.Holds client id := by
  rw [mem_dataItemIdsForThisClient, mem_dataItemIdsToBeSent, (updateEach_maps mDiVec).1, and_comm]
  exact Iff.rfl

lemma mem_clientSet_iff {mDiVec : List (Option (SystemStatus.DataItem RilData))} {client : Client}
    (hinverse : ∀ client id, o.observer.mClientToDataItems.Holds client id ↔
      o.observer.mDataItemToClients.Holds id client) :
    client ∈ (clientSet (updateEach lib clock o mDiVec).1.observer.mDataItemToClients
        (dataItemIdsToBeSent (updateEach lib clock o mDiVec).2)).elems ↔
      ∃ id, (∃ d, (some d, true) ∈ (updateEach lib clock o mDiVec).2 ∧ d.getId = id) ∧
        o.observer.mClientToDataItems.Holds client id := by
  rw [UnorderedSet.mem_elems, mem_clientSet, (updateEach_maps mDiVec).2]
  exact exists_congr fun id => and_congr mem_dataItemIdsToBeSent (hinverse client id).symm

/-- **Change notification.** With inverse maps, a list that is given to `notify` is followed by one
notification of each client that subscribes to an item that has changed, with the cached values of
the changed items that it subscribes to, and by none of the other clients. -/
theorem notify_exact (lib : DataItemLibrary RilData) (clock : ℕ → ℕ)
    (o : Notified Client Double Rest RilData) (dlist : List (SystemStatus.DataItem RilData))
    (hinverse : ∀ client id, o.observer.mClientToDataItems.Holds client id ↔
      o.observer.mDataItemToClients.Holds id client) (client : Client) :
    ((∃ id, Changed lib clock o dlist id ∧ o.observer.mClientToDataItems.Holds client id) →
      ∃ ids : List SystemStatus.DataItemId, ids.Nodup ∧
        (∀ id, id ∈ ids ↔
          Changed lib clock o dlist id ∧ o.observer.mClientToDataItems.Holds client id) ∧
        ∃ notified, notificationsOf client (notifyAndProc lib clock o dlist).2 = [notified] ∧
          notified.map some =
            ids.map (notifyAndProc lib clock o dlist).1.observer.mDataItemCache.lookup) ∧
    ((¬ ∃ id, Changed lib clock o dlist id ∧ o.observer.mClientToDataItems.Holds client id) →
      notificationsOf client (notifyAndProc lib clock o dlist).2 = []) := by
  cases hmsg : notify lib dlist with
  | none =>
    have hproc : notifyAndProc lib clock o dlist = (o, []) := by simp only [notifyAndProc, hmsg]
    have hunchanged : ∀ id, ¬ Changed lib clock o dlist id := by
      rintro id ⟨mDiVec, hsome, -⟩
      rw [hmsg] at hsome
      cases hsome
    rw [hproc]
    exact ⟨fun ⟨id, hid, _⟩ => absurd hid (hunchanged id), fun _ => rfl⟩
  | some mDiVec =>
    have hproc : notifyAndProc lib clock o dlist = procNotify lib clock o mDiVec := by
      simp only [notifyAndProc, hmsg]
    have hchanged : ∀ id, Changed lib clock o dlist id ↔
        ∃ d, (some d, true) ∈ (updateEach lib clock o mDiVec).2 ∧ d.getId = id := by
      intro id
      simp only [Changed, hmsg, Option.some.injEq, exists_eq_left']
    simp only [hproc, hchanged, procNotify]
    rw [notificationsOf_flatMap (UnorderedSet.nodup _)]
    constructor
    · intro hconcerned
      rw [if_pos ((mem_clientSet_iff hinverse).mpr hconcerned)]
      set s := dataItemIdsForThisClient
        ((updateEach lib clock o mDiVec).1.observer.mClientToDataItems.getValSet client)
        (dataItemIdsToBeSent (updateEach lib clock o mDiVec).2) with hs
      have hmem : ∀ id, id ∈ s ↔ (∃ d, (some d, true) ∈ (updateEach lib clock o mDiVec).2 ∧
          d.getId = id) ∧ o.observer.mClientToDataItems.Holds client id :=
        fun id => mem_dataItemIds_iff
      have hcached : ∀ id ∈ s, (updateEach lib clock o mDiVec).1.HasCached id := by
        intro id hid
        obtain ⟨⟨d, hd, rfl⟩, -⟩ := (hmem id).mp hid
        exact hasCached_of_mem_updates hd
      obtain ⟨notified, hsent, hvalues⟩ := sendCachedDataItems_of_cached client hcached
        (hconcerned.imp fun id hid => (hmem id).mpr hid)
      refine ⟨s.elems.reverse, List.nodup_reverse.mpr s.nodup, fun id => ?_, notified, ?_, hvalues⟩
      · exact List.mem_reverse.trans (hmem id)
      · rw [hsent]
        simp [notificationsOf]
    · exact fun hunconcerned =>
        if_neg fun hmem => hunconcerned ((mem_clientSet_iff hinverse).mp hmem)

end Exact

/-! ### A tracking area that changes -/

/-- A library whose items of every id are copied whole. -/
def tacLibrary : DataItemLibrary Unit where
  createNewDataItem _ := some (.tac "")
  copy _ src := (src, true)
  setPeerData := id

/-- Client 7 subscribes to the tracking area and to the codes of the country and the network, and
client 8 to the tracking area. -/
def subscribed : Notified ℕ ℤ Unit Unit where
  observer :=
    ((init.procSubscribe ((UnorderedSet.singleton SystemStatus.DataItemId.TAC).insert .MCCMNC) 7
      false).1.procSubscribe (.singleton .TAC) 8 false).1
  mSystemStatus := fun _ => []

/-- Both are told of the tracking area, each with what it has subscribed to, and no other client is
told anything. -/
theorem notify_exact_two_clients :
    let dlist : List (SystemStatus.DataItem Unit) := [.tac "1f", .mccmnc "310260"]
    let result := notifyAndProc tacLibrary (fun _ => 0) subscribed dlist
    (∀ client ∈ [7, 8], ∃ ids : List SystemStatus.DataItemId, ids.Nodup ∧
      (∀ id, id ∈ ids ↔ Changed tacLibrary (fun _ => 0) subscribed dlist id ∧
        subscribed.observer.mClientToDataItems.Holds client id) ∧
      ∃ notified, notificationsOf client result.2 = [notified] ∧
        notified.map some = ids.map result.1.observer.mDataItemCache.lookup) ∧
      notificationsOf 9 result.2 = [] := by
  intro dlist result
  have hinit : (init : SystemStatusOsObserver ℕ SystemStatus.DataItemId
      (SystemStatus.DataItem Unit)).Consistent := consistent_init
  have hfirst :=
    procSubscribe_consistent hinit ((UnorderedSet.singleton .TAC).insert .MCCMNC) 7 false
  have hinverse := (procSubscribe_consistent hfirst (.singleton .TAC) 8 false).inverse
  have hchanged : Changed tacLibrary (fun _ => 0) subscribed dlist .TAC :=
    ⟨_, rfl, .tac "1f",
      List.mem_cons_of_mem _ (List.mem_cons_of_mem _ (List.mem_cons_self ..)), rfl⟩
  have hnone : ¬ ∃ id, Changed tacLibrary (fun _ => 0) subscribed dlist id ∧
      subscribed.observer.mClientToDataItems.Holds 9 id := by
    rintro ⟨id, -, hid⟩
    revert hid
    cases id <;> decide
  refine ⟨fun client hclient => ?_, ?_⟩
  · refine (notify_exact tacLibrary (fun _ => 0) subscribed dlist hinverse client).1
      ⟨.TAC, hchanged, ?_⟩
    revert client
    decide
  · exact (notify_exact tacLibrary (fun _ => 0) subscribed dlist hinverse 9).2 hnone

end SystemStatusOsObserver
end LocHal
