import LocHal.Core.DataItemNotify
import LocHal.Lib.Machine
import LocHal.Lib.Registers

/-!
# What the subscribers have been told (`gps/core/SystemStatusOsObserver.cpp`)

The registry of `SystemStatusOsObserver.lean` and the notifications of `DataItemNotify.lean` as one
machine: its events are the calls of `IDataItemSubscription` and the lists that are handed to
`notify`, in the order in which `MsgTask` processes them.

A client that subscribes is sent what the cache holds of its items, and from then on it is sent what
changes.  `told_cached_value` says that this is enough, after every run, for every client that both
maps record, whatever the maps do to the others.  Of the library with the data items it is assumed
that `copy` keeps the kind of an item, and leaves the item alone when it says that nothing has been
copied.
-/

namespace LocHal
namespace SystemStatusOsObserver

open SystemStatus (DataItemId DataItem)

/-- A call of the interface, or a list for `notify` with the clock that is read meanwhile. -/
inductive Event (Client RilData : Type) where
  | call (call : Call Client DataItemId)
  | notify (clock : ℕ → ℕ) (dlist : List (DataItem RilData))

/-- What the functions of the library do, after their documentation. -/
structure DataItemLibrary.Lawful {RilData : Type} (lib : DataItemLibrary RilData) : Prop where
  created : ∀ id d, lib.createNewDataItem id = some d → d.getId = id
  copied : ∀ d src, (lib.copy d src).1.getId = d.getId
  notCopied : ∀ d src, (lib.copy d src).2 = false → (lib.copy d src).1 = d

variable {Client Double Rest RilData : Type}

/-- At start-up. -/
def Notified.init : Notified Client Double Rest RilData :=
  ⟨SystemStatusOsObserver.init, fun _ => []⟩

/-- What a client is told by one notification, item by item. -/
def tells :
    Output Client DataItemId (DataItem RilData) → List ((Client × DataItemId) × DataItem RilData)
  | .notify client dlist => dlist.map fun d => ((client, d.getId), d)
  | _ => []

section Machine

variable [BEq Double] [DecidableEq Client]

/-- The registry with its cache. -/
def notified (freed : Freed Client DataItemId) (lib : DataItemLibrary RilData) :
    Machine (Notified Client Double Rest RilData) (Event Client RilData)
      (Output Client DataItemId (DataItem RilData)) where
  step o
    | .call call =>
        let result := (machine freed).step o.observer call
        ({ o with observer := result.1 }, result.2)
    | .notify clock dlist => notifyAndProc lib clock o dlist

end Machine

/-! ## The cache -/

/-- Every item is cached under its own id. -/
def Keyed (o : SystemStatusOsObserver Client DataItemId (DataItem RilData)) : Prop :=
  ∀ id d, o.mDataItemCache.lookup id = some d → d.getId = id

section Cache

variable {lib : DataItemLibrary RilData} {o : Notified Client Double Rest RilData}
  {id : DataItemId}

lemma Keyed.cached (h : o.observer.Keyed) {d : DataItem RilData} (hd : d.getId = id) :
    (o.cached id d).observer.Keyed := by
  intro id' d' hlookup
  rw [Notified.cached] at hlookup
  by_cases hid : id' = id
  · subst hid
    rw [AList.lookup_insert] at hlookup
    exact Option.some.inj hlookup ▸ hd
  · rw [AList.lookup_insert_ne hid] at hlookup
    exact h id' d' hlookup

variable [BEq Double]

/-- What `updateCache` does to the cache: nothing, or it puts an item there under its id and returns
true of it. -/
lemma updateCache_spec (hlib : lib.Lawful) (h : o.observer.Keyed) (now : ℕ)
    (item : Option (DataItem RilData)) (id : DataItemId) :
    (updateCache lib now o item).1.observer.Keyed ∧
      ((updateCache lib now o item).1.observer.mDataItemCache.lookup id =
          o.observer.mDataItemCache.lookup id ∨
        ∃ d, (updateCache lib now o item).2 = (some d, true) ∧ d.getId = id) := by
  cases item with
  | none => exact ⟨h, .inl rfl⟩
  | some item =>
      simp only [updateCache]
      set event := SystemStatus.eventDataItemNotify lib.setPeerData now item o.mSystemStatus
      have hkept :
          (⟨o.observer, event.1⟩ : Notified Client Double Rest RilData).observer.Keyed := h
      split_ifs with hrecorded
      · cases hcached : o.observer.mDataItemCache.lookup event.2.2.getId with
        | none =>
            cases hcreated : lib.createNewDataItem event.2.2.getId with
            | none => exact ⟨h, .inl rfl⟩
            | some d =>
                have hid : (lib.copy d event.2.2).1.getId = event.2.2.getId :=
                  (hlib.copied d _).trans (hlib.created _ d hcreated)
                refine ⟨Keyed.cached hkept hid, ?_⟩
                by_cases heq : event.2.2.getId = id
                · exact .inr ⟨event.2.2, rfl, heq⟩
                · exact .inl (AList.lookup_insert_ne (Ne.symm heq))
        | some d =>
            have hid : (lib.copy d event.2.2).1.getId = event.2.2.getId :=
              (hlib.copied d _).trans (h _ d hcached)
            refine ⟨Keyed.cached hkept hid, ?_⟩
            by_cases heq : event.2.2.getId = id
            · cases hcopied : (lib.copy d event.2.2).2 with
              | true => exact .inr ⟨event.2.2, by simp only [hcopied], heq⟩
              | false =>
                  left
                  rw [← heq, hcached]
                  exact (AList.lookup_insert _).trans (congrArg some (hlib.notCopied d _ hcopied))
            · exact .inl (AList.lookup_insert_ne (Ne.symm heq))
      · exact ⟨h, .inl rfl⟩

/-- The first loop of `HandleNotify::proc` changes what is cached under the ids that are to be sent
only. -/
lemma updateEach_spec (hlib : lib.Lawful) (h : o.observer.Keyed) (clock : ℕ → ℕ)
    (mDiVec : List (Option (DataItem RilData))) (id : DataItemId) :
    (updateEach lib clock o mDiVec).1.observer.Keyed ∧
      (id ∉ dataItemIdsToBeSent (updateEach lib clock o mDiVec).2 →
        (updateEach lib clock o mDiVec).1.observer.mDataItemCache.lookup id =
          o.observer.mDataItemCache.lookup id) := by
  induction mDiVec generalizing o with
  | nil => exact ⟨h, fun _ => rfl⟩
  | cons item rest ih =>
      obtain ⟨hkeyed, hlookup⟩ :=
        updateCache_spec hlib h (clock rest.length) item id
      obtain ⟨hkeyed', hlater⟩ := ih hkeyed
      refine ⟨hkeyed', fun hnot => ?_⟩
      rw [mem_dataItemIdsToBeSent] at hnot hlater
      have hrest := hlater fun ⟨d, hd, hid⟩ => hnot ⟨d, List.mem_cons_of_mem _ hd, hid⟩
      refine hrest.trans (hlookup.resolve_right ?_)
      rintro ⟨d, hd, hid⟩
      exact hnot ⟨d, hd ▸ List.mem_cons_self, hid⟩

end Cache

/-! ## What is sent -/

section Tells

variable [DecidableEq Client] {o : SystemStatusOsObserver Client DataItemId (DataItem RilData)}
  {s : UnorderedSet DataItemId} {client : Client} {p : Client × DataItemId} {d : DataItem RilData}

omit [DecidableEq Client] in
lemma tells_sendCachedDataItems :
    (o.sendCachedDataItems s client).flatMap tells =
      (s.elems.filterMap fun each => o.mDataItemCache.lookup each).reverse.map
        fun d => ((client, d.getId), d) := by
  simp only [sendCachedDataItems]
  split_ifs with hempty
  · rw [List.isEmpty_iff.mp hempty]
    rfl
  · exact List.append_nil _

omit [DecidableEq Client] in
/-- `sendCachedDataItems` tells the client the items of the set that are cached. -/
lemma mem_tells_sendCachedDataItems (h : o.Keyed) :
    (p, d) ∈ (o.sendCachedDataItems s client).flatMap tells ↔
      p.1 = client ∧ p.2 ∈ s ∧ o.mDataItemCache.lookup p.2 = some d := by
  rw [tells_sendCachedDataItems, List.map_reverse, List.mem_reverse, List.mem_map]
  constructor
  · rintro ⟨d', hd', heq⟩
    obtain ⟨id, hid, hlookup⟩ := List.mem_filterMap.mp hd'
    obtain ⟨rfl, rfl⟩ := Prod.mk.inj heq
    obtain rfl := h id d' hlookup
    exact ⟨rfl, hid, hlookup⟩
  · rintro ⟨rfl, hid, hlookup⟩
    exact ⟨d, List.mem_filterMap.mpr ⟨p.2, hid, hlookup⟩, by rw [h p.2 d hlookup]⟩

omit [DecidableEq Client] in
/-- What goes to the framework tells no client anything. -/
lemma tells_sendToFramework {send : List DataItemId → Output Client DataItemId (DataItem RilData)}
    (hsend : ∀ l, tells (send l) = []) : (o.sendToFramework send s).flatMap tells = [] := by
  rw [sendToFramework]
  split_ifs
  · rw [List.flatMap_cons, hsend]
    rfl
  · rfl

end Tells

/-! ## What the clients know -/

section Views

variable [DecidableEq Client]

/-- The client is recorded under the item in both maps. -/
def Recorded (o : SystemStatusOsObserver Client DataItemId (DataItem RilData))
    (p : Client × DataItemId) : Prop :=
  o.mClientToDataItems.Holds p.1 p.2 ∧ o.mDataItemToClients.Holds p.2 p.1

/-- The clients that are recorded know what is cached. -/
structure Current (o : Notified Client Double Rest RilData)
    (view : Client × DataItemId → Option (DataItem RilData)) : Prop where
  keyed : o.observer.Keyed
  cached : ∀ p d, Recorded o.observer p → o.observer.mDataItemCache.lookup p.2 = some d →
    view p = some d

variable {o : Notified Client Double Rest RilData}
  {view : Client × DataItemId → Option (DataItem RilData)}

/-- A step tells the truth, and it tells those who do not know it yet. -/
lemma Current.after (h : Current o view) {o' : Notified Client Double Rest RilData}
    {out : List (Output Client DataItemId (DataItem RilData))} (hkeyed : o'.observer.Keyed)
    (htruth : ∀ p d, (p, d) ∈ out.flatMap tells → o'.observer.mDataItemCache.lookup p.2 = some d)
    (hnew : ∀ p d, Recorded o'.observer p → o'.observer.mDataItemCache.lookup p.2 = some d →
      (p, d) ∈ out.flatMap tells ∨
        (Recorded o.observer p ∧ o.observer.mDataItemCache.lookup p.2 = some d)) :
    Current o' fun p => (lastWrite (out.flatMap tells) p).or (view p) where
  keyed := hkeyed
  cached p d hrecorded hlookup := by
    have honly : ∀ w ∈ out.flatMap tells, w.1 = p → w.2 = d := by
      rintro ⟨p', d'⟩ hw rfl
      exact Option.some.inj ((htruth p' d' hw).symm.trans hlookup)
    by_cases htold : (p, d) ∈ out.flatMap tells
    · rw [lastWrite_eq_some htold honly]
      rfl
    · obtain ⟨hbefore, hsame⟩ := (hnew p d hrecorded hlookup).resolve_left htold
      have hnone : lastWrite (out.flatMap tells) p = none :=
        lastWrite_eq_none fun w hw hp => htold (hp ▸ honly w hw hp ▸ hw)
      rw [hnone]
      exact h.cached p d hbefore hsame

/-- What a message does that leaves the cache alone: it sends what is cached of the pairs in `sent`,
and records no other pair that has not been recorded before. -/
structure Sends (o : SystemStatusOsObserver Client DataItemId (DataItem RilData))
    (r : SystemStatusOsObserver Client DataItemId (DataItem RilData) ×
      List (Output Client DataItemId (DataItem RilData)))
    (sent : Client × DataItemId → Prop) : Prop where
  cache : r.1.mDataItemCache = o.mDataItemCache
  told : o.Keyed → ∀ p d,
    (p, d) ∈ r.2.flatMap tells ↔ sent p ∧ o.mDataItemCache.lookup p.2 = some d
  recorded : ∀ p, Recorded r.1 p → sent p ∨ Recorded o p

lemma Current.sends (h : Current o view)
    {r : SystemStatusOsObserver Client DataItemId (DataItem RilData) ×
      List (Output Client DataItemId (DataItem RilData))}
    {sent : Client × DataItemId → Prop} (hsends : Sends o.observer r sent) :
    Current (⟨r.1, o.mSystemStatus⟩ : Notified Client Double Rest RilData)
      fun p => (lastWrite (r.2.flatMap tells) p).or (view p) := by
  have htold := hsends.told h.keyed
  have hkeyed : r.1.Keyed := by
    rw [Keyed, hsends.cache]
    exact h.keyed
  refine h.after hkeyed (fun p d hw => ?_) fun p d hrecorded hlookup => ?_
  · rw [hsends.cache]
    exact ((htold p d).mp hw).2
  · rw [hsends.cache] at hlookup
    obtain hsent | hbefore := hsends.recorded p hrecorded
    · exact .inl ((htold p d).mpr ⟨hsent, hlookup⟩)
    · exact .inr ⟨hbefore, hlookup⟩

variable {obs : SystemStatusOsObserver Client DataItemId (DataItem RilData)}

lemma sends_procSetSubsObj : Sends obs obs.procSetSubsObj fun _ => False := by
  rw [procSetSubsObj]
  split_ifs
  · exact ⟨rfl, fun _ p d => iff_of_false List.not_mem_nil fun h => h.1, fun p hp => .inr hp⟩
  · exact ⟨rfl, fun _ p d => iff_of_false List.not_mem_nil fun h => h.1, fun p hp => .inr hp⟩

lemma sends_procSubscribe (s : UnorderedSet DataItemId) (client : Client) (toRequestData : Bool) :
    Sends obs (obs.procSubscribe s client toRequestData) fun p => p.1 = client ∧ p.2 ∈ s where
  cache := rfl
  told hkeyed p d := by
    simp only [procSubscribe, List.flatMap_append]
    rw [tells_sendToFramework (by cases toRequestData <;> exact fun _ => rfl), List.append_nil,
      mem_tells_sendCachedDataItems (by exact hkeyed), and_assoc]
  recorded p hp := by
    obtain ⟨hclient, hitem⟩ := hp
    simp only [procSubscribe, LocUnorderedSetMap.addKey_holds, LocUnorderedSetMap.add_holds,
      UnorderedSet.mem_singleton] at hclient hitem
    by_cases hnew : p.1 = client ∧ p.2 ∈ s
    · exact .inl hnew
    · refine .inr ⟨hclient.resolve_right hnew, hitem.resolve_right ?_⟩
      exact fun h => hnew ⟨h.2, h.1⟩

/-- An update sends to the client what it takes up, and what it keeps but is trimmed from
`mDataItemToClients` is no longer recorded. -/
lemma sends_procUpdateSubscription (freed : Freed Client DataItemId) (s : UnorderedSet DataItemId)
    (client : Client) :
    Sends obs (procUpdateSubscription freed obs s client) fun p => p.1 = client ∧
      p.2 ∈ (obs.mClientToDataItems.update freed.clientToDataItems client s).2.2 where
  cache := rfl
  told hkeyed p d := by
    simp only [procUpdateSubscription, List.flatMap_append]
    rw [tells_sendToFramework fun _ => rfl, tells_sendToFramework fun _ => rfl, List.append_nil,
      List.append_nil, mem_tells_sendCachedDataItems (by exact hkeyed), and_assoc]
  recorded p hp := by
    obtain ⟨hclient, hitem⟩ := hp
    simp only [procUpdateSubscription, LocUnorderedSetMap.update_holds,
      LocUnorderedSetMap.add_holds, LocUnorderedSetMap.trimOrRemove_holds,
      UnorderedSet.mem_singleton] at hclient hitem
    by_cases hp : p.1 = client
    · rw [if_pos hp] at hclient
      left
      refine ⟨hp, (LocUnorderedSetMap.mem_update_newVals freed.clientToDataItems).mpr
        ⟨hclient, ?_⟩⟩
      obtain ⟨-, hkept⟩ | ⟨htaken, -⟩ := hitem
      · exact fun hgone => hkept ⟨hgone, hp⟩
      · exact ((LocUnorderedSetMap.mem_update_newVals freed.clientToDataItems).mp htaken).2
    · rw [if_neg hp] at hclient
      obtain ⟨hbefore, -⟩ | ⟨-, hsame⟩ := hitem
      · exact .inr ⟨hclient, hbefore⟩
      · exact absurd hsame hp

lemma sends_procUnsubscribe (freed : Freed Client DataItemId) (s : UnorderedSet DataItemId)
    (client : Client) : Sends obs (procUnsubscribe freed obs s client) fun _ => False where
  cache := rfl
  told _ p d := by
    simp only [procUnsubscribe]
    rw [tells_sendToFramework fun _ => rfl]
    exact iff_of_false List.not_mem_nil fun h => h.1
  recorded p hp := by
    obtain ⟨hclient, hitem⟩ := hp
    simp only [procUnsubscribe, LocUnorderedSetMap.trimOrRemove_holds] at hclient hitem
    exact .inr ⟨hclient.1, hitem.1⟩

lemma sends_procUnsubscribeAll (freed : Freed Client DataItemId) (client : Client) :
    Sends obs (procUnsubscribeAll freed obs client) fun _ => False := by
  rw [procUnsubscribeAll]
  split_ifs
  · exact ⟨rfl, fun _ p d => iff_of_false List.not_mem_nil fun h => h.1, fun p hp => .inr hp⟩
  · refine ⟨rfl, fun _ p d => ?_, fun p hp => ?_⟩
    · rw [tells_sendToFramework fun _ => rfl]
      exact iff_of_false List.not_mem_nil fun h => h.1
    · obtain ⟨hclient, hitem⟩ := hp
      simp only [LocUnorderedSetMap.remove_holds, LocUnorderedSetMap.trimOrRemove_holds]
        at hclient hitem
      exact .inr ⟨hclient.2, hitem.1⟩

/-- **One message.** -/
lemma exists_sends (obs : SystemStatusOsObserver Client DataItemId (DataItem RilData))
    (freed : Freed Client DataItemId) (msg : Msg Client DataItemId) :
    ∃ sent, Sends obs (proc freed obs msg) sent := by
  cases msg with
  | setSubsObj => exact ⟨_, sends_procSetSubsObj⟩
  | handleSubscribeReq s client toRequestData =>
      exact ⟨_, sends_procSubscribe s client toRequestData⟩
  | handleUpdateSubscriptionReq s client => exact ⟨_, sends_procUpdateSubscription freed s client⟩
  | handleUnsubscribeReq s client => exact ⟨_, sends_procUnsubscribe freed s client⟩
  | handleUnsubscribeAllReq client => exact ⟨_, sends_procUnsubscribeAll freed client⟩

/-! ## Every run -/

variable [BEq Double] {lib : DataItemLibrary RilData} {freed : Freed Client DataItemId}

/-- **One notification.** It tells the recorded clients what has changed. -/
lemma Current.notify (hlib : lib.Lawful) (h : Current o view) (clock : ℕ → ℕ)
    (dlist : List (DataItem RilData)) :
    Current (notifyAndProc lib clock o dlist).1
      fun p => (lastWrite ((notifyAndProc lib clock o dlist).2.flatMap tells) p).or (view p) := by
  rw [notifyAndProc]
  cases SystemStatusOsObserver.notify lib dlist with
  | none => exact h
  | some mDiVec =>
      have hspec := updateEach_spec hlib h.keyed clock mDiVec
      have hclients : (updateEach lib clock o mDiVec).1.observer.mClientToDataItems =
          o.observer.mClientToDataItems := (updateEach_maps mDiVec).1
      have hitems : (updateEach lib clock o mDiVec).1.observer.mDataItemToClients =
          o.observer.mDataItemToClients := (updateEach_maps mDiVec).2
      simp only [procNotify]
      have hkeyed := (hspec DataItemId.AIRPLANEMODE).1
      have hlookup := fun id => (hspec id).2
      set updated := updateEach lib clock o mDiVec
      set toBeSent := dataItemIdsToBeSent updated.2
      have htold : ∀ p d, (p, d) ∈ ((clientSet updated.1.observer.mDataItemToClients
          toBeSent).elems.flatMap fun client => updated.1.observer.sendCachedDataItems
            (dataItemIdsForThisClient (updated.1.observer.mClientToDataItems.getValSet client)
              toBeSent) client).flatMap tells ↔
          (p.1 ∈ clientSet updated.1.observer.mDataItemToClients toBeSent ∧
            updated.1.observer.mClientToDataItems.Holds p.1 p.2 ∧ p.2 ∈ toBeSent) ∧
            updated.1.observer.mDataItemCache.lookup p.2 = some d := by
        intro p d
        rw [List.flatMap_assoc, List.mem_flatMap]
        simp only [mem_tells_sendCachedDataItems hkeyed, mem_dataItemIdsForThisClient]
        constructor
        · rintro ⟨client, hclient, rfl, hid, hcached⟩
          exact ⟨⟨hclient, hid⟩, hcached⟩
        · rintro ⟨⟨hclient, hid⟩, hcached⟩
          exact ⟨p.1, hclient, rfl, hid, hcached⟩
      refine h.after hkeyed (fun p d hw => ((htold p d).mp hw).2) fun p d hrecorded hcached => ?_
      by_cases hsent : p.2 ∈ toBeSent
      · exact .inl ((htold p d).mpr
          ⟨⟨mem_clientSet.mpr ⟨p.2, hsent, hrecorded.2⟩, hrecorded.1, hsent⟩, hcached⟩)
      · rw [hlookup p.2 hsent] at hcached
        rw [Recorded, hclients, hitems] at hrecorded
        exact .inr ⟨hrecorded, hcached⟩

/-- **One event.** -/
lemma Current.next (hlib : lib.Lawful) (h : Current o view) (e : Event Client RilData) :
    Current ((notified freed lib).next o e)
      fun p => (lastWrite (((notified freed lib).emit o e).flatMap tells) p).or (view p) := by
  cases e with
  | notify clock dlist => exact h.notify hlib clock dlist
  | call call =>
      cases hmsg : call.sendMsg with
      | none =>
          simp only [Machine.next, Machine.emit, notified, machine, hmsg]
          exact h
      | some msg =>
          obtain ⟨sent, hsends⟩ := exists_sends o.observer freed msg
          simpa only [Machine.next, Machine.emit, notified, machine, hmsg] using h.sends hsends

omit [BEq Double] in
lemma current_init :
    Current (Notified.init : Notified Client Double Rest RilData) (lastWrite []) where
  keyed id d hlookup := by
    cases hlookup
  cached p d _ hlookup := by
    cases hlookup

lemma Current.run (hlib : lib.Lawful) (es : List (Event Client RilData)) :
    Current ((notified freed lib).run (Notified.init : Notified Client Double Rest RilData) es)
      (lastWrite (((notified freed lib).outs (Notified.init : Notified Client Double Rest RilData)
        es).flatMap tells)) := by
  induction es using List.reverseRecOn with
  | nil => exact current_init
  | append_singleton es e ih =>
      have hview : ∀ out out' : List (Output Client DataItemId (DataItem RilData)),
          (fun p => (lastWrite (out'.flatMap tells) p).or (lastWrite (out.flatMap tells) p)) =
            lastWrite ((out ++ (out' ++ [])).flatMap tells) := by
        intro out out'
        funext p
        rw [List.append_nil, List.flatMap_append, lastWrite_append]
      rw [Machine.run_append, Machine.outs_append, Machine.outs, Machine.outs, ← hview]
      exact ih.next hlib e

/-- **The subscribers.** After every run, what a client that both maps record under a cached item
was told last of the item is what is cached. -/
theorem told_cached_value (freed : Freed Client DataItemId) (lib : DataItemLibrary RilData)
    (hlib : lib.Lawful) (es : List (Event Client RilData)) {client : Client} {id : DataItemId}
    {d : DataItem RilData} :
    let o := (notified freed lib).run (Notified.init : Notified Client Double Rest RilData) es
    let out := (notified freed lib).outs (Notified.init : Notified Client Double Rest RilData) es
    o.observer.mClientToDataItems.Holds client id →
      o.observer.mDataItemToClients.Holds id client →
        o.observer.mDataItemCache.lookup id = some d →
          lastWrite (out.flatMap tells) (client, id) = some d := by
  intro o out hclient hitem hcached
  exact (Current.run hlib es).cached (client, id) d ⟨hclient, hitem⟩ hcached

end Views

/-- A library that knows the tracking area only. -/
def tacOnly : DataItemLibrary Unit where
  createNewDataItem id := if id = .TAC then some (.tac "") else none
  copy d src := if d.getId = src.getId then (src, true) else (d, false)
  setPeerData := id

lemma tacOnly_lawful : tacOnly.Lawful where
  created id d h := by
    simp only [tacOnly] at h
    split_ifs at h with hid
    exact hid ▸ Option.some.inj h ▸ rfl
  copied d src := by
    simp only [tacOnly]
    split_ifs with hid
    · exact hid.symm
    · rfl
  notCopied d src h := by
    simp only [tacOnly] at h ⊢
    split_ifs at h ⊢
    rfl

/-- Client 7 is told of the tracking area when it changes, and client 8 when it subscribes. -/
theorem told_cached_value_tac :
    let freed : Freed ℕ DataItemId := ⟨⟨id, fun _ => true⟩, ⟨id, fun _ => true⟩⟩
    let es : List (Event ℕ Unit) := [.call (.subscribe [.TAC] (some 7)),
      .notify (fun _ => 0) [.tac "1f"], .call (.subscribe [.TAC] (some 8))]
    let out := (notified freed tacOnly).outs (Notified.init : Notified ℕ ℤ Unit Unit) es
    lastWrite (out.flatMap tells) (8, .TAC) = some (.tac "1f") :=
  told_cached_value _ tacOnly tacOnly_lawful _ (by decide) (by decide) rfl

end SystemStatusOsObserver
end LocHal
