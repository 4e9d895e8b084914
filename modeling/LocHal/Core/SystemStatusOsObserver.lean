import LocHal.Lib.Machine
import LocHal.Utils.LocUnorderedSetMap

/-!
# The data-item subscription registry (`gps/core/SystemStatusOsObserver.cpp`)

Clients subscribe to data items through `SystemStatusOsObserver`.  Each call checks its arguments
and queues a message on the observer's `MsgTask`; the messages are processed one at a time, in the
order of the calls, against two maps that record the same relation from both sides:
`mClientToDataItems` and `mDataItemToClients`.

The framework's subscription object is told which data items gain a first client and which lose
their last one, and a new subscriber is notified of the items already in `mDataItemCache`.
`turnOn`/`turnOff` and the logging are outside this module, and so is `notify`, which changes the
cache and reads the two maps.

## The registry is not kept by `updateSubscription`

`Consistent` says that the maps are inverse to each other and hold no empty set.  Every request
preserves it except `updateSubscription`, which asks `LocUnorderedSetMap::update` for the data items
the client no longer uses and is given the ones it keeps.  `always_consistent_iff` is the exact
extent of this: the registry stays consistent in exactly those runs in which a client updates its
subscription only while it has none.
-/

namespace LocHal

/-- `containerTransfer` from a list into an `unordered_set`. -/
def containerTransferToSet {α : Type*} [DecidableEq α] (inContainer : List α) : UnorderedSet α :=
  (∅ : UnorderedSet α).insertAll inContainer

/-- `containerTransfer` into a list: each item is inserted at its beginning. -/
def containerTransferToList {α : Type*} (inContainer : UnorderedSet α) : List α :=
  inContainer.elems.reverse

@[simp] lemma mem_containerTransferToSet {α : Type*} [DecidableEq α] {l : List α} {a : α} :
    a ∈ containerTransferToSet l ↔ a ∈ l := by
  simp [containerTransferToSet]

/-- The registry.  `mSubscriptionObj` says whether the framework's subscription object is known. -/
structure SystemStatusOsObserver (Client DataItemId DataItem : Type*) where
  mSubscriptionObj : Bool
  mClientToDataItems : LocUnorderedSetMap Client DataItemId
  mDataItemToClients : LocUnorderedSetMap DataItemId Client
  mDataItemCache : AList (fun _ : DataItemId => DataItem)

namespace SystemStatusOsObserver

variable {Client DataItemId DataItem : Type*}

/-! ## Requests, messages and what they send -/

/-- The calls of the interface.  A client is a pointer, `none` when it is null. -/
inductive Call (Client DataItemId : Type*) where
  | setSubscriptionObj (isNull : Bool)
  | subscribe (l : List DataItemId) (client : Option Client)
  | requestData (l : List DataItemId) (client : Option Client)
  | updateSubscription (l : List DataItemId) (client : Option Client)
  | unsubscribe (l : List DataItemId) (client : Option Client)
  | unsubscribeAll (client : Option Client)
deriving DecidableEq, Repr

/-- The messages the calls queue. -/
inductive Msg (Client DataItemId : Type*) where
  | setSubsObj
  | handleSubscribeReq (mDataItemSet : UnorderedSet DataItemId) (mClient : Client)
      (mToRequestData : Bool)
  | handleUpdateSubscriptionReq (mDataItemSet : UnorderedSet DataItemId) (mClient : Client)
  | handleUnsubscribeReq (mDataItemSet : UnorderedSet DataItemId) (mClient : Client)
  | handleUnsubscribeAllReq (mClient : Client)

/-- What the registry sends: the calls on the subscription object, and the notification of a client
with the cached data items. -/
inductive Output (Client DataItemId DataItem : Type*) where
  | subscribe (l : List DataItemId)
  | requestData (l : List DataItemId)
  | unsubscribe (l : List DataItemId)
  | notify (client : Client) (dlist : List DataItem)
deriving DecidableEq, Repr

/-- What is read through invalidated iterators of the two maps. -/
structure Freed (Client DataItemId : Type*) where
  clientToDataItems : FreedNode Client DataItemId
  dataItemToClients : FreedNode DataItemId Client

/-- The registry at start-up. -/
def init : SystemStatusOsObserver Client DataItemId DataItem :=
  ⟨false, .init, .init, ∅⟩

section Calls

variable [DecidableEq DataItemId]

/-- The check shared by the requests that carry a list: nothing is queued for an empty list or a
null client. -/
def request (l : List DataItemId) (client : Option Client)
    (msg : UnorderedSet DataItemId → Client → Msg Client DataItemId) :
    Option (Msg Client DataItemId) :=
  match client with
  | none => none
  | some client => if l.isEmpty then none else some (msg (containerTransferToSet l) client)

/-- The message a call queues, if any. -/
def Call.sendMsg : Call Client DataItemId → Option (Msg Client DataItemId)
  | .setSubscriptionObj isNull => if isNull then none else some .setSubsObj
  | .subscribe l client => request l client (fun s c => .handleSubscribeReq s c false)
  | .requestData l client => request l client (fun s c => .handleSubscribeReq s c true)
  | .updateSubscription l client => request l client .handleUpdateSubscriptionReq
  | .unsubscribe l client => request l client .handleUnsubscribeReq
  | .unsubscribeAll client => client.map .handleUnsubscribeAllReq

lemma request_eq_some {l : List DataItemId} {client : Option Client}
    {msg : UnorderedSet DataItemId → Client → Msg Client DataItemId} {m : Msg Client DataItemId}
    (h : request l client msg = some m) :
    ∃ c, client = some c ∧ l ≠ [] ∧ m = msg (containerTransferToSet l) c := by
  cases client with
  | none => cases h
  | some c =>
      cases l with
      | nil => cases h
      | cons a l => exact ⟨c, rfl, List.cons_ne_nil a l, (Option.some.inj h).symm⟩

end Calls

variable [DecidableEq Client] [DecidableEq DataItemId]

/-- `sendCachedDataItems`. -/
def sendCachedDataItems (o : SystemStatusOsObserver Client DataItemId DataItem)
    (s : UnorderedSet DataItemId) (toClient : Client) : List (Output Client DataItemId DataItem) :=
  let dataItems := (s.elems.filterMap fun each => o.mDataItemCache.lookup each).reverse
  if dataItems.isEmpty then [] else [.notify toClient dataItems]

/-- One list sent to the subscription object, when there is one and the list is not empty. -/
def sendToFramework (o : SystemStatusOsObserver Client DataItemId DataItem)
    (send : List DataItemId → Output Client DataItemId DataItem) (s : UnorderedSet DataItemId) :
    List (Output Client DataItemId DataItem) :=
  if o.mSubscriptionObj && !s.isEmpty then [send (containerTransferToList s)] else []

/-! ## `proc` of each message -/

/-- `SetSubsObj::proc`. -/
def procSetSubsObj (o : SystemStatusOsObserver Client DataItemId DataItem) :
    SystemStatusOsObserver Client DataItemId DataItem × List (Output Client DataItemId DataItem) :=
  let o' := { o with mSubscriptionObj := true }
  if o'.mDataItemToClients.empty then (o', [])
  else
    let dis := containerTransferToList o'.mDataItemToClients.getKeys
    (o', [.subscribe dis, .requestData dis])

/-- `HandleSubscribeReq::proc`. -/
def procSubscribe (o : SystemStatusOsObserver Client DataItemId DataItem)
    (mDataItemSet : UnorderedSet DataItemId) (mClient : Client) (mToRequestData : Bool) :
    SystemStatusOsObserver Client DataItemId DataItem × List (Output Client DataItemId DataItem) :=
  let added := o.mDataItemToClients.add mDataItemSet (.singleton mClient)
  let dataItemsToSubscribe := added.2
  let o' := { o with
    mDataItemToClients := added.1
    mClientToDataItems := (o.mClientToDataItems.addKey mClient mDataItemSet).1 }
  (o', o'.sendCachedDataItems mDataItemSet mClient ++
    o'.sendToFramework (if mToRequestData then .requestData else .subscribe) dataItemsToSubscribe)

/-- `HandleUpdateSubscriptionReq::proc`. -/
def procUpdateSubscription (freed : Freed Client DataItemId)
    (o : SystemStatusOsObserver Client DataItemId DataItem)
    (mDataItemSet : UnorderedSet DataItemId) (mClient : Client) :
    SystemStatusOsObserver Client DataItemId DataItem × List (Output Client DataItemId DataItem) :=
  let clients := UnorderedSet.singleton mClient
  let updated := o.mClientToDataItems.update freed.clientToDataItems mClient mDataItemSet
  -- `update` has also taken the returned items out of `mDataItemSet`
  let mDataItemSet := updated.2.2
  let trimmed := o.mDataItemToClients.trimOrRemove freed.dataItemToClients updated.2.1 clients
  let added := trimmed.map.add mDataItemSet clients
  let o' := { o with
    mClientToDataItems := updated.1
    mDataItemToClients := added.1 }
  (o', o'.sendCachedDataItems mDataItemSet mClient ++ o'.sendToFramework .subscribe added.2 ++
    o'.sendToFramework .unsubscribe trimmed.goneKeys)

/-- `HandleUnsubscribeReq::proc`. -/
def procUnsubscribe (freed : Freed Client DataItemId)
    (o : SystemStatusOsObserver Client DataItemId DataItem)
    (mDataItemSet : UnorderedSet DataItemId) (mClient : Client) :
    SystemStatusOsObserver Client DataItemId DataItem × List (Output Client DataItemId DataItem) :=
  let unused := o.mClientToDataItems.trimOrRemove freed.clientToDataItems (.singleton mClient)
    mDataItemSet
  let dataItemsUnusedByClient := unused.goneVals
  let trimmed := o.mDataItemToClients.trimOrRemove freed.dataItemToClients dataItemsUnusedByClient
    (.singleton mClient)
  let o' := { o with
    mClientToDataItems := unused.map
    mDataItemToClients := trimmed.map }
  (o', o'.sendToFramework .unsubscribe trimmed.goneKeys)

/-- `HandleUnsubscribeAllReq::proc`. -/
def procUnsubscribeAll (freed : Freed Client DataItemId)
    (o : SystemStatusOsObserver Client DataItemId DataItem) (mClient : Client) :
    SystemStatusOsObserver Client DataItemId DataItem × List (Output Client DataItemId DataItem) :=
  let diByClient := o.mClientToDataItems.getValSet mClient
  if diByClient.isEmpty then (o, [])
  else
    let trimmed := o.mDataItemToClients.trimOrRemove freed.dataItemToClients diByClient
      (.singleton mClient)
    let o' := { o with
      mClientToDataItems := o.mClientToDataItems.remove mClient
      mDataItemToClients := trimmed.map }
    (o', o'.sendToFramework .unsubscribe trimmed.goneKeys)

/-- `proc` of a queued message. -/
def proc (freed : Freed Client DataItemId) (o : SystemStatusOsObserver Client DataItemId DataItem) :
    Msg Client DataItemId →
      SystemStatusOsObserver Client DataItemId DataItem × List (Output Client DataItemId DataItem)
  | .setSubsObj => o.procSetSubsObj
  | .handleSubscribeReq s client toRequestData => o.procSubscribe s client toRequestData
  | .handleUpdateSubscriptionReq s client => procUpdateSubscription freed o s client
  | .handleUnsubscribeReq s client => procUnsubscribe freed o s client
  | .handleUnsubscribeAllReq client => procUnsubscribeAll freed o client

/-- The registry as a machine: each call is followed by the processing of the message it queues. -/
def machine (freed : Freed Client DataItemId) :
    Machine (SystemStatusOsObserver Client DataItemId DataItem) (Call Client DataItemId)
      (Output Client DataItemId DataItem) where
  step o call :=
    match call.sendMsg with
    | none => (o, [])
    | some msg => proc freed o msg

/-! ## Consistency of the two maps -/

/-- The two maps record the same relation, and neither holds an empty set. -/
structure Consistent (o : SystemStatusOsObserver Client DataItemId DataItem) : Prop where
  inverse : ∀ client id, o.mClientToDataItems.Holds client id ↔ o.mDataItemToClients.Holds id client
  clientEntries : o.mClientToDataItems.NoEmptyEntry
  dataItemEntries : o.mDataItemToClients.NoEmptyEntry

/-- A call that keeps the maps consistent: a subscription is updated only for a client that holds
no data item. -/
def Safe (o : SystemStatusOsObserver Client DataItemId DataItem) : Call Client DataItemId → Prop
  | .updateSubscription l (some client) =>
      l ≠ [] → ∀ id, ¬ o.mClientToDataItems.Holds client id
  | _ => True

lemma consistent_init : (init : SystemStatusOsObserver Client DataItemId DataItem).Consistent where
  inverse client id := iff_of_false (LocUnorderedSetMap.init_holds client id)
    (LocUnorderedSetMap.init_holds id client)
  clientEntries := LocUnorderedSetMap.noEmptyEntry_init
  dataItemEntries := LocUnorderedSetMap.noEmptyEntry_init

section Steps

variable {o : SystemStatusOsObserver Client DataItemId DataItem} (freed : Freed Client DataItemId)

lemma procSetSubsObj_consistent (h : o.Consistent) : o.procSetSubsObj.1.Consistent := by
  rw [procSetSubsObj]
  split_ifs
  · exact ⟨h.inverse, h.clientEntries, h.dataItemEntries⟩
  · exact ⟨h.inverse, h.clientEntries, h.dataItemEntries⟩

lemma procSubscribe_consistent (h : o.Consistent) (s : UnorderedSet DataItemId) (client : Client)
    (toRequestData : Bool) : (o.procSubscribe s client toRequestData).1.Consistent where
  inverse c id := by
    simp only [procSubscribe, LocUnorderedSetMap.addKey_holds, LocUnorderedSetMap.add_holds,
      UnorderedSet.mem_singleton, h.inverse c id, and_comm]
  clientEntries := h.clientEntries.addKey client s
  dataItemEntries := h.dataItemEntries.add s (.singleton client)

lemma procUnsubscribe_consistent (h : o.Consistent) (s : UnorderedSet DataItemId)
    (client : Client) : (procUnsubscribe freed o s client).1.Consistent where
  inverse c id := by
    simp only [procUnsubscribe, LocUnorderedSetMap.trimOrRemove_holds,
      LocUnorderedSetMap.mem_trimOrRemove_goneVals, UnorderedSet.mem_singleton, exists_eq_left]
    have := h.inverse c id
    -- the item is unused by the client exactly when the client held it and the list names it
    by_cases hc : c = client
    · subst hc
      grind
    · grind
  clientEntries := h.clientEntries.trimOrRemove freed.clientToDataItems (.singleton client) s
  dataItemEntries := h.dataItemEntries.trimOrRemove freed.dataItemToClients _ _

lemma procUnsubscribeAll_consistent (h : o.Consistent) (client : Client) :
    (procUnsubscribeAll freed o client).1.Consistent := by
  rw [procUnsubscribeAll]
  split_ifs
  · exact h
  · refine ⟨fun c id => ?_, h.clientEntries.remove client,
      h.dataItemEntries.trimOrRemove freed.dataItemToClients _ _⟩
    simp only [LocUnorderedSetMap.remove_holds, LocUnorderedSetMap.trimOrRemove_holds,
      UnorderedSet.mem_singleton]
    have hinv := h.inverse c id
    by_cases hc : c = client
    · subst hc
      rw [LocUnorderedSetMap.Holds] at hinv
      grind
    · grind

/-- **One update.** It leaves the maps consistent exactly when the client held nothing: the items
it keeps are the ones trimmed from `mDataItemToClients`, and the items it loses stay there. -/
lemma procUpdateSubscription_consistent_iff (h : o.Consistent) (s : UnorderedSet DataItemId)
    (client : Client) :
    (procUpdateSubscription freed o s client).1.Consistent ↔
      ∀ id, ¬ o.mClientToDataItems.Holds client id := by
  set gone := (o.mClientToDataItems.update freed.clientToDataItems client s).2.1 with hgone
  have hclient : ∀ c id, (procUpdateSubscription freed o s client).1.mClientToDataItems.Holds c id ↔
      if c = client then id ∈ s else o.mClientToDataItems.Holds c id := fun c id =>
    LocUnorderedSetMap.update_holds freed.clientToDataItems
  have hitem : ∀ c id, (procUpdateSubscription freed o s client).1.mDataItemToClients.Holds id c ↔
      (o.mClientToDataItems.Holds c id ∧ ¬(id ∈ gone ∧ c = client)) ∨
        ((id ∈ s ∧ id ∉ gone) ∧ c = client) := by
    intro c id
    simp only [procUpdateSubscription, LocUnorderedSetMap.add_holds,
      LocUnorderedSetMap.trimOrRemove_holds, LocUnorderedSetMap.mem_update_newVals,
      UnorderedSet.mem_singleton, ← hgone, h.inverse c id]
  have hmeet : (∃ id, id ∈ gone) ↔ ∃ id, o.mClientToDataItems.Holds client id ∧ id ∈ s :=
    LocUnorderedSetMap.exists_mem_update_goneVals freed.clientToDataItems
  constructor
  · intro hcons id hold
    have hinv := fun id => hcons.inverse client id
    simp only [hclient, hitem, if_true, and_true] at hinv
    by_cases hid : id ∈ s
    · obtain ⟨kept, hkept⟩ := hmeet.mpr ⟨id, hold, hid⟩
      have hkept' := LocUnorderedSetMap.mem_of_mem_update_goneVals freed.clientToDataItems hkept
      have := hinv kept
      grind
    · have hid' : id ∉ gone := fun hg =>
        hid (LocUnorderedSetMap.mem_of_mem_update_goneVals freed.clientToDataItems hg).2
      have := hinv id
      grind
  · intro hnone
    have hempty : ∀ id, id ∉ gone := by
      intro id hid
      obtain ⟨v, hv, -⟩ := hmeet.mp ⟨id, hid⟩
      exact hnone v hv
    refine ⟨fun c id => ?_, h.clientEntries.update freed.clientToDataItems client s,
      (h.dataItemEntries.trimOrRemove freed.dataItemToClients _ _).add _ _⟩
    rw [hclient, hitem]
    have hid := hempty id
    have hno := hnone id
    split_ifs with hc
    · subst hc
      grind
    · grind

/-- A call that queues nothing is safe. -/
lemma safe_of_sendMsg_none {call : Call Client DataItemId} (hm : call.sendMsg = none) :
    o.Safe call := by
  cases call with
  | updateSubscription l client =>
      cases client with
      | none => trivial
      | some client =>
          intro hl
          obtain ⟨id, l, rfl⟩ := List.exists_cons_of_ne_nil hl
          cases hm
  | _ => trivial

/-- **One call.** From consistent maps, the maps stay consistent exactly when the call is safe. -/
lemma next_consistent_iff (h : o.Consistent) (call : Call Client DataItemId) :
    ((machine freed).next o call).Consistent ↔ o.Safe call := by
  cases hm : call.sendMsg with
  | none =>
      have hnext : (machine freed).next o call = o := by
        simp only [Machine.next, machine, hm]
      rw [hnext]
      exact iff_of_true h (safe_of_sendMsg_none hm)
  | some msg =>
      have hnext : (machine freed).next o call = (proc freed o msg).1 := by
        simp only [Machine.next, machine, hm]
      rw [hnext]
      cases call with
      | setSubscriptionObj isNull =>
          cases isNull with
          | true => cases hm
          | false =>
              obtain rfl := Option.some.inj hm
              exact iff_of_true (procSetSubsObj_consistent h) trivial
      | subscribe l client =>
          rw [Call.sendMsg] at hm
          obtain ⟨c, -, -, rfl⟩ := request_eq_some hm
          exact iff_of_true (procSubscribe_consistent h _ c false) trivial
      | requestData l client =>
          rw [Call.sendMsg] at hm
          obtain ⟨c, -, -, rfl⟩ := request_eq_some hm
          exact iff_of_true (procSubscribe_consistent h _ c true) trivial
      | updateSubscription l client =>
          obtain ⟨c, rfl, hl, rfl⟩ := request_eq_some hm
          rw [proc, procUpdateSubscription_consistent_iff freed h _ c]
          exact ⟨fun hnone _ => hnone, fun hsafe => hsafe hl⟩
      | unsubscribe l client =>
          obtain ⟨c, -, -, rfl⟩ := request_eq_some hm
          exact iff_of_true (procUnsubscribe_consistent freed h _ c) trivial
      | unsubscribeAll client =>
          cases client with
          | none => cases hm
          | some c =>
              obtain rfl := Option.some.inj hm
              exact iff_of_true (procUnsubscribeAll_consistent freed h c) trivial

end Steps

/-- **Consistency of the registry.** Over every run of calls, the two maps are inverse to each other
and hold no empty set in every state exactly when no client updates a subscription it holds. -/
theorem always_consistent_iff (freed : Freed Client DataItemId)
    (calls : List (Call Client DataItemId)) :
    (machine freed).Always Consistent (init : SystemStatusOsObserver Client DataItemId DataItem)
        calls ↔
      (machine freed).Steps Safe (init : SystemStatusOsObserver Client DataItemId DataItem) calls :=
  Machine.always_iff_steps (fun _ call h => next_consistent_iff freed h call) consistent_init

/-- A client that moves from item 0 to item 1 is still listed under item 0. -/
theorem not_always_consistent :
    ¬ (machine ⟨⟨id, fun _ => true⟩, ⟨id, fun _ => true⟩⟩).Always Consistent
      (init : SystemStatusOsObserver ℕ ℕ ℕ)
      [.subscribe [0] (some 7), .updateSubscription [1] (some 7)] := by
  rintro ⟨-, -, h⟩
  have hinv := h.inverse 7 0
  revert hinv
  decide

end SystemStatusOsObserver

end LocHal
