import LocHal.Core.SystemStatusOsObserver

/-!
# What the framework is subscribed to (`gps/core/SystemStatusOsObserver.cpp`)

The registry tells the framework's subscription object which data items to subscribe to and which
to unsubscribe from.  It works these out from the keys that `mDataItemToClients` gains and loses, in
which items that clients have merely requested once are keys like any others.  So an item that is
held by request is no new key when a client subscribes to it, and the framework never hears of it.
A key that is lost is read from its entry when that has been erased, and `updateSubscription` trims
the entries of items that its client keeps.

`always_follows_iff` says in exactly which runs the framework follows the clients: those in which
each call keeps up with what it has done to the two maps (`KeepsUp`).
-/

namespace LocHal
namespace SystemStatusOsObserver

variable {Client DataItemId DataItem : Type*} [DecidableEq Client] [DecidableEq DataItemId]

/-! ## The framework's side -/

/-- The registry, the items that the framework is subscribed to, and who has obtained which item
through `subscribe` or `updateSubscription` and holds it still. -/
structure Followed (Client DataItemId DataItem : Type*) where
  observer : SystemStatusOsObserver Client DataItemId DataItem
  subscribed : UnorderedSet DataItemId
  standing : List (Client × DataItemId)

/-- At start-up. -/
def Followed.init : Followed Client DataItemId DataItem := ⟨SystemStatusOsObserver.init, ∅, []⟩

/-- What the framework is subscribed to after one call on its object. -/
def told (subscribed : UnorderedSet DataItemId) :
    Output Client DataItemId DataItem → UnorderedSet DataItemId
  | .subscribe l => subscribed.insertAll l
  | .unsubscribe l => l.foldl UnorderedSet.erase subscribed
  | .requestData _ => subscribed
  | .notify _ _ => subscribed

/-- Who has obtained which item, after a message. -/
def standingAfter (standing : List (Client × DataItemId)) :
    Msg Client DataItemId → List (Client × DataItemId)
  | .setSubsObj => standing
  | .handleSubscribeReq s client toRequestData =>
      if toRequestData then standing else standing ++ s.elems.map fun id => (client, id)
  | .handleUpdateSubscriptionReq s client =>
      (standing.filter fun p => p.1 ≠ client) ++ s.elems.map fun id => (client, id)
  | .handleUnsubscribeReq s client =>
      standing.filter fun p => ¬(p.1 = client ∧ p.2 ∈ s)
  | .handleUnsubscribeAllReq client => standing.filter fun p => p.1 ≠ client

/-- One call and the message it queues. -/
def followStep (freed : Freed Client DataItemId) (f : Followed Client DataItemId DataItem)
    (call : Call Client DataItemId) :
    Followed Client DataItemId DataItem × List (Output Client DataItemId DataItem) :=
  match call.sendMsg with
  | none => (f, [])
  | some msg =>
      let result := proc freed f.observer msg
      (⟨result.1, result.2.foldl told f.subscribed, standingAfter f.standing msg⟩, result.2)

/-- The registry with the framework's side. -/
def followed (freed : Freed Client DataItemId) :
    Machine (Followed Client DataItemId DataItem) (Call Client DataItemId)
      (Output Client DataItemId DataItem) :=
  ⟨followStep freed⟩

/-- Once there is a subscription object, the framework is subscribed to every item that a client has
obtained, and to no item that nobody holds. -/
def Follows (f : Followed Client DataItemId DataItem) : Prop :=
  f.observer.mSubscriptionObj = true →
    (∀ p ∈ f.standing, p.2 ∈ f.subscribed) ∧
      ∀ id ∈ f.subscribed, ∃ client, f.observer.mClientToDataItems.Holds client id

/-! ## When it follows -/

/-- The client that a call is for. -/
def Call.client : Call Client DataItemId → Option Client
  | .setSubscriptionObj _ => none
  | .subscribe _ client | .requestData _ client | .updateSubscription _ client
  | .unsubscribe _ client | .unsubscribeAll client => client

/-- The items that a call subscribes its client to. -/
def Call.items : Call Client DataItemId → List DataItemId
  | .subscribe l (some _) => l
  | .updateSubscription l (some _) => l
  | _ => []

/-- The items from whose entries in `mDataItemToClients` a call takes its client: those that it
takes from the client, and of an updated subscription those that `update` returns. -/
def Trims (freed : Freed Client DataItemId)
    (o : SystemStatusOsObserver Client DataItemId DataItem) :
    Call Client DataItemId → DataItemId → Prop
  | .updateSubscription l (some client), id =>
      id ∈ (o.mClientToDataItems.update freed.clientToDataItems client
        (containerTransferToSet l)).2.1
  | .unsubscribe l (some client), id => id ∈ l ∧ o.mClientToDataItems.Holds client id
  | .unsubscribeAll (some client), id => o.mClientToDataItems.Holds client id
  | _, _ => False

/-- The entry of the item is erased by a call, as no other client is in it. -/
def Erases (freed : Freed Client DataItemId) (o : SystemStatusOsObserver Client DataItemId DataItem)
    (call : Call Client DataItemId) (id : DataItemId) : Prop :=
  Trims freed o call id ∧ o.mDataItemToClients.getValSetPtr id ≠ none ∧
    ∀ c, o.mDataItemToClients.Holds id c → call.client = some c

/-- A call takes the item from its client, and no other client holds it. -/
def Orphans (o : SystemStatusOsObserver Client DataItemId DataItem) :
    Call Client DataItemId → DataItemId → Prop
  | .updateSubscription l (some client), id =>
      l ≠ [] ∧ id ∉ l ∧ ∀ c, o.mClientToDataItems.Holds c id → c = client
  | .unsubscribe l (some client), id =>
      id ∈ l ∧ ∀ c, o.mClientToDataItems.Holds c id → c = client
  | .unsubscribeAll (some client), id => ∀ c, o.mClientToDataItems.Holds c id → c = client
  | _, _ => False

/-- Who has obtained which item, after a call. -/
def Followed.standingAt (f : Followed Client DataItemId DataItem) (call : Call Client DataItemId) :
    List (Client × DataItemId) :=
  call.sendMsg.elim f.standing (standingAfter f.standing)

/-- A call keeps up with what it does to the maps: of the items that it names the framework is
subscribed to those that are no new keys; the keys that are read from the entries that it erases are
of no item that a client has obtained, and of every one that the framework is subscribed to and
nobody is left with; and where it brings the subscription object, the keys are of held items, and of
all that have been obtained. -/
structure KeepsUp (freed : Freed Client DataItemId) (f : Followed Client DataItemId DataItem)
    (call : Call Client DataItemId) : Prop where
  named : f.observer.mSubscriptionObj = true → ∀ id ∈ call.items,
    f.observer.mDataItemToClients.getValSetPtr id ≠ none ∨ Trims freed f.observer call id →
      id ∈ f.subscribed
  erased : f.observer.mSubscriptionObj = true → ∀ id, Erases freed f.observer call id →
    ∀ p ∈ f.standingAt call, p.2 ≠ freed.dataItemToClients.key id
  orphaned : f.observer.mSubscriptionObj = true → ∀ id ∈ f.subscribed, Orphans f.observer call id →
    ∃ id', Erases freed f.observer call id' ∧ freed.dataItemToClients.key id' = id
  registered : call = .setSubscriptionObj false →
    (∀ p ∈ f.standing,
      p.2 ∈ f.subscribed ∨ f.observer.mDataItemToClients.getValSetPtr p.2 ≠ none) ∧
    ∀ id, f.observer.mDataItemToClients.getValSetPtr id ≠ none →
      ∃ c, f.observer.mClientToDataItems.Holds c id

section Told

omit [DecidableEq Client]

variable {subscribed : UnorderedSet DataItemId}
  {o : SystemStatusOsObserver Client DataItemId DataItem} {s : UnorderedSet DataItemId}
  {id : DataItemId}

lemma mem_foldl_erase {l : List DataItemId} :
    id ∈ l.foldl UnorderedSet.erase subscribed ↔ id ∈ subscribed ∧ id ∉ l := by
  induction l generalizing subscribed with
  | nil => simp
  | cons a l ih =>
      rw [List.foldl_cons, ih, UnorderedSet.mem_erase, List.mem_cons]
      tauto

omit [DecidableEq DataItemId] in
lemma mem_containerTransferToList {s : UnorderedSet DataItemId} :
    id ∈ containerTransferToList s ↔ id ∈ s := by
  simp [containerTransferToList]

/-- The framework hears nothing of the notifications. -/
lemma foldl_told_sendCachedDataItems (client : Client) :
    (o.sendCachedDataItems s client).foldl told subscribed = subscribed := by
  unfold sendCachedDataItems
  simp only []
  split
  · rfl
  · rfl

/-- A list that is sent has its effect, and an empty one would have none. -/
lemma mem_foldl_told_subscribe :
    id ∈ (o.sendToFramework .subscribe s).foldl told subscribed ↔
      id ∈ subscribed ∨ (o.mSubscriptionObj = true ∧ id ∈ s) := by
  unfold sendToFramework
  cases hobj : o.mSubscriptionObj with
  | false => simp
  | true =>
      cases hempty : s.isEmpty with
      | true => simp [UnorderedSet.isEmpty_iff.mp hempty id]
      | false => simp [told, mem_containerTransferToList]

lemma mem_foldl_told_unsubscribe :
    id ∈ (o.sendToFramework .unsubscribe s).foldl told subscribed ↔
      id ∈ subscribed ∧ ¬(o.mSubscriptionObj = true ∧ id ∈ s) := by
  unfold sendToFramework
  cases hobj : o.mSubscriptionObj with
  | false => simp
  | true =>
      cases hempty : s.isEmpty with
      | true => simp [UnorderedSet.isEmpty_iff.mp hempty id]
      | false => simp [told, mem_foldl_erase, mem_containerTransferToList]

lemma foldl_told_requestData :
    (o.sendToFramework .requestData s).foldl told subscribed = subscribed := by
  unfold sendToFramework
  split
  · rfl
  · rfl

end Told

/-! ## One message -/

/-- What is known of every state: whoever has obtained an item is recorded as holding it, and
without a subscription object nothing has been sent. -/
structure Tracked (f : Followed Client DataItemId DataItem) : Prop where
  held : ∀ p ∈ f.standing, f.observer.mClientToDataItems.Holds p.1 p.2
  silent : f.observer.mSubscriptionObj = false → ∀ id, id ∉ f.subscribed

/-- The state after a message. -/
def followMsg (freed : Freed Client DataItemId) (f : Followed Client DataItemId DataItem)
    (msg : Msg Client DataItemId) : Followed Client DataItemId DataItem :=
  ⟨(proc freed f.observer msg).1, (proc freed f.observer msg).2.foldl told f.subscribed,
    standingAfter f.standing msg⟩

lemma next_followed (freed : Freed Client DataItemId) (f : Followed Client DataItemId DataItem)
    (call : Call Client DataItemId) : (followed freed).next f call =
      match call.sendMsg with
      | none => f
      | some msg => followMsg freed f msg := by
  simp only [Machine.next, followed, followStep]
  split
  · rfl
  · rfl

section Shape

variable {f f' : Followed Client DataItemId DataItem} {freed : Freed Client DataItemId}
  {call : Call Client DataItemId}

/-- **The shape of a call.**  It subscribes the framework to the new keys among the items that it
names, and unsubscribes it from the keys that are read from the entries that it erases; nobody is
left with the items that it orphans. -/
lemma follows_iff_of_shape (hf : Follows f) (hcall : call ≠ .setSubscriptionObj false)
    (hobj : f'.observer.mSubscriptionObj = f.observer.mSubscriptionObj)
    (hafter : f'.standing = f.standingAt call)
    (hheld : ∀ p ∈ f'.standing, f'.observer.mClientToDataItems.Holds p.1 p.2)
    (hstanding : ∀ p ∈ f'.standing, p ∈ f.standing ∨ p.2 ∈ call.items)
    (hitems : ∀ id ∈ call.items, ∃ c, (c, id) ∈ f'.standing)
    (hsubscribed : ∀ id, id ∈ f'.subscribed ↔
      (id ∈ f.subscribed ∨ f.observer.mSubscriptionObj = true ∧ id ∈ call.items ∧
        ¬ Trims freed f.observer call id ∧ f.observer.mDataItemToClients.getValSetPtr id = none) ∧
      ¬(f.observer.mSubscriptionObj = true ∧
        ∃ id', Erases freed f.observer call id' ∧ freed.dataItemToClients.key id' = id))
    (horphans : ∀ id, (∃ c, f.observer.mClientToDataItems.Holds c id) →
      ((∃ c, f'.observer.mClientToDataItems.Holds c id) ↔ ¬ Orphans f.observer call id)) :
    Follows f' ↔ KeepsUp freed f call := by
  constructor
  · intro hf'
    refine ⟨fun htrue id hid hkey => ?_, fun htrue id hid p hp hread => ?_,
      fun htrue id hid horphan => ?_, fun heq => absurd heq hcall⟩
    · obtain ⟨c, hc⟩ := hitems id hid
      have hmem := (hf' (hobj.trans htrue)).1 (c, id) hc
      rcases ((hsubscribed id).mp hmem).1 with hold | ⟨-, -, htrims, hnone⟩
      · exact hold
      · exact absurd hkey (not_or_intro (not_not_intro hnone) htrims)
    · rw [← hafter] at hp
      have hmem := (hf' (hobj.trans htrue)).1 p hp
      exact ((hsubscribed p.2).mp hmem).2 ⟨htrue, id, hid, hread.symm⟩
    · by_contra hread
      have hmem : id ∈ f'.subscribed :=
        (hsubscribed id).mpr ⟨.inl hid, fun herased => hread herased.2⟩
      have hleft := (hf' (hobj.trans htrue)).2 id hmem
      exact (horphans id ((hf htrue).2 id hid)).mp hleft horphan
  · intro hkeeps htrue
    rw [hobj] at htrue
    refine ⟨fun p hp => (hsubscribed p.2).mpr ⟨?_, ?_⟩, fun id hid => ?_⟩
    · rcases hstanding p hp with hold | hnamed
      · exact .inl ((hf htrue).1 p hold)
      · by_cases hkey : f.observer.mDataItemToClients.getValSetPtr p.2 ≠ none ∨
            Trims freed f.observer call p.2
        · exact .inl (hkeeps.named htrue p.2 hnamed hkey)
        · obtain ⟨hnone, htrims⟩ := not_or.mp hkey
          exact .inr ⟨htrue, hnamed, htrims, not_not.mp hnone⟩
    · rintro ⟨-, id', herases, hread⟩
      exact hkeeps.erased htrue id' herases p (hafter ▸ hp) hread.symm
    · obtain ⟨hold | ⟨-, hnamed, -⟩, hread⟩ := (hsubscribed id).mp hid
      · apply (horphans id ((hf htrue).2 id hold)).mpr
        exact fun horphan => hread ⟨htrue, hkeeps.orphaned htrue id hold horphan⟩
      · obtain ⟨c, hc⟩ := hitems id hnamed
        exact ⟨c, hheld (c, id) hc⟩

end Shape

section Messages

variable {f : Followed Client DataItemId DataItem} {freed : Freed Client DataItemId}
  {s : UnorderedSet DataItemId} {client : Client}

omit [DecidableEq Client] [DecidableEq DataItemId] in
lemma mem_map_mk {p : Client × DataItemId} :
    p ∈ s.elems.map (fun id => (client, id)) ↔ p.1 = client ∧ p.2 ∈ s := by
  rw [List.mem_map]
  constructor
  · rintro ⟨id, hid, rfl⟩
    exact ⟨rfl, hid⟩
  · rintro ⟨rfl, hid⟩
    exact ⟨p.2, hid, rfl⟩

lemma mem_standing_subscribe {p : Client × DataItemId} :
    p ∈ (followMsg freed f (.handleSubscribeReq s client false)).standing ↔
      p ∈ f.standing ∨ (p.1 = client ∧ p.2 ∈ s) := by
  simp only [followMsg, standingAfter, Bool.false_eq_true, if_false, List.mem_append, mem_map_mk]

lemma mem_standing_update {p : Client × DataItemId} :
    p ∈ (followMsg freed f (.handleUpdateSubscriptionReq s client)).standing ↔
      (p ∈ f.standing ∧ p.1 ≠ client) ∨ (p.1 = client ∧ p.2 ∈ s) := by
  simp only [followMsg, standingAfter, List.mem_append, List.mem_filter, decide_eq_true_eq,
    mem_map_mk]

omit [DecidableEq Client] in
lemma isEmpty_singleton (client : Client) : (UnorderedSet.singleton client).isEmpty = false := rfl

/-! ### What each message tells the framework -/

/-- The keys that are read from the entries of `trimmed` in which there is only the client. -/
lemma mem_goneKeys (trimmed : UnorderedSet DataItemId) (id : DataItemId) :
    id ∈ (f.observer.mDataItemToClients.trimOrRemove freed.dataItemToClients trimmed
        (.singleton client)).goneKeys ↔
      ∃ id', (id' ∈ trimmed ∧ f.observer.mDataItemToClients.getValSetPtr id' ≠ none ∧
        ∀ c, f.observer.mDataItemToClients.Holds id' c → some client = some c) ∧
          freed.dataItemToClients.key id' = id := by
  rw [LocUnorderedSetMap.mem_trimOrRemove_goneKeys]
  simp only [UnorderedSet.mem_singleton, Option.some.injEq]
  constructor
  · rintro ⟨id', htrimmed, rfl, hkey, honly⟩
    exact ⟨id', ⟨htrimmed, hkey, fun c hc => (honly c hc).symm⟩, rfl⟩
  · rintro ⟨id', ⟨htrimmed, hkey, honly⟩, rfl⟩
    exact ⟨id', htrimmed, rfl, hkey, fun c hc => (honly c hc).symm⟩

lemma mem_subscribed_subscribe (id : DataItemId) :
    id ∈ (followMsg freed f (.handleSubscribeReq s client false)).subscribed ↔
      id ∈ f.subscribed ∨ (f.observer.mSubscriptionObj = true ∧ id ∈ s ∧
        f.observer.mDataItemToClients.getValSetPtr id = none) := by
  simp only [followMsg, proc, procSubscribe, Bool.false_eq_true, if_false, List.foldl_append,
    foldl_told_sendCachedDataItems, mem_foldl_told_subscribe]
  rw [LocUnorderedSetMap.mem_add_newKeys (isEmpty_singleton client)]

lemma subscribed_requestData :
    (followMsg freed f (.handleSubscribeReq s client true)).subscribed = f.subscribed := by
  simp only [followMsg, proc, procSubscribe, if_true, List.foldl_append,
    foldl_told_sendCachedDataItems, foldl_told_requestData]

lemma mem_subscribed_update (id : DataItemId) :
    id ∈ (followMsg freed f (.handleUpdateSubscriptionReq s client)).subscribed ↔
      (id ∈ f.subscribed ∨ f.observer.mSubscriptionObj = true ∧ id ∈ s ∧
        id ∉ (f.observer.mClientToDataItems.update freed.clientToDataItems client s).2.1 ∧
          f.observer.mDataItemToClients.getValSetPtr id = none) ∧
      ¬(f.observer.mSubscriptionObj = true ∧
        ∃ id', (id' ∈ (f.observer.mClientToDataItems.update freed.clientToDataItems client s).2.1 ∧
          f.observer.mDataItemToClients.getValSetPtr id' ≠ none ∧
            ∀ c, f.observer.mDataItemToClients.Holds id' c → some client = some c) ∧
              freed.dataItemToClients.key id' = id) := by
  set gone := (f.observer.mClientToDataItems.update freed.clientToDataItems client s).2.1
    with hgone
  have hnew : id ∈ ((f.observer.mDataItemToClients.trimOrRemove freed.dataItemToClients gone
        (.singleton client)).map.add
          (f.observer.mClientToDataItems.update freed.clientToDataItems client s).2.2
          (.singleton client)).2 ↔
      id ∈ s ∧ id ∉ gone ∧ f.observer.mDataItemToClients.getValSetPtr id = none := by
    rw [LocUnorderedSetMap.mem_add_newKeys (isEmpty_singleton client),
      LocUnorderedSetMap.mem_update_newVals, ← hgone, and_assoc]
    refine and_congr_right fun _ => and_congr_right fun hnot => ?_
    rw [LocUnorderedSetMap.getValSetPtr_trimOrRemove_of_notMem _ hnot]
  simp only [followMsg, proc, procUpdateSubscription, ← hgone, List.foldl_append,
    foldl_told_sendCachedDataItems, mem_foldl_told_unsubscribe, mem_foldl_told_subscribe, hnew,
    mem_goneKeys]

/-- The items that a client loses when it unsubscribes from those of `s`. -/
lemma mem_unused (freed : Freed Client DataItemId) (id : DataItemId) :
    id ∈ (f.observer.mClientToDataItems.trimOrRemove freed.clientToDataItems (.singleton client)
        s).goneVals ↔ id ∈ s ∧ f.observer.mClientToDataItems.Holds client id := by
  rw [LocUnorderedSetMap.mem_trimOrRemove_goneVals]
  simp only [UnorderedSet.mem_singleton, exists_eq_left]
  exact and_comm

lemma mem_subscribed_unsubscribe (id : DataItemId) :
    id ∈ (followMsg freed f (.handleUnsubscribeReq s client)).subscribed ↔
      id ∈ f.subscribed ∧ ¬(f.observer.mSubscriptionObj = true ∧
        ∃ id', ((id' ∈ s ∧ f.observer.mClientToDataItems.Holds client id') ∧
          f.observer.mDataItemToClients.getValSetPtr id' ≠ none ∧
            ∀ c, f.observer.mDataItemToClients.Holds id' c → some client = some c) ∧
              freed.dataItemToClients.key id' = id) := by
  simp only [followMsg, proc, procUnsubscribe, mem_foldl_told_unsubscribe, mem_goneKeys,
    mem_unused]

lemma mem_subscribed_unsubscribeAll (id : DataItemId) :
    id ∈ (followMsg freed f (.handleUnsubscribeAllReq client)).subscribed ↔
      id ∈ f.subscribed ∧ ¬(f.observer.mSubscriptionObj = true ∧
        ∃ id', (f.observer.mClientToDataItems.Holds client id' ∧
          f.observer.mDataItemToClients.getValSetPtr id' ≠ none ∧
            ∀ c, f.observer.mDataItemToClients.Holds id' c → some client = some c) ∧
              freed.dataItemToClients.key id' = id) := by
  have hall : ∀ id, id ∈ f.observer.mClientToDataItems.getValSet client ↔
      f.observer.mClientToDataItems.Holds client id := fun _ => Iff.rfl
  simp only [followMsg, proc, procUnsubscribeAll]
  split
  · rename_i hempty
    have hnone := UnorderedSet.isEmpty_iff.mp hempty
    refine ⟨fun hid => ⟨hid, ?_⟩, fun hid => hid.1⟩
    rintro ⟨-, id', ⟨hheld, -⟩, -⟩
    exact hnone id' hheld
  · simp only [mem_foldl_told_unsubscribe, mem_goneKeys, hall]

lemma mem_subscribed_setSubsObj (id : DataItemId) :
    id ∈ (followMsg freed f .setSubsObj).subscribed ↔
      id ∈ f.subscribed ∨ f.observer.mDataItemToClients.getValSetPtr id ≠ none := by
  rw [← LocUnorderedSetMap.mem_getKeys]
  simp only [followMsg, proc, procSetSubsObj]
  split
  · rename_i hempty
    have hnil : f.observer.mDataItemToClients.getKeys.elems = [] := List.isEmpty_iff.mp hempty
    have hnot : id ∉ f.observer.mDataItemToClients.getKeys := by
      rw [← UnorderedSet.mem_elems, hnil]
      exact List.not_mem_nil
    simp [hnot]
  · simp [told, mem_containerTransferToList]

/-! ### Who holds what after each message -/

lemma holds_setSubsObj : (followMsg freed f .setSubsObj).observer.mClientToDataItems =
    f.observer.mClientToDataItems := by
  simp only [followMsg, proc, procSetSubsObj]
  split
  · rfl
  · rfl

lemma holds_subscribe {toRequestData : Bool} (c : Client) (id : DataItemId) :
    (followMsg freed f
        (.handleSubscribeReq s client toRequestData)).observer.mClientToDataItems.Holds c id ↔
      f.observer.mClientToDataItems.Holds c id ∨ (c = client ∧ id ∈ s) :=
  LocUnorderedSetMap.addKey_holds

lemma holds_update (c : Client) (id : DataItemId) :
    (followMsg freed f
        (.handleUpdateSubscriptionReq s client)).observer.mClientToDataItems.Holds c id ↔
      if c = client then id ∈ s else f.observer.mClientToDataItems.Holds c id :=
  LocUnorderedSetMap.update_holds freed.clientToDataItems

lemma holds_unsubscribe (c : Client) (id : DataItemId) :
    (followMsg freed f
        (.handleUnsubscribeReq s client)).observer.mClientToDataItems.Holds c id ↔
      f.observer.mClientToDataItems.Holds c id ∧ ¬(c = client ∧ id ∈ s) := by
  have hholds : (followMsg freed f
      (.handleUnsubscribeReq s client)).observer.mClientToDataItems.Holds c id ↔
        f.observer.mClientToDataItems.Holds c id ∧
          ¬(c ∈ UnorderedSet.singleton client ∧ id ∈ s) :=
    LocUnorderedSetMap.trimOrRemove_holds freed.clientToDataItems
  rw [hholds, UnorderedSet.mem_singleton]

lemma holds_unsubscribeAll (c : Client) (id : DataItemId) :
    (followMsg freed f
        (.handleUnsubscribeAllReq client)).observer.mClientToDataItems.Holds c id ↔
      f.observer.mClientToDataItems.Holds c id ∧ c ≠ client := by
  simp only [followMsg, proc, procUnsubscribeAll]
  split
  · rename_i hempty
    have hnone := UnorderedSet.isEmpty_iff.mp hempty
    refine ⟨fun hc => ⟨hc, ?_⟩, fun hc => hc.1⟩
    rintro rfl
    exact hnone id hc
  · rw [LocUnorderedSetMap.remove_holds]
    exact and_comm

/-! ### With which items nobody is left -/

lemma exists_holds_update_iff {id : DataItemId} :
    (∃ c, (followMsg freed f
        (.handleUpdateSubscriptionReq s client)).observer.mClientToDataItems.Holds c id) ↔
      (id ∉ s → ¬ ∀ c, f.observer.mClientToDataItems.Holds c id → c = client) := by
  simp only [holds_update]
  constructor
  · rintro ⟨c, hc⟩ hid honly
    by_cases heq : c = client
    · exact hid (by rwa [if_pos heq] at hc)
    · rw [if_neg heq] at hc
      exact heq (honly c hc)
  · intro h
    by_cases hid : id ∈ s
    · exact ⟨client, by rwa [if_pos rfl]⟩
    · obtain ⟨c, hc⟩ := not_forall.mp (h hid)
      obtain ⟨hheld, hne⟩ := Classical.not_imp.mp hc
      exact ⟨c, by rwa [if_neg hne]⟩

lemma exists_holds_unsubscribe_iff {id : DataItemId}
    (hsome : ∃ c, f.observer.mClientToDataItems.Holds c id) :
    (∃ c, (followMsg freed f
        (.handleUnsubscribeReq s client)).observer.mClientToDataItems.Holds c id) ↔
      ¬(id ∈ s ∧ ∀ c, f.observer.mClientToDataItems.Holds c id → c = client) := by
  simp only [holds_unsubscribe]
  constructor
  · rintro ⟨c, hc, hkept⟩ ⟨hid, honly⟩
    exact hkept ⟨honly c hc, hid⟩
  · intro h
    by_cases hid : id ∈ s
    · obtain ⟨c, hc⟩ := not_forall.mp fun honly => h ⟨hid, honly⟩
      obtain ⟨hheld, hne⟩ := Classical.not_imp.mp hc
      exact ⟨c, hheld, fun hboth => hne hboth.1⟩
    · obtain ⟨c, hc⟩ := hsome
      exact ⟨c, hc, fun hboth => hid hboth.2⟩

lemma exists_holds_unsubscribeAll_iff {id : DataItemId} :
    (∃ c, (followMsg freed f
        (.handleUnsubscribeAllReq client)).observer.mClientToDataItems.Holds c id) ↔
      ¬ ∀ c, f.observer.mClientToDataItems.Holds c id → c = client := by
  simp only [holds_unsubscribeAll, not_forall, exists_prop, ne_eq]

end Messages

/-! ## One call -/

section Calls

variable {f : Followed Client DataItemId DataItem} {freed : Freed Client DataItemId}
  {call : Call Client DataItemId}

/-- Whoever has obtained an item still holds it after a message. -/
lemma held_followMsg (hheld : ∀ p ∈ f.standing, f.observer.mClientToDataItems.Holds p.1 p.2)
    (msg : Msg Client DataItemId) :
    ∀ p ∈ (followMsg freed f msg).standing,
      (followMsg freed f msg).observer.mClientToDataItems.Holds p.1 p.2 := by
  intro p hp
  cases msg with
  | setSubsObj =>
      rw [holds_setSubsObj]
      exact hheld p hp
  | handleSubscribeReq s client toRequestData =>
      apply (holds_subscribe p.1 p.2).mpr
      cases toRequestData with
      | true => exact .inl (hheld p hp)
      | false =>
          rcases mem_standing_subscribe.mp hp with hold | hnew
          · exact .inl (hheld p hold)
          · exact .inr hnew
  | handleUpdateSubscriptionReq s client =>
      apply (holds_update p.1 p.2).mpr
      rcases mem_standing_update.mp hp with ⟨hold, hne⟩ | ⟨hclient, hid⟩
      · rw [if_neg hne]
        exact hheld p hold
      · rw [if_pos hclient]
        exact hid
  | handleUnsubscribeReq s client =>
      simp only [followMsg, standingAfter, List.mem_filter, decide_eq_true_eq] at hp
      exact (holds_unsubscribe p.1 p.2).mpr ⟨hheld p hp.1, hp.2⟩
  | handleUnsubscribeAllReq client =>
      simp only [followMsg, standingAfter, List.mem_filter, decide_eq_true_eq] at hp
      exact (holds_unsubscribeAll p.1 p.2).mpr ⟨hheld p hp.1, hp.2⟩

/-- Without a subscription object the framework is told nothing. -/
lemma silent_followMsg (msg : Msg Client DataItemId)
    (hobj : (followMsg freed f msg).observer.mSubscriptionObj = false) :
    f.observer.mSubscriptionObj = false ∧ (followMsg freed f msg).subscribed = f.subscribed := by
  cases msg with
  | setSubsObj =>
      simp only [followMsg, proc, procSetSubsObj] at hobj
      split at hobj
      · cases hobj
      · cases hobj
  | handleSubscribeReq s client toRequestData =>
      have hobj' : f.observer.mSubscriptionObj = false := hobj
      refine ⟨hobj', ?_⟩
      simp only [followMsg, proc, procSubscribe, sendToFramework, hobj', Bool.false_and,
        Bool.false_eq_true, if_false, List.append_nil, foldl_told_sendCachedDataItems]
  | handleUpdateSubscriptionReq s client =>
      have hobj' : f.observer.mSubscriptionObj = false := hobj
      refine ⟨hobj', ?_⟩
      simp only [followMsg, proc, procUpdateSubscription, sendToFramework, hobj', Bool.false_and,
        Bool.false_eq_true, if_false, List.append_nil, foldl_told_sendCachedDataItems]
  | handleUnsubscribeReq s client =>
      have hobj' : f.observer.mSubscriptionObj = false := hobj
      refine ⟨hobj', ?_⟩
      simp only [followMsg, proc, procUnsubscribe, sendToFramework, hobj', Bool.false_and,
        Bool.false_eq_true, if_false, List.foldl_nil]
  | handleUnsubscribeAllReq client =>
      simp only [followMsg, proc, procUnsubscribeAll] at hobj ⊢
      split at hobj
      · rename_i hempty
        exact ⟨hobj, by rw [if_pos hempty, List.foldl_nil]⟩
      · rename_i hempty
        have hobj' : f.observer.mSubscriptionObj = false := hobj
        refine ⟨hobj', ?_⟩
        simp only [if_neg hempty, sendToFramework, hobj', Bool.false_and, Bool.false_eq_true,
          if_false, List.foldl_nil]

omit [DecidableEq DataItemId] in
lemma tracked_init : Tracked (Followed.init : Followed Client DataItemId DataItem) where
  held _ hp := absurd hp List.not_mem_nil
  silent _ id := UnorderedSet.notMem_empty id

omit [DecidableEq DataItemId] in
lemma follows_init : Follows (Followed.init : Followed Client DataItemId DataItem) :=
  fun hobj => by cases hobj

/-- **The bookkeeping is kept** by every call. -/
lemma Tracked.next (h : Tracked f) (call : Call Client DataItemId) :
    Tracked ((followed freed).next f call) where
  held := by
    rw [next_followed]
    cases call.sendMsg with
    | none => exact h.held
    | some msg => exact held_followMsg h.held msg
  silent := by
    rw [next_followed]
    cases call.sendMsg with
    | none => exact h.silent
    | some msg =>
        intro hobj
        obtain ⟨hobj', hsame⟩ := silent_followMsg msg hobj
        rw [hsame]
        exact h.silent hobj'

/-- A call that names, trims and orphans nothing, and does not bring the subscription object. -/
lemma keepsUp_of_nothing (hitems : call.items = [])
    (htrims : ∀ id, ¬ Trims freed f.observer call id)
    (horphans : ∀ id, ¬ Orphans f.observer call id) (hcall : call ≠ .setSubscriptionObj false) :
    KeepsUp freed f call where
  named _ id hid := by
    rw [hitems] at hid
    cases hid
  erased _ id herases := absurd herases.1 (htrims id)
  orphaned _ id _ horphan := absurd horphan (horphans id)
  registered heq := absurd heq hcall

/-- A call that queues nothing. -/
lemma keepsUp_of_sendMsg_none (hm : call.sendMsg = none) : KeepsUp freed f call := by
  cases call with
  | setSubscriptionObj isNull =>
      refine keepsUp_of_nothing rfl (fun _ h => h) (fun _ h => h) ?_
      rintro heq
      rw [heq] at hm
      cases hm
  | subscribe l client =>
      cases client with
      | none => exact keepsUp_of_nothing rfl (fun _ h => h) (fun _ h => h) (by simp)
      | some client =>
          cases l with
          | nil => exact keepsUp_of_nothing rfl (fun _ h => h) (fun _ h => h) (by simp)
          | cons id l => cases hm
  | requestData l client =>
      exact keepsUp_of_nothing rfl (fun _ h => h) (fun _ h => h) (by simp)
  | updateSubscription l client =>
      cases client with
      | none => exact keepsUp_of_nothing rfl (fun _ h => h) (fun _ h => h) (by simp)
      | some client =>
          cases l with
          | nil =>
              refine keepsUp_of_nothing rfl (fun id h => ?_) (fun _ h => h.1 rfl) (by simp)
              have hmem := (LocUnorderedSetMap.mem_of_mem_update_goneVals _ h).2
              exact absurd (mem_containerTransferToSet.mp hmem) List.not_mem_nil
          | cons id l => cases hm
  | unsubscribe l client =>
      cases client with
      | none => exact keepsUp_of_nothing rfl (fun _ h => h) (fun _ h => h) (by simp)
      | some client =>
          cases l with
          | nil =>
              exact keepsUp_of_nothing rfl (fun _ h => absurd h.1 List.not_mem_nil)
                (fun _ h => absurd h.1 List.not_mem_nil) (by simp)
          | cons id l => cases hm
  | unsubscribeAll client =>
      cases client with
      | none => exact keepsUp_of_nothing rfl (fun _ h => h) (fun _ h => h) (by simp)
      | some client => cases hm

/-- The subscription object is brought. -/
lemma follows_setSubsObj_iff (h : Tracked f) (hf : Follows f) :
    Follows (followMsg freed f .setSubsObj) ↔ KeepsUp freed f (.setSubscriptionObj false) := by
  have hobj : (followMsg freed f .setSubsObj).observer.mSubscriptionObj = true := by
    simp only [followMsg, proc, procSetSubsObj]
    split
    · rfl
    · rfl
  constructor
  · intro hf'
    obtain ⟨hheld, hnobody⟩ := hf' hobj
    refine ⟨fun _ _ hid => absurd hid List.not_mem_nil, fun _ _ herases => herases.1.elim,
      fun _ _ _ horphan => horphan.elim, fun _ => ⟨fun p hp => ?_, fun id hkey => ?_⟩⟩
    · exact (mem_subscribed_setSubsObj p.2).mp (hheld p hp)
    · have hleft := hnobody id ((mem_subscribed_setSubsObj id).mpr (.inr hkey))
      rwa [holds_setSubsObj] at hleft
  · intro hkeeps _
    obtain ⟨hstanding, hkeys⟩ := hkeeps.registered rfl
    refine ⟨fun p hp => (mem_subscribed_setSubsObj p.2).mpr (hstanding p hp), fun id hid => ?_⟩
    rw [holds_setSubsObj]
    rcases (mem_subscribed_setSubsObj id).mp hid with hold | hkey
    · cases htrue : f.observer.mSubscriptionObj with
      | true => exact (hf htrue).2 id hold
      | false => exact absurd hold (h.silent htrue id)
    · exact hkeys id hkey

/-- A request tells the framework nothing that it would follow. -/
lemma follows_requestData (hf : Follows f) (s : UnorderedSet DataItemId) (client : Client) :
    Follows (followMsg freed f (.handleSubscribeReq s client true)) := by
  intro htrue
  obtain ⟨hheld, hnobody⟩ := hf htrue
  rw [subscribed_requestData]
  refine ⟨hheld, fun id hid => ?_⟩
  obtain ⟨c, hc⟩ := hnobody id hid
  exact ⟨c, (holds_subscribe c id).mpr (.inl hc)⟩

/-- **One call.** The framework follows on exactly when the call keeps up. -/
lemma follows_next_iff (h : Tracked f) (hf : Follows f) :
    Follows ((followed freed).next f call) ↔ KeepsUp freed f call := by
  have htracked : Tracked ((followed freed).next f call) := h.next call
  have hheld := htracked.held
  rw [next_followed] at hheld ⊢
  cases hm : call.sendMsg with
  | none => exact iff_of_true hf (keepsUp_of_sendMsg_none hm)
  | some msg =>
      rw [hm] at hheld
      have hafter : (followMsg freed f msg).standing = f.standingAt call := by
        rw [Followed.standingAt, hm]
        rfl
      cases call with
      | setSubscriptionObj isNull =>
          cases isNull with
          | true => cases hm
          | false =>
              obtain rfl := Option.some.inj hm
              exact follows_setSubsObj_iff h hf
      | requestData l client =>
          rw [Call.sendMsg] at hm
          obtain ⟨c, -, -, rfl⟩ := request_eq_some hm
          exact iff_of_true (follows_requestData hf _ c)
            (keepsUp_of_nothing rfl (fun _ h => h) (fun _ h => h) (by simp))
      | subscribe l client =>
          rw [Call.sendMsg] at hm
          obtain ⟨c, rfl, -, rfl⟩ := request_eq_some hm
          refine follows_iff_of_shape hf (by simp) rfl hafter hheld (fun p hp => ?_)
            (fun id hid => ⟨c, ?_⟩) (fun id => ?_) (fun id hsome => ?_)
          · exact (mem_standing_subscribe.mp hp).imp_right fun hnew =>
              mem_containerTransferToSet.mp hnew.2
          · exact mem_standing_subscribe.mpr (.inr ⟨rfl, mem_containerTransferToSet.mpr hid⟩)
          · rw [mem_subscribed_subscribe]
            simp [Call.items, Trims, Erases]
          · simp only [Orphans, not_false_eq_true, iff_true]
            obtain ⟨c', hc'⟩ := hsome
            exact ⟨c', (holds_subscribe c' id).mpr (.inl hc')⟩
      | updateSubscription l client =>
          obtain ⟨c, rfl, hl, rfl⟩ := request_eq_some hm
          refine follows_iff_of_shape hf (by simp) rfl hafter hheld (fun p hp => ?_)
            (fun id hid => ⟨c, ?_⟩) (fun id => ?_) (fun id hsome => ?_)
          · exact (mem_standing_update.mp hp).imp And.left fun hnew =>
              mem_containerTransferToSet.mp hnew.2
          · exact mem_standing_update.mpr (.inr ⟨rfl, mem_containerTransferToSet.mpr hid⟩)
          · rw [mem_subscribed_update, mem_containerTransferToSet]
            exact Iff.rfl
          · rw [Orphans, and_iff_right hl, not_and, ← mem_containerTransferToSet]
            exact exists_holds_update_iff
      | unsubscribe l client =>
          obtain ⟨c, rfl, -, rfl⟩ := request_eq_some hm
          refine follows_iff_of_shape hf (by simp) rfl hafter hheld (fun p hp => ?_)
            (fun id hid => absurd hid List.not_mem_nil) (fun id => ?_) (fun id hsome => ?_)
          · simp only [followMsg, standingAfter, List.mem_filter] at hp
            exact .inl hp.1
          · rw [mem_subscribed_unsubscribe]
            simp only [Call.items, List.not_mem_nil, false_and, and_false, or_false, Erases, Trims,
              Call.client, mem_containerTransferToSet]
          · rw [Orphans, ← mem_containerTransferToSet]
            exact exists_holds_unsubscribe_iff hsome
      | unsubscribeAll client =>
          cases client with
          | none => cases hm
          | some c =>
              obtain rfl := Option.some.inj hm
              refine follows_iff_of_shape hf (by simp) ?_ hafter hheld (fun p hp => ?_)
                (fun id hid => absurd hid List.not_mem_nil) (fun id => ?_) (fun id hsome => ?_)
              · simp only [followMsg, proc, procUnsubscribeAll]
                split
                · rfl
                · rfl
              · simp only [followMsg, standingAfter, List.mem_filter] at hp
                exact .inl hp.1
              · rw [mem_subscribed_unsubscribeAll]
                simp only [Call.items, List.not_mem_nil, false_and, and_false, or_false, Erases,
                  Trims, Call.client]
              · rw [Orphans]
                exact exists_holds_unsubscribeAll_iff

end Calls

/-! ## Where the maps agree -/

section Agreement

variable {f : Followed Client DataItemId DataItem} {freed : Freed Client DataItemId}
  {call : Call Client DataItemId} {id : DataItemId}

/-- The items that a call trims are taken from its client, who has obtained them no longer, unless
it updates the subscription of a client that holds something. -/
lemma taken_of_trims (hsafe : f.observer.Safe call) (htrims : Trims freed f.observer call id) :
    ∃ client, call.client = some client ∧ f.observer.mClientToDataItems.Holds client id ∧
      ∀ p ∈ f.standingAt call, p ∈ f.standing ∧ p ≠ (client, id) := by
  cases call with
  | setSubscriptionObj | subscribe | requestData => exact htrims.elim
  | updateSubscription l client =>
      cases client with
      | none => exact htrims.elim
      | some client =>
          obtain ⟨hheld, hid⟩ := LocUnorderedSetMap.mem_of_mem_update_goneVals _ htrims
          have hl : l ≠ [] := List.ne_nil_of_mem (mem_containerTransferToSet.mp hid)
          exact absurd hheld (hsafe hl id)
  | unsubscribe l client =>
      cases client with
      | none => exact htrims.elim
      | some client =>
          refine ⟨client, rfl, htrims.2, fun p hp => ?_⟩
          cases l with
          | nil => exact absurd htrims.1 List.not_mem_nil
          | cons a l =>
              simp only [Followed.standingAt, Call.sendMsg, request, List.isEmpty_cons,
                Bool.false_eq_true, if_false, Option.elim_some, standingAfter, List.mem_filter,
                mem_containerTransferToSet, decide_eq_true_eq] at hp
              refine ⟨hp.1, ?_⟩
              rintro rfl
              exact hp.2 ⟨rfl, htrims.1⟩
  | unsubscribeAll client =>
      cases client with
      | none => exact htrims.elim
      | some client =>
          refine ⟨client, rfl, htrims, fun p hp => ?_⟩
          simp only [Followed.standingAt, Call.sendMsg, Option.map_some, Option.elim_some,
            standingAfter, List.mem_filter, decide_eq_true_eq] at hp
          refine ⟨hp.1, ?_⟩
          rintro rfl
          exact hp.2 rfl

/-- The items that a call orphans are trimmed. -/
lemma trims_of_orphans (hsafe : f.observer.Safe call) (horphan : Orphans f.observer call id)
    (hsome : ∃ c, f.observer.mClientToDataItems.Holds c id) :
    Trims freed f.observer call id ∧
      ∀ c, f.observer.mClientToDataItems.Holds c id → call.client = some c := by
  obtain ⟨c, hc⟩ := hsome
  cases call with
  | setSubscriptionObj | subscribe | requestData => exact horphan.elim
  | updateSubscription l client =>
      cases client with
      | none => exact horphan.elim
      | some client =>
          obtain ⟨hl, -, honly⟩ := horphan
          exact absurd (honly c hc ▸ hc) (hsafe hl id)
  | unsubscribe l client =>
      cases client with
      | none => exact horphan.elim
      | some client =>
          obtain ⟨hid, honly⟩ := horphan
          exact ⟨⟨hid, honly c hc ▸ hc⟩, fun c' hc' => congrArg some (honly c' hc').symm⟩
  | unsubscribeAll client =>
      cases client with
      | none => exact horphan.elim
      | some client =>
          have hheld : f.observer.mClientToDataItems.Holds client id := horphan c hc ▸ hc
          exact ⟨hheld, fun c' hc' => congrArg some (horphan c' hc').symm⟩

/-- **Where the two maps agree**, an update is made by a client that holds nothing, and the keys of
erased entries read as what they were, a call keeps up exactly when it names no item that is held
without the framework's being subscribed to it. -/
theorem keepsUp_iff_of_consistent (h : Tracked f) (hf : Follows f) (hcons : f.observer.Consistent)
    (hsafe : f.observer.Safe call)
    (hkey : ∀ id, Erases freed f.observer call id → freed.dataItemToClients.key id = id) :
    KeepsUp freed f call ↔ (f.observer.mSubscriptionObj = true → ∀ id ∈ call.items,
      (∃ c, f.observer.mClientToDataItems.Holds c id) → id ∈ f.subscribed) := by
  have hentry : ∀ id, f.observer.mDataItemToClients.getValSetPtr id ≠ none ↔
      ∃ c, f.observer.mClientToDataItems.Holds c id := by
    intro id
    rw [ne_eq, LocUnorderedSetMap.getValSetPtr_eq_none_iff hcons.dataItemEntries, not_forall]
    simp only [not_not, hcons.inverse]
  constructor
  · exact fun hkeeps htrue id hid hsome => hkeeps.named htrue id hid (.inl ((hentry id).mpr hsome))
  · intro hnamed
    refine ⟨fun htrue id hid hkeyed => ?_, fun htrue id herases p hp heq => ?_,
      fun htrue id hid horphan => ?_, fun _ => ⟨fun p hp => ?_, fun id => (hentry id).mp⟩⟩
    · rcases hkeyed with hkeyed | htrims
      · exact hnamed htrue id hid ((hentry id).mp hkeyed)
      · obtain ⟨client, -, hheld, -⟩ := taken_of_trims hsafe htrims
        exact hnamed htrue id hid ⟨client, hheld⟩
    · obtain ⟨client, hclient, -, hleft⟩ := taken_of_trims hsafe herases.1
      obtain ⟨hold, hne⟩ := hleft p hp
      rw [hkey id herases] at heq
      have hheld : f.observer.mClientToDataItems.Holds p.1 id := heq ▸ h.held p hold
      have hsame := herases.2.2 p.1 ((hcons.inverse p.1 id).mp hheld)
      rw [hclient] at hsame
      exact hne (Prod.ext (Option.some.inj hsame).symm heq)
    · have hsome := (hf htrue).2 id hid
      obtain ⟨htrims, honly⟩ : Trims freed f.observer call id ∧
          ∀ c, f.observer.mClientToDataItems.Holds c id → call.client = some c :=
        trims_of_orphans hsafe horphan hsome
      have herases : Erases freed f.observer call id :=
        ⟨htrims, (hentry id).mpr hsome, fun c hc => honly c ((hcons.inverse c id).mpr hc)⟩
      exact ⟨id, herases, hkey id herases⟩
    · exact .inr ((hentry p.2).mpr ⟨p.1, h.held p hp⟩)

end Agreement

/-! ## Every run -/

/-- **Every run, exactly.** The framework follows the clients throughout a run exactly when every
call keeps up with what it does to the maps. -/
theorem always_follows_iff (freed : Freed Client DataItemId)
    (calls : List (Call Client DataItemId)) :
    (followed freed).Always Follows (.init : Followed Client DataItemId DataItem) calls ↔
      (followed freed).Steps (KeepsUp freed)
        (.init : Followed Client DataItemId DataItem) calls :=
  Machine.always_iff_steps_of_invariant (fun _ call h => h.next call)
    (fun _ _ h hf => follows_next_iff h hf) tracked_init follows_init

/-- A client requests an item and then subscribes to it: the framework hears of the request only. -/
theorem not_always_follows :
    ¬ (followed ⟨⟨id, fun _ => true⟩, ⟨id, fun _ => true⟩⟩).Always Follows
      (.init : Followed ℕ ℕ ℕ)
      [.setSubscriptionObj false, .requestData [0] (some 7), .subscribe [0] (some 7)] := by
  rintro ⟨-, -, -, h⟩
  have hmem := (h rfl).1 (7, 0)
  revert hmem
  decide

end SystemStatusOsObserver
end LocHal
