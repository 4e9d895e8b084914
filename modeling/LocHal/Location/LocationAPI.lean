import LocHal.Lib.Machine
import Mathlib.Logic.Function.Basic

/-!
# Clients of the location interfaces (`gps/location/LocationAPI.cpp`)

A `LocationAPI` is a client of those HAL interfaces that its callbacks are for.  It is added to them
when it is created and, with new callbacks, at each update, and it is removed when it is destroyed:
from the interfaces that the callbacks it was given last are for.

`always_registered_iff`: no client stays registered after its end exactly as long as each client is
destroyed with callbacks for all the interfaces that it has had callbacks for.
-/

namespace LocHal

/-- The HAL interfaces. -/
inductive LocationInterface where
  | gnss
  | flp
  | geofence
deriving DecidableEq, Repr

/-- The interfaces in the order in which they are dealt with. -/
def LocationInterface.all : List LocationInterface := [.gnss, .flp, .geofence]

lemma LocationInterface.mem_all (i : LocationInterface) : i ∈ all := by
  cases i with
  | gnss | flp | geofence => decide

/-- `LocationCallbacks`: which of them are set. -/
structure LocationCallbacks where
  capabilitiesCb : Bool
  responseCb : Bool
  collectiveResponseCb : Bool
  trackingCb : Bool
  batchingCb : Bool
  geofenceBreachCb : Bool
  geofenceStatusCb : Bool
  gnssNiCb : Bool
  gnssMeasurementsCb : Bool
deriving DecidableEq, Repr

namespace LocationCallbacks

/-- `isGnssClient`. -/
def isGnssClient (callbacks : LocationCallbacks) : Bool :=
  callbacks.gnssNiCb || callbacks.trackingCb || callbacks.gnssMeasurementsCb

/-- `isFlpClient`. -/
def isFlpClient (callbacks : LocationCallbacks) : Bool :=
  callbacks.trackingCb || callbacks.batchingCb

/-- `isGeofenceClient`. -/
def isGeofenceClient (callbacks : LocationCallbacks) : Bool :=
  callbacks.geofenceBreachCb || callbacks.geofenceStatusCb

/-- The callbacks are for the interface. -/
def isClientOf (callbacks : LocationCallbacks) : LocationInterface → Bool
  | .gnss => callbacks.isGnssClient
  | .flp => callbacks.isFlpClient
  | .geofence => callbacks.isGeofenceClient

/-- The callbacks that every client must have are there. -/
def accepted (callbacks : LocationCallbacks) : Bool :=
  callbacks.capabilitiesCb && callbacks.responseCb && callbacks.collectiveResponseCb

end LocationCallbacks

/-- `LocationAPIData` with the flags beside it, and, for each interface, the clients that it has.
The callback sets that each client has been given since it was created are kept too; no code reads
them, and a client that does not exist has none. -/
structure LocationAPIData (Client : Type*) where
  clientData : Client → Option LocationCallbacks
  loaded : LocationInterface → Bool
  loadFailed : LocationInterface → Bool
  registered : LocationInterface → Client → Bool
  given : Client → List LocationCallbacks

namespace LocationAPIData

variable {Client : Type*}

/-- What is observed: the calls of the interfaces. -/
inductive Output (Client : Type*) where
  | interfaceInitialize (i : LocationInterface)
  | addClient (i : LocationInterface) (client : Client)
  | requestCapabilities (i : LocationInterface) (client : Client)
  | removeClient (i : LocationInterface) (client : Client)
deriving DecidableEq, Repr

/-- No clients, and nothing loaded. -/
def init : LocationAPIData Client :=
  ⟨fun _ => none, fun _ => false, fun _ => false, fun _ _ => false, fun _ => []⟩

/-- `loadLocationInterface`, where it is called; `available` says which libraries there are. -/
def loadLocationInterface (available : LocationInterface → Bool) (g : LocationAPIData Client)
    (i : LocationInterface) : LocationAPIData Client × List (Output Client) :=
  if g.loaded i = false ∧ g.loadFailed i = false then
    if available i then ({ g with loaded := Function.update g.loaded i true }, [.interfaceInitialize i])
    else ({ g with loadFailed := Function.update g.loadFailed i true }, [])
  else (g, [])

variable [DecidableEq Client]

/-- The interface gets a new client, or new callbacks for one that it has. -/
def register (g : LocationAPIData Client) (i : LocationInterface) (client : Client) :
    LocationAPIData Client :=
  { g with registered := fun i' c =>
      if i' = i ∧ c = client then true else g.registered i' c }

/-- The interface forgets a client. -/
def unregister (g : LocationAPIData Client) (i : LocationInterface) (client : Client) :
    LocationAPIData Client :=
  { g with registered := fun i' c =>
      if i' = i ∧ c = client then false else g.registered i' c }

/-- One of the three parts of `createInstance` and `updateCallbacks`; `request` says whether the
capabilities are still to be requested. -/
def addClient (available : LocationInterface → Bool) (client : Client)
    (callbacks : LocationCallbacks)
    (acc : (LocationAPIData Client × Bool) × List (Output Client)) (i : LocationInterface) :
    (LocationAPIData Client × Bool) × List (Output Client) :=
  let ((g, request), outs) := acc
  if callbacks.isClientOf i then
    let (g, initialized) := g.loadLocationInterface available i
    if g.loaded i then
      ((g.register i client, false), outs ++ initialized ++ [.addClient i client] ++
        if request then [.requestCapabilities i client] else [])
    else ((g, request), outs ++ initialized)
  else acc

/-- The callbacks of a client are stored. -/
def store (g : LocationAPIData Client) (client : Client) (callbacks : LocationCallbacks) :
    LocationAPIData Client :=
  { g with
    clientData := Function.update g.clientData client (some callbacks)
    given := Function.update g.given client (g.given client ++ [callbacks]) }

/-- What `createInstance` and `updateCallbacks` have in common. -/
def addToInterfaces (available : LocationInterface → Bool) (request : Bool)
    (g : LocationAPIData Client) (client : Client) (callbacks : LocationCallbacks) :
    LocationAPIData Client × List (Output Client) :=
  if callbacks.accepted then
    let added := LocationInterface.all.foldl (addClient available client callbacks)
      ((g, request), [])
    (added.1.1.store client callbacks, added.2)
  else (g, [])

/-- `createInstance`, with the address of the new object; no object is made for callbacks that are
not accepted. -/
def createInstance (available : LocationInterface → Bool) (g : LocationAPIData Client)
    (newLocationAPI : Client) (locationCallbacks : LocationCallbacks) :
    LocationAPIData Client × List (Output Client) :=
  g.addToInterfaces available true newLocationAPI locationCallbacks

/-- `updateCallbacks`. -/
def updateCallbacks (available : LocationInterface → Bool) (g : LocationAPIData Client)
    (client : Client) (locationCallbacks : LocationCallbacks) :
    LocationAPIData Client × List (Output Client) :=
  g.addToInterfaces available false client locationCallbacks

/-- One of the three parts of the destructor. -/
def removeClient (client : Client) (callbacks : LocationCallbacks)
    (acc : LocationAPIData Client × List (Output Client)) (i : LocationInterface) :
    LocationAPIData Client × List (Output Client) :=
  if callbacks.isClientOf i ∧ acc.1.loaded i then
    (acc.1.unregister i client, acc.2 ++ [.removeClient i client])
  else acc

/-- `destroy`. -/
def destroy (g : LocationAPIData Client) (client : Client) :
    LocationAPIData Client × List (Output Client) :=
  match g.clientData client with
  | some callbacks =>
      let removed := LocationInterface.all.foldl (removeClient client callbacks) (g, [])
      ({ removed.1 with
          clientData := Function.update removed.1.clientData client none
          given := Function.update removed.1.given client [] }, removed.2)
  | none => (g, [])

/-- A call of a client, or of someone who becomes one. -/
inductive Event (Client : Type*) where
  | createInstance (newLocationAPI : Client) (locationCallbacks : LocationCallbacks)
  | updateCallbacks (client : Client) (locationCallbacks : LocationCallbacks)
  | destroy (client : Client)
deriving DecidableEq, Repr

/-- One call. -/
def step (available : LocationInterface → Bool) (g : LocationAPIData Client) :
    Event Client → LocationAPIData Client × List (Output Client)
  | .createInstance newLocationAPI locationCallbacks =>
      g.createInstance available newLocationAPI locationCallbacks
  | .updateCallbacks client locationCallbacks =>
      g.updateCallbacks available client locationCallbacks
  | .destroy client => g.destroy client

/-- The interfaces and their clients as a machine. -/
def machine (available : LocationInterface → Bool) :
    Machine (LocationAPIData Client) (Event Client) (Output Client) :=
  ⟨step available⟩

/-- The client has been created and not destroyed. -/
def Exists (g : LocationAPIData Client) (client : Client) : Prop := g.given client ≠ []

instance (g : LocationAPIData Client) (client : Client) : Decidable (g.Exists client) :=
  inferInstanceAs (Decidable (_ ≠ _))

/-- Objects are created where there is none, and are used while they exist. -/
def UsesObjects (g : LocationAPIData Client) : Event Client → Prop
  | .createInstance newLocationAPI _ => ¬ g.Exists newLocationAPI
  | .updateCallbacks client _ => g.Exists client
  | .destroy client => g.Exists client

instance (g : LocationAPIData Client) : ∀ e, Decidable (g.UsesObjects e)
  | .createInstance _ _ => inferInstanceAs (Decidable (¬ _))
  | .updateCallbacks _ _ | .destroy _ => inferInstanceAs (Decidable (g.Exists _))

/-- Only clients that exist are registered with an interface, and `clientData` is for just these. -/
def Registered (g : LocationAPIData Client) : Prop :=
  (∀ client, (g.clientData client).isSome ↔ g.Exists client) ∧
    ∀ i client, g.registered i client = true → g.Exists client

/-- A client is destroyed when the callbacks it was given last are for all interfaces (of those
that are available) which some callbacks it was given before were for. -/
def KeepsKinds (available : LocationInterface → Bool) (g : LocationAPIData Client) :
    Event Client → Prop
  | .destroy client => ∀ i ∈ LocationInterface.all, available i = true →
      ∀ callbacks ∈ g.given client, callbacks.isClientOf i = true →
        ∃ last ∈ (g.given client).getLast?, last.isClientOf i = true
  | _ => True

instance (available : LocationInterface → Bool) (g : LocationAPIData Client) :
    ∀ e, Decidable (KeepsKinds available g e)
  | .destroy _ => inferInstanceAs (Decidable (∀ i ∈ LocationInterface.all, _))
  | .createInstance _ _ | .updateCallbacks _ _ => isTrue trivial

/-! ## One call -/

section Step

variable {available : LocationInterface → Bool} {g g' : LocationAPIData Client} {client : Client}
  {callbacks : LocationCallbacks} {i : LocationInterface}

/-- What has been loaded is available, and what could not be is not. -/
structure Loads (available : LocationInterface → Bool) (g : LocationAPIData Client) : Prop where
  loaded : ∀ i, g.loaded i = true → available i = true
  loadFailed : ∀ i, g.loadFailed i = true → available i = false

omit [DecidableEq Client] in
/-- After an attempt to load it, an interface is loaded if it is available. -/
lemma Loads.load (h : Loads available g) (i : LocationInterface) :
    Loads available (g.loadLocationInterface available i).1 ∧
      (g.loadLocationInterface available i).1.loaded i = available i := by
  unfold loadLocationInterface
  split
  · split
    · rename_i ha
      refine ⟨⟨fun i' hi' => ?_, h.loadFailed⟩, ?_⟩
      · by_cases heq : i' = i
        · rwa [heq]
        · exact h.loaded i' (by simpa [Function.update_of_ne heq] using hi')
      · simp [ha]
    · rename_i hnew ha
      refine ⟨⟨h.loaded, fun i' hi' => ?_⟩, ?_⟩
      · by_cases heq : i' = i
        · rwa [heq, ← Bool.not_eq_true]
        · exact h.loadFailed i' (by simpa [Function.update_of_ne heq] using hi')
      · simp [hnew.1, ha]
  · rename_i hold
    refine ⟨h, ?_⟩
    cases hl : g.loaded i with
    | true => exact (h.loaded i hl).symm
    | false =>
        have hf : g.loadFailed i = true := by
          by_contra hf
          exact hold ⟨hl, by simpa using hf⟩
        exact (h.loadFailed i hf).symm

omit [DecidableEq Client] in
lemma loaded_load {i' : LocationInterface} (h : g.loaded i' = true) :
    (g.loadLocationInterface available i).1.loaded i' = true := by
  unfold loadLocationInterface
  split
  · split
    · by_cases heq : i' = i
      · simp [heq]
      · simpa [Function.update_of_ne heq] using h
    · exact h
  · exact h

omit [DecidableEq Client] in
lemma load_eq (available : LocationInterface → Bool) (g : LocationAPIData Client)
    (i : LocationInterface) :
    (g.loadLocationInterface available i).1.clientData = g.clientData ∧
      (g.loadLocationInterface available i).1.registered = g.registered ∧
      (g.loadLocationInterface available i).1.given = g.given := by
  unfold loadLocationInterface
  split
  · split
    · exact ⟨rfl, rfl, rfl⟩
    · exact ⟨rfl, rfl, rfl⟩
  · exact ⟨rfl, rfl, rfl⟩

/-- What adding a client with its callbacks to some interfaces leads to. -/
structure Added (available : LocationInterface → Bool) (client : Client)
    (callbacks : LocationCallbacks) (interfaces : List LocationInterface)
    (g g' : LocationAPIData Client) : Prop where
  clientData : g'.clientData = g.clientData
  given : g'.given = g.given
  loads : Loads available g'
  stays : ∀ i, g.loaded i = true → g'.loaded i = true
  loaded : ∀ i ∈ interfaces, callbacks.isClientOf i = true → available i = true →
    g'.loaded i = true
  registered : ∀ i c, g'.registered i c = true ↔ g.registered i c = true ∨
    c = client ∧ i ∈ interfaces ∧ callbacks.isClientOf i = true ∧ available i = true

lemma register_registered (g : LocationAPIData Client) (i i' : LocationInterface) (c : Client) :
    (g.register i client).registered i' c = true ↔
      i' = i ∧ c = client ∨ g.registered i' c = true := by
  simp only [register]
  split
  · rename_i h
    simp [h]
  · rename_i h
    simp [h]

lemma added_addClient (client : Client) (callbacks : LocationCallbacks)
    (hloads : Loads available g) (request : Bool) (outs : List (Output Client))
    (i : LocationInterface) :
    Added available client callbacks [i] g
      (addClient available client callbacks ((g, request), outs) i).1.1 := by
  obtain ⟨hloads', hloaded⟩ := hloads.load i
  obtain ⟨hdata, hreg, hgiven⟩ := load_eq available g i
  unfold addClient
  simp only []
  split
  · rename_i hfor
    split
    · rename_i hl
      rw [hloaded] at hl
      refine ⟨hdata, hgiven, ⟨hloads'.loaded, hloads'.loadFailed⟩, fun i' hi' => loaded_load hi',
        fun i' hi' _ ha => ?_, fun i' c => ?_⟩
      · rw [List.mem_singleton.mp hi'] at ha ⊢
        exact hloaded.trans ha
      rw [register_registered, hreg, or_comm, List.mem_singleton]
      refine or_congr_right ⟨?_, fun h => ⟨h.2.1, h.1⟩⟩
      rintro ⟨rfl, rfl⟩
      exact ⟨rfl, rfl, hfor, hl⟩
    · rename_i hl
      rw [hloaded] at hl
      refine ⟨hdata, hgiven, hloads', fun i' hi' => loaded_load hi', fun i' hi' _ ha => ?_,
        fun i' c => ?_⟩
      · rw [List.mem_singleton.mp hi'] at ha
        exact absurd ha hl
      simp only [hreg, List.mem_singleton]
      refine (or_iff_left ?_).symm
      rintro ⟨-, rfl, -, ha⟩
      exact hl ha
  · rename_i hfor
    refine ⟨rfl, rfl, hloads, fun i' hi' => hi', fun i' hi' hfor' _ => ?_, fun i' c => ?_⟩
    · rw [List.mem_singleton.mp hi'] at hfor'
      exact absurd hfor' hfor
    refine (or_iff_left ?_).symm
    rintro ⟨-, hi, hfor', -⟩
    rw [List.mem_singleton.mp hi] at hfor'
    exact hfor hfor'

lemma added_foldl (client : Client) (callbacks : LocationCallbacks) (hloads : Loads available g)
    (request : Bool) (outs : List (Output Client)) (interfaces : List LocationInterface) :
    Added available client callbacks interfaces g
      (interfaces.foldl (addClient available client callbacks) ((g, request), outs)).1.1 := by
  induction interfaces generalizing g request outs with
  | nil => exact ⟨rfl, rfl, hloads, fun _ h => h, by simp, by simp⟩
  | cons i interfaces ih =>
      have hone := added_addClient client callbacks hloads request outs i
      rcases hacc : addClient available client callbacks ((g, request), outs) i with
        ⟨⟨g1, request1⟩, outs1⟩
      rw [hacc] at hone
      have hrest := ih hone.loads request1 outs1
      rw [List.foldl_cons, hacc]
      refine ⟨hrest.clientData.trans hone.clientData, hrest.given.trans hone.given, hrest.loads,
        fun i' hi' => hrest.stays i' (hone.stays i' hi'), fun i' hi' hfor ha => ?_, fun i' c => ?_⟩
      · rcases List.mem_cons.mp hi' with rfl | hmem
        · exact hrest.stays i' (hone.loaded i' (List.mem_singleton_self _) hfor ha)
        · exact hrest.loaded i' hmem hfor ha
      rw [hrest.registered, hone.registered, List.mem_singleton, List.mem_cons, or_assoc,
        ← and_or_left, ← or_and_right]

/-- What removing a client from some interfaces leads to. -/
structure Removed (client : Client) (callbacks : LocationCallbacks)
    (interfaces : List LocationInterface) (g g' : LocationAPIData Client) : Prop where
  clientData : g'.clientData = g.clientData
  given : g'.given = g.given
  loaded : g'.loaded = g.loaded
  loadFailed : g'.loadFailed = g.loadFailed
  registered : ∀ i c, g'.registered i c = true ↔ g.registered i c = true ∧
    ¬ (c = client ∧ i ∈ interfaces ∧ callbacks.isClientOf i = true ∧ g.loaded i = true)

lemma removed_foldl (client : Client) (callbacks : LocationCallbacks)
    (g : LocationAPIData Client) (outs : List (Output Client)) (interfaces : List LocationInterface) :
    Removed client callbacks interfaces g
      (interfaces.foldl (removeClient client callbacks) (g, outs)).1 := by
  induction interfaces generalizing g outs with
  | nil => exact ⟨rfl, rfl, rfl, rfl, by simp⟩
  | cons i interfaces ih =>
      rw [List.foldl_cons, removeClient]
      split
      · rename_i hi
        have hrest := ih (g.unregister i client) (outs ++ [.removeClient i client])
        refine ⟨hrest.clientData, hrest.given, hrest.loaded, hrest.loadFailed, fun i' c => ?_⟩
        rw [hrest.registered, List.mem_cons]
        simp only [unregister]
        split
        · rename_i heq
          obtain ⟨rfl, rfl⟩ := heq
          have hloaded : g.loaded i' = true := hi.2
          simp [hi.1, hloaded]
        · rename_i hne
          refine and_congr_right fun _ => not_congr ?_
          refine and_congr_right fun hc => and_congr_left fun _ => ?_
          exact (or_iff_right fun hi' => hne ⟨hi', hc⟩).symm
      · rename_i hi
        have hrest := ih g outs
        refine ⟨hrest.clientData, hrest.given, hrest.loaded, hrest.loadFailed, fun i' c => ?_⟩
        rw [hrest.registered, List.mem_cons]
        refine and_congr_right fun _ => not_congr (and_congr_right fun _ => ?_)
        constructor
        · rintro ⟨hmem, h⟩
          exact ⟨.inr hmem, h⟩
        · rintro ⟨rfl | hmem, h⟩
          · exact absurd h hi
          · exact ⟨hmem, h⟩

/-- What holds between calls: the callbacks stored for a client are those it was given last, and it
is registered with the available interfaces that callbacks it was given are for. -/
structure Sound (available : LocationInterface → Bool) (g : LocationAPIData Client) : Prop where
  loads : Loads available g
  clientData : ∀ client, g.clientData client = (g.given client).getLast?
  registered : ∀ i client, g.registered i client = true ↔
    available i = true ∧ ∃ callbacks ∈ g.given client, callbacks.isClientOf i = true
  loaded : ∀ i client, g.registered i client = true → g.loaded i = true

omit [DecidableEq Client] in
lemma sound_init (available : LocationInterface → Bool) :
    (init : LocationAPIData Client).Sound available where
  loads := ⟨fun i h => absurd h Bool.false_ne_true, fun i h => absurd h Bool.false_ne_true⟩
  clientData client := rfl
  registered i client := by simp [init]
  loaded i client h := by cases h

omit [DecidableEq Client] in
/-- A client exists if callbacks are stored for it. -/
lemma Sound.isSome_iff (h : g.Sound available) (client : Client) :
    (g.clientData client).isSome ↔ g.Exists client := by
  rw [h.clientData, List.getLast?_isSome]
  rfl

/-- Callbacks that are not accepted change nothing. -/
lemma sound_addToInterfaces (h : g.Sound available) (request : Bool) (client : Client)
    (callbacks : LocationCallbacks) :
    (g.addToInterfaces available request client callbacks).1.Sound available := by
  unfold addToInterfaces
  split
  · have hadded := added_foldl client callbacks h.loads request []
      LocationInterface.all
    refine ⟨⟨hadded.loads.loaded, hadded.loads.loadFailed⟩, fun c => ?_, fun i c => ?_,
      fun i c hreg => ?_⟩
    · simp only [store, hadded.clientData, hadded.given]
      by_cases hc : c = client
      · subst hc
        simp
      · simp only [Function.update_of_ne hc]
        exact h.clientData c
    · simp only [store, hadded.given, hadded.registered, h.registered,
        LocationInterface.mem_all, true_and]
      by_cases hc : c = client
      · subst hc
        simp only [Function.update_self, List.mem_append, List.mem_singleton, true_and]
        constructor
        · rintro (⟨ha, cb, hcb, hfor⟩ | ⟨hfor, ha⟩)
          · exact ⟨ha, cb, .inl hcb, hfor⟩
          · exact ⟨ha, callbacks, .inr rfl, hfor⟩
        · rintro ⟨ha, cb, hcb | rfl, hfor⟩
          · exact .inl ⟨ha, cb, hcb, hfor⟩
          · exact .inr ⟨hfor, ha⟩
      · simp only [Function.update_of_ne hc]
        exact or_iff_left fun heq => hc heq.1
    · rcases (hadded.registered i c).mp hreg with hold | ⟨-, hi, hfor, ha⟩
      · exact hadded.stays i (h.loaded i c hold)
      · exact hadded.loaded i hi hfor ha
  · exact h

/-- The end of a client that exists. -/
lemma destroy_eq {last : LocationCallbacks} (hlast : g.clientData client = some last) :
    ∃ removed : LocationAPIData Client, Removed client last LocationInterface.all g removed ∧
      (g.destroy client).1 = { removed with
        clientData := Function.update g.clientData client none
        given := Function.update g.given client [] } := by
  have hremoved := removed_foldl client last g []
    LocationInterface.all
  refine ⟨_, hremoved, ?_⟩
  simp only [destroy, hlast, hremoved.clientData, hremoved.given]

omit [DecidableEq Client] in
lemma Sound.isRegistered (h : g.Sound available) : g.Registered := by
  refine ⟨h.isSome_iff, fun i c hreg hnone => ?_⟩
  obtain ⟨-, callbacks, hmem, -⟩ := (h.registered i c).mp hreg
  rw [hnone] at hmem
  cases hmem

/-- A destroyed client is removed from everywhere when its last callbacks are for all its
interfaces. -/
lemma Sound.destroy (h : g.Sound available) (hexists : g.Exists client)
    (hkeeps : KeepsKinds available g (.destroy client)) : (g.destroy client).1.Sound available := by
  obtain ⟨last, hlast⟩ := Option.isSome_iff_exists.mp ((h.isSome_iff client).mpr hexists)
  obtain ⟨removed, hremoved, heq⟩ := destroy_eq hlast
  have hreg : ∀ i c, removed.registered i c = true ↔ g.registered i c = true ∧ c ≠ client := by
    intro i c
    rw [hremoved.registered]
    refine and_congr_right fun hold => not_congr ?_
    refine ⟨fun hc => hc.1, fun hc => ⟨hc, i.mem_all, ?_, h.loaded i c hold⟩⟩
    obtain ⟨ha, callbacks, hmem, hfor⟩ := (h.registered i c).mp hold
    rw [hc] at hmem
    obtain ⟨last', hlast', hfor'⟩ := hkeeps i i.mem_all ha callbacks hmem hfor
    rw [← h.clientData, hlast] at hlast'
    rwa [Option.some.inj hlast']
  rw [heq]
  refine ⟨⟨?_, ?_⟩, fun c => ?_, fun i c => ?_, fun i c hreg' => ?_⟩
  · rw [hremoved.loaded]
    exact h.loads.loaded
  · rw [hremoved.loadFailed]
    exact h.loads.loadFailed
  · by_cases hc : c = client
    · simp [hc]
    · simp only [Function.update_of_ne hc]
      exact h.clientData c
  · simp only [hreg]
    by_cases hc : c = client
    · simp [hc]
    · simp only [Function.update_of_ne hc, ne_eq, hc, not_false_eq_true, and_true]
      exact h.registered i c
  · rw [hremoved.loaded]
    exact h.loaded i c ((hreg i c).mp hreg').1

/-- A client that is destroyed with callbacks which are not for one of its interfaces stays
registered there. -/
lemma Sound.keepsKinds_of_registered (h : g.Sound available) (hexists : g.Exists client)
    (hreg : (g.destroy client).1.Registered) : KeepsKinds available g (.destroy client) := by
  obtain ⟨last, hlast⟩ := Option.isSome_iff_exists.mp ((h.isSome_iff client).mpr hexists)
  obtain ⟨removed, hremoved, heq⟩ := destroy_eq hlast
  rintro i - ha callbacks hmem hfor
  refine ⟨last, by rw [← h.clientData, hlast]; rfl, ?_⟩
  by_contra hno
  have hstays : removed.registered i client = true :=
    (hremoved.registered i client).mpr
      ⟨(h.registered i client).mpr ⟨ha, callbacks, hmem, hfor⟩, fun hgone => hno hgone.2.2.1⟩
  rw [heq] at hreg
  exact hreg.2 i client hstays (by simp)

/-- **One call** leaves nobody registered who does not exist, exactly when a client that is
destroyed has callbacks for all its interfaces. -/
lemma Sound.registered_next_iff (h : g.Sound available) {e : Event Client}
    (he : g.UsesObjects e) :
    ((machine available).next g e).Registered ↔ KeepsKinds available g e := by
  cases e with
  | createInstance newLocationAPI locationCallbacks =>
      exact iff_of_true (sound_addToInterfaces h true _ _).isRegistered trivial
  | updateCallbacks client locationCallbacks =>
      exact iff_of_true (sound_addToInterfaces h false _ _).isRegistered trivial
  | destroy client =>
      exact ⟨h.keepsKinds_of_registered he, fun hkeeps => (h.destroy he hkeeps).isRegistered⟩

lemma Sound.next (h : g.Sound available) {e : Event Client} (he : g.UsesObjects e)
    (hreg : ((machine available).next g e).Registered) :
    ((machine available).next g e).Sound available := by
  cases e with
  | createInstance newLocationAPI locationCallbacks => exact sound_addToInterfaces h true _ _
  | updateCallbacks client locationCallbacks => exact sound_addToInterfaces h false _ _
  | destroy client => exact h.destroy he (h.keepsKinds_of_registered he hreg)

end Step

/-! ## Every run -/

/-- **Registered clients are live clients**, in every state of a run in which objects are used while
they exist: exactly when every client is destroyed with callbacks for all the interfaces (of those
available) that it has been given callbacks for. -/
theorem always_registered_iff (available : LocationInterface → Bool) (events : List (Event Client))
    (huses : (machine available).Steps UsesObjects init events) :
    (machine available).Always Registered init events ↔
      (machine available).Steps (KeepsKinds available) init events := by
  rw [Machine.always_iff_steps_next, and_iff_right (sound_init available).isRegistered]
  exact Machine.steps_iff_steps (P := Sound available) (fun _ _ h he => h.registered_next_iff he)
    (fun _ _ h he hreg => h.next he hreg) (sound_init available) huses

/-- A client that tracks, and then does nothing but batching: it is an FLP client all along, but the
GNSS interface keeps it. -/
theorem registered_after_destroy :
    ¬ (machine fun _ => true).Always Registered (init : LocationAPIData ℕ)
      [.createInstance 0 ⟨true, true, true, true, false, false, false, false, false⟩,
        .updateCallbacks 0 ⟨true, true, true, false, true, false, false, false, false⟩,
        .destroy 0] := by
  intro h
  have hlast := (Machine.always_iff_prefix.mp h _ (List.prefix_refl _)).2 .gnss 0 (by decide)
  exact hlast (by decide)

/-- A client that adds a geofence callback to its tracking. -/
theorem always_registered_widened :
    (machine fun _ => true).Always Registered (init : LocationAPIData ℕ)
      [.createInstance 0 ⟨true, true, true, true, false, false, false, false, false⟩,
        .updateCallbacks 0 ⟨true, true, true, true, false, true, false, false, false⟩,
        .destroy 0] :=
  (always_registered_iff _ _ (by decide)).mpr (by decide)

end LocationAPIData
end LocHal
