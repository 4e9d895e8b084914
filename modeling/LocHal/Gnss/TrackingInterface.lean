import LocHal.Gnss.ClientRemoval
import LocHal.Location.HalSessions

/-!
# The adapter as the interface of its clients (`gps/gnss/GnssAdapter.cpp`)

`LocationAPIClientBase` relies on an interface that takes the commands on its sessions in order,
ignores those on a session that it does not run, and answers each of the others once (`Hal`).  The
adapter of `Tracking.lean` serves many clients at once, and what a client hears depends on what the
engine answers and on the sessions of the others.

`adapter_is_interface` says that this does not show: whatever the other clients do and the engine
answers, one client by itself is faced with an interface of that kind, whose live sessions are those
that the adapter has saved for it.
-/

namespace LocHal

/-- An interface takes the commands that it has been sent, and answers the ones on its sessions with
errors of its own choice; the responses are those of one run, oldest first. -/
inductive Hal.Takes (i : HalInterface) : Hal → List (LocationError × ℕ) → Hal → Prop where
  | done {hal : Hal} (hsent : hal.commands i = []) : Takes i hal [] hal
  | answers {hal hal' : Hal} {c : HalCommand} {commands : List HalCommand}
      {responses : List (LocationError × ℕ)} (error : LocationError)
      (hsent : hal.commands i = c :: commands) (hanswers : hal.Answers i c)
      (hrest : Takes i (hal.take i commands (Hal.answered (hal.live i) c error)) responses hal') :
      Takes i hal ((error, c.session) :: responses) hal'
  | ignores {hal hal' : Hal} {c : HalCommand} {commands : List HalCommand}
      {responses : List (LocationError × ℕ)}
      (hsent : hal.commands i = c :: commands) (hignores : ¬ hal.Answers i c)
      (hrest : Takes i (hal.take i commands (hal.live i)) responses hal') :
      Takes i hal responses hal'

namespace GnssAdapter

variable {Client : Type*} [LinearOrder Client]

/-- The command that a message is for a client. -/
def TrackingMsg.command (client : Client) : TrackingMsg Client → Option HalCommand
  | .startTracking c id _ _ => if c = client then some ⟨.startTracking, id, none⟩ else none
  | .updateTracking c id _ _ => if c = client then some ⟨.updateTrackingOptions, id, none⟩ else none
  | .stopTracking c id _ => if c = client then some ⟨.stopTracking, id, none⟩ else none
  | .addClient _ _ | .removeClient _ _ | .restartSessions _ => none

/-- The response that an output is for a client. -/
def TrackingOutput.response (client : Client) : TrackingOutput Client → Option (LocationError × ℕ)
  | .responseCb c err id => if c = client then some (err, id) else none
  | .startFix _ | .stopFix => none

/-- The message leaves the client with its response callback. -/
def TrackingMsg.Keeps (client : Client) : TrackingMsg Client → Prop
  | .addClient c callbacks => c = client → callbacks.responseCb = true
  | .removeClient c _ => c ≠ client
  | _ => True

instance (client : Client) : ∀ msg, Decidable (TrackingMsg.Keeps client msg)
  | .addClient _ _ => inferInstanceAs (Decidable (_ → _))
  | .removeClient _ _ => inferInstanceAs (Decidable (¬ _))
  | .startTracking _ _ _ _ | .updateTracking _ _ _ _ | .stopTracking _ _ _ | .restartSessions _ =>
      isTrue trivial

namespace TrackingState

/-- The client is to be sent responses. -/
def Answered (a : TrackingState Client) (client : Client) : Prop :=
  ∃ callbacks, a.mClientData[client]? = some callbacks ∧ callbacks.responseCb = true

/-! ## The functions that call the engine -/

/-- A call of the engine, or none: it leaves the clients and the sessions alone, and answers
nobody. -/
structure EngineOnly (a : TrackingState Client)
    (r : TrackingState Client × LocationError × List (TrackingOutput Client)) : Prop where
  sessions : r.1.mTrackingSessions = a.mTrackingSessions
  clients : r.1.mClientData = a.mClientData
  silent : ∀ client, r.2.2.filterMap (TrackingOutput.response client) = []

section EngineOnly

variable (a : TrackingState Client) (client : Client) (id : ℕ) (options : LocationOptions)
  (ok : Bool)

lemma engineOnly_startTracking : EngineOnly a (a.startTracking options ok) := by
  cases ok with
  | true => exact ⟨rfl, rfl, fun _ => rfl⟩
  | false => exact ⟨rfl, rfl, fun _ => rfl⟩

lemma engineOnly_stopTracking : EngineOnly a (a.stopTracking ok) := by
  cases ok with
  | true => exact ⟨rfl, rfl, fun _ => rfl⟩
  | false => exact ⟨rfl, rfl, fun _ => rfl⟩

lemma engineOnly_none : EngineOnly a (a, .success, []) := ⟨rfl, rfl, fun _ => rfl⟩

lemma engineOnly_startTrackingMultiplex : EngineOnly a (a.startTrackingMultiplex options ok) := by
  rw [startTrackingMultiplex]
  split_ifs
  · exact engineOnly_startTracking a options ok
  · dsimp only
    split_ifs
    · exact engineOnly_startTracking a options ok
    · exact engineOnly_none a

lemma engineOnly_updateTrackingMultiplex :
    EngineOnly a (a.updateTrackingMultiplex client id options ok) := by
  cases hcurrent : a.mTrackingSessions[(⟨client, id⟩ : LocationSessionKey Client)]? with
  | none =>
      simp only [updateTrackingMultiplex, hcurrent]
      split_ifs
      · exact engineOnly_startTracking a options ok
      · exact engineOnly_none a
  | some current =>
      simp only [updateTrackingMultiplex, hcurrent]
      split_ifs
      · exact engineOnly_startTracking a options ok
      · exact engineOnly_startTracking a options ok
      · exact engineOnly_startTracking a _ ok
      · exact engineOnly_none a

lemma engineOnly_stopTrackingMultiplex : EngineOnly a (a.stopTrackingMultiplex client id ok) := by
  cases hcurrent : a.mTrackingSessions[(⟨client, id⟩ : LocationSessionKey Client)]? with
  | none =>
      simp only [stopTrackingMultiplex, hcurrent]
      split_ifs
      · exact engineOnly_stopTracking a ok
      · exact engineOnly_none a
  | some current =>
      simp only [stopTrackingMultiplex, hcurrent]
      split_ifs
      · exact engineOnly_stopTracking a ok
      · exact engineOnly_startTracking a _ ok
      · exact engineOnly_none a

end EngineOnly

/-! ## One message -/

/-- The client hears of its commands, and these are the sessions that are saved for it. -/
structure Serves (a : TrackingState Client) (client : Client) (live : Finset ℕ) : Prop where
  answered : a.Answered client
  live : ∀ id, id ∈ live ↔ a.isTrackingSession client id = true

section Serves

variable {a : TrackingState Client} {client c : Client} {live : Finset ℕ} {id : ℕ}
  {err : LocationError} {r : TrackingState Client × LocationError × List (TrackingOutput Client)}

lemma response_self (h : a.Answered client) :
    (a.reportResponse client err id).filterMap (TrackingOutput.response client) = [(err, id)] := by
  obtain ⟨callbacks, hcallbacks, hresponse⟩ := h
  simp only [reportResponse, hcallbacks, hresponse, if_true, List.filterMap_cons,
    TrackingOutput.response, List.filterMap_nil]

lemma response_other (hne : c ≠ client) :
    (a.reportResponse c err id).filterMap (TrackingOutput.response client) = [] := by
  rw [reportResponse]
  cases a.mClientData[c]? with
  | none => rfl
  | some callbacks =>
      dsimp only
      split_ifs
      · simp only [List.filterMap_cons, TrackingOutput.response, if_neg hne, List.filterMap_nil]
      · rfl

lemma Serves.of_eq (h : a.Serves client live) {b : TrackingState Client}
    (hclients : b.mClientData = a.mClientData)
    (hsessions : b.mTrackingSessions = a.mTrackingSessions) : b.Serves client live where
  answered := by
    rw [Answered, hclients]
    exact h.answered
  live id := by
    rw [isTrackingSession, hsessions]
    exact h.live id

lemma Serves.engineOnly (h : a.Serves client live) (hr : EngineOnly a r) :
    r.1.Serves client live :=
  h.of_eq hr.clients hr.sessions

lemma isTrackingSession_save (options : LocationOptions) {id' : ℕ} :
    (a.saveTrackingSession c id options).isTrackingSession client id' = true ↔
      (client = c ∧ id' = id) ∨ a.isTrackingSession client id' = true := by
  rw [isTrackingSession, saveTrackingSession, Std.TreeMap.contains_insert, Bool.or_eq_true,
    beq_iff_eq, Std.LawfulEqCmp.compare_eq_iff_eq, LocationSessionKey.mk.injEq, eq_comm,
    @eq_comm _ id]
  exact Iff.rfl

lemma isTrackingSession_erase {id' : ℕ} :
    (a.eraseTrackingSession c id).isTrackingSession client id' = true ↔
      ¬ (client = c ∧ id' = id) ∧ a.isTrackingSession client id' = true := by
  rw [isTrackingSession, eraseTrackingSession, Std.TreeMap.contains_erase, Bool.and_eq_true,
    bne_iff_ne, ne_eq, Std.LawfulEqCmp.compare_eq_iff_eq, LocationSessionKey.mk.injEq, eq_comm,
    @eq_comm _ id]
  exact Iff.rfl

/-- The engine is called for a command of the client, and what it accepts is recorded. -/
lemma Serves.settle (h : a.Serves client live) (hr : EngineOnly a r)
    (f : TrackingState Client → TrackingState Client) (cmd : HalCommand)
    (hf : (f r.1).Serves client (Hal.answered live cmd .success)) :
    (if r.2.1 = .success then f r.1 else r.1).Serves client (Hal.answered live cmd r.2.1) ∧
      (r.2.2 ++ (if r.2.1 = .success then f r.1 else r.1).reportResponse client r.2.1
        cmd.session).filterMap (TrackingOutput.response client) = [(r.2.1, cmd.session)] := by
  have hserves :
      (if r.2.1 = .success then f r.1 else r.1).Serves client (Hal.answered live cmd r.2.1) := by
    split_ifs with hok
    · rw [hok]
      exact hf
    · rw [Hal.answered, if_pos hok]
      exact h.engineOnly hr
  refine ⟨hserves, ?_⟩
  rw [List.filterMap_append, hr.silent, response_self hserves.answered]
  rfl

/-- The engine is called for a command of another client. -/
lemma Serves.settle_other (h : a.Serves client live) (hr : EngineOnly a r)
    (f : TrackingState Client → TrackingState Client) (hf : (f r.1).Serves client live)
    (hne : c ≠ client) :
    (if r.2.1 = .success then f r.1 else r.1).Serves client live ∧
      (r.2.2 ++ (if r.2.1 = .success then f r.1 else r.1).reportResponse c r.2.1
        id).filterMap (TrackingOutput.response client) = [] := by
  constructor
  · split_ifs
    · exact hf
    · exact h.engineOnly hr
  · rw [List.filterMap_append, hr.silent, response_other hne]
    rfl

/-- What a message comes to for the client: the answer to its command, or nothing. -/
def Turn (client : Client) (live : Finset ℕ)
    (r : TrackingState Client × List (TrackingOutput Client)) : Option HalCommand → Prop
  | none => r.1.Serves client live ∧ r.2.filterMap (TrackingOutput.response client) = []
  | some cmd =>
    if cmd.kind.isStart = true ∨ cmd.session ∈ live then
      ∃ err, r.1.Serves client (Hal.answered live cmd err) ∧
        r.2.filterMap (TrackingOutput.response client) = [(err, cmd.session)]
    else r.1.Serves client live ∧ r.2.filterMap (TrackingOutput.response client) = []

/-- The adapter refuses a command of the client by itself. -/
lemma Serves.refuse (h : a.Serves client live) (cmd : HalCommand) (hne : err ≠ .success) :
    a.Serves client (Hal.answered live cmd err) ∧
      (a.reportResponse client err cmd.session).filterMap (TrackingOutput.response client) =
        [(err, cmd.session)] := by
  rw [Hal.answered, if_pos hne]
  exact ⟨h, response_self h.answered⟩

lemma Serves.procStartTracking (h : a.Serves client live) (options : LocationOptions) (ok : Bool) :
    Turn client live (a.procStartTracking c id options ok)
      (TrackingMsg.command client (.startTracking c id options ok)) := by
  have hengine := engineOnly_startTrackingMultiplex a options ok
  rw [TrackingMsg.command]
  by_cases hc : c = client
  · subst hc
    rw [if_pos rfl, Turn, if_pos (.inl rfl), TrackingState.procStartTracking]
    split_ifs
    · exact ⟨_, h.refuse ⟨.startTracking, id, none⟩ (by decide)⟩
    · exact ⟨_, h.refuse ⟨.startTracking, id, none⟩ (by decide)⟩
    · refine ⟨_, h.settle hengine (·.saveTrackingSession c id options)
          ⟨.startTracking, id, none⟩ ⟨?_, fun id' => ?_⟩⟩
      · exact (h.engineOnly hengine).answered
      · rw [isTrackingSession_save, ← (h.engineOnly hengine).live]
        exact Finset.mem_insert.trans (or_congr (and_iff_right rfl).symm Iff.rfl)
  · rw [if_neg hc, Turn, TrackingState.procStartTracking]
    split_ifs
    · exact ⟨h, response_other hc⟩
    · exact ⟨h, response_other hc⟩
    · refine h.settle_other hengine (·.saveTrackingSession c id options) ⟨?_, fun id' => ?_⟩ hc
      · exact (h.engineOnly hengine).answered
      · rw [isTrackingSession_save, ← (h.engineOnly hengine).live,
          or_iff_right fun hsame => hc hsame.1.symm]

lemma Serves.procUpdateTracking (h : a.Serves client live) (options : LocationOptions) (ok : Bool) :
    Turn client live (a.procUpdateTracking c id options ok)
      (TrackingMsg.command client (.updateTracking c id options ok)) := by
  have hengine := engineOnly_updateTrackingMultiplex a c id options ok
  rw [TrackingMsg.command]
  by_cases hc : c = client
  · subst hc
    rw [if_pos rfl, Turn, TrackingState.procUpdateTracking]
    by_cases hlive : id ∈ live
    · rw [if_pos (.inr hlive), if_pos ((h.live id).mp hlive)]
      split_ifs
      · exact ⟨_, h.refuse ⟨.updateTrackingOptions, id, none⟩ (by decide)⟩
      · refine ⟨_, h.settle hengine (·.saveTrackingSession c id options)
          ⟨.updateTrackingOptions, id, none⟩ ⟨?_, fun id' => ?_⟩⟩
        · exact (h.engineOnly hengine).answered
        · rw [isTrackingSession_save, ← (h.engineOnly hengine).live]
          exact (or_iff_right_of_imp fun hid => hid.2 ▸ hlive).symm
    · rw [if_neg fun hor => hlive (hor.resolve_left Bool.false_ne_true),
        if_neg fun hsession => hlive ((h.live id).mpr hsession)]
      exact ⟨h, rfl⟩
  · rw [if_neg hc, Turn, TrackingState.procUpdateTracking]
    split_ifs
    · exact ⟨h, response_other hc⟩
    · refine h.settle_other hengine (·.saveTrackingSession c id options) ⟨?_, fun id' => ?_⟩ hc
      · exact (h.engineOnly hengine).answered
      · rw [isTrackingSession_save, ← (h.engineOnly hengine).live,
          or_iff_right fun hsame => hc hsame.1.symm]
    · exact ⟨h, rfl⟩

lemma Serves.procStopTracking (h : a.Serves client live) (ok : Bool) :
    Turn client live (a.procStopTracking c id ok)
      (TrackingMsg.command client (.stopTracking c id ok)) := by
  have hengine := engineOnly_stopTrackingMultiplex a c id ok
  rw [TrackingMsg.command]
  by_cases hc : c = client
  · subst hc
    rw [if_pos rfl, Turn, TrackingState.procStopTracking]
    by_cases hlive : id ∈ live
    · rw [if_pos (.inr hlive), if_pos ((h.live id).mp hlive)]
      refine ⟨_, h.settle hengine (·.eraseTrackingSession c id)
        ⟨.stopTracking, id, none⟩ ⟨?_, fun id' => ?_⟩⟩
      · exact (h.engineOnly hengine).answered
      · rw [isTrackingSession_erase, ← (h.engineOnly hengine).live]
        exact Finset.mem_erase.trans (and_congr_left fun _ => by rw [and_iff_right rfl])
    · rw [if_neg fun hor => hlive (hor.resolve_left Bool.false_ne_true),
        if_neg fun hsession => hlive ((h.live id).mpr hsession)]
      exact ⟨h, rfl⟩
  · rw [if_neg hc, Turn, TrackingState.procStopTracking]
    split_ifs
    · refine h.settle_other hengine (·.eraseTrackingSession c id) ⟨?_, fun id' => ?_⟩ hc
      · exact (h.engineOnly hengine).answered
      · rw [isTrackingSession_erase, ← (h.engineOnly hengine).live,
          and_iff_right fun hsame => hc hsame.1.symm]
    · exact ⟨h, rfl⟩

/-- The loop over the sessions of a client that goes says nothing to anybody. -/
lemma stopClientSessions_silent (a : TrackingState Client) (c client : Client)
    (ok : LocationSessionKey Client → Bool)
    (l : List (LocationSessionKey Client × LocationOptions)) :
    (stopClientSessions c ok a l).1.mClientData = a.mClientData ∧
      (stopClientSessions c ok a l).2.filterMap (TrackingOutput.response client) = [] := by
  induction l generalizing a with
  | nil => exact ⟨rfl, rfl⟩
  | cons it rest ih =>
      have hengine := engineOnly_stopTrackingMultiplex a it.1.client it.1.id (ok it.1)
      simp only [stopClientSessions]
      split_ifs
      · obtain ⟨hclients, hsilent⟩ := ih
          ((a.stopTrackingMultiplex it.1.client it.1.id (ok it.1)).1.eraseTrackingSession
            it.1.client it.1.id)
        rw [List.filterMap_append, hengine.silent, hsilent]
        exact ⟨hclients.trans hengine.clients, rfl⟩
      · obtain ⟨hclients, hsilent⟩ := ih
          (a.stopTrackingMultiplex it.1.client it.1.id (ok it.1)).1
        rw [List.filterMap_append, hengine.silent, hsilent]
        exact ⟨hclients.trans hengine.clients, rfl⟩
      · exact ih a

lemma Serves.procRemoveClient (h : a.Serves client live) (hne : c ≠ client)
    (ok : LocationSessionKey Client → Bool) :
    Turn client live (a.procRemoveClient c ok) none := by
  obtain ⟨hclients, hsilent⟩ :=
    stopClientSessions_silent a c client ok a.mTrackingSessions.toList
  refine ⟨⟨?_, fun id => ?_⟩, hsilent⟩
  · obtain ⟨callbacks, hcallbacks, hresponse⟩ := h.answered
    refine ⟨callbacks, ?_, hresponse⟩
    simp only [TrackingState.procRemoveClient, eraseClient, hclients,
      Std.TreeMap.getElem?_erase, Std.LawfulEqCmp.compare_eq_iff_eq, if_neg hne]
    exact hcallbacks
  · rw [h.live id, isTrackingSession_iff, isTrackingSession_iff]
    have hsame := @stopClientSessions_getElem?_of_forall _ _ a c ok a.mTrackingSessions.toList
      ⟨client, id⟩ fun it _ hit heq =>
        hne (hit.trans (congrArg LocationSessionKey.client heq).symm)
    rw [← hsame]
    exact Iff.rfl

lemma Serves.restartSessions (h : a.Serves client live) :
    Turn client live a.restartSessions none := by
  rw [TrackingState.restartSessions]
  split_ifs
  · exact ⟨h.of_eq rfl rfl, rfl⟩
  · exact ⟨h.of_eq rfl rfl, rfl⟩

/-- **One message.** -/
lemma Serves.proc (h : a.Serves client live) {msg : TrackingMsg Client}
    (hkeeps : msg.Keeps client) : Turn client live (a.proc msg) (msg.command client) := by
  cases msg with
  | addClient c callbacks =>
      refine ⟨⟨?_, h.live⟩, rfl⟩
      rw [Answered, TrackingState.proc, saveClient]
      simp only [Std.TreeMap.getElem?_insert, Std.LawfulEqCmp.compare_eq_iff_eq]
      by_cases hc : c = client
      · rw [if_pos hc]
        exact ⟨callbacks, rfl, hkeeps hc⟩
      · rw [if_neg hc]
        exact h.answered
  | removeClient c ok => exact h.procRemoveClient hkeeps ok
  | startTracking c id options ok => exact h.procStartTracking options ok
  | updateTracking c id options ok => exact h.procUpdateTracking options ok
  | stopTracking c id ok => exact h.procStopTracking ok
  | restartSessions sessionLost =>
      have hlost : ({ a with mLocApi := if sessionLost then none else a.mLocApi }).Serves
          client live := h.of_eq rfl rfl
      exact hlost.restartSessions

end Serves

end TrackingState

/-! ## Every run -/

open TrackingState

/-- **The adapter as an interface.** In every run of the adapter that keeps the client, the
responses that the client gets are those that an interface gives to the commands of the client when
it takes them one by one, and the sessions that the adapter has saved for the client are those that
are live at that interface. -/
theorem adapter_is_interface (client : Client) (msgs : List (TrackingMsg Client))
    (hkeeps : ∀ msg ∈ msgs, msg.Keeps client) (a : TrackingState Client)
    (hanswered : a.Answered client) (hal : Hal)
    (hsent : hal.commands .gnss = msgs.filterMap (TrackingMsg.command client))
    (hlive : ∀ id, id ∈ hal.live .gnss ↔ a.isTrackingSession client id = true) :
    ∃ hal', Hal.Takes .gnss hal (((TrackingState.machine Client).outs a msgs).filterMap
        (TrackingOutput.response client)) hal' ∧
      ∀ id, id ∈ hal'.live .gnss ↔
        ((TrackingState.machine Client).run a msgs).isTrackingSession client id = true := by
  induction msgs generalizing a hal with
  | nil => exact ⟨hal, .done hsent, hlive⟩
  | cons msg msgs ih =>
      obtain ⟨hkeep, hkeeps⟩ := List.forall_mem_cons.mp hkeeps
      have hserves : a.Serves client (hal.live .gnss) := ⟨hanswered, hlive⟩
      have hturn := hserves.proc hkeep
      have houts : ((TrackingState.machine Client).outs a (msg :: msgs)).filterMap
          (TrackingOutput.response client) =
          (a.proc msg).2.filterMap (TrackingOutput.response client) ++
            ((TrackingState.machine Client).outs (a.proc msg).1 msgs).filterMap
              (TrackingOutput.response client) := List.filterMap_append
      have hrun : (TrackingState.machine Client).run a (msg :: msgs) =
          (TrackingState.machine Client).run (a.proc msg).1 msgs := rfl
      rw [houts, hrun]
      cases hcmd : msg.command client with
      | none =>
          rw [hcmd] at hturn
          rw [List.filterMap_cons_none hcmd] at hsent
          rw [hturn.2]
          exact ih hkeeps _ hturn.1.answered hal hsent hturn.1.live
      | some cmd =>
          rw [hcmd, Turn] at hturn
          rw [List.filterMap_cons_some hcmd] at hsent
          set commands := msgs.filterMap (TrackingMsg.command client)
          have htaken : ∀ live, (hal.take .gnss commands live).commands .gnss = commands ∧
              (hal.take .gnss commands live).live .gnss = live := by
            intro live
            rw [Hal.commands_take, Hal.live_take, if_pos rfl, if_pos rfl]
            exact ⟨rfl, rfl⟩
          by_cases hans : cmd.kind.isStart = true ∨ cmd.session ∈ hal.live .gnss
          · rw [if_pos hans] at hturn
            obtain ⟨err, hnext, hresponse⟩ := hturn
            obtain ⟨hsent', hlive'⟩ := htaken (Hal.answered (hal.live .gnss) cmd err)
            obtain ⟨hal', htakes, hsame⟩ :=
              ih hkeeps _ hnext.answered _ hsent' fun id => by rw [hlive', hnext.live]
            rw [hresponse]
            exact ⟨hal', .answers err hsent hans htakes, hsame⟩
          · rw [if_neg hans] at hturn
            obtain ⟨hnext, hresponse⟩ := hturn
            obtain ⟨hsent', hlive'⟩ := htaken (hal.live .gnss)
            obtain ⟨hal', htakes, hsame⟩ :=
              ih hkeeps _ hnext.answered _ hsent' fun id => by rw [hlive', hnext.live]
            rw [hresponse]
            exact ⟨hal', .ignores hsent hans htakes, hsame⟩

/-- Client 1 tracks next to client 2, whom the engine refuses. -/
theorem adapter_is_interface_two_clients :
    let msgs : List (TrackingMsg ℕ) := [.startTracking 1 5 { size := 1 } true,
      .addClient 2 ⟨true, false, true⟩, .startTracking 2 6 { size := 1 } false,
      .updateTracking 1 6 { size := 1 } true, .stopTracking 1 5 true]
    let a : TrackingState ℕ := TrackingState.init.saveClient 1 ⟨true, false, true⟩
    let hal : Hal := ⟨7, fun _ => msgs.filterMap (TrackingMsg.command 1), fun _ => ∅⟩
    ∃ hal', Hal.Takes .gnss hal (((TrackingState.machine ℕ).outs a msgs).filterMap
        (TrackingOutput.response 1)) hal' ∧
      ∀ id, id ∈ hal'.live .gnss ↔
        ((TrackingState.machine ℕ).run a msgs).isTrackingSession 1 id = true :=
  adapter_is_interface 1 _ (by decide) _
    ⟨⟨true, false, true⟩, Std.TreeMap.getElem?_insert_self, rfl⟩ _ rfl
    fun id => iff_of_false (Finset.notMem_empty id)
      (by rw [isTrackingSession_iff]; rintro ⟨current, h⟩; cases h)

end GnssAdapter
end LocHal
