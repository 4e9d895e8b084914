import LocHal.Lib.Machine
import LocHal.Location.LocationTypes
import Mathlib.Algebra.Ring.Nat
import Mathlib.Tactic.SplitIfs

/-!
# The cached SUPL server (`gps/gnss/GnssAdapter.cpp`)

`setSuplHostServer` formats the host and the port into a buffer and sends the URL to the engine
only when it differs from `mServerUrl`.  The cache is overwritten before the engine has answered,
and the length handed over is the one `snprintf` returns, which is that of the whole text also when
the buffer has cut it off.

A C string is the list of its characters before the terminating `NUL`.
-/

namespace LocHal

/-- `strncasecmp(a, b, n) == 0`. -/
def sameIgnoringCase (n : ℕ) (a b : List Char) : Bool :=
  (a.map Char.toLower).take n = (b.map Char.toLower).take n

/-- `snprintf` of a text into a buffer of `size` bytes: the string stored and the number returned,
which is the length of the text, or negative when that is no `int`. -/
def snprintf (size : ℕ) (text : List Char) : List Char × ℤ :=
  (text.take (size - 1), if text.length < 2 ^ 31 then text.length else -1)

namespace SuplHostServer

/-- `MAX_URL_LEN`. -/
def maxUrlLen : ℕ := 256

/-- `noHost`. -/
def noHost : List Char := ['N', 'O', 'N', 'E']

/-- `mServerUrl` as the constructor of the adapter sets it. -/
def initialUrl : List Char := [':']

/-- One call: `AGPS_CONFIG_INJECT` at that time, the arguments (`none` for `NULL`), and what the
engine answers if it is asked. -/
structure Call where
  agpsConfigInject : Bool
  server : Option (List Char)
  port : Int32
  answer : LocationError
deriving DecidableEq

/-- One `mLocApi->setServer(serverUrl, length)` and its answer. -/
structure ServerRequest where
  serverUrl : List Char
  length : ℤ
  answer : LocationError
deriving DecidableEq, Repr

/-- The call names no host. -/
def Call.NamesNoHost (c : Call) : Prop :=
  c.server.getD [] = [] ∨ sameIgnoringCase (noHost.length + 1) noHost (c.server.getD []) = true

instance (c : Call) : Decidable c.NamesNoHost := inferInstanceAs (Decidable (_ ∨ _))

/-- The text of `"%s:%u"`. -/
def Call.hostAndPort (c : Call) : List Char :=
  c.server.getD [] ++ ':' :: Nat.toDigits 10 c.port.toNatClampNeg

/-- `serverUrl` and `length` when they are compared with the cache. -/
def formatUrl (c : Call) : List Char × ℤ :=
  if c.NamesNoHost then ([], 0)
  else if 0 < c.port then snprintf maxUrlLen c.hostAndPort
  else ([], -1)

/-- `setSuplHostServer`: the new `mServerUrl`, the result, and the request to the engine. -/
def setSuplHostServer (mServerUrl : List Char) (c : Call) :
    List Char × LocationError × List ServerRequest :=
  if c.agpsConfigInject = true then
    if 0 ≤ (formatUrl c).2 ∧ sameIgnoringCase maxUrlLen mServerUrl (formatUrl c).1 = false then
      ((formatUrl c).1, c.answer, [⟨(formatUrl c).1, (formatUrl c).2, c.answer⟩])
    else (mServerUrl, .invalidParameter, [])
  else (mServerUrl, .success, [])

/-- The cache as a machine over the calls; the outputs are the requests to the engine. -/
def machine : Machine (List Char) Call ServerRequest where
  step mServerUrl c :=
    ((setSuplHostServer mServerUrl c).1, (setSuplHostServer mServerUrl c).2.2)

/-- The URL of the last request that the engine accepted. -/
def lastAccepted (requests : List ServerRequest) : Option (List Char) :=
  (requests.filter (·.answer = .success)).getLast?.map (·.serverUrl)

/-! ## Which calls reach the engine -/

/-- The whole URL of a call, however long it is. -/
def fullUrl (c : Call) : List Char := if c.NamesNoHost then [] else c.hostAndPort

/-- The call reaches the engine. -/
def Sends (mServerUrl : List Char) (c : Call) : Prop :=
  c.agpsConfigInject = true ∧ 0 ≤ (formatUrl c).2 ∧
    sameIgnoringCase maxUrlLen mServerUrl (formatUrl c).1 = false

/-- A call that reaches the engine is accepted, and its URL fits in the buffer. -/
def Honoured (mServerUrl : List Char) (c : Call) : Prop :=
  Sends mServerUrl c → c.answer = .success ∧ (fullUrl c).length < maxUrlLen

instance (u : List Char) (c : Call) : Decidable (Sends u c) := inferInstanceAs (Decidable (_ ∧ _))

instance (u : List Char) (c : Call) : Decidable (Honoured u c) :=
  inferInstanceAs (Decidable (_ → _))

variable {u : List Char} {c : Call}

lemma sameIgnoringCase_self (n : ℕ) (a : List Char) : sameIgnoringCase n a a = true := by
  simp [sameIgnoringCase]

lemma setSuplHostServer_of_sends (h : Sends u c) :
    setSuplHostServer u c =
      ((formatUrl c).1, c.answer, [⟨(formatUrl c).1, (formatUrl c).2, c.answer⟩]) := by
  obtain ⟨hinject, hsend⟩ := h
  rw [setSuplHostServer, if_pos hinject, if_pos hsend]

lemma setSuplHostServer_of_not_sends (h : ¬ Sends u c) :
    ∃ err, setSuplHostServer u c = (u, err, []) := by
  by_cases hinject : c.agpsConfigInject = true
  · have hsend : ¬ (0 ≤ (formatUrl c).2 ∧ sameIgnoringCase maxUrlLen u (formatUrl c).1 = false) :=
      fun hsend => h ⟨hinject, hsend⟩
    exact ⟨.invalidParameter, by rw [setSuplHostServer, if_pos hinject, if_neg hsend]⟩
  · exact ⟨.success, by rw [setSuplHostServer, if_neg hinject]⟩

lemma next_of_sends (h : Sends u c) : machine.next u c = (formatUrl c).1 :=
  congrArg Prod.fst (setSuplHostServer_of_sends h)

lemma emit_of_sends (h : Sends u c) :
    machine.emit u c = [⟨(formatUrl c).1, (formatUrl c).2, c.answer⟩] :=
  congrArg (fun r => r.2.2) (setSuplHostServer_of_sends h)

lemma next_of_not_sends (h : ¬ Sends u c) : machine.next u c = u := by
  obtain ⟨err, heq⟩ := setSuplHostServer_of_not_sends h
  exact congrArg Prod.fst heq

lemma emit_of_not_sends (h : ¬ Sends u c) : machine.emit u c = [] := by
  obtain ⟨err, heq⟩ := setSuplHostServer_of_not_sends h
  exact congrArg (fun r => r.2.2) heq

/-- What is sent is not what is cached. -/
lemma formatUrl_ne_of_sends (h : Sends u c) : (formatUrl c).1 ≠ u := by
  intro heq
  have hdiff := h.2.2
  rw [heq, sameIgnoringCase_self] at hdiff
  exact Bool.noConfusion hdiff

/-- A host and a port make more than the single colon the cache begins with. -/
lemma formatUrl_ne_initialUrl (c : Call) : (formatUrl c).1 ≠ initialUrl := by
  intro heq
  by_cases hno : c.NamesNoHost
  · rw [formatUrl, if_pos hno] at heq
    cases heq
  · rw [formatUrl, if_neg hno] at heq
    split_ifs at heq
    · have hlen := congrArg List.length heq
      have hhost : 0 < (c.server.getD []).length :=
        List.length_pos_iff.2 fun hnil => hno (Or.inl hnil)
      simp only [snprintf, Call.hostAndPort, initialUrl, maxUrlLen, List.length_take,
        List.length_append, List.length_cons, List.length_nil] at hlen
      have hdigits := List.length_pos_iff.2 (Nat.toDigits_ne_nil (b := 10)
        (n := c.port.toNatClampNeg))
      omega
    · cases heq

/-- The length handed over is that of the string exactly when the whole URL fits. -/
lemma formatUrl_length_iff (h : 0 ≤ (formatUrl c).2) :
    (formatUrl c).2 = (formatUrl c).1.length ↔ (fullUrl c).length < maxUrlLen := by
  by_cases hno : c.NamesNoHost
  · simp [formatUrl, fullUrl, hno, maxUrlLen]
  · simp only [formatUrl, fullUrl, if_neg hno] at h ⊢
    split_ifs at h ⊢ with hport
    · simp only [snprintf, maxUrlLen, List.length_take] at h ⊢
      split_ifs at h ⊢
      · omega
      · omega
    · omega

/-! ## Runs -/

lemma lastAccepted_append (a b : List ServerRequest) :
    lastAccepted (a ++ b) = (lastAccepted b).or (lastAccepted a) := by
  simp only [lastAccepted, List.filter_append, List.getLast?_append, Option.map_or]

lemma lastAccepted_singleton (r : ServerRequest) :
    lastAccepted [r] = if r.answer = .success then some r.serverUrl else none := by
  by_cases h : r.answer = .success
  · simp [lastAccepted, h]
  · simp [lastAccepted, h]

/-- As long as the calls are honoured, the cache is what the engine accepted last. -/
lemma run_eq_lastAccepted (calls : List Call) (h : machine.Steps Honoured initialUrl calls) :
    machine.run initialUrl calls =
      (lastAccepted (machine.outs initialUrl calls)).getD initialUrl := by
  induction calls using List.reverseRecOn with
  | nil => rfl
  | append_singleton calls c ih =>
      obtain ⟨hcalls, hc, -⟩ := (machine.steps_append _ _ _ _).1 h
      have hrun := ih hcalls
      simp only [Machine.run_append, Machine.outs_append, Machine.run_cons, Machine.run_nil,
        Machine.outs_cons, Machine.outs_nil, List.append_nil, lastAccepted_append]
      by_cases hsend : Sends (machine.run initialUrl calls) c
      · have hanswer := (hc hsend).1
        rw [next_of_sends hsend, emit_of_sends hsend, lastAccepted_singleton, if_pos hanswer]
        rfl
      · rw [next_of_not_sends hsend, emit_of_not_sends hsend]
        exact hrun

/-- The cache is as it was at first, or what the engine accepted last. -/
def CacheAccepted (calls : List Call) : Prop :=
  machine.run initialUrl calls = initialUrl ∨
    lastAccepted (machine.outs initialUrl calls) = some (machine.run initialUrl calls)

instance (calls : List Call) : Decidable (CacheAccepted calls) :=
  inferInstanceAs (Decidable (_ ∨ _))

/-- The requests are handed the lengths of their strings. -/
def LengthsRight (requests : List ServerRequest) : Prop :=
  ∀ r ∈ requests, r.length = r.serverUrl.length

instance (requests : List ServerRequest) : Decidable (LengthsRight requests) :=
  inferInstanceAs (Decidable (∀ r ∈ requests, r.length = r.serverUrl.length))

/-- What one more call needs.  A refused URL differs from the cache, so it differs from the URL
accepted last; it also differs from the colon of the constructor. -/
lemma cacheAccepted_append_iff {calls : List Call} (c : Call)
    (h : machine.Steps Honoured initialUrl calls) :
    CacheAccepted (calls ++ [c]) ∧ LengthsRight (machine.emit (machine.run initialUrl calls) c) ↔
      Honoured (machine.run initialUrl calls) c := by
  have hrun := run_eq_lastAccepted calls h
  simp only [CacheAccepted, LengthsRight, Machine.run_append, Machine.outs_append,
    Machine.run_cons, Machine.run_nil, Machine.outs_cons, Machine.outs_nil, List.append_nil,
    lastAccepted_append]
  by_cases hsend : Sends (machine.run initialUrl calls) c
  · rw [next_of_sends hsend, emit_of_sends hsend, lastAccepted_singleton]
    have hlength := formatUrl_length_iff hsend.2.1
    constructor
    · rintro ⟨hcache, hlen⟩
      have hfits := hlength.1 (hlen _ (List.mem_singleton_self _))
      refine fun _ => ⟨?_, hfits⟩
      by_contra hrefused
      rw [if_neg hrefused] at hcache
      have hne := formatUrl_ne_of_sends hsend
      rcases hcache with hfirst | hlast
      · exact formatUrl_ne_initialUrl c hfirst
      · rw [hrun, show lastAccepted _ = some (formatUrl c).1 from hlast] at hne
        exact hne rfl
    · intro hc
      obtain ⟨hanswer, hfits⟩ := hc hsend
      rw [if_pos hanswer]
      refine ⟨Or.inr rfl, ?_⟩
      intro r hr
      rw [List.mem_singleton.1 hr]
      exact hlength.2 hfits
  · rw [next_of_not_sends hsend, emit_of_not_sends hsend]
    constructor
    · exact fun _ hsend' => absurd hsend' hsend
    · intro _
      refine ⟨?_, fun r hr => absurd hr List.not_mem_nil⟩
      cases hlast : lastAccepted (machine.outs initialUrl calls) with
      | none =>
          left
          rw [hrun, hlast]
          rfl
      | some url =>
          right
          rw [hrun, hlast]
          rfl

/-- **The cached SUPL server.**  After every part of a run the cache is the initial value or the URL
accepted last, and every length handed over is right, exactly when each call that reaches the
engine is accepted there and has a URL that fits in the buffer. -/
theorem cacheAccepted_iff (calls : List Call) :
    ((∀ pre, pre <+: calls → CacheAccepted pre) ∧
        LengthsRight (machine.outs initialUrl calls)) ↔
      machine.Steps Honoured initialUrl calls := by
  induction calls using List.reverseRecOn with
  | nil =>
      refine iff_of_true ⟨fun pre hpre => ?_, fun r hr => absurd hr List.not_mem_nil⟩ trivial
      rw [List.prefix_nil.1 hpre]
      exact Or.inl rfl
  | append_singleton calls c ih =>
      have hsteps : machine.Steps Honoured initialUrl (calls ++ [c]) ↔
          machine.Steps Honoured initialUrl calls ∧ Honoured (machine.run initialUrl calls) c := by
        rw [machine.steps_append]
        exact and_congr_right fun _ => and_iff_left trivial
      have houts : LengthsRight (machine.outs initialUrl (calls ++ [c])) ↔
          LengthsRight (machine.outs initialUrl calls) ∧
            LengthsRight (machine.emit (machine.run initialUrl calls) c) := by
        rw [Machine.outs_append, LengthsRight, List.forall_mem_append, Machine.outs_cons,
          Machine.outs_nil, List.append_nil]
        exact Iff.rfl
      rw [hsteps, houts]
      constructor
      · rintro ⟨hcache, hlen, hlenc⟩
        have hcalls := ih.1 ⟨fun pre hpre => hcache pre (hpre.trans (List.prefix_append _ _)), hlen⟩
        have hwhole := hcache _ (List.prefix_refl _)
        exact ⟨hcalls, (cacheAccepted_append_iff c hcalls).1 ⟨hwhole, hlenc⟩⟩
      · rintro ⟨hcalls, hc⟩
        obtain ⟨hcache, hlen⟩ := ih.2 hcalls
        obtain ⟨hwhole, hlenc⟩ := (cacheAccepted_append_iff c hcalls).2 hc
        refine ⟨fun pre hpre => ?_, hlen, hlenc⟩
        rcases List.prefix_concat_iff.1 hpre with heq | hpre
        · rw [heq]
          exact hwhole
        · exact hcache pre hpre

/-- A refused server stays in the cache, although nothing has been accepted. -/
theorem refused_server_cached :
    ¬ ((∀ pre, pre <+: [(⟨true, some ['h'], 80, .generalFailure⟩ : Call)] → CacheAccepted pre) ∧
      LengthsRight (machine.outs initialUrl
        [(⟨true, some ['h'], 80, .generalFailure⟩ : Call)])) := by
  rintro ⟨hcache, -⟩
  have hwhole := hcache _ (List.prefix_refl _)
  revert hwhole
  decide

end SuplHostServer

end LocHal
