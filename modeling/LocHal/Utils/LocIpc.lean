import LocHal.Lib.Machine
import LocHal.Lib.Numeral
import Mathlib.Data.List.Infix
import Mathlib.Data.List.TakeDrop

/-!
# Local messages (`gps/utils/LocIpc.cpp`)

Messages go over a datagram socket.  One of up to 8192 bytes is a datagram; a longer one is a
header with its length and then datagrams of up to 8192 bytes.  The listener keeps one buffer for
everything it receives, and looks for the header and for the abort marker in the buffer, not in the
datagram: behind a short datagram it still holds what the message before left there.

`received_iff`: messages sent one after the other are all received as they were sent, exactly when
each has fewer than 2 ^ 32 bytes, and laid over the one before it does not begin with a marker, or,
if it is long, its header is not followed by a digit there.
-/

namespace LocHal

/-- `LOC_MSG_BUF_LEN`. -/
def locMsgBufLen : ℕ := 8192

/-- `LOC_MSG_HEAD`. -/
def locMsgHead : List Char := ['$', 'M', 'S', 'G', 'L', 'E', 'N', '$']

/-- `LOC_MSG_ABORT`. -/
def locMsgAbort : List Char :=
  ['L', 'o', 'c', 'I', 'p', 'c', 'M', 's', 'g', ':', ':', 'A', 'B', 'O', 'R', 'T']

/-- The character that ends a C string. -/
def nul : Char := '\x00'

/-- `std::string::resize`. -/
def resize (msg : List Char) (n : ℕ) : List Char :=
  msg.take n ++ List.replicate (n - msg.length) nul

/-- A buffer once `data` has been received into it from position `at` on. -/
def overwrite (msg : List Char) (pos : ℕ) (data : List Char) : List Char :=
  msg.take pos ++ data ++ msg.drop (pos + data.length)

/-- What `%zu` of `sscanf` stores in a zero `size_t`: without digits nothing is stored, and a number
that does not fit becomes the largest one. -/
def scanSize (cs : List Char) : ℕ :=
  let signed := readSign (cs.dropWhile isSpace)
  let n := readNumeral 10 0 signed.2
  if 2 ^ 64 ≤ n then 2 ^ 64 - 1
  else if signed.1 then (2 ^ 64 - n) % 2 ^ 64
  else n

/-- Where `startListeningBlocking` is when it asks for the next datagram: at the top of its loop, in
the loop that receives a long message, of whose length `msg` then is, or out of both. -/
inductive LocIpc where
  | waiting (msg : List Char)
  | receiving (msg : List Char) (msgLenReceived : ℕ)
  | stopped
deriving DecidableEq, Repr

namespace LocIpc

/-- The datagram is received at the top of the loop. -/
def receive (msg data : List Char) : LocIpc × List (List Char) :=
  let nBytes := data.length
  let msg := overwrite (resize msg locMsgBufLen) 0 data
  if nBytes = 0 then (.waiting msg, [])
  else if locMsgAbort <+: msg then (.stopped, [])
  else if ¬ locMsgHead <+: msg then (.waiting (resize msg nBytes), [resize msg nBytes])
  else
    let msgLen := scanSize (msg.drop locMsgHead.length)
    let msg := resize msg msgLen
    if 0 < msgLen then (.receiving msg 0, []) else (.waiting msg, [msg])

/-- The datagram is received as a part of a long message. -/
def receivePart (msg : List Char) (msgLenReceived : ℕ) (data : List Char) :
    LocIpc × List (List Char) :=
  let nBytes := data.length
  let msg := overwrite msg msgLenReceived data
  let msgLenReceived := msgLenReceived + nBytes
  if msgLenReceived < msg.length ∧ 0 < nBytes then (.receiving msg msgLenReceived, [])
  else if 0 < nBytes then (.waiting msg, [msg])
  else (.stopped, [])

/-- `startListeningBlocking`, for one datagram: `recvfrom` drops what the buffer has no place for,
and the outputs are what `onReceive` is called with. -/
def step : LocIpc → List Char → LocIpc × List (List Char)
  | .waiting msg, datagram => receive msg (datagram.take locMsgBufLen)
  | .receiving msg msgLenReceived, datagram =>
      receivePart msg msgLenReceived (datagram.take (msg.length - msgLenReceived))
  | .stopped, _ => (.stopped, [])

/-- `startListeningBlocking`. -/
def startListeningBlocking : Machine LocIpc (List Char) (List Char) := ⟨step⟩

/-- The loop of `sendData` that sends a long message in parts. -/
def sendParts (data : List Char) (length sentBytes : ℕ) : List (List Char) :=
  if sentBytes < length then
    let partLen := min (length - sentBytes) locMsgBufLen
    (data.drop sentBytes).take partLen :: sendParts data length (sentBytes + partLen)
  else []
termination_by length - sentBytes
decreasing_by
  simp only [locMsgBufLen]
  omega

/-- The header that announces a long message. -/
def header (length : ℕ) : List Char := locMsgHead ++ Nat.toDigits 10 length

/-- `sendData`, as the datagrams that it sends. -/
def sendData (data : List Char) (length : ℕ) : List (List Char) :=
  if length ≤ locMsgBufLen then [data.take length]
  else header length :: sendParts data length 0

/-- `send`, where the length is passed on as a `uint32_t`. -/
def send (data : List Char) : List (List Char) := sendData data (data.length % 2 ^ 32)

/-- A message that is not empty and does not begin with one of the markers. -/
structure Sendable (m : List Char) : Prop where
  ne_nil : m ≠ []
  head : ¬ locMsgHead <+: m
  abort : ¬ locMsgAbort <+: m

/-- `m` is received as it is when the buffer holds `prev`: its length is not cut, laid over `prev`
it does not begin with a marker, and a header is not followed by a digit of `prev`. -/
structure Received (prev m : List Char) : Prop where
  length_lt : m.length < 2 ^ 32
  short : m.length ≤ locMsgBufLen →
    ¬ locMsgAbort <+: m ++ prev.drop m.length ∧ ¬ locMsgHead <+: m ++ prev.drop m.length
  long : locMsgBufLen < m.length →
    ∀ c ∈ prev[(header m.length).length]?, c.isDigit = false

/-- Each message is received as it is over the one before. -/
def ReceivedInTurn : List Char → List (List Char) → Prop
  | _, [] => True
  | prev, m :: ms => Received prev m ∧ ReceivedInTurn m ms

instance (m : List Char) : Decidable (Sendable m) :=
  decidable_of_iff (m ≠ [] ∧ ¬ locMsgHead <+: m ∧ ¬ locMsgAbort <+: m)
    ⟨fun h => ⟨h.1, h.2.1, h.2.2⟩, fun h => ⟨h.ne_nil, h.head, h.abort⟩⟩

instance (prev m : List Char) : Decidable (Received prev m) :=
  haveI : Decidable (∀ c ∈ prev[(header m.length).length]?, c.isDigit = false) :=
    Option.decidableForallMem _
  decidable_of_iff (m.length < 2 ^ 32 ∧
      (m.length ≤ locMsgBufLen →
        ¬ locMsgAbort <+: m ++ prev.drop m.length ∧ ¬ locMsgHead <+: m ++ prev.drop m.length) ∧
      (locMsgBufLen < m.length →
        ∀ c ∈ prev[(header m.length).length]?, c.isDigit = false))
    ⟨fun h => ⟨h.1, h.2.1, h.2.2⟩, fun h => ⟨h.length_lt, h.short, h.long⟩⟩

instance decidableReceivedInTurn : ∀ prev ms, Decidable (ReceivedInTurn prev ms)
  | _, [] => isTrue trivial
  | prev, m :: ms =>
      have := decidableReceivedInTurn m ms
      inferInstanceAs (Decidable (Received prev m ∧ ReceivedInTurn m ms))

/-! ## The buffer -/

section Buffer

variable {msg prev data : List Char} {n pos : ℕ}

@[simp] lemma length_resize (msg : List Char) (n : ℕ) : (resize msg n).length = n := by
  simp only [resize, List.length_append, List.length_take, List.length_replicate]
  omega

lemma resize_of_le (h : n ≤ msg.length) : resize msg n = msg.take n := by
  rw [resize, Nat.sub_eq_zero_of_le h, List.replicate_zero, List.append_nil]

lemma getElem?_resize (msg : List Char) {i : ℕ} (h : i < n) :
    (resize msg n)[i]? = some (msg[i]?.getD nul) := by
  rw [resize]
  rcases Nat.lt_or_ge i msg.length with hi | hi
  · rw [List.getElem?_append_left (by rw [List.length_take]; omega),
      List.getElem?_take_of_lt h, List.getElem?_eq_getElem hi, Option.getD_some]
  · have htake : (msg.take n).length ≤ i := by
      rw [List.length_take]
      omega
    rw [List.getElem?_append_right htake, List.getElem?_replicate_of_lt, List.getElem?_eq_none hi,
      Option.getD_none]
    rw [List.length_take]
    omega

lemma length_overwrite (h : pos + data.length ≤ msg.length) :
    (overwrite msg pos data).length = msg.length := by
  simp only [overwrite, List.length_append, List.length_take, List.length_drop]
  omega

lemma overwrite_zero (msg data : List Char) :
    overwrite msg 0 data = data ++ msg.drop data.length := by
  rw [overwrite, List.take_zero, List.nil_append, Nat.zero_add]

lemma take_overwrite (h : pos ≤ msg.length) :
    (overwrite msg pos data).take (pos + data.length) = msg.take pos ++ data := by
  have hlength : (msg.take pos ++ data).length = pos + data.length := by
    rw [List.length_append, List.length_take, Nat.min_eq_left h]
  rw [overwrite, ← hlength, List.take_left]

/-- A text without the end character that filled-up text begins with is in the text itself. -/
lemma prefix_of_prefix_append_nul {p text : List Char} {k : ℕ} (hp : nul ∉ p)
    (h : p <+: text ++ List.replicate k nul) : p <+: text := by
  rcases List.prefix_or_prefix_of_prefix h (List.prefix_append text _) with hle | ⟨rest, rfl⟩
  · exact hle
  · have hrest : rest <+: List.replicate k nul := by
      rwa [List.prefix_append_right_inj] at h
    cases rest with
    | nil => rw [List.append_nil]
    | cons c rest =>
        have hc : c = nul := List.eq_of_mem_replicate (hrest.subset List.mem_cons_self)
        exact absurd (List.mem_append_right text (hc ▸ List.mem_cons_self)) hp

/-- What `recvfrom` leaves in the resized buffer. -/
lemma overwrite_resize (h : data.length ≤ locMsgBufLen) :
    overwrite (resize prev locMsgBufLen) 0 data =
      (data ++ prev.drop data.length).take locMsgBufLen ++
        List.replicate (locMsgBufLen - max prev.length data.length) nul := by
  rw [overwrite_zero, resize, List.drop_append, List.length_take, List.drop_replicate,
    List.take_append, List.take_of_length_le h, List.take_drop, Nat.add_sub_cancel' h,
    List.append_assoc]
  congr 3
  omega

/-- The buffer begins with a marker when the datagram laid over the message before does. -/
lemma prefix_overwrite_iff {p : List Char} (hp : nul ∉ p) (hlength : p.length ≤ locMsgBufLen)
    (h : data.length ≤ locMsgBufLen) :
    p <+: overwrite (resize prev locMsgBufLen) 0 data ↔ p <+: data ++ prev.drop data.length := by
  rw [overwrite_resize h]
  constructor
  · intro hbegins
    exact (prefix_of_prefix_append_nul hp hbegins).trans (List.take_prefix _ _)
  · intro hbegins
    exact (List.prefix_take_iff.mpr ⟨hbegins, hlength⟩).trans (List.prefix_append _ _)

end Buffer

/-! ## One datagram -/

section Datagram

variable {prev msg data : List Char}

lemma nul_notMem_locMsgAbort : nul ∉ locMsgAbort := by decide

lemma nul_notMem_locMsgHead : nul ∉ locMsgHead := by decide

/-- The three ways in which a datagram that is not empty is received at the top of the loop. -/
lemma receive_cases (prev : List Char) (hne : data ≠ []) (h : data.length ≤ locMsgBufLen) :
    (locMsgAbort <+: data ++ prev.drop data.length ∧ receive prev data = (.stopped, [])) ∨
      (¬ locMsgAbort <+: data ++ prev.drop data.length ∧
        ¬ locMsgHead <+: data ++ prev.drop data.length ∧
        receive prev data = (.waiting data, [data])) ∨
      (¬ locMsgAbort <+: data ++ prev.drop data.length ∧
        locMsgHead <+: data ++ prev.drop data.length ∧
        ∃ msg, msg.length = scanSize ((overwrite (resize prev locMsgBufLen) 0 data).drop
            locMsgHead.length) ∧
          receive prev data =
            if 0 < msg.length then (.receiving msg 0, []) else (.waiting msg, [msg])) := by
  have habort : locMsgAbort <+: overwrite (resize prev locMsgBufLen) 0 data ↔ _ :=
    prefix_overwrite_iff nul_notMem_locMsgAbort (by decide) h
  have hhead : locMsgHead <+: overwrite (resize prev locMsgBufLen) 0 data ↔ _ :=
    prefix_overwrite_iff nul_notMem_locMsgHead (by decide) h
  have hlength : data.length ≠ 0 := fun hzero => hne (List.eq_nil_of_length_eq_zero hzero)
  have hresize : resize (overwrite (resize prev locMsgBufLen) 0 data) data.length = data := by
    rw [resize_of_le (by rw [length_overwrite (by simpa using h)]; simpa using h), overwrite_zero,
      List.take_left]
  simp only [receive, if_neg hlength, hresize, habort, hhead]
  by_cases ha : locMsgAbort <+: data ++ prev.drop data.length
  · exact .inl ⟨ha, if_pos ha⟩
  · by_cases hh : locMsgHead <+: data ++ prev.drop data.length
    · refine .inr (.inr ⟨ha, hh, resize (overwrite (resize prev locMsgBufLen) 0 data)
        (scanSize ((overwrite (resize prev locMsgBufLen) 0 data).drop locMsgHead.length)),
        length_resize _ _, ?_⟩)
      simp [ha, hh]
    · exact .inr (.inl ⟨ha, hh, by simp [ha, hh]⟩)

/-- What a step of the listener at the top of its loop is about. -/
lemma step_waiting (h : data.length ≤ locMsgBufLen) :
    startListeningBlocking.step (.waiting prev) data = receive prev data := by
  show receive prev (data.take locMsgBufLen) = receive prev data
  rw [List.take_of_length_le h]

lemma step_receiving_of_lt {r : ℕ} (hne : data ≠ []) (h : r + data.length < msg.length) :
    step (.receiving msg r) data =
      (.receiving (overwrite msg r data) (r + data.length), []) := by
  have hpos := List.length_pos_iff.mpr hne
  rw [step, List.take_of_length_le (by omega), receivePart,
    if_pos ⟨by rw [length_overwrite h.le]; exact h, hpos⟩]

lemma step_receiving_of_eq {r : ℕ} (hne : data ≠ []) (h : r + data.length = msg.length) :
    step (.receiving msg r) data =
      (.waiting (msg.take r ++ data), [msg.take r ++ data]) := by
  have hpos := List.length_pos_iff.mpr hne
  have hwhole : overwrite msg r data = msg.take r ++ data := by
    rw [← take_overwrite (by omega : r ≤ msg.length), List.take_of_length_le]
    rw [length_overwrite h.le, h]
  rw [step, List.take_of_length_le (by omega), receivePart, hwhole,
    if_neg (by simp only [List.length_append, List.length_take]; omega), if_pos hpos]

end Datagram

/-! ## The parts of a long message -/

section Parts

variable {msg : List Char} {parts : List (List Char)} {r : ℕ}

/-- The parts are not empty, not longer than the buffer, and make up the rest of the message. -/
lemma sendParts_spec (data : List Char) {length sentBytes : ℕ} (hsent : sentBytes ≤ length)
    (hlength : length ≤ data.length) :
    (∀ part ∈ sendParts data length sentBytes, part ≠ [] ∧ part.length ≤ locMsgBufLen) ∧
      (sendParts data length sentBytes).flatten = (data.take length).drop sentBytes := by
  fun_induction sendParts data length sentBytes with
  | case1 sentBytes hlt partLen ih =>
      have hpartLen : partLen = min (length - sentBytes) locMsgBufLen := rfl
      have hbuf : locMsgBufLen = 8192 := rfl
      obtain ⟨hparts, hflatten⟩ := ih (by omega)
      constructor
      · intro part hpart
        rcases List.mem_cons.mp hpart with rfl | hpart
        · constructor
          · refine List.ne_nil_of_length_pos ?_
            rw [List.length_take, List.length_drop]
            omega
          · rw [List.length_take]
            omega
        · exact hparts part hpart
      · have hhead : (data.drop sentBytes).take partLen =
            ((data.take length).drop sentBytes).take partLen := by
          rw [List.drop_take, List.take_take, Nat.min_eq_left (by omega)]
        rw [List.flatten_cons, hflatten, ← List.drop_drop, hhead]
        exact List.take_append_drop partLen _
  | case2 sentBytes hge =>
      have heq : sentBytes = length := by omega
      constructor
      · intro part hpart
        cases hpart
      · rw [heq, List.flatten_nil, List.drop_eq_nil_of_le]
        rw [List.length_take]
        omega

/-- Parts that do not fill the buffer. -/
lemma outs_receiving_of_lt (hparts : ∀ part ∈ parts, part ≠ [])
    (h : r + parts.flatten.length < msg.length) :
    startListeningBlocking.outs (.receiving msg r) parts = [] := by
  induction parts generalizing msg r with
  | nil => rfl
  | cons part parts ih =>
      rw [List.flatten_cons, List.length_append] at h
      have hstep : startListeningBlocking.step (.receiving msg r) part = _ :=
        step_receiving_of_lt (hparts part List.mem_cons_self) (by omega)
      have hnext := congrArg Prod.fst hstep
      have hemit := congrArg Prod.snd hstep
      rw [Machine.outs_cons, Machine.emit, Machine.next, hnext, hemit, List.nil_append]
      refine ih (fun part' hpart' => hparts part' (List.mem_cons_of_mem part hpart')) ?_
      rw [length_overwrite (by omega)]
      omega

/-- Parts that fill the buffer exactly. -/
lemma run_receiving_of_eq (hparts : ∀ part ∈ parts, part ≠ []) (hne : parts ≠ [])
    (h : r + parts.flatten.length = msg.length) :
    startListeningBlocking.run (.receiving msg r) parts =
        .waiting (msg.take r ++ parts.flatten) ∧
      startListeningBlocking.outs (.receiving msg r) parts = [msg.take r ++ parts.flatten] := by
  induction parts generalizing msg r with
  | nil => exact absurd rfl hne
  | cons part parts ih =>
      rw [List.flatten_cons, List.length_append] at h
      have hpart := hparts part List.mem_cons_self
      by_cases hlast : parts = []
      · subst hlast
        have hstep : startListeningBlocking.step (.receiving msg r) part = _ :=
          step_receiving_of_eq hpart (by simpa using h)
        simp only [Machine.run_cons, Machine.run_nil, Machine.outs_cons, Machine.outs_nil,
          Machine.emit, Machine.next, hstep, List.flatten_cons, List.flatten_nil, List.append_nil,
          and_self]
      · have hrest : ∀ part' ∈ parts, part' ≠ [] :=
          fun part' hpart' => hparts part' (List.mem_cons_of_mem part hpart')
        have hpos : 0 < parts.flatten.length := by
          obtain ⟨part', hpart'⟩ := List.exists_mem_of_ne_nil parts hlast
          have hsub := (List.sublist_flatten_of_mem hpart').length_le
          exact (List.length_pos_iff.mpr (hrest part' hpart')).trans_le hsub
        have hstep : startListeningBlocking.step (.receiving msg r) part = _ :=
          step_receiving_of_lt hpart (by omega)
        have hroom : r + part.length + parts.flatten.length = (overwrite msg r part).length := by
          rw [length_overwrite (by omega)]
          omega
        have hfinish := ih hrest hlast hroom
        rw [take_overwrite (by omega), List.append_assoc] at hfinish
        simp only [Machine.run_cons, Machine.outs_cons, Machine.emit, Machine.next, hstep,
          List.flatten_cons, List.nil_append]
        exact hfinish

end Parts

/-! ## The header -/

section Header

variable {prev : List Char} {length : ℕ}

lemma length_header_le (h : length < 2 ^ 32) : (header length).length ≤ 18 := by
  have hdigits : (Nat.toDigits 10 length).length ≤ 10 :=
    (Nat.length_toDigits_le_iff (by decide) (by decide)).mpr (h.trans (by decide))
  have hhead : locMsgHead.length = 8 := rfl
  rw [header, List.length_append]
  omega

/-- A header is not the abort marker. -/
lemma not_locMsgAbort_prefix_header (length : ℕ) (rest : List Char) :
    ¬ locMsgAbort <+: header length ++ rest := by
  rw [header, List.append_assoc, locMsgAbort, locMsgHead, List.cons_append,
    List.cons_prefix_cons]
  exact fun h => absurd h.1 (by decide)

lemma scanSize_toDigits (n : ℕ) (rest : List Char) :
    scanSize (Nat.toDigits 10 n ++ rest) = min (readNumeral 10 n rest) (2 ^ 64 - 1) := by
  simp only [scanSize, dropWhile_isSpace_toDigits, readSign_toDigits, readNumeral_toDigits]
  split
  · omega
  · simp only [Bool.false_eq_true, if_false]
    omega

/-- The listener reads the length of the message from the header, or a larger one when a digit of
the message before stands behind it. -/
lemma receive_header (prev : List Char) (hpos : 0 < length) (hlt : length < 2 ^ 32) :
    ∃ msg, receive prev (header length) = (.receiving msg 0, []) ∧ length ≤ msg.length ∧
      (msg.length = length ↔
        ∀ c ∈ prev[(header length).length]?, c.isDigit = false) := by
  have hheader := length_header_le hlt
  have hbuf : locMsgBufLen = 8192 := rfl
  have hne : header length ≠ [] := by
    rw [header, locMsgHead, List.cons_append]
    exact List.cons_ne_nil _ _
  have hbegins : locMsgHead <+: header length ++ prev.drop (header length).length := by
    rw [header, List.append_assoc]
    exact List.prefix_append _ _
  rcases receive_cases prev hne (by omega) with
    ⟨habort, -⟩ | ⟨-, hhead, -⟩ | ⟨-, -, msg, hmsg, hreceive⟩
  · exact absurd habort (not_locMsgAbort_prefix_header _ _)
  · exact absurd hbegins hhead
  · have hnext := getElem?_resize prev (show (header length).length < locMsgBufLen by omega)
    obtain ⟨rest, hrest⟩ : ∃ rest, (resize prev locMsgBufLen).drop (header length).length =
        (prev[(header length).length]?.getD nul) :: rest := by
      obtain ⟨hlt', hget⟩ := List.getElem?_eq_some_iff.mp hnext
      exact ⟨_, by rw [List.drop_eq_getElem_cons hlt', hget]⟩
    have hdrop : (overwrite (resize prev locMsgBufLen) 0 (header length)).drop locMsgHead.length =
        Nat.toDigits 10 length ++ (prev[(header length).length]?.getD nul) :: rest := by
      rw [overwrite_zero, hrest, header, List.append_assoc, List.drop_left]
    rw [hdrop, scanSize_toDigits] at hmsg
    have hle := le_readNumeral (by decide : 0 < 10) length
      ((prev[(header length).length]?.getD nul) :: rest)
    have hiff : msg.length = length ↔
        (prev[(header length).length]?.getD nul).isDigit = false := by
      constructor
      · intro heq
        by_contra hdigit
        have hdigit : (prev[(header length).length]?.getD nul).isDigit = true := by
          simpa using hdigit
        have hlt' := lt_readNumeral rest (by decide : 1 < 10) hpos
          (digitIn_ten_of_isDigit hdigit)
        omega
      · intro hdigit
        rw [readNumeral_cons_none (digitIn_ten_of_not_isDigit hdigit)] at hmsg
        omega
    refine ⟨msg, ?_, by omega, ?_⟩
    · rw [hreceive, if_pos (by omega)]
    · rw [hiff]
      cases prev[(header length).length]? with
      | none => simp [nul]
      | some c => simp

end Header

/-! ## One message -/

section Message

variable {s : LocIpc} {prev m d : List Char} {ds : List (List Char)} {bound : ℕ}

/-- Each datagram completes a message, which the buffer then holds, or none. -/
lemma emit_cases (s : LocIpc) (d : List Char) :
    startListeningBlocking.emit s d = [] ∨
      ∃ msg, startListeningBlocking.emit s d = [msg] ∧
        startListeningBlocking.next s d = .waiting msg := by
  cases s with
  | waiting msg =>
      simp only [Machine.emit, Machine.next, startListeningBlocking, step, receive]
      split_ifs
      · exact .inl rfl
      · exact .inl rfl
      · exact .inl rfl
      · exact .inr ⟨_, rfl, rfl⟩
      · exact .inr ⟨_, rfl, rfl⟩
  | receiving msg r =>
      simp only [Machine.emit, Machine.next, startListeningBlocking, step, receivePart]
      split_ifs
      · exact .inl rfl
      · exact .inr ⟨_, rfl, rfl⟩
      · exact .inl rfl
  | stopped => exact .inl rfl

/-- What is still to come is not enough to complete a message of `bound` characters. -/
def Room (bound : ℕ) : LocIpc → List (List Char) → Prop
  | .waiting _, ds => ds.flatten.length ≤ bound
  | .receiving _ r, ds => r + ds.flatten.length < bound
  | .stopped, _ => True

lemma Room.next (h : Room bound s (d :: ds)) (hd : d.length < bound) :
    Room bound (startListeningBlocking.next s d) ds ∧
      ∀ o ∈ startListeningBlocking.emit s d, o.length < bound := by
  cases s with
  | waiting prev =>
      have htotal : d.length + ds.flatten.length ≤ bound := by
        simpa [Room] using h
      by_cases hne : d.take locMsgBufLen = []
      · have hstep : startListeningBlocking.step (.waiting prev) d =
            (.waiting (overwrite (resize prev locMsgBufLen) 0 (d.take locMsgBufLen)), []) :=
          if_pos (by rw [hne, List.length_nil])
        rw [Machine.next, Machine.emit, hstep]
        exact ⟨(by omega : ds.flatten.length ≤ bound), by simp⟩
      · have hdata : (d.take locMsgBufLen).length ≤ d.length := List.length_take_le' _ _
        have hpos := List.length_pos_iff.mpr hne
        have hstep : startListeningBlocking.step (.waiting prev) d =
          receive prev (d.take locMsgBufLen) := rfl
        rw [Machine.next, Machine.emit, hstep]
        rcases receive_cases prev hne (List.length_take_le _ _) with
          ⟨-, hreceive⟩ | ⟨-, -, hreceive⟩ | ⟨-, -, msg, -, hreceive⟩
        · rw [hreceive]
          exact ⟨trivial, by simp⟩
        · rw [hreceive]
          refine ⟨(by omega : ds.flatten.length ≤ bound), fun o ho => ?_⟩
          rw [List.mem_singleton.mp ho]
          omega
        · rw [hreceive]
          split
          · exact ⟨(by omega : 0 + ds.flatten.length < bound), by simp⟩
          · refine ⟨(by omega : ds.flatten.length ≤ bound), fun o ho => ?_⟩
            rw [List.mem_singleton.mp ho]
            omega
  | receiving msg r =>
      have htotal : r + (d.length + ds.flatten.length) < bound := by
        simpa [Room] using h
      have hdata : (d.take (msg.length - r)).length ≤ d.length := List.length_take_le' _ _
      have hroom : (d.take (msg.length - r)).length ≤ msg.length - r := List.length_take_le _ _
      simp only [Machine.emit, Machine.next, startListeningBlocking, step, receivePart]
      split_ifs with hlt hpos
      · exact ⟨by simp only [Room]; omega, by simp⟩
      · refine ⟨by simp only [Room]; omega, fun o ho => ?_⟩
        rw [List.mem_singleton.mp ho]
        rw [length_overwrite (by omega)] at hlt ⊢
        omega
      · exact ⟨trivial, by simp⟩
  | stopped => exact ⟨trivial, by simp [Machine.emit, startListeningBlocking, step]⟩

lemma Room.outs (h : Room bound s ds) (hds : ∀ d ∈ ds, d.length < bound) :
    ∀ o ∈ startListeningBlocking.outs s ds, o.length < bound := by
  induction ds generalizing s with
  | nil => simp
  | cons d ds ih =>
      obtain ⟨hroom, hemit⟩ := h.next (hds d List.mem_cons_self)
      intro o ho
      rcases List.mem_append.mp ho with ho | ho
      · exact hemit o ho
      · exact ih hroom (fun d' hd' => hds d' (List.mem_cons_of_mem d hd')) o ho

/-- The second and later messages received are made of what came after the first. -/
lemma tail_outs_lt (s : LocIpc) (hds : ∀ d ∈ ds, d.length < bound)
    (htotal : ds.flatten.length ≤ bound) :
    ∀ o ∈ (startListeningBlocking.outs s ds).tail, o.length < bound := by
  induction ds generalizing s with
  | nil => simp
  | cons d ds ih =>
      have hrest : ∀ d' ∈ ds, d'.length < bound :=
        fun d' hd' => hds d' (List.mem_cons_of_mem d hd')
      rw [List.flatten_cons, List.length_append] at htotal
      rw [Machine.outs_cons]
      rcases emit_cases s d with hemit | ⟨msg, hemit, hnext⟩
      · rw [hemit, List.nil_append]
        exact ih _ hrest (by omega)
      · rw [hemit, hnext, List.singleton_append, List.tail_cons]
        exact Room.outs (by simp only [Room]; omega) hrest

/-- What `send` sends of a message: its own datagram, or a header and the parts. -/
lemma send_cases (m : List Char) :
    (m.length % 2 ^ 32 ≤ locMsgBufLen ∧ send m = [m.take (m.length % 2 ^ 32)]) ∨
      (locMsgBufLen < m.length % 2 ^ 32 ∧
        ∃ parts, send m = header (m.length % 2 ^ 32) :: parts ∧
          (∀ part ∈ parts, part ≠ [] ∧ part.length ≤ locMsgBufLen) ∧
          parts.flatten = m.take (m.length % 2 ^ 32)) := by
  rcases Nat.lt_or_ge locMsgBufLen (m.length % 2 ^ 32) with hlong | hshort
  · obtain ⟨hparts, hflatten⟩ := sendParts_spec m (Nat.zero_le _) (Nat.mod_le m.length (2 ^ 32))
    refine .inr ⟨hlong, _, ?_, hparts, hflatten⟩
    rw [send, sendData, if_neg (by omega)]
  · refine .inl ⟨hshort, ?_⟩
    rw [send, sendData, if_pos hshort]

/-- While the datagrams of a message come in, only the first message completed may be as long as
that one. -/
lemma tail_outs_send (s : LocIpc) (m : List Char) :
    m ∉ (startListeningBlocking.outs s (send m)).tail := by
  intro hmem
  have hmod : m.length % 2 ^ 32 ≤ m.length := Nat.mod_le _ _
  rcases send_cases m with ⟨-, hsend⟩ | ⟨hlong, parts, hsend, hparts, hflatten⟩
  · rw [hsend, Machine.outs_cons, Machine.outs_nil, List.append_nil] at hmem
    rcases emit_cases s (m.take (m.length % 2 ^ 32)) with hemit | ⟨msg, hemit, -⟩
    · rw [hemit] at hmem
      cases hmem
    · rw [hemit] at hmem
      cases hmem
  · have htotal : parts.flatten.length ≤ m.length % 2 ^ 32 := by
      rw [hflatten]
      exact List.length_take_le _ _
    have hlt : ∀ part ∈ parts, part.length < m.length % 2 ^ 32 :=
      fun part hpart => (hparts part hpart).2.trans_lt hlong
    rw [hsend, Machine.outs_cons] at hmem
    rcases emit_cases s (header (m.length % 2 ^ 32)) with hemit | ⟨msg, hemit, hnext⟩
    · rw [hemit, List.nil_append] at hmem
      have := tail_outs_lt _ hlt htotal m hmem
      omega
    · rw [hemit, hnext, List.singleton_append, List.tail_cons] at hmem
      have hroom : Room (m.length % 2 ^ 32) (.waiting msg) parts := htotal
      have := hroom.outs hlt m hmem
      omega

/-- **A message** that is received as it is leaves itself in the buffer. -/
theorem Received.run (h : Received prev m) (hm : m ≠ []) :
    startListeningBlocking.run (.waiting prev) (send m) = .waiting m ∧
      startListeningBlocking.outs (.waiting prev) (send m) = [m] := by
  have hmod : m.length % 2 ^ 32 = m.length := Nat.mod_eq_of_lt h.length_lt
  have hwhole : m.take m.length = m := List.take_length
  have hpos := List.length_pos_iff.mpr hm
  rcases send_cases m with ⟨hshort, hsend⟩ | ⟨hlong, parts, hsend, hparts, hflatten⟩
  · rw [hmod] at hshort hsend
    rw [hwhole] at hsend
    obtain ⟨habort, hhead⟩ := h.short hshort
    have hstep : startListeningBlocking.step (.waiting prev) m = (.waiting m, [m]) := by
      rcases receive_cases prev hm hshort with ⟨ha, -⟩ | ⟨-, -, hreceive⟩ | ⟨-, hh, -⟩
      · exact absurd ha habort
      · exact (step_waiting hshort).trans hreceive
      · exact absurd hh hhead
    rw [hsend]
    simp only [Machine.run_cons, Machine.run_nil, Machine.outs_cons, Machine.outs_nil,
      Machine.next, Machine.emit, hstep, List.append_nil, and_self]
  · rw [hmod] at hlong hsend hflatten
    rw [hwhole] at hflatten
    obtain ⟨msg, hreceive, -, hiff⟩ := receive_header prev hpos h.length_lt
    have hlength := hiff.mpr (h.long hlong)
    have hheader : (header m.length).length ≤ locMsgBufLen :=
      (length_header_le h.length_lt).trans (by decide)
    have hstep : startListeningBlocking.step (.waiting prev) (header m.length) =
        (.receiving msg 0, []) := (step_waiting hheader).trans hreceive
    have hne : parts ≠ [] := by
      rintro rfl
      exact hm hflatten.symm
    have hfull : 0 + parts.flatten.length = msg.length := by
      rw [hflatten]
      omega
    have hfinish := run_receiving_of_eq (fun part hpart => (hparts part hpart).1) hne hfull
    rw [List.take_zero, List.nil_append, hflatten] at hfinish
    rw [hsend]
    simp only [Machine.run_cons, Machine.outs_cons, Machine.next, Machine.emit, hstep,
      List.nil_append]
    exact hfinish

/-- **A message** that is not received as it is: the first message completed while its datagrams
come in is another one. -/
theorem head_outs_of_not_received (hm : m ≠ []) (h : ¬ Received prev m) :
    (startListeningBlocking.outs (.waiting prev) (send m)).head? ≠ some m := by
  intro hhead
  have hmem : m ∈ startListeningBlocking.outs (.waiting prev) (send m) :=
    List.mem_of_mem_head? hhead
  have hbuf : locMsgBufLen = 8192 := rfl
  have hpos := List.length_pos_iff.mpr hm
  by_cases hlt : m.length < 2 ^ 32
  · have hmod : m.length % 2 ^ 32 = m.length := Nat.mod_eq_of_lt hlt
    have hwhole : m.take m.length = m := List.take_length
    rcases send_cases m with ⟨hshort, hsend⟩ | ⟨hlong, parts, hsend, hparts, hflatten⟩
    · rw [hmod] at hshort hsend
      rw [hwhole] at hsend
      rw [hsend, Machine.outs_cons, Machine.outs_nil, List.append_nil, Machine.emit] at hmem
      have hstep : startListeningBlocking.step (.waiting prev) m = receive prev m :=
        step_waiting hshort
      rw [hstep] at hmem
      rcases receive_cases prev hm hshort with
        ⟨-, hreceive⟩ | ⟨ha, hh, -⟩ | ⟨-, hh, msg, -, hreceive⟩
      · rw [hreceive] at hmem
        cases hmem
      · exact h ⟨hlt, fun _ => ⟨ha, hh⟩, fun hlong => absurd hlong (by omega)⟩
      · rw [hreceive] at hmem
        split at hmem
        · cases hmem
        · rw [List.mem_singleton.mp hmem] at hpos
          omega
    · rw [hmod] at hlong hsend hflatten
      rw [hwhole] at hflatten
      obtain ⟨msg, hreceive, hle, hiff⟩ := receive_header prev hpos hlt
      have hne : msg.length ≠ m.length := fun heq =>
        h ⟨hlt, fun hshort => absurd hshort (by omega), fun _ => hiff.mp heq⟩
      have hheader : (header m.length).length ≤ locMsgBufLen :=
        (length_header_le hlt).trans (by decide)
      have hstep : startListeningBlocking.step (.waiting prev) (header m.length) =
          (.receiving msg 0, []) := (step_waiting hheader).trans hreceive
      have hroom : 0 + parts.flatten.length < msg.length := by
        rw [hflatten]
        omega
      have hnone := outs_receiving_of_lt (fun part hpart => (hparts part hpart).1) hroom
      rw [hsend, Machine.outs_cons, Machine.emit, Machine.next, hstep, hnone] at hmem
      cases hmem
  · have hmod : m.length % 2 ^ 32 < 2 ^ 32 := Nat.mod_lt _ (by decide)
    -- the length is cut, so that fewer characters are sent than the message has
    have hcut : m.length % 2 ^ 32 + 2 ^ 32 ≤ m.length := by omega
    have htake : (m.take (m.length % 2 ^ 32)).length = m.length % 2 ^ 32 := by
      rw [List.length_take]
      omega
    have hroom : Room m.length (.waiting prev) (send m) := by
      simp only [Room]
      rcases send_cases m with ⟨hshort, hsend⟩ | ⟨hlong, parts, hsend, hparts, hflatten⟩
      · rw [hsend, List.flatten_singleton]
        omega
      · have hheader := length_header_le hmod
        rw [hsend, List.flatten_cons, List.length_append, hflatten]
        omega
    have hds : ∀ d ∈ send m, d.length < m.length := by
      intro d hd
      rcases send_cases m with ⟨hshort, hsend⟩ | ⟨hlong, parts, hsend, hparts, hflatten⟩
      · rw [hsend, List.mem_singleton] at hd
        rw [hd]
        omega
      · have hheader := length_header_le hmod
        rw [hsend] at hd
        rcases List.mem_cons.mp hd with rfl | hd
        · omega
        · have := (hparts d hd).2
          omega
    have := hroom.outs hds m hmem
    omega

end Message

/-! ## Messages in turn -/

section Messages

variable {prev : List Char} {ms : List (List Char)}

/-- Once a message is overdue, the messages never catch up. -/
lemma outs_ne_of_overdue (s : LocIpc) (missing : List (List Char)) (hmissing : missing ≠ []) :
    startListeningBlocking.outs s (ms.flatMap send) ≠ missing ++ ms := by
  induction ms generalizing s missing with
  | nil =>
      rw [List.flatMap_nil, Machine.outs_nil, List.append_nil]
      exact hmissing.symm
  | cons m ms ih =>
      intro heq
      rw [List.flatMap_cons, Machine.outs_append] at heq
      rcases List.append_eq_append_iff.mp heq with ⟨rest, hrest, hlater⟩ | ⟨rest, hrest, hlater⟩
      · refine ih (startListeningBlocking.run s (send m)) (rest ++ [m]) (by simp) ?_
        rw [hlater, List.append_assoc, List.singleton_append]
      · cases rest with
        | nil =>
            refine ih (startListeningBlocking.run s (send m)) [m] (by simp) ?_
            rw [List.singleton_append]
            exact hlater.symm
        | cons o rest =>
            have ho : o = m := (List.cons.inj hlater).1.symm
            refine tail_outs_send s m ?_
            rw [hrest, ho, List.tail_append_of_ne_nil hmissing]
            exact List.mem_append_right _ List.mem_cons_self

/-- Messages sent over what the buffer holds. -/
lemma outs_eq_iff (hms : ∀ m ∈ ms, m ≠ []) :
    startListeningBlocking.outs (.waiting prev) (ms.flatMap send) = ms ↔
      ReceivedInTurn prev ms := by
  induction ms generalizing prev with
  | nil => simp [ReceivedInTurn]
  | cons m ms ih =>
      have hm := hms m List.mem_cons_self
      rw [List.flatMap_cons, Machine.outs_append]
      by_cases h : Received prev m
      · obtain ⟨hrun, houts⟩ := h.run hm
        rw [hrun, houts, List.singleton_append, List.cons_inj_right,
          ih fun m' hm' => hms m' (List.mem_cons_of_mem m hm')]
        exact ⟨fun hrest => ⟨h, hrest⟩, fun hrest => hrest.2⟩
      · refine iff_of_false (fun heq => ?_) fun hturn => h hturn.1
        cases houts : startListeningBlocking.outs (.waiting prev) (send m) with
        | nil =>
            rw [houts, List.nil_append] at heq
            exact outs_ne_of_overdue _ [m] (by simp) heq
        | cons o rest =>
            rw [houts, List.cons_append] at heq
            refine head_outs_of_not_received hm h ?_
            rw [houts, List.head?_cons, (List.cons.inj heq).1]

end Messages

/-- **Framing.** The messages of one sender are received once each, in order and as they were sent,
exactly when each of them is received as it is over the one before. -/
theorem received_iff (ms : List (List Char)) (hms : ∀ m ∈ ms, Sendable m) :
    startListeningBlocking.outs (.waiting []) (ms.flatMap send) = ms ↔ ReceivedInTurn [] ms :=
  outs_eq_iff fun m hm => (hms m hm).ne_nil

/-- A short message after a longer one. -/
theorem received_short_after_long :
    startListeningBlocking.outs (.waiting []) ([['l', 'o', 'n', 'g', 'e', 'r'], ['L']].flatMap send) =
      [['l', 'o', 'n', 'g', 'e', 'r'], ['L']] :=
  (received_iff _ (by decide)).mpr (by decide)

/-- A message that, laid over the one before, begins with the abort marker is not received. -/
theorem abort_over_previous :
    ¬ ∀ ms : List (List Char), (∀ m ∈ ms, Sendable m) →
      startListeningBlocking.outs (.waiting []) (ms.flatMap send) = ms := by
  intro h
  have hlost := h [['x', 'x', 'x', 'I', 'p', 'c', 'M', 's', 'g', ':', ':', 'A', 'B', 'O', 'R', 'T'],
    ['L', 'o', 'c']] (by decide)
  exact absurd ((outs_eq_iff (by decide)).mp hlost) (by decide)

end LocIpc
end LocHal
