/-
The pings of a run on their way to the plot: `WriteResults` of the pingmesh scheduler writes them to `pingmesh.csv`, from which
`plot_ping.py` takes those of one pair. It gets them exactly if no two clients of the pair have sent any, and then the
plot shows of each ping what its client knows.
-/
import SatNet.Apps.UdpRtt
import SatNet.Apps.PingPlot
import SatNet.Base.Python

namespace SatNet.Apps.Plotting

open SatNet.Loop SatNet.ExpUtil SatNet.Python SatNet.Buckets

/-! ## Writing -/

/-- A line of `pingmesh.csv`. -/
def csvLine (row : PingRow) : Str :=
  [','].intercalate [formatD row.fromNodeId, formatD row.toNodeId, formatD row.j, formatInt row.sendRequestTimestamp,
    formatInt row.replyTimestamp, formatInt row.receiveReplyTimestamp, formatInt row.latencyToThereNs,
    formatInt row.latencyFromThereNs, formatInt row.rttNs, row.replyArrived.toList]

/-- A client, and where its pings are. -/
structure PingRun where
  fromNodeId : Nat
  toNodeId : Nat
  state : Ping

/-- `WriteResults`, into `pingmesh.csv`. -/
def writePingmeshCsv (clients : List PingRun) : Res Str :=
  forEach (fun file c => do
    let rows ← pingRows c.fromNodeId c.toNodeId c.state.client
    .ok (file ++ writeLines (rows.map csvLine))) clients []

/-! ## Reading -/

/-- One entry of each of the ten columns. -/
structure CsvRow where
  fromId : Int
  toId : Int
  pingNo : Int
  sendRequestTimestamp : Int
  replyTimestamp : Int
  receiveReplyTimestamp : Int
  latencyToThereNs : Int
  latencyFromThereNs : Int
  rttNs : Int
  arrived : Str
  deriving Repr, DecidableEq

/-- The functions of exputil: `read_csv_direct_in_columns` for the types of these columns, and `parse_positive_int`. -/
structure Exputil where
  readCsvDirectInColumns : Str → Plot (List CsvRow)
  parsePositiveInt : Str → Plot Int

/-- An entry of `ping_results`. -/
structure PingEntry where
  pingNo : Int
  sendRequestTimestamp : Int
  replyTimestamp : Int
  receiveReplyTimestamp : Int
  latencyToThereNs : Int
  latencyFromThereNs : Int
  rttNs : Int
  isLost : Bool
  deriving Repr, DecidableEq

/-- What the passes over the pings use of an entry. -/
def PingEntry.result (e : PingEntry) : PingResult := ⟨e.sendRequestTimestamp, e.receiveReplyTimestamp, e.isLost⟩

variable (u : Exputil)

/-- The checks of the times of a ping. -/
def checkTimes (isLost : Bool) (row : CsvRow) : Plot Unit :=
  if isLost then
    if row.replyTimestamp ≠ -1 ∨ row.receiveReplyTimestamp ≠ -1 ∨ row.latencyToThereNs ≠ -1 ∨ row.latencyFromThereNs ≠ -1 ∨
        row.rttNs ≠ -1 then
      .error (.valueError "Is lost so invalid timestamps should all be -1")
    else .ok ()
  else do
    let _ ← u.parsePositiveInt (formatInt row.replyTimestamp)
    let _ ← u.parsePositiveInt (formatInt row.receiveReplyTimestamp)
    let _ ← u.parsePositiveInt (formatInt row.latencyToThereNs)
    let _ ← u.parsePositiveInt (formatInt row.latencyFromThereNs)
    let _ ← u.parsePositiveInt (formatInt row.rttNs)
    .ok ()

def parseArrived (arrived : Str) : Plot Bool :=
  if arrived = "YES".toList then .ok false
  else if arrived = "LOST".toList then .ok true
  else .error (.valueError ("Invalid value for arrival: " ++ String.ofList arrived))

/-- `ping_results` and `prev_ping_no`. -/
structure PairState where
  pingResults : List PingEntry
  prevPingNo : Int
  deriving Repr, DecidableEq

/-- One round of the loop that finds all entries of a pair. -/
def pairRound (fromId toId : Int) (st : PairState) (row : CsvRow) : Plot PairState :=
  if row.fromId = fromId ∧ row.toId = toId then
    if row.pingNo ≠ st.prevPingNo + 1 then .error (.valueError "Ping number must be incrementally ascending")
    else do
      let isLost ← parseArrived row.arrived
      checkTimes u isLost row
      .ok { pingResults := st.pingResults ++ [⟨row.pingNo, row.sendRequestTimestamp, row.replyTimestamp,
              row.receiveReplyTimestamp, row.latencyToThereNs, row.latencyFromThereNs, row.rttNs, isLost⟩]
            prevPingNo := st.prevPingNo + 1 }
  else .ok st

/-- A line of the data file of the round trips. -/
def rttLine (fromId toId : Int) (e : PingEntry) : Str :=
  [','].intercalate [formatInt fromId, formatInt toId, formatInt e.sendRequestTimestamp,
    if e.isLost then ['0'] else formatInt e.rttNs]

/-- What `plot_ping` gets from the file and makes of it. -/
structure PingPlot where
  pingResults : List PingEntry
  dataRtt : Str
  isOutOfOrder : List Bool
  intervals : List (IntervalSum Int)

/-- `plot_ping`, without the plots themselves. -/
def plotPingmesh (fromId toId intervalNs : Int) (csv : Str) : Plot PingPlot := do
  let rows ← u.readCsvDirectInColumns csv
  let st ← forEach (pairRound u fromId toId) rows ⟨[], -1⟩
  let dataRtt := writeLines (st.pingResults.map (rttLine fromId toId))
  let (isOutOfOrder, intervals) ← plotPing intervalNs (st.pingResults.map PingEntry.result)
  .ok ⟨st.pingResults, dataRtt, isOutOfOrder, intervals⟩

/-- A line of a file of such columns. -/
def CsvRow.line (row : CsvRow) : Str :=
  [','].intercalate [formatInt row.fromId, formatInt row.toId, formatInt row.pingNo, formatInt row.sendRequestTimestamp,
    formatInt row.replyTimestamp, formatInt row.receiveReplyTimestamp, formatInt row.latencyToThereNs,
    formatInt row.latencyFromThereNs, formatInt row.rttNs, row.arrived]

def InInt64 (x : Int) : Prop := -2 ^ 63 ≤ x ∧ x < 2 ^ 63

/-- What the types of the columns ask of a row; the numbers have 64 bits. -/
structure CsvRow.Typed (row : CsvRow) : Prop where
  fromId : 0 ≤ row.fromId ∧ row.fromId < 2 ^ 63
  toId : 0 ≤ row.toId ∧ row.toId < 2 ^ 63
  pingNo : 0 ≤ row.pingNo ∧ row.pingNo < 2 ^ 63
  sendRequestTimestamp : 0 ≤ row.sendRequestTimestamp ∧ row.sendRequestTimestamp < 2 ^ 63
  times : ∀ x ∈ [row.replyTimestamp, row.receiveReplyTimestamp, row.latencyToThereNs, row.latencyFromThereNs, row.rttNs],
    InInt64 x
  arrived : ∀ c ∈ row.arrived, c.isAlpha = true

/-- Rows that are written with the types of their columns are read, and a number that is not negative is accepted. -/
structure ExputilLaws (u : Exputil) : Prop where
  read : ∀ rows : List CsvRow, (∀ row ∈ rows, row.Typed) → u.readCsvDirectInColumns (writeLines (rows.map CsvRow.line)) = .ok rows
  positive : ∀ x, 0 ≤ x → x < 2 ^ 63 → ∃ v, u.parsePositiveInt (formatInt x) = .ok v

/-! ## The rows of a client -/

/-- What a client knows of its ping `j`. -/
structure Known (c : UdpRttClient) (j : Nat) (send reply receive : Int) : Prop where
  send : c.sendRequestTimestamps[j]? = some send
  reply : c.replyTimestamps[j]? = some reply
  receive : c.receiveReplyTimestamps[j]? = some receive

/-- The entry of a ping with these times. -/
def entryOf (j : Nat) (send reply receive : Int) : PingEntry where
  pingNo := j
  sendRequestTimestamp := send
  replyTimestamp := reply
  receiveReplyTimestamp := receive
  latencyToThereNs := if reply ≠ -1 then reply - send else -1
  latencyFromThereNs := if reply ≠ -1 then receive - reply else -1
  rttNs := if reply ≠ -1 then receive - send else -1
  isLost := reply = -1

/-- The row of an entry. -/
def rowOf (fromId toId : Int) (e : PingEntry) : CsvRow :=
  ⟨fromId, toId, e.pingNo, e.sendRequestTimestamp, e.replyTimestamp, e.receiveReplyTimestamp, e.latencyToThereNs,
    e.latencyFromThereNs, e.rttNs, if e.isLost then "LOST".toList else "YES".toList⟩

variable {s : Ping}

theorem known_of_lt (hi : PingInv s) {j : Nat} (hj : j < s.client.sent) :
    ∃ send reply receive, Known s.client j send reply receive ∧ PingTimes s.now send reply receive := by
  have h₁ : j < s.client.sendRequestTimestamps.length := by rw [hi.send_length]; exact hj
  have h₂ : j < s.client.replyTimestamps.length := by rw [hi.reply_length]; exact hj
  have h₃ : j < s.client.receiveReplyTimestamps.length := by rw [hi.receive_length]; exact hj
  have hk : Known s.client j s.client.sendRequestTimestamps[j] s.client.replyTimestamps[j] s.client.receiveReplyTimestamps[j] :=
    ⟨List.getElem?_eq_getElem h₁, List.getElem?_eq_getElem h₂, List.getElem?_eq_getElem h₃⟩
  exact ⟨_, _, _, hk, hi.times j _ _ _ hk.send hk.reply hk.receive⟩

/-- The line that is written of a ping is that of its entry. -/
theorem pingRow_eq (hi : PingInv s) {j : Nat} {send reply receive : Int} (hk : Known s.client j send reply receive)
    (fromNodeId toNodeId : Nat) : ∃ row, pingRow fromNodeId toNodeId s.client j = .ok row ∧
      csvLine row = (rowOf fromNodeId toNodeId (entryOf j send reply receive)).line := by
  have ht := hi.times j _ _ _ hk.send hk.reply hk.receive
  have hnow := hi.now_lt
  unfold Apps.pingRow
  rw [index_ok.2 hk.send, ok_bind, index_ok.2 hk.reply, ok_bind, index_ok.2 hk.receive, ok_bind]
  obtain ⟨h0, -, ⟨rfl, rfl⟩ | ⟨hr, hv, hle⟩⟩ := ht
  · exact ⟨_, rfl, rfl⟩
  · have hne : reply ≠ -1 := by omega
    simp only [if_pos hne]
    rw [int64_eq (by omega) (by omega), ok_bind, int64_eq (by omega) (by omega), ok_bind,
      int64_eq (by omega) (by omega), ok_bind]
    refine ⟨_, rfl, ?_⟩
    simp only [csvLine, CsvRow.line, rowOf, entryOf, hne, ne_eq, not_false_eq_true, if_true, decide_false,
      show reply - send + (receive - reply) = receive - send by omega]
    rfl

theorem arrived_isAlpha (isLost : Bool) : ∀ c ∈ (if isLost then "LOST".toList else "YES".toList), c.isAlpha = true := by
  cases isLost
  · exact List.all_eq_true.1 rfl
  · exact List.all_eq_true.1 rfl

theorem typed_rowOf (hi : PingInv s) {j : Nat} (hj : j < 2 ^ 32) {send reply receive : Int}
    (hk : Known s.client j send reply receive) {fromNodeId toNodeId : Nat} (hfrom : fromNodeId < 2 ^ 32) (hto : toNodeId < 2 ^ 32) :
    (rowOf fromNodeId toNodeId (entryOf j send reply receive)).Typed := by
  have hnow := hi.now_lt
  obtain ⟨h0, hle, ht⟩ := hi.times j _ _ _ hk.send hk.reply hk.receive
  constructor <;> simp only [rowOf, entryOf]
  · omega
  · omega
  · omega
  · omega
  · unfold InInt64
    simp only [List.mem_cons, List.not_mem_nil, or_false, forall_eq_or_imp, forall_eq]
    obtain ⟨rfl, rfl⟩ | ⟨hr, hv, hle'⟩ := ht
    · simp
    · have hne : reply ≠ -1 := by omega
      simp only [hne, ne_eq, not_false_eq_true, if_true]
      omega
  · exact arrived_isAlpha _

/-- What `plot_ping` checks of an entry holds of all of them. -/
theorem checkTimes_ok {u : Exputil} (hu : ExputilLaws u) (hi : PingInv s) {j : Nat} {send reply receive : Int}
    (hk : Known s.client j send reply receive) (fromId toId : Int) :
    parseArrived (rowOf fromId toId (entryOf j send reply receive)).arrived = .ok (entryOf j send reply receive).isLost ∧
      checkTimes u (entryOf j send reply receive).isLost (rowOf fromId toId (entryOf j send reply receive)) = .ok () := by
  have hnow := hi.now_lt
  obtain ⟨h0, hle, ⟨rfl, rfl⟩ | ⟨hr, hv, hle'⟩⟩ := hi.times j _ _ _ hk.send hk.reply hk.receive
  · exact ⟨rfl, rfl⟩
  · have hne : reply ≠ -1 := by omega
    obtain ⟨v₁, h₁⟩ := hu.positive reply (by omega) (by omega)
    obtain ⟨v₂, h₂⟩ := hu.positive receive (by omega) (by omega)
    obtain ⟨v₃, h₃⟩ := hu.positive (reply - send) (by omega) (by omega)
    obtain ⟨v₄, h₄⟩ := hu.positive (receive - reply) (by omega) (by omega)
    obtain ⟨v₅, h₅⟩ := hu.positive (receive - send) (by omega) (by omega)
    have hlost : (entryOf j send reply receive).isLost = false := decide_eq_false hne
    constructor
    · rw [rowOf, hlost]
      rfl
    · unfold checkTimes rowOf
      rw [hlost]
      simp only [entryOf, hne, ne_eq, not_false_eq_true, if_true, Bool.false_eq_true, if_false, h₁, h₂, h₃, h₄, h₅, ok_bind]

/-- The entries of all pings of a client. -/
def entriesOf (c : UdpRttClient) : List PingEntry :=
  (List.range c.sent).map fun j =>
    entryOf j (c.sendRequestTimestamps.getD j 0) (c.replyTimestamps.getD j 0) (c.receiveReplyTimestamps.getD j 0)

theorem Known.lt (hi : PingInv s) {j : Nat} {send reply receive : Int} (hk : Known s.client j send reply receive) :
    j < s.client.sent := by
  rw [← hi.send_length]
  exact (List.getElem?_eq_some_iff.1 hk.send).1

theorem getElem?_entriesOf (hi : PingInv s) {j : Nat} {send reply receive : Int} (hk : Known s.client j send reply receive) :
    (entriesOf s.client)[j]? = some (entryOf j send reply receive) := by
  unfold entriesOf
  rw [List.getElem?_map, List.getElem?_range (hk.lt hi), Option.map_some, List.getD_eq_getElem?_getD, hk.send,
    List.getD_eq_getElem?_getD, hk.reply, List.getD_eq_getElem?_getD, hk.receive]
  rfl

theorem length_entriesOf (c : UdpRttClient) : (entriesOf c).length = c.sent := by
  unfold entriesOf
  rw [List.length_map, List.length_range]

/-- Every entry is that of a ping. -/
theorem mem_entriesOf (hi : PingInv s) {e : PingEntry} {j : Nat} (h : (entriesOf s.client)[j]? = some e) :
    ∃ send reply receive, Known s.client j send reply receive ∧ e = entryOf j send reply receive := by
  obtain ⟨hj, -⟩ := List.getElem?_eq_some_iff.1 h
  rw [length_entriesOf] at hj
  obtain ⟨send, reply, receive, hk, -⟩ := known_of_lt hi hj
  exact ⟨send, reply, receive, hk, Option.some.inj (h.symm.trans (getElem?_entriesOf hi hk))⟩

/-- The rows of a client. -/
def PingRun.rows (c : PingRun) : List CsvRow := (entriesOf c.state.client).map (rowOf c.fromNodeId c.toNodeId)

theorem pingRows_eq (hi : PingInv s) (fromNodeId toNodeId : Nat) : ∃ rows, pingRows fromNodeId toNodeId s.client = .ok rows ∧
    rows.map csvLine = (entriesOf s.client).map fun e => (rowOf fromNodeId toNodeId e).line := by
  have hloop := forRange_inv (fun j (rows : List PingRow) => rows.map csvLine =
      ((entriesOf s.client).take j).map fun e => (rowOf fromNodeId toNodeId e).line)
    (fun j rows => do
      let row ← pingRow fromNodeId toNodeId s.client j
      .ok (rows ++ [row])) s.client.sent [] rfl fun j hj rows hrows => ?_
  · rw [List.take_of_length_le (length_entriesOf _).le] at hloop
    exact hloop
  · obtain ⟨send, reply, receive, hk, -⟩ := known_of_lt hi hj
    obtain ⟨row, hrow, hline⟩ := pingRow_eq hi hk fromNodeId toNodeId
    refine ⟨rows ++ [row], by rw [hrow, ok_bind], ?_⟩
    rw [List.map_append, hrows, List.take_add_one, getElem?_entriesOf hi hk, List.map_append, List.map_singleton, hline]
    rfl

/-- What is in `pingmesh.csv` after a run. -/
theorem writePingmeshCsv_ok {clients : List PingRun} (h : ∀ c ∈ clients, PingInv c.state) :
    writePingmeshCsv clients = .ok (writeLines ((clients.flatMap PingRun.rows).map CsvRow.line)) := by
  obtain ⟨file, hrun, rfl⟩ := forEach_inv (fun file (c : PingRun) => do
      let rows ← pingRows c.fromNodeId c.toNodeId c.state.client
      .ok (file ++ writeLines (rows.map csvLine)))
    (fun done file => file = writeLines ((done.flatMap PingRun.rows).map CsvRow.line)) clients [] [] rfl
    fun c hc done file hfile => by
      obtain ⟨rows, hrows, hlines⟩ := pingRows_eq (h c hc) c.fromNodeId c.toNodeId
      refine ⟨_, by rw [hrows, ok_bind], ?_⟩
      rw [hfile, hlines]
      simp [writeLines, PingRun.rows, List.flatMap_map]
  exact hrun

/-! ## What is found of a pair -/

section Pair

variable {u : Exputil} {fromId toId : Nat}

theorem pairRound_own (hu : ExputilLaws u) (hi : PingInv s) {j : Nat} {send reply receive : Int}
    (hk : Known s.client j send reply receive) (st : PairState) :
    pairRound u fromId toId st (rowOf fromId toId (entryOf j send reply receive)) =
      if (j : Int) ≠ st.prevPingNo + 1 then .error (.valueError "Ping number must be incrementally ascending")
      else .ok ⟨st.pingResults ++ [entryOf j send reply receive], st.prevPingNo + 1⟩ := by
  obtain ⟨harrived, htimes⟩ := checkTimes_ok hu hi hk fromId toId
  unfold pairRound
  rw [if_pos ⟨rfl, rfl⟩, harrived, ok_bind, htimes, ok_bind]
  rfl

/-- The rows of another pair are passed over. -/
theorem rows_other {c : PingRun} (h : ¬(c.fromNodeId = fromId ∧ c.toNodeId = toId)) (st : PairState) :
    forEach (pairRound u fromId toId) c.rows st = .ok st := by
  have hpass : ∀ (es : List PingEntry), forEach (pairRound u fromId toId) (es.map (rowOf c.fromNodeId c.toNodeId)) st = .ok st := by
    intro es
    induction es with
    | nil => rfl
    | cons e es ih =>
      have hround : pairRound u fromId toId st (rowOf c.fromNodeId c.toNodeId e) = .ok st := by
        unfold pairRound
        rw [if_neg]
        simpa only [rowOf, Int.natCast_inj] using h
      rw [List.map_cons, forEach, hround, ok_bind, ih]
  exact hpass _

/-- The rows of the first client of the pair are all found. -/
theorem rows_first (hu : ExputilLaws u) {c : PingRun} (hi : PingInv c.state) (hfrom : c.fromNodeId = fromId)
    (hto : c.toNodeId = toId) :
    forEach (pairRound u fromId toId) c.rows ⟨[], -1⟩ = .ok ⟨entriesOf c.state.client, (c.state.client.sent : Int) - 1⟩ := by
  subst hfrom hto
  obtain ⟨st, hrun, rfl⟩ := forEach_ends (pairRound u c.fromNodeId c.toNodeId)
    (fun done st => st = ⟨(entriesOf c.state.client).take done.length, (done.length : Int) - 1⟩) (l := c.rows)
    (fun done x rest st hl hst => by
      have hx : c.rows[done.length]? = some x := by simp [hl]
      obtain ⟨e, he, rfl⟩ := Option.map_eq_some_iff.1 (List.getElem?_map .. ▸ hx)
      obtain ⟨send, reply, receive, hk, rfl⟩ := mem_entriesOf hi he
      refine ⟨_, (pairRound_own hu hi hk st).trans (if_neg ?_), ?_⟩
      · rw [hst]
        simp
      · rw [hst, List.length_append, List.length_singleton, List.take_add_one, he]
        simp) c.rows [] ⟨[], -1⟩ rfl rfl
  rw [hrun]
  simp [PingRun.rows, length_entriesOf, List.take_of_length_le]

/-- Behind them there may be no other ping of the pair. -/
theorem rows_again (hu : ExputilLaws u) {c : PingRun} (hi : PingInv c.state) (hfrom : c.fromNodeId = fromId)
    (hto : c.toNodeId = toId) (hsent : c.state.client.sent ≠ 0) {st : PairState} (hst : 0 ≤ st.prevPingNo) :
    forEach (pairRound u fromId toId) c.rows st = .error (.valueError "Ping number must be incrementally ascending") := by
  obtain ⟨send, reply, receive, hk, -⟩ := known_of_lt hi (Nat.pos_of_ne_zero hsent)
  have hfirst := getElem?_entriesOf hi hk
  cases hentries : entriesOf c.state.client with
  | nil =>
    rw [hentries] at hfirst
    cases hfirst
  | cons e es =>
    rw [hentries, List.getElem?_cons_zero] at hfirst
    cases hfirst
    unfold PingRun.rows
    rw [hentries, List.map_cons, forEach, hfrom, hto, pairRound_own hu hi hk, if_pos (by push_cast; omega), error_bind]

/-- The clients of the pair that have sent pings. -/
def pinging (clients : List PingRun) (fromId toId : Nat) : List PingRun :=
  clients.filter fun c => c.fromNodeId = fromId ∧ c.toNodeId = toId ∧ c.state.client.sent ≠ 0

/-- The rows of a client that has sent no ping of the pair change nothing. -/
theorem rows_none {c : PingRun} (h : ¬(c.fromNodeId = fromId ∧ c.toNodeId = toId ∧ c.state.client.sent ≠ 0)) (st : PairState) :
    forEach (pairRound u fromId toId) c.rows st = .ok st := by
  by_cases hpair : c.fromNodeId = fromId ∧ c.toNodeId = toId
  · have hsent : c.state.client.sent = 0 := by
      by_contra hne
      exact h ⟨hpair.1, hpair.2, hne⟩
    have hrows : c.rows = [] := by
      unfold PingRun.rows entriesOf
      rw [hsent]
      rfl
    rw [hrows]
    rfl
  · exact rows_other hpair st

theorem readClients_after (hu : ExputilLaws u) {st : PairState} (hst : 0 ≤ st.prevPingNo) : ∀ {clients : List PingRun},
    (∀ c ∈ clients, PingInv c.state) →
      forEach (fun st (c : PingRun) => forEach (pairRound u fromId toId) c.rows st) clients st =
        if pinging clients fromId toId = [] then .ok st
        else .error (.valueError "Ping number must be incrementally ascending")
  | [], _ => rfl
  | c :: clients, h => by
    obtain ⟨hi, hrest⟩ := List.forall_mem_cons.1 h
    rw [forEach]
    by_cases hc : c.fromNodeId = fromId ∧ c.toNodeId = toId ∧ c.state.client.sent ≠ 0
    · have hpinging : pinging (c :: clients) fromId toId = c :: pinging clients fromId toId :=
        List.filter_cons_of_pos (decide_eq_true hc)
      rw [rows_again hu hi hc.1 hc.2.1 hc.2.2 hst, error_bind, hpinging, if_neg (List.cons_ne_nil _ _)]
    · have hpinging : pinging (c :: clients) fromId toId = pinging clients fromId toId :=
        List.filter_cons_of_neg (by simpa using hc)
      rw [rows_none hc, ok_bind, hpinging, readClients_after hu hst hrest]

/-- What the loop finds depends on the clients of the pair. -/
theorem readClients (hu : ExputilLaws u) : ∀ {clients : List PingRun}, (∀ c ∈ clients, PingInv c.state) →
    (pinging clients fromId toId = [] → forEach (pairRound u fromId toId) (clients.flatMap PingRun.rows) ⟨[], -1⟩ = .ok ⟨[], -1⟩) ∧
    (∀ c, pinging clients fromId toId = [c] → forEach (pairRound u fromId toId) (clients.flatMap PingRun.rows) ⟨[], -1⟩ =
      .ok ⟨entriesOf c.state.client, (c.state.client.sent : Int) - 1⟩) ∧
    (1 < (pinging clients fromId toId).length → forEach (pairRound u fromId toId) (clients.flatMap PingRun.rows) ⟨[], -1⟩ =
      .error (.valueError "Ping number must be incrementally ascending"))
  | [], _ => ⟨fun _ => rfl, nofun, fun h => absurd h (Nat.not_lt_zero 1)⟩
  | c :: clients, h => by
    obtain ⟨hi, hrest⟩ := List.forall_mem_cons.1 h
    rw [List.flatMap_cons, forEach_append]
    by_cases hc : c.fromNodeId = fromId ∧ c.toNodeId = toId ∧ c.state.client.sent ≠ 0
    · have hpinging : pinging (c :: clients) fromId toId = c :: pinging clients fromId toId :=
        List.filter_cons_of_pos (decide_eq_true hc)
      have hsent : (0 : Int) ≤ (c.state.client.sent : Int) - 1 := by
        have := hc.2.2
        omega
      rw [rows_first hu hi hc.1 hc.2.1, ok_bind, forEach_flatMap, readClients_after hu hsent hrest, hpinging]
      refine ⟨nofun, fun c' hc' => ?_, fun hlt => ?_⟩
      · obtain ⟨rfl, hnil⟩ := List.cons.inj hc'
        rw [if_pos hnil]
      · rw [if_neg]
        rintro hnil
        rw [hnil] at hlt
        exact Nat.lt_irrefl 1 hlt
    · have hpinging : pinging (c :: clients) fromId toId = pinging clients fromId toId :=
        List.filter_cons_of_neg (by simpa using hc)
      rw [rows_none hc, ok_bind, hpinging]
      exact readClients hu hrest

end Pair

/-! ## What the plot shows -/

/-- The pings of a client were sent one after the other, and there are not too many of them. -/
theorem reachesPing_ascending (h : ReachesPing .initial s) :
    s.client.sendRequestTimestamps.Pairwise (· ≤ ·) ∧ s.client.sendRequestTimestamps.length < 2 ^ 32 := by
  induction h with
  | refl => exact ⟨.nil, Nat.two_pow_pos 32⟩
  | tail hreach hn ih =>
    obtain ⟨hasc, hlt⟩ := ih
    have hi := ReachesPing.inv hreach
    obtain ⟨e, hp, he⟩ := hn
    cases e with
    | wait t =>
      cases he
      exact ⟨hasc, hlt⟩
    | send =>
      cases he
      refine ⟨List.pairwise_append.2 ⟨hasc, List.pairwise_singleton _ _, fun x hx y hy => ?_⟩, ?_⟩
      · obtain ⟨i, hx⟩ := List.mem_iff_getElem?.1 hx
        rw [List.mem_singleton.1 hy]
        exact hi.send_le hx
      · simp only [UdpRttClient.send, List.length_append, List.length_singleton]
        exact hp
    | serverRead request =>
      cases he
      exact ⟨hasc, hlt⟩
    | clientRead reply =>
      obtain ⟨c, hc, he⟩ := bind_ok he
      cases he
      obtain ⟨-, -, rfl⟩ := handleRead_ok.1 hc
      exact ⟨hasc, hlt⟩

/-- The passes over the pings end. -/
theorem plotPing_ok {intervalNs : Int} {pings : List PingResult} (hlen : 1 ≤ intervalNs)
    (hpos : ∀ p ∈ pings, 0 ≤ p.sendRequestTimestamp)
    (hasc : (pings.map PingResult.sendRequestTimestamp).Pairwise (· ≤ ·)) :
    ∃ intervals, plotPing intervalNs pings = .ok ((backwardPass pings).1, intervals) ∧
      Tally (counted pings (backwardPass pings).1) intervalNs intervals := by
  have hfst := counted_map_fst (backwardPass_length pings)
  obtain ⟨b, hloop, htally⟩ := @forEach_place_tally intervalNs hlen (counted pings (backwardPass pings).1)
    (by rw [hfst]; exact List.forall_mem_map.2 hpos) (by rwa [hfst])
  refine ⟨_, ?_, htally⟩
  unfold plotPing
  simp only
  rw [forEach_countRound]
  unfold counted at hloop
  rw [hloop, ok_bind]

/-- The plot of a client: every ping with what the client knows of it, those that are lost or overtaken by a later one, and
of each interval how many of them were sent in it. -/
structure Shows (fromId toId intervalNs : Int) (s : Ping) (plot : PingPlot) : Prop where
  length : plot.pingResults.length = s.client.sent
  ping : ∀ j send reply receive, Known s.client j send reply receive →
    plot.pingResults[j]? = some (entryOf j send reply receive)
  times : ∀ e ∈ plot.pingResults, e.isLost = false →
    0 ≤ e.latencyToThereNs ∧ 0 ≤ e.latencyFromThereNs ∧ e.rttNs = e.latencyToThereNs + e.latencyFromThereNs
  dataRtt : getlines plot.dataRtt = plot.pingResults.map (rttLine fromId toId)
  marks : s.now ≤ 1000000000000000 →
    ∀ j, plot.isOutOfOrder[j]? = some true ↔ OutOfOrder (plot.pingResults.map PingEntry.result) j
  tally : Tally (counted (plot.pingResults.map PingEntry.result) plot.isOutOfOrder) intervalNs plot.intervals

theorem noNewline_rttLine (fromId toId : Int) (e : PingEntry) : '\n' ∉ rttLine fromId toId e := by
  have hint : ∀ x : Int, '\n' ∉ formatInt x := not_mem_formatInt rfl (by decide)
  have hlast : '\n' ∉ (if e.isLost then ['0'] else formatInt e.rttNs) := by
    split
    · decide
    · exact hint _
  simp [rttLine, List.intercalate, hint, hlast]

theorem shows_entriesOf (h : ReachesPing .initial s) {intervalNs : Int} (hlen : 1 ≤ intervalNs) (fromId toId : Int) :
    ∃ isOutOfOrder intervals, plotPing intervalNs ((entriesOf s.client).map PingEntry.result) = .ok (isOutOfOrder, intervals) ∧
      Shows fromId toId intervalNs s
        ⟨entriesOf s.client, writeLines ((entriesOf s.client).map (rttLine fromId toId)), isOutOfOrder, intervals⟩ := by
  have hi := h.inv
  have hmem : ∀ e ∈ entriesOf s.client, ∃ j send reply receive, Known s.client j send reply receive ∧
      e = entryOf j send reply receive := fun e he => by
    obtain ⟨j, hj⟩ := List.mem_iff_getElem?.1 he
    obtain ⟨send, reply, receive, hk, rfl⟩ := mem_entriesOf hi hj
    exact ⟨j, send, reply, receive, hk, rfl⟩
  have hsends : ((entriesOf s.client).map PingEntry.result).map PingResult.sendRequestTimestamp =
      s.client.sendRequestTimestamps := by
    refine List.ext_getElem? fun j => ?_
    rw [List.map_map, List.getElem?_map]
    by_cases hj : j < s.client.sent
    · obtain ⟨send, reply, receive, hk, -⟩ := known_of_lt hi hj
      rw [getElem?_entriesOf hi hk, hk.send]
      rfl
    · rw [List.getElem?_eq_none (by rw [length_entriesOf]; omega), List.getElem?_eq_none (by rw [hi.send_length]; omega)]
      rfl
  have hpos : ∀ p ∈ (entriesOf s.client).map PingEntry.result, 0 ≤ p.sendRequestTimestamp := by
    refine List.forall_mem_map.2 fun e he => ?_
    obtain ⟨j, send, reply, receive, hk, rfl⟩ := hmem e he
    exact (hi.times j send reply receive hk.send hk.reply hk.receive).1
  obtain ⟨intervals, hplot, htally⟩ := plotPing_ok hlen hpos (by rw [hsends]; exact (reachesPing_ascending h).1)
  refine ⟨_, intervals, hplot, length_entriesOf _, fun j send reply receive hk => getElem?_entriesOf hi hk, fun e he hlost => ?_, ?_,
    fun hnow => marks_iff.2 fun p hp => ?_, htally⟩
  · obtain ⟨j, send, reply, receive, hk, rfl⟩ := hmem e he
    have hne : reply ≠ -1 := of_decide_eq_false hlost
    obtain ⟨-, -, ⟨hr, -⟩ | ⟨hr, hv, -⟩⟩ := hi.times j send reply receive hk.send hk.reply hk.receive
    · exact absurd hr hne
    · simp only [entryOf, hne, ne_eq, not_false_eq_true, if_true]
      omega
  · exact getlines_writeLines (List.forall_mem_map.2 fun e _ => noNewline_rttLine fromId toId e)
  · -- no reply arrives later than the run has come
    obtain ⟨before, after, hsplit, -⟩ := lastArrived_split hp
    have hin : p ∈ (entriesOf s.client).map PingEntry.result := by simp [hsplit]
    obtain ⟨e, he, rfl⟩ := List.mem_map.1 hin
    obtain ⟨j, send, reply, receive, hk, rfl⟩ := hmem e he
    have hreceive : receive ≤ s.now := by
      obtain ⟨-, -, ⟨-, rfl⟩ | ⟨-, -, hv⟩⟩ := hi.times j send reply receive hk.send hk.reply hk.receive
      · omega
      · exact hv
    simp only [PingEntry.result, entryOf, initialLowestTimestamp]
    omega

/-- After any run of the clients, the plot of a pair is made exactly if at most one client of the pair has sent pings, and it
shows what that client knows. -/
theorem pingmesh_plotted {u : Exputil} (hu : ExputilLaws u) {clients : List PingRun}
    (hclients : ∀ c ∈ clients, ReachesPing .initial c.state) (hids : ∀ c ∈ clients, c.fromNodeId < 2 ^ 32 ∧ c.toNodeId < 2 ^ 32)
    {intervalNs : Int} (hlen : 1 ≤ intervalNs) (fromId toId : Nat) :
    ∃ csv, writePingmeshCsv clients = .ok csv ∧
      ((∃ plot, plotPingmesh u fromId toId intervalNs csv = .ok plot) ↔ (pinging clients fromId toId).length ≤ 1) ∧
      ∀ plot, plotPingmesh u fromId toId intervalNs csv = .ok plot →
        pinging clients fromId toId = [] ∧ plot.pingResults = [] ∨
          ∃ c, pinging clients fromId toId = [c] ∧ Shows fromId toId intervalNs c.state plot := by
  have hinv : ∀ c ∈ clients, PingInv c.state := fun c hc => (hclients c hc).inv
  have htyped : ∀ row ∈ clients.flatMap PingRun.rows, row.Typed := by
    intro row hrow
    obtain ⟨c, hc, hrow⟩ := List.mem_flatMap.1 hrow
    obtain ⟨e, he, rfl⟩ := List.mem_map.1 hrow
    obtain ⟨j, hj⟩ := List.mem_iff_getElem?.1 he
    obtain ⟨send, reply, receive, hk, rfl⟩ := mem_entriesOf (hinv c hc) hj
    have hlt := (reachesPing_ascending (hclients c hc)).2
    rw [(hinv c hc).send_length] at hlt
    exact typed_rowOf (hinv c hc) (Nat.lt_trans (hk.lt (hinv c hc)) hlt) hk (hids c hc).1 (hids c hc).2
  obtain ⟨hnone, hone, hmore⟩ := @readClients u fromId toId hu clients hinv
  refine ⟨_, writePingmeshCsv_ok hinv, ?_⟩
  have hread := hu.read _ htyped
  generalize writeLines ((clients.flatMap PingRun.rows).map CsvRow.line) = csv at hread
  have hrun : plotPingmesh u fromId toId intervalNs csv =
      forEach (pairRound u fromId toId) (clients.flatMap PingRun.rows) ⟨[], -1⟩ >>= fun st =>
        plotPing intervalNs (st.pingResults.map PingEntry.result) >>= fun r =>
          .ok ⟨st.pingResults, writeLines (st.pingResults.map (rttLine fromId toId)), r.1, r.2⟩ := by
    unfold plotPingmesh
    rw [hread, ok_bind]
  rw [hrun]
  cases hpinging : pinging clients fromId toId with
  | nil =>
    have hempty : plotPing intervalNs [] = .ok ([], [(first intervalNs).current]) := rfl
    rw [hnone hpinging, ok_bind, List.map_nil, hempty, ok_bind]
    refine ⟨iff_of_true ⟨_, rfl⟩ (Nat.zero_le 1), ?_⟩
    rintro plot ⟨⟩
    exact .inl ⟨rfl, rfl⟩
  | cons c rest =>
    cases rest with
    | nil =>
      have hc : c ∈ clients := List.mem_of_mem_filter (hpinging ▸ List.mem_singleton_self c)
      obtain ⟨isOutOfOrder, intervals, hplot, hshows⟩ := shows_entriesOf (hclients c hc) hlen fromId toId
      rw [hone c hpinging, ok_bind, hplot, ok_bind]
      refine ⟨iff_of_true ⟨_, rfl⟩ (Nat.le_refl 1), ?_⟩
      rintro plot ⟨⟩
      exact .inr ⟨c, rfl, hshows⟩
    | cons c' rest =>
      have hlt : 1 < (pinging clients fromId toId).length := by
        rw [hpinging, List.length_cons, List.length_cons]
        omega
      rw [hmore hlt, error_bind]
      refine ⟨iff_of_false nofun ?_, nofun⟩
      rw [← hpinging]
      omega

/-! ### Two pings of which one is lost -/

def intField (s : Str) : Plot Int :=
  match parseInt64 s with
  | .ok x => .ok x
  | .error _ => .error (.valueError "Not an integer")

def posIntField (s : Str) : Plot Int := do
  let x ← intField s
  if x < 0 then .error (.valueError "Must be positive") else .ok x

def csvRow (line : Str) : Plot CsvRow :=
  match line.splitOn ',' with
  | [a, b, c, d, e, f, g, h, i, arrived] => do
    let fromId ← posIntField a
    let toId ← posIntField b
    let pingNo ← posIntField c
    let send ← posIntField d
    let reply ← intField e
    let receive ← intField f
    let there ← intField g
    let back ← intField h
    let rtt ← intField i
    .ok ⟨fromId, toId, pingNo, send, reply, receive, there, back, rtt, arrived⟩
  | _ => .error (.valueError "Must have ten columns")

/-- The functions of exputil on numbers of 64 bits. -/
def plainExputil : Exputil where
  readCsvDirectInColumns text := forEach (fun rows line => do
    let row ← csvRow line
    .ok (rows ++ [row])) (getlines text) []
  parsePositiveInt := posIntField

theorem intField_formatInt {x : Int} (h : InInt64 x) : intField (formatInt x) = .ok x := by
  unfold intField
  rw [parseInt64_formatInt h.1 h.2]

theorem posIntField_formatInt {x : Int} (h : 0 ≤ x ∧ x < 2 ^ 63) : posIntField (formatInt x) = .ok x := by
  unfold posIntField
  rw [intField_formatInt ⟨by omega, h.2⟩, ok_bind, if_neg (by omega)]

theorem csvRow_line {row : CsvRow} (h : row.Typed) : csvRow row.line = .ok row := by
  have hint : ∀ x : Int, ',' ∉ formatInt x := not_mem_formatInt rfl (by decide)
  have harrived : ',' ∉ row.arrived := fun hm => absurd (h.arrived _ hm) (by decide)
  have hsplit : row.line.splitOn ',' = [formatInt row.fromId, formatInt row.toId, formatInt row.pingNo,
      formatInt row.sendRequestTimestamp, formatInt row.replyTimestamp, formatInt row.receiveReplyTimestamp,
      formatInt row.latencyToThereNs, formatInt row.latencyFromThereNs, formatInt row.rttNs, row.arrived] :=
    List.splitOn_intercalate ',' (by simp [hint, harrived]) (List.cons_ne_nil _ _)
  have htimes := h.times
  simp only [List.mem_cons, List.not_mem_nil, or_false, forall_eq_or_imp, forall_eq] at htimes
  obtain ⟨hreply, hreceive, hthere, hback, hrtt⟩ := htimes
  unfold csvRow
  rw [hsplit]
  simp only [posIntField_formatInt h.fromId, posIntField_formatInt h.toId, posIntField_formatInt h.pingNo,
    posIntField_formatInt h.sendRequestTimestamp, intField_formatInt hreply, intField_formatInt hreceive,
    intField_formatInt hthere, intField_formatInt hback, intField_formatInt hrtt, ok_bind]

theorem plainExputil_laws : ExputilLaws plainExputil where
  read rows h := by
    have hint : ∀ x : Int, '\n' ∉ formatInt x := not_mem_formatInt rfl (by decide)
    have hlines : getlines (writeLines (rows.map CsvRow.line)) = rows.map CsvRow.line := by
      refine getlines_writeLines (List.forall_mem_map.2 fun row hrow => ?_)
      have harrived : '\n' ∉ row.arrived := fun hm => absurd ((h row hrow).arrived _ hm) (by decide)
      simp [CsvRow.line, List.intercalate, hint, harrived]
    simp only [plainExputil, hlines]
    refine (forEach_read csvRow (fun rows row => rows ++ [row]) _ _ _).2 ⟨rows, ?_, by rw [foldl_collect, List.nil_append]⟩
    rw [List.forall₂_map_left_iff]
    exact List.forall₂_same.2 fun row hrow => csvRow_line (h row hrow)
  positive x h₁ h₂ := ⟨x, posIntField_formatInt ⟨h₁, h₂⟩⟩

theorem reachesPing_crossed : ReachesPing .initial crossedPings :=
  .head ⟨.wait 5, by decide, rfl⟩ (.head ⟨.send, by decide, rfl⟩ (.head ⟨.wait 7, by decide, rfl⟩
    (.head ⟨.send, by decide, rfl⟩ (.head ⟨.wait 9, by decide, rfl⟩
      (.head ⟨.serverRead ⟨1, 7⟩, by decide, rfl⟩ (.head ⟨.wait 12, by decide, rfl⟩
        (.single ⟨.clientRead ⟨1, 9⟩, by decide, rfl⟩)))))))

/-- One pair whose second ping has its reply, and another pair that has sent none. -/
theorem pingmesh_plotted_crossed : ∃ csv plot, writePingmeshCsv [⟨0, 1, crossedPings⟩, ⟨1, 0, .initial⟩] = .ok csv ∧
    plotPingmesh plainExputil 0 1 10 csv = .ok plot ∧ Shows 0 1 10 crossedPings plot := by
  have hreach : ∀ c ∈ [(⟨0, 1, crossedPings⟩ : PingRun), ⟨1, 0, .initial⟩], ReachesPing .initial c.state :=
    List.forall_mem_cons.2 ⟨reachesPing_crossed, List.forall_mem_singleton.2 .refl⟩
  have hids : ∀ c ∈ [(⟨0, 1, crossedPings⟩ : PingRun), ⟨1, 0, .initial⟩], c.fromNodeId < 2 ^ 32 ∧ c.toNodeId < 2 ^ 32 := by
    simp
  obtain ⟨csv, hwrite, hplots, hshows⟩ := pingmesh_plotted plainExputil_laws hreach hids (show (1 : Int) ≤ 10 by decide) 0 1
  have hpinging : pinging [(⟨0, 1, crossedPings⟩ : PingRun), ⟨1, 0, .initial⟩] 0 1 = [⟨0, 1, crossedPings⟩] := rfl
  obtain ⟨plot, hplot⟩ := hplots.2 (Nat.le_of_eq (congrArg List.length hpinging))
  rcases hshows plot hplot with ⟨hnone, -⟩ | ⟨c, hone, hshow⟩
  · rw [hpinging] at hnone
    cases hnone
  · rw [hpinging] at hone
    cases hone
    exact ⟨csv, plot, hwrite, hplot, hshow⟩

end SatNet.Apps.Plotting
