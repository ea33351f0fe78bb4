/-
The burst applications of all nodes over a network that may lose and reorder packets: of each burst the
packets sent are those received, in flight and lost, and every packet that arrives finds its burst.
-/
import SatNet.Apps.UdpBurstSchedule
import SatNet.Apps.Endpoints
import Mathlib.Logic.Function.Basic
import Mathlib.Logic.Relation
import Mathlib.Data.List.Count

namespace SatNet.Apps

open SatNet.ExpUtil SatNet.Loop

variable {ρ : Type}

/-! ## The network -/

/-- The applications by their nodes, the packets under way and those lost, and the history of what the
applications have counted. -/
structure BurstNetwork (ρ : Type) where
  apps : Nat → Option (UdpBurstApplication ρ)
  inFlight : List Datagram
  lost : List Datagram
  counted : List IdSeq

inductive NetEvent where
  | start (node : Nat)
  | send (now node internalBurstIdx : Nat)
  | arrive (now node : Nat) (datagram : Datagram)
  | lose (datagram : Datagram)

def BurstNetwork.setApp (s : BurstNetwork ρ) (node : Nat) (app : UdpBurstApplication ρ) : BurstNetwork ρ :=
  { s with apps := Function.update s.apps node (some app) }

/-- What an event does at the application of its node, if there is one. -/
def BurstNetwork.step (s : BurstNetwork ρ) : NetEvent → Res (BurstNetwork ρ)
  | .start node =>
    match s.apps node with
    | none => .ok s
    | some app => .ok (s.setApp node { app with socket := true })
  | .send now node idx =>
    match s.apps node with
    | none => .ok s
    | some app => do
      let (app, datagram) ← transmitFullPacket now idx app
      .ok { s.setApp node app with inFlight := s.inFlight ++ [datagram] }
  | .arrive now node datagram =>
    match s.apps node with
    | none => .ok s
    | some app => do
      let app ← handleBurstRead now datagram.idSeq app
      .ok { s.setApp node app with
        inFlight := s.inFlight.erase datagram
        counted := s.counted ++ [datagram.idSeq] }
  | .lose datagram => .ok { s with inFlight := s.inFlight.erase datagram, lost := s.lost ++ [datagram] }

/-- The node has the address on an interface other than the loopback. -/
def HoldsAddress (topology : Topology) (node : Nat) (a : Address) : Prop :=
  ∃ n, topology.nodes[node]? = some n ∧ ∃ i, 1 ≤ i ∧ n[i]? = some a

/-- Applications that were started send their bursts; a packet arrives at most once, and only at a started
application of a node that holds its address. -/
def Permitted (topology : Topology) (s : BurstNetwork ρ) : NetEvent → Prop
  | .start _ => True
  | .send _ node idx => ∃ app, s.apps node = some app ∧ app.socket = true ∧ idx < app.outgoingBursts.length
  | .arrive _ node datagram => datagram ∈ s.inFlight ∧ HoldsAddress topology node datagram.target ∧
      ∃ app, s.apps node = some app ∧ app.socket = true
  | .lose datagram => datagram ∈ s.inFlight

def NextNet (topology : Topology) (s s' : BurstNetwork ρ) : Prop := ∃ e, Permitted topology s e ∧ s.step e = .ok s'

def ReachesNet (topology : Topology) : BurstNetwork ρ → BurstNetwork ρ → Prop :=
  Relation.ReflTransGen (NextNet topology)

/-- The network of the systems whose schedulers have installed these applications. -/
def initialNetwork (schedulers : List (UdpBurstScheduler ρ)) : BurstNetwork ρ where
  apps := fun node => schedulers.findSome? fun s => s.apps.lookup node
  inFlight := []
  lost := []
  counted := []

/-! ## The counters -/

def getSentCounterOf (app : UdpBurstApplication ρ) (udpBurstId : Nat) : Res Nat :=
  match app.outgoingBursts.findIdx? fun o => o.1.udpBurstId = udpBurstId with
  | some i => index app.packetsSentCounter i
  | none => .error (.runtimeError "Sent counter for unknown UDP burst ID was requested")

def getReceivedCounterOf (app : UdpBurstApplication ρ) (udpBurstId : Nat) : Res Nat :=
  match app.receivedCounter udpBurstId with
  | some n => .ok n
  | none => .error mapAt

/-- The packets sent of a burst: none where no node sends it. -/
def BurstNetwork.sentOf (s : BurstNetwork ρ) (e : UdpBurstInfo ρ) : Res Nat :=
  match s.apps e.fromNodeId with
  | some app => getSentCounterOf app e.udpBurstId
  | none => .ok 0

def BurstNetwork.receivedOf (s : BurstNetwork ρ) (e : UdpBurstInfo ρ) : Res Nat :=
  match s.apps e.toNodeId with
  | some app => getReceivedCounterOf app e.udpBurstId
  | none => .ok 0

/-- The packets of a burst are sent, received, in flight or lost, none is counted twice, and no packet that
arrives is of a burst that its receiver does not know. -/
structure Conserved (topology : Topology) (schedule : List (UdpBurstInfo ρ)) (s : BurstNetwork ρ) : Prop where
  balance : ∀ e ∈ schedule, ∃ sent received, s.sentOf e = .ok sent ∧ s.receivedOf e = .ok received ∧
    sent = received + s.inFlight.countP (fun d => d.idSeq.id = e.udpBurstId) +
      s.lost.countP (fun d => d.idSeq.id = e.udpBurstId)
  counted : ∀ e ∈ schedule, s.receivedOf e = .ok (s.counted.countP fun p => p.id = e.udpBurstId)
  once : s.counted.Nodup
  known : ∀ now node datagram, Permitted topology s (.arrive now node datagram) →
    ∃ s', s.step (.arrive now node datagram) = .ok s'

/-! ## The invariant -/

variable {topology : Topology} {schedule : List (UdpBurstInfo ρ)} {s s' : BurstNetwork ρ}

/-- Every packet there has been, wherever it is now. -/
def BurstNetwork.all (s : BurstNetwork ρ) : List IdSeq :=
  s.inFlight.map Datagram.idSeq ++ s.lost.map Datagram.idSeq ++ s.counted

/-- What no event changes of an application. -/
structure Serves (topology : Topology) (schedule : List (UdpBurstInfo ρ)) (node : Nat) (app : UdpBurstApplication ρ) :
    Prop where
  outgoing : app.outgoingBursts.map Prod.fst = schedule.filter fun e => e.fromNodeId = node
  targets : ∀ o ∈ app.outgoingBursts, topology.node o.1.toNodeId >>= firstAddress = .ok o.2
  counters : app.packetsSentCounter.length = app.outgoingBursts.length
  logging : app.outgoingPreciseLogging.length = app.outgoingBursts.length
  known : ∀ id, app.receivedCounter id ≠ none ↔ ∃ e ∈ schedule, e.toNodeId = node ∧ e.udpBurstId = id

/-- The burst at place `k` of an application has sent exactly the packets with its id, numbered below its
counter. -/
def SentIds (s : BurstNetwork ρ) (app : UdpBurstApplication ρ) : Prop :=
  ∀ (k : Nat) o c, app.outgoingBursts[k]? = some o → app.packetsSentCounter[k]? = some c →
    s.all.countP (fun p => p.id = o.1.udpBurstId) = c ∧ ∀ p ∈ s.all, p.id = o.1.udpBurstId → p.seq < c

structure NetInv (topology : Topology) (schedule : List (UdpBurstInfo ρ)) (s : BurstNetwork ρ) : Prop where
  serves : ∀ node app, s.apps node = some app → Serves topology schedule node app
  installed : ∀ e ∈ topology.endpoints, s.apps e ≠ none
  nodup : s.all.Nodup
  origin : ∀ p ∈ s.all, ∃ e ∈ schedule, e.udpBurstId = p.id ∧ s.apps e.fromNodeId ≠ none
  target : ∀ d ∈ s.inFlight, ∃ e ∈ schedule, e.udpBurstId = d.idSeq.id ∧
    topology.node e.toNodeId >>= firstAddress = .ok d.target
  sent : ∀ node app, s.apps node = some app → SentIds s app
  received : ∀ node app id n, s.apps node = some app → app.receivedCounter id = some n →
    n = s.counted.countP fun p => p.id = id

theorem count_erase_map {l : List Datagram} {d : Datagram} (hd : d ∈ l) (p : IdSeq) :
    (l.map Datagram.idSeq).count p = ((l.erase d).map Datagram.idSeq).count p + [d.idSeq].count p := by
  have h := ((List.perm_cons_erase hd).map Datagram.idSeq).count_eq p
  rw [List.map_cons, ← List.singleton_append, List.count_append] at h
  omega

/-- A packet that is lost is still the same packet. -/
theorem all_lose {d : Datagram} (hd : d ∈ s.inFlight) (hflight : s'.inFlight = s.inFlight.erase d)
    (hlost : s'.lost = s.lost ++ [d]) (hcounted : s'.counted = s.counted) : s'.all.Perm s.all := by
  refine List.perm_iff_count.2 fun p => ?_
  simp only [BurstNetwork.all, hflight, hlost, hcounted, List.map_append, List.map_cons, List.map_nil,
    List.count_append, count_erase_map hd p]
  omega

/-- A packet that is counted is still the same packet. -/
theorem all_arrive {d : Datagram} (hd : d ∈ s.inFlight) (hflight : s'.inFlight = s.inFlight.erase d)
    (hlost : s'.lost = s.lost) (hcounted : s'.counted = s.counted ++ [d.idSeq]) : s'.all.Perm s.all := by
  refine List.perm_iff_count.2 fun p => ?_
  simp only [BurstNetwork.all, hflight, hlost, hcounted, List.count_append, count_erase_map hd p]
  omega

theorem all_send {d : Datagram} (hflight : s'.inFlight = s.inFlight ++ [d]) (hlost : s'.lost = s.lost)
    (hcounted : s'.counted = s.counted) : s'.all.Perm (d.idSeq :: s.all) := by
  refine List.perm_iff_count.2 fun p => ?_
  rw [← List.singleton_append]
  simp only [BurstNetwork.all, hflight, hlost, hcounted, List.map_append, List.map_cons, List.map_nil,
    List.count_append]
  omega

/-- A packet that only moves keeps what was sent of the bursts. -/
theorem SentIds.perm {app : UdpBurstApplication ρ} (h : SentIds s app) (hp : s'.all.Perm s.all) : SentIds s' app := by
  intro k o c ho hc
  obtain ⟨h₁, h₂⟩ := h k o c ho hc
  exact ⟨by rw [hp.countP_eq, h₁], fun p hm => h₂ p (hp.mem_iff.1 hm)⟩

/-! ## Each event keeps it -/

/-- A packet of the burst with id `p.id` changes nothing of what an application has sent of other bursts. -/
theorem SentIds.other {app : UdpBurstApplication ρ} {p : IdSeq} (h : SentIds s app) (hall : s'.all.Perm (p :: s.all))
    {k c : Nat} {o : Outgoing ρ} (ho : app.outgoingBursts[k]? = some o) (hc : app.packetsSentCounter[k]? = some c)
    (hne : p.id ≠ o.1.udpBurstId) :
    s'.all.countP (fun q => q.id = o.1.udpBurstId) = c ∧ ∀ q ∈ s'.all, q.id = o.1.udpBurstId → q.seq < c := by
  obtain ⟨hcount, hbelow⟩ := h k o c ho hc
  refine ⟨by rw [hall.countP_eq]; simp [hne, hcount], fun q hq hid => ?_⟩
  rcases List.mem_cons.1 (hall.mem_iff.1 hq) with rfl | hq
  · exact absurd hid hne
  · exact hbelow q hq hid

section Update

variable {node : Nat} {app' : UdpBurstApplication ρ} (h : s'.apps = Function.update s.apps node (some app'))
include h

theorem apps_of_update {v : Nat} {a : UdpBurstApplication ρ} (ha : s'.apps v = some a) :
    v = node ∧ a = app' ∨ v ≠ node ∧ s.apps v = some a := by
  rw [h, Function.update_apply] at ha
  split at ha
  · rename_i hv
    cases ha
    exact .inl ⟨hv, rfl⟩
  · rename_i hv
    exact .inr ⟨hv, ha⟩

theorem apps_ne_none {v : Nat} (hv : s.apps v ≠ none) : s'.apps v ≠ none := by
  rw [h, Function.update_apply]
  split
  · simp
  · exact hv

end Update

/-- Only the application of one node is another one, which serves as the one before did. -/
theorem NetInv.move {node : Nat} {app app' : UdpBurstApplication ρ} (hi : NetInv topology schedule s)
    (happ : s.apps node = some app) (happs : s'.apps = Function.update s.apps node (some app'))
    (hserves : Serves topology schedule node app') (hout : app'.outgoingBursts = app.outgoingBursts)
    (hcnt : app'.packetsSentCounter = app.packetsSentCounter) (hall : s'.all.Perm s.all)
    (hflight : ∀ d ∈ s'.inFlight, d ∈ s.inFlight)
    (hrecv : ∀ id n, app'.receivedCounter id = some n → n = s'.counted.countP fun p => p.id = id)
    (hothers : ∀ v a id n, v ≠ node → s.apps v = some a → a.receivedCounter id = some n →
      n = s'.counted.countP fun p => p.id = id) : NetInv topology schedule s' := by
  refine ⟨?_, fun e he => apps_ne_none happs (hi.installed e he), hall.nodup_iff.2 hi.nodup, ?_, ?_, ?_, ?_⟩
  · intro v a ha
    rcases apps_of_update happs ha with ⟨rfl, rfl⟩ | ⟨-, ha⟩
    · exact hserves
    · exact hi.serves v a ha
  · intro p hp
    obtain ⟨e, he, hid, hfrom⟩ := hi.origin p (hall.mem_iff.1 hp)
    exact ⟨e, he, hid, apps_ne_none happs hfrom⟩
  · exact fun d hd => hi.target d (hflight d hd)
  · intro v a ha
    rcases apps_of_update happs ha with ⟨rfl, rfl⟩ | ⟨-, ha⟩
    · have h := (hi.sent v app happ).perm hall
      intro k o c ho hc
      rw [hout] at ho
      rw [hcnt] at hc
      exact h k o c ho hc
    · exact (hi.sent v a ha).perm hall
  · intro v a id n ha hn
    rcases apps_of_update happs ha with ⟨rfl, rfl⟩ | ⟨hv, ha⟩
    · exact hrecv id n hn
    · exact hothers v a id n hv ha hn

theorem NetInv.start {node : Nat} (hi : NetInv topology schedule s) (h : s.step (.start node) = .ok s') :
    NetInv topology schedule s' := by
  cases happ : s.apps node with
  | none =>
    simp only [BurstNetwork.step, happ] at h
    cases h
    exact hi
  | some app =>
    simp only [BurstNetwork.step, happ] at h
    cases h
    have hs := hi.serves node app happ
    exact hi.move happ rfl
      ⟨hs.outgoing, hs.targets, hs.counters, hs.logging, hs.known⟩ rfl rfl (List.Perm.refl _) (fun _ h => h)
      (fun id n hn => hi.received node app id n happ hn) fun v a id n _ ha hn => hi.received v a id n ha hn

theorem NetInv.lose {d : Datagram} (hi : NetInv topology schedule s) (hd : d ∈ s.inFlight)
    (h : s.step (.lose d) = .ok s') : NetInv topology schedule s' := by
  cases h
  have hall : (BurstNetwork.all { s with inFlight := s.inFlight.erase d, lost := s.lost ++ [d] }).Perm s.all :=
    all_lose hd rfl rfl rfl
  refine ⟨hi.serves, hi.installed, hall.nodup_iff.2 hi.nodup, fun p hp => hi.origin p (hall.mem_iff.1 hp), ?_,
    fun v a ha => (hi.sent v a ha).perm hall, hi.received⟩
  exact fun d' hd' => hi.target d' (List.mem_of_mem_erase hd')

theorem Serves.mem {node : Nat} {app : UdpBurstApplication ρ} (hs : Serves topology schedule node app)
    {k : Nat} {o : Outgoing ρ} (ho : app.outgoingBursts[k]? = some o) :
    o.1 ∈ schedule ∧ o.1.fromNodeId = node := by
  have hmem : o.1 ∈ schedule.filter fun e => e.fromNodeId = node := by
    rw [← hs.outgoing]
    exact List.mem_map_of_mem (List.mem_of_getElem? ho)
  simpa using hmem

section Entries

variable {endNs : Nat} (ha : Accepted UdpBurstInfo.header topology endNs schedule)
include ha

/-- The id of a burst tells the node that sends it and its place there. -/
theorem Serves.place {v v' : Nat} {app app' : UdpBurstApplication ρ} (hs : Serves topology schedule v app)
    (hs' : Serves topology schedule v' app') (happ : v = v' → app = app') {k k' : Nat} {o o' : Outgoing ρ}
    (ho : app.outgoingBursts[k]? = some o) (ho' : app'.outgoingBursts[k']? = some o')
    (hid : o.1.udpBurstId = o'.1.udpBurstId) : v = v' ∧ k = k' := by
  obtain ⟨hmem, hfrom⟩ := hs.mem ho
  obtain ⟨hmem', hfrom'⟩ := hs'.mem ho'
  have he : o.1 = o'.1 := ha.eq_of_id hmem hmem' hid
  have hv : v = v' := by rw [← hfrom, ← hfrom', he]
  refine ⟨hv, ?_⟩
  obtain rfl := happ hv
  have hnodup : (app.outgoingBursts.map Prod.fst).Nodup := by
    rw [hs.outgoing]
    refine List.Nodup.filter _ (List.Nodup.of_map UdpBurstInfo.udpBurstId ?_)
    have hids := ha.ids
    simp only [UdpBurstInfo.header] at hids
    rw [hids]
    exact List.nodup_range
  have hk : (app.outgoingBursts.map Prod.fst)[k]? = some o.1 := by simp [ho]
  have hk' : (app.outgoingBursts.map Prod.fst)[k']? = some o.1 := by simp [ho', he]
  exact (List.getElem?_inj (lt_of_getElem?_eq_some hk) hnodup).1 (hk.trans hk'.symm)

/-- A burst is known to one node only. -/
theorem Serves.eq_of_known {v v' id : Nat} {app app' : UdpBurstApplication ρ} (hs : Serves topology schedule v app)
    (hs' : Serves topology schedule v' app') (h : app.receivedCounter id ≠ none) (h' : app'.receivedCounter id ≠ none) :
    v = v' := by
  obtain ⟨e, he, hto, hid⟩ := (hs.known id).1 h
  obtain ⟨e', he', hto', hid'⟩ := (hs'.known id).1 h'
  have : e = e' := ha.eq_of_id he he' (hid.trans hid'.symm)
  rw [← hto, ← hto', this]

/-- The next packet of the burst at place `idx` is one more with its id, and only that burst sends it. -/
theorem NetInv.sentIds {node idx c : Nat} {app app' : UdpBurstApplication ρ} {o : Outgoing ρ}
    (hi : NetInv topology schedule s) (happ : s.apps node = some app) (ho : app.outgoingBursts[idx]? = some o)
    (hc : app.packetsSentCounter[idx]? = some c) (hall : s'.all.Perm (⟨o.1.udpBurstId, c⟩ :: s.all))
    (hbursts : app'.outgoingBursts = app.outgoingBursts)
    (hcnt : app'.packetsSentCounter = app.packetsSentCounter.set idx (c + 1)) :
    SentIds s' app' ∧ ∀ v a, v ≠ node → s.apps v = some a → SentIds s' a := by
  have hs := hi.serves node app happ
  constructor
  · intro k o' c' ho' hc'
    rw [hbursts] at ho'
    rw [hcnt, List.getElem?_set] at hc'
    by_cases hk : idx = k
    · subst hk
      rw [ho] at ho'
      cases ho'
      rw [if_pos rfl, if_pos (lt_of_getElem?_eq_some hc), Option.some.injEq] at hc'
      obtain ⟨hcount, hbelow⟩ := hi.sent node app happ idx o c ho hc
      refine ⟨by rw [hall.countP_eq]; simp [hcount, hc'], fun q hq hid => ?_⟩
      rcases List.mem_cons.1 (hall.mem_iff.1 hq) with rfl | hq
      · simp only
        omega
      · have := hbelow q hq hid
        omega
    · rw [if_neg hk] at hc'
      exact (hi.sent node app happ).other hall ho' hc' fun hid =>
        hk (hs.place ha hs (fun _ => rfl) ho ho' hid).2
  · intro v a hv hva k o' c' ho' hc'
    refine (hi.sent v a hva).other hall ho' hc' fun hid => hv ?_
    refine (hs.place ha (hi.serves v a hva) (fun he => ?_) ho ho' hid).1.symm
    rw [he, hva] at happ
    exact (Option.some.inj happ).symm

theorem NetInv.send {now node idx : Nat} (hi : NetInv topology schedule s)
    (h : s.step (.send now node idx) = .ok s') : NetInv topology schedule s' := by
  cases happ : s.apps node with
  | none =>
    simp only [BurstNetwork.step, happ] at h
    cases h
    exact hi
  | some app =>
    simp only [BurstNetwork.step, happ] at h
    obtain ⟨⟨app', d⟩, htr, h⟩ := bind_ok h
    obtain ⟨happs, hflight, hlost, hcounted⟩ : s'.apps = Function.update s.apps node (some app') ∧
        s'.inFlight = s.inFlight ++ [d] ∧ s'.lost = s.lost ∧ s'.counted = s.counted := by
      cases h
      exact ⟨rfl, rfl, rfl, rfl⟩
    obtain ⟨⟨o, c, ho, hc, rfl, hcnt⟩, hbursts, hlog, -, hrecv⟩ := transmitFullPacket_ok htr
    have hs := hi.serves node app happ
    have hall := all_send hflight hlost hcounted
    obtain ⟨hsent, hothers⟩ := hi.sentIds ha happ ho hc hall hbursts hcnt
    refine ⟨?_, fun e he => apps_ne_none happs (hi.installed e he), ?_, ?_, ?_, ?_, ?_⟩
    · intro v a hva
      rcases apps_of_update happs hva with ⟨rfl, rfl⟩ | ⟨-, hva⟩
      · exact ⟨by rw [hbursts, hs.outgoing], by rw [hbursts]; exact hs.targets,
          by rw [hcnt, hbursts, List.length_set, hs.counters], by rw [hlog, hbursts, hs.logging],
          by rw [hrecv]; exact hs.known⟩
      · exact hi.serves v a hva
    · refine hall.nodup_iff.2 (List.nodup_cons.2 ⟨fun hmem => ?_, hi.nodup⟩)
      have := (hi.sent node app happ idx o c ho hc).2 _ hmem rfl
      simp only at this
      omega
    · intro p hp
      rcases List.mem_cons.1 (hall.mem_iff.1 hp) with rfl | hp
      · obtain ⟨hmem, hfrom⟩ := hs.mem ho
        exact ⟨o.1, hmem, rfl, apps_ne_none happs (by rw [hfrom, happ]; simp)⟩
      · obtain ⟨e, he, hid, hfrom⟩ := hi.origin p hp
        exact ⟨e, he, hid, apps_ne_none happs hfrom⟩
    · intro d hd
      rw [hflight] at hd
      rcases List.mem_append.1 hd with hd | hd
      · exact hi.target d hd
      · rw [List.mem_singleton.1 hd]
        exact ⟨o.1, (hs.mem ho).1, rfl, hs.targets o (List.mem_of_getElem? ho)⟩
    · intro v a hva
      rcases apps_of_update happs hva with ⟨rfl, rfl⟩ | ⟨hv, hva⟩
      · exact hsent
      · exact hothers v a hv hva
    · intro v a id n hva hn
      rw [hcounted]
      rcases apps_of_update happs hva with ⟨rfl, rfl⟩ | ⟨-, hva⟩
      · rw [hrecv] at hn
        exact hi.received v app id n happ hn
      · exact hi.received v a id n hva hn

theorem NetInv.arrive {now node : Nat} {d : Datagram} (hi : NetInv topology schedule s) (hd : d ∈ s.inFlight)
    (h : s.step (.arrive now node d) = .ok s') : NetInv topology schedule s' := by
  cases happ : s.apps node with
  | none =>
    simp only [BurstNetwork.step, happ] at h
    cases h
    exact hi
  | some app =>
    simp only [BurstNetwork.step, happ] at h
    obtain ⟨app', hread, h⟩ := bind_ok h
    obtain ⟨happs, hflight, hlost, hcounted⟩ : s'.apps = Function.update s.apps node (some app') ∧
        s'.inFlight = s.inFlight.erase d ∧ s'.lost = s.lost ∧ s'.counted = s.counted ++ [d.idSeq] := by
      cases h
      exact ⟨rfl, rfl, rfl, rfl⟩
    obtain ⟨⟨n, hn, hcnt⟩, hbursts, hsent, hlog⟩ := handleBurstRead_ok hread
    have hs := hi.serves node app happ
    have hcount : ∀ id, s'.counted.countP (fun p => p.id = id) =
        s.counted.countP (fun p => p.id = id) + if d.idSeq.id = id then 1 else 0 := by
      intro id
      rw [hcounted, List.countP_append]
      simp [List.countP_cons]
    refine hi.move happ happs
      ⟨by rw [hbursts, hs.outgoing], by rw [hbursts]; exact hs.targets, by rw [hsent, hbursts, hs.counters],
        by rw [hlog, hbursts, hs.logging], ?_⟩ hbursts hsent (all_arrive hd hflight hlost hcounted)
      (fun d' hd' => List.mem_of_mem_erase (by rw [hflight] at hd'; exact hd')) ?_ ?_
    · intro id
      rw [← hs.known, hcnt]
      by_cases hid : id = d.idSeq.id
      · simp [hid, hn]
      · simp [hid]
    · intro id m hm
      rw [hcnt] at hm
      rw [hcount]
      simp only at hm
      by_cases hid : id = d.idSeq.id
      · rw [if_pos hid, Option.some.injEq] at hm
        rw [if_pos hid.symm, ← hm, hid, ← hi.received node app _ n happ hn]
      · rw [if_neg hid] at hm
        rw [if_neg fun he => hid he.symm, hi.received node app id m happ hm, Nat.add_zero]
    · intro v a id m hv hva hm
      have hne : d.idSeq.id ≠ id := by
        rintro rfl
        exact hv ((hi.serves v a hva).eq_of_known ha hs (by rw [hm]; simp) (by rw [hn]; simp))
      rw [hcount, if_neg hne, Nat.add_zero]
      exact hi.received v a id m hva hm

theorem next_inv (hi : NetInv topology schedule s) (h : NextNet topology s s') : NetInv topology schedule s' := by
  obtain ⟨e, hp, h⟩ := h
  cases e with
  | start node => exact hi.start h
  | send now node idx => exact hi.send ha h
  | arrive now node d => exact hi.arrive ha hp.1 h
  | lose d => exact hi.lose hp h

theorem reachesNet_inv (hi : NetInv topology schedule s) (h : ReachesNet topology s s') :
    NetInv topology schedule s' := by
  induction h with
  | refl => exact hi
  | tail _ hn ih => exact next_inv ha ih hn

end Entries

/-! ## The start of a run -/

theorem HoldsEntries.serves {node : Nat} {app : UdpBurstApplication ρ} (h : HoldsEntries topology node schedule app) :
    Serves topology schedule node app where
  outgoing := h.outgoing
  targets := h.targets
  counters := by rw [h.registered.counters, List.length_replicate]
  logging := h.registered.logging
  known := by
    intro id
    rw [h.counters, h.incoming]
    simp [and_assoc]

/-- Every endpoint belongs to one of the systems, whose schedulers have all installed their applications. -/
theorem netInv_initial {bs : List BasicSimulation} {loggingIds : List Nat} {schedulers : List (UdpBurstScheduler ρ)}
    (hprep : List.Forall₂ (fun b s => prepareUdpBursts b topology loggingIds schedule = .ok s) bs schedulers)
    (hcover : ∀ e ∈ topology.endpoints, ∃ b ∈ bs, b.owns e = true) :
    NetInv topology schedule (initialNetwork schedulers) := by
  have hholds : ∀ node app, (initialNetwork schedulers).apps node = some app →
      HoldsEntries topology node schedule app := by
    intro node app happ
    obtain ⟨s, hs, hlook⟩ := List.exists_of_findSome?_eq_some happ
    obtain ⟨b, -, hb⟩ := forall₂_mem_right hprep s hs
    exact prepareUdpBursts_holds hb hlook
  refine ⟨fun node app happ => (hholds node app happ).serves, ?_, List.nodup_nil,
    by simp [BurstNetwork.all, initialNetwork],
    by simp [initialNetwork], ?_, ?_⟩
  · intro e he hnone
    obtain ⟨b, hb, hown⟩ := hcover e he
    obtain ⟨s, hs, hprep⟩ := forall₂_mem_left hprep b hb
    exact prepareUdpBursts_installed hprep he hown (List.findSome?_eq_none_iff.1 hnone s hs)
  · intro node app happ k o c ho hc
    rw [(hholds node app happ).registered.counters, List.getElem?_replicate] at hc
    split at hc
    · cases hc
      exact ⟨rfl, by simp [BurstNetwork.all, initialNetwork]⟩
    · cases hc
  · intro node app id n happ hn
    rw [(hholds node app happ).counters] at hn
    split at hn
    · cases hn
      rfl
    · cases hn

/-- After `StartApplication` of every application. -/
def BurstNetwork.started (s : BurstNetwork ρ) : BurstNetwork ρ :=
  { s with apps := fun node => (s.apps node).map fun app => { app with socket := true } }

theorem NetInv.started (hi : NetInv topology schedule s) : NetInv topology schedule s.started := by
  have hfrom : ∀ node app, s.started.apps node = some app →
      ∃ app₀, s.apps node = some app₀ ∧ { app₀ with socket := true } = app :=
    fun node app happ => Option.map_eq_some_iff.1 happ
  have hnone : ∀ node, s.apps node ≠ none → s.started.apps node ≠ none :=
    fun node hne hnone => hne (Option.map_eq_none_iff.1 hnone)
  refine ⟨fun node app happ => ?_, fun e he => hnone e (hi.installed e he), hi.nodup, fun p hp => ?_, hi.target,
    fun node app happ => ?_, fun node app id n happ hn => ?_⟩
  · obtain ⟨app₀, happ₀, rfl⟩ := hfrom node app happ
    have hs := hi.serves node app₀ happ₀
    exact ⟨hs.outgoing, hs.targets, hs.counters, hs.logging, hs.known⟩
  · obtain ⟨e, he, hid, hne⟩ := hi.origin p hp
    exact ⟨e, he, hid, hnone _ hne⟩
  · obtain ⟨app₀, happ₀, rfl⟩ := hfrom node app happ
    exact hi.sent node app₀ happ₀
  · obtain ⟨app₀, happ₀, rfl⟩ := hfrom node app happ
    exact hi.received node app₀ id n happ₀ hn

/-! ## What every run keeps -/

/-- No address is on two nodes, other than that of the loopback. -/
def UniqueAddresses (topology : Topology) : Prop :=
  ∀ u v a, HoldsAddress topology u a → HoldsAddress topology v a → u = v

/-- A packet arrives at the node that its burst goes to. -/
theorem NetInv.receiver {node : Nat} {d : Datagram} (hi : NetInv topology schedule s) (huniq : UniqueAddresses topology)
    (hto : ∀ e ∈ schedule, e.toNodeId < topology.nodes.length) (hd : d ∈ s.inFlight)
    (hnode : HoldsAddress topology node d.target) :
    ∃ e ∈ schedule, e.udpBurstId = d.idSeq.id ∧ e.toNodeId = node := by
  obtain ⟨e, he, hid, htarget⟩ := hi.target d hd
  refine ⟨e, he, hid, huniq _ _ _ ?_ hnode⟩
  rw [topology.node_eq (hto e he), ok_bind] at htarget
  unfold firstAddress at htarget
  split at htarget
  · rename_i a hfirst
    cases htarget
    exact ⟨_, List.getElem?_eq_getElem (hto e he), 1, le_rfl, hfirst⟩
  · cases htarget

theorem NetInv.arrive_ok {now node : Nat} {d : Datagram} (hi : NetInv topology schedule s)
    (huniq : UniqueAddresses topology) (hto : ∀ e ∈ schedule, e.toNodeId < topology.nodes.length)
    (h : Permitted topology s (.arrive now node d)) : ∃ s', s.step (.arrive now node d) = .ok s' := by
  obtain ⟨hd, hnode, app, happ, -⟩ := h
  obtain ⟨e, he, hid, hnode⟩ := hi.receiver huniq hto hd hnode
  have hknown := ((hi.serves node app happ).known d.idSeq.id).2 ⟨e, he, hnode, hid⟩
  simp only [BurstNetwork.step, happ, handleBurstRead]
  split
  · rename_i hnone
    exact absurd hnone hknown
  · exact ⟨_, rfl⟩

theorem NetInv.sentOf_eq {e : UdpBurstInfo ρ} {endNs : Nat} (ha : Accepted UdpBurstInfo.header topology endNs schedule)
    (hi : NetInv topology schedule s) (he : e ∈ schedule) :
    s.sentOf e = .ok (s.all.countP fun p => p.id = e.udpBurstId) := by
  unfold BurstNetwork.sentOf
  cases happ : s.apps e.fromNodeId with
  | none =>
    -- no node sends this burst, so there is no packet of it
    have hzero : s.all.countP (fun p => p.id = e.udpBurstId) = 0 := by
      refine List.countP_eq_zero.2 fun p hp hid => ?_
      obtain ⟨e', he', hid', hfrom⟩ := hi.origin p hp
      have hp : p.id = e.udpBurstId := by simpa using hid
      rw [ha.eq_of_id he' he (hid'.trans hp)] at hfrom
      exact hfrom happ
    rw [hzero]
  | some app =>
    have hs := hi.serves _ app happ
    obtain ⟨o, ho, rfl⟩ : ∃ o ∈ app.outgoingBursts, o.1 = e := by
      have hmem : e ∈ app.outgoingBursts.map Prod.fst := by
        rw [hs.outgoing]
        exact List.mem_filter.2 ⟨he, by simp⟩
      exact List.mem_map.1 hmem
    simp only [getSentCounterOf]
    cases hidx : app.outgoingBursts.findIdx? fun o' => o'.1.udpBurstId = o.1.udpBurstId with
    | none =>
      have := List.findIdx?_eq_none_iff.1 hidx o ho
      simp at this
    | some i =>
      obtain ⟨hlt, hid, -⟩ := List.findIdx?_eq_some_iff_getElem.1 hidx
      have hlt' : i < app.packetsSentCounter.length := by rw [hs.counters]; exact hlt
      have hsent := hi.sent _ app happ i _ _ (List.getElem?_eq_getElem hlt) (List.getElem?_eq_getElem hlt')
      simp only
      rw [index_lt hlt', ← hsent.1, of_decide_eq_true hid]

theorem NetInv.receivedOf_eq {e : UdpBurstInfo ρ} (hi : NetInv topology schedule s)
    (hin : e.toNodeId ∈ topology.endpoints) (he : e ∈ schedule) :
    s.receivedOf e = .ok (s.counted.countP fun p => p.id = e.udpBurstId) := by
  unfold BurstNetwork.receivedOf getReceivedCounterOf
  cases happ : s.apps e.toNodeId with
  | none => exact absurd happ (hi.installed _ hin)
  | some app =>
    simp only
    have hknown := ((hi.serves _ app happ).known e.udpBurstId).2 ⟨e, he, rfl, rfl⟩
    cases hn : app.receivedCounter e.udpBurstId with
    | none => exact absurd hn hknown
    | some n => simp only [hi.received _ app _ n happ hn]

/-- In every run of the applications of all systems, over every schedule that is read: of each burst the
packets sent are those received, in flight and lost, none is counted twice, and every packet that arrives is
of a burst its receiver knows; if all bursts go to nodes of the topology. -/
theorem reachesNet_conserved {rates : RateReader ρ} {filename : Str} {file : File} {endNs : Nat}
    {bs : List BasicSimulation} {loggingIds : List Nat} {schedulers : List (UdpBurstScheduler ρ)}
    (hread : readUdpBurstSchedule rates filename file topology endNs = .ok schedule)
    (hprep : List.Forall₂ (fun b s => prepareUdpBursts b topology loggingIds schedule = .ok s) bs schedulers)
    (hcover : ∀ e ∈ topology.endpoints, ∃ b ∈ bs, b.owns e = true) (huniq : UniqueAddresses topology)
    (hto : ∀ e ∈ schedule, e.toNodeId < topology.nodes.length)
    (hr : ReachesNet topology (initialNetwork schedulers) s) : Conserved topology schedule s := by
  have ha := readUdpBurstSchedule_ok hread
  have hi := reachesNet_inv ha (netInv_initial hprep hcover) hr
  have hreceived : ∀ e ∈ schedule, s.receivedOf e = .ok (s.counted.countP fun p => p.id = e.udpBurstId) :=
    fun e he => hi.receivedOf_eq (topology.valid_endpoint _ (hto e he) (ha.to_valid e he)) he
  refine ⟨fun e he => ⟨_, _, hi.sentOf_eq ha he, hreceived e he, ?_⟩, hreceived, ?_, ?_⟩
  · simp only [BurstNetwork.all, List.countP_append, List.countP_map, Function.comp_def]
    omega
  · exact (List.nodup_append.1 hi.nodup).2.1
  · exact fun now node d h => hi.arrive_ok huniq hto h

/-! ### One burst between two nodes -/

theorem pair_uniqueAddresses (all : Bool) : UniqueAddresses (pair all).topology := by
  have hlink : ∀ u a, HoldsAddress (pair all).topology u a → u = 0 ∧ a = 0x0a000001 ∨ u = 1 ∧ a = 0x0a000002 := by
    rintro u a ⟨n, hn, i, hi, ha⟩
    match u, hn with
    | 0, hn =>
      cases hn
      match i, ha with
      | 1, ha => exact .inl ⟨rfl, (Option.some.inj ha).symm⟩
    | 1, hn =>
      cases hn
      match i, ha with
      | 1, ha => exact .inr ⟨rfl, (Option.some.inj ha).symm⟩
  rintro u v a hu hv
  rcases hlink u a hu with ⟨rfl, rfl⟩ | ⟨rfl, rfl⟩
  · rcases hlink v _ hv with ⟨rfl, -⟩ | ⟨-, hne⟩
    · rfl
    · exact absurd hne (by decide)
  · rcases hlink v _ hv with ⟨-, hne⟩ | ⟨rfl, -⟩
    · exact absurd hne (by decide)
    · rfl

/-- A burst from node 0 that is read, and what the scheduler makes of it. -/
def fromZero (toNodeId : Nat) : UdpBurstInfo Nat := ⟨0, 0, toNodeId, 100, 0, 1000, [], []⟩

def fromZeroApp (toNodeId : Nat) : UdpBurstApplication Nat :=
  { UdpBurstApplication.initial with
    outgoingBursts := [(fromZero toNodeId, 0x0a000002)]
    packetsSentCounter := [0]
    outgoingPreciseLogging := [false] }

/-- The first packet of the burst is on its way to node 1. -/
def oneUnderWay (toNodeId : Nat) (receiver : UdpBurstApplication Nat) : BurstNetwork Nat where
  apps := Function.update (Function.update (Function.update
    (initialNetwork [⟨[fromZero toNodeId], [(0, fromZeroApp toNodeId), (1, receiver)], [], []⟩]).apps
      0 (some { fromZeroApp toNodeId with socket := true })) 1 (some { receiver with socket := true }))
      0 (some { fromZeroApp toNodeId with socket := true, packetsSentCounter := [1] })
  inFlight := [⟨⟨0, 0⟩, 0x0a000002⟩]
  lost := []
  counted := []

theorem reachesNet_oneUnderWay {topology : Topology} (toNodeId : Nat) (receiver : UdpBurstApplication Nat)
    (outgoing incoming : List (UdpBurstInfo Nat × Nat)) :
    ReachesNet topology
      (initialNetwork [⟨[fromZero toNodeId], [(0, fromZeroApp toNodeId), (1, receiver)], outgoing, incoming⟩])
      (oneUnderWay toNodeId receiver) :=
  ((Relation.ReflTransGen.single ⟨.start 0, trivial, rfl⟩).tail ⟨.start 1, trivial, rfl⟩).tail
    ⟨.send 0 0 0, ⟨{ fromZeroApp toNodeId with socket := true }, rfl, rfl, Nat.one_pos⟩, rfl⟩

/-- The application of node 1 where the burst goes there. -/
def toOneApp : UdpBurstApplication Nat :=
  { UdpBurstApplication.initial with
    incomingBursts := [fromZero 1]
    receivedCounter := fun id => if id = 0 then some 0 else none
    incomingPreciseLogging := fun id => if id = 0 then false else false }

theorem reachesNet_conserved_oneUnderWay :
    Conserved (pair false).topology [fromZero 1] (oneUnderWay 1 toOneApp) := by
  have hread : readUdpBurstSchedule wholeRates [] (.lines ["0,0,1,100,0,1000,,".toList]) (pair false).topology
      1000000000 = .ok [fromZero 1] := by decide +kernel
  have hprep : prepareUdpBursts pairSimulation (pair false).topology [] [fromZero 1] =
      .ok ⟨[fromZero 1], [(0, fromZeroApp 1), (1, toOneApp)], [(fromZero 1, 0)], [(fromZero 1, 1)]⟩ := rfl
  exact reachesNet_conserved hread (.cons hprep .nil) (fun e _ => ⟨_, List.mem_singleton_self _, rfl⟩)
    (pair_uniqueAddresses false) (by decide) (reachesNet_oneUnderWay 1 toOneApp _ _)

/-- A burst to node 2^32 + 1, which the container of the nodes takes for node 1: its packets arrive at an
application that does not know it. -/
theorem conserved_counterexample :
    readUdpBurstSchedule wholeRates [] (.lines ["0,0,4294967297,100,0,1000,,".toList]) (pair true).topology
        1000000000 = .ok [fromZero (2 ^ 32 + 1)] ∧
      ∃ s net, prepareUdpBursts pairSimulation (pair true).topology [] [fromZero (2 ^ 32 + 1)] = .ok s ∧
        ReachesNet (pair true).topology (initialNetwork [s]) net ∧
        ∃ datagram, Permitted (pair true).topology net (.arrive 0 1 datagram) ∧
          net.step (.arrive 0 1 datagram) = .error mapAt := by
  refine ⟨by decide +kernel, ⟨[fromZero (2 ^ 32 + 1)], [(0, fromZeroApp (2 ^ 32 + 1)), (1, .initial)],
    [(fromZero (2 ^ 32 + 1), 0)], []⟩, oneUnderWay (2 ^ 32 + 1) .initial, rfl, reachesNet_oneUnderWay _ _ _ _,
    ⟨⟨0, 0⟩, 0x0a000002⟩, ⟨List.mem_singleton_self _, ?_, _, rfl, rfl⟩, rfl⟩
  exact ⟨_, rfl, 1, le_rfl, rfl⟩

end SatNet.Apps
