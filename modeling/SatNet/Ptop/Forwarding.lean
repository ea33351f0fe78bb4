/-
Forwarding a packet hop by hop through the installed ECMP arbiters: whatever the hash picks at every
hop, the packet takes a shortest path to its target.
-/
import SatNet.Ptop.ArbiterEcmp
import SatNet.Lib.Hops

namespace SatNet.Ptop

open SatNet.Loop

/-! ## Hops -/

/-- What a decision can depend on besides the arbiter and the target: the hash function, the mutable
members of the arbiter, the packet and its header. -/
structure Visit (H : Type) where
  hasher : Hasher H
  scratch : Scratch H
  pkt : Packet
  ipHeader : Ipv4Header
  isSocketRequest : Bool

/-- Why a packet does not go on. -/
inductive Stop where
  | noRoute
  | failed (why : Fail)
  | hopLimit
  deriving Repr, DecidableEq

/-- One hop: the arbiter of the node decides, and the packet goes out of the interface. -/
def hop {H : Type} (net : Links) (arbiters : List ArbiterEcmp) (target : Nat) (visit : Visit H) (u : Nat) :
    Except Stop Nat :=
  match index arbiters u with
  | .error e => .error (.failed e)
  | .ok a =>
    match ((a.decide visit.hasher target visit.pkt visit.ipHeader visit.isSocketRequest).run visit.scratch).1 with
    | .error e => .error (.failed e)
    | .ok res =>
      if res.failed then .error .noRoute
      else match net.transmit u res.outIfIdx with
        | .error e => .error (.failed e)
        | .ok (v, _) => .ok v

/-- The nodes a packet for `target` visits from `s` on, with `visits k` at its hop number `k`. -/
def forward {H : Type} (net : Links) (arbiters : List ArbiterEcmp) (target : Nat) (visits : Nat → Visit H)
    (hopLimit s : Nat) : Except Stop (List Nat) :=
  Hops.follow (fun u => decide (u = target)) .hopLimit (fun k u => hop net arbiters target (visits k) u) hopLimit 0 s

/-! ## Shortest paths -/

section Shortest

variable {t : TopologyPtop} {net : Links} {arbiters : List ArbiterEcmp} {H : Type}

/-- A hop at another node that can reach the target goes to a node one hop closer. -/
theorem hop_closer (h : Accepted t) (hn : t.numNodes ≤ 40000) (hlen : arbiters.length = t.numNodes)
    (hall : ∀ (u : Nat) (a : ArbiterEcmp), arbiters[u]? = some a → Installed t net u a) {u target : Nat}
    (hu : u < t.numNodes) (hne : u ≠ target) (hr : t.graph.Reachable u target) (visit : Visit H) :
    ∃ v, hop net arbiters target visit u = .ok v ∧ t.graph.Adj u v ∧
      t.graph.dist v target + 1 = t.graph.dist u target := by
  have ht := h.reachable_lt hu hr
  have ha := List.getElem?_eq_getElem (l := arbiters) (i := u) (by omega)
  obtain ⟨v, i, j, hadj, hdist, hres, htr⟩ := decide_reachable visit.hasher h hn (hall u _ ha) hu ht hne hr
    visit.scratch visit.pkt visit.ipHeader visit.isSocketRequest
  refine ⟨v, ?_, hadj, hdist⟩
  unfold hop
  rw [index_ok.2 ha]
  simp only [hres, htr]
  rfl

/-- In every accepted topology of at most 40000 nodes, a packet for a target that its start can reach
gets there without an exception or a missing route, in as many hops as the two are apart and without
visiting a node twice, for every hash function and every packet and header at every hop. -/
theorem forward_shortest {sim : BasicSimulation} {config : ExpUtil.Config}
    (hp : parseTopologyGraph sim config = .ok t) (hn : t.numNodes ≤ 40000) (addresses : List (List UInt32)) :
    ∃ net arbiters, setupLinks t = .ok net ∧ installArbiters t net addresses = .ok arbiters ∧
      ∀ s < t.numNodes, ∀ target < t.numNodes, s ≠ target → t.graph.Reachable s target →
        ∀ (H : Type) (visits : Nat → Visit H) (hopLimit : Nat), t.graph.dist s target ≤ hopLimit →
          ∃ path, forward net arbiters target visits hopLimit s = .ok path ∧
            path.length = t.graph.dist s target + 1 ∧ path.head? = some s ∧ path.getLast? = some target ∧
            path.Nodup := by
  have h := parseTopologyGraph_accepted hp
  obtain ⟨net, hs, hl⟩ := setupLinks_inv h
  obtain ⟨arbiters, hi, hlen, hall⟩ := installArbiters_ok h hl hn addresses
  refine ⟨net, arbiters, hs, hi, fun s hsn target _ _ hr H visits hopLimit hlim => ?_⟩
  -- The rank of a node is its distance to the target; only the target has distance 0.
  obtain ⟨path, hpath, hranked⟩ := @Hops.follow_ranked Nat Stop (fun u => decide (u = target)) .hopLimit
    (fun k u => hop net arbiters target (visits k) u)
    (fun u => u < t.numNodes ∧ t.graph.Reachable u target) (fun u => t.graph.dist u target)
    (fun u hu => by rw [decide_eq_true_iff, hu.2.dist_eq_zero_iff])
    (fun k u hu ha => by
      obtain ⟨v, hv, hadj, hdist⟩ := hop_closer h hn hlen hall hu.1 (of_decide_eq_false ha) hu.2 (visits k)
      exact ⟨v, hv, ⟨(h.adj_lt hadj).2, hadj.reachable.symm.trans hu.2⟩, hdist⟩)
    hopLimit 0 s ⟨hsn, hr⟩ hlim
  obtain ⟨z, hz, hzt⟩ := hranked.last
  rw [of_decide_eq_true hzt] at hz
  exact ⟨path, hpath, hranked.length, hranked.head, hz, hranked.nodup⟩

theorem forward_shortest_twoPairs :
    ∃ net arbiters, setupLinks twoPairs = .ok net ∧ installArbiters twoPairs net twoPairsAddresses = .ok arbiters ∧
      ∀ s < twoPairs.numNodes, ∀ target < twoPairs.numNodes, s ≠ target → twoPairs.graph.Reachable s target →
        ∀ (H : Type) (visits : Nat → Visit H) (hopLimit : Nat), twoPairs.graph.dist s target ≤ hopLimit →
          ∃ path, forward net arbiters target visits hopLimit s = .ok path ∧
            path.length = twoPairs.graph.dist s target + 1 ∧ path.head? = some s ∧
            path.getLast? = some target ∧ path.Nodup :=
  forward_shortest parseTopologyGraph_twoPairs (by decide) twoPairsAddresses

end Shortest

end SatNet.Ptop
