/-
The nodes of a network: net devices in the order in which they were added, and IP interfaces in the
order in which addresses were assigned. If every device gets its address in the order of the devices of
its node, interface `i` is device `i`.
-/
import SatNet.Base.Fail

namespace SatNet

open SatNet.Loop

/-! ## The data -/

/-- A node: its net devices, and the device index behind each of its IP interfaces. -/
structure Node (D : Type) where
  devices : List D
  interfaces : List Nat
  deriving Repr, DecidableEq

/-- A net device: the id of its node and its index there. -/
abbrev End := Nat × Nat

namespace Node

variable {D : Type}

/-- `Node::AddDevice`: the device gets the next index. -/
def addDevice (nodes : List (Node D)) (node : Nat) (d : D) : Res (List (Node D) × End) := do
  let nd ← index nodes node
  .ok (nodes.set node { nd with devices := nd.devices ++ [d] }, (node, nd.devices.length))

/-- A device that gets an address gets the next interface of its node. -/
def assignDevice (nodes : List (Node D)) (e : End) : Res (List (Node D)) := do
  let nd ← index nodes e.1
  .ok (nodes.set e.1 { nd with interfaces := nd.interfaces ++ [e.2] })

/-- `Ipv4AddressHelper::Assign`. -/
def assign (nodes : List (Node D)) (devices : List End) : Res (List (Node D)) := forEach assignDevice devices nodes

/-- `GetObject<Ipv4>()->GetNInterfaces()`. -/
def nInterfaces (nodes : List (Node D)) (node : Nat) : Res Nat := do
  let nd ← index nodes node
  .ok nd.interfaces.length

/-- `GetObject<Ipv4>()->GetNetDevice(ifIdx)`: the device with its identity. -/
def netDevice (nodes : List (Node D)) (node ifIdx : Nat) : Res (End × D) := do
  let nd ← index nodes node
  let dev ← index nd.interfaces ifIdx
  let d ← index nd.devices dev
  .ok ((node, dev), d)

/-- `GetObject<Ipv4>()->GetInterfaceForDevice(device)`, if it is not negative. -/
def interfaceForDevice (nodes : List (Node D)) (e : End) : Option Nat :=
  nodes[e.1]?.bind fun nd => nd.interfaces.findIdx? (· = e.2)

/-! ## Devices -/

/-- The device with this identity. -/
def deviceAt (nodes : List (Node D)) (e : End) : Option D := nodes[e.1]?.bind fun nd => nd.devices[e.2]?

theorem deviceAt_eq {nodes : List (Node D)} {e : End} {nd : Node D} (h : nodes[e.1]? = some nd) :
    deviceAt nodes e = nd.devices[e.2]? := by
  unfold deviceAt
  rw [h, Option.bind_some]

theorem deviceAt_some {nodes : List (Node D)} {e : End} {d : D} (h : deviceAt nodes e = some d) :
    ∃ nd, nodes[e.1]? = some nd ∧ nd.devices[e.2]? = some d := by
  unfold deviceAt at h
  cases hn : nodes[e.1]? with
  | none => rw [hn] at h; cases h
  | some nd => exact ⟨nd, rfl, by rw [hn] at h; exact h⟩

/-- Changing one node. -/
theorem deviceAt_set {nodes : List (Node D)} {u : Nat} {nd nd' : Node D} (hu : nodes[u]? = some nd) (e : End) :
    deviceAt (nodes.set u nd') e = if e.1 = u then nd'.devices[e.2]? else deviceAt nodes e := by
  have hlt := (List.getElem?_eq_some_iff.1 hu).1
  by_cases he : e.1 = u
  · subst he
    rw [if_pos rfl, deviceAt_eq (List.getElem?_set_self hlt)]
  · rw [if_neg he]
    unfold deviceAt
    rw [List.getElem?_set_ne (Ne.symm he)]

/-! ## Numbering -/

/-- Device 0 of every node is its loopback, and its interfaces are its devices in order, except for the
`pending` ones, which come next. -/
def Numbered (loopback : D) (pending : List End) (nodes : List (Node D)) : Prop :=
  ∀ (u : Nat) (nd : Node D), nodes[u]? = some nd →
    nd.interfaces ++ (pending.filter fun e => e.1 = u).map Prod.snd = List.range nd.devices.length ∧
      nd.devices[0]? = some loopback

/-- What adding the device `d` to a node does: it is the device `e` then, a new one. -/
structure Added (loopback : D) (d : D) (nodes nodes' : List (Node D)) (e : End) : Prop where
  length : nodes'.length = nodes.length
  fresh : deviceAt nodes e = none
  device : ∀ e', deviceAt nodes' e' = if e' = e then some d else deviceAt nodes e'
  numbered : ∀ pending, Numbered loopback pending nodes → Numbered loopback (pending ++ [e]) nodes' ∧ 0 < e.2

variable {nodes nodes' : List (Node D)}

theorem addDevice_ok {u : Nat} {d : D} {e : End} (loopback : D) (h : addDevice nodes u d = .ok (nodes', e)) :
    e.1 = u ∧ Added loopback d nodes nodes' e := by
  obtain ⟨nd, hnd, h⟩ := bind_ok h
  cases h
  rw [index_ok] at hnd
  have hlt := (List.getElem?_eq_some_iff.1 hnd).1
  refine ⟨rfl, by simp, ?_, fun e' => ?_, fun pending hp => ⟨fun v nd' hv => ?_, ?_⟩⟩
  · rw [deviceAt_eq (e := (u, nd.devices.length)) hnd]
    exact List.getElem?_eq_none (Nat.le_refl _)
  · rw [deviceAt_set hnd]
    by_cases hu : e'.1 = u
    · rw [if_pos hu]
      by_cases hi : e'.2 = nd.devices.length
      · rw [if_pos (Prod.ext hu hi), hi]
        exact List.getElem?_concat_length
      · rw [if_neg fun he => hi (congrArg Prod.snd he), deviceAt_eq (hu ▸ hnd), List.getElem?_append]
        split
        · rfl
        · rw [List.getElem?_eq_none (by simp only [List.length_singleton]; omega), List.getElem?_eq_none (by omega)]
    · rw [if_neg hu, if_neg fun he => hu (congrArg Prod.fst he)]
  · rw [List.filter_append, List.map_append, ← List.append_assoc]
    rw [List.getElem?_set] at hv
    split at hv
    · rename_i huv
      subst huv
      cases hv
      obtain ⟨hi, h0⟩ := hp u nd hnd
      constructor
      · rw [hi]
        simp [List.range_succ]
      · rw [List.getElem?_append_left (List.getElem?_eq_some_iff.1 h0).1]
        exact h0
    · rename_i huv
      obtain ⟨hi, h0⟩ := hp v nd' hv
      refine ⟨?_, h0⟩
      rw [hi]
      simp [huv]
  · exact (List.getElem?_eq_some_iff.1 (hp u nd hnd).2).1

/-- What assigning an address to the next pending device does. -/
theorem assignDevice_ok {e : End} (h : assignDevice nodes e = .ok nodes') :
    nodes'.length = nodes.length ∧ (∀ e', deviceAt nodes' e' = deviceAt nodes e') ∧
      ∀ loopback pending, Numbered loopback (e :: pending) nodes → Numbered loopback pending nodes' := by
  obtain ⟨nd, hnd, h⟩ := bind_ok h
  cases h
  rw [index_ok] at hnd
  have hlt := (List.getElem?_eq_some_iff.1 hnd).1
  refine ⟨by simp, fun e' => ?_, fun loopback pending hp v nd' hv => ?_⟩
  · rw [deviceAt_set hnd]
    by_cases hu : e'.1 = e.1
    · rw [if_pos hu, @deviceAt_eq _ nodes e' nd (by rw [hu]; exact hnd)]
    · rw [if_neg hu]
  · rw [List.getElem?_set] at hv
    split at hv
    · rename_i huv
      cases hv
      obtain ⟨hi, h0⟩ := hp e.1 nd hnd
      refine ⟨?_, h0⟩
      rw [← hi, ← huv]
      simp
    · rename_i huv
      obtain ⟨hi, h0⟩ := hp v nd' hv
      refine ⟨?_, h0⟩
      rw [← hi]
      simp [huv]

/-- Assigning addresses to all devices that wait for one. -/
theorem assign_ok {loopback : D} : ∀ {pending : List End} {nodes nodes' : List (Node D)},
    Numbered loopback pending nodes → assign nodes pending = .ok nodes' →
      Numbered loopback [] nodes' ∧ nodes'.length = nodes.length ∧ ∀ e, deviceAt nodes' e = deviceAt nodes e
  | [], nodes, nodes', h, hrun => by
    cases hrun
    exact ⟨h, rfl, fun _ => rfl⟩
  | e :: pending, nodes, nodes', h, hrun => by
    obtain ⟨nodes₁, hassign, hrun⟩ := bind_ok hrun
    obtain ⟨hl, hd, hn⟩ := assignDevice_ok hassign
    obtain ⟨hn', hl', hd'⟩ := assign_ok (hn _ _ h) hrun
    exact ⟨hn', hl'.trans hl, fun e => (hd' e).trans (hd e)⟩

/-- What joining two nodes does: each has one more device of the kind `d`, and all others are as they were. -/
structure Joined (loopback : D) (d : D) (nodes nodes' : List (Node D)) (e₀ e₁ : End) : Prop where
  ne : e₀ ≠ e₁
  length : nodes'.length = nodes.length
  device : ∀ e, deviceAt nodes' e = if e = e₁ ∨ e = e₀ then some d else deviceAt nodes e
  old : ∀ e d', deviceAt nodes e = some d' → ¬(e = e₁ ∨ e = e₀)
  numbered : Numbered loopback [] nodes'

/-- Two nodes, which may be the same, get a device each, which are then assigned their addresses. -/
theorem joined {loopback d : D} {u v : Nat} {nodes₁ nodes₂ : List (Node D)} {e₀ e₁ : End}
    (hn : Numbered loopback [] nodes) (h₀ : addDevice nodes u d = .ok (nodes₁, e₀))
    (h₁ : addDevice nodes₁ v d = .ok (nodes₂, e₁)) (h : assign nodes₂ [e₀, e₁] = .ok nodes') :
    e₀.1 = u ∧ e₁.1 = v ∧ Joined loopback d nodes nodes' e₀ e₁ := by
  obtain ⟨hu, ha₀⟩ := addDevice_ok loopback h₀
  obtain ⟨hv, ha₁⟩ := addDevice_ok loopback h₁
  obtain ⟨hn', hl, hd⟩ := assign_ok (ha₁.numbered _ (ha₀.numbered _ hn).1).1 h
  have hne : e₀ ≠ e₁ := by
    rintro rfl
    have hfresh := ha₁.fresh
    rw [ha₀.device, if_pos rfl] at hfresh
    cases hfresh
  refine ⟨hu, hv, hne, by rw [hl, ha₁.length, ha₀.length], fun e => ?_, fun e d' he => ?_, hn'⟩
  · rw [hd, ha₁.device, ha₀.device]
    by_cases he₁ : e = e₁
    · simp [he₁]
    · by_cases he₀ : e = e₀ <;> simp [he₀, he₁]
  · rintro (rfl | rfl)
    · have hfresh := ha₁.fresh
      rw [ha₀.device, if_neg (Ne.symm hne), he] at hfresh
      cases hfresh
    · have hfresh := ha₀.fresh
      rw [he] at hfresh
      cases hfresh

theorem addDevice_total {u : Nat} (hu : u < nodes.length) (d : D) :
    ∃ nodes' e, addDevice nodes u d = .ok (nodes', e) ∧ e.1 = u ∧ nodes'.length = nodes.length := by
  refine ⟨_, _, by unfold addDevice; rw [index_lt hu, ok_bind], rfl, List.length_set⟩

theorem assign_total : ∀ {devices : List End} {nodes : List (Node D)}, (∀ e ∈ devices, e.1 < nodes.length) →
    ∃ nodes', assign nodes devices = .ok nodes'
  | [], nodes, _ => ⟨nodes, rfl⟩
  | e :: devices, nodes, h => by
    have hassign : ∃ nodes₁, assignDevice nodes e = .ok nodes₁ := by
      unfold assignDevice
      rw [index_lt (h e (List.mem_cons_self ..))]
      exact ⟨_, rfl⟩
    obtain ⟨nodes₁, hassign⟩ := hassign
    have hl := (assignDevice_ok hassign).1
    obtain ⟨nodes', hrun⟩ := @assign_total devices nodes₁ fun e he => by
      rw [hl]; exact h e (List.mem_cons_of_mem _ he)
    refine ⟨nodes', ?_⟩
    unfold assign forEach
    rw [hassign]
    exact hrun

/-- Two nodes that are there can be joined. -/
theorem join_total {u v : Nat} (hu : u < nodes.length) (hv : v < nodes.length) (d : D) :
    ∃ nodes₁ nodes₂ nodes' e₀ e₁, addDevice nodes u d = .ok (nodes₁, e₀) ∧ addDevice nodes₁ v d = .ok (nodes₂, e₁) ∧
      assign nodes₂ [e₀, e₁] = .ok nodes' := by
  obtain ⟨nodes₁, e₀, hadd₀, hu₀, hl₁⟩ := addDevice_total hu d
  obtain ⟨nodes₂, e₁, hadd₁, hu₁, hl₂⟩ := addDevice_total (show v < nodes₁.length by omega) d
  obtain ⟨nodes', hassign⟩ := @assign_total _ [e₀, e₁] nodes₂ (by
    intro e he
    rcases List.mem_pair.1 he with rfl | rfl <;> omega)
  exact ⟨nodes₁, nodes₂, nodes', e₀, e₁, hadd₀, hadd₁, hassign⟩

/-- The devices of a node, in order. -/
def devicesOf (nodes : List (Node D)) (u : Nat) : List D := (nodes[u]?.map devices).getD []

theorem devicesOf_set {u v : Nat} (nd : Node D) (hu : u < nodes.length) :
    devicesOf (nodes.set u nd) v = if v = u then nd.devices else devicesOf nodes v := by
  unfold devicesOf
  by_cases hv : v = u
  · subst hv
    rw [if_pos rfl, List.getElem?_set_self hu, Option.map_some, Option.getD_some]
  · rw [if_neg hv, List.getElem?_set_ne (Ne.symm hv)]

theorem devicesOf_eq {u : Nat} {nd : Node D} (h : nodes[u]? = some nd) : devicesOf nodes u = nd.devices := by
  unfold devicesOf
  rw [h, Option.map_some, Option.getD_some]

theorem addDevice_devicesOf {u : Nat} {d : D} {e : End} (h : addDevice nodes u d = .ok (nodes', e)) (v : Nat) :
    devicesOf nodes' v = if v = u then devicesOf nodes u ++ [d] else devicesOf nodes v := by
  obtain ⟨nd, hnd, h⟩ := bind_ok h
  cases h
  rw [index_ok] at hnd
  rw [devicesOf_set _ (List.getElem?_eq_some_iff.1 hnd).1, devicesOf_eq hnd]

/-- Addresses change nothing about the devices. -/
theorem assign_devicesOf : ∀ {devices : List End} {nodes nodes' : List (Node D)}, assign nodes devices = .ok nodes' →
    nodes'.length = nodes.length ∧ ∀ u, devicesOf nodes' u = devicesOf nodes u
  | [], nodes, nodes', h => by
    cases h
    exact ⟨rfl, fun _ => rfl⟩
  | e :: devices, nodes, nodes', h => by
    obtain ⟨nodes₁, hassign, h⟩ := bind_ok h
    obtain ⟨hl', hd'⟩ := assign_devicesOf h
    obtain ⟨nd, hnd, hassign⟩ := bind_ok hassign
    cases hassign
    rw [index_ok] at hnd
    refine ⟨hl'.trans List.length_set, fun u => ?_⟩
    rw [hd', devicesOf_set _ (List.getElem?_eq_some_iff.1 hnd).1]
    split
    · rename_i hu
      rw [hu, devicesOf_eq hnd]
    · rfl

/-- Nodes that have nothing but their Internet stack, which brings the loopback device and interface. -/
theorem numbered_init (loopback : D) (n : Nat) : Numbered loopback [] (List.replicate n ⟨[loopback], [0]⟩) := by
  intro u nd hu
  obtain rfl := List.eq_of_mem_replicate (List.mem_of_getElem? hu)
  exact ⟨rfl, rfl⟩

theorem deviceAt_init {loopback : D} {n : Nat} {e : End} {d : D}
    (h : deviceAt (List.replicate n ⟨[loopback], [0]⟩) e = some d) : d = loopback ∧ e.2 = 0 := by
  obtain ⟨nd, hu, hd⟩ := deviceAt_some h
  obtain rfl := List.eq_of_mem_replicate (List.mem_of_getElem? hu)
  have h0 := (List.getElem?_eq_some_iff.1 hd).1
  obtain he : e.2 = 0 := by simpa using h0
  rw [he] at hd
  cases hd
  exact ⟨rfl, he⟩

/-- Index 0 is the loopback. -/
theorem Numbered.deviceAt_zero {loopback d : D} {pending : List End} (h : Numbered loopback pending nodes) {u : Nat}
    (hd : deviceAt nodes (u, 0) = some d) : deviceAt nodes (u, 0) = some loopback := by
  obtain ⟨nd, hu, -⟩ := deviceAt_some hd
  exact (deviceAt_eq (e := (u, 0)) hu).trans (h u nd hu).2

section Complete

variable {loopback : D} (hn : Numbered loopback [] nodes)

include hn

theorem Numbered.interfaces {u : Nat} {nd : Node D} (hu : nodes[u]? = some nd) :
    nd.interfaces = List.range nd.devices.length := by
  have h := (hn u nd hu).1
  simpa using h

/-- Interface `i` of a node is its device `i`. -/
theorem Numbered.netDevice_iff {u i : Nat} {e : End} {d : D} :
    netDevice nodes u i = .ok (e, d) ↔ e = (u, i) ∧ deviceAt nodes (u, i) = some d := by
  unfold netDevice
  constructor
  · intro h
    obtain ⟨nd, hnd, h⟩ := bind_ok h
    obtain ⟨dev, hdev, h⟩ := bind_ok h
    obtain ⟨d', hd, h⟩ := bind_ok h
    cases h
    rw [index_ok] at hnd hdev hd
    rw [hn.interfaces hnd] at hdev
    obtain ⟨hlt, rfl⟩ := List.getElem?_eq_some_iff.1 hdev
    rw [List.getElem_range] at hd ⊢
    exact ⟨rfl, (deviceAt_eq (e := (u, i)) hnd).trans hd⟩
  · rintro ⟨rfl, h⟩
    obtain ⟨nd, hnd, hd⟩ := deviceAt_some h
    have hi : nd.interfaces[i]? = some i := by
      rw [hn.interfaces hnd, List.getElem?_range (List.getElem?_eq_some_iff.1 hd).1]
    rw [index_ok.2 hnd, ok_bind, index_ok.2 hi, ok_bind, index_ok.2 hd, ok_bind]

/-- The interfaces that exist are those behind which there is a device. -/
theorem Numbered.lt_nInterfaces {u i n : Nat} (h : nInterfaces nodes u = .ok n) :
    i < n ↔ ∃ d, deviceAt nodes (u, i) = some d := by
  obtain ⟨nd, hnd, h⟩ := bind_ok h
  cases h
  rw [index_ok] at hnd
  rw [hn.interfaces hnd, List.length_range, deviceAt_eq (e := (u, i)) hnd]
  constructor
  · intro hi
    exact ⟨_, List.getElem?_eq_getElem hi⟩
  · rintro ⟨d, hd⟩
    exact (List.getElem?_eq_some_iff.1 hd).1

theorem Numbered.interfaceForDevice {e : End} {d : D} (h : deviceAt nodes e = some d) :
    interfaceForDevice nodes e = some e.2 := by
  obtain ⟨nd, hnd, hd⟩ := deviceAt_some h
  have hlt := (List.getElem?_eq_some_iff.1 hd).1
  unfold Node.interfaceForDevice
  rw [hnd, Option.bind_some, hn.interfaces hnd, List.findIdx?_eq_some_iff_getElem]
  refine ⟨by rw [List.length_range]; exact hlt, by simp, fun j hj => ?_⟩
  rw [List.getElem_range]
  simp only [decide_eq_true_eq]
  omega

end Complete

end Node

end SatNet
