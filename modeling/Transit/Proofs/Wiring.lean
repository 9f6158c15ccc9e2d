import Transit.Network.Build
import Transit.Proofs.Neighbours
import Transit.Proofs.Views

/-!
# How edges are opened and shared

* `Network.Meshed`: no two edges join the same stations in the same direction, and the directories
  at the stations list exactly the edges of the table, in the order of the table.
* `Network.Linked n n' r ps`: `n'` is `n` after the route `r` has been put on an edge along every
  pair of `ps`. It composes, and `link`, `linkPair` and the loop over the stops of a route establish
  it for their pairs.
-/

namespace Transit

/-- The edges that leave a station, by the station they lead to. -/
def leaving (ends : List (Handle .station × Handle .station)) (x : Handle .station) :
    List (Handle .station × Handle .edge) :=
  ends.zipIdx.filterMap fun (p, i) => if p.1 = x then some (p.2, ⟨i⟩) else none

/-- The edges that arrive at a station, by the station they come from. -/
def arriving (ends : List (Handle .station × Handle .station)) (x : Handle .station) :
    List (Handle .station × Handle .edge) :=
  leaving (ends.map Prod.swap) x

section Leaving

variable {ends : List (Handle .station × Handle .station)} {x y : Handle .station}
  {e : Handle .edge}

theorem mem_leaving : (y, e) ∈ leaving ends x ↔ ends[e.index]? = some (x, y) := by
  unfold leaving
  rw [List.mem_filterMap]
  constructor
  · rintro ⟨⟨⟨a, b⟩, i⟩, hm, he⟩
    rw [List.mem_zipIdx_iff_getElem?] at hm
    by_cases ha : a = x
    · subst ha
      simp only [if_true, Option.some.injEq, Prod.mk.injEq] at he
      obtain ⟨rfl, rfl⟩ := he
      exact hm
    · simp [ha] at he
  · intro he
    exact ⟨((x, y), e.index), List.mem_zipIdx_iff_getElem?.2 he, by simp⟩

theorem mem_arriving : (y, e) ∈ arriving ends x ↔ ends[e.index]? = some (y, x) := by
  unfold arriving
  rw [mem_leaving, List.getElem?_map, Option.map_eq_some_iff]
  constructor
  · rintro ⟨p, hp, he⟩
    rw [hp, ← Prod.swap_swap p, he]
    rfl
  · intro he
    exact ⟨(y, x), he, rfl⟩

theorem leaving_concat (p : Handle .station × Handle .station) :
    leaving (ends ++ [p]) x =
      leaving ends x ++ if p.1 = x then [(p.2, ⟨ends.length⟩)] else [] := by
  unfold leaving
  rw [List.zipIdx_append, List.filterMap_append]
  by_cases h : p.1 = x <;> simp [h]

theorem arriving_concat (p : Handle .station × Handle .station) :
    arriving (ends ++ [p]) x =
      arriving ends x ++ if p.2 = x then [(p.1, ⟨ends.length⟩)] else [] := by
  unfold arriving
  rw [List.map_append, List.map_singleton, leaving_concat, List.length_map]
  rfl

end Leaving

namespace Network

variable {n n' n'' : Network}

/-- The edges of the table and the directories at the stations agree. -/
structure Meshed (n : Network) : Prop where
  nodup : n.ends.Nodup
  bounded : ∀ p ∈ n.ends, p.1.index < n.nodes.size ∧ p.2.index < n.nodes.size
  outbound : ∀ (x : Handle .station) (node : Node), n.nodes[x.index]? = some node →
    node.outbound.entries = leaving n.ends x
  inbound : ∀ (x : Handle .station) (node : Node), n.nodes[x.index]? = some node →
    node.inbound.entries = arriving n.ends x

namespace Meshed

variable {x y : Handle .station} {e : Handle .edge} {node : Node}

theorem outbound_get?_iff (hn : n.Meshed) (hx : n.nodes[x.index]? = some node) :
    node.outbound.get? y = some e ↔ n.ends[e.index]? = some (x, y) := by
  rw [Directory.get?_eq_some_iff, hn.outbound x node hx, mem_leaving]

theorem inbound_get?_iff (hn : n.Meshed) (hx : n.nodes[x.index]? = some node) :
    node.inbound.get? y = some e ↔ n.ends[e.index]? = some (y, x) := by
  rw [Directory.get?_eq_some_iff, hn.inbound x node hx, mem_arriving]

theorem outbound_get?_eq_none_iff (hn : n.Meshed) (hx : n.nodes[x.index]? = some node) :
    node.outbound.get? y = none ↔ (x, y) ∉ n.ends :=
  Directory.get?_eq_none_iff_of_positions fun _ => hn.outbound_get?_iff hx

theorem inbound_get?_eq_none_iff (hn : n.Meshed) (hx : n.nodes[x.index]? = some node) :
    node.inbound.get? y = none ↔ (y, x) ∉ n.ends :=
  Directory.get?_eq_none_iff_of_positions fun _ => hn.inbound_get?_iff hx

end Meshed

/-! ### Opening an edge -/

/-- The network with a new edge, entered at both of its ends. -/
def opened (n : Network) (a b : Handle .station) : Network :=
  { n with
    edges := n.edges.push { source := a, target := b }
    nodes := (n.nodes.modify a.index fun x =>
      { x with outbound := x.outbound.insert b ⟨n.edges.size⟩ }).modify b.index fun x =>
        { x with inbound := x.inbound.insert a ⟨n.edges.size⟩ } }

theorem openEdge_eq {a b : Handle .station} (ha : a.index < n.nodes.size)
    (hb : b.index < n.nodes.size) :
    n.openEdge a b = .ok (⟨n.edges.size⟩, n.opened a b) := by
  simp [openEdge, modifyNode, ha, hb, opened]

theorem ends_opened (a b : Handle .station) : (n.opened a b).ends = n.ends ++ [(a, b)] := by
  simp [ends, opened, Edge.ends]

theorem bare_opened (a b : Handle .station) : (n.opened a b).bare = n.bare := by
  have h : (n.opened a b).nodes.map Node.bare = n.nodes.map Node.bare := by
    rw [opened, map_modify_of_forall, map_modify_of_forall] <;> exact fun _ => rfl
  unfold bare
  rw [h]
  rfl

theorem edgeOn?_opened {a b : Handle .station} (hab : (a, b) ∉ n.ends)
    (p : Handle .station × Handle .station) :
    (n.opened a b).edgeOn? p =
      if p = (a, b) then some { source := a, target := b } else n.edgeOn? p := by
  unfold edgeOn?
  rw [opened, Array.toList_push, List.find?_append]
  by_cases hp : p = (a, b)
  · subst hp
    have hnone := edgeOn?_eq_none hab
    rw [edgeOn?] at hnone
    rw [hnone]
    simp [Edge.ends]
  · have hne : ¬ (a, b) = p := fun e => hp e.symm
    simp [hp, hne, Edge.ends]

/-- A station of the opened network is one of the network before, with the new edge where it is an
end of it. -/
theorem getElem?_nodes_opened {a b x : Handle .station} {node : Node}
    (h : (n.opened a b).nodes[x.index]? = some node) :
    ∃ old, n.nodes[x.index]? = some old ∧
      node.outbound = (if a = x then old.outbound.insert b ⟨n.edges.size⟩ else old.outbound) ∧
      node.inbound = if b = x then old.inbound.insert a ⟨n.edges.size⟩ else old.inbound := by
  simp only [opened, Array.getElem?_modify, Handle.index_inj] at h
  cases hx : n.nodes[x.index]? with
  | none => simp [hx] at h
  | some old =>
    refine ⟨old, rfl, ?_⟩
    rw [hx] at h
    by_cases ha : a = x <;> by_cases hb : b = x <;> simp [ha, hb] at h ⊢ <;> subst h <;> simp

theorem Meshed.opened (hn : n.Meshed) {a b : Handle .station} (ha : a.index < n.nodes.size)
    (hb : b.index < n.nodes.size) (hab : (a, b) ∉ n.ends) : (n.opened a b).Meshed where
  nodup := by
    rw [ends_opened, List.nodup_append]
    refine ⟨hn.nodup, List.nodup_singleton _, fun p hp q hq hpq => ?_⟩
    rw [List.mem_singleton] at hq
    exact hab (hq ▸ hpq ▸ hp)
  bounded := by
    intro p hp
    rw [size_nodes_of_bare (bare_opened a b)]
    rw [ends_opened, List.mem_append, List.mem_singleton] at hp
    rcases hp with hp | rfl
    · exact hn.bounded p hp
    · exact ⟨ha, hb⟩
  outbound := by
    intro x node hx
    obtain ⟨old, hold, hout, -⟩ := getElem?_nodes_opened hx
    rw [hout, ends_opened, leaving_concat, length_ends, ← hn.outbound x old hold]
    by_cases h : a = x
    · subst h
      simp only [if_true]
      exact Directory.entries_insert_of_none ((hn.outbound_get?_eq_none_iff hold).2 hab)
    · simp [h]
  inbound := by
    intro x node hx
    obtain ⟨old, hold, -, hin⟩ := getElem?_nodes_opened hx
    rw [hin, ends_opened, arriving_concat, length_ends, ← hn.inbound x old hold]
    by_cases h : b = x
    · subst h
      simp only [if_true]
      exact Directory.entries_insert_of_none ((hn.inbound_get?_eq_none_iff hold).2 hab)
    · simp [h]

/-- Changing what is stored on an edge, but not its ends, leaves the directories right. -/
theorem Meshed.modify (hn : n.Meshed) {i : Nat} {f : Edge → Edge}
    (hf : ∀ x, (f x).ends = x.ends) : Meshed { n with edges := n.edges.modify i f } where
  nodup := by rw [ends_modify hf]; exact hn.nodup
  bounded := by rw [ends_modify hf]; exact hn.bounded
  outbound := by rw [ends_modify hf]; exact hn.outbound
  inbound := by rw [ends_modify hf]; exact hn.inbound

/-- A new edge carries no route yet. -/
theorem riders_opened {a b : Handle .station} (hab : (a, b) ∉ n.ends)
    (p : Handle .station × Handle .station) : (n.opened a b).riders p = n.riders p := by
  unfold riders
  rw [edgeOn?_opened hab]
  by_cases hp : p = (a, b)
  · simp [hp, edgeOn?_eq_none hab]
  · simp [hp]

/-- A new edge has no time yet. -/
theorem timeOn_opened {a b : Handle .station} (hab : (a, b) ∉ n.ends)
    (p : Handle .station × Handle .station) : (n.opened a b).timeOn p = n.timeOn p := by
  unfold timeOn
  rw [edgeOn?_opened hab]
  by_cases hp : p = (a, b)
  · simp [hp, edgeOn?_eq_none hab]
  · simp [hp]

/-! ### Putting a route on edges -/

/-- `n'` is `n` after the route `r` has been put on an edge along every pair of `ps`. -/
structure Linked (n n' : Network) (r : Handle .route)
    (ps : List (Handle .station × Handle .station)) : Prop where
  meshed : n'.Meshed
  bare : n'.bare = n.bare
  ends : n'.ends = Roster.firsts (n.ends ++ ps)
  riders : ∀ p, n'.riders p = if p ∈ ps then (n.riders p).insert r else n.riders p
  timeOn : ∀ p, n'.timeOn p = n.timeOn p

namespace Linked

variable {r : Handle .route} {ps qs : List (Handle .station × Handle .station)}

theorem refl (hn : n.Meshed) (r : Handle .route) : Linked n n r [] where
  meshed := hn
  bare := rfl
  ends := by rw [List.append_nil, Roster.firsts_of_nodup hn.nodup]
  riders _ := by simp
  timeOn _ := rfl

theorem trans (h : Linked n n' r ps) (h' : Linked n' n'' r qs) : Linked n n'' r (ps ++ qs) where
  meshed := h'.meshed
  bare := h'.bare.trans h.bare
  ends := by rw [h'.ends, h.ends, Roster.firsts_firsts_append, List.append_assoc]
  riders p := by
    rw [h'.riders, h.riders]
    by_cases hp : p ∈ ps <;> by_cases hq : p ∈ qs <;> simp [hp, hq, Roster.insert_insert]
  timeOn p := (h'.timeOn p).trans (h.timeOn p)

end Linked

variable {r : Handle .route} {a b : Handle .station}

/-- An edge of the table takes a route on. -/
theorem modifyEdge_linked (hn : n.Meshed) {e : Handle .edge} {x : Edge}
    (hx : n.edges[e.index]? = some x) (r : Handle .route) :
    ∃ n', n.modifyEdge e (fun x => { x with routes := x.routes.insert r }) = .ok n' ∧
      Linked n n' r [x.ends] := by
  have hmem : x ∈ n.edges.toList := mem_toList_of_getElem? hx
  have hends : ∀ y : Edge, Edge.ends { y with routes := y.routes.insert r } = y.ends :=
    fun _ => rfl
  refine ⟨_, modifyEdge_ok (Array.getElem?_eq_some_iff.1 hx).1 _, ?_⟩
  constructor
  · exact hn.modify hends
  · rfl
  · -- the edge is known, so its ends are no newcomer among the ends
    have hm : x.ends ∈ n.ends := List.mem_map.2 ⟨x, hmem, rfl⟩
    rw [ends_modify hends, Roster.firsts_concat, if_pos hm, Roster.firsts_of_nodup hn.nodup]
  · intro p
    rw [riders, edgeOn?_modify hn.nodup hends hx]
    by_cases hp : p = x.ends
    · subst hp
      simp [riders_ends hn.nodup hmem]
    · simp [hp, riders]
  · intro p
    rw [timeOn, edgeOn?_modify hn.nodup hends hx]
    by_cases hp : p = x.ends
    · subst hp
      simp [timeOn_ends hn.nodup hmem]
    · simp [hp, timeOn]

/-- Linking two stations of the network succeeds and puts the route on the edge between them. -/
theorem link_ok (hn : n.Meshed) (ha : a.index < n.nodes.size) (hb : b.index < n.nodes.size)
    (r : Handle .route) : ∃ n', n.link r a b = .ok n' ∧ Linked n n' r [(a, b)] := by
  obtain ⟨node, hnode⟩ : ∃ node, n.nodes[a.index]? = some node :=
    ⟨_, Array.getElem?_eq_getElem ha⟩
  unfold link
  rw [node_eq_ok_iff.2 hnode, Checked.ok_bind]
  cases he : node.outbound.get? b with
  | some e =>
    have hend := (hn.outbound_get?_iff hnode).1 he
    obtain ⟨x, hx, hends⟩ := getElem?_ends_eq_some_iff.1 hend
    rw [← hends]
    exact modifyEdge_linked hn hx r
  | none =>
    -- the directory at `a` is complete, so no edge of the table leads from `a` to `b`
    have hab : (a, b) ∉ n.ends := (hn.outbound_get?_eq_none_iff hnode).1 he
    have hlast : (n.opened a b).edges[n.edges.size]? = some { source := a, target := b } := by
      simp [opened]
    obtain ⟨n', hok, h⟩ := modifyEdge_linked (hn.opened ha hb hab)
      (e := ⟨n.edges.size⟩) hlast r
    rw [openEdge_eq ha hb]
    refine ⟨n', hok, ?_⟩
    constructor
    · exact h.meshed
    · exact h.bare.trans (bare_opened a b)
    · rw [h.ends, ends_opened, Edge.ends, Roster.firsts_concat, if_pos (by simp)]
    · intro p
      rw [h.riders, riders_opened hab]
      rfl
    · intro p
      rw [h.timeOn, timeOn_opened hab]

theorem linkPair_ok (hn : n.Meshed) {p : Handle .station × Handle .station}
    (ha : p.1.index < n.nodes.size) (hb : p.2.index < n.nodes.size) (r : Handle .route) :
    ∃ n', n.linkPair r p = .ok n' ∧ Linked n n' r [p, p.swap] := by
  obtain ⟨n₁, h₁, l₁⟩ := link_ok hn ha hb r
  have hsize := size_nodes_of_bare l₁.bare
  -- back again on the network that has the edge forth; for a self-edge it is the same one
  obtain ⟨n₂, h₂, l₂⟩ := link_ok l₁.meshed (hsize ▸ hb) (hsize ▸ ha) r
  refine ⟨n₂, ?_, l₁.trans l₂⟩
  unfold linkPair
  rw [h₁, Checked.ok_bind, h₂]

/-- The loop over the stops of a route puts the route on the edges of all of its steps. -/
theorem linkStops_ok (hn : n.Meshed) {stops : List (Handle .station)}
    (hs : ∀ s ∈ stops, s.index < n.nodes.size) (r : Handle .route) :
    ∃ n', (consecutive stops).foldlM (fun n pair => n.linkPair r pair) n = .ok n' ∧
      Linked n n' r (steps stops) := by
  refine Checked.foldlM_ok (fun done m => Linked n m r (done.flatMap fun p => [p, p.swap]))
    (Linked.refl hn r) ?_
  intro done p rest m hl hm
  -- linking leaves the stations alone, so the handles of `stops` stay in range
  have hp : p ∈ consecutive stops := by rw [← hl]; simp
  obtain ⟨hp₁, hp₂⟩ := mem_of_mem_consecutive hp
  have hsize := size_nodes_of_bare hm.bare
  obtain ⟨m', hm', l⟩ := linkPair_ok hm.meshed (hsize ▸ hs _ hp₁) (hsize ▸ hs _ hp₂) r
  refine ⟨m', hm', ?_⟩
  rw [List.flatMap_append, List.flatMap_singleton]
  exact hm.trans l

end Network

end Transit
