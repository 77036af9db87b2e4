/-
  A connection: one session and what hangs off it.

  1. **Shared subscription** — all items of a connection are on one subscription, created for the first
     monitor call that needs it.  While it is being created the other calls wait.

  2. **Monitored nodes** — by node id, with the text under which the node was first asked for.

  3. **Pending nodes** — claimed by monitor calls in progress.  A call claims the nodes that are neither
     monitored nor pending, so no two calls create items for one node, and releases them when it ends.
-/

import FieldBridge.Association
import FieldBridge.Notice
import FieldBridge.Server.Protocol

namespace FieldBridge

/-- The subscription of a connection. -/
inductive SharedSubscription where
  | absent
  /-- A call is creating it. -/
  | opening
  | ready (id : SubscriptionId)
  deriving DecidableEq, Repr, Inhabited

/-- The id of the subscription, once there is one. -/
def SharedSubscription.id? : SharedSubscription → Option SubscriptionId
  | .ready id => some id
  | _ => none

/-- A node with a live item. -/
structure Monitored where
  /-- The node as the caller wrote it. -/
  text : String
  item : ItemId
  deriving DecidableEq, Repr, Inhabited

/-- The nodes of one monitor call, in the order of their first spellings, each with that spelling. -/
abbrev Claim := List (NodeId × String)

/-- The nodes of a claim. -/
def Claim.nodes (c : Claim) : List NodeId := c.map (·.1)

/-- One session. -/
structure Connection where
  endpoint : Endpoint
  subscription : SharedSubscription := .absent
  /-- Each node once. -/
  monitored : List (NodeId × Monitored) := []
  pending : List NodeId := []
  deriving Inhabited

namespace Connection

/-! ## Monitoring -/

/-- A node is monitored, or a call in progress has claimed it. -/
def isTaken (c : Connection) (node : NodeId) : Bool :=
  (c.monitored.lookup node).isSome || c.pending.contains node

/-- Read texts as node ids and collect the free ones behind those already held.  A text that is no node
id is skipped with a notice. -/
def screen (c : Connection) : Claim → List String → List Notice × Claim
  | held, [] => ([], held)
  | held, text :: rest => match NodeId.parse text with
    | .error e =>
      let (notices, claim) := c.screen held rest
      (.invalidNode text e.message :: notices, claim)
    | .ok node =>
      if c.isTaken node || held.nodes.contains node then c.screen held rest
      else c.screen (held ++ [(node, text)]) rest

/-- Claim the free nodes named by texts. -/
def claim (c : Connection) (texts : List String) : List Notice × Claim × Connection :=
  let (notices, claim) := c.screen [] texts
  (notices, claim, { c with pending := c.pending ++ claim.nodes })

/-- Give the nodes of a claim back. -/
def release (c : Connection) (claim : Claim) : Connection :=
  { c with pending := c.pending.filter fun node => !claim.nodes.contains node }

/-- Monitor a node, in place of an earlier entry. -/
def put (c : Connection) (node : NodeId) (m : Monitored) : Connection :=
  { c with monitored := c.monitored.filter (fun p => p.1 ≠ node) ++ [(node, m)] }

/-- Monitor a node no longer. -/
def drop (c : Connection) (node : NodeId) : Connection :=
  { c with monitored := c.monitored.filter fun p => p.1 ≠ node }

/-- The text of a node: as the claim spells it, else its written form. -/
def spelling (claim : Claim) (node : NodeId) : String := (claim.lookup node).getD node.text

/-- Take in the answers to the requests made for a claim: good ones are monitored, the others reported. -/
def record (claim : Claim) : Connection → List ItemResult → List Notice × Connection
  | c, [] => ([], c)
  | c, r :: rest =>
    let text := spelling claim r.node
    if r.status.isGood then record claim (c.put r.node ⟨text, r.item⟩) rest
    else
      let (notices, c) := record claim c rest
      (.itemRejected text r.status.text :: notices, c)

/-- The requests for a claim, with handles counted from the given one. -/
def requests : Claim → Nat → List MonitorRequest
  | [], _ => []
  | (node, _) :: rest, handle => .forValue node handle :: requests rest (handle + 1)

/-! ## Ending it -/

/-- The monitored nodes that texts name; a node named twice is listed twice. -/
def targets (c : Connection) (texts : List String) : List (NodeId × Monitored) :=
  texts.filterMap fun text => do
    let node ← NodeId.parse? text
    let m ← c.monitored.lookup node
    some (node, m)

/-- Take in the answers to deletions: the nodes are monitored no longer, whatever the answer. -/
def erase : Connection → List (NodeId × Monitored) → List Status → List Notice × Connection
  | c, (node, m) :: targets, status :: statuses =>
    let (notices, c) := (c.drop node).erase targets statuses
    (if status.isGood then notices else .deletionRejected m.text status.text :: notices, c)
  | c, _, _ => ([], c)

/-- The texts of the monitored nodes, in ascending order. -/
def monitoredTexts (c : Connection) : List String :=
  (c.monitored.map (·.2.text)).mergeSort fun a b => decide (a ≤ b)

/-! ## A claim holds free nodes, each once -/

/-- A node that is claimed was held before or is free. -/
theorem free_of_mem_screen {c : Connection} {held : Claim} {texts : List String} {node : NodeId}
    (h : node ∈ (c.screen held texts).2.nodes) : node ∈ held.nodes ∨ c.isTaken node = false := by
  induction texts generalizing held with
  | nil => exact Or.inl h
  | cons text rest ih =>
    rw [screen] at h
    split at h
    · exact ih h
    · rename_i named _
      split at h
      · exact ih h
      · rename_i hfree
        rcases ih h with hin | hfree'
        · rw [Claim.nodes, List.map_append, List.mem_append] at hin
          rcases hin with hold | hnew
          · exact Or.inl hold
          · have hnode : node = named := by simpa using hnew
            rw [hnode]
            refine Or.inr ?_
            cases htaken : c.isTaken named with
            | false => rfl
            | true => exact absurd (by rw [htaken]; rfl) hfree
        · exact Or.inr hfree'

/-- No node is claimed twice. -/
theorem nodup_screen {c : Connection} {held : Claim} (texts : List String)
    (h : held.nodes.Nodup) : (c.screen held texts).2.nodes.Nodup := by
  induction texts generalizing held with
  | nil => exact h
  | cons text rest ih =>
    rw [screen]
    split
    · exact ih h
    · rename_i named _
      split
      · exact ih h
      · rename_i hfree
        refine ih ?_
        have hnot : named ∉ held.nodes := by
          intro hin
          exact hfree (by simp [hin])
        rw [Claim.nodes, List.map_append, List.nodup_append]
        refine ⟨h, by simp, ?_⟩
        intro a ha b hb hab
        have hb' : b = named := by simpa using hb
        exact hnot (by rw [← hb', ← hab]; exact ha)

/-- A node put in is monitored. -/
theorem lookup_put (c : Connection) (node : NodeId) (m : Monitored) :
    (c.put node m).monitored.lookup node = some m := by
  show (c.monitored.filter (fun p => p.1 ≠ node) ++ [(node, m)]).lookup node = some m
  rw [List.lookup_append, lookup_without_self]
  simp

/-- A node dropped is not. -/
theorem lookup_drop (c : Connection) (node : NodeId) :
    (c.drop node).monitored.lookup node = none :=
  lookup_without_self c.monitored node

end Connection

end FieldBridge
