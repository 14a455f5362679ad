import Mathlib.Data.List.Nodup
import Mathlib.Data.List.Perm.Subperm
import Praas.LocalMemory.Server

namespace Praas
namespace LocalMemory
namespace Connections

open Library
open Server (maxConnections)

/-!
# The connections of sessions

The server keeps its connections in two arrays: which places are taken, and
the `Connection` objects.  A new connection is moved into the first free place
and is told the index of the place.  The loop later meets the connection again
through a pointer to the object and frees the place by the index stored there.
When no place is free `insert` returns a null pointer, which the loop uses
without a test.

A socket is a number, given in the order in which connections are accepted.
-/

inductive ConnectionType
  | session
  | p2p
  deriving DecidableEq

/-- `Connection`.  A closed socket is `none`, and so is a type that has not
been initialised. -/
structure Connection where
  conn : Option Nat
  busy : Bool
  pos : Int
  id : Bytes
  type : Option ConnectionType

namespace Connection

def new : Connection := ⟨none, false, -1, [], none⟩

/-- The constructor for a connection with a place. -/
def ofSocket (socket : Nat) (type : ConnectionType) (pos : Int) : Connection :=
  ⟨some socket, false, pos, [], some type⟩

/-- Move assignment.  The identifier is not moved; the old socket goes to the
other object and is closed with it. -/
def moveAssign (target source : Connection) : Connection :=
  { source with id := target.id }

end Connection

/-- `SessionConnections`. -/
structure SessionConnections where
  active : Nat -> Bool
  connections : Nat -> Connection

namespace SessionConnections

def new : SessionConnections := ⟨fun _ => false, fun _ => Connection.new⟩

def firstFree (table : SessionConnections) : Option Nat :=
  (List.range maxConnections).find? (fun slot => !table.active slot)

/-- `SessionConnections::insert`: a pointer to the object, null when all places
are taken. -/
def insert (table : SessionConnections) (socket : Nat) : Option Nat × SessionConnections :=
  match table.firstFree with
  | none => (none, table)
  | some slot =>
      (some slot, ⟨Function.update table.active slot true,
        Function.update table.connections slot ((table.connections slot).moveAssign
          (.ofSocket socket .session slot))⟩)

/-- `SessionConnections::release`; an index outside of the arrays has no
defined effect. -/
def release (table : SessionConnections) (pos : Int) : Option SessionConnections :=
  if 0 ≤ pos ∧ pos < maxConnections then
    some ⟨Function.update table.active pos.toNat false,
      Function.update table.connections pos.toNat
        { table.connections pos.toNat with conn := none }⟩
  else none

end SessionConnections

/-- A socket that is open, with the object to which the loop's events for it
point. -/
structure Opened where
  socket : Nat
  slot : Nat
  deriving DecidableEq

/-- The state of the loop.  It has crashed after the use of a null pointer or
of an index outside of the arrays. -/
structure State where
  table : SessionConnections
  opened : List Opened
  nextSocket : Nat
  crashed : Bool

def State.initial : State := ⟨.new, [], 0, false⟩

/-- The actions: a connection is accepted, an open connection is found to have
ended or failed, and a thread or the loop sets the flag of an object. -/
inductive Action
  | accept
  | ended (socket : Nat)
  | mark (slot : Nat) (busy : Bool)

/-- The sockets that stay open when one is closed. -/
def close (socket : Option Nat) (opened : List Opened) : List Opened :=
  opened.filter (fun entry => decide (some entry.socket ≠ socket))

/-- `insert`, and the use of the pointer it returns. -/
def acceptStep (state : State) : State :=
  match state.table.insert state.nextSocket with
  | (none, _) => { state with crashed := true }
  | (some slot, table) =>
      { state with
        table := table
        opened := close (state.table.connections slot).conn state.opened ++
          [⟨state.nextSocket, slot⟩]
        nextSocket := state.nextSocket + 1 }

/-- The end of the connection behind a pointer.  A busy connection is passed
over, and a connection between peers is not in the arrays. -/
def endedStep (state : State) (slot : Nat) : State :=
  let connection := state.table.connections slot
  if connection.busy then state
  else if connection.type = some .session then
    match state.table.release connection.pos with
    | none => { state with crashed := true }
    | some table =>
        { state with
          table := table
          opened := close (state.table.connections connection.pos.toNat).conn state.opened }
  else state

def markStep (state : State) (slot : Nat) (busy : Bool) : State :=
  { state with table := { state.table with
    connections := Function.update state.table.connections slot
      { state.table.connections slot with busy := busy } } }

def step (state : State) (action : Action) : Option State :=
  if state.crashed then none
  else match action with
    | .accept => some (acceptStep state)
    | .ended socket =>
        (state.opened.find? (fun entry => decide (entry.socket = socket))).map
          (fun entry => endedStep state entry.slot)
    | .mark slot busy => some (markStep state slot busy)

def system : TransitionSystem State Action where
  initial := State.initial
  step := step

abbrev Run (trace : List (State × Action)) (final : State) : Prop :=
  TransitionSystem.Run system State.initial trace final

/-! ## What is expected of the places -/

/-- The open connections have different places within the arrays, each object
knows its index, and nothing was used that does not exist. -/
structure SlotsSound (state : State) : Prop where
  running : state.crashed = false
  placed : forall entry, entry ∈ state.opened -> entry.slot < maxConnections ∧
    (state.table.connections entry.slot).pos = entry.slot
  distinct : (state.opened.map Opened.slot).Nodup

/-- The new connection has the place, which no open connection occupies. -/
structure Accepted (state next : State) (slot : Nat) : Prop where
  inside : slot < maxConnections
  free : forall entry, entry ∈ state.opened -> entry.slot ≠ slot
  added : next.opened = state.opened ++ [⟨state.nextSocket, slot⟩]
  stored : (next.table.connections slot).conn = some state.nextSocket ∧
    (next.table.connections slot).pos = slot

/-- The place of a connection is freed and its socket closed, and nothing else
is. -/
structure Released (state next : State) (entry : Opened) : Prop where
  was : entry ∈ state.opened
  freed : next.table.active = Function.update state.table.active entry.slot false
  others : forall slot, slot ≠ entry.slot ->
    next.table.connections slot = state.table.connections slot
  closed : forall other, other ∈ next.opened ↔ other ∈ state.opened ∧ other ≠ entry

/-- What a step may do: a connection is given a place or refused, and the end
of a connection frees its own place or is left for later. -/
def StepSound (state : State) (action : Action) (next : State) : Prop :=
  next.crashed = false ∧
    match action with
    | .accept => (Exists fun slot => Accepted state next slot) ∨
        next.table = state.table ∧ next.opened = state.opened
    | .ended socket => (Exists fun slot => Released state next ⟨socket, slot⟩) ∨
        Exists fun slot => ⟨socket, slot⟩ ∈ state.opened ∧
          (state.table.connections slot).busy = true ∧ next = state
    | .mark _ _ => next.table.active = state.table.active ∧ next.opened = state.opened

/-- A connection is accepted only while fewer are open than there are places. -/
def hasRoom (state : State) (action : Action) : Bool :=
  match action with
  | .accept => decide (state.opened.length < maxConnections)
  | _ => true

/-! ## The invariant of the arrays -/

/-- How the arrays and the open connections belong together: each open
connection is in a place of its own, which is marked as taken and whose object
holds its socket and its index, and nothing else is in the arrays. -/
structure Tabled (state : State) : Prop where
  placed : forall entry, entry ∈ state.opened -> entry.slot < maxConnections ∧
    (state.table.connections entry.slot).pos = entry.slot
  held : forall entry, entry ∈ state.opened -> state.table.active entry.slot = true ∧
    (state.table.connections entry.slot).conn = some entry.socket ∧
    (state.table.connections entry.slot).type = some .session
  distinct : (state.opened.map Opened.slot).Nodup
  occupied : forall slot, state.table.active slot = true ->
    Exists fun entry => entry ∈ state.opened ∧ entry.slot = slot
  empty : forall slot, state.table.active slot = false ->
    (state.table.connections slot).conn = none
  numbered : forall entry, entry ∈ state.opened -> entry.socket < state.nextSocket
  single : forall first second, first ∈ state.opened -> second ∈ state.opened ->
    first.socket = second.socket -> first = second

variable {state next : State}

theorem tabled_initial : Tabled State.initial where
  placed := fun _ member => False.elim (List.not_mem_nil member)
  held := fun _ member => False.elim (List.not_mem_nil member)
  distinct := List.nodup_nil
  occupied := fun _ taken => by cases taken
  empty := fun _ _ => rfl
  numbered := fun _ member => False.elim (List.not_mem_nil member)
  single := fun _ _ member => False.elim (List.not_mem_nil member)

/-- A place determines its entry, since the object holds the socket. -/
theorem Tabled.entry_unique (tabled : Tabled state) {first second : Opened}
    (left : first ∈ state.opened) (right : second ∈ state.opened)
    (same : first.slot = second.slot) : first = second := by
  have one := (tabled.held first left).2.1
  rw [same, (tabled.held second right).2.1] at one
  cases first
  cases second
  cases same
  cases one
  rfl

theorem mem_close {socket : Option Nat} {opened : List Opened} {entry : Opened} :
    entry ∈ close socket opened ↔ entry ∈ opened ∧ some entry.socket ≠ socket := by
  unfold close
  rw [List.mem_filter, decide_eq_true_eq]

theorem close_none (opened : List Opened) : close none opened = opened :=
  List.filter_eq_self.mpr (fun _ _ => by rw [decide_eq_true_eq]; exact Option.some_ne_none _)

theorem firstFree_some {table : SessionConnections} {slot : Nat}
    (found : table.firstFree = some slot) :
    slot < maxConnections ∧ table.active slot = false := by
  have free := List.find?_some found
  have inside := List.mem_of_find?_eq_some found
  exact ⟨List.mem_range.mp inside, by simpa using free⟩

/-- There is a free place exactly when fewer connections are open than there
are places. -/
theorem firstFree_isSome (tabled : Tabled state) :
    state.table.firstFree.isSome = true ↔ state.opened.length < maxConnections := by
  have bounded : state.opened.map Opened.slot ⊆ List.range maxConnections := by
    intro slot member
    rcases List.mem_map.mp member with ⟨entry, inside, rfl⟩
    exact List.mem_range.mpr (tabled.placed entry inside).1
  have within := tabled.distinct.subperm bounded
  constructor
  · intro found
    rcases Option.isSome_iff_exists.mp found with ⟨slot, first⟩
    rcases firstFree_some first with ⟨inside, free⟩
    by_contra full
    have all := within.perm_of_length_le (by
      rw [List.length_range, List.length_map]
      exact Nat.not_lt.mp full)
    rcases List.mem_map.mp (all.mem_iff.mpr (List.mem_range.mpr inside)) with
      ⟨entry, member, rfl⟩
    rw [(tabled.held entry member).1] at free
    cases free
  · intro room
    by_contra none
    have taken : List.range maxConnections ⊆ state.opened.map Opened.slot := by
      intro slot inside
      have full := List.find?_eq_none.mp (Option.not_isSome_iff_eq_none.mp none) slot inside
      rcases tabled.occupied slot (by simpa using full) with ⟨entry, member, rfl⟩
      exact List.mem_map_of_mem member
    have long := (List.nodup_range.subperm taken).length_le
    rw [List.length_range, List.length_map] at long
    omega

/-! ## One step -/

theorem acceptStep_some {slot : Nat} (found : state.table.firstFree = some slot)
    (tabled : Tabled state) : acceptStep state =
      { state with
        table := ⟨Function.update state.table.active slot true,
          Function.update state.table.connections slot
            ((state.table.connections slot).moveAssign
              (.ofSocket state.nextSocket .session slot))⟩
        opened := state.opened ++ [⟨state.nextSocket, slot⟩]
        nextSocket := state.nextSocket + 1 } := by
  simp only [acceptStep, SessionConnections.insert, found,
    tabled.empty slot (firstFree_some found).2, close_none]

theorem acceptStep_none (full : state.table.firstFree = none) :
    acceptStep state = { state with crashed := true } := by
  simp only [acceptStep, SessionConnections.insert, full]

/-- No open connection occupies a free place. -/
theorem Tabled.slot_ne (tabled : Tabled state) {slot : Nat}
    (free : state.table.active slot = false) {entry : Opened} (member : entry ∈ state.opened) :
    entry.slot ≠ slot := by
  rintro rfl
  rw [(tabled.held entry member).1] at free
  cases free

theorem tabled_accept (tabled : Tabled state) : Tabled (acceptStep state) := by
  cases found : state.table.firstFree with
  | none =>
      rw [acceptStep_none found]
      exact ⟨tabled.placed, tabled.held, tabled.distinct, tabled.occupied, tabled.empty,
        tabled.numbered, tabled.single⟩
  | some slot =>
      rcases firstFree_some found with ⟨inside, free⟩
      rw [acceptStep_some found tabled]
      have elsewhere : forall entry, entry ∈ state.opened -> entry.slot ≠ slot :=
        fun entry => tabled.slot_ne free
      refine ⟨?_, ?_, ?_, ?_, ?_, ?_, ?_⟩
      · intro entry member
        rcases List.mem_append.mp member with old | new
        · dsimp only
          rw [Function.update_of_ne (elsewhere entry old)]
          exact tabled.placed entry old
        · rw [List.mem_singleton.mp new]
          dsimp only
          rw [Function.update_self]
          exact ⟨inside, rfl⟩
      · intro entry member
        rcases List.mem_append.mp member with old | new
        · dsimp only
          rw [Function.update_of_ne (elsewhere entry old),
            Function.update_of_ne (elsewhere entry old)]
          exact tabled.held entry old
        · rw [List.mem_singleton.mp new]
          dsimp only
          rw [Function.update_self, Function.update_self]
          exact ⟨rfl, rfl, rfl⟩
      · rw [List.map_append]
        apply List.nodup_append.mpr
        refine ⟨tabled.distinct, List.nodup_singleton _, ?_⟩
        intro place before last ends
        rcases List.mem_map.mp before with ⟨entry, member, rfl⟩
        rw [List.mem_singleton.mp ends]
        exact elsewhere entry member
      · intro place taken
        by_cases same : place = slot
        · exact ⟨_, List.mem_append.mpr (Or.inr (List.mem_singleton.mpr rfl)), same.symm⟩
        · dsimp only at taken
          rw [Function.update_of_ne same] at taken
          rcases tabled.occupied place taken with ⟨entry, member, placed⟩
          exact ⟨entry, List.mem_append.mpr (Or.inl member), placed⟩
      · intro place unused
        have other : place ≠ slot := by
          rintro rfl
          dsimp only at unused
          rw [Function.update_self] at unused
          cases unused
        dsimp only at unused ⊢
        rw [Function.update_of_ne other] at unused ⊢
        exact tabled.empty place unused
      · intro entry member
        rcases List.mem_append.mp member with old | new
        · exact Nat.lt_succ_of_lt (tabled.numbered entry old)
        · rw [List.mem_singleton.mp new]
          exact Nat.lt_succ_self _
      · intro first second left right same
        rcases List.mem_append.mp left with old | new <;>
          rcases List.mem_append.mp right with older | newer
        · exact tabled.single first second old older same
        · rw [List.mem_singleton.mp newer] at same
          exact absurd same (Nat.ne_of_lt (tabled.numbered first old))
        · rw [List.mem_singleton.mp new] at same
          exact absurd same.symm (Nat.ne_of_lt (tabled.numbered second older))
        · rw [List.mem_singleton.mp new, List.mem_singleton.mp newer]

/-- The end of a connection that is not busy frees the place that its object
knows, which is its own. -/
theorem endedStep_idle (tabled : Tabled state) {entry : Opened} (member : entry ∈ state.opened)
    (idle : (state.table.connections entry.slot).busy = false) :
    endedStep state entry.slot =
      { state with
        table := ⟨Function.update state.table.active entry.slot false,
          Function.update state.table.connections entry.slot
            { state.table.connections entry.slot with conn := none }⟩
        opened := close (some entry.socket) state.opened } := by
  rcases tabled.placed entry member with ⟨inside, known⟩
  rcases tabled.held entry member with ⟨_, socket, session⟩
  have valid : 0 ≤ (entry.slot : Int) ∧ (entry.slot : Int) < maxConnections := by omega
  simp only [endedStep, idle, session, known, SessionConnections.release, valid, socket,
    Int.toNat_natCast, Bool.false_eq_true, if_false, if_true, and_self]

theorem endedStep_busy {slot : Nat} (busy : (state.table.connections slot).busy = true) :
    endedStep state slot = state := by
  simp only [endedStep, busy, if_true]

/-- What stays open is at another place. -/
theorem Tabled.closed_slot_ne (tabled : Tabled state) {entry other : Opened}
    (member : entry ∈ state.opened) (left : other ∈ close (some entry.socket) state.opened) :
    other.slot ≠ entry.slot := by
  rcases mem_close.mp left with ⟨old, different⟩
  intro same
  exact different (congrArg (fun entry => some entry.socket) (tabled.entry_unique old member same))

theorem tabled_ended (tabled : Tabled state) {entry : Opened} (member : entry ∈ state.opened) :
    Tabled (endedStep state entry.slot) := by
  cases busy : (state.table.connections entry.slot).busy with
  | true =>
      rw [endedStep_busy busy]
      exact tabled
  | false =>
      rw [endedStep_idle tabled member busy]
      refine ⟨?_, ?_, ?_, ?_, ?_, ?_, ?_⟩
      · intro other left
        dsimp only
        rw [Function.update_of_ne (tabled.closed_slot_ne member left)]
        exact tabled.placed other (mem_close.mp left).1
      · intro other left
        have apart := tabled.closed_slot_ne member left
        dsimp only
        rw [Function.update_of_ne apart, Function.update_of_ne apart]
        exact tabled.held other (mem_close.mp left).1
      · exact tabled.distinct.sublist (List.filter_sublist.map _)
      · intro place taken
        have apart : place ≠ entry.slot := by
          rintro rfl
          dsimp only at taken
          rw [Function.update_self] at taken
          cases taken
        dsimp only at taken
        rw [Function.update_of_ne apart] at taken
        rcases tabled.occupied place taken with ⟨other, old, placed⟩
        refine ⟨other, mem_close.mpr ⟨old, ?_⟩, placed⟩
        intro same
        have equal := tabled.single other entry old member (Option.some.inj same)
        rw [equal] at placed
        exact apart placed.symm
      · intro place unused
        dsimp only at unused ⊢
        by_cases same : place = entry.slot
        · rw [same, Function.update_self]
        · rw [Function.update_of_ne same] at unused ⊢
          exact tabled.empty place unused
      · intro other left
        exact tabled.numbered other (mem_close.mp left).1
      · intro first second left right same
        exact tabled.single first second (mem_close.mp left).1 (mem_close.mp right).1 same

theorem tabled_mark (tabled : Tabled state) (slot : Nat) (busy : Bool) :
    Tabled (markStep state slot busy) := by
  have kept : forall place,
      ((markStep state slot busy).table.connections place).conn =
          (state.table.connections place).conn ∧
      ((markStep state slot busy).table.connections place).pos =
          (state.table.connections place).pos ∧
      ((markStep state slot busy).table.connections place).type =
          (state.table.connections place).type := by
    intro place
    dsimp only [markStep]
    by_cases same : place = slot
    · rw [same, Function.update_self]
      exact ⟨rfl, rfl, rfl⟩
    · rw [Function.update_of_ne same]
      exact ⟨rfl, rfl, rfl⟩
  refine ⟨?_, ?_, tabled.distinct, tabled.occupied, ?_, tabled.numbered, tabled.single⟩
  · intro entry member
    rw [(kept entry.slot).2.1]
    exact tabled.placed entry member
  · intro entry member
    rw [(kept entry.slot).1, (kept entry.slot).2.2]
    exact tabled.held entry member
  · intro place unused
    rw [(kept place).1]
    exact tabled.empty place unused

inductive Transition (state : State) : Action -> State -> Prop
  | accept : Transition state .accept (acceptStep state)
  | ended {entry : Opened} : entry ∈ state.opened ->
      Transition state (.ended entry.socket) (endedStep state entry.slot)
  | mark (slot : Nat) (busy : Bool) :
      Transition state (.mark slot busy) (markStep state slot busy)

theorem step_transition {action : Action} (stepped : step state action = some next) :
    state.crashed = false ∧ Transition state action next := by
  unfold step at stepped
  split at stepped
  · cases stepped
  · rename_i running
    refine ⟨Bool.eq_false_iff.mpr running, ?_⟩
    cases action with
    | accept =>
        cases stepped
        exact .accept
    | ended socket =>
        rcases Option.map_eq_some_iff.mp stepped with ⟨entry, found, rfl⟩
        have named : entry.socket = socket := by simpa using List.find?_some found
        rw [← named]
        exact .ended (List.mem_of_find?_eq_some found)
    | mark slot busy =>
        cases stepped
        exact .mark slot busy

theorem tabled_step {action : Action} (tabled : Tabled state)
    (moved : Transition state action next) : Tabled next := by
  cases moved with
  | accept => exact tabled_accept tabled
  | ended member => exact tabled_ended tabled member
  | mark slot busy => exact tabled_mark tabled slot busy

theorem tabled_of_run {trace : List (State × Action)} {final : State} (run : Run trace final) :
    Tabled final := by
  apply run.invariant Tabled tabled_initial
  intro source action target tabled stepped
  exact tabled_step tabled (step_transition stepped).2

/-! ## The steps taken with room for a connection -/

/-- A step does what is expected of it exactly when there is room for a
connection that it accepts. -/
theorem stepSound_iff {action : Action} (tabled : Tabled state) (running : state.crashed = false)
    (moved : Transition state action next) :
    StepSound state action next ↔ hasRoom state action = true := by
  cases moved with
  | accept =>
      unfold hasRoom
      dsimp only
      rw [decide_eq_true_eq, ← firstFree_isSome tabled]
      cases found : state.table.firstFree with
      | none =>
          rw [acceptStep_none found]
          exact iff_of_false (fun sound => Bool.false_ne_true sound.1.symm) Bool.false_ne_true
      | some slot =>
          rcases firstFree_some found with ⟨inside, free⟩
          rw [acceptStep_some found tabled]
          refine iff_of_true ⟨running, Or.inl ⟨slot, inside, fun entry => tabled.slot_ne free,
            rfl, ?_⟩⟩ rfl
          dsimp only
          rw [Function.update_self]
          exact ⟨rfl, rfl⟩
  | @ended entry member =>
      refine iff_of_true ?_ rfl
      cases busy : (state.table.connections entry.slot).busy with
      | true =>
          rw [endedStep_busy busy]
          exact ⟨running, Or.inr ⟨entry.slot, member, busy, rfl⟩⟩
      | false =>
          rw [endedStep_idle tabled member busy]
          refine ⟨running, Or.inl ⟨entry.slot, member, rfl, ?_, ?_⟩⟩
          · intro slot apart
            exact Function.update_of_ne apart _ _
          · intro other
            rw [mem_close]
            apply and_congr_right
            intro old
            constructor
            · rintro different rfl
              exact different rfl
            · intro different same
              exact different (tabled.single other entry old member (Option.some.inj same))
  | mark slot busy => exact iff_of_true ⟨running, rfl, rfl⟩ rfl

/-- The steps of a run do what is expected of them, and the places are sound
where it ends, exactly when every connection of the run is accepted while fewer
are open than there are places. -/
theorem connection_slots_sound_iff {trace : List (State × Action)} {final : State}
    (run : Run trace final) :
    (SlotsSound final ∧ forall entry, entry ∈ trace -> forall next,
      step entry.1 entry.2 = some next -> StepSound entry.1 entry.2 next) ↔
      TransitionSystem.Guarded (fun state action => hasRoom state action = true) trace := by
  have tabled := tabled_of_run run
  induction run with
  | start =>
      refine iff_of_true ⟨⟨rfl, tabled.placed, tabled.distinct⟩, ?_⟩ ?_
      · intro entry member
        cases member
      · intro entry member
        cases member
  | @extend trace source target action earlier stepped inductionHypothesis =>
      have before := tabled_of_run earlier
      have moved := step_transition stepped
      have last := stepSound_iff before moved.1 moved.2
      rw [TransitionSystem.guarded_append_iff]
      refine Iff.trans ?_ (and_congr (inductionHypothesis before) last)
      constructor
      · rintro ⟨_, steps⟩
        refine ⟨⟨⟨moved.1, before.placed, before.distinct⟩, ?_⟩, ?_⟩
        · intro entry member
          exact steps entry (List.mem_append.mpr (Or.inl member))
        · exact steps (source, action) (List.mem_append.mpr (Or.inr (List.mem_singleton.mpr rfl)))
            target stepped
      · rintro ⟨⟨_, steps⟩, sound⟩
        refine ⟨⟨sound.1, tabled.placed, tabled.distinct⟩, ?_⟩
        intro entry member next taken
        rcases List.mem_append.mp member with old | new
        · exact steps entry old next taken
        · rw [List.mem_singleton.mp new] at taken ⊢
          rw [show step source action = some target from stepped] at taken
          cases taken
          exact sound

/-- The place of the first connection is used again after its end. -/
def reusedSlot : List Action := [.accept, .accept, .mark 0 true, .mark 0 false, .ended 0, .accept]

theorem reused_slot_sound : Exists fun trace => Exists fun final => Run trace final ∧
    SlotsSound final ∧ final.opened = [⟨1, 1⟩, ⟨2, 0⟩] := by
  have found := TransitionSystem.exists_run system State.initial reusedSlot (fun trace final =>
    trace.all (fun entry => hasRoom entry.1 entry.2) &&
      decide (final.opened = [⟨1, 1⟩, ⟨2, 0⟩])) (by decide +kernel)
  rcases found with ⟨trace, final, run, tested⟩
  rw [Bool.and_eq_true, decide_eq_true_eq] at tested
  have sound := (connection_slots_sound_iff run).mpr (TransitionSystem.guarded_of_all tested.1)
  exact ⟨trace, final, run, sound.1, tested.2⟩

/-- The connection after the sixty-fourth makes the loop use a null pointer. -/
theorem full_table_dereferenced :
    ¬ forall (trace : List (State × Action)) (final : State), Run trace final ->
      SlotsSound final ∧ forall entry, entry ∈ trace -> forall next,
        step entry.1 entry.2 = some next -> StepSound entry.1 entry.2 next := by
  intro always
  have found := TransitionSystem.exists_run system State.initial
    (List.replicate (maxConnections + 1) .accept) (fun _ final => final.crashed)
    (by decide +kernel)
  rcases found with ⟨trace, final, run, crashed⟩
  have running := (always trace final run).1.running
  rw [crashed] at running
  cases running

end Connections
end LocalMemory
end Praas
