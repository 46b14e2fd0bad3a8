/-
This file settles whether a server keeps connecting to the peers it was configured with. A task
tries again whenever its connection is lost, until its receiver resolves, and that happens also when
the sender is dropped. The table of tasks holds the senders. A server that persists its peers enters
every task there, one that does not drops the senders at once, so none of its tasks survives. And
two calls that add the same peer start two tasks.
-/

import Vnt.Base.Machine
import Vnt.Base.Map

namespace Vnt.Server

open Vnt.Base

/-! ### The tasks -/

/-- How far `connect_to_peer` is: in `connect_to_peer_once`, in the delay before the next try, or
ended. -/
inductive ConnectPhase where
  | connecting
  | delaying
  | ended
  deriving DecidableEq, Repr

/-- A task of `connect_to_peer`. It is stopped when something was sent to its receiver, or its
sender was dropped. -/
structure ConnectTask where
  peerAddr : String
  phase : ConnectPhase
  stopped : Bool
  deriving DecidableEq, Repr

abbrev TaskId : Type := Nat

/-- How far `add_outbound_peer` is: the table had no entry, the row was saved, the task was
started. -/
inductive AddStage where
  | checked
  | saved
  | started (task : TaskId)
  deriving DecidableEq, Repr

structure Adding where
  serverAddr : String
  stage : AddStage
  deriving DecidableEq, Repr

/-- The tasks, those the table holds, the configured peers whose task starts later, and the calls
under way. The wanted peers are those that were configured or added and not removed since. -/
structure OutboundPeers where
  tasks : List ConnectTask
  outboundTasks : Map String TaskId
  delayed : List String
  adding : Map Nat Adding
  wanted : List String

/-- `PeerConf`. -/
structure PeerConf where
  persistence : Bool
  peerServers : List String

/-- The table of peers at the start, which configured peers can be saved in it, and whether it can
be read. -/
structure StoredPeers where
  rows : List String
  unique : rows.Nodup
  saves : String → Bool
  loads : Bool

/-- `sync_peer_servers_to_db`: the peers that are there already are skipped. -/
def StoredPeers.sync (stored : StoredPeers) (peerServers : List String) : List String :=
  peerServers.foldl (fun rows addr =>
    if stored.saves addr = true ∧ addr ∉ rows then rows ++ [addr] else rows) stored.rows

/-- `load_all_peer_servers` after the configured peers were saved; without a database there are
none. -/
def loadedPeers (stored : Option StoredPeers) (peerServers : List String) : List String :=
  match stored with
  | none => []
  | some stored => if stored.loads = true then stored.sync peerServers else []

namespace OutboundPeers

/-- `connect_to_peer`: the new task has the next number. -/
def connectToPeer (peers : OutboundPeers) (peerAddr : String) : OutboundPeers :=
  { peers with tasks := peers.tasks ++ [⟨peerAddr, .connecting, false⟩] }

/-- The receiver of a task resolves. -/
def stopTask (peers : OutboundPeers) (task : TaskId) : OutboundPeers :=
  { peers with tasks := peers.tasks.modify task fun found => { found with stopped := true } }

/-- `outbound_tasks.insert`: the sender of an entry that is replaced is dropped. -/
def enterTask (peers : OutboundPeers) (peerAddr : String) (task : TaskId) : OutboundPeers :=
  let kept :=
    match peers.outboundTasks.lookup peerAddr with
    | some old => peers.stopTask old
    | none => peers
  { kept with outboundTasks := peers.outboundTasks.insert peerAddr task }

/-- One turn of `load_and_start_outbound_peers`. -/
def startOne (peers : OutboundPeers) (peerAddr : String) : OutboundPeers :=
  (peers.connectToPeer peerAddr).enterTask peerAddr peers.tasks.length

def empty : OutboundPeers := ⟨[], ∅, [], ∅, []⟩

/-- `init_peer_manager`. -/
def start (conf : PeerConf) (stored : Option StoredPeers) : OutboundPeers :=
  if conf.persistence = true then
    let loaded := loadedPeers stored conf.peerServers
    { loaded.foldl startOne empty with wanted := conf.peerServers ++ loaded }
  else { empty with delayed := conf.peerServers, wanted := conf.peerServers }

end OutboundPeers

inductive OutboundEvent where
  | connectDelayed (index : Nat)
  | lost (task : TaskId)
  | retry (task : TaskId)
  | finish (task : TaskId)
  | add (id : Nat) (serverAddr : String)
  | save (id : Nat) (succeeds : Bool)
  | startAdded (id : Nat)
  | enterAdded (id : Nat)
  | remove (serverAddr : String)

namespace OutboundPeers

/-- A configured peer of a server that does not persist them, after two seconds: the task starts,
and what `connect_to_peer` returns is dropped. -/
def connectDelayed (peers : OutboundPeers) (index : Nat) : Option OutboundPeers :=
  peers.delayed[index]?.map fun peerAddr =>
    ({ peers with delayed := peers.delayed.eraseIdx index }.connectToPeer peerAddr).stopTask
      peers.tasks.length

/-- A task goes from one phase to another. -/
def movePhase (peers : OutboundPeers) (task : TaskId) (source target : ConnectPhase) :
    Option OutboundPeers :=
  peers.tasks[task]?.bind fun found =>
    if found.phase = source then
      some { peers with tasks := peers.tasks.set task { found with phase := target } }
    else none

/-- A task whose receiver has resolved ends. -/
def finish (peers : OutboundPeers) (task : TaskId) : Option OutboundPeers :=
  peers.tasks[task]?.bind fun found =>
    if found.stopped = true ∧ found.phase ≠ .ended then
      some { peers with tasks := peers.tasks.set task { found with phase := .ended } }
    else none

def proceedAdd (peers : OutboundPeers) (id : Nat) (serverAddr : String) (stage : AddStage) :
    OutboundPeers :=
  { peers with adding := peers.adding.insert id ⟨serverAddr, stage⟩ }

/-- `add_outbound_peer` up to its statement. -/
def add (peers : OutboundPeers) (id : Nat) (serverAddr : String) : Option OutboundPeers :=
  if (peers.adding.lookup id).isSome = true then none
  else if (peers.outboundTasks.lookup serverAddr).isSome = true then some peers
  else some (peers.proceedAdd id serverAddr .checked)

/-- Its statement. -/
def save (peers : OutboundPeers) (id : Nat) (succeeds : Bool) : Option OutboundPeers :=
  (peers.adding.lookup id).bind fun adding =>
    match adding.stage with
    | .checked =>
      if succeeds = true then some (peers.proceedAdd id adding.serverAddr .saved)
      else some { peers with adding := peers.adding.erase id }
    | _ => none

/-- It starts the task. -/
def startAdded (peers : OutboundPeers) (id : Nat) : Option OutboundPeers :=
  (peers.adding.lookup id).bind fun adding =>
    match adding.stage with
    | .saved =>
      some ((peers.connectToPeer adding.serverAddr).proceedAdd id adding.serverAddr
        (.started peers.tasks.length))
    | _ => none

/-- It enters the task. -/
def enterAdded (peers : OutboundPeers) (id : Nat) : Option OutboundPeers :=
  (peers.adding.lookup id).bind fun adding =>
    match adding.stage with
    | .started task =>
      let entered := peers.enterTask adding.serverAddr task
      some { entered with
        adding := peers.adding.erase id
        wanted := adding.serverAddr :: peers.wanted }
    | _ => none

/-- `remove_outbound_peer` takes the task out of the table and stops it. -/
def remove (peers : OutboundPeers) (serverAddr : String) : OutboundPeers :=
  let stopped :=
    match peers.outboundTasks.lookup serverAddr with
    | some task => peers.stopTask task
    | none => peers
  { stopped with
    outboundTasks := peers.outboundTasks.erase serverAddr
    wanted := peers.wanted.filter fun other => other ≠ serverAddr }

/-- The tasks as a machine. -/
def machine : Machine OutboundPeers OutboundEvent where
  step peers event :=
    match event with
    | .connectDelayed index => peers.connectDelayed index
    | .lost task => peers.movePhase task .connecting .delaying
    | .retry task => peers.movePhase task .delaying .connecting
    | .finish task => peers.finish task
    | .add id serverAddr => peers.add id serverAddr
    | .save id succeeds => peers.save id succeeds
    | .startAdded id => peers.startAdded id
    | .enterAdded id => peers.enterAdded id
    | .remove serverAddr => some (peers.remove serverAddr)

/-! ### One task for each peer -/

/-- The task is one for the peer, and has not ended. -/
def Tries (peers : OutboundPeers) (peerAddr : String) (task : TaskId) : Prop :=
  ∃ found, peers.tasks[task]? = some found ∧ found.peerAddr = peerAddr ∧ found.phase ≠ .ended

/-- Each wanted peer has exactly one task that has not ended, unless its first one is still to
start. -/
def Connected (peers : OutboundPeers) : Prop :=
  ∀ peerAddr ∈ peers.wanted, peerAddr ∉ peers.delayed → ∃! task, peers.Tries peerAddr task

/-- What holds in every run: the tasks the table holds and those that are to be entered are tasks
for their peers. -/
structure Tracked (peers : OutboundPeers) : Prop where
  delayed : peers.delayed = []
  entries : ∀ peerAddr task, peers.outboundTasks.lookup peerAddr = some task →
    ∃ found, peers.tasks[task]? = some found ∧ found.peerAddr = peerAddr
  started : ∀ id adding task, peers.adding.lookup id = some adding →
    adding.stage = .started task → ∃ found, peers.tasks[task]? = some found ∧
      found.peerAddr = adding.serverAddr ∧ found.phase ≠ .ended ∧ found.stopped = false
  apart : ∀ id adding task, peers.adding.lookup id = some adding →
    adding.stage = .started task →
      (∀ peerAddr, peers.outboundTasks.lookup peerAddr ≠ some task) ∧
      ∀ other second, peers.adding.lookup other = some second →
        second.stage = .started task → other = id

/-- What holds as long as no peer is added twice: the tasks of a wanted peer are held by the table,
and there is one. -/
structure Held (peers : OutboundPeers) : Prop where
  held : ∀ peerAddr ∈ peers.wanted, ∀ task found, peers.tasks[task]? = some found →
    found.peerAddr = peerAddr → found.phase ≠ .ended →
      peers.outboundTasks.lookup peerAddr = some task ∧ found.stopped = false
  tried : ∀ peerAddr ∈ peers.wanted, ∃ task, peers.Tries peerAddr task

/-! ### What a step changes -/

variable {peers next : OutboundPeers} {peerAddr : String} {task : TaskId} {found : ConnectTask}

/-- A task that is stopped keeps its peer and its phase. -/
theorem getElem?_stopTask {other : TaskId} : (peers.stopTask task).tasks[other]? =
    (peers.tasks[other]?).map fun found =>
      if task = other then { found with stopped := true } else found := by
  unfold stopTask
  dsimp only
  rw [List.getElem?_modify]
  split <;> rfl

theorem stopTask_of_ne {other : TaskId} (differs : task ≠ other) :
    (peers.stopTask task).tasks[other]? = peers.tasks[other]? := by
  rw [getElem?_stopTask]
  simp only [if_neg differs]
  exact Option.map_id'

theorem stopped_frame (stops : Prop) [Decidable stops] (before : ConnectTask) :
    (if stops then { before with stopped := true } else before).peerAddr = before.peerAddr ∧
      (if stops then { before with stopped := true } else before).phase = before.phase := by
  split <;> exact ⟨rfl, rfl⟩

/-- A task keeps its peer when another one, or itself, is stopped. -/
theorem isFor_stopTask (task : TaskId) {other : TaskId}
    (isFor : ∃ found, peers.tasks[other]? = some found ∧ found.peerAddr = peerAddr) :
    ∃ found, (peers.stopTask task).tasks[other]? = some found ∧ found.peerAddr = peerAddr := by
  obtain ⟨found, same, named⟩ := isFor
  rw [getElem?_stopTask, same]
  exact ⟨_, rfl, (stopped_frame (task = other) found).1.trans named⟩

theorem getElem?_connectToPeer_of_some (same : peers.tasks[task]? = some found) :
    (peers.connectToPeer peerAddr).tasks[task]? = some found := by
  unfold connectToPeer
  dsimp only
  rw [List.getElem?_append_left (List.getElem?_eq_some_iff.mp same).1]
  exact same

/-- The new task is the last one. -/
theorem getElem?_connectToPeer :
    (peers.connectToPeer peerAddr).tasks[peers.tasks.length]? =
      some ⟨peerAddr, .connecting, false⟩ := by
  unfold connectToPeer
  dsimp only
  rw [List.getElem?_concat_length]

/-- A task whose phase changes keeps its peer. -/
theorem isFor_setPhase {other : TaskId} {name : String} {phase : ConnectPhase}
    (same : peers.tasks[task]? = some found)
    (isFor : ∃ found, peers.tasks[other]? = some found ∧ found.peerAddr = name) :
    ∃ changed, (peers.tasks.set task { found with phase := phase })[other]? = some changed ∧
      changed.peerAddr = name := by
  obtain ⟨before, isBefore, named⟩ := isFor
  by_cases isTask : task = other
  · subst isTask
    cases same.symm.trans isBefore
    exact ⟨{ found with phase := phase },
      List.getElem?_set_self (List.getElem?_eq_some_iff.mp same).1, named⟩
  · rw [List.getElem?_set_ne isTask]
    exact ⟨before, isBefore, named⟩

/-- A task of after the change was there before, with its peer and whether it is stopped. -/
theorem of_getElem?_setPhase {other : TaskId} {changed : ConnectTask} {phase : ConnectPhase}
    (same : peers.tasks[task]? = some found)
    (after : (peers.tasks.set task { found with phase := phase })[other]? = some changed) :
    (task = other ∧ changed = { found with phase := phase }) ∨
      (task ≠ other ∧ peers.tasks[other]? = some changed) := by
  by_cases isTask : task = other
  · subst isTask
    rw [List.getElem?_set_self (List.getElem?_eq_some_iff.mp same).1] at after
    exact .inl ⟨rfl, (Option.some.inj after).symm⟩
  · rw [List.getElem?_set_ne isTask] at after
    exact .inr ⟨isTask, after⟩

/-! ### What holds in every run -/

theorem Tracked.setPhase {phase : ConnectPhase} (tracked : peers.Tracked)
    (same : peers.tasks[task]? = some found) (ends : phase = .ended → found.stopped = true) :
    Tracked { peers with tasks := peers.tasks.set task { found with phase := phase } } where
  delayed := tracked.delayed
  entries peerAddr entry isEntry := isFor_setPhase same (tracked.entries peerAddr entry isEntry)
  started id adding other isAdding stage := by
    obtain ⟨before, isBefore, named, runs, goesOn⟩ := tracked.started id adding other isAdding stage
    by_cases isTask : task = other
    · subst isTask
      cases same.symm.trans isBefore
      refine ⟨_, List.getElem?_set_self (List.getElem?_eq_some_iff.mp same).1, named, ?_, goesOn⟩
      intro ended
      cases (ends ended).symm.trans goesOn
    · dsimp only
      rw [List.getElem?_set_ne isTask]
      exact ⟨before, isBefore, named, runs, goesOn⟩
  apart := tracked.apart

theorem Tracked.stopTask (tracked : peers.Tracked)
    (free : ∀ id adding, peers.adding.lookup id = some adding → adding.stage ≠ .started task) :
    Tracked (peers.stopTask task) where
  delayed := tracked.delayed
  entries peerAddr entry isEntry := isFor_stopTask task (tracked.entries peerAddr entry isEntry)
  started id adding other isAdding stage := by
    have differs : task ≠ other := by
      rintro rfl
      exact free id adding isAdding stage
    rw [stopTask_of_ne differs]
    exact tracked.started id adding other isAdding stage
  apart := tracked.apart

theorem Tracked.connectToPeer (tracked : peers.Tracked) (peerAddr : String) :
    Tracked (peers.connectToPeer peerAddr) where
  delayed := tracked.delayed
  entries peerAddr entry isEntry := by
    obtain ⟨found, same, named⟩ := tracked.entries peerAddr entry isEntry
    exact ⟨found, getElem?_connectToPeer_of_some same, named⟩
  started id adding other isAdding stage := by
    obtain ⟨found, same, rest⟩ := tracked.started id adding other isAdding stage
    exact ⟨found, getElem?_connectToPeer_of_some same, rest⟩
  apart := tracked.apart

/-- The calls under way may change as long as none gets a task that way. -/
theorem Tracked.setAdding {calls : Map Nat Adding} (tracked : peers.Tracked)
    (fewer : ∀ id adding task, calls.lookup id = some adding → adding.stage = .started task →
      peers.adding.lookup id = some adding) : Tracked { peers with adding := calls } where
  delayed := tracked.delayed
  entries := tracked.entries
  started id adding task isAdding stage :=
    tracked.started id adding task (fewer id adding task isAdding stage) stage
  apart id adding task isAdding stage := by
    obtain ⟨notEntered, alone⟩ := tracked.apart id adding task (fewer id adding task isAdding stage)
      stage
    exact ⟨notEntered, fun other second isSecond secondStage =>
      alone other second (fewer other second task isSecond secondStage) secondStage⟩

theorem Tracked.proceedAdd {id : Nat} {serverAddr : String} {stage : AddStage}
    (tracked : peers.Tracked) (notStarted : ∀ task, stage ≠ .started task) :
    Tracked (peers.proceedAdd id serverAddr stage) := by
  refine tracked.setAdding fun other adding task isAdding isStage => ?_
  rw [Map.lookup_insert_eq] at isAdding
  split at isAdding
  · cases isAdding
    exact absurd isStage (notStarted task)
  · exact isAdding

theorem Tracked.eraseAdding (tracked : peers.Tracked) (id : Nat) :
    Tracked { peers with adding := peers.adding.erase id } := by
  refine tracked.setAdding fun other adding task isAdding _ => ?_
  rw [Map.lookup_erase_eq] at isAdding
  split at isAdding
  · cases isAdding
  · exact isAdding

/-- A task that no call is about to enter may be entered. -/
theorem Tracked.enterTask (tracked : peers.Tracked)
    (isFor : ∃ found, peers.tasks[task]? = some found ∧ found.peerAddr = peerAddr)
    (free : ∀ id adding, peers.adding.lookup id = some adding → adding.stage ≠ .started task) :
    Tracked (peers.enterTask peerAddr task) := by
  have stops : ∀ kept : OutboundPeers, kept.Tracked → kept.outboundTasks = peers.outboundTasks →
      kept.adding = peers.adding →
      (∃ found, kept.tasks[task]? = some found ∧ found.peerAddr = peerAddr) →
      Tracked { kept with outboundTasks := peers.outboundTasks.insert peerAddr task } := by
    intro kept keptTracked sameTasks sameAdding keptFor
    refine ⟨keptTracked.delayed, fun name entry isEntry => ?_, keptTracked.started,
      fun id adding other isAdding stage => ⟨fun name isEntry => ?_,
        (keptTracked.apart id adding other isAdding stage).2⟩⟩
    · dsimp only at isEntry
      rw [Map.lookup_insert_eq] at isEntry
      split at isEntry
      · next isName =>
        cases isEntry
        rw [isName]
        exact keptFor
      · exact keptTracked.entries name entry (sameTasks ▸ isEntry)
    · dsimp only at isEntry
      rw [Map.lookup_insert_eq] at isEntry
      split at isEntry
      · cases isEntry
        exact free id adding (sameAdding ▸ isAdding) stage
      · exact (keptTracked.apart id adding other isAdding stage).1 name (sameTasks ▸ isEntry)
  unfold OutboundPeers.enterTask
  dsimp only
  cases isOld : peers.outboundTasks.lookup peerAddr with
  | none => exact stops peers tracked rfl rfl isFor
  | some old =>
    have unentered : ∀ id adding, peers.adding.lookup id = some adding →
        adding.stage ≠ .started old := fun id adding isAdding stage =>
      (tracked.apart id adding old isAdding stage).1 peerAddr isOld
    exact stops (peers.stopTask old) (tracked.stopTask unentered) rfl rfl (isFor_stopTask old isFor)

/-- Entering a task and closing the call that started it may be done in either order. -/
theorem enterTask_setAdding (calls : Map Nat Adding) (wanted : List String) :
    ({ peers with adding := calls, wanted := wanted } : OutboundPeers).enterTask peerAddr task =
      { peers.enterTask peerAddr task with adding := calls, wanted := wanted } := by
  unfold enterTask
  dsimp only
  cases peers.outboundTasks.lookup peerAddr <;> rfl

theorem tracked_enterAdded {id : Nat} (tracked : peers.Tracked)
    (enabled : peers.enterAdded id = some next) : next.Tracked := by
  obtain ⟨adding, isAdding, enabled⟩ := Option.bind_eq_some_iff.mp enabled
  split at enabled
  · next task stage =>
    cases enabled
    rw [← enterTask_setAdding]
    obtain ⟨found, same, named, -⟩ := tracked.started id adding task isAdding stage
    have erased := tracked.eraseAdding id
    have later : Tracked { peers with
        adding := peers.adding.erase id
        wanted := adding.serverAddr :: peers.wanted } :=
      ⟨erased.delayed, erased.entries, erased.started, erased.apart⟩
    refine later.enterTask ⟨found, same, named⟩ fun other second isSecond secondStage => ?_
    dsimp only at isSecond
    rw [Map.lookup_erase_eq] at isSecond
    split at isSecond
    · cases isSecond
    · next differs =>
      exact differs ((tracked.apart id adding task isAdding stage).2 other second isSecond
        secondStage)
  · cases enabled

theorem tracked_startAdded {id : Nat} (tracked : peers.Tracked)
    (enabled : peers.startAdded id = some next) : next.Tracked := by
  obtain ⟨adding, isAdding, enabled⟩ := Option.bind_eq_some_iff.mp enabled
  split at enabled
  · cases enabled
    have connected := tracked.connectToPeer adding.serverAddr
    have old : ∀ {peerAddr : String},
        ¬∃ found, peers.tasks[peers.tasks.length]? = some found ∧ found.peerAddr = peerAddr := by
      rintro peerAddr ⟨found, same, -⟩
      rw [List.getElem?_eq_none le_rfl] at same
      cases same
    refine ⟨connected.delayed, connected.entries, ?_, ?_⟩
    · intro other second task isSecond stage
      change (peers.adding.insert id _).lookup other = _ at isSecond
      rw [Map.lookup_insert_eq] at isSecond
      split at isSecond
      · cases isSecond
        cases stage
        exact ⟨_, getElem?_connectToPeer, rfl, (fun ended => nomatch ended), rfl⟩
      · exact connected.started other second task isSecond stage
    · intro other second task isSecond stage
      change (peers.adding.insert id _).lookup other = _ at isSecond
      rw [Map.lookup_insert_eq] at isSecond
      split at isSecond
      · next isOther =>
        cases isSecond
        cases stage
        refine ⟨fun peerAddr isEntry => old (tracked.entries peerAddr _ isEntry), ?_⟩
        intro third adds isThird thirdStage
        change (peers.adding.insert id _).lookup third = _ at isThird
        rw [Map.lookup_insert_eq] at isThird
        split at isThird
        · next isId => exact isId.trans isOther.symm
        · obtain ⟨found, same, named, -⟩ := tracked.started third adds _ isThird thirdStage
          exact absurd ⟨found, same, named⟩ old
      · obtain ⟨notEntered, alone⟩ := tracked.apart other second task isSecond stage
        refine ⟨notEntered, fun third adds isThird thirdStage => ?_⟩
        change (peers.adding.insert id _).lookup third = _ at isThird
        rw [Map.lookup_insert_eq] at isThird
        split at isThird
        · cases isThird
          cases thirdStage
          obtain ⟨found, same, named, -⟩ := tracked.started other second _ isSecond stage
          exact absurd ⟨found, same, named⟩ old
        · exact alone third adds isThird thirdStage
  · cases enabled

theorem tracked_remove (tracked : peers.Tracked) (serverAddr : String) :
    (peers.remove serverAddr).Tracked := by
  have erased : ∀ kept : OutboundPeers, kept.Tracked → kept.outboundTasks = peers.outboundTasks →
      Tracked { kept with
        outboundTasks := peers.outboundTasks.erase serverAddr
        wanted := peers.wanted.filter fun other => other ≠ serverAddr } := by
    intro kept keptTracked sameTasks
    have before : ∀ {name entry}, (peers.outboundTasks.erase serverAddr).lookup name = some entry →
        kept.outboundTasks.lookup name = some entry := by
      intro name entry isEntry
      rw [Map.lookup_erase_eq] at isEntry
      split at isEntry
      · cases isEntry
      · exact sameTasks ▸ isEntry
    refine ⟨keptTracked.delayed, fun name entry isEntry => keptTracked.entries name entry
      (before isEntry), keptTracked.started, fun id adding task isAdding stage => ?_⟩
    obtain ⟨notEntered, alone⟩ := keptTracked.apart id adding task isAdding stage
    exact ⟨fun name isEntry => notEntered name (before isEntry), alone⟩
  unfold remove
  dsimp only
  cases isTask : peers.outboundTasks.lookup serverAddr with
  | none => exact erased peers tracked rfl
  | some task =>
    refine erased (peers.stopTask task) (tracked.stopTask fun id adding isAdding stage => ?_) rfl
    exact (tracked.apart id adding task isAdding stage).1 serverAddr isTask

/-- What the two events that only change a phase do. -/
theorem movePhase_eq_some {source target : ConnectPhase}
    (enabled : peers.movePhase task source target = some next) :
    ∃ found, peers.tasks[task]? = some found ∧ found.phase = source ∧
      next = { peers with tasks := peers.tasks.set task { found with phase := target } } := by
  obtain ⟨found, same, enabled⟩ := Option.bind_eq_some_iff.mp enabled
  split at enabled
  · next isSource =>
    cases enabled
    exact ⟨found, same, isSource, rfl⟩
  · cases enabled

theorem finish_eq_some (enabled : peers.finish task = some next) :
    ∃ found, peers.tasks[task]? = some found ∧ found.stopped = true ∧
      next = { peers with tasks := peers.tasks.set task { found with phase := .ended } } := by
  obtain ⟨found, same, enabled⟩ := Option.bind_eq_some_iff.mp enabled
  split at enabled
  · next stops =>
    cases enabled
    exact ⟨found, same, stops.1, rfl⟩
  · cases enabled

/-- What `add_outbound_peer` does up to its statement, and with its outcome. -/
theorem add_eq_some {id : Nat} {serverAddr : String}
    (enabled : peers.add id serverAddr = some next) :
    next = peers ∨ next = peers.proceedAdd id serverAddr .checked := by
  unfold add at enabled
  split at enabled
  · cases enabled
  · split at enabled
    · cases enabled
      exact .inl rfl
    · cases enabled
      exact .inr rfl

theorem save_eq_some {id : Nat} {succeeds : Bool} (enabled : peers.save id succeeds = some next) :
    (∃ serverAddr, next = peers.proceedAdd id serverAddr .saved) ∨
      next = { peers with adding := peers.adding.erase id } := by
  obtain ⟨adding, -, enabled⟩ := Option.bind_eq_some_iff.mp enabled
  split at enabled
  · split at enabled
    · cases enabled
      exact .inl ⟨adding.serverAddr, rfl⟩
    · cases enabled
      exact .inr rfl
  · cases enabled

theorem tracked_step {event : OutboundEvent} (tracked : peers.Tracked)
    (enabled : machine.step peers event = some next) : next.Tracked := by
  cases event with
  | connectDelayed index =>
    obtain ⟨peerAddr, isDelayed, -⟩ := Option.map_eq_some_iff.mp enabled
    rw [tracked.delayed] at isDelayed
    cases isDelayed
  | lost task | retry task =>
    obtain ⟨found, same, -, rfl⟩ := movePhase_eq_some enabled
    exact tracked.setPhase same (fun ended => nomatch ended)
  | finish task =>
    obtain ⟨found, same, stops, rfl⟩ := finish_eq_some enabled
    exact tracked.setPhase same fun _ => stops
  | add id serverAddr =>
    rcases add_eq_some enabled with rfl | rfl
    · exact tracked
    · exact tracked.proceedAdd (fun task isStage => nomatch isStage)
  | save id succeeds =>
    rcases save_eq_some enabled with ⟨serverAddr, rfl⟩ | rfl
    · exact tracked.proceedAdd (fun task isStage => nomatch isStage)
    · exact tracked.eraseAdding id
  | startAdded id => exact tracked_startAdded tracked enabled
  | enterAdded id => exact tracked_enterAdded tracked enabled
  | remove serverAddr =>
    cases enabled
    exact tracked_remove tracked serverAddr

/-! ### What holds as long as no peer is added twice -/

theorem Held.connected (held : peers.Held) : peers.Connected := by
  intro peerAddr isWanted _
  obtain ⟨task, tries⟩ := held.tried peerAddr isWanted
  refine ⟨task, tries, fun other otherTries => ?_⟩
  obtain ⟨found, same, named, runs⟩ := tries
  obtain ⟨second, isSecond, secondNamed, secondRuns⟩ := otherTries
  have first := (held.held peerAddr isWanted task found same named runs).1
  have last := (held.held peerAddr isWanted other second isSecond secondNamed secondRuns).1
  exact Option.some.inj (last.symm.trans first)

/-- A task goes on under another phase, or ends that was not a task of a wanted peer. -/
theorem Held.setPhase {phase : ConnectPhase} (held : peers.Held)
    (same : peers.tasks[task]? = some found)
    (goesOn : found.peerAddr ∈ peers.wanted → found.phase ≠ .ended → phase ≠ .ended)
    (noRestart : phase ≠ .ended → found.phase ≠ .ended) :
    Held { peers with tasks := peers.tasks.set task { found with phase := phase } } where
  held peerAddr isWanted other changed isChanged named runs := by
    rcases of_getElem?_setPhase same isChanged with ⟨rfl, rfl⟩ | ⟨-, before⟩
    · exact held.held peerAddr isWanted task found same named (noRestart runs)
    · exact held.held peerAddr isWanted other changed before named runs
  tried peerAddr isWanted := by
    obtain ⟨other, before, isBefore, named, runs⟩ := held.tried peerAddr isWanted
    by_cases isTask : task = other
    · subst isTask
      cases same.symm.trans isBefore
      subst named
      exact ⟨task, _, List.getElem?_set_self (List.getElem?_eq_some_iff.mp same).1, rfl,
        goesOn isWanted runs⟩
    · exact ⟨other, before, (List.getElem?_set_ne isTask).trans isBefore, named, runs⟩

variable {conf : PeerConf} {stored : Option StoredPeers}

end OutboundPeers

end Vnt.Server
