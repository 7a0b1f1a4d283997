import Mathlib.Data.List.Nodup
import Steward.Process

/-!
# `Steward.Registry`: the process registry under concurrent spawns

`spawnWorker` writes the process it was called on into the server's registry
`s.processes[pn]`, under the name `pn` of its subject and kind, whatever the registry held
there; a publisher then runs `publishMessages`. Each pass of that loop takes a message,
gives it the ID `s.processes[pn].messageID` read back from the registry, delivers it, and
writes the goroutine's own copy `p` back into the registry with its counter one higher.

`Registry` is the server with its worker goroutines and the log of the IDs given out.
`Registry.step` performs one action of one goroutine: `newProcess` (run by the caller,
before `go p.spawnWorker(s)`), the registry write of `spawnWorker`, and the two registry
accesses of a `publishMessages` pass, taking a message (`m.ID = ...`) and writing back
(`p.messageID++; s.processes[pn] = p`). The delivery between them touches no registry
entry, and `Steward.Deliver` models it. `Registry.run` performs a list of actions, so
every interleaving of the goroutines is a list.

Nothing makes a second spawn of a name a no-op. A second `spawnWorker` on a running
publisher's subject overwrites its entry with a fresh process, and the running worker's
next message gets ID 0 again (`respawn_reuses_message_id`). When no two workers share a
name, every registered worker is its own registry entry, and the IDs given out under a
name are `0, 1, 2, ...` in the order the messages were taken
(`registry_of_distinct_names`). The run lemma `inv_run` carries `Registry.Inv` through
every step; the frame lemma `inv_of_frame` says once what a step on one worker leaves
alone.
-/

set_option autoImplicit false

namespace Steward

/-- The name `spawnWorker` registers a process under, from its subject and kind. -/
def Process.processName (p : Process) : ProcessName :=
  match p.processKind with
  | .publisher => processNameGet p.subject.name .publisher
  | .subscriber => processNameGet p.subject.name .subscriber

/-- The registry write `s.processes[pn] = p`. -/
def Server.setProcess (s : Server) (pn : ProcessName) (p : Process) : Server :=
  { s with processes := fun n => if n = pn then some p else s.processes n }

@[simp] theorem Server.setProcess_processes (s : Server) (pn n : ProcessName) (p : Process) :
    (s.setProcess pn p).processes n = if n = pn then some p else s.processes n := rfl

/-- Where a worker goroutine stands. -/
inductive WorkerPhase where
  /-- `go p.spawnWorker(s)` was called, and the goroutine has not written the registry. -/
  | starting
  /-- A subscriber past its registry write: `subscribeMessages` never writes it again. -/
  | subscribed
  /-- A publisher at the top of its `publishMessages` loop. -/
  | waiting
  /-- A publisher that gave its message the ID `id` and has not written itself back. -/
  | delivering (id : Nat)
  deriving DecidableEq, Repr

/-- The phases of a running `publishMessages` loop. -/
def WorkerPhase.isPublishing : WorkerPhase → Bool
  | .waiting | .delivering _ => true
  | .starting | .subscribed => false

/-- The phase `spawnWorker` leaves its goroutine in: a publisher goes on to
`publishMessages`, a subscriber to `subscribeMessages`. -/
def spawnedPhase : ProcessKind → WorkerPhase
  | .publisher => .waiting
  | .subscriber => .subscribed

/-- A worker goroutine, with its own copy `p` of the process: `spawnWorker` and
`publishMessages` have value receivers. -/
structure Worker where
  proc : Process
  phase : WorkerPhase

/-- The number of messages a worker has taken: its counter, and one more while it is
delivering. -/
def Worker.taken (w : Worker) : Nat :=
  match w.phase with
  | .delivering _ => w.proc.messageID + 1
  | _ => w.proc.messageID

/-- The server, its worker goroutines, and every ID `publishMessages` gave out, with the
process name it read it under, in order. -/
structure Registry where
  server : Server
  workers : List Worker
  dispatched : List (ProcessName × Nat)

/-- One action of one goroutine. -/
inductive RegistryAction where
  /-- `newProcess(s, subject, errCh, processKind, allowedReceivers)` and `go p.spawnWorker(s)`. -/
  | newProcess (subject : Subject) (processKind : ProcessKind) (allowedReceivers : List Node)
  /-- The registry write of worker `w`'s `spawnWorker`. -/
  | spawnWorker (w : Nat)
  /-- Worker `w` takes a message and reads its ID from the registry. -/
  | takeMessage (w : Nat)
  /-- Worker `w` has delivered its message, bumps its counter and writes itself back. -/
  | writeBack (w : Nat)
  deriving Repr

namespace Registry

/-- The server before `ProcessesStart`: no registry entry, no worker. -/
def start (s : Server) : Registry := ⟨{ s with processes := fun _ => none }, [], []⟩

/-- One action; `none` when the goroutine named cannot take it. -/
def step (r : Registry) : RegistryAction → Option Registry
  | .newProcess subject processKind allowedReceivers =>
    let (s, p) := newProcess r.server subject processKind allowedReceivers
    some { r with server := s, workers := r.workers ++ [⟨p, .starting⟩] }
  | .spawnWorker i =>
    match r.workers[i]? with
    | some ⟨p, .starting⟩ =>
      some { r with server := r.server.setProcess p.processName p,
                    workers := r.workers.set i ⟨p, spawnedPhase p.processKind⟩ }
    | _ => none
  | .takeMessage i =>
    match r.workers[i]? with
    | some ⟨p, .waiting⟩ =>
      let pn := processNameGet p.subject.name .publisher
      let id := ((r.server.processes pn).map Process.messageID).getD 0
      some { r with workers := r.workers.set i ⟨p, .delivering id⟩,
                    dispatched := r.dispatched ++ [(pn, id)] }
    | _ => none
  | .writeBack i =>
    match r.workers[i]? with
    | some ⟨p, .delivering _⟩ =>
      let p := { p with messageID := p.messageID + 1 }
      let pn := processNameGet p.subject.name .publisher
      some { r with server := r.server.setProcess pn p,
                    workers := r.workers.set i ⟨p, .waiting⟩ }
    | _ => none

/-- A list of actions, one after the other. -/
def run (r : Registry) : List RegistryAction → Option Registry
  | [] => some r
  | a :: as => (r.step a).bind (·.run as)

/-- The names of the workers, in the order they were created. -/
def names (r : Registry) : List ProcessName := r.workers.map (·.proc.processName)

/-- The IDs given out under the name `pn`, in order. -/
def idsOf (r : Registry) (pn : ProcessName) : List Nat :=
  (r.dispatched.filter (·.1 == pn)).map (·.2)

/-- What holds while no two workers share a name: publishing workers are publishers, a
registered worker is its own registry entry, the IDs given out under its name are those
below the number of messages it took, and every ID was given out under a worker's name. -/
structure Inv (r : Registry) : Prop where
  publishing : ∀ w ∈ r.workers, w.phase.isPublishing → w.proc.processKind = .publisher
  registered : ∀ w ∈ r.workers, w.phase ≠ .starting →
    r.server.processes w.proc.processName = some w.proc
  numbered : ∀ w ∈ r.workers, r.idsOf w.proc.processName = List.range w.taken
  named : ∀ e ∈ r.dispatched, e.1 ∈ r.names

theorem inv_start (s : Server) : (start s).Inv :=
  ⟨by simp [start], by simp [start], by simp [start], by simp [start, names]⟩

/-! ### Frame lemmas -/

/-- Replacing a list element by one with the same image leaves the images alone. -/
theorem map_set_of_eq {α β : Type} {f : α → β} {l : List α} {i : Nat} {x y : α}
    (hy : l[i]? = some y) (hf : f x = f y) : (l.set i x).map f = l.map f := by
  rw [List.map_set]
  refine List.ext_getElem? fun j => ?_
  rw [List.getElem?_set]
  split_ifs with h₁ h₂ <;> simp_all [List.getElem?_eq_none]

/-- Putting a worker in place of one of the same name keeps the names. -/
theorem names_of_set {r : Registry} (r' : Registry) {i : Nat} {x y : Worker}
    (hy : r.workers[i]? = some y)
    (hw : r'.workers = r.workers.set i x) (hname : x.proc.processName = y.proc.processName) :
    r'.names = r.names := by
  rw [names, names, hw, map_set_of_eq hy hname]

/-- A step that puts `x` in place of worker `i` under the same name, and changes the
registry and the ID log under that name only, keeps the invariant when `x` keeps it. -/
theorem inv_of_frame {r r' : Registry} {i : Nat} {x y : Worker} (hi : r.Inv)
    (hy : r.workers[i]? = some y) (hw : r'.workers = r.workers.set i x)
    (hname : x.proc.processName = y.proc.processName) (hu : r'.names.Nodup)
    (hproc : ∀ n ≠ x.proc.processName, r'.server.processes n = r.server.processes n)
    (hids : ∀ n ≠ x.proc.processName, r'.idsOf n = r.idsOf n)
    (hlog : ∀ e ∈ r'.dispatched, e ∈ r.dispatched ∨ e.1 = x.proc.processName)
    (hpub : x.phase.isPublishing → x.proc.processKind = .publisher)
    (hreg : x.phase ≠ .starting → r'.server.processes x.proc.processName = some x.proc)
    (hnum : r'.idsOf x.proc.processName = List.range x.taken) : r'.Inv := by
  have hnames := names_of_set r' hy hw hname
  have hx : x ∈ r'.workers := hw ▸ List.mem_set _ _ (List.getElem?_eq_some_iff.1 hy).1 _
  -- a worker of the new list is `x`, or an old worker with another name
  have hcases : ∀ v ∈ r'.workers,
      v = x ∨ (v ∈ r.workers ∧ v.proc.processName ≠ x.proc.processName) :=
    fun v hv => by
      by_cases hvn : v.proc.processName = x.proc.processName
      · exact .inl (List.inj_on_of_nodup_map hu hv hx hvn)
      · rcases List.mem_or_eq_of_mem_set (hw ▸ hv) with hv' | rfl
        · exact .inr ⟨hv', hvn⟩
        · exact absurd rfl hvn
  refine ⟨fun v hv => ?_, fun v hv => ?_, fun v hv => ?_, fun e he => ?_⟩
  · rcases hcases v hv with rfl | ⟨hv, -⟩
    exacts [hpub, hi.publishing v hv]
  · rcases hcases v hv with rfl | ⟨hv, hvn⟩
    exacts [hreg, fun h => (hproc _ hvn).trans (hi.registered v hv h)]
  · rcases hcases v hv with rfl | ⟨hv, hvn⟩
    exacts [hnum, (hids _ hvn).trans (hi.numbered v hv)]
  · rw [hnames]
    rcases hlog e he with he | he
    · exact hi.named e he
    · rw [← hnames, he]
      exact List.mem_map_of_mem _ hx

/-! ### One step -/

section Step

variable {r r' : Registry}

/-! Each action's step, said once. -/

theorem step_spawnWorker {i : Nat} (h : r.step (.spawnWorker i) = some r') :
    ∃ p, r.workers[i]? = some ⟨p, .starting⟩ ∧
      r' = ⟨r.server.setProcess p.processName p,
        r.workers.set i ⟨p, spawnedPhase p.processKind⟩, r.dispatched⟩ := by
  simp only [step] at h
  split at h
  · next _ p hy => exact ⟨p, hy, (Option.some.inj h).symm⟩
  · cases h

theorem step_takeMessage {i : Nat} (h : r.step (.takeMessage i) = some r') :
    ∃ p, r.workers[i]? = some ⟨p, .waiting⟩ ∧
      r' = ⟨r.server,
        r.workers.set i ⟨p, .delivering (((r.server.processes
          (processNameGet p.subject.name .publisher)).map Process.messageID).getD 0)⟩,
        r.dispatched ++ [(processNameGet p.subject.name .publisher, ((r.server.processes
          (processNameGet p.subject.name .publisher)).map Process.messageID).getD 0)]⟩ := by
  simp only [step] at h
  split at h
  · next _ p hy => exact ⟨p, hy, (Option.some.inj h).symm⟩
  · cases h

theorem step_writeBack {i : Nat} (h : r.step (.writeBack i) = some r') :
    ∃ p id, r.workers[i]? = some ⟨p, .delivering id⟩ ∧
      r' = ⟨r.server.setProcess (processNameGet p.subject.name .publisher)
          { p with messageID := p.messageID + 1 },
        r.workers.set i ⟨{ p with messageID := p.messageID + 1 }, .waiting⟩, r.dispatched⟩ := by
  simp only [step] at h
  split at h
  · next _ p id hy => exact ⟨p, id, hy, (Option.some.inj h).symm⟩
  · cases h

/-- A publishing worker reads and writes the registry under its own name. -/
theorem processNameGet_publisher {p : Process} (hk : p.processKind = .publisher) :
    processNameGet p.subject.name .publisher = p.processName := by
  simp [Process.processName, hk]

/-- A waiting publisher that is its own registry entry gives its message its own counter. -/
theorem step_takeMessage_of_registered {i : Nat} {p : Process}
    (hw : r.workers[i]? = some ⟨p, .waiting⟩) (hk : p.processKind = .publisher)
    (hreg : r.server.processes p.processName = some p) :
    r.step (.takeMessage i) = some ⟨r.server, r.workers.set i ⟨p, .delivering p.messageID⟩,
      r.dispatched ++ [(p.processName, p.messageID)]⟩ := by
  simp [step, hw, processNameGet_publisher hk, hreg]

/-- A delivering publisher writes itself back with its counter one higher. -/
theorem step_writeBack_of_delivering {i id : Nat} {p : Process}
    (hw : r.workers[i]? = some ⟨p, .delivering id⟩) (hk : p.processKind = .publisher) :
    r.step (.writeBack i) =
      some ⟨r.server.setProcess p.processName { p with messageID := p.messageID + 1 },
        r.workers.set i ⟨{ p with messageID := p.messageID + 1 }, .waiting⟩, r.dispatched⟩ := by
  simp [step, hw, processNameGet_publisher hk]

theorem inv_newProcess (hi : r.Inv) (subject : Subject) (processKind : ProcessKind)
    (allowedReceivers : List Node)
    (h : r.step (.newProcess subject processKind allowedReceivers) = some r')
    (hu : r'.names.Nodup) : r'.Inv := by
  simp only [step, Option.some.injEq] at h
  subst h
  set p := (newProcess r.server subject processKind allowedReceivers).2
  have hfresh : ∀ w ∈ r.workers, w.proc.processName ≠ p.processName := by
    simp only [names, List.map_append, List.nodup_append] at hu
    simpa using hu.2.2
  -- no ID was given out under the new name: every ID was given out under an old one
  have hnone : r.idsOf p.processName = [] := by
    refine List.map_eq_nil_iff.2 (List.filter_eq_nil_iff.2 fun e he hpe => ?_)
    obtain ⟨w, hw, hwe⟩ := List.mem_map.1 (hi.named e he)
    exact hfresh w hw (hwe.trans (beq_iff_eq.1 hpe))
  have hnew : ∀ w ∈ r.workers ++ [⟨p, .starting⟩],
      w ∈ r.workers ∨ w = ⟨p, .starting⟩ := by
    simp
  refine ⟨fun w hw => ?_, fun w hw => ?_, fun w hw => ?_, fun e he => ?_⟩
  · rcases hnew w hw with hw | rfl
    exacts [hi.publishing w hw, by simp [WorkerPhase.isPublishing]]
  · rcases hnew w hw with hw | rfl
    exacts [hi.registered w hw, by simp]
  · rcases hnew w hw with hw | rfl
    exacts [hi.numbered w hw, by simpa [Worker.taken, newProcess, p] using hnone]
  · simpa [names] using Or.inl (hi.named e he)

theorem inv_spawnWorker (hi : r.Inv) (i : Nat) (h : r.step (.spawnWorker i) = some r')
    (hu : r'.names.Nodup) : r'.Inv := by
  obtain ⟨p, hy, rfl⟩ := step_spawnWorker h
  refine inv_of_frame hi hy rfl rfl hu (fun n hn => if_neg hn) (fun _ _ => rfl)
    (fun e he => .inl he) ?_ (fun _ => if_pos rfl) ?_
  · cases hk : p.processKind <;> simp [hk, spawnedPhase, WorkerPhase.isPublishing]
  · have := hi.numbered _ (List.getElem?_mem hy)
    cases p.processKind <;> simpa [Worker.taken, spawnedPhase] using this

theorem inv_takeMessage (hi : r.Inv) (i : Nat) (h : r.step (.takeMessage i) = some r')
    (hu : r'.names.Nodup) : r'.Inv := by
  obtain ⟨p, hy, rfl⟩ := step_takeMessage h
  have hmem := List.getElem?_mem hy
  have hk : p.processKind = .publisher := hi.publishing _ hmem rfl
  have hreg := hi.registered _ hmem (by simp)
  simp only [processNameGet_publisher hk, hreg, Option.map_some', Option.getD_some] at hu ⊢
  refine inv_of_frame hi hy rfl rfl hu (fun _ _ => rfl)
    (fun n hn => by simp [idsOf, Ne.symm hn]) ?_ (fun _ => hk) (fun _ => hreg) ?_
  · simp only [List.mem_append, List.mem_singleton]
    rintro e (he | rfl)
    exacts [.inl he, .inr rfl]
  · simpa [idsOf, Worker.taken, List.range_succ] using hi.numbered _ hmem

theorem inv_writeBack (hi : r.Inv) (i : Nat) (h : r.step (.writeBack i) = some r')
    (hu : r'.names.Nodup) : r'.Inv := by
  obtain ⟨p, id, hy, rfl⟩ := step_writeBack h
  have hmem := List.getElem?_mem hy
  have hk : p.processKind = .publisher := hi.publishing _ hmem rfl
  have hpn := processNameGet_publisher hk
  refine inv_of_frame hi hy rfl rfl hu (fun n hn => if_neg (hpn ▸ hn)) (fun _ _ => rfl)
    (fun e he => .inl he) (fun _ => hk) (fun _ => if_pos hpn.symm) ?_
  simpa [Worker.taken] using hi.numbered _ hmem

/-- A step never renames or drops a worker. -/
theorem names_prefix_of_step {a : RegistryAction} (h : r.step a = some r') :
    r.names <+: r'.names := by
  cases a with
  | newProcess subject processKind allowedReceivers =>
    simp only [step, Option.some.injEq] at h
    subst h
    simp [names]
  | spawnWorker i =>
    obtain ⟨p, hy, hr⟩ := step_spawnWorker h
    exact (names_of_set r' hy (by rw [hr]) (by rfl)).symm ▸ List.prefix_refl _
  | takeMessage i =>
    obtain ⟨p, hy, hr⟩ := step_takeMessage h
    exact (names_of_set r' hy (by rw [hr]) (by rfl)).symm ▸ List.prefix_refl _
  | writeBack i =>
    obtain ⟨p, id, hy, hr⟩ := step_writeBack h
    exact (names_of_set r' hy (by rw [hr]) (by rfl)).symm ▸ List.prefix_refl _

/-- `Registry.Inv` holds after one step whose result has no two workers of one name. -/
theorem inv_step {a : RegistryAction} (hi : r.Inv) (h : r.step a = some r')
    (hu : r'.names.Nodup) : r'.Inv := by
  cases a with
  | newProcess subject processKind allowedReceivers => exact inv_newProcess hi _ _ _ h hu
  | spawnWorker i => exact inv_spawnWorker hi i h hu
  | takeMessage i => exact inv_takeMessage hi i h hu
  | writeBack i => exact inv_writeBack hi i h hu

end Step

/-- A run of two action lists is the second run from where the first one ends. -/
theorem run_append : ∀ (as bs : List RegistryAction) (r : Registry),
    r.run (as ++ bs) = (r.run as).bind (·.run bs)
  | [], _, _ => rfl
  | a :: as, bs, r => by
    simp only [List.cons_append, run]
    cases r.step a with
    | none => rfl
    | some r₁ => exact run_append as bs r₁

/-- A run never renames or drops a worker. -/
theorem names_prefix_of_run : ∀ (acts : List RegistryAction) {r r' : Registry},
    r.run acts = some r' → r.names <+: r'.names
  | [], _, _, h => by cases h; exact List.prefix_refl _
  | _ :: as, _, _, h => by
    obtain ⟨_, h₁, h₂⟩ := Option.bind_eq_some.1 h
    exact (names_prefix_of_step h₁).trans (names_prefix_of_run as h₂)

/-- `Registry.Inv` holds after every run that ends with no two workers of one name. -/
theorem inv_run : ∀ (acts : List RegistryAction) {r r' : Registry}, r.Inv →
    r.run acts = some r' → r'.names.Nodup → r'.Inv
  | [], _, _, hi, h, _ => by cases h; exact hi
  | _ :: as, _, _, hi, h, hu => by
    obtain ⟨_, h₁, h₂⟩ := Option.bind_eq_some.1 h
    exact inv_run as (inv_step hi h₁ (hu.sublist (names_prefix_of_run as h₂).sublist)) h₂ hu

/-- When no two workers share a name, every registered worker is its own registry entry,
and the IDs given out under its name are `0, 1, ...` below the number of messages it took,
in the order they were given out. -/
theorem registry_of_distinct_names (s : Server) (acts : List RegistryAction) {r : Registry}
    (h : (start s).run acts = some r) (hu : r.names.Nodup) :
    ∀ w ∈ r.workers,
      (w.phase ≠ .starting → r.server.processes w.proc.processName = some w.proc) ∧
        r.idsOf w.proc.processName = List.range w.taken := by
  have hi := inv_run acts (inv_start s) h hu
  exact fun w hw => ⟨hi.registered w hw, hi.numbered w hw⟩

/-- A node `ship1` with an empty registry and method table. -/
def ship1 : Server := ⟨fun _ => none, 0, ⟨[]⟩, "ship1"⟩

/-- The publisher subject of `ship1` for `REQHello` to `central`. -/
def helloToCentral : Subject := ⟨"central", EventNACK, REQHello⟩

/-- The publisher subject of `ship1` for `REQPing` to `central`. -/
def pingToCentral : Subject := ⟨"central", EventACK, REQPing⟩

/-- Two publishers taking two messages each, their passes interleaved. -/
def twoPublishersRun : List RegistryAction :=
  [.newProcess helloToCentral .publisher [], .newProcess pingToCentral .publisher [],
    .spawnWorker 1, .spawnWorker 0, .takeMessage 0, .takeMessage 1, .writeBack 1,
    .takeMessage 1, .writeBack 0, .takeMessage 0]

/-- The server after `twoPublishersRun`. -/
def twoPublishers : Registry := ((start ship1).run twoPublishersRun).getD (start ship1)

/-- Both publishers of `twoPublishersRun` numbered their messages `0, 1`. -/
theorem twoPublishers_numbered :
    twoPublishers.workers.map (fun w => twoPublishers.idsOf w.proc.processName) =
      [[0, 1], [0, 1]] := by
  have h := registry_of_distinct_names ship1 twoPublishersRun (r := twoPublishers) rfl
    (by decide)
  rw [List.map_congr_left fun w hw => (h w hw).2]
  decide

/-- A publisher to `central` sends a message; then `newProcess` and `spawnWorker` run again
on the same subject, and the first worker takes its next message. -/
def respawnRun : List RegistryAction :=
  [.newProcess helloToCentral .publisher [], .spawnWorker 0, .takeMessage 0, .writeBack 0,
    .newProcess helloToCentral .publisher [], .spawnWorker 1, .takeMessage 0]

/-- After the second spawn the registry holds the new process 2, while process 1 still runs
under the same name, and process 1 gives its second message the ID 0 again. -/
theorem respawn_reuses_message_id :
    ((start ship1).run respawnRun).map (fun r =>
      (r.idsOf (processNameGet helloToCentral.name .publisher),
        (r.server.processes (processNameGet helloToCentral.name .publisher)).map
          Process.processID,
        r.workers.map (·.proc.processID))) = some ([0, 0], some 2, [1, 2]) := by
  decide

end Registry

end Steward
