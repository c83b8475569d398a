import NvlinkFabric.Lib.Transition
import Mathlib.Data.Finset.Insert
import Mathlib.Data.Finset.Erase
import Mathlib.Logic.Function.Basic

/-!
# A cell behind a shared mutex

Any number of threads share one cell.  A mutation may refuse its call at once;
otherwise it takes the mutex exclusively, copies the cell, edits the copy and stores
it unless the edit fails.  A read takes the mutex shared and copies the cell.  Every
step of a thread is an event of its own, so the steps of different threads interleave
freely; an event its thread is not ready for changes nothing.

Two ghost fields record what the clients see.  `history` gains an entry when a
mutation stores or is refused or a read copies, and `returned` when the thread lets go
of the mutex or is refused.  The owners of the mutex are the threads in their critical
sections, and the mutex never deadlocks.
-/

namespace LockedCell

open Transition

universe u v w x

variable {τ : Type u} {σ : Type v} {ω : Type w} {ε : Type x}

/-- What a client asks for. -/
inductive Request (ω : Type w) where
  | mutate (call : ω)
  | read

/-- What a client is told: the outcome of an edit, or the contents of the cell. -/
inductive Reply (σ : Type v) (ε : Type x) where
  | mutated (result : Except ε Unit)
  | snapshot (state : σ)

/-- A served request.  Its ticket is its position among all requests made. -/
structure Entry (σ : Type v) (ω : Type w) (ε : Type x) where
  ticket : Nat
  request : Request ω
  reply : Reply σ ε

variable (attempt : ω → σ → Except ε σ)

/-- One request served on its own: the reply, and the cell afterwards. -/
def serve (state : σ) : Request ω → Reply σ ε × σ
  | .mutate call =>
      match attempt call state with
      | .ok next => (.mutated (.ok ()), next)
      | .error error => (.mutated (.error error), state)
  | .read => (.snapshot state, state)

/-- The cell after the requests of a history, one after the other. -/
def final (start : σ) (history : List (Entry σ ω ε)) : σ :=
  Transition.run (fun state entry => (serve attempt state entry.request).2) start history

/-- Every reply of the history is the one its request gets in turn. -/
def Serial (start : σ) (history : List (Entry σ ω ε)) : Prop :=
  AtEach (fun before entry =>
    entry.reply = (serve attempt (final attempt start before) entry.request).1) history

theorem final_concat (start : σ) (history : List (Entry σ ω ε)) (entry : Entry σ ω ε) :
    final attempt start (history ++ [entry]) =
      (serve attempt (final attempt start history) entry.request).2 :=
  run_append _ _ _ _

theorem Serial.nil (start : σ) : Serial attempt start ([] : List (Entry σ ω ε)) := by
  intro before entry reached
  simp at reached

/-- Serving one more request in turn. -/
theorem Serial.concat {attempt : ω → σ → Except ε σ} {start : σ}
    {history : List (Entry σ ω ε)} (serial : Serial attempt start history)
    {entry : Entry σ ω ε}
    (reply :
      entry.reply = (serve attempt (final attempt start history) entry.request).1) :
    Serial attempt start (history ++ [entry]) :=
  atEach_concat.mpr ⟨serial, reply⟩

/-- The mutations of a history, in order. -/
def mutations (history : List (Entry σ ω ε)) : List ω :=
  history.filterMap fun entry =>
    match entry.request with
    | .mutate call => some call
    | .read => none

/-- The cell after one mutation, whether it fails or not. -/
def mutateWith (state : σ) (call : ω) : σ := (serve attempt state (.mutate call)).2

/-- Reads leave no trace in the cell. -/
theorem final_eq_run_mutations (start : σ) (history : List (Entry σ ω ε)) :
    final attempt start history =
      Transition.run (mutateWith attempt) start (mutations history) := by
  induction history generalizing start with
  | nil => rfl
  | cons entry history ih =>
      obtain ⟨ticket, request, reply⟩ := entry
      cases request with
      | mutate call => exact ih _
      | read => exact ih _

/-- A snapshot is the cell after the mutations served before it. -/
theorem Serial.snapshot {attempt : ω → σ → Except ε σ} {start : σ}
    {past rest : List (Entry σ ω ε)} {entry : Entry σ ω ε} {state : σ}
    (serial : Serial attempt start (past ++ entry :: rest))
    (told : entry.reply = .snapshot state) :
    state = Transition.run (mutateWith attempt) start (mutations past) := by
  have reply : entry.reply = (serve attempt (final attempt start past) entry.request).1 :=
    serial past entry ⟨rest, by simp⟩
  rw [told] at reply
  rw [← final_eq_run_mutations]
  cases request : entry.request with
  | read =>
      rw [request] at reply
      exact Reply.snapshot.inj reply
  | mutate call =>
      -- An edit is answered with its outcome.
      rw [request, serve] at reply
      split at reply <;> cases reply

/-- Between two snapshots lie the mutations served between them. -/
theorem Serial.snapshots {attempt : ω → σ → Except ε σ} {start : σ}
    {past middle rest : List (Entry σ ω ε)} {first second : Nat} {earlier later : σ}
    (serial : Serial attempt start (past ++ ⟨first, .read, .snapshot earlier⟩ :: middle ++
      ⟨second, .read, .snapshot later⟩ :: rest)) :
    later = Transition.run (mutateWith attempt) earlier (mutations middle) := by
  have after := serial.snapshot rfl
  rw [List.append_assoc, List.cons_append] at serial
  have before := serial.snapshot rfl
  rw [mutations, List.filterMap_append, List.filterMap_cons, run_append] at after
  rw [after, before]
  rfl

/-- The edits of a cell: what a call checks before it takes the mutex, and what it does
to a copy.  The edit would fail on its own where the check refuses. -/
structure Editor (σ : Type v) (ω : Type w) (ε : Type x) where
  check : ω → Option ε
  attempt : ω → σ → Except ε σ
  attempt_of_check : ∀ {call error} (state : σ), check call = some error →
    attempt call state = .error error

/-- Where a thread stands in the code of a request. -/
inductive Phase (σ : Type v) (ω : Type w) (ε : Type x) where
  | idle
  | waiting (ticket : Nat) (request : Request ω)
  | locked (ticket : Nat) (request : Request ω)
  | copied (ticket : Nat) (call : ω) (copy : σ)
  | finished (ticket : Nat) (reply : Reply σ ε)

namespace Phase

/-- The request of the thread, unless it has been served. -/
def pending : Phase σ ω ε → Option (Nat × Request ω)
  | .waiting ticket request | .locked ticket request => some (ticket, request)
  | .copied ticket call _ => some (ticket, .mutate call)
  | .idle | .finished .. => none

/-- The ticket of the request the thread is busy with. -/
def ticket : Phase σ ω ε → Option Nat
  | .waiting ticket _ | .locked ticket _ | .copied ticket .. | .finished ticket _ =>
      some ticket
  | .idle => none

/-- The thread is between taking and releasing the mutex for a mutation. -/
def exclusive : Phase σ ω ε → Bool
  | .locked _ (.mutate _) | .copied .. | .finished _ (.mutated _) => true
  | _ => false

/-- The thread is between taking and releasing the mutex for a read. -/
def shared : Phase σ ω ε → Bool
  | .locked _ .read | .finished _ (.snapshot _) => true
  | _ => false

end Phase

/-- The cell, the owners of its mutex, the threads, and what the clients see. -/
structure Machine (τ : Type u) (σ : Type v) (ω : Type w) (ε : Type x) where
  cell : σ
  writer : Option τ := none
  readers : Finset τ := ∅
  phase : τ → Phase σ ω ε := fun _ => .idle
  requests : List (Request ω) := []
  history : List (Entry σ ω ε) := []
  returned : List (Nat × Reply σ ε) := []

/-- One step of a thread. -/
inductive Event (τ : Type u) (ω : Type w) where
  | invoke (thread : τ) (request : Request ω)
  | refuse (thread : τ)
  | acquire (thread : τ)
  | copy (thread : τ)
  | store (thread : τ)
  | release (thread : τ)

variable (editor : Editor σ ω ε) [DecidableEq τ]

namespace Machine

/-- Move a thread. -/
def moveTo (machine : Machine τ σ ω ε) (thread : τ) (phase : Phase σ ω ε) :
    Machine τ σ ω ε :=
  { machine with phase := Function.update machine.phase thread phase }

/-- Serve the request of a thread. -/
def conclude (machine : Machine τ σ ω ε) (thread : τ) (ticket : Nat) (request : Request ω)
    (served : Reply σ ε × σ) : Machine τ σ ω ε :=
  { machine.moveTo thread (.finished ticket served.1) with
    cell := served.2
    history := machine.history ++ [⟨ticket, request, served.1⟩] }

/-- Hand a thread its reply. -/
def answer (machine : Machine τ σ ω ε) (thread : τ) (ticket : Nat) (reply : Reply σ ε) :
    Machine τ σ ω ε :=
  { machine.moveTo thread .idle with returned := machine.returned ++ [(ticket, reply)] }

end Machine

/-- One event: nothing happens unless the thread is ready and the mutex free for it. -/
def step (machine : Machine τ σ ω ε) (event : Event τ ω) : Machine τ σ ω ε :=
  match event with
  | .invoke thread request =>
      match machine.phase thread with
      | .idle =>
          { machine.moveTo thread (.waiting machine.requests.length request) with
            requests := machine.requests ++ [request] }
      | _ => machine
  | .refuse thread =>
      match machine.phase thread with
      | .waiting ticket (.mutate call) =>
          match editor.check call with
          | some error =>
              (machine.conclude thread ticket (.mutate call)
                (.mutated (.error error), machine.cell)).answer thread ticket
                  (.mutated (.error error))
          | none => machine
      | _ => machine
  | .acquire thread =>
      match machine.phase thread with
      | .waiting ticket (.mutate call) =>
          if editor.check call = none ∧ machine.writer = none ∧ machine.readers = ∅ then
            { machine.moveTo thread (.locked ticket (.mutate call)) with
              writer := some thread }
          else machine
      | .waiting ticket .read =>
          if machine.writer = none then
            { machine.moveTo thread (.locked ticket .read) with
              readers := insert thread machine.readers }
          else machine
      | _ => machine
  | .copy thread =>
      match machine.phase thread with
      | .locked ticket (.mutate call) =>
          machine.moveTo thread (.copied ticket call machine.cell)
      | .locked ticket .read =>
          machine.conclude thread ticket .read (.snapshot machine.cell, machine.cell)
      | _ => machine
  | .store thread =>
      match machine.phase thread with
      | .copied ticket call copy =>
          -- A failed edit returns without touching the cell.
          match editor.attempt call copy with
          | .ok next =>
              machine.conclude thread ticket (.mutate call) (.mutated (.ok ()), next)
          | .error error =>
              machine.conclude thread ticket (.mutate call)
                (.mutated (.error error), machine.cell)
      | _ => machine
  | .release thread =>
      match machine.phase thread with
      | .finished ticket (.mutated result) =>
          { machine.answer thread ticket (.mutated result) with writer := none }
      | .finished ticket (.snapshot state) =>
          { machine.answer thread ticket (.snapshot state) with
            readers := machine.readers.erase thread }
      | _ => machine

/-- The machine after a sequence of events. -/
abbrev run (machine : Machine τ σ ω ε) (events : List (Event τ ω)) : Machine τ σ ω ε :=
  Transition.run (step editor) machine events

/-- The outcomes of an event.  An event its thread is not ready for is ignored. -/
inductive Outcome (machine : Machine τ σ ω ε) : Event τ ω → Machine τ σ ω ε → Prop where
  | ignored {event : Event τ ω} : Outcome machine event machine
  | invoked {thread : τ} {request : Request ω} : machine.phase thread = .idle →
      Outcome machine (.invoke thread request)
        { machine.moveTo thread (.waiting machine.requests.length request) with
          requests := machine.requests ++ [request] }
  | refused {thread : τ} {ticket : Nat} {call : ω} {error : ε} :
      machine.phase thread = .waiting ticket (.mutate call) →
      editor.check call = some error →
      Outcome machine (.refuse thread)
        ((machine.conclude thread ticket (.mutate call)
          (.mutated (.error error), machine.cell)).answer thread ticket
            (.mutated (.error error)))
  | lockedExclusive {thread : τ} {ticket : Nat} {call : ω} :
      machine.phase thread = .waiting ticket (.mutate call) → machine.writer = none →
      machine.readers = ∅ →
      Outcome machine (.acquire thread)
        { machine.moveTo thread (.locked ticket (.mutate call)) with
          writer := some thread }
  | lockedShared {thread : τ} {ticket : Nat} :
      machine.phase thread = .waiting ticket .read →
      machine.writer = none →
      Outcome machine (.acquire thread)
        { machine.moveTo thread (.locked ticket .read) with
          readers := insert thread machine.readers }
  | copied {thread : τ} {ticket : Nat} {call : ω} :
      machine.phase thread = .locked ticket (.mutate call) →
      Outcome machine (.copy thread)
        (machine.moveTo thread (.copied ticket call machine.cell))
  | read {thread : τ} {ticket : Nat} : machine.phase thread = .locked ticket .read →
      Outcome machine (.copy thread)
        (machine.conclude thread ticket .read (.snapshot machine.cell, machine.cell))
  | stored {thread : τ} {ticket : Nat} {call : ω} {copy next : σ} :
      machine.phase thread = .copied ticket call copy →
        editor.attempt call copy = .ok next →
      Outcome machine (.store thread)
        (machine.conclude thread ticket (.mutate call) (.mutated (.ok ()), next))
  | failed {thread : τ} {ticket : Nat} {call : ω} {copy : σ} {error : ε} :
      machine.phase thread = .copied ticket call copy →
        editor.attempt call copy = .error error →
      Outcome machine (.store thread)
        (machine.conclude thread ticket (.mutate call) (.mutated (.error error),
          machine.cell))
  | releasedExclusive {thread : τ} {ticket : Nat} {result : Except ε Unit} :
      machine.phase thread = .finished ticket (.mutated result) →
      Outcome machine (.release thread)
        { machine.answer thread ticket (.mutated result) with writer := none }
  | releasedShared {thread : τ} {ticket : Nat} {state : σ} :
      machine.phase thread = .finished ticket (.snapshot state) →
      Outcome machine (.release thread)
        { machine.answer thread ticket (.snapshot state) with
          readers := machine.readers.erase thread }

theorem step_outcome (machine : Machine τ σ ω ε) (event : Event τ ω) :
    Outcome editor machine event (step editor machine event) := by
  cases event with
  | invoke thread request =>
      simp only [step]
      split
      next idle => exact .invoked idle
      next => exact .ignored
  | refuse thread =>
      simp only [step]
      split
      next ticket call waiting =>
        split
        next error checked => exact .refused waiting checked
        next => exact .ignored
      next => exact .ignored
  | acquire thread =>
      simp only [step]
      split
      next ticket call waiting =>
        split
        next free => exact .lockedExclusive waiting free.2.1 free.2.2
        next => exact .ignored
      next ticket waiting =>
        split
        next free => exact .lockedShared waiting free
        next => exact .ignored
      next => exact .ignored
  | copy thread =>
      simp only [step]
      split
      next ticket call locked => exact .copied locked
      next ticket locked => exact .read locked
      next => exact .ignored
  | store thread =>
      simp only [step]
      split
      next ticket call copy copied =>
        split
        next next edited => exact .stored copied edited
        next error failed => exact .failed copied failed
      next => exact .ignored
  | release thread =>
      simp only [step]
      split
      next ticket result finished => exact .releasedExclusive finished
      next ticket state finished => exact .releasedShared finished
      next => exact .ignored

@[simp] theorem phase_moveTo_self (machine : Machine τ σ ω ε) (thread : τ)
    (phase : Phase σ ω ε) : (machine.moveTo thread phase).phase thread = phase :=
  Function.update_self _ _ _

/-- The owners of the mutex are the threads inside their critical sections, a writer
is alone, and a copy made for an edit is up to date. -/
structure Guarded (machine : Machine τ σ ω ε) : Prop where
  writer : ∀ thread, machine.writer = some thread ↔
    (machine.phase thread).exclusive = true
  readers : ∀ thread, thread ∈ machine.readers ↔ (machine.phase thread).shared = true
  apart : machine.writer ≠ none → machine.readers = ∅
  current : ∀ thread ticket call copy,
    machine.phase thread = .copied ticket call copy → copy = machine.cell

omit [DecidableEq τ] in
theorem guarded_start (start : σ) : Guarded ({ cell := start } : Machine τ σ ω ε) where
  writer thread := by simp [Phase.exclusive]
  readers thread := by simp [Phase.shared]
  apart owned := absurd rfl owned
  current := nofun

namespace Guarded

variable {editor} {machine next : Machine τ σ ω ε} {thread : τ} {phase : Phase σ ω ε}

/-- One thread moves; the cell may only change under its exclusive lock. -/
theorem move (guarded : Guarded machine)
    (moved : next.phase = Function.update machine.phase thread phase)
    (writer : next.writer = some thread ↔ phase.exclusive = true)
    (writers : ∀ other, other ≠ thread →
      (next.writer = some other ↔ machine.writer = some other))
    (reader : thread ∈ next.readers ↔ phase.shared = true)
    (readers : ∀ other, other ≠ thread → (other ∈ next.readers ↔ other ∈ machine.readers))
    (apart : next.writer ≠ none → next.readers = ∅)
    (current : ∀ ticket call copy, phase = .copied ticket call copy → copy = next.cell)
    (cell : machine.writer = some thread ∨ next.cell = machine.cell) : Guarded next where
  writer other := by
    by_cases same : other = thread
    · subst same
      rw [moved, Function.update_self]
      exact writer
    · rw [moved, Function.update_of_ne same, writers other same]
      exact guarded.writer other
  readers other := by
    by_cases same : other = thread
    · subst same
      rw [moved, Function.update_self]
      exact reader
    · rw [moved, Function.update_of_ne same, readers other same]
      exact guarded.readers other
  apart := apart
  current other ticket call copy copied := by
    by_cases same : other = thread
    · subst same
      rw [moved, Function.update_self] at copied
      exact current ticket call copy copied
    · rw [moved, Function.update_of_ne same] at copied
      have upToDate := guarded.current other ticket call copy copied
      rcases cell with alone | kept
      · -- The other thread would own the mutex as well.
        have owner := (guarded.writer other).mpr (by rw [copied]; rfl)
        exact absurd (Option.some.inj (owner.symm.trans alone)) same
      · rw [kept]
        exact upToDate

/-- A thread that moves within its section leaves the mutex as it is. -/
theorem stay (guarded : Guarded machine)
    (moved : next.phase = Function.update machine.phase thread phase)
    (writer : next.writer = machine.writer) (readers : next.readers = machine.readers)
    (exclusive : phase.exclusive = (machine.phase thread).exclusive)
    (shared : phase.shared = (machine.phase thread).shared)
    (current : ∀ ticket call copy, phase = .copied ticket call copy → copy = next.cell)
    (cell : machine.writer = some thread ∨ next.cell = machine.cell) : Guarded next := by
  refine guarded.move moved ?_ (fun other _ => by rw [writer]) ?_
    (fun other _ => by rw [readers]) ?_ current cell
  · rw [writer, exclusive]
    exact guarded.writer thread
  · rw [readers, shared]
    exact guarded.readers thread
  · rw [writer, readers]
    exact guarded.apart

theorem step (guarded : Guarded machine) (event : Event τ ω) :
    Guarded (LockedCell.step editor machine event) := by
  have outcome := step_outcome editor machine event
  generalize LockedCell.step editor machine event = next at outcome
  cases outcome with
  | ignored => exact guarded
  | @invoked thread request idle =>
      exact guarded.stay rfl rfl rfl (by rw [idle]; rfl) (by rw [idle]; rfl)
        nofun (.inr rfl)
  | @refused thread ticket call error waiting checked =>
      have moved (reply : Reply σ ε) :
          Function.update (machine.moveTo thread (.finished ticket reply)).phase
            thread .idle =
            Function.update machine.phase thread .idle := Function.update_idem _ _ _
      exact guarded.stay (moved _) rfl rfl (by rw [waiting]; rfl)
        (by rw [waiting]; rfl) nofun
        (.inr rfl)
  | @lockedExclusive thread ticket call waiting noWriter noReaders =>
      refine guarded.move rfl (by simp [Phase.exclusive]) ?_ ?_ (fun other _ => Iff.rfl)
        (fun _ => noReaders) nofun (.inr rfl)
      · intro other different
        simp [noWriter, different.symm]
      · simp [Machine.moveTo, noReaders, Phase.shared]
  | @lockedShared thread ticket waiting noWriter =>
      refine guarded.move rfl ?_ (fun other _ => Iff.rfl) (by simp [Phase.shared]) ?_ ?_
        nofun (.inr rfl)
      · simp [Machine.moveTo, noWriter, Phase.exclusive]
      · intro other different
        simp [different]
      · intro owned
        exact absurd noWriter owned
  | @copied thread ticket call locked =>
      refine guarded.stay rfl rfl rfl (by rw [locked]; rfl)
        (by rw [locked]; rfl) ?_ (.inr rfl)
      rintro ticket call copy ⟨⟩
      rfl
  | @read thread ticket locked =>
      exact guarded.stay rfl rfl rfl (by rw [locked]; rfl) (by rw [locked]; rfl) nofun
        (.inr rfl)
  | @stored thread ticket call copy edited copied attempted =>
      exact guarded.stay rfl rfl rfl (by rw [copied]; rfl) (by rw [copied]; rfl) nofun
        (.inl ((guarded.writer thread).mpr (by rw [copied]; rfl)))
  | @failed thread ticket call copy error copied attempted =>
      exact guarded.stay rfl rfl rfl (by rw [copied]; rfl) (by rw [copied]; rfl) nofun
        (.inr rfl)
  | @releasedExclusive thread ticket result finished =>
      have owner := (guarded.writer thread).mpr (by rw [finished]; rfl)
      have noReaders : machine.readers = ∅ := guarded.apart (by simp [owner])
      refine guarded.move rfl (by simp [Phase.exclusive]) ?_ ?_ (fun other _ => Iff.rfl)
        (fun owned => absurd rfl owned) nofun (.inr rfl)
      · intro other different
        simp [owner, different.symm]
      · simp [Machine.answer, Machine.moveTo, noReaders, Phase.shared]
  | @releasedShared thread ticket state finished =>
      have noWriter : machine.writer = none := by
        by_contra owned
        have inside := (guarded.readers thread).mpr (by rw [finished]; rfl)
        simp [guarded.apart owned] at inside
      refine guarded.move rfl ?_ (fun other _ => Iff.rfl) (by simp [Phase.shared]) ?_
        (fun owned => absurd noWriter owned) nofun (.inr rfl)
      · simp [Machine.answer, Machine.moveTo, noWriter, Phase.exclusive]
      · intro other different
        simp [different]

end Guarded

/-- Some event moves the thread on. -/
def CanMove (machine : Machine τ σ ω ε) (thread : τ) : Prop :=
  ∃ event, (step editor machine event).phase thread ≠ machine.phase thread

/-- A thread inside its critical section can always go on. -/
theorem canMove_of_inside {machine : Machine τ σ ω ε} {thread : τ}
    (inside : (machine.phase thread).exclusive = true ∨
      (machine.phase thread).shared = true) :
    CanMove editor machine thread := by
  cases phase : machine.phase thread with
  | idle | waiting => simp [phase, Phase.exclusive, Phase.shared] at inside
  | locked ticket request =>
      refine ⟨.copy thread, ?_⟩
      cases request with
      | mutate call => simp [step, phase]
      | read => simp [step, phase, Machine.conclude]
  | copied ticket call copy =>
      refine ⟨.store thread, ?_⟩
      simp only [step, phase]
      split
      next => simp [Machine.conclude]
      next => simp [Machine.conclude]
  | finished ticket reply =>
      refine ⟨.release thread, ?_⟩
      cases reply with
      | mutated result => simp [step, phase, Machine.answer, Machine.moveTo]
      | snapshot state => simp [step, phase, Machine.answer, Machine.moveTo]

/-- The mutex never deadlocks: while some thread is busy, some busy thread can go on. -/
theorem progress {machine : Machine τ σ ω ε} (guarded : Guarded machine) {thread : τ}
    (busy : machine.phase thread ≠ .idle) :
    ∃ mover, machine.phase mover ≠ .idle ∧ CanMove editor machine mover := by
  have owner {holder : τ} (inside : (machine.phase holder).exclusive = true ∨
      (machine.phase holder).shared = true) :
      ∃ mover, machine.phase mover ≠ .idle ∧ CanMove editor machine mover := by
    refine ⟨holder, fun idle => ?_, canMove_of_inside editor inside⟩
    simp [idle, Phase.exclusive, Phase.shared] at inside
  cases phase : machine.phase thread with
  | idle => exact absurd phase busy
  | locked ticket request =>
      have inside : (machine.phase thread).exclusive = true ∨
          (machine.phase thread).shared = true := by
        cases request <;> simp [phase, Phase.exclusive, Phase.shared]
      exact owner inside
  | copied ticket call copy => exact owner (.inl (by rw [phase]; rfl))
  | finished ticket reply =>
      have inside : (machine.phase thread).exclusive = true ∨
          (machine.phase thread).shared = true := by
        cases reply <;> simp [phase, Phase.exclusive, Phase.shared]
      exact owner inside
  | waiting ticket request =>
      cases writing : machine.writer with
      | some writer => exact owner (.inl ((guarded.writer writer).mp writing))
      | none =>
          rcases machine.readers.eq_empty_or_nonempty with empty | ⟨reader, reading⟩
          · refine ⟨thread, busy, ?_⟩
            cases request with
            | read =>
                exact ⟨.acquire thread, by simp [step, phase, writing, Machine.moveTo]⟩
            | mutate call =>
                cases checked : editor.check call with
                | some error =>
                    exact ⟨.refuse thread,
                      by simp [step, phase, checked, Machine.answer, Machine.moveTo]⟩
                | none =>
                    refine ⟨.acquire thread, ?_⟩
                    simp [step, phase, checked, writing, empty, Machine.moveTo]
          · exact owner (.inr ((guarded.readers reader).mp reading))

end LockedCell
