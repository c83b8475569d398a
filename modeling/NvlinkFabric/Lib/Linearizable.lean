import NvlinkFabric.Lib.LockedCell
import Mathlib.Data.List.Nodup
import Mathlib.Data.Finset.Basic

/-!
# A cell behind a shared mutex is linearizable

The history of a run is a serial execution that holds each request at most once,
explains the cell and every answer, and keeps the order of requests that do not
overlap.  No request is lost: one that has not been answered is held by a thread.
-/

namespace LockedCell

open Transition

universe u v w x

variable {τ : Type u} {σ : Type v} {ω : Type w} {ε : Type x}
variable (editor : Editor σ ω ε) [DecidableEq τ]

/-- A pending request is the one the thread is busy with. -/
theorem Phase.ticket_of_pending {phase : Phase σ ω ε} {ticket : Nat} {request : Request ω}
    (pending : phase.pending = some (ticket, request)) : phase.ticket = some ticket := by
  cases phase with
  | idle | finished => cases pending
  | waiting | locked | copied =>
      cases pending
      rfl

/-- The history answers a ticket with this reply. -/
def Answered (machine : Machine τ σ ω ε) (ticket : Nat) (reply : Reply σ ε) : Prop :=
  ∃ entry ∈ machine.history, entry.ticket = ticket ∧ entry.reply = reply

/-- A thread in this phase is known to the ghost fields: its request is served once it
has finished and not before, and it has not been answered. -/
structure Fits (machine : Machine τ σ ω ε) (phase : Phase σ ω ε) : Prop where
  pending : ∀ ticket request, phase.pending = some (ticket, request) →
    machine.requests[ticket]? = some request ∧ ticket ∉ machine.history.map Entry.ticket
  finished : ∀ ticket reply, phase = .finished ticket reply →
    Answered machine ticket reply
  unanswered : ∀ ticket, phase.ticket = some ticket →
    ticket < machine.requests.length ∧ ticket ∉ machine.returned.map Prod.fst

/-- No two threads work on the same ticket. -/
def Disjoint (phases : τ → Phase σ ω ε) : Prop :=
  ∀ first second ticket, (phases first).ticket = some ticket →
    (phases second).ticket = some ticket → first = second

/-- The history is serial, holds each request at most once, and explains the cell and
everything the clients have been told; a request is answered or held by a thread. -/
structure Linearizable (start : σ) (machine : Machine τ σ ω ε) : Prop where
  serial : Serial editor.attempt start machine.history
  cell : machine.cell = final editor.attempt start machine.history
  distinct : (machine.history.map Entry.ticket).Nodup
  asked : ∀ entry ∈ machine.history, machine.requests[entry.ticket]? = some entry.request
  returned : ∀ answer ∈ machine.returned, Answered machine answer.1 answer.2
  once : (machine.returned.map Prod.fst).Nodup
  complete : ∀ ticket < machine.requests.length, ticket ∈ machine.returned.map Prod.fst ∨
    ∃ thread, (machine.phase thread).ticket = some ticket
  threads : ∀ thread, Fits machine (machine.phase thread)
  disjoint : Disjoint machine.phase

omit [DecidableEq τ] in
theorem Fits.idle (machine : Machine τ σ ω ε) : Fits machine .idle where
  pending := nofun
  finished := nofun
  unanswered := nofun

theorem Disjoint.update {phases : τ → Phase σ ω ε}
    (disjoint : Disjoint phases) {thread : τ} {phase : Phase σ ω ε}
    (fresh : ∀ ticket, phase.ticket = some ticket →
      ∀ other, other ≠ thread → (phases other).ticket ≠ some ticket) :
    Disjoint (Function.update phases thread phase) := by
  intro first second ticket atFirst atSecond
  by_cases one : first = thread
  · by_cases two : second = thread
    · rw [one, two]
    · rw [one, Function.update_self] at atFirst
      rw [Function.update_of_ne two] at atSecond
      exact absurd atSecond (fresh ticket atFirst second two)
  · rw [Function.update_of_ne one] at atFirst
    by_cases two : second = thread
    · rw [two, Function.update_self] at atSecond
      exact absurd atFirst (fresh ticket atSecond first one)
    · rw [Function.update_of_ne two] at atSecond
      exact disjoint first second ticket atFirst atSecond

/-- A thread that keeps its ticket stays apart from the others. -/
theorem Disjoint.update_of_ticket {phases : τ → Phase σ ω ε} (disjoint : Disjoint phases)
    {thread : τ} {phase : Phase σ ω ε}
    (kept : ∀ ticket, phase.ticket = some ticket → (phases thread).ticket = some ticket) :
    Disjoint (Function.update phases thread phase) :=
  disjoint.update fun ticket mine other different theirs =>
    different (disjoint other thread ticket theirs (kept ticket mine))

/-- Tickets stay with the threads when one thread moves and keeps its own. -/
theorem held_update {phases : τ → Phase σ ω ε} {thread : τ} {phase : Phase σ ω ε}
    {ticket : Nat} (held : ∃ holder, (phases holder).ticket = some ticket)
    (kept : (phases thread).ticket = some ticket → phase.ticket = some ticket) :
    ∃ holder, (Function.update phases thread phase holder).ticket = some ticket := by
  obtain ⟨holder, holds⟩ := held
  by_cases same : holder = thread
  · subst same
    exact ⟨holder, by rw [Function.update_self]; exact kept holds⟩
  · exact ⟨holder, by rw [Function.update_of_ne same]; exact holds⟩

omit [DecidableEq τ] in
theorem linearizable_start (start : σ) :
    Linearizable editor start ({ cell := start } : Machine τ σ ω ε) where
  serial := .nil editor.attempt start
  cell := rfl
  distinct := List.nodup_nil
  asked entry member := by cases member
  returned answer member := by cases member
  once := List.nodup_nil
  complete ticket asked := absurd asked (Nat.not_lt_zero _)
  threads thread := .idle _
  disjoint first second ticket atFirst := by cases atFirst

namespace Linearizable

variable {editor} {start : σ} {machine : Machine τ σ ω ε} {thread : τ}

/-- Taking the mutex and copying the cell are invisible to the clients. -/
theorem advance (linearizable : Linearizable editor start machine) {phase : Phase σ ω ε}
    {writer : Option τ} {readers : Finset τ}
    (pending : phase.pending = (machine.phase thread).pending)
    (ticket : phase.ticket = (machine.phase thread).ticket)
    (busy : ∀ ticket reply, phase ≠ .finished ticket reply) :
    Linearizable editor start
      { machine.moveTo thread phase with writer := writer, readers := readers } where
  serial := linearizable.serial
  cell := linearizable.cell
  distinct := linearizable.distinct
  asked := linearizable.asked
  returned := linearizable.returned
  once := linearizable.once
  complete number asked :=
    (linearizable.complete number asked).imp_right
      fun held => held_update held fun mine => ticket.trans mine
  threads := by
    refine (Function.forall_update_iff _ fun _ => Fits _).mpr ⟨?_, fun other _ => ?_⟩
    · have fits := linearizable.threads thread
      exact ⟨fun number request mine => fits.pending number request (pending ▸ mine),
        fun number reply finished => absurd finished (busy number reply),
        fun number mine => fits.unanswered number (ticket ▸ mine)⟩
    · have fits := linearizable.threads other
      exact ⟨fits.pending, fits.finished, fits.unanswered⟩
  disjoint := linearizable.disjoint.update_of_ticket fun number mine => ticket ▸ mine

/-- A new request takes the next ticket. -/
theorem invoke (linearizable : Linearizable editor start machine)
    (idle : machine.phase thread = .idle) (request : Request ω) :
    Linearizable editor start
      { machine.moveTo thread (.waiting machine.requests.length request) with
        requests := machine.requests ++ [request] } := by
  have known {ticket : Nat} {old : Request ω}
      (asked : machine.requests[ticket]? = some old) :
      (machine.requests ++ [request])[ticket]? = some old := by
    rw [List.getElem?_append_left (List.getElem?_eq_some_iff.mp asked).1]
    exact asked
  have past : ∀ entry ∈ machine.history, entry.ticket < machine.requests.length :=
    fun entry member => (List.getElem?_eq_some_iff.mp (linearizable.asked entry member)).1
  exact
    { serial := linearizable.serial
      cell := linearizable.cell
      distinct := linearizable.distinct
      asked := fun entry member => known (linearizable.asked entry member)
      returned := linearizable.returned
      once := linearizable.once
      complete := by
        intro ticket made
        by_cases old : ticket < machine.requests.length
        · exact (linearizable.complete ticket old).imp_right fun held =>
            held_update held fun mine => by rw [idle] at mine; cases mine
        · obtain rfl : ticket = machine.requests.length := by
            rw [List.length_append, List.length_singleton] at made
            omega
          exact .inr ⟨thread, congrArg Phase.ticket (phase_moveTo_self machine thread _)⟩
      threads := by
        refine (Function.forall_update_iff _ fun _ => Fits _).mpr ⟨?_, fun other _ => ?_⟩
        · refine ⟨?_, nofun, ?_⟩
          · rintro ticket asked ⟨⟩
            refine ⟨by simp, fun served => ?_⟩
            obtain ⟨entry, member, ticket⟩ := List.mem_map.mp served
            exact absurd (past entry member) (by omega)
          · rintro ticket ⟨⟩
            refine ⟨by simp, fun answered => ?_⟩
            obtain ⟨answer, member, ticket⟩ := List.mem_map.mp answered
            obtain ⟨entry, recorded, same, -⟩ := linearizable.returned answer member
            exact absurd (past entry recorded) (by omega)
        · have fits := linearizable.threads other
          refine ⟨fun ticket old mine => ?_, fits.finished, fun ticket mine => ?_⟩
          · obtain ⟨asked, unserved⟩ := fits.pending ticket old mine
            exact ⟨known asked, unserved⟩
          · obtain ⟨taken, unanswered⟩ := fits.unanswered ticket mine
            refine ⟨?_, unanswered⟩
            simp only [List.length_append, List.length_singleton]
            omega
      disjoint := by
        refine linearizable.disjoint.update ?_
        rintro ticket ⟨⟩ other - theirs
        exact lt_irrefl _ ((linearizable.threads other).unanswered _ theirs).1 }

/-- A request is served by its reply in turn. -/
theorem conclude (linearizable : Linearizable editor start machine) {ticket : Nat}
    {request : Request ω}
    (pending : (machine.phase thread).pending = some (ticket, request)) :
    Linearizable editor start
      (machine.conclude thread ticket request
        (serve editor.attempt machine.cell request)) := by
  have own := Phase.ticket_of_pending pending
  obtain ⟨asked, unserved⟩ := (linearizable.threads thread).pending ticket request pending
  have grown {number : Nat} {reply : Reply σ ε}
      (recorded : Answered machine number reply) :
      Answered (machine.conclude thread ticket request
        (serve editor.attempt machine.cell request))
        number reply := by
    obtain ⟨entry, member, same⟩ := recorded
    exact ⟨entry, List.mem_append_left _ member, same⟩
  exact
    { serial := linearizable.serial.concat (by rw [linearizable.cell])
      cell := by
        rw [Machine.conclude, final_concat, ← linearizable.cell]
      distinct := by
        rw [Machine.conclude, List.map_append, List.map_singleton,
          List.nodup_append]
        refine ⟨linearizable.distinct, List.nodup_singleton _, ?_⟩
        rintro number served _ fresh rfl
        obtain rfl := List.mem_singleton.mp fresh
        exact unserved served
      asked := by
        intro entry member
        rcases List.mem_append.mp member with old | new
        · exact linearizable.asked entry old
        · obtain rfl := List.mem_singleton.mp new
          exact asked
      returned := fun answer member => grown (linearizable.returned answer member)
      once := linearizable.once
      complete := fun number made =>
        (linearizable.complete number made).imp_right fun held =>
          held_update held fun mine => own.symm.trans mine
      threads := by
        refine (Function.forall_update_iff _ fun _ =>
          Fits _).mpr ⟨?_, fun other away => ?_⟩
        · refine ⟨?_, ?_, ?_⟩
          · rintro number old ⟨⟩
          · rintro number reply ⟨⟩
            exact ⟨_, List.mem_append_right _ (List.mem_singleton_self _), rfl, rfl⟩
          · rintro number ⟨⟩
            exact (linearizable.threads thread).unanswered ticket own
        · have fits := linearizable.threads other
          refine ⟨fun number old mine => ?_, fun number reply done => grown
            (fits.finished number reply done), fits.unanswered⟩
          obtain ⟨known, waits⟩ := fits.pending number old mine
          refine ⟨known, fun served => ?_⟩
          rw [Machine.conclude, List.map_append, List.mem_append] at served
          rcases served with before | now
          · exact waits before
          · obtain rfl := List.mem_singleton.mp now
            exact away (linearizable.disjoint other thread _
              (Phase.ticket_of_pending mine) own)
      disjoint := by
        refine linearizable.disjoint.update_of_ticket ?_
        rintro number ⟨⟩
        exact own }

/-- A finished thread returns its reply and lets go of the mutex. -/
theorem release (linearizable : Linearizable editor start machine) {ticket : Nat}
    {reply : Reply σ ε} {writer : Option τ} {readers : Finset τ}
    (finished : machine.phase thread = .finished ticket reply) :
    Linearizable editor start
      { machine.answer thread ticket reply with
        writer := writer, readers := readers } := by
  have own : (machine.phase thread).ticket = some ticket := by rw [finished]; rfl
  exact
    { serial := linearizable.serial
      cell := linearizable.cell
      distinct := linearizable.distinct
      asked := linearizable.asked
      returned := by
        intro answer member
        rcases List.mem_append.mp member with old | new
        · exact linearizable.returned answer old
        · obtain rfl := List.mem_singleton.mp new
          exact (linearizable.threads thread).finished ticket reply finished
      once := by
        rw [Machine.answer, List.map_append, List.map_singleton, List.nodup_append]
        refine ⟨linearizable.once, List.nodup_singleton _, ?_⟩
        rintro number answered _ fresh rfl
        obtain rfl := List.mem_singleton.mp fresh
        exact ((linearizable.threads thread).unanswered _ own).2 answered
      complete := by
        intro number made
        by_cases mine : number = ticket
        · exact .inl (by simp [Machine.answer, mine])
        · rcases linearizable.complete number made with answered | held
          · refine .inl ?_
            rw [Machine.answer, List.map_append]
            exact List.mem_append_left _ answered
          · refine .inr (held_update held fun theirs => ?_)
            exact absurd (Option.some.inj (theirs.symm.trans own)) mine
      threads := by
        refine (Function.forall_update_iff _ fun _ =>
          Fits _).mpr ⟨.idle _, fun other away => ?_⟩
        have fits := linearizable.threads other
        refine ⟨fits.pending, fits.finished, fun number mine => ?_⟩
        obtain ⟨taken, unanswered⟩ := fits.unanswered number mine
        refine ⟨taken, fun answered => ?_⟩
        rw [Machine.answer, List.map_append, List.mem_append] at answered
        rcases answered with before | now
        · exact unanswered before
        · obtain rfl := List.mem_singleton.mp now
          exact away (linearizable.disjoint other thread _ mine own)
      disjoint := linearizable.disjoint.update nofun }

theorem step (linearizable : Linearizable editor start machine)
    (guarded : Guarded machine) (event : Event τ ω) :
    Linearizable editor start (LockedCell.step editor machine event) := by
  have outcome := step_outcome editor machine event
  generalize LockedCell.step editor machine event = next at outcome
  cases outcome with
  | ignored => exact linearizable
  | invoked idle => exact linearizable.invoke idle _
  | @refused thread ticket call error waiting checked =>
      have served : serve editor.attempt machine.cell (.mutate call) =
          (.mutated (.error error), machine.cell) := by
        simp only [serve, editor.attempt_of_check _ checked]
      have pending : (machine.phase thread).pending = some (ticket, .mutate call) := by
        rw [waiting]
        rfl
      have concluded := linearizable.conclude pending
      rw [served] at concluded
      exact concluded.release (phase_moveTo_self machine thread _)
  | lockedExclusive waiting noWriter noReaders =>
      exact linearizable.advance (by rw [waiting]; rfl) (by rw [waiting]; rfl) (by simp)
  | lockedShared waiting noWriter =>
      exact linearizable.advance (by rw [waiting]; rfl) (by rw [waiting]; rfl) (by simp)
  | copied locked =>
      exact linearizable.advance (by rw [locked]; rfl) (by rw [locked]; rfl) (by simp)
  | read locked => exact linearizable.conclude (by rw [locked]; rfl)
  | @stored thread ticket call copy edited copied attempted =>
      obtain rfl := guarded.current thread ticket call copy copied
      have served : serve editor.attempt machine.cell (.mutate call) =
          (.mutated (.ok ()), edited) := by
        simp only [serve, attempted]
      rw [← served]
      exact linearizable.conclude (by rw [copied]; rfl)
  | @failed thread ticket call copy error copied attempted =>
      obtain rfl := guarded.current thread ticket call copy copied
      have served : serve editor.attempt machine.cell (.mutate call) =
          (.mutated (.error error), machine.cell) := by
        simp only [serve, attempted]
      rw [← served]
      exact linearizable.conclude (by rw [copied]; rfl)
  | releasedExclusive finished => exact linearizable.release finished
  | releasedShared finished => exact linearizable.release finished

end Linearizable

/-- Any number of threads and any interleaving of their steps. -/
theorem linearizable_run (start : σ) (events : List (Event τ ω)) :
    Linearizable editor start (run editor { cell := start } events) ∧
      Guarded (run editor { cell := start } events) := by
  have preserved (machine : Machine τ σ ω ε) (event : Event τ ω)
      (before : Linearizable editor start machine ∧ Guarded machine) :
      Linearizable editor start (step editor machine event) ∧
        Guarded (step editor machine event) :=
    ⟨before.1.step before.2 event, before.2.step event⟩
  exact invariant_run preserved ⟨linearizable_start editor start,
    guarded_start start⟩ events

/-- What the clients see only grows. -/
structure Extends (earlier later : Machine τ σ ω ε) : Prop where
  requests : earlier.requests <+: later.requests
  history : earlier.history <+: later.history
  returned : earlier.returned <+: later.returned

omit [DecidableEq τ] in
theorem Extends.refl (machine : Machine τ σ ω ε) : Extends machine machine :=
  ⟨List.prefix_rfl, List.prefix_rfl, List.prefix_rfl⟩

theorem extends_step (machine : Machine τ σ ω ε) (event : Event τ ω) :
    Extends machine (step editor machine event) := by
  have outcome := step_outcome editor machine event
  generalize step editor machine event = next at outcome
  cases outcome with
  | ignored | lockedExclusive | lockedShared | copied =>
      exact ⟨List.prefix_rfl, List.prefix_rfl, List.prefix_rfl⟩
  | invoked => exact ⟨List.prefix_append _ _, List.prefix_rfl, List.prefix_rfl⟩
  | read | stored | failed =>
      exact ⟨List.prefix_rfl, List.prefix_append _ _, List.prefix_rfl⟩
  | releasedExclusive | releasedShared =>
      exact ⟨List.prefix_rfl, List.prefix_rfl, List.prefix_append _ _⟩
  | refused => exact ⟨List.prefix_rfl, List.prefix_append _ _, List.prefix_append _ _⟩

theorem extends_run (machine : Machine τ σ ω ε) (events : List (Event τ ω)) :
    Extends machine (run editor machine events) := by
  induction events generalizing machine with
  | nil => exact .refl machine
  | cons event events ih =>
      have first := extends_step editor machine event
      have rest := ih (step editor machine event)
      exact ⟨first.requests.trans rest.requests, first.history.trans rest.history,
        first.returned.trans rest.returned⟩

/-- A request that is made after another one was answered is served after it. -/
theorem in_real_time (start : σ) (before after : List (Event τ ω)) :
    ∃ recent, (run editor (run editor { cell := start } before) after).history =
        (run editor { cell := start } before).history ++ recent ∧
      (∀ answer ∈ (run editor { cell := start } before).returned,
        Answered (run editor { cell := start } before) answer.1 answer.2) ∧
      ∀ entry ∈ (run editor (run editor { cell := start } before) after).history,
        (run editor { cell := start } before).requests.length ≤ entry.ticket →
          entry ∈ recent := by
  have linearizable := (linearizable_run editor start before).1
  obtain ⟨recent, grown⟩ := (extends_run editor (run editor { cell := start } before)
    after).history
  refine ⟨recent, grown.symm, linearizable.returned, fun entry member late => ?_⟩
  rw [← grown] at member
  rcases List.mem_append.mp member with old | new
  · have asked := (List.getElem?_eq_some_iff.mp (linearizable.asked entry old)).1
    omega
  · exact new

/-- A thread serves a request without interruption. -/
def alone (thread : τ) : Request ω → List (Event τ ω)
  | .mutate call =>
      [.invoke thread (.mutate call), .refuse thread, .acquire thread, .copy thread,
        .store thread, .release thread]
  | .read => [.invoke thread .read, .acquire thread, .copy thread, .release thread]

/-- A machine between requests. -/
def atRest (requests : List (Request ω)) (history : List (Entry σ ω ε))
    (returned : List (Nat × Reply σ ε)) (cell : σ) : Machine τ σ ω ε where
  cell := cell
  requests := requests
  history := history
  returned := returned

theorem run_alone (requests : List (Request ω)) (history : List (Entry σ ω ε))
    (returned : List (Nat × Reply σ ε)) (cell : σ) (thread : τ) (request : Request ω) :
    run editor (atRest requests history returned cell) (alone thread request) =
      atRest (requests ++ [request])
        (history ++ [⟨requests.length, request, (serve editor.attempt cell request).1⟩])
        (returned ++ [(requests.length, (serve editor.attempt cell request).1)])
        (serve editor.attempt cell request).2 := by
  cases request with
  | mutate call =>
      cases checked : editor.check call with
      | some error =>
          simp [run, alone, step, atRest, Machine.moveTo, Machine.conclude,
            Machine.answer, serve, checked, editor.attempt_of_check cell checked]
      | none =>
          cases edited : editor.attempt call cell with
          | ok next =>
              simp [run, alone, step, atRest, Machine.moveTo, Machine.conclude,
                Machine.answer, serve, checked, edited]
          | error error =>
              simp [run, alone, step, atRest, Machine.moveTo, Machine.conclude,
                Machine.answer, serve, checked, edited]
  | read =>
      simp [run, alone, step, atRest, Machine.moveTo, Machine.conclude,
        Machine.answer, serve]

/-- The entries of requests that are served one after the other. -/
def served (count : Nat) (cell : σ) : List (Request ω) → List (Entry σ ω ε)
  | [] => []
  | request :: requests =>
      ⟨count, request, (serve editor.attempt cell request).1⟩ ::
        served (count + 1) (serve editor.attempt cell request).2 requests

/-- Every serial execution is the history of some run. -/
theorem run_alones (thread : τ) (later before : List (Request ω))
    (history : List (Entry σ ω ε)) (returned : List (Nat × Reply σ ε)) (cell : σ) :
    run editor (atRest before history returned cell) (later.flatMap (alone thread)) =
      atRest (before ++ later) (history ++ served editor before.length cell later)
        (returned ++ (served editor before.length cell later).map fun entry =>
          (entry.ticket, entry.reply))
        (final editor.attempt cell (served editor before.length cell later)) := by
  induction later generalizing before history returned cell with
  | nil => simp [served, final]
  | cons request later ih =>
      have first := run_alone editor before history returned cell thread request
      rw [List.flatMap_cons]
      refine (run_append _ _ _ _).trans ((congrArg (run editor · _) first).trans ?_)
      rw [ih]
      simp [served, final]

/-- Mutations alone are served in the order of the requests. -/
theorem mutations_served (count : Nat) (cell : σ) (calls : List ω) :
    mutations (served editor count cell (calls.map .mutate)) = calls := by
  induction calls generalizing count cell with
  | nil => rfl
  | cons call calls ih =>
      simp only [List.map_cons, served, mutations, List.filterMap_cons]
      exact congrArg (call :: ·) (ih _ _)

theorem served_append (count : Nat) (cell : σ) (first second : List (Request ω)) :
    served editor count cell (first ++ second) =
      served editor count cell first ++
        served editor (count + first.length)
          (final editor.attempt cell (served editor count cell first)) second := by
  induction first generalizing count cell with
  | nil => rfl
  | cons request first ih =>
      simp only [List.cons_append, served, ih, List.length_cons, final, run_cons,
        Nat.add_assoc, Nat.add_comm 1]

/-- A thread that reads before and after some mutations sees the cell around them. -/
theorem served_around (cell : σ) (before between : List ω) :
    ∃ past middle first second,
      served editor 0 cell (before.map .mutate ++ .read ::
        between.map .mutate ++ [.read]) =
        past ++ ⟨first, .read,
          .snapshot (Transition.run (mutateWith editor.attempt) cell before)⟩ ::
          middle ++ [⟨second, .read, .snapshot (Transition.run (mutateWith editor.attempt)
            (Transition.run (mutateWith editor.attempt) cell before) between)⟩] ∧
        mutations middle = between := by
  have reached (count : Nat) (start : σ) (calls : List ω) :
      final editor.attempt start (served editor count start (calls.map .mutate)) =
        Transition.run (mutateWith editor.attempt) start calls := by
    rw [final_eq_run_mutations, mutations_served]
  refine ⟨served editor 0 cell (before.map .mutate),
    served editor (before.length + 1)
      (Transition.run (mutateWith editor.attempt) cell before)
      (between.map .mutate), before.length, before.length + 1 + between.length, ?_,
    mutations_served editor _ _ _⟩
  rw [List.append_assoc, served_append, reached, List.cons_append, served, served_append]
  simp only [serve, List.length_map, Nat.zero_add, reached, served, List.append_assoc,
    List.cons_append]

end LockedCell
