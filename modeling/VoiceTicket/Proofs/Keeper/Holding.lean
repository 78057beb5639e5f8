/-
  Whose socket it is.

  1. **Data** — `Holds k run socket`: the run connects to the socket, reads it, or waits for it to
     close.  `Owns k run socket`: if anybody has to do with the socket, then this run.

  2. **Specification** — `Dealt`: prepared sockets are handed out once each, so that a socket which
     is held is owned.  `Owns.after`: a socket that is owned stays so, whatever happens.

  3. **Crux** — a move hands out at most one socket, the first of those prepared (`Deals`); a step
     that does not make an attempt can only let go of a socket.
-/
import VoiceTicket.Proofs.Keeper.Calls

namespace VoiceTicket.Keeper

/-- A run has to do with a socket. -/
def Holds (k : Keeper) (run socket : Nat) : Prop :=
  ∃ r, k.runs[run]? = some r ∧ r.phase.socket? = some socket

/-- The socket has been handed out, and nobody else has to do with it. -/
structure Owns (k : Keeper) (run socket : Nat) : Prop where
  exists_ : socket < k.sockets.length
  gone : socket ∉ k.prepared
  alone : ∀ other, k.Holds other socket → other = run

/-- Sockets are prepared and handed out once each. -/
structure Dealt (k : Keeper) : Prop where
  bound : ∀ socket ∈ k.prepared, socket < k.sockets.length
  once : k.prepared.Nodup
  owned : ∀ run socket, k.Holds run socket → k.Owns run socket

/-! ## One move -/

/-- What a move can do about sockets: nothing but let go of some, prepare one more, or hand out the
first one prepared. -/
inductive Deals (k k' : Keeper) : Prop where
  | none (holds : ∀ run socket, k'.Holds run socket → k.Holds run socket)
      (prepared : k'.prepared = k.prepared) (sockets : k'.sockets.length = k.sockets.length)
  | prepares (holds : ∀ run socket, k'.Holds run socket → k.Holds run socket)
      (prepared : k'.prepared = k.prepared ++ [k.sockets.length])
      (sockets : k'.sockets.length = k.sockets.length + 1)
  | hands (run socket : Nat)
      (holds : ∀ run' socket', k'.Holds run' socket' →
        k.Holds run' socket' ∨ (run' = run ∧ socket' = socket))
      (prepared : k.prepared = socket :: k'.prepared)
      (sockets : k'.sockets.length = k.sockets.length)

variable {k k' : Keeper} {run socket : Nat}

theorem Dealt.deals (dealt : Dealt k) (deals : Deals k k') : Dealt k' := by
  cases deals with
  | none holds prepared sockets =>
    refine ⟨?_, prepared ▸ dealt.once, ?_⟩
    · rw [prepared, sockets]
      exact dealt.bound
    · intro run socket held
      have owned := dealt.owned run socket (holds _ _ held)
      refine ⟨sockets ▸ owned.exists_, prepared ▸ owned.gone, ?_⟩
      exact fun other held' => owned.alone other (holds _ _ held')
  | prepares holds prepared sockets =>
    refine ⟨?_, ?_, ?_⟩
    · intro socket mem
      rw [prepared, List.mem_append, List.mem_singleton] at mem
      rw [sockets]
      rcases mem with mem | rfl
      · have := dealt.bound socket mem
        omega
      · omega
    · rw [prepared]
      refine List.nodup_append.2 ⟨dealt.once, by simp, ?_⟩
      intro socket mem fresh isFresh
      rw [List.mem_singleton] at isFresh
      have := dealt.bound socket mem
      omega
    · intro run socket held
      have owned := dealt.owned run socket (holds _ _ held)
      have bound := owned.exists_
      refine ⟨by omega, ?_, fun other held' => owned.alone other (holds _ _ held')⟩
      rw [prepared, List.mem_append, List.mem_singleton]
      rintro (mem | rfl)
      · exact owned.gone mem
      · omega
  | hands run socket holds prepared sockets =>
    have once := dealt.once
    rw [prepared, List.nodup_cons] at once
    have bound := dealt.bound
    rw [prepared] at bound
    refine ⟨?_, once.2, ?_⟩
    · intro socket' mem
      rw [sockets]
      exact bound socket' (List.mem_cons_of_mem _ mem)
    · -- Nobody had to do with the socket that is handed out; all others stay with their runs.
      have fresh (other : Nat) : ¬ k.Holds other socket := by
        intro held
        apply (dealt.owned other socket held).gone
        rw [prepared]
        exact List.mem_cons_self
      intro run' socket' held
      rcases holds run' socket' held with before | ⟨rfl, rfl⟩
      · have owned := dealt.owned run' socket' before
        refine ⟨sockets ▸ owned.exists_, ?_, ?_⟩
        · intro mem
          apply owned.gone
          rw [prepared]
          exact List.mem_cons_of_mem _ mem
        · intro other held'
          rcases holds other socket' held' with before' | ⟨_, rfl⟩
          · exact owned.alone other before'
          · exact absurd before (fresh run')
      · refine ⟨?_, once.1, ?_⟩
        · rw [sockets]
          exact bound socket' List.mem_cons_self
        · intro other held'
          rcases holds other socket' held' with before' | ⟨rfl, _⟩
          · exact absurd before' (fresh other)
          · rfl

/-- A socket that has been handed out is not handed out again. -/
theorem Owns.deals (owns : Owns k run socket) (deals : Deals k k') : Owns k' run socket := by
  have bound := owns.exists_
  cases deals with
  | none holds prepared sockets =>
    refine ⟨sockets ▸ bound, prepared ▸ owns.gone, ?_⟩
    exact fun other held => owns.alone other (holds _ _ held)
  | prepares holds prepared sockets =>
    refine ⟨by omega, ?_, fun other held => owns.alone other (holds _ _ held)⟩
    rw [prepared, List.mem_append, List.mem_singleton]
    rintro (mem | rfl)
    · exact owns.gone mem
    · omega
  | hands run' socket' holds prepared sockets =>
    have gone := owns.gone
    rw [prepared, List.mem_cons, not_or] at gone
    refine ⟨sockets ▸ bound, gone.2, ?_⟩
    intro other held
    rcases holds other socket held with before | ⟨_, same⟩
    · exact owns.alone other before
    · exact absurd same gone.1

/-! ## Every move deals -/

/-- Runs that differ in their phases at most by having let go of a socket. -/
theorem holds_of_runs (runs : ∀ (i : Nat) (r' : Run), k'.runs[i]? = some r' →
    r'.phase.socket? = none ∨
      ∃ r : Run, k.runs[i]? = some r ∧ r.phase.socket? = r'.phase.socket?)
    (held : k'.Holds run socket) : k.Holds run socket := by
  obtain ⟨r', h', hs⟩ := held
  rcases runs run r' h' with none | ⟨r, h, same⟩
  · rw [none] at hs
    cases hs
  · exact ⟨r, h, same.trans hs⟩

/-- A turn lets go of a socket, or takes what is prepared first. -/
theorem Shift.deals {r : Run} {p : Phase} (h : k.runs[run]? = some r) (shift : Shift k run r p k') :
    Deals k k' := by
  have others {i : Nat} {r' : Run} (h' : k'.runs[i]? = some r') (ne : run ≠ i) :
      k.runs[i]? = some r' := by
    rw [shift.runs, List.getElem?_modify] at h'
    simpa [ne] using h'
  have own {r' : Run} (h' : k'.runs[run]? = some r') : r'.phase = p := by
    rw [shift.runs, List.getElem?_modify, h] at h'
    simp only [if_true, Option.map_eq_map, Option.map_some, Option.some.injEq] at h'
    rw [← h']
  rcases shift.socket with ⟨dials, kept⟩ | ⟨dials, rfl⟩
  · refine .none (fun _ _ => holds_of_runs ?_) (by rw [prepared, dials, prepared]) shift.sockets
    intro i r' h'
    by_cases same : run = i
    · subst same
      rw [own h']
      rcases kept with none | kept
      · exact Or.inl none
      · exact Or.inr ⟨r, h, kept.symm⟩
    · exact Or.inr ⟨r', others h' same, rfl⟩
  · cases list : k.dials.head?.bind Dial.socket? with
    | none =>
      -- A refusal, or nothing at all: no socket is handed out.
      refine .none (fun _ _ => holds_of_runs ?_) ?_ shift.sockets
      · intro i r' h'
        by_cases same : run = i
        · subst same
          rw [own h']
          exact Or.inl list
        · exact Or.inr ⟨r', others h' same, rfl⟩
      · rw [prepared, dials, prepared]
        cases dealt : k.dials with
        | nil => rfl
        | cons dial rest =>
          have none : dial.socket? = none := by
            rw [dealt] at list
            exact list
          exact (List.filterMap_cons_none none).symm
    | some socket =>
      refine .hands run socket ?_ ?_ shift.sockets
      · rintro i socket' ⟨r', h', hs⟩
        by_cases same : run = i
        · subst same
          rw [own h'] at hs
          exact Or.inr ⟨rfl, Option.some.inj (hs.symm.trans list)⟩
        · exact Or.inl ⟨r', others h' same, hs⟩
      · rw [prepared, prepared, dials]
        cases dealt : k.dials with
        | nil =>
          rw [dealt] at list
          cases list
        | cons dial rest =>
          have some : dial.socket? = some socket := by
            rw [dealt] at list
            exact list
          exact List.filterMap_cons_some some

/-- A move that leaves the phases of all runs and the attempts alone. -/
theorem deals_of_phases
    (phases : ∀ i : Nat, (k'.runs[i]?).map Run.phase = (k.runs[i]?).map Run.phase)
    (dials : k'.dials = k.dials) (sockets : k'.sockets.length = k.sockets.length) :
    Deals k k' := by
  refine .none (fun _ _ => holds_of_runs ?_) (by rw [prepared, dials, prepared]) sockets
  intro i r' h'
  have same := phases i
  rw [h', Option.map_some, eq_comm, Option.map_eq_some_iff] at same
  obtain ⟨r, h, same⟩ := same
  exact Or.inr ⟨r, h, by rw [same]⟩

theorem deals_begun (k : Keeper) : Deals k k.begun := by
  refine .none (fun _ _ => holds_of_runs ?_) rfl rfl
  intro i r' h'
  rcases run_begun h' with ⟨_, before⟩ | ⟨_, rfl⟩
  · exact Or.inr ⟨r', before, rfl⟩
  · exact Or.inl (Phase.socket?_first k.previous)

theorem Aside.deals {m : Move} (aside : Aside k m k') : Deals k k' := by
  have kept (run socket : Nat) (held : k'.Holds run socket) : k.Holds run socket := by
    obtain ⟨r, h, hs⟩ := held
    exact ⟨r, aside.runs ▸ h, hs⟩
  rcases aside.supply with ⟨prepared, sockets⟩ | ⟨prepared, sockets⟩
  · exact .none kept prepared sockets
  · exact .prepares kept prepared sockets

/-- **Every move deals**. -/
theorem Moved.deals {m : Move} (moved : Moved k m k') : Deals k k' := by
  cases moved with
  | ignored | waits | handedOver => exact deals_of_phases (fun _ => rfl) rfl rfl
  | begun => exact deals_begun k
  | stopped => exact deals_of_phases (phase_cancelLast k) rfl (alike_release k).sockets
  | turns h turn =>
    obtain ⟨p, shift⟩ := turn.shift h
    exact shift.deals h
  | aside aside => exact aside.deals

/-- In whatever order things happen, a socket is handed out once. -/
theorem Reachable.dealt (reachable : k.Reachable) : Dealt k := by
  refine reachable.induct ?_ fun k m k' dealt moved => dealt.deals moved.deals
  intro policy baseUrl
  refine ⟨nofun, List.nodup_nil, ?_⟩
  rintro run socket ⟨r, h, _⟩
  cases h

/-- **A socket stays with the run that it was handed to**, whatever happens. -/
theorem Owns.after (owns : Owns k run socket) (moves : List Move) :
    Owns (k.after moves) run socket := by
  induction moves generalizing k with
  | nil => exact owns
  | cons m moves ih => exact ih (owns.deals (moved k m).deals)

end VoiceTicket.Keeper
