import Imapdl.Client.Uids
import Imapdl.Client.Quit

/-!
# imapdl - UID EXPUNGE removes what UID STORE flagged

With {lit}`delete_after_fetch` set, {lit}`do_store` flags the collected UIDs {lit}`\\Deleted`,
and when the server reports UIDPLUS, {lit}`do_uid_expunge` then removes the messages of a
sequence set that it builds from the collected UIDs once more.  The two sets agree because the
collected UIDs no longer change once FETCHED is reached: {lit}`imap_uid` adds to them only in
FETCHING, and {lit}`do_login`, which clears them, runs before.  So along every run, UID EXPUNGE
names only messages that a UID STORE of the same session flagged before it.

Main definitions:

- Structure {lit}`Client.ExpungeAgrees`: every UID STORE written flags the collected UIDs
  {lit}`\\Deleted`, one has been written once STORED is reached or filed, and every UID EXPUNGE
  follows such a UID STORE of its set.

Main results:

- Theorem {lit}`Client.step_expungeAgrees`: every step from a reachable client keeps it.
- Theorem {lit}`Client.expunge_follows_store`: along every run, every UID EXPUNGE written is
  preceded by a UID STORE {lit}`\\Deleted` of the same set, and every UID STORE written flags
  the collected UIDs {lit}`\\Deleted`.
-/

namespace Imapdl

namespace Client

/-- The sets of UID STORE and UID EXPUNGE agree: every UID STORE written so far flags the
collected UIDs {lit}`\\Deleted`, from FETCHED on; once STORED is reached or filed, such a UID
STORE has been written; and every UID EXPUNGE written follows a UID STORE {lit}`\\Deleted` of its
set. -/
structure ExpungeAgrees (c : Client) : Prop where
  frozen : ∀ set fs m sil t, Command.uidStore set fs m sil t ∈ c.writes →
    State.fetched ≤ c.state ∧ set = copyUids c.uids ∧ fs = [.deleted] ∧ m = .replace ∧ sil = true
  stored : (c.state = .stored ∨ ∃ t, (t, State.stored) ∈ c.tagToState) →
    ∃ t, Command.uidStore (copyUids c.uids) [.deleted] .replace true t ∈ c.writes
  expunge : ∀ pre set t, pre ++ [.uidExpunge set t] <+: c.writes →
    ∃ t', Command.uidStore set [.deleted] .replace true t' ∈ pre

/-- A step that writes nothing, keeps the collected UIDs from FETCHED on, and files or reaches
STORED only where it was filed or reached, keeps the agreement. -/
theorem ExpungeAgrees.of_frame {c c' : Client} (a : c.ExpungeAgrees) (hw : c'.writes = c.writes)
    (hf : State.fetched ≤ c.state → State.fetched ≤ c'.state ∧ c'.uids = c.uids)
    (hs : (c'.state = .stored ∨ ∃ t, (t, State.stored) ∈ c'.tagToState) →
      (c.state = .stored ∨ ∃ t, (t, State.stored) ∈ c.tagToState) ∧ c'.uids = c.uids) :
    c'.ExpungeAgrees where
  frozen set fs m sil t hx := by
    obtain ⟨h₁, rfl, hrest⟩ := a.frozen set fs m sil t (hw ▸ hx)
    obtain ⟨h₂, hu⟩ := hf h₁
    exact ⟨h₂, by rw [hu], hrest⟩
  stored hx := by
    obtain ⟨hx, hu⟩ := hs hx
    rw [hw, hu]
    exact a.stored hx
  expunge pre set t hx := a.expunge pre set t (hw ▸ hx)

theorem new_expungeAgrees : new.ExpungeAgrees where
  frozen _ _ _ _ _ hx := by simp [show new.writes = [] from rfl] at hx
  stored hx := by simp [new, init, doSignalWait, doResolve, emit] at hx
  expunge _ _ _ hx := by simp [show new.writes = [] from rfl] at hx

/-! ## The dispatch -/

/-- Every UID STORE that the dispatch leaves written was written from FETCHED on, and flags the
collected UIDs {lit}`\\Deleted`. -/
theorem command_frozen {o : Options} {c c' : Client} (hs : c.state ∈ State.dispatched)
    (h : c.command o = .ok c') (a : c.ExpungeAgrees) {set : List (UInt32 × UInt32)}
    {fs : List Flag} {m : StoreMode} {sil : Bool} {t : String}
    (hx : Command.uidStore set fs m sil t ∈ c'.writes) :
    State.fetched ≤ c'.state ∧ set = copyUids c'.uids ∧ fs = [.deleted] ∧ m = .replace ∧
      sil = true := by
  cases command_dispatch hs h with
  | login hs' _ | capability hs' _ | capabilitiesKnown hs' _ | select hs' | fetch hs' _
  | emptyMailbox hs' _ =>
    -- before FETCHED no UID STORE has been written, and these dispatches write none
    simp only [request, doWrite, doLogout, doFetch, doSelect, startFetchTimer, resumeFetchTimer,
      register, assign, probe, emit, writes, List.filterMap_append, List.filterMap_cons,
      List.filterMap_nil, List.append_nil, List.mem_append, List.mem_singleton, reduceCtorEq,
      List.not_mem_nil, or_false] at hx
    exact absurd (a.frozen _ _ _ _ _ hx).1 (by rw [hs']; decide)
  | keep _ _ | logout _ | quit _ =>
    -- these write no UID STORE, and stay past FETCHED with the UIDs
    simp only [request, doWrite, doLogout, doQuit, doShutdown, stopFetchTimer, register, assign,
      probe, emit, writes, List.filterMap_append, List.filterMap_cons, List.filterMap_nil,
      List.append_nil, List.mem_append, List.mem_singleton, reduceCtorEq, or_false] at hx ⊢
    obtain ⟨hf, hrest⟩ := a.frozen _ _ _ _ _ hx
    exact ⟨by first | exact hf | decide, by simpa using hrest⟩
  | store hs' _ =>
    simp only [request, doWrite, doStore, stopFetchTimer, register, probe, emit, writes,
      List.filterMap_append, List.filterMap_cons, List.filterMap_nil, List.mem_append,
      List.mem_singleton, List.not_mem_nil, or_false, Command.uidStore.injEq] at hx ⊢
    rcases hx with hx | ⟨rfl, rfl, -, rfl, -⟩
    · simpa using a.frozen _ _ _ _ _ hx
    · exact ⟨by rw [hs']; decide, rfl, rfl, trivial, rfl⟩
  | expunge _ =>
    simp only [doUidOrSimpleExpunge_eq, request, doWrite, register, probe, emit, writes,
      List.filterMap_append, List.filterMap_cons, List.filterMap_nil, List.mem_append,
      List.mem_singleton] at hx ⊢
    rcases hx with hx | hx
    · simpa using a.frozen _ _ _ _ _ hx
    · split at hx <;> cases hx

/-- When the dispatch reaches or files STORED, a UID STORE {lit}`\\Deleted` of the collected UIDs
is written. -/
theorem command_stored {o : Options} {c c' : Client} (hs : c.state ∈ State.dispatched)
    (hm : c.tagToState = []) (h : c.command o = .ok c') (a : c.ExpungeAgrees)
    (hx : c'.state = .stored ∨ ∃ t, (t, State.stored) ∈ c'.tagToState) :
    ∃ t, Command.uidStore (copyUids c'.uids) [.deleted] .replace true t ∈ c'.writes := by
  cases command_dispatch hs h with
  | store _ _ =>
    simp only [request, doWrite, doStore, stopFetchTimer, register, probe, emit, writes,
      List.filterMap_append, List.filterMap_cons, List.filterMap_nil, List.mem_append,
      List.mem_singleton]
    exact ⟨_, .inr rfl⟩
  | expunge hs' =>
    simp only [doUidOrSimpleExpunge_eq, request, doWrite, register, probe, emit, writes,
      List.filterMap_append, List.filterMap_cons, List.filterMap_nil, List.mem_append]
    obtain ⟨t, hw⟩ := a.stored (.inl hs')
    exact ⟨t, .inl hw⟩
  | _ =>
    -- every other dispatch neither stays in nor files STORED
    simp only [request, doWrite, doLogout, doFetch, doSelect, doQuit, doShutdown, stopFetchTimer,
      startFetchTimer, resumeFetchTimer, register, assign, probe, emit, setTag, hm, List.filter_nil,
      List.mem_cons, List.not_mem_nil, or_false, Prod.mk.injEq, exists_eq_left,
      exists_false] at hx
    exact absurd hx (by simp [*])

/-- A UID EXPUNGE that the dispatch writes, from STORED with UIDPLUS, follows the UID STORE that
filed STORED. -/
theorem command_expunge {o : Options} {c c' : Client} (hs : c.state ∈ State.dispatched)
    (h : c.command o = .ok c') (a : c.ExpungeAgrees) {pre : List Command}
    {set : List (UInt32 × UInt32)} {t : String} (hx : pre ++ [.uidExpunge set t] <+: c'.writes) :
    ∃ t', Command.uidStore set [.deleted] .replace true t' ∈ pre := by
  cases command_dispatch hs h with
  | expunge hs' =>
    simp only [doUidOrSimpleExpunge_eq, request, doWrite, register, probe, emit, writes,
      List.filterMap_append, List.filterMap_cons, List.filterMap_nil,
      List.prefix_concat_iff] at hx
    rcases hx with hx | hx
    · obtain ⟨rfl, hl⟩ := List.append_inj' hx rfl
      obtain ⟨t', hw⟩ := a.stored (.inl hs')
      by_cases hu : Capability.uidPlus ∈ c.capabilities
      · simp only [hasUidplus, hu, decide_True, if_true, List.cons.injEq,
          Command.uidExpunge.injEq, and_true] at hl
        exact ⟨t', hl.1 ▸ hw⟩
      · simp [hasUidplus, hu] at hl
    · exact a.expunge _ _ _ hx
  | _ =>
    -- every other dispatch writes no UID EXPUNGE
    simp only [request, doWrite, doLogout, doFetch, doSelect, doStore, doQuit, doShutdown,
      stopFetchTimer, startFetchTimer, resumeFetchTimer, register, assign, probe, emit, writes,
      List.filterMap_append, List.filterMap_cons, List.filterMap_nil, List.append_nil,
      List.prefix_concat_iff] at hx
    first
    | exact a.expunge _ _ _ hx
    | rcases hx with hx | hx
      · obtain ⟨-, hx⟩ := List.append_inj' hx rfl
        simp at hx
      · exact a.expunge _ _ _ hx

theorem command_expungeAgrees {o : Options} {c c' : Client} (hs : c.state ∈ State.dispatched)
    (hm : c.tagToState = []) (h : c.command o = .ok c') (a : c.ExpungeAgrees) :
    c'.ExpungeAgrees where
  frozen _ _ _ _ _ hx := command_frozen hs h a hx
  stored hx := command_stored hs hm h a hx
  expunge _ _ _ hx := command_expunge hs h a hx

/-- The CAPABILITY of the greeting timer, in ESTABLISHED with nothing pending, keeps the
agreement: no UID STORE has been written yet. -/
theorem ExpungeAgrees.request_capability {c : Client} (a : c.ExpungeAgrees)
    (hs : c.state = .established) (hm : c.tagToState = []) :
    (c.request .capability .gotInitialCapabilities).ExpungeAgrees where
  frozen _ _ _ _ _ hx := by
    simp only [request, register, doWrite, emit, writes, List.filterMap_append,
      List.filterMap_cons, List.filterMap_nil, List.mem_append, List.mem_singleton, reduceCtorEq,
      or_false] at hx
    exact absurd (a.frozen _ _ _ _ _ hx).1 (by rw [hs]; decide)
  stored hx := by simp [request, register, doWrite, emit, setTag, hm, hs] at hx
  expunge _ _ _ hx := by
    simp only [request, register, doWrite, emit, writes, List.filterMap_append,
      List.filterMap_cons, List.filterMap_nil, List.prefix_concat_iff] at hx
    rcases hx with hx | hx
    · obtain ⟨-, hl⟩ := List.append_inj' hx rfl
      simp at hl
    · exact a.expunge _ _ _ hx

/-! ## Along every run -/

/-- What the registry files is one increment past the state. -/
theorem Good.filed {c : Client} (g : c.Good) {t : String} {s : State}
    (h : (t, s) ∈ c.tagToState) : s = c.state.succ := by
  rcases g.tags with ⟨hm, -⟩ | ⟨t', hm, -⟩ <;> simp_all

/-- Every step from a reachable client keeps the agreement. -/
theorem step_expungeAgrees {o : Options} {c c' : Client} {e : Event} (g : c.Good)
    (he : c.enabled e = true) (h : c.step o e = .ok c') (a : c.ExpungeAgrees) :
    c'.ExpungeAgrees := by
  rcases step_cases g he h with ⟨tag, -, hm, hw, h⟩ | ⟨cb, rfl, ht, h⟩ |
    ⟨-, hs, hm, ⟨-, rfl⟩ | ⟨-, h⟩⟩ | ⟨-, -, q⟩
  · refine command_expungeAgrees (State.succ_mem_dispatched hw) rfl h (a.of_frame rfl
      (fun hf => ⟨Nat.le_succ_of_le hf, rfl⟩) ?_)
    rintro (hst | ⟨t, ht⟩)
    · exact ⟨.inr ⟨tag, by rw [hm, List.mem_singleton]; exact congrArg (Prod.mk tag) hst.symm⟩, rfl⟩
    · exact absurd ht (List.not_mem_nil _)
  · obtain ⟨hl, -, -, -, hu, -⟩ := callback_log ht h
    have fr := callback_frame ht h
    have hu : c.state ≠ .fetching → c'.uids = c.uids := fun hs => by
      rcases hu with hu | ⟨n, -, hs', -⟩
      exacts [hu, absurd hs' hs]
    refine a.of_frame (by simp only [writes, hl]) (fun hf => ⟨fr.state ▸ hf, hu ?_⟩)
      (fun hst => ?_)
    · intro hs
      rw [hs] at hf
      exact absurd hf (by decide)
    · rw [fr.state, fr.tagToState] at hst
      refine ⟨hst, hu fun hs => ?_⟩
      rcases hst with hst | ⟨t, ht⟩
      · simp [hs] at hst
      · have := g.filed ht
        simp [hs] at this
  · refine ExpungeAgrees.request_capability ?_ hs hm
    exact a.of_frame rfl (fun hf => ⟨hf, rfl⟩) (fun hst => ⟨hst, rfl⟩)
  · refine command_expungeAgrees ?_ ?_ h ?_
    · simp [assign]
    · exact hm
    · refine a.of_frame rfl (fun hf => absurd hf (by rw [hs]; decide)) (fun hst => ?_)
      simp [assign, probe, hm] at hst
  · refine a.of_frame q.writes (fun hf => ⟨?_, q.uids⟩) (fun hst => ⟨?_, q.uids⟩)
    · rcases q.state with hs | ⟨⟨r, rfl⟩, -⟩
      · rwa [hs]
      · simp only [enabled, Bool.and_eq_true, bne_iff_ne] at he
        rw [g.openingState (by omega)] at hf
        exact absurd hf (by decide)
    · rw [q.tagToState] at hst
      rcases q.state with hs | ⟨-, hs⟩
      · rwa [hs] at hst
      · exact .inr (hst.resolve_left (by rw [hs]; decide))

theorem Reachable.expungeAgrees {o : Options} {c : Client} (hr : Reachable o c) :
    c.ExpungeAgrees := by
  obtain ⟨_, r⟩ := hr
  induction r with
  | start => exact new_expungeAgrees
  | step r he hs ih => exact step_expungeAgrees r.good he hs ih

/-- Along every run, every UID EXPUNGE written follows a UID STORE {lit}`\\Deleted` of the same
set, and every UID STORE written flags the collected UIDs {lit}`\\Deleted`: UID EXPUNGE names
only messages that the session flagged {lit}`\\Deleted` before. -/
theorem expunge_follows_store {o : Options} {c : Client} (hr : Reachable o c) :
    (∀ pre set t, pre ++ [Command.uidExpunge set t] <+: c.writes →
      ∃ t', Command.uidStore set [.deleted] .replace true t' ∈ pre) ∧
    ∀ set fs m sil t, Command.uidStore set fs m sil t ∈ c.writes →
      set = copyUids c.uids ∧ fs = [.deleted] ∧ m = .replace ∧ sil = true :=
  ⟨hr.expungeAgrees.expunge, fun set fs m sil t hx => (hr.expungeAgrees.frozen set fs m sil t hx).2⟩

theorem expunge_follows_store_loggedOut :
    Reachable sampleOptions loggedOutClient ∧
      ((∀ pre set t, pre ++ [Command.uidExpunge set t] <+: loggedOutClient.writes →
        ∃ t', Command.uidStore set [.deleted] .replace true t' ∈ pre) ∧
      ∀ set fs m sil t, Command.uidStore set fs m sil t ∈ loggedOutClient.writes →
        set = copyUids loggedOutClient.uids ∧ fs = [.deleted] ∧ m = .replace ∧ sil = true) :=
  have h₀ : new.exec sampleOptions toLoggedOut = some loggedOutClient := by decide
  have hr : Reachable sampleOptions loggedOutClient := Reachable.exec ⟨[], .start⟩ h₀
  ⟨hr, expunge_follows_store hr⟩

end Client

end Imapdl
