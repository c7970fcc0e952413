import Imapdl.Client.Ingest

/-!
# imapdl - The UIDs the session deletes

With {lit}`delete_after_fetch` set, the session flags the UIDs it collected {lit}`\\Deleted` with
UID STORE and removes them with UID EXPUNGE.  {lit}`imap_uid` collects a UID whenever a FETCH
response carries one in state FETCHING, whether or not the same response brings a body, so a
UID reaches the deletion without its message reaching the maildir.  What does hold over every
run is the provenance of the sets: every UID a UID STORE or UID EXPUNGE covers came from
{lit}`imap_uid` in FETCHING.

Main results:

- Theorem {lit}`Client.store_without_body_run`: along the spec's session, a FETCH response with a
  UID and no body, then the tagged OK of FETCH, writes a UID STORE of that UID while the maildir
  receives nothing.
- Theorem {lit}`Client.deleted_uids_fetched`: along every run, every UID of the collected set
  and of every UID STORE and UID EXPUNGE written so far was delivered by {lit}`imap_uid` in
  FETCHING.
-/

namespace Imapdl

/-- The sequence set a command carries: that of UID STORE and UID EXPUNGE. -/
def Command.uidSet : Command → List (UInt32 × UInt32)
  | .uidStore set _ _ _ _ => set
  | .uidExpunge set _ => set
  | _ => []

/-- A UID lies in one of the ranges of a sequence set. -/
def Covers (set : List (UInt32 × UInt32)) (u : UInt32) : Prop := ∃ p ∈ set, p.1 ≤ u ∧ u ≤ p.2

@[simp] theorem covers_nil (u : UInt32) : ¬Covers [] u := by simp [Covers]

@[simp] theorem covers_copyUids (uids : List UInt32) (u : UInt32) :
    Covers (copyUids uids) u ↔ u ∈ uids := by
  simp only [Covers, copyUids, List.mem_map, exists_exists_and_eq_and]
  constructor
  · rintro ⟨v, hv, h₁, h₂⟩
    rwa [show u = v from UInt32.eq_of_val_eq (Fin.ext (Nat.le_antisymm h₂ h₁))]
  · exact fun hu => ⟨u, hu, UInt32.le_refl u, UInt32.le_refl u⟩

namespace Client

/-- The collected UIDs, and every UID the sequence sets of the commands written so far cover,
satisfy {lit}`P`. -/
def UidsFrom (P : UInt32 → Prop) (c : Client) : Prop :=
  (∀ u ∈ c.uids, P u) ∧ ∀ cmd, Effect.write cmd ∈ c.log → ∀ u, Covers cmd.uidSet u → P u

theorem UidsFrom.mono {P Q : UInt32 → Prop} {c : Client} (h : c.UidsFrom P)
    (hPQ : ∀ u, P u → Q u) : c.UidsFrom Q :=
  ⟨fun u hu => hPQ u (h.1 u hu), fun cmd hc u hu => hPQ u (h.2 cmd hc u hu)⟩

/-- A step that keeps the collected UIDs and writes no sequence set keeps the provenance. -/
theorem UidsFrom.of_log {P : UInt32 → Prop} {c c' : Client} (h : c.UidsFrom P)
    (hu : c'.uids = c.uids)
    (hl : ∀ cmd, Effect.write cmd ∈ c'.log → Effect.write cmd ∈ c.log ∨ cmd.uidSet = []) :
    c'.UidsFrom P := by
  refine ⟨hu ▸ h.1, fun cmd hc u hcov => ?_⟩
  rcases hl cmd hc with hc | hs
  · exact h.2 cmd hc u hcov
  · rw [hs] at hcov
    exact absurd hcov (covers_nil u)

/-- The dispatch keeps the collected UIDs or resets them at LOGIN, and every command it writes
carries no sequence set or the collected UIDs. -/
theorem command_log {o : Options} {c c' : Client} (hs : c.state ∈ State.dispatched)
    (h : c.command o = .ok c') :
    (c'.uids = c.uids ∨ c'.uids = []) ∧ ∀ cmd, Effect.write cmd ∈ c'.log →
      Effect.write cmd ∈ c.log ∨ cmd.uidSet = [] ∨ cmd.uidSet = copyUids c.uids := by
  cases command_dispatch hs h
  all_goals
    refine ⟨by simp, fun cmd hcmd => ?_⟩
    simp only [doUidOrSimpleExpunge_eq, request, doWrite, doLogout, doFetch, doSelect, doStore,
      doQuit, doShutdown, stopFetchTimer, startFetchTimer, resumeFetchTimer, register, assign,
      probe, emit, List.mem_append, List.mem_singleton, Effect.write.injEq, reduceCtorEq,
      or_false] at hcmd
    first
    | exact .inl hcmd
    | rcases hcmd with hcmd | rfl
      · exact .inl hcmd
      · first
        | exact .inr (.inl rfl)
        | exact .inr (.inr rfl)
        | split
          · exact .inr (.inr rfl)
          · exact .inr (.inl rfl)

theorem command_uidsFrom {o : Options} {c c' : Client} {P : UInt32 → Prop}
    (hs : c.state ∈ State.dispatched) (h : c.command o = .ok c') (hu : c.UidsFrom P) :
    c'.UidsFrom P := by
  obtain ⟨h₁, h₂⟩ := command_log hs h
  refine ⟨?_, fun cmd hc u hcov => ?_⟩
  · rcases h₁ with h₁ | h₁ <;> rw [h₁]
    exacts [hu.1, by simp]
  · rcases h₂ cmd hc with h | h | h
    · exact hu.2 cmd h u hcov
    · rw [h] at hcov
      exact absurd hcov (covers_nil u)
    · rw [h, covers_copyUids] at hcov
      exact hu.1 u hcov

/-- Every step keeps the provenance {lit}`P` of the UIDs, provided {lit}`P` admits the UID that
{lit}`imap_uid` collects when the step is that callback in FETCHING. -/
theorem step_uidsFrom {o : Options} {c c' : Client} {e : Event} {P : UInt32 → Prop}
    (g : c.Good) (he : c.enabled e = true) (h : c.step o e = .ok c') (hu : c.UidsFrom P)
    (hP : ∀ u, e = .callback (.uid u) → c.state = .fetching → P u) : c'.UidsFrom P := by
  rcases step_cases g he h with ⟨-, -, -, hw, h⟩ | ⟨cb, rfl, ht, h⟩ |
    ⟨-, -, -, ⟨-, rfl⟩ | ⟨-, h⟩⟩ | ⟨-, -, q⟩
  · exact command_uidsFrom (State.succ_mem_dispatched hw) h (hu.of_log rfl (fun _ h => .inl h))
  · obtain ⟨hl, -, -, -, hu' | ⟨n, rfl, hs, hu'⟩, -⟩ := callback_log ht h
    · exact hu.of_log hu' (fun _ h => .inl (hl ▸ h))
    · refine ⟨?_, fun cmd hc => hu.2 cmd (hl ▸ hc)⟩
      rw [hu']
      intro u hu'
      rcases List.mem_append.1 hu' with hu' | hu'
      · exact hu.1 u hu'
      · rw [List.mem_singleton.1 hu']
        exact hP n rfl hs
  · exact hu.of_log rfl fun _ h => by
      simp only [request, doWrite, emit, register, probe, List.mem_append, List.mem_singleton,
        Effect.write.injEq] at h
      rcases h with h | rfl <;> simp [h, Command.uidSet]
  · exact command_uidsFrom (by simp) h (hu.of_log rfl (fun _ h => .inl h))
  · exact hu.of_log q.uids (fun cmd h => .inl (mem_writes.1 (q.writes ▸ mem_writes.2 h)))

/-! ## Along every run -/

/-- {lit}`imap_uid` delivered {lit}`u` in state FETCHING along the history {lit}`h`. -/
def FetchedUid (h : List (State × Event)) (u : UInt32) : Prop :=
  (State.fetching, Event.callback (.uid u)) ∈ h

theorem Run.uidsFrom {o : Options} {c : Client} {h : List (State × Event)} (r : Run o c h) :
    c.UidsFrom (FetchedUid h) := by
  induction r with
  | start => exact ⟨by simp [new, init], by simp [new, init, doSignalWait, doResolve, emit]⟩
  | step r he hs ih =>
    refine step_uidsFrom r.good he hs (ih.mono fun u hu => List.mem_append_left _ hu) ?_
    rintro u rfl hst
    simp [FetchedUid, hst]

/-- Along every run, every collected UID, and every UID that a UID STORE or UID EXPUNGE written
so far covers, was delivered by {lit}`imap_uid` while the session was FETCHING. -/
theorem deleted_uids_fetched {o : Options} {c : Client} {h : List (State × Event)}
    (r : Run o c h) :
    (∀ u ∈ c.uids, (State.fetching, Event.callback (.uid u)) ∈ h) ∧
      ∀ cmd, Effect.write cmd ∈ c.log → ∀ u, Covers cmd.uidSet u →
        (State.fetching, Event.callback (.uid u)) ∈ h :=
  r.uidsFrom

theorem deleted_uids_fetched_stored :
    ∃ h, Run sampleOptions ((new.exec sampleOptions
        (twoBodies ++ [.callback (.taggedStatusEnd "A4" .ok)])).getD new) h ∧
      ((∀ u ∈ ((new.exec sampleOptions
          (twoBodies ++ [.callback (.taggedStatusEnd "A4" .ok)])).getD new).uids,
          (State.fetching, Event.callback (.uid u)) ∈ h) ∧
        ∀ cmd, Effect.write cmd ∈ ((new.exec sampleOptions
            (twoBodies ++ [.callback (.taggedStatusEnd "A4" .ok)])).getD new).log →
          ∀ u, Covers cmd.uidSet u → (State.fetching, Event.callback (.uid u)) ∈ h) :=
  have hx : new.exec sampleOptions (twoBodies ++ [.callback (.taggedStatusEnd "A4" .ok)]) =
      some ((new.exec sampleOptions
        (twoBodies ++ [.callback (.taggedStatusEnd "A4" .ok)])).getD new) := by decide
  let ⟨h, r⟩ := Reachable.exec ⟨[], .start⟩ hx
  ⟨h, r, deleted_uids_fetched r⟩

/-! ## A UID without its message -/

/-- The spec's session up to FETCH, then a FETCH response that carries UID 7 and no body, and
the tagged OK of FETCH: the last command written is a UID STORE {lit}`\Deleted` of UID 7, and the
maildir has received nothing. -/
theorem store_without_body_run :
    (new.exec sampleOptions (toFetching ++ Event.readData ::
        (fetchResponse 1 [.uid 7] ++ [Callback.taggedStatusEnd "A4" .ok]).map Event.callback)).map
      (fun c => (c.writes.getLast?, c.maildir.delivered)) =
    some (some (.uidStore [(7, 7)] [.deleted] .replace true "A5"), []) := by
  decide

/-- A response with its body and one with only a UID: the UID STORE flags both UIDs, and one
message has been delivered. -/
example :
    (fetchingClient.callbacks sampleOptions
        (fetchResponse 1 [.uid 5, .body (some ["BODY1".toList])] ++ fetchResponse 2 [.uid 7] ++
          [.taggedStatusEnd "A4" .ok])).map
      (fun c => (c.writes.getLast?, c.maildir.delivered.length)) =
    .ok (some (.uidStore [(5, 5), (7, 7)] [.deleted] .replace true "A5"), 1) := by
  rfl

end Client

end Imapdl
