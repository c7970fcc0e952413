import Imapdl.Client.Ingest

/-!
# imapdl - The timers, the signal set and the fetch statistics

The client starts asynchronous waits on two timers and a signal set: on {lit}`login_timer_` at
the handshake, on {lit}`fetch_timer_` at FETCH and again from each tick, and on {lit}`signals_`
in the constructor and again from the first signal.  In every run each of them has at most one
wait pending, and {lit}`fetch_timer_` none before FETCHING: a wait is started only from the
handler of the one it replaces, or when none was ever started.  So the
{lit}`expires_from_now` of {lit}`resume_fetch_timer` never cancels a pending wait, and the ticks
form one chain.  The count {lit}`print_fetch_stats` reports, {lit}`fetched_messages_`, is in every
run the number of files delivered into the maildir.

Main definitions:

- Structure {lit}`Client.SingleWaits`: at most one wait pending on {lit}`fetch_timer_` and on
  {lit}`signals_`, and none on {lit}`fetch_timer_` before FETCHING.
- Definition {lit}`Client.StatsAgree`: {lit}`fetched_messages_` counts the files delivered.

Main results:

- Theorem {lit}`Client.waits_single`: every reachable state has at most one wait pending on each
  timer and on the signal set, and none on the fetch timer before FETCHING.
- Theorem {lit}`Client.fetched_messages_delivered`: every reachable state counts exactly the files
  delivered.
-/

namespace Imapdl

namespace Client

/-- At most one wait pending on {lit}`fetch_timer_` and on {lit}`signals_`, and none on
{lit}`fetch_timer_` before FETCHING. -/
structure SingleWaits (c : Client) : Prop where
  fetch : c.fetchWaits ≤ 1
  signal : c.signalWaits ≤ 1
  beforeFetch : c.state < .fetching → c.fetchWaits = 0

/-- {lit}`fetched_messages_` counts the files delivered into the maildir. -/
def StatsAgree (c : Client) : Prop := c.fetchedMessages = c.maildir.delivered.length

theorem new_singleWaits : new.SingleWaits := ⟨by decide, by decide, fun _ => rfl⟩

theorem new_statsAgree : new.StatsAgree := rfl

/-! ## What each kind of step does to the waits and the count -/

/-- A dispatch leaves the signal wait and the count alone, and starts a wait on the fetch timer
only at FETCH, from SELECTED_MAILBOX; every other dispatch leaves the state no lower. -/
theorem command_waits {o : Options} {c c' : Client} (hs : c.state ∈ State.dispatched)
    (h : c.command o = .ok c') :
    c'.signalWaits = c.signalWaits ∧ c'.fetchedMessages = c.fetchedMessages ∧
      (c'.fetchWaits = c.fetchWaits ∧ c.state.val ≤ c'.state.val ∨
        c.state = .selectedMailbox ∧ c'.state = .fetching ∧ c'.fetchWaits = c.fetchWaits + 1) := by
  cases command_dispatch hs h <;>
    simp [doLogout, doFetch, doStore, doUidOrSimpleExpunge_eq, doSelect, *]

/-- A lexer callback starts no wait, and counts a file exactly when it delivers one. -/
theorem callback_waits {o : Options} {c c' : Client} {cb : Callback}
    (hcb : ∀ tag s, cb ≠ .taggedStatusEnd tag s) (h : c.callback o cb = .ok c') :
    c'.fetchWaits = c.fetchWaits ∧ c'.signalWaits = c.signalWaits ∧
      (c.StatsAgree → c'.StatsAgree) := by
  cases cb with
  | taggedStatusEnd tag s => exact absurd rfl (hcb tag s)
  | bodySectionInner =>
    cases h
    unfold imapBodySectionInner
    split
    · split <;> exact ⟨rfl, rfl, id⟩
    · exact ⟨rfl, rfl, id⟩
  | bodySectionEnd =>
    simp only [callback, imapBodySectionEnd] at h
    split at h
    · split at h
      · obtain ⟨m, hm, rfl⟩ := exceptMap_eq_ok h
        refine ⟨rfl, rfl, fun hc => ?_⟩
        split at hm <;>
        · simp only [StatsAgree] at hc ⊢
          rw [Maildir.moveTo_length hm, hc]
      · cases h; exact ⟨rfl, rfl, id⟩
    · cases h; exact ⟨rfl, rfl, id⟩
  | uid n =>
    cases h
    unfold imapUid
    split <;> exact ⟨rfl, rfl, id⟩
  | write bs =>
    cases h
    unfold push
    split <;> exact ⟨rfl, rfl, id⟩
  | _ => cases h; exact ⟨rfl, rfl, id⟩

/-- A completion, a tick, a signal or an end of the read handler starts a wait on the fetch timer
or the signal set only from the handler of the wait it completes, and counts no file. -/
theorem quiet_waits {o : Options} {c c' : Client} {e : Event} (he : c.enabled e = true)
    (hq : ∀ r, e ≠ .loginTimer r) (hcb : ∀ cb, e ≠ .callback cb) (h : c.step o e = .ok c') :
    c'.fetchWaits ≤ c.fetchWaits ∧ c'.signalWaits ≤ c.signalWaits ∧
      c'.fetchedMessages = c.fetchedMessages ∧ c'.maildir = c.maildir := by
  cases e with
  | loginTimer r => exact absurd rfl (hq r)
  | callback cb => exact absurd rfl (hcb cb)
  | _ =>
    simp only [enabled, Bool.and_eq_true, bne_iff_ne] at he
    simp only [step, onResolve, onConnect, onHandshake, onFetchTimer, onSignal, onShutdown,
      onReadError, onReadEnd] at h
    repeat' split at h
    all_goals cases h <;> simp <;> omega

/-! ## Every step keeps the waits single and the count right -/

/-- A step that starts no wait and leaves the state no lower keeps the waits single. -/
theorem SingleWaits.mono {c c' : Client} (a : c.SingleWaits) (hf : c'.fetchWaits ≤ c.fetchWaits)
    (hs : c'.signalWaits ≤ c.signalWaits) (hst : c.state.val ≤ c'.state.val) :
    c'.SingleWaits where
  fetch := hf.trans a.fetch
  signal := hs.trans a.signal
  beforeFetch h := Nat.le_zero.1 (hf.trans_eq (a.beforeFetch (Nat.lt_of_le_of_lt hst h)))

/-- A dispatch keeps the waits single when it starts from a client with the waits of one that
keeps them single, and no lower in the session: the one dispatch that arms the fetch timer runs
before FETCHING, where no wait is pending on it. -/
theorem SingleWaits.command {o : Options} {c c₀ c' : Client} (a : c.SingleWaits)
    (h : c₀.command o = .ok c') (hs : c₀.state ∈ State.dispatched)
    (hf : c₀.fetchWaits = c.fetchWaits) (hsig : c₀.signalWaits = c.signalWaits)
    (hst : c.state.val ≤ c₀.state.val) : c'.SingleWaits := by
  obtain ⟨hsig', -, ⟨hf', hst'⟩ | ⟨hsel, hst', hf'⟩⟩ := command_waits hs h
  · exact a.mono (by omega) (by omega) (hst.trans hst')
  · have h0 : c.fetchWaits = 0 :=
      a.beforeFetch (Nat.lt_of_le_of_lt hst (by rw [hsel]; decide))
    have := a.signal
    refine ⟨by omega, by omega, fun hb => ?_⟩
    rw [hst'] at hb
    exact absurd hb (by decide)

/-- Every step keeps at most one wait pending on the fetch timer and on the signal set, and none on
the fetch timer before FETCHING. -/
theorem step_singleWaits {o : Options} {c c' : Client} {e : Event} (g : c.Good)
    (he : c.enabled e = true) (h : c.step o e = .ok c') (a : c.SingleWaits) : c'.SingleWaits := by
  rcases step_cases g he h with ⟨-, -, -, hw, h⟩ | ⟨cb, rfl, ht, h⟩ |
    ⟨-, hs, -, ⟨-, rfl⟩ | ⟨-, h⟩⟩ | ⟨hq, hcb, q⟩
  · exact a.command h (State.succ_mem_dispatched hw) rfl rfl (Nat.le_succ _)
  · obtain ⟨hf, hsig, -⟩ := callback_waits ht h
    exact a.mono hf.le hsig.le (by rw [(callback_frame ht h).state])
  · exact a.mono le_rfl le_rfl le_rfl
  · exact a.command h (by simp) rfl rfl (by simp [hs])
  obtain ⟨hf, hsig, -⟩ := quiet_waits he hq hcb h
  refine a.mono hf hsig ?_
  rcases q.state with hst | ⟨⟨r, rfl⟩, hst⟩
  · rw [hst]
  · simp only [enabled, Bool.and_eq_true, bne_iff_ne] at he
    rw [g.openingState (by omega), hst]
    decide

theorem Reachable.singleWaits {o : Options} {c : Client} (hr : Reachable o c) : c.SingleWaits := by
  obtain ⟨_, r⟩ := hr
  induction r with
  | start => exact new_singleWaits
  | step r he hs ih => exact step_singleWaits r.good he hs ih

/-- A step that counts no file and delivers none keeps the count right. -/
theorem StatsAgree.of_eq {c c' : Client} (a : c.StatsAgree)
    (hf : c'.fetchedMessages = c.fetchedMessages) (hm : c'.maildir = c.maildir) :
    c'.StatsAgree := by
  rw [StatsAgree, hf, hm]
  exact a

/-- Every step keeps {lit}`fetched_messages_` the number of files delivered. -/
theorem step_statsAgree {o : Options} {c c' : Client} {e : Event} (g : c.Good)
    (he : c.enabled e = true) (h : c.step o e = .ok c') (a : c.StatsAgree) : c'.StatsAgree := by
  rcases step_cases g he h with ⟨-, -, -, hw, h⟩ | ⟨cb, rfl, ht, h⟩ |
    ⟨-, hs, -, ⟨-, rfl⟩ | ⟨-, h⟩⟩ | ⟨hq, hcb, q⟩
  · have hd := State.succ_mem_dispatched hw
    exact a.of_eq ((command_waits hd h).2.1 :) (command_maildir hd h :)
  · exact (callback_waits ht h).2.2 a
  · exact a
  · have hd : State.gotInitialCapabilities ∈ State.dispatched := by decide
    exact a.of_eq ((command_waits hd h).2.1 :) (command_maildir hd h :)
  · obtain ⟨-, -, hf, hm⟩ := quiet_waits he hq hcb h
    exact a.of_eq hf hm

theorem Reachable.statsAgree {o : Options} {c : Client} (hr : Reachable o c) : c.StatsAgree := by
  obtain ⟨_, r⟩ := hr
  induction r with
  | start => exact new_statsAgree
  | step r he hs ih => exact step_statsAgree r.good he hs ih

/-! ## Over every run -/

/-- In every reachable state at most one wait is pending on each of {lit}`login_timer_`,
{lit}`fetch_timer_` and {lit}`signals_`, and none on {lit}`fetch_timer_` before FETCHING: a wait
is started only when no other is pending on the same object, so the {lit}`expires_from_now` of
{lit}`resume_fetch_timer` never cancels one. -/
theorem waits_single {o : Options} {c : Client} (hr : Reachable o c) :
    c.loginWaits ≤ 1 ∧ c.fetchWaits ≤ 1 ∧ c.signalWaits ≤ 1 ∧
      (c.state < .fetching → c.fetchWaits = 0) := by
  have a := hr.singleWaits
  refine ⟨?_, a.fetch, a.signal, a.beforeFetch⟩
  by_cases h0 : c.loginWaits = 0
  · omega
  · exact (hr.good.greeting h0).1.le

theorem waits_single_fetching :
    Reachable sampleOptions fetchingClient ∧
      fetchingClient.loginWaits ≤ 1 ∧ fetchingClient.fetchWaits ≤ 1 ∧
        fetchingClient.signalWaits ≤ 1 ∧
          (fetchingClient.state < .fetching → fetchingClient.fetchWaits = 0) :=
  ⟨fetchingClient_reachable, waits_single fetchingClient_reachable⟩

/-- In every reachable state {lit}`fetched_messages_`, the count {lit}`print_fetch_stats` reports,
is the number of files moved into {lit}`new/` or {lit}`cur/`. -/
theorem fetched_messages_delivered {o : Options} {c : Client} (hr : Reachable o c) :
    c.fetchedMessages = c.maildir.delivered.length :=
  hr.statsAgree

theorem fetched_messages_delivered_twoBodies :
    Reachable sampleOptions ((new.exec sampleOptions twoBodies).getD new) ∧
      ((new.exec sampleOptions twoBodies).getD new).fetchedMessages =
        ((new.exec sampleOptions twoBodies).getD new).maildir.delivered.length :=
  have hx : new.exec sampleOptions twoBodies =
      some ((new.exec sampleOptions twoBodies).getD new) := by decide
  have hr := Reachable.exec ⟨[], .start⟩ hx
  ⟨hr, fetched_messages_delivered hr⟩

end Client

end Imapdl
