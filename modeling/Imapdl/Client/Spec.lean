import Imapdl.Client.Defs

/-!
# imapdl - What each operation of the client does

One lemma per operation of the client, so that the invariants downstream never unfold the
dispatch.  The record operations that do not branch are simp lemmas; {lit}`command` gets the
shape of the source's switch back from its structural encoding, and an inversion lemma lists
every outcome of a dispatch from a state the session can dispatch in.

Main results:

- Theorem {lit}`Client.command_eq`: {lit}`command()` is the switch of the source.
- Theorem {lit}`Client.doCapabilities_eq`: {lit}`do_capabilities` re-enters {lit}`command()`
  one state later when capabilities are known, and asks for them otherwise.
- Theorem {lit}`Client.command_dispatch`: a dispatch is one of the eleven outcomes of
  {lit}`Client.Dispatch`.
- Theorems {lit}`Client.step_quiet` and {lit}`Client.callback_log`: the steps other than the
  greeting timer and the tagged status write no command and leave the session's data alone.
-/

namespace Imapdl
namespace Client

attribute [simp] State.first State.disconnected State.established State.gotInitialCapabilities
  State.loggedIn State.gotCapabilities State.selectedMailbox State.fetching State.fetched
  State.stored State.expunged State.loggingOut State.loggedOut State.end State.last State.succ
  State.waiting State.idle State.dispatched

@[simp] theorem State.lt_def (a b : State) : a < b ↔ a.val < b.val := Iff.rfl

attribute [simp] emit probe assign doSignalWait doResolve doConnect doHandshake doRead doPreLogin
  resumeFetchTimer startFetchTimer stopFetchTimer doShutdown doQuit doWrite register request
  doSelect doFetch doLogout doStore doUidExpunge doExpunge

/-- `do_uid_expunge` and `do_expunge` file their commands under the same state: the two
differ only in the command written. -/
@[simp] theorem doUidOrSimpleExpunge_eq (c : Client) : c.doUidOrSimpleExpunge =
    c.request (if c.hasUidplus then .uidExpunge (copyUids c.uids) else .expunge) .expunged := by
  unfold doUidOrSimpleExpunge
  split <;> rfl

/-- An `Except.map` that succeeded mapped a success. -/
theorem exceptMap_eq_ok {α β : Type} {f : α → β} {x : Except Failure α} {y : β}
    (h : x.map f = .ok y) : ∃ a, x = .ok a ∧ f a = y := by
  cases x with
  | error e => cases h
  | ok a => exact ⟨a, rfl, by simpa [Except.map] using h⟩

/-! ## The dispatch -/

@[simp] theorem assign_state (s : State) (c : Client) : (c.assign s).state = s := rfl

@[simp] theorem probe_state (p : Probe) (c : Client) : (c.probe p).state = c.state := rfl

/-- `command()` is the switch of the source: its structural encoding agrees with it on every
value of `state_`, in range or not. -/
theorem command_eq (o : Options) (c : Client) : c.command o =
    match c.state with
    | .gotInitialCapabilities => (c.probe (.command c.state)).doLogin o
    | .loggedIn => (c.probe (.command c.state)).doCapabilities o
    | .gotCapabilities => .ok ((c.probe (.command c.state)).doSelect o)
    | .selectedMailbox => .ok (c.probe (.command c.state)).doFetchOrLogout
    | .fetched => .ok ((c.probe (.command c.state)).stopFetchTimer.doStoreOrLogout o)
    | .stored => .ok (c.probe (.command c.state)).doUidOrSimpleExpunge
    | .expunged => .ok (c.probe (.command c.state)).doLogout
    | .loggedOut => .ok (c.probe (.command c.state)).doQuit
    | _ => .ok (c.probe (.command c.state)) := by
  obtain ⟨⟨v⟩⟩ := c
  match v with
  | 0 | 1 | 2 | 3 | 4 | 5 | 6 | 7 | 8 | 9 | 10 | 11 | 12 | 13 | 14 => rfl
  | n + 15 =>
    show commandFuel o (15 - (n + 15)) _ = _
    rw [show 15 - (n + 15) = 0 by omega]
    rfl

/-- `do_capabilities`: with capabilities known, `++state_` and `command()`; otherwise a
CAPABILITY request filed under the next state. -/
theorem doCapabilities_eq (o : Options) (c : Client) : c.doCapabilities o =
    if c.capabilities = [] then
      .ok ((c.probe (.capabilities c.state)).request .capability c.state.succ)
    else ((c.probe (.capabilities c.state)).assign c.state.succ).command o := by
  by_cases h : c.capabilities = [] <;> simp [doCapabilities, doCapabilitiesWith, h]

/-- The outcomes of a dispatch from a state {lit}`command()` can be entered in, one per branch of
the source's switch. -/
inductive Dispatch (o : Options) (c : Client) : Client → Prop
  | /-- GOT_INITIAL_CAPABILITIES without LOGINDISABLED: {lit}`do_login` writes LOGIN. -/
    login : c.state = .gotInitialCapabilities → Capability.loginDisabled ∉ c.capabilities →
      Dispatch o c
        ({ ({ c.probe (.command .gotInitialCapabilities) with capabilities := [] }.register
          .loggedIn) with exists_ := 0, recent := 0, uidvalidity := 0, uids := [] }.doWrite
            (.login o.username o.password (tagName c.tags)))
  | /-- LOGGED_IN with no capabilities known: {lit}`do_capabilities` asks for them. -/
    capability : c.state = .loggedIn → c.capabilities = [] →
      Dispatch o c (((c.probe (.command .loggedIn)).probe (.capabilities .loggedIn)).request
        .capability .gotCapabilities)
  | /-- LOGGED_IN with capabilities known: {lit}`do_capabilities` goes on to SELECT. -/
    capabilitiesKnown : c.state = .loggedIn → c.capabilities ≠ [] →
      Dispatch o c (((((c.probe (.command .loggedIn)).probe (.capabilities .loggedIn)).assign
        .gotCapabilities).probe (.command .gotCapabilities)).doSelect o)
  | /-- GOT_CAPABILITIES: {lit}`do_select`. -/
    select : c.state = .gotCapabilities →
      Dispatch o c ((c.probe (.command .gotCapabilities)).doSelect o)
  | /-- SELECTED_MAILBOX with messages: {lit}`do_fetch`. -/
    fetch : c.state = .selectedMailbox → c.exists_ ≠ 0 →
      Dispatch o c (c.probe (.command .selectedMailbox)).doFetch
  | /-- SELECTED_MAILBOX with none: {lit}`do_logout`. -/
    emptyMailbox : c.state = .selectedMailbox → c.exists_ = 0 →
      Dispatch o c (c.probe (.command .selectedMailbox)).doLogout
  | /-- FETCHED with {lit}`delete_after_fetch`: {lit}`do_store`. -/
    store : c.state = .fetched → o.del = true →
      Dispatch o c (c.probe (.command .fetched)).stopFetchTimer.doStore
  | /-- FETCHED without it: {lit}`do_logout`. -/
    keep : c.state = .fetched → o.del = false →
      Dispatch o c (c.probe (.command .fetched)).stopFetchTimer.doLogout
  | /-- STORED: {lit}`do_uid_expunge` or {lit}`do_expunge`. -/
    expunge : c.state = .stored → Dispatch o c (c.probe (.command .stored)).doUidOrSimpleExpunge
  | /-- EXPUNGED: {lit}`do_logout`. -/
    logout : c.state = .expunged → Dispatch o c (c.probe (.command .expunged)).doLogout
  | /-- LOGGED_OUT: {lit}`do_quit`. -/
    quit : c.state = .loggedOut → Dispatch o c (c.probe (.command .loggedOut)).doQuit

/-- A dispatch that succeeds from a state {lit}`command()` can be entered in is one of the
outcomes of {lit}`Dispatch`. -/
theorem command_dispatch {o : Options} {c c' : Client} (hs : c.state ∈ State.dispatched)
    (h : c.command o = .ok c') : Dispatch o c c' := by
  simp only [State.dispatched, List.mem_cons, List.mem_singleton, List.not_mem_nil,
    or_false] at hs
  rcases hs with hs | hs | hs | hs | hs | hs | hs | hs <;>
    simp only [command_eq, hs, Except.ok.injEq] at h
  · unfold doLogin at h
    split at h
    · cases h
    · rename_i hd
      cases h
      exact .login hs (by simpa using hd)
  · rw [doCapabilities_eq] at h
    split at h
    · rename_i hc
      cases h
      simpa [hs] using (Dispatch.capability hs hc : Dispatch o c _)
    · rename_i hc
      have hsucc : c.state.succ = .gotCapabilities := by rw [hs]; rfl
      rw [probe_state, hsucc, command_eq, assign_state] at h
      cases h
      simpa [hs] using (Dispatch.capabilitiesKnown hs hc : Dispatch o c _)
  · exact h ▸ .select hs
  · unfold doFetchOrLogout at h
    split at h
    · exact h ▸ .fetch hs (by assumption)
    · exact h ▸ .emptyMailbox hs (not_not.mp (by assumption))
  · unfold doStoreOrLogout at h
    cases hd : o.del <;> simp only [hd, if_true, if_false, Bool.false_eq_true] at h
    · exact h ▸ .keep hs hd
    · exact h ▸ .store hs hd
  · exact h ▸ .expunge hs
  · exact h ▸ .logout hs
  · exact h ▸ .quit hs

/-- The dispatch never touches the signal count. -/
theorem command_signaled {o : Options} {c c' : Client} (hs : c.state ∈ State.dispatched)
    (h : c.command o = .ok c') : c'.signaled = c.signaled := by
  cases command_dispatch hs h <;> simp

/-- The dispatch clears the capabilities only at LOGIN, from GOT_INITIAL_CAPABILITIES. -/
theorem command_capabilities {o : Options} {c c' : Client} (hs : c.state ∈ State.dispatched)
    (h : c.command o = .ok c') :
    c'.capabilities = if c.state = .gotInitialCapabilities then [] else c.capabilities := by
  cases command_dispatch hs h <;> simp [*]

/-! ## The tagged status -/

/-- A tagged status is accepted only as OK for a registered tag, whose state is assigned before
`command()` runs with the entry erased. -/
theorem imapTaggedStatusEnd_ok {o : Options} {tag : String} {s : Status} {c c' : Client}
    (h : c.imapTaggedStatusEnd o tag s = .ok c') :
    s = .ok ∧ ∃ next, c.tagToState.lookup tag = some next ∧
      ({ c.assign next with tagToState := eraseTag tag c.tagToState }).command o = .ok c' := by
  unfold imapTaggedStatusEnd at h
  split at h
  · cases h
  · rename_i hs
    split at h
    · cases h
    · rename_i next hl
      exact ⟨not_not.mp hs, next, hl, h⟩

/-- The lookup of a registry of one entry. -/
theorem lookup_single {tag t : String} {s next : State} (h : [(t, s)].lookup tag = some next) :
    tag = t ∧ next = s := by
  rw [List.lookup_cons, List.lookup_nil] at h
  split at h
  · rename_i hb
    exact ⟨beq_iff_eq.mp hb, (Option.some.inj h).symm⟩
  · cases h

/-- A chunk of callbacks, one at a time. -/
theorem callbacks_cons (o : Options) (c : Client) (cb : Callback) (cbs : List Callback) :
    c.callbacks o (cb :: cbs) = (c.callback o cb).bind fun c' => c'.callbacks o cbs := rfl

/-! ## The steps that write nothing -/

/-- The tail of the read handler changes only the count of reads armed and the log: outside
LOGGED_OUT it arms the next read. -/
theorem onReadEnd_eq (c : Client) : c.onReadEnd =
    { c with reads := if c.state ≠ .loggedOut then c.reads + 1 else c.reads,
             log := if c.state ≠ .loggedOut then c.log ++ [.read] else c.log } := by
  unfold onReadEnd
  split <;> rfl

/-- The commands handed to {lit}`do_write` so far, in order. -/
def writes (c : Client) : List Command :=
  c.log.filterMap fun
    | .write cmd => some cmd
    | _ => none

theorem mem_writes {c : Client} {cmd : Command} : cmd ∈ c.writes ↔ Effect.write cmd ∈ c.log := by
  simp only [writes, List.mem_filterMap]
  constructor
  · rintro ⟨e, he, h⟩
    cases e <;> simp only [Option.some.injEq, reduceCtorEq] at h
    exact h ▸ he
  · exact fun h => ⟨_, h, rfl⟩

/-- What a completion, a timer tick, a signal or the read handler's ends leave alone: the
session's data and the commands written. -/
structure Quiet (c c' : Client) (e : Event) : Prop where
  state : c'.state = c.state ∨ (∃ r, e = .handshaken r) ∧ c'.state = .established
  tagToState : c'.tagToState = c.tagToState
  tags : c'.tags = c.tags
  capabilities : c'.capabilities = c.capabilities
  exists_ : c'.exists_ = c.exists_
  uids : c'.uids = c.uids
  maildir : c'.maildir = c.maildir
  writes : c'.writes = c.writes
  signaled : c.signaled ≤ c'.signaled

/-- Every step but the greeting timer and the lexer callbacks is quiet. -/
theorem step_quiet {o : Options} {c c' : Client} {e : Event} (hq : ∀ r, e ≠ .loginTimer r)
    (hcb : ∀ cb, e ≠ .callback cb) (h : c.step o e = .ok c') : Quiet c c' e := by
  have quiet : ∀ {c'}, c'.state = c.state → c'.tagToState = c.tagToState → c'.tags = c.tags →
      c'.capabilities = c.capabilities → c'.exists_ = c.exists_ → c'.uids = c.uids →
      c'.maildir = c.maildir → c'.writes = c.writes → c.signaled ≤ c'.signaled → Quiet c c' e :=
    fun a b t d e f g i j => ⟨.inl a, b, t, d, e, f, g, i, j⟩
  cases e with
  | loginTimer r => exact absurd rfl (hq r)
  | callback cb => exact absurd rfl (hcb cb)
  | readData => cases h; exact quiet rfl rfl rfl rfl rfl rfl rfl rfl le_rfl
  | readEnd =>
    simp only [step, onReadEnd, doRead, emit, Except.ok.injEq] at h
    subst h
    split <;> exact quiet rfl rfl rfl rfl rfl rfl rfl (by simp [writes]) (by simp)
  | readFailed ec =>
    simp only [step, onReadError] at h
    split at h
    · cases h; exact quiet rfl rfl rfl rfl rfl rfl rfl rfl le_rfl
    · cases h
  | fetchTimer r =>
    simp only [step, onFetchTimer, resumeFetchTimer, emit] at h
    split at h
    · split at h
      · cases h; exact quiet rfl rfl rfl rfl rfl rfl rfl rfl le_rfl
      · cases h
    · cases h; exact quiet rfl rfl rfl rfl rfl rfl rfl (by simp [writes]) (by simp)
  | signal r n =>
    simp only [step, onSignal, doQuit, doShutdown, doSignalWait, emit] at h
    split at h
    · split at h
      · cases h; exact quiet rfl rfl rfl rfl rfl rfl rfl rfl le_rfl
      · cases h
    · split at h
      · cases h
      · cases h; exact quiet rfl rfl rfl rfl rfl rfl rfl (by simp [writes]) (by simp)
  | shutdown r =>
    simp only [step, onShutdown, emit] at h
    split at h
    · cases h; exact quiet rfl rfl rfl rfl rfl rfl rfl (by simp [writes]) (by simp)
    · split at h
      · cases h; exact quiet rfl rfl rfl rfl rfl rfl rfl (by simp [writes]) (by simp)
      · split at h
        · cases h; exact quiet rfl rfl rfl rfl rfl rfl rfl (by simp [writes]) (by simp)
        · cases h
  | resolved r | connected r =>
    cases r with
    | some ec => cases h
    | none =>
      simp only [step, onResolve, onConnect, doConnect, doHandshake, emit, Except.ok.injEq] at h
      subst h
      exact quiet rfl rfl rfl rfl rfl rfl rfl (by simp [writes]) (by simp)
  | handshaken r =>
    cases r with
    | some ec => cases h
    | none =>
      simp only [step, onHandshake, assign, doRead, doPreLogin, emit, Except.ok.injEq] at h
      subst h
      exact ⟨.inr ⟨⟨none, rfl⟩, rfl⟩, rfl, rfl, rfl, rfl, rfl, rfl, by simp [writes], by simp⟩

/-- A lexer callback other than a tagged status writes nothing, keeps the registry, the tag
counter and the signal count, adds to the capabilities only the one {lit}`imap_capability`
reports or clears them, and adds to the collected UIDs only the one {lit}`imap_uid` reports in
FETCHING. -/
theorem callback_log {o : Options} {c c' : Client} {cb : Callback}
    (hcb : ∀ tag s, cb ≠ .taggedStatusEnd tag s) (h : c.callback o cb = .ok c') :
    c'.log = c.log ∧ c'.tagToState = c.tagToState ∧ c'.signaled = c.signaled ∧ c'.tags = c.tags ∧
      (c'.uids = c.uids ∨ ∃ n, cb = .uid n ∧ c.state = .fetching ∧ c'.uids = c.uids ++ [n]) ∧
      (c'.capabilities = c.capabilities ∨ c'.capabilities = [] ∨
        ∃ x, cb = .capability x ∧ c'.capabilities = c.capabilities.insert x) := by
  cases cb with
  | taggedStatusEnd tag s => exact absurd rfl (hcb tag s)
  | statusCodeCapabilityBegin => cases h; exact ⟨rfl, rfl, rfl, rfl, .inl rfl, .inr (.inl rfl)⟩
  | capability x => cases h; exact ⟨rfl, rfl, rfl, rfl, .inl rfl, .inr (.inr ⟨x, rfl, rfl⟩)⟩
  | bodySectionInner =>
    cases h
    unfold imapBodySectionInner
    split
    · split <;> exact ⟨rfl, rfl, rfl, rfl, .inl rfl, .inl rfl⟩
    · exact ⟨rfl, rfl, rfl, rfl, .inl rfl, .inl rfl⟩
  | bodySectionEnd =>
    simp only [callback, imapBodySectionEnd] at h
    split at h
    · split at h
      · obtain ⟨m, -, rfl⟩ := exceptMap_eq_ok h
        exact ⟨rfl, rfl, rfl, rfl, .inl rfl, .inl rfl⟩
      · cases h; exact ⟨rfl, rfl, rfl, rfl, .inl rfl, .inl rfl⟩
    · cases h; exact ⟨rfl, rfl, rfl, rfl, .inl rfl, .inl rfl⟩
  | uid n =>
    cases h
    unfold imapUid
    split
    · exact ⟨rfl, rfl, rfl, rfl, .inr ⟨n, rfl, by assumption, rfl⟩, .inl rfl⟩
    · exact ⟨rfl, rfl, rfl, rfl, .inl rfl, .inl rfl⟩
  | write bs =>
    cases h
    unfold push
    split <;> exact ⟨rfl, rfl, rfl, rfl, .inl rfl, .inl rfl⟩
  | _ => cases h; exact ⟨rfl, rfl, rfl, rfl, .inl rfl, .inl rfl⟩

end Client
end Imapdl
