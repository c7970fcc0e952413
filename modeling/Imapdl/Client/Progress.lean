import Imapdl.Client.Session
import Imapdl.Client.Refinement

/-!
# imapdl - The session does not get stuck

Two progress properties of the client, over every reachable state.  The tagged OK of the
pending command is always accepted, with one exception that the source intends: the OK that
leads to LOGIN, when the server has announced LOGINDISABLED, raises
{lit}`Cannot login because server has LOGINDISABLED` before LOGIN is written.  Every other
tagged status raises {lit}`Command failed` and every other tag {lit}`Got unknown tag`.  And the
event loop never runs dry before LOGGED_OUT: while DISCONNECTED one completion of the opening
is owed, afterwards a read is owed or the read handler runs, so {lit}`io_service::run` cannot
return in the middle of a session.  Against a server that announces LOGINDISABLED the exception
is reached in every session: the dispatch to LOGIN raises, from the greeting timer or from the
OK of CAPABILITY.

Main definitions:

- Definition {lit}`Client.OpeningOwed`: while DISCONNECTED, one completion of the opening is owed.

Main results:

- Theorem {lit}`Client.command_ok`: a dispatch fails only at LOGIN with LOGINDISABLED.
- Theorem {lit}`Client.login_not_written`: while the OK that leads to LOGIN is pending, no
  LOGIN has been written.
- Theorem {lit}`Client.tagged_status_accepted_iff`: a tagged status is accepted exactly when it
  is the OK of the pending command and does not lead to LOGIN with LOGINDISABLED announced, and
  the message each other status raises.
- Theorem {lit}`Client.loop_runs_until_loggedOut`: what the event loop owes in each phase, and
  that a reachable client that is not LOGGED_OUT has an enabled event.
- Theorem {lit}`Client.session_refused_loginDisabled`: a session against a server announcing
  LOGINDISABLED fails, and the step that raises.
-/

namespace Imapdl

namespace Client

/-! ## The tagged OK of the pending command -/

/-- A dispatch from a state {lit}`command()` can be entered in succeeds, but for LOGIN from
GOT_INITIAL_CAPABILITIES once the server has announced LOGINDISABLED, which raises. -/
theorem command_ok (o : Options) {c : Client} (hs : c.state ∈ State.dispatched) :
    (c.state = .gotInitialCapabilities ∧ Capability.loginDisabled ∈ c.capabilities ∧
        c.command o = .error (.msg "Cannot login because server has LOGINDISABLED")) ∨
      (¬(c.state = .gotInitialCapabilities ∧ Capability.loginDisabled ∈ c.capabilities) ∧
        ∃ c', c.command o = .ok c') := by
  simp only [State.dispatched, List.mem_cons, List.mem_singleton, List.not_mem_nil,
    or_false] at hs
  rcases hs with hs | hs | hs | hs | hs | hs | hs | hs
  · by_cases hd : Capability.loginDisabled ∈ c.capabilities
    · exact .inl ⟨hs, hd, by simp only [command_eq, hs]; simp [doLogin, probe, hd]⟩
    · exact .inr ⟨fun h => hd h.2, by simp only [command_eq, hs]; simp [doLogin, probe, hd]⟩
  all_goals refine .inr ⟨by simp [hs], ?_⟩
  all_goals simp only [command_eq, hs]
  · have hsucc : c.state.succ = .gotCapabilities := by rw [hs]; rfl
    rw [doCapabilities_eq]
    split
    · exact ⟨_, rfl⟩
    · rw [probe_state, hsucc, command_eq, assign_state]
      exact ⟨_, rfl⟩
  all_goals exact ⟨_, rfl⟩

/-- The dispatch to LOGIN raises once the server has announced LOGINDISABLED. -/
theorem command_loginDisabled (o : Options) {c : Client} (hs : c.state = .gotInitialCapabilities)
    (hl : Capability.loginDisabled ∈ c.capabilities) :
    c.command o = .error (.msg "Cannot login because server has LOGINDISABLED") := by
  rcases command_ok o (hs ▸ by decide : c.state ∈ State.dispatched) with ⟨-, -, he⟩ | ⟨hn, -⟩
  · exact he
  · exact absurd ⟨hs, hl⟩ hn

/-- The tagged OK of the pending command assigns the state filed under its tag and dispatches
with the registry emptied. -/
theorem step_taggedOk {o : Options} {c : Client} {tag : String} {next : State}
    (hm : c.tagToState = [(tag, next)]) :
    c.step o (.callback (.taggedStatusEnd tag .ok)) =
      { c.assign next with tagToState := [] }.command o := by
  simp [step, callback, imapTaggedStatusEnd, hm, eraseTag]

/-- While the OK that leads to LOGIN is pending, no LOGIN has been written: the conversation is
still at its first CAPABILITY. -/
theorem login_not_written {o : Options} {c : Client} {tag : String} (hr : Reachable o c)
    (hm : c.tagToState = [(tag, .gotInitialCapabilities)]) (u p t : String) :
    Command.login u p t ∉ c.writes := by
  obtain ⟨h, r⟩ := hr
  have hs : c.state = .established := by
    rcases r.good.tags with ⟨hm', -⟩ | ⟨t', hm', -⟩
    · simp [hm] at hm'
    · simp only [hm, List.cons.injEq, Prod.mk.injEq, and_true] at hm'
      obtain ⟨⟨v⟩⟩ := c
      simp only [State.succ, State.gotInitialCapabilities, State.mk.injEq] at hm'
      simp only [State.established]
      congr
      omega
  have hk := r.trace.login_not_mem (.inr (by simp [stage, hs, hm]))
  exact fun hw => hk (List.mem_map_of_mem Command.kind hw)

/-- From every reachable client, a tagged status is accepted exactly when it is the OK of the
pending command and does not lead to LOGIN once the server has announced LOGINDISABLED.  Any
other status raises {lit}`Command failed`, a tag other than the pending one raises
{lit}`Got unknown tag`, and the OK that leads to LOGIN with LOGINDISABLED announced raises
{lit}`Cannot login because server has LOGINDISABLED`, no LOGIN having been written. -/
theorem tagged_status_accepted_iff {o : Options} {c : Client} (hr : Reachable o c) (tag : String)
    (s : Status) :
    ((∃ c', c.step o (.callback (.taggedStatusEnd tag s)) = .ok c') ↔
      s = .ok ∧ ∃ next, c.tagToState = [(tag, next)] ∧
        ¬(next = .gotInitialCapabilities ∧ Capability.loginDisabled ∈ c.capabilities)) ∧
    (s ≠ .ok → c.step o (.callback (.taggedStatusEnd tag s)) =
      .error (.msg ("Command failed: " ++ s.str ++ " - " ++ String.mk c.buffer))) ∧
    (s = .ok → (∀ next, c.tagToState ≠ [(tag, next)]) →
      c.step o (.callback (.taggedStatusEnd tag s)) = .error (.msg ("Got unknown tag: " ++ tag))) ∧
    (s = .ok → c.tagToState = [(tag, .gotInitialCapabilities)] →
      Capability.loginDisabled ∈ c.capabilities →
      c.step o (.callback (.taggedStatusEnd tag s)) =
          .error (.msg "Cannot login because server has LOGINDISABLED") ∧
        ∀ u p t, Command.login u p t ∉ c.writes) := by
  have g := hr.good
  -- the dispatch the pending OK makes is from a state {lit}`command()` can be entered in
  have hd : ∀ {next}, c.tagToState = [(tag, next)] →
      ({ c.assign next with tagToState := [] } : Client).state ∈ State.dispatched := by
    intro next hm
    rcases g.tags with ⟨hm', -⟩ | ⟨t', hm', hw⟩
    · simp [hm] at hm'
    · simp only [hm, List.cons.injEq, Prod.mk.injEq, and_true] at hm'
      exact show next ∈ State.dispatched from hm'.2 ▸ State.succ_mem_dispatched hw
  refine ⟨⟨?_, ?_⟩, fun hs => by simp [step, callback, imapTaggedStatusEnd, hs], ?_, ?_⟩
  · rintro ⟨c', h⟩
    obtain ⟨rfl, hm, -, hc⟩ := taggedStatusEnd_cases g h
    refine ⟨rfl, _, hm, fun hl => ?_⟩
    rcases command_ok o (hd hm) with ⟨-, -, he⟩ | ⟨hn, -⟩
    · rw [he] at hc
      cases hc
    · exact hn hl
  · rintro ⟨rfl, next, hm, hl⟩
    rcases command_ok o (hd hm) with ⟨h₁, h₂, -⟩ | ⟨-, h⟩
    · exact absurd ⟨h₁, h₂⟩ hl
    · rwa [step_taggedOk hm]
  · rintro rfl hn
    have hl : c.tagToState.lookup tag = none := by
      rcases g.tags with ⟨hm, -⟩ | ⟨t', hm, -⟩
      · simp [hm]
      · have ht : (tag == t') = false := by simpa using fun h => hn _ (h ▸ hm)
        simp [hm, List.lookup_cons, ht]
    simp [step, callback, imapTaggedStatusEnd, hl]
  · rintro rfl hm hl
    exact ⟨(step_taggedOk hm).trans (command_loginDisabled o rfl hl), login_not_written hr hm⟩

theorem tagged_status_accepted_iff_fetching :
    Reachable sampleOptions fetchingClient ∧
      (((∃ c', fetchingClient.step sampleOptions (.callback (.taggedStatusEnd "A4" .ok)) = .ok c') ↔
        Status.ok = .ok ∧ ∃ next, fetchingClient.tagToState = [("A4", next)] ∧
          ¬(next = .gotInitialCapabilities ∧
            Capability.loginDisabled ∈ fetchingClient.capabilities)) ∧
      (Status.ok ≠ .ok → fetchingClient.step sampleOptions (.callback (.taggedStatusEnd "A4" .ok)) =
        .error (.msg ("Command failed: " ++ Status.ok.str ++ " - " ++
          String.mk fetchingClient.buffer))) ∧
      (Status.ok = .ok → (∀ next, fetchingClient.tagToState ≠ [("A4", next)]) →
        fetchingClient.step sampleOptions (.callback (.taggedStatusEnd "A4" .ok)) =
          .error (.msg ("Got unknown tag: " ++ "A4"))) ∧
      (Status.ok = .ok → fetchingClient.tagToState = [("A4", .gotInitialCapabilities)] →
        Capability.loginDisabled ∈ fetchingClient.capabilities →
        fetchingClient.step sampleOptions (.callback (.taggedStatusEnd "A4" .ok)) =
            .error (.msg "Cannot login because server has LOGINDISABLED") ∧
          ∀ u p t, Command.login u p t ∉ fetchingClient.writes)) :=
  ⟨fetchingClient_reachable, tagged_status_accepted_iff fetchingClient_reachable "A4" .ok⟩

/-! ## The event loop runs until LOGGED_OUT -/

/-- While DISCONNECTED, one completion of the opening is owed: that of the resolve, the connect
or the handshake. -/
def OpeningOwed (c : Client) : Prop :=
  c.state = .disconnected → c.resolving + c.connecting + c.handshaking = 1

/-- Every step keeps one completion of the opening owed while DISCONNECTED: the resolve hands
over to the connect and the connect to the handshake, whose completion leaves DISCONNECTED. -/
theorem step_openingOwed {o : Options} {c c' : Client} {e : Event} (g : c.Good)
    (he : c.enabled e = true) (h : c.step o e = .ok c') (ho : c.OpeningOwed) :
    c'.OpeningOwed := by
  intro hd
  rcases step_cases g he h with ⟨-, -, -, hw, h⟩ | ⟨cb, rfl, ht, h⟩ |
    ⟨-, hs, hm, ⟨-, rfl⟩ | ⟨-, h⟩⟩ | ⟨hq, hcb, q⟩
  · exact absurd hd (command_good (State.succ_mem_dispatched hw) rfl (by simp [g.trace]) h).2.2.1
  · have fr := callback_frame ht h
    rw [fr.opening]
    exact ho (fr.state ▸ hd)
  · simp [request, register, doWrite, emit, probe, hs] at hd
  · exact absurd hd (command_good (by simp) (by simp [hm]) (by simp [g.trace, hs]) h).2.2.1
  cases e with
  | loginTimer r => exact absurd rfl (hq r)
  | callback cb => exact absurd rfl (hcb cb)
  | resolved r =>
    cases r with
    | some ec => cases h
    | none =>
      simp only [step, onResolve, doConnect, emit, Except.ok.injEq] at h
      subst h
      simp only [enabled, Bool.and_eq_true, bne_iff_ne] at he
      have := ho hd
      simp only at this ⊢
      omega
  | connected r =>
    cases r with
    | some ec => cases h
    | none =>
      simp only [step, onConnect, doHandshake, emit, Except.ok.injEq] at h
      subst h
      simp only [enabled, Bool.and_eq_true, bne_iff_ne] at he
      have := ho hd
      simp only at this ⊢
      omega
  | handshaken r =>
    cases r with
    | some ec => cases h
    | none =>
      simp only [step, onHandshake, assign, doRead, doPreLogin, emit, Except.ok.injEq] at h
      subst h
      simp at hd
  | readFailed ec | readData =>
    simp only [enabled, Bool.and_eq_true, bne_iff_ne] at he
    rcases q.state with hs | ⟨⟨r, ⟨⟩⟩, -⟩
    exact absurd (hs ▸ hd) (g.reads_pos he.2).2.1
  | readEnd =>
    rcases q.state with hs | ⟨⟨r, ⟨⟩⟩, -⟩
    exact absurd (hs ▸ hd) (g.inRead he)
  | fetchTimer r | signal r _ | shutdown r =>
    simp only [step, onFetchTimer, onSignal, onShutdown, resumeFetchTimer, doSignalWait, doQuit,
      doShutdown, emit] at h
    repeat' split at h
    all_goals first | (cases h; exact ho hd) | cases h

theorem Reachable.openingOwed {o : Options} {c : Client} (hr : Reachable o c) : c.OpeningOwed := by
  obtain ⟨_, r⟩ := hr
  induction r with
  | start => exact fun _ => rfl
  | step r he hs ih => exact step_openingOwed r.good he hs ih

/-- The event loop always has a handler to run until the session is LOGGED_OUT.  While
DISCONNECTED exactly one completion of the opening is owed (that of the resolve, the connect or
the handshake) and no read; afterwards, until LOGGED_OUT, one read is owed between handlers or
the read handler is running.  So a reachable client that is not LOGGED_OUT has an opening
completion, a read or the rest of a read enabled. -/
theorem loop_runs_until_loggedOut {o : Options} {c : Client} (hr : Reachable o c) :
    (c.state = .disconnected →
      c.resolving + c.connecting + c.handshaking = 1 ∧ c.inRead = false ∧ c.reads = 0) ∧
    (c.state ≠ .disconnected → c.state ≠ .loggedOut →
      (c.inRead = false ∧ c.reads = 1) ∨ c.inRead = true) ∧
    (c.state = .loggedOut ∨
      ∃ e ∈ [Event.resolved none, .connected none, .handshaken none, .readData, .readEnd],
        c.enabled e = true) := by
  have g := hr.good
  have hdis : c.state = .disconnected →
      c.resolving + c.connecting + c.handshaking = 1 ∧ c.inRead = false ∧ c.reads = 0 := by
    intro hd
    have hi : c.inRead = false := Bool.not_eq_true _ ▸ mt g.inRead (not_not.2 hd)
    exact ⟨hr.openingOwed hd, hi, by rw [g.reads, if_neg (by simp [hd])]⟩
  have hafter : c.state ≠ .disconnected → c.state ≠ .loggedOut →
      (c.inRead = false ∧ c.reads = 1) ∨ c.inRead = true := by
    intro hd hlo
    cases hi : c.inRead
    · exact .inl ⟨rfl, by rw [g.reads, if_pos ⟨hi, hd, hlo⟩]⟩
    · exact .inr rfl
  refine ⟨hdis, hafter, or_iff_not_imp_left.2 fun hlo => ?_⟩
  by_cases hd : c.state = .disconnected
  · obtain ⟨h1, hi, -⟩ := hdis hd
    have : c.resolving ≠ 0 ∨ c.connecting ≠ 0 ∨ c.handshaking ≠ 0 := by omega
    rcases this with h | h | h
    exacts [⟨.resolved none, by simp, by simp [enabled, hi, h]⟩,
      ⟨.connected none, by simp, by simp [enabled, hi, h]⟩,
      ⟨.handshaken none, by simp, by simp [enabled, hi, h]⟩]
  · rcases hafter hd hlo with ⟨hi, h1⟩ | hi
    · exact ⟨.readData, by simp, by simp [enabled, hi, h1]⟩
    · exact ⟨.readEnd, by simp, hi⟩

/-- The client once the resolve has completed: still DISCONNECTED, with the connect owed. -/
def connectingClient : Client := (new.exec sampleOptions [.resolved none]).getD new

theorem connectingClient_reachable : Reachable sampleOptions connectingClient :=
  Reachable.exec ⟨[], .start⟩ (show new.exec sampleOptions [.resolved none] = some _ by decide)

theorem loop_runs_until_loggedOut_opening :
    (Reachable sampleOptions connectingClient ∧
      ((connectingClient.state = .disconnected →
        connectingClient.resolving + connectingClient.connecting + connectingClient.handshaking =
            1 ∧ connectingClient.inRead = false ∧ connectingClient.reads = 0) ∧
      (connectingClient.state ≠ .disconnected → connectingClient.state ≠ .loggedOut →
        (connectingClient.inRead = false ∧ connectingClient.reads = 1) ∨
          connectingClient.inRead = true) ∧
      (connectingClient.state = .loggedOut ∨
        ∃ e ∈ [Event.resolved none, .connected none, .handshaken none, .readData, .readEnd],
          connectingClient.enabled e = true))) ∧
    (Reachable sampleOptions fetchingClient ∧
      ((fetchingClient.state = .disconnected →
        fetchingClient.resolving + fetchingClient.connecting + fetchingClient.handshaking = 1 ∧
          fetchingClient.inRead = false ∧ fetchingClient.reads = 0) ∧
      (fetchingClient.state ≠ .disconnected → fetchingClient.state ≠ .loggedOut →
        (fetchingClient.inRead = false ∧ fetchingClient.reads = 1) ∨
          fetchingClient.inRead = true) ∧
      (fetchingClient.state = .loggedOut ∨
        ∃ e ∈ [Event.resolved none, .connected none, .handshaken none, .readData, .readEnd],
          fetchingClient.enabled e = true))) :=
  ⟨⟨connectingClient_reachable, loop_runs_until_loggedOut connectingClient_reachable⟩,
    ⟨fetchingClient_reachable, loop_runs_until_loggedOut fetchingClient_reachable⟩⟩

/-! ## A server that disables LOGIN -/

/-- With LOGINDISABLED known, the greeting timer raises. -/
theorem Greeted.step_refused {o : Options} {c : Client} (h : c.Greeted o)
    (hl : Capability.loginDisabled ∈ c.capabilities) :
    c.step o (.loginTimer none) =
      .error (.msg "Cannot login because server has LOGINDISABLED") := by
  rw [h.step_loginTimer (List.ne_nil_of_mem hl)]
  simp [doLogin, probe, assign, hl]

/-- A waiting client reads the data of the server's answer: the read handler starts, with no
read left armed, and runs the answer's callbacks. -/
theorem Waits.exec_answer {o : Options} {c c₁ : Client} {cmd : Command} {next : State}
    (w : c.Waits o cmd next) (s : Server)
    (hd : { c with reads := 0, inRead := true }.callbacks o (s.answer cmd).2 = .ok c₁) :
    c.exec o (.readData :: (s.answer cmd).2.map .callback) = some c₁ := by
  have h1 : c.reads = 1 := w.reads_next.1
  have he : c.enabled .readData = true := by simp [enabled, w.inRead, h1]
  have hr₁ : Reachable o { c with reads := 0, inRead := true } := by
    simpa [h1] using w.reachable.step he rfl
  obtain ⟨-, -, hx⟩ := exec_callbacks hr₁ rfl hd
  simpa [exec, he, step, h1] using hx []

/-- The first CAPABILITY answered with LOGINDISABLED in the server's list: the read brings the
list, and the OK that follows raises in the dispatch to LOGIN. -/
theorem Waits.capability_refused {o : Options} {s : Server} {c : Client} {t : String}
    (w : c.Waits o (.capability t) .gotInitialCapabilities) (hc0 : c.capabilities = [])
    (hd : Capability.loginDisabled ∈ s.capabilities) :
    ∃ c₂, c.exec o (.readData :: (s.answer (.capability t)).2.map .callback) = some c₂ ∧
      c₂.step o (.callback (.taggedStatusEnd t .ok)) =
        .error (.msg "Cannot login because server has LOGINDISABLED") := by
  let c₂ : Client := { c with reads := 0, inRead := true, capabilities := known s.capabilities }
  have hm : c₂.tagToState = [(t, .gotInitialCapabilities)] := w.registry
  exact ⟨c₂, w.exec_answer s (callbacks_capabilityResponse o s hc0),
    (step_taggedOk hm).trans (command_loginDisabled o rfl (mem_known.2 hd))⟩

/-- So the round of that CAPABILITY ends the conversation. -/
theorem round_initialCapability_refused {o : Options} {s : Server} {c : Client} {t : String}
    (w : c.Waits o (.capability t) .gotInitialCapabilities) (hc0 : c.capabilities = [])
    (hd : Capability.loginDisabled ∈ s.capabilities) : round o (c, s) = none :=
  w.round_error s { c with reads := 0, inRead := true, capabilities := known s.capabilities }
    (callbacks_capabilityResponse o s hc0) rfl (command_loginDisabled o rfl (mem_known.2 hd))

/-- A session against a server that announces LOGINDISABLED, in its greeting or only in its
answer to CAPABILITY, fails, and the step that raises is the dispatch to LOGIN: the greeting
timer when the greeting reported the capabilities, and otherwise the OK of the CAPABILITY the
timer wrote, once the read of its answer has brought the list. -/
theorem session_refused_loginDisabled (o : Options) (s : Server)
    (hd : Capability.loginDisabled ∈ s.capabilities) :
    session o s = none ∧
      ∃ c, new.exec o ([.resolved none, .connected none, .handshaken none] ++
          readChunk s.greeting) = some c ∧
        (s.inGreeting = true → c.step o (.loginTimer none) =
          .error (.msg "Cannot login because server has LOGINDISABLED")) ∧
        (s.inGreeting = false → ∃ c₁ t c₂, c.exec o [.loginTimer none] = some c₁ ∧
          c₁.writes.getLast? = some (.capability t) ∧
          c₁.exec o (.readData :: (s.answer (.capability t)).2.map .callback) = some c₂ ∧
          c₂.step o (.callback (.taggedStatusEnd t .ok)) =
            .error (.msg "Cannot login because server has LOGINDISABLED")) := by
  obtain ⟨cR, hR, h, hg⟩ := exec_greeting o s
  have hx : new.exec o (opening s) = cR.exec o [.loginTimer none] := by
    rw [opening, exec_append, hR]
    rfl
  cases hi : s.inGreeting
  · rw [hi, if_neg Bool.false_ne_true] at hg
    obtain ⟨c, hc, -, -, hcap, t, w⟩ := h.ask hg
    obtain ⟨c₂, hx₂, he⟩ := w.capability_refused hcap hd
    have hround := round_initialCapability_refused w hcap hd
    refine ⟨by simp [session, hx, hc, converse, w.registry, hround], cR, hR, nofun,
      fun _ => ⟨c, t, c₂, hc, w.last, hx₂, he⟩⟩
  · have hl : Capability.loginDisabled ∈ cR.capabilities := by
      rw [hg, hi, if_pos rfl]
      exact mem_known.2 hd
    have he := h.step_refused hl
    refine ⟨by rw [session, hx]; simp [exec, h.timer_enabled, he], cR, hR, fun _ => he, nofun⟩

theorem session_refused_loginDisabled_sample :
    Capability.loginDisabled ∈
        ({ sampleServer with capabilities := [.loginDisabled] } : Server).capabilities ∧
      session sampleOptions { sampleServer with capabilities := [.loginDisabled] } = none ∧
      ∃ c, new.exec sampleOptions ([.resolved none, .connected none, .handshaken none] ++
          readChunk ({ sampleServer with capabilities := [.loginDisabled] } : Server).greeting) =
          some c ∧
        (({ sampleServer with capabilities := [.loginDisabled] } : Server).inGreeting = true →
          c.step sampleOptions (.loginTimer none) =
            .error (.msg "Cannot login because server has LOGINDISABLED")) ∧
        (({ sampleServer with capabilities := [.loginDisabled] } : Server).inGreeting = false →
          ∃ c₁ t c₂, c.exec sampleOptions [.loginTimer none] = some c₁ ∧
            c₁.writes.getLast? = some (.capability t) ∧
            c₁.exec sampleOptions (.readData ::
              (({ sampleServer with capabilities := [.loginDisabled] } : Server).answer
                (.capability t)).2.map .callback) = some c₂ ∧
            c₂.step sampleOptions (.callback (.taggedStatusEnd t .ok)) =
              .error (.msg "Cannot login because server has LOGINDISABLED")) :=
  have hd : Capability.loginDisabled ∈
      ({ sampleServer with capabilities := [.loginDisabled] } : Server).capabilities := by decide
  ⟨hd, session_refused_loginDisabled sampleOptions _ hd⟩

end Client

end Imapdl
