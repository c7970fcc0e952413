import Imapdl.Client.Spec

/-!
# imapdl - The invariant of every run

Whatever the server sends, in whatever order the greeting timer, the signals and the timers
interleave with it, the session keeps one inductive invariant {lit}`Client.Good`: the tag
registry holds at most the tag of the one pending command, filed under the next state; the
opening handshake and the greeting timer happen once and in order; exactly one read is
pending between handlers until the session logs out; and the ghost records of the log say
that every assignment to {lit}`state_` increases it and that {lit}`command()` and
{lit}`do_capabilities` run only in the states the dispatch table foresees.

Main results:

- Theorem {lit}`Client.step_good`: every step of the event loop keeps the invariant.
- Theorem {lit}`Client.step_cases`: what a step from a client of the invariant can be; the
  invariants of the later modules are proved from it, one case each.
- Theorem {lit}`Client.session_invariant`: the registry, the range of {lit}`state_` and the
  control flow after every event of every run.
- Theorem {lit}`Client.single_read`: one read at a time, and none while logged out, so a read
  error in LOGGED_OUT, the case the read handler swallows, never happens.
-/

namespace Imapdl

/-- The ghost records the dispatch table foresees: an assignment increases `state_`,
`do_capabilities` runs in ESTABLISHED or LOGGED_IN, and `command()` is entered in a
dispatched state. -/
def Probe.Sound : Probe → Prop
  | .assign a b => a < b
  | .capabilities s => s = .established ∨ s = .loggedIn
  | .command s => s ∈ State.dispatched

@[simp] theorem Probe.sound_assign (a b : State) : (Probe.assign a b).Sound ↔ a < b := Iff.rfl

@[simp] theorem Probe.sound_capabilities (s : State) :
    (Probe.capabilities s).Sound ↔ s = .established ∨ s = .loggedIn := Iff.rfl

@[simp] theorem Probe.sound_command (s : State) :
    (Probe.command s).Sound ↔ s ∈ State.dispatched := Iff.rfl

/-- Every record of a trace is one the dispatch table foresees. -/
def TraceSound (t : List Probe) : Prop := ∀ p ∈ t, p.Sound

@[simp] theorem traceSound_nil : TraceSound [] := by simp [TraceSound]

@[simp] theorem traceSound_cons (p : Probe) (t : List Probe) :
    TraceSound (p :: t) ↔ p.Sound ∧ TraceSound t := List.forall_mem_cons

@[simp] theorem traceSound_append (t₁ t₂ : List Probe) :
    TraceSound (t₁ ++ t₂) ↔ TraceSound t₁ ∧ TraceSound t₂ := List.forall_mem_append

namespace Client

/-- The registry is empty while no command is pending, and holds the pending command's tag,
filed under the next state, otherwise. -/
def TagsAgree (c : Client) : Prop :=
  (c.tagToState = [] ∧ c.state ∈ State.idle) ∨
    ∃ t, c.tagToState = [(t, c.state.succ)] ∧ c.state ∈ State.waiting

/-- The invariant of the session. -/
structure Good (c : Client) : Prop where
  tags : c.TagsAgree
  opening : c.resolving + c.connecting + c.handshaking ≤ 1
  openingState : c.resolving + c.connecting + c.handshaking ≠ 0 → c.state = .disconnected
  greeting : c.loginWaits ≠ 0 → c.loginWaits = 1 ∧ c.state = .established ∧ c.tagToState = []
  reads : c.reads = if c.inRead = false ∧ c.state ≠ .disconnected ∧ c.state ≠ .loggedOut
    then 1 else 0
  inRead : c.inRead = true → c.state ≠ .disconnected
  trace : TraceSound c.trace

theorem new_good : new.Good where
  tags := .inl ⟨rfl, by simp [new, init]⟩
  opening := by simp [new, init]
  openingState := fun _ => rfl
  greeting := by simp [new, init]
  reads := by simp [new, init]
  inRead := by simp [new, init]
  trace := by simp [new, init]

/-! ## The dispatch keeps the invariant -/

/-- A dispatch from a dispatched state with the registry empty files the next command's tag,
logs only sound records, leaves the reads, the greeting timer and the opening alone, and
reaches LOGGED_OUT only from LOGGED_OUT. -/
theorem command_good {o : Options} {c c' : Client} (hs : c.state ∈ State.dispatched)
    (hm : c.tagToState = []) (hl : TraceSound c.trace) (h : c.command o = .ok c') :
    c'.TagsAgree ∧ TraceSound c'.trace ∧ c'.state ≠ .disconnected ∧
      (c'.state = .loggedOut ↔ c.state = .loggedOut) ∧ c'.reads = c.reads ∧
      c'.inRead = c.inRead ∧ c'.loginWaits = c.loginWaits ∧ c'.resolving = c.resolving ∧
      c'.connecting = c.connecting ∧ c'.handshaking = c.handshaking := by
  cases command_dispatch hs h <;> simp [TagsAgree, setTag, hm, hl, *]

/-! ## Every step keeps the invariant -/

/-- What the steps that do not advance the session leave alone. -/
structure SessionFrame (c c' : Client) : Prop where
  state : c'.state = c.state
  tagToState : c'.tagToState = c.tagToState
  opening : c'.resolving + c'.connecting + c'.handshaking =
    c.resolving + c.connecting + c.handshaking
  loginWaits : c'.loginWaits = c.loginWaits
  reads : c'.reads = c.reads
  inRead : c'.inRead = c.inRead
  trace : c'.trace = c.trace

/-- A step that does not advance the session keeps the invariant. -/
theorem Good.frame {c c' : Client} (g : c.Good) (f : SessionFrame c c') : c'.Good where
  tags := by unfold TagsAgree; rw [f.state, f.tagToState]; exact g.tags
  opening := f.opening ▸ g.opening
  openingState := by rw [f.opening, f.state]; exact g.openingState
  greeting := by rw [f.loginWaits, f.state, f.tagToState]; exact g.greeting
  reads := by rw [f.reads, f.inRead, f.state]; exact g.reads
  inRead := by rw [f.inRead, f.state]; exact g.inRead
  trace := f.trace ▸ g.trace

theorem Good.reads_of_inRead {c : Client} (g : c.Good) (hi : c.inRead = true) : c.reads = 0 := by
  rw [g.reads, if_neg (by simp [hi])]

theorem Good.reads_pos {c : Client} (g : c.Good) (hr : c.reads ≠ 0) :
    c.inRead = false ∧ c.state ≠ .disconnected ∧ c.state ≠ .loggedOut := by
  have h := g.reads
  split at h
  · assumption
  · omega

theorem Good.state_of_opening {c : Client} (g : c.Good) (hs : c.state ≠ .disconnected) :
    c.resolving + c.connecting + c.handshaking = 0 :=
  Classical.byContradiction fun h => hs (g.openingState h)

theorem Good.loginWaits_of_pending {c : Client} (g : c.Good) (hm : c.tagToState ≠ []) :
    c.loginWaits = 0 :=
  Classical.byContradiction fun h => hm (g.greeting h).2.2

theorem State.succ_mem_dispatched {s : State} (hs : s ∈ State.waiting) :
    s.succ ∈ State.dispatched :=
  State.dispatched_eq_map_succ ▸ List.mem_map_of_mem _ hs

/-- The greeting timer fires in ESTABLISHED with the registry empty: with no capabilities it
asks for them, otherwise it dispatches from GOT_INITIAL_CAPABILITIES. -/
theorem loginTimer_cases {o : Options} {c c' : Client} (g : c.Good) (hw : c.loginWaits ≠ 0)
    (h : { c with loginWaits := c.loginWaits - 1 }.doCapabilities o = .ok c') :
    c.state = .established ∧ c.tagToState = [] ∧
      ((c.capabilities = [] ∧ c' = ({ c with loginWaits := c.loginWaits - 1 }.probe
          (.capabilities .established)).request .capability .gotInitialCapabilities) ∨
        (c.capabilities ≠ [] ∧ (({ c with loginWaits := c.loginWaits - 1 }.probe
          (.capabilities .established)).assign .gotInitialCapabilities).command o = .ok c')) := by
  obtain ⟨-, hs, hm⟩ := g.greeting hw
  refine ⟨hs, hm, ?_⟩
  rw [doCapabilities_eq] at h
  split at h
  · exact .inl ⟨by assumption, by simpa [hs] using h.symm⟩
  · exact .inr ⟨by assumption, by simpa [hs] using h⟩

/-- A tagged status is accepted only as the OK of the pending command: its state is assigned,
the registry emptied, and {lit}`command()` dispatches from it. -/
theorem taggedStatusEnd_cases {o : Options} {tag : String} {s : Status} {c c' : Client}
    (g : c.Good) (h : c.imapTaggedStatusEnd o tag s = .ok c') :
    s = .ok ∧ c.tagToState = [(tag, c.state.succ)] ∧ c.state ∈ State.waiting ∧
      { c.assign c.state.succ with tagToState := [] }.command o = .ok c' := by
  obtain ⟨hs, next, hl, hc⟩ := imapTaggedStatusEnd_ok h
  rcases g.tags with ⟨hm, -⟩ | ⟨t, hm, hw⟩
  · simp [hm] at hl
  obtain ⟨rfl, rfl⟩ := lookup_single (hm ▸ hl)
  exact ⟨hs, hm, hw, by simpa [eraseTag, hm] using hc⟩

/-- What a step from a client of the invariant can be: the tagged OK of the pending command and
the dispatch it triggers, another lexer callback, the greeting timer in ESTABLISHED and what it
triggers, or a quiet step. -/
theorem step_cases {o : Options} {c c' : Client} {e : Event} (g : c.Good)
    (he : c.enabled e = true) (h : c.step o e = .ok c') :
    (∃ tag, e = .callback (.taggedStatusEnd tag .ok) ∧ c.tagToState = [(tag, c.state.succ)] ∧
      c.state ∈ State.waiting ∧
      { c.assign c.state.succ with tagToState := [] }.command o = .ok c') ∨
    (∃ cb, e = .callback cb ∧ (∀ tag s, cb ≠ .taggedStatusEnd tag s) ∧
      c.callback o cb = .ok c') ∨
    (e = .loginTimer none ∧ c.state = .established ∧ c.tagToState = [] ∧
      ((c.capabilities = [] ∧ c' = ({ c with loginWaits := c.loginWaits - 1 }.probe
          (.capabilities .established)).request .capability .gotInitialCapabilities) ∨
        (c.capabilities ≠ [] ∧ (({ c with loginWaits := c.loginWaits - 1 }.probe
          (.capabilities .established)).assign .gotInitialCapabilities).command o = .ok c'))) ∨
    ((∀ r, e ≠ .loginTimer r) ∧ (∀ cb, e ≠ .callback cb) ∧ Quiet c c' e) := by
  by_cases hcb : ∃ cb, e = .callback cb
  · obtain ⟨cb, rfl⟩ := hcb
    by_cases ht : ∃ tag s, cb = .taggedStatusEnd tag s
    · obtain ⟨tag, s, rfl⟩ := ht
      obtain ⟨rfl, hc⟩ := taggedStatusEnd_cases g h
      exact .inl ⟨tag, rfl, hc⟩
    · push_neg at ht
      exact .inr (.inl ⟨cb, rfl, ht, h⟩)
  by_cases hlt : ∃ r, e = .loginTimer r
  · obtain ⟨r, rfl⟩ := hlt
    cases r with
    | some ec => cases h
    | none =>
      simp only [enabled, Bool.and_eq_true, bne_iff_ne] at he
      exact .inr (.inr (.inl ⟨rfl, loginTimer_cases g he.2 h⟩))
  push_neg at hcb hlt
  exact .inr (.inr (.inr ⟨hlt, hcb, step_quiet hlt hcb h⟩))

/-- The timer of the greeting: `do_capabilities` in ESTABLISHED with the registry empty. -/
theorem loginTimer_good {o : Options} {c c' : Client} (g : c.Good) (hw : c.loginWaits ≠ 0)
    (h : { c with loginWaits := c.loginWaits - 1 }.doCapabilities o = .ok c') : c'.Good := by
  obtain ⟨hw1, -, -⟩ := g.greeting hw
  obtain ⟨hs, hm, ⟨-, rfl⟩ | ⟨-, h⟩⟩ := loginTimer_cases g hw h
  all_goals
    have hopen := g.state_of_opening (by simp [hs])
    have hr : c.reads = if c.inRead = false then 1 else 0 := by rw [g.reads]; simp [hs]
  · constructor <;> simp_all [TagsAgree, setTag, g.trace]
  · obtain ⟨ht, hl, hd, hlo, hr', hi, hw', hres, hcon, hhs⟩ :=
      command_good (by simp [hs]) (by simp [hm]) (by simp [g.trace, hs]) h
    have hlo' : c'.state ≠ .loggedOut := by rw [Ne, hlo]; simp
    simp only [assign, probe] at hr' hi hw' hres hcon hhs
    exact {
      tags := ht
      opening := by omega
      openingState := fun _ => by omega
      greeting := fun h => by omega
      reads := by
        simp only [State.disconnected, ne_eq, State.loggedOut] at hd hlo'
        rw [hr', hi, hr]
        simp [hd, hlo']
      inRead := fun _ => hd
      trace := hl }

/-- The tagged OK of the pending command: its state is assigned and `command()` dispatches from
it. -/
theorem taggedStatusEnd_good {o : Options} {tag : String} {s : Status} {c c' : Client}
    (g : c.Good) (hin : c.inRead = true) (h : c.imapTaggedStatusEnd o tag s = .ok c') :
    c'.Good := by
  obtain ⟨-, hm, hw, hc⟩ := taggedStatusEnd_cases g h
  obtain ⟨ht, htr, hd, -, hr, hi, hlw, hres, hcon, hhs⟩ :=
    command_good (State.succ_mem_dispatched hw) rfl (by simp [g.trace]) hc
  have hopen := g.state_of_opening (g.inRead hin)
  have hlw0 := g.loginWaits_of_pending (by simp [hm])
  have hr0 := g.reads_of_inRead hin
  simp only [assign] at hr hi hlw hres hcon hhs
  exact {
    tags := ht
    opening := by omega
    openingState := fun _ => by omega
    greeting := fun _ => by omega
    reads := by rw [hr, hi, hr0, if_neg (by simp [hin])]
    inRead := fun _ => hd
    trace := htr }

/-- A lexer callback other than a tagged status leaves the session's progress alone. -/
theorem callback_frame {o : Options} {c c' : Client} {cb : Callback}
    (hcb : ∀ tag s, cb ≠ .taggedStatusEnd tag s) (h : c.callback o cb = .ok c') :
    SessionFrame c c' := by
  have frame : ∀ {c'}, c'.state = c.state → c'.tagToState = c.tagToState →
      c'.resolving = c.resolving → c'.connecting = c.connecting →
      c'.handshaking = c.handshaking → c'.loginWaits = c.loginWaits → c'.reads = c.reads →
      c'.inRead = c.inRead → c'.trace = c.trace → SessionFrame c c' :=
    fun a b c d e f g h i => ⟨a, b, by rw [c, d, e], f, g, h, i⟩
  cases cb with
  | taggedStatusEnd tag s => exact absurd rfl (hcb tag s)
  | bodySectionInner =>
    simp only [callback, Except.ok.injEq] at h
    subst h
    unfold imapBodySectionInner
    split
    · split <;> exact frame rfl rfl rfl rfl rfl rfl rfl rfl rfl
    · exact frame rfl rfl rfl rfl rfl rfl rfl rfl rfl
  | bodySectionEnd =>
    simp only [callback, imapBodySectionEnd] at h
    split at h
    · split at h
      · split at h <;>
        · obtain ⟨m, -, rfl⟩ := exceptMap_eq_ok h
          exact frame rfl rfl rfl rfl rfl rfl rfl rfl rfl
      · cases h; exact frame rfl rfl rfl rfl rfl rfl rfl rfl rfl
    · cases h; exact frame rfl rfl rfl rfl rfl rfl rfl rfl rfl
  | uid n =>
    simp only [callback, Except.ok.injEq] at h
    subst h
    unfold imapUid
    split <;> exact frame rfl rfl rfl rfl rfl rfl rfl rfl rfl
  | write bs =>
    simp only [callback, Except.ok.injEq] at h
    subst h
    unfold push
    split <;> exact frame rfl rfl rfl rfl rfl rfl rfl rfl rfl
  | _ =>
    simp only [callback, Except.ok.injEq] at h
    subst h
    exact frame rfl rfl rfl rfl rfl rfl rfl rfl rfl

/-- Every step of the event loop keeps the invariant. -/
theorem step_good {o : Options} {c c' : Client} {e : Event} (g : c.Good)
    (he : c.enabled e = true) (h : c.step o e = .ok c') : c'.Good := by
  cases e with
  | resolved r =>
    cases r with
    | some ec => cases h
    | none =>
      simp only [step, onResolve, doConnect, emit, Except.ok.injEq] at h
      subst h
      simp only [enabled, Bool.and_eq_true, bne_iff_ne] at he
      exact g.frame ⟨rfl, rfl, by simp; omega, rfl, rfl, rfl, rfl⟩
  | connected r =>
    cases r with
    | some ec => cases h
    | none =>
      simp only [step, onConnect, doHandshake, emit, Except.ok.injEq] at h
      subst h
      simp only [enabled, Bool.and_eq_true, bne_iff_ne] at he
      exact g.frame ⟨rfl, rfl, by simp; omega, rfl, rfl, rfl, rfl⟩
  | handshaken r =>
    cases r with
    | some ec => cases h
    | none =>
      simp only [step, onHandshake, assign, doRead, doPreLogin, emit, Except.ok.injEq] at h
      subst h
      simp only [enabled, Bool.and_eq_true, bne_iff_ne, Bool.not_eq_true'] at he
      have hs := g.openingState (by omega)
      have hm : c.tagToState = [] := by
        rcases g.tags with ⟨hm, -⟩ | ⟨t, -, hw⟩
        · exact hm
        · simp [hs] at hw
      have hlw : c.loginWaits = 0 := Classical.byContradiction fun hw => by
        simp [(g.greeting hw).2.1] at hs
      have hr : c.reads = 0 := by rw [g.reads, if_neg (by simp [hs])]
      have hopen := g.opening
      exact {
        tags := .inl ⟨by simp [hm], by simp⟩
        opening := by simp; omega
        openingState := fun h0 => by simp only at h0; omega
        greeting := fun _ => by simp [hm, hlw]
        reads := by simp [hr, he.1]
        inRead := fun _ => by simp
        trace := by simp [g.trace, hs] }
  | loginTimer r =>
    cases r with
    | some ec => cases h
    | none =>
      simp only [enabled, Bool.and_eq_true, bne_iff_ne] at he
      exact loginTimer_good g he.2 h
  | fetchTimer r =>
    cases r with
    | some ec =>
      simp only [step, onFetchTimer] at h
      split at h
      · cases h; exact g.frame ⟨rfl, rfl, rfl, rfl, rfl, rfl, rfl⟩
      · cases h
    | none =>
      simp only [step, onFetchTimer, resumeFetchTimer, emit, Except.ok.injEq] at h
      subst h
      exact g.frame ⟨rfl, rfl, rfl, rfl, rfl, rfl, rfl⟩
  | signal r n =>
    cases r with
    | some ec =>
      simp only [step, onSignal] at h
      split at h
      · cases h; exact g.frame ⟨rfl, rfl, rfl, rfl, rfl, rfl, rfl⟩
      · cases h
    | none =>
      simp only [step, onSignal, doQuit, doShutdown, doSignalWait, emit] at h
      split at h
      · cases h
      · cases h; exact g.frame ⟨rfl, rfl, rfl, rfl, rfl, rfl, rfl⟩
  | shutdown r =>
    simp only [step, onShutdown, emit] at h
    split at h
    · cases h; exact g.frame ⟨rfl, rfl, rfl, rfl, rfl, rfl, rfl⟩
    · split at h
      · cases h; exact g.frame ⟨rfl, rfl, rfl, rfl, rfl, rfl, rfl⟩
      · split at h
        · cases h; exact g.frame ⟨rfl, rfl, rfl, rfl, rfl, rfl, rfl⟩
        · cases h
  | readFailed ec =>
    simp only [enabled, Bool.and_eq_true, bne_iff_ne, Bool.not_eq_true'] at he
    have hlo := (g.reads_pos he.2).2.2
    simp only [State.loggedOut, ne_eq] at hlo
    simp [step, onReadError, hlo] at h
  | readData =>
    simp only [step, Except.ok.injEq] at h
    subst h
    simp only [enabled, Bool.and_eq_true, bne_iff_ne, Bool.not_eq_true'] at he
    have hr : c.reads = 1 := by rw [g.reads, if_pos (g.reads_pos he.2)]
    exact ⟨g.tags, g.opening, g.openingState, g.greeting, by simp [hr],
      fun _ => (g.reads_pos he.2).2.1, g.trace⟩
  | callback cb =>
    simp only [enabled] at he
    by_cases ht : ∃ tag s, cb = .taggedStatusEnd tag s
    · obtain ⟨tag, s, rfl⟩ := ht
      exact taggedStatusEnd_good g he h
    · push_neg at ht
      exact g.frame (callback_frame ht h)
  | readEnd =>
    simp only [step, Except.ok.injEq] at h
    subst h
    simp only [enabled] at he
    have hr := g.reads_of_inRead he
    have hd := g.inRead he
    unfold onReadEnd
    split <;> rename_i hlo
    all_goals simp only [State.loggedOut, State.disconnected, ne_eq, Decidable.not_not] at hlo hd
    · exact ⟨g.tags, g.opening, g.openingState, g.greeting, by simp [hr, hd, hlo],
        fun _ => by simpa using hd, by simp [g.trace]⟩
    · exact ⟨g.tags, g.opening, g.openingState, g.greeting, by simp [hr, hlo],
        fun h => by simp at h, g.trace⟩

/-- Every client a run passes through satisfies the invariant. -/
theorem Run.good {o : Options} {c : Client} {h : List (State × Event)} (r : Run o c h) :
    c.Good := by
  induction r with
  | start => exact new_good
  | step _ he hs ih => exact step_good ih he hs

theorem Reachable.good {o : Options} {c : Client} (hr : Reachable o c) : c.Good :=
  let ⟨_, r⟩ := hr
  r.good

theorem Reachable.step {o : Options} {c c' : Client} {e : Event} (hr : Reachable o c)
    (he : c.enabled e = true) (hs : c.step o e = .ok c') : Reachable o c' :=
  let ⟨_, r⟩ := hr
  ⟨_, .step r he hs⟩

/-- A property that every step from a reachable client keeps holds at the end of the events of
a run that starts where it holds. -/
theorem Reachable.exec_induction {o : Options} (Q : Client → Prop)
    (hstep : ∀ {c c' : Client} {e : Event}, Reachable o c → Q c → c.enabled e = true →
      c.step o e = .ok c' → Q c')
    {c c' : Client} {es : List Event} (hr : Reachable o c) (hq : Q c)
    (hx : c.exec o es = some c') : Q c' := by
  induction es generalizing c with
  | nil => cases hx; exact hq
  | cons e es ih =>
    unfold Client.exec at hx
    split at hx
    · rename_i he
      split at hx
      · rename_i c₁ hs
        exact ih (hr.step he hs) (hstep hr hq he hs) hx
      · cases hx
    · cases hx

/-- The events of a run from a reachable client lead to a reachable client. -/
theorem Reachable.exec {o : Options} {c c' : Client} {es : List Event} (hr : Reachable o c)
    (hx : c.exec o es = some c') : Reachable o c' :=
  Reachable.exec_induction (Reachable o) (fun hr _ he hs => hr.step he hs) hr hr hx

/-! ## The registry, the range of the state and the control flow -/

/-- The states the registry allows: those of a pending command and those of an idle one. -/
theorem State.range : ∀ s ∈ State.waiting ++ State.idle,
    State.disconnected ≤ s ∧ s ≤ State.loggedOut ∧ s.str?.isSome ∧ s.succ.str?.isSome := by
  decide

theorem Good.state_mem {c : Client} (g : c.Good) : c.state ∈ State.waiting ++ State.idle := by
  rcases g.tags with ⟨-, hs⟩ | ⟨-, -, hs⟩
  · exact List.mem_append_right _ hs
  · exact List.mem_append_left _ hs

/-! ## A session in FETCHING -/

/-- Options that log in as {lit}`user`, copy {lit}`INBOX` with a greeting wait of 500 ms, and
delete what was fetched. -/
def sampleOptions : Options := ⟨"user", "secret", "INBOX", 500, true⟩

/-- The spec's happy path up to FETCHING: the greeting timer asks for the capabilities, LOGIN
and SELECT are answered, the mailbox has two messages, and FETCH is pending under A4. -/
def toFetching : List Event :=
  [.resolved none, .connected none, .handshaken none, .loginTimer none, .readData,
   .callback (.capability ⟨"IMAP4rev1"⟩), .callback (.taggedStatusEnd "A1" .ok),
   .callback (.capability ⟨"IMAP4rev1"⟩), .callback (.taggedStatusEnd "A2" .ok),
   .callback (.dataExists 2), .callback (.taggedStatusEnd "A3" .ok), .readEnd]

/-- The session after {lit}`toFetching`. -/
def fetchingClient : Client := (new.exec sampleOptions toFetching).getD new

theorem exec_toFetching : new.exec sampleOptions toFetching = some fetchingClient := by
  decide

theorem fetchingClient_reachable : Reachable sampleOptions fetchingClient :=
  Reachable.exec ⟨[], .start⟩ exec_toFetching

/-! ## The invariant's consequences -/

/-- After every event of every run: the registry holds at most one tag, filed under the next
state while a command is pending; the state stays within DISCONNECTED..LOGGED_OUT, where
{lit}`state_map` has a name for it and for the next state; every assignment to
{lit}`state_` has increased it; and {lit}`do_capabilities` and {lit}`command()` ran only in
the states the dispatch table foresees. -/
theorem session_invariant {o : Options} {c : Client} (hr : Reachable o c) :
    c.tagToState.length ≤ 1 ∧
    (∀ t s, (t, s) ∈ c.tagToState → s = c.state.succ ∧ c.state ∈ State.waiting) ∧
    (c.tagToState = [] → c.state ∈ State.idle) ∧
    (State.disconnected ≤ c.state ∧ c.state ≤ State.loggedOut) ∧
    (c.state.str?.isSome ∧ c.state.succ.str?.isSome) ∧
    (∀ a b, Probe.assign a b ∈ c.trace → a < b) ∧
    (∀ s, Probe.capabilities s ∈ c.trace → s = .established ∨ s = .loggedIn) ∧
    (∀ s, Probe.command s ∈ c.trace → s ∈ State.dispatched) := by
  obtain ⟨h, r⟩ := hr
  have g := r.good
  obtain ⟨hlo, hhi, hn, hn'⟩ := State.range _ g.state_mem
  refine ⟨?_, ?_, ?_, ⟨hlo, hhi⟩, ⟨hn, hn'⟩, fun a b hp => g.trace _ hp,
    fun s hp => g.trace _ hp, fun s hp => g.trace _ hp⟩
  all_goals rcases g.tags with ⟨hm, hs⟩ | ⟨t, hm, hs⟩ <;> simp_all

theorem session_invariant_fetching :
    Reachable sampleOptions fetchingClient ∧ (fetchingClient.tagToState.length ≤ 1 ∧
    (∀ t s, (t, s) ∈ fetchingClient.tagToState →
      s = fetchingClient.state.succ ∧ fetchingClient.state ∈ State.waiting) ∧
    (fetchingClient.tagToState = [] → fetchingClient.state ∈ State.idle) ∧
    (State.disconnected ≤ fetchingClient.state ∧ fetchingClient.state ≤ State.loggedOut) ∧
    (fetchingClient.state.str?.isSome ∧ fetchingClient.state.succ.str?.isSome) ∧
    (∀ a b, Probe.assign a b ∈ fetchingClient.trace → a < b) ∧
    (∀ s, Probe.capabilities s ∈ fetchingClient.trace → s = .established ∨ s = .loggedIn) ∧
    (∀ s, Probe.command s ∈ fetchingClient.trace → s ∈ State.dispatched)) :=
  ⟨fetchingClient_reachable, session_invariant fetchingClient_reachable⟩

/-- One read at a time: at most one is pending; between handlers, once the handshake is done
and until LOGGED_OUT, exactly one is; none is pending in LOGGED_OUT, and a read error, the
only completion that could still be delivered there, always raises. -/
theorem single_read {o : Options} {c : Client} (hr : Reachable o c) :
    c.reads ≤ 1 ∧
    (c.inRead = false → c.state ≠ .disconnected → c.state ≠ .loggedOut → c.reads = 1) ∧
    (c.reads ≠ 0 → c.state ≠ .loggedOut) ∧
    (∀ ec, c.enabled (.readFailed ec) = true → c.step o (.readFailed ec) = .error (.error ec)) := by
  obtain ⟨h, r⟩ := hr
  have g := r.good
  have hlo : c.reads ≠ 0 → c.state ≠ .loggedOut := fun h0 => (g.reads_pos h0).2.2
  refine ⟨?_, fun hi hd hl => ?_, hlo, fun ec he => ?_⟩
  · rw [g.reads]; split <;> omega
  · rw [g.reads, if_pos ⟨hi, hd, hl⟩]
  · simp only [enabled, Bool.and_eq_true, bne_iff_ne] at he
    have := hlo he.2
    simp only [State.loggedOut, ne_eq] at this
    simp [step, onReadError, this]

theorem single_read_fetching :
    Reachable sampleOptions fetchingClient ∧ (fetchingClient.reads ≤ 1 ∧
    (fetchingClient.inRead = false → fetchingClient.state ≠ .disconnected →
      fetchingClient.state ≠ .loggedOut → fetchingClient.reads = 1) ∧
    (fetchingClient.reads ≠ 0 → fetchingClient.state ≠ .loggedOut) ∧
    (∀ ec, fetchingClient.enabled (.readFailed ec) = true →
      fetchingClient.step sampleOptions (.readFailed ec) = .error (.error ec))) :=
  ⟨fetchingClient_reachable, single_read fetchingClient_reachable⟩

end Client
end Imapdl
